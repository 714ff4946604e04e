import Assay.Text
import Assay.Text.Utf8

/-!
# Test output

The output of a test is a sequence of bytes that may break off in a failure to read on. It is read
line by line; line ends do not belong to the text of a line.
-/

namespace Assay

/-- What reading the output of a test yields. -/
structure Output where
  /-- The bytes. -/
  bytes : List UInt8
  /-- Why reading fails after the bytes, if it does. -/
  failure : Option String

namespace Output

/-- The byte that ends a line. -/
def newline : UInt8 := 10

/-- The bytes of each line. A newline at the very end starts no further line. -/
def splitLines : List UInt8 → List (List UInt8)
  | [] => []
  | byte :: rest =>
    if byte = newline then [] :: splitLines rest
    else
      match splitLines rest with
      | [] => [[byte]]
      | line :: lines => (byte :: line) :: lines

/-- The text of a line. -/
def lineText (bytes : List UInt8) : List Char :=
  Text.dropEnd (fun char => char == '\n' || char == '\r') (Utf8.decode bytes)

/-- The texts of all lines. -/
def lines (bytes : List UInt8) : List (List Char) := (splitLines bytes).map lineText

/-- What reading a line yields: the bytes up to a newline, or the last ones before the end, with
what is left after them; nothing at the end. Bytes before a failure without a newline are lost. -/
def readLine (output : Output) : Except String (Option (List UInt8 × Output)) :=
  let line := output.bytes.takeWhile (· != newline)
  match output.bytes.dropWhile (· != newline) with
  | byte :: rest => .ok (some (line ++ [byte], { output with bytes := rest }))
  | [] =>
    match output.failure with
    | some cause => .error cause
    | none => .ok (if line = [] then none else some (line, ⟨[], none⟩))

/-- A line takes one byte at least. -/
theorem length_readLine {output rest : Output} {line : List UInt8}
    (read : output.readLine = .ok (some (line, rest))) :
    rest.bytes.length < output.bytes.length := by
  have dropped := (List.dropWhile_sublist (· != newline) (l := output.bytes)).length_le
  simp only [readLine] at read
  split at read
  · rename_i byte after newline_left
    cases read
    rw [newline_left] at dropped
    exact dropped
  · split at read
    · cases read
    · split at read
      · cases read
      · rename_i some_line
        cases read
        apply List.length_pos_iff.mpr
        intro empty
        exact some_line (by rw [empty]; rfl)

end Output

end Assay
