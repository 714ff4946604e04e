/-!
# Reading bytes as text

Bytes are read as UTF-8. Where they are not, each longest start of a character that breaks off
there, or else each single byte, is read as the replacement character.
-/

namespace Assay.Utf8

/-- What is read for bytes that are no character. -/
def replacement : Char := '\ufffd'

/-- Between characters, or inside one. -/
inductive State where
  /-- Between characters. -/
  | between
  /-- Inside a character, with the bits read so far, the number of bytes still to come and the
  bounds of the next one. -/
  | inside (code : Nat) (left : Nat) (least greatest : Nat)
  deriving DecidableEq, Repr

/-- The text that a byte completes between characters, and the state after it. -/
def begin (byte : Nat) : List Char × State :=
  if byte < 0x80 then ([Char.ofNat byte], .between)
  else if byte < 0xC2 then ([replacement], .between)
  else if byte < 0xE0 then ([], .inside (byte - 0xC0) 1 0x80 0xBF)
  else if byte = 0xE0 then ([], .inside 0 2 0xA0 0xBF)
  else if byte = 0xED then ([], .inside 0xD 2 0x80 0x9F)
  else if byte < 0xF0 then ([], .inside (byte - 0xE0) 2 0x80 0xBF)
  else if byte = 0xF0 then ([], .inside 0 3 0x90 0xBF)
  else if byte < 0xF4 then ([], .inside (byte - 0xF0) 3 0x80 0xBF)
  else if byte = 0xF4 then ([], .inside 4 3 0x80 0x8F)
  else ([replacement], .between)

/-- The text that a byte completes, and the state after it. A byte that does not go on with the
character begins another one. -/
def step : State → Nat → List Char × State
  | .between, byte => begin byte
  | .inside code left least greatest, byte =>
    if least ≤ byte ∧ byte ≤ greatest then
      let code := code * 64 + (byte - 0x80)
      if left = 1 then ([Char.ofNat code], .between) else ([], .inside code (left - 1) 0x80 0xBF)
    else
      let (text, state) := begin byte
      (replacement :: text, state)

/-- Reads bytes from a state on. -/
def decodeFrom : State → List UInt8 → List Char
  | .between, [] => []
  | .inside _ _ _ _, [] => [replacement]
  | state, byte :: rest =>
    let (text, state) := step state byte.toNat
    text ++ decodeFrom state rest

/-- Reads bytes as text. -/
def decode (bytes : List UInt8) : List Char := decodeFrom .between bytes

/-- Reads bytes as text if they are UTF-8 throughout. -/
def decode? (bytes : List UInt8) : Option String :=
  String.fromUTF8? ⟨bytes.toArray⟩

end Assay.Utf8
