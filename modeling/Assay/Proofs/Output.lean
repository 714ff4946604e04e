import Assay.Output
import Mathlib.Data.List.Forall2
import Mathlib.Data.List.TakeWhile
import Mathlib.Tactic.SplitIfs

/-!
# Lines of an output

A newline ends a line whatever stands before it, so an output that ends in one can be read apart
from what follows. No byte of ASCII is ever part of a longer character: an unfinished character
before it is given up, and the text goes on as if it began there. Line ends are therefore trimmed
from the text of a line however the bytes before them are cut. An output is read up to a newline, or
else to its end.
-/

namespace Assay

/-! ## Bytes of ASCII in a text -/

namespace Utf8

/-- The byte that is waited for inside a character is none of ASCII. -/
def State.PastAscii : State → Prop
  | .between => True
  | .inside _ _ least _ => 0x80 ≤ least

theorem pastAscii_begin (byte : Nat) : (begin byte).2.PastAscii := by
  unfold begin
  split_ifs <;> simp [State.PastAscii]

theorem pastAscii_step (state : State) (byte : Nat) : (step state byte).2.PastAscii := by
  cases state with
  | between => exact pastAscii_begin byte
  | inside code left least greatest =>
      simp only [step]
      split_ifs
      · trivial
      · exact Nat.le_refl 0x80
      · exact pastAscii_begin byte

theorem decodeFrom_cons (state : State) (byte : UInt8) (rest : List UInt8) :
    decodeFrom state (byte :: rest) =
      (step state byte.toNat).1 ++ decodeFrom (step state byte.toNat).2 rest := by
  cases state <;> rfl

/-- A byte of ASCII completes whatever is under way and is a character of its own. -/
theorem step_ascii {state : State} (past : state.PastAscii) {byte : Nat} (ascii : byte < 0x80) :
    step state byte = (decodeFrom state [] ++ [Char.ofNat byte], .between) := by
  cases state with
  | between => simp [step, begin, decodeFrom, ascii]
  | inside code left least greatest =>
      have below : ¬(least ≤ byte ∧ byte ≤ greatest) := fun ⟨reached, _⟩ => by
        have : 0x80 ≤ least := past
        omega
      simp [step, begin, decodeFrom, ascii, below]

theorem decodeFrom_append_ascii {state : State} (past : state.PastAscii) (front : List UInt8)
    {byte : UInt8} (ascii : byte.toNat < 0x80) (back : List UInt8) :
    decodeFrom state (front ++ byte :: back) =
      decodeFrom state front ++ Char.ofNat byte.toNat :: decodeFrom .between back := by
  induction front generalizing state with
  | nil => simp [decodeFrom_cons, step_ascii past ascii]
  | cons head front ih =>
      rw [List.cons_append, decodeFrom_cons, decodeFrom_cons, ih (pastAscii_step state head.toNat),
        List.append_assoc]

/-- Bytes of ASCII at the end are read one by one. -/
theorem decode_append_ascii (front : List UInt8) {back : List UInt8}
    (ascii : ∀ byte ∈ back, byte.toNat < 0x80) :
    decode (front ++ back) = decode front ++ back.map fun byte => Char.ofNat byte.toNat := by
  induction back generalizing front with
  | nil => simp
  | cons byte back ih =>
      have here : byte.toNat < 0x80 := ascii byte List.mem_cons_self
      have rest : decode back = back.map fun byte => Char.ofNat byte.toNat :=
        ih [] fun other mem => ascii other (List.mem_cons_of_mem _ mem)
      have between : State.between.PastAscii := trivial
      calc
        decode (front ++ byte :: back) = decode front ++ Char.ofNat byte.toNat :: decode back :=
          decodeFrom_append_ascii between front here back
        _ = decode front ++ (byte :: back).map fun byte => Char.ofNat byte.toNat := by
          rw [rest, List.map_cons]

end Utf8

theorem Text.dropEnd_append_of_all {test : Char → Bool} (front : List Char) {back : List Char}
    (all : ∀ char ∈ back, test char = true) : dropEnd test (front ++ back) = dropEnd test front := by
  have all_reverse : ∀ char ∈ back.reverse, test char = true := by simpa using all
  simp only [dropEnd, List.reverse_append, List.dropWhile_append_of_pos all_reverse]

namespace Output

/-! ## One line after the other -/

theorem splitLines_newline (rest : List UInt8) :
    splitLines (newline :: rest) = [] :: splitLines rest := by
  rw [splitLines, if_pos rfl]

theorem splitLines_eq_nil_iff {bytes : List UInt8} : splitLines bytes = [] ↔ bytes = [] := by
  fun_cases splitLines bytes <;> simp_all

/-- A newline ends the line before it. -/
theorem splitLines_line {line : List UInt8} (unbroken : newline ∉ line) (rest : List UInt8) :
    splitLines (line ++ newline :: rest) = line :: splitLines rest := by
  induction line with
  | nil => exact splitLines_newline rest
  | cons byte line ih =>
      obtain ⟨distinct, unbroken⟩ := not_or.mp (mt List.mem_cons.mpr unbroken)
      rw [List.cons_append, splitLines, if_neg (Ne.symm distinct), ih unbroken]

/-- After a newline, lines are read as from the start. -/
theorem splitLines_append {front : List UInt8}
    (terminated : front = [] ∨ front.getLast? = some newline) (back : List UInt8) :
    splitLines (front ++ back) = splitLines front ++ splitLines back := by
  fun_induction splitLines front with
  | case1 => rfl
  | case2 rest ih =>
      have rest_terminated : rest = [] ∨ rest.getLast? = some newline := by
        cases rest with
        | nil => exact .inl rfl
        | cons next rest => simpa using terminated
      rw [List.cons_append, splitLines_newline, ih rest_terminated, List.cons_append]
  | case3 byte rest distinct no_lines ih =>
      cases splitLines_eq_nil_iff.mp no_lines
      simp [distinct] at terminated
  | case4 byte rest distinct line lines some_lines ih =>
      have some_rest : rest ≠ [] := fun none => by simp [none, splitLines] at some_lines
      rw [List.getLast?_cons_of_ne_nil some_rest] at terminated
      rw [List.cons_append, splitLines, if_neg distinct, ih (.inr (by simpa using terminated)),
        some_lines]
      rfl

theorem splitLines_unbroken {line : List UInt8} (nonempty : line ≠ [])
    (unbroken : newline ∉ line) : splitLines line = [line] := by
  induction line with
  | nil => contradiction
  | cons byte line ih =>
      obtain ⟨distinct, unbroken⟩ := not_or.mp (mt List.mem_cons.mpr unbroken)
      rw [splitLines, if_neg (Ne.symm distinct)]
      cases line with
      | nil => rfl
      | cons next line => rw [ih (List.cons_ne_nil next line) unbroken]

/-- An output consists of lines that have ended and of a rest without newlines. -/
theorem exists_lastLine (bytes : List UInt8) :
    ∃ front line, bytes = front ++ line ∧ (front = [] ∨ front.getLast? = some newline) ∧
      newline ∉ line := by
  induction bytes with
  | nil => exact ⟨[], [], rfl, .inl rfl, List.not_mem_nil⟩
  | cons byte bytes ih =>
      obtain ⟨front, line, rfl, terminated, unbroken⟩ := ih
      rcases terminated with rfl | terminated
      · by_cases ends : byte = newline
        · subst ends
          exact ⟨[newline], line, rfl, .inr rfl, unbroken⟩
        · refine ⟨[], byte :: line, rfl, .inl rfl, fun mem => ?_⟩
          exact (List.mem_cons.mp mem).elim (Ne.symm ends) unbroken
      · have some_front : front ≠ [] := fun none => by simp [none] at terminated
        rw [← List.getLast?_cons_of_ne_nil some_front] at terminated
        exact ⟨byte :: front, line, rfl, .inr terminated, unbroken⟩

/-! ## Carriage returns before newlines -/

/-- The byte that is put before newlines in another style of line ends. -/
def carriageReturn : UInt8 := 13

/-- Bytes that come of others by putting carriage returns right before newlines, any number before
each. -/
inductive Padded : List UInt8 → List UInt8 → Prop
  /-- There is nothing before the end. -/
  | nil : Padded [] []
  /-- A byte stays. -/
  | byte {bytes padded : List UInt8} (byte : UInt8) (after : Padded bytes padded) :
      Padded (byte :: bytes) (byte :: padded)
  /-- Carriage returns are put before a newline. -/
  | newline {bytes padded : List UInt8} (count : Nat) (after : Padded bytes padded) :
      Padded (newline :: bytes) (List.replicate count carriageReturn ++ newline :: padded)

/-- The same lines, but for carriage returns at their ends. -/
theorem Padded.forall₂_splitLines {bytes padded : List UInt8} (pads : Padded bytes padded) :
    List.Forall₂ (fun line other => ∃ count, other = line ++ List.replicate count carriageReturn)
      (splitLines bytes) (splitLines padded) := by
  induction pads with
  | nil => exact .nil
  | @byte bytes padded byte after ih =>
      by_cases ends : byte = Output.newline
      · subst ends
        rw [splitLines_newline, splitLines_newline]
        exact .cons ⟨0, rfl⟩ ih
      · rw [Output.splitLines, Output.splitLines, if_neg ends, if_neg ends]
        generalize Output.splitLines bytes = lines, Output.splitLines padded = others at ih ⊢
        cases ih with
        | nil => exact .cons ⟨0, rfl⟩ .nil
        | cons same rest =>
            obtain ⟨count, rfl⟩ := same
            exact .cons ⟨count, rfl⟩ rest
  | @newline bytes padded count after ih =>
      have unbroken : Output.newline ∉ List.replicate count carriageReturn := fun mem =>
        absurd (List.eq_of_mem_replicate mem) (by decide)
      rw [splitLines_newline, splitLines_line unbroken]
      exact .cons ⟨count, rfl⟩ ih

/-! ## The texts of all lines -/

/-- Line ends are no part of the text of a line, even where they cut off a character. -/
theorem lineText_append {ends : List UInt8}
    (all : ∀ byte ∈ ends, byte = newline ∨ byte = carriageReturn) (line : List UInt8) :
    lineText (line ++ ends) = lineText line := by
  have ascii : ∀ byte ∈ ends, byte.toNat < 0x80 := by
    intro byte mem
    rcases all byte mem with rfl | rfl <;> decide
  rw [lineText, Utf8.decode_append_ascii line ascii, lineText]
  apply Text.dropEnd_append_of_all
  intro char mem
  obtain ⟨byte, byte_mem, rfl⟩ := List.mem_map.mp mem
  rcases all byte byte_mem with rfl | rfl <;> decide

/-- The newline may be read as a part of the line that it ends. -/
theorem lines_line {line : List UInt8} (unbroken : newline ∉ line) (rest : List UInt8) :
    lines (line ++ newline :: rest) = lineText (line ++ [newline]) :: lines rest := by
  have all : ∀ byte ∈ [newline], byte = newline ∨ byte = carriageReturn := by simp
  rw [lines, splitLines_line unbroken, List.map_cons, ← lines, lineText_append all]

theorem lines_unbroken {line : List UInt8} (nonempty : line ≠ []) (unbroken : newline ∉ line) :
    lines line = [lineText line] := by
  rw [lines, splitLines_unbroken nonempty unbroken, List.map_singleton]

theorem lines_append {front : List UInt8}
    (terminated : front = [] ∨ front.getLast? = some newline) (back : List UInt8) :
    lines (front ++ back) = lines front ++ lines back := by
  rw [lines, splitLines_append terminated, List.map_append, ← lines, ← lines]

/-- A newline after the last line does not start another one. -/
theorem lines_append_newline {bytes : List UInt8} (nonempty : bytes ≠ [])
    (unterminated : bytes.getLast? ≠ some newline) : lines (bytes ++ [newline]) = lines bytes := by
  obtain ⟨front, line, rfl, terminated, unbroken⟩ := exists_lastLine bytes
  have some_line : line ≠ [] := by
    rintro rfl
    rw [List.append_nil] at nonempty unterminated
    exact terminated.elim nonempty unterminated
  have all : ∀ byte ∈ [newline], byte = newline ∨ byte = carriageReturn := by simp
  calc
    lines (front ++ line ++ [newline]) = lines front ++ lines (line ++ [newline]) := by
      rw [List.append_assoc, lines_append terminated]
    _ = lines front ++ lines line := by
      rw [lines_line unbroken, lines_unbroken some_line unbroken, lineText_append all]
      rfl
    _ = lines (front ++ line) := (lines_append terminated line).symm

theorem Padded.lines_eq {bytes padded : List UInt8} (pads : Padded bytes padded) :
    lines padded = lines bytes := by
  rw [lines, lines, ← List.forall₂_eq_eq_eq, List.forall₂_map_left_iff, List.forall₂_map_right_iff]
  refine pads.forall₂_splitLines.flip.imp ?_
  rintro _ line ⟨count, rfl⟩
  exact lineText_append (fun _ mem => .inr (List.eq_of_mem_replicate mem)) line

/-! ## Reading lines -/

section

variable {line bytes : List UInt8} {failure : Option String}

theorem ne_newline_of_unbroken (unbroken : newline ∉ line) :
    ∀ byte ∈ line, (byte != newline) = true := by
  intro byte mem
  rw [bne_iff_ne]
  rintro rfl
  exact unbroken mem

theorem readLine_newline (unbroken : newline ∉ line) :
    readLine ⟨line ++ newline :: bytes, failure⟩ =
      .ok (some (line ++ [newline], ⟨bytes, failure⟩)) := by
  have apart := ne_newline_of_unbroken unbroken
  simp [readLine, List.takeWhile_append_of_pos apart, List.dropWhile_append_of_pos apart]

/-- Without a newline, the last bytes are read as a line if reading goes on to their end. -/
theorem readLine_unbroken (unbroken : newline ∉ line) :
    readLine ⟨line, failure⟩ =
      match failure with
      | some cause => .error cause
      | none => .ok (if line = [] then none else some (line, ⟨[], none⟩)) := by
  have apart := ne_newline_of_unbroken unbroken
  have taken := List.takeWhile_eq_self_iff.mpr apart
  have dropped := List.dropWhile_eq_nil_iff.mpr apart
  cases failure <;> simp [readLine, taken, dropped]

end

end Output

end Assay
