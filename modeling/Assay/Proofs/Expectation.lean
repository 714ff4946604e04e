import Assay.Expectation
import Assay.Proofs.Decimal.Reading
import Assay.Proofs.Binary64.Order
import Assay.Proofs.Outcome

/-!
# Expected ranges

A range is split at the first place of its entry where a lower end stands right before a dash; of
the lower ends there the longest is taken, and the upper end goes on to the end of the line. What is
before and behind is passed over. Ranges between numerals are read as they are written, and every
range that is read has its ends in order.
-/

namespace Assay.Expectation

open Outcome

/-! ## Lower ends -/

/-- Digits with a point among them at most. -/
inductive Plain : List Char → Prop where
  | whole {digits : List Char} (digits_ok : ∀ char ∈ digits, Text.isDigit char = true) :
      Plain digits
  | pointed {whole fraction : List Char} (whole_ok : ∀ char ∈ whole, Text.isDigit char = true)
      (fraction_ok : ∀ char ∈ fraction, Text.isDigit char = true) :
      Plain (whole ++ '.' :: fraction)

/-- The text of a lower end: digits with a point among them at most, and a minus in front at most. -/
inductive LowerEnd : List Char → Prop where
  | plain {text : List Char} (plain : Plain text) : LowerEnd text
  | minus {text : List Char} (plain : Plain text) : LowerEnd ('-' :: text)

/-- The digits at the front of a text can be told from the rest. -/
theorem exists_digits_append (chars : List Char) : ∃ digits rest, chars = digits ++ rest ∧
    (∀ char ∈ digits, Text.isDigit char = true) ∧ Decimal.Digitless rest := by
  refine ⟨chars.takeWhile Text.isDigit, chars.dropWhile Text.isDigit,
    List.takeWhile_append_dropWhile.symm, fun _ => List.mem_takeWhile_imp, fun char first => ?_⟩
  have stops := List.head?_dropWhile_not Text.isDigit chars
  rwa [Option.mem_def.mp first] at stops

/-- What a numeral with given digits in front and its dash are, by what follows these digits. -/
def afterWhole? (whole : List Char) : List Char → Option (List Char × List Char)
  | '.' :: others =>
    match others.dropWhile Text.isDigit with
    | '-' :: rest => some (whole ++ '.' :: others.takeWhile Text.isDigit, rest)
    | _ => none
  | '-' :: rest => some (whole, rest)
  | _ => none

theorem numeralBeforeDash?_append {whole after : List Char}
    (whole_ok : ∀ char ∈ whole, Text.isDigit char = true) (digitless : Decimal.Digitless after) :
    numeralBeforeDash? (whole ++ after) = afterWhole? whole after := by
  rw [numeralBeforeDash?, Decimal.takeWhile_digits_append whole_ok digitless,
    Decimal.dropWhile_digits_append whole_ok digitless]
  cases after with
  | nil => rfl
  | cons first others =>
      by_cases point : first = '.'
      · subst point
        simp only [List.append_assoc, List.cons_append, List.nil_append]
        rfl
      · have stops : Text.isDigit first = false := digitless first rfl
        by_cases dash : first = '-'
        · subst dash
          simp [stops, afterWhole?]
        · simp [point, dash, stops, afterWhole?]

/-- Where plain digits stand before a dash they are found, and nothing else is. -/
theorem numeralBeforeDash?_eq_some_iff {chars numeral rest : List Char} :
    numeralBeforeDash? chars = some (numeral, rest) ↔
      Plain numeral ∧ chars = numeral ++ '-' :: rest := by
  constructor
  · intro found
    obtain ⟨whole, after, rfl, whole_ok, digitless⟩ := exists_digits_append chars
    rw [numeralBeforeDash?_append whole_ok digitless, afterWhole?.eq_def] at found
    split at found
    case h_1 others =>
      split at found
      case h_1 behind dash =>
        cases found
        have parts := List.takeWhile_append_dropWhile (p := Text.isDigit) (l := others)
        rw [dash] at parts
        refine ⟨.pointed whole_ok fun _ => List.mem_takeWhile_imp, ?_⟩
        rw [List.append_assoc, List.cons_append, parts]
      case h_2 => cases found
    case h_2 behind =>
      cases found
      exact ⟨.whole whole_ok, rfl⟩
    case h_3 => cases found
  · rintro ⟨plain, rfl⟩
    have dash : Decimal.Digitless ('-' :: rest) := Decimal.digitless_cons rest rfl
    cases plain with
    | whole digits_ok =>
        rw [numeralBeforeDash?_append digits_ok dash]
        rfl
    | @pointed whole fraction whole_ok fraction_ok =>
        rw [List.append_assoc, List.cons_append,
          numeralBeforeDash?_append whole_ok (Decimal.digitless_cons _ rfl)]
        simp only [afterWhole?, Decimal.takeWhile_digits_append fraction_ok dash,
          Decimal.dropWhile_digits_append fraction_ok dash]

/-- A plain text has no dash. -/
theorem Plain.not_mem_dash {text : List Char} (plain : Plain text) : '-' ∉ text := by
  have dash_of {chars : List Char} (digits_ok : ∀ char ∈ chars, Text.isDigit char = true) :
      '-' ∉ chars := fun mem => absurd (digits_ok '-' mem) (by decide)
  cases plain with
  | whole digits_ok => exact dash_of digits_ok
  | pointed whole_ok fraction_ok =>
      simp only [List.mem_append, List.mem_cons, not_or]
      exact ⟨dash_of whole_ok, by decide, dash_of fraction_ok⟩

/-- A lower end stands at the front of a text, right before a dash. -/
def Starts (chars low rest : List Char) : Prop := LowerEnd low ∧ chars = low ++ '-' :: rest

/-- A dash at the front is the one behind an empty lower end or the minus of another. -/
theorem starts_dash_iff {others low rest : List Char} : Starts ('-' :: others) low rest ↔
    low = [] ∧ rest = others ∨
      ∃ text, low = '-' :: text ∧ numeralBeforeDash? others = some (text, rest) := by
  constructor
  · rintro ⟨lowerEnd, parts⟩
    cases lowerEnd with
    | plain plain =>
        cases low with
        | nil => exact .inl ⟨rfl, (List.cons.inj parts).2.symm⟩
        | cons first text =>
            have dash := plain.not_mem_dash
            rw [← (List.cons.inj parts).1] at dash
            exact absurd List.mem_cons_self dash
    | @minus text plain =>
        exact .inr ⟨text, rfl,
          numeralBeforeDash?_eq_some_iff.mpr ⟨plain, (List.cons.inj parts).2⟩⟩
  · rintro (⟨rfl, rfl⟩ | ⟨text, rfl, found⟩)
    · exact ⟨.plain (.whole nofun), rfl⟩
    · obtain ⟨plain, rfl⟩ := numeralBeforeDash?_eq_some_iff.mp found
      exact ⟨.minus plain, rfl⟩

/-- Without a dash at the front a lower end is plain. -/
theorem starts_iff {chars low rest : List Char} (dashless : chars.head? ≠ some '-') :
    Starts chars low rest ↔ numeralBeforeDash? chars = some (low, rest) := by
  rw [numeralBeforeDash?_eq_some_iff]
  constructor
  · rintro ⟨lowerEnd, rfl⟩
    cases lowerEnd with
    | plain plain => exact ⟨plain, rfl⟩
    | minus plain => exact absurd rfl dashless
  · rintro ⟨plain, rfl⟩
    exact ⟨.plain plain, rfl⟩

theorem lowerEnd?_eq_numeralBeforeDash? {chars : List Char} (dashless : chars.head? ≠ some '-') :
    lowerEnd? chars = numeralBeforeDash? chars := by
  rw [lowerEnd?.eq_def]
  split
  · exact absurd rfl dashless
  · rfl

/-- At the front of a text the longest lower end before a dash is found. -/
theorem lowerEnd?_eq_some_iff {chars low rest : List Char} :
    lowerEnd? chars = some (low, rest) ↔ Starts chars low rest ∧
      ∀ low' rest', Starts chars low' rest' → low'.length ≤ low.length := by
  by_cases dash : chars.head? = some '-'
  · obtain ⟨others, rfl⟩ := List.head?_eq_some_iff.mp dash
    simp only [starts_dash_iff, lowerEnd?]
    cases numeralBeforeDash? others with
    | none =>
        constructor
        · rintro ⟨⟩
          refine ⟨.inl ⟨rfl, rfl⟩, ?_⟩
          rintro _ _ (⟨rfl, -⟩ | ⟨_, _, ⟨⟩⟩)
          exact Nat.le_refl _
        · rintro ⟨⟨rfl, rfl⟩ | ⟨_, _, ⟨⟩⟩, -⟩
          rfl
    | some found =>
        obtain ⟨digits, after⟩ := found
        constructor
        · rintro ⟨⟩
          refine ⟨.inr ⟨_, rfl, rfl⟩, ?_⟩
          rintro _ _ (⟨rfl, -⟩ | ⟨_, rfl, ⟨⟩⟩)
          · exact Nat.zero_le _
          · exact Nat.le_refl _
        · rintro ⟨⟨rfl, rfl⟩ | ⟨_, rfl, ⟨⟩⟩, longest⟩
          · exact absurd (longest _ _ (.inr ⟨_, rfl, rfl⟩)) (Nat.not_succ_le_zero _)
          · rfl
  · simp only [starts_iff dash, lowerEnd?_eq_numeralBeforeDash? dash]
    refine ⟨fun found => ⟨found, fun low' rest' found' => ?_⟩, fun found => found.1⟩
    rw [found] at found'
    cases found'
    exact Nat.le_refl _

/-! ## Splitting -/

/-- How an entry is split. -/
structure Split (entry before low high after : List Char) : Prop where
  /-- The ends of the range stand side by side with a dash between them. -/
  parts : entry = before ++ (low ++ '-' :: (high ++ after))
  /-- The lower end is one by its form. -/
  lowerEnd : LowerEnd low
  /-- None starts at an earlier place. -/
  first : ∀ front back, before = front ++ back → back ≠ [] → ∀ low' rest',
    ¬Starts (back ++ (low ++ '-' :: (high ++ after))) low' rest'
  /-- None that starts at this place is longer. -/
  longest : ∀ low' rest', Starts (low ++ '-' :: (high ++ after)) low' rest' →
    low'.length ≤ low.length
  /-- The upper end stays on its line. -/
  line : '\n' ∉ high
  /-- It goes on to the end of this line. -/
  lineEnd : ∀ char ∈ after.head?, char = '\n'

/-- The longest lower end at the front is the only one, with its rest. -/
theorem starts_unique {chars low low' rest rest' : List Char} (starts : Starts chars low rest)
    (starts' : Starts chars low' rest') (same : low.length = low'.length) :
    low = low' ∧ rest = rest' := by
  have parts := starts.2.symm.trans starts'.2
  obtain ⟨low_eq, rest_eq⟩ := List.append_inj parts same
  exact ⟨low_eq, (List.cons.inj rest_eq).2⟩

theorem not_starts_of_lowerEnd?_eq_none {chars : List Char} (missing : lowerEnd? chars = none)
    (low rest : List Char) : ¬Starts chars low rest := by
  by_cases dash : chars.head? = some '-'
  · obtain ⟨others, rfl⟩ := List.head?_eq_some_iff.mp dash
    rw [lowerEnd?] at missing
    split at missing <;> cases missing
  · rw [starts_iff dash, ← lowerEnd?_eq_numeralBeforeDash? dash, missing]
    exact nofun

theorem takeWhile_line {high after : List Char} (line : '\n' ∉ high)
    (lineEnd : ∀ char ∈ after.head?, char = '\n') :
    (high ++ after).takeWhile (· != '\n') = high := by
  have inside : ∀ char ∈ high, (char != '\n') = true :=
    fun char mem => bne_iff_ne.mpr fun same => line (same ▸ mem)
  rw [List.takeWhile_append_of_pos inside]
  cases after with
  | nil => rw [List.takeWhile_nil, List.append_nil]
  | cons first _ =>
      rw [lineEnd first rfl, List.takeWhile_cons_of_neg (by decide), List.append_nil]

/-- Where the lower end stands at the front, nothing is passed over. -/
theorem Split.of_lowerEnd?_eq_some {chars low rest : List Char}
    (found : lowerEnd? chars = some (low, rest)) :
    Split chars [] low (rest.takeWhile (· != '\n')) (rest.dropWhile (· != '\n')) := by
  obtain ⟨⟨lowerEnd, parts⟩, longest⟩ := lowerEnd?_eq_some_iff.mp found
  have line_parts := List.takeWhile_append_dropWhile (p := (· != '\n')) (l := rest)
  refine ⟨?_, lowerEnd, ?_, ?_, fun mem => ?_, fun char first => ?_⟩
  · rw [line_parts]
    exact parts
  · intro front back empty nonempty
    exact absurd (List.append_eq_nil_iff.mp empty.symm).2 nonempty
  · rw [line_parts, ← parts]
    exact longest
  · exact absurd (List.mem_takeWhile_imp mem) (by decide)
  · have stops := List.head?_dropWhile_not (· != '\n') rest
    rw [Option.mem_def.mp first] at stops
    simpa using stops

/-- Where no lower end stands at the front, a character is passed over. -/
theorem split_cons_iff {char : Char} {chars before low high after : List Char}
    (missing : lowerEnd? (char :: chars) = none) :
    Split (char :: chars) before low high after ↔
      ∃ before', before = char :: before' ∧ Split chars before' low high after := by
  have not_starts := not_starts_of_lowerEnd?_eq_none missing
  constructor
  · intro split
    cases before with
    | nil =>
        refine absurd ⟨split.lowerEnd, ?_⟩ (not_starts low (high ++ after))
        exact split.parts
    | cons first before =>
        obtain ⟨rfl, parts⟩ := List.cons.inj split.parts
        refine ⟨before, rfl, parts, split.lowerEnd, ?_, split.longest, split.line, split.lineEnd⟩
        rintro front back rfl nonempty
        exact split.first (char :: front) back rfl nonempty
  · rintro ⟨before, rfl, split⟩
    refine ⟨by rw [split.parts]; rfl, split.lowerEnd, ?_, split.longest, split.line, split.lineEnd⟩
    intro front back parts nonempty
    cases front with
    | nil =>
        obtain rfl : char :: before = back := parts
        have whole := split.parts
        intro low' rest'
        rw [List.cons_append, ← whole]
        exact not_starts low' rest'
    | cons first front =>
        exact split.first front back (List.cons.inj parts).2 nonempty

/-- Where the lower end stands at the front, its text and the upper end are what is found. -/
theorem Split.eq_of_lowerEnd?_eq_some {chars before low low' high after rest : List Char}
    (split : Split chars before low high after) (found : lowerEnd? chars = some (low', rest)) :
    low = low' ∧ high = rest.takeWhile (· != '\n') := by
  obtain ⟨starts, longest⟩ := lowerEnd?_eq_some_iff.mp found
  obtain rfl : before = [] := by
    by_contra nonempty
    refine split.first [] before rfl nonempty low' rest ?_
    rw [← split.parts]
    exact starts
  have starts_here : Starts chars low (high ++ after) := ⟨split.lowerEnd, split.parts⟩
  have same_length : low.length = low'.length := by
    refine Nat.le_antisymm (longest _ _ starts_here) (split.longest low' rest ?_)
    rw [← starts_here.2]
    exact starts
  obtain ⟨low_eq, rest_eq⟩ := starts_unique starts_here starts same_length
  exact ⟨low_eq, by rw [← rest_eq, takeWhile_line split.line split.lineEnd]⟩

theorem splitRange?_eq_some_iff {entry low high : List Char} :
    splitRange? entry = some (low, high) ↔ ∃ before after, Split entry before low high after := by
  induction entry with
  | nil =>
      refine ⟨nofun, ?_⟩
      rintro ⟨before, after, split⟩
      simpa using split.parts
  | cons char chars ih =>
      rw [splitRange?]
      cases found : lowerEnd? (char :: chars) with
      | some ends =>
          obtain ⟨low', rest⟩ := ends
          constructor
          · rintro ⟨⟩
            exact ⟨[], _, .of_lowerEnd?_eq_some found⟩
          · rintro ⟨before, after, split⟩
            obtain ⟨rfl, rfl⟩ := split.eq_of_lowerEnd?_eq_some found
            rfl
      | none =>
          rw [ih]
          simp only [split_cons_iff found]
          constructor
          · rintro ⟨before, after, split⟩
            exact ⟨char :: before, after, before, rfl, split⟩
          · rintro ⟨_, after, before, rfl, split⟩
            exact ⟨before, after, split⟩

/-- What has a dash is split. -/
theorem exists_splitRange?_eq {entry : List Char} (dash : '-' ∈ entry) :
    ∃ low high, splitRange? entry = some (low, high) := by
  induction entry with
  | nil => cases dash
  | cons char chars ih =>
      rw [splitRange?]
      cases found : lowerEnd? (char :: chars) with
      | some ends => exact ⟨_, _, rfl⟩
      | none =>
          refine ih ?_
          rcases List.mem_cons.mp dash with rfl | later
          · exact absurd ⟨.plain (.whole nofun), rfl⟩
              (not_starts_of_lowerEnd?_eq_none found [] chars)
          · exact later

/-! ## Reading -/

/-- A text reads as a number, with blanks at its ends or not. -/
def Reads (text : List Char) (number : Float) : Prop :=
  Decimal.readFloat? (Text.trim (String.ofList text)) = some number ∧ number.isNaN = false

theorem readNumber_eq_ok_iff {text : List Char} {number : Float} :
    readNumber text = .ok number ↔ Reads text number := by
  rw [readNumber, Reads]
  cases Decimal.readFloat? (Text.trim (String.ofList text)) with
  | none => exact ⟨nofun, nofun⟩
  | some found =>
      cases nan : found.isNaN with
      | true =>
          constructor
          · intro run
            simp only [nan, if_true] at run
            cases run
          · rintro ⟨⟨⟩, number_ok⟩
            exact absurd (nan.symm.trans number_ok) (by decide)
      | false =>
          simp only [nan, Bool.false_eq_true, if_false, Except.ok.injEq, Option.some_inj]
          exact ⟨fun same => ⟨same, same ▸ nan⟩, fun reads => reads.1⟩

theorem readNumber_eq_error {text : List Char} (unreadable : ∀ number, ¬Reads text number) :
    readNumber text = .error (.invalidValue (String.ofList text)) := by
  cases run : readNumber text with
  | ok number => exact absurd (readNumber_eq_ok_iff.mp run) (unreadable number)
  | error failure =>
      rw [readNumber] at run
      split at run
      · split at run <;> cases run
        rfl
      · cases run
        rfl

theorem hasInnerDash_iff {chars : List Char} : hasInnerDash chars = true ↔ '-' ∈ chars.tail :=
  List.contains_iff_mem

theorem read_of_dashless {entry : String} (dashless : '-' ∉ entry.toList.tail) :
    read entry = (readNumber entry.toList).map .exact := by
  have no_dash : hasInnerDash entry.toList = false :=
    Bool.eq_false_iff.mpr (mt hasInnerDash_iff.mp dashless)
  rw [read, no_dash]
  cases readNumber entry.toList <;> rfl

/-- What is read of an entry that is split. -/
theorem read_of_split {entry : String} {low high : List Char} (dash : '-' ∈ entry.toList.tail)
    (split : splitRange? entry.toList = some (low, high)) :
    read entry = if '-' ∈ high.tail then .error (.invalidRange entry) else
      readNumber low >>= fun least => readNumber high >>= fun greatest =>
        if greatest < least then .error (.invalidRange entry) else .ok (.range least greatest) := by
  rw [read, hasInnerDash_iff.mpr dash, split]
  by_cases inner : '-' ∈ high.tail
  · rw [if_pos inner]
    change (if hasInnerDash high then _ else _) = _
    rw [hasInnerDash_iff.mpr inner]
    rfl
  · rw [if_neg inner]
    change (if hasInnerDash high then _ else _) = _
    rw [Bool.eq_false_iff.mpr (mt hasInnerDash_iff.mp inner)]
    cases readNumber low with
    | error failure => rfl
    | ok least =>
        cases readNumber high with
        | error failure => rfl
        | ok greatest =>
            change (if greatest < least then _ else _) = (if greatest < least then _ else _)
            split <;> rfl

/-- A range is read exactly of an entry whose ends, where it is split, read as numbers in order. -/
theorem read_eq_range_iff {entry : String} {low high : Float} :
    read entry = .ok (.range low high) ↔ '-' ∈ entry.toList.tail ∧
      ∃ lowText highText, splitRange? entry.toList = some (lowText, highText) ∧
        '-' ∉ highText.tail ∧ Reads lowText low ∧ Reads highText high ∧ ¬high < low := by
  by_cases dash : '-' ∈ entry.toList.tail
  · obtain ⟨lowText, highText, split⟩ := exists_splitRange?_eq (List.mem_of_mem_tail dash)
    rw [read_of_split dash split]
    constructor
    · intro run
      split at run
      · cases run
      · rename_i inner
        obtain ⟨least, least_read, run⟩ := bind_eq_ok.mp run
        obtain ⟨greatest, greatest_read, run⟩ := bind_eq_ok.mp run
        split at run <;> cases run
        rename_i ordered
        exact ⟨dash, lowText, highText, split, inner, readNumber_eq_ok_iff.mp least_read,
          readNumber_eq_ok_iff.mp greatest_read, ordered⟩
    · rintro ⟨-, lowText', highText', split', inner, low_reads, high_reads, ordered⟩
      obtain ⟨rfl, rfl⟩ := Prod.mk.inj (Option.some.inj (split.symm.trans split'))
      rw [if_neg inner, readNumber_eq_ok_iff.mpr low_reads, readNumber_eq_ok_iff.mpr high_reads]
      exact if_neg ordered
  · refine ⟨fun run => ?_, fun ⟨mem, _⟩ => absurd mem dash⟩
    rw [read_of_dashless dash] at run
    obtain ⟨_, _, ⟨⟩⟩ := map_eq_ok.mp run

/-- An entry is refused where an end of its range reads as no number. -/
theorem read_eq_error_of_unreadable {entry : String} {low high : List Char}
    (dash : '-' ∈ entry.toList.tail) (split : splitRange? entry.toList = some (low, high))
    (unreadable : (∀ number, ¬Reads low number) ∨ ∀ number, ¬Reads high number) :
    read entry = .error (.invalidRange entry) ∨
      (∀ number, ¬Reads low number) ∧ read entry = .error (.invalidValue (String.ofList low)) ∨
      (∀ number, ¬Reads high number) ∧ read entry = .error (.invalidValue (String.ofList high)) := by
  rw [read_of_split dash split]
  split
  · exact .inl rfl
  · by_cases low_reads : ∃ least, Reads low least
    · obtain ⟨least, low_reads⟩ := low_reads
      have high_unreadable : ∀ number, ¬Reads high number :=
        unreadable.resolve_left fun none_reads => none_reads least low_reads
      rw [readNumber_eq_ok_iff.mpr low_reads, readNumber_eq_error high_unreadable]
      exact .inr (.inr ⟨high_unreadable, rfl⟩)
    · have low_unreadable : ∀ number, ¬Reads low number := not_exists.mp low_reads
      rw [readNumber_eq_error low_unreadable]
      exact .inr (.inl ⟨low_unreadable, rfl⟩)

/-- A range is read of an entry that is split, and what is before and behind the two ends is passed
over. An entry is refused where one of its ends reads as no number, by that end or as a whole. -/
theorem read_range (entry : String) :
    (∀ low high, read entry = .ok (.range low high) ↔ '-' ∈ entry.toList.tail ∧
      ∃ before lowText highText after, Split entry.toList before lowText highText after ∧
        '-' ∉ highText.tail ∧ Reads lowText low ∧ Reads highText high ∧ ¬high < low) ∧
    ('-' ∈ entry.toList.tail →
      (∃ before lowText highText after, Split entry.toList before lowText highText after) ∧
      ∀ before lowText highText after, Split entry.toList before lowText highText after →
        (∀ number, ¬Reads lowText number) ∨ (∀ number, ¬Reads highText number) →
        read entry = .error (.invalidRange entry) ∨
          (∀ number, ¬Reads lowText number) ∧
            read entry = .error (.invalidValue (String.ofList lowText)) ∨
          (∀ number, ¬Reads highText number) ∧
            read entry = .error (.invalidValue (String.ofList highText))) := by
  refine ⟨fun low high => ?_, fun dash => ⟨?_, ?_⟩⟩
  · rw [read_eq_range_iff]
    refine and_congr_right fun _ => ⟨?_, ?_⟩
    · rintro ⟨lowText, highText, split, reads⟩
      obtain ⟨before, after, split⟩ := splitRange?_eq_some_iff.mp split
      exact ⟨before, lowText, highText, after, split, reads⟩
    · rintro ⟨before, lowText, highText, after, split, reads⟩
      exact ⟨lowText, highText, splitRange?_eq_some_iff.mpr ⟨before, after, split⟩, reads⟩
  · obtain ⟨low, high, split⟩ := exists_splitRange?_eq (List.mem_of_mem_tail dash)
    obtain ⟨before, after, split⟩ := splitRange?_eq_some_iff.mp split
    exact ⟨before, low, high, after, split⟩
  · intro before low high after split
    exact read_eq_error_of_unreadable dash (splitRange?_eq_some_iff.mpr ⟨before, after, split⟩)

/-- A letter before a range is passed over. -/
theorem read_range_letter :
    read "x1-5" = .ok (.range 1 5) ∧
      ∃ before lowText highText after, Split "x1-5".toList before lowText highText after ∧
        '-' ∉ highText.tail ∧ Reads lowText 1 ∧ Reads highText 5 ∧ ¬(5 : Float) < 1 := by
  have run : read "x1-5" = .ok (.range 1 5) := by with_unfolding_all rfl
  exact ⟨run, (((read_range "x1-5").1 1 5).mp run).2⟩

/-- A range can be read of an entry that is no two numbers with a dash between them. -/
theorem exists_read_passing_over :
    read "x1-5" = .ok (.range 1 5) ∧ ∀ lowText highText,
      "x1-5".toList = lowText ++ '-' :: highText → ∀ number, ¬Reads lowText number := by
  refine ⟨by with_unfolding_all rfl, fun lowText highText parts number reads => ?_⟩
  have letters : ['x', '1'] ++ '-' :: ['5'] = lowText ++ '-' :: highText := parts
  obtain ⟨rfl, -, -⟩ := (List.append_cons_inj_of_notMem (by decide) (by decide)).mp letters
  exact absurd reads.1 (by with_unfolding_all exact nofun)

/-- Every range that is read has its ends in order, and neither is NaN. -/
theorem le_of_read_eq_range {entry : String} {low high : Float}
    (run : read entry = .ok (.range low high)) :
    low ≤ high ∧ low.isNaN = false ∧ high.isNaN = false := by
  obtain ⟨-, _, _, -, -, ⟨-, low_number⟩, ⟨-, high_number⟩, ordered⟩ := read_eq_range_iff.mp run
  refine ⟨?_, low_number, high_number⟩
  rw [Binary64.lt_iff_rank_lt high_number low_number, not_lt] at ordered
  exact (Binary64.le_iff_rank_le low_number high_number).mpr ordered

/-! ## Ranges between numerals -/

open Decimal (Numeral)

theorem lowerEnd_of_numeral {chars : List Char} (numeral : Numeral chars) (rest : List Char) :
    lowerEnd? (chars ++ '-' :: rest) = some (chars, rest) := by
  cases numeral with
  | @mk negative whole fraction whole_ok fraction_ok =>
      have plain : Plain (whole ++ fraction) := by
        cases fraction_ok with
        | absent =>
            rw [List.append_nil]
            exact .whole whole_ok.isDigit
        | present digits_ok => exact .pointed whole_ok.isDigit digits_ok.isDigit
      have found : numeralBeforeDash? (whole ++ fraction ++ '-' :: rest) =
          some (whole ++ fraction, rest) := numeralBeforeDash?_eq_some_iff.mpr ⟨plain, rfl⟩
      cases negative with
      | true =>
          rw [if_pos rfl, List.cons_append, lowerEnd?, found]
      | false =>
          obtain ⟨first, others, rfl, first_digit⟩ := whole_ok.exists_eq_cons
          have not_minus : first ≠ '-' := Text.ne_of_isDigit first_digit rfl
          rw [if_neg Bool.false_ne_true, lowerEnd?_eq_numeralBeforeDash? (by simp [not_minus]),
            found]

theorem splitRange?_of_lowerEnd? {chars low rest : List Char}
    (found : lowerEnd? chars = some (low, rest)) :
    splitRange? chars = some (low, rest.takeWhile (· != '\n')) :=
  splitRange?_eq_some_iff.mpr ⟨_, _, .of_lowerEnd?_eq_some found⟩

/-- A numeral has no dash after its first character, and is of one line. -/
theorem dashless_of_numeral {chars : List Char} (numeral : Numeral chars) :
    '-' ∉ chars.tail ∧ '\n' ∉ chars := by
  obtain ⟨first, others, rfl, first_ok, others_ok⟩ := numeral.exists_eq_cons
  refine ⟨fun mem => ?_, fun mem => ?_⟩
  · rcases others_ok _ mem with point | digit
    · exact absurd point (by decide)
    · exact absurd digit (by decide)
  · rcases List.mem_cons.mp mem with rfl | mem
    · exact absurd first_ok (by decide)
    · exact absurd (others_ok _ mem) (by decide)

theorem exists_reads_of_numeral {text : String} (numeral : Numeral text.toList) :
    ∃ number, Decimal.readFloat? text = some number ∧ Reads text.toList number := by
  obtain ⟨number, read_eq, number_ok⟩ := numeral.exists_readFloat?_eq
  refine ⟨number, ?_, ?_, number_ok⟩
  · rwa [String.ofList_toList] at read_eq
  · rwa [numeral.trim_eq]

/-- A numeral is read as its number, and two with a dash between them as a range if they stand in
order. Every range that is read has its ends in order, and neither is NaN. -/
theorem read_numerals {a b : String} (a_ok : Numeral a.toList) (b_ok : Numeral b.toList) :
    (∃ x y : Float, Decimal.readFloat? a = some x ∧ Decimal.readFloat? b = some y ∧
      read a = .ok (.exact x) ∧ (x ≤ y ∨ y < x) ∧
      (x ≤ y → read (a ++ "-" ++ b) = .ok (.range x y)) ∧
      (y < x → read (a ++ "-" ++ b) = .error (.invalidRange (a ++ "-" ++ b)))) ∧
    ∀ entry low high, read entry = .ok (.range low high) →
      low ≤ high ∧ low.isNaN = false ∧ high.isNaN = false := by
  refine ⟨?_, fun entry low high => le_of_read_eq_range⟩
  obtain ⟨x, x_eq, x_reads⟩ := exists_reads_of_numeral a_ok
  obtain ⟨y, y_eq, y_reads⟩ := exists_reads_of_numeral b_ok
  obtain ⟨a_dashless, -⟩ := dashless_of_numeral a_ok
  obtain ⟨b_dashless, b_line⟩ := dashless_of_numeral b_ok
  have ordered : x ≤ y ∨ y < x := by
    rw [Binary64.le_iff_rank_le x_reads.2 y_reads.2, Binary64.lt_iff_rank_lt y_reads.2 x_reads.2]
    exact le_or_gt _ _
  have chars_eq : (a ++ "-" ++ b).toList = a.toList ++ '-' :: b.toList := by
    rw [String.toList_append, String.toList_append, List.append_assoc]
    rfl
  have dash : '-' ∈ (a ++ "-" ++ b).toList.tail := by
    obtain ⟨first, others, a_eq, -, -⟩ := a_ok.exists_eq_cons
    rw [chars_eq, a_eq, List.cons_append, List.tail_cons]
    exact List.mem_append_right others List.mem_cons_self
  have split : splitRange? (a ++ "-" ++ b).toList = some (a.toList, b.toList) := by
    have line_eq : (b.toList ++ []).takeWhile (· != '\n') = b.toList := takeWhile_line b_line nofun
    rw [List.append_nil] at line_eq
    rw [chars_eq, splitRange?_of_lowerEnd? (lowerEnd_of_numeral a_ok b.toList), line_eq]
  refine ⟨x, y, x_eq, y_eq, ?_, ordered, ?_, ?_⟩
  · rw [read_of_dashless a_dashless, readNumber_eq_ok_iff.mpr x_reads]
    rfl
  · intro le
    rw [read_of_split dash split, if_neg b_dashless, readNumber_eq_ok_iff.mpr x_reads,
      readNumber_eq_ok_iff.mpr y_reads]
    rw [Binary64.le_iff_rank_le x_reads.2 y_reads.2] at le
    exact if_neg fun less =>
      absurd ((Binary64.lt_iff_rank_lt y_reads.2 x_reads.2).mp less) le.not_gt
  · intro less
    rw [read_of_split dash split, if_neg b_dashless, readNumber_eq_ok_iff.mpr x_reads,
      readNumber_eq_ok_iff.mpr y_reads]
    exact if_pos less

/-- Dashes that are signs are told from the one between two numerals. -/
theorem read_numerals_negative :
    Numeral "-007".toList ∧ Numeral "-0.5".toList ∧
      Decimal.readFloat? "-007" = some (-7) ∧ Decimal.readFloat? "-0.5" = some (-0.5) ∧
      read "-007" = .ok (.exact (-7)) ∧ read "-007--0.5" = .ok (.range (-7) (-0.5)) ∧
      read "-0.5--007" = .error (.invalidRange "-0.5--007") := by
  have seven : Numeral "-007".toList :=
    @Numeral.mk true ['0', '0', '7'] [] ⟨by decide, List.all_eq_true.mp rfl⟩ .absent
  have half : Numeral "-0.5".toList :=
    @Numeral.mk true ['0'] ['.', '5'] ⟨by decide, List.all_eq_true.mp rfl⟩
      (.present ⟨by decide, List.all_eq_true.mp rfl⟩)
  have seven_eq : Decimal.readFloat? "-007" = some (-7) := by with_unfolding_all rfl
  have half_eq : Decimal.readFloat? "-0.5" = some (-0.5) := by with_unfolding_all rfl
  obtain ⟨x, y, x_eq, y_eq, exact_eq, -, rising, -⟩ := (read_numerals seven half).1
  obtain ⟨y', x', y_eq', x_eq', -, -, -, falling⟩ := (read_numerals half seven).1
  obtain rfl : -7 = x := Option.some.inj (seven_eq.symm.trans x_eq)
  obtain rfl : -0.5 = y := Option.some.inj (half_eq.symm.trans y_eq)
  obtain rfl : -7 = x' := Option.some.inj (seven_eq.symm.trans x_eq')
  obtain rfl : -0.5 = y' := Option.some.inj (half_eq.symm.trans y_eq')
  exact ⟨seven, half, seven_eq, half_eq, exact_eq, rising (by decide), falling (by decide)⟩

end Assay.Expectation
