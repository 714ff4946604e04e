import Assay.Proofs.Json.Literal
import Mathlib.Data.List.DropRight
import Mathlib.Data.List.Forall2

/-!
# Reading what was written

A document is read off its characters wherever they stand in a text, if reading each part of it
stops where the part ends. This carries over from the parts of a document to the document, and so
every document with literals for its numbers is read back from both of its written forms.
-/

namespace Assay.Json

open Decimal (goesOn Ends)

/-! ## Texts -/

theorem codeUnit?_hexChar : ∀ code < 0x20,
    codeUnit? ['0', '0', hexChar (code / 16), hexChar (code % 16)] = some code := by
  decide

/-- A character is read off what it is written as in a text. -/
theorem quoted?_escape (char : Char) (rest : List Char) :
    quoted? (escape char ++ rest) = before (some char) (quoted? rest) := by
  unfold escape
  split
  case h_1 | h_2 | h_3 | h_4 | h_5 | h_6 | h_7 => simp [quoted?, unescape?]
  case h_8 not_quote not_backslash _ _ _ _ _ =>
    split
    · rename_i control
      have unit := codeUnit?_hexChar char.toNat control
      have first : isFirstHalf char.toNat = false := by simp [isFirstHalf]; omega
      have second : isSecondHalf char.toNat = false := by simp [isSecondHalf]; omega
      simp [quoted?, unit, first, second]
    · rename_i printable
      rw [List.singleton_append, quoted?, if_neg printable]
      · exact not_quote
      · exact fun _ _ _ _ _ is_backslash _ => not_backslash is_backslash
      · exact fun _ _ is_backslash _ => not_backslash is_backslash

/-- A text is read off its quoted form after the opening quote. -/
theorem quoted?_append (content rest : List Char) :
    quoted? (content.flatMap escape ++ '"' :: rest) = some (some content, rest) := by
  induction content with
  | nil => simp [quoted?]
  | cons char content ih =>
      rw [List.flatMap_cons, List.append_assoc, quoted?_escape, ih]
      rfl

/-! ## Separating characters -/

/-- Nothing but separating characters. -/
abbrev Gap (chars : List Char) : Prop := ∀ char ∈ chars, isSpace char = true

theorem goesOn_of_isSpace {char : Char} (space : isSpace char = true) : goesOn char = false := by
  simp only [isSpace, Bool.or_eq_true, beq_iff_eq] at space
  rcases space with ((rfl | rfl) | rfl) | rfl <;> rfl

theorem ends_cons {char : Char} (rest : List Char) (stops : goesOn char = false) :
    Ends (char :: rest) := by
  rintro _ ⟨⟩
  exact stops

theorem ends_append {gap rest : List Char} (gap_ok : Gap gap) (ends : Ends rest) :
    Ends (gap ++ rest) := by
  cases gap with
  | nil => exact ends
  | cons first gap => exact ends_cons _ (goesOn_of_isSpace (gap_ok first List.mem_cons_self))

theorem skipSpace_append {gap : List Char} (gap_ok : Gap gap) (rest : List Char) :
    skipSpace (gap ++ rest) = skipSpace rest :=
  List.dropWhile_append_of_pos gap_ok

theorem skipSpace_cons {char : Char} (rest : List Char) (solid : isSpace char = false) :
    skipSpace (char :: rest) = char :: rest :=
  List.dropWhile_cons_of_neg (by simp [solid])

theorem skipSpace_append_cons {gap : List Char} (gap_ok : Gap gap) {char : Char} (rest : List Char)
    (solid : isSpace char = false) : skipSpace (gap ++ char :: rest) = char :: rest := by
  rw [skipSpace_append gap_ok, skipSpace_cons rest solid]

theorem document?_of_skipSpace_eq {left right : List Char} (limit : Nat)
    (same : skipSpace left = skipSpace right) : document? limit left = document? limit right := by
  cases limit with
  | zero => rfl
  | succ limit => rw [document?, document?, same]

theorem skipSpace_skipSpace (chars : List Char) : skipSpace (skipSpace chars) = skipSpace chars :=
  List.dropWhile_idempotent isSpace chars

/-! ## Parts of documents -/

/-- Whether a document is read off its characters wherever the text after them does not go on with
a literal. -/
def Reads (document : Json) (chars : List Char) : Prop :=
  ∀ limit rest, chars.length ≤ limit → Ends rest →
    document? limit (chars ++ rest) = some (document, rest)

theorem Reads.gap_append {document : Json} {chars gap : List Char} (reads : Reads document chars)
    (gap_ok : Gap gap) : Reads document (gap ++ chars) := by
  intro limit rest enough ends
  rw [List.length_append] at enough
  rw [List.append_assoc, document?_of_skipSpace_eq limit (skipSpace_append gap_ok _)]
  exact reads limit rest (by omega) ends

theorem reads_null : Reads .null "null".toList := by
  intro limit rest enough _
  cases limit with
  | zero => cases enough
  | succ limit => rfl

theorem reads_bool (truth : Bool) :
    Reads (.bool truth) (if truth then "true" else "false").toList := by
  intro limit rest enough _
  cases limit with
  | zero => cases truth <;> cases enough
  | succ limit => cases truth <;> rfl

theorem reads_number {literal : List Char} (literal_ok : Literal literal) :
    Reads (.number literal) literal := by
  intro limit rest enough ends
  have read := literal?_append literal_ok ends
  obtain ⟨first, others, rfl, first_ok⟩ := literal_ok.exists_eq_cons
  have apart {other : Char} (not_minus : '-' ≠ other) (nondigit : Text.isDigit other = false) :
      first ≠ other := by
    rcases first_ok with rfl | first_digit
    · exact not_minus
    · exact Text.ne_of_isDigit first_digit nondigit
  cases limit with
  | zero => cases enough
  | succ limit =>
      have solid : isSpace first = false := by
        simp only [isSpace, Bool.or_eq_false_iff, beq_eq_false_iff_ne]
        refine ⟨⟨⟨?_, ?_⟩, ?_⟩, ?_⟩ <;> exact apart (by decide) (by decide)
      rw [List.cons_append] at read ⊢
      rw [document?, skipSpace_cons _ solid]
      split
      case h_7 => rw [read, Option.map_some]
      all_goals
        rename_i starts
        exact absurd (List.cons.inj starts).1 (apart (by decide) (by decide))

theorem reads_text (content : String) : Reads (.ofText content) (quote content.toList) := by
  intro limit rest enough _
  cases limit with
  | zero => cases enough
  | succ limit =>
      have read := quoted?_append content.toList rest
      rw [document?, quote, List.cons_append, List.cons_append, skipSpace_cons _ rfl]
      simp [read, ofText]

/-! ## Arrays and objects -/

/-- Items of which each is read off its piece are read off the pieces with commas between them and
the end of the array behind them. -/
theorem items?_withCommas {items : List Json} {pieces : List (List Char)} {gap : List Char}
    (read : List.Forall₂ Reads items pieces) (nonempty : items ≠ []) (gap_ok : Gap gap)
    (limit : Nat) (rest : List Char) (enough : (withCommas pieces ++ gap).length < limit) :
    items? limit (withCommas pieces ++ (gap ++ ']' :: rest)) = some (items, rest) := by
  induction read generalizing limit with
  | nil => exact absurd rfl nonempty
  | @cons item piece others others_pieces item_read others_read ih =>
      obtain ⟨limit, rfl⟩ : ∃ less, limit = less + 1 := ⟨limit - 1, by omega⟩
      cases others_read with
      | nil =>
          rw [withCommas, List.length_append] at enough
          have ends : Ends (gap ++ ']' :: rest) := ends_append gap_ok (ends_cons _ rfl)
          rw [withCommas, items?, item_read limit _ (by omega) ends]
          simp [skipSpace_append_cons gap_ok rest (rfl : isSpace ']' = false)]
      | cons second_read later_read =>
          rw [withCommas.eq_3 _ _ (by simp)] at enough ⊢
          rw [List.append_assoc, List.length_append, List.cons_append, List.length_cons] at enough
          have later := ih (List.cons_ne_nil _ _) limit (by omega)
          rw [List.append_assoc, List.cons_append, items?,
            item_read limit _ (by omega) (ends_cons _ rfl)]
          simp [skipSpace_cons _ (rfl : isSpace ',' = false), later]

theorem items?_of_skipSpace_eq {left right : List Char} (limit : Nat)
    (same : skipSpace left = skipSpace right) : items? limit left = items? limit right := by
  cases limit with
  | zero => rfl
  | succ limit => rw [items?, items?, document?_of_skipSpace_eq limit same]

/-- No items are read where an array ends. -/
theorem items?_close (limit : Nat) (rest : List Char) : items? limit (']' :: rest) = none := by
  rcases limit with _ | _ | limit <;> rfl

theorem document?_array (limit : Nat) (chars : List Char) :
    document? (limit + 1) ('[' :: chars) =
      match skipSpace chars with
      | ']' :: after => some (.array [], after)
      | rest => (items? limit rest).map fun (items, after) => (.array items, after) := rfl

/-- An array is read if its items are. -/
theorem reads_array {items : List Json} {pieces : List (List Char)} {gap : List Char}
    (read : List.Forall₂ Reads items pieces) (nonempty : items ≠ []) (gap_ok : Gap gap) :
    Reads (.array items) ('[' :: withCommas pieces ++ gap ++ [']']) := by
  intro limit rest enough _
  simp only [List.cons_append, List.length_cons, List.length_append, List.length_nil] at enough
  cases limit with
  | zero => omega
  | succ limit =>
      have items_read := items?_withCommas read nonempty gap_ok limit rest
        (by rw [List.length_append]; omega)
      simp only [List.cons_append, List.append_assoc, List.nil_append]
      rw [document?_array]
      rw [← items?_of_skipSpace_eq limit (skipSpace_skipSpace _)] at items_read
      split
      · rename_i closes
        rw [closes, items?_close] at items_read
        cases items_read
      · rw [items_read, Option.map_some]

theorem reads_emptyArray : Reads (.array []) ['[', ']'] := by
  intro limit rest enough _
  cases limit with
  | zero => cases enough
  | succ limit => rfl

/-- A member is read if its value is, after its key and a colon. -/
inductive ReadsMember : Option String × Json → List Char → Prop where
  | mk {gap chars : List Char} {value : Json} (key : String) (gap_ok : Gap gap)
      (value_read : Reads value chars) :
      ReadsMember (some key, value) (gap ++ quote key.toList ++ ':' :: chars)

/-- After a member come further ones, or the end of the object. -/
theorem ReadsMember.members?_append {member : Option String × Json} {piece tail : List Char}
    (read : ReadsMember member piece) {limit : Nat} (enough : piece.length ≤ limit)
    (ends : Ends tail) :
    members? (limit + 1) (piece ++ tail) =
      match skipSpace tail with
      | ',' :: rest => do
        let (members, after) ← members? limit rest
        return (member :: members, after)
      | '\x7d' :: after => some ([member], after)
      | _ => none := by
  cases read with
  | @mk gap chars value key gap_ok value_read =>
      simp only [List.length_append, List.length_cons] at enough
      have value_eq := value_read limit tail (by omega) ends
      have key_eq := quoted?_append key.toList (':' :: (chars ++ tail))
      simp only [quote, List.cons_append, List.append_assoc, List.nil_append]
      rw [members?, skipSpace_append_cons gap_ok _ rfl]
      simp only [key_eq, skipSpace_cons _ (rfl : isSpace ':' = false), value_eq, Option.map_some,
        String.ofList_toList, Option.bind_eq_bind, Option.bind_some]
      rfl

/-- Members that are read one by one are read off their pieces with commas between them and the end
of the object behind them. -/
theorem members?_withCommas {members : List (Option String × Json)} {pieces : List (List Char)}
    {gap : List Char} (read : List.Forall₂ ReadsMember members pieces) (nonempty : members ≠ [])
    (gap_ok : Gap gap) (limit : Nat) (rest : List Char)
    (enough : (withCommas pieces ++ gap).length < limit) :
    members? limit (withCommas pieces ++ (gap ++ '\x7d' :: rest)) = some (members, rest) := by
  induction read generalizing limit with
  | nil => exact absurd rfl nonempty
  | @cons member piece others others_pieces member_read others_read ih =>
      obtain ⟨limit, rfl⟩ : ∃ less, limit = less + 1 := ⟨limit - 1, by omega⟩
      cases others_read with
      | nil =>
          rw [withCommas, List.length_append] at enough
          have ends : Ends (gap ++ '\x7d' :: rest) := ends_append gap_ok (ends_cons _ rfl)
          rw [withCommas, member_read.members?_append (by omega) ends,
            skipSpace_append_cons gap_ok rest rfl]
          rfl
      | cons second_read later_read =>
          rw [withCommas.eq_3 _ _ (by simp)] at enough ⊢
          rw [List.append_assoc, List.length_append, List.cons_append, List.length_cons] at enough
          have later := ih (List.cons_ne_nil _ _) limit (by omega)
          rw [List.append_assoc, List.cons_append,
            member_read.members?_append (by omega) (ends_cons _ rfl), skipSpace_cons _ rfl]
          simp [later]

theorem document?_object (limit : Nat) (chars : List Char) :
    document? (limit + 1) ('\x7b' :: chars) =
      match skipSpace chars with
      | '\x7d' :: after => some (.object [], after)
      | rest => (members? limit rest).map fun (members, after) => (.object members, after) := rfl

theorem members?_of_skipSpace_eq {left right : List Char} (limit : Nat)
    (same : skipSpace left = skipSpace right) : members? limit left = members? limit right := by
  cases limit with
  | zero => rfl
  | succ limit => rw [members?, members?, same]

/-- No members are read where an object ends. -/
theorem members?_close (limit : Nat) (rest : List Char) :
    members? limit ('\x7d' :: rest) = none := by
  cases limit <;> rfl

/-- An object is read if its members are. -/
theorem reads_object {members : List (Option String × Json)} {pieces : List (List Char)}
    {gap : List Char} (read : List.Forall₂ ReadsMember members pieces) (nonempty : members ≠ [])
    (gap_ok : Gap gap) :
    Reads (.object members) ('\x7b' :: withCommas pieces ++ gap ++ ['\x7d']) := by
  intro limit rest enough _
  simp only [List.cons_append, List.length_cons, List.length_append, List.length_nil] at enough
  cases limit with
  | zero => omega
  | succ limit =>
      have members_read := members?_withCommas read nonempty gap_ok limit rest
        (by rw [List.length_append]; omega)
      simp only [List.cons_append, List.append_assoc, List.nil_append]
      rw [document?_object]
      rw [← members?_of_skipSpace_eq limit (skipSpace_skipSpace _)] at members_read
      split
      · rename_i closes
        rw [closes, members?_close] at members_read
        cases members_read
      · rw [members_read, Option.map_some]

theorem reads_emptyObject : Reads (.object []) ['\x7b', '\x7d'] := by
  intro limit rest enough _
  cases limit with
  | zero => cases enough
  | succ limit => rfl

/-! ## Written documents -/

/-- A document whose numbers are literals and whose texts have content. -/
inductive Sound : Json → Prop where
  | null : Sound .null
  | bool (truth : Bool) : Sound (.bool truth)
  | number {literal : List Char} (literal_ok : Literal literal) : Sound (.number literal)
  | text (content : String) : Sound (.ofText content)
  | array {items : List Json} (items_ok : ∀ item ∈ items, Sound item) : Sound (.array items)
  | object {members : List (Option String × Json)}
      (keyed : ∀ member ∈ members, member.1.isSome = true)
      (values_ok : ∀ member ∈ members, Sound member.2) : Sound (.object members)

theorem compactItems_eq_map (items : List Json) : compactItems items = items.map compact := by
  induction items with
  | nil => rfl
  | cons item items ih => rw [compactItems, ih, List.map_cons]

theorem prettyItems_eq_map (level : Nat) (items : List Json) :
    prettyItems level items = items.map (pretty level) := by
  induction items with
  | nil => rfl
  | cons item items ih => rw [prettyItems, ih, List.map_cons]

theorem compactMembers_eq_map (members : List (Option String × Json)) :
    compactMembers members =
      members.map fun member => quote (contentChars member.1) ++ ':' :: member.2.compact := by
  induction members with
  | nil => rfl
  | cons member members ih => rw [compactMembers, ih, List.map_cons]

theorem prettyMembers_eq_map (level : Nat) (members : List (Option String × Json)) :
    prettyMembers level members =
      members.map fun member =>
        quote (contentChars member.1) ++ ':' :: ' ' :: member.2.pretty level := by
  induction members with
  | nil => rfl
  | cons member members ih => rw [prettyMembers, ih, List.map_cons]

theorem gap_newLine (level : Nat) : Gap (newLine level) := by
  intro char mem
  rcases List.mem_cons.mp mem with rfl | blank
  · rfl
  · rw [List.eq_of_mem_replicate blank]
    rfl

theorem onLines_eq (level : Nat) (opening closing : Char) {pieces : List (List Char)}
    (nonempty : pieces ≠ []) :
    onLines level opening closing pieces =
      opening :: withCommas (pieces.map fun piece => newLine (level + 1) ++ piece) ++
        newLine level ++ [closing] := by
  cases pieces with
  | nil => exact absurd rfl nonempty
  | cons => rfl

theorem forall₂_reads {items : List Json} {write : Json → List Char}
    (read : ∀ item ∈ items, Reads item (write item)) :
    List.Forall₂ Reads items (items.map write) := by
  rw [List.forall₂_map_right_iff, List.forall₂_same]
  exact read

theorem forall₂_readsMember {members : List (Option String × Json)} {gap : List Char}
    (write : Json → List Char) (keyed : ∀ member ∈ members, member.1.isSome = true)
    (gap_ok : Gap gap) (read : ∀ member ∈ members, Reads member.2 (write member.2)) :
    List.Forall₂ ReadsMember members
      (members.map fun member =>
        gap ++ quote (contentChars member.1) ++ ':' :: write member.2) := by
  rw [List.forall₂_map_right_iff, List.forall₂_same]
  rintro ⟨key, value⟩ mem
  obtain ⟨content, rfl⟩ := Option.isSome_iff_exists.mp (keyed _ mem)
  exact .mk content gap_ok (read _ mem)

theorem gap_nil : Gap [] := nofun

theorem gap_blank : Gap [' '] := fun _ mem => List.mem_singleton.mp mem ▸ rfl

/-- A sound document is read off its form on one line. -/
theorem Sound.reads_compact {document : Json} (sound : document.Sound) :
    Reads document document.compact := by
  induction sound with
  | null => exact reads_null
  | bool truth => exact reads_bool truth
  | number literal_ok => exact reads_number literal_ok
  | text content => exact reads_text content
  | @array items _ ih =>
      rw [compact, compactItems_eq_map]
      by_cases empty : items = []
      · rw [empty]
        exact reads_emptyArray
      · have read := reads_array (forall₂_reads ih) empty gap_nil
        rwa [List.append_nil] at read
  | @object members keyed _ ih =>
      rw [compact, compactMembers_eq_map]
      by_cases empty : members = []
      · rw [empty]
        exact reads_emptyObject
      · have read := reads_object (forall₂_readsMember compact keyed gap_nil ih) empty gap_nil
        rwa [List.append_nil] at read

/-- A sound document is read off its form on many lines. -/
theorem Sound.reads_pretty {document : Json} (sound : document.Sound) (level : Nat) :
    Reads document (document.pretty level) := by
  induction sound generalizing level with
  | null => exact reads_null
  | bool truth => exact reads_bool truth
  | number literal_ok => exact reads_number literal_ok
  | text content => exact reads_text content
  | @array items _ ih =>
      rw [pretty, prettyItems_eq_map]
      by_cases empty : items = []
      · rw [empty]
        exact reads_emptyArray
      · have indented (item : Json) (mem : item ∈ items) :
            Reads item (newLine (level + 1) ++ item.pretty (level + 1)) :=
          (ih item mem (level + 1)).gap_append (gap_newLine (level + 1))
        rw [onLines_eq level _ _ (by simpa using empty), List.map_map]
        exact reads_array (forall₂_reads indented) empty (gap_newLine level)
  | @object members keyed _ ih =>
      rw [pretty, prettyMembers_eq_map]
      by_cases empty : members = []
      · rw [empty]
        exact reads_emptyObject
      · have spaced (member : Option String × Json) (mem : member ∈ members) :
            Reads member.2 (' ' :: member.2.pretty (level + 1)) :=
          (ih member mem (level + 1)).gap_append gap_blank
        have members_read := forall₂_readsMember (fun value => ' ' :: value.pretty (level + 1))
          keyed (gap_newLine (level + 1)) spaced
        have read := reads_object members_read empty (gap_newLine level)
        rw [onLines_eq level _ _ (by simpa using empty), List.map_map]
        simpa only [Function.comp_def, List.append_assoc] using read

/-- A document that is read off its characters is what a text of them means, with whatever
separating characters behind. -/
theorem read?_of_reads {document : Json} {chars gap : List Char} (reads : Reads document chars)
    (gap_ok : Gap gap) : read? (String.ofList (chars ++ gap)) = some document := by
  have nothing : Ends [] := nofun
  have ends := ends_append gap_ok nothing
  have skipped := skipSpace_append gap_ok []
  rw [List.append_nil] at ends skipped
  have read := reads (2 * (chars ++ gap).length + 2) gap (by rw [List.length_append]; omega) ends
  rw [read?, String.toList_ofList, read]
  simp only [skipped]
  rfl

/-- A sound document is read back from its text on one line. -/
theorem Sound.read?_toText {document : Json} (sound : document.Sound) :
    read? document.toText = some document := by
  simpa [toText] using read?_of_reads sound.reads_compact gap_nil

/-- A sound document is read back from its text on many lines. -/
theorem Sound.read?_toPrettyText {document : Json} (sound : document.Sound) :
    read? document.toPrettyText = some document := by
  simpa [toPrettyText] using read?_of_reads (sound.reads_pretty 0) gap_nil

end Assay.Json
