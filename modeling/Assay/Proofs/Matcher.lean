import Assay.Matcher
import Assay.Proofs.Output

/-!
# What matchers find

A matcher reads one line after the other, up to the end of an output or to a failure to read on,
and looks at each of them alone. What it finds in an output that ends with a line and in the bytes
after it is therefore what it finds in both together. The first match, the last match and whether
there are enough can be told from the two parts. How lines end makes no difference to what is
found.
-/

namespace Assay

namespace MatchPolicy

/-- A match that is kept in preference to another one is missing only if both are. -/
theorem text_or (kept other : Option String) :
    ((kept.or other).map Value.text).getD .null =
      if ((kept.map Value.text).getD .null).isNull then (other.map Value.text).getD .null
      else (kept.map Value.text).getD .null := by
  cases kept <;> rfl

variable (found more : List String)

theorem reduce_first_append :
    first.reduce (found ++ more) =
      if (first.reduce found).isNull then first.reduce more else first.reduce found := by
  rw [reduce, List.head?_append, text_or, ← reduce, ← reduce]

theorem reduce_last_append :
    last.reduce (found ++ more) =
      if (last.reduce more).isNull then last.reduce found else last.reduce more := by
  rw [reduce, List.getLast?_append, text_or, ← reduce, ← reduce]

theorem reduce_threshold_append (count : Nat) :
    (threshold count).reduce (found ++ more) = .bool (count ≤ found.length + more.length) := by
  rw [reduce, List.length_append]

/-- Policies that answer with a value for each match answer for one match after the other. -/
theorem reduce_list_append {policy : MatchPolicy}
    (lists : policy = .all ∨ ∃ entries, policy = .expected entries) :
    ∃ values others, policy.reduce found = .list values ∧ policy.reduce more = .list others ∧
      policy.reduce (found ++ more) = .list (values ++ others) := by
  rcases lists with rfl | ⟨entries, rfl⟩
  · exact ⟨_, _, rfl, rfl, congrArg Value.list List.map_append⟩
  · exact ⟨_, _, rfl, rfl, congrArg Value.list List.map_append⟩

end MatchPolicy

namespace Matcher

open Output

/-! ## Reading line by line -/

section

variable (matcher : Matcher) {output rest : Output} {line : List UInt8}

theorem scan_line (read : output.readLine = .ok (some (line, rest))) :
    matcher.scan output = (matcher.scan rest).map fun found =>
      ((matcher.search (Output.lineText line)).map String.ofList).toList ++ found := by
  rw [scan.eq_def]
  split <;> simp_all

theorem scan_finish (read : output.readLine = .ok none) : matcher.scan output = .ok [] := by
  rw [scan.eq_def]
  split <;> simp_all

theorem scan_failure {cause : String} (read : output.readLine = .error cause) :
    matcher.scan output = .error cause := by
  rw [scan.eq_def]
  split <;> simp_all

theorem collect_of_lines {bytes : List UInt8} {text : List Char} {texts : List (List Char)}
    (lines_eq : lines bytes = text :: texts) :
    matcher.collect bytes = ((matcher.search text).map String.ofList).toList ++
      texts.filterMap fun line => (matcher.search line).map String.ofList := by
  rw [collect, lines_eq, List.filterMap_cons]
  cases matcher.search text <;> rfl

/-- Reading line by line finds what the lines of the whole output hold, unless it fails. -/
theorem scan_eq (bytes : List UInt8) (failure : Option String) :
    matcher.scan ⟨bytes, failure⟩ =
      match failure with
      | some cause => .error cause
      | none => .ok (matcher.collect bytes) := by
  -- A line takes a byte at least, so what is left gets shorter.
  induction length_eq : bytes.length using Nat.strongRecOn generalizing bytes with
  | ind length ih =>
  by_cases mem : newline ∈ bytes
  · obtain ⟨line, rest, rfl, unbroken⟩ := List.eq_append_cons_of_mem mem
    have shorter : rest.length < length := by
      rw [← length_eq, List.length_append, List.length_cons]
      omega
    rw [matcher.scan_line (readLine_newline unbroken), ih _ shorter rest rfl,
      matcher.collect_of_lines (lines_line unbroken rest)]
    cases failure <;> rfl
  · have read : readLine ⟨bytes, failure⟩ = _ := readLine_unbroken mem
    cases failure with
    | some cause => exact matcher.scan_failure read
    | none =>
        by_cases empty : bytes = []
        · subst empty
          exact matcher.scan_finish read
        · simp only [empty, if_false] at read
          have finished : matcher.scan ⟨[], none⟩ = .ok [] := matcher.scan_finish rfl
          rw [matcher.scan_line read, finished,
            matcher.collect_of_lines (lines_unbroken empty mem)]
          rfl

/-- An output that can be read to its end yields what its bytes hold. -/
theorem run_readable (bytes : List UInt8) :
    matcher.run ⟨bytes, none⟩ = .ok (matcher.extract bytes) := by
  rw [run, scan_eq]
  rfl

theorem reads_whole (bytes : List UInt8) :
    matcher.scan ⟨bytes, none⟩ = .ok (matcher.collect bytes) ∧
      matcher.run ⟨bytes, none⟩ = .ok (matcher.extract bytes) :=
  ⟨matcher.scan_eq bytes none, matcher.run_readable bytes⟩

/-- A failure to read on is the matcher's own, whatever it has found by then. -/
theorem run_unreadable (bytes : List UInt8) (cause : String) :
    matcher.run ⟨bytes, some cause⟩ = .error (.io cause) := by
  rw [run, scan_eq]
  rfl

end

/-! ## Parts of an output -/

theorem collect_append (matcher : Matcher) {front : List UInt8}
    (terminated : front = [] ∨ front.getLast? = some newline) (back : List UInt8) :
    matcher.collect (front ++ back) = matcher.collect front ++ matcher.collect back := by
  rw [collect, lines_append terminated, List.filterMap_append, ← collect, ← collect]

/-- Reading line by line finds what the bytes hold, and what is found in an output that ends with a
line and what is found in the bytes after it make up what is found in both together. -/
theorem extract_append (matcher : Matcher) {front : List UInt8}
    (terminated : front = [] ∨ front.getLast? = some newline) (back : List UInt8) :
    (∀ bytes, matcher.scan ⟨bytes, none⟩ = .ok (matcher.collect bytes) ∧
      matcher.run ⟨bytes, none⟩ = .ok (matcher.extract bytes)) ∧
    matcher.collect (front ++ back) = matcher.collect front ++ matcher.collect back ∧
    (matcher.policy = .all ∨ (∃ entries, matcher.policy = .expected entries) →
      ∃ values others, matcher.extract front = .list values ∧ matcher.extract back = .list others ∧
        matcher.extract (front ++ back) = .list (values ++ others)) ∧
    (matcher.policy = .first → matcher.extract (front ++ back) =
      if (matcher.extract front).isNull then matcher.extract back else matcher.extract front) ∧
    (matcher.policy = .last → matcher.extract (front ++ back) =
      if (matcher.extract back).isNull then matcher.extract front else matcher.extract back) ∧
    ∀ count, matcher.policy = .threshold count → matcher.extract (front ++ back) =
      .bool (count ≤ (matcher.collect front).length + (matcher.collect back).length) := by
  have found := matcher.collect_append terminated back
  refine ⟨matcher.reads_whole, ?_⟩
  simp only [extract, found]
  refine ⟨trivial, fun lists => MatchPolicy.reduce_list_append _ _ lists, ?_, ?_, ?_⟩
  · intro keeps_first
    simp only [keeps_first, MatchPolicy.reduce_first_append]
  · intro keeps_last
    simp only [keeps_last, MatchPolicy.reduce_last_append]
  · intro count counts
    rw [counts, MatchPolicy.reduce_threshold_append]

/-- A matcher for the last number of an output. -/
def lastNumber : MatchSpec := ⟨"[0-9]+", "last", none, none⟩

/-- The number before a broken character is still the last one after a line without numbers. -/
theorem extract_append_lastNumber :
    let front : List UInt8 := [0x37, 0xE2, newline]
    let back : List UInt8 := [0x2D, carriageReturn]
    front.getLast? = some newline ∧
      ∃ matcher, lastNumber.validate = .ok matcher ∧ matcher.policy = .last ∧
        matcher.extract front = .text "7" ∧ matcher.extract back = .null ∧
        matcher.extract (front ++ back) = .text "7" ∧
        matcher.run ⟨front ++ back, none⟩ = .ok (.text "7") := by
  intro front back
  have terminated : front.getLast? = some newline := rfl
  obtain ⟨matcher, valid, keeps_last, found, none_found⟩ :
      ∃ matcher, lastNumber.validate = .ok matcher ∧ matcher.policy = .last ∧
        matcher.extract front = .text "7" ∧ matcher.extract back = .null :=
    ⟨_, by with_unfolding_all rfl, by with_unfolding_all rfl, by with_unfolding_all rfl,
      by with_unfolding_all rfl⟩
  obtain ⟨reads, _, _, _, last, _⟩ := matcher.extract_append (.inr terminated) back
  have both := last keeps_last
  rw [found, none_found] at both
  have read := (reads (front ++ back)).2
  rw [both] at read
  exact ⟨terminated, matcher, valid, keeps_last, found, none_found, both, read⟩

/-- Carriage returns before newlines and a newline at the very end change nothing about what is
found by reading line by line. -/
theorem extract_lineEnds (matcher : Matcher) (bytes : List UInt8) :
    (∀ other, matcher.scan ⟨other, none⟩ = .ok (matcher.collect other) ∧
      matcher.run ⟨other, none⟩ = .ok (matcher.extract other)) ∧
    (∀ padded, Padded bytes padded →
      matcher.collect padded = matcher.collect bytes ∧
      matcher.extract padded = matcher.extract bytes) ∧
    (bytes ≠ [] → bytes.getLast? ≠ some newline →
      matcher.collect (bytes ++ [newline]) = matcher.collect bytes ∧
      matcher.extract (bytes ++ [newline]) = matcher.extract bytes) := by
  have same_lines {other : List UInt8} (same : lines other = lines bytes) :
      matcher.collect other = matcher.collect bytes ∧
        matcher.extract other = matcher.extract bytes := by
    simp only [extract, collect, same, and_self]
  refine ⟨matcher.reads_whole, ?_, ?_⟩
  · intro padded pads
    exact same_lines pads.lines_eq
  · intro nonempty unterminated
    exact same_lines (lines_append_newline nonempty unterminated)

/-- A line with a broken character, a line that is empty but for carriage returns, and a last line
that may be ended or not. -/
theorem extract_lineEnds_lastNumber :
    let bytes : List UInt8 := [0x37, 0xE2, 0x82, newline, newline, 0x38]
    let padded : List UInt8 :=
      [0x37, 0xE2, 0x82, carriageReturn, newline, carriageReturn, carriageReturn, newline, 0x38]
    ∃ matcher, lastNumber.validate = .ok matcher ∧ matcher.extract bytes = .text "8" ∧
      matcher.extract padded = .text "8" ∧ matcher.extract (padded ++ [newline]) = .text "8" := by
  intro bytes padded
  obtain ⟨matcher, valid, found⟩ :
      ∃ matcher, lastNumber.validate = .ok matcher ∧ matcher.extract bytes = .text "8" :=
    ⟨_, by with_unfolding_all rfl, by with_unfolding_all rfl⟩
  have pads : Padded bytes padded :=
    .byte _ (.byte _ (.byte _ (.newline 1 (.newline 2 (.byte _ .nil)))))
  have padded_found := ((matcher.extract_lineEnds bytes).2.1 padded pads).2.trans found
  refine ⟨matcher, valid, found, padded_found, ?_⟩
  exact ((matcher.extract_lineEnds padded).2.2 (by decide) (by decide)).2.trans padded_found

end Matcher

end Assay
