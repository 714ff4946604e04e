import Assay.Process
import Assay.Proofs.Config
import Assay.Proofs.Evaluation.Solution
import Assay.Proofs.Matcher

/-!
# What processing a test writes

Extraction stores the value of each matcher under its own key, and resolution stores the values of
evaluations. Since a configuration is checked, these keys are none that the harness supplies, and
no key is stored twice. All else in the base of a test is handed on as it was; an outcome is added
where there is none.
-/

namespace Assay

/-- The first of some matchers reads what its attempt opens, and the others go on from there. -/
theorem extractFrom_cons_eq_ok {opener : Opener} {attempt : Nat} {key : String}
    {matcher : Matcher} {rest : List (String × Matcher)} {results extracted : Namespace} :
    extractFrom opener attempt ((key, matcher) :: rest) results = .ok extracted ↔
      ∃ output, opener attempt = .ok output ∧ output.failure = none ∧
        extractFrom opener (attempt + 1) rest
          (results.insert key (matcher.extract output.bytes)) = .ok extracted := by
  rw [extractFrom]
  cases opener attempt with
  | error cause => simp
  | ok output =>
      obtain ⟨bytes, failure⟩ := output
      cases failure with
      | none => simp [matcher.run_readable]
      | some cause => simp [matcher.run_unreadable]

/-- Every matcher's key holds what the matcher finds in the output that its own attempt opens, and
the other keys hold what they held. -/
structure Extracts (opener : Opener) (attempt : Nat) (matchers : List (String × Matcher))
    (results extracted : Namespace) : Prop where
  /-- Each matcher takes one attempt, in the order of the keys. -/
  found : ∀ place key matcher, matchers[place]? = some (key, matcher) →
    ∃ output, opener (attempt + place) = .ok output ∧ output.failure = none ∧
      extracted.get? key = some (matcher.extract output.bytes)
  /-- Nothing else is stored. -/
  kept : ∀ key, key ∉ matchers.map Prod.fst → extracted.get? key = results.get? key

theorem extracts_of_extractFrom {opener : Opener} {attempt : Nat}
    {matchers : List (String × Matcher)} {results extracted : Namespace}
    (distinct : (matchers.map Prod.fst).Nodup)
    (success : extractFrom opener attempt matchers results = .ok extracted) :
    Extracts opener attempt matchers results extracted := by
  induction matchers generalizing attempt results with
  | nil =>
      cases success
      exact ⟨nofun, fun _ _ => rfl⟩
  | cons entry rest ih =>
      obtain ⟨key, matcher⟩ := entry
      obtain ⟨fresh, rest_distinct⟩ := List.nodup_cons.mp distinct
      obtain ⟨output, opened, whole, onward⟩ := extractFrom_cons_eq_ok.mp success
      have later := ih rest_distinct onward
      constructor
      · intro place other otherMatcher there
        cases place with
        | zero =>
            cases there
            refine ⟨output, opened, whole, ?_⟩
            rw [later.kept key fresh, Mapping.get?_insert_self]
        | succ place =>
            rw [Nat.add_comm place, ← Nat.add_assoc]
            exact later.found place other otherMatcher there
      · intro other absent
        obtain ⟨apart, absent⟩ := not_or.mp (mt List.mem_cons.mpr absent)
        rw [later.kept other absent, Mapping.get?_insert_of_ne _ _ apart]

theorem processResults_eq_ok {checked : CheckedConfig} {base final : Namespace} {opener : Opener} :
    processResults checked base opener = .ok final ↔
      ∃ extracted, extractFrom opener 0 checked.matchers.entries base = .ok extracted ∧
        evaluateParsed extracted checked.evaluations = ⟨final, none⟩ := by
  rw [processResults, Outcome.bind_eq_ok]
  apply exists_congr
  intro extracted
  apply and_congr_right'
  cases evaluateParsed extracted checked.evaluations with
  | mk results failure =>
      cases failure with
      | none => exact ⟨fun run => by cases run; rfl, fun same => by cases same; rfl⟩
      | some cause => exact ⟨nofun, nofun⟩

/-- The results of a test are its base but for what the configuration names and the outcome. -/
structure Processed (config : Config) (base : Namespace) (opener : Opener) (final : Namespace) :
    Prop where
  /-- The keys that the harness supplies hold what they held. -/
  reserved : ∀ key, isReserved key = true → final.get? key = base.get? key
  /-- So do other keys that the configuration does not name. -/
  unnamed : ∀ key, config.specs.get? key = none → config.evaluations.get? key = none →
    key ≠ resultKey → final.get? key = base.get? key
  /-- An extracted key is not evaluated, and it holds what its matcher finds in the whole output,
  which is opened once for each key in their order. -/
  extracted : ∀ place key, config.specs.keys[place]? = some key →
    config.evaluations.get? key = none ∧
    ∃ spec matcher output, config.specs.get? key = some spec ∧ spec.validate = .ok matcher ∧
      opener place = .ok output ∧ output.failure = none ∧
      final.get? key = some (matcher.extract output.bytes)
  /-- An outcome changes only where it is extracted, evaluated or missing. -/
  outcome : final.get? resultKey ≠ base.get? resultKey →
    (∃ spec, config.specs.get? resultKey = some spec) ∨
    (∃ source, config.evaluations.get? resultKey = some source) ∨ base.get? resultKey = none

variable {config : Config} {checked : CheckedConfig} {base extracted final : Namespace}
  {opener : Opener} {key : String}

/-- Resolution leaves a key that is not evaluated, unless it is a missing outcome. -/
theorem get?_of_not_evaluated (accepted : config.check = .ok checked)
    (success : evaluateParsed extracted checked.evaluations = ⟨final, none⟩)
    (alone : config.evaluations.get? key = none)
    (present : key ≠ resultKey ∨ extracted.get? key ≠ none) :
    final.get? key = extracted.get? key := by
  apply (Progress.solves_of_success success).kept
  intro expression declared
  cases declared with
  | evaluation found =>
      rw [Config.no_expression accepted alone] at found
      cases found
  | outcome no_result _ => exact present.elim (· rfl) (· no_result)

section

variable (accepted : config.check = .ok checked)
  (extracts : Extracts opener 0 checked.matchers.entries base extracted)
  (success : evaluateParsed extracted checked.evaluations = ⟨final, none⟩)

include accepted extracts

theorem get?_extracted_of_no_spec (absent : config.specs.get? key = none) :
    extracted.get? key = base.get? key := by
  apply extracts.kept
  have no_matcher : checked.matchers.get? key = none := Config.no_matcher accepted absent
  rw [← Mapping.contains_eq_false_iff, Mapping.contains] at no_matcher
  simpa [Mapping.map_fst_entries] using no_matcher

include success

theorem get?_of_unnamed (not_extracted : config.specs.get? key = none)
    (not_evaluated : config.evaluations.get? key = none)
    (present : key ≠ resultKey ∨ base.get? key ≠ none) : final.get? key = base.get? key := by
  have same := get?_extracted_of_no_spec accepted extracts not_extracted
  rw [get?_of_not_evaluated accepted success not_evaluated (same ▸ present), same]

theorem get?_of_spec {place : Nat} (there : config.specs.keys[place]? = some key) :
    config.evaluations.get? key = none ∧
    ∃ spec matcher output, config.specs.get? key = some spec ∧ spec.validate = .ok matcher ∧
      opener place = .ok output ∧ output.failure = none ∧
      final.get? key = some (matcher.extract output.bytes) := by
  obtain ⟨spec, found⟩ := (Mapping.mem_keys_iff _ key).mp (List.mem_of_getElem? there)
  obtain ⟨_, alone, matcher, valid, found_matcher⟩ := Config.exists_matcher accepted found
  -- The matcher stands at the same place as its key.
  rw [← Config.keys_matchers accepted, ← Mapping.map_fst_entries, List.getElem?_map,
    Option.map_eq_some_iff] at there
  obtain ⟨⟨_, other⟩, there, rfl⟩ := there
  have found_other := (Mapping.mem_entries_iff _ _ other).mp (List.mem_of_getElem? there)
  obtain rfl : matcher = other := Option.some.inj (found_matcher.symm.trans found_other)
  obtain ⟨output, opened, whole, holds⟩ := extracts.found place _ matcher there
  rw [Nat.zero_add] at opened
  refine ⟨alone, spec, matcher, output, found, valid, opened, whole, ?_⟩
  rw [← holds]
  apply get?_of_not_evaluated accepted success alone
  simp [holds]

end

/-- Processing a test with a checked configuration stores what the configuration names and a missing
outcome, and nothing else; and nothing that is extracted is stored over. -/
theorem processResults_processed (accepted : config.check = .ok checked)
    (success : processResults checked base opener = .ok final) :
    Processed config base opener final := by
  obtain ⟨extracted, extraction, resolution⟩ := processResults_eq_ok.mp success
  have extracts : Extracts opener 0 checked.matchers.entries base extracted :=
    extracts_of_extractFrom checked.matchers.ascending_entries.nodup extraction
  constructor
  case reserved =>
    intro key supplied
    obtain ⟨not_extracted, not_evaluated⟩ := Config.unnamed_of_isReserved accepted supplied
    refine get?_of_unnamed accepted extracts resolution not_extracted not_evaluated (.inl ?_)
    rintro rfl
    exact absurd supplied (by decide)
  case unnamed =>
    intro key not_extracted not_evaluated no_outcome
    exact get?_of_unnamed accepted extracts resolution not_extracted not_evaluated (.inl no_outcome)
  case extracted =>
    intro place key there
    exact get?_of_spec accepted extracts resolution there
  case outcome =>
    intro changed
    by_contra none_named
    simp only [not_or, not_exists, ← Option.eq_none_iff_forall_ne_some] at none_named
    obtain ⟨not_extracted, not_evaluated, present⟩ := none_named
    exact changed
      (get?_of_unnamed accepted extracts resolution not_extracted not_evaluated (.inr present))

/-- A matcher that asks for a line with a digit. -/
def someDigit : MatchSpec := ⟨"[0-9]", "first", some 1, none⟩

/-- The harness supplies a name. What is extracted stands in place of what its key held before, and
the outcome is evaluated from it. -/
theorem processResults_processed_someDigit :
    let config : Config := ⟨.ofList [("digit", someDigit)], .ofList [("result", "not digit")]⟩
    let base : Namespace := .ofList [("digit", .null), ("name", .text "t")]
    let output : Output := ⟨[0x37, Output.newline], none⟩
    let final : Namespace :=
      .ofList [("digit", .bool true), ("name", .text "t"), ("result", .bool false)]
    ∃ checked, config.check = .ok checked ∧
      processResults checked base (.always (.ok output)) = .ok final ∧
      Processed config base (.always (.ok output)) final := by
  intro config base output final
  obtain ⟨matcher, valid, found⟩ :
      ∃ matcher, someDigit.validate = .ok matcher ∧ matcher.extract output.bytes = .bool true :=
    ⟨_, by with_unfolding_all rfl, by with_unfolding_all rfl⟩
  let expression : Expression := ⟨"not digit", .unary .not (.reference ⟨"digit", []⟩)⟩
  have read : Expression.read "not digit" = .ok expression := by with_unfolding_all rfl
  have entries {α : Type} (key : String) (value : α) :
      (Mapping.ofList [(key, value)]).entries = [(key, value)] :=
    Mapping.entries_ofList (List.pairwise_singleton _ _)
  let checked : CheckedConfig := ⟨.ofList [("digit", matcher)], .ofList [("result", expression)]⟩
  have accepted : config.check = .ok checked := by
    apply Config.check_eq_ok.mpr
    constructor
    · rw [Mapping.tryMap_eq_ok, entries, entries]
      exact .cons ⟨rfl, Config.checkSpec_eq_ok.mpr ⟨by decide, rfl, valid⟩⟩ .nil
    · rw [checkEvaluations, Mapping.tryMap_eq_ok, entries, entries]
      exact .cons ⟨rfl, checkEvaluation_eq_ok.mpr ⟨by decide, read⟩⟩ .nil
  have success : processResults checked base (.always (.ok output)) = .ok final := by
    refine processResults_eq_ok.mpr ⟨base.insert "digit" (.bool true), ?_, ?_⟩
    · rw [entries, extractFrom_cons_eq_ok]
      exact ⟨output, rfl, rfl, found ▸ rfl⟩
    · with_unfolding_all rfl
  exact ⟨checked, accepted, success, processResults_processed accepted success⟩

end Assay
