import Assay.Proofs.Config

/-!
# The first problem of a configuration

A configuration is refused exactly if there is something wrong with one of its keys, and then for
the smallest key of which this can be said, for the first of the things that are wrong with it. Keys
to be extracted come before keys to be evaluated. What is accepted extracts and evaluates the
declared keys and no others.
-/

namespace Assay

open Outcome

/-! ## Matchers -/

namespace MatchSpec

/-- A way to choose among matches and its name. -/
inductive Mode : String → MatchPolicy → Prop
  /-- The first match. -/
  | first : Mode "first" .first
  /-- The last match. -/
  | last : Mode "last" .last
  /-- All matches. -/
  | all : Mode "all" .all

/-- The entries that matches are compared with. There are none where none are given. -/
def entries (spec : MatchSpec) : List String := spec.expected.getD []

/-- An entry says which numbers are expected. -/
def Readable (entry : String) : Prop := ∃ expectation, Expectation.read entry = .ok expectation

/-- A matcher can be made: its pattern compiles, all its entries can be read and its way to choose
is known, even where it is not used. -/
structure Sound (spec : MatchSpec) : Prop where
  compiles : (Pattern.read? spec.regex).isSome = true
  readable : ∀ entry ∈ spec.entries, Readable entry
  known : spec.matchType ∈ ["first", "last", "all"]

/-- What is wrong with a matcher in the first place: its pattern, or else the first of its entries
that cannot be read, or else its way to choose. -/
inductive Problem (spec : MatchSpec) : MatcherError → Prop
  /-- The pattern does not compile. -/
  | pattern (unreadable : Pattern.read? spec.regex = none) :
      Problem spec (.invalidPattern spec.regex)
  /-- An entry cannot be read after others that can. -/
  | entry {before after : List String} {entry : String} {error : MatcherError}
      (compiles : (Pattern.read? spec.regex).isSome = true)
      (split : spec.entries = before ++ entry :: after)
      (readable : ∀ other ∈ before, Readable other)
      (unreadable : Expectation.read entry = .error error) : Problem spec error
  /-- There is no such way to choose. -/
  | mode (compiles : (Pattern.read? spec.regex).isSome = true)
      (readable : ∀ entry ∈ spec.entries, Readable entry)
      (unknown : spec.matchType ∉ ["first", "last", "all"]) :
      Problem spec (.invalidMode spec.matchType)

/-- How a matcher reduces what it finds: a threshold comes before entries, and entries before the
way to choose. -/
inductive Chooses (spec : MatchSpec) : MatchPolicy → Prop
  /-- A number of matches is asked for. -/
  | threshold {count : Nat} (asked : spec.threshold = some count) :
      Chooses spec (.threshold count)
  /-- No number is asked for, and there are entries. -/
  | expected {expectations : List Expectation} (unasked : spec.threshold = none)
      (nonempty : spec.entries ≠ [])
      (read : List.Forall₂ (fun entry expectation => Expectation.read entry = .ok expectation)
        spec.entries expectations) : Chooses spec (.expected expectations)
  /-- No number is asked for, and there are no entries. -/
  | mode {policy : MatchPolicy} (unasked : spec.threshold = none) (empty : spec.entries = [])
      (named : Mode spec.matchType policy) : Chooses spec policy

variable {spec : MatchSpec} {matcher : Matcher} {error : MatcherError} {name : String}

theorem mode_eq_ok {policy : MatchPolicy} :
    MatchSpec.mode name = .ok policy ↔ Mode name policy := by
  constructor
  · intro named
    simp only [MatchSpec.mode, beq_iff_eq] at named
    split at named
    · cases named
      subst_vars
      exact .first
    · split at named
      · cases named
        subst_vars
        exact .last
      · split at named
        · cases named
          subst_vars
          exact .all
        · cases named
  · rintro ⟨⟩ <;> rfl

theorem mode_eq_error : MatchSpec.mode name = .error error ↔
    name ∉ ["first", "last", "all"] ∧ error = .invalidMode name := by
  simp only [MatchSpec.mode, beq_iff_eq, List.mem_cons, List.not_mem_nil, or_false, not_or]
  split
  · simp_all
  · split
    · simp_all
    · split
      · simp_all
      · simp_all [eq_comm]

theorem validate_eq : spec.validate =
    match Pattern.read? spec.regex with
    | none => .error (.invalidPattern spec.regex)
    | some pattern => do
      let expectations ← spec.entries.mapM Expectation.read
      let mode ← MatchSpec.mode spec.matchType
      return ⟨spec.regex, (Machine.ofPattern pattern).find?, spec.policy expectations mode⟩ := rfl

theorem validate_eq_ok : spec.validate = .ok matcher ↔
    ∃ pattern expectations mode, Pattern.read? spec.regex = some pattern ∧
      List.Forall₂ (fun entry expectation => Expectation.read entry = .ok expectation)
        spec.entries expectations ∧
      Mode spec.matchType mode ∧
      matcher = ⟨spec.regex, (Machine.ofPattern pattern).find?, spec.policy expectations mode⟩ := by
  rw [validate_eq]
  cases Pattern.read? spec.regex with
  | none =>
      refine ⟨nofun, ?_⟩
      rintro ⟨_, _, _, ⟨⟩, -⟩
  | some pattern =>
      simp only [bind_eq_ok, mapM_eq_ok, mode_eq_ok]
      constructor
      · rintro ⟨expectations, read, mode, named, ⟨⟩⟩
        exact ⟨pattern, expectations, mode, rfl, read, named, rfl⟩
      · rintro ⟨_, expectations, mode, ⟨⟩, read, named, rfl⟩
        exact ⟨expectations, read, mode, named, rfl⟩

theorem validate_eq_error : spec.validate = .error error ↔ spec.Problem error := by
  rw [validate_eq]
  cases read : Pattern.read? spec.regex with
  | none =>
      have uncompiled : ¬(Pattern.read? spec.regex).isSome = true := by simp [read]
      constructor
      · intro refused
        cases refused
        exact .pattern read
      · intro problem
        cases problem with
        | pattern => rfl
        | entry compiles => exact absurd compiles uncompiled
        | mode compiles => exact absurd compiles uncompiled
  | some pattern =>
      have compiles : (Pattern.read? spec.regex).isSome = true := by simp [read]
      simp only [bind_eq_error, mode_eq_error]
      constructor
      · rintro (unreadable | ⟨expectations, entries_read, ⟨unknown, rfl⟩ | ⟨_, _, ⟨⟩⟩⟩)
        · obtain ⟨before, entry, after, split, readable, failed⟩ := mapM_eq_error.mp unreadable
          exact .entry compiles split readable failed
        · exact .mode compiles (exists_mapM_iff.mp ⟨expectations, entries_read⟩) unknown
      · intro problem
        cases problem with
        | pattern unreadable => cases read.symm.trans unreadable
        | entry _ split readable failed =>
            exact .inl (mapM_eq_error.mpr ⟨_, _, _, split, readable, failed⟩)
        | mode _ readable unknown =>
            obtain ⟨expectations, entries_read⟩ := exists_mapM_iff.mpr readable
            exact .inr ⟨expectations, entries_read, .inl ⟨unknown, rfl⟩⟩

theorem Mode.known {policy : MatchPolicy} (named : Mode name policy) :
    name ∈ ["first", "last", "all"] := by
  cases named <;> simp

theorem exists_validate_iff : (∃ matcher, spec.validate = .ok matcher) ↔ spec.Sound := by
  constructor
  · rintro ⟨matcher, made⟩
    obtain ⟨pattern, expectations, mode, compiles, read, named, -⟩ := validate_eq_ok.mp made
    exact ⟨by rw [compiles]; rfl, exists_mapM_iff.mp ⟨expectations, mapM_eq_ok.mpr read⟩,
      named.known⟩
  · intro sound
    cases made : spec.validate with
    | ok matcher => exact ⟨matcher, rfl⟩
    | error error =>
        exfalso
        cases validate_eq_error.mp made with
        | pattern unreadable => simpa [unreadable] using sound.compiles
        | @entry before after entry _ _ split _ failed =>
            obtain ⟨expectation, read⟩ := sound.readable entry (by simp [split])
            cases failed.symm.trans read
        | mode _ _ unknown => exact unknown sound.known

/-- A matcher searches for the pattern of its configuration and reduces as the latter asks. -/
theorem chooses_of_validate (made : spec.validate = .ok matcher) :
    matcher.pattern = spec.regex ∧ spec.Chooses matcher.policy := by
  obtain ⟨pattern, expectations, mode, _, read, named, rfl⟩ := validate_eq_ok.mp made
  refine ⟨rfl, ?_⟩
  simp only [policy]
  cases asked : spec.threshold with
  | some count => exact .threshold asked
  | none =>
      cases expectations with
      | nil => exact .mode asked (List.forall₂_nil_right_iff.mp read) named
      | cons expectation expectations =>
          refine .expected asked ?_ read
          intro empty
          rw [empty] at read
          cases read

end MatchSpec

/-! ## Keys -/

/-- A key can be evaluated: the harness does not supply it, and its text can be read. -/
structure EvaluationSound (key source : String) : Prop where
  free : isReserved key = false
  readable : ∃ expression, Expression.read source = .ok expression

/-- What is wrong with a key to be evaluated in the first place. -/
inductive EvaluationProblem (key source : String) : EvaluationError → Prop
  /-- The harness supplies it. -/
  | reserved (reserved : isReserved key = true) : EvaluationProblem key source (.reservedKey key)
  /-- Its text cannot be read. -/
  | unreadable {error : ParseError} (free : isReserved key = false)
      (refused : Expression.read source = .error error) :
      EvaluationProblem key source (.parse key error)

theorem exists_checkEvaluation_iff {key source : String} :
    (∃ expression, checkEvaluation key source = .ok expression) ↔ EvaluationSound key source := by
  simp only [checkEvaluation_eq_ok, exists_and_left]
  exact ⟨fun ⟨free, readable⟩ => ⟨free, readable⟩, fun ⟨free, readable⟩ => ⟨free, readable⟩⟩

theorem checkEvaluation_eq_error {key source : String} {error : EvaluationError} :
    checkEvaluation key source = .error error ↔ EvaluationProblem key source error := by
  rw [checkEvaluation]
  split
  · rename_i reserved
    constructor
    · intro refused
      cases refused
      exact .reserved reserved
    · intro problem
      cases problem with
      | reserved => rfl
      | unreadable free => cases reserved.symm.trans free
  · rename_i free
    rw [mapError_eq_error]
    constructor
    · rintro ⟨error, refused, rfl⟩
      exact .unreadable (Bool.eq_false_iff.mpr free) refused
    · intro problem
      cases problem with
      | reserved reserved => exact absurd reserved free
      | unreadable _ refused => exact ⟨_, refused, rfl⟩

namespace Config

/-- A key can be extracted: the harness does not supply it, it is not evaluated, and its matcher can
be made. -/
structure SpecSound (config : Config) (key : String) (spec : MatchSpec) : Prop where
  free : isReserved key = false
  alone : config.evaluations.get? key = none
  sound : spec.Sound

/-- What is wrong with a key to be extracted in the first place. -/
inductive SpecProblem (config : Config) (key : String) (spec : MatchSpec) : ConfigError → Prop
  /-- The harness supplies it. -/
  | reserved (reserved : isReserved key = true) : SpecProblem config key spec (.reservedKey key)
  /-- It is evaluated as well. -/
  | duplicate {source : String} (free : isReserved key = false)
      (evaluated : config.evaluations.get? key = some source) :
      SpecProblem config key spec (.duplicateKey key)
  /-- Its matcher cannot be made. -/
  | matcher {error : MatcherError} (free : isReserved key = false)
      (alone : config.evaluations.get? key = none) (problem : spec.Problem error) :
      SpecProblem config key spec (.matcher key error)

/-- Nothing is wrong with a configuration. -/
structure Sound (config : Config) : Prop where
  specs : ∀ key spec, config.specs.get? key = some spec → config.SpecSound key spec
  evaluations : ∀ key source, config.evaluations.get? key = some source →
    EvaluationSound key source

/-- What is wrong with a configuration in the first place. -/
inductive FirstProblem (config : Config) : ConfigError → Prop
  /-- It is the problem of the smallest key to be extracted that has one. -/
  | spec {key : String} {spec : MatchSpec} {error : ConfigError}
      (declared : config.specs.get? key = some spec) (problem : config.SpecProblem key spec error)
      (first : ∀ other otherSpec, other < key → config.specs.get? other = some otherSpec →
        config.SpecSound other otherSpec) : FirstProblem config error
  /-- No key to be extracted has one, and it is that of the smallest key to be evaluated that has
  one. -/
  | evaluation {key source : String} {error : EvaluationError}
      (specs : ∀ other spec, config.specs.get? other = some spec → config.SpecSound other spec)
      (declared : config.evaluations.get? key = some source)
      (problem : EvaluationProblem key source error)
      (first : ∀ other otherSource, other < key →
        config.evaluations.get? other = some otherSource → EvaluationSound other otherSource) :
      FirstProblem config (.evaluation error)

/-- A checked configuration has a matcher and an expression for each declared key and no others. -/
structure Made (config : Config) (checked : CheckedConfig) : Prop where
  extracted : checked.matchers.keys = config.specs.keys
  evaluated : checked.evaluations.keys = config.evaluations.keys
  matchers : ∀ key spec, config.specs.get? key = some spec → ∃ matcher,
    checked.matchers.get? key = some matcher ∧ matcher.pattern = spec.regex ∧
      spec.Chooses matcher.policy
  expressions : ∀ key source, config.evaluations.get? key = some source → ∃ expression,
    checked.evaluations.get? key = some expression ∧ Expression.read source = .ok expression

variable {config : Config} {key : String} {spec : MatchSpec} {error : ConfigError}

theorem exists_checkSpec_iff :
    (∃ matcher, config.checkSpec key spec = .ok matcher) ↔ config.SpecSound key spec := by
  simp only [checkSpec_eq_ok, exists_and_left, MatchSpec.exists_validate_iff]
  exact ⟨fun ⟨free, alone, sound⟩ => ⟨free, alone, sound⟩,
    fun ⟨free, alone, sound⟩ => ⟨free, alone, sound⟩⟩

theorem checkSpec_eq_error :
    config.checkSpec key spec = .error error ↔ config.SpecProblem key spec error := by
  rw [checkSpec]
  split
  · rename_i reserved
    constructor
    · intro refused
      cases refused
      exact .reserved reserved
    · intro problem
      cases problem with
      | reserved => rfl
      | duplicate free => cases reserved.symm.trans free
      | matcher free => cases reserved.symm.trans free
  · rename_i free
    split
    · rename_i declared
      obtain ⟨source, evaluated⟩ := (Mapping.contains_eq_true_iff _ key).mp declared
      constructor
      · intro refused
        cases refused
        exact .duplicate (Bool.eq_false_iff.mpr free) evaluated
      · intro problem
        cases problem with
        | reserved reserved => exact absurd reserved free
        | duplicate => rfl
        | matcher _ alone => cases evaluated.symm.trans alone
    · rename_i undeclared
      have alone : config.evaluations.get? key = none :=
        (Mapping.contains_eq_false_iff _ key).mp (Bool.eq_false_iff.mpr undeclared)
      simp only [mapError_eq_error, MatchSpec.validate_eq_error]
      constructor
      · rintro ⟨error, problem, rfl⟩
        exact .matcher (Bool.eq_false_iff.mpr free) alone problem
      · intro problem
        cases problem with
        | reserved reserved => exact absurd reserved free
        | duplicate _ evaluated => cases evaluated.symm.trans alone
        | matcher _ _ problem => exact ⟨_, problem, rfl⟩

/-! ## Configurations -/

theorem exists_specs_iff : (∃ matchers, config.specs.tryMap config.checkSpec = .ok matchers) ↔
    ∀ key spec, config.specs.get? key = some spec → config.SpecSound key spec := by
  simp only [Mapping.exists_tryMap_iff, exists_checkSpec_iff]

theorem exists_evaluations_iff : (∃ parsed, checkEvaluations config.evaluations = .ok parsed) ↔
    ∀ key source, config.evaluations.get? key = some source → EvaluationSound key source := by
  simp only [checkEvaluations, Mapping.exists_tryMap_iff, exists_checkEvaluation_iff]

theorem exists_check_iff : (∃ checked, config.check = .ok checked) ↔ config.Sound := by
  simp only [check_eq_ok]
  constructor
  · rintro ⟨checked, made, read⟩
    exact ⟨exists_specs_iff.mp ⟨_, made⟩, exists_evaluations_iff.mp ⟨_, read⟩⟩
  · rintro ⟨specs, evaluations⟩
    obtain ⟨matchers, made⟩ := exists_specs_iff.mpr specs
    obtain ⟨parsed, read⟩ := exists_evaluations_iff.mpr evaluations
    exact ⟨⟨matchers, parsed⟩, made, read⟩

theorem made_of_check {checked : CheckedConfig} (accepted : config.check = .ok checked) :
    config.Made checked where
  extracted := keys_matchers accepted
  evaluated := Mapping.keys_of_tryMap (check_eq_ok.mp accepted).2
  matchers := by
    intro key spec declared
    obtain ⟨_, _, matcher, made, found⟩ := exists_matcher accepted declared
    exact ⟨matcher, found, MatchSpec.chooses_of_validate made⟩
  expressions := by
    intro key source declared
    obtain ⟨_, expression, read, found⟩ := exists_expression accepted declared
    exact ⟨expression, found, read⟩

theorem check_eq_error : config.check = .error error ↔ config.FirstProblem error := by
  simp only [check, bind_eq_error, mapError_eq_error, Mapping.tryMap_eq_error, checkSpec_eq_error,
    exists_checkSpec_iff]
  constructor
  · rintro (⟨key, spec, declared, problem, first⟩ |
      ⟨matchers, made, ⟨cause, refused, rfl⟩ | ⟨_, _, ⟨⟩⟩⟩)
    · exact .spec declared problem first
    · rw [checkEvaluations, Mapping.tryMap_eq_error] at refused
      simp only [checkEvaluation_eq_error, exists_checkEvaluation_iff] at refused
      obtain ⟨key, source, declared, problem, first⟩ := refused
      exact .evaluation (exists_specs_iff.mp ⟨_, made⟩) declared problem first
  · intro problem
    cases problem with
    | spec declared problem first => exact .inl ⟨_, _, declared, problem, first⟩
    | evaluation specs declared problem first =>
        obtain ⟨matchers, made⟩ := exists_specs_iff.mpr specs
        refine .inr ⟨matchers, made, .inl ⟨_, ?_, rfl⟩⟩
        rw [checkEvaluations, Mapping.tryMap_eq_error]
        simp only [checkEvaluation_eq_error, exists_checkEvaluation_iff]
        exact ⟨_, _, declared, problem, first⟩

/-- A configuration is accepted exactly if nothing is wrong with it, with what it declares, and
refused exactly for what is wrong with it in the first place. -/
theorem check_sound_or_first (config : Config) :
    ((∃ checked, config.check = .ok checked) ↔ config.Sound) ∧
      (∀ checked, config.check = .ok checked → config.Made checked) ∧
      ∀ error, config.check = .error error ↔ config.FirstProblem error :=
  ⟨exists_check_iff, fun _ => made_of_check, fun _ => check_eq_error⟩

/-- A matcher with entries, so that its way to choose is not used. -/
def fewFailures : MatchSpec := ⟨"[0-9]+ failed", "last", none, some ["-1", "2-8"]⟩

/-- A configuration of this matcher is accepted. Where everything is wrong with a key, it is refused
as one that the harness supplies. -/
theorem check_sound_or_first_fewFailures :
    let config : Config := ⟨.ofList [("few", fewFailures)], .ofList [("result", "all(few)")]⟩
    let faulty : Config :=
      ⟨.ofList [("user", ⟨"(", "some", none, some ["few"]⟩)], .ofList [("user", "1 +")]⟩
    (∃ checked, config.check = .ok checked ∧ config.Made checked) ∧
      faulty.FirstProblem (.reservedKey "user") := by
  intro config faulty
  have entries {α : Type} (key : String) (value : α) :
      (Mapping.ofList [(key, value)]).entries = [(key, value)] :=
    Mapping.entries_ofList (List.pairwise_singleton _ _)
  obtain ⟨matcher, made⟩ : ∃ matcher, fewFailures.validate = .ok matcher :=
    ⟨_, by with_unfolding_all rfl⟩
  let expression : Expression := ⟨"all(few)", .call .all [.reference ⟨"few", []⟩]⟩
  have read : Expression.read "all(few)" = .ok expression := by with_unfolding_all rfl
  let checked : CheckedConfig := ⟨.ofList [("few", matcher)], .ofList [("result", expression)]⟩
  have accepted : config.check = .ok checked := by
    apply check_eq_ok.mpr
    constructor
    · rw [Mapping.tryMap_eq_ok, entries, entries]
      exact .cons ⟨rfl, checkSpec_eq_ok.mpr ⟨by decide, rfl, made⟩⟩ .nil
    · rw [checkEvaluations, Mapping.tryMap_eq_ok, entries, entries]
      exact .cons ⟨rfl, checkEvaluation_eq_ok.mpr ⟨by decide, read⟩⟩ .nil
  have refused : faulty.check = .error (.reservedKey "user") := by with_unfolding_all rfl
  exact ⟨⟨checked, accepted, (check_sound_or_first config).2.1 checked accepted⟩,
    ((check_sound_or_first faulty).2.2 _).mp refused⟩

end Config
end Assay
