import Assay.Config
import Assay.Proofs.Mapping

/-!
# Accepted configurations

A configuration that passes its check extracts and evaluates no key that the harness supplies and
no key in two ways, and its matchers and expressions are those of its texts, under the same keys.
-/

namespace Assay

theorem checkEvaluation_eq_ok {key source : String} {expression : Expression} :
    checkEvaluation key source = .ok expression ↔
      isReserved key = false ∧ Expression.read source = .ok expression := by
  rw [checkEvaluation]
  split
  · simp_all
  · simp_all [Outcome.mapError_eq_ok]

namespace Config

variable {config : Config} {checked : CheckedConfig} {key : String}

theorem checkSpec_eq_ok {spec : MatchSpec} {matcher : Matcher} :
    config.checkSpec key spec = .ok matcher ↔
      isReserved key = false ∧ config.evaluations.get? key = none ∧
        spec.validate = .ok matcher := by
  rw [checkSpec, ← Mapping.contains_eq_false_iff]
  split
  · simp_all
  · split
    · simp_all
    · simp_all [Outcome.mapError_eq_ok]

theorem check_eq_ok : config.check = .ok checked ↔
    config.specs.tryMap config.checkSpec = .ok checked.matchers ∧
      checkEvaluations config.evaluations = .ok checked.evaluations := by
  simp only [check, Outcome.bind_eq_ok, Outcome.mapError_eq_ok]
  constructor
  · rintro ⟨matchers, made, evaluations, read, ⟨⟩⟩
    exact ⟨made, read⟩
  · rintro ⟨made, read⟩
    exact ⟨checked.matchers, made, checked.evaluations, read, rfl⟩

section

variable (accepted : config.check = .ok checked)

include accepted

theorem keys_matchers : checked.matchers.keys = config.specs.keys :=
  Mapping.keys_of_tryMap (check_eq_ok.mp accepted).1

/-- An extracted key is neither supplied by the harness nor evaluated. -/
theorem exists_matcher {spec : MatchSpec} (found : config.specs.get? key = some spec) :
    isReserved key = false ∧ config.evaluations.get? key = none ∧
      ∃ matcher, spec.validate = .ok matcher ∧ checked.matchers.get? key = some matcher := by
  obtain ⟨matcher, made, found_matcher⟩ :=
    Mapping.exists_of_tryMap (check_eq_ok.mp accepted).1 found
  obtain ⟨free, alone, valid⟩ := checkSpec_eq_ok.mp made
  exact ⟨free, alone, matcher, valid, found_matcher⟩

/-- An evaluated key is not supplied by the harness. -/
theorem exists_expression {source : String} (found : config.evaluations.get? key = some source) :
    isReserved key = false ∧
      ∃ expression, Expression.read source = .ok expression ∧
        checked.evaluations.get? key = some expression := by
  obtain ⟨expression, made, found_expression⟩ :=
    Mapping.exists_of_tryMap (check_eq_ok.mp accepted).2 found
  obtain ⟨free, read⟩ := checkEvaluation_eq_ok.mp made
  exact ⟨free, expression, read, found_expression⟩

theorem no_matcher (absent : config.specs.get? key = none) : checked.matchers.get? key = none :=
  Mapping.get?_eq_none_of_tryMap (check_eq_ok.mp accepted).1 absent

theorem no_expression (absent : config.evaluations.get? key = none) :
    checked.evaluations.get? key = none :=
  Mapping.get?_eq_none_of_tryMap (check_eq_ok.mp accepted).2 absent

/-- A key that the harness supplies is not named by the configuration. -/
theorem unnamed_of_isReserved (reserved : isReserved key = true) :
    config.specs.get? key = none ∧ config.evaluations.get? key = none := by
  constructor
  · cases found : config.specs.get? key with
    | none => rfl
    | some spec => simp [(exists_matcher accepted found).1] at reserved
  · cases found : config.evaluations.get? key with
    | none => rfl
    | some source => simp [(exists_expression accepted found).1] at reserved

end

end Config
end Assay
