import Assay.Proofs.Process

/-!
# Reading the output for each matcher

A matcher reads an output line by line up to its end, or to a failure to read on, which becomes its
own whatever it has found by then. Processing a test opens the output once for each matcher, in the
order of their keys, and stops at the first failure. Only when every matcher has read the whole
output is anything evaluated.
-/

namespace Assay

/-! ## One attempt after the other -/

/-- What a resolution comes to for a test. -/
def Resolution.outcome (resolution : Resolution) : Except ProcessError Namespace :=
  match resolution.failure with
  | none => .ok resolution.results
  | some cause => .error (.evaluation cause)

theorem processResults_eq_bind (config : CheckedConfig) (base : Namespace) (opener : Opener) :
    processResults config base opener =
      extractFrom opener 0 config.matchers.entries base >>= fun extracted =>
        (evaluateParsed extracted config.evaluations).outcome := rfl

section Extraction

variable {opener : Opener} {bytes : List UInt8} {attempt : Nat} {results : Namespace}

/-- What matchers find in an output, by key. -/
def findings (bytes : List UInt8) (matchers : List (String × Matcher)) : List (String × Value) :=
  matchers.map fun entry => (entry.1, entry.2.extract bytes)

/-- A matcher that reads the whole output stores what it finds, and the next one takes the next
attempt. -/
theorem extractFrom_cons {key : String} {matcher : Matcher} {rest : List (String × Matcher)}
    (readable : opener attempt = .ok ⟨bytes, none⟩) :
    extractFrom opener attempt ((key, matcher) :: rest) results =
      extractFrom opener (attempt + 1) rest (results.insert key (matcher.extract bytes)) := by
  rw [extractFrom, readable]
  simp only [matcher.run_readable]

/-- Where the output cannot be opened, nothing is read. -/
theorem extractFrom_unopened {cause : String} {entry : String × Matcher}
    {rest : List (String × Matcher)} (failed : opener attempt = .error cause) :
    extractFrom opener attempt (entry :: rest) results = .error (.output cause) := by
  rw [extractFrom, failed]

/-- Where reading on fails, whatever has been found by then is given up. -/
theorem extractFrom_unread {cause key : String} {matcher : Matcher}
    {rest : List (String × Matcher)} (failed : opener attempt = .ok ⟨bytes, some cause⟩) :
    extractFrom opener attempt ((key, matcher) :: rest) results =
      .error (.matcher key (.io cause)) := by
  rw [extractFrom, failed]
  simp only [matcher.run_unreadable]

/-- Matchers that read the whole output take one attempt each, in their order. -/
theorem extractFrom_append {front back : List (String × Matcher)}
    (readable : ∀ place < front.length, opener (attempt + place) = .ok ⟨bytes, none⟩) :
    extractFrom opener attempt (front ++ back) results =
      extractFrom opener (attempt + front.length) back
        (results.insertAll (findings bytes front)) := by
  induction front generalizing attempt results with
  | nil => rfl
  | cons entry front ih =>
      have here : opener attempt = .ok ⟨bytes, none⟩ := readable 0 (Nat.zero_lt_succ _)
      have later : ∀ place < front.length, opener (attempt + 1 + place) = .ok ⟨bytes, none⟩ := by
        intro place inside
        rw [Nat.add_assoc, Nat.add_comm 1]
        exact readable (place + 1) (Nat.succ_lt_succ inside)
      rw [List.cons_append, extractFrom_cons here, ih later, List.length_cons,
        Nat.add_comm front.length, ← Nat.add_assoc]
      rfl

end Extraction

namespace CheckedConfig

/-- The base of a test with what each matcher finds in the whole output set at its key. -/
def extracted (config : CheckedConfig) (base : Namespace) (bytes : List UInt8) : Namespace :=
  base ∪ config.matchers.map fun matcher => matcher.extract bytes

/-- What a test comes to if its output can be read whenever it is opened. -/
def readably (config : CheckedConfig) (base : Namespace) (bytes : List UInt8) :
    Except ProcessError Namespace :=
  (evaluateParsed (config.extracted base bytes) config.evaluations).outcome

end CheckedConfig

variable {config : CheckedConfig} {base : Namespace} {bytes : List UInt8} {opener : Opener}

theorem readably_ne_output (cause : String) :
    config.readably base bytes ≠ .error (.output cause) := by
  rw [CheckedConfig.readably, Resolution.outcome]
  split <;> nofun

theorem length_entries (mapping : Mapping Matcher) : mapping.entries.length = mapping.size := by
  rw [← List.length_map, Mapping.map_fst_entries]
  rfl

theorem processResults_of_readable
    (readable : ∀ attempt < config.matchers.size, opener attempt = .ok ⟨bytes, none⟩) :
    processResults config base opener = config.readably base bytes := by
  have found : findings bytes config.matchers.entries =
      (config.matchers.map fun matcher => matcher.extract bytes).entries := by
    rw [Mapping.entries_map]
    rfl
  have served : ∀ place < config.matchers.entries.length,
      opener (0 + place) = .ok ⟨bytes, none⟩ := by
    intro place inside
    rw [length_entries] at inside
    rw [Nat.zero_add]
    exact readable place inside
  have extraction : extractFrom opener 0 (config.matchers.entries ++ []) base =
      .ok (config.extracted base bytes) := by
    rw [extractFrom_append served, found]
    rfl
  rw [List.append_nil] at extraction
  rw [processResults_eq_bind, extraction]
  rfl

/-- The attempt that fails is reached if there are more matchers than have been served before. -/
theorem processResults_of_unopened {count : Nat} {cause : String}
    (readable : ∀ attempt < count, opener attempt = .ok ⟨bytes, none⟩)
    (failed : opener count = .error cause) (reached : count < config.matchers.size) :
    processResults config base opener = .error (.output cause) := by
  rw [← length_entries] at reached
  have front_length : (config.matchers.entries.take count).length = count :=
    List.length_take_of_le (Nat.le_of_lt reached)
  have served : ∀ place < (config.matchers.entries.take count).length,
      opener (0 + place) = .ok ⟨bytes, none⟩ := by
    intro place inside
    rw [Nat.zero_add]
    exact readable place (front_length ▸ inside)
  have extraction : extractFrom opener 0
      (config.matchers.entries.take count ++ config.matchers.entries.drop count) base =
        .error (.output cause) := by
    rw [extractFrom_append served, front_length, List.drop_eq_getElem_cons reached]
    exact extractFrom_unopened (by rw [Nat.zero_add, failed])
  rw [List.take_append_drop] at extraction
  rw [processResults_eq_bind, extraction]
  rfl

/-- The first matcher fails, which is the one of the smallest key. -/
theorem processResults_of_unread (failing : ∀ attempt, ∃ seen cause,
      opener attempt = .ok ⟨seen, some cause⟩) (nonempty : 0 < config.matchers.size) :
    ∃ key ∈ config.matchers.keys, (∀ other ∈ config.matchers.keys, key ≤ other) ∧
      ∃ seen cause, opener 0 = .ok ⟨seen, some cause⟩ ∧
        processResults config base opener = .error (.matcher key (.io cause)) := by
  rw [← length_entries] at nonempty
  obtain ⟨⟨key, matcher⟩, rest, entries_eq⟩ :=
    List.exists_cons_of_ne_nil (List.length_pos_iff.mp nonempty)
  have keys_eq : config.matchers.keys = key :: rest.map Prod.fst := by
    rw [← Mapping.map_fst_entries, entries_eq, List.map_cons]
  have ascending := config.matchers.ascending
  rw [keys_eq, List.pairwise_cons] at ascending
  obtain ⟨seen, cause, failed⟩ := failing 0
  refine ⟨key, by simp [keys_eq], ?_, seen, cause, failed, ?_⟩
  · intro other mem
    rw [keys_eq] at mem
    rcases List.mem_cons.mp mem with rfl | later
    · exact String.le_refl _
    · exact String.not_lt.mp (String.lt_asymm (ascending.1 other later))
  · rw [processResults_eq_bind, entries_eq, extractFrom_unread failed]
    rfl

/-- Every matcher reads the whole output anew, and a test comes to what its evaluations make of
that. If the output can be opened only some number of times, processing fails for want of another
attempt exactly if there are more matchers. If reading always breaks off, the matcher of the
smallest key fails, if there is one. -/
theorem processResults_reads (config : CheckedConfig) (base : Namespace) (bytes : List UInt8)
    (opener : Opener) :
    ((∀ attempt < config.matchers.size, opener attempt = .ok ⟨bytes, none⟩) →
      processResults config base opener = config.readably base bytes) ∧
    (∀ count cause, (∀ attempt < count, opener attempt = .ok ⟨bytes, none⟩) →
      opener count = .error cause →
      ((∃ other, processResults config base opener = .error (.output other)) ↔
        count < config.matchers.size) ∧
      (count < config.matchers.size →
        processResults config base opener = .error (.output cause)) ∧
      (config.matchers.size ≤ count →
        processResults config base opener = config.readably base bytes)) ∧
    ((∀ attempt, ∃ seen cause, opener attempt = .ok ⟨seen, some cause⟩) →
      (0 < config.matchers.size →
        ∃ key ∈ config.matchers.keys, (∀ other ∈ config.matchers.keys, key ≤ other) ∧
          ∃ seen cause, opener 0 = .ok ⟨seen, some cause⟩ ∧
            processResults config base opener = .error (.matcher key (.io cause))) ∧
      (config.matchers.size = 0 →
        processResults config base opener = config.readably base bytes)) := by
  refine ⟨processResults_of_readable, fun count cause readable failed => ?_, fun failing => ?_⟩
  · have refused (reached : count < config.matchers.size) :
        processResults config base opener = .error (.output cause) :=
      processResults_of_unopened readable failed reached
    have served (enough : config.matchers.size ≤ count) :
        processResults config base opener = config.readably base bytes :=
      processResults_of_readable fun attempt inside =>
        readable attempt (Nat.lt_of_lt_of_le inside enough)
    refine ⟨⟨?_, fun reached => ⟨cause, refused reached⟩⟩, refused, served⟩
    rintro ⟨other, unopened⟩
    by_contra enough
    rw [served (Nat.not_lt.mp enough)] at unopened
    exact readably_ne_output other unopened
  · refine ⟨processResults_of_unread failing, fun empty => processResults_of_readable ?_⟩
    intro attempt inside
    rw [empty] at inside
    exact absurd inside (Nat.not_lt_zero attempt)

/-- Two matchers read an output twice, and each finds its own value in all of it. They fail when it
can be opened only once, and the first of them fails when reading breaks off. -/
theorem processResults_reads_twice :
    ∃ digit number, someDigit.validate = .ok digit ∧ Matcher.lastNumber.validate = .ok number ∧
      let config : CheckedConfig := ⟨.ofList [("digit", digit), ("result", number)], ∅⟩
      let base : Namespace := .ofList [("build", .int 7)]
      let output : Output := ⟨[0x37, Output.newline, 0x38], none⟩
      let once : Opener := fun attempt => if attempt < 1 then .ok output else .error "open failed"
      processResults config base (.always (.ok output)) =
          .ok (.ofList [("build", .int 7), ("digit", .bool true), ("result", .text "8")]) ∧
        processResults config base once = .error (.output "open failed") ∧
        processResults config base (.always (.ok ⟨output.bytes, some "read failed"⟩)) =
          .error (.matcher "digit" (.io "read failed")) := by
  let bytes : List UInt8 := [0x37, Output.newline, 0x38]
  obtain ⟨digit, digit_valid, digit_found⟩ :
      ∃ digit, someDigit.validate = .ok digit ∧ digit.extract bytes = .bool true :=
    ⟨_, by with_unfolding_all rfl, by with_unfolding_all rfl⟩
  obtain ⟨number, number_valid, number_found⟩ :
      ∃ number, Matcher.lastNumber.validate = .ok number ∧ number.extract bytes = .text "8" :=
    ⟨_, by with_unfolding_all rfl, by with_unfolding_all rfl⟩
  refine ⟨digit, number, digit_valid, number_valid, ?_⟩
  intro config base output once
  have ascending : ["digit", "result"].Pairwise (· < ·) := List.pairwise_pair.mpr (by decide)
  have entries_eq : config.matchers.entries = [("digit", digit), ("result", number)] :=
    Mapping.entries_ofList ascending
  have keys_eq : config.matchers.keys = ["digit", "result"] := by
    rw [← Mapping.map_fst_entries, entries_eq]
    rfl
  have size_eq : config.matchers.size = 2 := congrArg List.length keys_eq
  refine ⟨?_, ?_, ?_⟩
  · have found : (config.matchers.map fun matcher => matcher.extract bytes).entries =
        [("digit", .bool true), ("result", .text "8")] := by
      rw [Mapping.entries_map, entries_eq, List.map_cons, List.map_singleton, digit_found,
        number_found]
    have extracted_eq : config.extracted base bytes =
        .ofList [("build", .int 7), ("digit", .bool true), ("result", .text "8")] := by
      change base.insertAll (config.matchers.map fun matcher => matcher.extract bytes).entries = _
      rw [found]
      rfl
    have read := (processResults_reads config base bytes (.always (.ok output))).1 fun _ _ => rfl
    rw [read, CheckedConfig.readably, extracted_eq]
    with_unfolding_all rfl
  · refine ((processResults_reads config base bytes once).2.1 1 "open failed" ?_ rfl).2.1 ?_
    · intro attempt first
      exact if_pos first
    · omega
  · obtain ⟨key, mem, least, _, _, ⟨⟩, failed⟩ :=
      ((processResults_reads config base [] (.always (.ok ⟨bytes, some "read failed"⟩))).2.2
        fun _ => ⟨_, _, rfl⟩).1 (by omega)
    rw [keys_eq] at mem least
    obtain rfl | rfl : key = "digit" ∨ key = "result" := by simpa using mem
    · exact failed
    · exact absurd (least "digit" (by simp)) (by decide)

end Assay
