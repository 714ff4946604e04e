import Assay.Proofs.Json.Value
import Assay.Report.Decode

/-!
# Reading back what was written

Namespaces and reports that are written as JSON, on one line or on many, are read back as they
were. Doubles are taken to be finite and to be read back on their own, and values not to be nested
deeper than is read.
-/

namespace Assay

/-- What is taken for granted of a namespace that is read back at the given depth still left. -/
structure Namespace.Readable (depth : Nat) (results : Namespace) : Prop where
  /-- There is no infinity and nothing that is no number. -/
  finite : ∀ number ∈ (Value.mapping results).floats, number.isFinite = true
  /-- The literals of the doubles are read as these doubles. -/
  reads : ∀ number ∈ (Value.mapping results).floats, Json.ReadsBack number
  /-- The namespace is not nested deeper than is read. -/
  shallow : (Value.mapping results).nesting < depth

/-- A namespace is what its document means. -/
theorem Namespace.toNamespace?_toJson {depth : Nat} {results : Namespace}
    (readable : Readable depth results) : results.toJson.toNamespace? depth = some results := by
  have read : results.toJson.toValue? depth = some (.mapping results) :=
    Value.toValue?_toJson readable.finite readable.reads readable.shallow
  rw [Json.toNamespace?, read]

theorem Namespace.sound_toJson (results : Namespace) : results.toJson.Sound :=
  Value.sound_toJson (.mapping results)

/-! ## Reports -/

namespace Json

theorem mapM_map {α β : Type} {read : β → Option α} {write : α → β} {items : List α}
    (back : ∀ item ∈ items, read (write item) = some item) :
    (items.map write).mapM read = some items := by
  induction items with
  | nil => rfl
  | cons item items ih =>
      obtain ⟨first, later⟩ := List.forall_mem_cons.mp back
      rw [List.map_cons, List.mapM_cons, first, ih later]
      rfl

/-- The object with the given fields for its members. -/
def ofFields (fields : List (String × Json)) : Json :=
  .object (fields.map fun field => member field.1 field.2)

/-- The fields of an object are read if their names are some of the given ones, in order. -/
theorem fields?_ofFields {names : List String} {fields : List (String × Json)}
    (named : (fields.map Prod.fst).Sublist names) (nodup : names.Nodup) :
    fields? names (ofFields fields) = some fields := by
  have keyed : (fields.map fun field => member field.1 field.2).mapM
      (fun member => member.1.map fun key => (key, member.2)) = some fields :=
    mapM_map fun _ _ => rfl
  have known : fields.filter (fun field => names.contains field.1) = fields := by
    rw [List.filter_eq_self]
    intro field mem
    exact List.contains_iff_mem.mpr (named.subset (List.mem_map_of_mem mem))
  rw [ofFields, fields?, keyed]
  change (if ((fields.filter fun field => names.contains field.1).map Prod.fst).Nodup then
    some (fields.filter fun field => names.contains field.1) else none) = some fields
  rw [known, if_pos (nodup.sublist named)]

theorem sound_ofFields {fields : List (String × Json)}
    (sound : ∀ field ∈ fields, field.2.Sound) : (ofFields fields).Sound := by
  refine .object (fun member mem => ?_) fun member mem => ?_
  · obtain ⟨field, _, rfl⟩ := List.mem_map.mp mem
    rfl
  · obtain ⟨field, field_mem, rfl⟩ := List.mem_map.mp mem
    exact sound field field_mem

/-- The field that an optional member writes. -/
def optional {α : Type} (name : String) (write : α → Json) (content : Option α) :
    List (String × Json) :=
  content.toList.map fun value => (name, write value)

theorem optionalMember_eq_map {α : Type} (name : String) (write : α → Json) (content : Option α) :
    optionalMember name write content =
      (optional name write content).map fun field => Json.member field.1 field.2 := by
  cases content <;> rfl

theorem optional_sublist {α : Type} (name : String) (write : α → Json) (content : Option α) :
    ((optional name write content).map Prod.fst).Sublist [name] := by
  cases content with
  | none => exact List.nil_sublist _
  | some => exact List.Sublist.refl _

theorem sound_optional {α : Type} {write : α → Json} (sound : ∀ value, (write value).Sound)
    (name : String) (content : Option α) :
    ∀ field ∈ optional name write content, field.2.Sound := by
  intro field mem
  obtain ⟨value, _, rfl⟩ := List.mem_map.mp mem
  exact sound value

theorem lookup_optional_append {α : Type} (name other : String) (write : α → Json)
    (content : Option α) (rest : List (String × Json)) :
    (optional other write content ++ rest).lookup name =
      if name = other then (content.map write).or (rest.lookup name) else rest.lookup name := by
  cases content with
  | none => simp [optional]
  | some value => exact Mapping.lookup_cons_eq_ite other name (write value) rest

theorem lookup_optional {α : Type} (name other : String) (write : α → Json) (content : Option α) :
    (optional other write content).lookup name =
      if name = other then content.map write else none := by
  have found := lookup_optional_append name other write content []
  rwa [List.append_nil, List.lookup_nil, Option.or_none] at found

theorem field?_eq {α : Type} {read : Json → Option α} {name : String}
    {fields : List (String × Json)} {value : Json} (found : fields.lookup name = some value) :
    field? read name fields = read value := by
  rw [field?, found, Option.bind_some]

/-- An optional field is read back, present or not. -/
theorem optionalField?_eq {α : Type} {read : Json → Option α} (write : α → Json) {name : String}
    {fields : List (String × Json)} {content : Option α}
    (found : fields.lookup name = content.map write) (not_null : ∀ value, write value ≠ .null)
    (reads : ∀ value ∈ content, read (write value) = some value) :
    optionalField? read name fields = some content := by
  rw [optionalField?, found]
  cases content with
  | none => rfl
  | some value =>
      rw [Option.map_some]
      split
      · rename_i missing
        cases missing
      · rename_i is_null
        exact absurd (Option.some.inj is_null) (not_null value)
      · rename_i written _ same
        rw [← Option.some.inj same, reads value rfl]
        rfl

theorem ofInt_natCast (count : Nat) : ofInt count = .number (Nat.toDigits 10 count) :=
  congrArg Json.number Nat.toList_repr

theorem count?_ofInt {count : Nat} (fits : count < wordLimit) :
    count? (.ofInt count) = some count := by
  have all_digits : (Nat.toDigits 10 count).all Text.isDigit = true :=
    List.all_eq_true.mpr (Decimal.digits_toDigits count).isDigit
  rw [ofInt_natCast, count?, all_digits, Decimal.numeral_toDigits]
  simp [fits]

end Json

/-- The counts are words of 64 bits. -/
structure RunSummary.Readable (summary : RunSummary) : Prop where
  total : summary.total < Json.wordLimit
  passed : summary.passed < Json.wordLimit
  failed : summary.failed < Json.wordLimit

/-- The fields of counts. -/
def RunSummary.fields (summary : RunSummary) : List (String × Json) :=
  [("total", .ofInt summary.total), ("passed", .ofInt summary.passed),
    ("failed", .ofInt summary.failed)]

theorem RunSummary.toJson_eq (summary : RunSummary) : summary.toJson = .ofFields summary.fields :=
  rfl

theorem RunSummary.sound_toJson (summary : RunSummary) : summary.toJson.Sound := by
  rw [toJson_eq]
  apply Json.sound_ofFields
  simp [fields, Json.sound_ofInt]

theorem RunSummary.fields?_toJson (summary : RunSummary) :
    summary.toJson.fields? ["total", "passed", "failed"] = some summary.fields := by
  rw [toJson_eq]
  exact Json.fields?_ofFields (List.Sublist.refl _) (by decide)

theorem RunSummary.ofJson?_toJson {summary : RunSummary} (readable : summary.Readable) :
    ofJson? summary.toJson = some summary := by
  have total : Json.field? Json.count? "total" summary.fields = some summary.total :=
    (Json.field?_eq rfl).trans (Json.count?_ofInt readable.total)
  have passed : Json.field? Json.count? "passed" summary.fields = some summary.passed :=
    (Json.field?_eq rfl).trans (Json.count?_ofInt readable.passed)
  have failed : Json.field? Json.count? "failed" summary.fields = some summary.failed :=
    (Json.field?_eq rfl).trans (Json.count?_ofInt readable.failed)
  rw [ofJson?, fields?_toJson]
  simp [total, passed, failed]

/-- The fields that a test has in a report. -/
def TestReport.fields (test : TestReport) : List (String × Json) :=
  ("name", Json.ofText test.name) ::
    (Json.optional "id" Json.ofText test.id ++
      (Json.optional "results" Namespace.toJson test.results ++
        Json.optional "error" Json.ofText test.error))

theorem TestReport.toJson_eq (test : TestReport) : test.toJson = .ofFields test.fields := by
  simp [toJson, fields, Json.ofFields, Json.optionalMember_eq_map]

theorem TestReport.sound_toJson (test : TestReport) : test.toJson.Sound := by
  rw [toJson_eq]
  apply Json.sound_ofFields
  rw [fields, List.forall_mem_cons, List.forall_mem_append, List.forall_mem_append]
  exact ⟨.text _, Json.sound_optional .text _ _,
    Json.sound_optional Namespace.sound_toJson _ _, Json.sound_optional .text _ _⟩

theorem TestReport.fields?_toJson (test : TestReport) :
    test.toJson.fields? ["name", "id", "results", "error"] = some test.fields := by
  rw [toJson_eq]
  refine Json.fields?_ofFields ?_ (by decide)
  rw [fields, List.map_cons, List.map_append, List.map_append]
  exact .cons_cons "name" ((Json.optional_sublist ..).append
    ((Json.optional_sublist ..).append (Json.optional_sublist ..)))

/-- The parts that a test has are found under their names. -/
theorem TestReport.lookup_fields (test : TestReport) :
    test.fields.lookup "name" = some (.ofText test.name) ∧
    test.fields.lookup "id" = test.id.map Json.ofText ∧
    test.fields.lookup "results" = test.results.map Namespace.toJson ∧
    test.fields.lookup "error" = test.error.map Json.ofText := by
  simp [fields, Mapping.lookup_cons_eq_ite, Json.lookup_optional_append, Json.lookup_optional]

/-- A test is read back whatever of its optional parts it has. -/
theorem TestReport.ofJson?_toJson {test : TestReport}
    (readable : ∀ results ∈ test.results, Namespace.Readable reportDepth results) :
    ofJson? test.toJson = some test := by
  obtain ⟨name_eq, id_eq, results_eq, error_eq⟩ := test.lookup_fields
  have name : Json.field? Json.text? "name" test.fields = some test.name := Json.field?_eq name_eq
  have id : Json.optionalField? Json.text? "id" test.fields = some test.id :=
    Json.optionalField?_eq Json.ofText id_eq (fun _ => nofun) fun _ _ => rfl
  have results : Json.optionalField? (Json.toNamespace? reportDepth) "results" test.fields =
      some test.results :=
    Json.optionalField?_eq Namespace.toJson results_eq (fun _ => nofun) fun results present =>
      Namespace.toNamespace?_toJson (readable results present)
  have error : Json.optionalField? Json.text? "error" test.fields = some test.error :=
    Json.optionalField?_eq Json.ofText error_eq (fun _ => nofun) fun _ _ => rfl
  rw [ofJson?, fields?_toJson]
  simp [name, id, results, error]

/-- What is taken for granted of a report that is read back. -/
structure RunReport.Readable (report : RunReport) : Prop where
  /-- The results can be read back at the depth that is left for them. -/
  results : ∀ test ∈ report.tests, ∀ results ∈ test.results,
    Namespace.Readable reportDepth results
  /-- The counts can be read back. -/
  summary : report.summary.Readable

/-- The fields of a report. -/
def RunReport.fields (report : RunReport) : List (String × Json) :=
  [("timestamp", .ofText report.timestamp),
    ("tests", .array (report.tests.map TestReport.toJson)), ("summary", report.summary.toJson)]

theorem RunReport.toJson_eq (report : RunReport) : report.toJson = .ofFields report.fields := rfl

theorem RunReport.sound_toJson (report : RunReport) : report.toJson.Sound := by
  rw [toJson_eq]
  apply Json.sound_ofFields
  have tests (document : Json) (mem : document ∈ report.tests.map TestReport.toJson) :
      document.Sound := by
    obtain ⟨test, _, rfl⟩ := List.mem_map.mp mem
    exact test.sound_toJson
  rw [fields, List.forall_mem_cons, List.forall_mem_cons, List.forall_mem_singleton]
  exact ⟨.text _, .array tests, report.summary.sound_toJson⟩

theorem RunReport.fields?_toJson (report : RunReport) :
    report.toJson.fields? ["timestamp", "tests", "summary"] = some report.fields := by
  rw [toJson_eq]
  exact Json.fields?_ofFields (List.Sublist.refl _) (by decide)

/-- A report is what its document means. -/
theorem RunReport.ofJson?_toJson {report : RunReport} (readable : report.Readable) :
    ofJson? report.toJson = some report := by
  have timestamp : Json.field? Json.text? "timestamp" report.fields = some report.timestamp := rfl
  have tests : Json.field? (Json.each? TestReport.ofJson?) "tests" report.fields =
      some report.tests := by
    rw [Json.field?_eq rfl, Json.each?]
    exact Json.mapM_map fun test mem => TestReport.ofJson?_toJson (readable.results test mem)
  have summary : Json.field? RunSummary.ofJson? "summary" report.fields = some report.summary :=
    (Json.field?_eq rfl).trans (RunSummary.ofJson?_toJson readable.summary)
  rw [ofJson?, fields?_toJson]
  simp [timestamp, tests, summary]

/-- Namespaces and reports are read back as they were from both texts that they are written as. No
whole number comes back as a double, nor a double as a whole number, and what a report leaves out
stays absent. -/
theorem json_round_trip :
    (∀ results : Namespace, results.Readable Json.maxDepth →
      Namespace.ofJsonText? results.toJson.toText = some results ∧
        Namespace.ofJsonText? results.toJson.toPrettyText = some results) ∧
    ∀ report : RunReport, report.Readable →
      RunReport.ofJsonText? report.toJson.toText = some report ∧
        RunReport.ofJsonText? report.toJson.toPrettyText = some report := by
  constructor
  · intro results readable
    have sound := results.sound_toJson
    have meant := Namespace.toNamespace?_toJson readable
    constructor
    · rw [Namespace.ofJsonText?, sound.read?_toText, Option.bind_some, meant]
    · rw [Namespace.ofJsonText?, sound.read?_toPrettyText, Option.bind_some, meant]
  · intro report readable
    have sound := report.sound_toJson
    have meant := RunReport.ofJson?_toJson readable
    constructor
    · rw [RunReport.ofJsonText?, sound.read?_toText, Option.bind_some, meant]
    · rw [RunReport.ofJsonText?, sound.read?_toPrettyText, Option.bind_some, meant]

/-- Results in which whole numbers and doubles stand beside each other at every depth. -/
def nestedResults : Namespace := .ofList [
  ("bounds", .list [.int Int64.minValue,
    .mapping (.ofList [("none", .null), ("whole", .float 2)])]),
  ("greatest", .int Int64.maxValue), ("label", .text "a\t\"b\""), ("ratio", .float 1.5)]

/-- A report on a test with these results and one that failed. -/
def mixedReport : RunReport where
  timestamp := "now"
  tests := [⟨"good", none, some nestedResults, none⟩, ⟨"gone", some "1", none, some "not found"⟩]
  summary := ⟨2, 1, 1⟩

theorem floats_nestedResults : (Value.mapping nestedResults).floats = [2, 1.5] := by
  with_unfolding_all rfl

theorem readable_nestedResults {depth : Nat} (enough : 3 < depth) :
    nestedResults.Readable depth := by
  have nesting_eq : (Value.mapping nestedResults).nesting = 3 := by with_unfolding_all rfl
  refine ⟨?_, ?_, nesting_eq ▸ enough⟩
  · rw [floats_nestedResults]
    decide +kernel
  · rw [floats_nestedResults, List.forall_mem_cons, List.forall_mem_singleton]
    constructor <;> with_unfolding_all rfl

/-- Doubles that are whole come back as doubles, and both ends of the words as words. -/
theorem json_round_trip_nested :
    (nestedResults.Readable Json.maxDepth ∧
      Namespace.ofJsonText? nestedResults.toJson.toText = some nestedResults) ∧
    mixedReport.Readable ∧
      RunReport.ofJsonText? mixedReport.toJson.toPrettyText = some mixedReport := by
  have results_ok : nestedResults.Readable Json.maxDepth := readable_nestedResults (by decide)
  have report_ok : mixedReport.Readable := by
    refine ⟨?_, by decide, by decide, by decide⟩
    intro test test_mem results present
    rw [mixedReport, List.mem_cons, List.mem_singleton] at test_mem
    rcases test_mem with rfl | rfl
    · cases present
      exact readable_nestedResults (by decide)
    · cases present
  exact ⟨⟨results_ok, (json_round_trip.1 nestedResults results_ok).1⟩, report_ok,
    (json_round_trip.2 mixedReport report_ok).2⟩

end Assay
