import Assay.Json.Decode
import Assay.Report

/-!
# Reading reports

A report is read from JSON. Its parts are objects, or arrays with their fields in order; members of
an object without a meaning are passed over, and none with a meaning comes twice.
-/

namespace Assay.Json

/-- The fields of a part with the given names: by name in an object, by place in an array. -/
def fields? (names : List String) : Json → Option (List (String × Json))
  | .object members => do
    let named ← members.mapM fun member => member.1.map fun key => (key, member.2)
    let known := named.filter fun member => names.contains member.1
    if (known.map Prod.fst).Nodup then return known else none
  | .array items => if items.length ≤ names.length then some (names.zip items) else none
  | _ => none

/-- The text of a document, if it is one. -/
def text? : Json → Option String
  | .text content => content
  | _ => none

/-- The count of a document: digits that make a word without sign. -/
def count? : Json → Option Nat
  | .number literal =>
    if literal.all Text.isDigit && Text.numeral literal < wordLimit then
      some (Text.numeral literal)
    else none
  | _ => none

/-- Reads a field that may be missing or have no value. -/
def optionalField? {α : Type} (read : Json → Option α) (name : String)
    (fields : List (String × Json)) : Option (Option α) :=
  match fields.lookup name with
  | none => some none
  | some .null => some none
  | some value => (read value).map some

/-- Reads a field that must be there. -/
def field? {α : Type} (read : Json → Option α) (name : String) (fields : List (String × Json)) :
    Option α :=
  (fields.lookup name).bind read

/-- The items of an array, each of them read. -/
def each? {α : Type} (read : Json → Option α) : Json → Option (List α)
  | .array items => items.mapM read
  | _ => none

end Assay.Json

namespace Assay

/-- Reads counts. -/
def RunSummary.ofJson? (document : Json) : Option RunSummary := do
  let fields ← document.fields? ["total", "passed", "failed"]
  let total ← Json.field? Json.count? "total" fields
  let passed ← Json.field? Json.count? "passed" fields
  let failed ← Json.field? Json.count? "failed" fields
  return { total, passed, failed }

/-- The depth of nesting that the values in a report have left. -/
def reportDepth : Nat := Json.maxDepth - 3

/-- Reads a test in a report. -/
def TestReport.ofJson? (document : Json) : Option TestReport := do
  let fields ← document.fields? ["name", "id", "results", "error"]
  let name ← Json.field? Json.text? "name" fields
  let id ← Json.optionalField? Json.text? "id" fields
  let results ← Json.optionalField? (Json.toNamespace? reportDepth) "results" fields
  let error ← Json.optionalField? Json.text? "error" fields
  return { name, id, results, error }

/-- Reads a report. -/
def RunReport.ofJson? (document : Json) : Option RunReport := do
  let fields ← document.fields? ["timestamp", "tests", "summary"]
  let timestamp ← Json.field? Json.text? "timestamp" fields
  let tests ← Json.field? (Json.each? TestReport.ofJson?) "tests" fields
  let summary ← Json.field? RunSummary.ofJson? "summary" fields
  return { timestamp, tests, summary }

/-- Reads a report from JSON text. -/
def RunReport.ofJsonText? (text : String) : Option RunReport :=
  (Json.read? text).bind RunReport.ofJson?

end Assay
