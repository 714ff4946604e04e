import Assay.Config
import Assay.Yaml.Document

/-!
# Configurations in YAML

The sections and settings of a configuration as the entries of mappings. Sections and settings
have fixed names, none of which comes twice; the names of results are free, and the last entry of
a name counts.
-/

namespace Assay

open Yaml (Node)

/-- The entries of a mapping that has fixed names: none is unknown, none comes twice. -/
def fixedEntries? (names : List String) (node : Node) : Option (List (String × Node)) := do
  let entries ← node.entries?
  let written := entries.map Prod.fst
  if written.all names.contains && written.Nodup then return entries else none

/-- The mapping of a node with free names, in which the last entry of a name counts. -/
def mappingOf? {α : Type} (read : Node → Option α) (node : Node) : Option (Mapping α) := do
  let entries ← node.entries?
  let values ← entries.mapM fun entry => (read entry.2).map fun value => (entry.1, value)
  return Mapping.ofList values

/-- Reads the entry of a name, with a default if there is none. -/
def entryOr? {α : Type} (read : Node → Option α) (default : α) (name : String)
    (entries : List (String × Node)) : Option α :=
  match entries.lookup name with
  | some node => read node
  | none => some default

/-- Reads a node, unless it stands for no value. -/
def optional? {α : Type} (read : Node → Option α) (node : Node) : Option (Option α) :=
  if node.isNull then some none else (read node).map some

/-- The number of matches that a node asks for: a word without sign. -/
def countOf? (node : Node) : Option Nat := do
  let number ← node.number?
  if 0 ≤ number ∧ number.toNat < Nat.pow 2 64 then return number.toNat else none

/-- The texts of a sequence. -/
def textsOf? : Node → Option (List String)
  | .sequence items => items.mapM Node.text?
  | _ => none

/-- Reads the settings of a matcher. -/
def MatchSpec.ofNode? (node : Node) : Option MatchSpec := do
  let entries ← fixedEntries? ["regex", "match_type", "threshold", "expected"] node
  let regex ← (← entries.lookup "regex").text?
  let matchType ← entryOr? Node.text? defaultMatchType "match_type" entries
  let threshold ← entryOr? (optional? countOf?) none "threshold" entries
  let expected ← entryOr? (optional? textsOf?) none "expected" entries
  return { regex, matchType, threshold, expected }

namespace Config

/-- Reads the section of what is extracted. -/
def specsOf? (node : Node) : Option (Mapping MatchSpec) := do
  let entries ← fixedEntries? ["regex"] node
  entryOr? (mappingOf? MatchSpec.ofNode?) ∅ "regex" entries

/-- Reads the sections of a configuration. -/
def ofNode? (node : Node) : Option Config := do
  let entries ← fixedEntries? ["parse", "evaluate"] node
  let specs ← entryOr? specsOf? ∅ "parse" entries
  let evaluations ← entryOr? (mappingOf? Node.text?) ∅ "evaluate" entries
  return { specs, evaluations }

/-- Reads a configuration from a text. A text of blanks asks for nothing. -/
def read (text : String) : Except ConfigError Config :=
  if (Text.trimChars text.toList).isEmpty then .ok empty
  else
    match (Yaml.read? text).bind ofNode? with
    | some config => .ok config
    | none => .error .yaml

/-- Reads a configuration from the bytes of a file. -/
def readBytes (bytes : List UInt8) : Except ConfigError Config :=
  match Utf8.decode? bytes with
  | some text => read text
  | none => .error (.io "stream did not contain valid UTF-8")

end Config

end Assay
