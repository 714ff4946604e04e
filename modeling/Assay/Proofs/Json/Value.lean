import Assay.Proofs.Json.Double
import Assay.Proofs.Json.Reader
import Assay.Proofs.Value

/-!
# Values as JSON

A value whose doubles are finite and are read back, and that is not nested too deep, is what its
document means: a whole number is never read as a double, nor a double as a whole number.
-/

namespace Assay

namespace Json

/-- Whether the literal that a double is written as is read as the same double. -/
def ReadsBack (number : Float) : Prop :=
  double? (numberLayout.write number).toList = some number

theorem sound_ofInt (number : Int) : Sound (.ofInt number) := .number (literal_toString number)

theorem sound_ofFloat (number : Float) : Sound (.ofFloat number) := by
  rw [ofFloat]
  split
  · rename_i finite
    exact .number (literal_write finite)
  · exact .null

theorem toValue?_ofFloat {number : Float} (finite : number.isFinite = true)
    (reads : ReadsBack number) (depth : Nat) :
    (ofFloat number).toValue? depth = some (.float number) := by
  rw [ofFloat, if_pos finite, toValue?, numberValue?_write finite, reads, Option.map_some]

theorem itemValues?_map {depth : Nat} {items : List Value}
    (read : ∀ item ∈ items, item.toJson.toValue? depth = some item) :
    itemValues? depth (items.map Value.toJson) = some items := by
  induction items with
  | nil => rfl
  | cons item items ih =>
      obtain ⟨first, later⟩ := List.forall_mem_cons.mp read
      rw [List.map_cons, itemValues?, first, ih later]
      rfl

theorem memberValues?_map {depth : Nat} {entries : List (String × Value)}
    (read : ∀ entry ∈ entries, entry.2.toJson.toValue? depth = some entry.2) :
    memberValues? depth (entries.map fun entry => (some entry.1, entry.2.toJson)) =
      some entries := by
  induction entries with
  | nil => rfl
  | cons entry entries ih =>
      obtain ⟨first, later⟩ := List.forall_mem_cons.mp read
      rw [List.map_cons, memberValues?, first, ih later]
      rfl

end Json

namespace Value

theorem toJsonItems_eq_map (items : List Value) : toJsonItems items = items.map toJson := by
  induction items with
  | nil => rfl
  | cons item items ih => rw [toJsonItems, ih, List.map_cons]

theorem toJsonEntries_eq_map (entries : Mapping Value) :
    toJsonEntries entries =
      entries.entries.map fun entry => (some entry.1, entry.2.toJson) := by
  obtain ⟨keys, ascending, value⟩ := entries
  apply List.ext_getElem
  · simp [toJsonEntries, Mapping.entries]
  · intro place _ _
    simp [toJsonEntries, Mapping.entries, Mapping.values]

/-- The document of a value has literals for its numbers and content for its texts. -/
theorem sound_toJson (value : Value) : value.toJson.Sound := by
  induction value with
  | null => exact .null
  | bool truth => exact .bool truth
  | int number => exact Json.sound_ofInt number.toInt
  | float number => exact Json.sound_ofFloat number
  | text content => exact .text content
  | list items ih =>
      rw [toJson, toJsonItems_eq_map]
      refine .array fun document mem => ?_
      obtain ⟨item, item_mem, rfl⟩ := List.mem_map.mp mem
      exact ih item item_mem
  | mapping entries ih =>
      rw [toJson, toJsonEntries_eq_map]
      refine .object (fun member mem => ?_) fun member mem => ?_
      · obtain ⟨entry, _, rfl⟩ := List.mem_map.mp mem
        rfl
      · obtain ⟨entry, entry_mem, rfl⟩ := List.mem_map.mp mem
        exact ih entry entry_mem

/-- A value is what its document means. -/
theorem toValue?_toJson {value : Value} {depth : Nat}
    (finite : ∀ number ∈ value.floats, number.isFinite = true)
    (reads : ∀ number ∈ value.floats, Json.ReadsBack number) (shallow : value.nesting < depth) :
    value.toJson.toValue? depth = some value := by
  induction value generalizing depth with
  | null => rfl
  | bool truth => rfl
  | text content => rfl
  | int number => exact Json.numberValue?_toString number
  | float number =>
      exact Json.toValue?_ofFloat (finite number List.mem_cons_self)
        (reads number List.mem_cons_self) depth
  | list items ih =>
      rw [nesting] at shallow
      have read (item : Value) (mem : item ∈ items) :
          item.toJson.toValue? (depth - 1) = some item := by
        have deepest := nesting_le_itemNesting mem
        exact ih item mem (fun number here => finite number (mem_itemFloats mem here))
          (fun number here => reads number (mem_itemFloats mem here)) (by omega)
      rw [toJson, Json.toValue?, if_neg (by omega), toJsonItems_eq_map, Json.itemValues?_map read,
        Option.map_some]
  | mapping entries ih =>
      rw [nesting] at shallow
      have read (entry : String × Value) (mem : entry ∈ entries.entries) :
          entry.2.toJson.toValue? (depth - 1) = some entry.2 := by
        have deepest := nesting_le_entryNesting mem
        exact ih entry mem (fun number here => finite number (mem_entryFloats mem here))
          (fun number here => reads number (mem_entryFloats mem here)) (by omega)
      have same : Mapping.ofList entries.entries = entries :=
        Mapping.eq_of_entries (Mapping.entries_ofList entries.ascending_entries)
      rw [toJson, Json.toValue?, if_neg (by omega), toJsonEntries_eq_map,
        Json.memberValues?_map read, Option.map_some, same]

end Value

end Assay
