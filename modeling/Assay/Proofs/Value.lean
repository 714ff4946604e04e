import Assay.Proofs.Mapping
import Assay.Value
import Mathlib.Data.List.MinMax

/-!
# Values by their parts

What holds of a list or a mapping when it holds of its parts holds of every value. The doubles in a
value and the depth to which it is nested are found in its parts.
-/

namespace Assay

theorem Mapping.exists_place {α : Type} {mapping : Mapping α} {entry : String × α}
    (mem : entry ∈ mapping.entries) : ∃ place, mapping.value place = entry.2 := by
  have value_mem : entry.2 ∈ mapping.values := (List.of_mem_zip mem).2
  exact List.mem_ofFn.mp value_mem

namespace Value

/-- What carries over from the parts of lists and mappings holds of every value. -/
@[elab_as_elim, induction_eliminator]
theorem induct {motive : Value → Prop} (null : motive .null) (bool : ∀ truth, motive (.bool truth))
    (int : ∀ number, motive (.int number)) (float : ∀ number, motive (.float number))
    (text : ∀ content, motive (.text content))
    (list : ∀ items : List Value, (∀ item ∈ items, motive item) → motive (.list items))
    (mapping : ∀ entries : Mapping Value, (∀ entry ∈ entries.entries, motive entry.2) →
      motive (.mapping entries)) (value : Value) : motive value :=
  let OfItems (items : List Value) : Prop := ∀ item ∈ items, motive item
  let OfEntries (entries : Mapping Value) : Prop := ∀ place, motive (entries.value place)
  have of_entries (entries : Mapping Value) (parts : OfEntries entries) :
      motive (.mapping entries) := by
    refine mapping entries fun entry mem => ?_
    obtain ⟨place, found⟩ := Mapping.exists_place mem
    exact found ▸ parts place
  have of_cons (item : Value) (items : List Value) (head : motive item) (tail : OfItems items) :
      OfItems (item :: items) := List.forall_mem_cons.mpr ⟨head, tail⟩
  @Value.rec motive OfItems OfEntries null bool int float text list of_entries nofun of_cons
    (fun _ _ _ parts => parts) value

/-! ## Doubles -/

mutual

/-- The doubles in a value. -/
def floats : Value → List Float
  | .float number => [number]
  | .list items => itemFloats items
  | .mapping entries => entryFloats entries
  | _ => []

/-- The doubles in the values of a list. -/
def itemFloats : List Value → List Float
  | [] => []
  | item :: items => item.floats ++ itemFloats items

/-- The doubles in the values of a mapping. -/
def entryFloats : Mapping Value → List Float
  | ⟨_, _, value⟩ => (List.ofFn fun place => (value place).floats).flatten

end

theorem mem_itemFloats_iff {items : List Value} {number : Float} :
    number ∈ itemFloats items ↔ ∃ item ∈ items, number ∈ item.floats := by
  induction items with
  | nil => simp [itemFloats]
  | cons first items ih => simp [itemFloats, ih]

theorem mem_itemFloats {items : List Value} {item : Value} (item_mem : item ∈ items)
    {number : Float} (mem : number ∈ item.floats) : number ∈ itemFloats items :=
  mem_itemFloats_iff.mpr ⟨item, item_mem, mem⟩

theorem mem_entryFloats_iff {entries : Mapping Value} {number : Float} :
    number ∈ entryFloats entries ↔ ∃ entry ∈ entries.entries, number ∈ entry.2.floats := by
  have flat_eq : entryFloats entries = (entries.values.map floats).flatten := by
    rw [entryFloats, Mapping.values, List.map_ofFn]
    rfl
  rw [flat_eq, ← Mapping.map_snd_entries]
  simp

theorem mem_entryFloats {entries : Mapping Value} {entry : String × Value}
    (entry_mem : entry ∈ entries.entries) {number : Float} (mem : number ∈ entry.2.floats) :
    number ∈ entryFloats entries :=
  mem_entryFloats_iff.mpr ⟨entry, entry_mem, mem⟩

/-! ## Containing -/

/-- A value is a part of another, in lists and mappings nested to any depth, or this itself. -/
inductive Contains : Value → Value → Prop
  /-- The value itself. -/
  | self (value : Value) : Contains value value
  /-- A part of an element of a list. -/
  | item {items : List Value} {item part : Value} (mem : item ∈ items)
      (contains : Contains item part) : Contains (.list items) part
  /-- A part of an entry of a mapping. -/
  | entry {entries : Mapping Value} {entry : String × Value} {part : Value}
      (mem : entry ∈ entries.entries) (contains : Contains entry.2 part) :
      Contains (.mapping entries) part

/-- The doubles in a value are the ones that it contains. -/
theorem mem_floats_iff {value : Value} {number : Float} :
    number ∈ value.floats ↔ value.Contains (.float number) := by
  constructor
  · intro mem
    induction value with
    | null | bool _ | int _ | text _ => cases mem
    | float other =>
        obtain rfl : number = other := List.mem_singleton.mp mem
        exact .self _
    | list items ih =>
        obtain ⟨item, item_mem, mem⟩ := mem_itemFloats_iff.mp mem
        exact .item item_mem (ih item item_mem mem)
    | mapping entries ih =>
        obtain ⟨entry, entry_mem, mem⟩ := mem_entryFloats_iff.mp mem
        exact .entry entry_mem (ih entry entry_mem mem)
  · intro contains
    generalize part_eq : Value.float number = part at contains
    induction contains with
    | self =>
        subst part_eq
        exact List.mem_singleton_self number
    | item mem _ ih => exact mem_itemFloats mem (ih part_eq)
    | entry mem _ ih => exact mem_entryFloats mem (ih part_eq)

/-! ## Nesting -/

mutual

/-- How deep lists and mappings are nested in a value. -/
def nesting : Value → Nat
  | .list items => itemNesting items + 1
  | .mapping entries => entryNesting entries + 1
  | _ => 0

/-- The greatest depth among the values of a list. -/
def itemNesting : List Value → Nat
  | [] => 0
  | item :: items => max item.nesting (itemNesting items)

/-- The greatest depth among the values of a mapping. -/
def entryNesting : Mapping Value → Nat
  | ⟨_, _, value⟩ => (List.ofFn fun place => (value place).nesting).foldr max 0

end

theorem nesting_le_itemNesting {items : List Value} {item : Value} (mem : item ∈ items) :
    item.nesting ≤ itemNesting items := by
  induction items with
  | nil => cases mem
  | cons first items ih =>
      rw [itemNesting]
      rcases List.mem_cons.mp mem with rfl | later
      · exact Nat.le_max_left _ _
      · exact Nat.le_trans (ih later) (Nat.le_max_right _ _)

theorem nesting_le_entryNesting {entries : Mapping Value} {entry : String × Value}
    (mem : entry ∈ entries.entries) : entry.2.nesting ≤ entryNesting entries := by
  obtain ⟨place, found⟩ := Mapping.exists_place mem
  rw [entryNesting, ← found]
  exact List.le_max_of_le' 0 (List.mem_ofFn.mpr ⟨place, rfl⟩) (Nat.le_refl _)

end Value
end Assay
