/-!
# Mappings

A finite mapping from text to some type, held with its keys in strictly ascending order. The order
of text is by code point. Two mappings that give every key the same value are equal, so a mapping
has one form only, and every listing of it is in key order.
-/

namespace Assay

/-- A finite mapping from text keys to `α`. -/
structure Mapping (α : Type) where
  /-- The keys, each once. -/
  keys : List String
  /-- The keys ascend strictly. -/
  ascending : keys.Pairwise (· < ·)
  /-- The value at each key. -/
  value : Fin keys.length → α

namespace Mapping

variable {α β : Type}

/-- Whether the first components of a list of pairs ascend strictly. -/
abbrev Ascending (entries : List (String × α)) : Prop :=
  (entries.map Prod.fst).Pairwise (· < ·)

/-- The values, in key order. -/
def values (mapping : Mapping α) : List α := List.ofFn mapping.value

@[simp]
theorem length_values (mapping : Mapping α) : mapping.values.length = mapping.keys.length :=
  List.length_ofFn

/-- The keys with their values, in key order. -/
def entries (mapping : Mapping α) : List (String × α) := mapping.keys.zip mapping.values

/-- The mapping whose entries are the given ones. -/
def ofEntries (entries : List (String × α)) (ascending : Ascending entries) : Mapping α :=
  let found := entries.toArray
  { keys := entries.map Prod.fst
    ascending := ascending
    value := fun place => (found[place.cast (by simp [found] : _ = found.size)]).2 }

theorem map_fst_entries (mapping : Mapping α) : mapping.entries.map Prod.fst = mapping.keys :=
  List.map_fst_zip (Nat.le_of_eq mapping.length_values.symm)

theorem map_snd_entries (mapping : Mapping α) : mapping.entries.map Prod.snd = mapping.values :=
  List.map_snd_zip (Nat.le_of_eq mapping.length_values)

theorem ascending_entries (mapping : Mapping α) : Ascending mapping.entries := by
  rw [Ascending, map_fst_entries]
  exact mapping.ascending

@[simp]
theorem entries_ofEntries (entries : List (String × α)) (ascending : Ascending entries) :
    (ofEntries entries ascending).entries = entries := by
  apply List.ext_getElem
  · simp [Mapping.entries, ofEntries]
  · intro place _ _
    simp [Mapping.entries, values, ofEntries]

theorem eq_of_entries {left right : Mapping α} (same : left.entries = right.entries) :
    left = right := by
  obtain ⟨leftKeys, leftAscending, leftValue⟩ := left
  obtain ⟨rightKeys, rightAscending, rightValue⟩ := right
  have keys_eq : leftKeys = rightKeys := by
    have := congrArg (List.map Prod.fst) same
    rwa [map_fst_entries, map_fst_entries] at this
  subst keys_eq
  have value_eq : leftValue = rightValue := by
    have := congrArg (List.map Prod.snd) same
    rw [map_snd_entries, map_snd_entries] at this
    funext place
    have there := congrArg (fun values => values[place.val]?) this
    simpa [values] using there
  rw [value_eq]

/-- The mapping with no keys. -/
def empty : Mapping α := ofEntries [] List.Pairwise.nil

instance : EmptyCollection (Mapping α) := ⟨empty⟩

instance : Inhabited (Mapping α) := ⟨empty⟩

/-- The number of keys. -/
def size (mapping : Mapping α) : Nat := mapping.keys.length

/-- Whether there are no keys. -/
def isEmpty (mapping : Mapping α) : Bool := mapping.keys.isEmpty

/-- The value at a key, if the key is there. -/
def get? (mapping : Mapping α) (key : String) : Option α := mapping.entries.lookup key

/-- Whether a key is there. -/
def contains (mapping : Mapping α) (key : String) : Bool := mapping.keys.contains key

/-- Sets the value of a key among ascending entries. -/
def setEntry (key : String) (value : α) : List (String × α) → List (String × α)
  | [] => [(key, value)]
  | (head, headValue) :: tail =>
    if key < head then (key, value) :: (head, headValue) :: tail
    else if key = head then (key, value) :: tail
    else (head, headValue) :: setEntry key value tail

theorem mem_setEntry {key : String} {value : α} {entries : List (String × α)}
    {entry : String × α} (mem : entry ∈ setEntry key value entries) :
    entry = (key, value) ∨ entry ∈ entries := by
  induction entries with
  | nil => simpa [setEntry] using mem
  | cons head tail ih =>
    rw [setEntry] at mem
    split at mem
    · simpa using mem
    · split at mem
      · rcases List.mem_cons.mp mem with rfl | inTail
        · exact .inl rfl
        · exact .inr (List.mem_cons_of_mem _ inTail)
      · rcases List.mem_cons.mp mem with rfl | inTail
        · exact .inr List.mem_cons_self
        · exact (ih inTail).imp_right (List.mem_cons_of_mem _)

theorem ascending_setEntry (key : String) (value : α) (entries : List (String × α))
    (ascending : Ascending entries) : Ascending (setEntry key value entries) := by
  induction entries with
  | nil => simp [setEntry, Ascending]
  | cons head tail ih =>
    rw [Ascending, List.map_cons, List.pairwise_cons] at ascending
    obtain ⟨above, tailAscending⟩ := ascending
    rw [setEntry]
    split
    · rename_i before
      rw [Ascending, List.map_cons, List.pairwise_cons, List.map_cons, List.pairwise_cons]
      refine ⟨fun other mem => ?_, above, tailAscending⟩
      rcases List.mem_cons.mp mem with rfl | inTail
      · exact before
      · exact String.lt_trans before (above other inTail)
    · split
      · rename_i same
        subst same
        rw [Ascending, List.map_cons, List.pairwise_cons]
        exact ⟨above, tailAscending⟩
      · rename_i notBefore distinct
        rw [Ascending, List.map_cons, List.pairwise_cons]
        refine ⟨fun other mem => ?_, ih tailAscending⟩
        obtain ⟨entry, inSet, rfl⟩ := List.mem_map.mp mem
        rcases mem_setEntry inSet with rfl | inTail
        · apply Classical.byContradiction
          intro notAfter
          exact distinct (String.le_antisymm notAfter notBefore)
        · exact above _ (List.mem_map_of_mem inTail)

/-- Sets the value of a key, whether it was there or not. -/
def insert (mapping : Mapping α) (key : String) (value : α) : Mapping α :=
  ofEntries (setEntry key value mapping.entries)
    (ascending_setEntry key value mapping.entries mapping.ascending_entries)

@[simp]
theorem entries_insert (mapping : Mapping α) (key : String) (value : α) :
    (mapping.insert key value).entries = setEntry key value mapping.entries :=
  entries_ofEntries _ _

theorem lookup_cons_eq_ite (key other : String) (value : α) (entries : List (String × α)) :
    ((key, value) :: entries).lookup other =
      if other = key then some value else entries.lookup other := by
  rw [List.lookup_cons]
  by_cases same : other = key
  · simp [same]
  · simp [same, beq_false_of_ne same]

theorem lookup_setEntry (key other : String) (value : α) (entries : List (String × α)) :
    (setEntry key value entries).lookup other =
      if other = key then some value else entries.lookup other := by
  induction entries with
  | nil => exact lookup_cons_eq_ite key other value []
  | cons head tail ih =>
    obtain ⟨headKey, headValue⟩ := head
    rw [setEntry]
    split
    · exact lookup_cons_eq_ite key other value _
    · split
      · rename_i same_key
        rw [lookup_cons_eq_ite, lookup_cons_eq_ite, same_key]
        split <;> rfl
      · rename_i distinct
        rw [lookup_cons_eq_ite, lookup_cons_eq_ite, ih]
        by_cases at_head : other = headKey
        · have not_key : other ≠ key := fun same => distinct (same.symm.trans at_head)
          simp only [if_pos at_head, if_neg not_key]
        · simp only [if_neg at_head]

/-- After a key is set it has its new value, and every other key has the value it had. -/
theorem get?_insert (mapping : Mapping α) (key other : String) (value : α) :
    (mapping.insert key value).get? other =
      if other = key then some value else mapping.get? other := by
  rw [get?, entries_insert]
  exact lookup_setEntry key other value mapping.entries

@[simp]
theorem get?_insert_self (mapping : Mapping α) (key : String) (value : α) :
    (mapping.insert key value).get? key = some value := by
  simp [get?_insert]

theorem get?_insert_of_ne (mapping : Mapping α) {key other : String} (value : α)
    (distinct : other ≠ key) : (mapping.insert key value).get? other = mapping.get? other := by
  simp [get?_insert, distinct]

@[simp]
theorem entries_empty : (empty : Mapping α).entries = [] := entries_ofEntries _ _

@[simp]
theorem get?_empty (key : String) : (empty : Mapping α).get? key = none := by
  simp [get?]

/-- The mapping of a list of pairs, in which a later pair replaces an earlier one of its key. -/
def ofList (pairs : List (String × α)) : Mapping α :=
  pairs.foldl (fun mapping pair => mapping.insert pair.1 pair.2) empty

/-- The same keys, with a function applied to each value. -/
def map (f : α → β) (mapping : Mapping α) : Mapping β :=
  ⟨mapping.keys, mapping.ascending, fun place => f (mapping.value place)⟩

/-- Applies a function that may fail to every entry, in key order, up to the first failure. -/
def tryMap {ε : Type} (f : String → α → Except ε β) (mapping : Mapping α) :
    Except ε (Mapping β) := do
  let made ← mapping.entries.mapM fun entry => do return (entry.1, ← f entry.1 entry.2)
  return ofList made

end Mapping

end Assay
