import Assay.Mapping
import Assay.Proofs.Outcome
import Mathlib.Data.List.Nodup

/-!
# Mappings as functions on keys

A mapping is known by what it holds at each key. Its entries list exactly the keys that hold
something, so setting two different keys commutes.
-/

namespace Assay
namespace Mapping

variable {α : Type}

theorem ascending_nil : Ascending ([] : List (String × α)) := List.Pairwise.nil

/-- Ascending entries have each key once. -/
theorem Ascending.nodup {entries : List (String × α)} (ascending : Ascending entries) :
    (entries.map Prod.fst).Nodup := by
  refine List.Pairwise.imp ?_ ascending
  intro before after ascends same
  exact String.lt_irrefl after (same ▸ ascends)

theorem lookup_eq_some_iff_mem {entries : List (String × α)}
    (nodup : (entries.map Prod.fst).Nodup) (key : String) (value : α) :
    entries.lookup key = some value ↔ (key, value) ∈ entries := by
  induction entries with
  | nil => simp
  | cons head tail ih =>
      obtain ⟨headKey, headValue⟩ := head
      obtain ⟨fresh, tailNodup⟩ := List.nodup_cons.mp nodup
      rw [lookup_cons_eq_ite, List.mem_cons, Prod.mk.injEq]
      by_cases same : key = headKey
      · subst same
        have absent : (key, value) ∉ tail := fun mem =>
          fresh (List.mem_map.mpr ⟨(key, value), mem, rfl⟩)
        simp only [if_true, true_and, absent, or_false, Option.some.injEq]
        exact eq_comm
      · simp only [same, if_false, false_and, false_or]
        exact ih tailNodup

theorem mem_entries_iff (mapping : Mapping α) (key : String) (value : α) :
    (key, value) ∈ mapping.entries ↔ mapping.get? key = some value :=
  (lookup_eq_some_iff_mem mapping.ascending_entries.nodup key value).symm

theorem mem_keys_iff (mapping : Mapping α) (key : String) :
    key ∈ mapping.keys ↔ ∃ value, mapping.get? key = some value := by
  rw [← map_fst_entries, List.mem_map]
  constructor
  · rintro ⟨⟨_, value⟩, mem, rfl⟩
    exact ⟨value, (mapping.mem_entries_iff _ value).mp mem⟩
  · rintro ⟨value, found⟩
    exact ⟨(key, value), (mapping.mem_entries_iff key value).mpr found, rfl⟩

theorem contains_eq_true_iff (mapping : Mapping α) (key : String) :
    mapping.contains key = true ↔ ∃ value, mapping.get? key = some value := by
  rw [contains, List.contains_iff_mem, mem_keys_iff]

theorem contains_eq_false_iff (mapping : Mapping α) (key : String) :
    mapping.contains key = false ↔ mapping.get? key = none := by
  rw [← Bool.not_eq_true, contains_eq_true_iff]
  cases mapping.get? key <;> simp

/-- Ascending entries are known by which they are. -/
theorem Ascending.ext {left right : List (String × α)} (leftAscending : Ascending left)
    (rightAscending : Ascending right) (same : ∀ entry, entry ∈ left ↔ entry ∈ right) :
    left = right := by
  have ascends {entries : List (String × α)} (ascending : Ascending entries) :
      entries.Pairwise fun before after => before.1 < after.1 :=
    List.pairwise_map.mp ascending
  have perm : left.Perm right := by
    rw [List.perm_ext_iff_of_nodup (List.Nodup.of_map Prod.fst leftAscending.nodup)
      (List.Nodup.of_map Prod.fst rightAscending.nodup)]
    exact same
  refine List.Perm.eq_of_pairwise ?_ (ascends leftAscending) (ascends rightAscending) perm
  intro before after _ _ ascending descending
  exact absurd (String.lt_trans ascending descending) (String.lt_irrefl _)

/-- Mappings that hold the same at every key are equal. -/
theorem ext_get? {left right : Mapping α} (same : ∀ key, left.get? key = right.get? key) :
    left = right := by
  apply eq_of_entries
  apply left.ascending_entries.ext right.ascending_entries
  rintro ⟨key, value⟩
  rw [mem_entries_iff, mem_entries_iff, same]

theorem insert_comm (mapping : Mapping α) {first second : String} (distinct : first ≠ second)
    (firstValue secondValue : α) :
    (mapping.insert first firstValue).insert second secondValue =
      (mapping.insert second secondValue).insert first firstValue := by
  apply ext_get?
  intro key
  simp only [get?_insert]
  by_cases atFirst : key = first
  · simp [atFirst, distinct]
  · simp [atFirst]

/-- Setting a key to what it holds changes nothing. -/
theorem insert_eq_self {mapping : Mapping α} {key : String} {value : α}
    (found : mapping.get? key = some value) : mapping.insert key value = mapping := by
  apply ext_get?
  intro other
  rw [get?_insert]
  split
  · rename_i same
    rw [same, found]
  · rfl

/-! ## Setting many keys -/

/-- Sets keys one after the other. -/
def insertAll (mapping : Mapping α) (entries : List (String × α)) : Mapping α :=
  entries.foldl (fun mapping entry => mapping.insert entry.1 entry.2) mapping

theorem get?_insertAll {entries : List (String × α)} (nodup : (entries.map Prod.fst).Nodup)
    (mapping : Mapping α) (key : String) :
    (mapping.insertAll entries).get? key = (entries.lookup key).or (mapping.get? key) := by
  induction entries generalizing mapping with
  | nil => rfl
  | cons entry entries ih =>
      obtain ⟨fresh, rest_nodup⟩ := List.nodup_cons.mp nodup
      rw [insertAll, List.foldl_cons, ← insertAll, ih rest_nodup, get?_insert, lookup_cons_eq_ite]
      by_cases same : key = entry.1
      · have absent : entries.lookup key = none := by
          rw [Option.eq_none_iff_forall_ne_some]
          intro value found
          rw [lookup_eq_some_iff_mem rest_nodup] at found
          exact fresh (same ▸ List.mem_map_of_mem found)
        simp [same ▸ absent, same]
      · simp [same]

theorem mem_keys_insert (mapping : Mapping α) (key other : String) (value : α) :
    other ∈ (mapping.insert key value).keys ↔ other = key ∨ other ∈ mapping.keys := by
  rw [mem_keys_iff, mem_keys_iff, get?_insert]
  by_cases same : other = key <;> simp [same]

/-- Setting keys adds them and takes none away. -/
theorem mem_keys_insertAll (entries : List (String × α)) (mapping : Mapping α) (key : String) :
    key ∈ (mapping.insertAll entries).keys ↔ key ∈ entries.map Prod.fst ∨ key ∈ mapping.keys := by
  induction entries generalizing mapping with
  | nil => simp [insertAll]
  | cons entry entries ih =>
      rw [insertAll, List.foldl_cons, ← insertAll, ih, mem_keys_insert, List.map_cons,
        List.mem_cons, or_left_comm, or_assoc]

theorem mem_keys_ofList (entries : List (String × α)) (key : String) :
    key ∈ (ofList entries).keys ↔ key ∈ entries.map Prod.fst := by
  rw [ofList, ← insertAll, mem_keys_insertAll]
  exact or_iff_left nofun

/-- Ascending pairs are the entries of their mapping. -/
theorem entries_ofList {entries : List (String × α)} (ascending : Ascending entries) :
    (ofList entries).entries = entries := by
  apply (ascending_entries _).ext ascending
  rintro ⟨key, value⟩
  have found : (ofList entries).get? key = entries.lookup key := by
    rw [ofList, ← insertAll, get?_insertAll ascending.nodup, get?_empty, Option.or_none]
  rw [mem_entries_iff, found, lookup_eq_some_iff_mem ascending.nodup]

/-- What either of two mappings holds. Where both hold something it is what the second one
holds. -/
def union (left right : Mapping α) : Mapping α := left.insertAll right.entries

instance : Union (Mapping α) := ⟨union⟩

theorem get?_union (left right : Mapping α) (key : String) :
    (left ∪ right).get? key = (right.get? key).or (left.get? key) :=
  get?_insertAll right.ascending_entries.nodup left key

/-! ## Functions on all values -/

section

variable {β : Type} (f : α → β) (mapping : Mapping α)

theorem values_map : (mapping.map f).values = mapping.values.map f := by
  rw [values, values, List.map_ofFn]
  rfl

theorem entries_map :
    (mapping.map f).entries = mapping.entries.map fun entry => (entry.1, f entry.2) := by
  rw [entries, values_map, List.zip_map_right]
  rfl

theorem get?_map (key : String) : (mapping.map f).get? key = (mapping.get? key).map f := by
  rw [get?, get?, entries_map]
  induction mapping.entries with
  | nil => rfl
  | cons entry entries ih =>
      rw [List.map_cons, lookup_cons_eq_ite, lookup_cons_eq_ite, ih]
      split <;> rfl

end

/-! ## Functions that may fail -/

section

variable {ε β : Type} {f : String → α → Except ε β} {mapping : Mapping α} {made : Mapping β}
  {key : String}

/-- Entries under the same keys whose values are the results of a function that may fail. -/
abbrev Matched (f : String → α → Except ε β) :
    List (String × α) → List (String × β) → Prop :=
  List.Forall₂ fun source result => result.1 = source.1 ∧ f source.1 source.2 = .ok result.2

theorem Matched.map_fst {sources : List (String × α)} {results : List (String × β)}
    (matched : Matched f sources results) : results.map Prod.fst = sources.map Prod.fst := by
  rw [← List.forall₂_eq_eq_eq, List.forall₂_map_left_iff, List.forall₂_map_right_iff]
  exact matched.flip.imp fun result source same => same.1

theorem Matched.exists_mem {sources : List (String × α)} {results : List (String × β)}
    (matched : Matched f sources results) {value : α} (mem : (key, value) ∈ sources) :
    ∃ result, f key value = .ok result ∧ (key, result) ∈ results := by
  induction matched with
  | nil => cases mem
  | @cons source result sources results here _ ih =>
      rcases List.mem_cons.mp mem with rfl | later
      · obtain ⟨same, run⟩ := here
        exact ⟨result.2, run, List.mem_cons.mpr (.inl (Prod.ext same.symm rfl))⟩
      · obtain ⟨found, run, found_mem⟩ := ih later
        exact ⟨found, run, List.mem_cons_of_mem _ found_mem⟩

/-- A function that may fail is applied to all entries exactly if it succeeds on each one. -/
theorem tryMap_eq_ok :
    mapping.tryMap f = .ok made ↔ Matched f mapping.entries made.entries := by
  have step (source : String × α) (result : String × β) :
      (do return (source.1, ← f source.1 source.2) : Except ε (String × β)) = .ok result ↔
        result.1 = source.1 ∧ f source.1 source.2 = .ok result.2 := by
    rw [Outcome.bind_eq_ok]
    constructor
    · rintro ⟨value, run, ⟨⟩⟩
      exact ⟨rfl, run⟩
    · rintro ⟨same, run⟩
      exact ⟨result.2, run, congrArg Except.ok (Prod.ext same.symm rfl)⟩
  rw [tryMap, Outcome.bind_eq_ok]
  simp only [Outcome.mapM_eq_ok, step]
  constructor
  · rintro ⟨results, matched, ⟨⟩⟩
    have ascending : Ascending results := by
      rw [Ascending, Matched.map_fst matched]
      exact mapping.ascending_entries
    rw [entries_ofList ascending]
    exact matched
  · intro matched
    exact ⟨made.entries, matched,
      congrArg Except.ok (eq_of_entries (entries_ofList made.ascending_entries))⟩

theorem keys_of_tryMap (success : mapping.tryMap f = .ok made) : made.keys = mapping.keys := by
  rw [← map_fst_entries, ← map_fst_entries, (tryMap_eq_ok.mp success).map_fst]

theorem exists_of_tryMap (success : mapping.tryMap f = .ok made) {value : α}
    (found : mapping.get? key = some value) :
    ∃ result, f key value = .ok result ∧ made.get? key = some result := by
  rw [← mem_entries_iff] at found
  simp only [← mem_entries_iff]
  exact (tryMap_eq_ok.mp success).exists_mem found

theorem get?_eq_none_of_tryMap (success : mapping.tryMap f = .ok made)
    (absent : mapping.get? key = none) : made.get? key = none := by
  rw [← contains_eq_false_iff, contains] at absent ⊢
  rw [keys_of_tryMap success, absent]

/-- An entry stands behind those of smaller keys and no others. -/
theorem mem_before_iff {before after : List (String × α)} {entry other : String × α}
    (split : mapping.entries = before ++ entry :: after) :
    other ∈ before ↔ other ∈ mapping.entries ∧ other.1 < entry.1 := by
  have ascending := mapping.ascending_entries
  rw [split, Ascending, List.map_append, List.map_cons, List.pairwise_append,
    List.pairwise_cons] at ascending
  obtain ⟨-, ⟨behind, -⟩, ahead⟩ := ascending
  rw [split, List.mem_append, List.mem_cons]
  constructor
  · intro mem
    exact ⟨.inl mem, ahead _ (List.mem_map_of_mem mem) _ List.mem_cons_self⟩
  · rintro ⟨mem | rfl | mem, smaller⟩
    · exact mem
    · exact absurd smaller (String.lt_irrefl _)
    · exact absurd (String.lt_trans smaller (behind _ (List.mem_map_of_mem mem)))
        (String.lt_irrefl _)

/-- A function that may fail is refused for the smallest key at which it fails. -/
theorem tryMap_eq_error {failure : ε} : mapping.tryMap f = .error failure ↔
    ∃ key value, mapping.get? key = some value ∧ f key value = .error failure ∧
      ∀ other otherValue, other < key → mapping.get? other = some otherValue →
        ∃ result, f other otherValue = .ok result := by
  have step_ok (entry : String × α) :
      (∃ result, (do return (entry.1, ← f entry.1 entry.2) : Except ε (String × β)) = .ok result) ↔
        ∃ result, f entry.1 entry.2 = .ok result := by
    simp only [Outcome.bind_eq_ok]
    exact ⟨fun ⟨_, result, run, _⟩ => ⟨result, run⟩, fun ⟨result, run⟩ => ⟨_, result, run, rfl⟩⟩
  have step_error (entry : String × α) :
      (do return (entry.1, ← f entry.1 entry.2) : Except ε (String × β)) = .error failure ↔
        f entry.1 entry.2 = .error failure := by
    rw [Outcome.bind_eq_error]
    exact or_iff_left nofun
  have applied : mapping.tryMap f = .error failure ↔
      mapping.entries.mapM (fun entry => do return (entry.1, ← f entry.1 entry.2)) =
        .error failure := by
    rw [tryMap, Outcome.bind_eq_error]
    exact or_iff_left nofun
  simp only [applied, Outcome.mapM_eq_error, step_ok, step_error, ← mem_entries_iff]
  constructor
  · rintro ⟨before, ⟨key, value⟩, after, split, earlier, failed⟩
    refine ⟨key, value, by simp [split], failed, fun other otherValue smaller mem => ?_⟩
    exact earlier (other, otherValue) ((mem_before_iff split).mpr ⟨mem, smaller⟩)
  · rintro ⟨key, value, mem, failed, earlier⟩
    obtain ⟨before, after, split⟩ := List.append_of_mem mem
    refine ⟨before, (key, value), after, split, fun other mem_before => ?_, failed⟩
    obtain ⟨mem_other, smaller⟩ := (mem_before_iff split).mp mem_before
    exact earlier other.1 other.2 smaller mem_other

/-- A function that may fail is applied to a mapping exactly if it succeeds at every key. -/
theorem exists_tryMap_iff : (∃ made, mapping.tryMap f = .ok made) ↔
    ∀ key value, mapping.get? key = some value → ∃ result, f key value = .ok result := by
  constructor
  · rintro ⟨made, success⟩ key value found
    obtain ⟨result, run, _⟩ := exists_of_tryMap success found
    exact ⟨result, run⟩
  · intro each
    cases run : mapping.tryMap f with
    | ok made => exact ⟨made, rfl⟩
    | error failure =>
        obtain ⟨key, value, found, failed, _⟩ := tryMap_eq_error.mp run
        obtain ⟨result, succeeded⟩ := each key value found
        cases failed.symm.trans succeeded

end

end Mapping
end Assay
