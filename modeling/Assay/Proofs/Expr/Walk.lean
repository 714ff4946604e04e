import Assay.Expr.Evaluate
import Assay.Proofs.Mapping

/-!
# Ways through a value

A path without wildcards leads to one element of a value at most. A path with wildcards stands for
its expansions, in which each wildcard is replaced by the place or the key of one part of the value
that is reached there. Following it succeeds exactly if all expansions lead somewhere, and what it
finds is arranged in lists as their choices are: each part is visited once, and in order.
-/

namespace Assay

open Outcome

/-- The parts of a list with their places, or of a mapping with their keys, in order. -/
def Value.parts? : Value → Option (List (Segment × Value))
  | .list items => some (items.mapIdx fun place item => (.index place, item))
  | .mapping entries => some (entries.entries.map fun entry => (.field entry.1, entry.2))
  | _ => none

/-- The value at some places in lists of lists. -/
def Value.locate? : Value → List Nat → Option Value
  | value, [] => some value
  | .list items, place :: places => items[place]?.bind fun item => item.locate? places
  | _, _ :: _ => none

namespace Reference

variable {reference : Reference} {segment : Segment} {path front back : List Segment}
  {value element result : Value} {parts : List (Segment × Value)} {choice : Nat}

/-! ## Steps -/

/-- The way on from what a segment was looked up as, if there is anything. -/
def walkOn (reference : Reference) (segment : Segment) (path : List Segment) :
    Option Value → Except EvalError Value
  | some element => reference.walk path element
  | none => .error (.missingElement reference segment)

/-- A segment leads from a value to one element, from which every path goes on, or it leads
nowhere. -/
def Singular (segment : Segment) (value : Value) : Prop :=
  (∃ element, ∀ (reference : Reference) (path : List Segment),
    reference.walk (segment :: path) value = reference.walk path element) ∨
  ∃ failure : Reference → EvalError, ∀ (reference : Reference) (path : List Segment),
    reference.walk (segment :: path) value = .error (failure reference)

theorem singular_of_walkOn (found : Option Value)
    (walks : ∀ (reference : Reference) (path : List Segment),
      reference.walk (segment :: path) value = reference.walkOn segment path found) :
    Singular segment value := by
  cases found with
  | none => exact .inr ⟨_, walks⟩
  | some element => exact .inl ⟨element, walks⟩

theorem singular_of_ne (plain : segment ≠ .wildcard) (value : Value) :
    Singular segment value := by
  cases segment with
  | wildcard => exact absurd rfl plain
  | index place =>
      cases value with
      | list items => exact singular_of_walkOn items[place]? fun _ _ => rfl
      | mapping entries => exact singular_of_walkOn (entries.get? (toString place)) fun _ _ => rfl
      | _ => exact .inr ⟨_, fun _ _ => rfl⟩
  | field name =>
      cases value with
      | mapping entries => exact singular_of_walkOn (entries.get? name) fun _ _ => rfl
      | _ => exact .inr ⟨_, fun _ _ => rfl⟩

/-- Behind a path without wildcards the way goes on from what it leads to. -/
theorem walk_append (plain : .wildcard ∉ front) :
    reference.walk (front ++ back) value =
      reference.walk front value >>= reference.walk back := by
  induction front generalizing value with
  | nil => rfl
  | cons segment front ih =>
      obtain ⟨here, later⟩ := not_or.mp (List.mem_cons.not.mp plain)
      rcases singular_of_ne (Ne.symm here) value with ⟨element, leads⟩ | ⟨failure, misses⟩
      · rw [List.cons_append, leads, leads]
        exact ih later
      · rw [List.cons_append, misses, misses]
        rfl

theorem walk_cons_of_ne (plain : segment ≠ .wildcard) :
    reference.walk (segment :: path) value =
      reference.walk [segment] value >>= reference.walk path :=
  walk_append (List.mem_singleton.not.mpr (Ne.symm plain))

theorem walk_cons_of_reached (plain : segment ≠ .wildcard)
    (reached : reference.walk [segment] value = .ok element) :
    reference.walk (segment :: path) value = reference.walk path element := by
  rw [walk_cons_of_ne plain, reached]
  rfl

/-- A wildcard visits the parts of a value one after the other. -/
theorem walk_wildcard (is_parts : value.parts? = some parts) :
    reference.walk (.wildcard :: path) value =
      ((parts.map Prod.snd).mapM (reference.walk path)).map .list := by
  cases value with
  | list items =>
      cases is_parts
      have visited : (items.mapIdx fun place item => (Segment.index place, item)).map Prod.snd =
          items := by
        apply List.ext_getElem <;> simp
      rw [visited]
      rfl
  | mapping entries =>
      cases is_parts
      have visited : (entries.entries.map fun entry => (Segment.field entry.1, entry.2)).map
          Prod.snd = entries.values := by
        rw [List.map_map, ← Mapping.map_snd_entries]
        rfl
      rw [visited]
      rfl
  | _ => cases is_parts

theorem walk_wildcard_eq_ok : reference.walk (.wildcard :: path) value = .ok result ↔
    ∃ parts items, value.parts? = some parts ∧ result = .list items ∧
      List.Forall₂ (fun part item => reference.walk path part.2 = .ok item) parts items := by
  cases is_parts : value.parts? with
  | none =>
      refine iff_of_false ?_ (by rintro ⟨_, _, ⟨⟩, _⟩)
      cases value with
      | list items | mapping entries => cases is_parts
      | _ => nofun
  | some parts =>
      simp only [walk_wildcard is_parts, map_eq_ok, mapM_eq_ok, List.forall₂_map_left_iff]
      constructor
      · rintro ⟨items, visited, rfl⟩
        exact ⟨parts, items, rfl, rfl, visited⟩
      · rintro ⟨_, items, ⟨⟩, rfl, visited⟩
        exact ⟨items, visited, rfl⟩

/-- What a path leads to does not depend on the reference for which it is followed. -/
theorem walk_eq_ok_of_walk (other : Reference) (walked : reference.walk path value = .ok result) :
    other.walk path value = .ok result := by
  induction path generalizing value result with
  | nil => exact walked
  | cons segment path ih =>
      by_cases wild : segment = .wildcard
      · subst wild
        obtain ⟨parts, items, is_parts, rfl, visited⟩ := walk_wildcard_eq_ok.mp walked
        exact walk_wildcard_eq_ok.mpr ⟨parts, items, is_parts, rfl, visited.imp fun _ _ => ih⟩
      · rcases singular_of_ne wild value with ⟨element, leads⟩ | ⟨failure, misses⟩
        · rw [leads] at walked ⊢
          exact ih walked
        · rw [misses] at walked
          cases walked

/-- A part of a value is found by its place or key. -/
theorem walk_of_parts (is_parts : value.parts? = some parts)
    (chosen : parts[choice]? = some (segment, element)) :
    segment ≠ .wildcard ∧ reference.walk [segment] value = .ok element := by
  cases value with
  | list items =>
      cases is_parts
      rw [List.getElem?_mapIdx] at chosen
      obtain ⟨item, found, same⟩ := Option.map_eq_some_iff.mp chosen
      cases same
      refine ⟨nofun, ?_⟩
      rw [walk.eq_def]
      simp only [found]
      rfl
  | mapping entries =>
      cases is_parts
      rw [List.getElem?_map] at chosen
      obtain ⟨entry, found, same⟩ := Option.map_eq_some_iff.mp chosen
      cases same
      have held := (entries.mem_entries_iff entry.1 entry.2).mp (List.mem_of_getElem? found)
      refine ⟨nofun, ?_⟩
      rw [walk.eq_def]
      simp only [held]
      rfl
  | _ => cases is_parts

/-! ## Expansions -/

/-- A path from a value with its wildcards replaced, from left to right, by the places or keys of
parts of what is reached there, which are counted by the choices. A path that leads nowhere stays
as it is from there on, since nothing is reached to replace its other wildcards. -/
inductive Expands (reference : Reference) :
    Value → List Segment → List Nat → List Segment → Prop
  /-- The end of the path. -/
  | nil {value : Value} : Expands reference value [] [] []
  /-- A segment that leads on is kept. -/
  | keep {value element : Value} {segment : Segment} {path expanded : List Segment}
      {choices : List Nat} (plain : segment ≠ .wildcard)
      (reached : reference.walk [segment] value = .ok element)
      (rest : Expands reference element path choices expanded) :
      Expands reference value (segment :: path) choices (segment :: expanded)
  /-- A segment that leads nowhere is kept, and so is what follows it. -/
  | stop {value : Value} {segment : Segment} {path : List Segment} {error : EvalError}
      (plain : segment ≠ .wildcard) (missed : reference.walk [segment] value = .error error) :
      Expands reference value (segment :: path) [] (segment :: path)
  /-- A wildcard is replaced by a place or a key. -/
  | choose {value element : Value} {segment : Segment} {path expanded : List Segment}
      {parts : List (Segment × Value)} {choice : Nat} {choices : List Nat}
      (is_parts : value.parts? = some parts) (chosen : parts[choice]? = some (segment, element))
      (rest : Expands reference element path choices expanded) :
      Expands reference value (.wildcard :: path) (choice :: choices) (segment :: expanded)

/-- The expansion of a path with some choices leads from a value to an element. -/
def Reaches (reference : Reference) (value : Value) (path : List Segment) (choices : List Nat)
    (element : Value) : Prop :=
  ∃ expanded, Expands reference value path choices expanded ∧
    reference.walk expanded value = .ok element

variable {expanded : List Segment} {choices : List Nat}

theorem Reaches.keep (plain : segment ≠ .wildcard)
    (reached : reference.walk [segment] value = .ok element)
    (rest : Reaches reference element path choices result) :
    Reaches reference value (segment :: path) choices result := by
  obtain ⟨expanded, expands, walked⟩ := rest
  exact ⟨_, .keep plain reached expands, (walk_cons_of_reached plain reached).trans walked⟩

theorem Reaches.choose (is_parts : value.parts? = some parts)
    (chosen : parts[choice]? = some (segment, element))
    (rest : Reaches reference element path choices result) :
    Reaches reference value (.wildcard :: path) (choice :: choices) result := by
  obtain ⟨expanded, expands, walked⟩ := rest
  obtain ⟨plain, reached⟩ := walk_of_parts is_parts chosen
  exact ⟨_, .choose is_parts chosen expands, (walk_cons_of_reached plain reached).trans walked⟩

/-- A way along a path leads to the element that an expansion of the first part of the path leads
to, and what is found from there is an entry of what is found in all. -/
theorem Expands.walk_append (expands : Expands reference value front choices expanded)
    (walked : reference.walk (front ++ back) value = .ok result) :
    ∃ element inner, reference.walk expanded value = .ok element ∧
      reference.walk back element = .ok inner ∧ result.locate? choices = some inner := by
  induction expands generalizing result with
  | @nil value => exact ⟨value, result, rfl, walked, by rw [Value.locate?]⟩
  | keep plain reached _ ih =>
      rw [List.cons_append, walk_cons_of_reached plain reached] at walked
      obtain ⟨element, inner, expanded_ok, inner_ok, found⟩ := ih walked
      refine ⟨element, inner, ?_, inner_ok, found⟩
      exact (walk_cons_of_reached plain reached).trans expanded_ok
  | stop plain missed =>
      rw [List.cons_append, walk_cons_of_ne plain, missed] at walked
      cases walked
  | choose is_parts chosen _ ih =>
      obtain ⟨parts, items, same, rfl, visited⟩ := walk_wildcard_eq_ok.mp walked
      obtain rfl := Option.some.inj (is_parts.symm.trans same)
      obtain ⟨item, item_at, item_ok⟩ := exists_getElem?_of_forall₂ visited chosen
      obtain ⟨plain, reached⟩ := walk_of_parts is_parts chosen
      obtain ⟨element, inner, expanded_ok, inner_ok, found⟩ := ih item_ok
      refine ⟨element, inner, (walk_cons_of_reached plain reached).trans expanded_ok, inner_ok, ?_⟩
      rw [Value.locate?, item_at]
      exact found

/-- All parts of a value are visited if each of them can be. -/
theorem exists_walk_wildcard (is_parts : value.parts? = some parts)
    (each : ∀ part ∈ parts, ∃ item, reference.walk path part.2 = .ok item) :
    ∃ result, reference.walk (.wildcard :: path) value = .ok result := by
  rw [walk_wildcard is_parts]
  cases visited : (parts.map Prod.snd).mapM (reference.walk path) with
  | ok items => exact ⟨.list items, rfl⟩
  | error failure =>
      obtain ⟨element, mem, failed⟩ := exists_of_mapM_eq_error visited
      obtain ⟨part, part_mem, rfl⟩ := List.mem_map.mp mem
      obtain ⟨item, walked⟩ := each part part_mem
      cases failed.symm.trans walked

/-! ## Success -/

/-- Every expansion of a path leads to an element, and wherever one of them comes to a wildcard
there is a list or a mapping. -/
structure Resolvable (reference : Reference) (value : Value) (path : List Segment) : Prop where
  branches : ∀ front back choices container, path = front ++ .wildcard :: back →
    Reaches reference value front choices container → container.parts?.isSome = true
  resolves : ∀ choices expanded, Expands reference value path choices expanded →
    ∃ element, reference.walk expanded value = .ok element

theorem Resolvable.keep (resolvable : Resolvable reference value (segment :: path))
    (plain : segment ≠ .wildcard) (reached : reference.walk [segment] value = .ok element) :
    Resolvable reference element path where
  branches := by
    rintro front back choices container rfl reaches
    exact resolvable.branches (segment :: front) back choices container rfl
      (reaches.keep plain reached)
  resolves := by
    intro choices expanded expands
    have resolved := resolvable.resolves _ _ (.keep plain reached expands)
    rwa [walk_cons_of_reached plain reached] at resolved

theorem Resolvable.choose (resolvable : Resolvable reference value (.wildcard :: path))
    (is_parts : value.parts? = some parts) (chosen : parts[choice]? = some (segment, element)) :
    Resolvable reference element path where
  branches := by
    rintro front back choices container rfl reaches
    exact resolvable.branches (.wildcard :: front) back (choice :: choices) container rfl
      (reaches.choose is_parts chosen)
  resolves := by
    intro choices expanded expands
    obtain ⟨plain, reached⟩ : segment ≠ .wildcard ∧ reference.walk [segment] value = .ok element :=
      walk_of_parts is_parts chosen
    have resolved := resolvable.resolves _ _ (.choose is_parts chosen expands)
    rwa [walk_cons_of_reached plain reached] at resolved

theorem Resolvable.exists_walk (resolvable : Resolvable reference value path) :
    ∃ result, reference.walk path value = .ok result := by
  induction path generalizing value with
  | nil => exact ⟨value, rfl⟩
  | cons segment path ih =>
      by_cases wild : segment = .wildcard
      · subst wild
        obtain ⟨parts, is_parts⟩ := Option.isSome_iff_exists.mp
          (resolvable.branches [] path [] value rfl ⟨[], .nil, rfl⟩)
        refine exists_walk_wildcard is_parts fun part mem => ?_
        obtain ⟨choice, chosen⟩ := List.mem_iff_getElem?.mp mem
        exact ih (resolvable.choose is_parts chosen)
      · cases reached : reference.walk [segment] value with
        | error failure => exact resolvable.resolves _ _ (.stop wild reached)
        | ok element =>
            rw [walk_cons_of_reached wild reached]
            exact ih (resolvable.keep wild reached)

theorem resolvable_of_walk (walked : reference.walk path value = .ok result) :
    Resolvable reference value path where
  branches := by
    rintro front back choices container rfl ⟨expanded, expands, reached⟩
    obtain ⟨_, inner, reached_too, onward, _⟩ := expands.walk_append walked
    cases reached.symm.trans reached_too
    obtain ⟨parts, _, is_parts, _⟩ := walk_wildcard_eq_ok.mp onward
    rw [is_parts]
    rfl
  resolves := by
    intro choices expanded expands
    rw [← List.append_nil path] at walked
    obtain ⟨element, _, reached, _⟩ := expands.walk_append walked
    exact ⟨element, reached⟩

/-! ## What is found -/

/-- As many choices as there are wildcards lead to an entry only if they are those of an
expansion. -/
theorem reaches_of_locate {entry : Value} (walked : reference.walk path value = .ok result)
    (complete : choices.length = path.count .wildcard)
    (found : result.locate? choices = some entry) :
    Reaches reference value path choices entry := by
  induction path generalizing value result choices with
  | nil =>
      obtain rfl := List.length_eq_zero_iff.mp complete
      cases walked
      rw [Value.locate?] at found
      cases found
      exact ⟨[], .nil, rfl⟩
  | cons segment path ih =>
      by_cases wild : segment = .wildcard
      · subst wild
        obtain ⟨parts, items, is_parts, rfl, visited⟩ := walk_wildcard_eq_ok.mp walked
        rw [List.count_cons_self] at complete
        obtain ⟨choice, choices, rfl⟩ := List.exists_cons_of_length_eq_add_one complete
        rw [Value.locate?] at found
        obtain ⟨item, item_at, found⟩ := Option.bind_eq_some_iff.mp found
        obtain ⟨part, chosen, walked⟩ := exists_getElem?_of_forall₂ visited.flip item_at
        exact (ih walked (Nat.succ.inj complete) found).choose is_parts chosen
      · rw [List.count_cons_of_ne wild] at complete
        rw [walk_cons_of_ne wild] at walked
        obtain ⟨element, reached, walked⟩ := bind_eq_ok.mp walked
        exact (ih walked complete found).keep wild reached

/-- Following a path succeeds exactly if every expansion of it leads to an element and wildcards
are met at lists and mappings only. It finds a list for each wildcard, with an entry for every part
of what the wildcard was met at, in order, and innermost what the expansions lead to. -/
theorem walk_wildcards (reference : Reference) (path : List Segment) (value : Value) :
    ((∃ result, reference.walk path value = .ok result) ↔ Resolvable reference value path) ∧
    ∀ result, reference.walk path value = .ok result →
      (∀ front back choices container, path = front ++ .wildcard :: back →
        Reaches reference value front choices container →
        ∃ parts items, container.parts? = some parts ∧
          result.locate? choices = some (.list items) ∧ items.length = parts.length) ∧
      ∀ choices entry, choices.length = path.count .wildcard →
        (result.locate? choices = some entry ↔ Reaches reference value path choices entry) := by
  refine ⟨⟨fun ⟨_, walked⟩ => resolvable_of_walk walked, Resolvable.exists_walk⟩, ?_⟩
  refine fun result walked => ⟨?_, fun choices entry complete =>
    ⟨reaches_of_locate walked complete, ?_⟩⟩
  · rintro front back choices container rfl ⟨expanded, expands, reached⟩
    obtain ⟨_, inner, reached_too, onward, found⟩ := expands.walk_append walked
    cases reached.symm.trans reached_too
    obtain ⟨parts, items, is_parts, rfl, visited⟩ := walk_wildcard_eq_ok.mp onward
    exact ⟨parts, items, is_parts, found, visited.length_eq.symm⟩
  · rintro ⟨expanded, expands, reached⟩
    rw [← List.append_nil path] at walked
    obtain ⟨element, inner, reached_too, onward, found⟩ := expands.walk_append walked
    cases reached.symm.trans reached_too
    cases onward
    exact found

/-- A mapping and a list side by side. -/
def mixed : Value := .list
  [.mapping (.ofList [("b", .int 2), ("a", .int 1)]), .list [.int 3, .int 4, .int 5]]

/-- The second element of the first element is found by the key that comes second. -/
theorem walk_wildcards_mixed :
    let reference : Reference := ⟨"runs", [.wildcard, .wildcard]⟩
    let result : Value := .list [.list [.int 1, .int 2], .list [.int 3, .int 4, .int 5]]
    reference.walk reference.path mixed = .ok result ∧
      result.locate? [0, 1] = some (.int 2) ∧
      Reaches reference mixed reference.path [0, 1] (.int 2) := by
  intro reference result
  have walked : reference.walk reference.path mixed = .ok result := by with_unfolding_all rfl
  obtain ⟨_, found⟩ := walk_wildcards reference reference.path mixed
  exact ⟨walked, rfl, ((found result walked).2 [0, 1] (.int 2) rfl).mp rfl⟩

end Reference

end Assay
