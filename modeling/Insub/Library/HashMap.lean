/-
This file gives the hash map of the Rust standard library as an association list
with distinct keys. The order of the list is not meaningful: where the program
iterates over a map, an `IterationOrder` argument arranges the entries first, so a
statement that holds for every order holds for whatever order the hasher yields.
-/

import Mathlib

namespace Rust

/-- A hash map. The keys of the entries are distinct by construction. -/
abbrev HashMap (Key Value : Type) := AList fun _ : Key => Value

/-- The order in which one iteration visits the entries of a collection. -/
structure IterationOrder (Entry : Type) where
  arrange : List Entry → List Entry
  perm : ∀ entries, (arrange entries).Perm entries

instance (Entry : Type) : Inhabited (IterationOrder Entry) :=
  ⟨⟨id, fun entries => List.Perm.refl entries⟩⟩

namespace HashMap

variable {Key Value : Type} [DecidableEq Key]

/-- The number of entries. -/
def size (map : HashMap Key Value) : Nat := map.entries.length

/-- The entries as one iteration visits them. -/
def iterate (order : IterationOrder (Sigma fun _ : Key => Value)) (map : HashMap Key Value) :
    List (Sigma fun _ : Key => Value) :=
  order.arrange map.entries

/-- `retain`: drop the entries that do not satisfy the predicate. -/
def retain (keep : Key → Value → Bool) (map : HashMap Key Value) : HashMap Key Value :=
  ⟨map.entries.filter fun entry => keep entry.1 entry.2,
    map.nodupKeys.sublist List.filter_sublist⟩

/-- What is left of an entry when its value is written to or given up. -/
def rewrite (keep : Key → Value → Option Value) (entry : Sigma fun _ : Key => Value) :
    Option (Sigma fun _ : Key => Value) :=
  (keep entry.1 entry.2).map fun value => ⟨entry.1, value⟩

omit [DecidableEq Key] in
theorem keys_rewrite_sublist (keep : Key → Value → Option Value)
    (entries : List (Sigma fun _ : Key => Value)) :
    (entries.filterMap (rewrite keep)).keys.Sublist entries.keys := by
  induction entries with
  | nil => exact List.Sublist.refl _
  | cons entry rest inductionHypothesis =>
    rw [List.filterMap_cons]
    cases kept : keep entry.1 entry.2 with
    | none =>
      simp only [rewrite, kept, Option.map_none]
      exact inductionHypothesis.cons _
    | some value =>
      simp only [rewrite, kept, Option.map_some]
      exact inductionHypothesis.cons_cons _

/-- `retain` with a predicate that also writes to the values it keeps. -/
def retainMut (keep : Key → Value → Option Value) (map : HashMap Key Value) :
    HashMap Key Value :=
  ⟨map.entries.filterMap (rewrite keep),
    (keys_rewrite_sublist keep map.entries).nodup map.nodupKeys⟩

/-- After an insertion, the new value is under its key, and the other keys hold what they
did. -/
theorem lookup_insert_eq_some_iff {map : HashMap Key Value} {key other : Key}
    {value found : Value} : (map.insert key value).lookup other = some found ↔
      other = key ∧ value = found ∨ other ≠ key ∧ map.lookup other = some found := by
  by_cases same : other = key
  · rw [same, AList.lookup_insert, Option.some.injEq]
    simp
  · rw [AList.lookup_insert_ne same]
    simp [same]

theorem lookup_erase_eq_some_iff {map : HashMap Key Value} {key other : Key} {found : Value} :
    (map.erase key).lookup other = some found ↔ other ≠ key ∧ map.lookup other = some found := by
  by_cases same : other = key
  · rw [same, AList.lookup_erase]
    simp
  · rw [AList.lookup_erase_ne same]
    exact (and_iff_right same).symm

/-- A map holds what its list of entries has. -/
theorem lookup_eq_some_iff {map : HashMap Key Value} {key : Key} {value : Value} :
    map.lookup key = some value ↔ (⟨key, value⟩ : Sigma fun _ : Key => Value) ∈ map.entries :=
  Option.mem_def.symm.trans AList.mem_lookup_iff

/-- In whatever order, an iteration comes to what the map holds. -/
theorem mem_iterate_iff {map : HashMap Key Value}
    {order : IterationOrder (Sigma fun _ : Key => Value)} {entry : Sigma fun _ : Key => Value} :
    entry ∈ map.iterate order ↔ map.lookup entry.1 = some entry.2 := by
  rw [iterate, (order.perm map.entries).mem_iff, lookup_eq_some_iff]

/-- Every entry is the first one in some order. -/
theorem exists_iterate_cons {map : HashMap Key Value} {key : Key} {value : Value}
    (held : map.lookup key = some value) :
    ∃ (order : IterationOrder (Sigma fun _ : Key => Value))
      (rest : List (Sigma fun _ : Key => Value)), map.iterate order = ⟨key, value⟩ :: rest := by
  classical
  let entry : Sigma fun _ : Key => Value := ⟨key, value⟩
  have member : entry ∈ map.entries := lookup_eq_some_iff.mp held
  refine ⟨⟨fun entries => if entry ∈ entries then entry :: entries.erase entry else entries,
    fun entries => ?_⟩, map.entries.erase entry, if_pos member⟩
  by_cases found : entry ∈ entries
  · rw [if_pos found]
    exact (List.perm_cons_erase found).symm
  · rw [if_neg found]

/-- A map that is not empty has an entry of least rank. -/
theorem exists_argmin_iterate {Rank : Type} [LinearOrder Rank]
    (rank : (Sigma fun _ : Key => Value) → Rank)
    (order : IterationOrder (Sigma fun _ : Key => Value)) {map : HashMap Key Value}
    (occupied : 0 < map.size) :
    ∃ least, (map.iterate order).argmin rank = some least ∧
      map.lookup least.1 = some least.2 ∧
        ∀ key value, map.lookup key = some value → rank least ≤ rank ⟨key, value⟩ := by
  cases found : (map.iterate order).argmin rank with
  | none =>
    have size : (map.iterate order).length = map.size := (order.perm map.entries).length_eq
    rw [List.argmin_eq_none.mp found, List.length_nil] at size
    exact absurd size occupied.ne
  | some least =>
    refine ⟨least, rfl, mem_iterate_iff.mp (List.argmin_mem found), fun key value held => ?_⟩
    exact List.le_of_mem_argmin (mem_iterate_iff.mpr held) found

theorem lookup_retain_eq_some_iff {map : HashMap Key Value} {keep : Key → Value → Bool} {key : Key}
    {value : Value} : (map.retain keep).lookup key = some value ↔
      map.lookup key = some value ∧ keep key value = true := by
  rw [lookup_eq_some_iff, lookup_eq_some_iff, retain, List.mem_filter]

omit [DecidableEq Key] in
theorem size_retain_le (map : HashMap Key Value) (keep : Key → Value → Bool) :
    (map.retain keep).size ≤ map.size :=
  List.length_filter_le _ _

theorem size_erase_lt {map : HashMap Key Value} {key : Key} (member : key ∈ map) :
    size (map.erase key) < map.size := by
  have keys : (map.erase key).keys.length = map.keys.length - 1 := by
    rw [AList.keys_erase, List.length_erase_of_mem member]
  have positive : 0 < map.keys.length := List.length_pos_of_mem member
  simp only [AList.keys, List.keys, List.length_map] at keys positive
  rw [size, size]
  omega

theorem size_le_erase (map : HashMap Key Value) (key : Key) :
    map.size ≤ size (map.erase key) + 1 := by
  have keys : map.keys.length - 1 ≤ (map.erase key).keys.length := by
    rw [AList.keys_erase]
    exact List.le_length_erase
  simp only [AList.keys, List.keys, List.length_map] at keys
  rw [size, size]
  omega

theorem size_insert_le (map : HashMap Key Value) (key : Key) (value : Value) :
    size (map.insert key value) ≤ map.size + 1 := by
  have keys : (map.insert key value).keys.length = (map.keys.erase key).length + 1 := by
    rw [AList.keys_insert, List.length_cons]
  have shorter : (map.keys.erase key).length ≤ map.keys.length := List.length_erase_le
  simp only [AList.keys, List.keys, List.length_map] at keys shorter
  rw [size, size]
  omega

/-- Writing over a value adds no entry. -/
theorem size_insert_of_mem {map : HashMap Key Value} {key : Key} (member : key ∈ map)
    {value : Value} : size (map.insert key value) = map.size := by
  have keys : (map.insert key value).keys.length = (map.keys.erase key).length + 1 := by
    rw [AList.keys_insert, List.length_cons]
  rw [List.length_erase_add_one member] at keys
  simp only [AList.keys, List.keys, List.length_map] at keys
  exact keys

theorem lookup_retainMut (keep : Key → Value → Option Value) (map : HashMap Key Value)
    (key : Key) : (map.retainMut keep).lookup key = (map.lookup key).bind (keep key) := by
  refine Option.ext fun value => ?_
  rw [lookup_eq_some_iff, retainMut, List.mem_filterMap, Option.bind_eq_some_iff]
  constructor
  · rintro ⟨⟨other, before⟩, member, kept⟩
    obtain ⟨after, written, same⟩ := Option.map_eq_some_iff.mp kept
    cases same
    exact ⟨before, lookup_eq_some_iff.mpr member, written⟩
  · rintro ⟨before, held, written⟩
    refine ⟨⟨key, before⟩, lookup_eq_some_iff.mp held, ?_⟩
    rw [rewrite, written, Option.map_some]

end HashMap

end Rust
