/-
This file is about writing a hash map as the number of its entries and the entries behind it, in
whatever order they are iterated over, and about reading it back at a position that moves along the
bytes. The number has four bytes, so that it is the right one for fewer than 2^32 entries.

How one entry is written and read is a parameter. What the results need of it is that the reader
finds what the writer has written, and moves by as many bytes as the writer would write.
-/

import Mathlib
import Insub.Library.Bytes
import Insub.Library.HashMap
import Insub.Library.Items

namespace Rust

variable {Key Value : Type} [DecidableEq Key]

/-- The number of entries, and the entries. -/
def writeMap (write : Key → Value → Bytes) (order : IterationOrder (Sigma fun _ : Key => Value))
    (map : HashMap Key Value) : Bytes :=
  (beBytes 4 (BitVec.ofNat 32 map.size)).toList ++
    (map.iterate order).flatMap fun entry => write entry.1 entry.2

/-- Read the number of entries, and as many entries. -/
def readMap (tooShort : String) (read : Bytes → Nat → Outcome ((Key × Value) × Nat))
    (bytes : Bytes) : Outcome (HashMap Key Value) :=
  if bytes.length < 4 then .error (.error tooShort)
  else do
    let countBytes ← slice 0 4 bytes
    let count := (ofBeBytes 32 countBytes).toNat
    let (map, _) ← readItems (read bytes) (fun map entry => map.insert entry.1 entry.2) count 4 ∅
    .ok map

/-- The reader of an entry finds what the writer has written, and moves along by its length. -/
structure ReadsBack (write : Key → Value → Bytes)
    (read : Bytes → Nat → Outcome ((Key × Value) × Nat)) (Plain : Key → Value → Prop) : Prop where
  ahead {key : Key} {value : Value} (plain : Plain key value) (before after : Bytes) :
    read (before ++ (write key value ++ after)) before.length =
      .ok ((key, value), before.length + (write key value).length)
  moves {bytes : Bytes} {position next : Nat} {key : Key} {value : Value}
    (found : read bytes position = .ok ((key, value), next)) :
    next = position + (write key value).length ∧ next ≤ bytes.length
  positive (key : Key) (value : Value) : 0 < (write key value).length
  total (bytes : Bytes) (position : Nat) : ¬ (read bytes position).Panics

/-! ### What is written -/

/-- The number of bytes of the entries. -/
def weight (write : Key → Value → Bytes) (entries : List (Sigma fun _ : Key => Value)) : Nat :=
  (entries.map fun entry => (write entry.1 entry.2).length).sum

omit [DecidableEq Key] in
theorem length_writeMap (write : Key → Value → Bytes)
    (order : IterationOrder (Sigma fun _ : Key => Value)) (map : HashMap Key Value) :
    (writeMap write order map).length = 4 + weight write map.entries := by
  rw [writeMap, List.length_append, List.Vector.toList_length, List.length_flatMap]
  exact congrArg (4 + ·) ((order.perm map.entries).map _).sum_eq

omit [DecidableEq Key] in
theorem length_le_weight {write : Key → Value → Bytes} {least : Nat}
    (enough : ∀ key value, least ≤ (write key value).length)
    (entries : List (Sigma fun _ : Key => Value)) :
    least * entries.length ≤ weight write entries := by
  rw [weight, ← List.length_map (fun entry => (write entry.1 entry.2).length), Nat.mul_comm,
    ← smul_eq_mul]
  refine List.card_nsmul_le_sum _ least fun length member => ?_
  obtain ⟨entry, _, rfl⟩ := List.mem_map.mp member
  exact enough entry.1 entry.2

/-- Maps with the same entries are written with the same number of bytes. -/
theorem length_writeMap_congr (write : Key → Value → Bytes) {first second : HashMap Key Value}
    (same : ∀ key, first.lookup key = second.lookup key)
    (order others : IterationOrder (Sigma fun _ : Key => Value)) :
    (writeMap write order first).length = (writeMap write others second).length := by
  have entries : first.entries.Perm second.entries :=
    List.lookup_ext first.nodupKeys second.nodupKeys fun key value => by
      rw [← AList.lookup, ← AList.lookup, same]
  rw [length_writeMap, length_writeMap]
  exact congrArg (4 + ·) (entries.map _).sum_eq

/-! ### What is read -/

/-- The entries that are put into a map, with the last of them in front of what was there. -/
theorem lookup_foldl_insert {entries : List (Sigma fun _ : Key => Value)}
    (distinct : entries.NodupKeys) (map : HashMap Key Value) (key : Key) :
    (entries.foldl (fun map entry => map.insert entry.1 entry.2) map).lookup key =
      (entries.dlookup key).or (map.lookup key) := by
  induction entries generalizing map with
  | nil => rw [List.foldl_nil, List.dlookup_nil, Option.none_or]
  | cons entry rest inductionHypothesis =>
    obtain ⟨fresh, distinct⟩ := List.nodupKeys_cons.mp distinct
    rw [List.foldl_cons, inductionHypothesis distinct]
    by_cases same : key = entry.1
    · subst same
      rw [AList.lookup_insert, List.dlookup_eq_none.mpr fresh, List.dlookup_cons_eq]
      rfl
    · rw [AList.lookup_insert_ne same, List.dlookup_cons_ne _ _ same]

variable {write : Key → Value → Bytes} {read : Bytes → Nat → Outcome ((Key × Value) × Nat)}
  {Plain : Key → Value → Prop}

omit [DecidableEq Key] in
theorem size_le_length_writeMap (reads : ReadsBack write read Plain)
    (order : IterationOrder (Sigma fun _ : Key => Value)) (map : HashMap Key Value) :
    map.size ≤ (writeMap write order map).length := by
  have least := length_le_weight reads.positive map.entries
  rw [length_writeMap, HashMap.size]
  omega

/-- The entries that are still ahead of a position. -/
def EntriesAhead (write : Key → Value → Bytes) (Plain : Key → Value → Prop) (bytes : Bytes)
    (items : List (Key × Value)) (position : Nat) : Prop :=
  ∃ before, bytes = before ++ items.flatMap (fun item => write item.1 item.2) ∧
    before.length = position ∧ ∀ item ∈ items, Plain item.1 item.2

omit [DecidableEq Key] in
theorem ReadsBack.read_of_ahead (reads : ReadsBack write read Plain) {bytes : Bytes}
    (item : Key × Value) (rest : List (Key × Value)) (position : Nat)
    (ahead : EntriesAhead write Plain bytes (item :: rest) position) :
    ∃ next, read bytes position = .ok (item, next) ∧
      EntriesAhead write Plain bytes rest next := by
  obtain ⟨before, rfl, rfl, plain⟩ := ahead
  rw [List.flatMap_cons]
  refine ⟨_, reads.ahead (plain item List.mem_cons_self) _ _, before ++ write item.1 item.2,
    (List.append_assoc _ _ _).symm, List.length_append, fun other member => ?_⟩
  exact plain other (List.mem_cons_of_mem _ member)

/-- A map is read back from what was written, whatever the order was. -/
theorem readMap_writeMap (reads : ReadsBack write read Plain) (tooShort : String)
    (order : IterationOrder (Sigma fun _ : Key => Value)) {map : HashMap Key Value}
    (plain : ∀ key value, map.lookup key = some value → Plain key value)
    (few : map.size < 2 ^ 32) :
    ∃ loaded, readMap tooShort read (writeMap write order map) = .ok loaded ∧
      ∀ key, loaded.lookup key = map.lookup key := by
  have arranged : (map.iterate order).Perm map.entries := order.perm map.entries
  have distinct : (map.iterate order).NodupKeys := (List.perm_nodupKeys arranged).mpr map.nodupKeys
  have ahead : EntriesAhead write Plain (writeMap write order map)
      ((map.iterate order).map fun entry => (entry.1, entry.2)) 4 := by
    refine ⟨(beBytes 4 (BitVec.ofNat 32 map.size)).toList, ?_, List.Vector.toList_length _, ?_⟩
    · rw [List.flatMap_map, writeMap]
    · refine List.forall_mem_map.mpr fun entry member => plain entry.1 entry.2 ?_
      exact HashMap.lookup_eq_some_iff.mpr (arranged.mem_iff.mp member)
  obtain ⟨last, found, _⟩ : ∃ last, readItems (read (writeMap write order map))
      (fun (map : HashMap Key Value) entry => map.insert entry.1 entry.2)
        ((map.iterate order).map fun entry => (entry.1, entry.2)).length 4 ∅ = .ok (_, last) ∧ _ :=
    readItems_ahead (reads.read_of_ahead) ahead ∅
  rw [List.length_map, arranged.length_eq, List.foldl_map] at found
  refine ⟨(map.iterate order).foldl (fun map entry => map.insert entry.1 entry.2) ∅, ?_,
    fun key => ?_⟩
  · have header : slice 0 4 ([] ++ writeMap write order map) =
        .ok (beBytes 4 (BitVec.ofNat 32 map.size)) := slice_append rfl
    rw [List.nil_append] at header
    have long : ¬ (writeMap write order map).length < 4 := by
      rw [length_writeMap]
      omega
    rw [readMap, if_neg long, header, Outcome.bind_ok]
    dsimp only
    rw [ofBeBytes_beBytes _ (by norm_num), BitVec.toNat_ofNat, Nat.mod_eq_of_lt few,
      HashMap.size, found]
    rfl
  · rw [lookup_foldl_insert distinct, AList.lookup_empty, Option.or_none]
    exact List.perm_dlookup key distinct arranged

/-- Putting an entry into a map adds at most what is written for it. -/
theorem weight_insert_le (write : Key → Value → Bytes) (map : HashMap Key Value) (key : Key)
    (value : Value) :
    weight write (map.insert key value).entries ≤
      weight write map.entries + (write key value).length := by
  have less : ((map.entries.kerase key).map fun entry => (write entry.1 entry.2).length).sum ≤
      weight write map.entries :=
    ((List.kerase_sublist key map.entries).map _).sum_le_sum fun _ _ => Nat.zero_le _
  rw [AList.entries_insert, weight, List.map_cons, List.sum_cons, Nat.add_comm]
  exact Nat.add_le_add_right less _

/-- A map that is read is written with no more bytes than it was read from. -/
theorem length_of_readMap (reads : ReadsBack write read Plain) {tooShort : String} {bytes : Bytes}
    {map : HashMap Key Value} (found : readMap tooShort read bytes = .ok map)
    (order : IterationOrder (Sigma fun _ : Key => Value)) :
    (writeMap write order map).length ≤ bytes.length := by
  rw [readMap] at found
  split at found
  · cases found
  rename_i long
  obtain ⟨countBytes, _, found⟩ := Outcome.bind_eq_ok_iff.mp found
  obtain ⟨⟨loaded, last⟩, run, found⟩ := Outcome.bind_eq_ok_iff.mp found
  rw [← Except.ok.inj found]
  have within : 4 + weight write loaded.entries ≤ last ∧ last ≤ bytes.length := by
    refine readItems_preserves (fun position map => 4 + weight write map.entries ≤ position ∧
      position ≤ bytes.length) (fun position map entry next before here => ?_)
        ⟨le_rfl, not_lt.mp long⟩ run
    obtain ⟨moved, inside⟩ := reads.moves here
    have grown := weight_insert_le write map entry.1 entry.2
    exact ⟨by omega, inside⟩
  rw [length_writeMap]
  omega

theorem not_panics_readMap (reads : ReadsBack write read Plain) (tooShort : String)
    (bytes : Bytes) : ¬ (readMap tooShort read bytes).Panics := by
  rw [readMap]
  split
  · exact Outcome.not_panics_error _
  · rename_i long
    refine Outcome.not_panics_bind (by rwa [slice_panics_iff, Nat.zero_add]) fun _ _ => ?_
    exact Outcome.not_panics_bind (not_panics_readItems (reads.total bytes) _ _ _)
      fun _ _ => Outcome.not_panics_ok _

end Rust
