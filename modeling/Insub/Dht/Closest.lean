/-
This file proves when `closest_nodes` returns the closest nodes. The loop visits the buckets outwards
from that of the target, on both sides at once, and stops when it has found enough nodes. On the
shallow side this is the order of the distances. On the deep side it is not: a bucket at whose bit
the target agrees with the table's own identifier is farther than all deeper ones. So a nearer node
is missed exactly if some deeper bucket is not visited, and the visited buckets at whose bit the
target differs are not enough.
-/

import Mathlib
import Insub.Crypto.SampleSuite
import Insub.Dht.Distance

namespace Insub

open Rust

namespace RoutingTable

/-! ### The buckets that are visited -/

/-- The bucket is at most so far from the start. -/
def isNear (start : Fin 256) (reach : Nat) (index : Fin 256) : Bool :=
  start.val ≤ index.val + reach ∧ index.val ≤ start.val + reach

/-- The buckets that the loop has visited when it has moved by the offset. -/
def visited (start : Fin 256) (reach : Nat) : List (Fin 256) :=
  start :: (List.range' 1 reach).flatMap (bucketsAt start)

theorem mem_visited {start index : Fin 256} {reach : Nat} :
    index ∈ visited start reach ↔ isNear start reach index = true := by
  rw [visited, List.mem_cons, List.mem_flatMap, isNear, decide_eq_true_iff, Fin.ext_iff]
  simp only [mem_bucketsAt, List.mem_range'_1]
  constructor
  · rintro (same | ⟨offset, _, here⟩) <;> omega
  · intro near
    by_cases same : index.val = start.val
    · exact Or.inl same
    · exact Or.inr ⟨if index.val < start.val then start - index else index - start,
        by split <;> omega, by split <;> omega⟩

theorem visited_succ (start : Fin 256) (reach : Nat) :
    visited start (reach + 1) = visited start reach ++ bucketsAt start (reach + 1) := by
  rw [visited, List.range'_1_concat, List.flatMap_append, visited, List.flatMap_singleton,
    Nat.add_comm 1 reach, List.cons_append]

theorem nodup_visited (start : Fin 256) {reach : Nat} (inside : reach ≤ 255) :
    (visited start reach).Nodup := by
  refine (nodup_visit start).sublist (List.Sublist.cons_cons _ ?_)
  exact (List.range'_sublist_right.mpr inside).flatMap _

theorem perm_visited (start : Fin 256) {reach : Nat} (inside : reach ≤ 255) :
    (visited start reach).Perm ((List.finRange 256).filter (isNear start reach)) := by
  refine (List.perm_ext_iff_of_nodup (nodup_visited start inside)
    ((List.nodup_finRange 256).filter _)).mpr fun index => ?_
  rw [mem_visited, List.mem_filter, and_iff_right (List.mem_finRange index)]

/-- The nodes in service in the chosen buckets. -/
def nodesIn (table : RoutingTable) (buckets : List (Fin 256)) : List (NodeID × SocketAddr) :=
  buckets.flatMap table.activeNodes

/-- The number of entries in service in the buckets of a kind. -/
def countActive (table : RoutingTable) (chosen : Fin 256 → Bool) : Nat :=
  (((List.finRange 256).filter chosen).map fun index => (table.buckets index).active.length).sum

theorem length_nodesIn (table : RoutingTable) {buckets : List (Fin 256)} {chosen : Fin 256 → Bool}
    (perm : buckets.Perm ((List.finRange 256).filter chosen)) :
    (table.nodesIn buckets).length = table.countActive chosen := by
  have sizes : (fun index => (table.activeNodes index).length) =
      fun index => (table.buckets index).active.length :=
    funext fun index => List.length_map _
  rw [nodesIn, List.length_flatMap, sizes, countActive, (perm.map _).sum_eq]

theorem countActive_mono (table : RoutingTable) {some more : Fin 256 → Bool}
    (included : ∀ index, some index = true → more index = true) :
    table.countActive some ≤ table.countActive more := by
  refine (List.Sublist.map _ ?_).sum_le_sum fun _ _ => Nat.zero_le _
  exact List.monotone_filter_right _ included

/-- The loop stops as soon as it has visited buckets with enough nodes. -/
theorem gather_visited (table : RoutingTable) (start : Fin 256) (count : Nat) :
    ∃ reach ≤ 255, table.gather start count (List.range' 1 255) (table.activeNodes start) =
        table.nodesIn (visited start reach) ∧
      (∀ shorter < reach, (table.nodesIn (visited start shorter)).length < count) ∧
        (reach = 255 ∨ count ≤ (table.nodesIn (visited start reach)).length) := by
  have loop (left : Nat) : ∀ reach, reach + left = 255 →
      (∀ shorter < reach, (table.nodesIn (visited start shorter)).length < count) →
        ∃ last ≤ 255, table.gather start count (List.range' (reach + 1) left)
            (table.nodesIn (visited start reach)) = table.nodesIn (visited start last) ∧
          (∀ shorter < last, (table.nodesIn (visited start shorter)).length < count) ∧
            (last = 255 ∨ count ≤ (table.nodesIn (visited start last)).length) := by
    induction left with
    | zero =>
      intro reach whole few
      exact ⟨reach, by omega, rfl, few, Or.inl whole⟩
    | succ left inductionHypothesis =>
      intro reach whole few
      rw [List.range'_succ, gather]
      split
      · rename_i short
        have more := inductionHypothesis (reach + 1) (by omega) fun shorter less =>
          (Nat.lt_succ_iff_lt_or_eq.mp less).elim (few shorter) fun same => same ▸ short
        rwa [visited_succ, nodesIn, List.flatMap_append] at more
      · rename_i enough
        exact ⟨reach, by omega, rfl, few, Or.inr (not_lt.mp enough)⟩
  have first : table.nodesIn (visited start 0) = table.activeNodes start :=
    List.append_nil _
  rw [← first]
  exact loop 255 0 rfl fun _ negative => absurd negative (Nat.not_lt_zero _)

/-! ### Nodes that are not visited -/

/-- The target differs from the own identifier at the bit of the bucket. -/
def Differs (table : RoutingTable) (target : NodeID) (index : Fin 256) : Bool :=
  target.bit index != table.localId.bit index

/-- Before the bucket of the target, the target agrees with the own identifier. -/
theorem agrees_before (table : RoutingTable) {target : NodeID} {index : Nat}
    (shallow : index < table.bucket target) : target.bit index = table.localId.bit index := by
  by_cases own : target = table.localId
  · rw [own]
  · exact ((firstDifference_of_belongs ⟨own, rfl⟩).1 index shallow).symm

theorem Placed.belongs {table : RoutingTable} (placed : table.Placed) {index : Fin 256}
    {node : NodeID × SocketAddr} (active : node ∈ table.activeNodes index) :
    table.Belongs index node.1 := by
  obtain ⟨entry, served, rfl⟩ := List.mem_map.mp active
  refine (placed index).placed entry.id ?_
  rw [Bucket.ids, Multiset.coe_add, Multiset.mem_coe, List.mem_append]
  exact Or.inl (List.mem_map_of_mem served)

/-- A property that says the same of all nodes of a bucket is counted by buckets. -/
theorem countP_nodesIn (table : RoutingTable) (chosen : Fin 256 → Bool) {buckets : List (Fin 256)}
    {holds : NodeID × SocketAddr → Bool}
    (uniform : ∀ index ∈ buckets, ∀ node ∈ table.activeNodes index, holds node = chosen index) :
    (table.nodesIn buckets).countP holds = (table.nodesIn (buckets.filter chosen)).length := by
  induction buckets with
  | nil => rfl
  | cons index rest inductionHypothesis =>
    have others := inductionHypothesis fun other member =>
      uniform other (List.mem_cons_of_mem _ member)
    have here := uniform index List.mem_cons_self
    rw [nodesIn, List.flatMap_cons, List.countP_append, ← nodesIn, others]
    cases choice : chosen index with
    | true =>
      rw [List.filter_cons_of_pos choice, nodesIn, nodesIn, List.flatMap_cons, List.length_append,
        List.countP_eq_length.mpr fun node member => (here node member).trans choice]
    | false =>
      rw [List.filter_cons_of_neg (by simp [choice]), List.countP_eq_zero.mpr fun node member => by
        simp [here node member, choice], Nat.zero_add]

variable {table : RoutingTable} {target : NodeID} {reach : Nat}

/-- The distance by which `closest_nodes` sorts. -/
def farness (target : NodeID) (node : NodeID × SocketAddr) : Nat := target.remoteness node.1

/-- Of the visited nodes, those in buckets at whose bit the target differs are nearer than a node
that is deeper than all of them. -/
theorem Placed.countP_deeper (placed : table.Placed) (inside : reach ≤ 255) {deeper : Fin 256}
    {far : NodeID × SocketAddr} (beyond : (table.bucket target).val + reach < deeper)
    (active : far ∈ table.activeNodes deeper) :
    (table.nodesIn (visited (table.bucket target) reach)).countP
        (farness target · < farness target far) =
      table.countActive fun index =>
        isNear (table.bucket target) reach index && table.Differs target index := by
  rw [table.countP_nodesIn (table.Differs target) fun index member node served => ?_,
    table.length_nodesIn]
  · have filtered := (perm_visited (table.bucket target) inside).filter (table.Differs target)
    rw [List.filter_filter] at filtered
    simpa only [Bool.and_comm] using filtered
  · have near := mem_visited.mp member
    rw [isNear, decide_eq_true_iff] at near
    have below : index < deeper := Fin.lt_def.mpr (by omega)
    rw [Differs, Bool.eq_iff_iff, decide_eq_true_iff, bne_iff_ne]
    exact remoteness_lt_iff (placed.belongs served) (placed.belongs active) below

/-- The visited nodes are all nearer than one that is shallower than all of them. -/
theorem Placed.countP_shallower (placed : table.Placed) {shallow : Fin 256}
    {far : NodeID × SocketAddr} (beyond : shallow.val + reach < table.bucket target)
    (active : far ∈ table.activeNodes shallow) :
    (table.nodesIn (visited (table.bucket target) reach)).countP
        (farness target · < farness target far) =
      (table.nodesIn (visited (table.bucket target) reach)).length := by
  refine List.countP_eq_length.mpr fun node member => decide_eq_true ?_
  obtain ⟨index, visits, served⟩ := List.mem_flatMap.mp member
  have near := mem_visited.mp visits
  rw [isNear, decide_eq_true_iff] at near
  have below : shallow < index := Fin.lt_def.mpr (by omega)
  have agrees : target.bit shallow = table.localId.bit shallow :=
    table.agrees_before (by omega)
  have notNearer : ¬ farness target far < farness target node := fun nearer =>
    (remoteness_lt_iff (placed.belongs active) (placed.belongs served) below).mp nearer agrees
  refine lt_of_le_of_ne (not_lt.mp notNearer) fun same => ?_
  have ids := target.remoteness_injective same
  have first := (placed.belongs served).2
  rw [ids, (placed.belongs active).2] at first
  exact below.ne first

/-! ### The closest nodes -/

/-- All nodes in service, from the closest to the target on. -/
def byDistance (table : RoutingTable) (target : NodeID) : List (NodeID × SocketAddr) :=
  Nearest.sortByKey (farness target) (table.nodesIn (List.finRange 256))

/-- Whenever the buckets around that of the target have enough entries in service, then so have those
among them at whose bit the target differs from the own identifier, or no bucket is deeper. -/
def MissesNone (table : RoutingTable) (target : NodeID) (count : Nat) : Prop :=
  ∀ reach, count ≤ table.countActive (isNear (table.bucket target) reach) →
    count ≤ table.countActive (fun index =>
        isNear (table.bucket target) reach index && table.Differs target index) ∨
      ∀ index : Fin 256, (table.bucket target).val + reach < index →
        (table.buckets index).active = []

/-- The buckets that were not visited. -/
def unvisited (start : Fin 256) (reach : Nat) : List (Fin 256) :=
  (List.finRange 256).filter fun index => !isNear start reach index

theorem perm_visited_unvisited (start : Fin 256) {reach : Nat} (inside : reach ≤ 255) :
    (visited start reach ++ unvisited start reach).Perm (List.finRange 256) :=
  ((perm_visited start inside).append_right _).trans (List.filter_append_perm _ _)

/-- Every node that is not visited has enough nearer ones among the visited, exactly if no node is
missed. -/
theorem Placed.missesNone_iff (placed : table.Placed) {count : Nat} (inside : reach ≤ 255)
    (few : ∀ shorter < reach,
      (table.nodesIn (visited (table.bucket target) shorter)).length < count)
    (enough : reach = 255 ∨ count ≤ (table.nodesIn (visited (table.bucket target) reach)).length) :
    (∀ far ∈ table.nodesIn (unvisited (table.bucket target) reach),
      count ≤ (table.nodesIn (visited (table.bucket target) reach)).countP
        (farness target · < farness target far)) ↔ table.MissesNone target count := by
  have sizes {within : Nat} (bounded : within ≤ 255) :=
    table.length_nodesIn (perm_visited (table.bucket target) bounded)
  constructor
  · intro all wider room
    rw [or_iff_not_imp_right]
    intro some
    push Not at some
    obtain ⟨index, beyond, occupied⟩ := some
    have covers : reach ≤ wider := by
      by_contra shorter
      rw [not_le] at shorter
      have less := few wider shorter
      rw [sizes (by omega)] at less
      exact absurd room less.not_ge
    obtain ⟨entry, served⟩ := List.exists_mem_of_ne_nil _ occupied
    have active : (entry.id, entry.addr) ∈ table.activeNodes index := List.mem_map_of_mem served
    have outside : index ∈ unvisited (table.bucket target) reach := by
      rw [unvisited, List.mem_filter, isNear]
      refine ⟨List.mem_finRange index, ?_⟩
      simp
      omega
    have nearer := all _ (List.mem_flatMap.mpr ⟨index, outside, active⟩)
    rw [placed.countP_deeper inside (by omega) active] at nearer
    refine nearer.trans (table.countActive_mono fun other chosen => ?_)
    rw [Bool.and_eq_true, isNear, decide_eq_true_iff] at chosen ⊢
    exact ⟨by omega, chosen.2⟩
  · intro missesNone far member
    obtain ⟨index, outside, active⟩ := List.mem_flatMap.mp member
    have away := List.of_mem_filter outside
    rw [Bool.not_eq_true', isNear, decide_eq_false_iff_not] at away
    have room : count ≤ (table.nodesIn (visited (table.bucket target) reach)).length :=
      enough.resolve_left (by omega)
    rcases Nat.lt_or_ge ((table.bucket target).val + reach) index with deeper | shallow
    · rw [placed.countP_deeper inside deeper active]
      refine (missesNone reach (sizes inside ▸ room)).resolve_right fun none => ?_
      rw [activeNodes, none index deeper] at active
      cases active
    · rw [placed.countP_shallower (by omega) active]
      exact room

/-- `closest_nodes` returns the first of all nodes in service, in the order of their distances from
the target, exactly if it misses none. -/
theorem closestNodes_closest_iff (reachable : table.Reachable) (target : NodeID) (count : Nat) :
    table.closestNodes target count = (table.byDistance target).take count ↔
      table.MissesNone target count := by
  have placed := reachable.placed
  obtain ⟨reach, inside, gathered, few, enough⟩ :=
    table.gather_visited (table.bucket target) count
  have parts := perm_visited_unvisited (table.bucket target) inside
  have distinct : ((table.nodesIn (visited (table.bucket target) reach) ++
      table.nodesIn (unvisited (table.bucket target) reach)).map (farness target)).Nodup := by
    rw [nodesIn, nodesIn, ← List.flatMap_append]
    have ids := placed.nodup_flatMap (parts.nodup_iff.mpr (List.nodup_finRange 256))
    have keys := ids.map target.remoteness_injective
    rwa [List.map_map] at keys
  have all : table.byDistance target = Nearest.sortByKey (farness target)
      (table.nodesIn (visited (table.bucket target) reach) ++
        table.nodesIn (unvisited (table.bucket target) reach)) := by
    refine (Nearest.sortByKey_eq_of_perm distinct ?_).symm
    rw [nodesIn, nodesIn, ← List.flatMap_append]
    exact parts.flatMap_right _
  have found : table.closestNodes target count =
      (Nearest.sortByKey (farness target)
        (table.nodesIn (visited (table.bucket target) reach))).take count := by
    rw [closestNodes, gathered]
    rfl
  rw [found, all, Nearest.take_sortByKey_eq_iff distinct count]
  exact placed.missesNone_iff inside few enough

/-- An identifier with one bit set. -/
def oneBit (index : Nat) : NodeID := ⟨SampleSuite.octets 32 (2 ^ (255 - index))⟩

/-- The table of node `0`, which knows a node in bucket 249 and one in bucket 252. -/
def skewTable : RoutingTable :=
  ((new ⟨Octets.zero 32⟩).perform (.addNode (oneBit 249) (.v4 (Octets.zero 4) 9000) 0)).perform
    (.addNode (oneBit 252) (.v4 (Octets.zero 4) 9000) 0)

theorem skewTable_reachable : skewTable.Reachable :=
  ⟨⟨Octets.zero 32⟩, .tail (.single ⟨_, rfl⟩) ⟨_, rfl⟩⟩

/-- For a target in bucket 250, the buckets 249 and 251 are visited, and the loop stops. -/
theorem nearer_node_missed :
    skewTable.Reachable ∧
      (skewTable.closestNodes (oneBit 250) 1).map Prod.fst = [oneBit 249] ∧
        ((skewTable.byDistance (oneBit 250)).take 1).map Prod.fst = [oneBit 252] :=
  ⟨skewTable_reachable, by decide +kernel, by decide +kernel⟩

/-- Of both nodes none is missed. -/
theorem both_nodes_found : skewTable.MissesNone (oneBit 250) 2 :=
  (closestNodes_closest_iff skewTable_reachable (oneBit 250) 2).mp (by decide +kernel)

end RoutingTable

end Insub
