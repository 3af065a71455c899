/-
This file puts together what holds of every routing table that calls can reach: the sizes of
its buckets, the place of every node by its first differing bit, and that no node is held
twice. It also proves what entering a node leaves alone, which is every entry of another
node.
-/

import Mathlib
import Insub.Dht.Placement

namespace Insub

open Rust

/-! ### What entering a node leaves alone -/

/-- An entry that is the same to whoever asks the node, and is marked as pinged if it was. -/
structure Entry.Kept (before after : Entry) : Prop where
  id : after.id = before.id
  addr : after.addr = before.addr
  lastSeen : after.lastSeen = before.lastSeen
  marked : before.lastPinged.isSome = true → after.lastPinged.isSome = true

theorem Entry.Kept.refl (entry : Entry) : entry.Kept entry := ⟨rfl, rfl, rfl, fun marked => marked⟩

theorem Entry.Kept.trans {first second third : Entry} (one : first.Kept second)
    (other : second.Kept third) : first.Kept third :=
  ⟨other.id.trans one.id, other.addr.trans one.addr, other.lastSeen.trans one.lastSeen,
    fun marked => other.marked (one.marked marked)⟩

namespace Bucket

/-- A list has kept the entries of all nodes but one. -/
def Keeps (node : NodeID) (before after : List Entry) : Prop :=
  ∀ entry ∈ before, entry.id ≠ node → ∃ kept ∈ after, entry.Kept kept

theorem Keeps.of_subset {node : NodeID} {before after : List Entry} (subset : before ⊆ after) :
    Keeps node before after :=
  fun entry member _ => ⟨entry, subset member, .refl entry⟩

/-- The entry that is removed is the node's own. -/
theorem keeps_refresh {list : List Entry} {node : NodeID} {position : Nat}
    (found : entryPosition list node = some position) (entry : Entry) :
    Keeps node list (list.eraseIdx position ++ [entry]) := by
  intro other member different
  obtain ⟨inside, holds, _⟩ := List.findIdx?_eq_some_iff_getElem.mp found
  have own : list[position].id = node := of_decide_eq_true holds
  obtain ⟨place, within, rfl⟩ := List.mem_iff_getElem.mp member
  have elsewhere : place ≠ position := by
    rintro rfl
    exact different own
  refine ⟨list[place], List.mem_append_left _ ?_, .refl _⟩
  exact List.mem_eraseIdx_iff_getElem.mpr ⟨place, within, elsewhere, rfl⟩

/-- The entry that is marked stays what it is. -/
theorem keeps_pingOldest (bucket : Bucket) (now : Instant) (node : NodeID) :
    Keeps node bucket.active (bucket.pingOldest now).2.active := by
  rcases bucket.pingOldest_cases now with unmarked | ⟨position, entry, place, marked⟩
  · rw [unmarked]
    exact .of_subset (List.Subset.refl _)
  · rw [marked]
    obtain ⟨inside, same⟩ := List.getElem?_eq_some_iff.mp place
    intro other member _
    obtain ⟨index, within, rfl⟩ := List.mem_iff_getElem.mp member
    by_cases here : position = index
    · subst here
      refine ⟨_, List.mem_set within _, ?_⟩
      rw [same]
      exact ⟨rfl, rfl, rfl, fun _ => rfl⟩
    · refine ⟨bucket.active[index], ?_, .refl _⟩
      refine List.mem_of_getElem? (i := index) ?_
      rw [List.getElem?_set_ne here, List.getElem?_eq_getElem within]

theorem Enters.keeps {bucket : Bucket} {entry : Entry} {now : Instant}
    {result : Option (NodeID × SocketAddr) × Bucket} (enters : bucket.Enters entry now result) :
    Keeps entry.id bucket.active result.2.active ∧
      Keeps entry.id bucket.candidates result.2.candidates := by
  have same (list : List Entry) : Keeps entry.id list list := .of_subset (List.Subset.refl _)
  have longer (list : List Entry) : Keeps entry.id list (list ++ [entry]) :=
    .of_subset (List.subset_append_left _ _)
  cases enters with
  | active place => exact ⟨keeps_refresh place _, same _⟩
  | waiting place => exact ⟨same _, keeps_refresh place _⟩
  | served => exact ⟨longer _, same _⟩
  | queued =>
    refine ⟨keeps_pingOldest { bucket with candidates := bucket.candidates ++ [entry] } now _, ?_⟩
    rw [(pingOldest_frame _ now).2]
    exact longer _
  | dropped => exact ⟨same _, same _⟩

end Bucket

namespace RoutingTable

/-- Entering a node keeps the entry of every other node, in the list it was in. -/
theorem addNode_keeps (table : RoutingTable) (node : NodeID) (addr : SocketAddr) (now : Instant)
    (index : Fin 256) :
    Bucket.Keeps node (table.buckets index).active
        ((table.addNode node addr now).2.buckets index).active ∧
      Bucket.Keeps node (table.buckets index).candidates
        ((table.addNode node addr now).2.buckets index).candidates := by
  have same (list : List Entry) : Bucket.Keeps node list list :=
    .of_subset (List.Subset.refl _)
  rw [addNode]
  split
  · exact ⟨same _, same _⟩
  · show Bucket.Keeps node (table.buckets index).active (Function.update table.buckets _ _
      index).active ∧ Bucket.Keeps node (table.buckets index).candidates
        (Function.update table.buckets _ _ index).candidates
    by_cases here : index = table.bucket node
    · subst here
      rw [Function.update_self]
      exact (Bucket.addNode_enters _ node addr now).keeps
    · rw [Function.update_of_ne here]
      exact ⟨same _, same _⟩

/-! ### The invariant -/

/-- All identifiers of a table, bucket by bucket. -/
def ids (table : RoutingTable) : List NodeID :=
  (List.finRange 256).flatMap fun index =>
    ((table.buckets index).active ++ (table.buckets index).candidates).map Entry.id

/-- What holds of every table that calls can reach. -/
structure Sound (localId : NodeID) (table : RoutingTable) : Prop where
  activeFits : ∀ index, (table.buckets index).active.length ≤ 20
  candidatesFit : ∀ index, (table.buckets index).candidates.length ≤ 20
  placed : ∀ index, ∀ entry ∈ (table.buckets index).active ++ (table.buckets index).candidates,
    localId.FirstDifference entry.id index
  absent : localId ∉ table.ids
  distinct : table.ids.Nodup
  keeps : ∀ node addr now index,
    Bucket.Keeps node (table.buckets index).active
        ((table.addNode node addr now).2.buckets index).active ∧
      Bucket.Keeps node (table.buckets index).candidates
        ((table.addNode node addr now).2.buckets index).candidates

theorem localId_perform (table : RoutingTable) (call : RoutingCall) :
    (table.perform call).localId = table.localId := by
  cases call with
  | addNode node addr now =>
    rw [RoutingTable.perform, addNode]
    split <;> rfl
  | removeNode node => rfl
  | needsPing target now => rfl
  | evictStale now => rfl

theorem mem_ids {table : RoutingTable} {id : NodeID} :
    id ∈ table.ids ↔ ∃ index, id ∈ (table.buckets index).ids := by
  simp only [ids, List.mem_flatMap, List.mem_finRange, true_and, List.map_append, Bucket.ids,
    Multiset.coe_add, Multiset.mem_coe]

/-- The bucket of another node is that of its first differing bit. -/
theorem firstDifference_of_belongs {table : RoutingTable} {index : Fin 256} {id : NodeID}
    (belongs : table.Belongs index id) : table.localId.FirstDifference id index := by
  obtain ⟨other, rfl⟩ := belongs
  obtain ⟨bits, found⟩ := NodeID.leadingZeroBits_isSome (Ne.symm other)
  have place : ((table.bucket id : Fin 256) : Nat) = bits := by
    rw [bucket]
    split
    · rename_i first
      rw [found] at first
      exact (Option.some.inj first).symm
    · rename_i none
      rw [found] at none
      cases none
  rw [place]
  exact NodeID.firstDifference_of_leadingZeroBits found

theorem Placed.nodup_ids {table : RoutingTable} (placed : table.Placed) : table.ids.Nodup := by
  have ids (index : Fin 256) : (↑(((table.buckets index).active ++
      (table.buckets index).candidates).map Entry.id) : Multiset NodeID) =
        (table.buckets index).ids := by
    rw [List.map_append, ← Multiset.coe_add, Bucket.ids]
  refine List.nodup_flatMap.mpr ⟨fun index _ => ?_, ?_⟩
  · rw [← Multiset.coe_nodup, ids]
    exact (placed index).distinct
  · refine (List.nodup_finRange 256).imp fun {first second} other id inFirst inSecond => ?_
    dsimp only at inFirst inSecond
    rw [← Multiset.mem_coe, ids] at inFirst inSecond
    have firstPlace := ((placed first).placed id inFirst).2
    have secondPlace := ((placed second).placed id inSecond).2
    exact other (firstPlace.symm.trans secondPlace)

/-- Every table that calls can reach, with whatever nodes, addresses and times, is sound. -/
theorem sound_of_run (localId : NodeID) {table : RoutingTable}
    (run : Relation.ReflTransGen Step (new localId) table) : table.Sound localId := by
  have preserved : ∀ before after : RoutingTable, before.Placed ∧ before.localId = localId →
      Step before after → after.Placed ∧ after.localId = localId := by
    rintro before after ⟨placed, same⟩ ⟨call, rfl⟩
    exact ⟨placed.perform call, (before.localId_perform call).trans same⟩
  obtain ⟨placed, rfl⟩ := Run.preserves preserved ⟨fun _ => Bucket.valid_new, rfl⟩ run
  refine ⟨fun index => (placed index).activeFits, fun index => (placed index).candidatesFit,
    fun index entry member => ?_, fun held => ?_, placed.nodup_ids, table.addNode_keeps⟩
  · refine firstDifference_of_belongs ((placed index).placed entry.id ?_)
    rw [Bucket.ids, Multiset.coe_add, Multiset.mem_coe, ← List.map_append]
    exact List.mem_map_of_mem member
  · obtain ⟨index, here⟩ := mem_ids.mp held
    exact ((placed index).placed _ here).1 rfl

/-! ### A full bucket -/

/-- A node in the first bucket of node `0`. -/
def distantNode (name : Nat) : NodeID :=
  { id := ⟨toBeBytes 32 (2 ^ 255 + name), length_toBeBytes 32 _⟩ }

/-- Node `0` hears of twenty such nodes, one a second, and later of three more. -/
def crowdingCalls : List RoutingCall :=
  let enter (name time : Nat) : RoutingCall :=
    .addNode (distantNode name) (.v4 (Octets.zero 4) 9000) (seconds time)
  (List.range 20).map (fun name => enter name name) ++ [enter 20 30, enter 21 40, enter 22 85]

def crowdedTable : RoutingTable := crowdingCalls.foldl perform (new { id := Octets.zero 32 })

theorem crowdedTable_run :
    Relation.ReflTransGen Step (new { id := Octets.zero 32 }) crowdedTable :=
  Run.of_foldl (fun _ call _ => ⟨call, rfl⟩) _

/-- The bucket is full, the last three nodes wait, and the table is sound. -/
theorem crowdedTable_sound :
    (crowdedTable.buckets 0).active.map Entry.id = (List.range 20).map distantNode ∧
    (crowdedTable.buckets 0).candidates.map Entry.id = [20, 21, 22].map distantNode ∧
    crowdedTable.ids.length = 23 ∧ crowdedTable.Sound { id := Octets.zero 32 } :=
  ⟨by decide +kernel, by decide +kernel, by decide +kernel,
    sound_of_run { id := Octets.zero 32 } crowdedTable_run⟩

end RoutingTable

end Insub
