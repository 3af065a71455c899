/-
This file proves what entering a node marks, and whom evicting takes out of service. Entering
a node that has to wait selects an entry in service, marks it as pinged, and returns it to be
pinged. Only entries that carry a mark are evicted.
-/

import Mathlib
import Insub.Dht.Hearsay

namespace Insub

open Rust

namespace Bucket

/-! ### Where an entry comes from -/

/-- What is left of a list with the node's entry taken out are entries of other nodes. -/
theorem other_of_mem_eraseIdx {list : List Entry} (distinct : (list.map Entry.id).Nodup)
    {node : NodeID} {position : Nat} (found : entryPosition list node = some position)
    {entry : Entry} (member : entry ∈ list.eraseIdx position) :
    entry.id ≠ node ∧ entry ∈ list := by
  obtain ⟨inside, holds, _⟩ := List.findIdx?_eq_some_iff_getElem.mp found
  have own : list[position].id = node := of_decide_eq_true holds
  obtain ⟨place, within, elsewhere, rfl⟩ := List.mem_eraseIdx_iff_getElem.mp member
  refine ⟨fun same => elsewhere ?_, List.getElem_mem within⟩
  refine (List.getElem?_inj (by rwa [List.length_map]) distinct).mp ?_
  rw [List.getElem?_map, List.getElem?_map, List.getElem?_eq_getElem within,
    List.getElem?_eq_getElem inside, Option.map_some, Option.map_some, same, own]

/-- The one entry that is marked is the one that is returned. -/
theorem mem_pingOldest {bucket : Bucket} {now : Instant} {entry : Entry}
    (member : entry ∈ (bucket.pingOldest now).2.active) :
    entry ∈ bucket.active ∨ ∃ pinged ∈ bucket.active,
      entry = { pinged with lastPinged := some now } ∧
        (bucket.pingOldest now).1 = some (entry.id, entry.addr) := by
  rcases bucket.pingOldest_cases now with unmarked | ⟨position, pinged, place, marked⟩
  · rw [unmarked] at member
    exact Or.inl member
  · rw [marked] at member ⊢
    rcases List.mem_or_eq_of_mem_set member with old | rfl
    · exact Or.inl old
    · exact Or.inr ⟨pinged, List.mem_of_getElem? place, rfl, rfl⟩

/-- What entering a node leaves in a bucket: an entry of the node that is not marked, an entry of
another node as it was, or one that is marked now and returned to be pinged. -/
theorem addNode_cases {bucket : Bucket}
    (distinct : ((bucket.active ++ bucket.candidates).map Entry.id).Nodup) {node : NodeID}
    {addr : SocketAddr} {now : Instant} {entry : Entry}
    (member : entry ∈ (bucket.addNode node addr now).2.active ++
      (bucket.addNode node addr now).2.candidates) :
    entry.id = node ∧ entry.lastPinged = none ∨
      entry.id ≠ node ∧ entry ∈ bucket.active ++ bucket.candidates ∨
        entry.id ≠ node ∧ entry.lastPinged = some now ∧
          (bucket.addNode node addr now).1 = some (entry.id, entry.addr) := by
  rw [List.map_append, List.nodup_append] at distinct
  obtain ⟨distinctActive, distinctCandidates, apart⟩ := distinct
  have others (fresh : node ∉ bucket.ids) {held : Entry}
      (inBucket : held ∈ bucket.active ++ bucket.candidates) : held.id ≠ node := by
    rintro rfl
    refine fresh ?_
    rw [ids, Multiset.coe_add, Multiset.mem_coe, ← List.map_append]
    exact List.mem_map_of_mem inBucket
  have enters := bucket.addNode_enters node addr now
  generalize bucket.addNode node addr now = result at enters member ⊢
  cases enters with
  | active place =>
    rcases List.mem_append.mp member with active | waiting
    · rcases List.mem_append.mp active with kept | fresh
      · obtain ⟨other, held⟩ := other_of_mem_eraseIdx distinctActive place kept
        exact Or.inr (Or.inl ⟨other, List.mem_append_left _ held⟩)
      · rw [List.mem_singleton.mp fresh]
        exact Or.inl ⟨rfl, rfl⟩
    · refine Or.inr (Or.inl ⟨fun same => ?_, List.mem_append_right _ waiting⟩)
      exact apart node (id_mem_of_entryPosition place) entry.id (List.mem_map_of_mem waiting)
        same.symm
  | waiting place =>
    rcases List.mem_append.mp member with active | waiting
    · refine Or.inr (Or.inl ⟨fun same => ?_, List.mem_append_left _ active⟩)
      exact apart entry.id (List.mem_map_of_mem active) node (id_mem_of_entryPosition place) same
    · rcases List.mem_append.mp waiting with kept | fresh
      · obtain ⟨other, held⟩ := other_of_mem_eraseIdx distinctCandidates place kept
        exact Or.inr (Or.inl ⟨other, List.mem_append_right _ held⟩)
      · rw [List.mem_singleton.mp fresh]
        exact Or.inl ⟨rfl, rfl⟩
  | served fresh =>
    rcases List.mem_append.mp member with active | waiting
    · rcases List.mem_append.mp active with kept | new
      · have held := List.mem_append_left bucket.candidates kept
        exact Or.inr (Or.inl ⟨others fresh held, held⟩)
      · rw [List.mem_singleton.mp new]
        exact Or.inl ⟨rfl, rfl⟩
    · have held := List.mem_append_right bucket.active waiting
      exact Or.inr (Or.inl ⟨others fresh held, held⟩)
  | queued fresh =>
    rcases List.mem_append.mp member with active | waiting
    · rcases mem_pingOldest active with kept | ⟨pinged, held, rfl, returned⟩
      · have held := List.mem_append_left bucket.candidates kept
        exact Or.inr (Or.inl ⟨others fresh held, held⟩)
      · have other : pinged.id ≠ node := others fresh (List.mem_append_left _ held)
        exact Or.inr (Or.inr ⟨other, rfl, returned⟩)
    · rw [(pingOldest_frame _ now).2] at waiting
      rcases List.mem_append.mp waiting with kept | new
      · have held := List.mem_append_right bucket.active kept
        exact Or.inr (Or.inl ⟨others fresh held, held⟩)
      · rw [List.mem_singleton.mp new]
        exact Or.inl ⟨rfl, rfl⟩
  | dropped fresh => exact Or.inr (Or.inl ⟨others fresh member, member⟩)

/-! ### When a node is selected -/

/-- Entering the node selects another one: it is new, it finds the bucket full, and waits while
some entry in service was not pinged lately. -/
def Crowded (bucket : Bucket) (node : NodeID) (now : Instant) : Prop :=
  node ∉ bucket.ids ∧ Routing.k ≤ bucket.active.length ∧
    bucket.candidates.length < Routing.k ∧ ∃ entry ∈ bucket.active,
      ∀ pinged, entry.lastPinged = some pinged → Routing.pingCooldown < durationSince now pinged

theorem pingOldest_eq_none_iff (bucket : Bucket) (now : Instant) :
    (bucket.pingOldest now).1 = none ↔ ¬ ∃ entry ∈ bucket.active, ∀ pinged,
      entry.lastPinged = some pinged → Routing.pingCooldown < durationSince now pinged := by
  have pingable (entry : Entry) : (entry.lastPinged.all fun pinged =>
      durationSince now pinged > Routing.pingCooldown) = true ↔ ∀ pinged,
        entry.lastPinged = some pinged → Routing.pingCooldown < durationSince now pinged := by
    simp only [Option.all_eq_true, decide_eq_true_eq, gt_iff_lt]
  have nothing : (bucket.pingOldest now).1 = none ↔
      (bucket.active.zipIdx.filter fun found => found.1.lastPinged.all fun pinged =>
        durationSince now pinged > Routing.pingCooldown) = [] := by
    rw [← List.argmin_eq_none (f := fun found : Entry × Nat => found.1.lastSeen), pingOldest]
    dsimp only
    split
    · rename_i none
      exact iff_of_true rfl none
    · rename_i found
      refine iff_of_false (fun same => ?_) fun same => ?_
      · cases same
      · rw [found] at same
        cases same
  rw [nothing, List.filter_eq_nil_iff]
  constructor
  · rintro none ⟨entry, member, unpinged⟩
    obtain ⟨position, inside, rfl⟩ := List.mem_iff_getElem.mp member
    exact none (bucket.active[position], position)
      (List.mk_mem_zipIdx_iff_getElem?.mpr (List.getElem?_eq_getElem inside))
        ((pingable _).mpr unpinged)
  · rintro none ⟨entry, position⟩ member unpinged
    exact none ⟨entry, List.mem_of_getElem? (List.mk_mem_zipIdx_iff_getElem?.mp member),
      (pingable entry).mp unpinged⟩

theorem addNode_eq_none_iff (bucket : Bucket) (node : NodeID) (addr : SocketAddr)
    (now : Instant) : (bucket.addNode node addr now).1 = none ↔ ¬ bucket.Crowded node now := by
  have known {list : List Entry} {position : Nat} (place : entryPosition list node = some position)
      (listed : ∀ id ∈ list.map Entry.id, id ∈ bucket.ids) : ¬ bucket.Crowded node now :=
    fun crowded => crowded.1 (listed node (id_mem_of_entryPosition place))
  have enters := bucket.addNode_enters node addr now
  generalize bucket.addNode node addr now = result at enters ⊢
  cases enters with
  | active place =>
    exact iff_of_true rfl (known place fun _ => Multiset.mem_add.mpr ∘ Or.inl)
  | waiting place =>
    exact iff_of_true rfl (known place fun _ => Multiset.mem_add.mpr ∘ Or.inr)
  | served _ room => exact iff_of_true rfl fun crowded => absurd room (not_lt.mpr crowded.2.1)
  | queued fresh full room =>
    rw [pingOldest_eq_none_iff, Crowded, and_iff_right fresh, and_iff_right full,
      and_iff_right room]
  | dropped _ full => exact iff_of_true rfl fun crowded => absurd crowded.2.2.1 full.not_gt

/-! ### Who leaves the active list -/

theorem moveStale_active (now : Instant) (active candidates : List Entry) :
    (moveStale now active candidates).1 = active.filter fun entry => !isStale now entry := by
  induction active generalizing candidates with
  | nil => rfl
  | cons entry rest inductionHypothesis =>
    rw [moveStale]
    by_cases stale : isStale now entry = true
    · rw [if_pos stale, inductionHypothesis, List.filter_cons_of_neg (by simp [stale])]
    · rw [if_neg stale, List.filter_cons_of_pos (by simpa using stale)]
      exact congrArg (entry :: ·) (inductionHypothesis candidates)

theorem subset_promote (room : Nat) (active candidates : List Entry) :
    active ⊆ (promote room active candidates).1 := by
  induction room generalizing active candidates with
  | zero => exact List.Subset.refl _
  | succ room inductionHypothesis =>
    rcases promote_succ_cases room active candidates with
      ⟨rfl, finished⟩ | ⟨position, inside, -, promoted⟩
    · rw [finished]
      exact List.Subset.refl _
    · rw [promoted]
      exact List.Subset.trans (List.subset_append_left _ _) (inductionHypothesis _ _)

/-- An entry that evicting takes out of service is stale. -/
theorem isStale_of_evicted {bucket : Bucket} {now : Instant} {entry : Entry}
    (active : entry ∈ bucket.active) (taken : entry ∉ (bucket.evictStale now).active) :
    isStale now entry = true := by
  by_contra fresh
  refine taken ?_
  rw [Bucket.evictStale]
  dsimp only
  refine subset_promote _ _ _ ?_
  rw [moveStale_active]
  exact List.mem_filter.mpr ⟨active, by simpa using fresh⟩

end Bucket

namespace RoutingTable

/-- Entering the node selects another one to be pinged. -/
def SelectsPing (table : RoutingTable) (node : NodeID) (now : Instant) : Prop :=
  node ≠ table.localId ∧ (table.buckets (table.bucket node)).Crowded node now

theorem addNode_eq_none_iff (table : RoutingTable) (node : NodeID) (addr : SocketAddr)
    (now : Instant) : (table.addNode node addr now).1 = none ↔ ¬ table.SelectsPing node now := by
  rw [addNode, SelectsPing]
  by_cases own : node = table.localId
  · rw [if_pos own]
    exact iff_of_true rfl fun selects => selects.1 own
  · rw [if_neg own, and_iff_right own]
    exact Bucket.addNode_eq_none_iff _ node addr now

/-- Entering the nodes of a list selects none. -/
def LearnsQuietly (table : RoutingTable) : NodeList → (Nat → Instant) → Prop
  | [], _ => True
  | (id, addr) :: rest, clock =>
    ¬ table.SelectsPing id (clock 0) ∧
      (table.addNode id addr (clock 0)).2.LearnsQuietly rest fun index => clock (index + 1)

/-- What entering a node leaves in a table. -/
theorem addNode_cases {table : RoutingTable} (placed : table.Placed) {node : NodeID}
    {addr : SocketAddr} {now : Instant} {entry : Entry}
    (held : (table.addNode node addr now).2.Holds entry) :
    entry.id = node ∧ entry.lastPinged = none ∨ entry.id ≠ node ∧ table.Holds entry ∨
      entry.id ≠ node ∧ entry.lastPinged = some now ∧
        (table.addNode node addr now).1 = some (entry.id, entry.addr) := by
  by_cases own : node = table.localId
  · rw [addNode, if_pos own] at held
    exact Or.inr (Or.inl ⟨own ▸ (placed.place held).1, held⟩)
  rw [addNode, if_neg own] at held ⊢
  obtain ⟨index, either⟩ := held
  dsimp only [put] at either ⊢
  by_cases here : index = table.bucket node
  · subst here
    rw [Function.update_self, ← List.mem_append] at either
    have distinct := (placed (table.bucket node)).distinct
    rw [Bucket.ids, Multiset.coe_add, Multiset.coe_nodup, ← List.map_append] at distinct
    rcases Bucket.addNode_cases distinct either with fresh | ⟨other, before⟩ | selected
    · exact Or.inl fresh
    · exact Or.inr (Or.inl ⟨other, _, List.mem_append.mp before⟩)
    · exact Or.inr (Or.inr selected)
  · rw [Function.update_of_ne here] at either
    have before : table.Holds entry := ⟨index, either⟩
    have belongs : table.Belongs index entry.id := by
      refine (placed index).placed entry.id ?_
      rw [Bucket.ids, Multiset.coe_add, Multiset.mem_coe, ← List.map_append]
      exact List.mem_map_of_mem (List.mem_append.mpr either)
    refine Or.inr (Or.inl ⟨?_, before⟩)
    rintro rfl
    exact here belongs.2.symm

/-- Quiet learning marks no entry. -/
theorem holds_of_learnsQuietly {table : RoutingTable} (placed : table.Placed) {listed : NodeList}
    {clock : Nat → Instant} (quiet : table.LearnsQuietly listed clock) {entry : Entry}
    (held : (table.learn listed clock).Holds entry) {pinged : Instant}
    (marked : entry.lastPinged = some pinged) : table.Holds entry := by
  induction listed generalizing table clock with
  | nil => exact held
  | cons node rest inductionHypothesis =>
    obtain ⟨id, addr⟩ := node
    have later := inductionHypothesis (placed.perform (.addNode id addr (clock 0))) quiet.2 held
    rcases addNode_cases placed later with ⟨_, unmarked⟩ | ⟨_, before⟩ | ⟨_, _, selected⟩
    · rw [unmarked] at marked
      cases marked
    · exact before
    · rw [(addNode_eq_none_iff table id addr (clock 0)).mpr quiet.1] at selected
      cases selected

theorem holds_of_evictStale {table : RoutingTable} (placed : table.Placed) {now : Instant}
    {entry : Entry} (held : (table.evictStale now).Holds entry) : table.Holds entry := by
  obtain ⟨index, either⟩ := held
  have fewer := (Bucket.evictStale_le (placed index).activeFits (placed index).candidatesFit now).1
  have member : entry ∈ (↑(table.buckets index).active + ↑(table.buckets index).candidates :
      Multiset Entry) := by
    refine Multiset.mem_of_le fewer ?_
    rw [Multiset.mem_add, Multiset.mem_coe, Multiset.mem_coe]
    exact either
  rw [Multiset.mem_add, Multiset.mem_coe, Multiset.mem_coe] at member
  exact ⟨index, member⟩

end RoutingTable

end Insub
