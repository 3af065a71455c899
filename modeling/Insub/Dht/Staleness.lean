/-
This file proves when evicting takes every stale node out of service. A stale entry is moved to the
candidates, and the candidates fill the list of those in service, the freshest first. A candidate
that was seen lately is always fresher than a stale entry. So a stale entry comes straight back
exactly if the entries that are not stale and the candidates seen lately are too few for the bucket.

A stale node that does not come back at once waits with what was last seen too long ago. The next
eviction drops it before it fills the list. So it stays out of service until it is entered again.
-/

import Mathlib
import Insub.Dht.Selection
import Insub.Dht.Serving
import Insub.Crypto.SampleSuite

namespace Insub

open Rust

namespace Bucket

/-! ### Filling the list from the candidates -/

/-- A candidate that was seen lately, and is kept. -/
def isRecent (now : Instant) (entry : Entry) : Bool :=
  durationSince now entry.lastSeen < Routing.staleThreshold

theorem evictStale_eq (bucket : Bucket) (now : Instant) :
    bucket.evictStale now =
      let moved := moveStale now bucket.active (bucket.candidates.filter (isRecent now))
      let filled := promote (Routing.k - moved.1.length) moved.1 moved.2
      { active := filled.1, candidates := filled.2 } := rfl

/-- The stale entries wait behind the candidates, as far as there is room. -/
theorem moveStale_candidates (now : Instant) (active candidates : List Entry) :
    (moveStale now active candidates).2 =
      candidates ++ (active.filter (isStale now)).take (Routing.k - candidates.length) := by
  induction active generalizing candidates with
  | nil => simp [moveStale]
  | cons entry rest inductionHypothesis =>
    rw [moveStale]
    by_cases stale : isStale now entry = true
    · rw [if_pos stale, inductionHypothesis, List.filter_cons_of_pos stale]
      by_cases room : candidates.length < Routing.k
      · rw [if_pos room, List.append_assoc, List.length_append, List.length_singleton,
          List.singleton_append, ← Nat.sub_sub, List.take_cons (by omega)]
      · rw [if_neg room, Nat.sub_eq_zero_of_le (not_lt.mp room), List.take_zero, List.take_zero]
    · rw [if_neg stale, List.filter_cons_of_neg stale]
      exact inductionHypothesis candidates

/-- An eviction promotes from what moving the stale entries leaves. -/
theorem evictStale_eq_promote (bucket : Bucket) (now : Instant) :
    let fresh := bucket.active.filter fun entry => !isStale now entry
    let recent := bucket.candidates.filter (isRecent now)
    let stale := (bucket.active.filter (isStale now)).take (Routing.k - recent.length)
    bucket.evictStale now =
      { active := (promote (Routing.k - fresh.length) fresh (recent ++ stale)).1
        candidates := (promote (Routing.k - fresh.length) fresh (recent ++ stale)).2 } := by
  intro fresh recent stale
  have moved : moveStale now bucket.active recent = (fresh, recent ++ stale) :=
    Prod.ext (moveStale_active _ _ _) (moveStale_candidates _ _ _)
  rw [evictStale_eq]
  dsimp only
  rw [show bucket.candidates.filter (isRecent now) = recent from rfl, moved]

/-- If the candidates without some mark are all fresher than those with it, one with the mark is
promoted exactly when there is more room than there are candidates without it. -/
theorem exists_marked_promote_iff {marked : Entry → Bool} (room : Nat) (active : List Entry)
    {candidates : List Entry}
    (fresher : ∀ entry ∈ candidates, ∀ other ∈ candidates, marked entry = false →
      marked other = true → other.lastSeen < entry.lastSeen) :
    (∃ entry ∈ (promote room active candidates).1, marked entry = true) ↔
      (∃ entry ∈ active, marked entry = true) ∨
        candidates.countP (!marked ·) < room ∧ ∃ entry ∈ candidates, marked entry = true := by
  induction room generalizing active candidates with
  | zero => simp [promote]
  | succ room inductionHypothesis =>
    rcases promote_succ_cases room active candidates with
      ⟨rfl, finished⟩ | ⟨position, inside, freshest, promoted⟩
    · simp [finished]
    · have moved := List.getElem_cons_eraseIdx_perm inside
      rw [promoted]
      cases mark : marked candidates[position] with
      | true =>
        -- no candidate is fresher, so that all of them are marked
        have all : candidates.countP (!marked ·) = 0 := by
          refine List.countP_eq_zero.mpr fun other member unmarked => ?_
          exact absurd (fresher other member _ (List.getElem_mem inside) (by simpa using unmarked)
            mark) (freshest other member).not_gt
        refine iff_of_true ⟨candidates[position], subset_promote _ _ _ ?_, mark⟩
          (Or.inr ⟨all ▸ Nat.succ_pos room, candidates[position], List.getElem_mem inside, mark⟩)
        exact List.mem_append_right _ (List.mem_singleton_self _)
      | false =>
        rw [inductionHypothesis (active ++ [candidates[position]])
          fun first one second other => fresher first (List.mem_of_mem_eraseIdx one) second
            (List.mem_of_mem_eraseIdx other), ← moved.countP_eq, List.countP_cons]
        simp only [← moved.mem_iff]
        simp [mark]

/-! ### Evicting from a bucket -/

/-- None in service is stale, or enough others are there for the whole list. -/
def HasReplacements (bucket : Bucket) (now : Instant) : Prop :=
  (∀ entry ∈ bucket.active, isStale now entry = false) ∨
    Routing.k ≤ bucket.active.countP (!isStale now ·) + bucket.candidates.countP (isRecent now)

instance (bucket : Bucket) (now : Instant) : Decidable (bucket.HasReplacements now) :=
  inferInstanceAs (Decidable (_ ∨ _))

/-- A stale entry was last seen too long ago. -/
theorem threshold_lt_of_isStale {now : Instant} {entry : Entry}
    (stale : isStale now entry = true) :
    Routing.staleThreshold < durationSince now entry.lastSeen := by
  obtain ⟨pinged, _, late⟩ := (Option.any_eq_true _ _).mp stale
  obtain ⟨unanswered, before⟩ := of_decide_eq_true late
  exact unanswered.trans_le (Nat.sub_le_sub_left before.le now)

theorem isStale_of_isRecent {now : Instant} {entry : Entry} (recent : isRecent now entry = true) :
    isStale now entry = false := by
  by_contra stale
  have late := threshold_lt_of_isStale (Bool.eq_true_of_not_eq_false stale)
  exact absurd (of_decide_eq_true recent) late.not_gt

/-- Among the candidates after the move, those that are not stale are the recent ones, and they are
fresher than the others. -/
theorem fresher_of_moved {now : Instant} {recent stale : List Entry}
    (recently : ∀ entry ∈ recent, isRecent now entry = true)
    (late : ∀ entry ∈ stale, isStale now entry = true) :
    ∀ entry ∈ recent ++ stale, ∀ other ∈ recent ++ stale, isStale now entry = false →
      isStale now other = true → other.lastSeen < entry.lastSeen := by
  intro entry member other among fresh marked
  rcases List.mem_append.mp member with seen | waiting
  · have lately : durationSince now entry.lastSeen < Routing.staleThreshold :=
      of_decide_eq_true (recently entry seen)
    have longAgo := threshold_lt_of_isStale marked
    by_contra older
    exact absurd (lately.trans longAgo) (Nat.sub_le_sub_left (not_lt.mp older) now).not_gt
  · rw [late entry waiting] at fresh
    cases fresh

/-- Among the candidates after the move are stale entries, if there are any and there was room. -/
theorem exists_stale_moved_iff {now : Instant} {recent active : List Entry}
    (recently : ∀ entry ∈ recent, isRecent now entry = true) :
    (∃ entry ∈ recent ++ (active.filter (isStale now)).take (Routing.k - recent.length),
        isStale now entry = true) ↔
      recent.length < Routing.k ∧ ∃ entry ∈ active, isStale now entry = true := by
  constructor
  · rintro ⟨entry, member, marked⟩
    rcases List.mem_append.mp member with seen | waiting
    · rw [isStale_of_isRecent (recently entry seen)] at marked
      cases marked
    · have room : 0 < Routing.k - recent.length :=
        (List.length_pos_of_mem waiting).trans_le (List.length_take_le _ _)
      exact ⟨by omega, entry, List.mem_of_mem_filter (List.mem_of_mem_take waiting), marked⟩
  · rintro ⟨room, entry, member, marked⟩
    have filtered : 0 < (active.filter (isStale now)).length :=
      List.length_pos_of_mem (List.mem_filter.mpr ⟨member, marked⟩)
    have taken : 0 < ((active.filter (isStale now)).take (Routing.k - recent.length)).length := by
      rw [List.length_take]
      omega
    obtain ⟨other, waiting⟩ := List.exists_mem_of_length_pos taken
    exact ⟨other, List.mem_append_right _ waiting,
      List.of_mem_filter (List.mem_of_mem_take waiting)⟩

/-- Those among them that are not stale are the recent ones. -/
theorem countP_moved {now : Instant} {recent stale : List Entry}
    (recently : ∀ entry ∈ recent, isRecent now entry = true)
    (late : ∀ entry ∈ stale, isStale now entry = true) :
    (recent ++ stale).countP (!isStale now ·) = recent.length := by
  rw [List.countP_append, List.countP_eq_length.mpr fun entry member => ?_,
    List.countP_eq_zero.mpr fun entry member => ?_, Nat.add_zero]
  · simp [late entry member]
  · simp [isStale_of_isRecent (recently entry member)]

/-- Whoever is in service after an eviction is not stale, exactly if the bucket has replacements. -/
theorem evictStale_active_iff (bucket : Bucket) (now : Instant) :
    (∀ entry ∈ (bucket.evictStale now).active, isStale now entry = false) ↔
      bucket.HasReplacements now := by
  set recent := bucket.candidates.filter (isRecent now) with recentList
  set fresh := bucket.active.filter (fun entry => !isStale now entry) with freshList
  set stale := (bucket.active.filter (isStale now)).take (Routing.k - recent.length) with staleList
  have recently : ∀ entry ∈ recent, isRecent now entry = true :=
    fun entry member => List.of_mem_filter member
  have late : ∀ entry ∈ stale, isStale now entry = true :=
    fun entry member => List.of_mem_filter (List.mem_of_mem_take member)
  have remaining : ¬ ∃ entry ∈ fresh, isStale now entry = true := by
    rintro ⟨entry, member, marked⟩
    simpa [marked] using List.of_mem_filter member
  have served : (bucket.evictStale now).active =
      (promote (Routing.k - fresh.length) fresh (recent ++ stale)).1 :=
    congrArg Bucket.active (evictStale_eq_promote bucket now)
  have promoted := exists_marked_promote_iff (Routing.k - fresh.length) fresh
    (fresher_of_moved recently late)
  rw [countP_moved recently late, or_iff_right remaining, exists_stale_moved_iff recently]
    at promoted
  have counts : fresh.length + recent.length = bucket.active.countP (!isStale now ·) +
      bucket.candidates.countP (isRecent now) := by
    rw [List.countP_eq_length_filter, List.countP_eq_length_filter]
  rw [served, HasReplacements, ← counts, ← not_iff_not]
  simp only [not_forall, Bool.not_eq_false, exists_prop, not_or, not_le]
  rw [promoted]
  constructor
  · rintro ⟨short, _, marked⟩
    exact ⟨marked, by omega⟩
  · rintro ⟨marked, short⟩
    exact ⟨by omega, by omega, marked⟩

/-! ### Staying out of service -/

/-- The node is not in service, and waits at most with what was last seen too long ago. -/
structure Retires (bucket : Bucket) (node : NodeID) (now : Instant) : Prop where
  active : node ∉ bucket.active.map Entry.id
  waiting : ∀ entry ∈ bucket.candidates, entry.id = node →
    Routing.staleThreshold ≤ durationSince now entry.lastSeen

variable {bucket : Bucket} {node : NodeID} {now : Instant}

theorem Retires.pingOldest (retires : bucket.Retires node now) (time : Instant) :
    (bucket.pingOldest time).2.Retires node now := by
  obtain ⟨active, candidates⟩ := pingOldest_frame bucket time
  refine ⟨?_, ?_⟩
  · rw [active]
    exact retires.active
  · rw [candidates]
    exact retires.waiting

theorem Retires.addNode (retires : bucket.Retires node now) {other : NodeID}
    (different : other ≠ node) (addr : SocketAddr) (time : Instant) :
    (bucket.addNode other addr time).2.Retires node now := by
  let entry : Entry := { id := other, addr, lastSeen := time, lastPinged := none }
  have waits {candidates : List Entry} (fewer : candidates ⊆ bucket.candidates) :
      ∀ held ∈ candidates ++ [entry], held.id = node →
        Routing.staleThreshold ≤ durationSince now held.lastSeen := by
    intro held member own
    rcases List.mem_append.mp member with old | new
    · exact retires.waiting held (fewer old) own
    · rw [List.mem_singleton.mp new] at own
      exact absurd own different
  have enters := bucket.addNode_enters other addr time
  generalize bucket.addNode other addr time = result at enters ⊢
  cases enters with
  | active place =>
    refine ⟨fun member => ?_, retires.waiting⟩
    exact retires.active ((map_id_refresh place rfl).1.mem_iff.mp member)
  | waiting => exact ⟨retires.active, waits (List.eraseIdx_subset ..)⟩
  | served =>
    refine ⟨fun member => ?_, retires.waiting⟩
    rw [List.map_append, List.mem_append] at member
    exact member.elim retires.active fun own => different (List.mem_singleton.mp own).symm
  | queued =>
    have grown : Retires { bucket with candidates := bucket.candidates ++ [entry] } node now :=
      ⟨retires.active, waits (List.Subset.refl _)⟩
    exact grown.pingOldest time
  | dropped => exact retires

theorem Retires.removeNode (retires : bucket.Retires node now) (other : NodeID) :
    (bucket.removeNode other).Retires node now where
  active member := retires.active ((List.filter_sublist.map Entry.id).subset member)
  waiting entry member := retires.waiting entry (List.mem_of_mem_filter member)

/-- What is in a bucket after an eviction was in service before, or was seen lately. -/
theorem mem_evictStale {entry : Entry}
    (member : entry ∈ (bucket.evictStale now).active ++ (bucket.evictStale now).candidates) :
    entry ∈ bucket.active ∨ entry ∈ bucket.candidates ∧ isRecent now entry = true := by
  rw [evictStale_eq] at member
  have moved := (promote_perm _ _ _).1.mem_iff.mp member
  rw [moveStale_active, moveStale_candidates, List.mem_append, List.mem_append] at moved
  rcases moved with served | seen | stale
  · exact Or.inl (List.mem_of_mem_filter served)
  · exact Or.inr (List.mem_filter.mp seen)
  · exact Or.inl (List.mem_of_mem_filter (List.mem_of_mem_take stale))

/-- The next eviction drops a node that waits. -/
theorem Retires.evictStale (retires : bucket.Retires node now) {time : Instant}
    (later : now ≤ time) : (bucket.evictStale time).Retires node now := by
  have gone : ∀ entry ∈ (bucket.evictStale time).active ++ (bucket.evictStale time).candidates,
      entry.id ≠ node := by
    intro entry member own
    rcases mem_evictStale member with served | ⟨waiting, recent⟩
    · exact retires.active (own ▸ List.mem_map_of_mem served)
    · have longAgo := retires.waiting entry waiting own
      have lately : durationSince time entry.lastSeen < Routing.staleThreshold :=
        of_decide_eq_true recent
      exact absurd (longAgo.trans (Nat.sub_le_sub_right later _)) lately.not_ge
  refine ⟨fun member => ?_, fun entry member own => ?_⟩
  · obtain ⟨entry, served, own⟩ := List.mem_map.mp member
    exact gone entry (List.mem_append_left _ served) own
  · exact absurd own (gone entry (List.mem_append_right _ member))

end Bucket

/-- The call does not enter the node, and evicts at no earlier time. -/
def RoutingCall.Spares (node : NodeID) (now : Instant) : RoutingCall → Prop
  | .addNode other _ _ => other ≠ node
  | .evictStale time => now ≤ time
  | _ => True

namespace RoutingTable

/-- The node is out of service in every bucket. -/
def Retires (table : RoutingTable) (node : NodeID) (now : Instant) : Prop :=
  ∀ index, (table.buckets index).Retires node now

variable {table : RoutingTable} {node : NodeID} {now : Instant}

theorem Retires.put (retires : table.Retires node now) {index : Fin 256} {bucket : Bucket}
    (here : bucket.Retires node now) : (table.put index bucket).Retires node now := by
  intro other
  show Bucket.Retires (Function.update table.buckets index bucket other) node now
  by_cases same : other = index
  · rw [same, Function.update_self]
    exact here
  · rw [Function.update_of_ne same]
    exact retires other

theorem Retires.perform (retires : table.Retires node now) {call : RoutingCall}
    (spares : call.Spares node now) : (table.perform call).Retires node now := by
  cases call with
  | addNode other addr time =>
    rw [RoutingTable.perform, RoutingTable.addNode]
    split
    · exact retires
    · exact retires.put ((retires (table.bucket other)).addNode spares addr time)
  | removeNode other => exact retires.put ((retires (table.bucket other)).removeNode other)
  | needsPing target time => exact retires.put ((retires (table.bucket target)).pingOldest time)
  | evictStale time => exact fun index => (retires index).evictStale spares

theorem Retires.closestNodes (retires : table.Retires node now) (target : NodeID) (count : Nat) :
    node ∉ (table.closestNodes target count).map Prod.fst := by
  intro member
  obtain ⟨found, among, rfl⟩ := List.mem_map.mp member
  obtain ⟨index, active⟩ := mem_activeNodes_of_closestNodes among
  obtain ⟨entry, served, rfl⟩ := List.mem_map.mp active
  exact (retires index).active (List.mem_map_of_mem served)

/-- A stale node is out of service after an eviction that leaves no stale entry in service. -/
theorem retires_evictStale (placed : table.Placed)
    (served : ∀ index, ∀ entry ∈ ((table.evictStale now).buckets index).active,
      Bucket.isStale now entry = false)
    {entry : Entry} (held : table.Holds entry) (stale : Bucket.isStale now entry = true) :
    (table.evictStale now).Retires entry.id now := by
  have same {index : Fin 256} {other : Entry}
      (still : other ∈ ((table.evictStale now).buckets index).active ∨
        other ∈ ((table.evictStale now).buckets index).candidates)
      (own : other.id = entry.id) : other = entry :=
    placed.unique (holds_of_evictStale placed ⟨index, still⟩) held own
  refine fun index => ⟨fun member => ?_, fun other waiting own => ?_⟩
  · obtain ⟨other, active, own⟩ := List.mem_map.mp member
    have fresh := served index other active
    rw [same (Or.inl active) own, stale] at fresh
    cases fresh
  · rw [same (Or.inr waiting) own]
    exact (Bucket.threshold_lt_of_isStale stale).le

/-- Evicting leaves no stale entry in service, exactly if every bucket has replacements. If they
have, then no node that is stale is returned again before it is entered again. -/
theorem evictStale_retires_iff (table : RoutingTable) (now : Instant) :
    ((∀ index, ∀ entry ∈ ((table.evictStale now).buckets index).active,
        Bucket.isStale now entry = false) ↔
      ∀ index, (table.buckets index).HasReplacements now) ∧
    (table.Reachable → (∀ index, (table.buckets index).HasReplacements now) →
      ∀ entry, table.Holds entry → Bucket.isStale now entry = true →
        ∀ calls : List RoutingCall, (∀ call ∈ calls, call.Spares entry.id now) →
          ∀ target count, entry.id ∉
            ((calls.foldl perform (table.evictStale now)).closestNodes target count).map
              Prod.fst) := by
  have served : (∀ index, ∀ entry ∈ ((table.evictStale now).buckets index).active,
      Bucket.isStale now entry = false) ↔
        ∀ index, (table.buckets index).HasReplacements now :=
    forall_congr' fun index => (table.buckets index).evictStale_active_iff now
  refine ⟨served, fun reachable replaced entry held stale calls spared target count => ?_⟩
  have run : Relation.ReflTransGen
      (fun before after => ∃ call ∈ calls, after = RoutingTable.perform before call)
        (table.evictStale now) (calls.foldl perform (table.evictStale now)) :=
    Run.of_foldl (fun _ call member => ⟨call, member, rfl⟩) _
  have preserved : ∀ before after : RoutingTable, before.Retires entry.id now →
      (∃ call ∈ calls, after = before.perform call) → after.Retires entry.id now := by
    rintro before after retires ⟨call, member, rfl⟩
    exact retires.perform (spared call member)
  have retires := Run.preserves preserved
    (retires_evictStale reachable.placed (served.mpr replaced) held stale) run
  exact retires.closestNodes target count

/-- After 155 seconds the first node of a full bucket is stale, and two of the candidates can take
its place. It is closest to itself before they do, and is not among the nodes returned when they
have, and another node was entered and time has passed. -/
theorem crowdedTable_retires :
    let calls : List RoutingCall :=
      [.addNode (distantNode 23) (.v4 (Octets.zero 4) 9000) (seconds 160),
        .needsPing (distantNode 0) (seconds 170), .evictStale (seconds 300)]
    distantNode 0 ∈ (crowdedTable.closestNodes (distantNode 0) 20).map Prod.fst ∧
    distantNode 0 ∉ ((calls.foldl perform (crowdedTable.evictStale (seconds 155))).closestNodes
      (distantNode 0) 20).map Prod.fst := by
  intro calls
  have stale : (crowdedTable.buckets 0).active.any (fun entry =>
      entry.id = distantNode 0 && Bucket.isStale (seconds 155) entry) = true := by
    decide +kernel
  obtain ⟨entry, served, marked⟩ := List.any_eq_true.mp stale
  obtain ⟨own, marked⟩ := Bool.and_eq_true_iff.mp marked
  have named : entry.id = distantNode 0 := of_decide_eq_true own
  have replaced : ∀ index, (crowdedTable.buckets index).HasReplacements (seconds 155) := by
    decide +kernel
  have spared : ∀ call ∈ calls, call.Spares entry.id (seconds 155) := by
    rw [named]
    simp only [calls, List.forall_mem_cons, List.not_mem_nil, false_implies, implies_true, and_true]
    have other : distantNode 23 ≠ distantNode 0 := by decide +kernel
    have later : seconds 155 ≤ seconds 300 := by decide +kernel
    exact ⟨other, trivial, later⟩
  refine ⟨by decide +kernel, ?_⟩
  rw [← named]
  exact (evictStale_retires_iff crowdedTable (seconds 155)).2 ⟨_, crowdedTable_run⟩ replaced entry
    ⟨0, Or.inl served⟩ marked calls spared _ _

/-- A table with one node, which was pinged a second after it was entered. -/
def loneTable : RoutingTable :=
  ((new ⟨Octets.zero 32⟩).perform
    (.addNode ⟨SampleSuite.octets 32 1⟩ (.v4 (Octets.zero 4) 9000) 0)).perform
    (.needsPing ⟨SampleSuite.octets 32 1⟩ (seconds 1))

theorem loneTable_reachable : loneTable.Reachable :=
  ⟨⟨Octets.zero 32⟩, .tail (.single ⟨_, rfl⟩) ⟨_, rfl⟩⟩

/-- The entry is stale after 200 seconds, and no other one can take its place. -/
theorem lone_node_promoted_back :
    loneTable.Reachable ∧ (∃ index, ∃ entry ∈ ((loneTable.evictStale (seconds 200)).buckets
      index).active, Bucket.isStale (seconds 200) entry = true) ∧
        ((loneTable.evictStale (seconds 200)).closestNodes ⟨SampleSuite.octets 32 1⟩ 20).map
          Prod.fst = [⟨SampleSuite.octets 32 1⟩] := by
  refine ⟨loneTable_reachable, ⟨255, ?_⟩, by decide +kernel⟩
  exact List.any_eq_true.mp (by decide +kernel)

end RoutingTable

end Insub
