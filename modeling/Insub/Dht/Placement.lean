/-
This file proves where the nodes of a routing table are. In every table that calls can reach,
each bucket holds at most `k` entries in service and `k` candidates, no node is held twice,
and every node is in the bucket of its first differing bit. So the nodes that
`closest_nodes` returns are distinct.
-/

import Mathlib
import Insub.Dht.Routing

namespace Insub

open Rust

namespace Bucket

/-- The identifiers a bucket holds, in service or waiting. -/
def ids (bucket : Bucket) : Multiset NodeID :=
  ↑(bucket.active.map Entry.id) + ↑(bucket.candidates.map Entry.id)

/-- A bucket of the nodes that belong to its place. -/
structure Valid (belongs : NodeID → Prop) (bucket : Bucket) : Prop where
  distinct : bucket.ids.Nodup
  placed : ∀ id ∈ bucket.ids, belongs id
  activeFits : bucket.active.length ≤ Routing.k
  candidatesFit : bucket.candidates.length ≤ Routing.k

variable {belongs : NodeID → Prop}

/-- A bucket that holds no other nodes is as valid as it was, if it keeps to its size. -/
theorem Valid.of_ids_le {before after : Bucket} (valid : before.Valid belongs)
    (fewer : after.ids ≤ before.ids) (activeFits : after.active.length ≤ Routing.k)
    (candidatesFit : after.candidates.length ≤ Routing.k) : after.Valid belongs where
  distinct := Multiset.nodup_of_le fewer valid.distinct
  placed id member := valid.placed id (Multiset.mem_of_le fewer member)
  activeFits := activeFits
  candidatesFit := candidatesFit

/-- A bucket that gains one node that it did not hold. -/
theorem Valid.of_ids_cons {before after : Bucket} {node : NodeID} (valid : before.Valid belongs)
    (gains : after.ids = node ::ₘ before.ids) (fresh : node ∉ before.ids) (here : belongs node)
    (activeFits : after.active.length ≤ Routing.k)
    (candidatesFit : after.candidates.length ≤ Routing.k) : after.Valid belongs where
  distinct := by
    rw [gains]
    exact Multiset.nodup_cons.mpr ⟨fresh, valid.distinct⟩
  placed id member := by
    rw [gains] at member
    rcases Multiset.mem_cons.mp member with rfl | held
    · exact here
    · exact valid.placed id held
  activeFits := activeFits
  candidatesFit := candidatesFit

theorem valid_new : new.Valid belongs where
  distinct := Multiset.nodup_zero
  placed _ member := absurd member (Multiset.notMem_zero _)
  activeFits := Nat.zero_le _
  candidatesFit := Nat.zero_le _

/-! ### Adding and pinging -/

/-- A ping marks no entry, or one that is in service and is returned. -/
theorem pingOldest_cases (bucket : Bucket) (now : Instant) :
    bucket.pingOldest now = (none, bucket) ∨
      ∃ (position : Nat) (entry : Entry), bucket.active[position]? = some entry ∧
        bucket.pingOldest now = (some (entry.id, entry.addr), { bucket with
          active := bucket.active.set position { entry with lastPinged := some now } }) := by
  rw [pingOldest]
  dsimp only
  cases chosen : (bucket.active.zipIdx.filter fun found =>
      found.1.lastPinged.all fun pinged => durationSince now pinged > Routing.pingCooldown).argmin
        fun found => found.1.lastSeen with
  | none => exact Or.inl rfl
  | some found =>
    obtain ⟨entry, position⟩ := found
    have place := List.mk_mem_zipIdx_iff_getElem?.mp
      (List.mem_of_mem_filter (List.argmin_mem (Option.mem_def.mpr chosen)))
    exact Or.inr ⟨position, entry, place, rfl⟩

theorem pingOldest_frame (bucket : Bucket) (now : Instant) :
    (bucket.pingOldest now).2.active.map Entry.id = bucket.active.map Entry.id ∧
      (bucket.pingOldest now).2.candidates = bucket.candidates := by
  rcases bucket.pingOldest_cases now with unmarked | ⟨position, entry, place, marked⟩
  · rw [unmarked]
    exact ⟨rfl, rfl⟩
  · rw [marked]
    refine ⟨?_, rfl⟩
    obtain ⟨inside, same⟩ := List.getElem?_eq_some_iff.mp place
    have written := @List.set_getElem_self _ (bucket.active.map Entry.id) position
      (by rwa [List.length_map])
    rw [List.getElem_map, same] at written
    rw [List.map_set, written]

theorem Valid.pingOldest {bucket : Bucket} (valid : bucket.Valid belongs) (now : Instant) :
    (bucket.pingOldest now).2.Valid belongs := by
  obtain ⟨active, candidates⟩ := pingOldest_frame bucket now
  have sameLength := congrArg List.length active
  rw [List.length_map, List.length_map] at sameLength
  refine valid.of_ids_le (le_of_eq ?_) ?_ ?_
  · rw [ids, ids, active, candidates]
  · rw [sameLength]
    exact valid.activeFits
  · rw [candidates]
    exact valid.candidatesFit

/-- An entry that takes the place of one for the same node moves to the end. -/
theorem map_id_refresh {list : List Entry} {node : NodeID} {position : Nat}
    (found : entryPosition list node = some position) {entry : Entry} (same : entry.id = node) :
    ((list.eraseIdx position ++ [entry]).map Entry.id).Perm (list.map Entry.id) ∧
      (list.eraseIdx position ++ [entry]).length = list.length := by
  obtain ⟨inside, holds, _⟩ := List.findIdx?_eq_some_iff_getElem.mp found
  have old : list[position].id = node := of_decide_eq_true holds
  have moved := (List.getElem_cons_eraseIdx_perm inside).map Entry.id
  rw [List.map_cons, old] at moved
  refine ⟨?_, ?_⟩
  · rw [List.map_append, List.map_singleton, same]
    exact (List.perm_append_singleton _ _).trans moved
  · rw [List.length_append, List.length_eraseIdx_of_lt inside, List.length_singleton]
    omega

theorem id_mem_of_entryPosition {list : List Entry} {node : NodeID} {position : Nat}
    (found : entryPosition list node = some position) : node ∈ list.map Entry.id := by
  obtain ⟨inside, holds, _⟩ := List.findIdx?_eq_some_iff_getElem.mp found
  have own : list[position].id = node := of_decide_eq_true holds
  exact own ▸ List.mem_map_of_mem (List.getElem_mem inside)

theorem notMem_of_entryPosition {list : List Entry} {node : NodeID}
    (absent : entryPosition list node = none) : node ∉ list.map Entry.id := by
  intro member
  obtain ⟨entry, held, same⟩ := List.mem_map.mp member
  have other := List.findIdx?_eq_none_iff.mp absent entry held
  exact of_decide_eq_false other same

/-- What entering a node does: its entry takes the place of the one it had, or is new and finds room
in service or among the candidates, or neither. -/
inductive Enters (bucket : Bucket) (entry : Entry) (now : Instant) :
    Option (NodeID × SocketAddr) × Bucket → Prop
  | active {position : Nat} (place : entryPosition bucket.active entry.id = some position) :
      Enters bucket entry now
        (none, { bucket with active := bucket.active.eraseIdx position ++ [entry] })
  | waiting {position : Nat} (place : entryPosition bucket.candidates entry.id = some position) :
      Enters bucket entry now
        (none, { bucket with candidates := bucket.candidates.eraseIdx position ++ [entry] })
  | served (fresh : entry.id ∉ bucket.ids) (room : bucket.active.length < Routing.k) :
      Enters bucket entry now (none, { bucket with active := bucket.active ++ [entry] })
  | queued (fresh : entry.id ∉ bucket.ids) (full : Routing.k ≤ bucket.active.length)
      (room : bucket.candidates.length < Routing.k) :
      Enters bucket entry now
        ({ bucket with candidates := bucket.candidates ++ [entry] }.pingOldest now)
  | dropped (fresh : entry.id ∉ bucket.ids) (full : Routing.k ≤ bucket.candidates.length) :
      Enters bucket entry now (none, bucket)

theorem addNode_enters (bucket : Bucket) (node : NodeID) (addr : SocketAddr) (now : Instant) :
    bucket.Enters { id := node, addr, lastSeen := now, lastPinged := none } now
      (bucket.addNode node addr now) := by
  rw [Bucket.addNode]
  cases activePlace : entryPosition bucket.active node with
  | some position => exact .active activePlace
  | none =>
    cases candidatePlace : entryPosition bucket.candidates node with
    | some position => exact .waiting candidatePlace
    | none =>
      have fresh : node ∉ bucket.ids := by
        rw [ids, Multiset.mem_add, Multiset.mem_coe, Multiset.mem_coe]
        exact not_or.mpr
          ⟨notMem_of_entryPosition activePlace, notMem_of_entryPosition candidatePlace⟩
      dsimp only
      by_cases served : bucket.active.length < Routing.k
      · rw [if_pos served]
        exact .served fresh served
      rw [if_neg served]
      by_cases queued : bucket.candidates.length < Routing.k
      · rw [if_pos queued]
        exact .queued fresh (not_lt.mp served) queued
      · rw [if_neg queued]
        exact .dropped fresh (not_lt.mp queued)

theorem Valid.enters {bucket : Bucket} (valid : bucket.Valid belongs) {entry : Entry}
    (here : belongs entry.id) {now : Instant} {result : Option (NodeID × SocketAddr) × Bucket}
    (enters : bucket.Enters entry now result) : result.2.Valid belongs := by
  cases enters with
  | active place =>
    obtain ⟨perm, sameLength⟩ := map_id_refresh place rfl
    refine valid.of_ids_le (le_of_eq ?_) (sameLength ▸ valid.activeFits) valid.candidatesFit
    rw [ids, ids, Multiset.coe_eq_coe.mpr perm]
  | waiting place =>
    obtain ⟨perm, sameLength⟩ := map_id_refresh place rfl
    refine valid.of_ids_le (le_of_eq ?_) valid.activeFits (sameLength ▸ valid.candidatesFit)
    rw [ids, ids, Multiset.coe_eq_coe.mpr perm]
  | served fresh room =>
    refine valid.of_ids_cons ?_ fresh here ?_ valid.candidatesFit
    · simp only [ids, List.map_append, List.map_singleton, ← Multiset.coe_add,
        Multiset.coe_singleton, ← Multiset.singleton_add]
      abel
    · rw [List.length_append]
      exact room
  | queued fresh _ room =>
    have grown : Valid belongs { bucket with candidates := bucket.candidates ++ [entry] } := by
      refine valid.of_ids_cons ?_ fresh here valid.activeFits ?_
      · simp only [ids, List.map_append, List.map_singleton, ← Multiset.coe_add,
          Multiset.coe_singleton, ← Multiset.singleton_add]
        abel
      · rw [List.length_append]
        exact room
    exact grown.pingOldest now
  | dropped => exact valid

theorem Valid.addNode {bucket : Bucket} (valid : bucket.Valid belongs) {node : NodeID}
    (here : belongs node) (addr : SocketAddr) (now : Instant) :
    (bucket.addNode node addr now).2.Valid belongs :=
  valid.enters here (bucket.addNode_enters node addr now)

theorem Valid.removeNode {bucket : Bucket} (valid : bucket.Valid belongs) (node : NodeID) :
    (bucket.removeNode node).Valid belongs := by
  refine valid.of_ids_le ?_ ((List.length_filter_le _ _).trans valid.activeFits)
    ((List.length_filter_le _ _).trans valid.candidatesFit)
  exact add_le_add (List.filter_sublist.map Entry.id).subperm
    (List.filter_sublist.map Entry.id).subperm

/-! ### Evicting -/

/-- Moving stale entries loses those that find no room, and adds none. -/
theorem moveStale_le (now : Instant) (active candidates : List Entry)
    (fits : candidates.length ≤ Routing.k) :
    (↑(moveStale now active candidates).1 + ↑(moveStale now active candidates).2 :
        Multiset Entry) ≤ ↑active + ↑candidates ∧
      (moveStale now active candidates).1.length ≤ active.length ∧
        (moveStale now active candidates).2.length ≤ Routing.k := by
  induction active generalizing candidates with
  | nil => exact ⟨le_rfl, le_rfl, fits⟩
  | cons entry rest inductionHypothesis =>
    rw [moveStale]
    split
    · split
      · rename_i room
        have longer : (candidates ++ [entry]).length ≤ Routing.k := by
          rw [List.length_append]
          exact room
        obtain ⟨fewer, shorter, fit⟩ := inductionHypothesis (candidates ++ [entry]) longer
        refine ⟨fewer.trans (le_of_eq ?_), Nat.le_succ_of_le shorter, fit⟩
        simp only [← Multiset.coe_add, ← Multiset.cons_coe, ← Multiset.singleton_add]
        abel
      · obtain ⟨fewer, shorter, fit⟩ := inductionHypothesis candidates fits
        refine ⟨fewer.trans (add_le_add_left ?_ _), Nat.le_succ_of_le shorter, fit⟩
        exact (List.sublist_cons_self entry rest).subperm
    · obtain ⟨fewer, shorter, fit⟩ := inductionHypothesis candidates fits
      refine ⟨?_, Nat.succ_le_succ shorter, fit⟩
      rw [← Multiset.cons_coe, ← Multiset.cons_coe, Multiset.cons_add, Multiset.cons_add]
      exact Multiset.cons_le_cons entry fewer

/-- One more place is filled from the candidate seen last, if there is a candidate. -/
theorem promote_succ_cases (room : Nat) (active candidates : List Entry) :
    (candidates = [] ∧ promote (room + 1) active candidates = (active, [])) ∨
      ∃ (position : Nat) (inside : position < candidates.length),
        (∀ other ∈ candidates, other.lastSeen ≤ candidates[position].lastSeen) ∧
          promote (room + 1) active candidates =
            promote room (active ++ [candidates[position]]) (candidates.eraseIdx position) := by
  rw [promote]
  cases chosen : candidates.zipIdx.reverse.argmax fun found => found.1.lastSeen with
  | none =>
    have empty : candidates = [] := by simpa using chosen
    exact Or.inl ⟨empty, by rw [empty]⟩
  | some found =>
    obtain ⟨entry, position⟩ := found
    have place := List.mk_mem_zipIdx_iff_getElem?.mp
      (List.mem_reverse.mp (List.argmax_mem (Option.mem_def.mpr chosen)))
    obtain ⟨inside, rfl⟩ := List.getElem?_eq_some_iff.mp place
    refine Or.inr ⟨position, inside, fun other member => ?_, rfl⟩
    obtain ⟨index, within, rfl⟩ := List.mem_iff_getElem.mp member
    have among : (candidates[index], index) ∈ candidates.zipIdx.reverse :=
      List.mem_reverse.mpr (List.mk_mem_zipIdx_iff_getElem?.mpr
        (List.getElem?_eq_getElem within))
    exact List.le_of_mem_argmax (f := fun found : Entry × Nat => found.1.lastSeen) among
      (Option.mem_def.mpr chosen)

/-- Promoting candidates moves entries from one list to the other. -/
theorem promote_perm (room : Nat) (active candidates : List Entry) :
    ((promote room active candidates).1 ++ (promote room active candidates).2).Perm
        (active ++ candidates) ∧
      (promote room active candidates).1.length ≤ active.length + room ∧
        (promote room active candidates).2.length ≤ candidates.length := by
  induction room generalizing active candidates with
  | zero => exact ⟨.refl _, le_rfl, le_rfl⟩
  | succ room inductionHypothesis =>
    rcases promote_succ_cases room active candidates with
      ⟨rfl, finished⟩ | ⟨position, inside, -, promoted⟩
    · rw [finished]
      exact ⟨.refl _, by simp, le_rfl⟩
    · obtain ⟨perm, longer, shorter⟩ :=
        inductionHypothesis (active ++ [candidates[position]]) (candidates.eraseIdx position)
      rw [promoted]
      refine ⟨perm.trans ?_, ?_, ?_⟩
      · rw [List.append_assoc]
        exact (List.getElem_cons_eraseIdx_perm inside).append_left active
      · rw [List.length_append, List.length_singleton] at longer
        omega
      · rw [List.length_eraseIdx_of_lt inside] at shorter
        omega

/-- Evicting moves entries from one list to the other and loses some, and adds none. -/
theorem evictStale_le {bucket : Bucket} (activeFits : bucket.active.length ≤ Routing.k)
    (candidatesFit : bucket.candidates.length ≤ Routing.k) (now : Instant) :
    (↑(bucket.evictStale now).active + ↑(bucket.evictStale now).candidates : Multiset Entry) ≤
        ↑bucket.active + ↑bucket.candidates ∧
      (bucket.evictStale now).active.length ≤ Routing.k ∧
        (bucket.evictStale now).candidates.length ≤ Routing.k := by
  rw [Bucket.evictStale]
  dsimp only
  have kept : (bucket.candidates.filter fun entry =>
      durationSince now entry.lastSeen < Routing.staleThreshold).Sublist bucket.candidates :=
    List.filter_sublist
  generalize bucket.candidates.filter
    (fun entry => durationSince now entry.lastSeen < Routing.staleThreshold) = fresh at kept ⊢
  obtain ⟨fewer, shorter, fit⟩ :=
    moveStale_le now bucket.active fresh (kept.length_le.trans candidatesFit)
  rcases moved : moveStale now bucket.active fresh with ⟨active, candidates⟩
  rw [moved] at fewer shorter fit
  dsimp only at fewer shorter fit ⊢
  obtain ⟨perm, longer, least⟩ := promote_perm (Routing.k - active.length) active candidates
  rcases promoted : promote (Routing.k - active.length) active candidates with ⟨served, waiting⟩
  rw [promoted] at perm longer least
  dsimp only at perm longer least ⊢
  refine ⟨?_, by omega, least.trans fit⟩
  calc
    (↑served + ↑waiting : Multiset Entry) = ↑active + ↑candidates := Multiset.coe_eq_coe.mpr perm
    _ ≤ ↑bucket.active + ↑fresh := fewer
    _ ≤ ↑bucket.active + ↑bucket.candidates := add_le_add_right kept.subperm _

theorem Valid.evictStale {bucket : Bucket} (valid : bucket.Valid belongs) (now : Instant) :
    (bucket.evictStale now).Valid belongs := by
  obtain ⟨entries, activeFits, candidatesFit⟩ :=
    evictStale_le valid.activeFits valid.candidatesFit now
  refine valid.of_ids_le ?_ activeFits candidatesFit
  have mapped := Multiset.map_le_map (f := Entry.id) entries
  rwa [Multiset.map_add, Multiset.map_add, Multiset.map_coe, Multiset.map_coe, Multiset.map_coe,
    Multiset.map_coe] at mapped

end Bucket

/-- The calls that change a table. -/
inductive RoutingCall
  | addNode (node : NodeID) (addr : SocketAddr) (now : Instant)
  | removeNode (node : NodeID)
  | needsPing (target : NodeID) (now : Instant)
  | evictStale (now : Instant)

namespace RoutingTable

def perform (table : RoutingTable) : RoutingCall → RoutingTable
  | .addNode node addr now => (table.addNode node addr now).2
  | .removeNode node => table.removeNode node
  | .needsPing target now => (table.needsPing target now).2
  | .evictStale now => table.evictStale now

/-- One call, whatever it is. -/
def Step (before after : RoutingTable) : Prop := ∃ call, after = before.perform call

/-- The tables that calls can reach. -/
def Reachable (table : RoutingTable) : Prop :=
  ∃ localId, Relation.ReflTransGen Step (new localId) table

/-- The nodes that a bucket is for. -/
def Belongs (table : RoutingTable) (index : Fin 256) (id : NodeID) : Prop :=
  id ≠ table.localId ∧ table.bucket id = index

/-- Every node is held at most once, in its own bucket. -/
def Placed (table : RoutingTable) : Prop :=
  ∀ index, (table.buckets index).Valid (table.Belongs index)

theorem Placed.put {table : RoutingTable} (placed : table.Placed) {index : Fin 256}
    {bucket : Bucket} (valid : bucket.Valid (table.Belongs index)) :
    (table.put index bucket).Placed := by
  intro other
  show Bucket.Valid (table.Belongs other) (Function.update table.buckets index bucket other)
  by_cases same : other = index
  · rw [same, Function.update_self]
    exact valid
  · rw [Function.update_of_ne same]
    exact placed other

theorem Placed.perform {table : RoutingTable} (placed : table.Placed) (call : RoutingCall) :
    (table.perform call).Placed := by
  cases call with
  | addNode node addr now =>
    rw [RoutingTable.perform, RoutingTable.addNode]
    split
    · exact placed
    · rename_i other
      exact placed.put ((placed (table.bucket node)).addNode ⟨other, rfl⟩ addr now)
  | removeNode node => exact placed.put ((placed (table.bucket node)).removeNode node)
  | needsPing target now => exact placed.put ((placed (table.bucket target)).pingOldest now)
  | evictStale now => exact fun index => (placed index).evictStale now

theorem Reachable.placed {table : RoutingTable} (reachable : table.Reachable) : table.Placed := by
  obtain ⟨localId, run⟩ := reachable
  refine Run.preserves ?_ (fun _ => Bucket.valid_new) run
  rintro before after holds ⟨call, rfl⟩
  exact holds.perform call

/-! ### The closest nodes are distinct -/

theorem mem_bucketsAt {start index : Fin 256} {offset : Nat} :
    index ∈ bucketsAt start offset ↔
      (index : Nat) + offset = start ∨ (start : Nat) + offset = index := by
  rw [bucketsAt, List.mem_append]
  refine or_congr ?_ ?_
  · split
    · rw [List.mem_singleton, Fin.ext_iff]
      dsimp only
      omega
    · simp only [List.not_mem_nil, false_iff]
      omega
  · split
    · rw [List.mem_singleton, Fin.ext_iff]
      dsimp only
      omega
    · simp only [List.not_mem_nil, false_iff]
      omega

/-- The loop visits every bucket once. -/
theorem nodup_visit (start : Fin 256) :
    (start :: (List.range' 1 255).flatMap (bucketsAt start)).Nodup := by
  have positive : ∀ offset ∈ List.range' 1 255, 1 ≤ offset := by
    intro offset member
    exact (List.mem_range'_1.mp member).1
  refine List.nodup_cons.mpr ⟨fun again => ?_, List.nodup_flatMap.mpr ⟨?_, ?_⟩⟩
  · obtain ⟨offset, member, here⟩ := List.mem_flatMap.mp again
    have := positive offset member
    rw [mem_bucketsAt] at here
    omega
  · intro offset member
    have := positive offset member
    rw [bucketsAt]
    split
    · split
      · rw [List.singleton_append, List.nodup_cons, List.mem_singleton, Fin.ext_iff]
        refine ⟨?_, List.nodup_singleton _⟩
        dsimp only
        omega
      · exact List.nodup_singleton _
    · split
      · exact List.nodup_singleton _
      · exact List.nodup_nil
  · have increasing : (List.range' 1 255).Pairwise (· < ·) := List.pairwise_lt_range'
    refine increasing.imp_of_mem fun {near far} nearIn _ further => ?_
    intro index first second
    have := positive near nearIn
    rw [mem_bucketsAt] at first second
    omega

/-- The loop collects the nodes in service of a part of the buckets. -/
theorem gather_eq (table : RoutingTable) (start : Fin 256) (count : Nat) (offsets : List Nat)
    (out : List (NodeID × SocketAddr)) :
    ∃ visited : List (Fin 256), visited.Sublist (offsets.flatMap (bucketsAt start)) ∧
      table.gather start count offsets out = out ++ visited.flatMap table.activeNodes := by
  induction offsets generalizing out with
  | nil => exact ⟨[], .refl [], (List.append_nil out).symm⟩
  | cons offset rest inductionHypothesis =>
    rw [gather, List.flatMap_cons]
    split
    · obtain ⟨visited, part, gathered⟩ :=
        inductionHypothesis (out ++ (bucketsAt start offset).flatMap table.activeNodes)
      refine ⟨bucketsAt start offset ++ visited, part.append_left _, ?_⟩
      rw [gathered, List.flatMap_append, List.append_assoc]
    · exact ⟨[], List.nil_sublist _, (List.append_nil out).symm⟩

/-- The nodes of distinct buckets are distinct. -/
theorem Placed.nodup_flatMap {table : RoutingTable} (placed : table.Placed)
    {visited : List (Fin 256)} (distinct : visited.Nodup) :
    ((visited.flatMap table.activeNodes).map Prod.fst).Nodup := by
  have ids (index : Fin 256) : (table.activeNodes index).map Prod.fst =
      (table.buckets index).active.map Entry.id := by
    rw [activeNodes, List.map_map]
    rfl
  rw [List.map_flatMap]
  refine List.nodup_flatMap.mpr ⟨fun index _ => ?_, distinct.imp fun {first second} other => ?_⟩
  · rw [ids]
    exact (Multiset.nodup_add.mp (placed index).distinct).1
  · intro id inFirst inSecond
    dsimp only at inFirst inSecond
    rw [ids] at inFirst inSecond
    have firstPlace := ((placed first).placed id (Multiset.mem_add.mpr (Or.inl inFirst))).2
    have secondPlace := ((placed second).placed id (Multiset.mem_add.mpr (Or.inl inSecond))).2
    exact other (firstPlace.symm.trans secondPlace)

theorem Placed.nodup_closestNodes {table : RoutingTable} (placed : table.Placed)
    (target : NodeID) (count : Nat) :
    ((table.closestNodes target count).map Prod.fst).Nodup := by
  obtain ⟨visited, part, gathered⟩ := table.gather_eq (table.bucket target) count
    (List.range' 1 255) (table.activeNodes (table.bucket target))
  have distinct : (table.bucket target :: visited).Nodup :=
    (nodup_visit (table.bucket target)).sublist (part.cons_cons _)
  have all := placed.nodup_flatMap distinct
  rw [List.flatMap_cons, ← gathered] at all
  have sorted := (Nearest.perm_sortByKey (fun node => target.remoteness node.1)
    (table.gather (table.bucket target) count (List.range' 1 255)
      (table.activeNodes (table.bucket target)))).map Prod.fst
  refine (sorted.nodup_iff.mpr all).sublist ?_
  exact (List.take_sublist count _).map Prod.fst

end RoutingTable

end Insub
