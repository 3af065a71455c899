/-
This file proves when joining goes through its seeds. A lookup marks the nodes it has asked by
their identifiers, and the seeds, whose identifiers are not known yet, all have the same one.
So the first seed marks them all: when it does not answer, joining ends, and no other seed is
asked. Nor is one when the first seed answers in the name of the joining node and lists no other:
nothing is entered into the routing table then.
-/

import Mathlib
import Insub.Dht.Acquaintance
import Insub.Dht.Distance

namespace Insub

open Rust

/-! ### The nodes that answers name -/

/-- The nodes that an answer names: its sender and those it lists. -/
def Answer.named : Answer → List NodeID
  | .response operation _ _ _ => operation.senderId :: operation.listed.map Prod.fst
  | .timeout => []

theorem Answer.mem_named_of_listed {answer : Answer} {id : NodeID}
    (listed : id ∈ answer.listed.map Prod.fst) : id ∈ answer.named := by
  cases answer with
  | timeout => cases listed
  | response operation sender now clock => exact List.mem_cons_of_mem _ listed

/-- The answer names a node that is not the asking one. -/
def Answer.NamesOther (own : NodeID) (answer : Answer) : Prop := ∃ id ∈ answer.named, id ≠ own

/-- The nodes that the answers name which a lookup takes before it ends. -/
def Lookup.told (lookup : Lookup) : List Answer → List NodeID
  | [] => []
  | answer :: rest =>
    (if lookup.next.isSome then answer.named else []) ++ (lookup.step answer).told rest

/-! ### What becomes of them in the routing table -/

namespace Bucket

/-- The bucket lists the node, or has all the candidates that it takes. -/
def Covers (bucket : Bucket) (id : NodeID) : Prop :=
  id ∈ bucket.ids ∨ Routing.k ≤ bucket.candidates.length

/-- Entering a node loses none, and leaves a bucket that lists it or is full. -/
theorem Enters.grows {bucket : Bucket} {entry : Entry} {now : Instant}
    {result : Option (NodeID × SocketAddr) × Bucket} (enters : bucket.Enters entry now result) :
    bucket.ids ⊆ result.2.ids ∧ bucket.candidates.length ≤ result.2.candidates.length ∧
      result.2.Covers entry.id := by
  cases enters with
  | @active position place =>
    obtain ⟨perm, _⟩ := map_id_refresh place rfl
    have same : bucket.ids =
        ids { bucket with active := bucket.active.eraseIdx position ++ [entry] } := by
      rw [ids, ids, Multiset.coe_eq_coe.mpr perm]
    refine ⟨Multiset.subset_of_le same.le, le_rfl, Or.inl (same ▸ ?_)⟩
    exact Multiset.mem_add.mpr (Or.inl (id_mem_of_entryPosition place))
  | @waiting position place =>
    obtain ⟨perm, sameLength⟩ := map_id_refresh place rfl
    have same : bucket.ids =
        ids { bucket with candidates := bucket.candidates.eraseIdx position ++ [entry] } := by
      rw [ids, ids, Multiset.coe_eq_coe.mpr perm]
    refine ⟨Multiset.subset_of_le same.le, sameLength.ge, Or.inl (same ▸ ?_)⟩
    exact Multiset.mem_add.mpr (Or.inr (id_mem_of_entryPosition place))
  | served fresh room =>
    refine ⟨fun id member => ?_, le_rfl, Or.inl ?_⟩
    · rw [ids, List.map_append, ← Multiset.coe_add, add_right_comm]
      exact Multiset.mem_add.mpr (Or.inl member)
    · rw [ids, List.map_append]
      simp
  | queued fresh full room =>
    obtain ⟨active, candidates⟩ :=
      pingOldest_frame { bucket with candidates := bucket.candidates ++ [entry] } now
    refine ⟨fun id member => ?_, ?_, Or.inl ?_⟩
    · rw [ids, active, candidates, List.map_append, ← Multiset.coe_add, ← add_assoc]
      exact Multiset.mem_add.mpr (Or.inl member)
    · rw [candidates, List.length_append]
      exact Nat.le_add_right _ _
    · rw [ids, candidates, List.map_append]
      simp
  | dropped fresh full => exact ⟨fun _ member => member, le_rfl, Or.inr full⟩

theorem Covers.mono {before after : Bucket} {id : NodeID} (covers : before.Covers id)
    (kept : before.ids ⊆ after.ids)
    (grown : before.candidates.length ≤ after.candidates.length) : after.Covers id :=
  covers.imp (fun member => kept member) fun full => full.trans grown

end Bucket

namespace RoutingTable

variable {table : RoutingTable}

/-- The bucket of the node lists it or is full. -/
def Covers (table : RoutingTable) (id : NodeID) : Prop :=
  (table.buckets (table.bucket id)).Covers id

theorem knows_iff {id : NodeID} : table.Knows id ↔ ∃ index, id ∈ (table.buckets index).ids := by
  constructor
  · rintro ⟨entry, ⟨index, held⟩, rfl⟩
    refine ⟨index, Multiset.mem_add.mpr (held.imp ?_ ?_)⟩
    · exact fun member => List.mem_map_of_mem member
    · exact fun member => List.mem_map_of_mem member
  · rintro ⟨index, member⟩
    rcases Multiset.mem_add.mp member with active | waiting
    · obtain ⟨entry, held, same⟩ := List.mem_map.mp active
      exact ⟨entry, ⟨index, Or.inl held⟩, same⟩
    · obtain ⟨entry, held, same⟩ := List.mem_map.mp waiting
      exact ⟨entry, ⟨index, Or.inr held⟩, same⟩

/-- A table that covers a node lists one. -/
theorem Covers.knows {id : NodeID} (covers : table.Covers id) : ∃ known, table.Knows known := by
  rcases covers with member | full
  · exact ⟨id, knows_iff.mpr ⟨_, member⟩⟩
  · have some : 0 < Routing.k := by decide
    obtain ⟨entry, held⟩ := List.exists_mem_of_length_pos (some.trans_le full)
    exact ⟨entry.id, entry, ⟨_, Or.inr held⟩, rfl⟩

/-- What is in a table later: all that was there before, in buckets that are no emptier. -/
structure GrowsTo (before after : RoutingTable) : Prop where
  localId : after.localId = before.localId
  ids : ∀ index, (before.buckets index).ids ⊆ (after.buckets index).ids
  candidates : ∀ index, (before.buckets index).candidates.length ≤
    (after.buckets index).candidates.length

theorem GrowsTo.refl (table : RoutingTable) : table.GrowsTo table :=
  ⟨rfl, fun _ _ member => member, fun _ => le_rfl⟩

theorem GrowsTo.trans {first second third : RoutingTable} (one : first.GrowsTo second)
    (other : second.GrowsTo third) : first.GrowsTo third where
  localId := other.localId.trans one.localId
  ids index _ member := other.ids index (one.ids index member)
  candidates index := (one.candidates index).trans (other.candidates index)

theorem GrowsTo.covers {before after : RoutingTable} (grows : before.GrowsTo after) {id : NodeID}
    (covers : before.Covers id) : after.Covers id := by
  have same : after.bucket id = before.bucket id := by
    obtain ⟨localId, buckets⟩ := after
    obtain rfl : localId = before.localId := grows.localId
    rfl
  rw [Covers, same]
  exact Bucket.Covers.mono covers (grows.ids _) (grows.candidates _)

/-- Entering a node loses none. -/
theorem growsTo_addNode (table : RoutingTable) (node : NodeID) (addr : SocketAddr)
    (now : Instant) : table.GrowsTo (table.addNode node addr now).2 := by
  rw [addNode]
  split
  · exact .refl table
  · have grows := ((table.buckets (table.bucket node)).addNode_enters node addr now).grows
    set entered := ((table.buckets (table.bucket node)).addNode node addr now).2
    have each (index : Fin 256) : (table.buckets index).ids ⊆
        (Function.update table.buckets (table.bucket node) entered index).ids ∧
        (table.buckets index).candidates.length ≤
          (Function.update table.buckets (table.bucket node) entered index).candidates.length := by
      by_cases here : index = table.bucket node
      · subst here
        rw [Function.update_self]
        exact ⟨grows.1, grows.2.1⟩
      · rw [Function.update_of_ne here]
        exact ⟨fun _ member => member, le_rfl⟩
    exact ⟨rfl, fun index => (each index).1, fun index => (each index).2⟩

/-- A node that is not the own one is covered once it was entered. -/
theorem covers_addNode {node : NodeID} (other : node ≠ table.localId) (addr : SocketAddr)
    (now : Instant) : (table.addNode node addr now).2.Covers node := by
  have grows := ((table.buckets (table.bucket node)).addNode_enters node addr now).grows
  rw [addNode, if_neg other]
  show (Function.update table.buckets (table.bucket node) _ (table.bucket node)).Covers node
  rw [Function.update_self]
  exact grows.2.2

theorem addNode_own {node : NodeID} (own : node = table.localId) (addr : SocketAddr)
    (now : Instant) : (table.addNode node addr now).2 = table := by
  rw [addNode, if_pos own]

theorem growsTo_learn (table : RoutingTable) (listed : NodeList) (clock : Nat → Instant) :
    table.GrowsTo (table.learn listed clock) := by
  induction listed generalizing table clock with
  | nil => exact .refl table
  | cons node rest inductionHypothesis =>
    exact (table.growsTo_addNode node.1 node.2 (clock 0)).trans (inductionHypothesis _ _)

theorem covers_learn {listed : NodeList} {id : NodeID} (member : id ∈ listed.map Prod.fst)
    (other : id ≠ table.localId) (clock : Nat → Instant) :
    (table.learn listed clock).Covers id := by
  induction listed generalizing table clock with
  | nil => cases member
  | cons node rest inductionHypothesis =>
    have entered := table.growsTo_addNode node.1 node.2 (clock 0)
    rcases List.mem_cons.mp member with rfl | later
    · exact (growsTo_learn _ rest _).covers (covers_addNode other node.2 (clock 0))
    · exact inductionHypothesis later (entered.localId ▸ other) _

theorem learn_own {listed : NodeList} (own : ∀ id ∈ listed.map Prod.fst, id = table.localId)
    (clock : Nat → Instant) : table.learn listed clock = table := by
  induction listed generalizing clock with
  | nil => rfl
  | cons node rest inductionHypothesis =>
    rw [List.map_cons] at own
    rw [learn, addNode_own (own node.1 List.mem_cons_self)]
    exact inductionHypothesis (fun id member => own id (List.mem_cons_of_mem _ member)) _

end RoutingTable

namespace Lookup

/-- A lookup goes on with what it has pending. -/
theorem pending_step {lookup : Lookup} (held : lookup.client.pending.isSome = true)
    (answer : Answer) : (lookup.step answer).client.pending.isSome = true := by
  obtain ⟨pending, held⟩ := Option.isSome_iff_exists.mp held
  cases going : lookup.next with
  | none =>
    rw [step_ended going, held]
    rfl
  | some query =>
    cases carries : answer.carried with
    | some value =>
      rw [(step_carried going held carries).2]
      rfl
    | none =>
      rw [(step_uncarried going held carries).2]
      rfl

theorem told_ended {lookup : Lookup} (ended : lookup.next = none) (answers : List Answer) :
    lookup.told answers = [] := by
  induction answers with
  | nil => rfl
  | cons answer rest inductionHypothesis =>
    rw [told, step_ended ended, inductionHypothesis, ended]
    rfl

/-- What an answer does to the routing table: it loses none, covers all that are named but the own
node, and is as it was if there is no other. -/
theorem routing_step {lookup : Lookup} (held : lookup.client.pending.isSome = true)
    {query : DhtOperation × SocketAddr} (going : lookup.next = some query) (answer : Answer) :
    lookup.routing.GrowsTo (lookup.step answer).routing ∧
      (∀ id ∈ answer.named, id ≠ lookup.routing.localId → (lookup.step answer).routing.Covers id) ∧
        (¬ answer.NamesOther lookup.routing.localId →
          (lookup.step answer).routing = lookup.routing) := by
  cases answer with
  | timeout =>
    rw [routing_timeout]
    exact ⟨.refl _, fun _ none => absurd none List.not_mem_nil, fun _ => rfl⟩
  | response operation sender now clock =>
    rw [routing_response going, if_pos held]
    have entered := lookup.routing.growsTo_addNode operation.senderId sender now
    have listed := (lookup.routing.addNode operation.senderId sender now).2.growsTo_learn
      operation.listed clock
    refine ⟨entered.trans listed, fun id member other => ?_, fun lonely => ?_⟩
    · rcases List.mem_cons.mp member with rfl | told
      · exact listed.covers (RoutingTable.covers_addNode other sender now)
      · exact RoutingTable.covers_learn told (entered.localId ▸ other) clock
    · have own (id : NodeID) (member : id ∈ Answer.named (.response operation sender now clock)) :
          id = lookup.routing.localId :=
        of_not_not fun other => lonely ⟨id, member, other⟩
      rw [RoutingTable.addNode_own (own _ List.mem_cons_self)]
      exact RoutingTable.learn_own (fun id member => own id (List.mem_cons_of_mem _ member)) clock

/-- The same of all the answers that a lookup takes. -/
theorem routing_run {lookup : Lookup} (held : lookup.client.pending.isSome = true)
    (answers : List Answer) :
    lookup.routing.GrowsTo (lookup.run answers).routing ∧
      (∀ id ∈ lookup.told answers, id ≠ lookup.routing.localId →
        (lookup.run answers).routing.Covers id) ∧
      ((∀ id ∈ lookup.told answers, id = lookup.routing.localId) →
        (lookup.run answers).routing = lookup.routing) := by
  induction answers generalizing lookup with
  | nil => exact ⟨.refl _, fun _ none => absurd none List.not_mem_nil, fun _ => rfl⟩
  | cons answer rest inductionHypothesis =>
    cases going : lookup.next with
    | none =>
      rw [told_ended going, run, List.foldl_cons, step_ended going]
      have same := inductionHypothesis held
      rw [told_ended going] at same
      exact same
    | some query =>
      obtain ⟨grows, covers, own⟩ := routing_step held going answer
      obtain ⟨further, later, still⟩ := inductionHypothesis (pending_step held answer)
      rw [told, going, Option.isSome_some, if_pos rfl]
      refine ⟨grows.trans further, fun id member other => ?_, fun lonely => ?_⟩
      · rcases List.mem_append.mp member with here | after
        · exact further.covers (covers id here other)
        · exact later id after (grows.localId ▸ other)
      · have same := own fun ⟨id, member, other⟩ =>
          other (lonely id (List.mem_append_left _ member))
        refine (still fun id member => ?_).trans same
        rw [same]
        exact lonely id (List.mem_append_right _ member)

end Lookup
/-! ### The run of a join -/

/-- Where a join goes on to when an answer names nobody but the joining node: to the address under
which the answer lists it first. It goes nowhere after a value, or if the node has the identifier
of the seeds. -/
def Answer.detour (own : NodeID) (answer : Answer) : Option SocketAddr :=
  if own = { id := Octets.zero 32 } ∨ answer.carried.isSome then none
  else answer.listed.head?.map Prod.snd

/-- The condition on the answers under which a join does not miss a seed. -/
def SeedsReached (own : NodeID) (seeds : List SocketAddr) : List Answer → Prop
  | [] => True
  | first :: rest =>
    first.NamesOther own ∨
      match first.detour own with
      | none => ∀ seed ∈ seeds, some seed = seeds.head?
      | some addr =>
        match rest with
        | [] => True
        | second :: _ =>
          second.NamesOther own ∨ ∀ seed ∈ seeds, some seed = seeds.head? ∨ seed = addr

namespace QueryTrace

/-- A client joins through some seeds, with some answers. -/
def join (client : DhtClient) (routing : RoutingTable) (seeds : List SocketAddr)
    (answers : List Answer) : QueryTrace :=
  (start (.start client.id none (seeds.map fun seed => ({ id := Octets.zero 32 }, seed)))
    (.join client routing seeds)).run answers

/-- Joining does not end without having learned something, while some seed was not asked. -/
def TriesEverySeed (trace : QueryTrace) (seeds : List SocketAddr) (learned : Prop) : Prop :=
  trace.lookup.next = none → learned ∨ ∀ seed ∈ seeds, seed ∈ trace.asked.map Prod.snd

/-- A node other than the joining one was named to it, and the routing table lists that node, or has
no room for more where the node belongs. -/
def Learned (client : DhtClient) (routing : RoutingTable) (seeds : List SocketAddr)
    (answers : List Answer) : Prop :=
  ∃ id ∈ (Lookup.join client routing seeds).told answers,
    id ≠ client.id ∧ (join client routing seeds answers).lookup.routing.Covers id

/-- What has ended stays as it is. -/
theorem run_ended {trace : QueryTrace} (ended : trace.lookup.next = none) (answers : List Answer) :
    trace.run answers = trace := by
  induction answers with
  | nil => rfl
  | cons answer rest inductionHypothesis =>
    have same : trace.step answer = trace := by
      rw [step, picks, ended, Lookup.step_ended ended answer]
      simp
    rw [run, List.foldl_cons, same]
    exact inductionHypothesis

/-- A join that holds a pending lookup with some query under way. -/
structure Waits (trace : QueryTrace) (pending : PendingLookup) : Prop where
  held : trace.lookup.client.pending = some pending
  going : trace.lookup.next ≠ none

/-- When an answer brings a value, or leaves no node that was not asked, the lookup is over. -/
theorem Waits.ends {trace : QueryTrace} {pending : PendingLookup} (waits : trace.Waits pending)
    {answer : Answer} (exhausted : answer.carried = none →
      ∀ id ∈ (pending.answered answer).ids, id ∈ pending.queried) (rest : List Answer) :
    (trace.run (answer :: rest)).lookup.next = none ∧
      (trace.run (answer :: rest)).asked = trace.asked := by
  obtain ⟨query, going⟩ := Option.ne_none_iff_exists'.mp waits.going
  suffices finished : (trace.step answer).lookup.next = none ∧
      (trace.step answer).asked = trace.asked by
    rw [run, List.foldl_cons, show rest.foldl step _ = _ from run_ended finished.1 rest]
    exact finished
  cases carries : answer.carried with
  | some value =>
    refine ⟨(Lookup.step_carried going waits.held carries).1, ?_⟩
    rw [step, picks, going, carries]
    rfl
  | none =>
    have nothing : (pending.answered answer).nextQuery.1 = none := by
      by_contra left
      obtain ⟨node, picked⟩ := Option.ne_none_iff_exists'.mp left
      obtain ⟨member, unasked, _⟩ := PendingLookup.nextQuery_some picked
      rw [PendingLookup.queried_answered] at unasked
      exact unasked (exhausted carries node.1 (List.mem_map_of_mem member))
    refine ⟨?_, ?_⟩
    · refine (Lookup.step_uncarried going waits.held carries).1.trans ?_
      rw [nothing]
      rfl
    · rw [step, picks, going, carries, waits.held]
      show (pending.answered answer).nextQuery.1.toList ++ trace.asked = _
      rw [nothing]
      rfl

/-- Otherwise the node that is picked is asked next. -/
theorem Waits.asks {trace : QueryTrace} {pending : PendingLookup} (waits : trace.Waits pending)
    {answer : Answer} (carries : answer.carried = none) {node : NodeID × SocketAddr}
    (picked : (pending.answered answer).nextQuery.1 = some node) :
    (trace.step answer).Waits (pending.answered answer).nextQuery.2 ∧
      (trace.step answer).asked = node :: trace.asked := by
  obtain ⟨query, going⟩ := Option.ne_none_iff_exists'.mp waits.going
  obtain ⟨next, after⟩ := Lookup.step_uncarried going waits.held carries
  refine ⟨⟨after, ?_⟩, ?_⟩
  · show (trace.lookup.step answer).next ≠ none
    rw [next, picked]
    exact Option.some_ne_none _
  · rw [step, picks, going, carries, waits.held]
    show (pending.answered answer).nextQuery.1.toList ++ trace.asked = _
    rw [picked]
    rfl

end QueryTrace

namespace PendingLookup

/-- The first node that was not asked is picked when none of the others is nearer. -/
theorem nextQuery_first {pending : PendingLookup} {node : NodeID × SocketAddr} (rest : NodeList)
    (unasked : pending.shortlist.filter (fun node => node.1 ∉ pending.queried) = node :: rest)
    (nearest : ∀ other ∈ rest,
      pending.target.remoteness node.1 ≤ pending.target.remoteness other.1) :
    pending.nextQuery.1 = some node := by
  have first : (node :: rest).argmin (fun node => pending.target.remoteness node.1) =
      some node := by
    rw [List.argmin_cons]
    cases later : rest.argmin fun node => pending.target.remoteness node.1 with
    | none => rfl
    | some found =>
      have member := List.argmin_mem (Option.mem_def.mpr later)
      exact if_neg (nearest found member).not_gt
  rw [nextQuery]
  dsimp only
  rw [unasked, first]

end PendingLookup

namespace QueryTrace

/-! ### The first answers -/

/-- The seeds, as a join lists them. -/
def seedNodes (seeds : List SocketAddr) : NodeList :=
  seeds.map fun seed => ({ id := Octets.zero 32 }, seed)

theorem id_of_mem_seedNodes {seeds : List SocketAddr} {node : NodeID × SocketAddr}
    (member : node ∈ seedNodes seeds) : node.1 = { id := Octets.zero 32 } := by
  obtain ⟨_, _, rfl⟩ := List.mem_map.mp member
  rfl

/-- A join asks the first of its seeds first, and marks the identifier of all. -/
theorem join_nil (client : DhtClient) (routing : RoutingTable) (seed : SocketAddr)
    (others : List SocketAddr) :
    ∃ pending, (join client routing (seed :: others) []).Waits pending ∧
      pending.target = client.id ∧ pending.shortlist = seedNodes (seed :: others) ∧
        pending.queried = {{ id := Octets.zero 32 }} ∧
          (join client routing (seed :: others) []).asked = [({ id := Octets.zero 32 }, seed)] := by
  let pending : PendingLookup := .start client.id none (seedNodes (seed :: others))
  have picked : pending.nextQuery.1 = some ({ id := Octets.zero 32 }, seed) := by
    refine PendingLookup.nextQuery_first (seedNodes others) ?_ fun other member => ?_
    · exact List.filter_eq_self.mpr fun _ _ => decide_eq_true (Finset.notMem_empty _)
    · rw [id_of_mem_seedNodes member]
  obtain ⟨next, held, _, _⟩ :=
    (.join (seed :: others) : Lookup.Begins client routing pending _).eq
  refine ⟨pending.nextQuery.2, ⟨held, fun ended => ?_⟩, pending.target_nextQuery,
    pending.shortlist_nextQuery, (PendingLookup.nextQuery_some picked).2.2, ?_⟩
  · have nobody := Option.map_eq_none_iff.mp (next.symm.trans ended)
    exact Option.some_ne_none _ (picked.symm.trans nobody)
  · show pending.nextQuery.1.toList = _
    rw [picked]
    rfl

/-- What an answer that names nobody but the joining node leaves to ask. -/
theorem ids_answered_own {pending : PendingLookup} {own : NodeID} {answer : Answer}
    (lonely : ¬ answer.NamesOther own) :
    ∀ id ∈ (pending.answered answer).ids, id ∈ pending.ids ∨ id = own := by
  intro id member
  refine (List.mem_append.mp (pending.ids_answered_subset answer member)).imp_right fun listed => ?_
  exact of_not_not fun other => lonely ⟨id, Answer.mem_named_of_listed listed, other⟩

/-- An answer that names nobody but the joining node, and sends it nowhere, is the end. -/
theorem ends_of_detour_none {trace : QueryTrace} {pending : PendingLookup}
    (waits : trace.Waits pending) {own : NodeID}
    (asked : ∀ id ∈ pending.ids, id ∈ pending.queried)
    (zero : { id := Octets.zero 32 } ∈ pending.queried) {answer : Answer}
    (lonely : ¬ answer.NamesOther own) (nowhere : answer.detour own = none) (rest : List Answer) :
    (trace.run (answer :: rest)).lookup.next = none ∧
      (trace.run (answer :: rest)).asked = trace.asked := by
  refine waits.ends (fun carries id member => ?_) rest
  rw [Answer.detour, carries] at nowhere
  rcases List.mem_append.mp (pending.ids_answered_subset answer member) with before | listed
  · exact asked id before
  · by_cases same : own = { id := Octets.zero 32 }
    · rcases ids_answered_own lonely id member with before | rfl
      · exact asked id before
      · exact same ▸ zero
    · rw [if_neg (by simpa using same), Option.map_eq_none_iff, List.head?_eq_none_iff] at nowhere
      rw [nowhere] at listed
      cases listed

/-- What an answer is that names nobody but the joining node, and sends it somewhere. -/
theorem listed_of_detour {own : NodeID} {answer : Answer} {addr : SocketAddr}
    (lonely : ¬ answer.NamesOther own) (goes : answer.detour own = some addr) :
    own ≠ { id := Octets.zero 32 } ∧ answer.carried = none ∧
      ∃ rest, answer.listed = (own, addr) :: rest := by
  rw [Answer.detour] at goes
  split at goes
  · cases goes
  rename_i different
  rw [not_or, Bool.not_eq_true, Option.isSome_eq_false_iff, Option.isNone_iff_eq_none] at different
  obtain ⟨⟨first, addr⟩, head, rfl⟩ := Option.map_eq_some_iff.mp goes
  have listed : answer.listed = (first, addr) :: answer.listed.tail :=
    List.eq_cons_of_mem_head? head
  have named : first ∈ answer.named :=
    Answer.mem_named_of_listed (List.mem_map_of_mem
      (listed ▸ List.mem_cons_self : (first, addr) ∈ answer.listed))
  obtain rfl : first = own := of_not_not fun other => lonely ⟨first, named, other⟩
  exact ⟨different.1, different.2, _, listed⟩

/-- A node that is listed to itself is nearest to itself, and is picked when it was not asked. -/
theorem nextQuery_answered_own {pending : PendingLookup} {seeds : List SocketAddr}
    (shortlist : pending.shortlist = seedNodes seeds)
    (different : pending.target ≠ { id := Octets.zero 32 })
    (unasked : pending.target ∉ pending.queried) {answer : Answer}
    (carries : answer.carried = none) {addr : SocketAddr} {listed : NodeList}
    (lists : answer.listed = (pending.target, addr) :: listed) :
    (pending.answered answer).nextQuery.1 = some (pending.target, addr) := by
  cases answer with
  | timeout => cases lists
  | response operation sender now clock =>
    have carried : operation.carried = none := carries
    have offers : operation.listed = (pending.target, addr) :: listed := lists
    obtain ⟨rest, sorted⟩ : ∃ rest, Nearest.sortByKey (fun node => pending.target.remoteness node.1)
        (seedNodes seeds ++ (pending.target, addr) :: listed) = (pending.target, addr) :: rest := by
      refine Nearest.sortByKey_append_cons (fun seed member => ?_) fun other _ => ?_
      · rw [NodeID.remoteness_self, id_of_mem_seedNodes member, Nat.pos_iff_ne_zero]
        intro zero
        refine different (pending.target.remoteness_injective ?_)
        rw [zero, NodeID.remoteness_self]
      · rw [NodeID.remoteness_self]
        exact Nat.zero_le _
    have settled : (pending.told operation.listed).settle.shortlist =
        (pending.target, addr) :: rest.take 19 := by
      rw [PendingLookup.settle, PendingLookup.told]
      dsimp only
      rw [shortlist, offers, sorted]
      rfl
    rw [PendingLookup.answered, carried]
    refine PendingLookup.nextQuery_first
      ((rest.take 19).filter fun node => node.1 ∉ pending.queried) ?_ fun other _ => ?_
    · rw [settled]
      exact List.filter_cons_of_pos (decide_eq_true unasked)
    · show pending.target.remoteness pending.target ≤ _
      rw [NodeID.remoteness_self]
      exact Nat.zero_le _

/-- An answer that names nobody but the joining node, and lists it, is followed by a query to the
first address that it lists. -/
theorem asks_of_detour {trace : QueryTrace} {pending : PendingLookup} (waits : trace.Waits pending)
    {seeds : List SocketAddr} (shortlist : pending.shortlist = seedNodes seeds)
    (queried : pending.queried = {{ id := Octets.zero 32 }}) {answer : Answer}
    (lonely : ¬ answer.NamesOther pending.target) {addr : SocketAddr}
    (goes : answer.detour pending.target = some addr) :
    ∃ next, (trace.step answer).Waits next ∧
      (∀ id ∈ next.ids, id ∈ next.queried) ∧ pending.target ∈ next.queried ∧
        (trace.step answer).asked = (pending.target, addr) :: trace.asked := by
  obtain ⟨different, carries, listed, lists⟩ := listed_of_detour lonely goes
  have unasked : pending.target ∉ pending.queried := by
    rw [queried]
    exact fun member => different (Finset.mem_singleton.mp member)
  have picked := nextQuery_answered_own shortlist different unasked carries lists
  obtain ⟨after, asked⟩ := waits.asks carries picked
  have marked := (PendingLookup.nextQuery_some picked).2.2
  rw [PendingLookup.queried_answered, queried] at marked
  refine ⟨_, after, fun id member => ?_, ?_, asked⟩
  · rw [marked]
    rw [PendingLookup.ids_nextQuery] at member
    rcases ids_answered_own lonely id member with before | rfl
    · rw [PendingLookup.ids, shortlist] at before
      obtain ⟨node, among, rfl⟩ := List.mem_map.mp before
      rw [id_of_mem_seedNodes among]
      exact Finset.mem_insert_of_mem (Finset.mem_singleton_self _)
    · exact Finset.mem_insert_self _ _
  · rw [marked]
    exact Finset.mem_insert_self _ _

/-- An answer that names nobody but the joining node is the end, once this was asked as well. -/
theorem ends_of_asked {trace : QueryTrace} {pending : PendingLookup} (waits : trace.Waits pending)
    {own : NodeID} (asked : ∀ id ∈ pending.ids, id ∈ pending.queried)
    (marked : own ∈ pending.queried) {answer : Answer} (lonely : ¬ answer.NamesOther own)
    (rest : List Answer) :
    (trace.run (answer :: rest)).lookup.next = none ∧
      (trace.run (answer :: rest)).asked = trace.asked := by
  refine waits.ends (fun _ id member => ?_) rest
  rcases ids_answered_own lonely id member with before | rfl
  · exact asked id before
  · exact marked

/-- What is asked once a join has ended and has been told of nobody. -/
theorem triesEverySeed_of_ended {trace : QueryTrace} {seeds : List SocketAddr} (learned : Prop)
    (ended : trace.lookup.next = none) (nothing : ¬ learned) :
    trace.TriesEverySeed seeds learned ↔ ∀ seed ∈ seeds, seed ∈ trace.asked.map Prod.snd :=
  ⟨fun tries => (tries ended).resolve_left nothing, fun all _ => Or.inr all⟩

theorem told_of_waits {trace : QueryTrace} {pending : PendingLookup} (waits : trace.Waits pending)
    (answer : Answer) (rest : List Answer) : trace.lookup.told (answer :: rest) =
      answer.named ++ (trace.step answer).lookup.told rest := by
  rw [Lookup.told, if_pos (Option.ne_none_iff_isSome.mp waits.going)]
  rfl

theorem seedsReached_nil (own : NodeID) (answers : List Answer) : SeedsReached own [] answers := by
  rcases answers with _ | ⟨first, _ | ⟨second, rest⟩⟩
  · exact trivial
  · rw [SeedsReached]
    cases first.detour own with
    | none => exact Or.inr fun _ none => absurd none List.not_mem_nil
    | some addr => exact Or.inr trivial
  · rw [SeedsReached]
    cases first.detour own with
    | none => exact Or.inr fun _ none => absurd none List.not_mem_nil
    | some addr => exact Or.inr (Or.inr fun _ none => absurd none List.not_mem_nil)

/-- A join that was sent to itself has asked there as well, when the second answer names nobody
else. -/
theorem tries_second_iff {trace : QueryTrace} {own : NodeID} {seed addr : SocketAddr}
    {seeds : List SocketAddr} {first second : Answer} {rest : List Answer}
    (asked : (trace.step first).asked = [(own, addr), ({ id := Octets.zero 32 }, seed)])
    {next : PendingLookup} (waits : (trace.step first).Waits next)
    (marked : ∀ id ∈ next.ids, id ∈ next.queried) (self : own ∈ next.queried)
    (lonely : ¬ first.NamesOther own) :
    (trace.run (first :: second :: rest)).TriesEverySeed seeds
        (∃ id ∈ first.named ++ (trace.step first).lookup.told (second :: rest), id ≠ own) ↔
      second.NamesOther own ∨ ∀ other ∈ seeds, other = seed ∨ other = addr := by
  rw [told_of_waits waits]
  by_cases named : second.NamesOther own
  · obtain ⟨id, member, other⟩ := named
    refine iff_of_true (fun _ => Or.inl ⟨id, ?_, other⟩) (Or.inl ⟨id, member, other⟩)
    exact List.mem_append_right _ (List.mem_append_left _ member)
  have ends := ends_of_asked waits marked self named
  have nothing : ¬ ∃ id ∈ first.named ++ second.named, id ≠ own := by
    rintro ⟨id, member, other⟩
    rcases List.mem_append.mp member with one | two
    · exact lonely ⟨id, one, other⟩
    · exact named ⟨id, two, other⟩
  have quiet : ((trace.step first).step second).lookup.told rest = [] :=
    Lookup.told_ended (ends []).1 rest
  have ended : (trace.run (first :: second :: rest)).lookup.next = none := (ends rest).1
  have asks : (trace.run (first :: second :: rest)).asked = _ := (ends rest).2.trans asked
  rw [quiet, List.append_nil, or_iff_right named, triesEverySeed_of_ended _ ended nothing, asks]
  simp [or_comm]

/-- A join that is told of nobody but itself has asked the first seed, and then itself if it was
sent there. -/
theorem tries_iff (client : DhtClient) (routing : RoutingTable) (seeds : List SocketAddr)
    (answers : List Answer) :
    (join client routing seeds answers).TriesEverySeed seeds
        (∃ id ∈ (Lookup.join client routing seeds).told answers, id ≠ client.id) ↔
      SeedsReached client.id seeds answers := by
  cases seeds with
  | nil =>
    refine iff_of_true (fun _ => Or.inr fun _ none => absurd none List.not_mem_nil) ?_
    exact seedsReached_nil client.id answers
  | cons seed others =>
    obtain ⟨pending, waits, target, shortlist, queried, asked⟩ :=
      join_nil client routing seed others
    have begun : (Lookup.join client routing (seed :: others)).told =
      (join client routing (seed :: others) []).lookup.told := rfl
    have run : join client routing (seed :: others) answers =
      (join client routing (seed :: others) []).run answers := rfl
    rw [begun, run]
    generalize join client routing (seed :: others) [] = trace at waits asked
    have marked : ∀ id ∈ pending.ids, id ∈ pending.queried := by
      intro id member
      rw [PendingLookup.ids, shortlist] at member
      obtain ⟨node, among, rfl⟩ := List.mem_map.mp member
      rw [id_of_mem_seedNodes among, queried]
      exact Finset.mem_singleton_self _
    cases answers with
    | nil => exact iff_of_true (fun ended => absurd ended waits.going) trivial
    | cons first rest =>
      rw [told_of_waits waits, SeedsReached]
      by_cases named : first.NamesOther client.id
      · obtain ⟨id, member, other⟩ := named
        refine iff_of_true (fun _ => Or.inl ⟨id, List.mem_append_left _ member, other⟩) (Or.inl ?_)
        exact ⟨id, member, other⟩
      rw [or_iff_right named]
      cases goes : first.detour client.id with
      | none =>
        have ends := ends_of_detour_none waits marked (by rw [queried]; simp) named goes
        have quiet : (trace.step first).lookup.told rest = [] := Lookup.told_ended (ends []).1 rest
        rw [quiet, List.append_nil, triesEverySeed_of_ended (∃ id ∈ first.named, id ≠ client.id)
          (ends rest).1 named, (ends rest).2, asked]
        simp
      | some addr =>
        rw [← target] at goes named
        obtain ⟨next, later, all, own, further⟩ := asks_of_detour waits shortlist queried named goes
        rw [target] at named own further
        rw [asked] at further
        cases rest with
        | nil => exact iff_of_true (fun ended => absurd ended later.going) trivial
        | cons second rest =>
          rw [tries_second_iff further later all own named]
          simp

/-- Whatever other node is named to a join is learned, and a table that has one at the end had one
before, or was told of one. -/
theorem learned_iff (client : DhtClient) {routing : RoutingTable}
    (own : routing.localId = client.id) (seeds : List SocketAddr) (answers : List Answer) :
    (Learned client routing seeds answers ↔
        ∃ id ∈ (Lookup.join client routing seeds).told answers, id ≠ client.id) ∧
      ((∃ id, (join client routing seeds answers).lookup.routing.Knows id) ↔
        (∃ id, routing.Knows id) ∨ Learned client routing seeds answers) := by
  have begins : Lookup.Begins client routing _ (.join client routing seeds) := .join seeds
  have held : (Lookup.join client routing seeds).client.pending.isSome = true := by
    rw [begins.eq.2.1]
    rfl
  have begun : (Lookup.join client routing seeds).routing = routing := by
    rw [Lookup.join]
  obtain ⟨grows, covers, same⟩ := Lookup.routing_run held answers
  rw [begun] at grows covers same
  have ran : (join client routing seeds answers).lookup =
      (Lookup.join client routing seeds).run answers := lookup_run _ answers
  have told : Learned client routing seeds answers ↔
      ∃ id ∈ (Lookup.join client routing seeds).told answers, id ≠ client.id := by
    rw [Learned, ran]
    constructor
    · rintro ⟨id, member, other, _⟩
      exact ⟨id, member, other⟩
    · rintro ⟨id, member, other⟩
      exact ⟨id, member, other, covers id member (own.symm ▸ other)⟩
  refine ⟨told, ?_⟩
  rw [ran]
  constructor
  · rintro ⟨id, knows⟩
    by_cases learned : Learned client routing seeds answers
    · exact Or.inr learned
    · rw [told] at learned
      rw [same fun id member => own ▸ of_not_not fun other => learned ⟨id, member, other⟩] at knows
      exact Or.inl ⟨id, knows⟩
  · rintro (⟨id, knows⟩ | ⟨id, _, _, covered⟩)
    · obtain ⟨index, member⟩ := RoutingTable.knows_iff.mp knows
      exact ⟨id, RoutingTable.knows_iff.mpr ⟨index, grows.ids index member⟩⟩
    · rw [ran] at covered
      exact covered.knows

theorem tries_learned_iff (client : DhtClient) {routing : RoutingTable}
    (own : routing.localId = client.id) (seeds : List SocketAddr) (answers : List Answer) :
    (join client routing seeds answers).TriesEverySeed seeds
        (Learned client routing seeds answers) ↔ SeedsReached client.id seeds answers := by
  rw [← tries_iff client routing]
  exact imp_congr_right fun _ => or_congr_left (learned_iff client own seeds answers).1

theorem tries_knows_iff (client : DhtClient) {routing : RoutingTable}
    (own : routing.localId = client.id) (seeds : List SocketAddr) (answers : List Answer) :
    (join client routing seeds answers).TriesEverySeed seeds
        (∃ id, (join client routing seeds answers).lookup.routing.Knows id) ↔
      (∃ id, routing.Knows id) ∨ SeedsReached client.id seeds answers := by
  rw [← tries_learned_iff client own, TriesEverySeed, (learned_iff client own seeds answers).2]
  constructor
  · intro tries
    refine or_iff_not_imp_left.mpr fun empty ended => ?_
    exact (tries ended).imp_left fun known => known.resolve_left empty
  · rintro (before | tries) ended
    · exact Or.inl (Or.inl before)
    · exact (tries ended).imp_left Or.inr

/-- For every list of seeds and every sequence of answers, a join does not end without having
learned a node while some seed was not asked, exactly if an answer names another node in time, or
the seeds are the addresses that it has asked until then: the first seed, and the first address
under which the first answer lists the joining node itself. The same holds of an end with an empty
routing table, if it was empty before. -/
theorem join_triesEverySeed_iff (pending : Option PendingLookup) (routing : RoutingTable)
    (seeds : List SocketAddr) (answers : List Answer) :
    let client : DhtClient := { id := routing.localId, pending }
    let trace := join client routing seeds answers
    (trace.TriesEverySeed seeds (Learned client routing seeds answers) ↔
        SeedsReached routing.localId seeds answers) ∧
      (trace.TriesEverySeed seeds (∃ id, trace.lookup.routing.Knows id) ↔
        (∃ id, routing.Knows id) ∨ SeedsReached routing.localId seeds answers) := by
  intro client trace
  exact ⟨tries_learned_iff client rfl seeds answers, tries_knows_iff client rfl seeds answers⟩

/-- Of two seeds, the second is not asked when the first does not answer, or answers in the name of
the joining node and lists nobody. The table is empty at the end. -/
theorem second_seed_unasked :
    let own : NodeID := LookupTrace.sampleNode 5
    let seeds : List SocketAddr := [.v4 (Octets.zero 4) 9000, .v4 (Octets.zero 4) 9001]
    ∀ answer ∈ ([.timeout, .response (.nodes own []) (.v4 (Octets.zero 4) 9000) 0 fun _ => 0] :
        List Answer),
      let trace := join (.new own) (.new own) seeds [answer]
      ¬ trace.TriesEverySeed seeds (Learned (.new own) (.new own) seeds [answer]) ∧
        ¬ trace.TriesEverySeed seeds (∃ id, trace.lookup.routing.Knows id) := by
  intro own seeds answer member trace
  have missed : ¬ SeedsReached own seeds [answer] := by
    rcases List.mem_pair.mp member with rfl | rfl
    · rintro (⟨_, none, _⟩ | all)
      · cases none
      · exact absurd (all _ (List.mem_cons_of_mem _ List.mem_cons_self)) (by decide)
    · rintro (⟨id, named, other⟩ | all)
      · exact other (List.mem_singleton.mp named)
      · exact absurd (all _ (List.mem_cons_of_mem _ List.mem_cons_self)) (by decide)
  have empty : ¬ ∃ id, (RoutingTable.new own).Knows id := by
    rintro ⟨_, _, ⟨_, none | none⟩, _⟩ <;> cases none
  refine ⟨fun tries => missed ?_, fun tries => ?_⟩
  · exact (tries_learned_iff (.new own) rfl seeds [answer]).mp tries
  · exact ((tries_knows_iff (.new own) rfl seeds [answer]).mp tries).elim empty missed

end QueryTrace

end Insub
