/-
This file proves how a lookup ends. A trace of it keeps the nodes that were asked. No node is
asked twice, since a node is marked when it is picked, and only unmarked ones are; so there
are at most as many queries as there are nodes that the lookup can be told of. It ends without
a value only when every node of its shortlist has been asked.
-/

import Mathlib
import Insub.Dht.Shortlist

namespace Insub

open Rust

/-! ### The node that is picked -/

namespace PendingLookup

/-- The node that is picked is in the shortlist, was not asked yet, and is marked. -/
theorem nextQuery_some {pending : PendingLookup} {node : NodeID × SocketAddr}
    (picked : pending.nextQuery.1 = some node) :
    node ∈ pending.shortlist ∧ node.1 ∉ pending.queried ∧
      pending.nextQuery.2.queried = insert node.1 pending.queried := by
  rw [nextQuery] at picked ⊢
  dsimp only at picked ⊢
  cases nearest : (pending.shortlist.filter fun node => node.1 ∉ pending.queried).argmin
      fun node => pending.target.remoteness node.1 with
  | none =>
    rw [nearest] at picked
    cases picked
  | some found =>
    rw [nearest] at picked
    obtain rfl : found = node := Option.some.inj picked
    obtain ⟨member, unasked⟩ := List.mem_filter.mp (List.argmin_mem (Option.mem_def.mpr nearest))
    exact ⟨member, of_decide_eq_true unasked, rfl⟩

/-- None is picked when all have been asked. -/
theorem nextQuery_none {pending : PendingLookup} (nothing : pending.nextQuery.1 = none) :
    pending.nextQuery.2 = pending ∧ ∀ node ∈ pending.shortlist, node.1 ∈ pending.queried := by
  rw [nextQuery] at nothing ⊢
  dsimp only at nothing ⊢
  cases nearest : (pending.shortlist.filter fun node => node.1 ∉ pending.queried).argmin
      fun node => pending.target.remoteness node.1 with
  | some found =>
    rw [nearest] at nothing
    cases nothing
  | none =>
    refine ⟨rfl, fun node member => ?_⟩
    have unasked := List.filter_eq_nil_iff.mp (List.argmin_eq_none.mp nearest) node member
    exact not_not.mp fun absent => unasked (decide_eq_true absent)

theorem ids_nextQuery (pending : PendingLookup) : pending.nextQuery.2.ids = pending.ids := by
  rw [ids, shortlist_nextQuery, ids]

theorem target_answered (pending : PendingLookup) (answer : Answer) :
    (pending.answered answer).target = pending.target := by
  cases answer with
  | timeout => rfl
  | response operation sender now clock =>
    rw [answered]
    cases operation.carried <;> rfl

theorem queried_answered (pending : PendingLookup) (answer : Answer) :
    (pending.answered answer).queried = pending.queried := by
  cases answer with
  | timeout => rfl
  | response operation sender now clock =>
    rw [answered]
    cases operation.carried <;> rfl

/-- The shortlist has no nodes but those it had and those of the answer. -/
theorem ids_answered_subset (pending : PendingLookup) (answer : Answer) :
    (pending.answered answer).ids ⊆ pending.ids ++ answer.listed.map Prod.fst := by
  cases answer with
  | timeout => exact List.subset_append_left _ _
  | response operation sender now clock =>
    rw [answered, Answer.listed]
    cases operation.carried with
    | some value =>
      show (pending.told operation.listed).ids ⊆ _
      rw [ids_told]
      exact List.Subset.refl _
    | none =>
      dsimp only
      rw [ids_settle, ids_told]
      intro id member
      exact (Nearest.perm_sortByKey _ _).mem_iff.mp (List.mem_of_mem_take member)

/-- A response without a value leaves the shortlist sorted. -/
theorem sorted_settle (pending : PendingLookup) : pending.settle.ids.Pairwise
    (pending.target.remoteness · ≤ pending.target.remoteness ·) := by
  rw [ids_settle]
  exact (Nearest.pairwise_sortByKey _ _).sublist (List.take_sublist _ _)

end PendingLookup

namespace Lookup

/-- The lookups of a client, as they begin. -/
inductive Begins (client : DhtClient) (routing : RoutingTable) : PendingLookup → Lookup → Prop
  | join (seeds : List SocketAddr) : Begins client routing
      (.start client.id none (seeds.map fun seed => ({ id := Octets.zero 32 }, seed)))
      (join client routing seeds)
  | lookupNode (target : NodeID) : Begins client routing
      (.start target none (routing.closestNodes target Routing.k))
      (lookupNode client routing target)
  | findValue (key : Key) : Begins client routing
      (.start { id := key } (some key) (routing.closestNodes { id := key } Routing.k))
      (findValue client routing key)

/-- They all begin with the first query. -/
theorem Begins.eq {client : DhtClient} {routing : RoutingTable} {pending : PendingLookup}
    {lookup : Lookup} (begins : Begins client routing pending lookup) :
    lookup.next = (pending.nextQuery.1.map fun node =>
        (client.query pending.nextQuery.2, node.2)) ∧
      lookup.client.pending = some pending.nextQuery.2 ∧ pending.queried = ∅ ∧
        pending.foundValue = none := by
  cases begins with
  | join seeds =>
    rw [Lookup.join, DhtClient.startJoin, advance_eq]
    exact ⟨rfl, rfl, rfl, rfl⟩
  | lookupNode target =>
    rw [Lookup.lookupNode, DhtClient.startLookupNode, advance_eq]
    exact ⟨rfl, rfl, rfl, rfl⟩
  | findValue key =>
    rw [Lookup.findValue, DhtClient.startFindValue, advance_eq]
    exact ⟨rfl, rfl, rfl, rfl⟩

end Lookup

/-! ### The trace of a lookup -/

def Answer.isResponse : Answer → Bool
  | .response .. => true
  | .timeout => false

/-- A lookup, with the nodes it has asked, the latest first, and whether it has heard of any. -/
structure QueryTrace where
  lookup : Lookup
  asked : NodeList
  heard : Bool

namespace QueryTrace

def start (pending : PendingLookup) (lookup : Lookup) : QueryTrace where
  lookup := lookup
  asked := pending.nextQuery.1.toList
  heard := false

/-- The node that is asked once a query is answered. -/
def picks (lookup : Lookup) (answer : Answer) : Option (NodeID × SocketAddr) :=
  match lookup.next, answer.carried with
  | some _, none =>
    lookup.client.pending.bind fun pending => (pending.answered answer).nextQuery.1
  | _, _ => none

def step (trace : QueryTrace) (answer : Answer) : QueryTrace where
  lookup := trace.lookup.step answer
  asked := (picks trace.lookup answer).toList ++ trace.asked
  heard := trace.heard || (trace.lookup.next.isSome && answer.isResponse)

def run (trace : QueryTrace) (answers : List Answer) : QueryTrace := answers.foldl step trace

theorem lookup_run (trace : QueryTrace) (answers : List Answer) :
    (trace.run answers).lookup = trace.lookup.run answers := by
  induction answers generalizing trace with
  | nil => rfl
  | cons answer rest inductionHypothesis => exact inductionHypothesis (trace.step answer)

/-- The identifiers of the nodes that were asked. -/
def askedIds (trace : QueryTrace) : List NodeID := trace.asked.map Prod.fst

/-- What holds of a lookup for a target after some answers that list nodes of a set. -/
structure Tidy (target : NodeID) (nodes : Finset NodeID) (taken : Nat) (trace : QueryTrace)
    (pending : PendingLookup) : Prop where
  held : trace.lookup.client.pending = some pending
  aims : pending.target = target
  queried : pending.queried = trace.askedIds.toFinset
  distinct : trace.askedIds.Nodup
  within : ∀ id ∈ pending.ids, id ∈ nodes
  asks : ∀ id ∈ trace.askedIds, id ∈ nodes
  counted : trace.lookup.next ≠ none → trace.asked.length = taken + 1
  exhausted : trace.lookup.next = none → pending.foundValue = none →
    ∀ id ∈ pending.ids, id ∈ trace.askedIds
  sorted : trace.heard = true → pending.foundValue = none →
    pending.ids.Pairwise (target.remoteness · ≤ target.remoteness ·)

/-- Picking a node marks it as asked; when none is left, all have been. -/
theorem queried_nextQuery {pending : PendingLookup} (asked : NodeList)
    (queried : pending.queried = (asked.map Prod.fst).toFinset)
    (distinct : (asked.map Prod.fst).Nodup) :
    pending.nextQuery.2.queried =
        ((pending.nextQuery.1.toList ++ asked).map Prod.fst).toFinset ∧
      ((pending.nextQuery.1.toList ++ asked).map Prod.fst).Nodup ∧
      ((∀ id ∈ (pending.nextQuery.1.toList ++ asked).map Prod.fst,
        id ∈ pending.ids ∨ id ∈ asked.map Prod.fst)) ∧
      (pending.nextQuery.1 = none → ∀ id ∈ pending.ids, id ∈ asked.map Prod.fst) := by
  cases picked : pending.nextQuery.1 with
  | none =>
    obtain ⟨same, exhausted⟩ := PendingLookup.nextQuery_none picked
    refine ⟨by rw [same]; exact queried, distinct, fun id member => Or.inr member,
      fun _ id member => ?_⟩
    obtain ⟨node, listed, rfl⟩ := List.mem_map.mp member
    exact List.mem_toFinset.mp (queried ▸ exhausted node listed)
  | some node =>
    obtain ⟨listed, unasked, marked⟩ := PendingLookup.nextQuery_some picked
    rw [Option.toList_some, List.singleton_append, List.map_cons]
    refine ⟨?_, ?_, fun id member => ?_, fun none => by cases none⟩
    · rw [marked, queried, List.toFinset_cons]
    · refine List.nodup_cons.mpr ⟨fun again => unasked ?_, distinct⟩
      rw [queried]
      exact List.mem_toFinset.mpr again
    · rcases List.mem_cons.mp member with rfl | before
      · exact Or.inl (List.mem_map_of_mem listed)
      · exact Or.inr before

theorem tidy_start {client : DhtClient} {routing : RoutingTable} {pending : PendingLookup}
    {lookup : Lookup} (begins : Lookup.Begins client routing pending lookup)
    {nodes : Finset NodeID} (within : ∀ id ∈ pending.ids, id ∈ nodes) :
    (start pending lookup).Tidy pending.target nodes 0 pending.nextQuery.2 := by
  obtain ⟨next, held, queried, _⟩ := begins.eq
  obtain ⟨marked, distinct, picks, exhausted⟩ :=
    queried_nextQuery [] queried List.nodup_nil
  rw [List.append_nil] at marked distinct picks
  refine ⟨held, pending.target_nextQuery, marked, distinct, ?_, fun id member => ?_, fun going => ?_,
    fun ended _ => ?_, fun none => by cases none⟩
  · rw [PendingLookup.ids_nextQuery]
    exact within
  · rcases picks id member with here | none
    · exact within id here
    · cases none
  · rw [start]
    rw [start, next] at going
    cases picked : pending.nextQuery.1 with
    | none =>
      rw [picked] at going
      exact absurd rfl going
    | some node => rfl
  · rw [start, next] at ended
    rw [PendingLookup.ids_nextQuery]
    intro id member
    cases exhausted (Option.map_eq_none_iff.mp ended) id member

/-- What an answer leaves in the shortlist is of the set. -/
theorem Tidy.within_answered {target : NodeID} {nodes : Finset NodeID} {taken : Nat}
    {trace : QueryTrace} {pending : PendingLookup} (tidy : trace.Tidy target nodes taken pending)
    {answer : Answer} (listed : ∀ id ∈ answer.listed.map Prod.fst, id ∈ nodes) :
    ∀ id ∈ (pending.answered answer).ids, id ∈ nodes := by
  intro id member
  rcases List.mem_append.mp (pending.ids_answered_subset answer member) with before | told
  · exact tidy.within id before
  · exact listed id told

/-- A response sorts the shortlist, and a timeout leaves it as it was. -/
theorem Tidy.sorted_answered {target : NodeID} {nodes : Finset NodeID} {taken : Nat}
    {trace : QueryTrace} {pending : PendingLookup} (tidy : trace.Tidy target nodes taken pending)
    {answer : Answer} (carries : answer.carried = none)
    (told : (trace.heard || answer.isResponse) = true)
    (unfound : (pending.answered answer).foundValue = none) :
    (pending.answered answer).ids.Pairwise (target.remoteness · ≤ target.remoteness ·) := by
  cases answer with
  | timeout =>
    rw [Answer.isResponse, Bool.or_false] at told
    exact tidy.sorted told unfound
  | response operation sender now clock =>
    have carried : operation.carried = none := carries
    have settled : pending.answered (.response operation sender now clock) =
        (pending.told operation.listed).settle := by
      rw [PendingLookup.answered, carried]
    have sorted := (pending.told operation.listed).sorted_settle
    rw [← settled] at sorted
    have aims : (pending.told operation.listed).target = target := tidy.aims
    rwa [aims] at sorted

/-- An answer with a value ends the lookup, which asks no further node. -/
theorem Tidy.find {target : NodeID} {nodes : Finset NodeID} {taken : Nat} {trace : QueryTrace}
    {pending : PendingLookup} (tidy : trace.Tidy target nodes taken pending) {answer : Answer}
    (listed : ∀ id ∈ answer.listed.map Prod.fst, id ∈ nodes)
    {query : DhtOperation × SocketAddr} (going : trace.lookup.next = some query) {value : Bytes}
    (carries : answer.carried = some value) :
    (trace.step answer).Tidy target nodes (taken + 1) (pending.answered answer) := by
  obtain ⟨ended, after⟩ := Lookup.step_carried going tidy.held carries
  have asked : (trace.step answer).asked = trace.asked := by
    rw [QueryTrace.step, picks, going, carries]
    rfl
  have found : (pending.answered answer).foundValue = some value := by
    cases answer with
    | timeout => cases carries
    | response operation sender now clock =>
      have carried : operation.carried = some value := carries
      rw [PendingLookup.answered, carried]
  refine ⟨after, ?_, ?_, ?_, tidy.within_answered listed, ?_, fun still => absurd ended still,
    fun _ unfound => ?_, fun _ unfound => ?_⟩
  · rw [PendingLookup.target_answered, tidy.aims]
  · rw [PendingLookup.queried_answered, tidy.queried, askedIds, askedIds, asked]
  · rw [askedIds, asked]
    exact tidy.distinct
  · rw [askedIds, asked]
    exact tidy.asks
  · rw [found] at unfound
    cases unfound
  · rw [found] at unfound
    cases unfound

/-- Without a value, the next node is asked, if there is one left. -/
theorem Tidy.ask {target : NodeID} {nodes : Finset NodeID} {taken : Nat} {trace : QueryTrace}
    {pending : PendingLookup} (tidy : trace.Tidy target nodes taken pending) {answer : Answer}
    (listed : ∀ id ∈ answer.listed.map Prod.fst, id ∈ nodes)
    {query : DhtOperation × SocketAddr} (going : trace.lookup.next = some query)
    (carries : answer.carried = none) : (trace.step answer).Tidy target nodes (taken + 1)
      (pending.answered answer).nextQuery.2 := by
  obtain ⟨next, after⟩ := Lookup.step_uncarried going tidy.held carries
  have heard : (trace.step answer).heard = (trace.heard || answer.isResponse) := by
    rw [QueryTrace.step, going, Option.isSome_some, Bool.true_and]
  have asked : (trace.step answer).asked =
      (pending.answered answer).nextQuery.1.toList ++ trace.asked := by
    rw [QueryTrace.step, picks, going, carries, tidy.held]
    rfl
  have within := tidy.within_answered listed
  obtain ⟨marked, distinct, picked, exhausted⟩ := queried_nextQuery trace.asked
    ((pending.queried_answered answer).trans tidy.queried) tidy.distinct
  refine ⟨after, ?_, ?_, ?_, ?_, ?_, fun still => ?_, fun ended _ => ?_, fun told unfound => ?_⟩
  · rw [PendingLookup.target_nextQuery, PendingLookup.target_answered, tidy.aims]
  · rw [askedIds, asked]
    exact marked
  · rw [askedIds, asked]
    exact distinct
  · rw [PendingLookup.ids_nextQuery]
    exact within
  · rw [askedIds, asked]
    intro id member
    rcases picked id member with here | before
    · exact within id here
    · exact tidy.asks id before
  · have some_picked : ((pending.answered answer).nextQuery.1).isSome = true := by
      rw [← Option.isSome_map, ← next]
      exact Option.ne_none_iff_isSome.mp still
    have counted := tidy.counted (by rw [going]; exact Option.some_ne_none query)
    obtain ⟨node, picked⟩ := Option.isSome_iff_exists.mp some_picked
    rw [asked, picked, Option.toList_some, List.singleton_append, List.length_cons, counted]
  · have nothing := Option.map_eq_none_iff.mp (next.symm.trans ended)
    rw [PendingLookup.ids_nextQuery, askedIds, asked, nothing]
    exact exhausted nothing
  · rw [PendingLookup.ids_nextQuery]
    rw [PendingLookup.foundValue_nextQuery] at unfound
    exact tidy.sorted_answered carries (heard ▸ told) unfound

/-- An answer keeps the lookup tidy, and takes at most one more query. -/
theorem Tidy.step {target : NodeID} {nodes : Finset NodeID} {taken : Nat} {trace : QueryTrace}
    {pending : PendingLookup} (tidy : trace.Tidy target nodes taken pending) {answer : Answer}
    (listed : ∀ id ∈ answer.listed.map Prod.fst, id ∈ nodes) :
    ∃ last, (trace.step answer).Tidy target nodes (taken + 1) last := by
  cases going : trace.lookup.next with
  | none =>
    have same : trace.step answer = trace := by
      rw [QueryTrace.step, picks, going, Lookup.step_ended going answer]
      simp
    rw [same]
    exact ⟨pending, { tidy with counted := fun still => absurd going still }⟩
  | some query =>
    cases carries : answer.carried with
    | some value => exact ⟨_, tidy.find listed going carries⟩
    | none => exact ⟨_, tidy.ask listed going carries⟩

theorem Tidy.run {target : NodeID} {nodes : Finset NodeID} {taken : Nat} {trace : QueryTrace}
    {pending : PendingLookup} (tidy : trace.Tidy target nodes taken pending)
    {answers : List Answer}
    (listed : ∀ answer ∈ answers, ∀ id ∈ answer.listed.map Prod.fst, id ∈ nodes) :
    ∃ last, (trace.run answers).Tidy target nodes (taken + answers.length) last := by
  induction answers generalizing trace pending taken with
  | nil => exact ⟨pending, tidy⟩
  | cons answer rest inductionHypothesis =>
    obtain ⟨next, after⟩ := tidy.step (listed answer List.mem_cons_self)
    obtain ⟨last, ends⟩ := inductionHypothesis after fun other member =>
      listed other (List.mem_cons_of_mem _ member)
    rw [Nat.add_assoc, Nat.add_comm 1] at ends
    exact ⟨last, ends⟩

/-- Over every sequence of answers that list nodes of a finite set, no node is asked twice, the
lookup ends within as many queries as there are nodes, and if it ends without a value, all of
its shortlist has been asked, and is sorted once there was a response. -/
theorem ends_complete {client : DhtClient} {routing : RoutingTable} {pending : PendingLookup}
    {lookup : Lookup} (begins : Lookup.Begins client routing pending lookup)
    (nodes : Finset NodeID) (within : ∀ id ∈ pending.ids, id ∈ nodes) (answers : List Answer)
    (listed : ∀ answer ∈ answers, ∀ id ∈ answer.listed.map Prod.fst, id ∈ nodes) :
    let trace := (start pending lookup).run answers
    trace.askedIds.Nodup ∧ trace.asked.length ≤ nodes.card ∧
      (nodes.card ≤ answers.length → trace.lookup.next = none) ∧
        ∃ last, trace.lookup.client.pending = some last ∧
          (trace.lookup.next = none → last.foundValue = none →
            (∀ id ∈ last.ids, id ∈ trace.askedIds) ∧
              (trace.heard = true → last.ids.Pairwise
                (pending.target.remoteness · ≤ pending.target.remoteness ·))) := by
  intro trace
  obtain ⟨last, tidy⟩ := (tidy_start begins within).run listed
  rw [Nat.zero_add] at tidy
  have few : trace.asked.length ≤ nodes.card := by
    calc
      trace.asked.length = trace.askedIds.toFinset.card := by
        rw [List.toFinset_card_of_nodup tidy.distinct, askedIds, List.length_map]
      _ ≤ nodes.card := Finset.card_le_card fun id member =>
        tidy.asks id (List.mem_toFinset.mp member)
  refine ⟨tidy.distinct, few, fun enough => ?_, last, tidy.held, fun ended unfound => ?_⟩
  · by_contra going
    have counted : trace.asked.length = answers.length + 1 := tidy.counted going
    omega
  · exact ⟨tidy.exhausted ended unfound, fun heard => tidy.sorted heard unfound⟩

/-! ### A lookup that ends -/

open LookupTrace (sampleNode sampleTable sampleLookup sampleAnswer)

/-- Node `0` asks the nodes `1` and `2` that it knows, and node `3` that it is told of. -/
theorem sample_lookup_ends :
    let trace := (start (.start (sampleNode 0) none
      (sampleTable.closestNodes (sampleNode 0) Routing.k)) sampleLookup).run
        [sampleAnswer [2, 3], .timeout, sampleAnswer []]
    trace.lookup.next = none ∧ trace.askedIds = [sampleNode 3, sampleNode 2, sampleNode 1] ∧
      trace.askedIds.Nodup := by
  intro trace
  obtain ⟨distinct, _, ends, _⟩ := ends_complete
    (.lookupNode (sampleNode 0) : Lookup.Begins (.new (sampleNode 0)) sampleTable _ sampleLookup)
    {sampleNode 1, sampleNode 2, sampleNode 3} (by decide +kernel)
    [sampleAnswer [2, 3], .timeout, sampleAnswer []] (by decide +kernel)
  exact ⟨ends (by decide +kernel), by decide +kernel, distinct⟩

end QueryTrace

end Insub
