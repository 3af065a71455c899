/-
This file keeps the books of a lookup: of the nodes that it has asked, which have answered, and
which have timed out. A timeout marks no node as gone; the lookup asks the next one, and its
shortlist stays as it was. So what stands in the list at the end has been asked, whether it has
answered or not, and the places go by distance alone: what was cut off is no nearer than what is in
the list.
-/

import Mathlib
import Insub.Dht.Queries

namespace Insub

open Rust

/-- A trace of the queries, with the nodes that have answered and those that have timed out. -/
structure AnswerTrace where
  query : QueryTrace
  answered : List NodeID
  timedOut : List NodeID

namespace AnswerTrace

def start (pending : PendingLookup) (lookup : Lookup) : AnswerTrace where
  query := .start pending lookup
  answered := []
  timedOut := []

/-- The node whose answer the lookup waits for: the one it has asked last. -/
def outstanding (trace : AnswerTrace) : Option NodeID :=
  if trace.query.lookup.next.isSome then trace.query.askedIds.head? else none

def step (trace : AnswerTrace) (answer : Answer) : AnswerTrace where
  query := trace.query.step answer
  answered :=
    if answer.isResponse then trace.outstanding.toList ++ trace.answered else trace.answered
  timedOut :=
    if answer.isResponse then trace.timedOut else trace.outstanding.toList ++ trace.timedOut

def run (trace : AnswerTrace) (answers : List Answer) : AnswerTrace := answers.foldl step trace

theorem query_run (trace : AnswerTrace) (answers : List Answer) :
    (trace.run answers).query = trace.query.run answers := by
  induction answers generalizing trace with
  | nil => rfl
  | cons answer rest inductionHypothesis => exact inductionHypothesis (trace.step answer)

/-! ### Who is asked -/

theorem step_ended {trace : AnswerTrace} (ended : trace.query.lookup.next = none)
    (answer : Answer) : (trace.step answer).query.lookup = trace.query.lookup ∧
      (trace.step answer).query.askedIds = trace.query.askedIds := by
  refine ⟨Lookup.step_ended ended answer, ?_⟩
  show ((QueryTrace.picks trace.query.lookup answer).toList ++ trace.query.asked).map _ = _
  rw [QueryTrace.picks, ended]
  rfl

theorem askedIds_step_carried {trace : AnswerTrace} {answer : Answer} {value : Bytes}
    (carries : answer.carried = some value) :
    (trace.step answer).query.askedIds = trace.query.askedIds := by
  show ((QueryTrace.picks trace.query.lookup answer).toList ++ trace.query.asked).map _ = _
  rw [QueryTrace.picks, carries]
  cases trace.query.lookup.next <;> rfl

theorem askedIds_step_uncarried {trace : AnswerTrace} {answer : Answer} {pending : PendingLookup}
    {query : DhtOperation × SocketAddr} (held : trace.query.lookup.client.pending = some pending)
    (going : trace.query.lookup.next = some query) (carries : answer.carried = none) :
    (trace.step answer).query.askedIds =
      ((pending.answered answer).nextQuery.1.map Prod.fst).toList ++ trace.query.askedIds := by
  show ((QueryTrace.picks trace.query.lookup answer).toList ++ trace.query.asked).map _ = _
  rw [QueryTrace.picks, going, carries, held, List.map_append]
  show ((pending.answered answer).nextQuery.1.toList.map Prod.fst) ++ _ = _
  cases (pending.answered answer).nextQuery.1 <;> rfl

/-- The first node that is asked. -/
theorem askedIds_start (pending : PendingLookup) (lookup : Lookup) :
    (start pending lookup).query.askedIds = (pending.nextQuery.1.map Prod.fst).toList := by
  show pending.nextQuery.1.toList.map Prod.fst = _
  cases pending.nextQuery.1 <;> rfl

/-- Every node that was asked has answered or timed out, but for the one that is outstanding. -/
structure Settled (trace : AnswerTrace) : Prop where
  asked : trace.query.askedIds.Perm
    (trace.outstanding.toList ++ (trace.answered ++ trace.timedOut))
  waits : trace.query.lookup.next.isSome → trace.outstanding.isSome

theorem settled_start {client : DhtClient} {routing : RoutingTable} {pending : PendingLookup}
    {lookup : Lookup} (begins : Lookup.Begins client routing pending lookup) :
    (start pending lookup).Settled := by
  obtain ⟨next, -⟩ := begins.eq
  have first := askedIds_start pending lookup
  have waiting : (start pending lookup).outstanding = pending.nextQuery.1.map Prod.fst := by
    rw [outstanding, first]
    show (if lookup.next.isSome then _ else _) = _
    rw [next]
    cases pending.nextQuery.1 <;> rfl
  refine ⟨?_, fun going => ?_⟩
  · rw [waiting, first]
    exact .of_eq (List.append_nil _).symm
  · rw [waiting, Option.isSome_map]
    change lookup.next.isSome = true at going
    rw [next, Option.isSome_map] at going
    exact going

/-- What is asked next is outstanding. -/
theorem outstanding_step {trace : AnswerTrace} {pending : PendingLookup}
    {query : DhtOperation × SocketAddr} (held : trace.query.lookup.client.pending = some pending)
    (going : trace.query.lookup.next = some query) (answer : Answer) :
    ∃ next : Option NodeID, (trace.step answer).query.askedIds =
        next.toList ++ trace.query.askedIds ∧
      (trace.step answer).outstanding = next ∧
        ((trace.step answer).query.lookup.next.isSome → next.isSome) := by
  cases carries : answer.carried with
  | some value =>
    obtain ⟨ended, -⟩ := Lookup.step_carried going held carries
    replace ended : (trace.step answer).query.lookup.next = none := ended
    refine ⟨none, askedIds_step_carried carries, ?_, fun still => ?_⟩
    · exact if_neg (by rw [ended]; exact Bool.false_ne_true)
    · rw [ended] at still
      cases still
  | none =>
    obtain ⟨next, -⟩ := Lookup.step_uncarried going held carries
    have after : (trace.step answer).query.lookup.next = _ := next
    have asked := askedIds_step_uncarried held going carries
    refine ⟨_, asked, ?_, fun still => ?_⟩
    · rw [outstanding, asked, after]
      cases (pending.answered answer).nextQuery.1 <;> rfl
    · rw [after, Option.isSome_map] at still
      rw [Option.isSome_map]
      exact still

theorem Settled.step {trace : AnswerTrace} (settled : trace.Settled) {pending : PendingLookup}
    (held : trace.query.lookup.client.pending = some pending) (answer : Answer) :
    (trace.step answer).Settled := by
  -- whoever is outstanding answers or times out
  have moved : (trace.outstanding.toList ++ (trace.answered ++ trace.timedOut)).Perm
      ((trace.step answer).answered ++ (trace.step answer).timedOut) := by
    show List.Perm _ ((if answer.isResponse then _ else _) ++ (if answer.isResponse then _ else _))
    cases answer.isResponse with
    | true => exact .of_eq (List.append_assoc _ _ _).symm
    | false => exact List.perm_append_comm_assoc _ _ _
  cases going : trace.query.lookup.next with
  | none =>
    obtain ⟨still, asked⟩ := step_ended going answer
    have ended : (trace.step answer).query.lookup.next.isSome = false := by
      rw [still, going]
      rfl
    have quiet : (trace.step answer).outstanding = none :=
      if_neg (by rw [ended]; exact Bool.false_ne_true)
    refine ⟨?_, fun again => absurd again (by rw [ended]; exact Bool.false_ne_true)⟩
    rw [quiet, asked]
    exact settled.asked.trans moved
  | some query =>
    obtain ⟨next, asked, waiting, implies⟩ := outstanding_step held going answer
    refine ⟨?_, fun again => waiting ▸ implies again⟩
    rw [waiting, asked]
    exact (settled.asked.trans moved).append_left _

/-- When nobody is asked any more, the nodes that were asked have answered or timed out, and none
has done both. -/
theorem Settled.apart {trace : AnswerTrace} (settled : trace.Settled)
    (ended : trace.query.lookup.next = none) (distinct : trace.query.askedIds.Nodup) (id : NodeID) :
    (id ∈ trace.query.askedIds ↔ id ∈ trace.answered ∨ id ∈ trace.timedOut) ∧
      ¬ (id ∈ trace.answered ∧ id ∈ trace.timedOut) := by
  have quiet : trace.outstanding = none := if_neg (by rw [ended]; exact Bool.false_ne_true)
  have all := settled.asked
  rw [quiet, Option.toList_none, List.nil_append] at all
  refine ⟨all.mem_iff.trans List.mem_append, fun ⟨answers, fails⟩ => ?_⟩
  exact (List.nodup_append'.mp (all.nodup distinct)).2.2 answers fails

end AnswerTrace

/-! ### Who has a place in the list -/

namespace PendingLookup

/-- The list of a lookup that has found no value: it is sorted and not too long, and whoever was
asked and lost the place is no nearer than those in the full list. -/
structure Ranked (pending : PendingLookup) (asked : List NodeID) : Prop where
  unfound : pending.foundValue = none
  sorted : pending.ids.Pairwise (pending.target.remoteness · ≤ pending.target.remoteness ·)
  short : pending.ids.length ≤ Routing.k
  farther : ∀ id ∈ asked, id ∈ pending.ids ∨ pending.ids.length = Routing.k ∧
    ∀ near ∈ pending.ids, pending.target.remoteness near ≤ pending.target.remoteness id

theorem ranked_start (routing : RoutingTable) (target : NodeID) (key : Option Key) :
    (start target key (routing.closestNodes target Routing.k)).Ranked [] := by
  refine ⟨rfl, ?_, ?_, fun _ member => absurd member List.not_mem_nil⟩
  · refine List.pairwise_map.mpr (List.Pairwise.sublist (List.take_sublist _ _) ?_)
    exact Nearest.pairwise_sortByKey (fun node : NodeID × SocketAddr => target.remoteness node.1) _
  · rw [ids, List.length_map]
    exact List.length_take_le _ _

theorem Ranked.nextQuery {pending : PendingLookup} {asked : List NodeID}
    (ranked : pending.Ranked asked) :
    pending.nextQuery.2.Ranked ((pending.nextQuery.1.map Prod.fst).toList ++ asked) := by
  refine ⟨?_, ?_, ?_, ?_⟩
  · rw [foundValue_nextQuery]
    exact ranked.unfound
  · rw [ids_nextQuery, target_nextQuery]
    exact ranked.sorted
  · rw [ids_nextQuery]
    exact ranked.short
  · rw [ids_nextQuery, target_nextQuery]
    intro id member
    rcases List.mem_append.mp member with here | before
    · obtain ⟨node, picked, rfl⟩ := Option.map_eq_some_iff.mp (Option.mem_toList.mp here)
      exact Or.inl (List.mem_map_of_mem (nextQuery_some picked).1)
    · exact ranked.farther id before

theorem Ranked.settle {pending : PendingLookup} {asked : List NodeID}
    (ranked : pending.Ranked asked) (listed : NodeList) :
    (pending.told listed).settle.Ranked asked := by
  have order := Nearest.pairwise_sortByKey pending.target.remoteness (pending.told listed).ids
  have perm := Nearest.perm_sortByKey pending.target.remoteness (pending.told listed).ids
  have cut : (pending.told listed).settle.ids = (Nearest.sortByKey pending.target.remoteness
      (pending.told listed).ids).take Routing.k := (pending.told listed).ids_settle
  generalize Nearest.sortByKey pending.target.remoteness (pending.told listed).ids = sorted
    at order perm cut
  rw [ids_told] at perm
  refine ⟨ranked.unfound, (pending.told listed).sorted_settle, ?_, fun id member => ?_⟩
  · rw [cut]
    exact List.length_take_le _ _
  · rw [cut]
    show _ ∨ _ ∧ ∀ near ∈ _, pending.target.remoteness near ≤ pending.target.remoteness id
    rcases ranked.farther id member with inside | ⟨full, nearer⟩
    · have among : id ∈ sorted := perm.mem_iff.mpr (List.mem_append_left _ inside)
      rw [← List.take_append_drop Routing.k sorted, List.mem_append] at among
      refine among.imp_right fun after => ⟨Nearest.length_take_of_mem_drop after, ?_⟩
      exact fun near before => Nearest.le_of_mem_drop order before after
    · -- the full list that lost the node is among those that are sorted
      refine Or.inr ⟨List.length_take_of_le ?_, fun near before => ?_⟩
      · rw [perm.length_eq, List.length_append, full]
        exact Nat.le_add_right _ _
      · by_contra further
        rw [not_le] at further
        have few := Nearest.countP_lt_of_mem_take order before
        rw [perm.countP_eq, List.countP_append] at few
        have all : pending.ids.countP (pending.target.remoteness · <
            pending.target.remoteness near) = pending.ids.length :=
          List.countP_eq_length.mpr fun other held =>
            decide_eq_true ((nearer other held).trans_lt further)
        omega

theorem Ranked.answered {pending : PendingLookup} {asked : List NodeID}
    (ranked : pending.Ranked asked) {answer : Answer} (carries : answer.carried = none) :
    (pending.answered answer).Ranked asked := by
  cases answer with
  | timeout => exact ranked
  | response operation sender now clock =>
    have carried : operation.carried = none := carries
    rw [PendingLookup.answered, carried]
    exact ranked.settle operation.listed

end PendingLookup

namespace AnswerTrace

/-- The books of a lookup without a value, and its list. -/
structure Kept (trace : AnswerTrace) (pending : PendingLookup) : Prop where
  settled : trace.Settled
  held : trace.query.lookup.client.pending = some pending
  ranked : pending.Ranked trace.query.askedIds

theorem kept_start (client : DhtClient) (routing : RoutingTable) (target : NodeID) :
    let pending := PendingLookup.start target none (routing.closestNodes target Routing.k)
    (start pending (Lookup.lookupNode client routing target)).Kept pending.nextQuery.2 := by
  intro pending
  have begins : Lookup.Begins client routing pending (Lookup.lookupNode client routing target) :=
    .lookupNode target
  refine ⟨settled_start begins, begins.eq.2.1, ?_⟩
  have ranked := (PendingLookup.ranked_start routing target none).nextQuery
  rw [List.append_nil] at ranked
  rw [askedIds_start]
  exact ranked

theorem Kept.step {trace : AnswerTrace} {pending : PendingLookup} (kept : trace.Kept pending)
    {answer : Answer} (carries : answer.carried = none) :
    ∃ last, (trace.step answer).Kept last := by
  have settled := kept.settled.step kept.held answer
  cases going : trace.query.lookup.next with
  | none =>
    obtain ⟨still, asked⟩ := step_ended going answer
    exact ⟨pending, settled, still ▸ kept.held, asked ▸ kept.ranked⟩
  | some query =>
    obtain ⟨-, after⟩ := Lookup.step_uncarried going kept.held carries
    refine ⟨_, settled, after, ?_⟩
    rw [askedIds_step_uncarried kept.held going carries]
    exact (kept.ranked.answered carries).nextQuery

theorem Kept.run {trace : AnswerTrace} {pending : PendingLookup} (kept : trace.Kept pending)
    {answers : List Answer} (carry : ∀ answer ∈ answers, answer.carried = none) :
    ∃ last, (trace.run answers).Kept last := by
  induction answers generalizing trace pending with
  | nil => exact ⟨pending, kept⟩
  | cons answer rest inductionHypothesis =>
    obtain ⟨next, after⟩ := kept.step (carry answer List.mem_cons_self)
    exact inductionHypothesis after fun other member => carry other (List.mem_cons_of_mem _ member)

end AnswerTrace

end Insub
