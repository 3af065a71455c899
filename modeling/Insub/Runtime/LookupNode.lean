/-
This file models the lookup and the store of `runtime.rs` as a whole: the nodes that `lookup_node`
hands out once its loop has ended, and the packets that `store` sends to them. The nodes that are
handed out have been asked; whether they have answered is not looked at.
-/

import Mathlib
import Insub.Dht.Answered
import Insub.Runtime.Dht

namespace Insub

open Rust

namespace DhtRuntime

/-- `lookup_node`, with what comes of each query until its loop ends. -/
def lookupNode (runtime : DhtRuntime) (target : NodeID) (answers : List Answer) :
    Outcome NodeList × DhtRuntime :=
  let last := (Lookup.lookupNode runtime.client runtime.routing target).run answers
  ((okOr "no lookup result" last.client.pending).map PendingLookup.shortlist,
    { runtime with client := last.client, routing := last.routing })

/-- An operation as it is sent, in a packet with an id that is drawn. -/
def sendDhtOp (operation : DhtOperation) (dest : SocketAddr) (id : U128) : Packet × SocketAddr :=
  (.new 0 id (.new .dhtOperation operation.serialize), dest)

/-- `store`, with what comes of each query of its lookup, and the ids that are drawn for its
packets. -/
def store (runtime : DhtRuntime) (key : Key) (value : Bytes) (ttl : U32) (answers : List Answer)
    (ids : Nat → U128) : Outcome (List (Packet × SocketAddr)) × DhtRuntime :=
  match runtime.lookupNode { id := key } answers with
  | (.error fault, runtime) => (.error fault, runtime)
  | (.ok closest, runtime) =>
    if closest.isEmpty then
      (.error (.error "store failed: no nodes known to store to"), runtime)
    else
      (.ok (closest.mapIdx fun index (_, addr) =>
        sendDhtOp (.store runtime.id key value ttl) addr (ids index)), runtime)

/-- The lookup has run out of nodes to ask. -/
def LookupEnds (runtime : DhtRuntime) (target : NodeID) (answers : List Answer) : Prop :=
  ((Lookup.lookupNode runtime.client runtime.routing target).run answers).next = none

instance (runtime : DhtRuntime) (target : NodeID) (answers : List Answer) :
    Decidable (runtime.LookupEnds target answers) :=
  decidable_of_iff _ Option.isNone_iff_eq_none

/-- The books of the lookup. -/
def lookupTrace (runtime : DhtRuntime) (target : NodeID) (answers : List Answer) : AnswerTrace :=
  (AnswerTrace.start (.start target none (runtime.routing.closestNodes target Routing.k))
    (Lookup.lookupNode runtime.client runtime.routing target)).run answers

/-- What is sent goes to the nodes that the lookup hands out, in their order. -/
theorem store_eq_ok_iff {runtime : DhtRuntime} {key : Key} {value : Bytes} {ttl : U32}
    {answers : List Answer} {ids : Nat → U128} {queued : List (Packet × SocketAddr)} :
    (runtime.store key value ttl answers ids).1 = .ok queued ↔
      ∃ closest, (runtime.lookupNode { id := key } answers).1 = .ok closest ∧ closest ≠ [] ∧
        queued = closest.mapIdx fun index (_, addr) =>
          sendDhtOp (.store runtime.id key value ttl) addr (ids index) := by
  have same : (runtime.lookupNode { id := key } answers).2.id = runtime.id := rfl
  rw [store]
  rcases found : runtime.lookupNode { id := key } answers with ⟨fault | closest, after⟩
  · simp
  · rw [found] at same
    dsimp only at same ⊢
    rw [same]
    by_cases none : closest.isEmpty = true
    · rw [if_pos none]
      simp [List.isEmpty_iff.mp none]
    · rw [if_neg none]
      have filled : closest ≠ [] := fun empty => none (List.isEmpty_iff.mpr empty)
      constructor
      · intro sent
        exact ⟨closest, rfl, filled, (Except.ok.inj sent).symm⟩
      · rintro ⟨_, same, -, rfl⟩
        rw [Except.ok.inj same]

/-- What `store` does with the nodes that the lookup hands out: it sends each of them, in their
order, the operation that stores the value, and fails if there are none. -/
theorem store_of_lookupNode {runtime : DhtRuntime} {key : Key} {answers : List Answer}
    {closest : NodeList} (found : (runtime.lookupNode { id := key } answers).1 = .ok closest)
    (value : Bytes) (ttl : U32) (ids : Nat → U128) :
    (closest ≠ [] → ∃ queued, (runtime.store key value ttl answers ids).1 = .ok queued ∧
      queued.map Prod.snd = closest.map Prod.snd ∧ ∀ sent ∈ queued,
        sent.1.payload.tag = .dhtOperation ∧
          sent.1.payload.data = (DhtOperation.store runtime.id key value ttl).serialize) ∧
      (closest = [] → (runtime.store key value ttl answers ids).1 =
        .error (.error "store failed: no nodes known to store to")) := by
  refine ⟨fun filled => ?_, fun empty => ?_⟩
  · refine ⟨_, store_eq_ok_iff.mpr ⟨closest, found, filled, rfl⟩, ?_, fun sent member => ?_⟩
    · rw [List.mapIdx_eq_zipIdx_map, List.map_map]
      calc
        closest.zipIdx.map _ = (closest.zipIdx.map Prod.fst).map Prod.snd :=
          (List.map_map ..).symm
        _ = closest.map Prod.snd := by rw [List.zipIdx_map_fst]
    · obtain ⟨index, inside, rfl⟩ := List.mem_mapIdx.mp member
      exact ⟨rfl, rfl⟩
  · rw [store]
    rcases looked : runtime.lookupNode { id := key } answers with ⟨outcome, after⟩
    rw [looked] at found
    obtain rfl : outcome = .ok closest := found
    exact congrArg Prod.fst (if_pos (List.isEmpty_iff.mpr empty))

/-- The nodes that a lookup hands out have all been asked, and have answered or timed out. The
places are given by distance alone: a node that was asked and is left out is no nearer than any
that is handed out, of which there are twenty then. The value of a store goes to all of them and to
nobody else. -/
theorem lookupNode_hands_out_asked {runtime : DhtRuntime} {target : NodeID} {answers : List Answer}
    (ended : runtime.LookupEnds target answers)
    (carry : ∀ answer ∈ answers, answer.carried = none) :
    let trace := runtime.lookupTrace target answers
    ∃ list, (runtime.lookupNode target answers).1 = .ok list ∧ list.length ≤ 20 ∧
      list.Pairwise (fun near far => target.remoteness near.1 ≤ target.remoteness far.1) ∧
      (∀ node ∈ list, (node.1 ∈ trace.answered ∨ node.1 ∈ trace.timedOut) ∧
        ¬ (node.1 ∈ trace.answered ∧ node.1 ∈ trace.timedOut)) ∧
      (trace.timedOut = [] → ∀ node ∈ list, node.1 ∈ trace.answered) ∧
      (∀ id, id ∈ trace.answered ∨ id ∈ trace.timedOut → id ∉ list.map Prod.fst →
        list.length = 20 ∧ ∀ node ∈ list, target.remoteness node.1 ≤ target.remoteness id) ∧
      ∀ value ttl ids,
        (list ≠ [] → ∃ queued, (runtime.store target.id value ttl answers ids).1 = .ok queued ∧
          queued.map Prod.snd = list.map Prod.snd ∧ ∀ sent ∈ queued,
            sent.1.payload.tag = .dhtOperation ∧ sent.1.payload.data =
              (DhtOperation.store runtime.id target.id value ttl).serialize) ∧
        (list = [] → (runtime.store target.id value ttl answers ids).1 =
          .error (.error "store failed: no nodes known to store to")) := by
  intro trace
  set pending := PendingLookup.start target none (runtime.routing.closestNodes target Routing.k)
    with first
  have begins : Lookup.Begins runtime.client runtime.routing pending
      (Lookup.lookupNode runtime.client runtime.routing target) := .lookupNode target
  obtain ⟨last, kept⟩ := (AnswerTrace.kept_start runtime.client runtime.routing target).run carry
  -- the nodes that the lookup knows at the start, or is told of
  let nodes : Finset NodeID :=
    (pending.ids ++ answers.flatMap fun answer => answer.listed.map Prod.fst).toFinset
  have within : ∀ id ∈ pending.ids, id ∈ nodes :=
    fun id member => List.mem_toFinset.mpr (List.mem_append_left _ member)
  have listed : ∀ answer ∈ answers, ∀ id ∈ answer.listed.map Prod.fst, id ∈ nodes :=
    fun answer among id member => List.mem_toFinset.mpr
      (List.mem_append_right _ (List.mem_flatMap.mpr ⟨answer, among, member⟩))
  obtain ⟨other, tidy⟩ := (QueryTrace.tidy_start begins within).run listed
  have books : trace.query = (QueryTrace.start pending
      (Lookup.lookupNode runtime.client runtime.routing target)).run answers :=
    AnswerTrace.query_run _ answers
  rw [← books] at tidy
  obtain rfl : other = last := Option.some.inj (tidy.held.symm.trans kept.held)
  have looked : trace.query.lookup =
      (Lookup.lookupNode runtime.client runtime.routing target).run answers := by
    rw [books, QueryTrace.lookup_run]
    rfl
  have stopped : trace.query.lookup.next = none := by
    rw [looked]
    exact ended
  have aims : other.target = target := tidy.aims
  have handed : (runtime.lookupNode target answers).1 = .ok other.shortlist := by
    have held := tidy.held
    rw [looked] at held
    rw [lookupNode]
    dsimp only
    rw [held]
    rfl
  have apart := kept.settled.apart stopped tidy.distinct
  have asked : ∀ node ∈ other.shortlist, node.1 ∈ trace.query.askedIds := fun node member =>
    tidy.exhausted stopped kept.ranked.unfound node.1 (List.mem_map_of_mem member)
  have sorted := kept.ranked.sorted
  have short := kept.ranked.short
  have farther := kept.ranked.farther
  rw [aims] at sorted farther
  rw [PendingLookup.ids, List.length_map] at short farther
  have order : other.shortlist.Pairwise fun near far =>
      target.remoteness near.1 ≤ target.remoteness far.1 := by
    rw [PendingLookup.ids, List.pairwise_map] at sorted
    exact sorted
  refine ⟨other.shortlist, handed, short, order, fun node member => ?_,
    fun none node member => ?_, fun id either missing => ?_, ?_⟩
  · exact ⟨(apart node.1).1.mp (asked node member), (apart node.1).2⟩
  · refine ((apart node.1).1.mp (asked node member)).resolve_right fun failed => ?_
    exact absurd (none ▸ failed : node.1 ∈ ([] : List NodeID)) List.not_mem_nil
  · obtain ⟨full, nearer⟩ := (farther id ((apart id).1.mpr either)).resolve_left missing
    exact ⟨full, fun node member => nearer node.1 (List.mem_map_of_mem member)⟩
  · exact store_of_lookupNode handed

open LookupTrace (sampleNode sampleAddr sampleTable sampleAnswer)

/-- Node `0`, which knows the nodes `1` and `2`. -/
def sampleRuntime : DhtRuntime where
  id := sampleNode 0
  address := sampleAddr
  routing := sampleTable
  client := .new (sampleNode 0)
  server := none

/-- A value in place of the nodes that were asked for. -/
def valueAnswer : Answer :=
  .response (.value (sampleNode 1) (Octets.zero 32) (some [7]) []) sampleAddr 0 fun _ => 0

/-- Node `1` tells of the nodes `2` and `3`, and node `2` times out. -/
def silentAnswers : List Answer := [sampleAnswer [2, 3], .timeout, sampleAnswer []]

/-- Node `2` is handed out though it has timed out, and when node `1` answers with a value, node `2`
is handed out without having been asked. -/
theorem silent_node_handed_out :
    sampleRuntime.LookupEnds (sampleNode 0) silentAnswers ∧
      (sampleRuntime.lookupNode (sampleNode 0) silentAnswers).1.map (List.map Prod.fst) =
        .ok [sampleNode 1, sampleNode 2, sampleNode 2, sampleNode 3] ∧
      (sampleRuntime.lookupTrace (sampleNode 0) silentAnswers).timedOut = [sampleNode 2] ∧
    sampleRuntime.LookupEnds (sampleNode 0) [valueAnswer] ∧
      (sampleRuntime.lookupNode (sampleNode 0) [valueAnswer]).1.map (List.map Prod.fst) =
        .ok [sampleNode 1, sampleNode 2] ∧
      (sampleRuntime.lookupTrace (sampleNode 0) [valueAnswer]).query.askedIds =
        [sampleNode 1] := by
  decide +kernel

/-- All three nodes answer, and are sent what is stored. -/
theorem sampleRuntime_all_answer :
    let answers := [sampleAnswer [2, 3], sampleAnswer [], sampleAnswer []]
    let trace := sampleRuntime.lookupTrace (sampleNode 0) answers
    ∃ list, (sampleRuntime.lookupNode (sampleNode 0) answers).1 = .ok list ∧
      (∀ node ∈ list, node.1 ∈ trace.answered) ∧
      ∃ queued, (sampleRuntime.store (sampleNode 0).id [1, 2, 3] 3600 answers
          fun index => BitVec.ofNat 128 (index + 1)).1 = .ok queued ∧
        queued.map Prod.snd = list.map Prod.snd ∧ ∀ sent ∈ queued,
          sent.1.payload.tag = .dhtOperation ∧ sent.1.payload.data =
            (DhtOperation.store sampleRuntime.id (sampleNode 0).id [1, 2, 3] 3600).serialize := by
  intro answers trace
  obtain ⟨list, handed, -, -, -, all, -, stores⟩ := lookupNode_hands_out_asked
    (show sampleRuntime.LookupEnds (sampleNode 0) answers by decide +kernel) (by decide +kernel)
  have many : (sampleRuntime.lookupNode (sampleNode 0) answers).1.map List.length = .ok 4 := by
    decide +kernel
  rw [handed] at many
  have filled : list ≠ [] := by
    rintro rfl
    cases many
  exact ⟨list, handed, all (by decide +kernel), (stores [1, 2, 3] 3600 _).1 filled⟩

end DhtRuntime

end Insub
