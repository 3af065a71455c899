/-
This file proves when the shortlist of a lookup is what its comments call it: the closest
nodes of all the lookup was told of. A response is pushed to the list as it comes, so a node
that is told of again takes a second place. The list is right after every answer exactly as
long as what is told twice is far enough away for its repetition to be cut off.
-/

import Mathlib
import Insub.Dht.Lookup
import Insub.Dht.Placement

namespace Insub

open Rust

/-- A lookup, with all identifiers it has learned: those of its first shortlist and of every
answer. -/
structure LookupTrace where
  lookup : Lookup
  learned : Finset NodeID

namespace PendingLookup

/-- The identifiers of the shortlist. -/
def ids (pending : PendingLookup) : List NodeID := pending.shortlist.map Prod.fst

/-- The shortlist has the closest of the learned nodes, and has each once. -/
structure Exact (pending : PendingLookup) (learned : Finset NodeID) : Prop where
  distinct : pending.ids.Nodup
  nearest : pending.ids.toFinset = Nearest.nearest pending.target.remoteness Routing.k learned

/-- A node that is in the list twice has enough entries that are closer, counted with their
repetitions, for all but its first place to be cut off. -/
def Spares (pending : PendingLookup) : Prop :=
  ∀ id, 2 ≤ pending.ids.count id →
    Routing.k ≤ pending.ids.countP (pending.target.remoteness · < pending.target.remoteness id) + 1

@[simp] theorem ids_told (pending : PendingLookup) (listed : NodeList) :
    (pending.told listed).ids = pending.ids ++ listed.map Prod.fst := by
  rw [ids, told, List.map_append, ids]

theorem ids_settle (pending : PendingLookup) :
    pending.settle.ids =
      (Nearest.sortByKey pending.target.remoteness pending.ids).take Routing.k := by
  rw [ids, settle, List.map_take, ids]
  congr 1
  exact List.map_insertionSort _ _ _ _ fun _ _ _ _ => Iff.rfl

/-- Sorting and cutting gives the closest nodes exactly when the list spares its
repetitions. -/
theorem exact_settle_iff {pending : PendingLookup} {learned : Finset NodeID}
    {listed : NodeList} (exact : pending.Exact learned) :
    (pending.told listed).settle.Exact (learned ∪ (listed.map Prod.fst).toFinset) ↔
      (pending.told listed).Spares := by
  have injective := NodeID.remoteness_injective pending.target
  have order := Nearest.pairwise_sortByKey pending.target.remoteness (pending.told listed).ids
  have perm := Nearest.perm_sortByKey pending.target.remoteness (pending.told listed).ids
  have cut : (pending.told listed).settle.ids = (Nearest.sortByKey pending.target.remoteness
      (pending.told listed).ids).take Routing.k := (pending.told listed).ids_settle
  have spares_iff := Nearest.nodup_take_iff injective order Routing.k
  simp only [perm.count_eq, perm.countP_eq] at spares_iff
  constructor
  · intro settled
    refine spares_iff.mp ?_
    rw [← cut]
    exact settled.distinct
  · intro spares
    have distinct := spares_iff.mpr spares
    refine ⟨cut ▸ distinct, ?_⟩
    calc
      (pending.told listed).settle.ids.toFinset
          = Nearest.nearest pending.target.remoteness Routing.k
              (pending.told listed).ids.toFinset := by
        rw [cut]
        refine (Nearest.toFinset_take injective order distinct).trans ?_
        rw [List.toFinset_eq_of_perm _ _ perm]
      _ = Nearest.nearest pending.target.remoteness Routing.k
              (learned ∪ (listed.map Prod.fst).toFinset) := by
        rw [ids_told, List.toFinset_append, exact.nearest]
        exact Nearest.nearest_nearest_union injective _ _ _

/-- A list of few distinct nodes is exact. -/
theorem exact_of_nodup {pending : PendingLookup} (distinct : pending.ids.Nodup)
    (few : pending.ids.length ≤ Routing.k) : pending.Exact pending.ids.toFinset where
  distinct := distinct
  nearest := by
    refine (Finset.filter_true_of_mem fun id member => ?_).symm
    refine (Nearest.rank_lt_card member).trans_le ?_
    rw [List.toFinset_card_of_nodup distinct]
    exact few

end PendingLookup

namespace LookupTrace

/-- A lookup as it starts, with the identifiers of its shortlist. -/
def start (lookup : Lookup) : LookupTrace where
  lookup := lookup
  learned := (lookup.client.pending.elim [] PendingLookup.ids).toFinset

def step (trace : LookupTrace) (answer : Answer) : LookupTrace where
  lookup := trace.lookup.step answer
  learned :=
    if trace.lookup.next.isSome then trace.learned ∪ (answer.listed.map Prod.fst).toFinset
    else trace.learned

/-- The shortlist is exact, unless a value has ended the lookup. -/
def Exact (trace : LookupTrace) : Prop :=
  ∃ pending, trace.lookup.client.pending = some pending ∧
    (pending.foundValue = none → pending.Exact trace.learned)

/-- What an answer has to keep to, if the lookup waits for one and it brings no value: with
its nodes, the shortlist spares its repetitions. -/
def AnswerSpares (trace : LookupTrace) : Answer → Prop
  | .timeout => True
  | .response operation _ _ _ =>
    ∀ pending, trace.lookup.next.isSome → trace.lookup.client.pending = some pending →
      pending.foundValue = none → operation.carried = none →
        (pending.told operation.listed).Spares

/-- A lookup starts with the closest nodes of the routing table, all of them distinct. -/
theorem exact_start {client : DhtClient} {routing : RoutingTable} (reachable : routing.Reachable)
    {lookup : Lookup} (started : Lookup.Start client routing lookup) : (start lookup).Exact := by
  have first : ∀ target findValueKey, lookup.client.pending = some (PendingLookup.start target
      findValueKey (routing.closestNodes target Routing.k)).nextQuery.2 → (start lookup).Exact := by
    intro target findValueKey held
    have distinct : (PendingLookup.start target findValueKey
        (routing.closestNodes target Routing.k)).nextQuery.2.ids.Nodup := by
      rw [PendingLookup.ids, PendingLookup.shortlist_nextQuery]
      exact reachable.placed.nodup_closestNodes target Routing.k
    have few : (PendingLookup.start target findValueKey
        (routing.closestNodes target Routing.k)).nextQuery.2.ids.length ≤ Routing.k := by
      rw [PendingLookup.ids, PendingLookup.shortlist_nextQuery, List.length_map]
      exact List.length_take_le _ _
    refine ⟨_, held, fun _ => ?_⟩
    rw [start, held]
    exact PendingLookup.exact_of_nodup distinct few
  cases started with
  | lookupNode target =>
    refine first target none ?_
    rw [Lookup.lookupNode, DhtClient.startLookupNode, Lookup.advance_eq]
  | findValue key =>
    refine first { id := key } (some key) ?_
    rw [Lookup.findValue, DhtClient.startFindValue, Lookup.advance_eq]

/-- Picking a query does not change the shortlist. -/
theorem exact_nextQuery_iff {pending : PendingLookup} {learned : Finset NodeID} :
    pending.nextQuery.2.Exact learned ↔ pending.Exact learned := by
  have sameIds : pending.nextQuery.2.ids = pending.ids := by
    rw [PendingLookup.ids, PendingLookup.shortlist_nextQuery, PendingLookup.ids]
  constructor
  · rintro ⟨distinct, nearest⟩
    rw [sameIds] at distinct nearest
    rw [PendingLookup.target_nextQuery] at nearest
    exact ⟨distinct, nearest⟩
  · rintro ⟨distinct, nearest⟩
    refine ⟨?_, ?_⟩
    · rw [sameIds]
      exact distinct
    · rw [sameIds, PendingLookup.target_nextQuery]
      exact nearest

/-- An answer leaves an exact shortlist exact if and only if it keeps to the condition. -/
theorem exact_step_iff {trace : LookupTrace} (exact : trace.Exact) (answer : Answer) :
    (trace.step answer).Exact ↔ trace.AnswerSpares answer := by
  obtain ⟨pending, held, shortlist⟩ := exact
  cases going : trace.lookup.next with
  | none =>
    have same : trace.step answer = trace := by
      simp only [step, going, Lookup.step_ended going, Option.isSome_none, if_false,
        Bool.false_eq_true]
    rw [same]
    refine iff_of_true ⟨pending, held, shortlist⟩ ?_
    cases answer with
    | timeout => trivial
    | response operation sender now clock =>
      intro _ waits
      rw [going] at waits
      cases waits
  | some query =>
    have learned : (trace.step answer).learned =
        trace.learned ∪ (answer.listed.map Prod.fst).toFinset := by
      simp only [step, going, Option.isSome_some, if_true]
    cases answer with
    | timeout =>
      obtain ⟨_, after⟩ := Lookup.step_uncarried going held (show Answer.timeout.carried = none from
        rfl)
      refine iff_of_true ⟨_, after, fun unfound => ?_⟩ trivial
      rw [PendingLookup.foundValue_nextQuery] at unfound
      rw [learned, exact_nextQuery_iff]
      simpa [Answer.listed, PendingLookup.answered] using shortlist unfound
    | response operation sender now clock =>
      cases carries : operation.carried with
      | some value =>
        have carried : (Answer.response operation sender now clock).carried = some value := carries
        obtain ⟨_, after⟩ := Lookup.step_carried going held carried
        refine iff_of_true ⟨_, after, fun unfound => ?_⟩ ?_
        · simp only [PendingLookup.answered, carries] at unfound
          cases unfound
        · intro _ _ _ _ uncarried
          rw [carries] at uncarried
          cases uncarried
      | none =>
        obtain ⟨_, after⟩ := Lookup.step_uncarried going held
          (show (Answer.response operation sender now clock).carried = none from carries)
        have settled : pending.answered (.response operation sender now clock) =
            (pending.told operation.listed).settle := by
          simp only [PendingLookup.answered, carries]
        rw [settled] at after
        have unfound_iff : (pending.told operation.listed).settle.nextQuery.2.foundValue =
            pending.foundValue := PendingLookup.foundValue_nextQuery _
        constructor
        · rintro ⟨last, lastHeld, lastExact⟩ other _ otherHeld unfound _
          rw [held] at otherHeld
          obtain rfl := Option.some.inj otherHeld
          rw [show last = _ from Option.some.inj (lastHeld.symm.trans after)] at lastExact
          rw [learned, exact_nextQuery_iff, unfound_iff] at lastExact
          exact (PendingLookup.exact_settle_iff (shortlist unfound)).mp (lastExact unfound)
        · intro spares
          refine ⟨_, after, fun unfound => ?_⟩
          rw [unfound_iff] at unfound
          rw [learned, exact_nextQuery_iff]
          exact (PendingLookup.exact_settle_iff (shortlist unfound)).mpr
            (spares pending (by rw [going]; rfl) held unfound carries)

/-- Over every run of a lookup, the shortlist is exact after every answer if and only if every
answer spares its repetitions. -/
theorem shortlist_exact_iff {client : DhtClient} {routing : RoutingTable}
    (reachable : routing.Reachable) {lookup : Lookup} (started : Lookup.Start client routing lookup)
    (answers : List Answer) :
    Run.Along step (fun trace answer => (trace.step answer).Exact) (start lookup) answers ↔
      Run.Along step AnswerSpares (start lookup) answers := by
  refine Run.along_iff ?_ ?_ (exact_start reachable started) answers
  · exact fun trace answer exact => exact_step_iff exact answer
  · exact fun _ _ _ kept => kept

/-! ### A node that is told of again -/

def sampleNode (value : Nat) : NodeID where
  id := ⟨toBeBytes 32 value, length_toBeBytes 32 value⟩

def sampleAddr : SocketAddr := .v4 (Octets.zero 4) 9000

/-- The table of node `0`, which knows the nodes `1` and `2`. -/
def sampleTable : RoutingTable :=
  (((RoutingTable.new (sampleNode 0)).addNode (sampleNode 1) sampleAddr 0).2.addNode
    (sampleNode 2) sampleAddr 0).2

/-- A lookup of node `0` for itself. -/
def sampleLookup : Lookup := .lookupNode (.new (sampleNode 0)) sampleTable (sampleNode 0)

/-- Node `1` answers with some nodes. -/
def sampleAnswer (listed : List Nat) : Answer :=
  .response (.nodes (sampleNode 1) (listed.map fun value => (sampleNode value, sampleAddr)))
    sampleAddr 0 fun _ => 0

theorem sampleTable_reachable : sampleTable.Reachable :=
  ⟨sampleNode 0, (Relation.ReflTransGen.single ⟨.addNode (sampleNode 1) sampleAddr 0, rfl⟩).tail
    ⟨.addNode (sampleNode 2) sampleAddr 0, rfl⟩⟩

/-- A response that lists node `2`, which the shortlist has already, enters it twice. -/
theorem repeated_node_listed_twice : ∃ client routing lookup answers,
    routing.Reachable ∧ Lookup.Start client routing lookup ∧
      ¬ Run.Along step (fun trace answer => (trace.step answer).Exact) (start lookup) answers := by
  refine ⟨_, _, sampleLookup, [sampleAnswer [2]], sampleTable_reachable, .lookupNode (sampleNode 0),
    ?_⟩
  rintro ⟨⟨pending, held, exact⟩, _⟩
  have ends : ((start sampleLookup).step (sampleAnswer [2])).lookup.client.pending.all (fun last =>
      last.foundValue = none ∧ ¬ last.ids.Nodup) = true := by
    decide +kernel
  rw [held, Option.all_some, decide_eq_true_iff] at ends
  exact ends.2 (exact ends.1).distinct

/-- A response that lists new nodes leaves the shortlist exact. -/
theorem new_nodes_exact : ((start sampleLookup).step (sampleAnswer [3, 4])).Exact := by
  have spares : (start sampleLookup).AnswerSpares (sampleAnswer [3, 4]) := by
    intro pending _ held _ _ id twice
    have distinct : (start sampleLookup).lookup.client.pending.all (fun pending =>
        (pending.told ([3, 4].map fun value => (sampleNode value, sampleAddr))).ids.Nodup) =
          true := by
      decide +kernel
    rw [held, Option.all_some, decide_eq_true_iff] at distinct
    have once := List.nodup_iff_count_le_one.mp distinct id
    exact absurd twice (not_le.mpr (Nat.lt_succ_of_le once))
  have run := (shortlist_exact_iff sampleTable_reachable (.lookupNode (sampleNode 0))
    [sampleAnswer [3, 4]]).mpr ⟨spares, trivial⟩
  exact run.1

end LookupTrace

end Insub
