/-
This file proves what an operation does to the entries of nodes other than its sender. The
nodes it lists are entered as if they had spoken themselves: an entry that a listed node has
already is replaced, with the address the operation gives, as seen just now, and without the
mark of an unanswered ping. So the other entries are left alone exactly as long as no other
node that is listed has one.
-/

import Mathlib
import Insub.Dht.Node
import Insub.Dht.Representation
import Insub.Dht.Shortlist

namespace Insub

open Rust

/-- A node that a bucket holds gets a new entry there. -/
theorem Bucket.addNode_refreshes {bucket : Bucket} {node : NodeID} {entry : Entry}
    (member : entry ∈ bucket.active ++ bucket.candidates) (same : entry.id = node)
    (addr : SocketAddr) (now : Instant) :
    let fresh : Entry := { id := node, addr, lastSeen := now, lastPinged := none }
    fresh ∈ (bucket.addNode node addr now).2.active ∨
      fresh ∈ (bucket.addNode node addr now).2.candidates := by
  have known : node ∈ bucket.ids := by
    rw [ids, Multiset.coe_add, Multiset.mem_coe, ← List.map_append, ← same]
    exact List.mem_map_of_mem member
  have enters := bucket.addNode_enters node addr now
  dsimp only
  generalize bucket.addNode node addr now = result at enters ⊢
  cases enters with
  | active => exact Or.inl (List.mem_append_right _ (List.mem_singleton_self _))
  | waiting => exact Or.inr (List.mem_append_right _ (List.mem_singleton_self _))
  | served fresh => exact absurd known fresh
  | queued fresh => exact absurd known fresh
  | dropped fresh => exact absurd known fresh

namespace RoutingTable

/-- The table has the entry, in service or waiting. -/
def Holds (table : RoutingTable) (entry : Entry) : Prop :=
  ∃ index, entry ∈ (table.buckets index).active ∨ entry ∈ (table.buckets index).candidates

/-- The table has an entry of the node. -/
def Knows (table : RoutingTable) (id : NodeID) : Prop := ∃ entry, table.Holds entry ∧ entry.id = id

/-- The entries of all nodes but one are still there. -/
def LeavesOthers (speaker : NodeID) (before after : RoutingTable) : Prop :=
  ∀ entry, before.Holds entry → entry.id ≠ speaker → ∃ kept, after.Holds kept ∧ entry.Kept kept

theorem LeavesOthers.trans {speaker : NodeID} {first second third : RoutingTable}
    (one : LeavesOthers speaker first second) (other : LeavesOthers speaker second third) :
    LeavesOthers speaker first third := by
  intro entry held different
  obtain ⟨kept, keptHeld, same⟩ := one entry held different
  obtain ⟨last, lastHeld, still⟩ := other kept keptHeld (same.id ▸ different)
  exact ⟨last, lastHeld, same.trans still⟩

/-! ### Entering one node -/

/-- An entry is in the bucket of its node, which is not the table's own. -/
theorem Placed.place {table : RoutingTable} (placed : table.Placed) {entry : Entry}
    (held : table.Holds entry) : entry.id ≠ table.localId ∧
      entry ∈ (table.buckets (table.bucket entry.id)).active ++
        (table.buckets (table.bucket entry.id)).candidates := by
  obtain ⟨index, either⟩ := held
  rw [← List.mem_append] at either
  have belongs : table.Belongs index entry.id := by
    refine (placed index).placed entry.id ?_
    rw [Bucket.ids, Multiset.coe_add, Multiset.mem_coe, ← List.map_append]
    exact List.mem_map_of_mem either
  refine ⟨belongs.1, ?_⟩
  rw [belongs.2]
  exact either

/-- A node has one entry. -/
theorem Placed.unique {table : RoutingTable} (placed : table.Placed) {first second : Entry}
    (one : table.Holds first) (other : table.Holds second) (same : first.id = second.id) :
    first = second := by
  have inFirst := (placed.place one).2
  have inSecond := (placed.place other).2
  rw [← same] at inSecond
  have distinct := (placed (table.bucket first.id)).distinct
  rw [Bucket.ids, Multiset.coe_add, Multiset.coe_nodup, ← List.map_append] at distinct
  exact List.inj_on_of_nodup_map distinct inFirst inSecond same

theorem addNode_leavesOthers (table : RoutingTable) (node : NodeID) (addr : SocketAddr)
    (now : Instant) : LeavesOthers node table (table.addNode node addr now).2 := by
  rintro entry ⟨index, active | waiting⟩ different
  · obtain ⟨kept, member, same⟩ := (table.addNode_keeps node addr now index).1 entry active different
    exact ⟨kept, ⟨index, Or.inl member⟩, same⟩
  · obtain ⟨kept, member, same⟩ := (table.addNode_keeps node addr now index).2 entry waiting different
    exact ⟨kept, ⟨index, Or.inr member⟩, same⟩

/-- A node that has an entry gets a new one. -/
theorem addNode_refreshes {table : RoutingTable} (placed : table.Placed) {node : NodeID}
    (known : table.Knows node) (addr : SocketAddr) (now : Instant) :
    (table.addNode node addr now).2.Holds
      { id := node, addr, lastSeen := now, lastPinged := none } := by
  obtain ⟨entry, held, rfl⟩ := known
  obtain ⟨other, member⟩ := placed.place held
  have refreshed := Bucket.addNode_refreshes member rfl addr now
  refine ⟨table.bucket entry.id, ?_⟩
  rw [addNode, if_neg other]
  dsimp only [put]
  rw [Function.update_self]
  exact refreshed

/-! ### Entering a list of nodes -/

theorem Placed.learn {table : RoutingTable} (placed : table.Placed) (listed : NodeList)
    (clock : Nat → Instant) : (table.learn listed clock).Placed := by
  induction listed generalizing table clock with
  | nil => exact placed
  | cons node rest inductionHypothesis =>
    exact inductionHypothesis (placed.perform (.addNode node.1 node.2 (clock 0))) _

theorem learn_keeps (table : RoutingTable) {listed : NodeList} {entry : Entry}
    (unlisted : entry.id ∉ listed.map Prod.fst) (held : table.Holds entry)
    (clock : Nat → Instant) : ∃ kept, (table.learn listed clock).Holds kept ∧ entry.Kept kept := by
  induction listed generalizing table clock entry with
  | nil => exact ⟨entry, held, .refl entry⟩
  | cons node rest inductionHypothesis =>
    rw [List.map_cons, List.mem_cons, not_or] at unlisted
    obtain ⟨kept, keptHeld, same⟩ :=
      table.addNode_leavesOthers node.1 node.2 (clock 0) entry held unlisted.1
    rw [← same.id] at unlisted
    obtain ⟨last, lastHeld, still⟩ := inductionHypothesis _ unlisted.2 keptHeld _
    exact ⟨last, lastHeld, same.trans still⟩

/-- What a table holds of a listed node that it knows is as new as the list. -/
theorem learn_refreshes {table : RoutingTable} (placed : table.Placed) {listed : NodeList}
    {id : NodeID} (known : table.Knows id) (told : id ∈ listed.map Prod.fst)
    (clock : Nat → Instant) {entry : Entry} (held : (table.learn listed clock).Holds entry)
    (same : entry.id = id) : ∃ index, entry.lastSeen = clock index := by
  induction listed generalizing table clock with
  | nil => cases told
  | cons node rest inductionHypothesis =>
    obtain ⟨nodeId, addr⟩ := node
    have placedNext : (table.addNode nodeId addr (clock 0)).2.Placed :=
      placed.perform (.addNode nodeId addr (clock 0))
    by_cases later : id ∈ rest.map Prod.fst
    · have knownNext : (table.addNode nodeId addr (clock 0)).2.Knows id := by
        by_cases here : id = nodeId
        · subst here
          exact ⟨_, addNode_refreshes placed known addr (clock 0), rfl⟩
        · obtain ⟨before, beforeHeld, rfl⟩ := known
          obtain ⟨kept, keptHeld, still⟩ :=
            table.addNode_leavesOthers nodeId addr (clock 0) before beforeHeld here
          exact ⟨kept, keptHeld, still.id⟩
      obtain ⟨index, seen⟩ := inductionHypothesis placedNext knownNext later _ held
      exact ⟨index + 1, seen⟩
    · obtain rfl : id = nodeId := (List.mem_cons.mp told).resolve_right later
      obtain ⟨kept, keptHeld, still⟩ := learn_keeps _ later
        (addNode_refreshes placed known addr (clock 0)) fun index => clock (index + 1)
      have last : entry = kept :=
        (placedNext.learn rest _).unique held keptHeld (same.trans still.id.symm)
      exact ⟨0, last ▸ still.lastSeen⟩

end RoutingTable

/-! ### Processing an operation -/

/-- The server enters the sender and then the nodes that are listed. -/
theorem DhtNode.routing_processOp (node : DhtNode) (operation : DhtOperation) (sender : SocketAddr)
    (table : RoutingTable) (now : Instant) (clock : Nat → Instant) :
    (node.processOp operation sender table now clock).2.2 =
      (table.addNode operation.senderId sender now).2.learn operation.listed clock := by
  cases operation <;> rfl

/-- A client that has a lookup enters the nodes that are listed. -/
theorem DhtClient.routing_handleResponse (client : DhtClient) (operation : DhtOperation)
    (table : RoutingTable) (clock : Nat → Instant) :
    (client.handleResponse operation table clock).2.2 =
      table.learn (if client.pending.isSome then operation.listed else []) clock := by
  rw [handleResponse]
  cases client.pending with
  | none => rfl
  | some pending =>
    dsimp only
    cases operation.carried <;> rfl

/-- Who processes an operation: the server, or the lookup of the client. -/
inductive Listener
  | server (node : DhtNode) (sender : SocketAddr) (now : Instant)
  | client (asking : DhtClient)

namespace Listener

/-- The routing table once the operation is processed. -/
def process (listener : Listener) (operation : DhtOperation) (table : RoutingTable)
    (clock : Nat → Instant) : RoutingTable :=
  match listener with
  | .server node sender now => (node.processOp operation sender table now clock).2.2
  | .client asking => (asking.handleResponse operation table clock).2.2

/-- The nodes that are entered beside the sender. A client that has no lookup enters none. -/
def heard (listener : Listener) (operation : DhtOperation) : NodeList :=
  match listener with
  | .server .. => operation.listed
  | .client asking => if asking.pending.isSome then operation.listed else []

/-- No node that is heard of, save for the sender, is in the table. -/
def NamesStrangers (listener : Listener) (operation : DhtOperation) (table : RoutingTable) : Prop :=
  ∀ id ∈ (listener.heard operation).map Prod.fst, id ≠ operation.senderId → ¬ table.Knows id

/-- The server enters the sender, and then both enter what they hear. -/
theorem process_eq (listener : Listener) (operation : DhtOperation) (table : RoutingTable)
    (clock : Nat → Instant) :
    listener.process operation table clock = table.learn (listener.heard operation) clock ∨
      ∃ sender now, listener.process operation table clock =
        (table.addNode operation.senderId sender now).2.learn (listener.heard operation) clock := by
  cases listener with
  | server node sender now =>
    exact Or.inr ⟨sender, now, node.routing_processOp operation sender table now clock⟩
  | client asking => exact Or.inl (asking.routing_handleResponse operation table clock)

/-- If only strangers are listed, the entries of all other nodes are left alone. If one has an
entry, and time has passed since it was last seen, they are not. -/
theorem process_leavesOthers_iff (listener : Listener) (operation : DhtOperation)
    {table : RoutingTable} (reachable : table.Reachable) (clock : Nat → Instant) :
    (listener.NamesStrangers operation table → RoutingTable.LeavesOthers operation.senderId table
        (listener.process operation table clock)) ∧
      ((∀ entry index, table.Holds entry → entry.lastSeen < clock index) →
        RoutingTable.LeavesOthers operation.senderId table
          (listener.process operation table clock) →
            listener.NamesStrangers operation table) := by
  have keep (entered : RoutingTable)
      (others : RoutingTable.LeavesOthers operation.senderId table entered)
      (strangers : listener.NamesStrangers operation table) :
      RoutingTable.LeavesOthers operation.senderId table
        (entered.learn (listener.heard operation) clock) := by
    intro entry held different
    obtain ⟨kept, keptHeld, same⟩ := others entry held different
    have unlisted : kept.id ∉ (listener.heard operation).map Prod.fst := by
      rw [same.id]
      exact fun told => strangers entry.id told different ⟨entry, held, rfl⟩
    obtain ⟨last, lastHeld, still⟩ := entered.learn_keeps unlisted keptHeld clock
    exact ⟨last, lastHeld, same.trans still⟩
  have alter (entered : RoutingTable) (placed : entered.Placed)
      (others : RoutingTable.LeavesOthers operation.senderId table entered)
      (later : ∀ entry index, table.Holds entry → entry.lastSeen < clock index)
      (leaves : RoutingTable.LeavesOthers operation.senderId table
        (entered.learn (listener.heard operation) clock)) :
      listener.NamesStrangers operation table := by
    rintro id told different ⟨entry, held, rfl⟩
    obtain ⟨kept, keptHeld, same⟩ := others entry held different
    obtain ⟨last, lastHeld, still⟩ := leaves entry held different
    obtain ⟨index, seen⟩ := RoutingTable.learn_refreshes placed ⟨kept, keptHeld, same.id⟩ told clock
      lastHeld still.id
    have past := later entry index held
    rw [← seen, still.lastSeen] at past
    exact absurd past (lt_irrefl _)
  have placed := reachable.placed
  rcases listener.process_eq operation table clock with same | ⟨sender, now, same⟩
  · rw [same]
    have others : RoutingTable.LeavesOthers operation.senderId table table :=
      fun entry held _ => ⟨entry, held, .refl entry⟩
    exact ⟨keep table others, alter table placed others⟩
  · rw [same]
    have others := table.addNode_leavesOthers operation.senderId sender now
    have entered : (table.addNode operation.senderId sender now).2.Placed :=
      placed.perform (.addNode operation.senderId sender now)
    exact ⟨keep _ others, alter _ entered others⟩

/-! ### A node that is redirected -/

open LookupTrace (sampleNode sampleAddr sampleTable sampleTable_reachable)

def sampleServer : Listener := .server (.new (sampleNode 0) sampleAddr) sampleAddr (seconds 5)

/-- Node `1` says that a node is at another address. -/
def sampleRumour (value : Nat) : DhtOperation :=
  .nodes (sampleNode 1) [(sampleNode value, .v4 (Octets.zero 4) 9001)]

/-- The server believes it, although it knows node `2`. -/
theorem known_node_redirected : ∃ (listener : Listener) (operation : DhtOperation)
    (table : RoutingTable) (clock : Nat → Instant), table.Reachable ∧
      ¬ RoutingTable.LeavesOthers operation.senderId table
        (listener.process operation table clock) := by
  refine ⟨sampleServer, sampleRumour 2, sampleTable, fun _ => seconds 5, sampleTable_reachable,
    fun leaves => ?_⟩
  have known : (sampleTable.buckets (sampleTable.bucket (sampleNode 2))).active.any (fun entry =>
      entry.id = sampleNode 2 ∧ entry.addr = sampleAddr) = true := by
    decide +kernel
  obtain ⟨entry, member, here⟩ := List.any_eq_true.mp known
  obtain ⟨same, addr⟩ := of_decide_eq_true here
  have different : entry.id ≠ (sampleRumour 2).senderId := by
    rw [same]
    decide +kernel
  obtain ⟨kept, ⟨index, held⟩, still⟩ := leaves entry ⟨_, Or.inl member⟩ different
  have redirected : ∀ index, ∀ entry ∈ ((sampleServer.process (sampleRumour 2) sampleTable
      fun _ => seconds 5).buckets index).active ++ ((sampleServer.process (sampleRumour 2)
        sampleTable fun _ => seconds 5).buckets index).candidates,
          entry.id = sampleNode 2 → entry.addr ≠ sampleAddr := by
    decide +kernel
  exact redirected index kept (List.mem_append.mpr held) (still.id.trans same)
    (still.addr.trans addr)

/-- A rumour about a stranger leaves the nodes alone that are known, and one about a known node
does not, as time has passed since it was seen. -/
theorem stranger_leaves_others :
    RoutingTable.LeavesOthers (sampleRumour 3).senderId sampleTable
      (sampleServer.process (sampleRumour 3) sampleTable fun _ => seconds 5) ∧
    ¬ RoutingTable.LeavesOthers (sampleRumour 2).senderId sampleTable
      (sampleServer.process (sampleRumour 2) sampleTable fun _ => seconds 5) := by
  have strange : ∀ index, ∀ entry ∈ (sampleTable.buckets index).active ++
      (sampleTable.buckets index).candidates, entry.id ≠ sampleNode 3 := by
    decide +kernel
  have seen : ∀ index, ∀ entry ∈ (sampleTable.buckets index).active ++
      (sampleTable.buckets index).candidates, entry.lastSeen < seconds 5 := by
    decide +kernel
  have known : (sampleTable.buckets (sampleTable.bucket (sampleNode 2))).active.any (fun entry =>
      entry.id = sampleNode 2) = true := by
    decide +kernel
  constructor
  · refine (process_leavesOthers_iff sampleServer (sampleRumour 3) sampleTable_reachable _).1 ?_
    rintro id told _ ⟨entry, ⟨index, held⟩, rfl⟩
    exact strange index entry (List.mem_append.mpr held) (List.mem_singleton.mp told)
  · intro leaves
    have strangers := (process_leavesOthers_iff sampleServer (sampleRumour 2)
      sampleTable_reachable (fun _ => seconds 5)).2
        (fun entry _ ⟨index, held⟩ => seen index entry (List.mem_append.mpr held)) leaves
    obtain ⟨entry, member, same⟩ := List.any_eq_true.mp known
    exact strangers (sampleNode 2) (List.mem_singleton_self _) (by decide +kernel)
      ⟨entry, ⟨_, Or.inl member⟩, of_decide_eq_true same⟩

end Listener

end Insub
