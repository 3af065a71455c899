/-
This file models the loop that `join`, `lookup_node` and `find_value` of `runtime.rs` share:
send the query, wait for its answer, and go on with what the client makes of the answer or
of the timeout. What answers, and when, is an argument.
-/

import Mathlib
import Insub.Dht.Client

namespace Insub

open Rust

/-- What comes of a query: an operation with its sender, the time at which the sender is
entered and those at which the listed nodes are, or nothing in time. -/
inductive Answer
  | response (operation : DhtOperation) (sender : SocketAddr) (now : Instant)
      (clock : Nat → Instant)
  | timeout

/-- The state of the loop: the client, the routing table, and the next query. The loop ends
when there is none. -/
structure Lookup where
  client : DhtClient
  routing : RoutingTable
  next : Option (DhtOperation × SocketAddr)

namespace Lookup

def join (client : DhtClient) (routing : RoutingTable) (seeds : List SocketAddr) : Lookup :=
  match client.startJoin seeds with
  | (next, client) => { client, routing, next }

def lookupNode (client : DhtClient) (routing : RoutingTable) (target : NodeID) : Lookup :=
  match client.startLookupNode target routing with
  | (next, client) => { client, routing, next }

def findValue (client : DhtClient) (routing : RoutingTable) (key : Key) : Lookup :=
  match client.startFindValue key routing with
  | (next, client) => { client, routing, next }

/-- One iteration of the loop, once the query is answered. When the client is done it has no
next query. -/
def step (lookup : Lookup) (answer : Answer) : Lookup :=
  match lookup.next with
  | none => lookup
  | some _ =>
    match answer with
    | .timeout =>
      match lookup.client.skipNode with
      | ((next, _), client) => { lookup with client, next }
    | .response operation sender now clock =>
      let routing := (lookup.routing.addNode operation.senderId sender now).2
      match lookup.client.handleResponse operation routing clock with
      | ((next, _), client, routing) => { client, routing, next }

/-- The loop over a sequence of answers. -/
def run (lookup : Lookup) (answers : List Answer) : Lookup := answers.foldl step lookup

/-- The lookups that `lookup_node` and `find_value` start. -/
inductive Start (client : DhtClient) (routing : RoutingTable) : Lookup → Prop
  | lookupNode (target : NodeID) : Start client routing (lookupNode client routing target)
  | findValue (key : Key) : Start client routing (findValue client routing key)

end Lookup

/-! ### What a step does to the pending lookup -/

/-- The nodes an answer brings to a lookup. -/
def Answer.listed : Answer → NodeList
  | .response operation _ _ _ => operation.listed
  | .timeout => []

namespace PendingLookup

@[simp] theorem shortlist_nextQuery (pending : PendingLookup) :
    pending.nextQuery.2.shortlist = pending.shortlist := by
  rw [nextQuery]
  dsimp only
  split <;> rfl

@[simp] theorem target_nextQuery (pending : PendingLookup) :
    pending.nextQuery.2.target = pending.target := by
  rw [nextQuery]
  dsimp only
  split <;> rfl

@[simp] theorem foundValue_nextQuery (pending : PendingLookup) :
    pending.nextQuery.2.foundValue = pending.foundValue := by
  rw [nextQuery]
  dsimp only
  split <;> rfl

/-- The pending lookup with the nodes of an answer. -/
def told (pending : PendingLookup) (listed : NodeList) : PendingLookup :=
  { pending with shortlist := pending.shortlist ++ listed }

/-- What an answer leaves of the pending lookup of a loop that goes on, before the next query
is picked: a value ends the lookup, nodes are taken in, a timeout leaves it as it is. -/
def answered (pending : PendingLookup) : Answer → PendingLookup
  | .timeout => pending
  | .response operation _ _ _ =>
    match operation.carried with
    | some value => { pending.told operation.listed with foundValue := some value }
    | none => (pending.told operation.listed).settle

end PendingLookup

/-- An answer with a value ends the lookup. -/
def Answer.carried : Answer → Option Bytes
  | .response operation _ _ _ => operation.carried
  | .timeout => none

namespace Lookup

theorem advance_eq (client : DhtClient) (pending : PendingLookup) :
    client.advance pending =
      (pending.nextQuery.1.map fun node => (client.query pending.nextQuery.2, node.2),
        { client with pending := some pending.nextQuery.2 }) := by
  rw [DhtClient.advance]
  rcases pending.nextQuery with ⟨_ | ⟨id, addr⟩, last⟩ <;> rfl

/-- A lookup that has ended stays as it is. -/
theorem step_ended {lookup : Lookup} (ended : lookup.next = none) (answer : Answer) :
    lookup.step answer = lookup := by
  unfold step
  rw [ended]

/-- A value is the end of a lookup. -/
theorem step_carried {lookup : Lookup} {pending : PendingLookup} {query : DhtOperation × SocketAddr}
    {answer : Answer} {value : Bytes} (going : lookup.next = some query)
    (held : lookup.client.pending = some pending) (carries : answer.carried = some value) :
    (lookup.step answer).next = none ∧
      (lookup.step answer).client.pending = some (pending.answered answer) := by
  cases answer with
  | timeout => cases carries
  | response operation sender now clock =>
    have carried : operation.carried = some value := carries
    rw [step, going]
    simp only [DhtClient.handleResponse, held, carried, PendingLookup.answered,
      PendingLookup.told, true_and]

/-- Without a value, the lookup goes on as long as it picks a next query. -/
theorem step_uncarried {lookup : Lookup} {pending : PendingLookup}
    {query : DhtOperation × SocketAddr} {answer : Answer} (going : lookup.next = some query)
    (held : lookup.client.pending = some pending) (carries : answer.carried = none) :
    (lookup.step answer).next = ((pending.answered answer).nextQuery.1.map fun node =>
        (lookup.client.query (pending.answered answer).nextQuery.2, node.2)) ∧
      (lookup.step answer).client.pending = some (pending.answered answer).nextQuery.2 := by
  cases answer with
  | timeout =>
    rw [step, going]
    simp only [DhtClient.skipNode, held, advance_eq, PendingLookup.answered, and_self]
  | response operation sender now clock =>
    have carried : operation.carried = none := carries
    rw [step, going]
    simp only [DhtClient.handleResponse, held, carried, advance_eq, PendingLookup.answered,
      PendingLookup.told, and_self]

end Lookup

end Insub
