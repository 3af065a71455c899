/-
This file models `dht/client.rs`: the iterative lookup. A lookup keeps a shortlist of nodes,
asks the closest one it has not asked yet, and takes the nodes it is told of into the
shortlist, which it sorts by distance and cuts.
-/

import Mathlib
import Insub.Dht.Protocol
import Insub.Dht.Routing

namespace Insub

open Rust

structure PendingLookup where
  target : NodeID
  findValueKey : Option Key
  shortlist : NodeList
  queried : Finset NodeID
  foundValue : Option Bytes

namespace PendingLookup

/-- A lookup that has queried no node yet. -/
def start (target : NodeID) (findValueKey : Option Key) (shortlist : NodeList) : PendingLookup where
  target := target
  findValueKey := findValueKey
  shortlist := shortlist
  queried := ∅
  foundValue := none

/-- Pick the closest node that was not queried yet, and mark it as queried. -/
def nextQuery (pending : PendingLookup) : Option (NodeID × SocketAddr) × PendingLookup :=
  let unqueried := pending.shortlist.filter fun (id, _) => id ∉ pending.queried
  match unqueried.argmin fun (id, _) => pending.target.remoteness id with
  | none => (none, pending)
  | some (id, addr) => (some (id, addr), { pending with queried := insert id pending.queried })

/-- The shortlist, sorted by distance to the target and cut. -/
def settle (pending : PendingLookup) : PendingLookup :=
  { pending with
    shortlist := (Nearest.sortByKey (fun (id, _) => pending.target.remoteness id)
      pending.shortlist).take Routing.k }

end PendingLookup

/-- The nodes an operation brings to a lookup. -/
def DhtOperation.listed : DhtOperation → NodeList
  | .nodes _ listed => listed
  | .value _ _ _ closestNodes => closestNodes
  | _ => []

/-- The value an operation carries. -/
def DhtOperation.carried : DhtOperation → Option Bytes
  | .value _ _ held _ => held
  | _ => none

/-- `add_node` for every node of a list, each at its own time. The node to ping that it may
return is dropped. -/
def RoutingTable.learn (table : RoutingTable) : NodeList → (Nat → Instant) → RoutingTable
  | [], _ => table
  | (id, addr) :: rest, clock =>
    (table.addNode id addr (clock 0)).2.learn rest fun index => clock (index + 1)

structure DhtClient where
  id : NodeID
  pending : Option PendingLookup

namespace DhtClient

def new (id : NodeID) : DhtClient where
  id := id
  pending := none

/-- The operation that a lookup sends to the nodes it queries. -/
def query (client : DhtClient) (pending : PendingLookup) : DhtOperation :=
  match pending.findValueKey with
  | some key => .findValue client.id key
  | none => .findNode client.id pending.target

/-- The end of every step of a lookup: the next query, if there is a node left to ask. -/
def advance (client : DhtClient) (pending : PendingLookup) :
    Option (DhtOperation × SocketAddr) × DhtClient :=
  match pending.nextQuery with
  | (some (_, addr), pending) =>
    (some (client.query pending, addr), { client with pending := some pending })
  | (none, pending) => (none, { client with pending := some pending })

/-- Seeds have an address only, and get an empty identifier. -/
def startJoin (client : DhtClient) (seeds : List SocketAddr) :
    Option (DhtOperation × SocketAddr) × DhtClient :=
  client.advance (.start client.id none (seeds.map fun seed => ({ id := Octets.zero 32 }, seed)))

def startLookupNode (client : DhtClient) (target : NodeID) (routing : RoutingTable) :
    Option (DhtOperation × SocketAddr) × DhtClient :=
  client.advance (.start target none (routing.closestNodes target Routing.k))

def startFindValue (client : DhtClient) (key : Key) (routing : RoutingTable) :
    Option (DhtOperation × SocketAddr) × DhtClient :=
  client.advance (.start { id := key } (some key) (routing.closestNodes { id := key } Routing.k))

/-- The next query and whether the lookup is done, the client and the routing table. -/
def handleResponse (client : DhtClient) (operation : DhtOperation) (routing : RoutingTable)
    (clock : Nat → Instant) :
    (Option (DhtOperation × SocketAddr) × Bool) × DhtClient × RoutingTable :=
  match client.pending with
  | none => ((none, true), client, routing)
  | some pending =>
    let routing := routing.learn operation.listed clock
    let pending := { pending with shortlist := pending.shortlist ++ operation.listed }
    match operation.carried with
    | some value =>
      ((none, true), { client with pending := some { pending with foundValue := some value } },
        routing)
    | none =>
      match client.advance pending.settle with
      | (next, client) => ((next, next.isNone), client, routing)

def skipNode (client : DhtClient) : (Option (DhtOperation × SocketAddr) × Bool) × DhtClient :=
  match client.pending with
  | none => ((none, true), client)
  | some pending =>
    match client.advance pending with
    | (next, client) => ((next, next.isNone), client)

end DhtClient

end Insub
