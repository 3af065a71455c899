/-
This file models `dht/node.rs`: the server side of the hash table, which answers queries from
what it stores and from the routing table it shares with the client.
-/

import Mathlib
import Insub.Dht.Client
import Insub.Library.HashMap
import Insub.Protocol.Packet

namespace Insub

open Rust

structure DhtNode where
  id : NodeID
  addr : SocketAddr
  store : HashMap Key (Bytes × Instant)

namespace DhtNode

def new (id : NodeID) (addr : SocketAddr) : DhtNode where
  id := id
  addr := addr
  store := ∅

/-- The closest nodes to a target that are known, without the one that asks. -/
def closestTo (routing : RoutingTable) (target asking : NodeID) : NodeList :=
  (routing.closestNodes target Routing.k).filter fun (id, _) => id ≠ asking

/-- The response to an operation and its destination, the node and the routing table. The
sender is entered at the given time and the listed nodes at those of the clock. -/
def processOp (node : DhtNode) (operation : DhtOperation) (sender : SocketAddr)
    (routing : RoutingTable) (now : Instant) (clock : Nat → Instant) :
    Option (DhtOperation × SocketAddr) × DhtNode × RoutingTable :=
  let sid := operation.senderId
  -- every kind of operation enters its sender, and drops the node to ping
  let entered := (routing.addNode sid sender now).2
  match operation with
  | .ping _ => (some (.pong node.id, sender), node, entered)
  | .findNode _ targetId =>
    (some (.nodes node.id (closestTo routing targetId sid), sender), node, entered)
  | .findValue _ key =>
    let value := ((node.store.lookup key).filter fun (_, expires) => expires > now).map Prod.fst
    (some (.value node.id key value (closestTo routing { id := key } sid), sender), node, entered)
  | .store _ key value ttlSeconds =>
    let expires := now + seconds ttlSeconds.toNat
    (some (.storeAck node.id key, sender),
      { node with store := node.store.insert key (value, expires) }, entered)
  | .pong _ => (none, node, entered)
  | .nodes _ nodes => (none, node, entered.learn nodes clock)
  | .storeAck _ _ => (none, node, entered)
  | .value _ _ _ closestNodes => (none, node, entered.learn closestNodes clock)

/-- Parse and answer a packet. What does not parse is ignored. -/
def process (node : DhtNode) (packet : Packet) (sender : SocketAddr) (routing : RoutingTable)
    (now : Instant) (clock : Nat → Instant) :
    Outcome (Option (DhtOperation × SocketAddr)) × DhtNode × RoutingTable :=
  match (DhtOperation.fromSerialized packet.payload.data).asOption with
  | .error fault => (.error fault, node, routing)
  | .ok none => (.ok none, node, routing)
  | .ok (some operation) =>
    match node.processOp operation sender routing now clock with
    | (response, node, routing) => (.ok response, node, routing)

end DhtNode

end Insub
