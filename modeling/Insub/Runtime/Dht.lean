/-
This file models the part of `runtime.rs` that works on the distributed hash table: what a
lookup takes from the pile of packets as the answer to its query, what it does with the
answer, and what the server does with the rest of the pile.
-/

import Mathlib
import Insub.Dht.Lookup
import Insub.Dht.Node

namespace Insub

open Rust

/-- A packet as it waits on a pile, with the address it came from. -/
abbrev PileItem := Packet × SocketAddr

/-! ### Waiting for an answer -/

/-- Whether a packet is not for the lookup: server queries, and responses to none of its
queries. -/
def skipInLookup (packet : Packet) : Bool :=
  match packet.payload.data with
  | [] => false
  | tag :: _ => tag ∈ ([1, 2, 3, 5, 6, 7] : List UInt8)

/-- `recv_dht`: take packets from the front of the pile until one is an answer from the address
that was asked. The others go to the back. Every turn of the loop comes with the packets that
have arrived since the last; after the last turn, the time is over. -/
def recvDht (expected : SocketAddr) : (turns : List (List PileItem)) → (pile : List PileItem) →
    Outcome (DhtOperation × SocketAddr) × List PileItem
  | [], pile => (.error (.error "dht recv timed out"), pile)
  | arrivals :: turns, pile =>
    match pile ++ arrivals with
    | [] => recvDht expected turns []
    | (packet, sender) :: rest =>
      if sender ≠ expected ∨ skipInLookup packet = true then
        recvDht expected turns (rest ++ [(packet, sender)])
      else
        (((DhtOperation.fromSerialized packet.payload.data).inContext "bad dht response").map
          fun operation => (operation, sender), rest)

/-! ### The runtime -/

/-- The fields of the runtime that are about the hash table. -/
structure DhtRuntime where
  id : NodeID
  address : SocketAddr
  routing : RoutingTable
  client : DhtClient
  server : Option DhtNode

namespace DhtRuntime

def bind (id : NodeID) (address : SocketAddr) : DhtRuntime where
  id := id
  address := address
  routing := RoutingTable.new id
  client := DhtClient.new id
  server := none

def enableServer (runtime : DhtRuntime) : DhtRuntime :=
  { runtime with server := some (DhtNode.new runtime.id runtime.address) }

/-- What `join`, `lookup_node` and `find_value` do with an answer: enter the sender, ping the
node that this selects, and hand the answer to the client. The operations are sent in their
order, the next query last. -/
def takeAnswer (runtime : DhtRuntime) (response : DhtOperation) (sender : SocketAddr)
    (now : Instant) (clock : Nat → Instant) : List (DhtOperation × SocketAddr) × DhtRuntime :=
  match runtime.routing.addNode response.senderId sender now with
  | (toPing, routing) =>
    let pings := toPing.toList.map fun (_, pingAddr) => (DhtOperation.ping runtime.id, pingAddr)
    match runtime.client.handleResponse response routing clock with
    | ((next, _), client, routing) => (pings ++ next.toList, { runtime with client, routing })

/-- What they do when no answer comes. -/
def giveUp (runtime : DhtRuntime) : List (DhtOperation × SocketAddr) × DhtRuntime :=
  match runtime.client.skipNode with
  | ((next, _), client) => (next.toList, { runtime with client })

/-- What `tick_server` does with a packet from the pile. Without a server, the packet is
dropped. -/
def serve (runtime : DhtRuntime) (packet : Packet) (sender : SocketAddr) (now : Instant)
    (clock : Nat → Instant) : Outcome (List (DhtOperation × SocketAddr)) × DhtRuntime :=
  match runtime.server with
  | none => (.ok [], runtime)
  | some server =>
    match server.process packet sender runtime.routing now clock with
    | (response, server, routing) =>
      (response.map Option.toList, { runtime with server := some server, routing })

/-- The end of `tick_server`. -/
def evictStale (runtime : DhtRuntime) (now : Instant) : DhtRuntime :=
  { runtime with routing := runtime.routing.evictStale now }

end DhtRuntime

end Insub
