/-
This file models `dht/routing.rs`: the nodes a client knows, in 256 buckets by the first bit
in which their identifier differs from the client's own. A bucket has entries in service and
candidates that wait for a place.

The tables that calls can reach hold every identifier once, in its own bucket. So the nodes
closest to a target, which a lookup starts from, are distinct.
-/

import Mathlib
import Insub.Dht.NodeId
import Insub.Library.Nearest
import Insub.Library.Run
import Insub.Protocol.Wire

namespace Insub

open Rust

namespace Routing

/-- The size of a bucket, and of the answer to a lookup. -/
def k : Nat := 20

def pingCooldown : Nat := seconds 60

def staleThreshold : Nat := seconds 120

end Routing

structure Entry where
  id : NodeID
  addr : SocketAddr
  lastSeen : Instant
  lastPinged : Option Instant

structure Bucket where
  active : List Entry
  candidates : List Entry

namespace Bucket

def new : Bucket where
  active := []
  candidates := []

def entryPosition (list : List Entry) (id : NodeID) : Option Nat :=
  list.findIdx? fun entry => entry.id = id

/-- The oldest active entry that was not pinged recently, which is marked as pinged. -/
def pingOldest (bucket : Bucket) (now : Instant) : Option (NodeID × SocketAddr) × Bucket :=
  let pingable := bucket.active.zipIdx.filter fun (entry, _) =>
    entry.lastPinged.all fun pinged => durationSince now pinged > Routing.pingCooldown
  match pingable.argmin fun (entry, _) => entry.lastSeen with
  | none => (none, bucket)
  | some (entry, position) =>
    (some (entry.id, entry.addr), { bucket with
      active := bucket.active.set position { entry with lastPinged := some now } })

/-- The part of `add_node` that follows the choice of the bucket. -/
def addNode (bucket : Bucket) (node : NodeID) (addr : SocketAddr) (now : Instant) :
    Option (NodeID × SocketAddr) × Bucket :=
  let entry : Entry := { id := node, addr, lastSeen := now, lastPinged := none }
  match entryPosition bucket.active node with
  | some position =>
    (none, { bucket with active := bucket.active.eraseIdx position ++ [entry] })
  | none =>
    match entryPosition bucket.candidates node with
    | some position =>
      (none, { bucket with candidates := bucket.candidates.eraseIdx position ++ [entry] })
    | none =>
      if bucket.active.length < Routing.k then
        (none, { bucket with active := bucket.active ++ [entry] })
      else if bucket.candidates.length < Routing.k then
        { bucket with candidates := bucket.candidates ++ [entry] }.pingOldest now
      -- both full, silently dropped
      else (none, bucket)

def removeNode (bucket : Bucket) (node : NodeID) : Bucket where
  active := bucket.active.filter fun entry => entry.id ≠ node
  candidates := bucket.candidates.filter fun entry => entry.id ≠ node

/-- Pinged without an answer since. -/
def isStale (now : Instant) (entry : Entry) : Bool :=
  entry.lastPinged.any fun pinged =>
    durationSince now pinged > Routing.staleThreshold ∧ entry.lastSeen < pinged

/-- The loop over the active entries that moves the stale ones to the candidates. -/
def moveStale (now : Instant) : List Entry → List Entry → List Entry × List Entry
  | [], candidates => ([], candidates)
  | entry :: rest, candidates =>
    if isStale now entry then
      moveStale now rest
        (if candidates.length < Routing.k then candidates ++ [entry] else candidates)
    else
      match moveStale now rest candidates with
      | (active, candidates) => (entry :: active, candidates)

/-- The loop that fills the active list from the freshest candidates. The room that is left
in the list counts down. Of several candidates that are equally fresh, `max_by_key` takes the
last. -/
def promote : (room : Nat) → List Entry → List Entry → List Entry × List Entry
  | 0, active, candidates => (active, candidates)
  | room + 1, active, candidates =>
    match candidates.zipIdx.reverse.argmax fun (entry, _) => entry.lastSeen with
    | none => (active, candidates)
    | some (entry, position) => promote room (active ++ [entry]) (candidates.eraseIdx position)

def evictStale (bucket : Bucket) (now : Instant) : Bucket :=
  let candidates := bucket.candidates.filter fun entry =>
    durationSince now entry.lastSeen < Routing.staleThreshold
  match moveStale now bucket.active candidates with
  | (active, candidates) =>
    match promote (Routing.k - active.length) active candidates with
    | (active, candidates) => { active, candidates }

end Bucket

structure RoutingTable where
  localId : NodeID
  buckets : Fin 256 → Bucket

namespace RoutingTable

def new (localId : NodeID) : RoutingTable where
  localId := localId
  buckets _ := Bucket.new

/-- The index of the bucket of a node. -/
def bucket (table : RoutingTable) (node : NodeID) : Fin 256 :=
  match first : table.localId.leadingZeroBits node with
  | some bits => ⟨bits, NodeID.leadingZeroBits_lt first⟩
  | none => 255

/-- Write one bucket back. -/
def put (table : RoutingTable) (index : Fin 256) (bucket : Bucket) : RoutingTable :=
  { table with buckets := Function.update table.buckets index bucket }

def addNode (table : RoutingTable) (node : NodeID) (addr : SocketAddr) (now : Instant) :
    Option (NodeID × SocketAddr) × RoutingTable :=
  if node = table.localId then (none, table)
  else
    match (table.buckets (table.bucket node)).addNode node addr now with
    | (toPing, bucket) => (toPing, table.put (table.bucket node) bucket)

def removeNode (table : RoutingTable) (node : NodeID) : RoutingTable :=
  table.put (table.bucket node) ((table.buckets (table.bucket node)).removeNode node)

def needsPing (table : RoutingTable) (target : NodeID) (now : Instant) :
    Option (NodeID × SocketAddr) × RoutingTable :=
  match (table.buckets (table.bucket target)).pingOldest now with
  | (toPing, bucket) => (toPing, table.put (table.bucket target) bucket)

def evictStale (table : RoutingTable) (now : Instant) : RoutingTable :=
  { table with buckets := fun index => (table.buckets index).evictStale now }

/-- The nodes in service in a bucket. -/
def activeNodes (table : RoutingTable) (index : Fin 256) : List (NodeID × SocketAddr) :=
  (table.buckets index).active.map fun entry => (entry.id, entry.addr)

/-- The buckets `above` and `below` the start once the loop has moved both by an offset, as far
as they lie in the table. -/
def bucketsAt (start : Fin 256) (offset : Nat) : List (Fin 256) :=
  (if offset ≤ start then [⟨start - offset, by omega⟩] else []) ++
    (if inside : start + offset < 256 then [⟨start + offset, inside⟩] else [])

/-- The loop of `closest_nodes`, which goes on while too few nodes were found. -/
def gather (table : RoutingTable) (start : Fin 256) (count : Nat) :
    (offsets : List Nat) → List (NodeID × SocketAddr) → List (NodeID × SocketAddr)
  | [], out => out
  | offset :: rest, out =>
    if out.length < count then
      table.gather start count rest (out ++ (bucketsAt start offset).flatMap table.activeNodes)
    else out

def closestNodes (table : RoutingTable) (target : NodeID) (count : Nat) :
    List (NodeID × SocketAddr) :=
  let start := table.bucket target
  let out := table.gather start count (List.range' 1 255) (table.activeNodes start)
  (Nearest.sortByKey (fun (id, _) => target.remoteness id) out).take count

end RoutingTable

end Insub
