/-
This file models `dht/protocol.rs`: the operations that the nodes of the hash table send each
other, and their wire format. The parser checks the length of everything it reads, save for
the length of a value to store, which it removes from what is left.
-/

import Mathlib
import Insub.Dht.NodeId
import Insub.Protocol.Wire

namespace Insub

open Rust

/-- The nodes an operation lists, with the addresses it gives for them. -/
abbrev NodeList := List (NodeID × SocketAddr)

inductive DhtOperation
  | ping (senderId : NodeID)
  | pong (senderId : NodeID)
  | findNode (senderId targetId : NodeID)
  | nodes (senderId : NodeID) (listed : NodeList)
  | store (senderId : NodeID) (key : Key) (stored : Bytes) (ttlSeconds : U32)
  | storeAck (senderId : NodeID) (key : Key)
  | findValue (senderId : NodeID) (key : Key)
  | value (senderId : NodeID) (key : Key) (held : Option Bytes) (closestNodes : NodeList)
  deriving DecidableEq

namespace DhtOperation

def senderId : DhtOperation → NodeID
  | .ping senderId => senderId
  | .pong senderId => senderId
  | .findNode senderId _ => senderId
  | .nodes senderId _ => senderId
  | .store senderId _ _ _ => senderId
  | .storeAck senderId _ => senderId
  | .findValue senderId _ => senderId
  | .value senderId _ _ _ => senderId

def tag : DhtOperation → UInt8
  | .ping .. => 1
  | .pong .. => 2
  | .findNode .. => 3
  | .nodes .. => 4
  | .store .. => 5
  | .storeAck .. => 6
  | .findValue .. => 7
  | .value .. => 8

/-! ### Writing -/

def writeAddress : SocketAddr → Bytes
  | .v4 ip port => [4] ++ (ip.toList ++ (beBytes 2 port).toList)
  | .v6 ip port _ _ => [6] ++ (ip.toList ++ (beBytes 2 port).toList)

/-- A length as two bytes, which cuts it off: `length as u16`. -/
def writeLength (length : Nat) : Bytes := (beBytes 2 (BitVec.ofNat 16 length)).toList

def writeNodes (listed : NodeList) : Bytes :=
  writeLength listed.length ++ listed.flatMap fun (id, addr) => id.id.toList ++ writeAddress addr

/-- The part of `serialize` that follows the tag. -/
def body : DhtOperation → Bytes
  | .ping senderId => senderId.id.toList
  | .pong senderId => senderId.id.toList
  | .findNode senderId targetId => senderId.id.toList ++ targetId.id.toList
  | .nodes senderId listed => senderId.id.toList ++ writeNodes listed
  | .store senderId key stored ttlSeconds =>
    senderId.id.toList ++ (key.toList ++ ((beBytes 4 ttlSeconds).toList ++
      (writeLength stored.length ++ stored)))
  | .storeAck senderId key => senderId.id.toList ++ key.toList
  | .findValue senderId key => senderId.id.toList ++ key.toList
  | .value senderId key held closestNodes =>
    let heldBytes :=
      match held with
      | some bytes => [1] ++ (writeLength bytes.length ++ bytes)
      | none => [0]
    senderId.id.toList ++ (key.toList ++ (heldBytes ++ writeNodes closestNodes))

def serialize (operation : DhtOperation) : Bytes := [operation.tag] ++ operation.body

/-! ### Reading -/

def readAddress (bytes : Bytes) : Outcome (SocketAddr × Bytes) :=
  if bytes.isEmpty then .error (.error "truncated address")
  else do
    let (addrType, bytes) ← removeFirst bytes
    match addrType.toNat with
    | 4 =>
      let (addrBytes, bytes) ← takeBytes 6 bytes
      .ok (.v4 (addrBytes.window 0 4 (by decide))
        (ofBeBytes 16 (addrBytes.window 4 2 (by decide))), bytes)
    | 6 =>
      let (addrBytes, bytes) ← takeBytes 18 bytes
      .ok (.v6 (addrBytes.window 0 16 (by decide))
        (ofBeBytes 16 (addrBytes.window 16 2 (by decide))) 0 0, bytes)
    | _ => .error (.error s!"unknown address type: {addrType.toNat}")

/-- Two bytes removed from the front, as a length. -/
def removeLength (bytes : Bytes) : Outcome (Nat × Bytes) := do
  let (high, bytes) ← removeFirst bytes
  let (low, bytes) ← removeFirst bytes
  .ok (fromBeBytes [high, low], bytes)

/-- The loop of `read_nodes`. -/
def readNodesLoop : (count : Nat) → Bytes → NodeList → Outcome (NodeList × Bytes)
  | 0, bytes, listed => .ok (listed, bytes)
  | count + 1, bytes, listed => do
    let (idBytes, bytes) ← takeBytes 32 bytes
    let (addr, bytes) ← readAddress bytes
    readNodesLoop count bytes (listed ++ [({ id := idBytes }, addr)])

def readNodes (bytes : Bytes) : Outcome (NodeList × Bytes) :=
  if bytes.length < 2 then .error (.error "truncated node count")
  else do
    let (count, bytes) ← removeLength bytes
    readNodesLoop count bytes []

def readId (bytes : Bytes) : Outcome (NodeID × Bytes) := do
  let (id, bytes) ← takeBytes 32 bytes
  .ok ({ id }, bytes)

def readKey (bytes : Bytes) : Outcome (Key × Bytes) := takeBytes 32 bytes

/-- The value of a `Value` operation, behind the byte that says whether there is one. -/
def readHeld (bytes : Bytes) : Outcome (Option Bytes × Bytes) :=
  if bytes.isEmpty then .error (.error "truncated value packet")
  else do
    let (hasValue, bytes) ← removeFirst bytes
    if hasValue = 1 then
      if bytes.length < 2 then .error (.error "truncated value length")
      else do
        let (length, bytes) ← removeLength bytes
        if bytes.length < length then .error (.error "truncated value")
        else .ok (some (bytes.take length), bytes.drop length)
    else .ok (none, bytes)

/-- The part of `from_serialized` that follows the tag. -/
def fromBody (tag : UInt8) (bytes : Bytes) : Outcome DhtOperation :=
  match tag.toNat with
  | 1 => do
    let (senderId, _) ← readId bytes
    .ok (.ping senderId)
  | 2 => do
    let (senderId, _) ← readId bytes
    .ok (.pong senderId)
  | 3 => do
    let (senderId, bytes) ← readId bytes
    let (targetId, _) ← readId bytes
    .ok (.findNode senderId targetId)
  | 4 => do
    let (senderId, bytes) ← readId bytes
    let (listed, _) ← readNodes bytes
    .ok (.nodes senderId listed)
  | 5 => do
    let (senderId, bytes) ← readId bytes
    let (key, bytes) ← readKey bytes
    let (ttlBytes, bytes) ← takeBytes 4 bytes
    -- the two bytes of the length are removed unchecked
    let (length, bytes) ← removeLength bytes
    if bytes.length < length then .error (.error "truncated value")
    else .ok (.store senderId key (bytes.take length) (ofBeBytes 32 ttlBytes))
  | 6 => do
    let (senderId, bytes) ← readId bytes
    let (key, _) ← readKey bytes
    .ok (.storeAck senderId key)
  | 7 => do
    let (senderId, bytes) ← readId bytes
    let (key, _) ← readKey bytes
    .ok (.findValue senderId key)
  | 8 => do
    let (senderId, bytes) ← readId bytes
    let (key, bytes) ← readKey bytes
    let (held, bytes) ← readHeld bytes
    let (closestNodes, _) ← readNodes bytes
    .ok (.value senderId key held closestNodes)
  | _ => .error (.error s!"unknown dht packet tag: {tag.toNat}")

def fromSerialized (bytes : Bytes) : Outcome DhtOperation :=
  if bytes.isEmpty then .error (.error "empty dht packet")
  else do
    let (tag, bytes) ← removeFirst bytes
    fromBody tag bytes

end DhtOperation

end Insub
