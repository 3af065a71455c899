/-
This file models the tables of `runtime.rs` that sessions live in, and what two of its
functions do to all of them at once: registering a session, and giving a connection up.

A call of the runtime sends on several channels; here it returns what it sends. The piles
that a thread sorts incoming packets into are not modelled: whatever packet a call takes
from its pile is an argument.
-/

import Mathlib
import Insub.Library.HashMap
import Insub.Network.Relay
import Insub.Protocol.Message
import Insub.Protocol.Session

namespace Insub

open Rust

/-- What the initiator sends along in clear, and the responder echoes. -/
abbrev HandshakeTag := Octets 16

structure Runtime (crypto : Primitives) (noise : Noise) where
  address : SocketAddr
  sessions : HashMap ConnectionId (Session crypto noise)
  pendingSessions : HashMap HandshakeTag (Session crypto noise × Option Key)
  connToPk : HashMap ConnectionId Key
  pkToConn : HashMap Key (List ConnectionId)
  pkToAddr : HashMap Key SocketAddr
  seenTags : Finset HandshakeTag
  receivedKeys : HashMap Key Instant
  deviceX25519Priv : Key
  masterPubkey : Option Key
  deviceCert : Option (DeviceCertificate crypto)
  peerKeys : HashMap SocketAddr (VerifyingKey crypto)

/-- What a call sends: packets to the transport, confirmations, messages with the key of
their sender, and keys of users with the safety number of a new session. -/
structure Effects where
  outgoing : List (Packet × SocketAddr)
  acks : List (U128 × SocketAddr)
  messages : List (Message × Key)
  established : List (Key × Key)

/-- Nothing is sent. -/
def Effects.none : Effects where
  outgoing := []
  acks := []
  messages := []
  established := []

namespace Runtime

variable {crypto : Primitives} {noise : Noise}

/-- The runtime as `bind` builds it. -/
def bind (address : SocketAddr) (deviceX25519Priv : Key)
    (peerKeys : HashMap SocketAddr (VerifyingKey crypto)) : Runtime crypto noise where
  address := address
  sessions := ∅
  pendingSessions := ∅
  connToPk := ∅
  pkToConn := ∅
  pkToAddr := ∅
  seenTags := ∅
  receivedKeys := ∅
  deviceX25519Priv := deviceX25519Priv
  masterPubkey := none
  deviceCert := none
  peerKeys := peerKeys

/-- The confirmation a packet asks for. -/
def confirmations (packet : Packet) (sender : SocketAddr) : List (U128 × SocketAddr) :=
  if packet.header.flags.contains .ackRequired then [(packet.header.id, sender)] else []

/-- The packet as `send_packet` wraps it for a relay. -/
def sendPacket (packet : Packet) (relayAddr : SocketAddr) (relayId frameId : U128) :
    Packet × SocketAddr :=
  let frame : RelayFrame := { destId := relayId, payload := packet.serialize }
  (Packet.new 0 frameId (Payload.new .relayFrame frame.serialize), relayAddr)

/-- Enter a session into the tables, and report it. -/
def register (runtime : Runtime crypto noise) (connId : ConnectionId) (peerPk : Key)
    (session : Session crypto noise) : List (Key × Key) × Runtime crypto noise :=
  let ourPk := runtime.masterPubkey.getD (Octets.zero 32)
  let safety := session.safetyNumber ourPk peerPk
  let conns := (runtime.pkToConn.lookup peerPk).getD []
  ([(peerPk, safety.getD (Octets.zero 32))], { runtime with
    connToPk := runtime.connToPk.insert connId peerPk
    pkToConn := runtime.pkToConn.insert peerPk (conns ++ [connId])
    sessions := runtime.sessions.insert connId session })

/-- The connections of a user without one of them. An emptied list is dropped. -/
def dropConn (pkToConn : HashMap Key (List ConnectionId)) (pk : Key) (connId : ConnectionId) :
    HashMap Key (List ConnectionId) :=
  match pkToConn.lookup pk with
  | none => pkToConn
  | some conns =>
    let kept := conns.filter (· ≠ connId)
    if kept.isEmpty then pkToConn.erase pk else pkToConn.insert pk kept

def removeStaleConn (runtime : Runtime crypto noise) (connId : ConnectionId) :
    Runtime crypto noise :=
  let sessions := runtime.sessions.erase connId
  match runtime.connToPk.lookup connId with
  | none => { runtime with sessions }
  | some pk =>
    { runtime with
      sessions
      connToPk := runtime.connToPk.erase connId
      pkToConn := dropConn runtime.pkToConn pk connId }

end Runtime

end Insub
