/-
This file models how `runtime.rs` establishes sessions: calling a user, and
`tick_handshake`, which answers a call or takes the answer to one.
-/

import Mathlib
import Insub.Runtime.State

namespace Insub

open Rust

/-- What one call draws. -/
structure RuntimeDraws where
  handshake : HandshakeDraws
  packetId : U128
  frameId : U128

namespace Runtime

variable {crypto : Primitives} {noise : Noise}

/-- Prepare a call to a user, under a tag that is drawn. -/
def enableSessionInitiator (runtime : Runtime crypto noise) (peerDeviceX25519Pub : Key)
    (peerUserId : UserID crypto) (tag : HandshakeTag) :
    Outcome HandshakeTag × Runtime crypto noise :=
  (okOr "master pubkey not set" runtime.masterPubkey).orReturn runtime fun ourMasterPubkey =>
  let peerPk := peerUserId.publicKey.bytes
  (okOr "No device certificate available" runtime.deviceCert).orReturn runtime fun deviceCert =>
  (Session.newInitiator runtime.deviceX25519Priv peerDeviceX25519Pub deviceCert ourMasterPubkey
    peerUserId).orReturn runtime fun session =>
  (.ok tag, { runtime with
    pendingSessions := runtime.pendingSessions.insert tag (session, some peerPk) })

def initiateHandshake (runtime : Runtime crypto noise) (tag : HandshakeTag)
    (draws : RuntimeDraws) : Outcome Effects × Runtime crypto noise :=
  (okOr "unknown pending tag" (runtime.pendingSessions.lookup tag)).orReturn runtime
    fun (session, peerPkOpt) =>
  (okOr "initiator must have peer_pk" peerPkOpt).orReturn runtime fun peerPk =>
  match session.initiateHandshake runtime.address draws.handshake with
  | (outcome, session) =>
    let runtime := { runtime with
      pendingSessions := runtime.pendingSessions.insert tag (session, peerPkOpt) }
    outcome.orReturn runtime fun bytes =>
    let packet := Packet.new 0 draws.packetId
      { Payload.new .handshake bytes with connectionId := tag }
    (okOr "peer address not set" (runtime.pkToAddr.lookup peerPk)).orReturn runtime fun addr =>
    (.ok { Effects.none with
      outgoing := [sendPacket packet addr (deriveId crypto peerPk) draws.frameId] }, runtime)

def spawnResponder (runtime : Runtime crypto noise) : Outcome (Session crypto noise) := do
  let cert ← okOr "device cert not set" runtime.deviceCert
  let masterPk ← okOr "master pubkey not set" runtime.masterPubkey
  Session.newResponder runtime.deviceX25519Priv cert masterPk

/-- The key table once a handshake came through from an address. -/
def pinPeer (runtime : Runtime crypto noise) (sender : SocketAddr)
    (certificate : Option (DeviceCertificate crypto)) : Runtime crypto noise :=
  match certificate with
  | some certificate =>
    { runtime with
      peerKeys := runtime.peerKeys.insert sender certificate.deviceEd25519Pubkey }
  | none => runtime

/-- The first part of `tick_handshake`: take the packet as the answer to a call of ours. -/
def completePending (runtime : Runtime crypto noise) (packet : Packet) (sender : SocketAddr)
    (draws : RuntimeDraws) : Outcome (Option (ConnectionId × Key)) × Runtime crypto noise :=
  let tag := packet.payload.connectionId
  match runtime.pendingSessions.lookup tag with
  | none => (.ok none, runtime)
  | some (session, peerPkOpt) =>
    if session.isInitiator then
      match session.completeHandshake packet.payload.data draws.handshake with
      | (outcome, session) =>
        let runtime := { runtime with
          pendingSessions := runtime.pendingSessions.insert tag (session, peerPkOpt) }
        match outcome with
        | .error (.panic site) => (.error (.panic site), runtime)
        | .error (.error _) => (.ok none, runtime)
        | .ok () =>
          match session.connectionId with
          | none => (.ok none, runtime)
          | some connId =>
            (.ok (some (connId, peerPkOpt.getD (Octets.zero 32))),
              runtime.pinPeer sender session.peerDeviceCertificate)
    else (.ok none, runtime)

/-- Where the peer said it can be reached. -/
def learnAddress (runtime : Runtime crypto noise) (peerPk : Key) (peerAddr : Option SocketAddr) :
    Runtime crypto noise :=
  match peerAddr with
  | some addr => { runtime with pkToAddr := runtime.pkToAddr.insert peerPk addr }
  | none => runtime

/-- Enter the session that answered a call, if it has a connection id. -/
def settleCall (runtime : Runtime crypto noise) (session : Session crypto noise) (peerPk : Key)
    (tag : HandshakeTag) (sender : SocketAddr) (outgoing : List (Packet × SocketAddr)) :
    Effects × Runtime crypto noise :=
  match session.connectionId with
  | none => ({ Effects.none with outgoing }, runtime)
  | some connId =>
    match (runtime.pinPeer sender session.peerDeviceCertificate).register connId peerPk
        session with
    | (established, runtime) =>
      ({ Effects.none with outgoing, established },
        { runtime with seenTags := insert tag runtime.seenTags })

/-- The second part: take the packet as a call, and answer it. -/
def respond (runtime : Runtime crypto noise) (packet : Packet) (sender : SocketAddr)
    (draws : RuntimeDraws) : Outcome Effects × Runtime crypto noise :=
  let tag := packet.payload.connectionId
  match runtime.spawnResponder with
  | .error _ => (.ok Effects.none, runtime)
  | .ok session =>
    match session.acceptHandshake packet.payload.data with
    | (.error (.panic site), _) => (.error (.panic site), runtime)
    | (.error (.error _), _) => (.ok Effects.none, runtime)
    | (.ok (), session) =>
      let peerPk := session.peerMasterPubkey.getD (Octets.zero 32)
      let runtime := runtime.learnAddress peerPk session.peerAddr
      match session.replyHandshake draws.handshake with
      | (.error (.panic site), _) => (.error (.panic site), runtime)
      | (.error (.error _), session) =>
        (runtime.settleCall session peerPk tag sender []).map .ok id
      | (.ok reply, session) =>
        let pkt := Packet.new 0 draws.packetId
          { Payload.new .handshake reply with connectionId := tag }
        let addr := (runtime.pkToAddr.lookup peerPk).getD sender
        (runtime.settleCall session peerPk tag sender
          [sendPacket pkt addr (deriveId crypto peerPk) draws.frameId]).map .ok id

def tickHandshake (runtime : Runtime crypto noise) (packet : Packet) (sender : SocketAddr)
    (draws : RuntimeDraws) : Outcome Effects × Runtime crypto noise :=
  let tag := packet.payload.connectionId
  let acks := confirmations packet sender
  match runtime.completePending packet sender draws with
  | (.error fault, runtime) => (.error fault, runtime)
  | (.ok none, runtime) =>
    if tag ∈ runtime.seenTags then (.ok Effects.none, runtime)
    else
      match runtime.respond packet sender draws with
      | (outcome, runtime) => (outcome.map fun effects => { effects with acks }, runtime)
  | (.ok (some (connId, peerPk)), runtime) =>
    match runtime.pendingSessions.lookup tag with
    | none => (.ok { Effects.none with acks }, runtime)
    | some (session, _) =>
      match { runtime with pendingSessions := runtime.pendingSessions.erase tag }.register connId
          peerPk session with
      | (established, runtime) => (.ok { Effects.none with acks, established }, runtime)

end Runtime

end Insub
