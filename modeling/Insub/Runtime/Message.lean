/-
This file models how `runtime.rs` sends and receives messages over established sessions.
A message body is sealed once, under a key of its own, and travels to every device of a
user inside that device's session.
-/

import Mathlib
import Insub.Runtime.State

namespace Insub

open Rust

/-- What sending over one session draws. -/
structure SendDraws where
  nonce : Nonce
  packetId : U128
  frameId : U128

namespace Runtime

variable {crypto : Primitives} {noise : Noise}

/-- How long a message key is remembered. -/
def receivedTtl : Nat := seconds 60

/-- The part of `tick_message` that follows the session. -/
def deliverInner (runtime : Runtime crypto noise) (packet : Packet) (sender : SocketAddr)
    (inner : Bytes) (senderPk : Key) (now : Instant) : Outcome Effects × Runtime crypto noise :=
  let acks := confirmations packet sender
  -- inner format: [key:32][nonce:12][ciphertext]
  if inner.length < 44 then (.ok Effects.none, runtime)
  else
    (slice 0 32 inner).orReturn runtime fun key =>
    (slice 32 12 inner).orReturn runtime fun nonce =>
    -- duplicates across devices are dropped
    let dedupKey := crypto.sha256 (senderPk.toList ++ key.toList)
    if dedupKey ∈ runtime.receivedKeys then (.ok { Effects.none with acks }, runtime)
    else
      let runtime := { runtime with
        receivedKeys := runtime.receivedKeys.retain fun _ time =>
          durationSince now time < receivedTtl }
      match crypto.decrypt (inner.drop 44) nonce key with
      | .error _ => (.ok Effects.none, runtime)
      | .ok plaintext =>
        match Message.fromSerialized plaintext with
        | .error (.panic site) => (.error (.panic site), runtime)
        | .error (.error _) => (.ok Effects.none, runtime)
        | .ok message =>
          (.ok { Effects.none with messages := [(message, senderPk)], acks }, { runtime with
            receivedKeys := runtime.receivedKeys.insert dedupKey now })

def tickMessage (runtime : Runtime crypto noise) (packet : Packet) (sender : SocketAddr)
    (env : Surroundings) (now : Instant) : Outcome Effects × Runtime crypto noise :=
  let connId := packet.payload.connectionId
  match runtime.sessions.lookup connId with
  | none => (.ok Effects.none, runtime.removeStaleConn connId)
  | some session =>
    match session.receive packet env with
    | (received, session) =>
      let runtime := { runtime with sessions := runtime.sessions.insert connId session }
      match received with
      | .error (.panic site) => (.error (.panic site), runtime)
      | .error (.error _) => (.ok Effects.none, runtime.removeStaleConn connId)
      | .ok (inner, senderPk) => runtime.deliverInner packet sender inner senderPk now

/-- The loop of `send_message` over the connections of the user. It stops at the first
session that fails, with what was sent before on its way. -/
def sendLoop (inner : Bytes) (addr : SocketAddr) (relayId : U128) :
    List (ConnectionId × SendDraws) → List (Packet × SocketAddr) → Runtime crypto noise →
      Outcome Unit × List (Packet × SocketAddr) × Runtime crypto noise
  | [], outgoing, runtime => (.ok (), outgoing, runtime)
  | (connId, draws) :: rest, outgoing, runtime =>
    match runtime.sessions.lookup connId with
    | none => sendLoop inner addr relayId rest outgoing runtime
    | some session =>
      if session.isEstablished then
        match session.send inner draws.nonce draws.packetId with
        | (outcome, session) =>
          let runtime := { runtime with sessions := runtime.sessions.insert connId session }
          match outcome.inContext "session send" with
          | .error fault => (.error fault, outgoing, runtime)
          | .ok pkt =>
            sendLoop inner addr relayId rest
              (outgoing ++ [sendPacket pkt addr relayId draws.frameId]) runtime
      else sendLoop inner addr relayId rest outgoing runtime

/-- `send_message`, with the body key and nonce that are drawn and the draws of each
session. -/
def sendMessage (runtime : Runtime crypto noise) (msg : Message) (peerPk key : Key)
    (nonce : Nonce) (draws : Nat → SendDraws) :
    Outcome Unit × List (Packet × SocketAddr) × Runtime crypto noise :=
  match runtime.pkToConn.lookup peerPk with
  | none => (.error (.error "no session for peer"), [], runtime)
  | some connIds =>
    match runtime.pkToAddr.lookup peerPk with
    | none => (.error (.error "no address for peer"), [], runtime)
    | some addr =>
      match crypto.encrypt msg.serialize key nonce with
      | .error fault => (.error fault, [], runtime)
      | .ok (ciphertext, nonce) =>
        -- inner format: [key:32][nonce:12][ciphertext]
        let inner := key.toList ++ nonce.toList ++ ciphertext
        match sendLoop inner addr (deriveId crypto peerPk)
            (connIds.mapIdx fun index connId => (connId, draws index)) [] runtime with
        | (.error fault, outgoing, runtime) => (.error fault, outgoing, runtime)
        | (.ok (), outgoing, runtime) =>
          if outgoing.isEmpty then (.error (.error "no active session for peer"), [], runtime)
          else (.ok (), outgoing, runtime)

end Runtime

end Insub
