/-
This file says which tables each part of a call can write to. Every result is a frame: the
runtime that is left is the one before, with other values in the fields that are named.
-/

import Mathlib
import Insub.Runtime.Calls

namespace Insub

open Rust

namespace Runtime

variable {crypto : Primitives} {noise : Noise}

/-! ### Handshakes -/

theorem pinPeer_frame (runtime : Runtime crypto noise) (sender : SocketAddr)
    (certificate : Option (DeviceCertificate crypto)) :
    ∃ peerKeys, runtime.pinPeer sender certificate = { runtime with peerKeys } := by
  cases certificate with
  | none => exact ⟨_, rfl⟩
  | some certificate => exact ⟨_, rfl⟩

theorem learnAddress_frame (runtime : Runtime crypto noise) (peerPk : Key)
    (peerAddr : Option SocketAddr) :
    ∃ pkToAddr, runtime.learnAddress peerPk peerAddr = { runtime with pkToAddr } := by
  cases peerAddr with
  | none => exact ⟨_, rfl⟩
  | some addr => exact ⟨_, rfl⟩

theorem removeStaleConn_frame (runtime : Runtime crypto noise) (connId : ConnectionId) :
    ∃ sessions connToPk pkToConn, runtime.removeStaleConn connId =
      { runtime with sessions, connToPk, pkToConn } := by
  rw [removeStaleConn]
  cases runtime.connToPk.lookup connId with
  | none => exact ⟨_, _, _, rfl⟩
  | some pk => exact ⟨_, _, _, rfl⟩

theorem enableSessionInitiator_frame (runtime : Runtime crypto noise)
    (peerDeviceX25519Pub : Key) (peerUserId : UserID crypto) (tag : HandshakeTag) :
    ∃ pendingSessions, (runtime.enableSessionInitiator peerDeviceX25519Pub peerUserId tag).2 =
      { runtime with pendingSessions } := by
  let framed (last : Runtime crypto noise) : Prop :=
    ∃ pendingSessions, last = { runtime with pendingSessions }
  refine Outcome.orReturn_state framed ⟨_, rfl⟩ fun ourMasterPubkey _ => ?_
  refine Outcome.orReturn_state framed ⟨_, rfl⟩ fun deviceCert _ => ?_
  refine Outcome.orReturn_state framed ⟨_, rfl⟩ fun session _ => ?_
  exact ⟨_, rfl⟩

theorem initiateHandshake_frame (runtime : Runtime crypto noise) (tag : HandshakeTag)
    (draws : RuntimeDraws) :
    ∃ pendingSessions, (runtime.initiateHandshake tag draws).2 =
      { runtime with pendingSessions } := by
  let framed (last : Runtime crypto noise) : Prop :=
    ∃ pendingSessions, last = { runtime with pendingSessions }
  refine Outcome.orReturn_state framed ⟨_, rfl⟩ ?_
  rintro ⟨session, peerPkOpt⟩ _
  refine Outcome.orReturn_state framed ⟨_, rfl⟩ fun peerPk _ => ?_
  refine Outcome.orReturn_state framed ⟨_, rfl⟩ fun bytes _ => ?_
  refine Outcome.orReturn_state framed ⟨_, rfl⟩ fun addr _ => ?_
  exact ⟨_, rfl⟩

theorem completePending_frame (runtime : Runtime crypto noise) (packet : Packet)
    (sender : SocketAddr) (draws : RuntimeDraws) :
    ∃ pendingSessions peerKeys, (runtime.completePending packet sender draws).2 =
      { runtime with pendingSessions, peerKeys } := by
  have completes := runtime.completePending_completes packet sender draws
  generalize runtime.completePending packet sender draws = result at completes ⊢
  cases completes with
  | uncalled => exact ⟨_, _, rfl⟩
  | refused => exact ⟨_, _, rfl⟩
  | broken => exact ⟨_, _, rfl⟩
  | promoted =>
    obtain ⟨peerKeys, pinned⟩ := pinPeer_frame _ sender _
    exact ⟨_, peerKeys, pinned⟩

theorem settleCall_frame (runtime : Runtime crypto noise) (session : Session crypto noise)
    (peerPk : Key) (tag : HandshakeTag) (sender : SocketAddr)
    (outgoing : List (Packet × SocketAddr)) :
    ∃ sessions connToPk pkToConn peerKeys seenTags,
      (runtime.settleCall session peerPk tag sender outgoing).2 =
        { runtime with sessions, connToPk, pkToConn, peerKeys, seenTags } := by
  rw [settleCall]
  cases session.connectionId with
  | none => exact ⟨_, _, _, _, _, rfl⟩
  | some connId =>
    obtain ⟨peerKeys, pinned⟩ := pinPeer_frame runtime sender session.peerDeviceCertificate
    rw [pinned]
    exact ⟨_, _, _, _, _, rfl⟩

theorem respond_frame (runtime : Runtime crypto noise) (packet : Packet) (sender : SocketAddr)
    (draws : RuntimeDraws) :
    ∃ sessions connToPk pkToConn pkToAddr peerKeys seenTags,
      (runtime.respond packet sender draws).2 =
        { runtime with sessions, connToPk, pkToConn, pkToAddr, peerKeys, seenTags } := by
  rw [respond]
  rcases runtime.spawnResponder with fault | fresh
  · exact ⟨_, _, _, _, _, _, rfl⟩
  dsimp only
  rcases fresh.acceptHandshake packet.payload.data with ⟨(message | site) | _, accepted⟩
  · exact ⟨_, _, _, _, _, _, rfl⟩
  · exact ⟨_, _, _, _, _, _, rfl⟩
  dsimp only
  obtain ⟨pkToAddr, learned⟩ := learnAddress_frame runtime
    (accepted.peerMasterPubkey.getD (Octets.zero 32)) accepted.peerAddr
  rw [learned]
  have settles (session : Session crypto noise) (outgoing : List (Packet × SocketAddr)) :
      ∃ sessions connToPk pkToConn pkToAddr' peerKeys seenTags,
        (settleCall { runtime with pkToAddr } session
          (accepted.peerMasterPubkey.getD (Octets.zero 32)) packet.payload.connectionId sender
            outgoing).2 = { runtime with
              sessions, connToPk, pkToConn, pkToAddr := pkToAddr', peerKeys, seenTags } := by
    obtain ⟨sessions, connToPk, pkToConn, peerKeys, seenTags, settled⟩ :=
      settleCall_frame { runtime with pkToAddr } session
        (accepted.peerMasterPubkey.getD (Octets.zero 32)) packet.payload.connectionId sender outgoing
    exact ⟨sessions, connToPk, pkToConn, pkToAddr, peerKeys, seenTags, settled⟩
  rcases accepted.replyHandshake draws.handshake with ⟨(message | site) | reply, replied⟩
  · exact settles replied []
  · exact ⟨_, _, _, _, _, _, rfl⟩
  · exact settles replied _

/-! ### Messages -/

theorem deliverInner_frame (runtime : Runtime crypto noise) (packet : Packet)
    (sender : SocketAddr) (inner : Bytes) (senderPk : Key) (now : Instant) :
    ∃ receivedKeys, (runtime.deliverInner packet sender inner senderPk now).2 =
      { runtime with receivedKeys } := by
  let framed (last : Runtime crypto noise) : Prop :=
    ∃ receivedKeys, last = { runtime with receivedKeys }
  have here : framed runtime := ⟨_, rfl⟩
  rw [deliverInner]
  dsimp only
  split
  · exact here
  refine Outcome.orReturn_state framed here fun key _ => ?_
  refine Outcome.orReturn_state framed here fun nonce _ => ?_
  split
  · exact here
  rcases crypto.decrypt (inner.drop 44) nonce key with fault | plaintext
  · exact ⟨_, rfl⟩
  dsimp only
  rcases Message.fromSerialized plaintext with (message | site) | message
  · exact ⟨_, rfl⟩
  · exact ⟨_, rfl⟩
  · exact ⟨_, rfl⟩

theorem tickMessage_frame (runtime : Runtime crypto noise) (packet : Packet)
    (sender : SocketAddr) (env : Surroundings) (now : Instant) :
    ∃ sessions connToPk pkToConn receivedKeys,
      (runtime.tickMessage packet sender env now).2 =
        { runtime with sessions, connToPk, pkToConn, receivedKeys } := by
  rw [tickMessage]
  cases runtime.sessions.lookup packet.payload.connectionId with
  | none =>
    obtain ⟨sessions, connToPk, pkToConn, dropped⟩ :=
      removeStaleConn_frame runtime packet.payload.connectionId
    exact ⟨_, _, _, _, dropped⟩
  | some session =>
    dsimp only
    rcases session.receive packet env with ⟨(message | site) | ⟨inner, senderPk⟩, next⟩
    · obtain ⟨sessions, connToPk, pkToConn, dropped⟩ := removeStaleConn_frame
        { runtime with sessions := runtime.sessions.insert packet.payload.connectionId next }
          packet.payload.connectionId
      exact ⟨_, _, _, _, dropped⟩
    · exact ⟨_, _, _, _, rfl⟩
    · obtain ⟨receivedKeys, delivered⟩ := deliverInner_frame
        { runtime with sessions := runtime.sessions.insert packet.payload.connectionId next }
          packet sender inner senderPk now
      exact ⟨_, _, _, _, delivered⟩

theorem sendLoop_frame (inner : Bytes) (addr : SocketAddr) (relayId : U128)
    (conns : List (ConnectionId × SendDraws)) (outgoing : List (Packet × SocketAddr))
    (runtime : Runtime crypto noise) :
    ∃ sessions, (sendLoop inner addr relayId conns outgoing runtime).2.2 =
      { runtime with sessions } := by
  induction conns generalizing outgoing runtime with
  | nil => exact ⟨_, rfl⟩
  | cons conn rest inductionHypothesis =>
    obtain ⟨connId, draws⟩ := conn
    rw [sendLoop]
    cases runtime.sessions.lookup connId with
    | none => exact inductionHypothesis outgoing runtime
    | some session =>
      dsimp only
      split
      · rcases session.send inner draws.nonce draws.packetId with ⟨outcome, next⟩
        dsimp only
        rcases outcome.inContext "session send" with fault | pkt
        · exact ⟨_, rfl⟩
        · obtain ⟨sessions, sent⟩ := inductionHypothesis
            (outgoing ++ [sendPacket pkt addr relayId draws.frameId])
              { runtime with sessions := runtime.sessions.insert connId next }
          exact ⟨sessions, sent⟩
      · exact inductionHypothesis outgoing runtime

theorem sendMessage_frame (runtime : Runtime crypto noise) (msg : Message) (peerPk key : Key)
    (nonce : Nonce) (draws : Nat → SendDraws) :
    ∃ sessions, (runtime.sendMessage msg peerPk key nonce draws).2.2 =
      { runtime with sessions } := by
  rw [sendMessage]
  cases runtime.pkToConn.lookup peerPk with
  | none => exact ⟨_, rfl⟩
  | some connIds =>
    cases runtime.pkToAddr.lookup peerPk with
    | none => exact ⟨_, rfl⟩
    | some addr =>
      dsimp only
      rcases crypto.encrypt msg.serialize key nonce with fault | ⟨ciphertext, nonce⟩
      · exact ⟨_, rfl⟩
      dsimp only
      have sent := sendLoop_frame (key.toList ++ nonce.toList ++ ciphertext) addr
        (deriveId crypto peerPk) (connIds.mapIdx fun index connId => (connId, draws index)) []
          runtime
      rcases run : sendLoop (key.toList ++ nonce.toList ++ ciphertext) addr
        (deriveId crypto peerPk) (connIds.mapIdx fun index connId => (connId, draws index)) []
          runtime with ⟨fault | _, outgoing, next⟩
      all_goals rw [run] at sent
      · exact sent
      · dsimp only
        split
        · exact sent
        · exact sent

/-! ### What moves the sessions -/

/-- Sending moves ratchets, and nothing else. -/
theorem sendLoop_state (kept : Runtime crypto noise → Prop)
    (moves : ∀ runtime connId session ratchet, kept runtime →
      AList.lookup connId runtime.sessions = some session →
        kept { runtime with
          sessions := runtime.sessions.insert connId { session with ratchet } })
    (inner : Bytes) (addr : SocketAddr) (relayId : U128) (conns : List (ConnectionId × SendDraws))
    (outgoing : List (Packet × SocketAddr)) {runtime : Runtime crypto noise}
    (start : kept runtime) : kept (sendLoop inner addr relayId conns outgoing runtime).2.2 := by
  induction conns generalizing outgoing runtime with
  | nil => exact start
  | cons conn rest inductionHypothesis =>
    obtain ⟨connId, draws⟩ := conn
    rw [sendLoop]
    cases found : runtime.sessions.lookup connId with
    | none => exact inductionHypothesis outgoing start
    | some session =>
      dsimp only
      split
      · obtain ⟨ratchet, frame⟩ := session.send_frame inner draws.nonce draws.packetId
        have moved := moves runtime connId session ratchet start found
        rw [← frame] at moved
        rcases run : session.send inner draws.nonce draws.packetId with ⟨outcome, next⟩
        rw [run] at moved
        dsimp only at moved ⊢
        rcases outcome.inContext "session send" with fault | pkt
        · exact moved
        · exact inductionHypothesis _ moved
      · exact inductionHypothesis outgoing start

theorem sendMessage_state (kept : Runtime crypto noise → Prop)
    (moves : ∀ runtime connId session ratchet, kept runtime →
      AList.lookup connId runtime.sessions = some session →
        kept { runtime with
          sessions := runtime.sessions.insert connId { session with ratchet } })
    (msg : Message) (peerPk key : Key) (nonce : Nonce) (draws : Nat → SendDraws)
    {runtime : Runtime crypto noise} (start : kept runtime) :
    kept (runtime.sendMessage msg peerPk key nonce draws).2.2 := by
  rw [sendMessage]
  cases runtime.pkToConn.lookup peerPk with
  | none => exact start
  | some connIds =>
    cases runtime.pkToAddr.lookup peerPk with
    | none => exact start
    | some addr =>
      dsimp only
      rcases crypto.encrypt msg.serialize key nonce with fault | ⟨ciphertext, nonce⟩
      · exact start
      have sent := sendLoop_state kept moves (key.toList ++ nonce.toList ++ ciphertext) addr
        (deriveId crypto peerPk) (connIds.mapIdx fun index connId => (connId, draws index)) [] start
      dsimp only
      rcases run : sendLoop (key.toList ++ nonce.toList ++ ciphertext) addr
        (deriveId crypto peerPk) (connIds.mapIdx fun index connId => (connId, draws index)) []
          runtime with ⟨fault | _, outgoing, next⟩
      all_goals rw [run] at sent
      · exact sent
      · dsimp only
        split
        · exact sent
        · exact sent

/-- Receiving moves a ratchet, or costs the connection, and enters a body. -/
theorem tickMessage_state (kept : Runtime crypto noise → Prop)
    (moves : ∀ runtime connId session ratchet, kept runtime →
      AList.lookup connId runtime.sessions = some session →
        kept { runtime with
          sessions := runtime.sessions.insert connId { session with ratchet } })
    (drops : ∀ runtime connId, kept runtime → kept (runtime.removeStaleConn connId))
    (enters : ∀ runtime receivedKeys, kept runtime → kept { runtime with receivedKeys })
    (packet : Packet) (sender : SocketAddr) (env : Surroundings) (now : Instant)
    {runtime : Runtime crypto noise} (start : kept runtime) :
    kept (runtime.tickMessage packet sender env now).2 := by
  rw [tickMessage]
  cases found : runtime.sessions.lookup packet.payload.connectionId with
  | none => exact drops runtime packet.payload.connectionId start
  | some session =>
    obtain ⟨ratchet, frame⟩ := session.receive_frame packet env
    have moved := moves runtime packet.payload.connectionId session ratchet start found
    rw [← frame] at moved
    dsimp only
    rcases run : session.receive packet env with ⟨(message | site) | ⟨inner, senderPk⟩, next⟩
    all_goals rw [run] at moved
    · exact drops _ packet.payload.connectionId moved
    · exact moved
    · obtain ⟨receivedKeys, delivered⟩ := deliverInner_frame
        { runtime with sessions := runtime.sessions.insert packet.payload.connectionId next }
          packet sender inner senderPk now
      dsimp only
      rw [delivered]
      exact enters _ receivedKeys moved

end Runtime

end Insub
