/-
This file says what a session is good for once its handshake is through: it knows for whom it
speaks, has a connection id, and has a ratchet. Until it sends for the first time, its sending
chain is at its start, whatever it receives. So its first message is never refused for its
number.
-/

import Mathlib
import Insub.Protocol.Session

namespace Insub

open Rust

/-! ### The sending chain -/

namespace DoubleRatchet

variable {crypto : Primitives}

/-- Nothing was sent on the sending chain yet. -/
def Unsent (ratchet : DoubleRatchet) : Prop := ratchet.sendingChain.messageNumber = 0

theorem unsent_new {sharedSecret ourDhPriv theirDhPub : Key} {now : Nat} {ratchet : DoubleRatchet}
    (built : new crypto sharedSecret ourDhPriv theirDhPub now = .ok ratchet) : ratchet.Unsent := by
  rw [new, Primitives.deriveKey_eq] at built
  rw [← Except.ok.inj built]
  rfl

theorem unsent_initiatorPreRatchet (ratchet : DoubleRatchet) (freshSecret : Key) :
    (ratchet.initiatorPreRatchet crypto freshSecret).Unsent := rfl

/-- Receiving leaves the sending chain alone, or starts a new one. -/
theorem Unsent.decrypt {ratchet : DoubleRatchet} (unsent : ratchet.Unsent) (messageNumber : Nat)
    (theirDhPub : Key) (nonce : Nonce) (ciphertext : Bytes) (env : Surroundings) :
    (ratchet.decrypt crypto messageNumber theirDhPub nonce ciphertext env).2.Unsent := by
  rw [DoubleRatchet.decrypt]
  by_cases turns : ratchet.theirDhPub ≠ theirDhPub
  · rw [if_pos turns]
    obtain ⟨receivingChains, frame⟩ := openWith_frame crypto
      (ratchet.dhRatchetStep crypto theirDhPub env) messageNumber theirDhPub nonce ciphertext
        env.usedAt
    rw [frame]
    rfl
  · rw [if_neg turns]
    obtain ⟨receivingChains, frame⟩ := openWith_frame crypto ratchet messageNumber theirDhPub nonce
      ciphertext env.usedAt
    rw [frame]
    exact unsent

/-- The first message on a chain is number one. -/
theorem Unsent.encrypt {ratchet : DoubleRatchet} (unsent : ratchet.Unsent) {plaintext : Bytes}
    (seals : ∀ key nonce, (crypto.aeadEncrypt key nonce plaintext).isSome = true) (nonce : Nonce) :
    ∃ ciphertext, (ratchet.encrypt crypto plaintext nonce).1 =
      .ok (1, ciphertext, nonce, crypto.publicKey ratchet.ourDhPriv) := by
  have advanced : ratchet.sendingChain.advance crypto =
      (.ok (1, crypto.hkdf none ratchet.sendingChain.key.toList (ascii "message-key") 32),
        { ratchet.sendingChain with
          key := crypto.hkdf none ratchet.sendingChain.key.toList (ascii "chain-key") 32
          messageNumber := 1 }) := by
    rw [Chain.advance, Primitives.deriveKey_eq, Primitives.deriveKey_eq, unsent]
    rfl
  obtain ⟨ciphertext, sealed⟩ := Option.isSome_iff_exists.mp
    (seals (crypto.hkdf none ratchet.sendingChain.key.toList (ascii "message-key") 32) nonce)
  refine ⟨ciphertext, ?_⟩
  rw [DoubleRatchet.encrypt, advanced]
  dsimp only
  rw [Primitives.encrypt, sealed]

end DoubleRatchet

namespace Session

variable {crypto : Primitives} {noise : Noise}

/-- The session is established on the connection, and nothing was sent over it yet. -/
structure Ready (session : Session crypto noise) (connId : ConnectionId) : Prop where
  speaks : session.ourMasterPubkey.isSome = true
  named : session.connectionId = some connId
  unsent : ∃ ratchet, session.ratchet = some ratchet ∧ ratchet.Unsent

theorem Ready.isEstablished {session : Session crypto noise} {connId : ConnectionId}
    (ready : session.Ready connId) : session.isEstablished = true := by
  obtain ⟨ratchet, held, _⟩ := ready.unsent
  rw [Session.isEstablished, held]
  rfl

/-! ### How a session becomes ready -/

theorem ourMasterPubkey_newInitiator {ourDeviceX25519Priv peerDeviceX25519Pub : Key}
    {ourCert : DeviceCertificate crypto} {ourMasterPubkey : Key} {peerUserId : UserID crypto}
    {session : Session crypto noise} (built : newInitiator ourDeviceX25519Priv peerDeviceX25519Pub
      ourCert ourMasterPubkey peerUserId = .ok session) :
    session.ourMasterPubkey = some ourMasterPubkey := by
  obtain ⟨initiator, _, rest⟩ := Outcome.bind_eq_ok_iff.mp built
  rw [← Except.ok.inj rest]

theorem newResponder_fresh {ourDeviceX25519Priv : Key} {ourCert : DeviceCertificate crypto}
    {ourMasterPubkey : Key} {session : Session crypto noise}
    (built : newResponder ourDeviceX25519Priv ourCert ourMasterPubkey = .ok session) :
    session.ourMasterPubkey = some ourMasterPubkey ∧ session.connectionId = none := by
  obtain ⟨responder, _, rest⟩ := Outcome.bind_eq_ok_iff.mp built
  rw [← Except.ok.inj rest]
  exact ⟨rfl, rfl⟩

theorem ourMasterPubkey_acceptHandshake (session : Session crypto noise) (incoming : Bytes) :
    (session.acceptHandshake incoming).2.ourMasterPubkey = session.ourMasterPubkey := by
  let same (last : Session crypto noise) : Prop := last.ourMasterPubkey = session.ourMasterPubkey
  refine Outcome.orReturn_state same rfl fun responder _ => ?_
  refine Outcome.orReturn_state same rfl fun peerPayload _ => ?_
  split
  · rfl
  refine Outcome.orReturn_state same rfl fun pubkey _ => ?_
  refine Outcome.orReturn_state same rfl fun certBytes _ => ?_
  refine Outcome.orReturn_state same rfl fun peerCert _ => ?_
  refine Outcome.orReturn_state same rfl fun masterPubkey _ => ?_
  refine Outcome.orReturn_state same rfl fun peerAddr _ => ?_
  rfl

theorem ourMasterPubkey_replyHandshake (session : Session crypto noise) (draws : HandshakeDraws) :
    (session.replyHandshake draws).2.ourMasterPubkey = session.ourMasterPubkey := by
  let same (last : Session crypto noise) : Prop := last.ourMasterPubkey = session.ourMasterPubkey
  refine Outcome.orReturn_state same rfl fun responder _ => ?_
  refine Outcome.orReturn_state same rfl fun result _ => ?_
  refine Outcome.orReturn_state same rfl fun certificate _ => ?_
  split
  · rfl
  refine Outcome.orReturn_state same rfl fun theirRatchetDhPub _ => ?_
  refine Outcome.orReturn_state same rfl fun ratchet _ => ?_
  rfl

/-- An initiator that completes the handshake is ready. -/
theorem ready_completeHandshake {session last : Session crypto noise} {response : Bytes}
    {draws : HandshakeDraws} (speaks : session.ourMasterPubkey.isSome = true)
    (run : session.completeHandshake response draws = (.ok (), last)) {connId : ConnectionId}
    (named : last.connectionId = some connId) : last.Ready connId := by
  obtain ⟨certificate, result, ratchet, _, _, rfl⟩ := completeHandshake_ok run
  exact ⟨speaks, named, _, rfl, ratchet.unsent_initiatorPreRatchet draws.preRatchetSecret⟩

/-- A responder that has a connection id once it has replied is ready. -/
theorem ready_replyHandshake {session : Session crypto noise}
    (speaks : session.ourMasterPubkey.isSome = true) (fresh : session.connectionId = none)
    (draws : HandshakeDraws) {connId : ConnectionId}
    (named : (session.replyHandshake draws).2.connectionId = some connId) :
    (session.replyHandshake draws).2.Ready connId := by
  let becomes (last : Session crypto noise) : Prop :=
    last.connectionId = some connId → last.Ready connId
  have unset (last : Session crypto noise) (same : last.connectionId = session.connectionId) :
      becomes last := by
    intro found
    rw [same, fresh] at found
    cases found
  refine Outcome.orReturn_state becomes (unset _ rfl) (fun responder _ => ?_) named
  refine Outcome.orReturn_state becomes (unset _ rfl) fun result _ => ?_
  refine Outcome.orReturn_state becomes (unset _ rfl) fun certificate _ => ?_
  split
  · exact unset _ rfl
  refine Outcome.orReturn_state becomes (unset _ rfl) fun theirRatchetDhPub _ => ?_
  refine Outcome.orReturn_state becomes (unset _ rfl) fun ratchet built => ?_
  exact fun found => ⟨speaks, found, ratchet, rfl, DoubleRatchet.unsent_new built⟩

/-! ### What a session does that is ready -/

/-- Receiving leaves a session ready. -/
theorem Ready.receive {session : Session crypto noise} {connId : ConnectionId}
    (ready : session.Ready connId) (packet : Packet) (env : Surroundings) :
    (session.receive packet env).2.Ready connId := by
  let stays (last : Session crypto noise) : Prop := last.Ready connId
  have here : stays session := ready
  rw [Session.receive]
  split
  · exact here
  split
  · exact here
  refine Outcome.orReturn_state stays here fun nonce _ => ?_
  refine Outcome.orReturn_state stays here fun theirDhPub _ => ?_
  refine Outcome.orReturn_state stays here fun messageNumber _ => ?_
  refine Outcome.orReturn_state stays here fun ratchet held => ?_
  obtain ⟨first, same, unsent⟩ := ready.unsent
  obtain rfl : first = ratchet := Option.some.inj (same.symm.trans (okOr_eq_ok_iff.mp held))
  have after : stays { session with ratchet := some (first.decrypt crypto
      (fromBeBytes messageNumber.toList) theirDhPub nonce (packet.payload.data.drop 48) env).2 } :=
    ⟨ready.speaks, ready.named, _, rfl, unsent.decrypt _ _ _ _ _⟩
  refine Outcome.orReturn_state stays after fun plaintext _ => ?_
  split
  · exact after
  refine Outcome.orReturn_state stays after fun senderPk _ => ?_
  exact after

/-- A session that is ready sends a packet on its connection. -/
theorem Ready.send {session : Session crypto noise} {connId : ConnectionId}
    (ready : session.Ready connId) {bytes : Bytes}
    (seals : ∀ senderPk : Key, ∀ key nonce,
      (crypto.aeadEncrypt key nonce (senderPk.toList ++ bytes)).isSome = true)
    (nonce : Nonce) (packetId : U128) :
    ∃ packet, (session.send bytes nonce packetId).1 = .ok packet ∧
      packet.payload.connectionId = connId := by
  obtain ⟨senderPk, speaks⟩ := Option.isSome_iff_exists.mp ready.speaks
  obtain ⟨ratchet, held, unsent⟩ := ready.unsent
  obtain ⟨ciphertext, sealed⟩ := unsent.encrypt (seals senderPk) nonce
  rw [Session.send, speaks, held]
  dsimp only [okOr, Outcome.orReturn]
  rcases run : ratchet.encrypt crypto (senderPk.toList ++ bytes) nonce with ⟨outcome, next⟩
  rw [run] at sealed
  dsimp only at sealed
  rw [sealed]
  dsimp only
  rw [ready.named]
  exact ⟨_, rfl, rfl⟩

end Session

end Insub
