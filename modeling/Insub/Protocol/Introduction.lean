/-
This file says what the payload of a first handshake message tells a responder, and what the
responder makes of it. It accepts exactly the messages whose payload can be read, and it
answers exactly when the handshake authenticates the key of the certificate in the payload.
-/

import Mathlib
import Insub.Protocol.Session

namespace Insub

open Rust

/-- What a caller says of itself. -/
structure Introduction (crypto : Primitives) where
  ratchetPub : Key
  certificate : DeviceCertificate crypto
  masterPubkey : Key
  addr : SocketAddr

variable {crypto : Primitives} {noise : Noise}

/-- The introduction in a payload, if it can be read. -/
def Introduction.read (payload : Bytes) : Outcome (Introduction crypto) :=
  if payload.length < 32 + 128 + 32 + 7 then .error (.error "handshake payload too short")
  else do
    let ratchetPub ← slice 0 32 payload
    let certBytes ← slice 32 128 payload
    let certificate ← (DeviceCertificate.fromSerialized certBytes.toList).inContext
      "bad peer device certificate"
    let masterPubkey ← slice 160 32 payload
    let addr ← Session.readAddress 192 payload
    .ok { ratchetPub, certificate, masterPubkey, addr }

/-- The handshake that the responder ends with this payload authenticates the key of the
certificate. -/
def Introduction.Vouched (introduction : Introduction crypto) (responder : Responder noise)
    (payload : Bytes) (ephemeral : Key) : Prop :=
  ∃ reply result, responder.reply payload ephemeral = .ok (reply, result) ∧
    introduction.certificate.deviceX25519Pubkey = result.remoteStatic

namespace Session

/-- A responder that was introduced to its peer. -/
def introduced (session : Session crypto noise) (responder : Responder noise)
    (introduction : Introduction crypto) : Session crypto noise :=
  { session with
    responder := some responder
    theirRatchetDhPub := some introduction.ratchetPub
    peerDeviceCertificate := some introduction.certificate
    peerMasterPubkey := some introduction.masterPubkey
    peerAddr := some introduction.addr }

/-- What a responder ends the handshake with. -/
def replyPayload (session : Session crypto noise) (ratchetSecret : Key) : Bytes :=
  (crypto.publicKey ratchetSecret).toList ++ session.ourDeviceCertificate.serialize

/-- A responder accepts the messages that introduce their sender. -/
theorem acceptHandshake_eq_ok_iff {session accepted : Session crypto noise}
    {responder : Responder noise} (waits : session.responder = some responder) {incoming : Bytes} :
    session.acceptHandshake incoming = (.ok (), accepted) ↔
      ∃ payload introduction, (responder.accept incoming).1 = .ok payload ∧
        Introduction.read payload = .ok introduction ∧
          accepted = session.introduced (responder.accept incoming).2 introduction := by
  rw [acceptHandshake, waits, okOr, Outcome.ok_orReturn]
  rcases responder.accept incoming with ⟨outcome, next⟩
  dsimp only
  constructor
  · intro run
    obtain ⟨payload, opened, run⟩ := Outcome.orReturn_eq_ok_iff.mp run
    split at run
    · cases run
    rename_i enough
    obtain ⟨pubkey, pubkeyAt, run⟩ := Outcome.orReturn_eq_ok_iff.mp run
    obtain ⟨certBytes, certAt, run⟩ := Outcome.orReturn_eq_ok_iff.mp run
    obtain ⟨certificate, parsed, run⟩ := Outcome.orReturn_eq_ok_iff.mp run
    obtain ⟨masterPubkey, masterAt, run⟩ := Outcome.orReturn_eq_ok_iff.mp run
    obtain ⟨addr, addrAt, run⟩ := Outcome.orReturn_eq_ok_iff.mp run
    obtain ⟨_, rfl⟩ := Prod.mk.inj run
    refine ⟨payload, ⟨pubkey, certificate, masterPubkey, addr⟩, opened, ?_, rfl⟩
    rw [Introduction.read, if_neg enough]
    simp only [pubkeyAt, certAt, parsed, masterAt, addrAt, Outcome.bind_ok]
  · rintro ⟨payload, introduction, opened, reads, rfl⟩
    rw [Introduction.read] at reads
    split at reads
    · cases reads
    rename_i enough
    obtain ⟨pubkey, pubkeyAt, reads⟩ := Outcome.bind_eq_ok_iff.mp reads
    obtain ⟨certBytes, certAt, reads⟩ := Outcome.bind_eq_ok_iff.mp reads
    obtain ⟨certificate, parsed, reads⟩ := Outcome.bind_eq_ok_iff.mp reads
    obtain ⟨masterPubkey, masterAt, reads⟩ := Outcome.bind_eq_ok_iff.mp reads
    obtain ⟨addr, addrAt, reads⟩ := Outcome.bind_eq_ok_iff.mp reads
    rw [← Except.ok.inj reads, opened, Outcome.ok_orReturn, if_neg enough, pubkeyAt,
      Outcome.ok_orReturn, certAt, Outcome.ok_orReturn, parsed, Outcome.ok_orReturn, masterAt,
      Outcome.ok_orReturn, addrAt]
    rfl

/-- The session that a responder leaves when it has answered. -/
def concluded (session : Session crypto noise) (draws : HandshakeDraws)
    (result : HandshakeResult) (ratchet : DoubleRatchet) : Session crypto noise :=
  { session with
    ourRatchetDhPriv := some draws.ratchetSecret
    responder := none
    ratchet := some ratchet
    handshakeHash := some result.handshakeHash
    remoteStatic := some result.remoteStatic
    connectionId := some (deriveConnectionId crypto result.handshakeHash) }

/-- A responder that was introduced answers when the handshake vouches for the certificate. -/
theorem replyHandshake_of_vouched {session : Session crypto noise} {responder : Responder noise}
    {introduction : Introduction crypto} {draws : HandshakeDraws} {reply : Bytes}
    {result : HandshakeResult}
    (replied : responder.reply (session.replyPayload draws.ratchetSecret) draws.ephemeral =
      .ok (reply, result))
    (vouched : introduction.certificate.deviceX25519Pubkey = result.remoteStatic) :
    ∃ ratchet, DoubleRatchet.new crypto
        (deriveRootKey crypto result.handshakeHash draws.ratchetSecret introduction.ratchetPub)
          draws.ratchetSecret introduction.ratchetPub draws.now = .ok ratchet ∧
      (session.introduced responder introduction).replyHandshake draws =
        (.ok reply, (session.introduced responder introduction).concluded draws result ratchet) := by
  obtain ⟨ratchet, built⟩ := DoubleRatchet.exists_new crypto
    (deriveRootKey crypto result.handshakeHash draws.ratchetSecret introduction.ratchetPub)
      draws.ratchetSecret introduction.ratchetPub draws.now
  refine ⟨ratchet, built, ?_⟩
  rw [replyHandshake]
  dsimp only [introduced, okOr, unwrap]
  rw [Outcome.ok_orReturn, show responder.reply ((crypto.publicKey draws.ratchetSecret).toList ++
    session.ourDeviceCertificate.serialize) draws.ephemeral = _ from replied, Outcome.ok_orReturn]
  dsimp only
  rw [Outcome.ok_orReturn, if_neg (not_not.mpr vouched), Outcome.ok_orReturn, built,
    Outcome.ok_orReturn]
  rfl

/-- When it does not, the responder fails, without a connection id. -/
theorem replyHandshake_of_not_vouched {session : Session crypto noise}
    {responder : Responder noise} {introduction : Introduction crypto} {draws : HandshakeDraws}
    (fresh : session.connectionId = none)
    (unvouched : ¬ introduction.Vouched responder (session.replyPayload draws.ratchetSecret)
      draws.ephemeral) :
    ∃ fault last, (session.introduced responder introduction).replyHandshake draws =
      (.error fault, last) ∧ last.connectionId = none := by
  rw [replyHandshake]
  dsimp only [introduced, okOr, unwrap]
  rw [Outcome.ok_orReturn]
  rcases replied : responder.reply ((crypto.publicKey draws.ratchetSecret).toList ++
    session.ourDeviceCertificate.serialize) draws.ephemeral with fault | ⟨reply, result⟩
  · exact ⟨fault, _, rfl, fresh⟩
  · have different : introduction.certificate.deviceX25519Pubkey ≠ result.remoteStatic :=
      fun same => unvouched ⟨reply, result, replied, same⟩
    rw [Outcome.ok_orReturn]
    dsimp only
    rw [Outcome.ok_orReturn, if_pos different]
    exact ⟨_, _, rfl, fresh⟩

end Session

end Insub
