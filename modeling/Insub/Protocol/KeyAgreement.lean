/-
This file proves that a handshake whose messages arrive unaltered is accepted on both sides, and
what both sides hold then. Each side writes its certificate and its ratchet key into a payload at
fixed places, the caller also its master key and its address, which ends the payload and has no
length of its own.
-/

import Mathlib
import Insub.Identity.Lifecycle
import Insub.Protocol.Introduction

namespace Insub

open Rust

variable {crypto : Primitives} {noise : Noise}

/-! ### The payloads -/

namespace Session

/-- The address at the end of a payload is read, if it has no flow info and no scope id. -/
theorem readAddress_addressBytes {addr : SocketAddr} (plain : addr.IsPlain) (before : Bytes) :
    readAddress before.length (before ++ addressBytes addr) = .ok addr := by
  cases addr with
  | v4 ip port =>
    obtain ⟨size, kindRead, ipRead, portRead⟩ := read_ipAndPort before [] 4 ip port
    rw [List.append_nil] at size kindRead ipRead portRead
    have whole : ¬ (before ++ addressBytes (.v4 ip port)).length < before.length + 7 := by
      rw [addressBytes, size]
      simp
    rw [readAddress, addressBytes, kindRead, Outcome.bind_ok]
    rw [show (4 : UInt8).toNat = 4 from rfl]
    rw [addressBytes] at whole
    rw [if_neg whole, ipRead, Outcome.bind_ok, portRead, Outcome.bind_ok,
      ofBeBytes_beBytes port (by norm_num)]
    rfl
  | v6 ip port flowinfo scopeId =>
    obtain ⟨size, kindRead, ipRead, portRead⟩ := read_ipAndPort before [] 6 ip port
    rw [List.append_nil] at size kindRead ipRead portRead
    have whole : ¬ (before ++ addressBytes (.v6 ip port flowinfo scopeId)).length <
        before.length + 19 := by
      rw [addressBytes, size]
      simp
    rw [readAddress, addressBytes, kindRead, Outcome.bind_ok]
    rw [show (6 : UInt8).toNat = 6 from rfl]
    rw [addressBytes] at whole
    rw [if_neg whole, ipRead, Outcome.bind_ok, portRead, Outcome.bind_ok,
      ofBeBytes_beBytes port (by norm_num)]
    exact congrArg Except.ok plain

theorem length_addressBytes (addr : SocketAddr) :
    7 ≤ (addressBytes addr).length ∧ (addressBytes addr).length ≤ 19 := by
  cases addr with
  | v4 ip port => simp [addressBytes]
  | v6 ip port flowinfo scopeId => simp [addressBytes]

/-- What a caller says of itself, as `initiate_handshake` writes it. -/
def callPayload (session : Session crypto noise) (ourMasterPubkey : Key) (ourAddr : SocketAddr)
    (ratchetSecret : Key) : Bytes :=
  (crypto.publicKey ratchetSecret).toList ++ session.ourDeviceCertificate.serialize ++
    ourMasterPubkey.toList ++ addressBytes ourAddr

theorem length_callPayload (session : Session crypto noise) (ourMasterPubkey : Key)
    (ourAddr : SocketAddr) (ratchetSecret : Key) :
    (session.callPayload ourMasterPubkey ourAddr ratchetSecret).length =
      192 + (addressBytes ourAddr).length := by
  simp [callPayload, DeviceCertificate.length_serialize]
  ring

end Session

/-- The introduction of a caller is read as it was written. -/
theorem Introduction.read_callPayload (session : Session crypto noise) (ourMasterPubkey : Key)
    {ourAddr : SocketAddr} (plain : ourAddr.IsPlain) (ratchetSecret : Key) :
    Introduction.read (session.callPayload ourMasterPubkey ourAddr ratchetSecret) = .ok
      { ratchetPub := crypto.publicKey ratchetSecret
        certificate := session.ourDeviceCertificate
        masterPubkey := ourMasterPubkey
        addr := ourAddr } := by
  have size := session.length_callPayload ourMasterPubkey ourAddr ratchetSecret
  have enough : ¬ (session.callPayload ourMasterPubkey ourAddr ratchetSecret).length <
      32 + 128 + 32 + 7 := by
    have address := Session.length_addressBytes ourAddr
    omega
  have certificateSize := session.ourDeviceCertificate.length_serialize
  have front : ((crypto.publicKey ratchetSecret).toList ++
      session.ourDeviceCertificate.serialize).length = 160 := by
    rw [List.length_append, certificateSize, List.Vector.toList_length]
  have whole : ((crypto.publicKey ratchetSecret).toList ++
      session.ourDeviceCertificate.serialize ++ ourMasterPubkey.toList).length = 192 := by
    rw [List.length_append, front, List.Vector.toList_length]
  have ratchetAt : slice 0 32 (session.callPayload ourMasterPubkey ourAddr ratchetSecret) =
      .ok (crypto.publicKey ratchetSecret) := by
    rw [Session.callPayload, List.append_assoc, List.append_assoc]
    have front : ([] : Bytes).length = 0 := rfl
    exact slice_append front
  obtain ⟨certBytes, certificateAt, written⟩ : ∃ certBytes : Octets 128,
      slice 32 128 (session.callPayload ourMasterPubkey ourAddr ratchetSecret) = .ok certBytes ∧
        certBytes.toList = session.ourDeviceCertificate.serialize := by
    rw [Session.callPayload, List.append_assoc, List.append_assoc]
    exact slice_of_append (List.Vector.toList_length _) certificateSize
  have masterAt : slice 160 32 (session.callPayload ourMasterPubkey ourAddr ratchetSecret) =
      .ok ourMasterPubkey := by
    rw [Session.callPayload, List.append_assoc]
    exact slice_append front
  have addressAt : Session.readAddress 192
      (session.callPayload ourMasterPubkey ourAddr ratchetSecret) = .ok ourAddr := by
    rw [Session.callPayload, ← whole]
    exact Session.readAddress_addressBytes plain _
  rw [read, if_neg enough, ratchetAt, Outcome.bind_ok, certificateAt, Outcome.bind_ok, written,
    DeviceCertificate.fromSerialized_serialize, masterAt, addressAt]
  rfl

/-! ### The four steps -/

namespace Session

/-- A caller writes its introduction into the first message. -/
theorem initiateHandshake_eq {session : Session crypto noise} {initiator called : Initiator noise}
    {ourMasterPubkey : Key} (speaks : session.ourMasterPubkey = some ourMasterPubkey)
    (calls : session.initiator = some initiator) {ourAddr : SocketAddr} {draws : HandshakeDraws}
    {message : Bytes}
    (wrote : initiator.initiate (session.callPayload ourMasterPubkey ourAddr draws.ratchetSecret)
      draws.ephemeral = (.ok message, called)) :
    session.initiateHandshake ourAddr draws = (.ok message,
      { session with
        ourRatchetDhPriv := some draws.ratchetSecret
        initiator := some called }) := by
  rw [initiateHandshake, speaks, calls]
  dsimp only [okOr]
  rw [Outcome.ok_orReturn, Outcome.ok_orReturn]
  rw [callPayload] at wrote
  rw [wrote]

/-- The session that a caller leaves when it has the answer. -/
def completed (session : Session crypto noise) (certificate : DeviceCertificate crypto)
    (result : HandshakeResult) (ratchet : DoubleRatchet) : Session crypto noise :=
  { session with
    initiator := none
    peerDeviceCertificate := some certificate
    ratchet := some ratchet
    handshakeHash := some result.handshakeHash
    remoteStatic := some result.remoteStatic
    connectionId := some (deriveConnectionId crypto result.handshakeHash) }

/-- A caller completes the handshake with an answer that vouches for a certificate of the user
it expects. -/
theorem completeHandshake_eq (session : Session crypto noise) (draws : HandshakeDraws)
    {initiator : Initiator noise} {result : HandshakeResult} {response : Bytes}
    {theirRatchetPub ourRatchetSecret : Key} {certificate : DeviceCertificate crypto}
    {user : UserID crypto} (calls : session.initiator = some initiator)
    (finished : initiator.finish response = .ok result)
    (payload : result.peerPayload = theirRatchetPub.toList ++ certificate.serialize)
    (vouched : certificate.deviceX25519Pubkey = result.remoteStatic)
    (expects : session.peerUserId = some user) (genuine : certificate.verify user = true)
    (drawn : session.ourRatchetDhPriv = some ourRatchetSecret) :
    ∃ ratchet, DoubleRatchet.new crypto
        (deriveRootKey crypto result.handshakeHash ourRatchetSecret theirRatchetPub)
          ourRatchetSecret theirRatchetPub draws.now = .ok ratchet ∧
      session.completeHandshake response draws = (.ok (), session.completed certificate result
        (ratchet.initiatorPreRatchet crypto draws.preRatchetSecret)) := by
  obtain ⟨ratchet, built⟩ := DoubleRatchet.exists_new crypto
    (deriveRootKey crypto result.handshakeHash ourRatchetSecret theirRatchetPub) ourRatchetSecret
      theirRatchetPub draws.now
  refine ⟨ratchet, built, ?_⟩
  have enough : ¬ result.peerPayload.length < 32 + 128 := by
    rw [payload, List.length_append, certificate.length_serialize, List.Vector.toList_length]
    omega
  have ratchetAt : slice 0 32 result.peerPayload = .ok theirRatchetPub := by
    rw [payload]
    have front : ([] : Bytes).length = 0 := rfl
    exact slice_append front
  have rest : result.peerPayload.drop 32 = certificate.serialize := by
    rw [payload, List.drop_left' (List.Vector.toList_length _)]
  have parsed : (DeviceCertificate.fromSerialized (result.peerPayload.drop 32)).inContext
      "bad peer device certificate" = .ok certificate := by
    rw [rest, DeviceCertificate.fromSerialized_serialize]
    rfl
  have expected : ¬ (session.peerUserId.any fun peerId => !certificate.verify peerId) = true := by
    rw [expects, Option.any_some, genuine]
    exact Bool.false_ne_true
  rw [completeHandshake, calls]
  dsimp only [okOr]
  rw [Outcome.ok_orReturn, finished, Outcome.ok_orReturn, if_neg enough, ratchetAt,
    Outcome.ok_orReturn, parsed, Outcome.ok_orReturn, if_neg (not_not.mpr vouched), if_neg expected]
  rw [completed, drawn, unwrap, Outcome.ok_orReturn, built, Outcome.ok_orReturn]

end Session

/-! ### What both sides hold -/

/-- Both sides have the same handshake hash, connection id and ratchet secret, and each has the
certificate of the other. The responder has the master key and the address of the initiator. -/
structure Introduced (initiator responder : Session crypto noise)
    (initiatorCert responderCert : DeviceCertificate crypto) (initiatorPk : Key)
    (initiatorAddr : SocketAddr) : Prop where
  handshakeHash : ∃ hash, initiator.handshakeHash = some hash ∧ responder.handshakeHash = some hash
  connectionId : ∃ connId, initiator.connectionId = some connId ∧
    responder.connectionId = some connId
  ratchets : ∃ sharedSecret initiatorSecret responderSecret freshSecret first second
      initiatorRatchet responderRatchet,
    DoubleRatchet.new crypto sharedSecret initiatorSecret (crypto.publicKey responderSecret) first =
      .ok initiatorRatchet ∧
    DoubleRatchet.new crypto sharedSecret responderSecret (crypto.publicKey initiatorSecret) second =
      .ok responderRatchet ∧
    crypto.publicKey freshSecret ≠ crypto.publicKey initiatorSecret ∧
    initiator.ratchet = some (initiatorRatchet.initiatorPreRatchet crypto freshSecret) ∧
    responder.ratchet = some responderRatchet
  responderCert : initiator.peerDeviceCertificate = some responderCert
  initiatorCert : responder.peerDeviceCertificate = some initiatorCert
  initiatorPk : responder.peerMasterPubkey = some initiatorPk
  initiatorAddr : responder.peerAddr = some initiatorAddr

/-- Both sides derive the same root key. -/
theorem deriveRootKey_comm (commutes : crypto.DiffieHellmanCommutes)
    (handshakeHash first second : Key) :
    deriveRootKey crypto handshakeHash first (crypto.publicKey second) =
      deriveRootKey crypto handshakeHash second (crypto.publicKey first) := by
  rw [deriveRootKey, commutes]
  rfl

theorem Session.newInitiator_ok {ourDeviceX25519Priv peerDeviceX25519Pub : Key}
    {initiator : Initiator noise}
    (built : Initiator.new noise ourDeviceX25519Priv peerDeviceX25519Pub = .ok initiator)
    (ourCert : DeviceCertificate crypto) (ourMasterPubkey : Key) (user : UserID crypto) :
    ∃ session : Session crypto noise, newInitiator ourDeviceX25519Priv peerDeviceX25519Pub ourCert
        ourMasterPubkey user = .ok session ∧
      session.initiator = some initiator ∧ session.ourDeviceCertificate = ourCert ∧
        session.ourMasterPubkey = some ourMasterPubkey ∧ session.peerUserId = some user := by
  rw [newInitiator, built]
  exact ⟨_, rfl, rfl, rfl, rfl, rfl⟩

theorem Session.newResponder_ok {ourDeviceX25519Priv : Key} {responder : Responder noise}
    (built : Responder.new noise ourDeviceX25519Priv = .ok responder)
    (ourCert : DeviceCertificate crypto) (ourMasterPubkey : Key) :
    ∃ session : Session crypto noise, newResponder ourDeviceX25519Priv ourCert ourMasterPubkey =
        .ok session ∧
      session.responder = some responder ∧ session.ourDeviceCertificate = ourCert ∧
        session.ourMasterPubkey = some ourMasterPubkey := by
  rw [newResponder, built]
  exact ⟨_, rfl, rfl, rfl, rfl⟩

/-- Two devices that are about to meet. The certificate of each is about its static key, and the
initiator expects the user whose device the responder is. -/
structure Meeting (crypto : Primitives) where
  initiatorPriv : Key
  responderPriv : Key
  initiatorCert : DeviceCertificate crypto
  responderCert : DeviceCertificate crypto
  initiatorPk : Key
  /-- The user of the responder, with its master key. -/
  user : UserID crypto
  /-- Where the initiator says it can be reached. -/
  addr : SocketAddr
  initiatorStatic : initiatorCert.deviceX25519Pubkey = crypto.publicKey initiatorPriv
  responderStatic : responderCert.deviceX25519Pubkey = crypto.publicKey responderPriv
  genuine : responderCert.verify user = true
  plain : addr.IsPlain

/-- The four steps of a handshake, with each message delivered as it was written, and the sessions
they leave. -/
structure Meeting.Handshakes (meeting : Meeting crypto)
    (calling answering completing : HandshakeDraws) (initiator responder : Session crypto noise) :
    Prop where
  steps : ∃ (calls called answers accepted : Session crypto noise) (message response : Bytes),
    Session.newInitiator meeting.initiatorPriv meeting.responderCert.deviceX25519Pubkey
      meeting.initiatorCert meeting.initiatorPk meeting.user = .ok calls ∧
    Session.newResponder meeting.responderPriv meeting.responderCert
      meeting.user.publicKey.bytes = .ok answers ∧
    calls.initiateHandshake meeting.addr calling = (.ok message, called) ∧
    answers.acceptHandshake message = (.ok (), accepted) ∧
    accepted.replyHandshake answering = (.ok response, responder) ∧
    called.completeHandshake response completing = (.ok (), initiator)

/-- Every step of a handshake succeeds, and both sides are introduced to each other. -/
theorem Meeting.handshakes (commutes : crypto.DiffieHellmanCommutes)
    (delivers : noise.DeliversUnaltered crypto) (meeting : Meeting crypto)
    (calling answering completing : HandshakeDraws)
    (fresh : crypto.publicKey completing.preRatchetSecret ≠ crypto.publicKey calling.ratchetSecret) :
    ∃ initiator responder : Session crypto noise,
      meeting.Handshakes calling answering completing initiator responder ∧
        Introduced initiator responder meeting.initiatorCert meeting.responderCert
          meeting.initiatorPk meeting.addr ∧
            initiator.ourMasterPubkey = some meeting.initiatorPk ∧
              responder.ourMasterPubkey = some meeting.user.publicKey.bytes := by
  obtain ⟨initiatorPriv, responderPriv, initiatorCert, responderCert, initiatorPk, user, addr,
    initiatorStatic, responderStatic, genuine, plain⟩ := meeting
  let callPayload := (crypto.publicKey calling.ratchetSecret).toList ++ initiatorCert.serialize ++
    initiatorPk.toList ++ Session.addressBytes addr
  let replyPayload := (crypto.publicKey answering.ratchetSecret).toList ++ responderCert.serialize
  have callFits : callPayload.length ≤ Noise.payloadLimit := by
    have address := Session.length_addressBytes addr
    simp only [callPayload, List.length_append, List.Vector.toList_length,
      DeviceCertificate.length_serialize, Noise.payloadLimit]
    omega
  have replyFits : replyPayload.length ≤ Noise.payloadLimit := by
    simp only [replyPayload, List.length_append, List.Vector.toList_length,
      DeviceCertificate.length_serialize, Noise.payloadLimit]
    omega
  obtain ⟨initiator, called, waiting, accepting, message, response, hash, builtInitiator,
    builtResponder, wrote, accepted, replied, finished⟩ :=
    delivers.run initiatorPriv responderPriv calling.ephemeral answering.ephemeral callFits replyFits
  rw [← responderStatic] at builtInitiator
  obtain ⟨calls, madeInitiator, calls_initiator, rfl, initiatorSpeaks, expects⟩ :=
    Session.newInitiator_ok builtInitiator initiatorCert initiatorPk user
  obtain ⟨answers, madeResponder, answers_responder, rfl, responderSpeaks⟩ :=
    Session.newResponder_ok builtResponder responderCert user.publicKey.bytes
  let introduction : Introduction crypto :=
    ⟨crypto.publicKey calling.ratchetSecret, calls.ourDeviceCertificate, initiatorPk, addr⟩
  have acceptance : answers.acceptHandshake message =
      (.ok (), answers.introduced accepting introduction) := by
    refine (Session.acceptHandshake_eq_ok_iff answers_responder).mpr
      ⟨callPayload, introduction, ?_, Introduction.read_callPayload calls initiatorPk plain _, ?_⟩
    · rw [accepted]
    · rw [accepted]
  obtain ⟨responderRatchet, responderBuilt, reply⟩ :=
    Session.replyHandshake_of_vouched replied (show introduction.certificate.deviceX25519Pubkey = _
      from initiatorStatic)
  let awaiting : Session crypto noise := { calls with
    ourRatchetDhPriv := some calling.ratchetSecret
    initiator := some called }
  obtain ⟨initiatorRatchet, initiatorBuilt, completion⟩ := awaiting.completeHandshake_eq completing
    rfl finished rfl responderStatic expects genuine rfl
  rw [deriveRootKey_comm commutes] at responderBuilt
  refine ⟨_, _, ⟨calls, _, answers, _, message, response, madeInitiator, madeResponder,
    Session.initiateHandshake_eq initiatorSpeaks calls_initiator wrote, acceptance, reply,
    completion⟩, ⟨⟨hash, rfl, rfl⟩, ⟨_, rfl, rfl⟩, ⟨_, _, _, _, _, _, _, _, initiatorBuilt,
    responderBuilt, fresh, rfl, rfl⟩, rfl, rfl, rfl, rfl⟩, initiatorSpeaks, responderSpeaks⟩

end Insub
