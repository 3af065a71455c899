/-
This file models `protocol/session.rs`: the two ways a session is established, and what it
sends and receives once it is.

An initiator knows whom it calls, and checks the certificate it receives against that
user's master key. A responder learns the master key from the initiator's payload, next to
the certificate; it checks that the certificate is about the key the handshake
authenticated, and nothing more.
-/

import Mathlib
import Insub.Crypto.Handshake
import Insub.Crypto.Ratchet
import Insub.Identity.Certificates
import Insub.Protocol.Packet

namespace Insub

open Rust

/-- Expanding to 16 bytes never fails, so the `expect` of the code does not panic. -/
def deriveConnectionId (crypto : Primitives) (handshakeHash : Key) : ConnectionId :=
  crypto.hkdf none handshakeHash.toList (ascii "connection-id") 16

def deriveRootKey (crypto : Primitives) (handshakeHash ourRatchetPriv theirRatchetPub : Key) :
    Key :=
  let dhOutput := crypto.diffieHellman ourRatchetPriv theirRatchetPub
  crypto.hkdf (some handshakeHash.toList) dhOutput.toList (ascii "insub-ratchet-root") 32

structure Session (crypto : Primitives) (noise : Noise) where
  initiator : Option (Initiator noise)
  responder : Option (Responder noise)
  ratchet : Option DoubleRatchet
  handshakeHash : Option Key
  remoteStatic : Option Key
  ourRatchetDhPriv : Option Key
  theirRatchetDhPub : Option Key
  ourDeviceCertificate : DeviceCertificate crypto
  ourMasterPubkey : Option Key
  peerDeviceCertificate : Option (DeviceCertificate crypto)
  peerUserId : Option (UserID crypto)
  peerMasterPubkey : Option Key
  peerAddr : Option SocketAddr
  connectionId : Option ConnectionId

/-- What one step of a handshake draws: a ratchet secret, the ephemeral secret of the Noise
message, the secret of the pre-ratchet, and the time at which the ratchet is built. -/
structure HandshakeDraws where
  ratchetSecret : Key
  ephemeral : Key
  preRatchetSecret : Key
  now : Nat

namespace Session

variable {crypto : Primitives} {noise : Noise}

def newInitiator (ourDeviceX25519Priv peerDeviceX25519Pub : Key)
    (ourCert : DeviceCertificate crypto) (ourMasterPubkey : Key) (peerUserId : UserID crypto) :
    Outcome (Session crypto noise) := do
  let initiator ← Initiator.new noise ourDeviceX25519Priv peerDeviceX25519Pub
  .ok { initiator := some initiator
        responder := none
        ratchet := none
        handshakeHash := none
        remoteStatic := none
        ourRatchetDhPriv := none
        theirRatchetDhPub := none
        ourDeviceCertificate := ourCert
        ourMasterPubkey := some ourMasterPubkey
        peerDeviceCertificate := none
        peerUserId := some peerUserId
        peerMasterPubkey := none
        peerAddr := none
        connectionId := none }

/-- The kind, address and port of a socket address. -/
def addressBytes : SocketAddr → Bytes
  | .v4 ip port => [4] ++ (ip.toList ++ (beBytes 2 port).toList)
  | .v6 ip port _ _ => [6] ++ (ip.toList ++ (beBytes 2 port).toList)

def initiateHandshake (session : Session crypto noise) (ourAddr : SocketAddr)
    (draws : HandshakeDraws) : Outcome Bytes × Session crypto noise :=
  let ratchetPub := (crypto.publicKey draws.ratchetSecret).toList
  let certificate := session.ourDeviceCertificate.serialize
  (okOr "master pubkey not set" session.ourMasterPubkey).orReturn session fun ourMasterPubkey =>
  let payload := ratchetPub ++ certificate ++ ourMasterPubkey.toList ++ addressBytes ourAddr
  let session := { session with ourRatchetDhPriv := some draws.ratchetSecret }
  (okOr "Session is not an initiator" session.initiator).orReturn session fun initiator =>
  match initiator.initiate payload draws.ephemeral with
  | (outcome, initiator) => (outcome, { session with initiator := some initiator })

def completeHandshake (session : Session crypto noise) (response : Bytes)
    (draws : HandshakeDraws) : Outcome Unit × Session crypto noise :=
  (okOr "Session is not an initiator" session.initiator).orReturn session fun initiator =>
  let session := { session with initiator := none }
  (initiator.finish response).orReturn session fun result =>
  -- payload is [ratchet_dh_pub (32)] [device_certificate (128)]
  if result.peerPayload.length < 32 + 128 then
    (.error (.error "handshake payload too short for certificate"), session)
  else
    (slice 0 32 result.peerPayload).orReturn session fun theirRatchetPub =>
    ((DeviceCertificate.fromSerialized (result.peerPayload.drop 32)).inContext
      "bad peer device certificate").orReturn session fun peerCert =>
    -- the Noise-authenticated static key must match the certificate
    if peerCert.deviceX25519Pubkey ≠ result.remoteStatic then
      (.error (.error "peer certificate x25519 key doesn't match handshake"), session)
    -- verify master signature against the peer identity we expect
    else if session.peerUserId.any fun peerId => !peerCert.verify peerId then
      (.error (.error "peer device certificate signature invalid"), session)
    else
      let session := { session with peerDeviceCertificate := some peerCert }
      (unwrap session.ourRatchetDhPriv).orReturn session fun ourRatchetDhPriv =>
      let rootKey := deriveRootKey crypto result.handshakeHash ourRatchetDhPriv theirRatchetPub
      (DoubleRatchet.new crypto rootKey ourRatchetDhPriv theirRatchetPub
        draws.now).orReturn session fun ratchet =>
      (.ok (), { session with
        ratchet := some (ratchet.initiatorPreRatchet crypto draws.preRatchetSecret)
        handshakeHash := some result.handshakeHash
        remoteStatic := some result.remoteStatic
        connectionId := some (deriveConnectionId crypto result.handshakeHash) })

def newResponder (ourDeviceX25519Priv : Key) (ourCert : DeviceCertificate crypto)
    (ourMasterPubkey : Key) : Outcome (Session crypto noise) := do
  let responder ← Responder.new noise ourDeviceX25519Priv
  .ok { initiator := none
        responder := some responder
        ratchet := none
        handshakeHash := none
        remoteStatic := none
        ourRatchetDhPriv := none
        theirRatchetDhPub := none
        ourDeviceCertificate := ourCert
        ourMasterPubkey := some ourMasterPubkey
        peerDeviceCertificate := none
        peerUserId := none
        peerMasterPubkey := none
        peerAddr := none
        connectionId := none }

/-- The address that ends the payload of the first handshake message. -/
def readAddress (addrStart : Nat) (peerPayload : Bytes) : Outcome SocketAddr := do
  let addrKind ← index addrStart peerPayload
  match addrKind.toNat with
  | 4 =>
    if peerPayload.length < addrStart + 7 then .error (.error "truncated addr")
    else do
      let octets ← slice (addrStart + 1) 4 peerPayload
      let port ← slice (addrStart + 5) 2 peerPayload
      .ok (.v4 octets (ofBeBytes 16 port))
  | 6 =>
    if peerPayload.length < addrStart + 19 then .error (.error "truncated addr")
    else do
      let octets ← slice (addrStart + 1) 16 peerPayload
      let port ← slice (addrStart + 17) 2 peerPayload
      .ok (.v6 octets (ofBeBytes 16 port) 0 0)
  | _ => .error (.error "unknown addr kind")

def acceptHandshake (session : Session crypto noise) (incoming : Bytes) :
    Outcome Unit × Session crypto noise :=
  (okOr "Session is not a responder" session.responder).orReturn session fun responder =>
  match responder.accept incoming with
  | (accepted, responder) =>
    let session := { session with responder := some responder }
    accepted.orReturn session fun peerPayload =>
    if peerPayload.length < 32 + 128 + 32 + 7 then
      (.error (.error "handshake payload too short"), session)
    else
      (slice 0 32 peerPayload).orReturn session fun pubkey =>
      let session := { session with theirRatchetDhPub := some pubkey }
      (slice 32 128 peerPayload).orReturn session fun certBytes =>
      ((DeviceCertificate.fromSerialized certBytes.toList).inContext
        "bad peer device certificate").orReturn session fun peerCert =>
      let session := { session with peerDeviceCertificate := some peerCert }
      (slice 160 32 peerPayload).orReturn session fun masterPubkey =>
      let session := { session with peerMasterPubkey := some masterPubkey }
      (readAddress 192 peerPayload).orReturn session fun peerAddr =>
      (.ok (), { session with peerAddr := some peerAddr })

def replyHandshake (session : Session crypto noise) (draws : HandshakeDraws) :
    Outcome Bytes × Session crypto noise :=
  let ratchetPub := (crypto.publicKey draws.ratchetSecret).toList ++
    session.ourDeviceCertificate.serialize
  let session := { session with ourRatchetDhPriv := some draws.ratchetSecret }
  (okOr "Session is not a responder" session.responder).orReturn session fun responder =>
  let session := { session with responder := none }
  (responder.reply ratchetPub draws.ephemeral).orReturn session fun (outgoingMessage, result) =>
  (unwrap session.peerDeviceCertificate).orReturn session fun peerCert =>
  -- the Noise-authenticated static key must match the certificate
  if peerCert.deviceX25519Pubkey ≠ result.remoteStatic then
    (.error (.error "peer certificate x25519 key doesn't match handshake"), session)
  else
    (unwrap session.theirRatchetDhPub).orReturn session fun theirRatchetDhPub =>
    let rootKey :=
      deriveRootKey crypto result.handshakeHash draws.ratchetSecret theirRatchetDhPub
    (DoubleRatchet.new crypto rootKey draws.ratchetSecret theirRatchetDhPub
      draws.now).orReturn session fun ratchet =>
    (.ok outgoingMessage, { session with
      ratchet := some ratchet
      handshakeHash := some result.handshakeHash
      remoteStatic := some result.remoteStatic
      connectionId := some (deriveConnectionId crypto result.handshakeHash) })

def isInitiator (session : Session crypto noise) : Bool := session.initiator.isSome

def isEstablished (session : Session crypto noise) : Bool := session.ratchet.isSome

/-- Seal the bytes behind our master key, with the nonce and the packet id that are drawn. -/
def send (session : Session crypto noise) (bytes : Bytes) (nonce : Nonce) (packetId : U128) :
    Outcome Packet × Session crypto noise :=
  (okOr "master pubkey not set" session.ourMasterPubkey).orReturn session fun senderPk =>
  (okOr "Session not established" session.ratchet).orReturn session fun ratchet =>
  match ratchet.encrypt crypto (senderPk.toList ++ bytes) nonce with
  | (sealing, ratchet) =>
    let session := { session with ratchet := some ratchet }
    sealing.orReturn session fun (messageNumber, ciphertext, nonce, ourDhPub) =>
    (okOr "connection ID not set" session.connectionId).orReturn session fun connId =>
    let data := nonce.toList ++ ourDhPub.toList ++ toBeBytes 4 messageNumber ++ ciphertext
    (.ok (Packet.new 0 packetId { Payload.new .message data with connectionId := connId }),
      session)

def receive (session : Session crypto noise) (packet : Packet) (env : Surroundings) :
    Outcome (Bytes × Key) × Session crypto noise :=
  if packet.payload.tag ≠ .message then
    (.error (.error s!"expected Message payload, got {packet.payload.tag.debug}"), session)
  -- [nonce: 12] [dh_pub: 32] [msg_num: 4 BE] [ciphertext]
  -- ciphertext decrypts to [sender_pk: 32] [message]
  else if packet.payload.data.length < 48 then (.error (.error "packet too short"), session)
  else
    (slice 0 12 packet.payload.data).orReturn session fun nonce =>
    (slice 12 32 packet.payload.data).orReturn session fun theirDhPub =>
    (slice 44 4 packet.payload.data).orReturn session fun messageNumber =>
    (okOr "Session not established" session.ratchet).orReturn session fun ratchet =>
    match ratchet.decrypt crypto (fromBeBytes messageNumber.toList) theirDhPub nonce
        (packet.payload.data.drop 48) env with
    | (opened, ratchet) =>
      let session := { session with ratchet := some ratchet }
      (opened.mapErr "Couldn't decrypt the message").orReturn session fun plaintext =>
      if plaintext.length < 32 then
        (.error (.error "plaintext too short for sender pk"), session)
      else
        (slice 0 32 plaintext).orReturn session fun senderPk =>
        (.ok (plaintext.drop 32, senderPk), session)

def safetyNumber (session : Session crypto noise) (ourMasterEd25519Pub peerMasterEd25519Pub : Key) :
    Option Key :=
  session.handshakeHash.map fun handshakeHash =>
    let (first, second) :=
      if ourMasterEd25519Pub.toList < peerMasterEd25519Pub.toList then
        (ourMasterEd25519Pub, peerMasterEd25519Pub)
      else (peerMasterEd25519Pub, ourMasterEd25519Pub)
    crypto.sha256 (handshakeHash.toList ++ first.toList ++ second.toList)

/-! ### What a session knows of its peer -/

/-- The session holds a certificate of its peer, which verifies under the master public key
and is about the static key the handshake authenticated. -/
def Authenticated (session : Session crypto noise) (peerPk : Key) : Prop :=
  ∃ certificate, session.peerDeviceCertificate = some certificate ∧
    certificate.VerifiesUnder peerPk ∧
      session.remoteStatic = some certificate.deviceX25519Pubkey

/-- What is authenticated does not depend on the ratchet. -/
theorem Authenticated.with_ratchet {session : Session crypto noise} {peerPk : Key}
    (authenticated : session.Authenticated peerPk) (ratchet : Option DoubleRatchet) :
    Authenticated { session with ratchet } peerPk :=
  authenticated

/-- What an initiator has made sure of once it completes the handshake, and the session it leaves. -/
theorem completeHandshake_ok {session last : Session crypto noise} {response : Bytes}
    {draws : HandshakeDraws} (run : session.completeHandshake response draws = (.ok (), last)) :
    ∃ (certificate : DeviceCertificate crypto) (result : HandshakeResult) (ratchet : DoubleRatchet),
      certificate.deviceX25519Pubkey = result.remoteStatic ∧
        (∀ user, session.peerUserId = some user → certificate.verify user = true) ∧
          last = { session with
            initiator := none
            peerDeviceCertificate := some certificate
            ratchet := some (ratchet.initiatorPreRatchet crypto draws.preRatchetSecret)
            handshakeHash := some result.handshakeHash
            remoteStatic := some result.remoteStatic
            connectionId := some (deriveConnectionId crypto result.handshakeHash) } := by
  obtain ⟨initiator, _, run⟩ := Outcome.orReturn_eq_ok_iff.mp run
  obtain ⟨result, _, run⟩ := Outcome.orReturn_eq_ok_iff.mp run
  split at run
  · cases run
  obtain ⟨theirRatchetPub, _, run⟩ := Outcome.orReturn_eq_ok_iff.mp run
  obtain ⟨certificate, _, run⟩ := Outcome.orReturn_eq_ok_iff.mp run
  split at run
  · cases run
  rename_i sameStatic
  split at run
  · cases run
  rename_i verified
  obtain ⟨ourRatchetDhPriv, _, run⟩ := Outcome.orReturn_eq_ok_iff.mp run
  obtain ⟨ratchet, _, run⟩ := Outcome.orReturn_eq_ok_iff.mp run
  obtain ⟨_, rfl⟩ := Prod.mk.inj run
  refine ⟨certificate, result, ratchet, not_not.mp sameStatic, fun user expected => ?_, rfl⟩
  simpa [expected] using verified

/-- A completed handshake names its connection. -/
theorem completeHandshake_connectionId {session last : Session crypto noise} {response : Bytes}
    {draws : HandshakeDraws} (run : session.completeHandshake response draws = (.ok (), last)) :
    ∃ connId, last.connectionId = some connId := by
  obtain ⟨_, _, _, _, _, rfl⟩ := completeHandshake_ok run
  exact ⟨_, rfl⟩

/-- An initiator that completes the handshake has authenticated the user it expects. -/
theorem completeHandshake_authenticated {session last : Session crypto noise} {response : Bytes}
    {draws : HandshakeDraws} {user : UserID crypto} (expected : session.peerUserId = some user)
    (run : session.completeHandshake response draws = (.ok (), last)) :
    last.Authenticated user.publicKey.bytes := by
  obtain ⟨certificate, result, ratchet, sameStatic, verified, rfl⟩ := completeHandshake_ok run
  exact ⟨certificate, rfl, ⟨user, UserID.ofBytes_bytes user, verified user expected⟩,
    congrArg some sameStatic.symm⟩

/-- Whom a session speaks for, whom it expects, and where its peer said it can be reached. -/
structure SameParties (before after : Session crypto noise) : Prop where
  ourMasterPubkey : after.ourMasterPubkey = before.ourMasterPubkey
  peerUserId : after.peerUserId = before.peerUserId
  peerAddr : after.peerAddr = before.peerAddr

theorem sameParties_initiateHandshake (session : Session crypto noise) (ourAddr : SocketAddr)
    (draws : HandshakeDraws) :
    session.SameParties (session.initiateHandshake ourAddr draws).2 := by
  refine Outcome.orReturn_state session.SameParties ⟨rfl, rfl, rfl⟩ fun ourMasterPubkey _ => ?_
  refine Outcome.orReturn_state session.SameParties ⟨rfl, rfl, rfl⟩ fun initiator _ => ?_
  exact ⟨rfl, rfl, rfl⟩

/-- Whatever becomes of the handshake, the parties stay the same. -/
theorem sameParties_completeHandshake {session last : Session crypto noise} {response : Bytes}
    {draws : HandshakeDraws} {outcome : Outcome Unit}
    (run : session.completeHandshake response draws = (outcome, last)) :
    session.SameParties last := by
  rw [show last = (session.completeHandshake response draws).2 from (congrArg Prod.snd run).symm]
  refine Outcome.orReturn_state session.SameParties ⟨rfl, rfl, rfl⟩ fun initiator _ => ?_
  refine Outcome.orReturn_state session.SameParties ⟨rfl, rfl, rfl⟩ fun result _ => ?_
  split
  · exact ⟨rfl, rfl, rfl⟩
  refine Outcome.orReturn_state session.SameParties ⟨rfl, rfl, rfl⟩ fun theirRatchetPub _ => ?_
  refine Outcome.orReturn_state session.SameParties ⟨rfl, rfl, rfl⟩ fun certificate _ => ?_
  split
  · exact ⟨rfl, rfl, rfl⟩
  split
  · exact ⟨rfl, rfl, rfl⟩
  refine Outcome.orReturn_state session.SameParties ⟨rfl, rfl, rfl⟩ fun ourRatchetDhPriv _ => ?_
  refine Outcome.orReturn_state session.SameParties ⟨rfl, rfl, rfl⟩ fun ratchet _ => ?_
  exact ⟨rfl, rfl, rfl⟩

/-- What a responder has taken in once it accepts: a payload the handshake opens, with the
certificate and the claimed master key in their places. -/
theorem acceptHandshake_ok {session last : Session crypto noise} {incoming : Bytes}
    (run : session.acceptHandshake incoming = (.ok (), last)) :
    ∃ responder peerPayload certBytes certificate masterPubkey,
      session.responder = some responder ∧
        (responder.accept incoming).1 = .ok peerPayload ∧
          slice 32 128 peerPayload = .ok certBytes ∧
            DeviceCertificate.fromSerialized certBytes.toList = .ok certificate ∧
              slice 160 32 peerPayload = .ok masterPubkey ∧
                last.peerDeviceCertificate = some certificate ∧
                  last.peerMasterPubkey = some masterPubkey ∧
                    last.connectionId = session.connectionId := by
  obtain ⟨responder, holds, run⟩ := Outcome.orReturn_eq_ok_iff.mp run
  obtain ⟨peerPayload, accepted, run⟩ := Outcome.orReturn_eq_ok_iff.mp run
  split at run
  · cases run
  obtain ⟨pubkey, _, run⟩ := Outcome.orReturn_eq_ok_iff.mp run
  obtain ⟨certBytes, certAt, run⟩ := Outcome.orReturn_eq_ok_iff.mp run
  obtain ⟨certificate, parsed, run⟩ := Outcome.orReturn_eq_ok_iff.mp run
  obtain ⟨masterPubkey, masterAt, run⟩ := Outcome.orReturn_eq_ok_iff.mp run
  obtain ⟨peerAddr, _, run⟩ := Outcome.orReturn_eq_ok_iff.mp run
  obtain ⟨_, rfl⟩ := Prod.mk.inj run
  exact ⟨responder, peerPayload, certBytes, certificate, masterPubkey,
    okOr_eq_ok_iff.mp holds, accepted, certAt, Outcome.inContext_eq_ok_iff.mp parsed, masterAt,
    rfl, rfl, rfl⟩

/-- A responder that has a connection id once it has replied holds a certificate about the
static key the handshake authenticated. -/
theorem replyHandshake_remoteStatic (session : Session crypto noise) (draws : HandshakeDraws)
    (fresh : session.connectionId = none) :
    (session.replyHandshake draws).2.peerDeviceCertificate = session.peerDeviceCertificate ∧
      ∀ connId, (session.replyHandshake draws).2.connectionId = some connId →
        ∃ certificate, session.peerDeviceCertificate = some certificate ∧
          (session.replyHandshake draws).2.remoteStatic =
            some certificate.deviceX25519Pubkey := by
  let bound (last : Session crypto noise) : Prop :=
    last.peerDeviceCertificate = session.peerDeviceCertificate ∧
      ∀ connId, last.connectionId = some connId →
        ∃ certificate, session.peerDeviceCertificate = some certificate ∧
          last.remoteStatic = some certificate.deviceX25519Pubkey
  have unbound : ∀ last : Session crypto noise,
      last.peerDeviceCertificate = session.peerDeviceCertificate →
        last.connectionId = session.connectionId → bound last := by
    intro last same unset
    refine ⟨same, fun connId found => ?_⟩
    rw [unset, fresh] at found
    cases found
  refine Outcome.orReturn_state bound (unbound _ rfl rfl) fun responder _ => ?_
  refine Outcome.orReturn_state bound (unbound _ rfl rfl) fun result _ => ?_
  refine Outcome.orReturn_state bound (unbound _ rfl rfl) fun certificate holds => ?_
  split
  · exact unbound _ rfl rfl
  rename_i sameStatic
  refine Outcome.orReturn_state bound (unbound _ rfl rfl) fun theirRatchetDhPub _ => ?_
  refine Outcome.orReturn_state bound (unbound _ rfl rfl) fun ratchet _ => ?_
  exact ⟨rfl, fun _ _ => ⟨certificate, unwrap_eq_ok_iff.mp holds,
    congrArg some (not_not.mp sameStatic).symm⟩⟩

/-- Sending changes the ratchet only. -/
theorem send_frame (session : Session crypto noise) (bytes : Bytes) (nonce : Nonce)
    (packetId : U128) :
    ∃ ratchet, (session.send bytes nonce packetId).2 = { session with ratchet } := by
  let onlyRatchet (last : Session crypto noise) : Prop :=
    ∃ ratchet, last = { session with ratchet }
  refine Outcome.orReturn_state onlyRatchet ⟨_, rfl⟩ fun senderPk _ => ?_
  refine Outcome.orReturn_state onlyRatchet ⟨_, rfl⟩ fun ratchet _ => ?_
  refine Outcome.orReturn_state onlyRatchet ⟨_, rfl⟩ fun sealing _ => ?_
  refine Outcome.orReturn_state onlyRatchet ⟨_, rfl⟩ fun connId _ => ?_
  exact ⟨_, rfl⟩

/-- Receiving changes the ratchet only. -/
theorem receive_frame (session : Session crypto noise) (packet : Packet) (env : Surroundings) :
    ∃ ratchet, (session.receive packet env).2 = { session with ratchet } := by
  let onlyRatchet (last : Session crypto noise) : Prop :=
    ∃ ratchet, last = { session with ratchet }
  have here : onlyRatchet session := ⟨_, rfl⟩
  rw [receive]
  split
  · exact here
  split
  · exact here
  refine Outcome.orReturn_state onlyRatchet here fun nonce _ => ?_
  refine Outcome.orReturn_state onlyRatchet here fun theirDhPub _ => ?_
  refine Outcome.orReturn_state onlyRatchet here fun messageNumber _ => ?_
  refine Outcome.orReturn_state onlyRatchet here fun ratchet _ => ?_
  refine Outcome.orReturn_state onlyRatchet ⟨_, rfl⟩ fun plaintext _ => ?_
  split
  · exact ⟨_, rfl⟩
  refine Outcome.orReturn_state onlyRatchet ⟨_, rfl⟩ fun senderPk _ => ?_
  exact ⟨_, rfl⟩

/-! ### What a packet carries -/

/-- The packet seals the plaintext for the session: under the key that the ratchet selects for
its header, and with its nonce. -/
def Carries (session : Session crypto noise) (packet : Packet) (env : Surroundings)
    (plaintext : Bytes) : Prop :=
  ∃ ratchet nonce theirDhPub messageNumber key, session.ratchet = some ratchet ∧
    slice 0 12 packet.payload.data = .ok nonce ∧
      slice 12 32 packet.payload.data = .ok theirDhPub ∧
        slice 44 4 packet.payload.data = .ok messageNumber ∧
          ratchet.keyFor crypto (fromBeBytes messageNumber.toList) theirDhPub env = some key ∧
            crypto.aeadEncrypt key nonce plaintext = some (packet.payload.data.drop 48)

/-- What a session receives opens under the key that its ratchet selects, behind the key it
reports. -/
theorem opened_of_receive {session last : Session crypto noise} {packet : Packet}
    {env : Surroundings} {inner : Bytes} {senderPk : Key}
    (run : session.receive packet env = (.ok (inner, senderPk), last)) :
    ∃ ratchet nonce theirDhPub messageNumber key, session.ratchet = some ratchet ∧
      slice 0 12 packet.payload.data = .ok nonce ∧
        slice 12 32 packet.payload.data = .ok theirDhPub ∧
          slice 44 4 packet.payload.data = .ok messageNumber ∧
            ratchet.keyFor crypto (fromBeBytes messageNumber.toList) theirDhPub env = some key ∧
              crypto.aeadDecrypt key nonce (packet.payload.data.drop 48) =
                some (senderPk.toList ++ inner) := by
  rw [receive] at run
  split at run
  · cases run
  split at run
  · cases run
  obtain ⟨nonce, nonceAt, run⟩ := Outcome.orReturn_eq_ok_iff.mp run
  obtain ⟨theirDhPub, dhPubAt, run⟩ := Outcome.orReturn_eq_ok_iff.mp run
  obtain ⟨messageNumber, numberAt, run⟩ := Outcome.orReturn_eq_ok_iff.mp run
  obtain ⟨ratchet, established, run⟩ := Outcome.orReturn_eq_ok_iff.mp run
  obtain ⟨plaintext, opened, run⟩ := Outcome.orReturn_eq_ok_iff.mp run
  split at run
  · cases run
  obtain ⟨found, foundAt, run⟩ := Outcome.orReturn_eq_ok_iff.mp run
  obtain ⟨⟨rfl, rfl⟩, _⟩ : (plaintext.drop 32 = inner ∧ found = senderPk) ∧ _ := by
    simpa using run
  obtain ⟨key, selected, unsealed⟩ := (DoubleRatchet.decrypt_eq_ok_iff crypto ratchet _ _ _ _ _
    _).mp (Outcome.mapErr_eq_ok_iff.mp opened)
  refine ⟨ratchet, nonce, theirDhPub, messageNumber, key, okOr_eq_ok_iff.mp established, nonceAt,
    dhPubAt, numberAt, selected, ?_⟩
  rw [append_drop_of_slice foundAt]
  exact unsealed

/-- What a session receives was sealed for it, behind the key it reports. -/
theorem carries_of_receive (opens : crypto.OpensOnlySealed) {session last : Session crypto noise}
    {packet : Packet} {env : Surroundings} {inner : Bytes} {senderPk : Key}
    (run : session.receive packet env = (.ok (inner, senderPk), last)) :
    session.Carries packet env (senderPk.toList ++ inner) := by
  obtain ⟨ratchet, nonce, theirDhPub, messageNumber, key, established, nonceAt, dhPubAt, numberAt,
    selected, unsealed⟩ := opened_of_receive run
  exact ⟨ratchet, nonce, theirDhPub, messageNumber, key, established, nonceAt, dhPubAt, numberAt,
    selected, opens key nonce _ _ unsealed⟩

end Session

end Insub
