/-
This file follows a call from runtime to runtime. The caller writes its introduction into a packet
under a tag that it draws, and keeps the session under that tag. The runtime that is called enters a
session and answers under the same tag, to the address that the introduction names, and the caller
enters its own session when it has the answer. When both packets arrive unaltered, neither side can
fail, and both report one safety number.
-/

import Mathlib
import Insub.Client.SafetyNumber
import Insub.Protocol.Conversation
import Insub.Runtime.Frames
import Insub.Runtime.Node

namespace Insub

open Rust

variable {crypto : Primitives} {noise : Noise}

/-- A handshake message under the tag of its call. -/
def Packet.ofHandshake (tag : HandshakeTag) (message : Bytes) (packetId : U128) : Packet :=
  Packet.new 0 packetId { Payload.new .handshake message with connectionId := tag }

/-! ### Sessions that meet -/

/-- No key pair is the only one. -/
def Primitives.Varied (crypto : Primitives) : Prop :=
  ∀ key, ∃ secret, crypto.publicKey secret ≠ key

/-- An answer leaves what the responder was told of its peer. -/
theorem Session.replyHandshake_peer (session : Session crypto noise) (draws : HandshakeDraws) :
    (session.replyHandshake draws).2.peerMasterPubkey = session.peerMasterPubkey ∧
      (session.replyHandshake draws).2.peerAddr = session.peerAddr := by
  let told (last : Session crypto noise) : Prop :=
    last.peerMasterPubkey = session.peerMasterPubkey ∧ last.peerAddr = session.peerAddr
  refine Outcome.orReturn_state told ⟨rfl, rfl⟩ fun responder _ => ?_
  refine Outcome.orReturn_state told ⟨rfl, rfl⟩ fun result _ => ?_
  refine Outcome.orReturn_state told ⟨rfl, rfl⟩ fun certificate _ => ?_
  split
  · exact ⟨rfl, rfl⟩
  refine Outcome.orReturn_state told ⟨rfl, rfl⟩ fun theirRatchetDhPub _ => ?_
  refine Outcome.orReturn_state told ⟨rfl, rfl⟩ fun ratchet _ => ?_
  exact ⟨rfl, rfl⟩

/-- A message whose payload fits is written into its buffer. -/
def Noise.WritesWithin (noise : Noise) : Prop :=
  ∀ state ephemeral payload message next, payload.length ≤ payloadLimit →
    noise.writeMessage state ephemeral payload messageCapacity = (.ok message, next) →
      message.length ≤ messageCapacity

theorem SampleSuite.varied : sampleSuite.Varied := by
  intro key
  by_cases same : sampleSuite.publicKey (octets 32 1) = key
  · refine ⟨octets 32 2, fun other => ?_⟩
    exact absurd (same.trans other.symm) (by decide +kernel)
  · exact ⟨octets 32 1, same⟩

theorem SampleSuite.noise_writesWithin : SampleSuite.noise.WritesWithin := by
  intro state ephemeral payload message next fits wrote
  change Handshake at state
  have written : (if state.initiates then state.ourStatic.toList ++ payload else payload) =
      message := Except.ok.inj (Prod.mk.inj wrote).1
  rw [Noise.payloadLimit] at fits
  rw [← written, messageCapacity]
  split
  · rw [List.length_append, List.Vector.toList_length]
    omega
  · omega

theorem Responder.length_reply (within : noise.WritesWithin) {responder : Responder noise}
    {payload message : Bytes} {ephemeral : Key} {result : HandshakeResult}
    (fits : payload.length ≤ Noise.payloadLimit)
    (replied : responder.reply payload ephemeral = .ok (message, result)) :
    message.length ≤ messageCapacity := by
  cases held : responder.handshake with
  | none =>
    simp only [Responder.reply, held] at replied
    cases replied
  | some handshake =>
    rcases wrote : noise.writeMessage handshake ephemeral payload messageCapacity with
      ⟨written, next⟩
    simp only [Responder.reply, held, wrote] at replied
    obtain ⟨outgoing, named, replied⟩ := Outcome.bind_eq_ok_iff.mp replied
    obtain ⟨_, _, replied⟩ := Outcome.bind_eq_ok_iff.mp replied
    obtain ⟨rfl, _⟩ := Prod.mk.inj (Except.ok.inj replied)
    rw [Outcome.inContext_eq_ok_iff] at named
    cases written with
    | error reason => cases named
    | ok written =>
      obtain rfl := Except.ok.inj named
      exact within handshake ephemeral payload written next fits wrote

/-- An answer is as short as the buffer it is written into. -/
theorem Session.length_replyHandshake (within : noise.WritesWithin)
    {session last : Session crypto noise} {draws : HandshakeDraws} {reply : Bytes}
    (run : session.replyHandshake draws = (.ok reply, last)) : reply.length ≤ messageCapacity := by
  have fits : ((crypto.publicKey draws.ratchetSecret).toList ++
      session.ourDeviceCertificate.serialize).length ≤ Noise.payloadLimit := by
    rw [List.length_append, DeviceCertificate.length_serialize, List.Vector.toList_length]
    decide
  obtain ⟨responder, _, run⟩ := Outcome.orReturn_eq_ok_iff.mp run
  obtain ⟨⟨message, result⟩, replied, run⟩ := Outcome.orReturn_eq_ok_iff.mp run
  obtain ⟨peerCert, _, run⟩ := Outcome.orReturn_eq_ok_iff.mp run
  split at run
  · cases run
  obtain ⟨theirRatchetDhPub, _, run⟩ := Outcome.orReturn_eq_ok_iff.mp run
  obtain ⟨ratchet, _, run⟩ := Outcome.orReturn_eq_ok_iff.mp run
  obtain rfl := Except.ok.inj (Prod.mk.inj run).1
  exact Responder.length_reply within fits replied

/-- A caller that has written its first message waits, with the ratchet secret it drew. -/
theorem Session.initiateHandshake_waits {session called : Session crypto noise}
    {ourAddr : SocketAddr} {draws : HandshakeDraws} {message : Bytes}
    (run : session.initiateHandshake ourAddr draws = (.ok message, called)) :
    called.isInitiator = true ∧ called.ourRatchetDhPriv = some draws.ratchetSecret := by
  obtain ⟨ourMasterPubkey, _, run⟩ := Outcome.orReturn_eq_ok_iff.mp run
  obtain ⟨initiator, _, run⟩ := Outcome.orReturn_eq_ok_iff.mp run
  obtain ⟨_, rfl⟩ := Prod.mk.inj run
  exact ⟨rfl, rfl⟩

namespace Meeting

/-- The initiator writes its first message, and waits. -/
structure Calls (meeting : Meeting crypto) (calling : HandshakeDraws)
    (called : Session crypto noise) (message : Bytes) : Prop where
  written : ∃ calls : Session crypto noise,
    Session.newInitiator meeting.initiatorPriv meeting.responderCert.deviceX25519Pubkey
      meeting.initiatorCert meeting.initiatorPk meeting.user = .ok calls ∧
    calls.initiateHandshake meeting.addr calling = (.ok message, called)

/-- The responder answers the message, and the initiator completes the handshake with the answer,
whatever it draws then. -/
structure Answers (meeting : Meeting crypto) (calling answering : HandshakeDraws)
    (called : Session crypto noise) (message response : Bytes) (responder : Session crypto noise) :
    Prop where
  replies : ∃ fresh accepted : Session crypto noise,
    Session.newResponder meeting.responderPriv meeting.responderCert meeting.user.publicKey.bytes =
      .ok fresh ∧
    fresh.acceptHandshake message = (.ok (), accepted) ∧
    accepted.replyHandshake answering = (.ok response, responder) ∧
    accepted.peerMasterPubkey = some meeting.initiatorPk ∧ accepted.peerAddr = some meeting.addr
  speaks : responder.ourMasterPubkey = some meeting.user.publicKey.bytes
  completes : ∀ completing : HandshakeDraws,
    crypto.publicKey completing.preRatchetSecret ≠ crypto.publicKey calling.ratchetSecret →
      ∃ initiator, called.completeHandshake response completing = (.ok (), initiator) ∧
        initiator.ourMasterPubkey = some meeting.initiatorPk ∧
          Introduced initiator responder meeting.initiatorCert meeting.responderCert
            meeting.initiatorPk meeting.addr

variable {meeting : Meeting crypto} {calling : HandshakeDraws}

theorem exists_calls (commutes : crypto.DiffieHellmanCommutes)
    (delivers : noise.DeliversUnaltered crypto) (varied : crypto.Varied)
    (meeting : Meeting crypto) (calling : HandshakeDraws) :
    ∃ (called : Session crypto noise) (message : Bytes), meeting.Calls calling called message := by
  obtain ⟨secret, fresh⟩ := varied (crypto.publicKey calling.ratchetSecret)
  obtain ⟨_, _, ⟨calls, called, _, _, message, _, built, _, wrote, _⟩, _⟩ :=
    meeting.handshakes commutes delivers calling calling { calling with preRatchetSecret := secret }
      fresh
  exact ⟨called, message, ⟨calls, built, wrote⟩⟩

theorem Calls.exists_answers (commutes : crypto.DiffieHellmanCommutes)
    (delivers : noise.DeliversUnaltered crypto) (varied : crypto.Varied)
    {called : Session crypto noise} {message : Bytes}
    (waits : meeting.Calls calling called message) (answering : HandshakeDraws) :
    ∃ response responder, meeting.Answers calling answering called message response responder := by
  obtain ⟨calls, built, wrote⟩ := waits.written
  have meets (completing : HandshakeDraws) (fresh : crypto.publicKey completing.preRatchetSecret ≠
      crypto.publicKey calling.ratchetSecret) :
      ∃ initiator responder fresh accepted response,
        Session.newResponder meeting.responderPriv meeting.responderCert
          meeting.user.publicKey.bytes = .ok fresh ∧
        fresh.acceptHandshake message = (.ok (), accepted) ∧
        accepted.replyHandshake answering = (.ok response, responder) ∧
        called.completeHandshake response completing = (.ok (), initiator) ∧
        Introduced initiator responder meeting.initiatorCert meeting.responderCert
          meeting.initiatorPk meeting.addr ∧
        initiator.ourMasterPubkey = some meeting.initiatorPk ∧
        responder.ourMasterPubkey = some meeting.user.publicKey.bytes := by
    obtain ⟨initiator, responder, ⟨sameCalls, sameCalled, fresh, accepted, sameMessage, response,
      sameBuilt, spawned, sameWrote, accepts, replies, completes⟩, introduced, initiatorSpeaks,
      responderSpeaks⟩ := meeting.handshakes commutes delivers calling answering completing fresh
    obtain rfl := Except.ok.inj (built.symm.trans sameBuilt)
    obtain ⟨same, rfl⟩ := Prod.mk.inj (wrote.symm.trans sameWrote)
    obtain rfl := Except.ok.inj same
    exact ⟨initiator, responder, fresh, accepted, response, spawned, accepts, replies, completes,
      introduced, initiatorSpeaks, responderSpeaks⟩
  obtain ⟨secret, differs⟩ := varied (crypto.publicKey calling.ratchetSecret)
  obtain ⟨_, responder, fresh, accepted, response, spawned, accepts, replies, _, introduced, _,
    speaks⟩ := meets { calling with preRatchetSecret := secret } differs
  have told := accepted.replyHandshake_peer answering
  rw [replies] at told
  refine ⟨response, responder, ⟨fresh, accepted, spawned, accepts, replies,
    told.1.symm.trans introduced.initiatorPk, told.2.symm.trans introduced.initiatorAddr⟩, speaks,
    fun completing differs => ?_⟩
  obtain ⟨initiator, same, sameFresh, sameAccepted, sameResponse, sameSpawned, sameAccepts,
    sameReplies, completes, introduced, initiatorSpeaks, _⟩ := meets completing differs
  obtain rfl := Except.ok.inj (spawned.symm.trans sameSpawned)
  obtain ⟨_, rfl⟩ := Prod.mk.inj (accepts.symm.trans sameAccepts)
  obtain ⟨written, rfl⟩ := Prod.mk.inj (replies.symm.trans sameReplies)
  obtain rfl := Except.ok.inj written
  exact ⟨initiator, completes, initiatorSpeaks, introduced⟩

end Meeting

namespace Runtime

/-! ### Calling -/

theorem initiateHandshake_ok (runtime : Runtime crypto noise) (tag : HandshakeTag)
    (draws : RuntimeDraws) {session called : Session crypto noise} {peerPk : Key} {message : Bytes}
    {addr : SocketAddr}
    (found : runtime.pendingSessions.lookup tag = some (session, some peerPk))
    (wrote : session.initiateHandshake runtime.address draws.handshake = (.ok message, called))
    (known : runtime.pkToAddr.lookup peerPk = some addr) :
    runtime.initiateHandshake tag draws = (.ok { Effects.none with
        outgoing := [sendPacket (.ofHandshake tag message draws.packetId) addr
          (deriveId crypto peerPk) draws.frameId] },
      { runtime with
        pendingSessions := runtime.pendingSessions.insert tag (called, some peerPk) }) := by
  rw [initiateHandshake, found]
  dsimp only [okOr]
  rw [Outcome.ok_orReturn]
  dsimp only
  rw [Outcome.ok_orReturn, wrote]
  dsimp only
  rw [Outcome.ok_orReturn, known]
  rfl

theorem enableSessionInitiator_ok (runtime : Runtime crypto noise) {ourPk peerDeviceX25519Pub : Key}
    {cert : DeviceCertificate crypto} {user : UserID crypto} {session : Session crypto noise}
    (owned : runtime.masterPubkey = some ourPk) (certified : runtime.deviceCert = some cert)
    (built : Session.newInitiator runtime.deviceX25519Priv peerDeviceX25519Pub cert ourPk user =
      .ok session) (tag : HandshakeTag) :
    runtime.enableSessionInitiator peerDeviceX25519Pub user tag = (.ok tag, { runtime with
      pendingSessions :=
        runtime.pendingSessions.insert tag (session, some user.publicKey.bytes) }) := by
  rw [enableSessionInitiator, owned]
  dsimp only [okOr]
  rw [Outcome.ok_orReturn, certified]
  dsimp only
  rw [Outcome.ok_orReturn, built]
  rfl

/-- The runtime when its call to a device of a user is out. -/
def calling (runtime : Runtime crypto noise) (peerPk : Key) (addr : SocketAddr) (tag : HandshakeTag)
    (session called : Session crypto noise) : Runtime crypto noise :=
  { runtime with
    pkToAddr := runtime.pkToAddr.insert peerPk addr
    pendingSessions :=
      (runtime.pendingSessions.insert tag (session, some peerPk)).insert tag (called, some peerPk) }

end Runtime

/-- A user with one device is called at the address of its record. -/
theorem Node.contact_one {node : Node crypto noise} {ourPk : Key} {cert device : DeviceCertificate crypto}
    {user : UserID crypto} {record : ContactRecord crypto} {session called : Session crypto noise}
    {message : Bytes} {tag : HandshakeTag} {draws : RuntimeDraws}
    (owned : node.calls.masterPubkey = some ourPk) (certified : node.calls.deviceCert = some cert)
    (listed : record.deviceList.devices = [device])
    (built : Session.newInitiator node.calls.deviceX25519Priv device.deviceX25519Pubkey cert ourPk
      user = .ok session)
    (wrote : session.initiateHandshake node.calls.address draws.handshake =
      (.ok message, called)) :
    node.contact user.publicKey.bytes record (fun _ => (tag, draws)) =
      (.ok (), emit { node with
          calls := node.calls.calling user.publicKey.bytes record.relayAddr tag session called }
        { Effects.none with
          outgoing := [Runtime.sendPacket (.ofHandshake tag message draws.packetId) record.relayAddr
            (deriveId crypto user.publicKey.bytes) draws.frameId] }) := by
  let placed := (node.setPeerAddr user.publicKey.bytes record.relayAddr).calls
  have enabled := Runtime.enableSessionInitiator_ok placed owned certified built tag
  have known : placed.pkToAddr.lookup user.publicKey.bytes = some record.relayAddr :=
    AList.lookup_insert _
  have initiated := Runtime.initiateHandshake_ok { placed with
      pendingSessions :=
        placed.pendingSessions.insert tag (session, some user.publicKey.bytes) } tag draws
    (AList.lookup_insert _) wrote known
  rw [contact, UserID.ofBytes_bytes, listed]
  dsimp only
  rw [List.mapIdx_cons, List.mapIdx_nil, callDevices]
  rw [show (node.setPeerAddr user.publicKey.bytes record.relayAddr).calls = placed from rfl, enabled]
  dsimp only
  rw [initiated]
  rfl

namespace Runtime

/-! ### Answering -/

/-- The runtime when it has entered a session that answers a call. -/
def answering (runtime : Runtime crypto noise) (session : Session crypto noise)
    (connId : ConnectionId) (peerPk : Key) (addr sender : SocketAddr) (tag : HandshakeTag) :
    Runtime crypto noise :=
  let learned := runtime.learnAddress peerPk (some addr)
  let registered := ((learned.pinPeer sender session.peerDeviceCertificate).register connId peerPk
    session).2
  { registered with seenTags := insert tag registered.seenTags }

theorem answering_frame (runtime : Runtime crypto noise) (session : Session crypto noise)
    (connId : ConnectionId) (peerPk : Key) (addr sender : SocketAddr) (tag : HandshakeTag) :
    ∃ peerKeys, runtime.answering session connId peerPk addr sender tag = { runtime with
      sessions := runtime.sessions.insert connId session
      connToPk := runtime.connToPk.insert connId peerPk
      pkToConn :=
        runtime.pkToConn.insert peerPk ((runtime.pkToConn.lookup peerPk).getD [] ++ [connId])
      pkToAddr := runtime.pkToAddr.insert peerPk addr
      seenTags := insert tag runtime.seenTags
      peerKeys } := by
  obtain ⟨peerKeys, pinned⟩ := pinPeer_frame (runtime.learnAddress peerPk (some addr)) sender
    session.peerDeviceCertificate
  rw [answering, pinned]
  exact ⟨peerKeys, rfl⟩

/-- A call whose introduction is read, and whose answer can be written, is answered at the address
that it names. -/
theorem tickHandshake_answers {runtime : Runtime crypto noise} (packet : Packet)
    (draws : RuntimeDraws) {fresh accepted session : Session crypto noise} {reply : Bytes}
    {connId : ConnectionId} {ourPk peerPk number : Key} {addr : SocketAddr}
    (uncalled : runtime.pendingSessions.lookup packet.payload.connectionId = none)
    (unseen : packet.payload.connectionId ∉ runtime.seenTags)
    (spawned : runtime.spawnResponder = .ok fresh)
    (accepts : fresh.acceptHandshake packet.payload.data = (.ok (), accepted))
    (replies : accepted.replyHandshake draws.handshake = (.ok reply, session))
    (named : session.connectionId = some connId)
    (claims : accepted.peerMasterPubkey = some peerPk) (placed : accepted.peerAddr = some addr)
    (owned : runtime.masterPubkey = some ourPk)
    (numbered : session.safetyNumber ourPk peerPk = some number) (sender : SocketAddr) :
    runtime.tickHandshake packet sender draws = (.ok
      { outgoing := [sendPacket (.ofHandshake packet.payload.connectionId reply draws.packetId) addr
          (deriveId crypto peerPk) draws.frameId]
        acks := confirmations packet sender
        messages := []
        established := [(peerPk, number)] },
      runtime.answering session connId peerPk addr sender packet.payload.connectionId) := by
  have learned : (runtime.learnAddress peerPk (some addr)).pkToAddr.lookup peerPk = some addr :=
    AList.lookup_insert _
  obtain ⟨peerKeys, pinned⟩ := pinPeer_frame (runtime.learnAddress peerPk (some addr)) sender
    session.peerDeviceCertificate
  have still : (runtime.learnAddress peerPk (some addr)).masterPubkey = some ourPk := owned
  rw [tickHandshake, completePending, uncalled]
  dsimp only
  rw [if_neg unseen, respond, spawned]
  dsimp only
  rw [accepts]
  dsimp only
  rw [claims, placed, Option.getD_some, replies]
  dsimp only
  rw [settleCall, named, answering, learned]
  dsimp only
  rw [pinned, register]
  dsimp only
  rw [still]
  simp only [Option.getD_some, numbered]
  rfl

/-! ### Completing -/

/-- The runtime when it has entered the session of its own call. -/
def completing (runtime : Runtime crypto noise) (session : Session crypto noise)
    (connId : ConnectionId) (peerPk : Key) (sender : SocketAddr) (tag : HandshakeTag) :
    Runtime crypto noise :=
  let kept := { runtime with
    pendingSessions := runtime.pendingSessions.insert tag (session, some peerPk) }
  let pinned := kept.pinPeer sender session.peerDeviceCertificate
  (register { pinned with pendingSessions := pinned.pendingSessions.erase tag } connId peerPk
    session).2

theorem completing_frame (runtime : Runtime crypto noise) (session : Session crypto noise)
    (connId : ConnectionId) (peerPk : Key) (sender : SocketAddr) (tag : HandshakeTag) :
    ∃ peerKeys, runtime.completing session connId peerPk sender tag = { runtime with
      sessions := runtime.sessions.insert connId session
      pendingSessions :=
        (runtime.pendingSessions.insert tag (session, some peerPk)).erase tag
      connToPk := runtime.connToPk.insert connId peerPk
      pkToConn :=
        runtime.pkToConn.insert peerPk ((runtime.pkToConn.lookup peerPk).getD [] ++ [connId])
      peerKeys } := by
  let kept : Runtime crypto noise := { runtime with
    pendingSessions := runtime.pendingSessions.insert tag (session, some peerPk) }
  obtain ⟨peerKeys, pinned⟩ := pinPeer_frame kept sender session.peerDeviceCertificate
  rw [completing, pinned]
  exact ⟨peerKeys, rfl⟩

/-- An answer that completes the call under its tag enters the session. -/
theorem tickHandshake_completes {runtime : Runtime crypto noise} (packet : Packet)
    (draws : RuntimeDraws) {called session : Session crypto noise} {connId : ConnectionId}
    {ourPk peerPk number : Key}
    (waits : runtime.pendingSessions.lookup packet.payload.connectionId = some (called, some peerPk))
    (initiates : called.isInitiator = true)
    (completes : called.completeHandshake packet.payload.data draws.handshake = (.ok (), session))
    (named : session.connectionId = some connId) (owned : runtime.masterPubkey = some ourPk)
    (numbered : session.safetyNumber ourPk peerPk = some number) (sender : SocketAddr) :
    runtime.tickHandshake packet sender draws = (.ok
      { outgoing := []
        acks := confirmations packet sender
        messages := []
        established := [(peerPk, number)] },
      runtime.completing session connId peerPk sender packet.payload.connectionId) := by
  let kept : Runtime crypto noise := { runtime with
    pendingSessions := runtime.pendingSessions.insert packet.payload.connectionId
      (session, some peerPk) }
  obtain ⟨peerKeys, pinned⟩ := pinPeer_frame kept sender session.peerDeviceCertificate
  have held : kept.pendingSessions.lookup packet.payload.connectionId =
      some (session, some peerPk) := AList.lookup_insert _
  have still : kept.masterPubkey = some ourPk := owned
  rw [tickHandshake, completePending, waits]
  dsimp only
  rw [if_pos initiates, completes]
  dsimp only
  rw [named]
  dsimp only
  rw [pinned]
  dsimp only
  rw [held, completing]
  dsimp only
  rw [pinned, register]
  dsimp only
  rw [still]
  simp only [Option.getD_some, numbered]
  rfl

end Runtime

end Insub
