/-
This file says once what a call of the runtime can do to the tables of sessions. Whatever
the call and the packet, the tables move by the few changes listed here, one after the
other; an invariant of the tables is proved for each change, and holds after every call.
-/

import Mathlib
import Insub.Library.Run
import Insub.Runtime.Handshake
import Insub.Runtime.Message

namespace Insub

open Rust

/-- The calls that touch what the runtime knows of sessions. The last stands for every write
to the address and key tables from elsewhere: `set_peer_addr`, `load_peer_state`, and the
transport, which pins keys. -/
inductive Call (crypto : Primitives) (noise : Noise)
  | setMasterPubkey (pk : Key)
  | setDeviceCert (cert : DeviceCertificate crypto)
  | enableSessionInitiator (peerDeviceX25519Pub : Key) (peerUserId : UserID crypto)
      (tag : HandshakeTag)
  | initiateHandshake (tag : HandshakeTag) (draws : RuntimeDraws)
  | tickHandshake (packet : Packet) (sender : SocketAddr) (draws : RuntimeDraws)
  | tickMessage (packet : Packet) (sender : SocketAddr) (env : Surroundings) (now : Instant)
  | sendMessage (msg : Message) (peerPk key : Key) (nonce : Nonce) (draws : Nat → SendDraws)
  | writePeers (pkToAddr : HashMap Key SocketAddr)
      (peerKeys : HashMap SocketAddr (VerifyingKey crypto))

/-- What a call of the client has sent, which an error does not call back. -/
def Effects.despite (effects : Effects) : Outcome Unit → Outcome Effects
  | .error (.panic site) => .error (.panic site)
  | _ => .ok effects

namespace Runtime

variable {crypto : Primitives} {noise : Noise}

/-- What a call sends, and the runtime it leaves. -/
def perform (runtime : Runtime crypto noise) :
    Call crypto noise → Outcome Effects × Runtime crypto noise
  | .setMasterPubkey pk => (.ok Effects.none, { runtime with masterPubkey := some pk })
  | .setDeviceCert cert => (.ok Effects.none, { runtime with deviceCert := some cert })
  | .enableSessionInitiator peerDeviceX25519Pub peerUserId tag =>
    match runtime.enableSessionInitiator peerDeviceX25519Pub peerUserId tag with
    | (outcome, runtime) => (outcome.map fun _ => Effects.none, runtime)
  | .initiateHandshake tag draws => runtime.initiateHandshake tag draws
  | .tickHandshake packet sender draws => runtime.tickHandshake packet sender draws
  | .tickMessage packet sender env now => runtime.tickMessage packet sender env now
  | .sendMessage msg peerPk key nonce draws =>
    match runtime.sendMessage msg peerPk key nonce draws with
    | (outcome, outgoing, runtime) =>
      (Effects.despite { Effects.none with outgoing } outcome, runtime)
  | .writePeers pkToAddr peerKeys => (.ok Effects.none, { runtime with pkToAddr, peerKeys })

/-- One call, whatever it is. -/
def Step (before after : Runtime crypto noise) : Prop :=
  ∃ call, after = (before.perform call).2

/-- One change of the tables. A session is registered only if it is admitted. -/
inductive Change (admits : Session crypto noise → Key → Prop) :
    Runtime crypto noise → Runtime crypto noise → Prop
  | frame {before after : Runtime crypto noise} (sessions : after.sessions = before.sessions)
      (pendingSessions : after.pendingSessions = before.pendingSessions)
      (connToPk : after.connToPk = before.connToPk)
      (pkToConn : after.pkToConn = before.pkToConn) : Change admits before after
  | called (before : Runtime crypto noise) (tag : HandshakeTag) (session : Session crypto noise)
      (user : UserID crypto) (expects : session.peerUserId = some user) :
      Change admits before { before with
        pendingSessions :=
          before.pendingSessions.insert tag (session, some user.publicKey.bytes) }
  | advanced (before : Runtime crypto noise) (tag : HandshakeTag)
      (old session : Session crypto noise) (peerPkOpt : Option Key)
      (found : before.pendingSessions.lookup tag = some (old, peerPkOpt))
      (expects : session.peerUserId = old.peerUserId) :
      Change admits before { before with
        pendingSessions := before.pendingSessions.insert tag (session, peerPkOpt) }
  | settled (before : Runtime crypto noise) (tag : HandshakeTag) :
      Change admits before { before with pendingSessions := before.pendingSessions.erase tag }
  | registered (before : Runtime crypto noise) (connId : ConnectionId) (peerPk : Key)
      (session : Session crypto noise) (admitted : admits session peerPk) :
      Change admits before (before.register connId peerPk session).2
  | dropped (before : Runtime crypto noise) (connId : ConnectionId) :
      Change admits before (before.removeStaleConn connId)
  | ratcheted (before : Runtime crypto noise) (connId : ConnectionId)
      (session : Session crypto noise) (ratchet : Option DoubleRatchet)
      (found : before.sessions.lookup connId = some session) :
      Change admits before { before with
        sessions := before.sessions.insert connId { session with ratchet } }

/-- Several changes in a row. -/
abbrev Changes (admits : Session crypto noise → Key → Prop) :
    Runtime crypto noise → Runtime crypto noise → Prop :=
  Relation.ReflTransGen (Change admits)

variable {admits : Session crypto noise → Key → Prop}

theorem Changes.of_frame {before after : Runtime crypto noise}
    (sessions : after.sessions = before.sessions)
    (pendingSessions : after.pendingSessions = before.pendingSessions)
    (connToPk : after.connToPk = before.connToPk) (pkToConn : after.pkToConn = before.pkToConn) :
    Changes admits before after :=
  Relation.ReflTransGen.single (.frame sessions pendingSessions connToPk pkToConn)

theorem enableSessionInitiator_changes (runtime : Runtime crypto noise)
    (peerDeviceX25519Pub : Key) (peerUserId : UserID crypto) (tag : HandshakeTag) :
    Changes admits runtime
      (runtime.enableSessionInitiator peerDeviceX25519Pub peerUserId tag).2 := by
  refine Outcome.orReturn_state (Changes admits runtime) .refl fun ourMasterPubkey _ => ?_
  refine Outcome.orReturn_state (Changes admits runtime) .refl fun deviceCert _ => ?_
  refine Outcome.orReturn_state (Changes admits runtime) .refl fun session built => ?_
  obtain ⟨initiator, _, built⟩ := Outcome.bind_eq_ok_iff.mp built
  have expects : session.peerUserId = some peerUserId := by
    rw [← Except.ok.inj built]
  exact .single (.called runtime tag session peerUserId expects)

theorem initiateHandshake_changes (runtime : Runtime crypto noise) (tag : HandshakeTag)
    (draws : RuntimeDraws) : Changes admits runtime (runtime.initiateHandshake tag draws).2 := by
  refine Outcome.orReturn_state (Changes admits runtime) .refl ?_
  rintro ⟨session, peerPkOpt⟩ found
  refine Outcome.orReturn_state (Changes admits runtime) .refl fun peerPk _ => ?_
  have expects :=
    (session.sameParties_initiateHandshake runtime.address draws.handshake).peerUserId
  rcases run : session.initiateHandshake runtime.address draws.handshake with ⟨outcome, next⟩
  rw [run] at expects
  have advanced : Changes admits runtime { runtime with
      pendingSessions := runtime.pendingSessions.insert tag (next, peerPkOpt) } :=
    .single (.advanced runtime tag session next peerPkOpt (okOr_eq_ok_iff.mp found) expects)
  refine Outcome.orReturn_state (Changes admits runtime) advanced fun bytes _ => ?_
  refine Outcome.orReturn_state (Changes admits runtime) advanced fun addr _ => ?_
  exact advanced

theorem pinPeer_changes (runtime : Runtime crypto noise) (sender : SocketAddr)
    (certificate : Option (DeviceCertificate crypto)) :
    Changes admits runtime (runtime.pinPeer sender certificate) := by
  cases certificate with
  | none => exact .refl
  | some certificate => exact .of_frame rfl rfl rfl rfl

theorem pinPeer_pendingSessions (runtime : Runtime crypto noise) (sender : SocketAddr)
    (certificate : Option (DeviceCertificate crypto)) :
    (runtime.pinPeer sender certificate).pendingSessions = runtime.pendingSessions := by
  cases certificate <;> rfl

/-- The call that waits under the tag of the packet takes it for its answer. -/
structure Takes (runtime : Runtime crypto noise) (packet : Packet) (draws : RuntimeDraws)
    (session : Session crypto noise) (peerPkOpt : Option Key) (outcome : Outcome Unit)
    (last : Session crypto noise) : Prop where
  found : runtime.pendingSessions.lookup packet.payload.connectionId = some (session, peerPkOpt)
  initiates : session.isInitiator = true
  run : session.completeHandshake packet.payload.data draws.handshake = (outcome, last)

theorem Takes.sameParties {runtime : Runtime crypto noise} {packet : Packet}
    {draws : RuntimeDraws} {session last : Session crypto noise} {peerPkOpt : Option Key}
    {outcome : Outcome Unit}
    (takes : runtime.Takes packet draws session peerPkOpt outcome last) :
    session.SameParties last :=
  Session.sameParties_completeHandshake takes.run

/-- What the first part of `tick_handshake` can do with a packet. If a call waits for it, the
session is kept as the packet leaves it. -/
inductive Completes (runtime : Runtime crypto noise) (packet : Packet) (sender : SocketAddr)
    (draws : RuntimeDraws) : Outcome (Option (ConnectionId × Key)) × Runtime crypto noise → Prop
  | uncalled (idle : ∀ session peerPkOpt,
      runtime.pendingSessions.lookup packet.payload.connectionId = some (session, peerPkOpt) →
        ¬ session.isInitiator = true) :
      Completes runtime packet sender draws (.ok none, runtime)
  | refused {session last : Session crypto noise} {peerPkOpt : Option Key} {message : String}
      (takes : runtime.Takes packet draws session peerPkOpt (.error (.error message)) last) :
      Completes runtime packet sender draws (.ok none, { runtime with
        pendingSessions := runtime.pendingSessions.insert packet.payload.connectionId
          (last, peerPkOpt) })
  | broken {session last : Session crypto noise} {peerPkOpt : Option Key} {site : String}
      (takes : runtime.Takes packet draws session peerPkOpt (.error (.panic site)) last) :
      Completes runtime packet sender draws (.error (.panic site), { runtime with
        pendingSessions := runtime.pendingSessions.insert packet.payload.connectionId
          (last, peerPkOpt) })
  | promoted {session last : Session crypto noise} {peerPkOpt : Option Key}
      {connId : ConnectionId}
      (takes : runtime.Takes packet draws session peerPkOpt (.ok ()) last)
      (named : last.connectionId = some connId) :
      Completes runtime packet sender draws
        (.ok (some (connId, peerPkOpt.getD (Octets.zero 32))), pinPeer { runtime with
          pendingSessions := runtime.pendingSessions.insert packet.payload.connectionId
            (last, peerPkOpt) } sender last.peerDeviceCertificate)

theorem completePending_completes (runtime : Runtime crypto noise) (packet : Packet)
    (sender : SocketAddr) (draws : RuntimeDraws) :
    runtime.Completes packet sender draws (runtime.completePending packet sender draws) := by
  rw [completePending]
  cases found : runtime.pendingSessions.lookup packet.payload.connectionId with
  | none =>
    refine .uncalled fun session peerPkOpt held => ?_
    rw [found] at held
    cases held
  | some entry =>
    obtain ⟨session, peerPkOpt⟩ := entry
    dsimp only
    by_cases initiates : session.isInitiator = true
    · rw [if_pos initiates]
      rcases run : session.completeHandshake packet.payload.data draws.handshake with
        ⟨(message | site) | _, last⟩
      · exact .refused ⟨found, initiates, run⟩
      · exact .broken ⟨found, initiates, run⟩
      · obtain ⟨connId, named⟩ := Session.completeHandshake_connectionId run
        dsimp only
        rw [named]
        exact .promoted ⟨found, initiates, run⟩ named
    · rw [if_neg initiates]
      refine .uncalled fun other otherPk held => ?_
      obtain ⟨rfl, rfl⟩ := Prod.mk.inj (Option.some.inj (found.symm.trans held))
      exact initiates

/-- The packet is no answer to a call of ours: there is none under its tag, or it fails to
complete it. -/
def NoAnswer (runtime : Runtime crypto noise) (packet : Packet) (draws : RuntimeDraws) : Prop :=
  ∀ session peerPkOpt,
    runtime.pendingSessions.lookup packet.payload.connectionId = some (session, peerPkOpt) →
      session.isInitiator = true →
        (session.completeHandshake packet.payload.data draws.handshake).1.IsError

/-- What the first part leaves: a packet that is no answer, or one that breaks the thread, or
one that completes a handshake. -/
theorem completePending_cases (runtime : Runtime crypto noise) (packet : Packet)
    (sender : SocketAddr) (draws : RuntimeDraws) :
    (∃ pendingSessions, runtime.completePending packet sender draws =
        (.ok none, { runtime with pendingSessions }) ∧ runtime.NoAnswer packet draws) ∨
      (∃ fault pendingSessions, runtime.completePending packet sender draws =
        (.error fault, { runtime with pendingSessions }) ∧ ¬ runtime.NoAnswer packet draws) ∨
        ∃ connId peerPk next, runtime.completePending packet sender draws =
          (.ok (some (connId, peerPk)), next) ∧ ¬ runtime.NoAnswer packet draws := by
  have taken {session last : Session crypto noise} {peerPkOpt : Option Key}
      {outcome : Outcome Unit}
      (takes : runtime.Takes packet draws session peerPkOpt outcome last) :
      runtime.NoAnswer packet draws ↔ outcome.IsError := by
    constructor
    · intro noAnswer
      have fails := noAnswer session peerPkOpt takes.found takes.initiates
      rwa [takes.run] at fails
    · intro fails other otherPk held _
      obtain ⟨rfl, rfl⟩ := Prod.mk.inj (Option.some.inj (takes.found.symm.trans held))
      rwa [takes.run]
  have completes := runtime.completePending_completes packet sender draws
  generalize runtime.completePending packet sender draws = result at completes ⊢
  cases completes with
  | uncalled idle =>
    exact Or.inl ⟨_, rfl, fun session peerPkOpt held initiates =>
      absurd initiates (idle session peerPkOpt held)⟩
  | refused takes => exact Or.inl ⟨_, rfl, (taken takes).mpr (Outcome.isError_error _)⟩
  | broken takes =>
    exact Or.inr (Or.inl ⟨_, _, rfl, (taken takes).not.mpr (Outcome.not_isError_panic _)⟩)
  | promoted takes =>
    exact Or.inr (Or.inr ⟨_, _, _, rfl, (taken takes).not.mpr (Outcome.not_isError_ok ())⟩)

theorem completePending_none {runtime next : Runtime crypto noise} {packet : Packet}
    {sender : SocketAddr} {draws : RuntimeDraws}
    (run : runtime.completePending packet sender draws = (.ok none, next)) :
    runtime.NoAnswer packet draws ∧ next.seenTags = runtime.seenTags := by
  rcases runtime.completePending_cases packet sender draws with
    ⟨pendingSessions, same, noAnswer⟩ | ⟨_, _, same, _⟩ | ⟨_, _, _, same, _⟩
  all_goals rw [run] at same
  · rw [(Prod.mk.inj same).2]
    exact ⟨noAnswer, rfl⟩
  · cases same
  · cases same

/-- The packet is taken for a new call. -/
def IsNewCall (runtime : Runtime crypto noise) (packet : Packet) (draws : RuntimeDraws) : Prop :=
  packet.payload.connectionId ∉ runtime.seenTags ∧ runtime.NoAnswer packet draws

/-- The connection of the session with which a call is answered. -/
def answer (runtime : Runtime crypto noise) (packet : Packet) (draws : RuntimeDraws) :
    Option ConnectionId :=
  match runtime.spawnResponder with
  | .error _ => none
  | .ok session =>
    match session.acceptHandshake packet.payload.data with
    | (.error _, _) => none
    | (.ok (), session) =>
      match session.replyHandshake draws.handshake with
      | (.error (.panic _), _) => none
      | (_, session) => session.connectionId

/-- The first part of `tick_handshake` advances the pending session, and leaves the rest of
the runtime as it is, save for the key table. -/
theorem completePending_changes (runtime : Runtime crypto noise) (packet : Packet)
    (sender : SocketAddr) (draws : RuntimeDraws) :
    Changes admits runtime (runtime.completePending packet sender draws).2 := by
  have advanced {session last : Session crypto noise} {peerPkOpt : Option Key}
      {outcome : Outcome Unit}
      (takes : runtime.Takes packet draws session peerPkOpt outcome last) :
      Changes admits runtime { runtime with
        pendingSessions := runtime.pendingSessions.insert packet.payload.connectionId
          (last, peerPkOpt) } :=
    .single (.advanced runtime _ session last peerPkOpt takes.found takes.sameParties.peerUserId)
  have completes := runtime.completePending_completes packet sender draws
  generalize runtime.completePending packet sender draws = result at completes ⊢
  cases completes with
  | uncalled => exact .refl
  | refused takes => exact advanced takes
  | broken takes => exact advanced takes
  | promoted takes => exact (advanced takes).trans (pinPeer_changes _ _ _)

theorem pinPeer_spawnResponder (runtime : Runtime crypto noise) (sender : SocketAddr)
    (certificate : Option (DeviceCertificate crypto)) :
    (runtime.pinPeer sender certificate).spawnResponder = runtime.spawnResponder := by
  cases certificate <;> rfl

theorem completePending_spawnResponder (runtime : Runtime crypto noise) (packet : Packet)
    (sender : SocketAddr) (draws : RuntimeDraws) :
    (runtime.completePending packet sender draws).2.spawnResponder = runtime.spawnResponder := by
  have completes := runtime.completePending_completes packet sender draws
  generalize runtime.completePending packet sender draws = result at completes ⊢
  cases completes with
  | uncalled => rfl
  | refused => rfl
  | broken => rfl
  | promoted => exact pinPeer_spawnResponder _ _ _

/-- It hands back a connection only when the pending session has completed the handshake. -/
theorem completePending_promoted {runtime next : Runtime crypto noise} {packet : Packet}
    {sender : SocketAddr} {draws : RuntimeDraws} {connId : ConnectionId} {peerPk : Key}
    (promoted : runtime.completePending packet sender draws = (.ok (some (connId, peerPk)), next)) :
    ∃ session peerPkOpt last,
      runtime.pendingSessions.lookup packet.payload.connectionId = some (session, peerPkOpt) ∧
        session.completeHandshake packet.payload.data draws.handshake = (.ok (), last) ∧
          peerPk = peerPkOpt.getD (Octets.zero 32) ∧
            next.pendingSessions.lookup packet.payload.connectionId = some (last, peerPkOpt) := by
  have completes := runtime.completePending_completes packet sender draws
  rw [promoted] at completes
  cases completes with
  | promoted takes =>
    refine ⟨_, _, _, takes.found, takes.run, rfl, ?_⟩
    rw [pinPeer_pendingSessions]
    exact AList.lookup_insert _

/-- A call that was answered registers its session when it is admitted. -/
theorem settleCall_changes (runtime : Runtime crypto noise) (session : Session crypto noise)
    (peerPk : Key) (tag : HandshakeTag) (sender : SocketAddr)
    (outgoing : List (Packet × SocketAddr))
    (admitted : ∀ connId, session.connectionId = some connId → admits session peerPk) :
    Changes admits runtime
      (runtime.settleCall session peerPk tag sender outgoing).2 := by
  rw [settleCall]
  cases set : session.connectionId with
  | none => exact .refl
  | some connId =>
    have registered : Changes admits runtime
        ((runtime.pinPeer sender session.peerDeviceCertificate).register connId peerPk session).2 :=
      (pinPeer_changes runtime sender session.peerDeviceCertificate).tail
        (.registered _ connId peerPk session (admitted connId set))
    exact registered.tail (.frame rfl rfl rfl rfl)

/-- The second part of `tick_handshake` registers at most the session that answers the
call. -/
theorem respond_changes (runtime : Runtime crypto noise) (packet : Packet) (sender : SocketAddr)
    (draws : RuntimeDraws)
    (answers : ∀ fresh accepted, runtime.spawnResponder = .ok fresh →
      fresh.acceptHandshake packet.payload.data = (.ok (), accepted) → ∀ connId,
        runtime.answer packet draws = some connId →
          (accepted.replyHandshake draws.handshake).2.connectionId = some connId →
            admits (accepted.replyHandshake draws.handshake).2
              (accepted.peerMasterPubkey.getD (Octets.zero 32))) :
    Changes admits runtime (runtime.respond packet sender draws).2 := by
  rw [respond]
  rcases spawned : runtime.spawnResponder with fault | fresh
  · exact .refl
  dsimp only
  rcases accepting : fresh.acceptHandshake packet.payload.data with ⟨(message | site) | _, accepted⟩
  · exact .refl
  · exact .refl
  dsimp only
  have admitted := answers fresh accepted spawned accepting
  have answered : runtime.answer packet draws =
      match accepted.replyHandshake draws.handshake with
      | (.error (.panic _), _) => none
      | (_, session) => session.connectionId := by
    rw [answer, spawned]
    dsimp only
    rw [accepting]
  have learned : Changes admits runtime (runtime.learnAddress
      (accepted.peerMasterPubkey.getD (Octets.zero 32)) accepted.peerAddr) := by
    cases accepted.peerAddr with
    | none => exact .refl
    | some addr => exact .of_frame rfl rfl rfl rfl
  rcases replying : accepted.replyHandshake draws.handshake with ⟨(message | site) | reply, replied⟩
  all_goals rw [replying] at admitted answered
  · exact learned.trans (settleCall_changes _ replied _ _ sender _ fun connId set =>
      admitted connId (answered.trans set) set)
  · exact learned
  · exact learned.trans (settleCall_changes _ replied _ _ sender _ fun connId set =>
      admitted connId (answered.trans set) set)

/-- A handshake packet registers at most one session, and only one that is admitted. -/
theorem tickHandshake_changes (runtime : Runtime crypto noise) (packet : Packet)
    (sender : SocketAddr) (draws : RuntimeDraws)
    (completes : ∀ session peerPkOpt last,
      runtime.pendingSessions.lookup packet.payload.connectionId = some (session, peerPkOpt) →
        session.completeHandshake packet.payload.data draws.handshake = (.ok (), last) →
          admits last (peerPkOpt.getD (Octets.zero 32)))
    (answers : runtime.IsNewCall packet draws → ∀ fresh accepted,
      runtime.spawnResponder = .ok fresh →
        fresh.acceptHandshake packet.payload.data = (.ok (), accepted) → ∀ connId,
          runtime.answer packet draws = some connId →
            (accepted.replyHandshake draws.handshake).2.connectionId = some connId →
              admits (accepted.replyHandshake draws.handshake).2
                (accepted.peerMasterPubkey.getD (Octets.zero 32))) :
    Changes admits runtime (runtime.tickHandshake packet sender draws).2 := by
  rw [tickHandshake]
  have changes : Changes admits runtime (runtime.completePending packet sender draws).2 :=
    completePending_changes runtime packet sender draws
  have spawns := completePending_spawnResponder runtime packet sender draws
  rcases run : runtime.completePending packet sender draws with ⟨fault | promoted, next⟩
  · rw [run] at changes
    exact changes
  rw [run] at changes spawns
  rcases promoted with _ | ⟨connId, peerPk⟩
  · obtain ⟨noAnswer, seenTags⟩ := completePending_none run
    dsimp only
    split
    · exact changes
    · rename_i unseen
      have asked := answers ⟨seenTags ▸ unseen, noAnswer⟩
      rw [answer, ← spawns] at asked
      exact changes.trans (respond_changes next packet sender draws asked)
  · obtain ⟨session, peerPkOpt, last, found, completed, rfl, held⟩ := completePending_promoted run
    dsimp only at held ⊢
    rw [held]
    exact (changes.tail (.settled next _)).tail
      (.registered _ connId _ last (completes session peerPkOpt last found completed))

theorem deliverInner_changes (runtime : Runtime crypto noise) (packet : Packet)
    (sender : SocketAddr) (inner : Bytes) (senderPk : Key) (now : Instant) :
    Changes admits runtime (runtime.deliverInner packet sender inner senderPk now).2 := by
  have pruned : ∀ receivedKeys, Changes admits runtime { runtime with receivedKeys } :=
    fun _ => .of_frame rfl rfl rfl rfl
  rw [deliverInner]
  dsimp only
  split
  · exact .refl
  refine Outcome.orReturn_state (Changes admits runtime) .refl fun key _ => ?_
  refine Outcome.orReturn_state (Changes admits runtime) .refl fun nonce _ => ?_
  split
  · exact .refl
  rcases crypto.decrypt (inner.drop 44) nonce key with fault | plaintext
  · exact pruned _
  dsimp only
  rcases Message.fromSerialized plaintext with (message | site) | message
  · exact pruned _
  · exact pruned _
  · exact pruned _

/-- A message packet moves the ratchet of its session, and may cost the connection. -/
theorem tickMessage_changes (runtime : Runtime crypto noise) (packet : Packet)
    (sender : SocketAddr) (env : Surroundings) (now : Instant) :
    Changes admits runtime (runtime.tickMessage packet sender env now).2 := by
  rw [tickMessage]
  cases found : runtime.sessions.lookup packet.payload.connectionId with
  | none => exact .single (.dropped runtime packet.payload.connectionId)
  | some session =>
    dsimp only
    obtain ⟨ratchet, frame⟩ := session.receive_frame packet env
    rcases run : session.receive packet env with ⟨outcome, next⟩
    rw [run] at frame
    have ratcheted : Changes admits runtime { runtime with
        sessions := runtime.sessions.insert packet.payload.connectionId next } := by
      rw [show next = { session with ratchet } from frame]
      exact .single (.ratcheted runtime _ session ratchet found)
    rcases outcome with (message | site) | ⟨inner, senderPk⟩
    · exact ratcheted.tail (.dropped _ packet.payload.connectionId)
    · exact ratcheted
    · exact ratcheted.trans (deliverInner_changes _ packet sender inner senderPk now)

theorem sendLoop_changes (inner : Bytes) (addr : SocketAddr) (relayId : U128)
    (conns : List (ConnectionId × SendDraws)) (outgoing : List (Packet × SocketAddr))
    (runtime : Runtime crypto noise) :
    Changes admits runtime (sendLoop inner addr relayId conns outgoing runtime).2.2 := by
  induction conns generalizing outgoing runtime with
  | nil => exact .refl
  | cons conn rest inductionHypothesis =>
    obtain ⟨connId, draws⟩ := conn
    rw [sendLoop]
    cases found : runtime.sessions.lookup connId with
    | none => exact inductionHypothesis outgoing runtime
    | some session =>
      dsimp only
      split
      · obtain ⟨ratchet, frame⟩ := session.send_frame inner draws.nonce draws.packetId
        rcases run : session.send inner draws.nonce draws.packetId with ⟨outcome, next⟩
        rw [run] at frame
        have ratcheted : Changes admits runtime { runtime with
            sessions := runtime.sessions.insert connId next } := by
          rw [show next = { session with ratchet } from frame]
          exact .single (.ratcheted runtime connId session ratchet found)
        dsimp only
        rcases outcome.inContext "session send" with fault | pkt
        · exact ratcheted
        · exact ratcheted.trans (inductionHypothesis _ _)
      · exact inductionHypothesis outgoing runtime

theorem sendMessage_changes (runtime : Runtime crypto noise) (msg : Message) (peerPk key : Key)
    (nonce : Nonce) (draws : Nat → SendDraws) :
    Changes admits runtime (runtime.sendMessage msg peerPk key nonce draws).2.2 := by
  rw [sendMessage]
  cases runtime.pkToConn.lookup peerPk with
  | none => exact .refl
  | some connIds =>
    cases runtime.pkToAddr.lookup peerPk with
    | none => exact .refl
    | some addr =>
      dsimp only
      rcases crypto.encrypt msg.serialize key nonce with fault | ⟨ciphertext, nonce⟩
      · exact .refl
      dsimp only
      have changes : Changes admits runtime
          (sendLoop (key.toList ++ nonce.toList ++ ciphertext) addr (deriveId crypto peerPk)
            (connIds.mapIdx fun index connId => (connId, draws index)) [] runtime).2.2 :=
        sendLoop_changes _ _ _ _ _ _
      rcases run : sendLoop (key.toList ++ nonce.toList ++ ciphertext) addr
        (deriveId crypto peerPk) (connIds.mapIdx fun index connId => (connId, draws index)) []
          runtime with ⟨fault | _, outgoing, next⟩
      all_goals rw [run] at changes
      · exact changes
      · dsimp only
        split
        · exact changes
        · exact changes

/-- Every call moves the tables by a sequence of changes, as long as the sessions its handshake
packet may register are admitted. -/
theorem perform_changes (runtime : Runtime crypto noise) (call : Call crypto noise)
    (completes : ∀ packet sender draws, call = .tickHandshake packet sender draws →
      ∀ session peerPkOpt last,
        runtime.pendingSessions.lookup packet.payload.connectionId = some (session, peerPkOpt) →
          session.completeHandshake packet.payload.data draws.handshake = (.ok (), last) →
            admits last (peerPkOpt.getD (Octets.zero 32)))
    (answers : ∀ packet sender draws, call = .tickHandshake packet sender draws →
      runtime.IsNewCall packet draws → ∀ fresh accepted, runtime.spawnResponder = .ok fresh →
        fresh.acceptHandshake packet.payload.data = (.ok (), accepted) → ∀ connId,
          runtime.answer packet draws = some connId →
            (accepted.replyHandshake draws.handshake).2.connectionId = some connId →
              admits (accepted.replyHandshake draws.handshake).2
                (accepted.peerMasterPubkey.getD (Octets.zero 32))) :
    Changes admits runtime (runtime.perform call).2 := by
  cases call with
  | setMasterPubkey pk => exact .of_frame rfl rfl rfl rfl
  | setDeviceCert cert => exact .of_frame rfl rfl rfl rfl
  | enableSessionInitiator peerDeviceX25519Pub peerUserId tag =>
    exact enableSessionInitiator_changes runtime peerDeviceX25519Pub peerUserId tag
  | initiateHandshake tag draws => exact initiateHandshake_changes runtime tag draws
  | tickHandshake packet sender draws =>
    exact tickHandshake_changes runtime packet sender draws (completes packet sender draws rfl)
      (answers packet sender draws rfl)
  | tickMessage packet sender env now =>
    exact tickMessage_changes runtime packet sender env now
  | sendMessage msg peerPk key nonce draws =>
    exact sendMessage_changes runtime msg peerPk key nonce draws
  | writePeers pkToAddr peerKeys => exact .of_frame rfl rfl rfl rfl

end Runtime

end Insub
