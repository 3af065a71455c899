/-
This file proves what each call leaves in order, of the tables of sessions and of the sessions
in them. Only a handshake packet opens a session, and at most one: one of ours, that is not
pending from then on, or one that answers a call.
-/

import Mathlib
import Insub.Runtime.Registry

namespace Insub

open Rust

namespace Runtime

variable {crypto : Primitives} {noise : Noise}

/-! ### The sessions that a packet opens -/

/-- How `tick_handshake` comes to enter a session: a call of ours was answered, or we have
answered a call. -/
inductive Opening
  | answered (connId : ConnectionId)
  | accepted (connId : ConnectionId)

def Opening.connId : Opening → ConnectionId
  | .answered connId => connId
  | .accepted connId => connId

/-- The session that `tick_handshake` enters, if it enters one. -/
def opening (runtime : Runtime crypto noise) (packet : Packet) (sender : SocketAddr)
    (draws : RuntimeDraws) : Option Opening :=
  match runtime.completePending packet sender draws with
  | (.error _, _) => none
  | (.ok (some (connId, _)), _) => some (.answered connId)
  | (.ok none, runtime) =>
    if packet.payload.connectionId ∈ runtime.seenTags then none
    else (runtime.answer packet draws).map .accepted

/-- What a call leaves in order. It adds at most the connection that it opens, and no pending
session. -/
structure Follows (before after : Runtime crypto noise) (opened : Option ConnectionId) :
    Prop where
  orderly : after.Orderly
  staffed : after.Staffed
  known : ∀ connId ∈ after.connToPk, connId ∈ before.connToPk ∨ opened = some connId
  waiting : ∀ tag ∈ after.pendingSessions, tag ∈ before.pendingSessions

theorem Follows.of_tables {before after : Runtime crypto noise} (orderly : before.Orderly)
    (staffed : before.Staffed) (sessions : after.sessions = before.sessions)
    (connToPk : after.connToPk = before.connToPk) (pkToConn : after.pkToConn = before.pkToConn)
    (pendingSessions : after.pendingSessions = before.pendingSessions) :
    Follows before after none where
  orderly := orderly.of_tables sessions connToPk pkToConn
  staffed := staffed.of_tables sessions pendingSessions
  known _ held := Or.inl (connToPk ▸ held)
  waiting _ held := pendingSessions ▸ held

theorem Follows.trans {first second third : Runtime crypto noise} {opened : Option ConnectionId}
    (one : Follows first second none) (other : Follows second third opened) :
    Follows first third opened where
  orderly := other.orderly
  staffed := other.staffed
  known connId held := by
    rcases other.known connId held with before | here
    · rcases one.known connId before with known | none
      · exact Or.inl known
      · cases none
    · exact Or.inr here
  waiting tag held := one.waiting tag (other.waiting tag held)

/-- A pending session that moves on. -/
theorem Follows.advance {runtime : Runtime crypto noise} (orderly : runtime.Orderly)
    (staffed : runtime.Staffed) {tag : HandshakeTag} {session next : Session crypto noise}
    {peerPkOpt : Option Key} (found : runtime.pendingSessions.lookup tag = some (session, peerPkOpt))
    (speaks : next.ourMasterPubkey = session.ourMasterPubkey) :
    Follows runtime { runtime with
      pendingSessions := runtime.pendingSessions.insert tag (next, peerPkOpt) } none where
  orderly := orderly.of_tables rfl rfl rfl
  staffed := staffed.insertPending tag peerPkOpt (speaks ▸ staffed.pending tag _ found)
  known _ held := Or.inl held
  waiting other held := by
    rcases (AList.mem_insert _).mp held with rfl | held
    · exact AList.lookup_isSome.mp (Option.isSome_iff_exists.mpr ⟨_, found⟩)
    · exact held

/-- A ready session that is entered under a connection id that is new. -/
theorem Follows.register {runtime : Runtime crypto noise} (orderly : runtime.Orderly)
    (staffed : runtime.Staffed) {connId : ConnectionId} (fresh : connId ∉ runtime.connToPk)
    (peerPk : Key) {session : Session crypto noise} (ready : session.Ready connId) :
    Follows runtime (runtime.register connId peerPk session).2 (some connId) where
  orderly := orderly.register fresh peerPk ready.isEstablished
  staffed := staffed.insertSession ready rfl rfl
  known other held := by
    rcases (AList.mem_insert _).mp held with rfl | held
    · exact Or.inr rfl
    · exact Or.inl held
  waiting _ held := held

/-- The first part of `tick_handshake`. A session that it completes is ready. -/
theorem follows_completePending {runtime : Runtime crypto noise} (orderly : runtime.Orderly)
    (staffed : runtime.Staffed) (packet : Packet) (sender : SocketAddr) (draws : RuntimeDraws) :
    Follows runtime (runtime.completePending packet sender draws).2 none ∧
      ∀ connId peerPk, (runtime.completePending packet sender draws).1 = .ok (some (connId, peerPk)) →
        ∃ session peerPkOpt, session.Ready connId ∧
          (runtime.completePending packet sender draws).2.pendingSessions.lookup
            packet.payload.connectionId = some (session, peerPkOpt) := by
  have advanced {session last : Session crypto noise} {peerPkOpt : Option Key}
      {outcome : Outcome Unit}
      (takes : runtime.Takes packet draws session peerPkOpt outcome last) :
      Follows runtime { runtime with
        pendingSessions := runtime.pendingSessions.insert packet.payload.connectionId
          (last, peerPkOpt) } none :=
    Follows.advance orderly staffed takes.found takes.sameParties.ourMasterPubkey
  have completes := runtime.completePending_completes packet sender draws
  generalize runtime.completePending packet sender draws = result at completes ⊢
  cases completes with
  | uncalled =>
    exact ⟨.of_tables orderly staffed rfl rfl rfl rfl, fun _ _ none => by cases none⟩
  | refused takes => exact ⟨advanced takes, fun _ _ none => by cases none⟩
  | broken takes => exact ⟨advanced takes, fun _ _ none => by cases none⟩
  | @promoted _ last peerPkOpt _ takes named =>
    have ready := Session.ready_completeHandshake (staffed.pending _ _ takes.found) takes.run named
    have entered := advanced takes
    refine ⟨entered.trans ?_, fun other peerPk same => ?_⟩
    · cases last.peerDeviceCertificate with
      | none => exact .of_tables entered.orderly entered.staffed rfl rfl rfl rfl
      | some certificate => exact .of_tables entered.orderly entered.staffed rfl rfl rfl rfl
    · cases same
      refine ⟨last, peerPkOpt, ready, ?_⟩
      rw [pinPeer_pendingSessions]
      exact AList.lookup_insert _

/-- A call that was answered registers its session, if that has a connection id. -/
theorem follows_settleCall {runtime : Runtime crypto noise} (orderly : runtime.Orderly)
    (staffed : runtime.Staffed) {session : Session crypto noise}
    (ready : ∀ connId, session.connectionId = some connId → session.Ready connId)
    (fresh : ∀ connId, session.connectionId = some connId → connId ∉ runtime.connToPk)
    (peerPk : Key) (tag : HandshakeTag) (sender : SocketAddr)
    (outgoing : List (Packet × SocketAddr)) :
    Follows runtime (runtime.settleCall session peerPk tag sender outgoing).2
      session.connectionId := by
  rw [settleCall]
  cases named : session.connectionId with
  | none => exact .of_tables orderly staffed rfl rfl rfl rfl
  | some connId =>
    have pinned : Follows runtime (runtime.pinPeer sender session.peerDeviceCertificate) none := by
      cases session.peerDeviceCertificate with
      | none => exact .of_tables orderly staffed rfl rfl rfl rfl
      | some certificate => exact .of_tables orderly staffed rfl rfl rfl rfl
    have unknown : connId ∉ (runtime.pinPeer sender session.peerDeviceCertificate).connToPk := by
      cases session.peerDeviceCertificate with
      | none => exact fresh connId named
      | some certificate => exact fresh connId named
    have entered := pinned.trans
      (.register pinned.orderly pinned.staffed unknown peerPk (ready connId named))
    exact ⟨entered.orderly.of_tables rfl rfl rfl, entered.staffed.of_tables rfl rfl, entered.known,
      entered.waiting⟩

/-- The second part of `tick_handshake`. -/
theorem follows_respond {runtime : Runtime crypto noise} (orderly : runtime.Orderly)
    (staffed : runtime.Staffed) (packet : Packet) (sender : SocketAddr) (draws : RuntimeDraws)
    (fresh : ∀ connId, runtime.answer packet draws = some connId → connId ∉ runtime.connToPk) :
    Follows runtime (runtime.respond packet sender draws).2 (runtime.answer packet draws) := by
  have still : Follows runtime runtime none := .of_tables orderly staffed rfl rfl rfl rfl
  rw [respond]
  rw [answer] at fresh ⊢
  rcases spawned : runtime.spawnResponder with fault | session
  · exact still
  rw [spawned] at fresh
  dsimp only at fresh ⊢
  obtain ⟨cert, _, rest⟩ := Outcome.bind_eq_ok_iff.mp spawned
  obtain ⟨masterPk, _, built⟩ := Outcome.bind_eq_ok_iff.mp rest
  obtain ⟨speaks, unnamed⟩ := Session.newResponder_fresh built
  have speaksStill := session.ourMasterPubkey_acceptHandshake packet.payload.data
  rcases accepting : session.acceptHandshake packet.payload.data with ⟨(message | site) | _, accepted⟩
  · exact still
  · exact still
  rw [accepting] at fresh speaksStill
  obtain ⟨_, _, _, _, _, _, _, _, _, _, _, _, named⟩ := Session.acceptHandshake_ok accepting
  have speaking : accepted.ourMasterPubkey.isSome = true := by
    rw [speaksStill, speaks]
    rfl
  have ready (connId : ConnectionId)
      (set : (accepted.replyHandshake draws.handshake).2.connectionId = some connId) :
      (accepted.replyHandshake draws.handshake).2.Ready connId :=
    Session.ready_replyHandshake speaking (named.trans unnamed) draws.handshake set
  have learned : Follows runtime (runtime.learnAddress
      (accepted.peerMasterPubkey.getD (Octets.zero 32)) accepted.peerAddr) none := by
    cases accepted.peerAddr with
    | none => exact still
    | some addr => exact .of_tables orderly staffed rfl rfl rfl rfl
  have sameConns : (runtime.learnAddress (accepted.peerMasterPubkey.getD (Octets.zero 32))
      accepted.peerAddr).connToPk = runtime.connToPk := by
    cases accepted.peerAddr <;> rfl
  dsimp only at fresh ⊢
  rcases replying : accepted.replyHandshake draws.handshake with ⟨(message | site) | reply, replied⟩
  all_goals rw [replying] at fresh ready
  · exact learned.trans (follows_settleCall learned.orderly learned.staffed ready
      (sameConns.symm ▸ fresh) _ _ _ _)
  · exact learned
  · exact learned.trans (follows_settleCall learned.orderly learned.staffed ready
      (sameConns.symm ▸ fresh) _ _ _ _)

/-- A handshake packet enters at most one session, and this is not pending any more. -/
theorem follows_tickHandshake {runtime : Runtime crypto noise} (orderly : runtime.Orderly)
    (staffed : runtime.Staffed) (packet : Packet) (sender : SocketAddr) (draws : RuntimeDraws)
    (fresh : ∀ opened, runtime.opening packet sender draws = some opened →
      opened.connId ∉ runtime.connToPk) :
    Follows runtime (runtime.tickHandshake packet sender draws).2
        ((runtime.opening packet sender draws).map Opening.connId) ∧
      ∀ connId, runtime.opening packet sender draws = some (.answered connId) →
        packet.payload.connectionId ∉
          (runtime.tickHandshake packet sender draws).2.pendingSessions := by
  obtain ⟨completes, promotes⟩ := follows_completePending orderly staffed packet sender draws
  rw [opening] at fresh ⊢
  rw [tickHandshake]
  rcases run : runtime.completePending packet sender draws with ⟨fault | promoted, next⟩
  · rw [run] at completes
    exact ⟨completes, fun _ none => by cases none⟩
  rw [run] at completes promotes fresh
  have known (connId : ConnectionId) (absent : connId ∉ runtime.connToPk) :
      connId ∉ next.connToPk := by
    intro held
    rcases completes.known connId held with before | none
    · exact absent before
    · cases none
  rcases promoted with _ | ⟨connId, peerPk⟩
  · dsimp only at fresh ⊢
    by_cases seen : packet.payload.connectionId ∈ next.seenTags
    · rw [if_pos seen, if_pos seen]
      exact ⟨completes, fun _ none => by cases none⟩
    · rw [if_neg seen] at fresh
      rw [if_neg seen, if_neg seen]
      have answers := follows_respond completes.orderly completes.staffed packet sender draws
        fun connId named => known connId (fresh (.accepted connId) (by rw [named]; rfl))
      have same : ((next.answer packet draws).map Opening.accepted).map Opening.connId =
          next.answer packet draws := by
        cases next.answer packet draws <;> rfl
      refine ⟨?_, fun connId none => ?_⟩
      · rw [same]
        exact completes.trans answers
      · obtain ⟨_, _, other⟩ := Option.map_eq_some_iff.mp none
        cases other
  · obtain ⟨session, peerPkOpt, ready, held⟩ := promotes connId peerPk rfl
    dsimp only at held fresh ⊢
    rw [held]
    have settled : Follows next { next with
        pendingSessions := next.pendingSessions.erase packet.payload.connectionId } none :=
      ⟨completes.orderly.of_tables rfl rfl rfl, completes.staffed.erasePending _,
        fun _ here => Or.inl here, fun _ here => (AList.mem_erase.mp here).2⟩
    have registered := completes.trans (settled.trans (.register settled.orderly settled.staffed
      (known connId (fresh _ rfl)) peerPk ready))
    exact ⟨registered, fun _ _ here => (AList.mem_erase.mp here).1 rfl⟩

theorem follows_deliverInner {runtime : Runtime crypto noise} (orderly : runtime.Orderly)
    (staffed : runtime.Staffed) (packet : Packet) (sender : SocketAddr) (inner : Bytes)
    (senderPk : Key) (now : Instant) :
    Follows runtime (runtime.deliverInner packet sender inner senderPk now).2 none := by
  have still : Follows runtime runtime none := .of_tables orderly staffed rfl rfl rfl rfl
  have pruned : ∀ receivedKeys, Follows runtime { runtime with receivedKeys } none :=
    fun _ => .of_tables orderly staffed rfl rfl rfl rfl
  rw [deliverInner]
  dsimp only
  split
  · exact still
  refine Outcome.orReturn_state (Follows runtime · none) still fun key _ => ?_
  refine Outcome.orReturn_state (Follows runtime · none) still fun nonce _ => ?_
  split
  · exact still
  rcases crypto.decrypt (inner.drop 44) nonce key with fault | plaintext
  · exact pruned _
  dsimp only
  rcases Message.fromSerialized plaintext with (message | site) | message
  · exact pruned _
  · exact pruned _
  · exact pruned _

theorem Follows.removeStaleConn {runtime : Runtime crypto noise} (orderly : runtime.Orderly)
    (staffed : runtime.Staffed) (connId : ConnectionId) :
    Follows runtime (runtime.removeStaleConn connId) none where
  orderly := orderly.removeStaleConn connId
  staffed := staffed.removeStaleConn connId
  known other held := by
    refine Or.inl ?_
    rw [Runtime.removeStaleConn] at held
    cases entered : runtime.connToPk.lookup connId with
    | none =>
      rw [entered] at held
      exact held
    | some pk =>
      rw [entered] at held
      exact (AList.mem_erase.mp held).2
  waiting tag held := by
    rwa [pendingSessions_removeStaleConn] at held

/-- A message moves its session on, or costs the connection. -/
theorem follows_tickMessage {runtime : Runtime crypto noise} (orderly : runtime.Orderly)
    (staffed : runtime.Staffed) (packet : Packet) (sender : SocketAddr) (env : Surroundings)
    (now : Instant) : Follows runtime (runtime.tickMessage packet sender env now).2 none := by
  rw [tickMessage]
  cases found : runtime.sessions.lookup packet.payload.connectionId with
  | none => exact .removeStaleConn orderly staffed packet.payload.connectionId
  | some session =>
    have ready := (staffed.ready _ session found).receive packet env
    dsimp only
    rcases run : session.receive packet env with ⟨outcome, next⟩
    rw [run] at ready
    have moved : Follows runtime { runtime with
        sessions := runtime.sessions.insert packet.payload.connectionId next } none :=
      ⟨orderly.replace found ready.isEstablished, staffed.insertSession ready rfl rfl,
        fun _ here => Or.inl here, fun _ here => here⟩
    rcases outcome with (message | site) | ⟨inner, senderPk⟩
    · exact moved.trans (.removeStaleConn moved.orderly moved.staffed _)
    · exact moved
    · exact moved.trans (follows_deliverInner moved.orderly moved.staffed packet sender inner
        senderPk now)

theorem follows_initiateHandshake {runtime : Runtime crypto noise} (orderly : runtime.Orderly)
    (staffed : runtime.Staffed) (tag : HandshakeTag) (draws : RuntimeDraws) :
    Follows runtime (runtime.initiateHandshake tag draws).2 none := by
  have still : Follows runtime runtime none := .of_tables orderly staffed rfl rfl rfl rfl
  refine Outcome.orReturn_state (Follows runtime · none) still ?_
  rintro ⟨session, peerPkOpt⟩ found
  refine Outcome.orReturn_state (Follows runtime · none) still fun peerPk _ => ?_
  have speaks :=
    (session.sameParties_initiateHandshake runtime.address draws.handshake).ourMasterPubkey
  rcases run : session.initiateHandshake runtime.address draws.handshake with ⟨outcome, next⟩
  rw [run] at speaks
  have advanced := Follows.advance orderly staffed (okOr_eq_ok_iff.mp found) speaks
  refine Outcome.orReturn_state (Follows runtime · none) advanced fun bytes _ => ?_
  refine Outcome.orReturn_state (Follows runtime · none) advanced fun addr _ => ?_
  exact advanced

/-- Preparing a call leaves everything as it is, or adds a pending session under its tag. -/
theorem enableSessionInitiator_cases {runtime : Runtime crypto noise} (staffed : runtime.Staffed)
    (peerDeviceX25519Pub : Key) (peerUserId : UserID crypto) (tag : HandshakeTag) :
    (∃ fault, runtime.enableSessionInitiator peerDeviceX25519Pub peerUserId tag =
        (.error fault, runtime)) ∨
      ∃ session peerPkOpt, runtime.enableSessionInitiator peerDeviceX25519Pub peerUserId tag =
          (.ok tag, { runtime with
            pendingSessions := runtime.pendingSessions.insert tag (session, peerPkOpt) }) ∧
        Staffed { runtime with
          pendingSessions := runtime.pendingSessions.insert tag (session, peerPkOpt) } := by
  rw [enableSessionInitiator]
  rcases okOr "master pubkey not set" runtime.masterPubkey with fault | ourMasterPubkey
  · exact Or.inl ⟨fault, rfl⟩
  dsimp only [Outcome.ok_orReturn]
  rcases okOr "No device certificate available" runtime.deviceCert with fault | deviceCert
  · exact Or.inl ⟨fault, rfl⟩
  dsimp only [Outcome.ok_orReturn]
  rcases built : Session.newInitiator runtime.deviceX25519Priv peerDeviceX25519Pub deviceCert
    ourMasterPubkey peerUserId with fault | session
  · exact Or.inl ⟨fault, rfl⟩
  · refine Or.inr ⟨session, some peerUserId.publicKey.bytes, rfl, ?_⟩
    refine staffed.insertPending tag _ ?_
    rw [Session.ourMasterPubkey_newInitiator built]
    rfl

end Runtime

end Insub
