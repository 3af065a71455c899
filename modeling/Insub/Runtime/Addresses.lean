/-
This file settles to which address a message goes that is sent over several sessions of one
user. A session remembers the address that was claimed when it was opened; the table that
`send_message` reads has one address for a user, and every handshake of his and every write
from elsewhere replaces it. So each session is served at the address claimed for it as long as
no write names another one, and of two devices at two addresses only the last is served.
-/

import Mathlib
import Insub.Runtime.Ledger
import Insub.Runtime.Rejection
import Insub.Runtime.Sending

namespace Insub

open Rust

namespace Session

variable {crypto : Primitives} {noise : Noise}

theorem connectionId_of_send {session last : Session crypto noise} {bytes : Bytes} {nonce : Nonce}
    {packetId : U128} {packet : Packet}
    (run : session.send bytes nonce packetId = (.ok packet, last)) :
    session.connectionId = some packet.payload.connectionId := by
  obtain ⟨speaker, _, run⟩ := Outcome.orReturn_eq_ok_iff.mp run
  obtain ⟨ratchet, _, run⟩ := Outcome.orReturn_eq_ok_iff.mp run
  obtain ⟨sealing, _, run⟩ := Outcome.orReturn_eq_ok_iff.mp run
  obtain ⟨connId, named, run⟩ := Outcome.orReturn_eq_ok_iff.mp run
  rw [← Except.ok.inj (Prod.mk.inj run).1]
  exact okOr_eq_ok_iff.mp named

end Session

namespace Runtime

variable {crypto : Primitives} {noise : Noise}

/-- The address that was claimed when a session of the user was opened. -/
def Claims (runtime : Runtime crypto noise) (pk : Key) (connId : ConnectionId)
    (addr : SocketAddr) : Prop :=
  ∃ conns session, runtime.pkToConn.lookup pk = some conns ∧ connId ∈ conns ∧
    runtime.sessions.lookup connId = some session ∧ session.peerAddr = some addr

/-- What a session is sent goes to the address that was claimed for it. -/
def ServedAtClaimed (runtime : Runtime crypto noise) (pk : Key) : Prop :=
  ∀ msg key nonce draws, ∀ sent ∈ (runtime.sendMessage msg pk key nonce draws).2.1,
    ∀ packet session addr, innerPacket sent.1 = some packet →
      runtime.sessions.lookup packet.payload.connectionId = some session →
        session.peerAddr = some addr → sent.2 = addr

/-- The call writes no other address for a user than his sessions claim, and no connection of
another user opens anew. -/
def KeepsAddresses (runtime : Runtime crypto noise) : Call crypto noise → Prop
  | .tickHandshake packet _ draws => runtime.IsNewCall packet draws →
    ∀ responder introduction, runtime.introduced packet = .ok (responder, introduction) →
      (∀ connId addr, runtime.Claims introduction.masterPubkey connId addr →
        addr = introduction.addr) ∧
      ∀ connId pk conns, runtime.answer packet draws = some connId →
        runtime.pkToConn.lookup pk = some conns → connId ∈ conns → pk = introduction.masterPubkey
  | .writePeers pkToAddr _ => ∀ pk connId addr, runtime.Claims pk connId addr →
    pkToAddr.lookup pk = some addr
  | _ => True

/-- The table has for a user the address that his sessions claim. -/
structure Addressed (runtime : Runtime crypto noise) : Prop where
  named : ∀ connId session, runtime.sessions.lookup connId = some session →
    session.connectionId = some connId
  claimed : ∀ pk connId addr, runtime.Claims pk connId addr →
    runtime.pkToAddr.lookup pk = some addr
  pending : ∀ tag entry, runtime.pendingSessions.lookup tag = some entry →
    entry.1.peerAddr = none

theorem addressed_bind (address : SocketAddr) (deviceX25519Priv : Key)
    (peerKeys : HashMap SocketAddr (VerifyingKey crypto)) :
    (bind address deviceX25519Priv peerKeys : Runtime crypto noise).Addressed where
  named _ _ held := by cases held
  claimed _ _ _ claims := by
    obtain ⟨_, _, listed, _⟩ := claims
    cases listed
  pending _ _ held := by cases held

/-! ### What each write leaves -/

theorem Addressed.of_tables {before after : Runtime crypto noise} (addressed : before.Addressed)
    (sessions : after.sessions = before.sessions) (pkToConn : after.pkToConn = before.pkToConn)
    (pkToAddr : after.pkToAddr = before.pkToAddr)
    (pendingSessions : after.pendingSessions = before.pendingSessions) : after.Addressed where
  named := sessions ▸ addressed.named
  claimed pk connId addr claims := by
    rw [pkToAddr]
    refine addressed.claimed pk connId addr ?_
    rwa [Claims, sessions, pkToConn] at claims
  pending := pendingSessions ▸ addressed.pending

theorem Addressed.insertPending {runtime : Runtime crypto noise} (addressed : runtime.Addressed)
    (tag : HandshakeTag) {session : Session crypto noise} (peerPkOpt : Option Key)
    (unclaimed : session.peerAddr = none) :
    Addressed { runtime with
      pendingSessions := runtime.pendingSessions.insert tag (session, peerPkOpt) } := by
  refine ⟨addressed.named, addressed.claimed, fun other entry held => ?_⟩
  rcases HashMap.lookup_insert_eq_some_iff.mp held with ⟨-, rfl⟩ | ⟨-, held⟩
  · exact unclaimed
  · exact addressed.pending other entry held

theorem Addressed.erasePending {runtime : Runtime crypto noise} (addressed : runtime.Addressed)
    (tag : HandshakeTag) :
    Addressed { runtime with pendingSessions := runtime.pendingSessions.erase tag } := by
  refine ⟨addressed.named, addressed.claimed, fun other entry held => ?_⟩
  exact addressed.pending other entry (HashMap.lookup_erase_eq_some_iff.mp held).2

theorem Addressed.pinPeer {runtime : Runtime crypto noise} (addressed : runtime.Addressed)
    (sender : SocketAddr) (certificate : Option (DeviceCertificate crypto)) :
    (runtime.pinPeer sender certificate).Addressed := by
  obtain ⟨peerKeys, pinned⟩ := pinPeer_frame runtime sender certificate
  rw [pinned]
  exact addressed.of_tables rfl rfl rfl rfl

theorem Addressed.ratchet {runtime : Runtime crypto noise} (addressed : runtime.Addressed)
    {connId : ConnectionId} {session : Session crypto noise} (ratchet : Option DoubleRatchet)
    (found : runtime.sessions.lookup connId = some session) :
    Addressed { runtime with
      sessions := runtime.sessions.insert connId { session with ratchet } } where
  named other last held := by
    rcases HashMap.lookup_insert_eq_some_iff.mp held with ⟨rfl, rfl⟩ | ⟨-, held⟩
    · exact addressed.named _ session found
    · exact addressed.named other last held
  claimed pk other addr claims := by
    obtain ⟨conns, last, listed, member, held, claim⟩ := claims
    refine addressed.claimed pk other addr ?_
    rcases HashMap.lookup_insert_eq_some_iff.mp held with ⟨rfl, rfl⟩ | ⟨-, held⟩
    · exact ⟨conns, session, listed, member, found, claim⟩
    · exact ⟨conns, last, listed, member, held, claim⟩
  pending := addressed.pending

/-- What is listed once a connection is dropped was listed before. -/
theorem mem_of_mem_dropConn {pkToConn : HashMap Key (List ConnectionId)} {pk other : Key}
    {dropped connId : ConnectionId} {kept : List ConnectionId}
    (held : (dropConn pkToConn pk dropped).lookup other = some kept) (member : connId ∈ kept) :
    ∃ conns, pkToConn.lookup other = some conns ∧ connId ∈ conns := by
  rw [dropConn] at held
  cases listed : pkToConn.lookup pk with
  | none =>
    rw [listed] at held
    exact ⟨kept, held, member⟩
  | some conns =>
    rw [listed] at held
    dsimp only at held
    split at held
    · exact ⟨kept, (HashMap.lookup_erase_eq_some_iff.mp held).2, member⟩
    · rcases HashMap.lookup_insert_eq_some_iff.mp held with ⟨rfl, rfl⟩ | ⟨-, held⟩
      · exact ⟨conns, listed, List.mem_of_mem_filter member⟩
      · exact ⟨kept, held, member⟩

theorem Addressed.removeStaleConn {runtime : Runtime crypto noise} (addressed : runtime.Addressed)
    (dropped : ConnectionId) : (runtime.removeStaleConn dropped).Addressed where
  named connId session held := addressed.named connId session
    (lookup_sessions_removeStaleConn runtime dropped connId session held).2
  claimed pk connId addr claims := by
    obtain ⟨kept, session, listed, member, held, claim⟩ := claims
    have before := (lookup_sessions_removeStaleConn runtime dropped connId session held).2
    obtain ⟨sessions, connToPk, pkToConn, frame⟩ := removeStaleConn_frame runtime dropped
    have known : (runtime.removeStaleConn dropped).pkToAddr = runtime.pkToAddr := by
      rw [frame]
    rw [known]
    have earlier : ∃ conns, runtime.pkToConn.lookup pk = some conns ∧ connId ∈ conns := by
      rw [Runtime.removeStaleConn] at listed
      cases entered : runtime.connToPk.lookup dropped with
      | none =>
        rw [entered] at listed
        exact ⟨kept, listed, member⟩
      | some user =>
        rw [entered] at listed
        exact mem_of_mem_dropConn listed member
    obtain ⟨conns, listedBefore, memberBefore⟩ := earlier
    exact addressed.claimed pk connId addr
      ⟨conns, session, listedBefore, memberBefore, before, claim⟩
  pending := pendingSessions_removeStaleConn runtime dropped ▸ addressed.pending

/-- An address that all sessions of the user claim. -/
theorem Addressed.learnAddress {runtime : Runtime crypto noise} (addressed : runtime.Addressed)
    {pk : Key} {addr : SocketAddr}
    (agree : ∀ connId claimed, runtime.Claims pk connId claimed → claimed = addr) :
    (runtime.learnAddress pk (some addr)).Addressed where
  named := addressed.named
  claimed other connId claimed claims := by
    show AList.lookup other (runtime.pkToAddr.insert pk addr) = some claimed
    by_cases same : other = pk
    · rw [agree connId claimed (same ▸ claims), same]
      exact AList.lookup_insert _
    · rw [AList.lookup_insert_ne same]
      exact addressed.claimed other connId claimed claims
  pending := addressed.pending

/-- A session that is entered under its connection id. If it claims an address, this is in the
table, and no other user lists the connection. -/
theorem Addressed.register {runtime : Runtime crypto noise} (addressed : runtime.Addressed)
    {connId : ConnectionId} {pk : Key} {session : Session crypto noise}
    (named : session.connectionId = some connId)
    (known : ∀ addr, session.peerAddr = some addr → runtime.pkToAddr.lookup pk = some addr ∧
      ∀ other conns, runtime.pkToConn.lookup other = some conns → connId ∈ conns → other = pk) :
    (runtime.register connId pk session).2.Addressed where
  named other last held := by
    rcases HashMap.lookup_insert_eq_some_iff.mp held with ⟨rfl, rfl⟩ | ⟨-, held⟩
    · exact named
    · exact addressed.named other last held
  claimed user other addr claims := by
    obtain ⟨conns, last, listed, member, held, claim⟩ := claims
    show runtime.pkToAddr.lookup user = some addr
    rcases HashMap.lookup_insert_eq_some_iff.mp held with ⟨rfl, rfl⟩ | ⟨different, stays⟩
    · obtain ⟨entered, only⟩ := known addr claim
      rcases HashMap.lookup_insert_eq_some_iff.mp listed with ⟨rfl, -⟩ | ⟨-, listed⟩
      · exact entered
      · rw [only user conns listed member]
        exact entered
    · refine addressed.claimed user other addr ?_
      rcases HashMap.lookup_insert_eq_some_iff.mp listed with ⟨rfl, rfl⟩ | ⟨-, listed⟩
      · rcases List.mem_append.mp member with before | here
        · cases old : runtime.pkToConn.lookup user with
          | none =>
            rw [old] at before
            cases before
          | some conns =>
            rw [old] at before
            exact ⟨conns, last, old, before, stays, claim⟩
        · exact absurd (List.mem_singleton.mp here) different
      · exact ⟨conns, last, listed, member, stays, claim⟩
  pending := addressed.pending

/-! ### What each call leaves -/

theorem Addressed.enableSessionInitiator {runtime : Runtime crypto noise}
    (addressed : runtime.Addressed) (peerDeviceX25519Pub : Key) (peerUserId : UserID crypto)
    (tag : HandshakeTag) :
    (runtime.enableSessionInitiator peerDeviceX25519Pub peerUserId tag).2.Addressed := by
  refine Outcome.orReturn_state Addressed addressed fun ourMasterPubkey _ => ?_
  refine Outcome.orReturn_state Addressed addressed fun deviceCert _ => ?_
  refine Outcome.orReturn_state Addressed addressed fun session built => ?_
  obtain ⟨initiator, _, built⟩ := Outcome.bind_eq_ok_iff.mp built
  refine addressed.insertPending tag _ ?_
  rw [← Except.ok.inj built]

theorem Addressed.initiateHandshake {runtime : Runtime crypto noise} (addressed : runtime.Addressed)
    (tag : HandshakeTag) (draws : RuntimeDraws) :
    (runtime.initiateHandshake tag draws).2.Addressed := by
  refine Outcome.orReturn_state Addressed addressed ?_
  rintro ⟨session, peerPkOpt⟩ found
  refine Outcome.orReturn_state Addressed addressed fun peerPk _ => ?_
  have same :=
    (session.sameParties_initiateHandshake runtime.address draws.handshake).peerAddr
  rw [addressed.pending tag _ (okOr_eq_ok_iff.mp found)] at same
  rcases run : session.initiateHandshake runtime.address draws.handshake with ⟨outcome, next⟩
  rw [run] at same
  have advanced := addressed.insertPending tag peerPkOpt same
  refine Outcome.orReturn_state Addressed advanced fun bytes _ => ?_
  refine Outcome.orReturn_state Addressed advanced fun addr _ => ?_
  exact advanced

/-- A session that is completed knows its connection id. -/
theorem Addressed.completePending {runtime : Runtime crypto noise} (addressed : runtime.Addressed)
    (packet : Packet) (sender : SocketAddr) (draws : RuntimeDraws) :
    (runtime.completePending packet sender draws).2.Addressed ∧
      ∀ connId pk, (runtime.completePending packet sender draws).1 = .ok (some (connId, pk)) →
        ∃ entry, entry.1.connectionId = some connId ∧
          (runtime.completePending packet sender draws).2.pendingSessions.lookup
            packet.payload.connectionId = some entry := by
  have advanced {session last : Session crypto noise} {peerPkOpt : Option Key}
      {outcome : Outcome Unit}
      (takes : runtime.Takes packet draws session peerPkOpt outcome last) :
      Addressed { runtime with
        pendingSessions := runtime.pendingSessions.insert packet.payload.connectionId
          (last, peerPkOpt) } :=
    addressed.insertPending packet.payload.connectionId peerPkOpt
      (takes.sameParties.peerAddr.trans (addressed.pending _ _ takes.found))
  have completes := runtime.completePending_completes packet sender draws
  generalize runtime.completePending packet sender draws = result at completes ⊢
  cases completes with
  | uncalled => exact ⟨addressed, fun _ _ none => by cases none⟩
  | refused takes => exact ⟨advanced takes, fun _ _ none => by cases none⟩
  | broken takes => exact ⟨advanced takes, fun _ _ none => by cases none⟩
  | @promoted _ last peerPkOpt _ takes named =>
    refine ⟨(advanced takes).pinPeer sender _, fun other pk same => ?_⟩
    cases same
    refine ⟨(last, peerPkOpt), named, ?_⟩
    dsimp only
    rw [pinPeer_pendingSessions]
    exact AList.lookup_insert _

/-- A call that is vouched for is answered under the connection id of its session. -/
theorem answer_of_vouched {runtime : Runtime crypto noise} {packet : Packet}
    {fresh session : Session crypto noise} {responder : Responder noise}
    {introduction : Introduction crypto} {draws : RuntimeDraws} {reply : Bytes}
    (spawned : runtime.spawnResponder = .ok fresh)
    (introduces : runtime.introduced packet = .ok (responder, introduction))
    (answered : (fresh.introduced responder introduction).replyHandshake draws.handshake =
      (.ok reply, session)) :
    runtime.answer packet draws = session.connectionId := by
  rw [answer, spawned]
  dsimp only
  rw [(accepts_iff_introduced spawned).mpr ⟨responder, introduction, introduces, rfl⟩]
  dsimp only
  rw [answered]

theorem Addressed.respond {runtime : Runtime crypto noise} (addressed : runtime.Addressed)
    {packet : Packet} {draws : RuntimeDraws} (sender : SocketAddr)
    (keeps : ∀ responder introduction, runtime.introduced packet = .ok (responder, introduction) →
      (∀ connId addr, runtime.Claims introduction.masterPubkey connId addr →
        addr = introduction.addr) ∧
      ∀ connId pk conns, runtime.answer packet draws = some connId →
        runtime.pkToConn.lookup pk = some conns → connId ∈ conns →
          pk = introduction.masterPubkey) :
    (runtime.respond packet sender draws).2.Addressed := by
  have responds := runtime.respond_responds packet sender draws
  generalize runtime.respond packet sender draws = result at responds ⊢
  cases responds with
  | unread => exact addressed
  | unvouched _ introduces => exact addressed.learnAddress (keeps _ _ introduces).1
  | @vouched _ session _ introduction _ connId _ spawned introduces _ answered named claims =>
    obtain ⟨agree, alone⟩ := keeps _ _ introduces
    have answers := (answer_of_vouched spawned introduces answered).trans named
    have pinned := (addressed.learnAddress agree).pinPeer sender session.peerDeviceCertificate
    rw [Prod.map_snd, id, settleCall_of_named _ named]
    obtain ⟨peerKeys, frame⟩ := pinPeer_frame (runtime.learnAddress introduction.masterPubkey
      (some introduction.addr)) sender session.peerDeviceCertificate
    rw [frame] at pinned ⊢
    refine Addressed.of_tables (pinned.register named fun addr claim => ?_) rfl rfl rfl rfl
    obtain rfl : introduction.addr = addr := Option.some.inj (claims.symm.trans claim)
    exact ⟨AList.lookup_insert _, fun other conns listed member =>
      alone connId other conns answers listed member⟩

theorem Addressed.tickHandshake {runtime : Runtime crypto noise} (addressed : runtime.Addressed)
    {packet : Packet} {sender : SocketAddr} {draws : RuntimeDraws}
    (keeps : runtime.KeepsAddresses (.tickHandshake packet sender draws)) :
    (runtime.tickHandshake packet sender draws).2.Addressed := by
  obtain ⟨completes, promotes⟩ := addressed.completePending packet sender draws
  rcases runtime.completePending_cases packet sender draws with
    ⟨pendingSessions, run, noAnswer⟩ | ⟨fault, pendingSessions, run, _⟩ | ⟨connId, pk, next, run, _⟩
  all_goals rw [run] at completes promotes
  · by_cases unseen : packet.payload.connectionId ∉ runtime.seenTags
    · rw [Runtime.tickHandshake, run]
      dsimp only
      rw [if_neg unseen]
      exact completes.respond sender (keeps ⟨unseen, noAnswer⟩)
    · rw [Runtime.tickHandshake, run]
      dsimp only
      rw [if_pos (not_not.mp unseen)]
      exact completes
  · rw [Runtime.tickHandshake, run]
    exact completes
  · obtain ⟨entry, named, held⟩ := promotes connId pk rfl
    rw [Runtime.tickHandshake, run]
    dsimp only at held ⊢
    rw [held]
    refine (completes.erasePending packet.payload.connectionId).register named fun addr claim => ?_
    rw [completes.pending _ entry held] at claim
    cases claim

theorem Addressed.perform {runtime : Runtime crypto noise} (addressed : runtime.Addressed)
    {call : Call crypto noise} (keeps : runtime.KeepsAddresses call) :
    (runtime.perform call).2.Addressed := by
  cases call with
  | setMasterPubkey pk => exact addressed.of_tables rfl rfl rfl rfl
  | setDeviceCert cert => exact addressed.of_tables rfl rfl rfl rfl
  | enableSessionInitiator peerDeviceX25519Pub peerUserId tag =>
    exact addressed.enableSessionInitiator peerDeviceX25519Pub peerUserId tag
  | initiateHandshake tag draws => exact addressed.initiateHandshake tag draws
  | tickHandshake packet sender draws => exact addressed.tickHandshake keeps
  | tickMessage packet sender env now =>
    refine tickMessage_state Addressed ?_ ?_ ?_ packet sender env now addressed
    · exact fun _ _ _ ratchet addressed found => addressed.ratchet ratchet found
    · exact fun _ dropped addressed => addressed.removeStaleConn dropped
    · exact fun _ _ addressed => addressed.of_tables rfl rfl rfl rfl
  | sendMessage msg peerPk key nonce draws =>
    refine sendMessage_state Addressed ?_ msg peerPk key nonce draws addressed
    exact fun _ _ _ ratchet addressed found => addressed.ratchet ratchet found
  | writePeers pkToAddr peerKeys => exact ⟨addressed.named, keeps, addressed.pending⟩

/-! ### Where the packets go -/

/-- Each packet that the loop sends is wrapped for the address, on one of the connections. -/
theorem sendLoop_wrapsFor (inner : Bytes) (addr : SocketAddr) (relayId : U128)
    (conns : List (ConnectionId × SendDraws)) {outgoing : List (Packet × SocketAddr)}
    {runtime : Runtime crypto noise}
    (named : ∀ connId session, runtime.sessions.lookup connId = some session →
      session.connectionId = some connId)
    {sent : Packet × SocketAddr}
    (member : sent ∈ (sendLoop inner addr relayId conns outgoing runtime).2.1) :
    sent ∈ outgoing ∨ ∃ conn ∈ conns, WrapsFor addr relayId conn.1 sent := by
  induction conns generalizing outgoing runtime with
  | nil => exact Or.inl member
  | cons conn rest inductionHypothesis =>
    obtain ⟨connId, draws⟩ := conn
    have later : (sent ∈ outgoing ∨ ∃ conn ∈ rest, WrapsFor addr relayId conn.1 sent) →
        sent ∈ outgoing ∨ ∃ conn ∈ (connId, draws) :: rest, WrapsFor addr relayId conn.1 sent :=
      Or.imp_right fun ⟨conn, listed, wraps⟩ => ⟨conn, List.mem_cons_of_mem _ listed, wraps⟩
    rw [sendLoop] at member
    cases found : runtime.sessions.lookup connId with
    | none =>
      rw [found] at member
      exact later (inductionHypothesis named member)
    | some session =>
      rw [found] at member
      dsimp only at member
      split at member
      · obtain ⟨ratchet, frame⟩ := session.send_frame inner draws.nonce draws.packetId
        rcases run : session.send inner draws.nonce draws.packetId with ⟨outcome, next⟩
        rw [run] at frame member
        dsimp only at member
        rcases called : outcome.inContext "session send" with fault | pkt
        all_goals rw [called] at member
        · exact Or.inl member
        · have stillNamed (other : ConnectionId) (last : Session crypto noise)
              (held : AList.lookup other (runtime.sessions.insert connId next) = some last) :
              last.connectionId = some other := by
            rcases HashMap.lookup_insert_eq_some_iff.mp held with ⟨rfl, rfl⟩ | ⟨-, held⟩
            · rw [show next = { session with ratchet } from frame]
              exact named _ session found
            · exact named other last held
          rcases inductionHypothesis stillNamed member with here | ⟨conn, listed, wraps⟩
          · rcases List.mem_append.mp here with before | here
            · exact Or.inl before
            · rw [Outcome.inContext_eq_ok_iff.mp called] at run
              have own := Session.connectionId_of_send run
              rw [named connId session found] at own
              exact Or.inr ⟨(connId, draws), List.mem_cons_self, pkt, draws.frameId,
                (Option.some.inj own).symm, List.mem_singleton.mp here⟩
          · exact Or.inr ⟨conn, List.mem_cons_of_mem _ listed, wraps⟩
      · exact later (inductionHypothesis named member)

/-- A message goes to the address in the table, on the connections of the user. -/
theorem sendMessage_wrapsFor {runtime : Runtime crypto noise}
    (named : ∀ connId session, runtime.sessions.lookup connId = some session →
      session.connectionId = some connId)
    {msg : Message} {pk key : Key} {nonce : Nonce} {draws : Nat → SendDraws}
    {sent : Packet × SocketAddr}
    (member : sent ∈ (runtime.sendMessage msg pk key nonce draws).2.1) :
    ∃ addr conns connId, runtime.pkToAddr.lookup pk = some addr ∧
      runtime.pkToConn.lookup pk = some conns ∧ connId ∈ conns ∧
        WrapsFor addr (deriveId crypto pk) connId sent := by
  rw [sendMessage] at member
  cases listed : runtime.pkToConn.lookup pk with
  | none =>
    rw [listed] at member
    cases member
  | some conns =>
    rw [listed] at member
    cases known : runtime.pkToAddr.lookup pk with
    | none =>
      rw [known] at member
      cases member
    | some addr =>
      rw [known] at member
      dsimp only at member
      rcases encrypted : crypto.encrypt msg.serialize key nonce with fault | ⟨ciphertext, drawn⟩
      · rw [encrypted] at member
        cases member
      · rw [encrypted] at member
        dsimp only at member
        have fromLoop : sent ∈ (sendLoop (key.toList ++ drawn.toList ++ ciphertext) addr
            (deriveId crypto pk) (conns.mapIdx fun index connId => (connId, draws index)) []
              runtime).2.1 := by
          rcases run : sendLoop (key.toList ++ drawn.toList ++ ciphertext) addr
            (deriveId crypto pk) (conns.mapIdx fun index connId => (connId, draws index)) []
              runtime with ⟨fault | _, outgoing, next⟩
          all_goals rw [run] at member
          · exact member
          · dsimp only at member
            split at member
            · cases member
            · exact member
        rcases sendLoop_wrapsFor _ _ _ _ named fromLoop with none | ⟨conn, among, wraps⟩
        · cases none
        · obtain ⟨index, inRange, rfl⟩ := List.mem_mapIdx.mp among
          exact ⟨addr, conns, _, rfl, rfl, List.getElem_mem inRange, wraps⟩

/-- With the table in order, each session is served at the address claimed for it. -/
theorem Addressed.served {runtime : Runtime crypto noise} (addressed : runtime.Addressed)
    (pk : Key) : runtime.ServedAtClaimed pk := by
  intro msg key nonce draws sent member packet session claimed unwrapped held claim
  obtain ⟨addr, conns, connId, known, listed, among, original, frameId, named, rfl⟩ :=
    sendMessage_wrapsFor addressed.named member
  rw [innerPacket_sendPacket] at unwrapped
  obtain rfl := Option.some.inj unwrapped
  rw [named] at held
  have inTable := addressed.claimed pk connId claimed ⟨conns, session, listed, among, held, claim⟩
  exact Option.some.inj (known.symm.trans inTable)

/-- A call that keeps the addresses. -/
def SteadyStep (before after : Runtime crypto noise) : Prop :=
  ∃ call, before.KeepsAddresses call ∧ after = (before.perform call).2

/-- In every run whose calls keep the addresses, what a session is sent goes to the address claimed
for it; and if the handshakes have distinct connection ids and nothing was sent yet, a message goes
there over every session of the user. -/
theorem served_of_run (crypto : Primitives) (noise : Noise) (address : SocketAddr)
    (deviceX25519Priv : Key) (peerKeys : HashMap SocketAddr (VerifyingKey crypto))
    {last : Runtime crypto noise}
    (run : Relation.ReflTransGen SteadyStep (.bind address deviceX25519Priv peerKeys) last) :
    (∀ pk, last.ServedAtClaimed pk) ∧
    ∀ ledger : Ledger crypto noise, Relation.ReflTransGen Ledger.Step
        (Ledger.start (.bind address deviceX25519Priv peerKeys)) ledger →
      ledger.DistinctIds → ledger.runtime = last →
        ∀ limit msg pk connId addr key nonce draws, crypto.SealsUpTo limit →
          msg.serialize.length + 92 ≤ limit → last.Claims pk connId addr →
            last.ReachesEverySession msg pk key nonce draws addr := by
  have addressed : last.Addressed := by
    refine Run.preserves ?_ (addressed_bind address deviceX25519Priv peerKeys) run
    rintro before after holds ⟨call, keeps, rfl⟩
    exact holds.perform keeps
  refine ⟨addressed.served, ?_⟩
  rintro ledger kept distinct rfl limit msg pk connId addr key nonce draws seals fits claims
  have balanced := Ledger.balanced_of_run kept distinct
  exact reachesEverySession balanced.orderly balanced.staffed seals fits
    (addressed.claimed pk connId addr claims) key nonce draws

/-! ### Two devices of one user -/

/-- A session whose packet, when a message is sent to user `40`, goes to another address than the
one claimed for it. -/
def sampleDiverts (runtime : Runtime sampleSuite SampleSuite.noise) : Bool :=
  (runtime.sendMessage Ledger.sampleMessage (SampleSuite.octets 32 40) (Octets.zero 32)
      (Octets.zero 12) (fun _ => ⟨Octets.zero 12, 0, 0⟩)).2.1.any fun sent =>
    (innerPacket sent.1).any fun packet =>
      (runtime.sessions.lookup packet.payload.connectionId).any fun session =>
        session.peerAddr.any fun addr => sent.2 ≠ addr

theorem not_served_of_diverts {runtime : Runtime sampleSuite SampleSuite.noise}
    (diverts : sampleDiverts runtime = true) :
    ¬ runtime.ServedAtClaimed (SampleSuite.octets 32 40) := by
  intro served
  obtain ⟨sent, member, diverts⟩ := List.any_eq_true.mp diverts
  obtain ⟨packet, unwrapped, diverts⟩ := (Option.any_eq_true _ _).mp diverts
  obtain ⟨session, held, diverts⟩ := (Option.any_eq_true _ _).mp diverts
  obtain ⟨addr, claim, diverts⟩ := (Option.any_eq_true _ _).mp diverts
  exact of_decide_eq_true diverts
    (served _ _ _ _ sent member packet session addr unwrapped held claim)

/-- Once devices `6` and `7` have called, from two addresses, what the first is sent goes to the
second. -/
theorem second_device_diverts : ∃ last : Runtime sampleSuite SampleSuite.noise,
    Relation.ReflTransGen Step (bind sampleAddress (SampleSuite.octets 32 50) ∅) last ∧
      last.sessions.size = 2 ∧ ¬ last.ServedAtClaimed (SampleSuite.octets 32 40) := by
  refine ⟨(Ledger.sampleCalls (.v4 (Octets.zero 4) 9007)).foldl
    (fun runtime call => (runtime.perform call).2)
      (bind sampleAddress (SampleSuite.octets 32 50) ∅),
        Run.of_foldl (fun _ call _ => ⟨call, rfl⟩) _, by decide +kernel, ?_⟩
  exact not_served_of_diverts (by decide +kernel)

/-- The runtime when device `6` has called. -/
def sampleOnce : Runtime sampleSuite SampleSuite.noise :=
  (sampleRuntime.perform
    (.tickHandshake (Ledger.sampleDeviceCall 6 1 sampleAddress) sampleAddress sampleDraws)).2

/-- A call from device `7` names the address that is claimed already. -/
theorem sampleOnce_keepsAddresses : sampleOnce.KeepsAddresses
    (.tickHandshake (Ledger.sampleDeviceCall 7 2 sampleAddress) sampleAddress sampleDraws) := by
  have claimed : sampleOnce.sessions.entries.all
      (fun entry => entry.2.peerAddr = some sampleAddress) = true := by
    decide +kernel
  have alone : sampleOnce.pkToConn.entries.all
      (fun entry => entry.1 = SampleSuite.octets 32 40) = true := by
    decide +kernel
  have named : (sampleOnce.introduced (Ledger.sampleDeviceCall 7 2 sampleAddress)).toOption.all
      (fun said => said.2.masterPubkey = SampleSuite.octets 32 40 &&
        said.2.addr = sampleAddress) = true := by
    decide +kernel
  rw [List.all_eq_true] at claimed alone
  intro _ responder introduction introduces
  rw [introduces] at named
  obtain ⟨masterPubkey, addr⟩ := Bool.and_eq_true_iff.mp named
  rw [of_decide_eq_true masterPubkey, of_decide_eq_true addr]
  constructor
  · rintro connId other ⟨conns, session, _, _, held, claim⟩
    have here := of_decide_eq_true (claimed _ (HashMap.lookup_eq_some_iff.mp held))
    exact Option.some.inj (claim.symm.trans here)
  · intro connId pk conns _ listed _
    exact of_decide_eq_true (alone _ (HashMap.lookup_eq_some_iff.mp listed))

/-- With both devices at one address, a message goes to it over both sessions. -/
theorem both_devices_served : Ledger.sampleLedger.runtime.sessions.size = 2 ∧
    Ledger.sampleLedger.runtime.ServedAtClaimed (SampleSuite.octets 32 40) ∧
    Ledger.sampleLedger.runtime.ReachesEverySession Ledger.sampleMessage (SampleSuite.octets 32 40)
      (Octets.zero 32) (Octets.zero 12) (fun _ => ⟨Octets.zero 12, 0, 0⟩) sampleAddress := by
  have once : Relation.ReflTransGen SteadyStep (bind sampleAddress (SampleSuite.octets 32 50) ∅)
      sampleOnce := by
    refine .head ⟨.setMasterPubkey (SampleSuite.octets 32 42), trivial, rfl⟩
      (.head ⟨.setDeviceCert (sampleCertificate 42 50), trivial, rfl⟩
        (.single ⟨.tickHandshake (Ledger.sampleDeviceCall 6 1 sampleAddress) sampleAddress
          sampleDraws, ?_, rfl⟩))
    refine fun _ responder introduction _ => ⟨fun connId addr claims => ?_, ?_⟩
    · obtain ⟨_, _, listed, _⟩ := claims
      cases listed
    · intro connId pk conns _ listed
      cases listed
  have twice : Ledger.sampleLedger.runtime = (sampleOnce.perform
      (.tickHandshake (Ledger.sampleDeviceCall 7 2 sampleAddress) sampleAddress
        sampleDraws)).2 := by
    rw [Ledger.sampleLedger, Ledger.runtime_foldl]
    simp only [Ledger.sampleCalls, List.foldl_cons, List.foldl_nil, sampleOnce, sampleRuntime,
      Ledger.start]
  have run : Relation.ReflTransGen SteadyStep (bind sampleAddress (SampleSuite.octets 32 50) ∅)
      Ledger.sampleLedger.runtime :=
    once.tail ⟨_, sampleOnce_keepsAddresses, twice⟩
  have claims : (Ledger.sampleLedger.runtime.pkToConn.lookup (SampleSuite.octets 32 40)).any
      (fun conns => conns.any fun connId =>
        (Ledger.sampleLedger.runtime.sessions.lookup connId).any fun session =>
          session.peerAddr = some sampleAddress) = true := by
    decide +kernel
  obtain ⟨conns, listed, claims⟩ := (Option.any_eq_true _ _).mp claims
  obtain ⟨connId, member, claims⟩ := List.any_eq_true.mp claims
  obtain ⟨session, held, claims⟩ := (Option.any_eq_true _ _).mp claims
  obtain ⟨served, reaches⟩ := served_of_run sampleSuite SampleSuite.noise sampleAddress
    (SampleSuite.octets 32 50) ∅ run
  refine ⟨by decide +kernel, served (SampleSuite.octets 32 40), ?_⟩
  exact reaches _ Ledger.sampleLedger_run Ledger.sampleLedger_distinctIds rfl 1000 _ _ connId _ _
    _ _ (SampleSuite.sealsUpTo 1000) (by decide +kernel)
      ⟨conns, session, listed, member, held, of_decide_eq_true claims⟩

end Runtime

end Insub
