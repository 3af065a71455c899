/-
This file says what `send_message` puts on its way: packets that carry one body, each sealed
by another session, behind the master key of the user that all sessions of the runtime speak
for. A packet is opened, if at all, to what was sealed in it.
-/

import Mathlib
import Insub.Crypto.KeyAccount
import Insub.Protocol.Established
import Insub.Runtime.Frames

namespace Insub

open Rust

/-! ### What a sealed packet opens to -/

/-- The packet seals the bytes behind the master key, under one of some keys. -/
def Packet.Seals (crypto : Primitives) (keys : Set Key) (packet : Packet) (senderPk : Key)
    (bytes : Bytes) : Prop :=
  ∃ key ∈ keys, ∃ ciphertext, ∃ nonce : Nonce, ∃ (ourDhPub : Key) (messageNumber : Nat),
    packet.payload.data = nonce.toList ++ ourDhPub.toList ++ toBeBytes 4 messageNumber ++
      ciphertext ∧
    crypto.aeadEncrypt key nonce (senderPk.toList ++ bytes) = some ciphertext

namespace Session

variable {crypto : Primitives} {noise : Noise}

/-- The keys that the session seals up to some number of next packets with. -/
def sealingKeys (session : Session crypto noise) (count : Nat) : Set Key :=
  { key | ∃ ratchet number, session.ratchet = some ratchet ∧ number < count ∧
    key = Chain.outputKey crypto (Chain.chainKeyAt crypto ratchet.sendingChain.key number) }

/-- The key that the session opens the packet with, if it has one. -/
def keyFor (session : Session crypto noise) (packet : Packet) (env : Surroundings) :
    Option Key := do
  let ratchet ← session.ratchet
  let theirDhPub ← (slice 12 32 packet.payload.data).toOption
  let messageNumber ← (slice 44 4 packet.payload.data).toOption
  ratchet.keyFor crypto (fromBeBytes messageNumber.toList) theirDhPub env

theorem sealingKeys_mono (session : Session crypto noise) {count more : Nat} (le : count ≤ more) :
    session.sealingKeys count ⊆ session.sealingKeys more :=
  fun _ ⟨ratchet, number, held, below, same⟩ => ⟨ratchet, number, held, below.trans_le le, same⟩

/-- What a session seals with once it has sent a packet, it would have come to. -/
theorem sealingKeys_send (session : Session crypto noise) (bytes : Bytes) (nonce : Nonce)
    (packetId : U128) (count : Nat) :
    (session.send bytes nonce packetId).2.sealingKeys count ⊆ session.sealingKeys (count + 1) := by
  let onward (last : Session crypto noise) : Prop :=
    last.sealingKeys count ⊆ session.sealingKeys (count + 1)
  have still : onward session := session.sealingKeys_mono (Nat.le_succ count)
  refine Outcome.orReturn_state onward still fun senderPk _ => ?_
  refine Outcome.orReturn_state onward still fun ratchet held => ?_
  have moved : onward { session with
      ratchet := some (ratchet.encrypt crypto (senderPk.toList ++ bytes) nonce).2 } := by
    rintro key ⟨next, number, same, below, rfl⟩
    obtain rfl := Option.some.inj same
    refine ⟨ratchet, number + 1, okOr_eq_ok_iff.mp held, Nat.succ_lt_succ below, ?_⟩
    rw [DoubleRatchet.encrypt_ratchet, Chain.advance_key, Chain.chainKeyAt_next]
  refine Outcome.orReturn_state onward moved fun sealing _ => ?_
  exact Outcome.orReturn_state onward moved fun connId _ => moved

theorem seals_of_send {session last : Session crypto noise} {bytes : Bytes} {nonce : Nonce}
    {packetId : U128} {packet : Packet} {senderPk : Key}
    (speaks : session.ourMasterPubkey = some senderPk)
    (run : session.send bytes nonce packetId = (.ok packet, last)) :
    packet.Seals crypto (session.sealingKeys 1) senderPk bytes := by
  obtain ⟨speaker, found, run⟩ := Outcome.orReturn_eq_ok_iff.mp run
  obtain rfl : speaker = senderPk :=
    Option.some.inj ((okOr_eq_ok_iff.mp found).symm.trans speaks)
  obtain ⟨ratchet, held, run⟩ := Outcome.orReturn_eq_ok_iff.mp run
  obtain ⟨⟨messageNumber, ciphertext, drawn, ourDhPub⟩, sealing, run⟩ :=
    Outcome.orReturn_eq_ok_iff.mp run
  obtain ⟨connId, _, run⟩ := Outcome.orReturn_eq_ok_iff.mp run
  have written : packet.payload.data =
      drawn.toList ++ ourDhPub.toList ++ toBeBytes 4 messageNumber ++ ciphertext := by
    rw [← Except.ok.inj (Prod.mk.inj run).1]
    rfl
  obtain ⟨key, advanced, sealed⟩ := DoubleRatchet.sealed_of_encrypt crypto sealing
  refine ⟨key, ⟨ratchet, 0, okOr_eq_ok_iff.mp held, Nat.one_pos, ?_⟩, ciphertext, drawn, ourDhPub,
    messageNumber, written, sealed⟩
  exact Chain.outputKey_of_advance advanced

/-- Whatever session opens the bytes of a packet, what it gets is what was sealed. -/
theorem received_of_seals (opens : crypto.OpensSealed) {keys : Set Key}
    (oneKey : crypto.OpensUnderOneKey keys)
    {session last : Session crypto noise} {packet original : Packet} {senderPk written : Key}
    {bytes inner : Bytes} {env : Surroundings} (sealed : original.Seals crypto keys senderPk bytes)
    (same : packet.payload.data = original.payload.data)
    (tries : ∀ key, session.keyFor packet env = some key → key ∈ keys)
    (run : session.receive packet env = (.ok (inner, written), last)) :
    inner = bytes ∧ written = senderPk := by
  obtain ⟨key, member, ciphertext, nonce, ourDhPub, messageNumber, data, sealed⟩ := sealed
  obtain ⟨ratchet, _, _, _, other, held, _, dhPubAt, numberAt, selected, opened⟩ :=
    opened_of_receive run
  have also : other ∈ keys := by
    refine tries other ?_
    rw [keyFor, held, dhPubAt, numberAt]
    exact selected
  have front : (nonce.toList ++ ourDhPub.toList ++ toBeBytes 4 messageNumber).length = 48 := by
    simp only [List.length_append, List.Vector.toList_length, length_toBeBytes]
  rw [same, data, List.drop_left' front] at opened
  have plaintext := oneKey.plaintext_eq opens member also sealed opened
  obtain ⟨sameKey, sameBytes⟩ := List.append_inj plaintext (by
    rw [List.Vector.toList_length, List.Vector.toList_length])
  exact ⟨sameBytes, List.Vector.toList_injective sameKey⟩

end Session

namespace Runtime

variable {crypto : Primitives} {noise : Noise}

/-! ### For whom the sessions speak -/

/-- The runtime and its sessions, also those under way, speak for one user. -/
structure SpeaksFor (runtime : Runtime crypto noise) (ourPk : Key) : Prop where
  named : ∀ pk, runtime.masterPubkey = some pk → pk = ourPk
  sessions : ∀ connId session, runtime.sessions.lookup connId = some session →
    session.ourMasterPubkey = some ourPk
  pending : ∀ tag entry, runtime.pendingSessions.lookup tag = some entry →
    entry.1.ourMasterPubkey = some ourPk

/-- The call does not name another user than ours. -/
def NamesOnly (ourPk : Key) : Call crypto noise → Prop
  | .setMasterPubkey pk => pk = ourPk
  | _ => True

variable {ourPk : Key}

theorem speaksFor_bind (address : SocketAddr) (deviceX25519Priv : Key)
    (peerKeys : HashMap SocketAddr (VerifyingKey crypto)) :
    (bind address deviceX25519Priv peerKeys : Runtime crypto noise).SpeaksFor ourPk where
  named _ held := by cases held
  sessions _ _ held := by cases held
  pending _ _ held := by cases held

theorem SpeaksFor.of_tables {before after : Runtime crypto noise} (speaks : before.SpeaksFor ourPk)
    (masterPubkey : after.masterPubkey = before.masterPubkey)
    (sessions : after.sessions = before.sessions)
    (pendingSessions : after.pendingSessions = before.pendingSessions) : after.SpeaksFor ourPk where
  named := masterPubkey ▸ speaks.named
  sessions := sessions ▸ speaks.sessions
  pending := pendingSessions ▸ speaks.pending

theorem SpeaksFor.insertSession {before after : Runtime crypto noise}
    (speaks : before.SpeaksFor ourPk) {connId : ConnectionId} {session : Session crypto noise}
    (ours : session.ourMasterPubkey = some ourPk)
    (masterPubkey : after.masterPubkey = before.masterPubkey)
    (sessions : after.sessions = before.sessions.insert connId session)
    (pendingSessions : after.pendingSessions = before.pendingSessions) :
    after.SpeaksFor ourPk where
  named := masterPubkey ▸ speaks.named
  sessions other found held := by
    rw [sessions] at held
    rcases HashMap.lookup_insert_eq_some_iff.mp held with ⟨-, rfl⟩ | ⟨-, held⟩
    · exact ours
    · exact speaks.sessions other found held
  pending := pendingSessions ▸ speaks.pending

theorem SpeaksFor.insertPending {runtime : Runtime crypto noise} (speaks : runtime.SpeaksFor ourPk)
    (tag : HandshakeTag) {session : Session crypto noise} (peerPkOpt : Option Key)
    (ours : session.ourMasterPubkey = some ourPk) :
    SpeaksFor { runtime with
      pendingSessions := runtime.pendingSessions.insert tag (session, peerPkOpt) } ourPk := by
  refine ⟨speaks.named, speaks.sessions, fun other entry held => ?_⟩
  rcases HashMap.lookup_insert_eq_some_iff.mp held with ⟨-, rfl⟩ | ⟨-, held⟩
  · exact ours
  · exact speaks.pending other entry held

theorem SpeaksFor.erasePending {runtime : Runtime crypto noise} (speaks : runtime.SpeaksFor ourPk)
    (tag : HandshakeTag) : SpeaksFor { runtime with
      pendingSessions := runtime.pendingSessions.erase tag } ourPk := by
  refine ⟨speaks.named, speaks.sessions, fun other entry held => ?_⟩
  exact speaks.pending other entry (HashMap.lookup_erase_eq_some_iff.mp held).2

theorem SpeaksFor.pinPeer {runtime : Runtime crypto noise} (speaks : runtime.SpeaksFor ourPk)
    (sender : SocketAddr) (certificate : Option (DeviceCertificate crypto)) :
    (runtime.pinPeer sender certificate).SpeaksFor ourPk := by
  obtain ⟨peerKeys, pinned⟩ := pinPeer_frame runtime sender certificate
  rw [pinned]
  exact speaks.of_tables rfl rfl rfl

theorem SpeaksFor.removeStaleConn {runtime : Runtime crypto noise}
    (speaks : runtime.SpeaksFor ourPk) (connId : ConnectionId) :
    (runtime.removeStaleConn connId).SpeaksFor ourPk := by
  have kept (other : ConnectionId) (session : Session crypto noise)
      (held : AList.lookup other (runtime.sessions.erase connId) = some session) :
      session.ourMasterPubkey = some ourPk :=
    speaks.sessions other session (HashMap.lookup_erase_eq_some_iff.mp held).2
  rw [Runtime.removeStaleConn]
  cases runtime.connToPk.lookup connId with
  | none => exact ⟨speaks.named, kept, speaks.pending⟩
  | some pk => exact ⟨speaks.named, kept, speaks.pending⟩

theorem SpeaksFor.enableSessionInitiator {runtime : Runtime crypto noise}
    (speaks : runtime.SpeaksFor ourPk) (peerDeviceX25519Pub : Key) (peerUserId : UserID crypto)
    (tag : HandshakeTag) :
    (runtime.enableSessionInitiator peerDeviceX25519Pub peerUserId tag).2.SpeaksFor ourPk := by
  refine Outcome.orReturn_state (SpeaksFor · ourPk) speaks fun ourMasterPubkey named => ?_
  refine Outcome.orReturn_state (SpeaksFor · ourPk) speaks fun deviceCert _ => ?_
  refine Outcome.orReturn_state (SpeaksFor · ourPk) speaks fun session built => ?_
  refine speaks.insertPending tag _ ?_
  rw [Session.ourMasterPubkey_newInitiator built,
    speaks.named ourMasterPubkey (okOr_eq_ok_iff.mp named)]

theorem SpeaksFor.initiateHandshake {runtime : Runtime crypto noise}
    (speaks : runtime.SpeaksFor ourPk) (tag : HandshakeTag) (draws : RuntimeDraws) :
    (runtime.initiateHandshake tag draws).2.SpeaksFor ourPk := by
  refine Outcome.orReturn_state (SpeaksFor · ourPk) speaks ?_
  rintro ⟨session, peerPkOpt⟩ found
  refine Outcome.orReturn_state (SpeaksFor · ourPk) speaks fun peerPk _ => ?_
  have same :=
    (session.sameParties_initiateHandshake runtime.address draws.handshake).ourMasterPubkey
  rw [speaks.pending tag _ (okOr_eq_ok_iff.mp found)] at same
  rcases run : session.initiateHandshake runtime.address draws.handshake with ⟨outcome, next⟩
  rw [run] at same
  have advanced := speaks.insertPending tag peerPkOpt same
  refine Outcome.orReturn_state (SpeaksFor · ourPk) advanced fun bytes _ => ?_
  refine Outcome.orReturn_state (SpeaksFor · ourPk) advanced fun addr _ => ?_
  exact advanced

theorem SpeaksFor.completePending {runtime : Runtime crypto noise}
    (speaks : runtime.SpeaksFor ourPk) (packet : Packet) (sender : SocketAddr)
    (draws : RuntimeDraws) :
    (runtime.completePending packet sender draws).2.SpeaksFor ourPk := by
  have advanced {session last : Session crypto noise} {peerPkOpt : Option Key}
      {outcome : Outcome Unit}
      (takes : runtime.Takes packet draws session peerPkOpt outcome last) :
      SpeaksFor { runtime with
        pendingSessions := runtime.pendingSessions.insert packet.payload.connectionId
          (last, peerPkOpt) } ourPk :=
    speaks.insertPending packet.payload.connectionId peerPkOpt
      (takes.sameParties.ourMasterPubkey.trans (speaks.pending _ _ takes.found))
  have completes := runtime.completePending_completes packet sender draws
  generalize runtime.completePending packet sender draws = result at completes ⊢
  cases completes with
  | uncalled => exact speaks
  | refused takes => exact advanced takes
  | broken takes => exact advanced takes
  | promoted takes => exact (advanced takes).pinPeer sender _

theorem SpeaksFor.settleCall {runtime : Runtime crypto noise} (speaks : runtime.SpeaksFor ourPk)
    {session : Session crypto noise} (ours : session.ourMasterPubkey = some ourPk) (peerPk : Key)
    (tag : HandshakeTag) (sender : SocketAddr) (outgoing : List (Packet × SocketAddr)) :
    (runtime.settleCall session peerPk tag sender outgoing).2.SpeaksFor ourPk := by
  rw [Runtime.settleCall]
  cases session.connectionId with
  | none => exact speaks
  | some connId =>
    exact (speaks.pinPeer sender session.peerDeviceCertificate).insertSession ours rfl rfl rfl

theorem SpeaksFor.respond {runtime : Runtime crypto noise} (speaks : runtime.SpeaksFor ourPk)
    (packet : Packet) (sender : SocketAddr) (draws : RuntimeDraws) :
    (runtime.respond packet sender draws).2.SpeaksFor ourPk := by
  rw [Runtime.respond]
  rcases spawned : runtime.spawnResponder with fault | fresh
  · exact speaks
  obtain ⟨cert, _, rest⟩ := Outcome.bind_eq_ok_iff.mp spawned
  obtain ⟨masterPk, named, built⟩ := Outcome.bind_eq_ok_iff.mp rest
  have ours := (Session.newResponder_fresh built).1
  rw [speaks.named masterPk (okOr_eq_ok_iff.mp named),
    ← fresh.ourMasterPubkey_acceptHandshake packet.payload.data] at ours
  dsimp only
  rcases accepting : fresh.acceptHandshake packet.payload.data with ⟨(message | site) | _, accepted⟩
  · exact speaks
  · exact speaks
  rw [accepting, ← accepted.ourMasterPubkey_replyHandshake draws.handshake] at ours
  have learned : (runtime.learnAddress (accepted.peerMasterPubkey.getD (Octets.zero 32))
      accepted.peerAddr).SpeaksFor ourPk := by
    obtain ⟨pkToAddr, learns⟩ := learnAddress_frame runtime
      (accepted.peerMasterPubkey.getD (Octets.zero 32)) accepted.peerAddr
    rw [learns]
    exact speaks.of_tables rfl rfl rfl
  dsimp only
  rcases replying : accepted.replyHandshake draws.handshake with ⟨(message | site) | reply, replied⟩
  all_goals rw [replying] at ours
  · exact learned.settleCall ours _ _ _ _
  · exact learned
  · exact learned.settleCall ours _ _ _ _

theorem SpeaksFor.tickHandshake {runtime : Runtime crypto noise} (speaks : runtime.SpeaksFor ourPk)
    (packet : Packet) (sender : SocketAddr) (draws : RuntimeDraws) :
    (runtime.tickHandshake packet sender draws).2.SpeaksFor ourPk := by
  have completes := speaks.completePending packet sender draws
  rw [Runtime.tickHandshake]
  rcases run : runtime.completePending packet sender draws with ⟨fault | _ | ⟨connId, peerPk⟩, next⟩
  all_goals rw [run] at completes
  · exact completes
  · dsimp only
    split
    · exact completes
    · exact completes.respond packet sender draws
  · dsimp only
    cases held : next.pendingSessions.lookup packet.payload.connectionId with
    | none => exact completes
    | some entry =>
      exact (completes.erasePending packet.payload.connectionId).insertSession
        (completes.pending _ entry held) rfl rfl rfl

theorem SpeaksFor.ratchet {runtime : Runtime crypto noise} (speaks : runtime.SpeaksFor ourPk)
    {connId : ConnectionId} {session : Session crypto noise} (ratchet : Option DoubleRatchet)
    (found : runtime.sessions.lookup connId = some session) :
    SpeaksFor { runtime with
      sessions := runtime.sessions.insert connId { session with ratchet } } ourPk := by
  have ours : Session.ourMasterPubkey { session with ratchet } = some ourPk :=
    speaks.sessions connId session found
  exact speaks.insertSession ours rfl rfl rfl

theorem SpeaksFor.tickMessage {runtime : Runtime crypto noise} (speaks : runtime.SpeaksFor ourPk)
    (packet : Packet) (sender : SocketAddr) (env : Surroundings) (now : Instant) :
    (runtime.tickMessage packet sender env now).2.SpeaksFor ourPk := by
  refine tickMessage_state (SpeaksFor · ourPk) ?_ ?_ ?_ packet sender env now speaks
  · exact fun _ _ _ ratchet speaks found => speaks.ratchet ratchet found
  · exact fun _ connId speaks => speaks.removeStaleConn connId
  · exact fun _ _ speaks => speaks.of_tables rfl rfl rfl

/-! ### What is sent -/

/-- The keys that the sessions of the runtime seal up to some number of next packets with. -/
def sealingKeys (runtime : Runtime crypto noise) (count : Nat) : Set Key :=
  { key | ∃ connId session, runtime.sessions.lookup connId = some session ∧
    key ∈ session.sealingKeys count }

theorem sealingKeys_mono (runtime : Runtime crypto noise) {count more : Nat}
    (le : count ≤ more) : runtime.sealingKeys count ⊆ runtime.sealingKeys more :=
  fun _ ⟨connId, session, found, member⟩ =>
    ⟨connId, session, found, session.sealingKeys_mono le member⟩

/-- A packet on its way to the relay, with the body sealed in it under one of some keys. -/
def WrapsBody (crypto : Primitives) (keys : Set Key) (ourPk : Key) (inner : Bytes)
    (sent : Packet × SocketAddr) : Prop :=
  ∃ packet addr relayId frameId, sent = sendPacket packet addr relayId frameId ∧
    packet.Seals crypto keys ourPk inner

theorem WrapsBody.mono {keys more : Set Key} {inner : Bytes} {sent : Packet × SocketAddr}
    (wraps : WrapsBody crypto keys ourPk inner sent) (subset : keys ⊆ more) :
    WrapsBody crypto more ourPk inner sent := by
  obtain ⟨packet, addr, relayId, frameId, same, key, member, sealed⟩ := wraps
  exact ⟨packet, addr, relayId, frameId, same, key, subset member, sealed⟩

/-- The loop leaves the sessions speaking for the user, and each packet it adds wraps the
body, under a key of the sessions. -/
theorem sendLoop_wraps (inner : Bytes) (addr : SocketAddr) (relayId : U128)
    (conns : List (ConnectionId × SendDraws)) {outgoing : List (Packet × SocketAddr)}
    {runtime : Runtime crypto noise} (speaks : runtime.SpeaksFor ourPk) {keys : Set Key}
    (own : runtime.sealingKeys conns.length ⊆ keys)
    (wrap : ∀ sent ∈ outgoing, WrapsBody crypto keys ourPk inner sent) :
    (∀ sent ∈ (sendLoop inner addr relayId conns outgoing runtime).2.1,
      WrapsBody crypto keys ourPk inner sent) ∧
        (sendLoop inner addr relayId conns outgoing runtime).2.2.SpeaksFor ourPk := by
  induction conns generalizing outgoing runtime with
  | nil => exact ⟨wrap, speaks⟩
  | cons conn rest inductionHypothesis =>
    obtain ⟨connId, draws⟩ := conn
    have fewer := (runtime.sealingKeys_mono (Nat.le_succ rest.length)).trans own
    rw [sendLoop]
    cases found : runtime.sessions.lookup connId with
    | none => exact inductionHypothesis speaks fewer wrap
    | some session =>
      dsimp only
      split
      · have ours := speaks.sessions connId session found
        obtain ⟨ratchet, frame⟩ := session.send_frame inner draws.nonce draws.packetId
        have onward := session.sealingKeys_send inner draws.nonce draws.packetId rest.length
        rcases run : session.send inner draws.nonce draws.packetId with ⟨outcome, next⟩
        rw [run] at frame onward
        have still : next.ourMasterPubkey = some ourPk := by
          rw [show next = { session with ratchet } from frame]
          exact ours
        have moved : SpeaksFor { runtime with
            sessions := runtime.sessions.insert connId next } ourPk :=
          speaks.insertSession still rfl rfl rfl
        have later : sealingKeys { runtime with
            sessions := runtime.sessions.insert connId next } rest.length ⊆ keys := by
          rintro key ⟨other, held, sameSession, member⟩
          rcases HashMap.lookup_insert_eq_some_iff.mp sameSession with ⟨_, rfl⟩ | ⟨_, same⟩
          · exact own ⟨connId, session, found, onward member⟩
          · exact fewer ⟨other, held, same, member⟩
        dsimp only
        rcases called : outcome.inContext "session send" with fault | pkt
        · exact ⟨wrap, moved⟩
        · refine inductionHypothesis moved later fun sent member => ?_
          rcases List.mem_append.mp member with old | new
          · exact wrap sent old
          · rw [Outcome.inContext_eq_ok_iff.mp called] at run
            have first : session.sealingKeys 1 ⊆ keys := fun key member =>
              own ⟨connId, session, found, session.sealingKeys_mono (Nat.succ_pos _) member⟩
            obtain ⟨key, member, sealed⟩ := Session.seals_of_send ours run
            exact ⟨pkt, addr, relayId, draws.frameId, List.mem_singleton.mp new, key, first member,
              sealed⟩
      · exact inductionHypothesis speaks fewer wrap

/-- The keys that a message to the user can be sealed with, over the sessions there are. -/
def keysToward (runtime : Runtime crypto noise) (peerPk : Key) : Set Key :=
  runtime.sealingKeys ((runtime.pkToConn.lookup peerPk).getD []).length

theorem sendMessage_wraps {runtime : Runtime crypto noise} (speaks : runtime.SpeaksFor ourPk)
    (msg : Message) (peerPk key : Key) (nonce : Nonce) (draws : Nat → SendDraws) :
    (∀ sent ∈ (runtime.sendMessage msg peerPk key nonce draws).2.1, ∃ ciphertext,
      crypto.aeadEncrypt key nonce msg.serialize = some ciphertext ∧
        WrapsBody crypto (runtime.keysToward peerPk) ourPk
          (key.toList ++ nonce.toList ++ ciphertext) sent) ∧
      (runtime.sendMessage msg peerPk key nonce draws).2.2.SpeaksFor ourPk := by
  have nothing (sent : Packet × SocketAddr) (member : sent ∈ ([] : List (Packet × SocketAddr))) :
      ∃ ciphertext, crypto.aeadEncrypt key nonce msg.serialize = some ciphertext ∧
        WrapsBody crypto (runtime.keysToward peerPk) ourPk
          (key.toList ++ nonce.toList ++ ciphertext) sent :=
    absurd member List.not_mem_nil
  rw [sendMessage]
  cases conns : runtime.pkToConn.lookup peerPk with
  | none => exact ⟨nothing, speaks⟩
  | some connIds =>
    cases runtime.pkToAddr.lookup peerPk with
    | none => exact ⟨nothing, speaks⟩
    | some addr =>
      dsimp only [Primitives.encrypt]
      cases sealed : crypto.aeadEncrypt key nonce msg.serialize with
      | none => exact ⟨fun sent member => absurd member List.not_mem_nil, speaks⟩
      | some ciphertext =>
        dsimp only
        have own : runtime.sealingKeys
            (connIds.mapIdx fun index connId => (connId, draws index)).length ⊆
              runtime.keysToward peerPk := by
          rw [keysToward, conns, List.length_mapIdx]
          exact subset_rfl
        obtain ⟨wraps, after⟩ := sendLoop_wraps (key.toList ++ nonce.toList ++ ciphertext) addr
          (deriveId crypto peerPk) (connIds.mapIdx fun index connId => (connId, draws index)) speaks
          own (fun sent (member : sent ∈ []) => absurd member List.not_mem_nil)
        rcases run : sendLoop (key.toList ++ nonce.toList ++ ciphertext) addr
          (deriveId crypto peerPk) (connIds.mapIdx fun index connId => (connId, draws index)) []
            runtime with ⟨fault | _, outgoing, next⟩
        all_goals rw [run] at wraps after
        · exact ⟨fun sent member => ⟨ciphertext, rfl, wraps sent member⟩, after⟩
        · dsimp only
          split
          · exact ⟨fun sent member => absurd member List.not_mem_nil, after⟩
          · exact ⟨fun sent member => ⟨ciphertext, rfl, wraps sent member⟩, after⟩

/-- The relay takes out of its frame the packet that was put in. -/
theorem innerPacket_sendPacket (packet : Packet) (addr : SocketAddr) (relayId frameId : U128) :
    innerPacket (sendPacket packet addr relayId frameId).1 = some packet := by
  show (RelayFrame.fromSerialized (RelayFrame.serialize _)).toOption.bind _ = _
  rw [RelayFrame.fromSerialized_serialize]
  show (Packet.fromSerialized packet.serialize).toOption = _
  rw [Packet.fromSerialized_serialize]
  rfl

/-! ### Runs of one user -/

theorem SpeaksFor.perform {runtime : Runtime crypto noise} (speaks : runtime.SpeaksFor ourPk)
    {call : Call crypto noise} (names : NamesOnly ourPk call) :
    (runtime.perform call).2.SpeaksFor ourPk := by
  cases call with
  | setMasterPubkey pk =>
    refine ⟨fun other set => ?_, speaks.sessions, speaks.pending⟩
    rw [← Option.some.inj set]
    exact names
  | setDeviceCert cert => exact speaks.of_tables rfl rfl rfl
  | enableSessionInitiator peerDeviceX25519Pub peerUserId tag =>
    exact speaks.enableSessionInitiator peerDeviceX25519Pub peerUserId tag
  | initiateHandshake tag draws => exact speaks.initiateHandshake tag draws
  | tickHandshake packet sender draws => exact speaks.tickHandshake packet sender draws
  | tickMessage packet sender env now => exact speaks.tickMessage packet sender env now
  | sendMessage msg peerPk key nonce draws =>
    exact (sendMessage_wraps speaks msg peerPk key nonce draws).2
  | writePeers pkToAddr peerKeys => exact speaks.of_tables rfl rfl rfl

/-- A call by which the runtime comes to speak for no other user than ours. -/
def OwnStep (ourPk : Key) (before after : Runtime crypto noise) : Prop :=
  ∃ call, NamesOnly ourPk call ∧ after = (before.perform call).2

theorem speaksFor_of_run {address : SocketAddr} {deviceX25519Priv : Key}
    {peerKeys : HashMap SocketAddr (VerifyingKey crypto)} {last : Runtime crypto noise}
    (run : Relation.ReflTransGen (OwnStep ourPk) (.bind address deviceX25519Priv peerKeys) last) :
    last.SpeaksFor ourPk := by
  let ours (runtime : Runtime crypto noise) : Prop := runtime.SpeaksFor ourPk
  have first : ours (.bind address deviceX25519Priv peerKeys) :=
    speaksFor_bind address deviceX25519Priv peerKeys
  have kept : ours last := by
    refine Run.preserves ?_ first run
    rintro before after speaks ⟨call, names, rfl⟩
    exact speaks.perform names
  exact kept

end Runtime

end Insub
