/-
This file proves that the tables of sessions are in order in every run of handshakes and
messages, and that a message to a user then goes out once over each of his sessions. What
this rests on is that no two handshakes of a run yield the same connection id, and that the
runtime is not both ends of one. So that this can be said, the handshakes of a run are counted
along with it: a handshake has the number of the call that prepared it, or that accepted it.
-/

import Mathlib
import Insub.Crypto.SampleSuite
import Insub.Runtime.Authentication
import Insub.Runtime.Openings

namespace Insub

open Rust

namespace Runtime

variable {crypto : Primitives} {noise : Noise}

/-! ### Sending over ready sessions -/

/-- A packet of the connection, on its way to the relay of its user. -/
def WrapsFor (addr : SocketAddr) (relayId : U128) (connId : ConnectionId)
    (sent : Packet × SocketAddr) : Prop :=
  ∃ packet frameId, packet.payload.connectionId = connId ∧
    sent = sendPacket packet addr relayId frameId

/-- Over ready sessions, the loop sends one packet on each connection. -/
theorem sendLoop_ready {inner : Bytes} (addr : SocketAddr) (relayId : U128)
    (seals : ∀ senderPk : Key, ∀ key nonce,
      (crypto.aeadEncrypt key nonce (senderPk.toList ++ inner)).isSome = true)
    {conns : List (ConnectionId × SendDraws)} (runtime : Runtime crypto noise)
    (distinct : (conns.map Prod.fst).Nodup)
    (ready : ∀ conn ∈ conns, ∃ session, runtime.sessions.lookup conn.1 = some session ∧
      session.Ready conn.1) (outgoing : List (Packet × SocketAddr)) :
    ∃ sent last, sendLoop inner addr relayId conns outgoing runtime =
        (.ok (), outgoing ++ sent, last) ∧
      List.Forall₂ (WrapsFor addr relayId) (conns.map Prod.fst) sent := by
  induction conns generalizing runtime outgoing with
  | nil => exact ⟨[], runtime, by rw [sendLoop, List.append_nil], .nil⟩
  | cons conn rest inductionHypothesis =>
    obtain ⟨connId, draws⟩ := conn
    rw [List.map_cons, List.nodup_cons] at distinct
    obtain ⟨session, found, here⟩ := ready (connId, draws) List.mem_cons_self
    dsimp only at found here
    obtain ⟨packet, packed, named⟩ := here.send seals draws.nonce draws.packetId
    rcases run : session.send inner draws.nonce draws.packetId with ⟨outcome, next⟩
    rw [run] at packed
    dsimp only at packed
    have others (conn : ConnectionId × SendDraws) (member : conn ∈ rest) : ∃ session,
        AList.lookup conn.1 (runtime.sessions.insert connId next) = some session ∧
          session.Ready conn.1 := by
      have different : conn.1 ≠ connId := by
        intro same
        have listed : conn.1 ∈ rest.map Prod.fst := List.mem_map_of_mem member
        exact distinct.1 (same ▸ listed)
      rw [AList.lookup_insert_ne different]
      exact ready conn (List.mem_cons_of_mem _ member)
    obtain ⟨sent, last, looped, wraps⟩ := inductionHypothesis
      { runtime with sessions := runtime.sessions.insert connId next } distinct.2 others
        (outgoing ++ [sendPacket packet addr relayId draws.frameId])
    refine ⟨sendPacket packet addr relayId draws.frameId :: sent, last, ?_,
      .cons ⟨packet, draws.frameId, named, rfl⟩ wraps⟩
    rw [sendLoop, found]
    dsimp only
    rw [if_pos here.isEstablished, run, packed]
    dsimp only [Outcome.inContext]
    rw [looped, List.append_assoc, List.singleton_append]

/-- A message to a user whose address is known goes out once over each of his sessions, and is
refused when there is none. -/
structure ReachesEverySession (runtime : Runtime crypto noise) (msg : Message) (peerPk key : Key)
    (nonce : Nonce) (draws : Nat → SendDraws) (addr : SocketAddr) : Prop where
  total : ¬ (runtime.sendMessage msg peerPk key nonce draws).1.Panics
  sends : (runtime.sendMessage msg peerPk key nonce draws).1.Returns ↔
    ∃ connId ∈ runtime.sessions, runtime.connToPk.lookup connId = some peerPk
  packets : ∃ conns : List ConnectionId, conns.Nodup ∧
    (∀ connId, connId ∈ conns ↔
      connId ∈ runtime.sessions ∧ runtime.connToPk.lookup connId = some peerPk) ∧
    List.Forall₂ (WrapsFor addr (deriveId crypto peerPk)) conns
      (runtime.sendMessage msg peerPk key nonce draws).2.1

/-- The connections that a key lists are those of the sessions registered under it. -/
theorem Orderly.mem_conns_iff {runtime : Runtime crypto noise} (orderly : runtime.Orderly)
    {peerPk : Key} {conns : List ConnectionId} (held : runtime.pkToConn.lookup peerPk = some conns)
    (connId : ConnectionId) : connId ∈ conns ↔
      connId ∈ runtime.sessions ∧ runtime.connToPk.lookup connId = some peerPk := by
  have listed : runtime.connToPk.lookup connId = some peerPk ↔ connId ∈ conns := by
    rw [orderly.listed, held]
    constructor
    · rintro ⟨_, ⟨⟩, member⟩
      exact member
    · exact fun member => ⟨conns, rfl, member⟩
  rw [← listed, orderly.sameKeys]
  refine (and_iff_right_of_imp fun entered => ?_).symm
  exact AList.lookup_isSome.mp (Option.isSome_iff_exists.mpr ⟨peerPk, entered⟩)

/-- Nobody is registered under a key that lists no connections. -/
theorem Orderly.connToPk_ne {runtime : Runtime crypto noise} (orderly : runtime.Orderly)
    {peerPk : Key} (unlisted : runtime.pkToConn.lookup peerPk = none) (connId : ConnectionId) :
    runtime.connToPk.lookup connId ≠ some peerPk := by
  intro entered
  obtain ⟨conns, listed, _⟩ := (orderly.listed connId peerPk).mp entered
  rw [unlisted] at listed
  cases listed

/-- The connections of a user, with what is drawn for each, are those of ready sessions. -/
theorem ready_conns {runtime : Runtime crypto noise} (orderly : runtime.Orderly)
    (staffed : runtime.Staffed) {peerPk : Key} {conns : List ConnectionId}
    (held : runtime.pkToConn.lookup peerPk = some conns) {drawn : List (ConnectionId × SendDraws)}
    (names : drawn.map Prod.fst = conns) :
    ∀ conn ∈ drawn, ∃ session, runtime.sessions.lookup conn.1 = some session ∧
      session.Ready conn.1 := by
  intro conn member
  have listed : conn.1 ∈ conns := names ▸ List.mem_map_of_mem member
  obtain ⟨session, found⟩ := Option.isSome_iff_exists.mp
    (AList.lookup_isSome.mpr ((orderly.mem_conns_iff held conn.1).mp listed).1)
  exact ⟨session, found, staffed.ready conn.1 session found⟩

/-- To a user with connections, one packet is sent on each of them. -/
theorem sendMessage_ready {runtime : Runtime crypto noise} (orderly : runtime.Orderly)
    (staffed : runtime.Staffed) {limit : Nat} (seals : crypto.SealsUpTo limit) {msg : Message}
    (fits : msg.serialize.length + 92 ≤ limit) {peerPk : Key} {addr : SocketAddr}
    (known : runtime.pkToAddr.lookup peerPk = some addr) {conns : List ConnectionId}
    (held : runtime.pkToConn.lookup peerPk = some conns) (key : Key) (nonce : Nonce)
    (draws : Nat → SendDraws) : ∃ sent last,
      runtime.sendMessage msg peerPk key nonce draws = (.ok (), sent, last) ∧
        List.Forall₂ (WrapsFor addr (deriveId crypto peerPk)) conns sent := by
  obtain ⟨ciphertext, sealed, length⟩ :=
    seals key nonce msg.serialize (le_trans (Nat.le_add_right _ _) fits)
  have sealsInner (senderPk : Key) (other : Key) (drawn : Nonce) :
      (crypto.aeadEncrypt other drawn (senderPk.toList ++
        (key.toList ++ nonce.toList ++ ciphertext))).isSome = true := by
    obtain ⟨_, again, _⟩ := seals other drawn (senderPk.toList ++
      (key.toList ++ nonce.toList ++ ciphertext)) (by
        simp only [List.length_append, List.Vector.toList_length, length]
        omega)
    rw [again]
    rfl
  have names : (conns.mapIdx fun index connId => (connId, draws index)).map Prod.fst = conns := by
    rw [List.mapIdx_eq_zipIdx_map, List.map_map]
    exact List.zipIdx_map_fst 0 conns
  obtain ⟨sent, last, looped, wraps⟩ := sendLoop_ready addr (deriveId crypto peerPk) sealsInner
    runtime (names.symm ▸ orderly.distinct peerPk conns held)
      (ready_conns orderly staffed held names) []
  rw [names] at wraps
  have some_sent : sent ≠ [] := by
    rintro rfl
    exact orderly.nonempty peerPk conns held (List.forall₂_nil_right_iff.mp wraps)
  refine ⟨sent, last, ?_, wraps⟩
  rw [sendMessage, held, known]
  dsimp only
  rw [Primitives.encrypt, sealed]
  dsimp only
  rw [looped]
  dsimp only
  rw [List.nil_append, if_neg (by rwa [List.isEmpty_iff])]

theorem reachesEverySession {runtime : Runtime crypto noise} (orderly : runtime.Orderly)
    (staffed : runtime.Staffed) {limit : Nat} (seals : crypto.SealsUpTo limit) {msg : Message}
    (fits : msg.serialize.length + 92 ≤ limit) {peerPk : Key} {addr : SocketAddr}
    (known : runtime.pkToAddr.lookup peerPk = some addr) (key : Key) (nonce : Nonce)
    (draws : Nat → SendDraws) : runtime.ReachesEverySession msg peerPk key nonce draws addr := by
  cases held : runtime.pkToConn.lookup peerPk with
  | none =>
    have refused : runtime.sendMessage msg peerPk key nonce draws =
        (.error (.error "no session for peer"), [], runtime) := by
      rw [sendMessage, held]
    refine ⟨?_, ?_, [], List.nodup_nil, fun connId => ?_, ?_⟩
    · rw [refused]
      exact Outcome.not_panics_error _
    · rw [refused]
      refine iff_of_false (Outcome.not_returns_fault _) ?_
      rintro ⟨connId, _, entered⟩
      exact orderly.connToPk_ne held connId entered
    · refine iff_of_false List.not_mem_nil ?_
      rintro ⟨_, entered⟩
      exact orderly.connToPk_ne held connId entered
    · rw [refused]
      exact .nil
  | some conns =>
    obtain ⟨sent, last, ran, wraps⟩ :=
      sendMessage_ready orderly staffed seals fits known held key nonce draws
    obtain ⟨connId, member⟩ := List.exists_mem_of_ne_nil conns (orderly.nonempty peerPk conns held)
    refine ⟨?_, ?_, conns, orderly.distinct peerPk conns held, orderly.mem_conns_iff held, ?_⟩
    · rw [ran]
      exact Outcome.not_panics_ok ()
    · rw [ran]
      exact iff_of_true (Outcome.returns_ok ())
        ⟨connId, (orderly.mem_conns_iff held connId).mp member⟩
    · rw [ran]
      exact wraps

end Runtime

/-! ### The handshakes of a run -/

/-- A runtime, with the handshakes of its run: the number of calls so far, the handshake of every
pending session, and the handshakes that have come through, each with its connection id. -/
structure Ledger (crypto : Primitives) (noise : Noise) where
  runtime : Runtime crypto noise
  calls : Nat
  pendingHandshake : HandshakeTag → Nat
  established : List (Nat × ConnectionId)

namespace Ledger

variable {crypto : Primitives} {noise : Noise}

def start (runtime : Runtime crypto noise) : Ledger crypto noise where
  runtime := runtime
  calls := 0
  pendingHandshake _ := 0
  established := []

/-- The handshake that a packet brings through. It is that of the pending session, or a new
one. -/
def settled (ledger : Ledger crypto noise) (packet : Packet) (sender : SocketAddr)
    (draws : RuntimeDraws) : List (Nat × ConnectionId) :=
  match ledger.runtime.opening packet sender draws with
  | none => []
  | some (.answered connId) => [(ledger.pendingHandshake packet.payload.connectionId, connId)]
  | some (.accepted connId) => [(ledger.calls, connId)]

/-- A call, and what becomes of the handshakes. -/
def perform (ledger : Ledger crypto noise) (call : Call crypto noise) : Ledger crypto noise where
  runtime := (ledger.runtime.perform call).2
  calls := ledger.calls + 1
  pendingHandshake :=
    match call with
    | .enableSessionInitiator peerDeviceX25519Pub peerUserId tag =>
      match (ledger.runtime.enableSessionInitiator peerDeviceX25519Pub peerUserId tag).1 with
      | .ok tag => Function.update ledger.pendingHandshake tag ledger.calls
      | .error _ => ledger.pendingHandshake
    | _ => ledger.pendingHandshake
  established :=
    match call with
    | .tickHandshake packet sender draws =>
      ledger.settled packet sender draws ++ ledger.established
    | _ => ledger.established

/-- A call that sends no message. -/
def Step (before after : Ledger crypto noise) : Prop :=
  ∃ call : Call crypto noise, (∀ msg peerPk key nonce draws,
    call ≠ .sendMessage msg peerPk key nonce draws) ∧ after = before.perform call

theorem runtime_foldl (calls : List (Call crypto noise)) (ledger : Ledger crypto noise) :
    (calls.foldl perform ledger).runtime =
      calls.foldl (fun runtime call => (runtime.perform call).2) ledger.runtime := by
  induction calls generalizing ledger with
  | nil => rfl
  | cons call rest inductionHypothesis => exact inductionHypothesis (ledger.perform call)

/-- Distinct handshakes have distinct connection ids. As every end of a handshake that the
runtime takes part in is counted, this includes that it is never both ends of one. -/
def DistinctIds (ledger : Ledger crypto noise) : Prop :=
  ∀ first second connId, (first, connId) ∈ ledger.established →
    (second, connId) ∈ ledger.established → first = second

/-- The tables are in order, their connections are those of handshakes that came through, and
no pending session is of such a handshake, or of that of another. -/
structure Balanced (ledger : Ledger crypto noise) : Prop where
  orderly : ledger.runtime.Orderly
  staffed : ledger.runtime.Staffed
  known : ∀ connId ∈ ledger.runtime.connToPk, ∃ handshake, (handshake, connId) ∈ ledger.established
  past : ∀ handshake connId, (handshake, connId) ∈ ledger.established → handshake < ledger.calls
  begun : ∀ tag ∈ ledger.runtime.pendingSessions, ledger.pendingHandshake tag < ledger.calls
  apart : ∀ tag ∈ ledger.runtime.pendingSessions, ∀ connId,
    (ledger.pendingHandshake tag, connId) ∉ ledger.established
  single : ∀ tag ∈ ledger.runtime.pendingSessions, ∀ other ∈ ledger.runtime.pendingSessions,
    ledger.pendingHandshake tag = ledger.pendingHandshake other → tag = other

theorem balanced_start (address : SocketAddr) (deviceX25519Priv : Key)
    (peerKeys : HashMap SocketAddr (VerifyingKey crypto)) :
    (start (.bind address deviceX25519Priv peerKeys : Runtime crypto noise)).Balanced where
  orderly := by
    refine ⟨fun connId => Iff.rfl, fun _ _ none => ?_, fun connId pk => ?_, fun _ _ none => ?_,
      fun _ _ none => ?_⟩
    · cases none
    · refine iff_of_false (fun none => by cases none) ?_
      rintro ⟨_, ⟨⟩, _⟩
    · cases none
    · cases none
  staffed := ⟨fun _ _ none => (by cases none), fun _ _ none => (by cases none)⟩
  known connId held := absurd held (AList.notMem_empty connId)
  past _ _ none := by cases none
  begun tag held := absurd held (AList.notMem_empty tag)
  apart tag held := absurd held (AList.notMem_empty tag)
  single tag held := absurd held (AList.notMem_empty tag)

/-- A call that opens no session, and adds no pending one. -/
theorem Balanced.quiet {ledger : Ledger crypto noise} (balanced : ledger.Balanced)
    {runtime : Runtime crypto noise} (follows : ledger.runtime.Follows runtime none) :
    Balanced { ledger with runtime := runtime, calls := ledger.calls + 1 } where
  orderly := follows.orderly
  staffed := follows.staffed
  known connId held := by
    rcases follows.known connId held with before | none
    · exact balanced.known connId before
    · cases none
  past handshake connId member := Nat.lt_succ_of_lt (balanced.past handshake connId member)
  begun tag held := Nat.lt_succ_of_lt (balanced.begun tag (follows.waiting tag held))
  apart tag held := balanced.apart tag (follows.waiting tag held)
  single tag held other otherHeld :=
    balanced.single tag (follows.waiting tag held) other (follows.waiting other otherHeld)

/-- Preparing a call begins a handshake. -/
theorem Balanced.begin {ledger : Ledger crypto noise} (balanced : ledger.Balanced)
    (tag : HandshakeTag) {session : Session crypto noise} {peerPkOpt : Option Key}
    (staffed : Runtime.Staffed { ledger.runtime with
      pendingSessions := ledger.runtime.pendingSessions.insert tag (session, peerPkOpt) }) :
    Balanced { ledger with
      runtime := { ledger.runtime with
        pendingSessions := ledger.runtime.pendingSessions.insert tag (session, peerPkOpt) }
      calls := ledger.calls + 1
      pendingHandshake := Function.update ledger.pendingHandshake tag ledger.calls } := by
  have older (other : HandshakeTag) (different : other ≠ tag)
      (held : other ∈ ledger.runtime.pendingSessions.insert tag (session, peerPkOpt)) :
      other ∈ ledger.runtime.pendingSessions :=
    ((AList.mem_insert _).mp held).resolve_left different
  refine ⟨balanced.orderly.of_tables rfl rfl rfl, staffed, balanced.known,
    fun handshake connId member => Nat.lt_succ_of_lt (balanced.past handshake connId member),
      fun other held => ?_, fun other held connId member => ?_, fun one held other also same => ?_⟩
  · dsimp only at held ⊢
    by_cases here : other = tag
    · rw [here, Function.update_self]
      exact Nat.lt_succ_self _
    · rw [Function.update_of_ne here]
      exact Nat.lt_succ_of_lt (balanced.begun other (older other here held))
  · dsimp only at held member
    by_cases here : other = tag
    · rw [here, Function.update_self] at member
      exact absurd (balanced.past _ connId member) (lt_irrefl _)
    · rw [Function.update_of_ne here] at member
      exact balanced.apart other (older other here held) connId member
  · dsimp only at held also same
    by_cases hereOne : one = tag
    · by_cases hereOther : other = tag
      · rw [hereOne, hereOther]
      · rw [hereOne, Function.update_self, Function.update_of_ne hereOther] at same
        have before := balanced.begun other (older other hereOther also)
        rw [← same] at before
        exact absurd before (lt_irrefl _)
    · rw [Function.update_of_ne hereOne] at same
      by_cases hereOther : other = tag
      · rw [hereOther, Function.update_self] at same
        have before := balanced.begun one (older one hereOne held)
        rw [same] at before
        exact absurd before (lt_irrefl _)
      · rw [Function.update_of_ne hereOther] at same
        exact balanced.single one (older one hereOne held) other (older other hereOther also) same

/-- The handshake that a packet brings through is one that none has come through for yet. If a
pending session has it, it is the one that was answered. -/
theorem Balanced.settled {ledger : Ledger crypto noise} (balanced : ledger.Balanced)
    {packet : Packet} {sender : SocketAddr} {draws : RuntimeDraws} {opened : Runtime.Opening}
    (opens : ledger.runtime.opening packet sender draws = some opened) :
    ∃ handshake, ledger.settled packet sender draws = [(handshake, opened.connId)] ∧
      handshake < ledger.calls + 1 ∧ (∀ connId, (handshake, connId) ∉ ledger.established) ∧
        ∀ tag ∈ ledger.runtime.pendingSessions, ledger.pendingHandshake tag = handshake →
          tag = packet.payload.connectionId ∧ ∃ connId, opened = .answered connId := by
  rw [Ledger.settled, opens]
  cases opened with
  | answered connId =>
    have pending : packet.payload.connectionId ∈ ledger.runtime.pendingSessions := by
      rw [Runtime.opening] at opens
      rcases run : ledger.runtime.completePending packet sender draws with
        ⟨fault | _ | ⟨other, peerPk⟩, next⟩
      · rw [run] at opens
        cases opens
      · rw [run] at opens
        dsimp only at opens
        split at opens
        · cases opens
        · obtain ⟨_, _, accepted⟩ := Option.map_eq_some_iff.mp opens
          cases accepted
      · obtain ⟨session, peerPkOpt, _, found, _⟩ := Runtime.completePending_promoted run
        exact AList.lookup_isSome.mp (Option.isSome_iff_exists.mpr ⟨_, found⟩)
    refine ⟨_, rfl, Nat.lt_succ_of_lt (balanced.begun _ pending), balanced.apart _ pending,
      fun tag held same => ⟨balanced.single tag held _ pending same, connId, rfl⟩⟩
  | accepted connId =>
    refine ⟨ledger.calls, rfl, Nat.lt_succ_self _, fun other member => ?_, fun tag held same => ?_⟩
    · exact absurd (balanced.past _ other member) (lt_irrefl _)
    · exact absurd (same ▸ balanced.begun tag held) (lt_irrefl _)

/-- A handshake packet brings at most one handshake through, under a connection id that is
new. -/
theorem Balanced.tickHandshake {ledger : Ledger crypto noise} (balanced : ledger.Balanced)
    (packet : Packet) (sender : SocketAddr) (draws : RuntimeDraws)
    (distinct : (ledger.perform (.tickHandshake packet sender draws)).DistinctIds) :
    (ledger.perform (.tickHandshake packet sender draws)).Balanced := by
  cases opens : ledger.runtime.opening packet sender draws with
  | none =>
    have follows := (Runtime.follows_tickHandshake balanced.orderly balanced.staffed packet sender
      draws fun opened same => by rw [opens] at same; cases same).1
    rw [opens, Option.map_none] at follows
    have settled : ledger.settled packet sender draws = [] := by
      rw [Ledger.settled, opens]
    have quiet := balanced.quiet follows
    rw [perform, settled, List.nil_append]
    exact quiet
  | some opened =>
    obtain ⟨handshake, settled, begun, unsettled, waits⟩ := balanced.settled opens
    have fresh : opened.connId ∉ ledger.runtime.connToPk := by
      intro held
      obtain ⟨other, member⟩ := balanced.known _ held
      have same : handshake = other := by
        refine distinct handshake other opened.connId ?_ ?_
        · exact List.mem_append_left _ (settled ▸ List.mem_singleton_self _)
        · exact List.mem_append_right _ member
      exact unsettled _ (same ▸ member)
    obtain ⟨follows, gone⟩ := Runtime.follows_tickHandshake balanced.orderly balanced.staffed packet
      sender draws fun other same => by rw [← Option.some.inj (opens.symm.trans same)]; exact fresh
    rw [opens, Option.map_some] at follows
    have grown {entry : Nat × ConnectionId}
        (member : entry ∈ ledger.settled packet sender draws ++ ledger.established) :
        entry = (handshake, opened.connId) ∨ entry ∈ ledger.established := by
      rw [settled] at member
      exact List.mem_cons.mp member
    refine ⟨follows.orderly, follows.staffed, fun connId held => ?_, fun other connId member => ?_,
      fun tag held => ?_, fun tag held connId member => ?_, fun one held other also => ?_⟩
    · rcases follows.known connId held with before | same
      · obtain ⟨other, member⟩ := balanced.known connId before
        exact ⟨other, List.mem_append_right _ member⟩
      · refine ⟨handshake, List.mem_append_left _ ?_⟩
        rw [settled, Option.some.inj same]
        exact List.mem_singleton_self _
    · rcases grown member with same | before
      · rw [(Prod.mk.inj same).1]
        exact begun
      · exact Nat.lt_succ_of_lt (balanced.past other connId before)
    · exact Nat.lt_succ_of_lt (balanced.begun tag (follows.waiting tag held))
    · rcases grown member with same | before
      · obtain ⟨rfl, answered, rfl⟩ :=
          waits tag (follows.waiting tag held) (Prod.mk.inj same).1
        exact gone answered opens held
      · exact balanced.apart tag (follows.waiting tag held) connId before
    · exact balanced.single one (follows.waiting one held) other (follows.waiting other also)

theorem Balanced.perform {before after : Ledger crypto noise} (balanced : before.Balanced)
    (step : Step before after) (distinct : after.DistinctIds) : after.Balanced := by
  obtain ⟨call, unsent, rfl⟩ := step
  have orderly := balanced.orderly
  have staffed := balanced.staffed
  cases call with
  | setMasterPubkey pk => exact balanced.quiet (.of_tables orderly staffed rfl rfl rfl rfl)
  | setDeviceCert cert => exact balanced.quiet (.of_tables orderly staffed rfl rfl rfl rfl)
  | enableSessionInitiator peerDeviceX25519Pub peerUserId tag =>
    rw [Ledger.perform, Runtime.perform]
    rcases Runtime.enableSessionInitiator_cases staffed peerDeviceX25519Pub peerUserId tag with
      ⟨fault, run⟩ | ⟨session, peerPkOpt, run, after⟩
    · rw [run]
      exact balanced.quiet (.of_tables orderly staffed rfl rfl rfl rfl)
    · rw [run]
      exact balanced.begin tag after
  | initiateHandshake tag draws =>
    exact balanced.quiet (Runtime.follows_initiateHandshake orderly staffed tag draws)
  | tickHandshake packet sender draws => exact balanced.tickHandshake packet sender draws distinct
  | tickMessage packet sender env now =>
    exact balanced.quiet (Runtime.follows_tickMessage orderly staffed packet sender env now)
  | sendMessage msg peerPk key nonce draws => exact absurd rfl (unsent msg peerPk key nonce draws)
  | writePeers pkToAddr peerKeys =>
    exact balanced.quiet (.of_tables orderly staffed rfl rfl rfl rfl)

/-- The handshakes that came through stay on record. -/
theorem established_mono {before after : Ledger crypto noise} (step : Step before after) :
    before.established ⊆ after.established := by
  obtain ⟨call, _, rfl⟩ := step
  cases call with
  | tickHandshake packet sender draws => exact List.subset_append_right _ _
  | _ => exact List.Subset.refl _

theorem balanced_of_run {address : SocketAddr} {deviceX25519Priv : Key}
    {peerKeys : HashMap SocketAddr (VerifyingKey crypto)} {last : Ledger crypto noise}
    (run : Relation.ReflTransGen Step
      (start (.bind address deviceX25519Priv peerKeys)) last) (distinct : last.DistinctIds) :
    last.Balanced := by
  induction run with
  | refl => exact balanced_start address deviceX25519Priv peerKeys
  | tail _ step inductionHypothesis =>
    refine (inductionHypothesis fun first second connId one other => ?_).perform step distinct
    exact distinct first second connId (established_mono step one) (established_mono step other)

/-- In every state a run reaches, the tables of sessions are in order, and a message to a user
whose address is known goes out once over each of his sessions. -/
theorem orderly_of_run {address : SocketAddr} {deviceX25519Priv : Key}
    {peerKeys : HashMap SocketAddr (VerifyingKey crypto)} {last : Ledger crypto noise}
    (run : Relation.ReflTransGen Step
      (start (.bind address deviceX25519Priv peerKeys)) last) (distinct : last.DistinctIds) :
    last.runtime.Orderly ∧ ∀ limit msg peerPk addr key nonce draws, crypto.SealsUpTo limit →
      msg.serialize.length + 92 ≤ limit → last.runtime.pkToAddr.lookup peerPk = some addr →
        last.runtime.ReachesEverySession msg peerPk key nonce draws addr := by
  have balanced := balanced_of_run run distinct
  refine ⟨balanced.orderly, fun limit msg peerPk addr key nonce draws seals fits known => ?_⟩
  exact Runtime.reachesEverySession balanced.orderly balanced.staffed seals fits known key nonce draws

/-! ### Two calls that are answered -/

open Insub.Runtime (sampleAddress sampleCertificate)

/-- A call from a device of user `40`, under a tag, which claims an address. -/
def sampleDeviceCall (device tag : Nat) (addr : SocketAddr) : Packet :=
  let payload := (sampleSuite.publicKey (SampleSuite.octets 32 (10 + device))).toList ++
    (sampleCertificate 40 device).serialize ++ (SampleSuite.octets 32 40).toList ++
      Session.addressBytes addr
  Packet.new 0 tag
    { Payload.new .handshake
        ((sampleSuite.publicKey (SampleSuite.octets 32 device)).toList ++ payload)
      with connectionId := SampleSuite.octets 16 tag }

/-- Device `50` of user `42` is called by devices `6` and `7` of user `40`, the second of which is
at an address of its own or at that of the first. -/
def sampleCalls (addr : SocketAddr) : List (Call sampleSuite SampleSuite.noise) :=
  [.setMasterPubkey (SampleSuite.octets 32 42), .setDeviceCert (sampleCertificate 42 50),
    .tickHandshake (sampleDeviceCall 6 1 sampleAddress) sampleAddress Runtime.sampleDraws,
    .tickHandshake (sampleDeviceCall 7 2 addr) sampleAddress Runtime.sampleDraws]

def sampleLedger : Ledger sampleSuite SampleSuite.noise :=
  (sampleCalls sampleAddress).foldl perform (start (.bind sampleAddress (SampleSuite.octets 32 50) ∅))

theorem sampleLedger_run : Relation.ReflTransGen Step
    (start (.bind sampleAddress (SampleSuite.octets 32 50) ∅)) sampleLedger := by
  refine Run.of_foldl (fun _ call member => ⟨call, ?_, rfl⟩) _
  intro msg peerPk key nonce draws
  simp only [sampleCalls, List.mem_cons, List.not_mem_nil, or_false] at member
  rcases member with rfl | rfl | rfl | rfl <;> rintro ⟨⟩

/-- The two handshakes have two connection ids. -/
theorem sampleLedger_distinctIds : sampleLedger.DistinctIds := by
  have ids : (sampleLedger.established.map Prod.snd).Nodup := by decide +kernel
  intro first second connId one other
  exact (Prod.mk.inj (List.inj_on_of_nodup_map ids one other rfl)).1

def sampleMessage : Message where
  id := 1
  content := "hello"
  timestamp := 0
  replyTo := none

/-- A message to the caller goes out over both sessions. -/
theorem caller_reached : sampleLedger.runtime.sessions.size = 2 ∧ sampleLedger.runtime.Orderly ∧
    sampleLedger.runtime.ReachesEverySession sampleMessage (SampleSuite.octets 32 40)
      (Octets.zero 32) (Octets.zero 12) (fun _ => ⟨Octets.zero 12, 0, 0⟩) sampleAddress := by
  have known : sampleLedger.runtime.pkToAddr.lookup (SampleSuite.octets 32 40) =
      some sampleAddress := by
    decide +kernel
  obtain ⟨orderly, reaches⟩ := orderly_of_run sampleLedger_run sampleLedger_distinctIds
  exact ⟨by decide +kernel, orderly, reaches 1000 sampleMessage _ _ _ _ _
    (SampleSuite.sealsUpTo 1000) (by decide +kernel) known⟩

end Ledger

end Insub
