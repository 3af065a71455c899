/-
This file proves when a handshake that cannot be started leaves its session as it was.
`initiate_handshake` of the session stores a new ratchet secret and has the Noise state write the
first message, before the library looks whether it is the caller's turn, and before the runtime
looks whether it has an address for the user. Nothing of this is taken back. So a call without an
address uses the first message up, and a second call, which the library refuses, still replaces the
secret of the first message.
-/

import Mathlib
import Insub.Protocol.KeyAgreement
import Insub.Runtime.Spoiling

namespace Insub

open Rust

variable {crypto : Primitives} {noise : Noise}

/-! ### The session -/

namespace Session

/-- The session has a Noise state whose turn it is: it has not written its first message. -/
def AtTurn (isMyTurn : noise.State → Prop) (session : Session crypto noise) : Prop :=
  ∃ handshake, session.initiator = some ⟨some handshake⟩ ∧ isMyTurn handshake

variable {isMyTurn : noise.State → Prop}

theorem initiateHandshake_unnamed {session : Session crypto noise}
    (unnamed : session.ourMasterPubkey = none) (ourAddr : SocketAddr) (draws : HandshakeDraws) :
    session.initiateHandshake ourAddr draws = (.error (.error "master pubkey not set"), session) := by
  rw [initiateHandshake, unnamed]
  rfl

/-- At its turn, a session writes its first message and stores the secret for it. -/
theorem initiateHandshake_atTurn (turns : noise.TakesTurns isMyTurn)
    {session : Session crypto noise} {ourMasterPubkey : Key}
    (named : session.ourMasterPubkey = some ourMasterPubkey) {handshake : noise.State}
    (calls : session.initiator = some ⟨some handshake⟩) (myTurn : isMyTurn handshake)
    (ourAddr : SocketAddr) (draws : HandshakeDraws) :
    ∃ message next, ¬ isMyTurn next ∧ session.initiateHandshake ourAddr draws = (.ok message,
      { session with
        ourRatchetDhPriv := some draws.ratchetSecret
        initiator := some ⟨some next⟩ }) := by
  have fits : (session.callPayload ourMasterPubkey ourAddr draws.ratchetSecret).length ≤
      Noise.payloadLimit := by
    have size := session.length_callPayload ourMasterPubkey ourAddr draws.ratchetSecret
    have address := length_addressBytes ourAddr
    rw [Noise.payloadLimit]
    omega
  obtain ⟨message, next, wrote, past⟩ := turns.writes handshake draws.ephemeral _ myTurn fits
  exact ⟨message, next, past, initiateHandshake_eq named calls (Initiator.initiate_eq wrote)⟩

/-- Out of turn, the session writes nothing, and stores the secret all the same. -/
theorem initiateHandshake_late (turns : noise.TakesTurns isMyTurn)
    {session : Session crypto noise} {ourMasterPubkey : Key}
    (named : session.ourMasterPubkey = some ourMasterPubkey) (late : ¬ session.AtTurn isMyTurn)
    (ourAddr : SocketAddr) (draws : HandshakeDraws) :
    ∃ message, session.initiateHandshake ourAddr draws = (.error (.error message),
      { session with ourRatchetDhPriv := some draws.ratchetSecret }) := by
  rw [initiateHandshake, named]
  dsimp only [okOr]
  rw [Outcome.ok_orReturn]
  rcases calls : session.initiator with _ | ⟨_ | handshake⟩
  · exact ⟨_, rfl⟩
  · refine ⟨"handshake already completed", ?_⟩
    rw [Outcome.ok_orReturn, Initiator.initiate, ← calls]
  · have past : ¬ isMyTurn handshake := fun myTurn => late ⟨handshake, calls, myTurn⟩
    obtain ⟨reason, refused⟩ := turns.refuses handshake draws.ephemeral
      ((crypto.publicKey draws.ratchetSecret).toList ++ session.ourDeviceCertificate.serialize ++
        ourMasterPubkey.toList ++ addressBytes ourAddr) past
    refine ⟨s!"handshake initiation failed: {reason}", ?_⟩
    rw [Outcome.ok_orReturn, Initiator.initiate_eq refused, ← calls]
    rfl

end Session

/-! ### The runtime -/

namespace Runtime

/-- Of the call that is pending under the tag, nothing has changed: whatever addresses are known
then, it is started as it would have been, and an answer to it is taken as it would have been. -/
structure Untouched (tag : HandshakeTag) (before after : Runtime crypto noise) : Prop where
  pending : after.pendingSessions.lookup tag = before.pendingSessions.lookup tag
  started : ∀ pkToAddr draws, ({ after with pkToAddr }.initiateHandshake tag draws).1 =
    ({ before with pkToAddr }.initiateHandshake tag draws).1
  answered : ∀ (packet : Packet) sender draws, packet.payload.connectionId = tag →
    (after.completePending packet sender draws).1 = (before.completePending packet sender draws).1 ∧
      (after.completePending packet sender draws).2.pendingSessions.lookup tag =
        (before.completePending packet sender draws).2.pendingSessions.lookup tag

theorem initiateHandshake_congr (before after : Runtime crypto noise) {tag : HandshakeTag}
    (pending : after.pendingSessions.lookup tag = before.pendingSessions.lookup tag)
    (addresses : after.pkToAddr = before.pkToAddr) (own : after.address = before.address)
    (draws : RuntimeDraws) :
    (after.initiateHandshake tag draws).1 = (before.initiateHandshake tag draws).1 := by
  rw [initiateHandshake, initiateHandshake, pending, own]
  dsimp only
  rw [addresses]
  rcases before.pendingSessions.lookup tag with _ | ⟨session, _ | peerPk⟩
  · rfl
  · rfl
  dsimp only [okOr, Outcome.ok_orReturn]
  rcases session.initiateHandshake before.address draws.handshake with ⟨fault | bytes, next⟩
  · rfl
  rcases before.pkToAddr.lookup peerPk with _ | addr
  · rfl
  · rfl

theorem completePending_congr (before after : Runtime crypto noise) {packet : Packet}
    (pending : after.pendingSessions.lookup packet.payload.connectionId =
      before.pendingSessions.lookup packet.payload.connectionId)
    (sender : SocketAddr) (draws : RuntimeDraws) :
    (after.completePending packet sender draws).1 = (before.completePending packet sender draws).1 ∧
      (after.completePending packet sender draws).2.pendingSessions.lookup
          packet.payload.connectionId =
        (before.completePending packet sender draws).2.pendingSessions.lookup
          packet.payload.connectionId := by
  rw [completePending, completePending, pending]
  have inserted (entry : Session crypto noise × Option Key) :
      (after.pendingSessions.insert packet.payload.connectionId entry).lookup
          packet.payload.connectionId =
        (before.pendingSessions.insert packet.payload.connectionId entry).lookup
          packet.payload.connectionId := by
    rw [AList.lookup_insert, AList.lookup_insert]
  cases held : before.pendingSessions.lookup packet.payload.connectionId with
  | none => exact ⟨rfl, pending⟩
  | some entry =>
    obtain ⟨session, peerPkOpt⟩ := entry
    dsimp only
    cases session.isInitiator with
    | false => exact ⟨rfl, pending⟩
    | true =>
      rw [if_pos rfl, if_pos rfl]
      rcases session.completeHandshake packet.payload.data draws.handshake with
        ⟨(text | site) | _, next⟩
      · exact ⟨rfl, inserted _⟩
      · exact ⟨rfl, inserted _⟩
      dsimp only
      cases next.connectionId with
      | none => exact ⟨rfl, inserted _⟩
      | some connId =>
        refine ⟨rfl, ?_⟩
        rw [pinPeer_pendingSessions, pinPeer_pendingSessions]
        exact inserted _

theorem untouched_of_pending {runtime : Runtime crypto noise} {tag : HandshakeTag}
    {pendingSessions : HashMap HandshakeTag (Session crypto noise × Option Key)}
    (pending : pendingSessions.lookup tag = runtime.pendingSessions.lookup tag) :
    Untouched tag runtime { runtime with pendingSessions } where
  pending := pending
  started pkToAddr draws := by
    let before : Runtime crypto noise := { runtime with pkToAddr }
    let after : Runtime crypto noise := { runtime with pendingSessions, pkToAddr }
    exact initiateHandshake_congr before after pending rfl rfl draws
  answered packet sender draws tagged := by
    subst tagged
    exact completePending_congr _ _ pending sender draws

/-- If the handshake cannot be started, nothing has changed of it. -/
def StartsAtomically (runtime : Runtime crypto noise) (tag : HandshakeTag) (draws : RuntimeDraws) :
    Prop :=
  (runtime.initiateHandshake tag draws).1.IsError →
    Untouched tag runtime (runtime.initiateHandshake tag draws).2

/-- Of a call that is pending, the session is at its turn, and an address is known. Or it is past its
turn, and the secret that is drawn happens to be the one that it has. -/
def StartsSafely (isMyTurn : noise.State → Prop) (runtime : Runtime crypto noise)
    (tag : HandshakeTag) (draws : RuntimeDraws) : Prop :=
  ∀ session peerPk ourMasterPubkey,
    runtime.pendingSessions.lookup tag = some (session, some peerPk) →
      session.ourMasterPubkey = some ourMasterPubkey →
        (session.AtTurn isMyTurn ∧ peerPk ∈ runtime.pkToAddr) ∨
          (¬ session.AtTurn isMyTurn ∧
            session.ourRatchetDhPriv = some draws.handshake.ratchetSecret)

variable {isMyTurn : noise.State → Prop}

/-- What becomes of the call follows from what becomes of its session. -/
theorem initiateHandshake_of_pending {runtime : Runtime crypto noise} {tag : HandshakeTag}
    {session next : Session crypto noise} {peerPk : Key} {draws : RuntimeDraws}
    {outcome : Outcome Bytes}
    (held : runtime.pendingSessions.lookup tag = some (session, some peerPk))
    (run : session.initiateHandshake runtime.address draws.handshake = (outcome, next)) :
    (runtime.initiateHandshake tag draws).2 = { runtime with
      pendingSessions := runtime.pendingSessions.insert tag (next, some peerPk) } ∧
    ((runtime.initiateHandshake tag draws).1.IsError ↔ outcome.IsError ∨
      (∃ bytes, outcome = .ok bytes) ∧ peerPk ∉ runtime.pkToAddr) := by
  rw [initiateHandshake, held]
  dsimp only [okOr, Outcome.ok_orReturn]
  rw [run]
  rcases outcome with (text | site) | bytes
  · refine ⟨rfl, iff_of_true (Outcome.isError_error text) (Or.inl (Outcome.isError_error text))⟩
  · refine ⟨rfl, iff_of_false (Outcome.not_isError_panic site) ?_⟩
    rintro (failed | ⟨⟨bytes, same⟩, -⟩)
    · exact Outcome.not_isError_panic site failed
    · cases same
  · cases known : runtime.pkToAddr.lookup peerPk with
    | none =>
      refine ⟨rfl, iff_of_true (Outcome.isError_error _) (Or.inr ⟨⟨bytes, rfl⟩, ?_⟩)⟩
      exact AList.lookup_eq_none.mp known
    | some addr =>
      refine ⟨rfl, iff_of_false (Outcome.not_isError_ok _) ?_⟩
      rintro (failed | ⟨-, unknown⟩)
      · exact Outcome.not_isError_ok _ failed
      · rw [AList.lookup_eq_none.mpr unknown] at known
        cases known

/-- The session that is left is the one before, or something has changed. -/
theorem untouched_insert_iff {runtime : Runtime crypto noise} {tag : HandshakeTag}
    {session next : Session crypto noise} {peerPk : Key}
    (held : runtime.pendingSessions.lookup tag = some (session, some peerPk)) :
    Untouched tag runtime { runtime with
      pendingSessions := runtime.pendingSessions.insert tag (next, some peerPk) } ↔
        next = session := by
  constructor
  · intro untouched
    have same := untouched.pending
    rw [held] at same
    have inserted := (AList.lookup_insert runtime.pendingSessions).symm.trans same
    exact (Prod.mk.inj (Option.some.inj inserted)).1
  · rintro rfl
    exact untouched_of_pending ((AList.lookup_insert _).trans held.symm)

theorem starts_atomically_iff_of_pending (turns : noise.TakesTurns isMyTurn)
    {runtime : Runtime crypto noise} {tag : HandshakeTag} {session : Session crypto noise}
    {peerPk : Key} (held : runtime.pendingSessions.lookup tag = some (session, some peerPk))
    (draws : RuntimeDraws) :
    runtime.StartsAtomically tag draws ↔ runtime.StartsSafely isMyTurn tag draws := by
  -- the condition speaks of this session only
  have safely : runtime.StartsSafely isMyTurn tag draws ↔ ∀ ourMasterPubkey,
      session.ourMasterPubkey = some ourMasterPubkey →
        (session.AtTurn isMyTurn ∧ peerPk ∈ runtime.pkToAddr) ∨ (¬ session.AtTurn isMyTurn ∧
          session.ourRatchetDhPriv = some draws.handshake.ratchetSecret) := by
    refine ⟨fun safe ourMasterPubkey => safe session peerPk ourMasterPubkey held, ?_⟩
    intro safe other otherPk ourMasterPubkey found
    obtain ⟨rfl, same⟩ := Prod.mk.inj (Option.some.inj (held.symm.trans found))
    obtain rfl := Option.some.inj same
    exact safe ourMasterPubkey
  rw [safely, StartsAtomically]
  cases named : session.ourMasterPubkey with
  | none =>
    obtain ⟨left, -⟩ := initiateHandshake_of_pending held
      (Session.initiateHandshake_unnamed named runtime.address draws.handshake)
    refine iff_of_true (fun _ => ?_) fun ourMasterPubkey other => nomatch other
    rw [left]
    exact (untouched_insert_iff held).mpr rfl
  | some ourMasterPubkey =>
    refine Iff.trans ?_ ⟨fun safe _ _ => safe, fun safe => safe ourMasterPubkey rfl⟩
    by_cases atTurn : session.AtTurn isMyTurn
    · obtain ⟨handshake, calls, myTurn⟩ := id atTurn
      obtain ⟨message, next, past, run⟩ := Session.initiateHandshake_atTurn turns named calls myTurn
        runtime.address draws.handshake
      obtain ⟨left, fails⟩ := initiateHandshake_of_pending held run
      rw [left, fails, untouched_insert_iff held]
      by_cases known : peerPk ∈ runtime.pkToAddr
      · refine iff_of_true ?_ (Or.inl ⟨atTurn, known⟩)
        rintro (failed | ⟨-, unknown⟩)
        · exact absurd failed (Outcome.not_isError_ok message)
        · exact absurd known unknown
      · refine iff_of_false (fun atomic => ?_) ?_
        · -- the state that has written is another than the one whose turn it was
          have same := congrArg Session.initiator (atomic (Or.inr ⟨⟨message, rfl⟩, known⟩))
          rw [calls] at same
          cases same
          exact past myTurn
        · rintro (⟨-, found⟩ | ⟨late, -⟩)
          · exact known found
          · exact late atTurn
    · obtain ⟨message, run⟩ := Session.initiateHandshake_late turns named atTurn runtime.address
        draws.handshake
      obtain ⟨left, fails⟩ := initiateHandshake_of_pending held run
      rw [left, fails, untouched_insert_iff held]
      constructor
      · intro atomic
        have same := atomic (Or.inl (Outcome.isError_error message))
        exact Or.inr ⟨atTurn, (congrArg Session.ourRatchetDhPriv same).symm⟩
      · rintro (⟨early, -⟩ | ⟨-, drawn⟩) -
        · exact absurd early atTurn
        · rw [← drawn]

/-- A handshake is started atomically exactly if it is started safely. -/
theorem starts_atomically_iff (turns : noise.TakesTurns isMyTurn) (runtime : Runtime crypto noise)
    (tag : HandshakeTag) (draws : RuntimeDraws) :
    runtime.StartsAtomically tag draws ↔ runtime.StartsSafely isMyTurn tag draws := by
  cases held : runtime.pendingSessions.lookup tag with
  | none =>
    have run : runtime.initiateHandshake tag draws =
        (.error (.error "unknown pending tag"), runtime) := by
      rw [initiateHandshake, held]
      rfl
    refine iff_of_true (fun _ => ?_) fun session peerPk _ found => ?_
    · rw [run]
      exact untouched_of_pending rfl
    · rw [held] at found
      cases found
  | some entry =>
    obtain ⟨session, _ | peerPk⟩ := entry
    · have run : runtime.initiateHandshake tag draws =
          (.error (.error "initiator must have peer_pk"), runtime) := by
        rw [initiateHandshake, held]
        rfl
      refine iff_of_true (fun _ => ?_) fun session peerPk _ found => ?_
      · rw [run]
        exact untouched_of_pending rfl
      · rw [held] at found
        cases found
    · exact starts_atomically_iff_of_pending turns held draws

/-! ### A call without an address, and a call that is made twice -/

/-- A device of user `40` is about to call device `50` of user `42`. -/
def sampleStarter (pkToAddr : HashMap Key SocketAddr) : Runtime sampleSuite SampleSuite.turnNoise :=
  let user : UserID sampleSuite := ⟨SampleSuite.verifyingKey (SampleSuite.octets 32 42)⟩
  [.setMasterPubkey (SampleSuite.octets 32 40), .setDeviceCert (sampleCertificate 40 6),
    .enableSessionInitiator (sampleSuite.publicKey (SampleSuite.octets 32 50)) user
      (SampleSuite.octets 16 1), .writePeers pkToAddr ∅].foldl
        (fun runtime call => (runtime.perform call).2)
          (bind sampleAddress (SampleSuite.octets 32 6) ∅)

/-- Where user `42` is. -/
def samplePlace : HashMap Key SocketAddr :=
  (∅ : HashMap Key SocketAddr).insert (SampleSuite.octets 32 42) sampleAddress

/-- A call under the tag, with the ratchet secret that it draws. -/
def sampleStart (runtime : Runtime sampleSuite SampleSuite.turnNoise) (secret : Nat) :
    Outcome Effects × Runtime sampleSuite SampleSuite.turnNoise :=
  runtime.initiateHandshake (SampleSuite.octets 16 1) { sampleDraws with
    handshake := { sampleDraws.handshake with ratchetSecret := SampleSuite.octets 32 secret } }

/-- Before its first message, the session under the tag is at its turn, and it is user `42` whom it
calls. -/
theorem sampleStarter_atTurn {session : Session sampleSuite SampleSuite.turnNoise} {peerPk : Key}
    (held : (sampleStarter samplePlace).pendingSessions.lookup (SampleSuite.octets 16 1) =
      some (session, some peerPk)) :
    session.AtTurn SampleSuite.IsMyTurn ∧ peerPk = SampleSuite.octets 32 42 := by
  have first : ((sampleStarter samplePlace).pendingSessions.lookup (SampleSuite.octets 16 1)).map
      (fun entry => (entry.1.initiator.map fun initiator => initiator.handshake.map fun state =>
        decide (SampleSuite.IsMyTurn state), entry.2)) =
      some (some (some true), some (SampleSuite.octets 32 42)) := by
    decide +kernel
  rw [held, Option.map_some] at first
  obtain ⟨turn, called⟩ := Prod.mk.inj (Option.some.inj first)
  obtain ⟨⟨handshake⟩, holds, turn⟩ := Option.map_eq_some_iff.mp turn
  obtain ⟨state, rfl, mine⟩ := Option.map_eq_some_iff.mp turn
  exact ⟨⟨state, holds, of_decide_eq_true mine⟩, Option.some.inj called⟩

/-- What device `50` answers to the first message of a call. -/
def sampleAnswer (secret : Nat) : Outcome Packet := do
  let (calling, _) ← okOr "" ((sampleStarter samplePlace).pendingSessions.lookup
    (SampleSuite.octets 16 1))
  let message ← (calling.initiateHandshake sampleAddress
    { sampleDraws.handshake with ratchetSecret := SampleSuite.octets 32 secret }).1
  let called : Session sampleSuite SampleSuite.turnNoise ← Session.newResponder
    (SampleSuite.octets 32 50) (sampleCertificate 42 50) (SampleSuite.octets 32 42)
  let reply ← ((called.acceptHandshake message).2.replyHandshake sampleDraws.handshake).1
  .ok (Packet.new 0 5
    { Payload.new .handshake reply with connectionId := SampleSuite.octets 16 1 })

/-- The root key that a runtime derives from that answer. -/
def sampleRootKey (runtime : Runtime sampleSuite SampleSuite.turnNoise) (secret : Nat) :
    Option Key := do
  let packet ← (sampleAnswer secret).toOption
  let (session, _) ← (runtime.completePending packet sampleAddress
    sampleDraws).2.pendingSessions.lookup (SampleSuite.octets 16 1)
  let ratchet ← session.ratchet
  some ratchet.rootKey

/-- A call without an address cannot be made any more once there is one. And a second call, which
fails, changes the root key that the caller derives from the answer to the first. -/
theorem failed_start_changes_call :
    let unplaced := sampleStart (sampleStarter ∅) 8
    let first := sampleStart (sampleStarter samplePlace) 8
    let second := sampleStart first.2 9
    (unplaced.1.IsError ∧ ¬ first.1.IsError ∧
      (sampleStart { unplaced.2 with pkToAddr := samplePlace } 9).1.IsError) ∧
    (second.1.IsError ∧ (sampleRootKey first.2 8).isSome ∧ (sampleRootKey second.2 8).isSome ∧
      sampleRootKey second.2 8 ≠ sampleRootKey first.2 8) := by
  decide +kernel

/-- The call has been made, with secret `8`. -/
def sampleStarted : Runtime sampleSuite SampleSuite.turnNoise :=
  (sampleStart (sampleStarter samplePlace) 8).2

/-- After its first message, the session is past its turn, and has that secret. -/
theorem sampleStarted_late {session : Session sampleSuite SampleSuite.turnNoise}
    {peerPk : Option Key}
    (held : sampleStarted.pendingSessions.lookup (SampleSuite.octets 16 1) =
      some (session, peerPk)) :
    ¬ session.AtTurn SampleSuite.IsMyTurn ∧
      session.ourRatchetDhPriv = some (SampleSuite.octets 32 8) := by
  have started : (sampleStarted.pendingSessions.lookup (SampleSuite.octets 16 1)).map
      (fun entry => (entry.1.initiator.map fun initiator => initiator.handshake.map fun state =>
        decide (SampleSuite.IsMyTurn state), entry.1.ourRatchetDhPriv)) =
      some (some (some false), some (SampleSuite.octets 32 8)) := by
    decide +kernel
  rw [held, Option.map_some] at started
  obtain ⟨past, secret⟩ := Prod.mk.inj (Option.some.inj started)
  refine ⟨fun ⟨(state : SampleSuite.Handshake × Nat), holds, myTurn⟩ => ?_, secret⟩
  rw [holds, Option.map_some] at past
  cases (Option.some.inj (Option.some.inj past)).symm.trans (decide_eq_true myTurn)

/-- With an address, the first call is safe. A second call that draws the same secret fails and
leaves the session as it is, and so does one under a tag that nobody is called under. -/
theorem failed_calls_atomic :
    (sampleStarter samplePlace).StartsAtomically (SampleSuite.octets 16 1) sampleDraws ∧
      ((sampleStart sampleStarted 8).1.IsError ∧
        Untouched (SampleSuite.octets 16 1) sampleStarted (sampleStart sampleStarted 8).2) ∧
          (sampleStarted.initiateHandshake (SampleSuite.octets 16 2) sampleDraws).1.IsError ∧
            Untouched (SampleSuite.octets 16 2) sampleStarted
              (sampleStarted.initiateHandshake (SampleSuite.octets 16 2) sampleDraws).2 := by
  have again : (sampleStart sampleStarted 8).1.IsError := by decide +kernel
  have beside : (sampleStarted.initiateHandshake (SampleSuite.octets 16 2)
      sampleDraws).1.IsError := by
    decide +kernel
  refine ⟨?_, ⟨again, ?_⟩, beside, ?_⟩
  · refine (starts_atomically_iff SampleSuite.turnNoise_takesTurns _ _ _).mpr ?_
    intro session peerPk ourMasterPubkey held _
    obtain ⟨atTurn, rfl⟩ := sampleStarter_atTurn held
    exact Or.inl ⟨atTurn, by decide +kernel⟩
  · refine (starts_atomically_iff SampleSuite.turnNoise_takesTurns _ _ _).mpr ?_ again
    intro session peerPk ourMasterPubkey held _
    exact Or.inr (sampleStarted_late held)
  · refine (starts_atomically_iff SampleSuite.turnNoise_takesTurns _ _ _).mpr ?_ beside
    intro session peerPk ourMasterPubkey held _
    have nobody : sampleStarted.pendingSessions.lookup (SampleSuite.octets 16 2) = none := by
      decide +kernel
    rw [nobody] at held
    cases held

end Runtime

end Insub
