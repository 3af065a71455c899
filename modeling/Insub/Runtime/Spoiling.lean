/-
This file proves what a response that does not complete a handshake does to the call it
answers. `complete_handshake` takes the initiator out of the session before it looks at the
response, and no failure puts it back. The session stays in the table of pending sessions, and
no later response completes it, the genuine one included. The tag of a call travels in clear,
so whoever has seen it can send such a response.
-/

import Mathlib
import Insub.Runtime.Frames
import Insub.Runtime.Openings
import Insub.Runtime.Authentication

namespace Insub

open Rust

namespace Session

variable {crypto : Primitives} {noise : Noise}

/-- The session has given its initiator up. -/
def Spent (session : Session crypto noise) : Prop := session.initiator = none

/-- Whatever becomes of the handshake, the initiator is gone. -/
theorem spent_completeHandshake (session : Session crypto noise) (response : Bytes)
    (draws : HandshakeDraws) : (session.completeHandshake response draws).2.Spent := by
  rw [completeHandshake]
  cases holds : session.initiator with
  | none => exact holds
  | some initiator =>
    rw [okOr, Outcome.ok_orReturn]
    let gone (last : Session crypto noise) : Prop := last.initiator = none
    refine Outcome.orReturn_state gone rfl fun result _ => ?_
    split
    · rfl
    refine Outcome.orReturn_state gone rfl fun theirRatchetPub _ => ?_
    refine Outcome.orReturn_state gone rfl fun certificate _ => ?_
    split
    · rfl
    split
    · rfl
    refine Outcome.orReturn_state gone rfl fun ourRatchetDhPriv _ => ?_
    refine Outcome.orReturn_state gone rfl fun ratchet _ => ?_
    rfl

/-- A session that has given its initiator up refuses every response. -/
theorem Spent.completeHandshake {session : Session crypto noise} (spent : session.Spent)
    (response : Bytes) (draws : HandshakeDraws) :
    session.completeHandshake response draws =
      (.error (.error "Session is not an initiator"), session) := by
  rw [Session.completeHandshake, show session.initiator = none from spent]
  rfl

/-- It does not get an initiator by another first message. -/
theorem Spent.initiateHandshake {session : Session crypto noise} (spent : session.Spent)
    (ourAddr : SocketAddr) (draws : HandshakeDraws) :
    (session.initiateHandshake ourAddr draws).2.Spent := by
  let gone (last : Session crypto noise) : Prop := last.initiator = none
  refine Outcome.orReturn_state gone spent fun ourMasterPubkey _ => ?_
  refine Outcome.orReturn_state gone spent fun initiator holds => ?_
  rw [okOr_eq_ok_iff, show session.initiator = none from spent] at holds
  cases holds

end Session

namespace Runtime

variable {crypto : Primitives} {noise : Noise}

/-- The session under the tag is pending, and has given its initiator up. -/
def Spoilt (runtime : Runtime crypto noise) (tag : HandshakeTag) : Prop :=
  ∃ session peerPkOpt, runtime.pendingSessions.lookup tag = some (session, peerPkOpt) ∧
    session.Spent

/-- A step that prepares no other call under the tag. -/
def StepBeside (tag : HandshakeTag) (before after : Runtime crypto noise) : Prop :=
  ∃ call, (∀ peerDeviceX25519Pub peerUserId,
    call ≠ .enableSessionInitiator peerDeviceX25519Pub peerUserId tag) ∧
      after = (before.perform call).2

theorem Spoilt.of_lookup {before after : Runtime crypto noise} {tag : HandshakeTag}
    (spoilt : before.Spoilt tag)
    (same : after.pendingSessions.lookup tag = before.pendingSessions.lookup tag) :
    after.Spoilt tag := by
  rw [Spoilt, same]
  exact spoilt

/-- A spoilt call takes no packet for its answer. -/
theorem Spoilt.completePending {runtime : Runtime crypto noise} {packet : Packet}
    (spoilt : runtime.Spoilt packet.payload.connectionId) (sender : SocketAddr)
    (draws : RuntimeDraws) :
    runtime.completePending packet sender draws = (.ok none, runtime) := by
  obtain ⟨session, peerPkOpt, held, spent⟩ := spoilt
  have notInitiator : session.isInitiator = false := by
    rw [Session.isInitiator, show session.initiator = none from spent]
    rfl
  rw [Runtime.completePending, held]
  dsimp only
  rw [notInitiator]
  rfl

/-! ### What stays pending -/

theorem lookup_completePending_ne (runtime : Runtime crypto noise) {packet : Packet}
    (sender : SocketAddr) (draws : RuntimeDraws) {tag : HandshakeTag}
    (different : tag ≠ packet.payload.connectionId) :
    (runtime.completePending packet sender draws).2.pendingSessions.lookup tag =
      runtime.pendingSessions.lookup tag := by
  have completes := runtime.completePending_completes packet sender draws
  generalize runtime.completePending packet sender draws = result at completes ⊢
  cases completes with
  | uncalled => rfl
  | refused => exact AList.lookup_insert_ne different
  | broken => exact AList.lookup_insert_ne different
  | promoted =>
    dsimp only
    rw [pinPeer_pendingSessions]
    exact AList.lookup_insert_ne different

theorem respond_pendingSessions (runtime : Runtime crypto noise) (packet : Packet)
    (sender : SocketAddr) (draws : RuntimeDraws) :
    (runtime.respond packet sender draws).2.pendingSessions = runtime.pendingSessions := by
  obtain ⟨_, _, _, _, _, _, framed⟩ := respond_frame runtime packet sender draws
  rw [framed]

/-- A handshake packet leaves the call under another tag as it is. -/
theorem lookup_tickHandshake_ne (runtime : Runtime crypto noise) {packet : Packet}
    (sender : SocketAddr) (draws : RuntimeDraws) {tag : HandshakeTag}
    (different : tag ≠ packet.payload.connectionId) :
    (runtime.tickHandshake packet sender draws).2.pendingSessions.lookup tag =
      runtime.pendingSessions.lookup tag := by
  have stays := lookup_completePending_ne runtime sender draws different
  rw [tickHandshake]
  rcases run : runtime.completePending packet sender draws with
    ⟨fault | _ | ⟨connId, peerPk⟩, next⟩
  all_goals rw [run] at stays
  · exact stays
  · dsimp only
    split
    · exact stays
    · rw [respond_pendingSessions]
      exact stays
  · dsimp only
    cases next.pendingSessions.lookup packet.payload.connectionId with
    | none => exact stays
    | some entry => exact (AList.lookup_erase_ne different).trans stays

/-- A packet under the tag of a spoilt call is at most taken for a call itself. -/
theorem Spoilt.tickHandshake_pendingSessions {runtime : Runtime crypto noise} {packet : Packet}
    (spoilt : runtime.Spoilt packet.payload.connectionId) (sender : SocketAddr)
    (draws : RuntimeDraws) :
    (runtime.tickHandshake packet sender draws).2.pendingSessions = runtime.pendingSessions := by
  rw [tickHandshake, spoilt.completePending]
  dsimp only
  split
  · rfl
  · exact respond_pendingSessions runtime packet sender draws

theorem Spoilt.initiateHandshake {runtime : Runtime crypto noise} {tag : HandshakeTag}
    (spoilt : runtime.Spoilt tag) (other : HandshakeTag) (draws : RuntimeDraws) :
    (runtime.initiateHandshake other draws).2.Spoilt tag := by
  let stays (last : Runtime crypto noise) : Prop := last.Spoilt tag
  refine Outcome.orReturn_state stays spoilt ?_
  rintro ⟨session, peerPkOpt⟩ found
  refine Outcome.orReturn_state stays spoilt fun peerPk _ => ?_
  have written : stays { runtime with
      pendingSessions := runtime.pendingSessions.insert other
        ((session.initiateHandshake runtime.address draws.handshake).2, peerPkOpt) } := by
    by_cases same : tag = other
    · obtain ⟨spoiltSession, spoiltPk, held, spent⟩ := spoilt
      rw [same, okOr_eq_ok_iff.mp found] at held
      obtain ⟨rfl, rfl⟩ := Prod.mk.inj (Option.some.inj held)
      refine ⟨_, peerPkOpt, ?_, spent.initiateHandshake runtime.address draws.handshake⟩
      rw [same]
      exact AList.lookup_insert _
    · exact spoilt.of_lookup (AList.lookup_insert_ne same)
  refine Outcome.orReturn_state stays written fun bytes _ => ?_
  refine Outcome.orReturn_state stays written fun addr _ => ?_
  exact written

theorem Spoilt.enableSessionInitiator {runtime : Runtime crypto noise} {tag other : HandshakeTag}
    (spoilt : runtime.Spoilt tag) (different : tag ≠ other) (peerDeviceX25519Pub : Key)
    (peerUserId : UserID crypto) :
    (runtime.enableSessionInitiator peerDeviceX25519Pub peerUserId other).2.Spoilt tag := by
  let stays (last : Runtime crypto noise) : Prop := last.Spoilt tag
  refine Outcome.orReturn_state stays spoilt fun ourMasterPubkey _ => ?_
  refine Outcome.orReturn_state stays spoilt fun deviceCert _ => ?_
  refine Outcome.orReturn_state stays spoilt fun session _ => ?_
  exact spoilt.of_lookup (AList.lookup_insert_ne different)

/-- Nothing but another call under the tag replaces a spoilt one. -/
theorem Spoilt.step {before after : Runtime crypto noise} {tag : HandshakeTag}
    (spoilt : before.Spoilt tag) (step : StepBeside tag before after) : after.Spoilt tag := by
  obtain ⟨call, beside, rfl⟩ := step
  cases call with
  | setMasterPubkey pk => exact spoilt
  | setDeviceCert cert => exact spoilt
  | enableSessionInitiator peerDeviceX25519Pub peerUserId other =>
    refine spoilt.enableSessionInitiator (fun same => ?_) peerDeviceX25519Pub peerUserId
    exact beside peerDeviceX25519Pub peerUserId (same ▸ rfl)
  | initiateHandshake other draws => exact spoilt.initiateHandshake other draws
  | tickHandshake packet sender draws =>
    by_cases same : tag = packet.payload.connectionId
    · rw [same] at spoilt ⊢
      refine spoilt.of_lookup ?_
      exact congrArg _ (spoilt.tickHandshake_pendingSessions sender draws)
    · exact spoilt.of_lookup (lookup_tickHandshake_ne before sender draws same)
  | tickMessage packet sender env now =>
    obtain ⟨_, _, _, _, framed⟩ := tickMessage_frame before packet sender env now
    exact spoilt.of_lookup (by rw [perform, framed])
  | sendMessage msg peerPk key nonce draws =>
    obtain ⟨_, framed⟩ := sendMessage_frame before msg peerPk key nonce draws
    exact spoilt.of_lookup (by rw [perform, framed])
  | writePeers pkToAddr peerKeys => exact spoilt

/-- A response that fails spoils the call under its tag. -/
theorem spoilt_tickHandshake {runtime : Runtime crypto noise} {packet : Packet}
    {session spoilt : Session crypto noise} {peerPkOpt : Option Key} {draws : RuntimeDraws}
    {message : String}
    (held : runtime.pendingSessions.lookup packet.payload.connectionId = some (session, peerPkOpt))
    (failed : session.completeHandshake packet.payload.data draws.handshake =
      (.error (.error message), spoilt)) (sender : SocketAddr) :
    (runtime.tickHandshake packet sender draws).2.Spoilt packet.payload.connectionId := by
  have spent : spoilt.Spent := by
    have gone := session.spent_completeHandshake packet.payload.data draws.handshake
    rwa [failed] at gone
  by_cases initiates : session.isInitiator = true
  · have completes : runtime.completePending packet sender draws = (.ok none, { runtime with
        pendingSessions :=
          runtime.pendingSessions.insert packet.payload.connectionId (spoilt, peerPkOpt) }) := by
      rw [Runtime.completePending, held]
      dsimp only
      rw [if_pos initiates, failed]
    have waits : Spoilt { runtime with
        pendingSessions :=
          runtime.pendingSessions.insert packet.payload.connectionId (spoilt, peerPkOpt) }
            packet.payload.connectionId :=
      ⟨spoilt, peerPkOpt, AList.lookup_insert _, spent⟩
    rw [tickHandshake, completes]
    dsimp only
    split
    · exact waits
    · exact waits.of_lookup (congrArg _ (respond_pendingSessions _ packet sender draws))
  · have already : runtime.Spoilt packet.payload.connectionId :=
      ⟨session, peerPkOpt, held,
        Option.not_isSome_iff_eq_none.mp initiates⟩
    exact already.of_lookup (congrArg _ (already.tickHandshake_pendingSessions sender draws))

/-- A response that fails ends the call. The session it leaves refuses every other response;
and as long as nothing else is called under the tag, no packet is taken for the answer, and the
session stays in the table of those that wait for one. -/
theorem failed_response_ends_call (crypto : Primitives) (noise : Noise)
    {session spoilt : Session crypto noise} {response : Bytes} {draws : HandshakeDraws}
    {message : String}
    (failed : session.completeHandshake response draws = (.error (.error message), spoilt)) :
    (∀ genuine later, ¬ (spoilt.completeHandshake genuine later).1.Returns) ∧
      ∀ (runtime : Runtime crypto noise) (packet : Packet) (sender : SocketAddr)
        (drawn : RuntimeDraws) (peerPkOpt : Option Key) (last : Runtime crypto noise),
        runtime.pendingSessions.lookup packet.payload.connectionId = some (session, peerPkOpt) →
          packet.payload.data = response → drawn.handshake = draws →
            Relation.ReflTransGen (StepBeside packet.payload.connectionId)
              (runtime.tickHandshake packet sender drawn).2 last →
                ∀ (genuine : Packet) (origin : SocketAddr) (later : RuntimeDraws),
                  genuine.payload.connectionId = packet.payload.connectionId →
                    (∀ connId, last.opening genuine origin later ≠ some (.answered connId)) ∧
                      (last.tickHandshake genuine origin later).2.pendingSessions =
                        last.pendingSessions ∧
                          genuine.payload.connectionId ∈ last.pendingSessions := by
  have spent : spoilt.Spent := by
    have gone := session.spent_completeHandshake response draws
    rwa [failed] at gone
  refine ⟨fun genuine later => ?_, ?_⟩
  · rw [spent.completeHandshake]
    exact Outcome.not_returns_fault _
  rintro runtime packet sender drawn peerPkOpt last held rfl rfl run genuine origin later sameTag
  have spoils := spoilt_tickHandshake held failed sender
  have ended : last.Spoilt genuine.payload.connectionId := by
    rw [sameTag]
    have kept : ∀ before after : Runtime crypto noise,
        before.Spoilt packet.payload.connectionId →
          StepBeside packet.payload.connectionId before after →
            after.Spoilt packet.payload.connectionId :=
      fun _ _ waits step => waits.step step
    exact Run.preserves kept spoils run
  refine ⟨fun connId answered => ?_, ended.tickHandshake_pendingSessions origin later, ?_⟩
  · rw [opening, ended.completePending] at answered
    dsimp only at answered
    split at answered
    · cases answered
    · obtain ⟨_, _, other⟩ := Option.map_eq_some_iff.mp answered
      cases other
  · obtain ⟨waiting, waitingPk, found, _⟩ := ended
    exact AList.lookup_isSome.mp (Option.isSome_iff_exists.mpr ⟨_, found⟩)

/-! ### A call that garbage answers first -/

/-- A device of user `40` has sent its first message to device `50` of user `42`. -/
def sampleCaller : Runtime sampleSuite SampleSuite.noise :=
  let user : UserID sampleSuite := ⟨SampleSuite.verifyingKey (SampleSuite.octets 32 42)⟩
  let draws := { sampleDraws with
    handshake := { sampleDraws.handshake with ratchetSecret := SampleSuite.octets 32 8 } }
  [.setMasterPubkey (SampleSuite.octets 32 40), .setDeviceCert (sampleCertificate 40 6),
    .enableSessionInitiator (sampleSuite.publicKey (SampleSuite.octets 32 50)) user
      (SampleSuite.octets 16 1),
    .initiateHandshake (SampleSuite.octets 16 1) draws].foldl
      (fun runtime call => (runtime.perform call).2)
        (bind sampleAddress (SampleSuite.octets 32 6) ∅)

/-- The session that waits for an answer. -/
def sampleWaiting : Option (Session sampleSuite SampleSuite.noise) :=
  (sampleCaller.pendingSessions.lookup (SampleSuite.octets 16 1)).map Prod.fst

/-- What device `50` replies to that message. -/
def sampleReply : Bytes :=
  match sampleRuntime.spawnResponder with
  | .error _ => []
  | .ok session =>
    match ((session.acceptHandshake (sampleCall 40 40).payload.data).2.replyHandshake
        sampleDraws.handshake).1 with
    | .error _ => []
    | .ok reply => reply

/-- A response under the tag of the call. -/
def sampleResponse (data : Bytes) : Packet :=
  Packet.new 0 5 { Payload.new .handshake data with connectionId := SampleSuite.octets 16 1 }

/-- Whether the session that is entered is one that was called for. -/
def Opening.isAnswered : Opening → Bool
  | .answered _ => true
  | .accepted _ => false

/-- How a session takes a response. -/
def sampleTakes (response : Bytes) (session : Session sampleSuite SampleSuite.noise) :
    Except Fault Unit :=
  (session.completeHandshake response sampleDraws.handshake).1

/-- The session that waits takes an empty response for a bad one. -/
theorem sampleWaiting_fails : ∃ session : Session sampleSuite SampleSuite.noise,
    sampleWaiting = some session ∧ sampleTakes [] session =
      .error (.error "handshake payload too short for certificate") := by
  have fails : sampleWaiting.map (sampleTakes []) =
      some (.error (.error "handshake payload too short for certificate")) := by
    decide +kernel
  exact Option.map_eq_some_iff.mp fails

/-- The reply completes the handshake and has the session entered, unless an empty response
comes first. -/
theorem empty_response_ends_call : ∃ session spoilt : Session sampleSuite SampleSuite.noise,
    sampleWaiting = some session ∧ session.isInitiator = true ∧
      (session.completeHandshake sampleReply sampleDraws.handshake).1 = .ok () ∧
        (∃ connId, sampleCaller.opening (sampleResponse sampleReply) sampleAddress sampleDraws =
          some (.answered connId)) ∧
            (∃ message, session.completeHandshake [] sampleDraws.handshake =
              (.error (.error message), spoilt)) ∧
                (spoilt.completeHandshake sampleReply sampleDraws.handshake).1 ≠ .ok () ∧
                  (sampleCaller.tickHandshake (sampleResponse []) sampleAddress
                    sampleDraws).2.opening (sampleResponse sampleReply) sampleAddress sampleDraws =
                      none := by
  obtain ⟨session, waiting, fails⟩ := sampleWaiting_fails
  have initiates : sampleWaiting.any Session.isInitiator = true := by decide +kernel
  have completes : sampleWaiting.map (sampleTakes sampleReply) = some (.ok ()) := by
    decide +kernel
  rw [waiting] at initiates completes
  refine ⟨session, (session.completeHandshake [] sampleDraws.handshake).2, waiting, initiates,
    Option.some.inj completes, ?_, ⟨_, Prod.ext fails rfl⟩, ?_, ?_⟩
  · have answered : (sampleCaller.opening (sampleResponse sampleReply) sampleAddress
        sampleDraws).any Opening.isAnswered = true := by
      decide +kernel
    rcases opened : sampleCaller.opening (sampleResponse sampleReply) sampleAddress sampleDraws
      with _ | (connId | connId)
    all_goals rw [opened] at answered
    · cases answered
    · exact ⟨connId, rfl⟩
    · cases answered
  · have refused : sampleWaiting.map (fun session =>
        sampleTakes sampleReply (session.completeHandshake [] sampleDraws.handshake).2) ≠
          some (.ok ()) := by
      decide +kernel
    rw [waiting] at refused
    exact fun completed => refused (congrArg some completed)
  · exact Option.isNone_iff_eq_none.mp (by decide +kernel)

/-- The caller once the empty response has come, the call has been tried again, and the device
has been called under another tag. -/
def sampleEnded : Runtime sampleSuite SampleSuite.noise :=
  [.initiateHandshake (SampleSuite.octets 16 1) sampleDraws,
    .enableSessionInitiator (sampleSuite.publicKey (SampleSuite.octets 32 50))
      ⟨SampleSuite.verifyingKey (SampleSuite.octets 32 42)⟩ (SampleSuite.octets 16 2)].foldl
      (fun runtime call => (runtime.perform call).2)
        (sampleCaller.tickHandshake (sampleResponse []) sampleAddress sampleDraws).2

theorem sampleEnded_run : Relation.ReflTransGen
    (StepBeside (sampleResponse []).payload.connectionId)
      (sampleCaller.tickHandshake (sampleResponse []) sampleAddress sampleDraws).2 sampleEnded := by
  refine Run.of_foldl (fun _ call called => ⟨call, fun _ _ same => ?_, rfl⟩) _
  rw [List.mem_cons, List.mem_singleton, same] at called
  rcases called with other | other
  · cases other
  · injection other with _ _ tags
    exact absurd tags (by decide)

/-- After the empty response, the session that waited completes no handshake any more: the reply
is not taken for the answer, and the session still waits for one. -/
theorem sampleWaiting_ended : ∃ session spoilt : Session sampleSuite SampleSuite.noise,
    sampleWaiting = some session ∧ (session.completeHandshake [] sampleDraws.handshake).2 = spoilt ∧
      (∀ genuine later, ¬ (spoilt.completeHandshake genuine later).1.Returns) ∧
        (∀ connId, sampleEnded.opening (sampleResponse sampleReply) sampleAddress sampleDraws ≠
          some (.answered connId)) ∧
            SampleSuite.octets 16 1 ∈ sampleEnded.pendingSessions := by
  obtain ⟨session, waiting, fails⟩ := sampleWaiting_fails
  obtain ⟨⟨session, peerPkOpt⟩, held, rfl⟩ := Option.map_eq_some_iff.mp waiting
  obtain ⟨refuses, ended⟩ := failed_response_ends_call sampleSuite SampleSuite.noise
    (show session.completeHandshake [] sampleDraws.handshake = _ from Prod.ext fails rfl)
  obtain ⟨notAnswered, _, waits⟩ := ended sampleCaller (sampleResponse []) sampleAddress
    sampleDraws peerPkOpt sampleEnded held rfl rfl sampleEnded_run (sampleResponse sampleReply)
      sampleAddress sampleDraws rfl
  exact ⟨session, _, waiting, rfl, refuses, notAnswered, waits⟩

end Runtime

end Insub
