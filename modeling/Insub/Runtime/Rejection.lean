/-
This file settles what a handshake packet leaves behind that registers no session. The address
in a call is entered as soon as the call can be read, before the answer shows whether the
handshake vouches for the certificate in it. So a rejected call leaves every table as it was,
unless it can be read, is not vouched for, and names another address than the one known: then
the packets for the user it names go there.
-/

import Mathlib
import Insub.Protocol.Introduction
import Insub.Runtime.Authentication
import Insub.Runtime.Frames

namespace Insub

open Rust

namespace Runtime

variable {crypto : Primitives} {noise : Noise}

/-- Every session that is registered is reported. -/
def RegistersNothing (outcome : Outcome Effects) : Prop :=
  ∀ effects, outcome = .ok effects → effects.established = []

theorem RegistersNothing.ok {effects : Effects} (none : effects.established = []) :
    RegistersNothing (.ok effects) := by
  intro last same
  rw [← Except.ok.inj same]
  exact none

theorem RegistersNothing.error {fault : Fault} : RegistersNothing (.error fault) := by
  intro effects same
  cases same

theorem registersNothing_ok_iff {effects : Effects} :
    RegistersNothing (.ok effects) ↔ effects.established = [] :=
  ⟨fun nothing => nothing effects rfl, .ok⟩

/-- The tables of addresses, keys, sessions and tags hold what they held. -/
structure SameTables (before after : Runtime crypto noise) : Prop where
  pkToAddr : ∀ pk, after.pkToAddr.lookup pk = before.pkToAddr.lookup pk
  peerKeys : after.peerKeys = before.peerKeys
  sessions : after.sessions = before.sessions
  connToPk : after.connToPk = before.connToPk
  pkToConn : after.pkToConn = before.pkToConn
  seenTags : after.seenTags = before.seenTags

theorem SameTables.refl (runtime : Runtime crypto noise) : runtime.SameTables runtime :=
  ⟨fun _ => rfl, rfl, rfl, rfl, rfl, rfl⟩

/-! ### What a call says -/

/-- Who a call says it is from, as a fresh responder reads it. -/
def introduced (runtime : Runtime crypto noise) (packet : Packet) :
    Outcome (Responder noise × Introduction crypto) := do
  let responder ← Responder.new noise runtime.deviceX25519Priv
  let payload ← (responder.accept packet.payload.data).1
  let introduction ← Introduction.read payload
  .ok ((responder.accept packet.payload.data).2, introduction)

/-- The packet is a new call that can be read, from somebody the handshake does not vouch for,
and it names another address than the one that is known. -/
structure Redirects (runtime : Runtime crypto noise) (packet : Packet) (draws : RuntimeDraws) :
    Prop where
  unseen : packet.payload.connectionId ∉ runtime.seenTags
  noAnswer : runtime.NoAnswer packet draws
  unvouched : ∃ fresh responder introduction, runtime.spawnResponder = .ok fresh ∧
    runtime.introduced packet = .ok (responder, introduction) ∧
      ¬ introduction.Vouched responder (fresh.replyPayload draws.handshake.ratchetSecret)
        draws.handshake.ephemeral ∧
          runtime.pkToAddr.lookup introduction.masterPubkey ≠ some introduction.addr

/-- A fresh responder. -/
theorem spawnResponder_ok {runtime : Runtime crypto noise} {fresh : Session crypto noise}
    (spawned : runtime.spawnResponder = .ok fresh) :
    ∃ responder, Responder.new noise runtime.deviceX25519Priv = .ok responder ∧
      fresh.responder = some responder ∧ fresh.connectionId = none := by
  obtain ⟨cert, _, spawned⟩ := Outcome.bind_eq_ok_iff.mp spawned
  obtain ⟨masterPk, _, spawned⟩ := Outcome.bind_eq_ok_iff.mp spawned
  obtain ⟨responder, built, spawned⟩ := Outcome.bind_eq_ok_iff.mp spawned
  rw [← Except.ok.inj spawned]
  exact ⟨responder, built, rfl, rfl⟩

/-- A fresh responder accepts the calls that can be read. -/
theorem accepts_iff_introduced {runtime : Runtime crypto noise} {fresh accepted : Session crypto noise}
    (spawned : runtime.spawnResponder = .ok fresh) {packet : Packet} :
    fresh.acceptHandshake packet.payload.data = (.ok (), accepted) ↔
      ∃ responder introduction, runtime.introduced packet = .ok (responder, introduction) ∧
        accepted = fresh.introduced responder introduction := by
  obtain ⟨built, builds, waits, _⟩ := spawnResponder_ok spawned
  rw [Session.acceptHandshake_eq_ok_iff waits, introduced, builds, Outcome.bind_ok]
  constructor
  · rintro ⟨payload, introduction, opened, reads, rfl⟩
    refine ⟨_, introduction, ?_, rfl⟩
    rw [opened, Outcome.bind_ok, reads, Outcome.bind_ok]
  · rintro ⟨responder, introduction, introduces, rfl⟩
    obtain ⟨payload, opened, introduces⟩ := Outcome.bind_eq_ok_iff.mp introduces
    obtain ⟨read, reads, introduces⟩ := Outcome.bind_eq_ok_iff.mp introduces
    obtain ⟨rfl, rfl⟩ := Prod.mk.inj (Except.ok.inj introduces)
    exact ⟨payload, read, opened, reads, rfl⟩

/-! ### What the answer leaves -/

theorem settleCall_registersNothing_iff (runtime : Runtime crypto noise)
    (session : Session crypto noise) (peerPk : Key) (tag : HandshakeTag) (sender : SocketAddr)
    (outgoing : List (Packet × SocketAddr)) :
    (runtime.settleCall session peerPk tag sender outgoing).1.established = [] ↔
      session.connectionId = none := by
  rw [settleCall]
  cases session.connectionId with
  | none => exact iff_of_true rfl rfl
  | some connId => exact iff_of_false (List.cons_ne_nil _ _) (Option.some_ne_none connId)

/-- A call that cannot be read is dropped. -/
theorem respond_of_unread {runtime : Runtime crypto noise} {packet : Packet}
    (unread : ∀ fresh responder introduction, runtime.spawnResponder = .ok fresh →
      runtime.introduced packet ≠ .ok (responder, introduction))
    (sender : SocketAddr) (draws : RuntimeDraws) :
    (runtime.respond packet sender draws).2 = runtime ∧
      RegistersNothing (runtime.respond packet sender draws).1 := by
  rw [respond]
  rcases spawned : runtime.spawnResponder with fault | fresh
  · exact ⟨rfl, .ok rfl⟩
  dsimp only
  rcases accepting : fresh.acceptHandshake packet.payload.data with ⟨(message | site) | _, accepted⟩
  · exact ⟨rfl, .ok rfl⟩
  · exact ⟨rfl, .error⟩
  · obtain ⟨responder, introduction, introduces, _⟩ := (accepts_iff_introduced spawned).mp accepting
    exact absurd introduces (unread fresh responder introduction spawned)

/-- A call that is not vouched for leaves its address. -/
theorem respond_of_unvouched {runtime : Runtime crypto noise} {packet : Packet}
    {fresh : Session crypto noise} {responder : Responder noise}
    {introduction : Introduction crypto} {draws : RuntimeDraws}
    (spawned : runtime.spawnResponder = .ok fresh)
    (introduces : runtime.introduced packet = .ok (responder, introduction))
    (unvouched : ¬ introduction.Vouched responder
      (fresh.replyPayload draws.handshake.ratchetSecret) draws.handshake.ephemeral)
    (sender : SocketAddr) :
    (runtime.respond packet sender draws).2 =
        runtime.learnAddress introduction.masterPubkey (some introduction.addr) ∧
      RegistersNothing (runtime.respond packet sender draws).1 := by
  obtain ⟨_, _, _, unnamed⟩ := spawnResponder_ok spawned
  obtain ⟨fault, last, replied, stillUnnamed⟩ :=
    Session.replyHandshake_of_not_vouched unnamed unvouched
  rw [respond, spawned]
  dsimp only
  rw [(accepts_iff_introduced spawned).mpr ⟨responder, introduction, introduces, rfl⟩]
  dsimp only
  rw [replied]
  rcases fault with message | site
  · dsimp only
    refine ⟨?_, .ok ((settleCall_registersNothing_iff _ _ _ _ _ _).mpr stillUnnamed)⟩
    rw [settleCall, stillUnnamed]
    rfl
  · exact ⟨rfl, .error⟩

/-- A call that is vouched for enters a session that holds what it was introduced with. -/
theorem respond_of_vouched {runtime : Runtime crypto noise} {packet : Packet}
    {fresh : Session crypto noise} {responder : Responder noise}
    {introduction : Introduction crypto} {draws : RuntimeDraws}
    (spawned : runtime.spawnResponder = .ok fresh)
    (introduces : runtime.introduced packet = .ok (responder, introduction))
    (vouched : introduction.Vouched responder
      (fresh.replyPayload draws.handshake.ratchetSecret) draws.handshake.ephemeral)
    (sender : SocketAddr) : ∃ reply session connId,
      (fresh.introduced responder introduction).replyHandshake draws.handshake =
          (.ok reply, session) ∧
        session.connectionId = some connId ∧ session.peerAddr = some introduction.addr ∧
          session.peerDeviceCertificate = some introduction.certificate ∧
            ∃ outgoing, runtime.respond packet sender draws =
              ((runtime.learnAddress introduction.masterPubkey
                (some introduction.addr)).settleCall session introduction.masterPubkey
                  packet.payload.connectionId sender outgoing).map .ok id := by
  obtain ⟨reply, result, replied, same⟩ := vouched
  obtain ⟨ratchet, _, answered⟩ := Session.replyHandshake_of_vouched replied same
  refine ⟨reply, _, _, answered, rfl, rfl, rfl, ?_⟩
  rw [respond, spawned]
  dsimp only
  rw [(accepts_iff_introduced spawned).mpr ⟨responder, introduction, introduces, rfl⟩]
  dsimp only
  rw [answered]
  exact ⟨_, rfl⟩

/-- What `respond` can do with a packet. -/
inductive Responds (runtime : Runtime crypto noise) (packet : Packet) (sender : SocketAddr)
    (draws : RuntimeDraws) : Outcome Effects × Runtime crypto noise → Prop
  | unread {outcome : Outcome Effects} (nothing : RegistersNothing outcome) :
      Responds runtime packet sender draws (outcome, runtime)
  | unvouched {fresh : Session crypto noise} {responder : Responder noise}
      {introduction : Introduction crypto} {outcome : Outcome Effects}
      (spawned : runtime.spawnResponder = .ok fresh)
      (introduces : runtime.introduced packet = .ok (responder, introduction))
      (unvouched : ¬ introduction.Vouched responder
        (fresh.replyPayload draws.handshake.ratchetSecret) draws.handshake.ephemeral)
      (nothing : RegistersNothing outcome) :
      Responds runtime packet sender draws
        (outcome, runtime.learnAddress introduction.masterPubkey (some introduction.addr))
  | vouched {fresh session : Session crypto noise} {responder : Responder noise}
      {introduction : Introduction crypto} {reply : Bytes} {connId : ConnectionId}
      {outgoing : List (Packet × SocketAddr)}
      (spawned : runtime.spawnResponder = .ok fresh)
      (introduces : runtime.introduced packet = .ok (responder, introduction))
      (vouched : introduction.Vouched responder
        (fresh.replyPayload draws.handshake.ratchetSecret) draws.handshake.ephemeral)
      (answered : (fresh.introduced responder introduction).replyHandshake draws.handshake =
        (.ok reply, session))
      (named : session.connectionId = some connId)
      (claims : session.peerAddr = some introduction.addr)
      (presents : session.peerDeviceCertificate = some introduction.certificate) :
      Responds runtime packet sender draws
        (((runtime.learnAddress introduction.masterPubkey (some introduction.addr)).settleCall
          session introduction.masterPubkey packet.payload.connectionId sender outgoing).map .ok id)

theorem respond_responds (runtime : Runtime crypto noise) (packet : Packet) (sender : SocketAddr)
    (draws : RuntimeDraws) :
    runtime.Responds packet sender draws (runtime.respond packet sender draws) := by
  by_cases read : ∃ fresh responder introduction, runtime.spawnResponder = .ok fresh ∧
      runtime.introduced packet = .ok (responder, introduction)
  · obtain ⟨fresh, responder, introduction, spawned, introduces⟩ := read
    by_cases vouched : introduction.Vouched responder
        (fresh.replyPayload draws.handshake.ratchetSecret) draws.handshake.ephemeral
    · obtain ⟨_, _, _, answered, named, claims, presents, _, run⟩ :=
        respond_of_vouched spawned introduces vouched sender
      rw [run]
      exact .vouched spawned introduces vouched answered named claims presents
    · obtain ⟨left, nothing⟩ := respond_of_unvouched spawned introduces vouched sender
      rcases run : runtime.respond packet sender draws with ⟨outcome, next⟩
      rw [run] at left nothing
      rw [show next = _ from left]
      exact .unvouched spawned introduces vouched nothing
  · have unread : ∀ fresh responder introduction, runtime.spawnResponder = .ok fresh →
        runtime.introduced packet ≠ .ok (responder, introduction) :=
      fun fresh responder introduction spawned introduces =>
        read ⟨fresh, responder, introduction, spawned, introduces⟩
    obtain ⟨left, nothing⟩ := respond_of_unread unread sender draws
    rcases run : runtime.respond packet sender draws with ⟨outcome, next⟩
    rw [run] at left nothing
    rw [show next = runtime from left]
    exact .unread nothing

theorem settleCall_of_named (runtime : Runtime crypto noise) {session : Session crypto noise}
    {connId : ConnectionId} (named : session.connectionId = some connId) (peerPk : Key)
    (tag : HandshakeTag) (sender : SocketAddr) (outgoing : List (Packet × SocketAddr)) :
    (runtime.settleCall session peerPk tag sender outgoing).2 =
      { ((runtime.pinPeer sender session.peerDeviceCertificate).register connId peerPk
        session).2 with
          seenTags := insert tag (runtime.pinPeer sender session.peerDeviceCertificate).seenTags } := by
  rw [settleCall, named]
  rfl

/-! ### Answers to our calls -/

/-- A packet that completes a handshake registers the session. -/
theorem registers_of_promoted {runtime next : Runtime crypto noise} {packet : Packet}
    {sender : SocketAddr} {draws : RuntimeDraws} {connId : ConnectionId} {peerPk : Key}
    (promoted : runtime.completePending packet sender draws = (.ok (some (connId, peerPk)), next)) :
    ¬ RegistersNothing (runtime.tickHandshake packet sender draws).1 := by
  obtain ⟨_, _, last, _, _, _, held⟩ := completePending_promoted promoted
  rw [tickHandshake, promoted]
  dsimp only
  rw [held]
  dsimp only
  rw [registersNothing_ok_iff]
  exact List.cons_ne_nil _ _

theorem registersNothing_acks_iff {outcome : Outcome Effects} {acks : List (U128 × SocketAddr)} :
    RegistersNothing (outcome.map fun effects => { effects with acks }) ↔
      RegistersNothing outcome := by
  cases outcome with
  | ok effects =>
    exact ⟨fun nothing => .ok (nothing { effects with acks } rfl),
      fun nothing => .ok (nothing effects rfl)⟩
  | error fault => exact iff_of_true .error .error

/-- A packet that is no answer and has a new tag is taken for a call. -/
theorem tickHandshake_of_call {runtime : Runtime crypto noise} {packet : Packet}
    {draws : RuntimeDraws} (unseen : packet.payload.connectionId ∉ runtime.seenTags)
    (noAnswer : runtime.NoAnswer packet draws) (sender : SocketAddr) :
    ∃ pendingSessions,
      let called : Runtime crypto noise := { runtime with pendingSessions }
      runtime.tickHandshake packet sender draws =
        ((called.respond packet sender draws).1.map fun effects =>
          { effects with acks := confirmations packet sender },
            (called.respond packet sender draws).2) := by
  rcases runtime.completePending_cases packet sender draws with
    ⟨pendingSessions, completes, _⟩ | ⟨_, _, _, answers⟩ | ⟨_, _, _, _, answers⟩
  · refine ⟨pendingSessions, ?_⟩
    rw [tickHandshake, completes]
    dsimp only
    rw [if_neg unseen]
  · exact absurd noAnswer answers
  · exact absurd noAnswer answers

/-! ### Rejected packets -/

theorem SameTables.learnAddress {runtime : Runtime crypto noise} {peerPk : Key} {addr : SocketAddr}
    (known : runtime.pkToAddr.lookup peerPk = some addr) :
    runtime.SameTables (runtime.learnAddress peerPk (some addr)) := by
  refine ⟨fun pk => ?_, rfl, rfl, rfl, rfl, rfl⟩
  by_cases same : pk = peerPk
  · rw [same, known]
    exact AList.lookup_insert _
  · exact AList.lookup_insert_ne same

/-- What a call leaves that registers nothing and is no redirection. -/
theorem sameTables_respond {runtime : Runtime crypto noise} {packet : Packet}
    {sender : SocketAddr} {draws : RuntimeDraws}
    (unseen : packet.payload.connectionId ∉ runtime.seenTags)
    (noAnswer : runtime.NoAnswer packet draws) (straight : ¬ runtime.Redirects packet draws)
    (pendingSessions : HashMap HandshakeTag (Session crypto noise × Option Key))
    (nothing : RegistersNothing
      (respond { runtime with pendingSessions } packet sender draws).1) :
    runtime.SameTables (respond { runtime with pendingSessions } packet sender draws).2 := by
  have responds := respond_responds { runtime with pendingSessions } packet sender draws
  generalize respond { runtime with pendingSessions } packet sender draws = result
    at responds nothing ⊢
  cases responds with
  | unread => exact ⟨fun _ => rfl, rfl, rfl, rfl, rfl, rfl⟩
  | @unvouched fresh responder introduction _ spawned introduces unvouched =>
    have known : runtime.pkToAddr.lookup introduction.masterPubkey = some introduction.addr := by
      by_contra other
      exact straight ⟨unseen, noAnswer, fresh, responder, introduction, spawned, introduces,
        unvouched, other⟩
    obtain ⟨pkToAddr, _, _, _, _, _⟩ := SameTables.learnAddress known
    exact ⟨pkToAddr, rfl, rfl, rfl, rfl, rfl⟩
  | vouched _ _ _ _ named =>
    rw [Prod.map_fst, registersNothing_ok_iff, settleCall_registersNothing_iff, named] at nothing
    cases nothing

/-- A packet that registers nothing and is no redirection leaves the tables as they are. -/
theorem sameTables_of_not_redirects {runtime : Runtime crypto noise} {packet : Packet}
    {sender : SocketAddr} {draws : RuntimeDraws} (straight : ¬ runtime.Redirects packet draws)
    (nothing : RegistersNothing (runtime.tickHandshake packet sender draws).1) :
    runtime.SameTables (runtime.tickHandshake packet sender draws).2 := by
  rcases runtime.completePending_cases packet sender draws with
    ⟨pendingSessions, completes, noAnswer⟩ | ⟨fault, pendingSessions, completes, _⟩ |
      ⟨connId, peerPk, next, completes, _⟩
  · by_cases unseen : packet.payload.connectionId ∉ runtime.seenTags
    · obtain ⟨pending, called⟩ := tickHandshake_of_call unseen noAnswer sender
      rw [called, registersNothing_acks_iff] at nothing
      rw [called]
      exact sameTables_respond unseen noAnswer straight pending nothing
    · rw [tickHandshake, completes]
      dsimp only
      rw [if_pos (not_not.mp unseen)]
      exact ⟨fun _ => rfl, rfl, rfl, rfl, rfl, rfl⟩
  · rw [tickHandshake, completes]
    exact ⟨fun _ => rfl, rfl, rfl, rfl, rfl, rfl⟩
  · exact absurd nothing (registers_of_promoted completes)

/-- A redirection registers nothing, and changes the address of the user it names. -/
theorem redirects_changes {runtime : Runtime crypto noise} {packet : Packet}
    {draws : RuntimeDraws} (redirects : runtime.Redirects packet draws) (sender : SocketAddr) :
    RegistersNothing (runtime.tickHandshake packet sender draws).1 ∧
      ∃ pk, (runtime.tickHandshake packet sender draws).2.pkToAddr.lookup pk ≠
        runtime.pkToAddr.lookup pk := by
  obtain ⟨unseen, noAnswer, fresh, responder, introduction, spawned, introduces, unvouched,
    other⟩ := redirects
  obtain ⟨pendingSessions, called⟩ := tickHandshake_of_call unseen noAnswer sender
  have spawns : spawnResponder { runtime with pendingSessions } = .ok fresh := spawned
  obtain ⟨left, nothing⟩ := respond_of_unvouched spawns introduces unvouched sender
  rw [called, registersNothing_acks_iff, left]
  refine ⟨nothing, introduction.masterPubkey, fun same => other (same.symm.trans ?_)⟩
  exact AList.lookup_insert _

/-- A handshake packet that registers no session leaves the tables of addresses, keys, sessions
and tags alone exactly when it is no redirection. -/
theorem rejected_sameTables_iff (runtime : Runtime crypto noise) (packet : Packet)
    (sender : SocketAddr) (draws : RuntimeDraws) :
    (RegistersNothing (runtime.tickHandshake packet sender draws).1 →
      runtime.SameTables (runtime.tickHandshake packet sender draws).2) ↔
        ¬ runtime.Redirects packet draws := by
  constructor
  · intro keeps redirects
    obtain ⟨nothing, pk, changed⟩ := redirects_changes redirects sender
    exact changed ((keeps nothing).pkToAddr pk)
  · exact sameTables_of_not_redirects

/-! ### A call with a foreign certificate -/

/-- A call under the static key of device `7`, with the certificate that user `40` has for
device `6`, and the address of the caller. -/
def sampleForeignCall : Packet :=
  let payload := (sampleSuite.publicKey (SampleSuite.octets 32 8)).toList ++
    (sampleCertificate 40 6).serialize ++ (SampleSuite.octets 32 40).toList ++
      Session.addressBytes (.v4 (Octets.zero 4) 6666)
  Packet.new 0 1
    { Payload.new .handshake ((sampleSuite.publicKey (SampleSuite.octets 32 7)).toList ++ payload)
      with connectionId := SampleSuite.octets 16 2 }

/-- A runtime that knows the address of user `40`. -/
def sampleAcquainted : Runtime sampleSuite SampleSuite.noise :=
  (sampleRuntime.perform (.writePeers
    ((∅ : HashMap Key SocketAddr).insert (SampleSuite.octets 32 40) sampleAddress) ∅)).2

/-- The call registers no session, and from then on the packets for user `40` go to the
caller. -/
theorem foreign_call_redirects :
    RegistersNothing
        (sampleAcquainted.tickHandshake sampleForeignCall sampleAddress sampleDraws).1 ∧
      sampleAcquainted.pkToAddr.lookup (SampleSuite.octets 32 40) = some sampleAddress ∧
        (sampleAcquainted.tickHandshake sampleForeignCall sampleAddress
          sampleDraws).2.pkToAddr.lookup (SampleSuite.octets 32 40) =
            some (.v4 (Octets.zero 4) 6666) ∧
          ¬ sampleAcquainted.SameTables
            (sampleAcquainted.tickHandshake sampleForeignCall sampleAddress sampleDraws).2 := by
  have before : sampleAcquainted.pkToAddr.lookup (SampleSuite.octets 32 40) =
      some sampleAddress := by
    decide +kernel
  have after : (sampleAcquainted.tickHandshake sampleForeignCall sampleAddress
      sampleDraws).2.pkToAddr.lookup (SampleSuite.octets 32 40) =
        some (.v4 (Octets.zero 4) 6666) := by
    decide +kernel
  have quiet : ((sampleAcquainted.tickHandshake sampleForeignCall sampleAddress
      sampleDraws).1.toOption.all fun effects => effects.established = []) = true := by
    decide +kernel
  refine ⟨fun effects sent => ?_, before, after, fun same => ?_⟩
  · rw [sent] at quiet
    exact of_decide_eq_true quiet
  · have kept := same.pkToAddr (SampleSuite.octets 32 40)
    rw [before, after] at kept
    cases kept

end Runtime

end Insub
