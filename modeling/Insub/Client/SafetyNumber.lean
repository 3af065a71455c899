/-
This file models the safety number of `api.rs`, which two users compare to be sure that nobody
sits between them, and settles when both see the same one. A client takes the first session with
the user that the iteration over its map of sessions comes to, and the number is made of the hash
of the handshake of that session. The number does not depend on which side computes it. But two
users who hold sessions of two handshakes, such as two who called each other at the same time, may
each come to another one first.
-/

import Mathlib
import Insub.Client.Devices
import Insub.Protocol.KeyAgreement
import Insub.Runtime.Authentication

namespace Insub

open Rust

variable {crypto : Primitives} {noise : Noise}

/-! ### The number of a session -/

/-- The keys of two users as they are hashed, the smaller first. -/
def inKeyOrder (ourPk peerPk : Key) : Key × Key :=
  if ourPk.toList < peerPk.toList then (ourPk, peerPk) else (peerPk, ourPk)

/-- Both users put their keys in the same order. -/
theorem inKeyOrder_comm (first second : Key) :
    inKeyOrder first second = inKeyOrder second first := by
  unfold inKeyOrder
  by_cases below : first.toList < second.toList
  · rw [if_pos below, if_neg (List.lt_asymm below)]
  · by_cases above : second.toList < first.toList
    · rw [if_neg below, if_pos above]
    · have same : first.toList = second.toList := List.le_antisymm above below
      rw [List.Vector.toList_injective same]

/-- The safety number of two users who share the hash of a handshake. -/
def sharedNumber (crypto : Primitives) (handshakeHash ourPk peerPk : Key) : Key :=
  let (first, second) := inKeyOrder ourPk peerPk
  crypto.sha256 (handshakeHash.toList ++ first.toList ++ second.toList)

theorem sharedNumber_comm (handshakeHash first second : Key) :
    sharedNumber crypto handshakeHash first second =
      sharedNumber crypto handshakeHash second first := by
  rw [sharedNumber, inKeyOrder_comm, sharedNumber]

theorem Session.safetyNumber_eq (session : Session crypto noise) (ourPk peerPk : Key) :
    session.safetyNumber ourPk peerPk =
      session.handshakeHash.map fun handshakeHash => sharedNumber crypto handshakeHash ourPk peerPk :=
  rfl

/-- The two ends of one handshake have the same number. -/
theorem Introduced.safetyNumber_eq {initiator responder : Session crypto noise}
    {initiatorCert responderCert : DeviceCertificate crypto} {initiatorPk : Key}
    {initiatorAddr : SocketAddr}
    (introduced : Introduced initiator responder initiatorCert responderCert initiatorPk
      initiatorAddr) (responderPk : Key) :
    ∃ number, initiator.safetyNumber initiatorPk responderPk = some number ∧
      responder.safetyNumber responderPk initiatorPk = some number := by
  obtain ⟨hash, ours, theirs⟩ := introduced.handshakeHash
  refine ⟨sharedNumber crypto hash initiatorPk responderPk, ?_, ?_⟩
  · rw [Session.safetyNumber_eq, ours, Option.map_some]
  · rw [Session.safetyNumber_eq, theirs, Option.map_some, sharedNumber_comm]

/-! ### The number of a client -/

namespace Runtime

/-- The connections of established sessions with the users they are entered under, in the order in
which the map of sessions is iterated over. -/
def activeConnIds (runtime : Runtime crypto noise)
    (order : IterationOrder (Sigma fun _ : ConnectionId => Session crypto noise)) :
    List (ConnectionId × Key) :=
  ((runtime.sessions.iterate order).filter fun entry => entry.2.isEstablished).filterMap
    fun entry => (runtime.connToPk.lookup entry.1).map fun pk => (entry.1, pk)

def sessionSafetyNumber (runtime : Runtime crypto noise) (connId : ConnectionId)
    (ourPk peerPk : Key) : Option Key :=
  (runtime.sessions.lookup connId).bind fun session => session.safetyNumber ourPk peerPk

/-- The hashes of the handshakes of the established sessions with a user. -/
def handshakeHashes (runtime : Runtime crypto noise) (peerPk : Key) : Set Key :=
  {hash | ∃ connId session, runtime.sessions.lookup connId = some session ∧
    session.isEstablished = true ∧ runtime.connToPk.lookup connId = some peerPk ∧
      session.handshakeHash = some hash}

/-- The connections that are listed are those of established sessions that are entered. -/
theorem mem_activeConnIds_iff {runtime : Runtime crypto noise}
    {order : IterationOrder (Sigma fun _ : ConnectionId => Session crypto noise)}
    {connId : ConnectionId} {pk : Key} :
    (connId, pk) ∈ runtime.activeConnIds order ↔
      ∃ session, runtime.sessions.lookup connId = some session ∧
        session.isEstablished = true ∧ runtime.connToPk.lookup connId = some pk := by
  simp only [activeConnIds, List.mem_filterMap, List.mem_filter, HashMap.mem_iterate_iff,
    Option.map_eq_some_iff, Prod.mk.injEq]
  constructor
  · rintro ⟨⟨other, session⟩, ⟨held, established⟩, _, entered, rfl, rfl⟩
    exact ⟨session, held, established, entered⟩
  · rintro ⟨session, held, established, entered⟩
    exact ⟨⟨connId, session⟩, ⟨held, established⟩, pk, entered, rfl, rfl⟩

end Runtime

namespace Client

/-- The loop over the connections, from one of them on. -/
def firstSafetyNumber (runtime : Runtime crypto noise) (ourPk peer : Key) :
    List (ConnectionId × Key) → Outcome Key
  | [] => .error (.error "no active session for peer")
  | (connId, pk) :: rest =>
    if pk = peer then
      okOr "safety number not available" (runtime.sessionSafetyNumber connId ourPk peer)
    else firstSafetyNumber runtime ourPk peer rest

/-- The number that a client shows for a user, with the tables of sessions of its runtime. -/
def safetyNumber (client : Client crypto) (rt : Runtime crypto noise)
    (order : IterationOrder (Sigma fun _ : ConnectionId => Session crypto noise)) (peer : Key) :
    Outcome Key :=
  firstSafetyNumber rt client.ourPk peer (rt.activeConnIds order)

/-- A number is that of one of the connections. -/
theorem mem_of_firstSafetyNumber {runtime : Runtime crypto noise} {ourPk peer number : Key}
    {conns : List (ConnectionId × Key)}
    (found : firstSafetyNumber runtime ourPk peer conns = .ok number) :
    ∃ connId, (connId, peer) ∈ conns ∧
      runtime.sessionSafetyNumber connId ourPk peer = some number := by
  induction conns with
  | nil => cases found
  | cons conn rest inductionHypothesis =>
    obtain ⟨connId, pk⟩ := conn
    unfold firstSafetyNumber at found
    by_cases named : pk = peer
    · rw [if_pos named] at found
      exact ⟨connId, named ▸ List.mem_cons_self, okOr_eq_ok_iff.mp found⟩
    · rw [if_neg named] at found
      obtain ⟨other, member, shown⟩ := inductionHypothesis found
      exact ⟨other, List.mem_cons_of_mem _ member, shown⟩

/-- What a client can show, in one order or another: the number of any of its handshakes with the
user. -/
theorem exists_safetyNumber_iff {client : Client crypto} {rt : Runtime crypto noise}
    {peer number : Key} : (∃ order, client.safetyNumber rt order peer = .ok number) ↔
      ∃ hash ∈ rt.handshakeHashes peer, sharedNumber crypto hash client.ourPk peer = number := by
  constructor
  · rintro ⟨order, shown⟩
    obtain ⟨connId, member, ofSession⟩ := mem_of_firstSafetyNumber shown
    obtain ⟨session, held, established, entered⟩ := Runtime.mem_activeConnIds_iff.mp member
    rw [Runtime.sessionSafetyNumber, held, Option.bind_some, Session.safetyNumber_eq,
      Option.map_eq_some_iff] at ofSession
    obtain ⟨hash, hashed, same⟩ := ofSession
    exact ⟨hash, ⟨connId, session, held, established, entered, hashed⟩, same⟩
  · rintro ⟨hash, ⟨connId, session, held, established, entered, hashed⟩, rfl⟩
    obtain ⟨order, rest, first⟩ := HashMap.exists_iterate_cons held
    have listed : ∃ conns, rt.activeConnIds order = (connId, peer) :: conns := by
      rw [Runtime.activeConnIds, first, List.filter_cons, if_pos established, List.filterMap_cons,
        entered]
      exact ⟨_, rfl⟩
    obtain ⟨conns, leading⟩ := listed
    refine ⟨order, ?_⟩
    rw [safetyNumber, leading, firstSafetyNumber, if_pos rfl, Runtime.sessionSafetyNumber, held,
      Option.bind_some, Session.safetyNumber_eq, hashed, Option.map_some, okOr]

/-! ### Two clients -/

/-- Whatever the orders in which the two iterate over their sessions, if each shows a number for the
other, it is the same. -/
def SafetyNumbersAgree (alice bob : Client crypto) (aliceRt bobRt : Runtime crypto noise) : Prop :=
  ∀ aliceOrder bobOrder first second,
    alice.safetyNumber aliceRt aliceOrder bob.ourPk = .ok first →
    bob.safetyNumber bobRt bobOrder alice.ourPk = .ok second → first = second

/-- All the established sessions of the two with each other come from one handshake. -/
def ShareOneHandshake (alice bob : Client crypto) (aliceRt bobRt : Runtime crypto noise) : Prop :=
  ∀ hash ∈ aliceRt.handshakeHashes bob.ourPk, ∀ other ∈ bobRt.handshakeHashes alice.ourPk,
    hash = other

/-- The hash function tells apart the handshakes of the two. -/
def NumbersApart (alice bob : Client crypto) (aliceRt bobRt : Runtime crypto noise) : Prop :=
  ∀ hash ∈ aliceRt.handshakeHashes bob.ourPk, ∀ other ∈ bobRt.handshakeHashes alice.ourPk,
    sharedNumber crypto hash alice.ourPk bob.ourPk =
      sharedNumber crypto other alice.ourPk bob.ourPk → hash = other

/-- Two clients see the same safety number, whatever the orders, just when all their sessions with
each other come from one handshake. -/
theorem safetyNumbersAgree_iff {alice bob : Client crypto} {aliceRt bobRt : Runtime crypto noise}
    (apart : NumbersApart alice bob aliceRt bobRt) :
    SafetyNumbersAgree alice bob aliceRt bobRt ↔ ShareOneHandshake alice bob aliceRt bobRt := by
  constructor
  · intro agree hash ours other theirs
    obtain ⟨aliceOrder, first⟩ :=
      exists_safetyNumber_iff.mpr ⟨hash, ours, rfl⟩
    obtain ⟨bobOrder, second⟩ :=
      exists_safetyNumber_iff.mpr ⟨other, theirs, rfl⟩
    refine apart hash ours other theirs ?_
    rw [agree aliceOrder bobOrder _ _ first second, sharedNumber_comm]
  · intro shared aliceOrder bobOrder first second shown answered
    obtain ⟨hash, ours, rfl⟩ := exists_safetyNumber_iff.mp ⟨aliceOrder, shown⟩
    obtain ⟨other, theirs, rfl⟩ := exists_safetyNumber_iff.mp ⟨bobOrder, answered⟩
    rw [shared hash ours other theirs, sharedNumber_comm]

/-! ### Two users who call each other -/

/-- The runtime of a device that knows where the device of another user is. -/
def sampleOwner (master device peer : Nat) : Runtime sampleSuite SampleSuite.noise :=
  [.setMasterPubkey (SampleSuite.octets 32 master),
    .setDeviceCert (Runtime.sampleCertificate master device),
    .writePeers ((∅ : HashMap Key SocketAddr).insert (SampleSuite.octets 32 peer)
      Runtime.sampleAddress) ∅].foldl (fun runtime call => (runtime.perform call).2)
        (.bind Runtime.sampleAddress (SampleSuite.octets 32 device) ∅)

def sampleSecrets (secret : Nat) : RuntimeDraws where
  handshake :=
    { ratchetSecret := SampleSuite.octets 32 secret
      ephemeral := SampleSuite.octets 32 10
      preRatchetSecret := SampleSuite.octets 32 (secret + 1)
      now := 0 }
  packetId := 2
  frameId := 3

/-- What a call sends, out of its frame for the relay. -/
def sampleSent (called : Outcome Effects × Runtime sampleSuite SampleSuite.noise) : Packet :=
  ((called.1.toOption.bind fun effects => effects.outgoing.head?).bind fun sent =>
    innerPacket sent.1).getD (Packet.new 0 0 (Payload.new .handshake []))

/-- The device has prepared a call to a device of the other user, and called it. -/
def sampleCalling (master device peer peerDevice tag secret : Nat) :
    Outcome Effects × Runtime sampleSuite SampleSuite.noise :=
  ((sampleOwner master device peer).perform (.enableSessionInitiator
    (sampleSuite.publicKey (SampleSuite.octets 32 peerDevice))
    ⟨SampleSuite.verifyingKey (SampleSuite.octets 32 peer)⟩ (SampleSuite.octets 16 tag))).2.perform
      (.initiateHandshake (SampleSuite.octets 16 tag) (sampleSecrets secret))

/-- The device takes in what the other one has sent. -/
def sampleTaking (runtime : Runtime sampleSuite SampleSuite.noise) (packet : Packet)
    (secret : Nat) : Outcome Effects × Runtime sampleSuite SampleSuite.noise :=
  runtime.perform (.tickHandshake packet Runtime.sampleAddress (sampleSecrets secret))

theorem sampleTaking_step (runtime : Runtime sampleSuite SampleSuite.noise) (packet : Packet)
    (secret : Nat) : Runtime.Step runtime (sampleTaking runtime packet secret).2 :=
  ⟨.tickHandshake packet Runtime.sampleAddress (sampleSecrets secret), rfl⟩

theorem sampleOwner_run (master device peer : Nat) : Relation.ReflTransGen Runtime.Step
    (.bind Runtime.sampleAddress (SampleSuite.octets 32 device) ∅)
    (sampleOwner master device peer) :=
  Run.of_foldl (fun _ call _ => ⟨call, rfl⟩) _

theorem sampleCalling_run (master device peer peerDevice tag secret : Nat) :
    Relation.ReflTransGen Runtime.Step
      (.bind Runtime.sampleAddress (SampleSuite.octets 32 device) ∅)
      (sampleCalling master device peer peerDevice tag secret).2 :=
  ((sampleOwner_run master device peer).tail ⟨.enableSessionInitiator _ _ _, rfl⟩).tail
    ⟨.initiateHandshake _ _, rfl⟩

/-- The clients of user `40` with device `6`, and of user `42` with device `50`. -/
def sampleAlice : Client sampleSuite := { sampleClient with ourPk := SampleSuite.octets 32 40 }

def sampleBob : Client sampleSuite := { sampleClient with ourPk := SampleSuite.octets 32 42 }

/-- Alice has called Bob. -/
def aliceCalling : Outcome Effects × Runtime sampleSuite SampleSuite.noise :=
  sampleCalling 40 6 42 50 1 11

/-- Bob has called Alice, before her call came. -/
def bobCalling : Outcome Effects × Runtime sampleSuite SampleSuite.noise :=
  sampleCalling 42 50 40 6 2 13

def aliceAnswering : Outcome Effects × Runtime sampleSuite SampleSuite.noise :=
  sampleTaking aliceCalling.2 (sampleSent bobCalling) 15

def bobAnswering : Outcome Effects × Runtime sampleSuite SampleSuite.noise :=
  sampleTaking bobCalling.2 (sampleSent aliceCalling) 17

/-- Alice once both calls are answered. -/
def aliceCrossed : Runtime sampleSuite SampleSuite.noise :=
  (sampleTaking aliceAnswering.2 (sampleSent bobAnswering) 19).2

def bobCrossed : Runtime sampleSuite SampleSuite.noise :=
  (sampleTaking bobAnswering.2 (sampleSent aliceAnswering) 21).2

/-- Two users who called each other at the same time hold the same two connections, and see
different safety numbers. -/
theorem crossing_calls_disagree : ∃ aliceRt bobRt : Runtime sampleSuite SampleSuite.noise,
    Relation.ReflTransGen Runtime.Step
      (.bind Runtime.sampleAddress (SampleSuite.octets 32 6) ∅) aliceRt ∧
    Relation.ReflTransGen Runtime.Step
      (.bind Runtime.sampleAddress (SampleSuite.octets 32 50) ∅) bobRt ∧
    aliceRt.sessions.keys.Perm bobRt.sessions.keys ∧
    ¬ SafetyNumbersAgree sampleAlice sampleBob aliceRt bobRt := by
  refine ⟨aliceCrossed, bobCrossed, ?_, ?_, by decide +kernel, fun agree => ?_⟩
  · exact ((sampleCalling_run 40 6 42 50 1 11).tail (sampleTaking_step _ _ _)).tail
      (sampleTaking_step _ _ _)
  · exact ((sampleCalling_run 42 50 40 6 2 13).tail (sampleTaking_step _ _ _)).tail
      (sampleTaking_step _ _ _)
  · obtain ⟨first, shown⟩ :
        (sampleAlice.safetyNumber aliceCrossed default sampleBob.ourPk).Returns :=
      Outcome.returns_iff_isSome.mpr (by decide +kernel)
    obtain ⟨second, answered⟩ :
        (sampleBob.safetyNumber bobCrossed default sampleAlice.ourPk).Returns :=
      Outcome.returns_iff_isSome.mpr (by decide +kernel)
    have differ : (sampleAlice.safetyNumber aliceCrossed default sampleBob.ourPk).toOption ≠
        (sampleBob.safetyNumber bobCrossed default sampleAlice.ourPk).toOption := by
      decide +kernel
    rw [shown, answered] at differ
    exact differ (congrArg some (agree default default first second shown answered))

/-- Bob once Alice has called and he has not. -/
def bobCalled : Outcome Effects × Runtime sampleSuite SampleSuite.noise :=
  sampleTaking (sampleOwner 42 50 40) (sampleSent aliceCalling) 17

def aliceAnswered : Runtime sampleSuite SampleSuite.noise :=
  (sampleTaking aliceCalling.2 (sampleSent bobCalled) 19).2

/-- The hash of the one handshake. -/
def sampleHash : Option Key :=
  aliceAnswered.sessions.entries.head?.bind fun entry => entry.2.handshakeHash

theorem some_eq_of_all {runtime : Runtime crypto noise} {found : Option Key} {peerPk hash : Key}
    (all : ∀ entry ∈ runtime.sessions.entries, entry.2.handshakeHash = found)
    (shared : hash ∈ runtime.handshakeHashes peerPk) : some hash = found := by
  obtain ⟨connId, session, held, _, _, hashed⟩ := shared
  rw [← hashed]
  exact all _ (HashMap.lookup_eq_some_iff.mp held)

/-- After one call the two see the same number. -/
theorem one_call_agrees : SafetyNumbersAgree sampleAlice sampleBob aliceAnswered bobCalled.2 ∧
    (sampleAlice.safetyNumber aliceAnswered default sampleBob.ourPk).Returns ∧
      (sampleBob.safetyNumber bobCalled.2 default sampleAlice.ourPk).Returns := by
  have shared : ShareOneHandshake sampleAlice sampleBob aliceAnswered bobCalled.2 := by
    intro hash ours other theirs
    have first : some hash = sampleHash := some_eq_of_all (by decide +kernel) ours
    have second : some other = sampleHash := some_eq_of_all (by decide +kernel) theirs
    exact Option.some.inj (first.trans second.symm)
  refine ⟨(safetyNumbersAgree_iff fun hash ours other theirs _ => ?_).mpr shared, ?_, ?_⟩
  · exact shared hash ours other theirs
  · exact Outcome.returns_iff_isSome.mpr (by decide +kernel)
  · exact Outcome.returns_iff_isSome.mpr (by decide +kernel)

end Client

end Insub
