/-
This file proves what one message packet that its session refuses does to the runtime. The
code takes the refusal for the end of the connection: it forwards nothing and gives the
connection up in all three tables, and touches no other connection. A connection id travels
in clear, so whoever has seen it can send such a packet.
-/

import Mathlib
import Insub.Crypto.Atomicity
import Insub.Runtime.Attribution

namespace Insub

open Rust

namespace Session

variable {crypto : Primitives} {noise : Noise}

/-- The packet seals nothing for the session that has a sender's key in front: it is forged,
truncated, corrupted, or was received before. -/
def Refuses (session : Session crypto noise) (packet : Packet) (env : Surroundings) : Prop :=
  ∀ plaintext, session.Carries packet env plaintext → plaintext.length < 32

/-- No receiving chain of the session has used up its message numbers. -/
def HasRoom (session : Session crypto noise) : Prop :=
  ∀ ratchet, session.ratchet = some ratchet → ratchet.HasRoom

theorem not_panics_receive {session : Session crypto noise} (room : session.HasRoom)
    (packet : Packet) (env : Surroundings) : ¬ (session.receive packet env).1.Panics := by
  rw [receive]
  split
  · exact Outcome.not_panics_error _
  split
  · exact Outcome.not_panics_error _
  refine Outcome.not_panics_orReturn (by rw [slice_panics_iff]; omega) fun nonce _ => ?_
  refine Outcome.not_panics_orReturn (by rw [slice_panics_iff]; omega) fun theirDhPub _ => ?_
  refine Outcome.not_panics_orReturn (by rw [slice_panics_iff]; omega) fun messageNumber _ => ?_
  refine Outcome.not_panics_orReturn (not_panics_okOr _ _) fun ratchet established => ?_
  refine Outcome.not_panics_orReturn ?_ fun plaintext _ => ?_
  · rw [Outcome.panics_mapErr_iff]
    exact DoubleRatchet.not_panics_decrypt crypto
      (room ratchet (okOr_eq_ok_iff.mp established)) _ _ _ _ _
  split
  · exact Outcome.not_panics_error _
  refine Outcome.not_panics_orReturn (by rw [slice_panics_iff]; omega) fun senderPk _ => ?_
  exact Outcome.not_panics_ok _

/-- A session refuses a packet with a whole header that it does not receive. -/
theorem refuses_of_fails (opens : crypto.OpensSealed) {session : Session crypto noise}
    {packet : Packet} (tagged : packet.payload.tag = .message)
    (whole : 48 ≤ packet.payload.data.length) {env : Surroundings}
    (fails : (session.receive packet env).1.toOption = none) : session.Refuses packet env := by
  rintro plaintext ⟨ratchet, nonce, theirDhPub, messageNumber, key, held, nonceAt, dhPubAt,
    numberAt, selected, sealing⟩
  by_contra long
  have opened : (ratchet.decrypt crypto (fromBeBytes messageNumber.toList) theirDhPub nonce
      (packet.payload.data.drop 48) env).1 = .ok plaintext :=
    (DoubleRatchet.decrypt_eq_ok_iff crypto _ _ _ _ _ _ _).mpr
      ⟨key, selected, opens _ _ _ _ sealing⟩
  obtain ⟨senderPk, front, _⟩ := slice_ok (show 0 + 32 ≤ plaintext.length by omega)
  rw [receive, if_neg (not_not.mpr tagged), if_neg (not_lt.mpr whole), nonceAt, Outcome.ok_orReturn,
    dhPubAt, Outcome.ok_orReturn, numberAt, Outcome.ok_orReturn, held] at fails
  dsimp only [okOr] at fails
  rw [Outcome.ok_orReturn, opened] at fails
  dsimp only [Outcome.mapErr] at fails
  rw [Outcome.ok_orReturn, if_neg long, front, Outcome.ok_orReturn] at fails
  cases fails

/-- A session that refuses a packet returns an error for it. -/
theorem isError_receive (opens : crypto.OpensOnlySealed) {session : Session crypto noise}
    (room : session.HasRoom) {packet : Packet} {env : Surroundings}
    (refuses : session.Refuses packet env) : (session.receive packet env).1.IsError := by
  rcases run : session.receive packet env with ⟨(message | site) | ⟨inner, senderPk⟩, last⟩
  · exact Outcome.isError_error message
  · have total := not_panics_receive room packet env
    rw [run] at total
    exact absurd (Outcome.panics_panic site) total
  · have short := refuses _ (carries_of_receive opens run)
    rw [List.length_append, List.Vector.toList_length] at short
    omega

end Session

namespace Runtime

variable {crypto : Primitives} {noise : Noise}

/-- What giving up the connection of a user does to the three tables, and to nothing else in
them. -/
structure GivesUp (connId : ConnectionId) (pk : Key) (before after : Runtime crypto noise) :
    Prop where
  session : connId ∉ after.sessions
  key : connId ∉ after.connToPk
  conns : after.pkToConn.lookup pk = (before.pkToConn.lookup pk).bind (keptConns connId)
  otherSessions : ∀ other ≠ connId, after.sessions.lookup other = before.sessions.lookup other
  otherKeys : ∀ other ≠ connId, after.connToPk.lookup other = before.connToPk.lookup other
  otherConns : ∀ other ≠ pk, after.pkToConn.lookup other = before.pkToConn.lookup other

theorem givesUp_removeStaleConn {runtime : Runtime crypto noise} {connId : ConnectionId} {pk : Key}
    (named : runtime.connToPk.lookup connId = some pk) :
    GivesUp connId pk runtime (runtime.removeStaleConn connId) := by
  rw [removeStaleConn_named named]
  refine ⟨?_, ?_, ?_, ?_, ?_, ?_⟩
  · exact fun held => (AList.mem_erase.mp held).1 rfl
  · exact fun held => (AList.mem_erase.mp held).1 rfl
  · exact lookup_dropConn_self runtime.pkToConn pk connId
  · exact fun other different => AList.lookup_erase_ne different
  · exact fun other different => AList.lookup_erase_ne different
  · exact fun other different => lookup_dropConn_ne runtime.pkToConn connId different

/-- Whatever was last written to the session that goes does not matter. -/
theorem GivesUp.of_insert {connId : ConnectionId} {pk : Key} {before after : Runtime crypto noise}
    {session : Session crypto noise}
    (gone : GivesUp connId pk
      { before with sessions := before.sessions.insert connId session } after) :
    GivesUp connId pk before after where
  session := gone.session
  key := gone.key
  conns := gone.conns
  otherSessions other different := by
    rw [gone.otherSessions other different, AList.lookup_insert_ne different]
  otherKeys := gone.otherKeys
  otherConns := gone.otherConns

/-- A refused packet forwards nothing, and its connection is given up: in every reachable state,
and for every packet that the session of its connection refuses. -/
theorem refused_packet_givesUp (crypto : Primitives) (noise : Noise)
    (opens : crypto.OpensOnlySealed) (address : SocketAddr) (deviceX25519Priv : Key)
    (peerKeys : HashMap SocketAddr (VerifyingKey crypto)) {runtime : Runtime crypto noise}
    (run : Relation.ReflTransGen Step (bind address deviceX25519Priv peerKeys) runtime)
    {packet : Packet} {session : Session crypto noise}
    (held : runtime.sessions.lookup packet.payload.connectionId = some session)
    (room : session.HasRoom) (sender : SocketAddr) {env : Surroundings}
    (refuses : session.Refuses packet env) (now : Instant) :
    (runtime.tickMessage packet sender env now).1 = .ok Effects.none ∧
      ∃ pk conns, runtime.connToPk.lookup packet.payload.connectionId = some pk ∧
        runtime.pkToConn.lookup pk = some conns ∧ packet.payload.connectionId ∈ conns ∧
          GivesUp packet.payload.connectionId pk runtime
            (runtime.tickMessage packet sender env now).2 := by
  obtain ⟨named, listed⟩ := consistent_of_run run
  have entered : packet.payload.connectionId ∈ runtime.connToPk :=
    named _ (AList.lookup_isSome.mp (Option.isSome_iff_exists.mpr ⟨session, held⟩))
  obtain ⟨pk, found⟩ := Option.isSome_iff_exists.mp (AList.lookup_isSome.mpr entered)
  obtain ⟨conns, lists, member⟩ := listed _ pk found
  obtain ⟨message, failed⟩ := Session.isError_receive opens room refuses
  rcases receiving : session.receive packet env with ⟨outcome, next⟩
  rw [receiving] at failed
  have refused : runtime.tickMessage packet sender env now = (.ok Effects.none,
      removeStaleConn { runtime with
        sessions := runtime.sessions.insert packet.payload.connectionId next }
        packet.payload.connectionId) := by
    rw [tickMessage, held]
    dsimp only
    rw [receiving, show outcome = .error (.error message) from failed]
  have gone : GivesUp packet.payload.connectionId pk
      { runtime with sessions := runtime.sessions.insert packet.payload.connectionId next }
      (runtime.tickMessage packet sender env now).2 := by
    rw [refused]
    exact givesUp_removeStaleConn found
  exact ⟨congrArg Prod.fst refused, pk, conns, found, lists, member, gone.of_insert⟩

/-! ### A truncated packet -/

/-- A packet for the connection of the honest call, with nothing in it. -/
def sampleTruncated : Packet :=
  Packet.new 0 5 { Payload.new .message [] with connectionId := sampleConnection 40 40 }

theorem sampleTruncated_connectionId :
    sampleTruncated.payload.connectionId = sampleConnection 40 40 := by
  rw [sampleTruncated, Packet.new]

theorem sampleTruncated_refused (session : Session sampleSuite SampleSuite.noise)
    (env : Surroundings) : session.Refuses sampleTruncated env := by
  rintro plaintext ⟨_, nonce, _, _, _, _, nonceAt, _⟩
  have outside : (slice 0 12 sampleTruncated.payload.data).Panics := by
    rw [slice_panics_iff]
    decide
  rw [nonceAt] at outside
  exact absurd outside (Outcome.not_panics_ok nonce)

theorem sampleCalled_run : Relation.ReflTransGen Step
    (bind sampleAddress (SampleSuite.octets 32 50) ∅) (sampleCalled 40 40) :=
  (Relation.ReflTransGen.mono (fun _ _ => CertifiedStep.step) _ _ sampleRuntime_run).tail
    ⟨.tickHandshake (sampleCall 40 40) sampleAddress sampleDraws, rfl⟩

/-- The session of a connection has room, as a test over its chains. -/
theorem hasRoom_of_check {runtime : Runtime sampleSuite SampleSuite.noise} {connId : ConnectionId}
    {session : Session sampleSuite SampleSuite.noise}
    (held : runtime.sessions.lookup connId = some session)
    (roomy : (runtime.sessions.lookup connId).all (fun session =>
      session.ratchet.all fun ratchet => ratchet.receivingChains.entries.all fun entry =>
        entry.2.1.messageNumber + 1 < u32Bound) = true) : session.HasRoom := by
  intro ratchet established key chain used found
  rw [held, Option.all_some, established, Option.all_some, List.all_eq_true] at roomy
  exact of_decide_eq_true (roomy ⟨key, chain, used⟩ (AList.mem_lookup_iff.mp found))

theorem sampleCalled_hasRoom {session : Session sampleSuite SampleSuite.noise}
    (held : (sampleCalled 40 40).sessions.lookup (sampleConnection 40 40) = some session) :
    session.HasRoom :=
  hasRoom_of_check held (by decide +kernel)

/-- One packet with nothing in it, sent by anyone, costs an established session. -/
theorem truncated_packet_tears_down : ∃ runtime : Runtime sampleSuite SampleSuite.noise,
    Relation.ReflTransGen Step (bind sampleAddress (SampleSuite.octets 32 50) ∅) runtime ∧
      ∃ packet session, packet.payload.tag = .message ∧
        runtime.sessions.lookup packet.payload.connectionId = some session ∧
          session.isEstablished = true ∧ session.Refuses packet Inbox.sampleEnvironment ∧
            packet.payload.connectionId ∉
              (runtime.tickMessage packet sampleAddress Inbox.sampleEnvironment 0).2.sessions := by
  obtain ⟨session, held⟩ := sampleCalled_session 40 40 (by decide +kernel)
  refine ⟨_, sampleCalled_run, sampleTruncated, session, rfl, ?_, ?_,
    sampleTruncated_refused session _, by decide +kernel⟩
  · rw [sampleTruncated_connectionId]
    exact held
  · have established : ((sampleCalled 40 40).sessions.lookup (sampleConnection 40 40)).all
        Session.isEstablished = true := by
      decide +kernel
    rwa [held, Option.all_some] at established

/-- The first message of the caller, with its last byte changed. -/
def sampleCorrupted : Packet :=
  let data := (Inbox.samplePacket 40).payload.data
  { Inbox.samplePacket 40 with payload := { (Inbox.samplePacket 40).payload with
      data := data.set (data.length - 1) 0xff } }

/-- The runtime once it has taken that message as it was sent. -/
def sampleHeard : Runtime sampleSuite SampleSuite.noise :=
  ((sampleCalled 40 40).perform
    (.tickMessage (Inbox.samplePacket 40) sampleAddress Inbox.sampleEnvironment 0)).2

/-- A session of the sample suite that is at hand, and refuses a packet, as a test. -/
theorem refuses_of_check {runtime : Runtime sampleSuite SampleSuite.noise} {packet : Packet}
    (check : (runtime.sessions.lookup packet.payload.connectionId).any (fun session =>
      packet.payload.tag = .message && 48 ≤ packet.payload.data.length &&
        (session.receive packet Inbox.sampleEnvironment).1.toOption = none) = true) :
    ∃ session, runtime.sessions.lookup packet.payload.connectionId = some session ∧
      session.Refuses packet Inbox.sampleEnvironment := by
  obtain ⟨session, held, check⟩ := (Option.any_eq_true _ _).mp check
  rw [Bool.and_eq_true_iff, Bool.and_eq_true_iff, decide_eq_true_iff, decide_eq_true_iff,
    decide_eq_true_iff] at check
  obtain ⟨⟨tagged, whole⟩, fails⟩ := check
  exact ⟨session, held, Session.refuses_of_fails SampleSuite.opensSealed tagged whole fails⟩

/-- A corrupted message, and one that was received before, forward nothing and cost their
connection. -/
theorem bad_packets_giveUp :
    (∃ pk conns, (sampleCalled 40 40).pkToConn.lookup pk = some conns ∧
      sampleConnection 40 40 ∈ conns ∧
        GivesUp (sampleConnection 40 40) pk (sampleCalled 40 40)
          ((sampleCalled 40 40).tickMessage sampleCorrupted sampleAddress
            Inbox.sampleEnvironment 0).2) ∧
    ∃ pk conns, sampleHeard.pkToConn.lookup pk = some conns ∧ sampleConnection 40 40 ∈ conns ∧
      GivesUp (sampleConnection 40 40) pk sampleHeard
        (sampleHeard.tickMessage (Inbox.samplePacket 40) sampleAddress
          Inbox.sampleEnvironment 0).2 := by
  have heard : Relation.ReflTransGen Step (bind sampleAddress (SampleSuite.octets 32 50) ∅)
      sampleHeard :=
    sampleCalled_run.tail
      ⟨.tickMessage (Inbox.samplePacket 40) sampleAddress Inbox.sampleEnvironment 0, rfl⟩
  have repeatedId : (Inbox.samplePacket 40).payload.connectionId = sampleConnection 40 40 := by
    rw [Inbox.samplePacket, Packet.new]
  have corruptedId : sampleCorrupted.payload.connectionId = sampleConnection 40 40 := by
    simp only [sampleCorrupted]
    exact repeatedId
  constructor
  · obtain ⟨session, held, refuses⟩ : ∃ session, (sampleCalled 40 40).sessions.lookup
        sampleCorrupted.payload.connectionId = some session ∧
          session.Refuses sampleCorrupted Inbox.sampleEnvironment :=
      refuses_of_check (by decide +kernel)
    have room : session.HasRoom := hasRoom_of_check held (by decide +kernel)
    obtain ⟨_, pk, conns, _, lists, member, gone⟩ := refused_packet_givesUp sampleSuite
      SampleSuite.noise SampleSuite.opensOnlySealed sampleAddress (SampleSuite.octets 32 50) ∅
      sampleCalled_run held room sampleAddress refuses 0
    rw [corruptedId] at member gone
    exact ⟨pk, conns, lists, member, gone⟩
  · obtain ⟨session, held, refuses⟩ : ∃ session, sampleHeard.sessions.lookup
        (Inbox.samplePacket 40).payload.connectionId = some session ∧
          session.Refuses (Inbox.samplePacket 40) Inbox.sampleEnvironment :=
      refuses_of_check (by decide +kernel)
    have room : session.HasRoom := hasRoom_of_check held (by decide +kernel)
    obtain ⟨_, pk, conns, _, lists, member, gone⟩ := refused_packet_givesUp sampleSuite
      SampleSuite.noise SampleSuite.opensOnlySealed sampleAddress (SampleSuite.octets 32 50) ∅
      heard held room sampleAddress refuses 0
    rw [repeatedId] at member gone
    exact ⟨pk, conns, lists, member, gone⟩

end Runtime

end Insub
