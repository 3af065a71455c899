/-
This file settles how often one first handshake message is answered. What keeps a runtime from
answering it again is the set of tags it has answered under, and the tag is a field in clear,
which the handshake does not cover. So a message that comes again opens no second session as
long as it comes under a tag that was answered before, and does open one under any other.
-/

import Mathlib
import Insub.Runtime.Ledger
import Insub.Runtime.Rejection

namespace Insub

open Rust

variable {crypto : Primitives} {noise : Noise}

namespace Runtime

/-- The runtime takes the packet in: it completes a call of ours, or it is read as a new one. -/
def takes (runtime : Runtime crypto noise) (packet : Packet) (sender : SocketAddr)
    (draws : RuntimeDraws) : Bool :=
  match runtime.completePending packet sender draws with
  | (.error _, _) => false
  | (.ok (some _), _) => true
  | (.ok none, runtime) =>
    packet.payload.connectionId ∉ runtime.seenTags &&
      match runtime.spawnResponder with
      | .error _ => false
      | .ok session => (session.acceptHandshake packet.payload.data).1.toOption.isSome

/-- Only a packet that is taken in opens a session. -/
theorem takes_of_opening {runtime : Runtime crypto noise} {packet : Packet} {sender : SocketAddr}
    {draws : RuntimeDraws} {opened : Opening}
    (opens : runtime.opening packet sender draws = some opened) :
    runtime.takes packet sender draws = true := by
  unfold opening at opens
  unfold takes
  rcases run : runtime.completePending packet sender draws with ⟨fault | _ | entered, next⟩
  all_goals rw [run] at opens
  · cases opens
  · dsimp only at opens ⊢
    by_cases seen : packet.payload.connectionId ∈ next.seenTags
    · rw [if_pos seen] at opens
      cases opens
    · rw [if_neg seen] at opens
      obtain ⟨connId, answers, _⟩ := Option.map_eq_some_iff.mp opens
      unfold answer at answers
      rcases spawned : next.spawnResponder with fault | session
      all_goals rw [spawned] at answers
      · cases answers
      · dsimp only at answers ⊢
        rcases accepting : session.acceptHandshake packet.payload.data with ⟨fault | _, accepted⟩
        all_goals rw [accepting] at answers
        · cases answers
        · simp [seen, Except.toOption]

/-- A packet that is no answer, under a tag that was seen, opens no session and leaves the tables
of users as they are. -/
theorem seen_of_noAnswer {runtime : Runtime crypto noise} {packet : Packet} {draws : RuntimeDraws}
    (seen : packet.payload.connectionId ∈ runtime.seenTags)
    (noAnswer : runtime.NoAnswer packet draws) (sender : SocketAddr) :
    runtime.opening packet sender draws = none ∧
      ∃ pendingSessions, (runtime.tickHandshake packet sender draws).2 =
        { runtime with pendingSessions } := by
  rcases runtime.completePending_cases packet sender draws with
    ⟨pendingSessions, completes, _⟩ | ⟨_, _, _, answers⟩ | ⟨_, _, _, _, answers⟩
  · constructor
    · rw [opening, completes]
      exact if_pos seen
    · refine ⟨pendingSessions, ?_⟩
      rw [tickHandshake, completes]
      dsimp only
      rw [if_pos seen]
  · exact absurd noAnswer answers
  · exact absurd noAnswer answers

end Runtime

/-- A runtime, the bytes of all handshake packets it has taken in, and the sessions that were
entered, each with the bytes of the packet that opened it. -/
structure Callers (crypto : Primitives) (noise : Noise) where
  runtime : Runtime crypto noise
  taken : List Bytes
  opened : List (Bytes × ConnectionId)

namespace Callers

def start (runtime : Runtime crypto noise) : Callers crypto noise where
  runtime := runtime
  taken := []
  opened := []

def perform (callers : Callers crypto noise) (call : Call crypto noise) : Callers crypto noise where
  runtime := (callers.runtime.perform call).2
  taken := match call with
    | .tickHandshake packet sender draws =>
      if callers.runtime.takes packet sender draws then callers.taken ++ [packet.payload.data]
      else callers.taken
    | _ => callers.taken
  opened := match call with
    | .tickHandshake packet sender draws =>
      match callers.runtime.opening packet sender draws with
      | some opened => callers.opened ++ [(packet.payload.data, opened.connId)]
      | none => callers.opened
    | _ => callers.opened

/-- One call, whatever it is. -/
def Step (before after : Callers crypto noise) : Prop := ∃ call, after = before.perform call

/-- At most one session was entered from one message. -/
def OpensOnce (callers : Callers crypto noise) : Prop := (callers.opened.map Prod.fst).Nodup

/-- The tables of users are as they were. -/
def SameUsers (before after : Callers crypto noise) : Prop :=
  after.runtime.connToPk = before.runtime.connToPk ∧
    after.runtime.pkToConn = before.runtime.pkToConn ∧
      after.runtime.pkToAddr = before.runtime.pkToAddr

/-- The call brings a message that was taken in before. -/
def Replays (callers : Callers crypto noise) : Call crypto noise → Prop
  | .tickHandshake packet _ _ => packet.payload.data ∈ callers.taken
  | _ => False

/-- A message that comes again comes under a tag that was answered, and is no answer to a call of
ours. -/
def Marked (callers : Callers crypto noise) : Call crypto noise → Prop
  | .tickHandshake packet _ draws => packet.payload.data ∈ callers.taken →
    packet.payload.connectionId ∈ callers.runtime.seenTags ∧
      callers.runtime.NoAnswer packet draws
  | _ => True

/-- A call in which replays are marked. -/
def MarkedStep (before after : Callers crypto noise) : Prop :=
  ∃ call, before.Marked call ∧ after = before.perform call

theorem marked_of_seen {callers : Callers crypto noise} {packet : Packet} {sender : SocketAddr}
    {draws : RuntimeDraws} (seen : packet.payload.connectionId ∈ callers.runtime.seenTags)
    (noAnswer : callers.runtime.NoAnswer packet draws) :
    callers.Marked (.tickHandshake packet sender draws) :=
  fun _ => ⟨seen, noAnswer⟩

/-- A marked replay changes none of the tables. -/
theorem sameUsers_of_marked {callers : Callers crypto noise} {call : Call crypto noise}
    (replays : callers.Replays call) (marked : callers.Marked call) :
    callers.SameUsers (callers.perform call) := by
  cases call with
  | tickHandshake packet sender draws =>
    obtain ⟨seen, noAnswer⟩ := marked replays
    obtain ⟨_, pendingSessions, frame⟩ := Runtime.seen_of_noAnswer seen noAnswer sender
    have left : (callers.perform (.tickHandshake packet sender draws)).runtime =
        { callers.runtime with pendingSessions } := frame
    rw [SameUsers, left]
    exact ⟨rfl, rfl, rfl⟩
  | _ => exact replays.elim

/-- Every session was opened by a message that was taken in, and no two by one message. -/
structure Counted (callers : Callers crypto noise) : Prop where
  taken : ∀ entry ∈ callers.opened, entry.1 ∈ callers.taken
  once : callers.OpensOnce

theorem Counted.perform {callers : Callers crypto noise} (counted : callers.Counted)
    {call : Call crypto noise} (marked : callers.Marked call) : (callers.perform call).Counted := by
  cases call with
  | tickHandshake packet sender draws =>
    unfold Callers.perform
    dsimp only
    cases opens : callers.runtime.opening packet sender draws with
    | none =>
      refine ⟨fun entry member => ?_, counted.once⟩
      have before := counted.taken entry member
      dsimp only
      split
      · exact List.mem_append_left _ before
      · exact before
    | some opened =>
      rw [if_pos (Runtime.takes_of_opening opens)]
      have fresh : packet.payload.data ∉ callers.taken := by
        intro again
        obtain ⟨seen, noAnswer⟩ := marked again
        rw [(Runtime.seen_of_noAnswer seen noAnswer sender).1] at opens
        cases opens
      refine ⟨fun entry member => ?_, ?_⟩
      · rcases List.mem_append.mp member with before | here
        · exact List.mem_append_left _ (counted.taken entry before)
        · rw [List.mem_singleton.mp here]
          exact List.mem_append_right _ (List.mem_singleton_self _)
      · show ((callers.opened ++ [(packet.payload.data, opened.connId)]).map Prod.fst).Nodup
        rw [List.map_append, List.nodup_append]
        refine ⟨counted.once, List.nodup_singleton _, ?_⟩
        rintro data before _ here rfl
        obtain ⟨entry, member, rfl⟩ := List.mem_map.mp before
        rw [List.map_singleton, List.mem_singleton] at here
        have bytes : entry.1 = packet.payload.data := here
        exact fresh (bytes ▸ counted.taken entry member)
  | _ => exact ⟨counted.taken, counted.once⟩

/-- In every run in which replays are marked, a message opens at most one session, and a replay
changes none of the tables of users. -/
theorem opensOnce_of_run (crypto : Primitives) (noise : Noise) (address : SocketAddr)
    (deviceX25519Priv : Key) (peerKeys : HashMap SocketAddr (VerifyingKey crypto))
    {last : Callers crypto noise}
    (run : Relation.ReflTransGen MarkedStep (start (.bind address deviceX25519Priv peerKeys)) last) :
    last.OpensOnce ∧ ∀ call, last.Replays call → last.Marked call →
      last.SameUsers (last.perform call) := by
  have first : (start (.bind address deviceX25519Priv peerKeys) :
      Callers crypto noise).Counted :=
    ⟨fun _ member => absurd member List.not_mem_nil, List.nodup_nil⟩
  have counted : last.Counted := by
    refine Run.preserves ?_ first run
    rintro before after holds ⟨call, marked, rfl⟩
    exact holds.perform marked
  exact ⟨counted.once, fun _ => sameUsers_of_marked⟩

/-! ### One message under two tags -/

open Insub.Runtime (sampleAddress sampleCertificate sampleCall)

/-- The bytes of the call under another tag. -/
def sampleReplayed (tag : Nat) : Packet :=
  let call := sampleCall 40 40
  { call with payload := { call.payload with connectionId := SampleSuite.octets 16 tag } }

def sampleReplay (tag : Nat) : Call sampleSuite SampleSuite.noise :=
  .tickHandshake (sampleReplayed tag) sampleAddress
    { Runtime.sampleDraws with
      handshake := { Runtime.sampleDraws.handshake with ratchetSecret := SampleSuite.octets 32 15 } }

/-- A device of user `42` has answered a call from user `40`. -/
def sampleAnswered : Callers sampleSuite SampleSuite.noise :=
  [.setMasterPubkey (SampleSuite.octets 32 42), .setDeviceCert (sampleCertificate 42 50),
    .tickHandshake (sampleCall 40 40) sampleAddress Runtime.sampleDraws].foldl perform
      (start (.bind sampleAddress (SampleSuite.octets 32 50) ∅))

/-- The client writes another address of that user into the table. -/
def sampleMove : Call sampleSuite SampleSuite.noise :=
  .writePeers (sampleAnswered.runtime.pkToAddr.insert (SampleSuite.octets 32 40)
    (.v4 (Octets.zero 4) 9001)) sampleAnswered.runtime.peerKeys

def sampleMoved : Callers sampleSuite SampleSuite.noise := sampleAnswered.perform sampleMove

theorem sampleMoved_run : Relation.ReflTransGen Step
    (start (.bind sampleAddress (SampleSuite.octets 32 50) ∅)) sampleMoved :=
  (Run.of_foldl (fun _ call _ => ⟨call, rfl⟩) _).tail ⟨sampleMove, rfl⟩

/-- The same message under another tag opens a second session, and brings the old address
back. -/
theorem replayed_call_answered : ∃ last : Callers sampleSuite SampleSuite.noise,
    Relation.ReflTransGen Step (start (.bind sampleAddress (SampleSuite.octets 32 50) ∅)) last ∧
      last.Replays (sampleReplay 2) ∧ ¬ (last.perform (sampleReplay 2)).OpensOnce ∧
        ¬ last.SameUsers (last.perform (sampleReplay 2)) := by
  refine ⟨sampleMoved, sampleMoved_run, ?_, ?_, fun same => ?_⟩
  · show (sampleReplayed 2).payload.data ∈ sampleMoved.taken
    decide +kernel
  · unfold OpensOnce
    decide +kernel
  · have before : sampleMoved.runtime.pkToAddr.lookup (SampleSuite.octets 32 40) =
        some (.v4 (Octets.zero 4) 9001) := by
      decide +kernel
    have after : (sampleMoved.perform (sampleReplay 2)).runtime.pkToAddr.lookup
        (SampleSuite.octets 32 40) = some sampleAddress := by
      decide +kernel
    rw [same.2.2, before] at after
    cases after

theorem sampleMoved_seenTags :
    sampleMoved.runtime.seenTags = {(sampleReplayed 1).payload.connectionId} := by
  decide +kernel

theorem sampleMoved_noAnswer {packet : Packet} {draws : RuntimeDraws} :
    sampleMoved.runtime.NoAnswer packet draws := by
  intro session peerPkOpt held _
  have waiting : sampleMoved.runtime.pendingSessions.keys = [] := by
    decide +kernel
  have listed := AList.mem_keys.mp (AList.lookup_isSome.mp
    (Option.isSome_iff_exists.mpr ⟨_, held⟩))
  rw [waiting] at listed
  cases listed

/-- Under its own tag it opens none, and changes nothing. -/
theorem sampleMoved_replayed :
    ((sampleMoved.perform (sampleReplay 1)).opened.length = 1 ∧
      (sampleMoved.perform (sampleReplay 1)).OpensOnce) ∧
        sampleMoved.SameUsers (sampleMoved.perform (sampleReplay 1)) := by
  have first : Relation.ReflTransGen MarkedStep
      (start (.bind sampleAddress (SampleSuite.octets 32 50) ∅)) sampleMoved :=
    .head ⟨.setMasterPubkey (SampleSuite.octets 32 42), trivial, rfl⟩
      (.head ⟨.setDeviceCert (sampleCertificate 42 50), trivial, rfl⟩
        (.head ⟨.tickHandshake (sampleCall 40 40) sampleAddress Runtime.sampleDraws,
          fun again => absurd again List.not_mem_nil, rfl⟩
            (.single ⟨sampleMove, trivial, rfl⟩)))
  have replays : sampleMoved.Replays (sampleReplay 1) := by
    show (sampleReplayed 1).payload.data ∈ sampleMoved.taken
    decide +kernel
  have marked : sampleMoved.Marked (sampleReplay 1) := by
    apply marked_of_seen ?_ sampleMoved_noAnswer
    rw [sampleMoved_seenTags]
    exact Finset.mem_singleton_self _
  obtain ⟨once, _⟩ := opensOnce_of_run sampleSuite SampleSuite.noise sampleAddress
    (SampleSuite.octets 32 50) ∅ (first.tail ⟨sampleReplay 1, marked, rfl⟩)
  obtain ⟨_, same⟩ := opensOnce_of_run sampleSuite SampleSuite.noise sampleAddress
    (SampleSuite.octets 32 50) ∅ first
  exact ⟨⟨by decide +kernel, once⟩, same (sampleReplay 1) replays marked⟩

end Callers

end Insub
