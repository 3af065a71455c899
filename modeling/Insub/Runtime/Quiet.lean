/-
This file proves that two clients can always get to the end of what they have said. Whatever the
order of things was so far, the network can deliver the frames that wait, and the clients can tick
and ask, until nothing is under way. Each was then told all that the other one said.

Each turn leaves less to do. A frame that arrives is still to be handled, and the packet in it can
bring an answer only when it is for the one who was called.
-/

import Mathlib
import Insub.Runtime.Told
import Insub.Transport.Capacity

namespace Insub

open Rust

variable {crypto : Primitives} {noise : Noise}

/-! ### Secrets that can be drawn -/

/-- A key pair can avoid a key. -/
theorem Primitives.Varied.avoids (varied : crypto.Varied) (key : Option Key) :
    ∃ secret, ∀ other, key = some other → crypto.publicKey secret ≠ other := by
  cases key with
  | none => exact ⟨Octets.zero 32, fun other found => absurd found (Option.some_ne_none other).symm⟩
  | some key =>
    obtain ⟨secret, differs⟩ := varied key
    exact ⟨secret, fun other same => Option.some.inj same ▸ differs⟩

/-- There is at most one session, and at most one call waits. -/
def Runtime.Single (runtime : Runtime crypto noise) : Prop :=
  (∃ connId, ∀ other, other ≠ connId → runtime.sessions.lookup other = none) ∧
    ∃ tag, ∀ other, other ≠ tag → runtime.pendingSessions.lookup other = none

/-- Secrets can be drawn that are not those of the session and the call. -/
theorem Runtime.Single.exists_draws (varied : crypto.Varied) {runtime : Runtime crypto noise}
    (single : runtime.Single) :
    ∃ draws : TickDraws, runtime.Draws draws ∧ draws.handshake.frameId ≠ 0 := by
  obtain ⟨⟨connId, sole⟩, tag, alone⟩ := single
  obtain ⟨ratchetSecret, ratchetFresh⟩ := varied.avoids
    (((runtime.sessions.lookup connId).bind Session.ratchet).map fun ratchet =>
      crypto.publicKey ratchet.ourDhPriv)
  obtain ⟨callSecret, callFresh⟩ := varied.avoids
    (((runtime.pendingSessions.lookup tag).bind fun entry => entry.1.ourRatchetDhPriv).map
      crypto.publicKey)
  let zero := Octets.zero 32
  have identified : (1 : U128) ≠ 0 := by decide
  refine ⟨{
    servedAt := fun _ => 0
    listedAt := fun _ _ => 0
    responseIds := fun _ => 0
    evictedAt := 0
    handshake := ⟨⟨zero, zero, callSecret, 0⟩, 0, 1⟩
    env := ⟨ratchetSecret, 0, default, 0⟩
    now := 0 }, ⟨?_, ?_⟩, identified⟩
  · intro other session held ratchet has
    by_cases same : other = connId
    · subst same
      refine ratchetFresh _ ?_
      rw [held, Option.bind_some, has]
      rfl
    · rw [sole other same] at held
      cases held
  · intro other session peerPkOpt secret held has
    by_cases same : other = tag
    · subst same
      refine callFresh _ ?_
      rw [held, Option.bind_some, has]
      rfl
    · rw [alone other same] at held
      cases held

/-- Neither side has more than that. -/
theorem Stage.single {pair : Pair crypto} {view : ChatView crypto noise}
    {inner : Party → List Packet} (stage : Stage pair view inner) (party : Party) :
    (view.calls party).Single := by
  have blank {runtime : Runtime crypto noise} (blank : runtime.Blank) : runtime.Single := by
    refine ⟨⟨Octets.zero 16, fun other _ => ?_⟩, Octets.zero 16, fun other _ => ?_⟩
    · rw [blank.sessions]
      rfl
    · rw [blank.pendingSessions]
      rfl
  have waits {runtime : Runtime crypto noise} {tag : HandshakeTag} {called : Session crypto noise}
      (waits : pair.Waits runtime tag called) : runtime.Single := by
    refine ⟨⟨Octets.zero 16, fun other _ => ?_⟩, tag, waits.sole⟩
    rw [waits.sessions]
    rfl
  have talks {runtime : Runtime crypto noise} {connId : ConnectionId} {peerPk : Key}
      {addr : SocketAddr} {session : Session crypto noise}
      (talks : runtime.Talks connId peerPk addr session) : runtime.Single :=
    ⟨⟨connId, talks.sole⟩, Octets.zero 16, fun other _ => talks.idle other⟩
  cases stage with
  | apart nothing => exact blank (nothing party)
  | calling _ waiting nothing =>
    cases party with
    | initiator => exact waits waiting
    | responder => exact blank nothing
  | answered _ waiting _ talking =>
    cases party with
    | initiator => exact waits waiting
    | responder => exact talks talking
  | talking _ talking => exact talks (talking party)

/-! ### What is left to do -/

namespace Chat

variable {pair : Pair crypto} {chat : Chat crypto noise}

theorem exists_first_frame {dest : SocketAddr} {outgoing : List (Packet × SocketAddr)}
    (some : framesTo dest outgoing ≠ []) :
    ∃ before outer after, outgoing = before ++ (outer, dest) :: after ∧
      outer.payload.tag = .relayFrame ∧ framesTo dest before = [] := by
  induction outgoing with
  | nil => exact absurd rfl some
  | cons item rest inductionHypothesis =>
    by_cases frame : item.1.payload.tag = .relayFrame ∧ item.2 = dest
    · exact ⟨[], item.1, rest, by rw [← frame.2]; rfl, frame.1, rfl⟩
    · have passed (items : List (Packet × SocketAddr)) :
          framesTo dest (item :: items) = framesTo dest items := by
        rw [framesTo, List.filter_cons_of_neg (by simpa using frame)]
        rfl
      rw [passed] at some
      obtain ⟨before, outer, after, split, framed, first⟩ := inductionHypothesis some
      exact ⟨item :: before, outer, after, by rw [split, List.cons_append], framed,
        (passed before).trans first⟩

/-- Every frame that waits has an id, and can be cut into datagrams. -/
def Deliverable (chat : Chat crypto noise) : Prop :=
  ∀ party, ∀ item ∈ (chat.node party).channels.outgoing, item.1.payload.tag = .relayFrame →
    item.1.header.id ≠ 0 ∧ item.1.serialize.length ≤ 255 * maxChunk

/-- The frames that wait for a side. -/
def waiting (pair : Pair crypto) (chat : Chat crypto noise) (party : Party) : Nat :=
  (framesTo (pair.address party) (chat.node party.other).channels.outgoing).length

/-- The frames that have arrived at a side. -/
def arrived (chat : Chat crypto noise) (party : Party) : Nat :=
  (chat.node party).relayPile.length

/-- A frame that waits is still to arrive and to be handled. Handling one at the responder can
bring an answer. -/
def left (pair : Pair crypto) (chat : Chat crypto noise) : Nat :=
  (4 * chat.waiting pair .responder + 3 * chat.arrived .responder) +
    (2 * chat.waiting pair .initiator + chat.arrived .initiator)

/-- Nothing is under way when nothing is left to do. -/
theorem underway_of_left (none : chat.left pair = 0) (party : Party) :
    chat.underway pair party = [] := by
  rw [left] at none
  have waits : chat.waiting pair party.other = 0 ∧ chat.arrived party.other = 0 := by
    cases party
    all_goals dsimp only [Party.other]; omega
  rw [waiting, Party.other_other, List.length_eq_zero_iff] at waits
  rw [underway, waits.1, List.length_eq_zero_iff.mp waits.2]
  rfl

/-- A frame that waits for a side can be delivered. -/
theorem exists_arrive (sound : chat.Sound pair) (deliverable : chat.Deliverable) {receiver : Party}
    (some : chat.waiting pair receiver ≠ 0) :
    ∃ next, Step pair chat next ∧ next.Deliverable ∧ next.said = chat.said ∧
      next.left pair < chat.left pair := by
  obtain ⟨before, outer, after, waits, framed, first⟩ :=
    exists_first_frame fun none => some (List.length_eq_zero_iff.mpr none)
  obtain ⟨identified, few⟩ := deliverable receiver.other (outer, pair.address receiver)
    (waits ▸ List.mem_append_right _ List.mem_cons_self) framed
  obtain ⟨inner, frames, _⟩ := sound.stage
  have toward := frames.toward receiver
  rw [waits, framesTo_replace framed first] at toward
  obtain ⟨undivided, _⟩ := wraps_arrived toward
  let source := pair.address receiver.other
  obtain ⟨fragments, cut, joins⟩ :=
    Packet.crosses identified undivided few (fun _ => 1) source
  let arrivals : List (Packet × Instant) := fragments.map fun datagram => (datagram.requireAck, 0)
  have order : (arrivals.map Prod.fst).Perm (fragments.map Packet.requireAck) := by
    rw [List.map_map]
    exact .refl _
  obtain ⟨whole, fed, same⟩ := joins .new arrivals rfl order
  have tagged : whole.payload.tag = .relayFrame := by
    rcases same with rfl | rfl <;> exact framed
  obtain ⟨ours, theirs⟩ := chat.node_handOver receiver (before ++ after) tagged source
  refine ⟨chat.handOver receiver (before ++ after) [whole] source,
    .arrive chat receiver before after outer source waits framed first identified few _ fragments
      cut .new rfl arrivals order [whole] fed, ?_, rfl, ?_⟩
  · intro party item member frame
    rcases party.eq_or_eq_other receiver with rfl | rfl
    · rw [ours] at member
      exact deliverable party item member frame
    · rw [theirs] at member
      refine deliverable receiver.other item (waits ▸ ?_) frame
      rcases List.mem_append.mp member with earlier | later
      · exact List.mem_append_left _ earlier
      · exact List.mem_append_right _ (List.mem_cons_of_mem _ later)
  · have less : chat.waiting pair receiver =
        (chat.handOver receiver (before ++ after) [whole] source).waiting pair receiver + 1 := by
      rw [waiting, waits, framesTo_replace framed first, List.length_cons, waiting, theirs]
    have more : (chat.handOver receiver (before ++ after) [whole] source).arrived receiver =
        chat.arrived receiver + 1 := by
      rw [arrived, ours, List.length_append]
      rfl
    have others : (chat.handOver receiver (before ++ after) [whole] source).waiting pair
        receiver.other = chat.waiting pair receiver.other := by
      rw [waiting, Party.other_other, ours, waiting, Party.other_other]
    have still : (chat.handOver receiver (before ++ after) [whole] source).arrived receiver.other =
        chat.arrived receiver.other := by
      rw [arrived, theirs, arrived]
    cases receiver
    all_goals dsimp only [Party.other] at less more others still; rw [left, left]; omega

/-- An answer is short enough to be cut. -/
theorem deliverable_sendPacket {packet : Packet} (brief : packet.payload.data.length ≤ messageCapacity)
    {frameId : U128} (identified : frameId ≠ 0) (dest : SocketAddr) (relayId : U128) :
    (Runtime.sendPacket packet dest relayId frameId).1.header.id ≠ 0 ∧
      (Runtime.sendPacket packet dest relayId frameId).1.serialize.length ≤ 255 * maxChunk := by
  refine ⟨identified, ?_⟩
  have framed : (Runtime.sendPacket packet dest relayId frameId).1.payload.data =
      (beBytes 16 relayId).toList ++ packet.serialize := rfl
  rw [Packet.length_serialize, framed, List.length_append, List.Vector.toList_length,
    Packet.length_serialize, maxChunk]
  rw [messageCapacity] at brief
  omega

/-- A frame that has arrived at a side can be handled. -/
theorem exists_tick (commutes : crypto.DiffieHellmanCommutes) (opens : crypto.OpensSealed)
    (delivers : noise.DeliversUnaltered crypto) (varied : crypto.Varied)
    (within : noise.WritesWithin) (sound : chat.Sound pair) (deliverable : chat.Deliverable)
    {party : Party} (some : chat.arrived party ≠ 0) :
    ∃ next, Step pair chat next ∧ next.Deliverable ∧ next.said = chat.said ∧
      next.left pair < chat.left pair := by
  obtain ⟨⟨outer, source⟩, relayPile, pile⟩ :=
    List.exists_cons_of_ne_nil fun none => some (List.length_eq_zero_iff.mpr none)
  obtain ⟨_, _, stage⟩ := sound.stage
  obtain ⟨draws, fresh, identified⟩ := (stage.single party).exists_draws varied
  obtain ⟨_, _, _, effects, _, replies, after, run, ticks, handles, _⟩ :=
    sound.takes commutes opens delivers varied fresh pile
  have step : Step pair chat (chat.move party ((chat.node party).tick draws).2) :=
    .tick chat party draws fresh
  rw [run] at step
  refine ⟨chat.move party after, step, ?_, rfl, ?_⟩
  · intro other item member frame
    rcases other.eq_or_eq_other party with rfl | rfl
    · obtain ⟨sent, operations, outgoing⟩ := ticks.outgoing
      rw [move_self, outgoing] at member
      rcases List.mem_append.mp member with earlier | answer
      · rcases List.mem_append.mp earlier with earlier | operation
        · exact deliverable other item earlier frame
        · rw [operations item operation] at frame
          cases frame
      · rw [handles.outgoing] at answer
        obtain ⟨reply, replied, rfl⟩ := List.mem_map.mp answer
        exact deliverable_sendPacket (handles.brief within reply replied) identified _ _
    · rw [move_other] at member
      exact deliverable party.other item member frame
  · have less : chat.arrived party = (chat.move party after).arrived party + 1 := by
      rw [arrived, pile, arrived, move_self, ticks.relayPile]
      rfl
    have more : (chat.move party after).waiting pair party.other =
        chat.waiting pair party.other + replies.length := by
      rw [waiting, Party.other_other, move_self, ticks.frames, List.length_append,
        handles.outgoing, (framesTo_sendPacket _ _ _ replies).length_eq, waiting, Party.other_other]
    have others : (chat.move party after).waiting pair party = chat.waiting pair party := by
      rw [waiting, move_other, waiting]
    have still : (chat.move party after).arrived party.other = chat.arrived party.other := by
      rw [arrived, move_other, arrived]
    have few := handles.few
    have last := handles.last
    cases party with
    | initiator =>
      rw [last rfl] at more
      dsimp only [Party.other, List.length_nil] at less more others still
      rw [left, left]
      omega
    | responder =>
      dsimp only [Party.other] at less more others still
      rw [left, left]
      omega

/-! ### The end of what was said -/

theorem polled_self (chat : Chat crypto noise) (party : Party) :
    (chat.polled party).node party = (chat.node party).poll.2 :=
  Function.update_self ..

theorem polled_other (chat : Chat crypto noise) (party : Party) :
    (chat.polled party).node party.other = chat.node party.other :=
  Function.update_of_ne party.other_ne ..

theorem underway_polled (chat : Chat crypto noise) (asker : Party) :
    (chat.polled asker).underway pair = chat.underway pair := by
  funext party
  rcases party.eq_or_eq_other asker with rfl | rfl
  · rw [underway, polled_self, polled_other]
    rfl
  · rw [underway, underway, Party.other_other, polled_self, polled_other]
    rfl

/-- When nothing is under way, and a client has asked, it was told everything. -/
theorem Sound.told_all (sound : chat.Sound pair)
    (quiet : ∀ party, chat.underway pair party = [])
    (asked : ∀ party, (chat.node party).channels.messages = []) (party : Party) :
    (chat.told party).filterMap received =
      (chat.said party.other).map (report (pair.masterPk party.other)) := by
  obtain ⟨inner, frames, stage⟩ := sound.stage
  have none (party : Party) : inner party = [] := by
    have framed := frames party
    rw [quiet] at framed
    exact List.forall₂_nil_left_iff.mp framed
  have heard : heardBy (chat.told party) (chat.node party).channels = _ :=
    stage.heard_all none party
  rw [heardBy, asked, List.map_nil, List.append_nil] at heard
  exact heard

/-- Whenever nothing is under way, and both clients have asked, each was told all that the other one
said. From every state whose frames can be cut, the two can get there without saying anything
more. -/
theorem all_told (commutes : crypto.DiffieHellmanCommutes) (opens : crypto.OpensSealed)
    (delivers : noise.DeliversUnaltered crypto) (varied : crypto.Varied)
    (within : noise.WritesWithin) (pair : Pair crypto) {chat : Chat crypto noise}
    (run : Relation.ReflTransGen (Step pair) (start pair) chat) :
    ((∀ party, chat.underway pair party = []) →
        (∀ party, (chat.node party).channels.messages = []) →
          ∀ party, (chat.told party).filterMap received =
            (chat.said party.other).map (report (pair.masterPk party.other))) ∧
      (chat.Deliverable → ∃ last, Relation.ReflTransGen (Step pair) chat last ∧
        last.said = chat.said ∧ ∀ party, (last.told party).filterMap received =
          (chat.said party.other).map (report (pair.masterPk party.other))) := by
  have sound := run_sound commutes opens delivers varied run
  refine ⟨fun quiet asked => sound.told_all quiet asked, fun deliverable => ?_⟩
  have advances : ∀ state : Chat crypto noise,
      (state.Sound pair ∧ state.Deliverable ∧ state.said = chat.said) → state.left pair ≠ 0 →
        ∃ next, Step pair state next ∧
          (next.Sound pair ∧ next.Deliverable ∧ next.said = chat.said) ∧
            next.left pair < state.left pair := by
    rintro state ⟨kept, deliverable, same⟩ some
    have progress : ∃ next, Step pair state next ∧ next.Deliverable ∧ next.said = state.said ∧
        next.left pair < state.left pair := by
      by_cases arrived : ∃ party, state.arrived party ≠ 0
      · obtain ⟨party, here⟩ := arrived
        exact exists_tick commutes opens delivers varied within kept deliverable here
      · obtain ⟨party, waits⟩ : ∃ party, state.waiting pair party ≠ 0 := by
          by_contra none
          push Not at arrived none
          rw [left, arrived, arrived, none, none] at some
          exact some rfl
        exact exists_arrive kept deliverable waits
    obtain ⟨next, step, goesOn, still, less⟩ := progress
    exact ⟨next, step, ⟨step.keepsSound commutes opens delivers varied kept, goesOn,
      still.trans same⟩, less⟩
  obtain ⟨quiet, goes, ⟨kept, _, same⟩, none⟩ :=
    Run.exhausts (left pair) advances ⟨sound, deliverable, rfl⟩
  let last := (quiet.polled .initiator).polled .responder
  have asks : Relation.ReflTransGen (Step pair) chat last :=
    (goes.tail (.poll quiet .initiator)).tail (.poll _ .responder)
  refine ⟨last, asks, same, fun party => ?_⟩
  have ends : last.Sound pair := run_sound commutes opens delivers varied (run.trans asks)
  rw [← same]
  refine ends.told_all ?_ ?_ party
  · rw [underway_polled, underway_polled]
    exact underway_of_left none
  · rintro (_ | _)
    · have asked : last.node .initiator = (quiet.polled .initiator).node .initiator :=
        polled_other (quiet.polled .initiator) .responder
      rw [asked, polled_self]
      rfl
    · have asked : last.node .responder = _ := polled_self (quiet.polled .initiator) .responder
      rw [asked]
      rfl

end Chat

/-- After the greetings nothing is under way, and both clients have asked. After the farewells a
frame is under way each way, and all that wait can be cut. -/
theorem Chat.sampleAfter_quiet : (sampleAfter sampleGreetings).any
    (fun chat => chat.ToldEach ["hi"] ["hello"] ∧ ∀ party ∈ [Party.initiator, .responder],
      chat.underway samplePair party = [] ∧ (chat.node party).channels.messages = []) = true := by
  decide +kernel

theorem Chat.sampleAfter_underway : (sampleAfter (sampleGreetings ++ sampleFarewells)).any
    (fun chat => ((chat.said .initiator).map (fun note => note.message.content) =
        ["hello", "bye"] ∧
      (chat.said .responder).map (fun note => note.message.content) = ["hi", "bye too"]) ∧
      ∀ party ∈ [Party.initiator, .responder], (chat.underway samplePair party).length = 1 ∧
        ∀ item ∈ (chat.node party).channels.outgoing, item.1.payload.tag = .relayFrame →
          item.1.header.id ≠ 0 ∧ item.1.serialize.length ≤ 255 * maxChunk) = true := by
  decide +kernel

theorem sampleChat_all_told : ∃ greeted parting last : Chat sampleSuite SampleSuite.noise,
    Chat.sampleAfter Chat.sampleGreetings = some greeted ∧ greeted.ToldEach ["hi"] ["hello"] ∧
      (∀ party, (greeted.told party).filterMap Chat.received =
        (greeted.said party.other).map (Chat.report (samplePair.masterPk party.other))) ∧
      Chat.sampleAfter (Chat.sampleGreetings ++ Chat.sampleFarewells) = some parting ∧
        (∀ party, (parting.underway samplePair party).length = 1) ∧
          Relation.ReflTransGen (Chat.Step samplePair) parting last ∧
            last.ToldEach ["hi", "bye too"] ["hello", "bye"] := by
  obtain ⟨greeted, greetedCame, greetedIs⟩ := (Option.any_eq_true _ _).mp Chat.sampleAfter_quiet
  obtain ⟨told, quiet⟩ := of_decide_eq_true greetedIs
  obtain ⟨parting, partingCame, partingIs⟩ :=
    (Option.any_eq_true _ _).mp Chat.sampleAfter_underway
  obtain ⟨⟨asks, answers⟩, frames⟩ := of_decide_eq_true partingIs
  obtain ⟨all, _⟩ := Chat.all_told SampleSuite.diffieHellmanCommutes SampleSuite.opensSealed
    SampleSuite.noise_deliversUnaltered SampleSuite.varied SampleSuite.noise_writesWithin samplePair
      (Chat.run_of_sampleAfter greetedCame)
  obtain ⟨_, ends⟩ := Chat.all_told SampleSuite.diffieHellmanCommutes SampleSuite.opensSealed
    SampleSuite.noise_deliversUnaltered SampleSuite.varied SampleSuite.noise_writesWithin samplePair
      (Chat.run_of_sampleAfter partingCame)
  obtain ⟨last, run, -, heard⟩ := ends fun party => (frames party party.mem_both).2
  refine ⟨greeted, parting, last, greetedCame, told, ?_, partingCame,
    fun party => (frames party party.mem_both).1, run, ?_, ?_⟩
  · exact all (fun party => (quiet party party.mem_both).1) fun party =>
      (quiet party party.mem_both).2
  · rw [← answers, List.map_map]
    exact heard .initiator
  · rw [← asks, List.map_map]
    exact heard .responder

end Insub
