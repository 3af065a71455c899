/-
This file proves what two clients are told of each other. At every moment of a run, the frames that
are under way hold packets as some stage of the two says, in order. So each client is told a first
part of what the other one said, and all of it once nothing is under way any more; both are told
one safety number; and no tick panics.
-/

import Mathlib
import Insub.Library.Run
import Insub.Runtime.Hearing

namespace Insub

open Rust

variable {crypto : Primitives} {noise : Noise}

/-! ### Frames -/

namespace Chat

theorem framesTo_append (dest : SocketAddr) (first second : List (Packet × SocketAddr)) :
    framesTo dest (first ++ second) = framesTo dest first ++ framesTo dest second := by
  rw [framesTo, List.filter_append, List.map_append]
  rfl

/-- Operations of the hash table are no frames. -/
theorem framesTo_operations {dest : SocketAddr} {outgoing : List (Packet × SocketAddr)}
    (operations : ∀ item ∈ outgoing, item.1.payload.tag = .dhtOperation) :
    framesTo dest outgoing = [] := by
  rw [framesTo, List.filter_eq_nil_iff.mpr, List.map_nil]
  intro item member framed
  obtain ⟨tagged, _⟩ := of_decide_eq_true framed
  rw [operations item member] at tagged
  cases tagged

/-- What is sent to a user in frames is what is under way to it. -/
theorem framesTo_sendPacket (dest : SocketAddr) (pk : Key) (frameId : U128)
    (packets : List Packet) :
    List.Forall₂ (Packet.Wraps crypto pk)
      (framesTo dest (packets.map fun packet =>
        Runtime.sendPacket packet dest (deriveId crypto pk) frameId)) packets := by
  induction packets with
  | nil => exact .nil
  | cons packet rest inductionHypothesis =>
    have framed : framesTo dest ((packet :: rest).map fun packet =>
        Runtime.sendPacket packet dest (deriveId crypto pk) frameId) =
          (Runtime.sendPacket packet dest (deriveId crypto pk) frameId).1 ::
            framesTo dest (rest.map fun packet =>
              Runtime.sendPacket packet dest (deriveId crypto pk) frameId) := by
      rw [List.map_cons, framesTo, List.filter_cons, if_pos]
      · rfl
      · exact decide_eq_true ⟨rfl, rfl⟩
    rw [framed]
    exact .cons ⟨rfl, rfl, rfl⟩ inductionHypothesis

theorem framesTo_replace {dest : SocketAddr} {before after : List (Packet × SocketAddr)}
    {outer : Packet} (framed : outer.payload.tag = .relayFrame)
    (first : framesTo dest before = []) :
    framesTo dest (before ++ (outer, dest) :: after) =
      outer :: framesTo dest (before ++ after) := by
  rw [framesTo_append, framesTo_append, first, List.nil_append, List.nil_append, framesTo,
    List.filter_cons, if_pos (decide_eq_true ⟨framed, rfl⟩)]
  rfl

/-- A frame is no fragment. When it arrives, it holds the packet it held when it was sent. -/
theorem wraps_arrived {pk : Key} {before after : List Packet} {outer : Packet}
    {packets : List Packet}
    (wraps : List.Forall₂ (Packet.Wraps crypto pk) (before ++ outer :: after) packets) :
    outer.payload.fragmentId = 0 ∧ ∀ arrived, arrived = outer ∨ arrived = outer.requireAck →
      List.Forall₂ (Packet.Wraps crypto pk) (before ++ arrived :: after) packets := by
  induction before generalizing packets with
  | nil =>
    cases wraps with
    | cons here rest =>
      refine ⟨here.whole, fun arrived same => ?_⟩
      rcases same with rfl | rfl
      · exact .cons here rest
      · exact .cons ⟨here.whole, here.tag, here.data⟩ rest
  | cons _ _ inductionHypothesis =>
    cases wraps with
    | cons here rest =>
      obtain ⟨whole, arrives⟩ := inductionHypothesis rest
      exact ⟨whole, fun arrived same => .cons here (arrives arrived same)⟩

/-! ### What a client sees of a step -/

theorem heardBy_poll (told : List ClientEvent) (node : Node crypto noise) :
    heardBy (told ++ node.poll.1) node.poll.2.channels = heardBy told node.channels := by
  have news : node.poll.1.filterMap received =
      node.channels.messages.map fun item => (item.2, item.1.content) := by
    simp [Node.poll, List.filterMap_map, Function.comp_def, received]
  rw [heardBy, List.filterMap_append, news, List.append_assoc]
  exact congrArg (_ ++ ·) (List.append_nil _)

theorem metBy_poll (told : List ClientEvent) (node : Node crypto noise) :
    metBy (told ++ node.poll.1) node.poll.2.channels = metBy told node.channels := by
  have news : node.poll.1.filterMap greeted = node.channels.established := by
    simp [Node.poll, List.filterMap_map, Function.comp_def, greeted]
  rw [metBy, List.filterMap_append, news, List.append_assoc]
  exact congrArg (_ ++ ·) (List.append_nil _)

@[simp] theorem move_self (chat : Chat crypto noise) (mover : Party) (node : Node crypto noise) :
    (chat.move mover node).node mover = node :=
  Function.update_self ..

@[simp] theorem move_other (chat : Chat crypto noise) (mover : Party) (node : Node crypto noise) :
    (chat.move mover node).node mover.other = chat.node mover.other :=
  Function.update_of_ne mover.other_ne ..

theorem view_move (chat : Chat crypto noise) (mover : Party) (node : Node crypto noise) :
    (chat.move mover node).view =
      { calls := Function.update chat.view.calls mover node.calls
        said := chat.said
        heard := Function.update chat.view.heard mover (heardBy (chat.told mover) node.channels)
        met := Function.update chat.view.met mover (metBy (chat.told mover) node.channels) } := by
  rw [view, move, view]
  congr 1 <;> funext party
  · exact Function.apply_update (fun _ (node : Node crypto noise) => node.calls) ..
  · exact Function.apply_update (fun party (node : Node crypto noise) =>
      heardBy (chat.told party) node.channels) ..
  · exact Function.apply_update (fun party (node : Node crypto noise) =>
      metBy (chat.told party) node.channels) ..

theorem view_congr {first second : Chat crypto noise} (said : first.said = second.said)
    (calls : ∀ party, (first.node party).calls = (second.node party).calls)
    (heard : ∀ party, heardBy (first.told party) (first.node party).channels =
      second.view.heard party)
    (met : ∀ party, metBy (first.told party) (first.node party).channels = second.view.met party) :
    first.view = second.view := by
  rw [view, ChatView.mk.injEq]
  exact ⟨funext calls, said, funext heard, funext met⟩

/-- Nothing comes through. -/
theorem view_move_quiet (chat : Chat crypto noise) (mover : Party) {node : Node crypto noise}
    (messages : node.channels.messages = (chat.node mover).channels.messages)
    (established : node.channels.established = (chat.node mover).channels.established) :
    (chat.move mover node).view =
      { chat.view with calls := Function.update chat.view.calls mover node.calls } := by
  have heard : heardBy (chat.told mover) node.channels = chat.view.heard mover := by
    rw [heardBy, messages]
    rfl
  have met : metBy (chat.told mover) node.channels = chat.view.met mover := by
    rw [metBy, established]
    rfl
  rw [view_move, heard, met, Function.update_eq_self, Function.update_eq_self]
  rfl

/-- A note is said. -/
theorem view_move_saying (chat : Chat crypto noise) (mover : Party) {node : Node crypto noise}
    (messages : node.channels.messages = (chat.node mover).channels.messages)
    (established : node.channels.established = (chat.node mover).channels.established)
    (note : Note) :
    view { chat.move mover node with
        said := Function.update chat.said mover (chat.said mover ++ [note]) } =
      chat.view.saying mover node.calls note :=
  congrArg (fun view : ChatView crypto noise => { view with
      said := Function.update chat.said mover (chat.said mover ++ [note]) })
    (view_move_quiet chat mover messages established)

/-- Nothing changes for the runtimes. -/
theorem view_move_same (chat : Chat crypto noise) (mover : Party) {node : Node crypto noise}
    (calls : node.calls = (chat.node mover).calls)
    (messages : node.channels.messages = (chat.node mover).channels.messages)
    (established : node.channels.established = (chat.node mover).channels.established) :
    (chat.move mover node).view = chat.view := by
  have same : node.calls = chat.view.calls mover := calls
  rw [view_move_quiet chat mover messages established, same, Function.update_eq_self]

/-- The effects of what is handled come through. -/
theorem view_move_hearing (chat : Chat crypto noise) (mover : Party) {node : Node crypto noise}
    {effects : Effects}
    (messages : node.channels.messages = (chat.node mover).channels.messages ++ effects.messages)
    (established :
      node.channels.established = (chat.node mover).channels.established ++ effects.established) :
    (chat.move mover node).view = chat.view.hearing mover node.calls effects := by
  rw [view_move, ChatView.hearing, heardBy, messages, List.map_append, ← List.append_assoc, metBy,
    established, ← List.append_assoc]
  rfl

/-- What a client is told has come through before. -/
theorem view_poll (chat : Chat crypto noise) (party : Party) :
    (chat.polled party).view = chat.view := by
  refine view_congr rfl (fun other => ?_) (fun other => ?_) fun other => ?_
  all_goals rw [polled, move]; dsimp only
  all_goals rcases other.eq_or_eq_other party with rfl | rfl
  · rw [Function.update_self]
    rfl
  · rw [Function.update_of_ne party.other_ne]
  · rw [Function.update_self, Function.update_self]
    exact heardBy_poll _ _
  · rw [Function.update_of_ne party.other_ne, Function.update_of_ne party.other_ne]
    rfl
  · rw [Function.update_self, Function.update_self]
    exact metBy_poll _ _
  · rw [Function.update_of_ne party.other_ne, Function.update_of_ne party.other_ne]
    rfl

/-- A frame that is handed over is on the pile of its receiver. -/
theorem node_handOver (chat : Chat crypto noise) (receiver : Party)
    (outgoing : List (Packet × SocketAddr)) {whole : Packet}
    (tagged : whole.payload.tag = .relayFrame) (source : SocketAddr) :
    (chat.handOver receiver outgoing [whole] source).node receiver = { chat.node receiver with
        relayPile := (chat.node receiver).relayPile ++ [(whole, source)] } ∧
      (chat.handOver receiver outgoing [whole] source).node receiver.other =
        { chat.node receiver.other with
          channels := { (chat.node receiver.other).channels with outgoing } } := by
  constructor
  · rw [handOver, move_self, List.foldl_cons, List.foldl_nil, Node.arrive, tagged]
  · rw [handOver, move_other, move_self]

theorem underway_move (pair : Pair crypto) (chat : Chat crypto noise) (mover : Party)
    (node : Node crypto noise) :
    (chat.move mover node).underway pair mover =
        (chat.node mover.other).relayPile.map Prod.fst ++
          framesTo (pair.address mover.other) node.channels.outgoing ∧
      (chat.move mover node).underway pair mover.other =
        node.relayPile.map Prod.fst ++
          framesTo (pair.address mover) (chat.node mover.other).channels.outgoing := by
  constructor
  · rw [underway, move_self, move_other]
  · rw [underway, Party.other_other, move_self, move_other]

/-! ### What holds of a run -/

end Chat

/-- The runtime of a client between two ticks. -/
structure Pair.Keeps (pair : Pair crypto) (party : Party) (node : Node crypto noise) : Prop where
  standing : pair.Standing party node.calls
  relays : node.relayFwd.isSome = true
  settled : node.Settled
  whole : ∀ item ∈ node.dhtPile, ¬ DhtOperation.LacksLength item.1.payload.data

theorem Pair.Keeps.emit {pair : Pair crypto} {party : Party} {node : Node crypto noise}
    (keeps : pair.Keeps party node) {calls : Runtime crypto noise}
    (standing : pair.Standing party calls) (effects : Effects) :
    pair.Keeps party (Node.emit { node with calls } effects) :=
  ⟨standing, keeps.relays, ⟨keeps.settled.handshakePile, keeps.settled.messagePile⟩, keeps.whole⟩

namespace Node.Ticks

variable {before after : Node crypto noise} {relayPile : List PileItem} {effects : Effects}
  {calls : Runtime crypto noise}

theorem keeps {pair : Pair crypto} {party : Party}
    (ticks : before.Ticks after relayPile effects calls) (keeps : pair.Keeps party before)
    (standing : pair.Standing party after.calls) : pair.Keeps party after where
  standing := standing
  relays := ticks.relayFwd ▸ keeps.relays
  settled := ticks.settled
  whole item member := by
    rw [ticks.dhtPile] at member
    exact absurd member List.not_mem_nil

theorem frames (ticks : before.Ticks after relayPile effects calls) (dest : SocketAddr) :
    framesTo dest after.channels.outgoing =
      framesTo dest before.channels.outgoing ++ framesTo dest effects.outgoing := by
  obtain ⟨sent, operations, outgoing⟩ := ticks.outgoing
  rw [outgoing, Chat.framesTo_append, Chat.framesTo_append, Chat.framesTo_operations operations,
    List.append_nil]

end Node.Ticks

namespace Chat

/-- The frames under way hold these packets, in this order. -/
def Frames (pair : Pair crypto) (chat : Chat crypto noise) (inner : Party → List Packet) : Prop :=
  ∀ party, List.Forall₂ (Packet.Wraps crypto (pair.masterPk party.other))
    (chat.underway pair party) (inner party)

structure Sound (pair : Pair crypto) (chat : Chat crypto noise) : Prop where
  keeps : ∀ party, pair.Keeps party (chat.node party)
  distinct : ∀ party, ((chat.said party).map (Note.name crypto (pair.masterPk party))).Nodup
  stage : ∃ inner, chat.Frames pair inner ∧ Stage pair chat.view inner

section Moves

variable {pair : Pair crypto} {chat : Chat crypto noise} {inner : Party → List Packet}
  {mover : Party} {node : Node crypto noise}

theorem Frames.move {after : Party → List Packet}
    (own : List.Forall₂ (Packet.Wraps crypto (pair.masterPk mover.other))
      ((chat.node mover.other).relayPile.map Prod.fst ++
        framesTo (pair.address mover.other) node.channels.outgoing) (after mover))
    (theirs : List.Forall₂ (Packet.Wraps crypto (pair.masterPk mover))
      (node.relayPile.map Prod.fst ++
        framesTo (pair.address mover) (chat.node mover.other).channels.outgoing)
      (after mover.other)) :
    (chat.move mover node).Frames pair after := by
  obtain ⟨ours, others⟩ := underway_move pair chat mover node
  intro party
  rcases party.eq_or_eq_other mover with rfl | rfl
  · rw [ours]
    exact own
  · rw [others, Party.other_other]
    exact theirs

/-- What is under way to the mover, with the pile it takes the frames from. -/
theorem Frames.toward (frames : chat.Frames pair inner) (mover : Party) :
    List.Forall₂ (Packet.Wraps crypto (pair.masterPk mover))
      ((chat.node mover).relayPile.map Prod.fst ++
        framesTo (pair.address mover) (chat.node mover.other).channels.outgoing)
      (inner mover.other) := by
  have theirs := frames mover.other
  rw [underway, Party.other_other] at theirs
  exact theirs

/-- The mover sends some packets. -/
theorem Frames.sent (frames : chat.Frames pair inner)
    (relayPile : node.relayPile = (chat.node mover).relayPile)
    {sent : List (Packet × SocketAddr)}
    (outgoing : node.channels.outgoing = (chat.node mover).channels.outgoing ++ sent)
    {packets : List Packet}
    (wraps : List.Forall₂ (Packet.Wraps crypto (pair.masterPk mover.other))
      (framesTo (pair.address mover.other) sent) packets) :
    (chat.move mover node).Frames pair (Function.update inner mover (inner mover ++ packets)) := by
  refine Frames.move ?_ ?_
  · rw [Function.update_self, outgoing, framesTo_append, ← List.append_assoc]
    exact List.rel_append (frames mover) wraps
  · rw [Function.update_of_ne mover.other_ne, relayPile]
    exact frames.toward mover

theorem Frames.emit (frames : chat.Frames pair inner) (mover : Party) (calls : Runtime crypto noise)
    (packet : Packet) (frameId : U128) :
    (chat.move mover (Node.emit { chat.node mover with calls } { Effects.none with
      outgoing := [Runtime.sendPacket packet (pair.address mover.other)
        (deriveId crypto (pair.masterPk mover.other)) frameId] })).Frames pair
          (Function.update inner mover (inner mover ++ [packet])) :=
  frames.sent (by rfl) (by rfl) (framesTo_sendPacket _ _ frameId [packet])

/-- The mover sends no packets. -/
theorem Frames.same (frames : chat.Frames pair inner)
    (relayPile : node.relayPile = (chat.node mover).relayPile)
    (outgoing : framesTo (pair.address mover.other) node.channels.outgoing =
      framesTo (pair.address mover.other) (chat.node mover).channels.outgoing) :
    (chat.move mover node).Frames pair inner := by
  refine Frames.move ?_ ?_
  · rw [outgoing]
    exact frames mover
  · rw [relayPile]
    exact frames.toward mover

theorem Sound.keepsMoved (sound : chat.Sound pair) (keeps : pair.Keeps mover node) (party : Party) :
    pair.Keeps party ((chat.move mover node).node party) := by
  rcases party.eq_or_eq_other mover with rfl | rfl
  · rw [move_self]
    exact keeps
  · rw [move_other]
    exact sound.keeps mover.other

/-- A move that leaves the stage. -/
theorem Sound.same (sound : chat.Sound pair) (keeps : pair.Keeps mover node)
    (view : (chat.move mover node).view = chat.view)
    (relayPile : node.relayPile = (chat.node mover).relayPile)
    (outgoing : framesTo (pair.address mover.other) node.channels.outgoing =
      framesTo (pair.address mover.other) (chat.node mover).channels.outgoing) :
    (chat.move mover node).Sound pair := by
  obtain ⟨inner, frames, stage⟩ := sound.stage
  refine ⟨sound.keepsMoved keeps, sound.distinct, inner, frames.same relayPile outgoing, ?_⟩
  rw [view]
  exact stage

end Moves

/-! ### The steps -/

section Steps

variable {pair : Pair crypto} {chat : Chat crypto noise}

/-- The initiator calls. -/
theorem Sound.contact (commutes : crypto.DiffieHellmanCommutes)
    (delivers : noise.DeliversUnaltered crypto) (varied : crypto.Varied) (sound : chat.Sound pair)
    {record : ContactRecord crypto} {tag : HandshakeTag} {draws : RuntimeDraws}
    (first : (chat.node .initiator).calls.pendingSessions = ∅)
    (alone : (chat.node .initiator).calls.sessions = ∅)
    (listed : record.deviceList.devices = [pair.responderCert])
    (placed : record.relayAddr = pair.responderAddr) :
    (chat.move .initiator ((chat.node .initiator).contact (pair.masterPk .responder) record
      fun _ => (tag, draws)).2).Sound pair := by
  obtain ⟨inner, frames, stage⟩ := sound.stage
  have keeps := sound.keeps .initiator
  obtain ⟨packet, calls, run, stands, next⟩ := stage.contact commutes delivers varied keeps.standing
    first alone (chat.node .initiator) rfl listed placed tag draws
  rw [run]
  refine ⟨sound.keepsMoved (keeps.emit stands _), sound.distinct, _,
    frames.emit .initiator calls packet draws.frameId, ?_⟩
  rw [view_move_quiet chat .initiator (List.append_nil _) (List.append_nil _)]
  exact next

/-- A side says something. -/
theorem Sound.say (commutes : crypto.DiffieHellmanCommutes) (opens : crypto.OpensSealed)
    (varied : crypto.Varied) (sound : chat.Sound pair) {speaker : Party} {note : Note}
    {nonce : Nonce} {draws : Nat → SendDraws}
    (sent : ((chat.node speaker).sendMessage note.message (pair.masterPk speaker.other) note.key
      nonce draws).1 = .ok ())
    (fresh : ∀ earlier ∈ chat.said speaker,
      note.name crypto (pair.masterPk speaker) ≠ earlier.name crypto (pair.masterPk speaker)) :
    Sound pair { chat.move speaker ((chat.node speaker).sendMessage note.message
        (pair.masterPk speaker.other) note.key nonce draws).2 with
      said := Function.update chat.said speaker (chat.said speaker ++ [note]) } := by
  obtain ⟨inner, frames, stage⟩ := sound.stage
  have keeps := sound.keeps speaker
  obtain ⟨packet, sessions, run, next⟩ := stage.say commutes opens varied sent
  let calls : Runtime crypto noise := { (chat.node speaker).calls with sessions }
  have stands : pair.Standing speaker calls := ⟨keeps.standing.address, keeps.standing.devicePriv,
    keeps.standing.masterPubkey, keeps.standing.deviceCert⟩
  have runs : (chat.node speaker).sendMessage note.message (pair.masterPk speaker.other) note.key
      nonce draws = (.ok (), Node.emit { chat.node speaker with calls } { Effects.none with
          outgoing := [Runtime.sendPacket packet (pair.address speaker.other)
            (deriveId crypto (pair.masterPk speaker.other)) (draws 0).frameId] }) := by
    rw [Node.sendMessage, show (chat.node speaker).calls.sendMessage _ _ _ _ _ = _ from run]
    rfl
  rw [runs]
  refine ⟨sound.keepsMoved (keeps.emit stands _), ?_, _,
    frames.emit speaker calls packet (draws 0).frameId, ?_⟩
  · refine (Function.forall_update_iff chat.said (p := fun party (notes : List Note) =>
      (notes.map (Note.name crypto (pair.masterPk party))).Nodup)).mpr
        ⟨?_, fun party _ => sound.distinct party⟩
    rw [List.map_append, List.map_singleton, ← List.concat_eq_append]
    refine (sound.distinct speaker).concat fun member => ?_
    obtain ⟨earlier, heard, same⟩ := List.mem_map.mp member
    exact fresh earlier heard same.symm
  · rw [view_move_saying chat speaker (List.append_nil _) (List.append_nil _)]
    exact next

/-- The network delivers the first frame that waits for a side. -/
theorem Sound.arrive (sound : chat.Sound pair) {receiver : Party}
    {before after : List (Packet × SocketAddr)} {outer : Packet} {source : SocketAddr}
    (waits : (chat.node receiver.other).channels.outgoing =
      before ++ (outer, pair.address receiver) :: after)
    (framed : outer.payload.tag = .relayFrame) (first : framesTo (pair.address receiver) before = [])
    (identified : outer.header.id ≠ 0) (few : outer.serialize.length ≤ 255 * maxChunk)
    {ids : Nat → U128} {fragments : List Packet} (cut : outer.split ids = .ok fragments)
    {reassembler : Reassembler}
    (free : reassembler.pending.lookup (outer.header.id, source) = none)
    {arrivals : List (Packet × Instant)}
    (order : (arrivals.map Prod.fst).Perm (fragments.map Packet.requireAck))
    {arrived : List Packet} (joined : (reassembler.feeds source arrivals).1 = .ok arrived) :
    Sound pair (chat.handOver receiver (before ++ after) arrived source) := by
  obtain ⟨inner, frames, stage⟩ := sound.stage
  have keeps := sound.keeps receiver
  have others := sound.keeps receiver.other
  have toward := frames.toward receiver
  rw [waits, framesTo_replace framed first] at toward
  obtain ⟨undivided, arrives⟩ := wraps_arrived toward
  obtain ⟨_, sameCut, joins⟩ := Packet.crosses identified undivided few ids source
  obtain rfl := Except.ok.inj (sameCut.symm.trans cut)
  obtain ⟨whole, fed, same⟩ := joins reassembler arrivals free order
  obtain rfl := Except.ok.inj (joined.symm.trans fed)
  have tagged : whole.payload.tag = .relayFrame := by
    rcases same with rfl | rfl <;> exact framed
  obtain ⟨ours, theirs⟩ := chat.node_handOver receiver (before ++ after) tagged source
  refine ⟨fun party => ?_, sound.distinct, inner, fun party => ?_, ?_⟩
  · rcases party.eq_or_eq_other receiver with rfl | rfl
    · rw [ours]
      exact ⟨keeps.standing, keeps.relays,
        ⟨keeps.settled.handshakePile, keeps.settled.messagePile⟩, keeps.whole⟩
    · rw [theirs]
      exact ⟨others.standing, others.relays,
        ⟨others.settled.handshakePile, others.settled.messagePile⟩, others.whole⟩
  · rcases party.eq_or_eq_other receiver with rfl | rfl
    · rw [underway, ours, theirs]
      exact frames party
    · rw [underway, Party.other_other, ours, theirs, List.map_append, List.append_assoc]
      exact arrives whole same
  · have calls (party : Party) : ((chat.handOver receiver (before ++ after) [whole] source).node
        party).calls = (chat.node party).calls := by
      rcases party.eq_or_eq_other receiver with rfl | rfl
      · rw [ours]
      · rw [theirs]
    have heard (party : Party) : heardBy (chat.told party) ((chat.handOver receiver
        (before ++ after) [whole] source).node party).channels = chat.view.heard party := by
      rcases party.eq_or_eq_other receiver with rfl | rfl
      · rw [ours]
        rfl
      · rw [theirs]
        rfl
    have met (party : Party) : metBy (chat.told party) ((chat.handOver receiver
        (before ++ after) [whole] source).node party).channels = chat.view.met party := by
      rcases party.eq_or_eq_other receiver with rfl | rfl
      · rw [ours]
        rfl
      · rw [theirs]
        rfl
    have seen : (chat.handOver receiver (before ++ after) [whole] source).view = chat.view :=
      view_congr rfl calls heard met
    rw [seen]
    exact stage

/-- An operation of the hash table leaves. -/
theorem Sound.depart (sound : chat.Sound pair) {party : Party}
    {before after : List (Packet × SocketAddr)} {packet : Packet} {dest : SocketAddr}
    (waits : (chat.node party).channels.outgoing = before ++ (packet, dest) :: after)
    (operation : packet.payload.tag = .dhtOperation) :
    Sound pair (chat.move party { chat.node party with
      channels := { (chat.node party).channels with outgoing := before ++ after } }) := by
  have keeps := sound.keeps party
  refine sound.same ⟨keeps.standing, keeps.relays,
    ⟨keeps.settled.handshakePile, keeps.settled.messagePile⟩, keeps.whole⟩
      (view_move_same chat party rfl rfl rfl) rfl ?_
  have gone : framesTo (pair.address party.other) [(packet, dest)] = [] :=
    framesTo_operations fun item member => List.mem_singleton.mp member ▸ operation
  rw [waits, framesTo_append, framesTo_append, ← List.singleton_append, framesTo_append, gone]
  rfl

/-- An operation of the hash table arrives. -/
theorem Sound.hear (sound : chat.Sound pair) {party : Party} {packet : Packet} {source : SocketAddr}
    (operation : packet.payload.tag = .dhtOperation)
    (whole : ¬ DhtOperation.LacksLength packet.payload.data) :
    Sound pair (chat.move party ((chat.node party).arrive packet source)) := by
  have keeps := sound.keeps party
  have arrived : (chat.node party).arrive packet source = { chat.node party with
      dhtPile := (chat.node party).dhtPile ++ [(packet, source)] } := by
    rw [Node.arrive, operation]
  rw [arrived]
  refine sound.same ⟨keeps.standing, keeps.relays,
    ⟨keeps.settled.handshakePile, keeps.settled.messagePile⟩, fun item member => ?_⟩
      (view_move_same chat party rfl rfl rfl) rfl rfl
  rcases List.mem_append.mp member with earlier | last
  · exact keeps.whole item earlier
  · rw [List.mem_singleton.mp last]
    exact whole

/-- A client asks what there is to be told. -/
theorem Sound.poll (sound : chat.Sound pair) (party : Party) :
    Sound pair (chat.polled party) := by
  obtain ⟨inner, frames, stage⟩ := sound.stage
  have keeps := sound.keeps party
  have polled : (chat.move party (chat.node party).poll.2).Frames pair inner := frames.same rfl rfl
  refine ⟨sound.keepsMoved ⟨keeps.standing, keeps.relays,
    ⟨keeps.settled.handshakePile, keeps.settled.messagePile⟩, keeps.whole⟩, sound.distinct, inner,
      polled, ?_⟩
  rw [view_poll]
  exact stage

/-- A tick takes the first frame that has arrived, and handles the packet in it. -/
theorem Sound.takes (commutes : crypto.DiffieHellmanCommutes) (opens : crypto.OpensSealed)
    (delivers : noise.DeliversUnaltered crypto) (varied : crypto.Varied) (sound : chat.Sound pair)
    {party : Party} {draws : TickDraws} (fresh : (chat.node party).calls.Draws draws)
    {outer : Packet} {source : SocketAddr} {relayPile : List PileItem}
    (pile : (chat.node party).relayPile = (outer, source) :: relayPile) :
    ∃ inner packet rest effects calls replies after,
      (chat.node party).tick draws = (.ok (), after) ∧
      (chat.node party).Ticks after relayPile effects calls ∧
      Stage.Handles pair chat.view inner party packet rest source draws effects calls replies ∧
      (chat.move party after).Frames pair
        (Function.update (Function.update inner party.other rest) party
          (inner party ++ replies)) := by
  obtain ⟨inner, frames, stage⟩ := sound.stage
  have keeps := sound.keeps party
  have toward := frames.toward party
  rw [pile, List.map_cons, List.cons_append] at toward
  obtain ⟨packet, rest, wraps, others, front⟩ := List.forall₂_cons_left_iff.mp toward
  obtain ⟨effects, calls, replies, handles⟩ := stage.handle commutes opens delivers varied
    keeps.standing front fresh (sound.distinct party.other) source
  obtain ⟨after, run, ticks⟩ := Node.tick_wraps keeps.settled
    (fun item member _ => keeps.whole item member) keeps.relays keeps.standing.masterPubkey pile
      wraps handles.tagged draws handles.handled
  refine ⟨inner, packet, rest, effects, calls, replies, after, run, ticks, handles,
    Frames.move ?_ ?_⟩
  · rw [Function.update_self, ticks.frames, ← List.append_assoc, handles.outgoing]
    exact List.rel_append (frames party) (framesTo_sendPacket _ _ _ replies)
  · rw [Function.update_of_ne party.other_ne, Function.update_self, ticks.relayPile]
    exact others

/-- A tick does not panic. -/
theorem Sound.tick (commutes : crypto.DiffieHellmanCommutes) (opens : crypto.OpensSealed)
    (delivers : noise.DeliversUnaltered crypto) (varied : crypto.Varied) (sound : chat.Sound pair)
    {party : Party} {draws : TickDraws} (fresh : (chat.node party).calls.Draws draws) :
    ((chat.node party).tick draws).1 = .ok () ∧
      Sound pair (chat.move party ((chat.node party).tick draws).2) := by
  have keeps := sound.keeps party
  cases pile : (chat.node party).relayPile with
  | nil =>
    obtain ⟨after, run, ticks⟩ := Node.tick_idle keeps.settled
      (fun item member _ => keeps.whole item member) pile draws
    rw [run]
    refine ⟨rfl, sound.same (ticks.keeps keeps (ticks.calls ▸ keeps.standing))
      (view_move_same chat party ticks.calls (ticks.messages.trans (List.append_nil _))
        (ticks.established.trans (List.append_nil _))) (ticks.relayPile.trans pile.symm) ?_⟩
    rw [ticks.frames]
    exact List.append_nil _
  | cons item relayPile =>
    obtain ⟨_, _, _, _, _, _, after, run, ticks, handles, frames⟩ :=
      sound.takes commutes opens delivers varied fresh pile
    rw [run]
    refine ⟨rfl, sound.keepsMoved (ticks.keeps keeps (ticks.calls ▸ handles.standing)),
      sound.distinct, _, frames, ?_⟩
    rw [view_move_hearing chat party ticks.messages ticks.established, ticks.calls]
    exact handles.stage

theorem sound_start (pair : Pair crypto) : Sound pair (start pair : Chat crypto noise) where
  keeps _ := ⟨⟨rfl, rfl, rfl, rfl⟩, rfl, ⟨rfl, rfl⟩, fun _ member => absurd member List.not_mem_nil⟩
  distinct _ := .nil
  stage := ⟨fun _ => [], fun _ => .nil, .apart (fun _ => ⟨rfl, rfl, rfl, rfl, rfl⟩) (fun _ => rfl)
    (fun _ => rfl) (fun _ => rfl) fun _ => rfl⟩

theorem Step.keepsSound (commutes : crypto.DiffieHellmanCommutes) (opens : crypto.OpensSealed)
    (delivers : noise.DeliversUnaltered crypto) (varied : crypto.Varied)
    {before after : Chat crypto noise} (sound : Sound pair before) (step : Step pair before after) :
    Sound pair after := by
  cases step with
  | contact record tag draws first alone listed placed =>
    exact sound.contact commutes delivers varied first alone listed placed
  | say speaker note nonce draws sent fresh => exact sound.say commutes opens varied sent fresh
  | arrive receiver before after outer source waits framed first identified few ids fragments cut
      reassembler free arrivals order arrived joined =>
    exact sound.arrive waits framed first identified few cut free order joined
  | depart party before after packet dest waits operation => exact sound.depart waits operation
  | hear party packet source operation whole => exact sound.hear operation whole
  | tick party draws fresh => exact (sound.tick commutes opens delivers varied fresh).2
  | poll party => exact sound.poll party

theorem run_sound (commutes : crypto.DiffieHellmanCommutes) (opens : crypto.OpensSealed)
    (delivers : noise.DeliversUnaltered crypto) (varied : crypto.Varied)
    (run : Relation.ReflTransGen (Step pair) (start pair) chat) : Sound pair chat :=
  Run.preserves (fun _ _ sound step => step.keepsSound commutes opens delivers varied sound)
    (sound_start pair) run

end Steps

/-! ### What the two are told -/

/-- What a client is told comes from the other one, in the order in which it was said and no note
twice. Both are told of at most one session, with the same safety number, and no tick panics. -/
theorem told_as_said (commutes : crypto.DiffieHellmanCommutes) (opens : crypto.OpensSealed)
    (delivers : noise.DeliversUnaltered crypto) (varied : crypto.Varied) (pair : Pair crypto)
    {chat : Chat crypto noise} (run : Relation.ReflTransGen (Step pair) (start pair) chat) :
    (∀ party, (chat.told party).filterMap received <+:
        (chat.said party.other).map (report (pair.masterPk party.other))) ∧
      (∃ number, ∀ party,
        (chat.told party).filterMap greeted <+: [(pair.masterPk party.other, number)]) ∧
      ∀ party draws, (chat.node party).calls.Draws draws →
        ((chat.node party).tick draws).1 = .ok () := by
  have sound := run_sound commutes opens delivers varied run
  obtain ⟨inner, _, stage⟩ := sound.stage
  obtain ⟨number, met⟩ := stage.met_prefix
  refine ⟨fun party => (List.prefix_append _ _).trans (stage.heard_prefix party),
    ⟨number, fun party => (List.prefix_append _ _).trans (met party)⟩, fun party draws fresh => ?_⟩
  exact (sound.tick commutes opens delivers varied fresh).1

end Chat

/-- The devices of the sample meeting, each on a client of its own. -/
def samplePair : Pair sampleSuite where
  toMeeting := sampleMeeting
  responderAddr := .v4 (Octets.zero 4) 9001
  nodeId _ := ⟨Octets.zero 32⟩
  registry _ := .new

/-- What the initiator finds when it looks the other user up. -/
def sampleRecord : ContactRecord sampleSuite where
  deviceList := ⟨1, [samplePair.responderCert], Octets.zero 64⟩
  relayAddr := samplePair.responderAddr
  relayId := 3
  deviceSignature := Octets.zero 64

namespace Chat

def sampleTick (seed : Nat) : TickDraws where
  servedAt _ := 0
  listedAt _ _ := 0
  responseIds _ := 4
  evictedAt := 0
  handshake := ⟨sampleDraws seed (seed + 1), 6, 7⟩
  env := { sampleReceiving with freshSecret := SampleSuite.octets 32 (seed + 2) }
  now := 0

/-- A message, whose number is that of its key too. -/
def sampleSay (speaker : Party) (number : Nat) (content : String) : Move sampleSuite :=
  .say speaker ⟨⟨number, content, 0, none⟩, SampleSuite.octets 32 number⟩
    (SampleSuite.octets 12 1) ⟨SampleSuite.octets 12 2, 6, 7⟩

/-- The initiator calls. The responder answers and says something at once; the initiator says
something before it has heard that, and then each hears the other. -/
def sampleGreetings : List (Move sampleSuite) :=
  [.contact sampleRecord (Octets.zero 16) ⟨sampleDraws 1 2, 4, 5⟩, .arrive .responder,
    .tick .responder (sampleTick 20), sampleSay .responder 100 "hi", .arrive .initiator,
    .tick .initiator (sampleTick 30), sampleSay .initiator 101 "hello", .arrive .initiator,
    .tick .initiator (sampleTick 40), .arrive .responder, .tick .responder (sampleTick 50),
    .poll .initiator, .poll .responder]

/-- Each says one more thing, which the other one does not hear yet. -/
def sampleFarewells : List (Move sampleSuite) :=
  [sampleSay .initiator 102 "bye", sampleSay .responder 103 "bye too"]

/-- The two clients after some moves. -/
def sampleAfter (moves : List (Move sampleSuite)) : Option (Chat sampleSuite SampleSuite.noise) :=
  moves.foldlM (perform samplePair) (start samplePair)

theorem run_of_sampleAfter {moves : List (Move sampleSuite)}
    {chat : Chat sampleSuite SampleSuite.noise} (came : sampleAfter moves = some chat) :
    Relation.ReflTransGen (Step samplePair) (start samplePair) chat :=
  Run.of_foldlM (fun _ _ _ _ => step_of_perform) came

/-- What each client was told, the responder second. -/
def ToldEach (chat : Chat sampleSuite SampleSuite.noise) (initiator responder : List String) :
    Prop :=
  (chat.told .initiator).filterMap received =
      initiator.map (fun content => (samplePair.masterPk .responder, content)) ∧
    (chat.told .responder).filterMap received =
      responder.map (fun content => (samplePair.masterPk .initiator, content))

instance (chat : Chat sampleSuite SampleSuite.noise) (initiator responder : List String) :
    Decidable (chat.ToldEach initiator responder) :=
  inferInstanceAs (Decidable (_ ∧ _))

theorem sampleAfter_told : (sampleAfter (sampleGreetings ++ sampleFarewells)).any
    (fun chat => chat.ToldEach ["hi"] ["hello"] ∧
      ∀ party ∈ [Party.initiator, .responder], (chat.told party).filterMap greeted ≠ []) = true := by
  decide +kernel

end Chat

theorem sampleChat_told_as_said : ∃ chat : Chat sampleSuite SampleSuite.noise,
    Chat.sampleAfter (Chat.sampleGreetings ++ Chat.sampleFarewells) = some chat ∧
      chat.ToldEach ["hi"] ["hello"] ∧
        (∀ party, (chat.told party).filterMap Chat.received <+:
          (chat.said party.other).map (Chat.report (samplePair.masterPk party.other))) ∧
            (∃ number, ∀ party, (chat.told party).filterMap Chat.greeted =
              [(samplePair.masterPk party.other, number)]) ∧
                ∀ party draws, (chat.node party).calls.Draws draws →
                  ((chat.node party).tick draws).1 = .ok () := by
  obtain ⟨chat, came, checked⟩ := (Option.any_eq_true _ _).mp Chat.sampleAfter_told
  obtain ⟨told, greeted⟩ := of_decide_eq_true checked
  obtain ⟨heard, ⟨number, met⟩, ticks⟩ := Chat.told_as_said SampleSuite.diffieHellmanCommutes
    SampleSuite.opensSealed SampleSuite.noise_deliversUnaltered SampleSuite.varied samplePair
      (Chat.run_of_sampleAfter came)
  refine ⟨chat, came, told, heard, ⟨number, fun party => ?_⟩, ticks⟩
  have some : (chat.told party).filterMap Chat.greeted ≠ [] :=
    greeted party party.mem_both
  exact (met party).eq_of_length_le (List.length_pos_iff.mpr some)

end Insub
