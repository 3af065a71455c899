/-
This file models one packet on its way from one transport to another: `send` on the sender's
side, which hands over one datagram after the other and enters each as pending only when it
has left, the receive loops of both sides, and the application of the receiver, which
confirms what it was handed with an acknowledgement. The network may lose, repeat and reorder
datagrams.

A confirmed packet leaves nothing pending if it is sent as one datagram, and its
acknowledgement does not arrive before the datagram is entered. A packet of several
datagrams goes out under other ids than the one that is confirmed.
-/

import Mathlib
import Insub.Library.Run
import Insub.Transport.Acknowledgement
import Insub.Transport.Split

namespace Insub

open Rust

namespace Packet

/-- The packet with the flag that asks for an acknowledgement, as `send` sets it. -/
def requireAck (packet : Packet) : Packet :=
  { packet with header := { packet.header with
      flags := { flags := packet.header.flags.flags ||| flagToInt .ackRequired } } }

/-- What `confirm` sends for a packet. -/
def ackFor {crypto : Primitives} (key : SigningKey crypto) (id : U128) : Packet :=
  Packet.new (flagToInt .ack) id (Payload.new .keepAlive
    (key.verifyingKey.bytes.toList ++ (key.sign (beBytes 16 id).toList).toList))

/-- The packet as the receiver's transport hands it over: with the flag that `send` has set,
unless it was cut and put together again. -/
def delivered (packet : Packet) : (fragments : List Packet) → Packet
  | [_] => packet.requireAck
  | _ => packet

theorem contains_requireAck (packet : Packet) :
    packet.requireAck.header.flags.contains .ackRequired = true := by
  have absorbed (flags flag : U32) : (flags ||| flag) &&& flag = flag := by
    ext index
    rw [BitVec.getElem_and, BitVec.getElem_or]
    cases flag[index] <;> simp
  rw [PacketFlags.contains, requireAck, decide_eq_true_iff]
  dsimp only
  rw [absorbed]
  decide

/-- A packet goes out under its own id, and asks for an acknowledgement when it is handed over, if
and only if it fits one datagram. The ids of fragments are drawn, and not that of the packet. -/
theorem fits_iff_carriesId {packet : Packet} (few : packet.serialize.length ≤ 255 * maxChunk)
    {ids : Nat → U128} (drawn : ids 0 ≠ packet.header.id) {fragments : List Packet}
    (run : packet.split ids = .ok fragments) :
    packet.serialize.length ≤ maxChunk ↔
      (∀ fragment ∈ fragments, fragment.header.id = packet.header.id) ∧
        (packet.delivered fragments).header.flags.contains .ackRequired = true := by
  constructor
  · intro small
    rw [split_small small] at run
    rw [← Except.ok.inj run]
    refine ⟨fun fragment member => ?_, packet.contains_requireAck⟩
    rw [List.mem_singleton.mp member]
  · rintro ⟨named, _⟩
    by_contra large
    have some_fragment := split_ne_nil run
    rw [split_large few (not_le.mp large)] at run
    rw [← Except.ok.inj run] at named some_fragment
    rcases cut : chunks maxChunk packet.serialize with _ | ⟨chunk, rest⟩
    · rw [cut] at some_fragment
      exact some_fragment rfl
    · rw [cut] at named
      exact drawn (named _ List.mem_cons_self)

end Packet

/-- The two ends of an exchange, and the key the receiver signs with, if it has one. -/
structure Route (crypto : Primitives) where
  source : SocketAddr
  destination : SocketAddr
  signingKey : Option (SigningKey crypto)

/-- The sender in the middle of `send`, the receiver, and what has happened between them. -/
structure Exchange (crypto : Primitives) where
  sender : ReliableTransport crypto
  receiver : ReliableTransport crypto
  /-- The fragments that are still to be sent. -/
  remaining : List Packet
  /-- The datagram that has left and is not entered as pending yet. -/
  leaving : Option Packet
  /-- Every datagram that has left for the receiver. -/
  sent : List Bytes
  /-- Every packet that the receiver's application was handed. -/
  handed : List Packet
  /-- The ids the application has confirmed. -/
  confirmed : List U128
  /-- The ids whose acknowledgement the sender's loop has processed. -/
  processed : List U128

namespace Exchange

variable {crypto : Primitives}

/-- The exchange as `send` starts, on any two transports. -/
def start (sender receiver : ReliableTransport crypto) (fragments : List Packet) :
    Exchange crypto where
  sender := sender
  receiver := receiver
  remaining := fragments
  leaving := none
  sent := []
  handed := []
  confirmed := []
  processed := []

inductive Event
  /-- `send` hands the next datagram to the socket. -/
  | transmit
  /-- `send` enters it as pending. -/
  | register (now : Instant)
  /-- A datagram reaches the receiver. -/
  | arrive (datagram : Bytes) (now : Instant)
      (order : IterationOrder (Sigma fun _ : U128 => Instant))
  /-- The application confirms a packet. -/
  | confirm (packet : Packet)
  /-- An acknowledgement reaches the sender. -/
  | acknowledge (id : U128) (now : Instant)
      (order : IterationOrder (Sigma fun _ : U128 => Instant))
  /-- No datagram comes to the sender for a while, and it sends again what is pending. That has
  all left before. -/
  | idle (now : Instant)
  /-- No datagram comes to the receiver for a while. -/
  | rest (now : Instant)

/-- What an event leads to, if it can happen. -/
def perform (route : Route crypto) (exchange : Exchange crypto) : Event → Option (Exchange crypto)
  | .transmit =>
    match exchange.remaining, exchange.leaving with
    | fragment :: remaining, none =>
      some { exchange with
        remaining
        leaving := some fragment.requireAck
        sent := fragment.requireAck.serialize :: exchange.sent }
    | _, _ => none
  | .register now =>
    match exchange.leaving with
    | some datagram =>
      let entry : Pending :=
        { serialized := datagram.serialize, dest := route.destination, retries := 0, lastSent := now }
      some { exchange with
        leaving := none
        sender := { exchange.sender with
          pending := exchange.sender.pending.insert datagram.header.id entry } }
    | none => none
  | .arrive datagram now order =>
    if datagram ∈ exchange.sent then
      match exchange.receiver.receive datagram route.source now order with
      | (.ok forwarded, receiver) =>
        some { exchange with receiver, handed := exchange.handed ++ forwarded.toList.map Prod.fst }
      | (.error _, _) => none
    else none
  | .confirm packet =>
    if packet ∈ exchange.handed ∧ packet.header.flags.contains .ackRequired then
      some { exchange with confirmed := packet.header.id :: exchange.confirmed }
    else none
  | .acknowledge id now order =>
    match route.signingKey with
    | some key =>
      if id ∈ exchange.confirmed then
        match exchange.sender.receive (Packet.ackFor key id).serialize route.destination now order with
        | (.ok _, sender) => some { exchange with sender, processed := id :: exchange.processed }
        | (.error _, _) => none
      else none
    -- without a key, `confirm` sends nothing
    | none => none
  | .idle now => some { exchange with sender := exchange.sender.idle now }
  | .rest now => some { exchange with receiver := exchange.receiver.idle now }

/-- Once the packet was handed over, was confirmed if it asks for that, and its acknowledgement
was processed if there is one, none of its datagrams is pending. -/
def Settled (route : Route crypto) (packet : Packet) (fragments : List Packet)
    (exchange : Exchange crypto) : Prop :=
  packet.delivered fragments ∈ exchange.handed →
    ((packet.delivered fragments).header.flags.contains .ackRequired = true →
      packet.header.id ∈ exchange.confirmed) →
    (route.signingKey.isSome = true → packet.header.id ∈ exchange.confirmed →
      packet.header.id ∈ exchange.processed) →
    ∀ fragment ∈ fragments, exchange.sender.pending.lookup fragment.header.id = none

/-- One event, whatever it is. -/
def Step (route : Route crypto) (before after : Exchange crypto) : Prop :=
  ∃ event, before.perform route event = some after

/-- The exchange after a sequence of events, if they can happen. -/
def run (route : Route crypto) : Exchange crypto → List Event → Option (Exchange crypto)
  | exchange, [] => some exchange
  | exchange, event :: rest => (exchange.perform route event).bind fun next => next.run route rest

/-- An acknowledgement of the packet arrives when `send` has entered all of its datagrams, and
the key that is pinned for the receiver, if there is one, is the receiver's. -/
def Timely (route : Route crypto) (packet : Packet) (exchange : Exchange crypto) : Event → Prop
  | .acknowledge id _ _ =>
    id = packet.header.id → exchange.remaining = [] ∧ exchange.leaving = none ∧
      ∀ key pinned, route.signingKey = some key →
        exchange.sender.peerKeys.lookup route.destination = some pinned →
          pinned = key.verifyingKey
  | _ => True

def TimelyStep (route : Route crypto) (packet : Packet) (before after : Exchange crypto) : Prop :=
  ∃ event, before.Timely route packet event ∧ before.perform route event = some after

end Exchange

/-! ### What the sender's loop does to the pending table -/

namespace ReliableTransport

variable {crypto : Primitives}

theorem lookup_pending_dispatch (transport : ReliableTransport crypto) {packet : Packet}
    {sender : SocketAddr} {now : Instant} {order : IterationOrder (Sigma fun _ : U128 => Instant)}
    {id : U128} {entry : Pending}
    (held : (transport.dispatch packet sender now order).2.pending.lookup id = some entry) :
    transport.pending.lookup id = some entry := by
  by_cases isAck : packet.header.flags.contains .ack = true
  · rw [dispatch, if_pos isAck] at held
    rcases run : verifyAck packet transport.pending transport.peerKeys sender with
      ⟨fault | accepted, peerKeys⟩
    · rw [run] at held
      exact held
    · rw [run] at held
      cases accepted with
      | false => exact held
      | true =>
        have different : id ≠ packet.header.id := by
          rintro rfl
          have gone := AList.lookup_erase packet.header.id transport.pending
          rw [show (transport.pending.erase packet.header.id).lookup packet.header.id = some entry
            from held] at gone
          cases gone
        rw [← AList.lookup_erase_ne different]
        exact held
  · rw [(dispatch_not_ack transport isAck sender now order).1] at held
    exact held

/-- No datagram adds an entry or changes one. -/
theorem lookup_pending_receive {transport : ReliableTransport crypto} {datagram : Bytes}
    {sender : SocketAddr} {now : Instant} {order : IterationOrder (Sigma fun _ : U128 => Instant)}
    {id : U128} {entry : Pending}
    (held : (transport.receive datagram sender now order).2.pending.lookup id = some entry) :
    transport.pending.lookup id = some entry := by
  have receives := transport.receive_receives datagram sender now order
  generalize transport.receive datagram sender now order = result at receives held
  cases receives with
  | garbled => exact held
  | beyond => exact held
  | incomplete => exact held
  | @whole _ reassembler => exact lookup_pending_dispatch { transport with reassembler } held

theorem lookup_pending_receive_none {transport : ReliableTransport crypto} {id : U128}
    (gone : transport.pending.lookup id = none) (datagram : Bytes) (sender : SocketAddr)
    (now : Instant) (order : IterationOrder (Sigma fun _ : U128 => Instant)) :
    (transport.receive datagram sender now order).2.pending.lookup id = none := by
  cases after : (transport.receive datagram sender now order).2.pending.lookup id with
  | none => rfl
  | some entry =>
    rw [lookup_pending_receive after] at gone
    cases gone

/-- Waiting sends entries again and gives them up, and leaves their destination. -/
theorem lookup_pending_idle {transport : ReliableTransport crypto} {now : Instant} {id : U128}
    {entry : Pending} (held : (transport.idle now).pending.lookup id = some entry) :
    ∃ before, transport.pending.lookup id = some before ∧ before.dest = entry.dest := by
  rw [idle, HashMap.lookup_retainMut, Option.bind_eq_some_iff] at held
  obtain ⟨before, found, kept⟩ := held
  refine ⟨before, found, ?_⟩
  rw [retransmit] at kept
  split at kept
  · cases kept
  · split at kept <;> rw [← Option.some.inj kept]

/-- The acknowledgement that a key's owner sends is an answer to whatever is pending for
it. -/
theorem answers_ackFor (key : SigningKey crypto) {pending : HashMap U128 Pending} {id : U128}
    {entry : Pending} {sender : SocketAddr} (held : pending.lookup id = some entry)
    (dest : entry.dest = sender) :
    Answers crypto (Packet.ackFor key id) pending sender key.verifyingKey
      (key.sign (beBytes 16 id).toList) where
  awaited := ⟨entry, held, dest⟩
  key := by
    refine ⟨key.verifyingKey.bytes, ?_, key.verifyingKey.fromBytes_bytes⟩
    have front : ([] : Bytes).length = 0 := rfl
    exact slice_append front
  signature := by
    have place : key.verifyingKey.bytes.toList.length = 32 := List.Vector.toList_length _
    have read : slice 32 64 (key.verifyingKey.bytes.toList ++
        ((key.sign (beBytes 16 id).toList).toList ++ [])) = .ok _ := slice_append place
    rw [List.append_nil] at read
    exact read

/-- It takes that entry off, unless another key is pinned for its sender. -/
theorem receive_ackFor (transport : ReliableTransport crypto) {key : SigningKey crypto}
    (signs : key.SignsVerifiably) {id : U128} {sender : SocketAddr}
    (addressed : ∀ entry, transport.pending.lookup id = some entry → entry.dest = sender)
    (pinned : ∀ pinned, transport.peerKeys.lookup sender = some pinned →
      pinned = key.verifyingKey)
    (now : Instant) (order : IterationOrder (Sigma fun _ : U128 => Instant)) :
    (transport.receive (Packet.ackFor key id).serialize sender now order).2.pending.lookup id =
      none := by
  cases held : transport.pending.lookup id with
  | none => exact lookup_pending_receive_none held _ sender now order
  | some entry =>
    have brings : transport.Brings (Packet.ackFor key id).serialize sender (Packet.ackFor key id) :=
      ⟨_, Packet.fromSerialized_serialize _, fun fragment => absurd rfl fragment, rfl⟩
    obtain ⟨reassembler, received⟩ := receive_of_brings brings now order
    have isAck : (Packet.ackFor key id).header.flags.contains .ack = true := by
      show PacketFlags.contains { flags := flagToInt .ack } .ack = true
      decide
    have answers := answers_ackFor key held (addressed entry held)
    have erased : (transport.pending.erase id).lookup id = none := AList.lookup_erase id _
    rw [received, dispatch_answers { transport with reassembler } isAck answers]
    dsimp only
    cases known : transport.peerKeys.lookup sender with
    | none => exact erased
    | some other =>
      dsimp only
      rw [pinned other known, show (Packet.ackFor key id).header.id = id from rfl, if_pos (signs _)]
      exact erased

end ReliableTransport

namespace Exchange

variable {crypto : Primitives} {route : Route crypto} {packet : Packet}

/-! ### The invariant of a timely exchange -/

/-- Every datagram has the packet's id, it is entered for the receiver, and once an
acknowledgement was processed, nothing of it is left. -/
structure Tracked (route : Route crypto) (packet : Packet) (exchange : Exchange crypto) : Prop where
  remaining : ∀ fragment ∈ exchange.remaining, fragment.header.id = packet.header.id
  leaving : ∀ datagram, exchange.leaving = some datagram → datagram.header.id = packet.header.id
  addressed : exchange.remaining = [] → exchange.leaving = none → ∀ entry,
    exchange.sender.pending.lookup packet.header.id = some entry → entry.dest = route.destination
  cleared : packet.header.id ∈ exchange.processed → exchange.remaining = [] ∧
    exchange.leaving = none ∧ exchange.sender.pending.lookup packet.header.id = none

theorem Tracked.transmit {before after : Exchange crypto} (tracked : before.Tracked route packet)
    (run : before.perform route .transmit = some after) : after.Tracked route packet := by
  obtain ⟨remaining, leaving, addressed, cleared⟩ := tracked
  rw [Exchange.perform] at run
  split at run
  · rename_i fragment rest waiting free
    rw [← Option.some.inj run]
    refine ⟨fun other member => ?_, fun datagram same => ?_, fun _ gone => ?_, fun member => ?_⟩
    · exact remaining other (waiting ▸ List.mem_cons_of_mem _ member)
    · rw [← Option.some.inj same]
      exact remaining fragment (waiting ▸ List.mem_cons_self)
    · cases gone
    · rw [waiting] at cleared
      cases (cleared member).1
  · cases run

theorem Tracked.register {before after : Exchange crypto} (tracked : before.Tracked route packet)
    {now : Instant} (run : before.perform route (.register now) = some after) :
    after.Tracked route packet := by
  obtain ⟨remaining, leaving, addressed, cleared⟩ := tracked
  rw [Exchange.perform] at run
  cases left : before.leaving with
  | none =>
    rw [left] at run
    cases run
  | some datagram =>
    rw [left] at run
    rw [← Option.some.inj run]
    have named := leaving datagram left
    refine ⟨remaining, fun other same => ?_, fun _ _ entry found => ?_, fun member => ?_⟩
    · cases same
    · dsimp only at found
      rw [named, AList.lookup_insert] at found
      rw [← Option.some.inj found]
    · rw [left] at cleared
      cases (cleared member).2.1

/-- An event outside of `send` enters nothing, and takes the packet off if it acknowledges it. -/
theorem Tracked.outside {before after : Exchange crypto} (tracked : before.Tracked route packet)
    (remaining : after.remaining = before.remaining) (leaving : after.leaving = before.leaving)
    (shrinks : ∀ entry, after.sender.pending.lookup packet.header.id = some entry →
      ∃ earlier, before.sender.pending.lookup packet.header.id = some earlier ∧
        earlier.dest = entry.dest)
    (acknowledged : packet.header.id ∈ after.processed →
      packet.header.id ∈ before.processed ∨ before.remaining = [] ∧ before.leaving = none ∧
        after.sender.pending.lookup packet.header.id = none) :
    after.Tracked route packet := by
  refine ⟨remaining ▸ tracked.remaining, leaving ▸ tracked.leaving, fun none done entry found => ?_,
    fun member => ?_⟩
  · obtain ⟨earlier, held, dest⟩ := shrinks entry found
    rw [← dest]
    exact tracked.addressed (remaining ▸ none) (leaving ▸ done) earlier held
  · rw [remaining, leaving]
    refine (acknowledged member).elim (fun before => ?_) id
    obtain ⟨none, done, gone⟩ := tracked.cleared before
    refine ⟨none, done, Option.eq_none_iff_forall_ne_some.mpr fun entry found => ?_⟩
    obtain ⟨earlier, held, _⟩ := shrinks entry found
    rw [gone] at held
    cases held

theorem Tracked.acknowledge {key : SigningKey crypto} (signs : key.SignsVerifiably)
    (signing : route.signingKey = some key) {before after : Exchange crypto}
    (tracked : before.Tracked route packet) {id : U128} {now : Instant}
    {order : IterationOrder (Sigma fun _ : U128 => Instant)}
    (timely : before.Timely route packet (.acknowledge id now order))
    (run : before.perform route (.acknowledge id now order) = some after) :
    after.Tracked route packet := by
  rw [Exchange.perform, signing] at run
  dsimp only at run
  split at run
  · rcases received : before.sender.receive (Packet.ackFor key id).serialize route.destination now
      order with ⟨fault | forwarded, sender⟩
    · rw [received] at run
      cases run
    · rw [received] at run
      rw [← Option.some.inj run]
      obtain rfl := congrArg Prod.snd received
      refine tracked.outside rfl rfl (fun entry found => ?_) fun member => ?_
      · exact ⟨entry, ReliableTransport.lookup_pending_receive found, rfl⟩
      · by_cases same : id = packet.header.id
        · obtain ⟨none, done, pinned⟩ := timely same
          refine Or.inr ⟨none, done, ?_⟩
          rw [← same]
          exact before.sender.receive_ackFor signs (same ▸ tracked.addressed none done)
            (fun other known => pinned key other signing known) now order
        · exact Or.inl ((List.mem_cons.mp member).resolve_left (Ne.symm same))
  · cases run

theorem Tracked.perform {key : SigningKey crypto} (signs : key.SignsVerifiably)
    (signing : route.signingKey = some key) {before after : Exchange crypto}
    (tracked : before.Tracked route packet) {event : Event}
    (timely : before.Timely route packet event) (run : before.perform route event = some after) :
    after.Tracked route packet := by
  cases event with
  | transmit => exact tracked.transmit run
  | register now => exact tracked.register run
  | arrive datagram now order =>
    rw [Exchange.perform] at run
    split at run
    · rcases received : before.receiver.receive datagram route.source now order with
        ⟨fault | forwarded, receiver⟩
      · rw [received] at run
        cases run
      · rw [received] at run
        rw [← Option.some.inj run]
        exact tracked.outside rfl rfl (fun entry found => ⟨entry, found, rfl⟩) Or.inl
    · cases run
  | confirm handed =>
    rw [Exchange.perform] at run
    split at run
    · rw [← Option.some.inj run]
      exact tracked.outside rfl rfl (fun entry found => ⟨entry, found, rfl⟩) Or.inl
    · cases run
  | acknowledge id now order => exact tracked.acknowledge signs signing timely run
  | idle now =>
    rw [Exchange.perform] at run
    rw [← Option.some.inj run]
    exact tracked.outside rfl rfl (fun _ found => ReliableTransport.lookup_pending_idle found)
      Or.inl
  | rest now =>
    rw [Exchange.perform] at run
    rw [← Option.some.inj run]
    exact tracked.outside rfl rfl (fun entry found => ⟨entry, found, rfl⟩) Or.inl

/-- In every timely run of an exchange, a packet whose datagrams all have its own id and whose
delivery asks for an acknowledgement leaves nothing pending once it was confirmed. -/
theorem settled_of_timely {route : Route crypto} {key : SigningKey crypto}
    (signs : key.SignsVerifiably) (signing : route.signingKey = some key) {packet : Packet}
    {ids : Nat → U128} {fragments : List Packet} (split : packet.split ids = .ok fragments)
    (named : ∀ fragment ∈ fragments, fragment.header.id = packet.header.id)
    (asks : (packet.delivered fragments).header.flags.contains .ackRequired = true)
    {sender receiver : ReliableTransport crypto} {last : Exchange crypto}
    (run : Relation.ReflTransGen (TimelyStep route packet) (start sender receiver fragments) last) :
    last.Settled route packet fragments := by
  have first : (start sender receiver fragments).Tracked route packet := by
    refine ⟨named, fun datagram left => ?_, fun none => ?_, fun member => ?_⟩
    · cases left
    · exact absurd none (Packet.split_ne_nil split)
    · cases member
  have tracked : last.Tracked route packet := by
    refine Run.preserves ?_ first run
    rintro before after holds ⟨event, timely, performed⟩
    exact holds.perform signs signing timely performed
  intro _ confirms acknowledges fragment member
  have confirmed := confirms asks
  rw [named fragment member]
  exact (tracked.cleared (acknowledges (by rw [signing]; rfl) confirmed)).2.2

/-! ### A packet of two datagrams -/

theorem TimelyStep.step {before after : Exchange crypto} (timely : TimelyStep route packet before after) :
    Step route before after := by
  obtain ⟨event, _, performed⟩ := timely
  exact ⟨event, performed⟩

/-- Events that are no acknowledgement are timely. -/
theorem steps_of_run {events : List Event} {first last : Exchange crypto}
    (ran : first.run route events = some last)
    (unacknowledged : ∀ event ∈ events, ∀ exchange : Exchange crypto,
      exchange.Timely route packet event) :
    Relation.ReflTransGen (TimelyStep route packet) first last := by
  induction events generalizing first with
  | nil =>
    rw [← Option.some.inj ran]
  | cons event rest inductionHypothesis =>
    obtain ⟨next, performed, ran⟩ := Option.bind_eq_some_iff.mp ran
    have later := inductionHypothesis ran fun other member =>
      unacknowledged other (List.mem_cons_of_mem _ member)
    exact later.head ⟨event, unacknowledged event List.mem_cons_self first, performed⟩

def sampleSigningKey : SigningKey sampleSuite where
  verifyingKey := SampleSuite.verifyingKey (SampleSuite.octets 32 3)
  sign message := SampleSuite.sign (SampleSuite.octets 32 3) message

theorem sampleSigningKey_signs : sampleSigningKey.SignsVerifiably := by
  intro message
  exact decide_eq_true rfl

def sampleRoute : Route sampleSuite where
  source := .v4 (Octets.zero 4) 9001
  destination := .v4 (Octets.zero 4) 9002
  signingKey := some sampleSigningKey

/-- A packet with that many bytes of data. -/
def samplePacket (size : Nat) : Packet :=
  Packet.new 0 7 (Payload.new .message (List.replicate size 0))

def sampleIds (index : Nat) : U128 := BitVec.ofNat 128 (100 + index)

def sampleFragments (size : Nat) : List Packet := ((samplePacket size).split sampleIds).toOption.getD []

def sampleStart (size : Nat) : Exchange sampleSuite :=
  start (.new ∅) (.new ∅) (sampleFragments size)

/-- All datagrams leave, are entered and arrive, each once and in order. -/
def sampleDelivery (size : Nat) : List Event :=
  ((sampleFragments size).flatMap fun _ => [.transmit, .register 0]) ++
    (sampleFragments size).map fun fragment => .arrive fragment.requireAck.serialize 0 default

theorem sampleDelivery_timely (size : Nat) : ∀ event ∈ sampleDelivery size,
    ∀ exchange : Exchange sampleSuite, exchange.Timely sampleRoute (samplePacket size) event := by
  intro event member exchange
  rcases List.mem_append.mp member with sent | arrives
  · obtain ⟨_, _, either⟩ := List.mem_flatMap.mp sent
    rcases List.mem_cons.mp either with rfl | last
    · trivial
    · rw [List.mem_singleton.mp last]
      exact True.intro
  · obtain ⟨_, _, rfl⟩ := List.mem_map.mp arrives
    trivial

/-- A packet of two datagrams asks for no acknowledgement when it is put together again, and
both datagrams stay pending. -/
theorem cut_packet_stays_pending : ∃ (route : Route sampleSuite) (key : SigningKey sampleSuite)
    (sender receiver : ReliableTransport sampleSuite) (packet : Packet) (ids : Nat → U128)
    (fragments : List Packet) (last : Exchange sampleSuite),
    key.SignsVerifiably ∧ route.signingKey = some key ∧ packet.split ids = .ok fragments ∧
      fragments.length = 2 ∧
        Relation.ReflTransGen (Step route) (start sender receiver fragments) last ∧
          ¬ last.Settled route packet fragments := by
  have ends : ((sampleStart 1200).run sampleRoute (sampleDelivery 1200)).any (fun last =>
      last.handed = [samplePacket 1200] ∧ last.confirmed = [] ∧
        (sampleFragments 1200).all fun fragment =>
          (last.sender.pending.lookup fragment.header.id).isSome) = true := by
    decide +kernel
  have split : (samplePacket 1200).split sampleIds = .ok (sampleFragments 1200) ∧
      (sampleFragments 1200).length = 2 ∧
        (samplePacket 1200).delivered (sampleFragments 1200) = samplePacket 1200 := by
    decide +kernel
  rcases ran : (sampleStart 1200).run sampleRoute (sampleDelivery 1200) with _ | last
  · rw [ran] at ends
    cases ends
  rw [ran, Option.any_some, decide_eq_true_iff] at ends
  obtain ⟨handed, confirmed, pending⟩ := ends
  have steps := Relation.ReflTransGen.mono (fun _ _ => TimelyStep.step) _ _
    (steps_of_run ran (sampleDelivery_timely 1200))
  refine ⟨sampleRoute, sampleSigningKey, .new ∅, .new ∅, samplePacket 1200, sampleIds,
    sampleFragments 1200, last, sampleSigningKey_signs, rfl, split.1, split.2.1, steps, ?_⟩
  intro settled
  rw [Settled, split.2.2, handed, confirmed] at settled
  have cleared := settled List.mem_cons_self (fun asks => absurd asks (by decide))
    fun _ none => absurd none List.not_mem_nil
  obtain ⟨fragment, member⟩ := List.exists_mem_of_length_pos (by rw [split.2.1]; decide :
    0 < (sampleFragments 1200).length)
  have held := List.all_eq_true.mp pending fragment member
  rw [cleared fragment member] at held
  cases held

/-- A packet of one datagram is settled once its acknowledgement was processed. -/
theorem whole_packet_settled : ∃ last : Exchange sampleSuite,
    Relation.ReflTransGen (TimelyStep sampleRoute (samplePacket 12)) (sampleStart 12) last ∧
      (samplePacket 12).header.id ∈ last.processed ∧
        last.Settled sampleRoute (samplePacket 12) (sampleFragments 12) := by
  have ends : ((sampleStart 12).run sampleRoute (sampleDelivery 12 ++
      [.confirm (samplePacket 12).requireAck])).any (fun last =>
        last.remaining = [] ∧ last.leaving = none ∧ last.confirmed = [7] ∧
          last.sender.peerKeys.lookup sampleRoute.destination = none ∧
            (last.perform sampleRoute (.acknowledge 7 0 default)).any fun last =>
              last.processed = [7]) = true := by
    decide +kernel
  have small : (samplePacket 12).split sampleIds = .ok (sampleFragments 12) ∧
      (samplePacket 12).serialize.length ≤ maxChunk := by
    decide +kernel
  have drawn : sampleIds 0 ≠ (samplePacket 12).header.id := by decide
  obtain ⟨named, asks⟩ := (Packet.fits_iff_carriesId (small.2.trans (by decide)) drawn small.1).mp
    small.2
  rcases ran : (sampleStart 12).run sampleRoute (sampleDelivery 12 ++
      [.confirm (samplePacket 12).requireAck]) with _ | before
  · rw [ran] at ends
    cases ends
  rw [ran, Option.any_some, decide_eq_true_iff] at ends
  obtain ⟨remaining, leaving, _, keys, ends⟩ := ends
  rcases performed : before.perform sampleRoute (.acknowledge 7 0 default) with _ | last
  · rw [performed] at ends
    cases ends
  rw [performed, Option.any_some, decide_eq_true_iff] at ends
  have early : Relation.ReflTransGen (TimelyStep sampleRoute (samplePacket 12)) (sampleStart 12)
      before := by
    refine steps_of_run ran fun event member exchange => ?_
    rcases List.mem_append.mp member with delivery | confirm
    · exact sampleDelivery_timely 12 event delivery exchange
    · rw [List.mem_singleton.mp confirm]
      exact True.intro
  have timely : before.Timely sampleRoute (samplePacket 12) (.acknowledge 7 0 default) := by
    refine fun _ => ⟨remaining, leaving, fun key pinned _ known => ?_⟩
    rw [keys] at known
    cases known
  have steps := early.tail ⟨_, timely, performed⟩
  refine ⟨last, steps, ?_, ?_⟩
  · rw [ends]
    exact List.mem_cons_self
  · exact settled_of_timely sampleSigningKey_signs rfl small.1 named asks steps

end Exchange

end Insub
