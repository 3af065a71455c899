/-
This file proves when a packet that the application did not confirm is offered to it again.
The receive loop notes the id of a packet when it hands the packet over, not when the packet
is confirmed, and drops whatever comes with that id for five minutes. So a retransmission is
handed over exactly when the note has run out or has made room for others.
-/

import Mathlib
import Insub.Transport.Acknowledgement

namespace Insub

open Rust

/-- A receiving transport, all packets it has handed over, and the ids that the application has
confirmed. -/
structure Reception (crypto : Primitives) where
  transport : ReliableTransport crypto
  forwarded : List Packet
  confirmed : List U128

namespace Reception

variable {crypto : Primitives}

def start (transport : ReliableTransport crypto) : Reception crypto where
  transport := transport
  forwarded := []
  confirmed := []

inductive Event (crypto : Primitives)
  | transport (event : ReliableTransport.Event crypto)
  | confirm (id : U128)

/-- What an event leads to. A panic ends the run. -/
def perform (reception : Reception crypto) : Event crypto → Option (Reception crypto)
  | .transport event =>
    match reception.transport.step event with
    | (.ok forwarded, transport) =>
      some { reception with
        transport
        forwarded := reception.forwarded ++ forwarded.toList.map Prod.fst }
    | (.error _, _) => none
  | .confirm id => some { reception with confirmed := id :: reception.confirmed }

/-- The reception after a sequence of events. -/
def run : Reception crypto → List (Event crypto) → Option (Reception crypto)
  | reception, [] => some reception
  | reception, event :: rest => (reception.perform event).bind fun next => next.run rest

/-- A datagram that brings a packet again which was handed over and is not confirmed. -/
def Repeats (reception : Reception crypto) (datagram : Bytes) (sender : SocketAddr)
    (packet : Packet) : Prop :=
  reception.transport.Brings datagram sender packet ∧
    ¬ packet.header.flags.contains .ack = true ∧ packet ∈ reception.forwarded ∧
      packet.header.id ∉ reception.confirmed

/-- What the event repeats is handed over once more. -/
def OffersAgain (reception : Reception crypto) : Event crypto → Prop
  | .transport (.datagram bytes sender now order) =>
    ∀ packet, reception.Repeats bytes sender packet →
      (reception.transport.receive bytes sender now order).1 = .ok (some (packet, sender))
  | _ => True

/-- What the event repeats was noted five minutes ago or more, or its note is gone. -/
def NoteRanOut (reception : Reception crypto) : Event crypto → Prop
  | .transport (.datagram bytes sender now _) =>
    ∀ packet, reception.Repeats bytes sender packet →
      ∀ firstSeen, reception.transport.seen.lookup packet.header.id = some firstSeen →
        dedupTtl ≤ durationSince now firstSeen
  | _ => True

/-! ### What is handed over -/

/-- A packet is handed over unless its id was noted less than five minutes ago. -/
theorem dispatch_forwards_iff (transport : ReliableTransport crypto) {packet : Packet}
    (notAck : ¬ packet.header.flags.contains .ack = true) (sender : SocketAddr) (now : Instant)
    (order : IterationOrder (Sigma fun _ : U128 => Instant)) :
    (transport.dispatch packet sender now order).1 = .ok (some (packet, sender)) ↔
      ∀ firstSeen, transport.seen.lookup packet.header.id = some firstSeen →
        dedupTtl ≤ durationSince now firstSeen := by
  rw [ReliableTransport.dispatch, if_neg notAck]
  dsimp only
  cases noted : transport.seen.lookup packet.header.id with
  | none =>
    refine iff_of_true ?_ fun firstSeen same => by cases same
    rw [Option.any_none, if_neg Bool.false_ne_true]
  | some firstSeen =>
    simp only [Option.any_some, decide_eq_true_eq, Option.some.injEq, forall_eq']
    by_cases recent : durationSince now firstSeen < dedupTtl
    · rw [if_pos recent]
      refine iff_of_false (fun same => ?_) (not_le.mpr recent)
      cases same
    · rw [if_neg recent]
      exact iff_of_true rfl (not_lt.mp recent)

theorem offersAgain_iff (reception : Reception crypto) (event : Event crypto) :
    reception.OffersAgain event ↔ reception.NoteRanOut event := by
  rcases event with (⟨bytes, sender, now, order⟩ | now | ⟨id, entry⟩ | ⟨address, key⟩) | id
  · refine forall_congr' fun packet => forall_congr' fun repeated => ?_
    obtain ⟨reassembler, received⟩ :=
      ReliableTransport.receive_of_brings repeated.1 now order
    rw [received]
    exact dispatch_forwards_iff { reception.transport with reassembler } repeated.2.1 sender now
      order
  all_goals exact Iff.rfl

/-- Over every run of a receiver, from any tables and whatever arrives, every unconfirmed
packet is handed over each time it arrives again if and only if its note has run out each
time. -/
theorem run_offersAgain_iff (transport : ReliableTransport crypto) (events : List (Event crypto)) :
    (∀ before event after reception, events = before ++ event :: after →
        (start transport).run before = some reception → reception.OffersAgain event) ↔
      ∀ before event after reception, events = before ++ event :: after →
        (start transport).run before = some reception → reception.NoteRanOut event := by
  constructor
  · intro offers before event after reception split reached
    exact (reception.offersAgain_iff event).mp (offers before event after reception split reached)
  · intro ranOut before event after reception split reached
    exact (reception.offersAgain_iff event).mpr (ranOut before event after reception split reached)

/-! ### A message that comes too early -/

/-- A message whose connection the receiver does not know yet. -/
def sampleEarly : Packet := Packet.new (flagToInt .ackRequired) 7 (Payload.new .message [1, 2, 3])

/-- It arrives, is not confirmed, and arrives again after some seconds. -/
def sampleArrival (seconds : Nat) : Event sampleSuite :=
  .transport (.datagram sampleEarly.serialize ReliableTransport.sampleAddress
    (Rust.seconds seconds) default)

/-- The retransmission after three seconds is dropped. -/
theorem retransmission_dropped : ∃ (transport : ReliableTransport sampleSuite)
    (events : List (Event sampleSuite)), ¬ ∀ before event after reception,
      events = before ++ event :: after → (start transport).run before = some reception →
        reception.OffersAgain event := by
  refine ⟨.new ∅, [sampleArrival 0, sampleArrival 3], fun offers => ?_⟩
  have first : ((start (.new ∅ : ReliableTransport sampleSuite)).run [sampleArrival 0]).any
      (fun reception => sampleEarly ∈ reception.forwarded ∧
        sampleEarly.header.id ∉ reception.confirmed ∧
          (reception.transport.receive sampleEarly.serialize ReliableTransport.sampleAddress
            (seconds 3) default).1.toOption = some none) = true := by
    decide +kernel
  rcases ran : (start (.new ∅ : ReliableTransport sampleSuite)).run [sampleArrival 0] with
    _ | reception
  · rw [ran] at first
    cases first
  rw [ran, Option.any_some, decide_eq_true_iff] at first
  obtain ⟨handed, unconfirmed, dropped⟩ := first
  have brings : reception.transport.Brings sampleEarly.serialize ReliableTransport.sampleAddress
      sampleEarly :=
    ⟨sampleEarly, Packet.fromSerialized_serialize sampleEarly, fun fragment => absurd rfl fragment,
      rfl⟩
  have offered := offers [sampleArrival 0] (sampleArrival 3) [] reception rfl ran sampleEarly
    ⟨brings, by decide, handed, unconfirmed⟩
  rw [offered] at dropped
  cases dropped

end Reception

end Insub
