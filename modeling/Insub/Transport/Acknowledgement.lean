/-
This file proves which acknowledgements take a packet off the pending table. One that comes
from the destination of the packet is checked against the key that is pinned for it. When no
key is pinned, the acknowledgement's own key is pinned and the packet is taken off without a
look at the signature. So only signed acknowledgements count exactly as long as the first
one from every address happens to be signed.
-/

import Mathlib
import Insub.Transport.Reliable

namespace Insub

open Rust

variable {crypto : Primitives}

/-- An acknowledgement by the destination of a pending packet, with the key and the signature
it carries. -/
structure Answers (crypto : Primitives) (ack : Packet) (pending : HashMap U128 Pending)
    (sender : SocketAddr) (carried : VerifyingKey crypto) (signature : Signature) : Prop where
  awaited : ∃ entry, pending.lookup ack.header.id = some entry ∧ entry.dest = sender
  key : ∃ pubkeyBytes, slice 0 32 ack.payload.data = .ok pubkeyBytes ∧
    VerifyingKey.fromBytes crypto pubkeyBytes = some carried
  signature : slice 32 64 ack.payload.data = .ok signature

/-- The signature covers the id of the packet. -/
def VerifyingKey.Signed (verifyingKey : VerifyingKey crypto) (ack : Packet)
    (signature : Signature) : Prop :=
  verifyingKey.verify (beBytes 16 ack.header.id).toList signature = true

/-! ### What `verify_ack` decides -/

theorem Answers.unique {ack : Packet} {pending : HashMap U128 Pending} {sender : SocketAddr}
    {first second : VerifyingKey crypto} {one other : Signature}
    (answers : Answers crypto ack pending sender first one)
    (again : Answers crypto ack pending sender second other) : first = second ∧ one = other := by
  obtain ⟨bytes, keyAt, parsed⟩ := answers.key
  obtain ⟨same, sameAt, parsedSame⟩ := again.key
  rw [keyAt] at sameAt
  obtain rfl := Except.ok.inj sameAt
  refine ⟨Option.some.inj (parsed.symm.trans parsedSame), ?_⟩
  exact Except.ok.inj (answers.signature.symm.trans again.signature)

/-- An answer is accepted if it is signed under the pinned key, or if no key is pinned. Then
its own key is pinned. -/
theorem verifyAck_answers {ack : Packet} {pending : HashMap U128 Pending} {sender : SocketAddr}
    {carried : VerifyingKey crypto} {signature : Signature}
    (answers : Answers crypto ack pending sender carried signature)
    (peerKeys : HashMap SocketAddr (VerifyingKey crypto)) :
    verifyAck ack pending peerKeys sender =
      match peerKeys.lookup sender with
      | some pinned => (.ok (pinned.verify (beBytes 16 ack.header.id).toList signature), peerKeys)
      | none => (.ok true, peerKeys.insert sender carried) := by
  obtain ⟨⟨entry, held, dest⟩, ⟨pubkeyBytes, keyAt, parsed⟩, signatureAt⟩ := answers
  cases pinned : peerKeys.lookup sender <;>
    simp only [verifyAck, held, dest, ne_eq, not_true_eq_false, if_false, keyAt, signatureAt, parsed,
      pinned]

/-- What is no answer is not accepted, and changes no key. -/
theorem verifyAck_not_answers {ack : Packet} {pending : HashMap U128 Pending}
    {sender : SocketAddr}
    (none : ∀ carried signature, ¬ Answers crypto ack pending sender carried signature)
    (peerKeys : HashMap SocketAddr (VerifyingKey crypto)) :
    (verifyAck ack pending peerKeys sender).1 ≠ .ok true ∧
      (verifyAck ack pending peerKeys sender).2 = peerKeys := by
  have refused : ((.ok false : Outcome Bool) ≠ .ok true) := by decide
  have failed : ∀ fault, ((.error fault : Outcome Bool) ≠ .ok true) := by
    intro fault same
    cases same
  rw [verifyAck]
  cases held : pending.lookup ack.header.id with
  | none => exact ⟨refused, rfl⟩
  | some entry =>
    dsimp only
    by_cases dest : entry.dest = sender
    · rw [if_neg (not_not.mpr dest)]
      cases keyAt : slice 0 32 ack.payload.data with
      | error fault => exact ⟨failed fault, rfl⟩
      | ok pubkeyBytes =>
        dsimp only
        cases signatureAt : slice 32 64 ack.payload.data with
        | error fault => exact ⟨failed fault, rfl⟩
        | ok signature =>
          dsimp only
          cases parsed : VerifyingKey.fromBytes crypto pubkeyBytes with
          | none => exact ⟨refused, rfl⟩
          | some carried =>
            exact absurd ⟨⟨entry, held, dest⟩, ⟨pubkeyBytes, keyAt, parsed⟩, signatureAt⟩
              (none carried signature)
    · rw [if_pos dest]
      exact ⟨refused, rfl⟩

namespace ReliableTransport

/-! ### What an event takes off the pending table -/

/-- A packet is taken off by an answer alone, which is signed under the key that is pinned for
its sender or, when none is, under its own, which is pinned from then on. -/
def RemovesSigned (before after : ReliableTransport crypto) (datagram : Bytes)
    (sender : SocketAddr) : Prop :=
  ∀ id entry, before.pending.lookup id = some entry → after.pending.lookup id = none →
    entry.dest = sender ∧ ∃ ack carried signature, before.Brings datagram sender ack ∧
      ack.header.flags.contains .ack = true ∧ ack.header.id = id ∧
        Answers crypto ack before.pending sender carried signature ∧
          match before.peerKeys.lookup sender with
          | some pinned => pinned.Signed ack signature
          | none => carried.Signed ack signature ∧ after.peerKeys.lookup sender = some carried

/-- The datagram removes nothing but what it acknowledges with a signature, replaces no pinned
key, and pins none unless it is accepted. -/
structure AcksGenuinely (before after : ReliableTransport crypto) (datagram : Bytes)
    (sender : SocketAddr) : Prop where
  removes : RemovesSigned before after datagram sender
  keeps : ∀ address pinned, before.peerKeys.lookup address = some pinned →
    after.peerKeys.lookup address = some pinned
  pins : after.pending = before.pending → after.peerKeys = before.peerKeys

/-- The first answer from an address with no pinned key is signed under the key it carries. -/
def FirstAnswerSigned (transport : ReliableTransport crypto) (datagram : Bytes)
    (sender : SocketAddr) : Prop :=
  ∀ ack carried signature, transport.Brings datagram sender ack →
    ack.header.flags.contains .ack = true →
      Answers crypto ack transport.pending sender carried signature →
        transport.peerKeys.lookup sender = none → carried.Signed ack signature

/-- What the receive loop does with every event of a run. -/
def Event.AcksGenuinely (transport : ReliableTransport crypto) : Event crypto → Prop
  | .datagram bytes sender now order =>
    transport.AcksGenuinely (transport.receive bytes sender now order).2 bytes sender
  | _ => True

/-- What every event of a run has to keep to. -/
def Event.FirstAnswerSigned (transport : ReliableTransport crypto) : Event crypto → Prop
  | .datagram bytes sender _ _ => transport.FirstAnswerSigned bytes sender
  | _ => True

/-- What leaves both tables as they are is genuine. -/
theorem AcksGenuinely.of_unchanged {before after : ReliableTransport crypto} {datagram : Bytes}
    {sender : SocketAddr} (pending : after.pending = before.pending)
    (peerKeys : after.peerKeys = before.peerKeys) :
    before.AcksGenuinely after datagram sender where
  removes id entry held gone := by
    rw [pending, held] at gone
    cases gone
  keeps address pinned found := by
    rw [peerKeys]
    exact found
  pins _ := peerKeys

/-- What is no answer leaves both tables as they are. -/
theorem dispatch_not_answers (transport : ReliableTransport crypto) {ack : Packet}
    {sender : SocketAddr} (isAck : ack.header.flags.contains .ack = true)
    (none : ∀ carried signature, ¬ Answers crypto ack transport.pending sender carried signature)
    (now : Instant) (order : IterationOrder (Sigma fun _ : U128 => Instant)) :
    (transport.dispatch ack sender now order).2 = transport := by
  obtain ⟨refused, unchanged⟩ := verifyAck_not_answers none transport.peerKeys
  rw [dispatch, if_pos isAck]
  rcases run : verifyAck ack transport.pending transport.peerKeys sender with
    ⟨fault | accepted, peerKeys⟩
  · rw [run] at unchanged
    subst unchanged
    rfl
  · rw [run] at unchanged refused
    subst unchanged
    cases accepted with
    | false => rfl
    | true => exact absurd rfl refused

/-- An accepted answer takes its packet off, and pins the key it was checked against. -/
theorem dispatch_answers (transport : ReliableTransport crypto) {ack : Packet}
    {sender : SocketAddr} {carried : VerifyingKey crypto} {signature : Signature}
    (isAck : ack.header.flags.contains .ack = true)
    (answers : Answers crypto ack transport.pending sender carried signature)
    (now : Instant) (order : IterationOrder (Sigma fun _ : U128 => Instant)) :
    (transport.dispatch ack sender now order).2 =
      match transport.peerKeys.lookup sender with
      | some pinned =>
        if pinned.verify (beBytes 16 ack.header.id).toList signature = true then
          { transport with pending := transport.pending.erase ack.header.id }
        else transport
      | none =>
        { transport with
          pending := transport.pending.erase ack.header.id
          peerKeys := transport.peerKeys.insert sender carried } := by
  rw [dispatch, if_pos isAck, verifyAck_answers answers]
  cases transport.peerKeys.lookup sender with
  | some pinned =>
    dsimp only
    split <;> rfl
  | none => rfl

theorem dispatch_not_ack (transport : ReliableTransport crypto) {packet : Packet}
    (notAck : ¬ packet.header.flags.contains .ack = true) (sender : SocketAddr) (now : Instant)
    (order : IterationOrder (Sigma fun _ : U128 => Instant)) :
    (transport.dispatch packet sender now order).2.pending = transport.pending ∧
      (transport.dispatch packet sender now order).2.peerKeys = transport.peerKeys := by
  rw [dispatch, if_neg notAck]
  dsimp only
  split <;> exact ⟨rfl, rfl⟩

/-- The one entry that is gone from an erased table. -/
theorem erased_entry {pending : HashMap U128 Pending} {erased id : U128} {entry other : Pending}
    {sender : SocketAddr} (held : pending.lookup erased = some entry) (dest : entry.dest = sender)
    (otherHeld : pending.lookup id = some other) (gone : (pending.erase erased).lookup id = none) :
    erased = id ∧ other.dest = sender := by
  have same : erased = id := by
    by_contra different
    rw [AList.lookup_erase_ne (Ne.symm different), otherHeld] at gone
    cases gone
  subst same
  rw [held] at otherHeld
  rw [← Option.some.inj otherHeld]
  exact ⟨rfl, dest⟩

/-- An answer that a datagram brings is treated genuinely if it is signed, or if a key is
pinned for its sender. -/
theorem acksGenuinely_answers_iff {transport : ReliableTransport crypto} {datagram : Bytes}
    {sender : SocketAddr} {ack : Packet} {carried : VerifyingKey crypto} {signature : Signature}
    (brings : transport.Brings datagram sender ack)
    (isAck : ack.header.flags.contains .ack = true)
    (answers : Answers crypto ack transport.pending sender carried signature)
    (reassembler : Reassembler) (now : Instant)
    (order : IterationOrder (Sigma fun _ : U128 => Instant)) :
    transport.AcksGenuinely (dispatch { transport with reassembler } ack sender now order).2
        datagram sender ↔ transport.FirstAnswerSigned datagram sender := by
  obtain ⟨⟨entry, held, dest⟩, _⟩ := id answers
  have signed_iff : transport.FirstAnswerSigned datagram sender ↔
      (transport.peerKeys.lookup sender = none → carried.Signed ack signature) := by
    constructor
    · intro signed unpinned
      exact signed ack carried signature brings isAck answers unpinned
    · intro signed other otherKey otherSignature again _ otherAnswers unpinned
      obtain rfl := brings.unique again
      obtain ⟨rfl, rfl⟩ := answers.unique otherAnswers
      exact signed unpinned
  rw [signed_iff, dispatch_answers { transport with reassembler } isAck answers]
  dsimp only
  cases known : transport.peerKeys.lookup sender with
  | some pinned =>
    refine iff_of_true ?_ fun unpinned => by cases unpinned
    dsimp only
    split
    · rename_i verified
      refine ⟨fun id other otherHeld gone => ?_, fun _ _ found => found, fun _ => rfl⟩
      obtain ⟨rfl, atDest⟩ := erased_entry held dest otherHeld gone
      refine ⟨atDest, ack, carried, signature, brings, isAck, rfl, answers, ?_⟩
      rw [known]
      exact verified
    · exact .of_unchanged rfl rfl
  | none =>
    simp only [true_implies]
    constructor
    · intro genuine
      obtain ⟨_, other, otherKey, otherSignature, again, _, _, otherAnswers, checked⟩ :=
        genuine.removes ack.header.id entry held (AList.lookup_erase _ _)
      obtain rfl := brings.unique again
      obtain ⟨rfl, rfl⟩ := answers.unique otherAnswers
      rw [known] at checked
      exact checked.1
    · intro signed
      refine ⟨fun id other otherHeld gone => ?_, fun address pinned found => ?_, fun same => ?_⟩
      · obtain ⟨rfl, atDest⟩ := erased_entry held dest otherHeld gone
        refine ⟨atDest, ack, carried, signature, brings, isAck, rfl, answers, ?_⟩
        rw [known]
        exact ⟨signed, AList.lookup_insert _⟩
      · have different : address ≠ sender := by
          rintro rfl
          rw [known] at found
          cases found
        exact (AList.lookup_insert_ne different).trans found
      · have gone : (transport.pending.erase ack.header.id).lookup ack.header.id = none :=
          AList.lookup_erase _ _
        rw [show transport.pending.erase ack.header.id = transport.pending from same, held] at gone
        cases gone

/-- A datagram is treated genuinely exactly when a first answer it brings is signed. -/
theorem acksGenuinely_iff (transport : ReliableTransport crypto) (datagram : Bytes)
    (sender : SocketAddr) (now : Instant)
    (order : IterationOrder (Sigma fun _ : U128 => Instant)) :
    transport.AcksGenuinely (transport.receive datagram sender now order).2 datagram sender ↔
      transport.FirstAnswerSigned datagram sender := by
  by_cases something : ∃ whole, transport.Brings datagram sender whole
  · obtain ⟨ack, brings⟩ := something
    obtain ⟨reassembler, received⟩ := receive_of_brings brings now order
    rw [received]
    by_cases isAck : ack.header.flags.contains .ack = true
    · by_cases answering : ∃ carried signature,
          Answers crypto ack transport.pending sender carried signature
      · obtain ⟨carried, signature, answers⟩ := answering
        exact acksGenuinely_answers_iff brings isAck answers reassembler now order
      · have none : ∀ carried signature,
            ¬ Answers crypto ack transport.pending sender carried signature :=
          fun carried signature answers => answering ⟨carried, signature, answers⟩
        rw [dispatch_not_answers { transport with reassembler } isAck none]
        refine iff_of_true (.of_unchanged rfl rfl) fun other carried signature again _ answers => ?_
        rw [brings.unique again] at none
        exact absurd answers (none carried signature)
    · have unchanged := dispatch_not_ack { transport with reassembler } isAck sender now order
      refine iff_of_true (.of_unchanged unchanged.1 unchanged.2) fun other _ _ again otherAck => ?_
      rw [← brings.unique again] at otherAck
      exact absurd otherAck isAck
  · have nothing : ∀ whole, ¬ transport.Brings datagram sender whole :=
      fun whole brings => something ⟨whole, brings⟩
    obtain ⟨reassembler, received, _⟩ := receive_of_not_brings nothing now order
    rw [received]
    exact iff_of_true (.of_unchanged rfl rfl) fun ack _ _ brings => absurd brings (nothing ack)

theorem event_acksGenuinely_iff (transport : ReliableTransport crypto) (event : Event crypto) :
    event.AcksGenuinely transport ↔ event.FirstAnswerSigned transport := by
  cases event with
  | datagram bytes sender now order => exact transport.acksGenuinely_iff bytes sender now order
  | idle now => exact Iff.rfl
  | registered id entry => exact Iff.rfl
  | pinned address verifyingKey => exact Iff.rfl

/-- Over every run, from any tables, every acknowledgement is treated genuinely if and only if
every first answer is signed, in the state the events before it leave. -/
theorem run_acksGenuinely_iff (transport : ReliableTransport crypto)
    (events : List (Event crypto)) :
    (∀ before event after, events = before ++ event :: after →
        (transport.run before).1.Returns → event.AcksGenuinely (transport.run before).2) ↔
      ∀ before event after, events = before ++ event :: after →
        (transport.run before).1.Returns → event.FirstAnswerSigned (transport.run before).2 := by
  constructor
  · intro genuine before event after split returns
    exact (event_acksGenuinely_iff _ event).mp (genuine before event after split returns)
  · intro signed before event after split returns
    exact (event_acksGenuinely_iff _ event).mpr (signed before event after split returns)

/-! ### A forged acknowledgement -/

/-- An acknowledgement with a key and no signature. -/
def forgedAck : Packet := Packet.new (flagToInt .ack) 7 (Payload.new .keepAlive (List.replicate 96 0))

/-- It takes the first packet off that was sent to an address, and has its key pinned. -/
theorem forged_ack_accepted : ∃ (transport : ReliableTransport sampleSuite)
    (events : List (Event sampleSuite)), ¬ ∀ before event after,
      events = before ++ event :: after → (transport.run before).1.Returns →
        event.AcksGenuinely (transport.run before).2 := by
  refine ⟨new ∅, [.registered 7 samplePending,
    .datagram forgedAck.serialize sampleAddress 0 default], fun genuine => ?_⟩
  have accepted := genuine [.registered 7 samplePending] _ [] rfl (Outcome.returns_ok _)
  have signed := (acksGenuinely_iff _ _ _ _ _).mp accepted
  have forged := signed forgedAck ⟨Octets.zero 32, rfl⟩ (Octets.zero 64)
    ⟨forgedAck, Packet.fromSerialized_serialize forgedAck, fun fragment => absurd rfl fragment, rfl⟩
    (by decide) ⟨⟨samplePending, rfl, rfl⟩, ⟨Octets.zero 32, by decide, rfl⟩, by decide⟩ rfl
  rw [VerifyingKey.Signed] at forged
  exact absurd forged (by decide +kernel)

end ReliableTransport

end Insub
