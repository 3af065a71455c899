/-
This file models the receive thread of `transport/reliable.rs`: the tables it works on, what
it does with a datagram and when no datagram comes, and what other threads do to the tables
in between.

Two of its reads trust the datagram: the index of a fragment, and the length of the data of
an acknowledgement for a pending packet. A run of the thread goes on exactly as long as
every datagram keeps to both, in the state in which it arrives.
-/

import Mathlib
import Insub.Crypto.SampleSuite
import Insub.Transport.Fragment

namespace Insub

open Rust

def maxRetries : UInt8 := 5

def retryDelay : Nat := seconds 2

/-- Five minutes. -/
def dedupTtl : Nat := seconds 300

def maxSeen : Nat := 1024

/-- A packet that was sent and not acknowledged yet. -/
structure Pending where
  serialized : Bytes
  dest : SocketAddr
  retries : UInt8
  lastSent : Instant

/-- The tables of the receive thread, and those it shares with others. -/
structure ReliableTransport (crypto : Primitives) where
  pending : HashMap U128 Pending
  peerKeys : HashMap SocketAddr (VerifyingKey crypto)
  reassembler : Reassembler
  seen : HashMap U128 Instant

/-- Examine an incoming acknowledgement and decide whether to accept it. -/
def verifyAck {crypto : Primitives} (packet : Packet) (pending : HashMap U128 Pending)
    (peerKeys : HashMap SocketAddr (VerifyingKey crypto)) (sender : SocketAddr) :
    Outcome Bool × HashMap SocketAddr (VerifyingKey crypto) :=
  match pending.lookup packet.header.id with
  | none => (.ok false, peerKeys)
  | some entry =>
    if entry.dest ≠ sender then (.ok false, peerKeys)
    else
      match slice 0 32 packet.payload.data with
      | .error fault => (.error fault, peerKeys)
      | .ok pubkeyBytes =>
        match slice 32 64 packet.payload.data with
        | .error fault => (.error fault, peerKeys)
        | .ok sigBytes =>
          match VerifyingKey.fromBytes crypto pubkeyBytes with
          | none => (.ok false, peerKeys)
          | some verifyingKey =>
            match peerKeys.lookup sender with
            | some expected =>
              (.ok (expected.verify (beBytes 16 packet.header.id).toList sigBytes), peerKeys)
            -- the first signed acknowledgement from this address pins its key
            | none => (.ok true, peerKeys.insert sender verifyingKey)

namespace ReliableTransport

variable {crypto : Primitives}

/-- The thread as `bind` starts it, with the key table the runtime shares. -/
def new (peerKeys : HashMap SocketAddr (VerifyingKey crypto)) : ReliableTransport crypto where
  pending := ∅
  peerKeys := peerKeys
  reassembler := Reassembler.new
  seen := ∅

/-- Make room in the table of seen packets: drop what is too old, then the oldest. -/
def prune (seen : HashMap U128 Instant) (now : Instant)
    (order : IterationOrder (Sigma fun _ : U128 => Instant)) : HashMap U128 Instant :=
  let seen :=
    if seen.size ≥ maxSeen then seen.retain fun _ time => durationSince now time < dedupTtl
    else seen
  if seen.size ≥ maxSeen then
    match (seen.iterate order).argmin Sigma.snd with
    | some oldest => seen.erase oldest.1
    | none => seen
  else seen

/-- The part of an iteration that follows reassembly. -/
def dispatch (transport : ReliableTransport crypto) (packet : Packet) (sender : SocketAddr)
    (now : Instant) (order : IterationOrder (Sigma fun _ : U128 => Instant)) :
    Outcome (Option (Packet × SocketAddr)) × ReliableTransport crypto :=
  if packet.header.flags.contains .ack then
    match verifyAck packet transport.pending transport.peerKeys sender with
    | (.error fault, peerKeys) => (.error fault, { transport with peerKeys })
    | (.ok shouldRemove, peerKeys) =>
      let pending :=
        if shouldRemove then transport.pending.erase packet.header.id else transport.pending
      (.ok none, { transport with peerKeys, pending })
  else
    let duplicate := (transport.seen.lookup packet.header.id).any fun firstSeen =>
      durationSince now firstSeen < dedupTtl
    if duplicate then (.ok none, transport)
    else
      let seen := (prune transport.seen now order).insert packet.header.id now
      (.ok (some (packet, sender)), { transport with seen })

/-- One iteration of the receive loop over a datagram, with what it forwards. -/
def receive (transport : ReliableTransport crypto) (datagram : Bytes) (sender : SocketAddr)
    (now : Instant) (order : IterationOrder (Sigma fun _ : U128 => Instant)) :
    Outcome (Option (Packet × SocketAddr)) × ReliableTransport crypto :=
  match (Packet.fromSerialized datagram).asOption with
  | .error fault => (.error fault, transport)
  | .ok none => (.ok none, transport)
  | .ok (some packet) =>
    let (reassembled, reassembler) :=
      if packet.payload.fragmentId ≠ 0 then transport.reassembler.feed packet sender now
      else (.ok (some packet), transport.reassembler)
    let transport := { transport with reassembler }
    match reassembled with
    | .error fault => (.error fault, transport)
    | .ok none => (.ok none, transport)
    | .ok (some packet) => transport.dispatch packet sender now order

/-- Whether a pending packet is sent again, and what becomes of its entry. -/
def retransmit (now : Instant) (_ : U128) (entry : Pending) : Option Pending :=
  if entry.retries ≥ maxRetries then none
  else if durationSince now entry.lastSent > retryDelay then
    some { entry with lastSent := now, retries := entry.retries + 1 }
  else some entry

/-- One iteration of the receive loop in which no datagram came. Counting a retry up cannot
overflow: an entry with `maxRetries` of them is given up first. -/
def idle (transport : ReliableTransport crypto) (now : Instant) : ReliableTransport crypto :=
  { transport with
    pending := transport.pending.retainMut (retransmit now)
    reassembler := transport.reassembler.evictStale now }

/-- What happens to the tables, one event after the other: an iteration of the receive loop,
`send` registering a packet on another thread, or the runtime pinning a peer's key. -/
inductive Event (crypto : Primitives)
  | datagram (bytes : Bytes) (sender : SocketAddr) (now : Instant)
      (order : IterationOrder (Sigma fun _ : U128 => Instant))
  | idle (now : Instant)
  | registered (id : U128) (entry : Pending)
  | pinned (address : SocketAddr) (verifyingKey : VerifyingKey crypto)

def step (transport : ReliableTransport crypto) :
    Event crypto → Outcome (Option (Packet × SocketAddr)) × ReliableTransport crypto
  | .datagram bytes sender now order => transport.receive bytes sender now order
  | .idle now => (.ok none, transport.idle now)
  | .registered id entry =>
    (.ok none, { transport with pending := transport.pending.insert id entry })
  | .pinned address verifyingKey =>
    (.ok none, { transport with peerKeys := transport.peerKeys.insert address verifyingKey })

/-- A run over a sequence of events, with the packets it forwards. A panic ends it. -/
def run (transport : ReliableTransport crypto) :
    List (Event crypto) → Outcome (List (Packet × SocketAddr)) × ReliableTransport crypto
  | [] => (.ok [], transport)
  | event :: rest =>
    match transport.step event with
    | (.error fault, transport) => (.error fault, transport)
    | (.ok forwarded, transport) =>
      match transport.run rest with
      | (outcome, transport) => (outcome.map (forwarded.toList ++ ·), transport)

/-! ### What makes an iteration panic -/

/-- An acknowledgement of a packet that is pending for its sender carries a key and a
signature. -/
def AckCarriesSignature (transport : ReliableTransport crypto) (packet : Packet)
    (sender : SocketAddr) : Prop :=
  packet.header.flags.contains .ack = true →
    ∀ entry, transport.pending.lookup packet.header.id = some entry → entry.dest = sender →
      32 + 64 ≤ packet.payload.data.length

/-- A datagram keeps to what the receive loop trusts: the index of a fragment is below its
total, and the packet that is whole once it has arrived carries a signature where one is
read. -/
structure Harmless (transport : ReliableTransport crypto) (datagram : Bytes)
    (sender : SocketAddr) : Prop where
  index : ∀ packet, Packet.fromSerialized datagram = .ok packet →
    packet.payload.fragmentId ≠ 0 → packet.payload.fragmentIndex < packet.payload.fragmentTotal
  ack : ∀ packet whole, Packet.fromSerialized datagram = .ok packet →
    transport.reassembler.completed packet sender = some whole →
      transport.AckCarriesSignature whole sender

/-- What an event has to keep to. -/
def Event.Harmless (transport : ReliableTransport crypto) : Event crypto → Prop
  | .datagram bytes sender _ _ => transport.Harmless bytes sender
  | _ => True

theorem verifyAck_returns_iff (packet : Packet) (pending : HashMap U128 Pending)
    (peerKeys : HashMap SocketAddr (VerifyingKey crypto)) (sender : SocketAddr) :
    (verifyAck packet pending peerKeys sender).1.Returns ↔
      ∀ entry, pending.lookup packet.header.id = some entry → entry.dest = sender →
        32 + 64 ≤ packet.payload.data.length := by
  rw [verifyAck]
  cases found : pending.lookup packet.header.id with
  | none => simp
  | some entry =>
    by_cases other : entry.dest = sender
    · by_cases long : 32 + 64 ≤ packet.payload.data.length
      · obtain ⟨pubkeyBytes, first, _⟩ := slice_ok (show 0 + 32 ≤ packet.payload.data.length by omega)
        obtain ⟨sigBytes, second, _⟩ := slice_ok long
        simp only [other, ne_eq, not_true_eq_false, if_false, first, second]
        refine iff_of_true ?_ fun _ _ _ => long
        split
        · exact Outcome.returns_ok _
        · split <;> exact Outcome.returns_ok _
      · refine iff_of_false ?_ fun carries => long (carries entry rfl other)
        simp only [other, ne_eq, not_true_eq_false, if_false]
        obtain ⟨site, second⟩ := (slice_panics_iff).mpr (not_le.mp long)
        cases slice 0 32 packet.payload.data with
        | error fault => exact Outcome.not_returns_fault fault
        | ok pubkeyBytes =>
          rw [second]
          exact Outcome.not_returns_fault _
    · simp [other]

theorem dispatch_returns_iff (transport : ReliableTransport crypto) (packet : Packet)
    (sender : SocketAddr) (now : Instant)
    (order : IterationOrder (Sigma fun _ : U128 => Instant)) :
    (transport.dispatch packet sender now order).1.Returns ↔
      transport.AckCarriesSignature packet sender := by
  by_cases ack : packet.header.flags.contains .ack = true
  · rw [dispatch, if_pos ack, AckCarriesSignature, ack]
    simp only [true_implies]
    rw [← verifyAck_returns_iff packet transport.pending transport.peerKeys sender]
    rcases verifyAck packet transport.pending transport.peerKeys sender with ⟨_ | _, peerKeys⟩
    · exact iff_of_false (Outcome.not_returns_fault _) (Outcome.not_returns_fault _)
    · exact iff_of_true (Outcome.returns_ok _) (Outcome.returns_ok _)
  · rw [dispatch, if_neg ack]
    refine iff_of_true ?_ fun contains => absurd contains ack
    dsimp only
    split <;> exact Outcome.returns_ok _

/-- The result of reassembly in an iteration, and the table it leaves. -/
theorem reassembled_completed (reassembler : Reassembler) (packet : Packet) (sender : SocketAddr)
    (now : Instant) (covered : packet.payload.fragmentId ≠ 0 →
      packet.payload.fragmentIndex < packet.payload.fragmentTotal) :
    (if packet.payload.fragmentId ≠ 0 then reassembler.feed packet sender now
      else (.ok (some packet), reassembler)).1 = .ok (reassembler.completed packet sender) := by
  by_cases whole : packet.payload.fragmentId = 0
  · rw [if_neg (not_not.mpr whole), Reassembler.completed, if_pos whole]
  · rw [if_pos whole]
    exact reassembler.feed_completed packet sender now covered

/-! ### What a datagram brings -/

/-- A datagram brings the packet that is whole once it has arrived: the one it carries, or the
one that its fragment completes. -/
def Brings (transport : ReliableTransport crypto) (datagram : Bytes) (sender : SocketAddr)
    (whole : Packet) : Prop :=
  ∃ packet, Packet.fromSerialized datagram = .ok packet ∧
    (packet.payload.fragmentId ≠ 0 →
      packet.payload.fragmentIndex < packet.payload.fragmentTotal) ∧
        transport.reassembler.completed packet sender = some whole

theorem Brings.unique {transport : ReliableTransport crypto} {datagram : Bytes}
    {sender : SocketAddr} {first second : Packet} (one : transport.Brings datagram sender first)
    (other : transport.Brings datagram sender second) : first = second := by
  obtain ⟨packet, parsed, _, completes⟩ := one
  obtain ⟨same, parsedSame, _, completesSame⟩ := other
  rw [parsed] at parsedSame
  obtain rfl := Except.ok.inj parsedSame
  exact Option.some.inj (completes.symm.trans completesSame)

/-- What an iteration can do with a datagram. -/
inductive Receives (transport : ReliableTransport crypto) (datagram : Bytes) (sender : SocketAddr)
    (now : Instant) (order : IterationOrder (Sigma fun _ : U128 => Instant)) :
    Outcome (Option (Packet × SocketAddr)) × ReliableTransport crypto → Prop
  | garbled (unparsed : ∀ packet, Packet.fromSerialized datagram ≠ .ok packet) :
      Receives transport datagram sender now order (.ok none, transport)
  | beyond {packet : Packet} {fault : Fault} {reassembler : Reassembler}
      (parsed : Packet.fromSerialized datagram = .ok packet)
      (beyond : ¬ (packet.payload.fragmentId ≠ 0 →
        packet.payload.fragmentIndex < packet.payload.fragmentTotal)) :
      Receives transport datagram sender now order
        (.error fault, { transport with reassembler })
  | incomplete {packet : Packet} {reassembler : Reassembler}
      (parsed : Packet.fromSerialized datagram = .ok packet)
      (covered : packet.payload.fragmentId ≠ 0 →
        packet.payload.fragmentIndex < packet.payload.fragmentTotal)
      (lacks : transport.reassembler.completed packet sender = none) :
      Receives transport datagram sender now order (.ok none, { transport with reassembler })
  | whole {whole : Packet} {reassembler : Reassembler}
      (brings : transport.Brings datagram sender whole) :
      Receives transport datagram sender now order
        (dispatch { transport with reassembler } whole sender now order)

theorem receive_receives (transport : ReliableTransport crypto) (datagram : Bytes)
    (sender : SocketAddr) (now : Instant)
    (order : IterationOrder (Sigma fun _ : U128 => Instant)) :
    transport.Receives datagram sender now order
      (transport.receive datagram sender now order) := by
  rcases parsed : Packet.fromSerialized datagram with fault | packet
  · have total := Outcome.asOption_eq (Packet.not_panics_fromSerialized datagram)
    rw [receive, total, parsed]
    refine .garbled fun packet found => ?_
    rw [parsed] at found
    cases found
  · rw [receive, parsed]
    simp only [Outcome.asOption]
    by_cases covered : packet.payload.fragmentId ≠ 0 →
        packet.payload.fragmentIndex < packet.payload.fragmentTotal
    · have completed := reassembled_completed transport.reassembler packet sender now covered
      rcases run : (if packet.payload.fragmentId ≠ 0 then
        transport.reassembler.feed packet sender now
          else (.ok (some packet), transport.reassembler)) with ⟨outcome, reassembler⟩
      rw [run] at completed
      subst completed
      rcases completes : transport.reassembler.completed packet sender with _ | whole
      · exact .incomplete parsed covered completes
      · exact .whole ⟨packet, parsed, covered, completes⟩
    · obtain ⟨fragment, beyond⟩ := Classical.not_imp.mp covered
      have panicked := transport.reassembler.feed_panics packet sender now fragment
        (UInt8.not_lt.mp beyond)
      rw [if_pos fragment]
      rcases run : transport.reassembler.feed packet sender now with ⟨outcome, reassembler⟩
      rw [run] at panicked
      subst panicked
      exact .beyond parsed covered

/-- What a datagram brings is dispatched. -/
theorem receive_of_brings {transport : ReliableTransport crypto} {datagram : Bytes}
    {sender : SocketAddr} {whole : Packet} (brings : transport.Brings datagram sender whole)
    (now : Instant) (order : IterationOrder (Sigma fun _ : U128 => Instant)) :
    ∃ reassembler, transport.receive datagram sender now order =
      dispatch { transport with reassembler } whole sender now order := by
  have receives := transport.receive_receives datagram sender now order
  have ⟨packet, parsed, covered, completes⟩ := brings
  generalize transport.receive datagram sender now order = result at receives ⊢
  cases receives with
  | garbled unparsed => exact absurd parsed (unparsed packet)
  | beyond parsedSame beyond =>
    obtain rfl := Except.ok.inj (parsed.symm.trans parsedSame)
    exact absurd covered beyond
  | incomplete parsedSame _ lacks =>
    obtain rfl := Except.ok.inj (parsed.symm.trans parsedSame)
    rw [lacks] at completes
    cases completes
  | whole other =>
    obtain rfl := brings.unique other
    exact ⟨_, rfl⟩

/-- A datagram that brings nothing changes nothing but the reassembler, and nothing is
forwarded. -/
theorem receive_of_not_brings {transport : ReliableTransport crypto} {datagram : Bytes}
    {sender : SocketAddr} (nothing : ∀ whole, ¬ transport.Brings datagram sender whole)
    (now : Instant) (order : IterationOrder (Sigma fun _ : U128 => Instant)) :
    ∃ reassembler,
      (transport.receive datagram sender now order).2 = { transport with reassembler } ∧
        ∀ whole, (transport.receive datagram sender now order).1 ≠ .ok (some whole) := by
  have receives := transport.receive_receives datagram sender now order
  generalize transport.receive datagram sender now order = result at receives ⊢
  cases receives with
  | garbled => exact ⟨transport.reassembler, rfl, fun whole forwarded => by cases forwarded⟩
  | beyond => exact ⟨_, rfl, fun whole forwarded => by cases forwarded⟩
  | incomplete => exact ⟨_, rfl, fun whole forwarded => by cases forwarded⟩
  | whole brings => exact absurd brings (nothing _)

/-! ### When an iteration finishes -/

theorem harmless_iff_of_parsed {transport : ReliableTransport crypto} {datagram : Bytes}
    {packet : Packet} (parsed : Packet.fromSerialized datagram = .ok packet)
    (sender : SocketAddr) :
    transport.Harmless datagram sender ↔
      (packet.payload.fragmentId ≠ 0 →
        packet.payload.fragmentIndex < packet.payload.fragmentTotal) ∧
      ∀ whole, transport.reassembler.completed packet sender = some whole →
        transport.AckCarriesSignature whole sender := by
  constructor
  · intro harmless
    exact ⟨harmless.index packet parsed, fun whole => harmless.ack packet whole parsed⟩
  · rintro ⟨index, ack⟩
    constructor
    · intro other found
      rw [parsed] at found
      rw [← Except.ok.inj found]
      exact index
    · intro other whole found
      rw [parsed] at found
      rw [← Except.ok.inj found]
      exact ack whole

/-- An iteration over a datagram finishes if and only if the datagram is harmless. -/
theorem receive_returns_iff (transport : ReliableTransport crypto) (datagram : Bytes)
    (sender : SocketAddr) (now : Instant)
    (order : IterationOrder (Sigma fun _ : U128 => Instant)) :
    (transport.receive datagram sender now order).1.Returns ↔
      transport.Harmless datagram sender := by
  have receives := transport.receive_receives datagram sender now order
  generalize transport.receive datagram sender now order = result at receives ⊢
  cases receives with
  | garbled unparsed =>
    exact iff_of_true (Outcome.returns_ok _)
      ⟨fun packet parsed => absurd parsed (unparsed packet),
        fun packet _ parsed => absurd parsed (unparsed packet)⟩
  | beyond parsed beyond =>
    exact iff_of_false (Outcome.not_returns_fault _) fun harmless =>
      beyond (harmless.index _ parsed)
  | incomplete parsed covered lacks =>
    refine iff_of_true (Outcome.returns_ok _)
      ((harmless_iff_of_parsed parsed sender).mpr ⟨covered, fun whole completes => ?_⟩)
    rw [lacks] at completes
    cases completes
  | whole brings =>
    obtain ⟨packet, parsed, covered, completes⟩ := brings
    rw [harmless_iff_of_parsed parsed, and_iff_right covered, completes]
    simp only [Option.some.injEq, forall_eq']
    exact dispatch_returns_iff _ _ sender now order

/-- An event finishes if and only if it is harmless in the state in which it happens. -/
theorem step_returns_iff (transport : ReliableTransport crypto) (event : Event crypto) :
    (transport.step event).1.Returns ↔ event.Harmless transport := by
  cases event with
  | datagram bytes sender now order => exact receive_returns_iff transport bytes sender now order
  | idle now => exact iff_of_true (Outcome.returns_ok _) trivial
  | registered id entry => exact iff_of_true (Outcome.returns_ok _) trivial
  | pinned address verifyingKey => exact iff_of_true (Outcome.returns_ok _) trivial

/-- What an event leaves behind is where the rest of the run starts. -/
theorem run_cons_of_ok {transport next : ReliableTransport crypto} {event : Event crypto}
    {forwarded : Option (Packet × SocketAddr)} (run : transport.step event = (.ok forwarded, next))
    (rest : List (Event crypto)) :
    transport.run (event :: rest) =
      ((next.run rest).1.map (forwarded.toList ++ ·), (next.run rest).2) := by
  rw [ReliableTransport.run, run]

/-- The receive loop finishes every iteration of a run if and only if every datagram is
harmless in the state the events before it leave. -/
theorem run_returns_iff (transport : ReliableTransport crypto) (events : List (Event crypto)) :
    (transport.run events).1.Returns ↔
      ∀ before event after, events = before ++ event :: after →
        event.Harmless (transport.run before).2 := by
  induction events generalizing transport with
  | nil =>
    refine iff_of_true (Outcome.returns_ok _) fun before event after split => ?_
    exact absurd split.symm (List.append_ne_nil_of_right_ne_nil before (List.cons_ne_nil event after))
  | cons event rest inductionHypothesis =>
    have first := step_returns_iff transport event
    rcases stepped : transport.step event with ⟨fault | forwarded, next⟩
    · rw [stepped] at first
      rw [run, stepped]
      refine iff_of_false (Outcome.not_returns_fault _) fun harmless => ?_
      exact Outcome.not_returns_fault fault (first.mpr (harmless [] event rest rfl))
    · rw [stepped] at first
      rw [run_cons_of_ok stepped, Outcome.returns_map_iff, inductionHypothesis next]
      constructor
      · intro harmless before other after split
        cases before with
        | nil =>
          obtain ⟨rfl, rfl⟩ := List.cons.inj split
          exact first.mp (Outcome.returns_ok _)
        | cons head before =>
          obtain ⟨rfl, rest_eq⟩ := List.cons.inj split
          rw [run_cons_of_ok stepped]
          exact harmless before other after rest_eq
      · intro harmless before other after split
        have later := harmless (event :: before) other after (by rw [split]; rfl)
        rw [run_cons_of_ok stepped] at later
        exact later

/-! ### Two hostile datagrams -/

/-- The first of no fragments. -/
def strayFragment : Packet :=
  Packet.new (flagToInt .fragmented) 7 { Payload.new .message [] with fragmentId := 1 }

/-- An acknowledgement without key and signature. -/
def bareAck : Packet := Packet.new (flagToInt .ack) 7 (Payload.new .keepAlive [])

def sampleAddress : SocketAddr := .v4 (Octets.zero 4) 9000

def samplePending : Pending where
  serialized := []
  dest := sampleAddress
  retries := 0
  lastSent := 0

/-- The first panics in the empty transport, the second once a packet is pending. -/
theorem hostile_datagrams_panic :
    ((new ∅ : ReliableTransport sampleSuite).run
        [.datagram strayFragment.serialize sampleAddress 0 default]).1.Panics ∧
      ((new ∅ : ReliableTransport sampleSuite).run [.registered 7 samplePending,
        .datagram bareAck.serialize sampleAddress 0 default]).1.Panics := by
  refine ⟨⟨"index out of bounds", ?_⟩, "range end index out of range for slice", ?_⟩
  · decide +kernel
  · decide +kernel

end ReliableTransport

end Insub
