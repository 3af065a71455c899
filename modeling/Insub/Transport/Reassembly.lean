/-
This file proves that reassembly does not depend on the order in which fragments arrive, and
that packets of different ids or senders do not get into each other's way. A stream is a
packet cut into chunks. Whatever was fed before, and however often, the reassembler holds of
every stream the chunks that were fed of it, each at its place. So a fragment gives the packet
back if and only if no chunk is missing any more.
-/

import Mathlib
import Insub.Transport.Fragment

namespace Insub

open Rust

/-- A packet that is sent in chunks, under an id of its sender. -/
structure Stream where
  fragmentId : U128
  sender : SocketAddr
  packet : Packet
  chunks : List Bytes
  fragmented : fragmentId ≠ 0
  cut : 1 ≤ chunks.length
  few : chunks.length ≤ 255
  whole : chunks.flatten = packet.serialize

namespace Stream

def key (stream : Stream) : U128 × SocketAddr := (stream.fragmentId, stream.sender)

/-- A packet that carries one chunk of the stream, labelled with its place and their number. -/
structure IsFragment (stream : Stream) (fragment : Packet) : Prop where
  id : fragment.payload.fragmentId = stream.fragmentId
  total : fragment.payload.fragmentTotal.toNat = stream.chunks.length
  chunk : stream.chunks[fragment.payload.fragmentIndex.toNat]? = some fragment.payload.data

/-- The chunks that were fed are held, each at its place. -/
structure Held (stream : Stream) (fed : Nat → Prop) (chunks : List (Option Bytes)) : Prop where
  length : chunks.length = stream.chunks.length
  present : ∀ index, fed index → chunks[index]? = stream.chunks[index]?.map some
  absent : ∀ index < stream.chunks.length, ¬ fed index → chunks[index]? = some none

end Stream

/-- Any number of streams, no two of which have an id and a sender in common. -/
structure Streams (Name : Type) where
  stream : Name → Stream
  distinct : Function.Injective fun name => (stream name).key

/-- A fragment of one of the streams, as it arrives. -/
structure Arrival {Name : Type} (streams : Streams Name) where
  name : Name
  fragment : Packet
  now : Instant
  isFragment : (streams.stream name).IsFragment fragment

variable {Name : Type} {streams : Streams Name}

namespace Arrival

def sender (arrival : Arrival streams) : SocketAddr := (streams.stream arrival.name).sender

def index (arrival : Arrival streams) : Nat := arrival.fragment.payload.fragmentIndex.toNat

/-- Whether a chunk of a stream is among the arrivals. -/
def Fed (arrivals : List (Arrival streams)) (name : Name) (index : Nat) : Prop :=
  ∃ arrival ∈ arrivals, arrival.name = name ∧ arrival.index = index

/-- Every chunk of a stream is among the arrivals. -/
def Complete (arrivals : List (Arrival streams)) (name : Name) : Prop :=
  ∀ index < (streams.stream name).chunks.length, Fed arrivals name index

instance [DecidableEq Name] (arrivals : List (Arrival streams)) (name : Name) (index : Nat) :
    Decidable (Fed arrivals name index) :=
  inferInstanceAs (Decidable (∃ arrival ∈ arrivals, arrival.name = name ∧ arrival.index = index))

instance [DecidableEq Name] (arrivals : List (Arrival streams)) (name : Name) :
    Decidable (Complete arrivals name) :=
  inferInstanceAs (Decidable (∀ index < (streams.stream name).chunks.length,
    Fed arrivals name index))

end Arrival

/-- The reassembler once all of the arrivals were fed, in their order. -/
def Reassembler.feedAll (reassembler : Reassembler) (arrivals : List (Arrival streams)) :
    Reassembler :=
  arrivals.foldl (fun reassembler arrival =>
    (reassembler.feed arrival.fragment arrival.sender arrival.now).2) reassembler

/-! ### Joining the chunks -/

namespace PendingReassembly

theorem join_map_some (chunks : List Bytes) (data : Bytes) :
    join (chunks.map some) data = some (data ++ chunks.flatten) := by
  induction chunks generalizing data with
  | nil => simp [join]
  | cons chunk rest inductionHypothesis =>
    rw [List.map_cons, join, inductionHypothesis, List.flatten_cons, List.append_assoc]

theorem join_missing {chunks : List (Option Bytes)} (missing : none ∈ chunks) (data : Bytes) :
    join chunks data = none := by
  induction chunks generalizing data with
  | nil => cases missing
  | cons chunk rest inductionHypothesis =>
    cases chunk with
    | none => rfl
    | some bytes =>
      rcases List.mem_cons.mp missing with same | later
      · cases same
      · exact inductionHypothesis later _

end PendingReassembly

namespace Stream

/-- What is held of a stream is the packet once it is complete. -/
theorem Held.join_complete {stream : Stream} {fed : Nat → Prop} {chunks : List (Option Bytes)}
    (held : stream.Held fed chunks) (complete : ∀ index < stream.chunks.length, fed index) :
    PendingReassembly.join chunks [] = some stream.packet.serialize := by
  have all : chunks = stream.chunks.map some := by
    refine List.ext_getElem? fun index => ?_
    rw [List.getElem?_map]
    by_cases inside : index < stream.chunks.length
    · exact held.present index (complete index inside)
    · have outside := not_lt.mp inside
      rw [List.getElem?_eq_none outside, List.getElem?_eq_none (held.length ▸ outside)]
      rfl
  rw [all, PendingReassembly.join_map_some, List.nil_append, stream.whole]

/-- Before, it is nothing. -/
theorem Held.join_incomplete {stream : Stream} {fed : Nat → Prop} {chunks : List (Option Bytes)}
    (held : stream.Held fed chunks) (incomplete : ¬ ∀ index < stream.chunks.length, fed index) :
    PendingReassembly.join chunks [] = none := by
  push Not at incomplete
  obtain ⟨index, inside, missing⟩ := incomplete
  exact PendingReassembly.join_missing
    (List.mem_of_getElem? (held.absent index inside missing)) []

theorem held_replicate (stream : Stream) {count : Nat} (sized : count = stream.chunks.length) :
    stream.Held (fun _ => False) (List.replicate count none) where
  length := by rw [List.length_replicate, sized]
  present _ never := never.elim
  absent index inside _ := by
    rw [List.getElem?_replicate, if_pos (sized ▸ inside)]

/-- A chunk is put in its place. -/
theorem Held.set {stream : Stream} {fed : Nat → Prop} {chunks : List (Option Bytes)}
    (held : stream.Held fed chunks) {index : Nat} {chunk : Bytes}
    (place : stream.chunks[index]? = some chunk) :
    stream.Held (fun other => fed other ∨ index = other) (chunks.set index (some chunk)) where
  length := by rw [List.length_set, held.length]
  present other fedNow := by
    by_cases same : index = other
    · subst same
      have inside : index < chunks.length := by
        rw [held.length]
        exact (List.getElem?_eq_some_iff.mp place).1
      rw [List.getElem?_set_self inside, place]
      rfl
    · rw [List.getElem?_set_ne same]
      exact held.present other (fedNow.resolve_right same)
  absent other inside missing := by
    rw [not_or] at missing
    rw [List.getElem?_set_ne missing.2]
    exact held.absent other inside missing.1

end Stream

/-! ### What a fragment changes -/

namespace Reassembler

/-- A fragment inside its total has its reassembly written back, with its chunk put in. -/
theorem feed_eq (reassembler : Reassembler) {packet : Packet}
    (fragment : packet.payload.fragmentId ≠ 0)
    (inside : packet.payload.fragmentIndex < packet.payload.fragmentTotal)
    (sender : SocketAddr) (now : Instant) :
    ∃ placed : PendingReassembly,
      (reassembler.feed packet sender now).2 =
          ⟨reassembler.pending.insert (packet.payload.fragmentId, sender) placed⟩ ∧
        placed.total = packet.payload.fragmentTotal ∧
          placed.chunks = (reassembler.chunksFor packet sender).set
            packet.payload.fragmentIndex.toNat (some packet.payload.data) := by
  obtain ⟨placed, run, chunks⟩ := (reassembler.entryFor packet sender now).place_inside
    packet.payload.fragmentIndex packet.payload.data (by rw [entryFor_total]; exact inside)
  refine ⟨placed, ?_, ?_, ?_⟩
  · rw [feed]
    simp only [if_neg fragment, run]
    cases placed.isFull <;> rfl
  · refine UInt8.toNat_inj.mp ?_
    rw [← placed.sized, chunks, List.length_set, (reassembler.entryFor packet sender now).sized,
      entryFor_total]
  · rw [chunks, entryFor_chunks]

/-- A fragment is put among the chunks that are held for it. -/
theorem chunksFor_feed_self (reassembler : Reassembler) {packet other : Packet}
    (fragment : packet.payload.fragmentId ≠ 0)
    (inside : packet.payload.fragmentIndex < packet.payload.fragmentTotal)
    (sameId : other.payload.fragmentId = packet.payload.fragmentId)
    (sameTotal : other.payload.fragmentTotal = packet.payload.fragmentTotal)
    (sender : SocketAddr) (now : Instant) :
    (reassembler.feed packet sender now).2.chunksFor other sender =
      (reassembler.chunksFor packet sender).set packet.payload.fragmentIndex.toNat
        (some packet.payload.data) := by
  obtain ⟨placed, after, total, chunks⟩ := reassembler.feed_eq fragment inside sender now
  rw [after, chunksFor, sameId, AList.lookup_insert, sameTotal]
  dsimp only
  rw [if_pos total, chunks]

/-- It changes nothing for another id or another sender. -/
theorem chunksFor_feed_ne (reassembler : Reassembler) {packet other : Packet}
    {sender otherSender : SocketAddr} (fragment : packet.payload.fragmentId ≠ 0)
    (inside : packet.payload.fragmentIndex < packet.payload.fragmentTotal)
    (different : (other.payload.fragmentId, otherSender) ≠ (packet.payload.fragmentId, sender))
    (now : Instant) :
    (reassembler.feed packet sender now).2.chunksFor other otherSender =
      reassembler.chunksFor other otherSender := by
  obtain ⟨placed, after, _⟩ := reassembler.feed_eq fragment inside sender now
  rw [after, chunksFor, AList.lookup_insert_ne different, chunksFor]

end Reassembler

namespace Arrival

theorem fragmentId_ne_zero (arrival : Arrival streams) :
    arrival.fragment.payload.fragmentId ≠ 0 := by
  rw [arrival.isFragment.id]
  exact (streams.stream arrival.name).fragmented

theorem index_lt_total (arrival : Arrival streams) :
    arrival.fragment.payload.fragmentIndex < arrival.fragment.payload.fragmentTotal := by
  rw [UInt8.lt_iff_toNat_lt, arrival.isFragment.total]
  exact (List.getElem?_eq_some_iff.mp arrival.isFragment.chunk).1

theorem fed_append (arrivals : List (Arrival streams)) (last : Arrival streams) (name : Name)
    (index : Nat) :
    Fed (arrivals ++ [last]) name index ↔
      Fed arrivals name index ∨ last.name = name ∧ last.index = index := by
  simp only [Fed, List.mem_append, List.mem_singleton, or_and_right, exists_or, exists_eq_left]

end Arrival

/-! ### Any order, any repetition -/

/-- Of every stream, what is held is what was fed. -/
def Reassembler.HoldsFed (reassembler : Reassembler) (arrivals : List (Arrival streams)) : Prop :=
  ∀ name fragment, (streams.stream name).IsFragment fragment →
    (streams.stream name).Held (Arrival.Fed arrivals name)
      (reassembler.chunksFor fragment (streams.stream name).sender)

theorem Stream.Held.congr {stream : Stream} {fed other : Nat → Prop}
    {chunks : List (Option Bytes)} (held : stream.Held fed chunks)
    (same : ∀ index, other index ↔ fed index) : stream.Held other chunks := by
  rw [show other = fed from funext fun index => propext (same index)]
  exact held

theorem Reassembler.holdsFed_new : Reassembler.new.HoldsFed ([] : List (Arrival streams)) := by
  intro name fragment isFragment
  have unfed : ∀ index, Arrival.Fed ([] : List (Arrival streams)) name index ↔ False := by
    simp [Arrival.Fed]
  refine Stream.Held.congr ?_ unfed
  rw [Reassembler.chunksFor, Reassembler.new, AList.lookup_empty]
  exact (streams.stream name).held_replicate isFragment.total

/-- One more fragment is held with the others of its stream. -/
theorem Reassembler.HoldsFed.feed {reassembler : Reassembler} {arrivals : List (Arrival streams)}
    (holds : reassembler.HoldsFed arrivals) (last : Arrival streams) :
    (reassembler.feed last.fragment last.sender last.now).2.HoldsFed (arrivals ++ [last]) := by
  intro name fragment isFragment
  have fed := Arrival.fed_append arrivals last name
  by_cases same : last.name = name
  · subst same
    have sameId : fragment.payload.fragmentId = last.fragment.payload.fragmentId :=
      isFragment.id.trans last.isFragment.id.symm
    have sameTotal : fragment.payload.fragmentTotal = last.fragment.payload.fragmentTotal :=
      UInt8.toNat_inj.mp (isFragment.total.trans last.isFragment.total.symm)
    have placed := (holds last.name last.fragment last.isFragment).set last.isFragment.chunk
    rw [← reassembler.chunksFor_feed_self last.fragmentId_ne_zero last.index_lt_total sameId
      sameTotal (streams.stream last.name).sender last.now] at placed
    refine placed.congr fun index => ?_
    rw [fed, and_iff_right rfl]
    exact Iff.rfl
  · have different : (fragment.payload.fragmentId, (streams.stream name).sender) ≠
        (last.fragment.payload.fragmentId, last.sender) := by
      rw [isFragment.id, last.isFragment.id]
      exact fun keys => same (streams.distinct keys).symm
    rw [reassembler.chunksFor_feed_ne last.fragmentId_ne_zero last.index_lt_total different]
    refine (holds name fragment isFragment).congr fun index => ?_
    rw [fed, or_iff_left fun both => same both.1]

theorem Reassembler.holdsFed_feedAll (arrivals : List (Arrival streams)) :
    (Reassembler.new.feedAll arrivals).HoldsFed arrivals := by
  induction arrivals using List.reverseRecOn with
  | nil => exact Reassembler.holdsFed_new
  | append_singleton arrivals last inductionHypothesis =>
    rw [Reassembler.feedAll, List.foldl_append]
    exact inductionHypothesis.feed last

/-- The next fragment gives its packet if with it the packet's stream is complete, and nothing
else. -/
theorem Reassembler.HoldsFed.completes {reassembler : Reassembler}
    {arrivals : List (Arrival streams)} (holds : reassembler.HoldsFed arrivals)
    (last : Arrival streams) :
    (Arrival.Complete (arrivals ++ [last]) last.name →
        (reassembler.feed last.fragment last.sender last.now).1 =
          .ok (some (streams.stream last.name).packet)) ∧
      (¬ Arrival.Complete (arrivals ++ [last]) last.name →
        (reassembler.feed last.fragment last.sender last.now).1 = .ok none) := by
  have held := holds.feed last last.name last.fragment last.isFragment
  rw [show (streams.stream last.name).sender = last.sender from rfl,
    Reassembler.chunksFor_feed_self _ last.fragmentId_ne_zero last.index_lt_total rfl rfl] at held
  rw [Reassembler.feed_completed _ _ _ _ fun _ => last.index_lt_total, Reassembler.completed,
    if_neg last.fragmentId_ne_zero]
  constructor
  · intro complete
    rw [held.join_complete complete, Option.bind_some, Packet.fromSerialized_serialize]
    rfl
  · intro incomplete
    rw [held.join_incomplete incomplete, Option.bind_none]

/-- Whatever was fed of all the streams, in whatever order and however often, the next
fragment gives its packet if with it the packet's stream is complete, and nothing else. -/
theorem Reassembler.feed_after (streams : Streams Name) (arrivals : List (Arrival streams))
    (last : Arrival streams) :
    (Arrival.Complete (arrivals ++ [last]) last.name →
        ((Reassembler.new.feedAll arrivals).feed last.fragment last.sender last.now).1 =
          .ok (some (streams.stream last.name).packet)) ∧
      (¬ Arrival.Complete (arrivals ++ [last]) last.name →
        ((Reassembler.new.feedAll arrivals).feed last.fragment last.sender last.now).1 =
          .ok none) :=
  (Reassembler.holdsFed_feedAll arrivals).completes last

/-! ### Two streams -/

/-- Two senders each cut a packet in two, under one id. -/
def sampleStreams : Streams Bool where
  stream first :=
    let packet := Packet.new 0 1 (Payload.new .message [if first then 1 else 2])
    { fragmentId := 7
      sender := .v4 (Octets.zero 4) (if first then 9001 else 9002)
      packet
      chunks := [packet.serialize.take 10, packet.serialize.drop 10]
      fragmented := by decide
      cut := by simp only [List.length_cons, List.length_nil, Nat.reduceAdd, Nat.one_le_ofNat]
      few := by simp only [List.length_cons, List.length_nil, Nat.reduceAdd, Nat.reduceLeDiff]
      whole := by
        rw [List.flatten_cons, List.flatten_singleton, List.take_append_drop] }
  distinct := by decide

/-- A fragment of one of them. -/
def sampleArrival (first : Bool) (place : Fin 2) : Arrival sampleStreams where
  name := first
  fragment := Packet.new 0 2
    { Payload.new .message ((sampleStreams.stream first).chunks.get place) with
      fragmentId := 7
      fragmentIndex := UInt8.ofNat place
      fragmentTotal := 2 }
  now := 0
  isFragment := by
    refine ⟨rfl, rfl, ?_⟩
    fin_cases place <;> rfl

/-- The first packet comes out when its first chunk has followed its second, which came twice; what
came of the other stream in between gives nothing, until that one is complete as well. -/
theorem both_streams_reassembled :
    ((Reassembler.new.feedAll [sampleArrival true 1]).feed (sampleArrival false 0).fragment
      (sampleArrival false 0).sender 0).1 = .ok none ∧
    ((Reassembler.new.feedAll [sampleArrival true 1, sampleArrival false 0, sampleArrival true 1]).feed
      (sampleArrival true 0).fragment (sampleArrival true 0).sender 0).1 =
        .ok (some (sampleStreams.stream true).packet) ∧
    ((Reassembler.new.feedAll [sampleArrival true 1, sampleArrival false 0, sampleArrival true 1,
      sampleArrival true 0]).feed (sampleArrival false 1).fragment (sampleArrival false 1).sender 0).1 =
        .ok (some (sampleStreams.stream false).packet) :=
  ⟨(Reassembler.feed_after sampleStreams _ (sampleArrival false 0)).2 (by decide),
    (Reassembler.feed_after sampleStreams _ (sampleArrival true 0)).1 (by decide),
    (Reassembler.feed_after sampleStreams _ (sampleArrival false 1)).1 (by decide)⟩

end Insub
