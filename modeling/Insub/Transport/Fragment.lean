/-
This file models the receiving half of `transport/fragment.rs`. A packet that was split
is put together from the chunks held under its fragment id and sender. The number of chunks
and the place of each come from the datagram that carries it, and a place that the number
does not cover is written to without a check.
-/

import Mathlib
import Insub.Library.HashMap
import Insub.Protocol.Packet

namespace Insub

open Rust

/-- Time after which an uncompleted fragmented packet is dropped. -/
def entryTimeout : Nat := 60

/-- The chunks of one packet. There are as many places as the total says. -/
structure PendingReassembly where
  total : UInt8
  chunks : List (Option Bytes)
  started : Instant
  sized : chunks.length = total.toNat

namespace PendingReassembly

/-- No chunk has arrived. -/
def new (total : UInt8) (now : Instant) : PendingReassembly where
  total := total
  chunks := List.replicate total.toNat none
  started := now
  sized := List.length_replicate

/-- `chunks[index as usize] = Some(data)`. -/
def place (pr : PendingReassembly) (index : UInt8) (data : Bytes) : Outcome PendingReassembly :=
  if index.toNat < pr.chunks.length then
    .ok { pr with
          chunks := pr.chunks.set index.toNat (some data)
          sized := by rw [List.length_set, pr.sized] }
  else .error (.panic "index out of bounds")

/-- The loop of `is_full`, over the chunks that are left. -/
def join : List (Option Bytes) → Bytes → Option Bytes
  | [], data => some data
  | none :: _, _ => none
  | some chunk :: rest, data => join rest (data ++ chunk)

def isFull (pr : PendingReassembly) : Option Bytes := join pr.chunks []

theorem place_inside (pr : PendingReassembly) (index : UInt8) (data : Bytes)
    (inside : index < pr.total) : ∃ placed, pr.place index data = .ok placed ∧
      placed.chunks = pr.chunks.set index.toNat (some data) := by
  have fits : index.toNat < pr.chunks.length := by
    rw [pr.sized]
    exact UInt8.lt_iff_toNat_lt.mp inside
  exact ⟨_, if_pos fits, rfl⟩

theorem place_beyond (pr : PendingReassembly) (index : UInt8) (data : Bytes)
    (beyond : pr.total ≤ index) :
    pr.place index data = .error (.panic "index out of bounds") := by
  refine if_neg ?_
  rw [pr.sized, not_lt]
  exact UInt8.le_iff_toNat_le.mp beyond

end PendingReassembly

structure Reassembler where
  pending : HashMap (U128 × SocketAddr) PendingReassembly

namespace Reassembler

def new : Reassembler := ⟨∅⟩

/-- The reassembly a fragment belongs to: the one held for its id and sender, started over
when the total is another one. -/
def entryFor (reassembler : Reassembler) (packet : Packet) (sender : SocketAddr)
    (now : Instant) : PendingReassembly :=
  let total := packet.payload.fragmentTotal
  let pr := (reassembler.pending.lookup (packet.payload.fragmentId, sender)).getD
    (PendingReassembly.new total now)
  if pr.total ≠ total then PendingReassembly.new total now else pr

def feed (reassembler : Reassembler) (packet : Packet) (sender : SocketAddr) (now : Instant) :
    Outcome (Option Packet) × Reassembler :=
  let fragmentId := packet.payload.fragmentId
  if fragmentId = 0 then (.ok (some packet), reassembler)
  else
    let index := packet.payload.fragmentIndex
    let pr := reassembler.entryFor packet sender now
    match pr.place index packet.payload.data with
    | .error fault => (.error fault, ⟨reassembler.pending.insert (fragmentId, sender) pr⟩)
    | .ok pr =>
      let reassembler := ⟨reassembler.pending.insert (fragmentId, sender) pr⟩
      match pr.isFull with
      | none => (.ok none, reassembler)
      -- assembled bytes are the original packet's full serialized form
      | some assembled => ((Packet.fromSerialized assembled).asOption, reassembler)

def evictStale (reassembler : Reassembler) (now : Instant) : Reassembler :=
  ⟨reassembler.pending.retain fun _ pr => asSecs (durationSince now pr.started) < entryTimeout⟩

/-! ### What one fragment does -/

/-- The chunks a fragment joins: those held under its id for its sender and its total, or
none. -/
def chunksFor (reassembler : Reassembler) (packet : Packet) (sender : SocketAddr) :
    List (Option Bytes) :=
  match reassembler.pending.lookup (packet.payload.fragmentId, sender) with
  | some pr =>
    if pr.total = packet.payload.fragmentTotal then pr.chunks
    else List.replicate packet.payload.fragmentTotal.toNat none
  | none => List.replicate packet.payload.fragmentTotal.toNat none

/-- The packet that is whole once a datagram has arrived: the datagram's own when it is no
fragment, else the one its chunk completes. -/
def completed (reassembler : Reassembler) (packet : Packet) (sender : SocketAddr) :
    Option Packet :=
  if packet.payload.fragmentId = 0 then some packet
  else
    (PendingReassembly.join ((reassembler.chunksFor packet sender).set
      packet.payload.fragmentIndex.toNat (some packet.payload.data)) []).bind fun assembled =>
        (Packet.fromSerialized assembled).toOption

theorem entryFor_chunks (reassembler : Reassembler) (packet : Packet) (sender : SocketAddr)
    (now : Instant) :
    (reassembler.entryFor packet sender now).chunks = reassembler.chunksFor packet sender := by
  rw [entryFor, chunksFor]
  cases held : reassembler.pending.lookup (packet.payload.fragmentId, sender) with
  | none => simp [PendingReassembly.new]
  | some pr =>
    by_cases same : pr.total = packet.payload.fragmentTotal
    · simp [same]
    · simp [same, PendingReassembly.new]

theorem entryFor_total (reassembler : Reassembler) (packet : Packet) (sender : SocketAddr)
    (now : Instant) :
    (reassembler.entryFor packet sender now).total = packet.payload.fragmentTotal := by
  rw [entryFor]
  split
  · rfl
  · rename_i same
    exact not_not.mp same

/-- A datagram whose index its total covers is taken in, and what it completes is handed
on. -/
theorem feed_completed (reassembler : Reassembler) (packet : Packet) (sender : SocketAddr)
    (now : Instant) (covered : packet.payload.fragmentId ≠ 0 →
      packet.payload.fragmentIndex < packet.payload.fragmentTotal) :
    (reassembler.feed packet sender now).1 = .ok (reassembler.completed packet sender) := by
  by_cases whole : packet.payload.fragmentId = 0
  · rw [feed, completed, if_pos whole, if_pos whole]
  · obtain ⟨placed, run, chunks⟩ := (reassembler.entryFor packet sender now).place_inside
      packet.payload.fragmentIndex packet.payload.data
      (by rw [entryFor_total]; exact covered whole)
    rw [entryFor_chunks] at chunks
    rw [feed, completed, ← chunks]
    simp only [if_neg whole, run, PendingReassembly.isFull]
    cases PendingReassembly.join placed.chunks [] with
    | none => rfl
    | some assembled => exact Outcome.asOption_eq (Packet.not_panics_fromSerialized assembled)

/-- An index beyond the total panics. -/
theorem feed_panics (reassembler : Reassembler) (packet : Packet) (sender : SocketAddr)
    (now : Instant) (fragment : packet.payload.fragmentId ≠ 0)
    (beyond : packet.payload.fragmentTotal ≤ packet.payload.fragmentIndex) :
    (reassembler.feed packet sender now).1 = .error (.panic "index out of bounds") := by
  have run := (reassembler.entryFor packet sender now).place_beyond
    packet.payload.fragmentIndex packet.payload.data (by rw [entryFor_total]; exact beyond)
  rw [feed]
  simp only [if_neg fragment, run]

end Reassembler

end Insub
