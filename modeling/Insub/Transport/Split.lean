/-
This file models the sending half of `transport/fragment.rs`, which cuts a packet into
datagrams. The fragments of a packet are a stream that the receiving half puts together
again, as long as their number fits into a byte.
-/

import Mathlib
import Insub.Transport.Reassembly

namespace Insub

open Rust

/-- The most bytes of a serialized packet that one fragment carries. -/
def maxChunk : Nat := 1200

namespace Packet

/-- The number of fragments of a packet, as far as a byte holds it. -/
def fragmentTotal (packet : Packet) : UInt8 :=
  UInt8.ofNat ((packet.serialize.length + maxChunk - 1) / maxChunk)

/-- One iteration of the loop: the fragment that carries a chunk, under an id of its own. -/
def fragment (packet : Packet) (index : UInt8) (isLast : Bool) (chunk : Bytes) (id : U128) :
    Packet :=
  let flags :=
    if isLast then flagToInt .fragmented ||| flagToInt .lastFragment else flagToInt .fragmented
  Packet.new flags id { Payload.new packet.payload.tag chunk with
    fragmentId := packet.header.id
    fragmentIndex := index
    fragmentTotal := packet.fragmentTotal }

/-- The loop over the chunks that are left, behind those before the index. The ids come from
the random generator. -/
def splitLoop (packet : Packet) (ids : Nat → U128) : (index : Nat) → List Bytes →
    Outcome (List Packet)
  | _, [] => .ok []
  | index, chunk :: rest => do
    let following ← addU8 (UInt8.ofNat index) 1
    let fragments ← splitLoop packet ids (index + 1) rest
    .ok (packet.fragment (UInt8.ofNat index) (following = packet.fragmentTotal) chunk (ids index)
      :: fragments)

/-- `split_packet`. -/
def split (packet : Packet) (ids : Nat → U128) : Outcome (List Packet) :=
  if packet.fragmentTotal ≤ 1 then .ok [packet]
  else packet.splitLoop ids 0 (chunks maxChunk packet.serialize)

/-! ### The fragments are a stream -/

theorem serialize_length_pos (packet : Packet) : 0 < packet.serialize.length := by
  rw [serialize, List.length_append, List.Vector.toList_length]
  omega

/-- A packet whose fragments can be counted in a byte, as its receiver sees it come from a
sender. -/
def stream (packet : Packet) (sender : SocketAddr) (identified : packet.header.id ≠ 0)
    (few : packet.serialize.length ≤ 255 * maxChunk) : Stream where
  fragmentId := packet.header.id
  sender := sender
  packet := packet
  chunks := chunks maxChunk packet.serialize
  fragmented := identified
  cut := by
    rw [length_chunks, maxChunk]
    have size := packet.serialize_length_pos
    omega
  few := by
    rw [length_chunks]
    rw [maxChunk] at few ⊢
    omega
  whole := flatten_chunks (by decide) packet.serialize

theorem toNat_fragmentTotal {packet : Packet} (few : packet.serialize.length ≤ 255 * maxChunk) :
    packet.fragmentTotal.toNat = (chunks maxChunk packet.serialize).length := by
  rw [fragmentTotal, length_chunks]
  refine UInt8.toNat_ofNat_of_lt' ?_
  rw [maxChunk] at few ⊢
  show _ < 256
  omega

/-- A packet of at most one chunk is sent as it is. -/
theorem split_small {packet : Packet} (small : packet.serialize.length ≤ maxChunk)
    (ids : Nat → U128) : packet.split ids = .ok [packet] := by
  have few : packet.serialize.length ≤ 255 * maxChunk := by
    rw [maxChunk] at small ⊢
    omega
  have total := toNat_fragmentTotal few
  rw [length_chunks] at total
  refine if_pos (UInt8.le_iff_toNat_le.mpr ?_)
  rw [total, maxChunk]
  rw [maxChunk] at small
  show _ ≤ 1
  omega

/-- As long as the index of no fragment leaves its byte, the loop gives one fragment for every
chunk. -/
theorem splitLoop_eq (packet : Packet) (ids : Nat → U128) (left : List Bytes) (index : Nat)
    (fits : index + left.length ≤ 255) :
    packet.splitLoop ids index left = .ok (left.zipIdx index |>.map fun (chunk, place) =>
      packet.fragment (UInt8.ofNat place) (UInt8.ofNat place + 1 = packet.fragmentTotal) chunk
        (ids place)) := by
  induction left generalizing index with
  | nil => rfl
  | cons chunk rest inductionHypothesis =>
    rw [List.length_cons] at fits
    have small : (UInt8.ofNat index).toNat = index :=
      UInt8.toNat_ofNat_of_lt' (by show _ < 256; omega)
    rw [splitLoop, addU8_ok (by rw [small]; show index + 1 < 256; omega),
      inductionHypothesis (index + 1) (by omega)]
    rfl

/-- A packet is sent as one datagram at least. -/
theorem split_ne_nil {packet : Packet} {ids : Nat → U128} {fragments : List Packet}
    (run : packet.split ids = .ok fragments) : fragments ≠ [] := by
  rw [split] at run
  split at run
  · rw [← Except.ok.inj run]
    exact List.cons_ne_nil _ _
  · rcases cut : chunks maxChunk packet.serialize with _ | ⟨chunk, rest⟩
    · have covers := flatten_chunks (show 0 < maxChunk by decide) packet.serialize
      rw [cut, List.flatten_nil] at covers
      have size := packet.serialize_length_pos
      rw [← covers] at size
      cases size
    · rw [cut, splitLoop] at run
      obtain ⟨_, _, run⟩ := Outcome.bind_eq_ok_iff.mp run
      obtain ⟨fragments, _, run⟩ := Outcome.bind_eq_ok_iff.mp run
      rw [← Except.ok.inj run]
      exact List.cons_ne_nil _ _

/-- A packet of more than one chunk is sent as one datagram for every chunk. -/
theorem split_large {packet : Packet} (few : packet.serialize.length ≤ 255 * maxChunk)
    (large : maxChunk < packet.serialize.length) (ids : Nat → U128) :
    packet.split ids = .ok ((chunks maxChunk packet.serialize).zipIdx.map fun (chunk, place) =>
      packet.fragment (UInt8.ofNat place) (UInt8.ofNat place + 1 = packet.fragmentTotal) chunk
        (ids place)) := by
  have total := toNat_fragmentTotal few
  rw [length_chunks] at total
  have several : ¬ packet.fragmentTotal ≤ 1 := by
    rw [UInt8.le_iff_toNat_le, total, maxChunk]
    rw [maxChunk] at large
    show ¬ _ ≤ 1
    omega
  rw [split, if_neg several]
  refine packet.splitLoop_eq ids _ 0 ?_
  rw [length_chunks, maxChunk]
  rw [maxChunk] at few
  omega

/-- The place of a chunk fits into a byte. -/
theorem toNat_place {packet : Packet} (few : packet.serialize.length ≤ 255 * maxChunk) {place : Nat}
    (inside : place < (chunks maxChunk packet.serialize).length) :
    (UInt8.ofNat place).toNat = place := by
  refine UInt8.toNat_ofNat_of_lt' ?_
  rw [length_chunks, maxChunk] at inside
  rw [maxChunk] at few
  show _ < 256
  omega

/-- Every fragment of a packet that is cut belongs to the packet's stream. -/
theorem isFragment_of_split {packet : Packet} (sender : SocketAddr)
    (identified : packet.header.id ≠ 0) (few : packet.serialize.length ≤ 255 * maxChunk)
    (large : maxChunk < packet.serialize.length) {ids : Nat → U128} {fragments : List Packet}
    (run : packet.split ids = .ok fragments) {fragment : Packet} (member : fragment ∈ fragments) :
    (packet.stream sender identified few).IsFragment fragment := by
  rw [split_large few large] at run
  rw [← Except.ok.inj run] at member
  obtain ⟨⟨chunk, place⟩, cut, rfl⟩ := List.mem_map.mp member
  rw [List.mk_mem_zipIdx_iff_getElem?] at cut
  refine ⟨rfl, toNat_fragmentTotal few, ?_⟩
  show (chunks maxChunk packet.serialize)[(UInt8.ofNat place).toNat]? = some chunk
  rw [toNat_place few (List.getElem?_eq_some_iff.mp cut).1]
  exact cut

/-- The fragments are numbered through. -/
theorem places_of_split {packet : Packet} (few : packet.serialize.length ≤ 255 * maxChunk)
    (large : maxChunk < packet.serialize.length) {ids : Nat → U128} {fragments : List Packet}
    (run : packet.split ids = .ok fragments) :
    (fragments.map fun fragment => fragment.payload.fragmentIndex.toNat) =
      List.range (chunks maxChunk packet.serialize).length := by
  rw [split_large few large] at run
  rw [← Except.ok.inj run, List.map_map, List.range_eq_range', ← List.zipIdx_map_snd 0]
  refine List.map_congr_left fun cut member => ?_
  obtain ⟨chunk, place⟩ := cut
  rw [List.mk_mem_zipIdx_iff_getElem?] at member
  exact toNat_place few (List.getElem?_eq_some_iff.mp member).1

end Packet

end Insub
