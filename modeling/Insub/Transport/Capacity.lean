/-
This file settles which packets `split_packet` can cut. The number of fragments and the place of
each are kept in a byte, and the code narrows both without looking. What it sends covers the packet
as long as 255 chunks do. Beyond that no byte holds the number of fragments: the packet is sent
whole, or with a wrong total, or the place of a fragment overflows.
-/

import Mathlib
import Insub.Transport.Split

namespace Insub

open Rust

namespace Packet

/-- Fragments that carry the packet's bytes in order, are numbered through with their true number,
are small enough, and end with the only one that is marked as the last. -/
structure CutInto (packet : Packet) (fragments : List Packet) : Prop where
  covers : (fragments.map fun fragment => fragment.payload.data).flatten = packet.serialize
  labelled : ∀ place (fragment : Packet), fragments[place]? = some fragment →
    fragment.payload.fragmentIndex.toNat = place ∧
      fragment.payload.fragmentTotal.toNat = fragments.length ∧
        fragment.payload.fragmentId = packet.header.id
  small : ∀ fragment ∈ fragments, fragment.payload.data.length ≤ maxChunk
  flagged : ∀ place (fragment : Packet), fragments[place]? = some fragment →
    fragment.header.flags.contains .fragmented = true ∧
      (fragment.header.flags.contains .lastFragment = true ↔ place + 1 = fragments.length)

/-- A packet of at most one chunk goes as it is, and a larger one in fragments. -/
def SplitsInto (packet : Packet) (fragments : List Packet) : Prop :=
  if packet.serialize.length ≤ maxChunk then fragments = [packet] else packet.CutInto fragments

/-! ### What a cut packet is like -/

/-- Fragments that are small and counted in a byte carry at most 255 chunks. -/
theorem CutInto.few {packet : Packet} {fragments : List Packet} (cut : packet.CutInto fragments) :
    packet.serialize.length ≤ 255 * maxChunk := by
  have counted : fragments.length ≤ 255 := by
    rcases fragments with _ | ⟨first, rest⟩
    · exact Nat.zero_le _
    · have total := (cut.labelled 0 first rfl).2.1
      have bound := first.payload.fragmentTotal.toNat_lt
      omega
  have bounded : ∀ size ∈ fragments.map fun fragment => fragment.payload.data.length,
      size ≤ maxChunk := by
    intro size member
    obtain ⟨fragment, sent, rfl⟩ := List.mem_map.mp member
    exact cut.small fragment sent
  have sum := List.sum_le_card_nsmul _ maxChunk bounded
  rw [List.length_map, smul_eq_mul] at sum
  rw [← cut.covers, List.length_flatten, List.map_map]
  exact sum.trans (Nat.mul_le_mul_right maxChunk counted)

theorem flags_fragment (packet : Packet) (index : UInt8) (isLast : Bool) (chunk : Bytes)
    (id : U128) :
    (packet.fragment index isLast chunk id).header.flags.contains .fragmented = true ∧
      (packet.fragment index isLast chunk id).header.flags.contains .lastFragment = isLast := by
  have middle : PacketFlags.contains ⟨flagToInt .fragmented⟩ .fragmented = true ∧
      PacketFlags.contains ⟨flagToInt .fragmented⟩ .lastFragment = false := by decide
  have last : PacketFlags.contains ⟨flagToInt .fragmented ||| flagToInt .lastFragment⟩
        .fragmented = true ∧
      PacketFlags.contains ⟨flagToInt .fragmented ||| flagToInt .lastFragment⟩
        .lastFragment = true := by decide
  cases isLast with
  | false => exact middle
  | true => exact last

/-- A large packet of at most 255 chunks is cut into them. -/
theorem cutInto_of_few {packet : Packet} (few : packet.serialize.length ≤ 255 * maxChunk)
    (large : maxChunk < packet.serialize.length) (ids : Nat → U128) :
    ∃ fragments, packet.split ids = .ok fragments ∧ packet.CutInto fragments := by
  have total := toNat_fragmentTotal few
  let cut := chunks maxChunk packet.serialize
  let made (chunk : Bytes) (place : Nat) : Packet :=
    packet.fragment (UInt8.ofNat place) (UInt8.ofNat place + 1 = packet.fragmentTotal) chunk
      (ids place)
  -- a fragment at a place is the one made of the chunk there
  have placed (place : Nat) (fragment : Packet)
      (found : (cut.zipIdx.map fun entry => made entry.1 entry.2)[place]? = some fragment) :
      ∃ chunk, cut[place]? = some chunk ∧ fragment = made chunk place := by
    rw [List.getElem?_map, List.getElem?_zipIdx, Nat.zero_add] at found
    obtain ⟨⟨chunk, _⟩, entry, rfl⟩ := Option.map_eq_some_iff.mp found
    obtain ⟨other, here, same⟩ := Option.map_eq_some_iff.mp entry
    obtain ⟨rfl, rfl⟩ := Prod.mk.inj same
    exact ⟨other, here, rfl⟩
  have length : (cut.zipIdx.map fun entry => made entry.1 entry.2).length = cut.length := by
    rw [List.length_map, List.length_zipIdx]
  refine ⟨_, split_large few large ids, ?_, ?_, ?_, ?_⟩
  · rw [List.map_map]
    show (cut.zipIdx.map Prod.fst).flatten = packet.serialize
    rw [List.zipIdx_map_fst]
    exact flatten_chunks (by decide) _
  · intro place fragment found
    obtain ⟨chunk, here, rfl⟩ := placed place fragment found
    exact ⟨toNat_place few (List.getElem?_eq_some_iff.mp here).1, total.trans length.symm, rfl⟩
  · intro fragment member
    obtain ⟨place, found⟩ := List.mem_iff_getElem?.mp member
    obtain ⟨chunk, here, rfl⟩ := placed place fragment found
    exact length_of_mem_chunks (List.mem_of_getElem? here)
  · intro place fragment found
    obtain ⟨chunk, here, rfl⟩ := placed place fragment found
    have inside : place < cut.length := (List.getElem?_eq_some_iff.mp here).1
    obtain ⟨fragmented, last⟩ := packet.flags_fragment (UInt8.ofNat place)
      (UInt8.ofNat place + 1 = packet.fragmentTotal) chunk (ids place)
    refine ⟨fragmented, ?_⟩
    rw [last, decide_eq_true_iff, length, ← UInt8.toNat_inj, total]
    have next : (UInt8.ofNat place + 1).toNat = place + 1 := by
      have bound := packet.fragmentTotal.toNat_lt
      rw [UInt8.toNat_add, toNat_place few inside]
      refine Nat.mod_eq_of_lt ?_
      rw [total] at bound
      exact lt_of_le_of_lt inside bound
    rw [next]

/-- What `split_packet` sends covers a packet exactly if 255 chunks do, whatever ids it draws. -/
theorem splitsInto_iff (packet : Packet) (ids : Nat → U128) :
    (∃ fragments, packet.split ids = .ok fragments ∧ packet.SplitsInto fragments) ↔
      packet.serialize.length ≤ 255 * maxChunk := by
  by_cases small : packet.serialize.length ≤ maxChunk
  · have few : packet.serialize.length ≤ 255 * maxChunk := small.trans (by decide)
    exact iff_of_true ⟨[packet], split_small small ids, (if_pos small).mpr rfl⟩ few
  · have large : maxChunk < packet.serialize.length := not_le.mp small
    simp only [SplitsInto, if_neg small]
    constructor
    · rintro ⟨fragments, _, cut⟩
      exact cut.few
    · intro few
      exact cutInto_of_few few large ids

/-- A packet that takes 256 chunks. -/
def sampleLong : Packet :=
  Packet.new 0 1 (Payload.new .message (List.replicate 306000 0))

theorem length_serialize (packet : Packet) :
    packet.serialize.length = 63 + packet.payload.data.length := by
  simp only [serialize, Payload.serialize, List.length_append, List.Vector.toList_length,
    List.length_cons, List.length_nil]
  omega

/-- The number of its fragments wraps to zero, and it is sent whole. -/
theorem long_packet_sent_whole : sampleLong.split (fun _ => 7) = .ok [sampleLong] ∧
    ¬ sampleLong.SplitsInto [sampleLong] := by
  have size : sampleLong.serialize.length = 306063 := by
    rw [length_serialize, show sampleLong.payload.data = List.replicate 306000 0 from rfl,
      List.length_replicate]
  have total : sampleLong.fragmentTotal = 0 := by
    rw [fragmentTotal, size]
    decide
  constructor
  · rw [split, total]
    rfl
  · rw [SplitsInto, size]
    intro cut
    have few := CutInto.few (cut : sampleLong.CutInto [sampleLong])
    rw [size] at few
    exact absurd few (by decide)

end Packet

end Insub
