/-
This file follows a packet over one hop: the sender cuts it, the datagrams leave with the flag
that asks for an acknowledgement, and the receiver puts together what arrives. Whatever the
order in which the datagrams arrive, the receiver is left with one packet, the one that was sent.
-/

import Mathlib
import Insub.Transport.Exchange

namespace Insub

open Rust

/-- The packets that a reassembler hands on when it is fed datagrams of one sender, one after the
other. -/
def Reassembler.feeds (reassembler : Reassembler) (sender : SocketAddr) :
    List (Packet × Instant) → Outcome (List Packet) × Reassembler
  | [] => (.ok [], reassembler)
  | (datagram, now) :: rest =>
    match reassembler.feed datagram sender now with
    | (.error fault, reassembler) => (.error fault, reassembler)
    | (.ok whole, reassembler) =>
      match reassembler.feeds sender rest with
      | (outcome, reassembler) => (outcome.map (whole.toList ++ ·), reassembler)

namespace Packet

/-- A packet crosses a hop when it can be cut, and its datagrams, in whatever order they arrive
at a receiver that holds nothing of it, are put together to one packet that is as said. -/
def Crosses (packet : Packet) (ids : Nat → U128) (sender : SocketAddr)
    (arrives : Packet → Prop) : Prop :=
  ∃ fragments, packet.split ids = .ok fragments ∧ ∀ reassembler arrivals,
    reassembler.pending.lookup (packet.header.id, sender) = none →
      (arrivals.map Prod.fst).Perm (fragments.map requireAck) →
        ∃ whole, (Reassembler.feeds reassembler sender arrivals).1 = .ok [whole] ∧ arrives whole

end Packet

theorem Packet.Crosses.mono {packet : Packet} {ids : Nat → U128} {sender : SocketAddr}
    {arrives implied : Packet → Prop} (crosses : packet.Crosses ids sender arrives)
    (implies : ∀ whole, arrives whole → implied whole) : packet.Crosses ids sender implied := by
  obtain ⟨fragments, cut, joins⟩ := crosses
  refine ⟨fragments, cut, fun reassembler arrivals free order => ?_⟩
  obtain ⟨whole, gives, holds⟩ := joins reassembler arrivals free order
  exact ⟨whole, gives, implies whole holds⟩

/-! ### The datagrams of one packet -/

/-- A stream on its own. -/
def Stream.alone (stream : Stream) : Streams Unit where
  stream _ := stream
  distinct _ _ _ := rfl

/-- Nothing is held under a key that is not in the table. -/
theorem Reassembler.holdsFed_of_none {stream : Stream} {reassembler : Reassembler}
    (free : reassembler.pending.lookup stream.key = none) :
    reassembler.HoldsFed ([] : List (Arrival stream.alone)) := by
  intro name fragment isFragment
  have unfed : ∀ index, Arrival.Fed ([] : List (Arrival stream.alone)) name index ↔ False := by
    simp [Arrival.Fed]
  refine Stream.Held.congr ?_ unfed
  have absent : reassembler.pending.lookup (fragment.payload.fragmentId, stream.sender) = none := by
    rw [isFragment.id]
    exact free
  rw [Reassembler.chunksFor, show (stream.alone.stream name).sender = stream.sender from rfl, absent]
  exact stream.held_replicate isFragment.total

/-- When each chunk of a stream is fed once, the last one gives the packet. -/
theorem Reassembler.HoldsFed.feeds {stream : Stream} {reassembler : Reassembler}
    {fed : List (Arrival stream.alone)} (holds : reassembler.HoldsFed fed)
    {rest : List (Packet × Instant)} (fragments : ∀ item ∈ rest, stream.IsFragment item.1)
    (some : rest ≠ [])
    (once : (fed.map Arrival.index ++
      rest.map fun item => item.1.payload.fragmentIndex.toNat).Perm
        (List.range stream.chunks.length)) :
    (reassembler.feeds stream.sender rest).1 = .ok [stream.packet] := by
  induction rest generalizing reassembler fed with
  | nil => exact absurd rfl some
  | cons item rest inductionHypothesis =>
    obtain ⟨datagram, now⟩ := item
    let arrival : Arrival stream.alone :=
      ⟨(), datagram, now, fragments (datagram, now) List.mem_cons_self⟩
    have covers : ∀ index, Arrival.Fed (fed ++ [arrival]) () index ↔
        index ∈ (fed ++ [arrival]).map Arrival.index := by
      intro index
      simp only [Arrival.Fed, List.mem_map, true_and]
    have next : (fed ++ [arrival]).map Arrival.index ++
        rest.map (fun item => item.1.payload.fragmentIndex.toNat) =
          fed.map Arrival.index ++ ((datagram, now) :: rest).map
            fun item => item.1.payload.fragmentIndex.toNat := by
      rw [List.map_append, List.append_assoc]
      rfl
    rw [← next] at once
    obtain ⟨whole, part⟩ := holds.completes arrival
    rw [Reassembler.feeds]
    cases rest with
    | nil =>
      rw [List.map_nil, List.append_nil] at once
      have complete : Arrival.Complete (fed ++ [arrival]) () := by
        intro index inside
        rw [covers, once.mem_iff]
        exact List.mem_range.mpr inside
      have gives := whole complete
      rcases run : reassembler.feed datagram stream.sender now with ⟨outcome, later⟩
      rw [show reassembler.feed arrival.fragment arrival.sender arrival.now = (outcome, later)
        from run] at gives
      subst gives
      rfl
    | cons second others =>
      have incomplete : ¬ Arrival.Complete (fed ++ [arrival]) () := by
        intro complete
        have inside : second.1.payload.fragmentIndex.toNat < stream.chunks.length := by
          refine List.mem_range.mp (once.mem_iff.mp ?_)
          exact List.mem_append_right _ List.mem_cons_self
        have distinct := List.disjoint_of_nodup_append (once.nodup_iff.mpr List.nodup_range)
        exact distinct ((covers _).mp (complete _ inside)) List.mem_cons_self
      have gives := part incomplete
      have held := holds.feed arrival
      rcases run : reassembler.feed datagram stream.sender now with ⟨outcome, later⟩
      rw [show reassembler.feed arrival.fragment arrival.sender arrival.now = (outcome, later)
        from run] at gives held
      subst gives
      have last := inductionHypothesis held
        (fun item member => fragments item (List.mem_cons_of_mem _ member))
        (List.cons_ne_nil _ _) once
      dsimp only at last ⊢
      rcases rerun : later.feeds stream.sender (second :: others) with ⟨outcome, final⟩
      rw [rerun] at last
      subst last
      rfl

namespace Packet

/-- A packet that is no fragment, has an id and fits into 255 datagrams arrives as it was sent,
with the flag if it was sent as one datagram. -/
theorem crosses {packet : Packet} (identified : packet.header.id ≠ 0)
    (whole : packet.payload.fragmentId = 0) (few : packet.serialize.length ≤ 255 * maxChunk)
    (ids : Nat → U128) (sender : SocketAddr) :
    packet.Crosses ids sender fun arrived => arrived = packet ∨ arrived = packet.requireAck := by
  by_cases large : maxChunk < packet.serialize.length
  · have cut := split_large few large ids
    refine ⟨_, cut, fun reassembler arrivals free order => ⟨packet, ?_, Or.inl rfl⟩⟩
    let stream := packet.stream sender identified few
    have fragments : ∀ item ∈ arrivals, stream.IsFragment item.1 := by
      intro item member
      obtain ⟨fragment, sent, same⟩ := List.mem_map.mp
        (order.mem_iff.mp (List.mem_map_of_mem member))
      have isFragment := isFragment_of_split sender identified few large cut sent
      rw [← same]
      exact ⟨isFragment.id, isFragment.total, isFragment.chunk⟩
    have some : arrivals ≠ [] := by
      rintro rfl
      exact split_ne_nil cut (List.map_eq_nil_iff.mp order.symm.eq_nil)
    have numbered := order.map fun datagram => datagram.payload.fragmentIndex.toNat
    rw [List.map_map, List.map_map] at numbered
    have holds : reassembler.HoldsFed ([] : List (Arrival stream.alone)) :=
      Reassembler.holdsFed_of_none free
    refine holds.feeds fragments some (numbered.trans (List.Perm.of_eq ?_))
    exact places_of_split few large cut
  · have cut := split_small (not_lt.mp large) ids
    refine ⟨_, cut, fun reassembler arrivals _ order => ⟨packet.requireAck, ?_, Or.inr rfl⟩⟩
    obtain ⟨⟨datagram, now⟩, rfl, arrived⟩ := List.map_eq_singleton_iff.mp
      (List.perm_singleton.mp order)
    rw [show datagram = packet.requireAck from arrived, Reassembler.feeds, Reassembler.feed,
      if_pos (show packet.requireAck.payload.fragmentId = 0 from whole)]
    rfl

end Packet

end Insub
