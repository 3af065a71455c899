/-
This file settles what the reassembler does once a packet is whole. It hands the packet on and
keeps the chunks, so nothing of the stream has to be missing when a fragment comes a second time,
and the packet is handed on again. A stream is given up only when its time is over.

The datagrams of a stream agree on the number of its chunks, and may come in any order and any
number of times. What they carry is not looked at before the stream is whole.
-/

import Mathlib
import Insub.Transport.Reassembly
import Insub.Transport.Split

namespace Insub

open Rust

/-- One call of `feed`. -/
structure Feeding where
  packet : Packet
  sender : SocketAddr
  now : Instant

namespace Feeding

/-- The stream of a datagram, named as the reassembler does. -/
def key (feeding : Feeding) : U128 × SocketAddr :=
  (feeding.packet.payload.fragmentId, feeding.sender)

def IsFragment (feeding : Feeding) : Prop := feeding.packet.payload.fragmentId ≠ 0

instance (feeding : Feeding) : Decidable feeding.IsFragment :=
  inferInstanceAs (Decidable (feeding.packet.payload.fragmentId ≠ 0))

def index (feeding : Feeding) : Nat := feeding.packet.payload.fragmentIndex.toNat

def total (feeding : Feeding) : UInt8 := feeding.packet.payload.fragmentTotal

/-- The fragments of a stream agree on their number, and each has a place within it. -/
structure Consistent (feedings : List Feeding) : Prop where
  inside : ∀ feeding ∈ feedings, feeding.IsFragment →
    feeding.packet.payload.fragmentIndex < feeding.total
  agreed : ∀ first ∈ feedings, ∀ second ∈ feedings, first.IsFragment → first.key = second.key →
    first.total = second.total

/-- What came last at a place of a stream. -/
def chunkAt (feedings : List Feeding) (key : U128 × SocketAddr) (index : Nat) : Option Bytes :=
  (feedings.reverse.find? fun feeding => feeding.key = key ∧ feeding.index = index).map
    fun feeding => feeding.packet.payload.data

/-- At every place of the stream a chunk has come, and together they are a packet. -/
def IsWhole (feedings : List Feeding) (key : U128 × SocketAddr) (total : Nat) : Prop :=
  ∃ chunks : List Bytes, (List.range total).map (chunkAt feedings key) = chunks.map some ∧
    ∃ packet, Packet.fromSerialized chunks.flatten = .ok packet

end Feeding

namespace Reassembler

/-- The reassembler that has been fed all of them. -/
def after (feedings : List Feeding) : Reassembler :=
  feedings.foldl (fun reassembler feeding =>
    (reassembler.feed feeding.packet feeding.sender feeding.now).2) new

/-- The next fragment yields a packet. -/
def Emits (before : List Feeding) (feeding : Feeding) : Prop :=
  feeding.IsFragment ∧ ∃ packet,
    ((after before).feed feeding.packet feeding.sender feeding.now).1 = .ok (some packet)

/-- A stream yields a packet at most once, and then has no entry any more. -/
structure EmitsOnce (feedings : List Feeding) : Prop where
  once : ∀ before first between second rest,
    feedings = before ++ first :: between ++ second :: rest → first.key = second.key →
      Emits before first → ¬ Emits (before ++ first :: between) second
  vacated : ∀ before feeding rest, feedings = before ++ feeding :: rest → Emits before feeding →
    feeding.key ∉ (after (before ++ [feeding])).pending

end Reassembler

/-! ### What was fed -/

namespace Feeding

theorem Consistent.mono {feedings fewer : List Feeding} (consistent : Consistent feedings)
    (subset : fewer ⊆ feedings) : Consistent fewer where
  inside feeding member := consistent.inside feeding (subset member)
  agreed first member second other := consistent.agreed first (subset member) second (subset other)

theorem chunkAt_append (feedings : List Feeding) (last : Feeding) (key : U128 × SocketAddr)
    (index : Nat) : chunkAt (feedings ++ [last]) key index =
      if last.key = key ∧ last.index = index then some last.packet.payload.data
      else chunkAt feedings key index := by
  rw [chunkAt, List.reverse_append, List.reverse_singleton, List.singleton_append, List.find?_cons]
  by_cases here : last.key = key ∧ last.index = index
  · simp [here]
  · simp [here, chunkAt]

/-- A chunk of another stream changes nothing. -/
theorem chunkAt_append_ne {last : Feeding} {key : U128 × SocketAddr} (other : last.key ≠ key)
    (feedings : List Feeding) : chunkAt (feedings ++ [last]) key = chunkAt feedings key := by
  funext index
  rw [chunkAt_append, if_neg fun both => other both.1]

/-- A chunk is put at its place. -/
theorem map_chunkAt_append (feedings : List Feeding) (last : Feeding) (total : Nat) :
    (List.range total).map (chunkAt (feedings ++ [last]) last.key) =
      ((List.range total).map (chunkAt feedings last.key)).set last.index
        (some last.packet.payload.data) := by
  refine List.ext_getElem (by simp) fun index inside _ => ?_
  rw [List.length_map, List.length_range] at inside
  rw [List.getElem_map, List.getElem_range, List.getElem_set, List.getElem_map, List.getElem_range,
    chunkAt_append]
  simp only [true_and]

end Feeding

namespace Reassembler

/-- Of a stream, what is held is what came last at each of its places. -/
def HoldsLatest (reassembler : Reassembler) (feedings : List Feeding) : Prop :=
  ∀ feeding : Feeding, feeding.IsFragment → Feeding.Consistent (feedings ++ [feeding]) →
    reassembler.chunksFor feeding.packet feeding.sender =
      (List.range feeding.total.toNat).map (Feeding.chunkAt feedings feeding.key)

theorem holdsLatest_new : new.HoldsLatest [] := by
  intro feeding _ _
  rw [chunksFor, new, AList.lookup_empty]
  refine List.ext_getElem (by simp [Feeding.total]) fun index inside _ => ?_
  rw [List.getElem_map, List.getElem_replicate]
  rfl

/-- One more datagram is held with the others of its stream. -/
theorem HoldsLatest.feed {reassembler : Reassembler} {feedings : List Feeding}
    (holds : reassembler.HoldsLatest feedings) {last : Feeding}
    (consistent : Feeding.Consistent (feedings ++ [last])) :
    (reassembler.feed last.packet last.sender last.now).2.HoldsLatest (feedings ++ [last]) := by
  intro feeding fragment agreed
  have fewer : feedings ++ [feeding] ⊆ feedings ++ [last] ++ [feeding] := by
    intro item member
    rw [List.mem_append] at member ⊢
    exact member.imp_left (List.mem_append_left _)
  have before := holds feeding fragment (agreed.mono fewer)
  by_cases whole : last.IsFragment
  · have inside := consistent.inside last (List.mem_append_right _ (List.mem_singleton_self _)) whole
    by_cases same : last.key = feeding.key
    · obtain ⟨sameId, sameSender⟩ : last.packet.payload.fragmentId =
          feeding.packet.payload.fragmentId ∧ last.sender = feeding.sender := Prod.mk.inj same
      have sameTotal : last.total = feeding.total :=
        agreed.agreed last (by simp) feeding (by simp) whole same
      have held := reassembler.chunksFor_feed_self whole inside sameId.symm sameTotal.symm
        last.sender last.now
      rw [← sameSender, held, ← same, Feeding.map_chunkAt_append, ← sameTotal]
      exact congrArg (List.set · _ _) (holds last whole consistent)
    · rw [reassembler.chunksFor_feed_ne whole inside (fun keys => same keys.symm),
        Feeding.chunkAt_append_ne same]
      exact before
  · have unchanged : (reassembler.feed last.packet last.sender last.now).2 = reassembler := by
      rw [Reassembler.feed, if_pos (not_not.mp whole)]
    have other : last.key ≠ feeding.key := by
      intro same
      exact fragment ((Prod.mk.inj same).1.symm.trans (not_not.mp whole))
    rw [unchanged, Feeding.chunkAt_append_ne other]
    exact before

theorem after_append (feedings : List Feeding) (last : Feeding) :
    after (feedings ++ [last]) = ((after feedings).feed last.packet last.sender last.now).2 := by
  rw [after, List.foldl_append]
  rfl

theorem holdsLatest_after {feedings : List Feeding} (consistent : Feeding.Consistent feedings) :
    (after feedings).HoldsLatest feedings := by
  induction feedings using List.reverseRecOn with
  | nil => exact holdsLatest_new
  | append_singleton feedings last inductionHypothesis =>
    rw [after_append]
    exact (inductionHypothesis (consistent.mono (List.subset_append_left _ _))).feed consistent

end Reassembler

/-! ### When a packet comes out -/

theorem PendingReassembly.join_eq_some_iff {chunks : List (Option Bytes)} {assembled : Bytes} :
    join chunks [] = some assembled ↔
      ∃ whole : List Bytes, chunks = whole.map some ∧ whole.flatten = assembled := by
  constructor
  · intro joined
    by_cases missing : none ∈ chunks
    · rw [join_missing missing] at joined
      cases joined
    · obtain ⟨whole, rfl⟩ : ∃ whole : List Bytes, chunks = whole.map some := by
        refine ⟨chunks.filterMap id, ?_⟩
        clear joined
        induction chunks with
        | nil => rfl
        | cons chunk rest inductionHypothesis =>
          rw [List.mem_cons, not_or] at missing
          obtain ⟨bytes, rfl⟩ := Option.ne_none_iff_exists'.mp (Ne.symm missing.1)
          exact congrArg (some bytes :: ·) (inductionHypothesis missing.2)
      rw [join_map_some, List.nil_append] at joined
      exact ⟨whole, rfl, Option.some.inj joined⟩
  · rintro ⟨whole, rfl, rfl⟩
    rw [join_map_some, List.nil_append]

namespace Reassembler

/-- A fragment yields a packet exactly if with it the stream is whole. -/
theorem emits_iff {before : List Feeding} {feeding : Feeding}
    (consistent : Feeding.Consistent (before ++ [feeding])) :
    Emits before feeding ↔ feeding.IsFragment ∧
      Feeding.IsWhole (before ++ [feeding]) feeding.key feeding.total.toNat := by
  refine and_congr_right fun fragment => ?_
  have inside := consistent.inside feeding (by simp) fragment
  have held := holdsLatest_after (consistent.mono (List.subset_append_left _ _)) feeding fragment
    consistent
  rw [feed_completed _ _ _ _ fun _ => inside, completed, if_neg fragment, held,
    show feeding.packet.payload.fragmentIndex.toNat = feeding.index from rfl,
    ← Feeding.map_chunkAt_append, Feeding.IsWhole]
  simp only [Except.ok.injEq, Option.bind_eq_some_iff, PendingReassembly.join_eq_some_iff]
  constructor
  · rintro ⟨packet, assembled, ⟨chunks, all, rfl⟩, parsed⟩
    refine ⟨chunks, all, packet, ?_⟩
    cases parse : Packet.fromSerialized chunks.flatten with
    | error fault =>
      rw [parse] at parsed
      cases parsed
    | ok read =>
      rw [parse] at parsed
      rw [Option.some.inj parsed]
  · rintro ⟨chunks, all, packet, parsed⟩
    exact ⟨packet, chunks.flatten, ⟨chunks, all, rfl⟩, by rw [parsed]; rfl⟩

/-- The entry of a stream outlives the packet. -/
theorem occupied_after {before : List Feeding} {feeding : Feeding}
    (consistent : Feeding.Consistent (before ++ [feeding])) (fragment : feeding.IsFragment) :
    feeding.key ∈ (after (before ++ [feeding])).pending := by
  obtain ⟨placed, written, _⟩ := (after before).feed_eq fragment
    (consistent.inside feeding (by simp) fragment) feeding.sender feeding.now
  rw [after_append, written]
  exact (AList.mem_insert _).mpr (Or.inl rfl)

/-- Streams yield at most one packet each and give their entries up, exactly if none of them ever
becomes whole. -/
theorem emitsOnce_iff {feedings : List Feeding} (consistent : Feeding.Consistent feedings) :
    EmitsOnce feedings ↔ ∀ before feeding rest, feedings = before ++ feeding :: rest →
      feeding.IsFragment →
        ¬ Feeding.IsWhole (before ++ [feeding]) feeding.key feeding.total.toNat := by
  have fewer {before : List Feeding} {feeding : Feeding} {rest : List Feeding}
      (split : feedings = before ++ feeding :: rest) :
      Feeding.Consistent (before ++ [feeding]) := by
    refine consistent.mono ?_
    rw [split, List.append_cons before feeding rest]
    exact List.subset_append_left _ _
  constructor
  · intro emitsOnce before feeding rest split fragment whole
    have emits := (emits_iff (fewer split)).mpr ⟨fragment, whole⟩
    exact emitsOnce.vacated before feeding rest split emits (occupied_after (fewer split) fragment)
  · intro never
    have quiet {before : List Feeding} {feeding : Feeding} {rest : List Feeding}
        (split : feedings = before ++ feeding :: rest) : ¬ Emits before feeding := by
      intro emits
      obtain ⟨fragment, whole⟩ := (emits_iff (fewer split)).mp emits
      exact never before feeding rest split fragment whole
    refine ⟨?_, fun before feeding rest split emits => absurd emits (quiet split)⟩
    intro before first between second rest split _ emits
    rw [List.append_assoc] at split
    exact absurd emits (quiet split)

end Reassembler

/-! ### A fragment that comes twice -/

/-- A packet cut into two chunks, as its fragments arrive. -/
def sampleFeeding (index : Nat) : Feeding where
  packet := Packet.new (flagToInt .fragmented) 7
    { Payload.new .message ((chunks 40
        (Packet.new 0 1 (Payload.new .message [1, 2, 3])).serialize).getD index []) with
      fragmentId := 1
      fragmentIndex := UInt8.ofNat index
      fragmentTotal := 2 }
  sender := .v4 (Octets.zero 4) 9000
  now := 0

theorem sampleFeeding_consistent {feedings : List Feeding}
    (sample : ∀ feeding ∈ feedings, feeding = sampleFeeding 0 ∨ feeding = sampleFeeding 1) :
    Feeding.Consistent feedings where
  inside feeding member _ := by
    rcases sample feeding member with rfl | rfl
    · decide
    · decide
  agreed first member second other _ _ := by
    rcases sample first member with rfl | rfl <;> rcases sample second other with rfl | rfl <;> rfl

namespace Reassembler

theorem repeated_fragment_emits_again :
    Feeding.Consistent [sampleFeeding 0, sampleFeeding 1, sampleFeeding 1] ∧
      (sampleFeeding 1).key ∈ (after [sampleFeeding 0, sampleFeeding 1]).pending ∧
        ¬ EmitsOnce [sampleFeeding 0, sampleFeeding 1, sampleFeeding 1] := by
  refine ⟨sampleFeeding_consistent (by simp), by decide +kernel, fun emitsOnce => ?_⟩
  have first : Emits [sampleFeeding 0] (sampleFeeding 1) :=
    ⟨by decide, Packet.new 0 1 (Payload.new .message [1, 2, 3]), by decide +kernel⟩
  have second : Emits [sampleFeeding 0, sampleFeeding 1] (sampleFeeding 1) :=
    ⟨by decide, Packet.new 0 1 (Payload.new .message [1, 2, 3]), by decide +kernel⟩
  exact emitsOnce.once [sampleFeeding 0] (sampleFeeding 1) [] (sampleFeeding 1) [] rfl rfl first
    second

/-- As long as the second chunk is missing, nothing comes out. -/
theorem half_a_stream_emitsOnce : EmitsOnce [sampleFeeding 0, sampleFeeding 0] := by
  refine (emitsOnce_iff (sampleFeeding_consistent (by simp))).mpr ?_
  rintro before feeding rest split _ ⟨chunks, all, _⟩
  have missing : Feeding.chunkAt (before ++ [feeding]) feeding.key 1 = none := by
    rcases before with _ | ⟨first, _ | ⟨second, before⟩⟩
    · cases split
      decide +kernel
    · cases split
      decide +kernel
    -- two calls cannot be split behind a second one
    · have size := congrArg List.length split
      simp at size
  have two : feeding.total.toNat = 2 := by
    have member : feeding ∈ [sampleFeeding 0, sampleFeeding 0] := by
      rw [split]
      simp
    have sample : feeding = sampleFeeding 0 := by simpa using member
    rw [sample]
    rfl
  rw [two] at all
  have present := congrArg (fun found => found[1]?) all
  simp only [List.getElem?_map] at present
  rw [show (List.range 2)[1]? = some 1 from rfl, Option.map_some, missing] at present
  cases found : chunks[1]? with
  | none => simp [found] at present
  | some chunk => simp [found] at present

end Reassembler

end Insub
