/-
This file models `dht/node_id.rs`: the identifiers of the nodes of the distributed hash
table, and how far they are apart.
-/

import Mathlib
import Insub.Crypto.Primitives

namespace Insub

open Rust

structure NodeID where
  id : Key
  deriving DecidableEq

namespace NodeID

def fromPubkey (crypto : Primitives) (pubkey : Key) : NodeID :=
  { id := crypto.sha256 (pubkey.toList ++ ascii "dht_node_id") }

/-- The exclusive or of two identifiers. -/
def distance (node other : NodeID) : Key :=
  ⟨List.zipWith (· ^^^ ·) node.id.toList other.id.toList, by simp⟩

/-- The distance as the integer it spells. The code compares distances as byte vectors, which
are ordered as these integers by `fromBeBytes_lt_iff`. -/
def remoteness (target node : NodeID) : Nat := fromBeBytes (target.distance node).toList

/-- `byte.leading_zeros()`. -/
def leadingZeros (byte : UInt8) : Nat := if byte = 0 then 8 else 7 - byte.toNat.log2

/-- The index of the first bit in which two identifiers differ. -/
def leadingZeroBits (node other : NodeID) : Option Nat :=
  ((node.distance other).toList.zipIdx.find? fun (byte, _) => byte ≠ 0).map
    fun (byte, position) => position * 8 + leadingZeros byte

theorem zipWith_xor_injective {first second third : Bytes} (sameSecond : second.length = first.length)
    (sameThird : third.length = first.length)
    (equal : List.zipWith (· ^^^ ·) first second = List.zipWith (· ^^^ ·) first third) :
    second = third := by
  induction first generalizing second third with
  | nil =>
    rw [List.eq_nil_of_length_eq_zero sameSecond, List.eq_nil_of_length_eq_zero sameThird]
  | cons byte rest inductionHypothesis =>
    obtain ⟨head, tail, rfl⟩ := List.exists_cons_of_length_eq_add_one sameSecond
    obtain ⟨other, others, rfl⟩ := List.exists_cons_of_length_eq_add_one sameThird
    simp only [List.zipWith_cons_cons, List.cons.injEq, UInt8.xor_right_inj] at equal
    rw [List.length_cons, List.length_cons, Nat.add_right_cancel_iff] at sameSecond sameThird
    rw [equal.1, inductionHypothesis sameSecond sameThird equal.2]

/-- No two identifiers are equally far from a target. -/
theorem remoteness_injective (target : NodeID) : Function.Injective target.remoteness := by
  rintro ⟨first⟩ ⟨second⟩ same
  have distances := fromBeBytes_inj (by simp [distance]) same
  have lists : first.toList = second.toList :=
    zipWith_xor_injective (by simp) (by simp) distances
  rw [show first = second from Subtype.ext lists]

/-- An index into the 256 bits of an identifier. -/
theorem leadingZeroBits_lt {node other : NodeID} {bits : Nat}
    (found : node.leadingZeroBits other = some bits) : bits < 256 := by
  rw [leadingZeroBits, Option.map_eq_some_iff] at found
  obtain ⟨⟨byte, position⟩, first, rfl⟩ := found
  have nonzero := List.find?_some first
  have place := List.snd_lt_of_mem_zipIdx (List.mem_of_find?_eq_some first)
  rw [decide_eq_true_iff] at nonzero
  rw [List.Vector.toList_length, Nat.add_zero] at place
  dsimp only at place ⊢
  rw [leadingZeros, if_neg nonzero]
  omega

/-! ### The first differing bit -/

/-- The bits of an identifier, from the most significant one of its first byte on. -/
def bit (node : NodeID) (index : Nat) : Bool :=
  (node.id.toList.getD (index / 8) 0).toNat.testBit (7 - index % 8)

/-- The first bit in which two identifiers differ. -/
def FirstDifference (node other : NodeID) (index : Nat) : Prop :=
  (∀ before < index, node.bit before = other.bit before) ∧ node.bit index ≠ other.bit index

theorem getD_distance (node other : NodeID) (place : Nat) :
    (node.distance other).toList.getD place 0 =
      node.id.toList.getD place 0 ^^^ other.id.toList.getD place 0 := by
  show (List.zipWith (· ^^^ ·) node.id.toList other.id.toList).getD place 0 = _
  simp only [List.getD_eq_getElem?_getD, List.getElem?_zipWith]
  by_cases inside : place < 32
  · rw [List.getElem?_eq_getElem (by simpa using inside),
      List.getElem?_eq_getElem (by simpa using inside)]
    rfl
  · rw [List.getElem?_eq_none (by simpa using inside), List.getElem?_eq_none (by simpa using inside)]
    rfl

theorem bit_eq_iff (node other : NodeID) (index : Nat) :
    node.bit index = other.bit index ↔
      ((node.distance other).toList.getD (index / 8) 0).toNat.testBit (7 - index % 8) = false := by
  rw [getD_distance, UInt8.toNat_xor, Nat.testBit_xor, bit, bit, bne_eq_false_iff_eq]

theorem leadingZeros_spec {byte : UInt8} (nonzero : byte ≠ 0) :
    leadingZeros byte < 8 ∧ byte.toNat.testBit (7 - leadingZeros byte) = true ∧
      ∀ place < leadingZeros byte, byte.toNat.testBit (7 - place) = false := by
  have positive : byte.toNat ≠ 0 := fun zero => nonzero (UInt8.toNat_inj.mp zero)
  have small : byte.toNat.log2 < 8 := (Nat.log2_lt positive).mpr byte.toNat_lt
  rw [leadingZeros, if_neg nonzero]
  refine ⟨by omega, ?_, fun place before => ?_⟩
  · rw [show 7 - (7 - byte.toNat.log2) = byte.toNat.log2 by omega]
    exact Nat.testBit_log2 positive
  · refine Nat.testBit_lt_two_pow ((Nat.log2_lt positive).mp ?_)
    omega

/-- `leading_zero_bits` is the index of the first differing bit. -/
theorem firstDifference_of_leadingZeroBits {node other : NodeID} {bits : Nat}
    (found : node.leadingZeroBits other = some bits) : node.FirstDifference other bits := by
  rw [leadingZeroBits, Option.map_eq_some_iff] at found
  obtain ⟨⟨byte, position⟩, first, rfl⟩ := found
  obtain ⟨nonzero, place, inside, here, before⟩ := List.find?_eq_some_iff_getElem.mp first
  rw [List.length_zipIdx] at inside
  rw [List.getElem_zipIdx, Nat.zero_add] at here
  obtain ⟨byteHere, rfl⟩ := Prod.mk.inj here
  have zeros (index : Nat) (earlier : index < place) :
      (node.distance other).toList.getD index 0 = 0 := by
    have zero := before index earlier
    rw [List.getElem_zipIdx] at zero
    rw [List.getD_eq_getElem?_getD, List.getElem?_eq_getElem (earlier.trans inside)]
    simpa using zero
  have byteAt : (node.distance other).toList.getD place 0 = byte := by
    rw [List.getD_eq_getElem?_getD, List.getElem?_eq_getElem inside, byteHere]
    rfl
  obtain ⟨few, set, clear⟩ := leadingZeros_spec (of_decide_eq_true nonzero)
  refine ⟨fun index earlier => ?_, fun same => ?_⟩
  · rw [bit_eq_iff]
    rcases Nat.lt_or_ge (index / 8) place with front | here
    · rw [zeros _ front]
      exact Nat.zero_testBit _
    · dsimp only at earlier
      rw [show index / 8 = place by omega, byteAt]
      exact clear _ (by omega)
  · rw [bit_eq_iff] at same
    dsimp only at same
    rw [show (place * 8 + leadingZeros byte) / 8 = place by omega,
      show (place * 8 + leadingZeros byte) % 8 = leadingZeros byte by omega, byteAt, set] at same
    cases same

/-- There is one unless the identifiers are the same. -/
theorem leadingZeroBits_isSome {node other : NodeID} (different : node ≠ other) :
    ∃ bits, node.leadingZeroBits other = some bits := by
  refine Option.ne_none_iff_exists'.mp fun none => different ?_
  rw [leadingZeroBits, Option.map_eq_none_iff, List.find?_eq_none] at none
  have equal (place : Nat) : node.id.toList.getD place 0 = other.id.toList.getD place 0 := by
    refine UInt8.xor_eq_zero_iff.mp ?_
    rw [← getD_distance, List.getD_eq_getElem?_getD]
    rcases held : (node.distance other).toList[place]? with _ | byte
    · rfl
    · have zero := none (byte, place) (List.mk_mem_zipIdx_iff_getElem?.mpr held)
      simpa using zero
  obtain ⟨first⟩ := node
  obtain ⟨second⟩ := other
  refine congrArg NodeID.mk (Subtype.ext (List.ext_getElem (by simp) fun place inside within => ?_))
  have same : first.val.getD place 0 = second.val.getD place 0 := equal place
  rwa [List.getD_eq_getElem _ _ inside, List.getD_eq_getElem _ _ within] at same

end NodeID

end Insub
