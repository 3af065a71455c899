/-
This file is about the order of the nodes around a target. Of two nodes, the one that agrees with
the target in the first bit in which they differ is nearer. So the nodes of a bucket are nearer than
those of all deeper buckets exactly if the target differs from the table's own identifier at the bit
of the bucket, and farther otherwise.
-/

import Mathlib
import Insub.Dht.Representation

namespace Insub

open Rust

namespace NodeID

/-- The bits of the distance, from the most significant one on, say where two identifiers differ. -/
theorem testBit_remoteness (target node : NodeID) {place : Nat} (inside : place < 256) :
    (target.remoteness node).testBit (255 - place) = true ↔ target.bit place ≠ node.bit place := by
  have size : (target.distance node).toList.length = 32 := List.Vector.toList_length _
  have byte : (target.distance node).toList.reverse.getD ((255 - place) / 8) 0 =
      (target.distance node).toList.getD (place / 8) 0 := by
    rw [List.getD_eq_getElem?_getD, List.getElem?_reverse (by rw [size]; omega), size,
      show 32 - 1 - (255 - place) / 8 = place / 8 by omega, List.getD_eq_getElem?_getD]
  rw [ne_eq, bit_eq_iff, Bool.not_eq_false, remoteness, testBit_fromBeBytes, byte,
    show (255 - place) % 8 = 7 - place % 8 by omega]

theorem remoteness_lt (target node : NodeID) : target.remoteness node < 2 ^ 256 := by
  have small := fromBeBytes_lt (target.distance node).toList
  rwa [List.Vector.toList_length, show (256 : Nat) = 2 ^ 8 from rfl, ← pow_mul] at small

/-- A target is no distance from itself. -/
theorem remoteness_self (target : NodeID) : target.remoteness target = 0 := by
  refine Nat.eq_of_testBit_eq fun place => ?_
  rw [Nat.zero_testBit]
  by_cases inside : place < 256
  · have differs := testBit_remoteness target target (show 255 - place < 256 by omega)
    rw [show 255 - (255 - place) = place by omega] at differs
    simpa using differs
  · refine Nat.testBit_lt_two_pow ((remoteness_lt target target).trans_le ?_)
    exact Nat.pow_le_pow_right (by norm_num) (not_lt.mp inside)

/-- Of two nodes, the nearer one agrees with the target where they first differ. -/
theorem remoteness_lt_of_agrees {target near far : NodeID} {place : Nat} (inside : place < 256)
    (before : ∀ index < place, near.bit index = far.bit index)
    (agrees : target.bit place = near.bit place) (differs : target.bit place ≠ far.bit place) :
    target.remoteness near < target.remoteness far := by
  refine Nat.lt_of_testBit (255 - place) ?_ ((testBit_remoteness target far inside).mpr differs) ?_
  · rw [← Bool.not_eq_true, testBit_remoteness target near inside, not_not]
    exact agrees
  · intro bit above
    by_cases within : bit < 256
    · have same : near.bit (255 - bit) = far.bit (255 - bit) := before _ (by omega)
      have first := testBit_remoteness target near (show 255 - bit < 256 by omega)
      have second := testBit_remoteness target far (show 255 - bit < 256 by omega)
      rw [show 255 - (255 - bit) = bit by omega] at first second
      rw [Bool.eq_iff_iff, first, second, same]
    · have power : 2 ^ 256 ≤ 2 ^ bit := Nat.pow_le_pow_right (by norm_num) (not_lt.mp within)
      rw [Nat.testBit_lt_two_pow ((remoteness_lt target near).trans_le power),
        Nat.testBit_lt_two_pow ((remoteness_lt target far).trans_le power)]

end NodeID

namespace RoutingTable

/-- The nodes of a bucket against those of a deeper one: they are nearer if the target differs from
the table's own identifier at the bit of the bucket, and farther otherwise. -/
theorem remoteness_lt_iff {table : RoutingTable} {target first second : NodeID}
    {bucket deeper : Fin 256} (one : table.Belongs bucket first)
    (other : table.Belongs deeper second) (below : bucket < deeper) :
    target.remoteness first < target.remoteness second ↔
      target.bit bucket ≠ table.localId.bit bucket := by
  obtain ⟨agrees, differs⟩ := firstDifference_of_belongs one
  obtain ⟨deeperAgrees, _⟩ := firstDifference_of_belongs other
  have before : ∀ index < bucket.val, first.bit index = second.bit index := by
    intro index earlier
    rw [← agrees index earlier, deeperAgrees index (earlier.trans below)]
  have here : second.bit bucket = table.localId.bit bucket := (deeperAgrees bucket below).symm
  constructor
  · intro nearer same
    refine absurd nearer (NodeID.remoteness_lt_of_agrees bucket.isLt
      (fun index earlier => (before index earlier).symm) ?_ ?_).not_gt
    · rw [same, here]
    · rw [same]
      exact differs
  · intro different
    refine NodeID.remoteness_lt_of_agrees bucket.isLt before ?_ ?_
    · -- a bit that is not the own one is that of the node
      exact (Bool.eq_not.mpr different).trans (Bool.eq_not.mpr (Ne.symm differs)).symm
    · rwa [here]

end RoutingTable

end Insub
