/-
This file proves which bytes the parser of operations is safe on. Everything that it reads is
checked for its length first, save for the length of a value to store. So no bytes make it
panic that do not begin with the tag of a `Store`.
-/

import Mathlib
import Insub.Dht.Protocol

namespace Insub

open Rust

namespace DhtOperation

theorem not_panics_removeFirst {bytes : Bytes} (some_left : bytes ≠ []) :
    ¬ (removeFirst bytes).Panics := by
  cases bytes with
  | nil => exact absurd rfl some_left
  | cons byte rest => exact Outcome.not_panics_ok _

theorem not_panics_removeLength {bytes : Bytes} (enough : ¬ bytes.length < 2) :
    ¬ (removeLength bytes).Panics := by
  match bytes, enough with
  | [], enough => exact absurd (by decide) enough
  | [_], enough => exact absurd Nat.one_lt_two enough
  | _ :: _ :: _, _ => exact Outcome.not_panics_ok _

theorem not_panics_readAddress (bytes : Bytes) : ¬ (readAddress bytes).Panics := by
  rw [readAddress]
  split
  · exact Outcome.not_panics_error _
  rename_i some_left
  refine Outcome.not_panics_bind (not_panics_removeFirst fun none => some_left ?_) ?_
  · rw [none]
    rfl
  rintro ⟨addrType, rest⟩ _
  dsimp only
  split
  · exact Outcome.not_panics_bind (not_panics_takeBytes 6 rest) fun _ _ => Outcome.not_panics_ok _
  · exact Outcome.not_panics_bind (not_panics_takeBytes 18 rest) fun _ _ => Outcome.not_panics_ok _
  · exact Outcome.not_panics_error _

theorem not_panics_readNodesLoop (count : Nat) (bytes : Bytes) (listed : NodeList) :
    ¬ (readNodesLoop count bytes listed).Panics := by
  induction count generalizing bytes listed with
  | zero => exact Outcome.not_panics_ok _
  | succ count inductionHypothesis =>
    refine Outcome.not_panics_bind (not_panics_takeBytes 32 bytes) fun _ _ => ?_
    refine Outcome.not_panics_bind (not_panics_readAddress _) fun _ _ => ?_
    exact inductionHypothesis _ _

theorem not_panics_readNodes (bytes : Bytes) : ¬ (readNodes bytes).Panics := by
  rw [readNodes]
  split
  · exact Outcome.not_panics_error _
  rename_i enough
  refine Outcome.not_panics_bind (not_panics_removeLength enough) fun _ _ => ?_
  exact not_panics_readNodesLoop _ _ _

theorem not_panics_readId (bytes : Bytes) : ¬ (readId bytes).Panics :=
  Outcome.not_panics_bind (not_panics_takeBytes 32 bytes) fun _ _ => Outcome.not_panics_ok _

theorem not_panics_readHeld (bytes : Bytes) : ¬ (readHeld bytes).Panics := by
  rw [readHeld]
  split
  · exact Outcome.not_panics_error _
  rename_i some_left
  refine Outcome.not_panics_bind (not_panics_removeFirst fun none => some_left ?_) ?_
  · rw [none]
    rfl
  rintro ⟨hasValue, rest⟩ _
  dsimp only
  split
  · split
    · exact Outcome.not_panics_error _
    rename_i enough
    refine Outcome.not_panics_bind (not_panics_removeLength enough) ?_
    rintro ⟨length, value⟩ _
    dsimp only
    split
    · exact Outcome.not_panics_error _
    · exact Outcome.not_panics_ok _
  · exact Outcome.not_panics_ok _

/-- Of all kinds of operations, only a `Store` is parsed without a check. -/
theorem not_panics_fromBody {tag : UInt8} (noStore : tag ≠ 5) (bytes : Bytes) :
    ¬ (fromBody tag bytes).Panics := by
  have different : tag.toNat ≠ 5 := fun same => noStore (UInt8.toNat_inj.mp same)
  rw [fromBody]
  split
  · exact Outcome.not_panics_bind (not_panics_readId bytes) fun _ _ => Outcome.not_panics_ok _
  · exact Outcome.not_panics_bind (not_panics_readId bytes) fun _ _ => Outcome.not_panics_ok _
  · refine Outcome.not_panics_bind (not_panics_readId bytes) fun _ _ => ?_
    exact Outcome.not_panics_bind (not_panics_readId _) fun _ _ => Outcome.not_panics_ok _
  · refine Outcome.not_panics_bind (not_panics_readId bytes) fun _ _ => ?_
    exact Outcome.not_panics_bind (not_panics_readNodes _) fun _ _ => Outcome.not_panics_ok _
  · rename_i same
    exact absurd same different
  · refine Outcome.not_panics_bind (not_panics_readId bytes) fun _ _ => ?_
    exact Outcome.not_panics_bind (not_panics_takeBytes 32 _) fun _ _ => Outcome.not_panics_ok _
  · refine Outcome.not_panics_bind (not_panics_readId bytes) fun _ _ => ?_
    exact Outcome.not_panics_bind (not_panics_takeBytes 32 _) fun _ _ => Outcome.not_panics_ok _
  · refine Outcome.not_panics_bind (not_panics_readId bytes) fun _ _ => ?_
    refine Outcome.not_panics_bind (not_panics_takeBytes 32 _) fun _ _ => ?_
    refine Outcome.not_panics_bind (not_panics_readHeld _) fun _ _ => ?_
    exact Outcome.not_panics_bind (not_panics_readNodes _) fun _ _ => Outcome.not_panics_ok _
  · exact Outcome.not_panics_error _

theorem not_panics_fromSerialized {bytes : Bytes} (noStore : bytes.head? ≠ some 5) :
    ¬ (fromSerialized bytes).Panics := by
  rw [fromSerialized]
  cases bytes with
  | nil => exact Outcome.not_panics_error _
  | cons tag rest =>
    rw [List.isEmpty_cons, if_neg Bool.false_ne_true]
    refine not_panics_fromBody (fun same => noStore ?_) rest
    rw [List.head?_cons, same]

end DhtOperation

end Insub
