/-
This file compares the two ways in which a chain moves ahead. The sender calls `advance`
once a message; the receiver of a message far ahead calls `skip_to`, whose loop derives the
keys again. Both derive the key of a message from the same iterate of the chain derivation,
so that within the gap `skip_to` allows, they agree at every number.
-/

import Mathlib
import Insub.Crypto.ChainWindow
import Insub.Crypto.SampleSuite

namespace Insub

open Rust

namespace Chain

variable (crypto : Primitives)

/-- Calls of `advance` one after the other, with what each of them returns. -/
def advances : Nat → Chain → Outcome (List (Nat × Key)) × Chain
  | 0, chain => (.ok [], chain)
  | count + 1, chain =>
    match chain.advance crypto with
    | (.error fault, chain) => (.error fault, chain)
    | (.ok first, chain) =>
      match advances count chain with
      | (.error fault, chain) => (.error fault, chain)
      | (.ok rest, chain) => (.ok (first :: rest), chain)

/-- What the calls return, numbered from the chain's own number on. -/
def outputs (chain : Chain) (count : Nat) : List (Nat × Key) :=
  (List.range' 1 count).map fun step =>
    (chain.messageNumber + step, messageKeyAt crypto chain.key step)

theorem outputs_cons (chain : Chain) (count : Nat) :
    chain.outputs crypto (count + 1) =
      (chain.messageNumber + 1, outputKey crypto chain.key) ::
        Chain.outputs crypto { chain with
          key := nextKey crypto chain.key, messageNumber := chain.messageNumber + 1 } count := by
  have shifted : List.range' 2 count = (List.range' 1 count).map (1 + ·) := by
    rw [List.map_add_range']
  rw [outputs, List.range'_succ, List.map_cons, shifted, List.map_map]
  refine congrArg (_ :: ·) (List.map_congr_left fun step member => ?_)
  have positive : 1 ≤ step := (List.mem_range'_1.mp member).1
  simp only [Function.comp_apply]
  rw [messageKeyAt_next crypto _ _ positive, Nat.add_comm 1 step]
  refine Prod.ext ?_ rfl
  show chain.messageNumber + (step + 1) = chain.messageNumber + 1 + step
  omega

theorem outputs_concat (chain : Chain) (count : Nat) :
    chain.outputs crypto (count + 1) = chain.outputs crypto count ++
      [(chain.messageNumber + (count + 1), messageKeyAt crypto chain.key (count + 1))] := by
  rw [outputs, List.range'_concat, List.map_append, Nat.one_mul, Nat.add_comm 1 count]
  rfl

theorem mem_outputs_iff {chain : Chain} {count number : Nat} {key : Key} :
    (number, key) ∈ chain.outputs crypto count ↔
      chain.messageNumber < number ∧ number ≤ chain.messageNumber + count ∧
        messageKeyAt crypto chain.key (number - chain.messageNumber) = key := by
  rw [outputs, List.mem_map]
  constructor
  · rintro ⟨step, member, same⟩
    have bounds := List.mem_range'_1.mp member
    obtain ⟨rfl, rfl⟩ := Prod.mk.inj same
    refine ⟨by omega, by omega, ?_⟩
    rw [Nat.add_sub_cancel_left]
  · rintro ⟨above, below, same⟩
    refine ⟨number - chain.messageNumber, List.mem_range'_1.mpr (by omega), ?_⟩
    rw [same, Nat.add_sub_cancel' above.le]

/-- Calls of `advance` walk along the chain derivation. -/
theorem advances_eq (count : Nat) (chain : Chain)
    (fits : chain.messageNumber + count < u32Bound) :
    chain.advances crypto count =
      (.ok (chain.outputs crypto count),
        { chain with
          key := chainKeyAt crypto chain.key count
          messageNumber := chain.messageNumber + count }) := by
  induction count generalizing chain with
  | zero => rfl
  | succ count inductionHypothesis =>
    have walked := inductionHypothesis
      { chain with
        key := nextKey crypto chain.key, messageNumber := chain.messageNumber + 1 }
      (by show chain.messageNumber + 1 + count < u32Bound; omega)
    simp only [advances, advance_eq crypto chain (by omega), walked, outputs_cons,
      chainKeyAt_next]
    rw [Nat.add_right_comm, Nat.add_assoc]

/-- `skip_to` is `advance` repeated, with the keys passed over put aside; beyond the gap it
allows it fails and leaves the chain as it was. -/
theorem skipTo_eq_advances (chain : Chain) (target : Nat)
    (ahead : chain.messageNumber < target) (isU32 : target < u32Bound) :
    (target - chain.messageNumber ≤ 2048 →
      ∃ (earlier : List (Nat × Key)) (last : Key) (advanced skipped : Chain),
        chain.advances crypto (target - chain.messageNumber) =
            (.ok (earlier ++ [(target, last)]), advanced) ∧
          chain.skipTo crypto target = (.ok last, skipped) ∧
          skipped.key = advanced.key ∧
          skipped.messageNumber = advanced.messageNumber ∧
          ∀ number key, skipped.skippedKeys.lookup number = some key ↔
            (number, key) ∈ earlier ∨
              number ∉ earlier.map Prod.fst ∧ chain.skippedKeys.lookup number = some key) ∧
    (2048 < target - chain.messageNumber →
      (chain.skipTo crypto target).1.IsError ∧ (chain.skipTo crypto target).2 = chain) := by
  constructor
  · intro near
    obtain ⟨skipped, run, key, number, saved⟩ := skipTo_spec crypto chain target ahead
      (by show target ≤ chain.messageNumber + 2048; omega) (by omega)
    obtain ⟨count, gap⟩ : ∃ count, target - chain.messageNumber = count + 1 :=
      Nat.exists_eq_succ_of_ne_zero (by omega)
    have walked := advances_eq crypto (target - chain.messageNumber) chain (by omega)
    have reached : chain.messageNumber + (count + 1) = target := by omega
    rw [gap, outputs_concat, reached] at walked
    rw [gap] at run key ⊢
    refine ⟨chain.outputs crypto count, _, _, skipped, walked, run, key, number, ?_⟩
    intro other value
    -- The keys put aside are those of all the numbers strictly between.
    have passed : other ∈ (chain.outputs crypto count).map Prod.fst ↔
        chain.messageNumber < other ∧ other < target := by
      rw [List.mem_map]
      constructor
      · rintro ⟨⟨_, _⟩, member, rfl⟩
        have bounds := (mem_outputs_iff crypto).mp member
        exact ⟨bounds.1, by omega⟩
      · rintro ⟨above, below⟩
        exact ⟨(other, _), (mem_outputs_iff crypto).mpr ⟨above, by omega, rfl⟩, rfl⟩
    rw [saved other, passed, mem_outputs_iff crypto]
    by_cases between : chain.messageNumber < other ∧ other < target
    · rw [if_pos between, Option.some.injEq]
      constructor
      · intro same
        exact Or.inl ⟨between.1, by omega, same⟩
      · rintro (⟨_, _, same⟩ | ⟨outside, _⟩)
        · exact same
        · exact absurd between outside
    · rw [if_neg between]
      constructor
      · intro held
        exact Or.inr ⟨between, held⟩
      · rintro (⟨above, below, _⟩ | ⟨_, held⟩)
        · exact absurd ⟨above, by omega⟩ between
        · exact held
  · intro far
    rw [skipTo_far crypto chain target (by show chain.messageNumber + 2048 < target; omega)]
    exact ⟨⟨_, rfl⟩, rfl⟩

/-- From a fresh chain straight to the third message. -/
theorem skipTo_eq_advances_third :
    ∃ (earlier : List (Nat × Key)) (last : Key) (advanced skipped : Chain),
      (start (Octets.zero 32)).advances sampleSuite 3 =
          (.ok (earlier ++ [(3, last)]), advanced) ∧
        (start (Octets.zero 32)).skipTo sampleSuite 3 = (.ok last, skipped) ∧
        skipped.key = advanced.key ∧
        skipped.messageNumber = advanced.messageNumber ∧
        ∀ number key, skipped.skippedKeys.lookup number = some key ↔
          (number, key) ∈ earlier ∨ number ∉ earlier.map Prod.fst ∧
            (start (Octets.zero 32)).skippedKeys.lookup number = some key :=
  (skipTo_eq_advances sampleSuite (start (Octets.zero 32)) 3 (by decide)
    (by decide)).1 (by decide)

end Chain

end Insub
