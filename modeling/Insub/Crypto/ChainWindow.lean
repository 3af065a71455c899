/-
This file proves what one chain does with message numbers. A chain started at a seed
holds, after `n` messages, the `n`-th iterate of the chain derivation, and message `n` is
sealed under a key derived from the iterate before it. On the receiving side the number
a chain has reached and the numbers of its skipped keys form a receive window: `decrypt`
selects a key exactly when the window accepts the number, the key it selects is the one
the message was sealed with, and a number it refuses leaves the chain as it was.
-/

import Mathlib
import Insub.Library.ReceiveWindow
import Insub.Crypto.Ratchet

namespace Insub

open Rust

namespace Chain

variable (crypto : Primitives)

/-- The chain key that follows a chain key. -/
def nextKey (key : Key) : Key := crypto.hkdf none key.toList (ascii "chain-key") 32

/-- The message key that a chain key yields. -/
def outputKey (key : Key) : Key := crypto.hkdf none key.toList (ascii "message-key") 32

/-- The chain key after `count` messages. -/
def chainKeyAt (seed : Key) (count : Nat) : Key := (nextKey crypto)^[count] seed

/-- The key of message `number`, counted from `1`. -/
def messageKeyAt (seed : Key) (number : Nat) : Key :=
  outputKey crypto (chainKeyAt crypto seed (number - 1))

theorem chainKeyAt_succ (seed : Key) (count : Nat) :
    chainKeyAt crypto seed (count + 1) = nextKey crypto (chainKeyAt crypto seed count) :=
  Function.iterate_succ_apply' _ _ _

theorem chainKeyAt_next (seed : Key) (count : Nat) :
    chainKeyAt crypto (nextKey crypto seed) count = chainKeyAt crypto seed (count + 1) :=
  (Function.iterate_succ_apply _ _ _).symm

theorem chainKeyAt_chainKeyAt (seed : Key) (first second : Nat) :
    chainKeyAt crypto (chainKeyAt crypto seed first) second =
      chainKeyAt crypto seed (second + first) :=
  (Function.iterate_add_apply _ _ _ _).symm

theorem messageKeyAt_next (seed : Key) (number : Nat) (positive : 1 ≤ number) :
    messageKeyAt crypto (nextKey crypto seed) number = messageKeyAt crypto seed (number + 1) := by
  rw [messageKeyAt, messageKeyAt, chainKeyAt_next]
  congr 2
  omega

theorem messageKeyAt_chainKeyAt (seed : Key) (count number : Nat) (positive : 1 ≤ number) :
    messageKeyAt crypto (chainKeyAt crypto seed count) number =
      messageKeyAt crypto seed (number + count) := by
  rw [messageKeyAt, messageKeyAt, chainKeyAt_chainKeyAt]
  congr 2
  omega

/-! ### Moving a chain ahead -/

theorem advance_eq (chain : Chain) (fits : chain.messageNumber + 1 < u32Bound) :
    chain.advance crypto =
      (.ok (chain.messageNumber + 1, outputKey crypto chain.key),
        { chain with
          key := nextKey crypto chain.key, messageNumber := chain.messageNumber + 1 }) := by
  simp only [advance, Primitives.deriveKey_eq, addU32_ok fits]
  rfl

/-- The loop of `skip_to` moves the chain to the target, saves the keys it passes over and
hands back the last one. -/
theorem skipLoop_spec (target count : Nat) (chain : Chain) (finalKey : Key)
    (reaches : chain.messageNumber + count = target) :
    ∃ next, skipLoop crypto target (List.range' (chain.messageNumber + 1) count) chain finalKey =
        (.ok (if count = 0 then finalKey else messageKeyAt crypto chain.key count), next) ∧
      next.key = chainKeyAt crypto chain.key count ∧
      next.messageNumber = target ∧
      ∀ number, next.skippedKeys.lookup number =
        if chain.messageNumber < number ∧ number < target then
          some (messageKeyAt crypto chain.key (number - chain.messageNumber))
        else chain.skippedKeys.lookup number := by
  induction count generalizing chain finalKey with
  | zero =>
    refine ⟨chain, rfl, rfl, reaches, fun number => ?_⟩
    rw [if_neg (by omega)]
  | succ count inductionHypothesis =>
    simp only [List.range'_succ, skipLoop, Primitives.deriveKey_eq]
    by_cases last : count = 0
    · subst last
      rw [if_neg (by omega)]
      refine ⟨_, rfl, rfl, reaches, fun number => ?_⟩
      rw [if_neg (by omega)]
    · rw [if_pos (by omega)]
      obtain ⟨next, run, key, number, skipped⟩ := inductionHypothesis
        { key := nextKey crypto chain.key
          messageNumber := chain.messageNumber + 1
          skippedKeys := chain.skippedKeys.insert (chain.messageNumber + 1)
            (outputKey crypto chain.key) } finalKey (by show chain.messageNumber + 1 + count = _; omega)
      refine ⟨next, ?_, ?_, number, fun other => ?_⟩
      · rw [if_neg last, messageKeyAt_next crypto _ _ (by omega)] at run
        rw [if_neg (by omega)]
        exact run
      · rw [key, chainKeyAt_next]
      · rw [skipped other]
        by_cases first : other = chain.messageNumber + 1
        · subst first
          rw [if_neg (by simp), AList.lookup_insert, if_pos (by omega), Nat.add_sub_cancel_left]
          rfl
        · rw [AList.lookup_insert_ne first]
          by_cases passed : chain.messageNumber < other ∧ other < target
          · rw [if_pos (by show chain.messageNumber + 1 < other ∧ _; omega), if_pos passed,
              messageKeyAt_next crypto _ _ (by show 1 ≤ other - (chain.messageNumber + 1); omega)]
            congr 2
            show other - (chain.messageNumber + 1) + 1 = other - chain.messageNumber
            omega
          · rw [if_neg (by show ¬(chain.messageNumber + 1 < other ∧ _); omega), if_neg passed]

/-- `skip_to` a number ahead of the chain and within the gap it allows. -/
theorem skipTo_spec (chain : Chain) (target : Nat) (ahead : chain.messageNumber < target)
    (near : target ≤ chain.messageNumber + maxSkip)
    (fits : chain.messageNumber + 1 < u32Bound) :
    ∃ next, chain.skipTo crypto target =
        (.ok (messageKeyAt crypto chain.key (target - chain.messageNumber)), next) ∧
      next.key = chainKeyAt crypto chain.key (target - chain.messageNumber) ∧
      next.messageNumber = target ∧
      ∀ number, next.skippedKeys.lookup number =
        if chain.messageNumber < number ∧ number < target then
          some (messageKeyAt crypto chain.key (number - chain.messageNumber))
        else chain.skippedKeys.lookup number := by
  have count : target + 1 - (chain.messageNumber + 1) = target - chain.messageNumber := by omega
  obtain ⟨next, run, rest⟩ := skipLoop_spec crypto target (target - chain.messageNumber) chain
    (Octets.zero 32) (by omega)
  refine ⟨next, ?_, rest⟩
  rw [if_neg (by omega)] at run
  simp only [skipTo, subU32_ok (le_of_lt ahead), addU32_ok fits, count]
  rw [if_neg (by omega), run]

theorem skipTo_far (chain : Chain) (target : Nat)
    (far : chain.messageNumber + maxSkip < target) :
    chain.skipTo crypto target = (.error (.error "message gap too large"), chain) := by
  simp only [skipTo, subU32_ok (show chain.messageNumber ≤ target by omega)]
  rw [if_pos (by omega)]

/-! ### The key of a message -/

theorem messageKey_next (chain : Chain) (fits : chain.messageNumber + 1 < u32Bound) :
    chain.messageKey crypto (chain.messageNumber + 1) =
      (.ok (outputKey crypto chain.key),
        { chain with
          key := nextKey crypto chain.key, messageNumber := chain.messageNumber + 1 }) := by
  simp only [messageKey, addU32_ok fits, if_true, advance_eq crypto chain fits]

theorem messageKey_ahead (chain : Chain) (number : Nat)
    (ahead : chain.messageNumber + 1 < number) (fits : chain.messageNumber + 1 < u32Bound) :
    chain.messageKey crypto number = chain.skipTo crypto number := by
  simp only [messageKey, addU32_ok fits]
  rw [if_neg (by omega), if_pos ahead]

theorem messageKey_skipped (chain : Chain) (number : Nat) (key : Key)
    (behind : number ≤ chain.messageNumber) (fits : chain.messageNumber + 1 < u32Bound)
    (saved : chain.skippedKeys.lookup number = some key) :
    chain.messageKey crypto number =
      (.ok key, { chain with skippedKeys := chain.skippedKeys.erase number }) := by
  have member : number ∈ chain.skippedKeys :=
    AList.lookup_isSome.mp (by rw [saved]; rfl)
  simp only [messageKey, addU32_ok fits, trySkipped, saved]
  rw [if_neg (by omega), if_neg (by omega), if_pos member]

theorem messageKey_old (chain : Chain) (number : Nat)
    (behind : number ≤ chain.messageNumber) (fits : chain.messageNumber + 1 < u32Bound)
    (absent : chain.skippedKeys.lookup number = none) :
    chain.messageKey crypto number =
      (.error (.error "Message number is too old"), chain) := by
  have notMember : number ∉ chain.skippedKeys := AList.lookup_eq_none.mp absent
  simp only [messageKey, addU32_ok fits]
  rw [if_neg (by omega), if_neg (by omega), if_neg notMember]

/-- Every number is ahead and within the gap, or too far ahead, or was passed over and saved, or is
too old. -/
theorem messageKey_cases (chain : Chain) (number : Nat) (fits : chain.messageNumber + 1 < u32Bound) :
    (chain.messageNumber < number ∧ number ≤ chain.messageNumber + maxSkip ∧
      ∃ key next, chain.messageKey crypto number = (.ok key, next) ∧ next.messageNumber = number) ∨
    (chain.messageNumber + maxSkip < number ∧
      chain.messageKey crypto number = (.error (.error "message gap too large"), chain)) ∨
    (number ≤ chain.messageNumber ∧ ∃ key, chain.skippedKeys.lookup number = some key ∧
      chain.messageKey crypto number =
        (.ok key, { chain with skippedKeys := chain.skippedKeys.erase number })) ∨
    (number ≤ chain.messageNumber ∧ chain.skippedKeys.lookup number = none ∧
      chain.messageKey crypto number = (.error (.error "Message number is too old"), chain)) := by
  by_cases ahead : chain.messageNumber < number
  · by_cases near : number ≤ chain.messageNumber + maxSkip
    · refine Or.inl ⟨ahead, near, ?_⟩
      by_cases adjacent : number = chain.messageNumber + 1
      · rw [adjacent]
        exact ⟨_, _, messageKey_next crypto chain fits, rfl⟩
      · obtain ⟨next, run, _, reached, _⟩ := skipTo_spec crypto chain number ahead near fits
        rw [messageKey_ahead crypto chain number (by omega) fits]
        exact ⟨_, next, run, reached⟩
    · have gap : 1 ≤ maxSkip := by decide
      rw [messageKey_ahead crypto chain number (by omega) fits]
      exact Or.inr (Or.inl ⟨by omega, skipTo_far crypto chain number (by omega)⟩)
  · have behind : number ≤ chain.messageNumber := by omega
    refine Or.inr (Or.inr ?_)
    cases saved : chain.skippedKeys.lookup number with
    | some key =>
      exact Or.inl ⟨behind, key, rfl, messageKey_skipped crypto chain number key behind fits saved⟩
    | none => exact Or.inr ⟨behind, rfl, messageKey_old crypto chain number behind fits saved⟩

theorem messageKey_overflow (chain : Chain) (number : Nat)
    (overflow : u32Bound ≤ chain.messageNumber + 1) :
    (chain.messageKey crypto number).1.Panics := by
  rcases addU32_cases chain.messageNumber 1 with ⟨fits, _⟩ | ⟨site, panicked⟩
  · omega
  · exact ⟨site, by simp only [messageKey, panicked]⟩

/-! ### A chain is a receive window -/

/-- The chain started at the seed and has since moved as the window did. -/
structure Represents (seed : Key) (chain : Chain) (window : ReceiveWindow) : Prop where
  key : chain.key = chainKeyAt crypto seed window.reached
  number : chain.messageNumber = window.reached
  skipped : ∀ number, chain.skippedKeys.lookup number =
    if number ∈ window.outstanding then some (messageKeyAt crypto seed number) else none

theorem represents_start (seed : Key) :
    Represents crypto seed (start seed) ReceiveWindow.empty where
  key := rfl
  number := rfl
  skipped := fun _ => rfl

/-- A number the window accepts opens with the key the message was sealed with. -/
theorem Represents.messageKey_accept {seed : Key} {chain : Chain} {window next : ReceiveWindow}
    {number : Nat} (represents : Represents crypto seed chain window)
    (fits : chain.messageNumber + 1 < u32Bound)
    (step : window.accept maxSkip number = some next) :
    ∃ nextChain, chain.messageKey crypto number =
        (.ok (messageKeyAt crypto seed number), nextChain) ∧
      Represents crypto seed nextChain next := by
  have reached := represents.number
  rcases ReceiveWindow.accept_cases step with ⟨ahead, near, rfl⟩ | ⟨member, rfl⟩
  · by_cases adjacent : number = chain.messageNumber + 1
    · have sealedUnder : outputKey crypto chain.key = messageKeyAt crypto seed number := by
        rw [messageKeyAt, represents.key, show number - 1 = window.reached by omega]
      have run := messageKey_next crypto chain fits
      rw [← adjacent, sealedUnder] at run
      refine ⟨_, run, ?_, rfl, ?_⟩
      · show nextKey crypto chain.key = chainKeyAt crypto seed number
        rw [represents.key, ← chainKeyAt_succ, ← reached, adjacent]
      · intro other
        have between : Finset.Ioo window.reached number = ∅ :=
          Finset.eq_empty_of_forall_notMem fun value inside => by
            have bounds := Finset.mem_Ioo.mp inside
            omega
        show chain.skippedKeys.lookup other = _
        rw [represents.skipped other]
        simp only [ReceiveWindow.advanceTo, between, Finset.union_empty]
    · obtain ⟨nextChain, run, key, reachedNext, skipped⟩ :=
        skipTo_spec crypto chain number (by omega) (by omega) fits
      refine ⟨nextChain, ?_, ?_, reachedNext, fun other => ?_⟩
      · rw [messageKey_ahead crypto chain number (by omega) fits, run, represents.key,
          messageKeyAt_chainKeyAt crypto seed _ _ (by omega)]
        congr 3
        omega
      · rw [key, represents.key, chainKeyAt_chainKeyAt]
        congr 1
        show number - chain.messageNumber + window.reached = number
        omega
      · rw [skipped other, represents.skipped other, represents.key]
        simp only [ReceiveWindow.advanceTo, Finset.mem_union, Finset.mem_Ioo]
        by_cases passed : chain.messageNumber < other ∧ other < number
        · rw [if_pos passed, if_pos (Or.inr (by omega)),
            messageKeyAt_chainKeyAt crypto seed _ _ (by omega)]
          congr 2
          omega
        · have old : ¬(window.reached < other ∧ other < number) := by omega
          rw [if_neg passed]
          simp only [old, or_false]
  · have bound := window.passed number member
    refine ⟨_, messageKey_skipped crypto chain number (messageKeyAt crypto seed number)
      (by omega) fits (by rw [represents.skipped, if_pos member]), represents.key, reached, ?_⟩
    intro other
    show (chain.skippedKeys.erase number).lookup other = _
    by_cases same : other = number
    · subst same
      rw [AList.lookup_erase]
      exact (if_neg (Finset.notMem_erase other _)).symm
    · rw [AList.lookup_erase_ne same, represents.skipped other]
      simp only [ReceiveWindow.take, Finset.mem_erase, ne_eq, same, not_false_eq_true, true_and]

/-- Selecting the key of a message is accepting its number, or it fails and leaves the chain as
it was. -/
theorem Represents.messageKey_cases {seed : Key} {chain : Chain} {window : ReceiveWindow}
    (represents : Represents crypto seed chain window) (number : Nat) :
    (∃ next nextChain, window.accept maxSkip number = some next ∧
      chain.messageKey crypto number = (.ok (messageKeyAt crypto seed number), nextChain) ∧
        Represents crypto seed nextChain next) ∨
      ∃ fault, chain.messageKey crypto number = (.error fault, chain) := by
  have reached := represents.number
  rcases addU32_cases chain.messageNumber 1 with ⟨fits, _⟩ | ⟨site, panicked⟩
  · cases step : window.accept maxSkip number with
    | some next =>
      obtain ⟨nextChain, run, holds⟩ := represents.messageKey_accept crypto fits step
      exact Or.inl ⟨next, nextChain, rfl, run, holds⟩
    | none =>
      rcases ReceiveWindow.accept_eq_none_iff.mp step with far | ⟨behind, absent⟩
      · have run := messageKey_ahead crypto chain number
          (by simp only [maxSkip] at far; omega) fits
        rw [skipTo_far crypto chain number (by omega)] at run
        exact Or.inr ⟨_, run⟩
      · exact Or.inr ⟨_, messageKey_old crypto chain number (by omega) fits
          (by rw [represents.skipped, if_neg absent])⟩
  · exact Or.inr ⟨_, by simp only [messageKey, panicked]; rfl⟩

end Chain

end Insub
