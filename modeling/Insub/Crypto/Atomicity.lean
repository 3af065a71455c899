/-
This file settles what a failed `decrypt` leaves behind. The header of a message is not
authenticated on its own, and `decrypt` writes before it opens the ciphertext: a ratchet
key other than the current one turns the ratchet, and a number that selects a message key
consumes that key. Only the two refusals that come before any write, a number too far
ahead and a number too old, leave the ratchet as it was.
-/

import Mathlib
import Insub.Crypto.ChainWindow
import Insub.Crypto.SampleSuite

namespace Insub

open Rust

namespace Chain

variable (crypto : Primitives)

/-- The number is the next one, lies within the gap ahead, or was skipped and saved. -/
def Selects (chain : Chain) (number : Nat) : Prop :=
  (chain.messageNumber < number ∧ number ≤ chain.messageNumber + maxSkip) ∨
    (number ≤ chain.messageNumber ∧ number ∈ chain.skippedKeys)

/-- A number that selects a key changes the chain. -/
theorem messageKey_of_selects {chain : Chain} {number : Nat} (selects : chain.Selects number)
    (fits : chain.messageNumber + 1 < u32Bound) :
    ∃ key next, chain.messageKey crypto number = (.ok key, next) ∧ next ≠ chain := by
  rcases chain.messageKey_cases crypto number fits with ⟨ahead, _, key, next, run, reached⟩ |
    ⟨far, _⟩ | ⟨_, key, saved, run⟩ | ⟨behind, absent, _⟩
  · refine ⟨key, next, run, ?_⟩
    rintro rfl
    exact absurd reached (Nat.ne_of_lt ahead)
  · rcases selects with ⟨_, near⟩ | ⟨behind, _⟩ <;> omega
  · refine ⟨key, _, run, fun same => ?_⟩
    have erased : (chain.skippedKeys.erase number).lookup number = some key := by
      rw [show chain.skippedKeys.erase number = chain.skippedKeys from
        congrArg Chain.skippedKeys same, saved]
    rw [AList.lookup_erase] at erased
    cases erased
  · rcases selects with ⟨ahead, _⟩ | ⟨_, member⟩
    · omega
    · exact absurd member (AList.lookup_eq_none.mp absent)

/-- A number that selects no key is refused, and the chain stays as it was. -/
theorem messageKey_of_not_selects {chain : Chain} {number : Nat}
    (refused : ¬ chain.Selects number) (fits : chain.messageNumber + 1 < u32Bound) :
    ∃ message, chain.messageKey crypto number = (.error (.error message), chain) := by
  rcases chain.messageKey_cases crypto number fits with ⟨ahead, near, _⟩ | ⟨_, run⟩ |
    ⟨behind, key, saved, _⟩ | ⟨_, _, run⟩
  · exact absurd (Or.inl ⟨ahead, near⟩) refused
  · exact ⟨_, run⟩
  · have member : number ∈ chain.skippedKeys :=
      AList.lookup_isSome.mp (Option.isSome_iff_exists.mpr ⟨key, saved⟩)
    exact absurd (Or.inr ⟨behind, member⟩) refused
  · exact ⟨_, run⟩

/-- A chain with a number left does not overflow. -/
theorem not_panics_messageKey (chain : Chain) (number : Nat)
    (fits : chain.messageNumber + 1 < u32Bound) : ¬ (chain.messageKey crypto number).1.Panics := by
  by_cases selects : chain.Selects number
  · obtain ⟨key, next, run, _⟩ := messageKey_of_selects crypto selects fits
    rw [run]
    exact Outcome.not_panics_ok key
  · obtain ⟨message, run⟩ := messageKey_of_not_selects crypto selects fits
    rw [run]
    exact Outcome.not_panics_error message

end Chain

namespace DoubleRatchet

/-- No receiving chain has used up its message numbers. -/
def HasRoom (ratchet : DoubleRatchet) : Prop :=
  ∀ key chain used, ratchet.receivingChains.lookup key = some (chain, used) →
    chain.messageNumber + 1 < u32Bound

theorem not_panics_openWith (crypto : Primitives) (ratchet : DoubleRatchet) (messageNumber : Nat)
    (theirDhPub : Key) (nonce : Nonce) (ciphertext : Bytes) (now : Nat)
    (fits : ∀ chain used, ratchet.receivingChains.lookup theirDhPub = some (chain, used) →
      chain.messageNumber + 1 < u32Bound) :
    ¬ (ratchet.openWith crypto messageNumber theirDhPub nonce ciphertext now).1.Panics := by
  cases held : ratchet.receivingChains.lookup theirDhPub with
  | none =>
    rw [openWith_none crypto ratchet messageNumber theirDhPub nonce ciphertext now held]
    exact Outcome.not_panics_error _
  | some entry =>
    obtain ⟨chain, used⟩ := entry
    rw [openWith_eq crypto ratchet messageNumber theirDhPub nonce ciphertext now held]
    refine Outcome.not_panics_bind ?_ fun _ _ => not_panics_okOr _ _
    exact Chain.not_panics_messageKey crypto chain messageNumber (fits chain used held)

/-- A turn starts a chain, so only the current chain can have used up its numbers. -/
theorem not_panics_decrypt_of_current (crypto : Primitives) {ratchet : DoubleRatchet}
    (room : ∀ chain used, ratchet.receivingChains.lookup ratchet.theirDhPub = some (chain, used) →
      chain.messageNumber + 1 < u32Bound)
    (messageNumber : Nat) (theirDhPub : Key) (nonce : Nonce) (ciphertext : Bytes)
    (env : Surroundings) :
    ¬ (ratchet.decrypt crypto messageNumber theirDhPub nonce ciphertext env).1.Panics := by
  by_cases turns : ratchet.theirDhPub ≠ theirDhPub
  · rw [decrypt_turn crypto ratchet messageNumber theirDhPub nonce ciphertext env turns]
    refine not_panics_openWith crypto _ messageNumber theirDhPub nonce ciphertext _ ?_
    -- the ratchet step has put a new chain there
    intro chain used held
    rw [dhRatchetStep, lookup_insertReceivingChain_self] at held
    obtain ⟨rfl, _⟩ := Prod.mk.inj (Option.some.inj held)
    exact Nat.one_lt_two_pow (by decide)
  · rw [← not_not.mp turns, decrypt_current]
    exact not_panics_openWith crypto ratchet messageNumber _ nonce ciphertext _ room

theorem not_panics_decrypt (crypto : Primitives) {ratchet : DoubleRatchet}
    (room : ratchet.HasRoom) (messageNumber : Nat) (theirDhPub : Key) (nonce : Nonce)
    (ciphertext : Bytes) (env : Surroundings) :
    ¬ (ratchet.decrypt crypto messageNumber theirDhPub nonce ciphertext env).1.Panics :=
  not_panics_decrypt_of_current crypto (room ratchet.theirDhPub) messageNumber theirDhPub nonce
    ciphertext env

/-- Two states of a ratchet agree in everything but the times at which the receiving chains
were last used. -/
structure SameButTimes (before after : DoubleRatchet) : Prop where
  rootKey : after.rootKey = before.rootKey
  sendingChain : after.sendingChain = before.sendingChain
  ourDhPriv : after.ourDhPriv = before.ourDhPriv
  theirDhPub : after.theirDhPub = before.theirDhPub
  receivingChains : ∀ key, (after.receivingChains.lookup key).map Prod.fst =
    (before.receivingChains.lookup key).map Prod.fst

/-- Putting back a chain that did not change is not observable. -/
theorem sameButTimes_insert (ratchet : DoubleRatchet) {key : Key} {chain : Chain} {used : Nat}
    (held : ratchet.receivingChains.lookup key = some (chain, used)) (now : Nat) :
    SameButTimes ratchet { ratchet with
      receivingChains := ratchet.receivingChains.insert key (chain, now) } where
  rootKey := rfl
  sendingChain := rfl
  ourDhPriv := rfl
  theirDhPub := rfl
  receivingChains := by
    intro other
    by_cases same : other = key
    · subst same
      rw [AList.lookup_insert, held]
      rfl
    · rw [AList.lookup_insert_ne same]

/-- A `decrypt` that returns an error leaves the ratchet as it was, times aside, exactly when
the message names the current ratchet key and its number selects no key of that chain: it is
more than `maxSkip` ahead, or it is behind and was not saved. -/
theorem failed_decrypt_unchanged_iff (crypto : Primitives) (ratchet : DoubleRatchet)
    (messageNumber : Nat) (theirDhPub : Key) (nonce : Nonce) (ciphertext : Bytes)
    (env : Surroundings)
    (failed : (ratchet.decrypt crypto messageNumber theirDhPub nonce ciphertext
      env).1.IsError) :
    SameButTimes ratchet
        (ratchet.decrypt crypto messageNumber theirDhPub nonce ciphertext env).2 ↔
      theirDhPub = ratchet.theirDhPub ∧
        ∀ chain used, ratchet.receivingChains.lookup theirDhPub = some (chain, used) →
          ¬ chain.Selects messageNumber := by
  by_cases current : theirDhPub = ratchet.theirDhPub
  · subst current
    rw [decrypt_current] at failed ⊢
    simp only [true_and]
    cases held : ratchet.receivingChains.lookup ratchet.theirDhPub with
    | none =>
      rw [openWith_none crypto ratchet messageNumber _ nonce ciphertext env.usedAt held]
      constructor
      · intro _ chain used found
        cases found
      · intro _
        exact ⟨rfl, rfl, rfl, rfl, fun _ => rfl⟩
    | some entry =>
      obtain ⟨chain, used⟩ := entry
      rw [openWith_eq crypto ratchet messageNumber _ nonce ciphertext env.usedAt held] at failed ⊢
      have fits : chain.messageNumber + 1 < u32Bound := by
        by_contra overflow
        obtain ⟨site, panicked⟩ :=
          Chain.messageKey_overflow crypto chain messageNumber (not_lt.mp overflow)
        rw [panicked] at failed
        exact Outcome.not_isError_panic site failed
      constructor
      · intro same other time found selects
        obtain ⟨rfl, rfl⟩ := Prod.mk.inj (Option.some.inj found)
        obtain ⟨key, next, run, changed⟩ := Chain.messageKey_of_selects crypto selects fits
        have kept := same.receivingChains ratchet.theirDhPub
        rw [run, AList.lookup_insert, held] at kept
        exact changed (Option.some.inj kept)
      · intro refused
        obtain ⟨message, run⟩ :=
          Chain.messageKey_of_not_selects crypto (refused chain used rfl) fits
        rw [run]
        exact sameButTimes_insert ratchet held env.usedAt
  · constructor
    · intro same
      have kept := same.theirDhPub
      rw [decrypt_theirDhPub] at kept
      exact absurd kept current
    · exact fun condition => absurd condition.1 current

/-! ### A forged header -/

/-- A ratchet as `new` builds it, between the secret `1` of one party and `2` of the other. -/
def sampleRatchet : DoubleRatchet where
  rootKey := SampleSuite.octets 32 7
  sendingChain := Chain.start (SampleSuite.octets 32 5)
  receivingChains := insertReceivingChain ∅ (SampleSuite.octets 32 18) (SampleSuite.octets 32 5) 0
    default
  ourDhPriv := SampleSuite.octets 32 1
  theirDhPub := SampleSuite.octets 32 18

/-- The outside of a call at time `1`, in which the secret `3` is drawn. -/
def sampleSurroundings : Surroundings where
  freshSecret := SampleSuite.octets 32 3
  insertedAt := 1
  order := default
  usedAt := 1

/-- An empty ciphertext under an unknown ratchet key is refused, and has turned the ratchet:
the root key, the sending chain and both ratchet keys are new. -/
theorem forged_header_turns_ratchet :
    (sampleRatchet.decrypt sampleSuite 1 (SampleSuite.octets 32 4) (Octets.zero 12) []
        sampleSurroundings).1.IsError ∧
      ¬ SameButTimes sampleRatchet (sampleRatchet.decrypt sampleSuite 1
        (SampleSuite.octets 32 4) (Octets.zero 12) [] sampleSurroundings).2 := by
  refine ⟨⟨"decryption failed: wrong key, wrong nonce, or corrupted/tampered data", ?_⟩, ?_⟩
  · decide +kernel
  · intro same
    have turned := same.theirDhPub
    rw [decrypt_theirDhPub] at turned
    exact absurd turned (by decide)

/-- A replayed number that is too old is refused under the current ratchet key. -/
theorem old_number_unchanged_iff :
    SameButTimes sampleRatchet (sampleRatchet.decrypt sampleSuite 0 (SampleSuite.octets 32 18)
        (Octets.zero 12) [] sampleSurroundings).2 ↔
      SampleSuite.octets 32 18 = sampleRatchet.theirDhPub ∧
        ∀ chain used, sampleRatchet.receivingChains.lookup (SampleSuite.octets 32 18) =
          some (chain, used) → ¬ chain.Selects 0 :=
  failed_decrypt_unchanged_iff sampleSuite sampleRatchet 0 (SampleSuite.octets 32 18)
    (Octets.zero 12) [] sampleSurroundings
    ⟨"Message number is too old", by decide +kernel⟩

end DoubleRatchet

end Insub
