/-
This file proves what the receiving chains of a double ratchet are like after any calls, whatever
their arguments are and whether or not they fail. There are never more chains than the ratchet
saves, one of them is for the ratchet key last seen, and each holds what follows from the key it
started at: the chain key of its number, and keys of messages that it passed over.

A chain does not remember where it started. A ratchet is therefore followed together with the seed
of the newest chain of each ratchet key.
-/

import Mathlib
import Insub.Crypto.ChainWindow

namespace Insub

open Rust

/-! ### Calls on a ratchet -/

/-- One call on a ratchet. Message numbers are read from four bytes of a packet. -/
inductive RatchetOperation
  | initiatorPreRatchet (freshSecret : Key)
  | encrypt (plaintext : Bytes) (nonce : Nonce)
  | decrypt (messageNumber : UInt32) (theirDhPub : Key) (nonce : Nonce) (ciphertext : Bytes)
    (env : Surroundings)

namespace DoubleRatchet

variable (crypto : Primitives)

/-- The ratchet that a call leaves, also when it fails. -/
def perform (ratchet : DoubleRatchet) : RatchetOperation → DoubleRatchet
  | .initiatorPreRatchet freshSecret => ratchet.initiatorPreRatchet crypto freshSecret
  | .encrypt plaintext nonce => (ratchet.encrypt crypto plaintext nonce).2
  | .decrypt messageNumber theirDhPub nonce ciphertext env =>
    (ratchet.decrypt crypto messageNumber.toNat theirDhPub nonce ciphertext env).2

/-- The key that a chain for a new ratchet key would start at. -/
def receivingSeed (ratchet : DoubleRatchet) (theirNewDhPub : Key) : Key :=
  (kdfRk crypto ratchet.rootKey (crypto.diffieHellman ratchet.ourDhPriv theirNewDhPub)).2

end DoubleRatchet

/-- A ratchet, and for each ratchet key the key at which its newest chain started. -/
structure SeededRatchet where
  ratchet : DoubleRatchet
  seed : Key → Key

namespace SeededRatchet

variable (crypto : Primitives)

/-- A ratchet that was made from a shared secret. -/
def made (secret : Key) (ratchet : DoubleRatchet) : SeededRatchet where
  ratchet := ratchet
  seed _ := crypto.hkdf none secret.toList (ascii "init-chain") 32

/-- A call starts a chain when it turns the ratchet. -/
def perform (seeded : SeededRatchet) (operation : RatchetOperation) : SeededRatchet where
  ratchet := seeded.ratchet.perform crypto operation
  seed :=
    match operation with
    | .decrypt _ theirDhPub _ _ _ =>
      if seeded.ratchet.theirDhPub ≠ theirDhPub then
        Function.update seeded.seed theirDhPub (seeded.ratchet.receivingSeed crypto theirDhPub)
      else seeded.seed
    | _ => seeded.seed

end SeededRatchet

/-! ### What a chain holds -/

namespace Chain

variable (crypto : Primitives)

/-- The chain has moved from the seed to its number, and its skipped keys are keys of messages
before that. -/
structure StartedAt (seed : Key) (chain : Chain) : Prop where
  key : chain.key = chainKeyAt crypto seed chain.messageNumber
  skipped : ∀ number key, chain.skippedKeys.lookup number = some key →
    1 ≤ number ∧ number < chain.messageNumber ∧ key = messageKeyAt crypto seed number

variable {crypto}

theorem startedAt_iff {seed : Key} {chain : Chain} :
    chain.StartedAt crypto seed ↔ ∃ window, Represents crypto seed chain window := by
  constructor
  · rintro ⟨key, skipped⟩
    have passed : ∀ number ∈ chain.skippedKeys.keys.toFinset,
        1 ≤ number ∧ number < chain.messageNumber := by
      intro number member
      obtain ⟨key, held⟩ := Option.isSome_iff_exists.mp
        (AList.lookup_isSome.mpr (AList.mem_keys.mp (List.mem_toFinset.mp member)))
      obtain ⟨positive, behind, _⟩ := skipped number key held
      exact ⟨positive, behind⟩
    refine ⟨⟨chain.messageNumber, chain.skippedKeys.keys.toFinset, passed⟩, key, rfl, ?_⟩
    intro number
    have saved : number ∈ chain.skippedKeys.keys.toFinset ↔ number ∈ chain.skippedKeys := by
      rw [List.mem_toFinset, AList.mem_keys]
    cases held : chain.skippedKeys.lookup number with
    | none => exact (if_neg (saved.not.mpr (AList.lookup_eq_none.mp held))).symm
    | some key =>
      have member : number ∈ chain.skippedKeys := AList.lookup_isSome.mp (by rw [held]; rfl)
      rw [(skipped number key held).2.2]
      exact (if_pos (saved.mpr member)).symm
  · rintro ⟨window, key, number, skipped⟩
    refine ⟨by rw [key, number], fun other saved held => ?_⟩
    rw [skipped other] at held
    by_cases member : other ∈ window.outstanding
    · obtain ⟨positive, behind⟩ := window.passed other member
      rw [if_pos member] at held
      exact ⟨positive, number ▸ behind, (Option.some.inj held).symm⟩
    · rw [if_neg member] at held
      cases held

theorem startedAt_start (seed : Key) : (start seed).StartedAt crypto seed :=
  startedAt_iff.mpr ⟨_, represents_start crypto seed⟩

/-- Selecting the key of a message keeps what a chain holds, also when it fails. -/
theorem StartedAt.messageKey {seed : Key} {chain : Chain} (started : chain.StartedAt crypto seed)
    (number : Nat) : (chain.messageKey crypto number).2.StartedAt crypto seed := by
  obtain ⟨window, represents⟩ := startedAt_iff.mp started
  rcases represents.messageKey_cases crypto number with ⟨next, nextChain, _, run, after⟩ | ⟨_, run⟩
  · rw [run]
    exact startedAt_iff.mpr ⟨next, after⟩
  · rw [run]
    exact started

variable (crypto) in
/-- The error of a ratchet that has no chain. -/
theorem messageKey_ne_noChain (chain : Chain) (number : Nat) :
    (chain.messageKey crypto number).1 ≠
      .error (.error "No receiving chain for this DH pubkey") := by
  rcases addU32_cases chain.messageNumber 1 with ⟨fits, _⟩ | ⟨site, overflow⟩
  · rcases chain.messageKey_cases crypto number fits with ⟨_, _, _, _, run, _⟩ | ⟨_, run⟩ |
      ⟨_, _, _, run⟩ | ⟨_, _, run⟩
    all_goals simp [run]
  · simp [Chain.messageKey, overflow]

end Chain

/-! ### What the ratchet holds -/

namespace DoubleRatchet

/-- Inserting a chain makes room for it first. -/
theorem size_insertReceivingChain_le {receivingChains : ReceivingChains}
    (bounded : receivingChains.size ≤ maxSavedChains) (theirDhPub chainKey : Key) (now : Nat)
    (order : IterationOrder (Sigma fun _ : Key => Chain × Nat)) :
    (insertReceivingChain receivingChains theirDhPub chainKey now order).size ≤
      maxSavedChains := by
  rw [insertReceivingChain]
  refine (HashMap.size_insert_le _ _ _).trans ?_
  split
  · rename_i full
    have occupied : 0 < receivingChains.size := full.trans_lt' (by decide)
    obtain ⟨oldest, least, held, _⟩ :=
      HashMap.exists_argmin_iterate (fun entry => entry.2.2) order occupied
    have member : oldest.1 ∈ receivingChains :=
      AList.lookup_isSome.mp (Option.isSome_iff_exists.mpr ⟨_, held⟩)
    rw [oldestKey, least]
    exact (HashMap.size_erase_lt member).trans_le bounded
  · omega

end DoubleRatchet

namespace SeededRatchet

variable {crypto : Primitives}

/-- The chains are few, the ratchet key last seen has one, and each holds what follows from its
seed. -/
structure Sound (crypto : Primitives) (seeded : SeededRatchet) : Prop where
  bounded : seeded.ratchet.receivingChains.size ≤ DoubleRatchet.maxSavedChains
  current : seeded.ratchet.theirDhPub ∈ seeded.ratchet.receivingChains
  started : ∀ theirDhPub chain used,
    seeded.ratchet.receivingChains.lookup theirDhPub = some (chain, used) →
      chain.StartedAt crypto (seeded.seed theirDhPub)

theorem Sound.positive {seeded : SeededRatchet} (sound : seeded.Sound crypto) :
    1 ≤ seeded.ratchet.receivingChains.size := by
  have keys : 0 < seeded.ratchet.receivingChains.keys.length := List.length_pos_of_mem sound.current
  rwa [AList.keys, List.keys, List.length_map] at keys

theorem sound_made {secret ourDhPriv theirDhPub : Key} {now : Nat} {ratchet : DoubleRatchet}
    (built : DoubleRatchet.new crypto secret ourDhPriv theirDhPub now = .ok ratchet) :
    (made crypto secret ratchet).Sound crypto := by
  simp only [DoubleRatchet.new, Primitives.deriveKey_eq, Except.ok.injEq] at built
  subst built
  refine ⟨DoubleRatchet.size_insertReceivingChain_le (Nat.zero_le _) _ _ _ _,
    (AList.mem_insert _).mpr (Or.inl rfl), ?_⟩
  intro other chain used held
  rcases HashMap.lookup_insert_eq_some_iff.mp held with ⟨rfl, same⟩ | ⟨_, held⟩
  · obtain ⟨rfl, _⟩ := Prod.mk.inj same
    exact Chain.startedAt_start _
  · cases held

/-- A turn starts a chain at the seed of the new ratchet key, and keeps some of the others. -/
theorem Sound.turn {seeded : SeededRatchet} (sound : seeded.Sound crypto) (theirNewDhPub : Key)
    (env : Surroundings) :
    Sound crypto ⟨seeded.ratchet.dhRatchetStep crypto theirNewDhPub env,
      Function.update seeded.seed theirNewDhPub
        (seeded.ratchet.receivingSeed crypto theirNewDhPub)⟩ := by
  refine ⟨DoubleRatchet.size_insertReceivingChain_le sound.bounded _ _ _ _,
    (AList.mem_insert _).mpr (Or.inl rfl), ?_⟩
  intro other chain used held
  by_cases same : other = theirNewDhPub
  · subst same
    rw [DoubleRatchet.dhRatchetStep, DoubleRatchet.lookup_insertReceivingChain_self] at held
    obtain ⟨rfl, _⟩ := Prod.mk.inj (Option.some.inj held)
    dsimp only
    rw [Function.update_self]
    exact Chain.startedAt_start _
  · dsimp only
    rw [Function.update_of_ne same]
    exact sound.started other chain used
      (DoubleRatchet.lookup_of_insertReceivingChain same held)

/-- What follows the turn writes one chain back. -/
theorem Sound.openWith {seeded : SeededRatchet} (sound : seeded.Sound crypto)
    (messageNumber : Nat) (theirDhPub : Key) (nonce : Nonce) (ciphertext : Bytes) (now : Nat) :
    Sound crypto ⟨(seeded.ratchet.openWith crypto messageNumber theirDhPub nonce ciphertext now).2,
      seeded.seed⟩ := by
  cases found : seeded.ratchet.receivingChains.lookup theirDhPub with
  | none =>
    rw [DoubleRatchet.openWith_none crypto _ messageNumber theirDhPub nonce ciphertext now found]
    exact sound
  | some entry =>
    obtain ⟨chain, used⟩ := entry
    rw [DoubleRatchet.openWith_eq crypto _ messageNumber theirDhPub nonce ciphertext now found]
    have member : theirDhPub ∈ seeded.ratchet.receivingChains :=
      AList.lookup_isSome.mp (by rw [found]; rfl)
    refine ⟨?_, (AList.mem_insert _).mpr (Or.inr sound.current), ?_⟩
    · exact (HashMap.size_insert_of_mem member).trans_le sound.bounded
    · intro other next used held
      rcases HashMap.lookup_insert_eq_some_iff.mp held with ⟨rfl, same⟩ | ⟨_, held⟩
      · obtain ⟨rfl, _⟩ := Prod.mk.inj same
        exact (sound.started other chain _ found).messageKey messageNumber
      · exact sound.started other next used held

variable (crypto) in
theorem encrypt_frame (ratchet : DoubleRatchet) (plaintext : Bytes) (nonce : Nonce) :
    ∃ sendingChain, (ratchet.encrypt crypto plaintext nonce).2 = { ratchet with sendingChain } := by
  rw [DoubleRatchet.encrypt]
  rcases ratchet.sendingChain.advance crypto with ⟨fault | ⟨messageNumber, messageKey⟩, chain⟩
  · exact ⟨chain, rfl⟩
  · dsimp only
    split
    · exact ⟨chain, rfl⟩
    · exact ⟨chain, rfl⟩

/-- Every call keeps the receiving chains sound. -/
theorem Sound.perform {seeded : SeededRatchet} (sound : seeded.Sound crypto)
    (operation : RatchetOperation) : (seeded.perform crypto operation).Sound crypto := by
  cases operation with
  | initiatorPreRatchet freshSecret => exact ⟨sound.bounded, sound.current, sound.started⟩
  | encrypt plaintext nonce =>
    obtain ⟨sendingChain, after⟩ := encrypt_frame crypto seeded.ratchet plaintext nonce
    show Sound crypto ⟨(seeded.ratchet.encrypt crypto plaintext nonce).2, seeded.seed⟩
    rw [after]
    exact ⟨sound.bounded, sound.current, sound.started⟩
  | decrypt messageNumber theirDhPub nonce ciphertext env =>
    show Sound crypto ⟨(seeded.ratchet.decrypt crypto messageNumber.toNat theirDhPub nonce
      ciphertext env).2, if seeded.ratchet.theirDhPub ≠ theirDhPub then _ else _⟩
    by_cases turns : seeded.ratchet.theirDhPub ≠ theirDhPub
    · rw [DoubleRatchet.decrypt_turn crypto _ _ _ _ _ _ turns, if_pos turns]
      exact (sound.turn theirDhPub env).openWith _ _ _ _ _
    · rw [if_neg turns, ← not_not.mp turns, DoubleRatchet.decrypt_current]
      exact sound.openWith _ _ _ _ _

end SeededRatchet

namespace DoubleRatchet

variable {crypto : Primitives}

/-- With a chain for the ratchet key last seen, `decrypt` finds the chain it looks for. -/
theorem decrypt_ne_noChain {ratchet : DoubleRatchet}
    (current : ratchet.theirDhPub ∈ ratchet.receivingChains) (messageNumber : Nat)
    (theirDhPub : Key) (nonce : Nonce) (ciphertext : Bytes) (env : Surroundings) :
    (ratchet.decrypt crypto messageNumber theirDhPub nonce ciphertext env).1 ≠
      .error (.error "No receiving chain for this DH pubkey") := by
  have opened (turned : DoubleRatchet) (member : theirDhPub ∈ turned.receivingChains) :
      (turned.openWith crypto messageNumber theirDhPub nonce ciphertext env.usedAt).1 ≠
        .error (.error "No receiving chain for this DH pubkey") := by
    obtain ⟨⟨chain, used⟩, held⟩ := Option.isSome_iff_exists.mp (AList.lookup_isSome.mpr member)
    rw [openWith_eq crypto turned messageNumber theirDhPub nonce ciphertext _ held]
    have selected := chain.messageKey_ne_noChain crypto messageNumber
    cases selection : (chain.messageKey crypto messageNumber).1 with
    | error fault =>
      rw [selection] at selected
      simpa [Except.bind] using selected
    | ok messageKey =>
      cases opening : crypto.aeadDecrypt messageKey nonce ciphertext with
      | none => simp [Except.bind, Primitives.decrypt, opening, okOr]
      | some plaintext => simp [Except.bind, Primitives.decrypt, opening, okOr]
  by_cases turns : ratchet.theirDhPub ≠ theirDhPub
  · rw [decrypt_turn crypto ratchet messageNumber theirDhPub nonce ciphertext env turns]
    exact opened _ ((AList.mem_insert _).mpr (Or.inl rfl))
  · obtain rfl := not_not.mp turns
    rw [decrypt_current]
    exact opened ratchet current

/-- The ratchet is built on every input, and its receiving chains stay sound through any calls. -/
theorem receivingChains_sound (secret ourDhPriv theirDhPub : Key) (now : Nat) :
    ∃ ratchet, new crypto secret ourDhPriv theirDhPub now = .ok ratchet ∧
      ∀ operations : List RatchetOperation,
        let reached := operations.foldl (SeededRatchet.perform crypto)
          (SeededRatchet.made crypto secret ratchet)
        reached.ratchet = operations.foldl (perform crypto) ratchet ∧
          1 ≤ reached.ratchet.receivingChains.size ∧
          reached.Sound crypto ∧
          ∀ messageNumber theirDhPub nonce ciphertext env,
            (reached.ratchet.decrypt crypto messageNumber theirDhPub nonce ciphertext env).1 ≠
              .error (.error "No receiving chain for this DH pubkey") := by
  obtain ⟨ratchet, built⟩ := exists_new crypto secret ourDhPriv theirDhPub now
  have follows (operations : List RatchetOperation) (seeded : SeededRatchet) :
      (operations.foldl (SeededRatchet.perform crypto) seeded).ratchet =
        operations.foldl (perform crypto) seeded.ratchet := by
    induction operations generalizing seeded with
    | nil => rfl
    | cons operation rest inductionHypothesis => exact inductionHypothesis _
  have stays (operations : List RatchetOperation) {seeded : SeededRatchet}
      (sound : seeded.Sound crypto) :
      (operations.foldl (SeededRatchet.perform crypto) seeded).Sound crypto := by
    induction operations generalizing seeded with
    | nil => exact sound
    | cons operation rest inductionHypothesis =>
      exact inductionHypothesis (sound.perform operation)
  refine ⟨ratchet, built, fun operations => ?_⟩
  have sound := stays operations (SeededRatchet.sound_made built)
  exact ⟨follows operations _, sound.positive, sound, decrypt_ne_noChain sound.current⟩

end DoubleRatchet

end Insub
