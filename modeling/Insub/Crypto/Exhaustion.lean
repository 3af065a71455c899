/-
This file settles when the message numbers of a double ratchet run out. A receiving chain goes to
the number that a header names, if that is at most `maxSkip` ahead, and it does so before the
ciphertext is opened. Headers that nobody authenticated therefore drive a chain to the last number
of a `u32`, and the call after that overflows.

Numbers run out in no other way. As long as the last number is neither sent nor taken in, no call
overflows, whatever the calls before it were.
-/

import Mathlib
import Insub.Library.Run
import Insub.Crypto.Atomicity
import Insub.Crypto.Holdings
import Insub.Crypto.SampleSuite

namespace Insub

open Rust

namespace DoubleRatchet

variable (crypto : Primitives)

/-- The call panics, which it does where a number overflows. -/
def Panics (ratchet : DoubleRatchet) : RatchetOperation → Prop
  | .initiatorPreRatchet _ => False
  | .encrypt plaintext nonce => (ratchet.encrypt crypto plaintext nonce).1.Panics
  | .decrypt messageNumber theirDhPub nonce ciphertext env =>
    (ratchet.decrypt crypto messageNumber.toNat theirDhPub nonce ciphertext env).1.Panics

/-- The call sends the last message number, or names it under the ratchet key last seen while it is
within the gap. -/
def UsesLastNumber (ratchet : DoubleRatchet) : RatchetOperation → Prop
  | .initiatorPreRatchet _ => False
  | .encrypt _ _ => ratchet.sendingChain.messageNumber + 1 = u32Bound - 1
  | .decrypt messageNumber theirDhPub _ _ _ =>
    ratchet.theirDhPub = theirDhPub ∧ messageNumber.toNat = u32Bound - 1 ∧
      ∃ chain used, ratchet.receivingChains.lookup theirDhPub = some (chain, used) ∧
        messageNumber.toNat ≤ chain.messageNumber + Chain.maxSkip

/-- The chains in use have a number left. -/
structure HasNumbersLeft (ratchet : DoubleRatchet) : Prop where
  sending : ratchet.sendingChain.messageNumber + 1 < u32Bound
  receiving : ∀ chain used, ratchet.receivingChains.lookup ratchet.theirDhPub = some (chain, used) →
    chain.messageNumber + 1 < u32Bound

variable {crypto}

/-! ### Which calls panic -/

theorem not_panics_encrypt {ratchet : DoubleRatchet}
    (left : ratchet.sendingChain.messageNumber + 1 < u32Bound) (plaintext : Bytes) (nonce : Nonce) :
    ¬ (ratchet.encrypt crypto plaintext nonce).1.Panics := by
  rw [encrypt, Chain.advance_eq crypto _ left]
  dsimp only [Primitives.encrypt]
  cases crypto.aeadEncrypt (Chain.outputKey crypto ratchet.sendingChain.key) nonce plaintext with
  | none => exact Outcome.not_panics_error _
  | some ciphertext => exact Outcome.not_panics_ok _

theorem panics_encrypt {ratchet : DoubleRatchet}
    (overflow : u32Bound ≤ ratchet.sendingChain.messageNumber + 1) (plaintext : Bytes)
    (nonce : Nonce) : (ratchet.encrypt crypto plaintext nonce).1.Panics := by
  rcases addU32_cases ratchet.sendingChain.messageNumber 1 with ⟨fits, _⟩ | ⟨site, panicked⟩
  · omega
  · refine ⟨site, ?_⟩
    rw [encrypt, Chain.advance, Primitives.deriveKey_eq, Primitives.deriveKey_eq, panicked]

theorem panics_decrypt {ratchet : DoubleRatchet} {chain : Chain} {used : Nat}
    (held : ratchet.receivingChains.lookup ratchet.theirDhPub = some (chain, used))
    (overflow : u32Bound ≤ chain.messageNumber + 1) (messageNumber : Nat) (nonce : Nonce)
    (ciphertext : Bytes) (env : Surroundings) :
    (ratchet.decrypt crypto messageNumber ratchet.theirDhPub nonce ciphertext env).1.Panics := by
  obtain ⟨site, panicked⟩ := Chain.messageKey_overflow crypto chain messageNumber overflow
  refine ⟨site, ?_⟩
  rw [decrypt_current, openWith_eq crypto ratchet _ _ _ _ _ held, panicked]
  rfl

/-- No call panics exactly when the chains in use have a number left. -/
theorem not_panics_iff {ratchet : DoubleRatchet} :
    (∀ operation, ¬ ratchet.Panics crypto operation) ↔ ratchet.HasNumbersLeft := by
  constructor
  · intro quiet
    refine ⟨?_, fun chain used held => ?_⟩
    · by_contra overflow
      exact quiet (.encrypt [] (Octets.zero 12)) (panics_encrypt (not_lt.mp overflow) _ _)
    · by_contra overflow
      exact quiet (.decrypt 0 ratchet.theirDhPub (Octets.zero 12) []
        ⟨Octets.zero 32, 0, default, 0⟩) (panics_decrypt held (not_lt.mp overflow) _ _ _ _)
  · rintro ⟨sending, receiving⟩ (_ | ⟨plaintext, nonce⟩ | ⟨number, theirDhPub, nonce, bytes, env⟩)
    · exact id
    · exact not_panics_encrypt sending plaintext nonce
    · exact not_panics_decrypt_of_current crypto receiving _ _ _ _ _

/-! ### What a call leaves -/

variable (crypto) in
theorem encrypt_sendingChain {ratchet : DoubleRatchet}
    (left : ratchet.sendingChain.messageNumber + 1 < u32Bound) (plaintext : Bytes) (nonce : Nonce) :
    ∃ sendingChain, (ratchet.encrypt crypto plaintext nonce).2 = { ratchet with sendingChain } ∧
      sendingChain.messageNumber = ratchet.sendingChain.messageNumber + 1 := by
  rw [encrypt, Chain.advance_eq crypto _ left]
  dsimp only
  split
  · exact ⟨_, rfl, rfl⟩
  · exact ⟨_, rfl, rfl⟩

variable (crypto) in
/-- A chain moves to the number it is asked for, if that is ahead and within the gap. -/
theorem messageNumber_messageKey (chain : Chain) (number : Nat)
    (fits : chain.messageNumber + 1 < u32Bound) :
    (chain.messageKey crypto number).2.messageNumber =
      if chain.messageNumber < number ∧ number ≤ chain.messageNumber + Chain.maxSkip then number
      else chain.messageNumber := by
  rcases chain.messageKey_cases crypto number fits with ⟨ahead, near, _, next, run, reached⟩ |
    ⟨far, run⟩ | ⟨behind, _, _, run⟩ | ⟨behind, _, run⟩
  · rw [run, if_pos ⟨ahead, near⟩]
    exact reached
  · rw [run, if_neg (by omega)]
  · rw [run, if_neg (by omega)]
  · rw [run, if_neg (by omega)]

theorem hasNumbersLeft_insert_iff (ratchet : DoubleRatchet) (chain : Chain) (used : Nat) :
    HasNumbersLeft { ratchet with
        receivingChains := ratchet.receivingChains.insert ratchet.theirDhPub (chain, used) } ↔
      ratchet.sendingChain.messageNumber + 1 < u32Bound ∧ chain.messageNumber + 1 < u32Bound := by
  constructor
  · rintro ⟨sending, receiving⟩
    exact ⟨sending, receiving chain used (AList.lookup_insert _)⟩
  · rintro ⟨sending, room⟩
    refine ⟨sending, fun next time found => ?_⟩
    rcases HashMap.lookup_insert_eq_some_iff.mp found with ⟨_, same⟩ | ⟨different, _⟩
    · obtain ⟨rfl, _⟩ := Prod.mk.inj same
      exact room
    · exact absurd rfl different

theorem HasNumbersLeft.encrypt_iff {ratchet : DoubleRatchet} (left : ratchet.HasNumbersLeft)
    (plaintext : Bytes) (nonce : Nonce) :
    (ratchet.encrypt crypto plaintext nonce).2.HasNumbersLeft ↔
      ratchet.sendingChain.messageNumber + 1 ≠ u32Bound - 1 := by
  obtain ⟨sendingChain, after, moved⟩ := encrypt_sendingChain crypto left.sending plaintext nonce
  have room := left.sending
  rw [after]
  constructor
  · rintro ⟨stillSending, _⟩ last
    rw [moved] at stillSending
    omega
  · intro notLast
    refine ⟨?_, left.receiving⟩
    rw [moved]
    omega

variable (crypto) in
/-- A ratchet key that is new starts a chain of its own, which a message moves by the gap at
most. -/
theorem HasNumbersLeft.turn {ratchet : DoubleRatchet} {theirDhPub : Key}
    (turns : ratchet.theirDhPub ≠ theirDhPub) (messageNumber : Nat) (nonce : Nonce)
    (ciphertext : Bytes) (env : Surroundings) :
    (ratchet.decrypt crypto messageNumber theirDhPub nonce ciphertext env).2.HasNumbersLeft := by
  have one : 0 + 1 < u32Bound := by decide
  have gap : 0 + Chain.maxSkip + 1 < u32Bound := by decide
  have held : (ratchet.dhRatchetStep crypto theirDhPub env).receivingChains.lookup theirDhPub =
      some _ := lookup_insertReceivingChain_self _ _ _ _ _
  rw [decrypt_turn crypto _ _ _ _ _ _ turns, openWith_eq crypto _ _ _ _ _ _ held]
  refine (hasNumbersLeft_insert_iff (ratchet.dhRatchetStep crypto theirDhPub env) _ _).mpr ⟨one, ?_⟩
  rw [messageNumber_messageKey crypto _ _ one]
  split
  · rename_i taken
    exact (Nat.succ_le_succ taken.2).trans_lt gap
  · exact one

/-- Under the current ratchet key, only the last number that is within the gap uses up its chain. -/
theorem HasNumbersLeft.current_iff {ratchet : DoubleRatchet} (left : ratchet.HasNumbersLeft)
    (messageNumber : UInt32) (nonce : Nonce) (ciphertext : Bytes) (env : Surroundings) :
    (ratchet.decrypt crypto messageNumber.toNat ratchet.theirDhPub nonce ciphertext
        env).2.HasNumbersLeft ↔
      ¬ ratchet.UsesLastNumber (.decrypt messageNumber ratchet.theirDhPub nonce ciphertext env) := by
  have bound : messageNumber.toNat < u32Bound := messageNumber.toNat_lt
  rw [UsesLastNumber]
  cases held : ratchet.receivingChains.lookup ratchet.theirDhPub with
  | none =>
    rw [decrypt_current, openWith_none crypto _ _ _ _ _ _ held]
    refine iff_of_true left ?_
    rintro ⟨_, _, _, _, found, _⟩
    cases found
  | some entry =>
    obtain ⟨chain, used⟩ := entry
    have room := left.receiving chain used held
    have moved := messageNumber_messageKey crypto chain messageNumber.toNat room
    rw [decrypt_current, openWith_eq crypto ratchet _ _ _ _ _ held, hasNumbersLeft_insert_iff,
      moved]
    constructor
    · rintro ⟨_, still⟩ ⟨_, last, _, _, same, near⟩
      obtain ⟨rfl, _⟩ := Prod.mk.inj (Option.some.inj same)
      rw [if_pos ⟨by omega, near⟩] at still
      omega
    · intro notLast
      refine ⟨left.sending, ?_⟩
      split
      · rename_i taken
        have other : messageNumber.toNat ≠ u32Bound - 1 :=
          fun last => notLast ⟨rfl, last, chain, used, rfl, taken.2⟩
        omega
      · exact room

/-- While numbers are left, they stay so exactly through the calls that do not use the last
one. -/
theorem HasNumbersLeft.perform_iff {ratchet : DoubleRatchet} (left : ratchet.HasNumbersLeft)
    (operation : RatchetOperation) :
    (ratchet.perform crypto operation).HasNumbersLeft ↔ ¬ ratchet.UsesLastNumber operation := by
  cases operation with
  | initiatorPreRatchet freshSecret =>
    have one : 0 + 1 < u32Bound := by decide
    exact iff_of_true ⟨one, left.receiving⟩ id
  | encrypt plaintext nonce => exact left.encrypt_iff plaintext nonce
  | decrypt messageNumber theirDhPub nonce ciphertext env =>
    by_cases turns : ratchet.theirDhPub ≠ theirDhPub
    · exact iff_of_true (HasNumbersLeft.turn crypto turns _ _ _ _) fun ⟨same, _⟩ => turns same
    · obtain rfl := not_not.mp turns
      exact left.current_iff messageNumber nonce ciphertext env

/-! ### Whole runs -/

theorem hasNumbersLeft_new {secret ourDhPriv theirDhPub : Key} {now : Nat} {ratchet : DoubleRatchet}
    (built : new crypto secret ourDhPriv theirDhPub now = .ok ratchet) :
    ratchet.HasNumbersLeft := by
  simp only [new, Primitives.deriveKey_eq, Except.ok.injEq] at built
  subst built
  have one : 0 + 1 < u32Bound := by decide
  refine ⟨one, fun chain used held => ?_⟩
  rw [lookup_insertReceivingChain_self] at held
  obtain ⟨rfl, _⟩ := Prod.mk.inj (Option.some.inj held)
  exact one

/-- A ratchet is built on every input, and no call on it panics. Along any run this stays so
exactly if no call uses the last message number. -/
theorem never_overflows_iff (secret ourDhPriv theirDhPub : Key) (now : Nat) :
    ∃ ratchet, new crypto secret ourDhPriv theirDhPub now = .ok ratchet ∧
      (∀ next, ¬ ratchet.Panics crypto next) ∧
      ∀ operations, Run.Along (perform crypto)
          (fun reached operation => ∀ next, ¬ (reached.perform crypto operation).Panics crypto next)
            ratchet operations ↔
        Run.Along (perform crypto) (fun reached operation => ¬ reached.UsesLastNumber operation)
          ratchet operations := by
  obtain ⟨ratchet, built⟩ := exists_new crypto secret ourDhPriv theirDhPub now
  have left := hasNumbersLeft_new built
  refine ⟨ratchet, built, not_panics_iff.mpr left, fun operations => ?_⟩
  refine Run.along_iff ?_ ?_ left operations
  · intro reached operation left
    rw [not_panics_iff, left.perform_iff operation]
  · intro reached operation _ quiet
    exact not_panics_iff.mp quiet

/-! ### Forged headers -/

/-- A header that anybody can write, in front of no ciphertext. -/
def forged (theirDhPub : Key) (number : Nat) : RatchetOperation :=
  .decrypt (UInt32.ofNat number) theirDhPub (Octets.zero 12) [] ⟨Octets.zero 32, 0, default, 0⟩

/-- Headers that each name a number as far ahead as the gap allows. -/
def forgedHops (theirDhPub : Key) (hops : Nat) : List RatchetOperation :=
  (List.range hops).map fun hop => forged theirDhPub (Chain.maxSkip * (hop + 1))

/-- The current receiving chain stands at a number. -/
def ReceivesAt (ratchet : DoubleRatchet) (theirDhPub : Key) (number : Nat) : Prop :=
  ratchet.theirDhPub = theirDhPub ∧
    ∃ chain used, ratchet.receivingChains.lookup theirDhPub = some (chain, used) ∧
      chain.messageNumber = number

theorem ReceivesAt.hop {ratchet : DoubleRatchet} {theirDhPub : Key} {number target : Nat}
    (receives : ratchet.ReceivesAt theirDhPub number) (ahead : number < target)
    (near : target ≤ number + Chain.maxSkip) (bounded : target < u32Bound) :
    (ratchet.perform crypto (forged theirDhPub target)).ReceivesAt theirDhPub target := by
  obtain ⟨rfl, chain, used, held, rfl⟩ := receives
  have named : (UInt32.ofNat target).toNat = target := UInt32.toNat_ofNat_of_lt' bounded
  have moved := messageNumber_messageKey crypto chain target (by omega)
  rw [forged, perform, named, decrypt_current, openWith_eq crypto ratchet _ _ _ _ _ held]
  refine ⟨rfl, _, _, AList.lookup_insert _, ?_⟩
  rw [moved, if_pos ⟨ahead, near⟩]

theorem ReceivesAt.hops {ratchet : DoubleRatchet} {theirDhPub : Key}
    (receives : ratchet.ReceivesAt theirDhPub 0) {hops : Nat}
    (bounded : Chain.maxSkip * hops < u32Bound) :
    ((forgedHops theirDhPub hops).foldl (perform crypto) ratchet).ReceivesAt theirDhPub
      (Chain.maxSkip * hops) := by
  induction hops with
  | zero => exact receives
  | succ hops inductionHypothesis =>
    have gap : 0 < Chain.maxSkip := by decide
    rw [Nat.mul_succ] at bounded
    rw [forgedHops, List.range_succ, List.map_append, List.foldl_append]
    refine (inductionHypothesis (by omega)).hop ?_ ?_ ?_
    · rw [Nat.mul_succ]
      omega
    · rw [Nat.mul_succ]
    · rw [Nat.mul_succ]
      exact bounded

theorem ReceivesAt.panics {ratchet : DoubleRatchet} {theirDhPub : Key}
    (receives : ratchet.ReceivesAt theirDhPub (u32Bound - 1)) (number : Nat) :
    ratchet.Panics crypto (forged theirDhPub number) := by
  obtain ⟨rfl, chain, used, held, last⟩ := receives
  have overflow : u32Bound ≤ chain.messageNumber + 1 := by
    rw [last]
    exact Nat.le_refl _
  exact panics_decrypt held overflow _ _ _ _

theorem ReceivesAt.exhausted {ratchet : DoubleRatchet} {theirDhPub : Key}
    (receives : ratchet.ReceivesAt theirDhPub 0) {hops : Nat}
    (ahead : Chain.maxSkip * hops < u32Bound - 1)
    (near : u32Bound - 1 ≤ Chain.maxSkip * hops + Chain.maxSkip) (number : Nat) :
    ((forgedHops theirDhPub hops ++ [forged theirDhPub (u32Bound - 1)]).foldl (perform crypto)
      ratchet).Panics crypto (forged theirDhPub number) := by
  have bounded : u32Bound - 1 < u32Bound := Nat.sub_lt (by decide) Nat.one_pos
  rw [List.foldl_append, List.foldl_cons, List.foldl_nil]
  exact ((receives.hops (ahead.trans bounded)).hop ahead near bounded).panics number

/-- Some two million forged headers lead to a state in which the next call overflows. -/
theorem forged_headers_overflow :
    ∃ ratchet, new sampleSuite (SampleSuite.octets 32 1) (SampleSuite.octets 32 2)
        (SampleSuite.octets 32 3) 0 = .ok ratchet ∧
      ((forgedHops (SampleSuite.octets 32 3) 2097151 ++
        [forged (SampleSuite.octets 32 3) (u32Bound - 1)]).foldl (perform sampleSuite)
          ratchet).Panics sampleSuite (forged (SampleSuite.octets 32 3) 1) := by
  obtain ⟨ratchet, built⟩ : ∃ ratchet, new sampleSuite (SampleSuite.octets 32 1)
      (SampleSuite.octets 32 2) (SampleSuite.octets 32 3) 0 = .ok ratchet := by
    rw [new, Primitives.deriveKey_eq]
    exact ⟨_, rfl⟩
  have start : ratchet.ReceivesAt (SampleSuite.octets 32 3) 0 := by
    simp only [new, Primitives.deriveKey_eq, Except.ok.injEq] at built
    subst built
    exact ⟨rfl, _, _, lookup_insertReceivingChain_self _ _ _ _ _, rfl⟩
  have ahead : Chain.maxSkip * 2097151 < u32Bound - 1 := by norm_num [Chain.maxSkip, u32Bound]
  have near : u32Bound - 1 ≤ Chain.maxSkip * 2097151 + Chain.maxSkip := by
    norm_num [Chain.maxSkip, u32Bound]
  exact ⟨ratchet, built, start.exhausted ahead near 1⟩

end DoubleRatchet

end Insub
