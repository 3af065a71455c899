/-
This file settles whether a party can be made to accept what it sent itself. The two chains that a
turn of the ratchet starts have nothing in common with each other or with any chain before, so
what is sealed on a sending chain that a turn started opens on no receiving chain. The chains that
`new` makes are another matter: it starts the sending chain and the receiving chain at one key.
What a responder encrypts before its first turn, its own receiving chain opens.
-/

import Mathlib
import Insub.Crypto.SingleUse

namespace Insub

open Rust

variable {crypto : Primitives}

namespace KeyAccount

/-- The sending chain of the ratchet, or an earlier one of it, started at the seed. -/
def SentFrom (account : KeyAccount) (seed : KeySource) : Prop :=
  seed = account.sendingSeed ∨ ∃ name ∈ account.spent, name.seed = seed

/-- A receiving chain of the ratchet, or an earlier one of it, started at the seed. -/
def ReceivedFrom (account : KeyAccount) (receivingChains : ReceivingChains)
    (seed : KeySource) : Prop :=
  (∃ theirDhPub ∈ receivingChains, account.seedOf theirDhPub = seed) ∨
    ∃ name ∈ account.opened, name.seed = seed

end KeyAccount

namespace KeyHistory

variable {history : KeyHistory} {account : KeyAccount}

theorem Sends.logged (sends : history.Sends crypto account) {seed : KeySource}
    (sent : account.SentFrom seed) : seed ∈ history.derived := by
  rcases sent with rfl | ⟨name, member, rfl⟩
  · exact sends.drawn.logged
  · exact (sends.known name member).2.logged

theorem Receives.logged (receives : history.Receives crypto account) {seed : KeySource}
    (received : account.ReceivedFrom history.ratchet.receivingChains seed) :
    seed ∈ history.derived := by
  rcases received with ⟨theirDhPub, member, rfl⟩ | ⟨name, member, rfl⟩
  · obtain ⟨⟨chain, used⟩, held⟩ := Option.isSome_iff_exists.mp (AList.lookup_isSome.mpr member)
    obtain ⟨_, _, _, drawn⟩ := receives.follows theirDhPub chain used held
    exact drawn.logged
  · exact (receives.known name member).2.logged

/-- No chain but the first is both a sending chain and a receiving chain, and nothing was sealed on
the first. -/
structure Separated (secret : Key) (history : KeyHistory) (account : KeyAccount) : Prop where
  apart : ∀ seed, account.SentFrom seed →
    account.ReceivedFrom history.ratchet.receivingChains seed → ∃ first, seed = .initialChain first
  initial : ∀ first, account.sendingSeed = .initialChain first → first = secret
  turned : ∀ name ∈ account.spent, ∀ first, name.seed ≠ .initialChain first

theorem Separated.encrypt {secret : Key} (separated : history.Separated secret account)
    (sends : history.Sends crypto account) (turned : history.ratchet.rootKey ≠ secret)
    (plaintext : Bytes) (nonce : Nonce) :
    (history.perform crypto (.encrypt plaintext nonce)).Separated secret account.encrypt := by
  have ratchet := history.ratchet.encrypt_ratchet crypto plaintext nonce
  refine ⟨fun seed sent received => separated.apart seed ?_ ?_, separated.initial, ?_⟩
  · rcases sent with same | ⟨name, rfl | member, same⟩
    · exact Or.inl same
    · exact Or.inl same.symm
    · exact Or.inr ⟨name, member, same⟩
  · have chains : (history.perform crypto (.encrypt plaintext nonce)).ratchet.receivingChains =
        history.ratchet.receivingChains := (congrArg DoubleRatchet.receivingChains ratchet :)
    rw [chains] at received
    exact received
  · rintro name (rfl | member) first seed
    · have same := separated.initial first seed
      exact turned (same ▸ sends.initial first seed)
    · exact separated.turned name member first seed

theorem Separated.turn {secret theirNewDhPub : Key} {env : Surroundings}
    (separated : history.Separated secret account) (agrees : history.Agrees crypto account)
    (apart : CollisionFree crypto (history.turn crypto theirNewDhPub env).derived) :
    (history.turn crypto theirNewDhPub env).Separated secret
      (account.turn crypto history.ratchet theirNewDhPub env.freshSecret) := by
  have newReceiving := agrees.roots.receivingSeed_not_mem theirNewDhPub
  have newSending := agrees.roots.sendingSeed_not_mem apart
  have received : ∀ seed, (account.turn crypto history.ratchet theirNewDhPub
      env.freshSecret).ReceivedFrom
        (history.turn crypto theirNewDhPub env).ratchet.receivingChains seed →
      seed = .chainKey history.ratchet.rootKey
          (crypto.diffieHellman history.ratchet.ourDhPriv theirNewDhPub) ∨
        account.ReceivedFrom history.ratchet.receivingChains seed := by
    rintro seed (⟨theirDhPub, member, rfl⟩ | ⟨name, member, rfl⟩)
    · by_cases same : theirDhPub = theirNewDhPub
      · rw [same, KeyAccount.seedOf_turn_self]
        exact Or.inl rfl
      · rw [KeyAccount.seedOf_turn_ne _ _ same]
        exact Or.inr (Or.inl ⟨theirDhPub,
          (DoubleRatchet.mem_of_mem_insertReceivingChain member).resolve_left same, rfl⟩)
    · exact Or.inr (Or.inr ⟨name, member, rfl⟩)
  refine ⟨?_, ?_, separated.turned⟩
  · rintro seed (rfl | ⟨name, member, rfl⟩) both
    · refine absurd ?_ newSending
      rcases received _ both with same | before
      · rw [KeyAccount.turn] at same
        dsimp only at same
        rw [same]
        exact List.mem_append_right _ (List.mem_cons_of_mem _ List.mem_cons_self)
      · exact List.mem_append_left _ (agrees.receives.logged before)
    · rcases received _ both with same | before
      · refine absurd ?_ newReceiving
        rw [← same]
        exact (agrees.sends.known name member).2.logged
      · exact separated.apart _ (Or.inr ⟨name, member, rfl⟩) before
  · intro first seed
    cases seed

theorem Separated.openWith {secret : Key} (separated : history.Separated secret account)
    {messageNumber : Nat} {theirDhPub : Key} {nonce : Nonce} {ciphertext : Bytes} {now : Nat} :
    (history.openWith crypto messageNumber theirDhPub nonce ciphertext now).Separated secret
      (account.openWith crypto history.ratchet messageNumber theirDhPub) := by
  refine ⟨fun seed sent received => separated.apart seed sent ?_, separated.initial,
    separated.turned⟩
  have kept : ∀ key ∈ (history.openWith crypto messageNumber theirDhPub nonce ciphertext
      now).ratchet.receivingChains, key ∈ history.ratchet.receivingChains := by
    intro key member
    have member : key ∈ (history.ratchet.openWith crypto messageNumber theirDhPub nonce ciphertext
      now).2.receivingChains := member
    cases held : history.ratchet.receivingChains.lookup theirDhPub with
    | none =>
      rw [DoubleRatchet.openWith_none crypto _ _ _ _ _ _ held] at member
      exact member
    | some entry =>
      rw [DoubleRatchet.openWith_eq crypto _ _ _ _ _ _ held] at member
      rcases (AList.mem_insert _).mp member with rfl | before
      · exact AList.lookup_isSome.mp (by rw [held]; rfl)
      · exact before
  rcases received with ⟨key, member, same⟩ | ⟨name, before | ⟨rfl, entry, held, _⟩, same⟩
  · exact Or.inl ⟨key, kept key member, same⟩
  · exact Or.inr ⟨name, before, same⟩
  · exact Or.inl ⟨theirDhPub, AList.lookup_isSome.mp (by rw [held]; rfl), same⟩

/-- What was sealed on a chain that a turn started is not among what was accepted. -/
theorem Separated.not_accepted {secret : Key} (separated : history.Separated secret account)
    (agrees : history.Agrees crypto account)
    (oneKey : crypto.OpensUnderOneKey (history.derivedKeys crypto))
    (apart : CollisionFree crypto history.derived) {ciphertext : Bytes}
    (sealed : ciphertext ∈ history.sealed) : ciphertext ∉ history.accepted := by
  intro accepted
  obtain ⟨sent, sentMember, nonce, plaintext, seals⟩ := agrees.sends.sealed ciphertext sealed
  obtain ⟨got, gotMember, otherNonce, opened, opens⟩ :=
    agrees.receives.accepted ciphertext accepted
  have sentKnown := agrees.sends.known sent sentMember
  have gotKnown := agrees.receives.known got gotMember
  obtain ⟨same, _⟩ := oneKey _ (logged_of_known sentKnown) _ (logged_of_known gotKnown) _ _ _ _ _
    seals opens
  have equal := MessageName.key_inj apart gotKnown sentKnown same
  obtain ⟨first, initial⟩ := separated.apart sent.seed (Or.inr ⟨sent, sentMember, rfl⟩)
    (Or.inr ⟨got, gotMember, congrArg MessageName.seed equal⟩)
  exact separated.turned sent sentMember first initial

/-! ### Runs in which nothing is sent before the first turn -/

/-- The call encrypts nothing before the ratchet has turned away from its shared secret. -/
def SendsTurned (secret : Key) (history : KeyHistory) : RatchetCall → Prop
  | .encrypt _ _ => history.ratchet.rootKey ≠ secret
  | .decrypt _ _ _ _ _ => True

/-- One call that sends nothing before the first turn. -/
def TurnedStep (crypto : Primitives) (secret : Key) (before after : KeyHistory) : Prop :=
  ∃ call, before.SendsTurned secret call ∧ after = before.perform crypto call

theorem Separated.perform {secret : Key} (separated : history.Separated secret account)
    (agrees : history.Agrees crypto account) {call : RatchetCall}
    (turned : history.SendsTurned secret call)
    (apart : CollisionFree crypto (history.perform crypto call).derived) :
    (history.perform crypto call).Separated secret
      (account.perform crypto history.ratchet call) := by
  cases call with
  | encrypt plaintext nonce => exact separated.encrypt agrees.sends turned plaintext nonce
  | decrypt messageNumber theirDhPub nonce ciphertext env =>
    by_cases turns : history.ratchet.theirDhPub = theirDhPub
    · subst turns
      rw [perform_decrypt_current, KeyAccount.perform, if_neg (not_not_intro rfl)]
      exact separated.openWith
    · rw [perform_decrypt_turn _ _ _ _ _ _ turns] at apart ⊢
      rw [KeyAccount.perform, if_pos turns]
      exact (separated.turn agrees (apart.mono subset_derived_openWith)).openWith

theorem Separated.of_unused {secret : Key} (unused : account.Unused secret) :
    history.Separated secret account := by
  refine ⟨?_, unused.sendingSeed, fun name member => absurd member (unused.spent name)⟩
  rintro seed _ (⟨theirDhPub, _, rfl⟩ | ⟨name, member, _⟩)
  · exact ⟨secret, unused.seedOf theirDhPub⟩
  · exact absurd member (unused.opened name)

/-- In every run in which a party encrypts nothing before its first turn, it accepts nothing that
it encrypted, under whatever headers it comes back. -/
theorem not_reflected (crypto : Primitives) {secret : Key} {first last : KeyHistory}
    (start : Start crypto secret first)
    (run : Relation.ReflTransGen (TurnedStep crypto secret) first last)
    (collisionFree : CollisionFree crypto last.derived)
    (oneKey : crypto.OpensUnderOneKey (last.derivedKeys crypto)) :
    ∀ ciphertext ∈ last.sealed, ciphertext ∉ last.accepted := by
  let holds (history : KeyHistory) : Prop := CollisionFree crypto history.derived →
    ∃ account, history.Agrees crypto account ∧ history.Separated secret account
  have begins : holds first := by
    intro apart
    obtain ⟨account, agrees, unused⟩ := start.agrees apart
    exact ⟨account, agrees, Separated.of_unused unused⟩
  have kept : holds last := by
    refine Run.preserves ?_ begins run
    rintro before after holds ⟨call, turned, rfl⟩ apart
    obtain ⟨account, agrees, separated⟩ :=
      holds (apart.mono (derived_subset_perform before call))
    exact ⟨_, agrees.perform call apart, separated.perform agrees turned apart⟩
  obtain ⟨account, agrees, separated⟩ := kept collisionFree
  exact fun ciphertext sealed => separated.not_accepted agrees oneKey collisionFree sealed

/-! ### What a responder encrypts before its first turn -/

open SampleSuite

/-- A responder encrypts before it has received anything. -/
def sampleEager : KeyHistory :=
  (made (octets 32 7) (sampleBuilt 2 1)).perform keyedSuite (.encrypt [1] (Octets.zero 12))

/-- What it encrypted comes back, under the ratchet key of the handshake. -/
def sampleReflection (history : KeyHistory) : RatchetCall :=
  .decrypt 1 (keyedSuite.publicKey (octets 32 1)) (Octets.zero 12) (history.sealed.headD [])
    (drawing 4)

theorem sampleMade_start :
    Start keyedSuite (octets 32 7) (made (octets 32 7) (sampleBuilt 2 1)) :=
  .responder (rfl : DoubleRatchet.new keyedSuite (octets 32 7) (octets 32 2)
    (keyedSuite.publicKey (octets 32 1)) 0 = .ok (sampleBuilt 2 1))

/-- The responder accepts what it encrypted itself. -/
theorem eager_reply_reflected : ∃ first last, Start keyedSuite (octets 32 7) first ∧
    Relation.ReflTransGen (Step keyedSuite) first last ∧
      CollisionFree keyedSuite last.derived ∧
        ∃ ciphertext ∈ last.sealed, ciphertext ∈ last.accepted := by
  refine ⟨_, sampleEager.perform keyedSuite (sampleReflection sampleEager), sampleMade_start,
    .tail (.single ⟨_, rfl⟩) ⟨_, rfl⟩, by decide +kernel, sampleEager.sealed.headD [], ?_, ?_⟩
  · decide +kernel
  · decide +kernel

/-- A responder that replies after it has received a message, to which its reply comes back. -/
def samplePatient : KeyHistory :=
  ((made (octets 32 7) (sampleBuilt 2 1)).perform keyedSuite sampleArrival).perform keyedSuite
    (.encrypt [1] (Octets.zero 12))

theorem samplePatient_not_reflected :
    (samplePatient.perform keyedSuite (sampleReflection samplePatient)).sealed ≠ [] ∧
      ∀ ciphertext ∈ (samplePatient.perform keyedSuite (sampleReflection samplePatient)).sealed,
        ciphertext ∉ (samplePatient.perform keyedSuite
          (sampleReflection samplePatient)).accepted := by
  refine ⟨by decide +kernel, not_reflected keyedSuite sampleMade_start
    (.tail (.tail (.single ⟨sampleArrival, trivial, rfl⟩) ⟨.encrypt [1] (Octets.zero 12), ?_, rfl⟩)
      ⟨sampleReflection samplePatient, trivial, rfl⟩) (by decide +kernel)
        (keyed_opensUnderOneKey _)⟩
  show DoubleRatchet.rootKey _ ≠ _
  decide +kernel

end KeyHistory

end Insub
