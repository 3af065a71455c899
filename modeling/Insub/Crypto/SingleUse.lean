/-
This file proves that a ratchet uses every key once. Whatever sequence of `encrypt` and `decrypt`
calls it goes through, under whatever headers, no message key seals two plaintexts and no
ciphertext is accepted twice. Of the KDFs this takes that they do not collide on what the run
applies them to, and of the cipher that a ciphertext opens under the one key of the run that sealed it.
-/

import Mathlib
import Insub.Crypto.KeyAccount
import Insub.Crypto.Agreement

namespace Insub

open Rust Derivation

namespace KeyHistory

variable {crypto : Primitives}

/-- The keys that were derived. -/
def derivedKeys (crypto : Primitives) (history : KeyHistory) : Set Key :=
  { key | Logged (KeySource.key crypto) history.derived key }

theorem derivedKeys_mono {before after : KeyHistory} (subset : before.derived ⊆ after.derived) :
    before.derivedKeys crypto ⊆ after.derivedKeys crypto :=
  fun _ logged => Logged.mono logged subset

/-- The key of a message that the run knows was derived. -/
theorem logged_of_known {history : KeyHistory} {name : MessageName}
    (known : name.Known crypto history.derived) :
    name.key crypto ∈ history.derivedKeys crypto := by
  obtain ⟨positive, drawn⟩ := known
  exact ⟨_, (drawn.keys (name.number - 1) (by omega)).1, rfl⟩

/-! ### The account at the start -/

/-- The account of a ratchet that was made from a shared secret. -/
def startAccount (secret : Key) : KeyAccount where
  sendingSeed := .initialChain secret
  moved := 0
  seedOf := fun _ => .initialChain secret
  spent := ∅
  opened := ∅

theorem initial_drawn (secret : Key) :
    Drawn crypto [.sharedSecret secret, .initialChain secret] (.initialChain secret) 0 :=
  Drawn.start trivial (List.mem_cons_of_mem _ List.mem_cons_self)

theorem agrees_made {secret ourDhPriv theirDhPub : Key} {now : Nat} {ratchet : DoubleRatchet}
    (built : DoubleRatchet.new crypto secret ourDhPriv theirDhPub now = .ok ratchet) :
    (made secret ratchet).Agrees crypto (startAccount secret) := by
  cases built
  refine ⟨⟨?_, logged_of_mem List.mem_cons_self, ?_⟩,
    ⟨initial_drawn secret, rfl, ?_, ?_, ?_, ?_, ?_⟩, ⟨?_, ?_, ?_, ?_⟩⟩
  · simp [Derivation.Rooted, made, KeySource.turnedFrom]
  · simp [Unused, made, KeySource.turnedFrom]
  · exact fun _ member => member.elim
  · exact fun _ member => member.elim
  · exact fun _ seed => (KeySource.initialChain.inj seed)
  · exact fun _ member => absurd member List.not_mem_nil
  · exact fun _ member => absurd member List.not_mem_nil
  · intro key chain used held
    rcases HashMap.lookup_insert_eq_some_iff.mp held with ⟨_, entry⟩ | ⟨_, absent⟩
    · obtain ⟨rfl, rfl⟩ := Prod.mk.inj entry
      exact ⟨ReceiveWindow.empty, Chain.represents_start crypto _, ReceiveWindow.accounts_empty,
        initial_drawn secret⟩
    · cases absent
  · intro first firstHeld second secondHeld _
    have only : ∀ key ∈ DoubleRatchet.insertReceivingChain ∅ theirDhPub
        (crypto.hkdf none secret.toList (ascii "init-chain") 32) now default,
          key = theirDhPub := by
      intro key member
      exact (DoubleRatchet.mem_of_mem_insertReceivingChain member).resolve_right
        (AList.notMem_empty key)
    rw [only first firstHeld, only second secondHeld]
  · exact fun _ member => member.elim
  · exact fun _ member => absurd member List.not_mem_nil

/-- The account at the start agrees with the ratchet of either side. -/
theorem Start.agrees {secret : Key} {history : KeyHistory} (start : Start crypto secret history)
    (apart : CollisionFree crypto history.derived) :
    ∃ account, history.Agrees crypto account ∧ account.Unused secret := by
  cases start with
  | responder built =>
    exact ⟨_, agrees_made built, fun first seed => (KeySource.initialChain.inj seed).symm,
      fun _ => rfl, fun _ member => member, fun _ member => member⟩
  | @initiator ourDhPriv theirDhPub freshSecret now ratchet built =>
    have agrees := agrees_made built
    cases built
    refine ⟨{ startAccount secret with
        sendingSeed := .chainKey secret (crypto.diffieHellman freshSecret theirDhPub) },
      ⟨Tip.derive agrees.roots (by simp [KeySource.turnedFrom]; rfl) apart List.mem_cons_self,
      ⟨Drawn.start trivial (by simp), rfl, ?_, ?_, ?_, ?_, ?_⟩,
      agrees.receives.extend rfl (List.subset_append_left _ _) rfl rfl rfl⟩, ?_⟩
    · exact fun _ member => member.elim
    · exact fun _ member => member.elim
    · intro _ seed
      cases seed
    · exact fun _ member => absurd member List.not_mem_nil
    · exact fun _ member => absurd member List.not_mem_nil
    · refine ⟨fun _ seed => ?_, fun _ => rfl, fun _ member => member, fun _ member => member⟩
      cases seed

/-! ### What one call adds -/

variable {history : KeyHistory} {account : KeyAccount}

/-- A key that `encrypt` spends was not spent before. -/
theorem Sends.spent_once (sends : history.Sends crypto account) (plaintext : Bytes)
    (nonce : Nonce) (once : history.spent.Nodup)
    (apart : CollisionFree crypto (history.perform crypto (.encrypt plaintext nonce)).derived) :
    (history.perform crypto (.encrypt plaintext nonce)).spent.Nodup := by
  have after := sends.encrypt plaintext nonce
  have next := after.known ⟨account.sendingSeed, account.moved + 1⟩ (Set.mem_insert _ _)
  rw [show (history.perform crypto (.encrypt plaintext nonce)).spent = history.spent ++
    ((history.ratchet.sendingChain.advance crypto).1.toOption.map Prod.snd).toList from rfl]
  rcases run : (history.ratchet.sendingChain.advance crypto).1 with fault | ⟨number, messageKey⟩
  · simpa [Except.toOption] using once
  · refine List.nodup_append.mpr ⟨once, List.nodup_singleton _, ?_⟩
    rintro key before _ new rfl
    obtain ⟨name, known, yields⟩ := sends.spent key before
    have same : name.key crypto =
        MessageName.key crypto ⟨account.sendingSeed, account.moved + 1⟩ := by
      rw [yields, sends.key_next, ← Chain.outputKey_of_advance run]
      exact List.mem_singleton.mp new
    have equal := MessageName.key_inj apart
      ((sends.known name known).mono (derived_subset_perform history _)) next same
    have behind := sends.behind name known (congrArg MessageName.seed equal)
    rw [equal] at behind
    exact absurd behind (Nat.not_succ_le_self account.moved)

/-- A ciphertext that is accepted was not accepted before. -/
theorem Agrees.accepted_once (agrees : history.Agrees crypto account)
    (opensOnlySealed : crypto.OpensOnlySealed)
    {messageNumber : Nat} {theirDhPub : Key} {nonce : Nonce} {ciphertext : Bytes} {now : Nat}
    (once : history.accepted.Nodup)
    (apart : CollisionFree crypto
      (history.openWith crypto messageNumber theirDhPub nonce ciphertext now).derived)
    (oneKey : crypto.OpensUnderOneKey
      ((history.openWith crypto messageNumber theirDhPub nonce ciphertext now).derivedKeys crypto)) :
    (history.openWith crypto messageNumber theirDhPub nonce ciphertext now).accepted.Nodup := by
  have after : (history.openWith crypto messageNumber theirDhPub nonce ciphertext now).Agrees
      crypto (account.openWith crypto history.ratchet messageNumber theirDhPub) := agrees.openWith
  rw [show (history.openWith crypto messageNumber theirDhPub nonce ciphertext now).accepted =
    history.accepted ++ ((history.ratchet.openWith crypto messageNumber theirDhPub nonce ciphertext
      now).1.toOption.map fun _ => ciphertext).toList from rfl]
  rcases outcome : (history.ratchet.openWith crypto messageNumber theirDhPub nonce ciphertext
    now).1 with fault | plaintext
  · simpa [Except.toOption] using once
  · refine List.nodup_append.mpr ⟨once, List.nodup_singleton _, ?_⟩
    rintro other before _ new rfl
    obtain rfl := List.mem_singleton.mp new
    obtain ⟨name, unopened, opened, opens⟩ := agrees.receives.opens_new outcome
    obtain ⟨earlier, known, otherNonce, otherPlaintext, opensToo⟩ :=
      agrees.receives.accepted other before
    have sealed := opensOnlySealed _ _ _ _ opens
    have earlierKnown : earlier.Known crypto
        (history.openWith crypto messageNumber theirDhPub nonce other now).derived :=
      (agrees.receives.known earlier known).mono subset_derived_openWith
    have nameKnown := after.receives.known name opened
    obtain ⟨same, _⟩ := oneKey _ (logged_of_known nameKnown) _ (logged_of_known earlierKnown) _ _ _ _ _
      sealed opensToo
    have equal := MessageName.key_inj apart earlierKnown nameKnown same
    exact unopened (equal ▸ known)

/-! ### Every key is used once -/

/-- The account agrees with the ratchet, and so far every key was used once. -/
structure UsesOnce (crypto : Primitives) (history : KeyHistory) : Prop where
  agrees : ∃ account, history.Agrees crypto account
  accepted : history.accepted.Nodup
  spent : history.spent.Nodup

theorem UsesOnce.perform (uses : history.UsesOnce crypto)
    (opensOnlySealed : crypto.OpensOnlySealed) (call : RatchetCall)
    (apart : CollisionFree crypto (history.perform crypto call).derived)
    (oneKey : crypto.OpensUnderOneKey ((history.perform crypto call).derivedKeys crypto)) :
    (history.perform crypto call).UsesOnce crypto := by
  obtain ⟨account, agrees⟩ := uses.agrees
  refine ⟨⟨_, agrees.perform call apart⟩, ?_, ?_⟩
  · cases call with
    | encrypt plaintext nonce => exact uses.accepted
    | decrypt messageNumber theirDhPub nonce ciphertext env =>
      by_cases turns : history.ratchet.theirDhPub = theirDhPub
      · subst turns
        rw [perform_decrypt_current] at apart oneKey ⊢
        exact agrees.accepted_once opensOnlySealed uses.accepted apart oneKey
      · rw [perform_decrypt_turn _ _ _ _ _ _ turns] at apart oneKey ⊢
        exact (agrees.turn (apart.mono subset_derived_openWith)).accepted_once opensOnlySealed
          uses.accepted apart oneKey
  · cases call with
    | encrypt plaintext nonce => exact agrees.sends.spent_once plaintext nonce uses.spent apart
    | decrypt messageNumber theirDhPub nonce ciphertext env => exact uses.spent

/-- In every run of one ratchet, whatever is encrypted and whatever arrives under whatever
headers, no ciphertext is accepted twice and no message key is spent on two encryptions. -/
theorem used_once (crypto : Primitives) (opensOnlySealed : crypto.OpensOnlySealed)
    {secret : Key} {first last : KeyHistory}
    (start : Start crypto secret first) (run : Relation.ReflTransGen (Step crypto) first last)
    (collisionFree : CollisionFree crypto last.derived)
    (oneKey : crypto.OpensUnderOneKey (last.derivedKeys crypto)) :
    last.accepted.Nodup ∧ last.spent.Nodup := by
  let holds (history : KeyHistory) : Prop := CollisionFree crypto history.derived →
    crypto.OpensUnderOneKey (history.derivedKeys crypto) → history.UsesOnce crypto
  have begins : holds first := by
    intro apart _
    obtain ⟨account, agrees, _⟩ := start.agrees apart
    refine ⟨⟨account, agrees⟩, ?_, ?_⟩
    · cases start <;> exact List.nodup_nil
    · cases start <;> exact List.nodup_nil
  have uses : holds last := by
    refine Run.preserves ?_ begins run
    rintro before after kept ⟨call, rfl⟩ apart oneKey
    have grown := @derived_subset_perform crypto before call
    exact (kept (apart.mono grown) (oneKey.mono (derivedKeys_mono grown))).perform opensOnlySealed
      call apart oneKey
  exact ⟨(uses collisionFree oneKey).accepted, (uses collisionFree oneKey).spent⟩

/-! ### A message that comes twice -/

open SampleSuite

/-- The first ciphertext of an initiator whose responder is `sampleBuilt 2 1`. -/
def sampleCiphertext : Bytes :=
  let ratchet := (sampleBuilt 1 2).initiatorPreRatchet keyedSuite (octets 32 3)
  ((ratchet.encrypt keyedSuite [104, 105] (Octets.zero 12)).1.toOption.map fun made =>
    made.2.1).getD []

/-- The call in which that ciphertext arrives. -/
def sampleArrival : RatchetCall :=
  .decrypt 1 (keyedSuite.publicKey (octets 32 3)) (Octets.zero 12) sampleCiphertext
    (drawing 4)

/-- A responder encrypts, and the message arrives twice. -/
def sampleUses : KeyHistory :=
  [.encrypt [1] (Octets.zero 12), sampleArrival, .encrypt [2] (Octets.zero 12),
    sampleArrival].foldl (perform keyedSuite) (made (octets 32 7) (sampleBuilt 2 1))

theorem sampleUses_used_once : (sampleUses.accepted.length = 1 ∧ sampleUses.spent.length = 2) ∧
    sampleUses.accepted.Nodup ∧ sampleUses.spent.Nodup := by
  refine ⟨by decide +kernel, ?_⟩
  exact used_once keyedSuite keyed_opensOnlySealed
    (.responder (rfl : DoubleRatchet.new keyedSuite (octets 32 7)
      (octets 32 2) (keyedSuite.publicKey (octets 32 1)) 0 =
        .ok (sampleBuilt 2 1)))
    (Run.of_foldl (fun _ call _ => ⟨call, rfl⟩) _) (by decide +kernel) (keyed_opensUnderOneKey _)

end KeyHistory

end Insub
