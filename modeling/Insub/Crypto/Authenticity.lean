/-
This file is about two ratchets and the network between them. The network belongs to an attacker: it
drops and reorders what it carries, repeats it to either party under whatever headers, and writes
ciphertexts of its own under every key that it can compute. Some keys it knows from the start, but
none that either ratchet derives.

Then each party accepts only what the other party sealed, and accepts it once. An accepted
ciphertext opens under a key that the ratchet derived. The attacker reaches no such key, so one of
the parties sealed the ciphertext, and a ratchet accepts nothing that it sealed itself.
-/

import Mathlib
import Insub.Crypto.Lineage
import Insub.Crypto.Reflection

namespace Insub

open Rust Derivation

namespace KeyHistory

variable {crypto : Primitives} {history : KeyHistory} {account : KeyAccount} {secret : Key}

/-! ### One party -/

/-- What is known of one ratchet: every key is used once, and goes back to the shared secret, and
no chain is used in both directions. -/
structure Reliable (crypto : Primitives) (secret : Key) (history : KeyHistory) : Prop where
  once : history.UsesOnce crypto
  traced : history.Traced crypto secret
  separated : ∃ account, history.Agrees crypto account ∧ history.Separated secret account

theorem Start.accepted (start : Start crypto secret history) : history.accepted = [] := by
  cases start <;> rfl

theorem Start.reliable (start : Start crypto secret history)
    (apart : CollisionFree crypto history.derived) : history.Reliable crypto secret := by
  obtain ⟨account, agrees, unused⟩ := start.agrees apart
  refine ⟨⟨⟨account, agrees⟩, ?_, ?_⟩, start.traced apart, account, agrees,
    Separated.of_unused unused⟩
  · rw [start.accepted]
    exact List.nodup_nil
  · cases start <;> exact List.nodup_nil

theorem Reliable.perform (reliable : history.Reliable crypto secret)
    (opensOnlySealed : crypto.OpensOnlySealed)
    {call : RatchetCall} (turned : history.SendsTurned secret call)
    (apart : CollisionFree crypto (history.perform crypto call).derived)
    (oneKey : crypto.OpensUnderOneKey ((history.perform crypto call).derivedKeys crypto)) :
    (history.perform crypto call).Reliable crypto secret := by
  obtain ⟨account, agrees, separated⟩ := reliable.separated
  exact ⟨reliable.once.perform opensOnlySealed call apart oneKey,
    reliable.traced.perform call apart, _, agrees.perform call apart,
    separated.perform agrees turned apart⟩

/-- What was accepted opens under a key that was derived. -/
theorem Agrees.key_of_accepted (agrees : history.Agrees crypto account) {ciphertext : Bytes}
    (accepted : ciphertext ∈ history.accepted) : ∃ key nonce plaintext,
      crypto.aeadDecrypt key nonce ciphertext = some plaintext ∧
        Logged (KeySource.key crypto) history.derived key := by
  obtain ⟨name, opened, nonce, plaintext, opens⟩ := agrees.receives.accepted ciphertext accepted
  obtain ⟨positive, drawn⟩ := agrees.receives.known name opened
  exact ⟨_, nonce, plaintext, opens, _, (drawn.keys (name.number - 1) (by omega)).1, rfl⟩

theorem sealed_subset_perform (history : KeyHistory) (call : RatchetCall) :
    history.sealed ⊆ (history.perform crypto call).sealed := by
  cases call with
  | encrypt plaintext nonce => exact List.subset_append_left _ _
  | decrypt messageNumber theirDhPub nonce ciphertext env => exact List.Subset.refl _

end KeyHistory

open KeyHistory

/-! ### Two parties -/

/-- The histories of the two ratchets of a session. -/
abbrev Histories := Party → KeyHistory

namespace Histories

variable {crypto : Primitives} {attack : List KeySource} {known : Set Key} {secret : Key}

/-- Where the network has a ciphertext from: one of the parties sealed it, or the attacker can
compute every key that opens it. -/
def Carries (crypto : Primitives) (attack : List KeySource) (known : Set Key)
    (histories : Histories) (ciphertext : Bytes) : Prop :=
  (∃ party, ciphertext ∈ (histories party).sealed) ∨
    ∀ key nonce plaintext, crypto.aeadDecrypt key nonce ciphertext = some plaintext →
      Reach (KeySource.key crypto) KeySource.origin attack known key

/-- A call of a party is fed with what the network carries. -/
def Feeds (crypto : Primitives) (attack : List KeySource) (known : Set Key)
    (histories : Histories) : RatchetCall → Prop
  | .encrypt _ _ => True
  | .decrypt _ _ _ ciphertext _ => histories.Carries crypto attack known ciphertext

/-- One party makes a call. -/
def perform (crypto : Primitives) (histories : Histories) (party : Party) (call : RatchetCall) :
    Histories :=
  Function.update histories party ((histories party).perform crypto call)

/-- One call of one party. Nothing is sealed before the first turn of the ratchet. -/
inductive Step (crypto : Primitives) (attack : List KeySource) (known : Set Key) (secret : Key) :
    Histories → Histories → Prop
  | call (histories : Histories) (party : Party) (call : RatchetCall)
      (turned : (histories party).SendsTurned secret call)
      (feeds : histories.Feeds crypto attack known call) :
      Step crypto attack known secret histories (histories.perform crypto party call)

theorem perform_self (histories : Histories) (party : Party) (call : RatchetCall) :
    histories.perform crypto party call party = (histories party).perform crypto call :=
  Function.update_self ..

theorem perform_of_ne (histories : Histories) {party other : Party} (call : RatchetCall)
    (different : other ≠ party) : histories.perform crypto party call other = histories other :=
  Function.update_of_ne different ..

/-- The attacker knows no key that the ratchet derived, and what he derives collides with none. What
one of the keys that were derived has sealed, none of the others opens. -/
structure Unknown (crypto : Primitives) (attack : List KeySource) (known : Set Key)
    (history : KeyHistory) : Prop where
  apart : CollisionFree crypto (history.derived ++ attack)
  oneKey : crypto.OpensUnderOneKey (history.derivedKeys crypto)
  hidden : ∀ key ∈ known, ¬ Logged (KeySource.key crypto) history.derived key

theorem Unknown.apart_derived {history : KeyHistory}
    (unknown : Unknown crypto attack known history) : CollisionFree crypto history.derived :=
  unknown.apart.mono (List.subset_append_left _ attack)

theorem Unknown.before {history : KeyHistory} {call : RatchetCall}
    (unknown : Unknown crypto attack known (history.perform crypto call)) :
    Unknown crypto attack known history := by
  have grown := @derived_subset_perform crypto history call
  refine ⟨unknown.apart.mono ?_, unknown.oneKey.mono (derivedKeys_mono grown),
    fun key member logged => unknown.hidden key member ?_⟩
  · exact List.append_subset.mpr
      ⟨List.Subset.trans grown (List.subset_append_left _ _), List.subset_append_right _ _⟩
  · exact logged.mono grown

/-- Each party is reliable and has accepted only what the other one sealed. -/
structure Genuine (crypto : Primitives) (secret : Key) (histories : Histories) : Prop where
  reliable : ∀ party, (histories party).Reliable crypto secret
  sealed : ∀ party, (histories party).accepted ⊆ (histories party.other).sealed

/-- Whatever the network feeds to a party and the party accepts, the other party sealed. -/
theorem sealed_of_carries {histories : Histories} {party : Party} {after : KeyHistory}
    (reliable : after.Reliable crypto secret)
    (unknown : Unknown crypto attack known after) {ciphertext : Bytes}
    (carries : histories.Carries crypto attack known ciphertext)
    (own : (histories party).sealed ⊆ after.sealed) (accepted : ciphertext ∈ after.accepted) :
    ciphertext ∈ (histories party.other).sealed := by
  obtain ⟨account, agrees, separated⟩ := reliable.separated
  rcases carries with ⟨author, sealed⟩ | computed
  · rcases author.eq_or_eq_other party with rfl | rfl
    · exact absurd accepted
        (separated.not_accepted agrees unknown.oneKey unknown.apart_derived (own sealed))
    · exact sealed
  · obtain ⟨key, nonce, plaintext, opens, logged⟩ := agrees.key_of_accepted accepted
    refine absurd logged ?_
    exact (computed key nonce plaintext opens).not_logged unknown.apart
      (fun source member => reliable.traced.origin_logged member) unknown.hidden

/-- What a call adds to what was accepted is the ciphertext it was fed with. -/
theorem mem_accepted_perform {history : KeyHistory} {call : RatchetCall} {ciphertext : Bytes}
    (accepted : ciphertext ∈ (history.perform crypto call).accepted) :
    ciphertext ∈ history.accepted ∨ ∃ messageNumber theirDhPub nonce env,
      call = .decrypt messageNumber theirDhPub nonce ciphertext env := by
  cases call with
  | encrypt plaintext nonce => exact Or.inl accepted
  | decrypt messageNumber theirDhPub nonce fed env =>
    rcases List.mem_append.mp accepted with earlier | new
    · exact Or.inl earlier
    · obtain ⟨_, _, rfl⟩ := Option.map_eq_some_iff.mp (Option.mem_toList.mp new)
      exact Or.inr ⟨messageNumber, theirDhPub, nonce, env, rfl⟩

theorem Genuine.perform {histories : Histories} (genuine : histories.Genuine crypto secret)
    (opensOnlySealed : crypto.OpensOnlySealed) {party : Party}
    {call : RatchetCall} (turned : (histories party).SendsTurned secret call)
    (feeds : histories.Feeds crypto attack known call)
    (unknown : Unknown crypto attack known ((histories party).perform crypto call)) :
    (histories.perform crypto party call).Genuine crypto secret := by
  have reliable := (genuine.reliable party).perform opensOnlySealed turned
    unknown.apart_derived unknown.oneKey
  have own : (histories party).sealed ⊆ ((histories party).perform crypto call).sealed :=
    sealed_subset_perform _ call
  refine ⟨fun other => ?_, fun other => ?_⟩
  · by_cases same : other = party
    · subst same
      rwa [perform_self]
    · rw [perform_of_ne _ _ same]
      exact genuine.reliable other
  · rcases other.eq_or_eq_other party with rfl | rfl
    · rw [perform_self, perform_of_ne _ _ other.other_ne]
      intro ciphertext accepted
      rcases mem_accepted_perform accepted with earlier | ⟨_, _, _, _, rfl⟩
      · exact genuine.sealed other earlier
      · exact sealed_of_carries reliable unknown feeds own accepted
    · rw [Party.other_other, perform_self, perform_of_ne _ _ party.other_ne]
      have earlier := genuine.sealed party.other
      rw [Party.other_other] at earlier
      exact List.Subset.trans earlier own

/-- In every run of two parties that start from one secret over a network that belongs to an
attacker, each party accepts only ciphertexts that the other party sealed, and none of them
twice. -/
theorem accepted_from_peer (crypto : Primitives) (opensOnlySealed : crypto.OpensOnlySealed)
    {secret : Key} {first last : Histories}
    (starts : ∀ party, Start crypto secret (first party))
    {attack : List KeySource} {known : Set Key}
    (run : Relation.ReflTransGen (Step crypto attack known secret) first last)
    (unknown : ∀ party, Unknown crypto attack known (last party)) (party : Party) :
    (last party).accepted.Nodup ∧
      ∀ ciphertext ∈ (last party).accepted, ciphertext ∈ (last party.other).sealed := by
  let holds (histories : Histories) : Prop :=
    (∀ party, Unknown crypto attack known (histories party)) → histories.Genuine crypto secret
  have begins : holds first := by
    intro unknown
    refine ⟨fun party => (starts party).reliable (unknown party).apart_derived, fun party => ?_⟩
    rw [(starts party).accepted]
    exact List.nil_subset _
  have kept : holds last := by
    refine Run.preserves ?_ begins run
    rintro before _ holds ⟨mover, call, turned, feeds⟩ unknown
    have moved := unknown mover
    rw [perform_self] at moved
    refine (holds fun other => ?_).perform opensOnlySealed turned feeds moved
    by_cases same : other = mover
    · exact same ▸ moved.before
    · have still := unknown other
      rwa [perform_of_ne _ _ same] at still
  have genuine := kept unknown
  exact ⟨(genuine.reliable party).once.accepted,
    fun ciphertext accepted => genuine.sealed party accepted⟩

/-! ### A message that is repeated and turned back -/

open SampleSuite

/-- The two parties of the sample session. -/
def sampleHistories : Histories
  | .initiator =>
    { made (octets 32 7) (sampleBuilt 1 2) with
      ratchet := (sampleBuilt 1 2).initiatorPreRatchet keyedSuite (octets 32 3)
      derived := [.sharedSecret (octets 32 7), .initialChain (octets 32 7)] ++
        [.rootKey (octets 32 7)
            (keyedSuite.diffieHellman (octets 32 3) (keyedSuite.publicKey (octets 32 2))),
          .chainKey (octets 32 7)
            (keyedSuite.diffieHellman (octets 32 3) (keyedSuite.publicKey (octets 32 2)))] }
  | .responder => made (octets 32 7) (sampleBuilt 2 1)

/-- A ciphertext that the attacker writes under a key of its own. -/
def sampleForgery : Bytes :=
  (Chain.outputKey keyedSuite (octets 32 9)).toList ++ (Octets.zero 12).toList ++ [6]

/-- A message of the initiator arrives, it arrives again, it comes back to the initiator, and a
forgery takes its place. -/
def sampleCalls : List (Party × RatchetCall) :=
  [(.initiator, .encrypt [104, 105] (Octets.zero 12)), (.responder, sampleArrival),
    (.responder, sampleArrival), (.initiator, sampleArrival),
    (.responder, .decrypt 1 (keyedSuite.publicKey (octets 32 3)) (Octets.zero 12) sampleForgery
      (drawing 4))]

/-- The two parties after those calls. -/
def sampleExchange : Histories :=
  sampleCalls.foldl (fun histories next => histories.perform keyedSuite next.1 next.2)
    sampleHistories

theorem sampleExchange_from_peer :
    ((sampleExchange .responder).accepted.length = 1 ∧
        (sampleExchange .initiator).accepted = []) ∧
      ∀ party, (sampleExchange party).accepted.Nodup ∧
        ∀ ciphertext ∈ (sampleExchange party).accepted,
          ciphertext ∈ (sampleExchange party.other).sealed := by
  refine ⟨⟨by decide +kernel, by decide +kernel⟩, fun party => ?_⟩
  have starts (party : Party) : Start keyedSuite (octets 32 7) (sampleHistories party) := by
    cases party with
    | initiator => exact .initiator rfl
    | responder => exact sampleMade_start
  let Next := Step keyedSuite [.messageKey (octets 32 9)] {octets 32 9} (octets 32 7)
  have sends : Next sampleHistories _ :=
    .call sampleHistories .initiator (.encrypt [104, 105] (Octets.zero 12)) (by
      show DoubleRatchet.rootKey _ ≠ _
      decide +kernel) trivial
  have arrives (histories : Histories) (party : Party)
      (sealed : sampleCiphertext ∈ (histories .initiator).sealed) :
      Next histories (histories.perform keyedSuite party sampleArrival) :=
    .call histories party sampleArrival trivial (Or.inl ⟨.initiator, sealed⟩)
  have forged (histories : Histories) : Next histories _ :=
    .call histories .responder (.decrypt 1 (keyedSuite.publicKey (octets 32 3)) (Octets.zero 12)
      sampleForgery (drawing 4)) trivial (Or.inr (by
        intro key nonce plaintext opens
        have seals : keyedSuite.aeadEncrypt (Chain.outputKey keyedSuite (octets 32 9))
          (Octets.zero 12) [6] = some sampleForgery := rfl
        obtain ⟨rfl, _⟩ := keyed_opensUnderOneKey Set.univ _ trivial _ trivial _ _ _ _ _ seals opens
        have output : KeySource.messageKey (octets 32 9) ∈ [KeySource.messageKey (octets 32 9)] :=
          List.mem_singleton_self _
        exact .derive output (.known rfl)))
  have run : Relation.ReflTransGen Next sampleHistories sampleExchange :=
    .tail (.tail (.tail (.tail (.single sends) (arrives _ .responder (by decide +kernel)))
      (arrives _ .responder (by decide +kernel))) (arrives _ .initiator (by decide +kernel)))
      (forged _)
  refine accepted_from_peer keyedSuite keyed_opensOnlySealed starts run ?_ party
  rintro (_ | _)
  · refine ⟨by decide +kernel, keyed_opensUnderOneKey _, ?_⟩
    rintro key rfl ⟨source, member, same⟩
    revert source
    decide +kernel
  · refine ⟨by decide +kernel, keyed_opensUnderOneKey _, ?_⟩
    rintro key rfl ⟨source, member, same⟩
    revert source
    decide +kernel

end Histories

end Insub
