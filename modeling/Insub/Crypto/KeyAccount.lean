/-
This file keeps account of the chains of a ratchet. A message is named by the source its chain
starts at and its number there. The account says where the sending chain and every receiving
chain start, which messages keys were spent on and which were opened; every call of the ratchet
moves it along, and it agrees with the ratchet in every state of a run.
-/

import Mathlib
import Insub.Crypto.KeyHistory

namespace Insub

open Rust Derivation

variable (crypto : Primitives)

/-! ### Names of messages -/

/-- The keys of the chain that starts at the seed were derived for the first messages of it. -/
structure Drawn (derived : List KeySource) (seed : KeySource) (count : Nat) : Prop where
  starts : seed.Starts
  logged : seed ∈ derived
  keys : ∀ moved < count,
    .messageKey (Chain.chainKeyAt crypto (seed.key crypto) moved) ∈ derived ∧
      .nextChainKey (Chain.chainKeyAt crypto (seed.key crypto) moved) ∈ derived

/-- A message, by where its chain starts and its number there. -/
@[ext] structure MessageName where
  seed : KeySource
  number : Nat

/-- The key that seals the message. -/
def MessageName.key (name : MessageName) : Key :=
  Chain.messageKeyAt crypto (name.seed.key crypto) name.number

/-- The key of the message was derived. -/
def MessageName.Known (derived : List KeySource) (name : MessageName) : Prop :=
  1 ≤ name.number ∧ Drawn crypto derived name.seed name.number

variable {crypto} {derived more : List KeySource} {seed : KeySource} {count : Nat}

theorem Chain.mem_sources {chain : Chain} {source : KeySource} :
    source ∈ chain.sources crypto count ↔ ∃ moved < count,
      source = .messageKey (chainKeyAt crypto chain.key moved) ∨
        source = .nextChainKey (chainKeyAt crypto chain.key moved) := by
  simp [sources]

theorem Drawn.mono (drawn : Drawn crypto derived seed count) (subset : derived ⊆ more) :
    Drawn crypto more seed count where
  starts := drawn.starts
  logged := subset drawn.logged
  keys := fun moved less => (drawn.keys moved less).imp (fun member => subset member)
    (fun member => subset member)

theorem Drawn.of_le (drawn : Drawn crypto derived seed count) {less : Nat}
    (bound : less ≤ count) : Drawn crypto derived seed less where
  starts := drawn.starts
  logged := drawn.logged
  keys := fun moved before => drawn.keys moved (by omega)

theorem Drawn.start (starts : seed.Starts) (logged : seed ∈ derived) :
    Drawn crypto derived seed 0 where
  starts := starts
  logged := logged
  keys := fun moved less => absurd less (Nat.not_lt_zero moved)

/-- Moving the chain ahead derives the keys of the messages it moves over. -/
theorem Drawn.move (drawn : Drawn crypto derived seed count) {chain : Chain}
    (key : chain.key = Chain.chainKeyAt crypto (seed.key crypto) count) (further : Nat) :
    Drawn crypto (derived ++ chain.sources crypto further) seed (count + further) where
  starts := drawn.starts
  logged := List.mem_append_left _ drawn.logged
  keys := by
    intro moved less
    by_cases before : moved < count
    · exact (drawn.keys moved before).imp (List.mem_append_left _) (List.mem_append_left _)
    · have link : Chain.chainKeyAt crypto (seed.key crypto) moved =
          Chain.chainKeyAt crypto chain.key (moved - count) := by
        rw [key, Chain.chainKeyAt_chainKeyAt]
        congr 1
        omega
      rw [link]
      have bound : moved - count < further := by omega
      exact ⟨List.mem_append_right _ (Chain.mem_sources.mpr ⟨_, bound, Or.inl rfl⟩),
        List.mem_append_right _ (Chain.mem_sources.mpr ⟨_, bound, Or.inr rfl⟩)⟩

theorem MessageName.Known.mono {name : MessageName} (known : name.Known crypto derived)
    (subset : derived ⊆ more) : name.Known crypto more :=
  ⟨known.1, known.2.mono subset⟩

/-- Distinct messages are sealed under distinct keys. -/
theorem MessageName.key_inj (apart : CollisionFree crypto derived) {first second : MessageName}
    (firstKnown : first.Known crypto derived) (secondKnown : second.Known crypto derived)
    (same : first.key crypto = second.key crypto) : first = second := by
  obtain ⟨firstPositive, firstDrawn⟩ := firstKnown
  obtain ⟨secondPositive, secondDrawn⟩ := secondKnown
  have sources := apart (firstDrawn.keys (first.number - 1) (by omega)).1
    (secondDrawn.keys (second.number - 1) (by omega)).1 same
  obtain ⟨seeds, numbers⟩ := iterate_inj (fun _ _ => KeySource.nextChainKey.inj) apart
    firstDrawn.logged secondDrawn.logged firstDrawn.starts.ne_next secondDrawn.starts.ne_next
    (fun moved less => (firstDrawn.keys moved (by omega)).2)
    (fun moved less => (secondDrawn.keys moved (by omega)).2) (KeySource.messageKey.inj sources)
  exact MessageName.ext seeds (by omega)

/-! ### The account -/

/-- Where the sending chain started and how far it moved, where the receiving chain of each ratchet
key started, the messages that were sealed, and those that were opened. -/
structure KeyAccount where
  sendingSeed : KeySource
  moved : Nat
  seedOf : Key → KeySource
  spent : Set MessageName
  opened : Set MessageName

namespace KeyAccount

def encrypt (account : KeyAccount) : KeyAccount where
  sendingSeed := account.sendingSeed
  moved := account.moved + 1
  seedOf := account.seedOf
  spent := insert ⟨account.sendingSeed, account.moved + 1⟩ account.spent
  opened := account.opened

variable (crypto) in
/-- A turn starts a receiving chain and a sending chain. -/
def turn (account : KeyAccount) (ratchet : DoubleRatchet) (theirNewDhPub freshSecret : Key) :
    KeyAccount where
  sendingSeed := .chainKey (ratchet.rootAfterRecv crypto theirNewDhPub)
    (crypto.diffieHellman freshSecret theirNewDhPub)
  moved := 0
  seedOf := Function.update account.seedOf theirNewDhPub
    (.chainKey ratchet.rootKey (crypto.diffieHellman ratchet.ourDhPriv theirNewDhPub))
  spent := account.spent
  opened := account.opened

theorem seedOf_turn_self (account : KeyAccount) (ratchet : DoubleRatchet)
    (theirNewDhPub freshSecret : Key) :
    (account.turn crypto ratchet theirNewDhPub freshSecret).seedOf theirNewDhPub =
      .chainKey ratchet.rootKey (crypto.diffieHellman ratchet.ourDhPriv theirNewDhPub) :=
  Function.update_self ..

theorem seedOf_turn_ne (account : KeyAccount) (ratchet : DoubleRatchet)
    {theirNewDhPub freshSecret theirDhPub : Key} (different : theirDhPub ≠ theirNewDhPub) :
    (account.turn crypto ratchet theirNewDhPub freshSecret).seedOf theirDhPub =
      account.seedOf theirDhPub :=
  Function.update_of_ne different ..

variable (crypto) in
/-- The message counts as opened when its key was selected. -/
def openWith (account : KeyAccount) (ratchet : DoubleRatchet) (messageNumber : Nat)
    (theirDhPub : Key) : KeyAccount where
  sendingSeed := account.sendingSeed
  moved := account.moved
  seedOf := account.seedOf
  spent := account.spent
  opened := { name | name ∈ account.opened ∨
    name = ⟨account.seedOf theirDhPub, messageNumber⟩ ∧
      ∃ entry, ratchet.receivingChains.lookup theirDhPub = some entry ∧
        (entry.1.messageKey crypto messageNumber).1.toOption.isSome }

theorem opened_openWith_of_selected (account : KeyAccount) {ratchet : DoubleRatchet}
    {messageNumber : Nat} {theirDhPub messageKey : Key} {entry : Chain × Nat} {next : Chain}
    (held : ratchet.receivingChains.lookup theirDhPub = some entry)
    (run : entry.1.messageKey crypto messageNumber = (.ok messageKey, next)) :
    (account.openWith crypto ratchet messageNumber theirDhPub).opened =
      insert ⟨account.seedOf theirDhPub, messageNumber⟩ account.opened := by
  ext name
  simp [openWith, held, run, Except.toOption, or_comm]

theorem opened_openWith_of_refused (account : KeyAccount) {ratchet : DoubleRatchet}
    {messageNumber : Nat} {theirDhPub : Key}
    (refused : ∀ entry, ratchet.receivingChains.lookup theirDhPub = some entry →
      (entry.1.messageKey crypto messageNumber).1.toOption = none) :
    (account.openWith crypto ratchet messageNumber theirDhPub).opened = account.opened := by
  ext name
  refine ⟨?_, Or.inl⟩
  rintro (before | ⟨_, entry, held, selected⟩)
  · exact before
  · rw [refused entry held] at selected
    cases selected

variable (crypto) in
def perform (account : KeyAccount) (ratchet : DoubleRatchet) : RatchetCall → KeyAccount
  | .encrypt _ _ => account.encrypt
  | .decrypt messageNumber theirDhPub _ _ env =>
    if ratchet.theirDhPub ≠ theirDhPub then
      (account.turn crypto ratchet theirDhPub env.freshSecret).openWith crypto
        (ratchet.dhRatchetStep crypto theirDhPub env) messageNumber theirDhPub
    else account.openWith crypto ratchet messageNumber theirDhPub

/-- Nothing was sealed or opened yet, and the only chains are those of the shared secret and of
the initiator's first turn. -/
structure Unused (secret : Key) (account : KeyAccount) : Prop where
  sendingSeed : ∀ first, account.sendingSeed = .initialChain first → first = secret
  seedOf : ∀ theirDhPub, account.seedOf theirDhPub = .initialChain secret
  spent : ∀ name, name ∉ account.spent
  opened : ∀ name, name ∉ account.opened

end KeyAccount

namespace KeyHistory

/-- The root key has a source, and no turn has replaced it yet. -/
def Rooted (crypto : Primitives) (history : KeyHistory) : Prop :=
  Tip (KeySource.key crypto) KeySource.turnedFrom history.derived history.ratchet.rootKey

/-- The account is right about the sending chain: where it is, that everything sealed so far on it
lies behind it, and what the spent keys and the ciphertexts belong to. -/
structure Sends (crypto : Primitives) (history : KeyHistory) (account : KeyAccount) : Prop where
  drawn : Drawn crypto history.derived account.sendingSeed account.moved
  key : history.ratchet.sendingChain.key =
    Chain.chainKeyAt crypto (account.sendingSeed.key crypto) account.moved
  known : ∀ name ∈ account.spent, name.Known crypto history.derived
  behind : ∀ name ∈ account.spent, name.seed = account.sendingSeed → name.number ≤ account.moved
  initial : ∀ secret, account.sendingSeed = .initialChain secret →
    history.ratchet.rootKey = secret
  spent : ∀ key ∈ history.spent, ∃ name ∈ account.spent, name.key crypto = key
  sealed : ∀ ciphertext ∈ history.sealed, ∃ name ∈ account.spent, ∃ nonce plaintext,
    crypto.aeadEncrypt (name.key crypto) nonce plaintext = some ciphertext

/-- The chain started at the seed and has selected the keys of the messages opened on it. -/
def Follows (crypto : Primitives) (history : KeyHistory) (account : KeyAccount)
    (seed : KeySource) (chain : Chain) : Prop :=
  ∃ window : ReceiveWindow, chain.Represents crypto (seed.key crypto) window ∧
    window.Accounts { number | ⟨seed, number⟩ ∈ account.opened } ∧
      Drawn crypto history.derived seed window.reached

/-- The account is right about the receiving chains: no two started at one seed, and each has
selected the keys of the messages opened on it. -/
structure Receives (crypto : Primitives) (history : KeyHistory) (account : KeyAccount) :
    Prop where
  follows : ∀ theirDhPub chain used,
    history.ratchet.receivingChains.lookup theirDhPub = some (chain, used) →
      history.Follows crypto account (account.seedOf theirDhPub) chain
  distinct : ∀ first ∈ history.ratchet.receivingChains,
    ∀ second ∈ history.ratchet.receivingChains,
      account.seedOf first = account.seedOf second → first = second
  known : ∀ name ∈ account.opened, name.Known crypto history.derived
  accepted : ∀ ciphertext ∈ history.accepted, ∃ name ∈ account.opened, ∃ nonce plaintext,
    crypto.aeadDecrypt (name.key crypto) nonce ciphertext = some plaintext

/-- The account agrees with the ratchet. -/
structure Agrees (crypto : Primitives) (history : KeyHistory) (account : KeyAccount) : Prop where
  roots : history.Rooted crypto
  sends : history.Sends crypto account
  receives : history.Receives crypto account

variable {history : KeyHistory} {account : KeyAccount}

/-! ### Encrypting -/

theorem turnedFrom_of_mem_sources {chain : Chain} {source : KeySource}
    (member : source ∈ chain.sources crypto count) : source.turnedFrom = none := by
  obtain ⟨_, _, rfl | rfl⟩ := Chain.mem_sources.mp member
  · rfl
  · rfl

theorem Rooted.extend (rooted : history.Rooted crypto) {next : KeyHistory}
    (root : next.ratchet.rootKey = history.ratchet.rootKey)
    (derived : next.derived = history.derived ++ more)
    (others : ∀ source ∈ more, source.turnedFrom = none) : next.Rooted crypto := by
  unfold Rooted at rooted ⊢
  rw [root, derived]
  exact rooted.append others

/-- What leaves the sending chain alone leaves the account of it right. -/
theorem Sends.extend (sends : history.Sends crypto account) {next : KeyHistory}
    (chain : next.ratchet.sendingChain = history.ratchet.sendingChain)
    (root : next.ratchet.rootKey = history.ratchet.rootKey)
    (derived : history.derived ⊆ next.derived) (spent : next.spent = history.spent)
    (sealed : next.sealed = history.sealed) : next.Sends crypto account where
  drawn := sends.drawn.mono derived
  key := by rw [chain, sends.key]
  known := fun name member => (sends.known name member).mono derived
  behind := sends.behind
  initial := fun secret seed => by rw [root, sends.initial secret seed]
  spent := by simpa only [spent] using sends.spent
  sealed := by simpa only [sealed] using sends.sealed

theorem Follows.mono {seed : KeySource} {chain : Chain} {next : KeyHistory} {other : KeyAccount}
    (follows : history.Follows crypto account seed chain) (derived : history.derived ⊆ next.derived)
    (opened : ∀ number, ⟨seed, number⟩ ∈ other.opened ↔ ⟨seed, number⟩ ∈ account.opened) :
    next.Follows crypto other seed chain := by
  obtain ⟨window, represents, accounts, drawn⟩ := follows
  refine ⟨window, represents, ?_, drawn.mono derived⟩
  simpa only [opened] using accounts

/-- What leaves the receiving chains alone leaves the account of them right. -/
theorem Receives.extend (receives : history.Receives crypto account) {next : KeyHistory}
    {other : KeyAccount}
    (chains : next.ratchet.receivingChains = history.ratchet.receivingChains)
    (derived : history.derived ⊆ next.derived) (accepted : next.accepted = history.accepted)
    (seeds : other.seedOf = account.seedOf) (opened : other.opened = account.opened) :
    next.Receives crypto other where
  follows := by
    intro theirDhPub chain used held
    rw [chains] at held
    rw [seeds]
    exact (receives.follows theirDhPub chain used held).mono derived fun number => by rw [opened]
  distinct := by
    rw [chains, seeds]
    exact receives.distinct
  known := by
    rw [opened]
    exact fun name member => (receives.known name member).mono derived
  accepted := by
    rw [opened, accepted]
    exact receives.accepted

end KeyHistory

/-- A chain moves to its next key, even when its number overflows. -/
theorem Chain.advance_key (chain : Chain) :
    (chain.advance crypto).2.key = nextKey crypto chain.key := by
  rcases addU32_cases chain.messageNumber 1 with ⟨_, fits⟩ | ⟨site, panicked⟩
  · simp only [advance, Primitives.deriveKey_eq, fits]
    rfl
  · simp only [advance, Primitives.deriveKey_eq, panicked]
    rfl

theorem Chain.outputKey_of_advance {chain : Chain} {number : Nat} {messageKey : Key}
    (run : (chain.advance crypto).1 = .ok (number, messageKey)) :
    messageKey = outputKey crypto chain.key := by
  rcases addU32_cases chain.messageNumber 1 with ⟨_, fits⟩ | ⟨site, panicked⟩
  · simp only [advance, Primitives.deriveKey_eq, fits] at run
    cases run
    rfl
  · simp only [advance, Primitives.deriveKey_eq, panicked] at run
    cases run

variable (crypto) in
theorem DoubleRatchet.encrypt_ratchet (ratchet : DoubleRatchet) (plaintext : Bytes)
    (nonce : Nonce) : (ratchet.encrypt crypto plaintext nonce).2 =
      { ratchet with sendingChain := (ratchet.sendingChain.advance crypto).2 } := by
  rw [encrypt]
  rcases ratchet.sendingChain.advance crypto with ⟨fault | ⟨number, messageKey⟩, chain⟩
  · rfl
  · dsimp only
    cases crypto.encrypt plaintext messageKey nonce with
    | error fault => rfl
    | ok made => rfl

namespace KeyHistory

variable {history : KeyHistory} {account : KeyAccount}

theorem perform_sealed (history : KeyHistory) (plaintext : Bytes) (nonce : Nonce) :
    (history.perform crypto (.encrypt plaintext nonce)).sealed = history.sealed ++
      ((history.ratchet.encrypt crypto plaintext nonce).1.toOption.map fun made =>
        made.2.1).toList := rfl

/-- The message that `encrypt` seals next. -/
theorem Sends.key_next (sends : history.Sends crypto account) :
    MessageName.key crypto ⟨account.sendingSeed, account.moved + 1⟩ =
      Chain.outputKey crypto history.ratchet.sendingChain.key := by
  rw [sends.key]
  rfl

theorem Sends.encrypt (sends : history.Sends crypto account) (plaintext : Bytes) (nonce : Nonce) :
    (history.perform crypto (.encrypt plaintext nonce)).Sends crypto account.encrypt := by
  have grown : history.derived ⊆ (history.perform crypto (.encrypt plaintext nonce)).derived :=
    List.subset_append_left _ _
  have drawn := sends.drawn.move sends.key 1
  have ratchet := history.ratchet.encrypt_ratchet crypto plaintext nonce
  have next : (⟨account.sendingSeed, account.moved + 1⟩ : MessageName) ∈ account.encrypt.spent :=
    Set.mem_insert _ _
  refine ⟨drawn, ?_, ?_, ?_, ?_, ?_, ?_⟩
  · show (history.ratchet.encrypt crypto plaintext nonce).2.sendingChain.key = _
    rw [ratchet, Chain.advance_key, sends.key, ← Chain.chainKeyAt_succ]
    rfl
  · rintro name (rfl | earlier)
    · exact ⟨Nat.le_add_left 1 account.moved, drawn⟩
    · exact (sends.known name earlier).mono grown
  · rintro name (rfl | earlier) seed
    · exact le_refl _
    · exact Nat.le_succ_of_le (sends.behind name earlier seed)
  · intro secret seed
    show (history.ratchet.encrypt crypto plaintext nonce).2.rootKey = secret
    rw [ratchet]
    exact sends.initial secret seed
  · intro key member
    rcases List.mem_append.mp member with earlier | new
    · obtain ⟨name, known, same⟩ := sends.spent key earlier
      exact ⟨name, Set.mem_insert_of_mem _ known, same⟩
    · refine ⟨_, next, ?_⟩
      rw [sends.key_next]
      rcases run : (history.ratchet.sendingChain.advance crypto).1 with fault | ⟨number, messageKey⟩
      · rw [run] at new
        cases new
      · rw [run] at new
        rw [List.mem_singleton.mp new, Chain.outputKey_of_advance run]
  · intro ciphertext member
    rw [perform_sealed, List.mem_append] at member
    rcases member with earlier | new
    · obtain ⟨name, known, same⟩ := sends.sealed ciphertext earlier
      exact ⟨name, Set.mem_insert_of_mem _ known, same⟩
    · rcases run : (history.ratchet.encrypt crypto plaintext nonce).1 with
        fault | ⟨number, made, drawn, ourDhPub⟩
      · rw [run] at new
        cases new
      · rw [run] at new
        obtain ⟨messageKey, advanced, sealed⟩ := DoubleRatchet.sealed_of_encrypt crypto run
        refine ⟨_, next, drawn, plaintext, ?_⟩
        rw [sends.key_next, ← Chain.outputKey_of_advance advanced, sealed,
          List.mem_singleton.mp new]

theorem Agrees.encrypt (agrees : history.Agrees crypto account) (plaintext : Bytes)
    (nonce : Nonce) :
    (history.perform crypto (.encrypt plaintext nonce)).Agrees crypto account.encrypt where
  roots := by
    have ratchet := history.ratchet.encrypt_ratchet crypto plaintext nonce
    refine agrees.roots.extend ?_ rfl fun source => turnedFrom_of_mem_sources
    show (history.ratchet.encrypt crypto plaintext nonce).2.rootKey = _
    rw [ratchet]
  sends := agrees.sends.encrypt plaintext nonce
  receives := by
    have ratchet := history.ratchet.encrypt_ratchet crypto plaintext nonce
    refine agrees.receives.extend ?_ (List.subset_append_left _ _) rfl rfl rfl
    show (history.ratchet.encrypt crypto plaintext nonce).2.receivingChains = _
    rw [ratchet]

/-! ### Turning the ratchet -/

variable (crypto) in
/-- The turn that `decrypt` takes at a new ratchet key. -/
def turn (history : KeyHistory) (theirNewDhPub : Key) (env : Surroundings) : KeyHistory :=
  { history with
    ratchet := history.ratchet.dhRatchetStep crypto theirNewDhPub env
    derived := history.derived ++ history.ratchet.receiveSources crypto theirNewDhPub ++
      history.ratchet.sendSources crypto theirNewDhPub env.freshSecret }

variable (crypto) in
/-- The part of `decrypt` that follows the turn. -/
def openWith (history : KeyHistory) (messageNumber : Nat) (theirDhPub : Key) (nonce : Nonce)
    (ciphertext : Bytes) (now : Nat) : KeyHistory :=
  let (outcome, ratchet) :=
    history.ratchet.openWith crypto messageNumber theirDhPub nonce ciphertext now
  { history with
    ratchet
    derived := history.derived ++ history.ratchet.openSources crypto messageNumber theirDhPub
    accepted := history.accepted ++ (outcome.toOption.map fun _ => ciphertext).toList }

theorem perform_decrypt_current (history : KeyHistory) (messageNumber : Nat) (nonce : Nonce)
    (ciphertext : Bytes) (env : Surroundings) :
    history.perform crypto
        (.decrypt messageNumber history.ratchet.theirDhPub nonce ciphertext env) =
      history.openWith crypto messageNumber history.ratchet.theirDhPub nonce ciphertext
        env.usedAt := by
  simp [perform, openWith, DoubleRatchet.decrypt_current, DoubleRatchet.decryptSources]

theorem perform_decrypt_turn (history : KeyHistory) (messageNumber : Nat) (theirDhPub : Key)
    (nonce : Nonce) (ciphertext : Bytes) (env : Surroundings)
    (turns : history.ratchet.theirDhPub ≠ theirDhPub) :
    history.perform crypto (.decrypt messageNumber theirDhPub nonce ciphertext env) =
      (history.turn crypto theirDhPub env).openWith crypto messageNumber theirDhPub nonce
        ciphertext env.usedAt := by
  simp [perform, turn, openWith, DoubleRatchet.decrypt_turn _ _ _ _ _ _ _ turns,
    DoubleRatchet.decryptSources, turns]

section Turn

variable {theirNewDhPub : Key} {env : Surroundings}

theorem mem_derived_turn {source : KeySource} :
    source ∈ (history.turn crypto theirNewDhPub env).derived ↔ source ∈ history.derived ∨
      source ∈ history.ratchet.receiveSources crypto theirNewDhPub ∨
        source ∈ history.ratchet.sendSources crypto theirNewDhPub env.freshSecret := by
  simp [turn]

theorem subset_derived_turn :
    history.derived ⊆ (history.turn crypto theirNewDhPub env).derived :=
  fun _ member => mem_derived_turn.mpr (Or.inl member)

/-- Between the two halves of a turn the root key is one that nothing was derived from. -/
theorem Rooted.halfway (rooted : history.Rooted crypto)
    (apart : CollisionFree crypto (history.turn crypto theirNewDhPub env).derived) :
    Tip (KeySource.key crypto) KeySource.turnedFrom
      (history.derived ++ history.ratchet.receiveSources crypto theirNewDhPub)
      (history.ratchet.rootAfterRecv crypto theirNewDhPub) := by
  have half := apart.mono (List.subset_append_left
    (history.derived ++ history.ratchet.receiveSources crypto theirNewDhPub) _)
  refine Tip.derive rooted ?_ half List.mem_cons_self
  simp [DoubleRatchet.receiveSources, KeySource.turnedFrom]

theorem Rooted.turn (rooted : history.Rooted crypto)
    (apart : CollisionFree crypto (history.turn crypto theirNewDhPub env).derived) :
    (history.turn crypto theirNewDhPub env).Rooted crypto := by
  refine Tip.derive (rooted.halfway apart) ?_ apart List.mem_cons_self
  simp [DoubleRatchet.sendSources, KeySource.turnedFrom]

/-- The receiving chain of a turn starts at a new source. -/
theorem Rooted.receivingSeed_not_mem (rooted : history.Rooted crypto) (theirNewDhPub : Key) :
    .chainKey history.ratchet.rootKey
        (crypto.diffieHellman history.ratchet.ourDhPriv theirNewDhPub) ∉ history.derived :=
  rooted.unused.not_mem rfl

/-- The sending chain of a turn starts at another new source. -/
theorem Rooted.sendingSeed_not_mem (rooted : history.Rooted crypto)
    (apart : CollisionFree crypto (history.turn crypto theirNewDhPub env).derived) :
    .chainKey (history.ratchet.rootAfterRecv crypto theirNewDhPub)
        (crypto.diffieHellman env.freshSecret theirNewDhPub) ∉
      history.derived ++ history.ratchet.receiveSources crypto theirNewDhPub :=
  (rooted.halfway apart).unused.not_mem rfl

theorem Sends.turn (sends : history.Sends crypto account) (rooted : history.Rooted crypto)
    (apart : CollisionFree crypto (history.turn crypto theirNewDhPub env).derived) :
    (history.turn crypto theirNewDhPub env).Sends crypto
      (account.turn crypto history.ratchet theirNewDhPub env.freshSecret) where
  drawn := Drawn.start trivial (mem_derived_turn.mpr
    (Or.inr (Or.inr (List.mem_cons_of_mem _ List.mem_cons_self))))
  key := rfl
  known := fun name member => (sends.known name member).mono subset_derived_turn
  behind := by
    intro name member seed
    have logged := (sends.known name member).2.logged
    rw [seed] at logged
    exact absurd (List.mem_append_left _ logged) (rooted.sendingSeed_not_mem apart)
  initial := by
    intro secret seed
    cases seed
  spent := sends.spent
  sealed := sends.sealed

theorem Receives.turn (receives : history.Receives crypto account)
    (rooted : history.Rooted crypto) :
    (history.turn crypto theirNewDhPub env).Receives crypto
      (account.turn crypto history.ratchet theirNewDhPub env.freshSecret) := by
  have fresh := rooted.receivingSeed_not_mem theirNewDhPub
  have other : ∀ theirDhPub ∈ history.ratchet.receivingChains,
      account.seedOf theirDhPub ∈ history.derived := by
    intro theirDhPub member
    obtain ⟨⟨chain, used⟩, held⟩ := Option.isSome_iff_exists.mp (AList.lookup_isSome.mpr member)
    obtain ⟨_, _, _, drawn⟩ := receives.follows theirDhPub chain used held
    exact drawn.logged
  have old : ∀ theirDhPub ∈ (history.turn crypto theirNewDhPub env).ratchet.receivingChains,
      theirDhPub ≠ theirNewDhPub → theirDhPub ∈ history.ratchet.receivingChains := by
    intro theirDhPub member different
    exact (DoubleRatchet.mem_of_mem_insertReceivingChain member).resolve_left different
  refine ⟨?_, ?_, fun name member => (receives.known name member).mono subset_derived_turn,
    receives.accepted⟩
  · intro theirDhPub chain used held
    by_cases same : theirDhPub = theirNewDhPub
    · subst same
      have started := held.symm.trans (DoubleRatchet.lookup_insertReceivingChain_self _ _ _ _ _)
      obtain ⟨rfl, rfl⟩ := Prod.mk.inj (Option.some.inj started)
      rw [KeyAccount.seedOf_turn_self]
      refine ⟨ReceiveWindow.empty, Chain.represents_start crypto _, ?_,
        Drawn.start trivial (mem_derived_turn.mpr
          (Or.inr (Or.inl (List.mem_cons_of_mem _ List.mem_cons_self))))⟩
      convert ReceiveWindow.accounts_empty
      refine Set.eq_empty_of_forall_notMem fun number member => fresh ?_
      exact (receives.known _ member).2.logged
    · rw [KeyAccount.seedOf_turn_ne _ _ same]
      exact (receives.follows theirDhPub chain used
        (DoubleRatchet.lookup_of_insertReceivingChain same held)).mono subset_derived_turn
        fun _ => Iff.rfl
  · intro first firstHeld second secondHeld seeds
    by_cases firstNew : first = theirNewDhPub
    · by_cases secondNew : second = theirNewDhPub
      · rw [firstNew, secondNew]
      · rw [firstNew, KeyAccount.seedOf_turn_self, KeyAccount.seedOf_turn_ne _ _ secondNew] at seeds
        exact absurd (seeds ▸ other second (old second secondHeld secondNew)) fresh
    · by_cases secondNew : second = theirNewDhPub
      · rw [secondNew, KeyAccount.seedOf_turn_self, KeyAccount.seedOf_turn_ne _ _ firstNew] at seeds
        exact absurd (seeds ▸ other first (old first firstHeld firstNew)) fresh
      · rw [KeyAccount.seedOf_turn_ne _ _ firstNew, KeyAccount.seedOf_turn_ne _ _ secondNew]
          at seeds
        exact receives.distinct first (old first firstHeld firstNew) second
          (old second secondHeld secondNew) seeds

theorem Agrees.turn (agrees : history.Agrees crypto account)
    (apart : CollisionFree crypto (history.turn crypto theirNewDhPub env).derived) :
    (history.turn crypto theirNewDhPub env).Agrees crypto
      (account.turn crypto history.ratchet theirNewDhPub env.freshSecret) where
  roots := agrees.roots.turn apart
  sends := agrees.sends.turn agrees.roots apart
  receives := agrees.receives.turn agrees.roots

end Turn

/-! ### Opening a message -/

section Opening

variable {messageNumber : Nat} {theirDhPub : Key} {nonce : Nonce} {ciphertext : Bytes} {now : Nat}

theorem subset_derived_openWith : history.derived ⊆
    (history.openWith crypto messageNumber theirDhPub nonce ciphertext now).derived :=
  List.subset_append_left _ _

theorem Rooted.openWith (rooted : history.Rooted crypto) :
    (history.openWith crypto messageNumber theirDhPub nonce ciphertext now).Rooted crypto := by
  obtain ⟨_, frame⟩ := history.ratchet.openWith_frame crypto messageNumber theirDhPub nonce
    ciphertext now
  refine rooted.extend (congrArg DoubleRatchet.rootKey frame :) rfl fun source member => ?_
  unfold DoubleRatchet.openSources at member
  split at member
  · cases member
  · exact turnedFrom_of_mem_sources member

theorem Sends.openWith (sends : history.Sends crypto account) :
    (history.openWith crypto messageNumber theirDhPub nonce ciphertext now).Sends crypto
      (account.openWith crypto history.ratchet messageNumber theirDhPub) := by
  obtain ⟨_, frame⟩ := history.ratchet.openWith_frame crypto messageNumber theirDhPub nonce
    ciphertext now
  have kept : (history.openWith crypto messageNumber theirDhPub nonce ciphertext now).Sends
      crypto account :=
    sends.extend (congrArg DoubleRatchet.sendingChain frame :)
      (congrArg DoubleRatchet.rootKey frame :) subset_derived_openWith rfl rfl
  exact ⟨kept.drawn, kept.key, kept.known, kept.behind, kept.initial, kept.spent, kept.sealed⟩

/-- Putting a chain back under its ratchet key, with what was opened on it. -/
theorem Receives.put (receives : history.Receives crypto account) {next : KeyHistory}
    {other : KeyAccount} {chain : Chain} (held : theirDhPub ∈ history.ratchet.receivingChains)
    (chains : next.ratchet.receivingChains =
      history.ratchet.receivingChains.insert theirDhPub (chain, now))
    (derived : history.derived ⊆ next.derived) (seeds : other.seedOf = account.seedOf)
    (kept : account.opened ⊆ other.opened)
    (opened : ∀ name ∈ other.opened, name ∈ account.opened ∨
      name.seed = account.seedOf theirDhPub ∧ name.Known crypto next.derived)
    (follows : next.Follows crypto other (account.seedOf theirDhPub) chain)
    (accepted : ∀ ciphertext ∈ next.accepted, ciphertext ∈ history.accepted ∨
      ∃ name ∈ other.opened, ∃ nonce plaintext,
        crypto.aeadDecrypt (name.key crypto) nonce ciphertext = some plaintext) :
    next.Receives crypto other where
  follows := by
    intro key found used lookup
    rw [chains] at lookup
    rw [seeds]
    rcases HashMap.lookup_insert_eq_some_iff.mp lookup with ⟨rfl, entry⟩ | ⟨different, lookup⟩
    · obtain ⟨rfl, rfl⟩ := Prod.mk.inj entry
      exact follows
    · refine (receives.follows key found used lookup).mono derived fun number => ?_
      refine ⟨fun member => ?_, fun member => kept member⟩
      refine (opened _ member).resolve_right fun ⟨same, _⟩ => different ?_
      exact receives.distinct key (AList.lookup_isSome.mp (by rw [lookup]; rfl)) theirDhPub held same
  distinct := by
    have old : ∀ key ∈ next.ratchet.receivingChains, key ∈ history.ratchet.receivingChains := by
      intro key member
      rw [chains] at member
      rcases (AList.mem_insert _).mp member with rfl | before
      · exact held
      · exact before
    rw [seeds]
    exact fun first firstHeld second secondHeld =>
      receives.distinct first (old first firstHeld) second (old second secondHeld)
  known := by
    intro name member
    rcases opened name member with before | ⟨_, known⟩
    · exact (receives.known name before).mono derived
    · exact known
  accepted := by
    intro ciphertext member
    rcases accepted ciphertext member with before | found
    · obtain ⟨name, known, opens⟩ := receives.accepted ciphertext before
      exact ⟨name, kept known, opens⟩
    · exact found

theorem mem_accepted_openWith {other : Bytes} :
    other ∈ (history.openWith crypto messageNumber theirDhPub nonce ciphertext now).accepted ↔
      other ∈ history.accepted ∨ other = ciphertext ∧ ∃ plaintext,
        (history.ratchet.openWith crypto messageNumber theirDhPub nonce ciphertext now).1 =
          .ok plaintext := by
  rcases run : history.ratchet.openWith crypto messageNumber theirDhPub nonce ciphertext now with
    ⟨fault | plaintext, ratchet⟩ <;> simp [openWith, run, Except.toOption]

/-- Selecting the key of a message opens one that was not opened before. -/
theorem Receives.openWith_selected (receives : history.Receives crypto account)
    {chain nextChain : Chain} {used : Nat} {window next : ReceiveWindow}
    (held : history.ratchet.receivingChains.lookup theirDhPub = some (chain, used))
    (represents : chain.Represents crypto ((account.seedOf theirDhPub).key crypto) window)
    (accounts : window.Accounts
      { number | ⟨account.seedOf theirDhPub, number⟩ ∈ account.opened })
    (drawn : Drawn crypto history.derived (account.seedOf theirDhPub) window.reached)
    (accepts : window.accept Chain.maxSkip messageNumber = some next)
    (selected : chain.messageKey crypto messageNumber =
      (.ok (MessageName.key crypto ⟨account.seedOf theirDhPub, messageNumber⟩), nextChain))
    (moves : nextChain.Represents crypto ((account.seedOf theirDhPub).key crypto) next) :
    (history.openWith crypto messageNumber theirDhPub nonce ciphertext now).Receives crypto
      (account.openWith crypto history.ratchet messageNumber theirDhPub) := by
  have member : theirDhPub ∈ history.ratchet.receivingChains :=
    AList.lookup_isSome.mp (by rw [held]; rfl)
  have run := DoubleRatchet.openWith_eq crypto history.ratchet messageNumber theirDhPub nonce
    ciphertext now held
  rw [selected] at run
  have opened := KeyAccount.opened_openWith_of_selected account held selected
  have counted := accounts.accept accepts
  have bounds := counted.within messageNumber (Set.mem_insert _ _)
  have reached := ReceiveWindow.reached_of_accept accepts
  have further : Drawn crypto
      (history.openWith crypto messageNumber theirDhPub nonce ciphertext now).derived
        (account.seedOf theirDhPub) next.reached := by
    have moved := drawn.move represents.key (next.reached - window.reached)
    rw [Nat.add_sub_cancel' (by omega)] at moved
    have sources : history.ratchet.openSources crypto messageNumber theirDhPub =
        chain.sources crypto (next.reached - window.reached) := by
      simp only [DoubleRatchet.openSources, held, selected, represents.number, moves.number]
    rw [← sources] at moved
    exact moved
  refine receives.put member (congrArg (fun result => result.2.receivingChains) run)
    subset_derived_openWith rfl (fun _ => Or.inl) ?_ ⟨next, moves, ?_, further⟩ ?_
  · rw [opened]
    rintro name (rfl | before)
    · exact Or.inr ⟨rfl, bounds.1, further.of_le bounds.2⟩
    · exact Or.inl before
  · convert counted using 1
    ext number
    simp [opened]
  · intro other listed
    rcases mem_accepted_openWith.mp listed with before | ⟨rfl, plaintext, outcome⟩
    · exact Or.inl before
    · rw [opened]
      rw [run] at outcome
      exact Or.inr ⟨_, Set.mem_insert _ _, nonce, plaintext, okOr_eq_ok_iff.mp outcome⟩

/-- A chain that selects no key stays as it was, and nothing is opened. -/
theorem Receives.openWith_refused (receives : history.Receives crypto account)
    {chain : Chain} {used : Nat} {fault : Fault}
    (held : history.ratchet.receivingChains.lookup theirDhPub = some (chain, used))
    (refused : chain.messageKey crypto messageNumber = (.error fault, chain)) :
    (history.openWith crypto messageNumber theirDhPub nonce ciphertext now).Receives crypto
      (account.openWith crypto history.ratchet messageNumber theirDhPub) := by
  have member : theirDhPub ∈ history.ratchet.receivingChains :=
    AList.lookup_isSome.mp (by rw [held]; rfl)
  have run := DoubleRatchet.openWith_eq crypto history.ratchet messageNumber theirDhPub nonce
    ciphertext now held
  rw [refused] at run
  obtain ⟨window, represents, accounts, drawn⟩ := receives.follows theirDhPub chain used held
  have opened : (account.openWith crypto history.ratchet messageNumber theirDhPub).opened =
      account.opened := by
    refine account.opened_openWith_of_refused fun entry found => ?_
    rw [held] at found
    cases found
    rw [refused]
    rfl
  refine receives.put member (congrArg (fun result => result.2.receivingChains) run)
    subset_derived_openWith rfl (fun _ => Or.inl) ?_ ⟨window, represents, ?_, ?_⟩ ?_
  · rw [opened]
    exact fun name => Or.inl
  · simpa only [opened] using accounts
  · exact drawn.mono subset_derived_openWith
  · intro other listed
    refine Or.inl ((mem_accepted_openWith.mp listed).resolve_right ?_)
    rintro ⟨_, plaintext, outcome⟩
    rw [run] at outcome
    cases outcome

theorem Receives.openWith (receives : history.Receives crypto account) :
    (history.openWith crypto messageNumber theirDhPub nonce ciphertext now).Receives crypto
      (account.openWith crypto history.ratchet messageNumber theirDhPub) := by
  cases held : history.ratchet.receivingChains.lookup theirDhPub with
  | none =>
    have run := DoubleRatchet.openWith_none crypto history.ratchet messageNumber theirDhPub nonce
      ciphertext now held
    refine receives.extend (congrArg (fun result => result.2.receivingChains) run)
      subset_derived_openWith ?_ rfl (account.opened_openWith_of_refused fun entry found => ?_)
    · simp [KeyHistory.openWith, run, Except.toOption]
    · rw [held] at found
      cases found
  | some entry =>
    obtain ⟨chain, used⟩ := entry
    obtain ⟨window, represents, accounts, drawn⟩ := receives.follows theirDhPub chain used held
    rcases represents.messageKey_cases crypto messageNumber with
      ⟨next, nextChain, accepts, selected, moves⟩ | ⟨fault, refused⟩
    · exact receives.openWith_selected held represents accounts drawn accepts selected moves
    · exact receives.openWith_refused held refused

/-- What opens is a message that was not opened before. -/
theorem Receives.opens_new (receives : history.Receives crypto account) {plaintext : Bytes}
    (outcome : (history.ratchet.openWith crypto messageNumber theirDhPub nonce ciphertext now).1 =
      .ok plaintext) :
    ∃ name ∉ account.opened,
      name ∈ (account.openWith crypto history.ratchet messageNumber theirDhPub).opened ∧
        crypto.aeadDecrypt (name.key crypto) nonce ciphertext = some plaintext := by
  cases held : history.ratchet.receivingChains.lookup theirDhPub with
  | none =>
    rw [DoubleRatchet.openWith_none crypto history.ratchet messageNumber theirDhPub nonce
      ciphertext now held] at outcome
    cases outcome
  | some entry =>
    obtain ⟨chain, used⟩ := entry
    rw [DoubleRatchet.openWith_eq crypto history.ratchet messageNumber theirDhPub nonce
      ciphertext now held] at outcome
    obtain ⟨window, represents, accounts, _⟩ := receives.follows theirDhPub chain used held
    rcases represents.messageKey_cases crypto messageNumber with
      ⟨next, nextChain, accepts, selected, _⟩ | ⟨fault, refused⟩
    · rw [selected] at outcome
      refine ⟨⟨account.seedOf theirDhPub, messageNumber⟩, accounts.notMem_of_accept accepts, ?_,
        okOr_eq_ok_iff.mp outcome⟩
      rw [KeyAccount.opened_openWith_of_selected account held selected]
      exact Set.mem_insert _ _
    · rw [refused] at outcome
      cases outcome

theorem Agrees.openWith (agrees : history.Agrees crypto account) :
    (history.openWith crypto messageNumber theirDhPub nonce ciphertext now).Agrees crypto
      (account.openWith crypto history.ratchet messageNumber theirDhPub) where
  roots := agrees.roots.openWith
  sends := agrees.sends.openWith
  receives := agrees.receives.openWith

end Opening

/-! ### Runs -/

/-- Every call moves the account along with the ratchet. -/
theorem Agrees.perform (agrees : history.Agrees crypto account) (call : RatchetCall)
    (apart : CollisionFree crypto (history.perform crypto call).derived) :
    (history.perform crypto call).Agrees crypto (account.perform crypto history.ratchet call) := by
  cases call with
  | encrypt plaintext nonce => exact agrees.encrypt plaintext nonce
  | decrypt messageNumber theirDhPub nonce ciphertext env =>
    by_cases turns : history.ratchet.theirDhPub = theirDhPub
    · subst turns
      rw [perform_decrypt_current, KeyAccount.perform, if_neg (not_not_intro rfl)]
      exact agrees.openWith
    · rw [perform_decrypt_turn _ _ _ _ _ _ turns] at apart ⊢
      rw [KeyAccount.perform, if_pos turns]
      exact (agrees.turn (apart.mono subset_derived_openWith)).openWith

theorem derived_subset_perform (history : KeyHistory) (call : RatchetCall) :
    history.derived ⊆ (history.perform crypto call).derived := by
  cases call with
  | encrypt plaintext nonce => exact List.subset_append_left _ _
  | decrypt messageNumber theirDhPub nonce ciphertext env => exact List.subset_append_left _ _

end KeyHistory

end Insub
