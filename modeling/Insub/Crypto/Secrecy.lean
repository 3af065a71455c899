/-
This file is about what the theft of a ratchet gives away. Everything the ratchet holds is taken,
and every Diffie-Hellman output there ever was besides.

Forward: what was sealed or accepted before the theft stays closed. The ratchet keeps no link that
it has passed, no root key that it has turned from, and no message key that it has used, so none of
the keys it holds leads to a key of the past. The exception are the chains that `new` makes: until
the ratchet turns, it holds the shared secret as its root key, and both chains start from that.

Backward: what is sealed after the next turn stays closed as well, when the thief misses the one
Diffie-Hellman output that enters the send half of the turn.
-/

import Mathlib
import Insub.Crypto.Lineage
import Insub.Crypto.Reflection

namespace Insub

open Rust Derivation

variable {crypto : Primitives}

/-! ### What a ratchet holds -/

/-- The key of the chain, and the message keys it keeps for later. -/
def Chain.Holds (chain : Chain) (key : Key) : Prop :=
  key = chain.key ∨ ∃ number, chain.skippedKeys.lookup number = some key

/-- The keys in the memory of the ratchet. -/
def DoubleRatchet.held (ratchet : DoubleRatchet) : Set Key :=
  { key | key = ratchet.rootKey ∨ ratchet.sendingChain.Holds key ∨
    ∃ theirDhPub chain used, ratchet.receivingChains.lookup theirDhPub = some (chain, used) ∧
      chain.Holds key }

theorem KeyAccount.receivedFrom_of_lookup (account : KeyAccount) {receivingChains : ReceivingChains}
    {theirDhPub : Key} {entry : Chain × Nat}
    (held : receivingChains.lookup theirDhPub = some entry) :
    account.ReceivedFrom receivingChains (account.seedOf theirDhPub) :=
  Or.inl ⟨theirDhPub, AList.lookup_isSome.mp (by rw [held]; rfl), rfl⟩

namespace KeyHistory

variable {history : KeyHistory} {account : KeyAccount} {secret : Key}

/-! ### Chains stay behind no link they passed -/

/-- The place on a chain lies behind the chain that is held: behind the sending chain, unless this
is the first one, and behind the receiving chain. -/
def Behind (history : KeyHistory) (account : KeyAccount) (seed : KeySource) (number : Nat) : Prop :=
  (seed = account.sendingSeed → (∃ first, seed = .initialChain first) ∨ number < account.moved) ∧
    ∀ theirDhPub chain used,
      history.ratchet.receivingChains.lookup theirDhPub = some (chain, used) →
        account.seedOf theirDhPub = seed → number < chain.messageNumber

/-- The account agrees with the ratchet, the chains stay apart, and no link that was passed is ahead
of a chain. -/
structure Forgets (crypto : Primitives) (secret : Key) (history : KeyHistory)
    (account : KeyAccount) : Prop where
  agrees : history.Agrees crypto account
  separated : history.Separated secret account
  lineage : history.Lineage crypto secret
  named : Named crypto history.derived (history.Behind account)
  skips : ∀ number, history.ratchet.sendingChain.skippedKeys.lookup number = none

theorem advance_skippedKeys (chain : Chain) :
    (chain.advance crypto).2.skippedKeys = chain.skippedKeys := by
  rcases addU32_cases chain.messageNumber 1 with ⟨_, fits⟩ | ⟨site, panicked⟩
  · simp only [Chain.advance, Primitives.deriveKey_eq, fits]
  · simp only [Chain.advance, Primitives.deriveKey_eq, panicked]

theorem Forgets.encrypt (forgets : history.Forgets crypto secret account)
    (turned : history.ratchet.rootKey ≠ secret) (plaintext : Bytes) (nonce : Nonce) :
    (history.perform crypto (.encrypt plaintext nonce)).Forgets crypto secret account.encrypt := by
  have agrees := forgets.agrees
  have ratchet := history.ratchet.encrypt_ratchet crypto plaintext nonce
  have chains : (history.perform crypto (.encrypt plaintext nonce)).ratchet.receivingChains =
      history.ratchet.receivingChains := (congrArg DoubleRatchet.receivingChains ratchet :)
  refine ⟨agrees.encrypt plaintext nonce, forgets.separated.encrypt agrees.sends turned plaintext
    nonce, ?_, ?_, ?_⟩
  · exact forgets.lineage.extend (congrArg DoubleRatchet.rootKey ratchet :) rfl fun source =>
      links_of_mem_sources
  · refine forgets.named.move agrees.sends.drawn agrees.sends.key ?_ ?_
    · rintro seed number ⟨sending, receiving⟩
      refine ⟨fun same => (sending same).imp_right Nat.lt_succ_of_lt, ?_⟩
      rw [chains]
      exact receiving
    · intro moved less
      obtain rfl : moved = 0 := Nat.lt_one_iff.mp less
      refine ⟨fun _ => Or.inr (Nat.lt_succ_self account.moved), ?_⟩
      intro theirDhPub chain used held seeds
      -- a chain for both directions is the first one, and the ratchet has turned from that
      rw [chains] at held
      have received := account.receivedFrom_of_lookup held
      rw [show account.seedOf theirDhPub = account.sendingSeed from seeds] at received
      obtain ⟨first, initial⟩ := forgets.separated.apart _ (Or.inl rfl) received
      refine absurd ?_ turned
      rw [agrees.sends.initial first initial]
      exact forgets.separated.initial first initial
  · intro number
    rw [show (history.perform crypto (.encrypt plaintext nonce)).ratchet.sendingChain =
      (history.ratchet.sendingChain.advance crypto).2 from
        (congrArg DoubleRatchet.sendingChain ratchet :), advance_skippedKeys]
    exact forgets.skips number

theorem Forgets.turn (forgets : history.Forgets crypto secret account) {theirNewDhPub : Key}
    {env : Surroundings}
    (apart : CollisionFree crypto (history.turn crypto theirNewDhPub env).derived) :
    (history.turn crypto theirNewDhPub env).Forgets crypto secret
      (account.turn crypto history.ratchet theirNewDhPub env.freshSecret) := by
  have agrees := forgets.agrees
  have newReceiving := agrees.roots.receivingSeed_not_mem theirNewDhPub
  have newSending := agrees.roots.sendingSeed_not_mem apart
  refine ⟨agrees.turn apart, forgets.separated.turn agrees apart,
    forgets.lineage.turn theirNewDhPub env, ?_, fun _ => rfl⟩
  rw [KeyHistory.turn, List.append_assoc]
  refine forgets.named.append (fun _ member => turn_no_links member) ?_
  rintro seed logged number ⟨_, receiving⟩
  refine ⟨fun same => ?_, ?_⟩
  · rw [show seed = _ from same] at logged
    exact absurd (List.mem_append_left _ logged) newSending
  intro theirDhPub chain used held seeds
  by_cases new : theirDhPub = theirNewDhPub
  · rw [new, KeyAccount.seedOf_turn_self] at seeds
    exact absurd (seeds ▸ logged) newReceiving
  · rw [KeyAccount.seedOf_turn_ne _ _ new] at seeds
    exact receiving theirDhPub chain used
      (DoubleRatchet.lookup_of_insertReceivingChain new held) seeds

theorem Forgets.openWith (forgets : history.Forgets crypto secret account) {messageNumber : Nat}
    {theirDhPub : Key} {nonce : Nonce} {ciphertext : Bytes} {now : Nat} :
    (history.openWith crypto messageNumber theirDhPub nonce ciphertext now).Forgets crypto secret
      (account.openWith crypto history.ratchet messageNumber theirDhPub) := by
  have agrees := forgets.agrees
  obtain ⟨_, frame⟩ := history.ratchet.openWith_frame crypto messageNumber theirDhPub nonce
    ciphertext now
  have root : (history.openWith crypto messageNumber theirDhPub nonce ciphertext
      now).ratchet.rootKey = history.ratchet.rootKey := (congrArg DoubleRatchet.rootKey frame :)
  have sending : (history.openWith crypto messageNumber theirDhPub nonce ciphertext
      now).ratchet.sendingChain = history.ratchet.sendingChain :=
    (congrArg DoubleRatchet.sendingChain frame :)
  refine ⟨agrees.openWith, forgets.separated.openWith, ?_, ?_, fun number => ?_⟩
  · refine forgets.lineage.extend root rfl fun source member => ?_
    cases held : history.ratchet.receivingChains.lookup theirDhPub with
    | none =>
      rw [openSources_none held] at member
      cases member
    | some entry =>
      obtain ⟨_, _, _, sources, _⟩ := agrees.receives.openSources_eq held messageNumber
      rw [sources] at member
      exact links_of_mem_sources member
  · show Named crypto (history.derived ++ _) _
    cases held : history.ratchet.receivingChains.lookup theirDhPub with
    | none =>
      have run := DoubleRatchet.openWith_none crypto history.ratchet messageNumber theirDhPub nonce
        ciphertext now held
      have chains : (history.openWith crypto messageNumber theirDhPub nonce ciphertext
          now).ratchet.receivingChains = history.ratchet.receivingChains :=
        congrArg (fun result => result.2.receivingChains) run
      rw [openSources_none held]
      refine forgets.named.append (fun _ member => absurd member List.not_mem_nil) ?_
      rintro seed _ number ⟨sent, received⟩
      refine ⟨sent, ?_⟩
      rw [chains]
      exact received
    | some entry =>
      obtain ⟨chain, used⟩ := entry
      have run := DoubleRatchet.openWith_eq crypto history.ratchet messageNumber theirDhPub nonce
        ciphertext now held
      have chains : (history.openWith crypto messageNumber theirDhPub nonce ciphertext
          now).ratchet.receivingChains = history.ratchet.receivingChains.insert theirDhPub
            ((chain.messageKey crypto messageNumber).2, now) :=
        congrArg (fun result => result.2.receivingChains) run
      obtain ⟨further, drawn, key, sources, reached⟩ :=
        agrees.receives.openSources_eq held messageNumber
      rw [sources]
      refine forgets.named.move drawn key ?_ ?_
      · rintro seed number ⟨sent, received⟩
        refine ⟨sent, fun otherPub other otherUsed found seeds => ?_⟩
        rw [chains] at found
        rcases HashMap.lookup_insert_eq_some_iff.mp found with ⟨rfl, same⟩ | ⟨_, found⟩
        · obtain ⟨rfl, rfl⟩ := Prod.mk.inj same
          have before := received otherPub chain used held seeds
          rw [reached]
          omega
        · exact received otherPub other otherUsed found seeds
      · intro moved less
        refine ⟨fun same => Or.inl ?_, fun otherPub other otherUsed found seeds => ?_⟩
        · exact forgets.separated.apart _ (Or.inl same) (account.receivedFrom_of_lookup held)
        · rw [chains] at found
          rcases HashMap.lookup_insert_eq_some_iff.mp found with ⟨rfl, same⟩ | ⟨different, found⟩
          · obtain ⟨rfl, rfl⟩ := Prod.mk.inj same
            rw [reached]
            omega
          · refine absurd ?_ different
            exact agrees.receives.distinct otherPub
              (AList.lookup_isSome.mp (by rw [found]; rfl)) theirDhPub
              (AList.lookup_isSome.mp (by rw [held]; rfl)) seeds
  · rw [sending]
    exact forgets.skips number

theorem Forgets.perform (forgets : history.Forgets crypto secret account) {call : RatchetCall}
    (turned : history.SendsTurned secret call)
    (apart : CollisionFree crypto (history.perform crypto call).derived) :
    (history.perform crypto call).Forgets crypto secret
      (account.perform crypto history.ratchet call) := by
  cases call with
  | encrypt plaintext nonce => exact forgets.encrypt turned plaintext nonce
  | decrypt messageNumber theirDhPub nonce ciphertext env =>
    by_cases turns : history.ratchet.theirDhPub = theirDhPub
    · subst turns
      rw [perform_decrypt_current, KeyAccount.perform, if_neg (not_not_intro rfl)]
      exact forgets.openWith
    · rw [perform_decrypt_turn _ _ _ _ _ _ turns] at apart ⊢
      rw [KeyAccount.perform, if_pos turns]
      exact (forgets.turn (apart.mono subset_derived_openWith)).openWith

theorem Start.forgets (start : Start crypto secret history)
    (apart : CollisionFree crypto history.derived) :
    ∃ account, history.Forgets crypto secret account := by
  obtain ⟨account, agrees, unused⟩ := start.agrees apart
  refine ⟨account, agrees, Separated.of_unused unused, start.lineage, start.named _, ?_⟩
  intro number
  cases start with
  | responder built =>
    cases built
    rfl
  | initiator built =>
    cases built
    rfl

/-! ### What leads to the key of a message -/

/-- The key of a message, the links of its chain before it, and the root keys of the past. -/
def above (crypto : Primitives) (secret : Key) (history : KeyHistory) (name : MessageName) :
    Set Key :=
  { key | key = name.key crypto ∨
    (∃ number < name.number, key = Chain.chainKeyAt crypto (name.seed.key crypto) number) ∨
      (∃ source ∈ history.derived, source.turnedFrom = some key) ∨ key = secret }

/-- All of them come from one another. -/
theorem Lineage.above_closed (lineage : history.Lineage crypto secret) {name : MessageName}
    (known : name.Known crypto history.derived) :
    ∀ key ∈ above crypto secret history name, ∃ source ∈ history.derived,
      source.key crypto = key ∧ source.origin ∈ above crypto secret history name := by
  obtain ⟨positive, drawn⟩ := known
  have first {secret' : Key} (either : .sharedSecret secret' ∈ history.derived ∨
      .initialChain secret' ∈ history.derived) :
      secret' ∈ above crypto secret history name :=
    Or.inr (Or.inr (Or.inr (lineage.only secret' either)))
  have turned {source : KeySource} (member : source ∈ history.derived) {root : Key}
      (replaced : source.turnedFrom = some root) : root ∈ above crypto secret history name :=
    Or.inr (Or.inr (Or.inl ⟨source, member, replaced⟩))
  rintro key (rfl | ⟨number, before, rfl⟩ | ⟨source, member, replaced⟩ | rfl)
  · exact ⟨_, (drawn.keys (name.number - 1) (by omega)).1, rfl,
      Or.inr (Or.inl ⟨name.number - 1, by omega, rfl⟩)⟩
  · cases number with
    | zero =>
      have starts := drawn.starts
      have logged := drawn.logged
      refine ⟨name.seed, logged, rfl, ?_⟩
      cases seed : name.seed with
      | initialChain secret' => exact first (Or.inr (seed ▸ logged))
      | chainKey root dhOut =>
        rw [seed] at logged
        exact turned logged rfl
      | sharedSecret | rootKey | nextChainKey | messageKey =>
        rw [seed] at starts
        cases starts
    | succ number =>
      refine ⟨_, (drawn.keys number (by omega)).2, ?_, Or.inr (Or.inl ⟨number, by omega, rfl⟩)⟩
      rw [Chain.chainKeyAt_succ]
      rfl
  · obtain ⟨earlier, logged, kind, yields⟩ := lineage.roots source member key replaced
    refine ⟨earlier, logged, yields, ?_⟩
    cases earlier with
    | sharedSecret secret' => exact first (Or.inl logged)
    | rootKey root dhOut => exact turned logged rfl
    | initialChain | chainKey | nextChainKey | messageKey => cases kind
  · exact ⟨_, lineage.shared, rfl, Or.inr (Or.inr (Or.inr rfl))⟩

/-- A source of one kind yields no key of another. -/
theorem kind_eq (apart : CollisionFree crypto history.derived) {first second : KeySource}
    (firstLogged : first ∈ history.derived) (secondLogged : second ∈ history.derived)
    (same : first.key crypto = second.key crypto) : first.kind = second.kind := by
  rw [apart firstLogged secondLogged same]

/-- What leads to the key of a message and is a link of a chain lies before the message there. -/
theorem Lineage.link_of_mem_above (lineage : history.Lineage crypto secret)
    (apart : CollisionFree crypto history.derived) {name : MessageName}
    (known : name.Known crypto history.derived) {source : KeySource}
    (logged : source ∈ history.derived) (kind : source.kind = .link)
    (inside : source.key crypto ∈ above crypto secret history name) :
    ∃ number < name.number,
      source.key crypto = Chain.chainKeyAt crypto (name.seed.key crypto) number := by
  rcases inside with same | link | ⟨other, member, replaced⟩ | same
  · have message := (known.2.keys (name.number - 1) (by have := known.1; omega)).1
    exact absurd (kind.symm.trans (kind_eq apart logged message same)) (by simp [KeySource.kind])
  · exact link
  · obtain ⟨earlier, member, root, yields⟩ := lineage.roots other member _ replaced
    have kinds := kind_eq apart member logged yields
    rw [root, kind] at kinds
    cases kinds
  · have kinds := kind_eq apart logged lineage.shared same
    rw [kind] at kinds
    cases kinds

/-- A root key that leads to the key of a message is one of the past. -/
theorem root_of_mem_above
    (apart : CollisionFree crypto history.derived) {name : MessageName}
    (known : name.Known crypto history.derived) {source : KeySource}
    (logged : source ∈ history.derived) (kind : source.kind = .root)
    (inside : source.key crypto ∈ above crypto secret history name) :
    (∃ other ∈ history.derived, other.turnedFrom = some (source.key crypto)) ∨
      source.key crypto = secret := by
  rcases inside with same | ⟨number, before, same⟩ | past
  · have message := (known.2.keys (name.number - 1) (by have := known.1; omega)).1
    exact absurd (kind.symm.trans (kind_eq apart logged message same)) (by simp [KeySource.kind])
  · obtain ⟨link, member, isLink, yields⟩ := known.2.exists_link before.le
    have kinds := kind_eq apart logged member (same.trans yields.symm)
    rw [kind, isLink] at kinds
    cases kinds
  · exact past

/-- A message key that leads to the key of a message is that key. -/
theorem Lineage.message_of_mem_above (lineage : history.Lineage crypto secret)
    (apart : CollisionFree crypto history.derived) {name other : MessageName}
    (known : name.Known crypto history.derived) (otherKnown : other.Known crypto history.derived)
    (inside : other.key crypto ∈ above crypto secret history name) : other = name := by
  have message := (otherKnown.2.keys (other.number - 1) (by have := otherKnown.1; omega)).1
  rcases inside with same | ⟨number, before, same⟩ | ⟨source, member, replaced⟩ | same
  · exact MessageName.key_inj apart otherKnown known same
  · obtain ⟨link, member, isLink, yields⟩ := known.2.exists_link before.le
    have kinds := kind_eq apart member message (yields.trans same.symm)
    rw [isLink] at kinds
    cases kinds
  · obtain ⟨earlier, logged, root, yields⟩ := lineage.roots source member _ replaced
    have kinds := kind_eq apart logged message yields
    rw [root] at kinds
    cases kinds
  · cases kind_eq apart message lineage.shared same

/-- The place of a link is the one it was given. -/
theorem Forgets.behind (forgets : history.Forgets crypto secret account)
    (apart : CollisionFree crypto history.derived) {seed : KeySource} {count number : Nat}
    (drawn : Drawn crypto history.derived seed count) (before : number < count) :
    history.Behind account seed number := by
  obtain ⟨other, place, placed, same, bound⟩ :=
    forgets.named _ (Or.inl (drawn.keys number before).1)
  obtain ⟨rfl, rfl⟩ := iterate_inj (fun _ _ => KeySource.nextChainKey.inj) apart drawn.logged
    placed.logged drawn.starts.ne_next placed.starts.ne_next
    (fun moved less => (drawn.keys moved (by omega)).2)
    (fun moved less => (placed.keys moved (by omega)).2) same
  exact bound

/-- No key that the ratchet holds leads to a message that it sealed or opened. -/
theorem Forgets.held_notMem_above (forgets : history.Forgets crypto secret account)
    (apart : CollisionFree crypto history.derived) (turned : history.ratchet.rootKey ≠ secret)
    {name : MessageName} (known : name.Known crypto history.derived)
    (used : name ∈ account.spent ∨ name ∈ account.opened) :
    ∀ key ∈ history.ratchet.held, key ∉ above crypto secret history name := by
  have agrees := forgets.agrees
  have lineage := forgets.lineage
  -- a link that leads to the message was passed, so it is behind the chain that has it
  have link {seed : KeySource} {count : Nat} (drawn : Drawn crypto history.derived seed count)
      (ahead : ∀ number, history.Behind account seed number → number < count) :
      Chain.chainKeyAt crypto (seed.key crypto) count ∉ above crypto secret history name := by
    intro inside
    obtain ⟨source, logged, kind, yields⟩ := drawn.exists_link le_rfl
    rw [← yields] at inside
    obtain ⟨number, before, same⟩ := lineage.link_of_mem_above apart known logged kind inside
    obtain ⟨rfl, rfl⟩ := iterate_inj (fun _ _ => KeySource.nextChainKey.inj) apart drawn.logged
      known.2.logged drawn.starts.ne_next known.2.starts.ne_next
      (fun moved less => (drawn.keys moved less).2)
      (fun moved less => (known.2.keys moved (by omega)).2) (yields.symm.trans same)
    exact lt_irrefl _ (ahead _ (forgets.behind apart known.2 before))
  rintro key (rfl | (rfl | ⟨number, skipped⟩) |
    ⟨theirDhPub, chain, lastUsed, held, rfl | ⟨number, skipped⟩⟩)
  · intro inside
    obtain ⟨source, logged, kind, yields⟩ := lineage.root
    rw [← yields] at inside
    rcases root_of_mem_above apart known logged kind inside with ⟨other, member, replaced⟩ | same
    · exact agrees.roots.unused other member (yields ▸ replaced)
    · exact turned (yields.symm.trans same)
  · rw [agrees.sends.key]
    refine link agrees.sends.drawn fun number bound => (bound.1 rfl).resolve_left ?_
    rintro ⟨first, initial⟩
    refine turned ?_
    rw [agrees.sends.initial first initial]
    exact forgets.separated.initial first initial
  · rw [forgets.skips number] at skipped
    cases skipped
  · obtain ⟨window, represents, _, drawn⟩ := agrees.receives.follows theirDhPub chain lastUsed held
    rw [represents.key]
    refine link drawn fun number bound => ?_
    have behind := bound.2 theirDhPub chain lastUsed held rfl
    rwa [represents.number] at behind
  · intro inside
    obtain ⟨window, represents, accounts, drawn⟩ :=
      agrees.receives.follows theirDhPub chain lastUsed held
    rw [represents.skipped] at skipped
    by_cases outstanding : number ∈ window.outstanding
    · rw [if_pos outstanding] at skipped
      obtain ⟨positive, passed⟩ := window.passed number outstanding
      let other : MessageName := ⟨account.seedOf theirDhPub, number⟩
      have otherKnown : other.Known crypto history.derived := ⟨positive, drawn.of_le passed.le⟩
      rw [← Option.some.inj skipped] at inside
      obtain rfl : other = name := lineage.message_of_mem_above apart known otherKnown inside
      rcases used with spent | opened
      · obtain ⟨first, initial⟩ := forgets.separated.apart _ (Or.inr ⟨other, spent, rfl⟩)
          (account.receivedFrom_of_lookup held)
        exact forgets.separated.turned other spent first initial
      · exact accounts.once number outstanding opened
    · rw [if_neg outstanding] at skipped
      cases skipped

/-! ### Forward secrecy -/

/-- In every run in which a party encrypts nothing before its first turn, whoever takes all that the
ratchet holds after a turn, and has every Diffie-Hellman output besides, reaches no key that opens a
message sealed or accepted before. -/
theorem past_stays_closed (crypto : Primitives) (opensOnlySealed : crypto.OpensOnlySealed)
    {secret : Key} {first last : KeyHistory} (start : Start crypto secret first)
    (run : Relation.ReflTransGen (TurnedStep crypto secret) first last)
    (turned : last.ratchet.rootKey ≠ secret) {attack : List KeySource}
    (collisionFree : CollisionFree crypto (last.derived ++ attack))
    (oneKey : crypto.OpensUnderOneKey { key | key ∈ last.derivedKeys crypto ∨
      Reach (KeySource.key crypto) KeySource.origin attack last.ratchet.held key }) :
    ∀ ciphertext, ciphertext ∈ last.sealed ∨ ciphertext ∈ last.accepted →
      ∀ key nonce plaintext, crypto.aeadDecrypt key nonce ciphertext = some plaintext →
        ¬ Reach (KeySource.key crypto) KeySource.origin attack last.ratchet.held key := by
  have apart : CollisionFree crypto last.derived :=
    collisionFree.mono (List.subset_append_left _ attack)
  obtain ⟨account, forgets⟩ : ∃ account, last.Forgets crypto secret account := by
    let holds (history : KeyHistory) : Prop := CollisionFree crypto history.derived →
      ∃ account, history.Forgets crypto secret account
    have kept : holds last := by
      refine Run.preserves ?_ start.forgets run
      rintro before after holds ⟨call, sends, rfl⟩ apart
      obtain ⟨account, forgets⟩ := holds (apart.mono (derived_subset_perform before call))
      exact ⟨_, forgets.perform sends apart⟩
    exact kept apart
  have knows {name : MessageName} (used : name ∈ account.spent ∨ name ∈ account.opened) :
      name.Known crypto last.derived :=
    used.elim (forgets.agrees.sends.known name) (forgets.agrees.receives.known name)
  have closed {name : MessageName} (used : name ∈ account.spent ∨ name ∈ account.opened) :
      ¬ Reach (KeySource.key crypto) KeySource.origin attack last.ratchet.held
        (name.key crypto) := by
    have known := knows used
    intro reached
    exact reached.notMem collisionFree _ (forgets.lineage.above_closed known)
      (forgets.held_notMem_above apart turned known used) (Or.inl rfl)
  intro ciphertext passed key nonce plaintext opens reached
  rcases passed with sealed | accepted
  · obtain ⟨name, spent, _, _, seals⟩ := forgets.agrees.sends.sealed ciphertext sealed
    have derived := logged_of_known (knows (Or.inl spent))
    obtain ⟨rfl, _⟩ := oneKey _ (Or.inl derived) _ (Or.inr reached) _ _ _ _ _ seals opens
    exact closed (Or.inl spent) reached
  · obtain ⟨name, opened, _, _, opensToo⟩ := forgets.agrees.receives.accepted ciphertext accepted
    have derived := logged_of_known (knows (Or.inr opened))
    have seals := opensOnlySealed _ _ _ _ opensToo
    obtain ⟨rfl, _⟩ := oneKey _ (Or.inl derived) _ (Or.inr reached) _ _ _ _ _ seals opens
    exact closed (Or.inr opened) reached

open SampleSuite in
/-- The thief moves the sending chain of the sample responder on. -/
def sampleTheft : List KeySource :=
  [.nextChainKey samplePatient.ratchet.sendingChain.key,
    .messageKey samplePatient.ratchet.sendingChain.key]

open SampleSuite in
/-- What the sample responder accepted and sealed stays closed, and what it seals next does not. -/
theorem samplePatient_stays_closed :
    (samplePatient.sealed.length = 1 ∧ samplePatient.accepted.length = 1) ∧
      Reach (KeySource.key keyedSuite) KeySource.origin sampleTheft samplePatient.ratchet.held
        (Chain.outputKey keyedSuite samplePatient.ratchet.sendingChain.key) ∧
      ∀ ciphertext, ciphertext ∈ samplePatient.sealed ∨ ciphertext ∈ samplePatient.accepted →
        ∀ key nonce plaintext, keyedSuite.aeadDecrypt key nonce ciphertext = some plaintext →
          ¬ Reach (KeySource.key keyedSuite) KeySource.origin sampleTheft
            samplePatient.ratchet.held key := by
  have start := sampleMade_start
  have output : KeySource.messageKey samplePatient.ratchet.sendingChain.key ∈ sampleTheft :=
    List.mem_cons_of_mem _ List.mem_cons_self
  refine ⟨by decide +kernel, .derive output (.known (Or.inr (Or.inl (Or.inl rfl)))), ?_⟩
  refine past_stays_closed keyedSuite keyed_opensOnlySealed start
    (.tail (.single ⟨sampleArrival, trivial, rfl⟩) ⟨.encrypt [1] (Octets.zero 12), ?_, rfl⟩) ?_ ?_
      (keyed_opensUnderOneKey _)
  · show DoubleRatchet.rootKey _ ≠ _
    decide +kernel
  · decide +kernel
  · decide +kernel

/-! ### Recovery -/

/-- The root key, the sending chain and the keys of what was sealed since lie below a start. -/
structure Healed (crypto : Primitives) (begins : KeySource → Prop) (since : Nat)
    (history : KeyHistory) : Prop where
  root : Below (KeySource.key crypto) KeySource.origin history.derived begins
    history.ratchet.rootKey
  sending : Below (KeySource.key crypto) KeySource.origin history.derived begins
    history.ratchet.sendingChain.key
  sealed : ∀ ciphertext ∈ history.sealed.drop since, ∃ key nonce plaintext,
    crypto.aeadEncrypt key nonce plaintext = some ciphertext ∧
      Below (KeySource.key crypto) KeySource.origin history.derived begins key

section Healed

variable {begins : KeySource → Prop} {since : Nat}

theorem Healed.encrypt (healed : history.Healed crypto begins since) (plaintext : Bytes)
    (nonce : Nonce) : (history.perform crypto (.encrypt plaintext nonce)).Healed crypto begins
      since := by
  have ratchet := history.ratchet.encrypt_ratchet crypto plaintext nonce
  have grown : history.derived ⊆ (history.perform crypto (.encrypt plaintext nonce)).derived :=
    List.subset_append_left _ _
  have moved : .nextChainKey history.ratchet.sendingChain.key ∈
      (history.perform crypto (.encrypt plaintext nonce)).derived :=
    List.mem_append_right _ (Chain.mem_sources.mpr ⟨0, Nat.one_pos, Or.inr rfl⟩)
  have output : .messageKey history.ratchet.sendingChain.key ∈
      (history.perform crypto (.encrypt plaintext nonce)).derived :=
    List.mem_append_right _ (Chain.mem_sources.mpr ⟨0, Nat.one_pos, Or.inl rfl⟩)
  refine ⟨?_, ?_, fun ciphertext member => ?_⟩
  · rw [show (history.perform crypto (.encrypt plaintext nonce)).ratchet.rootKey =
      history.ratchet.rootKey from (congrArg DoubleRatchet.rootKey ratchet :)]
    exact healed.root.mono grown
  · rw [show (history.perform crypto (.encrypt plaintext nonce)).ratchet.sendingChain =
      (history.ratchet.sendingChain.advance crypto).2 from
        (congrArg DoubleRatchet.sendingChain ratchet :), Chain.advance_key]
    exact .derive moved (healed.sending.mono grown)
  · rw [perform_sealed, List.drop_append] at member
    rcases List.mem_append.mp member with earlier | new
    · obtain ⟨key, drawn, opened, seals, below⟩ := healed.sealed ciphertext earlier
      exact ⟨key, drawn, opened, seals, below.mono grown⟩
    · have new := List.mem_of_mem_drop new
      rcases run : (history.ratchet.encrypt crypto plaintext nonce).1 with
        fault | ⟨number, made, drawn, ourDhPub⟩
      · rw [run] at new
        cases new
      · rw [run] at new
        obtain ⟨messageKey, advanced, seals⟩ := DoubleRatchet.sealed_of_encrypt crypto run
        refine ⟨messageKey, drawn, plaintext, by rw [seals, List.mem_singleton.mp new], ?_⟩
        rw [Chain.outputKey_of_advance advanced]
        exact .derive output (healed.sending.mono grown)

theorem Healed.turn (healed : history.Healed crypto begins since) (theirNewDhPub : Key)
    (env : Surroundings) : (history.turn crypto theirNewDhPub env).Healed crypto begins since := by
  have receiving {source : KeySource}
      (member : source ∈ history.ratchet.receiveSources crypto theirNewDhPub) :
      source ∈ (history.turn crypto theirNewDhPub env).derived :=
    mem_derived_turn.mpr (Or.inr (Or.inl member))
  have sending {source : KeySource}
      (member : source ∈ history.ratchet.sendSources crypto theirNewDhPub env.freshSecret) :
      source ∈ (history.turn crypto theirNewDhPub env).derived :=
    mem_derived_turn.mpr (Or.inr (Or.inr member))
  have received : Below (KeySource.key crypto) KeySource.origin
      (history.turn crypto theirNewDhPub env).derived begins
        (history.ratchet.rootAfterRecv crypto theirNewDhPub) :=
    .derive (receiving List.mem_cons_self) (healed.root.mono subset_derived_turn)
  refine ⟨?_, ?_, fun ciphertext member => ?_⟩
  · exact .derive (sending List.mem_cons_self) received
  · exact .derive (sending (List.mem_cons_of_mem _ List.mem_cons_self)) received
  · obtain ⟨key, drawn, opened, seals, below⟩ := healed.sealed ciphertext member
    exact ⟨key, drawn, opened, seals, below.mono subset_derived_turn⟩

theorem Healed.openWith (healed : history.Healed crypto begins since) {messageNumber : Nat}
    {theirDhPub : Key} {nonce : Nonce} {ciphertext : Bytes} {now : Nat} :
    (history.openWith crypto messageNumber theirDhPub nonce ciphertext now).Healed crypto begins
      since := by
  obtain ⟨_, frame⟩ := history.ratchet.openWith_frame crypto messageNumber theirDhPub nonce
    ciphertext now
  refine ⟨?_, ?_, fun other member => ?_⟩
  · rw [show (history.openWith crypto messageNumber theirDhPub nonce ciphertext
      now).ratchet.rootKey = history.ratchet.rootKey from
        (congrArg DoubleRatchet.rootKey frame :)]
    exact healed.root.mono subset_derived_openWith
  · rw [show (history.openWith crypto messageNumber theirDhPub nonce ciphertext
      now).ratchet.sendingChain = history.ratchet.sendingChain from
        (congrArg DoubleRatchet.sendingChain frame :)]
    exact healed.sending.mono subset_derived_openWith
  · obtain ⟨key, drawn, opened, seals, below⟩ := healed.sealed other member
    exact ⟨key, drawn, opened, seals, below.mono subset_derived_openWith⟩

theorem Healed.perform (healed : history.Healed crypto begins since) (call : RatchetCall) :
    (history.perform crypto call).Healed crypto begins since := by
  cases call with
  | encrypt plaintext nonce => exact healed.encrypt plaintext nonce
  | decrypt messageNumber theirDhPub nonce ciphertext env =>
    by_cases turns : history.ratchet.theirDhPub = theirDhPub
    · subst turns
      rw [perform_decrypt_current]
      exact healed.openWith
    · rw [perform_decrypt_turn _ _ _ _ _ _ turns]
      exact (healed.turn theirDhPub env).openWith

end Healed

theorem derived_subset_of_run {first last : KeyHistory}
    (run : Relation.ReflTransGen (Step crypto) first last) : first.derived ⊆ last.derived := by
  let grown (history : KeyHistory) : Prop := first.derived ⊆ history.derived
  have kept : grown last := by
    refine Run.preserves ?_ (List.Subset.refl first.derived) run
    rintro before after subset ⟨call, rfl⟩
    exact List.Subset.trans subset (derived_subset_perform before call)
  exact kept

/-- All keys that were ever derived up to a turn are taken, and all that the receive half of the
turn yields. Whoever misses the Diffie-Hellman output of the send half reaches no key that opens
what is sealed from then on, in whatever run follows. -/
theorem future_closes_again (crypto : Primitives) {secret : Key}
    {first taken last : KeyHistory} (start : Start crypto secret first)
    (before : Relation.ReflTransGen (Step crypto) first taken) {messageNumber : Nat}
    {theirDhPub : Key} {nonce : Nonce} {ciphertext : Bytes} {env : Surroundings}
    (turns : taken.ratchet.theirDhPub ≠ theirDhPub)
    (after : Relation.ReflTransGen (Step crypto)
      (taken.perform crypto (.decrypt messageNumber theirDhPub nonce ciphertext env)) last)
    {attack : List KeySource} (collisionFree : CollisionFree crypto (last.derived ++ attack))
    (missing : ∀ source ∈ attack,
      source.dhOut ≠ some (crypto.diffieHellman env.freshSecret theirDhPub))
    (oneKey : crypto.OpensUnderOneKey { key | key ∈ last.derivedKeys crypto ∨
      Reach (KeySource.key crypto) KeySource.origin attack
        { known | Logged (KeySource.key crypto)
          (taken.derived ++ taken.ratchet.receiveSources crypto theirDhPub) known } key }) :
    ∀ sealed ∈ last.sealed.drop taken.sealed.length, ∀ key drawn plaintext,
      crypto.aeadDecrypt key drawn sealed = some plaintext →
        ¬ Reach (KeySource.key crypto) KeySource.origin attack
          { known | Logged (KeySource.key crypto)
            (taken.derived ++ taken.ratchet.receiveSources crypto theirDhPub) known } key := by
  have apart : CollisionFree crypto last.derived :=
    collisionFree.mono (List.subset_append_left _ attack)
  let begins (source : KeySource) : Prop :=
    source ∈ taken.ratchet.sendSources crypto theirDhPub env.freshSecret
  let turned := taken.turn crypto theirDhPub env
  rw [perform_decrypt_turn _ _ _ _ _ _ turns] at after
  have later : turned.derived ⊆ last.derived :=
    List.Subset.trans subset_derived_openWith (derived_subset_of_run after)
  have turnApart : CollisionFree crypto turned.derived := apart.mono later
  have traced : taken.Traced crypto secret := by
    have early : CollisionFree crypto taken.derived := turnApart.mono subset_derived_turn
    exact Traced.of_run before
      (start.traced (early.mono (derived_subset_of_run before))) early
  obtain ⟨account, agrees⟩ := traced.agrees
  -- what was taken does not lie below the send half of the turn
  have taken_not_below (known : Key) (logged : Logged (KeySource.key crypto)
      (taken.derived ++ taken.ratchet.receiveSources crypto theirDhPub) known) :
      ¬ Below (KeySource.key crypto) KeySource.origin last.derived begins known := by
    refine logged.not_below apart
      (List.Subset.trans (List.subset_append_left _ _) later) ?_ ?_
    · intro source member sent
      refine (agrees.roots.halfway turnApart).unused.not_mem ?_ member
      rcases List.mem_pair.mp sent with rfl | rfl <;> rfl
    · intro source member
      refine Logged.mono ?_ (List.subset_append_left _ _)
      rcases List.mem_append.mp member with earlier | received
      · exact traced.origin_logged earlier
      · obtain ⟨root, logged, _, yields⟩ := traced.lineage.root
        refine ⟨root, logged, yields.trans ?_⟩
        rcases List.mem_pair.mp received with rfl | rfl <;> rfl
  have root : begins (.rootKey _ _) := List.mem_cons_self
  have chain : begins (.chainKey _ _) := List.mem_cons_of_mem _ List.mem_cons_self
  have healed : last.Healed crypto begins taken.sealed.length := by
    refine Run.preserves ?_ (Healed.openWith ⟨?_, ?_, ?_⟩) after
    · rintro history next healed ⟨call, rfl⟩
      exact healed.perform call
    · exact .start (mem_derived_turn.mpr (Or.inr (Or.inr root))) root
    · exact .start (mem_derived_turn.mpr (Or.inr (Or.inr chain))) chain
    · intro other member
      rw [show turned.sealed = taken.sealed from rfl, List.drop_length] at member
      cases member
  intro sealed member key drawn plaintext opens reached
  obtain ⟨other, _, _, seals, below⟩ := healed.sealed sealed member
  obtain ⟨rfl, _⟩ := oneKey _ (Or.inl below.logged) _ (Or.inr reached) _ _ _ _ _ seals opens
  refine reached.not_below collisionFree (fun source listed sent => ?_) taken_not_below below
  refine missing source listed ?_
  rcases List.mem_pair.mp sent with rfl | rfl <;> rfl

open SampleSuite in
/-- The sample responder is robbed at once, and what it seals after its first turn stays closed to
the thief, who moves the new sending chain on as soon as he has it. -/
theorem samplePatient_closes_again :
    samplePatient.sealed.length = 1 ∧ ∀ sealed ∈ samplePatient.sealed.drop
        (made (octets 32 7) (sampleBuilt 2 1)).sealed.length, ∀ key drawn plaintext,
      keyedSuite.aeadDecrypt key drawn sealed = some plaintext →
        ¬ Reach (KeySource.key keyedSuite) KeySource.origin sampleTheft
          { known | Logged (KeySource.key keyedSuite)
            ((made (octets 32 7) (sampleBuilt 2 1)).derived ++
              (made (octets 32 7) (sampleBuilt 2 1)).ratchet.receiveSources keyedSuite
                (keyedSuite.publicKey (octets 32 3))) known } key := by
  refine ⟨by decide +kernel, ?_⟩
  refine future_closes_again keyedSuite sampleMade_start .refl (by decide +kernel)
    (.single ⟨.encrypt [1] (Octets.zero 12), rfl⟩) (by decide +kernel) ?_ (keyed_opensUnderOneKey _)
  decide +kernel

end KeyHistory

end Insub
