/-
This file traces the keys of a ratchet back to the shared secret. Every source has an origin, the
key it was derived from, and every origin was derived itself, or is the shared secret. A root key
comes from the shared secret or from a turn; a link of a chain has a place on a chain that starts at
a logged source. Both hold in every state of a run, whatever arrives.
-/

import Mathlib
import Insub.Library.Knowledge
import Insub.Crypto.SingleUse

namespace Insub

open Rust Derivation

/-- A key is a root key, a link of a chain or a message key. -/
inductive KeyKind
  | root
  | link
  | message

namespace KeySource

/-- The key that the source is derived from. The shared secret is its own origin. -/
def origin : KeySource → Key
  | .sharedSecret secret => secret
  | .initialChain secret => secret
  | .rootKey root _ => root
  | .chainKey root _ => root
  | .nextChainKey link => link
  | .messageKey link => link

/-- The Diffie-Hellman output that enters the source. -/
def dhOut : KeySource → Option Key
  | .rootKey _ dhOut => some dhOut
  | .chainKey _ dhOut => some dhOut
  | _ => none

/-- What the key of the source is for. -/
def kind : KeySource → KeyKind
  | .sharedSecret _ | .rootKey _ _ => .root
  | .initialChain _ | .chainKey _ _ | .nextChainKey _ => .link
  | .messageKey _ => .message

end KeySource

variable {crypto : Primitives} {derived : List KeySource} {seed : KeySource} {count : Nat}

/-! ### Links -/

/-- The link was passed on some chain. -/
def Passed (derived : List KeySource) (link : Key) : Prop :=
  .messageKey link ∈ derived ∨ .nextChainKey link ∈ derived

/-- Every link that was passed has its place on a chain, and the place meets a condition. -/
def Named (crypto : Primitives) (derived : List KeySource) (bound : KeySource → Nat → Prop) :
    Prop :=
  ∀ link, Passed derived link → ∃ seed number, Drawn crypto derived seed (number + 1) ∧
    link = Chain.chainKeyAt crypto (seed.key crypto) number ∧ bound seed number

theorem Passed.of_append {more : List KeySource} {link : Key}
    (passed : Passed (derived ++ more) link)
    (others : ∀ source ∈ more, ∀ other, source ≠ .messageKey other ∧ source ≠ .nextChainKey other) :
    Passed derived link := by
  rcases passed with member | member
  · refine Or.inl ((List.mem_append.mp member).resolve_right fun new => ?_)
    exact (others _ new link).1 rfl
  · refine Or.inr ((List.mem_append.mp member).resolve_right fun new => ?_)
    exact (others _ new link).2 rfl

/-- Sources that are no links leave the places alone. -/
theorem Named.append {bound next : KeySource → Nat → Prop} {more : List KeySource}
    (named : Named crypto derived bound)
    (others : ∀ source ∈ more, ∀ link, source ≠ .messageKey link ∧ source ≠ .nextChainKey link)
    (kept : ∀ seed ∈ derived, ∀ number, bound seed number → next seed number) :
    Named crypto (derived ++ more) next := by
  intro link passed
  obtain ⟨seed, number, drawn, place, bounded⟩ := named link (passed.of_append others)
  exact ⟨seed, number, drawn.mono (List.subset_append_left derived more), place,
    kept seed drawn.logged number bounded⟩

/-- Moving a chain ahead passes its next links. -/
theorem Named.move {bound next : KeySource → Nat → Prop} (named : Named crypto derived bound)
    (drawn : Drawn crypto derived seed count) {chain : Chain}
    (key : chain.key = Chain.chainKeyAt crypto (seed.key crypto) count) {further : Nat}
    (kept : ∀ other number, bound other number → next other number)
    (new : ∀ moved < further, next seed (count + moved)) :
    Named crypto (derived ++ chain.sources crypto further) next := by
  have grown := drawn.move key further
  intro link passed
  have cases : Passed derived link ∨ ∃ moved < further,
      link = Chain.chainKeyAt crypto chain.key moved := by
    rcases passed with member | member
    · rcases List.mem_append.mp member with earlier | later
      · exact Or.inl (Or.inl earlier)
      · obtain ⟨moved, less, same | other⟩ := Chain.mem_sources.mp later
        · exact Or.inr ⟨moved, less, KeySource.messageKey.inj same⟩
        · cases other
    · rcases List.mem_append.mp member with earlier | later
      · exact Or.inl (Or.inr earlier)
      · obtain ⟨moved, less, other | same⟩ := Chain.mem_sources.mp later
        · cases other
        · exact Or.inr ⟨moved, less, KeySource.nextChainKey.inj same⟩
  rcases cases with earlier | ⟨moved, less, rfl⟩
  · obtain ⟨other, number, placed, place, bounded⟩ := named link earlier
    exact ⟨other, number, placed.mono (List.subset_append_left _ _), place,
      kept other number bounded⟩
  · refine ⟨seed, count + moved, grown.of_le (by omega), ?_, new moved less⟩
    rw [key, Chain.chainKeyAt_chainKeyAt, Nat.add_comm]

/-- The links of a chain up to its next one have sources. -/
theorem Drawn.exists_link (drawn : Drawn crypto derived seed count) {number : Nat}
    (within : number ≤ count) : ∃ source ∈ derived, source.kind = .link ∧
      source.key crypto = Chain.chainKeyAt crypto (seed.key crypto) number := by
  cases number with
  | zero =>
    have starts := drawn.starts
    refine ⟨seed, drawn.logged, ?_, rfl⟩
    cases seed with
    | initialChain | chainKey => rfl
    | sharedSecret | rootKey | nextChainKey | messageKey => cases starts
  | succ number =>
    refine ⟨_, (drawn.keys number (by omega)).2, rfl, ?_⟩
    rw [Chain.chainKeyAt_succ]
    rfl

namespace KeyHistory

variable {history : KeyHistory} {account : KeyAccount} {secret : Key}

/-! ### Roots -/

/-- The root keys come from the shared secret, one after the other. -/
structure Lineage (crypto : Primitives) (secret : Key) (history : KeyHistory) : Prop where
  shared : .sharedSecret secret ∈ history.derived
  only : ∀ first, .sharedSecret first ∈ history.derived ∨ .initialChain first ∈ history.derived →
    first = secret
  root : ∃ source ∈ history.derived, source.kind = .root ∧ source.key crypto = history.ratchet.rootKey
  roots : ∀ source ∈ history.derived, ∀ root, source.turnedFrom = some root →
    ∃ earlier ∈ history.derived, earlier.kind = .root ∧ earlier.key crypto = root

theorem Lineage.extend (lineage : history.Lineage crypto secret) {next : KeyHistory}
    {more : List KeySource} (root : next.ratchet.rootKey = history.ratchet.rootKey)
    (derived : next.derived = history.derived ++ more)
    (links : ∀ source ∈ more, ∃ link, source = .messageKey link ∨ source = .nextChainKey link) :
    next.Lineage crypto secret := by
  have old {source : KeySource} (member : source ∈ history.derived) : source ∈ next.derived := by
    rw [derived]
    exact List.mem_append_left _ member
  refine ⟨old lineage.shared, fun first either => lineage.only first ?_, ?_, ?_⟩
  · rw [derived, List.mem_append, List.mem_append] at either
    rcases either with (earlier | new) | (earlier | new)
    · exact Or.inl earlier
    · obtain ⟨link, same | same⟩ := links _ new <;> cases same
    · exact Or.inr earlier
    · obtain ⟨link, same | same⟩ := links _ new <;> cases same
  · obtain ⟨source, member, kind, yields⟩ := lineage.root
    exact ⟨source, old member, kind, by rw [yields, root]⟩
  · intro source member replaced turned
    rw [derived] at member
    rcases List.mem_append.mp member with earlier | new
    · obtain ⟨other, found, kind, yields⟩ := lineage.roots source earlier replaced turned
      exact ⟨other, old found, kind, yields⟩
    · obtain ⟨link, rfl | rfl⟩ := links _ new <;> cases turned

theorem links_of_mem_sources {chain : Chain} {source : KeySource}
    (member : source ∈ chain.sources crypto count) :
    ∃ link, source = .messageKey link ∨ source = .nextChainKey link := by
  obtain ⟨moved, _, same⟩ := Chain.mem_sources.mp member
  exact ⟨_, same⟩

theorem Lineage.turn (lineage : history.Lineage crypto secret) (theirNewDhPub : Key)
    (env : Surroundings) : (history.turn crypto theirNewDhPub env).Lineage crypto secret := by
  obtain ⟨source, member, kind, yields⟩ := lineage.root
  refine ⟨subset_derived_turn lineage.shared, fun first either => lineage.only first ?_, ?_, ?_⟩
  · rcases either with shared | initial
    · refine Or.inl ((mem_derived_turn.mp shared).resolve_right ?_)
      simp [DoubleRatchet.receiveSources, DoubleRatchet.sendSources]
    · refine Or.inr ((mem_derived_turn.mp initial).resolve_right ?_)
      simp [DoubleRatchet.receiveSources, DoubleRatchet.sendSources]
  · exact ⟨_, mem_derived_turn.mpr (Or.inr (Or.inr List.mem_cons_self)), rfl, rfl⟩
  · intro other found replaced turned
    rcases mem_derived_turn.mp found with earlier | received | sent
    · obtain ⟨root, logged, holds, same⟩ := lineage.roots other earlier replaced turned
      exact ⟨root, subset_derived_turn logged, holds, same⟩
    · -- the receive half replaces the root key the ratchet had
      have replacedRoot : replaced = history.ratchet.rootKey := by
        rcases List.mem_pair.mp received with rfl | rfl <;> exact (Option.some.inj turned).symm
      exact ⟨source, subset_derived_turn member, kind, by rw [yields, replacedRoot]⟩
    · have replacedRoot : replaced = history.ratchet.rootAfterRecv crypto theirNewDhPub := by
        rcases List.mem_pair.mp sent with rfl | rfl <;> exact (Option.some.inj turned).symm
      exact ⟨_, mem_derived_turn.mpr (Or.inr (Or.inl List.mem_cons_self)), rfl,
        replacedRoot.symm⟩

/-- What selecting the key of a message derives are the next links of the chain that is held. -/
theorem Receives.openSources_eq (receives : history.Receives crypto account) {theirDhPub : Key}
    {chain : Chain} {used : Nat}
    (held : history.ratchet.receivingChains.lookup theirDhPub = some (chain, used))
    (messageNumber : Nat) :
    ∃ further, Drawn crypto history.derived (account.seedOf theirDhPub) chain.messageNumber ∧
      chain.key = Chain.chainKeyAt crypto ((account.seedOf theirDhPub).key crypto)
        chain.messageNumber ∧
      history.ratchet.openSources crypto messageNumber theirDhPub = chain.sources crypto further ∧
      (chain.messageKey crypto messageNumber).2.messageNumber = chain.messageNumber + further := by
  obtain ⟨window, represents, _, drawn⟩ := receives.follows theirDhPub chain used held
  have ahead : chain.messageNumber ≤ (chain.messageKey crypto messageNumber).2.messageNumber := by
    rcases represents.messageKey_cases crypto messageNumber with
      ⟨next, nextChain, accepts, selected, moves⟩ | ⟨fault, refused⟩
    · have reached := ReceiveWindow.reached_of_accept accepts
      rw [selected, represents.number, moves.number]
      omega
    · rw [refused]
  refine ⟨(chain.messageKey crypto messageNumber).2.messageNumber - chain.messageNumber, ?_, ?_,
    ?_, by omega⟩
  · rwa [represents.number]
  · rw [represents.number, represents.key]
  · simp only [DoubleRatchet.openSources, held]

theorem openSources_none {ratchet : DoubleRatchet} {theirDhPub : Key}
    (absent : ratchet.receivingChains.lookup theirDhPub = none) (messageNumber : Nat) :
    ratchet.openSources crypto messageNumber theirDhPub = [] := by
  simp only [DoubleRatchet.openSources, absent]

theorem turn_no_links {theirNewDhPub : Key} {env : Surroundings} {source : KeySource}
    (member : source ∈ history.ratchet.receiveSources crypto theirNewDhPub ++
      history.ratchet.sendSources crypto theirNewDhPub env.freshSecret) (link : Key) :
    source ≠ .messageKey link ∧ source ≠ .nextChainKey link := by
  rcases List.mem_append.mp member with received | sent
  · rcases List.mem_pair.mp received with rfl | rfl <;> simp
  · rcases List.mem_pair.mp sent with rfl | rfl <;> simp

/-! ### Every key goes back to the shared secret -/

/-- There is an account of the ratchet, and its keys go back to the shared secret. -/
structure Traced (crypto : Primitives) (secret : Key) (history : KeyHistory) : Prop where
  agrees : ∃ account, history.Agrees crypto account
  lineage : history.Lineage crypto secret
  named : Named crypto history.derived fun _ _ => True

theorem Traced.turn (traced : history.Traced crypto secret) {theirNewDhPub : Key}
    {env : Surroundings}
    (apart : CollisionFree crypto (history.turn crypto theirNewDhPub env).derived) :
    (history.turn crypto theirNewDhPub env).Traced crypto secret := by
  obtain ⟨account, agrees⟩ := traced.agrees
  refine ⟨⟨_, agrees.turn apart⟩, traced.lineage.turn theirNewDhPub env, ?_⟩
  rw [KeyHistory.turn, List.append_assoc]
  exact traced.named.append (fun _ member => turn_no_links member) fun _ _ _ _ => trivial

theorem Traced.openWith (traced : history.Traced crypto secret) {messageNumber : Nat}
    {theirDhPub : Key} {nonce : Nonce} {ciphertext : Bytes} {now : Nat} :
    (history.openWith crypto messageNumber theirDhPub nonce ciphertext now).Traced crypto
      secret := by
  obtain ⟨account, agrees⟩ := traced.agrees
  obtain ⟨_, frame⟩ := history.ratchet.openWith_frame crypto messageNumber theirDhPub nonce
    ciphertext now
  have root : (history.openWith crypto messageNumber theirDhPub nonce ciphertext
      now).ratchet.rootKey = history.ratchet.rootKey := (congrArg DoubleRatchet.rootKey frame :)
  refine ⟨⟨_, agrees.openWith⟩, ?_, ?_⟩
  · refine traced.lineage.extend root rfl fun source member => ?_
    cases held : history.ratchet.receivingChains.lookup theirDhPub with
    | none =>
      rw [openSources_none held] at member
      cases member
    | some entry =>
      obtain ⟨_, _, _, sources, _⟩ := agrees.receives.openSources_eq held messageNumber
      rw [sources] at member
      exact links_of_mem_sources member
  · show Named crypto (history.derived ++ _) _
    cases held : history.ratchet.receivingChains.lookup theirDhPub with
    | none =>
      rw [openSources_none held, List.append_nil]
      exact traced.named
    | some entry =>
      obtain ⟨_, drawn, key, sources, _⟩ := agrees.receives.openSources_eq held messageNumber
      rw [sources]
      exact traced.named.move drawn key (fun _ _ _ => trivial) fun _ _ => trivial

theorem Traced.perform (traced : history.Traced crypto secret) (call : RatchetCall)
    (apart : CollisionFree crypto (history.perform crypto call).derived) :
    (history.perform crypto call).Traced crypto secret := by
  cases call with
  | encrypt plaintext nonce =>
    obtain ⟨account, agrees⟩ := traced.agrees
    have ratchet := history.ratchet.encrypt_ratchet crypto plaintext nonce
    refine ⟨⟨_, agrees.encrypt plaintext nonce⟩, ?_, ?_⟩
    · refine traced.lineage.extend ?_ rfl fun source => links_of_mem_sources
      show (history.ratchet.encrypt crypto plaintext nonce).2.rootKey = _
      rw [ratchet]
    · exact traced.named.move agrees.sends.drawn agrees.sends.key (fun _ _ _ => trivial)
        fun _ _ => trivial
  | decrypt messageNumber theirDhPub nonce ciphertext env =>
    by_cases turns : history.ratchet.theirDhPub = theirDhPub
    · subst turns
      rw [perform_decrypt_current]
      exact traced.openWith
    · rw [perform_decrypt_turn _ _ _ _ _ _ turns] at apart ⊢
      exact (traced.turn (apart.mono subset_derived_openWith)).openWith

/-- At the start nothing but the shared secret and the first keys of it were derived. -/
theorem Start.lineage (start : Start crypto secret history) : history.Lineage crypto secret := by
  cases start with
  | responder built =>
    cases built
    refine ⟨List.mem_cons_self, ?_, ⟨_, List.mem_cons_self, rfl, rfl⟩, ?_⟩
    · simp [made]
    · simp [made, KeySource.turnedFrom]
  | initiator built =>
    cases built
    refine ⟨List.mem_cons_self, ?_, ⟨_, List.mem_append_right _ List.mem_cons_self, rfl, rfl⟩,
      ?_⟩
    · simp
    · intro source member root turned
      rcases List.mem_append.mp member with first | second
      · rcases List.mem_pair.mp first with rfl | rfl <;> cases turned
      · have same : root = secret := by
          rcases List.mem_pair.mp second with rfl | rfl <;> exact (Option.some.inj turned).symm
        exact ⟨_, List.mem_cons_self, rfl, same.symm⟩

theorem Start.named (start : Start crypto secret history) (bound : KeySource → Nat → Prop) :
    Named crypto history.derived bound := by
  intro link passed
  cases start with
  | responder => simp [Passed, made] at passed
  | initiator => simp [Passed] at passed

theorem Start.traced (start : Start crypto secret history)
    (apart : CollisionFree crypto history.derived) : history.Traced crypto secret := by
  obtain ⟨account, agrees, _⟩ := start.agrees apart
  exact ⟨⟨account, agrees⟩, start.lineage, start.named _⟩

theorem Traced.of_run {first last : KeyHistory}
    (run : Relation.ReflTransGen (Step crypto) first last) (traced : first.Traced crypto secret)
    (apart : CollisionFree crypto last.derived) : last.Traced crypto secret := by
  let holds (history : KeyHistory) : Prop :=
    CollisionFree crypto history.derived → history.Traced crypto secret
  have kept : holds last := by
    refine Run.preserves ?_ (fun _ => traced) run
    rintro before after holds ⟨call, rfl⟩ apart
    exact (holds (apart.mono (derived_subset_perform before call))).perform call apart
  exact kept apart

/-- Whatever was derived was derived from a key that was. -/
theorem Traced.origin_logged (traced : history.Traced crypto secret) {source : KeySource}
    (member : source ∈ history.derived) :
    Logged (KeySource.key crypto) history.derived source.origin := by
  have turned {root : Key} (from_ : source.turnedFrom = some root) :
      Logged (KeySource.key crypto) history.derived root := by
    obtain ⟨earlier, logged, _, yields⟩ := traced.lineage.roots source member root from_
    exact ⟨earlier, logged, yields⟩
  have link {link : Key} (passed : Passed history.derived link) :
      Logged (KeySource.key crypto) history.derived link := by
    obtain ⟨seed, number, drawn, rfl, _⟩ := traced.named link passed
    obtain ⟨earlier, logged, _, yields⟩ := drawn.exists_link (Nat.le_succ number)
    exact ⟨earlier, logged, yields⟩
  have shared {first : Key} (either : .sharedSecret first ∈ history.derived ∨
      .initialChain first ∈ history.derived) :
      Logged (KeySource.key crypto) history.derived first := by
    rw [traced.lineage.only first either]
    exact ⟨_, traced.lineage.shared, rfl⟩
  cases source with
  | sharedSecret first => exact shared (Or.inl member)
  | initialChain first => exact shared (Or.inr member)
  | rootKey root dhOut => exact turned rfl
  | chainKey root dhOut => exact turned rfl
  | nextChainKey other => exact link (Or.inr member)
  | messageKey other => exact link (Or.inl member)

end KeyHistory

end Insub
