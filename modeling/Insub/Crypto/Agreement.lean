/-
This file proves that two double ratchets agree. Both sides encrypt whenever they like,
and the network hands each ciphertext over at most once, drops some, and reorders those
sent under one ratchet key.

At every moment one side leads: it has drawn the newest ratchet key, and the other side
has not received a message under it yet. The root key of the leader is the one the
follower will derive when it does, and the chain the leader sends on is the one the
follower will then open. When the follower receives such a message it turns its ratchet,
draws a key of its own and takes the lead; every other step leaves the lead in place.
-/

import Mathlib
import Insub.Library.Run
import Insub.Crypto.ChainWindow
import Insub.Crypto.SampleSuite

namespace Insub

open Rust

/-! ### The two sides and the network between them -/

inductive Party
  | initiator
  | responder
  deriving DecidableEq

def Party.other : Party → Party
  | .initiator => .responder
  | .responder => .initiator

@[simp] theorem Party.other_other (party : Party) : party.other.other = party := by
  cases party <;> rfl

@[simp] theorem Party.other_ne (party : Party) : party.other ≠ party := by
  cases party <;> decide

theorem Party.eq_or_eq_other (first second : Party) : first = second ∨ first = second.other := by
  cases first <;> cases second <;> decide

theorem Party.mem_both (party : Party) : party ∈ [initiator, responder] := by
  cases party <;> decide

/-- A genuine ciphertext: what `encrypt` returned, with the plaintext it sealed. -/
structure Envelope where
  plaintext : Bytes
  number : Nat
  ciphertext : Bytes
  nonce : Nonce
  ratchetKey : Key
  deriving DecidableEq

/-- One party: its ratchet, the envelopes it sent in order, the positions among them of those
the other party was handed, and the ratchet keys it has had. -/
structure Side where
  ratchet : DoubleRatchet
  sent : List Envelope
  delivered : Finset Nat
  drawn : Finset Key

/-- The envelope the side sent at a position. -/
abbrev Side.SentAt (side : Side) (position : Nat) (envelope : Envelope) : Prop :=
  side.sent[position]? = some envelope

/-- A ratchet with nothing sent. -/
def Side.start (ratchet : DoubleRatchet) (drawn : Finset Key) : Side where
  ratchet := ratchet
  sent := []
  delivered := ∅
  drawn := drawn

abbrev World := Party → Side

namespace Side

variable (crypto : Primitives)

/-- The ratchet key the side sends under. -/
def ratchetKey (side : Side) : Key := crypto.publicKey side.ratchet.ourDhPriv

/-- The number the receiving chain of a ratchet key has reached. -/
def reached (side : Side) (ratchetKey : Key) : Nat :=
  match side.ratchet.receivingChains.lookup ratchetKey with
  | some (chain, _) => chain.messageNumber
  | none => 0

/-- Encrypt, and put the envelope on the wire. -/
def encrypt (side : Side) (plaintext : Bytes) (nonce : Nonce) : Side :=
  match side.ratchet.encrypt crypto plaintext nonce with
  | (.ok (number, ciphertext, nonce, ratchetKey), ratchet) =>
    { side with
      ratchet
      sent := side.sent ++ [{ plaintext, number, ciphertext, nonce, ratchetKey }] }
  | (.error _, ratchet) => { side with ratchet }

/-- Decrypt an envelope of the other side. -/
def decrypt (side : Side) (envelope : Envelope) (env : Surroundings) : Outcome Bytes × Side :=
  match side.ratchet.decrypt crypto envelope.number envelope.ratchetKey envelope.nonce
      envelope.ciphertext env with
  | (outcome, ratchet) =>
    (outcome, { side with
      ratchet, drawn := insert (crypto.publicKey ratchet.ourDhPriv) side.drawn })

def handOver (side : Side) (position : Nat) : Side :=
  { side with delivered := insert position side.delivered }

/-- What the network may do: hand over an envelope of the sender that it has not handed over
yet, and none of an earlier ratchet key after one of a later key, with a number at most
`maxSkip` ahead of what the receiver has reached. A secret the receiver draws is fresh. -/
structure Deliverable (sender receiver : Side) (position : Nat) (envelope : Envelope)
    (env : Surroundings) : Prop where
  genuine : sender.SentAt position envelope
  once : position ∉ sender.delivered
  inOrder : ∀ later ∈ sender.delivered, position < later → ∀ other,
    sender.SentAt later other → other.ratchetKey = envelope.ratchetKey
  near : envelope.number ≤ receiver.reached envelope.ratchetKey + Chain.maxSkip
  fresh : receiver.ratchet.theirDhPub ≠ envelope.ratchetKey →
    crypto.publicKey env.freshSecret ∉ receiver.drawn

end Side

instance (sender receiver : Side) (position : Nat) (envelope : Envelope) (env : Surroundings) :
    Decidable (Side.Deliverable crypto sender receiver position envelope env) :=
  decidable_of_iff (sender.SentAt position envelope ∧ position ∉ sender.delivered ∧
    (∀ later ∈ sender.delivered, position < later → (sender.sent[later]?.all fun other =>
      other.ratchetKey = envelope.ratchetKey) = true) ∧
    envelope.number ≤ receiver.reached envelope.ratchetKey + Chain.maxSkip ∧
    (receiver.ratchet.theirDhPub ≠ envelope.ratchetKey →
      crypto.publicKey env.freshSecret ∉ receiver.drawn)) (by
    simp only [Option.all_eq_true, decide_eq_true_iff]
    exact ⟨fun ⟨genuine, once, inOrder, near, fresh⟩ => ⟨genuine, once, inOrder, near, fresh⟩,
      fun ⟨genuine, once, inOrder, near, fresh⟩ => ⟨genuine, once, inOrder, near, fresh⟩⟩)

namespace World

variable (crypto : Primitives)

/-- The envelope at a position, which is known to exist. -/
def envelope (world : World) (sender : Party) (position : Nat) : Envelope :=
  (world sender).sent[position]?.getD ⟨[], 0, [], Octets.zero 12, Octets.zero 32⟩

def encrypt (world : World) (party : Party) (plaintext : Bytes) (nonce : Nonce) : World :=
  Function.update world party ((world party).encrypt crypto plaintext nonce)

def deliver (world : World) (receiver : Party) (position : Nat) (envelope : Envelope)
    (env : Surroundings) : World :=
  Function.update
    (Function.update world receiver ((world receiver).decrypt crypto envelope env).2)
    receiver.other ((world receiver.other).handOver position)

/-- One call on either ratchet. Message numbers stay below `2 ^ 32 - 1`. -/
inductive Step : World → World → Prop
  | encrypt (world : World) (party : Party) (plaintext : Bytes) (nonce : Nonce)
      (bounded : (world party).ratchet.sendingChain.messageNumber + 1 < u32Bound - 1) :
      Step world (world.encrypt crypto party plaintext nonce)
  | deliver (world : World) (receiver : Party) (position : Nat) (envelope : Envelope)
      (env : Surroundings)
      (deliverable : Side.Deliverable crypto (world receiver.other) (world receiver) position
        envelope env) :
      Step world (world.deliver crypto receiver position envelope env)

/-- The two ratchets as they are built: from one shared secret and each other's first
ratchet key, with the pre-ratchet of the initiator called before anything else. -/
inductive Start : World → Prop
  | intro (sharedSecret initiatorSecret responderSecret freshSecret : Key) (first second : Nat)
      (initiator responder : DoubleRatchet)
      (builtInitiator : DoubleRatchet.new crypto sharedSecret initiatorSecret
        (crypto.publicKey responderSecret) first = .ok initiator)
      (builtResponder : DoubleRatchet.new crypto sharedSecret responderSecret
        (crypto.publicKey initiatorSecret) second = .ok responder)
      (fresh : crypto.publicKey freshSecret ≠ crypto.publicKey initiatorSecret) :
      Start fun
        | .initiator => Side.start (initiator.initiatorPreRatchet crypto freshSecret)
            {crypto.publicKey freshSecret, crypto.publicKey initiatorSecret}
        | .responder => Side.start responder {crypto.publicKey responderSecret}

theorem encrypt_self (world : World) (party : Party) (plaintext : Bytes) (nonce : Nonce) :
    world.encrypt crypto party plaintext nonce party =
      (world party).encrypt crypto plaintext nonce :=
  Function.update_self _ _ _

theorem encrypt_other (world : World) {party other : Party} (different : other ≠ party)
    (plaintext : Bytes) (nonce : Nonce) :
    world.encrypt crypto party plaintext nonce other = world other :=
  Function.update_of_ne different _ _

theorem deliver_receiver (world : World) (receiver : Party) (position : Nat)
    (envelope : Envelope) (env : Surroundings) :
    world.deliver crypto receiver position envelope env receiver =
      ((world receiver).decrypt crypto envelope env).2 := by
  rw [deliver, Function.update_of_ne (Ne.symm receiver.other_ne), Function.update_self]

theorem deliver_sender (world : World) (receiver : Party) (position : Nat)
    (envelope : Envelope) (env : Surroundings) :
    world.deliver crypto receiver position envelope env receiver.other =
      (world receiver.other).handOver position :=
  Function.update_self _ _ _

end World

/-! ### The invariant -/

section Invariant

variable (crypto : Primitives)

/-- The envelope was sealed under the key its number has on the chain started at the seed. -/
structure Carries (seed : Key) (envelope : Envelope) : Prop where
  positive : 1 ≤ envelope.number
  bounded : envelope.number + 1 < u32Bound
  sealed : crypto.aeadEncrypt (Chain.messageKeyAt crypto seed envelope.number) envelope.nonce
    envelope.plaintext = some envelope.ciphertext

/-- The numbers delivered under a ratchet key. -/
def Side.deliveredNumbers (sender : Side) (ratchetKey : Key) : Set Nat :=
  {number | ∃ position ∈ sender.delivered, ∃ envelope, sender.SentAt position envelope ∧
    envelope.ratchetKey = ratchetKey ∧ envelope.number = number}

/-- The sender's chain was started at the seed, and so were the keys of what it sent under its
present ratchet key. -/
structure Sends (sender : Side) (seed : Key) : Prop where
  key : sender.ratchet.sendingChain.key =
    Chain.chainKeyAt crypto seed sender.ratchet.sendingChain.messageNumber
  carried : ∀ position envelope, sender.SentAt position envelope →
    envelope.ratchetKey = sender.ratchetKey crypto →
      Carries crypto seed envelope ∧
        envelope.number ≤ sender.ratchet.sendingChain.messageNumber

/-- One direction of the conversation. The receiver holds a chain for the ratchet key it has
last seen, started at the seed, and that chain accounts for what was delivered under the
key. What was sent under neither that key nor the sender's present one can no longer be
delivered. -/
structure Flow (sender receiver : Side) (seed : Key) : Prop where
  held : ∃ chain used window,
    receiver.ratchet.receivingChains.lookup receiver.ratchet.theirDhPub = some (chain, used) ∧
      chain.Represents crypto seed window ∧ chain.messageNumber + 1 < u32Bound ∧
      window.Accounts (sender.deliveredNumbers receiver.ratchet.theirDhPub)
  carried : ∀ position envelope, sender.SentAt position envelope →
    envelope.ratchetKey = receiver.ratchet.theirDhPub → Carries crypto seed envelope
  distinct : ∀ first second envelope other, sender.SentAt first envelope →
    sender.SentAt second other → envelope.ratchetKey = other.ratchetKey →
      envelope.number = other.number → first = second
  passed : ∀ position envelope, sender.SentAt position envelope →
    envelope.ratchetKey ≠ receiver.ratchet.theirDhPub →
      envelope.ratchetKey ≠ sender.ratchetKey crypto →
        ∃ later ∈ sender.delivered, position < later ∧ ∃ other,
          sender.SentAt later other ∧ other.ratchetKey ≠ envelope.ratchetKey
  newest : ∀ first second envelope other, sender.SentAt first envelope →
    sender.SentAt second other → envelope.ratchetKey ≠ sender.ratchetKey crypto →
      other.ratchetKey = sender.ratchetKey crypto → first < second
  within : ∀ position ∈ sender.delivered, position < sender.sent.length
  known : ∀ position envelope, sender.SentAt position envelope →
    envelope.ratchetKey ∈ sender.drawn
  chains : ∀ ratchetKey ∈ receiver.ratchet.receivingChains, ratchetKey ∈ sender.drawn
  present : sender.ratchetKey crypto ∈ sender.drawn

/-- The two sides agree: what the leader sends on is what the follower will derive once it
receives a message under the leader's ratchet key, which it has not seen yet. -/
structure Synced (leader follower : Side) (leaderSeed followerSeed heldSeed : Key) : Prop where
  knows : leader.ratchet.theirDhPub = follower.ratchetKey crypto
  unseen : leader.ratchetKey crypto ∉ follower.ratchet.receivingChains
  root : kdfRk crypto follower.ratchet.rootKey
    (crypto.diffieHellman follower.ratchet.ourDhPriv (leader.ratchetKey crypto)) =
      (leader.ratchet.rootKey, leaderSeed)
  leaderSends : Sends crypto leader leaderSeed
  followerSends : Sends crypto follower followerSeed
  leaderFlow : Flow crypto leader follower heldSeed
  followerFlow : Flow crypto follower leader followerSeed
  undelivered : ∀ position ∈ leader.delivered, ∀ envelope,
    leader.SentAt position envelope → envelope.ratchetKey ≠ leader.ratchetKey crypto

variable {crypto}

/-- Nothing was sent yet. -/
theorem Sends.of_nil {sender : Side} {seed : Key} (silent : sender.sent = [])
    (start : sender.ratchet.sendingChain = Chain.start seed) : Sends crypto sender seed where
  key := by rw [start]; rfl
  carried := by simp [silent]

/-- The ratchet key of a chain the receiver holds is one the sender has had. -/
theorem Flow.theirDhPub_mem {sender receiver : Side} {seed : Key}
    (flow : Flow crypto sender receiver seed) :
    receiver.ratchet.theirDhPub ∈ receiver.ratchet.receivingChains := by
  obtain ⟨chain, used, _, held, _⟩ := flow.held
  exact AList.lookup_isSome.mp (by rw [held]; rfl)

/-- The direction from the sender reads only the receiving chains of the receiver. -/
theorem Flow.congr_receiver {sender receiver other : Side} {seed : Key}
    (flow : Flow crypto sender receiver seed)
    (receivingChains : other.ratchet.receivingChains = receiver.ratchet.receivingChains)
    (theirDhPub : other.ratchet.theirDhPub = receiver.ratchet.theirDhPub) :
    Flow crypto sender other seed := by
  obtain ⟨held, carried, distinct, passed, newest, within, known, chains, present⟩ := flow
  rw [← receivingChains] at held chains
  rw [← theirDhPub] at held carried passed
  exact ⟨held, carried, distinct, passed, newest, within, known, chains, present⟩

/-! ### Encrypting -/

variable (crypto) in
/-- An `encrypt` advances the sending chain, and puts at most one envelope on the wire. -/
theorem Side.encrypt_cases (side : Side) (plaintext : Bytes) (nonce : Nonce)
    (bounded : side.ratchet.sendingChain.messageNumber + 1 < u32Bound - 1) :
    ∃ appended, side.encrypt crypto plaintext nonce =
        { side with
          ratchet := { side.ratchet with sendingChain :=
            { side.ratchet.sendingChain with
              key := Chain.nextKey crypto side.ratchet.sendingChain.key
              messageNumber := side.ratchet.sendingChain.messageNumber + 1 } }
          sent := side.sent ++ appended } ∧
      (appended = [] ∨ ∃ envelope, appended = [envelope] ∧
        envelope.number = side.ratchet.sendingChain.messageNumber + 1 ∧
        envelope.ratchetKey = side.ratchetKey crypto ∧
        crypto.aeadEncrypt (Chain.outputKey crypto side.ratchet.sendingChain.key) envelope.nonce
          envelope.plaintext = some envelope.ciphertext) := by
  have step := Chain.advance_eq crypto side.ratchet.sendingChain (by omega)
  simp only [Side.encrypt, DoubleRatchet.encrypt, step, Primitives.encrypt]
  cases sealing : crypto.aeadEncrypt (Chain.outputKey crypto side.ratchet.sendingChain.key) nonce
      plaintext with
  | none => exact ⟨[], by simp, Or.inl rfl⟩
  | some ciphertext => exact ⟨_, rfl, Or.inr ⟨_, rfl, rfl, rfl, sealing⟩⟩

theorem sentAt_append {sent : List Envelope} {position : Nat} {added envelope : Envelope} :
    (sent ++ [added])[position]? = some envelope ↔
      sent[position]? = some envelope ∨ (position = sent.length ∧ envelope = added) := by
  by_cases old : position < sent.length
  · rw [List.getElem?_append_left old]
    exact ⟨Or.inl, fun either => either.resolve_right fun last => by omega⟩
  · have beyond : sent[position]? = none := List.getElem?_eq_none (not_lt.mp old)
    rw [List.getElem?_append_right (not_lt.mp old), beyond]
    by_cases last : position = sent.length
    · simp [last, eq_comm]
    · rw [List.getElem?_eq_none (by simp only [List.length_singleton]; omega)]
      simp [last]

/-- An envelope whose number is new under its ratchet key can be appended. -/
theorem sentAt_append_distinct {sent : List Envelope} {added : Envelope}
    (distinct : ∀ (first second : Nat) (envelope other : Envelope), sent[first]? = some envelope →
      sent[second]? = some other → envelope.ratchetKey = other.ratchetKey →
        envelope.number = other.number → first = second)
    (fresh : ∀ (position : Nat) (envelope : Envelope), sent[position]? = some envelope →
      envelope.ratchetKey = added.ratchetKey → envelope.number ≠ added.number)
    {first second : Nat} {envelope other : Envelope}
    (firstSent : (sent ++ [added])[first]? = some envelope)
    (secondSent : (sent ++ [added])[second]? = some other)
    (under : envelope.ratchetKey = other.ratchetKey) (equal : envelope.number = other.number) :
    first = second := by
  rcases sentAt_append.mp firstSent with firstOld | ⟨firstLast, rfl⟩ <;>
    rcases sentAt_append.mp secondSent with secondOld | ⟨secondLast, rfl⟩
  · exact distinct first second envelope other firstOld secondOld under equal
  · exact absurd equal (fresh first envelope firstOld under)
  · exact absurd equal.symm (fresh second other secondOld under.symm)
  · rw [firstLast, secondLast]

/-- What is appended is not delivered yet. -/
theorem Side.deliveredNumbers_append {sender other : Side} {added : Envelope}
    (sent : other.sent = sender.sent ++ [added]) (delivered : other.delivered = sender.delivered)
    (within : ∀ position ∈ sender.delivered, position < sender.sent.length) (ratchetKey : Key) :
    other.deliveredNumbers ratchetKey = sender.deliveredNumbers ratchetKey := by
  unfold Side.deliveredNumbers Side.SentAt
  rw [sent, delivered]
  ext value
  constructor
  · rintro ⟨position, member, envelope, found, under, equal⟩
    refine ⟨position, member, envelope, (sentAt_append.mp found).resolve_right ?_, under, equal⟩
    exact fun last => (within position member).ne last.1
  · rintro ⟨position, member, envelope, found, under, equal⟩
    exact ⟨position, member, envelope, sentAt_append.mpr (Or.inl found), under, equal⟩

/-- Sending on the chain keeps it on the chain. -/
theorem Sends.encrypt {sender : Side} {seed : Key} (sends : Sends crypto sender seed)
    (plaintext : Bytes) (nonce : Nonce)
    (bounded : sender.ratchet.sendingChain.messageNumber + 1 < u32Bound - 1) :
    Sends crypto (sender.encrypt crypto plaintext nonce) seed := by
  obtain ⟨appended, result, envelopes⟩ :=
    Side.encrypt_cases crypto sender plaintext nonce bounded
  rw [result]
  refine ⟨?_, ?_⟩
  · show Chain.nextKey crypto sender.ratchet.sendingChain.key = _
    rw [sends.key, ← Chain.chainKeyAt_succ]
  · intro position envelope sent same
    rcases envelopes with rfl | ⟨added, rfl, number, _, sealed⟩
    · rw [Side.SentAt, List.append_nil] at sent
      obtain ⟨carries, bound⟩ := sends.carried position envelope sent same
      exact ⟨carries, Nat.le_succ_of_le bound⟩
    · rcases sentAt_append.mp sent with old | ⟨_, rfl⟩
      · obtain ⟨carries, bound⟩ := sends.carried position envelope old same
        exact ⟨carries, Nat.le_succ_of_le bound⟩
      · refine ⟨⟨by omega, by omega, ?_⟩, le_of_eq number⟩
        rw [number, Chain.messageKeyAt, Nat.add_sub_cancel, ← sends.key]
        exact sealed

/-- Sending leaves the direction from the sender intact: what is added comes last, under the
sender's present ratchet key and with a number above those sent under it. -/
theorem Flow.encrypt {sender receiver : Side} {seed sending : Key}
    (flow : Flow crypto sender receiver seed) (sends : Sends crypto sender sending)
    (same : receiver.ratchet.theirDhPub = sender.ratchetKey crypto → sending = seed)
    (plaintext : Bytes) (nonce : Nonce)
    (bounded : sender.ratchet.sendingChain.messageNumber + 1 < u32Bound - 1) :
    Flow crypto (sender.encrypt crypto plaintext nonce) receiver seed := by
  have sendsAfter := sends.encrypt plaintext nonce bounded
  obtain ⟨appended, result, envelopes⟩ :=
    Side.encrypt_cases crypto sender plaintext nonce bounded
  rcases envelopes with rfl | ⟨added, rfl, number, addedKey, _⟩
  · rw [result, List.append_nil]
    exact ⟨flow.held, flow.carried, flow.distinct, flow.passed, flow.newest, flow.within,
      flow.known, flow.chains, flow.present⟩
  · have fresh : ∀ position envelope, sender.SentAt position envelope →
        envelope.ratchetKey = added.ratchetKey → envelope.number ≠ added.number := by
      intro position envelope sent under
      have bound := (sends.carried position envelope sent (under.trans addedKey)).2
      omega
    have numbers (key : Key) : (sender.encrypt crypto plaintext nonce).deliveredNumbers key =
        sender.deliveredNumbers key :=
      Side.deliveredNumbers_append (by rw [result]) (by rw [result]) flow.within key
    rw [result] at sendsAfter numbers ⊢
    refine ⟨?_, ?_, ?_, ?_, ?_, ?_, ?_, flow.chains, flow.present⟩
    · rw [numbers]
      exact flow.held
    · intro position envelope sent under
      rcases sentAt_append.mp sent with old | ⟨_, rfl⟩
      · exact flow.carried position envelope old under
      · have current : receiver.ratchet.theirDhPub = sender.ratchetKey crypto := by
          rw [← under, addedKey]
        rw [← same current]
        exact (sendsAfter.carried position envelope sent addedKey).1
    · exact fun _ _ _ _ => sentAt_append_distinct flow.distinct fresh
    · intro position envelope sent notHeld notPresent
      rcases sentAt_append.mp sent with old | ⟨_, rfl⟩
      · obtain ⟨later, member, after, other, otherSent, different⟩ :=
          flow.passed position envelope old notHeld notPresent
        exact ⟨later, member, after, other, sentAt_append.mpr (Or.inl otherSent), different⟩
      · exact absurd addedKey notPresent
    · intro first second envelope other firstSent secondSent notPresent present
      rcases sentAt_append.mp firstSent with firstOld | ⟨_, rfl⟩
      · rcases sentAt_append.mp secondSent with secondOld | ⟨rfl, rfl⟩
        · exact flow.newest first second envelope other firstOld secondOld notPresent present
        · exact (List.getElem?_eq_some_iff.mp firstOld).1
      · exact absurd addedKey notPresent
    · intro position member
      have inside := flow.within position member
      rw [List.length_append]
      omega
    · intro position envelope sent
      rcases sentAt_append.mp sent with old | ⟨_, rfl⟩
      · exact flow.known position envelope old
      · rw [addedKey]
        exact flow.present

variable (crypto) in
/-- Encrypting changes neither what a side receives nor the keys it agrees on. -/
theorem Side.encrypt_frame (side : Side) (plaintext : Bytes) (nonce : Nonce)
    (bounded : side.ratchet.sendingChain.messageNumber + 1 < u32Bound - 1) :
    (side.encrypt crypto plaintext nonce).ratchet.rootKey = side.ratchet.rootKey ∧
      (side.encrypt crypto plaintext nonce).ratchet.receivingChains =
        side.ratchet.receivingChains ∧
      (side.encrypt crypto plaintext nonce).ratchet.ourDhPriv = side.ratchet.ourDhPriv ∧
      (side.encrypt crypto plaintext nonce).ratchet.theirDhPub = side.ratchet.theirDhPub := by
  obtain ⟨appended, result, _⟩ :=
    Side.encrypt_cases crypto side plaintext nonce bounded
  rw [result]
  exact ⟨rfl, rfl, rfl, rfl⟩

variable (crypto) in
theorem Side.encrypt_ratchetKey (side : Side) (plaintext : Bytes) (nonce : Nonce)
    (bounded : side.ratchet.sendingChain.messageNumber + 1 < u32Bound - 1) :
    (side.encrypt crypto plaintext nonce).ratchetKey crypto = side.ratchetKey crypto := by
  rw [Side.ratchetKey, (Side.encrypt_frame crypto side plaintext nonce bounded).2.2.1]
  rfl

/-- The follower has not turned to the leader's ratchet key. -/
theorem Synced.unseen_current {leader follower : Side} {leaderSeed followerSeed heldSeed : Key}
    (synced : Synced crypto leader follower leaderSeed followerSeed heldSeed) :
    follower.ratchet.theirDhPub ≠ leader.ratchetKey crypto := fun same =>
  synced.unseen (same ▸ synced.leaderFlow.theirDhPub_mem)

theorem Synced.encrypt_leader {leader follower : Side} {leaderSeed followerSeed heldSeed : Key}
    (synced : Synced crypto leader follower leaderSeed followerSeed heldSeed)
    (plaintext : Bytes) (nonce : Nonce)
    (bounded : leader.ratchet.sendingChain.messageNumber + 1 < u32Bound - 1) :
    Synced crypto (leader.encrypt crypto plaintext nonce) follower leaderSeed followerSeed
      heldSeed := by
  obtain ⟨rootKey, receivingChains, _, theirDhPub⟩ :=
    Side.encrypt_frame crypto leader plaintext nonce bounded
  have ratchetKey := Side.encrypt_ratchetKey crypto leader plaintext nonce bounded
  refine ⟨?_, ?_, ?_, synced.leaderSends.encrypt plaintext nonce bounded, synced.followerSends,
    ?_, synced.followerFlow.congr_receiver receivingChains theirDhPub, ?_⟩
  · rw [theirDhPub, synced.knows]
  · rw [ratchetKey]
    exact synced.unseen
  · rw [ratchetKey, rootKey]
    exact synced.root
  · exact synced.leaderFlow.encrypt synced.leaderSends
      (fun current => absurd current synced.unseen_current) plaintext nonce bounded
  · rw [ratchetKey]
    obtain ⟨appended, result, envelopes⟩ :=
      Side.encrypt_cases crypto leader plaintext nonce bounded
    rw [result]
    intro position member envelope sent
    have inside := synced.leaderFlow.within position member
    have old : leader.SentAt position envelope := by
      rw [Side.SentAt, List.getElem?_append_left inside] at sent
      exact sent
    exact synced.undelivered position member envelope old

theorem Synced.encrypt_follower {leader follower : Side} {leaderSeed followerSeed heldSeed : Key}
    (synced : Synced crypto leader follower leaderSeed followerSeed heldSeed)
    (plaintext : Bytes) (nonce : Nonce)
    (bounded : follower.ratchet.sendingChain.messageNumber + 1 < u32Bound - 1) :
    Synced crypto leader (follower.encrypt crypto plaintext nonce) leaderSeed followerSeed
      heldSeed := by
  obtain ⟨rootKey, receivingChains, ourDhPriv, theirDhPub⟩ :=
    Side.encrypt_frame crypto follower plaintext nonce bounded
  have ratchetKey := Side.encrypt_ratchetKey crypto follower plaintext nonce bounded
  refine ⟨?_, ?_, ?_, synced.leaderSends, synced.followerSends.encrypt plaintext nonce bounded,
    synced.leaderFlow.congr_receiver receivingChains theirDhPub, ?_, synced.undelivered⟩
  · rw [ratchetKey, synced.knows]
  · rw [receivingChains]
    exact synced.unseen
  · rw [rootKey, ourDhPriv]
    exact synced.root
  · exact synced.followerFlow.encrypt synced.followerSends (fun _ => rfl) plaintext nonce bounded

/-! ### Receiving under the ratchet key last seen -/

/-- Handing over an envelope under a ratchet key adds its number to those delivered. -/
theorem Side.deliveredNumbers_handOver {sender : Side} {position : Nat} {envelope : Envelope}
    (sent : sender.SentAt position envelope) :
    (sender.handOver position).deliveredNumbers envelope.ratchetKey =
      insert envelope.number (sender.deliveredNumbers envelope.ratchetKey) := by
  ext number
  constructor
  · rintro ⟨other, member, found, at_other, under, equal⟩
    rcases Finset.mem_insert.mp member with rfl | old
    · have same : envelope = found := Option.some.inj (sent.symm.trans at_other)
      exact Or.inl (by rw [same, equal])
    · exact Or.inr ⟨other, old, found, at_other, under, equal⟩
  · rintro (rfl | ⟨other, member, found, at_other, under, equal⟩)
    · exact ⟨position, Finset.mem_insert_self _ _, envelope, sent, rfl, rfl⟩
    · exact ⟨other, Finset.mem_insert_of_mem member, found, at_other, under, equal⟩

theorem Side.within_handOver {sender : Side} {position : Nat} {envelope : Envelope}
    (within : ∀ other ∈ sender.delivered, other < sender.sent.length)
    (sent : sender.SentAt position envelope) :
    ∀ other ∈ (sender.handOver position).delivered, other < sender.sent.length := by
  intro other member
  rcases Finset.mem_insert.mp member with rfl | old
  · exact (List.getElem?_eq_some_iff.mp sent).1
  · exact within other old

/-- A number that was not delivered yet is not among those delivered. -/
theorem Flow.number_fresh {sender receiver : Side} {seed : Key}
    (flow : Flow crypto sender receiver seed) {position : Nat} {envelope : Envelope}
    (sent : sender.SentAt position envelope) (once : position ∉ sender.delivered) :
    envelope.number ∉ sender.deliveredNumbers envelope.ratchetKey := by
  rintro ⟨other, member, found, at_other, under, equal⟩
  have same := flow.distinct other position found envelope at_other sent under equal
  exact once (same ▸ member)

/-- A ratchet that holds a chain which accounts for what was delivered under a ratchet key
opens an envelope sent under it that was not delivered yet. -/
theorem openWith_carried (opens : crypto.OpensSealed) {ratchet : DoubleRatchet} {seed : Key}
    {chain : Chain} {used : Nat} {window : ReceiveWindow} {accepted : Set Nat}
    {envelope : Envelope} (now : Nat)
    (held : ratchet.receivingChains.lookup envelope.ratchetKey = some (chain, used))
    (represents : chain.Represents crypto seed window)
    (fits : chain.messageNumber + 1 < u32Bound) (accounts : window.Accounts accepted)
    (carries : Carries crypto seed envelope) (fresh : envelope.number ∉ accepted)
    (near : envelope.number ≤ chain.messageNumber + Chain.maxSkip) :
    ∃ nextChain nextWindow,
      ratchet.openWith crypto envelope.number envelope.ratchetKey envelope.nonce
          envelope.ciphertext now =
        (.ok envelope.plaintext, { ratchet with
          receivingChains := ratchet.receivingChains.insert envelope.ratchetKey
            (nextChain, now) }) ∧
      nextChain.Represents crypto seed nextWindow ∧ nextChain.messageNumber + 1 < u32Bound ∧
      nextWindow.Accounts (insert envelope.number accepted) := by
  obtain ⟨nextWindow, step⟩ := accounts.accept_isSome carries.positive fresh
    (by rw [← represents.number]; exact near)
  obtain ⟨nextChain, run, nextRepresents⟩ := represents.messageKey_accept crypto fits step
  refine ⟨nextChain, nextWindow, ?_, nextRepresents, ?_, accounts.accept step⟩
  · rw [DoubleRatchet.openWith_eq crypto ratchet envelope.number envelope.ratchetKey
      envelope.nonce envelope.ciphertext now held, run]
    simp only [Except.bind, crypto.decrypt_sealed opens carries.sealed]
  · have reached := ReceiveWindow.reached_of_accept step
    have before := represents.number
    have after := nextRepresents.number
    have bounded := carries.bounded
    omega

/-- The direction from the sender reads only what it sent, what was delivered, and the keys it
has had. -/
theorem Flow.congr_sender {sender receiver : Side} {seed : Key}
    (flow : Flow crypto sender receiver seed) (other : Side) (sent : other.sent = sender.sent)
    (delivered : other.delivered = sender.delivered)
    (ratchetKey : other.ratchetKey crypto = sender.ratchetKey crypto)
    (drawn : sender.drawn ⊆ other.drawn) : Flow crypto other receiver seed := by
  obtain ⟨held, carried, distinct, passed, newest, within, known, chains, present⟩ := flow
  have numbers : ∀ key, other.deliveredNumbers key = sender.deliveredNumbers key := by
    intro key
    simp only [Side.deliveredNumbers, Side.SentAt, sent, delivered]
  rw [← numbers] at held
  simp only [Side.SentAt, ← sent, ← delivered, ← ratchetKey] at carried distinct passed newest
  simp only [Side.SentAt, ← sent, ← delivered, ← ratchetKey] at within known present
  exact ⟨held, carried, distinct, passed, newest, within,
    fun position envelope found => drawn (known position envelope found),
    fun key member => drawn (chains key member), drawn present⟩

/-- A side after it put back the chain of the current ratchet key. -/
def Side.putChain (crypto : Primitives) (receiver : Side) (chain : Chain) (now : Nat) : Side :=
  { receiver with
    ratchet := { receiver.ratchet with
      receivingChains :=
        receiver.ratchet.receivingChains.insert receiver.ratchet.theirDhPub (chain, now) }
    drawn := insert (receiver.ratchetKey crypto) receiver.drawn }

theorem Side.mem_putChain {receiver : Side} {chain : Chain} {now : Nat} {key : Key}
    (holds : receiver.ratchet.theirDhPub ∈ receiver.ratchet.receivingChains) :
    key ∈ (receiver.putChain crypto chain now).ratchet.receivingChains ↔
      key ∈ receiver.ratchet.receivingChains := by
  refine (AList.mem_insert _).trans ⟨fun either => ?_, Or.inr⟩
  rcases either with rfl | old
  · exact holds
  · exact old

/-- An envelope under the ratchet key last seen decrypts to its plaintext, and only the chain
of that key moves. -/
theorem Flow.receive_current (opens : crypto.OpensSealed) {sender receiver : Side} {seed : Key}
    (flow : Flow crypto sender receiver seed) {position : Nat} {envelope : Envelope}
    (env : Surroundings) (sent : sender.SentAt position envelope)
    (once : position ∉ sender.delivered)
    (near : envelope.number ≤ receiver.reached envelope.ratchetKey + Chain.maxSkip)
    (current : envelope.ratchetKey = receiver.ratchet.theirDhPub) :
    ∃ chain, receiver.decrypt crypto envelope env =
        (.ok envelope.plaintext, receiver.putChain crypto chain env.usedAt) ∧
      Flow crypto (sender.handOver position) (receiver.putChain crypto chain env.usedAt) seed := by
  obtain ⟨chain, used, window, held, represents, fits, accounts⟩ := flow.held
  have fresh := flow.number_fresh sent once
  rw [← current] at held accounts
  rw [Side.reached, held] at near
  obtain ⟨nextChain, nextWindow, run, nextRepresents, nextFits, nextAccounts⟩ :=
    openWith_carried opens env.usedAt held represents fits accounts
      (flow.carried position envelope sent current) fresh near
  refine ⟨nextChain, ?_, ?_⟩
  · rw [Side.decrypt, current, DoubleRatchet.decrypt_current, ← current, run]
    simp only [Side.putChain, ← current]
    rfl
  · refine ⟨⟨nextChain, env.usedAt, nextWindow, AList.lookup_insert _, nextRepresents, nextFits,
      ?_⟩, flow.carried, flow.distinct, ?_, flow.newest, Side.within_handOver flow.within sent,
      flow.known, ?_, flow.present⟩
    · show nextWindow.Accounts
        ((sender.handOver position).deliveredNumbers receiver.ratchet.theirDhPub)
      rw [← current, Side.deliveredNumbers_handOver sent]
      exact nextAccounts
    · intro other found at_other notHeld notPresent
      obtain ⟨later, member, after, rest⟩ := flow.passed other found at_other notHeld notPresent
      exact ⟨later, Finset.mem_insert_of_mem member, after, rest⟩
    · intro key member
      exact flow.chains key ((Side.mem_putChain flow.theirDhPub_mem).mp member)

/-- What can be delivered was sent under the ratchet key the receiver has last seen, or under
the present one of the sender. -/
theorem Flow.deliverable_key {sender receiver : Side} {seed : Key}
    (flow : Flow crypto sender receiver seed) {position : Nat} {envelope : Envelope}
    {env : Surroundings}
    (deliverable : Side.Deliverable crypto sender receiver position envelope env) :
    envelope.ratchetKey = receiver.ratchet.theirDhPub ∨
      envelope.ratchetKey = sender.ratchetKey crypto := by
  by_contra neither
  rw [not_or] at neither
  obtain ⟨later, member, after, other, sent, different⟩ :=
    flow.passed position envelope deliverable.genuine neither.1 neither.2
  exact different (deliverable.inOrder later member after other sent)

/-- The leader receives under the ratchet key it knows. -/
theorem Synced.leader_receives (opens : crypto.OpensSealed) {leader follower : Side}
    {leaderSeed followerSeed heldSeed : Key}
    (synced : Synced crypto leader follower leaderSeed followerSeed heldSeed) {position : Nat}
    {envelope : Envelope} (env : Surroundings) (sent : follower.SentAt position envelope)
    (once : position ∉ follower.delivered)
    (near : envelope.number ≤ leader.reached envelope.ratchetKey + Chain.maxSkip)
    (current : envelope.ratchetKey = leader.ratchet.theirDhPub) :
    ∃ chain, leader.decrypt crypto envelope env =
        (.ok envelope.plaintext, leader.putChain crypto chain env.usedAt) ∧
      Synced crypto (leader.putChain crypto chain env.usedAt) (follower.handOver position)
        leaderSeed followerSeed heldSeed := by
  obtain ⟨chain, run, flow⟩ :=
    synced.followerFlow.receive_current opens env sent once near current
  refine ⟨chain, run, synced.knows, synced.unseen, synced.root, ⟨synced.leaderSends.key,
    synced.leaderSends.carried⟩, ⟨synced.followerSends.key, synced.followerSends.carried⟩, ?_,
    flow, synced.undelivered⟩
  exact (synced.leaderFlow.congr_sender (leader.putChain crypto chain env.usedAt) rfl rfl
    rfl (Finset.subset_insert _ _)).congr_receiver rfl rfl

/-- The follower receives under the ratchet key it knows. -/
theorem Synced.follower_receives (opens : crypto.OpensSealed) {leader follower : Side}
    {leaderSeed followerSeed heldSeed : Key}
    (synced : Synced crypto leader follower leaderSeed followerSeed heldSeed) {position : Nat}
    {envelope : Envelope} (env : Surroundings) (sent : leader.SentAt position envelope)
    (once : position ∉ leader.delivered)
    (near : envelope.number ≤ follower.reached envelope.ratchetKey + Chain.maxSkip)
    (current : envelope.ratchetKey = follower.ratchet.theirDhPub) :
    ∃ chain, follower.decrypt crypto envelope env =
        (.ok envelope.plaintext, follower.putChain crypto chain env.usedAt) ∧
      Synced crypto (leader.handOver position) (follower.putChain crypto chain env.usedAt)
        leaderSeed followerSeed heldSeed := by
  obtain ⟨chain, run, flow⟩ :=
    synced.leaderFlow.receive_current opens env sent once near current
  refine ⟨chain, run, synced.knows, ?_, synced.root, ⟨synced.leaderSends.key,
    synced.leaderSends.carried⟩, ⟨synced.followerSends.key, synced.followerSends.carried⟩, flow,
    ?_, ?_⟩
  · exact fun member => synced.unseen ((Side.mem_putChain synced.leaderFlow.theirDhPub_mem).mp member)
  · exact (synced.followerFlow.congr_sender (follower.putChain crypto chain env.usedAt)
      rfl rfl rfl (Finset.subset_insert _ _)).congr_receiver rfl rfl
  · intro other member found at_other
    rcases Finset.mem_insert.mp member with rfl | old
    · have same : envelope = found := Option.some.inj (sent.symm.trans at_other)
      rw [← same, current]
      exact synced.unseen_current
    · exact synced.undelivered other old found at_other

/-! ### Turning the ratchet -/

/-- Nothing was delivered under a ratchet key the receiver has not seen. -/
theorem Synced.deliveredNumbers_leader {leader follower : Side}
    {leaderSeed followerSeed heldSeed : Key}
    (synced : Synced crypto leader follower leaderSeed followerSeed heldSeed) :
    leader.deliveredNumbers (leader.ratchetKey crypto) = ∅ := by
  refine Set.eq_empty_of_forall_notMem ?_
  rintro number ⟨position, member, envelope, sent, under, _⟩
  exact synced.undelivered position member envelope sent under

/-- The ratchet step of the follower arrives at the root key of the leader, and then goes one
step beyond it. -/
theorem Synced.dhRatchetStep_eq {leader follower : Side} {leaderSeed followerSeed heldSeed : Key}
    (synced : Synced crypto leader follower leaderSeed followerSeed heldSeed)
    (env : Surroundings) :
    follower.ratchet.dhRatchetStep crypto (leader.ratchetKey crypto) env =
      { rootKey := (kdfRk crypto leader.ratchet.rootKey
          (crypto.diffieHellman env.freshSecret (leader.ratchetKey crypto))).1
        sendingChain := Chain.start (kdfRk crypto leader.ratchet.rootKey
          (crypto.diffieHellman env.freshSecret (leader.ratchetKey crypto))).2
        receivingChains := DoubleRatchet.insertReceivingChain follower.ratchet.receivingChains
          (leader.ratchetKey crypto) leaderSeed env.insertedAt env.order
        ourDhPriv := env.freshSecret
        theirDhPub := leader.ratchetKey crypto } := by
  simp only [DoubleRatchet.dhRatchetStep, synced.root]

/-- A sender whose present key the receiver knows may turn to one under which it has sent nothing:
what it sent so far stays deliverable. -/
theorem Flow.renew {sender receiver other : Side} {seed : Key}
    (flow : Flow crypto sender receiver seed)
    (knows : receiver.ratchet.theirDhPub = sender.ratchetKey crypto)
    (sent : other.sent = sender.sent) (delivered : other.delivered = sender.delivered)
    (unused : ∀ position envelope, sender.SentAt position envelope →
      envelope.ratchetKey ≠ other.ratchetKey crypto)
    (drawn : sender.drawn ⊆ other.drawn) (present : other.ratchetKey crypto ∈ other.drawn) :
    Flow crypto other receiver seed := by
  have numbers : ∀ key, other.deliveredNumbers key = sender.deliveredNumbers key := by
    intro key
    simp only [Side.deliveredNumbers, Side.SentAt, sent, delivered]
  obtain ⟨held, carried, distinct, passed, _, within, known, chains, _⟩ := flow
  rw [← numbers] at held
  simp only [Side.SentAt, ← sent, ← delivered] at carried distinct passed within known unused
  refine ⟨held, carried, distinct, fun position envelope found notKnown _ => ?_,
    fun _ second _ other _ at_second _ isPresent => ?_, within,
    fun position envelope found => drawn (known position envelope found),
    fun key member => drawn (chains key member), present⟩
  · exact passed position envelope found notKnown (knows ▸ notKnown)
  · exact absurd isPresent (unused second other at_second)

/-- A receiver that turns to the sender's present ratchet key, and opens an envelope sent under it,
receives on the sender's chain from then on. -/
theorem Flow.turn {sender receiver next : Side} {seed sending : Key}
    (flow : Flow crypto sender receiver seed) (sends : Sends crypto sender sending)
    {position : Nat} {envelope : Envelope} (sent : sender.SentAt position envelope)
    (newest : envelope.ratchetKey = sender.ratchetKey crypto)
    (turned : next.ratchet.theirDhPub = sender.ratchetKey crypto)
    (inserted : ∀ key ∈ next.ratchet.receivingChains,
      key = sender.ratchetKey crypto ∨ key ∈ receiver.ratchet.receivingChains)
    (held : ∃ chain used window,
      next.ratchet.receivingChains.lookup (sender.ratchetKey crypto) = some (chain, used) ∧
        chain.Represents crypto sending window ∧ chain.messageNumber + 1 < u32Bound ∧
          window.Accounts ((sender.handOver position).deliveredNumbers
            (sender.ratchetKey crypto))) :
    Flow crypto (sender.handOver position) next sending := by
  refine ⟨turned.symm ▸ held, fun other found at_other under =>
    (sends.carried other found at_other (under.trans turned)).1, flow.distinct, ?_, flow.newest,
    Side.within_handOver flow.within sent, flow.known, fun key member => ?_, flow.present⟩
  · intro other found at_other notCurrent _
    rw [turned] at notCurrent
    by_cases heldBefore : found.ratchetKey = receiver.ratchet.theirDhPub
    · refine ⟨position, Finset.mem_insert_self _ _,
        flow.newest other position found envelope at_other sent notCurrent newest, envelope, sent,
        ?_⟩
      rw [newest]
      exact Ne.symm notCurrent
    · obtain ⟨later, member, after, rest⟩ :=
        flow.passed other found at_other heldBefore notCurrent
      exact ⟨later, Finset.mem_insert_of_mem member, after, rest⟩
  · rcases inserted key member with rfl | old
    · exact flow.present
    · exact flow.chains key old

/-- When the follower receives under the leader's ratchet key, it takes the lead. -/
theorem Synced.follower_turns (commutes : crypto.DiffieHellmanCommutes)
    (opens : crypto.OpensSealed) {leader follower : Side} {leaderSeed followerSeed heldSeed : Key}
    (synced : Synced crypto leader follower leaderSeed followerSeed heldSeed) {position : Nat}
    {envelope : Envelope} (env : Surroundings) (sent : leader.SentAt position envelope)
    (near : envelope.number ≤ follower.reached envelope.ratchetKey + Chain.maxSkip)
    (newest : envelope.ratchetKey = leader.ratchetKey crypto)
    (fresh : crypto.publicKey env.freshSecret ∉ follower.drawn) :
    ∃ next seed, follower.decrypt crypto envelope env = (.ok envelope.plaintext, next) ∧
      Synced crypto next (leader.handOver position) seed leaderSeed followerSeed := by
  have notHeld : follower.ratchet.receivingChains.lookup envelope.ratchetKey = none := by
    rw [newest]
    exact AList.lookup_eq_none.mpr synced.unseen
  have turns : follower.ratchet.theirDhPub ≠ envelope.ratchetKey := by
    rw [newest]
    exact synced.unseen_current
  have unused : ∀ other found, follower.SentAt other found →
      found.ratchetKey ≠ crypto.publicKey env.freshSecret := by
    intro other found at_other same
    exact fresh (same ▸ synced.followerFlow.known other found at_other)
  rw [Side.reached, notHeld] at near
  have held : (follower.ratchet.dhRatchetStep crypto envelope.ratchetKey
      env).receivingChains.lookup envelope.ratchetKey =
        some (Chain.start leaderSeed, env.insertedAt) := by
    rw [newest, synced.dhRatchetStep_eq]
    exact DoubleRatchet.lookup_insertReceivingChain_self _ _ _ _ _
  obtain ⟨chain, window, run, represents, fits, accounts⟩ :=
    openWith_carried opens env.usedAt held (Chain.represents_start crypto leaderSeed)
      (by show 0 + 1 < 2 ^ 32; omega) ReceiveWindow.accounts_empty
      (synced.leaderSends.carried position envelope sent newest).1 (Set.notMem_empty _) near
  refine ⟨_, (kdfRk crypto leader.ratchet.rootKey
      (crypto.diffieHellman env.freshSecret (leader.ratchetKey crypto))).2,
    by rw [Side.decrypt, DoubleRatchet.decrypt_turn crypto _ _ _ _ _ _ turns, run], ?_⟩
  simp only [newest, synced.dhRatchetStep_eq]
  refine ⟨rfl, ?_, ?_, ?_, ⟨synced.leaderSends.key, synced.leaderSends.carried⟩, ?_, ?_, ?_⟩
  · exact fun member => fresh (synced.followerFlow.chains _ member)
  · show kdfRk crypto leader.ratchet.rootKey
      (crypto.diffieHellman leader.ratchet.ourDhPriv (crypto.publicKey env.freshSecret)) = _
    rw [commutes]
    rfl
  · refine ⟨rfl, fun other found at_other under => absurd under (unused other found at_other)⟩
  · refine Flow.congr_receiver (?_ : Flow crypto _ leader _) rfl rfl
    exact synced.followerFlow.renew synced.knows rfl rfl unused (Finset.subset_insert _ _)
      (Finset.mem_insert_self _ _)
  · refine synced.leaderFlow.turn synced.leaderSends sent newest rfl (fun key member => ?_)
      ⟨chain, env.usedAt, window, AList.lookup_insert _, represents, fits, ?_⟩
    · rcases (AList.mem_insert _).mp member with same | there
      · exact Or.inl same
      · exact DoubleRatchet.mem_of_mem_insertReceivingChain there
    · rw [← newest, Side.deliveredNumbers_handOver sent, newest, synced.deliveredNumbers_leader]
      exact accounts
  · intro other _ found at_other
    exact unused other found at_other

/-! ### Runs -/

/-- One side leads. -/
def World.Agreed (crypto : Primitives) (world : World) : Prop :=
  ∃ leader leaderSeed followerSeed heldSeed,
    Synced crypto (world leader) (world leader.other) leaderSeed followerSeed heldSeed

/-- Before anything is sent, the receiver holds the one chain it was built with. -/
theorem Flow.of_new {sender receiver : Side} {seed : Key} (now : Nat)
    (silent : sender.sent = []) (undelivered : sender.delivered = ∅)
    (built : receiver.ratchet.receivingChains = DoubleRatchet.insertReceivingChain ∅
      receiver.ratchet.theirDhPub seed now default)
    (known : receiver.ratchet.theirDhPub ∈ sender.drawn)
    (present : sender.ratchetKey crypto ∈ sender.drawn) : Flow crypto sender receiver seed where
  held := by
    have none : sender.deliveredNumbers receiver.ratchet.theirDhPub = ∅ := by
      simp [Side.deliveredNumbers, undelivered]
    refine ⟨Chain.start seed, now, ReceiveWindow.empty, ?_, Chain.represents_start crypto seed,
      by show 0 + 1 < 2 ^ 32; omega, ?_⟩
    · rw [built]
      exact DoubleRatchet.lookup_insertReceivingChain_self _ _ _ _ _
    · rw [none]
      exact ReceiveWindow.accounts_empty
  carried := by simp [Side.SentAt, silent]
  distinct := by simp [Side.SentAt, silent]
  passed := by simp [Side.SentAt, silent]
  newest := by simp [Side.SentAt, silent]
  within := by simp [undelivered]
  known := by simp [Side.SentAt, silent]
  chains := by
    intro key member
    rw [built] at member
    rcases DoubleRatchet.mem_of_mem_insertReceivingChain member with rfl | old
    · exact known
    · exact absurd old (AList.notMem_empty key)
  present := present

/-- After the pre-ratchet the initiator leads. -/
theorem World.Start.agreed (commutes : crypto.DiffieHellmanCommutes) {world : World}
    (start : World.Start crypto world) : world.Agreed crypto := by
  obtain ⟨sharedSecret, initiatorSecret, responderSecret, freshSecret, first, second, initiator,
    responder, builtInitiator, builtResponder, fresh⟩ := start
  simp only [DoubleRatchet.new, Primitives.deriveKey_eq, Except.ok.injEq] at builtInitiator
  simp only [DoubleRatchet.new, Primitives.deriveKey_eq, Except.ok.injEq] at builtResponder
  subst builtInitiator builtResponder
  refine ⟨.initiator, (kdfRk crypto sharedSecret (crypto.diffieHellman freshSecret
      (crypto.publicKey responderSecret))).2,
    crypto.hkdf none sharedSecret.toList (ascii "init-chain") 32,
    crypto.hkdf none sharedSecret.toList (ascii "init-chain") 32, rfl, ?_, ?_,
    Sends.of_nil rfl rfl, Sends.of_nil rfl rfl, ?_, ?_, ?_⟩
  · intro member
    rcases DoubleRatchet.mem_of_mem_insertReceivingChain member with same | old
    · exact fresh same
    · exact absurd old (AList.notMem_empty _)
  · show kdfRk crypto sharedSecret
      (crypto.diffieHellman responderSecret (crypto.publicKey freshSecret)) = _
    rw [commutes]
    rfl
  · exact Flow.of_new second rfl rfl rfl
      (Finset.mem_insert_of_mem (Finset.mem_singleton_self _)) (Finset.mem_insert_self _ _)
  · exact Flow.of_new first rfl rfl rfl (Finset.mem_singleton_self _)
      (Finset.mem_singleton_self _)
  · simp [Side.start]

/-- Whoever leads, an envelope that may be delivered decrypts to its plaintext, and the two
sides agree afterwards. -/
theorem World.Agreed.deliver (commutes : crypto.DiffieHellmanCommutes)
    (opens : crypto.OpensSealed) {world : World} (agreed : world.Agreed crypto)
    {receiver : Party} {position : Nat} {envelope : Envelope} {env : Surroundings}
    (deliverable : Side.Deliverable crypto (world receiver.other) (world receiver) position
      envelope env) :
    ((world receiver).decrypt crypto envelope env).1 = .ok envelope.plaintext ∧
      (world.deliver crypto receiver position envelope env).Agreed crypto := by
  obtain ⟨leader, leaderSeed, followerSeed, heldSeed, synced⟩ := agreed
  rcases receiver.eq_or_eq_other leader with rfl | rfl
  · have current : envelope.ratchetKey = (world receiver).ratchet.theirDhPub := by
      rcases synced.followerFlow.deliverable_key deliverable with current | present
      · exact current
      · rw [present, synced.knows]
    obtain ⟨chain, run, next⟩ := synced.leader_receives opens env deliverable.genuine
      deliverable.once deliverable.near current
    refine ⟨by rw [run], receiver, leaderSeed, followerSeed, heldSeed, ?_⟩
    rw [World.deliver_receiver, World.deliver_sender, run]
    exact next
  · rw [Party.other_other] at deliverable
    have sender := World.deliver_sender crypto world leader.other position envelope env
    rw [Party.other_other] at sender
    rcases synced.leaderFlow.deliverable_key deliverable with current | newest
    · obtain ⟨chain, run, next⟩ := synced.follower_receives opens env deliverable.genuine
        deliverable.once deliverable.near current
      refine ⟨by rw [run], leader, leaderSeed, followerSeed, heldSeed, ?_⟩
      rw [sender, World.deliver_receiver, run]
      exact next
    · have turns : (world leader.other).ratchet.theirDhPub ≠ envelope.ratchetKey := by
        rw [newest]
        exact synced.unseen_current
      obtain ⟨next, seed, run, nextSynced⟩ := synced.follower_turns commutes opens env
        deliverable.genuine deliverable.near newest (deliverable.fresh turns)
      refine ⟨by rw [run], leader.other, seed, leaderSeed, followerSeed, ?_⟩
      rw [World.deliver_receiver, Party.other_other, sender, run]
      exact nextSynced

theorem World.Agreed.encrypt {world : World} (agreed : world.Agreed crypto) (party : Party)
    (plaintext : Bytes) (nonce : Nonce)
    (bounded : (world party).ratchet.sendingChain.messageNumber + 1 < u32Bound - 1) :
    (world.encrypt crypto party plaintext nonce).Agreed crypto := by
  obtain ⟨leader, leaderSeed, followerSeed, heldSeed, synced⟩ := agreed
  refine ⟨leader, leaderSeed, followerSeed, heldSeed, ?_⟩
  rcases party.eq_or_eq_other leader with rfl | rfl
  · rw [World.encrypt_self, World.encrypt_other crypto world party.other_ne]
    exact synced.encrypt_leader plaintext nonce bounded
  · rw [World.encrypt_self, World.encrypt_other crypto world (Ne.symm leader.other_ne)]
    exact synced.encrypt_follower plaintext nonce bounded

/-- Agreement is an invariant of every run. -/
theorem World.Agreed.run (commutes : crypto.DiffieHellmanCommutes) (opens : crypto.OpensSealed)
    {first last : World} (agreed : first.Agreed crypto)
    (run : Relation.ReflTransGen (World.Step crypto) first last) : last.Agreed crypto := by
  refine Run.preserves ?_ agreed run
  intro before after holds step
  cases step with
  | encrypt party plaintext nonce bounded => exact holds.encrypt party plaintext nonce bounded
  | deliver receiver position envelope env deliverable =>
    exact (holds.deliver commutes opens deliverable).2

end Invariant

/-- Two ratchets built from one shared secret and each other's first ratchet key agree: in
every run, whatever either side encrypts and the network delivers decrypts to the plaintext
that was encrypted. -/
theorem ratchets_agree (crypto : Primitives) (commutes : crypto.DiffieHellmanCommutes)
    (opens : crypto.OpensSealed) {first last : World} (start : World.Start crypto first)
    (run : Relation.ReflTransGen (World.Step crypto) first last) (receiver : Party)
    (position : Nat) (envelope : Envelope) (env : Surroundings)
    (deliverable : Side.Deliverable crypto (last receiver.other) (last receiver) position envelope
      env) :
    ((last receiver).decrypt crypto envelope env).1 = .ok envelope.plaintext :=
  (((start.agreed commutes).run commutes opens run).deliver commutes opens deliverable).1

/-! ### A conversation over the sample suite -/

/-- A ratchet over the sample suite, as `new` builds it. -/
def sampleBuilt (ourSecret theirSecret : Nat) : DoubleRatchet where
  rootKey := SampleSuite.octets 32 7
  sendingChain := Chain.start (sampleSuite.hkdf none (SampleSuite.octets 32 7).toList
    (ascii "init-chain") 32)
  receivingChains := DoubleRatchet.insertReceivingChain ∅
    (sampleSuite.publicKey (SampleSuite.octets 32 theirSecret))
    (sampleSuite.hkdf none (SampleSuite.octets 32 7).toList (ascii "init-chain") 32) 0 default
  ourDhPriv := SampleSuite.octets 32 ourSecret
  theirDhPub := sampleSuite.publicKey (SampleSuite.octets 32 theirSecret)

/-- The two sides before anything is sent. -/
def sampleStart : World
  | .initiator => Side.start
      ((sampleBuilt 1 2).initiatorPreRatchet sampleSuite (SampleSuite.octets 32 3))
      {sampleSuite.publicKey (SampleSuite.octets 32 3),
        sampleSuite.publicKey (SampleSuite.octets 32 1)}
  | .responder => Side.start (sampleBuilt 2 1) {sampleSuite.publicKey (SampleSuite.octets 32 2)}

theorem sampleStart_start : World.Start sampleSuite sampleStart :=
  .intro (SampleSuite.octets 32 7) (SampleSuite.octets 32 1) (SampleSuite.octets 32 2)
    (SampleSuite.octets 32 3) 0 0 (sampleBuilt 1 2) (sampleBuilt 2 1) rfl rfl (by decide)

/-- The outside of a call in which the secret is drawn. -/
def drawing (secret : Nat) : Surroundings where
  freshSecret := SampleSuite.octets 32 secret
  insertedAt := 0
  order := default
  usedAt := 0

/-- The initiator has sent one message. -/
def sampleGreeting : World :=
  sampleStart.encrypt sampleSuite .initiator [104, 105] (Octets.zero 12)

theorem sampleGreeting_run :
    Relation.ReflTransGen (World.Step sampleSuite) sampleStart sampleGreeting :=
  .single (.encrypt sampleStart .initiator [104, 105] (Octets.zero 12) (by decide))

/-- The initiator has said two more things, and the responder one. -/
def sampleTalk : World :=
  ((sampleGreeting.encrypt sampleSuite .initiator [2] (Octets.zero 12)).encrypt sampleSuite
    .initiator [3] (Octets.zero 12)).encrypt sampleSuite .responder [4] (Octets.zero 12)

/-- Of the three the last has come first, and what the responder said has come as well. -/
def sampleReordered : World :=
  let heard := sampleTalk.deliver sampleSuite .responder 2 (sampleTalk.envelope .initiator 2)
    (drawing 4)
  heard.deliver sampleSuite .initiator 0 (heard.envelope .responder 0) (drawing 5)

/-- The responder has answered. -/
def sampleReply : World := sampleReordered.encrypt sampleSuite .responder [5] (Octets.zero 12)

theorem sampleReply_run :
    Relation.ReflTransGen (World.Step sampleSuite) sampleStart sampleReply := by
  have talk : Relation.ReflTransGen (World.Step sampleSuite) sampleStart sampleTalk :=
    ((sampleGreeting_run.tail (.encrypt _ .initiator [2] (Octets.zero 12) (by decide +kernel))).tail
      (.encrypt _ .initiator [3] (Octets.zero 12) (by decide +kernel))).tail
        (.encrypt _ .responder [4] (Octets.zero 12) (by decide +kernel))
  refine ((talk.tail (.deliver _ .responder 2 _ (drawing 4) ?_)).tail
    (.deliver _ .initiator 0 _ (drawing 5) ?_)).tail (.encrypt _ .responder [5] (Octets.zero 12) ?_)
  all_goals decide +kernel

/-- Then the first of the three decrypts, though the second is lost, and so does the answer. -/
theorem sampleReply_decrypts :
    ((sampleReply .responder).decrypt sampleSuite (sampleReply.envelope .initiator 0)
      (drawing 6)).1 = .ok [104, 105] ∧
    ((sampleReply .initiator).decrypt sampleSuite (sampleReply.envelope .responder 1)
      (drawing 6)).1 = .ok [5] := by
  have agree := ratchets_agree sampleSuite SampleSuite.diffieHellmanCommutes
    SampleSuite.opensSealed sampleStart_start sampleReply_run
  have first := agree .responder 0 (sampleReply.envelope .initiator 0) (drawing 6)
    (by decide +kernel)
  have answer := agree .initiator 1 (sampleReply.envelope .responder 1) (drawing 6)
    (by decide +kernel)
  rw [first, answer]
  decide +kernel

end Insub
