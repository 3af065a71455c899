/-
This file proves that two double ratchets agree on messages that arrive in sending order, as long
as their numbers last. What is under way from a side continues, without a gap, the chain that the
other side receives on. The side that leads may have more behind it, under a ratchet key that the
follower has not seen. When the follower has received all before, it turns its ratchet and leads.

Nothing is skipped here, so a chain may be used up to its last number, and a ratchet key need only
differ from the one it replaces.
-/

import Mathlib
import Insub.Crypto.Agreement

namespace Insub

open Rust

section InOrder

variable (crypto : Primitives)

/-- Envelopes under one ratchet key, with the numbers that follow the first one up to the last,
each sealed under the key its number has on the chain started at the seed. -/
inductive Consecutive (seed ratchetKey : Key) : Nat → List Envelope → Nat → Prop
  | nil (number : Nat) : Consecutive seed ratchetKey number [] number
  | cons {number last : Nat} {envelope : Envelope} {rest : List Envelope}
      (counted : envelope.number = number + 1) (fits : number + 1 < u32Bound)
      (under : envelope.ratchetKey = ratchetKey)
      (sealed : crypto.aeadEncrypt (Chain.messageKeyAt crypto seed (number + 1)) envelope.nonce
        envelope.plaintext = some envelope.ciphertext)
      (following : Consecutive seed ratchetKey (number + 1) rest last) :
      Consecutive seed ratchetKey number (envelope :: rest) last

/-- What is under way continues the chain the ratchet receives on. -/
def Continues (receiver : DoubleRatchet) (seed : Key) (envelopes : List Envelope) (last : Nat) :
    Prop :=
  ∃ chain used, receiver.receivingChains.lookup receiver.theirDhPub = some (chain, used) ∧
    chain.key = Chain.chainKeyAt crypto seed chain.messageNumber ∧
      Consecutive crypto seed receiver.theirDhPub chain.messageNumber envelopes last

/-- The ratchet sends on the chain started at the seed. -/
def SendsOn (ratchet : DoubleRatchet) (seed : Key) : Prop :=
  ratchet.sendingChain.key = Chain.chainKeyAt crypto seed ratchet.sendingChain.messageNumber

/-- The two ratchets and what is under way from each. The root key of the leader is the one the
follower derives when it sees the leader's ratchet key, which it has not yet. -/
structure InStep (leader follower : DoubleRatchet) (fromLeader fromFollower : List Envelope)
    (leaderSeed followerSeed : Key) : Prop where
  knows : leader.theirDhPub = crypto.publicKey follower.ourDhPriv
  unseen : crypto.publicKey leader.ourDhPriv ≠ follower.theirDhPub
  root : kdfRk crypto follower.rootKey
    (crypto.diffieHellman follower.ourDhPriv (crypto.publicKey leader.ourDhPriv)) =
      (leader.rootKey, leaderSeed)
  leaderSends : SendsOn crypto leader leaderSeed
  followerSends : SendsOn crypto follower followerSeed
  toLeader : Continues crypto leader followerSeed fromFollower follower.sendingChain.messageNumber
  toFollower : ∃ heldSeed last old new, fromLeader = old ++ new ∧
    Continues crypto follower heldSeed old last ∧
      Consecutive crypto leaderSeed (crypto.publicKey leader.ourDhPriv) 0 new
        leader.sendingChain.messageNumber

variable {crypto}

/-! ### Sending -/

theorem Consecutive.concat {seed ratchetKey : Key} {number last : Nat} {envelopes : List Envelope}
    (run : Consecutive crypto seed ratchetKey number envelopes last) {envelope : Envelope}
    (counted : envelope.number = last + 1) (fits : last + 1 < u32Bound)
    (under : envelope.ratchetKey = ratchetKey)
    (sealed : crypto.aeadEncrypt (Chain.messageKeyAt crypto seed (last + 1)) envelope.nonce
      envelope.plaintext = some envelope.ciphertext) :
    Consecutive crypto seed ratchetKey number (envelopes ++ [envelope]) (last + 1) := by
  induction run with
  | nil number => exact .cons counted fits under sealed (.nil _)
  | cons headCounted headFits headUnder headSealed _ inductionHypothesis =>
    exact .cons headCounted headFits headUnder headSealed (inductionHypothesis counted fits sealed)

/-- A message is sealed under the next key of the sending chain, which moves on. -/
theorem DoubleRatchet.encrypt_ok {ratchet next : DoubleRatchet} {envelope : Envelope} {nonce : Nonce}
    (run : ratchet.encrypt crypto envelope.plaintext nonce =
      (.ok (envelope.number, envelope.ciphertext, envelope.nonce, envelope.ratchetKey), next))
    {seed : Key} (sends : SendsOn crypto ratchet seed) :
    ∃ sendingChain, next = { ratchet with sendingChain } ∧
      sendingChain.messageNumber = ratchet.sendingChain.messageNumber + 1 ∧
        sendingChain.key = Chain.chainKeyAt crypto seed sendingChain.messageNumber ∧
          envelope.number = ratchet.sendingChain.messageNumber + 1 ∧
            ratchet.sendingChain.messageNumber + 1 < u32Bound ∧
              envelope.ratchetKey = crypto.publicKey ratchet.ourDhPriv ∧
                crypto.aeadEncrypt (Chain.messageKeyAt crypto seed
                  (ratchet.sendingChain.messageNumber + 1)) envelope.nonce envelope.plaintext =
                    some envelope.ciphertext := by
  rcases addU32_cases ratchet.sendingChain.messageNumber 1 with ⟨fits, _⟩ | ⟨site, overflow⟩
  · rw [encrypt, Chain.advance_eq crypto ratchet.sendingChain fits] at run
    dsimp only [Primitives.encrypt] at run
    cases sealed : crypto.aeadEncrypt (Chain.outputKey crypto ratchet.sendingChain.key) nonce
      envelope.plaintext with
    | none =>
      rw [sealed] at run
      cases run
    | some ciphertext =>
      rw [sealed] at run
      obtain ⟨same, rfl⟩ := Prod.mk.inj run
      obtain ⟨number, same⟩ := Prod.mk.inj (Except.ok.inj same)
      obtain ⟨written, same⟩ := Prod.mk.inj same
      obtain ⟨drawn, key⟩ := Prod.mk.inj same
      refine ⟨_, rfl, rfl, ?_, number.symm, fits, key.symm, ?_⟩
      · show Chain.nextKey crypto ratchet.sendingChain.key = _
        rw [sends, ← Chain.chainKeyAt_succ]
      · rw [← drawn, ← written, ← sealed, sends]
        rfl
  · rw [encrypt, Chain.advance, Primitives.deriveKey_eq, Primitives.deriveKey_eq] at run
    dsimp only at run
    rw [overflow] at run
    cases run

theorem InStep.leader_sends {leader follower next : DoubleRatchet}
    {fromLeader fromFollower : List Envelope} {leaderSeed followerSeed : Key}
    (inStep : InStep crypto leader follower fromLeader fromFollower leaderSeed followerSeed)
    {envelope : Envelope} {nonce : Nonce}
    (run : leader.encrypt crypto envelope.plaintext nonce =
      (.ok (envelope.number, envelope.ciphertext, envelope.nonce, envelope.ratchetKey), next)) :
    InStep crypto next follower (fromLeader ++ [envelope]) fromFollower leaderSeed followerSeed := by
  obtain ⟨knows, unseen, root, leaderSends, followerSends, toLeader, heldSeed, last, old, new, rfl,
    held, ahead⟩ := inStep
  obtain ⟨sendingChain, rfl, moved, key, counted, fits, under, sealed⟩ :=
    DoubleRatchet.encrypt_ok run leaderSends
  refine ⟨knows, unseen, root, key, followerSends, toLeader, heldSeed, last, old,
    new ++ [envelope], List.append_assoc _ _ _, held, ?_⟩
  rw [moved]
  exact ahead.concat counted fits under sealed

theorem InStep.follower_sends {leader follower next : DoubleRatchet}
    {fromLeader fromFollower : List Envelope} {leaderSeed followerSeed : Key}
    (inStep : InStep crypto leader follower fromLeader fromFollower leaderSeed followerSeed)
    {envelope : Envelope} {nonce : Nonce}
    (run : follower.encrypt crypto envelope.plaintext nonce =
      (.ok (envelope.number, envelope.ciphertext, envelope.nonce, envelope.ratchetKey), next)) :
    InStep crypto leader next fromLeader (fromFollower ++ [envelope]) leaderSeed followerSeed := by
  obtain ⟨knows, unseen, root, leaderSends, followerSends, ⟨chain, used, held, chainKey, ahead⟩,
    toFollower⟩ := inStep
  obtain ⟨sendingChain, rfl, moved, key, counted, fits, under, sealed⟩ :=
    DoubleRatchet.encrypt_ok run followerSends
  refine ⟨knows, unseen, root, leaderSends, key, ⟨chain, used, held, chainKey, ?_⟩, toFollower⟩
  rw [moved]
  exact ahead.concat counted fits (under.trans knows.symm) sealed

/-! ### Receiving -/

/-- The next message of the chain opens, and the chain moves on. -/
theorem Continues.openWith (opens : crypto.OpensSealed) {receiver : DoubleRatchet} {seed : Key}
    {envelope : Envelope} {rest : List Envelope} {last : Nat}
    (continues : Continues crypto receiver seed (envelope :: rest) last) (now : Nat) :
    ∃ receivingChains,
      receiver.openWith crypto envelope.number envelope.ratchetKey envelope.nonce envelope.ciphertext
          now = (.ok envelope.plaintext, { receiver with receivingChains }) ∧
        Continues crypto { receiver with receivingChains } seed rest last := by
  obtain ⟨chain, used, held, key, consecutive⟩ := continues
  cases consecutive with
  | cons counted fits under sealed following =>
    have opened : crypto.decrypt envelope.ciphertext envelope.nonce
        (Chain.outputKey crypto chain.key) = .ok envelope.plaintext := by
      rw [key]
      exact Primitives.decrypt_sealed crypto opens sealed
    let moved : Chain := { chain with
      key := Chain.nextKey crypto chain.key, messageNumber := chain.messageNumber + 1 }
    refine ⟨receiver.receivingChains.insert receiver.theirDhPub (moved, now), ?_, moved, now,
      AList.lookup_insert _, ?_, following⟩
    · rw [under, DoubleRatchet.openWith_eq crypto receiver envelope.number receiver.theirDhPub
        envelope.nonce envelope.ciphertext now held, counted, Chain.messageKey_next crypto chain fits]
      show (crypto.decrypt envelope.ciphertext envelope.nonce _, _) = _
      rw [opened]
    · show Chain.nextKey crypto chain.key = _
      rw [key, ← Chain.chainKeyAt_succ]

/-- What arrives in order from the ratchet key last seen opens, without a turn. -/
theorem Continues.decrypt (opens : crypto.OpensSealed) {receiver : DoubleRatchet} {seed : Key}
    {envelope : Envelope} {rest : List Envelope} {last : Nat}
    (continues : Continues crypto receiver seed (envelope :: rest) last) (env : Surroundings) :
    ∃ receivingChains,
      receiver.decrypt crypto envelope.number envelope.ratchetKey envelope.nonce envelope.ciphertext
          env = (.ok envelope.plaintext, { receiver with receivingChains }) ∧
        Continues crypto { receiver with receivingChains } seed rest last := by
  obtain ⟨_, _, _, _, consecutive⟩ := id continues
  cases consecutive with
  | cons _ _ under _ _ =>
    obtain ⟨receivingChains, opened, next⟩ := continues.openWith opens env.usedAt
    refine ⟨receivingChains, ?_, next⟩
    rw [under] at opened ⊢
    rw [DoubleRatchet.decrypt_current, opened]

theorem InStep.leader_receives (opens : crypto.OpensSealed) {leader follower : DoubleRatchet}
    {fromLeader rest : List Envelope} {leaderSeed followerSeed : Key} {envelope : Envelope}
    (inStep : InStep crypto leader follower fromLeader (envelope :: rest) leaderSeed followerSeed)
    (env : Surroundings) :
    ∃ next, leader.decrypt crypto envelope.number envelope.ratchetKey envelope.nonce
        envelope.ciphertext env = (.ok envelope.plaintext, next) ∧
      InStep crypto next follower fromLeader rest leaderSeed followerSeed := by
  obtain ⟨knows, unseen, root, leaderSends, followerSends, toLeader, toFollower⟩ := inStep
  obtain ⟨receivingChains, run, toLeader⟩ := toLeader.decrypt opens env
  exact ⟨_, run, knows, unseen, root, leaderSends, followerSends, toLeader, toFollower⟩

/-- The follower that sees the leader's ratchet key turns its ratchet, and leads. -/
theorem InStep.follower_turns (commutes : crypto.DiffieHellmanCommutes) (opens : crypto.OpensSealed)
    {leader follower : DoubleRatchet} {rest fromFollower : List Envelope}
    {leaderSeed followerSeed : Key} {envelope : Envelope}
    (inStep : InStep crypto leader follower (envelope :: rest) fromFollower leaderSeed followerSeed)
    (ahead : Consecutive crypto leaderSeed (crypto.publicKey leader.ourDhPriv) 0 (envelope :: rest)
      leader.sendingChain.messageNumber) (env : Surroundings)
    (fresh : crypto.publicKey env.freshSecret ≠ crypto.publicKey follower.ourDhPriv) :
    ∃ next seed, follower.decrypt crypto envelope.number envelope.ratchetKey envelope.nonce
        envelope.ciphertext env = (.ok envelope.plaintext, next) ∧
      InStep crypto next leader fromFollower rest seed leaderSeed := by
  obtain ⟨knows, unseen, root, leaderSends, _, toLeader, _⟩ := inStep
  have under : envelope.ratchetKey = crypto.publicKey leader.ourDhPriv := by
    cases ahead with
    | cons _ _ under _ _ => exact under
  have turns : follower.theirDhPub ≠ envelope.ratchetKey := by
    rw [under]
    exact Ne.symm unseen
  let turned := follower.dhRatchetStep crypto (crypto.publicKey leader.ourDhPriv) env
  have continues : Continues crypto turned leaderSeed (envelope :: rest)
      leader.sendingChain.messageNumber := by
    refine ⟨Chain.start leaderSeed, env.insertedAt, ?_, rfl, ahead⟩
    rw [show leaderSeed = (kdfRk crypto follower.rootKey (crypto.diffieHellman follower.ourDhPriv
      (crypto.publicKey leader.ourDhPriv))).2 by rw [root]]
    exact DoubleRatchet.lookup_insertReceivingChain_self _ _ _ _ _
  obtain ⟨receivingChains, opened, following⟩ := continues.openWith opens env.usedAt
  let received := kdfRk crypto follower.rootKey
    (crypto.diffieHellman follower.ourDhPriv (crypto.publicKey leader.ourDhPriv))
  let drawn := kdfRk crypto received.1
    (crypto.diffieHellman env.freshSecret (crypto.publicKey leader.ourDhPriv))
  refine ⟨{ turned with receivingChains }, drawn.2, ?_, rfl, ?_, ?_, rfl, leaderSends,
    following, followerSeed, _, fromFollower, [], (List.append_nil _).symm, toLeader, .nil 0⟩
  · rw [DoubleRatchet.decrypt_turn crypto follower envelope.number envelope.ratchetKey
      envelope.nonce envelope.ciphertext env turns, under]
    rw [under] at opened
    exact opened
  · rw [knows]
    exact fresh
  · show kdfRk crypto leader.rootKey (crypto.diffieHellman leader.ourDhPriv
      (crypto.publicKey env.freshSecret)) = kdfRk crypto received.1 _
    rw [show received = (leader.rootKey, leaderSeed) from root, commutes]

/-- What the follower receives next opens. It follows on, or leads from then on. -/
theorem InStep.follower_receives (commutes : crypto.DiffieHellmanCommutes)
    (opens : crypto.OpensSealed) {leader follower : DoubleRatchet}
    {rest fromFollower : List Envelope} {leaderSeed followerSeed : Key} {envelope : Envelope}
    (inStep : InStep crypto leader follower (envelope :: rest) fromFollower leaderSeed followerSeed)
    (env : Surroundings)
    (fresh : crypto.publicKey env.freshSecret ≠ crypto.publicKey follower.ourDhPriv) :
    ∃ next, follower.decrypt crypto envelope.number envelope.ratchetKey envelope.nonce
        envelope.ciphertext env = (.ok envelope.plaintext, next) ∧
      (InStep crypto leader next rest fromFollower leaderSeed followerSeed ∨
        ∃ seed, InStep crypto next leader fromFollower rest seed leaderSeed) := by
  obtain ⟨heldSeed, last, old, new, split, held, ahead⟩ := inStep.toFollower
  cases old with
  | nil =>
    rw [List.nil_append] at split
    subst split
    obtain ⟨next, seed, run, turned⟩ := inStep.follower_turns commutes opens ahead env fresh
    exact ⟨next, run, Or.inr ⟨seed, turned⟩⟩
  | cons first old =>
    obtain ⟨rfl, rfl⟩ := List.cons.inj split
    obtain ⟨knows, unseen, root, leaderSends, followerSends, toLeader, _⟩ := inStep
    obtain ⟨receivingChains, run, held⟩ := held.decrypt opens env
    exact ⟨_, run, Or.inl ⟨knows, unseen, root, leaderSends, followerSends, toLeader,
      heldSeed, last, old, new, rfl, held, ahead⟩⟩

/-- Two ratchets that were built for each other are in step once the initiator has turned its
own. -/
theorem inStep_new (commutes : crypto.DiffieHellmanCommutes)
    {sharedSecret initiatorSecret responderSecret freshSecret : Key} {first second : Nat}
    {initiator responder : DoubleRatchet}
    (builtInitiator : DoubleRatchet.new crypto sharedSecret initiatorSecret
      (crypto.publicKey responderSecret) first = .ok initiator)
    (builtResponder : DoubleRatchet.new crypto sharedSecret responderSecret
      (crypto.publicKey initiatorSecret) second = .ok responder)
    (fresh : crypto.publicKey freshSecret ≠ crypto.publicKey initiatorSecret) :
    ∃ leaderSeed followerSeed, InStep crypto (initiator.initiatorPreRatchet crypto freshSecret)
      responder [] [] leaderSeed followerSeed := by
  simp only [DoubleRatchet.new, Primitives.deriveKey_eq, Except.ok.injEq] at builtInitiator
  simp only [DoubleRatchet.new, Primitives.deriveKey_eq, Except.ok.injEq] at builtResponder
  subst builtInitiator builtResponder
  let seed := crypto.hkdf none sharedSecret.toList (ascii "init-chain") 32
  refine ⟨(kdfRk crypto sharedSecret (crypto.diffieHellman freshSecret
    (crypto.publicKey responderSecret))).2, seed, rfl, fresh, ?_, rfl, rfl, ?_, ?_⟩
  · show kdfRk crypto sharedSecret
      (crypto.diffieHellman responderSecret (crypto.publicKey freshSecret)) = _
    rw [commutes]
    rfl
  · exact ⟨Chain.start seed, first, DoubleRatchet.lookup_insertReceivingChain_self _ _ _ _ _, rfl,
      .nil 0⟩
  · exact ⟨seed, 0, [], [], rfl, ⟨Chain.start seed, second,
      DoubleRatchet.lookup_insertReceivingChain_self _ _ _ _ _, rfl, .nil 0⟩, .nil 0⟩

end InOrder

end Insub
