/-
This file models `crypto/ratchet.rs`: the symmetric chains and the double ratchet built
on them. What the code takes from outside is an argument: fresh secrets and nonces, the
clock, and the order in which a hash map is iterated.

The code selects the message key of `decrypt` in place; here that selection is a function
of the chain, `messageKey`, so that its effect on the chain has a specification of its own.
-/

import Mathlib
import Insub.Library.HashMap
import Insub.Crypto.Primitives

namespace Insub

open Rust

/-- One symmetric chain. A message number is a `u32`. -/
structure Chain where
  key : Key
  messageNumber : Nat
  skippedKeys : HashMap Nat Key

namespace Chain

variable (crypto : Primitives)

/-- A chain at its start. -/
def start (key : Key) : Chain := { key, messageNumber := 0, skippedKeys := ∅ }

def advance (chain : Chain) : Outcome (Nat × Key) × Chain :=
  match crypto.deriveKey chain.key.toList none (ascii "message-key") with
  | .error fault => (.error fault, chain)
  | .ok messageKey =>
    match crypto.deriveKey chain.key.toList none (ascii "chain-key") with
    | .error fault => (.error fault, chain)
    | .ok nextKey =>
      match addU32 chain.messageNumber 1 with
      | .error fault => (.error fault, { chain with key := nextKey })
      | .ok number =>
        (.ok (number, messageKey), { chain with key := nextKey, messageNumber := number })

def maxSkip : Nat := 2048

/-- The loop of `skip_to` over the message numbers up to the target. -/
def skipLoop (target : Nat) : List Nat → Chain → Key → Outcome Key × Chain
  | [], chain, finalKey => (.ok finalKey, chain)
  | msgNum :: rest, chain, finalKey =>
    match crypto.deriveKey chain.key.toList none (ascii "message-key") with
    | .error fault => (.error fault, chain)
    | .ok msgKey =>
      match crypto.deriveKey chain.key.toList none (ascii "chain-key") with
      | .error fault => (.error fault, chain)
      | .ok nextKey =>
        if msgNum < target then
          skipLoop target rest
            { key := nextKey, messageNumber := msgNum,
              skippedKeys := chain.skippedKeys.insert msgNum msgKey } finalKey
        else
          skipLoop target rest { chain with key := nextKey, messageNumber := msgNum } msgKey

def skipTo (chain : Chain) (target : Nat) : Outcome Key × Chain :=
  match subU32 target chain.messageNumber with
  | .error fault => (.error fault, chain)
  | .ok gap =>
    if gap > maxSkip then (.error (.error "message gap too large"), chain)
    else
      match addU32 chain.messageNumber 1 with
      | .error fault => (.error fault, chain)
      | .ok first =>
        skipLoop crypto target (List.range' first (target + 1 - first)) chain (Octets.zero 32)

def trySkipped (chain : Chain) (messageNumber : Nat) : Option Key × Chain :=
  (chain.skippedKeys.lookup messageNumber,
    { chain with skippedKeys := chain.skippedKeys.erase messageNumber })

/-- The key `decrypt` opens a message number with, and the chain it leaves. -/
def messageKey (chain : Chain) (messageNumber : Nat) : Outcome Key × Chain :=
  match addU32 chain.messageNumber 1 with
  | .error fault => (.error fault, chain)
  | .ok next =>
    if messageNumber = next then
      match chain.advance crypto with
      | (.error fault, chain) => (.error fault, chain)
      | (.ok (_, messageKey), chain) => (.ok messageKey, chain)
    else if messageNumber > next then chain.skipTo crypto messageNumber
    else if messageNumber ∈ chain.skippedKeys then
      match chain.trySkipped messageNumber with
      | (some messageKey, chain) => (.ok messageKey, chain)
      | (none, chain) => (.error (.panic "called `Option::unwrap()` on a `None` value"), chain)
    else (.error (.error "Message number is too old"), chain)

end Chain

/-- The root key and chain key that follow a Diffie-Hellman output. Asking HKDF for 64 bytes
never fails, so the `expect` of the code does not panic. -/
def kdfRk (crypto : Primitives) (rootKey dhOut : Key) : Key × Key :=
  let output := crypto.hkdf (some rootKey.toList) dhOut.toList (ascii "WhisperRatchet") 64
  (output.window 0 32 (by decide), output.window 32 32 (by decide))

/-- The receiving chains by ratchet key, each with the time it was last used. -/
abbrev ReceivingChains := HashMap Key (Chain × Nat)

structure DoubleRatchet where
  rootKey : Key
  sendingChain : Chain
  receivingChains : ReceivingChains
  ourDhPriv : Key
  theirDhPub : Key

/-- What one `decrypt` takes from outside: the secret it draws and the time at which it
inserts a chain, should it turn the ratchet, the order in which it then looks for the oldest
chain, and the time at which it uses the chain. -/
structure Surroundings where
  freshSecret : Key
  insertedAt : Nat
  order : IterationOrder (Sigma fun _ : Key => Chain × Nat)
  usedAt : Nat

namespace DoubleRatchet

variable (crypto : Primitives)

def updateReceivingChainTimestamp (ratchet : DoubleRatchet) (theirDhPub : Key) (now : Nat) :
    DoubleRatchet :=
  match ratchet.receivingChains.lookup theirDhPub with
  | some (chain, _) =>
    { ratchet with receivingChains := ratchet.receivingChains.insert theirDhPub (chain, now) }
  | none => ratchet

def maxSavedChains : Nat := 8

/-- The ratchet key of the chain that was not used for longest. -/
def oldestKey (order : IterationOrder (Sigma fun _ : Key => Chain × Nat))
    (receivingChains : ReceivingChains) : Option Key :=
  ((receivingChains.iterate order).argmin fun entry => entry.2.2).map Sigma.fst

def insertReceivingChain (receivingChains : ReceivingChains) (theirDhPub chainKey : Key)
    (now : Nat) (order : IterationOrder (Sigma fun _ : Key => Chain × Nat)) : ReceivingChains :=
  let kept :=
    if receivingChains.size ≥ maxSavedChains then
      match oldestKey order receivingChains with
      | some oldest => receivingChains.erase oldest
      | none => receivingChains
    else receivingChains
  kept.insert theirDhPub (Chain.start chainKey, now)

def encrypt (ratchet : DoubleRatchet) (plaintext : Bytes) (nonce : Nonce) :
    Outcome (Nat × Bytes × Nonce × Key) × DoubleRatchet :=
  match ratchet.sendingChain.advance crypto with
  | (.error fault, chain) => (.error fault, { ratchet with sendingChain := chain })
  | (.ok (messageNumber, messageKey), chain) =>
    let ratchet := { ratchet with sendingChain := chain }
    match crypto.encrypt plaintext messageKey nonce with
    | .error fault => (.error fault, ratchet)
    | .ok (ciphertext, nonce) =>
      (.ok (messageNumber, ciphertext, nonce, crypto.publicKey ratchet.ourDhPriv), ratchet)

def dhRatchetStep (ratchet : DoubleRatchet) (theirNewDhPub : Key) (env : Surroundings) :
    DoubleRatchet :=
  -- receive side: our old key with their new key
  let dhRecv := crypto.diffieHellman ratchet.ourDhPriv theirNewDhPub
  let (rootAfterRecv, newReceivingChainKey) := kdfRk crypto ratchet.rootKey dhRecv
  -- send side: a fresh key of ours with their same new key
  let dhSend := crypto.diffieHellman env.freshSecret theirNewDhPub
  let (rootFinal, newSendingChainKey) := kdfRk crypto rootAfterRecv dhSend
  { rootKey := rootFinal
    receivingChains := insertReceivingChain ratchet.receivingChains theirNewDhPub
      newReceivingChainKey env.insertedAt env.order
    sendingChain := Chain.start newSendingChainKey
    ourDhPriv := env.freshSecret
    theirDhPub := theirNewDhPub }

/-- The part of `decrypt` that follows the ratchet step. -/
def openWith (ratchet : DoubleRatchet) (messageNumber : Nat) (theirDhPub : Key) (nonce : Nonce)
    (ciphertext : Bytes) (now : Nat) : Outcome Bytes × DoubleRatchet :=
  let ratchet := ratchet.updateReceivingChainTimestamp theirDhPub now
  match ratchet.receivingChains.lookup theirDhPub with
  | none => (.error (.error "No receiving chain for this DH pubkey"), ratchet)
  | some (chain, timestamp) =>
    match chain.messageKey crypto messageNumber with
    | (outcome, chain) =>
      let ratchet := { ratchet with
        receivingChains := ratchet.receivingChains.insert theirDhPub (chain, timestamp) }
      match outcome with
      | .error fault => (.error fault, ratchet)
      | .ok messageKey => (crypto.decrypt ciphertext nonce messageKey, ratchet)

def decrypt (ratchet : DoubleRatchet) (messageNumber : Nat) (theirDhPub : Key) (nonce : Nonce)
    (ciphertext : Bytes) (env : Surroundings) : Outcome Bytes × DoubleRatchet :=
  let ratchet :=
    if ratchet.theirDhPub ≠ theirDhPub then ratchet.dhRatchetStep crypto theirDhPub env
    else ratchet
  ratchet.openWith crypto messageNumber theirDhPub nonce ciphertext env.usedAt

/-- `DoubleRatchet::new`. The map it inserts into is empty, so no chain is evicted. -/
def new (sharedSecret ourDhPriv theirDhPub : Key) (now : Nat) : Outcome DoubleRatchet :=
  match crypto.deriveKey sharedSecret.toList none (ascii "init-chain") with
  | .error _ => .error (.panic "called `Result::unwrap()` on an `Err` value")
  | .ok initialChainKey =>
    .ok { rootKey := sharedSecret
          sendingChain := Chain.start initialChainKey
          receivingChains := insertReceivingChain ∅ theirDhPub initialChainKey now default
          ourDhPriv
          theirDhPub }

def initiatorPreRatchet (ratchet : DoubleRatchet) (freshSecret : Key) : DoubleRatchet :=
  let dhSend := crypto.diffieHellman freshSecret ratchet.theirDhPub
  let (newRoot, newSendingChainKey) := kdfRk crypto ratchet.rootKey dhSend
  { ratchet with
    rootKey := newRoot
    sendingChain := Chain.start newSendingChainKey
    ourDhPriv := freshSecret }

/-- A message is sealed under the next key of the sending chain. -/
theorem sealed_of_encrypt {ratchet : DoubleRatchet} {plaintext ciphertext : Bytes}
    {nonce drawn : Nonce} {messageNumber : Nat} {ourDhPub : Key}
    (run : (ratchet.encrypt crypto plaintext nonce).1 =
      .ok (messageNumber, ciphertext, drawn, ourDhPub)) :
    ∃ messageKey, (ratchet.sendingChain.advance crypto).1 = .ok (messageNumber, messageKey) ∧
      crypto.aeadEncrypt messageKey drawn plaintext = some ciphertext := by
  rw [encrypt] at run
  rcases advanced : ratchet.sendingChain.advance crypto with ⟨fault | ⟨number, messageKey⟩, chain⟩
  all_goals rw [advanced] at run
  · cases run
  dsimp only [Primitives.encrypt] at run
  cases sealed : crypto.aeadEncrypt messageKey nonce plaintext with
  | none =>
    rw [sealed] at run
    cases run
  | some encrypted =>
    rw [sealed] at run
    cases run
    exact ⟨messageKey, rfl, sealed⟩

/-! ### What the operations do to the receiving chains -/

theorem lookup_insertReceivingChain_self (receivingChains : ReceivingChains)
    (theirDhPub chainKey : Key) (now : Nat)
    (order : IterationOrder (Sigma fun _ : Key => Chain × Nat)) :
    (insertReceivingChain receivingChains theirDhPub chainKey now order).lookup theirDhPub =
      some (Chain.start chainKey, now) :=
  AList.lookup_insert _

/-- Inserting a chain may evict another one, and adds no key but its own. -/
theorem mem_of_mem_insertReceivingChain {receivingChains : ReceivingChains}
    {theirDhPub chainKey key : Key} {now : Nat}
    {order : IterationOrder (Sigma fun _ : Key => Chain × Nat)}
    (member : key ∈ insertReceivingChain receivingChains theirDhPub chainKey now order) :
    key = theirDhPub ∨ key ∈ receivingChains := by
  rcases (AList.mem_insert _).mp member with same | kept
  · exact Or.inl same
  · refine Or.inr ?_
    split at kept
    · split at kept
      · exact (AList.mem_erase.mp kept).2
      · exact kept
    · exact kept

/-- Inserting a chain leaves the others it keeps as they were. -/
theorem lookup_of_insertReceivingChain {receivingChains : ReceivingChains}
    {theirDhPub chainKey key : Key} {now : Nat}
    {order : IterationOrder (Sigma fun _ : Key => Chain × Nat)} {entry : Chain × Nat}
    (different : key ≠ theirDhPub)
    (held : (insertReceivingChain receivingChains theirDhPub chainKey now order).lookup key =
      some entry) : receivingChains.lookup key = some entry := by
  unfold insertReceivingChain at held
  rw [AList.lookup_insert_ne different] at held
  split at held
  · split at held
    · exact (HashMap.lookup_erase_eq_some_iff.mp held).2
    · exact held
  · exact held

/-- With the chain of the ratchet key at hand, what follows the ratchet step is to select the
message key, put the chain back and open the ciphertext. -/
theorem openWith_eq (ratchet : DoubleRatchet) (messageNumber : Nat) (theirDhPub : Key)
    (nonce : Nonce) (ciphertext : Bytes) (now : Nat) {chain : Chain} {used : Nat}
    (held : ratchet.receivingChains.lookup theirDhPub = some (chain, used)) :
    ratchet.openWith crypto messageNumber theirDhPub nonce ciphertext now =
      ((chain.messageKey crypto messageNumber).1.bind (crypto.decrypt ciphertext nonce),
        { ratchet with
          receivingChains := ratchet.receivingChains.insert theirDhPub
            ((chain.messageKey crypto messageNumber).2, now) }) := by
  simp only [openWith, updateReceivingChainTimestamp, held, AList.lookup_insert]
  obtain ⟨outcome, next⟩ := chain.messageKey crypto messageNumber
  cases outcome with
  | error fault => simp only [AList.insert_insert, Except.bind]
  | ok messageKey => simp only [AList.insert_insert, Except.bind]

theorem openWith_none (ratchet : DoubleRatchet) (messageNumber : Nat) (theirDhPub : Key)
    (nonce : Nonce) (ciphertext : Bytes) (now : Nat)
    (absent : ratchet.receivingChains.lookup theirDhPub = none) :
    ratchet.openWith crypto messageNumber theirDhPub nonce ciphertext now =
      (.error (.error "No receiving chain for this DH pubkey"), ratchet) := by
  simp only [openWith, updateReceivingChainTimestamp, absent]

/-- Opening a message changes nothing but the receiving chains. -/
theorem openWith_frame (ratchet : DoubleRatchet) (messageNumber : Nat) (theirDhPub : Key)
    (nonce : Nonce) (ciphertext : Bytes) (now : Nat) :
    ∃ receivingChains, (ratchet.openWith crypto messageNumber theirDhPub nonce ciphertext now).2 =
      { ratchet with receivingChains } := by
  cases held : ratchet.receivingChains.lookup theirDhPub with
  | none =>
    exact ⟨_, by rw [openWith_none crypto ratchet messageNumber theirDhPub nonce ciphertext now
      held]⟩
  | some entry =>
    exact ⟨_, by rw [openWith_eq crypto ratchet messageNumber theirDhPub nonce ciphertext now
      held]⟩

theorem decrypt_current (ratchet : DoubleRatchet) (messageNumber : Nat) (nonce : Nonce)
    (ciphertext : Bytes) (env : Surroundings) :
    ratchet.decrypt crypto messageNumber ratchet.theirDhPub nonce ciphertext env =
      ratchet.openWith crypto messageNumber ratchet.theirDhPub nonce ciphertext env.usedAt := by
  rw [decrypt, if_neg (fun different => different rfl)]

theorem decrypt_turn (ratchet : DoubleRatchet) (messageNumber : Nat) (theirDhPub : Key)
    (nonce : Nonce) (ciphertext : Bytes) (env : Surroundings)
    (turns : ratchet.theirDhPub ≠ theirDhPub) :
    ratchet.decrypt crypto messageNumber theirDhPub nonce ciphertext env =
      (ratchet.dhRatchetStep crypto theirDhPub env).openWith crypto messageNumber theirDhPub
        nonce ciphertext env.usedAt := by
  rw [decrypt, if_pos turns]

/-- After `decrypt` the ratchet key of the message is the current one, whatever the
outcome. -/
theorem decrypt_theirDhPub (ratchet : DoubleRatchet) (messageNumber : Nat) (theirDhPub : Key)
    (nonce : Nonce) (ciphertext : Bytes) (env : Surroundings) :
    (ratchet.decrypt crypto messageNumber theirDhPub nonce ciphertext env).2.theirDhPub =
      theirDhPub := by
  by_cases turns : ratchet.theirDhPub = theirDhPub
  · subst turns
    rw [decrypt_current]
    obtain ⟨_, frame⟩ := openWith_frame crypto ratchet messageNumber ratchet.theirDhPub nonce
      ciphertext env.usedAt
    rw [frame]
  · rw [decrypt_turn crypto ratchet messageNumber theirDhPub nonce ciphertext env turns]
    obtain ⟨_, frame⟩ := openWith_frame crypto (ratchet.dhRatchetStep crypto theirDhPub env)
      messageNumber theirDhPub nonce ciphertext env.usedAt
    rw [frame]
    rfl

/-- A ratchet is built on every input. -/
theorem exists_new (sharedSecret ourDhPriv theirDhPub : Key) (now : Nat) :
    ∃ ratchet, new crypto sharedSecret ourDhPriv theirDhPub now = .ok ratchet := by
  rw [new, Primitives.deriveKey_eq]
  exact ⟨_, rfl⟩

/-- The message key that a header selects, if it selects one. -/
def keyFor (ratchet : DoubleRatchet) (messageNumber : Nat) (theirDhPub : Key)
    (env : Surroundings) : Option Key :=
  let turned :=
    if ratchet.theirDhPub ≠ theirDhPub then ratchet.dhRatchetStep crypto theirDhPub env
    else ratchet
  (turned.receivingChains.lookup theirDhPub).bind fun entry =>
    (entry.1.messageKey crypto messageNumber).1.toOption

/-- What `decrypt` returns is what opens under the key the header selects. -/
theorem decrypt_eq_ok_iff (ratchet : DoubleRatchet) (messageNumber : Nat) (theirDhPub : Key)
    (nonce : Nonce) (ciphertext : Bytes) (env : Surroundings) (plaintext : Bytes) :
    (ratchet.decrypt crypto messageNumber theirDhPub nonce ciphertext env).1 = .ok plaintext ↔
      ∃ key, ratchet.keyFor crypto messageNumber theirDhPub env = some key ∧
        crypto.aeadDecrypt key nonce ciphertext = some plaintext := by
  rw [decrypt, keyFor]
  generalize (if ratchet.theirDhPub ≠ theirDhPub then ratchet.dhRatchetStep crypto theirDhPub env
    else ratchet) = turned
  cases held : turned.receivingChains.lookup theirDhPub with
  | none => simp [openWith_none crypto turned messageNumber theirDhPub nonce ciphertext _ held]
  | some entry =>
    obtain ⟨chain, used⟩ := entry
    rw [openWith_eq crypto turned messageNumber theirDhPub nonce ciphertext _ held]
    rcases selected : chain.messageKey crypto messageNumber with ⟨fault | key, next⟩
    · simp [selected, Except.bind, Except.toOption]
    · simp [selected, Except.bind, Except.toOption, Primitives.decrypt, okOr_eq_ok_iff]

end DoubleRatchet

end Insub
