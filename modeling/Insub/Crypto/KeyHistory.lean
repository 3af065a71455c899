/-
This file follows the keys of one double ratchet through a run of `encrypt` and `decrypt`. Every
key comes from a source: the shared secret, the root key and Diffie-Hellman output of a turn, or
the key before it in a chain. The history of a ratchet logs the sources of all keys derived so
far, the message keys spent on encryptions, and the ciphertexts made and accepted.

The headers that `decrypt` sees are whatever an attacker writes. What carries the results is an
account of the chains: every turn starts two chains at sources that are new, a receiving chain
represents a receive window over the messages opened on it, and a chain that is rebuilt or evicted
never comes back. So a message is named by where its chain starts and its number there, and no
name is used twice.
-/

import Mathlib
import Insub.Library.Derivation
import Insub.Library.Run
import Insub.Crypto.ChainWindow

namespace Insub

open Rust

/-- Where a key of a ratchet comes from. -/
inductive KeySource
  | sharedSecret (secret : Key)
  | initialChain (secret : Key)
  | rootKey (root dhOut : Key)
  | chainKey (root dhOut : Key)
  | nextChainKey (link : Key)
  | messageKey (link : Key)
  deriving DecidableEq

namespace KeySource

/-- The key that comes from the source. -/
def key (crypto : Primitives) : KeySource → Key
  | .sharedSecret secret => secret
  | .initialChain secret => crypto.hkdf none secret.toList (ascii "init-chain") 32
  | .rootKey root dhOut => (kdfRk crypto root dhOut).1
  | .chainKey root dhOut => (kdfRk crypto root dhOut).2
  | .nextChainKey link => Chain.nextKey crypto link
  | .messageKey link => Chain.outputKey crypto link

/-- The root key that a turn of the ratchet replaces. -/
def turnedFrom : KeySource → Option Key
  | .rootKey root _ => some root
  | .chainKey root _ => some root
  | _ => none

/-- A chain starts at the key. -/
def Starts : KeySource → Prop
  | .initialChain _ => True
  | .chainKey _ _ => True
  | _ => False

theorem Starts.ne_next {source : KeySource} (starts : source.Starts) (link : Key) :
    source ≠ .nextChainKey link := by
  rintro rfl
  exact starts

end KeySource

/-- The KDFs are collision free on what they were applied to: distinct sources yield distinct
keys. -/
def CollisionFree (crypto : Primitives) (derived : List KeySource) : Prop :=
  Derivation.Apart (KeySource.key crypto) derived

instance (crypto : Primitives) (derived : List KeySource) :
    Decidable (CollisionFree crypto derived) :=
  decidable_of_iff (∀ first ∈ derived, ∀ second ∈ derived,
      first.key crypto = second.key crypto → first = second)
    ⟨fun apart _ member _ other => apart _ member _ other,
      fun apart _ member _ other => apart member other⟩

/-! ### What the operations derive -/

/-- What moving a chain ahead by some messages derives. -/
def Chain.sources (crypto : Primitives) (chain : Chain) (count : Nat) : List KeySource :=
  (List.range count).flatMap fun moved =>
    [.messageKey (chainKeyAt crypto chain.key moved),
      .nextChainKey (chainKeyAt crypto chain.key moved)]

namespace DoubleRatchet

variable (crypto : Primitives)

/-- What a turn of the ratchet derives on the receive side. -/
def receiveSources (ratchet : DoubleRatchet) (theirNewDhPub : Key) : List KeySource :=
  let dhRecv := crypto.diffieHellman ratchet.ourDhPriv theirNewDhPub
  [.rootKey ratchet.rootKey dhRecv, .chainKey ratchet.rootKey dhRecv]

/-- The root key between the two halves of a turn. -/
def rootAfterRecv (ratchet : DoubleRatchet) (theirNewDhPub : Key) : Key :=
  (kdfRk crypto ratchet.rootKey (crypto.diffieHellman ratchet.ourDhPriv theirNewDhPub)).1

/-- What a turn of the ratchet derives on the send side. -/
def sendSources (ratchet : DoubleRatchet) (theirNewDhPub freshSecret : Key) : List KeySource :=
  let dhSend := crypto.diffieHellman freshSecret theirNewDhPub
  [.rootKey (ratchet.rootAfterRecv crypto theirNewDhPub) dhSend,
    .chainKey (ratchet.rootAfterRecv crypto theirNewDhPub) dhSend]

/-- What selecting the key of a message derives on the chain that is kept. -/
def openSources (ratchet : DoubleRatchet) (messageNumber : Nat) (theirDhPub : Key) :
    List KeySource :=
  match ratchet.receivingChains.lookup theirDhPub with
  | none => []
  | some (chain, _) =>
    chain.sources crypto
      ((chain.messageKey crypto messageNumber).2.messageNumber - chain.messageNumber)

/-- What `decrypt` derives. -/
def decryptSources (ratchet : DoubleRatchet) (messageNumber : Nat) (theirDhPub : Key)
    (env : Surroundings) : List KeySource :=
  if ratchet.theirDhPub ≠ theirDhPub then
    ratchet.receiveSources crypto theirDhPub ++
      ratchet.sendSources crypto theirDhPub env.freshSecret ++
        (ratchet.dhRatchetStep crypto theirDhPub env).openSources crypto messageNumber theirDhPub
  else ratchet.openSources crypto messageNumber theirDhPub

end DoubleRatchet

/-! ### Histories -/

/-- One call of a ratchet. -/
inductive RatchetCall
  | encrypt (plaintext : Bytes) (nonce : Nonce)
  | decrypt (messageNumber : Nat) (theirDhPub : Key) (nonce : Nonce) (ciphertext : Bytes)
    (env : Surroundings)

/-- A ratchet, the sources of all keys derived so far, the message keys that were spent on
encryptions, and the ciphertexts that were made and accepted. -/
structure KeyHistory where
  ratchet : DoubleRatchet
  derived : List KeySource
  spent : List Key
  sealed : List Bytes
  accepted : List Bytes

namespace KeyHistory

variable (crypto : Primitives)

def perform (history : KeyHistory) : RatchetCall → KeyHistory
  | .encrypt plaintext nonce =>
    let chain := history.ratchet.sendingChain
    let (outcome, ratchet) := history.ratchet.encrypt crypto plaintext nonce
    { ratchet
      derived := history.derived ++ chain.sources crypto 1
      spent := history.spent ++ ((chain.advance crypto).1.toOption.map Prod.snd).toList
      sealed := history.sealed ++ (outcome.toOption.map fun made => made.2.1).toList
      accepted := history.accepted }
  | .decrypt messageNumber theirDhPub nonce ciphertext env =>
    let (outcome, ratchet) :=
      history.ratchet.decrypt crypto messageNumber theirDhPub nonce ciphertext env
    { ratchet
      derived := history.derived ++
        history.ratchet.decryptSources crypto messageNumber theirDhPub env
      spent := history.spent
      sealed := history.sealed
      accepted := history.accepted ++ (outcome.toOption.map fun _ => ciphertext).toList }

/-- One call, whatever its arguments are. -/
def Step (before after : KeyHistory) : Prop := ∃ call, after = before.perform crypto call

/-- The history of a ratchet that was made from a shared secret. -/
def made (secret : Key) (ratchet : DoubleRatchet) : KeyHistory where
  ratchet := ratchet
  derived := [.sharedSecret secret, .initialChain secret]
  spent := []
  sealed := []
  accepted := []

/-- The history of a ratchet as each side of a session starts with it: the responder with what
`new` makes, the initiator after its turn ahead of the first message. -/
inductive Start (secret : Key) : KeyHistory → Prop
  | responder {ourDhPriv theirDhPub : Key} {now : Nat} {ratchet : DoubleRatchet}
      (built : DoubleRatchet.new crypto secret ourDhPriv theirDhPub now = .ok ratchet) :
      Start secret (made secret ratchet)
  | initiator {ourDhPriv theirDhPub freshSecret : Key} {now : Nat} {ratchet : DoubleRatchet}
      (built : DoubleRatchet.new crypto secret ourDhPriv theirDhPub now = .ok ratchet) :
      Start secret
        { made secret ratchet with
          ratchet := ratchet.initiatorPreRatchet crypto freshSecret
          derived := [.sharedSecret secret, .initialChain secret] ++
            [.rootKey secret (crypto.diffieHellman freshSecret theirDhPub),
              .chainKey secret (crypto.diffieHellman freshSecret theirDhPub)] }

end KeyHistory

end Insub
