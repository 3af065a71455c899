/-
This file models how `identity/identity.rs` and `identity/keychain.rs` get their keys from a
mnemonic and a password. The seed of a mnemonic, and the signing key of 32 bytes, are a
parameter.
-/

import Mathlib
import Insub.Identity.Devices

namespace Insub

open Rust

/-- The seed phrases of the crate `bip39`, and `SigningKey::from_bytes` of `ed25519_dalek`. -/
structure Mnemonics (crypto : Primitives) where
  Mnemonic : Type
  toSeed : Mnemonic → (password : String) → Octets 64
  signingKey : Key → SigningKey crypto

variable {crypto : Primitives}

/-- `derive_key` of the seed, which does not fail. -/
def Mnemonics.derive (words : Mnemonics crypto) (mnemonic : words.Mnemonic)
    (password : Option String) (info : String) : Key :=
  crypto.hkdf none (words.toSeed mnemonic (password.getD "")).toList (ascii info) 32

def MasterKeyPair.fromMnemonic (words : Mnemonics crypto) (mnemonic : words.Mnemonic)
    (password : Option String) : MasterKeyPair crypto where
  privateKey := words.signingKey (words.derive mnemonic password "insub-master-ed25519-v1")

/-- The public keys of a device. -/
structure Keychain where
  deviceEd25519Pub : Key
  deviceX25519Pub : Key

def Keychain.fromMnemonic (words : Mnemonics crypto) (mnemonic : words.Mnemonic)
    (password : Option String) : Keychain where
  deviceEd25519Pub :=
    (words.signingKey (words.derive mnemonic password "keychain-ed25519")).verifyingKey.bytes
  deviceX25519Pub := crypto.publicKey (words.derive mnemonic password "keychain-x25519")

end Insub
