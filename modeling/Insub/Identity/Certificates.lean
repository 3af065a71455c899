/-
This file models `identity/certificates.rs` and the users of `identity/identity.rs`: the
certificate by which a master key vouches for the keys of one device.
-/

import Mathlib
import Insub.Crypto.Primitives

namespace Insub

open Rust

/-- Another user, of whom only the master public key is known. -/
structure UserID (crypto : Primitives) where
  publicKey : VerifyingKey crypto

namespace UserID

variable {crypto : Primitives}

def verify (user : UserID crypto) (bytes : Bytes) (signature : Signature) : Bool :=
  user.publicKey.verify bytes signature

/-- The user with the given master public key, if the bytes are one. -/
def ofBytes (crypto : Primitives) (masterPubkey : Key) : Option (UserID crypto) :=
  (VerifyingKey.fromBytes crypto masterPubkey).map UserID.mk

theorem ofBytes_bytes (user : UserID crypto) :
    ofBytes crypto user.publicKey.bytes = some user := by
  rw [ofBytes, VerifyingKey.fromBytes_bytes]
  rfl

end UserID

structure DeviceCertificate (crypto : Primitives) where
  deviceEd25519Pubkey : VerifyingKey crypto
  deviceX25519Pubkey : Key
  masterSignature : Signature
  deriving DecidableEq

namespace DeviceCertificate

variable {crypto : Primitives}

def signedData (deviceEd25519Pubkey : VerifyingKey crypto) (deviceX25519Pubkey : Key) : Bytes :=
  deviceEd25519Pubkey.bytes.toList ++ deviceX25519Pubkey.toList

def verify (certificate : DeviceCertificate crypto) (masterIdentity : UserID crypto) : Bool :=
  masterIdentity.verify
    (signedData certificate.deviceEd25519Pubkey certificate.deviceX25519Pubkey)
    certificate.masterSignature

/-- The certificate verifies under a master public key given by its bytes. -/
def VerifiesUnder (certificate : DeviceCertificate crypto) (masterPubkey : Key) : Prop :=
  ∃ user, UserID.ofBytes crypto masterPubkey = some user ∧ certificate.verify user = true

instance (certificate : DeviceCertificate crypto) (masterPubkey : Key) :
    Decidable (certificate.VerifiesUnder masterPubkey) :=
  decidable_of_iff ((UserID.ofBytes crypto masterPubkey).any certificate.verify = true) (by
    rw [Option.any_eq_true]
    exact Iff.rfl)

def serialize (certificate : DeviceCertificate crypto) : Bytes :=
  certificate.deviceEd25519Pubkey.bytes.toList ++
    (certificate.deviceX25519Pubkey.toList ++ certificate.masterSignature.toList)

def fromSerialized (bytes : Bytes) : Outcome (DeviceCertificate crypto) := do
  let (deviceEd25519PubkeyBytes, bytes) ← drain 32 bytes
  let deviceEd25519Pubkey ← okOr "Failed to create VerifyingKey object"
    (VerifyingKey.fromBytes crypto deviceEd25519PubkeyBytes)
  let (deviceX25519Pubkey, bytes) ← drain 32 bytes
  let (masterSignature, _) ← drain 64 bytes
  .ok { deviceEd25519Pubkey, deviceX25519Pubkey, masterSignature }

/-- Enough bytes for a certificate parse or are refused. -/
theorem not_panics_fromSerialized {bytes : Bytes} (enough : 32 + 32 + 64 ≤ bytes.length) :
    ¬ (fromSerialized bytes : Outcome (DeviceCertificate crypto)).Panics := by
  refine Outcome.not_panics_bind (by rw [drain_panics_iff]; omega) ?_
  rintro ⟨first, rest⟩ firstRead
  have restLength := length_of_drain firstRead
  refine Outcome.not_panics_bind (not_panics_okOr _ _) fun _ _ => ?_
  refine Outcome.not_panics_bind (by rw [drain_panics_iff]; omega) ?_
  rintro ⟨second, tail⟩ secondRead
  have tailLength := length_of_drain secondRead
  refine Outcome.not_panics_bind (by rw [drain_panics_iff]; omega) fun _ _ => ?_
  exact Outcome.not_panics_ok _

end DeviceCertificate

end Insub
