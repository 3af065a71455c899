/-
This file models `identity/devices.rs` and the master key of `identity/identity.rs`: the list
of the certificates of a user's devices, which the master key signs as a whole.
-/

import Mathlib
import Insub.Identity.Certificates

namespace Insub

open Rust

/-- The key pair that signs device certificates. The public key is the one that its signatures
verify under. -/
structure MasterKeyPair (crypto : Primitives) where
  privateKey : SigningKey crypto

namespace MasterKeyPair

variable {crypto : Primitives}

def publicKey (master : MasterKeyPair crypto) : VerifyingKey crypto := master.privateKey.verifyingKey

def sign (master : MasterKeyPair crypto) (bytes : Bytes) : Signature :=
  master.privateKey.sign bytes

end MasterKeyPair

/-- The certificate of a device, signed by the master key. -/
def DeviceCertificate.new {crypto : Primitives} (master : MasterKeyPair crypto)
    (deviceEd25519Pubkey : VerifyingKey crypto) (deviceX25519Pubkey : Key) :
    DeviceCertificate crypto where
  deviceEd25519Pubkey := deviceEd25519Pubkey
  deviceX25519Pubkey := deviceX25519Pubkey
  masterSignature := master.sign (signedData deviceEd25519Pubkey deviceX25519Pubkey)

structure DeviceList (crypto : Primitives) where
  sequence : U64
  devices : List (DeviceCertificate crypto)
  masterSignature : Signature
  deriving DecidableEq

namespace DeviceList

variable {crypto : Primitives}

def maxDevices : Nat := 5

def containsActive (list : DeviceList crypto) (devicePubkey : VerifyingKey crypto) : Bool :=
  list.devices.any fun device => device.deviceEd25519Pubkey = devicePubkey

def signedData (sequence : U64) (devices : List (DeviceCertificate crypto)) : Bytes :=
  (beBytes 8 sequence).toList ++ devices.flatMap DeviceCertificate.serialize

def signData (sequence : U64) (devices : List (DeviceCertificate crypto))
    (master : MasterKeyPair crypto) : Signature :=
  master.sign (signedData sequence devices)

def verify (list : DeviceList crypto) (masterIdentity : UserID crypto) : Bool :=
  masterIdentity.verify (signedData list.sequence list.devices) list.masterSignature

/-- The list verifies under a master public key given by its bytes. -/
def VerifiesUnder (list : DeviceList crypto) (masterPubkey : Key) : Prop :=
  ∃ user, UserID.ofBytes crypto masterPubkey = some user ∧ list.verify user = true

instance (list : DeviceList crypto) (masterPubkey : Key) :
    Decidable (list.VerifiesUnder masterPubkey) :=
  decidable_of_iff ((UserID.ofBytes crypto masterPubkey).any list.verify = true) (by
    rw [Option.any_eq_true]
    exact Iff.rfl)

def serialize (list : DeviceList crypto) : Bytes :=
  (beBytes 8 list.sequence).toList ++
    (list.masterSignature.toList ++ list.devices.flatMap DeviceCertificate.serialize)

/-- The loop of `from_serialized`. -/
def readDevices : (count : Nat) → Bytes → List (DeviceCertificate crypto) →
    Outcome (List (DeviceCertificate crypto))
  | 0, _, devices => .ok devices
  | count + 1, bytes, devices => do
    let (deviceBytes, bytes) ← drain 128 bytes
    let device ← (DeviceCertificate.fromSerialized deviceBytes.toList).mapErr
      "Failed to parse individual device"
    readDevices count bytes (devices ++ [device])

def fromSerialized (bytes : Bytes) : Outcome (DeviceList crypto) :=
  if bytes.length < 8 + 64 then .error (.error "Couldn't parse devices list")
  else do
    let (sequenceBytes, bytes) ← drain 8 bytes
    let (masterSignature, bytes) ← drain 64 bytes
    if bytes.length % 128 ≠ 0 then
      .error (.error "Invalid device list length: not a multiple of 128 bytes")
    else if maxDevices < bytes.length / 128 then .error (.error "Too many devices")
    else do
      let devices ← readDevices (bytes.length / 128) bytes []
      .ok { sequence := ofBeBytes 64 sequenceBytes, devices, masterSignature }

def new (master : MasterKeyPair crypto) : DeviceList crypto where
  sequence := 0
  devices := []
  masterSignature := signData 0 [] master

def addDevice (list : DeviceList crypto) (master : MasterKeyPair crypto)
    (newCert : DeviceCertificate crypto) : Outcome Unit × DeviceList crypto :=
  if maxDevices ≤ list.devices.length then (.error (.error "Device limit reached"), list)
  else
    (addU64 list.sequence 1).orReturn list fun sequence =>
      let devices := list.devices ++ [newCert]
      (.ok (), { sequence, devices, masterSignature := signData sequence devices master })

def removeDevice (list : DeviceList crypto) (master : MasterKeyPair crypto)
    (devicePubkey : VerifyingKey crypto) : Outcome Unit × DeviceList crypto :=
  (okOr "Unknown certificate" (list.devices.findIdx? fun device =>
    device.deviceEd25519Pubkey = devicePubkey)).orReturn list fun position =>
  (addU64 list.sequence 1).orReturn list fun sequence =>
    let devices := list.devices.eraseIdx position
    (.ok (), { sequence, devices, masterSignature := signData sequence devices master })

end DeviceList

end Insub
