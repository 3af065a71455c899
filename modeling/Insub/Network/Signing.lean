/-
This file is about what a master key signs: the keys of a device, the list of a user's devices, and
the entry of a user in a registry of relays (`RelayAnnouncement` of `network/registry.rs`). None of
the three writes down what it is. The lengths tell them apart: a certificate signs 64 bytes, a list
8 more than a multiple of 128, an entry 55 or 67 by the kind of its address.
-/

import Mathlib
import Insub.Identity.Lifecycle
import Insub.Network.RegistryCodec

namespace Insub

open Rust

/-- The entry of a user, signed by the user. -/
structure RelayAnnouncement where
  signature : Signature
  entry : RelayEntry

namespace RelayAnnouncement

def new {crypto : Primitives} (keypair : MasterKeyPair crypto) (entry : RelayEntry) :
    RelayAnnouncement where
  signature := keypair.sign entry.serialize
  entry := entry

def verify (crypto : Primitives) (announcement : RelayAnnouncement) : Bool :=
  match VerifyingKey.fromBytes crypto announcement.entry.pubkey with
  | some verifyingKey => verifyingKey.verify announcement.entry.serialize announcement.signature
  | none => false

end RelayAnnouncement

/-! ### The bytes that are signed -/

/-- The objects that a master key signs. -/
inductive MasterSigned (crypto : Primitives)
  | certificate (deviceEd25519Pubkey : VerifyingKey crypto) (deviceX25519Pubkey : Key)
  | deviceList (sequence : U64) (devices : List (DeviceCertificate crypto))
  | relayEntry (entry : RelayEntry)

namespace MasterSigned

variable {crypto : Primitives}

/-- The signature that a master key makes for an object. -/
def sign (master : MasterKeyPair crypto) : MasterSigned crypto → Signature
  | .certificate deviceEd25519Pubkey deviceX25519Pubkey =>
    (DeviceCertificate.new master deviceEd25519Pubkey deviceX25519Pubkey).masterSignature
  | .deviceList sequence devices => DeviceList.signData sequence devices master
  | .relayEntry entry => (RelayAnnouncement.new master entry).signature

/-- Whether the object with the given signature verifies for a user. An announcement is held
against the key in its own entry. -/
def verifies (user : UserID crypto) (signature : Signature) : MasterSigned crypto → Bool
  | .certificate deviceEd25519Pubkey deviceX25519Pubkey =>
    DeviceCertificate.verify ⟨deviceEd25519Pubkey, deviceX25519Pubkey, signature⟩ user
  | .deviceList sequence devices => DeviceList.verify ⟨sequence, devices, signature⟩ user
  | .relayEntry entry => RelayAnnouncement.verify crypto ⟨signature, entry⟩

/-- The bytes that are signed for an object. -/
def signedBytes : MasterSigned crypto → Bytes
  | .certificate deviceEd25519Pubkey deviceX25519Pubkey =>
    DeviceCertificate.signedData deviceEd25519Pubkey deviceX25519Pubkey
  | .deviceList sequence devices => DeviceList.signedData sequence devices
  | .relayEntry entry => entry.serialize

/-- The object without what is not signed: the flow info and the scope id of an address. -/
def plain : MasterSigned crypto → MasterSigned crypto
  | .certificate deviceEd25519Pubkey deviceX25519Pubkey =>
    .certificate deviceEd25519Pubkey deviceX25519Pubkey
  | .deviceList sequence devices => .deviceList sequence devices
  | .relayEntry entry => .relayEntry entry.plain

theorem sign_eq (master : MasterKeyPair crypto) (object : MasterSigned crypto) :
    object.sign master = master.sign object.signedBytes := by
  cases object <;> rfl

/-- What verifies, verifies under some key for the bytes of the object. -/
theorem exists_verify {user : UserID crypto} {signature : Signature} {object : MasterSigned crypto}
    (verified : object.verifies user signature = true) :
    ∃ key : VerifyingKey crypto, key.verify object.signedBytes signature = true := by
  cases object with
  | certificate deviceEd25519Pubkey deviceX25519Pubkey => exact ⟨user.publicKey, verified⟩
  | deviceList sequence devices => exact ⟨user.publicKey, verified⟩
  | relayEntry entry =>
    rw [verifies, RelayAnnouncement.verify] at verified
    split at verified
    · exact ⟨_, verified⟩
    · cases verified

/-! ### Telling the objects apart -/

theorem signedBytes_plain (object : MasterSigned crypto) :
    object.plain.signedBytes = object.signedBytes := by
  rcases object with _ | _ | ⟨id, pubkey, address⟩
  · rfl
  · rfl
  · cases address <;> rfl

theorem length_certificate (deviceEd25519Pubkey : VerifyingKey crypto) (deviceX25519Pubkey : Key) :
    (certificate deviceEd25519Pubkey deviceX25519Pubkey).signedBytes.length = 64 := by
  simp [signedBytes, DeviceCertificate.signedData]

theorem length_deviceList (sequence : U64) (devices : List (DeviceCertificate crypto)) :
    (deviceList sequence devices).signedBytes.length = 8 + 128 * devices.length := by
  rw [signedBytes, DeviceList.signedData, List.length_append,
    DeviceList.length_flatMap_serialize, List.Vector.toList_length]

theorem length_relayEntry (entry : RelayEntry) :
    (relayEntry entry : MasterSigned crypto).signedBytes.length =
      match entry.address with
      | .v4 _ _ => 55
      | .v6 _ _ _ _ => 67 := by
  obtain ⟨id, pubkey, address⟩ := entry
  cases address <;> simp [signedBytes, RelayEntry.serialize, RelayEntry.addressBytes]

/-- Lists of one length are written alike only if they are equal. -/
theorem devices_inj {first second : List (DeviceCertificate crypto)}
    (same : first.flatMap DeviceCertificate.serialize =
      second.flatMap DeviceCertificate.serialize) : first = second := by
  have size : first.length = second.length := by
    have lengths := congrArg List.length same
    rw [DeviceList.length_flatMap_serialize, DeviceList.length_flatMap_serialize] at lengths
    omega
  have read := DeviceList.readDevices_flatMap first []
  rw [same, size, DeviceList.readDevices_flatMap second []] at read
  exact (Except.ok.inj read).symm

theorem address_inj {first second : SocketAddr}
    (same : RelayEntry.addressBytes first = RelayEntry.addressBytes second) :
    first.plain = second.plain := by
  have lengths := congrArg List.length same
  cases first with
  | v4 ip port =>
    cases second with
    | v4 otherIp otherPort =>
      obtain ⟨rfl, ports⟩ := octets_append_inj (List.append_cancel_left same)
      rw [beBytes_inj (by norm_num) (Subtype.ext ports)]
    | v6 otherIp otherPort flowinfo scopeId => simp [RelayEntry.addressBytes] at lengths
  | v6 ip port flowinfo scopeId =>
    cases second with
    | v4 otherIp otherPort => simp [RelayEntry.addressBytes] at lengths
    | v6 otherIp otherPort otherFlowinfo otherScopeId =>
      obtain ⟨rfl, ports⟩ := octets_append_inj (List.append_cancel_left same)
      rw [SocketAddr.plain, beBytes_inj (by norm_num) (Subtype.ext ports), SocketAddr.plain]

/-- Objects whose bytes agree are the same, up to flow info and scope id. -/
theorem plain_eq_of_signedBytes {first second : MasterSigned crypto}
    (same : first.signedBytes = second.signedBytes) : first.plain = second.plain := by
  have lengths := congrArg List.length same
  cases first with
  | certificate deviceEd25519Pubkey deviceX25519Pubkey =>
    rw [length_certificate] at lengths
    cases second with
    | certificate otherEd25519Pubkey otherX25519Pubkey =>
      obtain ⟨signing, exchange⟩ := octets_append_inj same
      rw [VerifyingKey.bytes_inj.mp signing, Subtype.ext exchange]
    | deviceList sequence devices =>
      rw [length_deviceList] at lengths
      omega
    | relayEntry entry =>
      rw [length_relayEntry] at lengths
      split at lengths <;> omega
  | deviceList sequence devices =>
    rw [length_deviceList] at lengths
    cases second with
    | certificate deviceEd25519Pubkey deviceX25519Pubkey =>
      rw [length_certificate] at lengths
      omega
    | deviceList otherSequence otherDevices =>
      obtain ⟨number, listed⟩ := octets_append_inj same
      rw [beBytes_inj (by norm_num) number, devices_inj listed]
    | relayEntry entry =>
      rw [length_relayEntry] at lengths
      split at lengths <;> omega
  | relayEntry entry =>
    rw [length_relayEntry] at lengths
    cases second with
    | certificate deviceEd25519Pubkey deviceX25519Pubkey =>
      rw [length_certificate] at lengths
      split at lengths <;> omega
    | deviceList sequence devices =>
      rw [length_deviceList] at lengths
      split at lengths <;> omega
    | relayEntry other =>
      obtain ⟨ids, rest⟩ := octets_append_inj same
      obtain ⟨pubkeys, addresses⟩ := octets_append_inj rest
      rw [plain, RelayEntry.plain, beBytes_inj (by norm_num) ids, pubkeys, address_inj addresses,
        plain, RelayEntry.plain]

/-- The bytes that a master key signs tell what it signed. If the signature it makes for one object
verifies for no other bytes than those it was made on, then it verifies for no other object. -/
theorem unambiguous (first second : MasterSigned crypto) :
    (first.signedBytes = second.signedBytes ↔ first.plain = second.plain) ∧
      ∀ (master : MasterKeyPair crypto) (user : UserID crypto),
        (∀ key : VerifyingKey crypto, key.verify second.signedBytes
          (master.sign first.signedBytes) = true → first.signedBytes = second.signedBytes) →
        second.verifies user (first.sign master) = true → first.plain = second.plain := by
  refine ⟨⟨plain_eq_of_signedBytes, fun same => ?_⟩, fun master user genuine verified => ?_⟩
  · rw [← signedBytes_plain first, same, signedBytes_plain]
  · obtain ⟨key, verifies⟩ := exists_verify verified
    rw [sign_eq] at verifies
    exact plain_eq_of_signedBytes (genuine key verifies)

open DeviceList.Account (sampleMaster)

/-- An entry with the given flow info. -/
def sampleEntry (flowinfo : U32) : RelayEntry :=
  ⟨7, sampleMaster.publicKey.bytes, .v6 (Octets.zero 16) 443 flowinfo 0⟩

/-- The signature for an entry verifies for the same entry with another flow info. -/
theorem sampleEntry_unambiguous :
    (relayEntry (sampleEntry 1) : MasterSigned sampleSuite).plain =
      (relayEntry (sampleEntry 0)).plain := by
  have verified : (relayEntry (sampleEntry 0) : MasterSigned sampleSuite).verifies
      ⟨sampleMaster.publicKey⟩ ((relayEntry (sampleEntry 1)).sign sampleMaster) = true := by
    decide +kernel
  exact (unambiguous (relayEntry (sampleEntry 1)) (relayEntry (sampleEntry 0))).2
    sampleMaster ⟨sampleMaster.publicKey⟩ (fun _ _ => rfl) verified

end MasterSigned

end Insub
