/-
This file models `find_contact` of `runtime.rs`, and what `from_mnemonic` of `api.rs` makes of
the device list that it finds. A contact record is taken if one of the devices that it lists has
signed it. That the master key has signed the list, or a certificate of it, is not looked at, so
the contact is authentic exactly as long as the nodes answer with lists of the master key.
-/

import Mathlib
import Insub.Crypto.SampleSuite
import Insub.Dht.Contact
import Insub.Runtime.FindValue

namespace Insub

open Rust

variable {crypto : Primitives}

/-- The key under which the contact record of a user is kept. -/
def contactKeyFor (crypto : Primitives) (masterPubkey : Key) : Key :=
  crypto.sha256 (ascii "contact" ++ masterPubkey.toList)

/-- What `find_contact` makes of the value that it finds. -/
def readContact (crypto : Primitives) (data : Bytes) : Outcome (ContactRecord crypto) := do
  let record ← Record.fromSerialized data
  if record.tag ≠ .contact then .error (.error "unexpected record type")
  else do
    let contact ← ContactRecord.fromSerialized record.data
    if contact.verify = true then .ok contact
    else .error (.error "contact record signature invalid")

namespace Search

/-- What `find_contact` returns once the lookup has ended. -/
def contact (crypto : Primitives) (search : Search) : Option (Outcome (ContactRecord crypto)) :=
  search.result.map fun found => do
    let (value, _) ← found
    let data ← okOr "no contact record found" value
    readContact crypto data

/-- `find_contact`, as far as the waits go. -/
def findContact (crypto : Primitives) (client : DhtClient) (routing : RoutingTable)
    (pile : List PileItem) (masterPubkey : Key) (waits : List Wait) :
    Option (Outcome (ContactRecord crypto)) :=
  (findValue client routing pile (contactKeyFor crypto masterPubkey) waits).contact crypto

end Search

/-- The master key has signed the list and every certificate in it. -/
structure DeviceList.Certified (list : DeviceList crypto) (masterPubkey : Key) : Prop where
  listed : list.VerifiesUnder masterPubkey
  devices : ∀ certificate ∈ list.devices, certificate.VerifiesUnder masterPubkey

/-- The chain from the master key to the signature of the record. -/
structure ContactRecord.Authentic (contact : ContactRecord crypto) (masterPubkey : Key) :
    Prop where
  certified : contact.deviceList.Certified masterPubkey
  signed : ∃ certificate ∈ contact.deviceList.devices,
    certificate.deviceEd25519Pubkey.verify
      (signedData contact.deviceList contact.relayAddr contact.relayId)
      contact.deviceSignature = true

/-- A response whose value, if it is a contact record that one of its devices has signed, has a
list that the master key has signed. -/
def DhtOperation.BringsCertified (crypto : Primitives) (masterPubkey : Key)
    (response : DhtOperation) : Prop :=
  ∀ value, response.carried = some value → ∀ contact, readContact crypto value = .ok contact →
    contact.deviceList.Certified masterPubkey

/-- The only link of the chain that is verified. -/
theorem signed_of_readContact {data : Bytes} {contact : ContactRecord crypto}
    (read : readContact crypto data = .ok contact) :
    ∃ certificate ∈ contact.deviceList.devices,
      certificate.deviceEd25519Pubkey.verify
        (ContactRecord.signedData contact.deviceList contact.relayAddr contact.relayId)
        contact.deviceSignature = true := by
  rw [readContact] at read
  obtain ⟨record, -, read⟩ := Outcome.bind_eq_ok_iff.mp read
  by_cases other : record.tag ≠ .contact
  · rw [if_pos other] at read
    cases read
  · rw [if_neg other] at read
    obtain ⟨found, -, read⟩ := Outcome.bind_eq_ok_iff.mp read
    by_cases verified : found.verify = true
    · rw [if_pos verified] at read
      rw [← Except.ok.inj read]
      exact List.any_eq_true.mp verified
    · rw [if_neg verified] at read
      cases read

namespace Search

/-- A contact is read off the value that the lookup returns. -/
theorem contact_eq_ok_iff {search : Search} {contact : ContactRecord crypto} :
    search.contact crypto = some (.ok contact) ↔ ∃ value shortlist,
      search.result = some (.ok (some value, shortlist)) ∧
        readContact crypto value = .ok contact := by
  rw [Search.contact]
  refine ⟨fun found => ?_, fun ⟨value, shortlist, returned, read⟩ => ?_⟩
  · rcases returned : search.result with _ | fault | ⟨value, shortlist⟩
    · rw [returned] at found
      cases found
    · rw [returned] at found
      cases found
    · rw [returned] at found
      cases value with
      | none => cases found
      | some value => exact ⟨value, shortlist, rfl, Option.some.inj found⟩
  · rw [returned]
    exact congrArg some read

/-- A contact that is found is authentic exactly if none of the packets that the lookup takes
for an answer brings a contact record of one of its own devices whose list, or a certificate in
it, is not signed by the master key. -/
theorem findContact_authentic_iff (client : DhtClient) (routing : RoutingTable)
    (pile : List PileItem) (masterPubkey : Key) (waits : List Wait) :
    (∀ contact, findContact crypto client routing pile masterPubkey waits = some (.ok contact) →
      contact.Authentic masterPubkey) ↔
        Run.Along step (Answers (DhtOperation.BringsCertified crypto masterPubkey))
          (start client routing pile (contactKeyFor crypto masterPubkey)) waits := by
  have unfound := unfound_start client routing pile (contactKeyFor crypto masterPubkey)
  rw [← foldl_finds_iff _ waits unfound]
  refine ⟨fun authentic value shortlist returned => ?_, fun finds contact found => ?_⟩
  · obtain ⟨response, taken, carried⟩ := carried_of_result unfound waits returned
    refine ⟨response, taken, carried, fun value' carried' contact read => ?_⟩
    rw [carried, Option.some.injEq] at carried'
    subst carried'
    exact (authentic contact (contact_eq_ok_iff.mpr ⟨value, shortlist, returned, read⟩)).certified
  · obtain ⟨value, shortlist, returned, read⟩ := contact_eq_ok_iff.mp found
    obtain ⟨response, -, carried, certified⟩ := finds value shortlist returned
    exact ⟨certified value carried contact read, signed_of_readContact read⟩

end Search

/-! ### The list that is signed again -/

/-- The device list that `from_mnemonic` publishes: the one of the contact that it finds, or a
new one, with the certificate of this device. -/
def fromMnemonicList (found : Outcome (ContactRecord crypto)) (master : MasterKeyPair crypto)
    (cert : DeviceCertificate crypto) : Outcome (DeviceList crypto) := do
  let deviceList :=
    match ← found.asOption with
    | some contact => contact.deviceList
    | none => DeviceList.new master
  if deviceList.containsActive cert.deviceEd25519Pubkey = true then .ok deviceList
  else
    match deviceList.addDevice master cert with
    | (added, deviceList) => (added.inContext "failed to add device").map fun _ => deviceList

/-- What the master key adds to a list of its own is a list of its own. -/
theorem DeviceList.Certified.addDevice {master : MasterKeyPair crypto}
    (signs : master.privateKey.SignsVerifiably) {list after : DeviceList crypto}
    (certified : list.Certified master.publicKey.bytes) {cert : DeviceCertificate crypto}
    (own : cert.VerifiesUnder master.publicKey.bytes)
    (added : list.addDevice master cert = (.ok (), after)) :
    after.Certified master.publicKey.bytes := by
  by_cases full : maxDevices ≤ list.devices.length
  · rw [DeviceList.addDevice, if_pos full] at added
    cases added
  · rw [DeviceList.addDevice, if_neg full, Outcome.orReturn_eq_ok_iff] at added
    obtain ⟨sequence, -, same⟩ := added
    rw [← (Prod.mk.inj same).2]
    refine ⟨⟨⟨master.publicKey⟩, UserID.ofBytes_bytes ⟨master.publicKey⟩, signs _⟩,
      fun certificate member => ?_⟩
    rcases List.mem_append.mp member with earlier | new
    · exact certified.devices certificate earlier
    · rw [List.mem_singleton.mp new]
      exact own

/-- A list that is found is published again, with the device unless it is listed. -/
theorem fromMnemonicList_ok {master : MasterKeyPair crypto} {contact : ContactRecord crypto}
    {cert : DeviceCertificate crypto} {list : DeviceList crypto}
    (published : fromMnemonicList (.ok contact) master cert = .ok list) :
    contact.deviceList.containsActive cert.deviceEd25519Pubkey = true ∧
        list = contact.deviceList ∨
      contact.deviceList.containsActive cert.deviceEd25519Pubkey = false ∧
        contact.deviceList.addDevice master cert = (.ok (), list) := by
  rw [fromMnemonicList, Outcome.asOption, Outcome.bind_ok] at published
  dsimp only at published
  by_cases listed : contact.deviceList.containsActive cert.deviceEd25519Pubkey = true
  · rw [if_pos listed] at published
    exact Or.inl ⟨listed, (Except.ok.inj published).symm⟩
  · rw [if_neg listed] at published
    refine Or.inr ⟨Bool.eq_false_of_not_eq_true listed, ?_⟩
    rcases added : contact.deviceList.addDevice master cert with ⟨(_ | _) | _, after⟩
    · rw [added] at published
      cases published
    · rw [added] at published
      cases published
    · rw [added] at published
      rw [← Except.ok.inj published]

/-- From an authentic contact, `from_mnemonic` gets a list of the master key. -/
theorem certified_fromMnemonicList {master : MasterKeyPair crypto}
    (signs : master.privateKey.SignsVerifiably) {contact : ContactRecord crypto}
    (authentic : contact.Authentic master.publicKey.bytes) {cert : DeviceCertificate crypto}
    (own : cert.VerifiesUnder master.publicKey.bytes) {list : DeviceList crypto}
    (published : fromMnemonicList (.ok contact) master cert = .ok list) :
    list.Certified master.publicKey.bytes := by
  rcases fromMnemonicList_ok published with ⟨-, rfl⟩ | ⟨-, added⟩
  · exact authentic.certified
  · exact authentic.certified.addDevice signs own added

/-! ### A contact of the attacker's making -/

namespace Search

open LookupTrace (sampleNode sampleAddr sampleTable)

/-- The key pair of a number. -/
def sampleKey (value : Nat) : SigningKey sampleSuite where
  verifyingKey := SampleSuite.verifyingKey (SampleSuite.octets 32 value)
  sign := SampleSuite.sign (SampleSuite.octets 32 value)

/-- The device of the attacker, whose key is number `2`. No master key has signed it. -/
def foreignCertificate : DeviceCertificate sampleSuite where
  deviceEd25519Pubkey := (sampleKey 2).verifyingKey
  deviceX25519Pubkey := Octets.zero 32
  masterSignature := Octets.zero 64

/-- A contact record with this device only, which the device has signed. -/
def foreignContact : ContactRecord sampleSuite :=
  .new ⟨0, [foreignCertificate], Octets.zero 64⟩ sampleAddr 0 (sampleKey 2)

/-- The user whose contact is looked up. -/
def sampleMaster : MasterKeyPair sampleSuite := ⟨sampleKey 1⟩

/-- The device on which the user enters the mnemonic. -/
def ownCertificate : DeviceCertificate sampleSuite where
  deviceEd25519Pubkey := (sampleKey 3).verifyingKey
  deviceX25519Pubkey := Octets.zero 32
  masterSignature := sampleMaster.sign
    (DeviceCertificate.signedData (sampleKey 3).verifyingKey (Octets.zero 32))

/-- A node answers the lookup with the record of the attacker. -/
def foreignAnswer : DhtOperation :=
  .value (sampleNode 1) (contactKeyFor sampleSuite sampleMaster.publicKey.bytes)
    (some (Record.serialize ⟨.contact, foreignContact.serialize⟩)) []

/-- The contact is returned, and the master key signs its list, with the device of the
attacker. -/
theorem foreign_contact_found : ∃ list,
    findContact sampleSuite (.new (sampleNode 0)) sampleTable [] sampleMaster.publicKey.bytes
        [⟨[[(.new 0 0 (.new .dhtOperation foreignAnswer.serialize), sampleAddr)]], 0, fun _ => 0⟩] =
      some (.ok foreignContact) ∧
    ¬ foreignContact.Authentic sampleMaster.publicKey.bytes ∧
    fromMnemonicList (.ok foreignContact) sampleMaster ownCertificate = .ok list ∧
    list.VerifiesUnder sampleMaster.publicKey.bytes ∧
    list.containsActive (sampleKey 2).verifyingKey = true := by
  refine ⟨(foreignContact.deviceList.addDevice sampleMaster ownCertificate).2, ?_⟩
  refine ⟨by decide +kernel, fun authentic => ?_, by decide +kernel, by decide +kernel,
    by decide +kernel⟩
  have unsigned : ¬ foreignContact.deviceList.VerifiesUnder sampleMaster.publicKey.bytes := by
    decide +kernel
  exact unsigned authentic.certified.listed

end Search

end Insub
