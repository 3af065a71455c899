/-
This file follows a device list from the moment its user makes it. The master key signs it again
whenever a device is added or removed, and the sequence number counts these operations, so what
the master key has signed last is always what the list says. The list has no field for the number
of its devices: they are recovered from the length of what is left behind the signature.
-/

import Mathlib
import Insub.Crypto.SampleSuite
import Insub.Identity.Devices

namespace Insub

open Rust

variable {crypto : Primitives}

/-! ### Reading back certificates and lists -/

namespace DeviceCertificate

theorem length_serialize (certificate : DeviceCertificate crypto) :
    certificate.serialize.length = 128 := by
  simp [serialize]

theorem fromSerialized_serialize (certificate : DeviceCertificate crypto) :
    fromSerialized certificate.serialize = .ok certificate := by
  have last := drain_append certificate.masterSignature []
  rw [List.append_nil] at last
  simp [fromSerialized, serialize, drain_append, VerifyingKey.fromBytes_bytes, okOr, last]

end DeviceCertificate

namespace DeviceList

theorem length_flatMap_serialize (devices : List (DeviceCertificate crypto)) :
    (devices.flatMap DeviceCertificate.serialize).length = 128 * devices.length := by
  induction devices with
  | nil => rfl
  | cons device rest inductionHypothesis =>
    rw [List.flatMap_cons, List.length_append, inductionHypothesis,
      DeviceCertificate.length_serialize, List.length_cons]
    ring

theorem length_serialize (list : DeviceList crypto) :
    list.serialize.length = 72 + 128 * list.devices.length := by
  rw [serialize, List.length_append, List.length_append, length_flatMap_serialize,
    List.Vector.toList_length, List.Vector.toList_length]
  ring

/-- The loop takes one certificate after the other off the bytes. -/
theorem readDevices_flatMap (devices before : List (DeviceCertificate crypto)) :
    readDevices devices.length (devices.flatMap DeviceCertificate.serialize) before =
      .ok (before ++ devices) := by
  induction devices generalizing before with
  | nil => simp [readDevices]
  | cons device rest inductionHypothesis =>
    obtain ⟨deviceBytes, written⟩ : ∃ octets : Octets 128, octets.toList = device.serialize :=
      ⟨⟨device.serialize, device.length_serialize⟩, rfl⟩
    rw [List.length_cons, List.flatMap_cons, ← written, readDevices, drain_append, Outcome.bind_ok]
    dsimp only
    rw [written, DeviceCertificate.fromSerialized_serialize]
    simp [Outcome.mapErr, inductionHypothesis]

/-- The decoder finds out how many devices a list has. -/
theorem fromSerialized_serialize_eq (list : DeviceList crypto) :
    (fromSerialized list.serialize : Outcome (DeviceList crypto)) =
      if maxDevices < list.devices.length then .error (.error "Too many devices")
      else .ok list := by
  have enough : ¬ list.serialize.length < 8 + 64 := by
    rw [length_serialize]
    omega
  have size := length_flatMap_serialize list.devices
  have whole : ¬ (list.devices.flatMap DeviceCertificate.serialize).length % 128 ≠ 0 := by
    rw [size, Nat.mul_mod_right]
    exact not_not.mpr rfl
  have count : (list.devices.flatMap DeviceCertificate.serialize).length / 128 =
      list.devices.length := by
    rw [size, Nat.mul_div_cancel_left _ (by norm_num)]
  have read := readDevices_flatMap list.devices []
  rw [List.nil_append] at read
  rw [fromSerialized, if_neg enough, serialize, drain_append, Outcome.bind_ok]
  dsimp only
  rw [drain_append, Outcome.bind_ok]
  dsimp only
  rw [if_neg whole, count, read, Outcome.bind_ok, ofBeBytes_beBytes list.sequence (by norm_num)]

theorem fromSerialized_serialize {list : DeviceList crypto}
    (few : list.devices.length ≤ maxDevices) : fromSerialized list.serialize = .ok list := by
  rw [fromSerialized_serialize_eq, if_neg (not_lt.mpr few)]

theorem fromSerialized_serialize_many {list : DeviceList crypto}
    (many : maxDevices < list.devices.length) :
    (fromSerialized list.serialize : Outcome (DeviceList crypto)) =
      .error (.error "Too many devices") := by
  rw [fromSerialized_serialize_eq, if_pos many]

/-! ### Operations -/

theorem addDevice_ok {list after : DeviceList crypto} {master : MasterKeyPair crypto}
    {newCert : DeviceCertificate crypto} (added : list.addDevice master newCert = (.ok (), after)) :
    list.devices.length < maxDevices ∧ after.devices = list.devices ++ [newCert] ∧
      addU64 list.sequence 1 = .ok after.sequence ∧
        after.masterSignature = signData after.sequence after.devices master := by
  by_cases full : maxDevices ≤ list.devices.length
  · rw [addDevice, if_pos full] at added
    cases added
  · rw [addDevice, if_neg full, Outcome.orReturn_eq_ok_iff] at added
    obtain ⟨sequence, counted, same⟩ := added
    rw [← (Prod.mk.inj same).2]
    exact ⟨not_le.mp full, rfl, counted, rfl⟩

theorem removeDevice_ok {list after : DeviceList crypto} {master : MasterKeyPair crypto}
    {devicePubkey : VerifyingKey crypto}
    (removed : list.removeDevice master devicePubkey = (.ok (), after)) :
    ∃ position, list.devices.findIdx? (fun device =>
        device.deviceEd25519Pubkey = devicePubkey) = some position ∧
      after.devices = list.devices.eraseIdx position ∧
        addU64 list.sequence 1 = .ok after.sequence ∧
          after.masterSignature = signData after.sequence after.devices master := by
  obtain ⟨position, found, removed⟩ := Outcome.orReturn_eq_ok_iff.mp removed
  obtain ⟨sequence, counted, same⟩ := Outcome.orReturn_eq_ok_iff.mp removed
  rw [← (Prod.mk.inj same).2]
  exact ⟨position, okOr_eq_ok_iff.mp found, rfl, counted, rfl⟩

/-- One of the operations on a list. -/
inductive Edit (crypto : Primitives)
  | add (newCert : DeviceCertificate crypto)
  | remove (devicePubkey : VerifyingKey crypto)

def edit (list : DeviceList crypto) (master : MasterKeyPair crypto) :
    Edit crypto → Outcome Unit × DeviceList crypto
  | .add newCert => list.addDevice master newCert
  | .remove devicePubkey => list.removeDevice master devicePubkey

/-- What fails leaves the list alone. -/
theorem edit_error {list after : DeviceList crypto} {master : MasterKeyPair crypto}
    {edit : Edit crypto} {fault : Fault} (failed : list.edit master edit = (.error fault, after)) :
    after = list := by
  cases edit with
  | add newCert =>
    rw [DeviceList.edit, addDevice] at failed
    split at failed
    · exact (Prod.mk.inj failed).2.symm
    · cases counted : addU64 list.sequence 1 with
      | error fault =>
        rw [counted] at failed
        exact (Prod.mk.inj failed).2.symm
      | ok sequence =>
        rw [counted] at failed
        cases failed
  | remove devicePubkey =>
    rw [DeviceList.edit, removeDevice] at failed
    cases found : list.devices.findIdx? fun device =>
        device.deviceEd25519Pubkey = devicePubkey with
    | none =>
      rw [found] at failed
      exact (Prod.mk.inj failed).2.symm
    | some position =>
      rw [found, okOr, Outcome.ok_orReturn] at failed
      cases counted : addU64 list.sequence 1 with
      | error fault =>
        rw [counted] at failed
        exact (Prod.mk.inj failed).2.symm
      | ok sequence =>
        rw [counted] at failed
        cases failed

/-! ### Runs -/

/-- A list and how many operations on it have succeeded. -/
structure Account (crypto : Primitives) where
  list : DeviceList crypto
  succeeded : Nat

namespace Account

def new (master : MasterKeyPair crypto) : Account crypto := ⟨.new master, 0⟩

def perform (master : MasterKeyPair crypto) (account : Account crypto) (edit : Edit crypto) :
    Account crypto :=
  match account.list.edit master edit with
  | (.ok (), after) => ⟨after, account.succeeded + 1⟩
  | (.error _, after) => ⟨after, account.succeeded⟩

/-- The master key has signed what the list says, and the sequence number has kept count. -/
structure Sound (master : MasterKeyPair crypto) (account : Account crypto) : Prop where
  signed : account.list.masterSignature =
    signData account.list.sequence account.list.devices master
  counted : account.list.sequence.toNat = account.succeeded
  few : account.list.devices.length ≤ maxDevices

theorem sound_new (master : MasterKeyPair crypto) : (new master).Sound master :=
  ⟨rfl, rfl, Nat.zero_le _⟩

theorem sequence_of_edit_ok {list after : DeviceList crypto} {master : MasterKeyPair crypto}
    {edit : Edit crypto} (edited : list.edit master edit = (.ok (), after)) :
    after.sequence.toNat = list.sequence.toNat + 1 := by
  cases edit with
  | add newCert => exact toNat_of_addU64 (addDevice_ok edited).2.2.1
  | remove devicePubkey =>
    obtain ⟨_, -, -, counted, -⟩ := removeDevice_ok edited
    exact toNat_of_addU64 counted

theorem Sound.perform {master : MasterKeyPair crypto} {account : Account crypto}
    (sound : account.Sound master) (edit : Edit crypto) :
    (account.perform master edit).Sound master := by
  rcases edited : account.list.edit master edit with ⟨fault | _, after⟩
  · rw [Account.perform, edited, edit_error edited]
    exact sound
  · rw [Account.perform, edited]
    have counted : after.sequence.toNat = account.succeeded + 1 := by
      rw [sequence_of_edit_ok edited, sound.counted]
    cases edit with
    | add newCert =>
      obtain ⟨room, devices, -, signed⟩ := addDevice_ok edited
      refine ⟨signed, counted, ?_⟩
      rw [devices, List.length_append, List.length_singleton]
      exact room
    | remove devicePubkey =>
      obtain ⟨position, -, devices, -, signed⟩ := removeDevice_ok edited
      refine ⟨signed, counted, ?_⟩
      rw [devices]
      exact (List.length_eraseIdx_le _ _).trans sound.few

theorem sound_foldl (master : MasterKeyPair crypto) (edits : List (Edit crypto)) :
    (edits.foldl (perform master) (new master)).Sound master :=
  List.foldlRecOn edits (perform master) (sound_new master)
    fun _ sound edit _ => sound.perform edit

/-- However its user adds and removes devices, a list verifies under the master key, counts the
operations that succeeded, has few devices and is read back. What fails leaves it alone, and what
succeeds counts it up. -/
theorem lifecycle {master : MasterKeyPair crypto} (signs : master.privateKey.SignsVerifiably)
    (edits : List (Edit crypto)) :
    let account := edits.foldl (perform master) (new master)
    account.list.verify ⟨master.publicKey⟩ = true ∧
      account.list.sequence.toNat = account.succeeded ∧
        account.list.devices.length ≤ maxDevices ∧
          fromSerialized account.list.serialize = .ok account.list ∧
            ∀ (edit : Edit crypto) (outcome : Outcome Unit) (after : DeviceList crypto),
              account.list.edit master edit = (outcome, after) →
                (¬ outcome.Returns → after = account.list) ∧
                  (outcome.Returns →
                    after.sequence.toNat = account.list.sequence.toNat + 1) := by
  intro account
  have sound : account.Sound master := sound_foldl master edits
  refine ⟨?_, sound.counted, sound.few, fromSerialized_serialize sound.few, ?_⟩
  · rw [verify, sound.signed]
    exact signs _
  · rintro edit (fault | _) after edited
    · exact ⟨fun _ => edit_error edited, fun ⟨_, returned⟩ => nomatch returned⟩
    · exact ⟨fun fails => absurd (Outcome.returns_ok ()) fails,
        fun _ => sequence_of_edit_ok edited⟩

/-- A master key of the sample suite. -/
def sampleMaster : MasterKeyPair sampleSuite where
  privateKey :=
    ⟨SampleSuite.verifyingKey (SampleSuite.octets 32 1), SampleSuite.sign (SampleSuite.octets 32 1)⟩

/-- A device is added, one is not found, and the first is removed. -/
def sampleEdits : List (Edit sampleSuite) :=
  [.add (.new sampleMaster (SampleSuite.verifyingKey (SampleSuite.octets 32 2)) (Octets.zero 32)),
    .remove (SampleSuite.verifyingKey (SampleSuite.octets 32 3)),
    .remove (SampleSuite.verifyingKey (SampleSuite.octets 32 2))]

theorem sample_lifecycle :
    let account := sampleEdits.foldl (perform sampleMaster) (new sampleMaster)
    account.succeeded = 2 ∧ account.list.verify ⟨sampleMaster.publicKey⟩ = true ∧
      account.list.sequence.toNat = account.succeeded ∧
        fromSerialized account.list.serialize = .ok account.list := by
  have signs : sampleMaster.privateKey.SignsVerifiably := fun _ => decide_eq_true rfl
  obtain ⟨verifies, counted, -, read, -⟩ := lifecycle signs sampleEdits
  exact ⟨by decide +kernel, verifies, counted, read⟩

end Account

end DeviceList

end Insub
