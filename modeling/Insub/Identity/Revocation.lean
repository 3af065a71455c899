/-
This file is about removing a device from a list, over all the histories a list can have. The
removal takes out the first device with the key, while the list counts a key as active as
long as any of its devices has it. Neither adding a device nor reading a list looks for the
key among those already there, so a removal is complete exactly when it finds the key once.
-/

import Mathlib
import Insub.Library.Run
import Insub.Identity.Lifecycle

namespace Insub

open Rust

variable {crypto : Primitives}

namespace DeviceList

/-- What a program can do to the list it holds. -/
inductive Deed (crypto : Primitives)
  | new (master : MasterKeyPair crypto)
  | add (master : MasterKeyPair crypto) (newCert : DeviceCertificate crypto)
  | remove (master : MasterKeyPair crypto) (devicePubkey : VerifyingKey crypto)
  | load (bytes : Bytes)

/-- The list after it. Bytes that are refused leave the program the list it had. -/
def perform (list : DeviceList crypto) : Deed crypto → DeviceList crypto
  | .new master => .new master
  | .add master newCert => (list.addDevice master newCert).2
  | .remove master devicePubkey => (list.removeDevice master devicePubkey).2
  | .load bytes =>
    match fromSerialized bytes with
    | .ok loaded => loaded
    | .error _ => list

/-- How often the list has the key. -/
def occurrences (list : DeviceList crypto) (devicePubkey : VerifyingKey crypto) : Nat :=
  list.devices.countP fun device => device.deviceEd25519Pubkey = devicePubkey

theorem containsActive_eq_false_iff {list : DeviceList crypto}
    {devicePubkey : VerifyingKey crypto} :
    list.containsActive devicePubkey = false ↔ list.occurrences devicePubkey = 0 := by
  rw [containsActive, List.any_eq_false, occurrences, List.countP_eq_zero]

/-- After the removal the key is not active, and the devices with other keys are still there. -/
def Revoked (list after : DeviceList crypto) (devicePubkey : VerifyingKey crypto) : Prop :=
  after.containsActive devicePubkey = false ∧
    ∀ device ∈ list.devices, device.deviceEd25519Pubkey ≠ devicePubkey → device ∈ after.devices

/-- If the deed is a removal and succeeds, it is complete. -/
def RemovesWholly (list : DeviceList crypto) : Deed crypto → Prop
  | .remove master devicePubkey =>
    ∀ after, list.removeDevice master devicePubkey = (.ok (), after) →
      list.Revoked after devicePubkey
  | _ => True

/-- If the deed is a removal, its key is in the list at most once, or the sequence number is
used up, so that the removal panics. -/
def NamesOnce (list : DeviceList crypto) : Deed crypto → Prop
  | .remove _ devicePubkey =>
    list.occurrences devicePubkey ≤ 1 ∨ list.sequence.toNat + 1 = 2 ^ 64
  | _ => True

/-! ### One removal -/

/-- A removal takes out the first device with the key. -/
theorem devices_of_removeDevice {list after : DeviceList crypto} {master : MasterKeyPair crypto}
    {devicePubkey : VerifyingKey crypto}
    (removed : list.removeDevice master devicePubkey = (.ok (), after)) :
    0 < list.occurrences devicePubkey ∧ after.devices = list.devices.eraseP fun device =>
      device.deviceEd25519Pubkey = devicePubkey := by
  obtain ⟨position, found, devices, -⟩ := removeDevice_ok removed
  refine ⟨?_, ?_⟩
  · obtain ⟨inside, matching, -⟩ := List.findIdx?_eq_some_iff_getElem.mp found
    exact List.countP_pos_iff.mpr ⟨_, List.getElem_mem inside, matching⟩
  · rw [List.eraseP_eq_eraseIdx, found, devices]

theorem occurrences_of_removeDevice {list after : DeviceList crypto}
    {master : MasterKeyPair crypto} {devicePubkey : VerifyingKey crypto}
    (removed : list.removeDevice master devicePubkey = (.ok (), after)) :
    after.occurrences devicePubkey + 1 = list.occurrences devicePubkey := by
  obtain ⟨present, devices⟩ := devices_of_removeDevice removed
  obtain ⟨device, member, matching⟩ := List.countP_pos_iff.mp present
  obtain ⟨named, before, rest, absent, first, split, erased⟩ := List.exists_of_eraseP
    (p := fun device => decide (device.deviceEd25519Pubkey = devicePubkey)) member matching
  have counted : (named :: rest).countP (fun device => device.deviceEd25519Pubkey = devicePubkey) =
      rest.countP (fun device => device.deviceEd25519Pubkey = devicePubkey) + 1 :=
    List.countP_cons_of_pos first
  rw [occurrences, occurrences, devices, erased, split, List.countP_append, List.countP_append,
    counted]
  rfl

/-- A removal that succeeds is complete exactly when the list had the key once. -/
theorem revoked_iff {list after : DeviceList crypto} {master : MasterKeyPair crypto}
    {devicePubkey : VerifyingKey crypto}
    (removed : list.removeDevice master devicePubkey = (.ok (), after)) :
    list.Revoked after devicePubkey ↔ list.occurrences devicePubkey = 1 := by
  have fewer := occurrences_of_removeDevice removed
  have kept : ∀ device ∈ list.devices, device.deviceEd25519Pubkey ≠ devicePubkey →
      device ∈ after.devices := by
    intro device member other
    rw [(devices_of_removeDevice removed).2]
    exact (List.mem_eraseP_of_neg (by simpa using other)).mpr member
  rw [Revoked, and_iff_left kept, containsActive_eq_false_iff]
  omega

/-- A removal of a key that the list has succeeds, unless the sequence number is used up. -/
theorem removeDevice_returns {list : DeviceList crypto} (master : MasterKeyPair crypto)
    {devicePubkey : VerifyingKey crypto} (present : 0 < list.occurrences devicePubkey)
    (counts : list.sequence.toNat + 1 < 2 ^ 64) :
    ∃ after, list.removeDevice master devicePubkey = (.ok (), after) := by
  cases found : list.devices.findIdx? fun device =>
      device.deviceEd25519Pubkey = devicePubkey with
  | none =>
    obtain ⟨device, member, matching⟩ := List.countP_pos_iff.mp present
    exact absurd matching (by simpa using List.findIdx?_eq_none_iff.mp found device member)
  | some position =>
    have counted : addU64 list.sequence 1 = .ok (list.sequence + 1) := if_pos counts
    exact ⟨_, by rw [removeDevice, found, okOr, Outcome.ok_orReturn, counted, Outcome.ok_orReturn]⟩

theorem removesWholly_iff_namesOnce (list : DeviceList crypto) (deed : Deed crypto) :
    list.RemovesWholly deed ↔ list.NamesOnce deed := by
  cases deed with
  | new | add | load => exact Iff.rfl
  | remove master devicePubkey =>
    constructor
    · intro wholly
      by_cases counts : list.sequence.toNat + 1 < 2 ^ 64
      · refine Or.inl (not_lt.mp fun several => ?_)
        obtain ⟨after, removed⟩ := removeDevice_returns master (zero_lt_one.trans several) counts
        exact several.ne' ((revoked_iff removed).mp (wholly after removed))
      · have bound := list.sequence.isLt
        exact Or.inr (by omega)
    · intro once after removed
      have counted := toNat_of_addU64 (removeDevice_ok removed).choose_spec.2.2.1
      have bound := after.sequence.isLt
      have present := (devices_of_removeDevice removed).1
      refine (revoked_iff removed).mpr ?_
      rcases once with once | usedUp <;> omega

/-- Whatever became of a list, each removal that succeeds is complete exactly when each finds
the key it is to remove no more than once. -/
theorem revocation_complete_iff (master : MasterKeyPair crypto) (deeds : List (Deed crypto)) :
    Run.Along perform RemovesWholly (new master) deeds ↔
      Run.Along perform NamesOnce (new master) deeds :=
  Run.along_iff (fun list deed (_ : True) => removesWholly_iff_namesOnce list deed)
    (fun _ _ _ _ => trivial) trivial deeds

/-- A device of the sample user. -/
def sampleDevice : DeviceCertificate sampleSuite :=
  .new Account.sampleMaster (SampleSuite.verifyingKey (SampleSuite.octets 32 2)) (Octets.zero 32)

/-- A device is added twice and removed once. -/
def sampleDeeds : List (Deed sampleSuite) :=
  [.add Account.sampleMaster sampleDevice, .add Account.sampleMaster sampleDevice,
    .remove Account.sampleMaster sampleDevice.deviceEd25519Pubkey]

/-- The removal succeeds, and the device is still active. -/
theorem sample_stays_active :
    ¬ Run.Along perform RemovesWholly (new Account.sampleMaster) sampleDeeds := by
  rintro ⟨-, -, wholly, -⟩
  have gone := (wholly _ (Prod.ext (by decide +kernel) rfl)).1
  revert gone
  decide +kernel

/-! ### Keys that do not repeat -/

/-- No two devices have the same key. -/
def DistinctKeys (list : DeviceList crypto) : Prop :=
  (list.devices.map DeviceCertificate.deviceEd25519Pubkey).Nodup

/-- A device is added only when its key is not active, as the callers of `add_device` see to, and
a list is read only when no key repeats in it. -/
def BringsNew (list : DeviceList crypto) : Deed crypto → Prop
  | .add _ newCert => list.containsActive newCert.deviceEd25519Pubkey = false
  | .load bytes => ∀ loaded : DeviceList crypto, fromSerialized bytes = .ok loaded →
    loaded.DistinctKeys
  | _ => True

theorem distinctKeys_new (master : MasterKeyPair crypto) : (new master).DistinctKeys :=
  List.nodup_nil

theorem DistinctKeys.occurrences_le {list : DeviceList crypto} (distinct : list.DistinctKeys)
    (devicePubkey : VerifyingKey crypto) : list.occurrences devicePubkey ≤ 1 := by
  have once := List.nodup_iff_count_le_one.mp distinct devicePubkey
  rw [List.count, List.countP_map] at once
  exact once

theorem DistinctKeys.perform {list : DeviceList crypto} (distinct : list.DistinctKeys)
    {deed : Deed crypto} (new : list.BringsNew deed) : (list.perform deed).DistinctKeys := by
  cases deed with
  | new master => exact distinctKeys_new master
  | add master newCert =>
    rcases added : list.addDevice master newCert with ⟨fault | _, after⟩
    · have failed : list.edit master (.add newCert) = (.error fault, after) := added
      rw [DeviceList.perform, added, edit_error failed]
      exact distinct
    · rw [DeviceList.perform, added, DistinctKeys, (addDevice_ok added).2.1, List.map_append]
      refine List.nodup_append'.mpr ⟨distinct, List.nodup_singleton _, ?_⟩
      intro key member only
      obtain ⟨device, listed, rfl⟩ := List.mem_map.mp member
      have absent := List.any_eq_false.mp new device listed
      exact absent (decide_eq_true (List.mem_singleton.mp only))
  | remove master devicePubkey =>
    rcases removed : list.removeDevice master devicePubkey with ⟨fault | _, after⟩
    · have failed : list.edit master (.remove devicePubkey) = (.error fault, after) := removed
      rw [DeviceList.perform, removed, edit_error failed]
      exact distinct
    · rw [DeviceList.perform, removed, DistinctKeys, (devices_of_removeDevice removed).2]
      exact distinct.sublist (List.eraseP_sublist.map _)
  | load bytes =>
    rw [DeviceList.perform]
    cases read : (fromSerialized bytes : Outcome (DeviceList crypto)) with
    | ok loaded => exact new loaded read
    | error fault => exact distinct

/-- Where no key is brought in twice, every removal is complete. -/
theorem along_removesWholly {master : MasterKeyPair crypto} {deeds : List (Deed crypto)}
    (brings : Run.Along perform BringsNew (new master) deeds) :
    Run.Along perform RemovesWholly (new master) deeds := by
  refine Run.along_of_along ?_ (distinctKeys_new master) brings
  intro list deed distinct new
  refine ⟨(removesWholly_iff_namesOnce list deed).mpr ?_, distinct.perform new⟩
  cases deed with
  | new | add | load => trivial
  | remove master devicePubkey => exact Or.inl (distinct.occurrences_le devicePubkey)

end DeviceList

end Insub
