/-
This file asks whether every device that is enrolled is an entry of its own. The keys of a device
are derived from the mnemonic and the password and from nothing else, so all devices that are
enrolled with them share their keys. The first one adds an entry, unless its key is listed already,
and every further one finds the key in the list and adds nothing.
-/

import Mathlib
import Insub.Client.Recovery
import Insub.Identity.Lifecycle
import Insub.Library.Run

namespace Insub

open Rust

variable {crypto : Primitives} {words : Mnemonics crypto}

/-! ### Lists and keys -/

namespace DeviceList

/-- The keys of the devices. -/
def keys (list : DeviceList crypto) : List (VerifyingKey crypto) :=
  list.devices.map DeviceCertificate.deviceEd25519Pubkey

theorem containsActive_iff {list : DeviceList crypto} {key : VerifyingKey crypto} :
    list.containsActive key = true ↔ key ∈ list.keys := by
  simp [containsActive, keys]

/-- Revoking a device leaves those with other keys in the list. -/
theorem mem_of_removeDevice {list after : DeviceList crypto} {master : MasterKeyPair crypto}
    {devicePubkey : VerifyingKey crypto}
    (removed : list.removeDevice master devicePubkey = (.ok (), after))
    {device : DeviceCertificate crypto} (member : device ∈ list.devices)
    (other : device.deviceEd25519Pubkey ≠ devicePubkey) : device ∈ after.devices := by
  obtain ⟨position, found, devices, -⟩ := removeDevice_ok removed
  have erased : after.devices = list.devices.eraseP fun device =>
      device.deviceEd25519Pubkey = devicePubkey := by
    rw [devices, List.eraseP_eq_eraseIdx, found]
  rw [erased, List.mem_eraseP_of_neg (by simpa using other)]
  exact member

end DeviceList

/-! ### Enrolments -/

/-- A device is enrolled on a new machine, or by a client that exists. The record that it finds has
the published list, and the rest as it may be. -/
structure Enrolment (crypto : Primitives) where
  on : Setup crypto ⊕ (Client crypto × ClientSurroundings crypto)
  relayAddr : SocketAddr
  relayId : U128
  deviceSignature : Signature

namespace Enrolment

variable (words) (mnemonic : words.Mnemonic) (password : Option String)

/-- The record that is found while a list is published. -/
def found (enrolment : Enrolment crypto) (list : DeviceList crypto) : ContactRecord crypto where
  deviceList := list
  relayAddr := enrolment.relayAddr
  relayId := enrolment.relayId
  deviceSignature := enrolment.deviceSignature

/-- The list that an enrolment publishes. -/
def enrol (list : DeviceList crypto) (enrolment : Enrolment crypto) :
    Outcome (DeviceList crypto) :=
  match enrolment.on with
  | .inl setup =>
    (Client.fromMnemonic words mnemonic password
      { setup with contact := .ok (enrolment.found list) }).map Client.deviceList
  | .inr (client, env) =>
    match client.addDevice words mnemonic password
        { env with contact := .ok (enrolment.found list) } with
    | (outcome, after) => outcome.map fun _ => after.deviceList

def perform (list : DeviceList crypto) (enrolment : Enrolment crypto) : DeviceList crypto :=
  match enrol words mnemonic password list enrolment with
  | .ok next => next
  | .error _ => list

def Succeeds (list : DeviceList crypto) (enrolment : Enrolment crypto) : Prop :=
  (enrol words mnemonic password list enrolment).Returns

/-- The enrolment adds one entry, with a key that was not in the list. -/
def Adds (list : DeviceList crypto) (enrolment : Enrolment crypto) : Prop :=
  ∀ next, enrol words mnemonic password list enrolment = .ok next →
    ∃ cert, next.devices = list.devices ++ [cert] ∧ cert.deviceEd25519Pubkey ∉ list.keys

/-- The list does not have the key that is derived. -/
def Fresh (list : DeviceList crypto) : Prop :=
  (Keychain.fromMnemonic words mnemonic password).deviceEd25519Pub ∉
    list.keys.map VerifyingKey.bytes

variable {words} {mnemonic} {password}

/-- What an operation adds to a list is a device with the derived key. -/
theorem devices_of_addDevice {list next : DeviceList crypto} {key : VerifyingKey crypto}
    {master : MasterKeyPair crypto} {deviceX25519Pubkey : Key}
    (edited : list.containsActive key = true ∧ next = list ∨
      list.containsActive key = false ∧
        list.addDevice master (.new master key deviceX25519Pubkey) = (.ok (), next)) :
    key ∈ list.keys ∧ next.devices = list.devices ∨
      key ∉ list.keys ∧ ∃ cert : DeviceCertificate crypto, cert.deviceEd25519Pubkey = key ∧
        next.devices = list.devices ++ [cert] := by
  rcases edited with ⟨listed, rfl⟩ | ⟨unlisted, added⟩
  · exact Or.inl ⟨DeviceList.containsActive_iff.mp listed, rfl⟩
  · refine Or.inr ⟨?_, _, rfl, (DeviceList.addDevice_ok added).2.1⟩
    rw [← DeviceList.containsActive_iff, unlisted]
    exact Bool.false_ne_true

/-- An enrolment adds the derived key, if it is not listed. -/
theorem enrol_ok {list next : DeviceList crypto} {enrolment : Enrolment crypto}
    (enrolled : enrol words mnemonic password list enrolment = .ok next) :
    ∃ key, key.bytes = (Keychain.fromMnemonic words mnemonic password).deviceEd25519Pub ∧
      (key ∈ list.keys ∧ next.devices = list.devices ∨
        key ∉ list.keys ∧ ∃ cert : DeviceCertificate crypto, cert.deviceEd25519Pubkey = key ∧
          next.devices = list.devices ++ [cert]) := by
  obtain ⟨setup | ⟨client, env⟩, relayAddr, relayId, deviceSignature⟩ := enrolment
  · obtain ⟨restored, success, rfl⟩ := Outcome.map_eq_ok_iff.mp enrolled
    obtain ⟨-, key, parsed, listed⟩ := Client.fromMnemonic_ok success
    exact ⟨key, VerifyingKey.bytes_of_fromBytes parsed,
      devices_of_addDevice (fromMnemonicList_ok listed)⟩
  · rw [enrol] at enrolled
    dsimp only at enrolled
    rcases performed : client.addDevice words mnemonic password
      { env with contact := .ok ⟨list, relayAddr, relayId, deviceSignature⟩ } with ⟨outcome, after⟩
    rw [show found _ list = ⟨list, relayAddr, relayId, deviceSignature⟩ from rfl, performed]
      at enrolled
    obtain ⟨operations, rfl, rfl⟩ := Outcome.map_eq_ok_iff.mp enrolled
    have ran : client.perform words mnemonic password
      { env with contact := .ok ⟨list, relayAddr, relayId, deviceSignature⟩ } .add =
        (.ok operations, after) := performed
    obtain ⟨-, start, next, latest, ⟨key, parsed, edited⟩, published⟩ := Client.perform_ok ran
    obtain rfl : list = start := Except.ok.inj latest
    obtain ⟨sequence, -, kept, -⟩ := Client.publish_ok published
    have grown := devices_of_addDevice edited
    refine ⟨key, VerifyingKey.bytes_of_fromBytes parsed, ?_⟩
    rw [kept]
    exact grown

theorem fresh_iff {list : DeviceList crypto} {key : VerifyingKey crypto}
    (bytes : key.bytes = (Keychain.fromMnemonic words mnemonic password).deviceEd25519Pub) :
    Fresh words mnemonic password list ↔ key ∉ list.keys := by
  rw [Fresh, ← bytes, List.mem_map]
  simp [VerifyingKey.bytes_inj]

/-- Where an enrolment succeeds, it adds an entry exactly if the list does not have the derived key
yet. -/
theorem adds_iff_fresh {list : DeviceList crypto} {enrolment : Enrolment crypto}
    (succeeds : Succeeds words mnemonic password list enrolment) :
    Adds words mnemonic password list enrolment ↔ Fresh words mnemonic password list := by
  obtain ⟨next, enrolled⟩ := succeeds
  obtain ⟨key, bytes, ⟨listed, same⟩ | ⟨unlisted, cert, rfl, added⟩⟩ := enrol_ok enrolled
  · rw [fresh_iff bytes]
    refine iff_of_false (fun adds => ?_) (not_not.mpr listed)
    obtain ⟨cert, grown, -⟩ := adds next enrolled
    have lengths := congrArg List.length (same.symm.trans grown)
    simp at lengths
  · rw [fresh_iff bytes]
    refine iff_of_true (fun other success => ?_) unlisted
    obtain rfl : next = other := Except.ok.inj (enrolled.symm.trans success)
    exact ⟨cert, added, unlisted⟩

/-- After an enrolment the list has the derived key. -/
theorem not_fresh_perform {list : DeviceList crypto} {enrolment : Enrolment crypto}
    (succeeds : Succeeds words mnemonic password list enrolment) :
    ¬ Fresh words mnemonic password (perform words mnemonic password list enrolment) := by
  obtain ⟨next, enrolled⟩ := succeeds
  rw [perform, enrolled]
  obtain ⟨key, bytes, ⟨listed, same⟩ | ⟨unlisted, cert, rfl, added⟩⟩ := enrol_ok enrolled
  · rw [fresh_iff bytes, DeviceList.keys, same]
    exact not_not.mpr listed
  · rw [fresh_iff bytes, DeviceList.keys, added]
    simp

/-- Enrolments that add new keys keep the keys apart. -/
theorem nodup_keys_foldl {list : DeviceList crypto} {enrolments : List (Enrolment crypto)}
    (nodup : list.keys.Nodup)
    (adds : Run.Along (perform words mnemonic password) (Adds words mnemonic password) list
      enrolments) :
    (enrolments.foldl (perform words mnemonic password) list).keys.Nodup := by
  induction enrolments generalizing list with
  | nil => exact nodup
  | cons enrolment rest inductionHypothesis =>
    refine inductionHypothesis ?_ adds.2
    rcases enrolled : enrol words mnemonic password list enrolment with fault | next
    · rw [perform, enrolled]
      exact nodup
    · obtain ⟨cert, grown, new⟩ := adds.1 next enrolled
      have keys : next.keys = list.keys ++ [cert.deviceEd25519Pubkey] := by
        simp [DeviceList.keys, grown]
      rw [perform, enrolled]
      dsimp only
      rw [keys]
      refine List.Nodup.append nodup (List.nodup_singleton _) ?_
      simpa using new

/-- In a run of enrolments with one mnemonic and password, each adds an entry with a new key exactly
if there is at most one, and the list it starts from does not have the derived key. Where each does,
the keys stay apart, and to revoke a device leaves those with other keys in the list. -/
theorem each_adds_iff {list : DeviceList crypto} {enrolments : List (Enrolment crypto)}
    (succeed : Run.Along (perform words mnemonic password) (Succeeds words mnemonic password) list
      enrolments) :
    (Run.Along (perform words mnemonic password) (Adds words mnemonic password) list enrolments ↔
      enrolments.length ≤ 1 ∧ (enrolments ≠ [] → Fresh words mnemonic password list)) ∧
    (Run.Along (perform words mnemonic password) (Adds words mnemonic password) list enrolments →
      list.keys.Nodup →
        let last := enrolments.foldl (perform words mnemonic password) list
        last.keys.Nodup ∧ ∀ (master : MasterKeyPair crypto) (devicePubkey : VerifyingKey crypto)
          (after : DeviceList crypto), last.removeDevice master devicePubkey = (.ok (), after) →
            ∀ device ∈ last.devices, device.deviceEd25519Pubkey ≠ devicePubkey →
              device ∈ after.devices) := by
  refine ⟨?_, fun adds nodup => ⟨nodup_keys_foldl nodup adds, ?_⟩⟩
  · rcases enrolments with _ | ⟨first, _ | ⟨second, rest⟩⟩
    · exact iff_of_true trivial ⟨Nat.zero_le _, fun none => absurd rfl none⟩
    · obtain ⟨succeeds, -⟩ := succeed
      have here := adds_iff_fresh succeeds
      constructor
      · exact fun ⟨adds, _⟩ => ⟨le_rfl, fun _ => here.mp adds⟩
      · exact fun ⟨_, fresh⟩ => ⟨here.mpr (fresh (List.cons_ne_nil _ _)), trivial⟩
    · obtain ⟨succeeds, later, -⟩ := succeed
      refine iff_of_false ?_ fun ⟨short, _⟩ => absurd short (by simp)
      exact fun ⟨_, adds, _⟩ => not_fresh_perform succeeds ((adds_iff_fresh later).mp adds)
  · intro master devicePubkey after removed device member other
    exact DeviceList.mem_of_removeDevice removed member other

/-! ### Two machines -/

open Client (spelledMnemonics sampleSetup)

/-- An enrolment on a new machine. -/
def onMachine : Enrolment sampleSuite where
  on := .inl sampleSetup
  relayAddr := LookupTrace.sampleAddr
  relayId := 7
  deviceSignature := Octets.zero 64

/-- The published list, before any device is enrolled. -/
def publishedList : DeviceList sampleSuite := .new (.fromMnemonic spelledMnemonics () none)

theorem onMachine_succeeds (list : DeviceList sampleSuite)
    (returns : (enrol spelledMnemonics () none list onMachine).toOption.isSome = true) :
    Succeeds spelledMnemonics () none list onMachine :=
  Outcome.returns_iff_isSome.mpr returns

/-- Two machines are enrolled. The list has one entry, and when one of them is revoked it is
empty. -/
theorem second_machine_adds_nothing :
    let once := perform spelledMnemonics () none publishedList onMachine
    let twice := perform spelledMnemonics () none once onMachine
    publishedList.devices.length < DeviceList.maxDevices ∧
      Run.Along (perform spelledMnemonics () none) (Succeeds spelledMnemonics () none)
        publishedList [onMachine, onMachine] ∧
        ¬ Run.Along (perform spelledMnemonics () none) (Adds spelledMnemonics () none)
          publishedList [onMachine, onMachine] ∧
          twice.devices = once.devices ∧ twice.devices.length = 1 := by
  intro once twice
  have first : Succeeds spelledMnemonics () none publishedList onMachine :=
    onMachine_succeeds publishedList (by decide +kernel)
  have second : Succeeds spelledMnemonics () none once onMachine :=
    onMachine_succeeds once (by decide +kernel)
  refine ⟨by decide, ⟨first, second, trivial⟩, ?_, by decide +kernel, by decide +kernel⟩
  rintro ⟨-, adds, -⟩
  exact not_fresh_perform first ((adds_iff_fresh second).mp adds)

/-- One machine is enrolled, and is an entry of its own. -/
theorem first_machine_adds :
    Run.Along (perform spelledMnemonics () none) (Adds spelledMnemonics () none) publishedList
      [onMachine] := by
  have succeeds : Succeeds spelledMnemonics () none publishedList onMachine :=
    onMachine_succeeds publishedList (by decide +kernel)
  have succeed : Run.Along (perform spelledMnemonics () none)
      (Succeeds spelledMnemonics () none) publishedList [onMachine] := ⟨succeeds, trivial⟩
  refine (each_adds_iff succeed).1.mpr ⟨le_rfl, fun _ => ?_⟩
  exact List.not_mem_nil

end Enrolment

end Insub
