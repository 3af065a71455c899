/-
This file proves that a contact record is read back as it was written. The record has the device
list with its length in front, the address of the relay in one of two forms, the id of the relay
and the signature. It is too short to be read if it lists no device, and what the server may keep
is more than enough for the five devices a list can have.
-/

import Mathlib
import Insub.Dht.Contact
import Insub.Identity.Lifecycle

namespace Insub

open Rust

variable {crypto : Primitives}

namespace ContactRecord

theorem length_addrBytes (addr : SocketAddr) :
    7 ≤ (addrBytes addr).length ∧ (addrBytes addr).length ≤ 19 := by
  cases addr with
  | v4 ip port => simp [addrBytes]
  | v6 ip port flowinfo scopeId => simp [addrBytes]

/-- An address with enough behind it is read, up to flow info and scope id. -/
theorem readAddr_append (before : Bytes) (addr : SocketAddr) {after : Bytes}
    (enough : 16 + 64 ≤ after.length) :
    readAddr (before ++ (addrBytes addr ++ after)) before.length =
      .ok (addr.plain, before.length + (addrBytes addr).length) := by
  cases addr with
  | v4 ip port =>
    obtain ⟨size, kindRead, ipRead, portRead⟩ := read_ipAndPort before after 0x04 ip port
    have whole : ¬ (before ++ (([0x04] ++ (ip.toList ++ (beBytes 2 port).toList)) ++ after)).length <
        before.length + 1 + 6 + 16 + 64 := by
      rw [size]
      omega
    rw [readAddr, addrBytes, kindRead, Outcome.bind_ok]
    dsimp only
    rw [show (0x04 : UInt8).toNat = 0x04 from rfl]
    rw [if_neg whole, ipRead, Outcome.bind_ok, portRead, Outcome.bind_ok,
      ofBeBytes_beBytes port (by norm_num)]
    simp [SocketAddr.plain]
  | v6 ip port flowinfo scopeId =>
    obtain ⟨size, kindRead, ipRead, portRead⟩ := read_ipAndPort before after 0x06 ip port
    have whole : ¬ (before ++ (([0x06] ++ (ip.toList ++ (beBytes 2 port).toList)) ++ after)).length <
        before.length + 1 + 18 + 16 + 64 := by
      rw [size]
      omega
    rw [readAddr, addrBytes, kindRead, Outcome.bind_ok]
    dsimp only
    rw [show (0x06 : UInt8).toNat = 0x06 from rfl]
    rw [if_neg whole, ipRead, Outcome.bind_ok, portRead, Outcome.bind_ok,
      ofBeBytes_beBytes port (by norm_num)]
    simp [SocketAddr.plain]

theorem length_serialize (contact : ContactRecord crypto) :
    contact.serialize.length =
      2 + contact.deviceList.serialize.length + (addrBytes contact.relayAddr).length + 16 + 64 := by
  simp [serialize]
  ring

/-! ### The parts of a record -/

/-- The length of the device list, as the record starts. -/
def lengthBytes (contact : ContactRecord crypto) : Octets 2 :=
  beBytes 2 (BitVec.ofNat 16 contact.deviceList.serialize.length)

theorem fromBeBytes_lengthBytes {contact : ContactRecord crypto}
    (fits : contact.deviceList.serialize.length < 2 ^ 16) :
    fromBeBytes contact.lengthBytes.toList = contact.deviceList.serialize.length := by
  show fromBeBytes (toBeBytes 2 (contact.deviceList.serialize.length % 2 ^ 16)) = _
  rw [fromBeBytes_toBeBytes, Nat.mod_mod_of_dvd _ (by norm_num)]
  exact Nat.mod_eq_of_lt fits

theorem slice_length (contact : ContactRecord crypto) :
    slice 0 2 contact.serialize = .ok contact.lengthBytes := by
  show slice 0 2 ([] ++ (contact.lengthBytes.toList ++ _)) = _
  exact slice_append rfl

theorem slice_list (contact : ContactRecord crypto) :
    ∃ octets : Octets contact.deviceList.serialize.length,
      slice 2 contact.deviceList.serialize.length contact.serialize = .ok octets ∧
        octets.toList = contact.deviceList.serialize :=
  slice_of_append contact.lengthBytes.toList_length rfl

theorem readAddr_serialize (contact : ContactRecord crypto) :
    readAddr contact.serialize (2 + contact.deviceList.serialize.length) =
      .ok (contact.relayAddr.plain, 2 + contact.deviceList.serialize.length +
        (addrBytes contact.relayAddr).length) := by
  have place : (contact.lengthBytes.toList ++ contact.deviceList.serialize).length =
      2 + contact.deviceList.serialize.length := by
    simp
  have read := readAddr_append (contact.lengthBytes.toList ++ contact.deviceList.serialize)
    contact.relayAddr (show 16 + 64 ≤
      ((beBytes 16 contact.relayId).toList ++ contact.deviceSignature.toList).length by simp)
  rw [place] at read
  simpa [serialize, lengthBytes] using read

theorem slice_relayId (contact : ContactRecord crypto) :
    slice (2 + contact.deviceList.serialize.length + (addrBytes contact.relayAddr).length) 16
      contact.serialize = .ok (beBytes 16 contact.relayId) := by
  have place : (contact.lengthBytes.toList ++
      (contact.deviceList.serialize ++ addrBytes contact.relayAddr)).length =
        2 + contact.deviceList.serialize.length + (addrBytes contact.relayAddr).length := by
    simp [Nat.add_assoc]
  have read : slice _ 16 (contact.lengthBytes.toList ++
      (contact.deviceList.serialize ++ addrBytes contact.relayAddr) ++
        ((beBytes 16 contact.relayId).toList ++ contact.deviceSignature.toList)) = .ok _ :=
    slice_append place
  simpa [serialize, lengthBytes] using read

theorem slice_signature (contact : ContactRecord crypto) :
    slice (2 + contact.deviceList.serialize.length + (addrBytes contact.relayAddr).length + 16) 64
      contact.serialize = .ok contact.deviceSignature := by
  have place : (contact.lengthBytes.toList ++ (contact.deviceList.serialize ++
      (addrBytes contact.relayAddr ++ (beBytes 16 contact.relayId).toList))).length =
        2 + contact.deviceList.serialize.length + (addrBytes contact.relayAddr).length + 16 := by
    simp [Nat.add_assoc]
  have read : slice _ 64 (contact.lengthBytes.toList ++ (contact.deviceList.serialize ++
      (addrBytes contact.relayAddr ++ (beBytes 16 contact.relayId).toList)) ++
        (contact.deviceSignature.toList ++ [])) = .ok _ :=
    slice_append place
  simpa [serialize, lengthBytes] using read

/-- A record with a device, whose length fits, is read up to its device list. -/
theorem fromSerialized_serialize_eq {contact : ContactRecord crypto}
    (listed : contact.deviceList.devices ≠ [])
    (fits : contact.deviceList.serialize.length < 2 ^ 16) :
    (fromSerialized contact.serialize : Outcome (ContactRecord crypto)) =
      ((DeviceList.fromSerialized contact.deviceList.serialize).inContext "bad device list").map
        fun deviceList => { contact with deviceList, relayAddr := contact.relayAddr.plain } := by
  have some : 0 < contact.deviceList.devices.length := List.length_pos_iff.mpr listed
  have listSize := DeviceList.length_serialize contact.deviceList
  have addrSize := length_addrBytes contact.relayAddr
  have size := length_serialize contact
  obtain ⟨listBytes, listRead, listWritten⟩ := slice_list contact
  rw [fromSerialized, if_neg (by omega), slice_length, Outcome.bind_ok]
  dsimp only
  rw [fromBeBytes_lengthBytes fits, if_neg (by omega), listRead, Outcome.bind_ok, listWritten]
  cases (DeviceList.fromSerialized contact.deviceList.serialize : Outcome
      (DeviceList crypto)).inContext "bad device list" with
  | error fault => rfl
  | ok deviceList =>
    rw [Outcome.bind_ok, readAddr_serialize, Outcome.bind_ok]
    dsimp only
    rw [if_neg (by omega), slice_relayId, Outcome.bind_ok, slice_signature, Outcome.bind_ok,
      ofBeBytes_beBytes contact.relayId (by norm_num)]
    rfl

/-- What a record with a device and few enough of them is read back as. -/
theorem fromSerialized_serialize {contact : ContactRecord crypto}
    (listed : contact.deviceList.devices ≠ [])
    (few : contact.deviceList.devices.length ≤ DeviceList.maxDevices) :
    fromSerialized contact.serialize =
      .ok { contact with relayAddr := contact.relayAddr.plain } := by
  have most : contact.deviceList.devices.length ≤ 5 := few
  have listSize := DeviceList.length_serialize contact.deviceList
  rw [fromSerialized_serialize_eq listed (by omega), DeviceList.fromSerialized_serialize few]
  rfl

/-- A record without a device is too short to be read. -/
theorem fromSerialized_serialize_nil {contact : ContactRecord crypto}
    (unlisted : contact.deviceList.devices = []) :
    (fromSerialized contact.serialize : Outcome (ContactRecord crypto)) =
      .error (.error "contact record too short") := by
  have listSize := DeviceList.length_serialize contact.deviceList
  rw [unlisted, List.length_nil] at listSize
  have addrSize := length_addrBytes contact.relayAddr
  rw [fromSerialized, if_pos (by rw [length_serialize]; omega)]

/-- A record with too many devices is refused with its list. -/
theorem fromSerialized_serialize_many {contact : ContactRecord crypto}
    (many : DeviceList.maxDevices < contact.deviceList.devices.length)
    (fits : contact.deviceList.serialize.length < 2 ^ 16) :
    (fromSerialized contact.serialize : Outcome (ContactRecord crypto)) =
      .error (.error "bad device list: Too many devices") := by
  have listed : contact.deviceList.devices ≠ [] :=
    List.length_pos_iff.mp ((Nat.zero_le _).trans_lt many)
  rw [fromSerialized_serialize_eq listed fits, DeviceList.fromSerialized_serialize_many many]
  rfl

end ContactRecord

end Insub
