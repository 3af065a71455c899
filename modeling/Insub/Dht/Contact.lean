/-
This file models `dht/record`: the records that the hash table keeps for a key, and the one
kind there is, the contact record. It has the device list of a user, the address of a relay,
and a signature over both.
-/

import Mathlib
import Insub.Identity.Devices
import Insub.Protocol.Wire

namespace Insub

open Rust

/-! ### Records -/

inductive RecordTag
  | contact
  deriving DecidableEq

namespace RecordTag

def fromByte (byte : UInt8) : Option RecordTag :=
  match byte.toNat with
  | 0x01 => some .contact
  | _ => none

def toByte : RecordTag → UInt8
  | .contact => 0x01

end RecordTag

structure Record where
  tag : RecordTag
  data : Bytes

namespace Record

def maxRecordSize : Nat := 1024

def serialize (record : Record) : Bytes := [record.tag.toByte] ++ record.data

def fromSerialized (bytes : Bytes) : Outcome Record :=
  match bytes with
  | tagByte :: data =>
    if data.isEmpty then .error (.error "record too short")
    else do
      let tag ← okOr s!"unknown record tag: 0x{hexByte tagByte}" (RecordTag.fromByte tagByte)
      if maxRecordSize < data.length then .error (.error "record exceeds max size")
      else .ok { tag, data }
  | [] => .error (.error "record too short")

end Record

/-! ### Contact records -/

structure ContactRecord (crypto : Primitives) where
  deviceList : DeviceList crypto
  relayAddr : SocketAddr
  relayId : U128
  deviceSignature : Signature
  deriving DecidableEq

namespace ContactRecord

variable {crypto : Primitives}

/-- An address as it is signed and sent: the kind, the address and the port. -/
def addrBytes : SocketAddr → Bytes
  | .v4 ip port => [0x04] ++ (ip.toList ++ (beBytes 2 port).toList)
  | .v6 ip port _ _ => [0x06] ++ (ip.toList ++ (beBytes 2 port).toList)

def signedData (deviceList : DeviceList crypto) (relayAddr : SocketAddr) (relayId : U128) : Bytes :=
  (crypto.sha256 deviceList.serialize).toList ++
    (addrBytes relayAddr ++ (beBytes 16 relayId).toList)

def new (deviceList : DeviceList crypto) (relayAddr : SocketAddr) (relayId : U128)
    (deviceSigningKey : SigningKey crypto) : ContactRecord crypto where
  deviceList := deviceList
  relayAddr := relayAddr
  relayId := relayId
  deviceSignature := deviceSigningKey.sign (signedData deviceList relayAddr relayId)

/-- One of the listed devices has signed the record. -/
def verify (contact : ContactRecord crypto) : Bool :=
  contact.deviceList.devices.any fun certificate =>
    certificate.deviceEd25519Pubkey.verify
      (signedData contact.deviceList contact.relayAddr contact.relayId) contact.deviceSignature

/-- The length of the list is cut off to two bytes. -/
def serialize (contact : ContactRecord crypto) : Bytes :=
  let listBytes := contact.deviceList.serialize
  (beBytes 2 (BitVec.ofNat 16 listBytes.length)).toList ++ (listBytes ++
    (addrBytes contact.relayAddr ++ ((beBytes 16 contact.relayId).toList ++
      contact.deviceSignature.toList)))

/-- The address at a place of the record, and the place behind it. -/
def readAddr (bytes : Bytes) (cursor : Nat) : Outcome (SocketAddr × Nat) := do
  let addrKind ← index cursor bytes
  let addrStart := cursor + 1
  match addrKind.toNat with
  | 0x04 =>
    if bytes.length < addrStart + 6 + 16 + 64 then
      .error (.error "contact record truncated at IPv4 addr")
    else do
      let octets ← slice addrStart 4 bytes
      let port ← slice (addrStart + 4) 2 bytes
      .ok (.v4 octets (ofBeBytes 16 port), addrStart + 6)
  | 0x06 =>
    if bytes.length < addrStart + 18 + 16 + 64 then
      .error (.error "contact record truncated at IPv6 addr")
    else do
      let octets ← slice addrStart 16 bytes
      let port ← slice (addrStart + 16) 2 bytes
      .ok (.v6 octets (ofBeBytes 16 port) 0 0, addrStart + 18)
  | _ => .error (.error s!"unknown addr kind: 0x{hexByte addrKind}")

def fromSerialized (bytes : Bytes) : Outcome (ContactRecord crypto) :=
  if bytes.length < 2 + 128 + 7 + 16 + 64 then .error (.error "contact record too short")
  else do
    let listLen := fromBeBytes (← slice 0 2 bytes).toList
    if bytes.length < 2 + listLen + 7 + 16 + 64 then
      .error (.error "contact record truncated at device list")
    else do
      let listBytes ← slice 2 listLen bytes
      let deviceList ← (DeviceList.fromSerialized listBytes.toList).inContext "bad device list"
      let (relayAddr, relayStart) ← readAddr bytes (2 + listLen)
      if bytes.length < relayStart + 16 + 64 then
        .error (.error "contact record truncated at relay id")
      else do
        let relayId ← slice relayStart 16 bytes
        let deviceSignature ← slice (relayStart + 16) 64 bytes
        .ok { deviceList, relayAddr, relayId := ofBeBytes 128 relayId, deviceSignature }

end ContactRecord

end Insub
