/-
This file models `protocol/packet.rs` and `protocol/payload.rs`: what travels in a
datagram. The parser reads at fixed places behind one length check, and never reads
beyond what was received.
-/

import Mathlib
import Insub.Protocol.Wire

namespace Insub

open Rust

inductive PayloadTag
  | handshake
  | message
  | dhtQuery
  | dhtResponse
  | relayFrame
  | fileChunk
  | keepAlive
  | dummy
  | dhtOperation
  deriving DecidableEq

namespace PayloadTag

def fromByte (byte : UInt8) : Option PayloadTag :=
  match byte.toNat with
  | 0x01 => some .handshake
  | 0x02 => some .message
  | 0x03 => some .dhtQuery
  | 0x04 => some .dhtResponse
  | 0x05 => some .relayFrame
  | 0x06 => some .fileChunk
  | 0x07 => some .keepAlive
  | 0x08 => some .dummy
  | 0x09 => some .dhtOperation
  | _ => none

def toByte : PayloadTag → UInt8
  | .handshake => 0x01
  | .message => 0x02
  | .dhtQuery => 0x03
  | .dhtResponse => 0x04
  | .relayFrame => 0x05
  | .fileChunk => 0x06
  | .keepAlive => 0x07
  | .dummy => 0x08
  | .dhtOperation => 0x09

/-- The name of a tag, as `{:?}` prints it. -/
def debug : PayloadTag → String
  | .handshake => "Handshake"
  | .message => "Message"
  | .dhtQuery => "DhtQuery"
  | .dhtResponse => "DhtResponse"
  | .relayFrame => "RelayFrame"
  | .fileChunk => "FileChunk"
  | .keepAlive => "KeepAlive"
  | .dummy => "Dummy"
  | .dhtOperation => "DhtOperation"

@[simp] theorem fromByte_toByte (tag : PayloadTag) : fromByte tag.toByte = some tag := by
  cases tag <;> rfl

end PayloadTag

/-- The identifier of a connection. -/
abbrev ConnectionId := Octets 16

structure Payload where
  tag : PayloadTag
  connectionId : ConnectionId
  data : Bytes
  fragmentId : U128
  fragmentIndex : UInt8
  fragmentTotal : UInt8
  deriving DecidableEq

namespace Payload

def new (tag : PayloadTag) (data : Bytes) : Payload where
  tag := tag
  connectionId := Octets.zero 16
  data := data
  fragmentId := 0
  fragmentIndex := 0
  fragmentTotal := 0

def serialize (payload : Payload) : Bytes :=
  [payload.tag.toByte] ++ (payload.connectionId.toList ++
    ((beBytes 16 payload.fragmentId).toList ++
      ([payload.fragmentIndex, payload.fragmentTotal] ++ payload.data)))

def fromSerialized (bytes : Bytes) : Outcome Payload :=
  if bytes.length < 35 then .error (.error "payload too short")
  else do
    let tagByte ← index 0 bytes
    let tag ← okOr s!"unknown payload tag: 0x{hexByte tagByte}" (PayloadTag.fromByte tagByte)
    let connectionId ← slice 1 16 bytes
    let fragmentId ← slice 17 16 bytes
    let fragmentIndex ← index 33 bytes
    let fragmentTotal ← index 34 bytes
    .ok { tag, connectionId, data := bytes.drop 35, fragmentId := ofBeBytes 128 fragmentId,
          fragmentIndex, fragmentTotal }

/-- Every read of the parser lies within the bytes it was given. -/
theorem not_panics_fromSerialized (bytes : Bytes) : ¬ (fromSerialized bytes).Panics := by
  by_cases short : bytes.length < 35
  · rw [fromSerialized, if_pos short]
    exact Outcome.not_panics_error _
  · rw [fromSerialized, if_neg short]
    refine Outcome.not_panics_bind (by rw [index_panics_iff]; omega) fun _ _ => ?_
    refine Outcome.not_panics_bind (not_panics_okOr _ _) fun _ _ => ?_
    refine Outcome.not_panics_bind (by rw [slice_panics_iff]; omega) fun _ _ => ?_
    refine Outcome.not_panics_bind (by rw [slice_panics_iff]; omega) fun _ _ => ?_
    refine Outcome.not_panics_bind (by rw [index_panics_iff]; omega) fun _ _ => ?_
    refine Outcome.not_panics_bind (by rw [index_panics_iff]; omega) fun _ _ => ?_
    exact Outcome.not_panics_ok _

/-- A payload survives the wire. -/
theorem fromSerialized_serialize (payload : Payload) :
    fromSerialized payload.serialize = .ok payload := by
  obtain ⟨tag, connectionId, data, fragmentId, index', total⟩ := payload
  have connectionSize : connectionId.toList.length = 16 := connectionId.toList_length
  have fragmentSize : (beBytes 16 fragmentId).toList.length = 16 := List.Vector.toList_length _
  have frontSize : ([tag.toByte] ++ connectionId.toList).length = 17 := by
    rw [List.length_append, connectionSize]
    rfl
  generalize sent : serialize ⟨tag, connectionId, data, fragmentId, index', total⟩ = bytes
  have whole : bytes = ([tag.toByte] ++ connectionId.toList) ++ ((beBytes 16 fragmentId).toList ++
      ([index', total] ++ data)) := by
    rw [← sent, List.append_assoc]
    rfl
  have size : bytes.length = 35 + data.length := by
    rw [whole, List.length_append, frontSize, List.length_append, fragmentSize]
    simp only [List.length_append, List.length_cons, List.length_nil]
    omega
  have tail : ∀ position, bytes[33 + position]? = ([index', total] ++ data)[position]? := by
    intro position
    rw [whole, List.getElem?_append_right (by omega), List.getElem?_append_right (by omega),
      frontSize, fragmentSize]
    congr 1
    omega
  have tagAt : index 0 bytes = .ok tag.toByte := by
    rw [whole]
    rfl
  have connectionAt : slice 1 16 bytes = .ok connectionId := by
    rw [← sent]
    exact slice_append rfl
  have fragmentAt : slice 17 16 bytes = .ok (beBytes 16 fragmentId) := by
    rw [whole]
    exact slice_append frontSize
  have indexAt : index 33 bytes = .ok index' := by
    rw [index, tail 0]
    rfl
  have totalAt : index 34 bytes = .ok total := by
    rw [index, tail 1]
    rfl
  have dataAt : bytes.drop 35 = data := by
    refine List.ext_getElem? fun position => ?_
    rw [List.getElem?_drop, show 35 + position = 33 + (position + 2) by omega, tail]
    rfl
  have idAt : ofBeBytes 128 (beBytes 16 fragmentId) = fragmentId :=
    ofBeBytes_beBytes fragmentId (by norm_num)
  rw [fromSerialized, if_neg (by omega)]
  simp only [tagAt, connectionAt, fragmentAt, indexAt, totalAt, dataAt, idAt, Outcome.bind_ok,
    PayloadTag.fromByte_toByte, okOr]

end Payload

def currentVersion : U64 := 1

inductive PacketFlag
  | ackRequired
  | ack
  | fragmented
  | lastFragment

def flagToInt : PacketFlag → U32
  | .ackRequired => 0b00000001
  | .ack => 0b00000010
  | .fragmented => 0b00000100
  | .lastFragment => 0b00001000

structure PacketFlags where
  flags : U32
  deriving DecidableEq

namespace PacketFlags

def contains (flags : PacketFlags) (flag : PacketFlag) : Bool :=
  flags.flags &&& flagToInt flag ≠ 0

end PacketFlags

structure PacketHeader where
  version : U64
  flags : PacketFlags
  id : U128
  deriving DecidableEq

structure Packet where
  header : PacketHeader
  payload : Payload
  deriving DecidableEq

namespace Packet

def new (flags : U32) (id : U128) (payload : Payload) : Packet where
  header := { version := currentVersion, flags := { flags }, id }
  payload := payload

def serialize (packet : Packet) : Bytes :=
  (beBytes 8 packet.header.version).toList ++
    ((beBytes 4 packet.header.flags.flags).toList ++
      ((beBytes 16 packet.header.id).toList ++ packet.payload.serialize))

def fromSerialized (bytes : Bytes) : Outcome Packet := do
  let (version, bytes) ← takeBytes 8 bytes
  let (flags, bytes) ← takeBytes 4 bytes
  let (id, bytes) ← takeBytes 16 bytes
  let payload ← (Payload.fromSerialized bytes).mapErr "Failed to parse payload"
  .ok { header := { version := ofBeBytes 64 version, flags := { flags := ofBeBytes 32 flags },
                    id := ofBeBytes 128 id }
        payload }

/-- Parsing a datagram never panics, whatever its bytes. -/
theorem not_panics_fromSerialized (bytes : Bytes) : ¬ (fromSerialized bytes).Panics := by
  refine Outcome.not_panics_bind (not_panics_takeBytes 8 bytes) fun _ _ => ?_
  refine Outcome.not_panics_bind (not_panics_takeBytes 4 _) fun _ _ => ?_
  refine Outcome.not_panics_bind (not_panics_takeBytes 16 _) fun _ _ => ?_
  refine Outcome.not_panics_bind ?_ fun _ _ => Outcome.not_panics_ok _
  rw [Outcome.panics_mapErr_iff]
  exact Payload.not_panics_fromSerialized _

/-- A packet survives the wire. -/
theorem fromSerialized_serialize (packet : Packet) :
    fromSerialized packet.serialize = .ok packet := by
  have version : ofBeBytes 64 (beBytes 8 packet.header.version) = packet.header.version :=
    ofBeBytes_beBytes _ (by norm_num)
  have flags : ofBeBytes 32 (beBytes 4 packet.header.flags.flags) = packet.header.flags.flags :=
    ofBeBytes_beBytes _ (by norm_num)
  have id : ofBeBytes 128 (beBytes 16 packet.header.id) = packet.header.id :=
    ofBeBytes_beBytes _ (by norm_num)
  simp only [fromSerialized, serialize, takeBytes_append, Outcome.bind_ok,
    Payload.fromSerialized_serialize, Outcome.mapErr, version, flags, id]

end Packet

end Insub
