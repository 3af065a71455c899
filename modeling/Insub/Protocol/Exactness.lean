/-
This file proves that the packet codec is exact. The bytes that the parser accepts are those long
enough for the fixed fields and with a tag it knows, and every such byte string is what the packet
that is read from it is written as. So writing and reading are inverse to each other.
-/

import Mathlib
import Insub.Protocol.Packet

namespace Insub

open Rust

namespace PayloadTag

theorem toByte_of_fromByte {byte : UInt8} {tag : PayloadTag} (known : fromByte byte = some tag) :
    tag.toByte = byte := by
  unfold fromByte at known
  split at known
  any_goals cases known
  all_goals
    rename_i value
    exact UInt8.toNat_inj.mp value.symm

end PayloadTag

namespace Payload

/-- A byte string of the fixed length that begins with a known tag is how a payload is written. -/
theorem exists_serialize {byte : UInt8} {rest : Bytes} {tag : PayloadTag}
    (known : PayloadTag.fromByte byte = some tag) (enough : 34 ≤ rest.length) :
    ∃ payload : Payload, payload.serialize = byte :: rest := by
  obtain ⟨connectionId, rest, rfl⟩ := exists_octets (show 16 ≤ rest.length by omega)
  rw [List.length_append, List.Vector.toList_length] at enough
  obtain ⟨fragmentId, rest, rfl⟩ := exists_octets (show 16 ≤ rest.length by omega)
  rw [List.length_append, List.Vector.toList_length] at enough
  obtain ⟨fragmentIndex, rest, rfl⟩ :=
    List.exists_cons_of_length_pos (show 0 < rest.length by omega)
  rw [List.length_cons] at enough
  obtain ⟨fragmentTotal, data, rfl⟩ :=
    List.exists_cons_of_length_pos (show 0 < rest.length by omega)
  refine ⟨⟨tag, connectionId, data, ofBeBytes 128 fragmentId, fragmentIndex, fragmentTotal⟩, ?_⟩
  rw [serialize, beBytes_ofBeBytes _ (by norm_num), PayloadTag.toByte_of_fromByte known]
  rfl

theorem known_of_fromSerialized {bytes : Bytes} {payload : Payload}
    (read : fromSerialized bytes = .ok payload) :
    35 ≤ bytes.length ∧ ∃ byte rest, bytes = byte :: rest ∧
      PayloadTag.fromByte byte = some payload.tag := by
  by_cases short : bytes.length < 35
  · rw [fromSerialized, if_pos short] at read
    cases read
  · rw [fromSerialized, if_neg short] at read
    obtain ⟨tagByte, found, read⟩ := Outcome.bind_eq_ok_iff.mp read
    obtain ⟨tag, known, read⟩ := Outcome.bind_eq_ok_iff.mp read
    obtain ⟨_, _, read⟩ := Outcome.bind_eq_ok_iff.mp read
    obtain ⟨_, _, read⟩ := Outcome.bind_eq_ok_iff.mp read
    obtain ⟨_, _, read⟩ := Outcome.bind_eq_ok_iff.mp read
    obtain ⟨_, _, read⟩ := Outcome.bind_eq_ok_iff.mp read
    cases read
    refine ⟨not_lt.mp short, ?_⟩
    cases bytes with
    | nil => cases found
    | cons byte rest =>
      obtain rfl := Except.ok.inj found
      exact ⟨byte, rest, rfl, okOr_eq_ok_iff.mp known⟩

theorem serialize_of_fromSerialized {bytes : Bytes} {payload : Payload}
    (read : fromSerialized bytes = .ok payload) : payload.serialize = bytes := by
  obtain ⟨enough, byte, rest, rfl, known⟩ := known_of_fromSerialized read
  rw [List.length_cons] at enough
  obtain ⟨written, whole⟩ := exists_serialize known (show 34 ≤ rest.length by omega)
  rw [← whole, fromSerialized_serialize] at read
  rw [← Except.ok.inj read, whole]

end Payload

namespace Packet

/-- The parser reads the three fields of the header and then the payload. -/
theorem fromSerialized_eq_ok_iff {bytes : Bytes} {packet : Packet} :
    fromSerialized bytes = .ok packet ↔
      ∃ payloadBytes, Payload.fromSerialized payloadBytes = .ok packet.payload ∧
        bytes = (beBytes 8 packet.header.version).toList ++
          ((beBytes 4 packet.header.flags.flags).toList ++
            ((beBytes 16 packet.header.id).toList ++ payloadBytes)) := by
  constructor
  · intro read
    obtain ⟨⟨version, rest⟩, first, read⟩ := Outcome.bind_eq_ok_iff.mp read
    obtain ⟨⟨flags, rest'⟩, second, read⟩ := Outcome.bind_eq_ok_iff.mp read
    obtain ⟨⟨id, payloadBytes⟩, third, read⟩ := Outcome.bind_eq_ok_iff.mp read
    obtain ⟨payload, parsed, read⟩ := Outcome.bind_eq_ok_iff.mp read
    cases read
    refine ⟨payloadBytes, Outcome.mapErr_eq_ok_iff.mp parsed, ?_⟩
    dsimp only at second third ⊢
    rw [takeBytes_eq_ok_iff.mp first, takeBytes_eq_ok_iff.mp second, takeBytes_eq_ok_iff.mp third,
      beBytes_ofBeBytes _ (by norm_num), beBytes_ofBeBytes _ (by norm_num),
      beBytes_ofBeBytes _ (by norm_num)]
  · rintro ⟨payloadBytes, parsed, rfl⟩
    rw [← Payload.serialize_of_fromSerialized parsed]
    exact fromSerialized_serialize packet

/-- The tag of the payload stands behind the 28 bytes of the header. -/
theorem getElem?_tag (version : Octets 8) (flags : Octets 4) (id : Octets 16) (byte : UInt8)
    (rest : Bytes) : (version.toList ++ (flags.toList ++ (id.toList ++ byte :: rest)))[28]? =
      some byte := by
  rw [List.getElem?_append_right (by simp), List.getElem?_append_right (by simp),
    List.getElem?_append_right (by simp)]
  simp

/-- The codec is exact: every packet survives the wire, and the byte strings that are read as a
packet are those of at least 63 bytes with a known tag at place 28, each of which is how that
packet is written. -/
theorem codec_exact : (∀ packet : Packet, fromSerialized packet.serialize = .ok packet) ∧
    ∀ bytes : Bytes,
      ((fromSerialized bytes).Returns ↔
        63 ≤ bytes.length ∧ ∃ byte tag, bytes[28]? = some byte ∧
          PayloadTag.fromByte byte = some tag) ∧
      ∀ packet, fromSerialized bytes = .ok packet → packet.serialize = bytes := by
  refine ⟨fromSerialized_serialize, fun bytes => ⟨⟨?_, ?_⟩, ?_⟩⟩
  · rintro ⟨packet, read⟩
    obtain ⟨payloadBytes, parsed, rfl⟩ := fromSerialized_eq_ok_iff.mp read
    obtain ⟨enough, byte, rest, rfl, known⟩ := Payload.known_of_fromSerialized parsed
    refine ⟨?_, byte, packet.payload.tag, ?_, known⟩
    · simp only [List.length_append, List.Vector.toList_length]
      omega
    · exact getElem?_tag _ _ _ byte rest
  · rintro ⟨enough, byte, tag, placed, known⟩
    obtain ⟨version, rest, rfl⟩ := exists_octets (show 8 ≤ bytes.length by omega)
    rw [List.length_append, List.Vector.toList_length] at enough
    obtain ⟨flags, rest, rfl⟩ := exists_octets (show 4 ≤ rest.length by omega)
    rw [List.length_append, List.Vector.toList_length] at enough
    obtain ⟨id, rest, rfl⟩ := exists_octets (show 16 ≤ rest.length by omega)
    rw [List.length_append, List.Vector.toList_length] at enough
    obtain ⟨tagByte, rest, rfl⟩ :=
      List.exists_cons_of_length_pos (show 0 < rest.length by omega)
    rw [getElem?_tag, Option.some.injEq] at placed
    rw [← placed] at known
    rw [List.length_cons] at enough
    obtain ⟨payload, whole⟩ := Payload.exists_serialize known (show 34 ≤ rest.length by omega)
    refine ⟨⟨⟨ofBeBytes 64 version, ⟨ofBeBytes 32 flags⟩, ofBeBytes 128 id⟩, payload⟩,
      fromSerialized_eq_ok_iff.mpr ⟨_, Payload.fromSerialized_serialize payload, ?_⟩⟩
    rw [whole, beBytes_ofBeBytes _ (by norm_num), beBytes_ofBeBytes _ (by norm_num),
      beBytes_ofBeBytes _ (by norm_num)]
  · intro packet read
    obtain ⟨payloadBytes, parsed, rfl⟩ := fromSerialized_eq_ok_iff.mp read
    rw [serialize, Payload.serialize_of_fromSerialized parsed]

end Packet

end Insub
