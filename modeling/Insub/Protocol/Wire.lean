/-
This file has what every wire format of the program reads and writes: a fixed number of
bytes from the front of what is left (`wire.rs`), and socket addresses.
-/

import Mathlib
import Insub.Library.Bytes

namespace Insub

open Rust

/-- `take_bytes::<count>`. -/
def takeBytes (count : Nat) (bytes : Bytes) : Outcome (Octets count × Bytes) :=
  if bytes.length < count then
    .error (.error s!"expected {count} bytes, got {bytes.length}")
  else drain count bytes

theorem takeBytes_short {count : Nat} {bytes : Bytes} (short : bytes.length < count) :
    takeBytes count bytes = .error (.error s!"expected {count} bytes, got {bytes.length}") :=
  if_pos short

theorem not_panics_takeBytes (count : Nat) (bytes : Bytes) :
    ¬ (takeBytes count bytes).Panics := by
  by_cases short : bytes.length < count
  · rw [takeBytes, if_pos short]
    exact Outcome.not_panics_error _
  · rw [takeBytes, if_neg short, drain_panics_iff]
    exact short

theorem takeBytes_append {count : Nat} (octets : Octets count) (rest : Bytes) :
    takeBytes count (octets.toList ++ rest) = .ok (octets, rest) := by
  have enough : ¬ (octets.toList ++ rest).length < count := by
    rw [List.length_append, octets.toList_length]
    omega
  rw [takeBytes, if_neg enough, drain_append]

theorem takeBytes_eq_ok_iff {count : Nat} {bytes rest : Bytes} {octets : Octets count} :
    takeBytes count bytes = .ok (octets, rest) ↔ bytes = octets.toList ++ rest := by
  refine ⟨fun read => ?_, fun whole => by rw [whole, takeBytes_append]⟩
  by_cases short : bytes.length < count
  · rw [takeBytes, if_pos short] at read
    cases read
  · rw [takeBytes, if_neg short] at read
    exact drain_eq_ok_iff.mp read

/-- `std::net::SocketAddr`. -/
inductive SocketAddr
  | v4 (ip : Octets 4) (port : U16)
  | v6 (ip : Octets 16) (port : U16) (flowinfo scopeId : U32)
  deriving DecidableEq

namespace SocketAddr

/-- What the wire carries of an address: flow info and scope id are left out. -/
def plain : SocketAddr → SocketAddr
  | .v4 ip port => .v4 ip port
  | .v6 ip port _ _ => .v6 ip port 0 0

/-- The address has no flow info and no scope id. -/
def IsPlain (addr : SocketAddr) : Prop := addr.plain = addr

instance (addr : SocketAddr) : Decidable addr.IsPlain := inferInstanceAs (Decidable (_ = _))

theorem isPlain_plain (addr : SocketAddr) : addr.plain.IsPlain := by
  cases addr <;> rfl

end SocketAddr

/-- The parts of an address that stands behind other bytes. -/
theorem read_ipAndPort {width : Nat} (before after : Bytes) (kind : UInt8) (ip : Octets width)
    (port : U16) :
    let bytes := before ++ (([kind] ++ (ip.toList ++ (beBytes 2 port).toList)) ++ after)
    bytes.length = before.length + 1 + width + 2 + after.length ∧
      index before.length bytes = .ok kind ∧ slice (before.length + 1) width bytes = .ok ip ∧
        slice (before.length + 1 + width) 2 bytes = .ok (beBytes 2 port) := by
  intro bytes
  have size : bytes.length = before.length + 1 + width + 2 + after.length := by
    simp [bytes]
    ring
  have ipPlace : (before ++ [kind]).length = before.length + 1 := by simp
  have portPlace : (before ++ [kind] ++ ip.toList).length = before.length + 1 + width := by
    rw [List.length_append, ipPlace, List.Vector.toList_length]
  refine ⟨size, index_append kind rfl, ?_, ?_⟩
  · have read : slice (before.length + 1) width (before ++ [kind] ++
        (ip.toList ++ ((beBytes 2 port).toList ++ after))) = .ok ip := slice_append ipPlace
    simpa [bytes] using read
  · have read : slice (before.length + 1 + width) 2 (before ++ [kind] ++ ip.toList ++
        ((beBytes 2 port).toList ++ after)) = .ok (beBytes 2 port) := slice_append portPlace
    simpa [bytes] using read

end Insub
