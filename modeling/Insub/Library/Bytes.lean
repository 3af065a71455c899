/-
This file fixes how byte strings are represented: a `Vec<u8>` or `&[u8]` is a list of
bytes, a `[u8; n]` is a list of bytes of length `n`, and an integer travels as its
big-endian bytes.
-/

import Mathlib
import Insub.Library.Outcome

namespace Rust

/-- `Vec<u8>` and `&[u8]`. -/
abbrev Bytes := List UInt8

/-- `[u8; length]`. -/
abbrev Octets (length : Nat) := List.Vector UInt8 length

namespace Octets

/-- `[0u8; length]`. -/
def zero (length : Nat) : Octets length := List.Vector.replicate length 0

/-- The bytes `start .. start + length` of an array known to be long enough. -/
def window {total : Nat} (start length : Nat) (octets : Octets total)
    (fits : start + length ≤ total) : Octets length :=
  ⟨(octets.toList.drop start).take length, by
    rw [List.length_take, List.length_drop, List.Vector.toList_length]
    omega⟩

/-- Two arrays, one behind the other. -/
theorem window_append_left {first second : Nat} (front : Octets first) (back : Octets second)
    (fits : 0 + first ≤ first + second) : window 0 first (front ++ back) fits = front := by
  refine Subtype.ext ?_
  show ((front ++ back).toList.drop 0).take first = front.toList
  rw [List.drop_zero, List.Vector.toList_append, List.take_left' front.toList_length]

theorem window_append_right {first second : Nat} (front : Octets first) (back : Octets second)
    (fits : first + second ≤ first + second) :
    window first second (front ++ back) fits = back := by
  refine Subtype.ext ?_
  show ((front ++ back).toList.drop first).take second = back.toList
  rw [List.Vector.toList_append, List.drop_left' front.toList_length,
    List.take_of_length_le back.toList_length.le]

end Octets

/-- `bytes[start .. start + length].try_into()`, which panics when the slice is out of
range. -/
def slice (start length : Nat) (bytes : Bytes) : Outcome (Octets length) :=
  if fits : start + length ≤ bytes.length then
    .ok ⟨(bytes.drop start).take length, by
      rw [List.length_take, List.length_drop]
      omega⟩
  else .error (.panic "range end index out of range for slice")

theorem slice_ok {start length : Nat} {bytes : Bytes} (fits : start + length ≤ bytes.length) :
    ∃ octets : Octets length, slice start length bytes = .ok octets ∧
      octets.toList = (bytes.drop start).take length :=
  ⟨_, dif_pos fits, rfl⟩

/-- The front of a byte string and the rest of it. -/
theorem append_drop_of_slice {length : Nat} {bytes : Bytes} {octets : Octets length}
    (read : slice 0 length bytes = .ok octets) :
    octets.toList ++ bytes.drop length = bytes := by
  by_cases fits : 0 + length ≤ bytes.length
  · rw [slice, dif_pos fits] at read
    rw [← Except.ok.inj read]
    exact List.take_append_drop length bytes
  · rw [slice, dif_neg fits] at read
    cases read

theorem slice_panics_iff {start length : Nat} {bytes : Bytes} :
    (slice start length bytes).Panics ↔ bytes.length < start + length := by
  by_cases fits : start + length ≤ bytes.length
  · rw [slice, dif_pos fits]
    exact iff_of_false (Outcome.not_panics_ok _) (by omega)
  · rw [slice, dif_neg fits]
    exact iff_of_true (Outcome.panics_panic _) (by omega)

/-- `bytes[position]`. -/
def index (position : Nat) (bytes : Bytes) : Outcome UInt8 :=
  match bytes[position]? with
  | some byte => .ok byte
  | none => .error (.panic "index out of bounds")

theorem index_panics_iff {position : Nat} {bytes : Bytes} :
    (index position bytes).Panics ↔ bytes.length ≤ position := by
  cases found : bytes[position]? with
  | some byte =>
    have inside := (List.getElem?_eq_some_iff.mp found).1
    simp only [index, found, Outcome.not_panics_ok, false_iff]
    omega
  | none => simp only [index, found, Outcome.panics_panic, List.getElem?_eq_none_iff.mp found]

/-- An array that stands at the given place of a byte string is what `slice` reads there. -/
theorem slice_append {start length : Nat} {before after : Bytes} {octets : Octets length}
    (place : before.length = start) :
    slice start length (before ++ (octets.toList ++ after)) = .ok octets := by
  have size : octets.toList.length = length := octets.toList_length
  have fits : start + length ≤ (before ++ (octets.toList ++ after)).length := by
    rw [List.length_append, List.length_append]
    omega
  rw [slice, dif_pos fits]
  congr 1
  refine Subtype.ext ?_
  show ((before ++ (octets.toList ++ after)).drop start).take length = octets.toList
  rw [List.drop_left' place, List.take_left' size]

/-- The same of bytes whose number is known otherwise. -/
theorem slice_of_append {start length : Nat} {before middle after : Bytes}
    (place : before.length = start) (size : middle.length = length) :
    ∃ octets : Octets length, slice start length (before ++ (middle ++ after)) = .ok octets ∧
      octets.toList = middle := by
  obtain ⟨octets, rfl⟩ : ∃ octets : Octets length, octets.toList = middle :=
    ⟨⟨middle, size⟩, rfl⟩
  exact ⟨octets, slice_append place, rfl⟩

theorem index_append {position : Nat} {before after : Bytes} (byte : UInt8)
    (place : before.length = position) : index position (before ++ byte :: after) = .ok byte := by
  rw [index, ← place, List.getElem?_append_right le_rfl, Nat.sub_self, List.getElem?_cons_zero]

/-- `bytes.drain(0..count).collect().try_into()`, which panics when too few bytes are left. -/
def drain (count : Nat) (bytes : Bytes) : Outcome (Octets count × Bytes) :=
  (slice 0 count bytes).map fun octets => (octets, bytes.drop count)

theorem drain_panics_iff {count : Nat} {bytes : Bytes} :
    (drain count bytes).Panics ↔ bytes.length < count := by
  by_cases fits : 0 + count ≤ bytes.length
  · rw [drain, slice, dif_pos fits]
    exact iff_of_false (Outcome.not_panics_ok _) (by omega)
  · rw [drain, slice, dif_neg fits]
    exact iff_of_true (Outcome.panics_panic _) (by omega)

theorem length_of_drain {count : Nat} {bytes rest : Bytes} {octets : Octets count}
    (read : drain count bytes = .ok (octets, rest)) : rest.length = bytes.length - count := by
  by_cases fits : 0 + count ≤ bytes.length
  · rw [drain, slice, dif_pos fits] at read
    rw [← (Prod.mk.inj (Except.ok.inj read)).2, List.length_drop]
  · rw [drain, slice, dif_neg fits] at read
    cases read

theorem drain_append {count : Nat} (octets : Octets count) (rest : Bytes) :
    drain count (octets.toList ++ rest) = .ok (octets, rest) := by
  have read : slice 0 count ([] ++ (octets.toList ++ rest)) = .ok octets := slice_append rfl
  rw [List.nil_append] at read
  rw [drain, read, List.drop_left' octets.toList_length]
  rfl

/-- Two arrays of the same size, each with more behind it. -/
theorem octets_append_inj {length : Nat} {first second : Octets length} {rest others : Bytes}
    (same : first.toList ++ rest = second.toList ++ others) : first = second ∧ rest = others := by
  obtain ⟨front, back⟩ := List.append_inj same (by simp)
  exact ⟨Subtype.ext front, back⟩

/-- A prefix of two byte strings ends in the first, or has all of it. -/
theorem prefix_append_cases {front rest bytes : Bytes} (ahead : bytes <+: front ++ rest) :
    bytes.length < front.length ∨ ∃ next, bytes = front ++ next ∧ next <+: rest := by
  refine (lt_or_ge bytes.length front.length).imp id fun long => ?_
  obtain ⟨next, rfl⟩ := List.prefix_of_prefix_length_le (List.prefix_append front rest) ahead long
  exact ⟨next, rfl, (List.prefix_append_right_inj front).mp ahead⟩

/-- Enough bytes begin with an array of a given length. -/
theorem exists_octets {count : Nat} {bytes : Bytes} (enough : count ≤ bytes.length) :
    ∃ (octets : Octets count) (rest : Bytes), bytes = octets.toList ++ rest :=
  ⟨⟨bytes.take count, by rw [List.length_take]; omega⟩, bytes.drop count,
    (List.take_append_drop count bytes).symm⟩

theorem drain_eq_ok_iff {count : Nat} {bytes rest : Bytes} {octets : Octets count} :
    drain count bytes = .ok (octets, rest) ↔ bytes = octets.toList ++ rest := by
  refine ⟨fun read => ?_, fun whole => by rw [whole, drain_append]⟩
  by_cases enough : count ≤ bytes.length
  · obtain ⟨front, others, rfl⟩ := exists_octets enough
    rw [drain_append] at read
    obtain ⟨rfl, rfl⟩ := Prod.mk.inj (Except.ok.inj read)
    rfl
  · rw [drain, slice, dif_neg (by omega)] at read
    cases read

/-- `bytes.remove(0)`. -/
def removeFirst : Bytes → Outcome (UInt8 × Bytes)
  | byte :: rest => .ok (byte, rest)
  | [] => .error (.panic "removal index (is 0) should be < len (is 0)")

/-- `bytes.chunks(size)`: as many windows as it takes to cover the bytes. -/
def chunks (size : Nat) (bytes : Bytes) : List Bytes :=
  (List.range ((bytes.length + size - 1) / size)).map fun index =>
    (bytes.drop (index * size)).take size

@[simp] theorem length_chunks (size : Nat) (bytes : Bytes) :
    (chunks size bytes).length = (bytes.length + size - 1) / size := by
  rw [chunks, List.length_map, List.length_range]

theorem length_of_mem_chunks {size : Nat} {bytes chunk : Bytes} (member : chunk ∈ chunks size bytes) :
    chunk.length ≤ size := by
  obtain ⟨index, _, rfl⟩ := List.mem_map.mp member
  exact List.length_take_le _ _

/-- The windows cover the bytes, in their order. -/
theorem flatten_chunks {size : Nat} (positive : 0 < size) (bytes : Bytes) :
    (chunks size bytes).flatten = bytes := by
  have front (count : Nat) : ((List.range count).map fun index =>
      (bytes.drop (index * size)).take size).flatten = bytes.take (count * size) := by
    induction count with
    | zero => rw [Nat.zero_mul, List.take_zero]; rfl
    | succ count inductionHypothesis =>
      rw [List.range_succ, List.map_append, List.flatten_append, inductionHypothesis,
        List.map_singleton, List.flatten_singleton, Nat.succ_mul, List.take_add]
  have covers : bytes.length ≤ (bytes.length + size - 1) / size * size := by
    have rounded := Nat.div_add_mod (bytes.length + size - 1) size
    have rest := Nat.mod_lt (bytes.length + size - 1) positive
    rw [Nat.mul_comm] at rounded
    omega
  rw [chunks, front, List.take_of_length_le covers]

/-- `{byte:02x}` in a message. -/
def hexByte (byte : UInt8) : String :=
  String.ofList [Nat.digitChar (byte.toNat / 16), Nat.digitChar (byte.toNat % 16)]

/-- The bytes of an ASCII literal `b"…"`. -/
def ascii (text : String) : Bytes := text.toList.map fun char => UInt8.ofNat char.toNat

/-! ### Big-endian integers -/

/-- `to_be_bytes` of an integer of `count` bytes. -/
def toBeBytes : (count : Nat) → Nat → Bytes
  | 0, _ => []
  | count + 1, value => UInt8.ofNat (value / 256 ^ count) :: toBeBytes count value

/-- `from_be_bytes`. -/
def fromBeBytes (bytes : Bytes) : Nat := bytes.foldl (fun value byte => value * 256 + byte.toNat) 0

@[simp] theorem length_toBeBytes (count value : Nat) : (toBeBytes count value).length = count := by
  induction count with
  | zero => rfl
  | succ count inductionHypothesis => rw [toBeBytes, List.length_cons, inductionHypothesis]

theorem foldl_fromBeBytes (bytes : Bytes) (value : Nat) :
    bytes.foldl (fun value byte => value * 256 + byte.toNat) value =
      value * 256 ^ bytes.length + fromBeBytes bytes := by
  induction bytes generalizing value with
  | nil => simp [fromBeBytes]
  | cons byte rest inductionHypothesis =>
    rw [fromBeBytes, List.foldl_cons, List.foldl_cons, inductionHypothesis,
      inductionHypothesis (0 * 256 + _), List.length_cons]
    ring

theorem fromBeBytes_cons (byte : UInt8) (rest : Bytes) :
    fromBeBytes (byte :: rest) = byte.toNat * 256 ^ rest.length + fromBeBytes rest := by
  rw [fromBeBytes, List.foldl_cons, foldl_fromBeBytes]
  ring

/-- Reading back the bytes of an integer gives the integer, cut to their number. -/
theorem fromBeBytes_toBeBytes (count value : Nat) :
    fromBeBytes (toBeBytes count value) = value % 256 ^ count := by
  induction count with
  | zero => rw [pow_zero, Nat.mod_one]; rfl
  | succ count inductionHypothesis =>
    have head : (UInt8.ofNat (value / 256 ^ count)).toNat = value / 256 ^ count % 256 :=
      UInt8.toNat_ofNat'
    rw [toBeBytes, fromBeBytes_cons, inductionHypothesis, length_toBeBytes, head, pow_succ,
      Nat.mod_mul, Nat.add_comm, Nat.mul_comm]

theorem fromBeBytes_lt (bytes : Bytes) : fromBeBytes bytes < 256 ^ bytes.length := by
  induction bytes with
  | nil => exact Nat.one_pos
  | cons byte rest inductionHypothesis =>
    have small : byte.toNat + 1 ≤ 256 := byte.toNat_lt
    rw [fromBeBytes_cons, List.length_cons, pow_succ']
    calc
      byte.toNat * 256 ^ rest.length + fromBeBytes rest
          < byte.toNat * 256 ^ rest.length + 256 ^ rest.length := by omega
      _ = (byte.toNat + 1) * 256 ^ rest.length := by ring
      _ ≤ 256 * 256 ^ rest.length := Nat.mul_le_mul_right _ small

/-- The bits of the integer that bytes spell are the bits of the bytes, from the last one on. -/
theorem testBit_fromBeBytes (bytes : Bytes) (place : Nat) :
    (fromBeBytes bytes).testBit place =
      (bytes.reverse.getD (place / 8) 0).toNat.testBit (place % 8) := by
  induction bytes with
  | nil =>
    rw [show fromBeBytes [] = 0 from rfl]
    simp
  | cons byte rest inductionHypothesis =>
    have small : fromBeBytes rest < 2 ^ (8 * rest.length) := by
      rw [pow_mul]
      exact fromBeBytes_lt rest
    rw [fromBeBytes_cons, show (256 : Nat) = 2 ^ 8 from rfl, ← pow_mul, Nat.mul_comm byte.toNat,
      Nat.testBit_two_pow_mul_add _ small, List.reverse_cons]
    split
    · rename_i lower
      rw [inductionHypothesis, List.getD_append _ _ _ _ (by rw [List.length_reverse]; omega)]
    · rename_i upper
      by_cases here : place < 8 * rest.length + 8
      · rw [List.getD_append_right _ _ _ _ (by rw [List.length_reverse]; omega),
          List.length_reverse, show place / 8 - rest.length = 0 by omega,
          show place - 8 * rest.length = place % 8 by omega]
        rfl
      · rw [List.getD_eq_default _ _ (by simp; omega)]
        have byteSmall : byte.toNat < 2 ^ (place - 8 * rest.length) :=
          byte.toNat_lt.trans_le (Nat.pow_le_pow_right (by norm_num) (by omega))
        rw [Nat.testBit_lt_two_pow byteSmall]
        exact (Nat.zero_testBit _).symm

/-- Digits in front decide the order of two numbers, and the rest does when they agree. -/
theorem digit_lt_iff {base first second low high : Nat} (lowFits : low < base)
    (highFits : high < base) :
    first * base + low < second * base + high ↔ first < second ∨ first = second ∧ low < high := by
  rcases lt_trichotomy first second with less | same | greater
  · have step : (first + 1) * base ≤ second * base := Nat.mul_le_mul_right _ less
    rw [Nat.add_mul, Nat.one_mul] at step
    exact iff_of_true (by omega) (Or.inl less)
  · subst same
    simp
  · have step : (second + 1) * base ≤ first * base := Nat.mul_le_mul_right _ greater
    rw [Nat.add_mul, Nat.one_mul] at step
    refine iff_of_false (by omega) ?_
    omega

/-- Byte strings of one length are ordered as the integers they spell. -/
theorem fromBeBytes_lt_iff {first second : Bytes} (same : first.length = second.length) :
    fromBeBytes first < fromBeBytes second ↔ first < second := by
  induction first generalizing second with
  | nil =>
    rw [List.eq_nil_of_length_eq_zero same.symm]
    simp
  | cons byte rest inductionHypothesis =>
    obtain ⟨other, others, rfl⟩ := List.exists_cons_of_length_eq_add_one same.symm
    rw [List.length_cons, List.length_cons, Nat.add_right_cancel_iff] at same
    rw [fromBeBytes_cons, fromBeBytes_cons, same,
      digit_lt_iff (same ▸ fromBeBytes_lt rest) (fromBeBytes_lt others),
      inductionHypothesis same, List.cons_lt_cons_iff, UInt8.lt_iff_toNat_lt, UInt8.toNat_inj]

theorem fromBeBytes_inj {first second : Bytes} (same : first.length = second.length)
    (equal : fromBeBytes first = fromBeBytes second) : first = second := by
  have notLess : ¬ first < second := by
    rw [← fromBeBytes_lt_iff same, equal]
    exact lt_irrefl _
  have notGreater : ¬ second < first := by
    rw [← fromBeBytes_lt_iff same.symm, equal]
    exact lt_irrefl _
  exact List.le_antisymm notGreater notLess
abbrev U16 := BitVec 16

abbrev U32 := BitVec 32

abbrev U64 := BitVec 64

abbrev U128 := BitVec 128

/-- `value.to_be_bytes()`. -/
def beBytes {width : Nat} (count : Nat) (value : BitVec width) : Octets count :=
  ⟨toBeBytes count value.toNat, length_toBeBytes count _⟩

/-- `from_be_bytes(octets)`. -/
def ofBeBytes (width : Nat) {count : Nat} (octets : Octets count) : BitVec width :=
  BitVec.ofNat width (fromBeBytes octets.toList)

theorem ofBeBytes_beBytes {width count : Nat} (value : BitVec width)
    (fills : 2 ^ width = 256 ^ count) : ofBeBytes width (beBytes count value) = value := by
  refine BitVec.eq_of_toNat_eq ?_
  show fromBeBytes (toBeBytes count value.toNat) % 2 ^ width = value.toNat
  rw [fromBeBytes_toBeBytes, fills, Nat.mod_mod, ← fills]
  exact Nat.mod_eq_of_lt value.isLt

theorem beBytes_ofBeBytes {width count : Nat} (octets : Octets count)
    (fills : 2 ^ width = 256 ^ count) : beBytes count (ofBeBytes width octets) = octets := by
  refine Subtype.ext (fromBeBytes_inj ?_ ?_)
  · rw [List.Vector.length_val, List.Vector.length_val]
  · have small := fromBeBytes_lt octets.toList
    rw [List.Vector.toList_length, ← fills] at small
    show fromBeBytes (toBeBytes count (fromBeBytes octets.toList % 2 ^ width)) = _
    rw [fromBeBytes_toBeBytes, ← fills, Nat.mod_mod, Nat.mod_eq_of_lt small]
    rfl

theorem beBytes_inj {width count : Nat} {first second : BitVec width}
    (fills : 2 ^ width = 256 ^ count) (same : beBytes count first = beBytes count second) :
    first = second := by
  rw [← ofBeBytes_beBytes first fills, same, ofBeBytes_beBytes second fills]

end Rust
