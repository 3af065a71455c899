/-
This file proves what becomes of operations that are cut off. Each part of the parser takes its
bytes off the front and decides by these alone, so an operation that is read to the end is not
read from less. What is left is to see that the parser fails there without a panic. The
one place where it does not look for the bytes that it removes is the length of a value to store,
so it panics on a `Store` that ends between its time to live and its value.
-/

import Mathlib
import Insub.Library.Reader
import Insub.Dht.Codec
import Insub.Dht.Parsing
import Insub.Runtime.Dht

namespace Insub

open Rust

theorem frugal_takeBytes (count : Nat) : Frugal (takeBytes count) := by
  intro bytes octets rest read
  exact ⟨octets.toList, takeBytes_eq_ok_iff.mp read, fun more => takeBytes_append octets more⟩

namespace DhtOperation

/-! ### The parts of the parser -/

theorem frugal_readId : Frugal readId := by
  have taken := (frugal_takeBytes 32).bind fun id => Frugal.pure ({ id } : NodeID)
  exact taken

theorem frugal_removeLength : Frugal removeLength := by
  have taken := frugal_removeFirst.bind fun high => frugal_removeFirst.bind fun low =>
    Frugal.pure (fromBeBytes [high, low])
  exact taken

theorem removeLength_panics_iff {bytes : Bytes} :
    (removeLength bytes).Panics ↔ bytes.length < 2 := by
  refine ⟨fun panicked => ?_, fun short => ?_⟩
  · by_contra enough
    exact not_panics_removeLength enough panicked
  · match bytes, short with
    | [], _ | [_], _ => exact Outcome.panics_panic _

theorem frugal_readAddress : Frugal readAddress := by
  intro bytes addr rest read
  cases bytes with
  | nil => cases read
  | cons addrType bytes =>
    rw [readAddress, List.isEmpty_cons, if_neg Bool.false_ne_true, removeFirst_cons,
      Outcome.bind_ok] at read
    dsimp only at read
    split at read
    · rename_i isV4
      obtain ⟨⟨addrBytes, _⟩, front, read⟩ := Outcome.bind_eq_ok_iff.mp read
      cases read
      refine ⟨addrType :: addrBytes.toList, congrArg _ (takeBytes_eq_ok_iff.mp front), ?_⟩
      intro more
      simp [readAddress, removeFirst_cons, isV4, takeBytes_append]
    · rename_i isV6
      obtain ⟨⟨addrBytes, _⟩, front, read⟩ := Outcome.bind_eq_ok_iff.mp read
      cases read
      refine ⟨addrType :: addrBytes.toList, congrArg _ (takeBytes_eq_ok_iff.mp front), ?_⟩
      intro more
      simp [readAddress, removeFirst_cons, isV6, takeBytes_append]
    · cases read

theorem frugal_readNodesLoop (count : Nat) (listed : NodeList) :
    Frugal fun bytes => readNodesLoop count bytes listed := by
  induction count generalizing listed with
  | zero => exact Frugal.pure listed
  | succ count inductionHypothesis =>
    have taken := (frugal_takeBytes 32).bind fun id => frugal_readAddress.bind fun addr =>
      inductionHypothesis (listed ++ [(NodeID.mk id, addr)])
    exact taken

theorem frugal_readNodes : Frugal readNodes := by
  have counted := frugal_removeLength.bind fun count => frugal_readNodesLoop count []
  exact counted.guarded fun bytes short =>
    Outcome.not_returns_bind (Outcome.not_returns_of_panics (removeLength_panics_iff.mpr short))

theorem frugal_readStored (length : Nat) : Frugal (readStored length) := by
  have taken := frugal_take length (.error "truncated value") fun stored => stored
  exact taken

theorem frugal_readHeld : Frugal readHeld := by
  have counted := frugal_removeLength.bind fun length =>
    frugal_take length (.error "truncated value") some
  have held : Frugal fun bytes =>
      if bytes.length < 2 then .error (.error "truncated value length") else _ :=
    counted.guarded fun bytes short =>
      Outcome.not_returns_bind (Outcome.not_returns_of_panics (removeLength_panics_iff.mpr short))
  have whole := frugal_removeFirst.bind fun hasValue =>
    Frugal.ite (hasValue = 1) held (Frugal.pure none)
  exact whole.guarded fun bytes none =>
    Outcome.not_returns_bind (Outcome.not_returns_of_panics (by rw [List.isEmpty_iff.mp none]; exact ⟨_, rfl⟩))

theorem frugal_readBody (tag : UInt8) : Frugal (readBody tag) := by
  unfold readBody
  generalize tag.toNat = number
  match number with
  | 1 =>
    have taken := frugal_readId.bind fun senderId => Frugal.pure (ping senderId)
    exact taken
  | 2 =>
    have taken := frugal_readId.bind fun senderId => Frugal.pure (pong senderId)
    exact taken
  | 3 =>
    have taken := frugal_readId.bind fun senderId => frugal_readId.bind fun targetId =>
      Frugal.pure (findNode senderId targetId)
    exact taken
  | 4 =>
    have taken := frugal_readId.bind fun senderId => frugal_readNodes.bind fun listed =>
      Frugal.pure (nodes senderId listed)
    exact taken
  | 5 =>
    have taken := frugal_readId.bind fun senderId => (frugal_takeBytes 32).bind fun key =>
      (frugal_takeBytes 4).bind fun ttlBytes => frugal_removeLength.bind fun length =>
        (frugal_readStored length).bind fun stored =>
          Frugal.pure (store senderId key stored (ofBeBytes 32 ttlBytes))
    exact taken
  | 6 =>
    have taken := frugal_readId.bind fun senderId => (frugal_takeBytes 32).bind fun key =>
      Frugal.pure (storeAck senderId key)
    exact taken
  | 7 =>
    have taken := frugal_readId.bind fun senderId => (frugal_takeBytes 32).bind fun key =>
      Frugal.pure (findValue senderId key)
    exact taken
  | 8 =>
    have taken := frugal_readId.bind fun senderId => (frugal_takeBytes 32).bind fun key =>
      frugal_readHeld.bind fun held => frugal_readNodes.bind fun closestNodes =>
        Frugal.pure (value senderId key held closestNodes)
    exact taken
  | 0 | _ + 9 => exact Frugal.error _

/-! ### Where the parser panics -/

/-- A `Store` with an id, a key and a time to live, and at most one byte of the length that
should follow. -/
def LacksLength (bytes : Bytes) : Prop :=
  bytes.head? = some 5 ∧ (bytes.length = 1 + 32 + 32 + 4 ∨ bytes.length = 1 + 32 + 32 + 4 + 1)

instance (bytes : Bytes) : Decidable (LacksLength bytes) := inferInstanceAs (Decidable (_ ∧ _))

theorem panics_bind_takeBytes_iff {Value : Type} {count : Nat} {bytes : Bytes}
    {next : Octets count × Bytes → Outcome Value} :
    (takeBytes count bytes >>= next).Panics ↔
      ∃ (octets : Octets count) (rest : Bytes),
        bytes = octets.toList ++ rest ∧ (next (octets, rest)).Panics := by
  rw [Outcome.panics_bind_iff, or_iff_right (not_panics_takeBytes count bytes)]
  simp only [Prod.exists, takeBytes_eq_ok_iff]

/-- A `Store` is parsed with a panic just when its length is missing. -/
theorem fromBody_store_panics_iff (bytes : Bytes) :
    (fromBody 5 bytes).Panics ↔ 32 + 32 + 4 ≤ bytes.length ∧ bytes.length < 32 + 32 + 4 + 2 := by
  have parts : (fromBody 5 bytes).Panics ↔
      ∃ (id : Octets 32) (others : Bytes), bytes = id.toList ++ others ∧
        ∃ (key : Octets 32) (more : Bytes), others = key.toList ++ more ∧
          ∃ (ttlBytes : Octets 4) (last : Bytes), more = ttlBytes.toList ++ last ∧
            last.length < 2 := by
    show ((readId bytes) >>= _).Panics ↔ _
    rw [readId, bind_assoc, panics_bind_takeBytes_iff]
    refine exists_congr fun id => exists_congr fun others => and_congr_right fun _ => ?_
    rw [Outcome.bind_ok]
    refine panics_bind_takeBytes_iff.trans ?_
    refine exists_congr fun key => exists_congr fun more => and_congr_right fun _ => ?_
    refine panics_bind_takeBytes_iff.trans ?_
    refine exists_congr fun ttlBytes => exists_congr fun last => and_congr_right fun _ => ?_
    rw [Outcome.panics_bind_iff, removeLength_panics_iff]
    refine or_iff_left ?_
    rintro ⟨⟨length, rest⟩, -, panicked⟩
    dsimp only at panicked
    split at panicked
    · exact Outcome.not_panics_error _ panicked
    · exact Outcome.not_panics_ok _ panicked
  rw [parts]
  constructor
  · rintro ⟨id, _, rfl, key, _, rfl, ttlBytes, last, rfl, short⟩
    simp only [List.length_append, List.Vector.toList_length]
    omega
  · rintro ⟨enough, short⟩
    obtain ⟨id, others, rfl⟩ := exists_octets (show 32 ≤ bytes.length by omega)
    rw [List.length_append, id.toList_length] at enough short
    obtain ⟨key, more, rfl⟩ := exists_octets (show 32 ≤ others.length by omega)
    rw [List.length_append, key.toList_length] at enough short
    obtain ⟨ttlBytes, last, rfl⟩ := exists_octets (show 4 ≤ more.length by omega)
    rw [List.length_append, ttlBytes.toList_length] at enough short
    exact ⟨id, _, rfl, key, _, rfl, ttlBytes, last, rfl, by omega⟩

theorem fromSerialized_panics_iff (bytes : Bytes) :
    (fromSerialized bytes).Panics ↔ LacksLength bytes := by
  cases bytes with
  | nil => exact iff_of_false (Outcome.not_panics_error _) fun lacks => nomatch lacks.1
  | cons tag body =>
    show (fromBody tag body).Panics ↔ _
    by_cases isStore : tag = 5
    · rw [isStore, fromBody_store_panics_iff, LacksLength, List.head?_cons, List.length_cons,
        and_iff_right rfl]
      omega
    · refine iff_of_false (not_panics_fromBody isStore body) fun lacks => isStore ?_
      exact Option.some.inj lacks.1

/-! ### Operations that are cut off -/

theorem not_returns_of_cut {operation : DhtOperation} (fits : operation.Fits)
    {cut dropped : Bytes} (split : operation.serialize = cut ++ dropped) (proper : dropped ≠ []) :
    ¬ (fromSerialized cut).Returns := by
  cases cut with
  | nil => exact Outcome.not_returns_fault _
  | cons tag cut =>
    obtain ⟨rfl, body⟩ := List.cons_eq_cons.mp split
    have whole := readBody_body fits []
    rw [List.append_nil] at whole
    have fails := (frugal_readBody operation.tag).not_returns_of_cut whole body proper
    rintro ⟨parsed, returned⟩
    change fromBody operation.tag cut = _ at returned
    rw [fromBody_eq] at returned
    obtain ⟨value, read, -⟩ := Outcome.map_eq_ok_iff.mp returned
    exact fails ⟨value, read⟩

/-- A `Store` that ends where its length should begin. -/
def sampleCut : Bytes :=
  (store { id := Octets.zero 32 } (Octets.zero 32) [7] 60).serialize.take 69

theorem sampleCut_panics : (fromSerialized sampleCut).Panics := ⟨_, rfl⟩

theorem isError_of_cut_iff {operation : DhtOperation} (fits : operation.Fits)
    {cut dropped : Bytes} (split : operation.serialize = cut ++ dropped) (proper : dropped ≠ []) :
    (fromSerialized cut).IsError ↔ ¬ LacksLength cut := by
  have fails := not_returns_of_cut fits split proper
  rw [← fromSerialized_panics_iff]
  rcases run : fromSerialized cut with (message | site) | parsed
  · exact iff_of_true (Outcome.isError_error _) (Outcome.not_panics_error _)
  · exact iff_of_false (Outcome.not_isError_panic _) (not_not.mpr (Outcome.panics_panic _))
  · exact absurd ⟨parsed, run⟩ fails

end DhtOperation

/-! ### The server -/

theorem DhtRuntime.serve_panics_iff {runtime : DhtRuntime} (serving : runtime.server.isSome)
    (packet : Packet) (sender : SocketAddr) (now : Instant) (clock : Nat → Instant) :
    (runtime.serve packet sender now clock).1.Panics ↔
      DhtOperation.LacksLength packet.payload.data := by
  obtain ⟨server, some_server⟩ := Option.isSome_iff_exists.mp serving
  rw [← DhtOperation.fromSerialized_panics_iff]
  simp only [serve, some_server, DhtNode.process]
  rcases DhtOperation.fromSerialized packet.payload.data with (message | site) | operation
  · exact iff_of_false (Outcome.not_panics_ok _) (Outcome.not_panics_error _)
  · exact iff_of_true (Outcome.panics_panic _) (Outcome.panics_panic _)
  · exact iff_of_false (Outcome.not_panics_ok _) (Outcome.not_panics_ok _)

/-- All that goes wrong with the bytes of an operation goes wrong where the length of a value to
store is missing: no other bytes panic the parser or the server, and every operation that is cut
off anywhere else is refused. -/
theorem DhtOperation.parsing_safe_iff (bytes : Bytes) :
    (¬ (fromSerialized bytes).Panics ↔ ¬ LacksLength bytes) ∧
    (∀ (operation : DhtOperation) (dropped : Bytes), operation.Fits →
      operation.serialize = bytes ++ dropped → dropped ≠ [] →
        ((fromSerialized bytes).IsError ↔ ¬ LacksLength bytes)) ∧
    ∀ (runtime : DhtRuntime) (packet : Packet) (sender : SocketAddr) (now : Instant)
      (clock : Nat → Instant), packet.payload.data = bytes → runtime.server.isSome →
        (¬ (runtime.serve packet sender now clock).1.Panics ↔ ¬ LacksLength bytes) := by
  refine ⟨not_congr (fromSerialized_panics_iff bytes), ?_, ?_⟩
  · intro operation dropped fits split proper
    exact isError_of_cut_iff fits split proper
  · rintro runtime packet sender now clock rfl serving
    exact not_congr (DhtRuntime.serve_panics_iff serving packet sender now clock)

end Insub
