/-
This file proves the round trip of the operations of the hash table. What is written is read back,
whatever bytes follow it, as long as its lengths fit their two bytes; of an address the wire leaves
out flow info and scope id. Whatever the parser reads fits, so to write it and read it again gives
the same operation.
-/

import Mathlib
import Insub.Dht.Protocol

namespace Insub

open Rust

namespace DhtOperation

/-! ### Reading back what was written -/

theorem removeFirst_cons (byte : UInt8) (rest : Bytes) :
    removeFirst (byte :: rest) = .ok (byte, rest) := rfl

theorem readAddress_writeAddress (addr : SocketAddr) (rest : Bytes) :
    readAddress (writeAddress addr ++ rest) = .ok (addr.plain, rest) := by
  cases addr with
  | v4 ip port =>
    have read := takeBytes_append (ip ++ beBytes 2 port) rest
    rw [List.Vector.toList_append] at read
    have ipRead : Octets.window 0 4 (ip ++ beBytes 2 port) (by decide) = ip :=
      Octets.window_append_left ip (beBytes 2 port) _
    have portRead : Octets.window 4 2 (ip ++ beBytes 2 port) (by decide) = beBytes 2 port :=
      Octets.window_append_right ip (beBytes 2 port) _
    simp [readAddress, writeAddress, removeFirst_cons, ← List.append_assoc, read, ipRead, portRead,
      SocketAddr.plain, ofBeBytes_beBytes port (by decide : 2 ^ 16 = 256 ^ 2)]
  | v6 ip port flowinfo scopeId =>
    have read := takeBytes_append (ip ++ beBytes 2 port) rest
    rw [List.Vector.toList_append] at read
    have ipRead : Octets.window 0 16 (ip ++ beBytes 2 port) (by decide) = ip :=
      Octets.window_append_left ip (beBytes 2 port) _
    have portRead : Octets.window 16 2 (ip ++ beBytes 2 port) (by decide) = beBytes 2 port :=
      Octets.window_append_right ip (beBytes 2 port) _
    simp [readAddress, writeAddress, removeFirst_cons, ← List.append_assoc, read, ipRead, portRead,
      SocketAddr.plain, ofBeBytes_beBytes port (by decide : 2 ^ 16 = 256 ^ 2)]

/-- A length is read back as its last two bytes. -/
theorem removeLength_writeLength_mod (length : Nat) (rest : Bytes) :
    removeLength (writeLength length ++ rest) = .ok (length % 2 ^ 16, rest) := by
  have value : fromBeBytes (writeLength length) = length % 2 ^ 16 := by
    show fromBeBytes (toBeBytes 2 (length % 2 ^ 16)) = length % 2 ^ 16
    rw [fromBeBytes_toBeBytes]
    exact Nat.mod_eq_of_lt (Nat.mod_lt _ (by norm_num))
  obtain ⟨high, low, two⟩ : ∃ high low, writeLength length = [high, low] :=
    List.length_eq_two.mp (List.Vector.toList_length _)
  rw [two] at value ⊢
  show Except.ok (fromBeBytes [high, low], rest) = _
  rw [value]

/-- A length that fits two bytes is read back. -/
theorem removeLength_writeLength {length : Nat} (fits : length < 2 ^ 16) (rest : Bytes) :
    removeLength (writeLength length ++ rest) = .ok (length, rest) := by
  rw [removeLength_writeLength_mod, Nat.mod_eq_of_lt fits]

theorem length_writeLength (length : Nat) : (writeLength length).length = 2 :=
  List.Vector.toList_length _

theorem readNodesLoop_write (listed before : NodeList) (rest : Bytes) :
    readNodesLoop listed.length
        ((listed.flatMap fun (id, addr) => id.id.toList ++ writeAddress addr) ++ rest) before =
      .ok (before ++ listed.map fun (id, addr) => (id, addr.plain), rest) := by
  induction listed generalizing before with
  | nil => simp [readNodesLoop]
  | cons node listed inductionHypothesis =>
    obtain ⟨id, addr⟩ := node
    simp [readNodesLoop, takeBytes_append, readAddress_writeAddress, inductionHypothesis]

theorem readNodes_writeNodes {listed : NodeList} (fits : listed.length < 2 ^ 16) (rest : Bytes) :
    readNodes (writeNodes listed ++ rest) =
      .ok (listed.map fun (id, addr) => (id, addr.plain), rest) := by
  have enough : ¬ (writeNodes listed ++ rest).length < 2 := by
    rw [writeNodes, List.append_assoc, List.length_append, length_writeLength]
    omega
  rw [readNodes, if_neg enough, writeNodes, List.append_assoc, removeLength_writeLength fits,
    Outcome.bind_ok]
  exact readNodesLoop_write listed [] rest

theorem readId_append (id : NodeID) (rest : Bytes) :
    readId (id.id.toList ++ rest) = .ok (id, rest) := by
  rw [readId, takeBytes_append]
  rfl

/-- How the value of a `Value` operation is written. -/
def writeHeld : Option Bytes → Bytes
  | some bytes => [1] ++ (writeLength bytes.length ++ bytes)
  | none => [0]

theorem readHeld_writeHeld {held : Option Bytes} (fits : ∀ bytes ∈ held, bytes.length < 2 ^ 16)
    (rest : Bytes) : readHeld (writeHeld held ++ rest) = .ok (held, rest) := by
  cases held with
  | none => rfl
  | some bytes =>
    have read := removeLength_writeLength (fits bytes rfl) (bytes ++ rest)
    have enough : ¬ (writeLength bytes.length ++ (bytes ++ rest)).length < 2 := by
      rw [List.length_append, length_writeLength]
      omega
    simp only [readHeld, writeHeld, List.cons_append, List.nil_append, List.append_assoc,
      List.isEmpty_cons, removeFirst_cons, Outcome.bind_ok, if_true, if_neg enough, read]
    simp

/-! ### Operations -/

/-- The lengths of the operation fit their two bytes. -/
def Fits : DhtOperation → Prop
  | .nodes _ listed => listed.length < 2 ^ 16
  | .store _ _ stored _ => stored.length < 2 ^ 16
  | .value _ _ held closestNodes =>
    (∀ bytes ∈ held, bytes.length < 2 ^ 16) ∧ closestNodes.length < 2 ^ 16
  | _ => True

/-- What the wire carries of an operation. -/
def plain : DhtOperation → DhtOperation
  | .nodes senderId listed => .nodes senderId (listed.map fun (id, addr) => (id, addr.plain))
  | .value senderId key held closestNodes =>
    .value senderId key held (closestNodes.map fun (id, addr) => (id, addr.plain))
  | operation => operation

/-- The value of a `Store` operation, of the length that stands in front of it. -/
def readStored (length : Nat) (bytes : Bytes) : Outcome (Bytes × Bytes) :=
  if bytes.length < length then .error (.error "truncated value")
  else .ok (bytes.take length, bytes.drop length)

/-- What `fromBody` parses, with the bytes that it leaves unread. -/
def readBody (tag : UInt8) (bytes : Bytes) : Outcome (DhtOperation × Bytes) :=
  match tag.toNat with
  | 1 => do
    let (senderId, bytes) ← readId bytes
    .ok (.ping senderId, bytes)
  | 2 => do
    let (senderId, bytes) ← readId bytes
    .ok (.pong senderId, bytes)
  | 3 => do
    let (senderId, bytes) ← readId bytes
    let (targetId, bytes) ← readId bytes
    .ok (.findNode senderId targetId, bytes)
  | 4 => do
    let (senderId, bytes) ← readId bytes
    let (listed, bytes) ← readNodes bytes
    .ok (.nodes senderId listed, bytes)
  | 5 => do
    let (senderId, bytes) ← readId bytes
    let (key, bytes) ← readKey bytes
    let (ttlBytes, bytes) ← takeBytes 4 bytes
    let (length, bytes) ← removeLength bytes
    let (stored, bytes) ← readStored length bytes
    .ok (.store senderId key stored (ofBeBytes 32 ttlBytes), bytes)
  | 6 => do
    let (senderId, bytes) ← readId bytes
    let (key, bytes) ← readKey bytes
    .ok (.storeAck senderId key, bytes)
  | 7 => do
    let (senderId, bytes) ← readId bytes
    let (key, bytes) ← readKey bytes
    .ok (.findValue senderId key, bytes)
  | 8 => do
    let (senderId, bytes) ← readId bytes
    let (key, bytes) ← readKey bytes
    let (held, bytes) ← readHeld bytes
    let (closestNodes, bytes) ← readNodes bytes
    .ok (.value senderId key held closestNodes, bytes)
  | _ => .error (.error s!"unknown dht packet tag: {tag.toNat}")

theorem fromBody_eq (tag : UInt8) (bytes : Bytes) :
    fromBody tag bytes = Prod.fst <$> readBody tag bytes := by
  rw [fromBody, readBody]
  generalize tag.toNat = number
  match number with
  | 1 | 2 | 3 | 4 | 6 | 7 | 8 =>
    simp only [map_bind]
    rfl
  | 5 =>
    simp only [map_bind, readStored]
    refine bind_congr fun senderId => ?_
    refine bind_congr fun key => ?_
    refine bind_congr fun ttlBytes => ?_
    refine bind_congr fun counted => ?_
    by_cases short : counted.2.length < counted.1
    · rw [if_pos short, if_pos short]
      rfl
    · rw [if_neg short, if_neg short]
      rfl
  | 0 | _ + 9 => rfl

/-- What is written is read back, up to what the wire leaves out of addresses, and what follows it
is left. -/
theorem readBody_body {operation : DhtOperation} (fits : operation.Fits) (rest : Bytes) :
    readBody operation.tag (operation.body ++ rest) = .ok (operation.plain, rest) := by
  cases operation with
  | ping senderId => simp [readBody, tag, body, readId_append, plain]
  | pong senderId => simp [readBody, tag, body, readId_append, plain]
  | findNode senderId targetId => simp [readBody, tag, body, readId_append, plain]
  | nodes senderId listed =>
    have listed := readNodes_writeNodes fits rest
    simp [readBody, tag, body, readId_append, plain, listed]
  | store senderId key stored ttlSeconds =>
    have length := removeLength_writeLength fits (stored ++ rest)
    simp [readBody, tag, body, readId_append, readKey, takeBytes_append, plain, length, readStored,
      ofBeBytes_beBytes ttlSeconds (by decide : 2 ^ 32 = 256 ^ 4)]
  | storeAck senderId key =>
    simp [readBody, tag, body, readId_append, readKey, takeBytes_append, plain]
  | findValue senderId key =>
    simp [readBody, tag, body, readId_append, readKey, takeBytes_append, plain]
  | value senderId key held closestNodes =>
    have value := readHeld_writeHeld fits.1 (writeNodes closestNodes ++ rest)
    have listed := readNodes_writeNodes fits.2 rest
    have written : body (.value senderId key held closestNodes) =
        senderId.id.toList ++ (key.toList ++ (writeHeld held ++ writeNodes closestNodes)) := by
      cases held <;> rfl
    simp [readBody, tag, written, readId_append, readKey, takeBytes_append, plain, value, listed]

theorem fromSerialized_serialize_append {operation : DhtOperation} (fits : operation.Fits)
    (rest : Bytes) : fromSerialized (operation.serialize ++ rest) = .ok operation.plain := by
  show fromBody operation.tag (operation.body ++ rest) = _
  rw [fromBody_eq, readBody_body fits]
  rfl

/-- Of a value that is stored, as much is read as its length says that is written. -/
theorem fromSerialized_store (senderId : NodeID) (key : Key) (value : Bytes) (ttlSeconds : U32) :
    fromSerialized (store senderId key value ttlSeconds).serialize =
      .ok (.store senderId key (value.take (value.length % 2 ^ 16)) ttlSeconds) := by
  have length := removeLength_writeLength_mod value.length value
  have cut : readStored (value.length % 2 ^ 16) value =
      .ok (value.take (value.length % 2 ^ 16), value.drop (value.length % 2 ^ 16)) :=
    if_neg (not_lt.mpr (Nat.mod_le _ _))
  show fromBody 5 (body (.store senderId key value ttlSeconds)) = _
  simp [-Nat.reducePow, fromBody_eq, readBody, body, readId_append, readKey, takeBytes_append,
    length, cut, ofBeBytes_beBytes ttlSeconds (by decide : 2 ^ 32 = 256 ^ 4)]

/-! ### What the parser yields -/

/-- The operation fits, and no address of it has flow info or a scope id. -/
structure Encodable (operation : DhtOperation) : Prop where
  fits : operation.Fits
  plain : operation.plain = operation

theorem isPlain_of_readAddress {bytes rest : Bytes} {addr : SocketAddr}
    (read : readAddress bytes = .ok (addr, rest)) : addr.IsPlain := by
  by_cases empty : bytes.isEmpty = true
  · rw [readAddress, if_pos empty] at read
    cases read
  · rw [readAddress, if_neg empty] at read
    obtain ⟨⟨addrType, remaining⟩, -, read⟩ := Outcome.bind_eq_ok_iff.mp read
    dsimp only at read
    split at read
    · obtain ⟨⟨addrBytes, _⟩, -, read⟩ := Outcome.bind_eq_ok_iff.mp read
      cases read
      rfl
    · obtain ⟨⟨addrBytes, _⟩, -, read⟩ := Outcome.bind_eq_ok_iff.mp read
      cases read
      rfl
    · cases read

theorem lt_of_removeLength {bytes rest : Bytes} {length : Nat}
    (read : removeLength bytes = .ok (length, rest)) : length < 2 ^ 16 := by
  obtain ⟨⟨high, _⟩, -, read⟩ := Outcome.bind_eq_ok_iff.mp read
  obtain ⟨⟨low, _⟩, -, read⟩ := Outcome.bind_eq_ok_iff.mp read
  cases read
  calc
    fromBeBytes [high, low] < 256 ^ 2 := fromBeBytes_lt [high, low]
    _ = 2 ^ 16 := by norm_num

/-- The loop reads as many nodes as it is told to. -/
theorem readNodesLoop_yields {count : Nat} {bytes rest : Bytes} {before listed : NodeList}
    (read : readNodesLoop count bytes before = .ok (listed, rest))
    (plain : ∀ node ∈ before, node.2.IsPlain) :
    listed.length = before.length + count ∧ ∀ node ∈ listed, node.2.IsPlain := by
  induction count generalizing bytes before with
  | zero =>
    cases read
    exact ⟨rfl, plain⟩
  | succ count inductionHypothesis =>
    obtain ⟨⟨idBytes, _⟩, -, read⟩ := Outcome.bind_eq_ok_iff.mp read
    obtain ⟨⟨addr, _⟩, found, read⟩ := Outcome.bind_eq_ok_iff.mp read
    obtain ⟨length, all⟩ := inductionHypothesis read (by
      intro node member
      rcases List.mem_append.mp member with earlier | new
      · exact plain node earlier
      · rw [List.mem_singleton.mp new]
        exact isPlain_of_readAddress found)
    refine ⟨?_, all⟩
    rw [length, List.length_append, List.length_singleton]
    omega

theorem readNodes_yields {bytes rest : Bytes} {listed : NodeList}
    (read : readNodes bytes = .ok (listed, rest)) :
    listed.length < 2 ^ 16 ∧ listed.map (fun (id, addr) => (id, addr.plain)) = listed := by
  by_cases short : bytes.length < 2
  · rw [readNodes, if_pos short] at read
    cases read
  · rw [readNodes, if_neg short] at read
    obtain ⟨⟨count, _⟩, counted, read⟩ := Outcome.bind_eq_ok_iff.mp read
    obtain ⟨length, plain⟩ :=
      readNodesLoop_yields read fun _ member => absurd member List.not_mem_nil
    rw [List.length_nil, Nat.zero_add] at length
    refine ⟨length ▸ lt_of_removeLength counted, ?_⟩
    calc
      listed.map (fun (id, addr) => (id, addr.plain)) = listed.map id :=
        List.map_congr_left fun node member => Prod.ext rfl (plain node member)
      _ = listed := List.map_id listed

theorem readHeld_yields {bytes rest : Bytes} {held : Option Bytes}
    (read : readHeld bytes = .ok (held, rest)) : ∀ found ∈ held, found.length < 2 ^ 16 := by
  by_cases empty : bytes.isEmpty = true
  · rw [readHeld, if_pos empty] at read
    cases read
  · rw [readHeld, if_neg empty] at read
    obtain ⟨⟨hasValue, remaining⟩, -, read⟩ := Outcome.bind_eq_ok_iff.mp read
    dsimp only at read
    split at read
    · split at read
      · cases read
      · obtain ⟨⟨length, tail⟩, counted, read⟩ := Outcome.bind_eq_ok_iff.mp read
        dsimp only at read
        split at read
        · cases read
        · cases read
          rintro found ⟨⟩
          have bound := lt_of_removeLength counted
          rw [List.length_take]
          omega
    · cases read
      rintro found ⟨⟩

/-- Whatever the parser yields can be written and read again. -/
theorem encodable_of_fromSerialized {bytes : Bytes} {operation : DhtOperation}
    (read : fromSerialized bytes = .ok operation) : operation.Encodable := by
  by_cases empty : bytes.isEmpty = true
  · rw [fromSerialized, if_pos empty] at read
    cases read
  · rw [fromSerialized, if_neg empty] at read
    obtain ⟨⟨tag, body⟩, -, read⟩ := Outcome.bind_eq_ok_iff.mp read
    dsimp only [fromBody] at read
    split at read
    · obtain ⟨_, -, read⟩ := Outcome.bind_eq_ok_iff.mp read
      cases read
      exact ⟨trivial, rfl⟩
    · obtain ⟨_, -, read⟩ := Outcome.bind_eq_ok_iff.mp read
      cases read
      exact ⟨trivial, rfl⟩
    · obtain ⟨_, -, read⟩ := Outcome.bind_eq_ok_iff.mp read
      obtain ⟨_, -, read⟩ := Outcome.bind_eq_ok_iff.mp read
      cases read
      exact ⟨trivial, rfl⟩
    · obtain ⟨_, -, read⟩ := Outcome.bind_eq_ok_iff.mp read
      obtain ⟨⟨listed, _⟩, found, read⟩ := Outcome.bind_eq_ok_iff.mp read
      cases read
      obtain ⟨fits, same⟩ := readNodes_yields found
      exact ⟨fits, congrArg (DhtOperation.nodes _) same⟩
    · obtain ⟨_, -, read⟩ := Outcome.bind_eq_ok_iff.mp read
      obtain ⟨_, -, read⟩ := Outcome.bind_eq_ok_iff.mp read
      obtain ⟨_, -, read⟩ := Outcome.bind_eq_ok_iff.mp read
      obtain ⟨⟨length, tail⟩, counted, read⟩ := Outcome.bind_eq_ok_iff.mp read
      dsimp only at read
      split at read
      · cases read
      · cases read
        refine ⟨?_, rfl⟩
        have bound := lt_of_removeLength counted
        show (tail.take length).length < 2 ^ 16
        rw [List.length_take]
        omega
    · obtain ⟨_, -, read⟩ := Outcome.bind_eq_ok_iff.mp read
      obtain ⟨_, -, read⟩ := Outcome.bind_eq_ok_iff.mp read
      cases read
      exact ⟨trivial, rfl⟩
    · obtain ⟨_, -, read⟩ := Outcome.bind_eq_ok_iff.mp read
      obtain ⟨_, -, read⟩ := Outcome.bind_eq_ok_iff.mp read
      cases read
      exact ⟨trivial, rfl⟩
    · obtain ⟨_, -, read⟩ := Outcome.bind_eq_ok_iff.mp read
      obtain ⟨_, -, read⟩ := Outcome.bind_eq_ok_iff.mp read
      obtain ⟨⟨held, _⟩, heldFound, read⟩ := Outcome.bind_eq_ok_iff.mp read
      obtain ⟨⟨closestNodes, _⟩, found, read⟩ := Outcome.bind_eq_ok_iff.mp read
      cases read
      obtain ⟨fits, same⟩ := readNodes_yields found
      exact ⟨⟨readHeld_yields heldFound, fits⟩, congrArg (DhtOperation.value _ _ _) same⟩
    · cases read

end DhtOperation

end Insub
