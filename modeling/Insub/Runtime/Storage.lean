/-
This file models `storage.rs`, the format of the two tables that a runtime keeps on disk, and
`save_peer_state` and `load_peer_state` of `runtime.rs`: the keys that are pinned for addresses, and
the addresses of users. The file is taken as its bytes.

Each table stands behind its length in four bytes. The length is cut to them, so that the two tables
come back exactly if both are shorter than 2^32 bytes.
-/

import Mathlib
import Insub.Library.CountedMap
import Insub.Runtime.State
import Insub.Crypto.SampleSuite

namespace Insub

open Rust

namespace Storage

/-! ### Addresses -/

def writeAddr : SocketAddr → Bytes
  | .v4 ip port => [4] ++ (ip.toList ++ (beBytes 2 port).toList)
  | .v6 ip port _ _ => [6] ++ (ip.toList ++ (beBytes 2 port).toList)

/-- The octets of an address and the port behind them. -/
def readIpAndPort (width : Nat) (truncated : String) (make : Octets width → U16 → SocketAddr)
    (bytes : Bytes) (cursor : Nat) : Outcome (SocketAddr × Nat) :=
  if bytes.length < cursor + (width + 2) then .error (.error truncated)
  else do
    let octets ← slice cursor width bytes
    let port ← slice (cursor + width) 2 bytes
    .ok (make octets (ofBeBytes 16 port), cursor + (width + 2))

def readAddr (bytes : Bytes) (cursor : Nat) : Outcome (SocketAddr × Nat) :=
  if bytes.length ≤ cursor then .error (.error "truncated at addr kind")
  else do
    let kind ← index cursor bytes
    match kind.toNat with
    | 4 => readIpAndPort 4 "truncated at IPv4 addr" .v4 bytes (cursor + 1)
    | 6 => readIpAndPort 16 "truncated at IPv6 addr" (.v6 · · 0 0) bytes (cursor + 1)
    | other => .error (.error s!"unknown addr kind: {other}")

/-- Behind its kind, an address with its port is read back. -/
theorem readIpAndPort_append {width : Nat} (before after : Bytes) (kind : UInt8) (ip : Octets width)
    (port : U16) (truncated : String) (make : Octets width → U16 → SocketAddr) :
    let bytes := before ++ (([kind] ++ (ip.toList ++ (beBytes 2 port).toList)) ++ after)
    ¬ bytes.length ≤ before.length ∧ index before.length bytes = .ok kind ∧
      readIpAndPort width truncated make bytes (before.length + 1) =
        .ok (make ip port, before.length + 1 + (width + 2)) := by
  intro bytes
  obtain ⟨size, kindRead, ipRead, portRead⟩ := read_ipAndPort before after kind ip port
  have enough : ¬ bytes.length < before.length + 1 + (width + 2) := by
    rw [size]
    omega
  refine ⟨?_, kindRead, ?_⟩
  · rw [size]
    omega
  · rw [readIpAndPort, if_neg enough, ipRead, Outcome.bind_ok, portRead, Outcome.bind_ok,
      ofBeBytes_beBytes port (by norm_num)]

theorem readAddr_writeAddr (before after : Bytes) (addr : SocketAddr) :
    readAddr (before ++ (writeAddr addr ++ after)) before.length =
      .ok (addr.plain, before.length + (writeAddr addr).length) := by
  cases addr with
  | v4 ip port =>
    obtain ⟨long, kind, read⟩ :=
      readIpAndPort_append before after 4 ip port "truncated at IPv4 addr" .v4
    rw [writeAddr, readAddr, if_neg long, kind, Outcome.bind_ok]
    refine read.trans ?_
    simp [SocketAddr.plain]
  | v6 ip port flowinfo scopeId =>
    obtain ⟨long, kind, read⟩ :=
      readIpAndPort_append before after 6 ip port "truncated at IPv6 addr" (.v6 · · 0 0)
    rw [writeAddr, readAddr, if_neg long, kind, Outcome.bind_ok]
    refine read.trans ?_
    simp [SocketAddr.plain]

theorem readIpAndPort_moves {width : Nat} {truncated : String}
    {make : Octets width → U16 → SocketAddr} {bytes : Bytes} {cursor next : Nat} {addr : SocketAddr}
    (found : readIpAndPort width truncated make bytes cursor = .ok (addr, next)) :
    (∃ octets port, addr = make octets port) ∧ next = cursor + (width + 2) ∧
      next ≤ bytes.length := by
  rw [readIpAndPort] at found
  split at found
  · cases found
  rename_i enough
  obtain ⟨octets, _, found⟩ := Outcome.bind_eq_ok_iff.mp found
  obtain ⟨port, _, found⟩ := Outcome.bind_eq_ok_iff.mp found
  obtain ⟨rfl, rfl⟩ := Prod.mk.inj (Except.ok.inj found)
  exact ⟨⟨_, _, rfl⟩, rfl, not_lt.mp enough⟩

/-- The cursor moves by as many bytes as the address that is read would take. -/
theorem readAddr_moves {bytes : Bytes} {cursor next : Nat} {addr : SocketAddr}
    (found : readAddr bytes cursor = .ok (addr, next)) :
    next = cursor + (writeAddr addr).length ∧ next ≤ bytes.length := by
  rw [readAddr] at found
  split at found
  · cases found
  obtain ⟨kind, _, found⟩ := Outcome.bind_eq_ok_iff.mp found
  split at found
  · obtain ⟨⟨octets, port, rfl⟩, rfl, inside⟩ := readIpAndPort_moves found
    exact ⟨by simp [writeAddr], inside⟩
  · obtain ⟨⟨octets, port, rfl⟩, rfl, inside⟩ := readIpAndPort_moves found
    exact ⟨by simp [writeAddr], inside⟩
  · cases found

theorem not_panics_readIpAndPort (width : Nat) (truncated : String)
    (make : Octets width → U16 → SocketAddr) (bytes : Bytes) (cursor : Nat) :
    ¬ (readIpAndPort width truncated make bytes cursor).Panics := by
  rw [readIpAndPort]
  split
  · exact Outcome.not_panics_error _
  · refine Outcome.not_panics_bind (by rw [slice_panics_iff]; omega) fun _ _ => ?_
    refine Outcome.not_panics_bind (by rw [slice_panics_iff]; omega) fun _ _ => ?_
    exact Outcome.not_panics_ok _

theorem not_panics_readAddr (bytes : Bytes) (cursor : Nat) : ¬ (readAddr bytes cursor).Panics := by
  rw [readAddr]
  split
  · exact Outcome.not_panics_error _
  · rename_i inside
    refine Outcome.not_panics_bind (by rwa [index_panics_iff]) fun _ _ => ?_
    split
    · exact not_panics_readIpAndPort _ _ _ _ _
    · exact not_panics_readIpAndPort _ _ _ _ _
    · exact Outcome.not_panics_error _

/-! ### The two tables -/

variable {crypto : Primitives}

def writePeerKey (addr : SocketAddr) (vk : VerifyingKey crypto) : Bytes :=
  writeAddr addr ++ vk.bytes.toList

def serializePeerKeys (order : IterationOrder (Sigma fun _ : SocketAddr => VerifyingKey crypto))
    (map : HashMap SocketAddr (VerifyingKey crypto)) : Bytes :=
  writeMap writePeerKey order map

/-- One turn of the loop. What the parser of keys says of a key it refuses is left out. -/
def readPeerKey (bytes : Bytes) (cursor : Nat) :
    Outcome ((SocketAddr × VerifyingKey crypto) × Nat) := do
  let (addr, cursor) ← readAddr bytes cursor
  if bytes.length < cursor + 32 then .error (.error "truncated at pubkey")
  else do
    let pkBytes ← slice cursor 32 bytes
    let vk ← okOr "bad verifying key" (VerifyingKey.fromBytes crypto pkBytes)
    .ok ((addr, vk), cursor + 32)

def deserializePeerKeys (bytes : Bytes) : Outcome (HashMap SocketAddr (VerifyingKey crypto)) :=
  readMap "peer keys too short" readPeerKey bytes

def writePkToAddr (pk : Key) (addr : SocketAddr) : Bytes := pk.toList ++ writeAddr addr

def serializePkToAddr (order : IterationOrder (Sigma fun _ : Key => SocketAddr))
    (map : HashMap Key SocketAddr) : Bytes :=
  writeMap writePkToAddr order map

def readPkToAddr (bytes : Bytes) (cursor : Nat) : Outcome ((Key × SocketAddr) × Nat) :=
  if bytes.length < cursor + 32 then .error (.error "truncated at pubkey")
  else do
    let pk ← slice cursor 32 bytes
    let (addr, cursor) ← readAddr bytes (cursor + 32)
    .ok ((pk, addr), cursor)

def deserializePkToAddr (bytes : Bytes) : Outcome (HashMap Key SocketAddr) :=
  readMap "pk_to_addr too short" readPkToAddr bytes

theorem peerKeys_readsBack : ReadsBack (writePeerKey : SocketAddr → VerifyingKey crypto → Bytes)
    readPeerKey fun addr _ => addr.IsPlain where
  ahead {addr vk} plain before after := by
    have taken : slice (before ++ writeAddr addr).length 32 (before ++ writeAddr addr ++
        (vk.bytes.toList ++ after)) = .ok vk.bytes := slice_append rfl
    have long : ¬ (before ++ (writeAddr addr ++ (vk.bytes.toList ++ after))).length <
        before.length + (writeAddr addr).length + 32 := by
      simp
      omega
    rw [List.append_assoc, List.length_append] at taken
    rw [writePeerKey, List.append_assoc, readPeerKey, readAddr_writeAddr, Outcome.bind_ok, plain]
    dsimp only
    rw [if_neg long, taken, Outcome.bind_ok, VerifyingKey.fromBytes_bytes, okOr, Outcome.bind_ok,
      List.length_append, List.Vector.toList_length, Nat.add_assoc]
  moves {bytes position next addr vk} found := by
    obtain ⟨⟨addr, cursor⟩, first, found⟩ := Outcome.bind_eq_ok_iff.mp found
    obtain ⟨moved, _⟩ := readAddr_moves first
    dsimp only at found
    split at found
    · cases found
    rename_i enough
    obtain ⟨pkBytes, _, found⟩ := Outcome.bind_eq_ok_iff.mp found
    obtain ⟨vk, _, found⟩ := Outcome.bind_eq_ok_iff.mp found
    cases found
    rw [writePeerKey, List.length_append, List.Vector.toList_length]
    omega
  positive addr vk := by simp [writePeerKey]
  total bytes position := by
    refine Outcome.not_panics_bind (not_panics_readAddr _ _) fun _ _ => ?_
    dsimp only
    split
    · exact Outcome.not_panics_error _
    · refine Outcome.not_panics_bind (by rw [slice_panics_iff]; omega) fun _ _ => ?_
      exact Outcome.not_panics_bind (not_panics_okOr _ _) fun _ _ => Outcome.not_panics_ok _

theorem pkToAddr_readsBack : ReadsBack writePkToAddr readPkToAddr fun _ addr => addr.IsPlain where
  ahead {pk addr} plain before after := by
    have taken : slice before.length 32 (before ++ (pk.toList ++ (writeAddr addr ++ after))) =
        .ok pk := slice_append rfl
    have long : ¬ (before ++ (pk.toList ++ (writeAddr addr ++ after))).length <
        before.length + 32 := by simp
    have read := readAddr_writeAddr (before ++ pk.toList) after addr
    rw [List.append_assoc, List.length_append, List.Vector.toList_length] at read
    rw [writePkToAddr, List.append_assoc, readPkToAddr, if_neg long, taken, Outcome.bind_ok, read,
      Outcome.bind_ok, plain, List.length_append, List.Vector.toList_length, Nat.add_assoc]
  moves {bytes position next pk addr} found := by
    rw [readPkToAddr] at found
    split at found
    · cases found
    obtain ⟨pk, _, found⟩ := Outcome.bind_eq_ok_iff.mp found
    obtain ⟨⟨addr, cursor⟩, last, found⟩ := Outcome.bind_eq_ok_iff.mp found
    obtain ⟨moved, inside⟩ := readAddr_moves last
    cases found
    rw [writePkToAddr, List.length_append, List.Vector.toList_length]
    exact ⟨by omega, inside⟩
  positive pk addr := by simp [writePkToAddr]
  total bytes position := by
    rw [readPkToAddr]
    split
    · exact Outcome.not_panics_error _
    · refine Outcome.not_panics_bind (by rw [slice_panics_iff]; omega) fun _ _ => ?_
      exact Outcome.not_panics_bind (not_panics_readAddr _ _) fun _ _ => Outcome.not_panics_ok _

/-! ### The size of a table -/

def addrSize : SocketAddr → Nat
  | .v4 _ _ => 7
  | .v6 _ _ _ _ => 19

/-- The bytes that a table takes: the number of entries, and for each a key and an address. -/
def tableSize (addrs : List SocketAddr) : Nat :=
  4 + (addrs.map fun addr => 32 + addrSize addr).sum

theorem length_writeAddr (addr : SocketAddr) : (writeAddr addr).length = addrSize addr := by
  cases addr <;> simp [writeAddr, addrSize]

theorem length_serializePeerKeys
    (order : IterationOrder (Sigma fun _ : SocketAddr => VerifyingKey crypto))
    (map : HashMap SocketAddr (VerifyingKey crypto)) :
    (serializePeerKeys order map).length = tableSize map.keys := by
  rw [serializePeerKeys, length_writeMap, tableSize, AList.keys, List.keys, List.map_map, weight]
  refine congrArg (4 + List.sum ·) (List.map_congr_left fun entry _ => ?_)
  rw [writePeerKey, List.length_append, length_writeAddr, List.Vector.toList_length, Nat.add_comm]
  rfl

theorem length_serializePkToAddr (order : IterationOrder (Sigma fun _ : Key => SocketAddr))
    (map : HashMap Key SocketAddr) :
    (serializePkToAddr order map).length = tableSize (map.entries.map Sigma.snd) := by
  rw [serializePkToAddr, length_writeMap, tableSize, List.map_map, weight]
  refine congrArg (4 + List.sum ·) (List.map_congr_left fun entry _ => ?_)
  rw [writePkToAddr, List.length_append, length_writeAddr, List.Vector.toList_length]
  rfl

end Storage

namespace Runtime

variable {crypto : Primitives} {noise : Noise}

/-! ### The file -/

def savePeerState (keysOrder : IterationOrder (Sigma fun _ : SocketAddr => VerifyingKey crypto))
    (addrsOrder : IterationOrder (Sigma fun _ : Key => SocketAddr)) (runtime : Runtime crypto noise) :
    Bytes :=
  let peerKeysBytes := Storage.serializePeerKeys keysOrder runtime.peerKeys
  let pkToAddrBytes := Storage.serializePkToAddr addrsOrder runtime.pkToAddr
  (beBytes 4 (BitVec.ofNat 32 peerKeysBytes.length)).toList ++ (peerKeysBytes ++
    ((beBytes 4 (BitVec.ofNat 32 pkToAddrBytes.length)).toList ++ pkToAddrBytes))

/-- What `load_peer_state` reads before it writes to the runtime. -/
def readPeerState (data : Bytes) :
    Outcome (HashMap SocketAddr (VerifyingKey crypto) × HashMap Key SocketAddr) :=
  if data.length < 8 then .error (.error "peer state file too short")
  else do
    let lenBytes ← slice 0 4 data
    let peerKeysLen := (ofBeBytes 32 lenBytes).toNat
    let cursor := 4 + peerKeysLen
    if data.length < cursor + 4 then .error (.error "truncated at pk_to_addr header")
    else do
      let peerKeysBytes ← slice 4 peerKeysLen data
      let peerKeys ← Storage.deserializePeerKeys peerKeysBytes.toList
      let lenBytes ← slice cursor 4 data
      let pkToAddrLen := (ofBeBytes 32 lenBytes).toNat
      let start := cursor + 4
      if data.length < start + pkToAddrLen then .error (.error "truncated at pk_to_addr body")
      else do
        let pkToAddrBytes ← slice start pkToAddrLen data
        let pkToAddr ← Storage.deserializePkToAddr pkToAddrBytes.toList
        .ok (peerKeys, pkToAddr)

def loadPeerState (runtime : Runtime crypto noise) (data : Bytes) :
    Outcome Unit × Runtime crypto noise :=
  (readPeerState data).orReturn runtime fun (peerKeys, pkToAddr) =>
    (.ok (), { runtime with peerKeys, pkToAddr })

theorem not_panics_readPeerState (data : Bytes) :
    ¬ (readPeerState data : Outcome (HashMap SocketAddr (VerifyingKey crypto) × _)).Panics := by
  rw [readPeerState]
  split
  · exact Outcome.not_panics_error _
  refine Outcome.not_panics_bind (by rw [slice_panics_iff]; omega) fun _ _ => ?_
  dsimp only
  split
  · exact Outcome.not_panics_error _
  refine Outcome.not_panics_bind (by rw [slice_panics_iff]; omega) fun _ _ => ?_
  refine Outcome.not_panics_bind (not_panics_readMap Storage.peerKeys_readsBack _ _) fun _ _ => ?_
  refine Outcome.not_panics_bind (by rw [slice_panics_iff]; omega) fun _ _ => ?_
  split
  · exact Outcome.not_panics_error _
  refine Outcome.not_panics_bind (by rw [slice_panics_iff]; omega) fun _ _ => ?_
  exact Outcome.not_panics_bind (not_panics_readMap Storage.pkToAddr_readsBack _ _)
    fun _ _ => Outcome.not_panics_ok _

/-- The length that stands in front of a table. -/
theorem toNat_lengthBytes (bytes : Bytes) :
    (ofBeBytes 32 (beBytes 4 (BitVec.ofNat 32 bytes.length))).toNat = bytes.length % 2 ^ 32 := by
  rw [ofBeBytes_beBytes _ (by norm_num), BitVec.toNat_ofNat]

/-- The first table is read from as many bytes as stand in front of it. -/
theorem peerKeys_of_readPeerState {data : Bytes} {lenBytes : Octets 4}
    {peerKeys : HashMap SocketAddr (VerifyingKey crypto)} {pkToAddr : HashMap Key SocketAddr}
    (header : slice 0 4 data = .ok lenBytes) (read : readPeerState data = .ok (peerKeys, pkToAddr)) :
    ∃ bytes : Bytes, bytes.length = (ofBeBytes 32 lenBytes).toNat ∧
      Storage.deserializePeerKeys bytes = .ok peerKeys := by
  rw [readPeerState, header, Outcome.bind_ok] at read
  split at read
  · cases read
  dsimp only at read
  split at read
  · cases read
  obtain ⟨peerKeysBytes, _, read⟩ := Outcome.bind_eq_ok_iff.mp read
  obtain ⟨found, parsed, read⟩ := Outcome.bind_eq_ok_iff.mp read
  obtain ⟨_, _, read⟩ := Outcome.bind_eq_ok_iff.mp read
  split at read
  · cases read
  obtain ⟨_, _, read⟩ := Outcome.bind_eq_ok_iff.mp read
  obtain ⟨_, _, read⟩ := Outcome.bind_eq_ok_iff.mp read
  obtain ⟨rfl, _⟩ := Prod.mk.inj (Except.ok.inj read)
  exact ⟨peerKeysBytes.toList, List.Vector.toList_length _, parsed⟩

/-- Behind a first table of the length that stands in front of it, the second one is read from as
many bytes as stand in front of it. -/
theorem readPeerState_frame {keys addrs : Bytes} (short : keys.length < 2 ^ 32) :
    (readPeerState ((beBytes 4 (BitVec.ofNat 32 keys.length)).toList ++ (keys ++
        ((beBytes 4 (BitVec.ofNat 32 addrs.length)).toList ++ addrs))) :
      Outcome (HashMap SocketAddr (VerifyingKey crypto) × _)) =
        Storage.deserializePeerKeys keys >>= fun peerKeys =>
          (Storage.deserializePkToAddr (addrs.take (addrs.length % 2 ^ 32))) >>= fun pkToAddr =>
            .ok (peerKeys, pkToAddr) := by
  have cut : addrs.length % 2 ^ 32 ≤ addrs.length := Nat.mod_le _ _
  set data := (beBytes 4 (BitVec.ofNat 32 keys.length)).toList ++ (keys ++
    ((beBytes 4 (BitVec.ofNat 32 addrs.length)).toList ++ addrs)) with written
  have size : data.length = 4 + (keys.length + (4 + addrs.length)) := by
    rw [written]
    simp
  have first : slice 0 4 ([] ++ data) = .ok (beBytes 4 (BitVec.ofNat 32 keys.length)) :=
    slice_append rfl
  obtain ⟨keysBytes, second, keysWhole⟩ : ∃ octets : Octets keys.length,
      slice 4 keys.length data = .ok octets ∧ octets.toList = keys :=
    slice_of_append (List.Vector.toList_length _) rfl
  have third : slice (4 + keys.length) 4 data = .ok (beBytes 4 (BitVec.ofNat 32 addrs.length)) := by
    rw [written, ← List.append_assoc]
    exact slice_append (by simp)
  have parts : data = (beBytes 4 (BitVec.ofNat 32 keys.length)).toList ++ keys ++
      (beBytes 4 (BitVec.ofNat 32 addrs.length)).toList ++
        (addrs.take (addrs.length % 2 ^ 32) ++ addrs.drop (addrs.length % 2 ^ 32)) := by
    rw [List.take_append_drop, written]
    simp
  obtain ⟨addrsBytes, fourth, addrsWhole⟩ : ∃ octets : Octets (addrs.length % 2 ^ 32),
      slice (4 + keys.length + 4) (addrs.length % 2 ^ 32) data = .ok octets ∧
        octets.toList = addrs.take (addrs.length % 2 ^ 32) := by
    rw [parts]
    exact slice_of_append (by simp; omega) (List.length_take_of_le cut)
  rw [List.nil_append] at first
  rw [readPeerState, if_neg (by omega), first, Outcome.bind_ok, toNat_lengthBytes,
    Nat.mod_eq_of_lt short, if_neg (by omega), second, Outcome.bind_ok, keysWhole]
  refine congrArg _ (funext fun peerKeys => ?_)
  rw [third, Outcome.bind_ok, toNat_lengthBytes, if_neg (by omega), fourth, Outcome.bind_ok,
    addrsWhole]

/-- The runtime was loaded, and has the tables of another one. -/
structure Restores (loaded : Outcome Unit × Runtime crypto noise)
    (saved : Runtime crypto noise) : Prop where
  succeeded : loaded.1 = .ok ()
  peerKeys (addr : SocketAddr) : loaded.2.peerKeys.lookup addr = saved.peerKeys.lookup addr
  pkToAddr (pk : Key) : loaded.2.pkToAddr.lookup pk = saved.pkToAddr.lookup pk

theorem restores_loadPeerState_iff {saved loading : Runtime crypto noise} {data : Bytes} :
    Restores (loading.loadPeerState data) saved ↔ ∃ peerKeys pkToAddr,
      readPeerState data = .ok (peerKeys, pkToAddr) ∧
        (∀ addr, peerKeys.lookup addr = saved.peerKeys.lookup addr) ∧
          ∀ pk, pkToAddr.lookup pk = saved.pkToAddr.lookup pk := by
  rw [loadPeerState]
  cases read : (readPeerState data : Outcome (HashMap SocketAddr (VerifyingKey crypto) × _)) with
  | error fault =>
    refine iff_of_false (fun restores => ?_) fun ⟨_, _, found, _⟩ => ?_
    · exact absurd restores.succeeded (by simp [Outcome.orReturn])
    · cases found
  | ok tables =>
    obtain ⟨peerKeys, pkToAddr⟩ := tables
    constructor
    · intro restores
      exact ⟨peerKeys, pkToAddr, rfl, restores.peerKeys, restores.pkToAddr⟩
    · rintro ⟨_, _, found, keys, addrs⟩
      cases found
      exact ⟨rfl, keys, addrs⟩

/-- The tables of a runtime that come back were written with fewer than 2^32 bytes each. -/
theorem short_of_restores {saved loading : Runtime crypto noise}
    {keysOrder : IterationOrder (Sigma fun _ : SocketAddr => VerifyingKey crypto)}
    {addrsOrder : IterationOrder (Sigma fun _ : Key => SocketAddr)}
    (restores : Restores (loading.loadPeerState (saved.savePeerState keysOrder addrsOrder)) saved) :
    (Storage.serializePeerKeys keysOrder saved.peerKeys).length < 2 ^ 32 ∧
      (Storage.serializePkToAddr addrsOrder saved.pkToAddr).length < 2 ^ 32 := by
  have within {count bound : Nat} (least : count ≤ bound % 2 ^ 32) (same : count = bound) :
      bound < 2 ^ 32 := by
    rw [same] at least
    exact least.trans_lt (Nat.mod_lt _ (by norm_num))
  obtain ⟨peerKeys, pkToAddr, read, sameKeys, sameAddrs⟩ := restores_loadPeerState_iff.mp restores
  have header : slice 0 4 ([] ++ saved.savePeerState keysOrder addrsOrder) =
      .ok (beBytes 4 (BitVec.ofNat 32 (Storage.serializePeerKeys keysOrder saved.peerKeys).length)) :=
    slice_append rfl
  obtain ⟨bytes, size, parsed⟩ := peerKeys_of_readPeerState header read
  rw [toNat_lengthBytes] at size
  have keys : (Storage.serializePeerKeys keysOrder saved.peerKeys).length < 2 ^ 32 :=
    within (size ▸ length_of_readMap Storage.peerKeys_readsBack parsed keysOrder)
      (length_writeMap_congr _ sameKeys _ _)
  refine ⟨keys, ?_⟩
  rw [savePeerState, readPeerState_frame keys] at read
  obtain ⟨_, _, read⟩ := Outcome.bind_eq_ok_iff.mp read
  obtain ⟨found, parsed, read⟩ := Outcome.bind_eq_ok_iff.mp read
  obtain ⟨_, rfl⟩ := Prod.mk.inj (Except.ok.inj read)
  have least := length_of_readMap Storage.pkToAddr_readsBack parsed addrsOrder
  rw [List.length_take_of_le (Nat.mod_le _ _)] at least
  exact within least (length_writeMap_congr _ sameAddrs _ _)

/-- Tables that are written with fewer than 2^32 bytes each come back. -/
theorem restores_of_short {saved loading : Runtime crypto noise}
    {keysOrder : IterationOrder (Sigma fun _ : SocketAddr => VerifyingKey crypto)}
    {addrsOrder : IterationOrder (Sigma fun _ : Key => SocketAddr)}
    (plainKeys : ∀ addr vk, saved.peerKeys.lookup addr = some vk → addr.IsPlain)
    (plainAddrs : ∀ pk addr, saved.pkToAddr.lookup pk = some addr → addr.IsPlain)
    (shortKeys : (Storage.serializePeerKeys keysOrder saved.peerKeys).length < 2 ^ 32)
    (shortAddrs : (Storage.serializePkToAddr addrsOrder saved.pkToAddr).length < 2 ^ 32) :
    Restores (loading.loadPeerState (saved.savePeerState keysOrder addrsOrder)) saved := by
  have fewKeys : saved.peerKeys.size < 2 ^ 32 :=
    (size_le_length_writeMap Storage.peerKeys_readsBack _ _).trans_lt shortKeys
  have fewAddrs : saved.pkToAddr.size < 2 ^ 32 :=
    (size_le_length_writeMap Storage.pkToAddr_readsBack _ _).trans_lt shortAddrs
  obtain ⟨peerKeys, readKeys, sameKeys⟩ := readMap_writeMap Storage.peerKeys_readsBack
    "peer keys too short" keysOrder plainKeys fewKeys
  obtain ⟨pkToAddr, readAddrs, sameAddrs⟩ := readMap_writeMap Storage.pkToAddr_readsBack
    "pk_to_addr too short" addrsOrder plainAddrs fewAddrs
  refine restores_loadPeerState_iff.mpr ⟨peerKeys, pkToAddr, ?_, sameKeys, sameAddrs⟩
  rw [savePeerState, readPeerState_frame shortKeys, Nat.mod_eq_of_lt shortAddrs, List.take_length]
  exact Outcome.bind_eq_ok_iff.mpr ⟨peerKeys, readKeys,
    Outcome.bind_eq_ok_iff.mpr ⟨pkToAddr, readAddrs, rfl⟩⟩

/-- What a runtime saves comes back exactly if both tables take fewer than 2^32 bytes. Whatever the
file is, the runtime is loaded from it, or is left as it was with an error. -/
theorem peer_state_restored_iff (saved loading : Runtime crypto noise)
    (keysOrder : IterationOrder (Sigma fun _ : SocketAddr => VerifyingKey crypto))
    (addrsOrder : IterationOrder (Sigma fun _ : Key => SocketAddr))
    (plainKeys : ∀ addr vk, saved.peerKeys.lookup addr = some vk → addr.IsPlain)
    (plainAddrs : ∀ pk addr, saved.pkToAddr.lookup pk = some addr → addr.IsPlain) :
    (Restores (loading.loadPeerState (saved.savePeerState keysOrder addrsOrder)) saved ↔
      Storage.tableSize saved.peerKeys.keys < 2 ^ 32 ∧
        Storage.tableSize (saved.pkToAddr.entries.map Sigma.snd) < 2 ^ 32) ∧
      ∀ data, (loading.loadPeerState data).1 = .ok () ∨
        ∃ message, loading.loadPeerState data = (.error (.error message), loading) := by
  rw [← Storage.length_serializePeerKeys keysOrder, ← Storage.length_serializePkToAddr addrsOrder]
  refine ⟨⟨short_of_restores, fun ⟨shortKeys, shortAddrs⟩ =>
    restores_of_short plainKeys plainAddrs shortKeys shortAddrs⟩, fun data => ?_⟩
  rw [loadPeerState]
  cases read : (readPeerState data : Outcome (HashMap SocketAddr (VerifyingKey crypto) × _)) with
  | ok tables => exact Or.inl rfl
  | error fault =>
    cases fault with
    | error message => exact Or.inr ⟨message, rfl⟩
    | panic site => exact absurd ⟨site, read⟩ (not_panics_readPeerState data)

/-! ### A table that is too long -/

/-- As many peers as are asked for, with the same key at addresses that count up. -/
def manyPeers (count : Nat) (fits : count ≤ 256 ^ 16) :
    HashMap SocketAddr (VerifyingKey sampleSuite) where
  entries := (List.range count).map fun number =>
    ⟨.v6 (SampleSuite.octets 16 number) 443 0 0,
      SampleSuite.verifyingKey (SampleSuite.octets 32 1)⟩
  nodupKeys := by
    rw [List.NodupKeys, List.keys, List.map_map]
    refine List.Nodup.map_on (fun first member second other same => ?_) List.nodup_range
    rw [List.mem_range] at member other
    have ips : SampleSuite.octets 16 first = SampleSuite.octets 16 second := by
      injection same
    have numbers := congrArg (fun ip : Octets 16 => fromBeBytes ip.toList) ips
    simp only [SampleSuite.octets, List.Vector.toList, fromBeBytes_toBeBytes] at numbers
    rwa [Nat.mod_eq_of_lt (member.trans_le fits), Nat.mod_eq_of_lt (other.trans_le fits)] at numbers

/-- A runtime that has pinned the keys of so many peers. -/
def crowded (count : Nat) (fits : count ≤ 256 ^ 16) : Runtime sampleSuite SampleSuite.noise :=
  bind (.v4 (Octets.zero 4) 443) (Octets.zero 32) (manyPeers count fits)

theorem crowded_plain {count : Nat} (fits : count ≤ 256 ^ 16) (addr : SocketAddr)
    (vk : VerifyingKey sampleSuite)
    (pinned : (crowded count fits).peerKeys.lookup addr = some vk) : addr.IsPlain := by
  obtain ⟨number, _, same⟩ := List.mem_map.mp (HashMap.lookup_eq_some_iff.mp pinned)
  cases same
  rfl

theorem crowded_not_restored {count : Nat} (fits : count ≤ 256 ^ 16) (many : 2 ^ 32 ≤ 39 * count) :
    ∃ saved : Runtime sampleSuite SampleSuite.noise, saved.peerKeys.size = count ∧
      (∀ addr vk, saved.peerKeys.lookup addr = some vk → addr.IsPlain) ∧ saved.pkToAddr = ∅ ∧
        ∀ keysOrder addrsOrder (loading : Runtime sampleSuite SampleSuite.noise),
          ¬ Restores (loading.loadPeerState (saved.savePeerState keysOrder addrsOrder)) saved := by
  have size : (crowded count fits).peerKeys.size = count :=
    (List.length_map _).trans List.length_range
  refine ⟨crowded count fits, size, crowded_plain fits, rfl,
    fun keysOrder addrsOrder loading restores => ?_⟩
  have short := (short_of_restores restores).1
  have least : 39 * (crowded count fits).peerKeys.entries.length ≤
      weight Storage.writePeerKey (crowded count fits).peerKeys.entries :=
    length_le_weight (fun addr vk => by cases addr <;> simp [Storage.writePeerKey,
      Storage.writeAddr]) _
  rw [Storage.serializePeerKeys, length_writeMap] at short
  rw [HashMap.size] at size
  omega

/-- Of 2^27 pinned keys, the table takes more than 2^32 bytes, and is not restored. -/
theorem long_table_lost : ∃ saved : Runtime sampleSuite SampleSuite.noise,
    saved.peerKeys.size = 2 ^ 27 ∧
      (∀ addr vk, saved.peerKeys.lookup addr = some vk → addr.IsPlain) ∧ saved.pkToAddr = ∅ ∧
        ∀ keysOrder addrsOrder (loading : Runtime sampleSuite SampleSuite.noise),
          ¬ Restores (loading.loadPeerState (saved.savePeerState keysOrder addrsOrder)) saved :=
  crowded_not_restored (by norm_num) (by norm_num)

/-! ### Tables that come back -/

/-- The addresses of a peer behind IPv4 and of one behind IPv6. -/
def sampleV4 : SocketAddr := .v4 (SampleSuite.octets 4 1) 443
def sampleV6 : SocketAddr := .v6 (SampleSuite.octets 16 2) 8443 0 0

/-- A runtime that has pinned the keys of both peers and of one more, and has users at both. -/
def sampleKnown : Runtime sampleSuite SampleSuite.noise :=
  { crowded 0 (by norm_num) with
    peerKeys := (((crowded 1 (by norm_num)).peerKeys.insert sampleV4
      (SampleSuite.verifyingKey (SampleSuite.octets 32 2))).insert sampleV6
        (SampleSuite.verifyingKey (SampleSuite.octets 32 3)))
    pkToAddr := ((∅ : HashMap Key SocketAddr).insert (SampleSuite.octets 32 8) sampleV6).insert
      (SampleSuite.octets 32 9) sampleV4 }

theorem sampleKnown_plainKeys (addr : SocketAddr) (vk : VerifyingKey sampleSuite)
    (pinned : sampleKnown.peerKeys.lookup addr = some vk) : addr.IsPlain :=
  (show ∀ entry ∈ sampleKnown.peerKeys.entries, entry.1.IsPlain by decide +kernel) _
    (HashMap.lookup_eq_some_iff.mp pinned)

theorem sampleKnown_plainAddrs (pk : Key) (addr : SocketAddr)
    (known : sampleKnown.pkToAddr.lookup pk = some addr) : addr.IsPlain :=
  (show ∀ entry ∈ sampleKnown.pkToAddr.entries, entry.2.IsPlain by decide +kernel) _
    (HashMap.lookup_eq_some_iff.mp known)

/-- Three pinned keys and two users come back, written in one order or the other. -/
theorem known_peers_restored : sampleKnown.peerKeys.size = 3 ∧ sampleKnown.pkToAddr.size = 2 ∧
    Restores ((crowded 0 (by norm_num)).loadPeerState (sampleKnown.savePeerState default
      ⟨List.reverse, List.reverse_perm⟩)) sampleKnown :=
  ⟨by decide +kernel, by decide +kernel,
    (peer_state_restored_iff sampleKnown (crowded 0 (by norm_num)) default
      ⟨List.reverse, List.reverse_perm⟩ sampleKnown_plainKeys sampleKnown_plainAddrs).1.mpr
        ⟨by decide +kernel, by decide +kernel⟩⟩

end Runtime

end Insub
