/-
This file models how `network/registry.rs` writes a registry to bytes and reads it back. An entry
has one of two sizes, by the kind of its address, and stands behind its length. The entries stand
behind their number, which the parser holds against the bytes that are left before it reads any.
-/

import Mathlib
import Insub.Library.Items
import Insub.Network.Registry
import Insub.Crypto.SampleSuite

namespace Insub

open Rust

/-! ### Entries -/

namespace RelayEntry

/-- The kind, the address and the port. -/
def addressBytes : SocketAddr → Bytes
  | .v4 ip port => [4] ++ (ip.toList ++ (beBytes 2 port).toList)
  | .v6 ip port _ _ => [6] ++ (ip.toList ++ (beBytes 2 port).toList)

def serialize (entry : RelayEntry) : Bytes :=
  (beBytes 16 entry.id).toList ++ (entry.pubkey.toList ++ addressBytes entry.address)

theorem v4_inside : 0 + 4 ≤ 6 := by decide

theorem v4Port_inside : 4 + 2 ≤ 6 := by decide

theorem v6_inside : 0 + 16 ≤ 18 := by decide

theorem v6Port_inside : 16 + 2 ≤ 18 := by decide

/-- What follows the marker of an address. -/
def readAddress (marker : UInt8) (bytes : Bytes) : Outcome SocketAddr :=
  match marker.toNat with
  | 4 => do
    let (addrBytes, _) ← takeBytes 6 bytes
    .ok (.v4 (addrBytes.window 0 4 v4_inside) (ofBeBytes 16 (addrBytes.window 4 2 v4Port_inside)))
  | 6 => do
    let (addrBytes, _) ← takeBytes 18 bytes
    .ok (.v6 (addrBytes.window 0 16 v6_inside)
      (ofBeBytes 16 (addrBytes.window 16 2 v6Port_inside)) 0 0)
  | _ => .error (.error "Invalid address marker")

def fromSerialized (crypto : Primitives) (bytes : Bytes) : Outcome RelayEntry := do
  let (idBytes, bytes) ← takeBytes 16 bytes
  let id := ofBeBytes 128 idBytes
  let (pubkey, bytes) ← takeBytes 32 bytes
  if id ≠ deriveId crypto pubkey then
    .error (.error "Invalid relay ID (does not match the public key)")
  else
    match bytes with
    | [] => .error (.error "truncated relay entry: missing address marker")
    | addressMarker :: bytes => do
      let address ← readAddress addressMarker bytes
      .ok { id, pubkey, address }

theorem length_serialize (entry : RelayEntry) :
    55 ≤ entry.serialize.length ∧ entry.serialize.length ≤ 67 := by
  obtain ⟨id, pubkey, address⟩ := entry
  cases address <;> simp [serialize, addressBytes]

/-- An address and a port, as the windows of the bytes that are taken. -/
theorem takeBytes_ipAndPort {width : Nat} (ip : Octets width) (port : U16) :
    takeBytes (width + 2) (ip.toList ++ (beBytes 2 port).toList) =
      .ok (ip ++ beBytes 2 port, []) := by
  have read := takeBytes_append (ip ++ beBytes 2 port) []
  rwa [List.append_nil, List.Vector.toList_append] at read

theorem readAddress_v4 (ip : Octets 4) (port : U16) :
    readAddress 4 (ip.toList ++ (beBytes 2 port).toList) = .ok (.v4 ip port) := by
  rw [readAddress, show (4 : UInt8).toNat = 4 from rfl]
  dsimp only
  rw [takeBytes_ipAndPort, Outcome.bind_ok]
  dsimp only
  rw [Octets.window_append_left, Octets.window_append_right, ofBeBytes_beBytes port (by norm_num)]
  rfl

theorem readAddress_v6 (ip : Octets 16) (port : U16) :
    readAddress 6 (ip.toList ++ (beBytes 2 port).toList) = .ok (.v6 ip port 0 0) := by
  rw [readAddress, show (6 : UInt8).toNat = 6 from rfl]
  dsimp only
  rw [takeBytes_ipAndPort, Outcome.bind_ok]
  dsimp only
  rw [Octets.window_append_left, Octets.window_append_right, ofBeBytes_beBytes port (by norm_num)]
  rfl

/-- The entry as it is read back: flow info and scope id are not written. -/
def plain (entry : RelayEntry) : RelayEntry := { entry with address := entry.address.plain }

/-- An entry whose id is derived from its key is read back. -/
theorem fromSerialized_serialize {crypto : Primitives} {entry : RelayEntry}
    (derived : entry.id = deriveId crypto entry.pubkey) :
    fromSerialized crypto entry.serialize = .ok entry.plain := by
  obtain ⟨id, pubkey, address⟩ := entry
  rw [serialize, fromSerialized, takeBytes_append, Outcome.bind_ok]
  dsimp only
  rw [takeBytes_append, Outcome.bind_ok]
  dsimp only
  rw [ofBeBytes_beBytes id (by norm_num), if_neg (not_not.mpr derived)]
  cases address with
  | v4 ip port =>
    rw [addressBytes, List.singleton_append]
    dsimp only
    rw [readAddress_v4, Outcome.bind_ok]
    rfl
  | v6 ip port flowinfo scopeId =>
    rw [addressBytes, List.singleton_append]
    dsimp only
    rw [readAddress_v6, Outcome.bind_ok]
    rfl

/-- An entry that is read has the id of its key. -/
theorem derived_of_fromSerialized {crypto : Primitives} {bytes : Bytes} {entry : RelayEntry}
    (read : fromSerialized crypto bytes = .ok entry) :
    entry.id = deriveId crypto entry.pubkey := by
  obtain ⟨⟨idBytes, rest⟩, _, read⟩ := Outcome.bind_eq_ok_iff.mp read
  obtain ⟨⟨pubkey, rest⟩, _, read⟩ := Outcome.bind_eq_ok_iff.mp read
  dsimp only at read
  split at read
  · cases read
  rename_i derived
  split at read
  · cases read
  obtain ⟨address, _, read⟩ := Outcome.bind_eq_ok_iff.mp read
  rw [← Except.ok.inj read]
  exact not_not.mp derived

theorem not_panics_fromSerialized (crypto : Primitives) (bytes : Bytes) :
    ¬ (fromSerialized crypto bytes).Panics := by
  refine Outcome.not_panics_bind (not_panics_takeBytes _ _) fun _ _ => ?_
  refine Outcome.not_panics_bind (not_panics_takeBytes _ _) fun _ _ => ?_
  dsimp only
  split
  · exact Outcome.not_panics_error _
  split
  · exact Outcome.not_panics_error _
  refine Outcome.not_panics_bind ?_ fun _ _ => Outcome.not_panics_ok _
  rw [readAddress]
  split
  · exact Outcome.not_panics_bind (not_panics_takeBytes _ _) fun _ _ => Outcome.not_panics_ok _
  · exact Outcome.not_panics_bind (not_panics_takeBytes _ _) fun _ _ => Outcome.not_panics_ok _
  · exact Outcome.not_panics_error _

/-- The entry came out of `RelayEntry::new`. -/
def Built (crypto : Primitives) (entry : RelayEntry) : Prop :=
  ∃ id pubkey address, new crypto id pubkey address = .ok entry

theorem Built.derived {crypto : Primitives} {entry : RelayEntry} (built : entry.Built crypto) :
    entry.id = deriveId crypto entry.pubkey := by
  obtain ⟨id, pubkey, address, made⟩ := built
  rw [new] at made
  split at made
  · cases made
  · rename_i derived
    rw [← Except.ok.inj made]
    exact not_not.mp derived

/-- What stands in a registry for an entry: its length and its bytes. -/
def written (entry : RelayEntry) : Bytes :=
  (beBytes 4 (BitVec.ofNat 32 entry.serialize.length)).toList ++ entry.serialize

theorem length_written (entry : RelayEntry) : 59 ≤ entry.written.length := by
  have size := entry.length_serialize.1
  rw [written, List.length_append, List.Vector.toList_length]
  omega

theorem ofBeBytes_length (entry : RelayEntry) :
    (ofBeBytes 32 (beBytes 4 (BitVec.ofNat 32 entry.serialize.length))).toNat =
      entry.serialize.length := by
  have size := entry.length_serialize.2
  rw [ofBeBytes_beBytes _ (by norm_num), BitVec.toNat_ofNat]
  exact Nat.mod_eq_of_lt (by omega)

end RelayEntry

/-! ### Registries -/

namespace RelayRegistry

def serialize (relays : RelayRegistry) : Bytes :=
  (beBytes 4 (BitVec.ofNat 32 relays.registry.length)).toList ++
    relays.registry.flatMap RelayEntry.written

/-- One turn of the loop of the parser. -/
def readEntry (crypto : Primitives) (bytes : Bytes) : Outcome (RelayEntry × Bytes) := do
  let (entryLenBytes, bytes) ← takeBytes 4 bytes
  let entryLen := (ofBeBytes 32 entryLenBytes).toNat
  if bytes.length < entryLen then
    .error (.error "truncated entry bytes")
  else do
    let (entryBytes, bytes) ← drain entryLen bytes
    let entry ← RelayEntry.fromSerialized crypto entryBytes.toList
    .ok (entry, bytes)

def fromSerialized (crypto : Primitives) (bytes : Bytes) : Outcome RelayRegistry := do
  let (countBytes, bytes) ← takeBytes 4 bytes
  let count := (ofBeBytes 32 countBytes).toNat
  let maxEntries := bytes.length / 55
  if count > maxEntries then
    .error (.error "entry count exceeds remaining bytes")
  else do
    let (registry, _) ←
      readItems (readEntry crypto) (fun registry entry => registry ++ [entry]) count bytes []
    .ok ⟨registry⟩

/-- The registry as it is read back. -/
def plain (relays : RelayRegistry) : RelayRegistry := ⟨relays.registry.map RelayEntry.plain⟩

theorem plain_of_isPlain {relays : RelayRegistry}
    (plain : ∀ entry ∈ relays.registry, entry.address.IsPlain) : relays.plain = relays := by
  unfold RelayRegistry.plain
  rw [List.map_congr_left (g := id) fun entry member => ?_, List.map_id]
  unfold RelayEntry.plain
  rw [plain entry member]
  rfl

theorem length_flatMap_written (entries : List RelayEntry) :
    59 * entries.length ≤ (entries.flatMap RelayEntry.written).length := by
  induction entries with
  | nil => exact le_rfl
  | cons entry rest inductionHypothesis =>
    have here := entry.length_written
    rw [List.flatMap_cons, List.length_append, List.length_cons]
    omega

theorem readEntry_written {crypto : Primitives} {entry : RelayEntry}
    (built : entry.Built crypto) (rest : Bytes) :
    readEntry crypto (entry.written ++ rest) = .ok (entry.plain, rest) := by
  obtain ⟨octets, whole⟩ : ∃ octets : Octets entry.serialize.length,
      octets.toList = entry.serialize := ⟨⟨entry.serialize, rfl⟩, rfl⟩
  have enough : ¬ (entry.serialize ++ rest).length < entry.serialize.length := by
    rw [List.length_append]
    omega
  have taken : drain entry.serialize.length (entry.serialize ++ rest) = .ok (octets, rest) :=
    drain_eq_ok_iff.mpr (by rw [whole])
  rw [RelayEntry.written, List.append_assoc, readEntry, takeBytes_append, Outcome.bind_ok]
  dsimp only
  rw [RelayEntry.ofBeBytes_length, if_neg enough, taken, Outcome.bind_ok]
  dsimp only
  rw [whole, RelayEntry.fromSerialized_serialize built.derived, Outcome.bind_ok]

theorem readEntry_derived {crypto : Primitives} {bytes rest : Bytes} {entry : RelayEntry}
    (read : readEntry crypto bytes = .ok (entry, rest)) :
    entry.id = deriveId crypto entry.pubkey := by
  obtain ⟨⟨entryLenBytes, bytes⟩, _, read⟩ := Outcome.bind_eq_ok_iff.mp read
  dsimp only at read
  split at read
  · cases read
  obtain ⟨⟨entryBytes, bytes⟩, _, read⟩ := Outcome.bind_eq_ok_iff.mp read
  obtain ⟨found, parsed, read⟩ := Outcome.bind_eq_ok_iff.mp read
  rw [← (Prod.mk.inj (Except.ok.inj read)).1]
  exact RelayEntry.derived_of_fromSerialized parsed

theorem not_panics_readEntry (crypto : Primitives) (bytes : Bytes) :
    ¬ (readEntry crypto bytes).Panics := by
  refine Outcome.not_panics_bind (not_panics_takeBytes _ _) fun taken _ => ?_
  dsimp only
  split
  · exact Outcome.not_panics_error _
  rename_i enough
  refine Outcome.not_panics_bind (by rwa [drain_panics_iff]) fun _ _ => ?_
  exact Outcome.not_panics_bind (RelayEntry.not_panics_fromSerialized _ _)
    fun _ _ => Outcome.not_panics_ok _

/-- An entry that is cut off is not read. -/
theorem readEntry_cut {crypto : Primitives} {entry : RelayEntry} {bytes : Bytes}
    (ahead : bytes <+: entry.written) (cut : bytes.length < entry.written.length) :
    (readEntry crypto bytes).IsError := by
  rw [RelayEntry.written] at ahead cut
  rcases prefix_append_cases ahead with short | ⟨next, rfl, inside⟩
  · rw [List.Vector.toList_length] at short
    rw [readEntry, takeBytes_short short]
    exact Outcome.isError_error _
  · rw [List.length_append, List.length_append, Nat.add_lt_add_iff_left] at cut
    rw [readEntry, takeBytes_append, Outcome.bind_ok]
    dsimp only
    rw [RelayEntry.ofBeBytes_length, if_pos cut]
    exact Outcome.isError_error _

/-- The entries that are still to be read, when the bytes are those of the writer. -/
def Ahead (crypto : Primitives) (items : List RelayEntry) (bytes : Bytes) : Prop :=
  ∃ (entries : List RelayEntry) (behind : Bytes), items = entries.map RelayEntry.plain ∧
    bytes = entries.flatMap RelayEntry.written ++ behind ∧ ∀ entry ∈ entries, entry.Built crypto

theorem readEntry_of_ahead {crypto : Primitives} (item : RelayEntry) (rest : List RelayEntry)
    (bytes : Bytes) (ahead : Ahead crypto (item :: rest) bytes) :
    ∃ next, readEntry crypto bytes = .ok (item, next) ∧ Ahead crypto rest next := by
  obtain ⟨entries, behind, items, rfl, built⟩ := ahead
  obtain ⟨entry, others, rfl, rfl, rfl⟩ := List.map_eq_cons_iff.mp items.symm
  rw [List.flatMap_cons, List.append_assoc, readEntry_written (built entry List.mem_cons_self)]
  exact ⟨_, rfl, others, behind, rfl, rfl,
    fun other member => built other (List.mem_cons_of_mem _ member)⟩

/-- The parser of what the writer has written hands the same entries back, in their order: as many
as the four bytes for their number say. -/
theorem fromSerialized_serialize_take {crypto : Primitives} {relays : RelayRegistry}
    (built : ∀ entry ∈ relays.registry, entry.Built crypto) :
    fromSerialized crypto relays.serialize =
      .ok ⟨(relays.registry.take (relays.registry.length % 2 ^ 32)).map RelayEntry.plain⟩ := by
  set count := relays.registry.length % 2 ^ 32 with counted
  have fewer : count ≤ relays.registry.length := Nat.mod_le _ _
  have within : ¬ count > (relays.registry.flatMap RelayEntry.written).length / 55 := by
    have size := length_flatMap_written relays.registry
    omega
  have ahead : Ahead crypto ((relays.registry.take count).map RelayEntry.plain)
      (relays.registry.flatMap RelayEntry.written) := by
    refine ⟨relays.registry.take count, (relays.registry.drop count).flatMap RelayEntry.written,
      rfl, ?_, fun entry member => built entry (List.mem_of_mem_take member)⟩
    rw [← List.flatMap_append, List.take_append_drop]
  obtain ⟨last, read, _⟩ : ∃ last, readItems (readEntry crypto)
      (fun registry entry => registry ++ [entry])
        ((relays.registry.take count).map RelayEntry.plain).length
          (relays.registry.flatMap RelayEntry.written) [] = .ok (_, last) ∧ Ahead crypto [] last :=
    readItems_ahead readEntry_of_ahead ahead []
  rw [List.length_map, List.length_take_of_le fewer] at read
  rw [serialize, fromSerialized, takeBytes_append, Outcome.bind_ok]
  dsimp only
  rw [ofBeBytes_beBytes _ (by norm_num), BitVec.toNat_ofNat, ← counted, if_neg within, read,
    Outcome.bind_ok, foldl_push]
  rfl

theorem fromSerialized_serialize {crypto : Primitives} {relays : RelayRegistry}
    (built : ∀ entry ∈ relays.registry, entry.Built crypto)
    (few : relays.registry.length < 2 ^ 32) :
    fromSerialized crypto relays.serialize = .ok relays.plain := by
  rw [fromSerialized_serialize_take built, Nat.mod_eq_of_lt few, List.take_length]
  rfl

/-- The entries that are still to be read, when the last bytes of the writer are missing. -/
def CutOff (crypto : Primitives) (items : List RelayEntry) (bytes : Bytes) : Prop :=
  ∃ entries : List RelayEntry, items = entries.map RelayEntry.plain ∧
    bytes <+: entries.flatMap RelayEntry.written ∧
      bytes.length < (entries.flatMap RelayEntry.written).length ∧
        ∀ entry ∈ entries, entry.Built crypto

theorem readEntry_of_cutOff {crypto : Primitives} (item : RelayEntry) (rest : List RelayEntry)
    (bytes : Bytes) (cut : CutOff crypto (item :: rest) bytes) :
    (readEntry crypto bytes).IsError ∨
      ∃ next, readEntry crypto bytes = .ok (item, next) ∧ CutOff crypto rest next := by
  obtain ⟨entries, items, ahead, missing, built⟩ := cut
  obtain ⟨entry, others, rfl, rfl, rfl⟩ := List.map_eq_cons_iff.mp items.symm
  rw [List.flatMap_cons] at ahead missing
  rcases prefix_append_cases ahead with short | ⟨next, rfl, inside⟩
  · exact Or.inl (readEntry_cut
      (List.prefix_of_prefix_length_le ahead (List.prefix_append _ _) short.le) short)
  · rw [List.length_append, List.length_append, Nat.add_lt_add_iff_left] at missing
    rw [readEntry_written (built entry List.mem_cons_self)]
    exact Or.inr ⟨next, rfl, others, rfl, inside, missing,
      fun other member => built other (List.mem_cons_of_mem _ member)⟩

theorem not_cutOff_nil {crypto : Primitives} (bytes : Bytes) : ¬ CutOff crypto [] bytes := by
  rintro ⟨entries, items, _, missing, _⟩
  rw [List.map_eq_nil_iff.mp items.symm] at missing
  exact absurd missing (Nat.not_lt_zero _)

/-- A registry that is cut off is rejected: at its number of entries, or at an entry. -/
theorem fromSerialized_cut {crypto : Primitives} {relays : RelayRegistry} {bytes : Bytes}
    (built : ∀ entry ∈ relays.registry, entry.Built crypto)
    (few : relays.registry.length < 2 ^ 32) (ahead : bytes <+: relays.serialize)
    (cut : bytes ≠ relays.serialize) : (fromSerialized crypto bytes).IsError := by
  have missing : bytes.length < relays.serialize.length :=
    lt_of_le_of_ne ahead.length_le fun same => cut (ahead.eq_of_length same)
  rw [serialize] at ahead missing
  rcases prefix_append_cases ahead with short | ⟨next, rfl, inside⟩
  · rw [List.Vector.toList_length] at short
    rw [fromSerialized, takeBytes_short short]
    exact Outcome.isError_error _
  · rw [List.length_append, List.length_append, Nat.add_lt_add_iff_left] at missing
    have left : CutOff crypto (relays.registry.map RelayEntry.plain) next :=
      ⟨relays.registry, rfl, inside, missing, built⟩
    rw [fromSerialized, takeBytes_append, Outcome.bind_ok]
    dsimp only
    rw [ofBeBytes_beBytes _ (by norm_num), BitVec.toNat_ofNat, Nat.mod_eq_of_lt few]
    split
    · exact Outcome.isError_error _
    · obtain ⟨message, failed⟩ : (readItems (readEntry crypto)
          (fun registry entry => registry ++ [entry]) _ next []).IsError :=
        readItems_cut readEntry_of_cutOff not_cutOff_nil left []
      rw [List.length_map] at failed
      exact ⟨message, by rw [failed]; rfl⟩

/-- Every entry of a registry that is read has the id of its key. -/
theorem derived_of_fromSerialized {crypto : Primitives} {bytes : Bytes} {relays : RelayRegistry}
    (read : fromSerialized crypto bytes = .ok relays) :
    ∀ entry ∈ relays.registry, entry.id = deriveId crypto entry.pubkey := by
  obtain ⟨⟨countBytes, bytes⟩, _, read⟩ := Outcome.bind_eq_ok_iff.mp read
  dsimp only at read
  split at read
  · cases read
  obtain ⟨⟨registry, last⟩, run, read⟩ := Outcome.bind_eq_ok_iff.mp read
  rw [← Except.ok.inj read]
  refine readItems_preserves (fun _ registry => ∀ entry ∈ registry, entry.id =
    deriveId crypto entry.pubkey) (fun bytes registry entry next derived here => ?_)
      (List.forall_mem_nil _) run
  exact List.forall_mem_append.mpr
    ⟨derived, List.forall_mem_singleton.mpr (readEntry_derived here)⟩

theorem not_panics_fromSerialized (crypto : Primitives) (bytes : Bytes) :
    ¬ (fromSerialized crypto bytes).Panics := by
  refine Outcome.not_panics_bind (not_panics_takeBytes _ _) fun _ _ => ?_
  dsimp only
  split
  · exact Outcome.not_panics_error _
  · exact Outcome.not_panics_bind
      (not_panics_readItems (not_panics_readEntry crypto) _ _ _) fun _ _ => Outcome.not_panics_ok _

/-- The entries of a registry that the parser accepts are those that were written, each has the id
of its key, and nothing that is cut off is accepted. -/
theorem codec (crypto : Primitives) :
    (∀ relays : RelayRegistry, (∀ entry ∈ relays.registry, entry.Built crypto) →
      relays.registry.length < 2 ^ 32 →
        fromSerialized crypto relays.serialize = .ok relays.plain ∧
          ((∀ entry ∈ relays.registry, entry.address.IsPlain) →
            fromSerialized crypto relays.serialize = .ok relays) ∧
          ∀ bytes, bytes <+: relays.serialize → bytes ≠ relays.serialize →
            (fromSerialized crypto bytes).IsError) ∧
      ∀ bytes, ¬ (fromSerialized crypto bytes).Panics ∧
        ∀ relays, fromSerialized crypto bytes = .ok relays →
          ∀ entry ∈ relays.registry, entry.id = deriveId crypto entry.pubkey := by
  refine ⟨fun relays built few => ⟨fromSerialized_serialize built few, fun plain => ?_,
    fun bytes ahead cut => fromSerialized_cut built few ahead cut⟩,
    fun bytes => ⟨not_panics_fromSerialized crypto bytes, fun relays =>
      derived_of_fromSerialized⟩⟩
  rw [fromSerialized_serialize built few, plain_of_isPlain plain]

/-- A registry with one entry, at an IPv6 address that has a flow info and no scope id. -/
def flowing : RelayRegistry :=
  ⟨[⟨deriveId sampleSuite (SampleSuite.octets 32 1), SampleSuite.octets 32 1,
    .v6 (Octets.zero 16) 443 1 0⟩]⟩

/-- The flow info of an entry is lost. -/
theorem flow_info_lost :
    (∀ entry ∈ flowing.registry, entry.Built sampleSuite) ∧
      fromSerialized sampleSuite flowing.serialize ≠ .ok flowing := by
  have built : ∀ entry ∈ flowing.registry, entry.Built sampleSuite :=
    List.forall_mem_singleton.mpr ⟨_, _, _, RelayEntry.new_derived sampleSuite _ _⟩
  refine ⟨built, fun same => ?_⟩
  rw [fromSerialized_serialize built (by decide)] at same
  injection same with same
  injection same with same
  injection same with same
  injection same with id pubkey address
  exact absurd address (by decide)

/-- Two entries, of both kinds of addresses. -/
def twoEntries : RelayRegistry :=
  ⟨[⟨deriveId sampleSuite (SampleSuite.octets 32 1), SampleSuite.octets 32 1,
      .v6 (Octets.zero 16) 443 0 0⟩,
    ⟨deriveId sampleSuite (SampleSuite.octets 32 2), SampleSuite.octets 32 2,
      .v4 (Octets.zero 4) 80⟩]⟩

theorem twoEntries_read :
    fromSerialized sampleSuite twoEntries.serialize = .ok twoEntries :=
  ((codec sampleSuite).1 twoEntries (List.forall_mem_cons.mpr
    ⟨⟨_, _, _, RelayEntry.new_derived sampleSuite _ _⟩, List.forall_mem_singleton.mpr
      ⟨_, _, _, RelayEntry.new_derived sampleSuite _ _⟩⟩) (by decide)).2.1
        (List.forall_mem_cons.mpr ⟨by decide, List.forall_mem_singleton.mpr (by decide)⟩)

end RelayRegistry

end Insub
