/-
This file reads what is left in the directory of a client when a write broke off: the front of a
file in place of the file. A registry is refused then, and so is the key of the user; a list loses
its last devices; and a certificate ends the program. What a save that came through has written is
read whole.
-/

import Mathlib
import Insub.Client.Directory
import Insub.Identity.Lifecycle

namespace Insub

open Rust

variable {crypto : Primitives} {noise : Noise}

/-! ### Files that are cut off -/

/-- The front of a certificate is not refused: it ends the program. -/
theorem DeviceCertificate.panics_fromSerialized_of_cut {certificate : DeviceCertificate crypto}
    {held : Bytes} (ahead : held <+: certificate.serialize) (short : held.length < 128) :
    (fromSerialized held : Outcome (DeviceCertificate crypto)).Panics := by
  rw [serialize] at ahead
  rw [fromSerialized, Outcome.panics_bind_iff, drain_panics_iff]
  rcases prefix_append_cases ahead with brief | ⟨rest, rfl, behind⟩
  · rw [List.Vector.toList_length] at brief
    exact Or.inl brief
  refine Or.inr ⟨_, drain_append _ _, ?_⟩
  dsimp only
  rw [VerifyingKey.fromBytes_bytes, okOr, Outcome.bind_ok, Outcome.panics_bind_iff,
    drain_panics_iff]
  rcases prefix_append_cases behind with brief | ⟨last, rfl, _⟩
  · rw [List.Vector.toList_length] at brief
    exact Or.inl brief
  refine Or.inr ⟨_, drain_append _ _, ?_⟩
  dsimp only
  rw [Outcome.panics_bind_iff, drain_panics_iff]
  simp only [List.length_append, List.Vector.toList_length] at short
  exact Or.inl (by omega)

/-- Whatever of a certificate is parsed is the whole of it. -/
theorem DeviceCertificate.of_cut {certificate found : DeviceCertificate crypto} {held : Bytes}
    (ahead : held <+: certificate.serialize) (read : fromSerialized held = .ok found) :
    found = certificate := by
  by_cases short : held.length < 128
  · exact absurd (panics_fromSerialized_of_cut ahead short) (read ▸ Outcome.not_panics_ok found)
  · have whole := ahead.eq_of_length_le (certificate.length_serialize ▸ not_lt.mp short)
    rw [whole, fromSerialized_serialize] at read
    exact (Except.ok.inj read).symm

namespace DeviceList

theorem take_flatMap_serialize (devices : List (DeviceCertificate crypto)) (count : Nat) :
    (devices.flatMap DeviceCertificate.serialize).take (128 * count) =
      (devices.take count).flatMap DeviceCertificate.serialize := by
  induction count generalizing devices with
  | zero => simp
  | succ count inductionHypothesis =>
    cases devices with
    | nil => simp
    | cons device rest =>
      have size : 128 * (count + 1) = device.serialize.length + 128 * count := by
        rw [DeviceCertificate.length_serialize]
        ring
      rw [List.flatMap_cons, size, List.take_length_add_append, inductionHypothesis,
        List.take_succ_cons, List.flatMap_cons]

/-- The front of a device list is refused, or is a list with the first of its devices. -/
theorem of_cut {list found : DeviceList crypto} {held : Bytes} (ahead : held <+: list.serialize)
    (read : fromSerialized held = .ok found) :
    ∃ count, found = { list with devices := list.devices.take count } := by
  have long : ¬ held.length < 8 + 64 := by
    intro short
    rw [fromSerialized, if_pos short] at read
    cases read
  rw [serialize] at ahead
  rcases prefix_append_cases ahead with brief | ⟨rest, rfl, behind⟩
  · rw [List.Vector.toList_length] at brief
    omega
  rcases prefix_append_cases behind with brief | ⟨last, rfl, devices⟩
  · rw [List.Vector.toList_length] at brief
    simp only [List.length_append, List.Vector.toList_length] at long
    omega
  have whole : last.length % 128 = 0 := by
    by_contra part
    rw [fromSerialized, if_neg long, drain_append, Outcome.bind_ok] at read
    dsimp only at read
    rw [drain_append, Outcome.bind_ok] at read
    dsimp only at read
    rw [if_pos part] at read
    cases read
  have front : last = (list.devices.take (last.length / 128)).flatMap
      DeviceCertificate.serialize := by
    rw [← take_flatMap_serialize, Nat.mul_div_cancel' (Nat.dvd_of_mod_eq_zero whole)]
    exact List.prefix_iff_eq_take.mp devices
  refine ⟨last.length / 128, ?_⟩
  have same : (beBytes 8 list.sequence).toList ++ (list.masterSignature.toList ++ last) =
      serialize { list with devices := list.devices.take (last.length / 128) } := by
    rw [serialize, ← front]
  rw [same, fromSerialized_serialize_eq] at read
  split at read
  · cases read
  · exact (Except.ok.inj read).symm

theorem length_readDevices {count : Nat} {bytes : Bytes}
    {before devices : List (DeviceCertificate crypto)}
    (read : readDevices count bytes before = .ok devices) :
    devices.length = before.length + count := by
  induction count generalizing bytes before with
  | zero =>
    rw [readDevices] at read
    rw [← Except.ok.inj read]
    rfl
  | succ count inductionHypothesis =>
    rw [readDevices] at read
    obtain ⟨⟨deviceBytes, rest⟩, _, read⟩ := Outcome.bind_eq_ok_iff.mp read
    obtain ⟨device, _, read⟩ := Outcome.bind_eq_ok_iff.mp read
    rw [inductionHypothesis read, List.length_append, List.length_singleton]
    ring

theorem few_of_fromSerialized {found : DeviceList crypto} {bytes : Bytes}
    (read : fromSerialized bytes = .ok found) : found.devices.length ≤ maxDevices := by
  rw [fromSerialized] at read
  split at read
  · cases read
  obtain ⟨⟨_, signed⟩, _, read⟩ := Outcome.bind_eq_ok_iff.mp read
  obtain ⟨⟨_, rest⟩, _, read⟩ := Outcome.bind_eq_ok_iff.mp read
  dsimp only at read
  split at read
  · cases read
  split at read
  · cases read
  rename_i few
  obtain ⟨devices, parsed, read⟩ := Outcome.bind_eq_ok_iff.mp read
  have counted := length_readDevices parsed
  rw [← Except.ok.inj read]
  dsimp only
  rw [counted, List.length_nil]
  omega

theorem not_panics_readDevices {count : Nat} {bytes : Bytes} (enough : 128 * count ≤ bytes.length)
    (before : List (DeviceCertificate crypto)) : ¬ (readDevices count bytes before).Panics := by
  induction count generalizing bytes before with
  | zero => exact Outcome.not_panics_ok _
  | succ count inductionHypothesis =>
    refine Outcome.not_panics_bind (by rw [drain_panics_iff]; omega) ?_
    rintro ⟨deviceBytes, rest⟩ drained
    have left := length_of_drain drained
    refine Outcome.not_panics_bind ?_ fun device _ => inductionHypothesis (by omega) _
    rw [Outcome.panics_mapErr_iff]
    exact DeviceCertificate.not_panics_fromSerialized (List.Vector.toList_length _).ge

theorem not_panics_fromSerialized (bytes : Bytes) :
    ¬ (fromSerialized bytes : Outcome (DeviceList crypto)).Panics := by
  rw [fromSerialized]
  split
  · exact Outcome.not_panics_error _
  refine Outcome.not_panics_bind (by rw [drain_panics_iff]; omega) ?_
  rintro ⟨sequenceBytes, signed⟩ first
  have size := length_of_drain first
  refine Outcome.not_panics_bind (by rw [drain_panics_iff]; omega) ?_
  rintro ⟨masterSignature, rest⟩ _
  dsimp only
  split
  · exact Outcome.not_panics_error _
  split
  · exact Outcome.not_panics_error _
  refine Outcome.not_panics_bind (not_panics_readDevices ?_ []) fun _ _ => Outcome.not_panics_ok _
  exact Nat.mul_div_le _ _

end DeviceList

theorem toOctets_of_cut {length : Nat} {octets found : Octets length} {held : Bytes}
    (ahead : held <+: octets.toList) (read : toOctets length held = some found) :
    found = octets := by
  rw [toOctets] at read
  split at read
  · rename_i whole
    have same := ahead.eq_of_length (whole.trans (List.Vector.toList_length octets).symm)
    rw [← Option.some.inj read]
    exact Subtype.ext same
  · cases read

theorem toOctets_toList {length : Nat} (octets : Octets length) :
    toOctets length octets.toList = some octets := by
  rw [toOctets, dif_pos (List.Vector.toList_length octets)]
  rfl

namespace RelayRegistry

theorem serialize_plain (relays : RelayRegistry) : relays.plain.serialize = relays.serialize := by
  have same (entry : RelayEntry) : entry.plain.serialize = entry.serialize := by
    obtain ⟨id, pubkey, address⟩ := entry
    cases address <;> rfl
  have written : RelayEntry.written ∘ RelayEntry.plain = RelayEntry.written := by
    funext entry
    rw [Function.comp_apply, RelayEntry.written, same]
    rfl
  rw [serialize, plain, List.length_map, List.flatMap_map]
  exact congrArg (_ ++ List.flatMap · relays.registry) written

/-- The front of a registry is refused, unless it is the whole of it. -/
theorem of_cut {crypto : Primitives} {relays found : RelayRegistry} {held : Bytes}
    (built : ∀ entry ∈ relays.registry, entry.Built crypto)
    (few : relays.registry.length < 2 ^ 32) (ahead : held <+: relays.serialize)
    (read : fromSerialized crypto held = .ok found) : found = relays.plain := by
  by_cases whole : held = relays.serialize
  · rw [whole, fromSerialized_serialize built few] at read
    exact (Except.ok.inj read).symm
  · obtain ⟨message, refused⟩ := fromSerialized_cut built few ahead whole
    rw [refused] at read
    cases read

end RelayRegistry

/-! ### Keychains -/

namespace DeviceKeychain

variable {libraries : KeychainLibraries crypto}

theorem load_congr {dir other : StorageDir} (same : other .keychain = dir .keychain)
    (password : Option String) : load libraries other password = load libraries dir password := by
  rw [load, load, Files.read, Files.read, same]

/-- What is assumed of the libraries: keys are read back as they were written, Argon2id takes
passwords of fewer than 2^32 bytes, and what is sealed is opened with its key. -/
structure KeepsKeychains (libraries : KeychainLibraries crypto) : Prop where
  returns : ∀ secret, libraries.toBytes (libraries.words.signingKey secret) = secret
  accepts : libraries.argon.Accepts
  seals : crypto.SealsWithTag 64
  opens : crypto.OpensSealed

/-- A keychain that was saved is loaded with the same password. -/
theorem load_of_save (keeps : KeepsKeychains libraries) {keychain : DeviceKeychain}
    (fit : keychain.Matches libraries) {password : Option String}
    (short : ∀ pw ∈ password, (utf8 pw).length < 2 ^ 32) {salt : Octets 32} {nonce : Nonce}
    {fate : WriteFate} {dir after : StorageDir}
    (saved : keychain.save libraries .keychain password salt nonce fate dir = (.ok (), after)) :
    load libraries after password = .ok { keychain with hasPassword := password.isSome } := by
  obtain ⟨data, serialized, wrote⟩ := Outcome.orReturn_eq_ok_iff.mp saved
  have holds : after .keychain = some data := Files.write_ok wrote
  have read : fromSerialized libraries data password =
      .ok { keychain with hasPassword := password.isSome } := by
    cases password with
    | none =>
      obtain ⟨bytes, written, read⟩ := restored_plain fit salt nonce
      obtain rfl := Except.ok.inj (serialized.symm.trans written)
      exact read
    | some pw =>
      obtain ⟨bytes, written, read, _⟩ := restored_sealed fit keeps.accepts keeps.seals keeps.opens
        (short pw rfl) salt nonce
      obtain rfl := Except.ok.inj (serialized.symm.trans written)
      exact read
  rw [load, Files.read_eq_ok_iff.mpr holds]
  exact read

end DeviceKeychain

/-! ### Saving -/

namespace StoredClient

/-- However a save ends, the keychain stays as it is. -/
theorem keychain_of_save (client : StoredClient crypto noise) (saving : Saving crypto)
    (dir : StorageDir) : (client.save saving dir).2 .keychain = dir .keychain :=
  Files.writeAll_other dir (by simp [files, fsWrite])

/-- What a save that came through leaves in the directory. -/
structure Saved (client : StoredClient crypto noise) (saving : Saving crypto)
    (before after : StorageDir) : Prop where
  ourPk : after .ourPk = some client.ourPk.toList
  deviceCert : after .deviceCert = some client.deviceCert.serialize
  registry : after .registry = some client.registry.serialize
  deviceList : after .deviceList = some client.deviceList.serialize
  peerState : after .peerState =
    some (client.node.calls.savePeerState saving.keysOrder saving.addrsOrder)
  keychain : after .keychain = before .keychain

theorem saved_of_save {client : StoredClient crypto noise} {saving : Saving crypto}
    {before after : StorageDir} (saved : client.save saving before = (.ok (), after)) :
    client.Saved saving before after := by
  have once : ((client.files saving).map FileWrite.name).Nodup := by
    simp [files, fsWrite]
  have holds := Files.writeAll_ok once saved
  have kept := client.keychain_of_save saving before
  rw [saved] at kept
  simp only [files, fsWrite, List.forall_mem_cons] at holds
  obtain ⟨ourPk, deviceCert, registry, deviceList, peerState, -⟩ := holds
  exact ⟨ourPk, deviceCert, registry, deviceList, peerState, kept⟩

variable {libraries : KeychainLibraries crypto} {password : Option String}
  {bound : Outcome SocketAddr} {dir : StorageDir} {client : StoredClient crypto noise}

/-- Where the parts of a client that was opened come from. -/
theorem openDir_ok (opened : openDir libraries password bound dir = .ok client) :
    ∃ keychain octets addr, DeviceKeychain.load libraries dir password = .ok keychain ∧
      dir .ourPk = some octets ∧ toOctets 32 octets = some client.ourPk ∧
        DeviceCertificate.openFile dir = .ok client.deviceCert ∧
          RelayRegistry.openFile crypto dir = .ok client.registry ∧
            DeviceList.openFile dir = .ok client.deviceList ∧
              bound = .ok addr ∧ client.rt = Client.runtime client.ourPk addr
                (libraries.words.signingKey keychain.deviceEd25519Priv) ∧
              client.node = startNode (bindNode client.ourPk client.deviceCert
                keychain.deviceX25519Priv addr) client.registry dir := by
  obtain ⟨deviceCert, certified, opened⟩ := Outcome.bind_eq_ok_iff.mp opened
  obtain ⟨registry, registered, opened⟩ := Outcome.bind_eq_ok_iff.mp opened
  obtain ⟨deviceList, listed, opened⟩ := Outcome.bind_eq_ok_iff.mp opened
  obtain ⟨keychain, loaded, opened⟩ := Outcome.bind_eq_ok_iff.mp opened
  obtain ⟨octets, held, opened⟩ := Outcome.bind_eq_ok_iff.mp opened
  rw [Outcome.inContext_eq_ok_iff, Files.read_eq_ok_iff] at held
  obtain ⟨ourPk, whole, opened⟩ := Outcome.bind_eq_ok_iff.mp opened
  obtain ⟨addr, binds, opened⟩ := Outcome.bind_eq_ok_iff.mp opened
  obtain rfl := Except.ok.inj opened
  exact ⟨keychain, octets, addr, loaded, held, okOr_eq_ok_iff.mp whole, certified, registered,
    listed, binds, rfl, rfl⟩

/-- A list that stands in its file is the one that is opened. -/
theorem deviceList_of_open (opened : openDir libraries password bound dir = .ok client)
    {list : DeviceList crypto} (held : dir .deviceList = some list.serialize) :
    client.deviceList = list := by
  obtain ⟨_, _, _, _, _, _, _, _, listed, _⟩ := openDir_ok opened
  obtain ⟨bytes, found, listed⟩ := Outcome.bind_eq_ok_iff.mp listed
  rw [Outcome.inContext_eq_ok_iff, Files.read_eq_ok_iff, held] at found
  rw [← Option.some.inj found, DeviceList.fromSerialized_serialize_eq] at listed
  split at listed
  · cases listed
  · exact (Except.ok.inj listed).symm

/-- An operation on devices that came through has written the list that the client has. -/
theorem perform_writes {client after : StoredClient crypto noise}
    {mnemonic : libraries.words.Mnemonic} {env : ClientSurroundings crypto} {files : EditFiles}
    {edit : Client.Edit} {before dir : StorageDir}
    {operations : List (DhtOperation × SocketAddr)}
    (performed : client.perform libraries mnemonic password env files edit before =
      (.ok operations, after, dir)) : dir .deviceList = some after.deviceList.serialize := by
  rw [perform] at performed
  rcases saving : client.saveDevice libraries mnemonic password files before edit with
    ⟨saved, middle⟩
  rw [saving] at performed
  dsimp only at performed
  rcases edited : client.toClient.perform libraries.words mnemonic password
    { env with keychainSaved := saved, listSaved := .ok () } edit with ⟨fault | published, next⟩
  all_goals rw [edited] at performed
  · cases performed
  dsimp only at performed
  obtain ⟨mapped, rest⟩ := Prod.mk.inj performed
  obtain ⟨rfl, left⟩ := Prod.mk.inj rest
  obtain ⟨_, wrote, _⟩ := Outcome.map_eq_ok_iff.mp mapped
  exact Files.write_ok (Prod.ext wrote left)

/-- What is opened after a save that broke off has the list that was there, or the first of the
devices of the client. -/
theorem deviceList_of_save {client reopened : StoredClient crypto noise} {saving : Saving crypto}
    {bound : Outcome SocketAddr} {dir : StorageDir}
    (opened : openDir libraries password bound (client.save saving dir).2 = .ok reopened) :
    (client.save saving dir).2 .deviceList = dir .deviceList ∨ ∃ count, reopened.deviceList =
      { client.deviceList with devices := client.deviceList.devices.take count } := by
  rcases Files.writeAll_holds dir (client.files saving) .deviceList with
    same | ⟨item, member, named, held, holds, ahead⟩
  · exact Or.inl same
  · have listed : item.bytes = client.deviceList.serialize := by
      simp only [files, fsWrite, List.mem_cons, List.not_mem_nil, or_false] at member
      rcases member with rfl | rfl | rfl | rfl | rfl
      all_goals first | rfl | cases named
    obtain ⟨_, _, _, _, _, _, _, _, parsed, _⟩ := openDir_ok opened
    obtain ⟨bytes, found, parsed⟩ := Outcome.bind_eq_ok_iff.mp parsed
    rw [Outcome.inContext_eq_ok_iff, Files.read_eq_ok_iff] at found
    obtain rfl := Option.some.inj (holds.symm.trans found)
    exact Or.inr (DeviceList.of_cut (listed ▸ ahead) parsed)

end StoredClient

end Insub
