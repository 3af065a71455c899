/-
This file follows a storage directory over all that can happen to it: saves and operations on
devices that may break off in the middle of any write, restarts, and whatever the client does in
between. What is opened is always the client that was made there, with its keys and its certificate,
and if the last save came through, with its device list and its tables. Only one thing ends the
program: a certificate file that was cut off.
-/

import Mathlib
import Insub.Client.Founding
import Insub.Library.Run

namespace Insub

open Rust

variable {crypto : Primitives} {noise : Noise}

/-! ### What stays the same -/

/-- What a client was made with. The entry of the registry is as it is read back. -/
structure Origin (crypto : Primitives) where
  ourPk : Key
  cert : DeviceCertificate crypto
  keychain : DeviceKeychain
  entry : RelayEntry
  built : entry.Built crypto
  plain : entry.plain = entry

namespace Origin

def registry (origin : Origin crypto) : RelayRegistry := ⟨[origin.entry]⟩

/-- The files of the directory are those of the client, or the fronts of them. The keychain is
whole, since it is written only once. -/
structure Stored (libraries : KeychainLibraries crypto) (password : Option String)
    (origin : Origin crypto) (dir : StorageDir) : Prop where
  keychain : DeviceKeychain.load libraries dir password = .ok origin.keychain
  ourPk : dir.Cut .ourPk origin.ourPk.toList
  deviceCert : dir.Cut .deviceCert origin.cert.serialize
  registry : dir.Cut .registry origin.registry.serialize

/-- The client is the one that was made, with whatever list and tables it has. -/
structure Runs (libraries : KeychainLibraries crypto) (origin : Origin crypto)
    (client : StoredClient crypto noise) : Prop where
  ourPk : client.ourPk = origin.ourPk
  deviceCert : client.deviceCert = origin.cert
  registry : client.registry.plain = origin.registry
  few : client.deviceList.devices.length ≤ DeviceList.maxDevices
  signs : client.rt.deviceEd25519Priv =
    some (libraries.words.signingKey origin.keychain.deviceEd25519Priv)
  deviceX25519Priv : client.node.calls.deviceX25519Priv = origin.keychain.deviceX25519Priv
  named : client.node.calls.masterPubkey = some origin.ourPk
  certified : client.node.calls.deviceCert = some origin.cert

variable {libraries : KeychainLibraries crypto} {password : Option String} {origin : Origin crypto}
  {dir : StorageDir} {client : StoredClient crypto noise}

theorem registry_plain (origin : Origin crypto) : origin.registry.plain = origin.registry :=
  congrArg (fun entry => (⟨[entry]⟩ : RelayRegistry)) origin.plain

theorem registry_built (origin : Origin crypto) :
    ∀ entry ∈ origin.registry.registry, entry.Built crypto :=
  List.forall_mem_singleton.mpr origin.built

/-- A write to a file with a list, or with the keychain of another device. -/
theorem Stored.write (stored : origin.Stored libraries password dir) {item : FileWrite FileName}
    (other : item.name = .deviceList ∨ ∃ index, item.name = .keychainOf index) :
    origin.Stored libraries password (Files.write dir item).2 := by
  have kept (name : FileName) (outside : name ≠ .deviceList ∧ ∀ index, name ≠ .keychainOf index) :
      (Files.write dir item).2 name = dir name := by
    refine Files.write_other dir ?_
    rintro rfl
    rcases other with listed | ⟨index, keychain⟩
    · exact outside.1 listed
    · exact outside.2 index keychain
  refine ⟨?_, fun held holds => ?_, fun held holds => ?_, fun held holds => ?_⟩
  · rw [DeviceKeychain.load_congr (kept .keychain (by simp))]
    exact stored.keychain
  · exact stored.ourPk held (kept .ourPk (by simp) ▸ holds)
  · exact stored.deviceCert held (kept .deviceCert (by simp) ▸ holds)
  · exact stored.registry held (kept .registry (by simp) ▸ holds)

/-- Its registry is written like the one that is read back. -/
theorem Runs.serialize_registry (runs : origin.Runs libraries client) :
    client.registry.serialize = origin.registry.serialize := by
  rw [← RelayRegistry.serialize_plain, runs.registry]

theorem Stored.save (stored : origin.Stored libraries password dir)
    (runs : origin.Runs libraries client) (saving : Saving crypto) :
    origin.Stored libraries password (client.save saving dir).2 := by
  refine ⟨?_, stored.ourPk.writeAll ?_, stored.deviceCert.writeAll ?_, stored.registry.writeAll ?_⟩
  · rw [DeviceKeychain.load_congr (client.keychain_of_save saving dir)]
    exact stored.keychain
  · simp [StoredClient.files, fsWrite, runs.ourPk]
  · simp [StoredClient.files, fsWrite, runs.deviceCert]
  · simp [StoredClient.files, fsWrite, runs.serialize_registry]

/-- After a save that came through, the files are whole. -/
theorem Stored.of_saved {saving : Saving crypto} {before : StorageDir}
    (saved : client.Saved saving before dir)
    (loaded : DeviceKeychain.load libraries before password = .ok origin.keychain)
    (runs : origin.Runs libraries client) : origin.Stored libraries password dir := by
  have whole {name : FileName} {bytes : Bytes} (holds : dir name = some bytes) :
      dir.Cut name bytes := by
    intro held same
    rw [holds] at same
    exact Option.some.inj same ▸ List.prefix_refl _
  refine ⟨?_, whole ?_, whole ?_, whole ?_⟩
  · rw [DeviceKeychain.load_congr saved.keychain]
    exact loaded
  · rw [saved.ourPk, runs.ourPk]
  · rw [saved.deviceCert, runs.deviceCert]
  · rw [saved.registry, runs.serialize_registry]

/-- However an operation on devices ends, the client and the files are the ones that were made. -/
theorem Stored.perform (stored : origin.Stored libraries password dir)
    (runs : origin.Runs libraries client) (mnemonic : libraries.words.Mnemonic)
    (editPassword : Option String) {env : ClientSurroundings crypto} (decoded : Decoded env.contact)
    (files : EditFiles) (edit : Client.Edit) :
    origin.Stored libraries password
        (client.perform libraries mnemonic editPassword env files edit dir).2.2 ∧
      origin.Runs libraries
        (client.perform libraries mnemonic editPassword env files edit dir).2.1 := by
  have kept : origin.Stored libraries password
      (client.saveDevice libraries mnemonic editPassword files dir edit).2 := by
    cases edit with
    | add =>
      rw [StoredClient.saveDevice]
      split
      · exact stored
      · exact Outcome.orReturn_state (origin.Stored libraries password) stored fun data _ =>
          stored.write (Or.inr ⟨_, rfl⟩)
    | revoke index => exact stored
  rw [StoredClient.perform]
  rcases saving : client.saveDevice libraries mnemonic editPassword files dir edit with
    ⟨saved, after⟩
  rw [saving] at kept
  dsimp only at kept ⊢
  rcases performed : client.toClient.perform libraries.words mnemonic editPassword
    { env with keychainSaved := saved, listSaved := .ok () } edit with ⟨fault | operations, next⟩
  · exact ⟨kept, runs⟩
  obtain ⟨_, _, _, _, _, published⟩ := Client.perform_ok performed
  obtain ⟨rt, ourPk⟩ := Client.publish_frame published
  refine ⟨kept.write (Or.inl rfl), ?_⟩
  exact {
    ourPk := ourPk.trans runs.ourPk
    deviceCert := runs.deviceCert
    registry := runs.registry
    few := Client.few_of_perform performed runs.few decoded
    signs := by
      show next.rt.deviceEd25519Priv = _
      rw [rt]
      exact runs.signs
    deviceX25519Priv := runs.deviceX25519Priv
    named := runs.named
    certified := runs.certified }

theorem Runs.use (runs : origin.Runs libraries client) {node : Node crypto noise}
    (used : client.node.Used node) : origin.Runs libraries { client with node } where
  ourPk := runs.ourPk
  deviceCert := runs.deviceCert
  registry := runs.registry
  few := runs.few
  signs := runs.signs
  deviceX25519Priv := (Node.deviceX25519Priv_step used.step).trans runs.deviceX25519Priv
  named := used.masterPubkey.trans runs.named
  certified := used.deviceCert.trans runs.certified

/-- Whatever can be opened is the client that was made. -/
theorem Stored.runs_of_open (stored : origin.Stored libraries password dir)
    {bound : Outcome SocketAddr}
    (opened : StoredClient.openDir libraries password bound dir = .ok client) :
    origin.Runs libraries client := by
  obtain ⟨keychain, octets, addr, loaded, held, whole, certified, registered, listed, _, rt,
    node⟩ := StoredClient.openDir_ok opened
  obtain rfl := Except.ok.inj (stored.keychain.symm.trans loaded)
  obtain ⟨certBytes, certHeld, certified⟩ := Outcome.bind_eq_ok_iff.mp certified
  rw [Outcome.inContext_eq_ok_iff, Files.read_eq_ok_iff] at certHeld
  obtain ⟨registryBytes, registryHeld, registered⟩ := Outcome.bind_eq_ok_iff.mp registered
  rw [Outcome.inContext_eq_ok_iff, Files.read_eq_ok_iff] at registryHeld
  obtain ⟨listBytes, _, listed⟩ := Outcome.bind_eq_ok_iff.mp listed
  have ourPk := toOctets_of_cut (stored.ourPk _ held) whole
  have deviceCert := DeviceCertificate.of_cut (stored.deviceCert _ certHeld) certified
  have registry := RelayRegistry.of_cut origin.registry_built (by simp [Origin.registry])
    (stored.registry _ registryHeld) registered
  obtain ⟨peerKeys, pkToAddr, calls⟩ := StoredClient.startNode_calls
    (StoredClient.bindNode client.ourPk client.deviceCert origin.keychain.deviceX25519Priv addr :
      Node crypto noise) client.registry dir
  exact {
    ourPk := ourPk
    deviceCert := deviceCert
    registry := by rw [registry, origin.registry_plain, origin.registry_plain]
    few := DeviceList.few_of_fromSerialized listed
    signs := by rw [rt]; rfl
    deviceX25519Priv := by rw [node, calls]; rfl
    named := by rw [node, calls, ← ourPk]; rfl
    certified := by rw [node, calls, ← deviceCert]; rfl }

/-- Opening ends the program exactly if the certificate file was cut off. -/
theorem Stored.panics_open_iff (stored : origin.Stored libraries password dir)
    {bound : Outcome SocketAddr} (binds : ¬ bound.Panics) :
    (StoredClient.openDir libraries password bound dir :
        Outcome (StoredClient crypto noise)).Panics ↔
      ∃ held, dir .deviceCert = some held ∧ held.length < 128 := by
  have certified : (DeviceCertificate.openFile dir : Outcome (DeviceCertificate crypto)).Panics ↔
      ∃ held, dir .deviceCert = some held ∧ held.length < 128 := by
    rw [DeviceCertificate.openFile, Outcome.panics_bind_iff, Outcome.panics_inContext_iff,
      or_iff_right (Files.not_panics_read dir .deviceCert)]
    constructor
    · rintro ⟨held, read, panicked⟩
      rw [Outcome.inContext_eq_ok_iff, Files.read_eq_ok_iff] at read
      refine ⟨held, read, not_le.mp fun enough => ?_⟩
      exact DeviceCertificate.not_panics_fromSerialized enough panicked
    · rintro ⟨held, same, short⟩
      refine ⟨held, ?_, DeviceCertificate.panics_fromSerialized_of_cut
        (stored.deviceCert held same) short⟩
      rw [Outcome.inContext_eq_ok_iff, Files.read_eq_ok_iff]
      exact same
  have read (name : FileName) (context : String) :
      ¬ ((dir.read name).inContext context).Panics := by
    rw [Outcome.panics_inContext_iff]
    exact Files.not_panics_read dir name
  rw [← certified, StoredClient.openDir, Outcome.panics_bind_iff, or_iff_left_iff_imp]
  rintro ⟨deviceCert, _, panicked⟩
  refine absurd panicked (Outcome.not_panics_bind ?_ fun registry _ => ?_)
  · exact Outcome.not_panics_bind (read _ _) fun _ _ =>
      RelayRegistry.not_panics_fromSerialized crypto _
  refine Outcome.not_panics_bind ?_ fun deviceList _ => ?_
  · exact Outcome.not_panics_bind (read _ _) fun _ _ => DeviceList.not_panics_fromSerialized _
  refine Outcome.not_panics_bind (stored.keychain ▸ Outcome.not_panics_ok _) fun keychain _ => ?_
  refine Outcome.not_panics_bind (read _ _) fun octets _ => ?_
  refine Outcome.not_panics_bind (not_panics_okOr _ _) fun ourPk _ => ?_
  exact Outcome.not_panics_bind binds fun addr _ => Outcome.not_panics_ok _

/-- A client whose save came through is opened as it is. -/
theorem Runs.open_of_saved (runs : origin.Runs libraries client) {saving : Saving crypto}
    {before : StorageDir} (saved : client.Saved saving before dir)
    (loaded : DeviceKeychain.load libraries before password = .ok origin.keychain)
    (addr : SocketAddr) : ∃ reopened : StoredClient crypto noise,
      StoredClient.openDir libraries password (.ok addr) dir = .ok reopened ∧
        reopened.deviceList = client.deviceList ∧
          (client.node.calls.Storable → client.node.calls.SamePeers reopened.node.calls) := by
  have certified : DeviceCertificate.openFile dir = .ok client.deviceCert := by
    rw [DeviceCertificate.openFile, Files.read_eq_ok_iff.mpr saved.deviceCert]
    exact client.deviceCert.fromSerialized_serialize
  have registered : RelayRegistry.openFile crypto dir = .ok origin.registry := by
    rw [RelayRegistry.openFile, Files.read_eq_ok_iff.mpr saved.registry, runs.serialize_registry]
    have read := RelayRegistry.fromSerialized_serialize origin.registry_built
      (by simp [Origin.registry])
    rw [origin.registry_plain] at read
    exact read
  have listed : DeviceList.openFile dir = .ok client.deviceList := by
    rw [DeviceList.openFile, Files.read_eq_ok_iff.mpr saved.deviceList]
    exact DeviceList.fromSerialized_serialize runs.few
  have held : (dir.read .ourPk).inContext "cannot read our_pk" = .ok client.ourPk.toList := by
    rw [Outcome.inContext_eq_ok_iff, Files.read_eq_ok_iff]
    exact saved.ourPk
  rw [← DeviceKeychain.load_congr saved.keychain] at loaded
  let node : Node crypto noise := StoredClient.bindNode client.ourPk client.deviceCert
    origin.keychain.deviceX25519Priv addr
  refine ⟨⟨⟨Client.runtime client.ourPk addr
    (libraries.words.signingKey origin.keychain.deviceEd25519Priv), client.ourPk,
      client.deviceList⟩, client.deviceCert, origin.registry,
        StoredClient.startNode node origin.registry dir⟩, ?_, rfl, fun storable => ?_⟩
  · rw [StoredClient.openDir, certified, Outcome.bind_ok, registered, Outcome.bind_ok, listed,
      Outcome.bind_ok, loaded, Outcome.bind_ok, held, Outcome.bind_ok, toOctets_toList, okOr,
      Outcome.bind_ok, Outcome.bind_ok]
  · have restores := storable.restores node.calls saving.keysOrder saving.addrsOrder
    have calls : (StoredClient.startNode node origin.registry dir).calls =
        (node.calls.loadPeerState (client.node.calls.savePeerState saving.keysOrder
          saving.addrsOrder)).2 := by
      rw [StoredClient.startNode, saved.peerState]
    exact ⟨fun addr => (congrArg (·.peerKeys.lookup addr) calls).trans (restores.peerKeys addr),
      fun pk => (congrArg (·.pkToAddr.lookup pk) calls).trans (restores.pkToAddr pk)⟩

end Origin

/-! ### The first client -/

namespace StoredClient

variable {libraries : KeychainLibraries crypto} {password : Option String}

/-- What a client is founded on, whichever way: the keychain that was saved under the password, and
what was settled then. -/
theorem origin_of_settle (keeps : DeviceKeychain.KeepsKeychains libraries)
    (short : ∀ pw ∈ password, (utf8 pw).length < 2 ^ 32) {mnemonic : libraries.words.Mnemonic}
    {salt : Octets 32} {nonce : Nonce} {fate : WriteFate} {before middle after : StorageDir}
    (saved : (DeviceKeychain.fromMnemonic libraries mnemonic password).save libraries .keychain
      password salt nonce fate before = (.ok (), middle))
    {ourPk : Key} {deviceList : DeviceList crypto} {cert : DeviceCertificate crypto}
    {addr : SocketAddr} {entry : RelayEntry}
    (entered : RelayEntry.new crypto (deriveId crypto ourPk) ourPk addr = .ok entry)
    {node : Node crypto noise} {saving : Saving crypto} {stored : StoredClient crypto noise}
    (settled : settle ⟨Client.runtime ourPk addr (libraries.words.signingKey
      (DeviceKeychain.fromMnemonic libraries mnemonic password).deviceEd25519Priv), ourPk,
        deviceList⟩ cert entry node saving middle = (.ok stored, after))
    (few : deviceList.devices.length ≤ DeviceList.maxDevices)
    (used : Relation.ReflTransGen Node.Used (bindNode ourPk cert
      (DeviceKeychain.fromMnemonic libraries mnemonic password).deviceX25519Priv addr) node) :
    ∃ origin : Origin crypto, origin.Stored libraries password after ∧
      origin.Runs libraries stored := by
  have loaded := DeviceKeychain.load_of_save keeps
    (DeviceKeychain.matches_fromMnemonic keeps.returns mnemonic password) short saved
  obtain rfl := Except.ok.inj ((RelayEntry.new_derived crypto ourPk addr).symm.trans entered)
  obtain ⟨same, written⟩ := settle_ok settled
  let origin : Origin crypto := {
    ourPk
    cert
    keychain := { DeviceKeychain.fromMnemonic libraries mnemonic password with
      hasPassword := password.isSome }
    entry := ⟨deriveId crypto ourPk, ourPk, addr.plain⟩
    built := ⟨_, _, _, RelayEntry.new_derived crypto ourPk addr.plain⟩
    plain := by cases addr <;> rfl }
  obtain ⟨deviceX25519Priv, masterPubkey, deviceCert⟩ := Node.kept_of_used used
  obtain ⟨peerKeys, pkToAddr, calls⟩ :=
    startNode_calls node (RelayRegistry.new.add ⟨deriveId crypto ourPk, ourPk, addr⟩) middle
  have runs : origin.Runs libraries stored := {
    ourPk := by rw [same]
    deviceCert := by rw [same]
    registry := by rw [same]; rfl
    few := by rw [same]; exact few
    signs := by rw [same]; rfl
    deviceX25519Priv := by rw [same, calls]; exact deviceX25519Priv
    named := by rw [same, calls]; exact masterPubkey
    certified := by rw [same, calls]; exact deviceCert }
  exact ⟨origin, .of_saved (saved_of_save written) loaded runs, runs⟩

theorem Founds.origin (keeps : DeviceKeychain.KeepsKeychains libraries)
    (short : ∀ pw ∈ password, (utf8 pw).length < 2 ^ 32) {client : StoredClient crypto noise}
    {dir : StorageDir} (founds : Founds libraries password client dir) :
    ∃ origin : Origin crypto, origin.Stored libraries password dir ∧
      origin.Runs libraries client := by
  cases founds with
  | new generated mnemonic env files before _ _ created =>
    obtain ⟨_, _, _, _, _, _, saved, _, added, _, entered, settled, _⟩ := create_ok created
    have few := DeviceList.few_of_addDevice added
    exact origin_of_settle keeps short saved entered settled few .refl
  | fromMnemonic mnemonic env calls files before _ _ decoded used restored =>
    obtain ⟨_, _, _, _, _, _, _, saved, _, _, _, listed, _, entered, settled⟩ := restore_ok restored
    have few := few_of_fromMnemonicList decoded listed
    exact origin_of_settle keeps short saved entered settled few (used _)

/-- The same identity, on the same device. -/
structure SameIdentity (first other : StoredClient crypto noise) : Prop where
  ourPk : other.ourPk = first.ourPk
  deviceCert : other.deviceCert = first.deviceCert
  registry : other.registry.plain = first.registry.plain
  deviceEd25519Priv : other.rt.deviceEd25519Priv = first.rt.deviceEd25519Priv
  deviceX25519Priv : other.node.calls.deviceX25519Priv = first.node.calls.deviceX25519Priv
  masterPubkey : other.node.calls.masterPubkey = first.node.calls.masterPubkey
  certified : other.node.calls.deviceCert = first.node.calls.deviceCert

theorem sameIdentity_of_runs {origin : Origin crypto} {first other : StoredClient crypto noise}
    (one : origin.Runs libraries first) (two : origin.Runs libraries other) :
    first.SameIdentity other where
  ourPk := two.ourPk.trans one.ourPk.symm
  deviceCert := two.deviceCert.trans one.deviceCert.symm
  registry := two.registry.trans one.registry.symm
  deviceEd25519Priv := two.signs.trans one.signs.symm
  deviceX25519Priv := two.deviceX25519Priv.trans one.deviceX25519Priv.symm
  masterPubkey := two.named.trans one.named.symm
  certified := two.certified.trans one.certified.symm

end StoredClient

/-! ### Over all that can happen -/

/-- A directory, with the client that runs on it if one does. -/
structure Machine (crypto : Primitives) (noise : Noise) where
  dir : StorageDir
  running : Option (StoredClient crypto noise)

namespace Machine

variable {libraries : KeychainLibraries crypto} {password : Option String}

/-- What can happen: the client saves, or changes its devices, and a write may break off; its
runtime is used; the program ends, wherever it is; and it is started again. -/
inductive Step (libraries : KeychainLibraries crypto) (password : Option String) :
    Machine crypto noise → Machine crypto noise → Prop
  | save (dir : StorageDir) (client : StoredClient crypto noise) (saving : Saving crypto) :
      Step libraries password ⟨dir, some client⟩ ⟨(client.save saving dir).2, some client⟩
  | perform (dir : StorageDir) (client : StoredClient crypto noise)
      (mnemonic : libraries.words.Mnemonic) (editPassword : Option String)
      (env : ClientSurroundings crypto) (decoded : Decoded env.contact) (files : EditFiles)
      (edit : Client.Edit) : Step libraries password ⟨dir, some client⟩
        ⟨(client.perform libraries mnemonic editPassword env files edit dir).2.2,
          some (client.perform libraries mnemonic editPassword env files edit dir).2.1⟩
  | use (dir : StorageDir) (client : StoredClient crypto noise) (node : Node crypto noise)
      (used : client.node.Used node) :
      Step libraries password ⟨dir, some client⟩ ⟨dir, some { client with node }⟩
  | stop (dir : StorageDir) (client : StoredClient crypto noise) :
      Step libraries password ⟨dir, some client⟩ ⟨dir, none⟩
  | reopen (dir : StorageDir) (bound : Outcome SocketAddr) (client : StoredClient crypto noise)
      (opened : StoredClient.openDir libraries password bound dir = .ok client) :
      Step libraries password ⟨dir, none⟩ ⟨dir, some client⟩

/-- The files and the client, if one runs, are those that were made. -/
structure Keeps (libraries : KeychainLibraries crypto) (password : Option String)
    (origin : Origin crypto) (machine : Machine crypto noise) : Prop where
  stored : origin.Stored libraries password machine.dir
  runs : ∀ client ∈ machine.running, origin.Runs libraries client

theorem keeps_step {origin : Origin crypto} {before after : Machine crypto noise}
    (keeps : before.Keeps libraries password origin) (step : Step libraries password before after) :
    after.Keeps libraries password origin := by
  have running {dir : StorageDir} {client : StoredClient crypto noise}
      (stored : origin.Stored libraries password dir) (runs : origin.Runs libraries client) :
      Keeps libraries password origin ⟨dir, some client⟩ :=
    ⟨stored, fun other same => Option.some.inj same ▸ runs⟩
  cases step with
  | save dir client saving =>
    have runs := keeps.runs client rfl
    exact running (keeps.stored.save runs saving) runs
  | perform dir client mnemonic editPassword env decoded files edit =>
    obtain ⟨stored, runs⟩ := keeps.stored.perform (keeps.runs client rfl) mnemonic editPassword
      decoded files edit
    exact running stored runs
  | use dir client node used => exact running keeps.stored ((keeps.runs client rfl).use used)
  | stop dir client => exact ⟨keeps.stored, fun other same => by cases same⟩
  | reopen dir bound client opened => exact running keeps.stored (keeps.stored.runs_of_open opened)

/-- What is opened after the running client saves: always the first client. After a save that broke
off it has the list that was there, or the first of the devices of this one, and after one that came
through the whole list, and the tables if a file can hold them. -/
structure ReopensSaved (libraries : KeychainLibraries crypto) (password : Option String)
    (first client : StoredClient crypto noise) (dir : StorageDir) : Prop where
  broken (saving : Saving crypto) (bound : Outcome SocketAddr)
    (reopened : StoredClient crypto noise)
    (opened : StoredClient.openDir libraries password bound (client.save saving dir).2 =
      .ok reopened) : first.SameIdentity reopened ∧
        ((client.save saving dir).2 .deviceList = dir .deviceList ∨
          ∃ count, reopened.deviceList =
            { client.deviceList with devices := client.deviceList.devices.take count })
  whole (saving : Saving crypto) (after : StorageDir) (addr : SocketAddr)
    (saved : client.save saving dir = (.ok (), after)) :
    ∃ reopened : StoredClient crypto noise,
      StoredClient.openDir libraries password (.ok addr) after = .ok reopened ∧
        first.SameIdentity reopened ∧ reopened.deviceList = client.deviceList ∧
          (client.node.calls.Storable → client.node.calls.SamePeers reopened.node.calls)

/-- What is opened after an operation on devices that came through: the first client, with the list
that the operation has made. -/
def ReopensEdited (libraries : KeychainLibraries crypto) (password : Option String)
    (first client : StoredClient crypto noise) (dir : StorageDir) : Prop :=
  ∀ mnemonic editPassword env files edit operations edited after, Decoded env.contact →
    client.perform libraries mnemonic editPassword env files edit dir =
      (.ok operations, edited, after) →
    ∀ bound reopened, StoredClient.openDir libraries password bound after = .ok reopened →
      first.SameIdentity reopened ∧ reopened.deviceList = edited.deviceList

theorem reopensSaved {origin : Origin crypto} {first client : StoredClient crypto noise}
    {dir : StorageDir} (made : origin.Runs libraries first)
    (stored : origin.Stored libraries password dir) (runs : origin.Runs libraries client) :
    ReopensSaved libraries password first client dir where
  broken saving bound reopened opened :=
    ⟨StoredClient.sameIdentity_of_runs made ((stored.save runs saving).runs_of_open opened),
      StoredClient.deviceList_of_save opened⟩
  whole saving after addr saved := by
    have whole := StoredClient.saved_of_save saved
    obtain ⟨reopened, opened, listed, tables⟩ := runs.open_of_saved whole stored.keychain addr
    have same := (Origin.Stored.of_saved whole stored.keychain runs).runs_of_open opened
    exact ⟨reopened, opened, StoredClient.sameIdentity_of_runs made same, listed, tables⟩

theorem reopensEdited {origin : Origin crypto} {first client : StoredClient crypto noise}
    {dir : StorageDir} (made : origin.Runs libraries first)
    (stored : origin.Stored libraries password dir) (runs : origin.Runs libraries client) :
    ReopensEdited libraries password first client dir := by
  intro mnemonic editPassword env files edit operations edited after decoded performed bound
    reopened opened
  obtain ⟨still, _⟩ := stored.perform runs mnemonic editPassword decoded files edit
  rw [performed] at still
  exact ⟨StoredClient.sameIdentity_of_runs made (still.runs_of_open opened),
    StoredClient.deviceList_of_open opened (StoredClient.perform_writes performed)⟩

/-- However the client was used and its writes broke off, what is opened is the client that was
made, and opening ends the program exactly if the certificate file was cut off. -/
theorem reopens (keeps : DeviceKeychain.KeepsKeychains libraries)
    (short : ∀ pw ∈ password, (utf8 pw).length < 2 ^ 32) {first : StoredClient crypto noise}
    {start : StorageDir} (founds : first.Founds libraries password start)
    {last : Machine crypto noise}
    (run : Relation.ReflTransGen (Step libraries password) ⟨start, some first⟩ last) :
    (∀ bound client, StoredClient.openDir libraries password bound last.dir = .ok client →
        first.SameIdentity client) ∧
      (∀ bound : Outcome SocketAddr, ¬ bound.Panics →
        ((StoredClient.openDir libraries password bound last.dir :
            Outcome (StoredClient crypto noise)).Panics ↔
          ∃ held, last.dir .deviceCert = some held ∧ held.length < 128)) ∧
      ∀ client, last.running = some client → first.SameIdentity client ∧
        ReopensSaved libraries password first client last.dir ∧
          ReopensEdited libraries password first client last.dir := by
  obtain ⟨origin, stored, made⟩ := founds.origin keeps short
  have begun : Keeps libraries password origin ⟨start, some first⟩ :=
    ⟨stored, fun other same => Option.some.inj same ▸ made⟩
  have stays (before after : Machine crypto noise) (kept : before.Keeps libraries password origin)
      (step : Step libraries password before after) : after.Keeps libraries password origin :=
    keeps_step kept step
  have kept : last.Keeps libraries password origin := Run.preserves stays begun run
  refine ⟨fun bound client opened => ?_, fun bound binds => kept.stored.panics_open_iff binds,
    fun client running => ?_⟩
  · exact StoredClient.sameIdentity_of_runs made (kept.stored.runs_of_open opened)
  · have runs := kept.runs client running
    exact ⟨StoredClient.sameIdentity_of_runs made runs, reopensSaved made kept.stored runs,
      reopensEdited made kept.stored runs⟩

/-! ### A certificate that is cut off -/

/-- A save that comes through, or whose certificate breaks off. -/
def sampleSaving (deviceCert : WriteFate) : Saving SampleSuite.keyedSuite where
  keysOrder := default
  addrsOrder := default
  ourPk := .whole
  deviceCert := deviceCert
  registry := .whole
  deviceList := .whole
  peerState := .whole

def sampleFounding : Setup SampleSuite.keyedSuite where
  dirCreated := .ok ()
  keychainSaved := .ok ()
  bound := .ok LookupTrace.sampleAddr
  joined _ := .ok ()
  contact := .error (.error "no contact record found")
  closest := .ok []
  saved := .ok ()

def sampleSetupFiles : SetupFiles SampleSuite.keyedSuite where
  salt := Octets.zero 32
  nonce := Octets.zero 12
  keychain := .whole
  saving := sampleSaving .whole

def sampleFounded :
    Outcome (StoredClient SampleSuite.keyedSuite SampleSuite.noise × Unit) × StorageDir :=
  StoredClient.create DeviceKeychain.sampleLibraries () (some "open") sampleFounding
    sampleSetupFiles fun _ => none

theorem sampleFounded_isSome : sampleFounded.1.toOption.isSome = true := by decide +kernel

theorem sampleLibraries_keepsKeychains :
    DeviceKeychain.KeepsKeychains DeviceKeychain.sampleLibraries where
  returns _ := rfl
  accepts _ _ short := ⟨_, if_pos short⟩
  seals := by
    intro key nonce plaintext _
    refine ⟨_, rfl, ?_⟩
    rw [List.length_append, SampleSuite.length_keyed]
    omega
  opens := SampleSuite.keyed_opensSealed

/-- The lookup of a contact that nobody answers. -/
def sampleSearch : Search :=
  .findValue (.new (LookupTrace.sampleNode 0)) LookupTrace.sampleTable []
    (LookupTrace.sampleNode 1).id [⟨[], 0, fun _ => 0⟩, ⟨[], 0, fun _ => 0⟩]

def sampleEditing : ClientSurroundings SampleSuite.keyedSuite where
  keychainSaved := .ok ()
  contact := .error (.error "no contact record found")
  closest := .ok [(LookupTrace.sampleNode 1, LookupTrace.sampleAddr)]
  listSaved := .ok ()

theorem sampleEditing_decoded : Decoded sampleEditing.contact :=
  Search.decoded_contact
    (show sampleSearch.contact SampleSuite.keyedSuite = some sampleEditing.contact by
      decide +kernel)

/-- A client revokes its only device, and saves nothing else. -/
def sampleRevoking (client : StoredClient SampleSuite.keyedSuite SampleSuite.noise)
    (dir : StorageDir) :
    Outcome (List (DhtOperation × SocketAddr)) ×
      StoredClient SampleSuite.keyedSuite SampleSuite.noise × StorageDir :=
  client.perform DeviceKeychain.sampleLibraries () none sampleEditing ⟨Octets.zero 32,
    Octets.zero 12, .whole, .whole⟩ (.revoke 0) dir

def sampleReopened (dir : StorageDir) :
    Outcome (StoredClient SampleSuite.keyedSuite SampleSuite.noise) :=
  StoredClient.openDir DeviceKeychain.sampleLibraries (some "open") (.ok LookupTrace.sampleAddr) dir

/-- The directory after a save that broke off in the certificate, and after one more save. -/
def sampleBroken (first : StoredClient SampleSuite.keyedSuite SampleSuite.noise)
    (start : StorageDir) : StorageDir :=
  (first.save (sampleSaving (.torn 100 "disk full")) start).2

def sampleMended (first : StoredClient SampleSuite.keyedSuite SampleSuite.noise)
    (start : StorageDir) : StorageDir :=
  (first.save (sampleSaving .whole) (sampleBroken first start)).2

theorem sampleMended_revokes : sampleFounded.1.toOption.any (fun (first, _) =>
    let revoked := sampleRevoking first (sampleMended first sampleFounded.2)
    revoked.1.toOption.isSome && (sampleReopened revoked.2.2).toOption.isSome) = true := by
  decide +kernel

/-- A client is made under a password, and the next save breaks off in the certificate. Were the
program started again, it would panic; after one more save it finds the client. And when the device
has been revoked, it finds the client with the list that says so. -/
theorem sampleFounded_reopens : ∃ (first : StoredClient SampleSuite.keyedSuite SampleSuite.noise)
    (start : StorageDir),
    (sampleReopened (sampleBroken first start)).Panics ∧
      (∃ reopened, sampleReopened (sampleMended first start) = .ok reopened ∧
        first.SameIdentity reopened) ∧
          ∃ operations edited after reopened,
            sampleRevoking first (sampleMended first start) = (.ok operations, edited, after) ∧
              sampleReopened after = .ok reopened ∧ first.SameIdentity reopened ∧
                reopened.deviceList = edited.deviceList := by
  have created := sampleFounded_isSome
  have revokes := sampleMended_revokes
  rcases made : sampleFounded with ⟨outcome, start⟩
  rw [made] at created revokes
  obtain ⟨⟨first, mnemonic⟩, rfl⟩ := Outcome.returns_iff_isSome.mpr created
  have founds : first.Founds DeviceKeychain.sampleLibraries (some "open") start := by
    rw [sampleFounded] at made
    exact .new _ _ _ _ _ _ _ made
  have saved : Relation.ReflTransGen (Step DeviceKeychain.sampleLibraries (some "open"))
      ⟨start, some first⟩ ⟨sampleBroken first start, some first⟩ :=
    .single (.save start first (sampleSaving (.torn 100 "disk full")))
  obtain ⟨_, panics, runs⟩ := reopens sampleLibraries_keepsKeychains (by decide +kernel) founds
    saved
  obtain ⟨_, saves, _⟩ := runs first rfl
  refine ⟨first, start, ?_, ?_, ?_⟩
  · refine (panics (.ok LookupTrace.sampleAddr) (Outcome.not_panics_ok _)).mpr
      ⟨first.deviceCert.serialize.take 100, ?_, ?_⟩
    · simp [sampleBroken, StoredClient.save, StoredClient.files, sampleSaving, Files.writeAll,
        Files.write, fsWrite, Function.update]
    · rw [List.length_take]
      omega
  · obtain ⟨reopened, opened, same, _⟩ := saves.whole (sampleSaving .whole) _
      LookupTrace.sampleAddr (Prod.ext rfl rfl)
    exact ⟨reopened, opened, same⟩
  · obtain ⟨_, _, mended⟩ := reopens sampleLibraries_keepsKeychains (by decide +kernel) founds
      (saved.tail (.save (sampleBroken first start) first (sampleSaving .whole)))
    obtain ⟨_, _, edits⟩ := mended first rfl
    rw [Except.toOption, Option.any_some] at revokes
    dsimp only at revokes
    rcases revoked : sampleRevoking first (sampleMended first start) with ⟨outcome, edited, after⟩
    rw [revoked, Bool.and_eq_true] at revokes
    obtain ⟨operations, rfl⟩ := Outcome.returns_iff_isSome.mpr revokes.1
    obtain ⟨reopened, opened⟩ := Outcome.returns_iff_isSome.mpr revokes.2
    obtain ⟨same, listed⟩ := edits () none sampleEditing _ (.revoke 0) operations edited after
      sampleEditing_decoded revoked (.ok LookupTrace.sampleAddr) reopened opened
    exact ⟨operations, edited, after, reopened, rfl, opened, same, listed⟩

end Machine

end Insub
