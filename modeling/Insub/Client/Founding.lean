/-
This file follows a client from its making on: `new` and `from_mnemonic` put it together and save
it, and from then on its runtime is used, which changes neither the device nor the identity. The
device lists that it finds and makes are never longer than what is read back.
-/

import Mathlib
import Insub.Client.Fragments
import Insub.Runtime.Fatal

namespace Insub

open Rust

variable {crypto : Primitives} {noise : Noise}

/-! ### The runtime -/

namespace Runtime

variable {runtime : Runtime crypto noise}

theorem loadPeerState_frame (runtime : Runtime crypto noise) (data : Bytes) :
    ∃ peerKeys pkToAddr, (runtime.loadPeerState data).2 = { runtime with peerKeys, pkToAddr } := by
  let framed (last : Runtime crypto noise) : Prop :=
    ∃ peerKeys pkToAddr, last = { runtime with peerKeys, pkToAddr }
  exact Outcome.orReturn_state framed ⟨_, _, rfl⟩ fun tables _ => ⟨_, _, rfl⟩

theorem tickHandshake_deviceX25519Priv (packet : Packet) (sender : SocketAddr)
    (draws : RuntimeDraws) : (runtime.tickHandshake packet sender draws).2.deviceX25519Priv =
      runtime.deviceX25519Priv := by
  obtain ⟨pendingSessions, peerKeys, completed⟩ :=
    completePending_frame runtime packet sender draws
  rw [tickHandshake]
  rcases run : runtime.completePending packet sender draws with
    ⟨fault | _ | ⟨connId, peerPk⟩, after⟩
  all_goals
    rw [run] at completed
    obtain rfl := completed
    dsimp only
  · split
    · rfl
    · obtain ⟨_, _, _, _, _, _, responded⟩ :=
        respond_frame { runtime with pendingSessions, peerKeys } packet sender draws
      rw [responded]
  · split
    · rfl
    · rfl

/-- A file can hold the tables: each takes fewer than 2^32 bytes, and the addresses are ones that
are read back. -/
structure Storable (runtime : Runtime crypto noise) : Prop where
  plainKeys : ∀ addr vk, runtime.peerKeys.lookup addr = some vk → addr.IsPlain
  plainAddrs : ∀ pk addr, runtime.pkToAddr.lookup pk = some addr → addr.IsPlain
  shortKeys : Storage.tableSize runtime.peerKeys.keys < 2 ^ 32
  shortAddrs : Storage.tableSize (runtime.pkToAddr.entries.map Sigma.snd) < 2 ^ 32

/-- The tables are the same, whichever order they are in. -/
structure SamePeers (before after : Runtime crypto noise) : Prop where
  peerKeys (addr : SocketAddr) : after.peerKeys.lookup addr = before.peerKeys.lookup addr
  pkToAddr (pk : Key) : after.pkToAddr.lookup pk = before.pkToAddr.lookup pk

theorem Storable.restores (storable : runtime.Storable) (loading : Runtime crypto noise)
    (keysOrder : IterationOrder (Sigma fun _ : SocketAddr => VerifyingKey crypto))
    (addrsOrder : IterationOrder (Sigma fun _ : Key => SocketAddr)) :
    Restores (loading.loadPeerState (runtime.savePeerState keysOrder addrsOrder)) runtime := by
  refine restores_of_short storable.plainKeys storable.plainAddrs ?_ ?_
  · rw [Storage.length_serializePeerKeys]
    exact storable.shortKeys
  · rw [Storage.length_serializePkToAddr]
    exact storable.shortAddrs

end Runtime

namespace Node

variable {node : Node crypto noise}

theorem callDevices_deviceX25519Priv (user : UserID crypto)
    (devices : List (DeviceCertificate crypto × HandshakeTag × RuntimeDraws)) :
    (callDevices user devices node).2.calls.deviceX25519Priv = node.calls.deviceX25519Priv := by
  induction devices generalizing node with
  | nil => rfl
  | cons item rest inductionHypothesis =>
    obtain ⟨device, tag, draws⟩ := item
    obtain ⟨_, enables⟩ :=
      node.calls.enableSessionInitiator_frame device.deviceX25519Pubkey user tag
    rw [callDevices]
    rcases enabled : node.calls.enableSessionInitiator device.deviceX25519Pubkey user tag with
      ⟨fault | tag, calls⟩
    all_goals
      rw [enabled] at enables
      obtain rfl := enables
    · rfl
    dsimp only
    obtain ⟨_, initiates⟩ := Runtime.initiateHandshake_frame { node.calls with
      pendingSessions := _ } tag draws
    rcases initiated : Runtime.initiateHandshake _ tag draws with ⟨fault | effects, calls⟩
    all_goals
      rw [initiated] at initiates
      obtain rfl := initiates
    · rfl
    · exact inductionHypothesis

theorem tickHandshake_deviceX25519Priv (draws : RuntimeDraws) :
    (node.tickHandshake draws).2.calls.deviceX25519Priv = node.calls.deviceX25519Priv := by
  rw [tickHandshake]
  cases node.handshakePile with
  | nil => rfl
  | cons item handshakePile =>
    obtain ⟨packet, sender⟩ := item
    have kept := node.calls.tickHandshake_deviceX25519Priv packet sender draws
    dsimp only
    rcases run : node.calls.tickHandshake packet sender draws with ⟨fault | effects, calls⟩
    all_goals
      rw [run] at kept
      exact kept

theorem tickMessage_deviceX25519Priv (env : Surroundings) (now : Instant) :
    (node.tickMessage env now).2.calls.deviceX25519Priv = node.calls.deviceX25519Priv := by
  rw [tickMessage]
  cases node.messagePile with
  | nil => rfl
  | cons item messagePile =>
    obtain ⟨packet, sender⟩ := item
    obtain ⟨_, _, _, _, frame⟩ := node.calls.tickMessage_frame packet sender env now
    dsimp only
    rcases run : node.calls.tickMessage packet sender env now with ⟨fault | effects, calls⟩
    all_goals
      rw [run] at frame
      obtain rfl := frame
      rfl

theorem tick_deviceX25519Priv (draws : TickDraws) :
    (node.tick draws).2.calls.deviceX25519Priv = node.calls.deviceX25519Priv := by
  have served := node.calls_tickServer draws
  rw [tick]
  rcases run : node.tickServer draws with ⟨fault | _, server⟩
  all_goals rw [run] at served
  · exact congrArg Runtime.deviceX25519Priv served
  have shaken := server.tickRelay.tickHandshake_deviceX25519Priv draws.handshake
  rw [calls_tickRelay, served] at shaken
  dsimp only
  rcases run : server.tickRelay.tickHandshake draws.handshake with ⟨fault | _, after⟩
  all_goals rw [run] at shaken
  · exact shaken
  · exact (after.tickMessage_deviceX25519Priv draws.env draws.now).trans shaken

/-- Nothing that happens to a node changes the key of its device. -/
theorem deviceX25519Priv_step {before after : Node crypto noise} (step : Step before after) :
    after.calls.deviceX25519Priv = before.calls.deviceX25519Priv := by
  cases step with
  | arrive packet sender =>
    rw [arrive]
    split
    all_goals rfl
  | tick _ draws returned =>
    have kept := before.tick_deviceX25519Priv draws
    rw [returned] at kept
    exact kept
  | send msg peerPk key nonce draws =>
    obtain ⟨sessions, frame⟩ := before.calls.sendMessage_frame msg peerPk key nonce draws
    rw [sendMessage]
    rcases run : before.calls.sendMessage msg peerPk key nonce draws with ⟨outcome, outgoing, calls⟩
    rw [run] at frame
    dsimp only at frame
    rw [frame]
    rfl
  | contact pk record draws =>
    rw [contact]
    cases UserID.ofBytes crypto pk with
    | none => rfl
    | some user => exact callDevices_deviceX25519Priv user _
  | poll => rfl
  | configure => rfl
  | search => rfl

/-- What the client does with its runtime once it has set it up. It does not set it up again. -/
structure Used (before after : Node crypto noise) : Prop where
  step : Step before after
  masterPubkey : after.calls.masterPubkey = before.calls.masterPubkey
  deviceCert : after.calls.deviceCert = before.calls.deviceCert

/-- However long it is used, a runtime keeps the device and the identity. -/
theorem kept_of_used {before after : Node crypto noise}
    (used : Relation.ReflTransGen Used before after) :
    after.calls.deviceX25519Priv = before.calls.deviceX25519Priv ∧
      after.calls.masterPubkey = before.calls.masterPubkey ∧
        after.calls.deviceCert = before.calls.deviceCert := by
  induction used with
  | refl => exact ⟨rfl, rfl, rfl⟩
  | tail _ last inductionHypothesis =>
    obtain ⟨deviceX25519Priv, masterPubkey, deviceCert⟩ := inductionHypothesis
    exact ⟨(deviceX25519Priv_step last.step).trans deviceX25519Priv,
      last.masterPubkey.trans masterPubkey, last.deviceCert.trans deviceCert⟩

end Node

/-! ### Lists that are short enough -/

/-- What is found, if anything is, was read off the bytes of a record. -/
def Decoded (found : Outcome (ContactRecord crypto)) : Prop :=
  ∀ contact, found = .ok contact → ∃ data, readContact crypto data = .ok contact

/-- `find_contact` returns nothing else. -/
theorem Search.decoded_contact {search : Search} {found : Outcome (ContactRecord crypto)}
    (returned : search.contact crypto = some found) : Decoded found := by
  rintro contact rfl
  obtain ⟨value, _, _, read⟩ := contact_eq_ok_iff.mp returned
  exact ⟨value, read⟩

/-- The list of a contact record is one that was read. -/
theorem ContactRecord.listed_of_fromSerialized {bytes : Bytes} {contact : ContactRecord crypto}
    (read : fromSerialized bytes = .ok contact) :
    ∃ listBytes, DeviceList.fromSerialized listBytes = .ok contact.deviceList := by
  rw [fromSerialized] at read
  split at read
  · cases read
  obtain ⟨_, _, read⟩ := Outcome.bind_eq_ok_iff.mp read
  dsimp only at read
  split at read
  · cases read
  obtain ⟨listBytes, _, read⟩ := Outcome.bind_eq_ok_iff.mp read
  obtain ⟨deviceList, listed, read⟩ := Outcome.bind_eq_ok_iff.mp read
  obtain ⟨⟨relayAddr, relayStart⟩, _, read⟩ := Outcome.bind_eq_ok_iff.mp read
  dsimp only at read
  split at read
  · cases read
  obtain ⟨_, _, read⟩ := Outcome.bind_eq_ok_iff.mp read
  obtain ⟨_, _, read⟩ := Outcome.bind_eq_ok_iff.mp read
  rw [← Except.ok.inj read]
  exact ⟨listBytes.toList, Outcome.inContext_eq_ok_iff.mp listed⟩

theorem Decoded.few {found : Outcome (ContactRecord crypto)} (decoded : Decoded found)
    {contact : ContactRecord crypto} (returned : found = .ok contact) :
    contact.deviceList.devices.length ≤ DeviceList.maxDevices := by
  obtain ⟨data, read⟩ := decoded contact returned
  obtain ⟨record, -, read⟩ := Outcome.bind_eq_ok_iff.mp read
  split at read
  · cases read
  obtain ⟨parsed, fromBytes, read⟩ := Outcome.bind_eq_ok_iff.mp read
  split at read
  · obtain ⟨listBytes, listed⟩ := ContactRecord.listed_of_fromSerialized fromBytes
    rw [← Except.ok.inj read]
    exact DeviceList.few_of_fromSerialized listed
  · cases read

theorem DeviceList.few_of_addDevice {list after : DeviceList crypto} {master : MasterKeyPair crypto}
    {newCert : DeviceCertificate crypto} (added : list.addDevice master newCert = (.ok (), after)) :
    after.devices.length ≤ maxDevices := by
  obtain ⟨room, devices, -⟩ := addDevice_ok added
  rw [devices, List.length_append, List.length_singleton]
  exact room

theorem few_of_fromMnemonicList {found : Outcome (ContactRecord crypto)} (decoded : Decoded found)
    {master : MasterKeyPair crypto} {cert : DeviceCertificate crypto} {list : DeviceList crypto}
    (published : fromMnemonicList found master cert = .ok list) :
    list.devices.length ≤ DeviceList.maxDevices := by
  obtain ⟨latest, asked, published⟩ := Outcome.bind_eq_ok_iff.mp published
  have extended (start : DeviceList crypto) (few : start.devices.length ≤ DeviceList.maxDevices)
      (taken : (if start.containsActive cert.deviceEd25519Pubkey = true then .ok start
        else (((start.addDevice master cert).1).inContext "failed to add device").map
          fun _ => (start.addDevice master cert).2) = .ok list) :
      list.devices.length ≤ DeviceList.maxDevices := by
    split at taken
    · rw [← Except.ok.inj taken]
      exact few
    · obtain ⟨_, succeeded, rfl⟩ := Outcome.map_eq_ok_iff.mp taken
      exact DeviceList.few_of_addDevice
        (Prod.ext (Outcome.inContext_eq_ok_iff.mp succeeded) rfl)
  cases latest with
  | none => exact extended (DeviceList.new master) (Nat.zero_le _) published
  | some contact =>
    exact extended contact.deviceList (decoded.few (Outcome.asOption_eq_ok_some_iff.mp asked))
      published

namespace Client

/-- All that an operation changes is the list. -/
theorem publish_frame {client after : Client crypto} {list : DeviceList crypto}
    {env : ClientSurroundings crypto} {operations : List (DhtOperation × SocketAddr)}
    (published : client.publish list env = (.ok operations, after)) :
    after.rt = client.rt ∧ after.ourPk = client.ourPk := by
  obtain ⟨sequence, _, published⟩ := Outcome.orReturn_eq_ok_iff.mp published
  obtain ⟨stored, _, published⟩ := Outcome.orReturn_eq_ok_iff.mp published
  rw [← (Prod.mk.inj published).2]
  exact ⟨rfl, rfl⟩

theorem few_of_perform {words : Mnemonics crypto} {mnemonic : words.Mnemonic}
    {password : Option String} {client after : Client crypto} {env : ClientSurroundings crypto}
    {edit : Edit} {operations : List (DhtOperation × SocketAddr)}
    (performed : client.perform words mnemonic password env edit = (.ok operations, after))
    (few : client.deviceList.devices.length ≤ DeviceList.maxDevices)
    (decoded : Decoded env.contact) :
    after.deviceList.devices.length ≤ DeviceList.maxDevices := by
  obtain ⟨_, list, next, latest, edits, published⟩ := perform_ok performed
  obtain ⟨sequence, _, kept, _⟩ := publish_ok published
  have short : list.devices.length ≤ DeviceList.maxDevices := by
    obtain ⟨found, asked, rfl⟩ := Outcome.map_eq_ok_iff.mp latest
    cases found with
    | none => exact few
    | some contact => exact decoded.few (Outcome.asOption_eq_ok_some_iff.mp asked)
  have same : after.deviceList.devices = next.devices := by rw [kept]
  rw [same]
  cases edit with
  | add =>
    obtain ⟨key, _, ⟨_, rfl⟩ | ⟨_, added⟩⟩ := edits
    · exact short
    · exact DeviceList.few_of_addDevice added
  | revoke index =>
    obtain ⟨device, _, removed⟩ := edits
    obtain ⟨position, _, devices, -⟩ := DeviceList.removeDevice_ok removed
    rw [devices]
    exact (List.length_eraseIdx_le _ _).trans short

end Client

/-! ### The first client -/

namespace StoredClient

variable {libraries : KeychainLibraries crypto} {password : Option String}

theorem startNode_calls (node : Node crypto noise) (registry : RelayRegistry) (dir : StorageDir) :
    ∃ peerKeys pkToAddr, (startNode node registry dir).calls =
      { node.calls with peerKeys, pkToAddr } := by
  rw [startNode]
  cases dir .peerState with
  | none => exact ⟨_, _, rfl⟩
  | some data => exact node.calls.loadPeerState_frame data

/-- How a client comes to a directory: it is made there, or restored from its mnemonic. -/
inductive Founds (libraries : KeychainLibraries crypto) (password : Option String) :
    StoredClient crypto noise → StorageDir → Prop
  | new (generated mnemonic : libraries.words.Mnemonic) (env : Setup crypto)
      (files : SetupFiles crypto) (before after : StorageDir) (client : StoredClient crypto noise)
      (created : create libraries generated password env files before =
        (.ok (client, mnemonic), after)) : Founds libraries password client after
  | fromMnemonic (mnemonic : libraries.words.Mnemonic) (env : Setup crypto)
      (calls : Node crypto noise → Node crypto noise) (files : SetupFiles crypto)
      (before after : StorageDir) (client : StoredClient crypto noise)
      (decoded : Decoded env.contact)
      (used : ∀ node, Relation.ReflTransGen Node.Used node (calls node))
      (restored : restore libraries mnemonic password env calls files before =
        (.ok client, after)) : Founds libraries password client after

/-- How both ways end: the client has its parts, and was saved. -/
theorem settle_ok {client : Client crypto} {cert : DeviceCertificate crypto} {entry : RelayEntry}
    {node : Node crypto noise} {saving : Saving crypto} {before after : StorageDir}
    {stored : StoredClient crypto noise}
    (settled : settle client cert entry node saving before = (.ok stored, after)) :
    stored = { client with
      deviceCert := cert
      registry := RelayRegistry.new.add entry
      node := startNode node (RelayRegistry.new.add entry) before } ∧
        stored.save saving before = (.ok (), after) := by
  rw [settle] at settled
  dsimp only at settled
  obtain ⟨succeeded, left⟩ := Prod.mk.inj settled
  obtain ⟨_, saved, rfl⟩ := Outcome.map_eq_ok_iff.mp succeeded
  exact ⟨rfl, Prod.ext saved left⟩

/-- What a client that was made has gone through. -/
theorem create_ok {generated mnemonic : libraries.words.Mnemonic} {env : Setup crypto}
    {files : SetupFiles crypto} {before after : StorageDir} {client : StoredClient crypto noise}
    (created : create libraries generated password env files before =
      (.ok (client, mnemonic), after)) :
    let master := MasterKeyPair.fromMnemonic libraries.words generated none
    let keychain := DeviceKeychain.fromMnemonic libraries generated password
    ∃ middle key deviceList addr entry, env.dirCreated = .ok () ∧
      keychain.save libraries .keychain password files.salt files.nonce files.keychain before =
        (.ok (), middle) ∧
      VerifyingKey.fromBytes crypto keychain.deviceEd25519Pub = some key ∧
      (DeviceList.new master).addDevice master (.new master key keychain.deviceX25519Pub) =
        (.ok (), deviceList) ∧
      env.bound = .ok addr ∧
      RelayEntry.new crypto (deriveId crypto master.publicKey.bytes) master.publicKey.bytes addr =
        .ok entry ∧
      settle ⟨Client.runtime master.publicKey.bytes addr
          (libraries.words.signingKey keychain.deviceEd25519Priv), master.publicKey.bytes,
            deviceList⟩ (.new master key keychain.deviceX25519Pub) entry
        (bindNode master.publicKey.bytes (.new master key keychain.deviceX25519Pub)
          keychain.deviceX25519Priv addr) files.saving middle = (.ok client, after) ∧
      mnemonic = generated := by
  intro master keychain
  obtain ⟨_, dirCreated, created⟩ := Outcome.orReturn_eq_ok_iff.mp created
  dsimp only [MasterKeyPair.new] at created
  rcases saving : keychain.save libraries .keychain password files.salt files.nonce files.keychain
    before with ⟨saved, middle⟩
  rw [saving] at created
  dsimp only at created
  obtain ⟨_, written, created⟩ := Outcome.orReturn_eq_ok_iff.mp created
  obtain ⟨key, parsed, created⟩ := Outcome.orReturn_eq_ok_iff.mp created
  rcases adding : (DeviceList.new master).addDevice master
    (.new master key keychain.deviceX25519Pub) with ⟨added, deviceList⟩
  rw [adding] at created
  dsimp only at created
  obtain ⟨_, succeeded, created⟩ := Outcome.orReturn_eq_ok_iff.mp created
  obtain ⟨addr, bound, created⟩ := Outcome.orReturn_eq_ok_iff.mp created
  obtain ⟨entry, entered, created⟩ := Outcome.orReturn_eq_ok_iff.mp created
  obtain ⟨mapped, left⟩ := Prod.mk.inj created
  obtain ⟨stored, settled, same⟩ := Outcome.map_eq_ok_iff.mp mapped
  obtain ⟨rfl, rfl⟩ := Prod.mk.inj same
  rw [Outcome.inContext_eq_ok_iff] at succeeded entered
  rw [succeeded] at adding
  exact ⟨middle, key, deviceList, addr, entry, dirCreated, Prod.ext written rfl,
    unwrap_eq_ok_iff.mp parsed, adding, bound, entered, Prod.ext settled left, rfl⟩

/-- What a client that was restored has gone through. -/
theorem restore_ok {mnemonic : libraries.words.Mnemonic} {env : Setup crypto}
    {calls : Node crypto noise → Node crypto noise} {files : SetupFiles crypto}
    {before after : StorageDir} {client : StoredClient crypto noise}
    (restored : restore libraries mnemonic password env calls files before = (.ok client, after)) :
    let master := MasterKeyPair.fromMnemonic libraries.words mnemonic password
    let keychain := DeviceKeychain.fromMnemonic libraries mnemonic password
    ∃ middle key deviceList addr entry operations, env.dirCreated = .ok () ∧
      keychain.save libraries .keychain password files.salt files.nonce files.keychain before =
        (.ok (), middle) ∧
      VerifyingKey.fromBytes crypto keychain.deviceEd25519Pub = some key ∧
      env.bound = .ok addr ∧ Setup.join env.joined 4 0 = .ok () ∧
      fromMnemonicList env.contact master (.new master key keychain.deviceX25519Pub) =
        .ok deviceList ∧
      (Client.runtime master.publicKey.bytes addr
        (libraries.words.signingKey keychain.deviceEd25519Priv)).publishContact deviceList addr
          (deriveId crypto master.publicKey.bytes) 3600 env.closest = .ok operations ∧
      RelayEntry.new crypto (deriveId crypto master.publicKey.bytes) master.publicKey.bytes addr =
        .ok entry ∧
      settle ⟨Client.runtime master.publicKey.bytes addr
          (libraries.words.signingKey keychain.deviceEd25519Priv), master.publicKey.bytes,
            deviceList⟩ (.new master key keychain.deviceX25519Pub) entry
        (calls (bindNode master.publicKey.bytes (.new master key keychain.deviceX25519Pub)
          keychain.deviceX25519Priv addr)) files.saving middle = (.ok client, after) := by
  intro master keychain
  obtain ⟨_, dirCreated, restored⟩ := Outcome.orReturn_eq_ok_iff.mp restored
  dsimp only at restored
  rcases saving : keychain.save libraries .keychain password files.salt files.nonce files.keychain
    before with ⟨saved, middle⟩
  rw [saving] at restored
  dsimp only at restored
  obtain ⟨_, written, restored⟩ := Outcome.orReturn_eq_ok_iff.mp restored
  obtain ⟨key, parsed, restored⟩ := Outcome.orReturn_eq_ok_iff.mp restored
  obtain ⟨addr, bound, restored⟩ := Outcome.orReturn_eq_ok_iff.mp restored
  obtain ⟨_, joined, restored⟩ := Outcome.orReturn_eq_ok_iff.mp restored
  obtain ⟨deviceList, listed, restored⟩ := Outcome.orReturn_eq_ok_iff.mp restored
  obtain ⟨operations, published, restored⟩ := Outcome.orReturn_eq_ok_iff.mp restored
  obtain ⟨entry, entered, settled⟩ := Outcome.orReturn_eq_ok_iff.mp restored
  rw [Outcome.inContext_eq_ok_iff] at entered
  exact ⟨middle, key, deviceList, addr, entry, operations, dirCreated, Prod.ext written rfl,
    unwrap_eq_ok_iff.mp parsed, bound, joined, listed, published, entered, settled⟩

/-- Without its files, the client is one of those that the functions make when every write comes
through. -/
theorem Founds.refines
    (returns : ∀ secret, libraries.toBytes (libraries.words.signingKey secret) = secret)
    {client : StoredClient crypto noise} {dir : StorageDir}
    (founds : Founds libraries password client dir) :
    (∃ generated env, Client.new libraries.words generated password env =
        .ok (client.toClient, generated)) ∨
      ∃ mnemonic env, Client.fromMnemonic libraries.words mnemonic password env =
        .ok client.toClient := by
  have signs (mnemonic : libraries.words.Mnemonic) :
      libraries.words.signingKey (DeviceKeychain.fromMnemonic libraries mnemonic
        password).deviceEd25519Priv =
          Keychain.deviceEd25519Priv libraries.words mnemonic password := by
    rw [DeviceKeychain.fromMnemonic, returns]
    rfl
  cases founds with
  | new generated mnemonic env files before _ _ created =>
    obtain ⟨_, key, _, addr, entry, dirCreated, _, parsed, added, bound, entered, settled, _⟩ :=
      create_ok created
    obtain ⟨rfl, _⟩ := settle_ok settled
    refine Or.inl ⟨generated, { env with keychainSaved := .ok (), saved := .ok () }, ?_⟩
    have parses : VerifyingKey.fromBytes crypto
        (Keychain.fromMnemonic libraries.words generated password).deviceEd25519Pub = some key :=
      parsed
    have adds : (DeviceList.new (MasterKeyPair.fromMnemonic libraries.words generated
        none)).addDevice _ (.new _ key (Keychain.fromMnemonic libraries.words generated
          password).deviceX25519Pub) = _ := added
    simp only [Client.new, MasterKeyPair.new, dirCreated, Outcome.bind_ok, parses, unwrap, adds,
      Outcome.inContext, bound, entered, signs]
  | fromMnemonic mnemonic env calls files before _ _ decoded used restored =>
    obtain ⟨_, key, _, addr, entry, operations, dirCreated, _, parsed, bound, joined, listed,
      published, entered, settled⟩ := restore_ok restored
    obtain ⟨rfl, _⟩ := settle_ok settled
    refine Or.inr ⟨mnemonic, { env with keychainSaved := .ok (), saved := .ok () }, ?_⟩
    have parses : VerifyingKey.fromBytes crypto
        (Keychain.fromMnemonic libraries.words mnemonic password).deviceEd25519Pub = some key :=
      parsed
    have lists : fromMnemonicList env.contact _ (.new _ key (Keychain.fromMnemonic libraries.words
        mnemonic password).deviceX25519Pub) = _ := listed
    rw [signs] at published
    simp only [Client.fromMnemonic, dirCreated, Outcome.bind_ok, parses, unwrap, bound, joined,
      lists, published, Outcome.inContext, entered, signs]

end StoredClient

end Insub
