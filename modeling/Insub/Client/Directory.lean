/-
This file models the directory in which `api.rs` stores a client, and the three ways to a client
that has one: `new` makes an identity, `from_mnemonic` restores one, and both write the directory;
`open` reads it. The writes are those of `save`, one file after the other, and of the operations on
devices, and any of them may fail and leave its file cut off. What the functions do besides is
modelled elsewhere: here their outcomes are put together with what they write.
-/

import Mathlib
import Insub.Client.Recovery
import Insub.Identity.KeychainFile
import Insub.Library.Files
import Insub.Network.RegistryCodec
import Insub.Runtime.Node
import Insub.Runtime.Storage

namespace Insub

open Rust

variable {crypto : Primitives} {noise : Noise}

/-- The files of a storage directory. -/
inductive FileName
  | keychain
  | keychainOf (index : Nat)
  | ourPk
  | deviceCert
  | registry
  | deviceList
  | peerState
  deriving DecidableEq

abbrev StorageDir := Files FileName

/-- `fs::write`, with what stands in front of the reason when it fails. -/
def fsWrite (name : FileName) (bytes : Bytes) (context : String) (fate : WriteFate) :
    FileWrite FileName where
  name := name
  bytes := bytes
  onCreate := context
  onWrite := context
  fate := fate

/-- `bytes.try_into()`, to an array of the given length. -/
def toOctets (length : Nat) (bytes : Bytes) : Option (Octets length) :=
  if whole : bytes.length = length then some ⟨bytes, whole⟩ else none

/-! ### Single files -/

def DeviceCertificate.openFile (dir : StorageDir) : Outcome (DeviceCertificate crypto) := do
  let data ← (dir.read .deviceCert).inContext "failed to read device certificate"
  fromSerialized data

def RelayRegistry.openFile (crypto : Primitives) (dir : StorageDir) : Outcome RelayRegistry := do
  let data ← (dir.read .registry).inContext "failed to read relay registry"
  fromSerialized crypto data

def DeviceList.openFile (dir : StorageDir) : Outcome (DeviceList crypto) := do
  let data ← (dir.read .deviceList).inContext "failed to read device list"
  fromSerialized data

namespace DeviceKeychain

variable (libraries : KeychainLibraries crypto)

/-- `Keychain::save`, to one of the keychain files. A keychain that cannot be serialized ends the
program before anything is written. -/
def save (keychain : DeviceKeychain) (name : FileName) (password : Option String)
    (salt : Octets 32) (nonce : Nonce) (fate : WriteFate) (dir : StorageDir) :
    Outcome Unit × StorageDir :=
  (keychain.serialize libraries password salt nonce).orReturn dir fun data =>
    dir.write (fsWrite name data "failed to write keychain" fate)

def load (dir : StorageDir) (password : Option String) : Outcome DeviceKeychain := do
  let data ← (dir.read .keychain).inContext "failed to read keychain"
  fromSerialized libraries data password

end DeviceKeychain

/-! ### Clients -/

/-- A client with all that it stores, and its runtime. -/
structure StoredClient (crypto : Primitives) (noise : Noise) extends Client crypto where
  deviceCert : DeviceCertificate crypto
  registry : RelayRegistry
  node : Node crypto noise

/-- How the writes of a `save` end, and the orders in which it meets the entries of the maps. -/
structure Saving (crypto : Primitives) where
  keysOrder : IterationOrder (Sigma fun _ : SocketAddr => VerifyingKey crypto)
  addrsOrder : IterationOrder (Sigma fun _ : Key => SocketAddr)
  ourPk : WriteFate
  deviceCert : WriteFate
  registry : WriteFate
  deviceList : WriteFate
  peerState : WriteFate

/-- What the set-up of a client draws for its keychain file, and how its writes end. -/
structure SetupFiles (crypto : Primitives) where
  salt : Octets 32
  nonce : Nonce
  keychain : WriteFate
  saving : Saving crypto

/-- What an operation on devices draws for a keychain file, and how its writes end. -/
structure EditFiles where
  salt : Octets 32
  nonce : Nonce
  keychain : WriteFate
  deviceList : WriteFate

namespace StoredClient

variable (libraries : KeychainLibraries crypto)

/-- The runtime as all three ways to a client set it up. -/
def bindNode (ourPk : Key) (cert : DeviceCertificate crypto) (deviceX25519Priv : Key)
    (addr : SocketAddr) : Node crypto noise :=
  ((Node.bind (.fromPubkey crypto ourPk) addr deviceX25519Priv ∅).enableServer.setMasterPubkey
    ourPk).setDeviceCert cert

/-- The runtime starts to relay, and takes the tables of the directory if they can be read. -/
def startNode (node : Node crypto noise) (registry : RelayRegistry) (dir : StorageDir) :
    Node crypto noise :=
  match dir .peerState with
  | some data => { node.enableRelay registry with calls := (node.calls.loadPeerState data).2 }
  | none => node.enableRelay registry

/-- The writes of `save`. -/
def files (client : StoredClient crypto noise) (saving : Saving crypto) :
    List (FileWrite FileName) :=
  [fsWrite .ourPk client.ourPk.toList "cannot save our_pk" saving.ourPk,
    fsWrite .deviceCert client.deviceCert.serialize "failed to write device certificate"
      saving.deviceCert,
    fsWrite .registry client.registry.serialize "failed to write relay registry" saving.registry,
    fsWrite .deviceList client.deviceList.serialize "failed to write device list"
      saving.deviceList,
    { name := .peerState
      bytes := client.node.calls.savePeerState saving.keysOrder saving.addrsOrder
      onCreate := "cannot create peer state"
      onWrite := "write error"
      fate := saving.peerState }]

def save (client : StoredClient crypto noise) (saving : Saving crypto) (dir : StorageDir) :
    Outcome Unit × StorageDir :=
  dir.writeAll (client.files saving)

/-- The end of `new` and of `from_mnemonic`: the client is put together and saved. -/
def settle (client : Client crypto) (cert : DeviceCertificate crypto) (entry : RelayEntry)
    (node : Node crypto noise) (saving : Saving crypto) (dir : StorageDir) :
    Outcome (StoredClient crypto noise) × StorageDir :=
  let registry := RelayRegistry.new.add entry
  let stored : StoredClient crypto noise :=
    { client with deviceCert := cert, registry, node := startNode node registry dir }
  match stored.save saving dir with
  | (saved, dir) => (saved.map fun () => stored, dir)

/-- `Client::new`, with the mnemonic that is generated. How its writes end is up to the files. -/
def create (generated : libraries.words.Mnemonic) (password : Option String) (env : Setup crypto)
    (files : SetupFiles crypto) (dir : StorageDir) :
    Outcome (StoredClient crypto noise × libraries.words.Mnemonic) × StorageDir :=
  env.dirCreated.orReturn dir fun () =>
  let (master, mnemonic) := MasterKeyPair.new libraries.words generated
  let ourPk := master.publicKey.bytes
  let keychain := DeviceKeychain.fromMnemonic libraries mnemonic password
  match keychain.save libraries .keychain password files.salt files.nonce files.keychain dir with
  | (saved, dir) =>
    saved.orReturn dir fun () =>
    (unwrap (VerifyingKey.fromBytes crypto keychain.deviceEd25519Pub)).orReturn dir fun key =>
    let cert := DeviceCertificate.new master key keychain.deviceX25519Pub
    match (DeviceList.new master).addDevice master cert with
    | (added, deviceList) =>
      (added.inContext "failed to add device").orReturn dir fun () =>
      env.bound.orReturn dir fun addr =>
      let rt := Client.runtime ourPk addr (libraries.words.signingKey keychain.deviceEd25519Priv)
      ((RelayEntry.new crypto (deriveId crypto ourPk) ourPk addr).inContext
        "invalid relay entry").orReturn dir fun entry =>
      match settle { rt, ourPk, deviceList } cert entry
          (bindNode ourPk cert keychain.deviceX25519Priv addr) files.saving dir with
      | (settled, dir) => (settled.map fun client => (client, mnemonic), dir)

/-- `Client::from_mnemonic`, with what its calls to join, to find and to publish make of the
runtime. -/
def restore (mnemonic : libraries.words.Mnemonic) (password : Option String) (env : Setup crypto)
    (calls : Node crypto noise → Node crypto noise) (files : SetupFiles crypto) (dir : StorageDir) :
    Outcome (StoredClient crypto noise) × StorageDir :=
  env.dirCreated.orReturn dir fun () =>
  let master := MasterKeyPair.fromMnemonic libraries.words mnemonic password
  let ourPk := master.publicKey.bytes
  let keychain := DeviceKeychain.fromMnemonic libraries mnemonic password
  match keychain.save libraries .keychain password files.salt files.nonce files.keychain dir with
  | (saved, dir) =>
    saved.orReturn dir fun () =>
    (unwrap (VerifyingKey.fromBytes crypto keychain.deviceEd25519Pub)).orReturn dir fun key =>
    let cert := DeviceCertificate.new master key keychain.deviceX25519Pub
    let ourId := deriveId crypto ourPk
    env.bound.orReturn dir fun addr =>
    let rt := Client.runtime ourPk addr (libraries.words.signingKey keychain.deviceEd25519Priv)
    (Setup.join env.joined 4 0).orReturn dir fun () =>
    (fromMnemonicList env.contact master cert).orReturn dir fun deviceList =>
    (rt.publishContact deviceList addr ourId 3600 env.closest).orReturn dir fun _ =>
    ((RelayEntry.new crypto ourId ourPk addr).inContext "invalid relay entry").orReturn dir
      fun entry => settle { rt, ourPk, deviceList } cert entry
        (calls (bindNode ourPk cert keychain.deviceX25519Priv addr)) files.saving dir

/-- `Client::open`, with the address that it binds. -/
def openDir (password : Option String) (bound : Outcome SocketAddr) (dir : StorageDir) :
    Outcome (StoredClient crypto noise) := do
  let deviceCert ← DeviceCertificate.openFile dir
  let registry ← RelayRegistry.openFile crypto dir
  let deviceList ← DeviceList.openFile dir
  let keychain ← DeviceKeychain.load libraries dir password
  let ourPkBytes ← (dir.read .ourPk).inContext "cannot read our_pk"
  let ourPk ← okOr "invalid our_pk length" (toOctets 32 ourPkBytes)
  let addr ← bound
  .ok { rt := Client.runtime ourPk addr (libraries.words.signingKey keychain.deviceEd25519Priv)
        ourPk
        deviceList
        deviceCert
        registry
        node := startNode (bindNode ourPk deviceCert keychain.deviceX25519Priv addr) registry dir }

/-- The keychain that `add_device` saves before it does anything else. -/
def saveDevice (client : StoredClient crypto noise) (mnemonic : libraries.words.Mnemonic)
    (password : Option String) (files : EditFiles) (dir : StorageDir) :
    Client.Edit → Outcome Unit × StorageDir
  | .add =>
    if (MasterKeyPair.fromMnemonic libraries.words mnemonic password).publicKey.bytes ≠
        client.ourPk then (.ok (), dir)
    else
      (DeviceKeychain.fromMnemonic libraries mnemonic password).save libraries
        (.keychainOf client.deviceList.devices.length) password files.salt files.nonce
          files.keychain dir
  | .revoke _ => (.ok (), dir)

/-- `add_device` and `revoke_device`, with the files that they write. What their lookups make of
the runtime is left to it. -/
def perform (client : StoredClient crypto noise) (mnemonic : libraries.words.Mnemonic)
    (password : Option String) (env : ClientSurroundings crypto) (files : EditFiles)
    (edit : Client.Edit) (dir : StorageDir) :
    Outcome (List (DhtOperation × SocketAddr)) × StoredClient crypto noise × StorageDir :=
  match client.saveDevice libraries mnemonic password files dir edit with
  | (keychainSaved, dir) =>
    -- the list is written last, when everything else has succeeded
    match client.toClient.perform libraries.words mnemonic password
        { env with keychainSaved, listSaved := .ok () } edit with
    | (.error fault, _) => (.error fault, client, dir)
    | (.ok operations, after) =>
      match dir.write (fsWrite .deviceList after.deviceList.serialize "failed to write device list"
          files.deviceList) with
      | (saved, dir) => (saved.map fun () => operations, { client with toClient := after }, dir)

end StoredClient

end Insub
