/-
This file models how a `Client` of `api.rs` adds and revokes devices, and settles whether the
device list that it publishes verifies. Both operations count the sequence number up once more
after the list was signed. The signature covers the number, so what they publish and keep does
not verify, neither when they have signed the list nor when it was signed before.
-/

import Mathlib
import Insub.Dht.Contact
import Insub.Dht.Protocol
import Insub.Identity.Keychain
import Insub.Network.Relay
import Insub.Runtime.FindContact

namespace Insub

open Rust

variable {crypto : Primitives}

/-! ### Publishing -/

/-- What the runtime of a client publishes with. -/
structure Publisher (crypto : Primitives) where
  id : NodeID
  localAddr : SocketAddr
  deviceEd25519Priv : Option (SigningKey crypto)
  masterPubkey : Option Key

namespace Publisher

/-- `store`, once the lookup for the nodes closest to the key has ended. -/
def store (publisher : Publisher crypto) (key : Key) (value : Bytes) (ttl : U32)
    (found : Outcome NodeList) : Outcome (List (DhtOperation × SocketAddr)) := do
  let closest ← found
  if closest.isEmpty then .error (.error "store failed: no nodes known to store to")
  else .ok (closest.map fun (_, addr) => (.store publisher.id key value ttl, addr))

def publishContact (publisher : Publisher crypto) (deviceList : DeviceList crypto)
    (relayAddr : SocketAddr) (relayId : U128) (ttl : U32) (found : Outcome NodeList) :
    Outcome (List (DhtOperation × SocketAddr)) := do
  let deviceKey ← okOr "device signing key not set" publisher.deviceEd25519Priv
  let contact := ContactRecord.new deviceList relayAddr relayId deviceKey
  let record : Record := { tag := .contact, data := contact.serialize }
  let master ← okOr "master pubkey not set" publisher.masterPubkey
  publisher.store (contactKeyFor crypto master) record.serialize ttl found

/-- The operations publish the list. -/
def Publishes (publisher : Publisher crypto) (deviceList : DeviceList crypto)
    (operations : List (DhtOperation × SocketAddr)) : Prop :=
  ∃ relayAddr relayId ttl found,
    publisher.publishContact deviceList relayAddr relayId ttl found = .ok operations

end Publisher

/-! ### The operations -/

structure Client (crypto : Primitives) where
  rt : Publisher crypto
  ourPk : Key
  deviceList : DeviceList crypto

/-- What an operation of the client gets from elsewhere: how its files are written, the contact
it finds, and the nodes it finds to publish to. -/
structure ClientSurroundings (crypto : Primitives) where
  keychainSaved : Outcome Unit
  contact : Outcome (ContactRecord crypto)
  closest : Outcome NodeList
  listSaved : Outcome Unit

namespace Client

/-- The list an operation starts from: the one that is found, or our own. -/
def latest (client : Client crypto) (contact : Outcome (ContactRecord crypto)) :
    Outcome (DeviceList crypto) :=
  contact.asOption.map fun
    | some contact => contact.deviceList
    | none => client.deviceList

/-- How both operations end. -/
def publish (client : Client crypto) (list : DeviceList crypto)
    (env : ClientSurroundings crypto) :
    Outcome (List (DhtOperation × SocketAddr)) × Client crypto :=
  (addU64 list.sequence 1).orReturn client fun sequence =>
  let list := { list with sequence }
  (client.rt.publishContact list client.rt.localAddr (deriveId crypto client.ourPk) 3600
    env.closest).orReturn client fun operations =>
  (env.listSaved.map fun _ => operations, { client with deviceList := list })

def addDevice (client : Client crypto) (words : Mnemonics crypto) (mnemonic : words.Mnemonic)
    (password : Option String) (env : ClientSurroundings crypto) :
    Outcome (List (DhtOperation × SocketAddr)) × Client crypto :=
  let master := MasterKeyPair.fromMnemonic words mnemonic password
  if master.publicKey.bytes ≠ client.ourPk then
    (.error (.error "mnemonic does not match this identity"), client)
  else
    let keychain := Keychain.fromMnemonic words mnemonic password
    env.keychainSaved.orReturn client fun () =>
    (unwrap (VerifyingKey.fromBytes crypto keychain.deviceEd25519Pub)).orReturn client fun key =>
    let cert := DeviceCertificate.new master key keychain.deviceX25519Pub
    (client.latest env.contact).orReturn client fun list =>
    if list.containsActive cert.deviceEd25519Pubkey then client.publish list env
    else
      match list.addDevice master cert with
      | (added, list) =>
        (added.inContext "failed to add device").orReturn client fun () => client.publish list env

def revokeDevice (client : Client crypto) (words : Mnemonics crypto) (mnemonic : words.Mnemonic)
    (index : Nat) (password : Option String) (env : ClientSurroundings crypto) :
    Outcome (List (DhtOperation × SocketAddr)) × Client crypto :=
  let master := MasterKeyPair.fromMnemonic words mnemonic password
  if master.publicKey.bytes ≠ client.ourPk then
    (.error (.error "mnemonic does not match this identity"), client)
  else
    (client.latest env.contact).orReturn client fun list =>
    match list.devices[index]? with
    | none =>
      (.error (.error
        s!"device index {index} out of range ({list.devices.length} devices)"), client)
    | some device =>
      match list.removeDevice master device.deviceEd25519Pubkey with
      | (removed, list) =>
        (removed.inContext "failed to remove device").orReturn client fun () =>
          client.publish list env

/-- One of the two operations. -/
inductive Edit
  | add
  | revoke (index : Nat)

def perform (client : Client crypto) (words : Mnemonics crypto) (mnemonic : words.Mnemonic)
    (password : Option String) (env : ClientSurroundings crypto) :
    Edit → Outcome (List (DhtOperation × SocketAddr)) × Client crypto
  | .add => client.addDevice words mnemonic password env
  | .revoke index => client.revokeDevice words mnemonic index password env

/-- The list that an operation starts from verifies, or the operation signs it again. Revoking
always does, and adding does when the device is not yet in the list. -/
def StartsSigned (client : Client crypto) (words : Mnemonics crypto) (mnemonic : words.Mnemonic)
    (password : Option String) (env : ClientSurroundings crypto) : Edit → Prop
  | .add => ∀ list key, client.latest env.contact = .ok list →
      VerifyingKey.fromBytes crypto
        (Keychain.fromMnemonic words mnemonic password).deviceEd25519Pub = some key →
          list.containsActive key = true → list.VerifiesUnder client.ourPk
  | .revoke _ => True

end Client

/-! ### What is signed -/

/-- No signature of the key is one for two sequence numbers of the same devices. -/
def VerifyingKey.BindsSequence (key : VerifyingKey crypto) : Prop :=
  ∀ first second (devices : List (DeviceCertificate crypto)) signature,
    key.verify (DeviceList.signedData first devices) signature = true →
      key.verify (DeviceList.signedData second devices) signature = true → first = second

namespace DeviceList

theorem verifiesUnder_bytes_iff {list : DeviceList crypto} {key : VerifyingKey crypto} :
    list.VerifiesUnder key.bytes ↔
      key.verify (signedData list.sequence list.devices) list.masterSignature = true := by
  rw [VerifiesUnder, UserID.ofBytes_bytes ⟨key⟩]
  constructor
  · rintro ⟨user, same, verifies⟩
    rw [← Option.some.inj same] at verifies
    exact verifies
  · exact fun verifies => ⟨⟨key⟩, rfl, verifies⟩

/-- A list that is added to is signed. -/
theorem verifiesUnder_addDevice {master : MasterKeyPair crypto}
    (signs : master.privateKey.SignsVerifiably) {list after : DeviceList crypto}
    {newCert : DeviceCertificate crypto}
    (added : list.addDevice master newCert = (.ok (), after)) :
    after.VerifiesUnder master.publicKey.bytes := by
  rw [addDevice] at added
  split at added
  · cases added
  · obtain ⟨sequence, -, added⟩ := Outcome.orReturn_eq_ok_iff.mp added
    obtain ⟨_, rfl⟩ := Prod.mk.inj added
    exact verifiesUnder_bytes_iff.mpr (signs _)

/-- A list that is taken from is signed. -/
theorem verifiesUnder_removeDevice {master : MasterKeyPair crypto}
    (signs : master.privateKey.SignsVerifiably) {list after : DeviceList crypto}
    {devicePubkey : VerifyingKey crypto}
    (removed : list.removeDevice master devicePubkey = (.ok (), after)) :
    after.VerifiesUnder master.publicKey.bytes := by
  obtain ⟨position, -, removed⟩ := Outcome.orReturn_eq_ok_iff.mp removed
  obtain ⟨sequence, -, removed⟩ := Outcome.orReturn_eq_ok_iff.mp removed
  obtain ⟨_, rfl⟩ := Prod.mk.inj removed
  exact verifiesUnder_bytes_iff.mpr (signs _)

/-- Counting the sequence number up undoes the signature. -/
theorem not_verifiesUnder_of_counted {key : VerifyingKey crypto} (binds : key.BindsSequence)
    {list : DeviceList crypto} {sequence : U64} (verifies : list.VerifiesUnder key.bytes)
    (counted : addU64 list.sequence 1 = .ok sequence) :
    ¬ ({ list with sequence } : DeviceList crypto).VerifiesUnder key.bytes := by
  rw [verifiesUnder_bytes_iff] at verifies ⊢
  intro stillVerifies
  have same : list.sequence = sequence := binds _ _ _ _ verifies stillVerifies
  rw [addU64] at counted
  split at counted
  · have advanced := Except.ok.inj counted
    rw [← same] at advanced
    bv_omega
  · cases counted

end DeviceList

namespace Client

/-- What is published is kept, with the next sequence number. -/
theorem publish_ok {client after : Client crypto} {list : DeviceList crypto}
    {env : ClientSurroundings crypto} {operations : List (DhtOperation × SocketAddr)}
    (published : client.publish list env = (.ok operations, after)) :
    ∃ sequence, addU64 list.sequence 1 = .ok sequence ∧
      after.deviceList = { list with sequence } ∧
        client.rt.Publishes after.deviceList operations := by
  obtain ⟨sequence, counted, published⟩ := Outcome.orReturn_eq_ok_iff.mp published
  obtain ⟨stored, publishes, published⟩ := Outcome.orReturn_eq_ok_iff.mp published
  obtain ⟨saved, rfl⟩ := Prod.mk.inj published
  cases saving : env.listSaved with
  | error fault =>
    rw [saving] at saved
    cases saved
  | ok =>
    rw [saving] at saved
    rw [← Except.ok.inj saved]
    exact ⟨sequence, counted, rfl, _, _, _, _, publishes⟩

/-- What is published of a list that verifies does not verify. -/
theorem not_verifiesUnder_publish {client after : Client crypto} {key : VerifyingKey crypto}
    (binds : key.BindsSequence) {list : DeviceList crypto} (verifies : list.VerifiesUnder key.bytes)
    {env : ClientSurroundings crypto} {operations : List (DhtOperation × SocketAddr)}
    (published : client.publish list env = (.ok operations, after)) :
    client.rt.Publishes after.deviceList operations ∧ ¬ after.deviceList.VerifiesUnder key.bytes := by
  obtain ⟨sequence, counted, kept, publishes⟩ := publish_ok published
  refine ⟨publishes, ?_⟩
  rw [kept]
  exact DeviceList.not_verifiesUnder_of_counted binds verifies counted

/-- What an operation makes of the list that it starts from. A device that is to be added may be
in it already. -/
def Edits (words : Mnemonics crypto) (mnemonic : words.Mnemonic) (password : Option String)
    (list next : DeviceList crypto) : Edit → Prop
  | .add => ∃ key, VerifyingKey.fromBytes crypto
        (Keychain.fromMnemonic words mnemonic password).deviceEd25519Pub = some key ∧
      (list.containsActive key = true ∧ next = list ∨
        list.containsActive key = false ∧
          list.addDevice (.fromMnemonic words mnemonic password)
            (.new (.fromMnemonic words mnemonic password) key
              (Keychain.fromMnemonic words mnemonic password).deviceX25519Pub) = (.ok (), next))
  | .revoke index => ∃ device, list.devices[index]? = some device ∧
      list.removeDevice (.fromMnemonic words mnemonic password) device.deviceEd25519Pubkey =
        (.ok (), next)

/-- An operation that succeeds publishes what it has made of the list that it starts from. -/
theorem perform_ok {words : Mnemonics crypto} {mnemonic : words.Mnemonic}
    {password : Option String} {client after : Client crypto} {env : ClientSurroundings crypto}
    {edit : Edit} {operations : List (DhtOperation × SocketAddr)}
    (performed : client.perform words mnemonic password env edit = (.ok operations, after)) :
    (MasterKeyPair.fromMnemonic words mnemonic password).publicKey.bytes = client.ourPk ∧
      ∃ list next, client.latest env.contact = .ok list ∧
        Edits words mnemonic password list next edit ∧
          client.publish next env = (.ok operations, after) := by
  cases edit with
  | add =>
    rw [perform, addDevice] at performed
    split at performed
    · cases performed
    rename_i own
    obtain ⟨_, _, performed⟩ := Outcome.orReturn_eq_ok_iff.mp performed
    obtain ⟨key, parsed, performed⟩ := Outcome.orReturn_eq_ok_iff.mp performed
    obtain ⟨list, latest, performed⟩ := Outcome.orReturn_eq_ok_iff.mp performed
    refine ⟨not_not.mp own, list, ?_⟩
    split at performed
    · rename_i listed
      exact ⟨list, latest, ⟨key, unwrap_eq_ok_iff.mp parsed, Or.inl ⟨listed, rfl⟩⟩, performed⟩
    · rename_i unlisted
      rcases adding : list.addDevice (MasterKeyPair.fromMnemonic words mnemonic password)
        (DeviceCertificate.new (MasterKeyPair.fromMnemonic words mnemonic password) key
          (Keychain.fromMnemonic words mnemonic password).deviceX25519Pub) with ⟨added, next⟩
      rw [adding] at performed
      dsimp only at performed
      obtain ⟨_, succeeded, performed⟩ := Outcome.orReturn_eq_ok_iff.mp performed
      rw [Outcome.inContext_eq_ok_iff] at succeeded
      rw [succeeded] at adding
      exact ⟨next, latest, ⟨key, unwrap_eq_ok_iff.mp parsed,
        Or.inr ⟨Bool.eq_false_of_not_eq_true unlisted, adding⟩⟩, performed⟩
  | revoke index =>
    rw [perform, revokeDevice] at performed
    split at performed
    · cases performed
    rename_i own
    obtain ⟨list, latest, performed⟩ := Outcome.orReturn_eq_ok_iff.mp performed
    refine ⟨not_not.mp own, list, ?_⟩
    cases picked : list.devices[index]? with
    | none =>
      rw [picked] at performed
      cases performed
    | some device =>
      rw [picked] at performed
      dsimp only at performed
      rcases removing : list.removeDevice (MasterKeyPair.fromMnemonic words mnemonic password)
        device.deviceEd25519Pubkey with ⟨removed, next⟩
      rw [removing] at performed
      dsimp only at performed
      obtain ⟨_, succeeded, performed⟩ := Outcome.orReturn_eq_ok_iff.mp performed
      rw [Outcome.inContext_eq_ok_iff] at succeeded
      rw [succeeded] at removing
      exact ⟨next, latest, ⟨device, picked, removing⟩, performed⟩

/-- Every list that an operation signs, or finds signed, it publishes and keeps in a form that
does not verify. -/
theorem edited_list_unverified {words : Mnemonics crypto} {mnemonic : words.Mnemonic}
    {password : Option String}
    (signs : (MasterKeyPair.fromMnemonic words mnemonic password).privateKey.SignsVerifiably)
    (binds : (MasterKeyPair.fromMnemonic words mnemonic password).publicKey.BindsSequence)
    {client after : Client crypto} {env : ClientSurroundings crypto} {edit : Edit}
    (starts : client.StartsSigned words mnemonic password env edit)
    {operations : List (DhtOperation × SocketAddr)}
    (edited : client.perform words mnemonic password env edit = (.ok operations, after)) :
    client.rt.Publishes after.deviceList operations ∧
      ¬ after.deviceList.VerifiesUnder client.ourPk := by
  obtain ⟨own, list, next, latest, edits, published⟩ := perform_ok edited
  have verifies : next.VerifiesUnder client.ourPk := by
    rw [← own]
    cases edit with
    | add =>
      obtain ⟨key, parsed, ⟨listed, rfl⟩ | ⟨-, added⟩⟩ := edits
      · exact own ▸ starts next key latest parsed listed
      · exact DeviceList.verifiesUnder_addDevice signs added
    | revoke index =>
      obtain ⟨device, -, removed⟩ := edits
      exact DeviceList.verifiesUnder_removeDevice signs removed
  rw [← own] at verifies ⊢
  exact not_verifiesUnder_publish binds verifies published

/-! ### A device that is added and one that is revoked -/

open LookupTrace (sampleNode sampleAddr)

/-- One mnemonic, of the seed of zeros. -/
def sampleMnemonics : Mnemonics sampleSuite where
  Mnemonic := Unit
  toSeed _ _ := Octets.zero 64
  signingKey secret := ⟨SampleSuite.verifyingKey secret, SampleSuite.sign secret⟩

def sampleMaster : MasterKeyPair sampleSuite := .fromMnemonic sampleMnemonics () none

/-- A client whose list has one other device, and is signed. -/
def sampleClient : Client sampleSuite where
  rt :=
    { id := sampleNode 0
      localAddr := sampleAddr
      deviceEd25519Priv := some (sampleMnemonics.signingKey (SampleSuite.octets 32 3))
      masterPubkey := some sampleMaster.publicKey.bytes }
  ourPk := sampleMaster.publicKey.bytes
  deviceList := ((DeviceList.new sampleMaster).addDevice sampleMaster
    (.new sampleMaster (SampleSuite.verifyingKey (SampleSuite.octets 32 3)) (Octets.zero 32))).2

/-- Nothing fails, save that there is no record of the user yet. -/
def sampleSurroundings : ClientSurroundings sampleSuite where
  keychainSaved := .ok ()
  contact := .error (.error "no contact record found")
  closest := .ok [(sampleNode 1, sampleAddr)]
  listSaved := .ok ()

def sampleEdited (edit : Edit) : Outcome (List (DhtOperation × SocketAddr)) × Client sampleSuite :=
  sampleClient.perform sampleMnemonics () none sampleSurroundings edit

/-- Both operations return `Ok`, and leave a list that does not verify. -/
theorem sampleClient_unverified : sampleClient.deviceList.VerifiesUnder sampleClient.ourPk ∧
    ∀ edit, edit = .add ∨ edit = .revoke 0 → (sampleEdited edit).1.Returns ∧
      ¬ (sampleEdited edit).2.deviceList.VerifiesUnder sampleClient.ourPk := by
  refine ⟨by decide +kernel, ?_⟩
  rintro edit (rfl | rfl)
  · exact ⟨Outcome.returns_iff_isSome.mpr (by decide +kernel), by decide +kernel⟩
  · exact ⟨Outcome.returns_iff_isSome.mpr (by decide +kernel), by decide +kernel⟩

theorem sampleMnemonics_signs (secret : Key) :
    (sampleMnemonics.signingKey secret).SignsVerifiably := by
  intro message
  exact decide_eq_true rfl

/-- The signatures of the sample suite tell sequence numbers apart. -/
theorem sampleMnemonics_binds (secret : Key) :
    (sampleMnemonics.signingKey secret).verifyingKey.BindsSequence := by
  intro first second devices signature verifies stillVerifies
  have equal := (of_decide_eq_true verifies).symm.trans (of_decide_eq_true stillVerifies)
  rw [DeviceList.signedData, DeviceList.signedData, SampleSuite.sign, SampleSuite.sign,
    ← List.append_assoc, ← List.append_assoc] at equal
  have bytes := SampleSuite.octets_checksum_inj (by simp) (by simp) equal
  rw [← ofBeBytes_beBytes first (by decide : 2 ^ 64 = 256 ^ 8),
    ← ofBeBytes_beBytes second (by decide : 2 ^ 64 = 256 ^ 8), List.Vector.toList_injective bytes]

/-- The sample client has published a list that does not verify. -/
theorem sampleClient_published : ∃ operations after,
    sampleEdited .add = (.ok operations, after) ∧
      sampleClient.rt.Publishes after.deviceList operations ∧
        ¬ after.deviceList.VerifiesUnder sampleClient.ourPk := by
  have returned : (sampleEdited .add).1.Returns :=
    Outcome.returns_iff_isSome.mpr (by decide +kernel)
  have starts : sampleClient.StartsSigned sampleMnemonics () none sampleSurroundings .add := by
    intro list key latest _ _
    rw [← Except.ok.inj latest]
    decide +kernel
  rcases run : sampleEdited .add with ⟨outcome, after⟩
  rw [run] at returned
  obtain ⟨operations, rfl⟩ := returned
  rw [sampleEdited] at run
  have signs : (MasterKeyPair.fromMnemonic sampleMnemonics () none).privateKey.SignsVerifiably :=
    sampleMnemonics_signs _
  have binds : (MasterKeyPair.fromMnemonic sampleMnemonics () none).publicKey.BindsSequence :=
    sampleMnemonics_binds _
  exact ⟨operations, after, rfl, edited_list_unverified signs binds starts run⟩

end Client

end Insub
