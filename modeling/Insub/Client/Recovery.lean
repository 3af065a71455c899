/-
This file models how `api.rs` creates a client and how it restores one from a mnemonic, and asks
whether the restored client has the same identity. The master key of a new client is derived
without the password, and that of a restored one with it. So is the key that the operations on
devices compare with. The mnemonic thus restores the identity exactly if there is no password, or
an empty one.
-/

import Mathlib
import Insub.Client.Devices
import Insub.Dht.NodeId
import Insub.Network.Registry

namespace Insub

open Rust

variable {crypto : Primitives} {words : Mnemonics crypto}

/-- `MasterKeyPair::new`, with the mnemonic that is generated. -/
def MasterKeyPair.new (words : Mnemonics crypto) (generated : words.Mnemonic) :
    MasterKeyPair crypto × words.Mnemonic :=
  (.fromMnemonic words generated none, generated)

/-- The device key that the runtime signs with. -/
def Keychain.deviceEd25519Priv (words : Mnemonics crypto) (mnemonic : words.Mnemonic)
    (password : Option String) : SigningKey crypto :=
  words.signingKey (words.derive mnemonic password "keychain-ed25519")

/-- What the set-up of a client gets from elsewhere: how its files are written, the address that
it binds, how its attempts to join the hash table end, the contact that it finds, and the nodes
that it finds to publish to. -/
structure Setup (crypto : Primitives) where
  dirCreated : Outcome Unit
  keychainSaved : Outcome Unit
  bound : Outcome SocketAddr
  joined : Nat → Outcome Unit
  contact : Outcome (ContactRecord crypto)
  closest : Outcome NodeList
  saved : Outcome Unit

/-- The loop that joins the hash table, with the number of attempts after this one. -/
def Setup.join (joined : Nat → Outcome Unit) : (left attempt : Nat) → Outcome Unit
  | 0, attempt => (joined attempt).inContext "cannot join DHT"
  | left + 1, attempt =>
    match joined attempt with
    | .error (.error _) => Setup.join joined left (attempt + 1)
    | outcome => outcome

namespace Client

/-- The runtime of a client whose keys come from a mnemonic. -/
def runtime (ourPk : Key) (localAddr : SocketAddr) (deviceKey : SigningKey crypto) :
    Publisher crypto where
  id := .fromPubkey crypto ourPk
  localAddr := localAddr
  deviceEd25519Priv := some deviceKey
  masterPubkey := some ourPk

/-- `Client::new`, with the mnemonic that is generated. -/
def new (words : Mnemonics crypto) (generated : words.Mnemonic) (password : Option String)
    (env : Setup crypto) : Outcome (Client crypto × words.Mnemonic) := do
  env.dirCreated
  let (master, mnemonic) := MasterKeyPair.new words generated
  let ourPk := master.publicKey.bytes
  let keychain := Keychain.fromMnemonic words mnemonic password
  env.keychainSaved
  let key ← unwrap (VerifyingKey.fromBytes crypto keychain.deviceEd25519Pub)
  let cert := DeviceCertificate.new master key keychain.deviceX25519Pub
  let (added, deviceList) := (DeviceList.new master).addDevice master cert
  added.inContext "failed to add device"
  let actualAddr ← env.bound
  let rt := runtime ourPk actualAddr (Keychain.deviceEd25519Priv words mnemonic password)
  let _ ← (RelayEntry.new crypto (deriveId crypto ourPk) ourPk actualAddr).inContext
    "invalid relay entry"
  env.saved
  .ok ({ rt, ourPk, deviceList }, mnemonic)

/-- `Client::from_mnemonic`. -/
def fromMnemonic (words : Mnemonics crypto) (mnemonic : words.Mnemonic) (password : Option String)
    (env : Setup crypto) : Outcome (Client crypto) := do
  env.dirCreated
  let master := MasterKeyPair.fromMnemonic words mnemonic password
  let ourPk := master.publicKey.bytes
  let keychain := Keychain.fromMnemonic words mnemonic password
  env.keychainSaved
  let key ← unwrap (VerifyingKey.fromBytes crypto keychain.deviceEd25519Pub)
  let cert := DeviceCertificate.new master key keychain.deviceX25519Pub
  let ourId := deriveId crypto ourPk
  let actualAddr ← env.bound
  let rt := runtime ourPk actualAddr (Keychain.deviceEd25519Priv words mnemonic password)
  Setup.join env.joined 4 0
  let deviceList ← fromMnemonicList env.contact master cert
  let _ ← rt.publishContact deviceList actualAddr ourId 3600 env.closest
  let _ ← (RelayEntry.new crypto ourId ourPk actualAddr).inContext "invalid relay entry"
  env.saved
  .ok { rt, ourPk, deviceList }

/-- Whatever happens, the operation is refused since the mnemonic is not of this identity. -/
def Refuses (client : Client crypto) (words : Mnemonics crypto) (mnemonic : words.Mnemonic)
    (password : Option String) (edit : Edit) : Prop :=
  ∀ env, client.perform words mnemonic password env edit =
    (.error (.error "mnemonic does not match this identity"), client)

theorem ourPk_of_new {generated mnemonic : words.Mnemonic} {password : Option String}
    {env : Setup crypto} {client : Client crypto}
    (created : new words generated password env = .ok (client, mnemonic)) :
    mnemonic = generated ∧
      client.ourPk = (MasterKeyPair.fromMnemonic words generated none).publicKey.bytes := by
  obtain ⟨_, -, created⟩ := Outcome.bind_eq_ok_iff.mp created
  obtain ⟨_, -, created⟩ := Outcome.bind_eq_ok_iff.mp created
  obtain ⟨_, -, created⟩ := Outcome.bind_eq_ok_iff.mp created
  obtain ⟨_, -, created⟩ := Outcome.bind_eq_ok_iff.mp created
  obtain ⟨_, -, created⟩ := Outcome.bind_eq_ok_iff.mp created
  obtain ⟨_, -, created⟩ := Outcome.bind_eq_ok_iff.mp created
  obtain ⟨_, -, created⟩ := Outcome.bind_eq_ok_iff.mp created
  cases created
  exact ⟨rfl, rfl⟩

/-- What a client that is restored publishes. -/
theorem fromMnemonic_ok {mnemonic : words.Mnemonic} {password : Option String}
    {env : Setup crypto} {client : Client crypto}
    (restored : fromMnemonic words mnemonic password env = .ok client) :
    client.ourPk = (MasterKeyPair.fromMnemonic words mnemonic password).publicKey.bytes ∧
      ∃ key, VerifyingKey.fromBytes crypto
          (Keychain.fromMnemonic words mnemonic password).deviceEd25519Pub = some key ∧
        fromMnemonicList env.contact (.fromMnemonic words mnemonic password)
          (.new (.fromMnemonic words mnemonic password) key
            (Keychain.fromMnemonic words mnemonic password).deviceX25519Pub) =
              .ok client.deviceList := by
  obtain ⟨_, -, restored⟩ := Outcome.bind_eq_ok_iff.mp restored
  obtain ⟨_, -, restored⟩ := Outcome.bind_eq_ok_iff.mp restored
  obtain ⟨key, parsed, restored⟩ := Outcome.bind_eq_ok_iff.mp restored
  obtain ⟨_, -, restored⟩ := Outcome.bind_eq_ok_iff.mp restored
  obtain ⟨_, -, restored⟩ := Outcome.bind_eq_ok_iff.mp restored
  obtain ⟨deviceList, listed, restored⟩ := Outcome.bind_eq_ok_iff.mp restored
  obtain ⟨_, -, restored⟩ := Outcome.bind_eq_ok_iff.mp restored
  obtain ⟨_, -, restored⟩ := Outcome.bind_eq_ok_iff.mp restored
  obtain ⟨_, -, restored⟩ := Outcome.bind_eq_ok_iff.mp restored
  cases restored
  exact ⟨rfl, key, unwrap_eq_ok_iff.mp parsed, listed⟩

/-- An operation is refused exactly if the master key of the mnemonic is another one. -/
theorem refuses_iff {client : Client crypto} {mnemonic : words.Mnemonic}
    {password : Option String} {edit : Edit} :
    client.Refuses words mnemonic password edit ↔
      (MasterKeyPair.fromMnemonic words mnemonic password).publicKey.bytes ≠ client.ourPk := by
  constructor
  · intro refuses own
    -- elsewhere everything panics, which an operation only notices behind its first check
    have refused := refuses ⟨.error (.panic ""), .error (.panic ""), .error (.panic ""),
      .error (.panic "")⟩
    cases edit with
    | add =>
      rw [perform, addDevice, if_neg (not_not.mpr own)] at refused
      cases refused
    | revoke index =>
      rw [perform, revokeDevice, if_neg (not_not.mpr own)] at refused
      cases refused
  · intro foreign env
    cases edit with
    | add => rw [perform, addDevice, if_pos foreign]
    | revoke index => rw [perform, revokeDevice, if_pos foreign]

/-- The mnemonic of a new client restores its identity, in `from_mnemonic` and in the operations on
devices, exactly if the client was created without a password, or with an empty one. The seeds of
the two passphrases, and the master keys of the two seeds, are taken to differ. -/
theorem restores_iff {generated mnemonic : words.Mnemonic} {password : Option String}
    {env : Setup crypto} {client : Client crypto}
    (created : new words generated password env = .ok (client, mnemonic))
    (seeds : words.toSeed mnemonic (password.getD "") = words.toSeed mnemonic "" →
      password.getD "" = "")
    (keys : (MasterKeyPair.fromMnemonic words mnemonic password).publicKey =
      (MasterKeyPair.fromMnemonic words mnemonic none).publicKey →
        words.toSeed mnemonic (password.getD "") = words.toSeed mnemonic "") :
    ((∀ env restored, fromMnemonic words mnemonic password env = .ok restored →
        restored.ourPk = client.ourPk) ∧
      ∀ edit, ¬ client.Refuses words mnemonic password edit) ↔
        password = none ∨ password = some "" := by
  obtain ⟨rfl, ourPk⟩ := ourPk_of_new created
  constructor
  · rintro ⟨-, accepted⟩
    have same := not_not.mp (mt refuses_iff.mpr (accepted .add))
    rw [ourPk, VerifyingKey.bytes_inj] at same
    have empty := seeds (keys same)
    cases password with
    | none => exact Or.inl rfl
    | some password => exact Or.inr (congrArg some empty)
  · intro unprotected
    have same : MasterKeyPair.fromMnemonic words mnemonic password =
        MasterKeyPair.fromMnemonic words mnemonic none := by
      rcases unprotected with rfl | rfl <;> rfl
    refine ⟨fun env restored success => ?_, fun edit refuses => ?_⟩
    · rw [(fromMnemonic_ok success).1, ourPk, same]
    · rw [refuses_iff, ourPk, same] at refuses
      exact refuses rfl

/-! ### A client with a password -/

/-- Mnemonics whose seeds are made of the password. -/
def spelledMnemonics : Mnemonics sampleSuite where
  Mnemonic := Unit
  toSeed _ password := SampleSuite.octets 64 (SampleSuite.checksum (ascii password))
  signingKey secret := ⟨SampleSuite.verifyingKey secret, SampleSuite.sign secret⟩

/-- Everything succeeds, save that there is no record of the user yet. -/
def sampleSetup : Setup sampleSuite where
  dirCreated := .ok ()
  keychainSaved := .ok ()
  bound := .ok LookupTrace.sampleAddr
  joined _ := .ok ()
  contact := .error (.error "no contact record found")
  closest := .ok [(LookupTrace.sampleNode 1, LookupTrace.sampleAddr)]
  saved := .ok ()

/-- A client is created with a password. What is restored with the same password is another
identity, and the operations refuse the mnemonic. -/
theorem password_not_restored : ∃ client restored,
    new spelledMnemonics () (some "pw") sampleSetup = .ok (client, ()) ∧
      fromMnemonic spelledMnemonics () (some "pw") sampleSetup = .ok restored ∧
        restored.ourPk ≠ client.ourPk ∧
          ∀ edit, client.Refuses spelledMnemonics () (some "pw") edit := by
  have different : (MasterKeyPair.fromMnemonic spelledMnemonics () (some "pw")).publicKey.bytes ≠
      (MasterKeyPair.fromMnemonic spelledMnemonics () none).publicKey.bytes := by
    decide +kernel
  have first : (new spelledMnemonics () (some "pw") sampleSetup).Returns :=
    Outcome.returns_iff_isSome.mpr (by decide +kernel)
  have second : (fromMnemonic spelledMnemonics () (some "pw") sampleSetup).Returns :=
    Outcome.returns_iff_isSome.mpr (by decide +kernel)
  obtain ⟨⟨client, _⟩, created⟩ := first
  obtain ⟨restored, success⟩ := second
  obtain ⟨-, ourPk⟩ := ourPk_of_new created
  refine ⟨client, restored, created, success, ?_, fun edit => refuses_iff.mpr ?_⟩
  · rwa [(fromMnemonic_ok success).1, ourPk]
  · rwa [ourPk]

/-- A client that is created without a password is restored. -/
theorem unprotected_restored : ∃ client,
    new spelledMnemonics () none sampleSetup = .ok (client, ()) ∧
      (∀ env restored, fromMnemonic spelledMnemonics () none env = .ok restored →
        restored.ourPk = client.ourPk) ∧
          ∀ edit, ¬ client.Refuses spelledMnemonics () none edit := by
  have returned : (new spelledMnemonics () none sampleSetup).Returns :=
    Outcome.returns_iff_isSome.mpr (by decide +kernel)
  obtain ⟨⟨client, _⟩, created⟩ := returned
  exact ⟨client, created,
    (restores_iff created (fun _ => rfl) fun _ => rfl).mpr (Or.inl rfl)⟩

end Client

end Insub
