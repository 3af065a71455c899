/-
This file asks whether the device list of a client ever rolls back. An operation starts from the
list that it finds, if it finds one, and does not compare it with the list that the client has. A
record of long ago thus brings back its sequence number and the devices that were revoked since.
As long as no such record is found, the sequence number grows and what is revoked stays revoked.
-/

import Mathlib
import Insub.Client.Devices
import Insub.Identity.Lifecycle
import Insub.Library.Run

namespace Insub

open Rust

variable {crypto : Primitives} {words : Mnemonics crypto}

/-! ### Turns -/

/-- An operation of a client, and what it gets from elsewhere. -/
structure Turn (words : Mnemonics crypto) where
  mnemonic : words.Mnemonic
  password : Option String
  env : ClientSurroundings crypto
  edit : Client.Edit

namespace Turn

def run (turn : Turn words) (client : Client crypto) :
    Outcome (List (DhtOperation × SocketAddr)) × Client crypto :=
  client.perform words turn.mnemonic turn.password turn.env turn.edit

/-- The same operation, when the file of the list can be written. The client keeps the list that
it has published even if it cannot. -/
def saved (turn : Turn words) : Turn words :=
  { turn with env := { turn.env with listSaved := .ok () } }

/-- How far an operation on a list counts up its sequence number. -/
def counts (turn : Turn words) (list : DeviceList crypto) : Nat :=
  match turn.edit with
  | .add =>
    if list.devices.any fun device => device.deviceEd25519Pubkey.bytes =
        (Keychain.fromMnemonic words turn.mnemonic turn.password).deviceEd25519Pub then 1 else 2
  | .revoke _ => 2

/-- The devices of a list that an operation leaves in it. -/
def leaves (turn : Turn words) (list : DeviceList crypto) : List (DeviceCertificate crypto) :=
  match turn.edit with
  | .add => list.devices
  | .revoke index =>
    match list.devices[index]? with
    | some device => list.devices.eraseP fun other =>
        other.deviceEd25519Pubkey = device.deviceEd25519Pubkey
    | none => list.devices

/-- The keys that are revoked once an operation on a list is done. What is added is not. -/
def revokes (turn : Turn words) (list : DeviceList crypto) (revoked : List Key) : List Key :=
  match turn.edit with
  | .add => revoked.filter fun key => key ≠
      (Keychain.fromMnemonic words turn.mnemonic turn.password).deviceEd25519Pub
  | .revoke index =>
    match list.devices[index]? with
    | some device => device.deviceEd25519Pubkey.bytes :: revoked
    | none => revoked

/-- One run fails and leaves the client alone, and so does the other, or the other succeeds and
leaves the client as the one does. -/
def Foretells (client : Client crypto)
    (one other : Outcome (List (DhtOperation × SocketAddr)) × Client crypto) : Prop :=
  (∃ fault, one = (.error fault, client) ∧ other = (.error fault, client)) ∨
    ∃ operations, other = (.ok operations, one.2)

theorem Foretells.orReturn {Value : Type} {client : Client crypto} {outcome : Outcome Value}
    {one other : Value → Outcome (List (DhtOperation × SocketAddr)) × Client crypto}
    (later : ∀ value, Foretells client (one value) (other value)) :
    Foretells client (outcome.orReturn client one) (outcome.orReturn client other) := by
  cases outcome with
  | error fault => exact Or.inl ⟨fault, rfl, rfl⟩
  | ok value => exact later value

theorem Foretells.ite {client : Client crypto} {condition : Prop} [Decidable condition]
    {one other otherwise otherOtherwise : Outcome (List (DhtOperation × SocketAddr)) × Client crypto}
    (positive : Foretells client one other)
    (negative : Foretells client otherwise otherOtherwise) :
    Foretells client (if condition then one else otherwise)
      (if condition then other else otherOtherwise) := by
  by_cases holds : condition
  · rwa [if_pos holds, if_pos holds]
  · rwa [if_neg holds, if_neg holds]

theorem foretells_publish (client : Client crypto) (list : DeviceList crypto)
    (env : ClientSurroundings crypto) :
    Foretells client (client.publish list env)
      (client.publish list { env with listSaved := .ok () }) := by
  unfold Client.publish
  refine Foretells.orReturn fun sequence => Foretells.orReturn fun operations => ?_
  exact Or.inr ⟨operations, rfl⟩

/-- An operation either fails before it has published anything, or would succeed if the file could
be written. -/
theorem foretells_saved (turn : Turn words) (client : Client crypto) :
    Foretells client (turn.run client) (turn.saved.run client) := by
  obtain ⟨mnemonic, password, env, edit⟩ := turn
  cases edit with
  | add =>
    simp only [run, saved, Client.perform, Client.addDevice]
    refine Foretells.ite (Or.inl ⟨_, rfl, rfl⟩) ?_
    refine Foretells.orReturn fun _ => Foretells.orReturn fun key => Foretells.orReturn fun list => ?_
    refine Foretells.ite (foretells_publish client list env) ?_
    exact Foretells.orReturn fun _ => foretells_publish client _ env
  | revoke index =>
    simp only [run, saved, Client.perform, Client.revokeDevice]
    refine Foretells.ite (Or.inl ⟨_, rfl, rfl⟩) ?_
    refine Foretells.orReturn fun list => ?_
    cases list.devices[index]? with
    | none => exact Or.inl ⟨_, rfl, rfl⟩
    | some device => exact Foretells.orReturn fun _ => foretells_publish client _ env

/-- What an operation that publishes makes of the list that it starts from. -/
theorem run_saved_ok {turn : Turn words} {client after : Client crypto}
    {operations : List (DhtOperation × SocketAddr)}
    (ran : turn.saved.run client = (.ok operations, after)) :
    ∃ list added, client.latest turn.env.contact = .ok list ∧
      after.deviceList.sequence.toNat = list.sequence.toNat + turn.counts list ∧
        after.deviceList.devices = turn.leaves list ++ added ∧
          ∀ device ∈ added, turn.edit = .add ∧ device.deviceEd25519Pubkey.bytes =
            (Keychain.fromMnemonic words turn.mnemonic turn.password).deviceEd25519Pub := by
  obtain ⟨-, list, next, latest, edits, published⟩ := Client.perform_ok ran
  obtain ⟨sequence, counted, kept, -⟩ := Client.publish_ok published
  obtain ⟨mnemonic, password, env, edit⟩ := turn
  rw [kept]
  dsimp only
  rw [toNat_of_addU64 counted]
  cases edit with
  | add =>
    obtain ⟨key, parsed, edits⟩ := edits
    have bytes : key.bytes = (Keychain.fromMnemonic words mnemonic password).deviceEd25519Pub :=
      VerifyingKey.bytes_of_fromBytes parsed
    have active : (list.devices.any fun device => device.deviceEd25519Pubkey.bytes =
        (Keychain.fromMnemonic words mnemonic password).deviceEd25519Pub) =
          list.containsActive key := by
      simp only [DeviceList.containsActive, ← bytes, VerifyingKey.bytes_inj]
    rcases edits with ⟨listed, rfl⟩ | ⟨unlisted, added⟩
    · refine ⟨next, [], latest, ?_, (List.append_nil _).symm, fun _ member => nomatch member⟩
      rw [counts, active, listed, if_pos rfl]
    · obtain ⟨-, devices, advanced, -⟩ := DeviceList.addDevice_ok added
      refine ⟨list, _, latest, ?_, devices, fun device member => ?_⟩
      · rw [counts, active, unlisted, if_neg Bool.false_ne_true, toNat_of_addU64 advanced]
        rfl
      · rw [List.mem_singleton.mp member]
        exact ⟨rfl, bytes⟩
  | revoke index =>
    obtain ⟨device, picked, removed⟩ := edits
    obtain ⟨position, found, devices, advanced, -⟩ := DeviceList.removeDevice_ok removed
    refine ⟨list, [], latest, ?_, ?_, fun _ member => nomatch member⟩
    · rw [counts, toNat_of_addU64 advanced]
      rfl
    · rw [List.append_nil, devices, leaves]
      dsimp only
      rw [picked]
      dsimp only
      rw [List.eraseP_eq_eraseIdx, found]

end Turn

/-! ### Runs -/

/-- A client, and the keys of the devices that it has revoked and not added again. -/
structure Tenure (crypto : Primitives) where
  client : Client crypto
  revoked : List Key

namespace Tenure

/-- An operation that publishes its list takes effect. -/
def perform (tenure : Tenure crypto) (turn : Turn words) : Tenure crypto where
  client := (turn.run tenure.client).2
  revoked :=
    match (turn.saved.run tenure.client).1, tenure.client.latest turn.env.contact with
    | .ok _, .ok list => turn.revokes list tenure.revoked
    | _, _ => tenure.revoked

/-- No device of a list is one of those that are revoked. -/
def Excludes (devices : List (DeviceCertificate crypto)) (revoked : List Key) : Prop :=
  ∀ device ∈ devices, device.deviceEd25519Pubkey.bytes ∉ revoked

instance (devices : List (DeviceCertificate crypto)) (revoked : List Key) :
    Decidable (Excludes devices revoked) :=
  inferInstanceAs (Decidable (∀ device ∈ devices, _))

/-- The list that the operation starts from is not behind our own, and none of the devices that it
leaves in the list is revoked. -/
def Current (tenure : Tenure crypto) (turn : Turn words) : Prop :=
  ∀ list, tenure.client.latest turn.env.contact = .ok list →
    tenure.client.deviceList.sequence.toNat < list.sequence.toNat + turn.counts list ∧
      Excludes (turn.leaves list) (turn.revokes list tenure.revoked)

/-- If the operation succeeds, it counts up our sequence number, and in any case no device is listed
that is revoked. -/
def Advances (tenure : Tenure crypto) (turn : Turn words) : Prop :=
  ((turn.run tenure.client).1.Returns →
    tenure.client.deviceList.sequence.toNat <
      (tenure.perform turn).client.deviceList.sequence.toNat) ∧
    Excludes (tenure.perform turn).client.deviceList.devices (tenure.perform turn).revoked

/-- What is added is not revoked. -/
theorem excludes_append_iff {turn : Turn words} {list : DeviceList crypto}
    {added : List (DeviceCertificate crypto)}
    (new : ∀ device ∈ added, turn.edit = .add ∧ device.deviceEd25519Pubkey.bytes =
      (Keychain.fromMnemonic words turn.mnemonic turn.password).deviceEd25519Pub)
    (revoked : List Key) :
    Excludes (turn.leaves list ++ added) (turn.revokes list revoked) ↔
      Excludes (turn.leaves list) (turn.revokes list revoked) := by
  refine ⟨fun excludes device member => excludes device (List.mem_append_left _ member), ?_⟩
  intro excludes device member
  rcases List.mem_append.mp member with left | last
  · exact excludes device left
  · obtain ⟨adds, bytes⟩ := new device last
    rw [Turn.revokes, adds]
    simp [bytes]

/-- Where an operation takes effect, it advances the list exactly if it starts from a current
one. -/
theorem advances_iff_current {tenure : Tenure crypto} {turn : Turn words}
    {operations : List (DhtOperation × SocketAddr)}
    (ran : turn.saved.run tenure.client = (.ok operations, (turn.run tenure.client).2)) :
    (tenure.client.deviceList.sequence.toNat <
        (tenure.perform turn).client.deviceList.sequence.toNat ∧
      Excludes (tenure.perform turn).client.deviceList.devices (tenure.perform turn).revoked) ↔
        tenure.Current turn := by
  obtain ⟨list, added, latest, sequence, devices, new⟩ := Turn.run_saved_ok ran
  have revoked : (tenure.perform turn).revoked = turn.revokes list tenure.revoked := by
    rw [perform, ran, latest]
  rw [revoked, perform]
  dsimp only
  rw [sequence, devices, excludes_append_iff new]
  constructor
  · rintro holds other found
    rw [← Except.ok.inj (latest.symm.trans found)]
    exact holds
  · exact fun current => current list latest

/-- An operation that starts from a current list advances the client's, if it does anything. -/
theorem advances_of_current {tenure : Tenure crypto} {turn : Turn words}
    (excludes : Excludes tenure.client.deviceList.devices tenure.revoked)
    (current : tenure.Current turn) : tenure.Advances turn ∧
      Excludes (tenure.perform turn).client.deviceList.devices (tenure.perform turn).revoked := by
  rcases turn.foretells_saved tenure.client with ⟨fault, failed, unsaved⟩ | ⟨operations, ran⟩
  · have unchanged : tenure.perform turn = tenure := by
      rw [perform, failed, unsaved]
    rw [Advances, unchanged, failed]
    exact ⟨⟨fun returns => absurd returns (Outcome.not_returns_fault _), excludes⟩, excludes⟩
  · obtain ⟨grows, excluded⟩ := (advances_iff_current ran).mpr current
    exact ⟨⟨fun _ => grows, excluded⟩, excluded⟩

/-- As long as every list that an operation starts from is current, the sequence number grows with
every operation that succeeds, and no device that was revoked is listed until it is added again. -/
theorem never_rolls_back (client : Client crypto) (turns : List (Turn words))
    (current : Run.Along perform Current ⟨client, []⟩ turns) :
    Run.Along perform Advances ⟨client, []⟩ turns :=
  Run.along_of_along (fun _ _ => advances_of_current) (fun _ _ => List.not_mem_nil) current

/-! ### A record of long ago -/

open Client (sampleClient sampleMnemonics sampleSurroundings)

/-- The sample client revokes its other device, whatever it finds. -/
def revocation : Turn sampleMnemonics where
  mnemonic := ()
  password := none
  env := sampleSurroundings
  edit := .revoke 0

/-- It adds a device, and finds a record of its list from before. -/
def addition (contact : Outcome (ContactRecord sampleSuite)) : Turn sampleMnemonics where
  mnemonic := ()
  password := none
  env := { sampleSurroundings with contact }
  edit := .add

/-- What the device has published at first. -/
def formerContact : ContactRecord sampleSuite :=
  .new sampleClient.deviceList LookupTrace.sampleAddr 7
    (sampleMnemonics.signingKey (SampleSuite.octets 32 3))

/-- Both operations succeed, but the second one does not count up the sequence number, and the
device that was revoked is listed again. -/
theorem revoked_device_reappears :
    let revoked := perform ⟨sampleClient, []⟩ revocation
    formerContact.verify = true ∧
      (revocation.run sampleClient).1.Returns ∧
        ((addition (.ok formerContact)).run revoked.client).1.Returns ∧
          ¬ revoked.Advances (addition (.ok formerContact)) ∧
            (revoked.perform (addition (.ok formerContact))).client.deviceList.sequence =
              revoked.client.deviceList.sequence ∧
            ¬ Excludes (revoked.perform (addition (.ok formerContact))).client.deviceList.devices
              (revoked.perform (addition (.ok formerContact))).revoked := by
  intro revoked
  have returns : ((addition (.ok formerContact)).run revoked.client).1.Returns :=
    Outcome.returns_iff_isSome.mpr (by decide +kernel)
  have same : (revoked.perform (addition (.ok formerContact))).client.deviceList.sequence =
      revoked.client.deviceList.sequence := by
    decide +kernel
  refine ⟨by decide +kernel, Outcome.returns_iff_isSome.mpr (by decide +kernel), returns, ?_, same,
    by decide +kernel⟩
  intro advances
  have grows := advances.1 returns
  rw [same] at grows
  exact absurd grows (lt_irrefl _)

/-- When no record is found, the list goes on from our own. -/
theorem sampleClient_never_rolls_back :
    Run.Along perform Advances ⟨sampleClient, []⟩
      [revocation, addition (.error (.error "no contact record found"))] := by
  refine never_rolls_back _ _ ⟨?_, ?_, trivial⟩
  · intro list latest
    rw [← Except.ok.inj latest]
    exact ⟨by decide +kernel, by decide +kernel⟩
  · intro list latest
    rw [← Except.ok.inj latest]
    exact ⟨by decide +kernel, by decide +kernel⟩

end Tenure

end Insub
