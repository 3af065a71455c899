/-
This file follows a contact record from the client that publishes it to the one that looks it up.
A record of one to five devices that one of them has signed survives the way through a server: it
is stored, answered and decoded as it was. But whoever publishes does not look whether the key of
the runtime is that of a listed device. So what is published is found exactly if it is, and if the
list has a device and not too many of them.
-/

import Mathlib
import Insub.Client.Devices
import Insub.Dht.ContactCodec
import Insub.Dht.Serving

namespace Insub

open Rust

variable {crypto : Primitives}

/-! ### Records -/

namespace Record

/-- A record that is not empty is read back, unless it is too long. -/
theorem fromSerialized_serialize {record : Record} (some : record.data ≠ []) :
    fromSerialized record.serialize =
      if maxRecordSize < record.data.length then .error (.error "record exceeds max size")
      else .ok record := by
  obtain ⟨tag, data⟩ := record
  have filled : ¬ data.isEmpty = true := by
    rw [List.isEmpty_iff]
    exact some
  cases tag
  rw [serialize, List.singleton_append, fromSerialized, if_neg filled]
  rfl

end Record

namespace ContactRecord

/-- The record as it is stored. -/
def wrapped (contact : ContactRecord crypto) : Bytes :=
  Record.serialize { tag := .contact, data := contact.serialize }

theorem serialize_ne_nil (contact : ContactRecord crypto) : contact.serialize ≠ [] := by
  refine List.ne_nil_of_length_pos ?_
  rw [length_serialize]
  omega

theorem addrBytes_plain (addr : SocketAddr) : addrBytes addr.plain = addrBytes addr := by
  cases addr <;> rfl

/-- The wire leaves nothing out that is signed. -/
theorem verify_plain (contact : ContactRecord crypto) :
    verify { contact with relayAddr := contact.relayAddr.plain } = contact.verify := by
  rw [verify, verify, signedData, signedData, addrBytes_plain]

theorem readContact_wrapped {contact : ContactRecord crypto}
    (listed : contact.deviceList.devices ≠ [])
    (few : contact.deviceList.devices.length ≤ DeviceList.maxDevices) :
    readContact crypto contact.wrapped =
      if contact.verify = true then .ok { contact with relayAddr := contact.relayAddr.plain }
      else .error (.error "contact record signature invalid") := by
  have short : ¬ Record.maxRecordSize < contact.serialize.length := by
    have most : contact.deviceList.devices.length ≤ 5 := few
    have addrSize := length_addrBytes contact.relayAddr
    rw [length_serialize, DeviceList.length_serialize, Record.maxRecordSize]
    omega
  rw [readContact, wrapped, Record.fromSerialized_serialize contact.serialize_ne_nil, if_neg short,
    Outcome.bind_ok, if_neg (not_not.mpr rfl), fromSerialized_serialize listed few, Outcome.bind_ok,
    verify_plain]

/-- A list without a device, or with too many, is not read. -/
theorem not_returns_readContact {contact : ContactRecord crypto}
    (outside : contact.deviceList.devices = [] ∨
      DeviceList.maxDevices < contact.deviceList.devices.length) :
    ¬ (readContact crypto contact.wrapped).Returns := by
  rw [readContact, wrapped, Record.fromSerialized_serialize contact.serialize_ne_nil]
  by_cases long : Record.maxRecordSize < contact.serialize.length
  · rw [if_pos long]
    exact Outcome.not_returns_fault _
  · rw [if_neg long, Outcome.bind_ok, if_neg (not_not.mpr rfl)]
    rcases outside with unlisted | many
    · rw [fromSerialized_serialize_nil unlisted]
      exact Outcome.not_returns_fault _
    · rw [length_serialize, Record.maxRecordSize] at long
      rw [fromSerialized_serialize_many many (by omega)]
      exact Outcome.not_returns_fault _

theorem devices_ne_nil_of_verify {contact : ContactRecord crypto}
    (verifies : contact.verify = true) : contact.deviceList.devices ≠ [] := by
  intro unlisted
  rw [verify, unlisted] at verifies
  cases verifies

theorem length_wrapped_lt {contact : ContactRecord crypto}
    (few : contact.deviceList.devices.length ≤ DeviceList.maxDevices) :
    contact.wrapped.length < 2 ^ 16 := by
  have most : contact.deviceList.devices.length ≤ 5 := few
  have addrSize := length_addrBytes contact.relayAddr
  rw [wrapped, Record.serialize, List.length_append, length_serialize, DeviceList.length_serialize,
    List.length_singleton]
  omega

end ContactRecord

/-! ### Through a server -/

/-- A contact record that verifies survives: a server that gets it stores it, whoever stores it
answers with it until it expires, and whoever gets the answer decodes it as it was. -/
theorem contact_survives (contact : ContactRecord crypto) (verifies : contact.verify = true)
    (few : contact.deviceList.devices.length ≤ DeviceList.maxDevices)
    (plain : contact.relayAddr.IsPlain) (key : Key) (publisher : NodeID) (ttlSeconds : U32) :
    (∀ (server : DhtNode) (packet : Packet) (sender : SocketAddr) (routing : RoutingTable)
      (now : Instant) (clock : Nat → Instant),
        packet.payload.data =
          (DhtOperation.store publisher key contact.wrapped ttlSeconds).serialize →
            (server.process packet sender routing now clock).1 =
                .ok (some (.storeAck server.id key, sender)) ∧
              (server.process packet sender routing now clock).2.1.store.lookup key =
                some (contact.wrapped, now + seconds ttlSeconds.toNat)) ∧
    (∀ (server : DhtNode) (packet : Packet) (asker : NodeID) (asking : SocketAddr)
      (routing : RoutingTable) (now expires : Instant) (clock : Nat → Instant),
        server.store.lookup key = some (contact.wrapped, expires) → now < expires →
          packet.payload.data = (DhtOperation.findValue asker key).serialize →
            ∃ closestNodes, closestNodes.length ≤ Routing.k ∧
              (server.process packet asking routing now clock).1 =
                .ok (some (.value server.id key (some contact.wrapped) closestNodes, asking))) ∧
    ∀ (server : NodeID) (closestNodes : NodeList), closestNodes.length ≤ Routing.k →
      ∃ response, DhtOperation.fromSerialized
          (DhtOperation.value server key (some contact.wrapped) closestNodes).serialize =
            .ok response ∧
        response.carried = some contact.wrapped ∧
          readContact crypto contact.wrapped = .ok contact ∧ contact.verify = true := by
  have fits := ContactRecord.length_wrapped_lt few
  refine ⟨?_, ?_, ?_⟩
  · intro server packet sender routing now clock carries
    rw [DhtNode.process_eq carries ⟨fits, rfl⟩]
    exact ⟨rfl, AList.lookup_insert _⟩
  · intro server packet asker asking routing now expires clock held fresh carries
    refine ⟨DhtNode.closestTo routing { id := key } asker, ?_, ?_⟩
    · exact (List.length_filter_le _ _).trans (List.length_take_le _ _)
    · rw [DhtNode.process_eq carries ⟨trivial, rfl⟩, DhtNode.processOp_findValue held fresh]
  · intro server closestNodes short
    have fitting : (DhtOperation.value server key (some contact.wrapped) closestNodes).Fits :=
      ⟨fun _ same => Option.some.inj same ▸ fits, short.trans_lt (by decide)⟩
    have read := DhtOperation.fromSerialized_serialize_append fitting []
    rw [List.append_nil] at read
    refine ⟨_, read, rfl, ?_, verifies⟩
    rw [ContactRecord.readContact_wrapped (ContactRecord.devices_ne_nil_of_verify verifies) few,
      if_pos verifies, show contact.relayAddr.plain = contact.relayAddr from plain]

/-- A new server that gets the record of a device answers with it. -/
theorem foreignContact_survives :
    let server := DhtNode.new (LookupTrace.sampleNode 1) LookupTrace.sampleAddr
    let store := DhtOperation.store (LookupTrace.sampleNode 0) (Octets.zero 32)
      Search.foreignContact.wrapped 3600
    (server.process (.new 0 0 (.new .dhtOperation store.serialize)) LookupTrace.sampleAddr
        LookupTrace.sampleTable 0 fun _ => 0).2.1.store.lookup (Octets.zero 32) =
          some (Search.foreignContact.wrapped, seconds 3600) ∧
      readContact sampleSuite Search.foreignContact.wrapped = .ok Search.foreignContact := by
  intro server store
  have survives := contact_survives Search.foreignContact (by decide +kernel)
    (by decide) (by decide) (Octets.zero 32) (LookupTrace.sampleNode 0) 3600
  refine ⟨(survives.1 server _ _ _ _ _ rfl).2.trans ?_, ?_⟩
  · rw [Nat.zero_add]
    rfl
  · obtain ⟨_, -, -, read, -⟩ := survives.2.2 server.id [] (Nat.zero_le _)
    exact read

/-! ### What a client publishes -/

namespace Publisher

/-- What a client publishes is one record, for each of the nodes that are closest to its key. -/
theorem publishContact_eq_ok_iff {publisher : Publisher crypto} {deviceList : DeviceList crypto}
    {relayAddr : SocketAddr} {relayId : U128} {ttl : U32} {found : Outcome NodeList}
    {operations : List (DhtOperation × SocketAddr)} :
    publisher.publishContact deviceList relayAddr relayId ttl found = .ok operations ↔
      ∃ deviceKey master closest, publisher.deviceEd25519Priv = some deviceKey ∧
        publisher.masterPubkey = some master ∧ found = .ok closest ∧ closest ≠ [] ∧
          operations = closest.map fun (_, addr) =>
            (.store publisher.id (contactKeyFor crypto master)
              (ContactRecord.new deviceList relayAddr relayId deviceKey).wrapped ttl, addr) := by
  rw [publishContact]
  constructor
  · intro published
    obtain ⟨deviceKey, signing, published⟩ := Outcome.bind_eq_ok_iff.mp published
    obtain ⟨master, named, published⟩ := Outcome.bind_eq_ok_iff.mp published
    obtain ⟨closest, nearest, published⟩ := Outcome.bind_eq_ok_iff.mp published
    by_cases none : closest.isEmpty = true
    · rw [if_pos none] at published
      cases published
    · rw [if_neg none] at published
      refine ⟨deviceKey, master, closest, okOr_eq_ok_iff.mp signing, okOr_eq_ok_iff.mp named,
        nearest, ?_, (Except.ok.inj published).symm⟩
      rwa [List.isEmpty_iff] at none
  · rintro ⟨deviceKey, master, closest, signing, named, rfl, some, rfl⟩
    have filled : ¬ closest.isEmpty = true := by rwa [List.isEmpty_iff]
    rw [signing, named, okOr, okOr, Outcome.bind_ok, Outcome.bind_ok, store, Outcome.bind_ok,
      if_neg filled]
    rfl

/-- Of the listed devices, only one whose key has made the signature verifies it. -/
def SignsAlone (deviceKey : SigningKey crypto) (list : DeviceList crypto) (message : Bytes) :
    Prop :=
  ∀ certificate ∈ list.devices,
    certificate.deviceEd25519Pubkey.verify message (deviceKey.sign message) = true →
      certificate.deviceEd25519Pubkey = deviceKey.verifyingKey

/-- A record verifies exactly if the key that signs it is that of a listed device. -/
theorem verify_new_iff {deviceKey : SigningKey crypto} (signs : deviceKey.SignsVerifiably)
    {list : DeviceList crypto} {relayAddr : SocketAddr} {relayId : U128}
    (alone : SignsAlone deviceKey list (ContactRecord.signedData list relayAddr relayId)) :
    (ContactRecord.new list relayAddr relayId deviceKey).verify = true ↔
      list.containsActive deviceKey.verifyingKey = true := by
  rw [ContactRecord.verify, DeviceList.containsActive, List.any_eq_true, List.any_eq_true]
  refine exists_congr fun certificate => and_congr_right fun member => ?_
  rw [decide_eq_true_iff]
  refine ⟨alone certificate member, fun same => ?_⟩
  rw [same]
  exact signs _

/-- What is published is found exactly if the list has one to five devices, and the key of the
runtime is that of one of them. -/
theorem published_found_iff {publisher : Publisher crypto} {deviceKey : SigningKey crypto}
    (signing : publisher.deviceEd25519Priv = some deviceKey) (signs : deviceKey.SignsVerifiably)
    {list : DeviceList crypto} {relayAddr : SocketAddr} {relayId : U128}
    (alone : SignsAlone deviceKey list (ContactRecord.signedData list relayAddr relayId))
    {ttl : U32} {found : Outcome NodeList} {operations : List (DhtOperation × SocketAddr)}
    (published : publisher.publishContact list relayAddr relayId ttl found = .ok operations) :
    ∃ master value, publisher.masterPubkey = some master ∧ operations ≠ [] ∧
      (∀ operation ∈ operations.map Prod.fst,
        operation = .store publisher.id (contactKeyFor crypto master) value ttl) ∧
      ((readContact crypto value).Returns ↔
        list.devices.length ≤ DeviceList.maxDevices ∧
          list.containsActive deviceKey.verifyingKey = true) := by
  obtain ⟨key, master, closest, signed, named, -, some, rfl⟩ := publishContact_eq_ok_iff.mp published
  obtain rfl : deviceKey = key := Option.some.inj (signing.symm.trans signed)
  refine ⟨master, (ContactRecord.new list relayAddr relayId deviceKey).wrapped, named, ?_, ?_, ?_⟩
  · exact fun none => some (List.map_eq_nil_iff.mp none)
  · intro operation member
    rw [List.map_map] at member
    obtain ⟨node, -, rfl⟩ := List.mem_map.mp member
    rfl
  · have verifies := verify_new_iff signs alone
    by_cases many : DeviceList.maxDevices < list.devices.length
    · exact iff_of_false (ContactRecord.not_returns_readContact (Or.inr many))
        fun ⟨few, _⟩ => absurd few (not_le.mpr many)
    by_cases none : list.devices = []
    · refine iff_of_false (ContactRecord.not_returns_readContact (Or.inl none)) ?_
      rw [DeviceList.containsActive, none]
      exact fun ⟨_, listed⟩ => nomatch listed
    rw [ContactRecord.readContact_wrapped none (not_lt.mp many), ← verifies,
      and_iff_right (not_lt.mp many)]
    split
    · rename_i accepted
      exact iff_of_true (Outcome.returns_ok _) accepted
    · rename_i refused
      exact iff_of_false (Outcome.not_returns_fault _) refused

/-! ### A device that publishes, and a master key that does -/

open Client (sampleClient sampleMaster sampleMnemonics sampleMnemonics_signs)
open LookupTrace (sampleNode sampleAddr)

/-- What the sample client publishes of its list. -/
def samplePublished (publisher : Publisher sampleSuite) :
    Outcome (List (DhtOperation × SocketAddr)) :=
  publisher.publishContact sampleClient.deviceList sampleAddr 7 3600
    (.ok [(sampleNode 1, sampleAddr)])

/-- The runtime of the command line, which signs with the master key. -/
def commandLine : Publisher sampleSuite :=
  { sampleClient.rt with deviceEd25519Priv := some sampleMaster.privateKey }

/-- The runtime publishes the list, and nobody finds it. -/
theorem commandLine_not_found : ∃ operations value,
    samplePublished commandLine = .ok operations ∧
      operations.map Prod.fst = [.store commandLine.id
        (contactKeyFor sampleSuite sampleMaster.publicKey.bytes) value 3600] ∧
        readContact sampleSuite value = .error (.error "contact record signature invalid") :=
  ⟨_, (ContactRecord.new sampleClient.deviceList sampleAddr 7 sampleMaster.privateKey).wrapped,
    rfl, rfl, by decide +kernel⟩

/-- The device that the list names publishes it, and everyone finds it. -/
theorem sampleClient_found : ∃ operations value, samplePublished sampleClient.rt = .ok operations ∧
    (∀ operation ∈ operations.map Prod.fst, operation = .store sampleClient.rt.id
      (contactKeyFor sampleSuite sampleMaster.publicKey.bytes) value 3600) ∧
        (readContact sampleSuite value).Returns := by
  have signing : sampleClient.rt.deviceEd25519Priv =
      some (sampleMnemonics.signingKey (SampleSuite.octets 32 3)) := rfl
  have alone : SignsAlone (sampleMnemonics.signingKey (SampleSuite.octets 32 3))
      sampleClient.deviceList
        (ContactRecord.signedData sampleClient.deviceList sampleAddr 7) := by
    intro certificate member _
    rw [List.mem_singleton.mp member]
    rfl
  obtain ⟨master, value, named, -, stored, found⟩ := published_found_iff signing
    (sampleMnemonics_signs _) alone (rfl : samplePublished sampleClient.rt = .ok _)
  obtain rfl : sampleMaster.publicKey.bytes = master := Option.some.inj named
  exact ⟨_, value, rfl, stored, found.mpr ⟨by decide, by decide +kernel⟩⟩

end Publisher

end Insub
