/-
This file compares a registry with the map it stands for, from an id to the entry that was added
for it last. The registry is a list: a new entry goes to the end, a lookup takes the first that
matches, and a removal drops all that match. So the map and the list agree as long as no
relay that is still registered is added with another address, and what is written and read again
keeps all that distinguishes the entries.
-/

import Mathlib
import Insub.Library.Run
import Insub.Network.RegistryCodec

namespace Insub

open Rust

/-! ### Lookups -/

namespace RelayRegistry

theorem lookup_add (relays : RelayRegistry) (entry : RelayEntry) (id : U128) :
    (relays.add entry).lookup id =
      (relays.lookup id).or (if entry.id = id then some entry else none) := by
  rw [lookup, add, List.find?_append, List.find?_singleton, lookup]
  simp only [decide_eq_true_eq]

theorem lookup_remove (relays : RelayRegistry) (removed id : U128) :
    (relays.remove removed).lookup id = if id = removed then none else relays.lookup id := by
  rw [lookup, remove, List.find?_filter]
  by_cases same : id = removed
  · rw [if_pos same, List.find?_eq_none]
    intro entry _
    simp only [same, decide_not, Bool.not_eq_true', decide_eq_false_iff_not, decide_eq_true_eq,
      not_and]
    exact fun other own => other own
  · rw [if_neg same, lookup]
    refine List.find?_congr fun entry _ => ?_
    by_cases own : entry.id = id
    · simp [own, same]
    · simp [own]

theorem lookup_eq_some {relays : RelayRegistry} {id : U128} {entry : RelayEntry}
    (found : relays.lookup id = some entry) : entry ∈ relays.registry ∧ entry.id = id :=
  ⟨List.mem_of_find?_eq_some found, by simpa using List.find?_some found⟩

theorem lookup_eq_none_iff {relays : RelayRegistry} {id : U128} :
    relays.lookup id = none ↔ ∀ entry ∈ relays.registry, entry.id ≠ id := by
  rw [lookup, List.find?_eq_none]
  simp only [decide_eq_true_eq, ne_eq]

/-- The registry is the map: each of its entries is the one that is found under its id. -/
structure Represents (crypto : Primitives) (latest : U128 → Option RelayEntry)
    (relays : RelayRegistry) : Prop where
  built : ∀ entry ∈ relays.registry, entry.Built crypto
  agrees : ∀ id, relays.lookup id = latest id
  found : ∀ entry ∈ relays.registry, relays.lookup entry.id = some entry

variable {crypto : Primitives} {latest : U128 → Option RelayEntry} {relays : RelayRegistry}

theorem represents_new : Represents crypto (fun _ => none) new where
  built _ member := absurd member List.not_mem_nil
  agrees _ := rfl
  found _ member := absurd member List.not_mem_nil

/-- Adding an entry writes over the map exactly when no other entry is held for its id. -/
theorem Represents.add_iff (represents : relays.Represents crypto latest) (entry : RelayEntry) :
    (∀ id, (relays.add entry).lookup id = Function.update latest entry.id (some entry) id) ↔
      ∀ held, relays.lookup entry.id = some held → held = entry := by
  constructor
  · intro agrees held found
    have here := agrees entry.id
    rw [lookup_add, found, Option.some_or, Function.update_self] at here
    exact Option.some.inj here
  · intro only id
    rw [lookup_add]
    by_cases own : entry.id = id
    · subst own
      rw [if_pos rfl, Function.update_self]
      cases found : relays.lookup entry.id with
      | none => rfl
      | some held => rw [only held found, Option.some_or]
    · rw [if_neg own, Option.or_none, Function.update_of_ne (Ne.symm own), represents.agrees]

theorem Represents.add (represents : relays.Represents crypto latest) {entry : RelayEntry}
    (built : entry.Built crypto)
    (only : ∀ held, relays.lookup entry.id = some held → held = entry) :
    (relays.add entry).Represents crypto (Function.update latest entry.id (some entry)) where
  built := List.forall_mem_append.mpr ⟨represents.built, List.forall_mem_singleton.mpr built⟩
  agrees := (represents.add_iff entry).mpr only
  found := by
    intro other member
    rw [lookup_add]
    rcases List.mem_append.mp member with old | new
    · rw [represents.found other old, Option.some_or]
    · rw [List.mem_singleton.mp new, if_pos rfl]
      cases found : relays.lookup entry.id with
      | none => rfl
      | some held => rw [only held found, Option.some_or]

theorem Represents.remove (represents : relays.Represents crypto latest) (removed : U128) :
    (relays.remove removed).Represents crypto (Function.update latest removed none) where
  built entry member := represents.built entry (List.mem_of_mem_filter member)
  agrees id := by
    rw [lookup_remove]
    by_cases same : id = removed
    · rw [if_pos same, same, Function.update_self]
    · rw [if_neg same, Function.update_of_ne same, represents.agrees]
  found entry member := by
    obtain ⟨held, other⟩ := List.mem_filter.mp member
    rw [lookup_remove, if_neg (of_decide_eq_true other), represents.found entry held]

/-! ### Writing and reading -/

/-- What the parser hands back for what the writer has written. -/
def reread (relays : RelayRegistry) : RelayRegistry :=
  ⟨(relays.registry.take (relays.registry.length % 2 ^ 32)).map RelayEntry.plain⟩

/-- Nothing is lost when the registry is written and read: no address has a flow info or a scope
id, and each entry stands among those that the four bytes for their number count. -/
def Survives (relays : RelayRegistry) : Prop :=
  ∀ entry ∈ relays.registry, entry.address.IsPlain ∧
    entry ∈ relays.registry.take (relays.registry.length % 2 ^ 32)

theorem mem_reread_iff {relays : RelayRegistry} {entry : RelayEntry} :
    entry ∈ relays.reread.registry ↔
      ∃ written ∈ relays.registry.take (relays.registry.length % 2 ^ 32), written.plain = entry :=
  List.mem_map

theorem Survives.plain_eq {relays : RelayRegistry} (survives : relays.Survives)
    {entry : RelayEntry} (member : entry ∈ relays.registry) : entry.plain = entry := by
  rw [RelayEntry.plain, (survives entry member).1]

/-- What is written and read again is the map as before exactly when nothing is lost. -/
theorem Represents.reread_iff (represents : relays.Represents crypto latest) :
    (∀ id, relays.reread.lookup id = latest id) ↔ relays.Survives := by
  constructor
  · intro agrees entry member
    have held := represents.found entry member
    have kept : relays.reread.lookup entry.id = some entry := by
      rw [agrees, ← represents.agrees, held]
    obtain ⟨written, among, same⟩ := mem_reread_iff.mp (lookup_eq_some kept).1
    have sameId : written.id = entry.id := by
      rw [← same]
      rfl
    have own := represents.found written (List.mem_of_mem_take among)
    rw [sameId, held] at own
    rw [← Option.some.inj own] at among same
    exact ⟨congrArg RelayEntry.address same, among⟩
  · intro survives id
    rw [← represents.agrees]
    cases held : relays.lookup id with
    | none =>
      refine lookup_eq_none_iff.mpr fun entry member => ?_
      obtain ⟨written, among, rfl⟩ := mem_reread_iff.mp member
      exact lookup_eq_none_iff.mp held written (List.mem_of_mem_take among)
    | some entry =>
      obtain ⟨member, named⟩ := lookup_eq_some held
      have still : entry ∈ relays.reread.registry :=
        mem_reread_iff.mpr ⟨entry, (survives entry member).2, survives.plain_eq member⟩
      cases kept : relays.reread.lookup id with
      | none => exact absurd named (lookup_eq_none_iff.mp kept entry still)
      | some other =>
        obtain ⟨read, sameId⟩ := lookup_eq_some kept
        obtain ⟨written, among, rfl⟩ := mem_reread_iff.mp read
        have own := List.mem_of_mem_take among
        rw [survives.plain_eq own] at sameId ⊢
        rw [← held, ← sameId, represents.found written own]

theorem Represents.reread (represents : relays.Represents crypto latest)
    (survives : relays.Survives) : relays.reread.Represents crypto latest := by
  have agrees := represents.reread_iff.mpr survives
  have kept : ∀ entry ∈ relays.reread.registry, entry ∈ relays.registry := by
    intro entry member
    obtain ⟨written, among, rfl⟩ := mem_reread_iff.mp member
    have own := List.mem_of_mem_take among
    rwa [survives.plain_eq own]
  refine ⟨fun entry member => represents.built entry (kept entry member), agrees, ?_⟩
  intro entry member
  rw [agrees, ← represents.agrees, represents.found entry (kept entry member)]

end RelayRegistry

/-! ### Runs -/

/-- One call on a registry. What is written is kept, and can be read again at any time. -/
inductive RegistryCall
  | add (id : U128) (pubkey : Key) (address : SocketAddr)
  | remove (id : U128)
  | serialize
  | fromSerialized (index : Nat)

/-- A registry in use, the entry that was added last for each id and not removed since, and all
registries that were written, each with the entries that were the last at that time. -/
structure RegistryUse where
  relays : RelayRegistry
  latest : U128 → Option RelayEntry
  written : List (RelayRegistry × (U128 → Option RelayEntry))

namespace RegistryUse

def start : RegistryUse where
  relays := .new
  latest _ := none
  written := []

/-- An entry that `RelayEntry::new` refuses is not added, and a registry that cannot be read takes
the place of none. -/
def perform (crypto : Primitives) (use : RegistryUse) : RegistryCall → RegistryUse
  | .add id pubkey address =>
    match RelayEntry.new crypto id pubkey address with
    | .ok entry => { use with
        relays := use.relays.add entry, latest := Function.update use.latest entry.id (some entry) }
    | .error _ => use
  | .remove id => { use with
      relays := use.relays.remove id, latest := Function.update use.latest id none }
  | .serialize => { use with written := use.written ++ [(use.relays, use.latest)] }
  | .fromSerialized index =>
    match use.written[index]? with
    | none => use
    | some (relays, latest) =>
      match RelayRegistry.fromSerialized crypto relays.serialize with
      | .ok relays => { use with relays, latest }
      | .error _ => use

/-- A lookup finds the entry that was added last and not removed since, and the forwarder sends
what is framed for an id to the address of that entry. -/
def FindsLatest (use : RegistryUse) : Prop :=
  ∀ id, use.relays.lookup id = use.latest id ∧
    ∀ outer packet : Packet, outer.payload.data = RelayFrame.serialize ⟨id, packet.serialize⟩ →
      (RelayForwarder.mk use.relays).resolve outer =
        (use.latest id).map fun entry => (packet, entry.address)

/-- The call does not add an entry to another that is held for the id, and reads no registry of
which something was lost in writing. -/
def KeepsApart (crypto : Primitives) (use : RegistryUse) : RegistryCall → Prop
  | .add id pubkey address => id = deriveId crypto pubkey →
    ∀ held, use.relays.lookup id = some held → held = ⟨id, pubkey, address⟩
  | .fromSerialized index => ∀ saved ∈ use.written[index]?, saved.1.Survives
  | _ => True

theorem findsLatest_iff {use : RegistryUse} :
    use.FindsLatest ↔ ∀ id, use.relays.lookup id = use.latest id := by
  refine ⟨fun finds id => (finds id).1, fun agrees id => ⟨agrees id, fun outer packet framed => ?_⟩⟩
  cases registered : use.latest id with
  | none => exact RelayForwarder.resolve_of_not_registered framed ((agrees id).trans registered)
  | some entry => exact RelayForwarder.resolve_of_frame framed ((agrees id).trans registered)

/-- The registry, and each that was written, is the map it stands for. -/
structure Sound (crypto : Primitives) (use : RegistryUse) : Prop where
  relays : use.relays.Represents crypto use.latest
  written : ∀ saved ∈ use.written, saved.1.Represents crypto saved.2

variable {crypto : Primitives} {use : RegistryUse}

theorem sound_start : start.Sound crypto :=
  ⟨RelayRegistry.represents_new, List.forall_mem_nil _⟩

/-- What was written is always read. -/
theorem perform_fromSerialized (sound : use.Sound crypto) {index : Nat}
    {saved : RelayRegistry × (U128 → Option RelayEntry)} (stored : use.written[index]? = some saved) :
    use.perform crypto (.fromSerialized index) =
      { use with relays := saved.1.reread, latest := saved.2 } := by
  have built := (sound.written saved (List.mem_of_getElem? stored)).built
  simp only [perform, stored, RelayRegistry.fromSerialized_serialize_take built]
  rfl

theorem findsLatest_perform_iff (sound : use.Sound crypto) (call : RegistryCall) :
    (use.perform crypto call).FindsLatest ↔ use.KeepsApart crypto call := by
  rw [findsLatest_iff]
  cases call with
  | add id pubkey address =>
    by_cases derived : id = deriveId crypto pubkey
    · subst derived
      simp only [perform, RelayEntry.new_derived, KeepsApart, forall_const]
      exact sound.relays.add_iff ⟨deriveId crypto pubkey, pubkey, address⟩
    · simp only [perform, RelayEntry.new, KeepsApart, ne_eq, derived, not_false_eq_true, if_true]
      exact iff_of_true sound.relays.agrees False.elim
  | remove id => exact iff_of_true (sound.relays.remove id).agrees trivial
  | serialize => exact iff_of_true sound.relays.agrees trivial
  | fromSerialized index =>
    cases stored : use.written[index]? with
    | none =>
      simp only [perform, stored, KeepsApart]
      refine iff_of_true sound.relays.agrees ?_
      rintro _ ⟨⟩
    | some saved =>
      have represents := sound.written saved (List.mem_of_getElem? stored)
      rw [perform_fromSerialized sound stored, KeepsApart, stored]
      refine represents.reread_iff.trans ⟨?_, fun survives => survives saved rfl⟩
      rintro survives _ ⟨⟩
      exact survives

theorem Sound.perform (sound : use.Sound crypto) {call : RegistryCall}
    (apart : use.KeepsApart crypto call) : (use.perform crypto call).Sound crypto := by
  cases call with
  | add id pubkey address =>
    by_cases derived : id = deriveId crypto pubkey
    · subst derived
      simp only [RegistryUse.perform, RelayEntry.new_derived]
      exact ⟨sound.relays.add ⟨_, _, _, RelayEntry.new_derived crypto pubkey address⟩ (apart rfl),
        sound.written⟩
    · simp only [RegistryUse.perform, RelayEntry.new, ne_eq, derived, not_false_eq_true, if_true]
      exact sound
  | remove id => exact ⟨sound.relays.remove id, sound.written⟩
  | serialize =>
    exact ⟨sound.relays, List.forall_mem_append.mpr
      ⟨sound.written, List.forall_mem_singleton.mpr sound.relays⟩⟩
  | fromSerialized index =>
    cases stored : use.written[index]? with
    | none =>
      simp only [RegistryUse.perform, stored]
      exact sound
    | some saved =>
      rw [perform_fromSerialized sound stored]
      have represents := sound.written saved (List.mem_of_getElem? stored)
      exact ⟨represents.reread (apart saved stored), sound.written⟩

/-- However a registry is used, lookups and the forwarder go by the entries that were added last all
along exactly when each call keeps the entries of an id apart. -/
theorem finds_latest_iff (crypto : Primitives) (calls : List RegistryCall) :
    Run.Along (perform crypto) (fun use call => (use.perform crypto call).FindsLatest) start calls ↔
      Run.Along (perform crypto) (KeepsApart crypto) start calls :=
  Run.along_iff (fun use call (sound : use.Sound crypto) => findsLatest_perform_iff sound call)
    (fun _ call sound finds => sound.perform ((findsLatest_perform_iff sound call).mp finds))
    sound_start calls

/-- The id of a sample relay. -/
def sampleId : U128 := deriveId sampleSuite (Octets.zero 32)

/-- A relay is added at one port, and again at another. -/
def movedRelay : RegistryUse :=
  [.add sampleId (Octets.zero 32) (.v4 (Octets.zero 4) 80),
    .add sampleId (Octets.zero 32) (.v4 (Octets.zero 4) 81)].foldl (perform sampleSuite) start

/-- The relay is still found at its old port. -/
theorem movedRelay_found_at_old_port :
    (movedRelay.relays.lookup sampleId).map RelayEntry.address =
        some (.v4 (Octets.zero 4) 80) ∧
      (movedRelay.latest sampleId).map RelayEntry.address = some (.v4 (Octets.zero 4) 81) ∧
        ¬ movedRelay.FindsLatest := by
  have found : (movedRelay.relays.lookup sampleId).map RelayEntry.address =
      some (.v4 (Octets.zero 4) 80) := by decide +kernel
  have added : (movedRelay.latest sampleId).map RelayEntry.address =
      some (.v4 (Octets.zero 4) 81) := by decide +kernel
  refine ⟨found, added, fun finds => ?_⟩
  rw [(finds sampleId).1, added] at found
  exact absurd found (by decide)

end RegistryUse

end Insub
