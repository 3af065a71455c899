/-
This file follows a value from `store` of `runtime.rs` through a server to whoever looks for it.
The length of the value is written in two bytes, and nobody compares it with what these can hold. So
the value arrives as it was given exactly if it is shorter than 2^16 bytes; of a longer one, only
the beginning arrives.
-/

import Mathlib
import Insub.Dht.Serving
import Insub.Runtime.LookupNode

namespace Insub

open Rust

/-! ### What a server keeps -/

namespace Server

/-- The event stores something under the key. -/
def Event.StoresAt (key : Key) : Event → Prop
  | .received packet _ _ _ => ∃ senderId value ttlSeconds,
    DhtOperation.fromSerialized packet.payload.data = .ok (.store senderId key value ttlSeconds)
  | .call _ => False

/-- What is stored under a key stays there until something else is. -/
theorem lookup_perform (server : Server) {event : Event} {key : Key}
    (other : ¬ event.StoresAt key) :
    (server.perform event).node.store.lookup key = server.node.store.lookup key := by
  cases event with
  | call call => rfl
  | received packet sender now clock =>
    rw [perform, DhtNode.process]
    rcases parsed : (DhtOperation.fromSerialized packet.payload.data).asOption with
      fault | _ | operation
    · rfl
    · rfl
    · have read := Outcome.asOption_eq_ok_some_iff.mp parsed
      cases operation with
      | store senderId storedKey value ttlSeconds =>
        refine AList.lookup_insert_ne fun same => other ?_
        exact ⟨senderId, value, ttlSeconds, same ▸ read⟩
      | _ => rfl

theorem lookup_run (server : Server) {events : List Event} {key : Key}
    (others : ∀ event ∈ events, ¬ event.StoresAt key) :
    (events.foldl perform server).node.store.lookup key = server.node.store.lookup key := by
  induction events generalizing server with
  | nil => rfl
  | cons event rest inductionHypothesis =>
    rw [List.foldl_cons]
    refine (inductionHypothesis (server.perform event) ?_).trans ?_
    · exact fun later member => others later (List.mem_cons_of_mem _ member)
    · exact server.lookup_perform (others event List.mem_cons_self)

end Server

/-- The packet is read as the operation that stores the value. Whatever server it comes to answers
with the value until it expires, unless something else is stored under the key in between. -/
structure Packet.StoresWhole (packet : Packet) (publisher : NodeID) (key : Key) (value : Bytes)
    (ttl : U32) : Prop where
  decoded : DhtOperation.fromSerialized packet.payload.data = .ok (.store publisher key value ttl)
  found : ∀ (server last : Server) (events : List Server.Event) (sender asking : SocketAddr)
    (query : Packet) (asker : NodeID) (now later : Instant) (clock clockLater : Nat → Instant),
      last = events.foldl Server.perform (server.perform (.received packet sender now clock)) →
        (∀ event ∈ events, ¬ event.StoresAt key) → later < now + seconds ttl.toNat →
          query.payload.data = (DhtOperation.findValue asker key).serialize →
            ∃ response answer,
              (last.node.process query asking last.routing later clockLater).1 =
                .ok (some (response, asking)) ∧
              DhtOperation.fromSerialized response.serialize = .ok answer ∧
                answer.carried = some value

/-- A value whose length fits two bytes is stored as it is. -/
theorem Packet.storesWhole_of_fits {packet : Packet} {publisher : NodeID} {key : Key}
    {value : Bytes} {ttl : U32}
    (carries : packet.payload.data = (DhtOperation.store publisher key value ttl).serialize)
    (fits : value.length < 2 ^ 16) : packet.StoresWhole publisher key value ttl where
  decoded := by
    rw [carries, DhtOperation.fromSerialized_store, Nat.mod_eq_of_lt fits, List.take_length]
  found := by
    intro server last events sender asking query asker now later clock clockLater reached others
      fresh asks
    have held : last.node.store.lookup key = some (value, now + seconds ttl.toNat) := by
      rw [reached, Server.lookup_run _ others, Server.perform,
        DhtNode.process_eq carries ⟨fits, rfl⟩]
      exact AList.lookup_insert _
    have fitting : (DhtOperation.value last.node.id key (some value)
        (DhtNode.closestTo last.routing { id := key } asker)).Fits := by
      refine ⟨fun _ same => Option.some.inj same ▸ fits, ?_⟩
      calc
        (DhtNode.closestTo last.routing { id := key } asker).length ≤ Routing.k :=
          (List.length_filter_le _ _).trans (List.length_take_le _ _)
        _ < 2 ^ 16 := by decide
    have read := DhtOperation.fromSerialized_serialize_append fitting []
    rw [List.append_nil] at read
    refine ⟨_, _, ?_, read, rfl⟩
    rw [DhtNode.process_eq asks ⟨trivial, rfl⟩, DhtNode.processOp_findValue held fresh]

namespace DhtRuntime

/-- What `store` sends, in each packet. -/
theorem data_of_store {runtime : DhtRuntime} {key : Key} {value : Bytes} {ttl : U32}
    {answers : List Answer} {ids : Nat → U128} {queued : List (Packet × SocketAddr)}
    (stored : (runtime.store key value ttl answers ids).1 = .ok queued) :
    queued ≠ [] ∧ ∀ sent ∈ queued,
      sent.1.payload.data = (DhtOperation.store runtime.id key value ttl).serialize := by
  obtain ⟨closest, -, filled, rfl⟩ := store_eq_ok_iff.mp stored
  refine ⟨fun none => filled (List.mapIdx_eq_nil_iff.mp none), fun sent member => ?_⟩
  obtain ⟨index, inside, rfl⟩ := List.mem_mapIdx.mp member
  rfl

/-- What is given to `store` is what servers keep and answer, exactly if its length fits two
bytes. -/
theorem store_whole_iff {runtime : DhtRuntime} {key : Key} {value : Bytes} {ttl : U32}
    {answers : List Answer} {ids : Nat → U128} {queued : List (Packet × SocketAddr)}
    (stored : (runtime.store key value ttl answers ids).1 = .ok queued) :
    queued ≠ [] ∧ ((∀ sent ∈ queued, sent.1.StoresWhole runtime.id key value ttl) ↔
      value.length < 2 ^ 16) := by
  obtain ⟨filled, carries⟩ := data_of_store stored
  refine ⟨filled, fun whole => ?_, fun fits sent member => ?_⟩
  · obtain ⟨sent, member⟩ := List.exists_mem_of_ne_nil queued filled
    have read := (whole sent member).decoded
    rw [carries sent member, DhtOperation.fromSerialized_store] at read
    have cut : value.take (value.length % 2 ^ 16) = value :=
      (DhtOperation.store.inj (Except.ok.inj read)).2.2.1
    have length := congrArg List.length cut
    rw [List.length_take_of_le (Nat.mod_le _ _)] at length
    exact length ▸ Nat.mod_lt _ (by norm_num)
  · exact Packet.storesWhole_of_fits (carries sent member) fits

open LookupTrace (sampleNode sampleAddr sampleAnswer)

/-- What a node stores at the nodes that it finds. -/
def sampleStore (value : Bytes) : Outcome (List (Packet × SocketAddr)) :=
  (sampleRuntime.store (Octets.zero 32) value 3600 [sampleAnswer [2], sampleAnswer []]
    fun index => BitVec.ofNat 128 (index + 1)).1

/-- Whatever the value is, it is sent. -/
theorem sampleStore_sends (value : Bytes) : ∃ queued, sampleStore value = .ok queued := by
  have found : (sampleRuntime.lookupNode { id := Octets.zero 32 }
      [sampleAnswer [2], sampleAnswer []]).1 =
        .ok [(sampleNode 1, sampleAddr), (sampleNode 2, sampleAddr), (sampleNode 2, sampleAddr)] := by
    decide +kernel
  exact ⟨_, store_eq_ok_iff.mpr ⟨_, found, List.cons_ne_nil _ _, rfl⟩⟩

/-- Of 2^16 bytes, none arrives. -/
theorem long_value_lost :
    let value : Bytes := List.replicate (2 ^ 16) 7
    ∃ queued, sampleStore value = .ok queued ∧ queued ≠ [] ∧ ∀ sent ∈ queued,
      DhtOperation.fromSerialized sent.1.payload.data =
        .ok (.store sampleRuntime.id (Octets.zero 32) [] 3600) := by
  intro value
  obtain ⟨queued, stored⟩ := sampleStore_sends value
  obtain ⟨filled, carries⟩ := data_of_store stored
  have none : value.take (value.length % 2 ^ 16) = [] := by
    rw [List.length_replicate, Nat.mod_self, List.take_zero]
  refine ⟨queued, stored, filled, fun sent member => ?_⟩
  rw [carries sent member, DhtOperation.fromSerialized_store, none]

/-- Three bytes arrive. -/
theorem short_value_arrives : ∃ queued, sampleStore [1, 2, 3] = .ok queued ∧ queued ≠ [] ∧
    ∀ sent ∈ queued, sent.1.StoresWhole sampleRuntime.id (Octets.zero 32) [1, 2, 3] 3600 := by
  obtain ⟨queued, stored⟩ := sampleStore_sends [1, 2, 3]
  obtain ⟨filled, whole⟩ := store_whole_iff stored
  exact ⟨queued, stored, filled, whole.mpr (by decide)⟩

end DhtRuntime

end Insub
