/-
This file models `network/registry.rs`, the users that a relay forwards to, and the forwarder of
`network/relay.rs`.
-/

import Mathlib
import Insub.Network.Relay
import Insub.Protocol.Wire

namespace Insub

open Rust

structure RelayEntry where
  id : U128
  pubkey : Key
  address : SocketAddr

/-- An id is derived from the master public key. -/
def RelayEntry.new (crypto : Primitives) (id : U128) (pubkey : Key) (address : SocketAddr) :
    Outcome RelayEntry :=
  if id ≠ deriveId crypto pubkey then .error (.error "Invalid ID")
  else .ok { id, pubkey, address }

theorem RelayEntry.new_derived (crypto : Primitives) (pubkey : Key) (address : SocketAddr) :
    new crypto (deriveId crypto pubkey) pubkey address =
      .ok { id := deriveId crypto pubkey, pubkey, address } :=
  if_neg (not_not.mpr rfl)

structure RelayRegistry where
  registry : List RelayEntry

namespace RelayRegistry

def new : RelayRegistry := ⟨[]⟩

def add (relays : RelayRegistry) (entry : RelayEntry) : RelayRegistry :=
  ⟨relays.registry ++ [entry]⟩

def lookup (relays : RelayRegistry) (id : U128) : Option RelayEntry :=
  relays.registry.find? fun entry => entry.id = id

def remove (relays : RelayRegistry) (id : U128) : RelayRegistry :=
  ⟨relays.registry.filter fun entry => entry.id ≠ id⟩

end RelayRegistry

structure RelayForwarder where
  registry : RelayRegistry

/-- The packet in a frame, and the address of its destination. -/
def RelayForwarder.resolve (forwarder : RelayForwarder) (outer : Packet) :
    Option (Packet × SocketAddr) := do
  let frame ← (RelayFrame.fromSerialized outer.payload.data).toOption
  let entry ← forwarder.registry.lookup frame.destId
  let inner ← (Packet.fromSerialized frame.payload).toOption
  some (inner, entry.address)

def RelayForwarder.shouldConfirm (_ : RelayForwarder) (outer : Packet) : Bool :=
  outer.header.flags.contains .ackRequired

/-- The frame of a packet for a registered user is resolved to that packet and the address of the
user. -/
theorem RelayForwarder.resolve_of_frame {forwarder : RelayForwarder} {outer packet : Packet}
    {destId : U128} {entry : RelayEntry}
    (framed : outer.payload.data = RelayFrame.serialize ⟨destId, packet.serialize⟩)
    (registered : forwarder.registry.lookup destId = some entry) :
    forwarder.resolve outer = some (packet, entry.address) := by
  rw [resolve, framed, RelayFrame.fromSerialized_serialize]
  show (forwarder.registry.lookup destId).bind (fun entry =>
    (Packet.fromSerialized packet.serialize).toOption.bind fun inner =>
      some (inner, entry.address)) = _
  rw [registered, Packet.fromSerialized_serialize]
  rfl

/-- A destination that is not registered is not resolved. -/
theorem RelayForwarder.resolve_of_not_registered {forwarder : RelayForwarder}
    {outer packet : Packet} {destId : U128}
    (framed : outer.payload.data = RelayFrame.serialize ⟨destId, packet.serialize⟩)
    (missing : forwarder.registry.lookup destId = none) : forwarder.resolve outer = none := by
  rw [resolve, framed, RelayFrame.fromSerialized_serialize]
  show (forwarder.registry.lookup destId).bind _ = _
  rw [missing, Option.bind_none]

end Insub
