/-
This file models what the runtime uses of `network/relay.rs` and `network/registry.rs`: the
frame in which a packet travels to a relay, and the id a user has there.
-/

import Mathlib
import Insub.Crypto.Primitives
import Insub.Protocol.Packet

namespace Insub

open Rust

/-- The first half of a hash of the master public key. -/
def deriveId (crypto : Primitives) (pubkey : Key) : U128 :=
  let result := crypto.sha256 (pubkey.toList ++ ascii "relay_id")
  ofBeBytes 128 (result.window 0 16 (by decide))

structure RelayFrame where
  destId : U128
  payload : Bytes

namespace RelayFrame

def serialize (frame : RelayFrame) : Bytes :=
  (beBytes 16 frame.destId).toList ++ frame.payload

def fromSerialized (bytes : Bytes) : Outcome RelayFrame :=
  if bytes.length < 16 then .error (.error "relay frame too short")
  else do
    let (idBytes, bytes) ← drain 16 bytes
    .ok { destId := ofBeBytes 128 idBytes, payload := bytes }

/-- A frame survives the wire. -/
theorem fromSerialized_serialize (frame : RelayFrame) :
    fromSerialized frame.serialize = .ok frame := by
  have long : ¬ frame.serialize.length < 16 := by
    rw [serialize, List.length_append, List.Vector.toList_length]
    exact not_lt.mpr (Nat.le_add_right 16 _)
  rw [fromSerialized, if_neg long, serialize, drain_append, Outcome.bind_ok]
  dsimp only
  rw [ofBeBytes_beBytes _ (by decide)]

end RelayFrame

/-- The packet inside a frame, as `RelayForwarder::resolve` reads it for a destination that is
registered. -/
def innerPacket (outer : Packet) : Option Packet :=
  (RelayFrame.fromSerialized outer.payload.data).toOption.bind fun frame =>
    (Packet.fromSerialized frame.payload).toOption

end Insub
