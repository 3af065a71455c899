/-
This file proves that the way over a relay delivers. The runtime wraps a packet into a frame, the
frame travels to the relay under an id of its own, the relay takes the packet out and sends it on.
Both times the packet may be cut, and a packet that fits into one datagram may not fit with the
frame around it. Whatever the order of the datagrams on both hops, the packet comes out at the end,
and one that is for the relay itself is sorted like a packet that came without a frame.
-/

import Mathlib
import Insub.Network.Registry
import Insub.Runtime.Dht
import Insub.Runtime.State
import Insub.Transport.Hop

namespace Insub

open Rust

variable {crypto : Primitives}

/-- What a runtime needs to be a relay: the piles of packets that have arrived, and whom it
forwards to. -/
structure RelayRuntime where
  relayFwd : Option RelayForwarder
  masterPubkey : Option Key
  dhtPile : List PileItem
  relayPile : List PileItem
  handshakePile : List PileItem
  messagePile : List PileItem

namespace RelayRuntime

/-- Put what came in a frame on the pile of its tag. Other tags have none. -/
def sort (runtime : RelayRuntime) (inner : Packet) (sender : SocketAddr) : RelayRuntime :=
  match inner.payload.tag with
  | .dhtOperation => { runtime with dhtPile := runtime.dhtPile ++ [(inner, sender)] }
  | .handshake => { runtime with handshakePile := runtime.handshakePile ++ [(inner, sender)] }
  | .message => { runtime with messagePile := runtime.messagePile ++ [(inner, sender)] }
  | _ => runtime

/-- The last part of `tick_relay`: send on what is for somebody else. -/
def forward (runtime : RelayRuntime) (fwd : RelayForwarder) (packet : Packet)
    (sender : SocketAddr) : Effects × RelayRuntime :=
  match fwd.resolve packet with
  | some (inner, dest) =>
    let acks := if fwd.shouldConfirm packet then [(packet.header.id, sender)] else []
    ({ Effects.none with outgoing := [(inner, dest)], acks }, runtime)
  | none => (Effects.none, runtime)

/-- `tick_relay`, over the pile as it is when a packet is taken from it. -/
def tickRelay (crypto : Primitives) (runtime : RelayRuntime) : Effects × RelayRuntime :=
  match runtime.relayFwd, runtime.relayPile with
  | some fwd, (packet, sender) :: relayPile =>
    let runtime := { runtime with relayPile }
    match (RelayFrame.fromSerialized packet.payload.data).toOption with
    | some frame =>
      let myId := runtime.masterPubkey.map (deriveId crypto)
      if some frame.destId = myId then
        let effects := { Effects.none with acks := Runtime.confirmations packet sender }
        match (Packet.fromSerialized frame.payload).toOption with
        | some inner => (effects, runtime.sort inner sender)
        | none => (effects, runtime)
      else runtime.forward fwd packet sender
    | none => runtime.forward fwd packet sender
  | _, _ => (Effects.none, runtime)

/-! ### Frames -/

/-- What the taking of a frame for the relay itself leaves of the piles: the packet that was in it,
with the address the frame came from, is at the end of the pile of its tag. The frame is gone from
its own pile, and all else is as it was. -/
structure Sorts (before : RelayRuntime) (packet : Packet) (sender : SocketAddr)
    (after : RelayRuntime) : Prop where
  dhtPile : after.dhtPile = before.dhtPile ++
    if packet.payload.tag = .dhtOperation then [(packet, sender)] else []
  handshakePile : after.handshakePile = before.handshakePile ++
    if packet.payload.tag = .handshake then [(packet, sender)] else []
  messagePile : after.messagePile = before.messagePile ++
    if packet.payload.tag = .message then [(packet, sender)] else []
  relayPile : after.relayPile = before.relayPile.tail
  relayFwd : after.relayFwd = before.relayFwd
  masterPubkey : after.masterPubkey = before.masterPubkey

theorem sorts_sort (runtime : RelayRuntime) (packet : Packet) (sender : SocketAddr) :
    runtime.Sorts packet sender
      ({ runtime with relayPile := runtime.relayPile.tail }.sort packet sender) := by
  rw [sort]
  cases tag : packet.payload.tag <;> constructor <;> simp [tag]

/-- A frame for the relay itself is taken from its pile, and the packet in it sorted. -/
theorem tickRelay_eq_sort {runtime : RelayRuntime} {outer packet : Packet} {sender : SocketAddr}
    {relayPile : List PileItem} {pk : Key} (relays : runtime.relayFwd.isSome = true)
    (owned : runtime.masterPubkey = some pk)
    (front : runtime.relayPile = (outer, sender) :: relayPile)
    (framed : outer.payload.data = RelayFrame.serialize ⟨deriveId crypto pk, packet.serialize⟩) :
    runtime.tickRelay crypto =
      ({ Effects.none with acks := Runtime.confirmations outer sender },
        { runtime with relayPile }.sort packet sender) := by
  obtain ⟨fwd, forwards⟩ := Option.isSome_iff_exists.mp relays
  have read : (RelayFrame.fromSerialized outer.payload.data).toOption =
      some ⟨deriveId crypto pk, packet.serialize⟩ := by
    rw [framed, RelayFrame.fromSerialized_serialize]
    rfl
  have parsed : (Packet.fromSerialized packet.serialize).toOption = some packet := by
    rw [Packet.fromSerialized_serialize]
    rfl
  rw [tickRelay, forwards, front]
  dsimp only
  rw [read, owned]
  dsimp only
  rw [Option.map_some, if_pos rfl, parsed]

/-- So the packet ends on the pile of its tag. -/
theorem tickRelay_own {runtime : RelayRuntime} {outer packet : Packet} {sender : SocketAddr}
    {relayPile : List PileItem} {pk : Key} (relays : runtime.relayFwd.isSome = true)
    (owned : runtime.masterPubkey = some pk)
    (front : runtime.relayPile = (outer, sender) :: relayPile)
    (framed : outer.payload.data = RelayFrame.serialize ⟨deriveId crypto pk, packet.serialize⟩) :
    runtime.Sorts packet sender (runtime.tickRelay crypto).2 := by
  have sorted := runtime.sorts_sort packet sender
  rw [front, List.tail_cons] at sorted
  rw [tickRelay_eq_sort relays owned front framed]
  exact sorted

/-- A frame for somebody else is resolved, and the packet in it is sent on. -/
theorem tickRelay_other {runtime : RelayRuntime} {fwd : RelayForwarder} {outer packet : Packet}
    {sender dest : SocketAddr} {relayPile : List PileItem} {destId : U128}
    (forwards : runtime.relayFwd = some fwd)
    (foreign : runtime.masterPubkey.map (deriveId crypto) ≠ some destId)
    (front : runtime.relayPile = (outer, sender) :: relayPile)
    (framed : outer.payload.data = RelayFrame.serialize ⟨destId, packet.serialize⟩)
    (resolves : fwd.resolve outer = some (packet, dest)) :
    (runtime.tickRelay crypto).1.outgoing = [(packet, dest)] ∧
      (runtime.tickRelay crypto).2 = { runtime with relayPile } := by
  have read : (RelayFrame.fromSerialized outer.payload.data).toOption =
      some ⟨destId, packet.serialize⟩ := by
    rw [framed, RelayFrame.fromSerialized_serialize]
    rfl
  rw [tickRelay, forwards, front]
  dsimp only
  rw [read]
  dsimp only
  rw [if_neg (Ne.symm foreign), forward, resolves]
  exact ⟨rfl, rfl⟩

end RelayRuntime

/-! ### The way over a relay -/

/-- A frame makes a packet longer. -/
theorem Runtime.serialize_length_le_sendPacket (packet : Packet) (relayAddr : SocketAddr)
    (relayId frameId : U128) :
    packet.serialize.length ≤ (sendPacket packet relayAddr relayId frameId).1.serialize.length := by
  have framed : (sendPacket packet relayAddr relayId frameId).1.payload.data =
      (beBytes 16 relayId).toList ++ packet.serialize := rfl
  generalize (sendPacket packet relayAddr relayId frameId).1 = outer at framed ⊢
  rw [Packet.serialize.eq_def outer, Payload.serialize, framed]
  simp only [List.length_append]
  omega

/-- However its datagrams are ordered on the way to a relay and from there, a wrapped packet is
resolved to the address of its destination, sent there by the relay, and arrives with its id and its
payload. One that is for the relay itself is put on the pile of its tag. -/
theorem relay_delivers (crypto : Primitives) (packet : Packet) (identified : packet.header.id ≠ 0)
    (whole : packet.payload.fragmentId = 0) {frameId : U128} (framed : frameId ≠ 0)
    (relayAddr : SocketAddr) (relayId : U128)
    (few : (Runtime.sendPacket packet relayAddr relayId frameId).1.serialize.length ≤
      255 * maxChunk)
    (ids onward : Nat → U128) (source relay : SocketAddr) :
    (∀ (forwarder : RelayForwarder) entry, forwarder.registry.lookup relayId = some entry →
      (Runtime.sendPacket packet relayAddr relayId frameId).1.Crosses ids source fun outer =>
        ∃ inner, forwarder.resolve outer = some (inner, entry.address) ∧
          (∀ (runtime : RelayRuntime) relayPile, runtime.relayFwd = some forwarder →
            runtime.masterPubkey.map (deriveId crypto) ≠ some relayId →
              runtime.relayPile = (outer, source) :: relayPile →
                (runtime.tickRelay crypto).1.outgoing = [(inner, entry.address)] ∧
                  (runtime.tickRelay crypto).2 = { runtime with relayPile }) ∧
          inner.Crosses onward relay fun arrived =>
            arrived.header.id = packet.header.id ∧ arrived.payload = packet.payload) ∧
      (Runtime.sendPacket packet relayAddr relayId frameId).1.Crosses ids source fun outer =>
        ∀ (runtime : RelayRuntime) pk relayPile, runtime.relayFwd.isSome = true →
          runtime.masterPubkey = some pk → relayId = deriveId crypto pk →
            runtime.relayPile = (outer, source) :: relayPile →
              runtime.Sorts packet source (runtime.tickRelay crypto).2 := by
  have short := (Runtime.serialize_length_le_sendPacket packet relayAddr relayId frameId).trans few
  have last := Packet.crosses identified whole short onward relay
  have hop : (Runtime.sendPacket packet relayAddr relayId frameId).1.Crosses ids source
      fun outer => outer.payload.data = RelayFrame.serialize ⟨relayId, packet.serialize⟩ := by
    refine (Packet.crosses framed rfl few ids source).mono fun outer arrives => ?_
    rcases arrives with rfl | rfl <;> rfl
  refine ⟨fun forwarder entry registered => hop.mono fun outer carried => ?_,
    hop.mono fun outer carried runtime pk relayPile relays owned same front => ?_⟩
  · have resolves := RelayForwarder.resolve_of_frame carried registered
    refine ⟨packet, resolves, fun runtime relayPile forwards foreign front => ?_, last.mono ?_⟩
    · exact RelayRuntime.tickRelay_other forwards foreign front carried resolves
    · rintro arrived (rfl | rfl)
      · exact ⟨rfl, rfl⟩
      · exact ⟨rfl, rfl⟩
  · rw [same] at carried
    exact RelayRuntime.tickRelay_own relays owned front carried

/-- A relay at which user `42` is registered. -/
def sampleRelayEntry : RelayEntry where
  id := deriveId sampleSuite (SampleSuite.octets 32 42)
  pubkey := SampleSuite.octets 32 42
  address := .v4 (Octets.zero 4) 9000

/-- Another user, who runs a relay. -/
def sampleRelayPk : Key := SampleSuite.octets 32 (7 * 256 ^ 31)

/-- A relay of some user, with a frame that came to it. -/
def sampleRelay (pk : Key) (frame : PileItem) : RelayRuntime where
  relayFwd := some ⟨RelayRegistry.new.add sampleRelayEntry⟩
  masterPubkey := some pk
  dhtPile := []
  relayPile := [frame]
  handshakePile := []
  messagePile := [(Exchange.samplePacket 3, .v4 (Octets.zero 4) 9004)]

/-- A message that fits into one datagram, and does not with a frame around it. The relay of another
user sends it on; at a relay of its user, it comes after what was on the pile of messages. -/
theorem long_message_relayed :
    let sender := SocketAddr.v4 (Octets.zero 4) 9003
    let packet := Exchange.samplePacket 1130
    let outer := (Runtime.sendPacket packet sender sampleRelayEntry.id 9).1
    packet.serialize.length ≤ maxChunk ∧ maxChunk < outer.serialize.length ∧
      (outer.Crosses Exchange.sampleIds sender fun outer =>
        ∃ inner, RelayForwarder.resolve ⟨RelayRegistry.new.add sampleRelayEntry⟩ outer =
          some (inner, sampleRelayEntry.address) ∧
            ((sampleRelay sampleRelayPk (outer, sender)).tickRelay sampleSuite).1.outgoing =
              [(inner, sampleRelayEntry.address)] ∧
            inner.Crosses Exchange.sampleIds sender fun arrived =>
              arrived.header.id = packet.header.id ∧ arrived.payload = packet.payload) ∧
      outer.Crosses Exchange.sampleIds sender fun outer =>
        ((sampleRelay sampleRelayEntry.pubkey (outer, sender)).tickRelay sampleSuite).2.messagePile =
          [(Exchange.samplePacket 3, .v4 (Octets.zero 4) 9004), (packet, sender)] := by
  intro sender packet outer
  obtain ⟨forwards, sorts⟩ := relay_delivers sampleSuite (Exchange.samplePacket 1130) (by decide) rfl
    (show (9 : U128) ≠ 0 by decide) sender sampleRelayEntry.id (by decide +kernel)
      Exchange.sampleIds Exchange.sampleIds sender sender
  refine ⟨by decide +kernel, by decide +kernel, ?_, sorts.mono fun outer piles => ?_⟩
  · refine (forwards ⟨RelayRegistry.new.add sampleRelayEntry⟩ sampleRelayEntry ?_).mono ?_
    · exact List.find?_cons_of_pos (decide_eq_true rfl)
    · rintro outer ⟨inner, resolves, sends, crosses⟩
      have foreign : some (deriveId sampleSuite sampleRelayPk) ≠ some sampleRelayEntry.id := by
        decide +kernel
      have sent := sends (sampleRelay sampleRelayPk (outer, sender)) [] rfl foreign rfl
      exact ⟨inner, resolves, sent.1, crosses⟩
  · exact (piles (sampleRelay sampleRelayEntry.pubkey (outer, sender)) sampleRelayEntry.pubkey []
      rfl rfl rfl rfl).messagePile

end Insub
