/-
This file puts the parts of `runtime.rs` together to the runtime that a client ticks: the hash
table, the calls and sessions, the relay, the four piles that a thread sorts packets onto, and the
channels that the runtime sends on.

A tick goes through the piles in a fixed order. It serves the hash table until that pile is empty,
and takes one packet from each of the others; a frame that is for the runtime itself puts the packet
in it on a pile that the same tick looks at later.
-/

import Mathlib
import Insub.Dht.Contact
import Insub.Dht.Truncation
import Insub.Runtime.Handshake
import Insub.Runtime.LookupNode
import Insub.Runtime.Message
import Insub.Runtime.Relaying

namespace Insub

open Rust

variable {crypto : Primitives} {noise : Noise}

/-- What the fields of `Runtime` hold, its piles and its channels included. -/
structure Node (crypto : Primitives) (noise : Noise) where
  dht : DhtRuntime
  calls : Runtime crypto noise
  relayFwd : Option RelayForwarder
  dhtPile : List PileItem
  relayPile : List PileItem
  handshakePile : List PileItem
  messagePile : List PileItem
  channels : Effects

/-- What a tick draws, and the times at which it looks at the clock. The server does so for each
packet that it takes from its pile. -/
structure TickDraws where
  servedAt : Nat → Instant
  listedAt : Nat → Nat → Instant
  responseIds : Nat → U128
  evictedAt : Instant
  handshake : RuntimeDraws
  env : Surroundings
  now : Instant

/-- What a client is told by `poll`. -/
inductive ClientEvent
  | messageReceived (sender : Key) (content : String)
  | sessionEstablished (peer safetyNumber : Key)

/-- One call after the other sends. -/
def Effects.append (first second : Effects) : Effects where
  outgoing := first.outgoing ++ second.outgoing
  acks := first.acks ++ second.acks
  messages := first.messages ++ second.messages
  established := first.established ++ second.established

namespace Node

def bind (id : NodeID) (address : SocketAddr) (deviceX25519Priv : Key)
    (peerKeys : HashMap SocketAddr (VerifyingKey crypto)) : Node crypto noise where
  dht := .bind id address
  calls := .bind address deviceX25519Priv peerKeys
  relayFwd := none
  dhtPile := []
  relayPile := []
  handshakePile := []
  messagePile := []
  channels := .none

def enableServer (node : Node crypto noise) : Node crypto noise :=
  { node with dht := node.dht.enableServer }

def enableRelay (node : Node crypto noise) (registry : RelayRegistry) : Node crypto noise :=
  { node with relayFwd := some ⟨registry⟩ }

def setMasterPubkey (node : Node crypto noise) (pk : Key) : Node crypto noise :=
  { node with calls := { node.calls with masterPubkey := some pk } }

def setDeviceCert (node : Node crypto noise) (cert : DeviceCertificate crypto) :
    Node crypto noise :=
  { node with calls := { node.calls with deviceCert := some cert } }

def setPeerAddr (node : Node crypto noise) (pk : Key) (addr : SocketAddr) : Node crypto noise :=
  { node with calls := { node.calls with pkToAddr := node.calls.pkToAddr.insert pk addr } }

def emit (node : Node crypto noise) (effects : Effects) : Node crypto noise :=
  { node with channels := node.channels.append effects }

/-- The thread that sorts puts a packet on the pile of its tag. Other tags have none. -/
def arrive (node : Node crypto noise) (packet : Packet) (sender : SocketAddr) : Node crypto noise :=
  match packet.payload.tag with
  | .dhtOperation => { node with dhtPile := node.dhtPile ++ [(packet, sender)] }
  | .relayFrame => { node with relayPile := node.relayPile ++ [(packet, sender)] }
  | .handshake => { node with handshakePile := node.handshakePile ++ [(packet, sender)] }
  | .message => { node with messagePile := node.messagePile ++ [(packet, sender)] }
  | _ => node

/-! ### A tick -/

/-- The loop of `tick_server`, over the pile as it is. The turns are counted. -/
def serveLoop (draws : TickDraws) :
    (turn : Nat) → List PileItem → Node crypto noise → Outcome Unit × Node crypto noise
  | _, [], node => (.ok (), { node with dhtPile := [] })
  | turn, (packet, sender) :: dhtPile, node =>
    match node.dht.serve packet sender (draws.servedAt turn) (draws.listedAt turn) with
    | (.error fault, dht) => (.error fault, { node with dht, dhtPile })
    | (.ok sent, dht) =>
      let outgoing := sent.map fun (operation, dest) =>
        DhtRuntime.sendDhtOp operation dest (draws.responseIds turn)
      let acks := Runtime.confirmations packet sender
      serveLoop draws (turn + 1) dhtPile
        ({ node with dht }.emit { Effects.none with outgoing, acks })

def tickServer (node : Node crypto noise) (draws : TickDraws) :
    Outcome Unit × Node crypto noise :=
  match serveLoop draws 0 node.dhtPile node with
  | (.error fault, node) => (.error fault, node)
  | (.ok (), node) => (.ok (), { node with dht := node.dht.evictStale draws.evictedAt })

/-- What the relay works on. -/
def relaying (node : Node crypto noise) : RelayRuntime where
  relayFwd := node.relayFwd
  masterPubkey := node.calls.masterPubkey
  dhtPile := node.dhtPile
  relayPile := node.relayPile
  handshakePile := node.handshakePile
  messagePile := node.messagePile

def tickRelay (node : Node crypto noise) : Node crypto noise :=
  match node.relaying.tickRelay crypto with
  | (effects, relaying) => { node with
      dhtPile := relaying.dhtPile
      relayPile := relaying.relayPile
      handshakePile := relaying.handshakePile
      messagePile := relaying.messagePile }.emit effects

def tickHandshake (node : Node crypto noise) (draws : RuntimeDraws) :
    Outcome Unit × Node crypto noise :=
  match node.handshakePile with
  | [] => (.ok (), node)
  | (packet, sender) :: handshakePile =>
    match node.calls.tickHandshake packet sender draws with
    | (.error fault, calls) => (.error fault, { node with calls, handshakePile })
    | (.ok effects, calls) => (.ok (), { node with calls, handshakePile }.emit effects)

def tickMessage (node : Node crypto noise) (env : Surroundings) (now : Instant) :
    Outcome Unit × Node crypto noise :=
  match node.messagePile with
  | [] => (.ok (), node)
  | (packet, sender) :: messagePile =>
    match node.calls.tickMessage packet sender env now with
    | (.error fault, calls) => (.error fault, { node with calls, messagePile })
    | (.ok effects, calls) => (.ok (), { node with calls, messagePile }.emit effects)

/-- A panic ends the tick where it is. -/
def tick (node : Node crypto noise) (draws : TickDraws) : Outcome Unit × Node crypto noise :=
  match node.tickServer draws with
  | (.error fault, node) => (.error fault, node)
  | (.ok (), node) =>
    match node.tickRelay.tickHandshake draws.handshake with
    | (.error fault, node) => (.error fault, node)
    | (.ok (), node) => node.tickMessage draws.env draws.now

/-! ### What a client calls -/

def sendMessage (node : Node crypto noise) (msg : Message) (peerPk key : Key) (nonce : Nonce)
    (draws : Nat → SendDraws) : Outcome Unit × Node crypto noise :=
  match node.calls.sendMessage msg peerPk key nonce draws with
  | (outcome, outgoing, calls) =>
    (outcome, { node with calls }.emit { Effects.none with outgoing })

/-- Call the devices of a contact, one after the other, each under a tag that is drawn. -/
def callDevices (user : UserID crypto) :
    List (DeviceCertificate crypto × HandshakeTag × RuntimeDraws) → Node crypto noise →
      Outcome Unit × Node crypto noise
  | [], node => (.ok (), node)
  | (device, tag, draws) :: rest, node =>
    match node.calls.enableSessionInitiator device.deviceX25519Pubkey user tag with
    | (.error fault, calls) => (.error fault, { node with calls })
    | (.ok tag, calls) =>
      match calls.initiateHandshake tag draws with
      | (.error fault, calls) => (.error fault, { node with calls })
      | (.ok effects, calls) => callDevices user rest ({ node with calls }.emit effects)

/-- What `Client::contact` does with the runtime, once the record of the user was found. -/
def contact (node : Node crypto noise) (pk : Key) (contact : ContactRecord crypto)
    (draws : Nat → HandshakeTag × RuntimeDraws) : Outcome Unit × Node crypto noise :=
  match UserID.ofBytes crypto pk with
  | none => (.error (.error "invalid public key"), node)
  | some user =>
    callDevices user
      (contact.deviceList.devices.mapIdx fun index device => (device, draws index))
      (node.setPeerAddr pk contact.relayAddr)

/-- What `Client::poll` takes from the channels: the messages that were received, and then the
sessions that were established. -/
def poll (node : Node crypto noise) : List ClientEvent × Node crypto noise :=
  let received := node.channels.messages.map fun item =>
    ClientEvent.messageReceived item.2 item.1.content
  let established := node.channels.established.map fun item =>
    ClientEvent.sessionEstablished item.1 item.2
  (received ++ established,
    { node with channels := { node.channels with messages := [], established := [] } })

/-! ### The server's part of a tick -/

/-- The packet does not make the server panic. -/
def Harmless (node : Node crypto noise) (item : PileItem) : Prop :=
  node.dht.server.isSome → ¬ DhtOperation.LacksLength item.1.payload.data

/-- What serving the hash table leaves alone, and what it sends. -/
structure Serves (before after : Node crypto noise) : Prop where
  calls : after.calls = before.calls
  relayFwd : after.relayFwd = before.relayFwd
  relayPile : after.relayPile = before.relayPile
  handshakePile : after.handshakePile = before.handshakePile
  messagePile : after.messagePile = before.messagePile
  messages : after.channels.messages = before.channels.messages
  established : after.channels.established = before.channels.established
  serving : after.dht.server.isSome = before.dht.server.isSome
  outgoing : ∃ sent, after.channels.outgoing = before.channels.outgoing ++ sent ∧
    ∀ item ∈ sent, item.1.payload.tag = .dhtOperation

theorem Serves.trans {first second third : Node crypto noise} (one : first.Serves second)
    (two : second.Serves third) : first.Serves third := by
  obtain ⟨sent, outgoing, operations⟩ := one.outgoing
  obtain ⟨more, further, others⟩ := two.outgoing
  exact {
    calls := two.calls.trans one.calls
    relayFwd := two.relayFwd.trans one.relayFwd
    relayPile := two.relayPile.trans one.relayPile
    handshakePile := two.handshakePile.trans one.handshakePile
    messagePile := two.messagePile.trans one.messagePile
    messages := two.messages.trans one.messages
    established := two.established.trans one.established
    serving := two.serving.trans one.serving
    outgoing := ⟨sent ++ more, by rw [further, outgoing, List.append_assoc],
      fun item member => (List.mem_append.mp member).elim (operations item) (others item)⟩ }

theorem serve_server (dht : DhtRuntime) (packet : Packet) (sender : SocketAddr) (now : Instant)
    (clock : Nat → Instant) :
    (dht.serve packet sender now clock).2.server.isSome = dht.server.isSome := by
  cases serving : dht.server with
  | none => simp only [DhtRuntime.serve, serving]
  | some server =>
    simp only [DhtRuntime.serve, serving]
    rfl

/-- A packet that does not make the server panic is served. -/
theorem serve_ok {node : Node crypto noise} {packet : Packet} {sender : SocketAddr}
    (harmless : node.Harmless (packet, sender)) (now : Instant) (clock : Nat → Instant) :
    ∃ sent, (node.dht.serve packet sender now clock).1 = .ok sent := by
  cases serving : node.dht.server with
  | none =>
    rw [DhtRuntime.serve, serving]
    exact ⟨[], rfl⟩
  | some server =>
    have whole := harmless (by rw [serving]; rfl)
    rw [← DhtOperation.fromSerialized_panics_iff] at whole
    simp only [DhtRuntime.serve, serving, DhtNode.process]
    rcases parsed : DhtOperation.fromSerialized packet.payload.data with (message | site) | operation
    · exact ⟨_, rfl⟩
    · exact absurd ⟨site, parsed⟩ whole
    · exact ⟨_, rfl⟩

/-- Serving one packet, and the node as it goes on. -/
theorem serves_turn (node : Node crypto noise) (packet : Packet) (sender : SocketAddr)
    (draws : TickDraws) (turn : Nat) (sent : List (DhtOperation × SocketAddr)) :
    node.Serves (emit { node with
      dht := (node.dht.serve packet sender (draws.servedAt turn) (draws.listedAt turn)).2 }
        { Effects.none with
          outgoing := sent.map fun operation : DhtOperation × SocketAddr =>
            DhtRuntime.sendDhtOp operation.1 operation.2 (draws.responseIds turn)
          acks := Runtime.confirmations packet sender }) where
  calls := rfl
  relayFwd := rfl
  relayPile := rfl
  handshakePile := rfl
  messagePile := rfl
  messages := List.append_nil _
  established := List.append_nil _
  serving := serve_server node.dht packet sender _ _
  outgoing := by
    refine ⟨_, rfl, fun item member => ?_⟩
    obtain ⟨operation, _, rfl⟩ := List.mem_map.mp member
    rfl

theorem serveLoop_ok (draws : TickDraws) {pile : List PileItem} {node : Node crypto noise}
    (harmless : ∀ item ∈ pile, node.Harmless item) (turn : Nat) :
    ∃ after, serveLoop draws turn pile node = (.ok (), after) ∧ node.Serves after ∧
      after.dhtPile = [] := by
  induction pile generalizing node turn with
  | nil => exact ⟨_, rfl, ⟨rfl, rfl, rfl, rfl, rfl, rfl, rfl, rfl, [], (List.append_nil _).symm,
      fun item member => absurd member List.not_mem_nil⟩, rfl⟩
  | cons item pile inductionHypothesis =>
    obtain ⟨packet, sender⟩ := item
    obtain ⟨sent, answers⟩ := serve_ok (harmless (packet, sender) List.mem_cons_self)
      (draws.servedAt turn) (draws.listedAt turn)
    have served := serves_turn node packet sender draws turn sent
    rcases run : node.dht.serve packet sender (draws.servedAt turn) (draws.listedAt turn) with
      ⟨outcome, dht⟩
    rw [run] at answers served
    obtain rfl : outcome = .ok sent := answers
    rw [serveLoop, run]
    obtain ⟨after, loops, others, emptied⟩ := inductionHypothesis (fun other member serving =>
      harmless other (List.mem_cons_of_mem _ member) (served.serving.symm.trans serving)) (turn + 1)
    exact ⟨after, loops, served.trans others, emptied⟩

/-- A pile without a packet that makes the server panic is served to its end. -/
theorem tickServer_ok (node : Node crypto noise) (draws : TickDraws)
    (harmless : ∀ item ∈ node.dhtPile, node.Harmless item) :
    ∃ after, node.tickServer draws = (.ok (), after) ∧ node.Serves after ∧
      after.dhtPile = [] := by
  obtain ⟨after, loops, served, emptied⟩ := serveLoop_ok draws harmless 0
  rw [tickServer, loops]
  exact ⟨_, rfl, ⟨served.calls, served.relayFwd, served.relayPile, served.handshakePile,
    served.messagePile, served.messages, served.established, served.serving, served.outgoing⟩,
    emptied⟩

/-! ### A whole tick -/

end Node

/-- The frame of a packet for the user with a master key. -/
structure Packet.Wraps (crypto : Primitives) (pk : Key) (outer inner : Packet) : Prop where
  whole : outer.payload.fragmentId = 0
  tag : outer.payload.tag = .relayFrame
  data : outer.payload.data = RelayFrame.serialize ⟨deriveId crypto pk, inner.serialize⟩

/-- What the part of a tick does that looks at the pile of the packet. -/
def Runtime.handle (runtime : Runtime crypto noise) (packet : Packet) (sender : SocketAddr)
    (draws : TickDraws) : Outcome Effects × Runtime crypto noise :=
  match packet.payload.tag with
  | .handshake => runtime.tickHandshake packet sender draws.handshake
  | .message => runtime.tickMessage packet sender draws.env draws.now
  | _ => (.ok Effects.none, runtime)

theorem Runtime.handle_message {packet : Packet} (tagged : packet.payload.tag = .message)
    (runtime : Runtime crypto noise) (sender : SocketAddr) (draws : TickDraws) :
    runtime.handle packet sender draws =
      runtime.tickMessage packet sender draws.env draws.now := by
  rw [handle, tagged]

namespace Node

/-- No packet waits on the piles that only a tick fills. -/
structure Settled (node : Node crypto noise) : Prop where
  handshakePile : node.handshakePile = []
  messagePile : node.messagePile = []

/-- A tick that leaves the calls as said, and sends the effects after operations of the hash
table. -/
structure Ticks (before after : Node crypto noise) (relayPile : List PileItem) (effects : Effects)
    (calls : Runtime crypto noise) : Prop where
  calls : after.calls = calls
  relayFwd : after.relayFwd = before.relayFwd
  serving : after.dht.server.isSome = before.dht.server.isSome
  dhtPile : after.dhtPile = []
  relayPile : after.relayPile = relayPile
  settled : after.Settled
  messages : after.channels.messages = before.channels.messages ++ effects.messages
  established : after.channels.established = before.channels.established ++ effects.established
  outgoing : ∃ sent, (∀ item ∈ sent, item.1.payload.tag = .dhtOperation) ∧
    after.channels.outgoing = before.channels.outgoing ++ sent ++ effects.outgoing

/-- Nothing but the hash table is served while the other piles are empty. -/
theorem tick_idle {node : Node crypto noise} (settled : node.Settled)
    (harmless : ∀ item ∈ node.dhtPile, node.Harmless item) (empty : node.relayPile = [])
    (draws : TickDraws) :
    ∃ after, node.tick draws = (.ok (), after) ∧ node.Ticks after [] .none node.calls := by
  obtain ⟨served, serves, kept, emptied⟩ := node.tickServer_ok draws harmless
  have relayed : served.relaying.tickRelay crypto = (.none, served.relaying) := by
    rw [RelayRuntime.tickRelay, relaying, kept.relayPile, empty]
    cases served.relayFwd <;> rfl
  have handshakes : served.tickRelay.handshakePile = [] := by
    rw [tickRelay, relayed]
    exact kept.handshakePile.trans settled.handshakePile
  have messages : served.tickRelay.messagePile = [] := by
    rw [tickRelay, relayed]
    exact kept.messagePile.trans settled.messagePile
  rw [tick, serves]
  dsimp only
  rw [tickHandshake, handshakes]
  dsimp only
  rw [tickMessage, messages]
  refine ⟨_, rfl, ?_⟩
  rw [tickRelay, relayed]
  obtain ⟨sent, outgoing, operations⟩ := kept.outgoing
  exact {
    calls := kept.calls
    relayFwd := kept.relayFwd
    serving := kept.serving
    dhtPile := emptied
    relayPile := kept.relayPile.trans empty
    settled := ⟨kept.handshakePile.trans settled.handshakePile,
      kept.messagePile.trans settled.messagePile⟩
    messages := congrArg (· ++ []) kept.messages
    established := congrArg (· ++ []) kept.established
    outgoing := ⟨sent, operations, congrArg (· ++ []) outgoing⟩ }

/-- A frame for the runtime itself is taken from its pile, and the packet in it sorted. -/
theorem tickRelay_wraps (node : Node crypto noise) {pk : Key} {outer inner : Packet}
    {sender : SocketAddr} {relayPile : List PileItem} (relays : node.relayFwd.isSome = true)
    (owned : node.calls.masterPubkey = some pk) (front : node.relayPile = (outer, sender) :: relayPile)
    (wraps : outer.Wraps crypto pk inner) (plain : inner.payload.tag ≠ .relayFrame) :
    node.tickRelay = (arrive { node with relayPile } inner sender).emit
      { Effects.none with acks := Runtime.confirmations outer sender } := by
  have own : node.relaying.tickRelay crypto = _ :=
    RelayRuntime.tickRelay_eq_sort relays owned front wraps.data
  rw [tickRelay, own, arrive]
  dsimp only [RelayRuntime.sort]
  cases tagged : inner.payload.tag with
  | relayFrame => exact absurd tagged plain
  | _ => rfl

/-- A tick that finds a frame for the runtime itself handles the packet in it. -/
theorem tick_wraps {node : Node crypto noise} (settled : node.Settled)
    (harmless : ∀ item ∈ node.dhtPile, node.Harmless item) {pk : Key} {outer inner : Packet}
    {sender : SocketAddr} {relayPile : List PileItem} (relays : node.relayFwd.isSome = true)
    (owned : node.calls.masterPubkey = some pk)
    (front : node.relayPile = (outer, sender) :: relayPile) (wraps : outer.Wraps crypto pk inner)
    (tagged : inner.payload.tag = .handshake ∨ inner.payload.tag = .message) (draws : TickDraws)
    {effects : Effects} {calls : Runtime crypto noise}
    (handled : node.calls.handle inner sender draws = (.ok effects, calls)) :
    ∃ after, node.tick draws = (.ok (), after) ∧ node.Ticks after relayPile effects calls := by
  obtain ⟨served, serves, kept, emptied⟩ := node.tickServer_ok draws harmless
  have plain : inner.payload.tag ≠ .relayFrame := by
    rcases tagged with tagged | tagged <;> rw [tagged] <;> decide
  have relayed := tickRelay_wraps served (kept.relayFwd ▸ relays) (kept.calls ▸ owned)
    (kept.relayPile.trans front) wraps plain
  have noHandshake := kept.handshakePile.trans settled.handshakePile
  have noMessage := kept.messagePile.trans settled.messagePile
  rw [← kept.calls, Runtime.handle] at handled
  obtain ⟨sent, outgoing, operations⟩ := kept.outgoing
  have ticks (after : Node crypto noise) (same : after = emit
      (emit { served with calls, relayPile, handshakePile := [], messagePile := [] }
        { Effects.none with acks := Runtime.confirmations outer sender }) effects) :
      node.Ticks after relayPile effects calls := by
    subst same
    exact {
      calls := rfl
      relayFwd := kept.relayFwd
      serving := kept.serving
      dhtPile := emptied
      relayPile := rfl
      settled := ⟨rfl, rfl⟩
      messages := congrArg (· ++ effects.messages) ((List.append_nil _).trans kept.messages)
      established :=
        congrArg (· ++ effects.established) ((List.append_nil _).trans kept.established)
      outgoing :=
        ⟨sent, operations, congrArg (· ++ effects.outgoing) ((List.append_nil _).trans outgoing)⟩ }
  rw [tick, serves]
  dsimp only
  rw [relayed, arrive]
  rcases tagged with tagged | tagged
  all_goals rw [tagged] at handled ⊢; dsimp only at handled ⊢
  · rw [tickHandshake]
    dsimp only [emit]
    rw [noHandshake, List.nil_append]
    dsimp only
    rw [handled]
    dsimp only [emit]
    rw [tickMessage, noMessage]
    exact ⟨_, rfl, ticks _ rfl⟩
  · rw [tickHandshake]
    dsimp only [emit]
    rw [noHandshake]
    dsimp only
    rw [tickMessage, noMessage, List.nil_append]
    dsimp only
    rw [handled]
    exact ⟨_, rfl, ticks _ rfl⟩

end Node

end Insub
