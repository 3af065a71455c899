/-
This file settles whose acknowledgements a node accepts. Two threads write to the table of keys
under which acknowledgements are checked: the receive loop enters the key of the first
acknowledgement from an address, the handshake enters the key of a certificate under the address
its packet came from. Where the packet came straight from the node that the certificate belongs
to, both enter the key of the node at that address. Where a relay forwarded it, the handshake
enters the key of the peer for the relay, and the acknowledgements of the relay are refused from
then on.
-/

import Mathlib
import Insub.Network.Registry
import Insub.Runtime.Rejection
import Insub.Transport.Exchange

namespace Insub

open Rust

variable {crypto : Primitives} {noise : Noise}

/-- Every key that is pinned for an address is the one of the node there. -/
def PinsOwners (keyAt : SocketAddr → SigningKey crypto)
    (peerKeys : HashMap SocketAddr (VerifyingKey crypto)) : Prop :=
  ∀ address pinned, peerKeys.lookup address = some pinned → pinned = (keyAt address).verifyingKey

theorem pinsOwners_empty (keyAt : SocketAddr → SigningKey crypto) : PinsOwners keyAt ∅ := by
  intro address pinned found
  cases found

theorem PinsOwners.insert {keyAt : SocketAddr → SigningKey crypto}
    {peerKeys : HashMap SocketAddr (VerifyingKey crypto)} (pins : PinsOwners keyAt peerKeys)
    (address : SocketAddr) :
    PinsOwners keyAt (peerKeys.insert address (keyAt address).verifyingKey) := by
  intro other pinned found
  rcases HashMap.lookup_insert_eq_some_iff.mp found with ⟨rfl, same⟩ | ⟨_, held⟩
  · exact same.symm
  · exact pins other pinned held

/-! ### The keys that are written -/

namespace ReliableTransport

/-- A datagram from a node whose acknowledgements are its own pins that node's key, if any. -/
theorem peerKeys_receive {transport : ReliableTransport crypto} {datagram : Bytes}
    {sender : SocketAddr} {key : SigningKey crypto}
    (genuine : ∀ ack, transport.Brings datagram sender ack →
      ack.header.flags.contains .ack = true → ack = Packet.ackFor key ack.header.id)
    (now : Instant) (order : IterationOrder (Sigma fun _ : U128 => Instant)) :
    (transport.receive datagram sender now order).2.peerKeys = transport.peerKeys ∨
      (transport.receive datagram sender now order).2.peerKeys =
        transport.peerKeys.insert sender key.verifyingKey := by
  have receives := transport.receive_receives datagram sender now order
  generalize transport.receive datagram sender now order = result at receives ⊢
  cases receives with
  | garbled => exact Or.inl rfl
  | beyond => exact Or.inl rfl
  | incomplete => exact Or.inl rfl
  | @whole ack reassembler brings =>
    by_cases isAck : ack.header.flags.contains .ack = true
    · by_cases answering : ∃ carried signature,
          Answers crypto ack transport.pending sender carried signature
      · obtain ⟨carried, signature, answers⟩ := answering
        obtain ⟨entry, held, dest⟩ := answers.awaited
        have own := answers_ackFor key held dest
        rw [← genuine ack brings isAck] at own
        rw [dispatch_answers { transport with reassembler } isAck answers]
        dsimp only
        cases transport.peerKeys.lookup sender with
        | some pinned =>
          dsimp only
          split <;> exact Or.inl rfl
        | none =>
          rw [(answers.unique own).1]
          exact Or.inr rfl
      · rw [dispatch_not_answers { transport with reassembler } isAck
          fun carried signature answers => answering ⟨carried, signature, answers⟩]
        exact Or.inl rfl
    · exact Or.inl (dispatch_not_ack { transport with reassembler } isAck sender now order).2

end ReliableTransport

namespace Runtime

/-- The certificate of the session that a handshake packet completes or opens. -/
inductive Presents (runtime : Runtime crypto noise) (packet : Packet) (draws : RuntimeDraws) :
    DeviceCertificate crypto → Prop
  | answer {session last : Session crypto noise} {peerPkOpt : Option Key}
      {certificate : DeviceCertificate crypto}
      (found : runtime.pendingSessions.lookup packet.payload.connectionId =
        some (session, peerPkOpt))
      (initiates : session.isInitiator = true)
      (completed : session.completeHandshake packet.payload.data draws.handshake = (.ok (), last))
      (holds : last.peerDeviceCertificate = some certificate) :
      Presents runtime packet draws certificate
  | call {fresh : Session crypto noise} {responder : Responder noise}
      {introduction : Introduction crypto}
      (unseen : packet.payload.connectionId ∉ runtime.seenTags)
      (noAnswer : runtime.NoAnswer packet draws)
      (spawned : runtime.spawnResponder = .ok fresh)
      (introduces : runtime.introduced packet = .ok (responder, introduction))
      (vouched : introduction.Vouched responder
        (fresh.replyPayload draws.handshake.ratchetSecret) draws.handshake.ephemeral) :
      Presents runtime packet draws introduction.certificate

/-- An answer to a call of ours pins the key of its certificate. -/
theorem peerKeys_completePending (runtime : Runtime crypto noise) (packet : Packet)
    (sender : SocketAddr) (draws : RuntimeDraws) :
    (runtime.completePending packet sender draws).2.peerKeys = runtime.peerKeys ∨
      ∃ certificate, runtime.Presents packet draws certificate ∧
        (runtime.completePending packet sender draws).2.peerKeys =
          runtime.peerKeys.insert sender certificate.deviceEd25519Pubkey := by
  have completes := runtime.completePending_completes packet sender draws
  generalize runtime.completePending packet sender draws = result at completes ⊢
  cases completes with
  | uncalled => exact Or.inl rfl
  | refused => exact Or.inl rfl
  | broken => exact Or.inl rfl
  | @promoted _ last _ _ takes _ =>
    cases holds : last.peerDeviceCertificate with
    | none => exact Or.inl rfl
    | some certificate =>
      exact Or.inr ⟨certificate, .answer takes.found takes.initiates takes.run holds, rfl⟩

/-- An answered call pins the key of the certificate in it. -/
theorem peerKeys_respond (runtime : Runtime crypto noise) (packet : Packet) (sender : SocketAddr)
    (draws : RuntimeDraws) :
    (runtime.respond packet sender draws).2.peerKeys = runtime.peerKeys ∨
      ∃ fresh responder introduction, runtime.spawnResponder = .ok fresh ∧
        runtime.introduced packet = .ok (responder, introduction) ∧
          introduction.Vouched responder (fresh.replyPayload draws.handshake.ratchetSecret)
            draws.handshake.ephemeral ∧
              (runtime.respond packet sender draws).2.peerKeys =
                runtime.peerKeys.insert sender introduction.certificate.deviceEd25519Pubkey := by
  have responds := runtime.respond_responds packet sender draws
  generalize runtime.respond packet sender draws = result at responds ⊢
  cases responds with
  | unread => exact Or.inl rfl
  | unvouched => exact Or.inl rfl
  | vouched spawned introduces vouched _ named _ presents =>
    refine Or.inr ⟨_, _, _, spawned, introduces, vouched, ?_⟩
    rw [Prod.map_snd, id, settleCall_of_named _ named, presents]
    rfl

/-- A handshake packet pins the key of the certificate it presents, under the address it came
from. -/
theorem peerKeys_tickHandshake (runtime : Runtime crypto noise) (packet : Packet)
    (sender : SocketAddr) (draws : RuntimeDraws) :
    (runtime.tickHandshake packet sender draws).2.peerKeys = runtime.peerKeys ∨
      ∃ certificate, runtime.Presents packet draws certificate ∧
        (runtime.tickHandshake packet sender draws).2.peerKeys =
          runtime.peerKeys.insert sender certificate.deviceEd25519Pubkey := by
  rcases runtime.completePending_cases packet sender draws with
    ⟨pendingSessions, completes, noAnswer⟩ | ⟨fault, pendingSessions, completes, _⟩ |
      ⟨connId, peerPk, next, completes, _⟩
  · by_cases unseen : packet.payload.connectionId ∉ runtime.seenTags
    · obtain ⟨pending, called⟩ := tickHandshake_of_call unseen noAnswer sender
      rw [called]
      rcases peerKeys_respond { runtime with pendingSessions := pending } packet sender draws with
        unchanged | ⟨fresh, responder, introduction, spawned, introduces, vouched, pinned⟩
      · exact Or.inl unchanged
      · exact Or.inr ⟨introduction.certificate,
          .call unseen noAnswer spawned introduces vouched, pinned⟩
    · rw [tickHandshake, completes]
      dsimp only
      rw [if_pos (not_not.mp unseen)]
      exact Or.inl rfl
  · rw [tickHandshake, completes]
    exact Or.inl rfl
  · have pins := runtime.peerKeys_completePending packet sender draws
    obtain ⟨_, _, _, _, _, _, held⟩ := completePending_promoted completes
    rw [completes] at pins
    rw [tickHandshake, completes]
    dsimp only at pins ⊢
    rw [held]
    exact pins

end Runtime

/-! ### A node -/

/-- A runtime and the receive loop of its transport, which share the table of keys. -/
structure Endpoint (crypto : Primitives) (noise : Noise) where
  runtime : Runtime crypto noise
  transport : ReliableTransport crypto
  shared : transport.peerKeys = runtime.peerKeys

/-- How a packet of the node at an address comes to be received: straight from there, or from a
relay that has forwarded what it found in a frame. -/
inductive Travels (packet : Packet) (origin : SocketAddr) : SocketAddr → Prop
  | direct : Travels packet origin origin
  | relayed (relay : SocketAddr) {forwarder : RelayForwarder} {outer inner : Packet}
      {dest : SocketAddr} {ids : Nat → U128} {fragments : List Packet}
      (resolves : forwarder.resolve outer = some (inner, dest))
      (split : inner.split ids = .ok fragments)
      (arrives : packet = inner.delivered fragments) : Travels packet origin relay

namespace Endpoint

def bind (address : SocketAddr) (deviceX25519Priv : Key) : Endpoint crypto noise where
  runtime := Runtime.bind address deviceX25519Priv ∅
  transport := .new ∅
  shared := rfl

/-- The node after a call of the runtime. -/
def withRuntime (endpoint : Endpoint crypto noise) (runtime : Runtime crypto noise) :
    Endpoint crypto noise where
  runtime
  transport := { endpoint.transport with peerKeys := runtime.peerKeys }
  shared := rfl

/-- The node after an iteration of the receive loop. -/
def withTransport (endpoint : Endpoint crypto noise) (transport : ReliableTransport crypto) :
    Endpoint crypto noise where
  runtime := { endpoint.runtime with peerKeys := transport.peerKeys }
  transport
  shared := rfl

/-- What happens to a node, one event after the other. -/
inductive Event (crypto : Primitives) (noise : Noise)
  /-- The runtime does something. A write to the key table from elsewhere is a saved table that
  is loaded again. -/
  | call (call : Call crypto noise)
  | datagram (bytes : Bytes) (sender : SocketAddr) (now : Instant)
      (order : IterationOrder (Sigma fun _ : U128 => Instant))
  | idle (now : Instant)
  /-- `send` enters a datagram as pending. -/
  | sent (id : U128) (entry : Pending)

def perform (endpoint : Endpoint crypto noise) : Event crypto noise → Endpoint crypto noise
  | .call call => endpoint.withRuntime (endpoint.runtime.perform call).2
  | .datagram bytes sender now order =>
    endpoint.withTransport (endpoint.transport.receive bytes sender now order).2
  | .idle now => endpoint.withTransport (endpoint.transport.idle now)
  | .sent id entry =>
    endpoint.withTransport { endpoint.transport with
      pending := endpoint.transport.pending.insert id entry }

/-- The other nodes are honest. Every acknowledgement is the one of the node at the address it
comes from, a handshake presents the certificate of the node it is from, and a table that is
loaded holds such keys as were pinned before. -/
def Honest (keyAt : SocketAddr → SigningKey crypto) (endpoint : Endpoint crypto noise) :
    Event crypto noise → Prop
  | .call (.tickHandshake packet sender draws) =>
    ∀ certificate, endpoint.runtime.Presents packet draws certificate →
      ∃ origin, certificate.deviceEd25519Pubkey = (keyAt origin).verifyingKey ∧
        Travels packet origin sender
  | .call (.writePeers _ peerKeys) =>
    PinsOwners keyAt endpoint.runtime.peerKeys → PinsOwners keyAt peerKeys
  | .datagram bytes sender _ _ =>
    ∀ ack, endpoint.transport.Brings bytes sender ack → ack.header.flags.contains .ack = true →
      ack = Packet.ackFor (keyAt sender) ack.header.id
  | _ => True

/-- A handshake comes from the address of the node whose certificate it presents. -/
def Direct (keyAt : SocketAddr → SigningKey crypto) (endpoint : Endpoint crypto noise) :
    Event crypto noise → Prop
  | .call (.tickHandshake packet sender draws) =>
    ∀ certificate, endpoint.runtime.Presents packet draws certificate →
      certificate.deviceEd25519Pubkey = (keyAt sender).verifyingKey
  | _ => True

def HonestStep (keyAt : SocketAddr → SigningKey crypto) (before after : Endpoint crypto noise) :
    Prop :=
  ∃ event, before.Honest keyAt event ∧ after = before.perform event

def DirectStep (keyAt : SocketAddr → SigningKey crypto) (before after : Endpoint crypto noise) :
    Prop :=
  ∃ event, before.Honest keyAt event ∧ before.Direct keyAt event ∧ after = before.perform event

/-- Whatever is pending, its acknowledgement by the node it was sent to is accepted. -/
def AcceptsAcks (keyAt : SocketAddr → SigningKey crypto) (endpoint : Endpoint crypto noise) :
    Prop :=
  ∀ id entry, endpoint.transport.pending.lookup id = some entry →
    (verifyAck (Packet.ackFor (keyAt entry.dest) id) endpoint.transport.pending
      endpoint.transport.peerKeys entry.dest).1 = .ok true

/-- A node that pins nothing but the keys of owners accepts their acknowledgements. -/
theorem acceptsAcks_of_pinsOwners {keyAt : SocketAddr → SigningKey crypto}
    (signs : ∀ address, (keyAt address).SignsVerifiably) {endpoint : Endpoint crypto noise}
    (pins : PinsOwners keyAt endpoint.transport.peerKeys) : endpoint.AcceptsAcks keyAt := by
  intro id entry held
  have answers := ReliableTransport.answers_ackFor (keyAt entry.dest) held rfl
  rw [verifyAck_answers answers]
  cases known : endpoint.transport.peerKeys.lookup entry.dest with
  | none => rfl
  | some pinned =>
    dsimp only
    rw [pins entry.dest pinned known]
    exact congrArg Except.ok (signs entry.dest _)

/-- A call that keeps to the conditions pins the key of an owner, if any. -/
theorem pinsOwners_call {keyAt : SocketAddr → SigningKey crypto} {endpoint : Endpoint crypto noise}
    (pins : PinsOwners keyAt endpoint.runtime.peerKeys) {call : Call crypto noise}
    (honest : endpoint.Honest keyAt (.call call)) (direct : endpoint.Direct keyAt (.call call)) :
    PinsOwners keyAt (endpoint.runtime.perform call).2.peerKeys := by
  cases call with
  | setMasterPubkey pk => exact pins
  | setDeviceCert cert => exact pins
  | enableSessionInitiator peerDeviceX25519Pub peerUserId tag =>
    obtain ⟨pendingSessions, prepared⟩ :=
      endpoint.runtime.enableSessionInitiator_frame peerDeviceX25519Pub peerUserId tag
    rw [Runtime.perform, prepared]
    exact pins
  | initiateHandshake tag draws =>
    obtain ⟨pendingSessions, called⟩ := endpoint.runtime.initiateHandshake_frame tag draws
    rw [Runtime.perform, called]
    exact pins
  | tickHandshake packet sender draws =>
    rcases endpoint.runtime.peerKeys_tickHandshake packet sender draws with
      unchanged | ⟨certificate, presents, pinned⟩
    · rw [Runtime.perform, unchanged]
      exact pins
    · rw [Runtime.perform, pinned, direct certificate presents]
      exact pins.insert sender
  | tickMessage packet sender env now =>
    obtain ⟨_, _, _, _, received⟩ := endpoint.runtime.tickMessage_frame packet sender env now
    rw [Runtime.perform, received]
    exact pins
  | sendMessage msg peerPk key nonce draws =>
    obtain ⟨_, sent⟩ := endpoint.runtime.sendMessage_frame msg peerPk key nonce draws
    rw [Runtime.perform]
    dsimp only
    rw [sent]
    exact pins
  | writePeers pkToAddr peerKeys => exact honest pins

theorem pinsOwners_perform {keyAt : SocketAddr → SigningKey crypto}
    {endpoint : Endpoint crypto noise} (pins : PinsOwners keyAt endpoint.transport.peerKeys)
    {event : Event crypto noise} (honest : endpoint.Honest keyAt event)
    (direct : endpoint.Direct keyAt event) :
    PinsOwners keyAt (endpoint.perform event).transport.peerKeys := by
  cases event with
  | call call => exact pinsOwners_call (endpoint.shared ▸ pins) honest direct
  | datagram bytes sender now order =>
    rcases ReliableTransport.peerKeys_receive honest now order with unchanged | pinned
    · rw [perform, withTransport, unchanged]
      exact pins
    · rw [perform, withTransport, pinned]
      exact pins.insert sender
  | idle now => exact pins
  | sent id entry => exact pins

/-- In every run among honest nodes in which every handshake comes straight from the peer, the
acknowledgement of a node for what is pending for it is accepted. -/
theorem acks_accepted {keyAt : SocketAddr → SigningKey crypto}
    (signs : ∀ address, (keyAt address).SignsVerifiably) {address : SocketAddr}
    {deviceX25519Priv : Key} {last : Endpoint crypto noise}
    (run : Relation.ReflTransGen (DirectStep keyAt) (bind address deviceX25519Priv) last) :
    last.AcceptsAcks keyAt := by
  let pins (endpoint : Endpoint crypto noise) : Prop :=
    PinsOwners keyAt endpoint.transport.peerKeys
  have pinned : pins last := by
    refine Run.preserves ?_ (pinsOwners_empty keyAt) run
    rintro before after holds ⟨event, honest, direct, rfl⟩
    exact pinsOwners_perform holds honest direct
  exact acceptsAcks_of_pinsOwners signs pinned

/-! ### A call from a peer behind a relay -/

def sampleRelay : SocketAddr := .v4 (Octets.zero 4) 9003

/-- Device `6` is at the sample address, and device `3` is a relay. -/
def sampleKeyAt (address : SocketAddr) : SigningKey sampleSuite :=
  let device := if address = sampleRelay then 3 else 6
  { verifyingKey := SampleSuite.verifyingKey (SampleSuite.octets 32 device)
    sign := SampleSuite.sign (SampleSuite.octets 32 device) }

theorem sampleKeyAt_signs (address : SocketAddr) : (sampleKeyAt address).SignsVerifiably := by
  intro message
  exact decide_eq_true rfl

/-- A relay at which user `42` is registered. -/
def sampleForwarder : RelayForwarder where
  registry := RelayRegistry.new.add
    { id := deriveId sampleSuite (SampleSuite.octets 32 42)
      pubkey := SampleSuite.octets 32 42
      address := Runtime.sampleAddress }

/-- The call of device `6`, as it is received. -/
def sampleReceivedCall : Packet := (Runtime.sampleCall 40 40).requireAck

/-- Device `50` of user `42` waits for the acknowledgement of a packet to an address, and then
the call of device `6` comes from there. -/
def sampleEvents (via : SocketAddr) : List (Event sampleSuite SampleSuite.noise) :=
  [.call (.setMasterPubkey (SampleSuite.octets 32 42)),
    .call (.setDeviceCert (Runtime.sampleCertificate 42 50)),
    .sent 7 { serialized := [], dest := via, retries := 0, lastSent := 0 },
    .call (.tickHandshake sampleReceivedCall via Runtime.sampleDraws)]

def sampleEndpoint (via : SocketAddr) : Endpoint sampleSuite SampleSuite.noise :=
  (sampleEvents via).foldl perform (bind Runtime.sampleAddress (SampleSuite.octets 32 50))

/-- The call presents the certificate of device `6`. -/
theorem sampleCall_presents {runtime : Runtime sampleSuite SampleSuite.noise}
    (called : runtime.introduced sampleReceivedCall =
      Runtime.sampleRuntime.introduced sampleReceivedCall)
    (waits : runtime.pendingSessions = ∅) {certificate : DeviceCertificate sampleSuite}
    (presents : runtime.Presents sampleReceivedCall Runtime.sampleDraws certificate) :
    certificate.deviceEd25519Pubkey = (sampleKeyAt Runtime.sampleAddress).verifyingKey := by
  cases presents with
  | answer found =>
    rw [waits] at found
    cases found
  | @call _ _ introduction _ _ _ introduces =>
    have reads : (Runtime.sampleRuntime.introduced sampleReceivedCall).toOption.any (fun read =>
        read.2.certificate.deviceEd25519Pubkey =
          (sampleKeyAt Runtime.sampleAddress).verifyingKey) = true := by
      decide +kernel
    rw [← called, introduces] at reads
    exact of_decide_eq_true reads

/-- An honest run, when the call may come from where it does. -/
theorem sampleEndpoint_run {via : SocketAddr}
    (travels : Travels sampleReceivedCall Runtime.sampleAddress via) :
    Relation.ReflTransGen (HonestStep sampleKeyAt)
      (bind Runtime.sampleAddress (SampleSuite.octets 32 50)) (sampleEndpoint via) :=
  (((Relation.ReflTransGen.single
    ⟨.call (.setMasterPubkey (SampleSuite.octets 32 42)), trivial, rfl⟩).tail
    ⟨.call (.setDeviceCert (Runtime.sampleCertificate 42 50)), trivial, rfl⟩).tail
    ⟨.sent 7 { serialized := [], dest := via, retries := 0, lastSent := 0 }, trivial, rfl⟩).tail
    ⟨.call (.tickHandshake sampleReceivedCall via Runtime.sampleDraws),
      fun _ presents => ⟨_, sampleCall_presents rfl rfl presents, travels⟩, rfl⟩

/-- The relay forwards the call of device `6` from its own address. After that, the
acknowledgements of the relay are refused. -/
theorem relay_acks_refused : ∃ last : Endpoint sampleSuite SampleSuite.noise,
    (∀ address, (sampleKeyAt address).SignsVerifiably) ∧
      Relation.ReflTransGen (HonestStep sampleKeyAt)
        (bind Runtime.sampleAddress (SampleSuite.octets 32 50)) last ∧
          ¬ last.AcceptsAcks sampleKeyAt := by
  have resolves : sampleForwarder.resolve (Runtime.sendPacket (Runtime.sampleCall 40 40)
      sampleRelay (deriveId sampleSuite (SampleSuite.octets 32 42)) 9).1 =
        some (Runtime.sampleCall 40 40, Runtime.sampleAddress) := by
    decide +kernel
  have split : (Runtime.sampleCall 40 40).split (fun _ => 0) = .ok [Runtime.sampleCall 40 40] := by
    decide +kernel
  have ends : ((sampleEndpoint sampleRelay).transport.pending.lookup 7).any (fun entry =>
      (verifyAck (Packet.ackFor (sampleKeyAt entry.dest) 7)
        (sampleEndpoint sampleRelay).transport.pending
          (sampleEndpoint sampleRelay).transport.peerKeys entry.dest).1.toOption = some false) =
            true := by
    decide +kernel
  refine ⟨_, sampleKeyAt_signs, sampleEndpoint_run (.relayed sampleRelay resolves split rfl),
    fun accepts => ?_⟩
  rcases held : (sampleEndpoint sampleRelay).transport.pending.lookup 7 with _ | entry
  · rw [held] at ends
    cases ends
  · rw [held, Option.any_some, accepts 7 entry held] at ends
    exact absurd ends (by decide)

/-- After a call that came straight from it, the acknowledgements of device `6` are accepted. -/
theorem direct_acks_accepted : Runtime.sampleAddress ∈
      (sampleEndpoint Runtime.sampleAddress).transport.peerKeys ∧
    7 ∈ (sampleEndpoint Runtime.sampleAddress).transport.pending ∧
      (sampleEndpoint Runtime.sampleAddress).AcceptsAcks sampleKeyAt := by
  have steps : Relation.ReflTransGen (DirectStep sampleKeyAt)
      (bind Runtime.sampleAddress (SampleSuite.octets 32 50))
        (sampleEndpoint Runtime.sampleAddress) :=
    (((Relation.ReflTransGen.single
      ⟨.call (.setMasterPubkey (SampleSuite.octets 32 42)), trivial, trivial, rfl⟩).tail
      ⟨.call (.setDeviceCert (Runtime.sampleCertificate 42 50)), trivial, trivial, rfl⟩).tail
      ⟨.sent 7 { serialized := [], dest := Runtime.sampleAddress, retries := 0, lastSent := 0 },
        trivial, trivial, rfl⟩).tail
      ⟨.call (.tickHandshake sampleReceivedCall Runtime.sampleAddress Runtime.sampleDraws),
        fun _ presents => ⟨_, sampleCall_presents rfl rfl presents, .direct⟩,
        fun _ presents => sampleCall_presents rfl rfl presents, rfl⟩
  exact ⟨by decide +kernel, by decide +kernel, acks_accepted sampleKeyAt_signs steps⟩

end Endpoint

end Insub
