/-
This file models `crypto/handshake.rs`: a thin layer over the Noise_IK handshake of the
crate `snow`, which is a parameter. The state of a handshake is opaque; a theorem that
relies on what the library promises names it as a hypothesis.
-/

import Mathlib
import Insub.Crypto.Primitives

namespace Insub

open Rust

/-- The Noise_IK_25519_ChaChaPoly_SHA256 handshake. An error is the text the library gives
for it. A call on a state may change the state also when it fails, and a write draws an
ephemeral secret. -/
structure Noise where
  State : Type
  /-- What is left of a finished handshake. -/
  Transport : Type
  buildInitiator : (ourStaticPriv peerStaticPub : Key) → Except String State
  buildResponder : (ourStaticPriv : Key) → Except String State
  /-- Write a message into a buffer of the given capacity. -/
  writeMessage : State → (ephemeral : Key) → (payload : Bytes) → (capacity : Nat) →
    Except String Bytes × State
  /-- Read a message, with its payload into a buffer of the given capacity. -/
  readMessage : State → (message : Bytes) → (capacity : Nat) → Except String Bytes × State
  getHandshakeHash : State → Key
  intoTransportMode : State → Except String Transport
  getRemoteStatic : Transport → Option Key

/-- A result of the library. -/
def ofNoise {Value : Type} : Except String Value → Outcome Value
  | .ok value => .ok value
  | .error reason => .error (.error reason)

structure Initiator (noise : Noise) where
  handshake : Option noise.State

structure Responder (noise : Noise) where
  handshake : Option noise.State

structure HandshakeResult where
  handshakeHash : Key
  remoteStatic : Key
  peerPayload : Bytes

/-- The size of every message buffer. -/
def messageCapacity : Nat := 1024

variable {noise : Noise}

/-- What both sides take from a handshake that is through. -/
def concludeHandshake (handshake : noise.State) (peerPayload : Bytes) : Outcome HandshakeResult := do
  let handshakeHash := noise.getHandshakeHash handshake
  let transport ← (ofNoise (noise.intoTransportMode handshake)).inContext
    "transition to transport mode failed"
  let remoteStatic ← okOr "remote static key not available after handshake"
    (noise.getRemoteStatic transport)
  .ok { handshakeHash, remoteStatic, peerPayload }

namespace Initiator

def new (noise : Noise) (ourStaticPriv peerStaticPub : Key) : Outcome (Initiator noise) := do
  let handshake ← (ofNoise (noise.buildInitiator ourStaticPriv peerStaticPub)).inContext
    "failed to build initiator"
  .ok { handshake := some handshake }

/-- Build the first handshake message to send to the responder. -/
def initiate (initiator : Initiator noise) (payload : Bytes) (ephemeral : Key) :
    Outcome Bytes × Initiator noise :=
  match initiator.handshake with
  | none => (.error (.error "handshake already completed"), initiator)
  | some handshake =>
    match noise.writeMessage handshake ephemeral payload messageCapacity with
    | (written, handshake) =>
      ((ofNoise written).inContext "handshake initiation failed",
        { handshake := some handshake })

theorem initiate_eq {handshake next : noise.State} {payload : Bytes} {ephemeral : Key}
    {written : Except String Bytes}
    (wrote : noise.writeMessage handshake ephemeral payload messageCapacity = (written, next)) :
    initiate ⟨some handshake⟩ payload ephemeral =
      ((ofNoise written).inContext "handshake initiation failed", ⟨some next⟩) := by
  simp only [initiate, wrote]

/-- Process the responder's reply and finish the handshake. The caller owns the initiator, so
what a failure leaves of it is lost. -/
def finish (initiator : Initiator noise) (response : Bytes) : Outcome HandshakeResult :=
  match initiator.handshake with
  | none => .error (.error "handshake already completed")
  | some handshake =>
    match noise.readMessage handshake response messageCapacity with
    | (read, handshake) => do
      let peerPayload ← (ofNoise read).inContext "handshake response failed"
      concludeHandshake handshake peerPayload

end Initiator

namespace Responder

def new (noise : Noise) (ourStaticPriv : Key) : Outcome (Responder noise) := do
  let handshake ← (ofNoise (noise.buildResponder ourStaticPriv)).inContext
    "failed to build responder"
  .ok { handshake := some handshake }

/-- Process the first handshake message from an initiator. -/
def accept (responder : Responder noise) (incomingMessage : Bytes) :
    Outcome Bytes × Responder noise :=
  match responder.handshake with
  | none => (.error (.error "handshake already completed"), responder)
  | some handshake =>
    match noise.readMessage handshake incomingMessage messageCapacity with
    | (read, handshake) =>
      ((ofNoise read).inContext "handshake accept failed",
        { handshake := some handshake })

/-- Build the final handshake message and finish. -/
def reply (responder : Responder noise) (payload : Bytes) (ephemeral : Key) :
    Outcome (Bytes × HandshakeResult) :=
  match responder.handshake with
  | none => .error (.error "handshake already completed")
  | some handshake =>
    match noise.writeMessage handshake ephemeral payload messageCapacity with
    | (written, handshake) => do
      let outgoingMessage ← (ofNoise written).inContext "handshake reply failed"
      let result ← concludeHandshake handshake []
      .ok (outgoingMessage, result)

end Responder

/-! ### What the library promises -/

/-- The most bytes of payload for which either message of a handshake has room. -/
def Noise.payloadLimit : Nat := 928

/-- A handshake in which both messages arrive unaltered: the payloads are delivered, both sides
have the same handshake hash, and each learns the static key of the other. -/
def Noise.DeliversUnaltered (noise : Noise) (crypto : Primitives) : Prop :=
  ∀ initiatorPriv responderPriv firstEphemeral secondEphemeral first second,
    first.length ≤ payloadLimit → second.length ≤ payloadLimit →
      ∃ calling called waiting answering answered completed firstMessage secondMessage
        initiatorTransport responderTransport,
        noise.buildInitiator initiatorPriv (crypto.publicKey responderPriv) = .ok calling ∧
        noise.buildResponder responderPriv = .ok waiting ∧
        noise.writeMessage calling firstEphemeral first messageCapacity =
          (.ok firstMessage, called) ∧
        noise.readMessage waiting firstMessage messageCapacity = (.ok first, answering) ∧
        noise.writeMessage answering secondEphemeral second messageCapacity =
          (.ok secondMessage, answered) ∧
        noise.readMessage called secondMessage messageCapacity = (.ok second, completed) ∧
        noise.getHandshakeHash completed = noise.getHandshakeHash answered ∧
        noise.intoTransportMode completed = .ok initiatorTransport ∧
        noise.getRemoteStatic initiatorTransport = some (crypto.publicKey responderPriv) ∧
        noise.intoTransportMode answered = .ok responderTransport ∧
        noise.getRemoteStatic responderTransport = some (crypto.publicKey initiatorPriv)

/-- A state takes a message whose payload fits exactly when it is its turn, which is over then. Out
of turn it is left as it was. -/
structure Noise.TakesTurns (noise : Noise) (isMyTurn : noise.State → Prop) : Prop where
  writes : ∀ state ephemeral payload, isMyTurn state → payload.length ≤ payloadLimit →
    ∃ message next, noise.writeMessage state ephemeral payload messageCapacity =
      (.ok message, next) ∧ ¬ isMyTurn next
  refuses : ∀ state ephemeral payload, ¬ isMyTurn state →
    ∃ reason, noise.writeMessage state ephemeral payload messageCapacity = (.error reason, state)

theorem concludeHandshake_eq {handshake : noise.State} {transport : noise.Transport}
    {remoteStatic : Key} (mode : noise.intoTransportMode handshake = .ok transport)
    (static : noise.getRemoteStatic transport = some remoteStatic) (peerPayload : Bytes) :
    concludeHandshake handshake peerPayload = .ok
      { handshakeHash := noise.getHandshakeHash handshake, remoteStatic, peerPayload } := by
  rw [concludeHandshake, mode]
  show (okOr _ (noise.getRemoteStatic transport) >>= _) = _
  rw [static]
  rfl

/-- So both sides of the layer finish, with each other's payload and static key. -/
theorem Noise.DeliversUnaltered.run {noise : Noise} {crypto : Primitives}
    (delivers : noise.DeliversUnaltered crypto)
    (initiatorPriv responderPriv firstEphemeral secondEphemeral : Key) {first second : Bytes}
    (firstFits : first.length ≤ payloadLimit) (secondFits : second.length ≤ payloadLimit) :
    ∃ initiator called responder answering firstMessage secondMessage handshakeHash,
      Initiator.new noise initiatorPriv (crypto.publicKey responderPriv) = .ok initiator ∧
      Responder.new noise responderPriv = .ok responder ∧
      initiator.initiate first firstEphemeral = (.ok firstMessage, called) ∧
      responder.accept firstMessage = (.ok first, answering) ∧
      answering.reply second secondEphemeral = .ok (secondMessage,
        { handshakeHash, remoteStatic := crypto.publicKey initiatorPriv, peerPayload := [] }) ∧
      called.finish secondMessage = .ok
        { handshakeHash, remoteStatic := crypto.publicKey responderPriv, peerPayload := second } := by
  obtain ⟨calling, called, waiting, answering, answered, completed, firstMessage, secondMessage,
    initiatorTransport, responderTransport, builtInitiator, builtResponder, wrote, accepted, replied,
    finished, sameHash, initiatorMode, responderStatic, responderMode, initiatorStatic⟩ :=
    delivers initiatorPriv responderPriv firstEphemeral secondEphemeral first second firstFits
      secondFits
  refine ⟨⟨some calling⟩, ⟨some called⟩, ⟨some waiting⟩, ⟨some answering⟩, firstMessage,
    secondMessage, noise.getHandshakeHash answered, ?_, ?_, ?_, ?_, ?_, ?_⟩
  · rw [Initiator.new, builtInitiator]
    rfl
  · rw [Responder.new, builtResponder]
    rfl
  · exact Initiator.initiate_eq wrote
  · simp only [Responder.accept, accepted]
    rfl
  · simp only [Responder.reply, replied, concludeHandshake_eq responderMode initiatorStatic]
    rfl
  · simp only [Initiator.finish, finished, concludeHandshake_eq initiatorMode responderStatic,
      sameHash]
    rfl

end Insub
