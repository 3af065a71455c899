/-
This file proves what becomes of a message between two users. It is read back as it was written,
save that message zero cannot be answered: in the place of the reply, zero stands for no reply at
all. What an established peer seals need not be a message. The runtime takes it as one as long as it
has the forty bytes of the fixed fields, and whatever stands in them and behind them, it reads a
message or drops the packet.
-/

import Mathlib
import Insub.Runtime.Receipts
import Insub.Runtime.Teardown

namespace Insub

open Rust

variable {crypto : Primitives} {noise : Noise}

/-- What opens of the body that a session hands out: a key, a nonce and what is sealed under
them. -/
def bodyPlaintext (crypto : Primitives) (inner : Bytes) : Option Bytes :=
  (slice 0 32 inner).toOption.bind fun key =>
    (slice 32 12 inner).toOption.bind fun nonce =>
      (crypto.decrypt (inner.drop 44) nonce key).toOption

namespace Runtime

/-- The plaintext that a packet brings, under both of its seals. -/
def plaintext (runtime : Runtime crypto noise) (packet : Packet) (env : Surroundings) :
    Option Bytes :=
  (runtime.opens packet env).bind fun (inner, _) => bodyPlaintext crypto inner

/-- The session of the packet's connection decrypts or refuses it. -/
def SessionReturns (runtime : Runtime crypto noise) (packet : Packet) (env : Surroundings) : Prop :=
  ∀ session, runtime.sessions.lookup packet.payload.connectionId = some session →
    ¬ (session.receive packet env).1.Panics

theorem not_panics_deliverInner {inner : Bytes}
    (long : ∀ plaintext ∈ bodyPlaintext crypto inner, 40 ≤ plaintext.length)
    (runtime : Runtime crypto noise) (packet : Packet) (sender : SocketAddr) (senderPk : Key)
    (now : Instant) : ¬ (runtime.deliverInner packet sender inner senderPk now).1.Panics := by
  rw [deliverInner]
  dsimp only
  split
  · exact Outcome.not_panics_ok _
  refine Outcome.not_panics_orReturn (by rw [slice_panics_iff]; omega) fun key keyAt => ?_
  refine Outcome.not_panics_orReturn (by rw [slice_panics_iff]; omega) fun nonce nonceAt => ?_
  split
  · exact Outcome.not_panics_ok _
  cases opened : crypto.decrypt (inner.drop 44) nonce key with
  | error fault => exact Outcome.not_panics_ok _
  | ok plaintext =>
    have brought : bodyPlaintext crypto inner = some plaintext := by
      rw [bodyPlaintext, keyAt, nonceAt]
      exact congrArg Except.toOption opened
    have enough := long plaintext brought
    dsimp only
    rcases read : Message.fromSerialized plaintext with (text | site) | message
    · exact Outcome.not_panics_ok _
    · exact absurd (Message.fromSerialized_panics_iff.mp ⟨site, read⟩) (not_lt.mpr enough)
    · exact Outcome.not_panics_ok _

/-- A packet whose plaintext has the forty bytes does not end the runtime. -/
theorem not_panics_tickMessage {runtime : Runtime crypto noise} {packet : Packet}
    {env : Surroundings} (returns : runtime.SessionReturns packet env)
    (long : ∀ plaintext ∈ runtime.plaintext packet env, 40 ≤ plaintext.length)
    (sender : SocketAddr) (now : Instant) :
    ¬ (runtime.tickMessage packet sender env now).1.Panics := by
  cases opened : runtime.opens packet env with
  | some body =>
    obtain ⟨inner, senderPk⟩ := body
    obtain ⟨⟨sessions, delivers⟩, -⟩ := tickMessage_of_opens opened sender now
    rw [delivers]
    refine not_panics_deliverInner (fun plaintext brought => long plaintext ?_) _ _ _ _ _
    rw [Runtime.plaintext, opened]
    exact brought
  | none =>
    rw [tickMessage]
    cases held : runtime.sessions.lookup packet.payload.connectionId with
    | none => exact Outcome.not_panics_ok _
    | some session =>
      have total := returns session held
      rw [opens, held, Option.bind_some] at opened
      dsimp only
      rcases run : session.receive packet env with ⟨(text | site) | item, last⟩
      · exact Outcome.not_panics_ok _
      · rw [run] at total
        exact absurd (Outcome.panics_panic site) total
      · rw [run] at opened
        cases opened

/-- A message is read back as it was written, with zero for no reply. Whatever else has the forty
bytes is read or refused, and so is a packet that brings it. -/
theorem messages_read_safely (crypto : Primitives) (noise : Noise) :
    (∀ message : Message, Message.fromSerialized message.serialize =
      .ok { message with replyTo := message.replyTo.filter (· ≠ 0) }) ∧
    (∀ message : Message, message.replyTo ≠ some 0 →
      Message.fromSerialized message.serialize = .ok message) ∧
    (∀ plaintext : Bytes, 40 ≤ plaintext.length → ¬ (Message.fromSerialized plaintext).Panics) ∧
    ∀ (runtime : Runtime crypto noise) (packet : Packet) (sender : SocketAddr) (env : Surroundings)
      (now : Instant), runtime.SessionReturns packet env →
        (∀ plaintext ∈ runtime.plaintext packet env, 40 ≤ plaintext.length) →
          ¬ (runtime.tickMessage packet sender env now).1.Panics := by
  refine ⟨Message.fromSerialized_serialize, fun message answers => ?_, fun plaintext long => ?_, ?_⟩
  · have kept : message.replyTo.filter (· ≠ 0) = message.replyTo := by
      cases answered : message.replyTo with
      | none => rfl
      | some id =>
        have other : id ≠ 0 := fun zero => answers (zero ▸ answered)
        rw [Option.filter_some, if_pos (decide_eq_true other)]
    rw [Message.fromSerialized_serialize, kept]
  · rw [Message.fromSerialized_panics_iff]
    exact not_lt.mpr long
  · intro runtime packet sender env now returns long
    exact not_panics_tickMessage returns long sender now

/-- A body that seals thirty-nine bytes. -/
def shortBody : Bytes :=
  (SampleSuite.octets 32 5).toList ++ (SampleSuite.octets 12 6).toList ++
    (sampleSuite.aeadEncrypt (SampleSuite.octets 32 5) (SampleSuite.octets 12 6)
      (List.replicate 39 0)).getD []

/-- An answer to message zero answers none, and thirty-nine bytes end the runtime. -/
theorem short_plaintext_panics :
    let message : Message := { id := 1, content := "", timestamp := 0, replyTo := some 0 }
    Message.fromSerialized message.serialize = .ok { message with replyTo := none } ∧
      (Message.fromSerialized (List.replicate 39 0)).Panics ∧
        ((sampleCalled 40 40).deliverInner (Inbox.samplePacket 40) sampleAddress shortBody
          (SampleSuite.octets 32 40) 0).1.Panics := by
  refine ⟨Message.fromSerialized_serialize _, ?_, ?_⟩
  · rw [Message.fromSerialized_panics_iff, List.length_replicate]
    decide
  · decide +kernel

/-- A message that answers another is read back, forty zeros are refused or read, and the packet of
a sample call is taken. -/
theorem samplePacket_read :
    let message : Message := { id := 1, content := "", timestamp := 0, replyTo := some 7 }
    Message.fromSerialized message.serialize = .ok message ∧
      ¬ (Message.fromSerialized (List.replicate 40 0)).Panics ∧
        ¬ ((sampleCalled 40 40).tickMessage (Inbox.samplePacket 40) sampleAddress
          Inbox.sampleEnvironment 0).1.Panics := by
  obtain ⟨-, whole, safe, taken⟩ := messages_read_safely sampleSuite SampleSuite.noise
  refine ⟨whole _ (by decide), safe _ List.length_replicate.ge, ?_⟩
  have enough : ((sampleCalled 40 40).plaintext (Inbox.samplePacket 40) Inbox.sampleEnvironment).all
      (fun plaintext => 40 ≤ plaintext.length) = true := by
    decide +kernel
  refine taken _ _ _ _ _ (fun session held => ?_) fun plaintext brought => ?_
  · have connected : (Inbox.samplePacket 40).payload.connectionId = sampleConnection 40 40 := by
      rw [Inbox.samplePacket, Packet.new]
    rw [connected] at held
    exact Session.not_panics_receive (sampleCalled_hasRoom held) _ _
  · rw [Option.mem_def.mp brought] at enough
    exact of_decide_eq_true enough

end Runtime

end Insub
