/-
This file models `protocol/message.rs`: what one user says to another.
-/

import Mathlib
import Insub.Library.Bytes

namespace Insub

open Rust

structure Message where
  id : U128
  content : String
  timestamp : U64
  replyTo : Option U128
  deriving DecidableEq

namespace Message

def serialize (message : Message) : Bytes :=
  (beBytes 16 message.id).toList ++ ((beBytes 8 message.timestamp).toList ++
    ((beBytes 16 (message.replyTo.getD 0)).toList ++ message.content.toUTF8.data.toList))

/-- The three fixed fields are drained without a length check. -/
def fromSerialized (serialized : Bytes) : Outcome Message := do
  let (idBytes, serialized) ← drain 16 serialized
  let (timestampBytes, serialized) ← drain 8 serialized
  let (replyToBytes, serialized) ← drain 16 serialized
  let replyTo := ofBeBytes 128 replyToBytes
  let content ← okOr "invalid UTF-8 in message content"
    (String.fromUTF8? ⟨serialized.toArray⟩)
  .ok { id := ofBeBytes 128 idBytes
        content
        timestamp := ofBeBytes 64 timestampBytes
        replyTo := if replyTo = 0 then none else some replyTo }

/-- The bytes of a string spell the string. -/
theorem fromUTF8_toUTF8 (content : String) :
    String.fromUTF8? ⟨content.toUTF8.data.toList.toArray⟩ = some content := by
  have whole : (⟨content.toUTF8.data.toList.toArray⟩ : ByteArray) = content.toUTF8 := by
    rw [Array.toArray_toList]
  rw [whole, String.fromUTF8?]
  exact dif_pos content.isValidUTF8

/-- A message that is read back is the one that was written, save that an answer to message zero
answers none. -/
theorem fromSerialized_serialize (message : Message) :
    fromSerialized message.serialize =
      .ok { message with replyTo := message.replyTo.filter (· ≠ 0) } := by
  rw [serialize, fromSerialized, drain_append, Outcome.bind_ok]
  dsimp only
  rw [drain_append, Outcome.bind_ok]
  dsimp only
  rw [drain_append, Outcome.bind_ok]
  dsimp only
  rw [fromUTF8_toUTF8, ofBeBytes_beBytes _ (by decide), ofBeBytes_beBytes _ (by decide),
    ofBeBytes_beBytes _ (by decide), okOr, Outcome.bind_ok]
  obtain ⟨id, content, timestamp, replyTo⟩ := message
  cases replyTo with
  | none => rfl
  | some answered =>
    dsimp only [Option.getD_some, Option.filter]
    by_cases zero : answered = 0
    · rw [if_pos zero, if_neg (by simpa using zero)]
    · rw [if_neg zero, if_pos (decide_eq_true zero)]

/-- What is shorter than the three fixed fields cannot be drained. -/
theorem fromSerialized_panics_iff {serialized : Bytes} :
    (fromSerialized serialized).Panics ↔ serialized.length < 40 := by
  constructor
  · intro panics
    by_contra long
    refine Outcome.not_panics_bind ?_ (fun fields first => ?_) panics
    · rw [drain_panics_iff]
      omega
    have one := length_of_drain first
    refine Outcome.not_panics_bind ?_ fun fields second => ?_
    · rw [drain_panics_iff]
      omega
    have two := length_of_drain second
    refine Outcome.not_panics_bind ?_ fun fields _ => ?_
    · rw [drain_panics_iff]
      omega
    exact Outcome.not_panics_bind (not_panics_okOr _ _) fun _ _ => Outcome.not_panics_ok _
  · intro short
    rw [fromSerialized, Outcome.panics_bind_iff]
    by_cases first : serialized.length < 16
    · exact Or.inl (drain_panics_iff.mpr first)
    obtain ⟨id, rest, rfl⟩ := exists_octets (not_lt.mp first)
    rw [List.length_append, List.Vector.toList_length] at short
    refine Or.inr ⟨_, drain_append id rest, ?_⟩
    rw [Outcome.panics_bind_iff]
    by_cases second : rest.length < 8
    · exact Or.inl (drain_panics_iff.mpr second)
    obtain ⟨timestamp, rest, rfl⟩ := exists_octets (not_lt.mp second)
    rw [List.length_append, List.Vector.toList_length] at short
    refine Or.inr ⟨_, drain_append timestamp rest, ?_⟩
    rw [Outcome.panics_bind_iff]
    exact Or.inl (drain_panics_iff.mpr (by omega))

end Message

end Insub
