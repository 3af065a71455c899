/-
This file follows a message through the runtimes of a user and of a peer with whom it has one
connection. It is sealed under a key of its own, and sent in the one session. The runtime of the
peer forwards what its session receives, as long as it does not remember the key.
-/

import Mathlib
import Insub.Runtime.Contact
import Insub.Runtime.Receipts

namespace Insub

open Rust

variable {crypto : Primitives} {noise : Noise}

/-- A message, with the key that is drawn for its body. -/
structure Note where
  message : Message
  key : Key

namespace Note

/-- Under what the peer remembers the note. -/
def name (crypto : Primitives) (senderPk : Key) (note : Note) : Key :=
  Runtime.bodyName crypto (senderPk, note.key)

/-- The bytes are the body of the note. -/
def Fills (crypto : Primitives) (note : Note) (body : Bytes) : Prop :=
  ∃ nonce ciphertext, crypto.aeadEncrypt note.key nonce note.message.serialize = some ciphertext ∧
    body = note.key.toList ++ nonce.toList ++ ciphertext

end Note

namespace Runtime

/-- The runtime has one connection, with a user at an address, and a session on it. It waits for no
answer to a call. -/
structure Talks (runtime : Runtime crypto noise) (connId : ConnectionId) (peerPk : Key)
    (addr : SocketAddr) (session : Session crypto noise) : Prop where
  session : runtime.sessions.lookup connId = some session
  sole : ∀ other, other ≠ connId → runtime.sessions.lookup other = none
  idle : ∀ tag, runtime.pendingSessions.lookup tag = none
  conns : runtime.pkToConn.lookup peerPk = some [connId]
  addr : runtime.pkToAddr.lookup peerPk = some addr

/-- The session moves on. -/
theorem Talks.insert {runtime : Runtime crypto noise} {connId : ConnectionId} {peerPk : Key}
    {addr : SocketAddr} {session : Session crypto noise}
    (talks : runtime.Talks connId peerPk addr session) (next : Session crypto noise)
    (receivedKeys : HashMap Key Instant) :
    Talks { runtime with sessions := runtime.sessions.insert connId next, receivedKeys } connId
      peerPk addr next :=
  ⟨AList.lookup_insert _, fun other differs =>
    (AList.lookup_insert_ne differs).trans (talks.sole other differs), talks.idle, talks.conns,
      talks.addr⟩

/-- A message is sent to a user without a connection by nobody. -/
theorem not_sendMessage_of_unknown {runtime : Runtime crypto noise} {peerPk : Key}
    (unknown : runtime.pkToConn.lookup peerPk = none) (msg : Message) (key : Key) (nonce : Nonce)
    (draws : Nat → SendDraws) : (runtime.sendMessage msg peerPk key nonce draws).1 ≠ .ok () := by
  rw [sendMessage, unknown]
  intro sent
  cases sent

/-- A message goes out in the session of the connection, wrapped for the user at its address. -/
theorem Talks.sendMessage {runtime : Runtime crypto noise} {connId : ConnectionId} {peerPk : Key}
    {addr : SocketAddr} {session : Session crypto noise}
    (talks : runtime.Talks connId peerPk addr session)
    (established : session.isEstablished = true) {note : Note} {nonce : Nonce}
    {draws : Nat → SendDraws}
    (sent : (runtime.sendMessage note.message peerPk note.key nonce draws).1 = .ok ()) :
    ∃ body packet next, note.Fills crypto body ∧
      session.send body (draws 0).nonce (draws 0).packetId = (.ok packet, next) ∧
        runtime.sendMessage note.message peerPk note.key nonce draws =
          (.ok (), [sendPacket packet addr (deriveId crypto peerPk) (draws 0).frameId],
            { runtime with sessions := runtime.sessions.insert connId next }) := by
  rw [Runtime.sendMessage, talks.conns] at sent ⊢
  dsimp only at sent ⊢
  rw [talks.addr] at sent ⊢
  dsimp only [Primitives.encrypt] at sent ⊢
  cases sealed : crypto.aeadEncrypt note.key nonce note.message.serialize with
  | none =>
    rw [sealed] at sent
    cases sent
  | some ciphertext =>
    rw [sealed] at sent
    dsimp only at sent ⊢
    rw [List.mapIdx_cons, List.mapIdx_nil, sendLoop, talks.session] at sent ⊢
    dsimp only at sent ⊢
    rw [if_pos established] at sent ⊢
    let body := note.key.toList ++ nonce.toList ++ ciphertext
    rcases run : session.send body (draws 0).nonce (draws 0).packetId with ⟨fault | packet, next⟩
    · rw [run] at sent
      rcases fault with message | site <;> cases sent
    · exact ⟨body, packet, next, ⟨nonce, ciphertext, sealed, rfl⟩, run, rfl⟩

/-- A body whose key is not remembered is forwarded, and remembered. -/
theorem deliverInner_body (opens : crypto.OpensSealed) (runtime : Runtime crypto noise)
    {note : Note} {body : Bytes} (fills : note.Fills crypto body) {senderPk : Key}
    (fresh : note.name crypto senderPk ∉ runtime.receivedKeys) (packet : Packet)
    (sender : SocketAddr) (now : Instant) :
    runtime.deliverInner packet sender body senderPk now = (.ok { Effects.none with
        acks := confirmations packet sender
        messages := [({ note.message with replyTo := note.message.replyTo.filter (· ≠ 0) },
          senderPk)] },
      { runtime with
        receivedKeys := (runtime.receivedKeys.retain fun _ time =>
          durationSince now time < receivedTtl).insert (note.name crypto senderPk) now }) := by
  obtain ⟨nonce, ciphertext, sealed, rfl⟩ := fills
  have front : (note.key.toList ++ nonce.toList).length = 44 := by
    rw [List.length_append, List.Vector.toList_length, List.Vector.toList_length]
  have long : ¬ (note.key.toList ++ nonce.toList ++ ciphertext).length < 44 := by
    rw [List.length_append, front]
    exact not_lt.mpr (Nat.le_add_right 44 _)
  have nonceAt : slice 32 12 (note.key.toList ++ nonce.toList ++ ciphertext) = .ok nonce := by
    rw [List.append_assoc]
    exact slice_append note.key.toList_length
  have unseen : crypto.sha256 (senderPk.toList ++ note.key.toList) ∉ runtime.receivedKeys := fresh
  rw [deliverInner, if_neg long, slice_body, nonceAt]
  dsimp only [Outcome.ok_orReturn]
  rw [if_neg unseen, List.drop_left' front, crypto.decrypt_sealed opens sealed]
  dsimp only
  rw [Message.fromSerialized_serialize]
  rfl

/-- A packet from which the session receives a body that is not remembered brings its message. -/
theorem Talks.tickMessage (opens : crypto.OpensSealed) {runtime : Runtime crypto noise}
    {peerPk : Key} {addr : SocketAddr} {session next : Session crypto noise} {packet : Packet}
    (talks : runtime.Talks packet.payload.connectionId peerPk addr session) {env : Surroundings}
    {note : Note} {body : Bytes} (fills : note.Fills crypto body) {senderPk : Key}
    (receives : session.receive packet env = (.ok (body, senderPk), next))
    (fresh : note.name crypto senderPk ∉ runtime.receivedKeys) (sender : SocketAddr)
    (now : Instant) :
    ∃ receivedKeys,
      (∀ name ∈ receivedKeys, name ∈ runtime.receivedKeys ∨ name = note.name crypto senderPk) ∧
        runtime.tickMessage packet sender env now = (.ok { Effects.none with
            acks := confirmations packet sender
            messages := [({ note.message with replyTo := note.message.replyTo.filter (· ≠ 0) },
              senderPk)] },
          { runtime with
            sessions := runtime.sessions.insert packet.payload.connectionId next
            receivedKeys }) := by
  refine ⟨(runtime.receivedKeys.retain fun _ time =>
    durationSince now time < receivedTtl).insert (note.name crypto senderPk) now, ?_, ?_⟩
  · intro name member
    obtain ⟨time, held⟩ := Option.isSome_iff_exists.mp (AList.lookup_isSome.mpr member)
    rcases HashMap.lookup_insert_eq_some_iff.mp held with ⟨same, _⟩ | ⟨_, held⟩
    · exact Or.inr same
    · have earlier := (HashMap.lookup_retain_eq_some_iff.mp held).1
      exact Or.inl (AList.lookup_isSome.mp (by rw [earlier]; rfl))
  · rw [Runtime.tickMessage, talks.session]
    dsimp only
    rw [receives]
    exact deliverInner_body opens { runtime with
      sessions := runtime.sessions.insert packet.payload.connectionId next } fills fresh packet
        sender now

end Runtime

end Insub
