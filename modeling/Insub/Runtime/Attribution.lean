/-
This file proves under which key the messages of an established peer are reported. The key
comes from the decrypted plaintext, which the peer writes; nothing compares it with the key
the connection is registered under. The two agree as long as every packet whose body is a
new message begins with that key, and a peer that writes another one has its message
reported under it.
-/

import Mathlib
import Insub.Runtime.Authentication

namespace Insub

open Rust

/-- A message as it was forwarded: the key it was reported under, and the key the connection
that decrypted it is registered under. -/
structure Attribution where
  message : Message
  reported : Key
  registeredAs : Option Key
  deriving DecidableEq

/-- A runtime, with all messages it has forwarded. -/
structure Inbox (crypto : Primitives) (noise : Noise) where
  runtime : Runtime crypto noise
  forwarded : List Attribution

variable {crypto : Primitives} {noise : Noise}

/-- The connection whose session decrypts a packet of the call. -/
def Call.connection : Call crypto noise → Option ConnectionId
  | .tickMessage packet _ _ _ => some packet.payload.connectionId
  | _ => none

namespace Runtime

/-- The messages a call forwards. -/
def forwards (runtime : Runtime crypto noise) (call : Call crypto noise) : List (Message × Key) :=
  match (runtime.perform call).1 with
  | .ok effects => effects.messages
  | .error _ => []

/-- What follows the sender's key is a message that opens, and that was not yet delivered. -/
def IsNewMessage (runtime : Runtime crypto noise) (senderPk : Key) (inner : Bytes) : Prop :=
  ∃ key nonce body message, slice 0 32 inner = .ok key ∧ slice 32 12 inner = .ok nonce ∧
    crypto.sha256 (senderPk.toList ++ key.toList) ∉ runtime.receivedKeys ∧
      crypto.decrypt (inner.drop 44) nonce key = .ok body ∧
        Message.fromSerialized body = .ok message

/-- If the packet carries a new message, then behind the key of its connection. -/
def PacketIsTruthful (runtime : Runtime crypto noise) (packet : Packet) (env : Surroundings) :
    Prop :=
  ∀ session peerPk senderPk inner,
    runtime.sessions.lookup packet.payload.connectionId = some session →
      runtime.connToPk.lookup packet.payload.connectionId = some peerPk →
        session.Carries packet env (senderPk.toList ++ inner) →
          runtime.IsNewMessage senderPk inner → senderPk = peerPk

def CallIsTruthful (runtime : Runtime crypto noise) : Call crypto noise → Prop
  | .tickMessage packet _ env _ => runtime.PacketIsTruthful packet env
  | _ => True

/-! ### What a call forwards -/

/-- Whatever the call sends, it forwards no message. -/
def ForwardsNothing (outcome : Outcome Effects) : Prop :=
  ∀ effects, outcome = .ok effects → effects.messages = []

theorem ForwardsNothing.ok {effects : Effects} (none : effects.messages = []) :
    ForwardsNothing (.ok effects) := by
  intro last same
  rw [← Except.ok.inj same]
  exact none

theorem ForwardsNothing.error {fault : Fault} : ForwardsNothing (.error fault) := by
  intro effects same
  cases same

theorem settleCall_messages (runtime : Runtime crypto noise) (session : Session crypto noise)
    (peerPk : Key) (tag : HandshakeTag) (sender : SocketAddr)
    (outgoing : List (Packet × SocketAddr)) :
    (runtime.settleCall session peerPk tag sender outgoing).1.messages = [] := by
  rw [settleCall]
  cases session.connectionId <;> rfl

theorem respond_messages (runtime : Runtime crypto noise) (packet : Packet) (sender : SocketAddr)
    (draws : RuntimeDraws) : ForwardsNothing (runtime.respond packet sender draws).1 := by
  rw [respond]
  rcases runtime.spawnResponder with fault | fresh
  · exact .ok rfl
  dsimp only
  rcases fresh.acceptHandshake packet.payload.data with ⟨(message | site) | _, accepted⟩
  · exact .ok rfl
  · exact .error
  dsimp only
  rcases accepted.replyHandshake draws.handshake with ⟨(message | site) | reply, replied⟩
  · exact .ok (settleCall_messages _ _ _ _ _ _)
  · exact .error
  · exact .ok (settleCall_messages _ _ _ _ _ _)

theorem tickHandshake_messages (runtime : Runtime crypto noise) (packet : Packet)
    (sender : SocketAddr) (draws : RuntimeDraws) :
    ForwardsNothing (runtime.tickHandshake packet sender draws).1 := by
  rw [tickHandshake]
  rcases runtime.completePending packet sender draws with ⟨fault | _ | ⟨connId, peerPk⟩, next⟩
  · exact .error
  · dsimp only
    split
    · exact .ok rfl
    · have answered := respond_messages next packet sender draws
      rcases run : next.respond packet sender draws with ⟨fault | effects, last⟩
      · exact .error
      · exact .ok (answered effects (congrArg Prod.fst run))
  · dsimp only
    cases next.pendingSessions.lookup packet.payload.connectionId with
    | none => exact .ok rfl
    | some entry => exact .ok rfl

theorem initiateHandshake_messages (runtime : Runtime crypto noise) (tag : HandshakeTag)
    (draws : RuntimeDraws) : ForwardsNothing (runtime.initiateHandshake tag draws).1 := by
  intro effects run
  obtain ⟨⟨session, peerPkOpt⟩, _, run⟩ := Outcome.orReturn_eq_ok_iff.mp (Prod.ext run rfl)
  obtain ⟨peerPk, _, run⟩ := Outcome.orReturn_eq_ok_iff.mp run
  obtain ⟨bytes, _, run⟩ := Outcome.orReturn_eq_ok_iff.mp run
  obtain ⟨addr, _, run⟩ := Outcome.orReturn_eq_ok_iff.mp run
  rw [← Except.ok.inj (Prod.mk.inj run).1]
  rfl

/-- What is left once the session has decrypted a packet forwards at most the message in it,
under the key in front of it. -/
theorem deliverInner_messages {runtime last : Runtime crypto noise} {packet : Packet}
    {sender : SocketAddr} {inner : Bytes} {senderPk : Key} {now : Instant} {effects : Effects}
    (run : runtime.deliverInner packet sender inner senderPk now = (.ok effects, last))
    {message : Message} {reported : Key} (member : (message, reported) ∈ effects.messages) :
    reported = senderPk ∧ runtime.IsNewMessage senderPk inner := by
  rw [deliverInner] at run
  split at run
  · cases run
    cases member
  obtain ⟨key, keyAt, run⟩ := Outcome.orReturn_eq_ok_iff.mp run
  obtain ⟨nonce, nonceAt, run⟩ := Outcome.orReturn_eq_ok_iff.mp run
  dsimp only at run
  split at run
  · cases run
    cases member
  rename_i unseen
  rcases opened : crypto.decrypt (inner.drop 44) nonce key with fault | body
  · rw [opened] at run
    cases run
    cases member
  rw [opened] at run
  dsimp only at run
  rcases parsed : Message.fromSerialized body with (text | site) | held
  · rw [parsed] at run
    cases run
    cases member
  · rw [parsed] at run
    cases run
  · rw [parsed] at run
    cases run
    obtain ⟨_, same⟩ := Prod.mk.inj (List.mem_singleton.mp member)
    exact ⟨same, key, nonce, body, held, keyAt, nonceAt, unseen, opened, parsed⟩

/-- What `tick_message` forwards was sealed for the session of the packet's connection, behind
the key it is reported under. -/
theorem tickMessage_messages (opens : crypto.OpensOnlySealed) {runtime last : Runtime crypto noise}
    {packet : Packet} {sender : SocketAddr} {env : Surroundings} {now : Instant}
    {effects : Effects} (run : runtime.tickMessage packet sender env now = (.ok effects, last))
    {message : Message} {reported : Key} (member : (message, reported) ∈ effects.messages) :
    ∃ session inner, runtime.sessions.lookup packet.payload.connectionId = some session ∧
      session.Carries packet env (reported.toList ++ inner) ∧
        runtime.IsNewMessage reported inner := by
  rw [tickMessage] at run
  cases held : runtime.sessions.lookup packet.payload.connectionId with
  | none =>
    rw [held] at run
    cases run
    cases member
  | some session =>
    rw [held] at run
    dsimp only at run
    rcases receiving : session.receive packet env with ⟨(text | site) | ⟨inner, senderPk⟩, next⟩
    · rw [receiving] at run
      cases run
      cases member
    · rw [receiving] at run
      cases run
    · rw [receiving] at run
      obtain ⟨rfl, new⟩ := deliverInner_messages run member
      exact ⟨session, inner, rfl, Session.carries_of_receive opens receiving, new⟩

/-- A message is forwarded by `tick_message` only, and then under the key of the connection if
the packet is truthful. -/
theorem forwards_attributed (opens : crypto.OpensOnlySealed) {runtime : Runtime crypto noise}
    (consistent : runtime.Consistent) {call : Call crypto noise} (truthful : runtime.CallIsTruthful call)
    {message : Message} {reported : Key} (member : (message, reported) ∈ runtime.forwards call) :
    call.connection.bind runtime.connToPk.lookup = some reported := by
  rw [forwards] at member
  rcases run : runtime.perform call with ⟨fault | effects, last⟩
  · rw [run] at member
    cases member
  rw [run] at member
  dsimp only at member
  cases call with
  | setMasterPubkey pk =>
    cases run
    cases member
  | setDeviceCert cert =>
    cases run
    cases member
  | enableSessionInitiator peerDeviceX25519Pub peerUserId tag =>
    rcases called : runtime.enableSessionInitiator peerDeviceX25519Pub peerUserId tag with
      ⟨fault | drawn, next⟩
    all_goals
      rw [perform, called] at run
      cases run
    cases member
  | initiateHandshake tag draws =>
    have silent := initiateHandshake_messages runtime tag draws effects (congrArg Prod.fst run)
    rw [silent] at member
    cases member
  | tickHandshake packet sender draws =>
    have silent := tickHandshake_messages runtime packet sender draws effects
      (congrArg Prod.fst run)
    rw [silent] at member
    cases member
  | tickMessage packet sender env now =>
    obtain ⟨session, inner, held, carries, new⟩ := tickMessage_messages opens run member
    have entered : packet.payload.connectionId ∈ runtime.connToPk :=
      consistent.named _ (AList.lookup_isSome.mp (Option.isSome_iff_exists.mpr ⟨session, held⟩))
    obtain ⟨peerPk, found⟩ := Option.isSome_iff_exists.mp (AList.lookup_isSome.mpr entered)
    rw [truthful session peerPk reported inner held found carries new]
    exact found
  | sendMessage msg peerPk key nonce draws =>
    rcases sent : runtime.sendMessage msg peerPk key nonce draws with
      ⟨(message | site) | _, outgoing, next⟩
    all_goals
      rw [perform, sent] at run
      cases run
    all_goals cases member
  | writePeers pkToAddr peerKeys =>
    cases run
    cases member

end Runtime

namespace Inbox

/-- The runtime as `bind` builds it, and nothing forwarded. -/
def start (runtime : Runtime crypto noise) : Inbox crypto noise where
  runtime := runtime
  forwarded := []

def perform (inbox : Inbox crypto noise) (call : Call crypto noise) : Inbox crypto noise where
  runtime := (inbox.runtime.perform call).2
  forwarded := inbox.forwarded ++ (inbox.runtime.forwards call).map fun (message, reported) =>
    { message, reported
      registeredAs := call.connection.bind inbox.runtime.connToPk.lookup }

/-- One call, whatever it is. -/
def Step (before after : Inbox crypto noise) : Prop := ∃ call, after = before.perform call

/-- A call whose packet is truthful. -/
def TruthfulStep (before after : Inbox crypto noise) : Prop :=
  ∃ call, before.runtime.CallIsTruthful call ∧ after = before.perform call

/-- Every message was reported under the key of its connection, and the tables agree. -/
structure Attributed (inbox : Inbox crypto noise) : Prop where
  consistent : inbox.runtime.Consistent
  forwarded : ∀ attribution ∈ inbox.forwarded,
    attribution.registeredAs = some attribution.reported

theorem Attributed.perform (opens : crypto.OpensOnlySealed) {inbox : Inbox crypto noise}
    (attributed : inbox.Attributed) {call : Call crypto noise}
    (truthful : inbox.runtime.CallIsTruthful call) : (inbox.perform call).Attributed := by
  refine ⟨attributed.consistent.perform call, fun attribution member => ?_⟩
  rcases List.mem_append.mp member with old | new
  · exact attributed.forwarded attribution old
  · obtain ⟨⟨message, reported⟩, forwarded, rfl⟩ := List.mem_map.mp new
    exact Runtime.forwards_attributed opens attributed.consistent truthful forwarded

/-- In every run in which every packet is truthful, every message is reported under the key
that the connection it came over is registered under. -/
theorem forwarded_attributed (crypto : Primitives) (noise : Noise)
    (opens : crypto.OpensOnlySealed) (address : SocketAddr) (deviceX25519Priv : Key)
    (peerKeys : HashMap SocketAddr (VerifyingKey crypto)) {last : Inbox crypto noise}
    (run : Relation.ReflTransGen TruthfulStep
      (start (.bind address deviceX25519Priv peerKeys)) last)
    {attribution : Attribution} (member : attribution ∈ last.forwarded) :
    attribution.registeredAs = some attribution.reported := by
  have first : (start (.bind address deviceX25519Priv peerKeys) :
      Inbox crypto noise).Attributed := by
    refine ⟨Runtime.consistent_bind address deviceX25519Priv peerKeys, ?_⟩
    intro attribution held
    cases held
  have attributed : last.Attributed := by
    refine Run.preserves ?_ first run
    rintro before after holds ⟨call, truthful, rfl⟩
    exact holds.perform opens truthful
  exact attributed.forwarded attribution member

/-! ### Two messages -/

/-- A message body, sealed under a key of its own. -/
def sampleInner : Bytes :=
  let key : Key := SampleSuite.octets 32 5
  let nonce : Nonce := SampleSuite.octets 12 6
  let message : Message := { id := 7, content := "", timestamp := 0, replyTo := none }
  key.toList ++ nonce.toList ++
    (sampleSuite.aeadEncrypt key nonce message.serialize).getD []

def sampleEnvironment : Surroundings where
  freshSecret := SampleSuite.octets 32 12
  insertedAt := 0
  order := default
  usedAt := 0

/-- What the peer of an honest call sends as its first message: a body behind the master key it
chooses to write. -/
def samplePacket (written : Nat) : Packet :=
  let called := Runtime.sampleCalled 40 40
  let connectionId := Runtime.sampleConnection 40 40
  let theirDhPub := sampleSuite.publicKey (SampleSuite.octets 32 8)
  let nonce : Nonce := SampleSuite.octets 12 13
  let key := ((called.sessions.lookup connectionId).bind fun session =>
    session.ratchet.bind fun ratchet =>
      ratchet.keyFor sampleSuite 1 theirDhPub sampleEnvironment).getD (Octets.zero 32)
  let ciphertext := (sampleSuite.aeadEncrypt key nonce
    ((SampleSuite.octets 32 written).toList ++ sampleInner)).getD []
  Packet.new 0 4 { Payload.new .message
    (nonce.toList ++ theirDhPub.toList ++ toBeBytes 4 1 ++ ciphertext) with connectionId }

def sampleStart : Inbox sampleSuite SampleSuite.noise :=
  start (.bind Runtime.sampleAddress (SampleSuite.octets 32 50) ∅)

/-- The inbox of a runtime that has answered the honest call. -/
def sampleAnswered : Inbox sampleSuite SampleSuite.noise :=
  ((sampleStart.perform (.setMasterPubkey (SampleSuite.octets 32 42))).perform
    (.setDeviceCert (Runtime.sampleCertificate 42 50))).perform
      (.tickHandshake (Runtime.sampleCall 40 40) Runtime.sampleAddress Runtime.sampleDraws)

/-- The inbox once it has also taken that message. -/
def sampleReceived (written : Nat) : Inbox sampleSuite SampleSuite.noise :=
  sampleAnswered.perform
    (.tickMessage (samplePacket written) Runtime.sampleAddress sampleEnvironment 0)

theorem sampleAnswered_run : Relation.ReflTransGen TruthfulStep sampleStart sampleAnswered :=
  .head ⟨.setMasterPubkey (SampleSuite.octets 32 42), trivial, rfl⟩
    (.head ⟨.setDeviceCert (Runtime.sampleCertificate 42 50), trivial, rfl⟩
      (.single ⟨.tickHandshake (Runtime.sampleCall 40 40) Runtime.sampleAddress
        Runtime.sampleDraws, trivial, rfl⟩))

theorem sampleAnswered_runtime : sampleAnswered.runtime = Runtime.sampleCalled 40 40 := by
  simp only [sampleAnswered, perform, sampleStart, start, Runtime.sampleCalled,
    Runtime.sampleRuntime]

/-- A truthful step is a step. -/
theorem TruthfulStep.step {before after : Inbox crypto noise} (step : TruthfulStep before after) :
    Step before after := by
  obtain ⟨call, _, made⟩ := step
  exact ⟨call, made⟩

/-- A peer that was registered under the master key `40` writes `99` in front of its message,
and has it reported under `99`. -/
theorem message_misattributed :
    ∃ last, Relation.ReflTransGen Step sampleStart last ∧
      ∃ attribution ∈ last.forwarded, attribution.registeredAs ≠ some attribution.reported :=
  ⟨sampleReceived 99,
    (Relation.ReflTransGen.mono (fun _ _ => TruthfulStep.step) _ _ sampleAnswered_run).tail
      ⟨.tickMessage (samplePacket 99) Runtime.sampleAddress sampleEnvironment 0, rfl⟩,
    by decide +kernel⟩

theorem samplePacket_truthful :
    (Runtime.sampleCalled 40 40).PacketIsTruthful (samplePacket 40) sampleEnvironment := by
  rintro session peerPk senderPk inner _ named ⟨_, nonce, _, _, key, _, _, _, _, _, sealing⟩ _
  have entered : (Runtime.sampleCalled 40 40).connToPk.lookup
      (samplePacket 40).payload.connectionId = some (SampleSuite.octets 32 40) := by
    decide +kernel
  have front : ((samplePacket 40).payload.data.drop 64).take 32 =
      (SampleSuite.octets 32 40).toList := by
    decide +kernel
  have plaintext : ((samplePacket 40).payload.data.drop 48).drop 16 = senderPk.toList ++ inner := by
    rw [← Option.some.inj sealing]
    exact List.drop_left' (List.Vector.toList_length _)
  rw [List.drop_drop] at plaintext
  rw [plaintext, List.take_left' (List.Vector.toList_length _)] at front
  rw [Subtype.ext front]
  exact Option.some.inj (entered.symm.trans named)

/-- When the peer writes its own key, its message is reported under it. -/
theorem honest_message_attributed :
    ∃ attribution ∈ (sampleReceived 40).forwarded,
      attribution.registeredAs = some attribution.reported := by
  have run : Relation.ReflTransGen TruthfulStep sampleStart (sampleReceived 40) := by
    refine sampleAnswered_run.tail
      ⟨.tickMessage (samplePacket 40) Runtime.sampleAddress sampleEnvironment 0,
      ?_, rfl⟩
    rw [Runtime.CallIsTruthful, sampleAnswered_runtime]
    exact samplePacket_truthful
  obtain ⟨attribution, member⟩ : ∃ attribution, attribution ∈ (sampleReceived 40).forwarded := by
    refine List.exists_mem_of_ne_nil _ ?_
    decide +kernel
  exact ⟨attribution, member, forwarded_attributed sampleSuite SampleSuite.noise
    SampleSuite.opensOnlySealed Runtime.sampleAddress (SampleSuite.octets 32 50) ∅ run member⟩

end Inbox

end Insub
