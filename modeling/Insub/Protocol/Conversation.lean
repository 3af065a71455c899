/-
This file proves that two sessions which have been introduced to each other understand each other.
Either side sends whenever it likes, and receives what the other sent in the order in which it was
sent. How the two directions are interleaved is left open.

The ratchets of the two sessions are in step at every moment, with the envelopes that the packets
under way hold.
-/

import Mathlib
import Insub.Library.Run
import Insub.Crypto.ChainWindow
import Insub.Crypto.InOrder
import Insub.Protocol.KeyAgreement

namespace Insub

open Rust

variable {crypto : Primitives} {noise : Noise}

/-! ### Packets and the envelopes they hold -/

/-- The packet has the layout of a sent envelope, which seals the bytes behind a master key. -/
structure Packet.Holds (senderPk : Key) (sent : Packet × Bytes) (envelope : Envelope) : Prop where
  tag : sent.1.payload.tag = .message
  data : sent.1.payload.data = envelope.nonce.toList ++ envelope.ratchetKey.toList ++
    toBeBytes 4 envelope.number ++ envelope.ciphertext
  fits : envelope.number < u32Bound
  plaintext : envelope.plaintext = senderPk.toList ++ sent.2

namespace Session

/-- What a session sends is an envelope of its ratchet. -/
theorem holds_of_send {session next : Session crypto noise} {senderPk : Key}
    {ratchet : DoubleRatchet} {bytes : Bytes} {nonce : Nonce} {packetId : U128} {packet : Packet}
    (speaks : session.ourMasterPubkey = some senderPk) (held : session.ratchet = some ratchet)
    {seed : Key} (sends : SendsOn crypto ratchet seed)
    (run : session.send bytes nonce packetId = (.ok packet, next)) :
    ∃ (envelope : Envelope) (after : DoubleRatchet),
      ratchet.encrypt crypto envelope.plaintext nonce = (.ok (envelope.number, envelope.ciphertext,
        envelope.nonce, envelope.ratchetKey), after) ∧
      next = { session with ratchet := some after } ∧
        Packet.Holds senderPk (packet, bytes) envelope := by
  obtain ⟨speaker, found, run⟩ := Outcome.orReturn_eq_ok_iff.mp run
  obtain rfl : speaker = senderPk :=
    Option.some.inj ((okOr_eq_ok_iff.mp found).symm.trans speaks)
  obtain ⟨current, found, run⟩ := Outcome.orReturn_eq_ok_iff.mp run
  obtain rfl : current = ratchet := Option.some.inj ((okOr_eq_ok_iff.mp found).symm.trans held)
  rcases sealing : current.encrypt crypto (speaker.toList ++ bytes) nonce with ⟨outcome, after⟩
  rw [sealing] at run
  obtain ⟨⟨number, ciphertext, drawn, ratchetKey⟩, rfl, rest⟩ := Outcome.orReturn_eq_ok_iff.mp run
  obtain ⟨connId, _, rest⟩ := Outcome.orReturn_eq_ok_iff.mp rest
  cases rest
  let envelope : Envelope := ⟨speaker.toList ++ bytes, number, ciphertext, drawn, ratchetKey⟩
  have sealed : current.encrypt crypto envelope.plaintext nonce = (.ok (envelope.number,
      envelope.ciphertext, envelope.nonce, envelope.ratchetKey), after) := sealing
  obtain ⟨_, _, _, _, counted, fits, _⟩ := DoubleRatchet.encrypt_ok sealed sends
  exact ⟨envelope, after, sealed, rfl, rfl, rfl, counted ▸ fits, rfl⟩

/-- An established session sends, while its chain has a number left and the cipher seals. -/
theorem send_ok {session : Session crypto noise} {senderPk : Key} {ratchet : DoubleRatchet}
    (speaks : session.ourMasterPubkey = some senderPk) (held : session.ratchet = some ratchet)
    (named : session.connectionId.isSome = true)
    (left : ratchet.sendingChain.messageNumber + 1 < u32Bound) {bytes : Bytes} {nonce : Nonce}
    (seals : ∀ key, (crypto.aeadEncrypt key nonce (senderPk.toList ++ bytes)).isSome = true)
    (packetId : U128) :
    ∃ packet next, session.send bytes nonce packetId = (.ok packet, next) := by
  obtain ⟨connId, named⟩ := Option.isSome_iff_exists.mp named
  obtain ⟨ciphertext, sealed⟩ := Option.isSome_iff_exists.mp
    (seals (Chain.outputKey crypto ratchet.sendingChain.key))
  rw [send, speaks, held]
  dsimp only [okOr, Outcome.orReturn]
  rw [DoubleRatchet.encrypt, Chain.advance_eq crypto _ left]
  dsimp only
  rw [Primitives.encrypt, sealed]
  dsimp only
  rw [named]
  exact ⟨_, _, rfl⟩

/-- A session whose ratchet opens the envelope receives the bytes and the master key. -/
theorem receive_holds {session : Session crypto noise} {ratchet after : DoubleRatchet}
    (held : session.ratchet = some ratchet) {senderPk : Key} {packet : Packet} {bytes : Bytes}
    {envelope : Envelope} (holds : Packet.Holds senderPk (packet, bytes) envelope)
    {env : Surroundings}
    (opened : ratchet.decrypt crypto envelope.number envelope.ratchetKey envelope.nonce
      envelope.ciphertext env = (.ok envelope.plaintext, after)) :
    session.receive packet env =
      (.ok (bytes, senderPk), { session with ratchet := some after }) := by
  obtain ⟨tag, data, fits, plaintext⟩ := holds
  have front : (envelope.nonce.toList ++ envelope.ratchetKey.toList).length = 44 := by
    rw [List.length_append, List.Vector.toList_length, List.Vector.toList_length]
  have head : (envelope.nonce.toList ++ envelope.ratchetKey.toList ++
      toBeBytes 4 envelope.number).length = 48 := by
    rw [List.length_append, front, length_toBeBytes]
  have enough : ¬ packet.payload.data.length < 48 := by
    rw [data, List.length_append, head]
    omega
  have nonceAt : slice 0 12 packet.payload.data = .ok envelope.nonce := by
    rw [data, List.append_assoc, List.append_assoc]
    have front : ([] : Bytes).length = 0 := rfl
    exact slice_append front
  have ratchetKeyAt : slice 12 32 packet.payload.data = .ok envelope.ratchetKey := by
    rw [data, List.append_assoc, List.append_assoc]
    exact slice_append (List.Vector.toList_length _)
  obtain ⟨number, numberAt, written⟩ : ∃ number : Octets 4,
      slice 44 4 packet.payload.data = .ok number ∧
        number.toList = toBeBytes 4 envelope.number := by
    rw [data, List.append_assoc]
    exact slice_of_append front (length_toBeBytes 4 _)
  have read : fromBeBytes number.toList = envelope.number := by
    rw [written, fromBeBytes_toBeBytes]
    exact Nat.mod_eq_of_lt fits
  have rest : packet.payload.data.drop 48 = envelope.ciphertext := by
    rw [data, List.drop_left' head]
  have speaker : slice 0 32 envelope.plaintext = .ok senderPk := by
    rw [plaintext]
    have front : ([] : Bytes).length = 0 := rfl
    exact slice_append front
  have spoken : envelope.plaintext.drop 32 = bytes := by
    rw [plaintext, List.drop_left' (List.Vector.toList_length _)]
  have long : ¬ envelope.plaintext.length < 32 := by
    rw [plaintext, List.length_append, List.Vector.toList_length]
    omega
  rw [receive, if_neg (not_not.mpr tag), if_neg enough, nonceAt, Outcome.ok_orReturn, ratchetKeyAt,
    Outcome.ok_orReturn, numberAt, Outcome.ok_orReturn, held]
  dsimp only [okOr]
  rw [Outcome.ok_orReturn, read, rest, opened]
  dsimp only [Outcome.mapErr]
  rw [Outcome.ok_orReturn, if_neg long, speaker, Outcome.ok_orReturn, spoken]

end Session

/-! ### Two sessions and the packets between them -/

/-- The sessions of both sides, and what each sent and the other has not received yet, in sending
order, with the bytes it was given. -/
structure Conversation (crypto : Primitives) (noise : Noise) where
  session : Party → Session crypto noise
  underway : Party → List (Packet × Bytes)

namespace Conversation

def start (initiator responder : Session crypto noise) : Conversation crypto noise where
  session
    | .initiator => initiator
    | .responder => responder
  underway _ := []

def sent (conversation : Conversation crypto noise) (sender : Party) (next : Session crypto noise)
    (packet : Packet) (bytes : Bytes) : Conversation crypto noise where
  session := Function.update conversation.session sender next
  underway := Function.update conversation.underway sender
    (conversation.underway sender ++ [(packet, bytes)])

def received (conversation : Conversation crypto noise) (receiver : Party)
    (next : Session crypto noise) (rest : List (Packet × Bytes)) : Conversation crypto noise where
  session := Function.update conversation.session receiver next
  underway := Function.update conversation.underway receiver.other rest

/-- A ratchet secret drawn now is not the one the session has. -/
def Draws (session : Session crypto noise) (env : Surroundings) : Prop :=
  ∀ ratchet, session.ratchet = some ratchet →
    crypto.publicKey env.freshSecret ≠ crypto.publicKey ratchet.ourDhPriv

/-- A side sends some bytes, or receives the first packet that is under way to it. -/
inductive Step : Conversation crypto noise → Conversation crypto noise → Prop
  | send {conversation : Conversation crypto noise} (sender : Party) (bytes : Bytes) (nonce : Nonce)
      (packetId : U128) {packet : Packet} {next : Session crypto noise}
      (run : (conversation.session sender).send bytes nonce packetId = (.ok packet, next)) :
      Step conversation (conversation.sent sender next packet bytes)
  | receive {conversation : Conversation crypto noise} (receiver : Party) (env : Surroundings)
      {packet : Packet} {bytes : Bytes} {rest : List (Packet × Bytes)}
      (first : conversation.underway receiver.other = (packet, bytes) :: rest)
      (draws : Draws (conversation.session receiver) env) :
      Step conversation (conversation.received receiver
        ((conversation.session receiver).receive packet env).2 rest)

/-- What a side does: it sends some bytes, or receives the first packet that is under way to it. -/
inductive Move
  | send (sender : Party) (bytes : Bytes) (nonce : Nonce) (packetId : U128)
  | receive (receiver : Party) (env : Surroundings)

def perform (conversation : Conversation crypto noise) :
    Move → Option (Conversation crypto noise)
  | .send sender bytes nonce packetId =>
    match (conversation.session sender).send bytes nonce packetId with
    | (.ok packet, next) => some (conversation.sent sender next packet bytes)
    | (.error _, _) => none
  | .receive receiver env =>
    match conversation.underway receiver.other with
    | [] => none
    | (packet, _) :: rest =>
      if ((conversation.session receiver).ratchet.all fun ratchet =>
          crypto.publicKey env.freshSecret ≠ crypto.publicKey ratchet.ourDhPriv) = true then
        some (conversation.received receiver
          ((conversation.session receiver).receive packet env).2 rest)
      else none

theorem step_of_perform {before after : Conversation crypto noise} {move : Move}
    (performed : before.perform move = some after) : Step before after := by
  cases move with
  | send sender bytes nonce packetId =>
    rcases run : (before.session sender).send bytes nonce packetId with ⟨fault | packet, next⟩
    all_goals
      rw [perform, run] at performed
      cases performed
    exact .send sender bytes nonce packetId run
  | receive receiver env =>
    rcases first : before.underway receiver.other with _ | ⟨⟨packet, bytes⟩, rest⟩
    all_goals rw [perform, first] at performed
    · cases performed
    · dsimp only at performed
      split at performed
      · rename_i drawn
        rw [← Option.some.inj performed]
        refine .receive receiver env first fun ratchet held => ?_
        rwa [held, Option.all_some, decide_eq_true_iff] at drawn
      · cases performed

/-! ### Being in step -/

/-- The session speaks for the user with the master key, by the ratchet, on its connection. -/
structure SpeaksBy (session : Session crypto noise) (masterPk : Key) (ratchet : DoubleRatchet) :
    Prop where
  speaks : session.ourMasterPubkey = some masterPk
  held : session.ratchet = some ratchet
  named : session.connectionId.isSome = true

/-- The sessions hold ratchets that are in step with the envelopes that are under way. -/
structure InStepWith (conversation : Conversation crypto noise) (masterPk : Party → Key)
    (ratchet : Party → DoubleRatchet) (envelopes : Party → List Envelope) (leader : Party)
    (leaderSeed followerSeed : Key) : Prop where
  speaks : ∀ party, SpeaksBy (conversation.session party) (masterPk party) (ratchet party)
  holds : ∀ party, List.Forall₂ (Packet.Holds (masterPk party)) (conversation.underway party)
    (envelopes party)
  inStep : InStep crypto (ratchet leader) (ratchet leader.other) (envelopes leader)
    (envelopes leader.other) leaderSeed followerSeed

/-- The two sides understand each other, whichever of them leads. -/
def Understood (masterPk : Party → Key) (conversation : Conversation crypto noise) : Prop :=
  ∃ ratchet envelopes leader leaderSeed followerSeed,
    conversation.InStepWith masterPk ratchet envelopes leader leaderSeed followerSeed

/-- A relation that holds of each side holds after one side has moved on. -/
theorem forall_update {First Second : Type} (related : Party → First → Second → Prop)
    {firsts : Party → First} {seconds : Party → Second}
    (before : ∀ party, related party (firsts party) (seconds party)) {mover : Party}
    {first : First} {second : Second} (moved : related mover first second) (party : Party) :
    related party (Function.update firsts mover first party)
      (Function.update seconds mover second party) := by
  by_cases same : party = mover
  · subst same
    rw [Function.update_self, Function.update_self]
    exact moved
  · rw [Function.update_of_ne same, Function.update_of_ne same]
    exact before party

section Steps

variable {conversation : Conversation crypto noise} {masterPk : Party → Key}
  {ratchet : Party → DoubleRatchet} {envelopes : Party → List Envelope} {leader : Party}
  {leaderSeed followerSeed : Key}

/-- Each side sends on a chain that the other knows. -/
theorem InStepWith.sendsOn (within :
      conversation.InStepWith masterPk ratchet envelopes leader leaderSeed followerSeed)
    (party : Party) : ∃ seed, SendsOn crypto (ratchet party) seed := by
  rcases party.eq_or_eq_other leader with rfl | rfl
  · exact ⟨leaderSeed, within.inStep.leaderSends⟩
  · exact ⟨followerSeed, within.inStep.followerSends⟩

theorem InStepWith.send (within :
      conversation.InStepWith masterPk ratchet envelopes leader leaderSeed followerSeed)
    {sender : Party} {bytes : Bytes} {nonce : Nonce} {packetId : U128} {packet : Packet}
    {next : Session crypto noise}
    (run : (conversation.session sender).send bytes nonce packetId = (.ok packet, next)) :
    Understood masterPk (conversation.sent sender next packet bytes) := by
  obtain ⟨seed, sends⟩ := within.sendsOn sender
  obtain ⟨speaks, held, named⟩ := within.speaks sender
  obtain ⟨envelope, after, sealed, rfl, holds⟩ := Session.holds_of_send speaks held sends run
  refine ⟨Function.update ratchet sender after,
    Function.update envelopes sender (envelopes sender ++ [envelope]), leader, leaderSeed,
      followerSeed, ?_, ?_, ?_⟩
  · exact forall_update (fun party session => SpeaksBy session (masterPk party)) within.speaks
      ⟨speaks, rfl, named⟩
  · exact forall_update (fun party => List.Forall₂ (Packet.Holds (masterPk party))) within.holds
      (List.rel_append (within.holds sender) (.cons holds .nil))
  · rcases sender.eq_or_eq_other leader with rfl | rfl
    · rw [Function.update_self, Function.update_self, Function.update_of_ne sender.other_ne,
        Function.update_of_ne sender.other_ne]
      exact within.inStep.leader_sends sealed
    · rw [Function.update_self, Function.update_self, Function.update_of_ne leader.other_ne.symm,
        Function.update_of_ne leader.other_ne.symm]
      exact within.inStep.follower_sends sealed

/-- The ratchet of a side opens the first envelope that is under way to it, and stays in step. -/
theorem InStepWith.opens (commutes : crypto.DiffieHellmanCommutes) (opens : crypto.OpensSealed)
    (within : conversation.InStepWith masterPk ratchet envelopes leader leaderSeed followerSeed)
    (receiver : Party) {envelope : Envelope} {others : List Envelope}
    (first : envelopes receiver.other = envelope :: others) {env : Surroundings}
    (draws : Draws (conversation.session receiver) env) :
    ∃ after, (ratchet receiver).decrypt crypto envelope.number envelope.ratchetKey envelope.nonce
        envelope.ciphertext env = (.ok envelope.plaintext, after) ∧
      ∃ leader leaderSeed followerSeed,
        InStep crypto (Function.update ratchet receiver after leader)
          (Function.update ratchet receiver after leader.other)
          (Function.update envelopes receiver.other others leader)
          (Function.update envelopes receiver.other others leader.other) leaderSeed followerSeed := by
  have inStep := within.inStep
  rcases receiver.eq_or_eq_other leader with rfl | rfl
  · rw [first] at inStep
    obtain ⟨after, opened, next⟩ := inStep.leader_receives opens env
    refine ⟨after, opened, receiver, leaderSeed, followerSeed, ?_⟩
    rw [Function.update_self, Function.update_self, Function.update_of_ne receiver.other_ne,
      Function.update_of_ne receiver.other_ne.symm]
    exact next
  · have fresh := draws (ratchet leader.other) (within.speaks leader.other).held
    rw [Party.other_other] at first ⊢
    rw [first] at inStep
    obtain ⟨after, opened, next | ⟨seed, next⟩⟩ := inStep.follower_receives commutes opens env fresh
    · refine ⟨after, opened, leader, leaderSeed, followerSeed, ?_⟩
      rw [Function.update_self, Function.update_self, Function.update_of_ne leader.other_ne,
        Function.update_of_ne leader.other_ne.symm]
      exact next
    · refine ⟨after, opened, leader.other, seed, leaderSeed, ?_⟩
      rw [Party.other_other, Function.update_self, Function.update_self,
        Function.update_of_ne leader.other_ne, Function.update_of_ne leader.other_ne.symm]
      exact next

theorem InStepWith.receive (commutes : crypto.DiffieHellmanCommutes) (opens : crypto.OpensSealed)
    (within : conversation.InStepWith masterPk ratchet envelopes leader leaderSeed followerSeed)
    {receiver : Party} {packet : Packet} {bytes : Bytes} {rest : List (Packet × Bytes)}
    (first : conversation.underway receiver.other = (packet, bytes) :: rest) {env : Surroundings}
    (draws : Draws (conversation.session receiver) env) :
    ∃ next, (conversation.session receiver).receive packet env =
        (.ok (bytes, masterPk receiver.other), next) ∧
      Understood masterPk (conversation.received receiver next rest) := by
  have holds := within.holds receiver.other
  rw [first] at holds
  obtain ⟨envelope, others, here, later, firstEnvelope⟩ := List.forall₂_cons_left_iff.mp holds
  obtain ⟨after, opened, next⟩ := within.opens commutes opens receiver firstEnvelope draws
  obtain ⟨leader, leaderSeed, followerSeed, inStep⟩ := next
  obtain ⟨speaks, held, named⟩ := within.speaks receiver
  refine ⟨_, Session.receive_holds held here opened, _, _, leader, leaderSeed, followerSeed,
    ?_, ?_, inStep⟩
  · exact forall_update (fun party session => SpeaksBy session (masterPk party)) within.speaks
      ⟨speaks, rfl, named⟩
  · exact forall_update (fun party => List.Forall₂ (Packet.Holds (masterPk party))) within.holds
      later

end Steps

/-- A step leaves the two sides understanding each other. -/
theorem Step.keepsUnderstanding (commutes : crypto.DiffieHellmanCommutes) (opens : crypto.OpensSealed)
    {masterPk : Party → Key} {before after : Conversation crypto noise}
    (understood : Understood masterPk before) (step : Step before after) :
    Understood masterPk after := by
  obtain ⟨ratchet, envelopes, leader, leaderSeed, followerSeed, within⟩ := understood
  cases step with
  | send sender bytes nonce packetId run => exact within.send run
  | receive receiver env first draws =>
    obtain ⟨next, run, understood⟩ := within.receive commutes opens first draws
    rw [run]
    exact understood

/-- Two sessions that have been introduced to each other understand each other. -/
theorem understood_start (commutes : crypto.DiffieHellmanCommutes)
    {initiator responder : Session crypto noise}
    {initiatorCert responderCert : DeviceCertificate crypto} {initiatorPk : Key}
    {addr : SocketAddr}
    (introduced : Introduced initiator responder initiatorCert responderCert initiatorPk addr)
    {masterPk : Party → Key}
    (initiatorSpeaks : initiator.ourMasterPubkey = some (masterPk .initiator))
    (responderSpeaks : responder.ourMasterPubkey = some (masterPk .responder)) :
    Understood masterPk (start initiator responder) := by
  obtain ⟨_, _, _, freshSecret, _, _, initiatorRatchet, responderRatchet, builtInitiator,
    builtResponder, fresh, initiatorHolds, responderHolds⟩ := introduced.ratchets
  obtain ⟨leaderSeed, followerSeed, inStep⟩ :=
    inStep_new commutes builtInitiator builtResponder fresh
  let ratchet : Party → DoubleRatchet
    | .initiator => initiatorRatchet.initiatorPreRatchet crypto freshSecret
    | .responder => responderRatchet
  refine ⟨ratchet, fun _ => [], .initiator, leaderSeed, followerSeed, ?_, fun _ => .nil, inStep⟩
  obtain ⟨connId, initiatorNamed, responderNamed⟩ := introduced.connectionId
  rintro (_ | _)
  · exact ⟨initiatorSpeaks, initiatorHolds, Option.isSome_iff_exists.mpr ⟨connId, initiatorNamed⟩⟩
  · exact ⟨responderSpeaks, responderHolds, Option.isSome_iff_exists.mpr ⟨connId, responderNamed⟩⟩

end Conversation

/-! ### From the handshake on -/

/-- The master keys of both sides. -/
def Meeting.masterPk (meeting : Meeting crypto) : Party → Key
  | .initiator => meeting.initiatorPk
  | .responder => meeting.user.publicKey.bytes

/-- Two devices that meet are introduced to each other, and understand each other from then on:
either side sends as long as its sending chain lasts, and what it sends is received. -/
theorem Meeting.understood (commutes : crypto.DiffieHellmanCommutes) (opens : crypto.OpensSealed)
    (delivers : noise.DeliversUnaltered crypto) (meeting : Meeting crypto)
    {calling answering completing : HandshakeDraws}
    (fresh : crypto.publicKey completing.preRatchetSecret ≠ crypto.publicKey calling.ratchetSecret) :
    ∃ initiator responder : Session crypto noise,
      meeting.Handshakes calling answering completing initiator responder ∧
      Introduced initiator responder meeting.initiatorCert meeting.responderCert
        meeting.initiatorPk meeting.addr ∧
      ∀ conversation, Relation.ReflTransGen Conversation.Step
          (Conversation.start initiator responder) conversation →
        (∀ sender bytes nonce packetId,
          (∀ ratchet, (conversation.session sender).ratchet = some ratchet →
            ratchet.sendingChain.messageNumber + 1 < u32Bound) →
          (∀ key, (crypto.aeadEncrypt key nonce
            ((meeting.masterPk sender).toList ++ bytes)).isSome = true) →
          ∃ packet next, (conversation.session sender).send bytes nonce packetId =
            (.ok packet, next)) ∧
        ∀ receiver packet bytes rest env,
          conversation.underway receiver.other = (packet, bytes) :: rest →
          Conversation.Draws (conversation.session receiver) env →
          ((conversation.session receiver).receive packet env).1 =
            .ok (bytes, meeting.masterPk receiver.other) := by
  obtain ⟨initiator, responder, handshakes, introduced, initiatorSpeaks, responderSpeaks⟩ :=
    meeting.handshakes commutes delivers calling answering completing fresh
  refine ⟨initiator, responder, handshakes, introduced, fun conversation run => ?_⟩
  have start : Conversation.Understood meeting.masterPk
      (Conversation.start initiator responder) :=
    Conversation.understood_start commutes introduced initiatorSpeaks responderSpeaks
  obtain ⟨ratchet, envelopes, leader, leaderSeed, followerSeed, within⟩ :=
    Run.preserves (fun _ _ understood step => step.keepsUnderstanding commutes opens understood)
      start run
  constructor
  · intro sender bytes nonce packetId left seals
    obtain ⟨speaks, held, named⟩ := within.speaks sender
    exact Session.send_ok speaks held named (left _ held) seals packetId
  · intro receiver packet bytes rest env first draws
    obtain ⟨next, received, _⟩ := within.receive commutes opens first draws
    rw [received]

/-- Device `6` of one user is about to call device `50` of the user with master key `42`. -/
def sampleMeeting : Meeting sampleSuite :=
  let certificate (device : Key) : DeviceCertificate sampleSuite :=
    { deviceEd25519Pubkey := SampleSuite.verifyingKey device
      deviceX25519Pubkey := sampleSuite.publicKey device
      masterSignature := SampleSuite.sign (SampleSuite.octets 32 42)
        (device.toList ++ (sampleSuite.publicKey device).toList) }
  { initiatorPriv := SampleSuite.octets 32 6
    responderPriv := SampleSuite.octets 32 50
    initiatorCert := certificate (SampleSuite.octets 32 6)
    responderCert := certificate (SampleSuite.octets 32 50)
    initiatorPk := SampleSuite.octets 32 41
    user := ⟨SampleSuite.verifyingKey (SampleSuite.octets 32 42)⟩
    addr := .v6 (Octets.zero 16) 9000 0 0
    initiatorStatic := rfl
    responderStatic := rfl
    genuine := by decide +kernel
    plain := rfl }

def sampleDraws (ratchetSecret preRatchetSecret : Nat) : HandshakeDraws where
  ratchetSecret := SampleSuite.octets 32 ratchetSecret
  ephemeral := SampleSuite.octets 32 10
  preRatchetSecret := SampleSuite.octets 32 preRatchetSecret
  now := 0

/-- What a handshake leaves, computed. -/
def Meeting.perform (meeting : Meeting crypto) (noise : Noise)
    (calling answering completing : HandshakeDraws) :
    Option (Session crypto noise × Session crypto noise) := do
  let calls ← (Session.newInitiator meeting.initiatorPriv meeting.responderCert.deviceX25519Pubkey
    meeting.initiatorCert meeting.initiatorPk meeting.user).toOption
  let answers ← (Session.newResponder meeting.responderPriv meeting.responderCert
    meeting.user.publicKey.bytes).toOption
  let (called, calls) := calls.initiateHandshake meeting.addr calling
  let message ← called.toOption
  let (accepted, answers) := answers.acceptHandshake message
  accepted.toOption
  let (replied, answers) := answers.replyHandshake answering
  let response ← replied.toOption
  let (completed, calls) := calls.completeHandshake response completing
  completed.toOption
  pure (calls, answers)

theorem Meeting.Handshakes.perform_eq {meeting : Meeting crypto}
    {calling answering completing : HandshakeDraws} {initiator responder : Session crypto noise}
    (handshakes : meeting.Handshakes calling answering completing initiator responder) :
    meeting.perform noise calling answering completing = some (initiator, responder) := by
  obtain ⟨calls, called, answers, accepted, message, response, builtInitiator, builtResponder,
    initiated, accepts, replied, completed⟩ := handshakes.steps
  rw [perform, builtInitiator, builtResponder]
  simp only [Except.toOption, Option.bind_eq_bind, Option.bind_some, initiated, accepts, replied,
    completed, pure]

def sampleReceiving : Surroundings where
  freshSecret := SampleSuite.octets 32 31
  insertedAt := 0
  order := default
  usedAt := 0

/-- The initiator says two things and the responder one, before either hears the other; then the
responder hears the first of the two and says more, and the initiator hears what was said first. -/
def sampleMoves : List Conversation.Move :=
  [.send .initiator (ascii "hello") (SampleSuite.octets 12 1) 21,
    .send .responder (ascii "hi") (SampleSuite.octets 12 2) 22,
    .send .initiator (ascii "are you there") (SampleSuite.octets 12 3) 23,
    .receive .responder sampleReceiving,
    .send .responder (ascii "yes") (SampleSuite.octets 12 4) 24,
    .receive .initiator { sampleReceiving with freshSecret := SampleSuite.octets 32 32 }]

/-- One packet is under way each way, and each side can turn its ratchet and send. -/
def isTalking (conversation : Conversation sampleSuite SampleSuite.noise) : Bool :=
  (conversation.underway .initiator).map Prod.snd = [ascii "are you there"] &&
  (conversation.underway .responder).map Prod.snd = [ascii "yes"] &&
  [Party.initiator, .responder].all fun party =>
    (conversation.session party).ratchet.all fun ratchet =>
      sampleSuite.publicKey (SampleSuite.octets 32 33) ≠ sampleSuite.publicKey ratchet.ourDhPriv &&
        ratchet.sendingChain.messageNumber + 1 < u32Bound

/-- After these moves either side has something to hear, and more to say. -/
theorem sample_understood :
    ∃ (initiator responder : Session sampleSuite SampleSuite.noise)
      (conversation : Conversation sampleSuite SampleSuite.noise) (question answer : Packet),
      sampleMeeting.Handshakes (sampleDraws 1 2) (sampleDraws 3 4) (sampleDraws 5 6) initiator
        responder ∧
      Introduced initiator responder sampleMeeting.initiatorCert sampleMeeting.responderCert
        (SampleSuite.octets 32 41) (.v6 (Octets.zero 16) 9000 0 0) ∧
      Relation.ReflTransGen Conversation.Step (Conversation.start initiator responder)
        conversation ∧
      (∀ party, ∃ packet next, (conversation.session party).send (ascii "bye")
        (SampleSuite.octets 12 5) 25 = (.ok packet, next)) ∧
      conversation.underway .initiator = [(question, ascii "are you there")] ∧
      conversation.underway .responder = [(answer, ascii "yes")] ∧
      ((conversation.session .responder).receive question
        { sampleReceiving with freshSecret := SampleSuite.octets 32 33 }).1 =
          .ok (ascii "are you there", SampleSuite.octets 32 41) ∧
      ((conversation.session .initiator).receive answer
        { sampleReceiving with freshSecret := SampleSuite.octets 32 33 }).1 =
          .ok (ascii "yes", SampleSuite.octets 32 42) := by
  obtain ⟨initiator, responder, handshakes, introduced, understand⟩ :=
    sampleMeeting.understood SampleSuite.diffieHellmanCommutes SampleSuite.opensSealed
      SampleSuite.noise_deliversUnaltered
      (show sampleSuite.publicKey (sampleDraws 5 6).preRatchetSecret ≠
        sampleSuite.publicKey (sampleDraws 1 2).ratchetSecret by decide +kernel)
  have talks : ((sampleMeeting.perform SampleSuite.noise (sampleDraws 1 2) (sampleDraws 3 4)
      (sampleDraws 5 6)).bind fun (initiator, responder) => sampleMoves.foldlM Conversation.perform
        (Conversation.start initiator responder)).any isTalking = true := by
    decide +kernel
  rw [handshakes.perform_eq, Option.bind_some] at talks
  obtain ⟨conversation, talked, checked⟩ := (Option.any_eq_true _ _).mp talks
  rw [isTalking, Bool.and_eq_true_iff, Bool.and_eq_true_iff, decide_eq_true_iff,
    decide_eq_true_iff] at checked
  obtain ⟨⟨asked, answered⟩, ready⟩ := checked
  have run := Run.of_foldlM (fun _ _ _ _ => Conversation.step_of_perform) talked
  have able (party : Party) (ratchet : DoubleRatchet)
      (held : (conversation.session party).ratchet = some ratchet) :
      sampleSuite.publicKey (SampleSuite.octets 32 33) ≠
          sampleSuite.publicKey ratchet.ourDhPriv ∧
        ratchet.sendingChain.messageNumber + 1 < u32Bound := by
    have both := List.all_eq_true.mp ready party party.mem_both
    rwa [held, Option.all_some, Bool.and_eq_true_iff, decide_eq_true_iff,
      decide_eq_true_iff] at both
  obtain ⟨⟨question, _⟩, asks, rfl⟩ := List.map_eq_singleton_iff.mp asked
  obtain ⟨⟨answer, _⟩, answers, rfl⟩ := List.map_eq_singleton_iff.mp answered
  obtain ⟨sends, hears⟩ := understand conversation run
  refine ⟨initiator, responder, conversation, question, answer, handshakes, introduced, run,
    fun party => sends party _ _ _ (fun ratchet held => (able party ratchet held).2)
      fun _ => rfl, asks, answers, ?_, ?_⟩
  · exact hears .responder _ _ _ _ asks fun ratchet held => (able .responder ratchet held).1
  · exact hears .initiator _ _ _ _ answers fun ratchet held => (able .initiator ratchet held).1

end Insub
