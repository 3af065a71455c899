/-
This file settles which packets end a runtime. A panic ends the thread that ticks, and poisons the
lock that it holds, so that nothing of the client works any more. A handshake packet never does it:
a call that was made has the secret that its answer needs, and everything else is checked. A message
does it when it names the ratchet key last seen and that chain has no number left, or when it brings
a body that opens and is too short for a message. An operation for the hash table does it when the
length of a value to store is missing.
-/

import Mathlib
import Insub.Crypto.Exhaustion
import Insub.Protocol.Introduction
import Insub.Runtime.Decoding
import Insub.Runtime.Frames
import Insub.Runtime.Node

namespace Insub

open Rust

variable {crypto : Primitives} {noise : Noise}

/-! ### Sessions -/

namespace DoubleRatchet

/-- The receiving chain of the ratchet key last seen has used up its numbers. -/
def Spent (ratchet : DoubleRatchet) : Prop :=
  ∃ chain used, ratchet.receivingChains.lookup ratchet.theirDhPub = some (chain, used) ∧
    u32Bound ≤ chain.messageNumber + 1

theorem panics_decrypt_iff (crypto : Primitives) {ratchet : DoubleRatchet} (messageNumber : Nat)
    (theirDhPub : Key) (nonce : Nonce) (ciphertext : Bytes) (env : Surroundings) :
    (ratchet.decrypt crypto messageNumber theirDhPub nonce ciphertext env).1.Panics ↔
      ratchet.theirDhPub = theirDhPub ∧ ratchet.Spent := by
  constructor
  · intro panicked
    by_contra room
    by_cases turns : ratchet.theirDhPub ≠ theirDhPub
    · rw [decrypt_turn crypto ratchet _ _ _ _ _ turns] at panicked
      -- the chain of a ratchet key that is seen for the first time starts at zero
      refine not_panics_openWith crypto _ _ theirDhPub _ _ _ (fun chain used held => ?_) panicked
      rw [dhRatchetStep, lookup_insertReceivingChain_self] at held
      obtain ⟨rfl, _⟩ := Prod.mk.inj (Option.some.inj held)
      exact Nat.one_lt_two_pow (by decide)
    · have same := not_not.mp turns
      refine not_panics_decrypt_of_current crypto (fun chain used held => ?_) _ _ _ _ _ panicked
      by_contra overflow
      exact room ⟨same, chain, used, held, not_lt.mp overflow⟩
  · rintro ⟨rfl, chain, used, held, overflow⟩
    exact panics_decrypt held overflow _ _ _ _

theorem not_panics_new (sharedSecret ourDhPriv theirDhPub : Key) (now : Nat) :
    ¬ (new crypto sharedSecret ourDhPriv theirDhPub now).Panics := by
  rw [new, Primitives.deriveKey_eq]
  exact Outcome.not_panics_ok _

end DoubleRatchet

theorem not_panics_ofNoise {Value : Type} (result : Except String Value) :
    ¬ (ofNoise result).Panics := by
  cases result with
  | ok value => exact Outcome.not_panics_ok value
  | error reason => exact Outcome.not_panics_error reason

theorem not_panics_concludeHandshake (handshake : noise.State) (peerPayload : Bytes) :
    ¬ (concludeHandshake handshake peerPayload).Panics := by
  refine Outcome.not_panics_bind ?_ fun transport _ => ?_
  · rw [Outcome.panics_inContext_iff]
    exact not_panics_ofNoise _
  · exact Outcome.not_panics_bind (not_panics_okOr _ _) fun _ _ => Outcome.not_panics_ok _

theorem Initiator.not_panics_finish (initiator : Initiator noise) (response : Bytes) :
    ¬ (initiator.finish response).Panics := by
  rw [finish]
  cases initiator.handshake with
  | none => exact Outcome.not_panics_error _
  | some handshake =>
    refine Outcome.not_panics_bind ?_ fun _ _ => not_panics_concludeHandshake _ _
    rw [Outcome.panics_inContext_iff]
    exact not_panics_ofNoise _

theorem Responder.not_panics_accept (responder : Responder noise) (incomingMessage : Bytes) :
    ¬ (responder.accept incomingMessage).1.Panics := by
  rw [accept]
  cases responder.handshake with
  | none => exact Outcome.not_panics_error _
  | some handshake =>
    dsimp only
    rw [Outcome.panics_inContext_iff]
    exact not_panics_ofNoise _

theorem Responder.not_panics_reply (responder : Responder noise) (payload : Bytes)
    (ephemeral : Key) : ¬ (responder.reply payload ephemeral).Panics := by
  rw [reply]
  cases responder.handshake with
  | none => exact Outcome.not_panics_error _
  | some handshake =>
    refine Outcome.not_panics_bind ?_ fun _ _ => ?_
    · rw [Outcome.panics_inContext_iff]
      exact not_panics_ofNoise _
    · exact Outcome.not_panics_bind (not_panics_concludeHandshake _ _) fun _ _ =>
        Outcome.not_panics_ok _

namespace Session

/-- The packet names the ratchet key last seen, and the numbers of its chain are used up. -/
def Overruns (session : Session crypto noise) (packet : Packet) : Prop :=
  packet.payload.tag = .message ∧ 48 ≤ packet.payload.data.length ∧
    ∃ ratchet, session.ratchet = some ratchet ∧ ratchet.Spent ∧
      slice 12 32 packet.payload.data = .ok ratchet.theirDhPub

theorem panics_receive_iff {session : Session crypto noise} {packet : Packet} (env : Surroundings) :
    (session.receive packet env).1.Panics ↔ session.Overruns packet := by
  rw [receive]
  constructor
  · intro panicked
    by_contra calm
    split at panicked
    · exact Outcome.not_panics_error _ panicked
    rename_i tagged
    split at panicked
    · exact Outcome.not_panics_error _ panicked
    revert panicked
    refine Outcome.not_panics_orReturn (by rw [slice_panics_iff]; omega) fun nonce _ => ?_
    refine Outcome.not_panics_orReturn (by rw [slice_panics_iff]; omega) fun theirDhPub keyAt => ?_
    refine Outcome.not_panics_orReturn (by rw [slice_panics_iff]; omega) fun number _ => ?_
    refine Outcome.not_panics_orReturn (not_panics_okOr _ _) fun ratchet established => ?_
    refine Outcome.not_panics_orReturn ?_ fun plaintext _ => ?_
    · rw [Outcome.panics_mapErr_iff]
      refine (DoubleRatchet.panics_decrypt_iff crypto _ _ _ _ _).not.mpr ?_
      rintro ⟨rfl, spent⟩
      exact calm ⟨not_not.mp tagged, by omega, ratchet, okOr_eq_ok_iff.mp established, spent, keyAt⟩
    split
    · exact Outcome.not_panics_error _
    refine Outcome.not_panics_orReturn (by rw [slice_panics_iff]; omega) fun senderPk _ => ?_
    exact Outcome.not_panics_ok _
  · rintro ⟨tagged, long, ratchet, established, spent, keyAt⟩
    obtain ⟨nonce, nonceAt, -⟩ : ∃ octets : Octets 12,
      slice 0 12 packet.payload.data = .ok octets ∧ _ := slice_ok (by omega)
    obtain ⟨number, numberAt, -⟩ : ∃ octets : Octets 4,
      slice 44 4 packet.payload.data = .ok octets ∧ _ := slice_ok (by omega)
    rw [if_neg (not_not.mpr tagged), if_neg (not_lt.mpr long), nonceAt, Outcome.ok_orReturn, keyAt,
      Outcome.ok_orReturn, numberAt, Outcome.ok_orReturn, established, okOr, Outcome.ok_orReturn]
    refine Outcome.panics_orReturn_iff.mpr (Or.inl ?_)
    rw [Outcome.panics_mapErr_iff]
    exact (DoubleRatchet.panics_decrypt_iff crypto _ _ _ _ _).mpr ⟨rfl, spent⟩

/-- An answer does not end a session that has the secret for it. -/
theorem not_panics_completeHandshake {session : Session crypto noise}
    (secret : session.ourRatchetDhPriv.isSome = true) (response : Bytes) (draws : HandshakeDraws) :
    ¬ (session.completeHandshake response draws).1.Panics := by
  refine Outcome.not_panics_orReturn (not_panics_okOr _ _) fun initiator _ => ?_
  refine Outcome.not_panics_orReturn (initiator.not_panics_finish response) fun result _ => ?_
  split
  · exact Outcome.not_panics_error _
  refine Outcome.not_panics_orReturn (by rw [slice_panics_iff]; omega) fun theirRatchetPub _ => ?_
  refine Outcome.not_panics_orReturn ?_ fun certificate _ => ?_
  · rw [Outcome.panics_inContext_iff]
    exact DeviceCertificate.not_panics_fromSerialized (by rw [List.length_drop]; omega)
  split
  · exact Outcome.not_panics_error _
  split
  · exact Outcome.not_panics_error _
  refine Outcome.not_panics_orReturn ?_ fun ourRatchetDhPriv _ => ?_
  · obtain ⟨priv, held⟩ := Option.isSome_iff_exists.mp secret
    dsimp only
    rw [held]
    exact Outcome.not_panics_ok _
  refine Outcome.not_panics_orReturn (DoubleRatchet.not_panics_new _ _ _ _) fun ratchet _ => ?_
  exact Outcome.not_panics_ok _

/-- It has taken the call out of the session, and gives it back to nobody. -/
theorem isInitiator_completeHandshake (session : Session crypto noise) (response : Bytes)
    (draws : HandshakeDraws) :
    (session.completeHandshake response draws).2.isInitiator = false := by
  let ended (last : Session crypto noise) : Prop := last.isInitiator = false
  rw [completeHandshake]
  cases initiates : session.initiator with
  | none =>
    show session.initiator.isSome = false
    rw [initiates]
    rfl
  | some initiator =>
    rw [okOr, Outcome.ok_orReturn]
    refine Outcome.orReturn_state ended rfl fun result _ => ?_
    split
    · rfl
    refine Outcome.orReturn_state ended rfl fun theirRatchetPub _ => ?_
    refine Outcome.orReturn_state ended rfl fun certificate _ => ?_
    split
    · rfl
    split
    · rfl
    refine Outcome.orReturn_state ended rfl fun ourRatchetDhPriv _ => ?_
    refine Outcome.orReturn_state ended rfl fun ratchet _ => ?_
    rfl

theorem not_panics_readAddress {payload : Bytes} (long : 192 + 7 ≤ payload.length) :
    ¬ (readAddress 192 payload).Panics := by
  refine Outcome.not_panics_bind (by rw [index_panics_iff]; omega) fun addrKind _ => ?_
  split
  · split
    · exact Outcome.not_panics_error _
    refine Outcome.not_panics_bind (by rw [slice_panics_iff]; omega) fun octets _ => ?_
    refine Outcome.not_panics_bind (by rw [slice_panics_iff]; omega) fun port _ => ?_
    exact Outcome.not_panics_ok _
  · split
    · exact Outcome.not_panics_error _
    refine Outcome.not_panics_bind (by rw [slice_panics_iff]; omega) fun octets _ => ?_
    refine Outcome.not_panics_bind (by rw [slice_panics_iff]; omega) fun port _ => ?_
    exact Outcome.not_panics_ok _
  · exact Outcome.not_panics_error _

theorem not_panics_acceptHandshake (session : Session crypto noise) (incoming : Bytes) :
    ¬ (session.acceptHandshake incoming).1.Panics := by
  refine Outcome.not_panics_orReturn (not_panics_okOr _ _) fun responder _ => ?_
  refine Outcome.not_panics_orReturn (responder.not_panics_accept incoming) fun payload _ => ?_
  split
  · exact Outcome.not_panics_error _
  refine Outcome.not_panics_orReturn (by rw [slice_panics_iff]; omega) fun pubkey _ => ?_
  refine Outcome.not_panics_orReturn (by rw [slice_panics_iff]; omega) fun certBytes _ => ?_
  refine Outcome.not_panics_orReturn ?_ fun certificate _ => ?_
  · rw [Outcome.panics_inContext_iff]
    exact DeviceCertificate.not_panics_fromSerialized (List.Vector.toList_length _).ge
  refine Outcome.not_panics_orReturn (by rw [slice_panics_iff]; omega) fun masterPubkey _ => ?_
  refine Outcome.not_panics_orReturn (not_panics_readAddress (by omega)) fun addr _ => ?_
  exact Outcome.not_panics_ok _

/-- A responder that accepts has what its answer needs. -/
theorem acceptHandshake_holds {session accepted : Session crypto noise} {incoming : Bytes}
    (run : session.acceptHandshake incoming = (.ok (), accepted)) :
    accepted.peerDeviceCertificate.isSome = true ∧ accepted.theirRatchetDhPub.isSome = true := by
  obtain ⟨responder, waits, _⟩ := Outcome.orReturn_eq_ok_iff.mp run
  obtain ⟨payload, introduction, _, _, rfl⟩ :=
    (acceptHandshake_eq_ok_iff (okOr_eq_ok_iff.mp waits)).mp run
  exact ⟨rfl, rfl⟩

theorem not_panics_replyHandshake {session : Session crypto noise}
    (certified : session.peerDeviceCertificate.isSome = true)
    (ratcheted : session.theirRatchetDhPub.isSome = true) (draws : HandshakeDraws) :
    ¬ (session.replyHandshake draws).1.Panics := by
  obtain ⟨certificate, holds⟩ := Option.isSome_iff_exists.mp certified
  obtain ⟨theirRatchetDhPub, knows⟩ := Option.isSome_iff_exists.mp ratcheted
  refine Outcome.not_panics_orReturn (not_panics_okOr _ _) fun responder _ => ?_
  refine Outcome.not_panics_orReturn (responder.not_panics_reply _ _) fun result _ => ?_
  refine Outcome.not_panics_orReturn ?_ fun peerCert _ => ?_
  · dsimp only
    rw [holds]
    exact Outcome.not_panics_ok _
  split
  · exact Outcome.not_panics_error _
  refine Outcome.not_panics_orReturn ?_ fun theirs _ => ?_
  · dsimp only
    rw [knows]
    exact Outcome.not_panics_ok _
  refine Outcome.not_panics_orReturn (DoubleRatchet.not_panics_new _ _ _ _) fun ratchet _ => ?_
  exact Outcome.not_panics_ok _

end Session

/-! ### Calls and messages -/

namespace Runtime

/-- Every call that waits for its answer has the secret that the answer needs. -/
def Initiated (runtime : Runtime crypto noise) : Prop :=
  ∀ tag session peerPkOpt, runtime.pendingSessions.lookup tag = some (session, peerPkOpt) →
    session.isInitiator = true → session.ourRatchetDhPriv.isSome = true

variable {runtime : Runtime crypto noise}

theorem Initiated.of_pending (initiated : runtime.Initiated) {after : Runtime crypto noise}
    (same : after.pendingSessions = runtime.pendingSessions) : after.Initiated := by
  rw [Initiated, same]
  exact initiated

theorem Initiated.insert (initiated : runtime.Initiated) {after : Runtime crypto noise}
    {tag : HandshakeTag} {session : Session crypto noise} {peerPkOpt : Option Key}
    (entered : after.pendingSessions = runtime.pendingSessions.insert tag (session, peerPkOpt))
    (secret : session.isInitiator = true → session.ourRatchetDhPriv.isSome = true) :
    after.Initiated := by
  intro other held heldPk found initiates
  rw [entered, HashMap.lookup_insert_eq_some_iff] at found
  obtain ⟨_, same⟩ | ⟨_, found⟩ := found
  · obtain ⟨rfl, rfl⟩ := Prod.mk.inj same
    exact secret initiates
  · exact initiated other held heldPk found initiates

theorem Initiated.completePending (initiated : runtime.Initiated) (packet : Packet)
    (sender : SocketAddr) (draws : RuntimeDraws) :
    (runtime.completePending packet sender draws).2.Initiated := by
  have taken {session last : Session crypto noise} {peerPkOpt : Option Key}
      {outcome : Outcome Unit} (takes : runtime.Takes packet draws session peerPkOpt outcome last) :
      last.isInitiator = true → last.ourRatchetDhPriv.isSome = true := by
    intro initiates
    have ended := session.isInitiator_completeHandshake packet.payload.data draws.handshake
    rw [takes.run, initiates] at ended
    cases ended
  have completes := runtime.completePending_completes packet sender draws
  generalize runtime.completePending packet sender draws = result at completes ⊢
  cases completes with
  | uncalled => exact initiated
  | refused takes => exact initiated.insert rfl (taken takes)
  | broken takes => exact initiated.insert rfl (taken takes)
  | promoted takes => exact initiated.insert (pinPeer_pendingSessions _ _ _) (taken takes)

theorem Initiated.tickHandshake (initiated : runtime.Initiated) (packet : Packet)
    (sender : SocketAddr) (draws : RuntimeDraws) :
    (runtime.tickHandshake packet sender draws).2.Initiated := by
  have kept := initiated.completePending packet sender draws
  rw [Runtime.tickHandshake]
  rcases run : runtime.completePending packet sender draws with ⟨fault | promoted, next⟩
  all_goals rw [run] at kept
  · exact kept
  rcases promoted with _ | ⟨connId, peerPk⟩
  · dsimp only
    split
    · exact kept
    · obtain ⟨_, _, _, _, _, _, frame⟩ := next.respond_frame packet sender draws
      rcases answered : next.respond packet sender draws with ⟨outcome, last⟩
      rw [answered] at frame
      dsimp only at frame
      exact Initiated.of_pending kept (by rw [frame])
  · dsimp only
    cases next.pendingSessions.lookup packet.payload.connectionId with
    | none => exact kept
    | some entry =>
      intro tag session peerPkOpt found
      exact kept tag session peerPkOpt (HashMap.lookup_erase_eq_some_iff.mp found).2

/-- A call of another user is answered or dropped. -/
theorem respond_returns (runtime : Runtime crypto noise) (packet : Packet) (sender : SocketAddr)
    (draws : RuntimeDraws) : (runtime.respond packet sender draws).1.Returns := by
  rw [respond]
  rcases runtime.spawnResponder with fault | fresh
  · exact ⟨_, rfl⟩
  dsimp only
  have accepts := fresh.not_panics_acceptHandshake packet.payload.data
  rcases accepting : fresh.acceptHandshake packet.payload.data with ⟨(message | site) | _, accepted⟩
  · exact ⟨_, rfl⟩
  · rw [accepting] at accepts
    exact absurd (Outcome.panics_panic site) accepts
  obtain ⟨certified, ratcheted⟩ := Session.acceptHandshake_holds accepting
  have replies := Session.not_panics_replyHandshake certified ratcheted draws.handshake
  dsimp only
  rcases replying : accepted.replyHandshake draws.handshake with ⟨(message | site) | reply, replied⟩
  · exact ⟨_, rfl⟩
  · rw [replying] at replies
    exact absurd (Outcome.panics_panic site) replies
  · exact ⟨_, rfl⟩

/-- No handshake packet ends the runtime. -/
theorem Initiated.tickHandshake_returns (initiated : runtime.Initiated) (packet : Packet)
    (sender : SocketAddr) (draws : RuntimeDraws) :
    (runtime.tickHandshake packet sender draws).1.Returns := by
  rw [Runtime.tickHandshake]
  have completes := runtime.completePending_completes packet sender draws
  rcases run : runtime.completePending packet sender draws with ⟨fault | promoted, next⟩
  · rw [run] at completes
    cases completes with
    | broken takes =>
      have total := Session.not_panics_completeHandshake
        (initiated _ _ _ takes.found takes.initiates) packet.payload.data draws.handshake
      rw [takes.run] at total
      exact absurd (Outcome.panics_panic _) total
  rcases promoted with _ | ⟨connId, peerPk⟩
  · dsimp only
    split
    · exact ⟨_, rfl⟩
    · exact Outcome.returns_map_iff.mpr (next.respond_returns packet sender draws)
  · dsimp only
    cases next.pendingSessions.lookup packet.payload.connectionId with
    | none => exact ⟨_, rfl⟩
    | some entry => exact ⟨_, rfl⟩

/-- The packet brings a body that is not remembered and opens, but is too short for a message. -/
def BringsStub (runtime : Runtime crypto noise) (packet : Packet) (env : Surroundings) : Prop :=
  ∃ inner senderPk key plaintext, runtime.opens packet env = some (inner, senderPk) ∧
    slice 0 32 inner = .ok key ∧
      crypto.sha256 (senderPk.toList ++ key.toList) ∉ runtime.receivedKeys ∧
        bodyPlaintext crypto inner = some plaintext ∧ plaintext.length < 40

/-- The packet ends the runtime: it overruns the session of its connection, or brings a stub. -/
def Fatal (runtime : Runtime crypto noise) (packet : Packet) (env : Surroundings) : Prop :=
  (∃ session, runtime.sessions.lookup packet.payload.connectionId = some session ∧
    session.Overruns packet) ∨ runtime.BringsStub packet env

theorem panics_deliverInner_iff {packet : Packet} {sender : SocketAddr} {inner : Bytes}
    {senderPk : Key} {now : Instant} :
    (runtime.deliverInner packet sender inner senderPk now).1.Panics ↔
      ∃ key plaintext, slice 0 32 inner = .ok key ∧
        crypto.sha256 (senderPk.toList ++ key.toList) ∉ runtime.receivedKeys ∧
          bodyPlaintext crypto inner = some plaintext ∧ plaintext.length < 40 := by
  rw [deliverInner]
  dsimp only
  by_cases short : inner.length < 44
  · rw [if_pos short]
    refine iff_of_false (Outcome.not_panics_ok _) ?_
    rintro ⟨_, plaintext, -, -, opened, -⟩
    obtain ⟨_, _, opened⟩ := Option.bind_eq_some_iff.mp opened
    obtain ⟨nonce, nonceAt, _⟩ := Option.bind_eq_some_iff.mp opened
    obtain ⟨site, outside⟩ : (slice 32 12 inner).Panics := slice_panics_iff.mpr short
    rw [outside] at nonceAt
    cases nonceAt
  obtain ⟨key, keyAt, -⟩ : ∃ octets : Octets 32, slice 0 32 inner = .ok octets ∧ _ :=
    slice_ok (by omega)
  obtain ⟨nonce, nonceAt, -⟩ : ∃ octets : Octets 12, slice 32 12 inner = .ok octets ∧ _ :=
    slice_ok (by omega)
  have body : bodyPlaintext crypto inner = (crypto.decrypt (inner.drop 44) nonce key).toOption := by
    rw [bodyPlaintext, keyAt, nonceAt]
    rfl
  rw [if_neg short, keyAt, Outcome.ok_orReturn, nonceAt, Outcome.ok_orReturn, body]
  by_cases known : crypto.sha256 (senderPk.toList ++ key.toList) ∈ runtime.receivedKeys
  · rw [if_pos known]
    refine iff_of_false (Outcome.not_panics_ok _) ?_
    rintro ⟨other, _, same, fresh, -⟩
    obtain rfl := Except.ok.inj same
    exact fresh known
  rw [if_neg known]
  rcases crypto.decrypt (inner.drop 44) nonce key with fault | plaintext
  · refine iff_of_false (Outcome.not_panics_ok _) ?_
    rintro ⟨_, _, -, -, opened, -⟩
    cases opened
  dsimp only
  have stub : (∃ other brought, Except.ok key = (Except.ok other : Outcome Key) ∧
      crypto.sha256 (senderPk.toList ++ other.toList) ∉ runtime.receivedKeys ∧
        (Except.ok plaintext : Outcome Bytes).toOption = some brought ∧ brought.length < 40) ↔
          (Message.fromSerialized plaintext).Panics := by
    rw [Message.fromSerialized_panics_iff]
    constructor
    · rintro ⟨_, _, -, -, same, brief⟩
      obtain rfl := Option.some.inj same
      exact brief
    · exact fun brief => ⟨key, plaintext, rfl, known, rfl, brief⟩
  rw [stub]
  rcases Message.fromSerialized plaintext with (message | site) | message
  · exact iff_of_false (Outcome.not_panics_ok _) (Outcome.not_panics_error _)
  · exact iff_of_true (Outcome.panics_panic _) (Outcome.panics_panic _)
  · exact iff_of_false (Outcome.not_panics_ok _) (Outcome.not_panics_ok _)

/-- Which message packets end the runtime. -/
theorem panics_tickMessage_iff (runtime : Runtime crypto noise) (packet : Packet)
    (sender : SocketAddr) (env : Surroundings) (now : Instant) :
    (runtime.tickMessage packet sender env now).1.Panics ↔ runtime.Fatal packet env := by
  cases opened : runtime.opens packet env with
  | some body =>
    obtain ⟨inner, senderPk⟩ := body
    obtain ⟨⟨sessions, delivers⟩, session, last, received, held⟩ :=
      tickMessage_of_opens opened sender now
    rw [delivers, panics_deliverInner_iff]
    constructor
    · rintro ⟨key, plaintext, keyAt, fresh, brings⟩
      exact Or.inr ⟨inner, senderPk, key, plaintext, opened, keyAt, fresh, brings⟩
    · rintro (⟨other, found, overruns⟩ | ⟨_, _, key, plaintext, same, keyAt, fresh, brings⟩)
      · obtain rfl := Option.some.inj (held.symm.trans found)
        have panicked := (Session.panics_receive_iff env).mpr overruns
        rw [received] at panicked
        exact absurd panicked (Outcome.not_panics_ok _)
      · obtain ⟨rfl, rfl⟩ := Prod.mk.inj (Option.some.inj (opened.symm.trans same))
        exact ⟨key, plaintext, keyAt, fresh, brings⟩
  | none =>
    have calm : ¬ runtime.BringsStub packet env := by
      rintro ⟨_, _, _, _, same, -⟩
      rw [opened] at same
      cases same
    rw [Fatal, or_iff_left calm, tickMessage]
    cases held : runtime.sessions.lookup packet.payload.connectionId with
    | none =>
      refine iff_of_false (Outcome.not_panics_ok _) ?_
      rintro ⟨_, found, -⟩
      cases found
    | some session =>
      have judged : (session.receive packet env).1.Panics ↔ session.Overruns packet :=
        Session.panics_receive_iff env
      have one : (∃ other, some session = some other ∧ other.Overruns packet) ↔
          session.Overruns packet := by
        constructor
        · rintro ⟨_, same, overruns⟩
          exact Option.some.inj same ▸ overruns
        · exact fun overruns => ⟨session, rfl, overruns⟩
      rw [opens, held, Option.bind_some] at opened
      rw [one, ← judged]
      dsimp only
      rcases received : session.receive packet env with ⟨(message | site) | item, last⟩
      all_goals rw [received] at opened
      · exact iff_of_false (Outcome.not_panics_ok _) (Outcome.not_panics_error _)
      · exact iff_of_true (Outcome.panics_panic _) (Outcome.panics_panic _)
      · cases opened

/-! ### What keeps the secrets of calls -/

/-- A call that is prepared and made at once has its secret, however the attempt ends. -/
theorem Initiated.initiateHandshake (initiated : runtime.Initiated) {session : Session crypto noise}
    {ourPk : Key} (named : session.ourMasterPubkey = some ourPk) (peerPk : Key) (tag : HandshakeTag)
    (draws : RuntimeDraws) :
    (Runtime.initiateHandshake { runtime with
      pendingSessions := runtime.pendingSessions.insert tag (session, some peerPk) } tag
        draws).2.Initiated := by
  rw [Runtime.initiateHandshake, AList.lookup_insert, okOr, Outcome.ok_orReturn]
  dsimp only
  rw [okOr, Outcome.ok_orReturn]
  have secret : (session.initiateHandshake runtime.address
      draws.handshake).2.ourRatchetDhPriv.isSome = true := by
    rw [Session.initiateHandshake, named, okOr, Outcome.ok_orReturn]
    cases session.initiator <;> rfl
  rcases run : session.initiateHandshake runtime.address draws.handshake with ⟨outcome, called⟩
  rw [run] at secret
  have kept : Runtime.Initiated { runtime with
      pendingSessions := (runtime.pendingSessions.insert tag (session, some peerPk)).insert tag
        (called, some peerPk) } :=
    initiated.insert (AList.insert_insert _) fun _ => secret
  refine Outcome.orReturn_state Runtime.Initiated kept fun bytes _ => ?_
  refine Outcome.orReturn_state Runtime.Initiated kept fun addr _ => ?_
  exact kept

theorem enableSessionInitiator_error_or_ok (runtime : Runtime crypto noise)
    (peerDeviceX25519Pub : Key) (user : UserID crypto) (tag : HandshakeTag) :
    (∃ fault, runtime.enableSessionInitiator peerDeviceX25519Pub user tag =
        (.error fault, runtime)) ∨
      ∃ session ourPk, Session.ourMasterPubkey session = some ourPk ∧
        runtime.enableSessionInitiator peerDeviceX25519Pub user tag = (.ok tag, { runtime with
          pendingSessions :=
            runtime.pendingSessions.insert tag (session, some user.publicKey.bytes) }) := by
  rw [enableSessionInitiator]
  cases runtime.masterPubkey with
  | none => exact Or.inl ⟨_, rfl⟩
  | some ourPk =>
    cases runtime.deviceCert with
    | none => exact Or.inl ⟨_, rfl⟩
    | some cert =>
      rw [okOr, Outcome.ok_orReturn, okOr, Outcome.ok_orReturn]
      rcases built : Session.newInitiator runtime.deviceX25519Priv peerDeviceX25519Pub cert ourPk
        user with fault | session
      · exact Or.inl ⟨fault, rfl⟩
      · exact Or.inr ⟨session, ourPk, Session.ourMasterPubkey_newInitiator built, rfl⟩

end Runtime

namespace Node

variable {node : Node crypto noise}

theorem initiated_callDevices (user : UserID crypto)
    (devices : List (DeviceCertificate crypto × HandshakeTag × RuntimeDraws))
    (initiated : node.calls.Initiated) : (callDevices user devices node).2.calls.Initiated := by
  induction devices generalizing node with
  | nil => exact initiated
  | cons item rest inductionHypothesis =>
    obtain ⟨device, tag, draws⟩ := item
    rw [callDevices]
    rcases node.calls.enableSessionInitiator_error_or_ok device.deviceX25519Pubkey user tag with
      ⟨fault, fails⟩ | ⟨session, ourPk, named, enabled⟩
    · rw [fails]
      exact initiated
    rw [enabled]
    dsimp only
    have kept := initiated.initiateHandshake named user.publicKey.bytes tag draws
    rcases run : Runtime.initiateHandshake { node.calls with
      pendingSessions := node.calls.pendingSessions.insert tag
        (session, some user.publicKey.bytes) } tag draws with ⟨fault | effects, calls⟩
    all_goals rw [run] at kept
    · exact kept
    · exact inductionHypothesis kept

/-- What happens to a node, packets of any kind included. The client may set what the node is told,
and what it does with the hash table it may do to that part at any time. -/
inductive Step : Node crypto noise → Node crypto noise → Prop
  | arrive (node : Node crypto noise) (packet : Packet) (sender : SocketAddr) :
      Step node (node.arrive packet sender)
  | tick (node after : Node crypto noise) (draws : TickDraws)
      (returned : node.tick draws = (.ok (), after)) : Step node after
  | send (node : Node crypto noise) (msg : Message) (peerPk key : Key) (nonce : Nonce)
      (draws : Nat → SendDraws) : Step node (node.sendMessage msg peerPk key nonce draws).2
  | contact (node : Node crypto noise) (pk : Key) (record : ContactRecord crypto)
      (draws : Nat → HandshakeTag × RuntimeDraws) : Step node (node.contact pk record draws).2
  | poll (node : Node crypto noise) : Step node node.poll.2
  | configure (node : Node crypto noise) (masterPubkey : Option Key)
      (deviceCert : Option (DeviceCertificate crypto)) (pkToAddr : HashMap Key SocketAddr)
      (peerKeys : HashMap SocketAddr (VerifyingKey crypto)) :
      Step node { node with
        calls := { node.calls with masterPubkey, deviceCert, pkToAddr, peerKeys } }
  | search (node : Node crypto noise) (dht : DhtRuntime) (relayFwd : Option RelayForwarder)
      (dhtPile : List PileItem) (channels : Effects) :
      Step node { node with dht, relayFwd, dhtPile, channels }

/-! ### A tick -/

/-- The server leaves the calls and the piles of the others alone, also when it panics. -/
theorem calls_serveLoop (node : Node crypto noise) (draws : TickDraws) (pile : List PileItem)
    (turn : Nat) : (serveLoop draws turn pile node).2.calls = node.calls := by
  induction pile generalizing node turn with
  | nil => rfl
  | cons item pile inductionHypothesis =>
    obtain ⟨packet, sender⟩ := item
    rw [serveLoop]
    rcases node.dht.serve packet sender (draws.servedAt turn) (draws.listedAt turn) with
      ⟨fault | sent, dht⟩
    · rfl
    · exact inductionHypothesis _ (turn + 1)

theorem calls_tickServer (node : Node crypto noise) (draws : TickDraws) :
    (node.tickServer draws).2.calls = node.calls := by
  have kept := calls_serveLoop node draws node.dhtPile 0
  rw [tickServer]
  rcases run : serveLoop draws 0 node.dhtPile node with ⟨fault | _, after⟩
  all_goals rw [run] at kept
  · exact kept
  · exact kept

/-- What makes the server panic does so whatever stands before it. -/
theorem panics_serveLoop (draws : TickDraws) {pile : List PileItem}
    (harmed : ∃ item ∈ pile, ¬ node.Harmless item) (turn : Nat) :
    (serveLoop draws turn pile node).1.Panics := by
  induction pile generalizing node turn with
  | nil =>
    obtain ⟨item, member, _⟩ := harmed
    exact absurd member List.not_mem_nil
  | cons item pile inductionHypothesis =>
    obtain ⟨packet, sender⟩ := item
    by_cases harmless : node.Harmless (packet, sender)
    · obtain ⟨sent, answers⟩ := serve_ok harmless (draws.servedAt turn) (draws.listedAt turn)
      have served := serves_turn node packet sender draws turn sent
      rcases run : node.dht.serve packet sender (draws.servedAt turn) (draws.listedAt turn) with
        ⟨outcome, dht⟩
      rw [run] at answers served
      obtain rfl : outcome = .ok sent := answers
      rw [serveLoop, run]
      refine inductionHypothesis ?_ (turn + 1)
      obtain ⟨other, member, harms⟩ := harmed
      rcases List.mem_cons.mp member with rfl | later
      · exact absurd harmless harms
      · exact ⟨other, later, fun safe => harms fun serving =>
          safe (served.serving.symm ▸ serving)⟩
    · obtain ⟨serving, lacks⟩ := Classical.not_imp.mp harmless
      obtain ⟨site, panicked⟩ := (DhtRuntime.serve_panics_iff serving packet sender
        (draws.servedAt turn) (draws.listedAt turn)).mpr (not_not.mp lacks)
      rcases run : node.dht.serve packet sender (draws.servedAt turn) (draws.listedAt turn) with
        ⟨outcome, dht⟩
      rw [run] at panicked
      obtain rfl : outcome = .error (.panic site) := panicked
      rw [serveLoop, run]
      exact Outcome.panics_panic site

theorem calls_tickRelay : node.tickRelay.calls = node.calls := rfl

theorem tickHandshake_returns (initiated : node.calls.Initiated) (draws : RuntimeDraws) :
    (node.tickHandshake draws).2.calls.Initiated ∧ (node.tickHandshake draws).1 = .ok () := by
  rw [tickHandshake]
  cases node.handshakePile with
  | nil => exact ⟨initiated, rfl⟩
  | cons item handshakePile =>
    obtain ⟨packet, sender⟩ := item
    have kept := initiated.tickHandshake packet sender draws
    obtain ⟨effects, returned⟩ := initiated.tickHandshake_returns packet sender draws
    dsimp only
    rcases run : node.calls.tickHandshake packet sender draws with ⟨outcome, calls⟩
    rw [run] at kept returned
    obtain rfl : outcome = .ok effects := returned
    exact ⟨kept, rfl⟩

theorem initiated_tickMessage (initiated : node.calls.Initiated) (env : Surroundings)
    (now : Instant) : (node.tickMessage env now).2.calls.Initiated := by
  rw [tickMessage]
  cases node.messagePile with
  | nil => exact initiated
  | cons item messagePile =>
    obtain ⟨packet, sender⟩ := item
    obtain ⟨_, _, _, _, frame⟩ := node.calls.tickMessage_frame packet sender env now
    have kept : (node.calls.tickMessage packet sender env now).2.Initiated :=
      initiated.of_pending (by rw [frame])
    dsimp only
    rcases run : node.calls.tickMessage packet sender env now with ⟨fault | effects, calls⟩
    all_goals rw [run] at kept
    · exact kept
    · exact kept

/-- The node that a tick has made of this one when it comes to the messages. -/
def beforeMessages (node : Node crypto noise) (draws : TickDraws) : Node crypto noise :=
  ((node.tickServer draws).2.tickRelay.tickHandshake draws.handshake).2

theorem initiated_beforeMessages (initiated : node.calls.Initiated) (draws : TickDraws) :
    (node.beforeMessages draws).calls.Initiated := by
  refine (tickHandshake_returns ?_ draws.handshake).1
  rw [calls_tickRelay, calls_tickServer]
  exact initiated

/-- When the server has come through, only the messages are left to panic. -/
theorem tick_eq (initiated : node.calls.Initiated) {draws : TickDraws} {served : Node crypto noise}
    (serves : node.tickServer draws = (.ok (), served)) : node.tick draws =
      (node.beforeMessages draws).tickMessage draws.env draws.now := by
  have same := calls_tickServer node draws
  rw [tick, beforeMessages, serves]
  rw [serves] at same
  have relayed : served.tickRelay.calls.Initiated := by
    rw [calls_tickRelay, same]
    exact initiated
  obtain ⟨_, handles⟩ := tickHandshake_returns relayed draws.handshake
  dsimp only
  rcases run : served.tickRelay.tickHandshake draws.handshake with ⟨outcome, after⟩
  rw [run] at handles
  obtain rfl : outcome = .ok () := handles
  rfl

theorem initiated_tick (initiated : node.calls.Initiated) (draws : TickDraws) :
    (node.tick draws).2.calls.Initiated := by
  have served := calls_tickServer node draws
  rcases run : node.tickServer draws with ⟨fault | _, after⟩
  · rw [tick, run]
    rw [run] at served
    exact initiated.of_pending (by rw [served])
  · rw [tick_eq initiated run]
    exact initiated_tickMessage (initiated_beforeMessages initiated draws) _ _

/-- The tick meets a packet that ends it: one on the pile of the server, or the message that it
comes to behind that. -/
def Struck (node : Node crypto noise) (draws : TickDraws) : Prop :=
  (∃ item ∈ node.dhtPile, ¬ node.Harmless item) ∨
    ∃ packet sender rest, (node.beforeMessages draws).messagePile = (packet, sender) :: rest ∧
      (node.beforeMessages draws).calls.Fatal packet draws.env

theorem panics_tick_iff (initiated : node.calls.Initiated) {draws : TickDraws} :
    (node.tick draws).1.Panics ↔ node.Struck draws := by
  by_cases harmed : ∃ item ∈ node.dhtPile, ¬ node.Harmless item
  · refine iff_of_true ?_ (Or.inl harmed)
    obtain ⟨site, panicked⟩ := panics_serveLoop draws harmed 0
    rcases run : serveLoop draws 0 node.dhtPile node with ⟨outcome, after⟩
    rw [run] at panicked
    obtain rfl : outcome = .error (.panic site) := panicked
    rw [tick, tickServer, run]
    exact Outcome.panics_panic site
  · obtain ⟨served, serves, -⟩ := node.tickServer_ok draws fun item member => by
      by_contra harms
      exact harmed ⟨item, member, harms⟩
    rw [Struck, or_iff_right harmed, tick_eq initiated serves, tickMessage]
    cases (node.beforeMessages draws).messagePile with
    | nil =>
      refine iff_of_false (Outcome.not_panics_ok _) ?_
      rintro ⟨_, _, _, same, -⟩
      cases same
    | cons item rest =>
      obtain ⟨packet, sender⟩ := item
      have judged := (node.beforeMessages draws).calls.panics_tickMessage_iff packet sender
        draws.env draws.now
      have front : (∃ other source tail, (packet, sender) :: rest = (other, source) :: tail ∧
          (node.beforeMessages draws).calls.Fatal other draws.env) ↔
            (node.beforeMessages draws).calls.Fatal packet draws.env := by
        constructor
        · rintro ⟨_, _, _, same, fatal⟩
          obtain ⟨rfl, _⟩ := Prod.mk.inj (List.cons.inj same).1
          exact fatal
        · exact fun fatal => ⟨packet, sender, rest, rfl, fatal⟩
      rw [front, ← judged]
      dsimp only
      rcases (node.beforeMessages draws).calls.tickMessage packet sender draws.env draws.now with
        ⟨(message | site) | effects, calls⟩
      · exact iff_of_false (Outcome.not_panics_error _) (Outcome.not_panics_error _)
      · exact iff_of_true (Outcome.panics_panic _) (Outcome.panics_panic _)
      · exact iff_of_false (Outcome.not_panics_ok _) (Outcome.not_panics_ok _)

theorem initiated_step {before after : Node crypto noise} (initiated : before.calls.Initiated)
    (step : Step before after) : after.calls.Initiated := by
  cases step with
  | arrive packet sender =>
    rw [arrive]
    split
    all_goals exact initiated
  | tick _ draws returned =>
    have kept := initiated_tick initiated draws
    rw [returned] at kept
    exact kept
  | send msg peerPk key nonce draws =>
    obtain ⟨sessions, frame⟩ := before.calls.sendMessage_frame msg peerPk key nonce draws
    rw [sendMessage]
    rcases run : before.calls.sendMessage msg peerPk key nonce draws with ⟨outcome, outgoing, calls⟩
    rw [run] at frame
    dsimp only at frame
    exact Runtime.Initiated.of_pending initiated (by rw [frame]; rfl)
  | contact pk record draws =>
    rw [contact]
    cases UserID.ofBytes crypto pk with
    | none => exact initiated
    | some user => exact initiated_callDevices user _ initiated
  | poll => exact initiated
  | configure => exact initiated
  | search => exact initiated

/-- A node that is used as the client uses it panics in a tick exactly if the tick is struck. -/
theorem panics_iff_struck {id : NodeID} {address : SocketAddr} {deviceX25519Priv : Key}
    {peerKeys : HashMap SocketAddr (VerifyingKey crypto)}
    (run : Relation.ReflTransGen Step (bind id address deviceX25519Priv peerKeys) node)
    (draws : TickDraws) : (node.tick draws).1.Panics ↔ node.Struck draws := by
  have start : (bind id address deviceX25519Priv peerKeys :
      Node crypto noise).calls.Initiated := by
    intro tag session peerPkOpt found
    cases found
  have kept (before after : Node crypto noise) (initiated : before.calls.Initiated)
      (step : Step before after) : after.calls.Initiated :=
    initiated_step initiated step
  have initiated : node.calls.Initiated := Run.preserves kept start run
  exact panics_tick_iff initiated

/-! ### A store operation that is cut off -/

def sampleTickDraws : TickDraws where
  servedAt _ := 0
  listedAt _ _ := 0
  responseIds _ := 4
  evictedAt := 0
  handshake := Runtime.sampleDraws
  env := Inbox.sampleEnvironment
  now := 0

/-- An operation to store a value, without the length of the value. -/
def sampleCutStore : Packet := Packet.new 0 5 (Payload.new .dhtOperation (5 :: List.replicate 68 0))

def sampleServer : Node sampleSuite SampleSuite.noise :=
  (bind ⟨SampleSuite.octets 32 7⟩ Runtime.sampleAddress (SampleSuite.octets 32 50) ∅).enableServer

/-- One packet from anywhere ends a server, whatever it would have drawn. -/
theorem sampleCutStore_strikes :
    ((sampleServer.arrive sampleCutStore Runtime.sampleAddress).tick sampleTickDraws).1.Panics := by
  have run : Relation.ReflTransGen Step (bind ⟨SampleSuite.octets 32 7⟩ Runtime.sampleAddress
      (SampleSuite.octets 32 50) ∅) (sampleServer.arrive sampleCutStore Runtime.sampleAddress) :=
    .head (.search _ sampleServer.dht none [] .none)
      (.single (.arrive sampleServer sampleCutStore Runtime.sampleAddress))
  refine (panics_iff_struck run sampleTickDraws).mpr (Or.inl ⟨_, List.mem_singleton_self _, ?_⟩)
  exact fun harmless => harmless rfl (by decide +kernel)

end Node

end Insub
