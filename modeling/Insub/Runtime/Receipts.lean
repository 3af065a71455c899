/-
This file proves that a message reaches the application once. A body that was delivered is
remembered for a minute by a hash of its sender and of the key it was sealed under, on the path
that delivers it and on no other. So the first packet of a message that opens is forwarded,
the others that come within the minute are not, and whatever packets come, two bodies with one
sender and one key are forwarded a minute apart or more.
-/

import Mathlib
import Insub.Crypto.SampleSuite
import Insub.Runtime.Attribution
import Insub.Runtime.Sending

namespace Insub

open Rust

variable {crypto : Primitives} {noise : Noise}

namespace Runtime

/-! ### What a body does to the table -/

/-- The messages that come out of a call. -/
def messagesOf : Outcome Effects → List (Message × Key)
  | .ok effects => effects.messages
  | .error _ => []

/-- Under what a body is remembered: its sender and the key it was sealed under. -/
def bodyName (crypto : Primitives) (keys : Key × Key) : Key :=
  crypto.sha256 (keys.1.toList ++ keys.2.toList)

/-- The table loses at most entries that are a minute old. -/
structure Fades (before after : HashMap Key Instant) (now : Instant) : Prop where
  known : ∀ name time, after.lookup name = some time → before.lookup name = some time
  recent : ∀ name time, before.lookup name = some time →
    after.lookup name = some time ∨ receivedTtl ≤ durationSince now time

theorem Fades.refl (table : HashMap Key Instant) (now : Instant) : Fades table table now where
  known _ _ held := held
  recent _ _ held := Or.inl held

theorem fades_retain (table : HashMap Key Instant) (now : Instant) :
    Fades table (table.retain fun _ time => durationSince now time < receivedTtl) now where
  known _ _ held := (HashMap.lookup_retain_eq_some_iff.mp held).1
  recent name time held := by
    by_cases recent : durationSince now time < receivedTtl
    · exact Or.inl (HashMap.lookup_retain_eq_some_iff.mpr ⟨held, decide_eq_true recent⟩)
    · exact Or.inr (not_lt.mp recent)

/-- A body is forwarded and entered under its name, which was not in the table; or nothing is
forwarded, and nothing entered. -/
theorem deliverInner_receives (runtime : Runtime crypto noise) (packet : Packet)
    (sender : SocketAddr) (inner : Bytes) (senderPk : Key) (now : Instant) :
    (messagesOf (runtime.deliverInner packet sender inner senderPk now).1 = [] ∧
      Fades runtime.receivedKeys
        (runtime.deliverInner packet sender inner senderPk now).2.receivedKeys now) ∨
    ∃ key message pruned, slice 0 32 inner = .ok key ∧
      bodyName crypto (senderPk, key) ∉ runtime.receivedKeys ∧
        messagesOf (runtime.deliverInner packet sender inner senderPk now).1 =
            [(message, senderPk)] ∧
          Fades runtime.receivedKeys pruned now ∧
            (runtime.deliverInner packet sender inner senderPk now).2.receivedKeys =
              pruned.insert (bodyName crypto (senderPk, key)) now := by
  have still := Fades.refl runtime.receivedKeys now
  have pruned := fades_retain runtime.receivedKeys now
  rw [deliverInner]
  by_cases short : inner.length < 44
  · rw [if_pos short]
    exact Or.inl ⟨rfl, still⟩
  rw [if_neg short]
  rcases keyAt : slice 0 32 inner with fault | key
  · exact Or.inl ⟨rfl, still⟩
  rcases slice 32 12 inner with fault | nonce
  · exact Or.inl ⟨rfl, still⟩
  dsimp only [Outcome.ok_orReturn]
  by_cases seen : crypto.sha256 (senderPk.toList ++ key.toList) ∈ runtime.receivedKeys
  · rw [if_pos seen]
    exact Or.inl ⟨rfl, still⟩
  rw [if_neg seen]
  rcases crypto.decrypt (inner.drop 44) nonce key with fault | plaintext
  · exact Or.inl ⟨rfl, pruned⟩
  dsimp only
  rcases Message.fromSerialized plaintext with (text | site) | message
  · exact Or.inl ⟨rfl, pruned⟩
  · exact Or.inl ⟨rfl, pruned⟩
  · exact Or.inr ⟨key, message, _, rfl, seen, rfl, pruned, rfl⟩

/-- A body begins with the key it is sealed under. -/
theorem slice_body (key : Key) (nonce : Nonce) (ciphertext : Bytes) :
    slice 0 32 (key.toList ++ nonce.toList ++ ciphertext) = .ok key := by
  rw [List.append_assoc]
  show slice 0 32 ([] ++ (key.toList ++ (nonce.toList ++ ciphertext))) = .ok key
  exact slice_append rfl

/-- A body that is not remembered is forwarded. -/
theorem messagesOf_deliverInner (opens : crypto.OpensSealed) (runtime : Runtime crypto noise)
    {msg : Message} {key : Key} {nonce : Nonce} {ciphertext : Bytes}
    (sealed : crypto.aeadEncrypt key nonce msg.serialize = some ciphertext) {senderPk : Key}
    (fresh : bodyName crypto (senderPk, key) ∉ runtime.receivedKeys) (packet : Packet)
    (sender : SocketAddr) (now : Instant) :
    messagesOf (runtime.deliverInner packet sender (key.toList ++ nonce.toList ++ ciphertext)
        senderPk now).1 =
      [({ msg with replyTo := msg.replyTo.filter (· ≠ 0) }, senderPk)] := by
  have front : (key.toList ++ nonce.toList).length = 44 := by
    rw [List.length_append, List.Vector.toList_length, List.Vector.toList_length]
  have long : ¬ (key.toList ++ nonce.toList ++ ciphertext).length < 44 := by
    rw [List.length_append, front]
    exact not_lt.mpr (Nat.le_add_right 44 _)
  have nonceAt : slice 32 12 (key.toList ++ nonce.toList ++ ciphertext) = .ok nonce := by
    rw [List.append_assoc]
    exact slice_append key.toList_length
  have unseen : crypto.sha256 (senderPk.toList ++ key.toList) ∉ runtime.receivedKeys := fresh
  rw [deliverInner, if_neg long, slice_body, nonceAt]
  dsimp only [Outcome.ok_orReturn]
  rw [if_neg unseen, List.drop_left' front, crypto.decrypt_sealed opens sealed]
  dsimp only
  rw [Message.fromSerialized_serialize]
  rfl

/-! ### What a packet opens to -/

/-- What the session of its connection gets out of a packet. -/
def opens (runtime : Runtime crypto noise) (packet : Packet) (env : Surroundings) :
    Option (Bytes × Key) :=
  (runtime.sessions.lookup packet.payload.connectionId).bind fun session =>
    (session.receive packet env).1.toOption

/-- The key that the session of its connection opens a packet with, if it has one. -/
def keyFor (runtime : Runtime crypto noise) (packet : Packet) (env : Surroundings) : Option Key :=
  (runtime.sessions.lookup packet.payload.connectionId).bind fun session =>
    session.keyFor packet env

theorem tickMessage_of_opens {runtime : Runtime crypto noise} {packet : Packet}
    {env : Surroundings} {inner : Bytes} {senderPk : Key}
    (opened : runtime.opens packet env = some (inner, senderPk)) (sender : SocketAddr)
    (now : Instant) :
    (∃ sessions, runtime.tickMessage packet sender env now =
      deliverInner { runtime with sessions } packet sender inner senderPk now) ∧
    ∃ session last, Session.receive session packet env = (.ok (inner, senderPk), last) ∧
      runtime.sessions.lookup packet.payload.connectionId = some session := by
  obtain ⟨session, held, received⟩ := Option.bind_eq_some_iff.mp opened
  rcases run : session.receive packet env with ⟨fault | item, last⟩
  all_goals rw [run] at received
  · cases received
  · obtain rfl : item = (inner, senderPk) := Option.some.inj received
    refine ⟨⟨runtime.sessions.insert packet.payload.connectionId last, ?_⟩, session, last, run,
      held⟩
    rw [tickMessage, held]
    dsimp only
    rw [run]

theorem tickMessage_of_closed {runtime : Runtime crypto noise} {packet : Packet}
    {env : Surroundings} (closed : runtime.opens packet env = none) (sender : SocketAddr)
    (now : Instant) :
    messagesOf (runtime.tickMessage packet sender env now).1 = [] ∧
      (runtime.tickMessage packet sender env now).2.receivedKeys = runtime.receivedKeys := by
  have dropped (runtime : Runtime crypto noise) (connId : ConnectionId) :
      (runtime.removeStaleConn connId).receivedKeys = runtime.receivedKeys := by
    obtain ⟨_, _, _, frame⟩ := removeStaleConn_frame runtime connId
    rw [frame]
  rw [opens] at closed
  rw [tickMessage]
  cases held : runtime.sessions.lookup packet.payload.connectionId with
  | none => exact ⟨rfl, dropped _ _⟩
  | some session =>
    rw [held] at closed
    dsimp only
    rcases run : session.receive packet env with ⟨(text | site) | item, last⟩
    · exact ⟨rfl, dropped _ _⟩
    · exact ⟨rfl, rfl⟩
    · rw [Option.bind_some, run] at closed
      cases closed

/-- Calls that take in no message leave the table alone. -/
theorem perform_receivedKeys (runtime : Runtime crypto noise) {call : Call crypto noise}
    (other : ∀ packet sender env now, call ≠ .tickMessage packet sender env now) :
    (runtime.perform call).2.receivedKeys = runtime.receivedKeys := by
  cases call with
  | setMasterPubkey pk => rfl
  | setDeviceCert cert => rfl
  | enableSessionInitiator peerDeviceX25519Pub peerUserId tag =>
    obtain ⟨_, frame⟩ := enableSessionInitiator_frame runtime peerDeviceX25519Pub peerUserId tag
    show (runtime.enableSessionInitiator peerDeviceX25519Pub peerUserId tag).2.receivedKeys = _
    rw [frame]
  | initiateHandshake tag draws =>
    obtain ⟨_, frame⟩ := initiateHandshake_frame runtime tag draws
    show (runtime.initiateHandshake tag draws).2.receivedKeys = _
    rw [frame]
  | tickHandshake packet sender draws =>
    obtain ⟨_, _, completed⟩ := completePending_frame runtime packet sender draws
    show (runtime.tickHandshake packet sender draws).2.receivedKeys = _
    rw [tickHandshake]
    rcases run : runtime.completePending packet sender draws with
      ⟨fault | _ | ⟨connId, peerPk⟩, next⟩
    all_goals
      rw [run] at completed
      rw [show next = _ from completed]
    · dsimp only
      split
      · rfl
      · obtain ⟨_, _, _, _, _, _, responded⟩ := respond_frame _ packet sender draws
        rw [responded]
    · dsimp only
      split <;> rfl
  | tickMessage packet sender env now => exact absurd rfl (other packet sender env now)
  | sendMessage msg peerPk key nonce draws =>
    obtain ⟨_, frame⟩ := sendMessage_frame runtime msg peerPk key nonce draws
    show (runtime.sendMessage msg peerPk key nonce draws).2.2.receivedKeys = _
    rw [frame]
  | writePeers pkToAddr peerKeys => rfl

end Runtime

/-! ### Runs of a receiver -/

/-- A packet as `tick_message` met it: when, with which key of its session, what the session made
of it, and what was forwarded. -/
structure Receipt where
  packet : Packet
  time : Instant
  tried : Option Key
  opened : Option (Bytes × Key)
  forwarded : List (Message × Key)

namespace Receipt

/-- The sender of the body and the key that it is sealed under. -/
def keys (arrival : Receipt) : Option (Key × Key) :=
  arrival.opened.bind fun (inner, senderPk) =>
    (slice 0 32 inner).toOption.map fun key => (senderPk, key)

def name (crypto : Primitives) (arrival : Receipt) : Option Key :=
  arrival.keys.map (Runtime.bodyName crypto)

/-- The packet has the bytes of one that was sent, as a relay unwraps it. -/
def Bears (sent : List (Packet × SocketAddr)) (arrival : Receipt) : Prop :=
  ∃ item ∈ sent, ∃ original, innerPacket item.1 = some original ∧
    arrival.packet.payload.data = original.payload.data

end Receipt

/-- A receiving runtime, the earliest instant that the clock can show next, and all packets that
came in. -/
structure Receipts (crypto : Primitives) (noise : Noise) where
  runtime : Runtime crypto noise
  clock : Instant
  arrivals : List Receipt

namespace Receipts

def start (runtime : Runtime crypto noise) : Receipts crypto noise where
  runtime := runtime
  clock := 0
  arrivals := []

/-- What a call leads to. The clock does not run backwards. -/
def perform (receipts : Receipts crypto noise) (call : Call crypto noise) :
    Option (Receipts crypto noise) :=
  match call with
  | .tickMessage packet _ env now =>
    if receipts.clock ≤ now then
      some
        { runtime := (receipts.runtime.perform call).2
          clock := now
          arrivals := receipts.arrivals ++
            [{ packet, time := now, tried := receipts.runtime.keyFor packet env
               opened := receipts.runtime.opens packet env
               forwarded := receipts.runtime.forwards call }] }
    else none
  | _ => some { receipts with runtime := (receipts.runtime.perform call).2 }

def Step (before after : Receipts crypto noise) : Prop :=
  ∃ call, before.perform call = some after

/-- What is forwarded of a packet, given those that came before it. -/
structure Judged (crypto : Primitives) (noise : Noise) (before : List Receipt) (arrival : Receipt) :
    Prop where
  received : ∀ inner senderPk, arrival.opened = some (inner, senderPk) →
    ∃ (session last : Session crypto noise) (env : Surroundings),
      session.receive arrival.packet env = (.ok (inner, senderPk), last) ∧
        session.keyFor arrival.packet env = arrival.tried
  closed : arrival.opened = none → arrival.forwarded = []
  repeated : ∀ earlier ∈ before, earlier.forwarded ≠ [] →
    earlier.name crypto = arrival.name crypto → arrival.time < earlier.time + Runtime.receivedTtl →
      arrival.forwarded = []
  fresh : ∀ key ciphertext senderPk msg, ∀ nonce : Nonce,
    crypto.aeadEncrypt key nonce (Message.serialize msg) = some ciphertext →
      arrival.opened = some (key.toList ++ nonce.toList ++ ciphertext, senderPk) →
        (∀ earlier ∈ before, earlier.forwarded ≠ [] →
          earlier.name crypto ≠ arrival.name crypto) →
            arrival.forwarded = [({ msg with replyTo := msg.replyTo.filter (· ≠ 0) }, senderPk)]

/-- What the table knows of the packets that came in. -/
structure Noted (receipts : Receipts crypto noise) : Prop where
  past : ∀ arrival ∈ receipts.arrivals, arrival.time ≤ receipts.clock
  known : ∀ name time, receipts.runtime.receivedKeys.lookup name = some time →
    ∃ arrival ∈ receipts.arrivals, arrival.forwarded ≠ [] ∧ arrival.name crypto = some name
  noted : ∀ arrival ∈ receipts.arrivals, arrival.forwarded ≠ [] →
    ∃ name, arrival.name crypto = some name ∧
      (receipts.runtime.receivedKeys.lookup name = some arrival.time ∨
        arrival.time + Runtime.receivedTtl ≤ receipts.clock)
  judged : ∀ before arrival after, receipts.arrivals = before ++ arrival :: after →
    Judged crypto noise before arrival

theorem noted_start (address : SocketAddr) (deviceX25519Priv : Key)
    (peerKeys : HashMap SocketAddr (VerifyingKey crypto)) :
    (start (.bind address deviceX25519Priv peerKeys : Runtime crypto noise)).Noted where
  past _ member := absurd member List.not_mem_nil
  known _ _ held := by cases held
  noted _ member := absurd member List.not_mem_nil
  judged _ _ _ split :=
    absurd split.symm (List.append_ne_nil_of_right_ne_nil _ (List.cons_ne_nil _ _))

theorem Noted.quiet {receipts : Receipts crypto noise} (noted : receipts.Noted)
    {runtime : Runtime crypto noise}
    (same : runtime.receivedKeys = receipts.runtime.receivedKeys) :
    Noted { receipts with runtime } where
  past := noted.past
  known name time held := by
    dsimp only at held
    rw [same] at held
    exact noted.known name time held
  noted arrival member forwarded := by
    dsimp only
    rw [same]
    exact noted.noted arrival member forwarded
  judged := noted.judged

/-- A packet of which nothing is forwarded. -/
theorem Noted.drop {receipts : Receipts crypto noise} (noted : receipts.Noted)
    {runtime : Runtime crypto noise} {now : Instant} (reading : receipts.clock ≤ now)
    (fades : Runtime.Fades receipts.runtime.receivedKeys runtime.receivedKeys now)
    {arrival : Receipt} (nothing : arrival.forwarded = []) (time : arrival.time = now)
    (judged : Judged crypto noise receipts.arrivals arrival) :
    Noted { runtime, clock := now, arrivals := receipts.arrivals ++ [arrival] } where
  past other member := by
    rcases List.mem_append.mp member with earlier | last
    · exact (noted.past other earlier).trans reading
    · rw [List.mem_singleton.mp last, time]
  known name found held := by
    obtain ⟨other, member, rest⟩ := noted.known name found (fades.known name found held)
    exact ⟨other, List.mem_append_left _ member, rest⟩
  noted other member forwarded := by
    rcases List.mem_append.mp member with earlier | last
    · obtain ⟨name, named, held | expired⟩ := noted.noted other earlier forwarded
      · refine ⟨name, named, (fades.recent name _ held).imp_right fun old => ?_⟩
        exact add_le_of_durationSince ((noted.past other earlier).trans reading) old
      · exact ⟨name, named, Or.inr (expired.trans reading)⟩
    · rw [List.mem_singleton.mp last] at forwarded
      exact absurd nothing forwarded
  judged before other after split := by
    rcases Run.split_concat split with ⟨-, rfl, rfl⟩ | ⟨shorter, rfl, shorterSplit⟩
    · exact judged
    · exact noted.judged before other shorter shorterSplit

/-- A packet of which a message is forwarded. -/
theorem Noted.deliver {receipts : Receipts crypto noise} (noted : receipts.Noted)
    {runtime : Runtime crypto noise} {now : Instant} (reading : receipts.clock ≤ now)
    {pruned : HashMap Key Instant}
    (fades : Runtime.Fades receipts.runtime.receivedKeys pruned now) {name : Key}
    (entered : runtime.receivedKeys = pruned.insert name now)
    (unknown : name ∉ receipts.runtime.receivedKeys) {arrival : Receipt}
    (named : arrival.name crypto = some name) (forwarded : arrival.forwarded ≠ [])
    (time : arrival.time = now) (judged : Judged crypto noise receipts.arrivals arrival) :
    Noted { runtime, clock := now, arrivals := receipts.arrivals ++ [arrival] } where
  past other member := by
    rcases List.mem_append.mp member with earlier | last
    · exact (noted.past other earlier).trans reading
    · rw [List.mem_singleton.mp last, time]
  known other found held := by
    dsimp only at held
    rw [entered] at held
    rcases HashMap.lookup_insert_eq_some_iff.mp held with ⟨rfl, -⟩ | ⟨-, held⟩
    · exact ⟨arrival, List.mem_append_right _ (List.mem_singleton_self _), forwarded, named⟩
    · obtain ⟨other, member, rest⟩ := noted.known other found (fades.known other found held)
      exact ⟨other, List.mem_append_left _ member, rest⟩
  noted other member some_forwarded := by
    dsimp only
    rw [entered]
    rcases List.mem_append.mp member with earlier | last
    · have past := (noted.past other earlier).trans reading
      obtain ⟨otherName, otherNamed, held | expired⟩ := noted.noted other earlier some_forwarded
      · refine ⟨otherName, otherNamed, ?_⟩
        have different : otherName ≠ name := by
          rintro rfl
          exact unknown (AList.lookup_isSome.mp (Option.isSome_iff_exists.mpr ⟨_, held⟩))
        rcases fades.recent otherName _ held with kept | old
        · exact Or.inl (HashMap.lookup_insert_eq_some_iff.mpr (Or.inr ⟨different, kept⟩))
        · exact Or.inr (add_le_of_durationSince past old)
      · exact ⟨otherName, otherNamed, Or.inr (expired.trans reading)⟩
    · rw [List.mem_singleton.mp last]
      refine ⟨name, named, Or.inl ?_⟩
      rw [time]
      exact AList.lookup_insert _
  judged before other after split := by
    rcases Run.split_concat split with ⟨-, rfl, rfl⟩ | ⟨shorter, rfl, shorterSplit⟩
    · exact judged
    · exact noted.judged before other shorter shorterSplit

theorem judged_of_closed {before : List Receipt} {arrival : Receipt}
    (closed : arrival.opened = none) (nothing : arrival.forwarded = []) :
    Judged crypto noise before arrival where
  received inner senderPk opened := by
    rw [closed] at opened
    cases opened
  closed _ := nothing
  repeated _ _ _ _ _ := nothing
  fresh key ciphertext senderPk msg nonce _ opened _ := by
    rw [closed] at opened
    cases opened

theorem name_of_opened {arrival : Receipt} {inner : Bytes} {senderPk key : Key}
    (opened : arrival.opened = some (inner, senderPk)) (keyAt : slice 0 32 inner = .ok key) :
    arrival.name crypto = some (Runtime.bodyName crypto (senderPk, key)) := by
  rw [Receipt.name, Receipt.keys, opened, Option.bind_some]
  dsimp only
  rw [keyAt]
  rfl

/-- What opens is forwarded if it is not remembered, and is not if it is. -/
theorem Noted.judge (opens : crypto.OpensSealed) {receipts : Receipts crypto noise}
    (noted : receipts.Noted) {packet : Packet} {env : Surroundings} {inner : Bytes}
    {senderPk : Key} (opened : receipts.runtime.opens packet env = some (inner, senderPk))
    (sender : SocketAddr) {now : Instant} (reading : receipts.clock ≤ now) :
    Judged crypto noise receipts.arrivals
      { packet, time := now, tried := receipts.runtime.keyFor packet env
        opened := some (inner, senderPk)
        forwarded := Runtime.messagesOf
          (receipts.runtime.tickMessage packet sender env now).1 } where
  received other written same := by
    obtain ⟨_, session, last, received, held⟩ := Runtime.tickMessage_of_opens opened sender now
    obtain ⟨rfl, rfl⟩ := Prod.mk.inj (Option.some.inj same)
    refine ⟨session, last, env, received, ?_⟩
    rw [Runtime.keyFor, held]
    rfl
  closed none := by cases none
  repeated earlier member forwarded same recent := by
    obtain ⟨⟨sessions, ticked⟩, _⟩ := Runtime.tickMessage_of_opens opened sender now
    obtain ⟨name, named, held | expired⟩ := noted.noted earlier member forwarded
    · dsimp only
      rw [ticked]
      rcases Runtime.deliverInner_receives { receipts.runtime with sessions } packet sender inner
        senderPk now with ⟨nothing, _⟩ | ⟨key, _, _, keyAt, unknown, _⟩
      · exact nothing
      · have here := same.trans (name_of_opened rfl keyAt)
        rw [named] at here
        rw [← Option.some.inj here] at unknown
        exact absurd (AList.lookup_isSome.mp (Option.isSome_iff_exists.mpr ⟨_, held⟩)) unknown
    · exact absurd recent (not_lt.mpr (expired.trans reading))
  fresh key ciphertext written msg nonce sealed same unlike := by
    obtain ⟨⟨sessions, ticked⟩, _⟩ := Runtime.tickMessage_of_opens opened sender now
    obtain ⟨rfl, rfl⟩ := Prod.mk.inj (Option.some.inj same)
    have keyAt := Runtime.slice_body key nonce ciphertext
    have unknown : Runtime.bodyName crypto (senderPk, key) ∉ receipts.runtime.receivedKeys := by
      intro held
      obtain ⟨time, found⟩ := Option.isSome_iff_exists.mp (AList.lookup_isSome.mpr held)
      obtain ⟨earlier, member, forwarded, named⟩ := noted.known _ time found
      exact unlike earlier member forwarded (named.trans (name_of_opened rfl keyAt).symm)
    dsimp only
    rw [ticked]
    exact Runtime.messagesOf_deliverInner opens { receipts.runtime with sessions } sealed unknown
      packet sender now

/-- A packet that is taken in. -/
theorem Noted.receive (opens : crypto.OpensSealed) {receipts : Receipts crypto noise}
    (noted : receipts.Noted) (packet : Packet) (sender : SocketAddr) (env : Surroundings)
    {now : Instant} (reading : receipts.clock ≤ now) :
    Noted
      { runtime := (receipts.runtime.tickMessage packet sender env now).2
        clock := now
        arrivals := receipts.arrivals ++
          [{ packet, time := now, tried := receipts.runtime.keyFor packet env
             opened := receipts.runtime.opens packet env
             forwarded := Runtime.messagesOf
              (receipts.runtime.tickMessage packet sender env now).1 }] } := by
  cases opened : receipts.runtime.opens packet env with
  | none =>
    obtain ⟨nothing, same⟩ := Runtime.tickMessage_of_closed opened sender now
    exact noted.drop reading (same ▸ Runtime.Fades.refl _ now) nothing rfl
      (judged_of_closed rfl nothing)
  | some item =>
    obtain ⟨inner, senderPk⟩ := item
    have judged := noted.judge opens opened sender reading
    obtain ⟨⟨sessions, ticked⟩, _⟩ := Runtime.tickMessage_of_opens opened sender now
    rw [ticked] at judged ⊢
    rcases Runtime.deliverInner_receives { receipts.runtime with sessions } packet sender inner
      senderPk now with ⟨nothing, fades⟩ | ⟨_, _, _, keyAt, unknown, forwards, fades, entered⟩
    · exact noted.drop reading fades nothing rfl judged
    · have some_forwarded : Runtime.messagesOf (Runtime.deliverInner
          { receipts.runtime with sessions } packet sender inner senderPk now).1 ≠ [] := by
        rw [forwards]
        exact List.cons_ne_nil _ _
      exact noted.deliver reading fades entered unknown (name_of_opened rfl keyAt) some_forwarded
        rfl judged

theorem Noted.step (opens : crypto.OpensSealed) {before after : Receipts crypto noise}
    (noted : before.Noted) (step : Step before after) : after.Noted := by
  obtain ⟨call, performed⟩ := step
  cases call with
  | tickMessage packet sender env now =>
    rw [perform] at performed
    split at performed
    · rename_i reading
      rw [← Option.some.inj performed]
      exact noted.receive opens packet sender env reading
    · cases performed
  | _ =>
    rw [← Option.some.inj performed]
    exact noted.quiet (Runtime.perform_receivedKeys before.runtime fun _ _ _ _ => by rintro ⟨⟩)

theorem noted_of_run (opens : crypto.OpensSealed) {address : SocketAddr} {deviceX25519Priv : Key}
    {peerKeys : HashMap SocketAddr (VerifyingKey crypto)} {last : Receipts crypto noise}
    (run : Relation.ReflTransGen Step (start (.bind address deviceX25519Priv peerKeys)) last) :
    last.Noted := by
  refine Run.preserves ?_ (noted_start address deviceX25519Priv peerKeys) run
  exact fun _ _ noted step => noted.step opens step

/-! ### Once -/

/-- Whatever is forwarded under one sender and one key is forwarded a minute apart. -/
def Spaced (receipts : Receipts crypto noise) : Prop :=
  receipts.arrivals.Pairwise fun first second =>
    first.forwarded ≠ [] → second.forwarded ≠ [] → first.keys = second.keys →
      first.time + Runtime.receivedTtl ≤ second.time

/-- Of the packets that were sent, the first that opens brings the message, and no other brings
anything. -/
def DeliversOnce (receipts : Receipts crypto noise) (sent : List (Packet × SocketAddr))
    (message : Message × Key) : Prop :=
  ∀ before arrival after, receipts.arrivals = before ++ arrival :: after → arrival.Bears sent →
    (arrival.opened ≠ none → (∀ earlier ∈ before, earlier.Bears sent → earlier.opened = none) →
      arrival.forwarded = [message]) ∧
    (arrival.opened = none ∨ (∃ earlier ∈ before, earlier.Bears sent ∧ earlier.opened ≠ none) →
      arrival.forwarded = [])

/-- The keys that the packets were sealed with, and those tried on what came in. -/
def keysTried (receipts : Receipts crypto noise) (sealing : Set Key) : Set Key :=
  { key | key ∈ sealing ∨ ∃ arrival ∈ receipts.arrivals, arrival.tried = some key }

/-- What is assumed of the packets that come in: what one of the keys there seals no other opens,
whatever was sealed under the random key of the message is of the message, no other body has its
name, and the packets of the message come within a minute. -/
structure Assumed (receipts : Receipts crypto noise) (sent : List (Packet × SocketAddr))
    (sealing : Set Key) (senderPk key : Key) : Prop where
  oneKey : crypto.OpensUnderOneKey (receipts.keysTried sealing)
  distinct : ∀ arrival ∈ receipts.arrivals, arrival.keys = some (senderPk, key) →
    arrival.Bears sent
  collisionFree : ∀ arrival ∈ receipts.arrivals,
    arrival.name crypto = some (Runtime.bodyName crypto (senderPk, key)) →
      arrival.keys = some (senderPk, key)
  within : ∀ first ∈ receipts.arrivals, ∀ second ∈ receipts.arrivals, first.Bears sent →
    second.Bears sent → second.time < first.time + Runtime.receivedTtl

theorem Noted.spaced {receipts : Receipts crypto noise} (noted : receipts.Noted) :
    receipts.Spaced := by
  refine Run.pairwise_of_split fun before second after split first member forwarded again same => ?_
  have named : first.name crypto = second.name crypto := by
    rw [Receipt.name, Receipt.name, same]
  by_contra close
  exact again ((noted.judged before second after split).repeated first member forwarded named
    (not_le.mp close))

/-- A packet of the message that opens, opens to the body under its sender and key. -/
theorem Noted.opened_of_bears (opens : crypto.OpensSealed) {receipts : Receipts crypto noise}
    (noted : receipts.Noted) {sealing : Set Key}
    (oneKey : crypto.OpensUnderOneKey (receipts.keysTried sealing))
    {sent : List (Packet × SocketAddr)} {senderPk : Key} {inner : Bytes}
    (wraps : ∀ item ∈ sent, Runtime.WrapsBody crypto sealing senderPk inner item)
    {arrival : Receipt} (member : arrival ∈ receipts.arrivals) (bears : arrival.Bears sent)
    (opened : arrival.opened ≠ none) : arrival.opened = some (inner, senderPk) := by
  obtain ⟨⟨found, written⟩, opened⟩ := Option.ne_none_iff_exists'.mp opened
  obtain ⟨before, after, split⟩ := List.append_of_mem member
  obtain ⟨session, last, env, received, tried⟩ :=
    (noted.judged before arrival after split).received found written opened
  obtain ⟨item, listed, original, unwrapped, same⟩ := bears
  obtain ⟨packet, addr, relayId, frameId, rfl, key, own, sealed⟩ := wraps item listed
  rw [Runtime.innerPacket_sendPacket] at unwrapped
  obtain rfl := Option.some.inj unwrapped
  obtain ⟨rfl, rfl⟩ := Session.received_of_seals opens oneKey ⟨key, Or.inl own, sealed⟩ same
    (fun key selected => Or.inr ⟨arrival, member, tried.symm.trans selected⟩) received
  exact opened

theorem Noted.deliversOnce (opens : crypto.OpensSealed) {receipts : Receipts crypto noise}
    (noted : receipts.Noted) {sent : List (Packet × SocketAddr)} {sealing : Set Key}
    {senderPk key : Key} {nonce : Nonce} {ciphertext : Bytes} {msg : Message}
    (sealed : crypto.aeadEncrypt key nonce msg.serialize = some ciphertext)
    (wraps : ∀ item ∈ sent, Runtime.WrapsBody crypto sealing senderPk
      (key.toList ++ nonce.toList ++ ciphertext) item)
    (assumed : receipts.Assumed sent sealing senderPk key) :
    receipts.DeliversOnce sent
      ({ msg with replyTo := msg.replyTo.filter (· ≠ 0) }, senderPk) := by
  have opensTo (arrival : Receipt) (member : arrival ∈ receipts.arrivals)
      (bears : arrival.Bears sent) (opened : arrival.opened ≠ none) :
      arrival.opened = some (key.toList ++ nonce.toList ++ ciphertext, senderPk) :=
    noted.opened_of_bears opens assumed.oneKey wraps member bears opened
  have nameOf (arrival : Receipt) (member : arrival ∈ receipts.arrivals)
      (bears : arrival.Bears sent) (opened : arrival.opened ≠ none) :
      arrival.name crypto = some (Runtime.bodyName crypto (senderPk, key)) :=
    name_of_opened (opensTo arrival member bears opened) (Runtime.slice_body key nonce ciphertext)
  have first (before : List Receipt) (arrival : Receipt) (after : List Receipt)
      (split : receipts.arrivals = before ++ arrival :: after) (bears : arrival.Bears sent)
      (opened : arrival.opened ≠ none)
      (none_earlier : ∀ earlier ∈ before, earlier.Bears sent → earlier.opened = none) :
      arrival.forwarded = [({ msg with replyTo := msg.replyTo.filter (· ≠ 0) }, senderPk)] := by
    have member : arrival ∈ receipts.arrivals := by
      rw [split]
      exact List.mem_append_right _ List.mem_cons_self
    refine (noted.judged before arrival after split).fresh key ciphertext senderPk msg nonce sealed
      (opensTo arrival member bears opened) fun earlier listed _ same => ?_
    have listed_all : earlier ∈ receipts.arrivals := by
      rw [split]
      exact List.mem_append_left _ listed
    rw [nameOf arrival member bears opened] at same
    have keys := assumed.collisionFree earlier listed_all same
    have closed := none_earlier earlier listed (assumed.distinct earlier listed_all keys)
    rw [Receipt.keys, closed] at keys
    cases keys
  intro before arrival after split bears
  refine ⟨first before arrival after split bears, fun later => ?_⟩
  have judged := noted.judged before arrival after split
  by_cases opened : arrival.opened = none
  · exact judged.closed opened
  obtain ⟨earlier, listed, bearsEarlier, openedEarlier⟩ := later.resolve_left opened
  -- the first packet of the message that opened was forwarded, and is remembered
  obtain ⟨front, earliest, middle, rfl, ⟨bearsEarliest, openedEarliest⟩, none⟩ :=
    Run.exists_first (fun arrival => arrival.Bears sent ∧ arrival.opened ≠ none) listed
      ⟨bearsEarlier, openedEarlier⟩
  have inFront : earliest ∈ front ++ earliest :: middle :=
    List.mem_append_right _ List.mem_cons_self
  have earliestMember : earliest ∈ receipts.arrivals := by
    rw [split]
    exact List.mem_append_left _ inFront
  have member : arrival ∈ receipts.arrivals := by
    rw [split]
    exact List.mem_append_right _ List.mem_cons_self
  have forwarded := first front earliest (middle ++ arrival :: after)
    (by rw [split, List.append_assoc, List.cons_append]) bearsEarliest openedEarliest
      fun other listed bears => by_contra fun opened => none other listed ⟨bears, opened⟩
  refine judged.repeated earliest inFront ?_ ?_
    (assumed.within earliest earliestMember arrival member bearsEarliest bears)
  · rw [forwarded]
    exact List.cons_ne_nil _ _
  · rw [nameOf earliest earliestMember bearsEarliest openedEarliest,
      nameOf arrival member bears opened]

/-- A message that is sent over any number of sessions is forwarded once, by the first of its
packets that opens; and nothing is ever forwarded twice within a minute. -/
theorem forwarded_once (crypto : Primitives) (noise : Noise) (opens : crypto.OpensSealed)
    (address : SocketAddr) (deviceX25519Priv : Key)
    (peerKeys : HashMap SocketAddr (VerifyingKey crypto)) {receipts : Receipts crypto noise}
    (run : Relation.ReflTransGen Step (start (.bind address deviceX25519Priv peerKeys)) receipts) :
    receipts.Spaced ∧
    ∀ (ourAddress : SocketAddr) (ourDeviceX25519Priv senderPk : Key)
      (ourPeerKeys : HashMap SocketAddr (VerifyingKey crypto)) (sender : Runtime crypto noise),
      Relation.ReflTransGen (Runtime.OwnStep senderPk)
          (.bind ourAddress ourDeviceX25519Priv ourPeerKeys) sender →
        ∀ (msg : Message) (peerPk key : Key) (nonce : Nonce) (draws : Nat → SendDraws),
          receipts.Assumed (sender.sendMessage msg peerPk key nonce draws).2.1
              (sender.keysToward peerPk) senderPk key →
            receipts.DeliversOnce (sender.sendMessage msg peerPk key nonce draws).2.1
              ({ msg with replyTo := msg.replyTo.filter (· ≠ 0) }, senderPk) := by
  have noted := noted_of_run opens run
  refine ⟨noted.spaced, ?_⟩
  intro ourAddress ourDeviceX25519Priv senderPk ourPeerKeys sender reached msg peerPk key nonce
    draws assumed
  have wraps := (Runtime.sendMessage_wraps (Runtime.speaksFor_of_run reached) msg peerPk key nonce
    draws).1
  cases sealed : crypto.aeadEncrypt key nonce msg.serialize with
  | none =>
    intro before arrival after split bears
    obtain ⟨item, listed, _⟩ := bears
    obtain ⟨ciphertext, some, _⟩ := wraps item listed
    rw [sealed] at some
    cases some
  | some ciphertext =>
    refine noted.deliversOnce opens sealed (fun item listed => ?_) assumed
    obtain ⟨found, same, wrapped⟩ := wraps item listed
    rw [sealed] at same
    rw [Option.some.inj same]
    exact wrapped

/-! ### A message over two sessions -/

open Insub.Runtime (sampleAddress)
open SampleSuite (keyedSuite octets)

instance (sent : List (Packet × SocketAddr)) (arrival : Receipt) : Decidable (arrival.Bears sent) :=
  decidable_of_iff (∃ item ∈ sent, ((innerPacket item.1).any fun original =>
    arrival.packet.payload.data = original.payload.data) = true) (by
      simp only [Receipt.Bears, Option.any_eq_true, decide_eq_true_eq])

/-- How a device of a user is set up. -/
def sampleSetup (master device : Nat) : List (Call keyedSuite SampleSuite.noise) :=
  let deviceEd25519Pubkey : VerifyingKey keyedSuite := ⟨octets 32 device, rfl⟩
  let deviceX25519Pubkey := keyedSuite.publicKey (octets 32 device)
  [.setMasterPubkey (octets 32 master), .setDeviceCert
    { deviceEd25519Pubkey
      deviceX25519Pubkey
      masterSignature := SampleSuite.sign (octets 32 master)
        (DeviceCertificate.signedData deviceEd25519Pubkey deviceX25519Pubkey) }]

def sampleDevice (device : Nat) (calls : List (Call keyedSuite SampleSuite.noise)) :
    Runtime keyedSuite SampleSuite.noise :=
  calls.foldl (fun runtime call => (runtime.perform call).2)
    (.bind sampleAddress (octets 32 device) ∅)

def sampleDraws (seed : Nat) : RuntimeDraws where
  handshake :=
    { ratchetSecret := octets 32 seed
      ephemeral := octets 32 (seed + 1)
      preRatchetSecret := octets 32 (seed + 2)
      now := 0 }
  packetId := 2
  frameId := 3

/-- The packets that a relay takes out of the frames. -/
def sampleInside (sent : List (Packet × SocketAddr)) : List Packet :=
  sent.filterMap fun item => innerPacket item.1

/-- The handshake packet that a call sends, as its receiver takes it in. -/
def sampleHandshake (runtime : Runtime keyedSuite SampleSuite.noise)
    (call : Call keyedSuite SampleSuite.noise) (seed : Nat) : Call keyedSuite SampleSuite.noise :=
  let packets := match (runtime.perform call).1 with
    | .ok effects => sampleInside effects.outgoing
    | .error _ => []
  .tickHandshake (packets.headD (Packet.new 0 0 (Payload.new .dummy []))) sampleAddress
    (sampleDraws seed)

/-- Device `6` of user `40` prepares two calls to device `50` of user `42`. -/
def samplePrepared : List (Call keyedSuite SampleSuite.noise) :=
  let user : UserID keyedSuite := ⟨⟨octets 32 42, rfl⟩⟩
  sampleSetup 40 6 ++
    [.writePeers ((∅ : HashMap Key SocketAddr).insert (octets 32 42) sampleAddress) ∅,
      .enableSessionInitiator (keyedSuite.publicKey (octets 32 50)) user (octets 16 1),
      .enableSessionInitiator (keyedSuite.publicKey (octets 32 50)) user (octets 16 2)]

def sampleInitiate (tag : Nat) : Call keyedSuite SampleSuite.noise :=
  .initiateHandshake (octets 16 tag) (sampleDraws (60 + 10 * tag))

/-- One of the two calls as device `50` takes it in, and its answer as device `6` does. -/
def sampleOpening (tag : Nat) : Call keyedSuite SampleSuite.noise :=
  sampleHandshake (sampleDevice 6 samplePrepared) (sampleInitiate tag) (80 + 10 * tag)

def sampleAnswer (tag : Nat) : Call keyedSuite SampleSuite.noise :=
  sampleHandshake (sampleDevice 50 (sampleSetup 42 50)) (sampleOpening tag) (100 + 10 * tag)

/-- Device `6` with two sessions. -/
def sampleSenderCalls : List (Call keyedSuite SampleSuite.noise) :=
  samplePrepared ++ [sampleInitiate 1, sampleInitiate 2, sampleAnswer 1, sampleAnswer 2]

def sampleMessage : Message where
  id := 1
  content := "hello"
  timestamp := 0
  replyTo := none

/-- What device `6` then sends, over both sessions. -/
def sampleSent : List (Packet × SocketAddr) :=
  ((sampleDevice 6 sampleSenderCalls).sendMessage sampleMessage (octets 32 42) (octets 32 7)
    (octets 12 5) fun index => ⟨octets 12 index, 10, 11⟩).2.1

/-- One of these packets comes in, after some nanoseconds. -/
def sampleIncoming (index : Nat) (now : Instant) : Call keyedSuite SampleSuite.noise :=
  .tickMessage ((sampleInside sampleSent).getD index (Packet.new 0 0 (Payload.new .dummy [])))
    sampleAddress
    { freshSecret := octets 32 130
      insertedAt := 0
      order := default
      usedAt := 0 } now

/-- Device `50` answers both calls, and gets the second packet, the first one, and the second
one again. -/
def sampleCalls : List (Call keyedSuite SampleSuite.noise) :=
  sampleSetup 42 50 ++ [sampleOpening 1, sampleOpening 2, sampleIncoming 1 0, sampleIncoming 0 1,
    sampleIncoming 1 2]

/-- The packets carry the message, and come within a minute. -/
def sampleRegular (arrival : Receipt) : Bool :=
  arrival.Bears sampleSent && arrival.time < Runtime.receivedTtl &&
    arrival.keys.all fun keys => keys = (octets 32 40, octets 32 7)

/-- The message is forwarded with the packet that comes first. -/
theorem sampleMessage_once : ∃ receipts : Receipts keyedSuite SampleSuite.noise,
    (receipts.arrivals.map fun arrival => (arrival.opened.isSome, arrival.forwarded)) =
        [(true, [(sampleMessage, octets 32 40)]), (true, []), (false, [])] ∧
      receipts.Spaced ∧
        receipts.DeliversOnce sampleSent (sampleMessage, octets 32 40) := by
  have ran : (sampleCalls.foldlM perform (start (.bind sampleAddress (octets 32 50) ∅))).any
      (fun receipts =>
        (receipts.arrivals.map fun arrival => (arrival.opened.isSome, arrival.forwarded)) =
          [(true, [(sampleMessage, octets 32 40)]), (true, []), (false, [])] &&
        receipts.arrivals.all sampleRegular) = true := by
    decide +kernel
  obtain ⟨receipts, performed, checked⟩ := (Option.any_eq_true _ _).mp ran
  obtain ⟨forwarded, regular⟩ := Bool.and_eq_true_iff.mp checked
  have bears (arrival : Receipt) (member : arrival ∈ receipts.arrivals) :
      (arrival.Bears sampleSent ∧ arrival.time < Runtime.receivedTtl) ∧
        (arrival.keys.all fun keys => keys = (octets 32 40, octets 32 7)) = true := by
    have checked := List.all_eq_true.mp regular arrival member
    rwa [sampleRegular, Bool.and_eq_true_iff, Bool.and_eq_true_iff, decide_eq_true_iff,
      decide_eq_true_iff] at checked
  have run : Relation.ReflTransGen Step (start (.bind sampleAddress (octets 32 50) ∅)) receipts :=
    Run.of_foldlM (fun _ _ call _ step => ⟨call, step⟩) performed
  have reached : Relation.ReflTransGen (Runtime.OwnStep (octets 32 40))
      (.bind sampleAddress (octets 32 6) ∅) (sampleDevice 6 sampleSenderCalls) := by
    have names : ∀ call ∈ sampleSenderCalls, Runtime.NamesOnly (octets 32 40) call := by
      simp only [sampleSenderCalls, samplePrepared, sampleSetup, List.cons_append,
        List.nil_append, List.forall_mem_cons, List.not_mem_nil, false_implies, implies_true]
      exact ⟨rfl, trivial, trivial, trivial, trivial, trivial, trivial, trivial, trivial, trivial⟩
    exact Run.of_foldl (fun _ call member => ⟨call, names call member, rfl⟩) _
  have assumed : receipts.Assumed sampleSent
      ((sampleDevice 6 sampleSenderCalls).keysToward (octets 32 42)) (octets 32 40)
        (octets 32 7) := by
    refine ⟨SampleSuite.keyed_opensUnderOneKey _, fun arrival member _ => (bears arrival member).1.1, ?_, ?_⟩
    · intro arrival member named
      obtain ⟨keys, found, _⟩ := Option.map_eq_some_iff.mp named
      have only := (bears arrival member).2
      rw [found, Option.all_some, decide_eq_true_iff] at only
      rw [found, only]
    · intro first _ second member _ _
      exact (bears second member).1.2.trans_le (Nat.le_add_left _ _)
  obtain ⟨spaced, once⟩ := forwarded_once keyedSuite SampleSuite.noise SampleSuite.keyed_opensSealed
    sampleAddress (octets 32 50) ∅ run
  exact ⟨receipts, of_decide_eq_true forwarded, spaced, once sampleAddress (octets 32 6)
    (octets 32 40) ∅ _ reached sampleMessage (octets 32 42) (octets 32 7) (octets 12 5)
      (fun index => ⟨octets 12 index, 10, 11⟩) assumed⟩

end Receipts

end Insub
