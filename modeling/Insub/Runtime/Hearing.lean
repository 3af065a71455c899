/-
This file proves what happens when a client takes the next packet that is under way to it. If it is
the call, the client answers; if it is the answer, the client enters its session; if it is a note,
its session opens it, and the client hears what the other one said first of all it has not heard yet.
Whichever it is, the two get one stage further or stay at the last one.
-/

import Mathlib
import Insub.Runtime.Chat

namespace Insub

open Rust

variable {crypto : Primitives} {noise : Noise}

namespace ChatView

variable {pair : Pair crypto} {view : ChatView crypto noise} {connId : ConnectionId}
  {sender : Party} {packets : List (Packet × Bytes)}

theorem Carries.silent (said : view.said sender = []) (heard : view.heard sender.other = [])
    (keys : (view.calls sender.other).receivedKeys = ∅) :
    view.Carries pair connId sender [] := by
  refine ⟨[], [], said, heard, .nil, fun name member => ?_⟩
  rw [keys] at member
  exact absurd member (AList.notMem_empty name)

/-- Nothing is heard of a side that handles a packet with no message in it. -/
theorem Carries.hearing (carries : view.Carries pair connId sender packets) {receiver : Party}
    {calls : Runtime crypto noise} {effects : Effects} (silent : effects.messages = [])
    (keys : calls.receivedKeys = (view.calls receiver).receivedKeys) :
    (view.hearing receiver calls effects).Carries pair connId sender packets := by
  obtain ⟨read, unread, split, reported, underway, remembered⟩ := carries
  refine ⟨read, unread, split, ?_, underway, ?_⟩
  · rw [← reported, ChatView.hearing, silent, List.map_nil, List.append_nil,
      Function.update_eq_self]
  · rcases sender.other.eq_or_eq_other receiver with same | same
    · simp only [ChatView.hearing, same, Function.update_self, keys]
      exact same ▸ remembered
    · simp only [ChatView.hearing, same, Function.update_of_ne receiver.other_ne]
      exact same ▸ remembered

/-- What is under way to a side that hears something is not what it says itself. -/
theorem Carries.hearing_other (carries : view.Carries pair connId sender packets)
    (calls : Runtime crypto noise) (effects : Effects) :
    (view.hearing sender calls effects).Carries pair connId sender packets := by
  obtain ⟨read, unread, split, reported, underway, remembered⟩ := carries
  refine ⟨read, unread, split, ?_, underway, ?_⟩
  · exact (Function.update_of_ne sender.other_ne _ _).trans reported
  · simp only [ChatView.hearing, Function.update_of_ne sender.other_ne]
    exact remembered

/-- The first packet under way brings a note that the receiver does not remember. Once it is heard,
the others are under way. -/
theorem Carries.front {sent : Packet × Bytes}
    (carries : view.Carries pair connId sender (sent :: packets))
    (distinct : ((view.said sender).map (Note.name crypto (pair.masterPk sender))).Nodup) :
    ∃ note : Note, note.Rides crypto connId sent ∧
      note.name crypto (pair.masterPk sender) ∉ (view.calls sender.other).receivedKeys ∧
        ∀ (calls : Runtime crypto noise) (effects : Effects),
          (∀ name ∈ calls.receivedKeys, name ∈ (view.calls sender.other).receivedKeys ∨
            name = note.name crypto (pair.masterPk sender)) →
          (effects.messages.map fun item => (item.2, item.1.content)) =
            [Chat.report (pair.masterPk sender) note] →
          (view.hearing sender.other calls effects).Carries pair connId sender packets := by
  obtain ⟨read, unread, split, reported, underway, remembered⟩ := carries
  obtain ⟨note, others, rides, later, rfl⟩ := List.forall₂_cons_left_iff.mp underway
  rw [split, List.map_append, List.map_cons] at distinct
  refine ⟨note, rides, fun member => ?_, fun calls effects keys brings => ?_⟩
  · obtain ⟨earlier, heard, same⟩ := remembered _ member
    have again : note.name crypto (pair.masterPk sender) ∈
        read.map (Note.name crypto (pair.masterPk sender)) :=
      same ▸ List.mem_map_of_mem heard
    exact List.disjoint_of_nodup_append distinct again List.mem_cons_self
  · refine ⟨read ++ [note], others, ?_, ?_, later, ?_⟩
    · rw [ChatView.hearing, split, List.append_assoc]
      rfl
    · simp only [ChatView.hearing, Function.update_self]
      rw [reported, brings, List.map_append]
      rfl
    · simp only [ChatView.hearing, Function.update_self]
      intro name member
      rcases keys name member with known | rfl
      · obtain ⟨earlier, heard, same⟩ := remembered name known
        exact ⟨earlier, List.mem_append_left _ heard, same⟩
      · exact ⟨note, List.mem_append_right _ (List.mem_singleton_self _), rfl⟩

end ChatView

namespace Runtime

variable {runtime : Runtime crypto noise} {session : Session crypto noise} {connId : ConnectionId}
  {peerPk : Key} {addr : SocketAddr}

/-- A runtime that knows of no session has one when it has answered a call. -/
theorem Blank.talks_answering (blank : runtime.Blank) (sender : SocketAddr) (tag : HandshakeTag) :
    (runtime.answering session connId peerPk addr sender tag).Talks connId peerPk addr session := by
  obtain ⟨peerKeys, frame⟩ := runtime.answering_frame session connId peerPk addr sender tag
  rw [frame, blank.pkToConn, blank.sessions]
  refine ⟨AList.lookup_insert _, fun other differs => AList.lookup_insert_ne differs, fun other => ?_,
    AList.lookup_insert _, AList.lookup_insert _⟩
  rw [blank.pendingSessions]
  rfl

/-- And so has one whose own call was answered. -/
theorem talks_completing {pair : Pair crypto} {tag : HandshakeTag} {called : Session crypto noise}
    (waits : pair.Waits runtime tag called) (sender : SocketAddr) :
    (runtime.completing session connId (pair.masterPk .responder) sender tag).Talks connId
      (pair.masterPk .responder) (pair.address .responder) session := by
  obtain ⟨peerKeys, frame⟩ :=
    runtime.completing_frame session connId (pair.masterPk .responder) sender tag
  rw [frame, waits.pkToConn, waits.sessions]
  refine ⟨AList.lookup_insert _, fun other differs => AList.lookup_insert_ne differs, fun other => ?_,
    AList.lookup_insert _, waits.addr⟩
  by_cases same : other = tag
  · exact same ▸ AList.lookup_erase tag _
  · rw [AList.lookup_erase_ne same, AList.lookup_insert_ne same]
    exact waits.sole other same

end Runtime

namespace Pair.Standing

variable {pair : Pair crypto} {party : Party} {runtime : Runtime crypto noise}

theorem answering (standing : pair.Standing party runtime) (session : Session crypto noise)
    (connId : ConnectionId) (peerPk : Key) (addr sender : SocketAddr) (tag : HandshakeTag) :
    pair.Standing party (runtime.answering session connId peerPk addr sender tag) := by
  obtain ⟨peerKeys, frame⟩ := runtime.answering_frame session connId peerPk addr sender tag
  rw [frame]
  exact ⟨standing.address, standing.devicePriv, standing.masterPubkey, standing.deviceCert⟩

theorem completing (standing : pair.Standing party runtime) (session : Session crypto noise)
    (connId : ConnectionId) (peerPk : Key) (sender : SocketAddr) (tag : HandshakeTag) :
    pair.Standing party (runtime.completing session connId peerPk sender tag) := by
  obtain ⟨peerKeys, frame⟩ :=
    runtime.completing_frame session connId peerPk sender tag
  rw [frame]
  exact ⟨standing.address, standing.devicePriv, standing.masterPubkey, standing.deviceCert⟩

end Pair.Standing

/-- A side handles the first packet that is under way to it, and replies with some packets. -/
structure Stage.Handles (pair : Pair crypto) (view : ChatView crypto noise)
    (inner : Party → List Packet) (receiver : Party) (packet : Packet) (rest : List Packet)
    (sender : SocketAddr) (draws : TickDraws) (effects : Effects) (calls : Runtime crypto noise)
    (replies : List Packet) : Prop where
  tagged : packet.payload.tag = .handshake ∨ packet.payload.tag = .message
  handled : (view.calls receiver).handle packet sender draws = (.ok effects, calls)
  outgoing : effects.outgoing = replies.map fun reply => Runtime.sendPacket reply
    (pair.address receiver.other) (deriveId crypto (pair.masterPk receiver.other))
      draws.handshake.frameId
  few : replies.length ≤ 1
  last : receiver = .initiator → replies = []
  brief : noise.WritesWithin → ∀ reply ∈ replies, reply.payload.data.length ≤ messageCapacity
  standing : pair.Standing receiver calls
  stage : Stage pair (view.hearing receiver calls effects)
    (Function.update (Function.update inner receiver.other rest) receiver
      (inner receiver ++ replies))

namespace Stage

variable {pair : Pair crypto} {view : ChatView crypto noise} {inner : Party → List Packet}

/-- The responder answers the call. -/
theorem answers (commutes : crypto.DiffieHellmanCommutes)
    (delivers : noise.DeliversUnaltered crypto) (varied : crypto.Varied) {tag : HandshakeTag}
    {calling : HandshakeDraws} {called : Session crypto noise} {message : Bytes} {packetId : U128}
    (calls : pair.Calls calling called message) (waits : pair.Waits (view.calls .initiator) tag called)
    (blank : (view.calls .responder).Blank) (standing : pair.Standing .responder (view.calls .responder))
    (silent : inner .responder = []) (said : ∀ party, view.said party = [])
    (heard : ∀ party, view.heard party = []) (met : ∀ party, view.met party = [])
    (sender : SocketAddr) (draws : TickDraws) :
    ∃ effects after replies, Handles pair view inner .responder (.ofHandshake tag message packetId) []
      sender draws effects after replies := by
  obtain ⟨response, responder, answers⟩ :=
    calls.exists_answers commutes delivers varied draws.handshake.handshake
  obtain ⟨fresh, accepted, spawned, accepts, replies, claims, placed⟩ := answers.replies
  have introduces := answers.completes
  obtain ⟨secret, differs⟩ := varied (crypto.publicKey calling.ratchetSecret)
  obtain ⟨_, _, _, introduced⟩ :=
    introduces { calling with preRatchetSecret := secret } differs
  obtain ⟨connId, _, named⟩ := introduced.connectionId
  obtain ⟨number, _, numbered⟩ := introduced.safetyNumber_eq (pair.masterPk .responder)
  have spawns : (view.calls .responder).spawnResponder = .ok fresh := by
    rw [Runtime.spawnResponder, standing.devicePriv, standing.masterPubkey, standing.deviceCert]
    exact spawned
  have uncalled : (view.calls .responder).pendingSessions.lookup tag = none := by
    rw [blank.pendingSessions]
    rfl
  have unseen : tag ∉ (view.calls .responder).seenTags := by
    rw [blank.seenTags]
    exact Finset.notMem_empty tag
  have handled := Runtime.tickHandshake_answers (Packet.ofHandshake tag message packetId)
    draws.handshake uncalled unseen spawns accepts replies named claims placed
      standing.masterPubkey numbered sender
  have brief (within : noise.WritesWithin) : ∀ reply ∈
      [Packet.ofHandshake tag response draws.handshake.packetId],
        reply.payload.data.length ≤ messageCapacity := by
    intro reply member
    rw [List.mem_singleton.mp member]
    exact Session.length_replyHandshake within replies
  refine ⟨_, _, [.ofHandshake tag response draws.handshake.packetId], Or.inl rfl, handled, rfl,
    le_rfl, fun same => absurd same (Party.other_ne .initiator), brief, standing.answering responder connId _ _ sender tag,
    @Stage.answered _ _ _ _ _ tag calling called responder message response
      draws.handshake.packetId connId number [] calls waits ?_ ?_ named ?_ ?_ ?_ ?_⟩
  · intro completing differs
    obtain ⟨initiator, completes, initiatorSpeaks, introduced⟩ := introduces completing differs
    obtain ⟨sameId, initiatorNamed, responderNamed⟩ := introduced.connectionId
    obtain ⟨sameNumber, shown, again⟩ := introduced.safetyNumber_eq (pair.masterPk .responder)
    obtain rfl := Option.some.inj (responderNamed.symm.trans named)
    obtain rfl := Option.some.inj (again.symm.trans numbered)
    refine ⟨initiator, completes, initiatorNamed, shown, ?_⟩
    rw [Conversation.between_nil]
    exact Conversation.understood_start commutes introduced initiatorSpeaks answers.speaks
  · exact blank.talks_answering sender tag
  · rfl
  · rw [Function.update_self, silent]
    rfl
  · intro party
    have nothing : (Conversation.between responder responder []).underway party = [] := by
      cases party <;> rfl
    rw [nothing]
    refine (ChatView.Carries.silent (said party) (heard party.other) ?_).hearing rfl ?_
    · cases party with
      | initiator => exact blank.receivedKeys
      | responder => exact waits.receivedKeys
    · obtain ⟨peerKeys, frame⟩ := (view.calls .responder).answering_frame responder connId
        (pair.masterPk .initiator) pair.addr sender tag
      exact (congrArg Runtime.receivedKeys frame).trans rfl
  · exact ⟨met .initiator, congrArg (· ++ _) (met .responder)⟩

/-- The initiator enters its session, and has heard nothing yet. -/
theorem completes {tag : HandshakeTag} {calling : HandshakeDraws}
    {called session : Session crypto noise} {message response : Bytes} {packetId : U128}
    {connId : ConnectionId} {number : Key} {packets : List (Packet × Bytes)}
    (calls : pair.Calls calling called message)
    (waits : pair.Waits (view.calls .initiator) tag called)
    (finishes : ∀ completing : HandshakeDraws,
      crypto.publicKey completing.preRatchetSecret ≠ crypto.publicKey calling.ratchetSecret →
        ∃ initiator, called.completeHandshake response completing = (.ok (), initiator) ∧
          initiator.connectionId = some connId ∧
            initiator.safetyNumber (pair.masterPk .initiator) (pair.masterPk .responder) =
              some number ∧
              Conversation.Understood pair.masterPk
                (Conversation.between initiator session packets))
    (talks : (view.calls .responder).Talks connId (pair.masterPk .initiator)
      (pair.address .initiator) session)
    (named : session.connectionId = some connId) (silent : inner .initiator = [])
    (carries : ∀ party, view.Carries pair connId party
      ((Conversation.between session session packets).underway party))
    (met : view.met .initiator = [] ∧ view.met .responder = [(pair.masterPk .initiator, number)])
    (standing : pair.Standing .initiator (view.calls .initiator)) {draws : TickDraws}
    (fresh : (view.calls .initiator).Draws draws) (sender : SocketAddr) :
    ∃ effects after replies, Handles pair view inner .initiator
      (.ofHandshake tag response packetId) (packets.map Prod.fst) sender draws effects after
        replies := by
  obtain ⟨_, _, wrote⟩ := calls.written
  obtain ⟨initiates, drew⟩ := Session.initiateHandshake_waits wrote
  obtain ⟨initiator, completes, initiatorNamed, shown, understood⟩ :=
    finishes draws.handshake.handshake (fresh.pending tag called _ _ waits.pending drew)
  have handled := Runtime.tickHandshake_completes
    (Packet.ofHandshake tag response packetId) draws.handshake waits.pending
      initiates completes initiatorNamed standing.masterPubkey shown sender
  refine ⟨_, _, [], Or.inl rfl, handled, rfl, zero_le_one, fun _ => rfl,
    fun _ reply member => absurd member List.not_mem_nil, standing.completing initiator connId _ sender tag,
    @Stage.talking _ _ _ _ _ connId number (Conversation.between initiator session packets)
      understood ?_ ?_ ?_ ?_ ?_⟩
  · rintro (_ | _)
    · exact Runtime.talks_completing waits sender
    · exact talks
  · rintro (_ | _)
    · exact initiatorNamed
    · exact named
  · rintro (_ | _)
    · rw [Function.update_self, silent]
      rfl
    · rfl
  · intro party
    have same : (Conversation.between initiator session packets).underway party =
        (Conversation.between session session packets).underway party := by
      cases party <;> rfl
    rw [same]
    refine (carries party).hearing rfl ?_
    obtain ⟨peerKeys, frame⟩ := (view.calls .initiator).completing_frame initiator
      connId (pair.masterPk .responder) sender tag
    exact (congrArg Runtime.receivedKeys frame).trans rfl
  · rintro (_ | _)
    · exact congrArg (· ++ _) met.1
    · exact met.2

/-- A side receives the first packet that is under way to it, and hears the note in it. -/
theorem receives (commutes : crypto.DiffieHellmanCommutes) (opens : crypto.OpensSealed)
    {connId : ConnectionId} {number : Key} {conversation : Conversation crypto noise}
    (understood : Conversation.Understood pair.masterPk conversation)
    (talks : ∀ party, (view.calls party).Talks connId (pair.masterPk party.other)
      (pair.address party.other) (conversation.session party))
    (named : ∀ party, (conversation.session party).connectionId = some connId)
    (packets : ∀ party, inner party = (conversation.underway party).map Prod.fst)
    (carries : ∀ party, view.Carries pair connId party (conversation.underway party))
    (met : ∀ party, view.met party = [(pair.masterPk party.other, number)]) {receiver : Party}
    (standing : pair.Standing receiver (view.calls receiver)) {packet : Packet}
    {rest : List Packet} (first : inner receiver.other = packet :: rest) {draws : TickDraws}
    (fresh : (view.calls receiver).Draws draws)
    (distinct : ((view.said receiver.other).map
      (Note.name crypto (pair.masterPk receiver.other))).Nodup) (sender : SocketAddr) :
    ∃ effects after replies,
      Handles pair view inner receiver packet rest sender draws effects after replies := by
  rw [packets, List.map_eq_cons_iff] at first
  obtain ⟨⟨packet, body⟩, others, front, rfl, rfl⟩ := first
  have carried := carries receiver.other
  rw [front] at carried
  obtain ⟨note, rides, unheard, goesOn⟩ := carried.front distinct
  rw [Party.other_other] at unheard goesOn
  have own := talks receiver
  obtain ⟨tagged, next, received, understood⟩ := understood.receive commutes opens front
    (fresh.sessions connId _ own.session)
  have travels : packet.payload.connectionId = connId := rides.connectionId
  rw [← travels] at own
  obtain ⟨receivedKeys, keys, handled⟩ :=
    own.tickMessage opens rides.fills received unheard sender draws.now
  rw [travels] at handled own
  have still : next.connectionId = some connId := by
    obtain ⟨ratchet, frame⟩ := (conversation.session receiver).receive_frame packet draws.env
    rw [received] at frame
    rw [show next = { conversation.session receiver with ratchet } from frame]
    exact named receiver
  obtain ⟨ours, theirs⟩ := conversation.received_underway receiver next others
  refine ⟨_, _, [], Or.inr tagged, (Runtime.handle_message tagged _ sender draws).trans handled,
    rfl, zero_le_one, fun _ => rfl, fun _ reply member => absurd member List.not_mem_nil,
    ⟨standing.address, standing.devicePriv, standing.masterPubkey, standing.deviceCert⟩,
    @Stage.talking _ _ _ _ _ connId number _ understood ?_ ?_ ?_ ?_ ?_⟩
  · exact Conversation.forall_update (fun party (runtime : Runtime crypto noise) session =>
      runtime.Talks connId (pair.masterPk party.other) (pair.address party.other) session) talks
        (own.insert next receivedKeys)
  · exact (Function.forall_update_iff conversation.session
      (p := fun _ (session : Session crypto noise) => session.connectionId = some connId)).mpr
        ⟨still, fun party _ => named party⟩
  · intro party
    rw [List.append_nil]
    rcases party.eq_or_eq_other receiver with rfl | rfl
    · rw [Function.update_self, packets, ours]
    · rw [Function.update_of_ne receiver.other_ne, Function.update_self, theirs]
  · intro party
    rcases party.eq_or_eq_other receiver with rfl | rfl
    · rw [ours]
      exact (carries party).hearing_other _ _
    · rw [theirs]
      exact goesOn _ _ keys rfl
  · intro party
    simp only [ChatView.hearing, Effects.none, List.append_nil, Function.update_eq_self]
    exact met party

/-- Whatever comes first is handled. -/
theorem handle (commutes : crypto.DiffieHellmanCommutes) (opens : crypto.OpensSealed)
    (delivers : noise.DeliversUnaltered crypto) (varied : crypto.Varied)
    (stage : Stage pair view inner) {receiver : Party}
    (standing : pair.Standing receiver (view.calls receiver)) {packet : Packet}
    {rest : List Packet} (first : inner receiver.other = packet :: rest) {draws : TickDraws}
    (fresh : (view.calls receiver).Draws draws)
    (distinct : ((view.said receiver.other).map
      (Note.name crypto (pair.masterPk receiver.other))).Nodup) (sender : SocketAddr) :
    ∃ effects after replies,
      Handles pair view inner receiver packet rest sender draws effects after replies := by
  cases stage with
  | apart blank silent =>
    rw [silent] at first
    cases first
  | calling calls waits blank call silent said heard met =>
    cases receiver with
    | initiator =>
      rw [show inner (Party.other .initiator) = [] from silent] at first
      cases first
    | responder =>
      obtain ⟨rfl, rfl⟩ := List.cons.inj (first.symm.trans call)
      exact answers commutes delivers varied calls waits blank standing silent said heard met
        sender draws
  | answered calls waits finishes talks named silent reply carries met =>
    cases receiver with
    | initiator =>
      obtain ⟨rfl, rfl⟩ := List.cons.inj (first.symm.trans reply)
      exact completes calls waits finishes talks named silent carries met standing fresh sender
    | responder =>
      rw [show inner (Party.other .responder) = [] from silent] at first
      cases first
  | talking understood talks named packets carries met =>
    exact receives commutes opens understood talks named packets carries met standing first fresh
      distinct sender

/-! ### What was heard -/

/-- A side has heard a first part of what the other one said. -/
theorem heard_prefix (stage : Stage pair view inner) (party : Party) :
    view.heard party <+:
      (view.said party.other).map (Chat.report (pair.masterPk party.other)) := by
  have carried {connId : ConnectionId} {packets : List (Packet × Bytes)}
      (carries : view.Carries pair connId party.other packets) : view.heard party <+:
        (view.said party.other).map (Chat.report (pair.masterPk party.other)) := by
    obtain ⟨read, unread, split, reported, _, _⟩ := carries
    rw [Party.other_other] at reported
    rw [split, reported, List.map_append]
    exact List.prefix_append _ _
  cases stage with
  | apart blank silent said heard =>
    rw [heard]
    exact List.nil_prefix
  | calling calls waits blank call silent said heard =>
    rw [heard]
    exact List.nil_prefix
  | answered calls waits finishes talks named silent reply carries =>
    exact carried (carries party.other)
  | talking understood talks named packets carries => exact carried (carries party.other)

/-- It has heard all of it when nothing is under way. -/
theorem heard_all (stage : Stage pair view inner) (none : ∀ party, inner party = [])
    (party : Party) :
    view.heard party = (view.said party.other).map (Chat.report (pair.masterPk party.other)) := by
  cases stage with
  | apart blank silent said heard =>
    rw [heard, said]
    rfl
  | calling calls waits blank call =>
    rw [none] at call
    cases call
  | answered calls waits finishes talks named silent reply =>
    rw [none] at reply
    cases reply
  | talking understood talks named packets carries =>
    obtain ⟨read, unread, split, reported, underway, _⟩ := carries party.other
    have empty := packets party.other
    rw [none] at empty
    rw [List.map_eq_nil_iff.mp empty.symm] at underway
    cases underway
    rw [Party.other_other] at reported
    rw [split, reported, List.append_nil]

/-- Both sides have met each other only, with one number. -/
theorem met_prefix (stage : Stage pair view inner) :
    ∃ number, ∀ party, view.met party <+: [(pair.masterPk party.other, number)] := by
  cases stage with
  | apart blank silent said heard met =>
    refine ⟨Octets.zero 32, fun party => ?_⟩
    rw [met]
    exact List.nil_prefix
  | calling calls waits blank call silent said heard met =>
    refine ⟨Octets.zero 32, fun party => ?_⟩
    rw [met]
    exact List.nil_prefix
  | @answered _ _ _ _ _ _ _ _ number _ calls waits finishes talks named silent reply carries met =>
    refine ⟨number, fun party => ?_⟩
    cases party with
    | initiator =>
      rw [met.1]
      exact List.nil_prefix
    | responder => exact met.2 ▸ List.prefix_rfl
  | @talking _ number _ understood talks named packets carries met =>
    exact ⟨number, fun party => met party ▸ List.prefix_rfl⟩

end Stage

end Insub
