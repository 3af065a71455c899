/-
This file puts two clients together. One looks the other up and calls it; from then on both say
something whenever they like. Each hands its packets to the network in frames, the network cuts a
frame into datagrams and delivers these in any order, one frame after the other, and the runtimes
tick whenever they do. Packets of the hash table come and go all the while.

What a client is told in the end is what the other one said, in that order and once, and by nobody
else.
-/

import Mathlib
import Insub.Runtime.Addresses
import Insub.Runtime.Delivery
import Insub.Transport.Hop

namespace Insub

open Rust

variable {crypto : Primitives} {noise : Noise}

/-! ### Two clients -/

/-- Two devices that meet, with the addresses, the nodes and the registries of their clients. -/
structure Pair (crypto : Primitives) extends Meeting crypto where
  responderAddr : SocketAddr
  nodeId : Party → NodeID
  registry : Party → RelayRegistry

namespace Pair

def address (pair : Pair crypto) : Party → SocketAddr
  | .initiator => pair.addr
  | .responder => pair.responderAddr

def devicePriv (pair : Pair crypto) : Party → Key
  | .initiator => pair.initiatorPriv
  | .responder => pair.responderPriv

def deviceCert (pair : Pair crypto) : Party → DeviceCertificate crypto
  | .initiator => pair.initiatorCert
  | .responder => pair.responderCert

/-- The runtime of a client, as `Client::new` sets it up. -/
def opened (pair : Pair crypto) (party : Party) : Node crypto noise :=
  (((Node.bind (pair.nodeId party) (pair.address party) (pair.devicePriv party) ∅).enableServer
    |>.setMasterPubkey (pair.masterPk party)).setDeviceCert (pair.deviceCert party)).enableRelay
      (pair.registry party)

end Pair

/-- The runtimes, what was said on each side, and what each client was told. -/
structure Chat (crypto : Primitives) (noise : Noise) where
  node : Party → Node crypto noise
  said : Party → List Note
  told : Party → List ClientEvent

/-- The frames that wait for an address, among all that was sent. -/
def framesTo (dest : SocketAddr) (outgoing : List (Packet × SocketAddr)) : List Packet :=
  (outgoing.filter fun item => item.1.payload.tag = .relayFrame ∧ item.2 = dest).map Prod.fst

/-- The secrets that a tick draws are not those of the sessions. -/
structure Runtime.Draws (runtime : Runtime crypto noise) (draws : TickDraws) : Prop where
  sessions : ∀ connId session, runtime.sessions.lookup connId = some session →
    Conversation.Draws session draws.env
  pending : ∀ tag session peerPkOpt secret,
    runtime.pendingSessions.lookup tag = some (session, peerPkOpt) →
      session.ourRatchetDhPriv = some secret →
        crypto.publicKey draws.handshake.handshake.preRatchetSecret ≠ crypto.publicKey secret

/-- The same, as a test over the tables. -/
def Runtime.drawsFresh (runtime : Runtime crypto noise) (draws : TickDraws) : Bool :=
  (runtime.sessions.entries.all fun entry => entry.2.ratchet.all fun ratchet =>
    crypto.publicKey draws.env.freshSecret ≠ crypto.publicKey ratchet.ourDhPriv) &&
  runtime.pendingSessions.entries.all fun entry => entry.2.1.ourRatchetDhPriv.all fun secret =>
    crypto.publicKey draws.handshake.handshake.preRatchetSecret ≠ crypto.publicKey secret

theorem Runtime.draws_of_fresh {runtime : Runtime crypto noise} {draws : TickDraws}
    (fresh : runtime.drawsFresh draws = true) : runtime.Draws draws := by
  rw [drawsFresh, Bool.and_eq_true_iff, List.all_eq_true, List.all_eq_true] at fresh
  obtain ⟨sessions, pending⟩ := fresh
  constructor
  · intro connId session found ratchet held
    have drawn := sessions _ (HashMap.lookup_eq_some_iff.mp found)
    dsimp only at drawn
    rw [held, Option.all_some] at drawn
    exact of_decide_eq_true drawn
  · intro tag session peerPkOpt secret found held
    have drawn := pending _ (HashMap.lookup_eq_some_iff.mp found)
    dsimp only at drawn
    rw [held, Option.all_some] at drawn
    exact of_decide_eq_true drawn

namespace Chat

def start (pair : Pair crypto) : Chat crypto noise where
  node := pair.opened
  said _ := []
  told _ := []

def move (chat : Chat crypto noise) (party : Party) (node : Node crypto noise) :
    Chat crypto noise :=
  { chat with node := Function.update chat.node party node }

/-- Packets have left one side and arrived at the other, so that this is what still waits. -/
def handOver (chat : Chat crypto noise) (receiver : Party) (outgoing : List (Packet × SocketAddr))
    (arrived : List Packet) (source : SocketAddr) : Chat crypto noise :=
  (chat.move receiver.other { chat.node receiver.other with
    channels := { (chat.node receiver.other).channels with outgoing } }).move receiver
      (arrived.foldl (fun node packet => node.arrive packet source) (chat.node receiver))

/-- A client was told what there was to be told. -/
def polled (chat : Chat crypto noise) (party : Party) : Chat crypto noise :=
  { chat.move party (chat.node party).poll.2 with
    told := Function.update chat.told party (chat.told party ++ (chat.node party).poll.1) }

/-- What happens next. The network delivers the frames to an address in the order in which they were
sent; the datagrams of one come in any order, to a receiver that holds nothing of it. -/
inductive Step (pair : Pair crypto) : Chat crypto noise → Chat crypto noise → Prop
  | contact (chat : Chat crypto noise) (record : ContactRecord crypto) (tag : HandshakeTag)
      (draws : RuntimeDraws) (first : (chat.node .initiator).calls.pendingSessions = ∅)
      (alone : (chat.node .initiator).calls.sessions = ∅)
      (listed : record.deviceList.devices = [pair.responderCert])
      (placed : record.relayAddr = pair.responderAddr) :
      Step pair chat (chat.move .initiator ((chat.node .initiator).contact
        (pair.masterPk .responder) record fun _ => (tag, draws)).2)
  | say (chat : Chat crypto noise) (speaker : Party) (note : Note) (nonce : Nonce)
      (draws : Nat → SendDraws)
      (sent : ((chat.node speaker).sendMessage note.message (pair.masterPk speaker.other) note.key
        nonce draws).1 = .ok ())
      (fresh : ∀ earlier ∈ chat.said speaker,
        note.name crypto (pair.masterPk speaker) ≠ earlier.name crypto (pair.masterPk speaker)) :
      Step pair chat { chat.move speaker ((chat.node speaker).sendMessage note.message
          (pair.masterPk speaker.other) note.key nonce draws).2 with
        said := Function.update chat.said speaker (chat.said speaker ++ [note]) }
  | arrive (chat : Chat crypto noise) (receiver : Party) (before after : List (Packet × SocketAddr))
      (outer : Packet) (source : SocketAddr)
      (waits : (chat.node receiver.other).channels.outgoing =
        before ++ (outer, pair.address receiver) :: after)
      (framed : outer.payload.tag = .relayFrame)
      (first : framesTo (pair.address receiver) before = [])
      (identified : outer.header.id ≠ 0) (few : outer.serialize.length ≤ 255 * maxChunk)
      (ids : Nat → U128) (fragments : List Packet) (cut : outer.split ids = .ok fragments)
      (reassembler : Reassembler)
      (free : reassembler.pending.lookup (outer.header.id, source) = none)
      (arrivals : List (Packet × Instant))
      (order : (arrivals.map Prod.fst).Perm (fragments.map Packet.requireAck))
      (arrived : List Packet) (joined : (reassembler.feeds source arrivals).1 = .ok arrived) :
      Step pair chat (chat.handOver receiver (before ++ after) arrived source)
  | depart (chat : Chat crypto noise) (party : Party) (before after : List (Packet × SocketAddr))
      (packet : Packet) (dest : SocketAddr)
      (waits : (chat.node party).channels.outgoing = before ++ (packet, dest) :: after)
      (operation : packet.payload.tag = .dhtOperation) :
      Step pair chat (chat.move party { chat.node party with
        channels := { (chat.node party).channels with outgoing := before ++ after } })
  | hear (chat : Chat crypto noise) (party : Party) (packet : Packet) (source : SocketAddr)
      (operation : packet.payload.tag = .dhtOperation)
      (whole : ¬ DhtOperation.LacksLength packet.payload.data) :
      Step pair chat (chat.move party ((chat.node party).arrive packet source))
  | tick (chat : Chat crypto noise) (party : Party) (draws : TickDraws)
      (fresh : (chat.node party).calls.Draws draws) :
      Step pair chat (chat.move party ((chat.node party).tick draws).2)
  | poll (chat : Chat crypto noise) (party : Party) :
      Step pair chat (chat.polled party)

/-- A step, with what a client is called with and what it draws. Frames arrive with their datagrams
in the reverse order. -/
inductive Move (crypto : Primitives)
  | contact (record : ContactRecord crypto) (tag : HandshakeTag) (draws : RuntimeDraws)
  | say (speaker : Party) (note : Note) (nonce : Nonce) (draws : SendDraws)
  | arrive (receiver : Party)
  | tick (party : Party) (draws : TickDraws)
  | poll (party : Party)

def perform (pair : Pair crypto) (chat : Chat crypto noise) :
    Move crypto → Option (Chat crypto noise)
  | .contact record tag draws =>
    if (chat.node .initiator).calls.pendingSessions.entries = [] ∧
        (chat.node .initiator).calls.sessions.entries = [] ∧
          record.deviceList.devices = [pair.responderCert] ∧
            record.relayAddr = pair.responderAddr then
      some (chat.move .initiator ((chat.node .initiator).contact (pair.masterPk .responder) record
        fun _ => (tag, draws)).2)
    else none
  | .say speaker note nonce draws =>
    match (chat.node speaker).sendMessage note.message (pair.masterPk speaker.other) note.key nonce
      fun _ => draws with
    | (.error _, _) => none
    | (.ok (), node) =>
      if ∀ earlier ∈ chat.said speaker,
          note.name crypto (pair.masterPk speaker) ≠ earlier.name crypto (pair.masterPk speaker) then
        some { chat.move speaker node with
          said := Function.update chat.said speaker (chat.said speaker ++ [note]) }
      else none
  | .arrive receiver =>
    match (chat.node receiver.other).channels.outgoing with
    | [] => none
    | (outer, dest) :: rest =>
      if dest = pair.address receiver ∧ outer.payload.tag = .relayFrame ∧ outer.header.id ≠ 0 ∧
          outer.serialize.length ≤ 255 * maxChunk then
        match outer.split fun _ => 1 with
        | .error _ => none
        | .ok fragments =>
          match (Reassembler.new.feeds (pair.address receiver.other)
              (fragments.reverse.map fun datagram => (datagram.requireAck, 0))).1 with
          | .error _ => none
          | .ok arrived => some (chat.handOver receiver rest arrived (pair.address receiver.other))
      else none
  | .tick party draws =>
    if (chat.node party).calls.drawsFresh draws then
      some (chat.move party ((chat.node party).tick draws).2)
    else none
  | .poll party => some (chat.polled party)

theorem step_of_perform {pair : Pair crypto} {before after : Chat crypto noise} {move : Move crypto}
    (performed : perform pair before move = some after) : Step pair before after := by
  cases move with
  | contact record tag draws =>
    rw [perform] at performed
    split at performed
    · rename_i can
      rw [← Option.some.inj performed]
      exact .contact before record tag draws (AList.ext can.1) (AList.ext can.2.1) can.2.2.1
        can.2.2.2
    · cases performed
  | say speaker note nonce draws =>
    rw [perform] at performed
    rcases sent : (before.node speaker).sendMessage note.message (pair.masterPk speaker.other)
      note.key nonce fun _ => draws with ⟨fault | ⟨⟩, node⟩
    · rw [sent] at performed
      cases performed
    · rw [sent] at performed
      dsimp only at performed
      split at performed
      · rename_i fresh
        rw [← Option.some.inj performed]
        have step : Step pair before _ :=
          .say before speaker note nonce (fun _ => draws) (congrArg Prod.fst sent) fresh
        rwa [sent] at step
      · cases performed
  | arrive receiver =>
    rcases waits : (before.node receiver.other).channels.outgoing with _ | ⟨⟨outer, dest⟩, rest⟩
    all_goals rw [perform, waits] at performed
    · cases performed
    · dsimp only at performed
      split at performed
      · rename_i can
        obtain ⟨rfl, framed, identified, few⟩ := can
        rcases cut : outer.split fun _ => 1 with fault | fragments
        all_goals rw [cut] at performed
        · cases performed
        dsimp only at performed
        split at performed
        · cases performed
        rename_i arrived joined
        rw [← Option.some.inj performed]
        refine .arrive before receiver [] rest outer _ waits framed rfl identified few (fun _ => 1)
          fragments cut .new rfl _ ?_ arrived joined
        rw [List.map_map, List.map_reverse]
        exact List.reverse_perm _
      · cases performed
  | tick party draws =>
    rw [perform] at performed
    split at performed
    · rename_i fresh
      rw [← Option.some.inj performed]
      exact .tick before party draws (Runtime.draws_of_fresh fresh)
    · cases performed
  | poll party =>
    rw [← Option.some.inj performed]
    exact .poll before party

/-! ### What both sides see -/

/-- What is reported of a note, with its sender. -/
def report (senderPk : Key) (note : Note) : Key × String := (senderPk, note.message.content)

/-- The messages and the sessions among what a client is told. -/
def received : ClientEvent → Option (Key × String)
  | .messageReceived sender content => some (sender, content)
  | .sessionEstablished _ _ => none

def greeted : ClientEvent → Option (Key × Key)
  | .messageReceived _ _ => none
  | .sessionEstablished peer number => some (peer, number)

/-- What has come through to a client, whether it was told or not. -/
def heardBy (told : List ClientEvent) (channels : Effects) : List (Key × String) :=
  told.filterMap received ++ channels.messages.map fun item => (item.2, item.1.content)

def metBy (told : List ClientEvent) (channels : Effects) : List (Key × Key) :=
  told.filterMap greeted ++ channels.established

/-- The frames that are under way from one side to the other. -/
def underway (pair : Pair crypto) (chat : Chat crypto noise) (party : Party) : List Packet :=
  (chat.node party.other).relayPile.map Prod.fst ++
    framesTo (pair.address party.other) (chat.node party).channels.outgoing

end Chat

/-- The calls of both runtimes, what was said, and what has come through. -/
structure ChatView (crypto : Primitives) (noise : Noise) where
  calls : Party → Runtime crypto noise
  said : Party → List Note
  heard : Party → List (Key × String)
  met : Party → List (Key × Key)

def Chat.view (chat : Chat crypto noise) : ChatView crypto noise where
  calls party := (chat.node party).calls
  said := chat.said
  heard party := heardBy (chat.told party) (chat.node party).channels
  met party := metBy (chat.told party) (chat.node party).channels

namespace ChatView

def saying (view : ChatView crypto noise) (speaker : Party) (calls : Runtime crypto noise)
    (note : Note) : ChatView crypto noise where
  calls := Function.update view.calls speaker calls
  said := Function.update view.said speaker (view.said speaker ++ [note])
  heard := view.heard
  met := view.met

def hearing (view : ChatView crypto noise) (receiver : Party) (calls : Runtime crypto noise)
    (effects : Effects) : ChatView crypto noise where
  calls := Function.update view.calls receiver calls
  said := view.said
  heard := Function.update view.heard receiver
    (view.heard receiver ++ effects.messages.map fun item => (item.2, item.1.content))
  met := Function.update view.met receiver (view.met receiver ++ effects.established)

end ChatView

/-- What a runtime keeps of its user and its device. -/
structure Pair.Standing (pair : Pair crypto) (party : Party) (runtime : Runtime crypto noise) :
    Prop where
  address : runtime.address = pair.address party
  devicePriv : runtime.deviceX25519Priv = pair.devicePriv party
  masterPubkey : runtime.masterPubkey = some (pair.masterPk party)
  deviceCert : runtime.deviceCert = some (pair.deviceCert party)

/-- The runtime knows of no session. -/
structure Runtime.Blank (runtime : Runtime crypto noise) : Prop where
  sessions : runtime.sessions = ∅
  pendingSessions : runtime.pendingSessions = ∅
  pkToConn : runtime.pkToConn = ∅
  seenTags : runtime.seenTags = ∅
  receivedKeys : runtime.receivedKeys = ∅

/-- The runtime of the initiator waits for the answer to its call. -/
structure Pair.Waits (pair : Pair crypto) (runtime : Runtime crypto noise) (tag : HandshakeTag)
    (called : Session crypto noise) : Prop where
  pending : runtime.pendingSessions.lookup tag = some (called, some (pair.masterPk .responder))
  sole : ∀ other, other ≠ tag → runtime.pendingSessions.lookup other = none
  sessions : runtime.sessions = ∅
  pkToConn : runtime.pkToConn = ∅
  receivedKeys : runtime.receivedKeys = ∅
  addr : runtime.pkToAddr.lookup (pair.masterPk .responder) = some (pair.address .responder)

/-- The packet travels on the connection, and the bytes in it are the body of the note. -/
structure Note.Rides (crypto : Primitives) (connId : ConnectionId) (sent : Packet × Bytes)
    (note : Note) : Prop where
  connectionId : sent.1.payload.connectionId = connId
  fills : note.Fills crypto sent.2

/-- The peer has heard the notes up to some point, and the others are under way. -/
def ChatView.Carries (view : ChatView crypto noise) (pair : Pair crypto) (connId : ConnectionId)
    (sender : Party) (packets : List (Packet × Bytes)) : Prop :=
  ∃ read unread, view.said sender = read ++ unread ∧
    view.heard sender.other = read.map (Chat.report (pair.masterPk sender)) ∧
      List.Forall₂ (Note.Rides crypto connId) packets unread ∧
        ∀ name ∈ (view.calls sender.other).receivedKeys, ∃ note ∈ read,
          name = note.name crypto (pair.masterPk sender)

/-- Both sessions, and what the responder has sent before the initiator has its own. -/
def Conversation.between (initiator responder : Session crypto noise)
    (packets : List (Packet × Bytes)) : Conversation crypto noise where
  session
    | .initiator => initiator
    | .responder => responder
  underway
    | .initiator => []
    | .responder => packets

/-- How far the two are, with the packets that are under way: nobody has called yet; the call is
under way; it was answered, and the answer is under way with whatever the responder has said since;
or both have a session. -/
inductive Stage (pair : Pair crypto) : ChatView crypto noise → (Party → List Packet) → Prop
  | apart {view : ChatView crypto noise} {inner : Party → List Packet}
      (blank : ∀ party, (view.calls party).Blank) (silent : ∀ party, inner party = [])
      (said : ∀ party, view.said party = []) (heard : ∀ party, view.heard party = [])
      (met : ∀ party, view.met party = []) : Stage pair view inner
  | calling {view : ChatView crypto noise} {inner : Party → List Packet} {tag : HandshakeTag}
      {calling : HandshakeDraws} {called : Session crypto noise} {message : Bytes} {packetId : U128}
      (calls : pair.Calls calling called message)
      (waits : pair.Waits (view.calls .initiator) tag called)
      (blank : (view.calls .responder).Blank)
      (call : inner .initiator = [.ofHandshake tag message packetId])
      (silent : inner .responder = []) (said : ∀ party, view.said party = [])
      (heard : ∀ party, view.heard party = []) (met : ∀ party, view.met party = []) :
      Stage pair view inner
  | answered {view : ChatView crypto noise} {inner : Party → List Packet} {tag : HandshakeTag}
      {calling : HandshakeDraws} {called session : Session crypto noise} {message response : Bytes}
      {packetId : U128} {connId : ConnectionId} {number : Key} {packets : List (Packet × Bytes)}
      (calls : pair.Calls calling called message)
      (waits : pair.Waits (view.calls .initiator) tag called)
      (completes : ∀ completing : HandshakeDraws,
        crypto.publicKey completing.preRatchetSecret ≠ crypto.publicKey calling.ratchetSecret →
          ∃ initiator, called.completeHandshake response completing = (.ok (), initiator) ∧
            initiator.connectionId = some connId ∧
              initiator.safetyNumber (pair.masterPk .initiator) (pair.masterPk .responder) =
                some number ∧
                Conversation.Understood pair.masterPk
                  (Conversation.between initiator session packets))
      (talks : (view.calls .responder).Talks connId (pair.masterPk .initiator)
        (pair.address .initiator) session)
      (named : session.connectionId = some connId)
      (silent : inner .initiator = [])
      (reply : inner .responder = .ofHandshake tag response packetId :: packets.map Prod.fst)
      (carries : ∀ party, view.Carries pair connId party
        ((Conversation.between session session packets).underway party))
      (met : view.met .initiator = [] ∧ view.met .responder = [(pair.masterPk .initiator, number)]) :
      Stage pair view inner
  | talking {view : ChatView crypto noise} {inner : Party → List Packet} {connId : ConnectionId}
      {number : Key} {conversation : Conversation crypto noise}
      (understood : Conversation.Understood pair.masterPk conversation)
      (talks : ∀ party, (view.calls party).Talks connId (pair.masterPk party.other)
        (pair.address party.other) (conversation.session party))
      (named : ∀ party, (conversation.session party).connectionId = some connId)
      (packets : ∀ party, inner party = (conversation.underway party).map Prod.fst)
      (carries : ∀ party, view.Carries pair connId party (conversation.underway party))
      (met : ∀ party, view.met party = [(pair.masterPk party.other, number)]) :
      Stage pair view inner

namespace Conversation

/-- Both sides have a session once they understand each other. -/
theorem Understood.isEstablished {masterPk : Party → Key} {conversation : Conversation crypto noise}
    (understood : Understood masterPk conversation) (party : Party) :
    (conversation.session party).isEstablished = true := by
  obtain ⟨_, _, _, _, _, within⟩ := understood
  rw [Session.isEstablished, (within.speaks party).held]
  rfl

theorem Understood.send (commutes : crypto.DiffieHellmanCommutes) (opens : crypto.OpensSealed)
    {masterPk : Party → Key} {conversation : Conversation crypto noise}
    (understood : Understood masterPk conversation) {sender : Party} {bytes : Bytes} {nonce : Nonce}
    {packetId : U128} {packet : Packet} {next : Session crypto noise}
    (run : (conversation.session sender).send bytes nonce packetId = (.ok packet, next)) :
    Understood masterPk (conversation.sent sender next packet bytes) :=
  (Step.send sender bytes nonce packetId run).keepsUnderstanding commutes opens understood

theorem Understood.receive (commutes : crypto.DiffieHellmanCommutes) (opens : crypto.OpensSealed)
    {masterPk : Party → Key} {conversation : Conversation crypto noise}
    (understood : Understood masterPk conversation) {receiver : Party} {packet : Packet}
    {bytes : Bytes} {rest : List (Packet × Bytes)}
    (first : conversation.underway receiver.other = (packet, bytes) :: rest) {env : Surroundings}
    (draws : Draws (conversation.session receiver) env) :
    packet.payload.tag = .message ∧
      ∃ next, (conversation.session receiver).receive packet env =
          (.ok (bytes, masterPk receiver.other), next) ∧
        Understood masterPk (conversation.received receiver next rest) := by
  obtain ⟨ratchet, envelopes, leader, leaderSeed, followerSeed, within⟩ := understood
  have holds := within.holds receiver.other
  rw [first] at holds
  obtain ⟨envelope, others, here, _, _⟩ := List.forall₂_cons_left_iff.mp holds
  exact ⟨here.tag, within.receive commutes opens first draws⟩

theorem received_underway (conversation : Conversation crypto noise) (receiver : Party)
    (next : Session crypto noise) (rest : List (Packet × Bytes)) :
    (conversation.received receiver next rest).underway receiver = conversation.underway receiver ∧
      (conversation.received receiver next rest).underway receiver.other = rest :=
  ⟨Function.update_of_ne receiver.other_ne.symm _ _, Function.update_self ..⟩

theorem between_nil (initiator responder : Session crypto noise) :
    between initiator responder [] = start initiator responder := by
  rw [between, start]
  congr 1
  funext party
  cases party <;> rfl

theorem between_sent (initiator responder next : Session crypto noise)
    (packets : List (Packet × Bytes)) (packet : Packet) (bytes : Bytes) :
    (between initiator responder packets).sent .responder next packet bytes =
      between initiator next (packets ++ [(packet, bytes)]) := by
  rw [sent, between, between]
  congr 1 <;> funext party <;> cases party <;> rfl

end Conversation

namespace ChatView

variable {pair : Pair crypto} {view : ChatView crypto noise} {connId : ConnectionId}
  {sender : Party} {packets : List (Packet × Bytes)}

/-- What a side has said goes on being carried when the other one says something. -/
theorem Carries.saying_other (carries : view.Carries pair connId sender packets)
    {calls : Runtime crypto noise} {note : Note}
    (keys : calls.receivedKeys = (view.calls sender.other).receivedKeys) :
    (view.saying sender.other calls note).Carries pair connId sender packets := by
  obtain ⟨read, unread, split, reported, underway, remembered⟩ := carries
  refine ⟨read, unread, ?_, reported, underway, ?_⟩
  · exact (Function.update_of_ne sender.other_ne.symm _ _).trans split
  · simp only [saying, Function.update_self, keys]
    exact remembered

/-- A note that is said is under way behind the others. -/
theorem Carries.saying (carries : view.Carries pair connId sender packets)
    (calls : Runtime crypto noise) {note : Note} {sent : Packet × Bytes}
    (rides : note.Rides crypto connId sent) :
    (view.saying sender calls note).Carries pair connId sender (packets ++ [sent]) := by
  obtain ⟨read, unread, split, reported, underway, remembered⟩ := carries
  refine ⟨read, unread ++ [note], ?_, reported, List.rel_append underway (.cons rides .nil), ?_⟩
  · simp only [ChatView.saying, Function.update_self, split, List.append_assoc]
  · simp only [ChatView.saying, Function.update_of_ne sender.other_ne]
    exact remembered

end ChatView

namespace Stage

variable {pair : Pair crypto} {view : ChatView crypto noise} {inner : Party → List Packet}

/-- Whoever has not called yet stands apart. -/
theorem apart_of_uncalled (stage : Stage pair view inner)
    (first : (view.calls .initiator).pendingSessions = ∅)
    (alone : (view.calls .initiator).sessions = ∅) :
    (∀ party, (view.calls party).Blank) ∧ (∀ party, inner party = []) ∧
      (∀ party, view.said party = []) ∧ (∀ party, view.heard party = []) ∧
        ∀ party, view.met party = [] := by
  cases stage with
  | apart blank silent said heard met => exact ⟨blank, silent, said, heard, met⟩
  | calling calls waits =>
    have pending := waits.pending
    rw [first] at pending
    cases pending
  | answered calls waits =>
    have pending := waits.pending
    rw [first] at pending
    cases pending
  | talking understood talks =>
    have held := (talks .initiator).session
    rw [alone] at held
    cases held

/-- The initiator calls. -/
theorem contact (commutes : crypto.DiffieHellmanCommutes)
    (delivers : noise.DeliversUnaltered crypto) (varied : crypto.Varied)
    (stage : Stage pair view inner)
    (standing : pair.Standing .initiator (view.calls .initiator))
    (first : (view.calls .initiator).pendingSessions = ∅)
    (alone : (view.calls .initiator).sessions = ∅) (node : Node crypto noise)
    (held : node.calls = view.calls .initiator) {record : ContactRecord crypto}
    (listed : record.deviceList.devices = [pair.responderCert])
    (placed : record.relayAddr = pair.responderAddr) (tag : HandshakeTag) (draws : RuntimeDraws) :
    ∃ packet calls, node.contact (pair.masterPk .responder) record (fun _ => (tag, draws)) =
        (.ok (), Node.emit { node with calls } { Effects.none with
          outgoing := [Runtime.sendPacket packet pair.responderAddr
            (deriveId crypto (pair.masterPk .responder)) draws.frameId] }) ∧
      pair.Standing .initiator calls ∧
      Stage pair { view with calls := Function.update view.calls .initiator calls }
        (Function.update inner .initiator (inner .initiator ++ [packet])) := by
  obtain ⟨blank, silent, said, heard, met⟩ := stage.apart_of_uncalled first alone
  obtain ⟨called, message, calls⟩ :=
    pair.exists_calls commutes delivers varied draws.handshake
  obtain ⟨session, built, wrote⟩ := calls.written
  rw [← held] at standing
  have builds : Session.newInitiator node.calls.deviceX25519Priv
      pair.responderCert.deviceX25519Pubkey pair.initiatorCert pair.initiatorPk pair.user =
        .ok session := by
    rw [standing.devicePriv]
    exact built
  have writes : session.initiateHandshake node.calls.address draws.handshake =
      (.ok message, called) := by
    rw [standing.address]
    exact wrote
  have run : node.contact (pair.masterPk .responder) record (fun _ => (tag, draws)) = _ :=
    Node.contact_one standing.masterPubkey standing.deviceCert listed builds writes
  rw [placed] at run
  refine ⟨_, _, run, ⟨standing.address, standing.devicePriv, standing.masterPubkey,
    standing.deviceCert⟩, @Stage.calling _ _ _ _ _ tag _ _ _ draws.packetId calls ?_ ?_ ?_ ?_ said
      heard met⟩
  · dsimp only
    rw [Function.update_self, held]
    refine ⟨AList.lookup_insert _, fun other differs => ?_, (blank .initiator).sessions,
      (blank .initiator).pkToConn, (blank .initiator).receivedKeys, AList.lookup_insert _⟩
    show ((((view.calls .initiator).pendingSessions.insert tag _).insert tag _).lookup other) = none
    rw [AList.lookup_insert_ne differs, AList.lookup_insert_ne differs, first]
    rfl
  · dsimp only
    rw [Function.update_of_ne (by decide)]
    exact blank .responder
  · rw [Function.update_self, silent .initiator]
    rfl
  · rw [Function.update_of_ne (by decide)]
    exact silent .responder

/-- A side says something. It has a session by then. -/
theorem say (commutes : crypto.DiffieHellmanCommutes) (opens : crypto.OpensSealed)
    (varied : crypto.Varied) (stage : Stage pair view inner) {speaker : Party} {note : Note}
    {nonce : Nonce} {draws : Nat → SendDraws}
    (sent : ((view.calls speaker).sendMessage note.message (pair.masterPk speaker.other) note.key
      nonce draws).1 = .ok ()) :
    ∃ packet sessions, (view.calls speaker).sendMessage note.message (pair.masterPk speaker.other)
        note.key nonce draws = (.ok (), [Runtime.sendPacket packet (pair.address speaker.other)
          (deriveId crypto (pair.masterPk speaker.other)) (draws 0).frameId],
            { view.calls speaker with sessions }) ∧
      Stage pair (view.saying speaker { view.calls speaker with sessions } note)
        (Function.update inner speaker (inner speaker ++ [packet])) := by
  cases stage with
  | apart blank =>
    refine absurd sent (Runtime.not_sendMessage_of_unknown ?_ _ _ _ _)
    rw [(blank speaker).pkToConn]
    rfl
  | calling calls waits blank =>
    refine absurd sent (Runtime.not_sendMessage_of_unknown ?_ _ _ _ _)
    cases speaker with
    | initiator => rw [waits.pkToConn]; rfl
    | responder => rw [blank.pkToConn]; rfl
  | @answered tag calling called session message response packetId connId number packets calls
      waits completes talks named silent reply carries met =>
    cases speaker with
    | initiator =>
      refine absurd sent (Runtime.not_sendMessage_of_unknown ?_ _ _ _ _)
      rw [waits.pkToConn]
      rfl
    | responder =>
      obtain ⟨secret, fresh⟩ := varied (crypto.publicKey calling.ratchetSecret)
      obtain ⟨initiator, _, _, _, understood⟩ :=
        completes { calling with preRatchetSecret := secret } fresh
      obtain ⟨body, packet, next, fills, run, sends⟩ :=
        talks.sendMessage (understood.isEstablished .responder) sent
      have still : next.connectionId = some connId := by
        obtain ⟨ratchet, frame⟩ := session.send_frame body (draws 0).nonce (draws 0).packetId
        rw [run] at frame
        rw [show next = { session with ratchet } from frame]
        exact named
      have rides : note.Rides crypto connId (packet, body) :=
        ⟨Option.some.inj ((Session.connectionId_of_send run).symm.trans named), fills⟩
      refine ⟨packet, _, sends, @Stage.answered _ _ _ _ _ tag calling called next message response
        packetId connId number (packets ++ [(packet, body)]) calls ?_ ?_ ?_ still ?_ ?_ ?_ met⟩
      · exact waits
      · intro completing fresh
        obtain ⟨initiator, completed, same, numbered, understood⟩ := completes completing fresh
        refine ⟨initiator, completed, same, numbered, ?_⟩
        rw [← Conversation.between_sent]
        exact understood.send commutes opens run
      · simp only [ChatView.saying, Function.update_self]
        exact talks.insert next _
      · exact silent
      · rw [Function.update_self, reply, List.map_append]
        rfl
      · rintro (_ | _)
        · exact (carries .initiator).saying_other rfl
        · exact (carries .responder).saying _ rides
  | @talking connId number conversation understood talks named packets carries met =>
    obtain ⟨body, packet, next, fills, run, sends⟩ :=
      (talks speaker).sendMessage (understood.isEstablished speaker) sent
    have still : next.connectionId = some connId := by
      obtain ⟨ratchet, frame⟩ :=
        (conversation.session speaker).send_frame body (draws 0).nonce (draws 0).packetId
      rw [run] at frame
      rw [show next = { conversation.session speaker with ratchet } from frame]
      exact named speaker
    have rides : note.Rides crypto connId (packet, body) :=
      ⟨Option.some.inj ((Session.connectionId_of_send run).symm.trans (named speaker)), fills⟩
    refine ⟨packet, _, sends, @Stage.talking _ _ _ _ _ connId _ _
      (understood.send commutes opens run) ?_ ?_ ?_ ?_ met⟩
    · exact Conversation.forall_update (fun party (runtime : Runtime crypto noise) session =>
        runtime.Talks connId (pair.masterPk party.other) (pair.address party.other) session) talks
          ((talks speaker).insert next _)
    · exact (Function.forall_update_iff conversation.session
        (p := fun _ (session : Session crypto noise) => session.connectionId = some connId)).mpr
          ⟨still, fun party _ => named party⟩
    · refine Conversation.forall_update (fun _ inner (underway : List (Packet × Bytes)) =>
        inner = underway.map Prod.fst) packets ?_
      rw [packets speaker, List.map_append]
      rfl
    · intro party
      rcases party.eq_or_eq_other speaker with rfl | rfl
      · simp only [Conversation.sent, Function.update_self]
        exact (carries party).saying _ rides
      · simp only [Conversation.sent, Function.update_of_ne speaker.other_ne]
        have carried := carries speaker.other
        obtain ⟨listener, rfl⟩ : ∃ listener : Party, speaker = listener.other :=
          ⟨speaker.other, speaker.other_other.symm⟩
        rw [Party.other_other] at carried ⊢
        exact carried.saying_other rfl

end Stage

end Insub
