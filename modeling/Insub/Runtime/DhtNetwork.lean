/-
This file puts the nodes of the hash table together. Each node looks things up and serves the
others; between them is a network that loses, repeats, delays and reorders what it carries, so that
answers come late and to questions of another lookup. It writes nothing of its own.

Whatever the order of all that, no node that is no node ever enters a routing table or is handed
out, and no value is held or found that was not stored. The wire carries what a node sends as long
as addresses have no flow info and no scope id, and values fit the two bytes of their length.
-/

import Mathlib
import Insub.Dht.Acquaintance
import Insub.Runtime.FindValue
import Insub.Runtime.LookupNode
import Insub.Crypto.Agreement

namespace Insub

open Rust

/-! ### One node -/

/-- What the client of a node is asked to do. -/
inductive DhtCall
  | join (seeds : List SocketAddr)
  | lookupNode (target : NodeID)
  | findValue (key : Key)
  | store (key : Key) (value : Bytes) (ttl : U32)

/-- What a call gives to the table. -/
def DhtCall.gives : DhtCall → List (Key × Bytes)
  | .store key value _ => [(key, value)]
  | _ => []

/-- The runtime of a node and the packets that wait for it, the call that it is in with the query
that is out, and what its lookups returned. -/
structure DhtPeer where
  runtime : DhtRuntime
  pile : List PileItem
  running : Option DhtCall
  next : Option (DhtOperation × SocketAddr)
  returned : List (Option Bytes × NodeList)

namespace DhtPeer

def bind (id : NodeID) (address : SocketAddr) : DhtPeer where
  runtime := .bind id address
  pile := []
  running := none
  next := none
  returned := []

/-- The lookup that the node is in. -/
def lookup (peer : DhtPeer) : Lookup where
  client := peer.runtime.client
  routing := peer.runtime.routing
  next := peer.next

/-- The first query of the lookup of a call. -/
def opening (runtime : DhtRuntime) : DhtCall → Lookup
  | .join seeds => .join runtime.client runtime.routing seeds
  | .lookupNode target => .lookupNode runtime.client runtime.routing target
  | .findValue key => .findValue runtime.client runtime.routing key
  | .store key _ _ => .lookupNode runtime.client runtime.routing { id := key }

/-- Start a call, and send its first query. -/
def begin (peer : DhtPeer) (call : DhtCall) : List (DhtOperation × SocketAddr) × DhtPeer :=
  let lookup := opening peer.runtime call
  (lookup.next.toList, { peer with
    runtime := { peer.runtime with client := lookup.client }
    running := some call
    next := lookup.next })

/-- One turn of the loop: wait for the answer to the query that is out, and go on. -/
def wait (peer : DhtPeer) (wait : Wait) : List (DhtOperation × SocketAddr) × DhtPeer :=
  match peer.next with
  | none => ([], peer)
  | some (_, addr) =>
    match recvDht addr wait.turns peer.pile with
    | (.error _, pile) =>
      match peer.runtime.giveUp with
      | (sent, runtime) =>
        (sent, { peer with runtime, pile, next := (peer.lookup.step .timeout).next })
    | (.ok (response, sender), pile) =>
      match peer.runtime.takeAnswer response sender wait.now wait.clock with
      | (sent, runtime) =>
        let answer := .response response sender wait.now wait.clock
        (sent, { peer with runtime, pile, next := (peer.lookup.step answer).next })

/-- The end of a call, once its lookup has no next query. -/
def finish (peer : DhtPeer) : List (DhtOperation × SocketAddr) × DhtPeer :=
  match peer.running, peer.runtime.client.pending with
  | some (.lookupNode _), some pending =>
    ([], { peer with running := none, returned := peer.returned ++ [(none, pending.shortlist)] })
  | some (.findValue _), some pending =>
    ([], { peer with
      running := none
      returned := peer.returned ++ [(pending.foundValue, pending.shortlist)] })
  | some (.store key value ttl), some pending =>
    (pending.shortlist.map fun node =>
      (.store peer.runtime.id key value ttl, node.2), { peer with running := none })
  | _, _ => ([], { peer with running := none })

/-- One turn of the loop of `tick_server`. -/
def serve (peer : DhtPeer) (now : Instant) (clock : Nat → Instant) :
    Outcome (List (DhtOperation × SocketAddr)) × DhtPeer :=
  match peer.pile with
  | [] => (.ok [], peer)
  | (packet, sender) :: pile =>
    match peer.runtime.serve packet sender now clock with
    | (outcome, runtime) => (outcome, { peer with runtime, pile })

end DhtPeer

/-! ### All nodes -/

/-- The nodes, the packets that were ever sent, each with its source and its destination, and what
was ever given to `store`. -/
structure DhtNetwork (Site : Type) where
  peers : Site → DhtPeer
  sent : List (Packet × SocketAddr × SocketAddr)
  stored : List (Key × Bytes)

namespace DhtNetwork

variable {Site : Type} [DecidableEq Site]

def start (sites : Site → NodeID × SocketAddr) : DhtNetwork Site where
  peers site := .bind (sites site).1 (sites site).2
  sent := []
  stored := []

/-- A packet can arrive at an address: one with its payload was sent there. -/
def Carries (network : DhtNetwork Site) (item : PileItem) (destination : SocketAddr) : Prop :=
  ∃ packet, (packet, item.2, destination) ∈ network.sent ∧ item.1.payload = packet.payload

/-- A node moves on, and sends operations in packets with ids that are drawn. -/
def move (network : DhtNetwork Site) (site : Site)
    (moved : List (DhtOperation × SocketAddr) × DhtPeer) (ids : Nat → U128) : DhtNetwork Site :=
  let packets := moved.1.mapIdx fun index sent =>
    ((DhtRuntime.sendDhtOp sent.1 sent.2 (ids index)).1, moved.2.runtime.address, sent.2)
  { network with
    peers := Function.update network.peers site moved.2
    sent := network.sent ++ packets }

/-- What happens next: a packet arrives, or a node does one step of what it is at. The runtime is
locked while a call goes on, so the node serves nobody meanwhile. -/
inductive Step : DhtNetwork Site → DhtNetwork Site → Prop
  | arrive (network : DhtNetwork Site) (site : Site) (item : PileItem)
      (carries : network.Carries item (network.peers site).runtime.address) :
      Step network (network.move site ([], { network.peers site with
        pile := (network.peers site).pile ++ [item] }) fun _ => 0)
  | enableServer (network : DhtNetwork Site) (site : Site) :
      Step network (network.move site ([], { network.peers site with
        runtime := (network.peers site).runtime.enableServer }) fun _ => 0)
  | begin (network : DhtNetwork Site) (site : Site) (call : DhtCall) (ids : Nat → U128)
      (idle : (network.peers site).running = none)
      (fits : ∀ given ∈ call.gives, given.2.length < 2 ^ 16) :
      Step network { network.move site ((network.peers site).begin call) ids with
        stored := network.stored ++ call.gives }
  | wait (network : DhtNetwork Site) (site : Site) (turn : Wait) (ids : Nat → U128)
      (carries : ∀ arrivals ∈ turn.turns, ∀ item ∈ arrivals,
        network.Carries item (network.peers site).runtime.address) :
      Step network (network.move site ((network.peers site).wait turn) ids)
  | finish (network : DhtNetwork Site) (site : Site) (ids : Nat → U128)
      (ended : (network.peers site).next = none) :
      Step network (network.move site (network.peers site).finish ids)
  | serve (network : DhtNetwork Site) (site : Site) (now : Instant) (clock : Nat → Instant)
      (ids : Nat → U128) {sent : List (DhtOperation × SocketAddr)}
      (idle : (network.peers site).running = none)
      (served : ((network.peers site).serve now clock).1 = .ok sent) :
      Step network (network.move site (sent, ((network.peers site).serve now clock).2) ids)
  | evict (network : DhtNetwork Site) (site : Site) (now : Instant)
      (idle : (network.peers site).running = none) :
      Step network (network.move site ([], { network.peers site with
        runtime := (network.peers site).runtime.evictStale now }) fun _ => 0)

end DhtNetwork

/-! ### What is honest -/

/-- The operation gives a value of a key. -/
def DhtOperation.Gives (key : Key) (value : Bytes) : DhtOperation → Prop
  | .store _ given stored _ => given = key ∧ stored = value
  | .value _ given held _ => given = key ∧ held = some value
  | _ => False

section Honest

variable {genuine : NodeID → SocketAddr → Prop} {stored more : List (Key × Bytes)}
  {source : SocketAddr}

/-- The operation comes from its sender, lists nodes, gives what was stored, and can be written. -/
structure DhtOperation.Honest (genuine : NodeID → SocketAddr → Prop) (stored : List (Key × Bytes))
    (source : SocketAddr) (operation : DhtOperation) : Prop where
  sender : genuine operation.senderId source
  listed : ∀ node ∈ operation.listed, genuine node.1 node.2
  gives : ∀ key value, operation.Gives key value → (key, value) ∈ stored
  encodable : operation.Encodable

theorem DhtOperation.Honest.mono {operation : DhtOperation}
    (honest : operation.Honest genuine stored source) (subset : stored ⊆ more) :
    operation.Honest genuine more source :=
  ⟨honest.sender, honest.listed, fun key value gives => subset (honest.gives key value gives),
    honest.encodable⟩

/-- The packet carries an honest operation. -/
def Packet.Honest (genuine : NodeID → SocketAddr → Prop) (stored : List (Key × Bytes))
    (source : SocketAddr) (packet : Packet) : Prop :=
  ∃ operation : DhtOperation, packet.payload.data = operation.serialize ∧
    operation.Honest genuine stored source

theorem Packet.Honest.mono {packet : Packet} (honest : packet.Honest genuine stored source)
    (subset : stored ⊆ more) : packet.Honest genuine more source := by
  obtain ⟨operation, carries, honest⟩ := honest
  exact ⟨operation, carries, honest.mono subset⟩

/-- An honest packet is read as its operation. -/
theorem Packet.Honest.read {packet : Packet} (honest : packet.Honest genuine stored source) :
    ∃ operation, DhtOperation.fromSerialized packet.payload.data = .ok operation ∧
      operation.Honest genuine stored source := by
  obtain ⟨operation, carries, honest⟩ := honest
  have read := DhtOperation.fromSerialized_serialize_append honest.encodable.fits []
  rw [List.append_nil, honest.encodable.plain, ← carries] at read
  exact ⟨operation, read, honest⟩

/-- What a lookup may return: values that were stored, under whatever key, and nodes. -/
structure Sourced (genuine : NodeID → SocketAddr → Prop) (stored : List (Key × Bytes))
    (found : Option Bytes) (nodes : NodeList) : Prop where
  value : ∀ value, found = some value → ∃ key, (key, value) ∈ stored
  nodes : ∀ node ∈ nodes, genuine node.1 node.2

/-- Whatever the node knows, holds and has returned is genuine. The list of `join` starts with seeds
that have no name yet; it is not handed out. -/
structure DhtPeer.Sound (genuine : NodeID → SocketAddr → Prop) (stored : List (Key × Bytes))
    (peer : DhtPeer) : Prop where
  own : genuine peer.runtime.id peer.runtime.address
  client : peer.runtime.client.id = peer.runtime.id
  lists : peer.runtime.routing.Lists genuine
  serves : ∀ server, peer.runtime.server = some server → server.id = peer.runtime.id ∧
    ∀ key value expires, server.store.lookup key = some (value, expires) → (key, value) ∈ stored
  found : ∀ pending, peer.runtime.client.pending = some pending → ∀ value,
    pending.foundValue = some value → ∃ key, (key, value) ∈ stored
  shortlist : ∀ pending, peer.runtime.client.pending = some pending → ∀ call,
    peer.running = some call → (∀ seeds, call ≠ .join seeds) →
      ∀ node ∈ pending.shortlist, genuine node.1 node.2
  gives : ∀ call, peer.running = some call → call.gives ⊆ stored
  asks : ∀ query, peer.next = some query → Lookup.Asks peer.runtime.client query
  pile : ∀ item ∈ peer.pile, item.1.Honest genuine stored item.2
  returned : ∀ result ∈ peer.returned, Sourced genuine stored result.1 result.2

/-! ### What a client sends -/

variable {peer : DhtPeer}

theorem DhtOperation.Honest.of_asks {client : DhtClient} {query : DhtOperation × SocketAddr}
    (asks : Lookup.Asks client query) (own : genuine client.id source) :
    query.1.Honest genuine stored source := by
  obtain ⟨operation, addr⟩ := query
  rcases asks with ⟨target, rfl⟩ | ⟨key, rfl⟩
  · exact ⟨own, fun _ member => absurd member List.not_mem_nil, fun _ _ gives => gives.elim,
      trivial, rfl⟩
  · exact ⟨own, fun _ member => absurd member List.not_mem_nil, fun _ _ gives => gives.elim,
      trivial, rfl⟩

/-- A step of a node: it stays sound and keeps its name, and what it sends is honest. -/
structure DhtPeer.Moves (genuine : NodeID → SocketAddr → Prop) (stored : List (Key × Bytes))
    (peer : DhtPeer) (moved : List (DhtOperation × SocketAddr) × DhtPeer) : Prop where
  sound : moved.2.Sound genuine stored
  honest : ∀ sent ∈ moved.1, sent.1.Honest genuine stored peer.runtime.address
  id : moved.2.runtime.id = peer.runtime.id
  address : moved.2.runtime.address = peer.runtime.address

namespace DhtPeer

theorem takeAnswer_eq {query : DhtOperation × SocketAddr} (going : peer.next = some query)
    (response : DhtOperation) (sender : SocketAddr) (now : Instant) (clock : Nat → Instant) :
    peer.runtime.takeAnswer response sender now clock =
      ((peer.runtime.routing.addNode response.senderId sender now).1.toList.map
          (fun pinged => (.ping peer.runtime.id, pinged.2)) ++
        (peer.lookup.step (.response response sender now clock)).next.toList,
        { peer.runtime with
          client := (peer.lookup.step (.response response sender now clock)).client
          routing := (peer.lookup.step (.response response sender now clock)).routing }) := by
  rw [lookup, going]
  rfl

theorem giveUp_eq {query : DhtOperation × SocketAddr} (going : peer.next = some query) :
    peer.runtime.giveUp = ((peer.lookup.step .timeout).next.toList,
      { peer.runtime with client := (peer.lookup.step .timeout).client }) := by
  rw [lookup, going]
  rfl

/-- What is popped while a lookup waits was on the pile, or has arrived since. -/
theorem forall_popped {holds : PileItem → Prop} {turns : List (List PileItem)}
    {pile : List PileItem} (old : ∀ item ∈ pile, holds item)
    (new : ∀ arrivals ∈ turns, ∀ item ∈ arrivals, holds item) :
    ∀ item ∈ popped turns pile, holds item := by
  induction turns generalizing pile with
  | nil => exact fun item member => absurd member List.not_mem_nil
  | cons arrivals turns inductionHypothesis =>
    have both : ∀ item ∈ pile ++ arrivals, holds item := fun item member =>
      (List.mem_append.mp member).elim (old item) (new arrivals List.mem_cons_self item)
    have later := fun others member => new others (List.mem_cons_of_mem _ member)
    rw [popped]
    generalize pile ++ arrivals = waiting at both
    cases waiting with
    | nil => exact inductionHypothesis both later
    | cons first rest =>
      rintro item (_ | ⟨_, member⟩)
      · exact both first List.mem_cons_self
      · refine inductionHypothesis (fun other kept => both other ?_) later item member
        exact (List.perm_append_singleton first rest).mem_iff.mp kept

/-- So was what is left on the pile. -/
theorem forall_recvDht {holds : PileItem → Prop} {turns : List (List PileItem)}
    {pile : List PileItem} (expected : SocketAddr) (old : ∀ item ∈ pile, holds item)
    (new : ∀ arrivals ∈ turns, ∀ item ∈ arrivals, holds item) :
    ∀ item ∈ (recvDht expected turns pile).2, holds item := by
  induction turns generalizing pile with
  | nil => exact old
  | cons arrivals turns inductionHypothesis =>
    have both : ∀ item ∈ pile ++ arrivals, holds item := fun item member =>
      (List.mem_append.mp member).elim (old item) (new arrivals List.mem_cons_self item)
    have later := fun others member => new others (List.mem_cons_of_mem _ member)
    rw [recvDht]
    generalize pile ++ arrivals = waiting at both
    cases waiting with
    | nil => exact inductionHypothesis both later
    | cons first rest =>
      obtain ⟨packet, sender⟩ := first
      dsimp only
      split
      · refine inductionHypothesis (fun other kept => both other ?_) later
        exact (List.perm_append_singleton (packet, sender) rest).mem_iff.mp kept
      · exact fun item member => both item (List.mem_cons_of_mem _ member)

/-- What a lookup makes of an answer, if this is honest. -/
theorem Sound.answered (sound : peer.Sound genuine stored) {query : DhtOperation × SocketAddr}
    (going : peer.lookup.next = some query) (answer : Answer)
    (listed : ∀ node ∈ answer.listed, genuine node.1 node.2)
    (carried : ∀ value, answer.carried = some value → ∃ key, (key, value) ∈ stored)
    (lists : (peer.lookup.step answer).routing.Lists genuine) {pile : List PileItem}
    (honest : ∀ item ∈ pile, item.1.Honest genuine stored item.2) :
    Sound genuine stored { peer with
      runtime := { peer.runtime with
        client := (peer.lookup.step answer).client
        routing := (peer.lookup.step answer).routing }
      pile
      next := (peer.lookup.step answer).next } := by
  obtain ⟨same, asks, pends⟩ := Lookup.step_spec going answer
  refine ⟨sound.own, same.trans sound.client, lists, sound.serves, ?_, ?_, sound.gives, ?_, honest,
    sound.returned⟩
  · intro pending held value found
    obtain ⟨before, heldBefore, _, finds⟩ := pends pending held
    exact (finds value found).elim (sound.found before heldBefore value) (carried value)
  · intro pending held call running looks node member
    obtain ⟨before, heldBefore, nodes, _⟩ := pends pending held
    exact (nodes node member).elim (sound.shortlist before heldBefore call running looks node)
      (listed node)
  · intro next same'
    obtain ⟨target, is⟩ | ⟨key, is⟩ := asks next same'
    · exact Or.inl ⟨target, is.trans (congrArg (DhtOperation.findNode · target) same.symm)⟩
    · exact Or.inr ⟨key, is.trans (congrArg (DhtOperation.findValue · key) same.symm)⟩

theorem Sound.wait (sound : peer.Sound genuine stored) (turn : Wait)
    (arrive : ∀ arrivals ∈ turn.turns, ∀ item ∈ arrivals, item.1.Honest genuine stored item.2) :
    peer.Moves genuine stored (peer.wait turn) := by
  cases going : peer.lookup.next with
  | none =>
    rw [DhtPeer.wait, show peer.next = none from going]
    exact ⟨sound, fun _ member => absurd member List.not_mem_nil, rfl, rfl⟩
  | some query =>
    obtain ⟨operation, addr⟩ := query
    have left := forall_recvDht addr sound.pile arrive
    have queries {answer : Answer} {next : DhtOperation × SocketAddr}
        (asked : next ∈ (peer.lookup.step answer).next.toList) :
        next.1.Honest genuine stored peer.runtime.address := by
      refine .of_asks ((Lookup.step_spec going answer).2.1 next
        (Option.mem_toList.mp asked)) ?_
      rw [show peer.lookup.client.id = peer.runtime.id from sound.client]
      exact sound.own
    rw [DhtPeer.wait, show peer.next = _ from going]
    dsimp only
    rcases taken : recvDht addr turn.turns peer.pile with ⟨fault | ⟨response, sender⟩, pile⟩
    · rw [taken] at left
      dsimp only
      rw [giveUp_eq going]
      have same := peer.lookup.routing_timeout
      have kept := sound.answered going .timeout (fun _ member => absurd member List.not_mem_nil)
        (fun _ none => by cases none) (by rw [same]; exact sound.lists) left
      rw [same] at kept
      exact ⟨kept, fun next asked => queries asked, rfl, rfl⟩
    · rw [taken] at left
      dsimp only
      rw [takeAnswer_eq going]
      obtain ⟨packet, found, read⟩ := recvDht_ok.mp (congrArg Prod.fst taken)
      obtain ⟨same, parsed, honest⟩ := (forall_popped sound.pile arrive (packet, sender)
        (List.mem_of_find?_eq_some found)).read
      obtain rfl : same = response := Except.ok.inj (parsed.symm.trans read)
      refine ⟨sound.answered going (.response same sender turn.now turn.clock) honest.listed
        (fun value carries => ?_) ?_ left, ?_, rfl, rfl⟩
      · cases same with
        | value senderId key held closestNodes =>
          exact ⟨key, honest.gives key value ⟨rfl, carries⟩⟩
        | _ => cases carries
      · exact Lookup.lists_response sound.lists going honest.sender honest.listed _ _
      · intro next asked
        rcases List.mem_append.mp asked with ping | asked
        · obtain ⟨pinged, _, rfl⟩ := List.mem_map.mp ping
          exact ⟨sound.own, fun _ member => absurd member List.not_mem_nil,
            fun _ _ gives => gives.elim, trivial, rfl⟩
        · exact queries asked

theorem Sound.mono (sound : peer.Sound genuine stored) (subset : stored ⊆ more) :
    peer.Sound genuine more where
  own := sound.own
  client := sound.client
  lists := sound.lists
  serves server here := ⟨(sound.serves server here).1, fun key value expires held =>
    subset ((sound.serves server here).2 key value expires held)⟩
  found pending held value found :=
    (sound.found pending held value found).imp fun _ member => subset member
  shortlist := sound.shortlist
  gives call running := List.Subset.trans (sound.gives call running) subset
  asks := sound.asks
  pile item member := (sound.pile item member).mono subset
  returned result member := ⟨fun value found =>
    ((sound.returned result member).value value found).imp fun _ member => subset member,
    (sound.returned result member).nodes⟩

theorem sound_bind {id : NodeID} {address : SocketAddr} (own : genuine id address) :
    (bind id address).Sound genuine stored where
  own := own
  client := rfl
  lists := RoutingTable.lists_new id
  serves server none := by cases none
  found pending none := by cases none
  shortlist pending none := by cases none
  gives call none := by cases none
  asks query none := by cases none
  pile item none := absurd none List.not_mem_nil
  returned result none := absurd none List.not_mem_nil

/-- A call begins with what the table lists, and with no value. -/
theorem Sound.begin (sound : peer.Sound genuine stored) {call : DhtCall}
    (gives : call.gives ⊆ stored) : peer.Moves genuine stored (peer.begin call) := by
  obtain ⟨pending, begins, listed⟩ : ∃ pending,
      Lookup.Begins peer.runtime.client peer.runtime.routing pending (opening peer.runtime call) ∧
        ((∀ seeds, call ≠ .join seeds) → ∀ node ∈ pending.shortlist, genuine node.1 node.2) := by
    cases call with
    | join seeds => exact ⟨_, .join seeds, fun looks => absurd rfl (looks seeds)⟩
    | lookupNode target => exact ⟨_, .lookupNode target, fun _ => sound.lists.closestNodes _ _⟩
    | findValue key => exact ⟨_, .findValue key, fun _ => sound.lists.closestNodes _ _⟩
    | store key value ttl => exact ⟨_, .lookupNode _, fun _ => sound.lists.closestNodes _ _⟩
  obtain ⟨asks, held, _, unfound⟩ := begins.eq
  refine ⟨⟨sound.own, begins.client_id.trans sound.client, sound.lists, sound.serves, ?_, ?_, ?_, ?_,
    sound.pile, sound.returned⟩, ?_, rfl, rfl⟩
  · intro last same value found
    obtain rfl := Option.some.inj (held.symm.trans same)
    rw [PendingLookup.foundValue_nextQuery, unfound] at found
    cases found
  · intro last same other running looks
    obtain rfl := Option.some.inj (held.symm.trans same)
    obtain rfl := Option.some.inj running
    rw [PendingLookup.shortlist_nextQuery]
    exact listed looks
  · intro other running
    exact Option.some.inj running ▸ gives
  · intro query first
    obtain ⟨node, _, rfl⟩ := Option.map_eq_some_iff.mp (asks.symm.trans first)
    have named := Lookup.asks_query peer.runtime.client pending.nextQuery.2 node.2
    rw [Lookup.Asks, ← begins.client_id] at named
    exact named
  · intro query first
    obtain ⟨node, _, rfl⟩ := Option.map_eq_some_iff.mp (asks.symm.trans (Option.mem_toList.mp first))
    refine .of_asks (Lookup.asks_query peer.runtime.client pending.nextQuery.2 node.2) ?_
    rw [sound.client]
    exact sound.own

/-- What a call returns is what its lookup has found. -/
theorem Sound.finish (sound : peer.Sound genuine stored)
    (short : ∀ given ∈ stored, given.2.length < 2 ^ 16) :
    peer.Moves genuine stored peer.finish := by
  have idle : Sound genuine stored { peer with running := none } :=
    { sound with
      shortlist := fun pending held call none => by cases none
      gives := fun call none => by cases none }
  have silent {after : DhtPeer} (kept : after.Sound genuine stored)
      (id : after.runtime.id = peer.runtime.id)
      (address : after.runtime.address = peer.runtime.address) :
      peer.Moves genuine stored ([], after) :=
    ⟨kept, fun _ member => absurd member List.not_mem_nil, id, address⟩
  have gives {result : Option Bytes × NodeList}
      (sourced : Sourced genuine stored result.1 result.2) :
      Sound genuine stored { peer with running := none, returned := peer.returned ++ [result] } := by
    refine { idle with returned := fun other member => ?_ }
    rcases List.mem_append.mp member with earlier | new
    · exact sound.returned other earlier
    · exact List.mem_singleton.mp new ▸ sourced
  rw [DhtPeer.finish]
  split
  · rename_i target pending running held
    refine silent (gives ⟨fun value none => (by cases none), ?_⟩) rfl rfl
    exact sound.shortlist pending held _ running (fun seeds same => by cases same)
  · rename_i key pending running held
    refine silent (gives ⟨sound.found pending held, ?_⟩) rfl rfl
    exact sound.shortlist pending held _ running (fun seeds same => by cases same)
  · rename_i key value ttl pending running held
    refine ⟨idle, fun sent member => ?_, rfl, rfl⟩
    obtain ⟨node, _, rfl⟩ := List.mem_map.mp member
    have given : (key, value) ∈ stored := sound.gives _ running (List.mem_singleton_self _)
    refine ⟨sound.own, fun _ listed => absurd listed List.not_mem_nil, ?_, short _ given, rfl⟩
    rintro _ _ ⟨rfl, rfl⟩
    exact given
  · exact silent idle rfl rfl

theorem Sound.evict (sound : peer.Sound genuine stored) (now : Instant) :
    Sound genuine stored { peer with runtime := peer.runtime.evictStale now } :=
  { sound with lists := sound.lists.evictStale now }

theorem Sound.enableServer (sound : peer.Sound genuine stored) :
    Sound genuine stored { peer with runtime := peer.runtime.enableServer } :=
  { sound with
    serves := by
      rintro server same
      obtain rfl := Option.some.inj same
      exact ⟨rfl, fun key value expires held => by cases held⟩ }

theorem Sound.arrive (sound : peer.Sound genuine stored) {item : PileItem}
    (honest : item.1.Honest genuine stored item.2) :
    Sound genuine stored { peer with pile := peer.pile ++ [item] } :=
  { sound with
    pile := fun other member => (List.mem_append.mp member).elim (sound.pile other)
      fun new => List.mem_singleton.mp new ▸ honest }

end DhtPeer

/-! ### What a server answers -/

namespace DhtNode

/-- A server answers in its own name, with what it knows and holds. -/
theorem honest_of_processOp {node : DhtNode} {routing : RoutingTable} {address : SocketAddr}
    (held : Server.Held ⟨node, routing⟩) (own : genuine node.id address)
    (lists : routing.Lists genuine) (keeps : ∀ key value expires,
      node.store.lookup key = some (value, expires) → (key, value) ∈ stored)
    {operation response : DhtOperation} {sender dest : SocketAddr}
    {now : Instant} {clock : Nat → Instant}
    (answered : (node.processOp operation sender routing now clock).1 = some (response, dest)) :
    response.Honest genuine stored address := by
  have encodable : response.Encodable := Server.encodable_of_processOp held answered
  have closest {target asking : NodeID} {other : NodeID × SocketAddr}
      (member : other ∈ DhtNode.closestTo routing target asking) : genuine other.1 other.2 :=
    lists.closestNodes target Routing.k other (List.mem_of_mem_filter member)
  cases operation with
  | ping senderId =>
    cases answered
    exact ⟨own, fun _ member => absurd member List.not_mem_nil, fun _ _ gives => gives.elim,
      encodable⟩
  | findNode senderId targetId =>
    cases answered
    exact ⟨own, fun other member => closest member, fun _ _ gives => gives.elim, encodable⟩
  | findValue senderId key =>
    cases answered
    refine ⟨own, fun other member => closest member, ?_, encodable⟩
    rintro _ value ⟨rfl, found⟩
    obtain ⟨⟨_, expires⟩, lies, rfl⟩ := Option.map_eq_some_iff.mp found
    exact keeps key _ expires (Option.filter_eq_some_iff.mp lies).1
  | store senderId key value ttlSeconds =>
    cases answered
    exact ⟨own, fun _ member => absurd member List.not_mem_nil, fun _ _ gives => gives.elim,
      encodable⟩
  | pong | nodes | storeAck | value => cases answered

/-- What an honest operation stores was given to a client. -/
theorem keeps_processOp {node : DhtNode}
    (keeps : ∀ key value expires, node.store.lookup key = some (value, expires) →
      (key, value) ∈ stored) {operation : DhtOperation} {sender : SocketAddr}
    (honest : operation.Honest genuine stored sender) (routing : RoutingTable) (now : Instant)
    (clock : Nat → Instant) :
    ∀ key value expires,
      (node.processOp operation sender routing now clock).2.1.store.lookup key =
        some (value, expires) → (key, value) ∈ stored := by
  intro key value expires found
  cases operation with
  | store senderId storedKey given ttlSeconds =>
    rcases (HashMap.lookup_insert_eq_some_iff ..).mp found with ⟨rfl, same⟩ | ⟨-, before⟩
    · cases same
      exact honest.gives _ _ ⟨rfl, rfl⟩
    · exact keeps key value expires before
  | _ => exact keeps key value expires found

theorem id_processOp (node : DhtNode) (operation : DhtOperation) (sender : SocketAddr)
    (routing : RoutingTable) (now : Instant) (clock : Nat → Instant) :
    (node.processOp operation sender routing now clock).2.1.id = node.id := by
  cases operation <;> rfl

end DhtNode

namespace DhtPeer

/-- A server never panics on what is on the pile, and answers honestly. -/
theorem Sound.serve (sound : peer.Sound genuine stored)
    (plain : ∀ id addr, genuine id addr → addr.IsPlain)
    (short : ∀ given ∈ stored, given.2.length < 2 ^ 16) (now : Instant) (clock : Nat → Instant) :
    ∃ sent, (peer.serve now clock).1 = .ok sent ∧
      peer.Moves genuine stored (sent, (peer.serve now clock).2) := by
  have silent {after : DhtPeer} (kept : after.Sound genuine stored)
      (id : after.runtime.id = peer.runtime.id)
      (address : after.runtime.address = peer.runtime.address) :
      peer.Moves genuine stored ([], after) :=
    ⟨kept, fun _ member => absurd member List.not_mem_nil, id, address⟩
  cases waiting : peer.pile with
  | nil =>
    rw [DhtPeer.serve, waiting]
    exact ⟨[], rfl, silent sound rfl rfl⟩
  | cons first pile =>
    obtain ⟨packet, sender⟩ := first
    have left : ∀ item ∈ pile, item.1.Honest genuine stored item.2 := fun item member =>
      sound.pile item (waiting ▸ List.mem_cons_of_mem _ member)
    obtain ⟨operation, read, honest⟩ :=
      (sound.pile (packet, sender) (waiting ▸ List.mem_cons_self)).read
    rw [DhtPeer.serve, waiting]
    dsimp only
    cases serving : peer.runtime.server with
    | none =>
      rw [DhtRuntime.serve, serving]
      exact ⟨[], rfl, silent { sound with pile := left } rfl rfl⟩
    | some server =>
      obtain ⟨named, keeps⟩ := sound.serves server serving
      have held : Server.Held ⟨server, peer.runtime.routing⟩ :=
        ⟨fun key value expires found => short _ (keeps key value expires found),
          fun index entry member => plain _ _ (sound.lists entry ⟨index, member⟩)⟩
      rw [DhtRuntime.serve, serving]
      dsimp only
      rw [DhtNode.process, Outcome.asOption_eq_ok_some_iff.mpr read]
      dsimp only
      have learns : ((peer.runtime.routing.addNode operation.senderId sender now).2.learn
          operation.listed clock).Lists genuine :=
        (sound.lists.addNode honest.sender now).learn honest.listed clock
      have keepsOn := DhtNode.keeps_processOp keeps honest peer.runtime.routing now clock
      have same := server.id_processOp operation sender peer.runtime.routing now clock
      rw [← server.routing_processOp operation sender peer.runtime.routing now clock] at learns
      have answers (response : DhtOperation) (dest : SocketAddr) :=
        @DhtNode.honest_of_processOp genuine stored server peer.runtime.routing peer.runtime.address
          held (named ▸ sound.own) sound.lists keeps operation response sender dest now clock
      generalize server.processOp operation sender peer.runtime.routing now clock = processed
        at learns keepsOn same answers ⊢
      obtain ⟨response, after, routing⟩ := processed
      refine ⟨response.toList, rfl, ?_, fun sent member => ?_, rfl, rfl⟩
      · refine { sound with lists := learns, serves := ?_, pile := left }
        rintro other here
        obtain rfl := Option.some.inj here
        exact ⟨same.trans named, keepsOn⟩
      · exact answers sent.1 sent.2 (Option.mem_toList.mp member)

end DhtPeer

end Honest

/-! ### Runs of the network -/

namespace DhtNetwork

variable {Site : Type} {sites : Site → NodeID × SocketAddr} {network : DhtNetwork Site}

/-- The address is the one of the node with that name. -/
def Genuine (sites : Site → NodeID × SocketAddr) (id : NodeID) (addr : SocketAddr) : Prop :=
  ∃ site, sites site = (id, addr)

theorem Genuine.isPlain (plain : ∀ site, (sites site).2.IsPlain) {id : NodeID} {addr : SocketAddr}
    (genuine : Genuine sites id addr) : addr.IsPlain := by
  obtain ⟨site, same⟩ := genuine
  have known := plain site
  rwa [same] at known

/-- Every node is sound and has its name, what was sent is honest, and what was stored is short. -/
structure Sound (sites : Site → NodeID × SocketAddr) (network : DhtNetwork Site) : Prop where
  peers : ∀ site, (network.peers site).Sound (Genuine sites) network.stored
  named : ∀ site, ((network.peers site).runtime.id, (network.peers site).runtime.address) =
    sites site
  sent : ∀ packet source dest, (packet, source, dest) ∈ network.sent →
    packet.Honest (Genuine sites) network.stored source
  short : ∀ given ∈ network.stored, given.2.length < 2 ^ 16

theorem sound_start (sites : Site → NodeID × SocketAddr) : (start sites).Sound sites where
  peers site := DhtPeer.sound_bind ⟨site, rfl⟩
  named _ := rfl
  sent _ _ _ none := absurd none List.not_mem_nil
  short _ none := absurd none List.not_mem_nil

theorem Sound.honest (sound : network.Sound sites) {item : PileItem} {destination : SocketAddr}
    (carries : network.Carries item destination) :
    item.1.Honest (Genuine sites) network.stored item.2 := by
  obtain ⟨packet, sent, same⟩ := carries
  obtain ⟨operation, data, honest⟩ := sound.sent packet item.2 destination sent
  exact ⟨operation, by rw [same, data], honest⟩

theorem Sound.give (sound : network.Sound sites) {given : List (Key × Bytes)}
    (fits : ∀ one ∈ given, one.2.length < 2 ^ 16) :
    Sound sites { network with stored := network.stored ++ given } := by
  have grown := List.subset_append_left network.stored given
  refine ⟨fun site => (sound.peers site).mono grown, sound.named,
    fun packet source dest member => (sound.sent packet source dest member).mono grown, ?_⟩
  intro one member
  exact (List.mem_append.mp member).elim (sound.short one) (fits one)

/-- A node that sends nothing. -/
theorem moves_silent {stored : List (Key × Bytes)} {peer after : DhtPeer}
    (kept : after.Sound (Genuine sites) stored)
    (same : after.runtime.id = peer.runtime.id ∧ after.runtime.address = peer.runtime.address) :
    peer.Moves (Genuine sites) stored ([], after) :=
  ⟨kept, fun _ member => absurd member List.not_mem_nil, same.1, same.2⟩

variable [DecidableEq Site]

theorem Sound.move (sound : network.Sound sites) {site : Site}
    {moved : List (DhtOperation × SocketAddr) × DhtPeer}
    (moves : (network.peers site).Moves (Genuine sites) network.stored moved) (ids : Nat → U128) :
    (network.move site moved ids).Sound sites := by
  have named := sound.named site
  refine ⟨fun other => ?_, fun other => ?_, fun packet source dest member => ?_, sound.short⟩
  · by_cases same : other = site
    · subst same
      rw [DhtNetwork.move]
      dsimp only
      rw [Function.update_self]
      exact moves.sound
    · rw [DhtNetwork.move]
      dsimp only
      rw [Function.update_of_ne same]
      exact sound.peers other
  · by_cases same : other = site
    · subst same
      rw [DhtNetwork.move]
      dsimp only
      rw [Function.update_self, moves.id, moves.address]
      exact named
    · rw [DhtNetwork.move]
      dsimp only
      rw [Function.update_of_ne same]
      exact sound.named other
  · rcases List.mem_append.mp member with earlier | new
    · exact sound.sent packet source dest earlier
    · obtain ⟨index, inside, same⟩ := List.mem_mapIdx.mp new
      cases same
      refine ⟨moved.1[index].1, rfl, ?_⟩
      rw [moves.address]
      exact moves.honest _ (List.getElem_mem inside)

theorem Sound.step (plain : ∀ site, (sites site).2.IsPlain) {after : DhtNetwork Site}
    (sound : network.Sound sites) (step : Step network after) : after.Sound sites := by
  cases step with
  | arrive site item carries =>
    exact sound.move (moves_silent ((sound.peers site).arrive (sound.honest carries)) ⟨rfl, rfl⟩) _
  | enableServer site =>
    exact sound.move (moves_silent (sound.peers site).enableServer ⟨rfl, rfl⟩) _
  | begin site call ids idle fits =>
    have given := sound.give fits
    exact given.move ((given.peers site).begin (List.subset_append_right _ _)) ids
  | wait site turn ids carries =>
    refine sound.move ((sound.peers site).wait turn fun arrivals among item member => ?_) ids
    exact sound.honest (carries arrivals among item member)
  | finish site ids ended => exact sound.move ((sound.peers site).finish sound.short) ids
  | serve site now clock ids idle served =>
    obtain ⟨sent, answers, moves⟩ := (sound.peers site).serve
      (fun _ _ => Genuine.isPlain plain) sound.short now clock
    obtain rfl := Except.ok.inj (answers.symm.trans served)
    exact sound.move moves ids
  | evict site now idle =>
    exact sound.move (moves_silent ((sound.peers site).evict now) ⟨rfl, rfl⟩) _

/-- In every run of a network of nodes, whatever it loses, repeats, delays or reorders: the routing
tables know only nodes, each at its address; servers hold only what was stored, under its key; what
lookups return are nodes, and values that were stored; and no packet makes a server panic. -/
theorem knows_only_nodes (sites : Site → NodeID × SocketAddr)
    (plain : ∀ site, (sites site).2.IsPlain) {network : DhtNetwork Site}
    (run : Relation.ReflTransGen Step (start sites) network) (site : Site) :
    (∀ entry, (network.peers site).runtime.routing.Holds entry →
      Genuine sites entry.id entry.addr) ∧
    (∀ server key value expires, (network.peers site).runtime.server = some server →
      server.store.lookup key = some (value, expires) → (key, value) ∈ network.stored) ∧
    (∀ result ∈ (network.peers site).returned,
      (∀ value, result.1 = some value → ∃ key, (key, value) ∈ network.stored) ∧
        ∀ node ∈ result.2, Genuine sites node.1 node.2) ∧
    ∀ now clock, ¬ ((network.peers site).serve now clock).1.Panics := by
  have sound : network.Sound sites :=
    Run.preserves (fun _ _ sound step => sound.step plain step) (sound_start sites) run
  have peer := sound.peers site
  refine ⟨peer.lists, fun server key value expires serving => (peer.serves server serving).2 key
    value expires, fun result member => ?_, fun now clock => ?_⟩
  · exact ⟨(peer.returned result member).value, (peer.returned result member).nodes⟩
  · obtain ⟨sent, answers, _⟩ := peer.serve (fun _ _ => Genuine.isPlain plain) sound.short now
      clock
    rw [answers]
    exact Outcome.not_panics_ok _

/-! ### A node joins -/

def sampleSites : Party → NodeID × SocketAddr
  | .initiator => (⟨SampleSuite.octets 32 1⟩, .v4 (Octets.zero 4) 9001)
  | .responder => (⟨SampleSuite.octets 32 2⟩, .v4 (Octets.zero 4) 9002)

/-- The packet that was sent last. -/
def lastSent (network : DhtNetwork Site) : PileItem :=
  (network.sent.getLast?.map fun sent => (sent.1, sent.2.1)).getD
    (.new 0 0 (.new .message []), .v4 (Octets.zero 4) 0)

def sampleIds (index : Nat) : U128 := BitVec.ofNat 128 (index + 1)

/-- One node serves, and another one asks it for nodes. -/
def sampleAsking : DhtNetwork Party :=
  let serving := (start sampleSites).move .responder ([], { (start sampleSites).peers .responder with
    runtime := ((start sampleSites).peers .responder).runtime.enableServer }) fun _ => 0
  serving.move .initiator ((serving.peers .initiator).begin
    (.join [(sampleSites .responder).2])) sampleIds

/-- The query arrives. -/
def sampleAsked : DhtNetwork Party :=
  sampleAsking.move .responder ([], { sampleAsking.peers .responder with
    pile := (sampleAsking.peers .responder).pile ++ [lastSent sampleAsking] }) fun _ => 0

/-- It is answered. -/
def sampleAnswering : DhtNetwork Party :=
  let served := (sampleAsked.peers .responder).serve 0 fun _ => 0
  sampleAsked.move .responder (served.1.toOption.getD [], served.2) sampleIds

/-- The answer arrives. -/
def sampleJoined : DhtNetwork Party :=
  sampleAnswering.move .initiator ((sampleAnswering.peers .initiator).wait
    { turns := [[lastSent sampleAnswering]], now := 0, clock := fun _ => 0 }) sampleIds

theorem sampleJoined_knows_only_nodes :
    ((sampleJoined.peers .initiator).runtime.routing.closestNodes (sampleSites .responder).1 1 =
      [sampleSites .responder]) ∧
    ∀ entry, (sampleJoined.peers .initiator).runtime.routing.Holds entry →
      Genuine sampleSites entry.id entry.addr := by
  have asks : Relation.ReflTransGen Step (start sampleSites) sampleAsking := by
    refine .tail (.single (.enableServer _ Party.responder)) (.begin _ Party.initiator
      (.join [(sampleSites .responder).2]) sampleIds rfl ?_)
    exact fun _ member => absurd member List.not_mem_nil
  have carried : sampleAsking.Carries (lastSent sampleAsking) (sampleSites .responder).2 :=
    ⟨(lastSent sampleAsking).1, by decide +kernel, rfl⟩
  have asked : Step sampleAsking sampleAsked :=
    .arrive sampleAsking Party.responder _ carried
  have answers : Step sampleAsked sampleAnswering := by
    refine .serve sampleAsked Party.responder 0 (fun _ => 0) sampleIds rfl ?_
    decide +kernel
  have returned : sampleAnswering.Carries (lastSent sampleAnswering) (sampleSites .initiator).2 :=
    ⟨(lastSent sampleAnswering).1, by decide +kernel, rfl⟩
  have joins : Step sampleAnswering sampleJoined := by
    refine .wait sampleAnswering Party.initiator _ sampleIds ?_
    intro arrivals among item member
    obtain rfl := List.mem_singleton.mp among
    obtain rfl := List.mem_singleton.mp member
    exact returned
  have run : Relation.ReflTransGen Step (start sampleSites) sampleJoined :=
    ((asks.tail asked).tail answers).tail joins
  have plain (site : Party) : (sampleSites site).2.IsPlain := by
    cases site <;> rfl
  exact ⟨by decide +kernel, (knows_only_nodes sampleSites plain run .initiator).1⟩

end DhtNetwork

end Insub
