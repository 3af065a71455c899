/-
This file proves that what a server answers survives the wire. It answers with nodes of its routing
table and with values that were stored, and both came off the wire themselves: addresses without
flow info and scope id, and values whose length fits two bytes. The one exception is the address
that a datagram comes from, which the socket knows. So as long as those have neither, every
response in every run can be written and read again.
-/

import Mathlib
import Insub.Dht.Codec
import Insub.Dht.Hearsay

namespace Insub

open Rust

/-! ### One operation -/

namespace DhtNode

/-- A packet with an operation whose lengths fit is processed as that operation. -/
theorem process_eq {node : DhtNode} {packet : Packet} {operation : DhtOperation}
    (carries : packet.payload.data = operation.serialize) (encodable : operation.Encodable)
    (sender : SocketAddr) (routing : RoutingTable) (now : Instant) (clock : Nat → Instant) :
    node.process packet sender routing now clock =
      (.ok (node.processOp operation sender routing now clock).1,
        (node.processOp operation sender routing now clock).2) := by
  have read := DhtOperation.fromSerialized_serialize_append encodable.fits []
  rw [List.append_nil, encodable.plain] at read
  rw [process, carries, Outcome.asOption_eq_ok_some_iff.mpr read]

/-- A value that a server holds and that has not expired is what it answers. -/
theorem processOp_findValue {node : DhtNode} {key : Key} {value : Bytes} {expires : Instant}
    (held : node.store.lookup key = some (value, expires)) {now : Instant} (fresh : now < expires)
    (asker : NodeID) (asking : SocketAddr) (routing : RoutingTable) (clock : Nat → Instant) :
    (node.processOp (.findValue asker key) asking routing now clock).1 =
      some (.value node.id key (some value) (closestTo routing { id := key } asker), asking) := by
  rw [processOp]
  dsimp only [DhtOperation.senderId]
  rw [held, Option.filter_some, if_pos (decide_eq_true fresh)]
  rfl

end DhtNode

/-! ### Addresses in a routing table -/

namespace Bucket

/-- No address in the bucket has flow info or a scope id. -/
def IsPlain (bucket : Bucket) : Prop :=
  ∀ entry, entry ∈ bucket.active ∨ entry ∈ bucket.candidates → entry.addr.IsPlain

theorem IsPlain.pingOldest {bucket : Bucket} (plain : bucket.IsPlain) (now : Instant) :
    (bucket.pingOldest now).2.IsPlain := by
  rcases bucket.pingOldest_cases now with unmarked | ⟨position, entry, place, marked⟩
  · rw [unmarked]
    exact plain
  · rw [marked]
    rintro other (active | candidate)
    · rcases List.mem_or_eq_of_mem_set active with before | rfl
      · exact plain other (Or.inl before)
      · exact plain entry (Or.inl (List.mem_of_getElem? place))
    · exact plain other (Or.inr candidate)

theorem IsPlain.addNode {bucket : Bucket} (plain : bucket.IsPlain) (node : NodeID)
    {addr : SocketAddr} (addrPlain : addr.IsPlain) (now : Instant) :
    (bucket.addNode node addr now).2.IsPlain := by
  have grown : ∀ (active candidates : List Entry),
      (∀ entry ∈ active, entry ∈ bucket.active ∨ entry.addr = addr) →
        (∀ entry ∈ candidates, entry ∈ bucket.candidates ∨ entry.addr = addr) →
          Bucket.IsPlain ⟨active, candidates⟩ := by
    rintro active candidates fromActive fromCandidates entry (member | member)
    · rcases fromActive entry member with before | new
      · exact plain entry (Or.inl before)
      · exact new ▸ addrPlain
    · rcases fromCandidates entry member with before | new
      · exact plain entry (Or.inr before)
      · exact new ▸ addrPlain
  have appended : ∀ (kept list : List Entry) (entry : Entry), kept ⊆ list → entry.addr = addr →
      ∀ other ∈ kept ++ [entry], other ∈ list ∨ other.addr = addr := by
    intro kept list entry subset new other member
    rcases List.mem_append.mp member with before | last
    · exact Or.inl (subset before)
    · exact Or.inr (List.mem_singleton.mp last ▸ new)
  have enters := bucket.addNode_enters node addr now
  generalize bucket.addNode node addr now = result at enters ⊢
  cases enters with
  | active => exact grown _ _ (appended _ _ _ List.eraseIdx_subset rfl) fun _ => Or.inl
  | waiting => exact grown _ _ (fun _ => Or.inl) (appended _ _ _ List.eraseIdx_subset rfl)
  | served => exact grown _ _ (appended _ _ _ (List.Subset.refl _) rfl) fun _ => Or.inl
  | queued =>
    refine IsPlain.pingOldest ?_ now
    exact grown _ _ (fun _ => Or.inl) (appended _ _ _ (List.Subset.refl _) rfl)
  | dropped => exact plain

theorem mem_of_mem_moveStale {now : Instant} {active candidates : List Entry} {entry : Entry}
    (member : entry ∈ (moveStale now active candidates).1 ∨
      entry ∈ (moveStale now active candidates).2) : entry ∈ active ∨ entry ∈ candidates := by
  induction active generalizing candidates with
  | nil => exact member
  | cons first rest inductionHypothesis =>
    rw [moveStale] at member
    split at member
    · rcases inductionHypothesis member with later | candidate
      · exact Or.inl (List.mem_cons_of_mem _ later)
      · split at candidate
        · rcases List.mem_append.mp candidate with before | new
          · exact Or.inr before
          · exact Or.inl (List.mem_singleton.mp new ▸ List.mem_cons_self)
        · exact Or.inr candidate
    · rcases member with active | candidate
      · rcases List.mem_cons.mp active with rfl | later
        · exact Or.inl List.mem_cons_self
        · exact (inductionHypothesis (Or.inl later)).imp_left (List.mem_cons_of_mem _)
      · exact (inductionHypothesis (Or.inr candidate)).imp_left (List.mem_cons_of_mem _)

theorem IsPlain.evictStale {bucket : Bucket} (plain : bucket.IsPlain) (now : Instant) :
    (bucket.evictStale now).IsPlain := by
  intro entry member
  refine plain entry ?_
  rw [Bucket.evictStale] at member
  dsimp only at member
  obtain ⟨perm, _⟩ := promote_perm (Routing.k - (moveStale now bucket.active
    (bucket.candidates.filter fun entry =>
      durationSince now entry.lastSeen < Routing.staleThreshold)).1.length) (moveStale now
        bucket.active (bucket.candidates.filter fun entry =>
          durationSince now entry.lastSeen < Routing.staleThreshold)).1 (moveStale now
            bucket.active (bucket.candidates.filter fun entry =>
              durationSince now entry.lastSeen < Routing.staleThreshold)).2
  have moved := perm.mem_iff.mp (List.mem_append.mpr member)
  exact (mem_of_mem_moveStale (List.mem_append.mp moved)).imp_right List.mem_of_mem_filter

end Bucket

namespace RoutingTable

/-- No address in the table has flow info or a scope id. -/
def IsPlain (table : RoutingTable) : Prop := ∀ index, (table.buckets index).IsPlain

theorem isPlain_new (localId : NodeID) : (new localId).IsPlain := by
  rintro index entry (member | member)
  · exact absurd member List.not_mem_nil
  · exact absurd member List.not_mem_nil

theorem IsPlain.put {table : RoutingTable} (plain : table.IsPlain) (index : Fin 256)
    {bucket : Bucket} (bucketPlain : bucket.IsPlain) : (table.put index bucket).IsPlain := by
  intro other
  by_cases same : other = index
  · rw [RoutingTable.put, same]
    dsimp only
    rw [Function.update_self]
    exact bucketPlain
  · rw [RoutingTable.put]
    dsimp only
    rw [Function.update_of_ne same]
    exact plain other

/-- The call enters no address with flow info or a scope id. -/
def EntersPlain : RoutingCall → Prop
  | .addNode _ addr _ => addr.IsPlain
  | _ => True

theorem IsPlain.addNode {table : RoutingTable} (plain : table.IsPlain) (node : NodeID)
    {addr : SocketAddr} (addrPlain : addr.IsPlain) (now : Instant) :
    (table.addNode node addr now).2.IsPlain := by
  unfold RoutingTable.addNode
  split
  · exact plain
  · exact plain.put _ ((plain _).addNode node addrPlain now)

theorem IsPlain.perform {table : RoutingTable} (plain : table.IsPlain) {call : RoutingCall}
    (enters : EntersPlain call) : (table.perform call).IsPlain := by
  cases call with
  | addNode node addr now => exact plain.addNode node enters now
  | removeNode node =>
    refine plain.put _ fun entry member => plain (table.bucket node) entry ?_
    exact member.imp List.mem_of_mem_filter List.mem_of_mem_filter
  | needsPing target now => exact plain.put _ ((plain _).pingOldest now)
  | evictStale now => exact fun index => (plain index).evictStale now

theorem IsPlain.learn {table : RoutingTable} (plain : table.IsPlain) {listed : NodeList}
    (listedPlain : ∀ node ∈ listed, node.2.IsPlain) (clock : Nat → Instant) :
    (table.learn listed clock).IsPlain := by
  induction listed generalizing table clock with
  | nil => exact plain
  | cons node rest inductionHypothesis =>
    obtain ⟨id, addr⟩ := node
    exact inductionHypothesis (plain.addNode id (listedPlain (id, addr) List.mem_cons_self) _)
      (fun node member => listedPlain node (List.mem_cons_of_mem _ member)) _

theorem mem_activeNodes_of_gather {table : RoutingTable} {start : Fin 256} {count : Nat}
    {offsets : List Nat} {out : List (NodeID × SocketAddr)} {node : NodeID × SocketAddr}
    (member : node ∈ table.gather start count offsets out) :
    node ∈ out ∨ ∃ index, node ∈ table.activeNodes index := by
  induction offsets generalizing out with
  | nil => exact Or.inl member
  | cons offset rest inductionHypothesis =>
    rw [gather] at member
    split at member
    · rcases inductionHypothesis member with found | later
      · refine (List.mem_append.mp found).imp_right fun new => ?_
        obtain ⟨index, _, active⟩ := List.mem_flatMap.mp new
        exact ⟨index, active⟩
      · exact Or.inr later
    · exact Or.inl member

/-- The closest nodes are in service in the table. -/
theorem mem_activeNodes_of_closestNodes {table : RoutingTable} {target : NodeID} {count : Nat}
    {node : NodeID × SocketAddr} (member : node ∈ table.closestNodes target count) :
    ∃ index, node ∈ table.activeNodes index := by
  rw [RoutingTable.closestNodes] at member
  have gathered := (Nearest.perm_sortByKey _ _).mem_iff.mp (List.mem_of_mem_take member)
  rcases mem_activeNodes_of_gather gathered with own | other
  · exact ⟨_, own⟩
  · exact other

theorem IsPlain.closestNodes {table : RoutingTable} (plain : table.IsPlain) (target : NodeID)
    (count : Nat) : ∀ node ∈ table.closestNodes target count, node.2.IsPlain := by
  intro node member
  obtain ⟨index, active⟩ := mem_activeNodes_of_closestNodes member
  obtain ⟨entry, held, rfl⟩ := List.mem_map.mp active
  exact plain index entry (Or.inl held)

end RoutingTable

/-! ### Runs of a server -/

/-- A server and the routing table it shares with the client. -/
structure Server where
  node : DhtNode
  routing : RoutingTable

namespace Server

inductive Event
  | received (packet : Packet) (sender : SocketAddr) (now : Instant) (clock : Nat → Instant)
  | call (call : RoutingCall)

def perform (server : Server) : Event → Server
  | .received packet sender now clock =>
    let processed := server.node.process packet sender server.routing now clock
    ⟨processed.2.1, processed.2.2⟩
  | .call call => ⟨server.node, server.routing.perform call⟩

/-- The socket saw no flow info and no scope id. -/
def PlainEvent : Event → Prop
  | .received _ sender _ _ => sender.IsPlain
  | .call call => RoutingTable.EntersPlain call

/-- The events that happened all came from addresses that the wire carries whole. -/
def Reachable (server : Server) : Prop :=
  ∃ (id localId : NodeID) (addr : SocketAddr) (events : List Event),
    (∀ event ∈ events, PlainEvent event) ∧
      server = events.foldl perform ⟨.new id addr, .new localId⟩

/-- Whatever the server holds can be written on the wire. -/
structure Held (server : Server) : Prop where
  stored : ∀ key value expires, server.node.store.lookup key = some (value, expires) →
    value.length < 2 ^ 16
  plain : server.routing.IsPlain

theorem isPlain_learn_carried {table : RoutingTable} (plain : table.IsPlain)
    {operation : DhtOperation} (encodable : operation.Encodable) (clock : Nat → Instant) :
    (table.learn operation.listed clock).IsPlain := by
  refine plain.learn ?_ clock
  have unchanged {listed : NodeList}
      (same : listed.map (fun node => (node.1, node.2.plain)) = listed) :
      ∀ node ∈ listed, node.2.IsPlain := by
    intro node member
    rw [← same] at member
    obtain ⟨other, _, rfl⟩ := List.mem_map.mp member
    exact SocketAddr.isPlain_plain other.2
  have plainListed := encodable.plain
  cases operation with
  | nodes senderId listed => exact unchanged (DhtOperation.nodes.inj plainListed).2
  | value senderId key held closestNodes =>
    exact unchanged (DhtOperation.value.inj plainListed).2.2.2
  | _ => exact fun _ member => absurd member List.not_mem_nil

theorem Held.processOp {server : Server} (held : server.Held) {operation : DhtOperation}
    (encodable : operation.Encodable) {sender : SocketAddr} (plain : sender.IsPlain)
    (now : Instant) (clock : Nat → Instant) :
    Held ⟨(server.node.processOp operation sender server.routing now clock).2.1,
      (server.node.processOp operation sender server.routing now clock).2.2⟩ := by
  refine ⟨?_, ?_⟩
  · intro key value expires found
    cases operation with
    | store senderId storedKey stored ttlSeconds =>
      rcases (HashMap.lookup_insert_eq_some_iff ..).mp found with ⟨-, same⟩ | ⟨-, before⟩
      · cases same
        exact encodable.fits
      · exact held.stored key value expires before
    | _ => exact held.stored key value expires found
  · rw [DhtNode.routing_processOp]
    exact isPlain_learn_carried (held.plain.addNode _ plain now) encodable clock

theorem Held.perform {server : Server} (held : server.Held) {event : Event}
    (plain : PlainEvent event) : (server.perform event).Held := by
  cases event with
  | call call => exact ⟨held.stored, held.plain.perform plain⟩
  | received packet sender now clock =>
    rw [Server.perform, DhtNode.process]
    rcases parsed : (DhtOperation.fromSerialized packet.payload.data).asOption with
      fault | _ | operation
    · exact held
    · exact held
    · exact held.processOp (DhtOperation.encodable_of_fromSerialized
        (Outcome.asOption_eq_ok_some_iff.mp parsed)) plain now clock

theorem Reachable.held {server : Server} (reachable : server.Reachable) : server.Held := by
  obtain ⟨id, localId, addr, events, plain, rfl⟩ := reachable
  have run : Relation.ReflTransGen
      (fun before after => ∃ event, PlainEvent event ∧ after = perform before event)
        ⟨.new id addr, .new localId⟩ (events.foldl perform ⟨.new id addr, .new localId⟩) :=
    Run.of_foldl (fun state event member => ⟨event, plain event member, rfl⟩) _
  refine Run.preserves ?_ ⟨?_, RoutingTable.isPlain_new localId⟩ run
  · rintro before after held ⟨event, plainEvent, rfl⟩
    exact held.perform plainEvent
  · intro key value expires found
    cases found

/-- A list of closest nodes is short, and the wire carries its addresses whole. -/
theorem closestTo_carried {table : RoutingTable} (plain : table.IsPlain)
    (target asking : NodeID) :
    (DhtNode.closestTo table target asking).length < 2 ^ 16 ∧
      (DhtNode.closestTo table target asking).map (fun (id, addr) => (id, addr.plain)) =
        DhtNode.closestTo table target asking := by
  have short : (table.closestNodes target Routing.k).length ≤ Routing.k :=
    List.length_take_le _ _
  refine ⟨?_, ?_⟩
  · calc
      (DhtNode.closestTo table target asking).length ≤ Routing.k :=
        (List.length_filter_le _ _).trans short
      _ < 2 ^ 16 := by decide
  · calc
      (DhtNode.closestTo table target asking).map (fun (id, addr) => (id, addr.plain)) =
          (DhtNode.closestTo table target asking).map id :=
        List.map_congr_left fun node member => Prod.ext rfl
          (plain.closestNodes target Routing.k node (List.mem_of_mem_filter member))
      _ = DhtNode.closestTo table target asking := List.map_id _

theorem encodable_of_processOp {server : Server} (held : server.Held)
    {operation response : DhtOperation} {sender destination : SocketAddr} {now : Instant}
    {clock : Nat → Instant}
    (answered : (server.node.processOp operation sender server.routing now clock).1 =
      some (response, destination)) : response.Encodable := by
  cases operation with
  | ping senderId =>
    cases answered
    exact ⟨trivial, rfl⟩
  | findNode senderId targetId =>
    cases answered
    obtain ⟨fits, same⟩ := closestTo_carried held.plain targetId senderId
    exact ⟨fits, congrArg (DhtOperation.nodes _) same⟩
  | findValue senderId key =>
    cases answered
    obtain ⟨fits, same⟩ := closestTo_carried held.plain { id := key } senderId
    refine ⟨⟨?_, fits⟩, congrArg (DhtOperation.value _ _ _) same⟩
    intro value here
    obtain ⟨⟨_, expires⟩, found, rfl⟩ := Option.map_eq_some_iff.mp here
    exact held.stored key _ expires (Option.filter_eq_some_iff.mp found).1
  | store senderId key value ttlSeconds =>
    cases answered
    exact ⟨trivial, rfl⟩
  | _ => cases answered

/-- Whatever a server answers can be written and read again. -/
theorem encodable_of_process {server : Server} (held : server.Held) {packet : Packet}
    {response : DhtOperation} {sender destination : SocketAddr} {now : Instant}
    {clock : Nat → Instant}
    (answered : (server.node.process packet sender server.routing now clock).1 =
      .ok (some (response, destination))) : response.Encodable := by
  rw [DhtNode.process] at answered
  rcases parsed : (DhtOperation.fromSerialized packet.payload.data).asOption with
    fault | _ | operation
  · rw [parsed] at answered
    cases answered
  · rw [parsed] at answered
    cases answered
  · rw [parsed] at answered
    exact encodable_of_processOp held (Except.ok.inj answered)

end Server

namespace DhtOperation

/-- Every operation that the wire can carry is read back, whatever follows it. The wire can carry
whatever the parser yields, and whatever a server answers in a run. -/
theorem codec_round_trip :
    (∀ operation : DhtOperation, operation.Encodable → ∀ rest : Bytes,
      fromSerialized (operation.serialize ++ rest) = .ok operation) ∧
    (∀ (bytes : Bytes) (operation : DhtOperation), fromSerialized bytes = .ok operation →
      operation.Encodable ∧ fromSerialized operation.serialize = .ok operation) ∧
    ∀ (server : Server) (packet : Packet) (response : DhtOperation) (sender destination : SocketAddr)
      (now : Instant) (clock : Nat → Instant), server.Reachable →
        (server.node.process packet sender server.routing now clock).1 =
          .ok (some (response, destination)) →
            response.Encodable ∧ fromSerialized response.serialize = .ok response := by
  have carried (operation : DhtOperation) (encodable : operation.Encodable) (rest : Bytes) :
      fromSerialized (operation.serialize ++ rest) = .ok operation := by
    rw [fromSerialized_serialize_append encodable.fits, encodable.plain]
  have alone (operation : DhtOperation) (encodable : operation.Encodable) :
      fromSerialized operation.serialize = .ok operation := by
    simpa using carried operation encodable []
  refine ⟨carried, ?_, ?_⟩
  · intro bytes operation read
    have encodable := encodable_of_fromSerialized read
    exact ⟨encodable, alone operation encodable⟩
  · intro server packet response sender destination now clock reachable answered
    have encodable := Server.encodable_of_process reachable.held answered
    exact ⟨encodable, alone response encodable⟩

def sampleName (value : BitVec 256) : NodeID := { id := beBytes 32 value }

/-- Node `0` hears from node `1` of node `2`, and stores a value for node `3`. -/
def sampleServer : Server :=
  let addr : SocketAddr := .v4 (Octets.zero 4) 9000
  let packet (operation : DhtOperation) : Packet :=
    Packet.new 0 0 (Payload.new .dhtOperation operation.serialize)
  [.received (packet (.nodes (sampleName 1) [(sampleName 2, .v6 (Octets.zero 16) 9002 0 0)])) addr 1
      fun _ => 1,
    .received (packet (.store (sampleName 3) (Octets.zero 32) [1, 2, 3] 60)) addr 2
      fun _ => 2].foldl Server.perform ⟨.new (sampleName 0) addr, .new (sampleName 0)⟩

theorem sampleServer_reachable : sampleServer.Reachable := by
  refine ⟨sampleName 0, sampleName 0, .v4 (Octets.zero 4) 9000, _, fun event member => ?_, rfl⟩
  rcases List.mem_cons.mp member with rfl | last
  · rfl
  · rw [List.mem_singleton.mp last]
    rfl

/-- A value with two nodes is read back with a byte behind it; and so is it when the server hands
it out. -/
theorem value_round_trip :
    let addr : SocketAddr := .v4 (Octets.zero 4) 9000
    let query := Packet.new 0 0 (Payload.new .dhtOperation
      (findValue (sampleName 3) (Octets.zero 32)).serialize)
    let answer := value (sampleName 0) (Octets.zero 32) (some [1, 2, 3])
      [(sampleName 1, addr), (sampleName 2, .v6 (Octets.zero 16) 9002 0 0)]
    fromSerialized (answer.serialize ++ [7]) = .ok answer ∧
      (sampleServer.node.process query addr sampleServer.routing 3 fun _ => 3).1 =
        .ok (some (answer, addr)) ∧ fromSerialized answer.serialize = .ok answer := by
  intro addr query answer
  have encodable : answer.Encodable := by
    refine ⟨⟨fun bytes held => ?_, by decide⟩, rfl⟩
    rw [← Option.some.inj held]
    decide
  have answered : (sampleServer.node.process query addr sampleServer.routing 3 fun _ => 3).1 =
      .ok (some (answer, addr)) := by
    decide +kernel
  exact ⟨codec_round_trip.1 answer encodable [7], answered,
    (codec_round_trip.2.2 sampleServer query answer addr addr 3 _ sampleServer_reachable answered).2⟩

end DhtOperation

end Insub
