/-
This file proves when the nodes that are evicted have been asked for a sign of life. Entering
a node may select another one and mark it as pinged, and leaves the sending to its caller.
Only the lookups send the ping; the server, and whoever enters the nodes that an answer lists,
drop it, and without a server an answer to a ping is dropped. So an eviction rests on a real
ping exactly as long as no one drops what he is handed.
-/

import Mathlib
import Insub.Dht.Selection
import Insub.Runtime.Dht

namespace Insub

open Rust

/-! ### A run, with its traffic -/

/-- What passes between a runtime and the other nodes. -/
inductive Traffic
  | sent (operation : DhtOperation) (destination : SocketAddr) (now : Instant)
  | received (operation : DhtOperation) (sender : SocketAddr)

/-- A runtime, with its traffic, the latest first. -/
structure DhtTrace where
  runtime : DhtRuntime
  traffic : List Traffic

/-- What happens to a runtime. The lookups are their first query, an answer for each further
one, and what they do when none comes. -/
inductive DhtEvent
  | enableServer
  | join (seeds : List SocketAddr) (now : Instant)
  | lookupNode (target : NodeID) (now : Instant)
  | findValue (key : Key) (now : Instant)
  | answer (response : DhtOperation) (sender : SocketAddr) (now : Instant) (clock : Nat → Instant)
  | giveUp (now : Instant)
  | serve (packet : Packet) (sender : SocketAddr) (now : Instant) (clock : Nat → Instant)
  | evict (now : Instant)

/-- The operation a packet brings. -/
def Packet.operation (packet : Packet) : Option DhtOperation :=
  (DhtOperation.fromSerialized packet.payload.data).toOption

namespace DhtTrace

def start (id : NodeID) (address : SocketAddr) : DhtTrace where
  runtime := DhtRuntime.bind id address
  traffic := []

/-- Operations are received, then others are sent. -/
def pass (trace : DhtTrace) (runtime : DhtRuntime) (received : List (DhtOperation × SocketAddr))
    (sent : List (DhtOperation × SocketAddr)) (now : Instant) : DhtTrace where
  runtime := runtime
  traffic :=
    (sent.map fun (operation, destination) => Traffic.sent operation destination now).reverse ++
      ((received.map fun (operation, sender) => Traffic.received operation sender) ++
        trace.traffic)

/-- The first query of a lookup is sent. -/
def ask (trace : DhtTrace) (lookup : Lookup) (now : Instant) : DhtTrace :=
  trace.pass { trace.runtime with client := lookup.client } [] lookup.next.toList now

/-- One event. There is none after a panic. -/
def perform (trace : DhtTrace) : DhtEvent → Option DhtTrace
  | .enableServer => some { trace with runtime := trace.runtime.enableServer }
  | .join seeds now =>
    some (trace.ask (.join trace.runtime.client trace.runtime.routing seeds) now)
  | .lookupNode target now =>
    some (trace.ask (.lookupNode trace.runtime.client trace.runtime.routing target) now)
  | .findValue key now =>
    some (trace.ask (.findValue trace.runtime.client trace.runtime.routing key) now)
  | .answer response sender now clock =>
    match trace.runtime.takeAnswer response sender now clock with
    | (sent, runtime) => some (trace.pass runtime [(response, sender)] sent now)
  | .giveUp now =>
    match trace.runtime.giveUp with
    | (sent, runtime) => some (trace.pass runtime [] sent now)
  | .serve packet sender now clock =>
    let received := packet.operation.toList.map fun operation => (operation, sender)
    match trace.runtime.serve packet sender now clock with
    | (.ok sent, runtime) => some (trace.pass runtime received sent now)
    | (.error _, _) => none
  | .evict now => some { trace with runtime := trace.runtime.evictStale now }

def Step (before after : DhtTrace) : Prop := ∃ event, before.perform event = some after

/-- A ping was sent to an address at a time, and nothing was received from the node since. -/
def Pinged (trace : DhtTrace) (id : NodeID) (addr : SocketAddr) (pinged : Instant) : Prop :=
  ∃ later earlier asker, trace.traffic = later ++ .sent (.ping asker) addr pinged :: earlier ∧
    ∀ operation sender, Traffic.received operation sender ∈ later → operation.senderId ≠ id

/-- Who is evicted, and who is counted as stale at all, was pinged long enough ago, and
nothing was received from him since. -/
structure EvictsPinged (trace : DhtTrace) (now : Instant) : Prop where
  evicted : ∀ index, ∀ entry ∈ (trace.runtime.routing.buckets index).active,
    entry ∉ ((trace.runtime.evictStale now).routing.buckets index).active →
      ∃ pinged, trace.Pinged entry.id entry.addr pinged ∧ seconds 120 < durationSince now pinged
  stale : ∀ entry, trace.runtime.routing.Holds entry → Bucket.isStale now entry = true →
    ∃ pinged, trace.Pinged entry.id entry.addr pinged ∧ seconds 120 < durationSince now pinged

/-! ### The condition -/

/-- No one drops a node to ping, nor an operation of a node that is marked: what the server
enters selects none, nor what a lookup is told of, and without a server no operation comes from
a marked node. -/
def Attentive (trace : DhtTrace) : DhtEvent → Prop
  | .answer response sender now clock =>
    (trace.runtime.routing.addNode response.senderId sender now).2.LearnsQuietly
      (if trace.runtime.client.pending.isSome then response.listed else []) clock
  | .serve packet sender now clock =>
    ∀ operation, packet.operation = some operation →
      if trace.runtime.server.isSome then
        ¬ trace.runtime.routing.SelectsPing operation.senderId now ∧
          (trace.runtime.routing.addNode operation.senderId sender now).2.LearnsQuietly
            operation.listed clock
      else
        ∀ entry, trace.runtime.routing.Holds entry → entry.id = operation.senderId →
          entry.lastPinged = none
  | _ => True

/-- A step of which every part is attentive. -/
def AttentiveStep (before after : DhtTrace) : Prop :=
  ∃ event, before.Attentive event ∧ before.perform event = some after

/-! ### Every mark stands for a ping -/

/-- Every entry that is marked was pinged, and nothing was received from its node since. -/
structure Asked (trace : DhtTrace) : Prop where
  placed : trace.runtime.routing.Placed
  pinged : ∀ entry pinged, trace.runtime.routing.Holds entry → entry.lastPinged = some pinged →
    trace.Pinged entry.id entry.addr pinged

theorem asked_start (id : NodeID) (address : SocketAddr) : (start id address).Asked where
  placed := fun _ => Bucket.valid_new
  pinged := by
    rintro entry pinged ⟨_, none | none⟩ <;> cases none

/-- A ping counts as long as nothing is received from the node. -/
theorem Pinged.pass {trace : DhtTrace} {id : NodeID} {addr : SocketAddr} {pinged : Instant}
    (before : trace.Pinged id addr pinged) {runtime : DhtRuntime}
    {received sent : List (DhtOperation × SocketAddr)} {now : Instant}
    (silent : ∀ operation sender, (operation, sender) ∈ received → operation.senderId ≠ id) :
    (trace.pass runtime received sent now).Pinged id addr pinged := by
  obtain ⟨later, earlier, asker, traffic, quiet⟩ := before
  refine ⟨(sent.map fun (operation, destination) => Traffic.sent operation destination now).reverse
    ++ ((received.map fun (operation, sender) => Traffic.received operation sender) ++ later),
    earlier, asker, ?_, ?_⟩
  · rw [DhtTrace.pass]
    dsimp only
    rw [traffic, List.append_assoc, List.append_assoc]
  · intro operation sender member
    rcases List.mem_append.mp member with here | rest
    · obtain ⟨_, _, other⟩ := List.mem_map.mp (List.mem_reverse.mp here)
      cases other
    rcases List.mem_append.mp rest with here | past
    · obtain ⟨_, among, same⟩ := List.mem_map.mp here
      cases same
      exact silent _ _ among
    · exact quiet operation sender past

/-- A ping that is sent now counts. -/
theorem pinged_of_sent (trace : DhtTrace) (runtime : DhtRuntime)
    (received : List (DhtOperation × SocketAddr)) {sent : List (DhtOperation × SocketAddr)}
    (now : Instant) (id asker : NodeID) {addr : SocketAddr}
    (member : (.ping asker, addr) ∈ sent) :
    (trace.pass runtime received sent now).Pinged id addr now := by
  obtain ⟨first, rest, rfl⟩ := List.append_of_mem member
  refine ⟨(rest.map fun (operation, destination) => Traffic.sent operation destination now).reverse,
    (first.map fun (operation, destination) => Traffic.sent operation destination now).reverse ++
      ((received.map fun (operation, sender) => Traffic.received operation sender) ++
        trace.traffic), asker, ?_, ?_⟩
  · rw [DhtTrace.pass]
    dsimp only
    rw [List.map_append, List.map_cons, List.reverse_append, List.reverse_cons,
      List.append_assoc, List.append_assoc, List.singleton_append]
  · intro operation sender among
    obtain ⟨_, _, other⟩ := List.mem_map.mp (List.mem_reverse.mp among)
    cases other

/-- What a runtime holds after some traffic is asked, if every mark is an old one of a node
that is silent, or stands for a ping that is sent now. -/
theorem Asked.pass {trace : DhtTrace} (asked : trace.Asked) {runtime : DhtRuntime}
    {received sent : List (DhtOperation × SocketAddr)} {now : Instant}
    (placed : runtime.routing.Placed)
    (marked : ∀ entry pinged, runtime.routing.Holds entry → entry.lastPinged = some pinged →
      (trace.runtime.routing.Holds entry ∧
          ∀ operation sender, (operation, sender) ∈ received → operation.senderId ≠ entry.id) ∨
        pinged = now ∧ ∃ asker, (.ping asker, entry.addr) ∈ sent) :
    (trace.pass runtime received sent now).Asked where
  placed := placed
  pinged := by
    intro entry pinged held mark
    rcases marked entry pinged held mark with ⟨before, silent⟩ | ⟨rfl, asker, member⟩
    · exact (asked.pinged entry pinged before mark).pass silent
    · exact trace.pinged_of_sent runtime received pinged entry.id asker member

/-- Traffic that leaves the routing table alone, and in which nothing is received. -/
theorem Asked.quiet {trace : DhtTrace} (asked : trace.Asked) {runtime : DhtRuntime}
    (same : runtime.routing = trace.runtime.routing) (sent : List (DhtOperation × SocketAddr))
    (now : Instant) : (trace.pass runtime [] sent now).Asked := by
  refine asked.pass ?_ fun entry pinged held _ => Or.inl ⟨?_, fun _ _ among => ?_⟩
  · rw [same]
    exact asked.placed
  · rwa [same] at held
  · cases among

/-- The lookups enter the sender of an answer, and ping whom this selects. -/
theorem Asked.takeAnswer {trace : DhtTrace} (asked : trace.Asked) (response : DhtOperation)
    (sender : SocketAddr) (now : Instant) (clock : Nat → Instant)
    (quiet : trace.Attentive (.answer response sender now clock)) :
    (trace.pass (trace.runtime.takeAnswer response sender now clock).2 [(response, sender)]
      (trace.runtime.takeAnswer response sender now clock).1 now).Asked := by
  have entered : (trace.runtime.routing.addNode response.senderId sender now).2.Placed :=
    asked.placed.perform (.addNode response.senderId sender now)
  have routing : (trace.runtime.takeAnswer response sender now clock).2.routing =
      (trace.runtime.routing.addNode response.senderId sender now).2.learn
        (if trace.runtime.client.pending.isSome then response.listed else []) clock :=
    trace.runtime.client.routing_handleResponse response _ clock
  refine asked.pass (routing ▸ entered.learn _ clock) fun entry pinged held mark => ?_
  rw [routing] at held
  have before := RoutingTable.holds_of_learnsQuietly entered quiet held mark
  rcases RoutingTable.addNode_cases asked.placed before with
    ⟨_, unmarked⟩ | ⟨other, old⟩ | ⟨_, fresh, selected⟩
  · rw [unmarked] at mark
    cases mark
  · refine Or.inl ⟨old, fun operation from_ among => ?_⟩
    obtain ⟨rfl, rfl⟩ := Prod.mk.inj (List.mem_singleton.mp among)
    exact other.symm
  · refine Or.inr ⟨Option.some.inj (mark.symm.trans fresh), trace.runtime.id, ?_⟩
    rw [DhtRuntime.takeAnswer]
    dsimp only
    rw [selected]
    exact List.mem_append_left _ (List.mem_singleton_self _)

/-- The server enters the sender of an operation that it gets, and whom it lists. -/
theorem routing_process {node : DhtNode} {packet : Packet} {sender : SocketAddr}
    {table : RoutingTable} {now : Instant} {clock : Nat → Instant}
    {response : Option (DhtOperation × SocketAddr)} {after : DhtNode × RoutingTable}
    (processed : node.process packet sender table now clock = (.ok response, after)) :
    packet.operation = none ∧ after.2 = table ∨ ∃ operation, packet.operation = some operation ∧
      after.2 = (table.addNode operation.senderId sender now).2.learn operation.listed clock := by
  rw [DhtNode.process] at processed
  rw [Packet.operation]
  rcases read : DhtOperation.fromSerialized packet.payload.data with (_ | _) | operation
  · rw [read] at processed
    cases processed
    exact Or.inl ⟨rfl, rfl⟩
  · rw [read] at processed
    cases processed
  · rw [read] at processed
    cases processed
    exact Or.inr ⟨operation, rfl, node.routing_processOp operation sender table now clock⟩

/-- The server enters the sender of an operation and whom it lists, and pings no one. -/
theorem Asked.serve {trace : DhtTrace} (asked : trace.Asked) (packet : Packet)
    (sender : SocketAddr) (now : Instant) (clock : Nat → Instant)
    (quiet : trace.Attentive (.serve packet sender now clock))
    {sent : List (DhtOperation × SocketAddr)} {runtime : DhtRuntime}
    (served : trace.runtime.serve packet sender now clock = (.ok sent, runtime)) :
    (trace.pass runtime (packet.operation.toList.map fun operation => (operation, sender)) sent
      now).Asked := by
  have among {operation : DhtOperation} {source : SocketAddr}
      (member : (operation, source) ∈ packet.operation.toList.map fun operation =>
        (operation, sender)) : packet.operation = some operation := by
    obtain ⟨brought, here, same⟩ := List.mem_map.mp member
    cases same
    exact Option.mem_toList.mp here
  rw [DhtRuntime.serve] at served
  cases present : trace.runtime.server with
  | none =>
    rw [present] at served
    cases served
    refine asked.pass asked.placed fun entry pinged held mark =>
      Or.inl ⟨held, fun operation source member same => ?_⟩
    have dropped := quiet operation (among member)
    rw [present] at dropped
    have unmarked := dropped entry held same.symm
    rw [unmarked] at mark
    cases mark
  | some server =>
    rw [present] at served
    dsimp only at served
    rcases processed : server.process packet sender trace.runtime.routing now clock with
      ⟨outcome, after, table⟩
    rw [processed] at served
    obtain ⟨ran, rfl⟩ := Prod.mk.inj served
    rcases outcome with fault | response
    · cases ran
    rcases routing_process processed with ⟨unread, same⟩ | ⟨operation, brought, routing⟩
    · rw [unread]
      exact asked.quiet same sent now
    have attentive := quiet operation brought
    rw [present, Option.isSome_some, if_pos rfl] at attentive
    obtain ⟨unselected, silent⟩ := attentive
    have entered : (trace.runtime.routing.addNode operation.senderId sender now).2.Placed :=
      asked.placed.perform (.addNode operation.senderId sender now)
    dsimp only at routing
    refine asked.pass (routing ▸ entered.learn _ clock) fun entry pinged held mark => ?_
    dsimp only at held
    rw [routing] at held
    have before := RoutingTable.holds_of_learnsQuietly entered silent held mark
    rcases RoutingTable.addNode_cases asked.placed before with
      ⟨_, unmarked⟩ | ⟨other, old⟩ | ⟨_, _, selected⟩
    · rw [unmarked] at mark
      cases mark
    · refine Or.inl ⟨old, fun other' source member => ?_⟩
      cases brought.symm.trans (among member)
      exact other.symm
    · rw [(RoutingTable.addNode_eq_none_iff _ _ _ _).mpr unselected] at selected
      cases selected

/-- An attentive step keeps every mark true. -/
theorem Asked.step {before after : DhtTrace} (asked : before.Asked)
    (step : AttentiveStep before after) : after.Asked := by
  obtain ⟨event, attentive, performed⟩ := step
  cases event with
  | enableServer =>
    cases performed
    exact ⟨asked.placed, asked.pinged⟩
  | join seeds now =>
    cases performed
    refine asked.quiet ?_ _ now
    rfl
  | lookupNode target now =>
    cases performed
    refine asked.quiet ?_ _ now
    rfl
  | findValue key now =>
    cases performed
    refine asked.quiet ?_ _ now
    rfl
  | answer response sender now clock =>
    cases performed
    exact asked.takeAnswer response sender now clock attentive
  | giveUp now =>
    cases performed
    refine asked.quiet ?_ _ now
    rfl
  | serve packet sender now clock =>
    rw [perform] at performed
    rcases served : before.runtime.serve packet sender now clock with ⟨fault | sent, runtime⟩
    · rw [served] at performed
      cases performed
    · rw [served] at performed
      cases performed
      exact asked.serve packet sender now clock attentive served
  | evict now =>
    cases performed
    refine ⟨asked.placed.perform (.evictStale now), fun entry pinged held mark => ?_⟩
    exact asked.pinged entry pinged (RoutingTable.holds_of_evictStale asked.placed held) mark

theorem Asked.evictsPinged {trace : DhtTrace} (asked : trace.Asked) (now : Instant) :
    trace.EvictsPinged now := by
  have answer (entry : Entry) (held : trace.runtime.routing.Holds entry)
      (stale : Bucket.isStale now entry = true) : ∃ pinged,
        trace.Pinged entry.id entry.addr pinged ∧ seconds 120 < durationSince now pinged := by
    rw [Bucket.isStale, Option.any_eq_true] at stale
    obtain ⟨pinged, mark, late⟩ := stale
    exact ⟨pinged, asked.pinged entry pinged held mark, (of_decide_eq_true late).1⟩
  refine ⟨fun index entry active taken => ?_, answer⟩
  exact answer entry ⟨index, Or.inl active⟩ (Bucket.isStale_of_evicted active taken)

/-- In every run whose steps are attentive, whoever is evicted was pinged and is silent. -/
theorem evictsPinged_of_run {id : NodeID} {address : SocketAddr} {trace : DhtTrace}
    (run : Relation.ReflTransGen AttentiveStep (start id address) trace) (now : Instant) :
    trace.EvictsPinged now :=
  (Run.preserves (fun _ _ asked step => asked.step step) (asked_start id address)
    run).evictsPinged now

/-! ### Two runs that evict a node -/

open LookupTrace (sampleNode sampleAddr)

def performAll (trace : DhtTrace) (events : List DhtEvent) : Option DhtTrace :=
  events.foldlM perform trace

/-- A node that is far from node `0`. -/
def sampleFar (value : Nat) : NodeID := sampleNode (2 ^ 255 + value)

/-- Twenty far nodes are heard of, then another one, twice. -/
def sampleCrowd (speak : NodeID → Instant → List DhtEvent) : List DhtEvent :=
  (List.range 20).flatMap (fun value => speak (sampleFar value) 0) ++
    (speak (sampleFar 20) (seconds 1) ++ speak (sampleFar 20) (seconds 100))

/-- The first of the far nodes goes out of service in a bucket. -/
def losesFirst (index : Fin 256) (trace : DhtTrace) : Bool :=
  ((trace.runtime.routing.buckets index).active.any fun entry => entry.id = sampleFar 0) &&
    ((trace.runtime.evictStale (seconds 122)).routing.buckets index).active.all fun entry =>
      entry.id ≠ sampleFar 0

theorem evicted_of_losesFirst {index : Fin 256} {trace : DhtTrace}
    (loses : trace.losesFirst index = true) :
    ∃ entry ∈ (trace.runtime.routing.buckets index).active,
      entry ∉ ((trace.runtime.evictStale (seconds 122)).routing.buckets index).active := by
  obtain ⟨known, lost⟩ := Bool.and_eq_true_iff.mp loses
  obtain ⟨entry, active, same⟩ := List.any_eq_true.mp known
  refine ⟨entry, active, fun kept => ?_⟩
  exact of_decide_eq_true (List.all_eq_true.mp lost entry kept) (of_decide_eq_true same)

/-- No ping is among some traffic. -/
def pingless (traffic : List Traffic) : Bool :=
  traffic.all fun
    | .sent (.ping _) _ _ => false
    | _ => true

/-- The far nodes ping a server. -/
def sampleRequests : List DhtEvent :=
  .enableServer :: sampleCrowd fun id now =>
    [.serve (.new 0 0 (.new .dhtOperation (DhtOperation.ping id).serialize)) sampleAddr now
      fun _ => now]

/-- A server, that never pings, loses a node. -/
theorem unpinged_node_evicted : ∃ id address trace now,
    Relation.ReflTransGen Step (start id address) trace ∧ ¬ trace.EvictsPinged now := by
  have ran : ((start (sampleNode 0) sampleAddr).performAll sampleRequests).any (fun last =>
      last.losesFirst 0 ∧ pingless last.traffic) = true := by
    decide +kernel
  rcases performed : (start (sampleNode 0) sampleAddr).performAll sampleRequests with _ | last
  · rw [performed] at ran
    cases ran
  rw [performed, Option.any_some, decide_eq_true_iff] at ran
  obtain ⟨loses, silent⟩ := ran
  refine ⟨sampleNode 0, sampleAddr, last, seconds 122,
    Run.of_foldlM (fun _ _ event _ performed => ⟨event, performed⟩) performed, fun evicts => ?_⟩
  obtain ⟨entry, active, taken⟩ := evicted_of_losesFirst loses
  obtain ⟨_, ⟨later, earlier, asker, traffic, _⟩, _⟩ := evicts.evicted 0 entry active taken
  have ping := List.all_eq_true.mp silent _ (traffic ▸ List.mem_append_right later
    List.mem_cons_self)
  cases ping

/-- The far nodes are the seeds of one join after the other, and answer. -/
def sampleAnswers : List DhtEvent :=
  sampleCrowd fun id now =>
    [.join [sampleAddr] now, .answer (.nodes id []) sampleAddr now fun _ => now]

/-- A client, that pings whom it has to, loses a node too. -/
theorem pinged_node_evicted : ∃ trace,
    Relation.ReflTransGen AttentiveStep (start (sampleNode 0) sampleAddr) trace ∧
      (∃ entry ∈ (trace.runtime.routing.buckets 0).active,
        entry ∉ ((trace.runtime.evictStale (seconds 122)).routing.buckets 0).active) ∧
        trace.EvictsPinged (seconds 122) := by
  have ran : ((start (sampleNode 0) sampleAddr).performAll sampleAnswers).any (losesFirst 0) =
      true := by
    decide +kernel
  rcases performed : (start (sampleNode 0) sampleAddr).performAll sampleAnswers with _ | last
  · rw [performed] at ran
    cases ran
  rw [performed, Option.any_some] at ran
  have attentive (trace : DhtTrace) (event : DhtEvent) (member : event ∈ sampleAnswers) :
      trace.Attentive event := by
    have quiet (id : NodeID) (now : Instant) (here : event ∈ ([.join [sampleAddr] now,
        .answer (.nodes id []) sampleAddr now fun _ => now] : List DhtEvent)) :
        trace.Attentive event := by
      rcases List.mem_pair.mp here with rfl | rfl
      · trivial
      · rw [Attentive, DhtOperation.listed, ite_self]
        trivial
    rcases List.mem_append.mp member with crowd | more
    · obtain ⟨value, _, here⟩ := List.mem_flatMap.mp crowd
      exact quiet _ _ here
    · rcases List.mem_append.mp more with here | here
      · exact quiet _ _ here
      · exact quiet _ _ here
  have run : Relation.ReflTransGen AttentiveStep (start (sampleNode 0) sampleAddr) last :=
    Run.of_foldlM
      (fun before _ event member performed => ⟨event, attentive before event member, performed⟩)
      performed
  exact ⟨last, run, evicted_of_losesFirst ran, evictsPinged_of_run run (seconds 122)⟩

end DhtTrace

end Insub
