/-
This file is about where the nodes that a client or a server knows come from. Every entry of a
routing table gives the address that a node was entered with, and every node that a lookup has on
its list was in the table when the lookup began, or in an answer. So a condition on all nodes that
are ever entered is one on all nodes that are ever handed out.
-/

import Mathlib
import Insub.Dht.Selection
import Insub.Dht.Serving
import Insub.Dht.Staleness
import Insub.Dht.Queries

namespace Insub

open Rust

variable {allowed : NodeID → SocketAddr → Prop}

/-! ### Routing tables -/

/-- An entry that is in a bucket once a node was entered gives the address of that node, or one that
an entry of the bucket gave before. -/
theorem Bucket.origin_of_addNode {bucket : Bucket} {node : NodeID} {addr : SocketAddr}
    {now : Instant} {entry : Entry}
    (member : entry ∈ (bucket.addNode node addr now).2.active ∨
      entry ∈ (bucket.addNode node addr now).2.candidates) :
    entry.id = node ∧ entry.addr = addr ∨ ∃ old : Entry,
      (old ∈ bucket.active ∨ old ∈ bucket.candidates) ∧ old.id = entry.id ∧
        old.addr = entry.addr := by
  have same (held : entry ∈ bucket.active ∨ entry ∈ bucket.candidates) : ∃ old : Entry,
      (old ∈ bucket.active ∨ old ∈ bucket.candidates) ∧ old.id = entry.id ∧
        old.addr = entry.addr := ⟨entry, held, rfl, rfl⟩
  have enters := bucket.addNode_enters node addr now
  generalize bucket.addNode node addr now = result at enters member
  cases enters with
  | active =>
    rcases member with active | waiting
    · rcases List.mem_append.mp active with kept | new
      · exact Or.inr (same (Or.inl (List.mem_of_mem_eraseIdx kept)))
      · rw [List.mem_singleton.mp new]
        exact Or.inl ⟨rfl, rfl⟩
    · exact Or.inr (same (Or.inr waiting))
  | waiting =>
    rcases member with active | waiting
    · exact Or.inr (same (Or.inl active))
    · rcases List.mem_append.mp waiting with kept | new
      · exact Or.inr (same (Or.inr (List.mem_of_mem_eraseIdx kept)))
      · rw [List.mem_singleton.mp new]
        exact Or.inl ⟨rfl, rfl⟩
  | served =>
    rcases member with active | waiting
    · rcases List.mem_append.mp active with kept | new
      · exact Or.inr (same (Or.inl kept))
      · rw [List.mem_singleton.mp new]
        exact Or.inl ⟨rfl, rfl⟩
    · exact Or.inr (same (Or.inr waiting))
  | queued =>
    rcases member with active | waiting
    · rcases mem_pingOldest active with kept | ⟨pinged, held, rfl, _⟩
      · exact Or.inr (same (Or.inl kept))
      · exact Or.inr ⟨pinged, Or.inl held, rfl, rfl⟩
    · rw [(pingOldest_frame _ now).2] at waiting
      rcases List.mem_append.mp waiting with kept | new
      · exact Or.inr (same (Or.inr kept))
      · rw [List.mem_singleton.mp new]
        exact Or.inl ⟨rfl, rfl⟩
  | dropped => exact Or.inr (same member)

namespace RoutingTable

variable {table : RoutingTable}

/-- All entries of the table give addresses that are allowed. -/
def Lists (allowed : NodeID → SocketAddr → Prop) (table : RoutingTable) : Prop :=
  ∀ entry, table.Holds entry → allowed entry.id entry.addr

theorem lists_new (localId : NodeID) : (new localId).Lists allowed := by
  rintro entry ⟨_, none | none⟩ <;> cases none

theorem Lists.addNode (lists : table.Lists allowed) {node : NodeID} {addr : SocketAddr}
    (new : allowed node addr) (now : Instant) : (table.addNode node addr now).2.Lists allowed := by
  rintro entry ⟨index, member⟩
  rw [RoutingTable.addNode] at member
  split at member
  · exact lists entry ⟨index, member⟩
  dsimp only [put] at member
  by_cases here : index = table.bucket node
  · subst here
    rw [Function.update_self] at member
    rcases Bucket.origin_of_addNode member with ⟨rfl, rfl⟩ | ⟨old, held, sameId, sameAddr⟩
    · exact new
    · rw [← sameId, ← sameAddr]
      exact lists old ⟨_, held⟩
  · rw [Function.update_of_ne here] at member
    exact lists entry ⟨index, member⟩

theorem Lists.learn (lists : table.Lists allowed) {listed : NodeList}
    (new : ∀ node ∈ listed, allowed node.1 node.2) (clock : Nat → Instant) :
    (table.learn listed clock).Lists allowed := by
  induction listed generalizing table clock with
  | nil => exact lists
  | cons node rest inductionHypothesis =>
    obtain ⟨id, addr⟩ := node
    exact inductionHypothesis (lists.addNode (new (id, addr) List.mem_cons_self) _)
      (fun node member => new node (List.mem_cons_of_mem _ member)) _

theorem Lists.evictStale (lists : table.Lists allowed) (now : Instant) :
    (table.evictStale now).Lists allowed := by
  rintro entry ⟨index, member⟩
  refine lists entry ⟨index, ?_⟩
  exact (Bucket.mem_evictStale (List.mem_append.mpr member)).imp_right And.left

theorem Lists.closestNodes (lists : table.Lists allowed) (target : NodeID) (count : Nat) :
    ∀ node ∈ table.closestNodes target count, allowed node.1 node.2 := by
  intro node member
  obtain ⟨index, active⟩ := mem_activeNodes_of_closestNodes member
  obtain ⟨entry, held, rfl⟩ := List.mem_map.mp active
  exact lists entry ⟨index, Or.inl held⟩

end RoutingTable

/-! ### Lookups -/

namespace PendingLookup

/-- Cutting the shortlist adds no node. -/
theorem mem_settle {pending : PendingLookup} {node : NodeID × SocketAddr}
    (member : node ∈ pending.settle.shortlist) : node ∈ pending.shortlist :=
  (Nearest.perm_sortByKey _ _).mem_iff.mp (List.mem_of_mem_take member)

/-- An answer brings the nodes that it lists, and the value that it carries. -/
theorem mem_answered {pending : PendingLookup} {answer : Answer} {node : NodeID × SocketAddr}
    (member : node ∈ (pending.answered answer).shortlist) :
    node ∈ pending.shortlist ∨ node ∈ answer.listed := by
  cases answer with
  | timeout => exact Or.inl member
  | response operation sender now clock =>
    rw [answered] at member
    split at member
    · exact List.mem_append.mp member
    · exact List.mem_append.mp (mem_settle member)

theorem foundValue_answered {pending : PendingLookup} {answer : Answer} {value : Bytes}
    (found : (pending.answered answer).foundValue = some value) :
    pending.foundValue = some value ∨ answer.carried = some value := by
  cases answer with
  | timeout => exact Or.inl found
  | response operation sender now clock =>
    rw [answered] at found
    split at found
    · rename_i carried
      exact Or.inr (carried.trans found)
    · exact Or.inl found

end PendingLookup

namespace Lookup

/-- The query is one of the client's own. -/
def Asks (client : DhtClient) (query : DhtOperation × SocketAddr) : Prop :=
  (∃ target, query.1 = .findNode client.id target) ∨ ∃ key, query.1 = .findValue client.id key

theorem asks_query (client : DhtClient) (pending : PendingLookup) (addr : SocketAddr) :
    Asks client (client.query pending, addr) := by
  rw [Asks, DhtClient.query]
  cases pending.findValueKey with
  | none => exact Or.inl ⟨_, rfl⟩
  | some key => exact Or.inr ⟨key, rfl⟩

/-- A lookup begins in the name of its client. -/
theorem Begins.client_id {client : DhtClient} {routing : RoutingTable} {pending : PendingLookup}
    {lookup : Lookup} (begins : Begins client routing pending lookup) :
    lookup.client.id = client.id := by
  cases begins <;> exact congrArg (fun result => result.2.id) (advance_eq _ _)

/-- What one turn of the loop leaves: the client asks in its own name, its list and value come from
what it had and from the answer, and the table has entered the sender and the nodes listed. -/
theorem step_spec {lookup : Lookup} {query : DhtOperation × SocketAddr}
    (going : lookup.next = some query) (answer : Answer) :
    (lookup.step answer).client.id = lookup.client.id ∧
      (∀ next, (lookup.step answer).next = some next → Asks lookup.client next) ∧
      ∀ pending, (lookup.step answer).client.pending = some pending →
        ∃ before, lookup.client.pending = some before ∧
          (∀ node ∈ pending.shortlist, node ∈ before.shortlist ∨ node ∈ answer.listed) ∧
            ∀ value, pending.foundValue = some value →
              before.foundValue = some value ∨ answer.carried = some value := by
  cases held : lookup.client.pending with
  | none =>
    have same : (lookup.step answer).client = lookup.client ∧ (lookup.step answer).next = none := by
      cases answer with
      | timeout =>
        rw [step, going]
        simp only [DhtClient.skipNode, held, and_self]
      | response operation sender now clock =>
        rw [step, going]
        simp only [DhtClient.handleResponse, held, and_self]
    rw [same.1, same.2, held]
    refine ⟨rfl, fun next none => ?_, fun pending none => ?_⟩ <;> cases none
  | some before =>
    have kept : (lookup.step answer).client.id = lookup.client.id := by
      cases answer with
      | timeout =>
        rw [step, going]
        simp only [DhtClient.skipNode, held, advance_eq]
      | response operation sender now clock =>
        rw [step, going]
        simp only [DhtClient.handleResponse, held]
        cases operation.carried with
        | some value => rfl
        | none => rw [advance_eq]
    cases carries : answer.carried with
    | some value =>
      obtain ⟨ended, now⟩ := step_carried going held carries
      rw [ended, now]
      refine ⟨kept, fun next none => ?_, ?_⟩
      · cases none
      rintro pending same
      obtain rfl := Option.some.inj same
      refine ⟨before, rfl, fun node => PendingLookup.mem_answered, fun other found => ?_⟩
      exact carries ▸ PendingLookup.foundValue_answered found
    | none =>
      obtain ⟨asks, now⟩ := step_uncarried going held carries
      rw [asks, now]
      refine ⟨kept, fun next some => ?_, ?_⟩
      · obtain ⟨node, _, rfl⟩ := Option.map_eq_some_iff.mp some
        exact asks_query lookup.client _ node.2
      · rintro pending same
        obtain rfl := Option.some.inj same
        rw [PendingLookup.shortlist_nextQuery, PendingLookup.foundValue_nextQuery]
        refine ⟨before, rfl, fun node => PendingLookup.mem_answered, fun other found => ?_⟩
        exact carries ▸ PendingLookup.foundValue_answered found

theorem routing_timeout (lookup : Lookup) : (lookup.step .timeout).routing = lookup.routing := by
  rw [step]
  split <;> rfl

/-- An answer enters its sender, and the nodes that it lists while a lookup is pending. -/
theorem routing_response {lookup : Lookup} {query : DhtOperation × SocketAddr}
    (going : lookup.next = some query) (operation : DhtOperation) (sender : SocketAddr)
    (now : Instant) (clock : Nat → Instant) :
    (lookup.step (.response operation sender now clock)).routing =
      (lookup.routing.addNode operation.senderId sender now).2.learn
        (if lookup.client.pending.isSome then operation.listed else []) clock := by
  rw [step, going]
  exact lookup.client.routing_handleResponse operation _ clock

theorem lists_response {lookup : Lookup} (lists : lookup.routing.Lists allowed)
    {query : DhtOperation × SocketAddr} (going : lookup.next = some query)
    {operation : DhtOperation} {sender : SocketAddr} (speaks : allowed operation.senderId sender)
    (listed : ∀ node ∈ operation.listed, allowed node.1 node.2) (now : Instant)
    (clock : Nat → Instant) :
    (lookup.step (.response operation sender now clock)).routing.Lists allowed := by
  rw [routing_response going]
  refine (lists.addNode speaks now).learn ?_ clock
  split
  · exact listed
  · exact fun _ member => absurd member List.not_mem_nil

end Lookup

end Insub
