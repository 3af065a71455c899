/-
This file proves what the table of seen ids keeps from the application. Every packet that is
handed over enters its id with the time, an entry that is five minutes old no longer counts,
and when the table is full its oldest entry makes room. So the table never holds more than
1024 ids, and a second packet with an id comes through only after five minutes, or after 1024
packets with other ids.
-/

import Mathlib
import Insub.Library.Run
import Insub.Transport.Redelivery

namespace Insub

open Rust

namespace ReliableTransport

variable {crypto : Primitives}

/-! ### Making room -/

/-- The first thing a full table does: give up what is too old. -/
def unexpired (seen : HashMap U128 Instant) (now : Instant) : HashMap U128 Instant :=
  if seen.size ≥ maxSeen then seen.retain fun _ time => durationSince now time < dedupTtl
  else seen

/-- The second: give up the oldest. -/
def evictOldest (seen : HashMap U128 Instant)
    (order : IterationOrder (Sigma fun _ : U128 => Instant)) : HashMap U128 Instant :=
  if seen.size ≥ maxSeen then
    match (seen.iterate order).argmin Sigma.snd with
    | some oldest => seen.erase oldest.1
    | none => seen
  else seen

theorem prune_eq (seen : HashMap U128 Instant) (now : Instant)
    (order : IterationOrder (Sigma fun _ : U128 => Instant)) :
    prune seen now order = evictOldest (unexpired seen now) order := rfl

theorem size_unexpired_le (seen : HashMap U128 Instant) (now : Instant) :
    (unexpired seen now).size ≤ seen.size := by
  rw [unexpired]
  split
  · exact HashMap.size_retain_le seen _
  · exact le_rfl

/-- What is left is what was there and is less than five minutes old, or all of it. -/
theorem lookup_unexpired {seen : HashMap U128 Instant} (now : Instant) {id : U128}
    {time : Instant} (held : seen.lookup id = some time) :
    (unexpired seen now).lookup id = some time ∨ dedupTtl ≤ durationSince now time := by
  by_cases recent : durationSince now time < dedupTtl
  · refine Or.inl ?_
    rw [unexpired]
    split
    · exact HashMap.lookup_retain_eq_some_iff.mpr ⟨held, decide_eq_true recent⟩
    · exact held
  · exact Or.inr (not_lt.mp recent)

theorem lookup_of_unexpired {seen : HashMap U128 Instant} {now : Instant} {id : U128}
    {time : Instant} (held : (unexpired seen now).lookup id = some time) :
    seen.lookup id = some time := by
  rw [unexpired] at held
  split at held
  · exact (HashMap.lookup_retain_eq_some_iff.mp held).1
  · exact held

/-- The oldest entry of a table that is full. -/
theorem oldest_of_full {seen : HashMap U128 Instant} (full : maxSeen ≤ seen.size)
    (order : IterationOrder (Sigma fun _ : U128 => Instant)) :
    ∃ oldest, (seen.iterate order).argmin Sigma.snd = some oldest ∧
      seen.lookup oldest.1 = some oldest.2 ∧
        ∀ id time, seen.lookup id = some time → oldest.2 ≤ time := by
  have occupied : 0 < seen.size := full.trans_lt' (by decide)
  exact HashMap.exists_argmin_iterate Sigma.snd order occupied

theorem lookup_of_evictOldest {seen : HashMap U128 Instant}
    {order : IterationOrder (Sigma fun _ : U128 => Instant)} {id : U128} {time : Instant}
    (held : (evictOldest seen order).lookup id = some time) : seen.lookup id = some time := by
  rw [evictOldest] at held
  by_cases full : seen.size ≥ maxSeen
  · obtain ⟨oldest, least, _⟩ := oldest_of_full full order
    rw [if_pos full, least] at held
    exact (HashMap.lookup_erase_eq_some_iff.mp held).2
  · rw [if_neg full] at held
    exact held

/-- An entry stays, or the table is full and has no older one. -/
theorem lookup_evictOldest {seen : HashMap U128 Instant}
    (order : IterationOrder (Sigma fun _ : U128 => Instant)) {id : U128} {time : Instant}
    (held : seen.lookup id = some time) : (evictOldest seen order).lookup id = some time ∨
      maxSeen ≤ seen.size ∧ ∀ other found, seen.lookup other = some found → time ≤ found := by
  rw [evictOldest]
  by_cases full : seen.size ≥ maxSeen
  · obtain ⟨oldest, least, entered, youngest⟩ := oldest_of_full full order
    rw [if_pos full, least]
    by_cases same : id = oldest.1
    · rw [same, entered] at held
      rw [← Option.some.inj held]
      exact Or.inr ⟨full, youngest⟩
    · exact Or.inl (HashMap.lookup_erase_eq_some_iff.mpr ⟨same, held⟩)
  · rw [if_neg full]
    exact Or.inl held

/-- A table that is not over its bound has room for one more entry afterwards. -/
theorem size_prune_lt {seen : HashMap U128 Instant} (room : seen.size ≤ maxSeen) (now : Instant)
    (order : IterationOrder (Sigma fun _ : U128 => Instant)) :
    (prune seen now order).size < maxSeen := by
  have kept := (size_unexpired_le seen now).trans room
  rw [prune_eq, evictOldest]
  by_cases full : (unexpired seen now).size ≥ maxSeen
  · obtain ⟨oldest, least, entered, _⟩ := oldest_of_full full order
    have member : oldest.1 ∈ unexpired seen now :=
      AList.lookup_isSome.mp (Option.isSome_iff_exists.mpr ⟨_, entered⟩)
    rw [if_pos full, least]
    exact (HashMap.size_erase_lt member).trans_le kept
  · rw [if_neg full]
    exact not_le.mp full

theorem lookup_of_prune {seen : HashMap U128 Instant} {now : Instant}
    {order : IterationOrder (Sigma fun _ : U128 => Instant)} {id : U128} {time : Instant}
    (held : (prune seen now order).lookup id = some time) : seen.lookup id = some time :=
  lookup_of_unexpired (lookup_of_evictOldest held)

/-- An entry that is left out is five minutes old, or has made room for as many younger ones as
the table holds. -/
theorem lookup_prune {seen : HashMap U128 Instant} {now : Instant}
    {order : IterationOrder (Sigma fun _ : U128 => Instant)} {id : U128} {time : Instant}
    (held : seen.lookup id = some time) :
    (prune seen now order).lookup id = some time ∨ dedupTtl ≤ durationSince now time ∨
      ∃ others : List (U128 × Instant), others.Nodup ∧ maxSeen ≤ others.length + 1 ∧
        ∀ other ∈ others, other.1 ≠ id ∧ time ≤ other.2 ∧
          seen.lookup other.1 = some other.2 := by
  rcases lookup_unexpired now held with kept | expired
  · rcases lookup_evictOldest order kept with stays | ⟨full, oldest⟩
    · exact Or.inl stays
    · refine Or.inr (Or.inr ⟨((unexpired seen now).erase id).entries.map
        fun entry => (entry.1, entry.2), ?_, ?_, ?_⟩)
      · have distinct := ((unexpired seen now).erase id).nodupKeys.nodup
        exact distinct.map fun first second same => by
          obtain ⟨key, value⟩ := first
          obtain ⟨rfl, rfl⟩ := Prod.mk.inj same
          rfl
      · rw [List.length_map]
        exact full.trans (HashMap.size_le_erase (unexpired seen now) id)
      · rintro ⟨other, found⟩ member
        obtain ⟨⟨key, value⟩, entered, same⟩ := List.mem_map.mp member
        obtain ⟨rfl, rfl⟩ := Prod.mk.inj same
        obtain ⟨different, kept⟩ :=
          HashMap.lookup_erase_eq_some_iff.mp (HashMap.lookup_eq_some_iff.mpr entered)
        exact ⟨different, oldest key value kept, lookup_of_unexpired kept⟩
  · exact Or.inr (Or.inl expired)

/-! ### What a packet does to the table -/

/-- A packet that is not handed over leaves the table as it is; one that is handed over is no
recent duplicate, and is entered. -/
theorem dispatch_seen {transport next : ReliableTransport crypto} {packet : Packet}
    {sender : SocketAddr} {now : Instant} {order : IterationOrder (Sigma fun _ : U128 => Instant)}
    {forwarded : Option (Packet × SocketAddr)}
    (run : transport.dispatch packet sender now order = (.ok forwarded, next)) :
    (forwarded = none ∧ next.seen = transport.seen) ∨
      (forwarded = some (packet, sender) ∧
        (∀ firstSeen, transport.seen.lookup packet.header.id = some firstSeen →
          dedupTtl ≤ durationSince now firstSeen) ∧
        next.seen = (prune transport.seen now order).insert packet.header.id now) := by
  by_cases isAck : packet.header.flags.contains .ack = true
  · rw [dispatch, if_pos isAck] at run
    rcases verified : verifyAck packet transport.pending transport.peerKeys sender with
      ⟨fault | shouldRemove, peerKeys⟩
    all_goals rw [verified] at run
    · cases run
    · obtain ⟨outcome, rfl⟩ := Prod.mk.inj run
      exact Or.inl ⟨(Except.ok.inj outcome).symm, rfl⟩
  · have offered := Reception.dispatch_forwards_iff transport isAck sender now order
    rw [run] at offered
    rw [dispatch, if_neg isAck] at run
    dsimp only at run
    split at run
    · obtain ⟨outcome, rfl⟩ := Prod.mk.inj run
      exact Or.inl ⟨(Except.ok.inj outcome).symm, rfl⟩
    · obtain ⟨outcome, rfl⟩ := Prod.mk.inj run
      exact Or.inr ⟨(Except.ok.inj outcome).symm, offered.mp outcome.symm, rfl⟩

/-- A datagram does to the table what the packet does that it brings. -/
theorem receive_seen {transport next : ReliableTransport crypto} {datagram : Bytes}
    {sender : SocketAddr} {now : Instant} {order : IterationOrder (Sigma fun _ : U128 => Instant)}
    {forwarded : Option (Packet × SocketAddr)}
    (run : transport.receive datagram sender now order = (.ok forwarded, next)) :
    (forwarded = none ∧ next.seen = transport.seen) ∨
      ∃ packet, forwarded = some (packet, sender) ∧
        (∀ firstSeen, transport.seen.lookup packet.header.id = some firstSeen →
          dedupTtl ≤ durationSince now firstSeen) ∧
        next.seen = (prune transport.seen now order).insert packet.header.id now := by
  have receives := transport.receive_receives datagram sender now order
  rw [run] at receives
  generalize both : (Except.ok forwarded, next) = result at receives
  cases receives with
  | garbled =>
    cases both
    exact Or.inl ⟨rfl, rfl⟩
  | beyond => cases both
  | incomplete =>
    cases both
    exact Or.inl ⟨rfl, rfl⟩
  | whole => exact (dispatch_seen both.symm).imp_right fun entered => ⟨_, entered⟩

end ReliableTransport

/-! ### Runs -/

/-- A receiving transport, the earliest instant that the next reading of the clock can show, and
the ids of all packets handed over, each with the reading. -/
structure Deliveries (crypto : Primitives) where
  transport : ReliableTransport crypto
  clock : Instant
  delivered : List (U128 × Instant)

namespace Deliveries

variable {crypto : Primitives}

def start (peerKeys : HashMap SocketAddr (VerifyingKey crypto)) : Deliveries crypto where
  transport := .new peerKeys
  clock := 0
  delivered := []

/-- What an event leads to. The readings at which datagrams come in increase, and a panic ends
the run. -/
def perform (deliveries : Deliveries crypto) :
    ReliableTransport.Event crypto → Option (Deliveries crypto)
  | .datagram bytes sender now order =>
    if deliveries.clock ≤ now then
      match deliveries.transport.receive bytes sender now order with
      | (.ok forwarded, transport) =>
        some
          { transport
            clock := now + 1
            delivered := deliveries.delivered ++
              forwarded.toList.map fun (packet, _) => (packet.header.id, now) }
      | (.error _, _) => none
    else none
  | event =>
    match deliveries.transport.step event with
    | (.ok _, transport) => some { deliveries with transport }
    | (.error _, _) => none

def Step (before after : Deliveries crypto) : Prop := ∃ event, before.perform event = some after

/-- Between two deliveries with one id, five minutes have passed, or as many packets with other
ids were delivered as the table holds. -/
def Spaced (deliveries : Deliveries crypto) : Prop :=
  ∀ before id first between second after,
    deliveries.delivered = before ++ (id, first) :: (between ++ (id, second) :: after) →
      first + dedupTtl ≤ second ∨
        maxSeen ≤ (between.filter fun delivery => delivery.1 ≠ id).length

/-- What the table knows of the packets handed over. -/
structure Noted (deliveries : Deliveries crypto) : Prop where
  room : deliveries.transport.seen.size ≤ maxSeen
  ordered : deliveries.delivered.Pairwise fun first second => first.2 < second.2
  past : ∀ delivery ∈ deliveries.delivered, delivery.2 < deliveries.clock
  entered : ∀ id time, deliveries.transport.seen.lookup id = some time →
    (id, time) ∈ deliveries.delivered
  noted : ∀ before id time after, deliveries.delivered = before ++ (id, time) :: after →
    deliveries.transport.seen.lookup id = some time ∨ time + dedupTtl ≤ deliveries.clock ∨
      maxSeen ≤ (after.filter fun delivery => delivery.1 ≠ id).length
  spaced : deliveries.Spaced

theorem noted_start (peerKeys : HashMap SocketAddr (VerifyingKey crypto)) :
    (start peerKeys).Noted where
  room := Nat.zero_le _
  ordered := List.Pairwise.nil
  past _ member := absurd member List.not_mem_nil
  entered _ _ held := by cases held
  noted _ _ _ _ split := absurd split.symm (List.append_ne_nil_of_right_ne_nil _ (List.cons_ne_nil _ _))
  spaced _ _ _ _ _ _ split :=
    absurd split.symm (List.append_ne_nil_of_right_ne_nil _ (List.cons_ne_nil _ _))

/-- Time passes, and nothing is handed over. -/
theorem Noted.quiet {deliveries : Deliveries crypto} (noted : deliveries.Noted)
    {transport : ReliableTransport crypto} (same : transport.seen = deliveries.transport.seen)
    {clock : Instant} (later : deliveries.clock ≤ clock) :
    Noted { deliveries with transport, clock } where
  room := by
    dsimp only
    rw [same]
    exact noted.room
  ordered := noted.ordered
  past delivery member := (noted.past delivery member).trans_le later
  entered id time held := by
    dsimp only at held
    rw [same] at held
    exact noted.entered id time held
  noted before id time after split := by
    dsimp only
    rw [same]
    exact (noted.noted before id time after split).imp_right (Or.imp_left later.trans')
  spaced := noted.spaced

theorem Noted.past_of_split {deliveries : Deliveries crypto} (noted : deliveries.Noted)
    {before after : List (U128 × Instant)} {id : U128} {time : Instant}
    (split : deliveries.delivered = before ++ (id, time) :: after) : time < deliveries.clock := by
  refine noted.past (id, time) ?_
  rw [split]
  exact List.mem_append_right _ List.mem_cons_self

/-- What the table holds and is younger than a delivery was delivered after it. -/
theorem Noted.mem_after {deliveries : Deliveries crypto} (noted : deliveries.Noted)
    {before after : List (U128 × Instant)} {id : U128} {time : Instant}
    (split : deliveries.delivered = before ++ (id, time) :: after) {other : U128 × Instant}
    (held : deliveries.transport.seen.lookup other.1 = some other.2) (different : other.1 ≠ id)
    (younger : time ≤ other.2) : other ∈ after.filter fun delivery => delivery.1 ≠ id := by
  have ordered := noted.ordered
  have member := noted.entered other.1 other.2 held
  rw [split, List.pairwise_append] at ordered
  rw [split, List.mem_append, List.mem_cons] at member
  refine List.mem_filter.mpr ⟨?_, decide_eq_true different⟩
  rcases member with earlier | same | later
  · exact absurd (ordered.2.2 other earlier (id, time) List.mem_cons_self) (not_lt.mpr younger)
  · exact absurd (congrArg Prod.fst same) different
  · exact later

/-- A packet that is handed over. -/
theorem Noted.deliver {deliveries : Deliveries crypto} (noted : deliveries.Noted)
    {transport : ReliableTransport crypto} {now : Instant} {id : U128}
    {order : IterationOrder (Sigma fun _ : U128 => Instant)} (reading : deliveries.clock ≤ now)
    (fresh : ∀ firstSeen, deliveries.transport.seen.lookup id = some firstSeen →
      dedupTtl ≤ durationSince now firstSeen)
    (entered : transport.seen =
      (ReliableTransport.prune deliveries.transport.seen now order).insert id now) :
    Noted { transport, clock := now + 1, delivered := deliveries.delivered ++ [(id, now)] } where
  room := by
    dsimp only
    rw [entered]
    exact (HashMap.size_insert_le _ _ _).trans
      (ReliableTransport.size_prune_lt noted.room now order)
  ordered := by
    refine List.pairwise_append.mpr ⟨noted.ordered, List.pairwise_singleton _ _, ?_⟩
    intro earlier member last only
    rw [List.mem_singleton.mp only]
    exact (noted.past earlier member).trans_le reading
  past delivery member := by
    rcases List.mem_append.mp member with earlier | last
    · exact ((noted.past delivery earlier).trans_le reading).trans (Nat.lt_succ_self now)
    · rw [List.mem_singleton.mp last]
      exact Nat.lt_succ_self now
  entered other time held := by
    dsimp only at held ⊢
    rw [entered] at held
    rcases HashMap.lookup_insert_eq_some_iff.mp held with ⟨rfl, rfl⟩ | ⟨-, held⟩
    · exact List.mem_append_right _ (List.mem_singleton_self _)
    · exact List.mem_append_left _
        (noted.entered other time (ReliableTransport.lookup_of_prune held))
  noted before other time after split := by
    dsimp only
    rw [entered]
    rcases Run.split_concat split with ⟨-, -, same⟩ | ⟨shorter, rfl, shorterSplit⟩
    · obtain ⟨rfl, rfl⟩ := Prod.mk.inj same
      exact Or.inl (AList.lookup_insert _)
    have past : time ≤ now := (noted.past_of_split shorterSplit).le.trans reading
    have expires (old : dedupTtl ≤ durationSince now time) : time + dedupTtl ≤ now + 1 :=
      (add_le_of_durationSince past old).trans (Nat.le_succ now)
    rcases noted.noted before other time shorter shorterSplit with held | expired | crowded
    · by_cases same : other = id
      · exact Or.inr (Or.inl (expires (fresh time (same ▸ held))))
      · rcases ReliableTransport.lookup_prune held with kept | old | ⟨others, distinct, full, younger⟩
        · exact Or.inl (HashMap.lookup_insert_eq_some_iff.mpr (Or.inr ⟨same, kept⟩))
        · exact Or.inr (Or.inl (expires old))
        · refine Or.inr (Or.inr (full.trans ?_))
          have within : others ⊆ shorter.filter fun delivery => delivery.1 ≠ other := by
            intro delivery member
            obtain ⟨different, later, held⟩ := younger delivery member
            exact noted.mem_after shorterSplit held different later
          have counts : ([(id, now)].filter fun delivery => delivery.1 ≠ other) = [(id, now)] :=
            List.filter_cons_of_pos (decide_eq_true (Ne.symm same))
          rw [List.filter_append, List.length_append, counts]
          exact Nat.add_le_add_right (List.subperm_of_subset distinct within).length_le 1
    · exact Or.inr (Or.inl ((expired.trans reading).trans (Nat.le_succ now)))
    · refine Or.inr (Or.inr (crowded.trans ?_))
      rw [List.filter_append, List.length_append]
      exact Nat.le_add_right _ _
  spaced before other first between second after split := by
    rw [← List.cons_append, ← List.append_assoc] at split
    rcases Run.split_concat split with ⟨-, whole, same⟩ | ⟨shorter, rfl, shorterSplit⟩
    · obtain ⟨rfl, rfl⟩ := Prod.mk.inj same
      rcases noted.noted before id first between whole with held | expired | crowded
      · have past : first ≤ now := (noted.past_of_split whole).le.trans reading
        exact Or.inl (add_le_of_durationSince past (fresh first held))
      · exact Or.inl (expired.trans reading)
      · exact Or.inr crowded
    · rw [List.append_assoc, List.cons_append] at shorterSplit
      exact noted.spaced before other first between second shorter shorterSplit

theorem Noted.step {before after : Deliveries crypto} (noted : before.Noted)
    (step : Step before after) : after.Noted := by
  obtain ⟨event, performed⟩ := step
  cases event with
  | datagram bytes sender now order =>
    rw [perform] at performed
    by_cases reading : before.clock ≤ now
    · rw [if_pos reading] at performed
      rcases run : before.transport.receive bytes sender now order with ⟨fault | forwarded, transport⟩
      all_goals rw [run] at performed
      · cases performed
      · rw [← Option.some.inj performed]
        rcases ReliableTransport.receive_seen run with ⟨rfl, same⟩ | ⟨packet, rfl, fresh, entered⟩
        · have quiet := noted.quiet same (reading.trans (Nat.le_succ now))
          rwa [Option.toList_none, List.map_nil, List.append_nil]
        · exact noted.deliver reading fresh entered
    · rw [if_neg reading] at performed
      cases performed
  | idle now =>
    have same : (before.transport.idle now).seen = before.transport.seen := rfl
    rw [← Option.some.inj performed]
    exact noted.quiet same le_rfl
  | registered id entry =>
    have same : (before.transport.step (.registered id entry)).2.seen = before.transport.seen := rfl
    rw [← Option.some.inj performed]
    exact noted.quiet same le_rfl
  | pinned address verifyingKey =>
    have same : (before.transport.step (.pinned address verifyingKey)).2.seen =
      before.transport.seen := rfl
    rw [← Option.some.inj performed]
    exact noted.quiet same le_rfl

/-- In every run, the table holds at most 1024 ids, and the deliveries with one id are spaced. -/
theorem spaced_of_run (crypto : Primitives) {peerKeys : HashMap SocketAddr (VerifyingKey crypto)}
    {deliveries : Deliveries crypto}
    (run : Relation.ReflTransGen Step (start peerKeys) deliveries) :
    deliveries.transport.seen.size ≤ maxSeen ∧ deliveries.Spaced := by
  have noted : deliveries.Noted := by
    refine Run.preserves ?_ (noted_start peerKeys) run
    exact fun _ _ holds step => holds.step step
  exact ⟨noted.room, noted.spaced⟩

/-! ### A packet that comes three times -/

/-- The deliveries after a sequence of events. -/
def performAll (deliveries : Deliveries crypto) (events : List (ReliableTransport.Event crypto)) :
    Option (Deliveries crypto) :=
  events.foldlM perform deliveries

/-- A message arrives, and again after three seconds and after five minutes. -/
def sampleArrivals : List (ReliableTransport.Event sampleSuite) :=
  [0, 3, 300].map fun time => .datagram Reception.sampleEarly.serialize
    ReliableTransport.sampleAddress (seconds time) default

/-- It is handed over twice, five minutes apart. -/
theorem sampleArrivals_spaced : ∃ deliveries : Deliveries sampleSuite,
    deliveries.delivered = [(7, 0), (7, seconds 300)] ∧
      deliveries.transport.seen.size ≤ maxSeen ∧ deliveries.Spaced := by
  have handed : ((start (∅ : HashMap SocketAddr (VerifyingKey sampleSuite))).performAll
      sampleArrivals).map delivered = some [(7, 0), (7, seconds 300)] := by
    decide +kernel
  obtain ⟨deliveries, performed, delivered⟩ := Option.map_eq_some_iff.mp handed
  have run : Relation.ReflTransGen Step (start ∅) deliveries :=
    Run.of_foldlM (fun _ _ event _ step => ⟨event, step⟩) performed
  exact ⟨deliveries, delivered, spaced_of_run sampleSuite run⟩

end Deliveries

end Insub
