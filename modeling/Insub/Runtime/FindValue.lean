/-
This file models `find_value` of `runtime.rs`, with the pile it waits on, and proves when the
value that it returns is one of the key it was asked for. What is taken for an answer has to
come from the address that was asked, and the client believes it, whatever key it names. So a
lookup returns a value of its own key exactly as long as the first such packet of each wait
does not bring a value of another one.
-/

import Mathlib
import Insub.Dht.Parsing
import Insub.Dht.Shortlist
import Insub.Runtime.Dht

namespace Insub

open Rust

/-! ### Waiting -/

/-- The packets that are looked at while a lookup waits: those that are popped from the pile, as
long as each is put back. -/
def popped : (turns : List (List PileItem)) → (pile : List PileItem) → List PileItem
  | [], _ => []
  | arrivals :: turns, pile =>
    match pile ++ arrivals with
    | [] => popped turns []
    | item :: rest => item :: popped turns (rest ++ [item])

/-- A packet that is taken for the answer. -/
def accepts (expected : SocketAddr) (item : PileItem) : Bool :=
  item.2 = expected && !skipInLookup item.1

/-- The first such packet is taken. -/
theorem recvDht_eq (expected : SocketAddr) (turns : List (List PileItem)) (pile : List PileItem) :
    (recvDht expected turns pile).1 =
      match (popped turns pile).find? (accepts expected) with
      | none => .error (.error "dht recv timed out")
      | some (packet, sender) =>
        ((DhtOperation.fromSerialized packet.payload.data).inContext "bad dht response").map
          fun operation => (operation, sender) := by
  induction turns generalizing pile with
  | nil => rfl
  | cons arrivals turns inductionHypothesis =>
    rw [recvDht, popped]
    rcases pile ++ arrivals with _ | ⟨⟨packet, sender⟩, rest⟩
    · exact inductionHypothesis []
    · dsimp only
      by_cases other : sender ≠ expected ∨ skipInLookup packet = true
      · have refused : accepts expected (packet, sender) = false := by
          rw [accepts]
          rcases other with elsewhere | skipped
          · rw [decide_eq_false elsewhere, Bool.false_and]
          · rw [skipped, Bool.not_true, Bool.and_false]
        rw [if_pos other, List.find?_cons_of_neg (by rw [refused]; exact Bool.false_ne_true)]
        exact inductionHypothesis _
      · have taken : accepts expected (packet, sender) = true := by
          obtain ⟨here, read⟩ := not_or.mp other
          rw [accepts, decide_eq_true (not_not.mp here), Bool.eq_false_of_not_eq_true read]
          rfl
        rw [if_neg other, List.find?_cons_of_pos taken]

/-- Waiting never panics, since the only operation that the parser does not check is skipped. -/
theorem not_panics_recvDht (expected : SocketAddr) (turns : List (List PileItem))
    (pile : List PileItem) : ¬ (recvDht expected turns pile).1.Panics := by
  rw [recvDht_eq]
  cases found : (popped turns pile).find? (accepts expected) with
  | none => exact Outcome.not_panics_error _
  | some item =>
    obtain ⟨packet, sender⟩ := item
    have accepted := List.find?_some found
    have noStore : packet.payload.data.head? ≠ some 5 := by
      intro store
      obtain ⟨rest, data⟩ : ∃ rest, packet.payload.data = 5 :: rest := by
        cases data : packet.payload.data with
        | nil =>
          rw [data] at store
          cases store
        | cons tag rest =>
          rw [data] at store
          exact ⟨rest, by rw [Option.some.inj store]⟩
      have skipped : skipInLookup packet = true := by
        rw [skipInLookup, data]
        rfl
      rw [accepts, skipped, Bool.not_true, Bool.and_false] at accepted
      cases accepted
    rintro ⟨site, panicked⟩
    dsimp only at panicked
    rcases read : DhtOperation.fromSerialized packet.payload.data with (message | other) | operation
    · rw [read] at panicked
      cases panicked
    · exact DhtOperation.not_panics_fromSerialized noStore ⟨other, read⟩
    · rw [read] at panicked
      cases panicked

/-- What is taken is read off that packet. -/
theorem recvDht_ok {expected : SocketAddr} {turns : List (List PileItem)} {pile : List PileItem}
    {operation : DhtOperation} {sender : SocketAddr} :
    (recvDht expected turns pile).1 = .ok (operation, sender) ↔
      ∃ packet, (popped turns pile).find? (accepts expected) = some (packet, sender) ∧
        DhtOperation.fromSerialized packet.payload.data = .ok operation := by
  rw [recvDht_eq]
  cases found : (popped turns pile).find? (accepts expected) with
  | none =>
    refine ⟨fun taken => ?_, fun ⟨packet, absent, _⟩ => ?_⟩
    · cases taken
    · cases absent
  | some item =>
    obtain ⟨packet, source⟩ := item
    dsimp only
    refine ⟨fun taken => ?_, fun ⟨other, same, read⟩ => ?_⟩
    · rcases read : DhtOperation.fromSerialized packet.payload.data with fault | parsed
      · rw [read] at taken
        cases fault <;> cases taken
      · rw [read] at taken
        obtain ⟨rfl, rfl⟩ := Prod.mk.inj (Except.ok.inj taken)
        exact ⟨packet, rfl, read⟩
    · obtain ⟨rfl, rfl⟩ := Prod.mk.inj (Option.some.inj same)
      rw [read]
      rfl

/-- A response with a value of a key. -/
def DhtOperation.OfKey (key : Key) : DhtOperation → Prop
  | .value _ other _ _ => other = key
  | _ => False

/-! ### The loop of `find_value` -/

/-- What happens while a lookup waits for an answer: the packets that arrive turn by turn, and
the times at which it enters the nodes that it hears of. -/
structure Wait where
  turns : List (List PileItem)
  now : Instant
  clock : Nat → Instant

/-- A lookup, with the pile it waits on and the responses it has taken, the latest first. -/
structure Search where
  lookup : Lookup
  pile : List PileItem
  taken : List DhtOperation

namespace Search

/-- The loop, before the first query. -/
def start (client : DhtClient) (routing : RoutingTable) (pile : List PileItem) (key : Key) :
    Search where
  lookup := .findValue client routing key
  pile := pile
  taken := []

/-- One query. As waiting does not panic, every error is one that the loop goes on after. -/
def step (search : Search) (wait : Wait) : Search :=
  match search.lookup.next with
  | none => search
  | some (_, addr) =>
    match recvDht addr wait.turns search.pile with
    | (.error _, pile) => { search with lookup := search.lookup.step .timeout, pile }
    | (.ok (response, sender), pile) =>
      { lookup := search.lookup.step (.response response sender wait.now wait.clock)
        pile
        taken := response :: search.taken }

/-- `find_value`, as far as the waits go. -/
def findValue (client : DhtClient) (routing : RoutingTable) (pile : List PileItem) (key : Key)
    (waits : List Wait) : Search :=
  waits.foldl step (start client routing pile key)

/-- What is returned once the loop has ended. -/
def result (search : Search) : Option (Outcome (Option Bytes × NodeList)) :=
  match search.lookup.next with
  | some _ => none
  | none => some ((okOr "no lookup result" search.lookup.client.pending).map fun pending =>
      (pending.foundValue, pending.shortlist))

/-- A value that is returned was carried by a response with a property. -/
def Finds (good : DhtOperation → Prop) (search : Search) : Prop :=
  ∀ value shortlist, search.result = some (.ok (some value, shortlist)) →
    ∃ response ∈ search.taken, response.carried = some value ∧ good response

/-- Of the packets that are looked at, the first that is taken for the answer has the property
if it brings a value. -/
def Answers (good : DhtOperation → Prop) (search : Search) (wait : Wait) : Prop :=
  ∀ query addr packet sender, search.lookup.next = some (query, addr) →
    (popped wait.turns search.pile).find? (accepts addr) = some (packet, sender) →
      ∀ response value, DhtOperation.fromSerialized packet.payload.data = .ok response →
        response.carried = some value → good response

/-! ### Step by step -/

/-- A search that was brought no value: it goes on, or it has ended without one. -/
structure Unfound (search : Search) : Prop where
  held : ∃ pending, search.lookup.client.pending = some pending ∧ pending.foundValue = none
  uncarried : ∀ operation ∈ search.taken, operation.carried = none

theorem unfound_start (client : DhtClient) (routing : RoutingTable) (pile : List PileItem)
    (key : Key) : (start client routing pile key).Unfound where
  held := by
    rw [start, Lookup.findValue, DhtClient.startFindValue, Lookup.advance_eq]
    exact ⟨_, rfl, PendingLookup.foundValue_nextQuery _⟩
  uncarried operation taken := by cases taken

theorem step_ended {search : Search} (ended : search.lookup.next = none) (wait : Wait) :
    search.step wait = search := by
  rw [step, ended]

theorem foldl_ended {search : Search} (ended : search.lookup.next = none) (waits : List Wait) :
    waits.foldl step search = search := by
  induction waits with
  | nil => rfl
  | cons wait rest inductionHypothesis =>
    rw [List.foldl_cons, step_ended ended]
    exact inductionHypothesis

/-- What has ended waits for nothing. -/
theorem along_ended (good : DhtOperation → Prop) {search : Search}
    (ended : search.lookup.next = none) (waits : List Wait) :
    Run.Along step (Answers good) search waits := by
  induction waits with
  | nil => trivial
  | cons wait rest inductionHypothesis =>
    refine ⟨fun query addr packet sender going => ?_, ?_⟩
    · rw [ended] at going
      cases going
    · rw [step_ended ended]
      exact inductionHypothesis

/-- A search that was brought no value returns none. -/
theorem Unfound.finds {search : Search} (unfound : search.Unfound)
    (good : DhtOperation → Prop) : search.Finds good := by
  obtain ⟨pending, held, none_found⟩ := unfound.held
  intro value shortlist returned
  rw [result] at returned
  cases next : search.lookup.next with
  | some query =>
    rw [next] at returned
    cases returned
  | none =>
    rw [next, held] at returned
    have found : pending.foundValue = some value :=
      (Prod.mk.inj (Except.ok.inj (Option.some.inj returned))).1
    rw [none_found] at found
    cases found

/-- Answers without a value keep it that way. -/
theorem Unfound.answer {search : Search} (unfound : search.Unfound)
    {query : DhtOperation × SocketAddr} (going : search.lookup.next = some query)
    {answer : Answer} (carries : answer.carried = none) {taken : List DhtOperation}
    (uncarried : ∀ operation ∈ taken, operation.carried = none) (pile : List PileItem) :
    Unfound { lookup := search.lookup.step answer, pile, taken } := by
  obtain ⟨pending, held, none_found⟩ := unfound.held
  refine ⟨⟨_, (Lookup.step_uncarried going held carries).2, ?_⟩, uncarried⟩
  rw [PendingLookup.foundValue_nextQuery]
  cases answer with
  | timeout => exact none_found
  | response operation sender now clock =>
    have carried : operation.carried = none := carries
    rw [PendingLookup.answered, carried]
    exact none_found

/-- The condition is about what is taken. -/
theorem answers_iff (good : DhtOperation → Prop) {search : Search} (wait : Wait)
    {query : DhtOperation} {addr : SocketAddr} (next : search.lookup.next = some (query, addr)) :
    search.Answers good wait ↔ ∀ response sender value,
      (recvDht addr wait.turns search.pile).1 = .ok (response, sender) →
        response.carried = some value → good response := by
  refine ⟨fun answers response sender value taken carried => ?_, ?_⟩
  · obtain ⟨packet, found, read⟩ := recvDht_ok.mp taken
    exact answers query addr packet sender next found response value read carried
  · intro own query' addr' packet sender next' found response value read carried
    rw [next] at next'
    obtain ⟨rfl, rfl⟩ := Prod.mk.inj (Option.some.inj next')
    exact own response sender value (recvDht_ok.mpr ⟨packet, found, read⟩) carried

/-- A value ends the search, which returns it. -/
theorem Unfound.brought {search : Search} (unfound : search.Unfound) (good : DhtOperation → Prop)
    {query : DhtOperation × SocketAddr} (going : search.lookup.next = some query)
    {response : DhtOperation} {value : Bytes} (carried : response.carried = some value)
    {sender : SocketAddr} {now : Instant} {clock : Nat → Instant} {pile : List PileItem}
    {after : Search} (brought : after =
      { lookup := search.lookup.step (.response response sender now clock)
        pile
        taken := response :: search.taken }) :
    after.lookup.next = none ∧ (after.Finds good ↔ good response) := by
  obtain ⟨pending, held, -⟩ := unfound.held
  have carries : (Answer.response response sender now clock).carried = some value := carried
  obtain ⟨ended, kept⟩ := Lookup.step_carried going held carries
  rw [PendingLookup.answered, carried] at kept
  subst brought
  refine ⟨ended, fun finds => ?_, ?_⟩
  · obtain ⟨other, taken, same, own⟩ := finds value (pending.told response.listed).shortlist (by
      rw [result, ended, kept]
      rfl)
    rcases List.mem_cons.mp taken with rfl | earlier
    · exact own
    · rw [unfound.uncarried other earlier] at same
      cases same
  · intro own found shortlist returned
    rw [result, ended, kept] at returned
    have same : some value = some found :=
      (Prod.mk.inj (Except.ok.inj (Option.some.inj returned))).1
    rw [← same]
    exact ⟨response, List.mem_cons_self, carried, own⟩

/-- From any search that was brought no value yet. -/
theorem foldl_finds_iff (good : DhtOperation → Prop) (waits : List Wait) {search : Search}
    (unfound : search.Unfound) :
    (waits.foldl step search).Finds good ↔ Run.Along step (Answers good) search waits := by
  induction waits generalizing search with
  | nil => exact ⟨fun _ => trivial, fun _ => unfound.finds good⟩
  | cons wait rest inductionHypothesis =>
    cases next : search.lookup.next with
    | none =>
      rw [foldl_ended next]
      exact ⟨fun _ => along_ended good next _, fun _ => unfound.finds good⟩
    | some query =>
      obtain ⟨query, addr⟩ := query
      have condition := answers_iff good wait next
      rw [List.foldl_cons, Run.Along, condition]
      rcases received : recvDht addr wait.turns search.pile with ⟨fault | ⟨response, sender⟩, pile⟩
      · have kept : search.step wait =
            { search with lookup := search.lookup.step .timeout, pile } := by
          rw [step, next]
          dsimp only
          rw [received]
        rw [kept, inductionHypothesis (unfound.answer next rfl unfound.uncarried pile)]
        refine ⟨fun along => ⟨?_, along⟩, And.right⟩
        intro response sender value taken
        cases taken
      · have answered : search.step wait =
            { lookup := search.lookup.step (.response response sender wait.now wait.clock)
              pile
              taken := response :: search.taken } := by
          rw [step, next]
          dsimp only
          rw [received]
        cases carried : response.carried with
        | none =>
          have uncarried : ∀ taken ∈ response :: search.taken, taken.carried = none :=
            List.forall_mem_cons.mpr ⟨carried, unfound.uncarried⟩
          have carries : (Answer.response response sender wait.now wait.clock).carried = none :=
            carried
          rw [answered, inductionHypothesis (unfound.answer next carries uncarried pile)]
          refine ⟨fun along => ⟨?_, along⟩, And.right⟩
          intro response' sender' value taken brings
          obtain ⟨rfl, -⟩ := Prod.mk.inj (Except.ok.inj taken)
          rw [carried] at brings
          cases brings
        | some value =>
          obtain ⟨ended, own⟩ := unfound.brought good next carried answered
          rw [foldl_ended ended, own]
          refine ⟨fun holds => ⟨?_, along_ended good ended _⟩, fun ⟨holds, _⟩ => ?_⟩
          · intro response' sender' value' taken _
            obtain ⟨rfl, -⟩ := Prod.mk.inj (Except.ok.inj taken)
            exact holds
          · exact holds response sender value rfl carried

/-- Every value that is returned was carried by a response. -/
theorem carried_of_result {search : Search} (unfound : search.Unfound) (waits : List Wait)
    {value : Bytes} {shortlist : NodeList}
    (returned : (waits.foldl step search).result = some (.ok (some value, shortlist))) :
    ∃ response ∈ (waits.foldl step search).taken, response.carried = some value := by
  have along : Run.Along step (Answers fun _ => True) search waits :=
    Run.along_of_forall (fun _ _ _ _ _ _ _ _ _ _ _ _ => trivial) waits
  obtain ⟨response, taken, carried, -⟩ :=
    (foldl_finds_iff _ waits unfound).mpr along value shortlist returned
  exact ⟨response, taken, carried⟩

/-- A lookup returns a value of the key it was asked for, exactly if in none of its waits the
packet that is taken for the answer brings a value of another key. -/
theorem findValue_finds_ofKey_iff (client : DhtClient) (routing : RoutingTable)
    (pile : List PileItem) (key : Key) (waits : List Wait) :
    (findValue client routing pile key waits).Finds (DhtOperation.OfKey key) ↔
      Run.Along step (Answers (DhtOperation.OfKey key)) (start client routing pile key) waits :=
  foldl_finds_iff _ waits (unfound_start client routing pile key)

/-! ### An answer that comes too late -/

open LookupTrace (sampleNode sampleAddr sampleTable)

/-- The value of key `1`, which node `1` keeps. -/
def sampleValue : DhtOperation := .value (sampleNode 1) (sampleNode 1).id (some [7]) []

/-- Node `0` looks up key `1`, and the nodes it asks do not answer in time. -/
def sampleLate : Search :=
  findValue (.new (sampleNode 0)) sampleTable [] (sampleNode 1).id
    [⟨[], 0, fun _ => 0⟩, ⟨[], 0, fun _ => 0⟩]

/-- Node `0` looks up key `2`, and gets the answer to its first lookup. -/
def sampleMixUp : Search :=
  findValue sampleLate.lookup.client sampleLate.lookup.routing sampleLate.pile (sampleNode 2).id
    [⟨[[(.new 0 0 (.new .dhtOperation sampleValue.serialize), sampleAddr)]], 0, fun _ => 0⟩]

/-- The value of key `1` is returned as that of key `2`. -/
theorem late_value_returned : sampleLate.lookup.next = none ∧
    sampleMixUp.result = some (.ok (some [7], sampleTable.closestNodes (sampleNode 2) Routing.k)) ∧
      ¬ sampleMixUp.Finds (DhtOperation.OfKey (sampleNode 2).id) := by
  have returned : sampleMixUp.result =
      some (.ok (some [7], sampleTable.closestNodes (sampleNode 2) Routing.k)) := by
    decide +kernel
  have taken : sampleMixUp.taken = [sampleValue] := by
    decide +kernel
  refine ⟨by decide +kernel, returned, fun finds => ?_⟩
  obtain ⟨response, member, -, own⟩ := finds _ _ returned
  rw [taken, List.mem_singleton] at member
  rw [member] at own
  have same : (sampleNode 1).id = (sampleNode 2).id := own
  exact absurd same (by decide)

end Search

end Insub
