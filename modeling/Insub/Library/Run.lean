/-
This file has the inductions that results over runs rest on. A run is a sequence of steps of
a relation between states, and what one step preserves, a run preserves. Or it is a sequence
of events that a function takes in, one after the other, and a condition on each event, in
the state in which it arrives, is a condition on the run.
-/

import Mathlib

namespace Run

variable {State : Type} {step : State → State → Prop}

/-- An invariant of the step holds in every state a run reaches. -/
theorem preserves {invariant : State → Prop}
    (preserved : ∀ before after, invariant before → step before after → invariant after)
    {first last : State} (start : invariant first)
    (run : Relation.ReflTransGen step first last) : invariant last := by
  induction run with
  | refl => exact start
  | tail _ last inductionHypothesis => exact preserved _ _ inductionHypothesis last

/-- When every state with something left has a step that leaves less of it, a run comes to a state
with nothing left. -/
theorem exhausts {invariant : State → Prop} (left : State → Nat)
    (advances : ∀ state, invariant state → left state ≠ 0 →
      ∃ next, step state next ∧ invariant next ∧ left next < left state)
    {first : State} (start : invariant first) :
    ∃ last, Relation.ReflTransGen step first last ∧ invariant last ∧ left last = 0 := by
  induction size : left first using Nat.strong_induction_on generalizing first with
  | _ count inductionHypothesis =>
    by_cases done : left first = 0
    · exact ⟨first, .refl, start, done⟩
    · obtain ⟨next, here, kept, less⟩ := advances first start done
      obtain ⟨last, run, holds, none⟩ :=
        inductionHypothesis (left next) (size ▸ less) kept rfl
      exact ⟨last, .head here run, holds, none⟩

variable {Event : Type} {perform : State → Event → State}

/-- Every event of a run meets the condition in the state in which it arrives. -/
def Along (perform : State → Event → State) (condition : State → Event → Prop) :
    State → List Event → Prop
  | _, [] => True
  | state, event :: rest =>
    condition state event ∧ Along perform condition (perform state event) rest

/-- A condition that every event meets in every state is one on no run. -/
theorem along_of_forall {condition : State → Event → Prop}
    (meets : ∀ state event, condition state event) (events : List Event) {state : State} :
    Along perform condition state events := by
  induction events generalizing state with
  | nil => trivial
  | cons event rest inductionHypothesis => exact ⟨meets state event, inductionHypothesis⟩

/-- Two conditions agree on a run when they agree wherever an invariant holds, and an event
that meets the first keeps the invariant. -/
theorem along_iff {invariant : State → Prop} {first second : State → Event → Prop}
    (agree : ∀ state event, invariant state → (first state event ↔ second state event))
    (preserved : ∀ state event, invariant state → first state event →
      invariant (perform state event))
    {state : State} (start : invariant state) (events : List Event) :
    Along perform first state events ↔ Along perform second state events := by
  induction events generalizing state with
  | nil => exact Iff.rfl
  | cons event rest inductionHypothesis =>
    have here := agree state event start
    constructor
    · rintro ⟨meets, later⟩
      exact ⟨here.mp meets, (inductionHypothesis (preserved state event start meets)).mp later⟩
    · rintro ⟨meets, later⟩
      have kept := preserved state event start (here.mpr meets)
      exact ⟨here.mpr meets, (inductionHypothesis kept).mpr later⟩

/-- A condition carries over to another on a run, when it does so wherever an invariant holds, and
keeps the invariant. -/
theorem along_of_along {invariant : State → Prop} {first second : State → Event → Prop}
    (implies : ∀ state event, invariant state → first state event →
      second state event ∧ invariant (perform state event))
    {state : State} (start : invariant state) {events : List Event}
    (along : Along perform first state events) : Along perform second state events := by
  induction events generalizing state with
  | nil => trivial
  | cons event rest inductionHypothesis =>
    obtain ⟨meets, later⟩ := along
    obtain ⟨holds, kept⟩ := implies state event start meets
    exact ⟨holds, inductionHypothesis kept later⟩

/-- A sequence of events is a run, when what each leads to is a step. -/
theorem of_foldl {perform : State → Event → State} {events : List Event}
    (steps : ∀ state, ∀ event ∈ events, step state (perform state event)) (first : State) :
    Relation.ReflTransGen step first (events.foldl perform first) := by
  induction events generalizing first with
  | nil => exact .refl
  | cons event rest inductionHypothesis =>
    have others := inductionHypothesis
      (fun state other member => steps state other (List.mem_cons_of_mem _ member))
    exact .head (steps first event List.mem_cons_self) (others (perform first event))

theorem of_foldlM {advance : State → Event → Option State} {events : List Event}
    (steps : ∀ before after, ∀ event ∈ events, advance before event = some after →
      step before after)
    {first last : State} (performed : events.foldlM advance first = some last) :
    Relation.ReflTransGen step first last := by
  induction events generalizing first with
  | nil =>
    obtain rfl : first = last := Option.some.inj performed
    exact .refl
  | cons event rest inductionHypothesis =>
    rw [List.foldlM_cons] at performed
    obtain ⟨next, here, later⟩ := Option.bind_eq_some_iff.mp performed
    refine .head (steps first next event List.mem_cons_self here) (inductionHypothesis ?_ later)
    intro before after event member
    exact steps before after event (List.mem_cons_of_mem _ member)

/-- A split of a list with one more item is one of the list, or the item is the one it splits
at. -/
theorem split_concat {Item : Type} {items before rest : List Item} {last item : Item}
    (split : items ++ [last] = before ++ item :: rest) :
    (rest = [] ∧ items = before ∧ last = item) ∨
      ∃ shorter, rest = shorter ++ [last] ∧ items = before ++ item :: shorter := by
  rcases List.eq_nil_or_concat rest with rfl | ⟨shorter, other, rfl⟩
  · obtain ⟨same, sameLast⟩ := List.append_inj' split rfl
    exact Or.inl ⟨rfl, same, List.singleton_inj.mp sameLast⟩
  · rw [List.concat_eq_append] at split ⊢
    rw [← List.cons_append, ← List.append_assoc] at split
    obtain ⟨same, sameLast⟩ := List.append_inj' split rfl
    rw [List.singleton_inj.mp sameLast]
    exact Or.inr ⟨shorter, rfl, same⟩

/-- What holds between every item of a list and each before it holds pairwise. -/
theorem pairwise_of_split {Item : Type} {related : Item → Item → Prop} {items : List Item}
    (holds : ∀ before item after, items = before ++ item :: after →
      ∀ earlier ∈ before, related earlier item) : items.Pairwise related := by
  induction items using List.reverseRecOn with
  | nil => exact List.Pairwise.nil
  | append_singleton items last inductionHypothesis =>
    refine List.pairwise_append.mpr ⟨inductionHypothesis ?_, List.pairwise_singleton _ _, ?_⟩
    · intro before item after split
      exact holds before item (after ++ [last]) (by rw [split, List.append_assoc, List.cons_append])
    · intro earlier member item only
      rw [List.mem_singleton.mp only]
      exact holds items last [] rfl earlier member

/-- The first item of a list that meets a condition. -/
theorem exists_first {Item : Type} (meets : Item → Prop) {items : List Item} {item : Item}
    (member : item ∈ items) (here : meets item) :
    ∃ before first after, items = before ++ first :: after ∧ meets first ∧
      ∀ earlier ∈ before, ¬ meets earlier := by
  induction items with
  | nil => cases member
  | cons head rest inductionHypothesis =>
    by_cases meetsHead : meets head
    · exact ⟨[], head, rest, rfl, meetsHead, fun _ member => absurd member List.not_mem_nil⟩
    · rcases List.mem_cons.mp member with rfl | member
      · exact absurd here meetsHead
      · obtain ⟨before, first, after, rfl, meetsFirst, none⟩ := inductionHypothesis member
        refine ⟨head :: before, first, after, rfl, meetsFirst, fun earlier member => ?_⟩
        rcases List.mem_cons.mp member with rfl | member
        · exact meetsHead
        · exact none earlier member

end Run
