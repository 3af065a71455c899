/-
This file is about reading a counted number of items, one after the other, and putting each into a
collection as it is read. The reader moves through its input by itself, so the input is whatever
state the reader keeps: the bytes that are left, or a position in them.

Where the items that are ahead are known, all of them are read, or none is missed that is cut off.
Where nothing is known of the input, what the reading of one item keeps, the reading of all keeps.
-/

import Mathlib
import Insub.Library.Outcome

namespace Rust

variable {State Item Collection : Type}

/-- Read items one after the other, and put each into the collection. -/
def readItems (read : State → Outcome (Item × State)) (put : Collection → Item → Collection) :
    Nat → State → Collection → Outcome (Collection × State)
  | 0, state, collection => .ok (collection, state)
  | count + 1, state, collection => do
    let (item, state) ← read state
    readItems read put count state (put collection item)

variable {read : State → Outcome (Item × State)} {put : Collection → Item → Collection}

/-- The items ahead are read in their order. -/
theorem readItems_ahead {Ahead : List Item → State → Prop}
    (reads : ∀ item rest state, Ahead (item :: rest) state →
      ∃ next, read state = .ok (item, next) ∧ Ahead rest next)
    {items : List Item} {state : State} (ahead : Ahead items state) (collection : Collection) :
    ∃ last, readItems read put items.length state collection =
      .ok (items.foldl put collection, last) ∧ Ahead [] last := by
  induction items generalizing state collection with
  | nil => exact ⟨state, rfl, ahead⟩
  | cons item rest inductionHypothesis =>
    obtain ⟨next, run, following⟩ := reads item rest state ahead
    obtain ⟨last, others, finished⟩ := inductionHypothesis following (put collection item)
    refine ⟨last, ?_, finished⟩
    rw [List.length_cons, readItems, run, Outcome.bind_ok]
    exact others

/-- When the last of the items ahead is cut off, the reading fails. -/
theorem readItems_cut {Cut : List Item → State → Prop}
    (reads : ∀ item rest state, Cut (item :: rest) state → (read state).IsError ∨
      ∃ next, read state = .ok (item, next) ∧ Cut rest next)
    (never : ∀ state, ¬ Cut [] state) {items : List Item} {state : State} (cut : Cut items state)
    (collection : Collection) :
    (readItems read put items.length state collection).IsError := by
  induction items generalizing state collection with
  | nil => exact absurd cut (never state)
  | cons item rest inductionHypothesis =>
    rw [List.length_cons, readItems]
    rcases reads item rest state cut with ⟨message, failed⟩ | ⟨next, run, following⟩
    · exact ⟨message, by rw [failed]; rfl⟩
    · rw [run, Outcome.bind_ok]
      exact inductionHypothesis following _

/-- What the reading of an item keeps, holds of the collection and of the input that is left. -/
theorem readItems_preserves (holds : State → Collection → Prop)
    (reads : ∀ state collection item next, holds state collection →
      read state = .ok (item, next) → holds next (put collection item))
    {count : Nat} {state last : State} {collection result : Collection}
    (start : holds state collection)
    (run : readItems read put count state collection = .ok (result, last)) :
    holds last result := by
  induction count generalizing state collection with
  | zero =>
    obtain ⟨rfl, rfl⟩ := Prod.mk.inj (Except.ok.inj run)
    exact start
  | succ count inductionHypothesis =>
    obtain ⟨⟨item, next⟩, here, later⟩ := Outcome.bind_eq_ok_iff.mp run
    exact inductionHypothesis (reads state collection item next start here) later

/-- Items that are pushed one after the other are appended. -/
theorem foldl_push {Item : Type} (before items : List Item) :
    items.foldl (fun listed item => listed ++ [item]) before = before ++ items := by
  induction items generalizing before with
  | nil => rw [List.foldl_nil, List.append_nil]
  | cons item rest inductionHypothesis =>
    rw [List.foldl_cons, inductionHypothesis, List.append_assoc, List.singleton_append]

theorem not_panics_readItems (total : ∀ state, ¬ (read state).Panics) (count : Nat) (state : State)
    (collection : Collection) : ¬ (readItems read put count state collection).Panics := by
  induction count generalizing state collection with
  | zero => exact Outcome.not_panics_ok _
  | succ count inductionHypothesis =>
    exact Outcome.not_panics_bind (total state) fun _ _ => inductionHypothesis _ _

end Rust
