/-
This file is about receiving numbered messages over a channel that loses and
reorders them. A receive window is what a receiver has to remember: the highest
number it has accepted, and the numbers below it that it passed over and may still
accept. A number is accepted at most once, and a number that was not accepted yet is
accepted as long as it is not more than a fixed gap ahead.
-/

import Mathlib

/-- What a receiver of numbered messages remembers. Every outstanding number was passed
over on the way to the number reached. -/
structure ReceiveWindow where
  reached : Nat
  outstanding : Finset Nat
  passed : ∀ number ∈ outstanding, 1 ≤ number ∧ number < reached

namespace ReceiveWindow

/-- The window of a receiver that has accepted nothing. -/
def empty : ReceiveWindow := ⟨0, ∅, by simp⟩

/-- Move ahead to a number and leave the numbers in between outstanding. -/
def advanceTo (window : ReceiveWindow) (number : Nat) (ahead : window.reached < number) :
    ReceiveWindow where
  reached := number
  outstanding := window.outstanding ∪ Finset.Ioo window.reached number
  passed := by
    intro other member
    rcases Finset.mem_union.mp member with old | between
    · have bound := window.passed other old
      omega
    · have bound := Finset.mem_Ioo.mp between
      omega

/-- Accept a number that was passed over. -/
def take (window : ReceiveWindow) (number : Nat) : ReceiveWindow where
  reached := window.reached
  outstanding := window.outstanding.erase number
  passed := fun other member => window.passed other (Finset.mem_of_mem_erase member)

/-- Accept a number, when the window allows it. -/
def accept (gap : Nat) (window : ReceiveWindow) (number : Nat) : Option ReceiveWindow :=
  if ahead : window.reached < number then
    if number ≤ window.reached + gap then some (window.advanceTo number ahead) else none
  else if number ∈ window.outstanding then some (window.take number) else none

theorem accept_ahead {gap number : Nat} {window : ReceiveWindow}
    (ahead : window.reached < number) (near : number ≤ window.reached + gap) :
    window.accept gap number = some (window.advanceTo number ahead) := by
  rw [accept, dif_pos ahead, if_pos near]

theorem accept_outstanding {gap number : Nat} {window : ReceiveWindow}
    (member : number ∈ window.outstanding) :
    window.accept gap number = some (window.take number) := by
  have bound := window.passed number member
  rw [accept, dif_neg (by omega), if_pos member]

/-- A window refuses a number exactly when the number is too far ahead, or is neither ahead
nor outstanding. -/
theorem accept_eq_none_iff {gap number : Nat} {window : ReceiveWindow} :
    window.accept gap number = none ↔
      window.reached + gap < number ∨
        (number ≤ window.reached ∧ number ∉ window.outstanding) := by
  rw [accept]
  by_cases ahead : window.reached < number
  · rw [dif_pos ahead]
    by_cases near : number ≤ window.reached + gap
    · simp only [if_pos near, reduceCtorEq, false_iff]
      omega
    · simp only [if_neg near, true_iff]
      omega
  · rw [dif_neg ahead]
    by_cases member : number ∈ window.outstanding
    · simp only [if_pos member, reduceCtorEq, false_iff, not_or, not_and]
      exact ⟨by omega, fun _ absent => absent member⟩
    · simp only [if_neg member, true_iff]
      exact Or.inr ⟨by omega, member⟩

/-! ### The numbers accepted so far -/

/-- The window is the one of a receiver that has accepted exactly these numbers. -/
structure Accounts (window : ReceiveWindow) (accepted : Set Nat) : Prop where
  within : ∀ number ∈ accepted, 1 ≤ number ∧ number ≤ window.reached
  complete : ∀ number, 1 ≤ number → number ≤ window.reached → number ∉ accepted →
    number ∈ window.outstanding
  once : ∀ number ∈ window.outstanding, number ∉ accepted

theorem accounts_empty : Accounts empty ∅ where
  within := fun _ member => member.elim
  complete := by
    intro number positive bound
    have zero : number ≤ 0 := bound
    omega
  once := by simp [empty]

/-- A number that was not accepted yet and is near enough is accepted. -/
theorem Accounts.accept_isSome {gap number : Nat} {window : ReceiveWindow} {accepted : Set Nat}
    (accounts : Accounts window accepted) (positive : 1 ≤ number) (fresh : number ∉ accepted)
    (near : number ≤ window.reached + gap) :
    ∃ next, window.accept gap number = some next := by
  by_cases ahead : window.reached < number
  · exact ⟨_, accept_ahead ahead near⟩
  · exact ⟨_, accept_outstanding (accounts.complete number positive (by omega) fresh)⟩

/-- What accepting a number does to the window. -/
theorem accept_cases {gap number : Nat} {window next : ReceiveWindow}
    (step : window.accept gap number = some next) :
    (∃ ahead : window.reached < number, number ≤ window.reached + gap ∧
        next = window.advanceTo number ahead) ∨
      (number ∈ window.outstanding ∧ next = window.take number) := by
  rw [accept] at step
  split at step
  · rename_i ahead
    split at step
    · rename_i near
      exact Or.inl ⟨ahead, near, (Option.some.inj step).symm⟩
    · cases step
  · split at step
    · rename_i member
      exact Or.inr ⟨member, (Option.some.inj step).symm⟩
    · cases step

/-- Accepting a number accounts for it. -/
theorem Accounts.accept {gap number : Nat} {window next : ReceiveWindow} {accepted : Set Nat}
    (accounts : Accounts window accepted) (step : window.accept gap number = some next) :
    Accounts next (insert number accepted) := by
  rcases accept_cases step with ⟨ahead, near, rfl⟩ | ⟨member, rfl⟩
  · refine ⟨?_, ?_, ?_⟩
    · rintro other (rfl | old)
      · exact ⟨by omega, le_refl _⟩
      · have bound := accounts.within other old
        exact ⟨bound.1, by show other ≤ number; omega⟩
    · intro other positive bound absent
      have bound : other ≤ number := bound
      have different : other ≠ number := fun same => absent (Or.inl same)
      refine Finset.mem_union.mpr ?_
      by_cases old : other ≤ window.reached
      · exact Or.inl (accounts.complete other positive old fun kept => absent (Or.inr kept))
      · exact Or.inr (Finset.mem_Ioo.mpr ⟨by omega, by omega⟩)
    · rintro other outstanding (rfl | old)
      · have bound := (window.advanceTo other ahead).passed other outstanding
        exact absurd bound.2 (lt_irrefl other)
      · have bound := accounts.within other old
        rcases Finset.mem_union.mp outstanding with kept | between
        · exact accounts.once other kept old
        · have above := (Finset.mem_Ioo.mp between).1
          omega
  · refine ⟨?_, ?_, ?_⟩
    · rintro other (rfl | old)
      · have bound := window.passed other member
        exact ⟨bound.1, by show other ≤ window.reached; omega⟩
      · exact accounts.within other old
    · intro other positive bound absent
      refine Finset.mem_erase.mpr ⟨fun same => absent (Or.inl same), ?_⟩
      exact accounts.complete other positive bound fun kept => absent (Or.inr kept)
    · rintro other outstanding (rfl | old)
      · exact (Finset.mem_erase.mp outstanding).1 rfl
      · exact accounts.once other (Finset.mem_of_mem_erase outstanding) old

/-- No number is accepted twice. -/
theorem Accounts.notMem_of_accept {gap number : Nat} {window next : ReceiveWindow}
    {accepted : Set Nat} (accounts : Accounts window accepted)
    (step : window.accept gap number = some next) : number ∉ accepted := by
  rcases accept_cases step with ⟨ahead, _, _⟩ | ⟨outstanding, _⟩
  · intro member
    have bound := accounts.within number member
    omega
  · exact accounts.once number outstanding

/-- Accepting a number moves the window to it, or leaves the number reached in place. -/
theorem reached_of_accept {gap number : Nat} {window next : ReceiveWindow}
    (step : window.accept gap number = some next) :
    next.reached = max window.reached number := by
  rcases accept_cases step with ⟨ahead, _, rfl⟩ | ⟨member, rfl⟩
  · show number = max window.reached number
    omega
  · have bound := window.passed number member
    show window.reached = max window.reached number
    omega

end ReceiveWindow
