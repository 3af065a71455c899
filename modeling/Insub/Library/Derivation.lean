/-
This file is about keys that are derived from one another. A source says what a key is derived
from, and a log holds the sources of all keys that were derived. When no two sources in the log
yield one key, a key that is new has nothing derived from it yet, and chains of keys that start
at different sources stay apart.
-/

import Mathlib

namespace Derivation

variable {Source Key : Type} (key : Source → Key) (parent : Source → Option Key)

/-- Distinct sources in the log yield distinct keys. -/
def Apart (log : List Source) : Prop := Set.InjOn key {source | source ∈ log}

/-- The key has a source in the log. -/
def Logged (log : List Source) (derived : Key) : Prop := ∃ source ∈ log, key source = derived

/-- Whatever a source in the log is derived from has a source in the log. -/
def Rooted (log : List Source) : Prop :=
  ∀ source ∈ log, ∀ origin, parent source = some origin → Logged key log origin

/-- No source in the log is derived from the key. -/
def Unused (log : List Source) (derived : Key) : Prop :=
  ∀ source ∈ log, parent source ≠ some derived

variable {key parent} {log more : List Source}

theorem Apart.mono (apart : Apart key more) (subset : log ⊆ more) : Apart key log :=
  Set.InjOn.mono (fun _ member => subset member) apart

theorem Logged.mono {derived : Key} (logged : Logged key log derived) (subset : log ⊆ more) :
    Logged key more derived := by
  obtain ⟨source, member, yields⟩ := logged
  exact ⟨source, subset member, yields⟩

theorem logged_of_mem {source : Source} (member : source ∈ log) : Logged key log (key source) :=
  ⟨source, member, rfl⟩

/-- A source that is not in the log yields a key that has none there. -/
theorem Apart.not_logged {source : Source} (apart : Apart key (log ++ more))
    (member : source ∈ more) (fresh : source ∉ log) : ¬ Logged key log (key source) := by
  rintro ⟨origin, earlier, same⟩
  have equal := apart (List.mem_append_left more earlier) (List.mem_append_right log member) same
  exact fresh (equal ▸ earlier)

/-- A source that is derived from an unused key is not in the log. -/
theorem Unused.not_mem {derived : Key} {source : Source} (unused : Unused parent log derived)
    (child : parent source = some derived) : source ∉ log :=
  fun member => unused source member child

theorem Unused.append {derived : Key} (unused : Unused parent log derived)
    (others : ∀ source ∈ more, parent source = none) : Unused parent (log ++ more) derived := by
  intro source member
  rcases List.mem_append.mp member with earlier | new
  · exact unused source earlier
  · simp [others source new]

theorem Rooted.append (rooted : Rooted key parent log)
    (others : ∀ source ∈ more, ∀ derived, parent source = some derived → Logged key log derived) :
    Rooted key parent (log ++ more) := by
  intro source member derived child
  rcases List.mem_append.mp member with earlier | new
  · exact (rooted source earlier derived child).mono (List.subset_append_left log more)
  · exact (others source new derived child).mono (List.subset_append_left log more)

variable (key parent log) in
/-- The key is a tip of the log: it has a source there, and nothing is derived from it yet. -/
structure Tip (derived : Key) : Prop where
  rooted : Rooted key parent log
  logged : Logged key log derived
  unused : Unused parent log derived

theorem Tip.append {derived : Key} (tip : Tip key parent log derived)
    (others : ∀ source ∈ more, parent source = none) : Tip key parent (log ++ more) derived where
  rooted := tip.rooted.append fun source new origin child => by simp [others source new] at child
  logged := tip.logged.mono (List.subset_append_left log more)
  unused := tip.unused.append others

/-- What is derived from a tip is a tip. -/
theorem Tip.derive {used : Key} (tip : Tip key parent log used) {source : Source}
    (children : ∀ child ∈ more, parent child = some used) (apart : Apart key (log ++ more))
    (member : source ∈ more) : Tip key parent (log ++ more) (key source) := by
  have fresh : ¬ Logged key log (key source) :=
    apart.not_logged member (tip.unused.not_mem (children source member))
  refine ⟨tip.rooted.append ?_, logged_of_mem (List.mem_append_right log member), ?_⟩
  · intro child new origin derives
    rw [children child new] at derives
    exact Option.some.inj derives ▸ tip.logged
  · intro child listed derives
    rcases List.mem_append.mp listed with earlier | new
    · exact fresh (tip.rooted child earlier (key source) derives)
    · rw [children child new] at derives
      exact fresh (Option.some.inj derives ▸ tip.logged)

/-- Two chains of keys that meet started at one source and went equally far. -/
theorem iterate_inj {next : Key → Source} (distinct : Function.Injective next)
    (apart : Apart key log) {first second : Source} (firstLogged : first ∈ log)
    (secondLogged : second ∈ log) (firstSeed : ∀ derived, first ≠ next derived)
    (secondSeed : ∀ derived, second ≠ next derived) {firstCount secondCount : Nat}
    (firstUsed : ∀ count < firstCount, next ((key ∘ next)^[count] (key first)) ∈ log)
    (secondUsed : ∀ count < secondCount, next ((key ∘ next)^[count] (key second)) ∈ log)
    (same : (key ∘ next)^[firstCount] (key first) = (key ∘ next)^[secondCount] (key second)) :
    first = second ∧ firstCount = secondCount := by
  induction firstCount generalizing secondCount with
  | zero =>
    cases secondCount with
    | zero => exact ⟨apart firstLogged secondLogged same, rfl⟩
    | succ secondCount =>
      rw [Function.iterate_succ_apply'] at same
      exact absurd (apart firstLogged (secondUsed secondCount (by omega)) same) (firstSeed _)
  | succ firstCount inductionHypothesis =>
    cases secondCount with
    | zero =>
      rw [Function.iterate_succ_apply'] at same
      exact absurd (apart secondLogged (firstUsed firstCount (by omega)) same.symm) (secondSeed _)
    | succ secondCount =>
      rw [Function.iterate_succ_apply', Function.iterate_succ_apply'] at same
      have before := distinct
        (apart (firstUsed firstCount (by omega)) (secondUsed secondCount (by omega)) same)
      obtain ⟨equal, counts⟩ := inductionHypothesis
        (fun count less => firstUsed count (by omega))
        (fun count less => secondUsed count (by omega)) before
      exact ⟨equal, by rw [counts]⟩

end Derivation
