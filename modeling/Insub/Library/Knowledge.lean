/-
This file is about what can be computed from some keys. A key is reached when it is known, or when
it comes from a source of the attack whose origin is reached. As long as no source of the attack
collides with one in the log, a key that was derived from keys out of reach is out of reach, and so
is whatever is derived from a key that needs more than keys to be derived.
-/

import Mathlib
import Insub.Library.Derivation

namespace Derivation

variable {Source Key : Type} (key : Source → Key) (origin : Source → Key)

/-- What can be computed from known keys with the sources of the attack. -/
inductive Reach (attack : List Source) (known : Set Key) : Key → Prop
  | known {derived : Key} (member : derived ∈ known) : Reach attack known derived
  | derive {source : Source} (member : source ∈ attack)
      (reached : Reach attack known (origin source)) : Reach attack known (key source)

/-- What was derived in the log from a source at which something starts. -/
inductive Below (log : List Source) (start : Source → Prop) : Key → Prop
  | start {source : Source} (member : source ∈ log) (starts : start source) :
      Below log start (key source)
  | derive {source : Source} (member : source ∈ log) (below : Below log start (origin source)) :
      Below log start (key source)

variable {key origin} {log attack : List Source} {known : Set Key} {derived : Key}

theorem Below.mono {more : List Source} {start : Source → Prop}
    (below : Below key origin log start derived) (subset : log ⊆ more) :
    Below key origin more start derived := by
  induction below with
  | start member starts => exact .start (subset member) starts
  | derive member _ inductionHypothesis => exact .derive (subset member) inductionHypothesis

theorem Below.logged {start : Source → Prop} (below : Below key origin log start derived) :
    Logged key log derived := by
  cases below with
  | start member _ => exact ⟨_, member, rfl⟩
  | derive member _ => exact ⟨_, member, rfl⟩

/-- Keys whose sources in the log have their origins among them are out of reach, when none of them
is known. -/
theorem Reach.notMem (apart : Apart key (log ++ attack)) (keys : Set Key)
    (closed : ∀ derived ∈ keys, ∃ source ∈ log, key source = derived ∧ origin source ∈ keys)
    (unknown : ∀ derived ∈ known, derived ∉ keys)
    (reached : Reach key origin attack known derived) : derived ∉ keys := by
  induction reached with
  | known member => exact unknown _ member
  | @derive source member _ inductionHypothesis =>
    intro inside
    obtain ⟨logged, earlier, same, above⟩ := closed _ inside
    -- the attack can only repeat what the log holds
    have equal := apart (List.mem_append_left attack earlier) (List.mem_append_right log member) same
    exact inductionHypothesis (equal ▸ above)

/-- Whoever knows nothing in the log reaches nothing in it. -/
theorem Reach.not_logged (apart : Apart key (log ++ attack))
    (rooted : ∀ source ∈ log, Logged key log (origin source))
    (unknown : ∀ derived ∈ known, ¬ Logged key log derived)
    (reached : Reach key origin attack known derived) : ¬ Logged key log derived := by
  refine reached.notMem apart {derived | Logged key log derived} ?_ unknown
  rintro _ ⟨source, member, rfl⟩
  exact ⟨source, member, rfl, rooted source member⟩

/-- What lies below a source that the attack lacks is out of reach, when none of it is known. -/
theorem Reach.not_below (apart : Apart key (log ++ attack)) {start : Source → Prop}
    (lacks : ∀ source ∈ attack, ¬ start source)
    (unknown : ∀ derived ∈ known, ¬ Below key origin log start derived)
    (reached : Reach key origin attack known derived) : ¬ Below key origin log start derived := by
  induction reached with
  | known member => exact unknown _ member
  | @derive source member _ inductionHypothesis =>
    intro below
    have equal {logged : Source} (earlier : logged ∈ log) (same : key logged = key source) :
        logged = source :=
      apart (List.mem_append_left attack earlier) (List.mem_append_right log member) same
    generalize yields : key source = derived at below
    cases below with
    | start earlier starts => exact lacks source member (equal earlier yields.symm ▸ starts)
    | derive earlier above =>
      exact inductionHypothesis (equal earlier yields.symm ▸ above)

/-- What an earlier log holds does not lie below a source that came later. -/
theorem Logged.not_below {early : List Source} (apart : Apart key log) (subset : early ⊆ log)
    {start : Source → Prop} (later : ∀ source ∈ early, ¬ start source)
    (rooted : ∀ source ∈ early, Logged key early (origin source))
    (logged : Logged key early derived) : ¬ Below key origin log start derived := by
  intro below
  induction below with
  | @start source member starts =>
    obtain ⟨other, earlier, same⟩ := logged
    exact later other earlier (apart (subset earlier) member same ▸ starts)
  | @derive source member _ inductionHypothesis =>
    obtain ⟨other, earlier, same⟩ := logged
    have equal := apart (subset earlier) member same
    exact inductionHypothesis (equal ▸ rooted other earlier)

end Derivation
