/-
This file proves what evicting leaves alone. Entries in service that are not stale stay there,
and candidates that were seen lately stay in the bucket. The candidates fill the list until it is
full or none is left, the freshest first. So none that was seen lately waits behind a
stale entry.
-/

import Mathlib
import Insub.Dht.Staleness

namespace Insub

open Rust

namespace Bucket

/-- The candidates run out, or the room is used up. -/
theorem promote_fills (room : Nat) (active candidates : List Entry) :
    (promote room active candidates).1.length = active.length + room ∨
      (promote room active candidates).2 = [] := by
  induction room generalizing active candidates with
  | zero => exact Or.inl rfl
  | succ room inductionHypothesis =>
    rcases promote_succ_cases room active candidates with
      ⟨-, finished⟩ | ⟨position, inside, -, promoted⟩
    · rw [finished]
      exact Or.inr rfl
    · have filled := inductionHypothesis (active ++ [candidates[position]])
        (candidates.eraseIdx position)
      rw [List.length_append, List.length_singleton, Nat.add_assoc, Nat.add_comm 1 room] at filled
      rw [promoted]
      exact filled

/-- What is left of the candidates was among them. -/
theorem promote_left_subset (room : Nat) (active candidates : List Entry) :
    (promote room active candidates).2 ⊆ candidates := by
  induction room generalizing active candidates with
  | zero => exact List.Subset.refl _
  | succ room inductionHypothesis =>
    rcases promote_succ_cases room active candidates with
      ⟨-, finished⟩ | ⟨position, inside, -, promoted⟩
    · rw [finished]
      exact List.nil_subset _
    · rw [promoted]
      exact List.Subset.trans (inductionHypothesis _ _) (List.eraseIdx_subset ..)

/-- If the candidates without some mark are all fresher than those with it, then one with the mark
is promoted only after all without it. -/
theorem marked_of_left {marked : Entry → Bool} (room : Nat) {active candidates : List Entry}
    (fresher : ∀ entry ∈ candidates, ∀ other ∈ candidates, marked entry = false →
      marked other = true → other.lastSeen < entry.lastSeen)
    (unmarked : ∀ entry ∈ active, marked entry = false)
    (some_marked : ∃ entry ∈ (promote room active candidates).1, marked entry = true) :
    ∀ entry ∈ (promote room active candidates).2, marked entry = true := by
  induction room generalizing active candidates with
  | zero =>
    obtain ⟨entry, member, mark⟩ := some_marked
    rw [unmarked entry member] at mark
    cases mark
  | succ room inductionHypothesis =>
    rcases promote_succ_cases room active candidates with
      ⟨-, finished⟩ | ⟨position, inside, freshest, promoted⟩
    · rw [finished]
      exact fun _ member => absurd member List.not_mem_nil
    · rw [promoted] at some_marked ⊢
      cases mark : marked candidates[position] with
      | true =>
        -- no candidate is fresher, so that all of them are marked
        intro entry member
        have left : entry ∈ candidates :=
          List.mem_of_mem_eraseIdx (promote_left_subset _ _ _ member)
        by_contra clear
        have later := fresher entry left _ (List.getElem_mem inside)
          (Bool.eq_false_of_not_eq_true clear) mark
        exact (freshest entry left).not_gt later
      | false =>
        refine inductionHypothesis (fun first one second other => ?_) (fun entry member => ?_)
          some_marked
        · exact fresher first (List.mem_of_mem_eraseIdx one) second (List.mem_of_mem_eraseIdx other)
        · rcases List.mem_append.mp member with served | new
          · exact unmarked entry served
          · rw [List.mem_singleton.mp new]
            exact mark

/-! ### Evicting from a bucket -/

/-- Nobody who can be of use is lost, and a stale entry serves only when no one else is left. -/
theorem evictStale_spec {bucket : Bucket} (fits : bucket.active.length ≤ Routing.k)
    (now : Instant) :
    let after := bucket.evictStale now
    (∀ entry ∈ bucket.active, isStale now entry = false → entry ∈ after.active) ∧
    (∀ entry ∈ bucket.candidates, isRecent now entry = true →
      entry ∈ after.active ++ after.candidates) ∧
    (after.active.length = Routing.k ∨ after.candidates = []) ∧
    ((∃ entry ∈ after.active, isStale now entry = true) →
      ∀ entry ∈ after.candidates, isRecent now entry = false) := by
  set fresh := bucket.active.filter fun entry => !isStale now entry with freshList
  set recent := bucket.candidates.filter (isRecent now) with recentList
  set stale := (bucket.active.filter (isStale now)).take (Routing.k - recent.length) with staleList
  have evicted : bucket.evictStale now =
      { active := (promote (Routing.k - fresh.length) fresh (recent ++ stale)).1
        candidates := (promote (Routing.k - fresh.length) fresh (recent ++ stale)).2 } :=
    evictStale_eq_promote bucket now
  have perm := (promote_perm (Routing.k - fresh.length) fresh (recent ++ stale)).1
  rw [evicted]
  refine ⟨fun entry member live => ?_, fun entry member lately => ?_, ?_, fun staleServes => ?_⟩
  · refine subset_promote _ _ _ (List.mem_filter.mpr ⟨member, ?_⟩)
    rw [live]
    rfl
  · refine perm.mem_iff.mpr (List.mem_append_right _ (List.mem_append_left _ ?_))
    exact List.mem_filter.mpr ⟨member, lately⟩
  · have few : fresh.length ≤ Routing.k := (List.length_filter_le _ _).trans fits
    refine (promote_fills _ fresh (recent ++ stale)).imp_left fun filled => ?_
    exact filled.trans (Nat.add_sub_cancel' few)
  · have recently : ∀ entry ∈ recent, isRecent now entry = true :=
      fun entry member => List.of_mem_filter member
    have late : ∀ entry ∈ stale, isStale now entry = true :=
      fun entry member => List.of_mem_filter (List.mem_of_mem_take member)
    have live : ∀ entry ∈ fresh, isStale now entry = false :=
      fun entry member => by simpa using List.of_mem_filter member
    have left := marked_of_left _ (fresher_of_moved recently late) live staleServes
    intro entry member
    by_contra lately
    rw [Bool.not_eq_false] at lately
    have marked := left entry member
    rw [isStale_of_isRecent lately] at marked
    cases marked

end Bucket

/-- In no bucket does evicting take an entry out of service that is not stale, or drop a candidate
seen less than 120 seconds ago. It leaves no place free while a candidate waits, and none to a
stale entry while one waits that was seen less than 120 seconds ago. -/
theorem RoutingTable.evictStale_keeps_live {table : RoutingTable} (placed : table.Placed)
    (now : Instant) (index : Fin 256) :
    let before := table.buckets index
    let after := (table.evictStale now).buckets index
    (∀ entry ∈ before.active, Bucket.isStale now entry = false → entry ∈ after.active) ∧
    (∀ entry ∈ before.candidates, durationSince now entry.lastSeen < seconds 120 →
      entry ∈ after.active ∨ entry ∈ after.candidates) ∧
    (after.active.length = 20 ∨ after.candidates = []) ∧
    ((∃ entry ∈ after.active, Bucket.isStale now entry = true) →
      ∀ entry ∈ after.candidates, ¬ durationSince now entry.lastSeen < seconds 120) := by
  obtain ⟨live, kept, filled, last⟩ := Bucket.evictStale_spec (placed index).activeFits now
  refine ⟨live, fun entry member lately => ?_, filled, fun staleServes entry member => ?_⟩
  · exact List.mem_append.mp (kept entry member (decide_eq_true lately))
  · exact of_decide_eq_false (last staleServes entry member)

/-- After 170 seconds two of the twenty nodes in service are stale, and one of three candidates was
seen lately. It takes the place of a stale one; the other one stays, and eighteen are left alone. -/
theorem RoutingTable.crowdedTable_keeps_live :
    let before := crowdedTable.buckets 0
    let after := (crowdedTable.evictStale (seconds 170)).buckets 0
    before.active.countP (Bucket.isStale (seconds 170)) = 2 ∧
    before.candidates.countP (Bucket.isRecent (seconds 170)) = 1 ∧
    after.active.countP (Bucket.isStale (seconds 170)) = 1 ∧
    after.candidates.map Entry.id = [distantNode 0] ∧
    (∀ entry ∈ before.active, Bucket.isStale (seconds 170) entry = false →
      entry ∈ after.active) ∧
    (∀ entry ∈ before.candidates, durationSince (seconds 170) entry.lastSeen < seconds 120 →
      entry ∈ after.active ∨ entry ∈ after.candidates) ∧
    (after.active.length = 20 ∨ after.candidates = []) ∧
    ((∃ entry ∈ after.active, Bucket.isStale (seconds 170) entry = true) →
      ∀ entry ∈ after.candidates,
        ¬ durationSince (seconds 170) entry.lastSeen < seconds 120) :=
  ⟨by decide +kernel, by decide +kernel, by decide +kernel, by decide +kernel,
    evictStale_keeps_live (Reachable.placed ⟨_, crowdedTable_run⟩) (seconds 170) 0⟩

end Insub
