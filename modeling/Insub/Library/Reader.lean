/-
This file is about readers that take what they read off the front of the input. A reader is
frugal when it decides by the bytes it takes and looks at nothing behind them. Readers that
are frugal stay so when one follows another, and a frugal reader that takes the whole of an
input reads no shorter beginning of it.
-/

import Mathlib
import Insub.Library.Bytes

namespace Rust

variable {Value Next : Type}

/-- What the reader reads is decided by the bytes it takes off the front. -/
def Frugal (read : Bytes → Outcome (Value × Bytes)) : Prop :=
  ∀ bytes value rest, read bytes = .ok (value, rest) →
    ∃ taken, bytes = taken ++ rest ∧ ∀ more, read (taken ++ more) = .ok (value, more)

namespace Frugal

theorem pure (value : Value) : Frugal fun bytes => .ok (value, bytes) := by
  rintro bytes found rest ⟨⟩
  exact ⟨[], rfl, fun _ => rfl⟩

theorem error (fault : Fault) : Frugal fun _ => (.error fault : Outcome (Value × Bytes)) := by
  rintro bytes found rest ⟨⟩

/-- One reader after the other, of which the second may depend on what the first has read. -/
theorem bind {read : Bytes → Outcome (Value × Bytes)}
    {next : Value → Bytes → Outcome (Next × Bytes)} (first : Frugal read)
    (second : ∀ value, Frugal (next value)) :
    Frugal fun bytes => read bytes >>= fun (value, rest) => next value rest := by
  intro bytes found rest run
  obtain ⟨⟨value, middle⟩, here, later⟩ := Outcome.bind_eq_ok_iff.mp run
  obtain ⟨taken, rfl, reads⟩ := first bytes value middle here
  obtain ⟨others, rfl, continues⟩ := second value middle found rest later
  refine ⟨taken ++ others, (List.append_assoc _ _ _).symm, fun more => ?_⟩
  rw [List.append_assoc]
  exact Outcome.bind_eq_ok_iff.mpr ⟨(value, others ++ more), reads _, continues more⟩

theorem ite (condition : Prop) [Decidable condition]
    {first second : Bytes → Outcome (Value × Bytes)} (yes : Frugal first) (no : Frugal second) :
    Frugal fun bytes => if condition then first bytes else second bytes := by
  by_cases holds : condition
  · simpa only [if_pos holds] using yes
  · simpa only [if_neg holds] using no

/-- A check that only turns away what the reader cannot read. -/
theorem guarded {read : Bytes → Outcome (Value × Bytes)} {short : Bytes → Prop}
    [DecidablePred short] {fault : Bytes → Fault} (frugal : Frugal read)
    (fails : ∀ bytes, short bytes → ¬ (read bytes).Returns) :
    Frugal fun bytes => if short bytes then .error (fault bytes) else read bytes := by
  intro bytes value rest run
  dsimp only at run ⊢
  have long : ∀ bytes value, read bytes = .ok value → ¬ short bytes :=
    fun bytes value returned isShort => fails bytes isShort ⟨value, returned⟩
  by_cases isShort : short bytes
  · rw [if_pos isShort] at run
    cases run
  · rw [if_neg isShort] at run
    obtain ⟨taken, split, reads⟩ := frugal bytes value rest run
    exact ⟨taken, split, fun more => (if_neg (long _ _ (reads more))).trans (reads more)⟩

/-- What is read to its end is read from no shorter beginning of it. -/
theorem not_returns_of_cut {read : Bytes → Outcome (Value × Bytes)} (frugal : Frugal read)
    {whole cut dropped : Bytes} {value : Value} (reads : read whole = .ok (value, []))
    (split : whole = cut ++ dropped) (proper : dropped ≠ []) : ¬ (read cut).Returns := by
  rintro ⟨⟨found, left⟩, returned⟩
  obtain ⟨taken, rfl, again⟩ := frugal cut found left returned
  rw [split, List.append_assoc, again] at reads
  exact proper (List.append_eq_nil_iff.mp (Prod.mk.inj (Except.ok.inj reads)).2).2

end Frugal

/-! ### Small readers -/

theorem frugal_removeFirst : Frugal removeFirst := by
  intro bytes byte rest run
  cases bytes with
  | nil => cases run
  | cons head others =>
    cases run
    exact ⟨[byte], rfl, fun _ => rfl⟩

/-- A given number of bytes, with a check that there are so many. -/
theorem frugal_take (length : Nat) (fault : Fault) (wrap : Bytes → Value) : Frugal fun bytes =>
    if bytes.length < length then .error fault
    else .ok (wrap (bytes.take length), bytes.drop length) := by
  intro bytes found rest run
  dsimp only at run ⊢
  by_cases short : bytes.length < length
  · rw [if_pos short] at run
    cases run
  · rw [if_neg short] at run
    cases run
    refine ⟨bytes.take length, (List.take_append_drop _ _).symm, fun more => ?_⟩
    have count : (bytes.take length).length = length := List.length_take_of_le (not_lt.mp short)
    have enough : ¬ (bytes.take length ++ more).length < length := by
      rw [List.length_append, count]
      omega
    rw [if_neg enough, List.take_left' count, List.drop_left' count]

end Rust
