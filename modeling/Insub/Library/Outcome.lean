/-
This file models how a call of a Rust function ends. A call hands back a value,
returns an `Err` with its message, or panics: an unchecked index, a slice out of
range, or an integer operation that overflows. Panics are kept apart from errors
because a caller can handle an error and go on, while a panic unwinds the thread
and poisons every lock it holds.

A function that takes `&mut self` is modelled by a function that returns the
outcome together with the state it leaves behind, so that what an early `return
Err` has already written is part of the result.
-/

import Mathlib

namespace Rust

/-- How a call ends when it hands back no value. -/
inductive Fault where
  | error (message : String)
  | panic (site : String)
  deriving DecidableEq, Repr

/-- The outcome of a call: a value, or the fault it ends in. -/
abbrev Outcome (Value : Type) := Except Fault Value

namespace Outcome

variable {Value Result : Type}

/-- The call returned an `Err`. -/
def IsError (outcome : Outcome Value) : Prop := ∃ message, outcome = .error (.error message)

/-- The call panicked. -/
def Panics (outcome : Outcome Value) : Prop := ∃ site, outcome = .error (.panic site)

@[simp] theorem not_panics_ok (value : Value) : ¬ Panics (.ok value : Outcome Value) := by
  rintro ⟨_, equal⟩
  cases equal

@[simp] theorem not_panics_error (message : String) :
    ¬ Panics (.error (.error message) : Outcome Value) := by
  rintro ⟨_, equal⟩
  cases equal

@[simp] theorem panics_panic (site : String) :
    Panics (.error (.panic site) : Outcome Value) := ⟨site, rfl⟩

@[simp] theorem not_isError_ok (value : Value) : ¬ IsError (.ok value : Outcome Value) := by
  rintro ⟨_, equal⟩
  cases equal

@[simp] theorem isError_error (message : String) :
    IsError (.error (.error message) : Outcome Value) := ⟨message, rfl⟩

@[simp] theorem not_isError_panic (site : String) :
    ¬ IsError (.error (.panic site) : Outcome Value) := by
  rintro ⟨_, equal⟩
  cases equal

instance : (outcome : Outcome Value) → Decidable outcome.Panics
  | .ok value => isFalse (not_panics_ok value)
  | .error (.error message) => isFalse (not_panics_error message)
  | .error (.panic site) => isTrue (panics_panic site)

instance : (outcome : Outcome Value) → Decidable outcome.IsError
  | .ok value => isFalse (not_isError_ok value)
  | .error (.error message) => isTrue (isError_error message)
  | .error (.panic site) => isFalse (not_isError_panic site)

@[simp] theorem bind_ok (value : Value) (next : Value → Outcome Result) :
    (Except.ok value >>= next) = next value := rfl

@[simp] theorem bind_error (fault : Fault) (next : Value → Outcome Result) :
    ((Except.error fault : Outcome Value) >>= next) = .error fault := rfl

theorem bind_eq_ok_iff {outcome : Outcome Value} {next : Value → Outcome Result}
    {result : Result} : (outcome >>= next) = .ok result ↔
      ∃ value, outcome = .ok value ∧ next value = .ok result := by
  cases outcome <;> simp

theorem map_eq_ok_iff {outcome : Outcome Value} {next : Value → Result} {result : Result} :
    outcome.map next = .ok result ↔ ∃ value, outcome = .ok value ∧ next value = result := by
  cases outcome with
  | ok value => simp [Except.map]
  | error fault => simp [Except.map]

/-- A sequence panics when its first call does, or when the second does on what the first
handed back. -/
theorem panics_bind_iff {outcome : Outcome Value} {next : Value → Outcome Result} :
    (outcome >>= next).Panics ↔
      outcome.Panics ∨ ∃ value, outcome = .ok value ∧ (next value).Panics := by
  cases outcome with
  | ok value => simp
  | error fault => simp [Panics]

theorem not_panics_bind {outcome : Outcome Value} {next : Value → Outcome Result}
    (first : ¬ outcome.Panics) (second : ∀ value, outcome = .ok value → ¬ (next value).Panics) :
    ¬ (outcome >>= next).Panics := by
  rw [panics_bind_iff]
  rintro (panicked | ⟨value, returned, panicked⟩)
  · exact first panicked
  · exact second value returned panicked

/-- `outcome.map_err(|_| message)`. -/
def mapErr (message : String) : Outcome Value → Outcome Value
  | .error (.error _) => .error (.error message)
  | outcome => outcome

theorem panics_mapErr_iff {message : String} {outcome : Outcome Value} :
    (outcome.mapErr message).Panics ↔ outcome.Panics := by
  rcases outcome with (_ | _) | _ <;> simp [mapErr]

theorem mapErr_eq_ok_iff {message : String} {outcome : Outcome Value} {value : Value} :
    outcome.mapErr message = .ok value ↔ outcome = .ok value := by
  rcases outcome with (_ | _) | _ <;> simp [mapErr]

/-- `outcome.map_err(|e| format!("{context}: {e}"))`. -/
def inContext (context : String) : Outcome Value → Outcome Value
  | .error (.error message) => .error (.error s!"{context}: {message}")
  | outcome => outcome

theorem inContext_eq_ok_iff {context : String} {outcome : Outcome Value} {value : Value} :
    outcome.inContext context = .ok value ↔ outcome = .ok value := by
  rcases outcome with (_ | _) | _ <;> simp [inContext]

theorem panics_inContext_iff {context : String} {outcome : Outcome Value} :
    (outcome.inContext context).Panics ↔ outcome.Panics := by
  rcases outcome with (_ | _) | _ <;> simp [inContext]

/-- The operator `?` in a function that has written to its state: go on with the value, or
return the fault and the state as it is. -/
def orReturn {State : Type} (outcome : Outcome Value) (state : State)
    (next : Value → Outcome Result × State) : Outcome Result × State :=
  match outcome with
  | .ok value => next value
  | .error fault => (.error fault, state)

@[simp] theorem ok_orReturn {State : Type} (value : Value) (state : State)
    (next : Value → Outcome Result × State) :
    orReturn (.ok value) state next = next value := rfl

/-- What went on and returned a value did so from the value of the first call. -/
theorem orReturn_eq_ok_iff {State : Type} {outcome : Outcome Value} {state last : State}
    {next : Value → Outcome Result × State} {result : Result} :
    outcome.orReturn state next = (.ok result, last) ↔
      ∃ value, outcome = .ok value ∧ next value = (.ok result, last) := by
  cases outcome <;> simp [orReturn]

/-- What holds of the state so far, and of what follows, holds whether or not the call
fails. -/
theorem orReturn_state {State : Type} (holds : State → Prop) {outcome : Outcome Value}
    {state : State} {next : Value → Outcome Result × State} (here : holds state)
    (later : ∀ value, outcome = .ok value → holds (next value).2) :
    holds (outcome.orReturn state next).2 := by
  cases outcome with
  | ok value => exact later value rfl
  | error fault => exact here

/-- What goes on panics when its first call does, or when the rest does on what that handed back. -/
theorem panics_orReturn_iff {State : Type} {outcome : Outcome Value} {state : State}
    {next : Value → Outcome Result × State} :
    (outcome.orReturn state next).1.Panics ↔
      outcome.Panics ∨ ∃ value, outcome = .ok value ∧ (next value).1.Panics := by
  cases outcome with
  | ok value => simp
  | error fault => simp [orReturn, Panics]

theorem not_panics_orReturn {State : Type} {outcome : Outcome Value} {state : State}
    {next : Value → Outcome Result × State} (first : ¬ outcome.Panics)
    (second : ∀ value, outcome = .ok value → ¬ (next value).1.Panics) :
    ¬ (outcome.orReturn state next).1.Panics := by
  rcases outcome with (message | site) | value
  · exact not_panics_error message
  · exact absurd (panics_panic site) first
  · exact second value rfl

/-- `outcome.ok()`, which forgets an error and passes a panic on. -/
def asOption : Outcome Value → Outcome (Option Value)
  | .ok value => .ok (some value)
  | .error (.error _) => .ok none
  | .error (.panic site) => .error (.panic site)

/-- A call that does not panic has an `ok()`. -/
theorem asOption_eq {outcome : Outcome Value} (total : ¬ outcome.Panics) :
    outcome.asOption = .ok outcome.toOption := by
  rcases outcome with (message | site) | value
  · rfl
  · exact absurd (panics_panic site) total
  · rfl

theorem asOption_eq_ok_some_iff {outcome : Outcome Value} {value : Value} :
    outcome.asOption = .ok (some value) ↔ outcome = .ok value := by
  rcases outcome with (message | site) | found <;> simp [asOption]

/-- The call handed back a value. -/
def Returns (outcome : Outcome Value) : Prop := ∃ value, outcome = .ok value

@[simp] theorem returns_ok (value : Value) : Returns (.ok value : Outcome Value) := ⟨value, rfl⟩

@[simp] theorem not_returns_fault (fault : Fault) :
    ¬ Returns (.error fault : Outcome Value) := by
  rintro ⟨_, equal⟩
  cases equal

theorem not_returns_of_panics {outcome : Outcome Value} (panicked : outcome.Panics) :
    ¬ outcome.Returns := by
  obtain ⟨site, rfl⟩ := panicked
  exact not_returns_fault _

theorem not_returns_bind {outcome : Outcome Value} {next : Value → Outcome Result}
    (fails : ¬ outcome.Returns) : ¬ (outcome >>= next).Returns := by
  rintro ⟨result, returned⟩
  obtain ⟨value, first, -⟩ := bind_eq_ok_iff.mp returned
  exact fails ⟨value, first⟩

theorem returns_map_iff {outcome : Outcome Value} {next : Value → Result} :
    Returns (outcome.map next : Outcome Result) ↔ outcome.Returns := by
  cases outcome with
  | ok value => exact iff_of_true (returns_ok _) (returns_ok _)
  | error fault => exact iff_of_false (not_returns_fault _) (not_returns_fault _)

theorem returns_iff_isSome {outcome : Outcome Value} :
    outcome.Returns ↔ outcome.toOption.isSome = true := by
  cases outcome with
  | ok value => exact iff_of_true (returns_ok _) rfl
  | error fault => exact iff_of_false (not_returns_fault _) Bool.false_ne_true

end Outcome

/-- `option.ok_or(message)`. -/
def okOr {Value : Type} (message : String) : Option Value → Outcome Value
  | some value => .ok value
  | none => .error (.error message)

theorem okOr_eq_ok_iff {Value : Type} {message : String} {option : Option Value}
    {value : Value} : okOr message option = .ok value ↔ option = some value := by
  cases option <;> simp [okOr]

@[simp] theorem not_panics_okOr {Value : Type} (message : String) (option : Option Value) :
    ¬ (okOr message option).Panics := by
  cases option <;> simp [okOr]

/-- `option.unwrap()`. -/
def unwrap {Value : Type} : Option Value → Outcome Value
  | some value => .ok value
  | none => .error (.panic "called `Option::unwrap()` on a `None` value")

theorem unwrap_eq_ok_iff {Value : Type} {option : Option Value} {value : Value} :
    unwrap option = .ok value ↔ option = some value := by
  cases option <;> simp [unwrap]

/-! ### Unsigned arithmetic -/

/-- One more than the largest `u32`. -/
def u32Bound : Nat := 2 ^ 32

/-- Addition of two `u32`s, which panics when the sum leaves the type. -/
def addU32 (first second : Nat) : Outcome Nat :=
  if first + second < u32Bound then .ok (first + second)
  else .error (.panic "attempt to add with overflow")

/-- Subtraction of two `u32`s, which panics when the difference is negative. -/
def subU32 (first second : Nat) : Outcome Nat :=
  if second ≤ first then .ok (first - second)
  else .error (.panic "attempt to subtract with overflow")

/-- Addition of two `u8`s, which panics when the sum leaves the type. -/
def addU8 (first second : UInt8) : Outcome UInt8 :=
  if first.toNat + second.toNat < 2 ^ 8 then .ok (first + second)
  else .error (.panic "attempt to add with overflow")

/-- Addition of two `u64`s, which panics when the sum leaves the type. -/
def addU64 (first second : BitVec 64) : Outcome (BitVec 64) :=
  if first.toNat + second.toNat < 2 ^ 64 then .ok (first + second)
  else .error (.panic "attempt to add with overflow")

theorem addU8_ok {first second : UInt8} (fits : first.toNat + second.toNat < 2 ^ 8) :
    addU8 first second = .ok (first + second) := if_pos fits

theorem toNat_of_addU64 {first sum : BitVec 64} (added : addU64 first 1 = .ok sum) :
    sum.toNat = first.toNat + 1 := by
  rw [addU64] at added
  split at added
  · rename_i fits
    rw [← Except.ok.inj added, BitVec.toNat_add]
    exact Nat.mod_eq_of_lt fits
  · cases added

theorem addU32_ok {first second : Nat} (fits : first + second < u32Bound) :
    addU32 first second = .ok (first + second) := if_pos fits

theorem subU32_ok {first second : Nat} (ordered : second ≤ first) :
    subU32 first second = .ok (first - second) := if_pos ordered

theorem addU32_cases (first second : Nat) :
    (first + second < u32Bound ∧ addU32 first second = .ok (first + second)) ∨
      ∃ site, addU32 first second = .error (.panic site) := by
  by_cases fits : first + second < u32Bound
  · exact Or.inl ⟨fits, addU32_ok fits⟩
  · exact Or.inr ⟨_, if_neg fits⟩

/-! ### Instants -/

/-- An `Instant`, in nanoseconds on a clock that does not run backwards. -/
abbrev Instant := Nat

/-- `Duration::from_secs`. -/
def seconds (count : Nat) : Nat := count * 10 ^ 9

/-- `now.duration_since(earlier)`, which is zero when `earlier` is later. -/
def durationSince (now earlier : Instant) : Nat := now - earlier

/-- What has lasted for a span began that long before. -/
theorem add_le_of_durationSince {now earlier : Instant} {span : Nat} (past : earlier ≤ now)
    (lasted : span ≤ durationSince now earlier) : earlier + span ≤ now := by
  rw [Nat.add_comm]
  exact Nat.add_le_of_le_sub past lasted

/-- `duration.as_secs()`. -/
def asSecs (duration : Nat) : Nat := duration / 10 ^ 9

end Rust
