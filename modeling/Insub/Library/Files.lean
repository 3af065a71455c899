/-
This file models a directory as a program writes it. A write replaces what a file holds, or it is
refused and leaves the file alone, or it breaks off, and what was written up to then is left in the
file. A program that stops at the first write that fails leaves a mixture of old files, new ones and
at most one that is cut off.
-/

import Mathlib
import Insub.Library.Bytes

namespace Rust

/-- How a write ends. -/
inductive WriteFate
  | whole
  | refused (reason : String)
  | torn (kept : Nat) (reason : String)

/-- What the files of a directory hold. -/
abbrev Files (Name : Type) := Name → Option Bytes

/-- A write to a file, with what is put in front of the reason when the file cannot be created, and
when it cannot be written. -/
structure FileWrite (Name : Type) where
  name : Name
  bytes : Bytes
  onCreate : String
  onWrite : String
  fate : WriteFate

namespace Files

variable {Name : Type}

def read (files : Files Name) (name : Name) : Outcome Bytes :=
  match files name with
  | some bytes => .ok bytes
  | none => .error (.error "No such file or directory (os error 2)")

theorem read_eq_ok_iff {files : Files Name} {name : Name} {bytes : Bytes} :
    files.read name = .ok bytes ↔ files name = some bytes := by
  rw [read]
  cases files name <;> simp

theorem not_panics_read (files : Files Name) (name : Name) : ¬ (files.read name).Panics := by
  rw [read]
  cases files name with
  | none => exact Outcome.not_panics_error _
  | some bytes => exact Outcome.not_panics_ok _

variable [DecidableEq Name]

def write (files : Files Name) (item : FileWrite Name) : Outcome Unit × Files Name :=
  match item.fate with
  | .whole => (.ok (), Function.update files item.name (some item.bytes))
  | .refused reason => (.error (.error s!"{item.onCreate}: {reason}"), files)
  | .torn kept reason =>
    (.error (.error s!"{item.onWrite}: {reason}"),
      Function.update files item.name (some (item.bytes.take kept)))

/-- What the file holds, if there is one, is the front of the bytes. -/
def Cut (files : Files Name) (name : Name) (bytes : Bytes) : Prop :=
  ∀ held, files name = some held → held <+: bytes

/-- One write after the other, until one fails. -/
def writeAll (files : Files Name) : List (FileWrite Name) → Outcome Unit × Files Name
  | [] => (.ok (), files)
  | item :: rest =>
    match files.write item with
    | (.error fault, files) => (.error fault, files)
    | (.ok (), files) => files.writeAll rest

/-- However a write ends, a file is as it was, or holds the front of what was to be written to
it. -/
theorem write_holds (files : Files Name) (item : FileWrite Name) (name : Name) :
    (files.write item).2 name = files name ∨
      item.name = name ∧ ∃ held, (files.write item).2 name = some held ∧ held <+: item.bytes := by
  by_cases here : item.name = name
  · subst here
    rw [write]
    cases item.fate with
    | whole => exact Or.inr ⟨rfl, _, Function.update_self _ _ _, List.prefix_refl _⟩
    | refused reason => exact Or.inl rfl
    | torn kept reason => exact Or.inr ⟨rfl, _, Function.update_self _ _ _, List.take_prefix _ _⟩
  · rw [write]
    cases item.fate with
    | whole => exact Or.inl (Function.update_of_ne (Ne.symm here) _ _)
    | refused reason => exact Or.inl rfl
    | torn kept reason => exact Or.inl (Function.update_of_ne (Ne.symm here) _ _)

theorem write_other (files : Files Name) {item : FileWrite Name} {name : Name}
    (other : item.name ≠ name) : (files.write item).2 name = files name :=
  (files.write_holds item name).resolve_right fun written => other written.1

theorem write_ok {files after : Files Name} {item : FileWrite Name}
    (wrote : files.write item = (.ok (), after)) : after item.name = some item.bytes := by
  rw [write] at wrote
  cases fate : item.fate with
  | whole =>
    rw [fate] at wrote
    rw [← (Prod.mk.inj wrote).2]
    exact Function.update_self _ _ _
  | refused reason =>
    rw [fate] at wrote
    cases wrote
  | torn kept reason =>
    rw [fate] at wrote
    cases wrote

/-- So do the writes one after the other, wherever they stop. -/
theorem writeAll_holds (files : Files Name) (items : List (FileWrite Name)) (name : Name) :
    (files.writeAll items).2 name = files name ∨
      ∃ item ∈ items, item.name = name ∧
        ∃ held, (files.writeAll items).2 name = some held ∧ held <+: item.bytes := by
  induction items generalizing files with
  | nil => exact Or.inl rfl
  | cons item rest inductionHypothesis =>
    have here := files.write_holds item name
    rw [writeAll]
    rcases run : files.write item with ⟨fault | _, after⟩
    all_goals rw [run] at here
    · rcases here with same | ⟨named, held⟩
      · exact Or.inl same
      · exact Or.inr ⟨item, List.mem_cons_self, named, held⟩
    · dsimp only at here ⊢
      rcases inductionHypothesis after with later | ⟨other, member, held⟩
      · rw [later]
        rcases here with same | ⟨named, held⟩
        · exact Or.inl same
        · exact Or.inr ⟨item, List.mem_cons_self, named, held⟩
      · exact Or.inr ⟨other, List.mem_cons_of_mem _ member, held⟩

theorem writeAll_other (files : Files Name) {items : List (FileWrite Name)} {name : Name}
    (others : ∀ item ∈ items, item.name ≠ name) : (files.writeAll items).2 name = files name := by
  refine (files.writeAll_holds items name).resolve_right ?_
  rintro ⟨item, member, named, _⟩
  exact others item member named

/-- A file that held a part of the bytes holds a part of them, when these are all that is written
to it. -/
theorem Cut.writeAll {files : Files Name} {name : Name} {bytes : Bytes}
    (cut : files.Cut name bytes) {items : List (FileWrite Name)}
    (same : ∀ item ∈ items, item.name = name → item.bytes = bytes) :
    (files.writeAll items).2.Cut name bytes := by
  intro held holds
  rcases files.writeAll_holds items name with kept | ⟨item, member, named, front, written, ahead⟩
  · exact cut held (kept ▸ holds)
  · obtain rfl := Option.some.inj (written.symm.trans holds)
    exact same item member named ▸ ahead

/-- When every write succeeds, and no file is written twice, every file holds its bytes. -/
theorem writeAll_ok {files after : Files Name} {items : List (FileWrite Name)}
    (once : (items.map FileWrite.name).Nodup) (wrote : files.writeAll items = (.ok (), after)) :
    ∀ item ∈ items, after item.name = some item.bytes := by
  induction items generalizing files with
  | nil => exact List.forall_mem_nil _
  | cons item rest inductionHypothesis =>
    obtain ⟨fresh, later⟩ := List.nodup_cons.mp once
    rw [writeAll] at wrote
    rcases run : files.write item with ⟨fault | _, next⟩
    all_goals rw [run] at wrote
    · cases wrote
    refine List.forall_mem_cons.mpr ⟨?_, inductionHypothesis later wrote⟩
    have kept : (next.writeAll rest).2 item.name = next item.name :=
      next.writeAll_other fun other member same => fresh (List.mem_map.mpr ⟨other, member, same⟩)
    dsimp only at wrote
    rw [wrote] at kept
    exact kept.trans (write_ok run)

end Files

end Rust
