import Mathlib.Data.List.Basic

/-!
# Straight-line code with an error exit

C code that ends in `return 0; error: return err_val;` runs through a list of checks, assignments
and calls and leaves at the first one that goes wrong. What it has written by then stays written.
A result therefore holds three things: the state, the events made visible on the way, and the
error, which is `none` when the code ran to its end.

## Main definitions

* `Outcome` — what such code leaves behind
* `Outcome.andThen` — the code that follows, skipped when the error exit was taken
* `firstError` — the first check of a list that fails

## Main results

* `Outcome.andThen_of_none` — what a sequence leaves behind when its first part ran to its end
* `firstError_eq_none` — no check fails exactly when all pass
-/

namespace Nrf70

/-- What a piece of code leaves behind. -/
structure Outcome (σ ε φ : Type*) where
  /-- The state, changed as far as the code got. -/
  state : σ
  /-- The events, in order. -/
  events : List ε
  /-- The error it left with. -/
  error : Option φ

namespace Outcome

variable {σ ε φ : Type*}

/-- The code ran to its end without an event. -/
def done (s : σ) : Outcome σ ε φ := ⟨s, [], none⟩

/-- The code took the error exit without an event. -/
def fail (s : σ) (e : φ) : Outcome σ ε φ := ⟨s, [], some e⟩

@[simp] theorem done_state (s : σ) : (done s : Outcome σ ε φ).state = s := rfl

@[simp] theorem done_events (s : σ) : (done s : Outcome σ ε φ).events = [] := rfl

@[simp] theorem done_error (s : σ) : (done s : Outcome σ ε φ).error = none := rfl

@[simp] theorem fail_state (s : σ) (e : φ) : (fail s e : Outcome σ ε φ).state = s := rfl

@[simp] theorem fail_events (s : σ) (e : φ) : (fail s e : Outcome σ ε φ).events = [] := rfl

@[simp] theorem fail_error (s : σ) (e : φ) : (fail s e : Outcome σ ε φ).error = some e := rfl

/-- Go on with `k`, unless the error exit was taken. -/
def andThen (r : Outcome σ ε φ) (k : σ → Outcome σ ε φ) : Outcome σ ε φ :=
  match r.error with
  | some _ => r
  | none => { k r.state with events := r.events ++ (k r.state).events }

theorem andThen_of_none {r : Outcome σ ε φ} (h : r.error = none) (k : σ → Outcome σ ε φ) :
    r.andThen k = ⟨(k r.state).state, r.events ++ (k r.state).events, (k r.state).error⟩ := by
  simp [andThen, h]

@[simp] theorem done_andThen (s : σ) (k : σ → Outcome σ ε φ) : (done s).andThen k = k s := by
  simp [andThen, done]

@[simp] theorem fail_andThen (s : σ) (e : φ) (k : σ → Outcome σ ε φ) :
    (fail s e).andThen k = fail s e := rfl

end Outcome

/-- The error of the first check that fails; a check that passes is `none`. -/
def firstError {φ : Type*} (checks : List (Option φ)) : Option φ := checks.findSome? id

/-- A check: the error unless the condition holds. -/
def checkThat {φ : Type*} (p : Prop) [Decidable p] (e : φ) : Option φ := if p then none else some e

section Checks

variable {φ : Type*}

@[simp] theorem checkThat_eq_none {p : Prop} [Decidable p] {e : φ} :
    checkThat p e = none ↔ p := by
  simp [checkThat]

/-- No check fails exactly when all pass. -/
@[simp] theorem firstError_eq_none {checks : List (Option φ)} :
    firstError checks = none ↔ ∀ c ∈ checks, c = none := by
  simp [firstError, List.findSome?_eq_none_iff]

end Checks

end Nrf70
