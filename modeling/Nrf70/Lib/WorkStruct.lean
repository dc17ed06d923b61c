import Nrf70.Lib.Machine

/-!
# Work items

A Linux work item is queued by setting its pending bit and run by a worker, which clears the bit
before it calls the function. The item does not run twice at a time, and while it runs it can be
queued again.

What queues an item, and when, differs from one mechanism to the next. `workMachine` runs any such
mechanism beside the worker, and `quietUntil_iff_not_pending` is the rule they share: once nothing
can queue the item any more, its function stays silent exactly if the item is not pending.

## Main definitions

* `WorkStruct` — a work item, with `initWork`, `queue`, `start`, `finish` and `cancelSync`
* `workMachine` — a mechanism and the worker

## Main results

* `quietUntil_iff_not_pending`, and `quietAfter_iff_not_pending` for an action that stops a
  mechanism without touching the item
-/

namespace Nrf70

/-- `struct work_struct`: whether it has been initialised, its pending bit, and whether a worker
is running it. -/
structure WorkStruct where
  init : Bool
  pending : Bool
  running : Bool
  deriving DecidableEq, Repr

namespace WorkStruct

variable (w : WorkStruct)

/-- `INIT_WORK`. -/
def initWork : WorkStruct := { w with init := true, pending := false }

/-- `schedule_work` and `queue_work`. -/
def queue : WorkStruct := { w with pending := true }

/-- A worker picks the item up. -/
def start : Option WorkStruct :=
  if w.pending && !w.running then some { w with pending := false, running := true } else none

/-- Its function returns. -/
def finish : Option WorkStruct := if w.running then some { w with running := false } else none

/-- `cancel_work_sync` returns: it has waited for the function and taken the item off the queue. -/
def cancelSync : Option WorkStruct := if w.running then none else some { w with pending := false }

/-- An initialised item. -/
def fresh : WorkStruct := ⟨true, false, false⟩

variable {w} {w' : WorkStruct}

theorem start_eq_some :
    w.start = some w' ↔ w.pending = true ∧ w.running = false ∧
      w' = { w with pending := false, running := true } := by
  rw [start, Option.ite_none_right_eq_some, Bool.and_eq_true, Bool.not_eq_true',
    Option.some.injEq, and_assoc]
  exact and_congr_right fun _ => and_congr_right fun _ => eq_comm

theorem finish_eq_some :
    w.finish = some w' ↔ w.running = true ∧ w' = { w with running := false } := by
  rw [finish, Option.ite_none_right_eq_some, Option.some.injEq]
  exact and_congr_right fun _ => eq_comm

theorem cancelSync_eq_some :
    w.cancelSync = some w' ↔ w.running = false ∧ w' = { w with pending := false } := by
  rw [cancelSync, Option.ite_none_left_eq_some, Bool.not_eq_true, Option.some.injEq]
  exact and_congr_right fun _ => eq_comm

end WorkStruct

/-! ### A mechanism and the worker -/

/-- What a mechanism does, or what the worker does. -/
inductive WorkAct (α : Type*)
  | front (a : α)
  | workStart
  | workEnd
  deriving DecidableEq, Repr

/-- The item's function starts. -/
inductive WorkStarted
  | started
  deriving DecidableEq, Repr

variable {σ α : Type*}

/-- One step of the mechanism or of the worker. -/
def workStep (front : σ → WorkStruct → α → Option (σ × WorkStruct)) (s : σ × WorkStruct) :
    WorkAct α → Option ((σ × WorkStruct) × List WorkStarted)
  | .front a => (front s.1 s.2 a).map fun p => (p, [])
  | .workStart => s.2.start.map fun w => ((s.1, w), [.started])
  | .workEnd => s.2.finish.map fun w => ((s.1, w), [])

/-- A mechanism beside the worker. The only events are starts of the item's function. -/
def workMachine (front : σ → WorkStruct → α → Option (σ × WorkStruct)) :
    Machine (σ × WorkStruct) (WorkAct α) WorkStarted :=
  ⟨workStep front⟩

/-- The action is one of the mechanism that meets `p`. -/
def WorkAct.Front (p : α → Prop) : WorkAct α → Prop
  | .front a => p a
  | .workStart | .workEnd => False

section Steps

variable (front : σ → WorkStruct → α → Option (σ × WorkStruct)) {s s' : σ × WorkStruct}
  {u : List WorkStarted}

theorem workStep_front {a : α} :
    workStep front s (.front a) = some (s', u) ↔ front s.1 s.2 a = some s' ∧ u = [] := by
  simp only [workStep, Option.map_eq_some_iff, Prod.mk.injEq]
  constructor
  · rintro ⟨p, hp, rfl, rfl⟩
    exact ⟨hp, rfl⟩
  · rintro ⟨hp, rfl⟩
    exact ⟨s', hp, rfl, rfl⟩

theorem workStep_workStart :
    workStep front s .workStart = some (s', u) ↔ s.2.pending = true ∧ s.2.running = false ∧
      s' = (s.1, { s.2 with pending := false, running := true }) ∧ u = [.started] := by
  simp only [workStep, Option.map_eq_some_iff, WorkStruct.start_eq_some, Prod.mk.injEq]
  constructor
  · rintro ⟨w, ⟨hp, hr, rfl⟩, rfl, rfl⟩
    exact ⟨hp, hr, rfl, rfl⟩
  · rintro ⟨hp, hr, rfl, rfl⟩
    exact ⟨_, ⟨hp, hr, rfl⟩, rfl, rfl⟩

theorem workStep_workEnd :
    workStep front s .workEnd = some (s', u) ↔ s.2.running = true ∧
      s' = (s.1, { s.2 with running := false }) ∧ u = [] := by
  simp only [workStep, Option.map_eq_some_iff, WorkStruct.finish_eq_some, Prod.mk.injEq]
  constructor
  · rintro ⟨w, ⟨hr, rfl⟩, rfl, rfl⟩
    exact ⟨hr, rfl, rfl⟩
  · rintro ⟨hr, rfl, rfl⟩
    exact ⟨_, ⟨hr, rfl⟩, rfl, rfl⟩

end Steps

variable {front : σ → WorkStruct → α → Option (σ × WorkStruct)}

/-- A pending item is run, at once or after the run in progress. -/
theorem not_quietUntil_of_pending {rearm : α → Prop} {s : σ} {w : WorkStruct}
    (h : w.pending = true) :
    ¬ (workMachine front).QuietUntil (WorkAct.Front rearm) (s, w) := by
  intro hquiet
  cases hr : w.running with
  | false =>
    have hstart : (workMachine front).step (s, w) .workStart =
        some ((s, { w with pending := false, running := true }), [.started]) :=
      (workStep_workStart front).mpr ⟨h, hr, rfl, rfl⟩
    exact absurd ((workMachine front).quietUntil_step hquiet id hstart).2 (by simp)
  | true =>
    have hend : (workMachine front).step (s, w) .workEnd =
        some ((s, { w with running := false }), []) :=
      (workStep_workEnd front).mpr ⟨hr, rfl, rfl⟩
    have hstart : (workMachine front).step (s, { w with running := false }) .workStart =
        some ((s, { w with pending := false, running := true }), [.started]) :=
      (workStep_workStart front).mpr ⟨h, rfl, rfl, rfl⟩
    have hquiet' := ((workMachine front).quietUntil_step hquiet id hend).1
    exact absurd ((workMachine front).quietUntil_step hquiet' id hstart).2 (by simp)

/-- **Silence after a stop.** If in the states with `I` no action but one that meets `rearm` queues
the item, then from such a state the function stays silent until one exactly if the item is not
pending. -/
theorem quietUntil_iff_not_pending {rearm : α → Prop} {I : σ → Prop}
    (hfront : ∀ {s w a s' w'}, I s → ¬ rearm a → front s w a = some (s', w') →
      I s' ∧ (w.pending = false → w'.pending = false))
    {s : σ} {w : WorkStruct} (hI : I s) :
    (workMachine front).QuietUntil (WorkAct.Front rearm) (s, w) ↔ w.pending = false := by
  constructor
  · intro hquiet
    by_contra hp
    exact not_quietUntil_of_pending (by simpa using hp) hquiet
  · intro hp
    refine (workMachine front).quietUntil_of_invariant
      (P := fun s => I s.1 ∧ s.2.pending = false) (fun {s a s' u} hP ha hs => ?_) ⟨hI, hp⟩
    cases a with
    | front a =>
      obtain ⟨hstep, rfl⟩ := (workStep_front front).mp hs
      obtain ⟨hI', hp'⟩ := hfront hP.1 ha hstep
      exact ⟨⟨hI', hp' hP.2⟩, rfl⟩
    | workStart =>
      obtain ⟨hpending, -⟩ := (workStep_workStart front).mp hs
      exact absurd (hP.2.symm.trans hpending) (by decide)
    | workEnd =>
      obtain ⟨-, rfl, rfl⟩ := (workStep_workEnd front).mp hs
      exact ⟨hP, rfl⟩

/-- **What a stop that leaves the item alone is worth.** If the action `stop` leads to the states
with `I` and does not touch the pending bit, then the silence after it is the bit being clear. -/
theorem quietAfter_iff_not_pending {rearm : α → Prop} {stop : α} {I : σ → Prop}
    (hfront : ∀ {s w a s' w'}, I s → ¬ rearm a → front s w a = some (s', w') →
      I s' ∧ (w.pending = false → w'.pending = false))
    (hstop : ∀ {s w s' w'}, front s w stop = some (s', w') → I s' ∧ w'.pending = w.pending)
    {s s' : σ × WorkStruct} {a : WorkAct α} {u : List WorkStarted}
    (hs : (workMachine front).step s a = some (s', u)) :
    (workMachine front).QuietAfter (· = .front stop) (WorkAct.Front rearm) s a ↔
      (a = .front stop → s.2.pending = false) := by
  refine forall_congr' fun ha => ?_
  subst ha
  obtain ⟨hI, hpending⟩ := hstop ((workStep_front front).mp hs).1
  rw [← hpending, ← quietUntil_iff_not_pending hfront hI]
  constructor
  · intro h
    exact h _ _ hs
  · intro h s₁ u₁ hs₁
    rw [hs, Option.some.injEq, Prod.mk.injEq] at hs₁
    exact hs₁.1 ▸ h

end Nrf70
