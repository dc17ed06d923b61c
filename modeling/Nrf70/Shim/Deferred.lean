import Nrf70.Lib.WorkStruct

/-!
# Deferred callbacks

The shim defers a callback in three ways, and each ends in a work item: a tasklet queues it
directly, a timer queues it from its handler, and an interrupt from its. To take a callback back it
is enough to stop the first stage and cancel the second. `shim_tasklet_kill` has only the second
stage and cancels it. `shim_timer_kill` and `shim_bus_spi_intr_unreg` stop the first stage and
leave the work item, so a callback that was caught between the stages still comes.

## Linux semantics

A timer fires once after `mod_timer`, and `del_timer_sync` returns when its handler does not run.
An interrupt may come at any time from `request_irq` on; its handler is one step, and `free_irq`
returns when it does not run. A line that has been requested cannot be requested again. The return
of a call that waits is one step, enabled when the wait is over.

## Main results

* `tasklet_quiet` — after `shim_tasklet_kill` a tasklet is silent until it is scheduled
* `timerKill_quiet_iff`, `intrUnreg_quiet_iff` — the others are silent exactly if their work item
  is not pending when the call returns
* `callbacks_in_window_iff` — all of it, over every run
-/

namespace Nrf70

/-! ### Tasklets -/

/-- `shim_tasklet_schedule` and `shim_tasklet_kill`. -/
inductive TaskletAct
  | schedule
  | kill
  deriving DecidableEq, Repr

/-- A tasklet is nothing but its work item, initialised by `shim_tasklet_init`. -/
def taskletFront (_ : Unit) (w : WorkStruct) : TaskletAct → Option (Unit × WorkStruct)
  | .schedule => some ((), w.queue)
  | .kill => w.cancelSync.map fun w => ((), w)

def taskletMachine : Machine (Unit × WorkStruct) (WorkAct TaskletAct) WorkStarted :=
  workMachine taskletFront

/-- **A killed tasklet is silent until it is scheduled.** -/
theorem tasklet_quiet (s : Unit × WorkStruct) (a : WorkAct TaskletAct) :
    taskletMachine.QuietAfter (· = .front .kill) (WorkAct.Front (· = .schedule)) s a := by
  rintro rfl s' u hs
  obtain ⟨hkill, -⟩ := (workStep_front taskletFront).mp hs
  simp only [taskletFront, Option.map_eq_some_iff, WorkStruct.cancelSync_eq_some] at hkill
  obtain ⟨w, ⟨-, rfl⟩, rfl⟩ := hkill
  refine (quietUntil_iff_not_pending (I := fun _ => True) (fun {_ w a _ w'} _ ha hstep => ?_)
    trivial).mpr rfl
  cases a with
  | schedule => exact absurd rfl ha
  | kill =>
    simp only [taskletFront, Option.map_eq_some_iff, WorkStruct.cancelSync_eq_some] at hstep
    obtain ⟨w, ⟨-, rfl⟩, hw⟩ := hstep
    cases hw
    exact ⟨trivial, fun _ => rfl⟩

/-! ### Timers -/

/-- `struct timer_list`: whether the timer is armed, and whether its handler runs. -/
structure TimerList where
  armed : Bool
  handling : Bool
  deriving DecidableEq, Repr

/-- `shim_timer_schedule`, the two ends of `shim_timer_callback`, and `shim_timer_kill`. -/
inductive TimerAct
  | schedule
  | fire
  | callback
  | kill
  deriving DecidableEq, Repr

def timerFront (t : TimerList) (w : WorkStruct) : TimerAct → Option (TimerList × WorkStruct)
  | .schedule => some ({ t with armed := true }, w)
  | .fire => if t.armed && !t.handling then some (⟨false, true⟩, w) else none
  | .callback => if t.handling then some ({ t with handling := false }, w.queue) else none
  -- `del_timer_sync`; the work item is left alone
  | .kill => if t.handling then none else some ({ t with armed := false }, w)

def timerMachine : Machine (TimerList × WorkStruct) (WorkAct TimerAct) WorkStarted :=
  workMachine timerFront

/-- `shim_timer_alloc` and `shim_timer_init`. -/
def shimTimerInit : TimerList × WorkStruct := (⟨false, false⟩, .fresh)

/-- Neither stage of the timer can queue the work item. -/
def TimerList.Idle (t : TimerList) : Prop := t.armed = false ∧ t.handling = false

theorem timerFront_idle {t t' : TimerList} {w w' : WorkStruct} {a : TimerAct} (h : t.Idle)
    (ha : a ≠ .schedule) (hs : timerFront t w a = some (t', w')) :
    t'.Idle ∧ (w.pending = false → w'.pending = false) := by
  obtain ⟨harmed, hhandling⟩ := h
  cases a with
  | schedule => exact absurd rfl ha
  | fire => simp [timerFront, harmed] at hs
  | callback => simp [timerFront, hhandling] at hs
  | kill =>
    simp only [timerFront, hhandling, Bool.false_eq_true, if_false, Option.some.injEq,
      Prod.mk.injEq] at hs
    obtain ⟨rfl, rfl⟩ := hs
    exact ⟨⟨rfl, rfl⟩, id⟩

/-- **A killed timer is silent until it is scheduled exactly if its work item is not pending when
`shim_timer_kill` returns.** -/
theorem timerKill_quiet_iff {s s' : TimerList × WorkStruct} {a : WorkAct TimerAct}
    {u : List WorkStarted} (hs : timerMachine.step s a = some (s', u)) :
    timerMachine.QuietAfter (· = .front .kill) (WorkAct.Front (· = .schedule)) s a ↔
      (a = .front .kill → s.2.pending = false) := by
  refine quietAfter_iff_not_pending timerFront_idle (fun {t w t' w'} hkill => ?_) hs
  simp only [timerFront, Option.ite_none_left_eq_some, Option.some.injEq, Prod.mk.injEq,
    Bool.not_eq_true] at hkill
  obtain ⟨hhandling, rfl, rfl⟩ := hkill
  exact ⟨⟨rfl, hhandling⟩, rfl⟩

/-! ### The interrupt -/

/-- The fallible steps of `shim_bus_spi_intr_reg`, with the number `gpiod_to_irq` gives. -/
structure IntrRegOutcome where
  allocWorkqueue : Bool
  gpiodGet : Bool
  directionInput : Bool
  irqNumber : ℤ
  requestIrq : Bool
  deriving DecidableEq, Repr

/-- The interrupt line and the registration: whether the line is requested, whether a registration
is between `request_irq` and `INIT_WORK`, and whether there is a workqueue. -/
structure IntrState where
  requested : Bool
  registering : Bool
  wq : Bool
  deriving DecidableEq, Repr

/-- The two parts of `shim_bus_spi_intr_reg`, an interrupt, `shim_bus_spi_intr_unreg`, and the
return of `destroy_workqueue` in `shim_bus_spi_dev_rem`. -/
inductive IntrAct
  | intrReg (o : IntrRegOutcome)
  | initWork
  | irq
  | intrUnreg
  | devRem
  deriving DecidableEq, Repr

/-- `shim_bus_spi_intr_reg` up to and including `request_irq`. The failures return. -/
def intrRegRequest (i : IntrState) (o : IntrRegOutcome) : IntrState :=
  if !o.allocWorkqueue then { i with wq := false }
  else
    let i := { i with wq := true }
    if !o.gpiodGet then i
    else if !o.directionInput then i
    else if o.irqNumber ≠ 0 then
      -- after a failure the line is freed for a NULL device, to which it does not belong
      if o.requestIrq && !i.requested then { i with requested := true, registering := true } else i
    else { i with registering := true }

def intrFront (i : IntrState) (w : WorkStruct) : IntrAct → Option (IntrState × WorkStruct)
  | .intrReg o => if i.registering then none else some (intrRegRequest i o, w)
  | .initWork =>
    if i.registering then some ({ i with registering := false }, w.initWork) else none
  -- `shim_spi_irq_handler`
  | .irq => if i.requested then some (i, w.queue) else none
  -- `free_irq`; the work item is left alone
  | .intrUnreg => some ({ i with requested := false }, w)
  | .devRem =>
    if i.wq && (w.pending || w.running) then none else some ({ i with wq := false }, w)

def intrMachine : Machine (IntrState × WorkStruct) (WorkAct IntrAct) WorkStarted :=
  workMachine intrFront

/-- The context as `shim_bus_spi_init` allocates it: zeroed, its work item not initialised. -/
def shimIntrInit : IntrState × WorkStruct := (⟨false, false, false⟩, ⟨false, false, false⟩)

/-- A `shim_bus_spi_intr_reg`. -/
def IntrAct.IsReg : IntrAct → Prop
  | .intrReg _ => True
  | _ => False

theorem intrFront_unrequested {i i' : IntrState} {w w' : WorkStruct} {a : IntrAct}
    (h : i.requested = false) (ha : ¬ a.IsReg) (hs : intrFront i w a = some (i', w')) :
    i'.requested = false ∧ (w.pending = false → w'.pending = false) := by
  cases a with
  | intrReg o => exact absurd trivial ha
  | initWork =>
    simp only [intrFront, Option.ite_none_right_eq_some, Option.some.injEq, Prod.mk.injEq] at hs
    obtain ⟨-, rfl, rfl⟩ := hs
    exact ⟨h, fun _ => rfl⟩
  | irq => simp [intrFront, h] at hs
  | intrUnreg =>
    simp only [intrFront, Option.some.injEq, Prod.mk.injEq] at hs
    obtain ⟨rfl, rfl⟩ := hs
    exact ⟨rfl, id⟩
  | devRem =>
    simp only [intrFront, Option.ite_none_left_eq_some, Option.some.injEq, Prod.mk.injEq] at hs
    obtain ⟨-, rfl, rfl⟩ := hs
    exact ⟨h, id⟩

/-- **An unregistered callback is silent until the next registration exactly if the work item is
not pending when `shim_bus_spi_intr_unreg` returns.** -/
theorem intrUnreg_quiet_iff {s s' : IntrState × WorkStruct} {a : WorkAct IntrAct}
    {u : List WorkStarted} (hs : intrMachine.step s a = some (s', u)) :
    intrMachine.QuietAfter (· = .front .intrUnreg) (WorkAct.Front IntrAct.IsReg) s a ↔
      (a = .front .intrUnreg → s.2.pending = false) := by
  refine quietAfter_iff_not_pending intrFront_unrequested (fun {i w i' w'} hunreg => ?_) hs
  simp only [intrFront, Option.some.injEq, Prod.mk.injEq] at hunreg
  obtain ⟨rfl, rfl⟩ := hunreg
  exact ⟨rfl, rfl⟩

/-- A work item that is going to run has been initialised. -/
def RunsInitialised (s : IntrState × WorkStruct) : Prop :=
  s.2.pending = true → s.2.init = true

/-- Outside a registration, a requested line has an initialised work item behind it. -/
def LineReady (s : IntrState × WorkStruct) : Prop :=
  s.1.requested = true → s.1.registering = false → s.2.init = true

/-- The interrupt does not come between `request_irq` and the first `INIT_WORK`. -/
def NotEarly (s : IntrState × WorkStruct) (a : WorkAct IntrAct) : Prop :=
  a = .front .irq → s.1.registering = true → s.2.init = true

instance (s : IntrState × WorkStruct) (a : WorkAct IntrAct) : Decidable (NotEarly s a) :=
  inferInstanceAs (Decidable (_ → _ → _))

variable {s s' : IntrState × WorkStruct} {a : WorkAct IntrAct} {u : List WorkStarted}

/-- A registration that does not reach `INIT_WORK` leaves the line as it was. -/
theorem intrRegRequest_spec (i : IntrState) (o : IntrRegOutcome) :
    (intrRegRequest i o).registering = true ∨ (intrRegRequest i o).requested = i.requested := by
  rw [intrRegRequest]
  dsimp only
  split_ifs
  all_goals first | exact .inl rfl | exact .inr rfl

theorem LineReady.step (h : LineReady s) (hs : intrMachine.step s a = some (s', u)) :
    LineReady s' := by
  cases a with
  | workStart =>
    obtain ⟨-, -, rfl, -⟩ := (workStep_workStart intrFront).mp hs
    exact h
  | workEnd =>
    obtain ⟨-, rfl, -⟩ := (workStep_workEnd intrFront).mp hs
    exact h
  | front a =>
    obtain ⟨hstep, -⟩ := (workStep_front intrFront).mp hs
    cases a with
    | intrReg o =>
      simp only [intrFront, Option.ite_none_left_eq_some, Option.some.injEq,
        Bool.not_eq_true] at hstep
      obtain ⟨hreg, rfl⟩ := hstep
      intro hreq hnot
      rcases intrRegRequest_spec s.1 o with hin | hsame
      · exact absurd (hin.symm.trans hnot) (by decide)
      · exact h (hsame.symm.trans hreq) hreg
    | initWork =>
      simp only [intrFront, Option.ite_none_right_eq_some, Option.some.injEq] at hstep
      obtain ⟨-, rfl⟩ := hstep
      exact fun _ _ => rfl
    | irq =>
      simp only [intrFront, Option.ite_none_right_eq_some, Option.some.injEq] at hstep
      obtain ⟨-, rfl⟩ := hstep
      exact h
    | intrUnreg =>
      simp only [intrFront, Option.some.injEq] at hstep
      rw [← hstep]
      exact fun hreq => absurd hreq Bool.false_ne_true
    | devRem =>
      simp only [intrFront, Option.ite_none_left_eq_some, Option.some.injEq] at hstep
      obtain ⟨-, rfl⟩ := hstep
      exact h

/-- **One step keeps pending items initialised exactly if it is not an early interrupt.** -/
theorem runsInitialised_iff (hready : LineReady s) (h : RunsInitialised s)
    (hs : intrMachine.step s a = some (s', u)) : RunsInitialised s' ↔ NotEarly s a := by
  cases a with
  | workStart =>
    obtain ⟨-, -, rfl, -⟩ := (workStep_workStart intrFront).mp hs
    exact iff_of_true (fun hp => absurd hp Bool.false_ne_true) (by simp [NotEarly])
  | workEnd =>
    obtain ⟨-, rfl, -⟩ := (workStep_workEnd intrFront).mp hs
    exact iff_of_true h (by simp [NotEarly])
  | front a =>
    obtain ⟨hstep, -⟩ := (workStep_front intrFront).mp hs
    cases a with
    | intrReg o =>
      simp only [intrFront, Option.ite_none_left_eq_some, Option.some.injEq] at hstep
      obtain ⟨-, rfl⟩ := hstep
      exact iff_of_true h (by simp [NotEarly])
    | initWork =>
      simp only [intrFront, Option.ite_none_right_eq_some, Option.some.injEq] at hstep
      obtain ⟨-, rfl⟩ := hstep
      exact iff_of_true (fun _ => rfl) (by simp [NotEarly])
    | irq =>
      simp only [intrFront, Option.ite_none_right_eq_some, Option.some.injEq] at hstep
      obtain ⟨hreq, rfl⟩ := hstep
      constructor
      · intro hinit _ _
        exact hinit rfl
      · intro hearly _
        cases hreg : s.1.registering with
        | false => exact hready hreq hreg
        | true => exact hearly rfl hreg
    | intrUnreg =>
      simp only [intrFront, Option.some.injEq] at hstep
      rw [← hstep]
      exact iff_of_true h (by simp [NotEarly])
    | devRem =>
      simp only [intrFront, Option.ite_none_left_eq_some, Option.some.injEq] at hstep
      obtain ⟨-, rfl⟩ := hstep
      exact iff_of_true h (by simp [NotEarly])

/-! ### All three -/

/-- **Callbacks in their window.** Over every interleaving: after `shim_tasklet_kill` a tasklet is
silent until it is scheduled. After every `shim_timer_kill` of a run the timer is silent until it
is scheduled, if and only if no `shim_timer_kill` of the run returns while the timer's work item is
pending. Every interrupt work item that is going to run has been initialised and after every
`shim_bus_spi_intr_unreg` the callback is silent until the next registration, if and only if no
interrupt comes between `request_irq` and the first `INIT_WORK` and no `shim_bus_spi_intr_unreg`
returns while the work item is pending. -/
theorem callbacks_in_window_iff (s₀ : Unit × WorkStruct) (acts₀ : List (WorkAct TaskletAct))
    {acts₁ s₁ t₁} (h₁ : timerMachine.exec shimTimerInit acts₁ = some (s₁, t₁))
    {acts₂ s₂ t₂} (h₂ : intrMachine.exec shimIntrInit acts₂ = some (s₂, t₂)) :
    taskletMachine.Along
      (taskletMachine.QuietAfter (· = .front .kill) (WorkAct.Front (· = .schedule))) s₀ acts₀ ∧
    (timerMachine.Along
        (timerMachine.QuietAfter (· = .front .kill) (WorkAct.Front (· = .schedule)))
        shimTimerInit acts₁ ↔
      timerMachine.Along (fun s a => a = .front .kill → s.2.pending = false)
        shimTimerInit acts₁) ∧
    (intrMachine.Throughout RunsInitialised shimIntrInit acts₂ ∧
      intrMachine.Along
        (intrMachine.QuietAfter (· = .front .intrUnreg) (WorkAct.Front IntrAct.IsReg))
        shimIntrInit acts₂ ↔
      intrMachine.Along (fun s a => NotEarly s a ∧
        (a = .front .intrUnreg → s.2.pending = false)) shimIntrInit acts₂) := by
  refine ⟨?_, ?_, ?_⟩
  · exact taskletMachine.along_of_forall fun s a _ => tasklet_quiet s a
  · exact timerMachine.along_congr (Q := fun _ => True) (fun _ _ => trivial)
      (fun _ hs => timerKill_quiet_iff hs) trivial h₁
  · rw [intrMachine.along_and]
    refine and_congr ?_ ?_
    · exact intrMachine.throughout_iff_along_of_invariant (Q := LineReady)
        (fun hready hs => hready.step hs)
        (fun hready hrun hs => runsInitialised_iff hready hrun hs)
        (fun hreq => absurd hreq Bool.false_ne_true) (fun hp => absurd hp Bool.false_ne_true) h₂
    · exact intrMachine.along_congr (Q := fun _ => True) (fun _ _ => trivial)
        (fun _ hs => intrUnreg_quiet_iff hs) trivial h₂

/-- A registration that goes well, on line 5. -/
def goodIntrReg : IntrRegOutcome := ⟨true, true, true, 5, true⟩

/-- A timer that has run is killed, and an interrupt that has been served is unregistered. -/
theorem callbacks_in_window_iff_served :
    timerMachine.Along (timerMachine.QuietAfter (· = .front .kill) (WorkAct.Front (· = .schedule)))
      shimTimerInit [.front .schedule, .front .fire, .front .callback, .workStart, .front .kill] ∧
    intrMachine.Throughout RunsInitialised shimIntrInit [.front (.intrReg goodIntrReg),
      .front .initWork, .front .irq, .workStart, .front .intrUnreg] := by
  obtain ⟨s₁, t₁, hrun₁⟩ : ∃ s t, timerMachine.exec shimTimerInit
      [.front .schedule, .front .fire, .front .callback, .workStart, .front .kill]
        = some (s, t) := ⟨_, _, rfl⟩
  obtain ⟨s₂, t₂, hrun₂⟩ : ∃ s t, intrMachine.exec shimIntrInit [.front (.intrReg goodIntrReg),
      .front .initWork, .front .irq, .workStart, .front .intrUnreg] = some (s, t) := ⟨_, _, rfl⟩
  obtain ⟨-, htimer, hintr⟩ := callbacks_in_window_iff ((), .fresh) [] hrun₁ hrun₂
  constructor
  · exact htimer.mpr (by decide)
  · exact (hintr.mpr (by decide)).1

/-- **Three callbacks outside their window.** A timer whose handler has run is killed, and its
callback starts afterwards; so does that of an interrupt that has been unregistered; and an
interrupt between `request_irq` and `INIT_WORK` queues an item that has not been initialised. -/
theorem callbacks_outside_window :
    (∃ s s', timerMachine.exec shimTimerInit
        [.front .schedule, .front .fire, .front .callback, .front .kill] = some (s, []) ∧
      timerMachine.exec s [.workStart] = some (s', [.started])) ∧
    (∃ s s', intrMachine.exec shimIntrInit [.front (.intrReg goodIntrReg), .front .initWork,
        .front .irq, .front .intrUnreg] = some (s, []) ∧
      intrMachine.exec s [.workStart] = some (s', [.started])) ∧
    ∃ s, intrMachine.exec shimIntrInit [.front (.intrReg goodIntrReg), .front .irq]
        = some (s, []) ∧ ¬ RunsInitialised s := by
  refine ⟨?_, ?_, ?_⟩
  · exact ⟨_, _, rfl, rfl⟩
  · exact ⟨_, _, rfl, rfl⟩
  · exact ⟨_, rfl, fun h => absurd (h rfl) (by decide)⟩

end Nrf70
