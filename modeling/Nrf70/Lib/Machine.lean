import Mathlib.Data.List.Infix

/-!
# Step functions and their runs

A concurrent system is a step function: in a state, an action either is not enabled (`none`) or
gives the next state together with the events it makes visible. The list of actions is the
interleaving, so a statement over every interleaving is a statement over every list.

Events live in the run and not in the state. History that no step reads back therefore stays out
of the model, and a state holds only what the code can see.

## Main definitions

* `Machine.exec` — a run, with the concatenated trace of its events
* `Machine.Along` — every step of a run meets a condition on its state and action
* `Machine.Throughout` — every state of a run, both ends included, has a property
* `Machine.QuietUntil` — no event is made visible before an action of a kind

## Main results

* `Machine.exec_invariant`, `exec_invariant_along` — the invariant rules, over trace and state
* `Machine.exec_kept_or_doomed` — a run meets a condition throughout and keeps a property, or is
  doomed from the first step that does not meet it
* `Machine.exec_simulation` — forward simulation of one machine by another
* `Machine.exec_map_along` — a machine that is another one seen through a function, as long as the
  steps meet a condition
* `Machine.throughout_iff_along` — when one step preserves a property exactly under a condition,
  a whole run has the property exactly when all its steps meet the condition
* `Machine.holds_iff_decided`, `holds_iff_not_pending` — a property that some steps decide anew
  holds at the end of a run exactly when the last of them did not break it
-/

namespace Nrf70

/-- A step function with visible events. -/
structure Machine (σ α ε : Type*) where
  /-- One step: `none` when the action is not enabled. -/
  step : σ → α → Option (σ × List ε)

namespace Machine

variable {σ α ε : Type*} (M : Machine σ α ε)

/-- Run a list of actions, collecting the events. -/
def exec (s : σ) : List α → Option (σ × List ε)
  | [] => some (s, [])
  | a :: as =>
    match M.step s a with
    | none => none
    | some (s₁, t₁) =>
      match exec s₁ as with
      | none => none
      | some (s₂, t₂) => some (s₂, t₁ ++ t₂)

@[simp] theorem exec_nil (s : σ) : M.exec s [] = some (s, []) := rfl

theorem exec_cons_eq_some {s s' : σ} {a : α} {as : List α} {t : List ε} :
    M.exec s (a :: as) = some (s', t) ↔
      ∃ s₁ t₁ t₂, M.step s a = some (s₁, t₁) ∧ M.exec s₁ as = some (s', t₂) ∧ t = t₁ ++ t₂ := by
  rw [exec]
  constructor
  · intro h
    cases hstep : M.step s a with
    | none => simp [hstep] at h
    | some p =>
      obtain ⟨s₁, t₁⟩ := p
      cases hrest : M.exec s₁ as with
      | none => simp [hstep, hrest] at h
      | some q =>
        obtain ⟨s₂, t₂⟩ := q
        simp only [hstep, hrest, Option.some.injEq, Prod.mk.injEq] at h
        exact ⟨s₁, t₁, t₂, rfl, by rw [← h.1, hrest], h.2.symm⟩
  · rintro ⟨s₁, t₁, t₂, hstep, hrest, rfl⟩
    simp [hstep, hrest]

/-- A step without events is a step of the state alone. -/
theorem exec_cons_of_silent {s s₁ : σ} {a : α} {as : List α} (h : M.step s a = some (s₁, [])) :
    M.exec s (a :: as) = M.exec s₁ as := by
  rw [exec, h]
  dsimp only
  cases M.exec s₁ as <;> rfl

/-- A run over a concatenation is a run followed by a run. -/
theorem exec_append {s s' : σ} {as bs : List α} {t : List ε} :
    M.exec s (as ++ bs) = some (s', t) ↔
      ∃ s₁ t₁ t₂, M.exec s as = some (s₁, t₁) ∧ M.exec s₁ bs = some (s', t₂) ∧ t = t₁ ++ t₂ := by
  induction as generalizing s t with
  | nil => simp
  | cons a as ih =>
    rw [List.cons_append, exec_cons_eq_some]
    constructor
    · rintro ⟨s₁, t₁, t₂, hstep, hrest, rfl⟩
      obtain ⟨s₂, u₁, u₂, has, hbs, rfl⟩ := ih.mp hrest
      exact ⟨s₂, t₁ ++ u₁, u₂, M.exec_cons_eq_some.mpr ⟨s₁, t₁, u₁, hstep, has, rfl⟩, hbs,
        (List.append_assoc ..).symm⟩
    · rintro ⟨s₂, u, u₂, has, hbs, rfl⟩
      obtain ⟨s₁, t₁, u₁, hstep, has', rfl⟩ := M.exec_cons_eq_some.mp has
      exact ⟨s₁, t₁, u₁ ++ u₂, hstep, ih.mpr ⟨s₂, u₁, u₂, has', hbs, rfl⟩,
        List.append_assoc ..⟩

/-- One step is a run of length one. -/
theorem exec_singleton {s s' : σ} {a : α} {t : List ε} :
    M.exec s [a] = some (s', t) ↔ M.step s a = some (s', t) := by
  rw [exec_cons_eq_some]
  constructor
  · rintro ⟨s₁, t₁, t₂, hstep, hrest, rfl⟩
    simp only [exec_nil, Option.some.injEq, Prod.mk.injEq] at hrest
    obtain ⟨rfl, rfl⟩ := hrest
    simpa using hstep
  · intro h
    exact ⟨s', t, [], h, rfl, by simp⟩

/-- A machine whose every step is enabled can run anything. -/
theorem exec_total (htotal : ∀ s a, ∃ p, M.step s a = some p) {s : σ} (as : List α) :
    ∃ p, M.exec s as = some p := by
  induction as generalizing s with
  | nil => exact ⟨_, rfl⟩
  | cons a as ih =>
    obtain ⟨⟨s₁, t₁⟩, ha⟩ := htotal s a
    obtain ⟨⟨s₂, t₂⟩, hrest⟩ := ih (s := s₁)
    exact ⟨_, M.exec_cons_eq_some.mpr ⟨s₁, t₁, t₂, ha, hrest, rfl⟩⟩

/-- A step of a machine that is a function is the function. -/
theorem step_eq_of_total {f : σ → α → σ × List ε} (hf : ∀ s a, M.step s a = some (f s a))
    {s s' : σ} {a : α} {u : List ε} (h : M.step s a = some (s', u)) :
    s' = (f s a).1 ∧ u = (f s a).2 := by
  rw [hf, Option.some.injEq] at h
  rw [h]
  exact ⟨rfl, rfl⟩

/-! ### Invariants -/

/-- Every step of the run meets `ok` in the state it is taken from. -/
def Along (ok : σ → α → Prop) (s : σ) : List α → Prop
  | [] => True
  | a :: as => ok s a ∧ ∀ s₁ t₁, M.step s a = some (s₁, t₁) → Along ok s₁ as

theorem along_cons {ok : σ → α → Prop} {s s₁ : σ} {a : α} {as : List α} {t₁ : List ε}
    (hstep : M.step s a = some (s₁, t₁)) :
    M.Along ok s (a :: as) ↔ ok s a ∧ M.Along ok s₁ as := by
  constructor
  · rintro ⟨hok, hrest⟩
    exact ⟨hok, hrest s₁ t₁ hstep⟩
  · rintro ⟨hok, hrest⟩
    refine ⟨hok, fun s₂ t₂ hstep' => ?_⟩
    rw [hstep, Option.some.injEq, Prod.mk.injEq] at hstep'
    rwa [← hstep'.1]

/-- A condition that can be tested can be tested along a run. -/
instance decidableAlong {ok : σ → α → Prop} [∀ s a, Decidable (ok s a)] (s : σ) :
    (as : List α) → Decidable (M.Along ok s as)
  | [] => isTrue trivial
  | a :: as =>
    match h : M.step s a with
    | none => decidable_of_iff (ok s a) ⟨fun hok => ⟨hok, by simp [h]⟩, fun hal => hal.1⟩
    | some (s₁, _) =>
      have : Decidable (M.Along ok s₁ as) := decidableAlong s₁ as
      decidable_of_iff (ok s a ∧ M.Along ok s₁ as) (M.along_cons h).symm

theorem along_of_forall {ok : σ → α → Prop} {s : σ} {as : List α}
    (hok : ∀ s, ∀ a ∈ as, ok s a) : M.Along ok s as := by
  induction as generalizing s with
  | nil => trivial
  | cons a as ih =>
    exact ⟨hok s a List.mem_cons_self,
      fun s₁ _ _ => ih fun s b hb => hok s b (List.mem_cons_of_mem _ hb)⟩

theorem along_mono {ok ok' : σ → α → Prop} (himp : ∀ s a, ok s a → ok' s a) {s : σ}
    {as : List α} (h : M.Along ok s as) : M.Along ok' s as := by
  induction as generalizing s with
  | nil => trivial
  | cons a as ih => exact ⟨himp s a h.1, fun s₁ t₁ hstep => ih (h.2 s₁ t₁ hstep)⟩

theorem along_and {ok ok' : σ → α → Prop} {s : σ} {as : List α} :
    M.Along (fun s a => ok s a ∧ ok' s a) s as ↔ M.Along ok s as ∧ M.Along ok' s as := by
  constructor
  · intro h
    exact ⟨M.along_mono (fun _ _ hok => hok.1) h, M.along_mono (fun _ _ hok => hok.2) h⟩
  · rintro ⟨h, h'⟩
    induction as generalizing s with
    | nil => trivial
    | cons a as ih =>
      exact ⟨⟨h.1, h'.1⟩, fun s₁ t₁ hstep => ih (h.2 s₁ t₁ hstep) (h'.2 s₁ t₁ hstep)⟩

theorem along_true (s : σ) (as : List α) : M.Along (fun _ _ => True) s as :=
  M.along_of_forall fun _ _ _ => trivial

/-- **The invariant rule for runs whose steps all meet a condition.** The property may speak of
the trace so far, so it can relate what has happened to what the state still holds. -/
theorem exec_invariant_along {ok : σ → α → Prop} {P : List ε → σ → Prop}
    (hstep : ∀ {t s a s' u}, P t s → ok s a → M.step s a = some (s', u) → P (t ++ u) s')
    {t : List ε} {s : σ} {as : List α} {s' : σ} {u : List ε}
    (h : P t s) (hok : M.Along ok s as) (hexec : M.exec s as = some (s', u)) :
    P (t ++ u) s' := by
  induction as generalizing s t u with
  | nil =>
    simp only [exec_nil, Option.some.injEq, Prod.mk.injEq] at hexec
    obtain ⟨rfl, rfl⟩ := hexec
    simpa using h
  | cons a as ih =>
    obtain ⟨s₁, t₁, t₂, ha, hrest, rfl⟩ := M.exec_cons_eq_some.mp hexec
    have h₁ : P (t ++ t₁) s₁ := hstep h hok.1 ha
    have h₂ := ih h₁ (hok.2 s₁ t₁ ha) hrest
    rwa [List.append_assoc] at h₂

/-- **The invariant rule.** -/
theorem exec_invariant {P : List ε → σ → Prop}
    (hstep : ∀ {t s a s' u}, P t s → M.step s a = some (s', u) → P (t ++ u) s')
    {t : List ε} {s : σ} {as : List α} {s' : σ} {u : List ε}
    (h : P t s) (hexec : M.exec s as = some (s', u)) : P (t ++ u) s' :=
  M.exec_invariant_along (fun hP _ hs => hstep hP hs) h (M.along_true s as) hexec

/-- **A condition that must be met from the first step to the last.** A run keeps `P` as long as
its steps meet `ok`; the first step that does not leaves it doomed, and nothing that comes after
changes that. -/
theorem exec_kept_or_doomed {ok : σ → α → Prop} {P D : List ε → σ → Prop}
    (hkept : ∀ {t s a s' u}, P t s → ok s a → M.step s a = some (s', u) → P (t ++ u) s')
    (hlost : ∀ {t s a s' u}, P t s → ¬ ok s a → M.step s a = some (s', u) → D (t ++ u) s')
    (hdoomed : ∀ {t s a s' u}, D t s → M.step s a = some (s', u) → D (t ++ u) s')
    {t : List ε} {s : σ} {as : List α} {s' : σ} {u : List ε}
    (h : P t s) (hexec : M.exec s as = some (s', u)) :
    M.Along ok s as ∧ P (t ++ u) s' ∨ ¬ M.Along ok s as ∧ D (t ++ u) s' := by
  by_cases hal : M.Along ok s as
  · exact .inl ⟨hal, M.exec_invariant_along hkept h hal hexec⟩
  refine .inr ⟨hal, ?_⟩
  induction as generalizing s t u with
  | nil => exact absurd trivial hal
  | cons a as ih =>
    obtain ⟨s₁, t₁, t₂, ha, hrest, rfl⟩ := M.exec_cons_eq_some.mp hexec
    rw [← List.append_assoc]
    by_cases hok : ok s a
    · have hrest' : ¬ M.Along ok s₁ as := fun h₁ => hal ((M.along_cons ha).mpr ⟨hok, h₁⟩)
      exact ih (hkept h hok ha) hrest hrest'
    · exact M.exec_invariant hdoomed (hlost h hok ha) hrest

/-- An event is missing from the trace exactly when no step of the run makes it visible. -/
theorem along_iff_not_mem_trace {emits : σ → α → Prop} {e : ε}
    (hstep : ∀ {s a s' u}, M.step s a = some (s', u) → (e ∈ u ↔ emits s a))
    {s s' : σ} {as : List α} {t : List ε} (hexec : M.exec s as = some (s', t)) :
    M.Along (fun s a => ¬ emits s a) s as ↔ e ∉ t := by
  induction as generalizing s t with
  | nil =>
    simp only [exec_nil, Option.some.injEq, Prod.mk.injEq] at hexec
    rw [← hexec.2]
    exact iff_of_true trivial List.not_mem_nil
  | cons a as ih =>
    obtain ⟨s₁, t₁, t₂, ha, hrest, rfl⟩ := M.exec_cons_eq_some.mp hexec
    rw [M.along_cons ha, ih hrest, ← hstep ha, List.mem_append, not_or]

/-! ### Simulation -/

/-- **Forward simulation.** If every step of the abstract machine that meets `ok` is matched by a
step of the concrete one with the same events, then so is every run. -/
theorem exec_simulation {τ : Type*} {C : Machine τ α ε} {ok : σ → α → Prop} {R : σ → τ → Prop}
    (hstep : ∀ {s c a s' u}, R s c → ok s a → M.step s a = some (s', u) →
      ∃ c', C.step c a = some (c', u) ∧ R s' c')
    {s s' : σ} {c : τ} {as : List α} {t : List ε} (hR : R s c) (hok : M.Along ok s as)
    (hexec : M.exec s as = some (s', t)) : ∃ c', C.exec c as = some (c', t) ∧ R s' c' := by
  induction as generalizing s c t with
  | nil =>
    simp only [exec_nil, Option.some.injEq, Prod.mk.injEq] at hexec
    obtain ⟨rfl, rfl⟩ := hexec
    exact ⟨c, rfl, hR⟩
  | cons a as ih =>
    obtain ⟨s₁, t₁, t₂, ha, hrest, rfl⟩ := M.exec_cons_eq_some.mp hexec
    obtain ⟨c₁, hc₁, hR₁⟩ := hstep hR hok.1 ha
    obtain ⟨c', hc', hR'⟩ := ih hR₁ (hok.2 s₁ t₁ ha) hrest
    exact ⟨c', C.exec_cons_eq_some.mpr ⟨c₁, t₁, t₂, hc₁, hc', rfl⟩, hR'⟩

/-- **A machine seen through a function.** Take a list of actions that meet `ok` in what is seen,
from a state with the invariant `Q`. If every such step of one machine is a step of another between
what is seen of its states, then so is the run, and one gets stuck exactly where the other does. -/
theorem exec_map_along {τ : Type*} {C : Machine τ α ε} {ok : τ → α → Prop} {Q : σ → Prop}
    (f : σ → τ) (hinv : ∀ {s a s' u}, Q s → ok (f s) a → M.step s a = some (s', u) → Q s')
    (hstep : ∀ {s a}, Q s → ok (f s) a → (M.step s a).map (Prod.map f id) = C.step (f s) a)
    {s : σ} {as : List α} (hQ : Q s) (hok : C.Along ok (f s) as) :
    (M.exec s as).map (Prod.map f id) = C.exec (f s) as := by
  induction as generalizing s with
  | nil => rfl
  | cons a as ih =>
    have hseen := hstep hQ hok.1
    rw [exec, exec, ← hseen]
    cases hs : M.step s a with
    | none => rfl
    | some p =>
      obtain ⟨s₁, t₁⟩ := p
      rw [hs] at hseen
      have hrest := ih (hinv hQ hok.1 hs) (hok.2 (f s₁) t₁ hseen.symm)
      simp only [Option.map_some, Prod.map_apply, id_eq]
      rw [← hrest]
      cases M.exec s₁ as <;> rfl

/-! ### Runs that make an event visible -/

/-- Some run from here makes an event visible. -/
def CanEmit (s : σ) : Prop := ∃ as s' t, M.exec s as = some (s', t) ∧ t ≠ []

theorem CanEmit.of_event {s s' : σ} {a : α} {t : List ε} (h : M.step s a = some (s', t))
    (ht : t ≠ []) : M.CanEmit s :=
  ⟨[a], s', t, M.exec_singleton.mpr h, ht⟩

theorem CanEmit.of_step {s s' : σ} {a : α} {t : List ε} (h : M.step s a = some (s', t))
    (hs' : M.CanEmit s') : M.CanEmit s := by
  obtain ⟨as, s₂, u, hexec, hu⟩ := hs'
  refine ⟨a :: as, s₂, t ++ u, M.exec_cons_eq_some.mpr ⟨s', t, u, h, hexec, rfl⟩, ?_⟩
  simp [hu]

/-- A silent invariant keeps every run silent. -/
theorem exec_silent {P : σ → Prop}
    (hstep : ∀ {s a s' u}, P s → M.step s a = some (s', u) → P s' ∧ u = [])
    {s s' : σ} {as : List α} {t : List ε} (h : P s) (hexec : M.exec s as = some (s', t)) :
    P s' ∧ t = [] := by
  refine M.exec_invariant (P := fun t s => P s ∧ t = []) (t := []) (fun hP hs => ?_) ⟨h, rfl⟩ hexec
  obtain ⟨hP', rfl⟩ := hstep hP.1 hs
  exact ⟨hP', by simp [hP.2]⟩

/-! ### Silence until a restart -/

/-- Until an action that meets `rearm`, no event is made visible. -/
def QuietUntil (rearm : α → Prop) (s : σ) : Prop :=
  ∀ as s' t, (∀ a ∈ as, ¬ rearm a) → M.exec s as = some (s', t) → t = []

/-- The action, if it meets `stop`, leaves silence until one that meets `rearm`. -/
def QuietAfter (stop rearm : α → Prop) (s : σ) (a : α) : Prop :=
  stop a → ∀ s' u, M.step s a = some (s', u) → M.QuietUntil rearm s'

theorem quietUntil_of_invariant {rearm : α → Prop} {P : σ → Prop}
    (hstep : ∀ {s a s' u}, P s → ¬ rearm a → M.step s a = some (s', u) → P s' ∧ u = [])
    {s : σ} (h : P s) : M.QuietUntil rearm s := by
  intro as s' t hno hexec
  have hok : M.Along (fun _ a => ¬ rearm a) s as := M.along_of_forall fun _ a ha => hno a ha
  refine (M.exec_invariant_along (P := fun t s => P s ∧ t = []) (t := []) (fun hP ha hs => ?_)
    ⟨h, rfl⟩ hok hexec).2
  obtain ⟨hP', rfl⟩ := hstep hP.1 ha hs
  exact ⟨hP', by simp [hP.2]⟩

theorem quietUntil_step {rearm : α → Prop} {s s' : σ} {a : α} {u : List ε}
    (h : M.QuietUntil rearm s) (ha : ¬ rearm a) (hs : M.step s a = some (s', u)) :
    M.QuietUntil rearm s' ∧ u = [] := by
  refine ⟨fun as s₂ t hno hexec => ?_, ?_⟩
  · have htrace := h (a :: as) s₂ (u ++ t) (by simpa [ha] using hno)
      (M.exec_cons_eq_some.mpr ⟨s', u, t, hs, hexec, rfl⟩)
    exact (List.append_eq_nil_iff.mp htrace).2
  · exact h [a] s' u (by simpa using ha) (M.exec_singleton.mpr hs)

/-! ### Properties of every state of a run -/

/-- Every state the run passes through has `P`, the first and the last included. -/
def Throughout (P : σ → Prop) (s : σ) (as : List α) : Prop :=
  ∀ bs s' t, bs <+: as → M.exec s bs = some (s', t) → P s'

theorem throughout_nil {P : σ → Prop} {s : σ} : M.Throughout P s [] ↔ P s := by
  constructor
  · intro h
    exact h [] s [] (List.prefix_refl []) rfl
  · intro h bs s' t hbs hexec
    rw [List.prefix_nil.mp hbs, exec_nil, Option.some.injEq, Prod.mk.injEq] at hexec
    rwa [← hexec.1]

theorem throughout_cons {P : σ → Prop} {s s₁ : σ} {a : α} {as : List α} {t₁ : List ε}
    (hstep : M.step s a = some (s₁, t₁)) :
    M.Throughout P s (a :: as) ↔ P s ∧ M.Throughout P s₁ as := by
  constructor
  · intro h
    refine ⟨h [] s [] (List.nil_prefix ..) rfl, fun bs s' t hbs hexec => ?_⟩
    exact h (a :: bs) s' (t₁ ++ t) (List.cons_prefix_cons.mpr ⟨rfl, hbs⟩)
      (M.exec_cons_eq_some.mpr ⟨s₁, t₁, t, hstep, hexec, rfl⟩)
  · rintro ⟨hs, hrest⟩ bs s' t hbs hexec
    cases bs with
    | nil =>
      rw [exec_nil, Option.some.injEq, Prod.mk.injEq] at hexec
      rwa [← hexec.1]
    | cons b bs =>
      obtain ⟨rfl, hbs'⟩ := List.cons_prefix_cons.mp hbs
      obtain ⟨s₂, u₁, u₂, hb, hexec', -⟩ := M.exec_cons_eq_some.mp hexec
      rw [hstep, Option.some.injEq, Prod.mk.injEq] at hb
      rw [← hb.1] at hexec'
      exact hrest bs s' u₂ hbs' hexec'

/-- What holds of every step from a state with `P` holds along a run that has `P` throughout. -/
theorem along_of_throughout {ok : σ → α → Prop} {P : σ → Prop} (himp : ∀ s a, P s → ok s a)
    {s : σ} {as : List α} (h : M.Throughout P s as) : M.Along ok s as := by
  induction as generalizing s with
  | nil => trivial
  | cons a as ih =>
    refine ⟨himp s a (h [] s [] (List.nil_prefix ..) rfl), fun s₁ t₁ hstep => ?_⟩
    exact ih ((M.throughout_cons hstep).mp h).2

/-- Beside an invariant, conditions that agree on the steps that can be taken agree along a run. -/
theorem along_congr {ok ok' : σ → α → Prop} {Q : σ → Prop}
    (hinv : ∀ {s a s' u}, Q s → M.step s a = some (s', u) → Q s')
    (hiff : ∀ {s a s' u}, Q s → M.step s a = some (s', u) → (ok s a ↔ ok' s a))
    {s : σ} {as : List α} {s' : σ} {u : List ε} (hQ : Q s)
    (hexec : M.exec s as = some (s', u)) : M.Along ok s as ↔ M.Along ok' s as := by
  induction as generalizing s u with
  | nil => exact Iff.rfl
  | cons a as ih =>
    obtain ⟨s₁, t₁, t₂, ha, hrest, -⟩ := M.exec_cons_eq_some.mp hexec
    rw [M.along_cons ha, M.along_cons ha, hiff hQ ha, ih (hinv hQ ha) hrest]

/-- **Exactness over a whole run, beside an invariant.** If every step keeps `Q`, and a step from
a state with `Q` and `P` keeps `P` exactly under `ok`, then a run that starts with both has `P`
throughout exactly when all its steps meet `ok`. -/
theorem throughout_iff_along_of_invariant {ok : σ → α → Prop} {P Q : σ → Prop}
    (hinv : ∀ {s a s' u}, Q s → M.step s a = some (s', u) → Q s')
    (hstep : ∀ {s a s' u}, Q s → P s → M.step s a = some (s', u) → (P s' ↔ ok s a))
    {s : σ} {as : List α} {s' : σ} {u : List ε} (hQ : Q s) (h : P s)
    (hexec : M.exec s as = some (s', u)) : M.Throughout P s as ↔ M.Along ok s as := by
  induction as generalizing s u with
  | nil => exact ⟨fun _ => trivial, fun _ => M.throughout_nil.mpr h⟩
  | cons a as ih =>
    obtain ⟨s₁, t₁, t₂, ha, hrest, -⟩ := M.exec_cons_eq_some.mp hexec
    have hQ₁ : Q s₁ := hinv hQ ha
    rw [M.throughout_cons ha]
    constructor
    · rintro ⟨-, hthr⟩
      have h₁ : P s₁ := hthr [] s₁ [] (List.nil_prefix ..) rfl
      refine ⟨(hstep hQ h ha).mp h₁, fun s₂ u₂ ha' => ?_⟩
      rw [ha, Option.some.injEq, Prod.mk.injEq] at ha'
      rw [← ha'.1]
      exact (ih hQ₁ h₁ hrest).mp hthr
    · rintro ⟨hok, hal⟩
      have h₁ : P s₁ := (hstep hQ h ha).mpr hok
      exact ⟨h, (ih hQ₁ h₁ hrest).mpr (hal s₁ t₁ ha)⟩

/-- **Exactness over a whole run.** If a step from a state with `P` keeps `P` exactly under `ok`,
then a run that starts with `P` has it throughout exactly when all its steps meet `ok`. -/
theorem throughout_iff_along {ok : σ → α → Prop} {P : σ → Prop}
    (hstep : ∀ {s a s' u}, P s → M.step s a = some (s', u) → (P s' ↔ ok s a))
    {s : σ} {as : List α} {s' : σ} {u : List ε} (h : P s)
    (hexec : M.exec s as = some (s', u)) : M.Throughout P s as ↔ M.Along ok s as :=
  M.throughout_iff_along_of_invariant (Q := fun _ => True) (fun _ _ => trivial)
    (fun _ hP hs => hstep hP hs) trivial h hexec

/-! ### Steps that break a property and steps that decide it anew -/

/-- Some step of the run meets `bad`, and no step after it meets `anew`. -/
def Pending (bad anew : σ → α → Prop) (s : σ) : List α → Prop
  | [] => False
  | a :: as => ∃ s₁ t₁, M.step s a = some (s₁, t₁) ∧
      (bad s a ∧ M.Along (fun s a => ¬ anew s a) s₁ as ∨ Pending bad anew s₁ as)

theorem pending_cons {bad anew : σ → α → Prop} {s s₁ : σ} {a : α} {as : List α} {t₁ : List ε}
    (hstep : M.step s a = some (s₁, t₁)) :
    M.Pending bad anew s (a :: as) ↔
      bad s a ∧ M.Along (fun s a => ¬ anew s a) s₁ as ∨ M.Pending bad anew s₁ as := by
  constructor
  · rintro ⟨s₂, t₂, hstep', h⟩
    rw [hstep, Option.some.injEq, Prod.mk.injEq] at hstep'
    rwa [hstep'.1]
  · intro h
    exact ⟨s₁, t₁, hstep, h⟩

/-- **The last decision counts.** If a step leaves `P` true exactly when it is not bad and `P` was
true or is decided anew, then `P` holds at the end of a run exactly when no bad step is pending, and
`P` held at the start or has been decided anew. -/
theorem holds_iff_decided {bad anew : σ → α → Prop} {P : σ → Prop}
    (hstep : ∀ {s a s' u}, M.step s a = some (s', u) → (P s' ↔ ¬ bad s a ∧ (P s ∨ anew s a)))
    {s : σ} {as : List α} {s' : σ} {u : List ε} (hexec : M.exec s as = some (s', u)) :
    P s' ↔ ¬ M.Pending bad anew s as ∧ (P s ∨ ¬ M.Along (fun s a => ¬ anew s a) s as) := by
  induction as generalizing s u with
  | nil =>
    rw [exec_nil, Option.some.injEq, Prod.mk.injEq] at hexec
    rw [hexec.1]
    simp [Pending, Along]
  | cons a as ih =>
    obtain ⟨s₁, t₁, t₂, ha, hrest, -⟩ := M.exec_cons_eq_some.mp hexec
    rw [ih hrest, hstep ha, M.pending_cons ha, M.along_cons ha]
    tauto

/-- A property that holds at the start holds at the end exactly when no bad step is pending. -/
theorem holds_iff_not_pending {bad anew : σ → α → Prop} {P : σ → Prop}
    (hstep : ∀ {s a s' u}, M.step s a = some (s', u) → (P s' ↔ ¬ bad s a ∧ (P s ∨ anew s a)))
    {s : σ} {as : List α} {s' : σ} {u : List ε} (h : P s)
    (hexec : M.exec s as = some (s', u)) : P s' ↔ ¬ M.Pending bad anew s as := by
  rw [M.holds_iff_decided hstep hexec]
  exact ⟨And.left, fun hp => ⟨hp, Or.inl h⟩⟩

end Machine

end Nrf70
