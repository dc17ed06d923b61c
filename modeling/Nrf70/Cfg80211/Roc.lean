import Nrf70.Cfg80211.MgmtTx

/-!
# Periods on a channel

User space asks to stay on a channel for a while, with a host cookie. The firmware answers with its
own cookie for the period, and the pair goes to `cookie_list`. It then reports that the period has
begun, and later that it is over, each time with its own cookie. The two callbacks look it up and
report to cfg80211 under the host cookie; the second one is also meant to take the pair off the
list.

The loop of `nrf_wifi_cfg80211_roc_cancel_callbk_fn` leaves at the pair it was looking for. The
report and the removal stand behind that, inside the loop, where no round gets to.

`openPeriods` is history: the periods the firmware has answered and not ended. It uses its cookies
again once a period is over.

## Main results

* `rocCancel_retires_iff` — what one call does
* `roc_run_iff` — the runs in which the list holds the open periods and every report is right
-/

namespace Nrf70

/-! ### The callbacks -/

/-- `struct nrf_wifi_event_remain_on_channel`. -/
structure EventRemainOnChannel where
  cookie : UInt64
  frequency : ℕ
  dur : ℕ
  deriving DecidableEq, Repr

/-- The calls of `cfg80211_ready_on_channel` and `cfg80211_remain_on_channel_expired`. A channel is
given by its frequency. -/
inductive RocReport
  | readyOnChannel (hostCookie : UInt64) (frequency dur : ℕ)
  | remainOnChannelExpired (hostCookie : UInt64) (frequency : ℕ)
  deriving DecidableEq, Repr

/-- The first entry with a cookie. -/
def findCookie (cookie : UInt64) (cookieList : List CookieInfo) : Option CookieInfo :=
  cookieList.find? (·.rpuCookie = cookie)

/-- `nrf_wifi_cfg80211_roc_callbk_fn`. -/
def nrfWifiCfg80211RocCallbkFn (cookieList : List CookieInfo) (event : EventRemainOnChannel) :
    List RocReport :=
  match findCookie event.cookie cookieList with
  | some info => [.readyOnChannel info.hostCookie event.frequency event.dur]
  | none => []

/-- `nrf_wifi_cfg80211_roc_cancel_callbk_fn`. -/
def nrfWifiCfg80211RocCancelCallbkFn (event : EventRemainOnChannel) :
    List CookieInfo → List CookieInfo × List RocReport
  | [] => ([], [])
  | info :: rest =>
    -- an entry is never NULL, so a round ends here: with `continue` or with `break`
    if info.rpuCookie ≠ event.cookie then
      let (rest, reports) := nrfWifiCfg80211RocCancelCallbkFn event rest
      (info :: rest, reports)
    else (info :: rest, [])

/-- Whatever the list, nothing is reported and nothing is removed. -/
@[simp] theorem rocCancel_eq (event : EventRemainOnChannel) (l : List CookieInfo) :
    nrfWifiCfg80211RocCancelCallbkFn event l = (l, []) := by
  induction l with
  | nil => rfl
  | cons info rest ih =>
    by_cases h : info.rpuCookie = event.cookie
    · simp [nrfWifiCfg80211RocCancelCallbkFn, h]
    · simp [nrfWifiCfg80211RocCancelCallbkFn, h, ih]

/-! ### One call -/

/-- The end of a period is reported under the host cookie of its entry, and that entry is removed;
an event without an entry does nothing. -/
structure RetiresCookie (event : EventRemainOnChannel) (l : List CookieInfo) : Prop where
  found : ∀ info ∈ l, info.rpuCookie = event.cookie →
    nrfWifiCfg80211RocCancelCallbkFn event l =
      (l.erase info, [.remainOnChannelExpired info.hostCookie event.frequency])
  absent : (∀ info ∈ l, info.rpuCookie ≠ event.cookie) →
    nrfWifiCfg80211RocCancelCallbkFn event l = (l, [])

/-- A call does what it should exactly when there is nothing to do. -/
theorem rocCancel_retires_iff (event : EventRemainOnChannel) (l : List CookieInfo) :
    RetiresCookie event l ↔ ∀ info ∈ l, info.rpuCookie ≠ event.cookie := by
  constructor
  · intro h info hmem hcookie
    have hreport := h.found info hmem hcookie
    simp at hreport
  · intro h
    exact ⟨fun info hmem hcookie => absurd hcookie (h info hmem), fun _ => rocCancel_eq event l⟩

/-! ### Runs -/

/-- The list, and the periods that have been answered and are not over, the newest first. -/
structure RocState where
  cookieList : List CookieInfo
  openPeriods : List CookieInfo
  deriving DecidableEq, Repr

def RocState.init : RocState := ⟨[], []⟩

/-- The three events of the firmware. -/
inductive RocAct
  | cookieRsp (hostCookie cookie : UInt64)
  | roc (event : EventRemainOnChannel)
  | rocCancel (event : EventRemainOnChannel)
  deriving DecidableEq, Repr

/-- The firmware answers with a cookie that no open period has. -/
def rocStep (s : RocState) : RocAct → Option (RocState × List RocReport)
  | .cookieRsp hostCookie cookie =>
    match findCookie cookie s.openPeriods with
    | some _ => none
    | none =>
      some (⟨nrfWifiCookieRspCallbkFn s.cookieList hostCookie cookie,
        ⟨hostCookie, cookie⟩ :: s.openPeriods⟩, [])
  | .roc event => some (s, nrfWifiCfg80211RocCallbkFn s.cookieList event)
  | .rocCancel event =>
    let (cookieList, reports) := nrfWifiCfg80211RocCancelCallbkFn event s.cookieList
    some (⟨cookieList, s.openPeriods.filter (·.rpuCookie ≠ event.cookie)⟩, reports)

def rocMachine : Machine RocState RocAct RocReport := ⟨rocStep⟩

/-- What is to be reported for an event: the begin and the end of an open period, both under the
host cookie it was answered with. -/
def RocAct.expected (openPeriods : List CookieInfo) : RocAct → List RocReport
  | .cookieRsp _ _ => []
  | .roc event =>
    ((findCookie event.cookie openPeriods).map fun info =>
      .readyOnChannel info.hostCookie event.frequency event.dur).toList
  | .rocCancel event =>
    ((findCookie event.cookie openPeriods).map fun info =>
      .remainOnChannelExpired info.hostCookie event.frequency).toList

/-- The list holds the periods that are not over, and no others. -/
def RocState.ListsOpen (s : RocState) : Prop := s.cookieList = s.openPeriods

/-- A step reports what it should. -/
def RocState.ReportsRight (s : RocState) (a : RocAct) : Prop :=
  ∀ s' u, rocStep s a = some (s', u) → u = a.expected s.openPeriods

/-- The step does not end an open period. -/
def RocState.EndsNone (s : RocState) : RocAct → Prop
  | .rocCancel event => ∀ info ∈ s.openPeriods, info.rpuCookie ≠ event.cookie
  | .cookieRsp _ _ | .roc _ => True

instance (s : RocState) (a : RocAct) : Decidable (s.EndsNone a) :=
  match a with
  | .rocCancel event =>
    inferInstanceAs (Decidable (∀ info ∈ s.openPeriods, info.rpuCookie ≠ event.cookie))
  | .cookieRsp _ _ | .roc _ => isTrue trivial

section Steps

variable {s s' : RocState} {a : RocAct} {u : List RocReport}

theorem findCookie_eq_none_iff {cookie : UInt64} {l : List CookieInfo} :
    findCookie cookie l = none ↔ ∀ info ∈ l, info.rpuCookie ≠ cookie := by
  simp [findCookie]

/-- **A step keeps the list that of the open periods exactly when it ends none of them.** -/
theorem rocStep_listsOpen (h : s.ListsOpen) (hs : rocStep s a = some (s', u)) :
    s'.ListsOpen ↔ s.EndsNone a := by
  rw [RocState.ListsOpen] at h
  cases a with
  | cookieRsp hostCookie cookie =>
    rw [rocStep] at hs
    split at hs
    · simp at hs
    · simp only [Option.some.injEq, Prod.mk.injEq] at hs
      obtain ⟨rfl, -⟩ := hs
      simp [RocState.ListsOpen, RocState.EndsNone, nrfWifiCookieRspCallbkFn, h]
  | roc event =>
    simp only [rocStep, Option.some.injEq, Prod.mk.injEq] at hs
    obtain ⟨rfl, -⟩ := hs
    exact iff_of_true h trivial
  | rocCancel event =>
    simp only [rocStep, rocCancel_eq, Option.some.injEq, Prod.mk.injEq] at hs
    obtain ⟨rfl, -⟩ := hs
    rw [RocState.ListsOpen, RocState.EndsNone, h, eq_comm, List.filter_eq_self]
    simp

/-- With the list in order, a step that ends no open period reports what it should. -/
theorem RocState.EndsNone.reportsRight (ha : s.EndsNone a) (h : s.ListsOpen) :
    s.ReportsRight a := by
  intro s' u hs
  rw [RocState.ListsOpen] at h
  cases a with
  | cookieRsp hostCookie cookie =>
    rw [rocStep] at hs
    split at hs
    · simp at hs
    · simp only [Option.some.injEq, Prod.mk.injEq] at hs
      exact hs.2.symm
  | roc event =>
    simp only [rocStep, Option.some.injEq, Prod.mk.injEq] at hs
    rw [← hs.2, h, RocAct.expected, nrfWifiCfg80211RocCallbkFn]
    cases findCookie event.cookie s.openPeriods <;> rfl
  | rocCancel event =>
    simp only [rocStep, rocCancel_eq, Option.some.injEq, Prod.mk.injEq] at hs
    rw [← hs.2, RocAct.expected, findCookie_eq_none_iff.mpr ha]
    rfl

end Steps

/-- **The end of a period is never reported.** One call of the cancel callback does what it should
exactly when no entry has the cookie of the event. In a run, the list holds exactly the open periods
and every report is right, the begin and the end of a period under one host cookie, if and only if
no event ends a period. -/
theorem roc_run_iff {acts : List RocAct} {s : RocState} {t : List RocReport}
    (h : rocMachine.exec .init acts = some (s, t)) :
    (∀ event l, RetiresCookie event l ↔ ∀ info ∈ l, info.rpuCookie ≠ event.cookie) ∧
    (rocMachine.Throughout RocState.ListsOpen .init acts ∧
        rocMachine.Along RocState.ReportsRight .init acts ↔
      rocMachine.Along RocState.EndsNone .init acts) := by
  have hinit : RocState.init.ListsOpen := rfl
  have hiff := rocMachine.throughout_iff_along (P := RocState.ListsOpen)
    (fun hP hs => rocStep_listsOpen hP hs) hinit h
  refine ⟨rocCancel_retires_iff, fun hright => hiff.mp hright.1, fun hnone => ?_⟩
  have hthr := hiff.mpr hnone
  have hlists : rocMachine.Along (fun s _ => s.ListsOpen) .init acts :=
    rocMachine.along_of_throughout (fun _ _ hP => hP) hthr
  have hboth := rocMachine.along_and.mpr ⟨hnone, hlists⟩
  exact ⟨hthr, rocMachine.along_mono (fun _ _ hok => hok.1.reportsRight hok.2) hboth⟩

/-- A period is answered and begins, and the cancel event that follows is for another cookie; or it
is for that period. -/
theorem roc_run_iff_cancelled :
    let begun : List RocAct := [.cookieRsp 1 9, .roc ⟨9, 2412, 100⟩]
    let right : List RocAct → Prop := fun acts =>
      rocMachine.Throughout RocState.ListsOpen .init acts ∧
        rocMachine.Along RocState.ReportsRight .init acts
    right (begun ++ [.rocCancel ⟨8, 2437, 0⟩]) ∧ ¬ right (begun ++ [.rocCancel ⟨9, 2412, 0⟩]) := by
  intro begun right
  obtain ⟨s, t, hother⟩ : ∃ s t,
      rocMachine.exec .init (begun ++ [.rocCancel ⟨8, 2437, 0⟩]) = some (s, t) := ⟨_, _, rfl⟩
  obtain ⟨s', t', hsame⟩ : ∃ s t,
      rocMachine.exec .init (begun ++ [.rocCancel ⟨9, 2412, 0⟩]) = some (s, t) := ⟨_, _, rfl⟩
  constructor
  · exact (roc_run_iff hother).2.mpr (by decide)
  · exact (roc_run_iff hsame).2.not.mpr (by decide)

/-- A period is answered, begins and ends: nobody is told, and its entry stays. -/
theorem roc_end_not_reported :
    ¬ RetiresCookie ⟨9, 2412, 0⟩ [⟨1, 9⟩] ∧
      rocMachine.exec .init [.cookieRsp 1 9, .roc ⟨9, 2412, 100⟩, .rocCancel ⟨9, 2412, 0⟩] =
        some (⟨[⟨1, 9⟩], []⟩, [.readyOnChannel 1 2412 100]) := by
  refine ⟨?_, by decide⟩
  rw [rocCancel_retires_iff]
  decide

end Nrf70
