import Mathlib.Algebra.Ring.Nat
import Mathlib.Data.List.Nodup
import Mathlib.Data.List.Range
import Mathlib.Logic.Function.Basic
import Nrf70.Lib.Machine

/-!
# Management frames and their cookies

`nrf_wifi_cfg80211_mgmt_tx` hands a host cookie to user space and sends the frame with it. The
firmware answers with the cookie it uses itself, and `nrf_wifi_cookie_rsp_callbk_fn` pushes the
pair on `cookie_list`. A TX status carries the firmware's cookie only;
`nrf_wifi_cfg80211_tx_status_callbk_fn` looks the host cookie up, removes the pair and reports.

The other party is the firmware. It answers each frame it took once, with a cookie that no frame
it has answered and not yet reported carries, and it reports each answered frame once. Frames are
numbered in the order of the calls. The number is carried by the firmware's side of the state and
by the events, and the driver never sees it.

## Main results

* `takeCookie_eq` — what the lookup returns and leaves when the firmware's cookies are distinct
* `mgmt_tx_cookies` — the cookie protocol, over every run of fewer than `2 ^ 64 - 1` calls
-/

namespace Nrf70

/-! ### The command -/

/-- `struct cfg80211_mgmt_tx_params`; `chan` is its centre frequency. -/
structure MgmtTxParams where
  offchan : Bool
  dontWaitForAck : Bool
  noCck : Bool
  chan : Option ℕ
  wait : ℕ
  buf : List UInt8
  deriving DecidableEq, Repr

/-- The frequencies of `freq_params`, which the driver fills with constants. -/
structure FreqParams where
  frequency : ℕ := 2412
  centerFrequency1 : ℕ := 2412
  centerFrequency2 : ℕ := 0
  deriving DecidableEq, Repr

/-- `struct nrf_wifi_umac_mgmt_tx_info`, its flags taken apart. -/
structure MgmtTxInfo where
  offchannelTxOk : Bool
  dontWaitForAck : Bool
  txNoCckRate : Bool
  frequency : ℕ
  dur : ℕ
  frame : List UInt8
  freqParams : FreqParams
  hostCookie : UInt64
  deriving DecidableEq, Repr

/-- The increment of `cmd_frame_cookie_g`, which skips zero. -/
def nextCookie (g : UInt64) : UInt64 := if g + 1 = 0 then g + 1 + 1 else g + 1

/-- `nrf_wifi_cfg80211_mgmt_tx` up to the command: the new `cmd_frame_cookie_g`, which is also the
cookie handed to user space, and what is sent. -/
def nrfWifiCfg80211MgmtTx (g : UInt64) (params : MgmtTxParams) : UInt64 × MgmtTxInfo :=
  let g := nextCookie g
  (g,
    { offchannelTxOk := params.offchan
      dontWaitForAck := params.dontWaitForAck
      txNoCckRate := params.noCck
      frequency := params.chan.getD 0
      dur := params.wait
      frame := params.buf
      freqParams := {}
      hostCookie := g })

/-! ### The cookie list -/

/-- `struct cookie_info`. -/
structure CookieInfo where
  hostCookie : UInt64
  rpuCookie : UInt64
  deriving DecidableEq, Repr

/-- `nrf_wifi_cookie_rsp_callbk_fn`, when its allocation succeeds: `list_add` is at the front. -/
def nrfWifiCookieRspCallbkFn (cookieList : List CookieInfo) (hostCookie cookie : UInt64) :
    List CookieInfo :=
  ⟨hostCookie, cookie⟩ :: cookieList

/-- The loop of `nrf_wifi_cfg80211_tx_status_callbk_fn`. Every entry with the cookie is removed,
and the host cookie of the last of them is kept. -/
def takeCookie (cookie : UInt64) : List CookieInfo → UInt64 → List CookieInfo × UInt64
  | [], hostCookie => ([], hostCookie)
  | info :: rest, hostCookie =>
    if info.rpuCookie ≠ cookie then
      let (rest, hostCookie) := takeCookie cookie rest hostCookie
      (info :: rest, hostCookie)
    else takeCookie cookie rest info.hostCookie

theorem takeCookie_fst (cookie : UInt64) (l : List CookieInfo) (host : UInt64) :
    (takeCookie cookie l host).1 = l.filter (·.rpuCookie ≠ cookie) := by
  induction l generalizing host with
  | nil => rfl
  | cons info rest ih =>
    by_cases h : info.rpuCookie = cookie <;> simp [takeCookie, h, ih]

/-- If all matching entries carry `c`, so does a lookup that starts from `c`. -/
theorem takeCookie_snd_self {cookie c : UInt64} {l : List CookieInfo}
    (h : ∀ info ∈ l, info.rpuCookie = cookie → info.hostCookie = c) :
    (takeCookie cookie l c).2 = c := by
  induction l with
  | nil => rfl
  | cons info rest ih =>
    have hrest := ih fun info' hmem => h info' (List.mem_cons_of_mem _ hmem)
    by_cases hm : info.rpuCookie = cookie
    · simp [takeCookie, hm, h info List.mem_cons_self hm, hrest]
    · simp [takeCookie, hm, hrest]

/-- **The lookup.** When all matching entries carry one host cookie and there is one, that is the
result, and the matching entries are gone. -/
theorem takeCookie_eq {cookie : UInt64} {info : CookieInfo} {l : List CookieInfo}
    (hmem : info ∈ l) (hm : info.rpuCookie = cookie)
    (h : ∀ info' ∈ l, info'.rpuCookie = cookie → info'.hostCookie = info.hostCookie)
    (host : UInt64) :
    takeCookie cookie l host = (l.filter (·.rpuCookie ≠ cookie), info.hostCookie) := by
  refine Prod.ext (takeCookie_fst cookie l host) ?_
  dsimp only
  induction l generalizing host with
  | nil => simp at hmem
  | cons head rest ih =>
    have hrest : ∀ info' ∈ rest, info'.rpuCookie = cookie → info'.hostCookie = info.hostCookie :=
      fun info' hmem => h info' (List.mem_cons_of_mem _ hmem)
    by_cases hhead : head.rpuCookie = cookie
    · -- from here on the running result is already right
      simp [takeCookie, hhead, h head List.mem_cons_self hhead, takeCookie_snd_self hrest]
    · have hmem' : info ∈ rest := by
        rcases List.mem_cons.mp hmem with rfl | hmem
        · exact absurd hm hhead
        · exact hmem
      simp [takeCookie, hhead, ih hmem' hrest]

/-! ### The two parties -/

/-- How far the firmware is with a frame. `accepted` and `responded` keep the host cookie the frame
came with, `responded` also the firmware's own. -/
inductive FrameState
  | absent
  | accepted (hostCookie : UInt64)
  | responded (hostCookie rpuCookie : UInt64)
  | reported
  deriving DecidableEq, Repr

/-- The pair of cookies of an answered frame. -/
def FrameState.cookieInfo : FrameState → CookieInfo
  | .responded h r => ⟨h, r⟩
  | _ => ⟨0, 0⟩

def FrameState.isResponded : FrameState → Bool
  | .responded _ _ => true
  | _ => false

/-- `calls` counts the calls of `mgmt_tx`, `frames` is the firmware's side. -/
structure MgmtState where
  cmdFrameCookieG : UInt64
  cookieList : List CookieInfo
  calls : ℕ
  frames : ℕ → FrameState

def MgmtState.init : MgmtState := ⟨0, [], 0, fun _ => .absent⟩

/-- `cookie` is what a call hands to user space; `txStatus` a call of `cfg80211_mgmt_tx_status` for
the status of frame `i`. -/
inductive MgmtEvent
  | cookie (i : ℕ) (cookie : UInt64)
  | txStatus (i : ℕ) (cookie : UInt64) (frame : List UInt8) (ack : Bool)
  deriving DecidableEq, Repr

inductive MgmtAct
  | mgmtTx (params : MgmtTxParams) (fmac : Bool)
  | cookieRsp (i : ℕ) (rpuCookie : UInt64)
  | txStatus (i : ℕ) (frame : List UInt8) (ack : Bool)
  deriving DecidableEq, Repr

/-- No answered and unreported frame among the first `calls` has this firmware cookie. -/
def MgmtState.rpuCookieFree (s : MgmtState) (r : UInt64) : Bool :=
  (List.range s.calls).all fun j => !((s.frames j).isResponded &&
    (s.frames j).cookieInfo.rpuCookie == r)

def mgmtStep (s : MgmtState) : MgmtAct → Option (MgmtState × List MgmtEvent)
  | .mgmtTx params fmac =>
    let (g, info) := nrfWifiCfg80211MgmtTx s.cmdFrameCookieG params
    some ({ s with
      cmdFrameCookieG := g
      calls := s.calls + 1
      frames := if fmac then Function.update s.frames s.calls (.accepted info.hostCookie)
        else s.frames }, [.cookie s.calls g])
  | .cookieRsp i r =>
    match s.frames i with
    | .accepted h =>
      if s.rpuCookieFree r then
        some ({ s with
          cookieList := nrfWifiCookieRspCallbkFn s.cookieList h r
          frames := Function.update s.frames i (.responded h r) }, [])
      else none
    | _ => none
  | .txStatus i frame ack =>
    match s.frames i with
    | .responded _ r =>
      let (cookieList, hostCookie) := takeCookie r s.cookieList 0
      some ({ s with
        cookieList := cookieList
        frames := Function.update s.frames i .reported }, [.txStatus i hostCookie frame ack])
    | _ => none

def mgmtMachine : Machine MgmtState MgmtAct MgmtEvent := ⟨mgmtStep⟩

/-! ### Reading a trace -/

/-- The cookies handed to user space, in order, each with the number of its call. -/
def MgmtEvent.cookies : List MgmtEvent → List (ℕ × UInt64)
  | [] => []
  | .cookie i c :: t => (i, c) :: cookies t
  | .txStatus .. :: t => cookies t

/-- How often the status of frame `i` was reported. -/
def MgmtEvent.reports (i : ℕ) : List MgmtEvent → ℕ
  | [] => 0
  | .cookie .. :: t => reports i t
  | .txStatus j _ _ _ :: t => (if j = i then 1 else 0) + reports i t

theorem MgmtEvent.cookies_append (t u : List MgmtEvent) :
    cookies (t ++ u) = cookies t ++ cookies u := by
  induction t with
  | nil => rfl
  | cons e t ih => cases e <;> simp [cookies, ih]

theorem MgmtEvent.reports_append (i : ℕ) (t u : List MgmtEvent) :
    reports i (t ++ u) = reports i t + reports i u := by
  induction t with
  | nil => simp [reports]
  | cons e t ih => cases e <;> simp [reports, ih, Nat.add_assoc]

/-! ### The invariant -/

/-- The cookie of the `i`-th call, as long as the counter has not wrapped. -/
def callCookie (i : ℕ) : UInt64 := UInt64.ofNat (i + 1)

theorem nextCookie_ofNat {n : ℕ} (h : n + 1 < 2 ^ 64) :
    nextCookie (UInt64.ofNat n) = callCookie n := by
  have hadd : UInt64.ofNat n + 1 = UInt64.ofNat (n + 1) := by rw [UInt64.ofNat_add]; rfl
  have hne : UInt64.ofNat (n + 1) ≠ 0 := by
    intro heq
    have := congrArg UInt64.toNat heq
    rw [UInt64.toNat_ofNat', Nat.mod_eq_of_lt h] at this
    simp at this
  rw [nextCookie, hadd, if_neg hne, callCookie]

theorem callCookie_ne_zero {i : ℕ} (h : i + 1 < 2 ^ 64) : callCookie i ≠ 0 := by
  intro heq
  have := congrArg UInt64.toNat heq
  rw [callCookie, UInt64.toNat_ofNat', Nat.mod_eq_of_lt h] at this
  simp at this

theorem callCookie_inj {i j : ℕ} (hi : i + 1 < 2 ^ 64) (hj : j + 1 < 2 ^ 64)
    (h : callCookie i = callCookie j) : i = j := by
  have := congrArg UInt64.toNat h
  rw [callCookie, callCookie, UInt64.toNat_ofNat', UInt64.toNat_ofNat', Nat.mod_eq_of_lt hi,
    Nat.mod_eq_of_lt hj] at this
  omega

/-- The host cookie a frame is known by at the firmware. -/
def FrameState.hostCookie : FrameState → Option UInt64
  | .accepted h | .responded h _ => some h
  | .absent | .reported => none

/-- `cookieList` holds one pair for each answered and unreported frame, and nothing else. -/
def ListExact (cookieList : List CookieInfo) (frames : ℕ → FrameState) : Prop :=
  ∃ idx : List ℕ, idx.Nodup ∧ (∀ i, i ∈ idx ↔ (frames i).isResponded = true) ∧
    cookieList = idx.map fun i => (frames i).cookieInfo

/-- What holds between the events so far, the driver and the firmware. -/
structure MgmtInv (t : List MgmtEvent) (s : MgmtState) : Prop where
  counter : s.cmdFrameCookieG = UInt64.ofNat s.calls
  cookies : MgmtEvent.cookies t = (List.range s.calls).map fun i => (i, callCookie i)
  called : ∀ i, s.frames i ≠ .absent → i < s.calls
  host : ∀ i h, (s.frames i).hostCookie = some h → h = callCookie i
  /-- The firmware's cookies of answered and unreported frames are distinct. -/
  rpu : ∀ i j, (s.frames i).isResponded = true → (s.frames j).isResponded = true →
    (s.frames i).cookieInfo.rpuCookie = (s.frames j).cookieInfo.rpuCookie → i = j
  list : ListExact s.cookieList s.frames
  reports : ∀ i, MgmtEvent.reports i t = if s.frames i = .reported then 1 else 0
  statuses : ∀ i c frame ack, .txStatus i c frame ack ∈ t → i < s.calls ∧ c = callCookie i

theorem MgmtInv.init : MgmtInv [] .init where
  counter := rfl
  cookies := rfl
  called := by simp [MgmtState.init]
  host := by simp [MgmtState.init, FrameState.hostCookie]
  rpu := by simp [MgmtState.init, FrameState.isResponded]
  list := ⟨[], List.nodup_nil, by simp [MgmtState.init, FrameState.isResponded], rfl⟩
  reports := by simp [MgmtEvent.reports, MgmtState.init]
  statuses := by simp

/-! ### What a change of one frame does to the pairs -/

section Pairs

variable {l : List CookieInfo} {frames : ℕ → FrameState} {k : ℕ}

theorem map_cookieInfo_update {idx : List ℕ} (hk : k ∉ idx) (f : FrameState) :
    (idx.map fun i => (Function.update frames k f i).cookieInfo) =
      idx.map fun i => (frames i).cookieInfo := by
  refine List.map_congr_left fun i hi => ?_
  rw [Function.update_of_ne (ne_of_mem_of_not_mem hi hk)]

/-- A frame without a pair stays without one. -/
theorem ListExact.update_other {f : FrameState} (h : ListExact l frames)
    (hk : (frames k).isResponded = false) (hf : f.isResponded = false) :
    ListExact l (Function.update frames k f) := by
  obtain ⟨idx, hnodup, hmem, rfl⟩ := h
  have hkidx : k ∉ idx := by simp [hmem, hk]
  refine ⟨idx, hnodup, fun i => ?_, (map_cookieInfo_update hkidx f).symm⟩
  by_cases hi : i = k
  · simp [hi, hkidx, hf]
  · simp [hi, hmem]

/-- A frame that is answered gets its pair, at the front. -/
theorem ListExact.push {h r : UInt64} (hl : ListExact l frames)
    (hk : (frames k).isResponded = false) :
    ListExact (⟨h, r⟩ :: l) (Function.update frames k (.responded h r)) := by
  obtain ⟨idx, hnodup, hmem, rfl⟩ := hl
  have hkidx : k ∉ idx := by simp [hmem, hk]
  refine ⟨k :: idx, List.nodup_cons.mpr ⟨hkidx, hnodup⟩, fun i => ?_, ?_⟩
  · by_cases hi : i = k
    · simp [hi, FrameState.isResponded]
    · simp [hi, hmem]
  · rw [List.map_cons, map_cookieInfo_update hkidx, Function.update_self]
    rfl

/-- A frame that is reported loses its pair: it is the only one with its cookie. -/
theorem ListExact.filter {f : FrameState} (hl : ListExact l frames) (hf : f.isResponded = false)
    (hrpu : ∀ i, (frames i).isResponded = true →
      (frames i).cookieInfo.rpuCookie = (frames k).cookieInfo.rpuCookie → i = k) :
    ListExact (l.filter (·.rpuCookie ≠ (frames k).cookieInfo.rpuCookie))
      (Function.update frames k f) := by
  obtain ⟨idx, hnodup, hmem, rfl⟩ := hl
  refine ⟨idx.filter (· ≠ k), hnodup.filter _, fun i => ?_, ?_⟩
  · by_cases hi : i = k
    · simp [hi, hf]
    · simp [hi, hmem]
  · rw [map_cookieInfo_update (by simp), List.filter_map]
    congr 1
    refine List.filter_congr fun i hi => ?_
    by_cases hik : i = k
    · simp [hik]
    · have hne : (frames i).cookieInfo.rpuCookie ≠ (frames k).cookieInfo.rpuCookie :=
        fun heq => hik (hrpu i ((hmem i).mp hi) heq)
      simp [hik, hne]

end Pairs

/-! ### Every step keeps the invariant -/

section Step

variable {t : List MgmtEvent} {s : MgmtState}

/-- The call of `mgmt_tx`, before the firmware takes the frame. -/
theorem MgmtInv.call (h : MgmtInv t s) (hlt : s.calls + 1 < 2 ^ 64) :
    MgmtInv (t ++ [.cookie s.calls (nextCookie s.cmdFrameCookieG)])
      { s with cmdFrameCookieG := nextCookie s.cmdFrameCookieG, calls := s.calls + 1 } := by
  have hnext : nextCookie s.cmdFrameCookieG = callCookie s.calls := by
    rw [h.counter, nextCookie_ofNat hlt]
  refine ⟨hnext, ?_, fun i hi => Nat.lt_succ_of_lt (h.called i hi), h.host, h.rpu, h.list,
    fun i => ?_, fun i c frame ack hmem => ?_⟩
  · rw [MgmtEvent.cookies_append, h.cookies, List.range_succ, List.map_append]
    simp [MgmtEvent.cookies, hnext]
  · rw [MgmtEvent.reports_append, h.reports]
    rfl
  · obtain ⟨hi, hc⟩ := h.statuses i c frame ack (by simpa using hmem)
    exact ⟨Nat.lt_succ_of_lt hi, hc⟩

/-- The firmware moves one frame on. -/
theorem MgmtInv.update {k : ℕ} {f : FrameState} {l : List CookieInfo} {u : List MgmtEvent}
    (h : MgmtInv t s) (hk : k < s.calls) (hhost : ∀ c, f.hostCookie = some c → c = callCookie k)
    (hrpu : ∀ j, j ≠ k → f.isResponded = true → (s.frames j).isResponded = true →
      (s.frames j).cookieInfo.rpuCookie ≠ f.cookieInfo.rpuCookie)
    (hlist : ListExact l (Function.update s.frames k f)) (hcu : MgmtEvent.cookies u = [])
    (hru : ∀ i, MgmtEvent.reports i (t ++ u) =
      if Function.update s.frames k f i = .reported then 1 else 0)
    (hsu : ∀ i c frame ack, .txStatus i c frame ack ∈ u → i < s.calls ∧ c = callCookie i) :
    MgmtInv (t ++ u) { s with cookieList := l, frames := Function.update s.frames k f } := by
  refine ⟨h.counter, ?_, fun i hi => ?_, fun i c hc => ?_, fun i j hi hj heq => ?_, hlist, hru,
    fun i c frame ack hmem => ?_⟩
  · rw [MgmtEvent.cookies_append, hcu, List.append_nil, h.cookies]
  · by_cases hik : i = k
    · exact hik ▸ hk
    · exact h.called i (by simpa [hik] using hi)
  · by_cases hik : i = k
    · subst hik
      exact hhost c (by simpa using hc)
    · exact h.host i c (by simpa [hik] using hc)
  · dsimp only at hi hj heq
    by_cases hik : i = k <;> by_cases hjk : j = k
    · rw [hik, hjk]
    · subst hik
      rw [Function.update_self] at hi heq
      rw [Function.update_of_ne hjk] at hj heq
      exact absurd heq.symm (hrpu j hjk hi hj)
    · subst hjk
      rw [Function.update_self] at hj heq
      rw [Function.update_of_ne hik] at hi heq
      exact absurd heq (hrpu i hik hj hi)
    · rw [Function.update_of_ne hik] at hi heq
      rw [Function.update_of_ne hjk] at hj heq
      exact h.rpu i j hi hj heq
  · rcases List.mem_append.mp hmem with hmem | hmem
    · exact h.statuses i c frame ack hmem
    · exact hsu i c frame ack hmem

theorem reports_update {k : ℕ} {f : FrameState} (h : MgmtInv t s) (hk : s.frames k ≠ .reported)
    (hf : f ≠ .reported) (i : ℕ) :
    MgmtEvent.reports i t = if Function.update s.frames k f i = .reported then 1 else 0 := by
  rw [h.reports]
  by_cases hi : i = k
  · simp [hi, hk, hf]
  · simp [hi]

/-- The firmware takes a frame. -/
theorem MgmtInv.accept {k : ℕ} (h : MgmtInv t s) (hk : k < s.calls) (hf : s.frames k = .absent) :
    MgmtInv t { s with frames := Function.update s.frames k (.accepted (callCookie k)) } := by
  have hinv := h.update (u := []) hk (f := .accepted (callCookie k)) (l := s.cookieList)
    (by simp [FrameState.hostCookie]) (by simp [FrameState.isResponded])
    (h.list.update_other (by simp [hf, FrameState.isResponded]) rfl) rfl
    (by simpa using reports_update h (by simp [hf]) (by simp)) (by simp)
  simpa using hinv

/-- The firmware answers a frame, with a cookie that is free. -/
theorem MgmtInv.respond {k : ℕ} {c r : UInt64} (h : MgmtInv t s) (hf : s.frames k = .accepted c)
    (hr : s.rpuCookieFree r = true) :
    MgmtInv (t ++ []) { s with
      cookieList := nrfWifiCookieRspCallbkFn s.cookieList c r
      frames := Function.update s.frames k (.responded c r) } := by
  have hc : c = callCookie k := h.host k c (by simp [hf, FrameState.hostCookie])
  refine h.update (h.called k (by simp [hf])) (by simp [FrameState.hostCookie, hc])
    (fun j _ _ hj heq => ?_) (h.list.push (by simp [hf, FrameState.isResponded])) rfl
    (by simpa using reports_update h (by simp [hf]) (by simp)) (by simp)
  -- a frame that is answered has been called for, so the firmware looked at its cookie
  have hlt : j < s.calls := h.called j fun hfalse => by simp [hfalse, FrameState.isResponded] at hj
  simp only [MgmtState.rpuCookieFree, List.all_eq_true, List.mem_range] at hr
  have hfree := hr j hlt
  simp only [hj, Bool.true_and, Bool.not_eq_true', beq_eq_false_iff_ne] at hfree
  exact hfree heq

/-- The lookup for an answered frame finds its host cookie, and removes its pair alone. -/
theorem MgmtInv.takeCookie {k : ℕ} {c r : UInt64} (h : MgmtInv t s)
    (hf : s.frames k = .responded c r) :
    Nrf70.takeCookie r s.cookieList 0 =
      (s.cookieList.filter (·.rpuCookie ≠ r), callCookie k) := by
  obtain ⟨idx, -, hmem, hlist⟩ := h.list
  have hc : c = callCookie k := h.host k c (by simp [hf, FrameState.hostCookie])
  have hk : (s.frames k).isResponded = true := by simp [hf, FrameState.isResponded]
  have hin : (⟨callCookie k, r⟩ : CookieInfo) ∈ s.cookieList := by
    rw [hlist]
    exact List.mem_map.mpr ⟨k, (hmem k).mpr hk, by simp [hf, FrameState.cookieInfo, hc]⟩
  refine takeCookie_eq hin rfl (fun info hinfo hr => ?_) 0
  rw [hlist] at hinfo
  obtain ⟨i, hi, rfl⟩ := List.mem_map.mp hinfo
  have hik : i = k := h.rpu i k ((hmem i).mp hi) hk (by rw [hr, hf]; rfl)
  simp [hik, hf, FrameState.cookieInfo, hc]

/-- The firmware reports an answered frame. -/
theorem MgmtInv.report {k : ℕ} {c r : UInt64} {frame : List UInt8} {ack : Bool}
    (h : MgmtInv t s) (hf : s.frames k = .responded c r) :
    MgmtInv (t ++ [.txStatus k (callCookie k) frame ack]) { s with
      cookieList := s.cookieList.filter (·.rpuCookie ≠ r)
      frames := Function.update s.frames k .reported } := by
  have hk : (s.frames k).isResponded = true := by simp [hf, FrameState.isResponded]
  have hr : (s.frames k).cookieInfo.rpuCookie = r := by simp [hf, FrameState.cookieInfo]
  have hlist := h.list.filter (k := k) (f := .reported) rfl fun i hi heq => h.rpu i k hi hk heq
  rw [hr] at hlist
  refine h.update (h.called k (by simp [hf])) (by simp [FrameState.hostCookie])
    (by simp [FrameState.isResponded]) hlist rfl (fun i => ?_) (fun i c frame ack hmem => ?_)
  · rw [MgmtEvent.reports_append, h.reports]
    by_cases hi : i = k
    · simp [hi, hf, MgmtEvent.reports]
    · simp [hi, Ne.symm hi, MgmtEvent.reports]
  · simp only [List.mem_singleton, MgmtEvent.txStatus.injEq] at hmem
    obtain ⟨rfl, rfl, -⟩ := hmem
    exact ⟨h.called _ (by simp [hf]), rfl⟩

theorem MgmtInv.step {s' : MgmtState} {a : MgmtAct} {u : List MgmtEvent} (h : MgmtInv t s)
    (hs : mgmtStep s a = some (s', u)) (hlt : s'.calls < 2 ^ 64) : MgmtInv (t ++ u) s' := by
  cases a with
  | mgmtTx params fmac =>
    simp only [mgmtStep, nrfWifiCfg80211MgmtTx, Option.some.injEq, Prod.mk.injEq] at hs
    obtain ⟨rfl, rfl⟩ := hs
    have hcall := h.call hlt
    cases fmac with
    | false => simpa using hcall
    | true =>
      have hnext : nextCookie s.cmdFrameCookieG = callCookie s.calls := by
        rw [h.counter, nextCookie_ofNat hlt]
      have habsent : s.frames s.calls = .absent := by
        by_contra hne
        exact absurd (h.called _ hne) (Nat.lt_irrefl _)
      have hacc := hcall.accept (k := s.calls) (Nat.lt_succ_self _) habsent
      simpa [hnext] using hacc
  | cookieRsp i r =>
    cases hf : s.frames i with
    | accepted c =>
      simp only [mgmtStep, hf, Option.ite_none_right_eq_some, Option.some.injEq,
        Prod.mk.injEq] at hs
      obtain ⟨hr, rfl, rfl⟩ := hs
      exact h.respond hf hr
    | _ => simp [mgmtStep, hf] at hs
  | txStatus i frame ack =>
    cases hf : s.frames i with
    | responded c r =>
      simp only [mgmtStep, hf, h.takeCookie hf, Option.some.injEq, Prod.mk.injEq] at hs
      obtain ⟨rfl, rfl⟩ := hs
      exact h.report hf
    | _ => simp [mgmtStep, hf] at hs

end Step

theorem mgmtStep_calls_le {s s' : MgmtState} {a : MgmtAct} {u : List MgmtEvent}
    (hs : mgmtStep s a = some (s', u)) : s.calls ≤ s'.calls := by
  cases a with
  | mgmtTx params fmac =>
    simp only [mgmtStep, Option.some.injEq, Prod.mk.injEq] at hs
    rw [← hs.1]
    exact Nat.le_succ _
  | cookieRsp i r =>
    cases hf : s.frames i <;> simp [mgmtStep, hf] at hs
    rw [← hs.2.1]
  | txStatus i frame ack =>
    cases hf : s.frames i <;> simp [mgmtStep, hf] at hs
    rw [← hs.1]

theorem MgmtInv.exec {acts : List MgmtAct} {s : MgmtState} {t : List MgmtEvent}
    (h : mgmtMachine.exec .init acts = some (s, t)) (hcalls : s.calls < 2 ^ 64) : MgmtInv t s := by
  refine mgmtMachine.exec_invariant (P := fun t s => s.calls < 2 ^ 64 → MgmtInv t s) (t := [])
    (fun hP hs hlt => ?_) (fun _ => MgmtInv.init) h hcalls
  exact (hP (Nat.lt_of_le_of_lt (mgmtStep_calls_le hs) hlt)).step hs hlt

/-- **The cookie protocol.** In every run of fewer than `2 ^ 64 - 1` calls:
each call hands one cookie to user space, and these are non-zero and pairwise distinct;
every reported status carries the cookie that was handed out for the frame it is about;
each frame is reported once if the firmware has sent its status, and not before;
and `cookie_list` holds exactly one pair for each frame that has been answered and whose status has
not come, made of the cookie handed out for it and the firmware's. -/
theorem mgmt_tx_cookies {acts : List MgmtAct} {s : MgmtState} {t : List MgmtEvent}
    (h : mgmtMachine.exec .init acts = some (s, t)) (hcalls : s.calls < 2 ^ 64 - 1) :
    ((MgmtEvent.cookies t).map Prod.fst = List.range s.calls ∧
      (∀ i c, (i, c) ∈ MgmtEvent.cookies t → c ≠ 0) ∧
      ((MgmtEvent.cookies t).map Prod.snd).Nodup) ∧
    (∀ i c frame ack, .txStatus i c frame ack ∈ t → (i, c) ∈ MgmtEvent.cookies t) ∧
    (∀ i, MgmtEvent.reports i t = if s.frames i = .reported then 1 else 0) ∧
    (∃ idx : List ℕ, idx.Nodup ∧
      (∀ i, i ∈ idx ↔ ∃ c r, s.frames i = .responded c r ∧ (i, c) ∈ MgmtEvent.cookies t) ∧
      s.cookieList = idx.map fun i => (s.frames i).cookieInfo) := by
  have hinv : MgmtInv t s := .exec h (by omega)
  have hmem : ∀ i, i < s.calls → (i, callCookie i) ∈ MgmtEvent.cookies t := by
    intro i hi
    rw [hinv.cookies]
    exact List.mem_map.mpr ⟨i, List.mem_range.mpr hi, rfl⟩
  refine ⟨⟨?_, fun i c hc => ?_, ?_⟩, fun i c frame ack hst => ?_, hinv.reports, ?_⟩
  · rw [hinv.cookies, List.map_map]
    exact List.map_id _
  · rw [hinv.cookies] at hc
    obtain ⟨j, hj, heq⟩ := List.mem_map.mp hc
    rw [← (Prod.mk.inj heq).2]
    exact callCookie_ne_zero (by have := List.mem_range.mp hj; omega)
  · rw [hinv.cookies, List.map_map]
    refine List.Nodup.map_on (fun i hi j hj heq => ?_) List.nodup_range
    have hi' := List.mem_range.mp hi
    have hj' := List.mem_range.mp hj
    exact callCookie_inj (by omega) (by omega) heq
  · obtain ⟨hi, rfl⟩ := hinv.statuses i c frame ack hst
    exact hmem i hi
  · obtain ⟨idx, hnodup, hidx, hlist⟩ := hinv.list
    refine ⟨idx, hnodup, fun i => ?_, hlist⟩
    rw [hidx]
    constructor
    · intro hresp
      cases hf : s.frames i with
      | responded c r =>
        have hc : c = callCookie i := hinv.host i c (by simp [hf, FrameState.hostCookie])
        exact ⟨c, r, rfl, hc ▸ hmem i (hinv.called i (by simp [hf]))⟩
      | _ => simp [hf, FrameState.isResponded] at hresp
    · rintro ⟨c, r, hf, -⟩
      simp [hf, FrameState.isResponded]

/-- A frame without channel or wait, of two bytes. -/
def shortFrame : MgmtTxParams := ⟨false, false, false, none, 0, [0xd0, 0x00]⟩

/-- Three calls, the second refused by FMAC; the third frame is reported before the first. -/
theorem mgmt_tx_cookies_out_of_order :
    ∃ s t, mgmtMachine.exec .init [.mgmtTx shortFrame true, .mgmtTx shortFrame false,
        .cookieRsp 0 9, .mgmtTx shortFrame true, .cookieRsp 2 5, .txStatus 2 [] true] =
        some (s, t) ∧
      .txStatus 2 3 [] true ∈ t ∧ (2, 3) ∈ MgmtEvent.cookies t ∧ s.cookieList = [⟨1, 9⟩] := by
  obtain ⟨s, t, h, hcalls, hst, hlist⟩ : ∃ s t, mgmtMachine.exec .init
      [.mgmtTx shortFrame true, .mgmtTx shortFrame false, .cookieRsp 0 9,
        .mgmtTx shortFrame true, .cookieRsp 2 5, .txStatus 2 [] true] = some (s, t) ∧
      s.calls < 2 ^ 64 - 1 ∧ .txStatus 2 3 [] true ∈ t ∧ s.cookieList = [⟨1, 9⟩] :=
    ⟨_, _, rfl, by decide, by decide, rfl⟩
  exact ⟨s, t, h, hst, (mgmt_tx_cookies h hcalls).2.1 2 3 [] true hst, hlist⟩

end Nrf70
