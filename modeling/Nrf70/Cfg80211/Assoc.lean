import Nrf70.Lib.ErrorExit
import Nrf70.Lib.Machine

/-!
# The BSS an interface remembers

`nrf_wifi_cfg80211_assoc` stores the BSS of the request in `vif_ctx_lnx->bss`, and
`nrf_wifi_cfg80211_assoc_resp_callbk_fn` reports the firmware's answer against whatever is stored
there. The pointer is therefore meant to be the BSS of the live association. It is stored before
any of the checks on the request, though, so a request that is refused leaves it behind; and
`nrf_wifi_cfg80211_disassoc` takes it back while `nrf_wifi_cfg80211_deauth` does not.

`live` is history: the BSS of the last association that was accepted and not torn down since.

## What is outside the repository

`cfg80211_find_ie` is the kernel's: it walks the elements and gives up at the first one that does
not fit. FMAC's commands are events with their outcomes. The two size limits are nrfxlib's, and
parameters here.

## Main results

* `assoc_error_eq_none` — when an association request is accepted
* `bss_live_iff` — the stored BSS is the live one throughout a run exactly when every refused
  request is for the BSS already stored and no deauthentication succeeds while one is stored
-/

namespace Nrf70

/-! ### Information elements -/

/-- `WLAN_EID_SSID`. -/
def wlanEidSsid : UInt8 := 0

/-- `cfg80211_find_ie` after `skip` bytes of an element that did not match. The result runs from
the element found to the end of the data. -/
def cfg80211FindIeFrom (eid : UInt8) : ℕ → List UInt8 → Option (List UInt8)
  | _, [] => none
  | skip + 1, _ :: ies => cfg80211FindIeFrom eid skip ies
  | 0, id :: ies =>
    match ies with
    | [] => none
    | datalen :: data =>
      if data.length < datalen.toNat then none
      else if id = eid then some (id :: datalen :: data)
      else cfg80211FindIeFrom eid (datalen.toNat + 1) (datalen :: data)

/-- `cfg80211_find_ie`. -/
def cfg80211FindIe (eid : UInt8) (ies : List UInt8) : Option (List UInt8) :=
  cfg80211FindIeFrom eid 0 ies

/-- The element found has the id asked for and fits into the data. -/
theorem cfg80211FindIeFrom_eq_some {eid : UInt8} {skip : ℕ} {ies ie : List UInt8}
    (h : cfg80211FindIeFrom eid skip ies = some ie) :
    ∃ datalen data, ie = eid :: datalen :: data ∧ datalen.toNat ≤ data.length := by
  induction ies generalizing skip with
  | nil => simp [cfg80211FindIeFrom] at h
  | cons id ies ih =>
    cases skip with
    | succ skip => exact ih h
    | zero =>
      cases ies with
      | nil => simp [cfg80211FindIeFrom] at h
      | cons datalen data =>
        rw [cfg80211FindIeFrom] at h
        split_ifs at h with hlen hid
        · rw [Option.some.injEq] at h
          exact ⟨datalen, data, hid ▸ h.symm, Nat.le_of_not_lt hlen⟩
        · exact ih h

/-- What `auth` and `assoc` ask of `ssid_ie`: to be there, and to end inside the data. -/
def ssidIeValidIn (ies : List UInt8) : Bool :=
  match cfg80211FindIe wlanEidSsid ies with
  | some (_ :: len :: body) => decide (2 ≤ ies.length ∧ len.toNat ≤ body.length)
  | _ => false

/-- The bytes behind the length byte, as many as it says. -/
def ssidIn (ies : List UInt8) : List UInt8 :=
  match cfg80211FindIe wlanEidSsid ies with
  | some (_ :: len :: body) => body.take len.toNat
  | _ => []

/-- `ssid_ie[1]`, which becomes `nrf_wifi_ssid_len`. -/
def ssidLenIn (ies : List UInt8) : ℕ :=
  match cfg80211FindIe wlanEidSsid ies with
  | some (_ :: len :: _) => len.toNat
  | _ => 0

/-- A valid SSID element has as many bytes as its length byte says. -/
theorem length_ssidIn {ies : List UInt8} (h : ssidIeValidIn ies = true) :
    (ssidIn ies).length = ssidLenIn ies := by
  rw [ssidIeValidIn] at h
  rw [ssidIn, ssidLenIn]
  cases hie : cfg80211FindIe wlanEidSsid ies with
  | none => simp [hie] at h
  | some ie =>
    obtain ⟨datalen, data, rfl, hlen⟩ := cfg80211FindIeFrom_eq_some hie
    exact List.length_take_of_le hlen

/-! ### Requests -/

/-- `NRF_WIFI_MAX_SSID_LEN` and `NRF_WIFI_MAX_IE_LEN`. -/
structure UmacLimits where
  maxSsidLen : ℕ
  maxIeLen : ℕ
  deriving DecidableEq, Repr

/-- `struct cfg80211_assoc_request`, with what its `bss` points to: `B` is the type of pointers to
a BSS, and `bssIes` is `none` for NULL `ies`. -/
structure AssocRequest (B : Type) where
  bss : B
  centerFreq : ℕ
  bssid : List UInt8
  bssIes : Option (List UInt8)
  ie : List UInt8
  useMfp : Bool
  controlPort : Bool
  deriving DecidableEq, Repr

/-- `struct cfg80211_deauth_request` and `struct cfg80211_disassoc_request`. `addr` is the
address of the peer. -/
structure DisconnRequest where
  addr : List UInt8
  reasonCode : ℕ
  localStateChange : Bool
  deriving DecidableEq, Repr

/-- What a call does not control: its allocation, and FMAC's answer to its command. -/
structure CmdOutcome where
  alloc : Bool
  fmac : Bool
  deriving DecidableEq, Repr

/-- `struct nrf_wifi_umac_assoc_info`. -/
structure UmacAssocInfo where
  centerFrequency : ℕ
  bssid : List UInt8
  ssid : List UInt8
  wpaIe : List UInt8
  useMfp : Bool
  controlPort : Bool
  deriving DecidableEq, Repr

/-- The commands handed to FMAC, with its answers, and the reports to cfg80211. -/
inductive MlmeEvent (B : Type)
  | fmacAssoc (info : UmacAssocInfo) (ok : Bool)
  | fmacDeauth (req : DisconnRequest) (ok : Bool)
  | fmacDisassoc (req : DisconnRequest) (ok : Bool)
  | disconnected (reasonCode : ℕ)
  | rxAssocResp (bss : Option B) (frame : List UInt8)
  deriving DecidableEq, Repr

/-- The part of `struct nrf_wifi_fmac_vif_ctx_lnx` these functions write. -/
structure MlmeCtx (B : Type) where
  bss : Option B
  deriving DecidableEq, Repr

variable {B : Type}

namespace AssocRequest

variable (req : AssocRequest B)

/-- The bytes of the BSS's elements, none for NULL. -/
def ies : List UInt8 := req.bssIes.getD []

def ssidIeValid : Bool := ssidIeValidIn req.ies

def ssid : List UInt8 := ssidIn req.ies

def ssidLen : ℕ := ssidLenIn req.ies

/-- The command the request turns into. -/
def info : UmacAssocInfo where
  centerFrequency := req.centerFreq
  bssid := req.bssid
  ssid := req.ssid
  wpaIe := req.ie
  useMfp := req.useMfp
  controlPort := req.controlPort

end AssocRequest

/-- `EINVAL`. -/
def einval : ℤ := 22

/-- The checks of `nrf_wifi_cfg80211_assoc`, in order, with the status each one fails with. -/
def assocChecks (lim : UmacLimits) (req : AssocRequest B) (alloc : Bool) : List (Option ℤ) :=
  [checkThat (alloc = true) (-1),
    -- missing BSS IEs
    checkThat (req.ies ≠ []) (-einval),
    -- invalid SSID IE
    checkThat (req.ssidIeValid = true) (-einval),
    checkThat (req.ssidLen ≤ lim.maxSsidLen) (-1),
    checkThat (req.ie.length ≤ lim.maxIeLen) (-einval)]

/-! ### The calls -/

/-- `nrf_wifi_cfg80211_assoc`. The BSS is stored first. -/
def nrfWifiCfg80211Assoc (lim : UmacLimits) (c : MlmeCtx B) (req : AssocRequest B)
    (o : CmdOutcome) : Outcome (MlmeCtx B) (MlmeEvent B) ℤ :=
  let c := { c with bss := some req.bss }
  match firstError (assocChecks lim req o.alloc) with
  | some status => .fail c status
  | none => ⟨c, [.fmacAssoc req.info o.fmac], if o.fmac then none else some (-1)⟩

/-- `nrf_wifi_cfg80211_deauth`. -/
def nrfWifiCfg80211Deauth (c : MlmeCtx B) (req : DisconnRequest) (o : CmdOutcome) :
    Outcome (MlmeCtx B) (MlmeEvent B) ℤ :=
  if !o.alloc then .fail c (-1)
  else if !o.fmac then ⟨c, [.fmacDeauth req false], some (-1)⟩
  else ⟨c, [.fmacDeauth req true, .disconnected req.reasonCode], none⟩

/-- `nrf_wifi_cfg80211_disassoc`. -/
def nrfWifiCfg80211Disassoc (c : MlmeCtx B) (req : DisconnRequest) (o : CmdOutcome) :
    Outcome (MlmeCtx B) (MlmeEvent B) ℤ :=
  if !o.alloc then .fail c (-1)
  else if !o.fmac then ⟨c, [.fmacDisassoc req false], some (-1)⟩
  else ⟨{ c with bss := none }, [.fmacDisassoc req true, .disconnected req.reasonCode], none⟩

/-- `nrf_wifi_cfg80211_assoc_resp_callbk_fn`. -/
def nrfWifiCfg80211AssocRespCallbkFn (c : MlmeCtx B) (frame : List UInt8) :
    Outcome (MlmeCtx B) (MlmeEvent B) ℤ :=
  ⟨c, [.rxAssocResp c.bss frame], none⟩

/-! ### What the calls do -/

section Calls

variable {lim : UmacLimits} {c : MlmeCtx B} {req : AssocRequest B} {o : CmdOutcome}

/-- A request that passes every check and that FMAC takes. -/
def Accepted (lim : UmacLimits) (req : AssocRequest B) (o : CmdOutcome) : Prop :=
  o.alloc = true ∧ req.ies ≠ [] ∧ req.ssidIeValid = true ∧ req.ssidLen ≤ lim.maxSsidLen ∧
    req.ie.length ≤ lim.maxIeLen ∧ o.fmac = true

instance : Decidable (Accepted lim req o) := inferInstanceAs (Decidable (_ ∧ _))

theorem firstError_assocChecks_eq_none {alloc : Bool} :
    firstError (assocChecks lim req alloc) = none ↔
      alloc = true ∧ req.ies ≠ [] ∧ req.ssidIeValid = true ∧ req.ssidLen ≤ lim.maxSsidLen ∧
        req.ie.length ≤ lim.maxIeLen := by
  rw [firstError_eq_none]
  simp only [assocChecks, List.forall_mem_cons, checkThat_eq_none, List.not_mem_nil,
    false_imp_iff, implies_true, and_true]

/-- **When an association request is accepted.** -/
theorem assoc_error_eq_none :
    (nrfWifiCfg80211Assoc lim c req o).error = none ↔ Accepted lim req o := by
  have hchecks : firstError (assocChecks lim req o.alloc) = none ↔ _ :=
    firstError_assocChecks_eq_none
  rw [nrfWifiCfg80211Assoc, Accepted]
  cases he : firstError (assocChecks lim req o.alloc) with
  | some status =>
    have hfail : ¬ _ := hchecks.not.mp (by simp [he])
    refine iff_of_false (by simp) fun hacc => hfail ?_
    obtain ⟨halloc, hies, hvalid, hssid, hie, -⟩ := hacc
    exact ⟨halloc, hies, hvalid, hssid, hie⟩
  | none =>
    obtain ⟨halloc, hies, hvalid, hssid, hie⟩ := hchecks.mp he
    simp [halloc, hies, hvalid, hssid, hie]

/-- Accepted or refused, the BSS of the request is stored. -/
@[simp] theorem assoc_bss : (nrfWifiCfg80211Assoc lim c req o).state.bss = some req.bss := by
  simp only [nrfWifiCfg80211Assoc]
  cases firstError (assocChecks lim req o.alloc) <;> rfl

/-- **Every association command is within FMAC's limits.** -/
theorem assoc_within_limits {info : UmacAssocInfo} {ok : Bool}
    (h : .fmacAssoc info ok ∈ (nrfWifiCfg80211Assoc lim c req o).events) :
    info.ssid.length ≤ lim.maxSsidLen ∧ info.wpaIe.length ≤ lim.maxIeLen := by
  rw [nrfWifiCfg80211Assoc] at h
  cases he : firstError (assocChecks lim req o.alloc) with
  | some status => simp [he] at h
  | none =>
    obtain ⟨-, -, hvalid, hssid, hie⟩ := firstError_assocChecks_eq_none.mp he
    simp only [he, List.mem_singleton, MlmeEvent.fmacAssoc.injEq] at h
    obtain ⟨rfl, -⟩ := h
    exact ⟨(length_ssidIn hvalid).trans_le hssid, hie⟩

end Calls

/-! ### Every sequence of calls and responses -/

/-- The three calls, and an association response from the firmware. -/
inductive MlmeAct (B : Type)
  | assoc (req : AssocRequest B) (o : CmdOutcome)
  | deauth (req : DisconnRequest) (o : CmdOutcome)
  | disassoc (req : DisconnRequest) (o : CmdOutcome)
  | assocResp (frame : List UInt8)
  deriving DecidableEq, Repr

/-- The call or callback an action stands for. -/
def MlmeAct.run (lim : UmacLimits) (c : MlmeCtx B) :
    MlmeAct B → Outcome (MlmeCtx B) (MlmeEvent B) ℤ
  | .assoc req o => nrfWifiCfg80211Assoc lim c req o
  | .deauth req o => nrfWifiCfg80211Deauth c req o
  | .disassoc req o => nrfWifiCfg80211Disassoc c req o
  | .assocResp frame => nrfWifiCfg80211AssocRespCallbkFn c frame

/-- The BSS of the live association after an action that went through. -/
def MlmeAct.liveAfter (live : Option B) : MlmeAct B → Option B
  | .assoc req _ => some req.bss
  | .deauth _ _ | .disassoc _ _ => none
  | .assocResp _ => live

/-- The interface, and the BSS of the live association. -/
structure MlmeState (B : Type) where
  ctx : MlmeCtx B
  live : Option B
  deriving DecidableEq, Repr

def mlmeStep (lim : UmacLimits) (s : MlmeState B) (a : MlmeAct B) :
    Option (MlmeState B × List (MlmeEvent B)) :=
  let r := a.run lim s.ctx
  some (⟨r.state, if r.error = none then a.liveAfter s.live else s.live⟩, r.events)

def mlmeMachine (B : Type) (lim : UmacLimits) : Machine (MlmeState B) (MlmeAct B) (MlmeEvent B) :=
  ⟨mlmeStep lim⟩

/-- An interface that has never been associated. -/
def MlmeState.init (B : Type) : MlmeState B := ⟨⟨none⟩, none⟩

section Properties

variable (lim : UmacLimits) (s : MlmeState B) (a : MlmeAct B)

/-- The stored BSS is that of the live association. -/
def MlmeState.StoresLive : Prop := s.ctx.bss = s.live

/-- A call that returns a nonzero value leaves the stored BSS as it was. -/
def MlmeState.KeepsOnFailure : Prop :=
  (a.run lim s.ctx).error ≠ none → (a.run lim s.ctx).state.bss = s.ctx.bss

/-- A response is reported against the BSS of the live association. -/
def MlmeState.ReportsLive : Prop :=
  ∀ bss frame, .rxAssocResp bss frame ∈ (a.run lim s.ctx).events → bss = s.live

/-- The action is neither a refused request for another BSS than the stored one nor a successful
deauthentication while a BSS is stored. -/
def MlmeState.Tidy : MlmeAct B → Prop
  | .assoc req o => Accepted lim req o ∨ s.ctx.bss = some req.bss
  | .deauth _ o => (o.alloc = true ∧ o.fmac = true) → s.ctx.bss = none
  | .disassoc _ _ | .assocResp _ => True

instance [DecidableEq B] : Decidable (s.Tidy lim a) :=
  match a with
  | .assoc _ _ => inferInstanceAs (Decidable (_ ∨ _))
  | .deauth _ _ => inferInstanceAs (Decidable (_ → _))
  | .disassoc _ _ | .assocResp _ => isTrue trivial

end Properties

variable {lim : UmacLimits} {s s' : MlmeState B} {a : MlmeAct B} {u : List (MlmeEvent B)}

theorem deauth_error_eq_none {c : MlmeCtx B} {req : DisconnRequest} {o : CmdOutcome} :
    (nrfWifiCfg80211Deauth c req o).error = none ↔ o.alloc = true ∧ o.fmac = true := by
  rw [nrfWifiCfg80211Deauth]
  cases o.alloc <;> cases o.fmac <;> simp

@[simp] theorem deauth_state {c : MlmeCtx B} {req : DisconnRequest} {o : CmdOutcome} :
    (nrfWifiCfg80211Deauth c req o).state = c := by
  rw [nrfWifiCfg80211Deauth]
  cases o.alloc <;> cases o.fmac <;> rfl

theorem disassoc_bss {c : MlmeCtx B} {req : DisconnRequest} {o : CmdOutcome} :
    (nrfWifiCfg80211Disassoc c req o).state.bss =
      if (nrfWifiCfg80211Disassoc c req o).error = none then none else c.bss := by
  rw [nrfWifiCfg80211Disassoc]
  cases o.alloc <;> cases o.fmac <;> rfl

/-- **One action keeps the stored BSS the live one exactly when it is tidy.** -/
theorem mlmeStep_storesLive (h : s.StoresLive) (hs : mlmeStep lim s a = some (s', u)) :
    s'.StoresLive ↔ s.Tidy lim a := by
  rw [MlmeState.StoresLive] at h
  simp only [mlmeStep, Option.some.injEq, Prod.mk.injEq] at hs
  obtain ⟨rfl, -⟩ := hs
  cases a with
  | assoc req o =>
    simp only [MlmeState.StoresLive, MlmeState.Tidy, MlmeAct.run, MlmeAct.liveAfter, assoc_bss,
      assoc_error_eq_none, ← h]
    split_ifs with hacc
    · exact iff_of_true rfl (Or.inl hacc)
    · exact ⟨fun hbss => Or.inr hbss.symm, fun ht => (ht.resolve_left hacc).symm⟩
  | deauth req o =>
    simp only [MlmeState.StoresLive, MlmeState.Tidy, MlmeAct.run, MlmeAct.liveAfter,
      deauth_state, deauth_error_eq_none, ← h]
    split_ifs with hok
    · exact ⟨fun hbss _ => hbss, fun ht => ht hok⟩
    · exact iff_of_true rfl fun hok' => absurd hok' hok
  | disassoc req o =>
    simp only [MlmeState.StoresLive, MlmeState.Tidy, MlmeAct.run, MlmeAct.liveAfter,
      disassoc_bss, ← h]
  | assocResp frame =>
    simpa [MlmeState.StoresLive, MlmeState.Tidy, MlmeAct.run, MlmeAct.liveAfter,
      nrfWifiCfg80211AssocRespCallbkFn] using h

/-- A tidy action that fails leaves the stored BSS as it was. -/
theorem MlmeState.Tidy.keepsOnFailure (h : s.Tidy lim a) : s.KeepsOnFailure lim a := by
  intro hfail
  cases a with
  | assoc req o =>
    have hacc : ¬ Accepted lim req o :=
      fun hacc => hfail ((assoc_error_eq_none (c := s.ctx)).mpr hacc)
    rw [MlmeAct.run, assoc_bss]
    exact (h.resolve_left hacc).symm
  | deauth req o => rw [MlmeAct.run, deauth_state]
  | disassoc req o => exact disassoc_bss.trans (if_neg hfail)
  | assocResp frame => rfl

/-- While the stored BSS is the live one, responses are reported against the live one. -/
theorem MlmeState.StoresLive.reportsLive (h : s.StoresLive) : s.ReportsLive lim a := by
  intro bss frame hmem
  cases a with
  | assoc req o =>
    simp only [MlmeAct.run, nrfWifiCfg80211Assoc] at hmem
    cases he : firstError (assocChecks lim req o.alloc) <;> simp [he] at hmem
  | deauth req o =>
    simp only [MlmeAct.run, nrfWifiCfg80211Deauth] at hmem
    cases ha : o.alloc <;> cases hf : o.fmac <;> simp [ha, hf] at hmem
  | disassoc req o =>
    simp only [MlmeAct.run, nrfWifiCfg80211Disassoc] at hmem
    cases ha : o.alloc <;> cases hf : o.fmac <;> simp [ha, hf] at hmem
  | assocResp frame' =>
    simp only [MlmeAct.run, nrfWifiCfg80211AssocRespCallbkFn, List.mem_singleton,
      MlmeEvent.rxAssocResp.injEq] at hmem
    rw [hmem.1]
    exact h

/-- **The stored BSS is that of the live association exactly in tidy runs.** For every sequence of
calls and responses on one interface, with every request and outcome: in every state the stored BSS
is the live one, every failed call leaves it as it was and every response is reported against the
live one, if and only if every refused request is for the BSS already stored and no
deauthentication succeeds while one is stored. -/
theorem bss_live_iff {acts : List (MlmeAct B)} {t : List (MlmeEvent B)}
    (h : (mlmeMachine B lim).exec (.init B) acts = some (s, t)) :
    ((mlmeMachine B lim).Throughout MlmeState.StoresLive (.init B) acts ∧
      (mlmeMachine B lim).Along (MlmeState.KeepsOnFailure lim) (.init B) acts ∧
      (mlmeMachine B lim).Along (MlmeState.ReportsLive lim) (.init B) acts) ↔
    (mlmeMachine B lim).Along (MlmeState.Tidy lim) (.init B) acts := by
  have hinit : (MlmeState.init B).StoresLive := rfl
  have hiff := (mlmeMachine B lim).throughout_iff_along
    (P := MlmeState.StoresLive) (fun hP hs => mlmeStep_storesLive hP hs) hinit h
  refine ⟨fun hright => hiff.mp hright.1, fun htidy => ⟨hiff.mpr htidy, ?_, ?_⟩⟩
  · exact (mlmeMachine B lim).along_mono (fun _ _ ht => ht.keepsOnFailure) htidy
  · exact (mlmeMachine B lim).along_of_throughout (fun _ _ hP => hP.reportsLive) (hiff.mpr htidy)

/-- An association request for an access point whose only element is its SSID. -/
def helloRequest (bss : ℕ) : AssocRequest ℕ where
  bss := bss
  centerFreq := 2412
  bssid := [2, 0, 0, 0, 0, 1]
  bssIes := some [0, 2, 104, 105]
  ie := []
  useMfp := false
  controlPort := false

/-- Association, response, disassociation. -/
theorem bss_live_iff_associate :
    (mlmeMachine ℕ ⟨32, 400⟩).Throughout MlmeState.StoresLive (.init ℕ)
      ([.assoc (helloRequest 7) ⟨true, true⟩, .assocResp [0],
        .disassoc ⟨[], 3, false⟩ ⟨true, true⟩]) := by
  obtain ⟨s, t, hrun⟩ : ∃ s t, (mlmeMachine ℕ ⟨32, 400⟩).exec (.init ℕ)
      ([.assoc (helloRequest 7) ⟨true, true⟩, .assocResp [0],
        .disassoc ⟨[], 3, false⟩ ⟨true, true⟩]) = some (s, t) := ⟨_, _, rfl⟩
  exact ((bss_live_iff hrun).mpr (by decide)).1

/-- **A refused request leaves its BSS behind, and a deauthentication the one it ended.** After
either, a late response is reported against a BSS nobody is associated with. -/
theorem bss_of_dead_association :
    (∃ s t, (mlmeMachine ℕ ⟨32, 400⟩).exec (.init ℕ)
      [.assoc { helloRequest 7 with bssIes := none } ⟨true, true⟩, .assocResp [0]] = some (s, t) ∧
        s.live = none ∧ s.ctx.bss = some 7 ∧ .rxAssocResp (some 7) [0] ∈ t) ∧
    ∃ s t, (mlmeMachine ℕ ⟨32, 400⟩).exec (.init ℕ)
      [.assoc (helloRequest 7) ⟨true, true⟩, .deauth ⟨[], 3, false⟩ ⟨true, true⟩, .assocResp [0]]
        = some (s, t) ∧ s.live = none ∧ s.ctx.bss = some 7 ∧ .rxAssocResp (some 7) [0] ∈ t := by
  constructor
  · exact ⟨_, _, rfl, rfl, rfl, by decide⟩
  · exact ⟨_, _, rfl, rfl, rfl, by decide⟩

end Nrf70
