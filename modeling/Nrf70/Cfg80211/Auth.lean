import Nrf70.Cfg80211.Assoc

/-!
# Authentication

`nrf_wifi_cfg80211_auth` and `nrf_wifi_cfg80211_assoc` look for the SSID in the elements of the
BSS, each with a copy of the same checks: the element has to be there and to end inside the
elements, and its length byte has to be within the limit. The elements come from a beacon, so any
bytes may be in them. `auth` hands the elements themselves to the firmware as well, and has a limit
on them.

A string of elements is described by what it is, not by how it is searched: elements with other
ids, then the one in question, then anything.

## Main results

* `cfg80211FindIe_eq_some_iff` — the search finds the first element with an id
* `auth_assoc_same_ssid` — both functions send the SSID of the first such element, or nothing
-/

namespace Nrf70

/-! ### Elements -/

/-- A string of elements none of which has the id. -/
inductive OtherElements (eid : UInt8) : List UInt8 → Prop
  | nil : OtherElements eid []
  | cons {id len : UInt8} {data rest : List UInt8} (hid : id ≠ eid) (hlen : data.length = len.toNat)
      (hrest : OtherElements eid rest) : OtherElements eid (id :: len :: (data ++ rest))

/-- The first element with the id has `data` in it. -/
def FirstElement (eid : UInt8) (ies data : List UInt8) : Prop :=
  ∃ pre len rest, OtherElements eid pre ∧ data.length = len.toNat ∧
    ies = pre ++ eid :: len :: (data ++ rest)

section FindIe

variable {eid : UInt8}

theorem cfg80211FindIeFrom_eq_drop (skip : ℕ) (ies : List UInt8) :
    cfg80211FindIeFrom eid skip ies = cfg80211FindIe eid (ies.drop skip) := by
  induction ies generalizing skip with
  | nil => simp [cfg80211FindIe, cfg80211FindIeFrom]
  | cons id ies ih =>
    cases skip with
    | zero => rfl
    | succ skip => exact ih skip

/-- One element of the search. -/
theorem cfg80211FindIe_cons_cons (id len : UInt8) (data : List UInt8) :
    cfg80211FindIe eid (id :: len :: data) =
      if data.length < len.toNat then none
      else if id = eid then some (id :: len :: data)
      else cfg80211FindIe eid (data.drop len.toNat) := by
  have hskip := @cfg80211FindIeFrom_eq_drop eid (len.toNat + 1) (len :: data)
  rw [List.drop_succ_cons] at hskip
  rw [← hskip]
  rfl

/-- Elements with other ids are passed over. -/
theorem OtherElements.cfg80211FindIe_append {pre : List UInt8} (h : OtherElements eid pre)
    (ies : List UInt8) : cfg80211FindIe eid (pre ++ ies) = cfg80211FindIe eid ies := by
  induction h with
  | nil => rfl
  | cons hid hlen hrest ih =>
    simp only [List.cons_append, List.append_assoc]
    rw [cfg80211FindIe_cons_cons, if_neg (by simp [hlen]), if_neg hid, ← hlen, List.drop_left, ih]

/-- What is found starts with the id, and behind nothing but elements with other ids. -/
theorem exists_of_cfg80211FindIe : ∀ {n : ℕ} {ies ie : List UInt8}, ies.length ≤ n →
    cfg80211FindIe eid ies = some ie → ∃ pre len data rest, OtherElements eid pre ∧
      data.length = len.toNat ∧ ie = eid :: len :: (data ++ rest) ∧ ies = pre ++ ie
  | _, [], ie, _, h => by simp [cfg80211FindIe, cfg80211FindIeFrom] at h
  | _, [id], ie, _, h => by simp [cfg80211FindIe, cfg80211FindIeFrom] at h
  | n + 1, id :: len :: data, ie, hn, h => by
    rw [cfg80211FindIe_cons_cons] at h
    split_ifs at h with hfit hid
    · rw [Option.some.injEq] at h
      refine ⟨[], len, data.take len.toNat, data.drop len.toNat, .nil, ?_, ?_, h⟩
      · exact List.length_take_of_le (Nat.not_lt.mp hfit)
      · rw [List.take_append_drop, ← h, hid]
    · have hshort : (data.drop len.toNat).length ≤ n := by
        simp only [List.length_cons, List.length_drop] at hn ⊢
        omega
      obtain ⟨pre, len', data', rest, hpre, hdata, hie, hies⟩ := exists_of_cfg80211FindIe hshort h
      refine ⟨id :: len :: (data.take len.toNat ++ pre), len', data', rest, ?_, hdata, hie, ?_⟩
      · exact .cons hid (List.length_take_of_le (Nat.not_lt.mp hfit)) hpre
      · rw [List.cons_append, List.cons_append, List.append_assoc, ← hies, List.take_append_drop]

/-- **The search finds the first element with the id**, and hands out everything from it on. -/
theorem cfg80211FindIe_eq_some_iff {ies ie : List UInt8} :
    cfg80211FindIe eid ies = some ie ↔ ∃ pre len data rest, OtherElements eid pre ∧
      data.length = len.toNat ∧ ie = eid :: len :: (data ++ rest) ∧ ies = pre ++ ie := by
  constructor
  · exact exists_of_cfg80211FindIe (Nat.le_refl _)
  · rintro ⟨pre, len, data, rest, hpre, hdata, rfl, rfl⟩
    rw [hpre.cfg80211FindIe_append, cfg80211FindIe_cons_cons, if_neg (by simp [hdata]), if_pos rfl]

theorem firstElement_iff {ies data : List UInt8} :
    FirstElement eid ies data ↔ ∃ len rest, data.length = len.toNat ∧
      cfg80211FindIe eid ies = some (eid :: len :: (data ++ rest)) := by
  constructor
  · rintro ⟨pre, len, rest, hpre, hlen, hies⟩
    refine ⟨len, rest, hlen, cfg80211FindIe_eq_some_iff.mpr ?_⟩
    exact ⟨pre, len, data, rest, hpre, hlen, rfl, hies⟩
  · rintro ⟨len, rest, hlen, hfind⟩
    obtain ⟨pre, len', data', rest', hpre, hlen', heq, hies⟩ := cfg80211FindIe_eq_some_iff.mp hfind
    exact ⟨pre, len, rest, hpre, hlen, hies⟩

/-- Some bytes have one first element. -/
theorem FirstElement.unique {ies data data' : List UInt8} (h : FirstElement eid ies data)
    (h' : FirstElement eid ies data') : data = data' := by
  obtain ⟨len, rest, hlen, hfind⟩ := firstElement_iff.mp h
  obtain ⟨len', rest', hlen', hfind'⟩ := firstElement_iff.mp h'
  rw [hfind, Option.some.injEq, List.cons.injEq, List.cons.injEq] at hfind'
  obtain ⟨-, rfl, happ⟩ := hfind'
  exact List.append_inj_left happ (hlen.trans hlen'.symm)

end FindIe

/-! ### The SSID in the elements -/

/-- Which bytes of the elements are read once `cfg80211_find_ie` has returned: the length byte of
the element, and its contents when the checks have passed. -/
def ssidReads (maxSsidLen : ℕ) (ies : List UInt8) : List ℕ :=
  match cfg80211FindIe wlanEidSsid ies with
  | none => []
  | some ie =>
    -- where `ssid_ie` points to
    let start := ies.length - ie.length
    let len := (ie.getD 1 0).toNat
    if ies.length < 2 then []
    else if start + 2 + len > ies.length ∨ maxSsidLen < len then [start + 1]
    else (start + 1) :: List.range' (start + 2) len

section SsidIn

variable {ies ssid : List UInt8}

/-- The element is valid when there is one. -/
theorem ssidIeValidIn_iff :
    ssidIeValidIn ies = true ↔ ∃ ssid, FirstElement wlanEidSsid ies ssid := by
  constructor
  · intro h
    cases hfind : cfg80211FindIe wlanEidSsid ies with
    | none => simp [ssidIeValidIn, hfind] at h
    | some ie =>
      obtain ⟨pre, len, data, rest, hpre, hlen, rfl, hies⟩ := cfg80211FindIe_eq_some_iff.mp hfind
      exact ⟨data, pre, len, rest, hpre, hlen, hies⟩
  · rintro ⟨ssid, h⟩
    obtain ⟨len, rest, hlen, hfind⟩ := firstElement_iff.mp h
    obtain ⟨pre, -, -, -, -, -, -, hies⟩ := cfg80211FindIe_eq_some_iff.mp hfind
    have htwo : 2 ≤ ies.length := by
      rw [hies, List.length_append, List.length_cons, List.length_cons]
      omega
    simp [ssidIeValidIn, hfind, htwo, hlen]

theorem FirstElement.ssidIn_eq (h : FirstElement wlanEidSsid ies ssid) : ssidIn ies = ssid := by
  obtain ⟨len, rest, hlen, hfind⟩ := firstElement_iff.mp h
  simp only [ssidIn, hfind]
  rw [← hlen, List.take_left]

theorem FirstElement.ssidLenIn_eq (h : FirstElement wlanEidSsid ies ssid) :
    ssidLenIn ies = ssid.length := by
  obtain ⟨len, rest, hlen, hfind⟩ := firstElement_iff.mp h
  simp only [ssidLenIn, hfind, hlen]

/-- Whatever the elements are, nothing is read behind them. -/
theorem lt_length_of_mem_ssidReads {maxSsidLen i : ℕ} (hi : i ∈ ssidReads maxSsidLen ies) :
    i < ies.length := by
  rw [ssidReads] at hi
  cases hfind : cfg80211FindIe wlanEidSsid ies with
  | none => simp [hfind] at hi
  | some ie =>
    obtain ⟨pre, len, data, rest, -, hlen, rfl, hies⟩ := cfg80211FindIe_eq_some_iff.mp hfind
    have hlength : ies.length = pre.length + (data.length + rest.length + 2) := by simp [hies]
    simp only [hfind, List.length_cons, List.length_append] at hi
    split_ifs at hi with hshort hcut
    · simp at hi
    · simp only [List.mem_singleton] at hi
      omega
    · simp only [List.mem_cons, List.mem_range'_1, List.getD_cons_succ,
        List.getD_cons_zero] at hi hcut
      omega

/-- What is read is the length of the SSID, and the SSID. -/
theorem FirstElement.map_ssidReads {maxSsidLen : ℕ} (h : FirstElement wlanEidSsid ies ssid)
    (hlong : ssid.length ≤ maxSsidLen) :
    (ssidReads maxSsidLen ies).map (ies.getD · 0) = UInt8.ofNat ssid.length :: ssid := by
  obtain ⟨pre, len, rest, hpre, hlen, hies⟩ := h
  have hfind : cfg80211FindIe wlanEidSsid ies = some (wlanEidSsid :: len :: (ssid ++ rest)) :=
    cfg80211FindIe_eq_some_iff.mpr ⟨pre, len, ssid, rest, hpre, hlen, rfl, hies⟩
  have hstart : ies.length - (wlanEidSsid :: len :: (ssid ++ rest)).length = pre.length := by
    rw [hies, List.length_append, Nat.add_sub_cancel]
  have hlength : ies.length = pre.length + (ssid.length + rest.length + 2) := by simp [hies]
  have hfits : ¬ (pre.length + 2 + len.toNat > ies.length ∨ maxSsidLen < len.toNat) := by omega
  have htwo : ¬ ies.length < 2 := by omega
  simp only [ssidReads, hfind, hstart, List.getD_cons_succ, List.getD_cons_zero, hfits, htwo,
    if_false, List.map_cons]
  rw [hlen, UInt8.ofNat_toNat]
  congr 1
  · simp [hies]
  · refine List.ext_getElem (by simp [hlen]) fun k hk hk' => ?_
    have hindex : pre.length + 2 + k = pre.length + (k + 2) := by omega
    simp only [List.getElem_map, List.getElem_range', Nat.one_mul, hies, List.getD_eq_getElem?_getD]
    rw [hindex, List.getElem?_append_right (Nat.le_add_right _ _), Nat.add_sub_cancel_left,
      List.getElem?_cons_succ, List.getElem?_cons_succ, List.getElem?_append_left hk',
      List.getElem?_eq_getElem hk', Option.getD_some]

end SsidIn

/-! ### Requests -/

/-- nrfxlib's limits on an authentication command. -/
structure AuthLimits extends UmacLimits where
  maxKeyLength : ℕ
  maxSaeDataLength : ℕ
  deriving DecidableEq, Repr

/-- `struct cfg80211_auth_request`, with what its `bss` points to; `bssIes` is `none` for NULL
`ies`. -/
structure AuthRequest where
  centerFreq : ℕ
  bssid : List UInt8
  bssIes : Option (List UInt8)
  signal : ℤ
  capability : ℕ
  beaconInterval : ℕ
  tsf : ℕ
  fromBeacon : Bool
  authType : ℕ
  keyIdx : ℤ
  key : List UInt8
  authData : List UInt8
  deriving DecidableEq, Repr

/-- `WLAN_CIPHER_SUITE_WEP40`. -/
def wlanCipherSuiteWep40 : ℕ := 0x000FAC01

/-- `WLAN_CIPHER_SUITE_WEP104`. -/
def wlanCipherSuiteWep104 : ℕ := 0x000FAC05

/-- `struct nrf_wifi_umac_key_info`, zero without a key. -/
structure AuthKeyInfo where
  keyIdx : ℤ := 0
  key : List UInt8 := []
  cipherSuite : ℕ := 0
  deriving DecidableEq, Repr

/-- `struct nrf_wifi_umac_auth_info`. -/
structure UmacAuthInfo where
  frequency : ℕ
  authType : ℕ
  bssid : List UInt8
  bssIe : List UInt8
  scanWidth : ℕ
  signal : ℤ
  capability : ℕ
  beaconInterval : ℕ
  tsf : ℕ
  fromBeacon : Bool
  ssidLen : ℕ
  ssid : List UInt8
  keyInfo : AuthKeyInfo
  saeData : List UInt8
  deriving DecidableEq, Repr

/-- `NL80211_BSS_CHAN_WIDTH_20`. -/
def nl80211BssChanWidth20 : ℕ := 0

namespace AuthRequest

variable (req : AuthRequest)

/-- The bytes of the BSS's elements, none for NULL. -/
def ies : List UInt8 := req.bssIes.getD []

/-- The key, and the cipher that a key of its length is for. -/
def keyInfo : AuthKeyInfo :=
  if req.key.length ≠ 0 then
    { keyIdx := req.keyIdx
      key := req.key
      cipherSuite := if req.key.length = 5 then wlanCipherSuiteWep40 else wlanCipherSuiteWep104 }
  else {}

/-- The command the request turns into. -/
def info : UmacAuthInfo where
  frequency := req.centerFreq
  authType := req.authType
  bssid := req.bssid
  bssIe := req.ies
  scanWidth := nl80211BssChanWidth20
  signal := req.signal
  capability := req.capability
  beaconInterval := req.beaconInterval
  tsf := req.tsf
  fromBeacon := req.fromBeacon
  ssidLen := ssidLenIn req.ies
  ssid := ssidIn req.ies
  keyInfo := req.keyInfo
  saeData := req.authData

end AuthRequest

/-- The checks of `nrf_wifi_cfg80211_auth`, in order, with the status each one fails with. -/
def authChecks (lim : AuthLimits) (req : AuthRequest) (alloc : Bool) : List (Option ℤ) :=
  [checkThat (alloc = true) (-1),
    -- missing BSS IEs
    checkThat (req.ies ≠ []) (-einval),
    checkThat (req.ies.length ≤ lim.maxIeLen) (-einval),
    -- invalid SSID IE
    checkThat (ssidIeValidIn req.ies = true) (-einval),
    checkThat (ssidLenIn req.ies ≤ lim.maxSsidLen) (-1),
    checkThat (req.key.length ≤ lim.maxKeyLength) (-einval),
    checkThat (req.authData.length ≤ lim.maxSaeDataLength) (-einval)]

/-- The command handed to FMAC, with its answer. -/
structure AuthCommand where
  info : UmacAuthInfo
  ok : Bool
  deriving DecidableEq, Repr

/-- `nrf_wifi_cfg80211_auth`. -/
def nrfWifiCfg80211Auth (lim : AuthLimits) (req : AuthRequest) (o : CmdOutcome) :
    Outcome Unit AuthCommand ℤ :=
  match firstError (authChecks lim req o.alloc) with
  | some status => .fail () status
  | none => ⟨(), [⟨req.info, o.fmac⟩], if o.fmac then none else some (-1)⟩

/-! ### The two functions -/

/-- The elements have an SSID that fits into a command. -/
def HasSsid (maxSsidLen : ℕ) (ies : List UInt8) : Prop :=
  ∃ ssid, FirstElement wlanEidSsid ies ssid ∧ ssid.length ≤ maxSsidLen

theorem hasSsid_iff {maxSsidLen : ℕ} {ies : List UInt8} :
    HasSsid maxSsidLen ies ↔ ssidIeValidIn ies = true ∧ ssidLenIn ies ≤ maxSsidLen := by
  rw [ssidIeValidIn_iff]
  constructor
  · rintro ⟨ssid, hfirst, hlong⟩
    exact ⟨⟨ssid, hfirst⟩, by rwa [hfirst.ssidLenIn_eq]⟩
  · rintro ⟨⟨ssid, hfirst⟩, hlong⟩
    exact ⟨ssid, hfirst, by rwa [hfirst.ssidLenIn_eq] at hlong⟩

/-- Where there is an SSID there is an element. -/
theorem HasSsid.ne_nil {maxSsidLen : ℕ} {ies : List UInt8} (h : HasSsid maxSsidLen ies) :
    ies ≠ [] := by
  obtain ⟨ssid, ⟨pre, len, rest, -, -, hies⟩, -⟩ := h
  simp [hies]

section Same

variable {B : Type} {lim : AuthLimits} {c : MlmeCtx B} {authReq : AuthRequest}
  {assocReq : AssocRequest B}

/-- A request that is within the limits otherwise passes the checks when it has an SSID. -/
theorem firstError_authChecks_eq_none (hlen : authReq.ies.length ≤ lim.maxIeLen)
    (hkey : authReq.key.length ≤ lim.maxKeyLength)
    (hsae : authReq.authData.length ≤ lim.maxSaeDataLength) :
    firstError (authChecks lim authReq true) = none ↔ HasSsid lim.maxSsidLen authReq.ies := by
  have hchecks : firstError (authChecks lim authReq true) = none ↔
      authReq.ies ≠ [] ∧ ssidIeValidIn authReq.ies = true ∧
        ssidLenIn authReq.ies ≤ lim.maxSsidLen := by
    rw [firstError_eq_none]
    simp only [authChecks, List.forall_mem_cons, checkThat_eq_none, List.not_mem_nil,
      false_imp_iff, implies_true, and_true, true_and, hlen, hkey, hsae]
  rw [hchecks, ← hasSsid_iff]
  exact and_iff_right_of_imp HasSsid.ne_nil

theorem firstError_assocChecks_eq_none_iff (hie : assocReq.ie.length ≤ lim.maxIeLen) :
    firstError (assocChecks lim.toUmacLimits assocReq true) = none ↔
      HasSsid lim.maxSsidLen assocReq.ies := by
  have hchecks : firstError (assocChecks lim.toUmacLimits assocReq true) = none ↔
      assocReq.ies ≠ [] ∧ ssidIeValidIn assocReq.ies = true ∧
        ssidLenIn assocReq.ies ≤ lim.maxSsidLen := by
    rw [firstError_assocChecks_eq_none]
    exact ⟨fun h => ⟨h.2.1, h.2.2.1, h.2.2.2.1⟩, fun h => ⟨rfl, h.1, h.2.1, h.2.2, hie⟩⟩
  rw [hchecks, ← hasSsid_iff]
  exact and_iff_right_of_imp HasSsid.ne_nil

/-- A command that passes the checks is sent, and no other is. -/
theorem auth_events (o : CmdOutcome) :
    (nrfWifiCfg80211Auth lim authReq o).events =
      if firstError (authChecks lim authReq o.alloc) = none then [⟨authReq.info, o.fmac⟩]
      else [] := by
  rw [nrfWifiCfg80211Auth]
  cases firstError (authChecks lim authReq o.alloc) <;> simp

theorem assoc_events (o : CmdOutcome) :
    (nrfWifiCfg80211Assoc lim.toUmacLimits c assocReq o).events =
      if firstError (assocChecks lim.toUmacLimits assocReq o.alloc) = none then
        [.fmacAssoc assocReq.info o.fmac]
      else [] := by
  rw [nrfWifiCfg80211Assoc]
  cases firstError (assocChecks lim.toUmacLimits assocReq o.alloc) <;> simp

theorem auth_error (o : CmdOutcome) :
    (nrfWifiCfg80211Auth lim authReq o).error =
      (firstError (authChecks lim authReq o.alloc)).or (if o.fmac then none else some (-1)) := by
  rw [nrfWifiCfg80211Auth]
  cases firstError (authChecks lim authReq o.alloc) <;> simp

theorem assoc_error (o : CmdOutcome) :
    (nrfWifiCfg80211Assoc lim.toUmacLimits c assocReq o).error =
      (firstError (assocChecks lim.toUmacLimits assocReq o.alloc)).or
        (if o.fmac then none else some (-1)) := by
  rw [nrfWifiCfg80211Assoc]
  cases firstError (assocChecks lim.toUmacLimits assocReq o.alloc) <;> simp

/-- **Both functions send the same SSID, or nothing.** For two requests for one BSS, both within
the limits on everything but its elements: each function returns success exactly when the elements
have an SSID that fits, and then sends one command, with the first SSID there is; otherwise it
sends none. Nothing is read but the length and the bytes of that SSID, inside the elements. -/
theorem auth_assoc_same_ssid (hsame : assocReq.ies = authReq.ies)
    (hlen : authReq.ies.length ≤ lim.maxIeLen) (hkey : authReq.key.length ≤ lim.maxKeyLength)
    (hsae : authReq.authData.length ≤ lim.maxSaeDataLength)
    (hie : assocReq.ie.length ≤ lim.maxIeLen) :
    ((nrfWifiCfg80211Auth lim authReq ⟨true, true⟩).error = none ↔
      HasSsid lim.maxSsidLen authReq.ies) ∧
    ((nrfWifiCfg80211Assoc lim.toUmacLimits c assocReq ⟨true, true⟩).error = none ↔
      HasSsid lim.maxSsidLen authReq.ies) ∧
    (∀ ssid, FirstElement wlanEidSsid authReq.ies ssid → ssid.length ≤ lim.maxSsidLen →
      (nrfWifiCfg80211Auth lim authReq ⟨true, true⟩).events = [⟨authReq.info, true⟩] ∧
      (nrfWifiCfg80211Assoc lim.toUmacLimits c assocReq ⟨true, true⟩).events =
        [.fmacAssoc assocReq.info true] ∧
      (authReq.info.ssid = ssid ∧ authReq.info.ssidLen = ssid.length) ∧
      (assocReq.info.ssid = ssid ∧ assocReq.ssidLen = ssid.length) ∧
      (ssidReads lim.maxSsidLen authReq.ies).map (authReq.ies.getD · 0) =
        UInt8.ofNat ssid.length :: ssid) ∧
    (¬ HasSsid lim.maxSsidLen authReq.ies →
      (nrfWifiCfg80211Auth lim authReq ⟨true, true⟩).events = [] ∧
      (nrfWifiCfg80211Assoc lim.toUmacLimits c assocReq ⟨true, true⟩).events = []) ∧
    ∀ i ∈ ssidReads lim.maxSsidLen authReq.ies, i < authReq.ies.length := by
  have hauth := firstError_authChecks_eq_none hlen hkey hsae
  have hassoc := firstError_assocChecks_eq_none_iff hie
  rw [hsame] at hassoc
  refine ⟨?_, ?_, fun ssid hfirst hfits => ?_, fun hno => ?_, fun i => lt_length_of_mem_ssidReads⟩
  · simp [auth_error, hauth]
  · simp [assoc_error, hassoc]
  · have hhas : HasSsid lim.maxSsidLen authReq.ies := ⟨ssid, hfirst, hfits⟩
    have hfirst' : FirstElement wlanEidSsid assocReq.ies ssid := hsame ▸ hfirst
    rw [auth_events, assoc_events, if_pos (hauth.mpr hhas), if_pos (hassoc.mpr hhas)]
    exact ⟨rfl, rfl, ⟨hfirst.ssidIn_eq, hfirst.ssidLenIn_eq⟩,
      ⟨hfirst'.ssidIn_eq, hfirst'.ssidLenIn_eq⟩, hfirst.map_ssidReads hfits⟩
  · rw [auth_events, assoc_events, if_neg (hauth.not.mpr hno), if_neg (hassoc.not.mpr hno)]
    exact ⟨rfl, rfl⟩

end Same

/-- An authentication request for the access point of `helloRequest`. -/
def helloAuthRequest : AuthRequest where
  centerFreq := 2412
  bssid := [2, 0, 0, 0, 0, 1]
  bssIes := some [0, 2, 104, 105]
  signal := -40
  capability := 0
  beaconInterval := 100
  tsf := 0
  fromBeacon := true
  authType := 0
  keyIdx := 0
  key := []
  authData := []

/-- Both requests for that access point are sent, with its SSID. -/
theorem auth_assoc_same_ssid_hello :
    (nrfWifiCfg80211Auth ⟨⟨32, 400⟩, 13, 256⟩ helloAuthRequest ⟨true, true⟩).events =
        [⟨helloAuthRequest.info, true⟩] ∧
      (nrfWifiCfg80211Assoc ⟨32, 400⟩ ⟨none⟩ (helloRequest 7) ⟨true, true⟩).events =
        [.fmacAssoc (helloRequest 7).info true] ∧
      helloAuthRequest.info.ssid = [104, 105] ∧ (helloRequest 7).info.ssid = [104, 105] := by
  obtain ⟨-, -, hsent, -, -⟩ := @auth_assoc_same_ssid ℕ ⟨⟨32, 400⟩, 13, 256⟩ ⟨none⟩
    helloAuthRequest (helloRequest 7) rfl (by decide) (by decide) (by decide) (by decide)
  obtain ⟨hauth, hassoc, ⟨hssid, -⟩, ⟨hssid', -⟩, -⟩ :=
    hsent [104, 105] ⟨[], 2, [], .nil, rfl, rfl⟩ (by decide)
  exact ⟨hauth, hassoc, hssid, hssid'⟩

end Nrf70
