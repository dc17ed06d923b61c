import Nrf70.Cfg80211.Scan

/-!
# The SSIDs of a scan

A scan request has a list of SSIDs, of which an empty one stands for any network. The loop of
`nrf_wifi_cfg80211_scan` leaves the empty ones out. It counts the SSIDs it has passed on, checks
that count against the size of `scan_ssids`, and then writes to the entry with the index of the
request. The firmware reads as many entries from the first on as it is told there are.

The two indices agree as long as no empty SSID comes before one that is not. After that the firmware
reads an entry that nobody has filled, and with enough empty SSIDs in front the driver writes behind
the array: the count it has checked is below the limit, and the index is not.

## Main results

* `scan_ssids_iff` — the requests whose SSIDs are passed on as they should be
-/

namespace Nrf70

/-- The SSIDs that are passed on. -/
def namedSsids (ssids : List (List UInt8)) : List (List UInt8) := ssids.filter (· ≠ [])

@[simp] theorem namedSsids_nil : namedSsids [] = [] := rfl

@[simp] theorem namedSsids_cons_nil (rest : List (List UInt8)) :
    namedSsids ([] :: rest) = namedSsids rest := by
  simp [namedSsids]

theorem namedSsids_cons {ssid : List UInt8} (h : ssid ≠ []) (rest : List (List UInt8)) :
    namedSsids (ssid :: rest) = ssid :: namedSsids rest := by
  simp [namedSsids, h]

/-! ### What the loop writes -/

/-- What the loop over `req->ssids` writes to `scan_ssids`, from entry `i` on and with `num` SSIDs
passed on before: the index, and the SSID. It ends with the writes of an entry that is refused. -/
def scanSsidWrites (lim : ScanLimits) : (i num : ℕ) → List (List UInt8) → List (ℕ × List UInt8)
  | _, _, [] => []
  | i, num, ssid :: rest =>
    if ssid.length = 0 then scanSsidWrites lim (i + 1) num rest
    else if ssid.length > lim.maxSsidLen then []
    else if num = lim.maxNumSsids then []
    else (i, ssid) :: scanSsidWrites lim (i + 1) (num + 1) rest

/-- The entries of `scan_ssids` after some writes. -/
def putSsids (f : ℕ → Option (List UInt8)) (writes : List (ℕ × List UInt8)) :
    ℕ → Option (List UInt8) :=
  writes.foldl (fun f w => Function.update f w.1 (some w.2)) f

section Loop

variable {lim : ScanLimits}

/-- The loop that fills the command makes these writes, and counts them. -/
theorem fillScanSsids_eq_putSsids : ∀ {i : ℕ} {l : List (List UInt8)} {p q : ScanParams},
    fillScanSsids lim i l p = some q →
      q.scanSsids = putSsids p.scanSsids (scanSsidWrites lim i p.numScanSsids l) ∧
        q.numScanSsids = p.numScanSsids + (scanSsidWrites lim i p.numScanSsids l).length
  | i, [], p, q, h => by
    rw [fillScanSsids, Option.some.injEq] at h
    simp [scanSsidWrites, putSsids, h]
  | i, ssid :: rest, p, q, h => by
    rw [fillScanSsids] at h
    rw [scanSsidWrites]
    split_ifs at h ⊢
    · exact fillScanSsids_eq_putSsids h
    · obtain ⟨hput, hnum⟩ := fillScanSsids_eq_putSsids h
      refine ⟨hput, ?_⟩
      rw [hnum, List.length_cons, Nat.add_assoc, Nat.add_comm 1]

/-- A request is taken when its SSIDs are not too long, and not too many. -/
theorem isSome_fillScanSsids_iff : ∀ {i : ℕ} {l : List (List UInt8)} {p : ScanParams},
    p.numScanSsids ≤ lim.maxNumSsids →
      ((fillScanSsids lim i l p).isSome ↔ (∀ s ∈ l, s.length ≤ lim.maxSsidLen) ∧
        p.numScanSsids + (namedSsids l).length ≤ lim.maxNumSsids)
  | i, [], p, h => by simp [fillScanSsids, h]
  | i, ssid :: rest, p, h => by
    rw [fillScanSsids]
    split_ifs with hempty hlong hfull
    · rw [List.length_eq_zero_iff] at hempty
      simp [isSome_fillScanSsids_iff h, hempty]
    · have hshort : ¬ ssid.length ≤ lim.maxSsidLen := Nat.not_le.mpr hlong
      simp [hshort]
    · have hne : ssid ≠ [] := fun hnil => hempty (by simp [hnil])
      simp [namedSsids_cons hne, hfull]
    · have hne : ssid ≠ [] := fun hnil => hempty (by simp [hnil])
      have hnext : p.numScanSsids + 1 ≤ lim.maxNumSsids := by omega
      rw [isSome_fillScanSsids_iff hnext, namedSsids_cons hne]
      simp only [List.mem_cons, forall_eq_or_imp, List.length_cons, Nat.not_lt.mp hlong, true_and,
        Nat.add_assoc, Nat.add_comm 1]

/-- What is written: the SSIDs before which, and with which, nothing is refused. -/
theorem mem_scanSsidWrites : ∀ {i num : ℕ} {l : List (List UInt8)} {w : ℕ × List UInt8},
    num ≤ lim.maxNumSsids →
      (w ∈ scanSsidWrites lim i num l ↔ ∃ j, w.1 = i + j ∧ l[j]? = some w.2 ∧ w.2 ≠ [] ∧
        (∀ s ∈ l.take (j + 1), s.length ≤ lim.maxSsidLen) ∧
        num + (namedSsids (l.take j)).length < lim.maxNumSsids)
  | i, num, [], w, h => by simp [scanSsidWrites]
  | i, num, ssid :: rest, w, h => by
    rw [← Nat.or_exists_add_one, scanSsidWrites]
    simp only [List.getElem?_cons_zero, List.getElem?_cons_succ, List.take_succ_cons,
      List.take_zero, List.forall_mem_cons, Option.some.injEq, namedSsids_nil, List.length_nil,
      Nat.add_zero]
    split_ifs with hempty hlong hfull
    · rw [List.length_eq_zero_iff] at hempty
      rw [mem_scanSsidWrites h, or_iff_right fun ⟨_, heq, hne, _⟩ => hne (heq ▸ hempty)]
      simp [hempty, Nat.add_assoc, Nat.add_comm 1]
    · have hshort : ¬ ssid.length ≤ lim.maxSsidLen := Nat.not_le.mpr hlong
      simp [hshort]
    · simp [hfull]
    · have hne : ssid ≠ [] := fun hnil => hempty (by simp [hnil])
      have hnext : num + 1 ≤ lim.maxNumSsids := by omega
      have hlt : num < lim.maxNumSsids := hnext
      rw [List.mem_cons, mem_scanSsidWrites hnext]
      simp only [Prod.ext_iff, namedSsids_cons hne, List.length_cons, Nat.not_lt.mp hlong, true_and,
        Nat.add_assoc, Nat.add_comm 1]
      refine or_congr ?_ Iff.rfl
      constructor
      · rintro ⟨hi, hssid⟩
        exact ⟨hi, hssid.symm, hssid ▸ hne, by simp, hlt⟩
      · rintro ⟨hi, hssid, -⟩
        exact ⟨hi, hssid.symm⟩

/-- Every write is of an SSID that fits into its entry. -/
theorem length_le_of_mem_scanSsidWrites {i num : ℕ} {l : List (List UInt8)} {w : ℕ × List UInt8}
    (h : num ≤ lim.maxNumSsids) (hw : w ∈ scanSsidWrites lim i num l) :
    w.2.length ≤ lim.maxSsidLen := by
  obtain ⟨j, -, hj, -, hshort, -⟩ := (mem_scanSsidWrites h).mp hw
  have htake : (l.take (j + 1))[j]? = some w.2 := by
    rw [List.getElem?_take_of_lt (Nat.lt_succ_self j), hj]
  exact hshort w.2 (List.mem_of_getElem? htake)

/-! ### The entries of a request that is taken -/

/-- The entries behind an index are as they were. -/
theorem scanSsids_of_lt : ∀ {i : ℕ} {l : List (List UInt8)} {p q : ScanParams} {k : ℕ},
    fillScanSsids lim i l p = some q → k < i → q.scanSsids k = p.scanSsids k
  | i, [], p, q, k, h, hk => by
    rw [fillScanSsids, Option.some.injEq] at h
    rw [h]
  | i, ssid :: rest, p, q, k, h, hk => by
    rw [fillScanSsids] at h
    split_ifs at h
    · exact scanSsids_of_lt h (by omega)
    · rw [scanSsids_of_lt h (by omega)]
      exact Function.update_of_ne (Nat.ne_of_lt hk) _ _

/-- An entry is filled when the one of the request with its index is not empty. -/
theorem scanSsids_add : ∀ {i : ℕ} {l : List (List UInt8)} {p q : ScanParams} (k : ℕ),
    (∀ j, i ≤ j → p.scanSsids j = none) → fillScanSsids lim i l p = some q →
      q.scanSsids (i + k) = l[k]?.filter (· ≠ [])
  | i, [], p, q, k, hp, h => by
    rw [fillScanSsids, Option.some.injEq] at h
    rw [← h, hp (i + k) (by omega)]
    rfl
  | i, ssid :: rest, p, q, k, hp, h => by
    rw [fillScanSsids] at h
    split_ifs at h with hempty hlong hfull
    · rw [List.length_eq_zero_iff] at hempty
      cases k with
      | zero => simp [scanSsids_of_lt h (Nat.lt_succ_self i), hp, hempty, Option.filter]
      | succ k =>
        have ih := scanSsids_add k (fun j hj => hp j (by omega)) h
        rw [← Nat.add_assoc, Nat.add_right_comm, ih, List.getElem?_cons_succ]
    · have hne : ssid ≠ [] := fun hnil => hempty (by simp [hnil])
      cases k with
      | zero => simp [scanSsids_of_lt h (Nat.lt_succ_self i), hne, Option.filter]
      | succ k =>
        have hrest : ∀ j, i + 1 ≤ j → Function.update p.scanSsids i (some ssid) j = none := by
          intro j hj
          rw [Function.update_of_ne (by omega), hp j (by omega)]
        rw [← Nat.add_assoc, Nat.add_right_comm, scanSsids_add k hrest h, List.getElem?_cons_succ]

theorem numScanSsids_of_some : ∀ {i : ℕ} {l : List (List UInt8)} {p q : ScanParams},
    fillScanSsids lim i l p = some q → q.numScanSsids = p.numScanSsids + (namedSsids l).length
  | i, [], p, q, h => by
    rw [fillScanSsids, Option.some.injEq] at h
    simp [h]
  | i, ssid :: rest, p, q, h => by
    rw [fillScanSsids] at h
    split_ifs at h with hempty hlong hfull
    · rw [List.length_eq_zero_iff] at hempty
      rw [numScanSsids_of_some h, hempty, namedSsids_cons_nil]
    · have hne : ssid ≠ [] := fun hnil => hempty (by simp [hnil])
      rw [numScanSsids_of_some h, namedSsids_cons hne, List.length_cons, Nat.add_assoc,
        Nat.add_comm 1]

end Loop

/-- The first entries are the SSIDs that are passed on, when no empty one comes before them. -/
theorem getElem?_filter_eq_namedSsids_iff : ∀ l : List (List UInt8),
    (∀ k < (namedSsids l).length, l[k]?.filter (· ≠ []) = (namedSsids l)[k]?) ↔
      l.Pairwise fun a b => a = [] → b = []
  | [] => by simp
  | a :: l => by
    rw [List.pairwise_cons]
    by_cases ha : a = []
    · -- an empty entry, behind which all are to be empty
      subst ha
      rw [namedSsids_cons_nil]
      constructor
      · intro h
        have hnil : namedSsids l = [] := by
          by_contra hne
          have hfirst := h 0 (List.length_pos_iff.mpr hne)
          simp [Option.filter, hne] at hfirst
        have hall : ∀ b ∈ l, b = [] := by simpa [namedSsids] using hnil
        exact ⟨fun b hb _ => hall b hb,
          List.pairwise_of_forall_mem_list fun _ _ b hb _ => hall b hb⟩
      · rintro ⟨hl, -⟩
        have hnil : namedSsids l = [] := by
          simpa [namedSsids] using fun b hb => hl b hb rfl
        simp [hnil]
    · rw [namedSsids_cons ha, ← getElem?_filter_eq_namedSsids_iff l, List.length_cons,
        Nat.forall_lt_succ_left]
      simp [ha, Option.filter]

/-! ### The requests whose SSIDs are passed on -/

/-- The request gets as far as the loop. -/
def ReachesSsids (lim : ScanLimits) (req : ScanReq) (alloc : Bool) : Prop :=
  req.iftype ≠ .ap ∧ req.nChannels ≤ lim.maxNumFrequencies ∧ alloc = true

instance (lim : ScanLimits) (req : ScanReq) (alloc : Bool) :
    Decidable (ReachesSsids lim req alloc) :=
  inferInstanceAs (Decidable (_ ∧ _ ∧ _))

/-- What a request writes to `scan_ssids`. -/
def scanWrites (lim : ScanLimits) (req : ScanReq) (alloc : Bool) : List (ℕ × List UInt8) :=
  if ReachesSsids lim req alloc then scanSsidWrites lim 0 0 req.ssids else []

/-- A command has the SSIDs that are not empty, in order and counted, and every write is within
`scan_ssids`, also those of a request that is refused. -/
structure PassesSsids (lim : ScanLimits) (req : ScanReq) (alloc : Bool) : Prop where
  sent : ∀ p, buildScanInfo lim req alloc = .ok p →
    p.numScanSsids = (namedSsids req.ssids).length ∧
      (namedSsids req.ssids).length ≤ lim.maxNumSsids ∧
      ∀ k < (namedSsids req.ssids).length, p.scanSsids k = (namedSsids req.ssids)[k]?
  writes : ∀ w ∈ scanWrites lim req alloc, w.1 < lim.maxNumSsids ∧ w.2.length ≤ lim.maxSsidLen

section Requests

variable {lim : ScanLimits} {req : ScanReq} {alloc : Bool}

theorem buildScanInfo_eq_ok_iff {p : ScanParams} :
    buildScanInfo lim req alloc = .ok p ↔ ReachesSsids lim req alloc ∧
      fillScanSsids lim 0 req.ssids ⟨req.ssids.isEmpty, 0, fun _ => none⟩ = some p := by
  rw [buildScanInfo, ReachesSsids]
  split_ifs with hap hchan halloc
  · simp [hap]
  · simp [Nat.not_le.mpr hchan]
  · have hno : alloc ≠ true := by simpa using halloc
    simp [hno]
  · have hyes : alloc = true := by simpa using halloc
    cases fillScanSsids lim 0 req.ssids ⟨req.ssids.isEmpty, 0, fun _ => none⟩ with
    | none => simp
    | some q => simp [hap, Nat.not_lt.mp hchan, hyes]

/-- The command of a request that is taken is right when no empty SSID comes before another. -/
theorem sent_iff :
    (∀ p, buildScanInfo lim req alloc = .ok p →
      p.numScanSsids = (namedSsids req.ssids).length ∧
        (namedSsids req.ssids).length ≤ lim.maxNumSsids ∧
        ∀ k < (namedSsids req.ssids).length, p.scanSsids k = (namedSsids req.ssids)[k]?) ↔
      (ReachesSsids lim req alloc → (∀ s ∈ req.ssids, s.length ≤ lim.maxSsidLen) →
        (namedSsids req.ssids).length ≤ lim.maxNumSsids →
          req.ssids.Pairwise fun a b => a = [] → b = []) := by
  have hentries : ∀ p,
      fillScanSsids lim 0 req.ssids ⟨req.ssids.isEmpty, 0, fun _ => none⟩ = some p →
        ∀ k, p.scanSsids k = req.ssids[k]?.filter (· ≠ []) := by
    intro p hp k
    simpa using scanSsids_add k (fun _ _ => rfl) hp
  have htaken := @isSome_fillScanSsids_iff lim 0 req.ssids ⟨req.ssids.isEmpty, 0, fun _ => none⟩
    (Nat.zero_le _)
  rw [Nat.zero_add, Option.isSome_iff_exists] at htaken
  constructor
  · intro h hreach hshort hfew
    obtain ⟨p, hp⟩ := htaken.mpr ⟨hshort, hfew⟩
    obtain ⟨-, -, hdense⟩ := h p (buildScanInfo_eq_ok_iff.mpr ⟨hreach, hp⟩)
    rw [← getElem?_filter_eq_namedSsids_iff]
    intro k hk
    rw [← hentries p hp k, hdense k hk]
  · intro h p hp
    obtain ⟨hreach, hp⟩ := buildScanInfo_eq_ok_iff.mp hp
    obtain ⟨hshort, hfew⟩ := htaken.mp ⟨p, hp⟩
    refine ⟨by rw [numScanSsids_of_some hp, Nat.zero_add], hfew, fun k hk => ?_⟩
    rw [hentries p hp k]
    exact (getElem?_filter_eq_namedSsids_iff req.ssids).mpr (h hreach hshort hfew) k hk

/-- Entry `j` is refused, or one before it. -/
def RefusedBy (lim : ScanLimits) (ssids : List (List UInt8)) (j : ℕ) : Prop :=
  (∃ u ∈ ssids.take (j + 1), lim.maxSsidLen < u.length) ∨
    lim.maxNumSsids ≤ (namedSsids (ssids.take j)).length

/-- The writes are within the array when every SSID with an index behind it is refused. -/
theorem writes_iff :
    (∀ w ∈ scanWrites lim req alloc, w.1 < lim.maxNumSsids ∧ w.2.length ≤ lim.maxSsidLen) ↔
      (ReachesSsids lim req alloc → ∀ j s, req.ssids[j]? = some s → s ≠ [] → lim.maxNumSsids ≤ j →
        RefusedBy lim req.ssids j) := by
  rw [scanWrites]
  split_ifs with hreach
  · simp only [hreach, true_imp_iff]
    constructor
    · intro h j s hj hne hbehind
      by_contra hrefused
      rw [RefusedBy, not_or] at hrefused
      obtain ⟨hshort, hfew⟩ := hrefused
      have hwritten : (j, s) ∈ scanSsidWrites lim 0 0 req.ssids := by
        rw [mem_scanSsidWrites (Nat.zero_le _)]
        exact ⟨j, (Nat.zero_add j).symm, hj, hne, by simpa using hshort, by simpa using hfew⟩
      exact absurd (h _ hwritten).1 (Nat.not_lt.mpr hbehind)
    · intro h w hw
      refine ⟨?_, length_le_of_mem_scanSsidWrites (Nat.zero_le _) hw⟩
      by_contra hbehind
      obtain ⟨j, hidx, hj, hne, hshort, hfew⟩ := (mem_scanSsidWrites (Nat.zero_le _)).mp hw
      rw [Nat.zero_add] at hidx hfew
      obtain ⟨u, hu, hlong⟩ | hmany := h j w.2 hj hne (by omega)
      · exact absurd (hshort u hu) (Nat.not_le.mpr hlong)
      · exact absurd hfew (Nat.not_lt.mpr hmany)
  · simp [hreach]

end Requests

/-- **The SSIDs of a request are passed on as they should be exactly when** the request is taken
and has no empty SSID before one that is not, or it is refused at an entry that comes before every
SSID with an index behind `scan_ssids`. A request that does not get to the loop writes nothing. -/
theorem scan_ssids_iff (lim : ScanLimits) (req : ScanReq) (alloc : Bool) :
    PassesSsids lim req alloc ↔ (ReachesSsids lim req alloc →
      ((∀ s ∈ req.ssids, s.length ≤ lim.maxSsidLen) →
        (namedSsids req.ssids).length ≤ lim.maxNumSsids →
          req.ssids.Pairwise fun a b => a = [] → b = []) ∧
      ∀ j s, req.ssids[j]? = some s → s ≠ [] → lim.maxNumSsids ≤ j →
        RefusedBy lim req.ssids j) := by
  have hparts : PassesSsids lim req alloc ↔ _ ∧ _ :=
    ⟨fun h => ⟨h.sent, h.writes⟩, fun h => ⟨h.1, h.2⟩⟩
  rw [hparts, sent_iff, writes_iff, ← imp_and]

/-- Two empty SSIDs and one that is not, with an array of two: it is written behind the array, and
the command counts one SSID and has none. -/
theorem not_passesSsids_empty_first :
    ¬ PassesSsids ⟨64, 2, 32⟩ ⟨.station, 0, [[], [], [65]]⟩ true := by
  intro h
  have hbehind := h.writes (2, [65]) (by decide)
  exact absurd hbehind.1 (by decide)

end Nrf70
