import Nrf70.Debugfs.TwtText

/-!
# The commands of a write to the TWT file

What a write is meant to send: a setup with the numbers in the text, and the parameters as they were
before where the text has none; or a teardown of the flow in use, when that is the one named.

What it sends differs in three ways. A parameter whose name has no number right after it is given
one anyway, `val` as the parameter before it has left it, or a number further on. The last byte
written is not read, and can be a digit. And the teardown command is sent as it was allocated: its
flow identifier is compared with the text and never filled in, so the command is for flow 0.

A name counts where it stands first, as it does for `strstr`.

## Main results

* `mem_twtCommands_config_iff`, `mem_twtCommands_teardown_iff` — what a write sends
* `twt_commands_iff` — the writes that send what is written
-/

namespace Nrf70

/-! ### The commands -/

/-- `info` of a `struct nrf_wifi_umac_cmd_teardown_twt`. -/
structure UmacTwtTeardown where
  twtFlowId : UInt8
  reasonCode : UInt8
  deriving DecidableEq, Repr

/-- The teardown command of a write. Its header is filled in, and the rest is as allocated. -/
def twtTeardownCmd : UmacTwtTeardown := ⟨0, 0⟩

/-- A command to the firmware. -/
inductive TwtCommand
  | configTwt (info : TwtParams)
  | teardownTwt (info : UmacTwtTeardown)
  deriving DecidableEq, Repr

/-- The command behind an event. -/
def TwtEvent.command : TwtEvent → Option TwtCommand
  | .setup info _ => some (.configTwt info)
  | .teardown _ => some (.teardownTwt twtTeardownCmd)
  | .prErr _ => none

/-- The commands of a write. -/
def twtCommands (p : RpuTwtParams) (w : TwtWrite) : List TwtCommand :=
  (nrfWifiWlanTwtWrite p w).2.1.filterMap TwtEvent.command

/-- The text of a write. -/
def TwtWrite.text (w : TwtWrite) : List UInt8 := cString w.inBuf

/-- What is read of it. -/
def TwtWrite.textRead (w : TwtWrite) : List UInt8 := cString (confBuf w.inBuf)

/-- The write gets as far as its text. -/
def TwtWrite.ReadsText (w : TwtWrite) : Prop :=
  w.inBuf.length < maxConfBufSize ∧ w.allocated = true ∧ w.copied = true

/-! ### What is written -/

/-- The numeral right at the front of a text. -/
def leadingDigits (r : List UInt8) : Option ℕ :=
  let digits := r.takeWhile (IsDigit 10 ·)
  if digits = [] then none else some (digitsVal 10 digits)

/-- The numeral right after the name of a parameter. -/
def TwtKey.written (t : List UInt8) (k : TwtKey) : Option ℕ :=
  (afterName t k.text).bind leadingDigits

/-- A teardown of a flow, as it is written: the numeral right after ` flow_id=` is the flow. -/
def TearsDown (t : List UInt8) (flow : UInt8) : Prop :=
  cBytes "twt_teardown" <:+: t ∧ TwtKey.flowId.written t = some flow.toNat

instance (t : List UInt8) (flow : UInt8) : Decidable (TearsDown t flow) :=
  inferInstanceAs (Decidable (_ ∧ _))

/-- The commands are what the text says, over the parameters as they were. -/
structure CarriesText (p : RpuTwtParams) (w : TwtWrite) : Prop where
  /-- A setup has the numbers written, cut down to their members, and keeps the others. -/
  setup : IsSetup w.text → ∀ info, .configTwt info ∈ twtCommands p w → ∀ k : TwtKey,
    k.get info = ((k.written w.text).map (· % 2 ^ k.bits)).getD (k.get p.twtCmd)
  /-- What is sent for a teardown of the flow in use is for that flow. It can also be that nothing
  is sent for one: `kstrtoul` reads the number in base 0 and without the last byte written, so
  `10` at the end is read as 1, `010` as 8, and with other text behind it as 0. -/
  teardown : TearsDown w.text p.twtCmd.twtFlowId → ∀ info, .teardownTwt info ∈ twtCommands p w →
    info.twtFlowId = p.twtCmd.twtFlowId

/-- A setup has nothing but what is written: no parameter is named without a number that takes one
which changes it, and none whose number goes on in the byte that is not read. -/
structure SetupAsWritten (p : TwtParams) (w : TwtWrite) : Prop where
  /-- A parameter without a number takes none, or the one it has. -/
  missing : ∀ k : TwtKey, k.Named w.textRead → k.written w.text = none →
    k.effective w.textRead % 2 ^ k.bits = k.get p
  /-- A number that loses its last digit is the same to the member. -/
  cut : ∀ (k : TwtKey) (n : ℕ), k.written w.text = some n → k.written w.textRead ≠ some n →
    k.effective w.textRead ≡ n [MOD 2 ^ k.bits]

section Written

variable {t r : List UInt8} {w : TwtWrite} {k : TwtKey} {n : ℕ} {c : UInt8}

theorem not_isSpace_of_isDigit (h : IsDigit 10 c) : isSpace c = false :=
  @forall_byte (fun c => IsDigit 10 c → isSpace c = false) (by decide +kernel) c h

/-- A numeral right at the front is the number there. -/
theorem leadingNumber_of_leadingDigits (h : leadingDigits r = some n) :
    leadingNumber r = some n := by
  have hblank : r.dropWhile isSpace = r := by
    cases r with
    | nil => rfl
    | cons c r =>
      by_cases hc : IsDigit 10 c
      · exact List.dropWhile_cons_of_neg (by simp [not_isSpace_of_isDigit hc])
      · rw [leadingDigits, List.takeWhile_cons_of_neg (by simpa using hc)] at h
        exact absurd h (by simp)
  rw [leadingNumber, hblank]
  exact h

/-- A parameter with a numeral right after its name takes that. -/
theorem TwtKey.effective_of_written (h : k.written t = some n) : k.effective t = n := by
  obtain ⟨rest, hafter, hdigits⟩ := Option.bind_eq_some_iff.mp h
  have hnumber : k.number t = some n := by
    rw [TwtKey.number, hafter, Option.bind_some, leadingNumber_of_leadingDigits hdigits]
  rw [TwtKey.effective, hnumber, Option.getD_some]

theorem TwtWrite.textRead_eq (w : TwtWrite) : w.textRead = cString w.inBuf.dropLast :=
  cString_confBuf _

/-- All of the text is read but for one byte at most. -/
theorem TwtWrite.text_eq (w : TwtWrite) :
    w.text = w.textRead ∨ ∃ c, w.text = w.textRead ++ [c] := by
  rw [TwtWrite.textRead_eq, TwtWrite.text]
  obtain hnil | ⟨s, c, hconcat⟩ := List.eq_nil_or_concat' w.inBuf
  · rw [hnil]
    exact Or.inl rfl
  · rw [hconcat, List.dropLast_concat, cString, cString, List.takeWhile_append]
    split_ifs with hlen
    · have hself : s.takeWhile (· ≠ 0) = s := (List.takeWhile_prefix _).eq_of_length hlen
      rw [hself]
      by_cases hc : c = 0
      · exact Or.inl (by simp [hc])
      · exact Or.inr ⟨c, by simp [hc]⟩
    · exact Or.inl rfl

/-- A name that the last byte completes has no numeral after it. -/
theorem TwtKey.written_concat_of_not_named (h : ¬ k.Named t) (c : UInt8) :
    k.written (t ++ [c]) = none := by
  rw [TwtKey.written]
  cases hafter : afterName (t ++ [c]) k.text with
  | none => rfl
  | some rest =>
    obtain ⟨tok, htok, rfl⟩ := afterName_eq_some hafter
    obtain rfl | ⟨rest', c', rfl⟩ := List.eq_nil_or_concat' rest
    · rfl
    · -- the name is there without the byte
      obtain ⟨pre, hpre⟩ := strstr_suffix htok
      rw [← List.append_assoc, ← List.append_assoc] at hpre
      obtain ⟨hinit, -⟩ := List.append_inj' hpre rfl
      refine absurd ⟨pre, rest', ?_⟩ h
      rw [← hinit]

theorem TwtKey.named_of_written (h : k.written w.text = some n) : k.Named w.textRead := by
  by_contra hnamed
  obtain heq | ⟨c, heq⟩ := w.text_eq
  · rw [heq] at h
    obtain ⟨rest, hafter, -⟩ := Option.bind_eq_some_iff.mp h
    exact hnamed (named_iff.mpr ⟨rest, hafter⟩)
  · rw [heq, TwtKey.written_concat_of_not_named hnamed c] at h
    exact absurd h (by simp)

/-- A text that is read as a setup is one. -/
theorem isSetup_text (h : IsSetup w.textRead) : IsSetup w.text := by
  obtain heq | ⟨c, heq⟩ := w.text_eq
  · rwa [heq]
  · rw [heq]
    exact List.infix_append_of_infix_left h

/-- **The parameters of a setup are those written** exactly when none is missing and none cut. -/
theorem twtParse_asWritten_iff {p : TwtParams} :
    (∀ k : TwtKey, k.get (twtParse w.textRead p) =
      ((k.written w.text).map (· % 2 ^ k.bits)).getD (k.get p)) ↔ SetupAsWritten p w := by
  constructor
  · intro h
    constructor
    · intro k hnamed hnone
      have hk := h k
      rw [twtParse_get, if_pos hnamed, hnone] at hk
      exact hk
    · intro k n hsome _
      have hk := h k
      rw [twtParse_get, if_pos (TwtKey.named_of_written hsome), hsome] at hk
      exact hk
  · intro h k
    rw [twtParse_get]
    cases hwritten : k.written w.text with
    | none =>
      split_ifs with hnamed
      · exact h.missing k hnamed hwritten
      · rfl
    | some n =>
      rw [if_pos (TwtKey.named_of_written hwritten)]
      by_cases hread : k.written w.textRead = some n
      · rw [TwtKey.effective_of_written hread]
        rfl
      · exact h.cut k n hwritten hread

end Written

section Commands

variable {p : RpuTwtParams} {w : TwtWrite}

/-- A write that does not get to its text sends nothing. -/
theorem twtCommands_of_not_readsText (h : ¬ w.ReadsText) : twtCommands p w = [] := by
  rw [twtCommands, nrfWifiWlanTwtWrite]
  split_ifs with hlen halloc hcopied
  · rfl
  · rfl
  · rfl
  · refine absurd ⟨Nat.not_le.mp hlen, ?_, ?_⟩ h
    · simpa using halloc
    · simpa using hcopied

theorem twtCommands_of_readsText (h : w.ReadsText) :
    twtCommands p w = (twtHandle w.textRead ((confBuf w.inBuf).take 200) w.fmac p).2.filterMap
      TwtEvent.command := by
  obtain ⟨hlen, halloc, hcopied⟩ := h
  rw [twtCommands, nrfWifiWlanTwtWrite, if_neg (Nat.not_le.mpr hlen), halloc, hcopied]
  rfl

/-- Every attempt sends the same setup. -/
theorem mem_commands_twtAttempts {o : TwtOutcomes} {info : TwtParams} {cmd : TwtCommand} :
    ∀ {n attempt : ℕ}, cmd ∈ (twtAttempts o info n attempt).filterMap TwtEvent.command →
      cmd = .configTwt info
  | 0, attempt, h => by simp [twtAttempts] at h
  | n + 1, attempt, h => by
    rw [twtAttempts] at h
    split_ifs at h with hsetup hevent
    · simpa [TwtEvent.command] using h
    · simpa [TwtEvent.command] using h
    · simp only [List.filterMap_cons, TwtEvent.command, List.mem_cons] at h
      obtain hfirst | hagain := h
      · exact hfirst
      · exact mem_commands_twtAttempts hagain

/-- The first attempt sends one. -/
theorem configTwt_mem_twtAttempts (o : TwtOutcomes) (info : TwtParams) (n attempt : ℕ) :
    .configTwt info ∈ (twtAttempts o info (n + 1) attempt).filterMap TwtEvent.command := by
  rw [twtAttempts]
  split_ifs <;> simp [TwtEvent.command]

/-- **The setups of a write**: those of the parameters in its text. -/
theorem mem_twtCommands_config_iff {info : TwtParams} :
    .configTwt info ∈ twtCommands p w ↔ w.ReadsText ∧ IsSetup w.textRead ∧
      w.fmac.kzallocSetup = true ∧ info = twtParse w.textRead p.twtCmd := by
  by_cases hreads : w.ReadsText
  · rw [twtCommands_of_readsText hreads]
    by_cases hsetup : IsSetup w.textRead
    · rw [twtHandle_of_isSetup hsetup]
      cases halloc : w.fmac.kzallocSetup with
      | false => simp [TwtEvent.command]
      | true =>
        simp only [if_true, hreads, hsetup, true_and]
        constructor
        · intro h
          exact TwtCommand.configTwt.inj (mem_commands_twtAttempts h)
        · rintro rfl
          exact configTwt_mem_twtAttempts _ _ _ _
    · rw [twtHandle_of_not_isSetup hsetup]
      split_ifs <;> simp [TwtEvent.command, hsetup]
  · simp [twtCommands_of_not_readsText hreads, hreads]

/-- **The teardowns of a write**: for flow 0, when the flow in use is the one asked for. -/
theorem mem_twtCommands_teardown_iff {info : UmacTwtTeardown} :
    .teardownTwt info ∈ twtCommands p w ↔ w.ReadsText ∧ ¬ IsSetup w.textRead ∧
      teardownFlow w.textRead = some p.twtCmd.twtFlowId.toUInt64 ∧ w.fmac.kzallocTeardown = true ∧
        info = twtTeardownCmd := by
  by_cases hreads : w.ReadsText
  · rw [twtCommands_of_readsText hreads]
    by_cases hsetup : IsSetup w.textRead
    · rw [twtHandle_of_isSetup hsetup]
      refine iff_of_false (fun h => ?_) fun h => h.2.1 hsetup
      cases halloc : w.fmac.kzallocSetup with
      | false => simp [halloc, TwtEvent.command] at h
      | true =>
        simp only [halloc, if_true] at h
        exact TwtCommand.noConfusion (mem_commands_twtAttempts h)
    · rw [twtHandle_of_not_isSetup hsetup]
      split_ifs with hflow halloc
      · simp [TwtEvent.command, hreads, hsetup, hflow, halloc]
      · simp [TwtEvent.command, halloc]
      · simp [TwtEvent.command, hflow]
  · simp [twtCommands_of_not_readsText hreads, hreads]

/-- **The writes that send what is written.** A setup does when no parameter is named without its
number and none loses a digit, as far as that changes it. A teardown of the flow in use does when
that is the first, or when the text is read as one of another. -/
theorem twt_commands_iff (p : RpuTwtParams) (w : TwtWrite) :
    CarriesText p w ↔
      (w.ReadsText → IsSetup w.textRead → w.fmac.kzallocSetup = true →
        SetupAsWritten p.twtCmd w) ∧
      (w.ReadsText → ¬ IsSetup w.textRead → w.fmac.kzallocTeardown = true →
        TearsDown w.text p.twtCmd.twtFlowId →
          teardownFlow w.textRead = some p.twtCmd.twtFlowId.toUInt64 → p.twtCmd.twtFlowId = 0) := by
  constructor
  · intro h
    constructor
    · intro hreads hsetup halloc
      refine twtParse_asWritten_iff.mp (h.setup (isSetup_text hsetup) _ ?_)
      exact mem_twtCommands_config_iff.mpr ⟨hreads, hsetup, halloc, rfl⟩
    · intro hreads hsetup halloc hwritten hflow
      refine (h.teardown hwritten twtTeardownCmd ?_).symm
      exact mem_twtCommands_teardown_iff.mpr ⟨hreads, hsetup, hflow, halloc, rfl⟩
  · rintro ⟨hsetups, hteardowns⟩
    constructor
    · intro _ info hmem
      obtain ⟨hreads, hsetup, halloc, rfl⟩ := mem_twtCommands_config_iff.mp hmem
      exact twtParse_asWritten_iff.mpr (hsetups hreads hsetup halloc)
    · intro hwritten info hmem
      obtain ⟨hreads, hsetup, hflow, halloc, rfl⟩ := mem_twtCommands_teardown_iff.mp hmem
      exact (hteardowns hreads hsetup halloc hwritten hflow).symm

end Commands

/-- A write of a line, with all calls succeeding. -/
def twtLine (line : String) : TwtWrite := ⟨cBytes line ++ [10], true, true, .success⟩

/-- **A number that is not written, one that loses a digit, and a flow that stays.** The exponent is
sent as 1, the number of the parameter before it; without its newline `negotiation=12` is sent as 1;
and the teardown of flow 5 is sent for flow 0. -/
theorem not_carriesText_exponent :
    ¬ CarriesText nrfWifiWlanFmacTwtInit
        (twtLine "twt_setup negotiation=1 exponent= mantissa=5") ∧
      ¬ CarriesText nrfWifiWlanFmacTwtInit
        ⟨cBytes "twt_setup negotiation=12", true, true, .success⟩ ∧
      ¬ CarriesText { nrfWifiWlanFmacTwtInit with twtCmd.twtFlowId := 5 }
        (twtLine "twt_teardown flow_id=5") := by
  refine ⟨fun h => ?_, fun h => ?_, fun h => ?_⟩
  · have hexponent := h.setup (by decide +kernel) ⟨0, 1, 0, 0, 0, 0, 1, 5, 0, 0⟩ (by decide +kernel)
      .exponent
    exact absurd hexponent (by decide +kernel)
  · have hnegotiation := h.setup (by decide +kernel) ⟨0, 1, 0, 0, 0, 0, 0, 0, 0, 0⟩
      (by decide +kernel) .negotiation
    exact absurd hnegotiation (by decide +kernel)
  · have hflow := h.teardown (by decide +kernel) ⟨0, 0⟩ (by decide +kernel)
    exact absurd hflow (by decide)

end Nrf70
