import Nrf70.Debugfs.ConfText
import Nrf70.Lib.Printf

/-!
# What the configuration files show

A `conf` file that is read shows a headline, and below it every setting as a line `name = value`. A
setting is changed by writing `name=value`. So a line that is shown is not one that can be written:
the writers look for the name with `=` right behind it, and refuse every line that has a blank
there. Without the blanks a line is a command, if its value is a number, and a configuration can be
written back from what was shown of it.

## Main definitions

* `ShownLine` — the line of a setting, as it is shown and as it is written back
* `fmacConfLines`, `nrfWifiWlanFmacConfDisp` — the settings of normal operation, and their file

## Main results

* `confCommand_shown`, `fmacCommand_shown`, `command_headline` — lines that are shown are no
  commands
* `confCommand_val`, `confCommand_sval` — lines without their blanks are
* `fmac_restore_iff` — when a configuration of normal operation comes back
-/

namespace Nrf70

/-! ### Lines -/

/-- A line of a `conf` file: a name, and what is printed after it. -/
@[ext] structure ShownLine where
  name : String
  text : List UInt8
  deriving DecidableEq, Repr

/-- The line as it is shown, up to its newline. -/
def ShownLine.shown (l : ShownLine) : List UInt8 := cBytes l.name ++ cBytes " = " ++ l.text

/-- What is written to set the value that is shown, up to the newline. -/
def ShownLine.setting (l : ShownLine) : List UInt8 := cBytes l.name ++ cBytes "=" ++ l.text

/-- The line above the settings. -/
def confHeadline : List UInt8 := cBytes "************* Configured Parameters ***********"

/-- A file that is read, line by line. -/
def shownFile (ls : List ShownLine) : List (List UInt8) := confHeadline :: ls.map ShownLine.shown

/-- Files that show the same names show the same when their settings are the same. -/
theorem shownFile_inj {ls ls' : List ShownLine}
    (h : ls.map ShownLine.name = ls'.map ShownLine.name) :
    shownFile ls = shownFile ls' ↔ ls = ls' := by
  rw [shownFile, shownFile, List.cons.injEq, and_iff_right rfl]
  induction ls generalizing ls' with
  | nil =>
    rw [List.map_nil, List.nil_eq, List.map_eq_nil_iff] at h
    simp [h]
  | cons l ls ih =>
    obtain ⟨l', ls', rfl, hname, hnames⟩ := List.map_eq_cons_iff.mp h.symm
    have hhead : l.shown = l'.shown ↔ l = l' := by
      rw [ShownLine.shown, ShownLine.shown, hname, List.append_cancel_left_eq, ShownLine.ext_iff,
        hname, and_iff_right rfl]
    rw [List.map_cons, List.map_cons, List.cons.injEq, List.cons.injEq, hhead, ih hnames.symm]

theorem setting_eq {name : String} {text key : List UInt8}
    (h : cBytes name ++ cBytes "=" = key) : (ShownLine.mk name text).setting = key ++ text := by
  rw [← h, ShownLine.setting]

/-- A name that is one word, with no other command in it. -/
def IsName (name : String) : Prop :=
  (∀ c ∈ cBytes name, c ∉ ([0, 10, 61] : List UInt8)) ∧ ¬ cBytes "set_defaults" <:+: cBytes name ∧
    (cBytes name).length ≤ 40

instance (name : String) : Decidable (IsName name) :=
  have := List.decidableBAll (fun c => c ∉ ([0, 10, 61] : List UInt8)) (cBytes name)
  inferInstanceAs (Decidable (_ ∧ _ ∧ _))

/-- A value that does not end the text, and in which no name and no command can begin. -/
def IsPlain (text : List UInt8) : Prop := ∀ c ∈ text, c ∉ ([0, 10, 61, 115] : List UInt8)

instance (text : List UInt8) : Decidable (IsPlain text) := List.decidableBAll _ text

theorem isPlain_nil : IsPlain [] := fun _ hc => absurd hc List.not_mem_nil

/-- A line of the kind the files show. -/
structure ShownLine.Proper (l : ShownLine) : Prop where
  name : IsName l.name
  text : IsPlain l.text
  length_text : l.text.length ≤ 11

section Lines

variable {κ : Type} {K : NumKeys κ} {pre rest nm : List UInt8} {k : κ} {v : ℤ}

/-- In a text with one `=` a name can only stand in front of it. -/
theorem infix_equals_iff (hpre : 61 ∉ pre) (hrest : 61 ∉ rest) :
    nm ++ [61] <:+: pre ++ 61 :: rest ↔ nm ++ [61] <:+ pre ++ [61] := by
  constructor
  · rintro ⟨a, b, hbuf⟩
    have hsplit : pre ++ 61 :: rest = (a ++ nm) ++ 61 :: b := by simp [← hbuf]
    obtain ⟨rfl, -⟩ := (List.append_cons_inj_of_notMem hpre hrest).mp hsplit
    exact ⟨a, by simp⟩
  · rintro ⟨a, heq⟩
    exact ⟨a, rest, by rw [heq]; simp⟩

/-- **What is read of a text with one `=`.** -/
theorem numeric_split (hpre : 61 ∉ pre) (hrest : 61 ∉ rest) (h10 : 10 ∉ pre ++ 61 :: rest) :
    K.numeric (pre ++ 61 :: rest) = some (k, v) ↔
      cBytes (K.str k) <:+ pre ++ [61] ∧ SignedNumeral (K.signed k) rest v ∧
        InRange (K.signed k) v := by
  rw [NumKeys.numeric_eq_some h10, ← readsAs_iff (K.isParamText k), afterEquals_append hpre]
  obtain ⟨name, htext, -⟩ := K.isParamText k
  rw [htext, infix_equals_iff hpre hrest, and_assoc]

/-- **What is read of a name and a value.** -/
theorem numeric_name {k' : κ} (hrest : 61 ∉ rest) (h10 : 10 ∉ cBytes (K.str k) ++ rest) :
    K.numeric (cBytes (K.str k) ++ rest) = some (k', v) ↔
      k' = k ∧ SignedNumeral (K.signed k) rest v ∧ InRange (K.signed k) v := by
  obtain ⟨name, htext, hname⟩ := K.isParamText k
  have hbuf : cBytes (K.str k) ++ rest = name ++ 61 :: rest := by simp [htext]
  rw [hbuf] at h10 ⊢
  rw [numeric_split hname hrest h10, ← htext]
  constructor
  · rintro ⟨hsuffix, hnum⟩
    obtain rfl := K.eq_of_suffix k' k hsuffix
    exact ⟨rfl, hnum⟩
  · rintro ⟨rfl, hnum⟩
    exact ⟨List.suffix_refl _, hnum⟩

/-- A name that is found in a text with one `=` is found right in front of it. -/
theorem numeric_eq_none_of_not_suffix (hpre : 61 ∉ pre) (hrest : 61 ∉ rest)
    (h10 : 10 ∉ pre ++ 61 :: rest) (h : ∀ k, ¬ cBytes (K.str k) <:+ pre ++ [61]) :
    K.numeric (pre ++ 61 :: rest) = none := by
  rw [Option.eq_none_iff_forall_ne_some]
  rintro ⟨k, v⟩ hsome
  exact h k ((numeric_split hpre hrest h10).mp hsome).1

/-- There is no blank in front of the `=` of a name. -/
def NoBlank (text : List UInt8) : Prop := text.dropLast.getLast? ≠ some 32 ∧ text.dropLast ≠ []

instance (text : List UInt8) : Decidable (NoBlank text) := inferInstanceAs (Decidable (_ ∧ _))

theorem not_suffix_of_noBlank {text : List UInt8} (h : NoBlank text) (htext : IsParamText text)
    (name : List UInt8) : ¬ text <:+ (name ++ [32]) ++ [61] := by
  obtain ⟨nm, rfl, -⟩ := htext
  rw [NoBlank, List.dropLast_concat] at h
  rintro ⟨a, heq⟩
  have hnm : a ++ nm = name ++ [32] := by
    refine List.append_left_injective [61] ?_
    simpa using heq
  have hlast := congrArg List.getLast? hnm
  rw [List.getLast?_append_of_ne_nil _ h.2, List.getLast?_concat] at hlast
  exact h.1 hlast

theorem SignedNumeral.isPlain {signed : Bool} (h : SignedNumeral signed rest v) : IsPlain rest := by
  intro c hc hmem
  have hbyte := h.bytes c hc
  simp only [List.mem_cons, List.not_mem_nil, or_false] at hmem
  rcases hmem with rfl | rfl | rfl | rfl <;> exact absurd hbyte (by decide)

theorem isPlain_printD (v : ℤ) : IsPlain (printD v) := by
  rw [← printD_bmod]
  exact (signedNumeral_printD (isInt_bmod v)).isPlain

theorem proper_printD {name : String} (h : IsName name) (v : ℤ) :
    (ShownLine.mk name (printD v)).Proper where
  name := h
  text := isPlain_printD v
  length_text := length_printD v

theorem not_mem_cBytes {name : String} (h : IsName name) {c : UInt8}
    (hc : c ∈ ([0, 10, 61] : List UInt8)) : c ∉ cBytes name := fun hmem => h.1 c hmem hc

theorem IsPlain.not_mem {text : List UInt8} (h : IsPlain text) {c : UInt8}
    (hc : c ∈ ([0, 10, 61, 115] : List UInt8)) : c ∉ text := fun hmem => h c hmem hc

/-- A text the radio test finds nothing in. -/
theorem confCommand_unknown {buf : List UInt8} (hset : ¬ HasSetDefaults buf)
    (hnum : radioKeys.numeric buf = none) (hreg : ¬ cBytes "reg_domain=" <:+: buf) :
    confCommand buf = .unknown buf := by
  have hruns := runs_of_none hset hnum
  rw [if_neg fun h => hreg h.1] at hruns
  have hmatch : ¬ paramGetMatch buf "set_defaults" = true := mt strstr_isSome_iff.mp hset
  have hmatch' : ¬ paramGetMatch buf "reg_domain=" = true := mt strstr_isSome_iff.mp hreg
  rw [confCommand, if_neg hmatch] at hruns ⊢
  cases hfind : confKeys.findSome? (ConfKey.read buf) with
  | none =>
    dsimp only
    rw [if_neg hmatch']
  | some c =>
    obtain ⟨key, -, hkey⟩ := List.exists_of_findSome?_eq_some hfind
    rw [hfind] at hruns
    cases key with
    | val | sval =>
      obtain ⟨v, -, rfl⟩ := Option.map_eq_some_iff.mp hkey
      exact absurd hruns (by simp [Command.runs])

theorem noBlank_radioKeys (k : ConfKey) : NoBlank (cBytes (radioKeys.str k)) := by
  have hall : ∀ k ∈ confKeys ++ [.val .bypassRegDomain], NoBlank (cBytes k.str) := by
    decide +kernel
  exact hall k (mem_radioKeys k)

theorem noBlank_fmacKeys (k : FmacKey) : NoBlank (cBytes (fmacKeys.str k)) := by
  cases k <;> decide +kernel

/-- A line that is shown, cut at its `=`. -/
theorem shown_eq (l : ShownLine) :
    l.shown = (cBytes l.name ++ [32]) ++ 61 :: (32 :: l.text) := by
  have hmid : cBytes " = " = [32, 61, 32] := by decide +kernel
  rw [ShownLine.shown, hmid]
  simp

/-- No name is found in a line that is shown. -/
theorem numeric_shown (hK : ∀ k, NoBlank (cBytes (K.str k))) {l : ShownLine} (h : l.Proper) :
    K.numeric l.shown = none := by
  rw [shown_eq]
  refine numeric_eq_none_of_not_suffix ?_ ?_ ?_ fun k =>
    not_suffix_of_noBlank (hK k) (K.isParamText k) _
  · simpa using not_mem_cBytes h.name (by simp)
  · simpa using h.text.not_mem (c := 61) (by simp)
  · simpa using ⟨not_mem_cBytes h.name (by simp), h.text.not_mem (c := 10) (by simp)⟩

/-- It fits into the buffer. -/
theorem shown_fits {l : ShownLine} (h : l.Proper) : 0 ∉ l.shown ∧ l.shown.length < 499 := by
  rw [shown_eq]
  constructor
  · simpa using ⟨not_mem_cBytes h.name (by simp), h.text.not_mem (c := 0) (by simp)⟩
  · have hname := h.name.2.2
    have htext := h.length_text
    simp only [List.length_append, List.length_cons, List.length_nil]
    omega

/-- **A line that is shown is no command of the radio test.** -/
theorem confCommand_shown {l : ShownLine} (h : l.Proper) :
    confCommand l.shown = .unknown l.shown := by
  refine confCommand_unknown ?_ (numeric_shown noBlank_radioKeys h) ?_
  · have hmid : 115 ∉ cBytes " = " := by decide +kernel
    rw [ShownLine.shown, List.append_assoc]
    refine not_hasSetDefaults_append h.name.2.1 fun hmem => ?_
    rcases List.mem_append.mp hmem with hmem | hmem
    · exact hmid hmem
    · exact h.text.not_mem (by simp) hmem
  · have htext : IsParamText (cBytes "reg_domain=") := by decide +kernel
    have hblank : NoBlank (cBytes "reg_domain=") := by decide +kernel
    have hnot := not_suffix_of_noBlank hblank htext (cBytes l.name)
    obtain ⟨nm, heq, -⟩ := htext
    rw [heq] at hnot ⊢
    rw [shown_eq, infix_equals_iff]
    · exact hnot
    · simpa using not_mem_cBytes h.name (by simp)
    · simpa using h.text.not_mem (c := 61) (by simp)

/-- **Nor of normal operation.** -/
theorem fmacCommand_shown {l : ShownLine} (h : l.Proper) :
    ∃ buf, fmacCommand l.shown = .unknown buf := by
  have hnone := numeric_shown noBlank_fmacKeys h
  cases hc : fmacCommand l.shown with
  | unknown buf => exact ⟨buf, rfl⟩
  | uapsdQueue | powerSave | heGi | rtsThreshold =>
    have hsome : (fmacCommand l.shown).numeric ≠ none := by
      rw [hc]
      exact Option.some_ne_none _
    obtain ⟨r, hr⟩ := Option.ne_none_iff_exists'.mp hsome
    exact absurd ((fmacCommand_numeric r).mp hr) (by simp [hnone])

/-- **The headline is no command of either.** -/
theorem command_headline : confCommand confHeadline = .unknown confHeadline ∧
    fmacCommand confHeadline = .unknown confHeadline ∧ 0 ∉ confHeadline ∧
      confHeadline.length < 499 := by
  decide +kernel

end Lines

/-! ### Settings -/

section Settings

variable {rest : List UInt8} {v : ℤ}

/-- What the radio test reads of a name and a value. -/
theorem confCommand_name (key : ConfKey) (hplain : IsPlain rest) {r : ConfKey × ℤ} :
    (confCommand (cBytes key.str ++ rest)).numeric = some r ↔
      r.1 = key ∧ SignedNumeral key.signed rest r.2 ∧ InRange key.signed r.2 := by
  have hkey : ∀ key ∈ confKeys ++ [.val .bypassRegDomain],
      10 ∉ cBytes key.str ∧ ¬ HasSetDefaults (cBytes key.str) := by
    unfold HasSetDefaults
    decide +kernel
  obtain ⟨h10, hset⟩ := hkey key (mem_radioKeys key)
  have hset' : ¬ HasSetDefaults (cBytes key.str ++ rest) :=
    not_hasSetDefaults_append hset (hplain.not_mem (by simp))
  have h10' : 10 ∉ cBytes (radioKeys.str key) ++ rest := by
    rw [List.mem_append, not_or]
    exact ⟨h10, hplain.not_mem (by simp)⟩
  rw [confCommand_numeric, and_iff_right hset']
  exact numeric_name (K := radioKeys) (hplain.not_mem (by simp)) h10'

/-- A name and a number is the command of that name. -/
theorem confCommand_val (key : ValKey) {n : ℕ} (hn : IsInt n) :
    confCommand (cBytes key.text ++ printD n) = .val key (UInt64.ofNat n) := by
  have hnum : SignedNumeral false (printD n) n := signedNumeral_printD_natCast hn false
  have hrange : InRange false n := ⟨Int.natCast_nonneg n, Int.lt_trans hn.2 (by decide)⟩
  have hread : (confCommand (cBytes key.text ++ printD n)).numeric = some (.val key, (n : ℤ)) :=
    (confCommand_name (.val key) (isPlain_printD n)).mpr ⟨rfl, hnum, hrange⟩
  refine command_eq_of_numeric hread ?_
  rw [Command.numeric, toNat_ofNat_of_isInt hn]

theorem confCommand_sval (key : SvalKey) (hv : IsInt v) :
    confCommand (cBytes key.text ++ printD v) = .sval key (Int64.ofInt v) := by
  have hrange : -2 ^ 63 ≤ v ∧ v < 2 ^ 63 := by
    rw [IsInt] at hv
    omega
  have hread : (confCommand (cBytes key.text ++ printD v)).numeric = some (.sval key, v) :=
    (confCommand_name (.sval key) (isPlain_printD v)).mpr
      ⟨rfl, signedNumeral_printD hv, hrange⟩
  refine command_eq_of_numeric hread ?_
  rw [Command.numeric, Int64.toInt_ofInt_of_le hrange.1 hrange.2]

/-- What normal operation reads of a name and a value. -/
theorem fmacCommand_name (key : FmacKey) (hplain : IsPlain rest) {r : FmacKey × ℤ} :
    (fmacCommand (cBytes key.str ++ rest)).numeric = some r ↔
      r.1 = key ∧ SignedNumeral false rest r.2 ∧ InRange false r.2 := by
  have h10 : 10 ∉ cBytes key.str := by cases key <;> decide +kernel
  have h10' : 10 ∉ cBytes (fmacKeys.str key) ++ rest := by
    rw [List.mem_append, not_or]
    exact ⟨h10, hplain.not_mem (by simp)⟩
  rw [fmacCommand_numeric]
  exact numeric_name (K := fmacKeys) (hplain.not_mem (by simp)) h10'

end Settings

/-! ### Normal operation -/

section Fmac

variable {w : ℕ}

/-- The settings that are shown. -/
def fmacConfLines (conf : FmacConfParams w) : List ShownLine :=
  [⟨"uapsd_queue", printD conf.uapsdQueue⟩,
    ⟨"power_save", cBytes (if conf.powerSave ≠ 0 then "ON" else "OFF")⟩,
    ⟨"he_gi", printD conf.heGi⟩,
    ⟨"rts_threshold", printD conf.rtsThreshold.toNat⟩]

/-- `nrf_wifi_wlan_fmac_conf_disp`. -/
def nrfWifiWlanFmacConfDisp (conf : FmacConfParams w) : List (List UInt8) :=
  shownFile (fmacConfLines conf)

theorem fmacConfDisp_inj {conf conf' : FmacConfParams w} :
    nrfWifiWlanFmacConfDisp conf = nrfWifiWlanFmacConfDisp conf' ↔
      fmacConfLines conf = fmacConfLines conf' := by
  rw [nrfWifiWlanFmacConfDisp, nrfWifiWlanFmacConfDisp]
  refine shownFile_inj ?_
  simp only [fmacConfLines, List.map_cons, List.map_nil]

/-- Lines are written back one after another. `o` is what the calls of each write are told. -/
def fmacWriteBack (o : String → FmacOutcomes) (ls : List ShownLine) (conf : FmacConfParams w) :
    FmacConfParams w :=
  ls.foldl (fun conf l =>
    (nrfWifiWlanFmacConfWrite conf ⟨l.setting ++ [10], true, true, o l.name⟩).1) conf

theorem fmacWriteBack_nil (o : String → FmacOutcomes) (conf : FmacConfParams w) :
    fmacWriteBack o [] conf = conf := rfl

theorem fmacWriteBack_cons (o : String → FmacOutcomes) (l : ShownLine) (ls : List ShownLine)
    (conf : FmacConfParams w) :
    fmacWriteBack o (l :: ls) conf = fmacWriteBack o ls
      (nrfWifiWlanFmacConfWrite conf ⟨l.setting ++ [10], true, true, o l.name⟩).1 := rfl

/-- The values a write may store. -/
structure FmacRanges (conf : FmacConfParams w) : Prop where
  uapsdQueue : conf.uapsdQueue ≤ 15
  powerSave : conf.powerSave ≤ 1
  heGi : conf.heGi ≤ 2

theorem fmacConfWrite_fst (conf : FmacConfParams w) (wr : FmacConfWrite) :
    (nrfWifiWlanFmacConfWrite conf wr).1 = (wr.run conf).state := by
  rw [nrfWifiWlanFmacConfWrite]
  cases (wr.run conf).error <;> rfl

/-- Every write keeps them. -/
theorem fmacRanges_write {conf : FmacConfParams w} (h : FmacRanges conf) (wr : FmacConfWrite) :
    FmacRanges (nrfWifiWlanFmacConfWrite conf wr).1 := by
  rw [fmacConfWrite_fst, FmacConfWrite.run]
  cases wr.earlyError with
  | some e => exact h
  | none =>
    dsimp only
    generalize wr.command = c
    cases c with
    | unknown => exact h
    | uapsdQueue val =>
      rw [FmacCommand.handle]
      split_ifs with hval <;> try exact h
      exact { h with uapsdQueue := UInt64.le_iff_toNat_le.mp (UInt64.not_lt.mp hval) }
    | powerSave val =>
      rw [FmacCommand.handle]
      split_ifs with hval <;> try exact h
      refine { h with powerSave := ?_ }
      show val.toNat ≤ 1
      rcases Classical.not_and_iff_not_or_not.mp hval with hzero | hone
      · rw [Classical.not_not.mp hzero]
        exact Nat.zero_le 1
      · rw [Classical.not_not.mp hone]
        exact Nat.le_refl 1
    | heGi val =>
      rw [FmacCommand.handle]
      split_ifs with hval <;> try exact h
      exact { h with heGi := UInt64.le_iff_toNat_le.mp (UInt64.not_lt.mp hval) }
    | rtsThreshold val =>
      rw [FmacCommand.handle]
      split_ifs <;> try exact h
      exact { h with }

/-- The command of a name. -/
def FmacKey.command : FmacKey → UInt64 → FmacCommand
  | .uapsdQueue => .uapsdQueue
  | .powerSave => .powerSave
  | .heGi => .heGi
  | .rtsThreshold => .rtsThreshold

section Writes

variable {rest : List UInt8} (conf : FmacConfParams w) (o : FmacOutcomes)

/-- A write of a name and a value of a few bytes runs its command. -/
theorem fmacWrite_name (key : FmacKey) (hplain : IsPlain rest) (hlen : rest.length ≤ 11) :
    (nrfWifiWlanFmacConfWrite conf ⟨cBytes key.str ++ rest ++ [10], true, true, o⟩).1 =
      ((fmacCommand (cBytes key.str ++ rest)).handle o conf).state := by
  have hkey : 0 ∉ cBytes key.str ∧ (cBytes key.str).length ≤ 20 := by
    cases key <;> decide +kernel
  have h0 : 0 ∉ cBytes key.str ++ rest := by
    rw [List.mem_append, not_or]
    exact ⟨hkey.1, hplain.not_mem (by simp)⟩
  have hlen' : (cBytes key.str ++ rest).length < 499 := by
    rw [List.length_append]
    omega
  obtain ⟨hearly, hcommand⟩ := fmacCommand_concat h0 10 hlen' o
  rw [fmacConfWrite_fst, FmacConfWrite.run, hearly, hcommand]

/-- A number. -/
theorem fmacWrite_number (key : FmacKey) {n : ℕ} (hn : IsInt n) :
    (nrfWifiWlanFmacConfWrite conf ⟨cBytes key.str ++ printD n ++ [10], true, true, o⟩).1 =
      ((key.command (UInt64.ofNat n)).handle o conf).state := by
  rw [fmacWrite_name conf o key (isPlain_printD n) (length_printD n)]
  refine (fmac_handle_eq ?_ o conf).1
  have hrange : InRange false n := ⟨Int.natCast_nonneg n, Int.lt_trans hn.2 (by decide)⟩
  have hread : (fmacCommand (cBytes key.str ++ printD n)).numeric = some (key, (n : ℤ)) :=
    (fmacCommand_name key (isPlain_printD n)).mpr
      ⟨rfl, signedNumeral_printD_natCast hn false, hrange⟩
  rw [hread]
  cases key <;> simp [FmacKey.command, FmacCommand.numeric, toNat_ofNat_of_isInt hn]

/-- Anything else is refused. -/
theorem fmacWrite_other (key : FmacKey) (hplain : IsPlain rest) (hlen : rest.length ≤ 11)
    (h : ∀ v, ¬ SignedNumeral false rest v) :
    (nrfWifiWlanFmacConfWrite conf ⟨cBytes key.str ++ rest ++ [10], true, true, o⟩).1 = conf := by
  rw [fmacWrite_name conf o key hplain hlen]
  have hnone : (fmacCommand (cBytes key.str ++ rest)).numeric = none := by
    rw [Option.eq_none_iff_forall_ne_some]
    exact fun r hr => h _ ((fmacCommand_name key hplain).mp hr).2.1
  have hunknown : (FmacCommand.unknown []).numeric = none := rfl
  exact (fmac_handle_eq (hnone.trans hunknown.symm) o conf).1

/-- A number that is printed as negative is refused. -/
theorem not_unsigned_printD {v : ℤ} (h : v.bmod (2 ^ 32) < 0) (x : ℤ) :
    ¬ SignedNumeral false (printD v) x := by
  intro hx
  rw [← printD_bmod] at hx
  have heq := hx.unique (signedNumeral_printD (isInt_bmod v))
  have hnonneg := hx.nonneg
  omega

end Writes

section Restore

variable (o : String → FmacOutcomes) (q p : FmacConfParams w)

/-- What FMAC and the text let through of the configuration `p`, for a device in `q`. -/
structure FmacRestorable : Prop where
  uapsdQueue : (o "uapsd_queue").setUapsdQueue = true ∨ q.uapsdQueue = p.uapsdQueue
  /-- `ON` is no number, and neither is `OFF`. -/
  powerSave : q.powerSave = p.powerSave
  /-- Zero is refused, and a threshold that is shown as negative is not read. -/
  rtsThreshold : (0 < p.rtsThreshold.toNat ∧ p.rtsThreshold.toNat < 2 ^ 31 ∧
    (o "rts_threshold").kzalloc = true ∧ (o "rts_threshold").setWiphyParams = true) ∨
      q.rtsThreshold = p.rtsThreshold

section Lines

variable (conf : FmacConfParams w) (o : FmacOutcomes)

theorem fmacWrite_uapsdQueue {n : ℕ} (hn : n ≤ 15) :
    (nrfWifiWlanFmacConfWrite conf
      ⟨cBytes FmacKey.uapsdQueue.str ++ printD n ++ [10], true, true, o⟩).1 =
        { conf with uapsdQueue := if o.setUapsdQueue then n else conf.uapsdQueue } := by
  have hint : IsInt n := isInt_natCast hn (by decide)
  have hval := toNat_ofNat_of_isInt hint
  have hrange : ¬ 15 < UInt64.ofNat n := by
    rw [UInt64.lt_iff_toNat_lt, hval]
    exact Nat.not_lt.mpr hn
  rw [fmacWrite_number conf o .uapsdQueue hint, FmacKey.command, FmacCommand.handle,
    if_neg hrange, hval]
  by_cases hsame : conf.uapsdQueue = n
  · rw [if_pos hsame, ← hsame, ite_self]
    rfl
  · rw [if_neg hsame]
    cases o.setUapsdQueue <;> rfl

/-- `ON` is no number, and neither is `OFF`. -/
theorem fmacWrite_powerSave (on : Bool) :
    (nrfWifiWlanFmacConfWrite conf
      ⟨cBytes FmacKey.powerSave.str ++ cBytes (if on then "ON" else "OFF") ++ [10],
        true, true, o⟩).1 = conf := by
  have hword : ∀ on : Bool, IsPlain (cBytes (if on then "ON" else "OFF")) ∧
      (cBytes (if on then "ON" else "OFF")).length ≤ 11 ∧
        ∃ c ∈ cBytes (if on then "ON" else "OFF"), ¬ NumeralByte c := by
    decide +kernel
  obtain ⟨hplain, hlen, c, hc, hbyte⟩ := hword on
  exact fmacWrite_other conf o .powerSave hplain hlen fun v hv => hbyte (hv.bytes c hc)

theorem fmacWrite_heGi {n : ℕ} (hn : n ≤ 2) :
    (nrfWifiWlanFmacConfWrite conf
      ⟨cBytes FmacKey.heGi.str ++ printD n ++ [10], true, true, o⟩).1 =
        { conf with heGi := n } := by
  have hint : IsInt n := isInt_natCast hn (by decide)
  have hval := toNat_ofNat_of_isInt hint
  have hrange : ¬ 2 < UInt64.ofNat n := by
    rw [UInt64.lt_iff_toNat_lt, hval]
    exact Nat.not_lt.mpr hn
  rw [fmacWrite_number conf o .heGi hint, FmacKey.command, FmacCommand.handle, if_neg hrange, hval]
  by_cases hsame : conf.heGi = n
  · rw [if_pos hsame, ← hsame]
    rfl
  · rw [if_neg hsame]
    rfl

/-- Zero is refused, and a threshold that is shown as negative is not read. -/
theorem fmacWrite_rtsThreshold (hw : w ≤ 32) (x : BitVec w) :
    ∃ rts, (nrfWifiWlanFmacConfWrite conf
        ⟨cBytes FmacKey.rtsThreshold.str ++ printD x.toNat ++ [10], true, true, o⟩).1 =
          { conf with rtsThreshold := rts } ∧
      (rts = x ↔ (0 < x.toNat ∧ x.toNat < 2 ^ 31 ∧ o.kzalloc = true ∧ o.setWiphyParams = true) ∨
        conf.rtsThreshold = x) := by
  have hlt : x.toNat < 2 ^ 32 := Nat.lt_of_lt_of_le x.isLt (Nat.pow_le_pow_right (by decide) hw)
  by_cases hlarge : x.toNat < 2 ^ 31
  swap
  · have hneg : (x.toNat : ℤ).bmod (2 ^ 32) < 0 := by
      rw [bmod_two_pow_32]
      split_ifs <;> omega
    refine ⟨conf.rtsThreshold, ?_, ?_⟩
    · exact fmacWrite_other conf o .rtsThreshold (isPlain_printD _) (length_printD _)
        (not_unsigned_printD hneg)
    · exact (or_iff_right fun h => hlarge h.2.1).symm
  have hint : IsInt x.toNat := ⟨by omega, by omega⟩
  have hval := toNat_ofNat_of_isInt hint
  have hself : BitVec.ofNat w x.toNat = x := by simp
  rw [fmacWrite_number conf o .rtsThreshold hint, FmacKey.command, FmacCommand.handle, hval, hself]
  by_cases hzero : x.toNat = 0
  · have hzero' : UInt64.ofNat x.toNat = 0 := by
      rw [hzero]
      rfl
    rw [if_pos hzero']
    refine ⟨conf.rtsThreshold, rfl, ?_⟩
    exact (or_iff_right fun h => by omega).symm
  have hzero' : UInt64.ofNat x.toNat ≠ 0 := by
    intro h
    rw [h] at hval
    exact hzero hval.symm
  rw [if_neg hzero']
  by_cases hsame : conf.rtsThreshold.toNat = x.toNat
  · have hsame' : conf.rtsThreshold = x := BitVec.eq_of_toNat_eq hsame
    rw [if_pos hsame]
    exact ⟨conf.rtsThreshold, rfl, iff_of_true hsame' (.inr hsame')⟩
  have hother : conf.rtsThreshold ≠ x := fun h => hsame (congrArg BitVec.toNat h)
  rw [if_neg hsame]
  cases hk : o.kzalloc with
  | false => exact ⟨conf.rtsThreshold, rfl, by simp [hother]⟩
  | true =>
    cases hs : o.setWiphyParams with
    | false => exact ⟨conf.rtsThreshold, rfl, by simp [hother]⟩
    | true =>
      exact ⟨x, rfl, iff_of_true rfl (.inl ⟨Nat.pos_of_ne_zero hzero, hlarge, rfl, rfl⟩)⟩

end Lines

/-- The lines that were shown of `p` are written back, without their blanks, to a device in `q`. -/
theorem fmacWriteBack_iff (hw : w ≤ 32) (hp : FmacRanges p) (hq : FmacRanges q) :
    nrfWifiWlanFmacConfDisp (fmacWriteBack o (fmacConfLines p) q) = nrfWifiWlanFmacConfDisp p ↔
      FmacRestorable o q p := by
  obtain ⟨rts, hrts, hiff⟩ := fmacWrite_rtsThreshold
    { q with
      uapsdQueue := if (o "uapsd_queue").setUapsdQueue then p.uapsdQueue else q.uapsdQueue
      heGi := p.heGi } (o "rts_threshold") hw p.rtsThreshold
  have hnames : cBytes "uapsd_queue" ++ cBytes "=" = cBytes FmacKey.uapsdQueue.str ∧
      cBytes "power_save" ++ cBytes "=" = cBytes FmacKey.powerSave.str ∧
      cBytes "he_gi" ++ cBytes "=" = cBytes FmacKey.heGi.str ∧
      cBytes "rts_threshold" ++ cBytes "=" = cBytes FmacKey.rtsThreshold.str := by
    decide +kernel
  have hword : cBytes (if p.powerSave ≠ 0 then "ON" else "OFF") =
      cBytes (if decide (p.powerSave ≠ 0) then "ON" else "OFF") := by simp
  have hback : fmacWriteBack o (fmacConfLines p) q =
      { q with
        uapsdQueue := if (o "uapsd_queue").setUapsdQueue then p.uapsdQueue else q.uapsdQueue
        heGi := p.heGi
        rtsThreshold := rts } := by
    rw [fmacConfLines, hword,
      fmacWriteBack_cons, setting_eq hnames.1, fmacWrite_uapsdQueue _ _ hp.uapsdQueue,
      fmacWriteBack_cons, setting_eq hnames.2.1, fmacWrite_powerSave,
      fmacWriteBack_cons, setting_eq hnames.2.2.1, fmacWrite_heGi _ _ hp.heGi,
      fmacWriteBack_cons, setting_eq hnames.2.2.2, fmacWriteBack_nil]
    exact hrts
  have hle : ∀ {n : ℕ}, n ≤ 15 → n < 2 ^ 32 := fun h => Nat.lt_of_le_of_lt h (by decide)
  have huapsd : printD (if (o "uapsd_queue").setUapsdQueue then p.uapsdQueue else q.uapsdQueue :
      ℕ) = printD p.uapsdQueue ↔
        ((o "uapsd_queue").setUapsdQueue = true ∨ q.uapsdQueue = p.uapsdQueue) := by
    cases (o "uapsd_queue").setUapsdQueue with
    | true => simp
    | false => simp [printD_natCast_inj (hle hq.uapsdQueue) (hle hp.uapsdQueue)]
  have hps : cBytes (if q.powerSave ≠ 0 then "ON" else "OFF") =
      cBytes (if p.powerSave ≠ 0 then "ON" else "OFF") ↔ q.powerSave = p.powerSave := by
    have hne : cBytes "ON" ≠ cBytes "OFF" := by decide +kernel
    have hq1 := hq.powerSave
    have hp1 := hp.powerSave
    split_ifs with h h'
    · exact iff_of_true rfl (by omega)
    · exact iff_of_false hne (by omega)
    · exact iff_of_false hne.symm (by omega)
    · exact iff_of_true rfl (by omega)
  have hthreshold : printD rts.toNat = printD p.rtsThreshold.toNat ↔ rts = p.rtsThreshold := by
    have hlt : ∀ x : BitVec w, x.toNat < 2 ^ 32 := fun x =>
      Nat.lt_of_lt_of_le x.isLt (Nat.pow_le_pow_right (by decide) hw)
    rw [printD_natCast_inj (hlt rts) (hlt p.rtsThreshold), BitVec.toNat_inj]
  rw [hback, fmacConfDisp_inj]
  simp only [fmacConfLines, List.cons.injEq, ShownLine.mk.injEq, true_and, and_true,
    huapsd, hps, hthreshold, hiff]
  exact ⟨fun h => ⟨h.1, h.2.1, h.2.2⟩, fun h => ⟨h.uapsdQueue, h.powerSave, h.rtsThreshold⟩⟩

end Restore

/-! ### Any run -/

/-- The names are names, and the values numbers or words. -/
theorem proper_of_mem_fmacConfLines (conf : FmacConfParams w) :
    ∀ l ∈ fmacConfLines conf, l.Proper := by
  have hnames : IsName "uapsd_queue" ∧ IsName "power_save" ∧ IsName "he_gi" ∧
      IsName "rts_threshold" := by
    decide +kernel
  have hwords : IsPlain (cBytes "ON") ∧ IsPlain (cBytes "OFF") ∧ (cBytes "ON").length ≤ 11 ∧
      (cBytes "OFF").length ≤ 11 := by
    decide +kernel
  intro l hl
  simp only [fmacConfLines, List.mem_cons, List.not_mem_nil, or_false] at hl
  rcases hl with rfl | rfl | rfl | rfl
  · exact proper_printD hnames.1 _
  · by_cases hon : conf.powerSave ≠ 0
    · rw [if_pos hon]
      exact ⟨hnames.2.1, hwords.1, hwords.2.2.1⟩
    · rw [if_neg hon]
      exact ⟨hnames.2.1, hwords.2.1, hwords.2.2.2⟩
  · exact proper_printD hnames.2.2.1 _
  · exact proper_printD hnames.2.2.2 _

/-- A line as it is shown changes nothing, and the write fails. -/
theorem fmacWrite_shown {conf : FmacConfParams w} {line : List UInt8}
    (h : line ∈ nrfWifiWlanFmacConfDisp conf) (conf' : FmacConfParams w) (o : FmacOutcomes) :
    (nrfWifiWlanFmacConfWrite conf' ⟨line ++ [10], true, true, o⟩).1 = conf' ∧
      (nrfWifiWlanFmacConfWrite conf' ⟨line ++ [10], true, true, o⟩).2.2 =
        Errno.ret .efault := by
  have hline : (0 ∉ line ∧ line.length < 499) ∧ ∃ buf, fmacCommand line = .unknown buf := by
    rw [nrfWifiWlanFmacConfDisp, shownFile, List.mem_cons, List.mem_map] at h
    rcases h with rfl | ⟨l, hl, rfl⟩
    · exact ⟨command_headline.2.2, _, command_headline.2.1⟩
    · have hproper := proper_of_mem_fmacConfLines conf l hl
      exact ⟨shown_fits hproper, fmacCommand_shown hproper⟩
  obtain ⟨⟨h0, hlen⟩, buf, hunknown⟩ := hline
  obtain ⟨hearly, hcommand⟩ := fmacCommand_concat h0 10 hlen o
  simp only [nrfWifiWlanFmacConfWrite, FmacConfWrite.run, hearly, hcommand, hunknown]
  exact ⟨rfl, rfl⟩

/-- What a run has stored is in range. -/
theorem fmacRanges_exec {as : List FmacConfAct} {s : FmacConfState w}
    {t : List (FmacConfEvent w)} (h : (fmacConfMachine w).exec .init as = some (s, t)) :
    FmacRanges s.conf := by
  refine (fmacConfMachine w).exec_invariant (P := fun _ s => FmacRanges s.conf) (t := []) ?_
    ⟨Nat.zero_le _, Nat.zero_le _, Nat.zero_le _⟩ h
  intro t s a s' u hs hstep
  rw [((fmacConfMachine w).step_eq_of_total (fun _ _ => rfl) hstep).1]
  cases a with
  | confWrite wr => exact fmacRanges_write hs wr
  | setPowerMgmt | setWiphyParams => exact hs

/-- **When a configuration of normal operation comes back.** Two devices have been through any
calls. What the `conf` file of one shows is written to the file of the other. As it is, every line
is refused. Without the blanks, and one after another, the settings make the other show the same
exactly when the differences between the two are let through: the firmware takes the new values, the
two agree on power save, and the threshold is a positive `int`. -/
theorem fmac_restore_iff (hw : w ≤ 32) {as as' : List FmacConfAct} {s s' : FmacConfState w}
    {t t' : List (FmacConfEvent w)} (h : (fmacConfMachine w).exec .init as = some (s, t))
    (h' : (fmacConfMachine w).exec .init as' = some (s', t')) (o : String → FmacOutcomes) :
    (∀ line ∈ nrfWifiWlanFmacConfDisp s.conf, ∀ oc : FmacOutcomes,
      (nrfWifiWlanFmacConfWrite s'.conf ⟨line ++ [10], true, true, oc⟩).1 = s'.conf ∧
      (nrfWifiWlanFmacConfWrite s'.conf ⟨line ++ [10], true, true, oc⟩).2.2 =
        Errno.ret .efault) ∧
    (nrfWifiWlanFmacConfDisp (fmacWriteBack o (fmacConfLines s.conf) s'.conf) =
        nrfWifiWlanFmacConfDisp s.conf ↔ FmacRestorable o s'.conf s.conf) := by
  refine ⟨fun line hline => fmacWrite_shown hline s'.conf, ?_⟩
  exact fmacWriteBack_iff o s'.conf s.conf hw (fmacRanges_exec h) (fmacRanges_exec h')

end Fmac

/-- A threshold comes back to a fresh device, and power save does not. -/
theorem fmac_restore_iff_threshold :
    let o : String → FmacOutcomes := fun _ => ⟨true, true, true, true⟩
    let fresh : FmacConfParams 32 := ⟨0, 0, 0, 0⟩
    let comesBack : FmacConfParams 32 → Prop := fun p =>
      nrfWifiWlanFmacConfDisp (fmacWriteBack o (fmacConfLines p) fresh) = nrfWifiWlanFmacConfDisp p
    comesBack ⟨0, 0, 0, 500⟩ ∧ ¬ comesBack ⟨0, 1, 0, 0⟩ := by
  intro o fresh comesBack
  have hfresh : (fmacConfMachine 32).exec .init [] =
      some (⟨⟨0, 0, 0, 0⟩, ⟨none, none⟩⟩, []) := rfl
  have hthreshold : (fmacConfMachine 32).exec .init [.confWrite (.ofText "rts_threshold=500\n")] =
      some (⟨⟨0, 0, 0, 500⟩, ⟨none, some 500⟩⟩,
        [.setWiphyParams defIfIdx ⟨500, 0, 0, 0⟩ true]) := rfl
  have hpower : (fmacConfMachine 32).exec .init [.confWrite (.ofText "power_save=1\n")] =
      some (⟨⟨0, 1, 0, 0⟩, ⟨some 1, none⟩⟩, [.setPowerSave defIfIdx 1 true]) := rfl
  constructor
  · exact (fmac_restore_iff (Nat.le_refl 32) hthreshold hfresh o).2.mpr
      ⟨.inl rfl, rfl, .inl ⟨by decide, by decide, rfl, rfl⟩⟩
  · intro hback
    have hres := (fmac_restore_iff (Nat.le_refl 32) hpower hfresh o).2.mp hback
    exact absurd hres.powerSave (by decide)

end Nrf70
