import Nrf70.Debugfs.ConfDispatch
import Nrf70.Debugfs.TwtText

/-!
# The last byte of a write to debugfs

The three writers of debugfs end the text by overwriting its last byte with a NUL, whatever it was,
on the assumption that it is the newline of `echo`. A write without the newline then loses a byte of
the text, and a write of no bytes at all overwrites the byte before the buffer.

## Main results

* `numeric_concat_iff` — when a lost digit does not count
* `runs_eq_iff` — when a lost byte does not count for the radio test
* `conf_text_iff` — for all three writers, the buffers and the texts for which the newline does not
  matter
-/

namespace Nrf70

/-! ### Numbers that end a text -/

namespace NumKeys

variable {κ : Type} {K : NumKeys κ} {s : List UInt8} {c : UInt8} {k : κ} {v : ℤ}

/-- A text and the text with a byte more are read as the same number of the same parameter exactly
when the number is zero and the byte a digit zero. -/
theorem numeric_concat_iff (h10 : 10 ∉ s ++ [c]) :
    K.numeric (s ++ [c]) = some (k, v) ∧ K.numeric s = some (k, v) ↔
      ReadsAs (K.signed k) (cBytes (K.str k)) s 0 ∧ c = 48 ∧ v = 0 := by
  have h10' : 10 ∉ s := fun h => h10 (List.mem_append_left _ h)
  rw [numeric_eq_some h10, numeric_eq_some h10']
  constructor
  · rintro ⟨⟨⟨pre', num', heq, hpre', hnum'⟩, -⟩, ⟨pre, num, rfl, hpre, hnum⟩, -⟩
    obtain ⟨name, htext, hname⟩ := K.isParamText k
    have hsplit : (pre' ++ name) ++ 61 :: num' = (pre ++ name) ++ 61 :: (num ++ [c]) := by
      rw [htext] at heq
      simpa using heq.symm
    obtain ⟨-, -, rfl⟩ := (List.append_cons_inj_of_notMem (by simp [hpre', hname])
      hnum'.not_mem_equals).mp hsplit
    obtain ⟨rfl, rfl⟩ := (signedNumeral_concat_iff hnum).mp hnum'
    exact ⟨⟨pre, num, rfl, hpre, hnum⟩, rfl, rfl⟩
  · rintro ⟨⟨pre, num, rfl, hpre, hnum⟩, rfl, rfl⟩
    have hrange : InRange (K.signed k) 0 :=
      inRange_of_long (fun _ => le_rfl) (by decide) (by decide)
    have hnum' := (signedNumeral_concat_iff hnum).mpr ⟨rfl, rfl⟩
    exact ⟨⟨⟨pre, num ++ [48], by simp, hpre, hnum'⟩, hrange⟩, ⟨pre, num, rfl, hpre, hnum⟩, hrange⟩

variable (K) in
/-- A number is read of the text, for some parameter. -/
def ReadsNumber (buf : List UInt8) : Prop :=
  ∃ k v, ReadsAs (K.signed k) (cBytes (K.str k)) buf v ∧ InRange (K.signed k) v

theorem numeric_eq_none {buf : List UInt8} (h10 : 10 ∉ buf) :
    K.numeric buf = none ↔ ¬ K.ReadsNumber buf := by
  simp only [Option.eq_none_iff_forall_ne_some, Prod.forall, ne_eq, numeric_eq_some h10,
    ReadsNumber, not_exists]

variable (K s c) in
/-- The text ends in a zero read for a parameter, and the byte more is another. -/
def EndsInZeros : Prop := c = 48 ∧ ∃ k, ReadsAs (K.signed k) (cBytes (K.str k)) s 0

/-- Whatever is read of a text, the same is read of the text with a byte more. -/
theorem numeric_concat_eq_iff (h10 : 10 ∉ s ++ [c]) :
    K.numeric (s ++ [c]) = K.numeric s ↔
      (K.numeric (s ++ [c]) = none ∧ K.numeric s = none) ∨ K.EndsInZeros s c := by
  constructor
  · intro h
    cases hs : K.numeric s with
    | none => exact Or.inl ⟨h.trans hs, rfl⟩
    | some r =>
      obtain ⟨k, v⟩ := r
      obtain ⟨hread, hc, -⟩ := (numeric_concat_iff h10).mp ⟨h.trans hs, hs⟩
      exact Or.inr ⟨hc, k, hread⟩
  · rintro (⟨h, h'⟩ | ⟨hc, k, hread⟩)
    · rw [h, h']
    · obtain ⟨h, h'⟩ := (numeric_concat_iff h10).mpr ⟨hread, hc, rfl⟩
      rw [h, h']

theorem EndsInZeros.numeric_ne_none (h10 : 10 ∉ s ++ [c]) (h : K.EndsInZeros s c) :
    K.numeric s ≠ none := by
  obtain ⟨hc, k, hread⟩ := h
  rw [((numeric_concat_iff h10).mpr ⟨hread, hc, rfl⟩).2]
  exact Option.some_ne_none _

end NumKeys

/-! ### The radio test -/

/-- What a command runs, unless it is one that is refused before any handler. -/
def Command.runs : Command → Option Command
  | .bypassInvalid _ => none
  | .unknown _ => none
  | c => some c

/-- The text asks for a regulatory domain, and not for it to be bypassed. -/
def NamesRegDomain (buf : List UInt8) : Prop :=
  cBytes "reg_domain=" <:+: buf ∧ ¬ cBytes "bypass" <:+: buf

instance (buf : List UInt8) : Decidable (NamesRegDomain buf) :=
  inferInstanceAs (Decidable (_ ∧ _))

section Radio

variable {s buf : List UInt8} {c : UInt8}

theorem runs_of_setDefaults (h : HasSetDefaults buf) :
    (confCommand buf).runs = some .setDefaults := by
  have hmatch : paramGetMatch buf "set_defaults" = true := strstr_isSome_iff.mpr h
  rw [confCommand, if_pos hmatch]
  rfl

theorem runs_of_numeric (h : ¬ HasSetDefaults buf) {r : ConfKey × ℤ}
    (hr : radioKeys.numeric buf = some r) :
    ∃ c, (confCommand buf).runs = some c ∧ c.numeric = some r := by
  have hnum := (confCommand_numeric r).mpr ⟨h, hr⟩
  refine ⟨confCommand buf, ?_, hnum⟩
  cases hc : confCommand buf with
  | val | sval | setDefaults | regDomain => rfl
  | bypassInvalid | unknown =>
    rw [hc] at hnum
    exact absurd hnum (by simp [Command.numeric])

theorem runs_of_none (h : ¬ HasSetDefaults buf) (hr : radioKeys.numeric buf = none) :
    (confCommand buf).runs =
      if NamesRegDomain buf then some (.regDomain (afterEquals buf)) else none := by
  have hnum : (confCommand buf).numeric = none := by
    cases hc : (confCommand buf).numeric with
    | none => rfl
    | some r => exact absurd ((confCommand_numeric r).mp hc).2 (by simp [hr])
  have hset : ¬ paramGetMatch buf "set_defaults" = true := mt strstr_isSome_iff.mp h
  rw [confCommand, if_neg hset] at hnum ⊢
  cases hfind : confKeys.findSome? (ConfKey.read buf) with
  | some c =>
    obtain ⟨key, -, hkey⟩ := List.exists_of_findSome?_eq_some hfind
    rw [hfind] at hnum
    exact absurd hnum (numeric_read hkey)
  | none =>
    rw [hfind] at hnum
    simp only [paramGetMatch, strstr_isSome_iff] at hnum ⊢
    by_cases hreg : cBytes "reg_domain=" <:+: buf
    · by_cases hbypass : cBytes "bypass" <:+: buf
      · rw [if_pos hreg, if_pos hbypass] at hnum ⊢
        rw [if_neg fun hn : NamesRegDomain buf => hn.2 hbypass]
        cases hval : paramGetVal buf ValKey.bypassRegDomain.text with
        | none => rfl
        | some v =>
          rw [hval] at hnum
          exact absurd hnum (by simp [Command.numeric])
      · rw [if_pos hreg, if_neg hbypass, if_pos ⟨hreg, hbypass⟩]
        rfl
    · rw [if_neg hreg, if_neg fun hn : NamesRegDomain buf => hreg hn.1]
      rfl

theorem mem_equals_of_namesRegDomain (h : NamesRegDomain buf) : 61 ∈ buf :=
  h.1.subset (by decide +kernel)

theorem afterEquals_concat (h : 61 ∈ buf) (c : UInt8) :
    afterEquals (buf ++ [c]) = afterEquals buf ++ [c] := by
  obtain ⟨pre, rest, rfl, hpre⟩ := List.eq_append_cons_of_mem h
  rw [List.append_assoc, List.cons_append, afterEquals_append hpre, afterEquals_append hpre]

variable (s c) in
/-- The byte more does not count for the radio test. -/
def RadioKeeps : Prop :=
  HasSetDefaults s ∨ ¬ HasSetDefaults (s ++ [c]) ∧
    ((¬ radioKeys.ReadsNumber (s ++ [c]) ∧ ¬ radioKeys.ReadsNumber s ∧
        ¬ NamesRegDomain (s ++ [c]) ∧ ¬ NamesRegDomain s) ∨ radioKeys.EndsInZeros s c)

theorem command_eq_of_numeric {a b : Command} {r : ConfKey × ℤ} (ha : a.numeric = some r)
    (hb : b.numeric = some r) : a = b := by
  cases a with
  | val key v =>
    cases b with
    | val key' v' =>
      obtain ⟨hkey, hv⟩ := Prod.mk.inj (Option.some.inj (ha.trans hb.symm))
      rw [ConfKey.val.inj hkey, UInt64.toNat_inj.mp (Int.ofNat_inj.mp hv)]
    | sval => exact absurd (ha.trans hb.symm) (by simp [Command.numeric])
    | setDefaults | regDomain | bypassInvalid | unknown =>
      exact absurd hb (by simp [Command.numeric])
  | sval key v =>
    cases b with
    | sval key' v' =>
      obtain ⟨hkey, hv⟩ := Prod.mk.inj (Option.some.inj (ha.trans hb.symm))
      rw [ConfKey.sval.inj hkey, Int64.toInt_inj.mp hv]
    | val => exact absurd (ha.trans hb.symm) (by simp [Command.numeric])
    | setDefaults | regDomain | bypassInvalid | unknown =>
      exact absurd hb (by simp [Command.numeric])
  | setDefaults | regDomain | bypassInvalid | unknown =>
    exact absurd ha (by simp [Command.numeric])

/-- A command with a number is not one for a regulatory domain. -/
theorem some_ne_regDomain {a : Command} {r : ConfKey × ℤ} (ha : a.numeric = some r) :
    some a ≠
      if NamesRegDomain buf then some (Command.regDomain (afterEquals buf)) else none := by
  intro heq
  split_ifs at heq
  rw [Option.some.inj heq] at ha
  exact absurd ha (by simp [Command.numeric])

/-- The byte more is part of a regulatory domain. -/
theorem regDomain_concat_eq_iff :
    (if NamesRegDomain (s ++ [c]) then some (Command.regDomain (afterEquals (s ++ [c])))
        else none) =
      (if NamesRegDomain s then some (Command.regDomain (afterEquals s)) else none) ↔
      ¬ NamesRegDomain (s ++ [c]) ∧ ¬ NamesRegDomain s := by
  by_cases hr : NamesRegDomain (s ++ [c]) <;> by_cases hr' : NamesRegDomain s
  · rw [if_pos hr, if_pos hr']
    refine iff_of_false (fun h => ?_) fun h => h.1 hr
    have hafter := afterEquals_concat (mem_equals_of_namesRegDomain hr') c
    rw [Command.regDomain.inj (Option.some.inj h)] at hafter
    exact absurd (congrArg List.length hafter) (by simp)
  · rw [if_pos hr, if_neg hr']
    exact iff_of_false (by simp) fun h => h.1 hr
  · rw [if_neg hr, if_pos hr']
    exact iff_of_false (by simp) fun h => h.2 hr'
  · rw [if_neg hr, if_neg hr']
    exact iff_of_true rfl ⟨hr, hr'⟩

/-- A text and the text with a byte more run the same handler with the same value exactly when the
byte does not count. -/
theorem runs_eq_iff (h10 : 10 ∉ s ++ [c]) :
    (confCommand (s ++ [c])).runs = (confCommand s).runs ↔ RadioKeeps s c := by
  have h10' : 10 ∉ s := fun h => h10 (List.mem_append_left _ h)
  have hgrow : ∀ {n}, n <:+: s → n <:+: s ++ [c] := fun h => List.infix_append_of_infix_left h
  by_cases hs : HasSetDefaults s
  · rw [runs_of_setDefaults hs, runs_of_setDefaults (hgrow hs)]
    exact iff_of_true rfl (Or.inl hs)
  by_cases hsc : HasSetDefaults (s ++ [c])
  · refine iff_of_false ?_ fun h => h.elim hs fun h => h.1 hsc
    rw [runs_of_setDefaults hsc]
    cases hn : radioKeys.numeric s with
    | some r =>
      obtain ⟨a, ha, hnum⟩ := runs_of_numeric hs hn
      rw [ha]
      intro heq
      rw [← Option.some.inj heq] at hnum
      exact absurd hnum (by simp [Command.numeric])
    | none =>
      rw [runs_of_none hs hn]
      split_ifs <;> simp
  rw [RadioKeeps, or_iff_right hs, and_iff_right hsc, ← NumKeys.numeric_eq_none h10,
    ← NumKeys.numeric_eq_none h10']
  have heq := NumKeys.numeric_concat_eq_iff (K := radioKeys) h10
  cases hn : radioKeys.numeric s with
  | some r =>
    obtain ⟨a, ha, hnum⟩ := runs_of_numeric hs hn
    rw [ha]
    cases hn' : radioKeys.numeric (s ++ [c]) with
    | some r' =>
      obtain ⟨b, hb, hnum'⟩ := runs_of_numeric hsc hn'
      rw [hn, hn'] at heq
      rw [hb]
      constructor
      · intro h
        rw [Option.some.inj h] at hnum'
        exact Or.inr ((heq.mp (hnum'.symm.trans hnum)).resolve_left (by simp))
      · intro h
        have hr := heq.mpr (Or.inr (h.resolve_left (by simp)))
        exact congrArg some (command_eq_of_numeric (hnum'.trans hr) hnum)
    | none =>
      rw [hn, hn'] at heq
      rw [runs_of_none hsc hn']
      refine iff_of_false (fun h => some_ne_regDomain hnum h.symm) ?_
      rintro (⟨-, h, -⟩ | h)
      · exact absurd h (by simp)
      · exact absurd (heq.mpr (Or.inr h)) (by simp)
  | none =>
    have hno : ¬ radioKeys.EndsInZeros s c := fun h => h.numeric_ne_none h10 hn
    rw [runs_of_none hs hn, or_iff_left hno]
    cases hn' : radioKeys.numeric (s ++ [c]) with
    | some r' =>
      obtain ⟨b, hb, hnum'⟩ := runs_of_numeric hsc hn'
      rw [hb]
      exact iff_of_false (some_ne_regDomain hnum') (by simp)
    | none =>
      rw [runs_of_none hsc hn', and_iff_right rfl, and_iff_right rfl]
      exact regDomain_concat_eq_iff

end Radio

/-! ### Writes of the radio test -/

/-- The indices of `conf_buf` that a write of the radio test touches. -/
def ConfWrite.accesses (w : ConfWrite) : List ℕ := confAccesses w.inBuf w.allocated w.copied []

/-- What a write of the radio test runs. -/
def ConfWrite.runs (w : ConfWrite) : Option Command := w.command.bind Command.runs

/-- Without the newline, a write of the text stays inside the buffer, runs the same handler with the
same value and ends in the same state as with it. -/
def RadioSame (t : List UInt8) : Prop :=
  ∀ allocated copied o,
    let w : ConfWrite := ⟨t, allocated, copied, o⟩
    let w' : ConfWrite := ⟨t ++ [10], allocated, copied, o⟩
    (∀ i ∈ w.accesses, i < maxConfBufSize) ∧ w.runs = w'.runs ∧
      ∀ d s, (radioStep d s w).1 = (radioStep d s w').1

section RadioWrites

variable {t s : List UInt8} {c : UInt8}

/-- What fits with one more byte fits without it. -/
theorem fits_of_concat (h0 : 0 ∉ s ++ [c]) (hlen : (s ++ [c]).length < 499) :
    0 ∉ s ∧ s.length < 499 := by
  rw [List.length_append] at hlen
  exact ⟨fun h => h0 (List.mem_append_left _ h), Nat.lt_of_le_of_lt (Nat.le_add_right _ _) hlen⟩

/-- Writes that run the same end in the same state, if FMAC answers the same. -/
theorem radioStep_eq_of_runs {w w' : ConfWrite} (h : w.runs = w'.runs) (ho : w.fmac = w'.fmac)
    (d : Nrfxlib) (s : RadioState) : (radioStep d s w).1 = (radioStep d s w').1 := by
  have hstep : ∀ w : ConfWrite,
      (radioStep d s w).1 = w.runs.elim s fun c => c.next d w.fmac s := by
    intro w
    rw [radioStep_fst, ConfWrite.runs]
    cases w.command with
    | none => rfl
    | some cmd =>
      cases cmd with
      | bypassInvalid | unknown => rfl
      | setDefaults | val | sval | regDomain => rfl
  rw [hstep, hstep, h, ho]

theorem radioSame_iff (h0 : 0 ∉ t) (h10 : 10 ∉ t) (hlen : t.length < 499) :
    RadioSame t ↔ ∃ s c, t = s ++ [c] ∧ RadioKeeps s c := by
  have hsize : t.length < maxConfBufSize := by
    rw [maxConfBufSize]
    omega
  constructor
  · intro h
    obtain ⟨hbuf, hruns, -⟩ := h true true .success
    have hne : t ≠ [] := (confAccesses_lt_iff hsize true true (by simp)).mp hbuf rfl rfl
    obtain ⟨s, c, rfl⟩ := (List.eq_nil_or_concat' t).resolve_left hne
    obtain ⟨h0s, hlens⟩ := fits_of_concat h0 hlen
    rw [ConfWrite.runs, ConfWrite.runs, command_concat h0s c hlens,
      command_concat h0 10 hlen] at hruns
    exact ⟨s, c, rfl, (runs_eq_iff h10).mp hruns.symm⟩
  · rintro ⟨s, c, rfl, hkeeps⟩ allocated copied o
    have hruns : (ConfWrite.mk (s ++ [c]) allocated copied o).runs =
        (ConfWrite.mk (s ++ [c] ++ [10]) allocated copied o).runs := by
      cases allocated with
      | false => simp [ConfWrite.runs, ConfWrite.command]
      | true =>
        cases copied with
        | false => simp [ConfWrite.runs, ConfWrite.command]
        | true =>
          obtain ⟨h0s, hlens⟩ := fits_of_concat h0 hlen
          rw [ConfWrite.runs, ConfWrite.runs, command_concat h0s c hlens,
            command_concat h0 10 hlen]
          exact ((runs_eq_iff h10).mpr hkeeps).symm
    refine ⟨(confAccesses_lt_iff hsize _ _ (by simp)).mpr fun _ _ => by simp, hruns, ?_⟩
    exact radioStep_eq_of_runs hruns rfl

end RadioWrites

/-! ### Writes of normal operation -/

/-- The indices of `conf_buf` that a write of normal operation touches. -/
def FmacConfWrite.accesses (wr : FmacConfWrite) : List ℕ :=
  confAccesses wr.inBuf wr.allocated wr.copied []

/-- The parameter whose branch a write runs, with its number. -/
def FmacConfWrite.runs (wr : FmacConfWrite) : Option (FmacKey × ℤ) :=
  if wr.earlyError = none then wr.command.numeric else none

/-- The same law for normal operation. -/
def FmacSame (t : List UInt8) : Prop :=
  ∀ allocated copied o,
    let wr : FmacConfWrite := ⟨t, allocated, copied, o⟩
    let wr' : FmacConfWrite := ⟨t ++ [10], allocated, copied, o⟩
    (∀ i ∈ wr.accesses, i < maxConfBufSize) ∧ wr.runs = wr'.runs ∧
      ∀ w (s : FmacConfState w),
        (fmacConfStep s (.confWrite wr)).1 = (fmacConfStep s (.confWrite wr')).1

/-- The byte more does not count for normal operation. -/
def FmacKeeps (s : List UInt8) (c : UInt8) : Prop :=
  (¬ fmacKeys.ReadsNumber (s ++ [c]) ∧ ¬ fmacKeys.ReadsNumber s) ∨ fmacKeys.EndsInZeros s c

section FmacWrites

variable {t s : List UInt8} {c : UInt8}

/-- Branches for the same number do the same, and one for an unknown name does nothing. -/
theorem fmac_handle_eq {a b : FmacCommand} (h : a.numeric = b.numeric) {w : ℕ} (o : FmacOutcomes)
    (conf : FmacConfParams w) :
    (a.handle o conf).state = (b.handle o conf).state ∧
      (a.handle o conf).events = (b.handle o conf).events := by
  by_cases hnone : a.numeric = none
  · have hunknown : ∀ {a : FmacCommand}, a.numeric = none →
        (a.handle o conf).state = conf ∧ (a.handle o conf).events = [] := by
      intro a ha
      cases a with
      | unknown => exact ⟨rfl, rfl⟩
      | uapsdQueue | powerSave | heGi | rtsThreshold =>
        exact absurd ha (by simp [FmacCommand.numeric])
    obtain ⟨hstate, hev⟩ := hunknown hnone
    obtain ⟨hstate', hev'⟩ := hunknown (h.symm.trans hnone)
    exact ⟨hstate.trans hstate'.symm, hev.trans hev'.symm⟩
  · have heq : a = b := by
      cases a <;> cases b <;> simp_all [FmacCommand.numeric, UInt64.toNat_inj]
    rw [heq]
    exact ⟨rfl, rfl⟩

/-- What is read in normal operation, with and without the newline. -/
theorem fmac_numeric_eq_iff (h10 : 10 ∉ s ++ [c]) :
    (fmacCommand (s ++ [c])).numeric = (fmacCommand s).numeric ↔ FmacKeeps s c := by
  have h10' : 10 ∉ s := fun h => h10 (List.mem_append_left _ h)
  rw [FmacKeeps, ← NumKeys.numeric_eq_none h10, ← NumKeys.numeric_eq_none h10',
    ← NumKeys.numeric_concat_eq_iff h10]
  have hnumeric : ∀ buf, (fmacCommand buf).numeric = fmacKeys.numeric buf := fun buf =>
    Option.ext fun r => fmacCommand_numeric r
  rw [hnumeric, hnumeric]

theorem fmacSame_iff (h0 : 0 ∉ t) (h10 : 10 ∉ t) (hlen : t.length < 499) :
    FmacSame t ↔ ∃ s c, t = s ++ [c] ∧ FmacKeeps s c := by
  have hsize : t.length < maxConfBufSize := by
    rw [maxConfBufSize]
    omega
  constructor
  · intro h
    obtain ⟨hbuf, hruns, -⟩ := h true true ⟨true, true, true, true⟩
    have hne : t ≠ [] := (confAccesses_lt_iff hsize true true (by simp)).mp hbuf rfl rfl
    obtain ⟨s, c, rfl⟩ := (List.eq_nil_or_concat' t).resolve_left hne
    obtain ⟨h0s, hlens⟩ := fits_of_concat h0 hlen
    have hself := fmacCommand_concat h0s c hlens ⟨true, true, true, true⟩
    have hnl := fmacCommand_concat h0 10 hlen ⟨true, true, true, true⟩
    rw [FmacConfWrite.runs, FmacConfWrite.runs, if_pos hself.1, if_pos hnl.1, hself.2,
      hnl.2] at hruns
    exact ⟨s, c, rfl, (fmac_numeric_eq_iff h10).mp hruns.symm⟩
  · rintro ⟨s, c, rfl, hkeeps⟩ allocated copied o
    refine ⟨(confAccesses_lt_iff hsize _ _ (by simp)).mpr fun _ _ => by simp, ?_⟩
    by_cases hgo : allocated = true ∧ copied = true
    · obtain ⟨rfl, rfl⟩ := hgo
      obtain ⟨h0s, hlens⟩ := fits_of_concat h0 hlen
      have hself := fmacCommand_concat h0s c hlens o
      have hnl := fmacCommand_concat h0 10 hlen o
      have hnum := ((fmac_numeric_eq_iff h10).mpr hkeeps).symm
      refine ⟨?_, fun w s => ?_⟩
      · rw [FmacConfWrite.runs, FmacConfWrite.runs, if_pos hself.1, if_pos hnl.1, hself.2, hnl.2]
        exact hnum
      · obtain ⟨hstate, hev⟩ := fmac_handle_eq hnum o s.conf
        rw [fmacConfStep_confWrite, fmacConfStep_confWrite, FmacConfWrite.run, FmacConfWrite.run,
          hself.1, hnl.1, hself.2, hnl.2]
        dsimp only
        rw [hstate, hev]
    · -- neither write gets as far as the text
      have hearly : ∀ t : List UInt8,
          (FmacConfWrite.mk t allocated copied o).earlyError ≠ none := by
        intro t hnone
        simp only [FmacConfWrite.earlyError, firstError_eq_none, List.mem_cons, List.not_mem_nil,
          or_false, forall_eq_or_imp, forall_eq, checkThat_eq_none] at hnone
        exact hgo hnone.2
      refine ⟨?_, fun w s => ?_⟩
      · rw [FmacConfWrite.runs, FmacConfWrite.runs, if_neg (hearly _), if_neg (hearly _)]
      · obtain ⟨e, he⟩ := Option.ne_none_iff_exists'.mp (hearly (_ ++ [c]))
        obtain ⟨e', he'⟩ := Option.ne_none_iff_exists'.mp (hearly (_ ++ [10]))
        rw [fmacConfStep_confWrite, fmacConfStep_confWrite, FmacConfWrite.run, FmacConfWrite.run,
          he, he']
        rfl

end FmacWrites

/-! ### The three writers -/

/-- **For which buffers and texts the newline does not matter.** Every access to `conf_buf` is
inside it exactly for the buffers with a byte to overwrite, and a text has the effect of the text
with a newline exactly when its last byte does not count. -/
theorem conf_text_iff {inBuf t : List UInt8} (hbuf : inBuf.length < maxConfBufSize) (h0 : 0 ∉ t)
    (h10 : 10 ∉ t) (hlen : t.length + 1 < maxConfBufSize) :
    (∀ allocated copied,
      (∀ o, (∀ i ∈ (ConfWrite.mk inBuf allocated copied o).accesses, i < maxConfBufSize) ↔
        (allocated = true → copied = true → inBuf ≠ [])) ∧
      (∀ o, (∀ i ∈ (FmacConfWrite.mk inBuf allocated copied o).accesses, i < maxConfBufSize) ↔
        (allocated = true → copied = true → inBuf ≠ [])) ∧
      ∀ o, (∀ i ∈ (TwtWrite.mk inBuf allocated copied o).accesses, i < maxConfBufSize) ↔
        (allocated = true → copied = true → inBuf ≠ [])) ∧
    (RadioSame t ↔ ∃ s c, t = s ++ [c] ∧ RadioKeeps s c) ∧
    (FmacSame t ↔ ∃ s c, t = s ++ [c] ∧ FmacKeeps s c) ∧
    (TwtSame t ↔ ∃ s c, t = s ++ [c] ∧ TwtKeeps s c) := by
  rw [maxConfBufSize] at hlen
  have hlen : t.length < 499 := Nat.lt_of_succ_lt_succ hlen
  refine ⟨fun allocated copied => ⟨fun o => ?_, fun o => ?_, fun o => ?_⟩,
    radioSame_iff h0 h10 hlen, fmacSame_iff h0 h10 hlen, twtSame_iff h0 h10 hlen⟩
  · exact confAccesses_lt_iff hbuf allocated copied (by simp)
  · exact confAccesses_lt_iff hbuf allocated copied (by simp)
  · exact TwtWrite.accesses_lt_iff hbuf

/-- The newline alone is a text of no bytes, and `tx=00` is `tx=0` with a digit more. -/
theorem conf_text_iff_zeros :
    (∀ o, ∀ i ∈ (ConfWrite.mk [10] true true o).accesses, i < maxConfBufSize) ∧
      RadioSame (cBytes "tx=00") := by
  have h0 : 0 ∉ cBytes "tx=00" := by decide +kernel
  have h10 : 10 ∉ cBytes "tx=00" := by decide +kernel
  have hbuf : ([10] : List UInt8).length < maxConfBufSize := by decide
  have hiff := conf_text_iff hbuf h0 h10 (by decide +kernel)
  have hset : ¬ cBytes "set_defaults" <:+: cBytes "tx=0" ++ [48] := by decide +kernel
  refine ⟨fun o => ((hiff.1 true true).1 o).mpr fun _ _ => by simp, hiff.2.1.mpr ?_⟩
  refine ⟨cBytes "tx=0", 48, by decide +kernel, Or.inr ⟨hset, Or.inr ⟨rfl, .val .tx, ?_⟩⟩⟩
  exact ⟨[], [48], by decide +kernel, by simp, .plain (.octal (by simp))⟩

/-- **A write of no bytes, and texts that lose a byte.** The first overwrites the byte before
`conf_buf`. Without the newline, `init=11` checks channel 1, `uapsd_queue=15` sets the queue to 1,
and `twt_teardown flow_id=12` does not tear down flow 12. -/
theorem last_byte_counts :
    (∃ i ∈ (ConfWrite.mk [] true true .success).accesses, ¬ i < maxConfBufSize) ∧
    ((ConfWrite.mk (cBytes "init=11") true true .success).command = some (.val .init 1) ∧
      (ConfWrite.mk (cBytes "init=11" ++ [10]) true true .success).command =
        some (.val .init 11) ∧ ¬ RadioSame (cBytes "init=11")) ∧
    ((FmacConfWrite.mk (cBytes "uapsd_queue=15") true true ⟨true, true, true, true⟩).command =
        .uapsdQueue 1 ∧
      (FmacConfWrite.mk (cBytes "uapsd_queue=15" ++ [10]) true true
        ⟨true, true, true, true⟩).command = .uapsdQueue 15 ∧
      ¬ FmacSame (cBytes "uapsd_queue=15")) ∧
    ¬ TwtSame (cBytes "twt_teardown flow_id=12") := by
  have hradio : (ConfWrite.mk (cBytes "init=11") true true .success).runs ≠
      (ConfWrite.mk (cBytes "init=11" ++ [10]) true true .success).runs := by decide +kernel
  have hfmac :
      (FmacConfWrite.mk (cBytes "uapsd_queue=15") true true ⟨true, true, true, true⟩).runs ≠
      (FmacConfWrite.mk (cBytes "uapsd_queue=15" ++ [10]) true true
        ⟨true, true, true, true⟩).runs := by decide +kernel
  -- the flow in use is 12
  have htwt : ∃ p, (nrfWifiWlanTwtWrite p
        ⟨cBytes "twt_teardown flow_id=12", true, true, .success⟩).2.1 = [.prErr none] ∧
      (nrfWifiWlanTwtWrite p
        ⟨cBytes "twt_teardown flow_id=12" ++ [10], true, true, .success⟩).2.1 = [.teardown true] :=
    ⟨⟨{ nrfWifiWlanFmacTwtInit.twtCmd with twtFlowId := 12 }, []⟩, by decide +kernel,
      by decide +kernel⟩
  refine ⟨⟨2 ^ 64 - 1, by decide +kernel, by decide⟩, ⟨by decide +kernel, by decide +kernel, ?_⟩,
    ⟨by decide +kernel, by decide +kernel, ?_⟩, ?_⟩
  · exact fun h => hradio (h true true .success).2.1
  · exact fun h => hfmac (h true true ⟨true, true, true, true⟩).2.1
  · intro h
    obtain ⟨p, hlost, hnl⟩ := htwt
    have hsame := ((h true true .success).2 p).2
    rw [hlost, hnl] at hsame
    exact absurd hsame (by decide)

end Nrf70
