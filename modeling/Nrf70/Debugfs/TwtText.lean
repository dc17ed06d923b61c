import Mathlib.Data.Nat.ModEq
import Nrf70.Debugfs.ConfDispatch
import Nrf70.Debugfs.Twt

/-!
# What a TWT text says, and whether its last byte counts

A parameter of a setup takes the number after its name. Where there is none, it takes the one of the
parameter looked for before it that has one, since `val` is shared. So the parameters of a text are
the ones named, each with the number it takes, cut down to the width of its member.

A byte at the end of a text counts when it completes a name, or when it is one more digit of the
number the text ends in and that changes a parameter.

## Main definitions

* `TwtKey.Named`, `TwtKey.effective` — the parameters of a text, and the number each takes
* `TwtKeeps` — the texts whose last byte does not count

## Main results

* `twtParse_get` — what a parameter is after a setup
* `twtParse_concat_iff`, `teardownFlow_concat_iff` — whether the last byte of a text counts
* `twtSame_iff` — the texts that need no newline
-/

namespace Nrf70

/-! ### The members of the parameters -/

namespace TwtKey

/-- The width of a member. -/
def bits : TwtKey → ℕ
  | .mantissa | .minTwt => 16
  | .setupCmd => 32
  | .twt => 64
  | _ => 8

/-- The member of a parameter, as the number its bits are. -/
def get (p : TwtParams) : TwtKey → ℕ
  | .negotiation => p.negType.toNat
  | .exponent => p.twtTargetWakeIntervalExponent.toNat
  | .mantissa => p.twtTargetWakeIntervalMantissa.toNat
  | .minTwt => p.nominalMinTwtWakeDuration.toNat
  | .setupCmd => p.setupCmd.toUInt32.toNat
  | .twt => p.targetWakeTime.toNat
  | .trigger => p.apTriggerFrame.toNat
  | .implicit => p.isImplicit.toNat
  | .flowType => p.twtFlowType.toNat
  | .flowId => p.twtFlowId.toNat

variable {k j : TwtKey}

theorem get_store_self (k : TwtKey) (val : UInt64) (p : TwtParams) :
    k.get (k.store val p) = val.toNat % 2 ^ k.bits := by
  have h64 : val.toNat % 2 ^ 64 = val.toNat := Nat.mod_eq_of_lt val.toNat_lt
  have h32 : (val.toBitVec.signExtend 32).toNat = val.toNat % 2 ^ 32 := by
    rw [BitVec.signExtend_eq_setWidth_of_le _ (by decide)]
    rfl
  cases k with
  | setupCmd => exact h32
  | twt => exact h64.symm
  | _ => rfl

theorem get_store_of_ne (h : j ≠ k) (val : UInt64) (p : TwtParams) :
    j.get (k.store val p) = j.get p := by
  cases j <;> cases k <;> first | rfl | exact absurd rfl h

/-- The members are all there is to the parameters. -/
theorem ext_get {p q : TwtParams} (h : ∀ k : TwtKey, k.get p = k.get q) : p = q := by
  have hcmd : p.setupCmd = q.setupCmd :=
    congrArg UInt32.toInt32 (UInt32.toNat_inj.mp (h .setupCmd))
  exact TwtParams.ext (UInt8.toNat_inj.mp (h .flowId)) (UInt8.toNat_inj.mp (h .negotiation)) hcmd
    (UInt8.toNat_inj.mp (h .trigger)) (UInt8.toNat_inj.mp (h .implicit))
    (UInt8.toNat_inj.mp (h .flowType)) (UInt8.toNat_inj.mp (h .exponent))
    (UInt16.toNat_inj.mp (h .mantissa)) (UInt64.toNat_inj.mp (h .twt))
    (UInt16.toNat_inj.mp (h .minTwt))

theorem bits_le (k : TwtKey) : k.bits ≤ 64 := by cases k <;> decide

theorem bits_pos (k : TwtKey) : 0 < k.bits := by cases k <;> decide

/-- A number that is stored in a member is cut down to its width once. -/
theorem toNat_ofNat_mod (k : TwtKey) (n : ℕ) :
    (UInt64.ofNat n).toNat % 2 ^ k.bits = n % 2 ^ k.bits :=
  Nat.mod_mod_of_dvd n (Nat.pow_dvd_pow 2 k.bits_le)

/-- A member can be something other than a given number. -/
theorem exists_get_ne (k : TwtKey) (n : ℕ) : ∃ p : TwtParams, k.get p ≠ n % 2 ^ k.bits := by
  refine ⟨k.store (UInt64.ofNat (n + 1)) nrfWifiWlanFmacTwtInit.twtCmd, fun h => ?_⟩
  rw [get_store_self, toNat_ofNat_mod] at h
  have hdvd : 2 ^ k.bits ∣ n + 1 - n := (Nat.modEq_iff_dvd' (Nat.le_succ n)).mp h.symm
  rw [Nat.add_sub_cancel_left, Nat.dvd_one, Nat.pow_eq_one] at hdvd
  have := k.bits_pos
  omega

end TwtKey

/-! ### The numbers of a text -/

/-- The number at the front of a text, after blanks. -/
def leadingNumber (r : List UInt8) : Option ℕ :=
  let digits := (r.dropWhile isSpace).takeWhile (IsDigit 10 ·)
  if digits = [] then none else some (digitsVal 10 digits)

theorem sscanfLu_eq (r : List UInt8) : sscanfLu r = (leadingNumber r).map UInt64.ofNat := by
  rw [sscanfLu, leadingNumber]
  cases r.dropWhile isSpace with
  | nil => rfl
  | cons c r =>
    dsimp only
    split_ifs with hc hnil hnil
    · rw [List.takeWhile_cons_of_pos (by simpa using hc)] at hnil
      exact absurd hnil (List.cons_ne_nil _ _)
    · rw [parseInteger_fst, Nat.zero_mul, Nat.zero_add]
      rfl
    · rfl
    · rw [List.takeWhile_cons_of_neg (by simpa using hc)] at hnil
      exact absurd rfl hnil

namespace TwtKey

/-- The parameter is named in a text. -/
def Named (t : List UInt8) (k : TwtKey) : Prop := cBytes k.text <:+: t

instance (t : List UInt8) (k : TwtKey) : Decidable (k.Named t) :=
  inferInstanceAs (Decidable (_ <:+: _))

/-- The number after the name of a parameter. -/
def number (t : List UInt8) (k : TwtKey) : Option ℕ := (afterName t k.text).bind leadingNumber

end TwtKey

/-- The number of the last parameter that has one. Nothing takes the one of `twt`. -/
def lastNumber (t : List UInt8) (keys : List TwtKey) : ℕ :=
  ((keys.filter (· ≠ .twt)).reverse.findSome? (TwtKey.number t)).getD 0

/-- The number a parameter takes: its own, or that of the last one before it. -/
def TwtKey.effective (t : List UInt8) (k : TwtKey) : ℕ :=
  (k.number t).getD (if k = .twt then 0 else lastNumber t (twtKeys.takeWhile (· ≠ k)))

section Parse

variable {t : List UInt8} {k : TwtKey}

theorem named_iff : k.Named t ↔ ∃ rest, afterName t k.text = some rest := by
  rw [TwtKey.Named, ← strstr_isSome_iff, afterName, Option.isSome_iff_exists]
  simp

/-- What is done for one parameter. -/
theorem readTwt_eq (t : List UInt8) (r : UInt64 × TwtParams) (k : TwtKey) :
    readTwt t r k =
      let val := ((k.number t).map UInt64.ofNat).getD (if k = .twt then 0 else r.1)
      (if k = .twt then r.1 else val, if k.Named t then k.store val r.2 else r.2) := by
  rw [readTwt, TwtKey.number]
  cases hafter : afterName t k.text with
  | none =>
    have hnamed : ¬ k.Named t := by simp [named_iff, hafter]
    dsimp only
    rw [if_neg hnamed]
    split_ifs <;> rfl
  | some rest =>
    have hnamed : k.Named t := named_iff.mpr ⟨rest, hafter⟩
    dsimp only
    rw [if_pos hnamed, sscanfLu_eq]
    split_ifs <;> rfl

theorem lastNumber_concat (t : List UInt8) (keys : List TwtKey) (k : TwtKey) :
    lastNumber t (keys ++ [k]) =
      if k = .twt then lastNumber t keys else (k.number t).getD (lastNumber t keys) := by
  rw [lastNumber, List.filter_append, List.reverse_append, List.findSome?_append, lastNumber]
  split_ifs with hk
  · simp [hk]
  · cases hnum : k.number t <;> simp [hk, hnum]

/-- The parameters after those of a list have been looked for. -/
theorem foldl_readTwt (t : List UInt8) (p : TwtParams) {keys : List TwtKey} (hkeys : keys.Nodup) :
    (keys.foldl (readTwt t) (0, p)).1 = UInt64.ofNat (lastNumber t keys) ∧
      ∀ k, k.get (keys.foldl (readTwt t) (0, p)).2 =
        if k ∈ keys ∧ k.Named t then
          (k.number t).getD (if k = .twt then 0 else lastNumber t (keys.takeWhile (· ≠ k))) %
            2 ^ k.bits
        else k.get p := by
  have hgetD : ∀ (n : Option ℕ) (m : ℕ),
      (n.map UInt64.ofNat).getD (UInt64.ofNat m) = UInt64.ofNat (n.getD m) := by
    intro n m
    cases n <;> rfl
  induction keys using List.reverseRecOn with
  | nil => simp [lastNumber]
  | append_singleton keys x ih =>
    obtain ⟨hnodup, hne⟩ : keys.Nodup ∧ ∀ a ∈ keys, a ≠ x := by
      simpa [List.nodup_append] using hkeys
    obtain ⟨hval, hget⟩ := ih hnodup
    rw [List.foldl_append, List.foldl_cons, List.foldl_nil, readTwt_eq]
    dsimp only
    constructor
    · rw [lastNumber_concat, hval]
      split_ifs
      · rfl
      · rw [hgetD]
    · intro k
      by_cases hk : k = x
      · -- the one looked for last
        subst hk
        have hx : k ∉ keys := fun hmem => hne k hmem rfl
        have hbefore : (keys ++ [k]).takeWhile (· ≠ k) = keys := by
          rw [List.takeWhile_append_of_pos fun a ha => by simpa using hne a ha]
          simp
        have hzero : ∀ m : ℕ, (if k = .twt then (0 : UInt64) else UInt64.ofNat m) =
            UInt64.ofNat (if k = .twt then 0 else m) := fun m => by split_ifs <;> rfl
        rw [hbefore, hval, hzero, hgetD]
        simp only [List.mem_append, List.mem_singleton, or_true, true_and]
        by_cases hnamed : k.Named t
        · rw [if_pos hnamed, if_pos hnamed, TwtKey.get_store_self, TwtKey.toNat_ofNat_mod]
        · rw [if_neg hnamed, if_neg hnamed, hget, if_neg fun h => hx h.1]
      · -- one before it, which is left alone
        have hstore : ∀ val q, k.get (if x.Named t then x.store val q else q) = k.get q := by
          intro val q
          split_ifs
          · exact TwtKey.get_store_of_ne hk val q
          · rfl
        rw [hstore, hget]
        by_cases hin : k ∈ keys
        · have hbefore : (keys ++ [x]).takeWhile (· ≠ k) = keys.takeWhile (· ≠ k) := by
            rw [List.takeWhile_append, if_neg]
            intro hlen
            have hpre : keys.takeWhile (· ≠ k) <+: keys := List.takeWhile_prefix _
            simpa using List.takeWhile_eq_self_iff.mp (hpre.eq_of_length hlen) k hin
          rw [hbefore]
          simp [hin]
        · simp [hin, hk]

/-- **What a parameter is after a setup.** -/
theorem twtParse_get (t : List UInt8) (p : TwtParams) (k : TwtKey) :
    k.get (twtParse t p) = if k.Named t then k.effective t % 2 ^ k.bits else k.get p := by
  have hmem : k ∈ twtKeys := by cases k <;> decide
  have hnodup : twtKeys.Nodup := by decide
  rw [twtParse, (foldl_readTwt t p hnodup).2 k, TwtKey.effective]
  simp only [hmem, true_and]

/-- Two texts are parsed alike exactly when they name the same parameters and each takes the same
number, as far as its width goes. -/
theorem twtParse_eq_iff {t t' : List UInt8} :
    (∀ p, twtParse t' p = twtParse t p) ↔
      ∀ k : TwtKey, (k.Named t' ↔ k.Named t) ∧
        (k.Named t → k.effective t' ≡ k.effective t [MOD 2 ^ k.bits]) := by
  constructor
  · intro h k
    have hget : ∀ p, (if k.Named t' then k.effective t' % 2 ^ k.bits else k.get p) =
        if k.Named t then k.effective t % 2 ^ k.bits else k.get p := fun p => by
      rw [← twtParse_get, h, twtParse_get]
    by_cases hk' : k.Named t' <;> by_cases hk : k.Named t
    · have heq := hget nrfWifiWlanFmacTwtInit.twtCmd
      rw [if_pos hk, if_pos hk'] at heq
      exact ⟨iff_of_true hk' hk, fun _ => heq⟩
    · obtain ⟨p, hp⟩ := k.exists_get_ne (k.effective t')
      have heq := hget p
      rw [if_neg hk, if_pos hk'] at heq
      exact absurd heq.symm hp
    · obtain ⟨p, hp⟩ := k.exists_get_ne (k.effective t)
      have heq := hget p
      rw [if_pos hk, if_neg hk'] at heq
      exact absurd heq hp
    · exact ⟨iff_of_false hk' hk, fun h => absurd h hk⟩
  · intro h p
    refine TwtKey.ext_get fun k => ?_
    obtain ⟨hnamed, hnum⟩ := h k
    rw [twtParse_get, twtParse_get]
    by_cases hk : k.Named t
    · rw [if_pos hk, if_pos (hnamed.mpr hk)]
      exact hnum hk
    · rw [if_neg hk, if_neg (mt hnamed.mp hk)]

end Parse

/-! ### One byte more, in a setup -/

/-- The text ends in the number of a parameter, or where it would stand. -/
def TwtKey.NumberAtEnd (t : List UInt8) (k : TwtKey) : Prop :=
  ∃ rest, afterName t k.text = some rest ∧ ∀ x ∈ rest.dropWhile isSpace, IsDigit 10 x

/-- The byte more does not count for the parameters of a setup: it completes no name, and if it is
one more digit of a number, every parameter has the bits it had. -/
def SetupKeeps (s : List UInt8) (c : UInt8) : Prop :=
  (∀ k : TwtKey, k.Named (s ++ [c]) → k.Named s) ∧
    (IsDigit 10 c → (∃ k : TwtKey, k.NumberAtEnd s) →
      ∀ k : TwtKey, k.Named s → k.effective (s ++ [c]) ≡ k.effective s [MOD 2 ^ k.bits])

section Concat

variable {s r : List UInt8} {c : UInt8} {k : TwtKey} {name : String}

theorem afterName_append (h : afterName s name = some r) (u : List UInt8) :
    afterName (s ++ u) name = some (r ++ u) := by
  rw [afterName, Option.map_eq_some_iff] at h
  obtain ⟨tok, htok, rfl⟩ := h
  rw [afterName, strstr_append htok, Option.map_some,
    List.drop_append_of_le_length (isPrefix_of_strstr htok).length_le]

/-- A number changes with a byte more only if the byte is one more digit of it. -/
theorem leadingNumber_concat (h : ¬ (IsDigit 10 c ∧ ∀ x ∈ r.dropWhile isSpace, IsDigit 10 x)) :
    leadingNumber (r ++ [c]) = leadingNumber r := by
  have htake : ((r ++ [c]).dropWhile isSpace).takeWhile (IsDigit 10 ·) =
      (r.dropWhile isSpace).takeWhile (IsDigit 10 ·) := by
    rw [List.dropWhile_append]
    split_ifs with hblank
    · -- nothing but blanks, so the byte is no digit
      have hnil : r.dropWhile isSpace = [] := List.isEmpty_iff.mp hblank
      have hc : ¬ IsDigit 10 c := fun hc => h ⟨hc, by simp [hnil]⟩
      rw [hnil, List.dropWhile_cons]
      split_ifs <;> simp [hc]
    · rw [List.takeWhile_append]
      split_ifs with hlen
      · have hpre : (r.dropWhile isSpace).takeWhile (IsDigit 10 ·) <+: r.dropWhile isSpace :=
          List.takeWhile_prefix _
        have hself := hpre.eq_of_length hlen
        have hc : ¬ IsDigit 10 c := fun hc =>
          h ⟨hc, by simpa using List.takeWhile_eq_self_iff.mp hself⟩
        rw [List.takeWhile_cons_of_neg (by simpa using hc), List.append_nil, hself]
      · rfl
  rw [leadingNumber, leadingNumber, htake]

theorem number_concat (hnamed : k.Named (s ++ [c]) → k.Named s)
    (h : ¬ (IsDigit 10 c ∧ k.NumberAtEnd s)) : k.number (s ++ [c]) = k.number s := by
  rw [TwtKey.number, TwtKey.number]
  cases hafter : afterName s k.text with
  | some rest =>
    rw [afterName_append hafter]
    exact leadingNumber_concat fun hend => h ⟨hend.1, rest, hafter, hend.2⟩
  | none =>
    have hnone : afterName (s ++ [c]) k.text = none := by
      by_contra hsome
      have hk : k.Named (s ++ [c]) := named_iff.mpr (Option.ne_none_iff_exists'.mp hsome)
      obtain ⟨rest, hrest⟩ := named_iff.mp (hnamed hk)
      exact absurd (hafter.symm.trans hrest) (by simp)
    rw [hnone]

/-- A text is parsed as the text with a byte more exactly when the byte does not count. -/
theorem twtParse_concat_iff : (∀ p, twtParse (s ++ [c]) p = twtParse s p) ↔ SetupKeeps s c := by
  have hgrow : ∀ k : TwtKey, k.Named s → k.Named (s ++ [c]) :=
    fun _ => List.infix_append_of_infix_left
  rw [twtParse_eq_iff, SetupKeeps]
  constructor
  · intro h
    exact ⟨fun k => (h k).1.mp, fun _ _ k => (h k).2⟩
  · rintro ⟨hnamed, hnum⟩ k
    refine ⟨⟨hnamed k, hgrow k⟩, fun hk => ?_⟩
    by_cases hend : IsDigit 10 c ∧ ∃ k : TwtKey, k.NumberAtEnd s
    · exact hnum hend.1 hend.2 k hk
    · have hnumber : TwtKey.number (s ++ [c]) = TwtKey.number s :=
        funext fun j => number_concat (hnamed j) fun h => hend ⟨h.1, j, h.2⟩
      rw [TwtKey.effective, TwtKey.effective, lastNumber, lastNumber, hnumber]

end Concat

/-! ### One byte more, in a teardown -/

/-- The text is one of a teardown, and there is a flow identifier in it. -/
def IsTeardown (buf : List UInt8) : Prop :=
  cBytes "twt_teardown" <:+: buf ∧ cBytes " flow_id=" <:+: buf

/-- The text is a number of an `unsigned long` from `low` on. -/
def NumeralFrom (low : ℤ) (r : List UInt8) : Prop :=
  ∃ v, SignedNumeral false r v ∧ low ≤ v ∧ v < 2 ^ 64

/-- The byte more does not count for a teardown. The flow identifier is `0` where there is no
number, and no flow has one from 256 on. -/
def TeardownKeeps (s : List UInt8) (c : UInt8) : Prop :=
  ¬ IsTeardown (s ++ [c]) ∨ cBytes "twt_teardown" <:+: s ∧ ∃ r, afterName s " flow_id=" = some r ∧
    ((¬ NumeralFrom 1 r ∧ ¬ NumeralFrom 1 (r ++ [c])) ∨
      (NumeralFrom 256 r ∧ NumeralFrom 256 (r ++ [c])))

/-- A flow identifier that a flow can have. -/
def teardownFlow (buf : List UInt8) : Option UInt64 := (teardownFlowId buf).filter (· < 256)

section Teardown

variable {s r buf : List UInt8} {c : UInt8}

theorem afterName_eq_some {name : String} (h : afterName buf name = some r) :
    ∃ tok, strstr (cBytes name) buf = some tok ∧ tok = cBytes name ++ r := by
  rw [afterName, Option.map_eq_some_iff] at h
  obtain ⟨tok, htok, rfl⟩ := h
  exact ⟨tok, htok, List.prefix_iff_eq_append.mp (isPrefix_of_strstr htok) |>.symm⟩

theorem teardownFlowId_of_not_isTeardown (h : ¬ IsTeardown buf) : teardownFlowId buf = none := by
  rw [teardownFlowId]
  split_ifs with hmatch
  · have hno : ¬ (strstr (cBytes " flow_id=") buf).isSome = true :=
      fun hsome => h ⟨strstr_isSome_iff.mp hmatch, strstr_isSome_iff.mp hsome⟩
    rw [Option.not_isSome_iff_eq_none.mp hno]
    rfl
  · rfl

theorem teardownFlowId_eq (h : cBytes "twt_teardown" <:+: buf)
    (hr : afterName buf " flow_id=" = some r) :
    teardownFlowId buf = some ((kstrtoul r).getD 0) := by
  obtain ⟨tok, htok, rfl⟩ := afterName_eq_some hr
  have hname : cBytes " flow_id=" = cBytes " flow_id" ++ [61] := by decide +kernel
  have hmatch : paramGetMatch (cBytes " flow_id=" ++ r) "flow_id=" = true :=
    strstr_isSome_iff.mpr ⟨[32], r, by rw [List.append_assoc]; rfl⟩
  rw [teardownFlowId, paramGetMatch, if_pos (strstr_isSome_iff.mpr h), htok, Option.map_some,
    paramGetVal, if_pos hmatch, hname, List.append_assoc, List.singleton_append,
    afterEquals_append (by decide +kernel)]

/-- The identifier is at least `low` exactly when it is written as a number that is. -/
theorem le_getD_kstrtoul_iff (h10 : 10 ∉ r) {low : ℕ} (hlow : 0 < low) :
    low ≤ ((kstrtoul r).getD 0).toNat ↔ NumeralFrom low r := by
  constructor
  · intro h
    cases hval : kstrtoul r with
    | none =>
      rw [hval] at h
      exact absurd h (Nat.not_le.mpr hlow)
    | some v =>
      rw [hval, Option.getD_some] at h
      have hlt := v.toNat_lt
      exact ⟨v.toNat, (kstrtoul_eq_some h10 v).mp hval, by omega, by omega⟩
  · rintro ⟨v, hnum, hle, hlt⟩
    have hv : ((UInt64.ofNat v.toNat).toNat : ℤ) = v := by
      rw [UInt64.toNat_ofNat_of_lt' (show v.toNat < 2 ^ 64 by omega)]
      omega
    have hread := (kstrtoul_eq_some h10 (UInt64.ofNat v.toNat)).mpr (by rwa [hv])
    rw [hread, Option.getD_some]
    omega

/-- The byte that completes a name is its last one. -/
theorem getLast?_of_infix_concat {name : List UInt8} (h : name <:+: s ++ [c]) (hs : ¬ name <:+: s) :
    name.getLast? = some c := by
  rcases List.infix_concat_iff.mp h with hsuffix | hinfix
  · rcases List.suffix_concat_iff.mp hsuffix with rfl | ⟨name', rfl, -⟩
    · exact absurd (List.nil_infix) hs
    · exact List.getLast?_concat
  · exact absurd hinfix hs

theorem kstrtoul_of_not_numeralByte (h10 : 10 ∉ r) (hr : r <:+ s ++ [c]) (hc : ¬ NumeralByte c) :
    kstrtoul r = none := by
  rcases List.suffix_concat_iff.mp hr with rfl | ⟨r', rfl, -⟩
  · rfl
  · cases hval : kstrtoul (r' ++ [c]) with
    | none => rfl
    | some v => exact absurd (((kstrtoul_eq_some h10 v).mp hval).bytes c (by simp)) hc

/-- The flow identifier is that of the same flow, or of none, with a byte more after it. -/
theorem filter_kstrtoul_concat_iff (h10 : 10 ∉ r ++ [c]) :
    (some ((kstrtoul (r ++ [c])).getD 0)).filter (· < 256) =
        (some ((kstrtoul r).getD 0)).filter (· < 256) ↔
      (¬ NumeralFrom 1 r ∧ ¬ NumeralFrom 1 (r ++ [c])) ∨
        (NumeralFrom 256 r ∧ NumeralFrom 256 (r ++ [c])) := by
  have h10' : 10 ∉ r := fun h => h10 (List.mem_append_left _ h)
  -- a number other than zero is not the same with a digit more
  have hne : (kstrtoul (r ++ [c])).getD 0 = (kstrtoul r).getD 0 → (kstrtoul r).getD 0 = 0 := by
    intro heq
    cases hval : kstrtoul r with
    | none => rfl
    | some v =>
      cases hval' : kstrtoul (r ++ [c]) with
      | none =>
        rw [hval, hval'] at heq
        exact heq.symm
      | some v' =>
        rw [hval, hval', Option.getD_some, Option.getD_some] at heq
        have hnum := (kstrtoul_eq_some h10' v).mp hval
        have hnum' := (kstrtoul_eq_some h10 v').mp hval'
        rw [heq, signedNumeral_concat_iff hnum] at hnum'
        exact UInt64.toNat_inj.mp (Int.ofNat_inj.mp hnum'.1)
  have hone := le_getD_kstrtoul_iff h10' Nat.one_pos
  have hone' := le_getD_kstrtoul_iff h10 Nat.one_pos
  have hbig := le_getD_kstrtoul_iff h10' (show 0 < 256 by decide)
  have hbig' := le_getD_kstrtoul_iff h10 (show 0 < 256 by decide)
  push_cast at hone hone' hbig hbig'
  rw [← hone, ← hone', ← hbig, ← hbig']
  generalize (kstrtoul (r ++ [c])).getD 0 = v' at hne
  generalize (kstrtoul r).getD 0 = v at hne
  have hzero : ∀ x : UInt64, ¬ 1 ≤ x.toNat ↔ x = 0 := fun x => by
    rw [← UInt64.toNat_inj]
    exact Nat.not_le.trans Nat.lt_one_iff
  have hlt : ∀ x : UInt64, x < 256 ↔ ¬ 256 ≤ x.toNat := fun x =>
    UInt64.lt_iff_toNat_lt.trans Nat.not_le.symm
  simp only [Option.filter_some, decide_eq_true_eq, hlt, hzero]
  have hlarge : ∀ {x : UInt64}, 256 ≤ x.toNat → x ≠ 0 := by
    rintro x hx rfl
    exact absurd hx (by decide)
  by_cases hv : 256 ≤ v.toNat <;> by_cases hv' : 256 ≤ v'.toNat
  · simp [hv, hv']
  · simp [hv, hv', hlarge hv]
  · simp [hv, hv', hlarge hv']
  · simp only [hv, hv', not_false_eq_true, if_true, Option.some.injEq, and_false, or_false]
    constructor
    · intro heq
      exact ⟨hne heq, heq.trans (hne heq)⟩
    · rintro ⟨rfl, rfl⟩
      rfl

/-- A teardown is of the same flow exactly when the byte more does not count. -/
theorem teardownFlow_concat_iff (h10 : 10 ∉ s ++ [c]) :
    teardownFlow (s ++ [c]) = teardownFlow s ↔ TeardownKeeps s c := by
  have h10' : 10 ∉ s := fun h => h10 (List.mem_append_left _ h)
  have hsuffix : ∀ {buf r}, afterName buf " flow_id=" = some r → r <:+ buf := by
    intro buf r hr
    obtain ⟨tok, htok, rfl⟩ := afterName_eq_some hr
    exact (List.suffix_append _ _).trans (strstr_suffix htok)
  rw [TeardownKeeps, teardownFlow, teardownFlow]
  by_cases hsc : IsTeardown (s ++ [c])
  · obtain ⟨r', hr'⟩ := (named_iff (k := .flowId)).mp hsc.2
    have hr'' := fun h => h10 ((hsuffix hr').subset h)
    rw [teardownFlowId_eq hsc.1 hr', or_iff_right (not_not_intro hsc)]
    by_cases hs : cBytes "twt_teardown" <:+: s ∧ cBytes " flow_id=" <:+: s
    · obtain ⟨r, hr⟩ := (named_iff (k := .flowId)).mp hs.2
      obtain rfl : r' = r ++ [c] := Option.some.inj (hr'.symm.trans (afterName_append hr [c]))
      rw [teardownFlowId_eq hs.1 hr, filter_kstrtoul_concat_iff hr'']
      constructor
      · exact fun h => ⟨hs.1, r, hr, h⟩
      · rintro ⟨-, r₀, hr₀, h⟩
        obtain rfl := Option.some.inj (hr.symm.trans hr₀)
        exact h
    · -- the byte completes a name, so there is no number, and the flow asked for is the first
      have hc : ¬ NumeralByte c := by
        by_cases hname : cBytes "twt_teardown" <:+: s
        · have hlast := getLast?_of_infix_concat hsc.2 fun h => hs ⟨hname, h⟩
          have h61 : (cBytes " flow_id=").getLast? = some 61 := by decide +kernel
          rw [← Option.some.inj (h61.symm.trans hlast)]
          decide
        · have hlast := getLast?_of_infix_concat hsc.1 hname
          have h110 : (cBytes "twt_teardown").getLast? = some 110 := by decide +kernel
          rw [← Option.some.inj (h110.symm.trans hlast)]
          decide
      rw [kstrtoul_of_not_numeralByte hr'' (hsuffix hr') hc, teardownFlowId_of_not_isTeardown hs]
      refine iff_of_false (by simp) ?_
      rintro ⟨hname, r, hr, -⟩
      exact hs ⟨hname, (named_iff (k := .flowId)).mpr ⟨r, hr⟩⟩
  · have hs : ¬ IsTeardown s := fun h =>
      hsc ⟨List.infix_append_of_infix_left h.1, List.infix_append_of_infix_left h.2⟩
    rw [teardownFlowId_of_not_isTeardown hsc, teardownFlowId_of_not_isTeardown hs]
    exact iff_of_true rfl (Or.inl hsc)

end Teardown

/-! ### Writes of the TWT file -/

/-- Without the newline, a write of the text stays inside the buffer, and has the same events and
ends in the same state as with it. -/
def TwtSame (t : List UInt8) : Prop :=
  ∀ allocated copied o,
    let w : TwtWrite := ⟨t, allocated, copied, o⟩
    let w' : TwtWrite := ⟨t ++ [10], allocated, copied, o⟩
    (∀ i ∈ w.accesses, i < maxConfBufSize) ∧
      ∀ p, (nrfWifiWlanTwtWrite p w).1 = (nrfWifiWlanTwtWrite p w').1 ∧
        (nrfWifiWlanTwtWrite p w).2.1 = (nrfWifiWlanTwtWrite p w').2.1

/-- The text is one of a setup. -/
def IsSetup (buf : List UInt8) : Prop := cBytes "twt_setup " <:+: buf

instance (buf : List UInt8) : Decidable (IsSetup buf) := inferInstanceAs (Decidable (_ <:+: _))

/-- The byte more does not count for the TWT file. A setup keeps 200 bytes of the text, so it is to
come after those. -/
def TwtKeeps (s : List UInt8) (c : UInt8) : Prop :=
  (¬ IsSetup (s ++ [c]) ∧ TeardownKeeps s c) ∨ (IsSetup s ∧ 200 ≤ s.length ∧ SetupKeeps s c)

section TwtWrites

variable {t s : List UInt8} {c : UInt8}

/-- The bytes a setup keeps are the same when the last byte of the text is not among them. -/
theorem confBuf_take_eq_iff (h0 : 0 ∉ s ++ [c]) :
    (confBuf (s ++ [c])).take 200 = (confBuf (s ++ [c] ++ [10])).take 200 ↔ 200 ≤ s.length := by
  have hself : confBuf (s ++ [c]) = s ++ List.replicate (maxConfBufSize - s.length) 0 := by
    rw [confBuf, List.dropLast_concat, List.length_append]
    rfl
  have hnl : ∃ rest, confBuf (s ++ [c] ++ [10]) = s ++ c :: rest := by
    rw [confBuf, List.dropLast_concat, List.append_assoc]
    exact ⟨_, rfl⟩
  obtain ⟨rest, hnl⟩ := hnl
  rw [hself, hnl]
  constructor
  · intro heq
    by_contra hlt
    have hc : c ≠ 0 := fun h => h0 (h ▸ by simp)
    have hzero : (s ++ List.replicate (maxConfBufSize - s.length) (0 : UInt8))[s.length]? =
        some 0 := by
      have hpos : 0 < maxConfBufSize - s.length := by
        rw [maxConfBufSize]
        omega
      simp [hpos]
    have hbyte := congrArg (fun l => l[s.length]?) heq
    simp only [List.getElem?_take_of_lt (Nat.not_le.mp hlt), hzero] at hbyte
    simp at hbyte
    exact hc hbyte.symm
  · intro hle
    rw [List.take_append_of_le_length hle, List.take_append_of_le_length hle]

theorem isSetup_iff {buf : List UInt8} :
    paramGetMatch buf "twt_setup " = true ↔ IsSetup buf := strstr_isSome_iff

/-- A flow in use is the one asked for when its number is the flow identifier. -/
theorem teardownFlow_eq_some_iff {buf : List UInt8} (flow : UInt8) :
    (teardownFlowId buf).map UInt64.toNat = some flow.toNat ↔
      teardownFlow buf = some flow.toUInt64 := by
  have hflow : flow.toUInt64.toNat = flow.toNat := UInt8.toNat_toUInt64 flow
  have hlt : flow.toUInt64 < 256 := by
    rw [UInt64.lt_iff_toNat_lt, hflow]
    exact flow.toNat_lt
  rw [teardownFlow, Option.map_eq_some_iff, Option.filter_eq_some_iff]
  constructor
  · rintro ⟨id, hid, heq⟩
    rw [← hflow, UInt64.toNat_inj] at heq
    exact ⟨heq ▸ hid, by simpa using hlt⟩
  · rintro ⟨hid, -⟩
    exact ⟨_, hid, hflow⟩

/-- The identifier of a teardown is that of every flow alike exactly when it is the same. -/
theorem teardownFlow_eq_iff {a b : List UInt8} :
    (∀ flow : UInt8, teardownFlow a = some flow.toUInt64 ↔ teardownFlow b = some flow.toUInt64) ↔
      teardownFlow a = teardownFlow b := by
  have hflow : ∀ {buf id}, teardownFlow buf = some id → ∃ flow : UInt8, id = flow.toUInt64 := by
    intro buf id h
    have hlt : id.toNat < 256 := by
      have := (Option.filter_eq_some_iff.mp h).2
      exact UInt64.lt_iff_toNat_lt.mp (by simpa using this)
    refine ⟨id.toUInt8, UInt64.toNat_inj.mp ?_⟩
    rw [UInt8.toNat_toUInt64, UInt64.toNat_toUInt8]
    omega
  constructor
  · intro h
    refine Option.ext fun id => ?_
    constructor
    · intro ha
      obtain ⟨flow, rfl⟩ := hflow ha
      exact (h flow).mp ha
    · intro hb
      obtain ⟨flow, rfl⟩ := hflow hb
      exact (h flow).mpr hb
  · intro h flow
    rw [h]

/-- What is done for a text that is not a setup. -/
theorem twtHandle_of_not_isSetup {conf : List UInt8} (h : ¬ IsSetup conf) (raw : List UInt8)
    (o : TwtOutcomes) (p : RpuTwtParams) :
    twtHandle conf raw o p = (p,
      if teardownFlow conf = some p.twtCmd.twtFlowId.toUInt64 then
        if o.kzallocTeardown then [.teardown o.teardown]
        else [.prErr (some "nrf_wifi_wlan_twt_write: Unable to allocate memory\n")]
      else [.prErr none]) := by
  rw [twtHandle, if_neg (mt isSetup_iff.mp h)]
  simp only [teardownFlow_eq_some_iff]
  by_cases hflow : teardownFlow conf = some p.twtCmd.twtFlowId.toUInt64
  · rw [if_pos hflow, if_pos hflow]
    cases o.kzallocTeardown <;> rfl
  · rw [if_neg hflow, if_neg hflow]

/-- What is done for a setup. -/
theorem twtHandle_of_isSetup {conf : List UInt8} (h : IsSetup conf) (raw : List UInt8)
    (o : TwtOutcomes) (p : RpuTwtParams) :
    twtHandle conf raw o p =
      (⟨twtParse conf p.twtCmd, raw ++ p.twtSetupCmd.drop 200⟩,
        if o.kzallocSetup then twtAttempts o (twtParse conf p.twtCmd) 2 0
        else [.prErr (some "nrf_wifi_wlan_twt_write: Unable to allocate memory\n")]) := by
  rw [twtHandle, if_pos (isSetup_iff.mpr h)]
  cases o.kzallocSetup <;> rfl

/-- The text of a write with a newline and the text of one without do the same exactly when the last
byte does not count. -/
theorem twtHandle_eq_iff {raw raw' : List UInt8} (h10 : 10 ∉ s ++ [c])
    (hraw : raw' = raw ↔ 200 ≤ s.length) :
    (∀ o p, twtHandle s raw' o p = twtHandle (s ++ [c]) raw o p) ↔ TwtKeeps s c := by
  by_cases hs : IsSetup s
  · have hsc : IsSetup (s ++ [c]) := List.infix_append_of_infix_left hs
    rw [TwtKeeps, or_iff_right fun h => h.1 hsc, and_iff_right hs, ← hraw,
      ← twtParse_concat_iff]
    constructor
    · intro h
      refine ⟨?_, fun p => ?_⟩
      · have heq := congrArg (fun r => r.1.twtSetupCmd) (h .success nrfWifiWlanFmacTwtInit)
        simpa [twtHandle_of_isSetup hs, twtHandle_of_isSetup hsc] using heq
      · have heq := congrArg (fun r => r.1.twtCmd) (h .success ⟨p, []⟩)
        rw [twtHandle_of_isSetup hs, twtHandle_of_isSetup hsc] at heq
        exact heq.symm
    · rintro ⟨rfl, hparse⟩ o p
      rw [twtHandle_of_isSetup hs, twtHandle_of_isSetup hsc, hparse]
  rw [TwtKeeps, or_iff_left fun h => hs h.1]
  by_cases hsc : IsSetup (s ++ [c])
  · -- one sends a setup, and the other none
    refine iff_of_false (fun h => ?_) fun h => h.1 hsc
    have hev := congrArg (fun r => r.2.head?) (h .success nrfWifiWlanFmacTwtInit)
    rw [twtHandle_of_not_isSetup hs, twtHandle_of_isSetup hsc] at hev
    simp only [TwtOutcomes.success, if_true, twtAttempts] at hev
    split_ifs at hev <;> simp at hev
  · rw [and_iff_right hsc, ← teardownFlow_concat_iff h10]
    constructor
    · intro h
      refine teardownFlow_eq_iff.mp fun flow => ?_
      have hev := congrArg Prod.snd
        (h .success ⟨{ nrfWifiWlanFmacTwtInit.twtCmd with twtFlowId := flow }, []⟩)
      rw [twtHandle_of_not_isSetup hs, twtHandle_of_not_isSetup hsc] at hev
      simp only [TwtOutcomes.success, if_true] at hev
      by_cases ha : teardownFlow (s ++ [c]) = some flow.toUInt64 <;>
        by_cases hb : teardownFlow s = some flow.toUInt64 <;> simp_all
    · intro h o p
      rw [twtHandle_of_not_isSetup hs, twtHandle_of_not_isSetup hsc, h]

/-- The part of a write about the text, when the write gets that far. -/
theorem nrfWifiWlanTwtWrite_of_copied (hlen : t.length < maxConfBufSize) (o : TwtOutcomes)
    (p : RpuTwtParams) :
    nrfWifiWlanTwtWrite p ⟨t, true, true, o⟩ =
      ((twtHandle (cString t.dropLast) ((confBuf t).take 200) o p).1,
        (twtHandle (cString t.dropLast) ((confBuf t).take 200) o p).2, (t.length : ℤ)) := by
  rw [nrfWifiWlanTwtWrite, if_neg (Nat.not_le.mpr hlen), ← cString_confBuf]
  rfl

/-- A setup copies bytes of the buffer and no others. -/
theorem TwtWrite.accesses_lt_iff {w : TwtWrite} (h : w.inBuf.length < maxConfBufSize) :
    (∀ i ∈ w.accesses, i < maxConfBufSize) ↔
      (w.allocated = true → w.copied = true → w.inBuf ≠ []) := by
  refine confAccesses_lt_iff h _ _ fun i hi => ?_
  rw [maxConfBufSize]
  split_ifs at hi
  · exact (List.mem_range.mp hi).trans (by decide)
  · exact absurd hi List.not_mem_nil

theorem twtSame_iff (h0 : 0 ∉ t) (h10 : 10 ∉ t) (hlen : t.length < 499) :
    TwtSame t ↔ ∃ s c, t = s ++ [c] ∧ TwtKeeps s c := by
  have hsize : t.length < maxConfBufSize := by
    rw [maxConfBufSize]
    omega
  have hsize' : (t ++ [10]).length < maxConfBufSize := by
    rw [List.length_append, List.length_singleton, maxConfBufSize]
    omega
  -- the writes do the same when what they do for the text is the same
  have hgo : ∀ {s c}, t = s ++ [c] → ((∀ o p,
      (nrfWifiWlanTwtWrite p ⟨t, true, true, o⟩).1 =
          (nrfWifiWlanTwtWrite p ⟨t ++ [10], true, true, o⟩).1 ∧
        (nrfWifiWlanTwtWrite p ⟨t, true, true, o⟩).2.1 =
          (nrfWifiWlanTwtWrite p ⟨t ++ [10], true, true, o⟩).2.1) ↔ TwtKeeps s c) := by
    rintro s c rfl
    rw [← twtHandle_eq_iff h10 (confBuf_take_eq_iff h0)]
    refine forall₂_congr fun o p => ?_
    have h0' : 0 ∉ s := fun h => h0 (List.mem_append_left _ h)
    rw [nrfWifiWlanTwtWrite_of_copied hsize, nrfWifiWlanTwtWrite_of_copied hsize',
      List.dropLast_concat, List.dropLast_concat, cString_eq_self h0, cString_eq_self h0',
      Prod.ext_iff]
  constructor
  · intro h
    have hbuf := (h true true .success).1
    have hne : t ≠ [] := (TwtWrite.accesses_lt_iff hsize).mp hbuf rfl rfl
    obtain ⟨s, c, rfl⟩ := (List.eq_nil_or_concat' t).resolve_left hne
    exact ⟨s, c, rfl, (hgo rfl).mp fun o => (h true true o).2⟩
  · rintro ⟨s, c, rfl, hkeeps⟩ allocated copied o
    refine ⟨(TwtWrite.accesses_lt_iff hsize).mpr fun _ _ => by simp, fun p => ?_⟩
    by_cases hcopied : allocated = true ∧ copied = true
    · obtain ⟨rfl, rfl⟩ := hcopied
      exact (hgo rfl).mpr hkeeps o p
    · -- neither write gets as far as the text
      rw [nrfWifiWlanTwtWrite, nrfWifiWlanTwtWrite, if_neg (Nat.not_le.mpr hsize),
        if_neg (Nat.not_le.mpr hsize')]
      cases allocated with
      | false => exact ⟨rfl, rfl⟩
      | true =>
        cases copied with
        | false => exact ⟨rfl, rfl⟩
        | true => exact absurd ⟨rfl, rfl⟩ hcopied

end TwtWrites

end Nrf70
