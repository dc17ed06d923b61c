import Mathlib.Data.List.TakeWhile
import Nrf70.Debugfs.FmacConf
import Nrf70.Debugfs.RadioConf
import Nrf70.Lib.Numeral

/-!
# The handlers the configuration files call

One would expect a text to call the handler of a parameter exactly when it is the name of the
parameter, `=`, and a number. The `conf` files look for the name anywhere in the text and read the
number after the first `=` of it, so they are exact only up to three kinds of text: a name with
something in front of it, a number above `LONG_MAX` for a parameter that is read as unsigned, and a
negative number for one that is documented to have them and is read as unsigned all the same.

## Main definitions

* `NumKeys` — the names of a file, none of which is the end of another
* `NumKeys.Denotes` — the texts that should call a handler
* `NumKeys.Misread` — the three kinds

## Main results

* `numeric_eq_some` — what a dispatch chain reads
* `dispatch_exact_iff` — the texts that call exactly the handler they name, for both files
-/

namespace Nrf70

/-! ### Reading a number -/

/-- The number read for a parameter, with `param_get_sval` or with `param_get_val`. -/
def readNum (buf : List UInt8) (signed : Bool) (str : String) : Option ℤ :=
  if signed then (paramGetSval buf str).map Int64.toInt
  else (paramGetVal buf str).map fun val => (val.toNat : ℤ)

/-- The range of a `long`, or of an `unsigned long`. -/
def InRange (signed : Bool) (v : ℤ) : Prop :=
  if signed then -2 ^ 63 ≤ v ∧ v < 2 ^ 63 else 0 ≤ v ∧ v < 2 ^ 64

/-- A text that ends in a name with `=`, and a number after it. There is no other `=`. -/
def ReadsAs (signed : Bool) (text buf : List UInt8) (v : ℤ) : Prop :=
  ∃ pre num, buf = pre ++ text ++ num ∧ 61 ∉ pre ∧ SignedNumeral signed num v

/-- A name is followed by `=` and has no other. -/
def IsParamText (text : List UInt8) : Prop := ∃ name, text = name ++ [61] ∧ 61 ∉ name

section ReadNum

variable {buf text : List UInt8} {signed : Bool} {v : ℤ} {str : String}

theorem SignedNumeral.not_mem_equals {num : List UInt8} (h : SignedNumeral signed num v) :
    61 ∉ num :=
  fun hmem => absurd (h.bytes 61 hmem) (by decide)

theorem isParamText_iff : IsParamText text ↔ text.getLast? = some 61 ∧ 61 ∉ text.dropLast := by
  constructor
  · rintro ⟨name, rfl, hname⟩
    simpa using hname
  · rintro ⟨hlast, hname⟩
    obtain ⟨name, rfl⟩ := List.getLast?_eq_some_iff.mp hlast
    exact ⟨name, rfl, by simpa using hname⟩

instance : Decidable (IsParamText text) := decidable_of_iff _ isParamText_iff.symm

theorem afterEquals_append {pre : List UInt8} (hpre : 61 ∉ pre) (rest : List UInt8) :
    afterEquals (pre ++ 61 :: rest) = rest := by
  have heq : cBytes "=" = [61] := rfl
  rw [afterEquals, heq, strstr_singleton hpre]
  rfl

/-- The name is somewhere in the text, and what stands after the first `=` is a number. -/
theorem readsAs_iff (htext : IsParamText text) :
    text <:+: buf ∧ SignedNumeral signed (afterEquals buf) v ↔ ReadsAs signed text buf v := by
  obtain ⟨name, rfl, hname⟩ := htext
  constructor
  · rintro ⟨⟨a, b, hbuf⟩, hnum⟩
    have hmem : 61 ∈ buf := by simp [← hbuf]
    obtain ⟨pre, num, rfl, hpre⟩ := List.eq_append_cons_of_mem hmem
    rw [afterEquals_append hpre] at hnum
    have hsplit : pre ++ 61 :: num = (a ++ name) ++ 61 :: b := by simp [← hbuf]
    obtain ⟨rfl, -, rfl⟩ :=
      (List.append_cons_inj_of_notMem hpre hnum.not_mem_equals).mp hsplit
    exact ⟨a, num, by simp, fun h => hpre (List.mem_append_left name h), hnum⟩
  · rintro ⟨pre, num, rfl, hpre, hnum⟩
    refine ⟨⟨pre, num, rfl⟩, ?_⟩
    have heq : pre ++ (name ++ [61]) ++ num = (pre ++ name) ++ 61 :: num := by simp
    rw [heq, afterEquals_append (by simp [hpre, hname])]
    exact hnum

theorem not_mem_afterEquals (h : 10 ∉ buf) : 10 ∉ afterEquals buf := by
  intro hmem
  cases hs : strstr (cBytes "=") buf with
  | none => simp [afterEquals, hs] at hmem
  | some r =>
    rw [afterEquals, hs] at hmem
    exact h ((strstr_suffix hs).subset (List.mem_of_mem_drop hmem))

/-- **What is read for a parameter.** -/
theorem readNum_eq_some (htext : IsParamText (cBytes str)) (h10 : 10 ∉ buf) :
    readNum buf signed str = some v ↔ ReadsAs signed (cBytes str) buf v ∧ InRange signed v := by
  rw [← readsAs_iff htext, ← strstr_isSome_iff, InRange, readNum]
  have h10' := not_mem_afterEquals h10
  cases signed with
  | true =>
    rw [if_pos rfl, if_pos rfl, paramGetSval, paramGetMatch]
    split_ifs with hmatch
    · simp only [Option.map_eq_some_iff, kstrtol_eq_some h10', hmatch, true_and]
      constructor
      · rintro ⟨val, hnum, rfl⟩
        exact ⟨hnum, val.minValue_le_toInt, val.toInt_lt⟩
      · rintro ⟨hnum, hlow, hhigh⟩
        have hval : (Int64.ofInt v).toInt = v := Int64.toInt_ofInt_of_le hlow hhigh
        exact ⟨Int64.ofInt v, by rwa [hval], hval⟩
    · simp [hmatch]
  | false =>
    rw [if_neg Bool.false_ne_true, if_neg Bool.false_ne_true, paramGetVal, paramGetMatch]
    split_ifs with hmatch
    · simp only [Option.map_eq_some_iff, kstrtoul_eq_some h10', hmatch, true_and]
      constructor
      · rintro ⟨val, hnum, rfl⟩
        have hlt := val.toNat_lt
        exact ⟨hnum, by omega, by omega⟩
      · rintro ⟨hnum, hlow, hhigh⟩
        have hval : ((UInt64.ofNat v.toNat).toNat : ℤ) = v := by
          rw [UInt64.toNat_ofNat_of_lt' (show v.toNat < 2 ^ 64 by omega), Int.toNat_of_nonneg hlow]
        exact ⟨UInt64.ofNat v.toNat, by rwa [hval], hval⟩
    · simp [hmatch]

end ReadNum

/-! ### The names of a file -/

/-- The parameters of a `conf` file that take a number, in the order their names are tried. No name
is the end of another. -/
structure NumKeys (κ : Type) where
  keys : List κ
  str : κ → String
  signed : κ → Bool
  mem_keys : ∀ k, k ∈ keys
  isParamText : ∀ k, IsParamText (cBytes (str k))
  eq_of_suffix : ∀ k k', cBytes (str k) <:+ cBytes (str k') → k = k'

namespace NumKeys

variable {κ : Type} (K : NumKeys κ)

/-- The first parameter for which a number is read, and the number. -/
def numeric (buf : List UInt8) : Option (κ × ℤ) :=
  K.keys.findSome? fun k => (readNum buf (K.signed k) (K.str k)).map (k, ·)

variable {K} {buf : List UInt8} {k k' : κ} {v v' : ℤ}

/-- A text is read for one parameter at most. -/
theorem eq_of_readsAs {signed signed' : Bool} (h : ReadsAs signed (cBytes (K.str k)) buf v)
    (h' : ReadsAs signed' (cBytes (K.str k')) buf v') : k = k' := by
  obtain ⟨pre, num, hbuf, hpre, hnum⟩ := h
  obtain ⟨pre', num', hbuf', hpre', hnum'⟩ := h'
  obtain ⟨name, htext, hname⟩ := K.isParamText k
  obtain ⟨name', htext', hname'⟩ := K.isParamText k'
  have hsplit : (pre ++ name) ++ 61 :: num = (pre' ++ name') ++ 61 :: num' := by
    rw [htext] at hbuf
    rw [htext'] at hbuf'
    simpa using hbuf.symm.trans hbuf'
  have heq := ((List.append_cons_inj_of_notMem (by simp [hpre, hname]) hnum.not_mem_equals).mp
    hsplit).1
  have hsuffix : name <:+ pre ++ name := List.suffix_append pre name
  have hsuffix' : name' <:+ pre ++ name := heq ▸ List.suffix_append pre' name'
  rcases List.suffix_or_suffix_of_suffix hsuffix hsuffix' with hs | hs
  · refine K.eq_of_suffix k k' ?_
    rw [htext, htext']
    exact List.suffix_concat_iff.mpr (Or.inr ⟨_, rfl, hs⟩)
  · refine (K.eq_of_suffix k' k ?_).symm
    rw [htext, htext']
    exact List.suffix_concat_iff.mpr (Or.inr ⟨_, rfl, hs⟩)

/-- **What a dispatch chain reads.** The order of the names does not matter. -/
theorem numeric_eq_some (h10 : 10 ∉ buf) :
    K.numeric buf = some (k, v) ↔
      ReadsAs (K.signed k) (cBytes (K.str k)) buf v ∧ InRange (K.signed k) v := by
  rw [← readNum_eq_some (K.isParamText k) h10]
  have hread : ∀ {k v}, readNum buf (K.signed k) (K.str k) = some v →
      ReadsAs (K.signed k) (cBytes (K.str k)) buf v :=
    fun h => ((readNum_eq_some (K.isParamText _) h10).mp h).1
  constructor
  · intro h
    obtain ⟨k₀, -, h₀⟩ := List.exists_of_findSome?_eq_some h
    obtain ⟨v₀, hv₀, heq⟩ := Option.map_eq_some_iff.mp h₀
    obtain ⟨rfl, rfl⟩ := Prod.mk.inj heq
    exact hv₀
  · intro h
    cases hnum : K.numeric buf with
    | none =>
      have hnone := List.findSome?_eq_none_iff.mp hnum k (K.mem_keys k)
      simp [h] at hnone
    | some r =>
      obtain ⟨k₀, -, h₀⟩ := List.exists_of_findSome?_eq_some hnum
      obtain ⟨v₀, hv₀, rfl⟩ := Option.map_eq_some_iff.mp h₀
      obtain rfl := eq_of_readsAs (hread hv₀) (hread h)
      rw [h] at hv₀
      rw [Option.some.inj hv₀]

/-! ### Texts that should call a handler, and texts that are misread -/

variable (K) (neg : κ → Bool) (shut : List UInt8 → Prop)

/-- The text is the name of the parameter, `=`, and a number in the range of a `long`. `neg` are
the parameters that may be negative. -/
def Denotes (t : List UInt8) (k : κ) (v : ℤ) : Prop :=
  ∃ num, t = cBytes (K.str k) ++ num ∧ SignedNumeral (neg k) num v ∧ -2 ^ 63 ≤ v ∧ v < 2 ^ 63

/-- The texts that call a handler without being its name and a number, or are that and call none.
`shut` are the texts that call no handler of a number at all. -/
inductive Misread : List UInt8 → Prop
  /-- There is something in front of the name. -/
  | prefixed {pre k num v} (hne : pre ≠ []) (hpre : 61 ∉ pre)
      (hnum : SignedNumeral (K.signed k) num v) (hrange : InRange (K.signed k) v)
      (hshut : ¬ shut (pre ++ cBytes (K.str k) ++ num)) : Misread (pre ++ cBytes (K.str k) ++ num)
  /-- The number is one of an `unsigned long` only. -/
  | large {k num v} (hk : K.signed k = false) (hnum : SignedNumeral false num v)
      (hlow : 2 ^ 63 ≤ v) (hhigh : v < 2 ^ 64) : Misread (cBytes (K.str k) ++ num)
  /-- The number is negative and the parameter read as unsigned. -/
  | minus {k num} {n : ℕ} (hk : K.signed k = false) (hneg : neg k = true) (hnum : Numeral num n)
      (hn : n ≤ 2 ^ 63) : Misread (cBytes (K.str k) ++ 45 :: num)

variable {K neg shut}

theorem inRange_of_long {signed : Bool} (hlow : signed = false → 0 ≤ v) (h : -2 ^ 63 ≤ v)
    (h' : v < 2 ^ 63) : InRange signed v := by
  rw [InRange]
  cases signed with
  | true => exact ⟨h, h'⟩
  | false => exact ⟨hlow rfl, by omega⟩

/-- A name and a number of a `long` that can be read for it are not misread. -/
theorem not_misread {num : List UInt8} (hnum : SignedNumeral (K.signed k) num v)
    (hv : v < 2 ^ 63) : ¬ K.Misread neg shut (cBytes (K.str k) ++ num) := by
  intro hmis
  have hself : ReadsAs (K.signed k) (cBytes (K.str k)) (cBytes (K.str k) ++ num) v :=
    ⟨[], num, rfl, by simp, hnum⟩
  obtain ⟨name, htext, hname⟩ := K.isParamText k
  generalize ht : cBytes (K.str k) ++ num = t at hmis hself
  -- whatever is read of the text, it is the parameter and the number of the text
  have hsplit : ∀ {pre k' num'}, t = pre ++ cBytes (K.str k') ++ num' → 61 ∉ pre →
      61 ∉ num' → k = k' → pre = [] ∧ num' = num := by
    rintro pre k' num' heq hpre hnum' rfl
    have heq' : (pre ++ name) ++ 61 :: num' = name ++ 61 :: num := by
      rw [← ht, htext] at heq
      simpa using heq.symm
    obtain ⟨hnil, -, rfl⟩ :=
      (List.append_cons_inj_of_notMem (by simp [hpre, hname]) hnum').mp heq'
    exact ⟨List.append_left_eq_self.mp hnil, rfl⟩
  cases hmis with
  | @prefixed pre k' num' v' hne hpre hnum' =>
    have hk := eq_of_readsAs hself ⟨pre, num', rfl, hpre, hnum'⟩
    exact hne (hsplit rfl hpre hnum'.not_mem_equals hk).1
  | @large k' num' v' hk' hnum' hlow =>
    have hk := eq_of_readsAs hself ⟨[], num', rfl, by simp, hnum'⟩
    obtain ⟨-, rfl⟩ := @hsplit [] k' num' rfl (by simp) hnum'.not_mem_equals hk
    have := hnum.unique hnum'
    omega
  | @minus k' num' n hk' hneg hnum' hn =>
    have hread : SignedNumeral true (45 :: num') (-n) := .minus rfl hnum'
    have hk := eq_of_readsAs hself ⟨[], 45 :: num', rfl, by simp, hread⟩
    obtain ⟨-, rfl⟩ := @hsplit [] k' (45 :: num') rfl (by simp) hread.not_mem_equals hk
    rw [hk, hk', signedNumeral_minus_iff] at hnum
    exact Bool.false_ne_true hnum.1

/-- **Which texts call exactly the handler they name.** -/
theorem exact_iff (hneg : ∀ k, K.signed k = true → neg k = true)
    (hshut : ∀ {k num v}, SignedNumeral true num v → ¬ shut (cBytes (K.str k) ++ num))
    {t : List UInt8} (h10 : 10 ∉ t) :
    (∀ k v, ¬ shut t ∧ K.numeric t = some (k, v) ↔ K.Denotes neg t k v) ↔
      ¬ K.Misread neg shut t := by
  simp only [numeric_eq_some h10]
  constructor
  · intro h hmis
    cases hmis with
    | @prefixed pre k num v hne hpre hnum hrange hshut =>
      obtain ⟨num', heq, hnum', -⟩ := (h k v).mp ⟨hshut, ⟨pre, num, rfl, hpre, hnum⟩, hrange⟩
      obtain ⟨name, htext, hname⟩ := K.isParamText k
      have hsplit : (pre ++ name) ++ 61 :: num = name ++ 61 :: num' := by simpa [htext] using heq
      have hpre' := ((List.append_cons_inj_of_notMem (by simp [hpre, hname])
        hnum.not_mem_equals).mp hsplit).1
      exact hne (List.append_left_eq_self.mp hpre')
    | @large k num v hk hnum hlow hhigh =>
      obtain ⟨-, -, -, -, hlt⟩ := (h k v).mp
        ⟨hshut (hnum.mono fun _ => rfl), ⟨[], num, rfl, by simp, hk ▸ hnum⟩, by
          rw [InRange, hk]
          exact ⟨hnum.nonneg, hhigh⟩⟩
      omega
    | @minus k num n hk hneg' hnum hn =>
      obtain ⟨-, ⟨pre, num', heq, hpre, hnum'⟩, -⟩ := (h k (-n)).mpr
        ⟨45 :: num, rfl, .minus hneg' hnum, by omega, by omega⟩
      obtain ⟨name, htext, hname⟩ := K.isParamText k
      have hsplit : (pre ++ name) ++ 61 :: num' = name ++ 61 :: 45 :: num := by
        simpa [htext] using heq.symm
      obtain ⟨-, -, rfl⟩ := (List.append_cons_inj_of_notMem (by simp [hpre, hname])
        hnum'.not_mem_equals).mp hsplit
      rw [hk, signedNumeral_minus_iff] at hnum'
      exact Bool.false_ne_true hnum'.1
  · intro hmis k v
    constructor
    · rintro ⟨hopen, ⟨pre, num, rfl, hpre, hnum⟩, hrange⟩
      by_cases hnil : pre = []
      · subst hnil
        refine ⟨num, rfl, hnum.mono (hneg k), ?_⟩
        rw [InRange] at hrange
        split_ifs at hrange with hk
        · exact hrange
        · refine ⟨by omega, ?_⟩
          by_contra hlarge
          have hk' : K.signed k = false := by simpa using hk
          exact hmis (.large hk' (hk' ▸ hnum) (by omega) hrange.2)
      · exact absurd (.prefixed hnil hpre hnum hrange hopen) hmis
    · rintro ⟨num, rfl, hnum, hlow, hhigh⟩
      have hnum' : SignedNumeral (K.signed k) num v := by
        cases hnum with
        | plain h => exact .plain h
        | plus h => exact .plus h
        | @minus num n hn h =>
          cases hk : K.signed k with
          | true => exact .minus rfl h
          | false => exact absurd (.minus hk hn h (by omega)) hmis
      refine ⟨hshut (hnum'.mono fun _ => rfl), ⟨[], num, rfl, by simp, hnum'⟩, ?_⟩
      exact inRange_of_long (fun hk => (hk ▸ hnum').nonneg) hlow hhigh

end NumKeys

/-! ### The two files -/

namespace ConfKey

/-- The name with its `=`. -/
def str : ConfKey → String
  | .val key => key.text
  | .sval key => key.text

/-- The parameter is read with `param_get_sval`. -/
def signed : ConfKey → Bool
  | .val _ => false
  | .sval _ => true

/-- The parameters with negative values in their range: `-1` stands for no rate, no MCS and no end
of the packets, and the tone is between `-10` and `+10`. -/
def neg : ConfKey → Bool
  | .val .txToneFreq => true
  | .val _ => false
  | .sval _ => true

end ConfKey

theorem mem_radioKeys (k : ConfKey) : k ∈ confKeys ++ [.val .bypassRegDomain] := by
  cases k with
  | val key => cases key <;> decide
  | sval key => cases key <;> decide

/-- The names of the radio test. -/
def radioKeys : NumKeys ConfKey where
  keys := confKeys ++ [.val .bypassRegDomain]
  str := ConfKey.str
  signed := ConfKey.signed
  mem_keys := mem_radioKeys
  isParamText k := by
    have hall : ∀ k ∈ confKeys ++ [.val .bypassRegDomain], IsParamText (cBytes k.str) := by
      decide +kernel
    exact hall k (mem_radioKeys k)
  eq_of_suffix k k' := by
    have hall : ∀ k ∈ confKeys ++ [.val .bypassRegDomain],
        ∀ k' ∈ confKeys ++ [.val .bypassRegDomain],
          cBytes k.str <:+ cBytes k'.str → k = k' := by
      decide +kernel
    exact hall k (mem_radioKeys k) k' (mem_radioKeys k')

/-- The parameter whose handler a command runs, and the number the handler is given. -/
def Command.numeric : Command → Option (ConfKey × ℤ)
  | .val key v => some (.val key, v.toNat)
  | .sval key v => some (.sval key, v.toInt)
  | _ => none

/-- The parameters of the `conf` file of normal operation. -/
inductive FmacKey
  | uapsdQueue | powerSave | heGi | rtsThreshold
  deriving DecidableEq, Repr

def FmacKey.str : FmacKey → String
  | .uapsdQueue => "uapsd_queue="
  | .powerSave => "power_save="
  | .heGi => "he_gi="
  | .rtsThreshold => "rts_threshold="

/-- The names of normal operation. -/
def fmacKeys : NumKeys FmacKey where
  keys := [.uapsdQueue, .powerSave, .heGi, .rtsThreshold]
  str := FmacKey.str
  signed _ := false
  mem_keys k := by cases k <;> decide
  isParamText k := by cases k <;> decide +kernel
  eq_of_suffix k k' := by cases k <;> cases k' <;> decide +kernel

def FmacCommand.numeric : FmacCommand → Option (FmacKey × ℤ)
  | .uapsdQueue val => some (.uapsdQueue, val.toNat)
  | .powerSave val => some (.powerSave, val.toNat)
  | .heGi val => some (.heGi, val.toNat)
  | .rtsThreshold val => some (.rtsThreshold, val.toNat)
  | .unknown _ => none

/-- `set_defaults` is somewhere in the text. -/
def HasSetDefaults (t : List UInt8) : Prop := cBytes "set_defaults" <:+: t

section Files

variable {buf : List UInt8}

theorem findSome?_bind {α β γ : Type} {f : α → Option β} {g : β → Option γ}
    (hg : ∀ a b, f a = some b → g b ≠ none) (l : List α) :
    (l.findSome? f).bind g = l.findSome? fun a => (f a).bind g := by
  induction l with
  | nil => rfl
  | cons a l ih =>
    rw [List.findSome?_cons, List.findSome?_cons]
    cases hf : f a with
    | none => exact ih
    | some b =>
      obtain ⟨c, hc⟩ := Option.ne_none_iff_exists'.mp (hg a b hf)
      simp [hc]

/-- The number in the command of a name is the number read for it. -/
theorem read_bind_numeric (key : ConfKey) :
    (key.read buf).bind Command.numeric = (readNum buf key.signed key.str).map (key, ·) := by
  cases key with
  | val key =>
    show ((paramGetVal buf key.text).map _).bind _ = ((paramGetVal buf key.text).map _).map _
    cases paramGetVal buf key.text <;> rfl
  | sval key =>
    show ((paramGetSval buf key.text).map _).bind _ = ((paramGetSval buf key.text).map _).map _
    cases paramGetSval buf key.text <;> rfl

theorem numeric_read {key : ConfKey} {c : Command} (h : key.read buf = some c) :
    c.numeric ≠ none := by
  cases key with
  | val key =>
    obtain ⟨val, -, rfl⟩ := Option.map_eq_some_iff.mp h
    exact Option.some_ne_none _
  | sval key =>
    obtain ⟨val, -, rfl⟩ := Option.map_eq_some_iff.mp h
    exact Option.some_ne_none _

/-- `bypass_reg_domain` is asked for last and behind two other tests, which hold where it is
found. -/
theorem confCommand_numeric_of_none (hset : ¬ paramGetMatch buf "set_defaults" = true)
    (hfind : confKeys.findSome? (ConfKey.read buf) = none) :
    (confCommand buf).numeric =
      (readNum buf false ValKey.bypassRegDomain.text).map (ConfKey.val .bypassRegDomain, ·) := by
  rw [confCommand, if_neg hset, hfind]
  dsimp only
  have hread : readNum buf false ValKey.bypassRegDomain.text =
      (paramGetVal buf ValKey.bypassRegDomain.text).map fun val => (val.toNat : ℤ) := rfl
  rw [hread]
  by_cases hmatch : paramGetMatch buf ValKey.bypassRegDomain.text = true
  · have hin : cBytes ValKey.bypassRegDomain.text <:+: buf := strstr_isSome_iff.mp hmatch
    have hinside : cBytes "reg_domain=" <:+: cBytes ValKey.bypassRegDomain.text ∧
        cBytes "bypass" <:+: cBytes ValKey.bypassRegDomain.text := by decide +kernel
    have hreg : paramGetMatch buf "reg_domain=" = true :=
      strstr_isSome_iff.mpr (hinside.1.trans hin)
    have hbypass : paramGetMatch buf "bypass" = true :=
      strstr_isSome_iff.mpr (hinside.2.trans hin)
    rw [if_pos hreg, if_pos hbypass]
    cases paramGetVal buf ValKey.bypassRegDomain.text <;> rfl
  · have hnone : paramGetVal buf ValKey.bypassRegDomain.text = none := if_neg hmatch
    rw [hnone]
    split_ifs <;> rfl

/-- The command of the radio test, as far as numbers go. -/
theorem confCommand_numeric (r : ConfKey × ℤ) :
    (confCommand buf).numeric = some r ↔ ¬ HasSetDefaults buf ∧ radioKeys.numeric buf = some r := by
  rw [HasSetDefaults, ← strstr_isSome_iff]
  by_cases hset : paramGetMatch buf "set_defaults" = true
  · rw [confCommand, if_pos hset]
    exact iff_of_false (by simp [Command.numeric]) fun h => h.1 hset
  · have hset' : ¬ (strstr (cBytes "set_defaults") buf).isSome = true := hset
    rw [and_iff_right hset']
    have hkeys : radioKeys.numeric buf =
        ((confKeys.findSome? (ConfKey.read buf)).bind Command.numeric).or
          ((readNum buf false ValKey.bypassRegDomain.text).map
            (ConfKey.val .bypassRegDomain, ·)) := by
      rw [findSome?_bind (fun _ _ => numeric_read), NumKeys.numeric]
      show (confKeys ++ [ConfKey.val .bypassRegDomain]).findSome? _ = _
      rw [List.findSome?_append]
      simp only [read_bind_numeric]
      rw [List.findSome?_singleton]
      rfl
    rw [hkeys]
    cases hfind : confKeys.findSome? (ConfKey.read buf) with
    | some c =>
      obtain ⟨key, -, hkey⟩ := List.exists_of_findSome?_eq_some hfind
      obtain ⟨r', hr'⟩ := Option.ne_none_iff_exists'.mp (numeric_read hkey)
      rw [confCommand, if_neg hset, hfind]
      simp [hr']
    | none =>
      rw [confCommand_numeric_of_none hset hfind]
      rfl

theorem fmacCommand_numeric (r : FmacKey × ℤ) :
    (fmacCommand buf).numeric = some r ↔ fmacKeys.numeric buf = some r := by
  have hread : ∀ key : FmacKey, readNum buf (fmacKeys.signed key) (fmacKeys.str key) =
      (paramGetVal buf key.str).map fun val => (val.toNat : ℤ) := fun key => rfl
  have hkeys : fmacKeys.keys = [.uapsdQueue, .powerSave, .heGi, .rtsThreshold] := rfl
  simp only [NumKeys.numeric, hread, hkeys, fmacCommand, List.findSome?_cons, List.findSome?_nil,
    FmacKey.str]
  cases paramGetVal buf "uapsd_queue=" with
  | some val => rfl
  | none =>
    cases paramGetVal buf "power_save=" with
    | some val => rfl
    | none =>
      cases paramGetVal buf "he_gi=" with
      | some val => rfl
      | none => cases paramGetVal buf "rts_threshold=" <;> rfl

end Files

/-! ### Writes -/

/-- The write runs the handler of a parameter and gives it a number. -/
def ConfWrite.Calls (w : ConfWrite) (key : ConfKey) (v : ℤ) : Prop :=
  ∃ c, w.command = some c ∧ c.numeric = some (key, v)

/-- A write that gets as far as the dispatch runs the branch of a parameter for a number. -/
def FmacConfWrite.Calls (wr : FmacConfWrite) (key : FmacKey) (v : ℤ) : Prop :=
  wr.earlyError = none ∧ wr.command.numeric = some (key, v)

section Writes

variable {t : List UInt8}

theorem cString_eq_self (h : 0 ∉ t) : cString t = t :=
  List.takeWhile_eq_self_iff.mpr fun c hc => by simpa using fun h0 : c = 0 => h (h0 ▸ hc)

/-- What a write looks for: its text up to a NUL, without the last byte. -/
theorem command_concat_cString (c : UInt8) (hlen : t.length < 499) (o : Outcomes) :
    (ConfWrite.mk (t ++ [c]) true true o).command = some (confCommand (cString t)) := by
  have hsize : ¬ maxConfBufSize ≤ (t ++ [c]).length := by
    rw [List.length_append, List.length_singleton, maxConfBufSize]
    omega
  rw [ConfWrite.command, if_neg hsize, List.dropLast_concat]
  rfl

theorem command_concat (h0 : 0 ∉ t) (c : UInt8) (hlen : t.length < 499) (o : Outcomes) :
    (ConfWrite.mk (t ++ [c]) true true o).command = some (confCommand t) := by
  rw [command_concat_cString c hlen, cString_eq_self h0]

theorem fmacCommand_concat (h0 : 0 ∉ t) (c : UInt8) (hlen : t.length < 499) (o : FmacOutcomes) :
    (FmacConfWrite.mk (t ++ [c]) true true o).earlyError = none ∧
      (FmacConfWrite.mk (t ++ [c]) true true o).command = fmacCommand t := by
  have hsize : (t ++ [c]).length < maxConfBufSize := by
    rw [List.length_append, List.length_singleton, maxConfBufSize]
    omega
  refine ⟨?_, by rw [FmacConfWrite.command, List.dropLast_concat, cString_eq_self h0]⟩
  simpa [FmacConfWrite.earlyError, firstError_eq_none, checkThat_eq_none] using hsize

theorem calls_iff (h0 : 0 ∉ t) (hlen : t.length < 499) (o : Outcomes) (key : ConfKey) (v : ℤ) :
    (ConfWrite.mk (t ++ [10]) true true o).Calls key v ↔
      ¬ HasSetDefaults t ∧ radioKeys.numeric t = some (key, v) := by
  rw [← confCommand_numeric, ConfWrite.Calls, command_concat h0 10 hlen]
  simp

theorem fmac_calls_iff (h0 : 0 ∉ t) (hlen : t.length < 499) (o : FmacOutcomes) (key : FmacKey)
    (v : ℤ) :
    (FmacConfWrite.mk (t ++ [10]) true true o).Calls key v ↔
      fmacKeys.numeric t = some (key, v) := by
  rw [← fmacCommand_numeric, FmacConfWrite.Calls, (fmacCommand_concat h0 10 hlen o).1,
    (fmacCommand_concat h0 10 hlen o).2, and_iff_right rfl]

/-- A word whose last byte is not in what comes after a text is not made by it. -/
theorem not_infix_append {word nm rest : List UInt8} {c : UInt8} (hlast : word.getLast? = some c)
    (hnm : ¬ word <:+: nm) (hc : c ∉ rest) : ¬ word <:+: nm ++ rest := by
  rw [List.infix_append_iff_ne_nil]
  rintro (h | h | ⟨l, l', -, hne, rfl, -, h⟩)
  · exact hnm h
  · exact hc (h.subset (List.mem_of_getLast? hlast))
  · rw [List.getLast?_append_of_ne_nil _ hne] at hlast
    exact hc (h.subset (List.mem_of_getLast? hlast))

/-- The last byte of `set_defaults` is in no number. -/
theorem not_hasSetDefaults_append {nm rest : List UInt8} (hnm : ¬ HasSetDefaults nm)
    (hs : 115 ∉ rest) : ¬ HasSetDefaults (nm ++ rest) := by
  have hlast : (cBytes "set_defaults").getLast? = some 115 := by decide +kernel
  exact not_infix_append hlast hnm hs

/-- `set_defaults` is not in a text that names a parameter. -/
theorem not_hasSetDefaults (key : ConfKey) {num : List UInt8} {v : ℤ}
    (hnum : SignedNumeral true num v) : ¬ HasSetDefaults (cBytes key.str ++ num) := by
  have hnot : ∀ key ∈ confKeys ++ [.val .bypassRegDomain],
      ¬ cBytes "set_defaults" <:+: cBytes key.str := by decide +kernel
  exact not_hasSetDefaults_append (hnot key (mem_radioKeys key)) fun hmem =>
    absurd (hnum.bytes 115 hmem) (by decide)

/-- **The texts that call exactly the handler they name.** For a text with a newline after it, a
write of the radio test calls the handler of a parameter with a number exactly when the text is the
name, `=`, and that number, at exactly the texts that are not misread; and so does a write of normal
operation, which has neither `set_defaults` nor negative numbers. -/
theorem dispatch_exact_iff (h0 : 0 ∉ t) (h10 : 10 ∉ t) (hlen : t.length < 499)
    (o : Outcomes) (fo : FmacOutcomes) :
    ((∀ key v, (ConfWrite.mk (t ++ [10]) true true o).Calls key v ↔
        radioKeys.Denotes ConfKey.neg t key v) ↔
      ¬ radioKeys.Misread ConfKey.neg HasSetDefaults t) ∧
    ((∀ key v, (FmacConfWrite.mk (t ++ [10]) true true fo).Calls key v ↔
        fmacKeys.Denotes (fun _ => false) t key v) ↔
      ¬ fmacKeys.Misread (fun _ => false) (fun _ => False) t) := by
  have hneg : ∀ k, radioKeys.signed k = true → ConfKey.neg k = true := by
    intro k hk
    cases k with
    | val key => exact absurd hk Bool.false_ne_true
    | sval key => rfl
  have hshut : ∀ {k num v}, SignedNumeral true num v →
      ¬ HasSetDefaults (cBytes (radioKeys.str k) ++ num) := fun hnum => not_hasSetDefaults _ hnum
  have hradio := NumKeys.exact_iff hneg hshut h10
  have hfmac := @NumKeys.exact_iff FmacKey fmacKeys (fun _ => false) (fun _ => False)
    (fun _ hk => hk) (fun _ h => h) t h10
  simp only [not_false_eq_true, true_and] at hfmac
  simp only [calls_iff h0 hlen, fmac_calls_iff h0 hlen]
  exact ⟨hradio, hfmac⟩

/-- `tx=1` and `rts_threshold=500` call their handlers. -/
theorem dispatch_exact_iff_tx :
    (ConfWrite.mk (cBytes "tx=1" ++ [10]) true true .success).Calls (.val .tx) 1 ∧
    (FmacConfWrite.mk (cBytes "rts_threshold=500" ++ [10]) true true
      ⟨true, true, true, true⟩).Calls .rtsThreshold 500 := by
  have htx : cBytes "tx=1" = cBytes (radioKeys.str (.val .tx)) ++ cBytes (toString 1) := by
    decide +kernel
  have hrts : cBytes "rts_threshold=500" =
      cBytes (fmacKeys.str .rtsThreshold) ++ cBytes (toString 500) := by decide +kernel
  have hnum (neg : Bool) (n : ℕ) : SignedNumeral neg (cBytes (toString n)) n :=
    .plain (numeral_toString n)
  constructor
  · refine (((dispatch_exact_iff (t := cBytes "tx=1") (by decide +kernel) (by decide +kernel)
      (by decide +kernel) .success ⟨true, true, true, true⟩).1.mpr ?_) (.val .tx) 1).mpr ?_
    · rw [htx]
      exact NumKeys.not_misread (hnum _ 1) (by decide)
    · exact ⟨_, htx, hnum _ 1, by decide, by decide⟩
  · refine (((dispatch_exact_iff (t := cBytes "rts_threshold=500") (by decide +kernel)
      (by decide +kernel) (by decide +kernel) .success ⟨true, true, true, true⟩).2.mpr ?_)
      .rtsThreshold 500).mpr ?_
    · rw [hrts]
      exact NumKeys.not_misread (hnum _ 500) (by decide)
    · exact ⟨_, hrts, hnum _ 500, by decide, by decide⟩

/-- **Texts that are misread.** `reset_tx=1` starts a transmission and `no_power_save=1` switches
power save on, `tx=18446744073709551615` calls the handler with a number that is not a `long`, and
`tx_tone_freq=-5` calls no handler. -/
theorem texts_misread :
    ((ConfWrite.mk (cBytes "reset_tx=1" ++ [10]) true true .success).Calls (.val .tx) 1 ∧
      ¬ radioKeys.Denotes ConfKey.neg (cBytes "reset_tx=1") (.val .tx) 1) ∧
    ((FmacConfWrite.mk (cBytes "no_power_save=1" ++ [10]) true true
        ⟨true, true, true, true⟩).Calls .powerSave 1 ∧
      ¬ fmacKeys.Denotes (fun _ => false) (cBytes "no_power_save=1") .powerSave 1) ∧
    ((ConfWrite.mk (cBytes "tx=18446744073709551615" ++ [10]) true true .success).Calls
        (.val .tx) 18446744073709551615 ∧
      ¬ radioKeys.Denotes ConfKey.neg (cBytes "tx=18446744073709551615") (.val .tx)
        18446744073709551615) ∧
    ¬ (ConfWrite.mk (cBytes "tx_tone_freq=-5" ++ [10]) true true .success).Calls
        (.val .txToneFreq) (-5) ∧
      radioKeys.Denotes ConfKey.neg (cBytes "tx_tone_freq=-5") (.val .txToneFreq) (-5) := by
  have hprefix : ∀ {κ : Type} {K : NumKeys κ} {neg t k v}, K.Denotes neg t k v →
      cBytes (K.str k) <+: t := fun ⟨num, heq, _⟩ => ⟨num, heq.symm⟩
  have hreset : ¬ cBytes (radioKeys.str (.val .tx)) <+: cBytes "reset_tx=1" := by decide +kernel
  have hno : ¬ cBytes (fmacKeys.str .powerSave) <+: cBytes "no_power_save=1" := by decide +kernel
  refine ⟨⟨⟨.val .tx 1, by decide +kernel, rfl⟩, mt hprefix hreset⟩,
    ⟨⟨by decide +kernel, by decide +kernel⟩, mt hprefix hno⟩,
    ⟨⟨.val .tx 18446744073709551615, by decide +kernel, rfl⟩, ?_⟩, ?_, ?_⟩
  · rintro ⟨num, -, -, -, hlt⟩
    omega
  · have hunknown : (ConfWrite.mk (cBytes "tx_tone_freq=-5" ++ [10]) true true .success).command =
        some (.unknown (cBytes "tx_tone_freq=-5")) := by decide +kernel
    rintro ⟨c, hc, hnum⟩
    rw [hunknown] at hc
    rw [← Option.some.inj hc] at hnum
    exact absurd hnum (by simp [Command.numeric])
  · exact ⟨45 :: cBytes (toString 5), by decide +kernel, .minus rfl (numeral_toString 5),
      by decide, by decide⟩

end Writes

end Nrf70
