import Mathlib.Data.Nat.Digits.Defs
import Nrf70.Lib.Kstring

/-!
# Numerals

What `kstrtoul` and `kstrtol` take for a number in base `0`, as a grammar: decimal digits that do
not begin with `0`, a `0` and octal digits, or `0x` and hexadecimal digits. The parsers take a
newline after the number as well, which the texts they are given here do not have.

## Main definitions

* `Numeral` — the numerals, with the number each denotes
* `SignedNumeral` — with a sign in front

## Main results

* `kstrtoul_eq_some`, `kstrtol_eq_some` — the parsers read exactly the numerals in range
* `numeral_toString` — a number is denoted by its decimal text
-/

namespace Nrf70

/-! ### Digits -/

/-- A digit of the base. -/
def IsDigit (base : ℕ) (c : UInt8) : Prop := ∃ d < base, digitValue c = some d

instance (base : ℕ) (c : UInt8) : Decidable (IsDigit base c) :=
  inferInstanceAs (Decidable (∃ d < base, digitValue c = some d))

/-- The number a string of digits denotes. -/
def digitsVal (base : ℕ) (s : List UInt8) : ℕ :=
  Nat.ofDigits base (s.map fun c => (digitValue c).getD 0).reverse

@[simp] theorem digitsVal_nil (base : ℕ) : digitsVal base [] = 0 := rfl

theorem digitsVal_cons (base : ℕ) (c : UInt8) (s : List UInt8) :
    digitsVal base (c :: s) = (digitValue c).getD 0 * base ^ s.length + digitsVal base s := by
  rw [digitsVal, List.map_cons, List.reverse_cons, Nat.ofDigits_append, Nat.ofDigits_singleton,
    List.length_reverse, List.length_map, digitsVal, Nat.add_comm, Nat.mul_comm]

theorem digitsVal_concat (base : ℕ) (s : List UInt8) (c : UInt8) :
    digitsVal base (s ++ [c]) = digitsVal base s * base + (digitValue c).getD 0 := by
  rw [digitsVal, List.map_append, List.reverse_append, List.map_singleton, List.reverse_singleton,
    List.singleton_append, Nat.ofDigits_cons, digitsVal, Nat.mul_comm, Nat.add_comm]

/-- A leading zero does not count. -/
@[simp] theorem digitsVal_zero_cons (base : ℕ) (s : List UInt8) :
    digitsVal base (48 :: s) = digitsVal base s := by
  have h0 : digitValue 48 = some 0 := rfl
  rw [digitsVal_cons, h0, Option.getD_some, Nat.zero_mul, Nat.zero_add]

theorem IsDigit.mono {base base' : ℕ} {c : UInt8} (h : IsDigit base c) (hle : base ≤ base') :
    IsDigit base' c :=
  h.imp fun _ hd => ⟨hd.1.trans_le hle, hd.2⟩

/-! ### The loop over the digits -/

section ParseInteger

variable {base : ℕ} {s : List UInt8}

theorem parseInteger_of_isDigit (h : ∀ c ∈ s, IsDigit base c) (res rv : ℕ) :
    parseInteger base res rv s =
      (res * base ^ s.length + digitsVal base s, rv + s.length, []) := by
  induction s generalizing res rv with
  | nil => simp [parseInteger]
  | cons c s ih =>
    obtain ⟨d, hd, hval⟩ := h c List.mem_cons_self
    have hrest : ∀ c ∈ s, IsDigit base c := fun c hc => h c (List.mem_cons_of_mem _ hc)
    rw [parseInteger, hval]
    dsimp only
    rw [if_neg (Nat.not_le.mpr hd), ih hrest, digitsVal_cons, hval, List.length_cons,
      Option.getD_some, Nat.add_mul, Nat.pow_succ', Nat.mul_assoc, Nat.add_assoc, Nat.add_assoc,
      Nat.add_comm 1]

/-- The value is that of the digits at the front. -/
theorem parseInteger_fst (res rv : ℕ) :
    (parseInteger base res rv s).1 =
      res * base ^ (s.takeWhile (IsDigit base ·)).length +
        digitsVal base (s.takeWhile (IsDigit base ·)) := by
  induction s generalizing res rv with
  | nil => simp [parseInteger]
  | cons c s ih =>
    rw [parseInteger]
    by_cases hc : IsDigit base c
    · obtain ⟨d, hlt, hd⟩ := hc
      have hc : IsDigit base c := ⟨d, hlt, hd⟩
      rw [List.takeWhile_cons_of_pos (by simpa using hc), digitsVal_cons, hd]
      dsimp only
      rw [if_neg (Nat.not_le.mpr hlt), ih, List.length_cons, Option.getD_some]
      ring
    · rw [List.takeWhile_cons_of_neg (by simpa using hc)]
      cases hd : digitValue c with
      | none => simp
      | some d =>
        have hle : base ≤ d := Nat.not_lt.mp fun hlt => hc ⟨d, hlt, hd⟩
        dsimp only
        rw [if_pos hle]
        simp

/-- What the loop leaves unread begins with something other than a digit. -/
theorem parseInteger_of_not_isDigit (h : ¬ ∀ c ∈ s, IsDigit base c) (res rv : ℕ) :
    ∃ c rest, (parseInteger base res rv s).2.2 = c :: rest ∧ c :: rest <:+ s := by
  induction s generalizing res rv with
  | nil => exact absurd (by simp) h
  | cons c s ih =>
    rw [parseInteger]
    cases hval : digitValue c with
    | none => exact ⟨c, s, rfl, List.suffix_refl _⟩
    | some d =>
      dsimp only
      split_ifs with hd
      · exact ⟨c, s, rfl, List.suffix_refl _⟩
      · have hrest : ¬ ∀ c ∈ s, IsDigit base c := by
          intro hall
          refine h fun c' hc' => ?_
          rcases List.mem_cons.mp hc' with rfl | hmem
          · exact ⟨d, Nat.not_le.mp hd, hval⟩
          · exact hall c' hmem
        obtain ⟨c', rest, heq, hsuff⟩ := ih hrest (res * base + d) (rv + 1)
        exact ⟨c', rest, heq, hsuff.trans (List.suffix_cons c s)⟩

end ParseInteger

/-! ### The grammar -/

/-- The numerals, and the number each denotes. -/
inductive Numeral : List UInt8 → ℕ → Prop
  | decimal {c s} (hc : c ≠ 48) (h : ∀ x ∈ c :: s, IsDigit 10 x) :
      Numeral (c :: s) (digitsVal 10 (c :: s))
  | octal {s} (h : ∀ x ∈ s, IsDigit 8 x) : Numeral (48 :: s) (digitsVal 8 s)
  | hexadecimal {x s} (hx : x = 120 ∨ x = 88) (hs : s ≠ []) (h : ∀ x ∈ s, IsDigit 16 x) :
      Numeral (48 :: x :: s) (digitsVal 16 s)

/-- A text denotes one number at most. -/
theorem Numeral.unique {s : List UInt8} {n n' : ℕ} (h : Numeral s n) (h' : Numeral s n') :
    n = n' := by
  have hx : ∀ {x : UInt8}, x = 120 ∨ x = 88 → ¬ IsDigit 8 x := by
    rintro x (rfl | rfl) <;> decide
  cases h with
  | decimal hc =>
    cases h' with
    | decimal => rfl
    | octal | hexadecimal => exact absurd rfl hc
  | octal h =>
    cases h' with
    | decimal hc => exact absurd rfl hc
    | octal => rfl
    | hexadecimal hx' => exact absurd (h _ List.mem_cons_self) (hx hx')
  | hexadecimal hx' =>
    cases h' with
    | decimal hc => exact absurd rfl hc
    | octal h => exact absurd (h _ List.mem_cons_self) (hx hx')
    | hexadecimal => rfl

theorem toLower_eq_x_iff (x : UInt8) : toLower x = 120 ↔ x = 120 ∨ x = 88 :=
  @forall_byte (fun x => toLower x = 120 ↔ x = 120 ∨ x = 88) (by decide +kernel) x

theorem isDigit_sixteen_iff (c : UInt8) : IsDigit 16 c ↔ (digitValue c).isSome = true := by
  constructor
  · rintro ⟨d, -, hd⟩
    rw [hd]
    rfl
  · intro h
    obtain ⟨d, hd⟩ := Option.isSome_iff_exists.mp h
    refine ⟨d, ?_, hd⟩
    rw [digitValue] at hd
    split_ifs at hd with h10 h16
    · have hle := UInt8.le_iff_toNat_le.mp h10.2
      have hc : (57 : UInt8).toNat = 57 := rfl
      injection hd
      omega
    · have hle := UInt8.le_iff_toNat_le.mp h16.2
      have hc : (102 : UInt8).toNat = 102 := rfl
      injection hd
      omega

/-- The base `_parse_integer_fixup_radix` chooses, and where the digits start. -/
theorem fixupRadix_cases (s : List UInt8) :
    (∃ x c s', s = 48 :: x :: c :: s' ∧ (x = 120 ∨ x = 88) ∧ IsDigit 16 c ∧
        fixupRadix s = (16, c :: s')) ∨
      (∃ s', s = 48 :: s' ∧ fixupRadix s = (8, s) ∧
        ∀ x c s'', s' = x :: c :: s'' → ¬ ((x = 120 ∨ x = 88) ∧ IsDigit 16 c)) ∨
      (∀ s', s ≠ 48 :: s') ∧ fixupRadix s = (10, s) := by
  unfold fixupRadix
  split
  · next x c s' =>
    split_ifs with h <;> rw [toLower_eq_x_iff, ← isDigit_sixteen_iff] at h
    · exact Or.inl ⟨x, c, s', rfl, h.1, h.2, rfl⟩
    · refine Or.inr (Or.inl ⟨_, rfl, rfl, ?_⟩)
      rintro x' c' s'' heq
      injections
      subst_vars
      exact h
  · next s' hne =>
    refine Or.inr (Or.inl ⟨s', rfl, rfl, ?_⟩)
    rintro x c s'' rfl
    exact absurd rfl (hne x c s'')
  · next hne => exact Or.inr (Or.inr ⟨hne, rfl⟩)

/-! ### What the parsers read -/

section Kstrto

variable {s : List UInt8} {n : ℕ}

/-- The end of `_kstrtoull`, after the base is known. -/
theorem kstrtoullUnsigned_eq_some_of_radix {base : ℕ} {s' : List UInt8}
    (hradix : fixupRadix s = (base, s')) (hs : 10 ∉ s') (v : UInt64) :
    kstrtoullUnsigned s = some v ↔
      (∀ c ∈ s', IsDigit base c) ∧ s' ≠ [] ∧ digitsVal base s' = v.toNat := by
  rw [kstrtoullUnsigned, hradix]
  dsimp only
  by_cases hdigits : ∀ c ∈ s', IsDigit base c
  · rw [parseInteger_of_isDigit hdigits, and_iff_right hdigits]
    simp only [Nat.zero_mul, Nat.zero_add, List.length_eq_zero_iff, true_or, if_true]
    by_cases hlt : digitsVal base s' < 2 ^ 64
    · rw [if_neg (Nat.not_le.mpr hlt)]
      by_cases hnil : s' = []
      · rw [if_pos hnil]
        exact iff_of_false (by simp) fun h => h.1 hnil
      · rw [if_neg hnil, and_iff_right hnil, Option.some.injEq, ← UInt64.toNat_inj,
          UInt64.toNat_ofNat_of_lt' hlt]
    · rw [if_pos (Nat.not_lt.mp hlt)]
      refine iff_of_false (by simp) fun h => hlt ?_
      rw [h.2]
      exact v.toNat_lt
  · obtain ⟨c, rest, hrest, hsuff⟩ := parseInteger_of_not_isDigit hdigits 0 0
    have hend : ¬ (c :: rest = [] ∨ c :: rest = [10]) := by
      rintro (h | h)
      · exact absurd h (by simp)
      · exact hs (hsuff.subset (by simp [h]))
    rw [hrest, if_neg hend, ite_self, ite_self]
    exact iff_of_false (by simp) fun h => hdigits h.1

/-- `_kstrtoull` reads a text without a newline exactly when it is a numeral in range. -/
theorem kstrtoullUnsigned_eq_some (hs : 10 ∉ s) (v : UInt64) :
    kstrtoullUnsigned s = some v ↔ Numeral s v.toNat := by
  have hread : ∀ {base s'}, fixupRadix s = (base, s') → s' <:+ s →
      (kstrtoullUnsigned s = some v ↔
        (∀ c ∈ s', IsDigit base c) ∧ s' ≠ [] ∧ digitsVal base s' = v.toNat) :=
    fun hradix hsuff => kstrtoullUnsigned_eq_some_of_radix hradix (fun h => hs (hsuff.subset h)) v
  rcases fixupRadix_cases s with ⟨x, c, s', rfl, hx, hc, hradix⟩ | ⟨s', rfl, hradix, hno⟩ |
    ⟨hne, hradix⟩
  · rw [hread hradix ⟨[48, x], rfl⟩]
    constructor
    · rintro ⟨hdigits, hnil, hval⟩
      rw [← hval]
      exact .hexadecimal hx hnil hdigits
    · intro h
      generalize v.toNat = n at h ⊢
      cases h with
      | decimal h48 => exact absurd rfl h48
      | octal h => exact absurd (h x List.mem_cons_self) (by rcases hx with rfl | rfl <;> decide)
      | hexadecimal _ hnil h => exact ⟨h, hnil, rfl⟩
  · rw [hread hradix (List.suffix_refl _), digitsVal_zero_cons]
    constructor
    · rintro ⟨hdigits, -, hval⟩
      rw [← hval]
      exact .octal fun c hc => hdigits c (List.mem_cons_of_mem _ hc)
    · intro h
      generalize v.toNat = n at h ⊢
      cases h with
      | decimal h48 => exact absurd rfl h48
      | octal h =>
        have h0 : IsDigit 8 48 := by decide
        exact ⟨List.forall_mem_cons.mpr ⟨h0, h⟩, List.cons_ne_nil _ _, rfl⟩
      | @hexadecimal x s hx hnil h =>
        obtain ⟨c, s, rfl⟩ := List.exists_cons_of_ne_nil hnil
        exact absurd ⟨hx, h c List.mem_cons_self⟩ (hno x c s rfl)
  · rw [hread hradix (List.suffix_refl _)]
    constructor
    · rintro ⟨hdigits, hnil, hval⟩
      obtain ⟨c, s, rfl⟩ := List.exists_cons_of_ne_nil hnil
      rw [← hval]
      refine .decimal ?_ hdigits
      rintro rfl
      exact hne s rfl
    · intro h
      generalize v.toNat = n at h ⊢
      cases h with
      | decimal _ h => exact ⟨h, List.cons_ne_nil _ _, rfl⟩
      | octal | hexadecimal => exact absurd rfl (hne _)

end Kstrto

/-! ### Signs -/

/-- A numeral with a sign in front, and the number it denotes. A minus sign is only there where
`neg` allows one. -/
inductive SignedNumeral (neg : Bool) : List UInt8 → ℤ → Prop
  | plain {s n} (h : Numeral s n) : SignedNumeral neg s n
  | plus {s n} (h : Numeral s n) : SignedNumeral neg (43 :: s) n
  | minus {s n} (hneg : neg = true) (h : Numeral s n) : SignedNumeral neg (45 :: s) (-n)

/-- A byte that may stand in a number. -/
def NumeralByte (c : UInt8) : Prop := IsDigit 16 c ∨ c ∈ [120, 88, 43, 45]

instance (c : UInt8) : Decidable (NumeralByte c) := inferInstanceAs (Decidable (_ ∨ _))

section Signs

variable {s : List UInt8} {n : ℕ} {v : ℤ} {neg : Bool}

theorem Numeral.bytes (h : Numeral s n) : ∀ c ∈ s, NumeralByte c := by
  cases h with
  | decimal _ h => exact fun c hc => Or.inl ((h c hc).mono (by decide))
  | octal h =>
    exact List.forall_mem_cons.mpr
      ⟨by decide, fun c hc => Or.inl ((h c hc).mono (by decide))⟩
  | hexadecimal hx _ h =>
    refine List.forall_mem_cons.mpr
      ⟨by decide, List.forall_mem_cons.mpr ⟨?_, fun c hc => Or.inl (h c hc)⟩⟩
    rcases hx with rfl | rfl <;> decide

theorem SignedNumeral.bytes (h : SignedNumeral neg s v) : ∀ c ∈ s, NumeralByte c := by
  cases h with
  | plain h => exact h.bytes
  | plus h | minus _ h => exact List.forall_mem_cons.mpr ⟨by decide, h.bytes⟩

/-- A numeral begins with a digit. -/
theorem Numeral.exists_cons (h : Numeral s n) : ∃ c s', s = c :: s' ∧ IsDigit 10 c := by
  cases h with
  | decimal _ h => exact ⟨_, _, rfl, h _ List.mem_cons_self⟩
  | octal | hexadecimal => exact ⟨_, _, rfl, by decide⟩

theorem numeral_cons_of_not_isDigit {c : UInt8} (hc : ¬ IsDigit 10 c) : ¬ Numeral (c :: s) n := by
  intro h
  obtain ⟨c', s', heq, hdigit⟩ := h.exists_cons
  exact hc ((List.cons.inj heq).1 ▸ hdigit)

/-- Where a minus sign is allowed it is still not needed. -/
theorem SignedNumeral.mono {neg' : Bool} (h : SignedNumeral neg s v)
    (hle : neg = true → neg' = true) : SignedNumeral neg' s v := by
  cases h with
  | plain h => exact .plain h
  | plus h => exact .plus h
  | minus hs h => exact .minus (hle hs) h

theorem SignedNumeral.nonneg (h : SignedNumeral false s v) : 0 ≤ v := by
  cases h with
  | plain | plus => exact Int.natCast_nonneg _
  | minus hs => exact absurd hs Bool.false_ne_true

theorem signedNumeral_plus_iff :
    SignedNumeral neg (43 :: s) v ↔ ∃ n : ℕ, Numeral s n ∧ v = n := by
  constructor
  · intro h
    cases h with
    | plain h => exact absurd h (numeral_cons_of_not_isDigit (by decide))
    | plus h => exact ⟨_, h, rfl⟩
  · rintro ⟨n, h, rfl⟩
    exact .plus h

theorem signedNumeral_minus_iff :
    SignedNumeral neg (45 :: s) v ↔ neg = true ∧ ∃ n : ℕ, Numeral s n ∧ v = -n := by
  constructor
  · intro h
    cases h with
    | plain h => exact absurd h (numeral_cons_of_not_isDigit (by decide))
    | minus hneg h => exact ⟨hneg, _, h, rfl⟩
  · rintro ⟨hneg, n, h, rfl⟩
    exact .minus hneg h

theorem signedNumeral_iff_of_ne (hplus : ∀ s', s ≠ 43 :: s') (hminus : ∀ s', s ≠ 45 :: s') :
    SignedNumeral neg s v ↔ ∃ n : ℕ, Numeral s n ∧ v = n := by
  constructor
  · intro h
    cases h with
    | plain h => exact ⟨_, h, rfl⟩
    | plus => exact absurd rfl (hplus _)
    | minus => exact absurd rfl (hminus _)
  · rintro ⟨n, h, rfl⟩
    exact .plain h

theorem SignedNumeral.unique {neg' : Bool} {v' : ℤ} (h : SignedNumeral neg s v)
    (h' : SignedNumeral neg' s v') : v = v' := by
  have hplus : ¬ IsDigit 10 43 := by decide
  have hminus : ¬ IsDigit 10 45 := by decide
  cases h with
  | plain h =>
    cases h' with
    | plain h' => rw [h.unique h']
    | plus => exact absurd h (numeral_cons_of_not_isDigit hplus)
    | minus => exact absurd h (numeral_cons_of_not_isDigit hminus)
  | plus h =>
    obtain ⟨n, hn, rfl⟩ := signedNumeral_plus_iff.mp h'
    rw [h.unique hn]
  | minus _ h =>
    obtain ⟨-, n, hn, rfl⟩ := signedNumeral_minus_iff.mp h'
    rw [h.unique hn]

/-- **`kstrtoul` reads exactly the numerals of an `unsigned long`**, with a plus sign or none. -/
theorem kstrtoul_eq_some (hs : 10 ∉ s) (v : UInt64) :
    kstrtoul s = some v ↔ SignedNumeral false s v.toNat := by
  have hread : ∀ {s'}, 10 ∉ s' →
      (kstrtoullUnsigned s' = some v ↔ ∃ n : ℕ, Numeral s' n ∧ (v.toNat : ℤ) = n) := by
    intro s' hs'
    rw [kstrtoullUnsigned_eq_some hs']
    exact ⟨fun h => ⟨_, h, rfl⟩, fun ⟨n, h, heq⟩ => Int.ofNat_inj.mp heq ▸ h⟩
  rw [kstrtoul.eq_def]
  split
  · rw [signedNumeral_plus_iff, hread fun h => hs (List.mem_cons_of_mem _ h)]
  · next hplus =>
    rw [hread hs]
    by_cases hminus : ∃ s', s = 45 :: s'
    · obtain ⟨s', rfl⟩ := hminus
      rw [signedNumeral_minus_iff]
      refine iff_of_false ?_ (by simp)
      rintro ⟨n, h, -⟩
      exact numeral_cons_of_not_isDigit (by decide) h
    · rw [signedNumeral_iff_of_ne (fun s' heq => hplus s' heq) fun s' heq => hminus ⟨s', heq⟩]

/-- Without a minus sign a number is not negative, and a plus sign is all there may be. -/
theorem signedNumeral_iff_natCast (hminus : ∀ s', s ≠ 45 :: s') :
    SignedNumeral neg s v ↔ ∃ n : ℕ, SignedNumeral false s n ∧ v = n := by
  constructor
  · intro h
    cases h with
    | plain h => exact ⟨_, .plain h, rfl⟩
    | plus h => exact ⟨_, .plus h, rfl⟩
    | minus => exact absurd rfl (hminus _)
  · rintro ⟨n, h, rfl⟩
    generalize (n : ℤ) = m at h ⊢
    cases h with
    | plain h => exact .plain h
    | plus h => exact .plus h
    | minus hneg => exact absurd hneg Bool.false_ne_true

theorem toInt_toInt64_of_lt {x : UInt64} (h : x.toNat < 2 ^ 63) : x.toInt64.toInt = x.toNat := by
  have hx : x.toInt64.toBitVec.toNat = x.toNat := rfl
  rw [← Int64.toInt_toBitVec, BitVec.toInt_eq_toNat_cond, hx, if_pos (by omega)]

theorem toInt_neg_toInt64_of_le {x : UInt64} (h : x.toNat ≤ 2 ^ 63) :
    (-x.toInt64).toInt = -x.toNat := by
  have hx : (-x.toInt64).toBitVec.toNat = (2 ^ 64 - x.toNat) % 2 ^ 64 := BitVec.toNat_neg _
  rw [← Int64.toInt_toBitVec, BitVec.toInt_eq_toNat_cond, hx]
  split_ifs <;> omega

/-- **`kstrtol` reads exactly the numerals of a `long`**, with either sign or none. -/
theorem kstrtol_eq_some (hs : 10 ∉ s) (v : Int64) :
    kstrtol s = some v ↔ SignedNumeral true s v.toInt := by
  have hlow := v.minValue_le_toInt
  have hhigh := v.toInt_lt
  have hmin : Int64.minValue.toInt = -2 ^ 63 := rfl
  rw [kstrtol.eq_def]
  split
  · next s' =>
    have hs' : 10 ∉ s' := fun h => hs (List.mem_cons_of_mem _ h)
    rw [signedNumeral_minus_iff]
    constructor
    · intro h
      refine ⟨rfl, ?_⟩
      split at h
      · exact absurd h (by simp)
      · next tmp htmp =>
        split_ifs at h with hle
        rw [← Option.some.inj h]
        exact ⟨_, (kstrtoullUnsigned_eq_some hs' tmp).mp htmp,
          toInt_neg_toInt64_of_le (Nat.not_lt.mp hle)⟩
    · rintro ⟨-, n, h, hv⟩
      have hn : (UInt64.ofNat n).toNat = n := UInt64.toNat_ofNat_of_lt' (show n < 2 ^ 64 by omega)
      rw [← hn] at h
      rw [(kstrtoullUnsigned_eq_some hs' _).mpr h]
      dsimp only
      rw [if_neg (by omega), Option.some.injEq, ← Int64.toInt_inj,
        toInt_neg_toInt64_of_le (by omega), hn, hv]
  · next hminus =>
    rw [signedNumeral_iff_natCast hminus]
    constructor
    · intro h
      split at h
      · exact absurd h (by simp)
      · next tmp htmp =>
        split_ifs at h with hle
        rw [← Option.some.inj h]
        exact ⟨_, (kstrtoul_eq_some hs tmp).mp htmp, toInt_toInt64_of_lt (Nat.not_le.mp hle)⟩
    · rintro ⟨n, h, hv⟩
      have hn : (UInt64.ofNat n).toNat = n := UInt64.toNat_ofNat_of_lt' (show n < 2 ^ 64 by omega)
      rw [← hn] at h
      rw [(kstrtoul_eq_some hs _).mpr h]
      dsimp only
      rw [if_neg (by omega), Option.some.injEq, ← Int64.toInt_inj,
        toInt_toInt64_of_lt (by omega), hn, hv]

end Signs

/-! ### One more byte -/

section Concat

variable {s : List UInt8} {c : UInt8} {n n' : ℕ} {v : ℤ} {neg : Bool}

/-- A byte that continues a numeral is a digit of its base. -/
theorem Numeral.concat (h : Numeral s n) (h' : Numeral (s ++ [c]) n') :
    ∃ base d, 1 < base ∧ digitValue c = some d ∧ n' = n * base + d := by
  have hlast : ∀ {base : ℕ} {l : List UInt8}, (∀ x ∈ l ++ [c], IsDigit base x) →
      ∃ d, digitValue c = some d ∧ digitsVal base (l ++ [c]) = digitsVal base l * base + d := by
    intro base l hl
    obtain ⟨d, -, hd⟩ := hl c (by simp)
    exact ⟨d, hd, by rw [digitsVal_concat, hd, Option.getD_some]⟩
  have hx : ∀ {x : UInt8}, x = 120 ∨ x = 88 → ¬ IsDigit 8 x := by
    rintro x (rfl | rfl) <;> decide
  cases h with
  | @decimal c₀ l hc h =>
    rw [List.cons_append] at h'
    generalize hl : l ++ [c] = l' at h'
    cases h' with
    | decimal _ h' =>
      subst hl
      obtain ⟨d, hd, hval⟩ := hlast (l := c₀ :: l) h'
      exact ⟨10, d, by decide, hd, hval⟩
    | octal | hexadecimal => exact absurd rfl hc
  | @octal l h =>
    rw [List.cons_append] at h'
    generalize hl : l ++ [c] = l' at h'
    cases h' with
    | decimal hc => exact absurd rfl hc
    | octal h' =>
      subst hl
      obtain ⟨d, hd, hval⟩ := hlast h'
      exact ⟨8, d, by decide, hd, hval⟩
    | hexadecimal hx' hne =>
      -- the `x` would be an octal digit, or the last byte
      cases l with
      | nil => exact absurd (List.cons.inj hl).2.symm hne
      | cons y l =>
        rw [(List.cons.inj hl).1] at h
        exact absurd (h _ List.mem_cons_self) (hx hx')
  | @hexadecimal x l hx' hne h =>
    rw [List.cons_append, List.cons_append] at h'
    generalize hl : l ++ [c] = l' at h'
    cases h' with
    | decimal hc => exact absurd rfl hc
    | octal h' => exact absurd (h' x List.mem_cons_self) (hx hx')
    | hexadecimal _ _ h' =>
      subst hl
      obtain ⟨d, hd, hval⟩ := hlast h'
      exact ⟨16, d, by decide, hd, hval⟩

/-- A numeral goes on with a zero. -/
theorem Numeral.concat_zero (h : Numeral s n) : ∃ base, Numeral (s ++ [48]) (n * base) := by
  have hdigits : ∀ {base : ℕ} {l : List UInt8}, 0 < base → (∀ x ∈ l, IsDigit base x) →
      ∀ x ∈ l ++ [48], IsDigit base x := by
    intro base l hbase hl x hmem
    rcases List.mem_append.mp hmem with hmem | hmem
    · exact hl x hmem
    · rw [List.mem_singleton.mp hmem]
      exact ⟨0, hbase, rfl⟩
  have hval : ∀ (base : ℕ) (l : List UInt8),
      digitsVal base (l ++ [48]) = digitsVal base l * base := fun base l =>
    digitsVal_concat base l 48
  cases h with
  | @decimal c l hc h =>
    refine ⟨10, ?_⟩
    rw [← hval 10 (c :: l)]
    exact .decimal hc (hdigits (by decide) h)
  | @octal l h =>
    refine ⟨8, ?_⟩
    rw [← hval 8 l]
    exact .octal (hdigits (by decide) h)
  | @hexadecimal x l hx hne h =>
    refine ⟨16, ?_⟩
    rw [← hval 16 l]
    exact .hexadecimal hx (List.append_ne_nil_of_left_ne_nil hne _) (hdigits (by decide) h)

theorem eq_zero_of_digitValue (h : digitValue c = some 0) : c = 48 := by
  rw [digitValue] at h
  have h48 : (48 : UInt8).toNat = 48 := rfl
  have h97 : (97 : UInt8).toNat = 97 := rfl
  split_ifs at h with h10 h16
  · have hle := UInt8.le_iff_toNat_le.mp h10.1
    have hzero := Option.some.inj h
    exact UInt8.toNat_inj.mp (by omega)
  · have hle := UInt8.le_iff_toNat_le.mp h16.1
    have hzero := Option.some.inj h
    omega

/-- **A byte more leaves the number as it is only for a zero after a zero.** -/
theorem signedNumeral_concat_iff (h : SignedNumeral neg s v) :
    SignedNumeral neg (s ++ [c]) v ↔ v = 0 ∧ c = 48 := by
  -- without its sign
  have hnum : ∀ {l : List UInt8} {n : ℕ}, Numeral l n → Numeral (l ++ [c]) n → n = 0 ∧ c = 48 := by
    intro l n h h'
    obtain ⟨base, d, hbase, hd, hval⟩ := h.concat h'
    have hle : n * 2 ≤ n * base := Nat.mul_le_mul_left n hbase
    obtain rfl : d = 0 := by omega
    exact ⟨by omega, eq_zero_of_digitValue hd⟩
  have hzero : ∀ {l : List UInt8}, Numeral l 0 → Numeral (l ++ [48]) 0 := by
    intro l h
    obtain ⟨base, h'⟩ := h.concat_zero
    rwa [Nat.zero_mul] at h'
  have hiff : ∀ {l : List UInt8} {n : ℕ}, Numeral l n →
      ((∃ n' : ℕ, Numeral (l ++ [c]) n' ∧ (n : ℤ) = n') ↔ (n : ℤ) = 0 ∧ c = 48) := by
    intro l n h
    constructor
    · rintro ⟨n', h', heq⟩
      obtain rfl := Int.ofNat_inj.mp heq
      obtain ⟨rfl, hc⟩ := hnum h h'
      exact ⟨rfl, hc⟩
    · rintro ⟨hv, rfl⟩
      obtain rfl := Int.ofNat_eq_zero.mp hv
      exact ⟨0, hzero h, rfl⟩
  cases h with
  | @plain s n h =>
    rw [← hiff h]
    obtain ⟨c₀, l, rfl, hc₀⟩ := h.exists_cons
    have hne : ∀ a s', ¬ IsDigit 10 a → c₀ :: l ++ [c] ≠ a :: s' := fun a s' ha heq =>
      ha ((List.cons.inj heq).1 ▸ hc₀)
    exact signedNumeral_iff_of_ne (fun s' => hne 43 s' (by decide)) fun s' => hne 45 s' (by decide)
  | @plus s n h =>
    rw [List.cons_append, signedNumeral_plus_iff]
    exact hiff h
  | @minus s n hneg h =>
    rw [List.cons_append, signedNumeral_minus_iff, and_iff_right hneg]
    simp only [neg_inj, neg_eq_zero]
    exact hiff h

end Concat

/-! ### Decimal texts -/

theorem digitValue_digitChar {d : ℕ} (h : d < 10) :
    digitValue (Nat.digitChar d).toUInt8 = some d := by
  have hall : ∀ d < 10, digitValue (Nat.digitChar d).toUInt8 = some d := by decide
  exact hall d h

theorem toString_bytes_append {n : ℕ} (h : 10 ≤ n) :
    cBytes (toString n) = cBytes (toString (n / 10)) ++ [(Nat.digitChar (n % 10)).toUInt8] := by
  simp only [cBytes, Nat.toString_eq_ofList_toDigits, String.toList_ofList]
  rw [Nat.toDigits_of_base_le (by decide) h, List.map_append, List.map_singleton]

theorem toString_bytes_of_lt {n : ℕ} (h : n < 10) :
    cBytes (toString n) = [(Nat.digitChar n).toUInt8] := by
  simp only [cBytes, Nat.toString_eq_ofList_toDigits, String.toList_ofList]
  rw [Nat.toDigits_of_lt_base h, List.map_singleton]

/-- The text of a number that is not zero is made of digits, and does not begin with `0`. -/
theorem digits_toString {n : ℕ} (hn : 0 < n) :
    (∃ c s, cBytes (toString n) = c :: s ∧ c ≠ 48) ∧
      (∀ c ∈ cBytes (toString n), IsDigit 10 c) ∧ digitsVal 10 (cBytes (toString n)) = n := by
  induction n using Nat.strong_induction_on with
  | _ n ih =>
    by_cases hlt : n < 10
    · rw [toString_bytes_of_lt hlt]
      have hne : ∀ n < 10, 0 < n → (Nat.digitChar n).toUInt8 ≠ 48 := by decide
      refine ⟨⟨_, _, rfl, hne n hlt hn⟩, ?_, ?_⟩
      · rw [List.forall_mem_singleton]
        exact ⟨n, hlt, digitValue_digitChar hlt⟩
      · rw [digitsVal_cons, digitValue_digitChar hlt]
        simp
    · rw [toString_bytes_append (Nat.not_lt.mp hlt)]
      have hlast : n % 10 < 10 := Nat.mod_lt n (by decide)
      obtain ⟨⟨c, s, heq, hc⟩, hdigits, hval⟩ := ih (n / 10) (by omega) (by omega)
      refine ⟨⟨c, s ++ _, by rw [heq]; rfl, hc⟩, ?_, ?_⟩
      · intro x hx
        rcases List.mem_append.mp hx with hx | hx
        · exact hdigits x hx
        · rw [List.mem_singleton.mp hx]
          exact ⟨_, hlast, digitValue_digitChar hlast⟩
      · rw [digitsVal_concat, hval, digitValue_digitChar hlast, Option.getD_some]
        omega

/-- **A number is denoted by its decimal text.** -/
theorem numeral_toString (n : ℕ) : Numeral (cBytes (toString n)) n := by
  rcases Nat.eq_zero_or_pos n with rfl | hn
  · exact .octal (s := []) (by simp)
  · obtain ⟨⟨c, s, heq, hc⟩, hdigits, hval⟩ := digits_toString hn
    have h := heq ▸ Numeral.decimal hc (heq ▸ hdigits)
    rwa [hval] at h

/-- A number below `10 ^ k` has at most `k` decimal digits. -/
theorem length_toString_le {n k : ℕ} (hk : 0 < k) (h : n < 10 ^ k) :
    (cBytes (toString n)).length ≤ k := by
  rw [cBytes, List.length_map, Nat.toString_eq_ofList_toDigits, String.toList_ofList]
  exact (Nat.length_toDigits_le_iff (by decide) hk).mpr h

end Nrf70
