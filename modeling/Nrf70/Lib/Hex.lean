import Nrf70.Lib.Numeral

/-!
# Hexadecimal texts

Bytes as two hexadecimal digits each, the high one first. A digit may be written in either case, so
the bytes have many texts, and a text stands for one string of bytes at most.

## Main definitions

* `HexText` — a text, with the bytes it stands for
* `hexEncode` — the text of bytes, for a choice of case for every digit

## Main results

* `exists_hexText_iff` — which texts stand for bytes
* `hexText_iff` — the texts that stand for bytes are the encodings of them
-/

namespace Nrf70

/-- The bytes a text stands for. -/
inductive HexText : List UInt8 → List UInt8 → Prop
  | nil : HexText [] []
  | cons {hi lo : UInt8} {dhi dlo : ℕ} {s bs : List UInt8} (hhi : digitValue hi = some dhi)
      (hlo : digitValue lo = some dlo) (h : HexText s bs) :
      HexText (hi :: lo :: s) (UInt8.ofNat (16 * dhi + dlo) :: bs)

/-- The digit of a number below sixteen, in one of its cases. -/
def hexDigit (upper : Bool) (d : ℕ) : UInt8 :=
  UInt8.ofNat (if d < 10 then 48 + d else if upper then 55 + d else 87 + d)

/-- The text of bytes. `upper` tells the case of each digit. -/
def hexEncode : (ℕ → Bool) → List UInt8 → List UInt8
  | _, [] => []
  | upper, b :: bs =>
    hexDigit (upper 0) (b.toNat / 16) :: hexDigit (upper 1) (b.toNat % 16) ::
      hexEncode (fun k => upper (k + 2)) bs

/-! ### Digits -/

section Digits

variable {c : UInt8} {d : ℕ}

theorem lt_sixteen_of_digitValue (h : digitValue c = some d) : d < 16 := by
  obtain ⟨d', hlt, hd'⟩ := (isDigit_sixteen_iff c).mpr (by rw [h]; rfl)
  rwa [Option.some.inj (h.symm.trans hd')]

theorem digitValue_hexDigit (upper : Bool) (h : d < 16) :
    digitValue (hexDigit upper d) = some d := by
  have hall : ∀ upper, ∀ d < 16, digitValue (hexDigit upper d) = some d := by decide
  exact hall upper d h

/-- A digit is one of the two ways to write its value. -/
theorem exists_hexDigit (h : digitValue c = some d) : ∃ upper, c = hexDigit upper d := by
  have hall := @forall_byte
    (fun c => ∀ d < 16, digitValue c = some d → ∃ upper, c = hexDigit upper d) (by decide +kernel)
  exact hall c d (lt_sixteen_of_digitValue h) h

end Digits

/-! ### Texts -/

section Texts

variable {s bs bs' : List UInt8}

theorem HexText.length_eq (h : HexText s bs) : s.length = 2 * bs.length := by
  induction h with
  | nil => rfl
  | cons hhi hlo h ih =>
    rw [List.length_cons, List.length_cons, List.length_cons, ih]
    omega

theorem HexText.isDigit (h : HexText s bs) : ∀ c ∈ s, IsDigit 16 c := by
  induction h with
  | nil => exact fun c hc => absurd hc List.not_mem_nil
  | cons hhi hlo h ih =>
    intro c hc
    rcases List.mem_cons.mp hc with rfl | hc
    · exact ⟨_, lt_sixteen_of_digitValue hhi, hhi⟩
    · rcases List.mem_cons.mp hc with rfl | hc
      · exact ⟨_, lt_sixteen_of_digitValue hlo, hlo⟩
      · exact ih c hc

/-- **The texts that stand for bytes** are those of an even number of digits. -/
theorem exists_hexText_iff :
    ∀ {s : List UInt8}, (∃ bs, HexText s bs) ↔ s.length % 2 = 0 ∧ ∀ c ∈ s, IsDigit 16 c
  | [] => iff_of_true ⟨[], .nil⟩ ⟨rfl, by simp⟩
  | [c] => by
    refine iff_of_false ?_ fun h => absurd h.1 Nat.one_ne_zero
    rintro ⟨bs, hbs⟩
    cases hbs
  | hi :: lo :: s => by
    constructor
    · rintro ⟨bs, hbs⟩
      refine ⟨?_, hbs.isDigit⟩
      rw [hbs.length_eq, Nat.mul_mod_right]
    · rintro ⟨heven, hdigits⟩
      obtain ⟨dhi, -, hhi⟩ := hdigits hi (by simp)
      obtain ⟨dlo, -, hlo⟩ := hdigits lo (by simp)
      have hrest : s.length % 2 = 0 := by
        rw [List.length_cons, List.length_cons] at heven
        omega
      obtain ⟨bs, hbs⟩ := exists_hexText_iff.mpr
        ⟨hrest, fun c hc => hdigits c (List.mem_cons_of_mem _ (List.mem_cons_of_mem _ hc))⟩
      exact ⟨_, hbs.cons hhi hlo⟩

/-- A text stands for one string of bytes at most. -/
theorem HexText.unique (h : HexText s bs) (h' : HexText s bs') : bs = bs' := by
  induction h generalizing bs' with
  | nil =>
    cases h'
    rfl
  | cons hhi hlo h ih =>
    cases h' with
    | cons hhi' hlo' h' =>
      rw [Option.some.inj (hhi.symm.trans hhi'), Option.some.inj (hlo.symm.trans hlo'), ih h']

theorem hexText_hexEncode (upper : ℕ → Bool) (bs : List UInt8) :
    HexText (hexEncode upper bs) bs := by
  induction bs generalizing upper with
  | nil => exact .nil
  | cons b bs ih =>
    have hb := b.toNat_lt
    have hhi := digitValue_hexDigit (upper 0) (show b.toNat / 16 < 16 by omega)
    have hlo := digitValue_hexDigit (upper 1) (show b.toNat % 16 < 16 by omega)
    have hcons := HexText.cons hhi hlo (ih fun k => upper (k + 2))
    rwa [Nat.div_add_mod, UInt8.ofNat_toNat] at hcons

/-- **The texts that stand for bytes** are their encodings, in any mixture of cases. -/
theorem hexText_iff : HexText s bs ↔ ∃ upper, s = hexEncode upper bs := by
  constructor
  · intro h
    induction h with
    | nil => exact ⟨fun _ => false, rfl⟩
    | @cons hi lo dhi dlo s bs hhi hlo h ih =>
      obtain ⟨upper, hs⟩ := ih
      obtain ⟨upperHi, hupperHi⟩ := exists_hexDigit hhi
      obtain ⟨upperLo, hupperLo⟩ := exists_hexDigit hlo
      refine ⟨fun | 0 => upperHi | 1 => upperLo | k + 2 => upper k, ?_⟩
      have hlt := lt_sixteen_of_digitValue hhi
      have hlt' := lt_sixteen_of_digitValue hlo
      have hbyte : (UInt8.ofNat (16 * dhi + dlo)).toNat = 16 * dhi + dlo :=
        UInt8.toNat_ofNat_of_lt' (show 16 * dhi + dlo < 256 by omega)
      have hdiv : (16 * dhi + dlo) / 16 = dhi := by omega
      have hmod : (16 * dhi + dlo) % 16 = dlo := by omega
      rw [hexEncode, hbyte, hdiv, hmod, ← hupperHi, ← hupperLo, hs]
  · rintro ⟨upper, rfl⟩
    exact hexText_hexEncode upper bs

end Texts

end Nrf70
