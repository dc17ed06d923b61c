import Mathlib.Data.List.Basic

/-!
# Ledgers of resources

Code that acquires and releases resources leaves a trace of what it did, in order. Whether it has
cleaned up behind itself is a question about counts in that trace.

## Main definitions

* `LedgerEntry` — a resource is acquired, or released
* `ReleasedOnce` — a resource was acquired at most once, and released as often as it was acquired
* `FreedOnce` — the slots of a store that were freed, each once, and dead ever since
* `ownLedger` — the ledger of one owner, in one that is kept for many
-/

namespace Nrf70

/-- An entry of a ledger. -/
inductive LedgerEntry (R : Type*)
  | acquire (r : R)
  | release (r : R)
  deriving DecidableEq, Repr

variable {R : Type*} [DecidableEq R]

/-- The resource was never acquired and never released, or acquired once and released once. -/
def ReleasedOnce (t : List (LedgerEntry R)) (r : R) : Prop :=
  t.count (.acquire r) ≤ 1 ∧ t.count (.release r) = t.count (.acquire r)

instance (t : List (LedgerEntry R)) (r : R) : Decidable (ReleasedOnce t r) :=
  inferInstanceAs (Decidable (_ ∧ _))

/-- What does not occur in the ledger was never acquired. -/
theorem releasedOnce_nil (r : R) : ReleasedOnce [] r := ⟨Nat.zero_le _, rfl⟩

/-- The resource was acquired once and is still held. -/
def Unreleased (t : List (LedgerEntry R)) (r : R) : Prop :=
  t.count (.acquire r) = 1 ∧ t.count (.release r) = 0

instance (t : List (LedgerEntry R)) (r : R) : Decidable (Unreleased t r) :=
  inferInstanceAs (Decidable (_ ∧ _))

/-- What is still held has not been released. -/
theorem Unreleased.not_releasedOnce {t : List (LedgerEntry R)} {r : R} (h : Unreleased t r) :
    ¬ ReleasedOnce t r := by
  rintro ⟨-, hcount⟩
  rw [h.1, h.2] at hcount
  exact absurd hcount (by decide)

/-- A resource that is released again stays released too often. -/
def OverReleased (t : List (LedgerEntry R)) (r : R) : Prop :=
  t.count (.acquire r) < t.count (.release r)

theorem OverReleased.not_releasedOnce {t : List (LedgerEntry R)} {r : R} (h : OverReleased t r) :
    ¬ ReleasedOnce t r :=
  fun hone => absurd hone.2 (Nat.ne_of_gt h)

/-- Releasing what has been released is once too often. -/
theorem ReleasedOnce.overReleased {t u : List (LedgerEntry R)} {r : R} (h : ReleasedOnce t r)
    (hacq : .acquire r ∉ u) (hrel : .release r ∈ u) : OverReleased (t ++ u) r := by
  have hnone : u.count (.acquire r) = 0 := List.count_eq_zero.mpr hacq
  have hsome : 0 < u.count (.release r) := List.count_pos_iff.mpr hrel
  rw [OverReleased, List.count_append, List.count_append, h.2]
  omega

theorem OverReleased.append {t u : List (LedgerEntry R)} {r : R} (h : OverReleased t r)
    (hacq : .acquire r ∉ u) : OverReleased (t ++ u) r := by
  have hnone : u.count (.acquire r) = 0 := List.count_eq_zero.mpr hacq
  rw [OverReleased] at h ⊢
  rw [List.count_append, List.count_append]
  omega

theorem Unreleased.append {t u : List (LedgerEntry R)} {r : R} (h : Unreleased t r)
    (hacq : .acquire r ∉ u) (hrel : .release r ∉ u) : Unreleased (t ++ u) r := by
  rw [Unreleased, List.count_append, List.count_append, List.count_eq_zero.mpr hacq,
    List.count_eq_zero.mpr hrel]
  exact h

/-! ### Ledgers kept for many owners -/

section Owners

variable {K : Type*} [DecidableEq K]

/-- The entries of one owner. -/
def ownLedger (t : List (K × LedgerEntry R)) (k : K) : List (LedgerEntry R) :=
  (t.filter fun e => e.1 = k).map Prod.snd

omit [DecidableEq R] in
@[simp] theorem ownLedger_nil (k : K) : ownLedger ([] : List (K × LedgerEntry R)) k = [] := rfl

omit [DecidableEq R] in
/-- What one owner does is in the ledger of that owner. -/
theorem ownLedger_own (t : List (K × LedgerEntry R)) (u : List (LedgerEntry R)) (k : K) :
    ownLedger (t ++ u.map (Prod.mk k)) k = ownLedger t k ++ u := by
  simp [ownLedger, List.filter_map, Function.comp_def]

omit [DecidableEq R] in
/-- And in no other. -/
theorem ownLedger_other (t : List (K × LedgerEntry R)) (u : List (LedgerEntry R)) {k k' : K}
    (h : k' ≠ k) : ownLedger (t ++ u.map (Prod.mk k)) k' = ownLedger t k' := by
  simp [ownLedger, List.filter_map, Function.comp_def, h.symm]

end Owners

/-! ### Slots that are freed in place -/

section Slots

variable {α : Type*} {dead : α → Prop} {freed : List ℕ} {slots : List α}

/-- No slot was freed twice, and each that was freed is there and dead. -/
def FreedOnce (dead : α → Prop) (freed : List ℕ) (slots : List α) : Prop :=
  freed.Nodup ∧ ∀ i ∈ freed, ∃ a, slots[i]? = some a ∧ dead a

theorem freedOnce_nil : FreedOnce dead [] slots := ⟨List.nodup_nil, by simp⟩

/-- New slots do not bring an old one back. -/
theorem FreedOnce.append (h : FreedOnce dead freed slots) (more : List α) :
    FreedOnce dead freed (slots ++ more) := by
  refine ⟨h.1, fun i hi => ?_⟩
  obtain ⟨a, ha, hdead⟩ := h.2 i hi
  refine ⟨a, ?_, hdead⟩
  rw [List.getElem?_append_left (List.getElem?_eq_some_iff.mp ha).1]
  exact ha

/-- A slot that is not dead was not freed. -/
theorem FreedOnce.notMem (h : FreedOnce dead freed slots) {i : ℕ} {a : α}
    (ha : slots[i]? = some a) (hlive : ¬ dead a) : i ∉ freed := by
  intro hi
  obtain ⟨b, hb, hdead⟩ := h.2 i hi
  rw [ha, Option.some.injEq] at hb
  exact hlive (hb ▸ hdead)

/-- A slot can be new and dead already. -/
theorem FreedOnce.append_dead (h : FreedOnce dead freed slots) {a : α} (ha : dead a) :
    FreedOnce dead (freed ++ [slots.length]) (slots ++ [a]) := by
  have hnew : slots.length ∉ freed := by
    intro hmem
    obtain ⟨b, hb, -⟩ := h.2 _ hmem
    exact absurd (List.getElem?_eq_some_iff.mp hb).1 (Nat.lt_irrefl _)
  refine ⟨?_, fun i hi => ?_⟩
  · refine List.nodup_append.mpr ⟨h.1, by simp, fun j hj k hk heq => ?_⟩
    rw [heq, List.mem_singleton.mp hk] at hj
    exact hnew hj
  · rcases List.mem_append.mp hi with hold | hlast
    · exact (h.append [a]).2 i hold
    · rw [List.mem_singleton.mp hlast]
      exact ⟨a, by simp, ha⟩

/-- A slot that is not dead can be freed. -/
theorem FreedOnce.free (h : FreedOnce dead freed slots) {kill : α → α} (hkill : ∀ a, dead (kill a))
    {i : ℕ} {a : α} (ha : slots[i]? = some a) (hlive : ¬ dead a) :
    FreedOnce dead (freed ++ [i]) (slots.modify i kill) := by
  refine ⟨?_, fun j hj => ?_⟩
  · refine List.nodup_append.mpr ⟨h.1, by simp, fun j hj k hk heq => ?_⟩
    rw [heq, List.mem_singleton.mp hk] at hj
    exact h.notMem ha hlive hj
  · rw [List.getElem?_modify]
    rcases List.mem_append.mp hj with hold | hnew
    · obtain ⟨b, hb, hdead⟩ := h.2 j hold
      rw [hb]
      by_cases hij : i = j
      · exact ⟨kill b, by simp [hij], hkill b⟩
      · exact ⟨b, by simp [hij], hdead⟩
    · rw [List.mem_singleton.mp hnew, ha]
      exact ⟨kill a, by simp, hkill a⟩

end Slots

end Nrf70
