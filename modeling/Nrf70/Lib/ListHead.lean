import Mathlib.Data.List.Chain
import Mathlib.Data.List.Infix
import Mathlib.Data.List.Nodup
import Mathlib.Logic.Function.Basic

/-!
# Circular doubly linked lists

The kernel's `struct list_head`: two link fields at every address, and lists that are cycles
through a head. A link is `none` where the memory is zeroed and not initialised; following it
faults, and a faulting operation is `none` here.

A list is described by `Ring`: the addresses from the head around and back to the head are linked
step by step, forwards and backwards.

## Main results

* `ring_initListHead`, `Ring.listAddTail`, `Ring.listDelInit` — the primitives on rings
* `Ring.frame` — a ring depends on its own addresses only
* `Ring.forEach` — a traversal finds exactly the members
-/

namespace Nrf70

/-- The link fields at every address. -/
structure Links (α : Type*) where
  next : α → Option α
  prev : α → Option α

namespace Links

variable {α : Type*} [DecidableEq α]

def setNext (h : Links α) (a b : α) : Links α :=
  { h with next := Function.update h.next a (some b) }

def setPrev (h : Links α) (a b : α) : Links α :=
  { h with prev := Function.update h.prev a (some b) }

/-! ### The primitives -/

/-- `INIT_LIST_HEAD`. -/
def initListHead (h : Links α) (a : α) : Links α := (h.setNext a a).setPrev a a

/-- `__list_add(new, prev, next)`. -/
def listAdd (h : Links α) (new prev next : α) : Links α :=
  (((h.setPrev next new).setNext new next).setPrev new prev).setNext prev new

/-- `list_add_tail(new, head)`. -/
def listAddTail (h : Links α) (new head : α) : Option (Links α) :=
  (h.prev head).map fun prev => h.listAdd new prev head

/-- `list_del_init(entry)`. -/
def listDelInit (h : Links α) (entry : α) : Option (Links α) :=
  match h.prev entry, h.next entry with
  | some prev, some next => some (((h.setPrev next prev).setNext prev next).initListHead entry)
  | _, _ => none

/-- `list_empty(head)`. -/
def listEmpty (h : Links α) (head : α) : Bool := h.next head == some head

/-- `list_for_each_entry` from the address `cur` on, looking for `target`. It gives up when `fuel`
runs out. -/
def forEach (h : Links α) (head target : α) : ℕ → Option α → Option Bool
  | 0, _ => none
  | _ + 1, none => none
  | fuel + 1, some cur =>
    if cur = head then some false
    else if cur = target then some true
    else h.forEach head target fuel (h.next cur)

/-! ### Rings -/

section Ring

variable {α : Type*} {h h' : Links α} {hd p q x : α} {xs ys zs l : List α}

/-- One step of a list, in both directions. -/
def Linked (h : Links α) (a b : α) : Prop := h.next a = some b ∧ h.prev b = some a

/-- The addresses `xs`, in this order, are the list with head `hd`. -/
structure Ring (h : Links α) (hd : α) (xs : List α) : Prop where
  chain : (hd :: xs ++ [hd]).IsChain h.Linked
  nodup : (hd :: xs).Nodup

/-- A chain survives a change of links that keeps each of its own steps: no step leaves the last
address or enters the first. -/
theorem isChain_frame (hl : l.IsChain h.Linked) (hnext : ∀ a ∈ l.dropLast, h'.next a = h.next a)
    (hprev : ∀ b ∈ l.tail, h'.prev b = h.prev b) : l.IsChain h'.Linked := by
  induction l with
  | nil => exact .nil
  | cons a l ih =>
    cases l with
    | nil => exact .singleton a
    | cons b l =>
      rw [List.isChain_cons_cons] at hl ⊢
      refine ⟨⟨(hnext a (by simp)).trans hl.1.1, (hprev b (by simp)).trans hl.1.2⟩, ih hl.2 ?_ ?_⟩
      · intro u hu
        exact hnext u (by simp [hu])
      · intro v hv
        exact hprev v (List.mem_cons_of_mem _ hv)

/-- A ring is kept by a change that leaves its own addresses alone. -/
theorem Ring.frame (hr : h.Ring hd xs)
    (hsame : ∀ a ∈ hd :: xs, h'.next a = h.next a ∧ h'.prev a = h.prev a) : h'.Ring hd xs := by
  have hmem : ∀ a ∈ hd :: xs ++ [hd], a ∈ hd :: xs := by simp +contextual [or_imp]
  refine ⟨hr.chain.imp_of_mem_imp fun a b ha hb hab => ?_, hr.nodup⟩
  exact ⟨(hsame a (hmem a ha)).1.trans hab.1, (hsame b (hmem b hb)).2.trans hab.2⟩

/-- The last address of a ring is linked to the head. -/
theorem Ring.linked_last (hr : h.Ring hd xs) (hp : (hd :: xs).getLast? = some p) :
    h.Linked p hd :=
  (List.isChain_append.mp hr.chain).2.2 p hp hd rfl

theorem notMem_dropLast_of_getLast? (hl : l.Nodup) (hp : l.getLast? = some p) :
    p ∉ l.dropLast := by
  obtain ⟨l', rfl⟩ := List.getLast?_eq_some_iff.mp hp
  rw [List.dropLast_concat]
  exact fun hmem => (List.nodup_append.mp hl).2.2 p hmem p (by simp) rfl

/-- The parts before and after a member have no address in common but the head, and the member is
in neither. -/
theorem nodup_parts (hnd : (hd :: (ys ++ x :: zs)).Nodup) :
    (hd :: ys).Nodup ∧ (zs ++ [hd]).Nodup ∧ x ∉ hd :: ys ∧ x ∉ zs ++ [hd] ∧
      (∀ u ∈ ys, u ∉ zs ++ [hd]) ∧ ∀ u ∈ zs, u ∉ hd :: ys := by
  rw [List.nodup_cons, List.nodup_append, List.nodup_cons] at hnd
  simp only [List.mem_append, List.mem_cons, not_or] at hnd
  obtain ⟨⟨hhdys, hhdx, hhdzs⟩, hys, ⟨hxzs, hzs⟩, hdisj⟩ := hnd
  have hyszs : ∀ u ∈ ys, u ∉ zs := fun u hu hz => hdisj u hu u (.inr hz) rfl
  have hxys : x ∉ ys := fun hx => hdisj x hx x (.inl rfl) rfl
  refine ⟨List.nodup_cons.mpr ⟨hhdys, hys⟩, ?_, ?_, ?_, fun u hu => ?_, fun u hu => ?_⟩
  · refine List.nodup_append.mpr ⟨hzs, by simp, fun u hu v hv => ?_⟩
    rw [List.mem_singleton.mp hv]
    exact ne_of_mem_of_not_mem hu hhdzs
  · simp [Ne.symm hhdx, hxys]
  · simp [Ne.symm hhdx, hxzs]
  · have huhd : u ≠ hd := ne_of_mem_of_not_mem hu hhdys
    simp [huhd, hyszs u hu]
  · have huhd : u ≠ hd := ne_of_mem_of_not_mem hu hhdzs
    simp only [List.mem_cons, huhd, false_or]
    exact fun hy => hyszs u hy hu

/-- Around a member: the part before it, the part after it, and its two steps. -/
theorem Ring.around (hr : h.Ring hd (ys ++ x :: zs)) (hp : (hd :: ys).getLast? = some p)
    (hq : (zs ++ [hd]).head? = some q) :
    (hd :: ys).IsChain h.Linked ∧ (zs ++ [hd]).IsChain h.Linked ∧ h.Linked p x ∧
      h.Linked x q := by
  have hchain : ((hd :: ys) ++ ([x] ++ (zs ++ [hd]))).IsChain h.Linked := by
    simpa using hr.chain
  obtain ⟨hleft, hrest, hpx⟩ := List.isChain_append.mp hchain
  obtain ⟨-, hright, hxq⟩ := List.isChain_append.mp hrest
  exact ⟨hleft, hright, hpx p hp x rfl, hxq x rfl q hq⟩

/-- The first address after the head. -/
theorem Ring.next_head (hr : h.Ring hd xs) : h.next hd = (xs ++ [hd]).head? := by
  obtain ⟨q, hq⟩ : ∃ q, (xs ++ [hd]).head? = some q := by cases xs <;> simp
  have hchain : (hd :: (xs ++ [hd])).IsChain h.Linked := hr.chain
  rw [hq]
  exact ((List.isChain_cons.mp hchain).1 q hq).1

/-- The address after a member. -/
theorem Ring.next_member (hr : h.Ring hd (ys ++ x :: zs)) : h.next x = (zs ++ [hd]).head? := by
  obtain ⟨p, hp⟩ : ∃ p, (hd :: ys).getLast? = some p := by simp [List.getLast?_cons]
  obtain ⟨q, hq⟩ : ∃ q, (zs ++ [hd]).head? = some q := by cases zs <;> simp
  rw [hq]
  exact (hr.around hp hq).2.2.2.1

end Ring

section Operations

variable {α : Type*} [DecidableEq α] {h : Links α} {a b hd n x : α} {xs ys zs : List α}

theorem ring_initListHead (h : Links α) (a : α) : (h.initListHead a).Ring a [] := by
  refine ⟨?_, by simp⟩
  simp [Linked, initListHead, setNext, setPrev]

theorem initListHead_frame (hne : b ≠ a) :
    (h.initListHead a).next b = h.next b ∧ (h.initListHead a).prev b = h.prev b := by
  simp [initListHead, setNext, setPrev, hne]

/-- **Adding at the tail.** An address outside the ring becomes its last member, and nothing
outside changes. -/
theorem Ring.listAddTail (hr : h.Ring hd xs) (hn : n ∉ hd :: xs) :
    ∃ h', h.listAddTail n hd = some h' ∧ h'.Ring hd (xs ++ [n]) ∧
      ∀ a, a ∉ hd :: xs → a ≠ n → h'.next a = h.next a ∧ h'.prev a = h.prev a := by
  obtain ⟨p, hp⟩ : ∃ p, (hd :: xs).getLast? = some p := by simp [List.getLast?_cons]
  have hpmem : p ∈ hd :: xs := List.mem_of_getLast? hp
  have hpn : p ≠ n := ne_of_mem_of_not_mem hpmem hn
  have hhdn : hd ≠ n := ne_of_mem_of_not_mem List.mem_cons_self hn
  refine ⟨h.listAdd n p hd, by simp [Links.listAddTail, (hr.linked_last hp).2], ⟨?_, ?_⟩, ?_⟩
  · have hsplit : hd :: (xs ++ [n]) ++ [hd] = (hd :: xs) ++ [n, hd] := by simp
    rw [hsplit]
    refine List.IsChain.append ?_ ?_ ?_
    · -- the last address is no source inside, and the head is no target
      refine isChain_frame hr.chain.left_of_append (fun u hu => ?_) (fun v hv => ?_)
      · have hup : u ≠ p :=
          ne_of_mem_of_not_mem hu (notMem_dropLast_of_getLast? hr.nodup hp)
        have hun : u ≠ n := ne_of_mem_of_not_mem (List.mem_of_mem_dropLast hu) hn
        simp [listAdd, setNext, setPrev, hup, hun]
      · have hvhd : v ≠ hd := by rintro rfl; exact (List.nodup_cons.mp hr.nodup).1 hv
        have hvn : v ≠ n := ne_of_mem_of_not_mem (List.mem_of_mem_tail hv) hn
        simp [listAdd, setNext, setPrev, hvhd, hvn]
    · simp [Linked, listAdd, setNext, setPrev, hpn.symm, hhdn]
    · intro u hu v hv
      rw [hp, Option.mem_some] at hu
      simp only [List.head?_cons, Option.mem_some] at hv
      subst hu hv
      simp [Linked, listAdd, setNext, setPrev]
  · rw [← List.cons_append]
    refine List.nodup_append.mpr ⟨hr.nodup, by simp, fun u hu v hv => ?_⟩
    rw [List.mem_singleton.mp hv]
    exact ne_of_mem_of_not_mem hu hn
  · intro a ha han
    have hap : a ≠ p := (ne_of_mem_of_not_mem hpmem ha).symm
    have hahd : a ≠ hd := (ne_of_mem_of_not_mem List.mem_cons_self ha).symm
    simp [listAdd, setNext, setPrev, hap, hahd, han]

/-- **Deleting a member.** The others stay in order, the member becomes a list of its own, and
nothing outside changes. -/
theorem Ring.listDelInit (hr : h.Ring hd (ys ++ x :: zs)) :
    ∃ h', h.listDelInit x = some h' ∧ h'.Ring hd (ys ++ zs) ∧ h'.Ring x [] ∧
      ∀ a, a ∉ hd :: (ys ++ x :: zs) → h'.next a = h.next a ∧ h'.prev a = h.prev a := by
  obtain ⟨p, hp⟩ : ∃ p, (hd :: ys).getLast? = some p := by simp [List.getLast?_cons]
  obtain ⟨q, hq⟩ : ∃ q, (zs ++ [hd]).head? = some q := by cases zs <;> simp
  obtain ⟨hleft, hright, hpx, hxq⟩ := hr.around hp hq
  have hpmem : p ∈ hd :: ys := List.mem_of_getLast? hp
  have hqmem : q ∈ zs ++ [hd] := List.mem_of_head? hq
  obtain ⟨hndl, hndr, hxl, hxr, hys, hzs⟩ := nodup_parts hr.nodup
  have hpx' : p ≠ x := ne_of_mem_of_not_mem hpmem hxl
  have hqx' : q ≠ x := ne_of_mem_of_not_mem hqmem hxr
  refine ⟨((h.setPrev q p).setNext p q).initListHead x, by simp [Links.listDelInit, hpx.2, hxq.1],
    ⟨?_, ?_⟩, ring_initListHead _ x, fun a ha => ?_⟩
  · have hsplit : hd :: (ys ++ zs) ++ [hd] = (hd :: ys) ++ (zs ++ [hd]) := by simp
    rw [hsplit]
    refine List.IsChain.append ?_ ?_ ?_
    · refine isChain_frame hleft (fun u hu => ?_) (fun v hv => ?_)
      · have hup : u ≠ p := ne_of_mem_of_not_mem hu (notMem_dropLast_of_getLast? hndl hp)
        have hux : u ≠ x := ne_of_mem_of_not_mem (List.mem_of_mem_dropLast hu) hxl
        simp [initListHead, setNext, setPrev, hup, hux]
      · have hvq : v ≠ q := (ne_of_mem_of_not_mem hqmem (hys v hv)).symm
        have hvx : v ≠ x := ne_of_mem_of_not_mem (List.mem_of_mem_tail hv) hxl
        simp [initListHead, setNext, setPrev, hvq, hvx]
    · refine isChain_frame hright (fun u hu => ?_) (fun v hv => ?_)
      · rw [List.dropLast_concat] at hu
        have hup : u ≠ p := (ne_of_mem_of_not_mem hpmem (hzs u hu)).symm
        have hux : u ≠ x := ne_of_mem_of_not_mem (List.mem_append_left _ hu) hxr
        simp [initListHead, setNext, setPrev, hup, hux]
      · have hvq : v ≠ q := by
          obtain ⟨rest, hrest⟩ := List.head?_eq_some_iff.mp hq
          rw [hrest] at hndr hv
          exact ne_of_mem_of_not_mem hv (List.nodup_cons.mp hndr).1
        have hvx : v ≠ x := ne_of_mem_of_not_mem (List.mem_of_mem_tail hv) hxr
        simp [initListHead, setNext, setPrev, hvq, hvx]
    · intro u hu v hv
      rw [hp, Option.mem_some] at hu
      rw [hq, Option.mem_some] at hv
      subst hu hv
      simp [Linked, initListHead, setNext, setPrev, hpx', hqx']
  · refine List.Nodup.sublist ?_ hr.nodup
    simp
  · have hmem : ∀ u, u ∈ hd :: ys ∨ u ∈ zs ++ [hd] ∨ u = x → u ≠ a := by
      rintro u hu rfl
      refine ha ?_
      simp only [List.mem_cons, List.mem_append, List.not_mem_nil, or_false] at hu ⊢
      tauto
    have hap : a ≠ p := (hmem p (.inl hpmem)).symm
    have haq : a ≠ q := (hmem q (.inr (.inl hqmem))).symm
    have hax : a ≠ x := (hmem x (.inr (.inr rfl))).symm
    simp [initListHead, setNext, setPrev, hap, haq, hax]

/-- A traversal of what is left of a list finds the target exactly if it is there. -/
theorem forEach_eq {target : α} {fuel : ℕ} (hchain : (xs ++ [hd]).IsChain h.Linked)
    (hhd : hd ∉ xs) (hfuel : xs.length < fuel) :
    h.forEach hd target fuel ((xs ++ [hd]).head?) = some (decide (target ∈ xs)) := by
  induction xs generalizing fuel with
  | nil =>
    obtain ⟨fuel, rfl⟩ := Nat.exists_eq_succ_of_ne_zero (Nat.ne_zero_of_lt hfuel)
    simp [forEach]
  | cons c xs ih =>
    obtain ⟨fuel, rfl⟩ := Nat.exists_eq_succ_of_ne_zero (Nat.ne_zero_of_lt hfuel)
    have hc : c ≠ hd := by rintro rfl; exact hhd List.mem_cons_self
    obtain ⟨q, hq⟩ : ∃ q, (xs ++ [hd]).head? = some q := by cases xs <;> simp
    obtain ⟨hcq, hrest⟩ := List.isChain_cons.mp (by simpa using hchain)
    by_cases ht : c = target
    · subst ht
      simp [forEach, hc]
    · have hnext : h.next c = (xs ++ [hd]).head? := by rw [hq, (hcq q hq).1]
      have hlen : xs.length < fuel := by simpa using hfuel
      simp only [List.cons_append, List.head?_cons, forEach, hc, if_false, ht, hnext]
      rw [ih hrest (fun hmem => hhd (List.mem_cons_of_mem _ hmem)) hlen]
      simp [Ne.symm ht]

/-- **A traversal finds exactly the members**, given a step for each of them and one to come back
to the head. -/
theorem Ring.forEach {target : α} {fuel : ℕ} (hr : h.Ring hd xs) (hfuel : xs.length < fuel) :
    h.forEach hd target fuel (h.next hd) = some (decide (target ∈ xs)) := by
  have hchain : (hd :: (xs ++ [hd])).IsChain h.Linked := hr.chain
  rw [hr.next_head]
  exact forEach_eq (List.isChain_cons.mp hchain).2 (List.nodup_cons.mp hr.nodup).1 hfuel

end Operations

end Links

end Nrf70
