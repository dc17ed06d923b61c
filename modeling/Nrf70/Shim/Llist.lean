import Mathlib.Algebra.Ring.Nat
import Mathlib.Data.List.Perm.Subperm
import Mathlib.Data.List.TakeWhile
import Nrf70.Lib.ListHead
import Nrf70.Lib.Machine

/-!
# The linked lists of the OS shim

`shim_llist` and `shim_llist_node` are kernel list heads, with a node count `len` kept beside the
links of a list. Looking up the first node trusts `len`, a traversal trusts the links, and
`shim_llist_del_node` traverses the list before it touches a node, so that it can be called with
any node at all. All of it runs under one lock, so an operation is one step.

The specification is a table of sequences of nodes. `fifoStep` says what each operation may be
called with: a list after its `shim_llist_init`, and for an addition a node that is in no list.

`len` is an `unsigned int`. It follows the number of nodes modulo `2 ^ 32`, so what reads it is
right while a list has fewer nodes than that.

## Main results

* `llist_refines_fifo` — every sequence of operations on lists of fewer than `2 ^ 32` nodes has
  the results of the specification, and the links are those of its sequences
* `LlistRepr.walk` — a walk from the head visits the nodes of a list in order, once each
* `llist_len_wraps` — a list of `2 ^ 32` nodes whose head is not found
-/

namespace Nrf70

open Links

/-! ### The shim's memory -/

/-- The address of a `struct list_head`: it is the first field of a list and of a node, so it is
also the address of these. -/
inductive Addr
  | llist (l : ℕ)
  | node (n : ℕ)
  deriving DecidableEq, Repr

/-- `nodes` are the nodes that have been allocated. -/
structure LlistState where
  links : Links Addr
  len : ℕ → UInt32
  nodes : List ℕ

/-- What an operation returns, where it returns something. -/
inductive LlistRet
  | node (p : Option Addr)
  | len (len : ℕ)
  deriving DecidableEq, Repr

/-- The operations. A pointer may be NULL, which is `none`. -/
inductive LlistOp
  | nodeAlloc (n : ℕ)
  | alloc (l : ℕ)
  | init (l : ℕ)
  | addNodeTail (l n : Option ℕ)
  | getNodeHead (l : Option ℕ)
  | getNodeNxt (l n : Option ℕ)
  | delNode (l n : Option ℕ)
  | len (l : Option ℕ)
  deriving DecidableEq, Repr

/-! ### The shim's functions -/

/-- `shim_llist_node_alloc`. -/
def shimLlistNodeAlloc (s : LlistState) (n : ℕ) : LlistState :=
  { s with links := s.links.initListHead (.node n), nodes := n :: s.nodes }

/-- `shim_llist_alloc`: zeroed memory. -/
def shimLlistAlloc (s : LlistState) (l : ℕ) : LlistState :=
  { s with
    links :=
      ⟨Function.update s.links.next (.llist l) none, Function.update s.links.prev (.llist l) none⟩
    len := Function.update s.len l 0 }

/-- `shim_llist_init`. -/
def shimLlistInit (s : LlistState) (l : ℕ) : LlistState :=
  { s with links := s.links.initListHead (.llist l) }

/-- `shim_llist_add_node_tail`. -/
def shimLlistAddNodeTail (s : LlistState) : Option ℕ → Option ℕ → Option LlistState
  | some l, some n =>
    (s.links.listAddTail (.node n) (.llist l)).map fun links =>
      { s with links := links, len := Function.update s.len l (s.len l + 1) }
  | _, _ => some s

/-- `shim_llist_get_node_head`. -/
def shimLlistGetNodeHead (s : LlistState) : Option ℕ → Option Addr
  | some l => if s.len l = 0 then none else s.links.next (.llist l)
  | none => none

/-- `shim_llist_get_node_nxt`. -/
def shimLlistGetNodeNxt (s : LlistState) : Option ℕ → Option ℕ → Option Addr
  | some l, some n =>
    if s.links.listEmpty (.node n) then none
    else if s.links.next (.node n) = some (.llist l) then none
    else s.links.next (.node n)
  | _, _ => none

/-- `shim_llist_del_node`. The traversal is given a step for each node there is. -/
def shimLlistDelNode (s : LlistState) : Option ℕ → Option ℕ → Option LlistState
  | some l, some n =>
    match s.links.forEach (.llist l) (.node n) (s.nodes.length + 1) (s.links.next (.llist l)) with
    | none => none
    | some false => some s
    | some true =>
      (s.links.listDelInit (.node n)).map fun links =>
        { s with
          links := links
          len := if s.len l = 0 then s.len else Function.update s.len l (s.len l - 1) }
  | _, _ => some s

/-- `shim_llist_len`. -/
def shimLlistLen (s : LlistState) : Option ℕ → ℕ
  | some l => (s.len l).toNat
  | none => 0

/-- One operation; `none` when it faults or does not come back. -/
def llistStep (s : LlistState) : LlistOp → Option (LlistState × List LlistRet)
  | .nodeAlloc n => some (shimLlistNodeAlloc s n, [])
  | .alloc l => some (shimLlistAlloc s l, [])
  | .init l => some (shimLlistInit s l, [])
  | .addNodeTail l n => (shimLlistAddNodeTail s l n).map (·, [])
  | .getNodeHead l => some (s, [.node (shimLlistGetNodeHead s l)])
  | .getNodeNxt l n => some (s, [.node (shimLlistGetNodeNxt s l n)])
  | .delNode l n => (shimLlistDelNode s l n).map (·, [])
  | .len l => some (s, [.len (shimLlistLen s l)])

def llistMachine : Machine LlistState LlistOp LlistRet := ⟨llistStep⟩

/-- Nothing has been allocated. -/
def LlistState.init : LlistState := ⟨⟨fun _ => none, fun _ => none⟩, fun _ => 0, []⟩

/-! ### The specification -/

/-- Sequences of nodes. `raw` are the lists that have been allocated and not yet initialised,
`ready` those that have been. -/
structure Fifo where
  nodes : List ℕ
  raw : List ℕ
  ready : List ℕ
  seq : ℕ → List ℕ

def Fifo.init : Fifo := ⟨[], [], [], fun _ => []⟩

/-- The node is in no list. -/
def Fifo.Detached (a : Fifo) (n : ℕ) : Prop := ∀ l ∈ a.ready, n ∉ a.seq l

instance (a : Fifo) (n : ℕ) : Decidable (a.Detached n) :=
  inferInstanceAs (Decidable (∀ l ∈ a.ready, n ∉ a.seq l))

/-- A list that may be used, or NULL. -/
def Fifo.usable (a : Fifo) : Option ℕ → Bool
  | some l => l ∈ a.ready
  | none => true

/-- The nodes after the first occurrence of `n`. -/
def nodesAfter (n : ℕ) (xs : List ℕ) : List ℕ := (xs.dropWhile (· ≠ n)).tail

/-- What each operation may be called with, and what it does to the sequences. -/
def fifoStep (a : Fifo) : LlistOp → Option (Fifo × List LlistRet)
  | .nodeAlloc n => if n ∉ a.nodes then some ({ a with nodes := n :: a.nodes }, []) else none
  | .alloc l =>
    if l ∉ a.raw ∧ l ∉ a.ready then some ({ a with raw := l :: a.raw }, []) else none
  | .init l =>
    if l ∈ a.raw ∧ l ∉ a.ready then
      some ({ a with ready := l :: a.ready, seq := Function.update a.seq l [] }, [])
    else none
  | .addNodeTail (some l) (some n) =>
    if l ∈ a.ready ∧ n ∈ a.nodes ∧ a.Detached n then
      some ({ a with seq := Function.update a.seq l (a.seq l ++ [n]) }, [])
    else none
  | .addNodeTail l _ => if a.usable l then some (a, []) else none
  | .getNodeHead l =>
    if a.usable l then
      some (a, [.node ((l.bind fun l => (a.seq l).head?).map .node)])
    else none
  | .getNodeNxt (some l) (some n) =>
    if l ∈ a.ready ∧ n ∈ a.nodes ∧ (n ∈ a.seq l ∨ a.Detached n) then
      some (a, [.node ((nodesAfter n (a.seq l)).head?.map .node)])
    else none
  | .getNodeNxt l _ => if a.usable l then some (a, [.node none]) else none
  | .delNode (some l) (some n) =>
    if l ∈ a.ready then
      some ({ a with seq := Function.update a.seq l ((a.seq l).erase n) }, [])
    else none
  | .delNode l _ => if a.usable l then some (a, []) else none
  | .len l =>
    if a.usable l then some (a, [.len ((l.map fun l => (a.seq l).length).getD 0)]) else none

def fifoMachine : Machine Fifo LlistOp LlistRet := ⟨fifoStep⟩

/-- The list whose count decides what the operation does. -/
def LlistOp.counted : LlistOp → Option ℕ
  | .delNode l (some _) | .getNodeHead l | .len l => l
  | _ => none

/-- A list that is deleted from, or asked for its head or its length, has fewer than `2 ^ 32`
nodes. -/
def Fifo.Fits (a : Fifo) (op : LlistOp) : Prop := ∀ l ∈ op.counted, (a.seq l).length < 2 ^ 32

instance (a : Fifo) (op : LlistOp) : Decidable (a.Fits op) :=
  inferInstanceAs (Decidable (∀ l ∈ op.counted, (a.seq l).length < 2 ^ 32))

/-! ### The sequences as links -/

/-- The memory `s` holds the sequences `a`. -/
structure LlistRepr (a : Fifo) (s : LlistState) : Prop where
  nodes : s.nodes = a.nodes
  /-- The links of a list are one cycle through its head, in the order of its sequence. -/
  ring : ∀ l ∈ a.ready, s.links.Ring (.llist l) ((a.seq l).map .node)
  member : ∀ l ∈ a.ready, ∀ n ∈ a.seq l, n ∈ a.nodes
  disjoint : ∀ l ∈ a.ready, ∀ l' ∈ a.ready, ∀ n ∈ a.seq l, n ∈ a.seq l' → l = l'
  /-- A node in no list is linked to itself. -/
  detached : ∀ n ∈ a.nodes, a.Detached n → s.links.Ring (.node n) []
  len : ∀ l ∈ a.ready, s.len l = UInt32.ofNat (a.seq l).length
  raw : ∀ l ∈ a.raw, l ∉ a.ready → s.len l = 0

theorem LlistRepr.init : LlistRepr .init .init where
  nodes := rfl
  ring := by simp [Fifo.init]
  member := by simp [Fifo.init]
  disjoint := by simp [Fifo.init]
  detached := by simp [Fifo.init]
  len := by simp [Fifo.init]
  raw := by simp [Fifo.init]

section Repr

variable {a : Fifo} {s : LlistState} {l n : ℕ} {links : Links Addr}

theorem LlistRepr.seq_nodup (h : LlistRepr a s) (hl : l ∈ a.ready) : (a.seq l).Nodup :=
  List.Nodup.of_map _ (List.nodup_cons.mp (h.ring l hl).nodup).2

theorem LlistRepr.seq_length_le (h : LlistRepr a s) (hl : l ∈ a.ready) :
    (a.seq l).length ≤ s.nodes.length := by
  rw [h.nodes]
  exact (List.subperm_of_subset (h.seq_nodup hl) (h.member l hl)).length_le

/-- A node stands in its list once. -/
theorem LlistRepr.notMem_parts (h : LlistRepr a s) (hl : l ∈ a.ready) {ys zs : List ℕ}
    (hsplit : a.seq l = ys ++ n :: zs) : n ∉ ys ∧ n ∉ zs := by
  have hnd := h.seq_nodup hl
  rw [hsplit, List.nodup_append, List.nodup_cons] at hnd
  exact ⟨fun hmem => hnd.2.2 n hmem n List.mem_cons_self rfl, hnd.2.1.1⟩

/-- A list with a member and fewer than `2 ^ 32` of them has a count that is not zero. -/
theorem LlistRepr.len_ne_zero (h : LlistRepr a s) (hl : l ∈ a.ready)
    (hfit : (a.seq l).length < 2 ^ 32) (hne : a.seq l ≠ []) : s.len l ≠ 0 := by
  rw [h.len l hl]
  intro heq
  have hzero := congrArg UInt32.toNat heq
  rw [UInt32.toNat_ofNat', Nat.mod_eq_of_lt hfit] at hzero
  exact hne (List.eq_nil_of_length_eq_zero hzero)

/-- A change of links around list `l` and node `n` alone. -/
def LocalChange (a : Fifo) (l n : ℕ) (links links' : Links Addr) : Prop :=
  ∀ x, x ∉ Addr.llist l :: (a.seq l).map .node → x ≠ .node n →
    links'.next x = links.next x ∧ links'.prev x = links.prev x

/-- Other lists do not see a local change. -/
theorem LlistRepr.ring_other (h : LlistRepr a s) (hl : l ∈ a.ready)
    (hn : a.Detached n ∨ n ∈ a.seq l) (hloc : LocalChange a l n s.links links) {l' : ℕ}
    (hl' : l' ∈ a.ready) (hne : l' ≠ l) : links.Ring (.llist l') ((a.seq l').map .node) := by
  refine (h.ring l' hl').frame fun x hx => hloc x ?_ ?_
  · rcases List.mem_cons.mp hx with rfl | hx
    · simp [hne]
    · obtain ⟨m, hm, rfl⟩ := List.mem_map.mp hx
      simp only [List.mem_cons, reduceCtorEq, List.mem_map, Addr.node.injEq, exists_eq_right,
        false_or]
      exact fun hml => hne (h.disjoint l' hl' l hl m hm hml)
  · rcases List.mem_cons.mp hx with rfl | hx
    · simp
    · obtain ⟨m, hm, rfl⟩ := List.mem_map.mp hx
      rw [Ne, Addr.node.injEq]
      rintro rfl
      rcases hn with hn | hn
      · exact hn l' hl' hm
      · exact hne (h.disjoint l' hl' l hl m hm hn)

/-- Other nodes in no list do not see a local change. -/
theorem LlistRepr.detached_other (h : LlistRepr a s) (hl : l ∈ a.ready)
    (hloc : LocalChange a l n s.links links) {m : ℕ} (hm : m ∈ a.nodes) (hd : a.Detached m)
    (hne : m ≠ n) : links.Ring (.node m) [] := by
  refine (h.detached m hm hd).frame fun x hx => ?_
  rw [List.mem_singleton.mp hx]
  refine hloc _ ?_ (by simpa using hne)
  simpa using hd l hl

theorem LlistRepr.nodeAlloc (h : LlistRepr a s) (hn : n ∉ a.nodes) :
    LlistRepr { a with nodes := n :: a.nodes } (shimLlistNodeAlloc s n) := by
  refine ⟨by simp [shimLlistNodeAlloc, h.nodes], fun l hl => ?_,
    fun l hl m hm => List.mem_cons_of_mem _ (h.member l hl m hm), h.disjoint, fun m hm hd => ?_,
    h.len, h.raw⟩
  · refine (h.ring l hl).frame fun x hx => initListHead_frame ?_
    rcases List.mem_cons.mp hx with rfl | hx
    · simp
    · obtain ⟨m, hm, rfl⟩ := List.mem_map.mp hx
      have hmn : m ≠ n := ne_of_mem_of_not_mem (h.member l hl m hm) hn
      simp [hmn]
  · by_cases hmn : m = n
    · subst hmn
      exact ring_initListHead _ _
    · have hm' : m ∈ a.nodes := by simpa [hmn] using hm
      refine (h.detached m hm' hd).frame fun x hx => initListHead_frame ?_
      rw [List.mem_singleton.mp hx]
      simp [hmn]

theorem LlistRepr.alloc (h : LlistRepr a s) (hready : l ∉ a.ready) :
    LlistRepr { a with raw := l :: a.raw } (shimLlistAlloc s l) := by
  refine ⟨h.nodes, fun l' hl' => ?_, h.member, h.disjoint, fun m hm hd => ?_, fun l' hl' => ?_,
    fun l' hl' hr => ?_⟩
  · have hne : l' ≠ l := ne_of_mem_of_not_mem hl' hready
    refine (h.ring l' hl').frame fun x hx => ?_
    have hx' : x ≠ .llist l := by
      rcases List.mem_cons.mp hx with rfl | hx
      · simp [hne]
      · obtain ⟨m, -, rfl⟩ := List.mem_map.mp hx
        simp
    simp [shimLlistAlloc, hx']
  · refine (h.detached m hm hd).frame fun x hx => ?_
    rw [List.mem_singleton.mp hx]
    simp [shimLlistAlloc]
  · have hne : l' ≠ l := ne_of_mem_of_not_mem hl' hready
    simpa [shimLlistAlloc, hne] using h.len l' hl'
  · by_cases hne : l' = l
    · simp [shimLlistAlloc, hne]
    · have hl'' : l' ∈ a.raw := by simpa [hne] using hl'
      simpa [shimLlistAlloc, hne] using h.raw l' hl'' hr

theorem LlistRepr.initList (h : LlistRepr a s) (hraw : l ∈ a.raw) (hready : l ∉ a.ready) :
    LlistRepr { a with ready := l :: a.ready, seq := Function.update a.seq l [] }
      (shimLlistInit s l) := by
  have hseq : ∀ l', l' ≠ l → Function.update a.seq l [] l' = a.seq l' := fun l' hne =>
    Function.update_of_ne hne ..
  have hold : ∀ l' ∈ l :: a.ready, l' ≠ l → l' ∈ a.ready := by simp +contextual
  refine ⟨h.nodes, fun l' hl' => ?_, fun l' hl' m hm => ?_, fun l₁ hl₁ l₂ hl₂ m hm₁ hm₂ => ?_,
    fun m hm hd => ?_, fun l' hl' => ?_, fun l' hl' hr => ?_⟩
  · by_cases hne : l' = l
    · subst hne
      simpa [shimLlistInit] using ring_initListHead s.links (.llist l')
    · dsimp only
      rw [hseq l' hne]
      refine (h.ring l' (hold l' hl' hne)).frame fun x hx => initListHead_frame ?_
      rcases List.mem_cons.mp hx with rfl | hx
      · simp [hne]
      · obtain ⟨m, -, rfl⟩ := List.mem_map.mp hx
        simp
  · by_cases hne : l' = l
    · simp [hne] at hm
    · dsimp only at hm
      rw [hseq l' hne] at hm
      exact h.member l' (hold l' hl' hne) m hm
  · by_cases hne₁ : l₁ = l
    · simp [hne₁] at hm₁
    · by_cases hne₂ : l₂ = l
      · simp [hne₂] at hm₂
      · dsimp only at hm₁ hm₂
        rw [hseq l₁ hne₁] at hm₁
        rw [hseq l₂ hne₂] at hm₂
        exact h.disjoint l₁ (hold l₁ hl₁ hne₁) l₂ (hold l₂ hl₂ hne₂) m hm₁ hm₂
  · have hd' : a.Detached m := fun l' hl' => by
      have hne : l' ≠ l := ne_of_mem_of_not_mem hl' hready
      have hdl := hd l' (List.mem_cons_of_mem _ hl')
      dsimp only at hdl
      rwa [hseq l' hne] at hdl
    refine (h.detached m hm hd').frame fun x hx => initListHead_frame ?_
    rw [List.mem_singleton.mp hx]
    simp
  · by_cases hne : l' = l
    · subst hne
      simpa [shimLlistInit] using h.raw l' hraw hready
    · dsimp only
      rw [hseq l' hne]
      exact h.len l' (hold l' hl' hne)
  · exact h.raw l' hl' fun hr' => hr (List.mem_cons_of_mem _ hr')

/-- List `l` gets another sequence, which differs from the old one in node `n` only. -/
theorem LlistRepr.update {seq' : List ℕ} {len' : ℕ → UInt32} (h : LlistRepr a s)
    (hl : l ∈ a.ready) (hn : a.Detached n ∨ n ∈ a.seq l)
    (hloc : LocalChange a l n s.links links) (hring : links.Ring (.llist l) (seq'.map .node))
    (hmem : ∀ m ∈ seq', m ∈ a.nodes ∧ (m ≠ n → m ∈ a.seq l))
    (hkept : ∀ m ∈ a.seq l, m ≠ n → m ∈ seq') (hself : n ∉ seq' → links.Ring (.node n) [])
    (hlen : len' l = UInt32.ofNat seq'.length) (hlen' : ∀ l', l' ≠ l → len' l' = s.len l') :
    LlistRepr { a with seq := Function.update a.seq l seq' }
      { s with links := links, len := len' } := by
  have hseq : ∀ l', l' ≠ l → Function.update a.seq l seq' l' = a.seq l' := fun l' hne =>
    Function.update_of_ne hne ..
  -- no node of the new sequence is in another list
  have hapart : ∀ l' ∈ a.ready, l' ≠ l → ∀ m ∈ seq', m ∉ a.seq l' := by
    intro l' hl' hne m hm hm'
    have hml : m ∈ a.seq l := by
      by_cases hmn : m = n
      · subst hmn
        exact hn.resolve_left fun hd => hd l' hl' hm'
      · exact (hmem m hm).2 hmn
    exact hne (h.disjoint l' hl' l hl m hm' hml)
  refine ⟨h.nodes, fun l' hl' => ?_, fun l' hl' m hm => ?_, fun l₁ hl₁ l₂ hl₂ m hm₁ hm₂ => ?_,
    fun m hm hd => ?_, fun l' hl' => ?_, fun l' hl' hr => ?_⟩
  · by_cases hne : l' = l
    · subst hne
      simpa using hring
    · dsimp only
      rw [hseq l' hne]
      exact h.ring_other hl hn hloc hl' hne
  · by_cases hne : l' = l
    · subst hne
      exact (hmem m (by simpa using hm)).1
    · dsimp only at hm
      rw [hseq l' hne] at hm
      exact h.member l' hl' m hm
  · dsimp only at hm₁ hm₂
    by_cases hne₁ : l₁ = l <;> by_cases hne₂ : l₂ = l
    · rw [hne₁, hne₂]
    · rw [hne₁, Function.update_self] at hm₁
      rw [hseq l₂ hne₂] at hm₂
      exact absurd hm₂ (hapart l₂ hl₂ hne₂ m hm₁)
    · rw [hne₂, Function.update_self] at hm₂
      rw [hseq l₁ hne₁] at hm₁
      exact absurd hm₁ (hapart l₁ hl₁ hne₁ m hm₂)
    · rw [hseq l₁ hne₁] at hm₁
      rw [hseq l₂ hne₂] at hm₂
      exact h.disjoint l₁ hl₁ l₂ hl₂ m hm₁ hm₂
  · have hself' : m ∉ seq' := by simpa using hd l hl
    by_cases hmn : m = n
    · subst hmn
      exact hself hself'
    · refine h.detached_other hl hloc hm (fun l' hl' => ?_) hmn
      by_cases hne : l' = l
      · subst hne
        exact fun hml => hself' (hkept m hml hmn)
      · have hdl := hd l' hl'
        dsimp only at hdl
        rwa [hseq l' hne] at hdl
  · by_cases hne : l' = l
    · subst hne
      simpa using hlen
    · dsimp only
      rw [hseq l' hne, hlen' l' hne]
      exact h.len l' hl'
  · have hne : l' ≠ l := by rintro rfl; exact hr hl
    dsimp only
    rw [hlen' l' hne]
    exact h.raw l' hl' hr

/-- **Adding a node.** -/
theorem LlistRepr.addNodeTail (h : LlistRepr a s) (hl : l ∈ a.ready) (hn : n ∈ a.nodes)
    (hd : a.Detached n) : ∃ s', shimLlistAddNodeTail s (some l) (some n) = some s' ∧
      LlistRepr { a with seq := Function.update a.seq l (a.seq l ++ [n]) } s' := by
  have hnew : Addr.node n ∉ Addr.llist l :: (a.seq l).map .node := by simpa using hd l hl
  obtain ⟨links, hadd, hring, hloc⟩ := (h.ring l hl).listAddTail hnew
  refine ⟨_, by simp [shimLlistAddNodeTail, hadd]; rfl,
    h.update hl (.inl hd) hloc ?_ ?_ ?_ ?_ ?_ ?_⟩
  · simpa using hring
  · intro m hm
    rcases List.mem_append.mp hm with hm | hm
    · exact ⟨h.member l hl m hm, fun _ => hm⟩
    · rw [List.mem_singleton.mp hm]
      exact ⟨hn, fun hne => absurd rfl hne⟩
  · exact fun m hm _ => List.mem_append_left _ hm
  · exact fun hne => absurd (by simp) hne
  · rw [Function.update_self, h.len l hl, List.length_append, List.length_singleton,
      UInt32.ofNat_add]
    rfl
  · exact fun l' hne => Function.update_of_ne hne ..

/-- The traversal of a deletion comes to an end, and finds the node exactly if it is a member. -/
theorem LlistRepr.forEach (h : LlistRepr a s) (hl : l ∈ a.ready) (n : ℕ) :
    s.links.forEach (.llist l) (.node n) (s.nodes.length + 1) (s.links.next (.llist l)) =
      some (decide (n ∈ a.seq l)) := by
  have hfuel : ((a.seq l).map Addr.node).length < s.nodes.length + 1 := by
    rw [List.length_map]
    exact Nat.lt_succ_of_le (h.seq_length_le hl)
  rw [(h.ring l hl).forEach hfuel]
  simp

/-- Deleting a node that is no member changes nothing at all. -/
theorem LlistRepr.delNode_of_notMem (h : LlistRepr a s) (hl : l ∈ a.ready) (hn : n ∉ a.seq l) :
    shimLlistDelNode s (some l) (some n) = some s := by
  simp [shimLlistDelNode, h.forEach hl, hn]

/-- **Deleting a node**, whether or not it is a member. -/
theorem LlistRepr.delNode (h : LlistRepr a s) (hl : l ∈ a.ready)
    (hfit : (a.seq l).length < 2 ^ 32) : ∃ s', shimLlistDelNode s (some l) (some n) = some s' ∧
      LlistRepr { a with seq := Function.update a.seq l ((a.seq l).erase n) } s' := by
  by_cases hn : n ∈ a.seq l
  · obtain ⟨ys, zs, hsplit⟩ := List.append_of_mem hn
    have hys : n ∉ ys := (h.notMem_parts hl hsplit).1
    have herase : (a.seq l).erase n = ys ++ zs := by
      rw [hsplit, List.erase_append_right _ hys, List.erase_cons_head]
    have hring : s.links.Ring (.llist l) (ys.map .node ++ .node n :: zs.map .node) := by
      simpa [hsplit] using h.ring l hl
    obtain ⟨links, hdel, hring', hself, hloc⟩ := hring.listDelInit
    have hlen : s.len l ≠ 0 := h.len_ne_zero hl hfit (List.ne_nil_of_mem hn)
    refine ⟨_, by simp [shimLlistDelNode, h.forEach hl, hn, hdel, hlen]; rfl, ?_⟩
    rw [herase]
    refine h.update hl (.inr hn) (fun x hx _ => hloc x (by simpa [hsplit] using hx)) ?_ ?_ ?_
      (fun _ => hself) ?_ (fun l' hne => Function.update_of_ne hne ..)
    · simpa using hring'
    · intro m hm
      have hm' : m ∈ a.seq l := by
        rw [hsplit]
        simp only [List.mem_append, List.mem_cons] at hm ⊢
        tauto
      exact ⟨h.member l hl m hm', fun _ => hm'⟩
    · intro m hm hne
      rw [hsplit] at hm
      simpa [hne] using hm
    · have hcount : (a.seq l).length = (ys ++ zs).length + 1 := by
        rw [hsplit]
        simp [Nat.add_assoc]
      rw [Function.update_self, h.len l hl, hcount, UInt32.ofNat_add]
      grind
  · refine ⟨s, h.delNode_of_notMem hl hn, ?_⟩
    rw [List.erase_of_not_mem hn, Function.update_eq_self]
    exact h

/-- **Looking up the head.** -/
theorem LlistRepr.getNodeHead (h : LlistRepr a s) (hl : l ∈ a.ready)
    (hfit : (a.seq l).length < 2 ^ 32) :
    shimLlistGetNodeHead s (some l) = (a.seq l).head?.map .node := by
  have hnext := (h.ring l hl).next_head
  cases hseq : a.seq l with
  | nil => simp [shimLlistGetNodeHead, h.len l hl, hseq]
  | cons n rest =>
    have hlen : s.len l ≠ 0 := h.len_ne_zero hl hfit (by simp [hseq])
    simp [shimLlistGetNodeHead, hlen, hnext, hseq]

theorem nodesAfter_append {ys zs : List ℕ} (hn : n ∉ ys) : nodesAfter n (ys ++ n :: zs) = zs := by
  have hdrop : (ys ++ n :: zs).dropWhile (· ≠ n) = n :: zs := by
    rw [List.dropWhile_append_of_pos]
    · simp
    · intro m hm
      simpa using ne_of_mem_of_not_mem hm hn
  rw [nodesAfter, hdrop, List.tail_cons]

/-- **The next node**, of a member of the list or of a node in no list. -/
theorem LlistRepr.getNodeNxt (h : LlistRepr a s) (hl : l ∈ a.ready) (hn : n ∈ a.nodes)
    (hor : n ∈ a.seq l ∨ a.Detached n) :
    shimLlistGetNodeNxt s (some l) (some n) = (nodesAfter n (a.seq l)).head?.map .node := by
  by_cases hmem : n ∈ a.seq l
  · obtain ⟨ys, zs, hsplit⟩ := List.append_of_mem hmem
    obtain ⟨hys, hzs⟩ := h.notMem_parts hl hsplit
    have hring : s.links.Ring (.llist l) (ys.map .node ++ .node n :: zs.map .node) := by
      simpa [hsplit] using h.ring l hl
    have hnext := hring.next_member
    rw [hsplit, nodesAfter_append hys]
    cases hz : zs with
    | nil => simp [shimLlistGetNodeNxt, listEmpty, hnext, hz]
    | cons m rest =>
      have hmn : m ≠ n := by rintro rfl; exact hzs (by simp [hz])
      simp [shimLlistGetNodeNxt, listEmpty, hnext, hz, hmn]
  · have hd : a.Detached n := hor.resolve_left hmem
    have hself : s.links.next (.node n) = some (.node n) := by
      simpa using (h.detached n hn hd).next_head
    have hafter : nodesAfter n (a.seq l) = [] := by
      have hdrop : (a.seq l).dropWhile (· ≠ n) = [] := by
        rw [List.dropWhile_eq_nil_iff]
        intro m hm
        simpa using ne_of_mem_of_not_mem hm hmem
      rw [nodesAfter, hdrop, List.tail_nil]
    simp [shimLlistGetNodeNxt, listEmpty, hself, hafter]

theorem LlistRepr.shimLlistLen (h : LlistRepr a s) (hl : l ∈ a.ready) :
    shimLlistLen s (some l) = (a.seq l).length % 2 ^ 32 := by
  rw [Nrf70.shimLlistLen, h.len l hl, UInt32.toNat_ofNat']

/-! ### The refinement -/

/-- **One operation.** -/
theorem LlistRepr.step {op : LlistOp} {a' : Fifo} {u : List LlistRet} (h : LlistRepr a s)
    (hfit : a.Fits op) (hstep : fifoStep a op = some (a', u)) :
    ∃ s', llistStep s op = some (s', u) ∧ LlistRepr a' s' := by
  cases op with
  | nodeAlloc n =>
    simp only [fifoStep, Option.ite_none_right_eq_some, Option.some.injEq, Prod.mk.injEq] at hstep
    obtain ⟨hn, rfl, rfl⟩ := hstep
    exact ⟨_, rfl, h.nodeAlloc hn⟩
  | alloc l =>
    simp only [fifoStep, Option.ite_none_right_eq_some, Option.some.injEq, Prod.mk.injEq] at hstep
    obtain ⟨⟨-, hready⟩, rfl, rfl⟩ := hstep
    exact ⟨_, rfl, h.alloc hready⟩
  | init l =>
    simp only [fifoStep, Option.ite_none_right_eq_some, Option.some.injEq, Prod.mk.injEq] at hstep
    obtain ⟨⟨hraw, hready⟩, rfl, rfl⟩ := hstep
    exact ⟨_, rfl, h.initList hraw hready⟩
  | addNodeTail l n =>
    rcases l with _ | l <;> rcases n with _ | n <;>
      simp only [fifoStep, Option.ite_none_right_eq_some, Option.some.injEq,
        Prod.mk.injEq] at hstep
    case some.some =>
      obtain ⟨⟨hl, hn, hd⟩, rfl, rfl⟩ := hstep
      obtain ⟨s', hs', hrepr⟩ := h.addNodeTail hl hn hd
      exact ⟨s', by simp [llistStep, hs'], hrepr⟩
    -- a NULL argument: nothing happens
    all_goals
      obtain ⟨-, rfl, rfl⟩ := hstep
      exact ⟨s, rfl, h⟩
  | getNodeHead l =>
    simp only [fifoStep, Option.ite_none_right_eq_some, Option.some.injEq, Prod.mk.injEq] at hstep
    obtain ⟨huse, rfl, rfl⟩ := hstep
    refine ⟨s, ?_, h⟩
    cases l with
    | none => rfl
    | some l => simp [llistStep, h.getNodeHead (by simpa [Fifo.usable] using huse) (hfit l rfl)]
  | getNodeNxt l n =>
    rcases l with _ | l <;> rcases n with _ | n <;>
      simp only [fifoStep, Option.ite_none_right_eq_some, Option.some.injEq,
        Prod.mk.injEq] at hstep
    case some.some =>
      obtain ⟨⟨hl, hn, hor⟩, rfl, rfl⟩ := hstep
      exact ⟨s, by simp [llistStep, h.getNodeNxt hl hn hor], h⟩
    all_goals
      obtain ⟨-, rfl, rfl⟩ := hstep
      exact ⟨s, rfl, h⟩
  | delNode l n =>
    rcases l with _ | l <;> rcases n with _ | n <;>
      simp only [fifoStep, Option.ite_none_right_eq_some, Option.some.injEq,
        Prod.mk.injEq] at hstep
    case some.some =>
      obtain ⟨hl, rfl, rfl⟩ := hstep
      obtain ⟨s', hs', hrepr⟩ := h.delNode (n := n) hl (hfit l rfl)
      exact ⟨s', by simp [llistStep, hs'], hrepr⟩
    all_goals
      obtain ⟨-, rfl, rfl⟩ := hstep
      exact ⟨s, rfl, h⟩
  | len l =>
    simp only [fifoStep, Option.ite_none_right_eq_some, Option.some.injEq, Prod.mk.injEq] at hstep
    obtain ⟨huse, rfl, rfl⟩ := hstep
    refine ⟨s, ?_, h⟩
    cases l with
    | none => rfl
    | some l =>
      have hlen := h.shimLlistLen (l := l) (by simpa [Fifo.usable] using huse)
      rw [Nat.mod_eq_of_lt (hfit l rfl)] at hlen
      simp [llistStep, hlen]

/-- Every run of the specification is a run of the shim, with the same results. -/
theorem LlistRepr.exec {a' : Fifo} {ops : List LlistOp} {t : List LlistRet} (h : LlistRepr a s)
    (hfit : fifoMachine.Along Fifo.Fits a ops) (hrun : fifoMachine.exec a ops = some (a', t)) :
    ∃ s', llistMachine.exec s ops = some (s', t) ∧ LlistRepr a' s' :=
  fifoMachine.exec_simulation (C := llistMachine) (fun hR hok hs => hR.step hok hs) h hfit hrun

/-! ### Walks -/

/-- `shim_llist_get_node_nxt` from `p` on until NULL; the nodes that are visited. `none` when
`fuel` runs out or something is visited that is no node. -/
def llistWalkFrom (s : LlistState) (l : ℕ) : ℕ → Option Addr → Option (List ℕ)
  | _, none => some []
  | 0, some _ => none
  | _ + 1, some (.llist _) => none
  | fuel + 1, some (.node n) =>
    (llistWalkFrom s l fuel (shimLlistGetNodeNxt s (some l) (some n))).map (n :: ·)

/-- A walk from the head, with a step for each node there is. -/
def llistWalk (s : LlistState) (l : ℕ) : Option (List ℕ) :=
  llistWalkFrom s l s.nodes.length (shimLlistGetNodeHead s (some l))

/-- From any point of the list on, a walk visits the rest of it. -/
theorem LlistRepr.walkFrom {fuel : ℕ} (h : LlistRepr a s) (hl : l ∈ a.ready) (ys : List ℕ)
    {zs : List ℕ} (hsplit : a.seq l = ys ++ zs) (hfuel : zs.length ≤ fuel) :
    llistWalkFrom s l fuel (zs.head?.map .node) = some zs := by
  induction zs generalizing ys fuel with
  | nil => simp [llistWalkFrom]
  | cons n zs ih =>
    obtain ⟨fuel, rfl⟩ := Nat.exists_eq_succ_of_ne_zero
      (Nat.ne_zero_of_lt (Nat.lt_of_lt_of_le (Nat.succ_pos _) hfuel))
    have hn : n ∈ a.seq l := by simp [hsplit]
    have hys : n ∉ ys := (h.notMem_parts hl hsplit).1
    have hnxt : shimLlistGetNodeNxt s (some l) (some n) = zs.head?.map .node := by
      rw [h.getNodeNxt hl (h.member l hl n hn) (.inl hn), hsplit, nodesAfter_append hys]
    have hrest := ih (ys ++ [n]) (by simp [hsplit]) (by simpa using hfuel)
    simp [llistWalkFrom, hnxt, hrest]

theorem LlistRepr.walk (h : LlistRepr a s) (hl : l ∈ a.ready)
    (hfit : (a.seq l).length < 2 ^ 32) : llistWalk s l = some (a.seq l) := by
  rw [llistWalk, h.getNodeHead hl hfit]
  exact h.walkFrom hl [] rfl (h.seq_length_le hl)

end Repr

/-- **The shim's lists are sequences.** Every sequence of operations that the specification allows
has its results, while no list of `2 ^ 32` nodes is deleted from or asked for its head or length.
At the end the links of each list are one cycle through its head in the order of its sequence, no
node is in two lists, the count is the number of nodes, deleting a node that is no member does
nothing, and a walk visits the sequence. -/
theorem llist_refines_fifo {ops : List LlistOp} {a : Fifo} {t : List LlistRet}
    (hrun : fifoMachine.exec .init ops = some (a, t))
    (hfit : fifoMachine.Along Fifo.Fits .init ops) :
    ∃ s, llistMachine.exec .init ops = some (s, t) ∧
      (∀ l ∈ a.ready, s.links.Ring (.llist l) ((a.seq l).map .node)) ∧
      (∀ l ∈ a.ready, ∀ l' ∈ a.ready, ∀ n ∈ a.seq l, n ∈ a.seq l' → l = l') ∧
      (∀ l ∈ a.ready, ∀ n, n ∉ a.seq l → shimLlistDelNode s (some l) (some n) = some s) ∧
      ∀ l ∈ a.ready, (a.seq l).length < 2 ^ 32 →
        shimLlistLen s (some l) = (a.seq l).length ∧ llistWalk s l = some (a.seq l) := by
  obtain ⟨s, hs, h⟩ := LlistRepr.init.exec hfit hrun
  refine ⟨s, hs, h.ring, h.disjoint, fun l hl n hn => h.delNode_of_notMem hl hn,
    fun l hl hlt => ⟨?_, h.walk hl hlt⟩⟩
  rw [h.shimLlistLen hl, Nat.mod_eq_of_lt hlt]

/-- Two lists and three nodes; one is deleted through the wrong list, then through its own, and
added to the other. -/
def llistTwoLists : List LlistOp :=
  [.alloc 0, .init 0, .alloc 1, .init 1, .nodeAlloc 0, .nodeAlloc 1, .nodeAlloc 2,
    .addNodeTail (some 0) (some 0), .addNodeTail (some 0) (some 1), .addNodeTail (some 0) (some 2),
    .delNode (some 1) (some 1), .delNode (some 0) (some 1), .addNodeTail (some 1) (some 1),
    .getNodeNxt (some 0) (some 0), .getNodeHead (some 1), .len (some 0)]

theorem llist_refines_fifo_two_lists :
    ∃ a t s, fifoMachine.exec .init llistTwoLists = some (a, t) ∧
      llistMachine.exec .init llistTwoLists = some (s, t) ∧ a.seq 0 = [0, 2] ∧ a.seq 1 = [1] ∧
      llistWalk s 0 = some [0, 2] := by
  obtain ⟨a, t, hrun, hready, hseq₀, hseq₁⟩ : ∃ a t,
      fifoMachine.exec .init llistTwoLists = some (a, t) ∧ 0 ∈ a.ready ∧ a.seq 0 = [0, 2] ∧
        a.seq 1 = [1] := ⟨_, _, rfl, by decide, rfl, rfl⟩
  obtain ⟨s, hs, -, -, -, hwalk⟩ := llist_refines_fifo hrun (by decide)
  refine ⟨a, t, s, hrun, hs, hseq₀, hseq₁, ?_⟩
  rw [(hwalk 0 hready (by rw [hseq₀]; decide)).2, hseq₀]

/-! ### A count that wraps -/

/-- List 0 with `k` nodes. -/
def llistFill (k : ℕ) : List LlistOp :=
  [.alloc 0, .init 0] ++
    (List.range k).flatMap fun i => [.nodeAlloc i, .addNodeTail (some 0) (some i)]

theorem llistFill_succ (k : ℕ) :
    llistFill (k + 1) = llistFill k ++ [.nodeAlloc k, .addNodeTail (some 0) (some k)] := by
  simp [llistFill, List.range_succ]

/-- Filling a list asks nothing of its count. -/
theorem along_llistFill (k : ℕ) : fifoMachine.Along Fifo.Fits .init (llistFill k) := by
  refine fifoMachine.along_of_forall fun a op hop => ?_
  have hnone : op.counted = none := by
    simp only [llistFill, List.mem_append, List.mem_cons, List.not_mem_nil, or_false,
      List.mem_flatMap] at hop
    rcases hop with (rfl | rfl) | ⟨i, -, rfl | rfl⟩ <;> rfl
  simp [Fifo.Fits, hnone]

theorem fifo_llistFill (k : ℕ) : ∃ a, fifoMachine.exec .init (llistFill k) = some (a, []) ∧
    a.ready = [0] ∧ a.seq 0 = List.range k ∧ ∀ n ∈ a.nodes, n < k := by
  induction k with
  | zero => exact ⟨_, rfl, rfl, rfl, by decide⟩
  | succ k ih =>
    obtain ⟨a, hexec, hready, hseq, hnodes⟩ := ih
    have hk : k ∉ a.nodes := fun hmem => Nat.lt_irrefl k (hnodes k hmem)
    refine ⟨{ a with nodes := k :: a.nodes, seq := Function.update a.seq 0 (a.seq 0 ++ [k]) },
      ?_, hready, by simp [hseq, List.range_succ], ?_⟩
    · rw [llistFill_succ, Machine.exec_append]
      refine ⟨a, [], [], hexec, ?_, rfl⟩
      simp [Machine.exec, fifoMachine, fifoStep, hk, hready, hseq, Fifo.Detached]
    · intro n hn
      rcases List.mem_cons.mp hn with rfl | hn
      · exact Nat.lt_succ_self n
      · exact Nat.lt_succ_of_lt (hnodes n hn)

/-- **The count wraps.** A list of `2 ^ 32` nodes reports the length 0, and its head is not
found. -/
theorem llist_len_wraps :
    ∃ a s, fifoMachine.exec .init (llistFill (2 ^ 32)) = some (a, []) ∧
      llistMachine.exec .init (llistFill (2 ^ 32)) = some (s, []) ∧
      (a.seq 0).length = 2 ^ 32 ∧ shimLlistLen s (some 0) = 0 ∧
      (a.seq 0).head? = some 0 ∧ shimLlistGetNodeHead s (some 0) = none := by
  obtain ⟨a, hexec, hready, hseq, -⟩ := fifo_llistFill (2 ^ 32)
  obtain ⟨s, hs, h⟩ := LlistRepr.init.exec (along_llistFill _) hexec
  have hzero : 0 ∈ a.ready := by simp [hready]
  have hlen : (a.seq 0).length = 2 ^ 32 := by rw [hseq, List.length_range]
  have hcount : s.len 0 = 0 := by
    rw [h.len 0 hzero, hlen]
    rfl
  refine ⟨a, s, hexec, hs, hlen, ?_, ?_, ?_⟩
  · rw [shimLlistLen, hcount]
    rfl
  · rw [hseq, List.head?_range, if_neg (by decide)]
  · rw [shimLlistGetNodeHead, if_pos hcount]

end Nrf70
