import Mathlib.Data.List.Nodup
import Mathlib.Data.Finset.Card
import Mathlib.Data.Finset.Range

/-!
# Cells, pointers and null-terminated chains

A C data structure built from `malloc`ed records is modelled by an **arena**: the
list of all cells ever allocated, a cell being `none` once it has been freed.  An
address is an index into that list, so a freed address is never handed out again
and following a stale pointer is visible as a `none`.

A pointer field is a function `next : Addr → Option Addr`, `none` being `NULL`.
`Chain next p l` says that following `next` from `p` visits exactly the cells of
`l` and then reaches `NULL`.  Everything a loop over such a structure computes is
a function of `l`: `follow_chain` for the whole walk, `walkWhile_chain` for a walk
that stops at a condition.
-/
namespace Memory

abbrev Addr := Nat

/-- The cells allocated so far, in order of allocation. -/
structure Arena (α : Type) where
  cells : List (Option α)
deriving DecidableEq, Repr

namespace Arena
variable {α : Type}

def empty : Arena α := ⟨[]⟩

/-- The record stored at `a`, if `a` is allocated and not freed. -/
def get (h : Arena α) (a : Addr) : Option α := h.cells[a]?.join

def size (h : Arena α) : Nat := h.cells.length

/-- The address the next allocation returns. -/
def fresh (h : Arena α) : Addr := h.cells.length

def alloc (h : Arena α) (v : α) : Arena α := ⟨h.cells ++ [some v]⟩

def set (h : Arena α) (a : Addr) (v : α) : Arena α := ⟨h.cells.set a (some v)⟩

def free (h : Arena α) (a : Addr) : Arena α := ⟨h.cells.set a none⟩

/-- Assign to fields of the record at `a`. -/
def modify (h : Arena α) (a : Addr) (f : α → α) : Arena α :=
  match h.get a with
  | some v => h.set a (f v)
  | none => h

/-- `if (p) p->field = …;` -/
def modifyAt (h : Arena α) (p : Option Addr) (f : α → α) : Arena α :=
  match p with
  | some a => h.modify a f
  | none => h

theorem lt_size_of_get {h : Arena α} {a : Addr} {v : α} (hv : h.get a = some v) :
    a < h.size := by
  apply Classical.byContradiction
  intro hn
  rw [get, List.getElem?_eq_none (Nat.le_of_not_lt hn)] at hv
  cases hv

@[simp] theorem get_alloc_fresh (h : Arena α) (v : α) : (h.alloc v).get h.fresh = some v := by
  simp [get, alloc, fresh]

theorem get_alloc_of_ne {h : Arena α} {a : Addr} (v : α) (ha : a ≠ h.fresh) :
    (h.alloc v).get a = h.get a := by
  simp only [fresh] at ha
  simp only [get, alloc]
  rcases Nat.lt_or_ge a h.cells.length with hlt | hge
  · rw [List.getElem?_append_left hlt]
  · have hlen : h.cells.length + 1 ≤ a := Nat.lt_of_le_of_ne hge (Ne.symm ha)
    rw [List.getElem?_eq_none hge, List.getElem?_eq_none (by simpa using hlen)]

@[simp] theorem size_alloc (h : Arena α) (v : α) : (h.alloc v).size = h.size + 1 := by
  simp [size, alloc]

@[simp] theorem size_set (h : Arena α) (a : Addr) (v : α) : (h.set a v).size = h.size := by
  simp [size, set]

@[simp] theorem size_free (h : Arena α) (a : Addr) : (h.free a).size = h.size := by
  simp [size, free]

@[simp] theorem size_modify (h : Arena α) (a : Addr) (f : α → α) :
    (h.modify a f).size = h.size := by
  unfold modify
  split <;> simp

theorem get_set_of_ne {h : Arena α} {a b : Addr} (v : α) (hb : b ≠ a) :
    (h.set a v).get b = h.get b := by
  simp [get, set, List.getElem?_set_ne (Ne.symm hb)]

theorem get_set_self {h : Arena α} {a : Addr} {u : α} (v : α) (hu : h.get a = some u) :
    (h.set a v).get a = some v := by
  have := lt_size_of_get hu
  simp only [size] at this
  simp [get, set, this]

theorem get_free_of_ne {h : Arena α} {a b : Addr} (hb : b ≠ a) :
    (h.free a).get b = h.get b := by
  simp [get, free, List.getElem?_set_ne (Ne.symm hb)]

@[simp] theorem get_free_self (h : Arena α) (a : Addr) : (h.free a).get a = none := by
  rcases Nat.lt_or_ge a h.cells.length with hlt | hge
  · simp [get, free, hlt]
  · simp only [get, free]
    rw [List.getElem?_eq_none (by simpa using hge)]
    rfl

theorem get_modify (h : Arena α) (a b : Addr) (f : α → α) :
    (h.modify a f).get b = if b = a then (h.get b).map f else h.get b := by
  unfold modify
  by_cases hb : b = a
  · subst hb
    cases hv : h.get b with
    | none => simp [hv]
    | some v => simp [get_set_self (f v) hv]
  · cases hv : h.get a with
    | none => simp [hb]
    | some v => simp [hb, get_set_of_ne (f v) hb]

theorem get_modify_self {h : Arena α} {a : Addr} {v : α} (f : α → α) (hv : h.get a = some v) :
    (h.modify a f).get a = some (f v) := by
  simp [get_modify, hv]

theorem get_modify_of_ne (h : Arena α) {a b : Addr} (f : α → α) (hb : b ≠ a) :
    (h.modify a f).get b = h.get b := by
  simp [get_modify, hb]

theorem get_modifyAt (h : Arena α) (p : Option Addr) (b : Addr) (f : α → α) :
    (h.modifyAt p f).get b = if p = some b then (h.get b).map f else h.get b := by
  cases p with
  | none => simp [modifyAt]
  | some a => simp only [modifyAt, get_modify, Option.some.injEq, eq_comm]

@[simp] theorem size_modifyAt (h : Arena α) (p : Option Addr) (f : α → α) :
    (h.modifyAt p f).size = h.size := by
  cases p with
  | none => rfl
  | some a => exact size_modify h a f

/-- Assigning a record to itself changes nothing. -/
theorem set_self {h : Arena α} {a : Addr} {v : α} (hv : h.get a = some v) : h.set a v = h := by
  have hlt := lt_size_of_get hv
  simp only [size] at hlt
  have hcell : h.cells[a] = some v := by
    rw [get, List.getElem?_eq_getElem hlt] at hv
    exact hv
  have hset : h.cells.set a (some v) = h.cells := by
    rw [← hcell]
    exact List.set_getElem_self hlt
  simp only [set, hset]

theorem modify_self {h : Arena α} {a : Addr} {v : α} (hv : h.get a = some v) :
    h.modify a (fun _ => v) = h := by
  simp only [modify, hv, set_self hv]

end Arena

/-! ## Chains -/

/-- Following `next` from `p` visits the cells of `l` in order and ends in `NULL`. -/
def Chain (next : Addr → Option Addr) : Option Addr → List Addr → Prop
  | p, [] => p = none
  | p, a :: l => p = some a ∧ Chain next (next a) l

section Chain
variable {next next' : Addr → Option Addr}

@[simp] theorem chain_nil {p : Option Addr} : Chain next p [] ↔ p = none := Iff.rfl

theorem chain_cons {p : Option Addr} {a : Addr} {l : List Addr} :
    Chain next p (a :: l) ↔ p = some a ∧ Chain next (next a) l := Iff.rfl

/-- The pointer a chain is entered at is its first cell. -/
theorem Chain.head {p : Option Addr} {l : List Addr} (h : Chain next p l) : p = l.head? := by
  cases l with
  | nil => exact h
  | cons a l => exact h.1

theorem Chain.unique {p : Option Addr} {l l' : List Addr} (h : Chain next p l)
    (h' : Chain next p l') : l = l' := by
  induction l generalizing p l' with
  | nil =>
    cases l' with
    | nil => rfl
    | cons a l' =>
      rw [chain_nil] at h
      rw [chain_cons, h] at h'
      cases h'.1
  | cons a l ih =>
    cases l' with
    | nil =>
      rw [chain_nil] at h'
      rw [chain_cons, h'] at h
      cases h.1
    | cons b l' =>
      obtain ⟨hp, hl⟩ := h
      obtain ⟨hp', hl'⟩ := h'
      have hab : a = b := Option.some.inj (hp.symm.trans hp')
      subst hab
      rw [ih hl hl']

/-- A chain depends only on the pointer fields of its own cells. -/
theorem Chain.congr {p : Option Addr} {l : List Addr} (h : Chain next p l)
    (hn : ∀ a ∈ l, next' a = next a) : Chain next' p l := by
  induction l generalizing p with
  | nil => exact h
  | cons a l ih =>
    refine ⟨h.1, ?_⟩
    rw [hn a (by simp)]
    exact ih h.2 (fun b hb => hn b (by simp [hb]))

/-- A chain entered in its middle. -/
theorem Chain.suffix {p : Option Addr} {l₁ : List Addr} {a : Addr} {l₂ : List Addr}
    (h : Chain next p (l₁ ++ a :: l₂)) : Chain next (some a) (a :: l₂) := by
  induction l₁ generalizing p with
  | nil => exact ⟨rfl, h.2⟩
  | cons b l₁ ih => exact ih h.2

/-- The pointer field of a cell in the middle of a chain. -/
theorem Chain.next_eq {p : Option Addr} {l₁ : List Addr} {a : Addr} {l₂ : List Addr}
    (h : Chain next p (l₁ ++ a :: l₂)) : next a = l₂.head? :=
  h.suffix.2.head

/-- **Splicing.**  Redirecting the last pointer of a prefix to another chain replaces what
followed the prefix. -/
theorem Chain.splice {p r : Option Addr} {l m m' : List Addr} (h : Chain next p (l ++ m))
    (hnd : l.Nodup) (hm : Chain next' r m')
    (hn : ∀ a ∈ l, next' a = if l.getLast? = some a then r else next a) :
    Chain next' (if l = [] then r else p) (l ++ m') := by
  induction l generalizing p with
  | nil => exact hm
  | cons a l ih =>
    obtain ⟨hal, hnd⟩ := List.nodup_cons.mp hnd
    obtain ⟨rfl, h⟩ := h
    rw [if_neg (List.cons_ne_nil a l)]
    refine ⟨rfl, ?_⟩
    have hlast : ∀ b ∈ l, (a :: l).getLast? = some b ↔ l.getLast? = some b := by
      intro b hb
      obtain ⟨c, l', rfl⟩ := List.exists_cons_of_ne_nil (List.ne_nil_of_mem hb)
      rw [List.getLast?_cons_cons]
    have hrest := ih h hnd (fun b hb => by
      rw [hn b (by simp [hb])]
      simp only [hlast b hb])
    rw [hn a (by simp)]
    cases l with
    | nil => simpa using hrest
    | cons b l =>
      have hne : (a :: b :: l).getLast? ≠ some a := by
        rw [List.getLast?_cons_cons]
        exact fun he => hal (List.mem_of_getLast? he)
      rw [if_neg (List.cons_ne_nil b l)] at hrest
      rw [if_neg hne]
      exact hrest

/-- The cells visited from `p`, at most `n` of them. -/
def follow (next : Addr → Option Addr) : Nat → Option Addr → List Addr
  | 0, _ => []
  | _ + 1, none => []
  | n + 1, some a => a :: follow next n (next a)

theorem follow_chain {p : Option Addr} {l : List Addr} (h : Chain next p l) {n : Nat}
    (hn : l.length ≤ n) : follow next n p = l := by
  induction l generalizing p n with
  | nil => rw [chain_nil.mp h]; cases n <;> rfl
  | cons a l ih =>
    obtain ⟨rfl, hl⟩ := h
    cases n with
    | zero => simp at hn
    | succ n => rw [follow, ih hl (by simpa using hn)]

/-- Step along `next` while the cell ahead satisfies `c`, at most `n` times. -/
def walkWhile (next : Addr → Option Addr) (c : Addr → Bool) : Nat → Addr → Addr
  | 0, x => x
  | n + 1, x =>
    match next x with
    | some y => if c y then walkWhile next c n y else x
    | none => x

/-- **A walk stops at the last cell before the first one that fails the test.** -/
theorem walkWhile_chain {c : Addr → Bool} {x : Addr} {p q : List Addr} {n : Nat}
    (h : Chain next (next x) (p ++ q)) (h₁ : ∀ a ∈ p, c a = true)
    (h₂ : ∀ a ∈ q, c a = false) (hn : p.length ≤ n) :
    walkWhile next c n x = p.getLastD x := by
  induction p generalizing x n with
  | nil =>
    cases n with
    | zero => rfl
    | succ n =>
      have hx : next x = q.head? := h.head
      cases q with
      | nil => simp [walkWhile, hx]
      | cons b q => simp [walkWhile, hx, h₂ b (by simp)]
  | cons a p ih =>
    cases n with
    | zero => simp at hn
    | succ n =>
      have hx : next x = some a := h.1
      simp only [walkWhile, hx, h₁ a (by simp), if_true]
      rw [ih h.2 (fun b hb => h₁ b (by simp [hb])) (by simpa using hn), List.getLastD_cons]

end Chain

/-- A list of distinct addresses below `n` has at most `n` members. -/
theorem length_le_of_nodup_lt {l : List Addr} {n : Nat} (hl : l.Nodup) (h : ∀ a ∈ l, a < n) :
    l.length ≤ n := by
  rw [← List.toFinset_card_of_nodup hl, ← Finset.card_range n]
  exact Finset.card_le_card (fun a ha => Finset.mem_range.mpr (h a (List.mem_toFinset.mp ha)))

end Memory
