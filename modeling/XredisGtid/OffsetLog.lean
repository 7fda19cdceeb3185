import Mathlib.Data.List.DropRight
import Mathlib.Data.Int.Order.Basic
import Mathlib.Data.Nat.Find

/-!
# Logs ordered by offset

A log is a list whose entries have increasing offsets.  The entries from an offset on
are a suffix of it (`filter_from_suffix`), and so is the longest run of entries at its
end that satisfies a condition (`rtakeWhile`).  `bisect` is the binary search for the
place where a condition turns false.
-/
namespace OffsetLog

/-! ## Binary search -/

/-- `while (l < r) { m = (l + r) / 2; if (below m) l = m + 1; else r = m; }`, at most
`fuel` times; reading `below` may fail. -/
def bisect (below : Nat → Option Bool) : Nat → Nat → Nat → Option Nat
  | 0, l, r => if l < r then none else some l
  | fuel + 1, l, r =>
    if l < r then
      match below (l + (r - l) / 2) with
      | some true => bisect below fuel (l + (r - l) / 2 + 1) r
      | some false => bisect below fuel l (l + (r - l) / 2)
      | none => none
    else some l

/-- **The search finds where `below` turns false.** -/
theorem bisect_eq {below : Nat → Option Bool} {fuel l r k : Nat} (hlk : l ≤ k) (hkr : k ≤ r)
    (hyes : ∀ i, l ≤ i → i < k → below i = some true)
    (hno : ∀ i, k ≤ i → i < r → below i = some false) (hfuel : r - l ≤ fuel) :
    bisect below fuel l r = some k := by
  induction fuel generalizing l r with
  | zero =>
    have : l = k := by omega
    rw [bisect, if_neg (by omega), this]
  | succ fuel ih =>
    rw [bisect]
    by_cases hlr : l < r
    · rw [if_pos hlr]
      by_cases hm : l + (r - l) / 2 < k
      · rw [hyes _ (by omega) hm]
        exact ih (by omega) hkr (fun i hi => hyes i (by omega)) hno (by omega)
      · rw [hno _ (by omega) (by omega)]
        exact ih hlk (by omega) hyes (fun i hi hir => hno i hi (by omega)) (by omega)
    · have : l = k := by omega
      rw [if_neg hlr, this]

/-- Increasing numbers are below a bound up to some place and not below it from there on. -/
theorem exists_partition {f : Nat → ℤ} {l r : Nat} (hlr : l ≤ r)
    (hf : ∀ i j, l ≤ i → i < j → j < r → f i < f j) (o : ℤ) :
    ∃ k, l ≤ k ∧ k ≤ r ∧ (∀ i, l ≤ i → i < k → f i < o) ∧ ∀ i, k ≤ i → i < r → o ≤ f i := by
  have hex : ∃ k, l ≤ k ∧ (r ≤ k ∨ o ≤ f k) := ⟨r, hlr, Or.inl (le_refl r)⟩
  obtain ⟨hlk, hk⟩ := Nat.find_spec hex
  have hmin : ∀ i, l ≤ i → i < Nat.find hex → i < r ∧ f i < o := by
    intro i hi hik
    have := Nat.find_min hex hik
    omega
  refine ⟨Nat.find hex, hlk, ?_, fun i hi hik => (hmin i hi hik).2, ?_⟩
  · exact Nat.find_min' hex ⟨hlr, Or.inl (le_refl r)⟩
  · intro i hki hir
    rcases hk with hk | hk
    · omega
    · rcases Nat.eq_or_lt_of_le hki with rfl | hlt
      · exact hk
      · exact le_trans hk (le_of_lt (hf _ i hlk hlt hir))

/-! ## Entries from an offset on -/

section Ordered
variable {α : Type} {offset : α → ℤ} {l p q : List α} {o : ℤ} {e : α}

def Ordered (offset : α → ℤ) (l : List α) : Prop := l.Pairwise (fun a b => offset a < offset b)

/-- The entries from an offset on. -/
def entriesFrom (offset : α → ℤ) (o : ℤ) (l : List α) : List α :=
  l.filter (fun e => decide (o ≤ offset e))

theorem entriesFrom_append (o : ℤ) (p q : List α) :
    entriesFrom offset o (p ++ q) = entriesFrom offset o p ++ entriesFrom offset o q := by
  rw [entriesFrom, List.filter_append]
  rfl

theorem entriesFrom_eq_self (h : ∀ e ∈ l, o ≤ offset e) : entriesFrom offset o l = l := by
  rw [entriesFrom, List.filter_eq_self]
  exact fun e he => decide_eq_true (h e he)

theorem entriesFrom_eq_nil (h : ∀ e ∈ l, offset e < o) : entriesFrom offset o l = [] := by
  rw [entriesFrom, List.filter_eq_nil_iff]
  intro e he
  rw [decide_eq_true_eq, Int.not_le]
  exact h e he

theorem mem_entriesFrom : e ∈ entriesFrom offset o l ↔ e ∈ l ∧ o ≤ offset e := by
  rw [entriesFrom, List.mem_filter, decide_eq_true_eq]

theorem Ordered.suffix (h : Ordered offset (p ++ q)) : Ordered offset q :=
  (List.pairwise_append.mp h).2.1

theorem Ordered.entriesFrom (h : Ordered offset l) (o : ℤ) :
    Ordered offset (entriesFrom offset o l) :=
  List.Pairwise.sublist List.filter_sublist h

/-- **The entries from the offset of an entry on are that entry and the later ones.** -/
theorem entriesFrom_middle (h : Ordered offset (p ++ e :: q)) :
    entriesFrom offset (offset e) (p ++ e :: q) = e :: q := by
  obtain ⟨-, hq, hcross⟩ := List.pairwise_append.mp h
  rw [entriesFrom_append, entriesFrom_eq_nil (fun d hd => hcross d hd e (by simp)),
    List.nil_append]
  refine entriesFrom_eq_self (fun d hd => ?_)
  rcases List.mem_cons.mp hd with rfl | hd
  · exact le_refl _
  · exact le_of_lt (List.rel_of_pairwise_cons hq hd)

/-- The entries from an offset on are a suffix. -/
theorem entriesFrom_suffix (h : Ordered offset l) (o : ℤ) : entriesFrom offset o l <:+ l := by
  induction l with
  | nil => exact List.suffix_refl _
  | cons e l ih =>
    obtain ⟨hhead, htail⟩ := List.pairwise_cons.mp h
    by_cases hle : o ≤ offset e
    · have hall : ∀ d ∈ e :: l, o ≤ offset d := by
        intro d hd
        rcases List.mem_cons.mp hd with rfl | hd
        · exact hle
        · exact le_trans hle (le_of_lt (hhead d hd))
      exact (entriesFrom_eq_self hall).symm ▸ List.suffix_refl (e :: l)
    · have hdrop : entriesFrom offset o (e :: l) = entriesFrom offset o l := by
        rw [entriesFrom, List.filter_cons_of_neg (by simpa using hle)]
        rfl
      rw [hdrop]
      exact (ih htail).trans (List.suffix_cons e l)

end Ordered

/-! ## The longest run at the end -/

section Run
variable {α : Type} {c : α → Bool} {p q : List α}

theorem rtakeWhile_append_of_forall (h : ∀ e ∈ q, c e = true) :
    (p ++ q).rtakeWhile c = p.rtakeWhile c ++ q := by
  rw [List.rtakeWhile, List.reverse_append, List.takeWhile_append_of_pos (by simpa using h),
    List.reverse_append, List.reverse_reverse]
  rfl

theorem rtakeWhile_concat_neg_append {e : α} (he : c e = false) (h : ∀ d ∈ q, c d = true) :
    (p ++ e :: q).rtakeWhile c = q := by
  rw [List.append_cons, rtakeWhile_append_of_forall h,
    List.rtakeWhile_concat_neg _ _ _ (by simp [he]), List.nil_append]

/-- The run and what comes before it. -/
theorem exists_rtakeWhile (c : α → Bool) (l : List α) :
    ∃ p, l = p ++ l.rtakeWhile c ∧ ∀ e, p.getLast? = some e → c e = false := by
  refine ⟨l.rdropWhile c, List.rdropWhile_append_rtakeWhile.symm, ?_⟩
  intro e he
  have hne : l.rdropWhile c ≠ [] := by
    rintro hnil
    rw [hnil] at he
    cases he
  have hlast := List.rdropWhile_last_not c l hne
  rw [List.getLast?_eq_getLast_of_ne_nil hne] at he
  rw [Option.some.inj he] at hlast
  simpa using hlast

end Run

end OffsetLog
