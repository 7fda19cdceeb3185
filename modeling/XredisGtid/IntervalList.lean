import Mathlib

/-!
# Finite sets of integers as lists of separated intervals

A list of closed intervals is **canonical** when every interval is nonempty and
each one ends at least two below the start of every later one, so that no two of
them overlap or touch.  Such a list denotes a finite set of integers (`points`),
its total length counts that set (`size_eq_card`), and a set has only one
canonical list (`Canonical.unique`).

`insert` and `erase` are union and difference with one interval on lists: the
intervals that touch the inserted one are absorbed into it, and an interval that
straddles an end of the erased one is trimmed there, or split when it straddles
both.  A concrete structure over intervals refines finite sets once its operations
are shown to compute these two.
-/
namespace IntervalList

/-- Every interval is nonempty, and there is a gap between any two. -/
structure Canonical (l : List (ℤ × ℤ)) : Prop where
  nonempty : ∀ i ∈ l, i.1 ≤ i.2
  separated : l.Pairwise (fun i j => i.2 + 1 < j.1)

/-- The integers covered by a list of intervals. -/
noncomputable def points (l : List (ℤ × ℤ)) : Finset ℤ :=
  l.foldr (fun i S => Finset.Icc i.1 i.2 ∪ S) ∅

/-- The total length of a list of intervals. -/
def size (l : List (ℤ × ℤ)) : ℤ := (l.map (fun i => i.2 - i.1 + 1)).sum

/-- The upper end of the last interval, `0` for the empty list. -/
def top (l : List (ℤ × ℤ)) : ℤ := (l.map Prod.snd).getLastD 0

@[simp] theorem points_nil : points [] = ∅ := rfl

@[simp] theorem points_cons (i : ℤ × ℤ) (l : List (ℤ × ℤ)) :
    points (i :: l) = Finset.Icc i.1 i.2 ∪ points l := rfl

theorem mem_points {l : List (ℤ × ℤ)} {g : ℤ} :
    g ∈ points l ↔ ∃ i ∈ l, i.1 ≤ g ∧ g ≤ i.2 := by
  induction l with
  | nil => simp
  | cons i l ih => simp [ih]

@[simp] theorem points_append (l l' : List (ℤ × ℤ)) :
    points (l ++ l') = points l ∪ points l' := by
  ext g
  simp only [Finset.mem_union, mem_points, List.mem_append]
  constructor
  · rintro ⟨i, hi | hi, hg⟩
    · exact Or.inl ⟨i, hi, hg⟩
    · exact Or.inr ⟨i, hi, hg⟩
  · rintro (⟨i, hi, hg⟩ | ⟨i, hi, hg⟩)
    · exact ⟨i, Or.inl hi, hg⟩
    · exact ⟨i, Or.inr hi, hg⟩

@[simp] theorem size_nil : size [] = 0 := rfl

@[simp] theorem size_cons (i : ℤ × ℤ) (l : List (ℤ × ℤ)) :
    size (i :: l) = i.2 - i.1 + 1 + size l := by simp [size]

@[simp] theorem size_append (l l' : List (ℤ × ℤ)) : size (l ++ l') = size l + size l' := by
  simp [size]

/-! ## Canonical lists -/

@[simp] theorem canonical_nil : Canonical [] := ⟨by simp, List.Pairwise.nil⟩

theorem canonical_cons {i : ℤ × ℤ} {l : List (ℤ × ℤ)} :
    Canonical (i :: l) ↔ i.1 ≤ i.2 ∧ (∀ j ∈ l, i.2 + 1 < j.1) ∧ Canonical l := by
  constructor
  · rintro ⟨hne, hsep⟩
    rw [List.pairwise_cons] at hsep
    exact ⟨hne i (by simp), hsep.1, fun j hj => hne j (by simp [hj]), hsep.2⟩
  · rintro ⟨hi, hsep, hl⟩
    refine ⟨?_, List.pairwise_cons.mpr ⟨hsep, hl.separated⟩⟩
    intro j hj
    rcases List.mem_cons.mp hj with rfl | hj
    · exact hi
    · exact hl.nonempty j hj

theorem canonical_append {l l' : List (ℤ × ℤ)} :
    Canonical (l ++ l') ↔ Canonical l ∧ Canonical l' ∧ ∀ i ∈ l, ∀ j ∈ l', i.2 + 1 < j.1 := by
  constructor
  · rintro ⟨hne, hsep⟩
    obtain ⟨h₁, h₂, h₃⟩ := List.pairwise_append.mp hsep
    exact ⟨⟨fun i hi => hne i (by simp [hi]), h₁⟩, ⟨fun i hi => hne i (by simp [hi]), h₂⟩, h₃⟩
  · rintro ⟨h₁, h₂, h₃⟩
    refine ⟨?_, List.pairwise_append.mpr ⟨h₁.separated, h₂.separated, h₃⟩⟩
    intro i hi
    rcases List.mem_append.mp hi with hi | hi
    · exact h₁.nonempty i hi
    · exact h₂.nonempty i hi

theorem Canonical.lt_of_mem_tail {i : ℤ × ℤ} {l : List (ℤ × ℤ)} (h : Canonical (i :: l))
    {g : ℤ} (hg : g ∈ points l) : i.2 + 1 < g := by
  obtain ⟨j, hj, hjg, -⟩ := mem_points.mp hg
  have := (canonical_cons.mp h).2.1 j hj
  omega

/-- **The total length of a canonical list counts its points.** -/
theorem size_eq_card {l : List (ℤ × ℤ)} (h : Canonical l) : size l = (points l).card := by
  induction l with
  | nil => simp
  | cons i l ih =>
    obtain ⟨hi, -, hl⟩ := canonical_cons.mp h
    have hdisj : Disjoint (Finset.Icc i.1 i.2) (points l) := by
      rw [Finset.disjoint_left]
      intro g hg hgl
      have := h.lt_of_mem_tail hgl
      rw [Finset.mem_Icc] at hg
      omega
    rw [points_cons, Finset.card_union_of_disjoint hdisj, size_cons, ih hl, Int.card_Icc]
    omega

/-- The last integers of the runs of a set. -/
def ends (S : Finset ℤ) : Finset ℤ := S.filter (fun g => g + 1 ∉ S)

/-- **The number of intervals of a canonical list is the number of runs.** -/
theorem card_ends {l : List (ℤ × ℤ)} (h : Canonical l) : (ends (points l)).card = l.length := by
  induction l with
  | nil => rfl
  | cons i l ih =>
    obtain ⟨hi, -, hl⟩ := canonical_cons.mp h
    have hends : ends (points (i :: l)) = Insert.insert i.2 (ends (points l)) := by
      ext g
      rw [ends, Finset.mem_filter, points_cons, Finset.mem_union, Finset.mem_union,
        Finset.mem_insert, ends, Finset.mem_filter, Finset.mem_Icc, Finset.mem_Icc]
      constructor
      · rintro ⟨hg | hg, hnext⟩
        · exact Or.inl (by omega)
        · exact Or.inr ⟨hg, fun hmem => hnext (Or.inr hmem)⟩
      · rintro (rfl | ⟨hg, hnext⟩)
        · refine ⟨Or.inl ⟨hi, le_refl _⟩, ?_⟩
          rintro (hin | hin)
          · omega
          · exact absurd (h.lt_of_mem_tail hin) (lt_irrefl _)
        · have hlt := h.lt_of_mem_tail hg
          exact ⟨Or.inr hg, fun hin => hin.elim (fun hin => by omega) hnext⟩
    have hnot : i.2 ∉ ends (points l) := by
      intro hin
      have := h.lt_of_mem_tail (Finset.mem_filter.mp hin).1
      omega
    rw [hends, Finset.card_insert_of_notMem hnot, ih hl, List.length_cons]

/-- A canonical list within given bounds is no longer than they allow. -/
theorem size_le {l : List (ℤ × ℤ)} (h : Canonical l) {lo hi : ℤ} (hb : lo ≤ hi + 1)
    (hl : ∀ i ∈ l, lo ≤ i.1 ∧ i.2 ≤ hi) : size l ≤ hi + 1 - lo := by
  have hsub : points l ⊆ Finset.Icc lo hi := by
    intro g hg
    obtain ⟨i, hi, h₁, h₂⟩ := mem_points.mp hg
    have := hl i hi
    rw [Finset.mem_Icc]
    omega
  have := Finset.card_le_card hsub
  rw [Int.card_Icc] at this
  rw [size_eq_card h]
  omega

theorem size_nonneg {l : List (ℤ × ℤ)} (h : Canonical l) : 0 ≤ size l := by
  rw [size_eq_card h]
  omega

theorem points_eq_empty {l : List (ℤ × ℤ)} (h : Canonical l) : points l = ∅ ↔ l = [] := by
  constructor
  · intro he
    cases l with
    | nil => rfl
    | cons i l =>
      have hi := (canonical_cons.mp h).1
      have : i.1 ∈ points (i :: l) := mem_points.mpr ⟨i, by simp, by omega, hi⟩
      rw [he] at this
      simp at this
  · rintro rfl
    rfl

theorem size_eq_zero {l : List (ℤ × ℤ)} (h : Canonical l) : size l = 0 ↔ l = [] := by
  rw [size_eq_card h, ← points_eq_empty h, Int.natCast_eq_zero, Finset.card_eq_zero]

/-- The first interval of a canonical list is the first run of its points. -/
theorem Canonical.head_unique {i j : ℤ × ℤ} {l l' : List (ℤ × ℤ)} (h : Canonical (i :: l))
    (h' : Canonical (j :: l')) (he : points (i :: l) = points (j :: l')) : i = j := by
  have lower : ∀ {i j : ℤ × ℤ} {l l' : List (ℤ × ℤ)}, Canonical (i :: l) → Canonical (j :: l') →
      points (i :: l) = points (j :: l') → i.1 ≤ j.1 := by
    intro i j l l' h h' he
    have hj : j.1 ∈ points (i :: l) := by
      rw [he]
      exact mem_points.mpr ⟨j, by simp, by omega, (canonical_cons.mp h').1⟩
    rw [points_cons, Finset.mem_union, Finset.mem_Icc] at hj
    rcases hj with hj | hj
    · exact hj.1
    · have := h.lt_of_mem_tail hj
      have := (canonical_cons.mp h).1
      omega
  have upper : ∀ {i j : ℤ × ℤ} {l l' : List (ℤ × ℤ)}, Canonical (i :: l) → Canonical (j :: l') →
      points (i :: l) = points (j :: l') → i.1 = j.1 → i.2 ≤ j.2 := by
    intro i j l l' h h' he hij
    apply Classical.byContradiction
    intro hlt
    -- the integer after the shorter run is covered on one side only
    have hin : j.2 + 1 ∈ points (i :: l) :=
      mem_points.mpr ⟨i, by simp, by have := (canonical_cons.mp h').1; omega, by omega⟩
    rw [he, points_cons, Finset.mem_union, Finset.mem_Icc] at hin
    rcases hin with hin | hin
    · omega
    · have := h'.lt_of_mem_tail hin
      omega
  have h₁ : i.1 = j.1 := le_antisymm (lower h h' he) (lower h' h he.symm)
  exact Prod.ext h₁ (le_antisymm (upper h h' he h₁) (upper h' h he.symm h₁.symm))

/-- **A set has one canonical list.** -/
theorem Canonical.unique {l l' : List (ℤ × ℤ)} (h : Canonical l) (h' : Canonical l')
    (he : points l = points l') : l = l' := by
  induction l generalizing l' with
  | nil => exact ((points_eq_empty h').mp he.symm).symm
  | cons i l ih =>
    cases l' with
    | nil => exact (points_eq_empty h).mp he
    | cons j l' =>
      have hij : i = j := h.head_unique h' he
      subst hij
      refine congrArg (i :: ·) (ih (canonical_cons.mp h).2.2 (canonical_cons.mp h').2.2 ?_)
      have tail : ∀ {m : List (ℤ × ℤ)}, Canonical (i :: m) →
          ∀ g, g ∈ points m ↔ g ∈ points (i :: m) ∧ i.2 < g := by
        intro m hm g
        rw [points_cons, Finset.mem_union, Finset.mem_Icc]
        constructor
        · intro hg
          have := hm.lt_of_mem_tail hg
          exact ⟨Or.inr hg, by omega⟩
        · rintro ⟨hg | hg, hlt⟩
          · omega
          · exact hg
      ext g
      rw [tail h, tail h', he]

/-! ## The top of a list -/

@[simp] theorem top_nil : top [] = 0 := rfl

theorem top_concat (l : List (ℤ × ℤ)) (i : ℤ × ℤ) : top (l ++ [i]) = i.2 := by simp [top]

theorem le_top {l : List (ℤ × ℤ)} (h : Canonical l) {g : ℤ} (hg : g ∈ points l) : g ≤ top l := by
  rcases List.eq_nil_or_concat l with rfl | ⟨m, i, rfl⟩
  · simp at hg
  · rw [List.concat_eq_append] at h hg ⊢
    rw [top_concat]
    obtain ⟨-, hi, hsep⟩ := canonical_append.mp h
    have hin := (canonical_cons.mp hi).1
    obtain ⟨j, hj, -, hgj⟩ := mem_points.mp hg
    rcases List.mem_append.mp hj with hj | hj
    · have := hsep j hj i (by simp)
      omega
    · rw [List.mem_singleton] at hj
      subst hj
      exact hgj

theorem top_mem {l : List (ℤ × ℤ)} (h : Canonical l) (hne : l ≠ []) : top l ∈ points l := by
  rcases List.eq_nil_or_concat l with rfl | ⟨m, i, rfl⟩
  · exact absurd rfl hne
  · rw [List.concat_eq_append] at h ⊢
    rw [top_concat, mem_points]
    exact ⟨i, by simp, h.nonempty i (by simp), le_refl _⟩

/-- The largest element of a set of positive integers, `0` for the empty set. -/
def maxD (S : Finset ℤ) : ℤ := S.max.unbotD 0

theorem top_eq_maxD {l : List (ℤ × ℤ)} (h : Canonical l) : top l = maxD (points l) := by
  by_cases hne : l = []
  · subst hne; rfl
  · have : (points l).max = (top l : WithBot ℤ) :=
      le_antisymm (Finset.max_le fun g hg => WithBot.coe_le_coe.mpr (le_top h hg))
        (Finset.le_max (top_mem h hne))
    rw [maxD, this]
    rfl

/-! ## Union with an interval -/

/-- Insert `[s, e]`, absorbing the intervals it overlaps or touches. -/
def insert (s e : ℤ) : List (ℤ × ℤ) → List (ℤ × ℤ)
  | [] => [(s, e)]
  | i :: l =>
    if i.2 + 1 < s then i :: insert s e l
    else if e + 1 < i.1 then (s, e) :: i :: l
    else insert (min s i.1) (max e i.2) l

theorem insert_append_of_before {s e : ℤ} {a l : List (ℤ × ℤ)} (ha : ∀ i ∈ a, i.2 + 1 < s) :
    insert s e (a ++ l) = a ++ insert s e l := by
  induction a with
  | nil => rfl
  | cons i a ih =>
    rw [List.cons_append, insert, if_pos (ha i (by simp)), ih (fun j hj => ha j (by simp [hj])),
      List.cons_append]

theorem insert_of_after {s e : ℤ} {b : List (ℤ × ℤ)} (hse : s ≤ e)
    (hne : ∀ i ∈ b, i.1 ≤ i.2) (hb : ∀ i ∈ b, e + 1 < i.1) : insert s e b = (s, e) :: b := by
  cases b with
  | nil => rfl
  | cons i b =>
    have h₁ := hb i (by simp)
    have h₂ := hne i (by simp)
    rw [insert, if_neg (by omega), if_pos h₁]

/-- A run of touching intervals is absorbed into one. -/
theorem insert_append_of_touching {s e : ℤ} {m : List (ℤ × ℤ)} {r : ℤ × ℤ} {b : List (ℤ × ℤ)}
    (hse : s ≤ e) (hc : Canonical (m ++ r :: b)) (hm : ∀ i ∈ m ++ [r], s ≤ i.2 + 1 ∧ i.1 ≤ e + 1)
    (hb : ∀ i ∈ b, e + 1 < i.1) :
    insert s e (m ++ r :: b) =
      (min s ((m ++ [r]).head (by simp)).1, max e r.2) :: b := by
  induction m generalizing s e with
  | nil =>
    have hr := hm r (by simp)
    obtain ⟨hrne, hrb, hcb⟩ := canonical_cons.mp hc
    simp only [List.nil_append, List.head_cons]
    rw [insert, if_neg (by omega), if_neg (by omega)]
    refine insert_of_after (by omega) hcb.nonempty ?_
    intro i hi
    have h₁ := hrb i hi
    have h₂ := hb i hi
    omega
  | cons i m ih =>
    have hi := hm i (by simp)
    obtain ⟨hine, him, hcm⟩ := canonical_cons.mp (show Canonical (i :: (m ++ r :: b)) from hc)
    have hir : i.2 + 1 < r.1 := him r (by simp)
    have hrne := hcm.nonempty r (by simp)
    rw [List.cons_append, insert, if_neg (by omega), if_neg (by omega)]
    rw [ih (by omega) hcm ?_ ?_]
    · have hhead : i.1 ≤ ((m ++ [r]).head (by simp)).1 := by
        have hmem : (m ++ [r]).head (by simp) ∈ m ++ r :: b := by
          have := List.mem_append_left b (List.head_mem (l := m ++ [r]) (by simp))
          simpa using this
        have := him _ hmem
        omega
      simp only [List.cons_append, List.head_cons]
      rw [min_assoc, min_eq_left hhead, max_assoc, max_eq_right (show i.2 ≤ r.2 by omega)]
    · intro j hj
      have h₁ := hm j (by simp only [List.cons_append, List.mem_cons]; exact Or.inr hj)
      have h₂ := him j (by simp only [List.mem_append, List.mem_cons] at hj ⊢; tauto)
      have h₃ := hcm.nonempty j (by simp only [List.mem_append, List.mem_cons] at hj ⊢; tauto)
      omega
    · intro j hj
      have h₁ := hb j hj
      have h₂ := him j (by simp [hj])
      omega

theorem points_insert {s e : ℤ} {l : List (ℤ × ℤ)} (hse : s ≤ e) (hl : ∀ i ∈ l, i.1 ≤ i.2) :
    points (insert s e l) = points l ∪ Finset.Icc s e := by
  induction l generalizing s e with
  | nil => simp [insert]
  | cons i l ih =>
    have hi := hl i (by simp)
    have hl' : ∀ j ∈ l, j.1 ≤ j.2 := fun j hj => hl j (by simp [hj])
    rw [insert]
    split
    · rw [points_cons, ih hse hl', points_cons, Finset.union_assoc]
    · split
      · rw [points_cons, points_cons, Finset.union_comm]
      · rw [ih (by omega) hl', points_cons]
        ext g
        simp only [Finset.mem_union, Finset.mem_Icc]
        constructor
        · rintro (hg | hg)
          · exact Or.inl (Or.inr hg)
          · by_cases hgi : i.1 ≤ g ∧ g ≤ i.2
            · exact Or.inl (Or.inl hgi)
            · exact Or.inr (by omega)
        · rintro ((hg | hg) | hg)
          · exact Or.inr (by omega)
          · exact Or.inl hg
          · exact Or.inr (by omega)

/-- Nothing below `x` is covered after an insertion above `x`. -/
theorem insert_lower {s e x : ℤ} {l : List (ℤ × ℤ)} (hs : x < s) (hl : ∀ i ∈ l, x < i.1) :
    ∀ i ∈ insert s e l, x < i.1 := by
  induction l generalizing s e with
  | nil => simpa [insert] using hs
  | cons j l ih =>
    have hj := hl j (by simp)
    have hl' : ∀ i ∈ l, x < i.1 := fun i hi => hl i (by simp [hi])
    rw [insert]
    split
    · intro i hi
      rcases List.mem_cons.mp hi with rfl | hi
      · exact hj
      · exact ih hs hl' i hi
    · split
      · intro i hi
        rcases List.mem_cons.mp hi with rfl | hi
        · exact hs
        · exact hl i hi
      · exact ih (by omega) hl'

theorem Canonical.insert {s e : ℤ} {l : List (ℤ × ℤ)} (hse : s ≤ e) (h : Canonical l) :
    Canonical (insert s e l) := by
  induction l generalizing s e with
  | nil => exact canonical_cons.mpr ⟨hse, by simp, canonical_nil⟩
  | cons i l ih =>
    obtain ⟨hi, hil, hl⟩ := canonical_cons.mp h
    rw [IntervalList.insert]
    split
    · rename_i hlt
      exact canonical_cons.mpr ⟨hi, insert_lower hlt hil, ih hse hl⟩
    · split
      · rename_i hlt
        refine canonical_cons.mpr ⟨hse, ?_, h⟩
        intro j hj
        rcases List.mem_cons.mp hj with rfl | hj
        · exact hlt
        · have := hil j hj
          simp only
          omega
      · exact ih (by omega) hl

/-! ## Difference with an interval -/

/-- What is left of an interval outside `[s, e]`. -/
def pieces (s e : ℤ) (i : ℤ × ℤ) : List (ℤ × ℤ) :=
  (if i.1 < s then [(i.1, min i.2 (s - 1))] else []) ++
    (if e < i.2 then [(max i.1 (e + 1), i.2)] else [])

/-- Erase `[s, e]`: trim, split or drop the intervals that meet it. -/
def erase (s e : ℤ) (l : List (ℤ × ℤ)) : List (ℤ × ℤ) := l.flatMap (pieces s e)

@[simp] theorem erase_nil (s e : ℤ) : erase s e [] = [] := rfl

@[simp] theorem erase_cons (s e : ℤ) (i : ℤ × ℤ) (l : List (ℤ × ℤ)) :
    erase s e (i :: l) = pieces s e i ++ erase s e l := by simp [erase]

@[simp] theorem erase_append (s e : ℤ) (l l' : List (ℤ × ℤ)) :
    erase s e (l ++ l') = erase s e l ++ erase s e l' := by simp [erase]

theorem erase_of_before {s e : ℤ} {l : List (ℤ × ℤ)} (hse : s ≤ e)
    (hne : ∀ i ∈ l, i.1 ≤ i.2) (h : ∀ i ∈ l, i.2 < s) : erase s e l = l := by
  induction l with
  | nil => rfl
  | cons i l ih =>
    have h₁ := hne i (by simp)
    have h₂ := h i (by simp)
    rw [erase_cons, ih (fun j hj => hne j (by simp [hj])) (fun j hj => h j (by simp [hj])),
      pieces, if_pos (by omega), if_neg (by omega), min_eq_left (by omega)]
    rfl

theorem erase_of_after {s e : ℤ} {l : List (ℤ × ℤ)} (hse : s ≤ e)
    (hne : ∀ i ∈ l, i.1 ≤ i.2) (h : ∀ i ∈ l, e < i.1) : erase s e l = l := by
  induction l with
  | nil => rfl
  | cons i l ih =>
    have h₁ := hne i (by simp)
    have h₂ := h i (by simp)
    rw [erase_cons, ih (fun j hj => hne j (by simp [hj])) (fun j hj => h j (by simp [hj])),
      pieces, if_neg (by omega), if_pos (by omega), max_eq_left (by omega)]
    rfl

theorem erase_of_within {s e : ℤ} {l : List (ℤ × ℤ)} (h : ∀ i ∈ l, s ≤ i.1 ∧ i.2 ≤ e) :
    erase s e l = [] := by
  induction l with
  | nil => rfl
  | cons i l ih =>
    have hi := h i (by simp)
    rw [erase_cons, ih (fun j hj => h j (by simp [hj])), pieces, if_neg (by omega),
      if_neg (by omega)]
    rfl

theorem mem_points_pieces {s e : ℤ} (hse : s ≤ e) {i : ℤ × ℤ} {g : ℤ} :
    g ∈ points (pieces s e i) ↔ (i.1 ≤ g ∧ g ≤ i.2) ∧ ¬ (s ≤ g ∧ g ≤ e) := by
  unfold pieces
  split <;> split <;>
    simp only [points_append, points_cons, points_nil, Finset.mem_union, Finset.mem_Icc,
      Finset.notMem_empty, or_false, false_iff, List.append_nil, List.nil_append] <;> omega

theorem points_erase {s e : ℤ} {l : List (ℤ × ℤ)} (hse : s ≤ e) :
    points (erase s e l) = points l \ Finset.Icc s e := by
  induction l with
  | nil => simp
  | cons i l ih =>
    rw [erase_cons, points_append, ih, points_cons, Finset.union_sdiff_distrib]
    refine congrArg (· ∪ _) ?_
    ext g
    rw [mem_points_pieces hse, Finset.mem_sdiff, Finset.mem_Icc, Finset.mem_Icc]

/-- The pieces of an interval lie inside it. -/
theorem mem_pieces {s e : ℤ} {i j : ℤ × ℤ} (hi : i.1 ≤ i.2)
    (hj : j ∈ pieces s e i) : i.1 ≤ j.1 ∧ j.1 ≤ j.2 ∧ j.2 ≤ i.2 := by
  unfold pieces at hj
  split at hj <;> split at hj <;> simp at hj
  · rcases hj with rfl | rfl <;> simp only <;> omega
  · subst hj; simp only; omega
  · subst hj; simp only; omega

theorem canonical_pieces {s e : ℤ} {i : ℤ × ℤ} (hi : i.1 ≤ i.2) (hse : s ≤ e) :
    Canonical (pieces s e i) := by
  refine ⟨fun j hj => (mem_pieces hi hj).2.1, ?_⟩
  unfold pieces
  split <;> split <;> simp
  omega

theorem Canonical.erase {s e : ℤ} {l : List (ℤ × ℤ)} (hse : s ≤ e) (h : Canonical l) :
    Canonical (erase s e l) := by
  induction l with
  | nil => exact canonical_nil
  | cons i l ih =>
    obtain ⟨hi, hil, hl⟩ := canonical_cons.mp h
    rw [erase_cons]
    refine canonical_append.mpr ⟨canonical_pieces hi hse, ih hl, ?_⟩
    intro j hj k hk
    obtain ⟨m, hm, hkm⟩ := List.mem_flatMap.mp hk
    have h₁ := mem_pieces hi hj
    have h₂ := mem_pieces (hl.nonempty m hm) hkm
    have h₃ := hil m hm
    omega

/-! ## Union and difference of two lists -/

/-- Insert every interval of `m` in turn. -/
def union (l m : List (ℤ × ℤ)) : List (ℤ × ℤ) := m.foldl (fun l i => insert i.1 i.2 l) l

/-- Erase every interval of `m` in turn. -/
def diff (l m : List (ℤ × ℤ)) : List (ℤ × ℤ) := m.foldl (fun l i => erase i.1 i.2 l) l

@[simp] theorem union_nil (l : List (ℤ × ℤ)) : union l [] = l := rfl

@[simp] theorem union_cons (l : List (ℤ × ℤ)) (i : ℤ × ℤ) (m : List (ℤ × ℤ)) :
    union l (i :: m) = union (insert i.1 i.2 l) m := rfl

@[simp] theorem diff_nil (l : List (ℤ × ℤ)) : diff l [] = l := rfl

@[simp] theorem diff_cons (l : List (ℤ × ℤ)) (i : ℤ × ℤ) (m : List (ℤ × ℤ)) :
    diff l (i :: m) = diff (erase i.1 i.2 l) m := rfl

theorem points_union {l m : List (ℤ × ℤ)} (h : Canonical l) (hm : ∀ i ∈ m, i.1 ≤ i.2) :
    points (union l m) = points l ∪ points m := by
  induction m generalizing l with
  | nil => simp
  | cons i m ih =>
    have hi := hm i (by simp)
    rw [union_cons, ih (h.insert hi) (fun j hj => hm j (by simp [hj])),
      points_insert hi h.nonempty, points_cons, Finset.union_assoc]

theorem points_diff {l m : List (ℤ × ℤ)} (hm : ∀ i ∈ m, i.1 ≤ i.2) :
    points (diff l m) = points l \ points m := by
  induction m generalizing l with
  | nil => simp
  | cons i m ih =>
    rw [diff_cons, ih (fun j hj => hm j (by simp [hj])), points_erase (hm i (by simp)),
      points_cons, sdiff_sdiff_left]
    rfl

theorem Canonical.union {l m : List (ℤ × ℤ)} (h : Canonical l) (hm : ∀ i ∈ m, i.1 ≤ i.2) :
    Canonical (union l m) := by
  induction m generalizing l with
  | nil => exact h
  | cons i m ih => exact ih (h.insert (hm i (by simp))) (fun j hj => hm j (by simp [hj]))

theorem Canonical.diff {l m : List (ℤ × ℤ)} (h : Canonical l) (hm : ∀ i ∈ m, i.1 ≤ i.2) :
    Canonical (diff l m) := by
  induction m generalizing l with
  | nil => exact h
  | cons i m ih => exact ih (h.erase (hm i (by simp))) (fun j hj => hm j (by simp [hj]))

/-- Building a canonical list up from nothing gives it back. -/
theorem nil_union {l : List (ℤ × ℤ)} (h : Canonical l) : union [] l = l := by
  refine (canonical_nil.union h.nonempty).unique h ?_
  rw [points_union canonical_nil h.nonempty, points_nil, Finset.empty_union]

/-! ## Insertion at a bound -/

/-- Below a bound insertion stays below it. -/
theorem insert_lt {s e m : ℤ} {l : List (ℤ × ℤ)} (he : e < m) (hl : ∀ i ∈ l, i.2 < m) :
    ∀ i ∈ insert s e l, i.2 < m := by
  induction l generalizing s e with
  | nil => simpa [insert] using he
  | cons j l ih =>
    have hj := hl j (by simp)
    have hl' : ∀ i ∈ l, i.2 < m := fun i hi => hl i (by simp [hi])
    rw [insert]
    split
    · intro i hi
      rcases List.mem_cons.mp hi with rfl | hi
      · exact hj
      · exact ih he hl' i hi
    · split
      · intro i hi
        rcases List.mem_cons.mp hi with rfl | hi
        · exact he
        · exact hl i hi
      · exact ih (max_lt he hj) hl'

theorem top_lt {m : ℤ} {l : List (ℤ × ℤ)} (hm : 0 < m) (hl : ∀ i ∈ l, i.2 < m) : top l < m := by
  rcases List.eq_nil_or_concat l with rfl | ⟨l, i, rfl⟩
  · exact hm
  · rw [List.concat_eq_append, top_concat] at *
    exact hl i (by simp)

theorem Canonical.lt_of_top_lt {m : ℤ} {l : List (ℤ × ℤ)} (h : Canonical l) (ht : top l < m) :
    ∀ i ∈ l, i.2 < m := by
  intro i hi
  have hmem := mem_points.mpr ⟨i, hi, h.nonempty i hi, le_refl i.2⟩
  exact lt_of_le_of_lt (le_top h hmem) ht

/-- What an insertion into `l` needs that compares `e + 1` with what follows where the numbers end
at `m`: on a list that is not empty nothing ends at `m`, unless the interval continues the list. -/
def FitsNext (m : ℤ) (l : List (ℤ × ℤ)) (i : ℤ × ℤ) : Prop :=
  l = [] ∨ (top l < m ∧ (i.2 < m ∨ top l + 1 = i.1))

instance (m : ℤ) (l : List (ℤ × ℤ)) (i : ℤ × ℤ) : Decidable (FitsNext m l i) :=
  inferInstanceAs (Decidable (_ ∨ _))

/-- The intervals can be inserted one after another. -/
def FitsOnto (m : ℤ) : List (ℤ × ℤ) → List (ℤ × ℤ) → Prop
  | _, [] => True
  | l, i :: u => FitsNext m l i ∧ FitsOnto m (insert i.1 i.2 l) u

instance decidableFitsOnto (m : ℤ) : ∀ l u, Decidable (FitsOnto m l u)
  | _, [] => isTrue trivial
  | l, i :: u =>
    have := decidableFitsOnto m (insert i.1 i.2 l) u
    inferInstanceAs (Decidable (FitsNext m l i ∧ FitsOnto m (insert i.1 i.2 l) u))

section Fits
variable {m : ℤ} {l u v : List (ℤ × ℤ)} {i : ℤ × ℤ}

@[simp] theorem fitsOnto_nil : FitsOnto m l [] := trivial

@[simp] theorem fitsOnto_cons :
    FitsOnto m l (i :: u) ↔ FitsNext m l i ∧ FitsOnto m (insert i.1 i.2 l) u := Iff.rfl

theorem fitsOnto_append : FitsOnto m l (u ++ v) ↔ FitsOnto m l u ∧ FitsOnto m (union l u) v := by
  induction u generalizing l with
  | nil => simp
  | cons i u ih => rw [List.cons_append, fitsOnto_cons, ih, fitsOnto_cons, union_cons, and_assoc]

theorem FitsNext.of_lt (hl : top l < m) (hi : i.2 < m) : FitsNext m l i := Or.inr ⟨hl, Or.inl hi⟩

/-- Below the bound everything fits. -/
theorem fitsOnto_of_lt (hm : 0 < m) (hl : ∀ i ∈ l, i.2 < m) (hu : ∀ i ∈ u, i.2 < m) :
    FitsOnto m l u := by
  induction u generalizing l with
  | nil => trivial
  | cons i u ih =>
    have hi := hu i (by simp)
    exact ⟨.of_lt (top_lt hm hl) hi, ih (insert_lt hi hl) (fun j hj => hu j (by simp [hj]))⟩

/-- A canonical list can be built up from nothing if it has no more than one interval or ends below
the bound. -/
theorem Canonical.fitsOnto_iff (h : Canonical l) (hm : 0 < m) :
    FitsOnto m [] l ↔ l.length ≤ 1 ∨ top l < m := by
  rcases List.eq_nil_or_concat l with rfl | ⟨p, i, rfl⟩
  · simp
  rw [List.concat_eq_append] at h ⊢
  obtain ⟨hp, hi, hsep⟩ := canonical_append.mp h
  rw [fitsOnto_append, nil_union hp, fitsOnto_cons, and_iff_left (fitsOnto_nil), top_concat]
  by_cases hnil : p = []
  · subst hnil
    exact iff_of_true ⟨trivial, Or.inl rfl⟩ (Or.inl (le_refl 1))
  -- the last interval does not touch those before it
  have hlong : ¬ (p ++ [i]).length ≤ 1 := by
    have := List.length_pos_iff.mpr hnil
    rw [List.length_append, List.length_singleton]
    omega
  obtain ⟨j, hj, -, hjtop⟩ := mem_points.mp (top_mem hp hnil)
  have hgap := hsep j hj i (by simp)
  rw [or_iff_right hlong]
  constructor
  · rintro ⟨-, hnext | ⟨-, hlt | heq⟩⟩
    · exact absurd hnext hnil
    · exact hlt
    · omega
  · intro hlt
    have hi₁ := hi.nonempty i (by simp)
    have htop : top p < m := by omega
    refine ⟨fitsOnto_of_lt hm (by simp) (fun k hk => ?_), .of_lt htop hlt⟩
    have hk' := mem_points.mpr ⟨k, hk, hp.nonempty k hk, le_refl k.2⟩
    exact (le_top hp hk').trans_lt htop

end Fits

/-- A canonical list grows by the points an operation adds. -/
theorem size_sub_eq_card {l l' : List (ℤ × ℤ)} (h : Canonical l) (h' : Canonical l')
    (hsub : points l ⊆ points l') : size l' - size l = (points l' \ points l).card := by
  have := Finset.card_sdiff_add_card_eq_card hsub
  rw [size_eq_card h, size_eq_card h']
  omega

end IntervalList
