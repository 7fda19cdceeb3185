import XredisGtid.SkipListRemove
import XredisGtid.SkipListDup

/-!
# The operations on well-formed skip lists

One specification for each operation, in terms of `intervals` alone: adding inserts,
removing erases, merging and diffing do so for every interval of the other list,
and a copy has the same intervals.  Callers use these and never look at nodes again.
-/
namespace XredisGtid
open Memory

section Ops
variable {gsl dst src : GtidIntervalSkipList} {s e g : Int}

theorem WF.gnos (h : WF gsl) : Gnos (intervals gsl) := by
  obtain ⟨cells, hr⟩ := h
  rw [hr.toShape.intervals_eq]
  exact hr.gnos

theorem WF.canonical (h : WF gsl) : IntervalList.Canonical (intervals gsl) := h.gnos.canonical

theorem WF.gnoCount (h : WF gsl) : gsl.gnoCount = IntervalList.size (intervals gsl) := by
  obtain ⟨cells, hr⟩ := h
  rw [hr.toShape.intervals_eq]
  exact hr.gnoCount

/-- What a call that grows a list returns. -/
theorem Grown.spec {old new : List (Int × Int)} {r : GtidIntervalSkipList × Int}
    {call : Option (GtidIntervalSkipList × Int)} (h : Grown old new r) (hcall : call = some r) :
    ∃ gsl', call = some (gsl', IntervalList.size (intervals gsl') - IntervalList.size old) ∧
      WF gsl' ∧ intervals gsl' = new := by
  obtain ⟨gsl', added⟩ := r
  obtain ⟨cells, hr, hcells, hadded⟩ := h
  have hnew : intervals gsl' = new := hr.toShape.intervals_eq.trans hcells
  refine ⟨gsl', ?_, ⟨cells, hr⟩, hnew⟩
  rw [hcall, hnew]
  exact congrArg (fun n => some (gsl', n)) hadded

theorem gtidIntervalSkipListAdd_spec (h : WF gsl) (hb : Below (intervals gsl)) (hs : 1 ≤ s)
    (hse : s ≤ e) (he : e < LLONG_MAX) (rand : Rand) :
    ∃ gsl', gtidIntervalSkipListAdd gsl s e rand =
        some (gsl', IntervalList.size (intervals gsl') - IntervalList.size (intervals gsl)) ∧
      WF gsl' ∧ intervals gsl' = IntervalList.insert s e (intervals gsl) := by
  obtain ⟨cells, hr⟩ := h
  rw [hr.toShape.intervals_eq] at hb ⊢
  obtain ⟨r, hadd, hgrown⟩ := gtidIntervalSkipListAdd_rep hr hb hs hse he rand
  exact hgrown.spec hadd

/-- On an empty list a range may reach `LLONG_MAX`. -/
theorem gtidIntervalSkipListAdd_nil_spec (h : WF gsl) (hnil : intervals gsl = []) (hs : 1 ≤ s)
    (hse : s ≤ e) (he : e ≤ LLONG_MAX) (rand : Rand) :
    ∃ gsl', gtidIntervalSkipListAdd gsl s e rand =
        some (gsl', IntervalList.size (intervals gsl') - IntervalList.size (intervals gsl)) ∧
      WF gsl' ∧ intervals gsl' = IntervalList.insert s e (intervals gsl) := by
  obtain ⟨cells, hr⟩ := h
  have hcells := hr.toShape.intervals_eq
  rw [hnil] at hcells ⊢
  obtain rfl : cells = [] := List.map_eq_nil_iff.mp hcells.symm
  obtain ⟨r, hadd, hgrown⟩ := gtidIntervalSkipListAdd_nil_rep hr hs hse he rand
  exact hgrown.spec hadd

/-- Right after the greatest gno it may as well. -/
theorem gtidIntervalSkipListAdd_after_spec (h : WF gsl) (hne : intervals gsl ≠ [])
    (htop : IntervalList.top (intervals gsl) + 1 = s) (hse : s ≤ e) (he : e ≤ LLONG_MAX)
    (rand : Rand) :
    ∃ gsl', gtidIntervalSkipListAdd gsl s e rand =
        some (gsl', IntervalList.size (intervals gsl') - IntervalList.size (intervals gsl)) ∧
      WF gsl' ∧ intervals gsl' = IntervalList.insert s e (intervals gsl) := by
  obtain ⟨cells, hr⟩ := h
  have hcells := hr.toShape.intervals_eq
  rw [hcells] at htop hne
  obtain ⟨r, hadd, hgrown⟩ :=
    gtidIntervalSkipListAdd_after_rep hr (by rintro rfl; exact hne rfl) htop hse he rand
  rw [← hcells] at hgrown
  exact hgrown.spec hadd

theorem WF.top_le (h : WF gsl) : IntervalList.top (intervals gsl) ≤ LLONG_MAX := by
  rcases List.eq_nil_or_concat (intervals gsl) with hnil | ⟨l, i, hl⟩
  · rw [hnil]
    decide
  · rw [List.concat_eq_append] at hl
    have hi := h.gnos.bounds i (by rw [hl]; simp)
    rw [hl, IntervalList.top_concat]
    exact hi.2

theorem WF.below_of_top (h : WF gsl) (ht : IntervalList.top (intervals gsl) < LLONG_MAX) :
    Below (intervals gsl) := h.canonical.lt_of_top_lt ht

/-- **Add** inserts a range that stays clear of the limit. -/
theorem gtidIntervalSkipListAdd_fits_spec (h : WF gsl)
    (hfits : IntervalList.FitsNext LLONG_MAX (intervals gsl) (s, e)) (hs : 1 ≤ s) (hse : s ≤ e)
    (he : e ≤ LLONG_MAX) (rand : Rand) :
    ∃ gsl', gtidIntervalSkipListAdd gsl s e rand =
        some (gsl', IntervalList.size (intervals gsl') - IntervalList.size (intervals gsl)) ∧
      WF gsl' ∧ intervals gsl' = IntervalList.insert s e (intervals gsl) := by
  by_cases hnil : intervals gsl = []
  · exact gtidIntervalSkipListAdd_nil_spec h hnil hs hse he rand
  rcases hfits with hempty | ⟨htop, hlt | hafter⟩
  · exact absurd hempty hnil
  · exact gtidIntervalSkipListAdd_spec h (h.below_of_top htop) hs hse hlt rand
  · exact gtidIntervalSkipListAdd_after_spec h hnil hafter hse he rand

/-- Elsewhere behind the gnos a range up to `LLONG_MAX` is not added. -/
theorem gtidIntervalSkipListAdd_max_spec (h : WF gsl) (hne : intervals gsl ≠ [])
    (htop : IntervalList.top (intervals gsl) + 1 < s) (hs : s ≤ LLONG_MAX) (rand : Rand) :
    gtidIntervalSkipListAdd gsl s LLONG_MAX rand = none := by
  obtain ⟨cells, hr⟩ := h
  have hcells := hr.toShape.intervals_eq
  rw [hcells] at htop hne
  exact gtidIntervalSkipListAdd_max_rep hr (by rintro rfl; exact hne rfl) htop hs rand

theorem gtidIntervalSkipListRemove_spec (h : WF gsl) (hs : 1 ≤ s) (hse : s ≤ e) (rand : Rand) :
    ∃ gsl', gtidIntervalSkipListRemove gsl s e rand =
        some (gsl', IntervalList.size (intervals gsl) - IntervalList.size (intervals gsl')) ∧
      WF gsl' ∧ intervals gsl' = IntervalList.erase s e (intervals gsl) := by
  obtain ⟨cells, hr⟩ := h
  rw [hr.toShape.intervals_eq]
  obtain ⟨⟨gsl', removed⟩, hremove, cells', hr', hcells', hremoved⟩ :=
    gtidIntervalSkipListRemove_rep hr hs hse rand
  have hnew := hr'.toShape.intervals_eq
  refine ⟨gsl', ?_, ⟨cells', hr'⟩, hnew.trans hcells'⟩
  rw [hremove, hnew, hcells']
  exact congrArg (fun n => some (gsl', n)) hremoved

/-! ## Merge and Diff -/

/-- Sizes of sets of gnos differ by less than `2 ^ 63`. -/
theorem llong_size_sub {l l' : List (Int × Int)} (h : Gnos l) (h' : Gnos l') :
    llong (IntervalList.size l - IntervalList.size l') =
      IntervalList.size l - IntervalList.size l' := by
  have h₁ := h.size_bounds
  have h₂ := h'.size_bounds
  unfold LLONG_MAX at h₁ h₂
  exact llong_of_mem (by unfold LLONG_MIN; omega) (by unfold LLONG_MAX; omega)

theorem addIntervals_spec {l : List (Int × Int)} (h : WF gsl)
    (hl : ∀ i ∈ l, 1 ≤ i.1 ∧ i.1 ≤ i.2 ∧ i.2 ≤ LLONG_MAX)
    (hfits : IntervalList.FitsOnto LLONG_MAX (intervals gsl) l) (rand : Rand) :
    ∃ gsl', addIntervals gsl rand l =
        some (gsl', IntervalList.size (intervals gsl') - IntervalList.size (intervals gsl)) ∧
      WF gsl' ∧ intervals gsl' = IntervalList.union (intervals gsl) l := by
  induction l generalizing gsl rand with
  | nil => exact ⟨gsl, by simp [addIntervals], h, rfl⟩
  | cons i l ih =>
    obtain ⟨hs, hse, he⟩ := hl i (by simp)
    obtain ⟨hnext, hrest⟩ := hfits
    obtain ⟨gsl₁, hadd, hwf₁, hint₁⟩ :=
      gtidIntervalSkipListAdd_fits_spec h hnext hs hse he (rand.sub 0)
    obtain ⟨gsl₂, hrest, hwf₂, hint₂⟩ :=
      ih hwf₁ (fun j hj => hl j (by simp [hj])) (hint₁ ▸ hrest) (rand.sub 1)
    refine ⟨gsl₂, ?_, hwf₂, by rw [hint₂, hint₁, IntervalList.union_cons]⟩
    have hsum : llong (IntervalList.size (intervals gsl₁) - IntervalList.size (intervals gsl) +
        (IntervalList.size (intervals gsl₂) - IntervalList.size (intervals gsl₁))) =
        IntervalList.size (intervals gsl₂) - IntervalList.size (intervals gsl) := by
      rw [← llong_size_sub hwf₂.gnos h.gnos]
      congr 1
      omega
    simp only [addIntervals, hadd, hrest, Option.bind_eq_bind, Option.bind_some, hsum]

theorem removeIntervals_spec {l : List (Int × Int)} (h : WF gsl)
    (hl : ∀ i ∈ l, 1 ≤ i.1 ∧ i.1 ≤ i.2) (rand : Rand) :
    ∃ gsl', removeIntervals gsl rand l =
        some (gsl', IntervalList.size (intervals gsl) - IntervalList.size (intervals gsl')) ∧
      WF gsl' ∧ intervals gsl' = IntervalList.diff (intervals gsl) l := by
  induction l generalizing gsl rand with
  | nil => exact ⟨gsl, by simp [removeIntervals], h, rfl⟩
  | cons i l ih =>
    have hi := hl i (by simp)
    obtain ⟨gsl₁, hremove, hwf₁, hint₁⟩ :=
      gtidIntervalSkipListRemove_spec h hi.1 hi.2 (rand.sub 0)
    obtain ⟨gsl₂, hrest, hwf₂, hint₂⟩ := ih hwf₁ (fun j hj => hl j (by simp [hj])) (rand.sub 1)
    refine ⟨gsl₂, ?_, hwf₂, by rw [hint₂, hint₁, IntervalList.diff_cons]⟩
    have hsum : llong (IntervalList.size (intervals gsl) - IntervalList.size (intervals gsl₁) +
        (IntervalList.size (intervals gsl₁) - IntervalList.size (intervals gsl₂))) =
        IntervalList.size (intervals gsl) - IntervalList.size (intervals gsl₂) := by
      rw [← llong_size_sub h.gnos hwf₂.gnos]
      congr 1
      omega
    simp only [removeIntervals, hremove, hrest, Option.bind_eq_bind, Option.bind_some, hsum]

theorem WF.intervals_valid (h : WF src) :
    ∀ i ∈ intervals src, 1 ≤ i.1 ∧ i.1 ≤ i.2 ∧ i.2 ≤ LLONG_MAX := fun i hi =>
  ⟨(h.gnos.bounds i hi).1, h.canonical.nonempty i hi, (h.gnos.bounds i hi).2⟩

theorem gtidIntervalSkipListMerge_spec (h : WF dst) (hs : WF src)
    (hfits : IntervalList.FitsOnto LLONG_MAX (intervals dst) (intervals src)) (rand : Rand) :
    ∃ dst', gtidIntervalSkipListMerge dst src rand =
        some (dst', IntervalList.size (intervals dst') - IntervalList.size (intervals dst)) ∧
      WF dst' ∧ intervals dst' = IntervalList.union (intervals dst) (intervals src) :=
  addIntervals_spec h hs.intervals_valid hfits rand

/-- Below the limit any two lists can be merged. -/
theorem Below.fitsOnto {l m : List (Int × Int)} (h : Below l) (hm : Below m) :
    IntervalList.FitsOnto LLONG_MAX l m := IntervalList.fitsOnto_of_lt (by decide) h hm

theorem gtidIntervalSkipListDiff_spec (h : WF dst) (hs : WF src) (rand : Rand) :
    ∃ dst', gtidIntervalSkipListDiff dst src rand =
        some (dst', IntervalList.size (intervals dst) - IntervalList.size (intervals dst')) ∧
      WF dst' ∧ intervals dst' = IntervalList.diff (intervals dst) (intervals src) :=
  removeIntervals_spec h (fun i hi => ⟨(hs.intervals_valid i hi).1, hs.canonical.nonempty i hi⟩) rand

/-! ## New, Dup, Contains and Next -/

theorem gtidIntervalSkipListNew_spec :
    WF gtidIntervalSkipListNew ∧ intervals gtidIntervalSkipListNew = [] :=
  ⟨⟨[], gtidIntervalSkipListNew_rep⟩, gtidIntervalSkipListNew_rep.toShape.intervals_eq⟩

theorem gtidIntervalSkipListDup_spec (h : WF gsl) :
    WF (gtidIntervalSkipListDup gsl) ∧
      intervals (gtidIntervalSkipListDup gsl) = intervals gsl := by
  obtain ⟨cells, hr⟩ := h
  obtain ⟨cells', hr', hcells'⟩ := gtidIntervalSkipListDup_rep hr
  exact ⟨⟨cells', hr'⟩, by rw [hr'.toShape.intervals_eq, hr.toShape.intervals_eq, hcells']⟩

theorem gtidIntervalSkipListContains_spec (h : WF gsl) (hg : 1 ≤ g) :
    gtidIntervalSkipListContains gsl g =
      some (decide (g ∈ IntervalList.points (intervals gsl))) := by
  obtain ⟨cells, hr⟩ := h
  rw [hr.toShape.intervals_eq]
  obtain ⟨p, q, rfl, hp, hq⟩ := exists_split (t := fun c : Cell => c.start ≤ g)
    (hr.pairwise.imp_of_mem (fun {a b} ha hbm hab hlt => by
      have := hr.start_le_end ha
      omega))
  have hpred : predecessors gsl (fun n => n.start ≤ g) 0 =
      (levelCells 0 p).getLastD gsl.header := by
    refine hr.toShape.predecessors_eq ?_ ?_ hr.toShape.zero_lt_level
    · intro c hc n hns _
      rw [hns]
      simpa using hp c hc
    · intro c hc n hns _
      rw [hns]
      simpa using hq c hc
  have hafter : ∀ i ∈ q.map Cell.interval, ¬ (i.1 ≤ g ∧ g ≤ i.2) := by
    intro i hi
    obtain ⟨c, hc, rfl⟩ := List.mem_map.mp hi
    exact fun hle => hq c hc hle.1
  have hmem : g ∈ IntervalList.points ((p ++ q).map Cell.interval) ↔
      ∃ i ∈ p.map Cell.interval, i.1 ≤ g ∧ g ≤ i.2 := by
    rw [IntervalList.mem_points, List.map_append]
    constructor
    · rintro ⟨i, hi, hle⟩
      exact ⟨i, (List.mem_append.mp hi).resolve_right (fun hq => hafter i hq hle), hle⟩
    · rintro ⟨i, hi, hle⟩
      exact ⟨i, List.mem_append_left _ hi, hle⟩
  have hguard : GTID_GNO_INITIAL ≤ g := hg
  simp only [gtidIntervalSkipListContains, guard, hguard, hpred, if_true, Option.pure_def,
    Option.bind_eq_bind, Option.bind_some, hmem]
  rcases List.eq_nil_or_concat p with rfl | ⟨p, c, rfl⟩
  · obtain ⟨n, hn, hns, hne⟩ := hr.toShape.get_header
    have hn' : gsl.nodes.get ((levelCells 0 []).getLastD gsl.header) = some n := hn
    rw [hn']
    simp only [Option.bind_some, hns, hne]
    have : ¬ g ≤ 0 := by omega
    simp [this]
  · rw [List.concat_eq_append] at *
    obtain ⟨n, hn, hns, hne⟩ := hr.toShape.get_cell
    rw [hr.toShape.last_zero, hn]
    simp only [Option.bind_some, hns, hne, Option.some.injEq, ← Bool.decide_and,
      decide_eq_decide]
    -- an earlier interval ends before the last one starts
    have hlast := hp c (by simp)
    constructor
    · intro hle
      exact ⟨c.interval, by simp, hle⟩
    · rintro ⟨i, hi, hle⟩
      obtain ⟨d, hd, rfl⟩ := List.mem_map.mp hi
      rcases List.mem_append.mp hd with hd | hd
      · have := (List.pairwise_append.mp (List.pairwise_append.mp hr.pairwise).1).2.2 d hd c
          (by simp)
        have : g ≤ d.end := hle.2
        omega
      · rw [List.mem_singleton] at hd
        subst hd
        exact hle

theorem gtidIntervalSkipListNext_spec (h : WF gsl) (rand : Rand) :
    gtidIntervalSkipListNext gsl false rand =
      some (gsl, llong (IntervalList.top (intervals gsl) + 1)) := by
  obtain ⟨cells, hr⟩ := h
  obtain ⟨n, hn, hne⟩ := hr.toShape.get_tail
  rw [hr.toShape.intervals_eq]
  simp [gtidIntervalSkipListNext, hn, hne]

theorem WF.top_nonneg (h : WF gsl) : 0 ≤ IntervalList.top (intervals gsl) := h.gnos.top_nonneg

/-- `Next` with `update` is `Add` of the gno it returns. -/
theorem gtidIntervalSkipListNext_update_spec (h : WF gsl) (hb : Below (intervals gsl))
    (htop : IntervalList.top (intervals gsl) + 1 < LLONG_MAX) (rand : Rand) :
    ∃ gsl', gtidIntervalSkipListNext gsl true rand =
        some (gsl', IntervalList.top (intervals gsl) + 1) ∧
      WF gsl' ∧ intervals gsl' = IntervalList.insert (IntervalList.top (intervals gsl) + 1)
        (IntervalList.top (intervals gsl) + 1) (intervals gsl) := by
  have hnn := h.top_nonneg
  obtain ⟨gsl', hadd, hwf, hint⟩ := gtidIntervalSkipListAdd_spec h hb
    (s := IntervalList.top (intervals gsl) + 1) (by omega) (le_refl _) htop rand
  refine ⟨gsl', ?_, hwf, hint⟩
  obtain ⟨cells, hr⟩ := h
  obtain ⟨n, hn, hne⟩ := hr.toShape.get_tail
  rw [← hr.toShape.intervals_eq] at hne
  have hll : llong (n.end + 1) = IntervalList.top (intervals gsl) + 1 := by
    rw [hne]
    exact llong_succ hnn (by omega)
  simp [gtidIntervalSkipListNext, hn, hll, hadd]

end Ops

end XredisGtid
