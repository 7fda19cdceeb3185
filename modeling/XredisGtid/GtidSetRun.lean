import XredisGtid.GtidSetOps

/-!
# Gtid sets as finite sets of gtids

`contents` is the finite set of pairs of a uuid and a gno a gtid set stands for.  A
set is `WellFormedSet` when it represents cells with distinct uuids, and `RegularSet`
when moreover no gno is `LLONG_MAX`; every set of a run is (`GtidSetReachable.regular`),
and on such sets the operations are those of finite sets.

The one reservation concerns sizes.  A single uuid has fewer than `2 ^ 63` gnos, but a
gtid set has no bound on the number of uuids, and `gno_t` sums over them wrap around:
the numbers that `gtidSetMerge`, `gtidSetDiff` and `gtidSetCount` return are exact up
to `LLONG_MAX` and not beyond, and `gtidSetEqual`, which tests such a sum for zero,
takes two sets for equal when both differences have a multiple of `2 ^ 64` gtids.
-/
namespace XredisGtid
open Memory KeyedIntervals

/-- The uuids of a gtid set with their intervals, in order. -/
def entries (s : GtidSet) : Entries Uuid :=
  (uuidSets s).filterMap
    (fun a => (s.uuidSetCells.get a).map (fun u => (u.uuid, intervals u.intervals)))

/-- The finite set of gtids a gtid set stands for. -/
noncomputable def contents (s : GtidSet) : Finset (Uuid × Int) := pairs (entries s)

/-- The greatest gno of a uuid in a set of gtids, `0` if there is none. -/
noncomputable def maxGno (S : Finset (Uuid × Int)) (uuid : Uuid) : Int :=
  IntervalList.maxD ((S.filter (fun x => x.1 = uuid)).image Prod.snd)

structure WellFormedSet (s : GtidSet) : Prop where
  rep : ∃ l, SetRep s l
  distinct : (keys (entries s)).Nodup

structure RegularSet (s : GtidSet) : Prop extends WellFormedSet s where
  below : EntriesBelow (entries s)

section Regular
variable {s t : GtidSet} {l : List (Addr × Entry)} {uuid : Uuid} {start «end» g : Int}

theorem SetRep.entries_eq (h : SetRep s l) : entries s = l.map Prod.snd := by
  rw [entries, h.uuidSets_eq, List.filterMap_map]
  have hholds := h.holds
  clear h
  induction l with
  | nil => rfl
  | cons c l ih =>
    obtain ⟨u, hu, huuid, -, hint⟩ := hholds c (by simp)
    rw [List.filterMap_cons, List.map_cons, ih (fun d hd => hholds d (by simp [hd]))]
    simp [hu, huuid, hint]

theorem SetRep.entries_canonical (h : SetRep s l) :
    ∀ e ∈ entries s, IntervalList.Canonical e.2 := by
  rw [h.entries_eq]
  intro e he
  obtain ⟨c, hc, rfl⟩ := List.mem_map.mp he
  obtain ⟨u, -, -, hwf, hint⟩ := h.holds c hc
  rw [← hint]
  exact hwf.canonical

theorem WellFormedSet.canonical (h : WellFormedSet s) : Canonical (entries s) := by
  obtain ⟨l, hrep⟩ := h.rep
  exact ⟨h.distinct, hrep.entries_canonical⟩

/-- A set that represents cells with known entries. -/
theorem SetRep.regular (h : SetRep s l) {es : Entries Uuid} (hes : l.map Prod.snd = es)
    (hc : Canonical es) (hb : EntriesBelow es) : RegularSet s ∧ entries s = es := by
  have he : entries s = es := h.entries_eq.trans hes
  exact ⟨⟨⟨⟨l, h⟩, he ▸ hc.distinct⟩, he ▸ hb⟩, he⟩

theorem SetRep.wellFormed (h : SetRep s l) {es : Entries Uuid} (hes : l.map Prod.snd = es)
    (hc : Canonical es) : WellFormedSet s ∧ entries s = es := by
  have he : entries s = es := h.entries_eq.trans hes
  exact ⟨⟨⟨l, h⟩, he ▸ hc.distinct⟩, he⟩

theorem regularSet_new : RegularSet gtidSetNew ∧ entries gtidSetNew = [] :=
  setRep_new.regular rfl canonical_nil (fun _ he => absurd he (by simp))

theorem contents_new : contents gtidSetNew = ∅ := by
  rw [contents, regularSet_new.2]
  rfl

theorem WellFormedSet.card (h : WellFormedSet s) : size (entries s) = (contents s).card :=
  size_eq_card h.canonical

theorem WellFormedSet.mem_contents (h : WellFormedSet s) :
    (uuid, g) ∈ contents s ↔ g ∈ IntervalList.points (lookup uuid (entries s)) :=
  mem_pairs h.distinct

/-- Gnos are positive and fit `long long`. -/
theorem WellFormedSet.gno_bounds (h : WellFormedSet s) (hg : (uuid, g) ∈ contents s) :
    1 ≤ g ∧ g ≤ LLONG_MAX := by
  rw [h.mem_contents] at hg
  obtain ⟨l, hrep⟩ := h.rep
  rw [hrep.entries_eq] at hg
  rcases exists_first_cell uuid l with hk | ⟨p, c, q, rfl, hp, hc⟩
  · rw [lookup_of_notMem hk] at hg
    simp at hg
  · rw [List.map_append, List.map_cons, lookup_append_cons hp hc] at hg
    obtain ⟨u, -, -, hwf, hint⟩ := hrep.holds c (by simp)
    rw [← hint] at hg
    obtain ⟨i, hi, hig, hgi⟩ := IntervalList.mem_points.mp hg
    have := hwf.gnos.bounds i hi
    omega

theorem WellFormedSet.one_le (h : WellFormedSet s) (hg : (uuid, g) ∈ contents s) : 1 ≤ g :=
  (h.gno_bounds hg).1

theorem WellFormedSet.maxGno_eq (h : WellFormedSet s) (uuid : Uuid) :
    maxGno (contents s) uuid = IntervalList.top (lookup uuid (entries s)) := by
  rw [maxGno, IntervalList.top_eq_maxD (h.canonical.lookup uuid)]
  congr 1
  ext g
  rw [← h.mem_contents, Finset.mem_image]
  constructor
  · rintro ⟨⟨k, g'⟩, hmem, rfl⟩
    obtain ⟨hmem, hk⟩ := Finset.mem_filter.mp hmem
    have hk : k = uuid := hk
    exact hk ▸ hmem
  · exact fun hmem => ⟨(uuid, g), Finset.mem_filter.mpr ⟨hmem, rfl⟩, rfl⟩

theorem WellFormedSet.le_maxGno (h : WellFormedSet s) (hg : (uuid, g) ∈ contents s) :
    g ≤ maxGno (contents s) uuid := by
  rw [h.maxGno_eq]
  exact IntervalList.le_top (h.canonical.lookup uuid) (h.mem_contents.mp hg)

/-- Some gno is the greatest, unless there is none. -/
theorem WellFormedSet.maxGno_mem (h : WellFormedSet s) (uuid : Uuid) :
    maxGno (contents s) uuid = 0 ∨ (uuid, maxGno (contents s) uuid) ∈ contents s := by
  rw [h.mem_contents, h.maxGno_eq]
  by_cases hnil : lookup uuid (entries s) = []
  · rw [hnil]
    exact Or.inl rfl
  · exact Or.inr (IntervalList.top_mem (h.canonical.lookup uuid) hnil)

theorem WellFormedSet.maxGno_nonneg (h : WellFormedSet s) (uuid : Uuid) :
    0 ≤ maxGno (contents s) uuid := by
  rcases h.maxGno_mem uuid with hzero | hmem
  · omega
  · have := h.one_le hmem
    omega

theorem WellFormedSet.maxGno_le (h : WellFormedSet s) (uuid : Uuid) :
    maxGno (contents s) uuid ≤ LLONG_MAX := by
  rcases h.maxGno_mem uuid with hzero | hmem
  · rw [hzero]
    decide
  · exact (h.gno_bounds hmem).2

/-- No gno of a regular set is `LLONG_MAX`. -/
theorem RegularSet.lt_max (h : RegularSet s) (hg : (uuid, g) ∈ contents s) : g < LLONG_MAX := by
  obtain ⟨i, hi, -, hle⟩ := IntervalList.mem_points.mp (h.mem_contents.mp hg)
  exact lt_of_le_of_lt hle (below_lookup h.below i hi)

/-- A set without the gno `LLONG_MAX` is regular. -/
theorem WellFormedSet.regular (h : WellFormedSet s) (hmax : ∀ x ∈ contents s, x.2 < LLONG_MAX) :
    RegularSet s := by
  refine ⟨h, fun e he i hi => ?_⟩
  have hle := (h.canonical.canonical e he).nonempty i hi
  exact hmax (e.1, i.2) (h.mem_contents.mpr (by
    rw [lookup_of_mem h.distinct he]
    exact IntervalList.mem_points.mpr ⟨i, hi, hle, le_refl i.2⟩))

/-- A set with the gtids of a regular one. -/
theorem RegularSet.of_contents (h : RegularSet s) (ht : WellFormedSet t)
    (hset : contents t = contents s) : RegularSet t :=
  ht.regular (fun _ hx => h.lt_max (hset ▸ hx))

theorem RegularSet.maxGno_bounds (h : RegularSet s) (uuid : Uuid) :
    0 ≤ maxGno (contents s) uuid ∧ maxGno (contents s) uuid < LLONG_MAX := by
  refine ⟨h.maxGno_nonneg uuid, ?_⟩
  rcases h.maxGno_mem uuid with hzero | hmem
  · rw [hzero]
    decide
  · exact h.lt_max hmem

theorem EntriesBelow.reduce {es : Entries Uuid} (h : EntriesBelow es)
    {f : List (Int × Int) → List (Int × Int)} (hf : ∀ e ∈ es, Below (f e.2)) :
    EntriesBelow (reduce uuid f es) := by
  rcases exists_first uuid es with hk | ⟨p, e, q, rfl, hp, he⟩
  · rw [reduce_of_notMem hk]
    exact h
  · rw [reduce_append_cons hp he]
    intro d hd
    rcases List.mem_append.mp hd with hd | hd
    · exact h d (by simp [hd])
    · split at hd
      · exact h d (by simp [hd])
      · rcases List.mem_cons.mp hd with rfl | hd
        · exact hf e (by simp)
        · exact h d (by simp [hd])

theorem EntriesBelow.diff {es m : Entries Uuid} (h : EntriesBelow es) (hc : Canonical es)
    (hm : Canonical m) : EntriesBelow (diff es m) := by
  intro e he
  obtain ⟨d, hd, rfl⟩ := List.mem_map.mp (List.mem_of_mem_filter he)
  exact (h d hd).diff (hc.canonical d hd) (hm.lookup d.1).nonempty

/-! ## The operations on sets of gtids -/

theorem card_sub_card {A B : Finset (Uuid × Int)} (h : A ⊆ B) :
    (B.card : Int) - A.card = ((B \ A).card : Int) := by
  have := Finset.card_sdiff_add_card_eq_card h
  omega

/-- A count fits `long long` exactly when it is returned unchanged. -/
theorem llong_natCast_iff (n : Nat) : llong (n : Int) = (n : Int) ↔ (n : Int) ≤ LLONG_MAX := by
  rw [llong_eq_self_iff]
  exact ⟨And.right, fun h => ⟨by unfold LLONG_MIN; omega, h⟩⟩

theorem llong_eq_zero_iff (n : Nat) : llong (n : Int) = 0 ↔ 2 ^ 64 ∣ n := by
  unfold llong
  omega

/-- A set whose entries have taken a range in. -/
theorem WellFormedSet.added {l' : List (Addr × Entry)} (h : WellFormedSet s) (hrep : SetRep s l)
    (hrep' : SetRep t l') (hl' : l'.map Prod.snd = add uuid start «end» (l.map Prod.snd))
    (hse : start ≤ «end») :
    WellFormedSet t ∧ contents t = contents s ∪ {uuid} ×ˢ Finset.Icc start «end» ∧
      size (l'.map Prod.snd) - size (l.map Prod.snd) =
        ((({uuid} : Finset Uuid) ×ˢ Finset.Icc start «end» \ contents s).card : Int) := by
  rw [← hrep.entries_eq] at hl' ⊢
  have hes' : entries t = add uuid start «end» (entries s) := hrep'.entries_eq.trans hl'
  have hwf' : WellFormedSet t := ⟨⟨l', hrep'⟩, hes' ▸ (h.canonical.add hse).distinct⟩
  have hset : contents t = contents s ∪ {uuid} ×ˢ Finset.Icc start «end» := by
    rw [contents, hes', pairs_add h.canonical hse]
    rfl
  refine ⟨hwf', hset, ?_⟩
  rw [hl', ← hes', hwf'.card, h.card, hset, card_sub_card Finset.subset_union_left,
    Finset.union_sdiff_left]

/-- **Add** inserts a range of gtids that stays clear of the limit, and counts the new ones. -/
theorem add_wellFormedSet (h : WellFormedSet s) (uuid : Uuid)
    (hfits : IntervalList.FitsNext LLONG_MAX (lookup uuid (entries s)) (start, «end»))
    (hs : 1 ≤ start) (hse : start ≤ «end») (he : «end» ≤ LLONG_MAX) (rand : Rand) :
    ∃ s', gtidSetAdd s uuid start «end» rand =
        some (s', ((({uuid} : Finset Uuid) ×ˢ Finset.Icc start «end» \ contents s).card : Int)) ∧
      WellFormedSet s' ∧ contents s' = contents s ∪ {uuid} ×ˢ Finset.Icc start «end» := by
  obtain ⟨l, hrep⟩ := h.rep
  have hes := hrep.entries_eq
  obtain ⟨s', l', hadd, hrep', hl', -⟩ := gtidSetAdd_fits_rep hrep uuid
    (by rw [cellKeys, ← hes]; exact h.distinct) (hes ▸ hfits) hs hse he rand
  obtain ⟨hwf', hset, hcount⟩ := h.added hrep hrep' hl' hse
  exact ⟨s', hcount ▸ hadd, hwf', hset⟩

/-- Below `LLONG_MAX` every range does. -/
theorem add_regularSet (h : RegularSet s) (uuid : Uuid) (hs : 1 ≤ start) (hse : start ≤ «end»)
    (he : «end» < LLONG_MAX) (rand : Rand) :
    ∃ s', gtidSetAdd s uuid start «end» rand =
        some (s', ((({uuid} : Finset Uuid) ×ˢ Finset.Icc start «end» \ contents s).card : Int)) ∧
      RegularSet s' ∧ contents s' = contents s ∪ {uuid} ×ˢ Finset.Icc start «end» := by
  obtain ⟨s', hadd, hwf', hset⟩ := add_wellFormedSet h.toWellFormedSet uuid
    (.of_lt (top_lookup_lt h.below) he) hs hse he.le rand
  refine ⟨s', hadd, hwf'.regular ?_, hset⟩
  rintro ⟨k, g⟩ hg
  rw [hset, Finset.mem_union, Finset.mem_product, Finset.mem_Icc] at hg
  rcases hg with hg | hg
  · exact h.lt_max hg
  · exact hg.2.2.trans_lt he

/-- A set with one gtid. -/
theorem exists_singleton_set (uuid : Uuid) {g : Int} (hg : 1 ≤ g) (hmax : g < LLONG_MAX) :
    ∃ t, RegularSet t ∧ contents t = {(uuid, g)} := by
  obtain ⟨t, -, ht, hset⟩ := add_regularSet regularSet_new.1 uuid hg (le_refl g) hmax (fun _ => 0)
  refine ⟨t, ht, ?_⟩
  rw [hset, contents, regularSet_new.2, Finset.Icc_self, Finset.singleton_product_singleton]
  rfl

/-- An invalid range adds nothing. -/
theorem add_invalid_regularSet (h : RegularSet s) (uuid : Uuid)
    (hinvalid : ¬ (1 ≤ start ∧ start ≤ «end»)) (rand : Rand) :
    ∃ s', gtidSetAdd s uuid start «end» rand = some (s', 0) ∧
      RegularSet s' ∧ contents s' = contents s := by
  obtain ⟨l, hrep⟩ := h.rep
  have hes := hrep.entries_eq
  obtain ⟨s', l', hadd, hrep', hl', -⟩ := gtidSetAdd_invalid_rep hrep uuid
    (by rw [cellKeys, ← hes]; exact h.distinct) hinvalid rand
  rw [← hes] at hl'
  have hc' : Canonical (update uuid id (entries s)) := h.canonical.update (fun _ hc => hc)
  obtain ⟨hr', hes'⟩ := hrep'.regular hl' hc' (h.below.update (fun _ hb => hb))
  refine ⟨s', hadd, hr', ?_⟩
  rw [contents, hes']
  exact pairs_update_id h.canonical

/-- A gno that adding it alone adds: a new one, and `LLONG_MAX` only to a uuid without gnos or
right after the greatest one. -/
def AddsGno (S : Finset (Uuid × Int)) (uuid : Uuid) (g : Int) : Prop :=
  1 ≤ g ∧ (uuid, g) ∉ S ∧ (g = LLONG_MAX → maxGno S uuid = 0 ∨ maxGno S uuid + 1 = LLONG_MAX)

theorem card_gno_sdiff {S : Finset (Uuid × Int)} (hnew : (uuid, g) ∉ S) :
    ((({uuid} : Finset Uuid) ×ˢ Finset.Icc g g \ S).card : Int) = 1 := by
  rw [Finset.Icc_self, Finset.singleton_product_singleton,
    Finset.sdiff_eq_self_of_disjoint (by simpa using hnew), Finset.card_singleton]
  rfl

theorem WellFormedSet.maxGno_lt_iff (h : WellFormedSet s) (uuid : Uuid) :
    maxGno (contents s) uuid < LLONG_MAX ↔ (uuid, LLONG_MAX) ∉ contents s := by
  constructor
  · intro hlt hmem
    have := h.le_maxGno hmem
    omega
  · intro hnot
    refine lt_of_le_of_ne (h.maxGno_le uuid) (fun heq => ?_)
    rcases h.maxGno_mem uuid with hzero | hmem
    · rw [hzero] at heq
      exact absurd heq (by decide)
    · exact hnot (heq ▸ hmem)

theorem WellFormedSet.top_lt (h : WellFormedSet s) (hmax : (uuid, LLONG_MAX) ∉ contents s) :
    IntervalList.top (lookup uuid (entries s)) < LLONG_MAX := by
  rw [← h.maxGno_eq]
  exact (h.maxGno_lt_iff uuid).mpr hmax

theorem WellFormedSet.maxGno_eq_zero_iff (h : WellFormedSet s) (uuid : Uuid) :
    maxGno (contents s) uuid = 0 ↔ lookup uuid (entries s) = [] := by
  rw [h.maxGno_eq]
  constructor
  · intro hzero
    by_contra hne
    have hmem := IntervalList.top_mem (h.canonical.lookup uuid) hne
    have := h.one_le (h.mem_contents.mpr hmem)
    omega
  · intro hnil
    rw [hnil]
    rfl

/-- Adding `LLONG_MAX`, which a regular set does not hold. -/
theorem add_max_regularSet (h : RegularSet s) (uuid : Uuid) (rand : Rand) :
    (maxGno (contents s) uuid = 0 ∨ maxGno (contents s) uuid + 1 = LLONG_MAX →
      ∃ s', gtidSetAdd s uuid LLONG_MAX LLONG_MAX rand = some (s', 1)) ∧
    (¬ (maxGno (contents s) uuid = 0 ∨ maxGno (contents s) uuid + 1 = LLONG_MAX) →
      gtidSetAdd s uuid LLONG_MAX LLONG_MAX rand = none) := by
  have hpos : 1 ≤ LLONG_MAX := by decide
  have hnew : (uuid, LLONG_MAX) ∉ contents s := fun hmem => lt_irrefl _ (h.lt_max hmem)
  have htop := h.maxGno_eq uuid
  have hzero := h.maxGno_eq_zero_iff uuid
  have hbound := (h.maxGno_bounds uuid).2
  constructor
  · intro hfree
    have hfits : IntervalList.FitsNext LLONG_MAX (lookup uuid (entries s)) (LLONG_MAX, LLONG_MAX) :=
      hfree.imp hzero.mp (fun hafter => ⟨htop ▸ hbound, Or.inr (htop ▸ hafter)⟩)
    obtain ⟨s', hadd, -⟩ := add_wellFormedSet h.toWellFormedSet uuid hfits hpos
      (le_refl LLONG_MAX) (le_refl LLONG_MAX) rand
    exact ⟨s', card_gno_sdiff hnew ▸ hadd⟩
  · intro hnot
    rw [not_or] at hnot
    obtain ⟨l, hrep⟩ := h.rep
    have hes := hrep.entries_eq
    rw [hes] at htop hzero
    refine gtidSetAdd_max_rep hrep uuid (by rw [cellKeys, ← hes]; exact h.distinct)
      (fun hnil => hnot.1 (hzero.mpr hnil)) ?_ hpos (le_refl LLONG_MAX) rand
    rw [← htop]
    omega

/-- A number returned for a gno alone is 1, and the gno is added, or is 0. -/
theorem add_gno_regularSet (h : RegularSet s) (uuid : Uuid) (hg : g ≤ LLONG_MAX) (rand : Rand) :
    (AddsGno (contents s) uuid g ∧ ∃ s', gtidSetAdd s uuid g g rand = some (s', 1)) ∨
      (¬ AddsGno (contents s) uuid g ∧
        ∀ s' n, gtidSetAdd s uuid g g rand = some (s', n) → n = 0) := by
  have hzero : ∀ {s₁ : GtidSet}, gtidSetAdd s uuid g g rand = some (s₁, 0) →
      ∀ s' n, gtidSetAdd s uuid g g rand = some (s', n) → n = 0 := by
    intro s₁ hadd₁ s' n hadd
    cases hadd₁.symm.trans hadd
    rfl
  by_cases hpos : 1 ≤ g
  · rcases lt_or_eq_of_le hg with hlt | rfl
    · obtain ⟨s', hadd, -⟩ := add_regularSet h uuid hpos (le_refl g) hlt rand
      by_cases hmem : (uuid, g) ∈ contents s
      · have hnone : ({uuid} : Finset Uuid) ×ˢ Finset.Icc g g \ contents s = ∅ := by
          rw [Finset.Icc_self, Finset.singleton_product_singleton, Finset.sdiff_eq_empty_iff_subset,
            Finset.singleton_subset_iff]
          exact hmem
        rw [hnone, Finset.card_empty] at hadd
        exact Or.inr ⟨fun hadds => hadds.2.1 hmem, hzero hadd⟩
      · rw [card_gno_sdiff hmem] at hadd
        exact Or.inl ⟨⟨hpos, hmem, fun he => absurd he (ne_of_lt hlt)⟩, s', hadd⟩
    · obtain ⟨hadds, hfails⟩ := add_max_regularSet h uuid rand
      have hnew : (uuid, LLONG_MAX) ∉ contents s := fun hmem => lt_irrefl _ (h.lt_max hmem)
      by_cases hfree : maxGno (contents s) uuid = 0 ∨ maxGno (contents s) uuid + 1 = LLONG_MAX
      · exact Or.inl ⟨⟨hpos, hnew, fun _ => hfree⟩, hadds hfree⟩
      · refine Or.inr ⟨fun h => hfree (h.2.2 rfl), fun s' n hadd => ?_⟩
        cases (hfails hfree).symm.trans hadd
  · obtain ⟨s', hadd, -⟩ := add_invalid_regularSet h uuid (fun hv => hpos hv.1) rand
    exact Or.inr ⟨fun hadds => hpos hadds.1, hzero hadd⟩

/-- **Remove** takes a range of gtids out. -/
theorem remove_wellFormedSet (h : WellFormedSet s) (uuid : Uuid) (hs : 1 ≤ start)
    (hse : start ≤ «end») (rand : Rand) :
    ∃ s', gtidSetRemove s uuid start «end» rand =
        some (s', intOfGno (contents s ∩ {uuid} ×ˢ Finset.Icc start «end»).card) ∧
      WellFormedSet s' ∧ entries s' = remove uuid start «end» (entries s) ∧
      contents s' = contents s \ {uuid} ×ˢ Finset.Icc start «end» := by
  obtain ⟨l, hrep⟩ := h.rep
  have hes := hrep.entries_eq
  obtain ⟨s', l', hremove, hrep', hl', -⟩ := gtidSetRemove_rep hrep uuid hs hse rand
  rw [← hes] at hremove hl'
  have hes' : entries s' = remove uuid start «end» (entries s) := hrep'.entries_eq.trans hl'
  have hwf' : WellFormedSet s' := ⟨⟨l', hrep'⟩, hes' ▸ (h.canonical.remove hse).distinct⟩
  have hset : contents s' = contents s \ {uuid} ×ˢ Finset.Icc start «end» := by
    rw [contents, hes', pairs_remove h.canonical hse]
    rfl
  refine ⟨s', ?_, hwf', hes', hset⟩
  rw [hremove, hl', ← hes', hwf'.card, h.card, hset, card_sub_card Finset.sdiff_subset,
    Finset.sdiff_sdiff_self_left]

theorem remove_regularSet (h : RegularSet s) (uuid : Uuid) (hs : 1 ≤ start)
    (hse : start ≤ «end») (rand : Rand) :
    ∃ s', gtidSetRemove s uuid start «end» rand =
        some (s', intOfGno (contents s ∩ {uuid} ×ˢ Finset.Icc start «end»).card) ∧
      RegularSet s' ∧ contents s' = contents s \ {uuid} ×ˢ Finset.Icc start «end» := by
  obtain ⟨s', hremove, hwf', hes', hset⟩ :=
    remove_wellFormedSet h.toWellFormedSet uuid hs hse rand
  refine ⟨s', hremove, ⟨hwf', ?_⟩, hset⟩
  rw [hes']
  exact h.below.reduce (fun e he => (h.below e he).erase (h.canonical.canonical e he).nonempty)

/-- An invalid range takes nothing out, though the uuid may lose an empty record. -/
theorem remove_invalid_regularSet (h : RegularSet s) (uuid : Uuid)
    (hinvalid : ¬ (1 ≤ start ∧ start ≤ «end»)) (rand : Rand) :
    ∃ s' n, gtidSetRemove s uuid start «end» rand = some (s', n) ∧ RegularSet s' ∧
      contents s' = contents s ∧ s'.curnext = s.curnext := by
  obtain ⟨l, hrep⟩ := h.rep
  obtain ⟨s', l', hremove, hrep', hl', hcur⟩ :=
    gtidSetRemove_removes hrep uuid (removes_invalid hinvalid) rand
  rw [← hrep.entries_eq] at hl'
  obtain ⟨hr', hes'⟩ := hrep'.regular hl' (h.canonical.reduce (fun _ hc => hc))
    (h.below.reduce h.below)
  refine ⟨s', _, hremove, hr', ?_, hcur⟩
  rw [contents, hes']
  exact pairs_reduce_id h.canonical

/-- **Merge** is union, where it stays clear of the limit; the count is that of the new gtids, as a
`long long`. -/
theorem merge_wellFormedSet (h : WellFormedSet s) (ht : WellFormedSet t)
    (hfits : FitsInto LLONG_MAX (entries s) (entries t)) (rand : Rand) :
    ∃ s', gtidSetMerge s t rand = some (s', llong ((contents t \ contents s).card : Int)) ∧
      WellFormedSet s' ∧ entries s' = merge (entries s) (entries t) ∧
      contents s' = contents s ∪ contents t := by
  obtain ⟨l, hrep⟩ := h.rep
  obtain ⟨m, hrept⟩ := ht.rep
  have hes := hrep.entries_eq
  have hest := hrept.entries_eq
  obtain ⟨s', l', hmerge, hrep', hl', -⟩ := gtidSetMerge_rep hrept
    (by rw [cellKeys, ← hest]; exact ht.distinct) hrep (hes ▸ hest ▸ hfits) rand
  rw [← hes] at hmerge
  rw [← hes, ← hest] at hl'
  obtain ⟨hwf', hes'⟩ := hrep'.wellFormed hl' (h.canonical.merge ht.canonical)
  have hset : contents s' = contents s ∪ contents t := by
    rw [contents, hes', pairs_merge h.canonical ht.canonical]
    rfl
  refine ⟨s', ?_, hwf', hes', hset⟩
  rw [hmerge, hl', ← hes', hwf'.card, h.card, hset, card_sub_card Finset.subset_union_left,
    Finset.union_sdiff_left]

theorem merge_regularSet (h : RegularSet s) (ht : RegularSet t) (rand : Rand) :
    ∃ s', gtidSetMerge s t rand = some (s', llong ((contents t \ contents s).card : Int)) ∧
      RegularSet s' ∧ contents s' = contents s ∪ contents t := by
  obtain ⟨s', hmerge, hwf', hes', hset⟩ := merge_wellFormedSet h.toWellFormedSet
    ht.toWellFormedSet (h.below.fitsInto ht.below) rand
  exact ⟨s', hmerge, ⟨hwf', hes' ▸ h.below.merge ht.below⟩, hset⟩

/-- **Diff** is difference; the count is that of the gtids removed, as a `long long`. -/
theorem diff_wellFormedSet (h : WellFormedSet s) (ht : WellFormedSet t) (rand : Rand) :
    ∃ s', gtidSetDiff s t rand = some (s', llong ((contents s ∩ contents t).card : Int)) ∧
      WellFormedSet s' ∧ entries s' = diff (entries s) (entries t) ∧
      contents s' = contents s \ contents t := by
  obtain ⟨l, hrep⟩ := h.rep
  obtain ⟨m, hrept⟩ := ht.rep
  have hes := hrep.entries_eq
  have hest := hrept.entries_eq
  obtain ⟨s', l', hdiff, hrep', hl', -⟩ := gtidSetDiff_rep hrept hrep rand
  rw [← hes] at hdiff
  rw [← hes, ← hest] at hl'
  obtain ⟨hwf', hes'⟩ := hrep'.wellFormed hl' (h.canonical.diff ht.canonical)
  have hset : contents s' = contents s \ contents t := by
    rw [contents, hes', pairs_diff h.canonical ht.canonical]
    rfl
  refine ⟨s', ?_, hwf', hes', hset⟩
  rw [hdiff, hl', ← hes', hwf'.card, h.card, hset, card_sub_card Finset.sdiff_subset,
    Finset.sdiff_sdiff_self_left]

theorem diff_regularSet (h : RegularSet s) (ht : RegularSet t) (rand : Rand) :
    ∃ s', gtidSetDiff s t rand = some (s', llong ((contents s ∩ contents t).card : Int)) ∧
      RegularSet s' ∧ contents s' = contents s \ contents t := by
  obtain ⟨s', hdiff, hwf', hes', hset⟩ :=
    diff_wellFormedSet h.toWellFormedSet ht.toWellFormedSet rand
  exact ⟨s', hdiff, ⟨hwf', hes' ▸ h.below.diff h.canonical ht.canonical⟩, hset⟩

/-- **Contains** answers membership and leaves the set as it is. -/
theorem contains_wellFormedSet (h : WellFormedSet s) (uuid : Uuid) (g : Int) :
    ∃ s', gtidSetContains s uuid g = some (s', decide ((uuid, g) ∈ contents s)) ∧
      WellFormedSet s' ∧ entries s' = entries s := by
  obtain ⟨l, hrep⟩ := h.rep
  have hes := hrep.entries_eq
  obtain ⟨s', hcontains, hrep', -⟩ := gtidSetContains_rep hrep uuid g
  rw [← hes] at hcontains
  obtain ⟨hwf', hes'⟩ := hrep'.wellFormed hes.symm h.canonical
  refine ⟨s', ?_, hwf', hes'⟩
  rw [hcontains]
  congr 2
  rw [decide_eq_decide, ← h.mem_contents]
  exact ⟨And.right, fun hg => ⟨h.one_le hg, hg⟩⟩

theorem contains_regularSet (h : RegularSet s) (uuid : Uuid) (g : Int) :
    ∃ s', gtidSetContains s uuid g = some (s', decide ((uuid, g) ∈ contents s)) ∧
      RegularSet s' ∧ contents s' = contents s := by
  obtain ⟨s', hcontains, hwf', hes'⟩ := contains_wellFormedSet h.toWellFormedSet uuid g
  exact ⟨s', hcontains, ⟨hwf', hes' ▸ h.below⟩, by rw [contents, hes']; rfl⟩

/-- **Count** is the number of gtids, as a `long long`. -/
theorem WellFormedSet.count (h : WellFormedSet s) :
    gtidSetCount s = llong ((contents s).card : Int) := by
  obtain ⟨l, hrep⟩ := h.rep
  rw [gtidSetCount_rep hrep, ← hrep.entries_eq, h.card]

/-- **Next** is one more than the greatest gno of the uuid, as a `long long`. -/
theorem next_wellFormedSet (h : WellFormedSet s) (uuid : Uuid) (rand : Rand) :
    ∃ s', gtidSetNext s uuid false rand = some (s', llong (maxGno (contents s) uuid + 1)) ∧
      WellFormedSet s' ∧ entries s' = entries s := by
  obtain ⟨l, hrep⟩ := h.rep
  have hes := hrep.entries_eq
  obtain ⟨s', hnext, hrep', -⟩ := gtidSetNext_read_rep hrep uuid rand
  obtain ⟨hwf', hes'⟩ := hrep'.wellFormed hes.symm h.canonical
  exact ⟨s', by rw [hnext, ← hes, ← h.maxGno_eq], hwf', hes'⟩

theorem next_regularSet (h : RegularSet s) (uuid : Uuid) (rand : Rand) :
    ∃ s', gtidSetNext s uuid false rand = some (s', maxGno (contents s) uuid + 1) ∧
      RegularSet s' ∧ contents s' = contents s := by
  obtain ⟨s', hnext, hwf', hes'⟩ := next_wellFormedSet h.toWellFormedSet uuid rand
  have hmax := h.maxGno_bounds uuid
  refine ⟨s', ?_, ⟨hwf', hes' ▸ h.below⟩, by rw [contents, hes']; rfl⟩
  rw [hnext, llong_succ hmax.1 hmax.2]

/-- With `update` it also adds that gno. -/
theorem next_update_regularSet (h : RegularSet s) (uuid : Uuid)
    (hmax : maxGno (contents s) uuid + 1 < LLONG_MAX) (rand : Rand) :
    ∃ s', gtidSetNext s uuid true rand = some (s', maxGno (contents s) uuid + 1) ∧
      RegularSet s' ∧ contents s' = contents s ∪ {(uuid, maxGno (contents s) uuid + 1)} := by
  obtain ⟨l, hrep⟩ := h.rep
  have hes := hrep.entries_eq
  have hnn := h.maxGno_bounds uuid
  rw [h.maxGno_eq] at hmax hnn ⊢
  obtain ⟨s', l', hnext, hrep', hl', -⟩ := gtidSetNext_update_rep hrep uuid
    (hes ▸ h.below) (hes ▸ hmax) rand
  rw [← hes] at hnext hl'
  obtain ⟨hr', hes'⟩ := hrep'.regular hl' (h.canonical.add (le_refl _))
    (h.below.update (fun _ hb => hb.insert hmax))
  refine ⟨s', hnext, hr', ?_⟩
  rw [contents, hes', pairs_add h.canonical (le_refl _), Finset.Icc_self,
    Finset.singleton_product_singleton]
  rfl

/-- **Dup** has the same entries. -/
theorem dup_wellFormedSet (h : WellFormedSet s) :
    ∃ s', gtidSetDup s = some s' ∧ WellFormedSet s' ∧ entries s' = entries s ∧ s'.curnext = 0 := by
  obtain ⟨l, hrep⟩ := h.rep
  obtain ⟨s', l', hdup, hrep', hl', -, hcur⟩ := gtidSetDup_rep hrep
  obtain ⟨hwf', hes'⟩ := hrep'.wellFormed (hl'.trans hrep.entries_eq.symm) h.canonical
  exact ⟨s', hdup, hwf', hes', hcur⟩

theorem dup_regularSet (h : RegularSet s) :
    ∃ s', gtidSetDup s = some s' ∧ RegularSet s' ∧ contents s' = contents s := by
  obtain ⟨s', hdup, hwf', hes', -⟩ := dup_wellFormedSet h.toWellFormedSet
  exact ⟨s', hdup, ⟨hwf', hes' ▸ h.below⟩, by rw [contents, hes']; rfl⟩

/-- **Equal** tests whether both differences have a multiple of `2 ^ 64` gtids. -/
theorem equal_regularSet (h : RegularSet s) (ht : RegularSet t) (rand : Rand) :
    gtidSetEqual s t rand = some (decide (2 ^ 64 ∣ (contents s \ contents t).card ∧
      2 ^ 64 ∣ (contents t \ contents s).card)) := by
  obtain ⟨l, hrep⟩ := h.rep
  obtain ⟨m, hrept⟩ := ht.rep
  rw [gtidSetEqual_rep hrep hrept, ← hrep.entries_eq, ← hrept.entries_eq,
    size_eq_card (h.canonical.diff ht.canonical), size_eq_card (ht.canonical.diff h.canonical),
    pairs_diff h.canonical ht.canonical, pairs_diff ht.canonical h.canonical]
  simp only [llong_eq_zero_iff]
  rfl

end Regular

/-! ## Runs -/

inductive GtidSetOp where
  | new
  | add (i : Nat) (uuid : Uuid) (start «end» : Int)
  | remove (i : Nat) (uuid : Uuid) (start «end» : Int)
  | merge (dst : Nat) (src : GtidSet)
  | diff (dst : Nat) (src : GtidSet)
  | next (i : Nat) (uuid : Uuid)
  | dup (i : Nat)

/-- The sets named exist, the ranges are valid and all gnos stay below `LLONG_MAX`.  A set
merged or subtracted is any regular one: it may come from outside of the run, with records
of uuids that have no gnos. -/
def GtidSetOp.Valid (sets : List GtidSet) : GtidSetOp → Prop
  | .new => True
  | .add i _ start «end» | .remove i _ start «end» =>
    i < sets.length ∧ 1 ≤ start ∧ start ≤ «end» ∧ «end» < LLONG_MAX
  | .merge dst src | .diff dst src => dst < sets.length ∧ RegularSet src
  | .next i uuid => ∃ s, sets[i]? = some s ∧ maxGno (contents s) uuid + 1 < LLONG_MAX
  | .dup i => i < sets.length

def GtidSetOp.step (sets : List GtidSet) (rand : Rand) : GtidSetOp → Option (List GtidSet)
  | .new => some (sets ++ [gtidSetNew])
  | .add i uuid start «end» => do
    let (s, _) ← gtidSetAdd (← sets[i]?) uuid start «end» rand
    some (sets.set i s)
  | .remove i uuid start «end» => do
    let (s, _) ← gtidSetRemove (← sets[i]?) uuid start «end» rand
    some (sets.set i s)
  | .merge dst src => do
    let (s, _) ← gtidSetMerge (← sets[dst]?) src rand
    some (sets.set dst s)
  | .diff dst src => do
    let (s, _) ← gtidSetDiff (← sets[dst]?) src rand
    some (sets.set dst s)
  | .next i uuid => do
    let (s, _) ← gtidSetNext (← sets[i]?) uuid true rand
    some (sets.set i s)
  | .dup i => do
    let s ← gtidSetDup (← sets[i]?)
    some (sets ++ [s])

/-- The states of the sets after any sequence of valid operations. -/
inductive GtidSetReachable : List GtidSet → Prop
  | init : GtidSetReachable []
  | step {sets sets' : List GtidSet} (op : GtidSetOp) (rand : Rand) :
      GtidSetReachable sets → op.Valid sets → op.step sets rand = some sets' →
      GtidSetReachable sets'

section Run
variable {sets : List GtidSet}

/-- **One step.**  A valid operation on regular sets succeeds and leaves regular sets. -/
theorem GtidSetOp.step_regular {op : GtidSetOp} (h : ∀ s ∈ sets, RegularSet s)
    (hv : op.Valid sets) (rand : Rand) :
    ∃ sets', op.step sets rand = some sets' ∧ ∀ s ∈ sets', RegularSet s := by
  have get : ∀ i < sets.length, ∃ s, sets[i]? = some s ∧ RegularSet s := fun i hi =>
    ⟨sets[i], List.getElem?_eq_getElem hi, h _ (List.getElem_mem hi)⟩
  have assign : ∀ i s', RegularSet s' → ∀ s ∈ sets.set i s', RegularSet s := by
    intro i s' hs' s hs
    rcases List.mem_or_eq_of_mem_set hs with hm | rfl
    · exact h s hm
    · exact hs'
  have append : ∀ s', RegularSet s' → ∀ s ∈ sets ++ [s'], RegularSet s := by
    intro s' hs' s hs
    rcases List.mem_append.mp hs with hm | hm
    · exact h s hm
    · rw [List.mem_singleton] at hm
      exact hm ▸ hs'
  cases op with
  | new => exact ⟨_, rfl, append _ regularSet_new.1⟩
  | add i uuid start «end» =>
    obtain ⟨hi, hs, hse, he⟩ := hv
    obtain ⟨s, hget, hr⟩ := get i hi
    obtain ⟨s', hadd, hr', -⟩ := add_regularSet hr uuid hs hse he rand
    exact ⟨sets.set i s', by simp [step, hget, hadd], assign i s' hr'⟩
  | remove i uuid start «end» =>
    obtain ⟨hi, hs, hse, he⟩ := hv
    obtain ⟨s, hget, hr⟩ := get i hi
    obtain ⟨s', hremove, hr', -⟩ := remove_regularSet hr uuid hs hse rand
    exact ⟨sets.set i s', by simp [step, hget, hremove], assign i s' hr'⟩
  | merge i src =>
    obtain ⟨s, hget, hr⟩ := get i hv.1
    obtain ⟨s', hmerge, hr', -⟩ := merge_regularSet hr hv.2 rand
    exact ⟨sets.set i s', by simp [step, hget, hmerge], assign i s' hr'⟩
  | diff i src =>
    obtain ⟨s, hget, hr⟩ := get i hv.1
    obtain ⟨s', hdiff, hr', -⟩ := diff_regularSet hr hv.2 rand
    exact ⟨sets.set i s', by simp [step, hget, hdiff], assign i s' hr'⟩
  | next i uuid =>
    obtain ⟨s, hget, hmax⟩ := hv
    obtain ⟨s', hnext, hr', -⟩ :=
      next_update_regularSet (h s (List.mem_of_getElem? hget)) uuid hmax rand
    exact ⟨sets.set i s', by simp [step, hget, hnext], assign i s' hr'⟩
  | dup i =>
    obtain ⟨s, hget, hr⟩ := get i hv
    obtain ⟨s', hdup, hr', -⟩ := dup_regularSet hr
    exact ⟨sets ++ [s'], by simp [step, hget, hdup], append s' hr'⟩

theorem GtidSetReachable.regular (h : GtidSetReachable sets) : ∀ s ∈ sets, RegularSet s := by
  induction h with
  | init => simp
  | step op rand _ hv hstep ih =>
    obtain ⟨sets', hstep', hr⟩ := GtidSetOp.step_regular ih hv rand
    rw [hstep] at hstep'
    exact Option.some.inj hstep' ▸ hr

/-- **The sets of every run refine finite sets of gtids.**  The contents are always those
of the set operations, with any regular set as the argument.  The numbers summed over
uuids are exact just when they are at most `LLONG_MAX`, and `gtidSetEqual` is right of any
two regular sets unless they differ and both differences have a multiple of `2 ^ 64`
gtids. -/
theorem reachable_gtidSets_refine (h : GtidSetReachable sets) {s t : GtidSet} (hs : s ∈ sets)
    (hrt : RegularSet t) :
    (keys (entries s)).Nodup ∧
    (∀ uuid start «end» rand, 1 ≤ start → start ≤ «end» → «end» < LLONG_MAX → ∃ s',
      gtidSetAdd s uuid start «end» rand = some (s',
        ((({uuid} : Finset Uuid) ×ˢ Finset.Icc start «end» \ contents s).card : Int)) ∧
      (keys (entries s')).Nodup ∧
      contents s' = contents s ∪ {uuid} ×ˢ Finset.Icc start «end») ∧
    (∀ uuid start «end» rand, 1 ≤ start → start ≤ «end» → «end» < LLONG_MAX → ∃ s' n,
      gtidSetRemove s uuid start «end» rand = some (s', n) ∧ (keys (entries s')).Nodup ∧
      contents s' = contents s \ {uuid} ×ˢ Finset.Icc start «end») ∧
    (∀ rand, ∃ s' n, gtidSetMerge s t rand = some (s', n) ∧ (keys (entries s')).Nodup ∧
      contents s' = contents s ∪ contents t ∧
      (n = ((contents t \ contents s).card : Int) ↔
        ((contents t \ contents s).card : Int) ≤ LLONG_MAX)) ∧
    (∀ rand, ∃ s' n, gtidSetDiff s t rand = some (s', n) ∧ (keys (entries s')).Nodup ∧
      contents s' = contents s \ contents t ∧
      (n = ((contents s ∩ contents t).card : Int) ↔
        ((contents s ∩ contents t).card : Int) ≤ LLONG_MAX)) ∧
    (∀ uuid g, ∃ s', gtidSetContains s uuid g = some (s', decide ((uuid, g) ∈ contents s)) ∧
      contents s' = contents s) ∧
    (gtidSetCount s = ((contents s).card : Int) ↔ ((contents s).card : Int) ≤ LLONG_MAX) ∧
    (∀ uuid rand, ∃ s', gtidSetNext s uuid false rand =
        some (s', maxGno (contents s) uuid + 1) ∧ contents s' = contents s) ∧
    (∀ uuid rand, maxGno (contents s) uuid + 1 < LLONG_MAX → ∃ s',
      gtidSetNext s uuid true rand = some (s', maxGno (contents s) uuid + 1) ∧
      (keys (entries s')).Nodup ∧
      contents s' = contents s ∪ {(uuid, maxGno (contents s) uuid + 1)}) ∧
    (∃ s', gtidSetDup s = some s' ∧ (keys (entries s')).Nodup ∧ contents s' = contents s) ∧
    (∀ a rand, a ∈ sets ∨ RegularSet a → ∃ b, gtidSetEqual a t rand = some b ∧
      ((b = true ↔ contents a = contents t) ↔
        (contents a ≠ contents t → ¬ (2 ^ 64 ∣ (contents a \ contents t).card ∧
          2 ^ 64 ∣ (contents t \ contents a).card)))) := by
  have hr := h.regular s hs
  refine ⟨hr.distinct, ?_, ?_, ?_, ?_, ?_, ?_, ?_, ?_, ?_, ?_⟩
  · intro uuid start «end» rand h₁ h₂ h₃
    obtain ⟨s', hadd, hr', hset⟩ := add_regularSet hr uuid h₁ h₂ h₃ rand
    exact ⟨s', hadd, hr'.distinct, hset⟩
  · intro uuid start «end» rand h₁ h₂ _
    obtain ⟨s', hremove, hr', hset⟩ := remove_regularSet hr uuid h₁ h₂ rand
    exact ⟨s', _, hremove, hr'.distinct, hset⟩
  · intro rand
    obtain ⟨s', hmerge, hr', hset⟩ := merge_regularSet hr hrt rand
    exact ⟨s', _, hmerge, hr'.distinct, hset, llong_natCast_iff _⟩
  · intro rand
    obtain ⟨s', hdiff, hr', hset⟩ := diff_regularSet hr hrt rand
    exact ⟨s', _, hdiff, hr'.distinct, hset, llong_natCast_iff _⟩
  · intro uuid g
    obtain ⟨s', hcontains, -, hset⟩ := contains_regularSet hr uuid g
    exact ⟨s', hcontains, hset⟩
  · rw [hr.count]
    exact llong_natCast_iff _
  · intro uuid rand
    obtain ⟨s', hnext, -, hset⟩ := next_regularSet hr uuid rand
    exact ⟨s', hnext, hset⟩
  · intro uuid rand hmax
    obtain ⟨s', hnext, hr', hset⟩ := next_update_regularSet hr uuid hmax rand
    exact ⟨s', hnext, hr'.distinct, hset⟩
  · obtain ⟨s', hdup, hr', hset⟩ := dup_regularSet hr
    exact ⟨s', hdup, hr'.distinct, hset⟩
  · intro a rand ha
    refine ⟨_, equal_regularSet (ha.elim (h.regular a) id) hrt rand, ?_⟩
    rw [decide_eq_true_eq]
    by_cases he : contents a = contents t
    · simp [he]
    · simp [he]

/-- Adding a range to the first set of a run. -/
theorem GtidSetReachable.add {s : GtidSet} (h : GtidSetReachable (s :: sets)) (uuid : Uuid)
    {start «end» : Int} (hs : 1 ≤ start) (hse : start ≤ «end») (he : «end» < LLONG_MAX) :
    ∃ s', GtidSetReachable (s' :: sets) ∧
      contents s' = contents s ∪ {uuid} ×ˢ Finset.Icc start «end» := by
  obtain ⟨s', hadd, -, hset⟩ := add_regularSet (h.regular s (by simp)) uuid hs hse he (fun _ => 0)
  refine ⟨s', .step (.add 0 uuid start «end») (fun _ => 0) h ⟨by simp, hs, hse, he⟩ ?_, hset⟩
  simp [GtidSetOp.step, hadd]

/-- Merging a set into the first set of a run. -/
theorem GtidSetReachable.merge {s t : GtidSet} (h : GtidSetReachable (s :: sets))
    (ht : RegularSet t) :
    ∃ s', GtidSetReachable (s' :: sets) ∧ contents s' = contents s ∪ contents t := by
  obtain ⟨s', hmerge, -, hset⟩ := merge_regularSet (h.regular s (by simp)) ht (fun _ => 0)
  refine ⟨s', .step (.merge 0 t) (fun _ => 0) h ⟨by simp, ht⟩ ?_, hset⟩
  simp [GtidSetOp.step, hmerge]

/-- The set `A:1-2:5-8` is built, and a set with a record of `B` without gnos is merged into
it and compared with another one. -/
theorem reachable_gtidSets_refine_merged :
    ∃ s t, entries t = [([66], [])] ∧
      contents s = {[65]} ×ˢ Finset.Icc 5 8 ∪ {[65]} ×ˢ Finset.Icc 1 2 ∪ contents t ∧
      (∃ s' n, gtidSetRemove s [65] 2 6 (fun _ => 3) = some (s', n) ∧
        (keys (entries s')).Nodup ∧ contents s' = contents s \ {[65]} ×ˢ Finset.Icc 2 6) ∧
      ∃ b, gtidSetEqual gtidSetNew t (fun _ => 3) = some b ∧
        ((b = true ↔ contents gtidSetNew = contents t) ↔
          (contents gtidSetNew ≠ contents t →
            ¬ (2 ^ 64 ∣ (contents gtidSetNew \ contents t).card ∧
              2 ^ 64 ∣ (contents t \ contents gtidSetNew).card))) := by
  obtain ⟨t, ht, hrt, -⟩ := add_invalid_regularSet regularSet_new.1 [66]
    (show ¬ ((1 : Int) ≤ 0 ∧ (0 : Int) ≤ 0) by decide) (fun _ => 0)
  have hentries : entries t = [([66], [])] := by
    cases ht
    rfl
  have h₀ : GtidSetReachable [gtidSetNew, gtidSetNew] :=
    .step .new (fun _ => 0) (.step .new (fun _ => 0) .init trivial rfl) trivial rfl
  obtain ⟨s₁, h₁, hset₁⟩ := h₀.add [65] (show 1 ≤ 5 by decide) (show 5 ≤ 8 by decide) (by decide)
  obtain ⟨s₂, h₂, hset₂⟩ := h₁.add [65] (le_refl 1) (show 1 ≤ 2 by decide) (by decide)
  obtain ⟨s, h, hset⟩ := h₂.merge hrt
  rw [hset₂, hset₁, contents_new, Finset.empty_union] at hset
  obtain ⟨-, -, hremove, -, -, -, -, -, -, -, hequal⟩ :=
    reachable_gtidSets_refine h List.mem_cons_self hrt
  exact ⟨s, t, hentries, hset, hremove [65] 2 6 _ (by decide) (by decide) (by decide),
    hequal gtidSetNew _ (Or.inl (by simp))⟩

/-- Two sets whose differences have `2 ^ 64` gtids and none are taken for equal: `s` holds
the gtids `1-(LLONG_MAX - 1)` of two uuids and `1-4` of a third. -/
theorem gtidSetEqual_wraps :
    ∃ s, GtidSetReachable [s, gtidSetNew] ∧
      contents s = {[65]} ×ˢ Finset.Icc 1 (LLONG_MAX - 1) ∪
        {[66]} ×ˢ Finset.Icc 1 (LLONG_MAX - 1) ∪ {[67]} ×ˢ Finset.Icc 1 4 ∧
      contents s ≠ contents gtidSetNew ∧
      gtidSetEqual s gtidSetNew (fun _ => 0) = some true := by
  have h₀ : GtidSetReachable [gtidSetNew, gtidSetNew] :=
    .step .new (fun _ => 0) (.step .new (fun _ => 0) .init trivial rfl) trivial rfl
  obtain ⟨s₁, h₁, hset₁⟩ := h₀.add [65] (le_refl 1) (show 1 ≤ LLONG_MAX - 1 by decide) (by decide)
  obtain ⟨s₂, h₂, hset₂⟩ := h₁.add [66] (le_refl 1) (show 1 ≤ LLONG_MAX - 1 by decide) (by decide)
  obtain ⟨s, h, hset⟩ := h₂.add [67] (le_refl 1) (show 1 ≤ 4 by decide) (by decide)
  rw [hset₂, hset₁, contents_new, Finset.empty_union] at hset
  have hcard : (contents s).card = 2 ^ 64 := by
    rw [hset, Finset.card_union_of_disjoint, Finset.card_union_of_disjoint]
    · simp only [Finset.card_product, Finset.card_singleton, Int.card_Icc]
      decide
    all_goals
      rw [Finset.disjoint_left]
      rintro ⟨k, g⟩
      simp
      grind
  have hne : contents s ≠ contents gtidSetNew := by
    intro he
    rw [he, contents_new, Finset.card_empty] at hcard
    exact absurd hcard (by decide)
  refine ⟨s, h, hset, hne, ?_⟩
  rw [equal_regularSet (h.regular s (by simp)) (h.regular gtidSetNew (by simp)), contents_new,
    Finset.sdiff_empty, Finset.empty_sdiff, hcard]
  decide

end Run

end XredisGtid
