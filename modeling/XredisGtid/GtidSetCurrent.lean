import XredisGtid.GtidSetRun
import XredisGtid.GtidSetPointers

/-!
# The current uuid set

`current` points to the record of the server's own uuid, and `curnext`, if it is not
zero, is the gno to hand out next instead of the one after the greatest.  `CurrentSet`
is the invariant of a set whose `current` has been set, and `nextGno` the gno that
`gtidSetCurrentUuidSetNext` returns.
-/
namespace XredisGtid
open Memory KeyedIntervals

/-- A set whose current record is that of the uuid. -/
structure WellFormedCurrent (s : GtidSet) (uuid : Uuid) : Prop extends WellFormedSet s where
  current : ∃ l c, SetRep s l ∧ c ∈ l ∧ s.current = some c.1 ∧ c.2.1 = uuid

/-- A regular set whose current record is that of the uuid. -/
structure CurrentSet (s : GtidSet) (uuid : Uuid) : Prop extends RegularSet s where
  current : ∃ l c, SetRep s l ∧ c ∈ l ∧ s.current = some c.1 ∧ c.2.1 = uuid

/-- The next gno of the current uuid set. -/
noncomputable def nextGno (s : GtidSet) (uuid : Uuid) : Int :=
  if s.curnext = 0 then maxGno (contents s) uuid + 1 else s.curnext

section Current
variable {s s' : GtidSet} {l l' : List (Addr × Entry)} {uuid k : Uuid} {start «end» : Int}

theorem CurrentSet.wellFormed (h : CurrentSet s uuid) : WellFormedCurrent s uuid :=
  ⟨h.toWellFormedSet, h.current⟩

theorem WellFormedCurrent.regular (h : WellFormedCurrent s uuid) (hr : RegularSet s) :
    CurrentSet s uuid := ⟨hr, h.current⟩

/-- A set that represents cells with a known current one. -/
theorem SetRep.wellFormedCurrent (h : SetRep s l) (hw : WellFormedSet s) {c : Addr × Entry}
    (hc : c ∈ l) (hcur : s.current = some c.1) (huuid : c.2.1 = uuid) : WellFormedCurrent s uuid :=
  ⟨hw, l, c, h, hc, hcur, huuid⟩

/-- The current record stays where it is. -/
theorem Keeps.current (hkeep : Keeps l l') (h : SetRep s' l') (hw : WellFormedSet s')
    {c : Addr × Entry} (hc : c ∈ l) (hcur : s'.current = some c.1) (huuid : c.2.1 = uuid) :
    WellFormedCurrent s' uuid := by
  obtain ⟨d, hd, hda, hdu⟩ := hkeep c hc
  exact h.wellFormedCurrent hw hd (hda ▸ hcur) (hdu.trans huuid)

/-- **The update** of the current record appends an empty one if there is none. -/
theorem gtidSetCurrentUuidSetUpdate_wellFormed (h : WellFormedSet s) (uuid : Uuid) :
    ∃ s', gtidSetCurrentUuidSetUpdate s uuid = some s' ∧ WellFormedCurrent s' uuid ∧
      contents s' = contents s ∧ s'.curnext = s.curnext := by
  obtain ⟨l, hrep⟩ := h.rep
  have hes := hrep.entries_eq
  obtain ⟨s₁, p, c, q, hfind, hrep₁, hc, hlook, hupd, -, -, hnext⟩ := findOrAppend_rep hrep uuid
  have hmid : (p ++ c :: q).map Prod.snd = update uuid id (entries s) := by
    rw [hes, ← hupd id, id_eq, ← hc]
  have hrep' : SetRep { s₁ with current := some c.1 } (p ++ c :: q) :=
    ⟨hrep₁.chain, hrep₁.nodup, hrep₁.holds, hrep₁.tail, hrep₁.cached⟩
  obtain ⟨hw', hes'⟩ := hrep'.wellFormed hmid (h.canonical.update (fun _ hc => hc))
  refine ⟨{ s₁ with current := some c.1 }, ?_, hrep'.wellFormedCurrent hw' (by simp) rfl hc, ?_,
    hnext⟩
  · rw [gtidSetCurrentUuidSetUpdate, hfind]
    rfl
  · rw [contents, hes']
    exact pairs_update_id h.canonical

theorem gtidSetCurrentUuidSetUpdate_spec (h : RegularSet s) (uuid : Uuid) :
    ∃ s', gtidSetCurrentUuidSetUpdate s uuid = some s' ∧ CurrentSet s' uuid ∧
      contents s' = contents s ∧ s'.curnext = s.curnext := by
  obtain ⟨s', hupdate, hw', hset, hnext⟩ :=
    gtidSetCurrentUuidSetUpdate_wellFormed h.toWellFormedSet uuid
  exact ⟨s', hupdate, hw'.regular (h.of_contents hw'.toWellFormedSet hset), hset, hnext⟩

/-- **Adding** to any uuid keeps the current record. -/
theorem WellFormedCurrent.add (h : WellFormedCurrent s uuid) (k : Uuid)
    (hfits : IntervalList.FitsNext LLONG_MAX (lookup k (entries s)) (start, «end»)) (hs : 1 ≤ start)
    (hse : start ≤ «end») (he : «end» ≤ LLONG_MAX) (rand : Rand) :
    ∃ s', gtidSetAdd s k start «end» rand =
        some (s', ((({k} : Finset Uuid) ×ˢ Finset.Icc start «end» \ contents s).card : Int)) ∧
      WellFormedCurrent s' uuid ∧ entries s' = KeyedIntervals.add k start «end» (entries s) ∧
      contents s' = contents s ∪ {k} ×ˢ Finset.Icc start «end» ∧ s'.curnext = s.curnext := by
  obtain ⟨l, c, hrep, hc, hcur, huuid⟩ := h.current
  have hes := hrep.entries_eq
  obtain ⟨s₁, hadd₁, hw', hset⟩ := add_wellFormedSet h.toWellFormedSet k hfits hs hse he rand
  obtain ⟨s', l', hadd, hrep', hl', hkeep, hcur', hnext⟩ := gtidSetAdd_fits_rep hrep k
    (by rw [cellKeys, ← hes]; exact h.distinct) (hes ▸ hfits) hs hse he rand
  obtain rfl : s₁ = s' := by
    rw [hadd₁] at hadd
    exact (Prod.mk.inj (Option.some.inj hadd)).1
  exact ⟨s₁, hadd₁, hkeep.current hrep' hw' hc (hcur'.trans hcur) huuid,
    hrep'.entries_eq.trans (hes ▸ hl'), hset, hnext⟩

theorem CurrentSet.add (h : CurrentSet s uuid) (k : Uuid) (hs : 1 ≤ start) (hse : start ≤ «end»)
    (he : «end» < LLONG_MAX) (rand : Rand) :
    ∃ s', gtidSetAdd s k start «end» rand =
        some (s', ((({k} : Finset Uuid) ×ˢ Finset.Icc start «end» \ contents s).card : Int)) ∧
      CurrentSet s' uuid ∧ contents s' = contents s ∪ {k} ×ˢ Finset.Icc start «end» ∧
      s'.curnext = s.curnext := by
  obtain ⟨s₁, hadd₁, hr', hset⟩ := add_regularSet h.toRegularSet k hs hse he rand
  obtain ⟨s', hadd, hw', -, -, hnext⟩ := h.wellFormed.add k (.of_lt (top_lookup_lt h.below) he) hs
    hse he.le rand
  obtain rfl : s₁ = s' := by
    rw [hadd₁] at hadd
    exact (Prod.mk.inj (Option.some.inj hadd)).1
  exact ⟨s₁, hadd₁, hw'.regular hr', hset, hnext⟩

theorem CurrentSet.add_invalid (h : CurrentSet s uuid) (k : Uuid)
    (hinvalid : ¬ (1 ≤ start ∧ start ≤ «end»)) (rand : Rand) :
    ∃ s', gtidSetAdd s k start «end» rand = some (s', 0) ∧ CurrentSet s' uuid ∧
      contents s' = contents s ∧ s'.curnext = s.curnext := by
  obtain ⟨l, c, hrep, hc, hcur, huuid⟩ := h.current
  have hes := hrep.entries_eq
  obtain ⟨s₁, hadd₁, hr', hset⟩ := add_invalid_regularSet h.toRegularSet k hinvalid rand
  obtain ⟨s', l', hadd, hrep', -, hkeep, hcur', hnext⟩ := gtidSetAdd_invalid_rep hrep k
    (by rw [cellKeys, ← hes]; exact h.distinct) hinvalid rand
  obtain rfl : s₁ = s' := by
    rw [hadd₁] at hadd
    exact (Prod.mk.inj (Option.some.inj hadd)).1
  exact ⟨s₁, hadd, (hkeep.current hrep' hr'.toWellFormedSet hc (hcur'.trans hcur) huuid).regular hr',
    hset, hnext⟩

/-- **Removing** may drop the current record, but keeps the saved next gno. -/
theorem gtidSetRemove_curnext (h : RegularSet s) (k : Uuid) (hs : 1 ≤ start) (hse : start ≤ «end»)
    (rand : Rand) :
    ∃ s' n, gtidSetRemove s k start «end» rand = some (s', n) ∧ RegularSet s' ∧
      contents s' = contents s \ {k} ×ˢ Finset.Icc start «end» ∧ s'.curnext = s.curnext := by
  obtain ⟨l, hrep⟩ := h.rep
  obtain ⟨s₁, hremove₁, hr', hset⟩ := remove_regularSet h k hs hse rand
  obtain ⟨s', l', hremove, -, -, hnext⟩ := gtidSetRemove_rep hrep k hs hse rand
  obtain rfl : s₁ = s' := by
    rw [hremove₁] at hremove
    exact (Prod.mk.inj (Option.some.inj hremove)).1
  exact ⟨s₁, _, hremove₁, hr', hset, hnext⟩

/-- **Contains** answers membership and keeps the current record. -/
theorem WellFormedCurrent.contains (h : WellFormedCurrent s uuid) (k : Uuid) (g : Int) :
    ∃ s', gtidSetContains s k g = some (s', decide ((k, g) ∈ contents s)) ∧
      WellFormedCurrent s' uuid ∧ entries s' = entries s ∧ s'.curnext = s.curnext := by
  obtain ⟨l, c, hrep, hc, hcur, huuid⟩ := h.current
  obtain ⟨s₁, hcontains₁, hw', hes⟩ := contains_wellFormedSet h.toWellFormedSet k g
  obtain ⟨s', hcontains, hrep', hcur', hnext⟩ := gtidSetContains_rep hrep k g
  obtain rfl : s₁ = s' := by
    rw [hcontains₁] at hcontains
    exact (Prod.mk.inj (Option.some.inj hcontains)).1
  exact ⟨s₁, hcontains₁, hrep'.wellFormedCurrent hw' hc (hcur'.trans hcur) huuid, hes, hnext⟩

/-- The record of the current uuid holds its gnos. -/
theorem WellFormedCurrent.record (h : WellFormedCurrent s uuid) :
    ∃ p c q u, SetRep s (p ++ c :: q) ∧ s.current = some c.1 ∧ c.2.1 = uuid ∧
      s.uuidSetCells.get c.1 = some u ∧ u.uuid = c.2.1 ∧ WF u.intervals ∧
      intervals u.intervals = c.2.2 ∧ lookup uuid (entries s) = c.2.2 ∧
      ∀ f, (p ++ (c.1, (uuid, f c.2.2)) :: q).map Prod.snd = update uuid f (entries s) := by
  obtain ⟨l, c, hrep, hc, hcur, huuid⟩ := h.current
  obtain ⟨p, q, rfl⟩ := List.append_of_mem hc
  obtain ⟨u, hu, huu, hwf, hint, -⟩ := hrep.get
  have hes : entries s = p.map Prod.snd ++ c.2 :: q.map Prod.snd := by
    rw [hrep.entries_eq, List.map_append, List.map_cons]
  have hkey : uuid ∉ keys (p.map Prod.snd) := by
    have hd := h.distinct
    rw [hes, keys_append, keys_cons, List.nodup_append] at hd
    exact fun hmem => hd.2.2 uuid hmem c.2.1 (by simp) huuid.symm
  refine ⟨p, c, q, u, hrep, hcur, huuid, hu, huu, hwf, hint, ?_, fun f => ?_⟩
  · rw [hes, lookup_append_cons hkey huuid]
  · rw [hes, update_append_cons hkey huuid, List.map_append, List.map_cons]

/-- A diff frees the current record just when it takes every gno of its uuid. -/
theorem CurrentSet.emptiesCurrent_iff (h : CurrentSet s uuid) {src : GtidSet}
    (hsrc : RegularSet src) :
    EmptiesCurrent s src ↔ ∀ g, (uuid, g) ∈ contents s → (uuid, g) ∈ contents src := by
  obtain ⟨p, c, q, u, hrep, hcur, huuid, hu, huu, hwf, hint, hlook, -⟩ := h.wellFormed.record
  obtain ⟨m, hm⟩ := hsrc.rep
  have hempties : EmptiesCurrent s src ↔ EmptiesRecord src u := by
    constructor
    · rintro ⟨a, v, ha, hv, he⟩
      obtain rfl : c.1 = a := Option.some.inj (hcur.symm.trans ha)
      obtain rfl : u = v := Option.some.inj (hu.symm.trans hv)
      exact he
    · exact fun he => ⟨c.1, u, hcur, hu, he⟩
  have hlist : EmptiesRecord src u ↔
      IntervalList.diff (lookup uuid (entries s)) (lookup uuid (entries src)) = [] := by
    have hdiff := fun rand => diffRecord_rep hm hwf rand
    rw [huu, huuid, ← hm.entries_eq, hint, ← hlook] at hdiff
    constructor
    · rintro ⟨rand, v, n, hrun, hcount⟩
      obtain ⟨gsl', hrun', hwf', hint'⟩ := hdiff rand
      rw [hrun] at hrun'
      cases hrun'
      rwa [uuidSetCount, hwf'.gnoCount, IntervalList.size_eq_zero hwf'.canonical, hint'] at hcount
    · intro hnil
      obtain ⟨gsl', hrun', hwf', hint'⟩ := hdiff (fun _ => 0)
      refine ⟨fun _ => 0, _, _, hrun', ?_⟩
      rw [uuidSetCount, hwf'.gnoCount, IntervalList.size_eq_zero hwf'.canonical, hint', hnil]
  have hcanonical := h.canonical.lookup uuid
  have hcanonical' := hsrc.canonical.lookup uuid
  rw [hempties, hlist, ← IntervalList.points_eq_empty (hcanonical.diff hcanonical'.nonempty),
    IntervalList.points_diff hcanonical'.nonempty, Finset.sdiff_eq_empty_iff_subset]
  constructor
  · intro hsub g hg
    exact hsrc.mem_contents.mpr (hsub (h.mem_contents.mp hg))
  · intro hsub g hg
    exact hsrc.mem_contents.mp (hsub g (h.mem_contents.mpr hg))

/-- **Reading the next gno**, the one after the greatest as a `long long`. -/
theorem gtidSetCurrentUuidSetNext_wellFormed (h : WellFormedCurrent s uuid) (rand : Rand) :
    ∃ s', gtidSetCurrentUuidSetNext s false rand =
        some (s', if s.curnext = 0 then llong (maxGno (contents s) uuid + 1) else s.curnext) ∧
      WellFormedCurrent s' uuid ∧ entries s' = entries s ∧ s'.curnext = s.curnext := by
  obtain ⟨p, c, q, u, hrep, hcur, huuid, hu, huu, hwf, hint, hlook, -⟩ := h.record
  by_cases hzero : s.curnext = 0
  · have hrep' : SetRep { s with
        cached := s.current, uuidSetCells := s.uuidSetCells.set c.1 u } (p ++ c :: q) :=
      hrep.assign (e := c.2) hu rfl huu hwf hint (hcur ▸ mem_fst_middle)
    obtain ⟨hw', hes'⟩ := hrep'.wellFormed hrep.entries_eq.symm h.canonical
    refine ⟨_, ?_, hrep'.wellFormedCurrent hw' (by simp) hcur huuid, hes', rfl⟩
    simp only [gtidSetCurrentUuidSetNext, hzero, if_true, hcur, hu, uuidSetNext,
      gtidIntervalSkipListNext_spec hwf, Option.bind_eq_bind, Option.bind_some, h.maxGno_eq, hlook,
      hint]
  · have hrep' : SetRep { s with cached := s.current } (p ++ c :: q) :=
      ⟨hrep.chain, hrep.nodup, hrep.holds, hrep.tail, hcur ▸ mem_fst_middle⟩
    obtain ⟨hw', hes'⟩ := hrep'.wellFormed hrep.entries_eq.symm h.canonical
    refine ⟨_, ?_, hrep'.wellFormedCurrent hw' (by simp) hcur huuid, hes', rfl⟩
    simp [gtidSetCurrentUuidSetNext, hzero]

/-- The next gno, added to the record of the current uuid. -/
theorem CurrentSet.insert (h : CurrentSet s uuid) {g : Int} (hg : 1 ≤ g) (hmax : g < LLONG_MAX)
    (rand : Rand) :
    ∃ a u gsl n, s.current = some a ∧ s.uuidSetCells.get a = some u ∧ WF u.intervals ∧
      IntervalList.top (intervals u.intervals) = maxGno (contents s) uuid ∧
      gtidIntervalSkipListAdd u.intervals g g rand = some (gsl, n) ∧
      ∀ s' : GtidSet, s' = { s with
          curnext := 0, cached := s.current
          uuidSetCells := s.uuidSetCells.set a { u with intervals := gsl } } →
        CurrentSet s' uuid ∧ contents s' = contents s ∪ {(uuid, g)} := by
  obtain ⟨p, c, q, u, hrep, hcur, huuid, hu, huu, hwf, hint, hlook, hupd⟩ := h.wellFormed.record
  have hbelow : Below (intervals u.intervals) := by
    rw [hint, ← hlook]
    exact below_lookup h.below
  obtain ⟨gsl, hadd, hwf', hint'⟩ := gtidIntervalSkipListAdd_spec hwf hbelow hg (le_refl g) hmax
    rand
  refine ⟨c.1, u, gsl, _, hcur, hu, hwf, by rw [hint, ← hlook, h.maxGno_eq], hadd, ?_⟩
  rintro s' rfl
  have hassign := hrep.assign (e := (uuid, IntervalList.insert g g c.2.2)) hu
    (v := { u with intervals := gsl }) rfl (huu.trans huuid) hwf' (by rw [hint', hint])
    (hcur ▸ mem_fst_middle)
  have hrep' : SetRep { s with
      curnext := 0, cached := s.current
      uuidSetCells := s.uuidSetCells.set c.1 { u with intervals := gsl } }
      (p ++ (c.1, (uuid, IntervalList.insert g g c.2.2)) :: q) :=
    ⟨hassign.chain, hassign.nodup, hassign.holds, hassign.tail, hassign.cached⟩
  obtain ⟨hr', hes'⟩ := hrep'.regular (hupd _) (h.canonical.add (le_refl g))
    (h.below.update (fun _ hb => hb.insert hmax))
  have hw' := hrep'.wellFormedCurrent hr'.toWellFormedSet
    (c := (c.1, (uuid, IntervalList.insert g g c.2.2))) (by simp) hcur rfl
  refine ⟨hw'.regular hr', ?_⟩
  rw [contents, hes']
  show pairs (KeyedIntervals.add uuid g g (entries s)) = _
  rw [pairs_add h.canonical (le_refl g), Finset.Icc_self, Finset.singleton_product_singleton]
  rfl

/-- **Allocating the next gno** adds it and clears the saved one. -/
theorem gtidSetCurrentUuidSetNext_update (h : CurrentSet s uuid) (hn : 0 ≤ s.curnext)
    (hmax : nextGno s uuid < LLONG_MAX) (rand : Rand) :
    ∃ s', gtidSetCurrentUuidSetNext s true rand = some (s', nextGno s uuid) ∧
      CurrentSet s' uuid ∧ contents s' = contents s ∪ {(uuid, nextGno s uuid)} ∧
      s'.curnext = 0 := by
  have hbound := h.maxGno_bounds uuid
  have hpos : 1 ≤ nextGno s uuid := by
    rw [nextGno]
    split <;> omega
  obtain ⟨a, u, gsl, n, hcur, hu, hwf, htop, hadd, hafter⟩ := h.insert hpos hmax rand
  obtain ⟨hset, hcontents⟩ := hafter _ rfl
  refine ⟨_, ?_, hset, hcontents, rfl⟩
  by_cases hzero : s.curnext = 0
  · rw [nextGno, if_pos hzero] at hadd ⊢
    obtain ⟨cells, hr⟩ := hwf
    obtain ⟨t, ht, hte⟩ := hr.toShape.get_tail
    rw [← hr.toShape.intervals_eq, htop] at hte
    have hnext : llong (t.end + 1) = maxGno (contents s) uuid + 1 := by
      rw [hte]
      exact llong_succ hbound.1 hbound.2
    simp [gtidSetCurrentUuidSetNext, hzero, hcur, hu, uuidSetNext, gtidIntervalSkipListNext, ht,
      hnext, hadd]
  · rw [nextGno, if_neg hzero] at hadd hpos ⊢
    have hvalid := gtidIntervalIsValid_iff.mpr ⟨hpos, le_refl s.curnext⟩
    simp [gtidSetCurrentUuidSetNext, hzero, hcur, hu, uuidSetAdd, hvalid, hadd]

/-- Whatever becomes of the set, the gno allocated is the next one. -/
theorem gtidSetCurrentUuidSetNext_eq (h : CurrentSet s uuid) {rand : Rand} {g : Int}
    (hrun : gtidSetCurrentUuidSetNext s true rand = some (s', g)) : g = nextGno s uuid := by
  obtain ⟨p, c, q, u, -, hcur, -, hu, -, hwf, hint, hlook, -⟩ := h.wellFormed.record
  have hbound := h.maxGno_bounds uuid
  by_cases hzero : s.curnext = 0
  · obtain ⟨cells, hr⟩ := hwf
    obtain ⟨t, ht, hte⟩ := hr.toShape.get_tail
    rw [← hr.toShape.intervals_eq, hint, ← hlook, ← h.maxGno_eq] at hte
    have hnext : llong (t.end + 1) = maxGno (contents s) uuid + 1 := by
      rw [hte]
      exact llong_succ hbound.1 hbound.2
    rw [nextGno, if_pos hzero]
    simp only [gtidSetCurrentUuidSetNext, hzero, if_true, hcur, hu, uuidSetNext,
      gtidIntervalSkipListNext, ht, hnext, Option.bind_eq_bind, Option.bind_some] at hrun
    cases hadd : gtidIntervalSkipListAdd u.intervals (maxGno (contents s) uuid + 1)
        (maxGno (contents s) uuid + 1) rand with
    | none => simp [hadd] at hrun
    | some r =>
      simp only [hadd, Option.bind_some, Option.some.injEq, Prod.mk.injEq] at hrun
      exact hrun.2.symm
  · rw [nextGno, if_neg hzero]
    simp only [gtidSetCurrentUuidSetNext, hzero, if_false, if_true, hcur, hu, Option.bind_eq_bind,
      Option.bind_some] at hrun
    cases hadd : uuidSetAdd u s.curnext s.curnext rand with
    | none => simp [hadd] at hrun
    | some r =>
      simp only [hadd, Option.bind_some, Option.some.injEq, Prod.mk.injEq] at hrun
      exact hrun.2.symm

/-- **Saving a next gno** asserts that it is not below the one after the greatest. -/
theorem gtidSetCurrentUuidSetSetNextGno_eq (h : WellFormedCurrent s uuid) (g : Int) (rand : Rand) :
    gtidSetCurrentUuidSetSetNextGno s g rand =
      if llong (maxGno (contents s) uuid + 1) ≤ g then
        some { s with curnext := g, cached := s.current } else none := by
  obtain ⟨p, c, q, u, -, hcur, -, hu, -, hwf, hint, hlook, -⟩ := h.record
  simp only [gtidSetCurrentUuidSetSetNextGno, hcur, hu, uuidSetNext,
    gtidIntervalSkipListNext_spec hwf, Option.bind_eq_bind, Option.bind_some, guard, h.maxGno_eq,
    hlook, hint]
  split <;> rfl

theorem WellFormedCurrent.saved (h : WellFormedCurrent s uuid) (g : Int) :
    WellFormedCurrent { s with curnext := g, cached := s.current } uuid ∧
      entries { s with curnext := g, cached := s.current } = entries s := by
  obtain ⟨p, c, q, u, hrep, hcur, huuid, -⟩ := h.record
  have hrep' : SetRep { s with curnext := g, cached := s.current } (p ++ c :: q) :=
    ⟨hrep.chain, hrep.nodup, hrep.holds, hrep.tail, hcur ▸ mem_fst_middle⟩
  obtain ⟨hw', hes'⟩ := hrep'.wellFormed hrep.entries_eq.symm h.canonical
  exact ⟨hrep'.wellFormedCurrent hw' (by simp) hcur huuid, hes'⟩

end Current

end XredisGtid
