import XredisGtid.Server
import XredisGtid.GtidSetCurrent

/-!
# Allocation of gnos

The next gno of a server is the one after its greatest executed gno, or a saved one.
`Fresh` says that a saved gno has not been executed and is above all lost ones, and
that without one no lost gno is above the executed ones; then the next gno is neither
executed nor lost.

The saved gno is refreshed when the lost set grows.  It is not when the executed set
changes under it, so not every step keeps `Fresh`: `SparesNext` are those that do.

`Holding` is the invariant of the two sets, with all gnos below `LLONG_MAX`.  The functions
need no more than `WellFormedHolding`, which has no such bound, and say where it matters.
-/
namespace XredisGtid
open Memory KeyedIntervals

section MaxGno
variable {S T : Finset (Uuid × Int)} {uuid : Uuid} {g n : Int}

theorem le_maxGno (h : (uuid, g) ∈ S) : g ≤ maxGno S uuid := by
  rw [maxGno, IntervalList.maxD]
  have hmem : g ∈ (S.filter (fun x => x.1 = uuid)).image Prod.snd :=
    Finset.mem_image.mpr ⟨(uuid, g), Finset.mem_filter.mpr ⟨h, rfl⟩, rfl⟩
  obtain ⟨m, hm⟩ := Finset.max_of_mem hmem
  rw [hm]
  exact Finset.le_max_of_eq hmem hm

theorem maxGno_le (hn : 0 ≤ n) (h : ∀ g, (uuid, g) ∈ S → g ≤ n) : maxGno S uuid ≤ n := by
  rw [maxGno, IntervalList.maxD]
  cases hm : ((S.filter (fun x => x.1 = uuid)).image Prod.snd).max with
  | bot => exact hn
  | coe m =>
    obtain ⟨⟨k, g⟩, hmem, rfl⟩ := Finset.mem_image.mp (Finset.mem_of_max hm)
    obtain ⟨hmem, hk⟩ := Finset.mem_filter.mp hmem
    have hk : k = uuid := hk
    exact h g (hk ▸ hmem)

theorem maxGno_mono (h : S ⊆ T) (hT : 0 ≤ maxGno T uuid) : maxGno S uuid ≤ maxGno T uuid :=
  maxGno_le hT (fun _ hg => le_maxGno (h hg))


end MaxGno

/-! ## The next gno, on sets of gtids -/

/-- The gno after the greatest one executed, unless one has been saved. -/
noncomputable def nextOf (E : Finset (Uuid × Int)) (saved : Int) (uuid : Uuid) : Int :=
  if saved = 0 then maxGno E uuid + 1 else saved

structure Fresh (E L : Finset (Uuid × Int)) (saved : Int) (uuid : Uuid) : Prop where
  of_saved : saved ≠ 0 → (uuid, saved) ∉ E ∧ maxGno L uuid < saved
  of_unsaved : saved = 0 → maxGno L uuid ≤ maxGno E uuid

section Fresh
variable {E E' L L' : Finset (Uuid × Int)} {saved : Int} {uuid : Uuid}

/-- **The next gno is neither executed nor lost.** -/
theorem Fresh.next_notMem (h : Fresh E L saved uuid) :
    (uuid, nextOf E saved uuid) ∉ E ∧ (uuid, nextOf E saved uuid) ∉ L := by
  rw [nextOf]
  by_cases hs : saved = 0
  · have hle := h.of_unsaved hs
    rw [if_pos hs]
    constructor
    · intro hmem
      have := le_maxGno hmem
      omega
    · intro hmem
      have := le_maxGno hmem
      omega
  · obtain ⟨hE, hL⟩ := h.of_saved hs
    rw [if_neg hs]
    refine ⟨hE, fun hmem => ?_⟩
    have := le_maxGno hmem
    omega

/-- The executed gnos may grow, but not by the saved one, and the lost ones may shrink. -/
theorem Fresh.mono (h : Fresh E L saved uuid) (hE : maxGno E uuid ≤ maxGno E' uuid)
    (hsaved : saved ≠ 0 → (uuid, saved) ∉ E') (hL : maxGno L' uuid ≤ maxGno L uuid) :
    Fresh E' L' saved uuid :=
  ⟨fun hs => ⟨hsaved hs, lt_of_le_of_lt hL (h.of_saved hs).2⟩,
    fun hs => le_trans hL (le_trans (h.of_unsaved hs) hE)⟩

/-- With a saved gno the executed ones may also shrink. -/
theorem Fresh.shrink (h : Fresh E L saved uuid) (hE : E' ⊆ E)
    (hmax : saved = 0 → maxGno L uuid ≤ maxGno E' uuid) : Fresh E' L saved uuid :=
  ⟨fun hs => ⟨fun hmem => (h.of_saved hs).1 (hE hmem), (h.of_saved hs).2⟩, hmax⟩

/-- Executing the next gno. -/
theorem Fresh.allocate (h : Fresh E L saved uuid) (hE : E ∪ {(uuid, nextOf E saved uuid)} ⊆ E') :
    Fresh E' L 0 uuid := by
  refine ⟨fun hs => absurd rfl hs, fun _ => ?_⟩
  have hnext : nextOf E saved uuid ≤ maxGno E' uuid := le_maxGno (hE (by simp))
  rw [nextOf] at hnext
  split at hnext
  · next hs =>
    have := h.of_unsaved hs
    omega
  · next hs =>
    have := (h.of_saved hs).2
    omega

/-- Saving the gno after the greatest one lost, if the next one is not above it. -/
theorem fresh_refresh (hsaved : saved ≠ 0 → (uuid, saved) ∉ E) (hL : 0 ≤ maxGno L uuid)
    (hassert : nextOf E saved uuid < maxGno L uuid + 1 → maxGno E uuid ≤ maxGno L uuid) :
    Fresh E L (if nextOf E saved uuid < maxGno L uuid + 1 then maxGno L uuid + 1 else saved)
      uuid := by
  by_cases hlt : nextOf E saved uuid < maxGno L uuid + 1
  · have hle := hassert hlt
    rw [if_pos hlt]
    refine ⟨fun _ => ⟨fun hmem => ?_, by omega⟩, fun hs => by omega⟩
    have := le_maxGno hmem
    omega
  · rw [if_neg hlt]
    rw [nextOf] at hlt
    refine ⟨fun hs => ⟨hsaved hs, ?_⟩, fun hs => ?_⟩
    · rw [if_neg hs] at hlt
      omega
    · rw [if_pos hs] at hlt
      omega

end Fresh

/-! ## The functions -/

structure SetsInvariant (s : ServerSets) : Prop where
  executed : CurrentSet s.gtidExecuted s.uuid
  lost : RegularSet s.gtidLost
  saved : 0 ≤ s.gtidExecuted.curnext

/-- A state whose sets are `E` and `L`. -/
structure Holding (s : ServerSets) (uuid : Uuid) (E L : Finset (Uuid × Int)) : Prop extends
    SetsInvariant s where
  uuid : s.uuid = uuid
  executed_eq : contents s.gtidExecuted = E
  lost_eq : contents s.gtidLost = L

/-- Without the invariant's bound on the gnos: any set that a server can have. -/
structure WellFormedHolding (s : ServerSets) (uuid : Uuid) (E L : Finset (Uuid × Int)) : Prop where
  executed : WellFormedCurrent s.gtidExecuted s.uuid
  lost : WellFormedSet s.gtidLost
  saved : 0 ≤ s.gtidExecuted.curnext
  uuid : s.uuid = uuid
  executed_eq : contents s.gtidExecuted = E
  lost_eq : contents s.gtidLost = L

/-- The lost gnos can be merged into the executed ones without a comparison with `LLONG_MAX + 1`. -/
def MergeFits (s : ServerSets) : Prop :=
  FitsInto LLONG_MAX (entries s.gtidExecuted) (entries s.gtidLost)

instance (s : ServerSets) : Decidable (MergeFits s) := inferInstanceAs (Decidable (FitsInto _ _ _))

def SetsFresh (s : ServerSets) : Prop :=
  Fresh (contents s.gtidExecuted) (contents s.gtidLost) s.gtidExecuted.curnext s.uuid

section Functions
variable {s s' : ServerSets} {t : GtidSet} {uuid k : Uuid} {start «end» g : Int}
  {E L : Finset (Uuid × Int)} {rand : Rand}

theorem nextGno_eq (s : GtidSet) (uuid : Uuid) :
    nextGno s uuid = nextOf (contents s) s.curnext uuid := rfl

theorem Holding.wellFormed (h : Holding s uuid E L) : WellFormedHolding s uuid E L :=
  ⟨h.executed.wellFormed, h.lost.toWellFormedSet, h.saved, h.uuid, h.executed_eq, h.lost_eq⟩

theorem Holding.lt_max (h : Holding s uuid E L) : ∀ x ∈ E ∪ L, x.2 < LLONG_MAX := by
  rintro ⟨k, g⟩ hx
  rcases Finset.mem_union.mp hx with hx | hx
  · exact h.executed.lt_max (h.executed_eq ▸ hx)
  · exact h.lost.lt_max (h.lost_eq ▸ hx)

theorem Holding.mergeFits (h : Holding s uuid E L) : MergeFits s :=
  h.executed.below.fitsInto h.lost.below

/-- Below `LLONG_MAX` the invariant holds. -/
theorem WellFormedHolding.holding (h : WellFormedHolding s uuid E L)
    (hmax : ∀ x ∈ E ∪ L, x.2 < LLONG_MAX) : Holding s uuid E L := by
  have hE : RegularSet s.gtidExecuted := h.executed.toWellFormedSet.regular
    (fun x hx => hmax x (Finset.mem_union_left _ (h.executed_eq ▸ hx)))
  have hL : RegularSet s.gtidLost :=
    h.lost.regular (fun x hx => hmax x (Finset.mem_union_right _ (h.lost_eq ▸ hx)))
  exact ⟨⟨h.executed.regular hE, hL, h.saved⟩, h.uuid, h.executed_eq, h.lost_eq⟩

theorem WellFormedHolding.gno_bounds (h : WellFormedHolding s uuid E L) :
    ∀ x ∈ E ∪ L, 1 ≤ x.2 ∧ x.2 ≤ LLONG_MAX := by
  rintro ⟨k, g⟩ hx
  rcases Finset.mem_union.mp hx with hx | hx
  · exact h.executed.gno_bounds (h.executed_eq ▸ hx)
  · exact h.lost.gno_bounds (h.lost_eq ▸ hx)

/-- What the update of the next gno asserts when it saves one. -/
def UpdateAsserts (E L : Finset (Uuid × Int)) (saved : Int) (uuid : Uuid) : Prop :=
  nextOf E saved uuid < maxGno L uuid + 1 → maxGno E uuid ≤ maxGno L uuid

theorem updateAsserts_of_le {saved : Int} (h : saved ≠ 0 → maxGno E uuid ≤ saved) :
    UpdateAsserts E L saved uuid := by
  intro hlt
  rw [nextOf] at hlt
  by_cases hs : saved = 0
  · rw [if_pos hs] at hlt
    omega
  · have := h hs
    rw [if_neg hs] at hlt
    omega

/-- The next gno that is read; beyond `LLONG_MAX` it wraps around. -/
noncomputable def readNext (E : Finset (Uuid × Int)) (saved : Int) (uuid : Uuid) : Int :=
  if saved = 0 then llong (maxGno E uuid + 1) else saved

theorem readNext_eq {saved : Int} (h₁ : 0 ≤ maxGno E uuid) (h₂ : maxGno E uuid < LLONG_MAX) :
    readNext E saved uuid = nextOf E saved uuid := by
  rw [readNext, nextOf, llong_succ h₁ h₂]

/-- **The update of the next gno** changes only the saved gno. -/
theorem updateNextGno_wellFormed (h : WellFormedHolding s uuid E L)
    (hassert : readNext E s.gtidExecuted.curnext uuid < llong (maxGno L uuid + 1) →
      llong (maxGno E uuid + 1) ≤ llong (maxGno L uuid + 1)) (rand : Rand) :
    ∃ s', serverGtidSetCurrrentUuidSetUpdateNextGno s rand = some s' ∧
      WellFormedHolding s' uuid E L ∧
      s'.gtidExecuted.curnext =
        if readNext E s.gtidExecuted.curnext uuid < llong (maxGno L uuid + 1) then
          llong (maxGno L uuid + 1)
        else s.gtidExecuted.curnext := by
  obtain ⟨hE, hL, hsaved, rfl, rfl, rfl⟩ := h
  obtain ⟨e, hread, hE', hes, hecur⟩ := gtidSetCurrentUuidSetNext_wellFormed hE (rand.sub 0)
  obtain ⟨l, hnext, hL', hels⟩ := next_wellFormedSet hL s.uuid (rand.sub 1)
  have heset : contents e = contents s.gtidExecuted := congrArg pairs hes
  have hlset : contents l = contents s.gtidLost := congrArg pairs hels
  have hlow := (llong_range (maxGno (contents s.gtidExecuted) s.uuid + 1)).1
  have hmax := hL.maxGno_nonneg s.uuid
  rw [← readNext] at hread
  simp only [serverGtidSetCurrrentUuidSetUpdateNextGno, hread, hnext, Option.bind_eq_bind,
    Option.bind_some, gtidSetCurrentUuidSetSetNextGno_eq hE', heset]
  by_cases hlt : readNext (contents s.gtidExecuted) s.gtidExecuted.curnext s.uuid <
      llong (maxGno (contents s.gtidLost) s.uuid + 1)
  · obtain ⟨hsave, hsset⟩ := hE'.saved (llong (maxGno (contents s.gtidLost) s.uuid + 1))
    rw [if_pos hlt, if_pos hlt, if_pos (hassert hlt)]
    refine ⟨_, rfl, ⟨hsave, hL', ?_, rfl, (congrArg pairs hsset).trans heset, hlset⟩, rfl⟩
    -- what is saved has not wrapped around
    dsimp only
    have hne : maxGno (contents s.gtidLost) s.uuid ≠ LLONG_MAX := by
      intro heq
      rw [heq, llong_max_add_one, readNext] at hlt
      split at hlt
      · omega
      · unfold LLONG_MIN at hlt
        omega
    have hle := hL.maxGno_le s.uuid
    rw [llong_succ hmax (by omega)]
    omega
  · rw [if_neg hlt, if_neg hlt]
    exact ⟨_, rfl, ⟨hE', hL', hecur ▸ hsaved, rfl, heset, hlset⟩, hecur⟩

theorem updateNextGno_spec (h : Holding s uuid E L)
    (hassert : UpdateAsserts E L s.gtidExecuted.curnext uuid) (rand : Rand) :
    ∃ s', serverGtidSetCurrrentUuidSetUpdateNextGno s rand = some s' ∧ Holding s' uuid E L ∧
      s'.gtidExecuted.curnext =
        if nextOf E s.gtidExecuted.curnext uuid < maxGno L uuid + 1 then maxGno L uuid + 1
        else s.gtidExecuted.curnext := by
  have hE := h.executed_eq ▸ h.executed.maxGno_bounds uuid
  have hL := h.lost_eq ▸ h.lost.maxGno_bounds uuid
  have hassert' : readNext E s.gtidExecuted.curnext uuid < llong (maxGno L uuid + 1) →
      llong (maxGno E uuid + 1) ≤ llong (maxGno L uuid + 1) := by
    rw [readNext_eq hE.1 hE.2, llong_succ hL.1 hL.2, llong_succ hE.1 hE.2]
    intro hlt
    have := hassert hlt
    omega
  obtain ⟨s', hrun, hold, hcur⟩ := updateNextGno_wellFormed h.wellFormed hassert' rand
  rw [readNext_eq hE.1 hE.2, llong_succ hL.1 hL.2] at hcur
  exact ⟨s', hrun, hold.holding h.lt_max, hcur⟩

theorem updateNextGno_none (h : Holding s uuid E L)
    (hassert : ¬ UpdateAsserts E L s.gtidExecuted.curnext uuid) (rand : Rand) :
    serverGtidSetCurrrentUuidSetUpdateNextGno s rand = none := by
  have hEmax := h.executed_eq ▸ h.executed.maxGno_bounds uuid
  have hLmax := h.lost_eq ▸ h.lost.maxGno_bounds uuid
  obtain ⟨⟨hE, hL, hsaved⟩, rfl, rfl, rfl⟩ := h
  obtain ⟨e, hread, hE', hes, -⟩ := gtidSetCurrentUuidSetNext_wellFormed hE.wellFormed (rand.sub 0)
  obtain ⟨l, hnext, -⟩ := next_wellFormedSet hL.toWellFormedSet s.uuid (rand.sub 1)
  have heset : contents e = contents s.gtidExecuted := congrArg pairs hes
  rw [UpdateAsserts, Classical.not_imp] at hassert
  rw [← readNext, readNext_eq hEmax.1 hEmax.2] at hread
  rw [llong_succ hLmax.1 hLmax.2] at hnext
  simp only [serverGtidSetCurrrentUuidSetUpdateNextGno, hread, hnext, Option.bind_eq_bind,
    Option.bind_some, gtidSetCurrentUuidSetSetNextGno_eq hE', heset]
  rw [if_pos hassert.1, llong_succ hEmax.1 hEmax.2, if_neg (by omega), Option.bind_none]

/-- If the update returns, it has not failed its assertion. -/
theorem updateNextGno_some (h : Holding s uuid E L)
    (hrun : serverGtidSetCurrrentUuidSetUpdateNextGno s rand = some s') :
    UpdateAsserts E L s.gtidExecuted.curnext uuid ∧ Holding s' uuid E L ∧
      s'.gtidExecuted.curnext =
        if nextOf E s.gtidExecuted.curnext uuid < maxGno L uuid + 1 then maxGno L uuid + 1
        else s.gtidExecuted.curnext := by
  have hassert : UpdateAsserts E L s.gtidExecuted.curnext uuid := by
    apply Classical.byContradiction
    intro hn
    rw [updateNextGno_none h hn] at hrun
    cases hrun
  obtain ⟨s₁, hrun₁, hold, hcur⟩ := updateNextGno_spec h hassert rand
  obtain rfl : s₁ = s' := Option.some.inj (hrun₁.symm.trans hrun)
  exact ⟨hassert, hold, hcur⟩

/-- It leaves the next gno fresh, if the saved one is not executed. -/
theorem updateNextGno_fresh (h : Holding s uuid E L)
    (hsaved : s.gtidExecuted.curnext ≠ 0 → (uuid, s.gtidExecuted.curnext) ∉ E)
    (hrun : serverGtidSetCurrrentUuidSetUpdateNextGno s rand = some s') :
    Holding s' uuid E L ∧ SetsFresh s' := by
  obtain ⟨hassert, hold, hcur⟩ := updateNextGno_some h hrun
  have hmax := (h.lost_eq ▸ h.lost.maxGno_bounds uuid).1
  refine ⟨hold, ?_⟩
  rw [SetsFresh, hold.uuid, hold.executed_eq, hold.lost_eq, hcur]
  exact fresh_refresh hsaved hmax hassert

/-- The search in both sets; the lost set is searched only for what is not executed. -/
theorem serverGtidSetContains_wellFormed (h : WellFormedHolding s uuid E L) (k : Uuid) (g : Int) :
    ∃ s', serverGtidSetContains s k g = some (s', decide ((k, g) ∈ E ∪ L)) ∧
      WellFormedHolding s' uuid E L ∧ s'.gtidExecuted.curnext = s.gtidExecuted.curnext ∧
      entries s'.gtidExecuted = entries s.gtidExecuted ∧
      entries s'.gtidLost = entries s.gtidLost := by
  obtain ⟨hE, hL, hsaved, rfl, rfl, rfl⟩ := h
  obtain ⟨e, hcontains, hE', hes, hecur⟩ := hE.contains k g
  have heset : contents e = contents s.gtidExecuted := congrArg pairs hes
  by_cases hexec : (k, g) ∈ contents s.gtidExecuted
  · refine ⟨{ s with gtidExecuted := e }, ?_, ⟨hE', hL, hecur ▸ hsaved, rfl, heset, rfl⟩, hecur,
      hes, rfl⟩
    simp [serverGtidSetContains, hcontains, hexec]
  · obtain ⟨l, hlost, hL', hels⟩ := contains_wellFormedSet hL k g
    refine ⟨{ s with gtidExecuted := e, gtidLost := l }, ?_,
      ⟨hE', hL', hecur ▸ hsaved, rfl, heset, congrArg pairs hels⟩, hecur, hes, hels⟩
    simp [serverGtidSetContains, hcontains, hexec, hlost]

theorem serverGtidSetContains_spec (h : Holding s uuid E L) (k : Uuid) (g : Int) :
    ∃ s', serverGtidSetContains s k g = some (s', decide ((k, g) ∈ E ∪ L)) ∧
      Holding s' uuid E L ∧ s'.gtidExecuted.curnext = s.gtidExecuted.curnext := by
  obtain ⟨s', hrun, hold, hcur, -⟩ := serverGtidSetContains_wellFormed h.wellFormed k g
  exact ⟨s', hrun, hold.holding h.lt_max, hcur⟩

/-- Recording a gtid that is not executed yet, of a uuid that has not executed `LLONG_MAX`. -/
theorem addExecuted_wellFormed (h : WellFormedHolding s uuid E L) (hg : 1 ≤ g)
    (hmax : g < LLONG_MAX) (hlast : (k, LLONG_MAX) ∉ E) (hnew : (k, g) ∉ E) (rand : Rand) :
    ∃ e, gtidSetAdd s.gtidExecuted k g g rand = some (e, 1) ∧
      WellFormedHolding { s with gtidExecuted := e } uuid (E ∪ {(k, g)}) L ∧
      e.curnext = s.gtidExecuted.curnext ∧
      entries e = KeyedIntervals.add k g g (entries s.gtidExecuted) := by
  obtain ⟨hE, hL, hsaved, rfl, rfl, rfl⟩ := h
  obtain ⟨e, hadd, hE', hes, heset, hecur⟩ :=
    hE.add k (.of_lt (hE.top_lt hlast) hmax) hg (le_refl g) hmax.le rand
  rw [card_gno_sdiff hnew] at hadd
  rw [Finset.Icc_self, Finset.singleton_product_singleton] at heset
  exact ⟨e, hadd, ⟨hE', hL, hecur ▸ hsaved, rfl, heset, rfl⟩, hecur, hes⟩

theorem lt_max_union {S T : Finset (Uuid × Int)} (hmax : g < LLONG_MAX)
    (h : ∀ x ∈ S ∪ T, x.2 < LLONG_MAX) : ∀ x ∈ S ∪ {(k, g)} ∪ T, x.2 < LLONG_MAX := by
  intro x hx
  rw [Finset.union_right_comm, Finset.mem_union, Finset.mem_singleton] at hx
  rcases hx with hx | rfl
  · exact h x hx
  · exact hmax

theorem addExecuted_holding (h : Holding s uuid E L) (hg : 1 ≤ g) (hmax : g < LLONG_MAX)
    (hnew : (k, g) ∉ E) (rand : Rand) :
    ∃ e, gtidSetAdd s.gtidExecuted k g g rand = some (e, 1) ∧
      Holding { s with gtidExecuted := e } uuid (E ∪ {(k, g)}) L ∧
      e.curnext = s.gtidExecuted.curnext := by
  have hlast : (k, LLONG_MAX) ∉ E := fun hmem =>
    lt_irrefl _ (h.lt_max _ (Finset.mem_union_left _ hmem))
  obtain ⟨e, hadd, hold, hcur, -⟩ := addExecuted_wellFormed h.wellFormed hg hmax hlast hnew rand
  exact ⟨e, hadd, hold.holding (lt_max_union hmax h.lt_max), hcur⟩

/-- **A GTID command** runs, and is recorded, when its gtid is in neither set. -/
theorem gtidCommand_wellFormed (h : WellFormedHolding s uuid E L) (k : Uuid) (hg : 1 ≤ g)
    (hmax : g < LLONG_MAX) (hlast : (k, LLONG_MAX) ∉ E) (rand : Rand) :
    ∃ s', gtidCommand s k g rand = some (s', decide ((k, g) ∉ E ∪ L)) ∧
      WellFormedHolding s' uuid (if (k, g) ∈ E ∪ L then E else E ∪ {(k, g)}) L ∧
      s'.gtidExecuted.curnext = s.gtidExecuted.curnext ∧
      (MergeFits s → (k, LLONG_MAX) ∉ L → MergeFits s') := by
  obtain ⟨s₁, hcontains, hold, hcur, hes, hels⟩ := serverGtidSetContains_wellFormed h k g
  by_cases hmem : (k, g) ∈ E ∪ L
  · rw [if_pos hmem, decide_eq_false (not_not.mpr hmem)]
    refine ⟨s₁, ?_, hold, hcur, fun hfits _ => ?_⟩
    · simp only [gtidCommand, hcontains, decide_eq_true hmem, Option.bind_eq_bind, Option.bind_some,
        if_true]
    · rwa [MergeFits, hes, hels]
  · have hnew : (k, g) ∉ E := fun he => hmem (Finset.mem_union_left _ he)
    obtain ⟨e, hadd, hold', hecur, hes'⟩ := addExecuted_wellFormed hold hg hmax hlast hnew rand
    rw [if_neg hmem, decide_eq_true hmem]
    refine ⟨_, ?_, hold', hecur.trans hcur, fun hfits hlost => ?_⟩
    · simp only [gtidCommand, hcontains, decide_eq_false hmem, hadd, Option.bind_eq_bind,
        Option.bind_some, Bool.false_eq_true, if_false]
      rfl
    · rw [MergeFits, hes', hes, hels]
      rw [← h.executed_eq] at hlast
      rw [← h.lost_eq] at hlost
      exact hfits.add (by decide) (h.executed.canonical.lookup k) (h.lost.canonical)
        (h.executed.top_lt hlast) (h.lost.top_lt hlost) hmax

theorem gtidCommand_spec (h : Holding s uuid E L) (k : Uuid) (hg : 1 ≤ g) (hmax : g < LLONG_MAX)
    (rand : Rand) :
    ∃ s', gtidCommand s k g rand = some (s', decide ((k, g) ∉ E ∪ L)) ∧
      Holding s' uuid (if (k, g) ∈ E ∪ L then E else E ∪ {(k, g)}) L ∧
      s'.gtidExecuted.curnext = s.gtidExecuted.curnext := by
  have hlast : (k, LLONG_MAX) ∉ E := fun hmem =>
    lt_irrefl _ (h.lt_max _ (Finset.mem_union_left _ hmem))
  obtain ⟨s', hrun, hold, hcur, -⟩ := gtidCommand_wellFormed h.wellFormed k hg hmax hlast rand
  refine ⟨s', hrun, hold.holding ?_, hcur⟩
  split
  · exact h.lt_max
  · exact lt_max_union hmax h.lt_max

/-- **GTID commands with new gtids** all run, in whatever order they come. -/
theorem gtidCommands_wellFormed {l : List (Uuid × Int)} (h : WellFormedHolding s uuid E L)
    (hl : l.Nodup) (hgno : ∀ x ∈ l, 1 ≤ x.2 ∧ x.2 < LLONG_MAX)
    (hlast : ∀ x ∈ l, (x.1, LLONG_MAX) ∉ E) (hnew : ∀ x ∈ l, x ∉ E ∪ L) (rand : Rand) :
    ∃ s', gtidCommands s l rand = some (s', l.map (fun _ => true)) ∧
      WellFormedHolding s' uuid (E ∪ l.toFinset) L ∧
      (MergeFits s → (∀ x ∈ l, (x.1, LLONG_MAX) ∉ L) → MergeFits s') := by
  induction l generalizing s E rand with
  | nil => exact ⟨s, rfl, by simpa using h, fun hfits _ => hfits⟩
  | cons x l ih =>
    obtain ⟨k, g⟩ := x
    obtain ⟨hx, hl⟩ := List.nodup_cons.mp hl
    have hxnew := hnew (k, g) (by simp)
    obtain ⟨hg, hmax⟩ := hgno (k, g) (by simp)
    obtain ⟨s₁, hrun, hold, -, hfits₁⟩ :=
      gtidCommand_wellFormed h k hg hmax (hlast (k, g) (by simp)) (rand.sub 0)
    rw [if_neg hxnew] at hold
    have hrest : ∀ y ∈ l, y ∉ E ∪ {(k, g)} ∪ L := by
      intro y hy hmem
      have hy' := hnew y (by simp [hy])
      have hne : y ≠ (k, g) := fun heq => hx (heq ▸ hy)
      simp only [Finset.mem_union, Finset.mem_singleton] at hmem hy'
      tauto
    have hlast' : ∀ y ∈ l, (y.1, LLONG_MAX) ∉ E ∪ {(k, g)} := by
      intro y hy hmem
      rcases Finset.mem_union.mp hmem with hmem | hmem
      · exact hlast y (by simp [hy]) hmem
      · exact hmax.ne' (Prod.mk.inj (Finset.mem_singleton.mp hmem)).2
    obtain ⟨s', hruns, hold', hfits'⟩ :=
      ih hold hl (fun y hy => hgno y (by simp [hy])) hlast' hrest (rand.sub 1)
    refine ⟨s', ?_, ?_, fun hfits hlost => ?_⟩
    · simp only [gtidCommands, hrun, hruns, decide_eq_true hxnew, List.map_cons,
        Option.bind_eq_bind, Option.bind_some]
    · rw [List.toFinset_cons, Finset.insert_eq, ← Finset.union_assoc]
      exact hold'
    · exact hfits' (hfits₁ hfits (hlost (k, g) (by simp))) (fun y hy => hlost y (by simp [hy]))

theorem gtidCommands_spec {l : List (Uuid × Int)} (h : Holding s uuid E L) (hl : l.Nodup)
    (hgno : ∀ x ∈ l, 1 ≤ x.2 ∧ x.2 < LLONG_MAX) (hnew : ∀ x ∈ l, x ∉ E ∪ L) (rand : Rand) :
    ∃ s', gtidCommands s l rand = some (s', l.map (fun _ => true)) ∧
      Holding s' uuid (E ∪ l.toFinset) L := by
  have hlast : ∀ x ∈ l, (x.1, LLONG_MAX) ∉ E := fun x _ hmem =>
    lt_irrefl _ (h.lt_max _ (Finset.mem_union_left _ hmem))
  obtain ⟨s', hrun, hold, -⟩ := gtidCommands_wellFormed h.wellFormed hl hgno hlast hnew rand
  refine ⟨s', hrun, hold.holding (fun x hx => ?_)⟩
  rw [Finset.union_right_comm, Finset.mem_union] at hx
  rcases hx with hx | hx
  · exact h.lt_max x hx
  · exact (hgno x (List.mem_toFinset.mp hx)).2

theorem allocateGno_spec (h : Holding s uuid E L)
    (hmax : nextOf E s.gtidExecuted.curnext uuid < LLONG_MAX) (rand : Rand) :
    ∃ s', allocateGno s rand = some (s', nextOf E s.gtidExecuted.curnext uuid) ∧
      Holding s' uuid (E ∪ {(uuid, nextOf E s.gtidExecuted.curnext uuid)}) L ∧
      s'.gtidExecuted.curnext = 0 := by
  obtain ⟨⟨hE, hL, hsaved⟩, rfl, rfl, rfl⟩ := h
  obtain ⟨e, hnext, hE', heset, hecur⟩ := gtidSetCurrentUuidSetNext_update hE hsaved hmax rand
  refine ⟨{ s with gtidExecuted := e }, ?_, ⟨⟨hE', hL, hecur.ge⟩, rfl, heset, rfl⟩, hecur⟩
  simp only [allocateGno, hnext, Option.bind_eq_bind, Option.bind_some, nextGno_eq]

/-- A set installed as executed, with its current record set. -/
theorem resetExecuted_holding (h : Holding s uuid E L) (ht : RegularSet t) (hcur : t.curnext = 0) :
    ∃ t', gtidSetCurrentUuidSetUpdate t s.uuid = some t' ∧ t'.curnext = 0 ∧
      Holding { s with gtidExecuted := t' } uuid (contents t) L := by
  obtain ⟨⟨-, hL, -⟩, rfl, -, rfl⟩ := h
  obtain ⟨t', hupdate, ht', htset, htcur⟩ := gtidSetCurrentUuidSetUpdate_spec ht s.uuid
  have hzero : t'.curnext = 0 := htcur.trans hcur
  exact ⟨t', hupdate, hzero, ⟨ht', hL, hzero.ge⟩, rfl, htset, rfl⟩

theorem Holding.setLost (h : Holding s uuid E L) (ht : RegularSet t) :
    Holding { s with gtidLost := t } uuid E (contents t) :=
  ⟨⟨h.executed, ht, h.saved⟩, h.uuid, h.executed_eq, rfl⟩

theorem addLost_holding (h : Holding s uuid E L) (ht : RegularSet t) (rand : Rand) :
    ∃ l n, gtidSetMerge s.gtidLost t rand = some (l, n) ∧
      Holding { s with gtidLost := l } uuid E (L ∪ contents t) := by
  obtain ⟨l, hmerge, hL, hset⟩ := merge_regularSet h.lost ht rand
  rw [h.lost_eq] at hset
  exact ⟨l, _, hmerge, hset ▸ h.setLost hL⟩

theorem removeLost_holding (h : Holding s uuid E L) (ht : RegularSet t) (rand : Rand) :
    ∃ s', serverGtidSetRemoveLost s t rand = some s' ∧
      Holding s' uuid E (L \ contents t) ∧ s'.gtidExecuted = s.gtidExecuted := by
  obtain ⟨l, hdiff, hL, hset⟩ := diff_regularSet h.lost ht rand
  rw [h.lost_eq] at hset
  refine ⟨{ s with gtidLost := l }, ?_, hset ▸ h.setLost hL, rfl⟩
  simp only [serverGtidSetRemoveLost, hdiff, Option.bind_eq_bind, Option.bind_some]

/-- The gtids of a range. -/
noncomputable def range (k : Uuid) (start «end» : Int) : Finset (Uuid × Int) := {k} ×ˢ Finset.Icc start «end»

theorem mem_range {k' : Uuid} : (k', g) ∈ range k start «end» ↔ k' = k ∧ start ≤ g ∧ g ≤ «end» := by
  rw [range, Finset.mem_product, Finset.mem_singleton, Finset.mem_Icc]

theorem gtidxAdd_executed_holding (h : Holding s uuid E L) (k : Uuid) (hs : 1 ≤ start)
    (hse : start ≤ «end») (he : «end» < LLONG_MAX) (rand : Rand) :
    ∃ e n, gtidSetAdd s.gtidExecuted k start «end» rand = some (e, n) ∧
      Holding { s with gtidExecuted := e } uuid (E ∪ range k start «end») L ∧
      e.curnext = s.gtidExecuted.curnext := by
  obtain ⟨⟨hE, hL, hsaved⟩, rfl, rfl, rfl⟩ := h
  obtain ⟨e, hadd, hE', hset, hcur⟩ := hE.add k hs hse he rand
  exact ⟨e, _, hadd, ⟨⟨hE', hL, hcur ▸ hsaved⟩, rfl, hset, rfl⟩, hcur⟩

theorem gtidxAdd_lost_holding (h : Holding s uuid E L) (k : Uuid) (hs : 1 ≤ start)
    (hse : start ≤ «end») (he : «end» < LLONG_MAX) (rand : Rand) :
    ∃ l n, gtidSetAdd s.gtidLost k start «end» rand = some (l, n) ∧
      Holding { s with gtidLost := l } uuid E (L ∪ range k start «end») := by
  obtain ⟨l, hadd, hL, hset⟩ := add_regularSet h.lost k hs hse he rand
  rw [h.lost_eq] at hset
  exact ⟨l, _, hadd, hset ▸ h.setLost hL⟩

/-- GTIDX ADD ends with the update of the next gno. -/
theorem gtidxAdd_update (type : GtidSetType) {n : Int}
    (hadd : gtidSetAdd (findGtidSet s type) k start «end» (rand.sub 0) = some (t, n))
    (hrun : (gtidxAdd s type k start «end» rand).map Prod.fst = some s') :
    serverGtidSetCurrrentUuidSetUpdateNextGno (assignGtidSet s type t) (rand.sub 1) = some s' := by
  simp only [gtidxAdd, hadd, Option.bind_eq_bind, Option.bind_some] at hrun
  cases hupdate : serverGtidSetCurrrentUuidSetUpdateNextGno (assignGtidSet s type t)
      (rand.sub 1) with
  | none => simp [hupdate] at hrun
  | some s₁ => simpa [hupdate] using hrun

theorem gtidxRemove_executed_spec (h : Holding s uuid E L) (k : Uuid) (hs : 1 ≤ start)
    (hse : start ≤ «end») (rand : Rand) :
    ∃ s' n, gtidxRemove s .executed k start «end» rand = some (s', n) ∧
      Holding s' uuid (E \ range k start «end») L ∧
      s'.gtidExecuted.curnext = s.gtidExecuted.curnext := by
  obtain ⟨⟨hE, hL, hsaved⟩, rfl, rfl, rfl⟩ := h
  obtain ⟨e, n, hremove, hE', hset, hcur⟩ :=
    gtidSetRemove_curnext hE.toRegularSet k hs hse rand
  obtain ⟨e', hupdate, hE'', hset', hcur'⟩ := gtidSetCurrentUuidSetUpdate_spec hE' s.uuid
  refine ⟨{ s with gtidExecuted := e' }, n, ?_,
    ⟨⟨hE'', hL, (hcur'.trans hcur) ▸ hsaved⟩, rfl, hset'.trans hset, rfl⟩, hcur'.trans hcur⟩
  simp only [gtidxRemove, findGtidSet, hremove, hupdate, Option.bind_eq_bind, Option.bind_some,
    assignGtidSet]

theorem gtidxRemove_lost_spec (h : Holding s uuid E L) (k : Uuid) (hs : 1 ≤ start)
    (hse : start ≤ «end») (rand : Rand) :
    ∃ s' n, gtidxRemove s .lost k start «end» rand = some (s', n) ∧
      Holding s' uuid E (L \ range k start «end») ∧ s'.gtidExecuted = s.gtidExecuted := by
  obtain ⟨l, n, hremove, hL, hset, -⟩ := gtidSetRemove_curnext h.lost k hs hse rand
  rw [h.lost_eq] at hset
  refine ⟨{ s with gtidLost := l }, n, ?_, hset ▸ h.setLost hL, rfl⟩
  simp only [gtidxRemove, findGtidSet, hremove, Option.bind_eq_bind, Option.bind_some,
    assignGtidSet]

end Functions

/-! ## Runs -/

inductive ServerOp where
  | gtid (uuid : Uuid) (gno : Int)
  | allocate
  | resetExecuted (gtidSet : GtidSet)
  | resetLost (gtidSet : GtidSet)
  | addLost (gtidSet : GtidSet)
  | removeLost (gtidSet : GtidSet)
  | gtidxAdd (type : GtidSetType) (uuid : Uuid) (start «end» : Int)
  | gtidxRemove (type : GtidSetType) (uuid : Uuid) (start «end» : Int)

/-- Ranges are valid and gnos below `LLONG_MAX`; a set that is installed has no saved gno. -/
def ServerOp.Valid (s : ServerSets) : ServerOp → Prop
  | .gtid _ gno => 1 ≤ gno ∧ gno < LLONG_MAX
  | .allocate => nextGno s.gtidExecuted s.uuid < LLONG_MAX
  | .resetExecuted gtidSet => RegularSet gtidSet ∧ gtidSet.curnext = 0
  | .resetLost gtidSet | .addLost gtidSet | .removeLost gtidSet => RegularSet gtidSet
  | .gtidxAdd _ _ start «end» | .gtidxRemove _ _ start «end» =>
    1 ≤ start ∧ start ≤ «end» ∧ «end» < LLONG_MAX

def ServerOp.step (s : ServerSets) (rand : Rand) : ServerOp → Option ServerSets
  | .gtid uuid gno => (gtidCommand s uuid gno rand).map Prod.fst
  | .allocate => (allocateGno s rand).map Prod.fst
  | .resetExecuted gtidSet => serverGtidSetResetExecuted s gtidSet rand
  | .resetLost gtidSet => serverGtidSetResetLost s gtidSet rand
  | .addLost gtidSet => serverGtidSetAddLost s gtidSet rand
  | .removeLost gtidSet => serverGtidSetRemoveLost s gtidSet rand
  | .gtidxAdd type uuid start «end» =>
    (XredisGtid.gtidxAdd s type uuid start «end» rand).map Prod.fst
  | .gtidxRemove type uuid start «end» =>
    (XredisGtid.gtidxRemove s type uuid start «end» rand).map Prod.fst

/-- Nothing executed or lost. -/
def ServerStart (s : ServerSets) : Prop :=
  gtidSetCurrentUuidSetUpdate gtidSetNew s.uuid = some s.gtidExecuted ∧ s.gtidLost = gtidSetNew

/-- The states after any sequence of valid operations that meet a condition. -/
inductive ServerReachable (cond : ServerSets → ServerOp → Prop) : ServerSets → Prop
  | start {s : ServerSets} : ServerStart s → ServerReachable cond s
  | step {s s' : ServerSets} (op : ServerOp) (rand : Rand) : ServerReachable cond s →
      op.Valid s → cond s op → op.step s rand = some s' → ServerReachable cond s'

/-- The executed set does not get the saved gno, and without a saved one no lost gno comes to
be above the executed ones. -/
def SparesNext (s : ServerSets) : ServerOp → Prop
  | .gtid uuid gno => uuid = s.uuid → gno ≠ s.gtidExecuted.curnext
  | .gtidxAdd .executed uuid start «end» => uuid = s.uuid →
      ¬ (start ≤ s.gtidExecuted.curnext ∧ s.gtidExecuted.curnext ≤ «end»)
  | .gtidxRemove .executed uuid start «end» => uuid = s.uuid → s.gtidExecuted.curnext = 0 →
      maxGno (contents s.gtidLost) s.uuid ≤
        maxGno (contents s.gtidExecuted \ range uuid start «end») s.uuid
  | _ => True

section Runs
variable {cond : ServerSets → ServerOp → Prop} {s s' : ServerSets} {rand : Rand}

theorem Holding.self (h : SetsInvariant s) :
    Holding s s.uuid (contents s.gtidExecuted) (contents s.gtidLost) := ⟨h, rfl, rfl, rfl⟩

theorem Holding.fresh {uuid : Uuid} {E L : Finset (Uuid × Int)} {n : Int}
    (h : Holding s uuid E L) (hcur : s.gtidExecuted.curnext = n) (hf : Fresh E L n uuid) :
    SetsFresh s := by
  rw [SetsFresh, h.uuid, h.executed_eq, h.lost_eq, hcur]
  exact hf

theorem Holding.executed_nonneg {uuid : Uuid} {E L : Finset (Uuid × Int)}
    (h : Holding s uuid E L) : 0 ≤ maxGno E uuid := by
  rw [← h.executed_eq]
  exact (h.executed.maxGno_bounds uuid).1

theorem Holding.lost_nonneg {uuid : Uuid} {E L : Finset (Uuid × Int)}
    (h : Holding s uuid E L) : 0 ≤ maxGno L uuid := by
  rw [← h.lost_eq]
  exact (h.lost.maxGno_bounds uuid).1

/-- **One step** keeps the next gno fresh if it spares it. -/
theorem ServerOp.step_fresh {op : ServerOp} (h : SetsInvariant s) (hf : SetsFresh s)
    (hv : op.Valid s) (hspare : SparesNext s op) (hrun : op.step s rand = some s') :
    SetsInvariant s' ∧ SetsFresh s' := by
  have hold := Holding.self h
  cases op with
  | gtid k g =>
    obtain ⟨s₁, hcmd, hold', hcur⟩ := gtidCommand_spec hold k hv.1 hv.2 rand
    obtain rfl : s₁ = s' := by simpa [step, hcmd] using hrun
    refine ⟨hold'.toSetsInvariant, hold'.fresh hcur ?_⟩
    by_cases hmem : (k, g) ∈ contents s.gtidExecuted ∪ contents s.gtidLost
    · rw [if_pos hmem]
      exact hf
    · rw [if_neg hmem] at hold' ⊢
      have hmono := maxGno_mono Finset.subset_union_left hold'.executed_nonneg
      refine hf.mono hmono (fun hs hmem => ?_) (le_refl _)
      rw [Finset.mem_union, Finset.mem_singleton, Prod.mk.injEq] at hmem
      rcases hmem with hmem | ⟨huuid, hg⟩
      · exact (hf.of_saved hs).1 hmem
      · exact hspare huuid.symm hg.symm
  | allocate =>
    obtain ⟨s₁, halloc, hold', hcur⟩ := allocateGno_spec hold hv rand
    obtain rfl : s₁ = s' := by simpa [step, halloc] using hrun
    exact ⟨hold'.toSetsInvariant, hold'.fresh hcur (hf.allocate (Finset.Subset.refl _))⟩
  | resetExecuted t =>
    obtain ⟨t', hupdate, hzero, hold'⟩ := resetExecuted_holding hold hv.1 hv.2
    simp only [step, serverGtidSetResetExecuted, hupdate, Option.bind_eq_bind,
      Option.bind_some] at hrun
    obtain ⟨hold'', hf'⟩ := updateNextGno_fresh hold' (fun hs => absurd hzero hs) hrun
    exact ⟨hold''.toSetsInvariant, hf'⟩
  | resetLost t =>
    obtain ⟨hold', hf'⟩ := updateNextGno_fresh (hold.setLost hv) (fun hs => (hf.of_saved hs).1) hrun
    exact ⟨hold'.toSetsInvariant, hf'⟩
  | addLost t =>
    obtain ⟨l, n, hmerge, hold'⟩ := addLost_holding hold hv (rand.sub 0)
    simp only [step, serverGtidSetAddLost, hmerge, Option.bind_eq_bind, Option.bind_some] at hrun
    obtain ⟨hold'', hf'⟩ := updateNextGno_fresh hold' (fun hs => (hf.of_saved hs).1) hrun
    exact ⟨hold''.toSetsInvariant, hf'⟩
  | removeLost t =>
    obtain ⟨s₁, hremove, hold', hexec⟩ := removeLost_holding hold hv rand
    obtain rfl : s₁ = s' := by simpa [step, hremove] using hrun
    refine ⟨hold'.toSetsInvariant, hold'.fresh (congrArg GtidSet.curnext hexec) ?_⟩
    exact hf.mono (le_refl _) (fun hs => (hf.of_saved hs).1)
      (maxGno_mono Finset.sdiff_subset hold.lost_nonneg)
  | gtidxAdd type k start «end» =>
    obtain ⟨hs, hse, he⟩ := hv
    cases type with
    | executed =>
      obtain ⟨e, n, hadd, hold', hcur⟩ :=
        gtidxAdd_executed_holding hold k hs hse he (rand.sub 0)
      obtain ⟨hold'', hf'⟩ := updateNextGno_fresh hold' (fun hzero hmem => by
        rw [hcur] at hzero hmem
        rcases Finset.mem_union.mp hmem with hmem | hmem
        · exact (hf.of_saved hzero).1 hmem
        · obtain ⟨huuid, hrange⟩ := mem_range.mp hmem
          exact hspare huuid.symm hrange) (gtidxAdd_update .executed hadd hrun)
      exact ⟨hold''.toSetsInvariant, hf'⟩
    | lost =>
      obtain ⟨l, n, hadd, hold'⟩ := gtidxAdd_lost_holding hold k hs hse he (rand.sub 0)
      obtain ⟨hold'', hf'⟩ := updateNextGno_fresh hold' (fun hs => (hf.of_saved hs).1)
        (gtidxAdd_update .lost hadd hrun)
      exact ⟨hold''.toSetsInvariant, hf'⟩
  | gtidxRemove type k start «end» =>
    obtain ⟨hs, hse, -⟩ := hv
    cases type with
    | executed =>
      obtain ⟨s₁, n, hremove, hold', hcur⟩ := gtidxRemove_executed_spec hold k hs hse rand
      obtain rfl : s₁ = s' := by simpa [step, hremove] using hrun
      refine ⟨hold'.toSetsInvariant, hold'.fresh hcur (hf.shrink Finset.sdiff_subset ?_)⟩
      intro hzero
      by_cases huuid : k = s.uuid
      · exact hspare huuid hzero
      · refine le_trans (hf.of_unsaved hzero) (maxGno_le hold'.executed_nonneg (fun g hg => ?_))
        exact le_maxGno (Finset.mem_sdiff.mpr ⟨hg, fun hmem => huuid (mem_range.mp hmem).1.symm⟩)
    | lost =>
      obtain ⟨s₁, n, hremove, hold', hexec⟩ := gtidxRemove_lost_spec hold k hs hse rand
      obtain rfl : s₁ = s' := by simpa [step, hremove] using hrun
      refine ⟨hold'.toSetsInvariant, hold'.fresh (congrArg GtidSet.curnext hexec) ?_⟩
      exact hf.mono (le_refl _) (fun hs => (hf.of_saved hs).1)
        (maxGno_mono Finset.sdiff_subset hold.lost_nonneg)

/-- **One step** keeps the sets regular. -/
theorem ServerOp.step_invariant {op : ServerOp} (h : SetsInvariant s) (hv : op.Valid s)
    (hrun : op.step s rand = some s') : SetsInvariant s' := by
  have hold := Holding.self h
  cases op with
  | gtid k g =>
    obtain ⟨s₁, hcmd, hold', -⟩ := gtidCommand_spec hold k hv.1 hv.2 rand
    obtain rfl : s₁ = s' := by simpa [step, hcmd] using hrun
    exact hold'.toSetsInvariant
  | allocate =>
    obtain ⟨s₁, halloc, hold', -⟩ := allocateGno_spec hold hv rand
    obtain rfl : s₁ = s' := by simpa [step, halloc] using hrun
    exact hold'.toSetsInvariant
  | resetExecuted t =>
    obtain ⟨t', hupdate, -, hold'⟩ := resetExecuted_holding hold hv.1 hv.2
    simp only [step, serverGtidSetResetExecuted, hupdate, Option.bind_eq_bind,
      Option.bind_some] at hrun
    exact (updateNextGno_some hold' hrun).2.1.toSetsInvariant
  | resetLost t => exact (updateNextGno_some (hold.setLost hv) hrun).2.1.toSetsInvariant
  | addLost t =>
    obtain ⟨l, n, hmerge, hold'⟩ := addLost_holding hold hv (rand.sub 0)
    simp only [step, serverGtidSetAddLost, hmerge, Option.bind_eq_bind, Option.bind_some] at hrun
    exact (updateNextGno_some hold' hrun).2.1.toSetsInvariant
  | removeLost t =>
    obtain ⟨s₁, hremove, hold', -⟩ := removeLost_holding hold hv rand
    obtain rfl : s₁ = s' := by simpa [step, hremove] using hrun
    exact hold'.toSetsInvariant
  | gtidxAdd type k start «end» =>
    obtain ⟨hs, hse, he⟩ := hv
    cases type with
    | executed =>
      obtain ⟨e, n, hadd, hold', -⟩ := gtidxAdd_executed_holding hold k hs hse he (rand.sub 0)
      exact (updateNextGno_some hold' (gtidxAdd_update .executed hadd hrun)).2.1.toSetsInvariant
    | lost =>
      obtain ⟨l, n, hadd, hold'⟩ := gtidxAdd_lost_holding hold k hs hse he (rand.sub 0)
      exact (updateNextGno_some hold' (gtidxAdd_update .lost hadd hrun)).2.1.toSetsInvariant
  | gtidxRemove type k start «end» =>
    obtain ⟨hs, hse, -⟩ := hv
    cases type with
    | executed =>
      obtain ⟨s₁, n, hremove, hold', -⟩ := gtidxRemove_executed_spec hold k hs hse rand
      obtain rfl : s₁ = s' := by simpa [step, hremove] using hrun
      exact hold'.toSetsInvariant
    | lost =>
      obtain ⟨s₁, n, hremove, hold', -⟩ := gtidxRemove_lost_spec hold k hs hse rand
      obtain rfl : s₁ = s' := by simpa [step, hremove] using hrun
      exact hold'.toSetsInvariant

theorem serverStart_spec (h : ServerStart s) : Holding s s.uuid ∅ ∅ ∧ s.gtidExecuted.curnext = 0 := by
  obtain ⟨t, hupdate, hcurrent, hset, hcur⟩ :=
    gtidSetCurrentUuidSetUpdate_spec regularSet_new.1 s.uuid
  obtain rfl : t = s.gtidExecuted := Option.some.inj (hupdate.symm.trans h.1)
  exact ⟨⟨⟨hcurrent, h.2 ▸ regularSet_new.1, hcur.ge⟩, rfl, hset.trans contents_new, h.2 ▸ contents_new⟩, hcur⟩

/-- A server that has nothing executed or lost. -/
theorem exists_serverStart (uuid : Uuid) :
    ∃ s, ServerStart s ∧ Holding s uuid ∅ ∅ ∧ s.gtidExecuted.curnext = 0 := by
  obtain ⟨e, hupdate, -⟩ := gtidSetCurrentUuidSetUpdate_spec regularSet_new.1 uuid
  have hstart : ServerStart ⟨uuid, e, gtidSetNew⟩ := ⟨hupdate, rfl⟩
  exact ⟨_, hstart, serverStart_spec hstart⟩

/-- **Every run** that spares the next gno leaves it fresh. -/
theorem ServerReachable.fresh (h : ServerReachable SparesNext s) :
    SetsInvariant s ∧ SetsFresh s := by
  induction h with
  | start hstart =>
    obtain ⟨hold, hcur⟩ := serverStart_spec hstart
    exact ⟨hold.toSetsInvariant, hold.fresh hcur ⟨fun h => absurd rfl h, fun _ => le_refl _⟩⟩
  | step op rand _ hv hspare hrun ih => exact ServerOp.step_fresh ih.1 ih.2 hv hspare hrun

/-- **A gno allocated is neither executed nor lost**, after every run whose steps spare the
next gno; and the allocation succeeds below `LLONG_MAX`. -/
theorem allocateGno_fresh (h : ServerReachable SparesNext s) (rand : Rand) :
    (∀ s' gno, allocateGno s rand = some (s', gno) →
      (s.uuid, gno) ∉ contents s.gtidExecuted ∧ (s.uuid, gno) ∉ contents s.gtidLost) ∧
    (nextGno s.gtidExecuted s.uuid < LLONG_MAX →
      ∃ s' gno, allocateGno s rand = some (s', gno)) := by
  obtain ⟨hinv, hf⟩ := h.fresh
  constructor
  · intro s' gno hrun
    cases hnext : gtidSetCurrentUuidSetNext s.gtidExecuted true rand with
    | none => simp [allocateGno, hnext] at hrun
    | some r =>
      obtain ⟨e, g⟩ := r
      obtain rfl : g = gno := by
        simp only [allocateGno, hnext, Option.bind_eq_bind, Option.bind_some] at hrun
        exact (Prod.mk.inj (Option.some.inj hrun)).2
      rw [gtidSetCurrentUuidSetNext_eq hinv.executed hnext]
      exact hf.next_notMem
  · intro hmax
    obtain ⟨s', hrun, -⟩ := allocateGno_spec (Holding.self hinv) hmax rand
    exact ⟨s', _, hrun⟩

/-- A server that has lost the gnos `1-10` of its own uuid saves `11` as the next one. -/
theorem exists_saved (cond : ServerSets → ServerOp → Prop)
    (hcond : ∀ s t, cond s (.addLost t)) :
    ∃ s, ServerReachable cond s ∧ Holding s [65] ∅ (range [65] 1 10) ∧
      s.gtidExecuted.curnext = 11 := by
  obtain ⟨s, hstart, hold, hcur⟩ := exists_serverStart [65]
  obtain ⟨t, -, ht, hset⟩ := add_regularSet regularSet_new.1 [65] (show (1 : Int) ≤ 1 by decide)
    (show (1 : Int) ≤ 10 by decide) (by decide) (fun _ => 0)
  have hlost : ∅ ∪ contents t = range [65] 1 10 := by
    rw [hset, contents, regularSet_new.2]
    simp [range]
  obtain ⟨l, n, hmerge, hold'⟩ := addLost_holding hold ht (Rand.sub (fun _ => 0) 0)
  rw [hlost] at hold'
  have hE : maxGno ∅ ([65] : Uuid) ≤ 0 := maxGno_le (le_refl 0) (fun g hg => by simp at hg)
  have hL : maxGno (range [65] 1 10) [65] = 10 :=
    le_antisymm (maxGno_le (by decide) (fun g hg => (mem_range.mp hg).2.2))
      (le_maxGno (mem_range.mpr ⟨rfl, by decide, by decide⟩))
  have hnext : nextOf ∅ 0 ([65] : Uuid) < 10 + 1 := by
    rw [nextOf, if_pos rfl]
    omega
  obtain ⟨s', hrun, hold'', hsaved⟩ := updateNextGno_spec hold'
    (fun _ => by rw [hL]; exact le_trans hE (by decide)) (Rand.sub (fun _ => 0) 1)
  refine ⟨s', .step (.addLost t) (fun _ => 0) (.start hstart) ht (hcond _ _) ?_, hold'', ?_⟩
  · simp only [ServerOp.step, serverGtidSetAddLost, hmerge, Option.bind_eq_bind, Option.bind_some,
      hrun]
  · rw [hsaved, hcur, hL, if_pos hnext]
    rfl

theorem allocateGno_fresh_saved :
    ∃ s s', ServerReachable SparesNext s ∧ allocateGno s (fun _ => 0) = some (s', 11) ∧
      (s.uuid, 11) ∉ contents s.gtidExecuted ∧ (s.uuid, 11) ∉ contents s.gtidLost := by
  obtain ⟨s, hreach, hold, hcur⟩ := exists_saved SparesNext (fun _ _ => trivial)
  have hnext : nextOf ∅ s.gtidExecuted.curnext [65] = 11 := by
    rw [hcur]
    rfl
  obtain ⟨s', halloc, -⟩ := allocateGno_spec hold (by rw [hnext]; decide) (fun _ => 0)
  rw [hnext] at halloc
  exact ⟨s, s', hreach, halloc, (allocateGno_fresh hreach (fun _ => 0)).1 s' 11 halloc⟩

/-- Executing the saved gno in a GTID command does not clear it: the next write gets it again. -/
theorem allocateGno_executed :
    ∃ s s', ServerReachable (fun _ _ => True) s ∧ allocateGno s (fun _ => 0) = some (s', 11) ∧
      (s.uuid, 11) ∈ contents s.gtidExecuted := by
  obtain ⟨s, hreach, hold, hcur⟩ := exists_saved (fun _ _ => True) (fun _ _ => trivial)
  obtain ⟨s', hcmd, hold', hcur'⟩ := gtidCommand_spec hold [65] (show (1 : Int) ≤ 11 by decide)
    (by decide) (fun _ => 0)
  have hnew : (([65] : Uuid), (11 : Int)) ∉ ∅ ∪ range [65] 1 10 := by
    rw [Finset.empty_union, mem_range]
    decide
  rw [if_neg hnew] at hold'
  rw [decide_eq_true hnew] at hcmd
  have hnext : nextOf (∅ ∪ {(([65] : Uuid), (11 : Int))}) s'.gtidExecuted.curnext [65] = 11 := by
    rw [hcur', hcur]
    rfl
  obtain ⟨s'', halloc, -⟩ := allocateGno_spec hold' (by rw [hnext]; decide) (fun _ => 0)
  rw [hnext] at halloc
  refine ⟨s', s'', .step (.gtid [65] 11) (fun _ => 0) hreach ⟨by decide, by decide⟩ trivial ?_,
    halloc, ?_⟩
  · simp only [ServerOp.step, hcmd, Option.map_some]
  · rw [hold'.executed_eq, hold'.uuid]
    exact Finset.mem_union_right _ (Finset.mem_singleton_self _)

end Runs

end XredisGtid
