import XredisGtid.ServerRun

/-!
# The assertion on the saved gno

`gtidSetCurrentUuidSetSetNextGno` asserts that the gno it saves is above the executed ones.
Its caller has compared that gno with the one saved before, which an executed gno may have
overtaken in the meantime.  `NotOvertaken` says that none has, and the steps that keep it so
(`OvertakesNot`) do not fail the assertion.
-/
namespace XredisGtid
open Memory KeyedIntervals

/-- No executed gno is above a saved one. -/
def NotOvertaken (s : ServerSets) : Prop :=
  s.gtidExecuted.curnext ≠ 0 → maxGno (contents s.gtidExecuted) s.uuid ≤ s.gtidExecuted.curnext

/-- While a gno is saved, the executed set does not get a greater one of the own uuid. -/
def OvertakesNot (s : ServerSets) : ServerOp → Prop
  | .gtid uuid gno => uuid = s.uuid → s.gtidExecuted.curnext ≠ 0 → gno ≤ s.gtidExecuted.curnext
  | .gtidxAdd .executed uuid _ «end» => uuid = s.uuid → s.gtidExecuted.curnext ≠ 0 →
      «end» ≤ s.gtidExecuted.curnext
  | _ => True

section NextGno
variable {s s' : ServerSets} {uuid k : Uuid} {start «end» : Int} {E L : Finset (Uuid × Int)}
  {rand : Rand}

theorem Holding.notOvertaken {n : Int} (h : Holding s uuid E L)
    (hcur : s.gtidExecuted.curnext = n) (hle : n ≠ 0 → maxGno E uuid ≤ n) : NotOvertaken s := by
  rw [NotOvertaken, h.uuid, h.executed_eq, hcur]
  exact hle

/-- **The update of the next gno** succeeds when no executed gno is above the saved one. -/
theorem updateNextGno_notOvertaken (h : Holding s uuid E L)
    (hle : s.gtidExecuted.curnext ≠ 0 → maxGno E uuid ≤ s.gtidExecuted.curnext) (rand : Rand) :
    ∃ s', serverGtidSetCurrrentUuidSetUpdateNextGno s rand = some s' ∧ SetsInvariant s' ∧
      NotOvertaken s' := by
  have hassert := updateAsserts_of_le (L := L) hle
  obtain ⟨s', hrun, hold, hcur⟩ := updateNextGno_spec h hassert rand
  refine ⟨s', hrun, hold.toSetsInvariant, hold.notOvertaken hcur ?_⟩
  by_cases hlt : nextOf E s.gtidExecuted.curnext uuid < maxGno L uuid + 1
  · have := hassert hlt
    rw [if_pos hlt]
    intro _
    omega
  · rw [if_neg hlt]
    exact hle

theorem range_self (k : Uuid) (g : Int) : range k g g = {(k, g)} := by
  rw [range, Finset.Icc_self, Finset.singleton_product_singleton]

/-- The greatest gno of a set and a range. -/
theorem maxGno_union_range {n : Int} (hnn : 0 ≤ n) (hE : maxGno E uuid ≤ n)
    (hend : k = uuid → «end» ≤ n) : maxGno (E ∪ range k start «end») uuid ≤ n := by
  refine maxGno_le hnn (fun g hg => ?_)
  rcases Finset.mem_union.mp hg with hg | hg
  · exact le_trans (le_maxGno hg) hE
  · obtain ⟨huuid, -, hge⟩ := mem_range.mp hg
    exact le_trans hge (hend huuid.symm)

/-- **One step** succeeds if no executed gno overtakes the saved one. -/
theorem ServerOp.step_notOvertaken {op : ServerOp} (h : SetsInvariant s) (hle : NotOvertaken s)
    (hv : op.Valid s) (hcond : OvertakesNot s op) (rand : Rand) :
    ∃ s', op.step s rand = some s' ∧ SetsInvariant s' ∧ NotOvertaken s' := by
  have hold := Holding.self h
  have hnn := h.saved
  cases op with
  | gtid k g =>
    obtain ⟨s', hcmd, hold', hcur⟩ := gtidCommand_spec hold k hv.1 hv.2 rand
    refine ⟨s', by rw [step, hcmd, Option.map_some], hold'.toSetsInvariant,
      hold'.notOvertaken hcur (fun hs => ?_)⟩
    by_cases hmem : (k, g) ∈ contents s.gtidExecuted ∪ contents s.gtidLost
    · rw [if_pos hmem]
      exact hle hs
    · rw [if_neg hmem, ← range_self]
      exact maxGno_union_range hnn (hle hs) (fun huuid => hcond huuid hs)
  | allocate =>
    obtain ⟨s', halloc, hold', hcur⟩ := allocateGno_spec hold hv rand
    exact ⟨s', by rw [step, halloc, Option.map_some], hold'.toSetsInvariant,
      hold'.notOvertaken hcur (fun hs => absurd rfl hs)⟩
  | resetExecuted t =>
    obtain ⟨t', hupdate, hzero, hold'⟩ := resetExecuted_holding hold hv.1 hv.2
    obtain ⟨s', hrun, hafter⟩ := updateNextGno_notOvertaken hold' (fun hs => absurd hzero hs) rand
    refine ⟨s', ?_, hafter⟩
    rw [step, serverGtidSetResetExecuted, hupdate]
    exact hrun
  | resetLost t => exact updateNextGno_notOvertaken (hold.setLost hv) hle rand
  | addLost t =>
    obtain ⟨l, n, hmerge, hold'⟩ := addLost_holding hold hv (rand.sub 0)
    obtain ⟨s', hrun, hafter⟩ := updateNextGno_notOvertaken hold' hle (rand.sub 1)
    refine ⟨s', ?_, hafter⟩
    rw [step, serverGtidSetAddLost, hmerge]
    exact hrun
  | removeLost t =>
    obtain ⟨s', hremove, hold', hexec⟩ := removeLost_holding hold hv rand
    exact ⟨s', hremove, hold'.toSetsInvariant,
      hold'.notOvertaken (congrArg GtidSet.curnext hexec) hle⟩
  | gtidxAdd type k start «end» =>
    obtain ⟨hs, hse, he⟩ := hv
    cases type with
    | executed =>
      obtain ⟨e, n, hadd, hold', hcur⟩ :=
        gtidxAdd_executed_holding hold k hs hse he (rand.sub 0)
      obtain ⟨s', hrun, hafter⟩ := updateNextGno_notOvertaken hold' (fun hzero => by
        rw [hcur] at hzero ⊢
        exact maxGno_union_range hnn (hle hzero) (fun huuid => hcond huuid hzero)) (rand.sub 1)
      refine ⟨s', ?_, hafter⟩
      simp only [step, XredisGtid.gtidxAdd, findGtidSet, hadd, assignGtidSet, hrun,
        Option.bind_eq_bind, Option.bind_some, Option.map_some]
    | lost =>
      obtain ⟨l, n, hadd, hold'⟩ := gtidxAdd_lost_holding hold k hs hse he (rand.sub 0)
      obtain ⟨s', hrun, hafter⟩ := updateNextGno_notOvertaken hold' hle (rand.sub 1)
      refine ⟨s', ?_, hafter⟩
      simp only [step, XredisGtid.gtidxAdd, findGtidSet, hadd, assignGtidSet, hrun,
        Option.bind_eq_bind, Option.bind_some, Option.map_some]
  | gtidxRemove type k start «end» =>
    obtain ⟨hs, hse, -⟩ := hv
    cases type with
    | executed =>
      obtain ⟨s', n, hremove, hold', hcur⟩ := gtidxRemove_executed_spec hold k hs hse rand
      refine ⟨s', by rw [step, hremove, Option.map_some], hold'.toSetsInvariant,
        hold'.notOvertaken hcur (fun hzero => ?_)⟩
      exact le_trans (maxGno_mono Finset.sdiff_subset hold.executed_nonneg) (hle hzero)
    | lost =>
      obtain ⟨s', n, hremove, hold', hexec⟩ := gtidxRemove_lost_spec hold k hs hse rand
      exact ⟨s', by rw [step, hremove, Option.map_some], hold'.toSetsInvariant,
        hold'.notOvertaken (congrArg GtidSet.curnext hexec) hle⟩

theorem ServerReachable.notOvertaken (h : ServerReachable OvertakesNot s) :
    SetsInvariant s ∧ NotOvertaken s := by
  induction h with
  | start hstart =>
    obtain ⟨hold, hcur⟩ := serverStart_spec hstart
    exact ⟨hold.toSetsInvariant, hold.notOvertaken hcur (fun hs => absurd rfl hs)⟩
  | step op rand _ hv hcond hrun ih =>
    obtain ⟨s', hrun', hafter⟩ := ServerOp.step_notOvertaken ih.1 ih.2 hv hcond rand
    exact Option.some.inj (hrun.symm.trans hrun') ▸ hafter

/-- **No step fails its assertion**, in a run whose steps do not execute a gno of the own
uuid above the saved one. -/
theorem serverStep_asserted (h : ServerReachable OvertakesNot s) (op : ServerOp)
    (hv : op.Valid s) (hcond : OvertakesNot s op) (rand : Rand) :
    ∃ s', op.step s rand = some s' := by
  obtain ⟨hinv, hle⟩ := h.notOvertaken
  obtain ⟨s', hrun, -⟩ := ServerOp.step_notOvertaken hinv hle hv hcond rand
  exact ⟨s', hrun⟩

theorem serverStep_asserted_saved :
    ∃ s s', s.gtidExecuted.curnext = 11 ∧
      (ServerOp.gtidxAdd .lost [65] 15 15).step s (fun _ => 0) = some s' := by
  obtain ⟨s, hreach, -, hcur⟩ := exists_saved OvertakesNot (fun _ _ => trivial)
  obtain ⟨s', hrun⟩ := serverStep_asserted hreach (.gtidxAdd .lost [65] 15 15)
    ⟨by decide, by decide, by decide⟩ trivial (fun _ => 0)
  exact ⟨s, s', hcur, hrun⟩

/-- With `11` saved a GTID command executes `20`, and the next lost gno is `15`: `16` is
above the saved gno and not above the executed one. -/
theorem gtidxAdd_fails :
    ∃ s, ServerReachable (fun _ _ => True) s ∧ (ServerOp.gtidxAdd .lost [65] 15 15).Valid s ∧
      (ServerOp.gtidxAdd .lost [65] 15 15).step s (fun _ => 0) = none := by
  obtain ⟨s, hreach, hold, hcur⟩ := exists_saved (fun _ _ => True) (fun _ _ => trivial)
  obtain ⟨s', hcmd, hold', hcur'⟩ := gtidCommand_spec hold [65] (show (1 : Int) ≤ 20 by decide)
    (by decide) (fun _ => 0)
  have hnew : (([65] : Uuid), (20 : Int)) ∉ ∅ ∪ range [65] 1 10 := by
    rw [Finset.empty_union, mem_range]
    decide
  rw [if_neg hnew] at hold'
  rw [decide_eq_true hnew] at hcmd
  have hvalid : (ServerOp.gtidxAdd .lost [65] 15 15).Valid s' := ⟨by decide, by decide, by decide⟩
  refine ⟨s', .step (.gtid [65] 20) (fun _ => 0) hreach ⟨by decide, by decide⟩ trivial ?_, hvalid,
    ?_⟩
  · simp only [ServerOp.step, hcmd, Option.map_some]
  · obtain ⟨l, n, hadd, hold''⟩ := gtidxAdd_lost_holding hold' [65]
      (show (1 : Int) ≤ 15 by decide) (le_refl 15) (by decide) (Rand.sub (fun _ => 0) 0)
    have hE : (20 : Int) ≤ maxGno (∅ ∪ {(([65] : Uuid), (20 : Int))}) [65] :=
      le_maxGno (Finset.mem_union_right _ (Finset.mem_singleton_self _))
    have hL : maxGno (range [65] 1 10 ∪ range [65] 15 15) [65] = 15 := by
      refine le_antisymm (maxGno_le (by decide) (fun g hg => ?_))
        (le_maxGno (Finset.mem_union_right _ (mem_range.mpr ⟨rfl, le_refl 15, le_refl 15⟩)))
      rcases Finset.mem_union.mp hg with hg | hg
      · exact le_trans (mem_range.mp hg).2.2 (by decide)
      · exact (mem_range.mp hg).2.2
    have hfails := updateNextGno_none hold'' (fun hassert => by
      rw [UpdateAsserts, hL, nextOf, if_neg (by rw [hcur', hcur]; decide), hcur', hcur] at hassert
      have := hassert (by decide)
      omega) (Rand.sub (fun _ => 0) 1)
    simp only [ServerOp.step, gtidxAdd, findGtidSet, hadd, assignGtidSet, hfails,
      Option.bind_eq_bind, Option.bind_some, Option.bind_none, Option.map_none]

end NextGno

end XredisGtid
