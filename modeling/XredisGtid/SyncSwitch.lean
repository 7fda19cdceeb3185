import XredisGtid.SyncRun

/-!
# From psync to xsync

A master that has switched from psync to xsync answers a replica that is at the switch
with XCONTINUE.  The replica then derives its gtid sets from the reply, and after it has
executed what the index has from the switch on, both sides have the same sets.

Gtids are added to sets on the way, by the master that merges its two sets and by the
replica.  Where a set already reaches `LLONG_MAX` this goes wrong.
-/
namespace XredisGtid
open Buffer Memory OffsetLog KeyedIntervals

section Switch
variable {s s' r : Server} {request : PsyncRequest} {result : SyncResult} {rand rand' : Rand}
  {cont lost : GtidSet} {masterUuid replid : Bytes} {reploff : Int} {uuid : Uuid}
  {E L : Finset (Uuid × Int)}

/-- An XCONTINUE reply carries the continue set of the answer and the lost set of the master. -/
theorem masterReplySyncRequest_xcontinue [RedisReplication]
    (h : masterReplySyncRequest s result rand =
      some (s', .xcontinue cont lost masterUuid replid reploff)) :
    lost = s.gtidLost ∧ ∃ deltaLost s₁ b, result.action = .xcontinue replid reploff cont deltaLost ∧
      serverReplStreamUpdateXsync s deltaLost false none none (-1) rand = some (s₁, b) ∧
      masterSetupPartialSynchronization s₁ result.offset = some s' := by
  rw [masterReplySyncRequest] at h
  split at h
  · next id off gtidCont deltaLost hact =>
    simp only [Option.bind_eq_bind, Option.bind_eq_some_iff, Prod.exists, Option.some.injEq,
      Prod.mk.injEq, SyncReply.xcontinue.injEq] at h
    obtain ⟨s₁, b, hup, s₂, hsetup, rfl, rfl, rfl, -, rfl, rfl⟩ := h
    exact ⟨rfl, deltaLost, s₁, b, hact, hup, hsetup⟩
  · next id off deltaLost hact =>
    cases deltaLost with
    | none =>
      simp only [Option.bind_eq_bind, Option.bind_some, Option.bind_eq_some_iff, Option.some.injEq,
        Prod.mk.injEq, reduceCtorEq, and_false, exists_false] at h
    | some deltaLost =>
      simp only [Option.bind_eq_bind, Option.bind_eq_some_iff, Option.some.injEq,
        Prod.mk.injEq, reduceCtorEq, and_false, exists_false] at h
  · cases h
  · cases h

/-- **The replica aligns its sets** with the reply: what the master has lost is lost, and the rest
is executed. -/
theorem slavePsyncXcontinue_wellFormed [RedisReplication]
    (hr : WellFormedHolding r.toServerSets uuid E L) (hmode : r.replMode.mode = .psync)
    (hdelta : r.gtidReploffDelta = 0) (hcont : WellFormedSet cont)
    (hlost : WellFormedSet lost) (masterUuid replid : Bytes) (reploff : Int) (rand : Rand) :
    ∃ r', slavePsyncXcontinue r cont lost masterUuid replid reploff rand = some r' ∧
      WellFormedHolding r'.toServerSets uuid (contents cont \ contents lost) (contents lost) := by
  obtain ⟨t, hdiff, ht, htset⟩ := gtidSetDupDiff_wellFormedSet hcont hlost (rand.sub 0)
  obtain ⟨sets, hsets, hold⟩ := serverGtidSetReset_wellFormed hr ht hlost (rand.sub 1)
  obtain ⟨r', hrun⟩ :=
    serverReplStreamSwitch2Xsync_isSome hmode hdelta replid masterUuid reploff hsets
  obtain ⟨-, -, -, hsets'⟩ := serverReplStreamSwitch2Xsync_some hrun
  obtain rfl := Option.some.inj (hsets.symm.trans hsets')
  refine ⟨r', ?_, htset ▸ hold⟩
  simp only [slavePsyncXcontinue, hdiff, Option.bind_eq_bind, Option.bind_some, hrun]

theorem slavePsyncXcontinue_spec [RedisReplication] (hr : SetsInvariant r.toServerSets)
    (hmode : r.replMode.mode = .psync) (hdelta : r.gtidReploffDelta = 0) (hcont : RegularSet cont)
    (hlost : RegularSet lost) (masterUuid replid : Bytes) (reploff : Int) (rand : Rand) :
    ∃ r', slavePsyncXcontinue r cont lost masterUuid replid reploff rand = some r' ∧
      Holding r'.toServerSets r.uuid (contents cont \ contents lost) (contents lost) := by
  obtain ⟨r', hrun, hold⟩ := slavePsyncXcontinue_wellFormed (Holding.self hr).wellFormed hmode hdelta
    hcont.toWellFormedSet hlost.toWellFormedSet masterUuid replid reploff rand
  refine ⟨r', hrun, hold.holding ?_⟩
  rintro ⟨k, g⟩ hx
  rcases Finset.mem_union.mp hx with hx | hx
  · exact hcont.lt_max (Finset.mem_sdiff.mp hx).1
  · exact hlost.lt_max hx

/-- The continue set of an answer to a PSYNC request: all but the gtids indexed from the switch on. -/
theorem masterAnaPsyncRequest_xcontinue (h : WellFormedHolding s.toServerSets uuid E L)
    (hfits : MergeFits s.toServerSets)
    (hidx : ∀ seq, s.gtidSeq = some seq → ∃ l f, SeqRep seq l f)
    (hrun : masterAnaPsyncRequest s request rand = some result) {deltaLost : GtidSet}
    (hact : result.action = .xcontinue replid reploff cont deltaLost) :
    ∃ seq, s.gtidSeq = some seq ∧ request.offset = s.replMode.from ∧
      result.offset = s.replMode.from ∧ WellFormedSet cont ∧
      contents cont = (E ∪ L) \
        gtids (entriesFrom LogEntry.offset s.replMode.from (gtidSeqEntries seq)) := by
  obtain ⟨-, hoff, -, -, hcases⟩ := masterAnaPsyncRequest_some hrun (hact ▸ trivial)
  rcases hcases with ⟨limit, -, hact'⟩ | ⟨hlocate, hx⟩
  · exact nomatch hact.symm.trans hact'
  · have hfrom := ((locateServerReplMode_some hlocate).switch rfl).2.2
    obtain ⟨-, gtidMaster, seq, X, cont', n, hget, hseq, hX, hdiff, hact'⟩ := psyncXcontinue_some hx
    obtain ⟨gtidMaster', hget', hmaster, hmset, -⟩ :=
      serverGtidSetGet_wellFormed h hfits (rand.sub 0)
    obtain rfl := Option.some.inj (hget.symm.trans hget')
    obtain ⟨l, f, hrep⟩ := hidx seq hseq
    obtain ⟨X', hX', hXreg, hXset⟩ := gtidSeqPsync_rep hrep request.offset (rand.sub 1)
    obtain rfl := Option.some.inj (hX.symm.trans hX')
    obtain ⟨cont'', hdiff', hcont, -, hcset⟩ :=
      diff_wellFormedSet hmaster hXreg.toWellFormedSet (rand.sub 2)
    obtain ⟨rfl, -⟩ := Prod.mk.inj (Option.some.inj (hdiff.symm.trans hdiff'))
    obtain ⟨-, -, rfl, -⟩ := SyncAction.xcontinue.inj (hact.symm.trans hact')
    refine ⟨seq, hseq, hfrom, hoff.trans hfrom, hcont, ?_⟩
    rw [hcset, hmset, hXset, hfrom]

/-- The gtids indexed from the switch on. -/
noncomputable def indexedFromSwitch (s : Server) : Finset (Uuid × Int) :=
  match s.gtidSeq with
  | none => ∅
  | some seq => gtids ((gtidSeqEntries seq).filter (fun e => s.replMode.from ≤ e.offset))

/-- The answer at the switch. -/
theorem psyncXcontinue_isSome (h : Holding s.toServerSets uuid E L) {seq : GtidSeq}
    (hseq : s.gtidSeq = some seq) {l f : List (Addr × GtidSegment)} (hrep : SeqRep seq l f)
    (offset : Int) (rand : Rand) :
    ∃ result cont, psyncXcontinue s offset rand = some result ∧
      result.action = .xcontinue ((serverReplModeGetCurReplIdOff s (offset - 1)).1.getD [])
        (serverReplModeGetCurReplIdOff s (offset - 1)).2 cont gtidSetNew ∧
      result.offset = offset := by
  obtain ⟨gtidMaster, hget, hmaster, -⟩ := serverGtidSetGet_holding h (rand.sub 0)
  obtain ⟨X, hX, hXreg, -⟩ := gtidSeqPsync_rep hrep offset (rand.sub 1)
  obtain ⟨cont, hdiff, -⟩ := diff_regularSet hmaster hXreg (rand.sub 2)
  have hrun : psyncXcontinue s offset rand = some
      { action := .xcontinue ((serverReplModeGetCurReplIdOff s (offset - 1)).1.getD [])
          (serverReplModeGetCurReplIdOff s (offset - 1)).2 cont gtidSetNew
        offset := offset
        limit := 0
        msg := .psyncToXsync } := by
    simp only [psyncXcontinue, hget, hseq, hX, hdiff, Option.bind_eq_bind, Option.bind_some]
  exact ⟨_, cont, hrun, rfl, rfl⟩

/-- A server of uuid `A` that has executed the gnos of `B` from 4 on, and has lost some before. -/
theorem wellFormedHolding_max {e e' l : GtidSet} {m n added lost : Int}
    (hupdate : gtidSetCurrentUuidSetUpdate gtidSetNew [65] = some e)
    (hadd : gtidSetAdd e [66] 4 LLONG_MAX (fun _ => 0) = some (e', added))
    (hlost : gtidSetAdd gtidSetNew [66] m n (fun _ => 0) = some (l, lost)) (hm : 1 ≤ m)
    (hmn : m ≤ n) (hn : n < LLONG_MAX) :
    WellFormedHolding ⟨[65], e', l⟩ [65] (range [66] 4 LLONG_MAX) (range [66] m n) := by
  obtain ⟨e₁, hupdate₁, hcurrent, hempty, hnext⟩ :=
    gtidSetCurrentUuidSetUpdate_wellFormed regularSet_new.1.toWellFormedSet [65]
  obtain rfl := Option.some.inj (hupdate₁.symm.trans hupdate)
  have hzero : maxGno (contents e₁) [66] = 0 := by
    rw [hempty, contents_new]
    rfl
  obtain ⟨e₂, hadd₂, he₂, -, hset, hcur⟩ := hcurrent.add [66]
    (Or.inl ((hcurrent.maxGno_eq_zero_iff [66]).mp hzero)) (by decide : (1 : Int) ≤ 4)
    (by decide : 4 ≤ LLONG_MAX) (le_refl LLONG_MAX) (fun _ => 0)
  obtain ⟨rfl, -⟩ := Prod.mk.inj (Option.some.inj (hadd₂.symm.trans hadd))
  obtain ⟨l₂, hlost₂, hl₂, hlset⟩ := add_regularSet regularSet_new.1 [66] hm hmn hn (fun _ => 0)
  obtain ⟨rfl, -⟩ := Prod.mk.inj (Option.some.inj (hlost₂.symm.trans hlost))
  rw [hempty, contents_new, Finset.empty_union] at hset
  rw [contents_new, Finset.empty_union] at hlset
  exact ⟨he₂, hl₂.toWellFormedSet, (hcur.trans hnext).ge, rfl, hset, hlset⟩

end Switch

end XredisGtid
