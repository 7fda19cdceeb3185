import XredisGtid.ReplStreamRun

/-!
# Allocation over the life of a server

A server that turns to xsync empties its executed set, so that its next gno starts again.
The gtids it hands out stay distinct when it has a new uuid by then, or has not handed
out any gtid of the one it has.
-/
namespace XredisGtid
open Buffer Memory

/-- A server, the gtids it has handed out, the last one first, and the uuids that have been
generated. -/
structure Lifetime where
  server : Server
  handed : List (Uuid × Int)
  used : List Uuid

inductive LifetimeOp where
  /-- A write. -/
  | allocate
  | switchIfNeeded (toMode : Mode) (newReplid : Bytes) (newUuid : Uuid)
  | reset2Psync (replid : Bytes) (reploff : Int)

def LifetimeOp.step [RedisReplication] (l : Lifetime) (rand : Rand) : LifetimeOp → Option Lifetime
  | .allocate => do
    let (sets, gno) ← allocateGno l.server.toServerSets rand
    some { l with
      server := l.server.setSets sets
      handed := (l.server.uuid, gno) :: l.handed }
  | .switchIfNeeded toMode newReplid newUuid => do
    let server ← serverReplStreamSwitchIfNeeded l.server toMode newReplid newUuid rand
    some { l with server := server, used := newUuid :: l.used }
  | .reset2Psync replid reploff => do
    let server ← serverReplStreamReset2Psync l.server (some replid) reploff
    some { l with server := server }

/-- Writes get a gtid in xsync mode, and no uuid is generated twice. -/
def LifetimeOp.Valid (l : Lifetime) : LifetimeOp → Prop
  | .allocate => l.server.replMode.mode = .xsync
  | .switchIfNeeded _ _ newUuid => newUuid ∉ l.used
  | .reset2Psync .. => True

/-- After any sequence of operations that meet a condition, from a server that has executed
nothing. -/
inductive LifetimeReachable [RedisReplication] (cond : Lifetime → LifetimeOp → Prop) :
    Lifetime → Prop
  | start {s : Server} : SetsInvariant s.toServerSets → contents s.gtidExecuted = ∅ →
      LifetimeReachable cond ⟨s, [], [s.uuid]⟩
  | step {l l' : Lifetime} (op : LifetimeOp) (rand : Rand) : LifetimeReachable cond l →
      op.Valid l → cond l op → op.step l rand = some l' → LifetimeReachable cond l'

/-- A switch to xsync that keeps the uuid finds none of its gnos executed, and gnos do not run out. -/
def RenewsUuid (l : Lifetime) : LifetimeOp → Prop
  | .allocate => nextGno l.server.gtidExecuted l.server.uuid < LLONG_MAX
  | .switchIfNeeded toMode _ _ => l.server.replMode.mode = .psync → toMode ≠ .psync →
      l.server.prevReplMode.mode ≠ .xsync →
      ∀ gno, (l.server.uuid, gno) ∉ contents l.server.gtidExecuted
  | .reset2Psync .. => True

/-- The gtids handed out are distinct, and those of the server's own uuid are below the next gno. -/
structure AllocationInvariant (s : Server) (handed : List (Uuid × Int)) (used : List Uuid) :
    Prop where
  sets : SetsInvariant s.toServerSets
  above : SavedAbove s.toServerSets
  nodup : handed.Nodup
  positive : ∀ x ∈ handed, 1 ≤ x.2
  bounded : ∀ g, (s.uuid, g) ∈ handed → g ≤ maxGno (contents s.gtidExecuted) s.uuid
  own_used : s.uuid ∈ used
  used : ∀ x ∈ handed, x.1 ∈ used

section Allocations
variable {s s' : Server} {handed : List (Uuid × Int)} {used : List Uuid} {sets : ServerSets}
  {gno : Int} {toMode : Mode} {newReplid : Bytes} {newUuid : Uuid} {rand : Rand}

theorem AllocationInvariant.start (hsets : SetsInvariant s.toServerSets)
    (hempty : contents s.gtidExecuted = ∅) : AllocationInvariant s [] [s.uuid] := by
  have habove : SavedAbove s.toServerSets := by
    intro hne
    have hsaved := hsets.saved
    rw [hempty, maxGno_empty]
    omega
  exact ⟨hsets, habove, List.nodup_nil, by simp, by simp, by simp, by simp⟩

/-- The gno handed out is above all those of the uuid that have been. -/
theorem AllocationInvariant.allocate (h : AllocationInvariant s handed used)
    (hmax : nextGno s.gtidExecuted s.uuid < LLONG_MAX)
    (hrun : allocateGno s.toServerSets rand = some (sets, gno)) :
    AllocationInvariant (s.setSets sets) ((s.uuid, gno) :: handed) used := by
  obtain ⟨sets', hrun', hold, hzero⟩ := allocateGno_spec (Holding.self h.sets) hmax rand
  obtain ⟨rfl, hgno⟩ := Prod.mk.inj (Option.some.inj (hrun.symm.trans hrun'))
  have hnonneg := (h.sets.executed.maxGno_bounds s.uuid).1
  have habove : maxGno (contents s.gtidExecuted) s.uuid < gno := by
    have hsaved := h.above
    rw [hgno, nextOf]
    split
    · omega
    · next hne => exact hsaved hne
  have hmem : (s.uuid, gno) ∈ contents sets.gtidExecuted := by
    rw [hold.executed_eq, hgno]
    exact Finset.mem_union_right _ (Finset.mem_singleton_self _)
  have hle := le_maxGno hmem
  constructor
  · exact hold.toSetsInvariant
  · exact fun hne => absurd hzero hne
  · apply List.nodup_cons.mpr
    refine ⟨fun hmem => ?_, h.nodup⟩
    have := h.bounded gno hmem
    omega
  · intro x hx
    rcases List.mem_cons.mp hx with rfl | hx
    · show 1 ≤ gno
      omega
    · exact h.positive x hx
  · intro g hg
    have huuid : (s.setSets sets).uuid = s.uuid := hold.uuid
    rw [huuid] at hg ⊢
    rcases List.mem_cons.mp hg with heq | hg
    · obtain ⟨-, rfl⟩ := Prod.mk.inj heq
      exact hle
    · exact le_trans (h.bounded g hg) (le_trans habove.le hle)
  · have huuid : (s.setSets sets).uuid = s.uuid := hold.uuid
    rw [huuid]
    exact h.own_used
  · intro x hx
    rcases List.mem_cons.mp hx with rfl | hx
    · exact h.own_used
    · exact h.used x hx

/-- What keeps the sets keeps the invariant. -/
theorem AllocationInvariant.of_sets (h : AllocationInvariant s handed used)
    (hsets : s'.toServerSets = s.toServerSets) : AllocationInvariant s' handed used := by
  obtain ⟨hs, habove, hnodup, hpos, hbounded, hown, hused⟩ := h
  exact ⟨hsets ▸ hs, hsets ▸ habove, hnodup, hpos, by rw [hsets]; exact hbounded,
    by rw [hsets]; exact hown, hused⟩

theorem AllocationInvariant.generate (h : AllocationInvariant s handed used) (newUuid : Uuid) :
    AllocationInvariant s handed (newUuid :: used) :=
  { h with
    own_used := List.mem_cons_of_mem newUuid h.own_used
    used := fun x hx => List.mem_cons_of_mem newUuid (h.used x hx) }

/-- **Turning to xsync** leaves no gtid of the uuid below the next gno. -/
theorem AllocationInvariant.reenter (h : AllocationInvariant s handed used) {s₁ : Server}
    (hsets : SetsInvariant s₁.toServerSets) (hnone : ∀ g, (s₁.uuid, g) ∉ handed)
    (hused : s₁.uuid ∈ used)
    (hreset : serverGtidSetReset s₁.toServerSets gtidSetNew gtidSetNew rand =
      some s'.toServerSets) : AllocationInvariant s' handed used := by
  obtain ⟨sets, hreset', hold, habove, -⟩ := serverGtidSetReset_spec (Holding.self hsets)
    regularSet_new.1 regularSet_new.1 rand
  obtain rfl := Option.some.inj (hreset.symm.trans hreset')
  have huuid : s'.uuid = s₁.uuid := hold.uuid
  refine ⟨hold.toSetsInvariant, habove, h.nodup, h.positive, ?_, huuid ▸ hused, h.used⟩
  rw [huuid]
  exact fun g hg => absurd hg (hnone g)

/-- The uuid is a new one, or all is as before. -/
theorem renewUuid_sets (h : SetsInvariant s.toServerSets) {s₁ : Server}
    (hrenew : renewUuid s newUuid = some s₁) :
    SetsInvariant s₁.toServerSets ∧
      (s₁.uuid = newUuid ∨ s.prevReplMode.mode ≠ .xsync ∧ s₁ = s) := by
  rw [renewUuid] at hrenew
  split at hrenew
  · obtain ⟨e, hupdate, heq⟩ := Option.bind_eq_some_iff.mp hrenew
    obtain rfl := Option.some.inj heq
    obtain ⟨e', hupdate', he, -, hcur⟩ :=
      gtidSetCurrentUuidSetUpdate_spec h.executed.toRegularSet newUuid
    obtain rfl := Option.some.inj (hupdate.symm.trans hupdate')
    exact ⟨⟨he, h.lost, hcur ▸ h.saved⟩, Or.inl rfl⟩
  · next hprev =>
    obtain rfl := Option.some.inj hrenew
    exact ⟨h, Or.inr ⟨hprev, rfl⟩⟩

/-- A uuid none of whose gnos is executed has not been handed out. -/
theorem AllocationInvariant.notMem_handed (h : AllocationInvariant s handed used)
    (hnone : ∀ g, (s.uuid, g) ∉ contents s.gtidExecuted) (g : Int) : (s.uuid, g) ∉ handed := by
  intro hmem
  have hpos := h.positive _ hmem
  have hle := h.bounded g hmem
  have hzero : maxGno (contents s.gtidExecuted) s.uuid ≤ 0 :=
    maxGno_le (le_refl 0) (fun g hg => absurd hg (hnone g))
  dsimp only at hpos
  omega

/-- **A switch.** -/
theorem AllocationInvariant.switchIfNeeded [RedisReplication]
    (h : AllocationInvariant s handed used)
    (hfresh : newUuid ∉ used) (hrenews : RenewsUuid ⟨s, handed, used⟩
      (.switchIfNeeded toMode newReplid newUuid))
    (hrun : serverReplStreamSwitchIfNeeded s toMode newReplid newUuid rand = some s') :
    AllocationInvariant s' handed (newUuid :: used) := by
  have hgen := h.generate newUuid
  rcases serverReplStreamSwitchIfNeeded_some hrun with ⟨-, rfl⟩ | hsw | ⟨s₁, hrenew, hsw, hsets⟩
  · exact hgen
  · exact hgen.of_sets hsw.sets
  · have htarget : toMode ≠ .psync := by
      rintro rfl
      rw [serverReplStreamSwitchIfNeeded, if_pos hsw.was] at hrun
      obtain rfl := Option.some.inj hrun
      exact absurd (hsw.was.symm.trans hsw.mode) (by decide)
    obtain ⟨hs₁, hnew | ⟨hprev, rfl⟩⟩ := renewUuid_sets h.sets hrenew
    · apply hgen.reenter hs₁ _ _ hsets
      · rw [hnew]
        exact fun g hg => hfresh (h.used _ hg)
      · rw [hnew]
        exact List.mem_cons_self
    · exact hgen.reenter hs₁ (h.notMem_handed (hrenews hsw.was htarget hprev)) hgen.own_used hsets

/-- **One step.** -/
theorem LifetimeOp.step_allocationInvariant [RedisReplication] {l l' : Lifetime} {op : LifetimeOp}
    (h : AllocationInvariant l.server l.handed l.used) (hv : op.Valid l) (hrenews : RenewsUuid l op)
    (hrun : op.step l rand = some l') : AllocationInvariant l'.server l'.handed l'.used := by
  cases op with
  | allocate =>
    simp only [step, Option.bind_eq_bind, Option.bind_eq_some_iff, Prod.exists] at hrun
    obtain ⟨sets, gno, halloc, heq⟩ := hrun
    obtain rfl := Option.some.inj heq
    exact h.allocate hrenews halloc
  | switchIfNeeded toMode newReplid newUuid =>
    simp only [step, Option.bind_eq_bind, Option.bind_eq_some_iff] at hrun
    obtain ⟨s', hswitch, heq⟩ := hrun
    obtain rfl := Option.some.inj heq
    exact h.switchIfNeeded hv hrenews hswitch
  | reset2Psync replid reploff =>
    simp only [step, Option.bind_eq_bind, Option.bind_eq_some_iff] at hrun
    obtain ⟨s', hreset, heq⟩ := hrun
    obtain rfl := Option.some.inj heq
    obtain ⟨id, -, hreset⟩ := serverReplStreamReset2Psync_some hreset
    exact h.of_sets hreset.sets

/-- **No gtid is handed out twice**, in every run that renews the uuid. -/
theorem allocated_distinct [RedisReplication] {l : Lifetime} (h : LifetimeReachable RenewsUuid l) :
    l.handed.Nodup := by
  have hinv : AllocationInvariant l.server l.handed l.used := by
    induction h with
    | start hsets hempty => exact AllocationInvariant.start hsets hempty
    | step op rand _ hv hrenews hrun ih => exact op.step_allocationInvariant ih hv hrenews hrun
  exact hinv.nodup

/-- A server can always turn to xsync, and has then executed nothing. -/
theorem serverReplStreamSwitchIfNeeded_xsync [RedisReplication] (h : SetsInvariant s.toServerSets)
    (hmode : s.replMode.mode = .psync) (hdelta : s.gtidReploffDelta = 0) (newReplid : Bytes)
    (newUuid : Uuid) (rand : Rand) :
    ∃ s', serverReplStreamSwitchIfNeeded s .xsync newReplid newUuid rand = some s' ∧
      Holding s'.toServerSets (if s.prevReplMode.mode = .xsync then newUuid else s.uuid) ∅ ∅ ∧
      s'.replMode.mode = .xsync ∧
      (contents s.gtidLost = ∅ → s'.gtidExecuted.curnext = 0) := by
  obtain ⟨s₁, hrenew, huuid, hlost⟩ : ∃ s₁, renewUuid s newUuid = some s₁ ∧
      s₁.uuid = (if s.prevReplMode.mode = .xsync then newUuid else s.uuid) ∧
      s₁.gtidLost = s.gtidLost := by
    obtain ⟨e, hupdate, -⟩ := gtidSetCurrentUuidSetUpdate_spec h.executed.toRegularSet newUuid
    by_cases hprev : s.prevReplMode.mode = .xsync
    · refine ⟨{ s with uuid := newUuid, gtidExecuted := e }, ?_, (if_pos hprev).symm, rfl⟩
      rw [renewUuid, if_pos hprev, hupdate]
      rfl
    · exact ⟨s, if_neg hprev, (if_neg hprev).symm, rfl⟩
  have hs₁ := (renewUuid_sets h hrenew).1
  have hsame := renewUuid_some hrenew
  obtain ⟨sets, hreset, hold, -, hcur⟩ := serverGtidSetReset_spec (Holding.self hs₁)
    regularSet_new.1 regularSet_new.1 rand
  have hmode₁ : s₁.replMode.mode = .psync := by
    rw [hsame]
    exact hmode
  have hdelta₁ : s₁.gtidReploffDelta = 0 := by
    rw [hsame]
    exact hdelta
  obtain ⟨s', hswitch⟩ := serverReplStreamSwitch2Xsync_isSome hmode₁ hdelta₁ newReplid s₁.uuid
    s₁.masterReplOffset hreset
  obtain ⟨id, -, hsw, hsets⟩ := serverReplStreamSwitch2Xsync_some hswitch
  obtain rfl := Option.some.inj (hreset.symm.trans hsets)
  rw [contents_new] at hold
  refine ⟨s', ?_, huuid ▸ hold, hsw.mode, fun hempty => hcur (hlost ▸ hempty) contents_new⟩
  have hne : s.replMode.mode ≠ .xsync := by
    rw [hmode]
    decide
  rw [serverReplStreamSwitchIfNeeded, if_neg hne, if_neg (by decide), hrenew]
  exact hswitch

end Allocations

section Example
variable {cond : Lifetime → LifetimeOp → Prop} {s : Server} {handed : List (Uuid × Int)}
  {used : List Uuid} {uuid : Uuid}

/-- The first write of a server that has executed nothing. -/
theorem exists_first_write [RedisReplication] (hreach : LifetimeReachable cond ⟨s, handed, used⟩)
    (hold : Holding s.toServerSets uuid ∅ ∅) (hcur : s.gtidExecuted.curnext = 0)
    (hmode : s.replMode.mode = .xsync)
    (hcond : ∀ l, nextGno l.server.gtidExecuted l.server.uuid = 1 → cond l .allocate) :
    ∃ sets, LifetimeReachable cond ⟨s.setSets sets, (uuid, 1) :: handed, used⟩ ∧
      Holding sets uuid {(uuid, 1)} ∅ := by
  have hnext : nextOf ∅ s.gtidExecuted.curnext uuid = 1 := by
    rw [hcur]
    rfl
  have hgno : nextGno s.gtidExecuted s.uuid = 1 := by
    rw [nextGno_eq, hold.executed_eq, hold.uuid]
    exact hnext
  obtain ⟨sets, halloc, hold', -⟩ := allocateGno_spec hold (by rw [hnext]; decide) (fun _ => 0)
  rw [hnext, Finset.empty_union] at hold'
  rw [hnext] at halloc
  refine ⟨sets, .step .allocate (fun _ => 0) hreach hmode (hcond _ hgno) ?_, hold'⟩
  simp only [LifetimeOp.step, halloc, hold.uuid, Option.bind_eq_bind, Option.bind_some]

/-- A master that has handed out `A:1`. -/
theorem exists_allocated [RedisReplication]
    (hcond : ∀ l, nextGno l.server.gtidExecuted l.server.uuid = 1 → cond l .allocate) :
    ∃ sets, LifetimeReachable cond ⟨masterServer sets .xsync 100 0, [([65], 1)], [[65]]⟩ ∧
      Holding sets [65] {([65], 1)} ∅ := by
  obtain ⟨e, hupdate, -⟩ := gtidSetCurrentUuidSetUpdate_spec regularSet_new.1 [65]
  obtain ⟨hold, hcur⟩ : Holding ⟨[65], e, gtidSetNew⟩ [65] ∅ ∅ ∧ e.curnext = 0 :=
    serverStart_spec ⟨hupdate, rfl⟩
  have hstart : LifetimeReachable cond
      ⟨masterServer ⟨[65], e, gtidSetNew⟩ .xsync 100 0, [], [[65]]⟩ :=
    .start hold.toSetsInvariant hold.executed_eq
  exact exists_first_write hstart hold hcur rfl hcond

/-- It turns to xsync and hands out the gno 1 again. -/
theorem exists_reentered [RedisReplication] (hreach : LifetimeReachable cond ⟨s, [([65], 1)], used⟩)
    (hfresh : [66] ∉ used) (hold : Holding s.toServerSets [65] {([65], 1)} ∅) (hmode : s.replMode.mode = .psync)
    (hdelta : s.gtidReploffDelta = 0)
    (hswitch : cond ⟨s, [([65], 1)], used⟩ (.switchIfNeeded .xsync [50] [66]))
    (hcond : ∀ l, nextGno l.server.gtidExecuted l.server.uuid = 1 → cond l .allocate) :
    ∃ l, LifetimeReachable cond l ∧
      l.handed = [(if s.prevReplMode.mode = .xsync then [66] else [65], 1), ([65], 1)] := by
  obtain ⟨s', hrun, hold', hmode', hcur⟩ := serverReplStreamSwitchIfNeeded_xsync
    hold.toSetsInvariant hmode hdelta [50] [66] (fun _ => 0)
  have hreach' : LifetimeReachable cond ⟨s', [([65], 1)], [66] :: used⟩ := by
    refine .step (.switchIfNeeded .xsync [50] [66]) (fun _ => 0) hreach hfresh hswitch ?_
    simp only [LifetimeOp.step, hrun, Option.bind_eq_bind, Option.bind_some]
  obtain ⟨sets, hreach'', -⟩ :=
    exists_first_write hreach' hold' (hcur hold.lost_eq) hmode' hcond
  exact ⟨_, hreach'', by rw [hold.uuid]⟩

/-- A switch to psync and back. -/
theorem allocated_distinct_renewed :
    ∃ l, LifetimeReachable RenewsUuid l ∧ l.handed = [([66], 1), ([65], 1)] ∧ l.handed.Nodup := by
  have hcond : ∀ l : Lifetime, nextGno l.server.gtidExecuted l.server.uuid = 1 →
      RenewsUuid l .allocate := by
    intro l hnext
    show nextGno l.server.gtidExecuted l.server.uuid < LLONG_MAX
    rw [hnext]
    decide
  obtain ⟨sets, hreach, hold⟩ := exists_allocated hcond
  obtain ⟨s', hswitch⟩ := serverReplStreamSwitch2Psync_isSome (s := masterServer sets .xsync 100 0)
    rfl ⟨Bool.false_ne_true, Bool.false_ne_true⟩ (by decide : (0 : Int) ≤ 100) [49]
  obtain ⟨id, -, hsw⟩ := serverReplStreamSwitch2Psync_some hswitch
  have hneed : serverReplStreamSwitchIfNeeded (masterServer sets .xsync 100 0) .psync [49] [67]
      (fun _ => 0) = some s' := by
    have hne : (masterServer sets .xsync 100 0).replMode.mode ≠ .psync :=
      (by decide : Mode.xsync ≠ Mode.psync)
    rw [serverReplStreamSwitchIfNeeded, if_neg hne, if_pos rfl]
    exact hswitch
  have hreach' : LifetimeReachable RenewsUuid ⟨s', [([65], 1)], [[67], [65]]⟩ := by
    refine .step (.switchIfNeeded .psync [49] [67]) (fun _ => 0) hreach
      (by decide : ([67] : Uuid) ∉ [[65]]) (fun _ hne => absurd rfl hne) ?_
    simp only [LifetimeOp.step, hneed, Option.bind_eq_bind, Option.bind_some]
  have hold' : Holding s'.toServerSets [65] {([65], 1)} ∅ := hsw.sets ▸ hold
  obtain ⟨l, hl, hhanded⟩ := exists_reentered hreach' (by decide) hold' hsw.mode hsw.delta
    (fun _ _ hne => absurd hsw.prevMode hne) hcond
  rw [if_pos hsw.prevMode] at hhanded
  exact ⟨l, hl, hhanded, allocated_distinct hl⟩

/-- After a reset to psync the uuid is kept, and `A:1` is handed out again. -/
theorem allocated_twice :
    ¬ ∀ l, LifetimeReachable (fun _ _ => True) l → l.handed.Nodup := by
  intro hall
  obtain ⟨sets, hreach, hold⟩ : ∃ sets, LifetimeReachable (fun _ _ => True)
      ⟨masterServer sets .xsync 100 0, [([65], 1)], [[65]]⟩ ∧ Holding sets [65] {([65], 1)} ∅ :=
    exists_allocated (fun _ _ => trivial)
  obtain ⟨s', hrun⟩ : ∃ s', serverReplStreamReset2Psync (masterServer sets .xsync 100 0) (some [49])
      200 = some s' := ⟨_, rfl⟩
  obtain ⟨id, -, hreset⟩ := serverReplStreamReset2Psync_some hrun
  have hreach' : LifetimeReachable (fun _ _ => True) ⟨s', [([65], 1)], [[65]]⟩ := by
    refine .step (.reset2Psync [49] 200) (fun _ => 0) hreach trivial trivial ?_
    simp only [LifetimeOp.step, hrun, Option.bind_eq_bind, Option.bind_some]
  have hold' : Holding s'.toServerSets [65] {([65], 1)} ∅ := hreset.sets ▸ hold
  obtain ⟨l, hl, hhanded⟩ :=
    exists_reentered hreach' (by decide) hold' hreset.mode hreset.delta trivial (fun _ _ => trivial)
  have hnodup := hall l hl
  rw [hhanded, hreset.prevMode] at hnodup
  exact absurd hnodup (by decide)

end Example

end XredisGtid
