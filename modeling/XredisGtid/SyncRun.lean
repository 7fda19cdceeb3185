import XredisGtid.SyncSpec

/-!
# Requests over runs

What holds of the analysis of requests in every run: no assertion about the repl modes
fails, and the offset a replica continues at is in the backlog.  The latter needs the
index to keep up with the backlog, which it does on a feed that is indexed, since that
trims it, but not on other feeds (`IndexKeepsUp`).
-/
namespace XredisGtid
open Buffer Memory OffsetLog

/-! ## The assertions about the repl modes -/

/-- Where an assertion about the modes could fail, none does: what fails then are the gtid sets. -/
structure ModeAssertsHold [RedisReplication] (s : Server) : Prop where
  shift : ∀ mode, s.replMode.mode ≠ mode → ∃ s', shiftServerReplMode s mode = some s'
  getReploff : ∃ reploff, ctripGetMasterReploff s = some reploff
  switch2Psync : s.replMode.mode = .xsync → ¬ s.master ∧ ¬ s.cachedMaster → ∀ replid reploff,
    0 ≤ reploff → ∃ s', serverReplStreamSwitch2Psync s (some replid) reploff = some s'
  switch2Xsync : s.replMode.mode = .psync →
    ∀ replid reploff masterUuid gtidExecuted gtidLost rand sets,
      serverGtidSetReset s.toServerSets gtidExecuted gtidLost rand = some sets →
      ∃ s', serverReplStreamSwitch2Xsync s (some replid) reploff (some masterUuid) gtidExecuted
        gtidLost rand = some s'
  updateFromMaster : s.replMode.mode = .xsync →
    ∀ deltaLost masterUuid replid reploff rand r, updateLost s deltaLost rand = some r →
      ∃ s' b, serverReplStreamUpdateXsync s deltaLost true masterUuid replid reploff rand =
        some (s', b)
  updateFromReplica : ∀ deltaLost rand r, updateLost s deltaLost rand = some r →
    ∃ s' b, serverReplStreamUpdateXsync s deltaLost false none none (-1) rand = some (s', b)
  locate : ∀ requestMode offset, requestMode = .psync ∨ requestMode = .xsync →
    ∃ slr, locateServerReplMode s requestMode offset = some slr
  anaPsync : ∀ request rand, masterAnaPsyncRequest s request rand = none →
    psyncXcontinue s request.offset rand = none

section Modes
variable {s : Server} {init : Server → Prop} {cond : Server → StreamOp → Prop}

theorem ReplModeInvariant.delta_or (h : ReplModeInvariant s) :
    s.replMode.mode = .xsync ∨ s.gtidReploffDelta = 0 := by
  have hset := h.set
  cases hmode : s.replMode.mode with
  | unset => exact absurd hmode hset
  | psync => exact Or.inr (h.delta hmode)
  | xsync => exact Or.inl rfl

/-- A PSYNC request in the previous stage, or at its end, finds that stage to be a psync one. -/
theorem ReplModeInvariant.prev_psync (h : ReplModeInvariant s) {offset : Int} {slr : LocateResult}
    (hlocate : locateServerReplMode s .psync offset = some slr)
    (hslr : (∃ limit, slr = .prev limit) ∨ slr = .switch) : s.prevReplMode.mode = .psync := by
  have hlocated := locateServerReplMode_some hlocate
  rcases hslr with ⟨limit, rfl⟩ | rfl
  · exact (hlocated.prev limit rfl).1.symm
  · obtain ⟨hne, hprev, -⟩ := hlocated.switch rfl
    exact h.prev_eq (by decide) hne hprev

theorem ReplModeInvariant.anaPsync (h : ReplModeInvariant s) {request : PsyncRequest} {rand : Rand}
    (hnone : masterAnaPsyncRequest s request rand = none) :
    psyncXcontinue s request.offset rand = none := by
  rw [masterAnaPsyncRequest] at hnone
  split at hnone
  · cases hnone
  split at hnone
  · cases hnone
  obtain ⟨slr, hlocate⟩ := locateServerReplMode_isSome h.set (Or.inl rfl) request.offset
  simp only [hlocate, Option.bind_eq_bind, Option.bind_some] at hnone
  cases slr with
  | prev limit =>
    have hprev := h.prev_psync hlocate (Or.inl ⟨limit, rfl⟩)
    simp only [psyncPrevious, guard, if_pos hprev, Option.pure_def, Option.bind_eq_bind,
      Option.bind_some] at hnone
    split at hnone <;> cases hnone
  | «switch» =>
    have hprev := h.prev_psync hlocate (Or.inr rfl)
    simp only [psyncPrevious, guard, if_pos hprev, Option.pure_def, Option.bind_eq_bind,
      Option.bind_some] at hnone
    split at hnone
    · exact hnone
    · cases hnone
  | _ => cases hnone

/-- **The repl modes stay consistent in every run**, and so no assertion about them fails. -/
theorem replMode_invariant [RedisReplication]
    (h : StreamReachable (fun _ => True) (fun _ _ => True) s) :
    ReplModeInvariant s ∧ ModeAssertsHold s := by
  have hinv := h.replModeInvariant
  refine ⟨hinv, ?_⟩
  constructor
  · intro mode hne
    exact ⟨_, shiftServerReplMode_eq ⟨hinv.set, hne⟩⟩
  · exact ⟨_, ctripGetMasterReploff_eq hinv.delta_or⟩
  · intro hmode hmaster replid reploff hreploff
    exact serverReplStreamSwitch2Psync_isSome hmode hmaster hreploff replid
  · intro hmode replid reploff masterUuid t u rand sets hsets
    exact serverReplStreamSwitch2Xsync_isSome hmode (hinv.delta hmode) replid masterUuid reploff hsets
  · intro hmode deltaLost masterUuid replid reploff rand r hlost
    exact serverReplStreamUpdateXsync_isSome hlost hinv.delta_or (Or.inr ⟨rfl, hmode⟩)
  · intro deltaLost rand r hlost
    exact serverReplStreamUpdateXsync_isSome hlost hinv.delta_or
      (Or.inl ⟨rfl, rfl, by decide⟩)
  · intro requestMode offset hrequest
    exact locateServerReplMode_isSome hinv.set hrequest offset
  · intro request rand hnone
    exact hinv.anaPsync hnone

/-- A server that is reset to psync, feeds 30 bytes, is switched to xsync, feeds an indexed
command and changes over to the stream of a master in psync mode. -/
theorem replMode_invariant_switched :
    ∃ s, StreamReachable (fun _ => True) (fun _ _ => True) s ∧ s.replMode.mode = .psync ∧
      s.prevReplMode.mode = .xsync ∧ ReplModeInvariant s ∧ ModeAssertsHold s := by
  have hrun : ∃ s, StreamReachable (fun _ => True) (fun _ _ => True) s ∧
      s.replMode.mode = .psync ∧ s.prevReplMode.mode = .xsync := by
    have h₁ : StreamReachable (fun _ => True) (fun _ _ => True) _ :=
      .start (s := masterServer ⟨[65], gtidSetNew, gtidSetNew⟩ .xsync 100 50)
        (.reset2Psync [49] 200) (fun _ => 0) trivial trivial rfl
    have h₂ := h₁.step (.feedSlaves none 0 201 30) (fun _ => 0)
      ⟨by decide, by decide, le_rfl⟩ trivial rfl
    have h₃ := h₂.step (.switchIfNeeded .xsync [50] [66]) (fun _ => 0) trivial trivial rfl
    have h₄ := h₃.step (.feedSlaves (some [65]) 1 231 40) (fun _ => 0)
      ⟨by decide, by decide, le_rfl⟩ trivial rfl
    exact ⟨_, h₄.step (.switch2Psync [51] 500) (fun _ => 0) trivial trivial rfl, rfl, rfl⟩
  obtain ⟨s, h, hmode, hprev⟩ := hrun
  exact ⟨s, h, hmode, hprev, replMode_invariant h⟩

end Modes

/-! ## The index and the backlog -/

/-- A server before it is started: the index is there when the backlog is. -/
def Paired (s : Server) : Prop :=
  s.gtidSeq.isSome = s.replBacklog.created ∧ 0 ≤ s.replBacklog.size

/-- A feed that is not indexed leaves all entries of the index in the backlog. -/
def IndexKeepsUp (s : Server) (op : StreamOp) : Prop :=
  ∀ f, op.feed s = some f →
    if f.touchIndex then f.gno < LLONG_MAX
    else s.replMode.mode = .xsync → ∀ seq, s.gtidSeq = some seq → ∀ e ∈ gtidSeqEntries seq,
      (s.replBacklog.feed f.n (s.masterReplOffset + f.n)).off ≤ e.offset

/-- The index `seq` of a server; in xsync mode all of its entries are in the backlog. -/
structure IndexInvariant (s : Server) (seq : GtidSeq) : Prop where
  rep : ∃ l f, SeqRep seq l f
  ahead : ∀ e ∈ gtidSeqEntries seq, e.offset ≤ s.masterReplOffset + 1
  within : s.replMode.mode = .xsync → ∀ e ∈ gtidSeqEntries seq, s.replBacklog.off ≤ e.offset

structure BacklogInvariant (s : Server) : Prop where
  modes : ReplModeInvariant s
  paired : Paired s
  range : s.replBacklog.created = true → 0 ≤ s.replBacklog.histlen ∧
    s.replBacklog.off + s.replBacklog.histlen = s.masterReplOffset + 1
  index : ∀ seq, s.gtidSeq = some seq → IndexInvariant s seq

section Backlog
variable {s s' : Server} {op : StreamOp} {rand : Rand} {seq : GtidSeq}

theorem gtidSeqEntries_create : gtidSeqEntries gtidSeqCreate = [] := seqRep_create.entries_eq

theorem indexInvariant_create : IndexInvariant s gtidSeqCreate := by
  refine ⟨⟨[], [], seqRep_create⟩, ?_, fun _ => ?_⟩
  · simp [gtidSeqEntries_create]
  · simp [gtidSeqEntries_create]

/-- Emptying the backlog, or leaving it away, restores the invariant whatever it was. -/
theorem EmptiedBacklog.backlogInvariant (h : EmptiedBacklog s s') (hpaired : Paired s)
    (hmodes : ReplModeInvariant s') : BacklogInvariant s' := by
  refine ⟨hmodes, ⟨?_, ?_⟩, ?_, ?_⟩
  · rw [h.seq, Option.isSome_map, h.backlog, hpaired.1]
    split
    · next hcreated => exact hcreated
    · rfl
  · rw [h.backlog]
    split
    · exact hpaired.2
    · exact hpaired.2
  · rw [h.backlog]
    split
    · intro _
      exact ⟨le_refl 0, Int.add_zero _⟩
    · next hcreated => exact fun h => absurd h hcreated
  · intro seq hseq
    rw [h.seq] at hseq
    obtain ⟨seq₀, -, rfl⟩ := Option.map_eq_some_iff.mp hseq
    exact indexInvariant_create

/-- The index is kept when neither it nor the range of the backlog changes. -/
theorem IndexInvariant.congr (h : IndexInvariant s seq)
    (hoff : s.masterReplOffset ≤ s'.masterReplOffset)
    (hwithin : s'.replMode.mode = .xsync → ∀ e ∈ gtidSeqEntries seq,
      s'.replBacklog.off ≤ e.offset) : IndexInvariant s' seq :=
  ⟨h.rep, fun e he => le_trans (h.ahead e he) (by omega), hwithin⟩

/-- A feed moves the range of the backlog. -/
theorem BacklogInvariant.feed_range (h : BacklogInvariant s) (n : Nat) :
    (s.replBacklog.feed n (s.masterReplOffset + n)).created = s.replBacklog.created ∧
      (s.replBacklog.feed n (s.masterReplOffset + n)).size = s.replBacklog.size ∧
      (s.replBacklog.created = true →
        0 ≤ (s.replBacklog.feed n (s.masterReplOffset + n)).histlen ∧
        (s.replBacklog.feed n (s.masterReplOffset + n)).off +
          (s.replBacklog.feed n (s.masterReplOffset + n)).histlen = s.masterReplOffset + n + 1) := by
  rw [ReplBacklog.feed]
  split
  · next hcreated =>
    have hsize := h.paired.2
    have hhistlen := (h.range hcreated).1
    refine ⟨rfl, rfl, fun _ => ?_⟩
    dsimp only
    omega
  · next hcreated => exact ⟨rfl, rfl, fun h => absurd h hcreated⟩

/-- What is known of a feed that is indexed. -/
theorem feed_bounds {f : Feed} (hf : op.feed s = some f) (hv : op.Valid s)
    (htouch : f.touchIndex = true) :
    (LLONG_MIN ≤ f.offset ∧ f.offset ≤ LLONG_MAX) ∧ f.offset ≤ s.masterReplOffset + 1 ∧
      1 ≤ f.gno := by
  cases op with
  | feedSlaves uuid gno offset n | feedSlavesFromMasterStream uuid gno offset n =>
    obtain rfl := Option.some.inj hf
    simp only [Bool.and_eq_true, decide_eq_true_eq] at htouch
    obtain ⟨hmin, hmax, hoff⟩ := hv
    refine ⟨⟨hmin, hmax⟩, hoff, ?_⟩
    show 1 ≤ gno
    unfold GTID_GNO_INITIAL at htouch
    omega
  | _ => exact nomatch hf

/-- **A feed** keeps the invariant if the index keeps up with it. -/
theorem Fed.backlogInvariant {f : Feed} (hfed : Fed s f s') (hf : op.feed s = some f)
    (h : BacklogInvariant s) (hmodes : ReplModeInvariant s') (hv : op.Valid s)
    (hcond : IndexKeepsUp s op) : BacklogInvariant s' := by
  obtain ⟨hcreated, hsize, hrange⟩ := h.feed_range f.n
  rw [← hfed.backlog] at hcreated hsize hrange
  have hindexed := hcond f hf
  have hrange' : s'.replBacklog.created = true → 0 ≤ s'.replBacklog.histlen ∧
      s'.replBacklog.off + s'.replBacklog.histlen = s'.masterReplOffset + 1 := by
    intro hc
    rw [hfed.offset]
    exact hrange (hcreated ▸ hc)
  cases htouch : f.touchIndex with
  | false =>
    rw [htouch, if_neg Bool.false_ne_true] at hindexed
    have hseq := hfed.untouched htouch
    refine ⟨hmodes, ⟨by rw [hseq, hcreated]; exact h.paired.1, by rw [hsize]; exact h.paired.2⟩,
      hrange', ?_⟩
    intro seq hseq'
    rw [hseq] at hseq'
    refine (h.index seq hseq').congr (by rw [hfed.offset]; omega) ?_
    rw [hfed.replMode, hfed.backlog]
    exact fun hmode => hindexed hmode seq hseq'
  | true =>
    rw [htouch, if_pos rfl] at hindexed
    obtain ⟨seq, seq₁, seq', hseq, happend, htrim, hseq'⟩ := hfed.indexed htouch
    have hindex := h.index seq hseq
    obtain ⟨l, fr, hrep⟩ := hindex.rep
    obtain ⟨hoff, hahead, hgno⟩ := feed_bounds hf hv htouch
    obtain ⟨seq₂, l₁, f₁, happend', hrep₁, hentries₁⟩ := gtidSeqAppend_rep hrep f.uuid
      (gtidSeqAppend_increasing hrep.toFilled happend) hoff ⟨hgno, hindexed⟩
    obtain rfl := Option.some.inj (happend'.symm.trans happend)
    obtain ⟨seq₃, l₂, f₂, htrim', hrep₂, hentries₂⟩ := gtidSeqTrim_rep hrep₁ s'.replBacklog.off
    obtain rfl := Option.some.inj (htrim'.symm.trans htrim)
    refine ⟨hmodes, ⟨?_, by rw [hsize]; exact h.paired.2⟩, hrange', ?_⟩
    · rw [hseq', hcreated, ← h.paired.1, hseq]
      rfl
    · intro seq hsome
      obtain rfl := Option.some.inj (hseq'.symm.trans hsome)
      refine ⟨⟨l₂, f₂, hrep₂⟩, ?_, ?_⟩
      · intro e he
        rw [hentries₂, hentries₁] at he
        rw [hfed.offset]
        rcases List.mem_append.mp (mem_entriesFrom.mp he).1 with he | he
        · have := hindex.ahead e he
          omega
        · rw [List.mem_singleton.mp he]
          dsimp only
          omega
      · intro _ e he
        rw [hentries₂] at he
        exact (mem_entriesFrom.mp he).2

/-- **One step** keeps the invariant if the index keeps up with it. -/
theorem StreamOp.step_backlogInvariant [RedisReplication] (h : BacklogInvariant s) (hv : op.Valid s)
    (hcond : IndexKeepsUp s op) (hrun : op.step s rand = some s') : BacklogInvariant s' := by
  have heff := StreamOp.step_effect hrun
  have hmodes := heff.replModeInvariant h.modes
  cases heff with
  | reset2Psync id reploff hreset => exact hreset.emptied.backlogInvariant h.paired hmodes
  | reset2Xsync replid reploff hreset => exact hreset.emptied.backlogInvariant h.paired hmodes
  | switched2Psync id reploff hsw =>
    by_cases hoff : s.masterReplOffset = reploff
    · obtain ⟨hbacklog, hseq⟩ := hsw.kept hoff
      refine ⟨hmodes, by rw [Paired, hbacklog, hseq]; exact h.paired, ?_, ?_⟩
      · rw [hbacklog, hsw.offset, ← hoff]
        exact h.range
      · intro seq hseq'
        rw [hseq] at hseq'
        refine (h.index seq hseq').congr (by rw [hsw.offset, hoff]) ?_
        exact fun hmode => nomatch hmode.symm.trans hsw.mode
    · exact (hsw.emptied hoff).backlogInvariant h.paired hmodes
  | switched2Xsync id reploff hsw =>
    refine ⟨hmodes, by rw [Paired, hsw.backlog, hsw.seq, Option.isSome_map]; exact h.paired, ?_, ?_⟩
    · rw [hsw.backlog, hsw.offset]
      exact h.range
    · intro seq hseq
      rw [hsw.seq] at hseq
      obtain ⟨seq₀, -, rfl⟩ := Option.map_eq_some_iff.mp hseq
      exact indexInvariant_create
  | updated hup hdelta =>
    refine ⟨hmodes, by rw [Paired, hup.backlog, hup.seq]; exact h.paired, ?_, ?_⟩
    · rw [hup.backlog, hup.offset]
      exact h.range
    · intro seq hseq
      rw [hup.seq] at hseq
      refine (h.index seq hseq).congr (by rw [hup.offset]) ?_
      rw [hup.replMode, hup.backlog]
      exact (h.index seq hseq).within
  | fed f hf hfed => exact hfed.backlogInvariant hf h hmodes hv hcond
  | backlog hsame hsize hbacklog =>
    cases hbacklog with
    | emptied hcreated hhistlen hoff hseq =>
      refine ⟨hmodes, ⟨by rw [hseq, hcreated]; rfl, hsize h.paired.2⟩, ?_, ?_⟩
      · intro _
        rw [hhistlen, hoff, hsame.offset]
        omega
      · intro seq hseq'
        obtain rfl := Option.some.inj (hseq.symm.trans hseq')
        exact indexInvariant_create
    | freed hcreated hseq =>
      refine ⟨hmodes, ⟨by rw [hseq, hcreated]; rfl, hsize h.paired.2⟩, ?_, ?_⟩
      · intro hc
        exact absurd (hcreated.symm.trans hc) Bool.false_ne_true
      · intro seq hseq'
        exact nomatch hseq.symm.trans hseq'
    | kept hcreated hhistlen hoff hseq =>
      refine ⟨hmodes, ⟨by rw [hseq, hcreated]; exact h.paired.1, hsize h.paired.2⟩, ?_, ?_⟩
      · rw [hcreated, hhistlen, hoff, hsame.offset]
        exact h.range
      · intro seq hseq'
        rw [hseq] at hseq'
        refine (h.index seq hseq').congr (by rw [hsame.offset]) ?_
        rw [hsame.replMode, hoff]
        exact (h.index seq hseq').within

/-- **Every run** in which the index keeps up with the backlog. -/
theorem StreamReachable.backlogInvariant [RedisReplication]
    (h : StreamReachable Paired IndexKeepsUp s) :
    BacklogInvariant s := by
  induction h with
  | start op rand hinit hop hrun =>
    have hmodes := hop.replModeInvariant hrun
    cases op with
    | reset2Psync replid reploff =>
      obtain ⟨id, -, hreset⟩ := serverReplStreamReset2Psync_some hrun
      exact hreset.emptied.backlogInvariant hinit hmodes
    | reset2Xsync replid reploff masterUuid t u newReplid =>
      exact (serverReplStreamReset2Xsync_some hrun).1.emptied.backlogInvariant hinit hmodes
    | _ => exact hop.elim
  | step op rand _ hv hcond hrun ih => exact StreamOp.step_backlogInvariant ih hv hcond hrun

end Backlog

/-! ## The continue point -/

/-- The answer continues inside of the backlog, and so the replica can be set up. -/
def ContinuesInBacklog [RedisReplication] (s : Server) (result : SyncResult) : Prop :=
  s.replBacklog.created = true → s.replBacklog.off ≤ result.offset ∧
    result.offset ≤ s.replBacklog.off + s.replBacklog.histlen ∧
    masterSetupPartialSynchronization s result.offset = some s

section Continue
variable {s : Server} {rand : Rand} {result : SyncResult}

/-- **The continue point of any request** is at most at the end of the backlog, and in xsync mode
not before its start. -/
theorem BacklogInvariant.continue_point (h : BacklogInvariant s) {req X : GtidSet} {point : Int}
    (hcreated : s.replBacklog.created = true)
    (hpoint : xsyncContinuePoint s req rand = some (point, X)) :
    adjustContinuePoint s point ≤ s.replBacklog.off + s.replBacklog.histlen ∧
      (s.replMode.mode = .xsync → s.replBacklog.off ≤ adjustContinuePoint s point) := by
  obtain ⟨hhistlen, hrange⟩ := h.range hcreated
  have hfrom := h.modes.from
  obtain ⟨seq, hseq⟩ := Option.isSome_iff_exists.mp (h.paired.1.trans hcreated)
  have hindex := h.index seq hseq
  obtain ⟨l, f, hrep⟩ := hindex.rep
  rw [xsyncContinuePoint, hseq] at hpoint
  rw [adjustContinuePoint]
  split
  · -- nothing is missing: the end of the stream, or the start of the psync stage
    split
    · exact ⟨by omega, fun _ => by omega⟩
    · next hmode => exact ⟨by omega, fun hxsync => absurd hxsync hmode⟩
  · next hnonneg =>
    rcases gtidSeqXsync_offset hrep hpoint with hneg | ⟨e, he, rfl⟩
    · dsimp only at hneg
      omega
    · have hahead := hindex.ahead e he
      exact ⟨by omega, fun hxsync => hindex.within hxsync e he⟩

theorem BacklogInvariant.xsync_in_backlog [RedisReplication] (h : BacklogInvariant s)
    {request : XsyncRequest}
    (hrun : masterAnaXsyncRequest s request rand = some result) (hact : result.action.Continues) :
    ContinuesInBacklog s result := by
  intro hcreated
  obtain ⟨gtidMaster, point, X, slr, cont, n, mlost, gap, -, -, hpoint, hbacklog, -, -, -, -, -,
    haccept⟩ := masterAnaXsyncRequest_some hrun hact
  obtain ⟨hhigh, hlow⟩ := h.continue_point hcreated hpoint
  have hmode := h.modes.set
  have hoff : s.replBacklog.off ≤ adjustContinuePoint s point := by
    cases hcur : s.replMode.mode with
    | unset => exact absurd hcur hmode
    | psync => exact Int.not_lt.mp (fun hlt => hbacklog ⟨hcur, hlt⟩)
    | xsync => exact hlow hcur
  rw [(xsyncAccept_some haccept).1]
  exact ⟨hoff, hhigh, masterSetupPartialSynchronization_eq hcreated hoff⟩

theorem psync_in_backlog [RedisReplication] {request : PsyncRequest}
    (hrun : masterAnaPsyncRequest s request rand = some result) (hact : result.action.Continues) :
    ContinuesInBacklog s result := by
  intro hcreated
  obtain ⟨-, hoff, hlow, hhigh, -⟩ := masterAnaPsyncRequest_some hrun hact
  rw [hoff]
  exact ⟨hlow, hhigh, masterSetupPartialSynchronization_eq hcreated hlow⟩

/-- **Every answer that lets a replica go on is inside of the backlog**, in every run in which the
index keeps up with it. -/
theorem continue_in_backlog [RedisReplication] (h : StreamReachable Paired IndexKeepsUp s)
    (rand : Rand) (result : SyncResult) (hact : result.action.Continues) :
    (∀ request, masterAnaXsyncRequest s request rand = some result →
      ContinuesInBacklog s result) ∧
    (∀ request, masterAnaPsyncRequest s request rand = some result →
      ContinuesInBacklog s result) :=
  ⟨fun _ hrun => h.backlogInvariant.xsync_in_backlog hrun hact,
    fun _ hrun => psync_in_backlog hrun hact⟩

end Continue

/-! ## A feed that the index does not follow -/

section Example

/-- A server in its first xsync stage, with an empty backlog. -/
theorem exists_xsync_server (cond : Server → StreamOp → Prop) (hcond : ∀ s, cond s .createBacklog)
    {t : GtidSet} (ht : RegularSet t) :
    ∃ s, StreamReachable Paired cond s ∧ Holding s.toServerSets [65] (contents t) ∅ ∧
      s.gtidSeq = some gtidSeqCreate ∧ s.replMode.mode = .xsync ∧ s.replMode.from = 1 ∧
      s.masterReplOffset = 0 ∧ s.masterhost = false ∧ s.replBacklog = ⟨true, 16384, 0, 1⟩ := by
  obtain ⟨e, hupdate, -⟩ := gtidSetCurrentUuidSetUpdate_spec regularSet_new.1 [65]
  have hstart : ServerStart ⟨[65], e, gtidSetNew⟩ := ⟨hupdate, rfl⟩
  obtain ⟨hold, -⟩ := serverStart_spec hstart
  obtain ⟨sets, hsets, hold', -⟩ := serverGtidSetReset_spec hold ht regularSet_new.1 (fun _ => 0)
  rw [contents_new] at hold'
  have hrun : ∃ s, (StreamOp.reset2Xsync (some [49]) 0 none t gtidSetNew []).step
      (masterServer ⟨[65], e, gtidSetNew⟩ .unset 0 0) (fun _ => 0) = some s :=
    serverReplStreamReset2Xsync_isSome _ _ _ _ hsets
  obtain ⟨s, hrun⟩ := hrun
  obtain ⟨hreset, hsets'⟩ := serverReplStreamReset2Xsync_some hrun
  obtain rfl := Option.some.inj (hsets.symm.trans hsets')
  have hpaired : Paired (masterServer ⟨[65], e, gtidSetNew⟩ .unset 0 0) :=
    ⟨rfl, show (0 : Int) ≤ CONFIG_REPL_BACKLOG_MIN_SIZE by decide⟩
  have hop : (StreamOp.reset2Xsync (some [49]) 0 none t gtidSetNew []).IsReset := trivial
  have hreach : StreamReachable Paired cond s := .start _ _ hpaired hop hrun
  have hoff : s.masterReplOffset = 0 := hreset.offset (le_refl 0)
  have hbacklog : s.replBacklog = ⟨false, 16384, 0, 0⟩ := hreset.emptied.backlog
  have hseq : s.gtidSeq = none := hreset.emptied.seq
  have hcreate : StreamOp.createBacklog.step s (fun _ => 0) =
      some { createReplicationBacklog s with gtidSeq := some gtidSeqCreate } := by
    simp only [StreamOp.step, ctripCreateReplicationBacklog, hseq, Option.isNone_none, guard,
      if_true, Option.pure_def, Option.bind_eq_bind, Option.bind_some]
  have hvalid : StreamOp.createBacklog.Valid s := trivial
  refine ⟨_, .step _ _ hreach hvalid (hcond s) hcreate, hold', rfl, hreset.mode, ?_, hoff,
    hreset.masterhost, ?_⟩
  · show s.replMode.from = 1
    rw [hreset.from, hoff]
    rfl
  · show s.replBacklog.create s.masterReplOffset = _
    rw [hbacklog, hoff]
    rfl

/-- The server has executed `B:1`, and `A:1`, which is indexed at the offset 1. -/
theorem exists_indexed_server (cond : Server → StreamOp → Prop) (hcond : ∀ s op,
      (∀ f, op.feed s = some f → f.touchIndex = true ∧ f.gno < LLONG_MAX) → cond s op) :
    ∃ s seq, StreamReachable Paired cond s ∧
      Holding s.toServerSets [65] {([66], 1), ([65], 1)} ∅ ∧ s.gtidSeq = some seq ∧
      (∃ l f, SeqRep seq l f) ∧ gtidSeqEntries seq = [⟨[65], 1, 1⟩] ∧ s.replMode.mode = .xsync ∧
      s.replMode.from = 1 ∧ s.masterReplOffset = 100 ∧ s.masterhost = false ∧
      s.replBacklog = ⟨true, 16384, 100, 1⟩ := by
  obtain ⟨t, ht, htset⟩ := exists_singleton_set [66] (le_refl 1) (by decide)
  obtain ⟨s, hreach, hold, hseq, hmode, hfrom, hoff, hhost, hbacklog⟩ :=
    exists_xsync_server cond (fun s => hcond s _ (fun f hf => nomatch hf)) ht
  rw [htset] at hold
  -- the command is executed
  obtain ⟨sets, -, hold', -⟩ := gtidCommand_spec hold [65] (le_refl 1) (by decide) (fun _ => 0)
  rw [if_neg (by decide)] at hold'
  have hreach₁ : StreamReachable Paired cond (s.setSets sets) :=
    .step (.changeSets sets) (fun _ => 0) hreach trivial (hcond _ _ (fun f hf => nomatch hf)) rfl
  -- and fed
  obtain ⟨seq₁, l₁, f₁, happend, hrep₁, hentries₁⟩ := gtidSeqAppend_rep seqRep_create [65]
    (show ∀ e ∈ gtidSeqEntries gtidSeqCreate, e.offset < 1 by simp [gtidSeqEntries_create])
    (by decide) (show 1 ≤ (1 : Int) ∧ 1 < LLONG_MAX by decide)
  obtain ⟨seq, l, f, htrim, hrep, hentries⟩ := gtidSeqTrim_rep hrep₁ 1
  rw [hentries₁, gtidSeqEntries_create] at hentries
  have hfed : ReplBacklog.feed ⟨true, 16384, 0, 1⟩ 100 100 = ⟨true, 16384, 100, 1⟩ := by decide
  have hfeed : (StreamOp.feedSlaves (some [65]) 1 1 100).step (s.setSets sets) (fun _ => 0) =
      some { feedReplicationBacklog (s.setSets sets) 100 with gtidSeq := some seq } := by
    simp only [StreamOp.step, ctripReplicationFeedSlaves, Server.setSets, hseq, hhost, feedIndexed,
      feedReplicationBacklog, hbacklog, hoff, happend, Option.isSome_some, GTID_GNO_INITIAL,
      Option.getD_some, Option.bind_eq_bind, Option.bind_some, ge_iff_le, le_refl, decide_true,
      Bool.and_self, Bool.not_false, if_true, hfed, htrim, Nat.cast_ofNat, Int.zero_add]
  refine ⟨_, seq, .step _ _ hreach₁ ?_ (hcond _ _ ?_) hfeed, hold', rfl, ⟨l, f, hrep⟩, hentries,
    hmode, hfrom, ?_, hhost, ?_⟩
  · refine ⟨by decide, by decide, ?_⟩
    show 1 ≤ s.masterReplOffset + 1
    rw [hoff]
    decide
  · rintro f hf
    obtain rfl := Option.some.inj hf
    simp [Server.setSets, hseq, hhost, GTID_GNO_INITIAL, LLONG_MAX]
  · show s.masterReplOffset + 100 = 100
    rw [hoff]
    rfl
  · show s.replBacklog.feed 100 (s.masterReplOffset + 100) = _
    rw [hbacklog, hoff]
    exact hfed

/-- A replica that has `B:1` is sent `A:1` from the offset 1 on. -/
theorem exists_answer {s : Server} {seq : GtidSeq}
    (hold : Holding s.toServerSets [65] {([66], 1), ([65], 1)} ∅) (hseq : s.gtidSeq = some seq)
    (hrep : ∃ l f, SeqRep seq l f) (hentries : gtidSeqEntries seq = [⟨[65], 1, 1⟩])
    (hmode : s.replMode.mode = .xsync) (hfrom : s.replMode.from = 1) :
    ∃ request result, masterAnaXsyncRequest s request (fun _ => 0) = some result ∧
      result.action.Continues ∧ result.offset = 1 := by
  obtain ⟨t, ht, htset⟩ := exists_singleton_set [66] (le_refl 1) (by decide)
  have hmax : maxGno (contents t) [65] = 0 := by
    refine le_antisymm (maxGno_le (le_refl 0) ?_) (ht.maxGno_bounds _).1
    intro g hg
    rw [htset] at hg
    simp at hg
  have hexpected : expected t ⟨[65], 1, 1⟩ = true := by
    rw [expected, decide_eq_true_eq, expectedGno, hmax]
    decide
  obtain ⟨hstream, hpoint⟩ := streamed_of_seq hseq t
  have hstream' : streamed s t = [⟨[65], 1, 1⟩] := by
    rw [hstream, hentries, List.rtakeWhile_eq_self_iff]
    simpa using hexpected
  rw [hstream'] at hpoint
  have hadjust : adjustContinuePoint s (continueOffset s t) = 1 := by
    rw [hpoint]
    rfl
  have hlocate : locateServerReplMode s .xsync 1 = some .cur := by
    simp [locateServerReplMode, hmode, hfrom, guard]
  have hgap : llong (gapSize {(([66] : Uuid), (1 : Int)), ([65], 1)} (contents t \ contents gtidSetNew)
      (gtids (streamed s t))) = 0 := by
    rw [hstream', htset, contents_new]
    decide
  have hslave : (([66] : Uuid), (1 : Int)) ∈ contents t := htset ▸ Finset.mem_singleton_self _
  have hmaster : (([66] : Uuid), (1 : Int)) ∈ contents s.gtidExecuted := by
    rw [hold.executed_eq]
    decide
  obtain ⟨_, _, -, -, hana⟩ := masterAnaXsyncRequest_eq hold
    (fun seq' hseq' => Option.some.inj (hseq.symm.trans hseq') ▸ hrep)
    ⟨GTID_XSYNC_UUID_INTERESTED_DEFAULT, t, gtidSetNew, 10000⟩ ht regularSet_new.1 (fun _ => 0)
  have hanswer := hana.accepts .cur
    ⟨[66], mem_uuids_of_contents hslave, Or.inl (mem_uuids_of_contents hmaster)⟩
    (show GTID_XSYNC_UUID_INTERESTED_DEFAULT ≠ GTID_XSYNC_UUID_INTERESTED_FULLRESYNC by decide)
    (fun h => absurd (h.1.symm.trans hmode) (by decide)) (hadjust ▸ hlocate) rfl
    (by rw [hgap]; exact (by decide : (0 : Int) ≤ 10000))
  exact ⟨_, _, hanswer, trivial, hadjust⟩

theorem continue_in_backlog_indexed :
    ∃ s request result, StreamReachable Paired IndexKeepsUp s ∧
      masterAnaXsyncRequest s request (fun _ => 0) = some result ∧
      ContinuesInBacklog s result := by
  obtain ⟨s, seq, hreach, hold, hseq, hrep, hentries, hmode, hfrom, -⟩ :=
    exists_indexed_server IndexKeepsUp (fun s op hop f hf => by
      rw [if_pos (hop f hf).1]
      exact (hop f hf).2)
  obtain ⟨request, result, hrun, hact, -⟩ := exists_answer hold hseq hrep hentries hmode hfrom
  exact ⟨s, request, result, hreach, hrun, (continue_in_backlog hreach _ result hact).1 request hrun⟩

/-- A PUBLISH of 20000 bytes pushes the offset 1 out of the backlog but not out of the index: the
replica is answered to continue there. -/
theorem continue_outside_backlog :
    ¬ ∀ (s : Server) (request : XsyncRequest) (rand : Rand) (result : SyncResult),
      StreamReachable Paired (fun _ _ => True) s →
      masterAnaXsyncRequest s request rand = some result → result.action.Continues →
      ContinuesInBacklog s result := by
  intro hall
  obtain ⟨s, seq, hreach, hold, hseq, hrep, hentries, hmode, hfrom, hoff, hhost, hbacklog⟩ :=
    exists_indexed_server (fun _ _ => True) (fun _ _ _ => trivial)
  have hfed : (StreamOp.feedSlaves none 0 101 20000).step s (fun _ => 0) =
      some (feedReplicationBacklog s 20000) := rfl
  have hvalid : (StreamOp.feedSlaves none 0 101 20000).Valid s :=
    ⟨by decide, by decide, by rw [hoff]; decide⟩
  obtain ⟨request, result, hrun, hact, hone⟩ :=
    exists_answer (s := feedReplicationBacklog s 20000) hold hseq hrep hentries hmode hfrom
  have hlow := (hall _ request _ result (.step _ _ hreach hvalid trivial hfed) hrun hact
    (by show (s.replBacklog.feed 20000 _).created = true; rw [hbacklog]; rfl)).1
  have hstart : (feedReplicationBacklog s 20000).replBacklog.off = 3717 := by
    show (s.replBacklog.feed 20000 (s.masterReplOffset + 20000)).off = 3717
    rw [hbacklog, hoff]
    decide
  rw [hstart, hone] at hlow
  exact absurd hlow (by decide)

end Example

end XredisGtid
