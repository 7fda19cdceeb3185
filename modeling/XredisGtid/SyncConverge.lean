import XredisGtid.SyncCatchUp

/-!
# Convergence of the handshake in xsync mode

A master in xsync mode answers the request of a replica with XCONTINUE.  Each side then
works out by itself which gtids of the other it will never execute, and takes them as
lost; the replica executes what it is sent.  `sets_converge` is the set algebra of it.
-/
namespace XredisGtid
open Buffer Memory OffsetLog KeyedIntervals

section SetAlgebra
variable {E L E' L' X : Finset (Uuid × Int)}

/-- **The equations of the handshake.**  `X`, executed by the master and not known to the replica, is
sent; the rest of each side that the other does not know is lost there. -/
theorem sets_converge (hdisj : Disjoint E L) (hdisj' : Disjoint E' L') (hX : X ⊆ E)
    (hnew : Disjoint X (E' ∪ L')) :
    E ∪ (L ∪ ((E' ∪ L') \ (E ∪ L))) = E' ∪ X ∪ (L' ∪ (((E ∪ L) \ X) \ (E' ∪ L'))) ∧
      Disjoint E (L ∪ ((E' ∪ L') \ (E ∪ L))) ∧
      Disjoint (E' ∪ X) (L' ∪ (((E ∪ L) \ X) \ (E' ∪ L'))) ∧
      (symmDiff E (E' ∪ X)).card = gapSize E E' X := by
  have hEL : ∀ x ∈ E, x ∉ L := fun _ hx => Finset.disjoint_left.mp hdisj hx
  have hEL' : ∀ x ∈ E', x ∉ L' := fun _ hx => Finset.disjoint_left.mp hdisj' hx
  have hXE : ∀ x ∈ X, x ∈ E := fun _ hx => hX hx
  have hXnew : ∀ x ∈ X, x ∉ E' ∧ x ∉ L' := by
    intro x hx
    have hnot := Finset.disjoint_left.mp hnew hx
    exact ⟨fun h => hnot (Finset.mem_union_left _ h), fun h => hnot (Finset.mem_union_right _ h)⟩
  refine ⟨?_, ?_, ?_, ?_⟩
  · ext x
    have := hXE x
    have := hXnew x
    simp only [Finset.mem_union, Finset.mem_sdiff]
    tauto
  · rw [Finset.disjoint_left]
    intro x hx
    have := hEL x hx
    simp only [Finset.mem_union, Finset.mem_sdiff]
    tauto
  · rw [Finset.disjoint_left]
    intro x
    have := hEL' x
    have := hXnew x
    simp only [Finset.mem_union, Finset.mem_sdiff]
    tauto
  · have hleft : E \ (E' ∪ X) = (E \ X) \ E' := by
      ext x
      simp only [Finset.mem_union, Finset.mem_sdiff]
      tauto
    have hright : (E' ∪ X) \ E = E' \ (E \ X) := by
      ext x
      have := hXE x
      have := hXnew x
      simp only [Finset.mem_union, Finset.mem_sdiff]
      tauto
    have hsplit : Disjoint (E \ (E' ∪ X)) ((E' ∪ X) \ E) := disjoint_sdiff_sdiff
    rw [symmDiff_def, Finset.sup_eq_union, Finset.card_union_of_disjoint hsplit, hleft, hright,
      gapSize]

end SetAlgebra

section Lost
variable {s s' : Server} {t : GtidSet} {uuid : Uuid} {E L L₁ D : Finset (Uuid × Int)} {rand : Rand}
  {saved : Int} {b : Bool}

/-- The lost set `L₁` after an update that did not abort: it has the gtids `D`, or they were ignored. -/
def LostOutcome (E L D : Finset (Uuid × Int)) (saved : Int) (uuid : Uuid)
    (L₁ : Finset (Uuid × Int)) : Prop :=
  LostTaken E L D saved uuid ∧ L₁ = L ∪ D ∨ ¬ LostTaken E L D saved uuid ∧ L₁ = L

theorem LostOutcome.bounds (h : LostOutcome E L D saved uuid L₁) : L ⊆ L₁ ∧ L₁ ⊆ L ∪ D := by
  rcases h with ⟨-, rfl⟩ | ⟨-, rfl⟩
  · exact ⟨Finset.subset_union_left, Finset.Subset.refl _⟩
  · exact ⟨Finset.Subset.refl _, Finset.subset_union_left⟩

theorem LostOutcome.taken (h : LostOutcome E L D saved uuid L₁) (hD : L₁ = L → D = ∅) :
    LostTaken E L D saved uuid := by
  rcases h with ⟨htaken, -⟩ | ⟨-, hsame⟩
  · exact htaken
  · exact Or.inl (hD hsame)

theorem updateLost_outcome (h : Holding s.toServerSets uuid E L) (ht : RegularSet t)
    (hrun : updateLost s t rand = some (s', b)) :
    ∃ L₁, Holding s'.toServerSets uuid E L₁ ∧
      LostOutcome E L (contents t) s.gtidExecuted.curnext uuid L₁ := by
  by_cases htaken : LostTaken E L (contents t) s.gtidExecuted.curnext uuid
  · obtain ⟨sets, b', hrun', hold⟩ := updateLost_taken h ht htaken rand
    obtain ⟨rfl, -⟩ := Prod.mk.inj (Option.some.inj (hrun.symm.trans hrun'))
    exact ⟨_, hold, Or.inl ⟨htaken, rfl⟩⟩
  · refine ⟨L, ?_, Or.inr ⟨htaken, rfl⟩⟩
    rw [LostTaken, not_or, not_and] at htaken
    by_cases hcard : 2 ^ 64 ∣ (contents t).card
    · rw [updateLost_wrapped ht.toWellFormedSet hcard rand] at hrun
      obtain ⟨rfl, -⟩ := Prod.mk.inj (Option.some.inj hrun)
      exact h
    · rw [updateLost_none h ht hcard (htaken.2 hcard) rand] at hrun
      exact nomatch hrun

theorem serverReplStreamUpdateXsync_outcome {fromMaster : Bool} {masterUuid replid : Option Bytes}
    {reploff : Int} (h : Holding s.toServerSets uuid E L) (ht : RegularSet t)
    (hrun : serverReplStreamUpdateXsync s t fromMaster masterUuid replid reploff rand =
      some (s', b)) :
    ∃ L₁, Holding s'.toServerSets uuid E L₁ ∧
      LostOutcome E L (contents t) s.gtidExecuted.curnext uuid L₁ := by
  obtain ⟨-, ⟨s₁, b₁, hlost, hsets⟩, -⟩ := serverReplStreamUpdateXsync_some hrun
  obtain ⟨L₁, hold, hcase⟩ := updateLost_outcome h ht hlost
  exact ⟨L₁, hsets ▸ hold, hcase⟩

end Lost

/-! ## The handshake -/

/-- A master and a replica in xsync mode, and a request of the replica that is answered XCONTINUE. -/
structure Handshake (s r : Server) (uuid k : Uuid) (E L E' L' : Finset (Uuid × Int))
    (request : XsyncRequest) (result : SyncResult) (replid : Bytes) (reploff : Int)
    (cont deltaLost : GtidSet) (rand : Rand) : Prop where
  master : Holding s.toServerSets uuid E L
  replica : Holding r.toServerSets k E' L'
  disjoint : Disjoint E L
  disjoint' : Disjoint E' L'
  mode : s.replMode.mode = .xsync
  mode' : r.replMode.mode = .xsync
  index : ∀ seq, s.gtidSeq = some seq → ∃ l f, SeqRep seq l f
  indexed : ∀ seq, s.gtidSeq = some seq → gtids (gtidSeqEntries seq) ⊆ E
  slave : RegularSet request.gtidSlave
  slave_eq : contents request.gtidSlave = E' ∪ L'
  lost : RegularSet request.gtidLost
  lost_eq : contents request.gtidLost = L'
  answer : masterAnaXsyncRequest s request rand = some result
  action : result.action = .xcontinue replid reploff cont deltaLost

/-- What the two sides are to end with: the same gtids, executed or lost but not both, and a gap that
counts those executed on one side only. -/
structure Converged (s r : ServerSets) (result : SyncResult) : Prop where
  union_eq : contents s.gtidExecuted ∪ contents s.gtidLost =
    contents r.gtidExecuted ∪ contents r.gtidLost
  disjoint : Disjoint (contents s.gtidExecuted) (contents s.gtidLost)
  disjoint' : Disjoint (contents r.gtidExecuted) (contents r.gtidLost)
  gap : ∃ maxgap, result.msg = .gapWithin
    (symmDiff (contents s.gtidExecuted) (contents r.gtidExecuted)).card maxgap

/-- The master takes in `deltaLost`, the replica follows the reply and then executes the gtids `l`,
none of them ignored, and the two sides converge. -/
def Converges (s r : Server) (result : SyncResult) (cont deltaLost : GtidSet)
    (masterUuid replid : Bytes) (reploff : Int) (l : List (Uuid × Int))
    (rand₁ rand₂ rand₃ : Rand) : Prop :=
  ∃ s' b r' sets,
    serverReplStreamUpdateXsync s deltaLost false none none (-1) rand₁ = some (s', b) ∧
    slaveXsyncXcontinue r cont masterUuid replid reploff rand₂ = some r' ∧
    gtidCommands r'.toServerSets l rand₃ = some (sets, l.map (fun _ => true)) ∧
    Converged s'.toServerSets sets result

section Handshake
variable {s r : Server} {uuid k : Uuid} {E L E' L' : Finset (Uuid × Int)} {request : XsyncRequest}
  {result : SyncResult} {masterUuid replid : Bytes} {reploff : Int} {cont deltaLost : GtidSet}
  {rand rand' : Rand} {l : List (Uuid × Int)}

/-- **What is sent is new to the replica**: an entry is sent when it is above all gnos of the request. -/
theorem streamed_disjoint {req : GtidSet} (hreq : RegularSet req) :
    Disjoint (gtids (streamed s req)) (contents req) := by
  rw [Finset.disjoint_left]
  intro x hx hmem
  obtain ⟨e, he, rfl⟩ := mem_gtids.mp hx
  rw [streamed] at he
  cases hseq : s.gtidSeq with
  | none => simp [hseq] at he
  | some seq =>
    rw [hseq] at he
    have hexpected := List.mem_rtakeWhile_imp he
    rw [expected_iff hreq.toWellFormedSet (hreq.maxGno_bounds e.uuid).2] at hexpected
    have hle : e.gno ≤ maxGno (contents req) e.uuid := le_maxGno hmem
    omega

theorem streamed_subset {req : GtidSet}
    (hindexed : ∀ seq, s.gtidSeq = some seq → gtids (gtidSeqEntries seq) ⊆ E) :
    gtids (streamed s req) ⊆ E := by
  rw [streamed]
  cases hseq : s.gtidSeq with
  | none => exact Finset.empty_subset E
  | some seq =>
    refine Finset.Subset.trans ?_ (hindexed seq hseq)
    intro x hx
    obtain ⟨e, he, rfl⟩ := mem_gtids.mp hx
    exact mem_gtids.mpr ⟨e, (List.rtakeWhile_suffix _ _).subset he, rfl⟩

/-- **The sets of the answer.** -/
theorem Handshake.answer_sets (h : Handshake s r uuid k E L E' L' request result replid reploff cont
    deltaLost rand) :
    RegularSet cont ∧ contents cont = (E ∪ L) \ gtids (streamed s request.gtidSlave) ∧
      RegularSet deltaLost ∧ contents deltaLost = (E' ∪ L') \ (E ∪ L) ∧
      ∃ maxgap, result.msg =
        .gapWithin (llong (gapSize E E' (gtids (streamed s request.gtidSlave)))) maxgap := by
  obtain ⟨cont', mlost, hcont, hmlost, hcset, hmset, -, hanswer⟩ :=
    masterAnaXsyncRequest_eq h.master h.index request h.slave h.lost rand
  obtain ⟨slr, -, haccept⟩ := hanswer result h.answer (h.action ▸ trivial)
  have hS : contents request.gtidSlave \ contents request.gtidLost = E' := by
    rw [h.slave_eq, h.lost_eq, Finset.union_sdiff_cancel_right h.disjoint']
  rw [hS] at haccept
  obtain ⟨-, ⟨hact, -⟩ | ⟨hmsg, hacts⟩⟩ := xsyncAccept_some haccept
  · exact nomatch h.action.symm.trans hact
  obtain ⟨hcont', hmlost'⟩ : cont = cont' ∧ deltaLost = mlost := by
    rcases hacts with ⟨limit, -, -, hact⟩ | ⟨-, -, hact⟩
    · obtain ⟨-, -, hcont', hmlost'⟩ := SyncAction.xcontinue.inj (h.action.symm.trans hact)
      exact ⟨hcont', hmlost'⟩
    · obtain ⟨-, -, hcont', hmlost'⟩ := SyncAction.xcontinue.inj (h.action.symm.trans hact)
      exact ⟨hcont', hmlost'⟩
  subst hcont' hmlost'
  refine ⟨hcont, hcset, hmlost, ?_, request.maxgap, hmsg⟩
  have hnew := h.slave_eq ▸ streamed_disjoint (s := s) h.slave
  rw [hmset, hcset, h.slave_eq]
  ext x
  have hx : x ∈ gtids (streamed s request.gtidSlave) → x ∉ E' ∪ L' :=
    fun hx => Finset.disjoint_left.mp hnew hx
  rw [Finset.mem_sdiff, Finset.mem_sdiff, Finset.mem_sdiff]
  tauto

/-- The gtids of a request's continue point are those that are streamed. -/
theorem xsyncContinuePoint_contents (hidx : ∀ seq, s.gtidSeq = some seq → ∃ l f, SeqRep seq l f)
    {req gtidXsync : GtidSet} {point : Int} (hreq : WellFormedSet req)
    (hpoint : xsyncContinuePoint s req rand = some (point, gtidXsync)) :
    contents gtidXsync = gtids (streamed s req) := by
  obtain ⟨X, hpoint', -, hX⟩ := xsyncContinuePoint_rep hidx hreq rand
  obtain ⟨-, rfl⟩ := Prod.mk.inj (Option.some.inj (hpoint.symm.trans hpoint'))
  exact hX

/-- Commands with gtids that the master has executed, and that are new to the replica. -/
theorem gtidCommands_sent {m q : ServerSets} {X L₁ : Finset (Uuid × Int)} (hm : Holding m uuid E L)
    (hq : Holding q k E' L₁) (hXE : X ⊆ E) (hnew : Disjoint X (E' ∪ L₁)) (hnodup : l.Nodup)
    (hl : l.toFinset = X) (rand : Rand) :
    ∃ sets, gtidCommands q l rand = some (sets, l.map (fun _ => true)) ∧
      Holding sets k (E' ∪ X) L₁ := by
  have hmem : ∀ x ∈ l, x ∈ X := fun x hx => hl ▸ List.mem_toFinset.mpr hx
  have hgno : ∀ x ∈ l, 1 ≤ x.2 ∧ x.2 < LLONG_MAX := by
    intro x hx
    have hE : (x.1, x.2) ∈ contents m.gtidExecuted := hm.executed_eq ▸ hXE (hmem x hx)
    exact ⟨hm.executed.one_le hE, hm.executed.lt_max hE⟩
  obtain ⟨sets, hrun, hold⟩ := gtidCommands_spec hq hnodup hgno
    (fun x hx => Finset.disjoint_left.mp hnew (hmem x hx)) rand
  exact ⟨sets, hrun, hl ▸ hold⟩

/-- What is sent is not what the replica takes as lost. -/
theorem sent_disjoint {U V X L₁ : Finset (Uuid × Int)} (hnew : Disjoint X (E' ∪ L'))
    (hL₁ : L₁ ⊆ L' ∪ ((U \ X) \ V)) : Disjoint X (E' ∪ L₁) := by
  rw [Finset.disjoint_left] at hnew ⊢
  intro x hx hmem
  have hx' := hnew hx
  have := @hL₁ x
  simp only [Finset.mem_union, Finset.mem_sdiff] at *
  tauto

/-- **The handshake converges exactly when** both sides take in what they lack, and the gap fits into
a `long long`. -/
theorem handshake_converges (h : Handshake s r uuid k E L E' L' request result replid reploff cont
      deltaLost rand) {point : Int} {gtidXsync : GtidSet}
    (hpoint : xsyncContinuePoint s request.gtidSlave rand' = some (point, gtidXsync))
    (hnodup : l.Nodup) (hl : l.toFinset = contents gtidXsync) (rand₁ rand₂ rand₃ : Rand) :
    Converges s r result cont deltaLost masterUuid replid reploff l rand₁ rand₂ rand₃ ↔
      (gapSize E E' (gtids (streamed s request.gtidSlave)) : Int) ≤ LLONG_MAX ∧
        LostTaken E L ((E' ∪ L') \ (E ∪ L)) s.gtidExecuted.curnext uuid ∧
        LostTaken E' L' (((E ∪ L) \ gtids (streamed s request.gtidSlave)) \ (E' ∪ L'))
          r.gtidExecuted.curnext k := by
  obtain ⟨hcont, hcset, hdelta, hdset, maxgap, hmsg⟩ := h.answer_sets
  rw [xsyncContinuePoint_contents h.index h.slave.toWellFormedSet hpoint] at hl
  have hXE : gtids (streamed s request.gtidSlave) ⊆ E := streamed_subset h.indexed
  have hnew : Disjoint (gtids (streamed s request.gtidSlave)) (E' ∪ L') :=
    h.slave_eq ▸ streamed_disjoint h.slave
  generalize gtids (streamed s request.gtidSlave) = X at *
  obtain ⟨hunion, hdisj, hdisj', hgap⟩ := sets_converge h.disjoint h.disjoint' hXE hnew
  obtain ⟨slost, hslost, hsset, hslave⟩ :=
    slaveXsyncXcontinue_eq h.replica hcont masterUuid replid reploff rand₂
  rw [hcset] at hsset
  constructor
  · rintro ⟨s', b, r', sets, hup, hfollow, hcmds, hconv⟩
    obtain ⟨L₁, hm, hmcase⟩ := serverReplStreamUpdateXsync_outcome h.master hdelta hup
    rw [hslave, Option.map_eq_some_iff] at hfollow
    obtain ⟨⟨r₁, b'⟩, hup', rfl⟩ := hfollow
    obtain ⟨L₂, hr, hrcase⟩ := serverReplStreamUpdateXsync_outcome h.replica hslost hup'
    rw [hdset] at hmcase
    rw [hsset] at hrcase
    obtain ⟨sets', hcmds', hold⟩ :=
      gtidCommands_sent h.master hr hXE (sent_disjoint hnew hrcase.bounds.2) hnodup hl rand₃
    obtain rfl := (Prod.mk.inj (Option.some.inj (hcmds.symm.trans hcmds'))).1
    have hsame := hconv.union_eq
    rw [hm.executed_eq, hm.lost_eq, hold.executed_eq, hold.lost_eq] at hsame
    refine ⟨?_, hmcase.taken (fun heq => ?_), hrcase.taken (fun heq => ?_)⟩
    · obtain ⟨maxgap', hmsg'⟩ := hconv.gap
      obtain ⟨heq, -⟩ := SyncMsg.gapWithin.inj (hmsg.symm.trans hmsg')
      rw [hm.executed_eq, hold.executed_eq, hgap] at heq
      exact (llong_natCast_iff _).mp heq
    · -- what the replica has is on both sides
      rw [Finset.sdiff_eq_empty_iff_subset, ← heq, hsame]
      exact Finset.union_subset_union Finset.subset_union_left hrcase.bounds.1
    · have hsub : E ∪ L ⊆ E' ∪ X ∪ L' := by
        rw [← heq, ← hsame]
        exact Finset.union_subset_union_right hmcase.bounds.1
      rw [Finset.sdiff_eq_empty_iff_subset, sdiff_le_iff, Finset.sup_eq_union, ← Finset.union_assoc,
        Finset.union_comm X]
      exact hsub
  · rintro ⟨hfits, htaken, htaken'⟩
    obtain ⟨sets₁, b₁, hlost₁, hm⟩ :=
      updateLost_taken h.master hdelta (hdset.symm ▸ htaken) rand₁
    obtain ⟨sets₂, b₂, hlost₂, hr⟩ :=
      updateLost_taken h.replica hslost (hsset.symm ▸ htaken') (rand₂.sub 2)
    rw [hdset] at hm
    rw [hsset] at hr
    obtain ⟨s', b, hup, hs', -⟩ := serverReplStreamUpdateXsync_sets h.mode
      (Or.inl ⟨rfl, rfl, (by decide : (-1 : Int) < 0)⟩) hlost₁
    obtain ⟨r', b', hup', hr', -⟩ : ∃ r' b', serverReplStreamUpdateXsync r slost true
        (some masterUuid) (some replid) reploff (rand₂.sub 2) = some (r', b') ∧
        r'.toServerSets = sets₂ ∧ UpdatedXsync r r' :=
      serverReplStreamUpdateXsync_sets h.mode' (Or.inr rfl) hlost₂
    have hm' : Holding s'.toServerSets uuid E (L ∪ ((E' ∪ L') \ (E ∪ L))) := hs' ▸ hm
    have hr'' : Holding r'.toServerSets k E' (L' ∪ (((E ∪ L) \ X) \ (E' ∪ L'))) := hr' ▸ hr
    obtain ⟨sets, hcmds, hold⟩ := gtidCommands_sent h.master hr'' hXE
      (sent_disjoint hnew (Finset.Subset.refl _)) hnodup hl rand₃
    refine ⟨s', b, r', sets, hup, by rw [hslave, hup']; rfl, hcmds, ?_⟩
    constructor
    · rw [hm'.executed_eq, hm'.lost_eq, hold.executed_eq, hold.lost_eq]
      exact hunion
    · rw [hm'.executed_eq, hm'.lost_eq]
      exact hdisj
    · rw [hold.executed_eq, hold.lost_eq]
      exact hdisj'
    · rw [hm'.executed_eq, hold.executed_eq, hgap, hmsg, (llong_natCast_iff _).mpr hfits]
      exact ⟨maxgap, rfl⟩

end Handshake

/-! ## Two handshakes -/

/-- A master in its first stage, which has just created its backlog. -/
def freshMaster (sets : ServerSets) : Server :=
  { masterServer sets .xsync 100 0 with
    replBacklog := ⟨true, CONFIG_REPL_BACKLOG_MIN_SIZE, 0, 101⟩
    gtidSeq := some gtidSeqCreate }

section Example
variable {sets rsets : ServerSets} {uuid k u : Uuid} {g : Int} {E L E' L' : Finset (Uuid × Int)}

/-- A server that has lost nothing of its own uuid has no next gno to save. -/
theorem updateAsserts_of_none {D : Finset (Uuid × Int)} {saved : Int} (hsaved : 0 ≤ saved)
    (hD : ∀ g, (uuid, g) ∉ D) : UpdateAsserts E D saved uuid := by
  intro hlt
  have hnone : maxGno D uuid ≤ 0 := maxGno_le (le_refl 0) (fun g hg => absurd hg (hD g))
  rw [nextOf] at hlt
  split at hlt <;> omega

/-- A replica with a gtid in common with such a master, and a small gap, is answered XCONTINUE, and
nothing is sent. -/
theorem exists_handshake (hs : Holding sets uuid E L) (hr : Holding rsets k E' L')
    (hdisj : Disjoint E L) (hdisj' : Disjoint E' L') (hu : (u, g) ∈ E')
    (hu' : u ∈ uuids sets.gtidExecuted ∨ u ∈ uuids sets.gtidLost)
    (hgap : llong (gapSize E E' ∅) ≤ 10000) :
    ∃ request result replid reploff cont deltaLost point X,
      Handshake (freshMaster sets) (masterServer rsets .xsync 100 0) uuid k E L E' L' request result
        replid reploff cont deltaLost (fun _ => 0) ∧
      streamed (freshMaster sets) request.gtidSlave = [] ∧
      xsyncContinuePoint (freshMaster sets) request.gtidSlave (fun _ => 0) = some (point, X) ∧
      contents X = ∅ := by
  have hm : Holding (freshMaster sets).toServerSets uuid E L := hs
  have hindex : ∀ seq, (freshMaster sets).gtidSeq = some seq → seq = gtidSeqCreate :=
    fun seq h => (Option.some.inj h).symm
  have hrep : ∀ seq, (freshMaster sets).gtidSeq = some seq → ∃ l f, SeqRep seq l f :=
    fun seq h => hindex seq h ▸ ⟨_, _, seqRep_create⟩
  obtain ⟨gtidSlave, hwrite, hslave, hset, huuids⟩ :=
    slaveTryPartialResynchronizationWrite_spec (r := masterServer rsets .xsync 100 0) hr rfl
      (fun _ => 0)
  let request : XsyncRequest :=
    ⟨GTID_XSYNC_UUID_INTERESTED_DEFAULT, gtidSlave, rsets.gtidLost, 10000⟩
  have hstream : streamed (freshMaster sets) gtidSlave = [] := by
    rw [(streamed_of_seq rfl gtidSlave).1, seqRep_create.entries_eq]
    rfl
  have hpoint : adjustContinuePoint (freshMaster sets)
      (continueOffset (freshMaster sets) gtidSlave) = 101 := by
    rw [(streamed_of_seq rfl gtidSlave).2, hstream]
    rfl
  obtain ⟨cont, mlost, -, -, hana⟩ :=
    masterAnaXsyncRequest_eq hm hrep request hslave hr.lost (fun _ => 0)
  have hS : contents request.gtidSlave \ contents request.gtidLost = E' := by
    show contents gtidSlave \ contents rsets.gtidLost = E'
    rw [hset, hr.lost_eq, Finset.union_sdiff_cancel_right hdisj']
  have huslave : u ∈ uuids gtidSlave :=
    mem_uuids_of_contents (hset ▸ Finset.mem_union_left _ hu)
  have hrun := hana.accepts .cur ⟨u, huslave, hu'⟩
    (by decide : GTID_XSYNC_UUID_INTERESTED_DEFAULT ≠ GTID_XSYNC_UUID_INTERESTED_FULLRESYNC)
    (fun h => absurd h.1 (by decide : ¬ Mode.xsync = Mode.psync)) (hpoint ▸ rfl) rfl
    (by rw [hS, hstream]; exact hgap)
  obtain ⟨X, hX, -, hXset⟩ :=
    xsyncContinuePoint_rep hrep hslave.toWellFormedSet (fun _ => 0)
  rw [hstream] at hXset
  exact ⟨request, _, _, _, cont, mlost, _, X, ⟨hm, hr, hdisj, hdisj', rfl, rfl, hrep,
    fun seq h => by rw [hindex seq h, seqRep_create.entries_eq]; exact Finset.empty_subset E,
    hslave, hset, hr.lost, hr.lost_eq, hrun, rfl⟩, hstream, hX, hXset⟩

/-- A master that has executed `A:1` and `B:1`, and a replica of uuid `B` that has executed `B:1`: the
replica takes `A:1` as lost. -/
theorem handshake_converges_lost :
    ∃ s r result replid reploff cont deltaLost, Converges s r result cont deltaLost
      (getMasterUuid s) replid reploff [] (fun _ => 0) (fun _ => 0) (fun _ => 0) := by
  obtain ⟨e, hupdate, -⟩ := gtidSetCurrentUuidSetUpdate_spec regularSet_new.1 [65]
  obtain ⟨hold, -⟩ := serverStart_spec (s := ⟨[65], e, gtidSetNew⟩) ⟨hupdate, rfl⟩
  obtain ⟨e', hupdate', -⟩ := gtidSetCurrentUuidSetUpdate_spec regularSet_new.1 [66]
  obtain ⟨hold', hcur'⟩ := serverStart_spec (s := ⟨[66], e', gtidSetNew⟩) ⟨hupdate', rfl⟩
  obtain ⟨sets, -, hs, -⟩ := gtidCommand_spec hold [66] (le_refl 1) (by decide) (fun _ => 0)
  obtain ⟨sets', -, hs', -⟩ := gtidCommand_spec hs [65] (le_refl 1) (by decide) (fun _ => 0)
  obtain ⟨rsets, -, hr, hcur⟩ := gtidCommand_spec hold' [66] (le_refl 1) (by decide) (fun _ => 0)
  rw [if_neg (by decide), Finset.empty_union] at hs hr
  rw [if_neg (by decide), if_neg (by decide), Finset.empty_union] at hs'
  have hu' : ([66] : Uuid) ∈ uuids sets'.gtidExecuted := by
    refine mem_uuids_of_contents (g := 1) ?_
    rw [hs'.executed_eq]
    decide
  obtain ⟨request, result, replid, reploff, cont, deltaLost, point, X, hshake, hstream, hpoint, hX⟩ :=
    exists_handshake hs' hr (Finset.disjoint_empty_right _) (Finset.disjoint_empty_right _)
      (Finset.mem_singleton_self _) (Or.inl hu') (by decide)
  refine ⟨_, _, result, replid, reploff, cont, deltaLost, (handshake_converges hshake hpoint
    List.nodup_nil hX.symm _ _ _).mpr ⟨?_, ?_, ?_⟩⟩
  · rw [hstream]
    decide
  · exact Or.inl (by decide)
  · rw [hstream]
    refine Or.inr ⟨by decide, updateAsserts_of_none (hcur.trans hcur').ge ?_⟩
    intro g hg
    simp at hg

/-- A master that has lost `A:1-10`, saved 11 as its next gno and then executed `A:11` and `A:13` in
GTID commands, and a replica that has executed `A:12` and `B:1`: when the master takes `A:12` as lost,
the saved gno is too low, and the gno it saves instead is below the next of the executed ones. -/
theorem handshake_aborts :
    ¬ ∀ (s r : Server) (uuid k : Uuid) (E L E' L' : Finset (Uuid × Int)) (request : XsyncRequest)
      (result : SyncResult) (replid : Bytes) (reploff : Int) (cont deltaLost : GtidSet) (point : Int)
      (gtidXsync : GtidSet) (rand : Rand),
      Handshake s r uuid k E L E' L' request result replid reploff cont deltaLost rand →
      xsyncContinuePoint s request.gtidSlave rand = some (point, gtidXsync) →
      ∀ l : List (Uuid × Int), l.Nodup → l.toFinset = contents gtidXsync →
      Converges s r result cont deltaLost (getMasterUuid s) replid reploff l rand rand rand := by
  intro hall
  obtain ⟨s, -, hold, hcur⟩ := exists_saved (fun _ _ => True) (fun _ _ => trivial)
  obtain ⟨s₁, -, hold₁, hcur₁⟩ := gtidCommand_spec hold [65] (show (1 : Int) ≤ 11 by decide)
    (by decide) (fun _ => 0)
  rw [if_neg (by rw [Finset.empty_union, mem_range]; decide), Finset.empty_union] at hold₁
  obtain ⟨s₂, -, hold₂, hcur₂⟩ := gtidCommand_spec hold₁ [65] (show (1 : Int) ≤ 13 by decide)
    (by decide) (fun _ => 0)
  rw [if_neg (by rw [Finset.mem_union, mem_range]; decide)] at hold₂
  obtain ⟨e', hupdate', -⟩ := gtidSetCurrentUuidSetUpdate_spec regularSet_new.1 [66]
  obtain ⟨hold', -⟩ := serverStart_spec (s := ⟨[66], e', gtidSetNew⟩) ⟨hupdate', rfl⟩
  obtain ⟨rsets, -, hr, -⟩ := gtidCommand_spec hold' [65] (show (1 : Int) ≤ 12 by decide)
    (by decide) (fun _ => 0)
  rw [if_neg (by decide), Finset.empty_union] at hr
  have hu' : ([65] : Uuid) ∈ uuids s₂.gtidExecuted := by
    refine mem_uuids_of_contents (g := 11) ?_
    rw [hold₂.executed_eq]
    decide
  have hdisj : Disjoint ({([65], 11)} ∪ {([65], 13)}) (range [65] 1 10) := by
    rw [Finset.disjoint_left]
    rintro ⟨k, g⟩ hmem hrange
    have := (mem_range.mp hrange).2.2
    simp only [Finset.mem_union, Finset.mem_singleton, Prod.mk.injEq] at hmem
    omega
  obtain ⟨request, result, replid, reploff, cont, deltaLost, point, X, hshake, hstream, hpoint, hX⟩ :=
    exists_handshake hold₂ hr hdisj (Finset.disjoint_empty_right _) (Finset.mem_singleton_self _)
      (Or.inl hu') (by decide)
  obtain ⟨s', b, r', sets, hup, -⟩ := hall _ _ _ _ _ _ _ _ _ _ _ _ _ _ _ _ _ hshake hpoint []
    List.nodup_nil hX.symm
  obtain ⟨-, -, hdelta, hdset, -⟩ := hshake.answer_sets
  obtain ⟨-, ⟨s₃, b₃, hlost, -⟩, -⟩ := serverReplStreamUpdateXsync_some hup
  have hD : contents deltaLost = {([65], 12)} := by
    rw [hdset]
    ext ⟨k, g⟩
    simp only [Finset.mem_sdiff, Finset.mem_union, Finset.mem_singleton, Finset.notMem_empty,
      or_false, mem_range, Prod.mk.injEq]
    refine ⟨fun h => h.1, fun h => ⟨h, ?_⟩⟩
    obtain ⟨rfl, rfl⟩ := h
    decide
  have hnot : ¬ UpdateAsserts ({([65], 11)} ∪ {([65], 13)}) (range [65] 1 10 ∪ contents deltaLost)
      s₂.gtidExecuted.curnext [65] := by
    intro hassert
    rw [hD, UpdateAsserts, nextOf, hcur₂, hcur₁, hcur, if_neg (by decide)] at hassert
    have htwelve : (12 : Int) ≤ maxGno (range [65] 1 10 ∪ {([65], 12)}) [65] := le_maxGno (by simp)
    have hthirteen : (13 : Int) ≤ maxGno ({([65], 11)} ∪ {([65], 13)}) ([65] : Uuid) :=
      le_maxGno (by simp)
    have hle : maxGno (range [65] 1 10 ∪ {([65], 12)}) [65] ≤ 12 := by
      refine maxGno_le (by decide) (fun g hg => ?_)
      simp only [Finset.mem_union, Finset.mem_singleton, mem_range, Prod.mk.injEq, true_and] at hg
      omega
    have := hassert (by omega)
    omega
  rw [updateLost_none hshake.master hdelta (by rw [hD]; decide) hnot] at hlost
  cases hlost

end Example

end XredisGtid
