import XredisGtid.SyncSwitch

/-!
# Catching up after a switch to psync

A master has switched from xsync to psync while a replica lagged behind in the xsync
stage.  The replica is served in two steps: first it is sent what is left of the xsync
stage, up to the start of the psync stage, and then it is told to go on in psync.

Both sides merge their two sets for it, and the master searches its index for the first gno
that the replica lacks.  Both go wrong where a set reaches `LLONG_MAX`.
-/
namespace XredisGtid
open Buffer Memory OffsetLog KeyedIntervals

section Lagging
variable {s r : Server} {seq : GtidSeq} {req : GtidSet} {before suf : List LogEntry}
  {uuid k : Uuid} {E E' L : Finset (Uuid × Int)} {p : LogEntry}

/-- An entry whose uuid the request knows only below it is expected. -/
theorem expected_of_below (hreq : WellFormedSet req) {e : LogEntry} (hpos : 1 ≤ e.gno)
    (hmax : e.gno < LLONG_MAX) (hbelow : ∀ g, (e.uuid, g) ∈ contents req → g < e.gno) :
    expected req e = true := by
  have hlast : (e.uuid, LLONG_MAX) ∉ contents req := fun hmem =>
    lt_irrefl _ ((hbelow LLONG_MAX hmem).trans hmax)
  rw [expected_iff hreq ((hreq.maxGno_lt_iff e.uuid).mpr hlast)]
  have hle : maxGno (contents req) e.uuid ≤ e.gno - 1 := by
    refine maxGno_le (by omega) (fun g hg => ?_)
    have := hbelow g hg
    omega
  omega

/-- **A request that lacks the end of the log, and knows the rest,** is found to lack just that, if
the uuid of the last entry it knows does not reach `LLONG_MAX`. -/
theorem rtakeWhile_lagging (hreq : WellFormedSet req) (hall : ∀ e ∈ suf, expected req e = true)
    (hknown : ∀ e ∈ before, e.gtid ∈ contents req)
    (hlast : ∀ d ∈ before.getLast?, (d.uuid, LLONG_MAX) ∉ contents req) :
    (before ++ suf).rtakeWhile (expected req) = suf := by
  rcases List.eq_nil_or_concat before with rfl | ⟨pre, d, rfl⟩
  · rw [List.nil_append, List.rtakeWhile_eq_self_iff]
    exact hall
  · rw [List.concat_eq_append, List.append_assoc, List.singleton_append] at *
    refine rtakeWhile_concat_neg_append ?_ hall
    rw [← Bool.not_eq_true,
      expected_iff hreq ((hreq.maxGno_lt_iff d.uuid).mpr (hlast d (by simp)))]
    have hd : (d.uuid, d.gno) ∈ contents req := hknown d (by simp)
    have := le_maxGno hd
    omega

/-- An earlier entry is not among the later ones when gnos increase. -/
theorem notMem_gtids_of_increasing
    (hinc : (before ++ suf).Pairwise (fun a b => a.uuid = b.uuid → a.gno < b.gno))
    {e : LogEntry} (he : e ∈ before) : e.gtid ∉ gtids suf := by
  intro hmem
  obtain ⟨d, hd, heq⟩ := mem_gtids.mp hmem
  obtain ⟨huuid, hgno⟩ := Prod.mk.inj heq
  have := (List.pairwise_append.mp hinc).2.2 e he d hd huuid.symm
  omega

/-- A master in psync mode after an xsync stage that ended at `replMode.from`, its index still
holding the entries of that stage. -/
structure TurnedToPsync (s : Server) (uuid : Uuid) (E L : Finset (Uuid × Int)) (seq : GtidSeq) :
    Prop where
  sets : WellFormedHolding s.toServerSets uuid E L
  disjoint : Disjoint E L
  mode : s.replMode.mode = .psync
  prev : s.prevReplMode.mode = .xsync
  delta : s.gtidReploffDelta = 0
  index : s.gtidSeq = some seq
  rep : ∃ l f, SeqRep seq l f
  range : ∀ e ∈ gtidSeqEntries seq, s.prevReplMode.from ≤ e.offset ∧ e.offset < s.replMode.from
  increasing : (gtidSeqEntries seq).Pairwise (fun a b => a.uuid = b.uuid → a.gno < b.gno)
  executed : gtids (gtidSeqEntries seq) ⊆ E
  created : s.replBacklog.created = true
  nonneg : 0 ≤ s.replBacklog.off

/-- A replica in xsync mode that lacks the entries from `p` on and nothing else, `p` being in the
backlog; what it has of their uuids comes before them. -/
structure Lagging (s r : Server) (k : Uuid) (E E' L : Finset (Uuid × Int)) (seq : GtidSeq)
    (before : List LogEntry) (p : LogEntry) (suf : List LogEntry) : Prop where
  sets : WellFormedHolding r.toServerSets k E' L
  mode : r.replMode.mode = .xsync
  interested : r.gtidUuidInterested = GTID_XSYNC_UUID_INTERESTED_DEFAULT
  maxgap : 0 ≤ r.gtidXsyncMaxGap
  split : gtidSeqEntries seq = before ++ p :: suf
  lacks : E' ∪ L = (E ∪ L) \ gtids (p :: suf)
  below : ∀ e ∈ p :: suf, ∀ g, (e.uuid, g) ∈ (E ∪ L) \ gtids (p :: suf) → g < e.gno
  backlog : s.replBacklog.off ≤ p.offset
  related : ∃ u, (u ∈ uuids r.gtidExecuted ∨ u ∈ uuids r.gtidLost) ∧
    (u ∈ uuids s.gtidExecuted ∨ u ∈ uuids s.gtidLost)

theorem TurnedToPsync.hidx (h : TurnedToPsync s uuid E L seq) :
    ∀ seq', s.gtidSeq = some seq' → ∃ l f, SeqRep seq' l f := by
  intro seq' hseq'
  obtain rfl := Option.some.inj (h.index.symm.trans hseq')
  exact h.rep

theorem TurnedToPsync.gno_bounds (h : TurnedToPsync s uuid E L seq) :
    ∀ e ∈ gtidSeqEntries seq, 1 ≤ e.gno ∧ e.gno < LLONG_MAX := by
  obtain ⟨l, f, hrep⟩ := h.rep
  exact hrep.gno_bounds

/-- What is streamed is of uuids that do not reach `LLONG_MAX`. -/
theorem Lagging.max_notMem (h : TurnedToPsync s uuid E L seq)
    (hl : Lagging s r k E E' L seq before p suf) {e : LogEntry} (he : e ∈ p :: suf) :
    (e.uuid, LLONG_MAX) ∉ E ∪ L := by
  intro hmem
  have hindexed : ∀ d ∈ p :: suf, d.gno < LLONG_MAX := fun d hd =>
    (h.gno_bounds d (hl.split ▸ List.mem_append_right before hd)).2
  have hX : (e.uuid, LLONG_MAX) ∉ gtids (p :: suf) := by
    intro hX
    obtain ⟨d, hd, heq⟩ := mem_gtids.mp hX
    exact (hindexed d hd).ne (Prod.mk.inj heq).2
  have hlt := hl.below e he LLONG_MAX (Finset.mem_sdiff.mpr ⟨hmem, hX⟩)
  exact lt_irrefl _ (hlt.trans (hindexed e he))

theorem interested_ne {interested : Bytes} (h : interested = GTID_XSYNC_UUID_INTERESTED_DEFAULT) :
    interested ≠ GTID_XSYNC_UUID_INTERESTED_FULLRESYNC := by
  rw [h]
  decide

/-- Nothing is missed on either side: the gap is zero. -/
theorem gapSize_zero {X S : Finset (Uuid × Int)} (hdisj : Disjoint E L)
    (hS : S = (E ∪ L) \ X) : gapSize E (S \ L) X = 0 := by
  have hsame : S \ L = E \ X := by
    rw [hS]
    ext x
    have hnot : x ∈ E → x ∉ L := fun hx => Finset.disjoint_left.mp hdisj hx
    simp only [Finset.mem_sdiff, Finset.mem_union]
    tauto
  rw [gapSize, hsame, Finset.sdiff_self, Finset.card_empty]

/-- A request that lacks just what is streamed, of a replica with the master's lost gtids, has no
gap. -/
theorem TurnedToPsync.no_gap (h : TurnedToPsync s uuid E L seq)
    (hlost : contents r.gtidLost = L) (hset : contents req = (E ∪ L) \ gtids (streamed s req)) :
    llong (gapSize E (contents req \ contents r.gtidLost) (gtids (streamed s req))) = 0 := by
  rw [hlost, gapSize_zero h.disjoint hset]
  rfl

/-- The uuid of the last entry that the replica has does not reach `LLONG_MAX`. -/
def LastKnownFits (before : List LogEntry) (E L : Finset (Uuid × Int)) : Prop :=
  ∀ d ∈ before.getLast?, (d.uuid, LLONG_MAX) ∉ E ∪ L

/-- The master has executed what is streamed. -/
theorem Lagging.streamed_executed (h : TurnedToPsync s uuid E L seq)
    (hl : Lagging s r k E E' L seq before p suf) : gtids (p :: suf) ⊆ E := by
  intro x hx
  obtain ⟨e, he, rfl⟩ := mem_gtids.mp hx
  exact h.executed (mem_gtids.mpr ⟨e, hl.split ▸ List.mem_append_right before he, rfl⟩)

/-- The replica has the same gtids as the master once it has executed what is streamed. -/
theorem Lagging.union_streamed (h : TurnedToPsync s uuid E L seq)
    (hl : Lagging s r k E E' L seq before p suf) : E' ∪ gtids (p :: suf) ∪ L = E ∪ L := by
  have hsub : gtids (p :: suf) ⊆ E ∪ L := (hl.streamed_executed h).trans Finset.subset_union_left
  rw [Finset.union_right_comm, hl.lacks, Finset.sdiff_union_of_subset hsub]

/-- The uuid of the last entry of all does not reach `LLONG_MAX`. -/
theorem Lagging.lastKnownFits (h : TurnedToPsync s uuid E L seq)
    (hl : Lagging s r k E E' L seq before p suf) : LastKnownFits (gtidSeqEntries seq) E L := by
  intro d hd
  rw [hl.split, List.getLast?_append_of_ne_nil before (List.cons_ne_nil p suf)] at hd
  exact hl.max_notMem h (List.mem_of_getLast? hd)

/-- **The replica executes what is streamed**: it has executed none of it before, and both sides have
executed `p` then. -/
theorem Lagging.executes (h : TurnedToPsync s uuid E L seq)
    (hl : Lagging s r k E E' L seq before p suf) {sets : ServerSets}
    (hold : WellFormedHolding sets k E' L) (hfits : MergeFits sets) {l : List (Uuid × Int)}
    (hnodup : l.Nodup) (hX : l.toFinset = gtids (p :: suf)) (rand : Rand) :
    ∃ sets', gtidCommands sets l rand = some (sets', l.map (fun _ => true)) ∧
      WellFormedHolding sets' k (E' ∪ gtids (p :: suf)) L ∧ MergeFits sets' ∧
      ∃ u, (u ∈ uuids sets'.gtidExecuted ∨ u ∈ uuids sets'.gtidLost) ∧
        (u ∈ uuids s.gtidExecuted ∨ u ∈ uuids s.gtidLost) := by
  have hmem : ∀ {x}, x ∈ l → x ∈ gtids (p :: suf) := fun hx => hX ▸ List.mem_toFinset.mpr hx
  have hgno : ∀ x ∈ l, 1 ≤ x.2 ∧ x.2 < LLONG_MAX := by
    intro x hx
    obtain ⟨e, he, rfl⟩ := mem_gtids.mp (hmem hx)
    exact h.gno_bounds e (hl.split ▸ List.mem_append_right before he)
  have hmax : ∀ x ∈ l, (x.1, LLONG_MAX) ∉ E ∪ L := by
    intro x hx
    obtain ⟨e, he, rfl⟩ := mem_gtids.mp (hmem hx)
    exact hl.max_notMem h he
  have hhas : ∀ x ∈ E', x ∈ E ∪ L := fun x hx =>
    (Finset.mem_sdiff.mp (hl.lacks ▸ Finset.mem_union_left L hx)).1
  have hnew : ∀ x ∈ l, x ∉ E' ∪ L := by
    intro x hx hold
    rw [hl.lacks] at hold
    exact (Finset.mem_sdiff.mp hold).2 (hmem hx)
  obtain ⟨sets', hcmds, hold', hfits'⟩ := gtidCommands_wellFormed hold hnodup hgno
    (fun x hx hin => hmax x hx (hhas _ hin)) hnew rand
  rw [hX] at hold'
  have hp : p.gtid ∈ gtids (p :: suf) := mem_gtids.mpr ⟨p, by simp, rfl⟩
  refine ⟨sets', hcmds, hold', ?_, p.uuid, Or.inl (mem_uuids_of_contents (g := p.gno) ?_),
    Or.inl (mem_uuids_of_contents (g := p.gno) ?_)⟩
  · exact hfits' hfits (fun x hx hin => hmax x hx (Finset.mem_union_right E hin))
  · rw [hold'.executed_eq]
    exact Finset.mem_union_right _ hp
  · rw [h.sets.executed_eq]
    exact hl.streamed_executed h hp

/-- The entries from `p` on are expected by a request of the replica. -/
theorem Lagging.expected (h : TurnedToPsync s uuid E L seq)
    (hl : Lagging s r k E E' L seq before p suf) (hreq : WellFormedSet req)
    (hset : contents req = (E ∪ L) \ gtids (p :: suf)) {e : LogEntry} (he : e ∈ p :: suf) :
    XredisGtid.expected req e = true := by
  have hbounds := h.gno_bounds e (hl.split ▸ List.mem_append_right before he)
  exact expected_of_below hreq hbounds.1 hbounds.2 (hset ▸ hl.below e he)

/-- The search finds just the entries from `p` on. -/
theorem Lagging.streamed_eq (h : TurnedToPsync s uuid E L seq)
    (hl : Lagging s r k E E' L seq before p suf) (hlast : LastKnownFits before E L)
    (hreq : WellFormedSet req) (hset : contents req = (E ∪ L) \ gtids (p :: suf)) :
    streamed s req = p :: suf := by
  have hinc := h.increasing
  rw [hl.split] at hinc
  rw [(streamed_of_seq h.index req).1, hl.split]
  refine rtakeWhile_lagging hreq (fun e he => hl.expected h hreq hset he) ?_ ?_
  · intro e he
    have hmem : e ∈ gtidSeqEntries seq := hl.split ▸ List.mem_append_left _ he
    rw [hset, Finset.mem_sdiff]
    exact ⟨Finset.mem_union_left _ (h.executed (mem_gtids.mpr ⟨e, hmem, rfl⟩)),
      notMem_gtids_of_increasing hinc he⟩
  · intro d hd hmem
    rw [hset] at hmem
    exact hlast d hd (Finset.mem_sdiff.mp hmem).1

/-- **The first request** is answered with the rest of the xsync stage. -/
theorem lagging_first_answer (h : TurnedToPsync s uuid E L seq)
    (hl : Lagging s r k E E' L seq before p suf) (hmaster : MergeFits s.toServerSets)
    (hreplica : MergeFits r.toServerSets) (hlast : LastKnownFits before E L) (rand rand' : Rand) :
    ∃ request result replid reploff cont deltaLost,
      slaveTryPartialResynchronizationWrite r rand = some request ∧
      locateServerReplMode s .xsync p.offset = some (.prev (s.replMode.from - p.offset)) ∧
      masterAnaXsyncRequest s request rand' = some result ∧
      result.action = .xcontinue replid reploff cont deltaLost ∧
      result.offset = p.offset ∧ result.limit = s.replMode.from - p.offset ∧ 0 < result.limit ∧
      WellFormedSet cont ∧ contents cont = E' ∪ L ∧
      WellFormedSet deltaLost ∧ contents deltaLost = ∅ := by
  have hp : p ∈ gtidSeqEntries seq := by
    rw [hl.split]
    simp
  have hrange := h.range p hp
  obtain ⟨gtidSlave, hwrite, hslave, hset, huuids⟩ :=
    slaveTryPartialResynchronizationWrite_wellFormed hl.sets hreplica hl.mode rand
  rw [hl.lacks] at hset
  have hstream := hl.streamed_eq h hlast hslave hset
  have hpoint : adjustContinuePoint s (continueOffset s gtidSlave) = p.offset := by
    have hnonneg := h.nonneg
    have hback := hl.backlog
    rw [(streamed_of_seq h.index gtidSlave).2, hstream]
    exact if_neg (by dsimp only [headOffset]; omega)
  have hlocate : locateServerReplMode s .xsync p.offset =
      some (.prev (s.replMode.from - p.offset)) := by
    have h₁ : ¬ p.offset > s.replMode.from := by omega
    have h₂ : p.offset ≠ s.replMode.from := by omega
    have h₃ : s.prevReplMode.from < s.replMode.from := by omega
    simp [locateServerReplMode, guard, h.mode, h.prev, h₁, h₂, h₃, hrange.1, hrange.2]
  obtain ⟨cont, mlost, hcont, hmlost, hana⟩ := masterAnaXsyncRequest_wellFormed h.sets hmaster
    h.hidx ⟨r.gtidUuidInterested, gtidSlave, r.gtidLost, r.gtidXsyncMaxGap⟩ hslave hl.sets.lost rand'
  obtain ⟨u, hur, hus⟩ := hl.related
  have hgap := h.no_gap hl.sets.lost_eq (hstream ▸ hset)
  have hanswer := hana.accepts (.prev (s.replMode.from - p.offset)) ⟨u, (huuids u).mpr hur, hus⟩
    (interested_ne hl.interested) (fun hlow => absurd hl.backlog (by rw [hpoint] at hlow; omega))
    (hpoint ▸ hlocate) rfl (by rw [hgap]; exact hl.maxgap)
  have hcset := hana.cont_eq
  have hmset := hana.mlost_eq
  dsimp only at hcset hmset
  rw [hstream] at hcset
  refine ⟨_, _, _, _, cont, mlost, hwrite, hlocate, hanswer, rfl, hpoint, rfl, ?_, hcont, ?_,
    hmlost, ?_⟩
  · show 0 < s.replMode.from - p.offset
    omega
  · rw [hcset, hl.lacks]
  · rw [hmset, hcset, hset, Finset.sdiff_self]

/-- **The second request**, of a replica that has the same gtids as the master, is answered that it
goes on in psync from the start of that stage. -/
theorem lagging_second_answer (h : TurnedToPsync s uuid E L seq) (hmaster : MergeFits s.toServerSets)
    (hsets : WellFormedHolding r.toServerSets k E' L) (hreplica : MergeFits r.toServerSets)
    (hsame : E' ∪ L = E ∪ L) (hlast : LastKnownFits (gtidSeqEntries seq) E L)
    (hmode : r.replMode.mode = .xsync)
    (hinterested : r.gtidUuidInterested = GTID_XSYNC_UUID_INTERESTED_DEFAULT)
    (hmaxgap : 0 ≤ r.gtidXsyncMaxGap) (hbacklog : s.replBacklog.off ≤ s.replMode.from)
    (hrelated : ∃ u, (u ∈ uuids r.gtidExecuted ∨ u ∈ uuids r.gtidLost) ∧
      (u ∈ uuids s.gtidExecuted ∨ u ∈ uuids s.gtidLost)) (rand rand' : Rand) :
    ∃ request result deltaLost, slaveTryPartialResynchronizationWrite r rand = some request ∧
      locateServerReplMode s .xsync s.replMode.from = some .switch ∧
      masterAnaXsyncRequest s request rand' = some result ∧
      result.action = .continue s.replid (s.replMode.from - 1) (some deltaLost) ∧
      result.offset = s.replMode.from ∧ WellFormedSet deltaLost ∧ contents deltaLost = ∅ := by
  obtain ⟨gtidSlave, hwrite, hslave, hset, huuids⟩ :=
    slaveTryPartialResynchronizationWrite_wellFormed hsets hreplica hmode rand
  rw [hsame] at hset
  have hstream : streamed s gtidSlave = [] := by
    rw [(streamed_of_seq h.index gtidSlave).1, ← List.append_nil (gtidSeqEntries seq)]
    refine rtakeWhile_lagging hslave (by simp) ?_ (hset ▸ hlast)
    intro e he
    rw [hset]
    exact Finset.mem_union_left _ (h.executed (mem_gtids.mpr ⟨e, he, rfl⟩))
  have hpoint : adjustContinuePoint s (continueOffset s gtidSlave) = s.replMode.from := by
    have hpsync : s.replMode.mode ≠ .xsync := by
      rw [h.mode]
      decide
    rw [(streamed_of_seq h.index gtidSlave).2, hstream, adjustContinuePoint,
      if_pos (by decide : headOffset [] < 0), if_neg hpsync]
  have hlocate : locateServerReplMode s .xsync s.replMode.from = some .switch := by
    simp [locateServerReplMode, guard, h.mode, h.prev]
  obtain ⟨cont, mlost, hcont, hmlost, hana⟩ := masterAnaXsyncRequest_wellFormed h.sets hmaster
    h.hidx ⟨r.gtidUuidInterested, gtidSlave, r.gtidLost, r.gtidXsyncMaxGap⟩ hslave hsets.lost rand'
  obtain ⟨u, hur, hus⟩ := hrelated
  have hgap := h.no_gap hsets.lost_eq (by rw [hset, hstream, gtids_nil, Finset.sdiff_empty])
  have hanswer := hana.accepts .switch ⟨u, (huuids u).mpr hur, hus⟩ (interested_ne hinterested)
    (fun hlow => absurd hbacklog (by rw [hpoint] at hlow; omega)) (hpoint ▸ hlocate) rfl
    (by rw [hgap]; exact hmaxgap)
  have hcset := hana.cont_eq
  have hmset := hana.mlost_eq
  dsimp only at hcset hmset
  rw [hstream, gtids_nil, Finset.sdiff_empty] at hcset
  rw [hpoint] at hanswer
  exact ⟨_, _, mlost, hwrite, hlocate, hanswer, rfl, rfl, hmlost,
    by rw [hmset, hcset, hset, Finset.sdiff_self]⟩

theorem count_eq_zero {t : GtidSet} (ht : WellFormedSet t) (hempty : contents t = ∅) :
    gtidSetCount t = 0 := by
  rw [ht.count, hempty, Finset.card_empty]
  rfl

/-- The reply to the first request of the replica has it execute the entries from `p` on, and the
reply to its next one has it go on in psync, one byte before the start of that stage. -/
def CatchesUpInTwoSteps [RedisReplication] (s r : Server) (p : LogEntry) (suf : List LogEntry) :
    Prop :=
  ∀ rand rand', ∃ request result replid reploff cont deltaLost,
    slaveTryPartialResynchronizationWrite r rand = some request ∧
    locateServerReplMode s .xsync p.offset = some (.prev (s.replMode.from - p.offset)) ∧
    masterAnaXsyncRequest s request rand' = some result ∧
    result.action = .xcontinue replid reploff cont deltaLost ∧
    result.offset = p.offset ∧ result.limit = s.replMode.from - p.offset ∧ 0 < result.limit ∧
    contents deltaLost = ∅ ∧
    ∀ rand, masterReplySyncRequest s result rand =
        some (s, .xcontinue cont s.gtidLost (getMasterUuid s) replid reploff) ∧
      ∃ r', slaveXsyncXcontinue r cont (getMasterUuid s) replid reploff rand = some r' ∧
        ∀ l : List (Uuid × Int), l.Nodup → l.toFinset = gtids (p :: suf) → ∀ rand, ∃ sets,
          gtidCommands r'.toServerSets l rand = some (sets, l.map (fun _ => true)) ∧
          ∀ rand rand', ∃ request result deltaLost,
            slaveTryPartialResynchronizationWrite (r'.setSets sets) rand = some request ∧
            locateServerReplMode s .xsync s.replMode.from = some .switch ∧
            masterAnaXsyncRequest s request rand' = some result ∧
            result.action = .continue s.replid (s.replMode.from - 1) (some deltaLost) ∧
            result.offset = s.replMode.from ∧ contents deltaLost = ∅ ∧
            ∀ rand, masterReplySyncRequest s result rand =
              some (s, .continue s.replid (some (s.replMode.from - 1)))

theorem Lagging.catchesUp [RedisReplication] (h : TurnedToPsync s uuid E L seq)
    (hl : Lagging s r k E E' L seq before p suf) (hmaster : MergeFits s.toServerSets)
    (hreplica : MergeFits r.toServerSets) (hlast : LastKnownFits before E L) :
    CatchesUpInTwoSteps s r p suf := by
  intro rand rand'
  obtain ⟨request, result, replid, reploff, cont, deltaLost, hwrite, hlocate, hanswer, hact, hoff,
    hlimit, hpos, hcont, hcset, hdelta, hdset⟩ :=
      lagging_first_answer h hl hmaster hreplica hlast rand rand'
  refine ⟨request, result, replid, reploff, cont, deltaLost, hwrite, hlocate, hanswer, hact, hoff,
    hlimit, hpos, hdset, ?_⟩
  intro rand₁
  refine ⟨masterReplySyncRequest_xcontinue_eq h.created hact (count_eq_zero hdelta hdset)
    (hoff ▸ hl.backlog) (Or.inr h.delta) rand₁, ?_⟩
  -- the replica has all that is not sent, so it takes nothing as lost
  obtain ⟨slost, hslost, hsset, hslave⟩ := slaveXsyncXcontinue_wellFormed hl.sets hreplica hcont
    (getMasterUuid s) replid reploff rand₁
  rw [hcset, Finset.sdiff_self] at hsset
  have hlost : updateLost r slost (rand₁.sub 2) = some (r, false) := by
    refine updateLost_wrapped hslost ?_ (rand₁.sub 2)
    rw [hsset, Finset.card_empty]
    exact dvd_zero _
  obtain ⟨r', b', hup, hsets, hsame⟩ : ∃ r' b', serverReplStreamUpdateXsync r slost true
      (some (getMasterUuid s)) (some replid) reploff (rand₁.sub 2) = some (r', b') ∧
      r'.toServerSets = r.toServerSets ∧ UpdatedXsync r r' :=
    serverReplStreamUpdateXsync_sets hl.mode (Or.inr rfl) hlost
  refine ⟨r', by rw [hslave, hup]; rfl, ?_⟩
  intro l hnodup hX rand₂
  obtain ⟨sets, hcmds, hold, hfits, hrelated⟩ :=
    hl.executes h (hsets ▸ hl.sets) (hsets ▸ hreplica) hnodup hX rand₂
  refine ⟨sets, hcmds, ?_⟩
  intro rand₃ rand₄
  have hrange := h.range p (hl.split ▸ List.mem_append_right before (by simp))
  have hback := hl.backlog
  have hnonneg := h.nonneg
  obtain ⟨request', result', deltaLost', hwrite', hlocate', hanswer', hact', hoff', hdelta', hdset'⟩ :=
    lagging_second_answer (r := r'.setSets sets) h hmaster hold hfits (hl.union_streamed h)
      (hl.lastKnownFits h) (hsame.replMode ▸ hl.mode) (hsame.interested.trans hl.interested)
      (hsame.maxgap ▸ hl.maxgap) (by omega) hrelated rand₃ rand₄
  refine ⟨request', result', deltaLost', hwrite', hlocate', hanswer', hact', hoff', hdset', ?_⟩
  intro rand₅
  exact masterReplySyncRequest_continue_eq h.created hact' (count_eq_zero hdelta' hdset')
    (by omega) (by omega) (Or.inr h.delta) rand₅

/-- The search goes on before `p` if the uuid of the entry before reaches `LLONG_MAX`: the gno after
that wraps around, and the entry counts as one that is lacking. -/
theorem Lagging.continueOffset_lt (h : TurnedToPsync s uuid E L seq)
    (hl : Lagging s r k E E' L seq before p suf) (hlast : ¬ LastKnownFits before E L)
    (hreq : WellFormedSet req) (hset : contents req = (E ∪ L) \ gtids (p :: suf)) :
    continueOffset s req < p.offset := by
  rw [LastKnownFits] at hlast
  push Not at hlast
  obtain ⟨d, hd, hmem⟩ := hlast
  obtain ⟨pre, rfl⟩ : ∃ pre, before = pre ++ [d] := List.getLast?_eq_some_iff.mp hd
  obtain ⟨l, f, hrep⟩ := h.rep
  have hordered := hrep.ordered
  rw [← hrep.entries_eq, hl.split] at hordered
  have hearlier : ∀ e ∈ pre ++ [d], e.offset < p.offset := fun e he =>
    (List.pairwise_append.mp hordered).2.2 e he p (by simp)
  have hd' : d ∈ gtidSeqEntries seq := by
    rw [hl.split]
    simp
  have hX : (d.uuid, LLONG_MAX) ∉ gtids (p :: suf) := by
    intro hX
    obtain ⟨e, he, heq⟩ := mem_gtids.mp hX
    exact (h.gno_bounds e (hl.split ▸ List.mem_append_right _ he)).2.ne (Prod.mk.inj heq).2
  have hdmax : (d.uuid, LLONG_MAX) ∈ contents req := hset ▸ Finset.mem_sdiff.mpr ⟨hmem, hX⟩
  have hall : ∀ e ∈ d :: p :: suf, XredisGtid.expected req e = true := by
    intro e he
    rcases List.mem_cons.mp he with rfl | he
    · exact expected_of_max hreq hdmax (h.gno_bounds e hd').1
    · exact hl.expected h hreq hset he
  have hstream : streamed s req = pre.rtakeWhile (XredisGtid.expected req) ++ d :: p :: suf := by
    rw [(streamed_of_seq h.index req).1, hl.split, List.append_assoc, List.singleton_append,
      rtakeWhile_append_of_forall hall]
  rw [(streamed_of_seq h.index req).2, hstream]
  cases hpre : pre.rtakeWhile (XredisGtid.expected req) with
  | nil => exact hearlier d (by simp)
  | cons e m =>
    have he : e ∈ pre := (List.rtakeWhile_suffix _ pre).mem (by rw [hpre]; simp)
    exact hearlier e (by simp [he])

end Lagging

end XredisGtid
