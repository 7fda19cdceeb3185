import XredisGtid.GtidSeqRep
import XredisGtid.GtidSetRun

/-!
# The searches over the log

Both searches walk the segments backward and collect the gtids of a suffix of the
log.  `gtidSeqPsync` collects the entries from an offset on.  `gtidSeqXsync` asks for
each uuid what gno the request expects next, and collects the longest run of entries
at the end that are all expected (`Expected`): a segment holds consecutive gnos of one
uuid, so the first one that is not expected is found by comparing that one number with
the first and the last gno of the segment.
-/
namespace XredisGtid
open Memory OffsetLog

/-- The gtid of an entry. -/
def LogEntry.gtid (e : LogEntry) : Uuid × Int := (e.uuid, e.gno)

/-- The set of gtids of some entries. -/
def gtids (l : List LogEntry) : Finset (Uuid × Int) := (l.map LogEntry.gtid).toFinset

/-- The offset of the first entry, `-1` if there is none. -/
def headOffset : List LogEntry → Int
  | [] => -1
  | e :: _ => e.offset

/-- The gno a request expects next, which wraps around after `LLONG_MAX`. -/
noncomputable def expectedGno (req : GtidSet) (uuid : Uuid) : Int :=
  llong (maxGno (contents req) uuid + 1)

/-- A request lacks every gno from the one expected on. -/
noncomputable def expected (req : GtidSet) (e : LogEntry) : Bool :=
  decide (expectedGno req e.uuid ≤ e.gno)

section Gtids
variable {l m : List LogEntry} {e : LogEntry} {seg : GtidSegment} {i : Nat}

@[simp] theorem gtids_nil : gtids [] = ∅ := rfl

theorem mem_gtids {x : Uuid × Int} : x ∈ gtids l ↔ ∃ e ∈ l, e.gtid = x := by
  simp [gtids]

theorem gtids_append : gtids (l ++ m) = gtids l ∪ gtids m := by
  rw [gtids, List.map_append, List.toFinset_append]
  rfl

/-- The gtids of a segment from an index on are consecutive. -/
theorem gtids_range (h : i ≤ seg.ngno) :
    gtids ((List.range' i (seg.ngno - i)).map (entryAt seg)) =
      {seg.uuid} ×ˢ Finset.Icc (seg.baseGno + i) (seg.baseGno + seg.ngno - 1) := by
  ext ⟨uuid, g⟩
  rw [mem_gtids, Finset.mem_product, Finset.mem_singleton, Finset.mem_Icc]
  constructor
  · rintro ⟨e, he, hg⟩
    obtain ⟨j, hj, rfl⟩ := List.mem_map.mp he
    rw [List.mem_range'_1] at hj
    simp only [LogEntry.gtid, entryAt, Prod.mk.injEq] at hg
    exact ⟨hg.1.symm, by dsimp only; omega⟩
  · rintro ⟨rfl, hle, hge⟩
    dsimp only at hle hge
    refine ⟨entryAt seg (g - seg.baseGno).toNat, List.mem_map_of_mem ?_, ?_⟩
    · rw [List.mem_range'_1]
      omega
    · simp only [LogEntry.gtid, entryAt, Prod.mk.injEq, true_and]
      omega

/-- The entries from an index on start with that one. -/
theorem headOffset_range (h : i < seg.ngno) :
    headOffset ((List.range' i (seg.ngno - i)).map (entryAt seg) ++ m) =
      (entryAt seg i).offset := by
  obtain ⟨n, hn⟩ : ∃ n, seg.ngno - i = n + 1 := ⟨seg.ngno - i - 1, by omega⟩
  rw [hn, List.range'_succ, List.map_cons]
  rfl

/-- The first and the last gno of a segment as the searches compute them. -/
theorem SegmentWF.llong_gno (h : SegmentWF seg) (hi : i ≤ seg.ngno) :
    llong (seg.baseGno + i) = seg.baseGno + i := by
  have := h.gnos
  exact llong_of_mem (by unfold LLONG_MIN; omega) (by omega)

theorem SegmentWF.llong_end (h : SegmentWF seg) :
    llong (seg.baseGno + seg.ngno - 1) = seg.baseGno + seg.ngno - 1 := by
  have := h.gnos
  have := h.nonempty
  exact llong_of_mem (by unfold LLONG_MIN; omega) (by omega)

/-- The last entry of a segment. -/
theorem SegmentWF.entries_concat (h : SegmentWF seg) :
    segmentEntries seg = (List.range' seg.tgno (seg.ngno - 1 - seg.tgno)).map (entryAt seg) ++
      [entryAt seg (seg.ngno - 1)] := by
  have hne := h.nonempty
  rw [segmentEntries_split (i := seg.ngno - 1) (by omega) (by omega)]
  have : seg.ngno - (seg.ngno - 1) = 1 := by omega
  rw [this]
  rfl

end Gtids

section Search
variable {seq : GtidSeq} {req cont : GtidSet} {l f : List (Addr × GtidSegment)}
  {c : Addr × GtidSegment} {seg : GtidSegment} {suf : List LogEntry} {o : Int}

/-- What a request is asked, whether or not it has uuids twice. -/
theorem requestNext_rep {m : List (Addr × Entry)} (hrep : SetRep req m) (uuid : Uuid)
    (rand : Rand) :
    requestNext req uuid rand =
      some (llong (IntervalList.top (KeyedIntervals.lookup uuid (m.map Prod.snd)) + 1)) := by
  rcases exists_first_cell uuid m with hk | ⟨p, c, q, rfl, hp, hc⟩
  · rw [KeyedIntervals.lookup_of_notMem hk]
    simp only [requestNext, gtidSetFind_of_notMem hrep hk]
    rfl
  · obtain ⟨u, hu, -, hwf, hint, -⟩ := hrep.get
    rw [List.map_append, List.map_cons, KeyedIntervals.lookup_append_cons hp hc, ← hint]
    simp only [requestNext, gtidSetFind_of_first hrep hp hc, hu, uuidSetNext,
      gtidIntervalSkipListNext_spec hwf, Option.bind_eq_bind, Option.bind_some]

/-- What the request is asked is the gno it expects. -/
theorem requestNext_eq (h : WellFormedSet req) (uuid : Uuid) (rand : Rand) :
    requestNext req uuid rand = some (expectedGno req uuid) := by
  obtain ⟨m, hrep⟩ := h.rep
  rw [expectedGno, h.maxGno_eq, hrep.entries_eq]
  exact requestNext_rep hrep uuid rand

theorem SeqRep.holds_wf (h : SeqRep seq l f) :
    ∀ c ∈ l, (seq.segments.get c.1).map unlinked = some c.2 ∧ SegmentWF c.2 :=
  fun c hc => ⟨h.holds c (List.mem_append_left f hc), h.wf c hc⟩

/-- Adding the gtids of a segment from an index on. -/
theorem addRange (h : RegularSet cont) (hwf : SegmentWF seg) {i : Nat} (hi : i < seg.ngno)
    (hcont : contents cont = gtids suf) (rand : Rand) :
    ∃ cont' n, gtidSetAdd cont seg.uuid (seg.baseGno + i) (seg.baseGno + seg.ngno - 1) rand =
        some (cont', n) ∧ RegularSet cont' ∧
      contents cont' =
        gtids ((List.range' i (seg.ngno - i)).map (entryAt seg) ++ suf) := by
  have hg := hwf.gnos
  obtain ⟨cont', hadd, hr', hset⟩ := add_regularSet h seg.uuid (show 1 ≤ seg.baseGno + i by omega)
    (show seg.baseGno + i ≤ seg.baseGno + seg.ngno - 1 by omega) (by omega) rand
  refine ⟨cont', _, hadd, hr', ?_⟩
  rw [hset, hcont, gtids_append, gtids_range (by omega), Finset.union_comm]

/-- **The walk of `gtidSeqXsync`** collects the entries at the end that are all expected, given what
the request expects under each uuid. -/
theorem xsyncFrom_rep {next : Uuid → Int}
    (hreq : ∀ uuid rand, requestNext req uuid rand = some (next uuid)) (hl : ∀ c ∈ l, (seq.segments.get c.1).map unlinked =
      some c.2 ∧ SegmentWF c.2) (h : RegularSet cont) (hcont : contents cont = gtids suf)
    (rand : Rand) :
    ∃ cont', xsyncFrom seq.segments req (l.map Prod.fst).reverse (headOffset suf) cont rand =
        some (headOffset ((cellEntries l).rtakeWhile (fun e => decide (next e.uuid ≤ e.gno)) ++ suf), cont') ∧
      RegularSet cont' ∧
      contents cont' = gtids ((cellEntries l).rtakeWhile (fun e => decide (next e.uuid ≤ e.gno)) ++ suf) := by
  induction l using List.reverseRecOn generalizing cont suf rand with
  | nil => exact ⟨cont, rfl, h, hcont⟩
  | append_singleton l c ih =>
    obtain ⟨hget, hwf⟩ := hl c (by simp)
    obtain ⟨seg, hseg, hcore⟩ := Option.map_eq_some_iff.mp hget
    have hwf : SegmentWF seg := segmentWF_unlinked.mp (hcore ▸ hwf)
    have hne := hwf.nonempty
    have hlog : cellEntries (l ++ [c]) = cellEntries l ++ segmentEntries seg := by
      rw [cellEntries_append, cellEntries_cons, cellEntries_nil, List.append_nil, ← hcore]
      rfl
    have hexpected : ∀ i, next (entryAt seg i).uuid ≤ (entryAt seg i).gno ↔
        next seg.uuid ≤ seg.baseGno + i := fun i => Iff.rfl
    have hstep := hreq seg.uuid (rand.sub 0)
    rw [hlog, List.map_append, List.map_singleton, List.reverse_append, List.reverse_singleton,
      List.singleton_append]
    simp only [xsyncFrom, hseg, hstep, hwf.llong_gno (Nat.le_of_lt hne), hwf.llong_end,
      Option.bind_eq_bind, Option.bind_some]
    by_cases hend : next seg.uuid > seg.baseGno + seg.ngno - 1
    · -- not even the last gno is expected
      have hnil : (cellEntries l ++ segmentEntries seg).rtakeWhile (fun e => decide (next e.uuid ≤ e.gno)) = [] := by
        rw [hwf.entries_concat, ← List.append_assoc]
        apply List.rtakeWhile_concat_neg
        rw [decide_eq_true_eq, hexpected]
        omega
      exact ⟨cont, by rw [if_pos hend, hnil, List.nil_append], h, by rw [hnil, List.nil_append, hcont]⟩
    rw [if_neg hend]
    by_cases hstart : next seg.uuid > seg.baseGno + seg.tgno
    · -- the expected gno is inside the segment, after the first one
      obtain ⟨k, hk⟩ : ∃ k : Nat, next seg.uuid = seg.baseGno + k :=
        ⟨(next seg.uuid - seg.baseGno).toNat, by omega⟩
      have hsub : (seg.baseGno + (k : Int) - seg.baseGno).toNat = k := by omega
      have hrun : (cellEntries l ++ segmentEntries seg).rtakeWhile (fun e => decide (next e.uuid ≤ e.gno)) =
          (List.range' k (seg.ngno - k)).map (entryAt seg) := by
        have hsplit := segmentEntries_split (show seg.tgno ≤ k by omega) (by omega)
        have hbefore : (List.range' seg.tgno (k - seg.tgno)).map (entryAt seg) =
            (List.range' seg.tgno (k - 1 - seg.tgno)).map (entryAt seg) ++ [entryAt seg (k - 1)] := by
          have hlen : k - seg.tgno = k - 1 - seg.tgno + 1 := by omega
          rw [hlen, List.range'_concat, List.map_append, List.map_singleton]
          congr 3
          omega
        rw [hsplit, hbefore, List.append_assoc, List.singleton_append, ← List.append_assoc]
        apply rtakeWhile_concat_neg_append
        · rw [decide_eq_false_iff_not, hexpected]
          omega
        · intro e he
          obtain ⟨i, hi, rfl⟩ := List.mem_map.mp he
          rw [List.mem_range'_1] at hi
          rw [decide_eq_true_eq, hexpected]
          omega
      obtain ⟨cont', n, hadd, hr', hset⟩ := addRange h hwf (i := k) (by omega) hcont (rand.sub 1)
      refine ⟨cont', ?_, hr', by rw [hrun, hset]⟩
      rw [if_pos hstart, hk, hsub, hwf.offsetAt (by omega), hrun, headOffset_range (by omega)]
      simp only [Option.bind_some, hadd]
    · -- the whole segment is expected
      rw [if_neg hstart]
      have hrun : (cellEntries l ++ segmentEntries seg).rtakeWhile (fun e => decide (next e.uuid ≤ e.gno)) =
          (cellEntries l).rtakeWhile (fun e => decide (next e.uuid ≤ e.gno)) ++ segmentEntries seg := by
        apply rtakeWhile_append_of_forall
        intro e he
        obtain ⟨i, hi, hin, rfl⟩ := mem_segmentEntries.mp he
        rw [decide_eq_true_eq, hexpected]
        omega
      have hsub : (seg.baseGno + (seg.tgno : Int) - seg.baseGno).toNat = seg.tgno := by omega
      obtain ⟨cont₁, n, hadd, hr₁, hset₁⟩ := addRange h hwf hne hcont (rand.sub 1)
      have hset₁ : contents cont₁ = gtids (segmentEntries seg ++ suf) := hset₁
      obtain ⟨cont', hrest, hr', hset'⟩ := ih
        (fun d hd => hl d (List.mem_append_left _ hd)) hr₁ hset₁ (rand.sub 2)
      refine ⟨cont', ?_, hr', by rw [hrun, List.append_assoc, hset']⟩
      rw [hsub, hwf.offsetAt hne, hrun, List.append_assoc, ← hrest]
      simp only [Option.bind_some, hadd]
      rw [show headOffset (segmentEntries seg ++ suf) = (entryAt seg seg.tgno).offset from
        headOffset_range hne]

/-- **The walk of `gtidSeqPsync`** collects the entries from an offset on. -/
theorem psyncFrom_rep (hl : ∀ c ∈ l, (seq.segments.get c.1).map unlinked = some c.2 ∧
      SegmentWF c.2) (hord : Ordered LogEntry.offset (cellEntries l)) (h : RegularSet cont)
    (hcont : contents cont = gtids suf) (rand : Rand) :
    ∃ cont', psyncFrom seq.segments o (l.map Prod.fst).reverse cont rand = some cont' ∧
      RegularSet cont' ∧
      contents cont' = gtids (entriesFrom LogEntry.offset o (cellEntries l) ++ suf) := by
  induction l using List.reverseRecOn generalizing cont suf rand with
  | nil => exact ⟨cont, rfl, h, hcont⟩
  | append_singleton l c ih =>
    obtain ⟨hget, hwf⟩ := hl c (by simp)
    obtain ⟨seg, hseg, hcore⟩ := Option.map_eq_some_iff.mp hget
    have hwf : SegmentWF seg := segmentWF_unlinked.mp (hcore ▸ hwf)
    have hne := hwf.nonempty
    have hlog : cellEntries (l ++ [c]) = cellEntries l ++ segmentEntries seg := by
      rw [cellEntries_append, cellEntries_cons, cellEntries_nil, List.append_nil, ← hcore]
      rfl
    rw [hlog] at hord ⊢
    rw [List.map_append, List.map_singleton, List.reverse_append, List.reverse_singleton,
      List.singleton_append, entriesFrom_append]
    simp only [psyncFrom, hseg, hwf.llong_gno (Nat.le_of_lt hne), hwf.llong_end,
      hwf.offsetAt hne, Option.bind_eq_bind, Option.bind_some]
    have hfirst : ∀ i, seg.tgno ≤ i → i < seg.ngno →
        (entryAt seg seg.tgno).offset ≤ (entryAt seg i).offset := by
      intro i hi hin
      rcases Nat.eq_or_lt_of_le hi with rfl | hlt
      · exact le_refl _
      · exact le_of_lt (hwf.ordered _ _ hlt hin)
    by_cases hstart : (entryAt seg seg.tgno).offset ≥ o
    · -- the whole segment is at or after the offset
      have hall : entriesFrom LogEntry.offset o (segmentEntries seg) = segmentEntries seg := by
        refine entriesFrom_eq_self (fun e he => ?_)
        obtain ⟨i, hi, hin, rfl⟩ := mem_segmentEntries.mp he
        exact le_trans hstart (hfirst i hi hin)
      obtain ⟨cont₁, n, hadd, hr₁, hset₁⟩ := addRange h hwf hne hcont (rand.sub 0)
      have hset₁ : contents cont₁ = gtids (segmentEntries seg ++ suf) := hset₁
      obtain ⟨cont', hrest, hr', hset'⟩ := ih
        (fun d hd => hl d (List.mem_append_left _ hd)) (List.pairwise_append.mp hord).1 hr₁ hset₁
        (rand.sub 1)
      refine ⟨cont', ?_, hr', by rw [hall, List.append_assoc, hset']⟩
      rw [if_pos hstart, ← hrest]
      simp only [hadd, Option.bind_some]
    · -- the earlier segments are before the offset
      have hbefore : entriesFrom LogEntry.offset o (cellEntries l) = [] := by
        refine entriesFrom_eq_nil (fun e he => ?_)
        have := (List.pairwise_append.mp hord).2.2 e he _
          (mem_segmentEntries.mpr ⟨seg.tgno, le_refl _, hne, rfl⟩)
        omega
      obtain ⟨k, hsearch, hk₁, hk₂, hlt, hge⟩ := hwf.searchOffset o
      have hrun : entriesFrom LogEntry.offset o (segmentEntries seg) =
          (List.range' k (seg.ngno - k)).map (entryAt seg) := by
        rw [segmentEntries_split hk₁ hk₂, entriesFrom_append, entriesFrom_eq_nil,
          entriesFrom_eq_self, List.nil_append]
        · intro e he
          obtain ⟨i, hi, rfl⟩ := List.mem_map.mp he
          rw [List.mem_range'_1] at hi
          exact hge i hi.1 (by omega)
        · intro e he
          obtain ⟨i, hi, rfl⟩ := List.mem_map.mp he
          rw [List.mem_range'_1] at hi
          exact hlt i hi.1 (by omega)
      rw [if_neg hstart, hbefore, hrun, List.nil_append]
      simp only [hsearch, Option.bind_some, hwf.llong_gno hk₂]
      rcases Nat.lt_or_eq_of_le hk₂ with hkn | rfl
      · obtain ⟨cont', n, hadd, hr', hset⟩ := addRange h hwf hkn hcont (rand.sub 0)
        exact ⟨cont', by simp only [hadd, Option.bind_some], hr', hset⟩
      · -- every entry is before the offset: the range added is empty
        obtain ⟨cont', hadd, hr', hset⟩ := add_invalid_regularSet h seg.uuid
          (show ¬ (1 ≤ seg.baseGno + seg.ngno ∧
            seg.baseGno + seg.ngno ≤ seg.baseGno + seg.ngno - 1) by omega) (rand.sub 0)
        refine ⟨cont', by simp only [hadd, Option.bind_some], hr', ?_⟩
        rw [hset, hcont, Nat.sub_self]
        rfl

/-- Whatever the request is, the walk returns the offset it starts with or that of an entry. -/
theorem xsyncFrom_offset {addrs : List Addr} {start : Int} {rand : Rand} {r : Int × GtidSet}
    (haddrs : ∀ a ∈ addrs, ∃ seg, seq.segments.get a = some seg ∧ SegmentWF seg ∧
      ∀ e ∈ segmentEntries seg, e ∈ gtidSeqEntries seq)
    (hrun : xsyncFrom seq.segments req addrs start cont rand = some r) :
    r.1 = start ∨ ∃ e ∈ gtidSeqEntries seq, e.offset = r.1 := by
  induction addrs generalizing start cont rand with
  | nil =>
    obtain rfl := Option.some.inj hrun
    exact Or.inl rfl
  | cons a addrs ih =>
    obtain ⟨seg, hseg, hwf, hmem⟩ := haddrs a (by simp)
    have hne := hwf.nonempty
    have hentry : ∀ i, seg.tgno ≤ i → i < seg.ngno →
        ∃ e ∈ gtidSeqEntries seq, e.offset = (entryAt seg i).offset := fun i hi hin =>
      ⟨_, hmem _ (mem_segmentEntries.mpr ⟨i, hi, hin, rfl⟩), rfl⟩
    simp only [xsyncFrom, hseg, hwf.llong_gno (Nat.le_of_lt hne), hwf.llong_end,
      Option.bind_eq_bind, Option.bind_some, Option.bind_eq_some_iff] at hrun
    obtain ⟨next, -, hrun⟩ := hrun
    split at hrun
    · obtain rfl := Option.some.inj hrun
      exact Or.inl rfl
    split at hrun
    · -- the walk ends inside of the segment
      rw [hwf.offsetAt (by omega)] at hrun
      simp only [Option.bind_some, Option.bind_eq_some_iff] at hrun
      obtain ⟨⟨cont', n⟩, -, heq⟩ := hrun
      obtain rfl := Option.some.inj heq
      exact Or.inr (hentry _ (by omega) (by omega))
    · have hsub : (seg.baseGno + (seg.tgno : Int) - seg.baseGno).toNat = seg.tgno := by omega
      rw [hsub, hwf.offsetAt hne] at hrun
      simp only [Option.bind_some, Option.bind_eq_some_iff] at hrun
      obtain ⟨⟨cont', n⟩, -, hrest⟩ := hrun
      rcases ih (fun b hb => haddrs b (by simp [hb])) hrest with heq | hfound
      · rw [heq]
        exact Or.inr (hentry _ (le_refl _) hne)
      · exact Or.inr hfound

/-- **The continue point of any request** is `-1` or the offset of an entry. -/
theorem gtidSeqXsync_offset (h : SeqRep seq l f) {rand : Rand} {r : Int × GtidSet}
    (hrun : gtidSeqXsync seq req rand = some r) :
    r.1 = -1 ∨ ∃ e ∈ gtidSeqEntries seq, e.offset = r.1 := by
  rw [gtidSeqXsync, h.toSeqLinks.segmentsBackward_eq] at hrun
  refine xsyncFrom_offset (fun a ha => ?_) hrun
  obtain ⟨c, hc, rfl⟩ := List.mem_map.mp (List.mem_reverse.mp ha)
  obtain ⟨seg, hseg, hcore, hwf⟩ := h.get hc
  refine ⟨seg, hseg, hwf, fun e he => ?_⟩
  rw [h.entries_eq, cellEntries, List.mem_flatMap]
  exact ⟨c, hc, hcore ▸ he⟩

/-- **`gtidSeqXsync`** returns the offset of the first of the entries at the end that are
all expected, and their gtids. -/
theorem gtidSeqXsync_next (h : SeqRep seq l f) {next : Uuid → Int}
    (hreq : ∀ uuid rand, requestNext req uuid rand = some (next uuid)) (rand : Rand) :
    ∃ cont, gtidSeqXsync seq req rand =
        some (headOffset ((gtidSeqEntries seq).rtakeWhile (fun e => decide (next e.uuid ≤ e.gno))),
          cont) ∧
      RegularSet cont ∧
      contents cont =
        gtids ((gtidSeqEntries seq).rtakeWhile (fun e => decide (next e.uuid ≤ e.gno))) := by
  have hnew : contents gtidSetNew = gtids [] := by
    rw [contents, regularSet_new.2]
    rfl
  obtain ⟨cont, hrun, hr, hset⟩ := xsyncFrom_rep hreq h.holds_wf regularSet_new.1 hnew
    rand
  rw [List.append_nil] at hrun hset
  refine ⟨cont, ?_, hr, by rw [h.entries_eq, hset]⟩
  rw [gtidSeqXsync, h.toSeqLinks.segmentsBackward_eq, h.entries_eq]
  exact hrun

theorem gtidSeqXsync_rep (h : SeqRep seq l f) (hreq : WellFormedSet req) (rand : Rand) :
    ∃ cont, gtidSeqXsync seq req rand =
        some (headOffset ((gtidSeqEntries seq).rtakeWhile (expected req)), cont) ∧
      RegularSet cont ∧
      contents cont = gtids ((gtidSeqEntries seq).rtakeWhile (expected req)) :=
  gtidSeqXsync_next h (requestNext_eq hreq) rand

/-- **`gtidSeqPsync`** returns the gtids from an offset on. -/
theorem gtidSeqPsync_rep (h : SeqRep seq l f) (o : Int) (rand : Rand) :
    ∃ cont, gtidSeqPsync seq o rand = some cont ∧ RegularSet cont ∧
      contents cont = gtids (entriesFrom LogEntry.offset o (gtidSeqEntries seq)) := by
  have hnew : contents gtidSetNew = gtids [] := by
    rw [contents, regularSet_new.2]
    rfl
  obtain ⟨cont, hrun, hr, hset⟩ := psyncFrom_rep (o := o) h.holds_wf h.ordered
    regularSet_new.1 hnew rand
  rw [List.append_nil] at hset
  refine ⟨cont, ?_, hr, by rw [h.entries_eq, hset]⟩
  rw [gtidSeqPsync, h.toSeqLinks.segmentsBackward_eq]
  exact hrun

end Search

end XredisGtid
