import XredisGtid.GtidSeqLinks

/-!
# The sequence as a log

`SegmentFilled` is what a used segment satisfies: some gtid is left, every slot up to
`ngno` has been written, and the offsets increase.  A sequence is filled (`SeqFilled`)
when its used segments are such and the offsets increase from one segment to the next
as well.  Appending then adds one entry at the end of the log, and trimming keeps the
entries from the cut point on.  When the gnos do not reach `LLONG_MAX` (`SegmentWF`,
`SeqRep`) the entry added is the one given.
-/
namespace XredisGtid
open Memory OffsetLog

/-- A used segment. -/
structure SegmentFilled (seg : GtidSegment) : Prop extends Slots seg where
  nonempty : seg.tgno < seg.ngno
  filled : ∀ i < seg.ngno, ∃ delta, deltaAt seg i = some delta
  base : deltaAt seg 0 = some 0
  ordered : ∀ i j, i < j → j < seg.ngno → (entryAt seg i).offset < (entryAt seg j).offset
  offsets : ∀ i < seg.ngno,
    LLONG_MIN ≤ (entryAt seg i).offset ∧ (entryAt seg i).offset ≤ LLONG_MAX

/-- A used segment whose gnos are in range. -/
structure SegmentWF (seg : GtidSegment) : Prop extends SegmentFilled seg where
  gnos : 1 ≤ seg.baseGno ∧ seg.baseGno + seg.ngno ≤ LLONG_MAX

/-- The entries of some segments. -/
def cellEntries (l : List (Addr × GtidSegment)) : List LogEntry :=
  l.flatMap (fun c => segmentEntries c.2)

/-- The lists of segments of a log. -/
structure SeqFilled (seq : GtidSeq) (l f : List (Addr × GtidSegment)) : Prop extends
    SeqLinks seq l f where
  filled : ∀ c ∈ l, SegmentFilled c.2
  ordered : Ordered LogEntry.offset (cellEntries l)

/-- **The representation invariant.** -/
structure SeqRep (seq : GtidSeq) (l f : List (Addr × GtidSegment)) : Prop extends
    SeqLinks seq l f where
  wf : ∀ c ∈ l, SegmentWF c.2
  ordered : Ordered LogEntry.offset (cellEntries l)

section Segment
variable {seg seg' : GtidSegment} {i : Nat} {o offset : Int}

theorem segmentFilled_unlinked : SegmentFilled (unlinked seg) ↔ SegmentFilled seg :=
  ⟨fun h => ⟨⟨h.length, h.pos, h.fits⟩, h.nonempty, h.filled, h.base, h.ordered, h.offsets⟩,
   fun h => ⟨⟨h.length, h.pos, h.fits⟩, h.nonempty, h.filled, h.base, h.ordered, h.offsets⟩⟩

theorem segmentWF_unlinked : SegmentWF (unlinked seg) ↔ SegmentWF seg :=
  ⟨fun h => ⟨segmentFilled_unlinked.mp h.toSegmentFilled, h.gnos⟩,
   fun h => ⟨segmentFilled_unlinked.mpr h.toSegmentFilled, h.gnos⟩⟩

theorem SegmentFilled.offsetAt (h : SegmentFilled seg) (hi : i < seg.ngno) :
    offsetAt seg i = some (entryAt seg i).offset := by
  obtain ⟨delta, hdelta⟩ := h.filled i hi
  have hb := h.offsets i hi
  simp only [entryAt, hdelta, Option.getD_some] at hb
  simp only [XredisGtid.offsetAt, entryAt, hdelta, Option.map_some, Option.getD_some,
    llong_of_mem hb.1 hb.2]

/-- What is behind the last offset of a segment is behind all. -/
theorem SegmentFilled.offset_lt (h : SegmentFilled seg)
    (hlast : (entryAt seg (seg.ngno - 1)).offset < o) (hi : i < seg.ngno) :
    (entryAt seg i).offset < o := by
  rcases Nat.lt_or_ge i (seg.ngno - 1) with hlt | hge
  · have := h.ordered i (seg.ngno - 1) hlt (by omega)
    omega
  · obtain rfl : i = seg.ngno - 1 := by omega
    exact hlast

theorem SegmentFilled.baseOffset (h : SegmentFilled seg) : (entryAt seg 0).offset = seg.baseOffset := by
  simp [entryAt, h.base]

/-- The first offset is the smallest, and all are within 16 bits of it. -/
theorem SegmentFilled.base_le (h : SegmentFilled seg) (hi : i < seg.ngno) :
    seg.baseOffset ≤ (entryAt seg i).offset ∧
      (entryAt seg i).offset ≤ seg.baseOffset + SEGOFF_MAX := by
  obtain ⟨delta, hdelta⟩ := h.filled i hi
  have := delta.toNat_lt
  simp only [entryAt, hdelta, Option.getD_some, SEGOFF_MAX]
  omega

theorem mem_segmentEntries {e : LogEntry} :
    e ∈ segmentEntries seg ↔ ∃ i, seg.tgno ≤ i ∧ i < seg.ngno ∧ entryAt seg i = e := by
  simp only [segmentEntries, List.mem_map, List.mem_range'_1]
  constructor
  · rintro ⟨i, hi, rfl⟩
    exact ⟨i, hi.1, by omega, rfl⟩
  · rintro ⟨i, hi, hin, rfl⟩
    exact ⟨i, ⟨hi, by omega⟩, rfl⟩

/-- The entries of a segment, split at an index. -/
theorem segmentEntries_split (h₁ : seg.tgno ≤ i) (h₂ : i ≤ seg.ngno) :
    segmentEntries seg = (List.range' seg.tgno (i - seg.tgno)).map (entryAt seg) ++
      (List.range' i (seg.ngno - i)).map (entryAt seg) := by
  have hrange : List.range' seg.tgno (seg.ngno - seg.tgno) =
      List.range' seg.tgno (i - seg.tgno) ++ List.range' i (seg.ngno - i) := by
    have happ := List.range'_append_1 (s := seg.tgno) (m := i - seg.tgno) (n := seg.ngno - i)
    rw [Nat.add_sub_cancel' h₁] at happ
    rw [happ]
    congr 1
    omega
  rw [segmentEntries, hrange, List.map_append]

/-- **The search finds the first index whose offset is not before `o`.** -/
theorem SegmentFilled.searchOffset (h : SegmentFilled seg) (o : Int) :
    ∃ k, searchOffset seg o = some k ∧ seg.tgno ≤ k ∧ k ≤ seg.ngno ∧
      (∀ i, seg.tgno ≤ i → i < k → (entryAt seg i).offset < o) ∧
      ∀ i, k ≤ i → i < seg.ngno → o ≤ (entryAt seg i).offset := by
  obtain ⟨k, hlk, hkr, hlt, hge⟩ := exists_partition (Nat.le_of_lt h.nonempty)
    (fun i j _ hij hj => h.ordered i j hij hj) o
  refine ⟨k, ?_, hlk, hkr, hlt, hge⟩
  refine bisect_eq hlk hkr ?_ ?_ (le_refl _)
  · intro i hi hik
    rw [h.offsetAt (by omega), Option.map_some, decide_eq_true (hlt i hi hik)]
  · intro i hi hir
    rw [h.offsetAt hir, Option.map_some, decide_eq_false (by have := hge i hi hir; omega)]

/-! ## Appending to a segment -/

/-- What appending an offset does to a segment. -/
structure Appended (seg seg' : GtidSegment) (offset : Int) : Prop where
  next : seg'.next = seg.next
  prev : seg'.prev = seg.prev
  uuid : seg'.uuid = seg.uuid
  baseOffset : seg'.baseOffset = seg.baseOffset
  baseGno : seg'.baseGno = seg.baseGno
  tgno : seg'.tgno = seg.tgno
  ngno : seg'.ngno = seg.ngno + 1
  slots : Slots seg'
  capacity : seg.capacity ≤ seg'.capacity
  old : ∀ i < seg.ngno, deltaAt seg' i = deltaAt seg i
  new : ∃ delta, deltaAt seg' seg.ngno = some delta ∧ (delta.toNat : Int) = offset - seg.baseOffset

/-- Doubling the capacity makes room and keeps the slots. -/
theorem gtidSegmentReserve_spec (h : Slots seg) :
    ∃ capacity deltas,
      gtidSegmentReserve seg = { seg with capacity := capacity, deltas := deltas } ∧
      deltas.length = capacity ∧ seg.ngno < capacity ∧ seg.capacity ≤ capacity ∧
      ∀ i < seg.ngno, deltas[i]? = seg.deltas[i]? := by
  have hlen := h.length
  have hpos := h.pos
  have hfits := h.fits
  by_cases hfull : seg.ngno = seg.capacity
  · refine ⟨_, _, by rw [gtidSegmentReserve, if_pos hfull], ?_, by omega, by omega, ?_⟩
    · simp only [gtidRealloc, List.length_append, List.length_take, List.length_replicate]
      omega
    · intro i hi
      rw [gtidRealloc, List.take_of_length_le (by omega), List.getElem?_append_left (by omega)]
  · exact ⟨_, _, by rw [gtidSegmentReserve, if_neg hfull], hlen, by omega, le_refl _,
      fun i _ => rfl⟩

theorem gtidSegmentAppend_spec (h : Slots seg) (h₁ : seg.baseOffset ≤ offset)
    (h₂ : offset ≤ seg.baseOffset + SEGOFF_MAX) :
    ∃ seg', gtidSegmentAppend seg offset = some seg' ∧ Appended seg seg' offset := by
  obtain ⟨capacity, deltas, hreserve, hlen, hroom, hcap, hold⟩ := gtidSegmentReserve_spec h
  have hdelta : (sizeT (offset - seg.baseOffset) : Int) = offset - seg.baseOffset := by
    unfold sizeT
    unfold SEGOFF_MAX at h₂
    omega
  have hle : sizeT (offset - seg.baseOffset) ≤ SEGOFF_MAX := by omega
  have happend : gtidSegmentAppend seg offset = some { seg with
      capacity := capacity
      deltas := deltas.set seg.ngno (some (sizeT (offset - seg.baseOffset)).toUInt16)
      ngno := seg.ngno + 1 } := by
    simp [gtidSegmentAppend, guard, hle, h.fits, hreserve]
  refine ⟨_, happend, rfl, rfl, rfl, rfl, rfl, rfl, rfl, ?_, hcap, ?_, ?_⟩
  · exact ⟨by simpa using hlen, by dsimp only; omega, hroom⟩
  · intro i hi
    simp only [deltaAt]
    rw [List.getElem?_set_ne (by omega), hold i hi]
  · refine ⟨(sizeT (offset - seg.baseOffset)).toUInt16, ?_, ?_⟩
    · simp only [deltaAt]
      rw [List.getElem?_set_self (by omega)]
      rfl
    · rw [Nat.toUInt16_eq, UInt16.toNat_ofNat', Nat.mod_eq_of_lt, hdelta]
      unfold SEGOFF_MAX at hle
      omega

theorem Appended.entryAt_old (h : Appended seg seg' offset) (hi : i < seg.ngno) :
    entryAt seg' i = entryAt seg i := by
  simp only [entryAt, h.uuid, h.baseGno, h.baseOffset, h.old i hi]

theorem Appended.entryAt_new (h : Appended seg seg' offset) :
    entryAt seg' seg.ngno = ⟨seg.uuid, seg.baseGno + seg.ngno, offset⟩ := by
  obtain ⟨delta, hdelta, hval⟩ := h.new
  simp only [entryAt, h.uuid, h.baseGno, h.baseOffset, hdelta, Option.getD_some, hval]
  congr 1
  omega

theorem Appended.entries (h : Appended seg seg' offset) (ht : seg.tgno ≤ seg.ngno) :
    segmentEntries seg' =
      segmentEntries seg ++ [⟨seg.uuid, seg.baseGno + seg.ngno, offset⟩] := by
  rw [segmentEntries_split (i := seg.ngno) (by rw [h.tgno]; exact ht) (by rw [h.ngno]; omega),
    h.tgno, h.ngno, Nat.add_sub_cancel_left, segmentEntries]
  congr 1
  · refine List.map_congr_left (fun i hi => ?_)
    rw [List.mem_range'_1] at hi
    exact h.entryAt_old (by omega)
  · rw [← h.entryAt_new]
    rfl

/-- Appending to a used segment. -/
theorem Appended.filled (h : Appended seg seg' offset) (hwf : SegmentFilled seg)
    (hlast : ∀ i < seg.ngno, (entryAt seg i).offset < offset) (hmax : offset ≤ LLONG_MAX) :
    SegmentFilled seg' := by
  have hne := hwf.nonempty
  have hnew : (entryAt seg' seg.ngno).offset = offset := by rw [h.entryAt_new]
  refine ⟨h.slots, by rw [h.tgno, h.ngno]; omega, ?_, ?_, ?_, ?_⟩
  · intro i hi
    rw [h.ngno] at hi
    rcases Nat.lt_succ_iff_lt_or_eq.mp hi with hlt | rfl
    · rw [h.old i hlt]
      exact hwf.filled i hlt
    · obtain ⟨delta, hdelta, -⟩ := h.new
      exact ⟨delta, hdelta⟩
  · rw [h.old 0 (by omega)]
    exact hwf.base
  · intro i j hij hj
    rw [h.ngno] at hj
    rw [h.entryAt_old (by omega)]
    rcases Nat.lt_succ_iff_lt_or_eq.mp hj with hlt | rfl
    · rw [h.entryAt_old hlt]
      exact hwf.ordered i j hij hlt
    · rw [hnew]
      exact hlast i hij
  · intro i hi
    rw [h.ngno] at hi
    rcases Nat.lt_succ_iff_lt_or_eq.mp hi with hlt | rfl
    · rw [h.entryAt_old hlt]
      exact hwf.offsets i hlt
    · rw [hnew]
      have h₀ := hlast 0 (by omega)
      have h₁ := (hwf.offsets 0 (by omega)).1
      exact ⟨by omega, hmax⟩

/-- Appending to a segment that was just reset. -/
theorem Appended.filled_of_reset (h : Appended seg seg' offset) (ht : seg.tgno = 0)
    (hn : seg.ngno = 0) (hbase : seg.baseOffset = offset)
    (hoff : LLONG_MIN ≤ offset ∧ offset ≤ LLONG_MAX) : SegmentFilled seg' := by
  obtain ⟨delta, hdelta, hval⟩ := h.new
  have hnew := h.entryAt_new
  rw [hn] at hdelta hnew
  have hn' : seg'.ngno = 1 := by rw [h.ngno, hn]
  have hzero : delta = 0 := UInt16.toNat.inj (by
    have : delta.toNat = 0 := by omega
    simpa using this)
  refine ⟨h.slots, by rw [h.tgno, ht, hn']; exact Nat.one_pos, ?_, ?_, ?_, ?_⟩
  · intro i hi
    obtain rfl : i = 0 := by omega
    exact ⟨delta, hdelta⟩
  · rw [hdelta, hzero]
  · intro i j hij hj
    omega
  · intro i hi
    obtain rfl : i = 0 := by omega
    rw [hnew]
    exact hoff

end Segment

section Seq
variable {seq : GtidSeq} {l f p q : List (Addr × GtidSegment)} {c : Addr × GtidSegment}
  {seg : GtidSegment} {uuid : Uuid} {gno offset o : Int}

@[simp] theorem cellEntries_nil : cellEntries [] = [] := rfl

@[simp] theorem cellEntries_cons :
    cellEntries (c :: l) = segmentEntries c.2 ++ cellEntries l := by simp [cellEntries]

@[simp] theorem cellEntries_append : cellEntries (p ++ q) = cellEntries p ++ cellEntries q := by
  simp [cellEntries]

theorem SeqRep.entries_eq (h : SeqRep seq l f) : gtidSeqEntries seq = cellEntries l :=
  h.toSeqLinks.entries_eq

/-- No indexed gno is `LLONG_MAX`. -/
theorem SeqRep.gno_bounds (h : SeqRep seq l f) :
    ∀ e ∈ gtidSeqEntries seq, 1 ≤ e.gno ∧ e.gno < LLONG_MAX := by
  intro e he
  rw [h.entries_eq] at he
  obtain ⟨c, hc, he⟩ := List.mem_flatMap.mp he
  obtain ⟨i, -, hi, rfl⟩ := mem_segmentEntries.mp he
  have hgnos := (h.wf c hc).gnos
  dsimp only [entryAt]
  omega

theorem SeqFilled.entries_eq (h : SeqFilled seq l f) : gtidSeqEntries seq = cellEntries l :=
  h.toSeqLinks.entries_eq

theorem seqFilled_create : SeqFilled gtidSeqCreate [] [] :=
  ⟨seqLinks_create, by simp, List.Pairwise.nil⟩

theorem seqRep_create : SeqRep gtidSeqCreate [] [] :=
  ⟨seqLinks_create, by simp, List.Pairwise.nil⟩

theorem SeqRep.toFilled (h : SeqRep seq l f) : SeqFilled seq l f :=
  ⟨h.toSeqLinks, fun c hc => (h.wf c hc).toSegmentFilled, h.ordered⟩

/-- A filled sequence whose gnos are in range. -/
theorem SeqFilled.rep (h : SeqFilled seq l f)
    (hgnos : ∀ c ∈ l, 1 ≤ c.2.baseGno ∧ c.2.baseGno + c.2.ngno ≤ LLONG_MAX) : SeqRep seq l f :=
  ⟨h.toSeqLinks, fun c hc => ⟨h.filled c hc, hgnos c hc⟩, h.ordered⟩

/-- The segment at a used cell. -/
theorem SeqFilled.get (h : SeqFilled seq l f) (hc : c ∈ l) :
    ∃ seg, seq.segments.get c.1 = some seg ∧ unlinked seg = c.2 ∧ SegmentFilled seg := by
  obtain ⟨seg, hseg, hcore⟩ := h.toSeqLinks.get (List.mem_append_left f hc)
  exact ⟨seg, hseg, hcore, segmentFilled_unlinked.mp (hcore ▸ h.filled c hc)⟩

theorem SeqRep.get (h : SeqRep seq l f) (hc : c ∈ l) :
    ∃ seg, seq.segments.get c.1 = some seg ∧ unlinked seg = c.2 ∧ SegmentWF seg := by
  obtain ⟨seg, hseg, hcore⟩ := h.toSeqLinks.get (List.mem_append_left f hc)
  exact ⟨seg, hseg, hcore, segmentWF_unlinked.mp (hcore ▸ h.wf c hc)⟩

/-! ## Append -/

theorem gtidSeqSwitchSegment_spec (h : SeqLinks seq l f) (uuid : Uuid) (gno offset : Int) :
    ∃ seq' a f' seg, gtidSeqSwitchSegment seq uuid gno offset = some (seq', a) ∧
      SeqLinks seq' (l ++ [(a, unlinked seg)]) f' ∧ seq'.segments.get a = some seg ∧
      Slots seg ∧ seg.uuid = uuid ∧ seg.baseGno = gno ∧ seg.baseOffset = offset ∧
      seg.tgno = 0 ∧ seg.ngno = 0 := by
  obtain ⟨seq₁, a, f', seg₀, htake, hlinks, ha, hget, hnext, hlen, hpos⟩ := takeSegment_links h
  have hlast : seq₁.lastseg ≠ some a := by
    rw [hlinks.lastseg]
    exact fun he => ha (by
      rw [List.map_append]
      exact List.mem_append_left _ (List.mem_of_getLast? he))
  refine ⟨linkSegment seq₁ a (gtidSegmentReset seg₀ uuid gno offset), a, f',
    { gtidSegmentReset seg₀ uuid gno offset with prev := seq₁.lastseg }, ?_, ?_, ?_,
    ⟨hlen, hpos, Nat.zero_le _⟩, rfl, rfl, rfl, rfl, rfl⟩
  · simp only [gtidSeqSwitchSegment, htake, hget, Option.bind_eq_bind, Option.bind_some]
  · exact linkSegment_links hlinks ha hget hnext ⟨hlen, hpos, Nat.zero_le _⟩
  · rw [get_linkSegment hget hlast, if_pos rfl]

/-- The gno a segment continues with when `gno` is appended: that of a segment just reset,
or of the last one, where the sum may have wrapped around. -/
def Continues (l : List (Addr × GtidSegment)) (gno : Int) (seg : GtidSegment) : Prop :=
  (seg.baseGno = gno ∧ seg.ngno = 0) ∨
    ∃ d ∈ l, d.2 = unlinked seg ∧ llong (seg.baseGno + seg.ngno) = gno

/-- **The segment an entry goes to** is the last one afterwards, and whatever appending
does to it makes it a used segment with the entry at the end of the log. -/
theorem segmentFor_spec (h : SeqFilled seq l f) (hlog : ∀ e ∈ cellEntries l, e.offset < offset)
    (hoff : LLONG_MIN ≤ offset ∧ offset ≤ LLONG_MAX) (uuid : Uuid) (gno : Int) :
    ∃ seq' p c f' seg, segmentFor seq uuid gno offset = some (seq', c.1) ∧
      SeqLinks seq' (p ++ [c]) f' ∧ seq'.segments.get c.1 = some seg ∧ Slots seg ∧
      (∀ d ∈ p, d ∈ l) ∧ Continues l gno seg ∧ seg.baseOffset ≤ offset ∧
      offset ≤ seg.baseOffset + SEGOFF_MAX ∧
      ∀ seg', Appended seg seg' offset → SegmentFilled seg' ∧
        cellEntries p ++ segmentEntries seg' =
          cellEntries l ++ [⟨uuid, seg.baseGno + seg.ngno, offset⟩] := by
  have hswitch : ∃ seq' p c f' seg, gtidSeqSwitchSegment seq uuid gno offset = some (seq', c.1) ∧
      SeqLinks seq' (p ++ [c]) f' ∧ seq'.segments.get c.1 = some seg ∧ Slots seg ∧
      (∀ d ∈ p, d ∈ l) ∧ Continues l gno seg ∧ seg.baseOffset ≤ offset ∧
      offset ≤ seg.baseOffset + SEGOFF_MAX ∧
      ∀ seg', Appended seg seg' offset → SegmentFilled seg' ∧
        cellEntries p ++ segmentEntries seg' =
          cellEntries l ++ [⟨uuid, seg.baseGno + seg.ngno, offset⟩] := by
    obtain ⟨seq', a, f', seg, hrun, hlinks, hget, hslots, huuid, hbg, hbo, ht, hn⟩ :=
      gtidSeqSwitchSegment_spec h.toSeqLinks uuid gno offset
    refine ⟨seq', l, (a, unlinked seg), f', seg, hrun, hlinks, hget, hslots, fun _ hd => hd,
      Or.inl ⟨hbg, hn⟩, by omega, by omega, ?_⟩
    intro seg' happ
    refine ⟨happ.filled_of_reset ht hn hbo hoff, ?_⟩
    have hempty : segmentEntries seg = [] := by
      rw [segmentEntries, ht, hn]
      rfl
    rw [happ.entries (by omega), hempty, huuid, List.nil_append]
  rcases List.eq_nil_or_concat l with rfl | ⟨p, c, rfl⟩
  · have hlast : seq.lastseg = none := h.lastseg
    simpa only [segmentFor, hlast] using hswitch
  · rw [List.concat_eq_append] at *
    obtain ⟨seg, hget, hcore, hwf⟩ := h.get (c := c) (by simp)
    have hne := hwf.nonempty
    have hlast : seq.lastseg = some c.1 := by
      rw [h.lastseg, List.map_append, List.map_singleton, List.getLast?_concat]
    have hentries : segmentEntries c.2 = segmentEntries seg := by rw [← hcore]; rfl
    have htail : ∀ i < seg.ngno, (entryAt seg i).offset < offset := by
      intro i hi
      refine hwf.offset_lt ?_ hi
      refine hlog _ ?_
      rw [cellEntries_append, cellEntries_cons, hentries]
      simp only [List.mem_append]
      exact Or.inr (Or.inl (mem_segmentEntries.mpr ⟨_, by omega, by omega, rfl⟩))
    have hpos : 0 < seg.ngno := by omega
    have hfor : segmentFor seq uuid gno offset =
        if mustSwitch seq seg uuid gno offset then gtidSeqSwitchSegment seq uuid gno offset
        else some (seq, c.1) := by
      simp [segmentFor, hlast, hget, hwf.offsetAt (i := seg.ngno - 1) (by omega), hpos,
        htail (seg.ngno - 1) (by omega)]
    rw [hfor]
    by_cases hmust : mustSwitch seq seg uuid gno offset = true
    · rw [if_pos hmust]
      exact hswitch
    · rw [if_neg hmust]
      rw [mustSwitch, h.segmentSize, SEGMENT_SIZE, Bool.or_eq_true, Bool.or_eq_true, not_or,
        not_or, decide_eq_true_eq, decide_eq_true_eq, decide_eq_true_eq, not_not, not_not] at hmust
      obtain ⟨⟨huuid, hcont⟩, hspan⟩ := hmust
      have hb := hwf.offsets 0 hpos
      have hbase := hwf.baseOffset
      have h₀ := htail 0 hpos
      -- the sum wraps around only when it exceeds every offset
      have hspan' : offset ≤ seg.baseOffset + SEGOFF_MAX := by
        unfold llong at hspan
        unfold LLONG_MAX at hoff
        unfold LLONG_MIN at hoff hb
        unfold SEGOFF_MAX at hspan ⊢
        omega
      refine ⟨seq, p, c, f, seg, rfl, h.toSeqLinks, hget, hwf.toSlots,
        fun d hd => List.mem_append_left _ hd, Or.inr ⟨c, by simp, hcore.symm, hcont⟩, by omega,
        hspan', ?_⟩
      intro seg' happ
      refine ⟨happ.filled hwf htail hoff.2, ?_⟩
      rw [happ.entries (by omega), cellEntries_append, cellEntries_cons, hentries, huuid]
      simp

/-- **Append** adds one entry at the end of the log. -/
theorem gtidSeqAppend_filled (h : SeqFilled seq l f) (uuid : Uuid) (gno : Int)
    (hlog : ∀ e ∈ gtidSeqEntries seq, e.offset < offset)
    (hoff : LLONG_MIN ≤ offset ∧ offset ≤ LLONG_MAX) :
    ∃ seq' p c f' seg, gtidSeqAppend seq uuid gno offset = some seq' ∧
      SeqFilled seq' (p ++ [c]) f' ∧ (∀ d ∈ p, d ∈ l) ∧ Continues l gno seg ∧
      c.2.baseGno = seg.baseGno ∧ c.2.ngno = seg.ngno + 1 ∧
      gtidSeqEntries seq' = gtidSeqEntries seq ++ [⟨uuid, seg.baseGno + seg.ngno, offset⟩] := by
  rw [h.toSeqLinks.entries_eq] at hlog ⊢
  obtain ⟨seq₁, p, c, f', seg, hfor, hlinks, hget, hslots, hp, hcont, hb₁, hb₂, hafter⟩ :=
    segmentFor_spec h hlog hoff uuid gno
  obtain ⟨seg', hrun, happ⟩ := gtidSegmentAppend_spec hslots hb₁ hb₂
  obtain ⟨hwf', hentries⟩ := hafter seg' happ
  have hassign := hlinks.assign hget seg' happ.next happ.prev happ.slots happ.capacity
  have hlog' : cellEntries (p ++ [(c.1, unlinked seg')]) =
      cellEntries l ++ [⟨uuid, seg.baseGno + seg.ngno, offset⟩] := by
    rw [cellEntries_append, cellEntries_cons, cellEntries_nil, List.append_nil, ← hentries]
    rfl
  refine ⟨_, p, (c.1, unlinked seg'), f', seg, ?_, ⟨hassign, ?_, ?_⟩, hp, hcont, happ.baseGno,
    happ.ngno, ?_⟩
  · simp only [gtidSeqAppend, hfor, hget, hrun, Option.bind_eq_bind, Option.bind_some]
  · intro d hd
    rcases List.mem_append.mp hd with hd | hd
    · exact h.filled d (hp d hd)
    · rw [List.mem_singleton] at hd
      rw [hd]
      exact segmentFilled_unlinked.mpr hwf'
  · rw [hlog', Ordered, List.pairwise_append]
    exact ⟨h.ordered, List.pairwise_singleton _ _, fun e he d hd => by
      rw [List.mem_singleton] at hd
      rw [hd]
      exact hlog e he⟩
  · rw [hassign.entries_eq]
    exact hlog'

/-- Appending a gno in range. -/
theorem gtidSeqAppend_rep (h : SeqRep seq l f) (uuid : Uuid)
    (hlog : ∀ e ∈ gtidSeqEntries seq, e.offset < offset)
    (hoff : LLONG_MIN ≤ offset ∧ offset ≤ LLONG_MAX) (hgno : 1 ≤ gno ∧ gno < LLONG_MAX) :
    ∃ seq' l' f', gtidSeqAppend seq uuid gno offset = some seq' ∧ SeqRep seq' l' f' ∧
      gtidSeqEntries seq' = gtidSeqEntries seq ++ [⟨uuid, gno, offset⟩] := by
  obtain ⟨seq', p, c, f', seg, hrun, hfilled, hp, hcont, hbase, hn, hentries⟩ :=
    gtidSeqAppend_filled h.toFilled uuid gno hlog hoff
  have hnext : 1 ≤ seg.baseGno ∧ seg.baseGno + seg.ngno = gno := by
    rcases hcont with ⟨hbg, hzero⟩ | ⟨d, hd, hdseg, hllong⟩
    · rw [hbg, hzero]
      exact ⟨hgno.1, Int.add_zero gno⟩
    · have hg := (h.wf d hd).gnos
      rw [hdseg] at hg
      change 1 ≤ seg.baseGno ∧ seg.baseGno + seg.ngno ≤ LLONG_MAX at hg
      rw [llong_of_mem (by unfold LLONG_MIN; omega) hg.2] at hllong
      exact ⟨hg.1, hllong⟩
  refine ⟨seq', p ++ [c], f', hrun, hfilled.rep ?_, by rw [hentries, hnext.2]⟩
  intro d hd
  rcases List.mem_append.mp hd with hd | hd
  · exact (h.wf d (hp d hd)).gnos
  · rw [List.mem_singleton] at hd
    rw [hd, hbase, hn]
    have := hnext.2
    exact ⟨hnext.1, by push_cast; omega⟩

/-- An append succeeds only behind all entries. -/
theorem gtidSeqAppend_increasing {seq' : GtidSeq} (h : SeqFilled seq l f)
    (hrun : gtidSeqAppend seq uuid gno offset = some seq') :
    ∀ e ∈ gtidSeqEntries seq, e.offset < offset := by
  rw [h.entries_eq]
  rcases List.eq_nil_or_concat l with rfl | ⟨p, c, rfl⟩
  · simp
  · rw [List.concat_eq_append] at *
    obtain ⟨seg, hget, hcore, hwf⟩ := h.get (c := c) (by simp)
    have hne := hwf.nonempty
    have hlast : seq.lastseg = some c.1 := by
      rw [h.lastseg, List.map_append, List.map_singleton, List.getLast?_concat]
    simp only [gtidSeqAppend, segmentFor, hlast, hget, hwf.offsetAt (i := seg.ngno - 1) (by omega),
      Option.bind_eq_bind, Option.bind_eq_some_iff, Option.bind_some, Option.guard_eq_some',
      exists_const] at hrun
    obtain ⟨r, ⟨-, htail, -⟩, -⟩ := hrun
    have hord := h.ordered
    have hentries : segmentEntries c.2 = segmentEntries seg := by rw [← hcore]; rfl
    rw [cellEntries_append, cellEntries_cons, cellEntries_nil, List.append_nil, hentries] at hord ⊢
    have hmem : entryAt seg (seg.ngno - 1) ∈ segmentEntries seg :=
      mem_segmentEntries.mpr ⟨_, by omega, by omega, rfl⟩
    intro e he
    rcases List.mem_append.mp he with he | he
    · have := (List.pairwise_append.mp hord).2.2 e he _ hmem
      omega
    · obtain ⟨i, -, hin, rfl⟩ := mem_segmentEntries.mp he
      exact hwf.offset_lt htail hin

/-! ## Trim -/

/-- Trimming inside the first segment. -/
theorem SeqFilled.trimFirst (h : SeqFilled seq (c :: l) f) (hget : seq.segments.get c.1 = some seg)
    {k : Nat} (hk : seg.tgno ≤ k) (hkn : k < seg.ngno)
    (hlt : ∀ i, seg.tgno ≤ i → i < k → (entryAt seg i).offset < o)
    (hge : ∀ i, k ≤ i → i < seg.ngno → o ≤ (entryAt seg i).offset) :
    ∃ c', SeqFilled { seq with segments := seq.segments.set c.1 { seg with tgno := k } }
        (c' :: l) f ∧ c'.2.baseGno = c.2.baseGno ∧ c'.2.ngno = c.2.ngno ∧
      cellEntries (c' :: l) = entriesFrom LogEntry.offset o (cellEntries (c :: l)) := by
  obtain ⟨seg₀, hget₀, hcore, hwf⟩ := h.get (c := c) (by simp)
  obtain rfl : seg₀ = seg := Option.some.inj (hget₀.symm.trans hget)
  have hentries : segmentEntries c.2 = segmentEntries seg₀ := by rw [← hcore]; rfl
  have hassign := h.toSeqLinks.assign (p := []) hget₀ { seg₀ with tgno := k } rfl rfl
    ⟨hwf.length, hwf.pos, hwf.fits⟩ (le_refl _)
  rw [Nat.sub_self, Nat.add_zero, List.nil_append] at hassign
  have hwf' : SegmentFilled { seg₀ with tgno := k } :=
    ⟨⟨hwf.length, hwf.pos, hwf.fits⟩, hkn, hwf.filled, hwf.base, hwf.ordered, hwf.offsets⟩
  have hlog : cellEntries ((c.1, unlinked { seg₀ with tgno := k }) :: l) =
      entriesFrom LogEntry.offset o (cellEntries (c :: l)) := by
    have hord := h.ordered
    rw [cellEntries_cons, hentries] at hord
    rw [cellEntries_cons, cellEntries_cons, hentries, entriesFrom_append]
    congr 1
    · rw [segmentEntries_split hk (Nat.le_of_lt hkn), entriesFrom_append, entriesFrom_eq_nil,
        entriesFrom_eq_self]
      · rfl
      · intro e he
        obtain ⟨i, hi, rfl⟩ := List.mem_map.mp he
        rw [List.mem_range'_1] at hi
        exact hge i hi.1 (by omega)
      · intro e he
        obtain ⟨i, hi, rfl⟩ := List.mem_map.mp he
        rw [List.mem_range'_1] at hi
        exact hlt i hi.1 (by omega)
    · symm
      refine entriesFrom_eq_self (fun e he => ?_)
      have hlast := hge (seg₀.ngno - 1) (by omega) (by omega)
      have := (List.pairwise_append.mp hord).2.2 _
        (mem_segmentEntries.mpr ⟨seg₀.ngno - 1, by omega, by omega, rfl⟩) e he
      exact Int.le_of_lt (Int.lt_of_le_of_lt hlast this)
  refine ⟨_, ⟨hassign, ?_, ?_⟩, by rw [← hcore]; rfl, by rw [← hcore]; rfl, hlog⟩
  · intro d hd
    rcases List.mem_cons.mp hd with rfl | hd
    · exact segmentFilled_unlinked.mpr hwf'
    · exact h.filled d (List.mem_cons_of_mem c hd)
  · rw [hlog]
    exact h.ordered.entriesFrom o

/-- The loop of `gtidSeqTrim` keeps the entries from the cut point on. -/
theorem trimFrom_filled (h : SeqFilled seq l f) {fuel : Nat} (hfuel : l.length < fuel) :
    ∃ seq' l' f', trimFrom o fuel seq = some seq' ∧ SeqFilled seq' l' f' ∧
      (∀ d ∈ l', ∃ c ∈ l, d.2.baseGno = c.2.baseGno ∧ d.2.ngno = c.2.ngno) ∧
      cellEntries l' = entriesFrom LogEntry.offset o (cellEntries l) := by
  induction l generalizing seq f fuel with
  | nil =>
    obtain ⟨fuel, rfl⟩ := Nat.exists_eq_succ_of_ne_zero (by omega : fuel ≠ 0)
    have hfirst : seq.firstseg = none := h.firstseg
    exact ⟨seq, [], f, by simp only [trimFrom, hfirst], h, by simp, rfl⟩
  | cons c l ih =>
    obtain ⟨fuel, rfl⟩ := Nat.exists_eq_succ_of_ne_zero (by omega : fuel ≠ 0)
    have hfirst : seq.firstseg = some c.1 := h.firstseg
    obtain ⟨seg, hget, hcore, hwf⟩ := h.get (c := c) (by simp)
    have hne := hwf.nonempty
    have hentries : segmentEntries c.2 = segmentEntries seg := by rw [← hcore]; rfl
    obtain ⟨k, hsearch, hk₁, hk₂, hlt, hge⟩ := hwf.searchOffset o
    by_cases htail : (entryAt seg (seg.ngno - 1)).offset < o
    · obtain ⟨f', hlinks, -⟩ := dropFirstSegment_links h.toSeqLinks hget
      have hord := h.ordered
      rw [cellEntries_cons] at hord
      have hdropped : SeqFilled (dropFirstSegment seq c.1 seg) l f' :=
        ⟨hlinks, fun d hd => h.filled d (List.mem_cons_of_mem c hd), hord.suffix⟩
      obtain ⟨seq', l', f'', hrun, hrep, hold, hl'⟩ := ih hdropped (by simpa using hfuel)
      refine ⟨seq', l', f'', ?_, hrep, ?_, ?_⟩
      · simp only [trimFrom, hfirst, hget, Option.bind_eq_bind, Option.bind_some, guard, hne,
          if_true, Option.pure_def, hwf.offsetAt (i := seg.ngno - 1) (by omega), htail, hrun]
      · intro d hd
        obtain ⟨c', hc', hsame⟩ := hold d hd
        exact ⟨c', List.mem_cons_of_mem c hc', hsame⟩
      · rw [hl', cellEntries_cons, hentries, entriesFrom_append, entriesFrom_eq_nil (l := segmentEntries seg),
          List.nil_append]
        intro e he
        obtain ⟨i, -, hin, rfl⟩ := mem_segmentEntries.mp he
        exact hwf.offset_lt htail hin
    · have hkn : k < seg.ngno := by
        apply Classical.byContradiction
        intro hn
        exact htail (hlt (seg.ngno - 1) (by omega) (by omega))
      obtain ⟨c', hrep, hbase, hn, hl'⟩ := h.trimFirst hget hk₁ hkn hlt hge
      refine ⟨_, c' :: l, f, ?_, hrep, ?_, hl'⟩
      · simp only [trimFrom, hfirst, hget, Option.bind_eq_bind, Option.bind_some, guard, hne,
          if_true, Option.pure_def, hwf.offsetAt (i := seg.ngno - 1) (by omega), htail, if_false,
          hsearch, hkn]
      · intro d hd
        rcases List.mem_cons.mp hd with rfl | hd
        · exact ⟨c, by simp, hbase, hn⟩
        · exact ⟨d, List.mem_cons_of_mem c hd, rfl, rfl⟩

/-- **Trim** keeps the entries from the cut point on. -/
theorem gtidSeqTrim_filled (h : SeqFilled seq l f) (o : Int) :
    ∃ seq' l' f', gtidSeqTrim seq o = some seq' ∧ SeqFilled seq' l' f' ∧
      (∀ d ∈ l', ∃ c ∈ l, d.2.baseGno = c.2.baseGno ∧ d.2.ngno = c.2.ngno) ∧
      gtidSeqEntries seq' = entriesFrom LogEntry.offset o (gtidSeqEntries seq) := by
  obtain ⟨seq', l', f', hrun, hrep, hold, hl'⟩ := trimFrom_filled (o := o) h
    (Nat.lt_succ_of_le h.toSeqLinks.length_le)
  exact ⟨seq', l', f', hrun, hrep, hold,
    by rw [hrep.toSeqLinks.entries_eq, h.toSeqLinks.entries_eq]; exact hl'⟩

theorem gtidSeqTrim_rep (h : SeqRep seq l f) (o : Int) :
    ∃ seq' l' f', gtidSeqTrim seq o = some seq' ∧ SeqRep seq' l' f' ∧
      gtidSeqEntries seq' = entriesFrom LogEntry.offset o (gtidSeqEntries seq) := by
  obtain ⟨seq', l', f', hrun, hfilled, hold, hentries⟩ := gtidSeqTrim_filled h.toFilled o
  refine ⟨seq', l', f', hrun, hfilled.rep ?_, hentries⟩
  intro d hd
  obtain ⟨c, hc, hbase, hn⟩ := hold d hd
  rw [hbase, hn]
  exact (h.wf c hc).gnos

end Seq

end XredisGtid
