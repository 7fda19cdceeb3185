import XredisGtid.GtidSeqRep

/-!
# The bookkeeping of the sequence

`Bookkeeping seq used free` is all that the counters and pointers of a sequence promise:
the two lists of segments, their lengths and capacities, and what is in a used segment.
It holds in every run of appends with increasing offsets and of trims, whatever the gnos
are (`GtidSeqHistory`), and with it no assertion of append, trim or destroy fails.
-/
namespace XredisGtid
open Memory OffsetLog

/-- A segment of the used list. -/
structure UsedSegment (seg : GtidSegment) : Prop where
  nonempty : seg.tgno < seg.ngno
  fits : seg.ngno ≤ seg.capacity
  slots : seg.deltas.length = seg.capacity
  base : deltaAt seg 0 = some 0
  filled : ∀ i < seg.ngno, ∃ delta, deltaAt seg i = some delta ∧ delta.toNat ≤ SEGOFF_MAX
  increasing : ∀ i j, i < j → j < seg.ngno →
    ∃ d d', deltaAt seg i = some d ∧ deltaAt seg j = some d' ∧ d < d'

/-- The capacity of the segment at `a`. -/
def capacityOf (segments : Arena GtidSegment) (a : Addr) : Nat :=
  ((segments.get a).map GtidSegment.capacity).getD 0

structure Bookkeeping (seq : GtidSeq) (used free : List Addr) : Prop where
  next : Chain (segmentNextOf seq.segments) seq.firstseg used
  prev : Chain (segmentPrevOf seq.segments) seq.lastseg used.reverse
  freeNext : Chain (segmentNextOf seq.segments) seq.freeseg free
  freePrev : ∀ a ∈ free, segmentPrevOf seq.segments a = none
  nodup : (used ++ free).Nodup
  nsegment : seq.nsegment = used.length
  nfreeseg : seq.nfreeseg = free.length
  nsegmentDeltas : seq.nsegmentDeltas = (used.map (capacityOf seq.segments)).sum
  nfreesegDeltas : seq.nfreesegDeltas = (free.map (capacityOf seq.segments)).sum
  segments : ∀ a ∈ used, ∃ seg, seq.segments.get a = some seg ∧ UsedSegment seg
  freeSegments : ∀ a ∈ free, ∃ seg, seq.segments.get a = some seg

/-- The sequences reached by appends at the offsets of `hist`, which increase, and by
trims anywhere. -/
inductive GtidSeqHistory : List Int → GtidSeq → Prop
  | create : GtidSeqHistory [] gtidSeqCreate
  | append {hist : List Int} {seq seq' : GtidSeq} (uuid : Uuid) (gno offset : Int) :
      GtidSeqHistory hist seq → LLONG_MIN ≤ offset → offset ≤ LLONG_MAX →
      (∀ o ∈ hist, o < offset) → gtidSeqAppend seq uuid gno offset = some seq' →
      GtidSeqHistory (hist ++ [offset]) seq'
  | trim {hist : List Int} {seq seq' : GtidSeq} (o : Int) :
      GtidSeqHistory hist seq → gtidSeqTrim seq o = some seq' → GtidSeqHistory hist seq'

/-- What holds of every sequence of such a run. -/
def HistoryInvariant (hist : List Int) (seq : GtidSeq) : Prop :=
  (∃ l f, SeqFilled seq l f) ∧ ∀ e ∈ gtidSeqEntries seq, e.offset ∈ hist

section Book
variable {seq : GtidSeq} {l f : List (Addr × GtidSegment)} {seg : GtidSegment}
  {hist : List Int} {segments : Arena GtidSegment} {p : Option Addr}

theorem SegmentFilled.used (h : SegmentFilled seg) : UsedSegment seg := by
  refine ⟨h.nonempty, h.fits, h.length, h.base, ?_, ?_⟩
  · intro i hi
    obtain ⟨delta, hdelta⟩ := h.filled i hi
    have := delta.toNat_lt
    exact ⟨delta, hdelta, by unfold SEGOFF_MAX; omega⟩
  · intro i j hij hj
    obtain ⟨d, hd⟩ := h.filled i (by omega)
    obtain ⟨d', hd'⟩ := h.filled j hj
    have hlt := h.ordered i j hij hj
    simp only [entryAt, hd, hd', Option.getD_some] at hlt
    exact ⟨d, d', hd, hd', UInt16.lt_iff_toNat_lt.mpr (by omega)⟩

theorem capacities_eq (h : ∀ c ∈ l, (segments.get c.1).map unlinked = some c.2) :
    capacities l = ((l.map Prod.fst).map (capacityOf segments)).sum := by
  rw [capacities, List.map_map]
  congr 1
  refine List.map_congr_left (fun c hc => ?_)
  obtain ⟨seg, hseg, hcore⟩ := Option.map_eq_some_iff.mp (h c hc)
  rw [Function.comp_apply, capacityOf, hseg, ← hcore]
  rfl

theorem SeqFilled.bookkeeping (h : SeqFilled seq l f) :
    Bookkeeping seq (l.map Prod.fst) (f.map Prod.fst) := by
  refine ⟨h.next, h.prev, h.free, ?_, ?_, ?_, ?_, ?_, ?_, ?_, ?_⟩
  · intro a ha
    obtain ⟨c, hc, rfl⟩ := List.mem_map.mp ha
    exact h.freePrev c hc
  · rw [← List.map_append]
    exact h.nodup
  · rw [List.length_map, h.nsegment]
  · rw [List.length_map, h.nfreeseg]
  · rw [h.nsegmentDeltas]
    exact capacities_eq (fun c hc => h.holds c (List.mem_append_left f hc))
  · rw [h.nfreesegDeltas]
    exact capacities_eq (fun c hc => h.holds c (List.mem_append_right l hc))
  · intro a ha
    obtain ⟨c, hc, rfl⟩ := List.mem_map.mp ha
    obtain ⟨seg, hseg, -, hfilled⟩ := h.get hc
    exact ⟨seg, hseg, hfilled.used⟩
  · intro a ha
    obtain ⟨c, hc, rfl⟩ := List.mem_map.mp ha
    obtain ⟨seg, hseg, -⟩ := h.toSeqLinks.get (List.mem_append_right l hc)
    exact ⟨seg, hseg⟩

/-! ## Destroying a sequence -/

/-- **A loop of `gtidSeqDestroy`** frees its list and ends with both counters at zero. -/
theorem destroyFrom_spec (n deltas fuel : Nat)
    (hchain : Chain (segmentNextOf segments) p (l.map Prod.fst))
    (hnd : (l.map Prod.fst).Nodup) (h : ∀ c ∈ l, (segments.get c.1).map unlinked = some c.2)
    (hn : (n : Int) % 2 ^ 64 = l.length % 2 ^ 64)
    (hdeltas : (deltas : Int) % 2 ^ 64 = capacities l % 2 ^ 64)
    (hnil : l = [] → n = 0 ∧ deltas = 0) (hfuel : l.length < fuel) :
    ∃ segments', destroyFrom fuel p segments n deltas = some (segments', 0, 0) ∧
      (∀ b ∈ l.map Prod.fst, segments'.get b = none) ∧
      ∀ b, b ∉ l.map Prod.fst → segments'.get b = segments.get b := by
  induction l generalizing p segments n deltas fuel with
  | nil =>
    obtain ⟨fuel, rfl⟩ := Nat.exists_eq_succ_of_ne_zero (by omega : fuel ≠ 0)
    obtain ⟨rfl, rfl⟩ := hnil rfl
    have hp : p = none := hchain
    exact ⟨segments, by rw [hp, destroyFrom], by simp, fun _ _ => rfl⟩
  | cons c l ih =>
    obtain ⟨fuel, rfl⟩ := Nat.exists_eq_succ_of_ne_zero (by omega : fuel ≠ 0)
    obtain ⟨hp, hrest⟩ := hchain
    obtain ⟨seg, hseg, hcore⟩ := Option.map_eq_some_iff.mp (h c (by simp))
    have hcap : c.2.capacity = seg.capacity := by rw [← hcore]; rfl
    rw [List.map_cons, List.nodup_cons] at hnd
    have hne : ∀ b ∈ l.map Prod.fst, b ≠ c.1 := fun b hb hbc => hnd.1 (hbc ▸ hb)
    rw [segmentNextOf_of_get hseg] at hrest
    have hchain' : Chain (segmentNextOf (segments.free c.1)) seg.next (l.map Prod.fst) :=
      hrest.congr (fun b hb => segmentNextOf_congr (Arena.get_free_of_ne (hne b hb)))
    have hheld : ∀ d ∈ l, ((segments.free c.1).get d.1).map unlinked = some d.2 := by
      intro d hd
      rw [Arena.get_free_of_ne (hne d.1 (List.mem_map_of_mem hd))]
      exact h d (List.mem_cons_of_mem c hd)
    rw [List.length_cons] at hn hfuel
    rw [capacities_cons, hcap] at hdeltas
    obtain ⟨segments', hrun, hfreed, hframe⟩ := ih (sizeT ((n : Int) - 1))
      (sizeT ((deltas : Int) - seg.capacity)) fuel hchain' hnd.2 hheld
      (by unfold sizeT; omega) (by unfold sizeT; omega)
      (by
        rintro rfl
        rw [List.length_nil] at hn
        rw [capacities_nil] at hdeltas
        unfold sizeT
        omega)
      (by omega)
    refine ⟨segments', ?_, ?_, ?_⟩
    · rw [hp, destroyFrom, hseg]
      exact hrun
    · intro b hb
      rcases List.mem_cons.mp hb with rfl | hb
      · rw [hframe c.1 hnd.1, Arena.get_free_self]
      · exact hfreed b hb
    · intro b hb
      rw [List.map_cons, List.mem_cons, not_or] at hb
      rw [hframe b hb.2, Arena.get_free_of_ne hb.1]

/-- **Destroying a sequence** frees all its segments. -/
theorem gtidSeqDestroy_spec (h : SeqLinks seq l f) :
    ∃ segments, gtidSeqDestroy seq = some segments ∧
      ∀ c ∈ l ++ f, segments.get c.1 = none := by
  have hnd := h.nodup
  rw [List.map_append, List.nodup_append] at hnd
  obtain ⟨hndl, hndf, hdisjoint⟩ := hnd
  have hlen := length_le_of_nodup_lt h.nodup (by
    intro a ha
    obtain ⟨c, hc, rfl⟩ := List.mem_map.mp ha
    obtain ⟨seg, hseg, -⟩ := h.get hc
    exact Arena.lt_size_of_get hseg)
  rw [List.length_map, List.length_append] at hlen
  obtain ⟨segments₁, hused, hfreed₁, hframe₁⟩ := destroyFrom_spec
    seq.nsegment seq.nsegmentDeltas (seq.segments.size + 1) h.next hndl
    (fun c hc => h.holds c (List.mem_append_left f hc))
    (by rw [h.nsegment]) (by rw [h.nsegmentDeltas])
    (by rintro rfl; exact ⟨h.nsegment, h.nsegmentDeltas⟩) (by omega)
  have hsame : ∀ b ∈ f.map Prod.fst, segments₁.get b = seq.segments.get b := fun b hb =>
    hframe₁ b (fun hl => hdisjoint b hl b hb rfl)
  obtain ⟨segments₂, hfree, hfreed₂, hframe₂⟩ := destroyFrom_spec
    seq.nfreeseg seq.nfreesegDeltas (seq.segments.size + 1)
    (h.free.congr (fun b hb => segmentNextOf_congr (hsame b hb))) hndf
    (fun c hc => by
      rw [hsame c.1 (List.mem_map_of_mem hc)]
      exact h.holds c (List.mem_append_right l hc))
    (by rw [h.nfreeseg]) (by rw [h.nfreesegDeltas])
    (by rintro rfl; exact ⟨h.nfreeseg, h.nfreesegDeltas⟩) (by omega)
  refine ⟨segments₂, ?_, ?_⟩
  · simp only [gtidSeqDestroy, hused, hfree, Option.bind_eq_bind, Option.bind_some, guard, and_self,
      if_true, Option.pure_def]
  · intro c hc
    rcases List.mem_append.mp hc with hc | hc
    · have hl := List.mem_map_of_mem (f := Prod.fst) hc
      rw [hframe₂ c.1 (fun hf => hdisjoint c.1 hl c.1 hf rfl), hfreed₁ c.1 hl]
    · exact hfreed₂ c.1 (List.mem_map_of_mem hc)

/-! ## Runs -/

theorem historyInvariant_create : HistoryInvariant [] gtidSeqCreate :=
  ⟨⟨[], [], seqFilled_create⟩, by simp [seqFilled_create.toSeqLinks.entries_eq]⟩

theorem HistoryInvariant.append (h : HistoryInvariant hist seq) (uuid : Uuid) (gno : Int)
    (offset : Int) (hoff : LLONG_MIN ≤ offset ∧ offset ≤ LLONG_MAX)
    (hinc : ∀ o ∈ hist, o < offset) :
    ∃ seq', gtidSeqAppend seq uuid gno offset = some seq' ∧
      HistoryInvariant (hist ++ [offset]) seq' := by
  obtain ⟨⟨l, f, hfilled⟩, hmem⟩ := h
  obtain ⟨seq', p, c, f', seg, hrun, hfilled', -, -, -, -, hentries⟩ :=
    gtidSeqAppend_filled hfilled uuid gno (fun e he => hinc _ (hmem e he)) hoff
  refine ⟨seq', hrun, ⟨_, _, hfilled'⟩, ?_⟩
  intro e he
  rw [hentries, List.mem_append, List.mem_singleton] at he
  rcases he with he | rfl
  · exact List.mem_append_left _ (hmem e he)
  · exact List.mem_append_right _ (List.mem_singleton.mpr rfl)

theorem HistoryInvariant.trim (h : HistoryInvariant hist seq) (o : Int) :
    ∃ seq', gtidSeqTrim seq o = some seq' ∧ HistoryInvariant hist seq' := by
  obtain ⟨⟨l, f, hfilled⟩, hmem⟩ := h
  obtain ⟨seq', l', f', hrun, hfilled', -, hentries⟩ := gtidSeqTrim_filled hfilled o
  refine ⟨seq', hrun, ⟨_, _, hfilled'⟩, ?_⟩
  intro e he
  rw [hentries, mem_entriesFrom] at he
  exact hmem e he.1

theorem GtidSeqHistory.invariant (h : GtidSeqHistory hist seq) : HistoryInvariant hist seq := by
  induction h with
  | create => exact historyInvariant_create
  | append uuid gno offset _ hmin hmax hinc hrun ih =>
    obtain ⟨seq', hrun', hinv⟩ := ih.append uuid gno offset ⟨hmin, hmax⟩ hinc
    exact Option.some.inj (hrun.symm.trans hrun') ▸ hinv
  | trim o _ hrun ih =>
    obtain ⟨seq', hrun', hinv⟩ := ih.trim o
    exact Option.some.inj (hrun.symm.trans hrun') ▸ hinv

/-- **The bookkeeping is right in every run**, and no assertion fails. -/
theorem gtidSeq_bookkeeping (h : GtidSeqHistory hist seq) :
    (∃ used free, Bookkeeping seq used free) ∧
    (∀ uuid gno offset, LLONG_MIN ≤ offset → offset ≤ LLONG_MAX → (∀ o ∈ hist, o < offset) →
      ∃ seq', gtidSeqAppend seq uuid gno offset = some seq') ∧
    (∀ o, ∃ seq', gtidSeqTrim seq o = some seq') ∧
    ∃ segments, gtidSeqDestroy seq = some segments := by
  obtain ⟨⟨l, f, hfilled⟩, -⟩ := h.invariant
  refine ⟨⟨_, _, hfilled.bookkeeping⟩, ?_, ?_, ?_⟩
  · intro uuid gno offset hmin hmax hinc
    obtain ⟨seq', hrun, -⟩ := h.invariant.append uuid gno offset ⟨hmin, hmax⟩ hinc
    exact ⟨seq', hrun⟩
  · intro o
    obtain ⟨seq', hrun, -⟩ := h.invariant.trim o
    exact ⟨seq', hrun⟩
  · obtain ⟨segments, hrun, -⟩ := gtidSeqDestroy_spec hfilled.toSeqLinks
    exact ⟨segments, hrun⟩

theorem gtidSeq_bookkeeping_max :
    ∃ seq used free, gtidSeqAppend gtidSeqCreate [65] LLONG_MAX 100 = some seq ∧
      Bookkeeping seq used free ∧ ∃ segments, gtidSeqDestroy seq = some segments := by
  obtain ⟨seq, hrun, -⟩ := historyInvariant_create.append [65] LLONG_MAX 100 (by decide)
    (by simp)
  obtain ⟨⟨used, free, hbook⟩, -, -, hdestroy⟩ := gtidSeq_bookkeeping
    (.append [65] LLONG_MAX 100 .create (by decide) (by decide) (by simp) hrun)
  exact ⟨seq, used, free, hrun, hbook, hdestroy⟩

end Book

end XredisGtid
