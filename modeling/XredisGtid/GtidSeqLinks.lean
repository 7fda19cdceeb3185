import Mathlib
import XredisGtid.GtidSeq

/-!
# The lists of segments

`SeqLinks seq l f` says that the used segments of `seq` are the cells `l` and the free
ones the cells `f`: both are linked in that order, the used ones in both directions,
and the counters agree with them.  A cell is an address and the segment there without
its two pointers (`unlinked`), so that relinking a segment does not change its cell.

Nothing is said here about the gtids of a segment, except that its array has as many
slots as its capacity says (`Slots`); that is all a free segment keeps.
-/
namespace XredisGtid
open Memory

/-- A segment without its pointers. -/
def unlinked (seg : GtidSegment) : GtidSegment := { seg with next := none, prev := none }

section Unlinked
variable (seg : GtidSegment)

@[simp] theorem segmentEntries_unlinked : segmentEntries (unlinked seg) = segmentEntries seg := rfl

end Unlinked

/-- The array of a segment has `capacity` slots, at least one. -/
structure Slots (seg : GtidSegment) : Prop where
  length : seg.deltas.length = seg.capacity
  pos : 0 < seg.capacity
  fits : seg.ngno ≤ seg.capacity

/-- The sum of the capacities of some segments. -/
def capacities (l : List (Addr × GtidSegment)) : Nat := (l.map (fun c => c.2.capacity)).sum

structure SeqLinks (seq : GtidSeq) (l f : List (Addr × GtidSegment)) : Prop where
  segmentSize : seq.segmentSize = SEGMENT_SIZE
  holds : ∀ c ∈ l ++ f, (seq.segments.get c.1).map unlinked = some c.2
  slots : ∀ c ∈ l ++ f, Slots c.2
  nodup : ((l ++ f).map Prod.fst).Nodup
  next : Chain (segmentNextOf seq.segments) seq.firstseg (l.map Prod.fst)
  prev : Chain (segmentPrevOf seq.segments) seq.lastseg (l.map Prod.fst).reverse
  free : Chain (segmentNextOf seq.segments) seq.freeseg (f.map Prod.fst)
  freePrev : ∀ c ∈ f, segmentPrevOf seq.segments c.1 = none
  nsegment : seq.nsegment = l.length
  nfreeseg : seq.nfreeseg = f.length
  nsegmentDeltas : seq.nsegmentDeltas = capacities l
  nfreesegDeltas : seq.nfreesegDeltas = capacities f

section Links
variable {seq : GtidSeq} {l f p q : List (Addr × GtidSegment)} {c : Addr × GtidSegment}
  {a : Addr} {seg seg' : GtidSegment} {segments : Arena GtidSegment}

@[simp] theorem capacities_nil : capacities [] = 0 := rfl

@[simp] theorem capacities_cons : capacities (c :: l) = c.2.capacity + capacities l := by
  simp [capacities]

@[simp] theorem capacities_append : capacities (p ++ q) = capacities p + capacities q := by
  simp [capacities]

theorem segmentNextOf_of_get (h : segments.get a = some seg) :
    segmentNextOf segments a = seg.next := by simp [segmentNextOf, h]

theorem segmentPrevOf_of_get (h : segments.get a = some seg) :
    segmentPrevOf segments a = seg.prev := by simp [segmentPrevOf, h]

theorem segmentNextOf_congr {segments' : Arena GtidSegment}
    (h : segments'.get a = segments.get a) : segmentNextOf segments' a = segmentNextOf segments a := by
  simp [segmentNextOf, h]

theorem segmentPrevOf_congr {segments' : Arena GtidSegment}
    (h : segments'.get a = segments.get a) : segmentPrevOf segments' a = segmentPrevOf segments a := by
  simp [segmentPrevOf, h]

theorem seqLinks_create : SeqLinks gtidSeqCreate [] [] :=
  ⟨rfl, by simp, by simp, by simp, rfl, rfl, rfl, by simp, rfl, rfl, rfl, rfl⟩

theorem SeqLinks.get (h : SeqLinks seq l f) (hc : c ∈ l ++ f) :
    ∃ seg, seq.segments.get c.1 = some seg ∧ unlinked seg = c.2 :=
  Option.map_eq_some_iff.mp (h.holds c hc)

theorem SeqLinks.firstseg (h : SeqLinks seq l f) : seq.firstseg = (l.map Prod.fst).head? :=
  h.next.head

theorem SeqLinks.lastseg (h : SeqLinks seq l f) : seq.lastseg = (l.map Prod.fst).getLast? := by
  rw [h.prev.head, List.head?_reverse]

theorem SeqLinks.length_le (h : SeqLinks seq l f) : l.length ≤ seq.segments.size := by
  have hnd := h.nodup
  rw [List.map_append] at hnd
  have := length_le_of_nodup_lt (List.nodup_append.mp hnd).1 (by
    intro a ha
    obtain ⟨c, hc, rfl⟩ := List.mem_map.mp ha
    obtain ⟨seg, hseg, -⟩ := h.get (List.mem_append_left f hc)
    exact Arena.lt_size_of_get hseg)
  simpa using this

theorem SeqLinks.segmentsBackward_eq (h : SeqLinks seq l f) :
    segmentsBackward seq = (l.map Prod.fst).reverse :=
  follow_chain h.prev (by simpa using h.length_le)

theorem SeqLinks.entries_eq (h : SeqLinks seq l f) :
    gtidSeqEntries seq = l.flatMap (fun c => segmentEntries c.2) := by
  rw [gtidSeqEntries, follow_chain h.next (by simpa using h.length_le), List.flatMap_map]
  refine List.flatMap_congr (fun c hc => ?_)
  obtain ⟨seg, hseg, hcore⟩ := h.get (List.mem_append_left f hc)
  rw [hseg, ← hcore]
  rfl

/-! ## Taking a segment and linking it -/

/-- **Taking a segment** leaves the used ones as they are. -/
theorem takeSegment_links (h : SeqLinks seq l f) :
    ∃ seq' a f' seg, takeSegment seq = some (seq', a) ∧ SeqLinks seq' l f' ∧
      a ∉ (l ++ f').map Prod.fst ∧ seq'.segments.get a = some seg ∧ seg.next = none ∧
      seg.deltas.length = seg.capacity ∧ 0 < seg.capacity := by
  cases f with
  | nil =>
    have hfree : seq.freeseg = none := h.free
    have hfresh : ∀ c ∈ l ++ [], c.1 ≠ seq.segments.fresh := by
      intro c hc
      obtain ⟨seg, hseg, -⟩ := h.get hc
      exact Nat.ne_of_lt (Arena.lt_size_of_get hseg)
    have hsame : ∀ b ∈ (l ++ []).map Prod.fst,
        (seq.segments.alloc gtidSegmentNew).get b = seq.segments.get b := by
      intro b hb
      obtain ⟨c, hc, rfl⟩ := List.mem_map.mp hb
      exact Arena.get_alloc_of_ne _ (hfresh c hc)
    rw [List.append_nil] at hsame
    refine ⟨_, _, [], gtidSegmentNew, by rw [takeSegment, hfree], ?_, ?_,
      Arena.get_alloc_fresh _ _, rfl, rfl, by decide⟩
    · refine ⟨h.segmentSize, ?_, h.slots, h.nodup, ?_, ?_, rfl, by simp, h.nsegment, h.nfreeseg,
        h.nsegmentDeltas, h.nfreesegDeltas⟩
      · intro c hc
        exact (congrArg _ (Arena.get_alloc_of_ne _ (hfresh c hc))).trans (h.holds c hc)
      · exact h.next.congr (fun b hb => segmentNextOf_congr (hsame b hb))
      · exact h.prev.congr (fun b hb => segmentPrevOf_congr (hsame b (by simpa using hb)))
    · intro hmem
      obtain ⟨c, hc, hca⟩ := List.mem_map.mp hmem
      exact hfresh c hc hca
  | cons c f =>
    have hfree : seq.freeseg = some c.1 := h.free.1
    obtain ⟨seg, hseg, hcore⟩ := h.get (c := c) (by simp)
    have hprev : seg.prev = none := by
      rw [← segmentPrevOf_of_get hseg]
      exact h.freePrev c (by simp)
    have hnext : seg.next = (f.map Prod.fst).head? := by
      rw [← segmentNextOf_of_get hseg]
      exact h.free.2.head
    have hslots := h.slots c (by simp)
    have hnd := h.nodup
    rw [List.map_append, List.map_cons, List.nodup_append, List.nodup_cons] at hnd
    have hne : ∀ d ∈ l ++ f, d.1 ≠ c.1 := by
      intro d hd hdc
      rcases List.mem_append.mp hd with hd | hd
      · exact hnd.2.2 _ (List.mem_map_of_mem hd) _ (by simp) hdc
      · exact hnd.2.1.1 (hdc ▸ List.mem_map_of_mem hd)
    have hsame : ∀ b ∈ (l ++ f).map Prod.fst,
        (seq.segments.set c.1 { seg with next := none }).get b = seq.segments.get b := by
      intro b hb
      obtain ⟨d, hd, rfl⟩ := List.mem_map.mp hb
      exact Arena.get_set_of_ne _ (hne d hd)
    rw [List.map_append] at hsame
    have htake : takeSegment seq = some ({ seq with
        freeseg := seg.next
        segments := seq.segments.set c.1 { seg with next := none }
        nfreeseg := seq.nfreeseg - 1
        nfreesegDeltas := seq.nfreesegDeltas - seg.capacity }, c.1) := by
      simp [takeSegment, hfree, hseg, hprev]
    refine ⟨_, c.1, f, { seg with next := none }, htake, ?_, ?_,
      Arena.get_set_self _ hseg, rfl, ?_, ?_⟩
    · refine ⟨h.segmentSize, ?_, ?_, ?_, ?_, ?_, ?_, ?_, h.nsegment, ?_, h.nsegmentDeltas, ?_⟩
      · intro d hd
        exact (congrArg _ (Arena.get_set_of_ne _ (hne d hd))).trans
          (h.holds d (by simp only [List.mem_append, List.mem_cons] at hd ⊢; tauto))
      · intro d hd
        exact h.slots d (by simp only [List.mem_append, List.mem_cons] at hd ⊢; tauto)
      · rw [List.map_append]
        exact List.nodup_append.mpr
          ⟨hnd.1, hnd.2.1.2, fun x hx y hy => hnd.2.2 x hx y (by simp [hy])⟩
      · exact h.next.congr (fun b hb => segmentNextOf_congr (hsame b (by simp [hb])))
      · exact h.prev.congr (fun b hb =>
          segmentPrevOf_congr (hsame b (List.mem_append_left _ (List.mem_reverse.mp hb))))
      · show Chain _ seg.next _
        rw [hnext, ← h.free.2.head]
        exact h.free.2.congr (fun b hb => segmentNextOf_congr (hsame b (by simp [hb])))
      · intro d hd
        rw [segmentPrevOf_congr (hsame d.1 (List.mem_append_right _ (List.mem_map_of_mem hd)))]
        exact h.freePrev d (by simp [hd])
      · show seq.nfreeseg - 1 = _
        rw [h.nfreeseg]
        rfl
      · show seq.nfreesegDeltas - seg.capacity = _
        have : c.2.capacity = seg.capacity := by rw [← hcore]; rfl
        rw [h.nfreesegDeltas, capacities_cons, this, Nat.add_sub_cancel_left]
    · intro hmem
      obtain ⟨d, hd, hdc⟩ := List.mem_map.mp hmem
      exact hne d hd hdc
    · have := hslots.length
      rw [← hcore] at this
      exact this
    · have := hslots.pos
      rw [← hcore] at this
      exact this

/-- The cells after a segment is linked behind the last one. -/
theorem get_linkSegment (h : seq.segments.get a = some seg') (hlast : seq.lastseg ≠ some a)
    (seg : GtidSegment) (b : Addr) : (linkSegment seq a seg).segments.get b =
      if b = a then some { seg with prev := seq.lastseg }
      else if seq.lastseg = some b then
        (seq.segments.get b).map (fun s => { s with next := some a })
      else seq.segments.get b := by
  have hset : ∀ b, (seq.segments.set a { seg with prev := seq.lastseg }).get b =
      if b = a then some { seg with prev := seq.lastseg } else seq.segments.get b := by
    intro b
    by_cases hb : b = a
    · rw [if_pos hb, hb, Arena.get_set_self _ h]
    · rw [if_neg hb, Arena.get_set_of_ne _ hb]
  have hget : (linkSegment seq a seg).segments.get b =
      if seq.lastseg = some b then
        ((seq.segments.set a { seg with prev := seq.lastseg }).get b).map
          (fun s => { s with next := some a })
      else (seq.segments.set a { seg with prev := seq.lastseg }).get b :=
    Arena.get_modifyAt _ _ _ _
  rw [hget, hset]
  by_cases hb : b = a
  · rw [if_pos hb, if_pos hb, if_neg (hb ▸ hlast)]
  · rw [if_neg hb, if_neg hb]

/-- **Linking a segment** puts its cell at the end. -/
theorem linkSegment_links (h : SeqLinks seq l f) (ha : a ∉ (l ++ f).map Prod.fst)
    (hget : seq.segments.get a = some seg') (hnext : seg.next = none) (hslots : Slots seg) :
    SeqLinks (linkSegment seq a seg) (l ++ [(a, unlinked seg)]) f := by
  have hlast : seq.lastseg ≠ some a := by
    rw [h.lastseg]
    exact fun he => ha (by
      rw [List.map_append]
      exact List.mem_append_left _ (List.mem_of_getLast? he))
  have hcells := get_linkSegment hget hlast seg
  have hne : ∀ c ∈ l ++ f, c.1 ≠ a := fun c hc hca => ha (hca ▸ List.mem_map_of_mem hc)
  have hnew : (linkSegment seq a seg).segments.get a = some { seg with prev := seq.lastseg } := by
    rw [hcells, if_pos rfl]
  have hnd := h.nodup
  rw [List.map_append, List.nodup_append] at hnd
  -- only the last used segment has its pointer changed
  have hfree : ∀ c ∈ f, (linkSegment seq a seg).segments.get c.1 = seq.segments.get c.1 := by
    intro c hc
    rw [hcells, if_neg (hne c (List.mem_append_right l hc)), if_neg]
    rw [h.lastseg]
    exact fun he => hnd.2.2 _ (List.mem_of_getLast? he) _ (List.mem_map_of_mem hc) rfl
  refine ⟨h.segmentSize, ?_, ?_, ?_, ?_, ?_, ?_, ?_, ?_, h.nfreeseg, ?_, h.nfreesegDeltas⟩
  · intro c hc
    simp only [List.mem_append, List.mem_singleton] at hc
    rcases hc with (hc | rfl) | hc
    · rw [hcells, if_neg (hne c (List.mem_append_left f hc))]
      split
      · rw [Option.map_map]
        exact h.holds c (List.mem_append_left f hc)
      · exact h.holds c (List.mem_append_left f hc)
    · rw [hnew]
      rfl
    · rw [hfree c hc]
      exact h.holds c (List.mem_append_right l hc)
  · intro c hc
    simp only [List.mem_append, List.mem_singleton] at hc
    rcases hc with (hc | rfl) | hc
    · exact h.slots c (List.mem_append_left f hc)
    · exact ⟨hslots.length, hslots.pos, hslots.fits⟩
    · exact h.slots c (List.mem_append_right l hc)
  · rw [List.map_append, List.mem_append, not_or] at ha
    simp only [List.map_append, List.map_cons, List.map_nil]
    rw [List.append_assoc, List.singleton_append, List.nodup_append, List.nodup_cons]
    refine ⟨hnd.1, ⟨ha.2, hnd.2.1⟩, ?_⟩
    intro x hx y hy
    rcases List.mem_cons.mp hy with rfl | hy
    · exact fun he => ha.1 (he ▸ hx)
    · exact hnd.2.2 x hx y hy
  · have hchain := h.next
    rw [← List.append_nil (l.map Prod.fst)] at hchain
    have hlink : Chain (segmentNextOf (linkSegment seq a seg).segments) (some a) [a] :=
      ⟨rfl, by rw [chain_nil, segmentNextOf_of_get hnew, hnext]⟩
    have hsplice := hchain.splice hnd.1 hlink (by
        intro b hb
        obtain ⟨c, hc, rfl⟩ := List.mem_map.mp hb
        obtain ⟨s, hs, -⟩ := h.get (List.mem_append_left f hc)
        have hca := hne c (List.mem_append_left f hc)
        rw [← h.lastseg]
        simp only [segmentNextOf, hcells, if_neg hca, hs]
        split <;> rfl)
    rw [List.map_append]
    refine Eq.mp (congrArg (fun r => Chain _ r _) ?_) hsplice
    show _ = if seq.firstseg = none then some a else seq.firstseg
    rw [h.firstseg]
    cases l <;> simp
  · rw [List.map_append, List.map_singleton, List.reverse_append, List.reverse_singleton,
      List.singleton_append]
    refine ⟨rfl, ?_⟩
    rw [segmentPrevOf_of_get hnew]
    refine h.prev.congr (fun b hb => ?_)
    obtain ⟨c, hc, rfl⟩ := List.mem_map.mp (List.mem_reverse.mp hb)
    have hca := hne c (List.mem_append_left f hc)
    obtain ⟨s, hs, -⟩ := h.get (List.mem_append_left f hc)
    simp only [segmentPrevOf, hcells, if_neg hca, hs]
    split <;> rfl
  · refine h.free.congr (fun b hb => ?_)
    obtain ⟨c, hc, rfl⟩ := List.mem_map.mp hb
    exact segmentNextOf_congr (hfree c hc)
  · intro c hc
    rw [segmentPrevOf_congr (hfree c hc)]
    exact h.freePrev c hc
  · show seq.nsegment + 1 = _
    rw [h.nsegment, List.length_append, List.length_singleton]
  · show seq.nsegmentDeltas + seg.capacity = _
    rw [h.nsegmentDeltas, capacities_append, capacities_cons, capacities_nil]
    rfl

/-! ## Assigning to a segment -/

/-- **Assigning to a used segment** changes its cell only. -/
theorem SeqLinks.assign (h : SeqLinks seq (p ++ c :: q) f) (hget : seq.segments.get c.1 = some seg)
    (seg' : GtidSegment) (hnext : seg'.next = seg.next) (hprev : seg'.prev = seg.prev) (hslots : Slots seg')
    (hcap : seg.capacity ≤ seg'.capacity) :
    SeqLinks { seq with
      segments := seq.segments.set c.1 seg'
      nsegmentDeltas := seq.nsegmentDeltas + (seg'.capacity - seg.capacity) }
      (p ++ (c.1, unlinked seg') :: q) f := by
  have hfst : (p ++ (c.1, unlinked seg') :: q).map Prod.fst = (p ++ c :: q).map Prod.fst := by simp
  have hnext' : ∀ b, segmentNextOf (seq.segments.set c.1 seg') b = segmentNextOf seq.segments b := by
    intro b
    by_cases hb : b = c.1
    · rw [hb, segmentNextOf_of_get (Arena.get_set_self _ hget), segmentNextOf_of_get hget, hnext]
    · exact segmentNextOf_congr (Arena.get_set_of_ne _ hb)
  have hprev' : ∀ b, segmentPrevOf (seq.segments.set c.1 seg') b = segmentPrevOf seq.segments b := by
    intro b
    by_cases hb : b = c.1
    · rw [hb, segmentPrevOf_of_get (Arena.get_set_self _ hget), segmentPrevOf_of_get hget, hprev]
    · exact segmentPrevOf_congr (Arena.get_set_of_ne _ hb)
  have hnd := h.nodup
  rw [List.map_append, List.map_append, List.map_cons, List.append_assoc, List.cons_append,
    ← List.map_append, List.nodup_append, List.nodup_cons] at hnd
  have hne : ∀ d, d ∈ p ∨ d ∈ q ++ f → d.1 ≠ c.1 := by
    intro d hd hdc
    rcases hd with hd | hd
    · exact hnd.2.2 _ (List.mem_map_of_mem hd) _ (by simp) hdc
    · exact hnd.2.1.1 (hdc ▸ List.mem_map_of_mem hd)
  have hcore : unlinked seg = c.2 := by
    have := h.holds c (by simp)
    rw [hget] at this
    exact Option.some.inj this
  have hmem : ∀ d, d ∈ p ++ (c.1, unlinked seg') :: q ++ f →
      d = (c.1, unlinked seg') ∨ (d ∈ p ∨ d ∈ q ++ f) := by
    intro d hd
    simp only [List.mem_append, List.mem_cons] at hd ⊢
    tauto
  have hold : ∀ d, d ∈ p ∨ d ∈ q ++ f → d ∈ p ++ c :: q ++ f := by
    intro d hd
    simp only [List.mem_append, List.mem_cons] at hd ⊢
    tauto
  refine ⟨h.segmentSize, ?_, ?_, ?_, ?_, ?_, ?_, ?_, ?_, h.nfreeseg, ?_, h.nfreesegDeltas⟩
  · intro d hd
    rcases hmem d hd with rfl | hd
    · exact congrArg _ (Arena.get_set_self _ hget)
    · exact (congrArg _ (Arena.get_set_of_ne _ (hne d hd))).trans (h.holds d (hold d hd))
  · intro d hd
    rcases hmem d hd with rfl | hd
    · exact ⟨hslots.length, hslots.pos, hslots.fits⟩
    · exact h.slots d (hold d hd)
  · rw [List.map_append, hfst, ← List.map_append]
    exact h.nodup
  · rw [hfst]
    exact h.next.congr (fun b _ => hnext' b)
  · rw [hfst]
    exact h.prev.congr (fun b _ => hprev' b)
  · exact h.free.congr (fun b _ => hnext' b)
  · intro d hd
    exact (hprev' d.1).trans (h.freePrev d hd)
  · rw [h.nsegment]
    simp
  · have hc : c.2.capacity = seg.capacity := by rw [← hcore]; rfl
    have hc' : (unlinked seg').capacity = seg'.capacity := rfl
    show seq.nsegmentDeltas + (seg'.capacity - seg.capacity) = _
    rw [h.nsegmentDeltas, capacities_append, capacities_append, capacities_cons, capacities_cons,
      hc, hc']
    omega

/-! ## Dropping the first segment -/

/-- Unlinking the first segment: the one behind it becomes the first. -/
theorem SeqLinks.dropHead (h : SeqLinks seq (c :: l) f) (hget : seq.segments.get c.1 = some seg)
    (hcells : ∀ b, b ≠ c.1 → segments.get b =
      if seg.next = some b then (seq.segments.get b).map (fun s => { s with prev := none })
      else seq.segments.get b) :
    SeqLinks { seq with
      nsegment := seq.nsegment - 1
      nsegmentDeltas := seq.nsegmentDeltas - seg.capacity
      firstseg := seg.next
      lastseg := if seg.next = none then none else seq.lastseg
      segments := segments } l f := by
  have hcap : c.2.capacity = seg.capacity := by
    have := h.holds c (by simp)
    rw [hget] at this
    rw [← Option.some.inj this]
    rfl
  have hnext : seg.next = (l.map Prod.fst).head? := by
    rw [← segmentNextOf_of_get hget]
    exact h.next.2.head
  have hnd := h.nodup
  rw [List.cons_append, List.map_cons, List.nodup_cons] at hnd
  have hne : ∀ d ∈ l ++ f, d.1 ≠ c.1 := fun d hd hdc => hnd.1 (hdc ▸ List.mem_map_of_mem hd)
  have hnd' := hnd.2
  rw [List.map_append, List.nodup_append] at hnd'
  have hfree : ∀ d ∈ f, segments.get d.1 = seq.segments.get d.1 := by
    intro d hd
    rw [hcells _ (hne d (List.mem_append_right l hd)), if_neg]
    rw [hnext]
    exact fun he => hnd'.2.2 _ (List.mem_of_head? he) _ (List.mem_map_of_mem hd) rfl
  have hnexts : ∀ b ∈ l.map Prod.fst,
      segmentNextOf segments b = segmentNextOf seq.segments b := by
    intro b hb
    obtain ⟨d, hd, rfl⟩ := List.mem_map.mp hb
    obtain ⟨s, hs, -⟩ := h.get (c := d) (by simp [hd])
    simp only [segmentNextOf, hcells d.1 (hne d (List.mem_append_left f hd)), hs]
    split <;> rfl
  have hold : ∀ d ∈ l ++ f, d ∈ c :: l ++ f := fun d hd => List.mem_cons_of_mem c hd
  refine ⟨h.segmentSize, ?_, fun d hd => h.slots d (hold d hd), hnd.2, ?_, ?_, ?_, ?_, ?_,
    h.nfreeseg, ?_, h.nfreesegDeltas⟩
  · intro d hd
    show (segments.get d.1).map unlinked = some d.2
    rw [hcells d.1 (hne d hd)]
    split
    · rw [Option.map_map]
      exact h.holds d (hold d hd)
    · exact h.holds d (hold d hd)
  · show Chain _ seg.next _
    rw [hnext, ← h.next.2.head]
    exact h.next.2.congr hnexts
  · have hchain := h.prev
    rw [List.map_cons, List.reverse_cons] at hchain
    have hnil : Chain (segmentPrevOf segments) none [] := rfl
    have hsplice := hchain.splice (List.nodup_reverse.mpr hnd'.1) hnil (by
        intro b hb
        obtain ⟨d, hd, rfl⟩ := List.mem_map.mp (List.mem_reverse.mp hb)
        obtain ⟨s, hs, -⟩ := h.get (c := d) (by simp [hd])
        simp only [segmentPrevOf, hcells d.1 (hne d (List.mem_append_left f hd)), hs, hnext,
          List.getLast?_reverse]
        split <;> rfl)
    rw [List.append_nil] at hsplice
    refine Eq.mp (congrArg (fun r => Chain _ r _) ?_) hsplice
    rw [hnext]
    cases l <;> simp
  · refine h.free.congr (fun b hb => ?_)
    obtain ⟨d, hd, rfl⟩ := List.mem_map.mp hb
    exact segmentNextOf_congr (hfree d hd)
  · intro d hd
    exact (segmentPrevOf_congr (hfree d hd)).trans (h.freePrev d hd)
  · show seq.nsegment - 1 = _
    rw [h.nsegment]
    rfl
  · show seq.nsegmentDeltas - seg.capacity = _
    rw [h.nsegmentDeltas, capacities_cons, hcap, Nat.add_sub_cancel_left]

/-- Pushing a segment on the free list. -/
theorem SeqLinks.pushFree (h : SeqLinks seq l f) (ha : a ∉ (l ++ f).map Prod.fst)
    (hget : seq.segments.get a = some seg) (hnext : seg.next = seq.freeseg)
    (hprev : seg.prev = none) (hslots : Slots seg) :
    SeqLinks { seq with
      freeseg := some a
      nfreeseg := seq.nfreeseg + 1
      nfreesegDeltas := seq.nfreesegDeltas + seg.capacity } l ((a, unlinked seg) :: f) := by
  have hmem : ∀ d, d ∈ l ++ (a, unlinked seg) :: f → d = (a, unlinked seg) ∨ d ∈ l ++ f := by
    intro d hd
    simp only [List.mem_append, List.mem_cons] at hd ⊢
    tauto
  have hnd := h.nodup
  rw [List.map_append, List.nodup_append] at hnd
  refine ⟨h.segmentSize, ?_, ?_, ?_, h.next, h.prev, ?_, ?_, h.nsegment, ?_, h.nsegmentDeltas, ?_⟩
  · intro d hd
    rcases hmem d hd with rfl | hd
    · exact congrArg _ hget
    · exact h.holds d hd
  · intro d hd
    rcases hmem d hd with rfl | hd
    · exact ⟨hslots.length, hslots.pos, hslots.fits⟩
    · exact h.slots d hd
  · rw [List.map_append, List.mem_append, not_or] at ha
    rw [List.map_append, List.map_cons, List.nodup_append, List.nodup_cons]
    refine ⟨hnd.1, ⟨ha.2, hnd.2.1⟩, ?_⟩
    intro x hx y hy
    rcases List.mem_cons.mp hy with rfl | hy
    · exact fun he => ha.1 (he ▸ hx)
    · exact hnd.2.2 x hx y hy
  · refine ⟨rfl, ?_⟩
    rw [segmentNextOf_of_get hget, hnext]
    exact h.free
  · intro d hd
    rcases List.mem_cons.mp hd with rfl | hd
    · exact (segmentPrevOf_of_get hget).trans hprev
    · exact h.freePrev d hd
  · show seq.nfreeseg + 1 = _
    rw [h.nfreeseg, List.length_cons]
  · show seq.nfreesegDeltas + seg.capacity = _
    rw [h.nfreesegDeltas, capacities_cons, Nat.add_comm]
    rfl

/-- **Dropping the first segment** leaves the others; it is free or gone afterwards. -/
theorem dropFirstSegment_links (h : SeqLinks seq (c :: l) f)
    (hget : seq.segments.get c.1 = some seg) :
    ∃ f', SeqLinks (dropFirstSegment seq c.1 seg) l f' ∧
      (dropFirstSegment seq c.1 seg).segments.size = seq.segments.size := by
  have hcells := Arena.get_modifyAt seq.segments seg.next (f := fun s => { s with prev := none })
  have hnd := h.nodup
  rw [List.cons_append, List.map_cons, List.nodup_cons] at hnd
  have hslots : Slots seg := by
    obtain ⟨s, hs, hcore⟩ := h.get (c := c) (by simp)
    rw [hget] at hs
    have := h.slots c (by simp)
    rw [← hcore, ← Option.some.inj hs] at this
    exact ⟨this.length, this.pos, this.fits⟩
  by_cases hkeep : seq.nfreeseg < seq.nsegment - 1
  · have hnextne : seg.next ≠ some c.1 := by
      rw [← segmentNextOf_of_get hget, h.next.2.head]
      exact fun he => hnd.1 (by
        rw [List.map_append]
        exact List.mem_append_left _ (List.mem_of_head? he))
    have hstored : (seq.segments.modifyAt seg.next (fun s => { s with prev := none })).get c.1 =
        some seg := by rw [hcells, if_neg hnextne, hget]
    refine ⟨(c.1, unlinked { seg with next := seq.freeseg, prev := none }) :: f, ?_, ?_⟩
    · simp only [dropFirstSegment, if_pos hkeep]
      have hkept := fun b (hb : b ≠ c.1) => (Arena.get_set_of_ne
        { seg with next := seq.freeseg, prev := none } hb).trans (hcells b)
      have hpushed := Arena.get_set_self { seg with next := seq.freeseg, prev := none } hstored
      have hhead := h.dropHead hget hkept
      have hpush := hhead.pushFree hnd.1 hpushed rfl rfl
        ⟨hslots.length, hslots.pos, hslots.fits⟩
      exact hpush
    · simp only [dropFirstSegment, if_pos hkeep]
      rw [Arena.size_set, Arena.size_modifyAt]
  · refine ⟨f, ?_, ?_⟩
    · simp only [dropFirstSegment, if_neg hkeep]
      exact h.dropHead hget (fun b hb => by rw [Arena.get_free_of_ne hb, hcells])
    · simp only [dropFirstSegment, if_neg hkeep]
      rw [Arena.size_free, Arena.size_modifyAt]

end Links

end XredisGtid
