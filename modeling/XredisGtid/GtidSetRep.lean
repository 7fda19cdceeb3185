import XredisGtid.GtidSetLinks
import XredisGtid.SkipListRun
import XredisGtid.KeyedIntervals

/-!
# What a gtid set represents

`SetRep s l` says that the list of records of `s` consists of the cells `l`: their
addresses in order, each with its uuid and the intervals of its well-formed skip
list, and that `tail` and `cached` point into it.  The operations are described by
what they do to the entries `l.map Prod.snd`, a keyed list of intervals.

Nothing here asks for distinct uuids: an operation acts on the first record of a
uuid, and an operation that finds none creates one at the end.
-/
namespace XredisGtid
open Memory

abbrev Entry := Uuid × List (Int × Int)

/-- The record at the cell's address has the cell's uuid and intervals. -/
def Holds (cells : Arena UuidSet) (c : Addr × Entry) : Prop :=
  ∃ u, cells.get c.1 = some u ∧ u.uuid = c.2.1 ∧ WF u.intervals ∧ intervals u.intervals = c.2.2

structure SetRep (s : GtidSet) (l : List (Addr × Entry)) : Prop where
  chain : Chain (uuidSetNextOf s.uuidSetCells) s.header (l.map Prod.fst)
  nodup : (l.map Prod.fst).Nodup
  holds : ∀ c ∈ l, Holds s.uuidSetCells c
  tail : s.tail = (l.map Prod.fst).getLast?
  cached : ∀ a, s.cached = some a → a ∈ l.map Prod.fst

/-- The uuids of the cells. -/
def cellKeys (l : List (Addr × Entry)) : List Uuid := KeyedIntervals.keys (l.map Prod.snd)

section Rep
variable {s s' : GtidSet} {l p q : List (Addr × Entry)} {c : Addr × Entry} {uuid : Uuid}
  {u : UuidSet}

theorem Holds.congr {cells cells' : Arena UuidSet} (h : Holds cells c)
    (he : cells'.get c.1 = cells.get c.1) : Holds cells' c := by
  obtain ⟨u, hu, hrest⟩ := h
  exact ⟨u, he.trans hu, hrest⟩

theorem Holds.keeps {cells cells' : Arena UuidSet} (h : Holds cells c)
    (hk : KeepsRecord cells cells' c.1) : Holds cells' c := by
  obtain ⟨u, hu, hrest⟩ := h
  obtain ⟨next, hget⟩ := hk u hu
  exact ⟨_, hget, hrest⟩

theorem setRep_new : SetRep gtidSetNew [] :=
  ⟨rfl, List.nodup_nil, by simp, rfl, by simp [gtidSetNew]⟩

theorem SetRep.links (h : SetRep s l) :
    SetLinks s.uuidSetCells s.header s.tail (l.map Prod.fst) := by
  refine ⟨h.chain, h.nodup, ?_, h.tail⟩
  intro a ha
  obtain ⟨c, hc, rfl⟩ := List.mem_map.mp ha
  obtain ⟨u, hu, -⟩ := h.holds c hc
  exact ⟨u, hu⟩

theorem SetLinks.setRep (h : SetLinks s.uuidSetCells s.header s.tail (l.map Prod.fst))
    (hholds : ∀ c ∈ l, Holds s.uuidSetCells c)
    (hcached : ∀ a, s.cached = some a → a ∈ l.map Prod.fst) : SetRep s l :=
  ⟨h.chain, h.nodup, hholds, h.tail, hcached⟩

/-- The addresses around one cell. -/
theorem SetRep.links_middle (h : SetRep s (p ++ c :: q)) :
    SetLinks s.uuidSetCells s.header s.tail (p.map Prod.fst ++ c.1 :: q.map Prod.fst) := by
  have := h.links
  rwa [List.map_append, List.map_cons] at this

theorem SetRep.length_le (h : SetRep s l) : l.length ≤ s.uuidSetCells.size := by
  simpa using h.links.length_le

/-- A loop over the list visits the cells. -/
theorem SetRep.uuidSets_eq (h : SetRep s l) : uuidSets s = l.map Prod.fst := h.links.uuidSets_eq

/-- The record at a cell, with its pointer to the next one. -/
theorem SetRep.get (h : SetRep s (p ++ c :: q)) :
    ∃ u, s.uuidSetCells.get c.1 = some u ∧ u.uuid = c.2.1 ∧ WF u.intervals ∧
      intervals u.intervals = c.2.2 ∧ u.next = (q.map Prod.fst).head? := by
  obtain ⟨u, hu, huuid, hwf, hint⟩ := h.holds c (by simp)
  obtain ⟨v, hv, hnext⟩ := h.links_middle.get
  obtain rfl : v = u := Option.some.inj (hv.symm.trans hu)
  exact ⟨v, hu, huuid, hwf, hint, hnext⟩

theorem SetRep.fst_ne (h : SetRep s (p ++ c :: q)) {d : Addr × Entry} (hd : d ∈ p ∨ d ∈ q) :
    d.1 ≠ c.1 :=
  h.links_middle.ne (hd.imp List.mem_map_of_mem List.mem_map_of_mem)

/-- The cell of the first record of a uuid. -/
theorem exists_first_cell (uuid : Uuid) (l : List (Addr × Entry)) :
    uuid ∉ cellKeys l ∨
      ∃ p c q, l = p ++ c :: q ∧ uuid ∉ cellKeys p ∧ c.2.1 = uuid := by
  rcases KeyedIntervals.exists_first uuid (l.map Prod.snd) with h | ⟨p', e, q', hsplit, hp, he⟩
  · exact Or.inl h
  · obtain ⟨p, t, rfl, rfl, ht⟩ := List.map_eq_append_iff.mp hsplit
    obtain ⟨c, q, rfl, rfl, rfl⟩ := List.map_eq_cons_iff.mp ht
    exact Or.inr ⟨p, c, q, rfl, hp, he⟩

theorem hasUuid_of_holds {cells : Arena UuidSet} (h : Holds cells c) :
    hasUuid cells uuid c.1 = decide (c.2.1 = uuid) := by
  obtain ⟨u, hu, huuid, -⟩ := h
  simp [hasUuid, hu, huuid]

theorem hasUuid_of_notMem {cells : Arena UuidSet} (h : ∀ c ∈ l, Holds cells c)
    (hk : uuid ∉ cellKeys l) : ∀ a ∈ l.map Prod.fst, hasUuid cells uuid a = false := by
  intro a ha
  obtain ⟨c, hc, rfl⟩ := List.mem_map.mp ha
  rw [hasUuid_of_holds (h c hc), decide_eq_false_iff_not]
  rintro rfl
  exact hk (List.mem_map_of_mem (f := Prod.fst) (List.mem_map_of_mem (f := Prod.snd) hc))

/-- **Find returns the first record of the uuid.** -/
theorem gtidSetFind_of_notMem (h : SetRep s l) (hk : uuid ∉ cellKeys l) :
    gtidSetFind s uuid = none := by
  rw [gtidSetFind, h.uuidSets_eq, List.find?_eq_none]
  intro a ha
  rw [hasUuid_of_notMem h.holds hk a ha]
  exact Bool.false_ne_true

theorem gtidSetFind_of_first (h : SetRep s (p ++ c :: q)) (hp : uuid ∉ cellKeys p)
    (hc : c.2.1 = uuid) : gtidSetFind s uuid = some c.1 := by
  rw [gtidSetFind, h.uuidSets_eq, List.map_append, List.map_cons, List.find?_append]
  have hnone : (p.map Prod.fst).find? (hasUuid s.uuidSetCells uuid) = none := by
    rw [List.find?_eq_none]
    intro a ha
    rw [hasUuid_of_notMem (fun d hd => h.holds d (by simp [hd])) hp a ha]
    exact Bool.false_ne_true
  have hyes : hasUuid s.uuidSetCells uuid c.1 = true := by
    rw [hasUuid_of_holds (h.holds c (by simp)), decide_eq_true_eq]
    exact hc
  rw [hnone, Option.none_or, List.find?_cons_of_pos hyes]

/-! ## Assigning, appending and unlinking a record -/

/-- Assigning the skip list of one record. -/
theorem SetRep.assign (h : SetRep s (p ++ c :: q)) {e : Entry} (hu : s.uuidSetCells.get c.1 = some u)
    {v : UuidSet} (hv : v.next = u.next) (huuid : v.uuid = e.1) (hwf : WF v.intervals)
    (hint : intervals v.intervals = e.2) {b : Option Addr}
    (hb : ∀ a, b = some a → a ∈ (p ++ c :: q).map Prod.fst) :
    SetRep { s with cached := b, uuidSetCells := s.uuidSetCells.set c.1 v }
      (p ++ (c.1, e) :: q) := by
  have hfst : (p ++ (c.1, e) :: q).map Prod.fst = (p ++ c :: q).map Prod.fst := by simp
  refine SetLinks.setRep ?_ ?_ ?_
  · rw [hfst]
    exact h.links.assign hu hv
  · intro d hd
    simp only [List.mem_append, List.mem_cons] at hd
    rcases hd with hd | rfl | hd
    · exact (h.holds d (by simp [hd])).congr (Arena.get_set_of_ne v (h.fst_ne (Or.inl hd)))
    · exact ⟨v, Arena.get_set_self v hu, huuid, hwf, hint⟩
    · exact (h.holds d (by simp [hd])).congr (Arena.get_set_of_ne v (h.fst_ne (Or.inr hd)))
  · rw [hfst]
    exact hb

/-- **Appending a record** adds its entry at the end. -/
theorem gtidSetAppend_rep (h : SetRep s l) (hnext : u.next = none) (hwf : WF u.intervals) :
    ∃ s', gtidSetAppend s u = some (s', IntervalList.size (intervals u.intervals)) ∧
      SetRep s' (l ++ [(s.uuidSetCells.fresh, (u.uuid, intervals u.intervals))]) ∧
      s'.cached = s.cached ∧ s'.current = s.current ∧ s'.curnext = s.curnext := by
  obtain ⟨s', happend, hlink, hnew, hkeep, hcached, hrest⟩ := h.links.append hnext
  rw [uuidSetCount, hwf.gnoCount] at happend
  refine ⟨s', happend, SetLinks.setRep ?_ ?_ ?_, hcached, hrest⟩
  · rw [List.map_append]
    exact hlink
  · intro c hc
    rcases List.mem_append.mp hc with hc | hc
    · exact (h.holds c hc).keeps (hkeep c.1 (List.mem_map_of_mem hc))
    · rw [List.mem_singleton] at hc
      subst hc
      exact ⟨u, hnew, rfl, hwf, rfl⟩
  · intro a ha
    rw [List.map_append, List.mem_append]
    exact Or.inl (h.cached a (hcached ▸ ha))

/-- **Unlinking a record** drops its entry. -/
theorem SetRep.unlink (h : SetRep s (p ++ c :: q)) {b : Option Addr}
    (hb : ∀ a, b = some a → a ∈ (p ++ q).map Prod.fst) (cur : Option Addr) :
    SetRep { unlinkUuidSet s c.1 (p.map Prod.fst).getLast? (q.map Prod.fst).head? with
      current := cur, cached := b } (p ++ q) := by
  obtain ⟨hlink, hkeep⟩ := h.links_middle.unlink
  rw [← List.map_append] at hlink hkeep
  refine SetLinks.setRep hlink ?_ hb
  intro d hd
  have hmem : d ∈ p ++ c :: q := by
    simp only [List.mem_append, List.mem_cons] at hd ⊢
    tauto
  exact (h.holds d hmem).keeps (hkeep d.1 (List.mem_map_of_mem hd))

end Rep

end XredisGtid
