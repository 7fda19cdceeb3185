import XredisGtid.SkipListLinks

/-!
# Well-formed skip lists

`Rep gsl cells` is the representation invariant: `cells` are the nodes of the
level-0 chain, linked on every level they reach, their intervals are canonical, and
the fields `tail`, `node_count`, `gno_count` and `level` agree with them.  A list is
`WF` when it represents some cells; they are determined by the pointers
(`Rep.intervals_eq`).

`insertNode_rep` and `Rep.build` are the two halves every update is put together
from: the pointers of a new node, and the bookkeeping fields.
-/
namespace XredisGtid
open Memory

/-- The sentinel as a cell. -/
def headerCell (gsl : GtidIntervalSkipList) : Cell :=
  ⟨gsl.header, GTID_INTERVAL_SKIPLIST_MAXLEVEL, 0, 0⟩

/-- The cells from the header on are linked in the arena. -/
structure Shape (gsl : GtidIntervalSkipList) (cells : List Cell) : Prop where
  linked : Linked gsl.nodes (headerCell gsl :: cells)
  nodup : ((headerCell gsl :: cells).map Cell.addr).Nodup
  levels : ∀ c ∈ cells, 1 ≤ c.level ∧ c.level ≤ GTID_INTERVAL_SKIPLIST_MAXLEVEL
  level : gsl.level = topLevel cells
  tail : gsl.tail = (cells.map Cell.addr).getLastD gsl.header
  nodeCount : gsl.nodeCount = cells.length + 1

/-- The intervals of a set of gnos. -/
structure Gnos (l : List (Int × Int)) : Prop where
  canonical : IntervalList.Canonical l
  bounds : ∀ i ∈ l, 1 ≤ i.1 ∧ i.2 ≤ LLONG_MAX

/-- No interval reaches `LLONG_MAX`, so adding one to an end does not overflow. -/
def Below (l : List (Int × Int)) : Prop := ∀ i ∈ l, i.2 < LLONG_MAX

/-- **The representation invariant.** -/
structure Rep (gsl : GtidIntervalSkipList) (cells : List Cell) : Prop extends
    Shape gsl cells where
  gnos : Gnos (cells.map Cell.interval)
  gnoCount : gsl.gnoCount = IntervalList.size (cells.map Cell.interval)

def WF (gsl : GtidIntervalSkipList) : Prop := ∃ cells, Rep gsl cells

section Gnos
variable {l : List (Int × Int)} {s e : Int}

theorem Gnos.size_bounds (h : Gnos l) :
    0 ≤ IntervalList.size l ∧ IntervalList.size l ≤ LLONG_MAX := by
  refine ⟨IntervalList.size_nonneg h.canonical, ?_⟩
  have := IntervalList.size_le h.canonical (by decide) h.bounds
  omega

theorem Gnos.top_nonneg (h : Gnos l) : 0 ≤ IntervalList.top l := by
  rcases List.eq_nil_or_concat l with rfl | ⟨p, i, rfl⟩
  · exact le_refl 0
  · rw [List.concat_eq_append] at h ⊢
    have h₁ := (h.bounds i (by simp)).1
    have h₂ := h.canonical.nonempty i (by simp)
    rw [IntervalList.top_concat]
    omega

theorem Gnos.insert (h : Gnos l) (hs : 1 ≤ s) (hse : s ≤ e) (he : e ≤ LLONG_MAX) :
    Gnos (IntervalList.insert s e l) := by
  have hc := h.canonical.insert hse
  refine ⟨hc, ?_⟩
  intro i hi
  have hmem : ∀ g, i.1 ≤ g → g ≤ i.2 → 1 ≤ g ∧ g ≤ LLONG_MAX := by
    intro g h₁ h₂
    have hg := IntervalList.mem_points.mpr ⟨i, hi, h₁, h₂⟩
    rw [IntervalList.points_insert hse h.canonical.nonempty, Finset.mem_union,
      Finset.mem_Icc] at hg
    rcases hg with hg | hg
    · obtain ⟨j, hj, h₃, h₄⟩ := IntervalList.mem_points.mp hg
      have := h.bounds j hj
      omega
    · omega
  have hne := hc.nonempty i hi
  exact ⟨(hmem i.1 (le_refl _) hne).1, (hmem i.2 hne (le_refl _)).2⟩

theorem Gnos.erase (h : Gnos l) (hse : s ≤ e) : Gnos (IntervalList.erase s e l) := by
  refine ⟨h.canonical.erase hse, ?_⟩
  intro i hi
  obtain ⟨j, hj, hij⟩ := List.mem_flatMap.mp hi
  have h₁ := IntervalList.mem_pieces (h.canonical.nonempty j hj) hij
  have h₂ := h.bounds j hj
  omega

theorem Below.insert (h : Below l) (he : e < LLONG_MAX) : Below (IntervalList.insert s e l) :=
  IntervalList.insert_lt he h

theorem Below.erase (h : Below l) (hne : ∀ i ∈ l, i.1 ≤ i.2) :
    Below (IntervalList.erase s e l) := by
  intro i hi
  obtain ⟨j, hj, hij⟩ := List.mem_flatMap.mp hi
  have h₁ := IntervalList.mem_pieces (hne j hj) hij
  have h₂ := h j hj
  omega

end Gnos

section Rep
variable {gsl : GtidIntervalSkipList} {cells : List Cell}

theorem Rep.start_le_end (h : Rep gsl cells) {c : Cell} (hc : c ∈ cells) : c.start ≤ c.end :=
  h.gnos.canonical.nonempty c.interval (List.mem_map_of_mem hc)

theorem Rep.bounds (h : Rep gsl cells) {c : Cell} (hc : c ∈ cells) :
    1 ≤ c.start ∧ c.end ≤ LLONG_MAX :=
  h.gnos.bounds c.interval (List.mem_map_of_mem hc)

theorem Rep.pairwise (h : Rep gsl cells) : cells.Pairwise (fun c d => c.end + 1 < d.start) :=
  List.pairwise_map.mp h.gnos.canonical.separated

end Rep

section Shape
variable {gsl : GtidIntervalSkipList} {cells : List Cell}

theorem Shape.length_le (h : Shape gsl cells) : cells.length + 1 ≤ gsl.nodes.size := by
  have := length_le_of_nodup_lt h.nodup (by
    intro a ha
    obtain ⟨c, hc, rfl⟩ := List.mem_map.mp ha
    exact (h.linked.stores hc).lt_size)
  simpa using this

theorem Shape.level_le (h : Shape gsl cells) : gsl.level ≤ GTID_INTERVAL_SKIPLIST_MAXLEVEL := by
  rw [h.level]
  exact topLevel_le (by decide) (fun c hc => (h.levels c hc).2)

theorem Shape.zero_lt_level (h : Shape gsl cells) : 0 < gsl.level := by
  rw [h.level]
  exact one_le_topLevel cells

theorem Shape.cellLevel_le (h : Shape gsl cells) {c : Cell} (hc : c ∈ cells) :
    c.level ≤ gsl.level := by
  rw [h.level]
  exact le_topLevel hc

theorem Shape.levelCells_zero (h : Shape gsl cells) : levelCells 0 cells = cells.map Cell.addr :=
  XredisGtid.levelCells_zero (fun c hc => (h.levels c hc).1)

/-- On level 0 a search that passes exactly the cells up to `c` stops at `c`. -/
theorem Shape.last_zero {p l : List Cell} {c : Cell} (h : Shape gsl ((p ++ [c]) ++ l)) (x : Addr) :
    (XredisGtid.levelCells 0 (p ++ [c])).getLastD x = c.addr := by
  rw [XredisGtid.levelCells_zero (fun d hd => (h.levels d (List.mem_append_left l hd)).1),
    List.map_append, List.map_singleton, List.getLastD_concat]

theorem Shape.get_cell {p l : List Cell} {c : Cell} (h : Shape gsl ((p ++ [c]) ++ l)) :
    ∃ n, gsl.nodes.get c.addr = some n ∧ n.start = c.start ∧ n.end = c.end := by
  obtain ⟨n, hn, -, hs, he, -⟩ := h.linked.2.2.stores (c := c) (by simp)
  exact ⟨n, hn, hs, he⟩

/-- Addresses of cells in separate parts of the list differ. -/
theorem Shape.addr_ne {p q : List Cell} (h : Shape gsl (p ++ q)) {c d : Cell}
    (hc : c ∈ headerCell gsl :: p) (hd : d ∈ q) : c.addr ≠ d.addr := by
  have hnd := h.nodup
  rw [← List.cons_append, List.map_append] at hnd
  exact (List.nodup_append.mp hnd).2.2 _ (List.mem_map_of_mem hc) _ (List.mem_map_of_mem hd)

/-- The level-0 chain. -/
theorem Shape.chain_zero (h : Shape gsl cells) :
    Chain (forward gsl.nodes 0) (forward gsl.nodes 0 gsl.header) (cells.map Cell.addr) := by
  have := Linked.chain_from (p := []) h.linked (i := 0) (Nat.succ_pos 31)
  rwa [h.levelCells_zero] at this

theorem Shape.chainNodes_eq (h : Shape gsl cells) : chainNodes gsl = cells.map Cell.addr :=
  follow_chain h.chain_zero (by have := h.length_le; simp; omega)

/-- What the loops over the level-0 chain read. -/
theorem Shape.intervals_eq (h : Shape gsl cells) : intervals gsl = cells.map Cell.interval := by
  rw [intervals, h.chainNodes_eq, List.filterMap_map]
  have hstores : ∀ c ∈ cells, Stores gsl.nodes c := fun c hc => h.linked.2.2.stores hc
  clear h
  induction cells with
  | nil => rfl
  | cons c cells ih =>
    obtain ⟨n, hn, -, hns, hne, -⟩ := hstores c (by simp)
    rw [List.filterMap_cons, List.map_cons, ih (fun d hd => hstores d (by simp [hd]))]
    simp [hn, hns, hne, Cell.interval]

/-- The tail of a nonempty list is its last cell. -/
theorem Shape.tail_concat {c : Cell} (h : Shape gsl (cells ++ [c])) : gsl.tail = c.addr := by
  rw [h.tail, List.map_append, List.map_singleton, List.getLastD_concat]

theorem Shape.tail_eq_header (h : Shape gsl cells) : gsl.tail = gsl.header ↔ cells = [] := by
  rcases List.eq_nil_or_concat cells with rfl | ⟨p, c, rfl⟩
  · simp [h.tail]
  · rw [List.concat_eq_append] at h ⊢
    rw [h.tail_concat]
    have hne : gsl.header ≠ c.addr :=
      h.addr_ne (c := headerCell gsl) (d := c) (by simp) (by simp)
    simp [hne.symm]

/-- The header is stored with both bounds zero. -/
theorem Shape.get_header (h : Shape gsl cells) :
    ∃ n, gsl.nodes.get gsl.header = some n ∧ n.start = 0 ∧ n.end = 0 := by
  obtain ⟨n, hn, -, hs, he, -⟩ := h.linked.1
  exact ⟨n, hn, hs, he⟩

end Shape

/-- The empty list. -/
theorem gtidIntervalSkipListNew_rep : Rep gtidIntervalSkipListNew [] := by
  refine ⟨⟨⟨⟨_, rfl, rfl, rfl, rfl, rfl⟩, ?_, trivial⟩, by simp, by simp, rfl, rfl, rfl⟩,
    ⟨IntervalList.canonical_nil, by simp⟩, rfl⟩
  intro i hi
  have hnull : (List.replicate 32 (none : Option Addr))[i]?.join = none := by
    rw [List.getElem?_replicate]
    split <;> rfl
  exact hnull

/-! ## Searches by a bound -/

section Search
variable {gsl : GtidIntervalSkipList} {p l : List Cell} {c : GtidIntervalNode → Bool}

/-- A search over a split list: the condition holds on the cells of the first part and on
none of the second. -/
theorem Shape.predecessors_eq (h : Shape gsl (p ++ l))
    (hp : ∀ d ∈ p, ∀ n : GtidIntervalNode, n.start = d.start → n.end = d.end → c n = true)
    (hl : ∀ d ∈ l, ∀ n : GtidIntervalNode, n.start = d.start → n.end = d.end → c n = false)
    {i : Nat} (hi : i < gsl.level) :
    predecessors gsl c i = (levelCells i p).getLastD gsl.header := by
  have hstores : ∀ d ∈ p ++ l, Stores gsl.nodes d := fun d hd => h.linked.2.2.stores hd
  refine XredisGtid.predecessors_eq (z := headerCell gsl) (l := l) h.linked rfl h.level_le
    (by have := h.length_le; simp at this; omega) ?_ ?_ hi
  · intro d hd
    exact nodeTest_of_stores (hstores d (by simp [hd])) (fun n _ hs he => hp d hd n hs he)
  · intro d hd
    exact nodeTest_of_stores (hstores d (by simp [hd])) (fun n _ hs he => hl d hd n hs he)

/-- Cut a list where a condition that is inherited by earlier elements stops holding. -/
theorem exists_split {α : Type} {t : α → Prop} [DecidablePred t] {l : List α}
    (h : l.Pairwise (fun a b => t b → t a)) :
    ∃ p q, l = p ++ q ∧ (∀ a ∈ p, t a) ∧ ∀ a ∈ q, ¬ t a := by
  induction l with
  | nil => exact ⟨[], [], rfl, by simp, by simp⟩
  | cons a l ih =>
    rw [List.pairwise_cons] at h
    by_cases ha : t a
    · obtain ⟨p, q, rfl, hp, hq⟩ := ih h.2
      refine ⟨a :: p, q, rfl, ?_, hq⟩
      intro b hb
      rcases List.mem_cons.mp hb with rfl | hb
      · exact ha
      · exact hp b hb
    · refine ⟨[], a :: l, rfl, by simp, ?_⟩
      intro b hb
      rcases List.mem_cons.mp hb with rfl | hb
      · exact ha
      · exact fun hbt => ha (h.1 b hb hbt)

end Search

/-! ## The top level of a list -/

theorem topLevel_insert (p : List Cell) (x : Cell) (l : List Cell) :
    topLevel (p ++ x :: l) =
      if topLevel (p ++ l) < x.level then x.level else topLevel (p ++ l) := by
  have h₁ := one_le_topLevel (p ++ l)
  have hx : x.level ≤ topLevel (p ++ x :: l) := le_topLevel (by simp)
  have hsub : topLevel (p ++ l) ≤ topLevel (p ++ x :: l) := by
    refine topLevel_le (one_le_topLevel _) ?_
    intro c hc
    refine le_topLevel ?_
    simp only [List.mem_append, List.mem_cons] at hc ⊢
    tauto
  have hle : topLevel (p ++ x :: l) ≤ max x.level (topLevel (p ++ l)) := by
    refine topLevel_le (by omega) ?_
    intro c hc
    simp only [List.mem_append, List.mem_cons] at hc
    rcases hc with hc | rfl | hc
    · exact Nat.le_trans (le_topLevel (List.mem_append_left l hc)) (Nat.le_max_right _ _)
    · exact Nat.le_max_left _ _
    · exact Nat.le_trans (le_topLevel (List.mem_append_right p hc)) (Nat.le_max_right _ _)
  split <;> omega

/-- Trimming a cell keeps its level. -/
theorem topLevel_congr {p l : List Cell} {c d : Cell} (h : d.level = c.level) :
    topLevel (p ++ d :: l) = topLevel (p ++ c :: l) := by
  simp [topLevel, h]

theorem gitdIntervalRandomLevel_bounds (draws : Nat) :
    1 ≤ gitdIntervalRandomLevel draws ∧
      gitdIntervalRandomLevel draws ≤ GTID_INTERVAL_SKIPLIST_MAXLEVEL := by
  unfold gitdIntervalRandomLevel GTID_INTERVAL_SKIPLIST_MAXLEVEL
  split <;> omega

/-! ## Creating a node -/

section Insert
variable {gsl : GtidIntervalSkipList} {p l : List Cell} {f : Nat → Addr} {s e : Int}
  {r : Rand}

/-- The cell `insertNode` creates. -/
def newCell (gsl : GtidIntervalSkipList) (s e : Int) (rand : Rand) : Cell :=
  ⟨gsl.nodes.fresh, gitdIntervalRandomLevel (rand 0), s, e⟩

theorem stores_newCell : Stores (gsl.nodes.alloc (gtidIntervalNodeNew
    (gitdIntervalRandomLevel (r 0)) s e)) (newCell gsl s e r) :=
  ⟨_, Arena.get_alloc_fresh _ _, rfl, rfl, rfl, by simp [gtidIntervalNodeNew, newCell]⟩

/-- **A new node is linked between the cells before and after it**, on every level it
reaches. -/
theorem insertNode_shape (h : Shape gsl (p ++ l))
    (hpreds : ∀ i < gsl.level, f i = (levelCells i p).getLastD gsl.header) :
    Shape (insertNode gsl f s e r) (p ++ newCell gsl s e r :: l) := by
  have hxlevel := gitdIntervalRandomLevel_bounds (r 0)
  have hlt : ∀ c ∈ headerCell gsl :: (p ++ l), c.addr < gsl.nodes.fresh := fun c hc =>
    (h.linked.stores hc).lt_size
  have hnd : ((headerCell gsl :: p ++ newCell gsl s e r :: l).map Cell.addr).Nodup := by
    have hx : gsl.nodes.fresh ∉ (headerCell gsl :: (p ++ l)).map Cell.addr := by
      intro hmem
      obtain ⟨c, hc, he⟩ := List.mem_map.mp hmem
      exact Nat.ne_of_lt (hlt c hc) he
    rw [List.map_append, List.map_cons]
    refine (List.nodup_middle).mpr (List.nodup_cons.mpr ⟨?_, ?_⟩)
    · simpa [newCell] using hx
    · simpa using h.nodup
  have hl₁ : Linked (gsl.nodes.alloc (gtidIntervalNodeNew (gitdIntervalRandomLevel (r 0)) s e))
      ((headerCell gsl :: p) ++ l) :=
    h.linked.congr (fun c hc => Arena.get_alloc_of_ne _ (Nat.ne_of_lt (hlt c hc)))
  have hl₂ := hl₁.linkNode (stores_newCell (s := s) (e := e) (r := r)) hxlevel.2
    (fun c hc => (h.levels c (by simp [hc])).2) hnd
    (f := fun i => if gsl.level ≤ i ∧ i < gitdIntervalRandomLevel (r 0) then gsl.header
      else f i) (by
      intro i hi
      split
      · rename_i hge
        rw [levelCells_eq_nil (fun c hc => Nat.le_trans (h.cellLevel_le (by simp [hc])) hge.1)]
        rfl
      · rename_i hlt'
        exact hpreds i (by simp only [newCell] at hi; omega))
  have hlevels : ∀ c ∈ p ++ newCell gsl s e r :: l,
      1 ≤ c.level ∧ c.level ≤ GTID_INTERVAL_SKIPLIST_MAXLEVEL := by
    intro c hc
    simp only [List.mem_append, List.mem_cons] at hc
    rcases hc with hc | rfl | hc
    · exact h.levels c (by simp [hc])
    · exact hxlevel
    · exact h.levels c (by simp [hc])
  refine ⟨hl₂, hnd, hlevels, ?_, ?_, ?_⟩
  · rw [topLevel_insert, ← h.level]
    rfl
  · have hzero : ∀ q : List Cell, (∀ c ∈ q, c ∈ p ++ newCell gsl s e r :: l) →
        levelCells 0 q = q.map Cell.addr := fun q hq =>
      levelCells_zero (fun c hc => (hlevels c (hq c hc)).1)
    rcases List.eq_nil_or_concat l with rfl | ⟨l, c, rfl⟩
    · -- the new cell is the last one
      have hnext := hl₂.forward_pred (i := 0) (Nat.succ_pos 31)
      rw [hzero p (fun c hc => by simp [hc]), hzero [newCell gsl s e r] (by simp)] at hnext
      have htail : gsl.tail = (p.map Cell.addr).getLastD gsl.header := by
        simpa using h.tail
      rw [List.map_append, List.map_singleton, List.getLastD_concat]
      show (forward _ 0 gsl.tail).getD gsl.tail = _
      rw [htail]
      exact congrArg (Option.getD · _) hnext
    · rw [List.concat_eq_append] at h hl₂ hlevels ⊢
      have htail : gsl.tail = c.addr := (show Shape gsl ((p ++ l) ++ [c]) by simpa using h).tail_concat
      have hnext := Linked.forward_eq (p := headerCell gsl :: p ++ newCell gsl s e r :: l)
        (c := c) (l := []) (i := 0) (by simpa using hl₂) (hlevels c (by simp)).1
      have hlast : (p ++ newCell gsl s e r :: (l ++ [c])) =
          (p ++ newCell gsl s e r :: l) ++ [c] := by simp
      rw [hlast, List.map_append, List.map_singleton, List.getLastD_concat]
      show (forward _ 0 gsl.tail).getD gsl.tail = _
      rw [htail]
      exact congrArg (Option.getD · _) hnext
  · simp only [insertNode, h.nodeCount, List.length_append, List.length_cons]
    omega

end Insert

/-! ## Freeing a run of nodes -/

/-- **A run of nodes is unlinked and freed.**  Once the predecessors of the run point past
it on every level, freeing it and lowering the level leaves the cells around it. -/
theorem Shape.unlink {gsl : GtidIntervalSkipList} {p m l : List Cell}
    (h : Shape gsl (p ++ (m ++ l))) (nodes' : Arena GtidIntervalNode)
    (hs : ∀ d, Stores gsl.nodes d → Stores nodes' d)
    (hf : ∀ i b, forward nodes' i b =
      if i < gsl.level ∧ b = (levelCells i p).getLastD gsl.header then (levelCells i l).head?
      else forward gsl.nodes i b) :
    ∃ nodes'', freeRun (l.map Cell.addr).head? nodes'.size ((m ++ l).map Cell.addr).head? nodes' =
        (nodes'', m.length, IntervalList.size (m.map Cell.interval)) ∧
      Shape { gsl with
        nodes := nodes''
        tail := ((p ++ l).map Cell.addr).getLastD gsl.header
        nodeCount := gsl.nodeCount - m.length
        level := shrinkLevel nodes'' gsl.header gsl.level } (p ++ l) := by
  have hnd := h.nodup
  rw [← List.cons_append, List.map_append, List.nodup_append] at hnd
  obtain ⟨hndp, hndml, hne⟩ := hnd
  have hlinked : Linked gsl.nodes ((headerCell gsl :: p) ++ (m ++ l)) := h.linked
  have hlv : ∀ c ∈ p, c.level ≤ (headerCell gsl).level := fun c hc =>
    (h.levels c (by simp [hc])).2
  -- the redirected pointers belong to the cells before the run
  have hafter : ∀ c ∈ m ++ l, ∀ i, forward nodes' i c.addr = forward gsl.nodes i c.addr := by
    intro c hc i
    rw [hf, if_neg]
    rintro ⟨hi, hci⟩
    obtain ⟨d, hd, -, hda, -⟩ := hlinked.exists_pred (Nat.lt_of_lt_of_le hi h.level_le)
    exact hne _ (List.mem_map_of_mem hd) _ (List.mem_map_of_mem hc) (hda.trans hci.symm)
  have hml : Linked nodes' (m ++ l) :=
    hlinked.append_right.of_forward (fun c hc => hs c (hlinked.append_right.stores hc))
      (fun c hc i _ => hafter c hc i)
  have hpl : Linked nodes' ((headerCell gsl :: p) ++ l) := by
    refine hlinked.splice_pred hml.append_right hndp hlv
      (fun c hc => hs c (hlinked.stores (List.mem_append_left _ hc))) ?_
    intro c hc i hi
    rw [hf]
    by_cases hil : i < gsl.level
    · simp only [hil, true_and]
      rfl
    · -- no cell but the header reaches a level above the top one
      have hnil : ∀ q : List Cell, (∀ c ∈ q, c ∈ p ++ (m ++ l)) → levelCells i q = [] :=
        fun q hq => levelCells_eq_nil (fun c hc =>
          Nat.le_trans (h.cellLevel_le (hq c hc)) (Nat.le_of_not_lt hil))
      rw [if_neg (fun h => hil h.1)]
      split
      · rename_i hc
        have hih : i < (headerCell gsl).level := by
          rcases List.mem_cons.mp ‹c ∈ headerCell gsl :: p› with rfl | hcp
          · exact hi
          · exact Nat.lt_of_lt_of_le hi (hlv c hcp)
        rw [hc, hlinked.forward_pred hih, hnil _ (fun c hc => by simp at hc ⊢; tauto),
          hnil _ (fun c hc => by simp [hc])]
      · rfl
  have hsize : (m ++ l).length + 1 ≤ nodes'.size := by
    have := length_le_of_nodup_lt (l := ((headerCell gsl :: (m ++ l)).map Cell.addr)) (by
      rw [List.map_cons, List.nodup_cons]
      refine ⟨?_, hndml⟩
      intro hmem
      exact hne _ (by simp) _ hmem rfl) (n := nodes'.size) (by
      intro a ha
      obtain ⟨c, hc, rfl⟩ := List.mem_map.mp ha
      refine (hs c (hlinked.stores ?_)).lt_size
      simp only [List.mem_cons, List.mem_append] at hc ⊢
      tauto)
    simpa using this
  have hfuel : m.length < nodes'.size := by
    rw [List.length_append] at hsize
    omega
  obtain ⟨nodes'', hrun, hget⟩ := freeRun_eq hml
    (fun c hc => (h.levels c (List.mem_append_right _ hc)).1) hndml rfl hfuel
  refine ⟨nodes'', hrun, ?_⟩
  have hpl' : Linked nodes'' ((headerCell gsl :: p) ++ l) := by
    refine hpl.congr (fun c hc => hget _ ?_)
    intro hcm
    rcases List.mem_append.mp hc with hc | hc
    · exact hne _ (List.mem_map_of_mem hc) _ (by
        rw [List.map_append]
        exact List.mem_append_left _ hcm) rfl
    · rw [List.map_append, List.nodup_append] at hndml
      exact hndml.2.2 _ hcm _ (List.mem_map_of_mem hc) rfl
  have hlevels : ∀ c ∈ p ++ l, c ∈ p ++ (m ++ l) := by
    intro c hc
    simp only [List.mem_append] at hc ⊢
    tauto
  refine ⟨hpl', ?_, fun c hc => h.levels c (hlevels c hc), ?_, rfl, ?_⟩
  · show ((headerCell gsl :: p ++ l).map Cell.addr).Nodup
    rw [List.map_append, List.nodup_append]
    rw [List.map_append, List.nodup_append] at hndml
    refine ⟨hndp, hndml.2.1, fun a ha b hb => hne a ha b ?_⟩
    rw [List.map_append]
    exact List.mem_append_right _ hb
  · refine shrinkLevel_eq (z := headerCell gsl) hpl' h.level_le ?_
    exact topLevel_le h.zero_lt_level (fun c hc => h.cellLevel_le (hlevels c hc))
  · show gsl.nodeCount - m.length = (p ++ l).length + 1
    rw [h.nodeCount]
    simp only [List.length_append]
    omega

end XredisGtid
