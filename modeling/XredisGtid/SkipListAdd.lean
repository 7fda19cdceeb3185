import XredisGtid.SkipListRep

/-!
# Adding a range to a skip list

`gtidIntervalSkipListAdd` computes `IntervalList.insert` on the intervals and keeps
the representation, through each of its three branches: extending the last node on
the fast path, creating a node where nothing overlaps or touches the range, and
joining the nodes that do.  The number it returns is the growth of the set.
-/
namespace XredisGtid
open Memory

section Add
variable {gsl : GtidIntervalSkipList} {cells p m l : List Cell} {c d : Cell} {s e : Int}
  {rand : Rand}

/-- The shape does not depend on the count of gnos. -/
theorem Shape.setGnoCount (h : Shape gsl cells) (count : Int) :
    Shape { gsl with gnoCount := count } cells :=
  ⟨h.linked, h.nodup, h.levels, h.level, h.tail, h.nodeCount⟩

/-- Assigning the bounds of one cell keeps everything about the pointers. -/
theorem Shape.modify (h : Shape gsl (p ++ c :: l)) (ha : d.addr = c.addr)
    (hlv : d.level = c.level) {f : GtidIntervalNode → GtidIntervalNode}
    (hf : ∀ n, gsl.nodes.get c.addr = some n → (f n).level = n.level ∧
      (f n).forwards = n.forwards ∧ (f n).start = d.start ∧ (f n).end = d.end) :
    Shape { gsl with nodes := gsl.nodes.modify c.addr f } (p ++ d :: l) := by
  have hmap : (p ++ d :: l).map Cell.addr = (p ++ c :: l).map Cell.addr := by simp [ha]
  refine ⟨?_, ?_, ?_, ?_, ?_, ?_⟩
  · exact Linked.modify (p := headerCell gsl :: p) h.linked h.nodup ha hlv hf
  · have hnd := h.nodup
    rw [List.map_cons] at hnd ⊢
    rw [hmap]
    exact hnd
  · intro b hb
    simp only [List.mem_append, List.mem_cons] at hb
    rcases hb with hb | rfl | hb
    · exact h.levels b (by simp [hb])
    · rw [hlv]
      exact h.levels c (by simp)
    · exact h.levels b (by simp [hb])
  · rw [topLevel_congr hlv]
    exact h.level
  · rw [hmap]
    exact h.tail
  · simpa using h.nodeCount

/-! ## The count of gnos -/

theorem llong_succ {x : Int} (h₁ : 0 ≤ x) (h₂ : x < LLONG_MAX) : llong (x + 1) = x + 1 :=
  llong_of_mem (by unfold LLONG_MIN; omega) (by omega)

/-- What a change of a count of gnos returns, and the new count, fit `long long`. -/
theorem llong_count {x y d : Int} (hx : 0 ≤ x ∧ x ≤ LLONG_MAX) (hy : 0 ≤ y ∧ y ≤ LLONG_MAX)
    (hd : y = x + d) : llong d = d ∧ llong (x + d) = y := by
  unfold LLONG_MAX at hx hy
  have h₁ : llong d = d := llong_of_mem (by unfold LLONG_MIN; omega) (by unfold LLONG_MAX; omega)
  have h₂ : llong (x + d) = x + d :=
    llong_of_mem (by unfold LLONG_MIN; omega) (by unfold LLONG_MAX; omega)
  exact ⟨h₁, by omega⟩

/-- The skip list represents the intervals `new`, and the number returned is how many gnos
they have more than `old`. -/
def Grown (old new : List (Int × Int)) (r : GtidIntervalSkipList × Int) : Prop :=
  ∃ cells, Rep r.1 cells ∧ cells.map Cell.interval = new ∧
    r.2 = IntervalList.size new - IntervalList.size old

theorem Shape.grown {old : List (Int × Int)} {n k : Int} (h : Shape gsl cells)
    (hold : Gnos old) (hg : Gnos (cells.map Cell.interval)) (hn : n = IntervalList.size old)
    (hd : IntervalList.size (cells.map Cell.interval) = IntervalList.size old + k) :
    Grown old (cells.map Cell.interval)
      ({ gsl with gnoCount := llong (n + k) }, llong k) := by
  obtain ⟨h₁, h₂⟩ := llong_count hold.size_bounds hg.size_bounds hd
  refine ⟨cells, ⟨h.setGnoCount _, hg, ?_⟩, rfl, ?_⟩
  · rw [hn]
    exact h₂
  · show llong k = _
    omega

/-! ## The three branches -/

/-- The fast path: the range starts right after the last node. -/
theorem add_fast (h : Rep gsl (p ++ [c])) (hs : c.end + 1 = s) (hse : s ≤ e)
    (he : e ≤ LLONG_MAX) :
    Grown ((p ++ [c]).map Cell.interval) (IntervalList.insert s e ((p ++ [c]).map Cell.interval))
      ({ gsl with
          nodes := gsl.nodes.modify gsl.tail (fun n => { n with «end» := e })
          gnoCount := llong (gsl.gnoCount + llong (e + 1 - s)) }, llong (e + 1 - s)) := by
  have hc := h.start_le_end (c := c) (by simp)
  have hcb := h.bounds (c := c) (by simp)
  have hbefore : ∀ i ∈ p.map Cell.interval, i.2 + 1 < s := by
    intro i hi
    obtain ⟨d, hd, rfl⟩ := List.mem_map.mp hi
    have := (List.pairwise_append.mp h.pairwise).2.2 d hd c (by simp)
    show d.end + 1 < s
    omega
  have hins : IntervalList.insert s e ((p ++ [c]).map Cell.interval) =
      (p ++ [{ c with «end» := e }]).map Cell.interval := by
    rw [List.map_append, IntervalList.insert_append_of_before hbefore, List.map_append]
    simp only [List.map_cons, List.map_nil, Cell.interval, IntervalList.insert]
    rw [if_neg (by omega), if_neg (by omega), min_eq_right (by omega), max_eq_left (by omega)]
  have hshape := h.toShape.modify (d := { c with «end» := e }) (l := []) rfl rfl
    (f := fun n => { n with «end» := e }) (by
      intro n hn
      obtain ⟨m, hm, -, hms, -⟩ := h.linked.2.2.stores (c := c) (by simp)
      have hnm : n = m := Option.some.inj (hn.symm.trans hm)
      exact ⟨rfl, rfl, hnm ▸ hms, rfl⟩)
  have hgrow : llong (e + 1 - s) = e + 1 - s := by
    unfold LLONG_MAX at he hcb
    exact llong_of_mem (by unfold LLONG_MIN; omega) (by unfold LLONG_MAX; omega)
  have hnew := h.gnos.insert (by omega : 1 ≤ s) hse he
  rw [hins] at hnew ⊢
  have htail : gsl.nodes.modify gsl.tail (fun n => { n with «end» := e }) =
      gsl.nodes.modify c.addr (fun n => { n with «end» := e }) := by
    rw [h.toShape.tail_concat]
  rw [htail, hgrow]
  have := hshape.grown (n := gsl.gnoCount) (k := e + 1 - s) h.gnos hnew h.gnoCount (by
    simp only [List.map_append, IntervalList.size_append, List.map_cons, List.map_nil,
      IntervalList.size_cons, IntervalList.size_nil, Cell.interval]
    omega)
  rw [hgrow] at this
  exact this

/-- Nothing overlaps or touches the range: a node is created. -/
theorem add_insert (h : Rep gsl (p ++ l)) (hs : 1 ≤ s) (hse : s ≤ e) (he : e ≤ LLONG_MAX)
    (hp : ∀ c ∈ p, c.end + 1 < s) (hl : ∀ c ∈ l, e + 1 < c.start) {preds : Nat → Addr}
    (hpreds : ∀ i < gsl.level, preds i = (levelCells i p).getLastD gsl.header) :
    Grown ((p ++ l).map Cell.interval) (IntervalList.insert s e ((p ++ l).map Cell.interval))
      ({ insertNode gsl preds s e rand with
          gnoCount := llong (gsl.gnoCount + llong (e - s + 1)) }, llong (e - s + 1)) := by
  have hins : IntervalList.insert s e ((p ++ l).map Cell.interval) =
      (p ++ newCell gsl s e rand :: l).map Cell.interval := by
    rw [List.map_append, IntervalList.insert_append_of_before, IntervalList.insert_of_after hse]
    · simp [newCell, Cell.interval]
    · intro i hi
      obtain ⟨c, hc, rfl⟩ := List.mem_map.mp hi
      exact h.start_le_end (by simp [hc])
    · intro i hi
      obtain ⟨c, hc, rfl⟩ := List.mem_map.mp hi
      exact hl c hc
    · intro i hi
      obtain ⟨c, hc, rfl⟩ := List.mem_map.mp hi
      exact hp c hc
  have hgrow : llong (e - s + 1) = e - s + 1 := by
    unfold LLONG_MAX at he
    exact llong_of_mem (by unfold LLONG_MIN; omega) (by unfold LLONG_MAX; omega)
  have hnew := h.gnos.insert hs hse he
  rw [hins] at hnew ⊢
  have := (insertNode_shape (s := s) (e := e) (r := rand) h.toShape hpreds).grown
    (n := gsl.gnoCount) (k := e - s + 1) h.gnos hnew h.gnoCount (by
    simp only [List.map_append, IntervalList.size_append, List.map_cons,
      IntervalList.size_cons, Cell.interval, newCell]
    omega)
  rw [hgrow] at this ⊢
  exact this

/-- Redirecting the pointers of the predecessors of a run on every level, in two loops:
below the level of the node kept, to that node, and above it, past the run. -/
theorem forward_join {x : Addr} {lefts rights : Nat → Addr} (h : Shape gsl (p ++ (m ++ d :: l)))
    (hx : x = d.addr)
    (hlefts : ∀ i < gsl.level, lefts i = (levelCells i p).getLastD gsl.header)
    (hrights : ∀ i < gsl.level, rights i = (levelCells i (p ++ (m ++ [d]))).getLastD gsl.header)
    (i : Nat) (b : Addr) :
    forward (relink lefts (fun h i => forward h i (rights i))
        (List.range' d.level (gsl.level - d.level))
        (relink lefts (fun _ _ => some x) (List.range d.level) gsl.nodes)) i b =
      if i < gsl.level ∧ b = (levelCells i p).getLastD gsl.header then
        (levelCells i (d :: l)).head?
      else forward gsl.nodes i b := by
  have hd : d.level ≤ gsl.level := h.cellLevel_le (by simp)
  have hpred : ∀ i < gsl.level, ∃ c, Stores gsl.nodes c ∧ c.addr = lefts i ∧ i < c.level := by
    intro i hi
    obtain ⟨c, -, hc, hca, hci⟩ := Linked.exists_pred (z := headerCell gsl) (p := p) h.linked
      (Nat.lt_of_lt_of_le hi h.level_le)
    exact ⟨c, hc, hca.trans (hlefts i hi).symm, hci⟩
  have hmem : ∀ i, i ∈ List.range' d.level (gsl.level - d.level) ↔
      d.level ≤ i ∧ i < gsl.level := by
    intro i
    rw [List.mem_range'_1]
    omega
  have h₁ := forward_relink (v := fun _ _ => some x) (f := lefts) (fun _ _ _ _ => rfl)
    (k := List.range d.level) List.nodup_range
    (fun i hi => hpred i (Nat.lt_of_lt_of_le (List.mem_range.mp hi) hd))
  rw [forward_relink (v := fun h i => forward h i (rights i)) (fun h h' i he => he _)
    List.nodup_range' (fun i hi => by
      obtain ⟨c, hc, hrest⟩ := hpred i ((hmem i).mp hi).2
      exact ⟨c, stores_relink.mpr hc, hrest⟩), h₁, h₁]
  simp only [hmem, List.mem_range]
  by_cases hil : i < gsl.level
  · rw [← hlefts i hil]
    by_cases hb : b = lefts i
    · rcases Nat.lt_or_ge i d.level with hid | hid
      · rw [if_neg (by omega), if_pos ⟨hid, hb⟩, if_pos ⟨hil, hb⟩, levelCells_cons_of_lt hid, hx]
        rfl
      · have habove : ¬ (i < d.level ∧ rights i = lefts i) :=
          fun h => Nat.not_lt.mpr hid h.1
        rw [if_pos ⟨⟨hid, hil⟩, hb⟩, if_neg habove, if_pos ⟨hil, hb⟩, hrights i hil,
          levelCells_cons_of_le hid]
        refine Linked.forward_pred (z := headerCell gsl) ?_ (Nat.lt_of_lt_of_le hil h.level_le)
        simpa using h.linked
    · simp [hb]
  · rw [if_neg (by omega), if_neg (by omega), if_neg (by omega)]

/-- The nodes overlapping or touching the range are joined to the last of them. -/
theorem add_join (h : Rep gsl (p ++ (m ++ d :: l))) (hs : 1 ≤ s) (hse : s ≤ e)
    (he : e ≤ LLONG_MAX) (hp : ∀ c ∈ p, c.end + 1 < s)
    (hm : ∀ c ∈ m ++ [d], s ≤ c.end + 1 ∧ c.start ≤ e + 1) (hl : ∀ c ∈ l, e + 1 < c.start)
    {lefts rights : Nat → Addr}
    (hlefts : ∀ i < gsl.level, lefts i = (levelCells i p).getLastD gsl.header)
    (hrights : ∀ i < gsl.level,
      rights i = (levelCells i (p ++ (m ++ [d]))).getLastD gsl.header) :
    ∃ r, joinNodes gsl lefts rights s e = some r ∧
      Grown ((p ++ (m ++ d :: l)).map Cell.interval)
        (IntervalList.insert s e ((p ++ (m ++ d :: l)).map Cell.interval)) r := by
  have hshape := h.toShape
  have hlevels : ∀ c ∈ p ++ (m ++ d :: l), 1 ≤ c.level := fun c hc => (h.levels c hc).1
  -- the first node of the run and the node kept
  obtain ⟨f, rest, hf⟩ : ∃ f rest, m ++ [d] = f :: rest :=
    List.exists_cons_of_ne_nil (by simp)
  have hfull : m ++ d :: l = f :: (rest ++ l) := by
    rw [← List.cons_append, ← hf]; simp
  obtain ⟨fn, hfn, -, hfns, -⟩ := h.linked.2.2.stores (c := f) (by simp [hfull])
  obtain ⟨dn, hdn, hdnl, hdns, hdne, hdnf⟩ := h.linked.2.2.stores (c := d) (by simp)
  have hfirst : forward gsl.nodes 0 (lefts 0) = some f.addr := by
    rw [hlefts 0 hshape.zero_lt_level]
    have := Linked.forward_pred (z := headerCell gsl) (p := p) h.linked (Nat.succ_pos 31)
    refine this.trans ?_
    rw [levelCells_zero (fun c hc => hlevels c (List.mem_append_right _ hc)), hfull]
    rfl
  have hlast : rights 0 = d.addr := by
    rw [hrights 0 hshape.zero_lt_level, ← List.append_assoc]
    exact Shape.last_zero (p := p ++ m) (l := l) (by simpa using hshape) _
  -- its bounds are extended first
  set j : Cell := { d with start := min s f.start, «end» := max e d.end } with hj
  set joined : GtidIntervalNode :=
    { dn with start := min s fn.start, «end» := max e dn.end } with hjoined
  have hmod := (show Shape gsl ((p ++ m) ++ d :: l) by simpa using hshape).modify (d := j) rfl rfl
    (f := fun _ => joined) (by
      intro n hn
      have hnd : n = dn := Option.some.inj (hn.symm.trans hdn)
      refine ⟨hnd ▸ rfl, hnd ▸ rfl, ?_, ?_⟩
      · simp only [hjoined, hj, hfns]
      · simp only [hjoined, hj, hdne])
  rw [List.append_assoc] at hmod
  have hlv : dn.level = j.level := hdnl
  obtain ⟨nodes'', hrun, hres⟩ := hmod.unlink (p := p) (m := m) (l := j :: l)
    (relink lefts (fun h i => forward h i (rights i))
      (List.range' dn.level (gsl.level - dn.level))
      (relink lefts (fun _ _ => some (rights 0)) (List.range dn.level)
        (gsl.nodes.modify (rights 0) (fun _ => joined))))
    (fun c hc => stores_relink.mpr (stores_relink.mpr (by rw [hlast]; exact hc)))
    (by
      intro i b
      rw [hlv, hlast]
      refine forward_join hmod rfl hlefts ?_ i b
      intro k hk
      rw [hrights k hk]
      simp only [levelCells_append]
      rw [levelCells_congr (c := d) (d := j) rfl rfl])
  have hfirst' : ((m ++ j :: l).map Cell.addr).head? = some f.addr := by
    have : (m ++ j :: l).map Cell.addr = (m ++ d :: l).map Cell.addr := by simp [hj]
    rw [this, hfull]
    rfl
  rw [hfirst'] at hrun
  have hins : IntervalList.insert s e ((p ++ (m ++ d :: l)).map Cell.interval) =
      (p ++ j :: l).map Cell.interval := by
    have hcanon := h.gnos.canonical
    rw [List.map_append] at hcanon ⊢
    rw [IntervalList.insert_append_of_before, List.map_append, List.map_append, List.map_cons,
      IntervalList.insert_append_of_touching hse]
    · have hhead : (m.map Cell.interval ++ [d.interval]).head (by simp) = f.interval := by
        have : m.map Cell.interval ++ [d.interval] = f.interval :: rest.map Cell.interval := by
          rw [← List.map_cons, ← hf, List.map_append, List.map_singleton]
        simp [this]
      rw [hhead]
      rfl
    · rw [← List.map_cons, ← List.map_append]
      exact (IntervalList.canonical_append.mp hcanon).2.1
    · intro i hi
      rw [← List.map_singleton, ← List.map_append] at hi
      obtain ⟨c, hc, rfl⟩ := List.mem_map.mp hi
      exact hm c hc
    · intro i hi
      obtain ⟨c, hc, rfl⟩ := List.mem_map.mp hi
      exact hl c hc
    · intro i hi
      obtain ⟨c, hc, rfl⟩ := List.mem_map.mp hi
      exact hp c hc
  have hnew := h.gnos.insert hs hse he
  rw [hins] at hnew ⊢
  refine ⟨_, ?_, hres.grown (n := gsl.gnoCount) (k := gtidIntervalNodeGnoCount joined -
    gtidIntervalNodeGnoCount dn - IntervalList.size (m.map Cell.interval)) h.gnos hnew
    h.gnoCount ?_⟩
  · have htail : gsl.tail = ((p ++ j :: l).map Cell.addr).getLastD gsl.header := by
      rw [h.tail, ← List.append_assoc]
      simp only [List.map_append, List.map_cons, getLastD_append_cons]
      rfl
    rw [hlast] at hrun
    simp only [List.map_cons, List.head?_cons] at hrun
    simp only [joinNodes, hfirst, hlast, hfn, hdn, Option.bind_eq_bind, Option.bind_some,
      ← hjoined, ← htail]
    rw [hrun]
  · simp only [List.map_append, List.map_cons, IntervalList.size_append, IntervalList.size_cons,
      gtidIntervalNodeGnoCount, hjoined, hj, Cell.interval, hfns, hdns, hdne]
    omega

/-- A cell's end can be incremented. -/
theorem Rep.llong_end_add_one (h : Rep gsl cells) (hb : Below (cells.map Cell.interval))
    (hc : c ∈ cells) : llong (c.end + 1) = c.end + 1 := by
  have h₁ := h.start_le_end hc
  have h₂ := h.bounds hc
  have h₃ : c.end < LLONG_MAX := hb c.interval (List.mem_map_of_mem hc)
  exact llong_succ (by omega) h₃

/-- The node at the tail: the header, or the last cell. -/
theorem Shape.get_tail (h : Shape gsl cells) :
    ∃ n, gsl.nodes.get gsl.tail = some n ∧ n.end = IntervalList.top (cells.map Cell.interval) := by
  rcases List.eq_nil_or_concat cells with rfl | ⟨p, c, rfl⟩
  · obtain ⟨n, hn, -, hne⟩ := h.get_header
    refine ⟨n, ?_, hne⟩
    rw [h.tail_eq_header.mpr rfl]
    exact hn
  · rw [List.concat_eq_append] at h ⊢
    obtain ⟨n, hn, -, -, hne, -⟩ := h.linked.2.2.stores (c := c) (by simp)
    refine ⟨n, ?_, ?_⟩
    · rw [h.tail_concat]
      exact hn
    · rw [List.map_append, List.map_singleton, IntervalList.top_concat]
      exact hne

/-- **Add is insertion.**  On a well-formed list whose ends can be incremented, adding a
valid range succeeds, inserts it, and returns how much the set grew. -/
theorem gtidIntervalSkipListAdd_rep (h : Rep gsl cells) (hb : Below (cells.map Cell.interval))
    (hs : 1 ≤ s) (hse : s ≤ e) (he : e < LLONG_MAX) (rand : Rand) :
    ∃ r, gtidIntervalSkipListAdd gsl s e rand = some r ∧
      Grown (cells.map Cell.interval) (IntervalList.insert s e (cells.map Cell.interval)) r := by
  have hvalid : gtidIntervalIsValid s e = true := gtidIntervalIsValid_iff.mpr ⟨hs, hse⟩
  obtain ⟨tail, htail, htailEnd⟩ := h.toShape.get_tail
  simp only [gtidIntervalSkipListAdd, hvalid, guard, htail, if_true, Option.pure_def,
    Option.bind_eq_bind, Option.bind_some]
  split
  · -- fast path
    rename_i hfast
    have hne : cells ≠ [] := fun hnil => hfast.1 (h.toShape.tail_eq_header.mpr hnil).symm
    obtain ⟨p, c, rfl⟩ := (List.eq_nil_or_concat cells).resolve_left hne
    rw [List.concat_eq_append] at *
    refine ⟨_, rfl, add_fast h ?_ hse (le_of_lt he)⟩
    rw [htailEnd, List.map_append, List.map_singleton, IntervalList.top_concat] at hfast
    rw [← h.llong_end_add_one hb (c := c) (by simp)]
    exact hfast.2
  · -- the cells before the range, those it overlaps or touches, and those after
    obtain ⟨p, q, rfl, hp, hq⟩ := exists_split (t := fun c : Cell => c.end + 1 < s)
      (h.pairwise.imp_of_mem (fun {a b} ha hbm hab hlt => by
        have := h.start_le_end hbm
        omega))
    obtain ⟨mid, l, rfl, hmid, hl⟩ := exists_split (t := fun c : Cell => c.start ≤ e + 1)
      ((List.pairwise_append.mp h.pairwise).2.1.imp_of_mem (fun {a b} ha hbm hab hlt => by
        have := h.start_le_end (List.mem_append_right p ha)
        omega))
    have he1 : llong (e + 1) = e + 1 := llong_succ (by omega) he
    have hlefts : ∀ i < gsl.level, predecessors gsl (fun n => llong (n.end + 1) < s) i =
        (levelCells i p).getLastD gsl.header := by
      refine fun i hi => h.toShape.predecessors_eq ?_ ?_ hi
      · intro c hc n _ hne
        have := hp c hc
        rw [hne, h.llong_end_add_one hb (by simp [hc])]
        simpa using this
      · intro c hc n _ hne
        have := hq c hc
        rw [hne, h.llong_end_add_one hb (List.mem_append_right p hc)]
        simpa using this
    have hrights : ∀ i < gsl.level, predecessors gsl (fun n => n.start ≤ llong (e + 1)) i =
        (levelCells i (p ++ mid)).getLastD gsl.header := by
      have hassoc : Shape gsl ((p ++ mid) ++ l) := by
        rw [List.append_assoc]
        exact h.toShape
      refine fun i hi => hassoc.predecessors_eq ?_ ?_ hi
      · intro c hc n hns _
        rw [hns, he1]
        rcases List.mem_append.mp hc with hc | hc
        · have := hp c hc
          have := h.start_le_end (c := c) (by simp [hc])
          simp only [decide_eq_true_eq]
          omega
        · simpa using hmid c hc
      · intro c hc n hns _
        rw [hns, he1]
        simpa using hl c hc
    have hl' : ∀ c ∈ l, e + 1 < c.start := fun c hc => by
      have := hl c hc
      omega
    rcases List.eq_nil_or_concat mid with rfl | ⟨m, d, rfl⟩
    · rw [List.append_nil] at hrights
      rw [if_pos ((hlefts 0 h.toShape.zero_lt_level).trans
        (hrights 0 h.toShape.zero_lt_level).symm)]
      exact ⟨_, rfl, add_insert h hs hse (le_of_lt he) hp hl' hrights⟩
    · rw [List.concat_eq_append] at *
      rw [List.append_assoc, List.singleton_append] at *
      have hne : predecessors gsl (fun n => llong (n.end + 1) < s) 0 ≠
          predecessors gsl (fun n => n.start ≤ llong (e + 1)) 0 := by
        have hlast : predecessors gsl (fun n => n.start ≤ llong (e + 1)) 0 = d.addr := by
          rw [hrights 0 h.toShape.zero_lt_level, ← List.append_assoc]
          exact Shape.last_zero (p := p ++ m) (l := l) (by simpa using h.toShape) _
        obtain ⟨b, hbm, -, hba, -⟩ := Linked.exists_pred (z := headerCell gsl) (p := p)
          h.linked (Nat.succ_pos 31)
        rw [hlefts 0 h.toShape.zero_lt_level, hlast]
        exact fun heq => h.toShape.addr_ne hbm (d := d) (by simp) (hba.trans heq)
      rw [if_neg hne]
      refine add_join h hs hse (le_of_lt he) hp ?_ hl' hlefts hrights
      intro c hc
      have := hq c (by simp only [List.mem_append, List.mem_cons, List.not_mem_nil, or_false]
                         at hc ⊢; tauto)
      have := hmid c hc
      omega

/-- On an empty list a range may reach `LLONG_MAX`. -/
theorem gtidIntervalSkipListAdd_nil_rep (h : Rep gsl []) (hs : 1 ≤ s) (hse : s ≤ e)
    (he : e ≤ LLONG_MAX) (rand : Rand) :
    ∃ r, gtidIntervalSkipListAdd gsl s e rand = some r ∧
      Grown ([] : List (Int × Int)) (IntervalList.insert s e []) r := by
  have hvalid : gtidIntervalIsValid s e = true := gtidIntervalIsValid_iff.mpr ⟨hs, hse⟩
  obtain ⟨tail, htail, -⟩ := h.toShape.get_tail
  have hheader : gsl.header = gsl.tail := (h.toShape.tail_eq_header.mpr rfl).symm
  have hpred : ∀ (test : GtidIntervalNode → Bool), ∀ i < gsl.level, predecessors gsl test i =
      (levelCells i []).getLastD gsl.header := fun test i hi =>
    h.toShape.predecessors_eq (p := []) (l := []) (by simp) (by simp) hi
  have hzero := h.toShape.zero_lt_level
  simp only [gtidIntervalSkipListAdd, hvalid, guard, htail, if_true, Option.pure_def,
    Option.bind_eq_bind, Option.bind_some]
  rw [if_neg (fun hfast => hfast.1 hheader), if_pos ((hpred _ 0 hzero).trans (hpred _ 0 hzero).symm)]
  exact ⟨_, rfl, add_insert (p := []) (l := []) h hs hse he (by simp) (by simp) (hpred _)⟩

/-- Right after the last node it may as well. -/
theorem gtidIntervalSkipListAdd_after_rep (h : Rep gsl cells) (hne : cells ≠ [])
    (htop : IntervalList.top (cells.map Cell.interval) + 1 = s) (hse : s ≤ e)
    (he : e ≤ LLONG_MAX) (rand : Rand) :
    ∃ r, gtidIntervalSkipListAdd gsl s e rand = some r ∧
      Grown (cells.map Cell.interval) (IntervalList.insert s e (cells.map Cell.interval)) r := by
  obtain ⟨tail, htail, htailEnd⟩ := h.toShape.get_tail
  have hheader : gsl.header ≠ gsl.tail := fun heq => hne (h.toShape.tail_eq_header.mp heq.symm)
  obtain ⟨p, c, rfl⟩ := (List.eq_nil_or_concat cells).resolve_left hne
  rw [List.concat_eq_append] at *
  rw [List.map_append, List.map_singleton, IntervalList.top_concat] at htop htailEnd
  have hs : c.end + 1 = s := htop
  have hce := h.start_le_end (c := c) (by simp)
  have hcb := h.bounds (c := c) (by simp)
  have hvalid : gtidIntervalIsValid s e = true := gtidIntervalIsValid_iff.mpr ⟨by omega, hse⟩
  have hlast : llong (tail.end + 1) = s := by
    have htailEnd : tail.end = c.end := htailEnd
    rw [htailEnd, llong_succ (by omega) (by omega), hs]
  simp only [gtidIntervalSkipListAdd, hvalid, guard, htail, if_true, Option.pure_def,
    Option.bind_eq_bind, Option.bind_some]
  rw [if_pos ⟨hheader, hlast⟩]
  exact ⟨_, rfl, add_fast h hs hse he⟩

/-- No node is behind the tail. -/
theorem Shape.forward_tail (h : Shape gsl cells) : forward gsl.nodes 0 gsl.tail = none := by
  have hlinked : Linked gsl.nodes ((headerCell gsl :: cells) ++ []) := by
    rw [List.append_nil]
    exact h.linked
  have hlast := hlinked.forward_pred (i := 0) (Nat.succ_pos 31)
  rw [h.levelCells_zero] at hlast
  rw [h.tail]
  exact hlast

/-- Elsewhere behind the nodes it may not: no node starts at or before the wrapped `end + 1`,
and the node to join the range to is the one after the last. -/
theorem gtidIntervalSkipListAdd_max_rep (h : Rep gsl cells) (hne : cells ≠ [])
    (htop : IntervalList.top (cells.map Cell.interval) + 1 < s) (hs : s ≤ LLONG_MAX)
    (rand : Rand) : gtidIntervalSkipListAdd gsl s LLONG_MAX rand = none := by
  have hlevel := h.toShape.zero_lt_level
  have hcanonical := h.gnos.canonical
  obtain ⟨tail, htail, htailEnd⟩ := h.toShape.get_tail
  have hlast : ∀ c ∈ cells, llong (c.end + 1) < s := by
    intro c hc
    have h₁ := h.start_le_end hc
    have h₂ := h.bounds hc
    have hle := IntervalList.le_top hcanonical
      (IntervalList.mem_points.mpr ⟨c.interval, List.mem_map_of_mem hc, h₁, le_refl c.end⟩)
    rw [llong_succ (by omega) (by omega)]
    omega
  have hlefts : predecessors gsl (fun n => llong (n.end + 1) < s) 0 = gsl.tail := by
    have hshape : Shape gsl (cells ++ []) := by
      rw [List.append_nil]
      exact h.toShape
    rw [hshape.predecessors_eq (fun c hc n _ hn => ?_) (by simp) hlevel, h.toShape.levelCells_zero,
      h.tail]
    rw [hn, decide_eq_true_eq]
    exact hlast c hc
  have hrights : predecessors gsl (fun n => n.start ≤ llong (LLONG_MAX + 1)) 0 = gsl.header := by
    rw [Shape.predecessors_eq (p := []) h.toShape (by simp) (fun c hc n hn _ => ?_) hlevel,
      levelCells_nil, List.getLastD_nil]
    rw [hn, decide_eq_false_iff_not, Int.not_le]
    exact lt_of_lt_of_le (by decide) (h.bounds hc).1
  have htailS : llong (tail.end + 1) ≠ s := by
    have h₁ := h.gnos.top_nonneg
    rw [htailEnd, llong_succ h₁ (by omega)]
    omega
  have hpos : 1 ≤ s := by
    have h₁ := h.gnos.top_nonneg
    omega
  have hvalid : gtidIntervalIsValid s LLONG_MAX = true := gtidIntervalIsValid_iff.mpr ⟨hpos, hs⟩
  have hheader : gsl.tail ≠ gsl.header := fun heq => hne (h.toShape.tail_eq_header.mp heq)
  simp only [gtidIntervalSkipListAdd, hvalid, guard, htail, if_true, Option.pure_def,
    Option.bind_eq_bind, Option.bind_some]
  rw [if_neg (fun hfast => htailS hfast.2), hlefts, hrights, if_neg hheader, joinNodes, hlefts,
    h.toShape.forward_tail, Option.bind_eq_bind, Option.bind_none]

end Add

end XredisGtid
