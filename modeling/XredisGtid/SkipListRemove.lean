import XredisGtid.SkipListAdd

/-!
# Removing a range from a skip list

`gtidIntervalSkipListRemove` computes `IntervalList.erase` on the intervals and keeps
the representation, through both its branches: splitting the one node that contains
the range in its interior, and cutting, which trims the last node starting before the
range and the first one ending after it and frees the nodes in between.  The number
it returns is how much the set shrank.
-/
namespace XredisGtid
open Memory

section Remove
variable {gsl : GtidIntervalSkipList} {cells p m q : List Cell} {c : Cell} {s e : Int}

/-- The skip list represents the intervals `new`, and the number returned is how many gnos
they have less than `old`. -/
def Shrunk (old new : List (Int × Int)) (r : GtidIntervalSkipList × Int) : Prop :=
  ∃ cells, Rep r.1 cells ∧ cells.map Cell.interval = new ∧
    r.2 = IntervalList.size old - IntervalList.size new

theorem Shape.shrunk {old : List (Int × Int)} {n k : Int} (h : Shape gsl cells)
    (hold : Gnos old) (hg : Gnos (cells.map Cell.interval)) (hn : n = IntervalList.size old)
    (hd : IntervalList.size (cells.map Cell.interval) = IntervalList.size old - k) :
    Shrunk old (cells.map Cell.interval)
      ({ gsl with gnoCount := llong (n - k) }, llong k) := by
  have hx := hold.size_bounds
  have hy := hg.size_bounds
  unfold LLONG_MAX at hx hy
  have h₁ : llong k = k :=
    llong_of_mem (by unfold LLONG_MIN; omega) (by unfold LLONG_MAX; omega)
  have h₂ : llong (n - k) = n - k :=
    llong_of_mem (by unfold LLONG_MIN; omega) (by unfold LLONG_MAX; omega)
  refine ⟨cells, ⟨h.setGnoCount _, hg, ?_⟩, rfl, ?_⟩
  · show llong (n - k) = _
    omega
  · show llong k = _
    omega

/-! ## Splitting a node -/

/-- The range is in the interior of one node: it keeps the gnos below the range, and a new
node after it takes those above. -/
theorem remove_split (h : Rep gsl (p ++ c :: q)) (hs : c.start < s) (hse : s ≤ e)
    (he : e < c.end) {lefts : Nat → Addr} (hl : lefts 0 = c.addr)
    (hlefts : ∀ i < gsl.level, lefts i = (levelCells i (p ++ [c])).getLastD gsl.header)
    (rand : Rand) :
    Shrunk ((p ++ c :: q).map Cell.interval)
      (IntervalList.erase s e ((p ++ c :: q).map Cell.interval))
      ({ insertNode
            { gsl with nodes := gsl.nodes.modify (lefts 0) (fun n => { n with «end» := s - 1 }) }
            lefts (e + 1) c.end rand with
          gnoCount := llong (gsl.gnoCount - llong (e - s + 1)) }, llong (e - s + 1)) := by
  have hpair := List.pairwise_append.mp h.pairwise
  set c' : Cell := { c with «end» := s - 1 } with hc'
  have hmod : Shape { gsl with nodes := gsl.nodes.modify c.addr (fun n => { n with «end» := s - 1 }) }
      (p ++ c' :: q) :=
    h.toShape.modify (d := c') rfl rfl (by
      intro n hn
      obtain ⟨m, hm, -, hms, -⟩ := h.linked.2.2.stores (c := c) (by simp)
      have hnm : n = m := Option.some.inj (hn.symm.trans hm)
      exact ⟨rfl, rfl, hnm ▸ hms, rfl⟩)
  rw [← List.singleton_append, ← List.append_assoc] at hmod
  have hins := insertNode_shape (s := e + 1) (e := c.end) (r := rand) hmod
    (f := lefts) (by
      intro i hi
      rw [hlefts i hi, levelCells_append, levelCells_append,
        levelCells_congr (c := c) (d := c') rfl rfl])
  rw [← hl] at hins
  set x := newCell { gsl with
    nodes := gsl.nodes.modify (lefts 0) (fun n => { n with «end» := s - 1 }) } (e + 1) c.end rand
    with hx
  have herase : IntervalList.erase s e ((p ++ c :: q).map Cell.interval) =
      ((p ++ [c']) ++ x :: q).map Cell.interval := by
    have hbefore : IntervalList.erase s e (p.map Cell.interval) = p.map Cell.interval := by
      refine IntervalList.erase_of_before hse ?_ ?_
      · intro i hi
        obtain ⟨d, hd, rfl⟩ := List.mem_map.mp hi
        exact h.start_le_end (by simp [hd])
      · intro i hi
        obtain ⟨d, hd, rfl⟩ := List.mem_map.mp hi
        have := hpair.2.2 d hd c (by simp)
        show d.end < s
        omega
    have hafter : IntervalList.erase s e (q.map Cell.interval) = q.map Cell.interval := by
      refine IntervalList.erase_of_after hse ?_ ?_
      · intro i hi
        obtain ⟨d, hd, rfl⟩ := List.mem_map.mp hi
        exact h.start_le_end (by simp [hd])
      · intro i hi
        obtain ⟨d, hd, rfl⟩ := List.mem_map.mp hi
        have := List.rel_of_pairwise_cons hpair.2.1 hd
        show e < d.start
        omega
    have hpieces : IntervalList.pieces s e c.interval = [c'.interval, x.interval] := by
      simp only [IntervalList.pieces, Cell.interval, hs, he, if_true, hc', hx, newCell]
      rw [min_eq_right (by omega), max_eq_right (by omega)]
      rfl
    simp only [List.map_append, List.map_cons, List.map_nil, IntervalList.erase_append,
      IntervalList.erase_cons, hbefore, hafter, hpieces]
    simp
  have hremoved : llong (e - s + 1) = e - s + 1 := by
    have h₁ := h.bounds (c := c) (by simp)
    unfold LLONG_MAX at h₁
    exact llong_of_mem (by unfold LLONG_MIN; omega) (by unfold LLONG_MAX; omega)
  have hnew := h.gnos.erase hse
  rw [herase] at hnew ⊢
  have := hins.shrunk (n := gsl.gnoCount) (k := e - s + 1) h.gnos hnew h.gnoCount (by
    simp only [List.map_append, IntervalList.size_append, List.map_cons, List.map_nil,
      IntervalList.size_cons, IntervalList.size_nil, Cell.interval, hc', hx, newCell]
    omega)
  rw [hremoved] at this ⊢
  exact this

/-! ## Trimming the ends of the range -/

/-- A cell that keeps its gnos below `s`. -/
def trimEnd (s : Int) (c : Cell) : Cell := { c with «end» := min c.end (s - 1) }

/-- A cell that keeps its gnos above `e`. -/
def trimStart (e : Int) (c : Cell) : Cell := { c with start := max c.start (e + 1) }

theorem map_trimEnd {l : List Cell} (h : ∀ c ∈ l, c.end < s) : l.map (trimEnd s) = l := by
  refine (List.map_congr_left (g := id) ?_).trans (List.map_id l)
  intro c hc
  have := h c hc
  rw [trimEnd, min_eq_left (by omega)]
  rfl

theorem map_trimStart {l : List Cell} (h : ∀ c ∈ l, e < c.start) : l.map (trimStart e) = l := by
  refine (List.map_congr_left (g := id) ?_).trans (List.map_id l)
  intro c hc
  have := h c hc
  rw [trimStart, max_eq_left (by omega)]
  rfl

/-- Erasing the range from intervals that start before it and end within it. -/
theorem erase_map_trimEnd {l : List Cell} (h : ∀ c ∈ l, c.start < s ∧ c.end ≤ e) :
    IntervalList.erase s e (l.map Cell.interval) = (l.map (trimEnd s)).map Cell.interval := by
  induction l with
  | nil => rfl
  | cons c l ih =>
    have hc := h c (by simp)
    have hpieces : IntervalList.pieces s e c.interval = [(trimEnd s c).interval] := by
      rw [IntervalList.pieces, if_pos (show c.interval.1 < s from hc.1),
        if_neg (show ¬ e < c.interval.2 from Int.not_lt.mpr hc.2)]
      rfl
    rw [List.map_cons, IntervalList.erase_cons, hpieces, ih (fun d hd => h d (by simp [hd]))]
    rfl

/-- Erasing the range from intervals that start within it and end after it. -/
theorem erase_map_trimStart {l : List Cell} (h : ∀ c ∈ l, s ≤ c.start ∧ e < c.end) :
    IntervalList.erase s e (l.map Cell.interval) = (l.map (trimStart e)).map Cell.interval := by
  induction l with
  | nil => rfl
  | cons c l ih =>
    have hc := h c (by simp)
    have hpieces : IntervalList.pieces s e c.interval = [(trimStart e c).interval] := by
      rw [IntervalList.pieces, if_neg (show ¬ c.interval.1 < s from Int.not_lt.mpr hc.1),
        if_pos (show e < c.interval.2 from hc.2)]
      rfl
    rw [List.map_cons, IntervalList.erase_cons, hpieces, ih (fun d hd => h d (by simp [hd]))]
    rfl

theorem levelCells_map {f : Cell → Cell} (hf : ∀ c, (f c).addr = c.addr ∧ (f c).level = c.level)
    (i : Nat) (l : List Cell) : levelCells i (l.map f) = levelCells i l := by
  induction l with
  | nil => rfl
  | cons c l ih =>
    rw [List.map_cons]
    rcases Nat.lt_or_ge i c.level with hi | hi
    · rw [levelCells_cons_of_lt hi, levelCells_cons_of_lt ((hf c).2 ▸ hi), (hf c).1, ih]
    · rw [levelCells_cons_of_le hi, levelCells_cons_of_le ((hf c).2 ▸ hi), ih]

/-- Trimming the last node before the range; the header is not changed. -/
theorem Shape.trimEnd {n n' : GtidIntervalNode} (h : Shape gsl (p ++ q)) (hs : 1 ≤ s)
    (hsep : p.Pairwise (fun c d => c.end + 1 < d.start)) (hp : ∀ c ∈ p, c.start < s)
    (hn : gsl.nodes.get ((p.map Cell.addr).getLastD gsl.header) = some n)
    (hn' : n' = { n with «end» := min n.end (s - 1) }) :
    Shape { gsl with
        nodes := gsl.nodes.modify ((p.map Cell.addr).getLastD gsl.header) (fun _ => n') }
      (p.map (XredisGtid.trimEnd s) ++ q) ∧
    gtidIntervalNodeGnoCount n - gtidIntervalNodeGnoCount n' =
      IntervalList.size (p.map Cell.interval) -
        IntervalList.size ((p.map (XredisGtid.trimEnd s)).map Cell.interval) := by
  rcases List.eq_nil_or_concat p with rfl | ⟨p, c, rfl⟩
  · obtain ⟨hdn, hget, -, hend⟩ := h.get_header
    have hnh : n = hdn := Option.some.inj (hn.symm.trans hget)
    have hsame : n' = n := by
      rw [hn', hnh, hend, min_eq_left (by omega)]
      rw [← hend]
    subst hsame
    refine ⟨?_, by simp⟩
    rw [Arena.modify_self hn]
    exact h
  · rw [List.concat_eq_append] at *
    obtain ⟨hsep, -, hcross⟩ := List.pairwise_append.mp hsep
    have hbefore : p.map (XredisGtid.trimEnd s) = p := map_trimEnd (fun d hd => by
      have h₁ := hcross d hd c (by simp)
      have h₂ := hp c (by simp)
      omega)
    simp only [List.map_append, List.map_singleton, List.getLastD_concat, hbefore,
      IntervalList.size_append, IntervalList.size_cons, IntervalList.size_nil] at *
    rw [List.append_assoc, List.singleton_append] at *
    obtain ⟨m, hm, -, hms, hme, -⟩ := h.linked.2.2.stores (c := c) (by simp)
    have hnm : n = m := Option.some.inj (hn.symm.trans hm)
    subst hnm
    refine ⟨h.modify (d := XredisGtid.trimEnd s c) rfl rfl ?_, ?_⟩
    · intro k hk
      have hkn : k = n := Option.some.inj (hk.symm.trans hn)
      subst hkn
      rw [hn']
      exact ⟨rfl, rfl, hms, by rw [XredisGtid.trimEnd, hme]⟩
    · rw [hn']
      simp only [gtidIntervalNodeGnoCount, Cell.interval, XredisGtid.trimEnd, hms, hme]
      omega

/-- Trimming the first node after the range. -/
theorem Shape.trimStart {n n' : GtidIntervalNode} (h : Shape gsl (p ++ c :: q))
    (hsep : (c :: q).Pairwise (fun c d => c.end + 1 < d.start)) (hc : e < c.end)
    (hn : gsl.nodes.get c.addr = some n)
    (hn' : n' = { n with start := max n.start (e + 1) }) :
    Shape { gsl with nodes := gsl.nodes.modify c.addr (fun _ => n') }
      (p ++ (c :: q).map (XredisGtid.trimStart e)) ∧
    gtidIntervalNodeGnoCount n - gtidIntervalNodeGnoCount n' =
      IntervalList.size ((c :: q).map Cell.interval) -
        IntervalList.size (((c :: q).map (XredisGtid.trimStart e)).map Cell.interval) := by
  have hafter : q.map (XredisGtid.trimStart e) = q := map_trimStart (fun d hd => by
    have := List.rel_of_pairwise_cons hsep hd
    omega)
  obtain ⟨m, hm, -, hms, hme, -⟩ := h.linked.2.2.stores (c := c) (by simp)
  have hnm : n = m := Option.some.inj (hn.symm.trans hm)
  subst hnm
  rw [List.map_cons, hafter]
  refine ⟨h.modify (d := XredisGtid.trimStart e c) rfl rfl ?_, ?_⟩
  · intro k hk
    have hkn : k = n := Option.some.inj (hk.symm.trans hn)
    subst hkn
    rw [hn']
    exact ⟨rfl, rfl, by rw [XredisGtid.trimStart, hms], hme⟩
  · rw [hn']
    simp only [List.map_cons, IntervalList.size_cons, gtidIntervalNodeGnoCount, Cell.interval,
      XredisGtid.trimStart, hms, hme]
    omega

/-! ## Cutting -/

/-- The nodes between the last cell of `p` and the first of `q` are unlinked and freed. -/
theorem Shape.cut {lefts rights : Nat → Addr} (h : Shape gsl (p ++ (m ++ q)))
    (hlefts : ∀ i < gsl.level, lefts i = (levelCells i p).getLastD gsl.header)
    (hrights : ∀ i < gsl.level, rights i = (levelCells i (p ++ m)).getLastD gsl.header)
    {nodes' : Arena GtidIntervalNode}
    (hnodes' : nodes' = relink lefts (fun h i => forward h i (rights i)) (List.range gsl.level)
      gsl.nodes) :
    ∃ nodes'', freeRun (q.map Cell.addr).head? nodes'.size (forward gsl.nodes 0 (lefts 0))
        nodes' = (nodes'', m.length, IntervalList.size (m.map Cell.interval)) ∧
      Shape { gsl with
        nodes := nodes''
        tail := ((p ++ q).map Cell.addr).getLastD gsl.header
        nodeCount := gsl.nodeCount - m.length
        level := shrinkLevel nodes'' gsl.header gsl.level } (p ++ q) := by
  have hpred : ∀ i < gsl.level, ∃ c, Stores gsl.nodes c ∧ c.addr = lefts i ∧ i < c.level := by
    intro i hi
    obtain ⟨c, -, hc, hca, hci⟩ := Linked.exists_pred (z := headerCell gsl) (p := p) h.linked
      (Nat.lt_of_lt_of_le hi h.level_le)
    exact ⟨c, hc, hca.trans (hlefts i hi).symm, hci⟩
  have hfirst : forward gsl.nodes 0 (lefts 0) = ((m ++ q).map Cell.addr).head? := by
    rw [hlefts 0 h.zero_lt_level, ← XredisGtid.levelCells_zero (fun c hc =>
      (h.levels c (List.mem_append_right _ hc)).1)]
    exact Linked.forward_pred (z := headerCell gsl) (p := p) h.linked (Nat.succ_pos 31)
  rw [hfirst]
  subst hnodes'
  refine h.unlink _ (fun c hc => stores_relink.mpr hc) ?_
  intro i b
  rw [forward_relink (v := fun h i => forward h i (rights i)) (fun h h' i he => he _)
    List.nodup_range (fun i hi => hpred i (List.mem_range.mp hi))]
  simp only [List.mem_range]
  by_cases hi : i < gsl.level
  · have hlinked : Linked gsl.nodes ((headerCell gsl :: (p ++ m)) ++ q) := by
      simpa using h.linked
    rw [hlefts i hi, hrights i hi]
    exact congrArg (fun v => if i < gsl.level ∧ b = (levelCells i p).getLastD gsl.header then v
      else forward gsl.nodes i b) (hlinked.forward_pred (Nat.lt_of_lt_of_le hi h.level_le))
  · rw [if_neg (fun h => hi h.1), if_neg (fun h => hi h.1)]

/-- The last node starting before the range and the first ending after it are trimmed, and
those in between are freed. -/
theorem remove_cut {lefts rights : Nat → Addr} (h : Rep gsl (p ++ (m ++ q))) (hs : 1 ≤ s)
    (hse : s ≤ e) (hp : ∀ c ∈ p, c.start < s ∧ c.end ≤ e)
    (hm : ∀ c ∈ m, s ≤ c.start ∧ c.end ≤ e) (hq : ∀ c ∈ q, s ≤ c.start ∧ e < c.end)
    (hlefts : ∀ i < gsl.level, lefts i = (levelCells i p).getLastD gsl.header)
    (hrights : ∀ i < gsl.level, rights i = (levelCells i (p ++ m)).getLastD gsl.header) :
    ∃ r, cutNodes gsl lefts rights s e = some r ∧
      Shrunk ((p ++ (m ++ q)).map Cell.interval)
        (IntervalList.erase s e ((p ++ (m ++ q)).map Cell.interval)) r := by
  obtain ⟨hpairp, hpairq, -⟩ := List.pairwise_append.mp h.pairwise
  have hlevels : ∀ c ∈ p ++ (m ++ q), 1 ≤ c.level := fun c hc => (h.levels c hc).1
  have herase : IntervalList.erase s e ((p ++ (m ++ q)).map Cell.interval) =
      (p.map (trimEnd s) ++ q.map (trimStart e)).map Cell.interval := by
    have hwithin : IntervalList.erase s e (m.map Cell.interval) = [] := by
      refine IntervalList.erase_of_within ?_
      intro i hi
      obtain ⟨c, hc, rfl⟩ := List.mem_map.mp hi
      exact hm c hc
    rw [List.map_append, List.map_append, IntervalList.erase_append, IntervalList.erase_append,
      erase_map_trimEnd hp, hwithin, erase_map_trimStart hq, List.map_append, List.nil_append]
  have hnew := h.gnos.erase hse
  rw [herase] at hnew ⊢
  -- the last node starting before the range
  have hleft : lefts 0 = (p.map Cell.addr).getLastD gsl.header := by
    rw [hlefts 0 h.toShape.zero_lt_level, levelCells_zero (fun c hc => hlevels c (by simp [hc]))]
  obtain ⟨d, hd, hds, hda, -⟩ := Linked.exists_pred (z := headerCell gsl) (p := p) h.linked
    (Nat.succ_pos 31)
  obtain ⟨ln, hln, -⟩ := hds
  rw [hda, show (headerCell gsl).addr = gsl.header from rfl,
    ← hlefts 0 h.toShape.zero_lt_level] at hln
  obtain ⟨hmod, hgone⟩ := h.toShape.trimEnd hs hpairp (fun c hc => (hp c hc).1)
    (hleft ▸ hln) rfl
  rw [← hleft] at hmod
  set nodes₁ := gsl.nodes.modify (lefts 0)
    (fun _ => { ln with «end» := min ln.end (s - 1) }) with hnodes₁
  have htrim : ∀ i, levelCells i (p.map (trimEnd s)) = levelCells i p :=
    fun i => levelCells_map (f := trimEnd s) (fun _ => ⟨rfl, rfl⟩) i p
  have htrim' : ∀ i, levelCells i (p.map (trimEnd s) ++ m) = levelCells i (p ++ m) := by
    intro i
    rw [levelCells_append, htrim, levelCells_append]
  -- the first node ending after it
  have hright : forward nodes₁ 0 (rights 0) = (q.map Cell.addr).head? := by
    have hlinked : Linked nodes₁ ((headerCell gsl :: (p.map (trimEnd s) ++ m)) ++ q) := by
      rw [List.cons_append, List.append_assoc]
      exact hmod.linked
    have := hlinked.forward_pred (i := 0) (Nat.succ_pos 31)
    rw [htrim', levelCells_zero (l := q) (fun c hc => hlevels c (by simp [hc]))] at this
    rw [hrights 0 h.toShape.zero_lt_level]
    exact this
  cases q with
  | nil =>
    obtain ⟨nodes'', hrun, hres⟩ := hmod.cut
      (fun i hi => (hlefts i hi).trans (by rw [htrim]))
      (fun i hi => (hrights i hi).trans (by rw [htrim'])) rfl
    refine ⟨_, ?_, hres.shrunk (n := gsl.gnoCount) (k := gtidIntervalNodeGnoCount ln -
      gtidIntervalNodeGnoCount { ln with «end» := min ln.end (s - 1) } + 0 +
      IntervalList.size (m.map Cell.interval)) h.gnos (by simpa using hnew) h.gnoCount ?_⟩
    · have htail : ((p.map (trimEnd s) ++ []).map Cell.addr).getLastD gsl.header = lefts 0 := by
        rw [hleft, List.append_nil, List.map_map]
        rfl
      rw [htail]
      simp only [List.map_nil, List.head?_nil] at hrun hright
      simp only [cutNodes, hln, ← hnodes₁, hright, Option.bind_eq_bind, Option.bind_some,
        Option.bind_none, Option.map_none, if_true]
      rw [hrun]
    · simp only [List.map_append, IntervalList.size_append, List.map_nil] at hgone ⊢
      omega
  | cons d q =>
    have hmod' : Shape { gsl with nodes := nodes₁ } ((p.map (trimEnd s) ++ m) ++ d :: q) := by
      rw [List.append_assoc]
      exact hmod
    obtain ⟨rn, hrn, -⟩ := hmod'.linked.2.2.stores (c := d) (by simp)
    obtain ⟨hmod₂, hgone₂⟩ := hmod'.trimStart (List.pairwise_append.mp hpairq).2.1
      (hq d (by simp)).2 hrn rfl
    rw [List.append_assoc] at hmod₂
    set nodes₂ := nodes₁.modify d.addr (fun _ => { rn with start := max rn.start (e + 1) })
      with hnodes₂
    obtain ⟨nodes'', hrun, hres⟩ := hmod₂.cut
      (fun i hi => (hlefts i hi).trans (by rw [htrim]))
      (fun i hi => (hrights i hi).trans (by rw [htrim'])) rfl
    refine ⟨_, ?_, hres.shrunk (n := gsl.gnoCount) (k := gtidIntervalNodeGnoCount ln -
      gtidIntervalNodeGnoCount { ln with «end» := min ln.end (s - 1) } +
      (gtidIntervalNodeGnoCount rn -
        gtidIntervalNodeGnoCount { rn with start := max rn.start (e + 1) }) +
      IntervalList.size (m.map Cell.interval)) h.gnos hnew h.gnoCount ?_⟩
    · have htail : ((p.map (trimEnd s) ++ (d :: q).map (trimStart e)).map Cell.addr).getLastD
          gsl.header = gsl.tail := by
        rw [h.tail]
        simp only [List.map_append, List.map_cons, List.map_map, ← List.append_assoc,
          getLastD_append_cons]
        rfl
      have hend : llong (e + 1) = e + 1 := by
        have h₁ := hq d (by simp)
        have h₂ := h.bounds (c := d) (by simp)
        exact llong_succ (by omega) (by omega)
      rw [htail]
      simp only [List.map_cons, List.head?_cons] at hrun hright
      simp only [cutNodes, hln, ← hnodes₁, hright, hrn, hend, ← hnodes₂, Option.bind_eq_bind,
        Option.bind_some, Option.map_some, reduceCtorEq, if_false]
      rw [show (trimStart e d).addr = d.addr from rfl] at hrun
      rw [hrun]
    · simp only [List.map_append, IntervalList.size_append, List.map_cons,
        IntervalList.size_cons] at hgone hgone₂ ⊢
      omega

/-- Without a node reaching past the range, the search from the right does not stop before
the one from the left. -/
theorem remove_bounds (h : Rep gsl (p ++ (m ++ q))) (hp : ∀ c ∈ p, c.start < s)
    (hm : ∀ c ∈ m, s ≤ c.start) (hs : 1 ≤ s) :
    ∃ ln rn, gsl.nodes.get ((levelCells 0 p).getLastD gsl.header) = some ln ∧
      gsl.nodes.get ((levelCells 0 (p ++ m)).getLastD gsl.header) = some rn ∧
      ln.start ≤ rn.end := by
  obtain ⟨ln, hln, hlb⟩ : ∃ ln, gsl.nodes.get ((levelCells 0 p).getLastD gsl.header) = some ln ∧
      ln.start ≤ ln.end ∧ ln.start < s := by
    rcases List.eq_nil_or_concat p with rfl | ⟨p, c, rfl⟩
    · obtain ⟨n, hn, hns, hne⟩ := h.toShape.get_header
      exact ⟨n, hn, by omega, by omega⟩
    · rw [List.concat_eq_append] at *
      obtain ⟨n, hn, hns, hne⟩ := h.toShape.get_cell
      rw [h.toShape.last_zero]
      have h₁ := h.start_le_end (c := c) (by simp)
      have h₂ := hp c (by simp)
      exact ⟨n, hn, by omega, by omega⟩
  rcases List.eq_nil_or_concat m with rfl | ⟨m, d, rfl⟩
  · exact ⟨ln, ln, hln, by rw [List.append_nil]; exact hln, hlb.1⟩
  · rw [List.concat_eq_append] at *
    have hassoc : Shape gsl (((p ++ m) ++ [d]) ++ q) := by simpa using h.toShape
    obtain ⟨n, hn, hns, hne⟩ := hassoc.get_cell
    have h₁ := h.start_le_end (c := d) (by simp)
    have h₂ := hm d (by simp)
    refine ⟨ln, n, hln, ?_, by omega⟩
    rw [← List.append_assoc, hassoc.last_zero]
    exact hn

/-- **Remove is erasure.**  On a well-formed list, removing a valid range succeeds, erases
it, and returns how much the set shrank. -/
theorem gtidIntervalSkipListRemove_rep (h : Rep gsl cells) (hs : 1 ≤ s) (hse : s ≤ e)
    (rand : Rand) :
    ∃ r, gtidIntervalSkipListRemove gsl s e rand = some r ∧
      Shrunk (cells.map Cell.interval) (IntervalList.erase s e (cells.map Cell.interval)) r := by
  have hvalid : gtidIntervalIsValid s e = true := gtidIntervalIsValid_iff.mpr ⟨hs, hse⟩
  -- the cells starting before the range, then those ending within it
  obtain ⟨p, t, rfl, hp, ht⟩ := exists_split (t := fun c : Cell => c.start < s)
    (h.pairwise.imp_of_mem (fun {a b} ha hbm hab hlt => by
      have := h.start_le_end ha
      omega))
  have hlefts : ∀ i < gsl.level, predecessors gsl (fun n => n.start < s) i =
      (levelCells i p).getLastD gsl.header := by
    refine fun i hi => h.toShape.predecessors_eq ?_ ?_ hi
    · intro c hc n hns _
      rw [hns]
      simpa using hp c hc
    · intro c hc n hns _
      rw [hns]
      simpa using ht c hc
  have hpair := List.pairwise_append.mp h.pairwise
  by_cases hin : ∀ c ∈ p, c.end ≤ e
  · obtain ⟨m, q, rfl, hm, hq⟩ := exists_split (t := fun c : Cell => c.end ≤ e)
      (hpair.2.1.imp_of_mem (fun {a b} ha hbm hab hlt => by
        have := h.start_le_end (List.mem_append_right p hbm)
        omega))
    have hassoc : Shape gsl ((p ++ m) ++ q) := by
      rw [List.append_assoc]
      exact h.toShape
    have hrights : ∀ i < gsl.level, predecessors gsl (fun n => n.end ≤ e) i =
        (levelCells i (p ++ m)).getLastD gsl.header := by
      refine fun i hi => hassoc.predecessors_eq ?_ ?_ hi
      · intro c hc n _ hne
        rw [hne, decide_eq_true_eq]
        exact (List.mem_append.mp hc).elim (hin c) (hm c)
      · intro c hc n _ hne
        rw [hne]
        simpa using hq c hc
    obtain ⟨ln, rn, hln, hrn, hlr⟩ := remove_bounds h (fun c hc => hp c hc)
      (fun c hc => Int.not_lt.mp (ht c (List.mem_append_left q hc))) hs
    have hcut := remove_cut h hs hse (fun c hc => ⟨hp c hc, hin c hc⟩)
      (fun c hc => ⟨Int.not_lt.mp (ht c (List.mem_append_left q hc)), hm c hc⟩)
      (fun c hc => ⟨Int.not_lt.mp (ht c (List.mem_append_right m hc)), Int.not_le.mp (hq c hc)⟩)
      hlefts hrights
    rw [← hlefts 0 h.toShape.zero_lt_level] at hln
    rw [← hrights 0 h.toShape.zero_lt_level] at hrn
    simp only [gtidIntervalSkipListRemove, hvalid, guard, if_true, hln, hrn, Option.pure_def,
      Option.bind_eq_bind, Option.bind_some]
    rw [if_neg (Int.not_lt.mpr hlr)]
    exact hcut
  · -- one node reaches past the range: the last one starting before it
    obtain ⟨p, c, rfl⟩ := (List.eq_nil_or_concat p).resolve_left (fun hnil => hin (by simp [hnil]))
    rw [List.concat_eq_append] at *
    have hcs := hp c (by simp)
    have hcross : ∀ d ∈ p, d.end < s := fun d hd => by
      have := (List.pairwise_append.mp hpair.1).2.2 d hd c (by simp)
      omega
    have hce : e < c.end := by
      by_contra hle
      refine hin (fun d hd => ?_)
      rcases List.mem_append.mp hd with hd | hd
      · have := hcross d hd
        omega
      · rw [List.mem_singleton] at hd
        subst hd
        omega
    have hassoc : Shape gsl (p ++ c :: t) := by simpa using h.toShape
    have hrights : ∀ i < gsl.level, predecessors gsl (fun n => n.end ≤ e) i =
        (levelCells i p).getLastD gsl.header := by
      refine fun i hi => hassoc.predecessors_eq ?_ ?_ hi
      · intro d hd n _ hne
        have := hcross d hd
        rw [hne, decide_eq_true_eq]
        omega
      · intro d hd n _ hne
        rw [hne, decide_eq_false_iff_not]
        rcases List.mem_cons.mp hd with rfl | hd
        · omega
        · have := hpair.2.2 c (by simp) d hd
          have := h.start_le_end (c := d) (by simp [hd])
          omega
    obtain ⟨ln, hln, hls, hle⟩ := h.toShape.get_cell
    obtain ⟨rn, hrn, hrb⟩ : ∃ n, gsl.nodes.get ((levelCells 0 p).getLastD gsl.header) = some n ∧
        n.end < c.start := by
      rcases List.eq_nil_or_concat p with rfl | ⟨p, d, rfl⟩
      · obtain ⟨n, hn, -, hne⟩ := h.toShape.get_header
        have := h.bounds (c := c) (by simp)
        exact ⟨n, hn, by omega⟩
      · rw [List.concat_eq_append] at *
        obtain ⟨n, hn, -, hne⟩ := hassoc.get_cell
        have := (List.pairwise_append.mp hpair.1).2.2 d (by simp) c (by simp)
        refine ⟨n, ?_, by omega⟩
        rw [hassoc.last_zero]
        exact hn
    have hl : predecessors gsl (fun n => n.start < s) 0 = c.addr := by
      rw [hlefts 0 h.toShape.zero_lt_level, h.toShape.last_zero]
    rw [← hrights 0 h.toShape.zero_lt_level] at hrn
    rw [← hl] at hln
    have hsplit := remove_split (show Rep gsl (p ++ c :: t) by simpa using h) hcs hse hce hl
      hlefts rand
    simp only [gtidIntervalSkipListRemove, hvalid, guard, if_true, hln, hrn, Option.pure_def,
      Option.bind_eq_bind, Option.bind_some]
    rw [if_pos (by omega), hle]
    refine ⟨_, rfl, ?_⟩
    rw [List.append_assoc, List.singleton_append]
    exact hsplit

end Remove

end XredisGtid
