import XredisGtid.SkipListRep

/-!
# Copying a skip list

`gtidIntervalSkipListDup` walks the level-0 chain and appends a copy of every node,
keeping in `leads` the last copied node of each level.  The copy represents cells
with the levels and intervals of the original, at addresses of its own.
-/
namespace XredisGtid
open Memory

/-- What a copy keeps of a cell. -/
def Cell.content (c : Cell) : Nat × Int × Int := (c.level, c.start, c.end)

section Dup
variable {nodes src : Arena GtidIntervalNode} {z : Cell} {p l : List Cell}

/-- **A node linked behind the last node of every level it reaches is appended.** -/
theorem Linked.append_cell {x : Cell} {f : Nat → Addr} (hl : Linked nodes (z :: p))
    (hx : Stores nodes x) (hxl : x.level ≤ z.level) (hlv : ∀ c ∈ p, c.level ≤ z.level)
    (hnull : ∀ i < x.level, forward nodes i x.addr = none)
    (hnd : ((z :: p ++ [x]).map Cell.addr).Nodup)
    (hleads : ∀ i < x.level, f i = (levelCells i p).getLastD z.addr) :
    Linked (relink f (fun _ _ => some x.addr) (List.range x.level) nodes)
      (z :: p ++ [x]) := by
  rw [List.map_append, List.nodup_append] at hnd
  obtain ⟨hndp, -, hne⟩ := hnd
  have hl' : Linked nodes ((z :: p) ++ []) := by simpa using hl
  have hpred : ∀ i < x.level, ∃ d ∈ z :: p, Stores nodes d ∧ d.addr = f i ∧
      i < d.level := by
    intro i hi
    rw [hleads i hi]
    exact hl'.exists_pred (Nat.lt_of_lt_of_le hi hxl)
  have hpx : ∀ d ∈ z :: p, d.addr ≠ x.addr := fun d hd =>
    hne _ (List.mem_map_of_mem hd) _ (by simp)
  have hfw := forward_relink (v := fun _ _ => some x.addr) (f := f)
    (fun _ _ _ _ => rfl) (k := List.range x.level) List.nodup_range (fun i hi => by
      obtain ⟨d, -, hd⟩ := hpred i (List.mem_range.mp hi)
      exact ⟨d, hd⟩)
  simp only [List.mem_range] at hfw
  have hq : Linked (relink f (fun _ _ => some x.addr) (List.range x.level) nodes) [x] := by
    refine linked_cons.mpr ⟨stores_relink.mpr hx, ?_, trivial⟩
    intro i hi
    rw [hfw, if_neg, hnull i hi]
    · rfl
    · rintro ⟨-, hxi⟩
      obtain ⟨d, hd, -, hda, -⟩ := hpred i hi
      exact hpx d hd (hda.trans hxi.symm)
  refine hl'.splice_pred hq hndp hlv (fun c hc => stores_relink.mpr (hl.stores hc)) ?_
  intro c hc i hi
  rw [hfw]
  by_cases hix : i < x.level
  · rw [← hleads i hix, levelCells_cons_of_lt hix, levelCells_nil, List.head?_cons]
    simp only [hix, true_and]
  · have hih : i < z.level := by
      rcases List.mem_cons.mp hc with rfl | hc
      · exact hi
      · exact Nat.lt_of_lt_of_le hi (hlv c hc)
    rw [if_neg (fun h => hix h.1), levelCells_cons_of_le (Nat.le_of_not_lt hix), levelCells_nil]
    split
    · rename_i hca
      rw [hca, hl'.forward_pred hih, levelCells_nil]
    · rfl

/-- A new node's pointers are all `NULL`. -/
theorem forward_alloc_new (level : Nat) (s e : Int) (i : Nat) :
    forward (nodes.alloc (gtidIntervalNodeNew level s e)) i nodes.fresh = none := by
  rw [forward_of_get (Arena.get_alloc_fresh _ _)]
  simp only [gtidIntervalNodeNew, List.getElem?_replicate]
  split <;> rfl

/-- The copying loop, with the cells `p` copied so far and `l` still to copy. -/
theorem dupNodes_eq (hs : Linked src l)
    (hlevels : ∀ c ∈ l, 1 ≤ c.level ∧ c.level ≤ z.level) {fuel : Nat} (hfuel : l.length ≤ fuel)
    (f : Nat → Addr) (hl : Linked nodes (z :: p)) (hlv : ∀ c ∈ p, c.level ≤ z.level)
    (hnd : ((z :: p).map Cell.addr).Nodup)
    (hleads : ∀ i < z.level, f i = (levelCells i p).getLastD z.addr) :
    ∃ nodes' q, dupNodes src fuel (l.map Cell.addr).head? f
        ((p.map Cell.addr).getLastD z.addr) nodes =
          (nodes', ((p ++ q).map Cell.addr).getLastD z.addr) ∧
      Linked nodes' (z :: (p ++ q)) ∧ ((z :: (p ++ q)).map Cell.addr).Nodup ∧
      q.map Cell.content = l.map Cell.content := by
  induction l generalizing p nodes f fuel with
  | nil =>
    refine ⟨nodes, [], ?_, by simpa using hl, by simpa using hnd, rfl⟩
    rw [List.append_nil]
    cases fuel <;> rfl
  | cons c l ih =>
    obtain ⟨fuel, rfl⟩ := Nat.exists_eq_succ_of_ne_zero
      (by simp at hfuel; omega : fuel ≠ 0)
    obtain ⟨n, hn, hnl, hns, hne, -⟩ := hs.1
    have hcl := hlevels c (by simp)
    -- the copy
    set x : Cell := ⟨nodes.fresh, c.level, c.start, c.end⟩ with hx
    have hlt : ∀ d ∈ z :: p, d.addr ≠ nodes.fresh := fun d hd =>
      Nat.ne_of_lt (hl.stores hd).lt_size
    have hl₁ : Linked (nodes.alloc (gtidIntervalNodeNew c.level c.start c.end)) (z :: p) :=
      hl.congr (fun d hd => Arena.get_alloc_of_ne _ (hlt d hd))
    have hnd₁ : ((z :: (p ++ [x])).map Cell.addr).Nodup := by
      rw [← List.cons_append, List.map_append]
      refine List.nodup_append.mpr ⟨hnd, by simp, ?_⟩
      intro a ha b hb
      obtain ⟨d, hd, rfl⟩ := List.mem_map.mp ha
      simp only [List.map_cons, List.map_nil, List.mem_singleton] at hb
      rw [hb]
      exact hlt d hd
    have hl₂ := hl₁.append_cell (x := x) (f := f)
      ⟨_, Arena.get_alloc_fresh _ _, rfl, rfl, rfl, by simp [gtidIntervalNodeNew, hx]⟩ hcl.2 hlv
      (fun i _ => forward_alloc_new _ _ _ i) hnd₁
      (fun i hi => hleads i (Nat.lt_of_lt_of_le hi hcl.2))
    have hnext : forward src 0 c.addr = (l.map Cell.addr).head? := by
      rw [hs.2.1 0 hcl.1, levelCells_zero (fun d hd => (hlevels d (by simp [hd])).1)]
    obtain ⟨nodes', q, hrun, hlq, hndq, hcq⟩ := ih hs.2.2 (fun d hd => hlevels d (by simp [hd]))
      (by simpa using hfuel) (p := p ++ [x]) (fun i => if i < c.level then x.addr else f i)
      hl₂ (by
        intro d hd
        rcases List.mem_append.mp hd with hd | hd
        · exact hlv d hd
        · rw [List.mem_singleton] at hd
          exact hd ▸ hcl.2) hnd₁ (by
        intro i hi
        rw [levelCells_append]
        split
        · rename_i hic
          rw [levelCells_cons_of_lt (show i < x.level from hic), levelCells_nil,
            List.getLastD_concat]
        · rename_i hic
          rw [levelCells_cons_of_le (show x.level ≤ i from Nat.le_of_not_lt hic), levelCells_nil,
            List.append_nil, hleads i hi])
    refine ⟨nodes', x :: q, ?_, by simpa using hlq, by simpa using hndq, ?_⟩
    · rw [List.map_append, List.map_singleton, List.getLastD_concat] at hrun
      simp only [List.map_cons, List.head?_cons, dupNodes, hn, hnext, hnl, hns, hne]
      rw [show p ++ x :: q = p ++ [x] ++ q by simp]
      exact hrun
    · rw [List.map_cons, List.map_cons, hcq]
      rfl

end Dup

theorem topLevel_of_content {l q : List Cell} (h : q.map Cell.content = l.map Cell.content) :
    topLevel q = topLevel l := by
  have hlevel : ∀ r : List Cell, r.map Cell.level = (r.map Cell.content).map Prod.fst := fun r => by
    rw [List.map_map]
    rfl
  rw [topLevel, topLevel, hlevel, hlevel, h]

/-- **A copy represents the same intervals at the same levels.** -/
theorem gtidIntervalSkipListDup_rep {gsl : GtidIntervalSkipList} {cells : List Cell}
    (h : Rep gsl cells) :
    ∃ cells', Rep (gtidIntervalSkipListDup gsl) cells' ∧
      cells'.map Cell.interval = cells.map Cell.interval := by
  have hnew := gtidIntervalSkipListNew_rep.toShape
  have hfuel : cells.length ≤ gsl.nodes.size := by
    have := h.toShape.length_le
    omega
  obtain ⟨nodes', q, hrun, hl, hnd, hq⟩ := dupNodes_eq (p := [])
    (z := headerCell gtidIntervalSkipListNew) h.linked.2.2 h.levels hfuel
    (fun _ => gtidIntervalSkipListNew.header) hnew.linked (by simp) hnew.nodup (fun _ _ => rfl)
  have hcur : forward gsl.nodes 0 gsl.header = (cells.map Cell.addr).head? :=
    h.toShape.chain_zero.head
  rw [← hcur] at hrun
  simp only [List.map_nil, List.getLastD_nil, List.nil_append] at hrun hl hnd
  change dupNodes _ _ _ _ gtidIntervalSkipListNew.header _ = _ at hrun
  have hdup : gtidIntervalSkipListDup gsl =
      { header := gtidIntervalSkipListNew.header
        tail := (q.map Cell.addr).getLastD gtidIntervalSkipListNew.header
        nodeCount := gsl.nodeCount
        gnoCount := gsl.gnoCount
        level := gsl.level
        nodes := nodes' } := by
    simp only [gtidIntervalSkipListDup]
    rw [hrun]
    rfl
  have hint : q.map Cell.interval = cells.map Cell.interval := by
    have hinterval : ∀ r : List Cell, r.map Cell.interval = (r.map Cell.content).map Prod.snd :=
      fun r => by
        rw [List.map_map]
        rfl
    rw [hinterval, hinterval, hq]
  refine ⟨q, ⟨⟨?_, ?_, ?_, ?_, ?_, ?_⟩, ?_, ?_⟩, hint⟩
  · rw [hdup]
    exact hl
  · rw [hdup]
    exact hnd
  · intro c hc
    obtain ⟨d, hd, hcd⟩ := List.mem_map.mp (hq ▸ List.mem_map_of_mem (f := Cell.content) hc)
    have hlevel : d.level = c.level := congrArg Prod.fst hcd
    rw [← hlevel]
    exact h.levels d hd
  · rw [topLevel_of_content hq, ← h.level, hdup]
  · rw [hdup]
  · rw [hdup]
    have hlen : q.length = cells.length := by
      have := congrArg List.length hq
      simpa using this
    rw [hlen]
    exact h.nodeCount
  · rw [hint]
    exact h.gnos
  · rw [hint, hdup]
    exact h.gnoCount

end XredisGtid
