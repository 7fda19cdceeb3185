import XredisGtid.SkipListOps

/-!
# What holds of every interval skip list

`SkipListInvariant` says in pointers what a well-formed list is.  A run works on
several lists, named by their positions, since `Merge` and `Diff` read a second
list; `SkipListReachable` is every state such a run leads to.  Every list of a
reachable state satisfies the invariant, and no valid operation fails in it.

A list that is well formed and whose gnos stay below `LLONG_MAX` is `Regular`.  On
regular lists the operations are those of finite sets of integers (`gnoSet`).
-/
namespace XredisGtid
open Memory

/-- The representation invariant in terms of the nodes of the level-0 chain, `l`. -/
structure SkipListInvariant (gsl : GtidIntervalSkipList)
    (l : List (Addr × GtidIntervalNode)) : Prop where
  /-- `l` is the level-0 chain with the nodes stored there -/
  stored : ∀ x ∈ l, gsl.nodes.get x.1 = some x.2
  /-- intervals are in order and neither overlap nor touch -/
  ordered : l.Pairwise (fun x y => x.2.end + 1 < y.2.start)
  valid : ∀ x ∈ l, 1 ≤ x.2.start ∧ x.2.start ≤ x.2.end
  /-- on level `i` the pointers run through the nodes of a greater level -/
  chain : ∀ i < GTID_INTERVAL_SKIPLIST_MAXLEVEL,
    Chain (forward gsl.nodes i) (forward gsl.nodes i gsl.header)
      ((l.filter (fun x => i < x.2.level)).map Prod.fst)
  levels : ∀ x ∈ l, 1 ≤ x.2.level ∧ x.2.level ≤ GTID_INTERVAL_SKIPLIST_MAXLEVEL
  header : ∃ n, gsl.nodes.get gsl.header = some n ∧ n.start = 0 ∧ n.end = 0
  tail : gsl.tail = (l.map Prod.fst).getLastD gsl.header
  nodeCount : gsl.nodeCount = l.length + 1
  gnoCount : gsl.gnoCount = (l.map (fun x => x.2.end - x.2.start + 1)).sum
  level : gsl.level = (l.map (fun x => x.2.level)).foldr max 1

section Invariant
variable {gsl : GtidIntervalSkipList} {cells : List Cell}

/-- The nodes stored for linked cells, paired with their addresses. -/
theorem exists_nodes {nodes : Arena GtidIntervalNode} (h : ∀ c ∈ cells, Stores nodes c) :
    ∃ l : List (Addr × GtidIntervalNode),
      l.map (fun x => (⟨x.1, x.2.level, x.2.start, x.2.end⟩ : Cell)) = cells ∧
      ∀ x ∈ l, nodes.get x.1 = some x.2 := by
  induction cells with
  | nil => exact ⟨[], rfl, by simp⟩
  | cons c cells ih =>
    obtain ⟨l, rfl, hl⟩ := ih (fun d hd => h d (by simp [hd]))
    obtain ⟨n, hn, hlv, hs, he, -⟩ := h c (by simp)
    refine ⟨(c.addr, n) :: l, ?_, ?_⟩
    · simp only [List.map_cons, hlv, hs, he]
    · intro x hx
      rcases List.mem_cons.mp hx with rfl | hx
      · exact hn
      · exact hl x hx

theorem Rep.invariant (h : Rep gsl cells) : ∃ l, SkipListInvariant gsl l := by
  obtain ⟨l, rfl, hl⟩ := exists_nodes (fun c hc => h.linked.2.2.stores hc)
  refine ⟨l, hl, List.pairwise_map.mp h.pairwise, ?_, ?_, ?_, h.toShape.get_header, ?_, ?_, ?_, ?_⟩
  · intro x hx
    have hc := List.mem_map_of_mem
      (f := fun x : Addr × GtidIntervalNode => (⟨x.1, x.2.level, x.2.start, x.2.end⟩ : Cell)) hx
    exact ⟨(h.bounds hc).1, h.start_le_end hc⟩
  · intro i hi
    have hchain := Linked.chain_from (p := []) h.linked (i := i) hi
    rw [levelCells, List.filter_map, List.map_map] at hchain
    exact hchain
  · intro x hx
    exact h.levels _ (List.mem_map_of_mem
      (f := fun x : Addr × GtidIntervalNode => (⟨x.1, x.2.level, x.2.start, x.2.end⟩ : Cell)) hx)
  · rw [h.tail, List.map_map]
    rfl
  · rw [h.nodeCount, List.length_map]
  · rw [h.gnoCount, IntervalList.size, List.map_map, List.map_map]
    rfl
  · rw [h.level, topLevel, List.map_map]
    rfl

end Invariant

/-! ## Runs -/

/-- A well-formed list whose gnos can all be incremented. -/
structure Regular (gsl : GtidIntervalSkipList) : Prop where
  wf : WF gsl
  below : Below (intervals gsl)

inductive SkipListOp where
  | new
  | add (i : Nat) (start «end» : Int)
  | remove (i : Nat) (start «end» : Int)
  | merge (dst src : Nat)
  | diff (dst src : Nat)
  | next (i : Nat)
  | dup (i : Nat)

/-- The lists named exist, the ranges are valid and all gnos stay below `LLONG_MAX`. -/
def SkipListOp.Valid (lists : List GtidIntervalSkipList) : SkipListOp → Prop
  | .new => True
  | .add i start «end» | .remove i start «end» =>
    i < lists.length ∧ 1 ≤ start ∧ start ≤ «end» ∧ «end» < LLONG_MAX
  | .merge dst src | .diff dst src => dst < lists.length ∧ src < lists.length
  | .next i => ∃ gsl, lists[i]? = some gsl ∧
      IntervalList.top (intervals gsl) + 1 < LLONG_MAX
  | .dup i => i < lists.length

def SkipListOp.step (lists : List GtidIntervalSkipList) (rand : Rand) :
    SkipListOp → Option (List GtidIntervalSkipList)
  | .new => some (lists ++ [gtidIntervalSkipListNew])
  | .add i start «end» => do
    let (gsl, _) ← gtidIntervalSkipListAdd (← lists[i]?) start «end» rand
    some (lists.set i gsl)
  | .remove i start «end» => do
    let (gsl, _) ← gtidIntervalSkipListRemove (← lists[i]?) start «end» rand
    some (lists.set i gsl)
  | .merge dst src => do
    let (gsl, _) ← gtidIntervalSkipListMerge (← lists[dst]?) (← lists[src]?) rand
    some (lists.set dst gsl)
  | .diff dst src => do
    let (gsl, _) ← gtidIntervalSkipListDiff (← lists[dst]?) (← lists[src]?) rand
    some (lists.set dst gsl)
  | .next i => do
    let (gsl, _) ← gtidIntervalSkipListNext (← lists[i]?) true rand
    some (lists.set i gsl)
  | .dup i => do
    some (lists ++ [gtidIntervalSkipListDup (← lists[i]?)])

/-- The states of the lists after any sequence of valid operations. -/
inductive SkipListReachable : List GtidIntervalSkipList → Prop
  | init : SkipListReachable []
  | step {lists lists' : List GtidIntervalSkipList} (op : SkipListOp) (rand : Rand) :
      SkipListReachable lists → op.Valid lists → op.step lists rand = some lists' →
      SkipListReachable lists'

section Regular
variable {gsl dst src : GtidIntervalSkipList} {s e : Int}

/-- The finite set of gnos a list stands for. -/
noncomputable def gnoSet (gsl : GtidIntervalSkipList) : Finset Int := IntervalList.points (intervals gsl)

theorem regular_new : Regular gtidIntervalSkipListNew :=
  ⟨gtidIntervalSkipListNew_spec.1, by rw [gtidIntervalSkipListNew_spec.2]; simp [Below]⟩

theorem Regular.dup (h : Regular gsl) : Regular (gtidIntervalSkipListDup gsl) := by
  obtain ⟨hwf, hint⟩ := gtidIntervalSkipListDup_spec h.wf
  exact ⟨hwf, hint ▸ h.below⟩

theorem Below.union {l m : List (Int × Int)} (h : Below l) (hm : Below m) :
    Below (IntervalList.union l m) := by
  induction m generalizing l with
  | nil => exact h
  | cons i m ih => exact ih (h.insert (hm i (by simp))) (fun j hj => hm j (by simp [hj]))

theorem Below.diff {l m : List (Int × Int)} (h : Below l) (hl : IntervalList.Canonical l)
    (hm : ∀ i ∈ m, i.1 ≤ i.2) : Below (IntervalList.diff l m) := by
  induction m generalizing l with
  | nil => exact h
  | cons i m ih =>
    exact ih (h.erase hl.nonempty) (hl.erase (hm i (by simp))) (fun j hj => hm j (by simp [hj]))

theorem add_regular (h : Regular gsl) (hs : 1 ≤ s) (hse : s ≤ e) (he : e < LLONG_MAX)
    (rand : Rand) :
    ∃ gsl', gtidIntervalSkipListAdd gsl s e rand =
        some (gsl', ((Finset.Icc s e \ gnoSet gsl).card : Int)) ∧
      Regular gsl' ∧ gnoSet gsl' = gnoSet gsl ∪ Finset.Icc s e := by
  obtain ⟨gsl', hadd, hwf, hint⟩ := gtidIntervalSkipListAdd_spec h.wf h.below hs hse he rand
  have hset : gnoSet gsl' = gnoSet gsl ∪ Finset.Icc s e := by
    rw [gnoSet, hint, IntervalList.points_insert hse h.wf.canonical.nonempty]
    rfl
  refine ⟨gsl', ?_, ⟨hwf, hint ▸ h.below.insert he⟩, hset⟩
  have hsub : gnoSet gsl ⊆ gnoSet gsl' := by
    rw [hset]
    exact Finset.subset_union_left
  rw [hadd, IntervalList.size_sub_eq_card h.wf.canonical hwf.canonical hsub]
  change some (gsl', (((gnoSet gsl') \ gnoSet gsl).card : Int)) = _
  rw [hset, Finset.union_sdiff_left]

theorem remove_regular (h : Regular gsl) (hs : 1 ≤ s) (hse : s ≤ e) (rand : Rand) :
    ∃ gsl', gtidIntervalSkipListRemove gsl s e rand =
        some (gsl', ((gnoSet gsl ∩ Finset.Icc s e).card : Int)) ∧
      Regular gsl' ∧ gnoSet gsl' = gnoSet gsl \ Finset.Icc s e := by
  obtain ⟨gsl', hremove, hwf, hint⟩ := gtidIntervalSkipListRemove_spec h.wf hs hse rand
  have hset : gnoSet gsl' = gnoSet gsl \ Finset.Icc s e := by
    rw [gnoSet, hint, IntervalList.points_erase hse]
    rfl
  refine ⟨gsl', ?_, ⟨hwf, hint ▸ h.below.erase h.wf.canonical.nonempty⟩, hset⟩
  have hsub : gnoSet gsl' ⊆ gnoSet gsl := by
    rw [hset]
    exact Finset.sdiff_subset
  rw [hremove, IntervalList.size_sub_eq_card hwf.canonical h.wf.canonical hsub]
  change some (gsl', ((gnoSet gsl \ gnoSet gsl').card : Int)) = _
  rw [hset, Finset.sdiff_sdiff_self_left]

theorem merge_regular (h : Regular dst) (hs : Regular src) (rand : Rand) :
    ∃ dst', gtidIntervalSkipListMerge dst src rand =
        some (dst', ((gnoSet src \ gnoSet dst).card : Int)) ∧
      Regular dst' ∧ gnoSet dst' = gnoSet dst ∪ gnoSet src := by
  obtain ⟨dst', hmerge, hwf, hint⟩ :=
    gtidIntervalSkipListMerge_spec h.wf hs.wf (h.below.fitsOnto hs.below) rand
  have hset : gnoSet dst' = gnoSet dst ∪ gnoSet src := by
    rw [gnoSet, hint, IntervalList.points_union h.wf.canonical hs.wf.canonical.nonempty]
    rfl
  refine ⟨dst', ?_, ⟨hwf, hint ▸ h.below.union hs.below⟩, hset⟩
  have hsub : gnoSet dst ⊆ gnoSet dst' := by
    rw [hset]
    exact Finset.subset_union_left
  rw [hmerge, IntervalList.size_sub_eq_card h.wf.canonical hwf.canonical hsub]
  change some (dst', ((gnoSet dst' \ gnoSet dst).card : Int)) = _
  rw [hset, Finset.union_sdiff_left]

theorem diff_regular (h : Regular dst) (hs : WF src) (rand : Rand) :
    ∃ dst', gtidIntervalSkipListDiff dst src rand =
        some (dst', ((gnoSet dst ∩ gnoSet src).card : Int)) ∧
      Regular dst' ∧ gnoSet dst' = gnoSet dst \ gnoSet src := by
  obtain ⟨dst', hdiff, hwf, hint⟩ := gtidIntervalSkipListDiff_spec h.wf hs rand
  have hset : gnoSet dst' = gnoSet dst \ gnoSet src := by
    rw [gnoSet, hint, IntervalList.points_diff hs.canonical.nonempty]
    rfl
  refine ⟨dst', ?_, ⟨hwf, hint ▸ h.below.diff h.wf.canonical hs.canonical.nonempty⟩, hset⟩
  have hsub : gnoSet dst' ⊆ gnoSet dst := by
    rw [hset]
    exact Finset.sdiff_subset
  rw [hdiff, IntervalList.size_sub_eq_card hwf.canonical h.wf.canonical hsub]
  change some (dst', ((gnoSet dst \ gnoSet dst').card : Int)) = _
  rw [hset, Finset.sdiff_sdiff_self_left]

theorem top_eq_maxD_gnoSet (h : WF gsl) :
    IntervalList.top (intervals gsl) = IntervalList.maxD (gnoSet gsl) :=
  IntervalList.top_eq_maxD h.canonical

theorem next_regular (h : Regular gsl) (hmax : IntervalList.maxD (gnoSet gsl) + 1 < LLONG_MAX)
    (rand : Rand) :
    ∃ gsl', gtidIntervalSkipListNext gsl true rand =
        some (gsl', IntervalList.maxD (gnoSet gsl) + 1) ∧
      Regular gsl' ∧
      gnoSet gsl' = gnoSet gsl ∪ {IntervalList.maxD (gnoSet gsl) + 1} := by
  rw [← top_eq_maxD_gnoSet h.wf] at hmax ⊢
  obtain ⟨gsl', hnext, hwf, hint⟩ :=
    gtidIntervalSkipListNext_update_spec h.wf h.below hmax rand
  refine ⟨gsl', hnext, ⟨hwf, hint ▸ h.below.insert hmax⟩, ?_⟩
  rw [gnoSet, hint, IntervalList.points_insert (le_refl _) h.wf.canonical.nonempty,
    Finset.Icc_self]
  rfl

end Regular

section Run
variable {lists : List GtidIntervalSkipList}

theorem forall_mem_set {P : GtidIntervalSkipList → Prop} {i : Nat} {x : GtidIntervalSkipList}
    (h : ∀ gsl ∈ lists, P gsl) (hx : P x) : ∀ gsl ∈ lists.set i x, P gsl := by
  intro gsl hgsl
  rcases List.mem_or_eq_of_mem_set hgsl with hm | rfl
  · exact h gsl hm
  · exact hx

theorem forall_mem_concat {P : GtidIntervalSkipList → Prop} {x : GtidIntervalSkipList}
    (h : ∀ gsl ∈ lists, P gsl) (hx : P x) : ∀ gsl ∈ lists ++ [x], P gsl := by
  intro gsl hgsl
  rcases List.mem_append.mp hgsl with hm | hm
  · exact h gsl hm
  · rw [List.mem_singleton] at hm
    exact hm ▸ hx

/-- **One step.**  A valid operation on regular lists succeeds and leaves regular lists. -/
theorem SkipListOp.step_regular {op : SkipListOp} (h : ∀ gsl ∈ lists, Regular gsl)
    (hv : op.Valid lists) (rand : Rand) :
    ∃ lists', op.step lists rand = some lists' ∧ ∀ gsl ∈ lists', Regular gsl := by
  have get : ∀ i < lists.length, ∃ gsl, lists[i]? = some gsl ∧ Regular gsl := fun i hi =>
    ⟨lists[i], List.getElem?_eq_getElem hi, h _ (List.getElem_mem hi)⟩
  cases op with
  | new => exact ⟨_, rfl, forall_mem_concat h regular_new⟩
  | add i s e =>
    obtain ⟨hi, hs, hse, he⟩ := hv
    obtain ⟨gsl, hget, hr⟩ := get i hi
    obtain ⟨gsl', hadd, hr', -⟩ := add_regular hr hs hse he rand
    exact ⟨lists.set i gsl', by simp [step, hget, hadd], forall_mem_set h hr'⟩
  | remove i s e =>
    obtain ⟨hi, hs, hse, he⟩ := hv
    obtain ⟨gsl, hget, hr⟩ := get i hi
    obtain ⟨gsl', hremove, hr', -⟩ := remove_regular hr hs hse rand
    exact ⟨lists.set i gsl', by simp [step, hget, hremove], forall_mem_set h hr'⟩
  | merge i j =>
    obtain ⟨gsl, hget, hr⟩ := get i hv.1
    obtain ⟨src, hsrc, hrs⟩ := get j hv.2
    obtain ⟨gsl', hmerge, hr', -⟩ := merge_regular hr hrs rand
    exact ⟨lists.set i gsl', by simp [step, hget, hsrc, hmerge], forall_mem_set h hr'⟩
  | diff i j =>
    obtain ⟨gsl, hget, hr⟩ := get i hv.1
    obtain ⟨src, hsrc, hrs⟩ := get j hv.2
    obtain ⟨gsl', hdiff, hr', -⟩ := diff_regular hr hrs.wf rand
    exact ⟨lists.set i gsl', by simp [step, hget, hsrc, hdiff], forall_mem_set h hr'⟩
  | next i =>
    obtain ⟨gsl, hget, htop⟩ := hv
    have hr := h gsl (List.mem_of_getElem? hget)
    obtain ⟨gsl', hnext, hr', -⟩ := next_regular hr (top_eq_maxD_gnoSet hr.wf ▸ htop) rand
    exact ⟨lists.set i gsl', by simp [step, hget, hnext], forall_mem_set h hr'⟩
  | dup i =>
    obtain ⟨gsl, hget, hr⟩ := get i hv
    exact ⟨lists ++ [gtidIntervalSkipListDup gsl], by simp [step, hget],
      forall_mem_concat h hr.dup⟩

theorem SkipListReachable.regular (h : SkipListReachable lists) :
    ∀ gsl ∈ lists, Regular gsl := by
  induction h with
  | init => simp
  | step op rand _ hv hstep ih =>
    obtain ⟨lists', hstep', hr⟩ := SkipListOp.step_regular ih hv rand
    rw [hstep] at hstep'
    exact Option.some.inj hstep' ▸ hr

/-- **The representation invariant holds in every run**, whatever levels are drawn, and no
valid operation fails. -/
theorem reachable_lists_invariant (h : SkipListReachable lists) :
    (∀ gsl ∈ lists, ∃ l, SkipListInvariant gsl l) ∧
      ∀ op rand, SkipListOp.Valid lists op → ∃ lists', op.step lists rand = some lists' := by
  constructor
  · intro gsl hgsl
    obtain ⟨cells, hr⟩ := (h.regular gsl hgsl).wf
    exact hr.invariant
  · intro op rand hv
    obtain ⟨lists', hstep, -⟩ := SkipListOp.step_regular h.regular hv rand
    exact ⟨lists', hstep⟩

/-- Of the list `1-10` the middle is removed and a copy is taken before `Next` adds 11; then
the copy is subtracted. -/
theorem reachable_lists_invariant_split :
    ∃ lists, SkipListReachable lists ∧
      lists.map intervals = [[(1, 3), (7, 11)], [(1, 3), (7, 10)]] ∧
      (∀ gsl ∈ lists, ∃ l, SkipListInvariant gsl l) ∧
      ∃ lists', (SkipListOp.diff 0 1).step lists (fun _ => 3) = some lists' := by
  have hrun : ∃ lists, SkipListReachable lists ∧
      lists.map intervals = [[(1, 3), (7, 11)], [(1, 3), (7, 10)]] := by
    have h₁ : SkipListReachable [gtidIntervalSkipListNew] :=
      .step .new (fun _ => 0) .init trivial rfl
    have h₂ := SkipListReachable.step (.add 0 1 10) (fun _ => 5) h₁
      ⟨by decide, by decide, by decide, by decide⟩ rfl
    have h₃ := SkipListReachable.step (.remove 0 4 6) (fun _ => 3) h₂
      ⟨Nat.zero_lt_one, by decide, by decide, by decide⟩ rfl
    have h₄ := SkipListReachable.step (.dup 0) (fun _ => 0) h₃ Nat.zero_lt_one rfl
    exact ⟨_, .step (.next 0) (fun _ => 1) h₄ ⟨_, rfl, by decide +kernel⟩ rfl, rfl⟩
  obtain ⟨lists, h, hlists⟩ := hrun
  obtain ⟨hinv, htotal⟩ := reachable_lists_invariant h
  have hlength : lists.length = 2 := by simpa using congrArg List.length hlists
  exact ⟨lists, h, hlists, hinv, htotal (.diff 0 1) _ ⟨by omega, by omega⟩⟩

end Run

/-! ## Refinement of finite sets -/

section Refinement
variable {gsl : GtidIntervalSkipList}

/-- A set has one list of intervals, whatever the levels of the nodes. -/
theorem intervals_unique {gsl' : GtidIntervalSkipList} (h : WF gsl) (h' : WF gsl')
    (he : gnoSet gsl = gnoSet gsl') : intervals gsl = intervals gsl' :=
  h.canonical.unique h'.canonical he

/-- **The skip list refines finite sets of positive integers.**  Each operation computes
the set operation with its exact count, for every source of levels; and the set determines
the intervals, so the levels never show. -/
theorem skipList_refines_set (h : Regular gsl) :
    (∀ s e rand, 1 ≤ s → s ≤ e → e < LLONG_MAX → ∃ gsl',
      gtidIntervalSkipListAdd gsl s e rand =
        some (gsl', ((Finset.Icc s e \ gnoSet gsl).card : Int)) ∧
      Regular gsl' ∧ gnoSet gsl' = gnoSet gsl ∪ Finset.Icc s e) ∧
    (∀ s e rand, 1 ≤ s → s ≤ e → e < LLONG_MAX → ∃ gsl',
      gtidIntervalSkipListRemove gsl s e rand =
        some (gsl', ((gnoSet gsl ∩ Finset.Icc s e).card : Int)) ∧
      Regular gsl' ∧ gnoSet gsl' = gnoSet gsl \ Finset.Icc s e) ∧
    (∀ src rand, Regular src → ∃ gsl',
      gtidIntervalSkipListMerge gsl src rand =
        some (gsl', ((gnoSet src \ gnoSet gsl).card : Int)) ∧
      Regular gsl' ∧ gnoSet gsl' = gnoSet gsl ∪ gnoSet src) ∧
    (∀ src rand, Regular src → ∃ gsl',
      gtidIntervalSkipListDiff gsl src rand =
        some (gsl', ((gnoSet gsl ∩ gnoSet src).card : Int)) ∧
      Regular gsl' ∧ gnoSet gsl' = gnoSet gsl \ gnoSet src) ∧
    (∀ g, 1 ≤ g → gtidIntervalSkipListContains gsl g = some (decide (g ∈ gnoSet gsl))) ∧
    (∀ rand, gtidIntervalSkipListNext gsl false rand =
      some (gsl, IntervalList.maxD (gnoSet gsl) + 1)) ∧
    (∀ rand, IntervalList.maxD (gnoSet gsl) + 1 < LLONG_MAX → ∃ gsl',
      gtidIntervalSkipListNext gsl true rand =
        some (gsl', IntervalList.maxD (gnoSet gsl) + 1) ∧
      Regular gsl' ∧ gnoSet gsl' = gnoSet gsl ∪ {IntervalList.maxD (gnoSet gsl) + 1}) ∧
    (Regular (gtidIntervalSkipListDup gsl) ∧
      gnoSet (gtidIntervalSkipListDup gsl) = gnoSet gsl) ∧
    (∀ gsl', Regular gsl' → gnoSet gsl = gnoSet gsl' → intervals gsl = intervals gsl') := by
  refine ⟨?_, ?_, ?_, ?_, ?_, ?_, ?_, ?_, ?_⟩
  · exact fun s e rand hs hse he => add_regular h hs hse he rand
  · exact fun s e rand hs hse _ => remove_regular h hs hse rand
  · exact fun src rand hs => merge_regular h hs rand
  · exact fun src rand hs => diff_regular h hs.wf rand
  · exact fun g hg => gtidIntervalSkipListContains_spec h.wf hg
  · intro rand
    have hnn := h.wf.top_nonneg
    have hlt : IntervalList.top (intervals gsl) < LLONG_MAX := by
      rcases List.eq_nil_or_concat (intervals gsl) with hnil | ⟨l, i, hl⟩
      · rw [hnil]
        decide
      · rw [List.concat_eq_append] at hl
        rw [hl, IntervalList.top_concat]
        exact h.below i (by rw [hl]; simp)
    rw [gtidIntervalSkipListNext_spec h.wf rand, llong_succ hnn hlt, top_eq_maxD_gnoSet h.wf]
  · exact fun rand hmax => next_regular h hmax rand
  · exact ⟨h.dup, by rw [gnoSet, (gtidIntervalSkipListDup_spec h.wf).2]; rfl⟩
  · exact fun gsl' h' he => intervals_unique h.wf h'.wf he

/-- `5-8` is added, its end is removed, what is left is merged into another list, and both
have the same intervals. -/
theorem skipList_refines_set_merged :
    ∃ gsl gsl' n, gnoSet gsl = Finset.Icc 5 8 \ Finset.Icc 8 9 ∧
      gtidIntervalSkipListMerge gtidIntervalSkipListNew gsl (fun _ => 2) = some (gsl', n) ∧
      gnoSet gsl' = gnoSet gsl ∧ intervals gsl = intervals gsl' := by
  have hempty : gnoSet gtidIntervalSkipListNew = ∅ := by
    rw [gnoSet, gtidIntervalSkipListNew_spec.2]
    rfl
  obtain ⟨hadd, -, hmerge, -⟩ := skipList_refines_set regular_new
  obtain ⟨gsl₁, -, hr₁, hset₁⟩ :=
    hadd 5 8 (fun _ => 7) (by decide) (by decide) (by decide)
  obtain ⟨gsl, -, hr, hset⟩ :=
    (skipList_refines_set hr₁).2.1 8 9 (fun _ => 1) (by decide) (by decide) (by decide)
  obtain ⟨gsl', hmerge', hr', hset'⟩ := hmerge gsl (fun _ => 2) hr
  rw [hempty, Finset.empty_union] at hset₁ hset'
  obtain ⟨-, -, -, -, -, -, -, -, hintervals⟩ := skipList_refines_set hr
  exact ⟨gsl, gsl', _, hset.trans (by rw [hset₁]), hmerge', hset',
    hintervals gsl' hr' hset'.symm⟩

end Refinement

end XredisGtid
