import XredisGtid.SkipListRun

/-!
# Arithmetic at the gno limit

`addSums`, `removeSums` and `nextSums` are the exact results of the additions and
subtractions that a call makes on `long long`, those of the nodes it visits included.  The
model replaces each by its two's complement value; the source relies on that nothing
overflows, which is `Fits`.

`end + 1` is computed wherever an interval or the range handed in is compared with what
may come behind it.  So nothing overflows just as long as no interval ends at `LLONG_MAX`
when such a comparison is made (`GnoOp.WithinLimit`); taking gnos away never overflows.
-/
namespace XredisGtid
open Memory

/-- A result that `long long` holds. -/
def Fits (x : Int) : Prop := LLONG_MIN ≤ x ∧ x ≤ LLONG_MAX

/-- The nodes that a search loop tests on one level. -/
def walkTests (next : Addr → Option Addr) (c : Addr → Bool) : Nat → Addr → List Addr
  | 0, _ => []
  | n + 1, x =>
    match next x with
    | some y => y :: if c y then walkTests next c n y else []
    | none => []

/-- The nodes tested on the levels below `i`, entered at node `x`. -/
def searchTestsFrom (gsl : GtidIntervalSkipList) (c : GtidIntervalNode → Bool) :
    Nat → Addr → List Addr
  | 0, _ => []
  | i + 1, x =>
    walkTests (forward gsl.nodes i) (nodeTest gsl.nodes c) gsl.nodes.size x ++
      searchTestsFrom gsl c i
        (walkWhile (forward gsl.nodes i) (nodeTest gsl.nodes c) gsl.nodes.size x)

/-- The nodes tested by the search that computes `predecessors`. -/
def searchTests (gsl : GtidIntervalSkipList) (c : GtidIntervalNode → Bool) : List Addr :=
  searchTestsFrom gsl c gsl.level gsl.header

/-- The sums made for the node at `a`. -/
def nodeSums (gsl : GtidIntervalSkipList) (sums : GtidIntervalNode → List Int) (a : Addr) :
    List Int := ((gsl.nodes.get a).map sums).getD []

/-- `interval->end - interval->start + 1` -/
def gnoCountSums (n : GtidIntervalNode) : List Int := [n.end - n.start, n.end - n.start + 1]

/-- The nodes freed by `while (l && l != stop)`. -/
def runUpTo (gsl : GtidIntervalSkipList) (l stop : Option Addr) : List Addr :=
  (follow (forward gsl.nodes 0) gsl.nodes.size l).takeWhile (fun a => decide (some a ≠ stop))

def joinSums (gsl : GtidIntervalSkipList) (lefts rights : Nat → Addr) (start «end» : Int) :
    List Int :=
  match forward gsl.nodes 0 (lefts 0) with
  | none => []
  | some l =>
    nodeSums gsl (fun ln => nodeSums gsl (fun xn => gnoCountSums xn ++
      gnoCountSums { xn with start := min start ln.start, «end» := max «end» xn.end })
        (rights 0)) l ++
      (runUpTo gsl (some l) (some (rights 0))).flatMap (nodeSums gsl gnoCountSums)

def addSums (gsl : GtidIntervalSkipList) (start «end» : Int) (rand : Rand) : List Int :=
  nodeSums gsl (fun tail =>
    (if gsl.header ≠ gsl.tail then [tail.end + 1] else []) ++
    if gsl.header ≠ gsl.tail ∧ llong (tail.end + 1) = start then
      [«end» + 1, llong («end» + 1) - start]
    else
      let lefts := predecessors gsl (fun n => llong (n.end + 1) < start)
      let rights := predecessors gsl (fun n => n.start ≤ llong («end» + 1))
      (searchTests gsl (fun n => llong (n.end + 1) < start)).flatMap
        (nodeSums gsl (fun n => [n.end + 1])) ++
      (searchTests gsl (fun n => n.start ≤ llong («end» + 1))).map (fun _ => «end» + 1) ++
      if lefts 0 = rights 0 then [«end» - start, llong («end» - start) + 1]
      else joinSums gsl lefts rights start «end») gsl.tail ++
  -- `gno_count += added`
  ((gtidIntervalSkipListAdd gsl start «end» rand).map (fun r => gsl.gnoCount + r.2)).toList

def cutSums (gsl : GtidIntervalSkipList) (lefts rights : Nat → Addr) (start «end» : Int) :
    List Int :=
  let r := forward gsl.nodes 0 (rights 0)
  nodeSums gsl (fun n => gnoCountSums n ++
    (start - 1) :: gnoCountSums { n with «end» := min n.end (start - 1) }) (lefts 0) ++
  (r.toList.flatMap (nodeSums gsl (fun n => gnoCountSums n ++
    («end» + 1) :: gnoCountSums { n with start := max n.start (llong («end» + 1)) }))) ++
  (runUpTo gsl (forward gsl.nodes 0 (lefts 0)) r).flatMap (nodeSums gsl gnoCountSums)

def removeSums (gsl : GtidIntervalSkipList) (start «end» : Int) (rand : Rand) : List Int :=
  let lefts := predecessors gsl (fun n => n.start < start)
  let rights := predecessors gsl (fun n => n.end ≤ «end»)
  nodeSums gsl (fun l => nodeSums gsl (fun r =>
    if r.end < l.start then
      [«end» + 1, start - 1, «end» - start, llong («end» - start) + 1]
    else cutSums gsl lefts rights start «end») (rights 0)) (lefts 0) ++
  -- `gno_count -= removed`
  ((gtidIntervalSkipListRemove gsl start «end» rand).map (fun r => gsl.gnoCount - r.2)).toList

def nextSums (gsl : GtidIntervalSkipList) (update : Bool) (rand : Rand) : List Int :=
  nodeSums gsl (fun tail => (tail.end + 1) ::
    if update then addSums gsl (llong (tail.end + 1)) (llong (tail.end + 1)) rand else []) gsl.tail

/-! ## Where the searches go -/

section Walk
variable {next : Addr → Option Addr} {c : Addr → Bool} {P Q : Addr → Prop} {x : Addr} {n : Nat}

theorem walkWhile_of_closed (h : ∀ a b, P a → next a = some b → P b) (hx : P x) :
    P (walkWhile next c n x) := by
  induction n generalizing x with
  | zero => exact hx
  | succ n ih =>
    rw [walkWhile]
    cases hy : next x with
    | none => exact hx
    | some y =>
      dsimp only
      by_cases hc : c y
      · rw [if_pos hc]
        exact ih (h x y hx hy)
      · rw [if_neg hc]
        exact hx

theorem walkTests_of_closed (h : ∀ a b, P a → next a = some b → Q b) (hq : ∀ a, Q a → P a)
    (hx : P x) : ∀ y ∈ walkTests next c n x, Q y := by
  induction n generalizing x with
  | zero => simp [walkTests]
  | succ n ih =>
    rw [walkTests]
    cases hy : next x with
    | none => simp
    | some y =>
      have hqy := h x y hx hy
      intro z hz
      rcases List.mem_cons.mp hz with rfl | hz
      · exact hqy
      · by_cases hc : c y
        · rw [if_pos hc] at hz
          exact ih (hq y hqy) z hz
        · rw [if_neg hc] at hz
          simp at hz

theorem follow_of_closed {p : Option Addr} (h : ∀ a b, Q a → next a = some b → Q b)
    (hp : ∀ a, p = some a → Q a) : ∀ y ∈ follow next n p, Q y := by
  induction n generalizing p with
  | zero => simp [follow]
  | succ n ih =>
    cases p with
    | none => simp [follow]
    | some a =>
      have ha := hp a rfl
      intro y hy
      rcases List.mem_cons.mp hy with rfl | hy
      · exact ha
      · exact ih (fun b hb => h a b ha hb) y hy

end Walk

section Nodes
variable {gsl : GtidIntervalSkipList} {cells : List Cell} {c : GtidIntervalNode → Bool}
  {a b x : Addr} {i : Nat}

/-- A pointer of the list leads to one of its cells. -/
theorem Shape.forward_mem (h : Shape gsl cells)
    (ha : a ∈ (headerCell gsl :: cells).map Cell.addr) (hf : forward gsl.nodes i a = some b) :
    b ∈ cells.map Cell.addr := by
  obtain ⟨d, hd, rfl⟩ := List.mem_map.mp ha
  obtain ⟨p, l, hsplit⟩ := List.append_of_mem hd
  have hlinked := h.linked
  rw [hsplit] at hlinked
  by_cases hi : i < d.level
  · rw [hlinked.forward_eq hi] at hf
    obtain ⟨e, he, -, rfl⟩ := mem_levelCells.mp (List.mem_of_head? hf)
    refine List.mem_map_of_mem ?_
    cases p with
    | nil => exact (List.cons.inj hsplit).2 ▸ he
    | cons z p =>
      rw [(List.cons.inj hsplit).2]
      exact List.mem_append_right p (List.mem_cons_of_mem d he)
  · obtain ⟨n, hn, -, -, -, hlen⟩ := hlinked.stores (c := d) (by simp)
    rw [forward_of_get hn, List.getElem?_eq_none (by omega)] at hf
    cases hf

theorem mem_of_mem_cells (h : a ∈ cells.map Cell.addr) :
    a ∈ (headerCell gsl :: cells).map Cell.addr := List.mem_cons_of_mem _ h

theorem header_mem : gsl.header ∈ (headerCell gsl :: cells).map Cell.addr := by simp [headerCell]

theorem Shape.tail_mem (h : Shape gsl cells) :
    gsl.tail ∈ (headerCell gsl :: cells).map Cell.addr := by
  rcases List.eq_nil_or_concat cells with rfl | ⟨p, d, rfl⟩
  · rw [h.tail_eq_header.mpr rfl]
    exact header_mem
  · rw [List.concat_eq_append] at h ⊢
    rw [h.tail_concat]
    simp

theorem Shape.searchTests_mem (h : Shape gsl cells) : ∀ y ∈ searchTests gsl c,
    y ∈ cells.map Cell.addr := by
  have hfrom : ∀ k x, x ∈ (headerCell gsl :: cells).map Cell.addr →
      ∀ y ∈ searchTestsFrom gsl c k x, y ∈ cells.map Cell.addr := by
    intro k
    induction k with
    | zero => simp [searchTestsFrom]
    | succ k ih =>
      intro x hx y hy
      rcases List.mem_append.mp hy with hy | hy
      · exact walkTests_of_closed (fun a b ha hf => h.forward_mem ha hf)
          (fun a ha => mem_of_mem_cells ha) hx y hy
      · exact ih _ (walkWhile_of_closed (fun a b ha hf => mem_of_mem_cells (h.forward_mem ha hf))
          hx) y hy
  exact hfrom gsl.level gsl.header header_mem

theorem Shape.predecessors_mem (h : Shape gsl cells) (j : Nat) :
    predecessors gsl c j ∈ (headerCell gsl :: cells).map Cell.addr := by
  have hfrom : ∀ k x, x ∈ (headerCell gsl :: cells).map Cell.addr →
      predecessorsFrom gsl c k x j ∈ (headerCell gsl :: cells).map Cell.addr := by
    intro k
    induction k with
    | zero => exact fun _ _ => header_mem
    | succ k ih =>
      intro x hx
      have hwalk := walkWhile_of_closed (c := nodeTest gsl.nodes c) (n := gsl.nodes.size)
        (fun a b ha hf => mem_of_mem_cells (h.forward_mem (i := k) ha hf)) hx
      rw [predecessorsFrom]
      dsimp only
      by_cases hj : j = k
      · rw [if_pos hj]
        exact hwalk
      · rw [if_neg hj]
        exact ih _ hwalk
  exact hfrom gsl.level gsl.header header_mem

/-- A search of a list that has nodes tests some of them. -/
theorem Shape.searchTests_ne_nil (h : Shape gsl cells) (hne : cells ≠ []) :
    searchTests gsl c ≠ [] := by
  have hsize : 0 < gsl.nodes.size := Nat.lt_of_lt_of_le (Nat.succ_pos _) h.length_le
  obtain ⟨m, hm⟩ := Nat.exists_eq_succ_of_ne_zero (Nat.ne_of_gt hsize)
  have hfrom : ∀ k x, forward gsl.nodes 0 x ≠ none → searchTestsFrom gsl c (k + 1) x ≠ [] := by
    intro k
    induction k with
    | zero =>
      intro x hx hnil
      rw [searchTestsFrom, hm, walkTests] at hnil
      cases hy : forward gsl.nodes 0 x with
      | none => exact hx hy
      | some y => simp [hy] at hnil
    | succ k ih =>
      intro x hx hnil
      obtain ⟨hwalk, hrest⟩ := List.append_eq_nil_iff.mp hnil
      -- nothing ahead on this level: the search goes on below from the same node
      have hstay : walkWhile (forward gsl.nodes (k + 1)) (nodeTest gsl.nodes c) gsl.nodes.size x =
          x := by
        rw [hm, walkTests] at hwalk
        rw [hm, walkWhile]
        cases hy : forward gsl.nodes (k + 1) x with
        | none => rfl
        | some y => simp [hy] at hwalk
      rw [hstay] at hrest
      exact ih x hx hrest
  obtain ⟨k, hk⟩ := Nat.exists_eq_succ_of_ne_zero (Nat.ne_of_gt h.zero_lt_level)
  rw [searchTests, hk]
  refine hfrom k gsl.header (fun hnone => hne ?_)
  have hchain := h.chain_zero
  rw [hnone] at hchain
  cases cells with
  | nil => rfl
  | cons d cells => cases hchain.1

end Nodes

/-! ## Which sums fit -/

def AllFit (l : List Int) : Prop := ∀ x ∈ l, Fits x

section AllFit
variable {x : Int} {l m : List Int}

@[simp] theorem allFit_nil : AllFit [] := by simp [AllFit]

@[simp] theorem allFit_cons : AllFit (x :: l) ↔ Fits x ∧ AllFit l := List.forall_mem_cons

@[simp] theorem allFit_append : AllFit (l ++ m) ↔ AllFit l ∧ AllFit m := List.forall_mem_append

theorem allFit_flatMap {α : Type} {f : α → List Int} {as : List α} (h : ∀ a ∈ as, AllFit (f a)) :
    AllFit (as.flatMap f) := by
  intro x hx
  obtain ⟨a, ha, hxa⟩ := List.mem_flatMap.mp hx
  exact h a ha x hxa

theorem fits_of_nonneg (h₁ : 0 ≤ x) (h₂ : x ≤ LLONG_MAX) : Fits x :=
  ⟨Int.le_trans (by decide) h₁, h₂⟩

theorem Fits.llong_eq (h : Fits x) : llong x = x := llong_of_mem h.1 h.2

/-- Counting the gnos between two bounds overflows only from 0 up to `LLONG_MAX`. -/
theorem allFit_gnoCountSums {n : GtidIntervalNode} (h₁ : 0 ≤ n.start) (h₂ : n.start ≤ LLONG_MAX)
    (h₃ : 0 ≤ n.end) (h₄ : n.end ≤ LLONG_MAX) (h : n.end = 0 ∨ 1 ≤ n.start) :
    AllFit (gnoCountSums n) := by
  unfold LLONG_MAX at h₂ h₄
  rw [gnoCountSums, allFit_cons, allFit_cons]
  unfold Fits LLONG_MIN LLONG_MAX
  refine ⟨⟨?_, ?_⟩, ⟨?_, ?_⟩, allFit_nil⟩ <;> omega

end AllFit

/-- The bounds of a node of a list whose greatest gno is `top`. -/
structure NodeBounds (top : Int) (n : GtidIntervalNode) : Prop where
  nonneg : 0 ≤ n.start
  start_le_end : n.start ≤ n.end
  le_top : n.end ≤ top
  /-- the header has both bounds 0 -/
  counted : n.end = 0 ∨ 1 ≤ n.start

section Sums
variable {gsl : GtidIntervalSkipList} {cells : List Cell} {a : Addr} {s e : Int}
  {c c' : GtidIntervalNode → Bool} {f : GtidIntervalNode → List Int}

theorem Rep.node (h : Rep gsl cells) (ha : a ∈ (headerCell gsl :: cells).map Cell.addr) :
    ∃ n, gsl.nodes.get a = some n ∧ NodeBounds (IntervalList.top (intervals gsl)) n := by
  have hwf : WF gsl := ⟨cells, h⟩
  obtain ⟨d, hd, rfl⟩ := List.mem_map.mp ha
  rcases List.mem_cons.mp hd with rfl | hd
  · obtain ⟨n, hn, hns, hne⟩ := h.toShape.get_header
    have := hwf.top_nonneg
    exact ⟨n, hn, by omega, by omega, by omega, Or.inl hne⟩
  · obtain ⟨n, hn, -, hns, hne, -⟩ := h.linked.2.2.stores hd
    have h₁ := h.start_le_end hd
    have h₂ := h.bounds hd
    have hi : d.interval ∈ intervals gsl := by
      rw [h.toShape.intervals_eq]
      exact List.mem_map_of_mem hd
    have hmem := IntervalList.mem_points.mpr ⟨d.interval, hi, h₁, le_refl _⟩
    have htop : d.end ≤ IntervalList.top (intervals gsl) :=
      IntervalList.le_top hwf.canonical hmem
    exact ⟨n, hn, by omega, by omega, by omega, Or.inr (by omega)⟩

theorem Rep.allFit_nodeSums (h : Rep gsl cells)
    (ha : a ∈ (headerCell gsl :: cells).map Cell.addr)
    (hf : ∀ n, gsl.nodes.get a = some n → NodeBounds (IntervalList.top (intervals gsl)) n →
      AllFit (f n)) : AllFit (nodeSums gsl f a) := by
  obtain ⟨n, hn, hb⟩ := h.node ha
  rw [nodeSums, hn]
  exact hf n hn hb

theorem NodeBounds.allFit_gnoCountSums {top : Int} {n : GtidIntervalNode} (h : NodeBounds top n)
    (ht : top ≤ LLONG_MAX) : AllFit (gnoCountSums n) := by
  have h₁ := h.nonneg
  have h₂ := h.start_le_end
  have h₃ := h.le_top
  exact XredisGtid.allFit_gnoCountSums h₁ (by omega) (by omega) (by omega) h.counted

theorem Rep.allFit_runUpTo {l stop : Option Addr} (h : Rep gsl cells)
    (hl : ∀ a, l = some a → a ∈ cells.map Cell.addr) :
    AllFit ((runUpTo gsl l stop).flatMap (nodeSums gsl gnoCountSums)) := by
  refine allFit_flatMap (fun a ha => ?_)
  have hmem := follow_of_closed
    (fun a b ha hf => h.toShape.forward_mem (mem_of_mem_cells ha) hf) hl a
    (List.takeWhile_subset _ ha)
  exact h.allFit_nodeSums (mem_of_mem_cells hmem)
    (fun n _ hb => hb.allFit_gnoCountSums (WF.top_le ⟨cells, h⟩))

theorem Rep.allFit_joinSums (h : Rep gsl cells) (hs : 1 ≤ s) (hse : s ≤ e) (he : e ≤ LLONG_MAX) :
    AllFit (joinSums gsl (predecessors gsl c) (predecessors gsl c') s e) := by
  have htop : IntervalList.top (intervals gsl) ≤ LLONG_MAX := WF.top_le ⟨cells, h⟩
  rw [joinSums]
  cases hl : forward gsl.nodes 0 (predecessors gsl c 0) with
  | none => exact allFit_nil
  | some l =>
    have hmem := h.toShape.forward_mem (h.toShape.predecessors_mem 0) hl
    refine allFit_append.mpr ⟨?_, h.allFit_runUpTo (fun a ha => Option.some.inj ha ▸ hmem)⟩
    refine h.allFit_nodeSums (mem_of_mem_cells hmem) (fun ln hln hlb => ?_)
    refine h.allFit_nodeSums (h.toShape.predecessors_mem 0) (fun xn hxn hxb => ?_)
    refine allFit_append.mpr ⟨hxb.allFit_gnoCountSums htop, ?_⟩
    -- the node joined first is no header
    have hstart : 1 ≤ ln.start := by
      obtain ⟨d, hd, hda⟩ := List.mem_map.mp hmem
      obtain ⟨n, hn, -, hns, -, -⟩ := h.linked.2.2.stores hd
      rw [hda, hln] at hn
      have := h.bounds hd
      cases hn
      omega
    have h₁ := hlb.start_le_end
    have h₂ := hlb.le_top
    have h₃ := hxb.nonneg
    have h₄ := hxb.start_le_end
    have h₅ := hxb.le_top
    refine XredisGtid.allFit_gnoCountSums ?_ ?_ ?_ ?_ (Or.inr ?_)
    · exact Int.le_trans (by omega) (le_min hs hstart)
    · exact Int.le_trans (min_le_left _ _) (by omega)
    · exact Int.le_trans (by omega) (le_max_left e xn.end)
    · exact max_le he (by omega)
    · exact le_min hs hstart

/-- Where `Add` stays clear of the limit: always on an empty list; on another as long as
neither an interval nor the range ends at `LLONG_MAX`. -/
def AddWithinLimit (gsl : GtidIntervalSkipList) («end» : Int) : Prop :=
  intervals gsl = [] ∨ (IntervalList.top (intervals gsl) < LLONG_MAX ∧ «end» < LLONG_MAX)

theorem add_withinLimit (h : WF gsl) (hs : 1 ≤ s) (hse : s ≤ e) (he : e ≤ LLONG_MAX)
    (hlimit : AddWithinLimit gsl e) (rand : Rand) :
    ∃ gsl', gtidIntervalSkipListAdd gsl s e rand =
        some (gsl', IntervalList.size (intervals gsl') - IntervalList.size (intervals gsl)) ∧
      WF gsl' := by
  rcases hlimit with hnil | ⟨htop, hlt⟩
  · obtain ⟨gsl', hadd, hwf, -⟩ := gtidIntervalSkipListAdd_nil_spec h hnil hs hse he rand
    exact ⟨gsl', hadd, hwf⟩
  · obtain ⟨gsl', hadd, hwf, -⟩ :=
      gtidIntervalSkipListAdd_spec h (h.below_of_top htop) hs hse hlt rand
    exact ⟨gsl', hadd, hwf⟩

theorem allFit_addSums (h : WF gsl) (hs : 1 ≤ s) (hse : s ≤ e) (he : e ≤ LLONG_MAX)
    (hlimit : AddWithinLimit gsl e) (rand : Rand) : AllFit (addSums gsl s e rand) := by
  obtain ⟨gsl', hadd, hwf'⟩ := add_withinLimit h hs hse he hlimit rand
  obtain ⟨cells, hr⟩ := id h
  have hcells := hr.toShape.intervals_eq
  -- every comparison with `end + 1` is one of an interval below the limit
  have hlt : cells ≠ [] → IntervalList.top (intervals gsl) < LLONG_MAX ∧ e < LLONG_MAX := by
    intro hne
    refine hlimit.resolve_left (fun hnil => hne ?_)
    rw [hcells] at hnil
    exact List.map_eq_nil_iff.mp hnil
  have hcount : e - s ≤ LLONG_MAX - 1 := by omega
  have hfit : Fits (e - s) := fits_of_nonneg (by omega) (by omega)
  rw [addSums, allFit_append]
  constructor
  · refine hr.allFit_nodeSums hr.toShape.tail_mem (fun tail _ hb => ?_)
    have htb := hb.nonneg
    have hte := hb.start_le_end
    have hle := hb.le_top
    have hne : gsl.header ≠ gsl.tail → cells ≠ [] := fun hne hnil =>
      hne (hr.toShape.tail_eq_header.mpr hnil).symm
    refine allFit_append.mpr ⟨?_, ?_⟩
    · by_cases hh : gsl.header ≠ gsl.tail
      · rw [if_pos hh, allFit_cons]
        have := hlt (hne hh)
        exact ⟨fits_of_nonneg (by omega) (by omega), allFit_nil⟩
      · rw [if_neg hh]
        exact allFit_nil
    · by_cases hfast : gsl.header ≠ gsl.tail ∧ llong (tail.end + 1) = s
      · rw [if_pos hfast, allFit_cons, allFit_cons]
        have hlt := hlt (hne hfast.1)
        have hsum : Fits (e + 1) := fits_of_nonneg (by omega) (by omega)
        rw [hsum.llong_eq]
        exact ⟨hsum, fits_of_nonneg (by omega) (by omega), allFit_nil⟩
      · rw [if_neg hfast]
        dsimp only
        refine allFit_append.mpr ⟨allFit_append.mpr ⟨?_, ?_⟩, ?_⟩
        · refine allFit_flatMap (fun a ha => ?_)
          have hmem := hr.toShape.searchTests_mem a ha
          have hlt := hlt (fun hnil => by simp [hnil] at hmem)
          refine hr.allFit_nodeSums (mem_of_mem_cells hmem) (fun n _ hb => ?_)
          have h₁ := hb.nonneg
          have h₂ := hb.start_le_end
          have h₃ := hb.le_top
          rw [allFit_cons]
          exact ⟨fits_of_nonneg (by omega) (by omega), allFit_nil⟩
        · intro x hx
          obtain ⟨a, ha, rfl⟩ := List.mem_map.mp hx
          have hmem := hr.toShape.searchTests_mem a ha
          have hlt := hlt (fun hnil => by simp [hnil] at hmem)
          exact fits_of_nonneg (by omega) (by omega)
        · split
          · rw [allFit_cons, allFit_cons, hfit.llong_eq]
            exact ⟨hfit, fits_of_nonneg (by omega) (by omega), allFit_nil⟩
          · exact hr.allFit_joinSums hs hse he
  · rw [hadd, h.gnoCount]
    have hsize := hwf'.gnos.size_bounds
    simp only [Option.map_some, Option.toList_some, allFit_cons, allFit_nil, and_true]
    rw [add_sub_cancel]
    exact fits_of_nonneg hsize.1 hsize.2

/-- Where all sums of `Add` fit, it stays clear of the limit: `end + 1` is computed for
every interval and for the range as soon as there is an interval to compare with. -/
theorem addWithinLimit_of_allFit (h : WF gsl) {rand : Rand} (hfit : AllFit (addSums gsl s e rand)) :
    AddWithinLimit gsl e := by
  obtain ⟨cells, hr⟩ := h
  by_cases hnil : cells = []
  · exact Or.inl (by rw [hr.toShape.intervals_eq, hnil, List.map_nil])
  · obtain ⟨tail, htail, hend⟩ := hr.toShape.get_tail
    have hne : gsl.header ≠ gsl.tail := fun hht => hnil (hr.toShape.tail_eq_header.mp hht.symm)
    rw [← hr.toShape.intervals_eq] at hend
    rw [addSums, nodeSums, htail] at hfit
    simp only [Option.map_some, Option.getD_some, allFit_append, if_pos hne, allFit_cons] at hfit
    obtain ⟨⟨⟨htop, -⟩, hrest⟩, -⟩ := hfit
    refine Or.inr ⟨?_, ?_⟩
    · have := htop.2
      omega
    · by_cases hfast : gsl.header ≠ gsl.tail ∧ llong (tail.end + 1) = s
      · rw [if_pos hfast, allFit_cons] at hrest
        have := hrest.1.2
        omega
      · rw [if_neg hfast, allFit_append, allFit_append] at hrest
        obtain ⟨y, hy⟩ := List.exists_mem_of_ne_nil _
          (hr.toShape.searchTests_ne_nil (c := fun n => n.start ≤ llong (e + 1)) hnil)
        have := (hrest.1.2 (e + 1) (List.mem_map.mpr ⟨y, hy, rfl⟩)).2
        omega

/-- A range up to `LLONG_MAX` leaves no interval behind it. -/
theorem Rep.forward_rights_max (h : Rep gsl cells) :
    predecessors gsl (fun n => n.end ≤ LLONG_MAX) 0 = gsl.tail ∧
      forward gsl.nodes 0 gsl.tail = none := by
  have hlevel := h.toShape.zero_lt_level
  have hshape : Shape gsl (cells ++ []) := by
    rw [List.append_nil]
    exact h.toShape
  have hrights := hshape.predecessors_eq (c := fun n => n.end ≤ LLONG_MAX)
    (fun d hd n _ hne => by rw [hne, decide_eq_true_eq]; exact (h.bounds hd).2) (by simp) hlevel
  rw [h.toShape.levelCells_zero, ← h.tail] at hrights
  exact ⟨hrights, h.toShape.forward_tail⟩

theorem Rep.allFit_cutSums (h : Rep gsl cells) (hs : 1 ≤ s) (hse : s ≤ e) (he : e ≤ LLONG_MAX) :
    AllFit (cutSums gsl (predecessors gsl c) (predecessors gsl (fun n => n.end ≤ e)) s e) := by
  have htop : IntervalList.top (intervals gsl) ≤ LLONG_MAX := WF.top_le ⟨cells, h⟩
  have hnext : ∀ (d : GtidIntervalNode → Bool) a,
      forward gsl.nodes 0 (predecessors gsl d 0) = some a → a ∈ cells.map Cell.addr :=
    fun d a ha => h.toShape.forward_mem (h.toShape.predecessors_mem 0) ha
  rw [cutSums]
  refine allFit_append.mpr ⟨allFit_append.mpr ⟨?_, ?_⟩, h.allFit_runUpTo (hnext c)⟩
  · refine h.allFit_nodeSums (h.toShape.predecessors_mem 0) (fun n _ hb => ?_)
    have h₁ := hb.nonneg
    have h₂ := hb.start_le_end
    have h₃ := hb.le_top
    refine allFit_append.mpr ⟨hb.allFit_gnoCountSums htop, allFit_cons.mpr ⟨?_, ?_⟩⟩
    · exact fits_of_nonneg (by omega) (by omega)
    · have hmax : n.end ≤ LLONG_MAX := Int.le_trans h₃ htop
      refine XredisGtid.allFit_gnoCountSums h₁ (Int.le_trans h₂ hmax)
        (le_min (by omega) (by omega)) (Int.le_trans (min_le_left _ _) hmax) ?_
      exact hb.counted.imp_left (fun hend => by
        show min n.end (s - 1) = 0
        omega)
  · refine allFit_flatMap (fun a ha => ?_)
    rw [Option.mem_toList] at ha
    have hmem := hnext _ a ha
    refine h.allFit_nodeSums (mem_of_mem_cells hmem) (fun n _ hb => ?_)
    -- there is an interval behind the range
    have hlt : e < LLONG_MAX := by
      refine lt_of_le_of_ne he (fun hmax => ?_)
      subst hmax
      obtain ⟨htail, hnone⟩ := h.forward_rights_max
      rw [htail, hnone] at ha
      cases ha
    have hsum : Fits (e + 1) := fits_of_nonneg (by omega) (by omega)
    have h₁ := hb.nonneg
    have h₂ := hb.start_le_end
    have h₃ := hb.le_top
    refine allFit_append.mpr ⟨hb.allFit_gnoCountSums htop, allFit_cons.mpr ⟨hsum, ?_⟩⟩
    rw [hsum.llong_eq]
    have hmax : n.end ≤ LLONG_MAX := Int.le_trans h₃ htop
    refine XredisGtid.allFit_gnoCountSums (Int.le_trans h₁ (le_max_left _ _))
      (max_le (Int.le_trans h₂ hmax) hsum.2) (Int.le_trans h₁ h₂) hmax (Or.inr ?_)
    exact Int.le_trans (by omega) (le_max_right n.start (e + 1))

theorem allFit_removeSums (h : WF gsl) (hs : 1 ≤ s) (hse : s ≤ e) (he : e ≤ LLONG_MAX)
    (rand : Rand) : AllFit (removeSums gsl s e rand) := by
  obtain ⟨gsl', hremove, hwf', -⟩ := gtidIntervalSkipListRemove_spec h hs hse rand
  obtain ⟨cells, hr⟩ := id h
  rw [removeSums, allFit_append]
  constructor
  · refine hr.allFit_nodeSums (hr.toShape.predecessors_mem 0) (fun l _ hl => ?_)
    refine hr.allFit_nodeSums (hr.toShape.predecessors_mem 0) (fun r hget hb => ?_)
    by_cases hsplit : r.end < l.start
    · rw [if_pos hsplit]
      have hlt : e < LLONG_MAX := by
        refine lt_of_le_of_ne he (fun hmax => ?_)
        subst hmax
        obtain ⟨tail, htail, hend⟩ := hr.toShape.get_tail
        rw [hr.forward_rights_max.1, htail] at hget
        cases hget
        rw [← hr.toShape.intervals_eq] at hend
        have h₁ := hl.start_le_end
        have h₂ := hl.le_top
        omega
      have hcount : Fits (e - s) := fits_of_nonneg (by omega) (by omega)
      simp only [allFit_cons, allFit_nil, and_true, hcount.llong_eq]
      refine ⟨?_, ?_, hcount, ?_⟩ <;> exact fits_of_nonneg (by omega) (by omega)
    · rw [if_neg hsplit]
      exact hr.allFit_cutSums hs hse he
  · rw [hremove, h.gnoCount]
    have hsize := hwf'.gnos.size_bounds
    simp only [Option.map_some, Option.toList_some, allFit_cons, allFit_nil, and_true]
    rw [sub_sub_cancel]
    exact fits_of_nonneg hsize.1 hsize.2

end Sums

/-! ## Runs -/

inductive GnoOp where
  | add (start «end» : Int)
  | remove (start «end» : Int)
  | contains (gno : Int)
  | next (update : Bool)

/-- The arguments pass the checks of the source, and are `long long`s. -/
def GnoOp.Valid : GnoOp → Prop
  | .add start «end» | .remove start «end» =>
    gtidIntervalIsValid start «end» = true ∧ «end» ≤ LLONG_MAX
  | .contains gno => GTID_GNO_INITIAL ≤ gno ∧ gno ≤ LLONG_MAX
  | .next _ => True

def GnoOp.step (gsl : GtidIntervalSkipList) (rand : Rand) : GnoOp → Option GtidIntervalSkipList
  | .add start «end» => (gtidIntervalSkipListAdd gsl start «end» rand).map Prod.fst
  | .remove start «end» => (gtidIntervalSkipListRemove gsl start «end» rand).map Prod.fst
  | .contains gno => (gtidIntervalSkipListContains gsl gno).map (fun _ => gsl)
  | .next update => (gtidIntervalSkipListNext gsl update rand).map Prod.fst

def GnoOp.sums (gsl : GtidIntervalSkipList) (rand : Rand) : GnoOp → List Int
  | .add start «end» => addSums gsl start «end» rand
  | .remove start «end» => removeSums gsl start «end» rand
  | .contains _ => []
  | .next update => nextSums gsl update rand

/-- The range that `Next` hands to `Add`. -/
def GnoOp.handed (gsl : GtidIntervalSkipList) : GnoOp → List (Int × Int)
  | .next true =>
    ((gsl.nodes.get gsl.tail).map (fun tail => (llong (tail.end + 1), llong (tail.end + 1)))).toList
  | _ => []

def GnoOp.WithinLimit (gsl : GtidIntervalSkipList) : GnoOp → Prop
  | .add _ «end» => AddWithinLimit gsl «end»
  | .next true => IntervalList.top (intervals gsl) + 1 < LLONG_MAX
  | .next false => IntervalList.top (intervals gsl) < LLONG_MAX
  | _ => True

/-- The lists that operations staying clear of the limit lead to. -/
inductive GnoReachable : GtidIntervalSkipList → Prop
  | new : GnoReachable gtidIntervalSkipListNew
  | step {gsl gsl' : GtidIntervalSkipList} (op : GnoOp) (rand : Rand) :
      GnoReachable gsl → op.Valid → op.WithinLimit gsl → op.step gsl rand = some gsl' →
      GnoReachable gsl'

section Run
variable {gsl : GtidIntervalSkipList} {op : GnoOp}

theorem addWithinLimit_next (ht : IntervalList.top (intervals gsl) + 1 < LLONG_MAX) :
    AddWithinLimit gsl (IntervalList.top (intervals gsl) + 1) := Or.inr ⟨by omega, ht⟩

theorem WF.next_fits (h : WF gsl) (ht : IntervalList.top (intervals gsl) < LLONG_MAX) :
    Fits (IntervalList.top (intervals gsl) + 1) := by
  have := h.top_nonneg
  exact fits_of_nonneg (by omega) (by omega)

/-- **One step.**  Clear of the limit every operation succeeds, on a range that is valid,
and leaves a well-formed list. -/
theorem GnoOp.step_wf (h : WF gsl) (hv : op.Valid) (hlimit : op.WithinLimit gsl) (rand : Rand) :
    ∃ gsl', op.step gsl rand = some gsl' ∧ WF gsl' := by
  cases op with
  | add s e =>
    obtain ⟨hs, hse⟩ := gtidIntervalIsValid_iff.mp hv.1
    obtain ⟨gsl', hadd, hwf⟩ := add_withinLimit h hs hse hv.2 hlimit rand
    exact ⟨gsl', by rw [step, hadd, Option.map_some], hwf⟩
  | remove s e =>
    obtain ⟨hs, hse⟩ := gtidIntervalIsValid_iff.mp hv.1
    obtain ⟨gsl', hremove, hwf, -⟩ := gtidIntervalSkipListRemove_spec h hs hse rand
    exact ⟨gsl', by rw [step, hremove, Option.map_some], hwf⟩
  | contains g =>
    have hcontains := gtidIntervalSkipListContains_spec h hv.1
    exact ⟨gsl, by rw [step, hcontains, Option.map_some], h⟩
  | next update =>
    cases update with
    | false => exact ⟨gsl, by rw [step, gtidIntervalSkipListNext_spec h, Option.map_some], h⟩
    | true =>
      have ht : IntervalList.top (intervals gsl) + 1 < LLONG_MAX := hlimit
      obtain ⟨gsl', hnext, hwf, -⟩ :=
        gtidIntervalSkipListNext_update_spec h (h.below_of_top (by omega)) ht rand
      exact ⟨gsl', by rw [step, hnext, Option.map_some], hwf⟩

theorem GnoReachable.wf (h : GnoReachable gsl) : WF gsl := by
  induction h with
  | new => exact gtidIntervalSkipListNew_spec.1
  | step op rand _ hv hlimit hstep ih =>
    obtain ⟨gsl'', hstep', hwf⟩ := GnoOp.step_wf ih hv hlimit rand
    rw [hstep] at hstep'
    exact Option.some.inj hstep' ▸ hwf

theorem allFit_nextSums_iff (h : WF gsl) (update : Bool) (rand : Rand) :
    AllFit (nextSums gsl update rand) ↔ (GnoOp.next update).WithinLimit gsl := by
  have hnn := h.top_nonneg
  obtain ⟨cells, hr⟩ := id h
  obtain ⟨tail, htail, hend⟩ := hr.toShape.get_tail
  rw [← hr.toShape.intervals_eq] at hend
  rw [nextSums, nodeSums, htail, Option.map_some, Option.getD_some, allFit_cons, hend]
  cases update with
  | false =>
    simp only [Bool.false_eq_true, if_false, allFit_nil, and_true]
    exact ⟨fun hfit => Int.lt_of_add_one_le hfit.2, h.next_fits⟩
  | true =>
    simp only [if_true]
    constructor
    · rintro ⟨hfit, hadd⟩
      rw [hfit.llong_eq] at hadd
      rcases addWithinLimit_of_allFit h hadd with hnil | ⟨-, hlt⟩
      · show IntervalList.top (intervals gsl) + 1 < LLONG_MAX
        rw [hnil]
        decide
      · exact hlt
    · intro hlt
      have hlt : IntervalList.top (intervals gsl) + 1 < LLONG_MAX := hlt
      have hfit := h.next_fits (by omega)
      refine ⟨hfit, ?_⟩
      rw [hfit.llong_eq]
      exact allFit_addSums h (by omega) (le_refl _) hfit.2 (addWithinLimit_next hlt) rand

theorem GnoOp.allFit_sums_iff (h : WF gsl) (hv : op.Valid) (rand : Rand) :
    AllFit (op.sums gsl rand) ↔ op.WithinLimit gsl := by
  cases op with
  | add s e =>
    obtain ⟨hs, hse⟩ := gtidIntervalIsValid_iff.mp hv.1
    exact ⟨addWithinLimit_of_allFit h, fun hl => allFit_addSums h hs hse hv.2 hl rand⟩
  | remove s e =>
    obtain ⟨hs, hse⟩ := gtidIntervalIsValid_iff.mp hv.1
    exact iff_of_true (allFit_removeSums h hs hse hv.2 rand) trivial
  | contains g => exact iff_of_true allFit_nil trivial
  | next update => exact allFit_nextSums_iff h update rand

theorem GnoOp.handed_valid (h : WF gsl) (hlimit : op.WithinLimit gsl) :
    ∀ r ∈ op.handed gsl, gtidIntervalIsValid r.1 r.2 = true := by
  cases op with
  | next update =>
    cases update with
    | false => simp [handed]
    | true =>
      obtain ⟨cells, hr⟩ := id h
      obtain ⟨tail, htail, hend⟩ := hr.toShape.get_tail
      rw [← hr.toShape.intervals_eq] at hend
      have hnn := h.top_nonneg
      have ht : IntervalList.top (intervals gsl) + 1 < LLONG_MAX := hlimit
      have hfit := h.next_fits (by omega)
      intro r hrange
      rw [handed, htail, Option.map_some, Option.toList_some, List.mem_singleton, hend,
        hfit.llong_eq] at hrange
      subst hrange
      exact gtidIntervalIsValid_iff.mpr ⟨by omega, le_refl _⟩
  | _ => simp [handed]

/-- **Arithmetic at the gno limit.**  In every run whose operations stay clear of the limit
the intervals are ordered, disjoint and not adjacent.  The next operation overflows just if
it does not stay clear of the limit itself; where it does, it succeeds, and the range that
`Next` hands to `Add` is valid. -/
theorem gno_arithmetic (h : GnoReachable gsl) (op : GnoOp) (hv : op.Valid) (rand : Rand) :
    IntervalList.Canonical (intervals gsl) ∧
      (AllFit (op.sums gsl rand) ↔ op.WithinLimit gsl) ∧
      (op.WithinLimit gsl → (∃ gsl', op.step gsl rand = some gsl') ∧
        ∀ r ∈ op.handed gsl, gtidIntervalIsValid r.1 r.2 = true) := by
  refine ⟨h.wf.canonical, GnoOp.allFit_sums_iff h.wf hv rand, fun hlimit => ⟨?_, ?_⟩⟩
  · obtain ⟨gsl', hstep, -⟩ := GnoOp.step_wf h.wf hv hlimit rand
    exact ⟨gsl', hstep⟩
  · exact GnoOp.handed_valid h.wf hlimit

/-- Adding up to the limit an empty list, where nothing is compared. -/
theorem gno_arithmetic_limit :
    AllFit ((GnoOp.add 1 LLONG_MAX).sums gtidIntervalSkipListNew (fun _ => 0)) :=
  (gno_arithmetic .new (.add 1 LLONG_MAX) ⟨by decide, le_refl _⟩ (fun _ => 0)).2.1.mpr
    (Or.inl gtidIntervalSkipListNew_spec.2)

/-- `[1, LLONG_MAX]` added to `[5, 5]`: the search compares the wrapped `end + 1` with the
node that is there, and the new node is put in front of it. -/
theorem gtidIntervalSkipListAdd_overflows :
    ∃ gsl gsl', (GnoOp.add 5 5).step gtidIntervalSkipListNew (fun _ => 0) = some gsl ∧
      (GnoOp.add 1 LLONG_MAX).Valid ∧
      ¬ AllFit ((GnoOp.add 1 LLONG_MAX).sums gsl (fun _ => 0)) ∧
      (GnoOp.add 1 LLONG_MAX).step gsl (fun _ => 0) = some gsl' ∧
      intervals gsl' = [(1, LLONG_MAX), (5, 5)] ∧
      ¬ IntervalList.Canonical (intervals gsl') := by
  refine ⟨_, _, rfl, ⟨by decide, le_refl _⟩, ?_, rfl, ?_, ?_⟩
  · intro hfit
    have := (hfit (LLONG_MAX + 1) (by decide +kernel)).2
    omega
  · decide +kernel
  · intro hcanonical
    have := hcanonical.separated
    revert this
    decide +kernel

end Run

end XredisGtid
