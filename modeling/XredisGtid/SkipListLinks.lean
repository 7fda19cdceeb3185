import XredisGtid.SkipList
import XredisGtid.IntervalList

/-!
# What the pointers of a skip list represent

`Linked nodes l` says that the cells `l` are stored in the arena and that every
`forwards` pointer of each of them goes to the next cell of `l` tall enough for its
level.  So on level `i` the pointers run through exactly `levelCells i l`, the cells
of `l` whose level is greater than `i` (`Linked.chain`), whatever levels were drawn.

Two facts carry every operation.  `predecessors_eq`: a search whose condition holds
on a prefix of the cells and fails after it stops, on each level, at the last tall
enough cell of that prefix.  `Linked.splice`: redirecting, on each level, the pointer
of the last tall enough cell of a prefix `p` to the first tall enough cell of `c`
makes `p ++ c` the linked list, whatever followed `p` before.
-/
namespace XredisGtid
open Memory

/-- A node as the level-0 chain visits it. -/
structure Cell where
  addr : Addr
  level : Nat
  start : Int
  «end» : Int

def Cell.interval (c : Cell) : Int × Int := (c.start, c.end)

/-- The addresses of the cells linked on level `i`. -/
def levelCells (i : Nat) (l : List Cell) : List Addr :=
  (l.filter (fun c => i < c.level)).map Cell.addr

@[simp] theorem levelCells_nil (i : Nat) : levelCells i [] = [] := rfl

theorem levelCells_cons_of_lt {i : Nat} {c : Cell} (h : i < c.level) (l : List Cell) :
    levelCells i (c :: l) = c.addr :: levelCells i l := by simp [levelCells, h]

theorem levelCells_cons_of_le {i : Nat} {c : Cell} (h : c.level ≤ i) (l : List Cell) :
    levelCells i (c :: l) = levelCells i l := by
  simp [levelCells, Nat.not_lt.mpr h]

@[simp] theorem levelCells_append (i : Nat) (l l' : List Cell) :
    levelCells i (l ++ l') = levelCells i l ++ levelCells i l' := by simp [levelCells]

/-- The levels see a cell by its address and its level only. -/
theorem levelCells_congr {c d : Cell} (ha : d.addr = c.addr) (hlv : d.level = c.level) (i : Nat)
    (l : List Cell) : levelCells i (d :: l) = levelCells i (c :: l) := by
  rcases Nat.lt_or_ge i c.level with hi | hi
  · rw [levelCells_cons_of_lt hi, levelCells_cons_of_lt (hlv ▸ hi), ha]
  · rw [levelCells_cons_of_le hi, levelCells_cons_of_le (hlv ▸ hi)]

theorem mem_levelCells {i : Nat} {a : Addr} {l : List Cell} :
    a ∈ levelCells i l ↔ ∃ c ∈ l, i < c.level ∧ c.addr = a := by
  simp [levelCells, and_assoc]

theorem levelCells_eq_nil {i : Nat} {l : List Cell} (h : ∀ c ∈ l, c.level ≤ i) :
    levelCells i l = [] := by
  induction l with
  | nil => rfl
  | cons c l ih =>
    rw [levelCells_cons_of_le (h c (by simp)), ih (fun d hd => h d (by simp [hd]))]

theorem levelCells_zero {l : List Cell} (h : ∀ c ∈ l, 1 ≤ c.level) :
    levelCells 0 l = l.map Cell.addr := by
  induction l with
  | nil => rfl
  | cons c l ih =>
    rw [levelCells_cons_of_lt (h c (by simp)), ih (fun d hd => h d (by simp [hd])), List.map_cons]

/-- The arena holds the cell's fields at its address, with one pointer for each level. -/
def Stores (nodes : Arena GtidIntervalNode) (c : Cell) : Prop :=
  ∃ n, nodes.get c.addr = some n ∧ n.level = c.level ∧ n.start = c.start ∧ n.end = c.end ∧
    n.forwards.length = c.level

/-- The cells are stored, and each pointer goes to the next cell of the list that is
tall enough for its level. -/
def Linked (nodes : Arena GtidIntervalNode) : List Cell → Prop
  | [] => True
  | c :: l => Stores nodes c ∧ (∀ i < c.level, forward nodes i c.addr = (levelCells i l).head?) ∧
      Linked nodes l

section Links
variable {nodes nodes' : Arena GtidIntervalNode}

theorem linked_cons {c : Cell} {l : List Cell} :
    Linked nodes (c :: l) ↔ Stores nodes c ∧
      (∀ i < c.level, forward nodes i c.addr = (levelCells i l).head?) ∧ Linked nodes l := Iff.rfl

theorem forward_of_get {i : Nat} {a : Addr} {n : GtidIntervalNode} (h : nodes.get a = some n) :
    forward nodes i a = n.forwards[i]?.join := by simp [forward, h]

theorem forward_congr {i : Nat} {a : Addr} (h : nodes'.get a = nodes.get a) :
    forward nodes' i a = forward nodes i a := by simp [forward, h]

theorem Stores.congr {c : Cell} (h : Stores nodes c) (he : nodes'.get c.addr = nodes.get c.addr) :
    Stores nodes' c := by
  obtain ⟨n, hn, hrest⟩ := h
  exact ⟨n, he.trans hn, hrest⟩

theorem Stores.lt_size {c : Cell} (h : Stores nodes c) : c.addr < nodes.size := by
  obtain ⟨n, hn, -⟩ := h
  exact Arena.lt_size_of_get hn

theorem Linked.stores {l : List Cell} (h : Linked nodes l) {c : Cell} (hc : c ∈ l) :
    Stores nodes c := by
  induction l with
  | nil => simp at hc
  | cons d l ih =>
    rcases List.mem_cons.mp hc with rfl | hc
    · exact h.1
    · exact ih h.2.2 hc

theorem Linked.append_right {l l' : List Cell} (h : Linked nodes (l ++ l')) : Linked nodes l' := by
  induction l with
  | nil => exact h
  | cons c l ih => exact ih h.2.2

/-- The pointers of a cell in the middle of the list. -/
theorem Linked.forward_eq {p : List Cell} {c : Cell} {l : List Cell}
    (h : Linked nodes (p ++ c :: l)) {i : Nat} (hi : i < c.level) :
    forward nodes i c.addr = (levelCells i l).head? :=
  h.append_right.2.1 i hi

/-- The linked list depends only on the contents of its own cells. -/
theorem Linked.congr {l : List Cell} (h : Linked nodes l)
    (he : ∀ c ∈ l, nodes'.get c.addr = nodes.get c.addr) : Linked nodes' l := by
  induction l with
  | nil => trivial
  | cons c l ih =>
    have hc := he c (by simp)
    refine ⟨h.1.congr hc, ?_, ih h.2.2 (fun d hd => he d (by simp [hd]))⟩
    intro i hi
    rw [forward_congr hc, h.2.1 i hi]

/-- **On level `i` the pointers run through the cells taller than `i`.** -/
theorem Linked.chain {l : List Cell} (h : Linked nodes l) (i : Nat) :
    Chain (forward nodes i) (levelCells i l).head? (levelCells i l) := by
  induction l with
  | nil => rfl
  | cons c l ih =>
    rcases Nat.lt_or_ge i c.level with hi | hi
    · rw [levelCells_cons_of_lt hi]
      refine ⟨rfl, ?_⟩
      rw [h.2.1 i hi]
      exact ih h.2.2
    · rw [levelCells_cons_of_le hi]
      exact ih h.2.2

theorem Linked.chain_from {p : List Cell} {c : Cell} {l : List Cell}
    (h : Linked nodes (p ++ c :: l)) {i : Nat} (hi : i < c.level) :
    Chain (forward nodes i) (forward nodes i c.addr) (levelCells i l) := by
  rw [h.forward_eq hi]
  exact h.append_right.2.2.chain i

/-! ## Searches -/

/-- The last cell of `c :: l` taller than `i`, when `c` is. -/
theorem exists_last_above {i : Nat} {c : Cell} (hc : i < c.level) (l : List Cell) :
    ∃ p d q, c :: l = p ++ d :: q ∧ d.addr = (levelCells i l).getLastD c.addr ∧ i < d.level ∧
      ∀ e ∈ q, e.level ≤ i := by
  induction l using List.reverseRecOn with
  | nil => exact ⟨[], c, [], rfl, rfl, hc, by simp⟩
  | append_singleton l e ih =>
    obtain ⟨p, d, q, hsplit, hd, hlt, hq⟩ := ih
    rcases Nat.lt_or_ge i e.level with he | he
    · refine ⟨c :: l, e, [], by simp, ?_, he, by simp⟩
      rw [levelCells_append, levelCells_cons_of_lt he, levelCells_nil]
      simp
    · refine ⟨p, d, q ++ [e], ?_, ?_, hlt, ?_⟩
      · rw [← List.cons_append, hsplit, List.append_assoc, List.cons_append]
      · rw [hd, levelCells_append, levelCells_cons_of_le he, levelCells_nil, List.append_nil]
      · intro f hf
        rcases List.mem_append.mp hf with hf | hf
        · exact hq f hf
        · rw [List.mem_singleton] at hf
          exact hf ▸ he

theorem getLastD_append_cons {α : Type} (l : List α) (a : α) (l' : List α) (d : α) :
    (l ++ a :: l').getLastD d = l'.getLastD a := by
  induction l generalizing d with
  | nil => rw [List.nil_append, List.getLastD_cons]
  | cons b l ih => rw [List.cons_append, List.getLastD_cons, ih]

variable {gsl : GtidIntervalSkipList} {c : GtidIntervalNode → Bool} {p l : List Cell} {z : Cell}

theorem nodeTest_of_stores {d : Cell} (hs : Stores nodes d) {v : Bool}
    (hv : ∀ n : GtidIntervalNode, n.level = d.level → n.start = d.start → n.end = d.end → c n = v) :
    nodeTest nodes c d.addr = v := by
  obtain ⟨n, hn, h₁, h₂, h₃, -⟩ := hs
  simp [nodeTest, hn, hv n h₁ h₂ h₃]

/-- The search loop below level `k`, entered at any cell of the prefix that is linked
there. -/
theorem predecessorsFrom_eq (hl : Linked gsl.nodes (p ++ l)) (hsize : p.length ≤ gsl.nodes.size)
    (hp : ∀ d ∈ p.tail, nodeTest gsl.nodes c d.addr = true)
    (hf : ∀ d ∈ l, nodeTest gsl.nodes c d.addr = false) (k : Nat) :
    ∀ q d r, p = q ++ d :: r → k ≤ d.level → ∀ j < k,
      predecessorsFrom gsl c k d.addr j = (levelCells j p).getLastD gsl.header := by
  induction k with
  | zero => intro _ _ _ _ _ j hj; omega
  | succ k ih =>
    intro q d r hsplit hk j hj
    have hkd : k < d.level := hk
    have hlinked : Linked gsl.nodes (q ++ d :: (r ++ l)) := by
      rw [hsplit] at hl
      simpa using hl
    -- the walk on level `k` ends at the last cell of the prefix above `k`
    have hwalk : walkWhile (forward gsl.nodes k) (nodeTest gsl.nodes c) gsl.nodes.size d.addr =
        (levelCells k r).getLastD d.addr := by
      refine walkWhile_chain (q := levelCells k l) ?_ ?_ ?_ ?_
      · rw [← levelCells_append]
        exact hlinked.chain_from hkd
      · intro a ha
        obtain ⟨e, he, -, rfl⟩ := mem_levelCells.mp ha
        refine hp e ?_
        rw [hsplit]
        cases q with
        | nil => simpa using he
        | cons f q => simp [he]
      · intro a ha
        obtain ⟨e, he, -, rfl⟩ := mem_levelCells.mp ha
        exact hf e he
      · have h₁ : (levelCells k r).length ≤ r.length := by
          rw [levelCells, List.length_map]
          exact List.length_filter_le _ _
        have h₂ : r.length ≤ p.length := by
          rw [hsplit, List.length_append, List.length_cons]
          omega
        omega
    obtain ⟨q', d', r', hsplit', hd', hlt', -⟩ := exists_last_above hkd r
    have hlast : (levelCells k p).getLastD gsl.header = d'.addr := by
      rw [hsplit, levelCells_append, levelCells_cons_of_lt hkd, getLastD_append_cons, hd']
    rw [predecessorsFrom]
    simp only [hwalk, ← hd']
    split
    · rename_i hjk
      rw [hjk, hlast]
    · refine ih (q ++ q') d' r' ?_ (by omega) j (by omega)
      rw [hsplit, hsplit', List.append_assoc]

/-- **A search whose condition holds exactly on a prefix of the cells stops, on every
level, at the last cell of the prefix linked there** (the header if there is none). -/
theorem predecessors_eq (hl : Linked gsl.nodes ((z :: p) ++ l)) (hhd : z.addr = gsl.header)
    (hlevel : gsl.level ≤ z.level) (hsize : p.length + 1 ≤ gsl.nodes.size)
    (hp : ∀ d ∈ p, nodeTest gsl.nodes c d.addr = true)
    (hf : ∀ d ∈ l, nodeTest gsl.nodes c d.addr = false) {i : Nat} (hi : i < gsl.level) :
    predecessors gsl c i = (levelCells i p).getLastD gsl.header := by
  have h := predecessorsFrom_eq (p := z :: p) hl (by simpa using hsize) (by simpa using hp) hf
    gsl.level [] z p rfl hlevel i hi
  rw [predecessors, ← hhd, h, levelCells_cons_of_lt (by omega), List.getLastD_cons, hhd]

/-! ## Assigning pointers and fields -/

theorem get_setForward (i : Nat) (a b : Addr) (v : Option Addr) :
    (setForward nodes i a v).get b =
      if b = a then (nodes.get b).map (fun n => { n with forwards := n.forwards.set i v })
      else nodes.get b := by
  rw [setForward, Arena.get_modify]

theorem stores_setForward {i : Nat} {a : Addr} {v : Option Addr} {d : Cell} :
    Stores (setForward nodes i a v) d ↔ Stores nodes d := by
  unfold Stores
  rw [get_setForward]
  split
  · constructor
    · rintro ⟨n, hn, h⟩
      obtain ⟨m, hm, rfl⟩ := Option.map_eq_some_iff.mp hn
      exact ⟨m, hm, by simpa using h⟩
    · rintro ⟨n, hn, h⟩
      exact ⟨_, Option.map_eq_some_iff.mpr ⟨n, hn, rfl⟩, by simpa using h⟩
  · exact Iff.rfl

theorem forward_setForward_self {i : Nat} {v : Option Addr} {d : Cell} (hs : Stores nodes d)
    (hi : i < d.level) : forward (setForward nodes i d.addr v) i d.addr = v := by
  obtain ⟨n, hn, -, -, -, hlen⟩ := hs
  rw [forward, get_setForward, if_pos rfl, hn]
  have : i < n.forwards.length := by omega
  simp [List.getElem?_set_self this]

theorem forward_setForward_of_ne {i j : Nat} {a b : Addr} {v : Option Addr}
    (h : j ≠ i ∨ b ≠ a) : forward (setForward nodes i a v) j b = forward nodes j b := by
  rw [forward, get_setForward]
  split
  · rename_i hba
    have hji : j ≠ i := h.resolve_right (fun hne => hne hba)
    cases hn : nodes.get b with
    | none => simp [forward, hn]
    | some n => simp [forward, hn, List.getElem?_set_ne (Ne.symm hji)]
  · rfl

/-- A value read through level `i` only. -/
def ReadsLevel (value : Arena GtidIntervalNode → Nat → Option Addr) : Prop :=
  ∀ h h' i, (∀ b, forward h' i b = forward h i b) → value h' i = value h i

theorem stores_relink {preds : Nat → Addr} {value : Arena GtidIntervalNode → Nat → Option Addr}
    {is : List Nat} {d : Cell} : Stores (relink preds value is nodes) d ↔ Stores nodes d := by
  induction is generalizing nodes with
  | nil => exact Iff.rfl
  | cons i is ih =>
    rw [relink, List.foldl_cons, ← relink, ih, stores_setForward]

/-- **A loop over distinct levels assigns each of them once.** -/
theorem forward_relink {f : Nat → Addr}
    {v : Arena GtidIntervalNode → Nat → Option Addr} (hv : ReadsLevel v) {k : List Nat}
    (hnd : k.Nodup) (hpred : ∀ i ∈ k, ∃ d, Stores nodes d ∧ d.addr = f i ∧ i < d.level)
    (j : Nat) (b : Addr) :
    forward (relink f v k nodes) j b =
      if j ∈ k ∧ b = f j then v nodes j else forward nodes j b := by
  induction k generalizing nodes with
  | nil => simp [relink]
  | cons i k ih =>
    obtain ⟨hni, hnd⟩ := List.nodup_cons.mp hnd
    obtain ⟨d, hd, hda, hid⟩ := hpred i (by simp)
    have hstep := @ih (setForward nodes i (f i) (v nodes i)) hnd (by
      intro m hm
      obtain ⟨e, he, hrest⟩ := hpred m (by simp [hm])
      exact ⟨e, stores_setForward.mpr he, hrest⟩)
    rw [relink, List.foldl_cons, ← relink, hstep]
    by_cases hji : j = i
    · subst hji
      rw [if_neg (fun h => hni h.1)]
      by_cases hb : b = f j
      · rw [if_pos ⟨by simp, hb⟩, hb, ← hda, forward_setForward_self hd hid]
      · rw [if_neg (fun h => hb h.2), forward_setForward_of_ne (Or.inr hb)]
    · have hsame : ∀ b, forward (setForward nodes i (f i) (v nodes i)) j b =
          forward nodes j b := fun b => forward_setForward_of_ne (Or.inl hji)
      rw [hv _ _ j hsame, hsame]
      simp [hji]

theorem stores_linkNode {preds : Nat → Addr} {x : Addr} {n : Nat} {d : Cell} :
    Stores (linkNode preds x n nodes) d ↔ Stores nodes d := by
  induction n with
  | zero => exact Iff.rfl
  | succ n ih =>
    rw [linkNode, List.range_succ, List.foldl_append, ← linkNode]
    simp only [List.foldl_cons, List.foldl_nil]
    rw [stores_setForward, stores_setForward, ih]

/-- The pointers after the loop that links a new node behind its predecessors. -/
theorem forward_linkNode {preds : Nat → Addr} {x : Cell} {n : Nat} (hx : Stores nodes x)
    (hn : n ≤ x.level)
    (hpred : ∀ i < n, preds i ≠ x.addr ∧ ∃ d, Stores nodes d ∧ d.addr = preds i ∧ i < d.level)
    (j : Nat) (b : Addr) :
    forward (linkNode preds x.addr n nodes) j b =
      if j < n ∧ b = preds j then some x.addr
      else if j < n ∧ b = x.addr then forward nodes j (preds j)
      else forward nodes j b := by
  induction n generalizing b with
  | zero => simp [linkNode]
  | succ n ih =>
    have ih := ih (by omega) (fun i hi => hpred i (by omega))
    obtain ⟨hne, d, hd, hda, hid⟩ := hpred n (by omega)
    rw [linkNode, List.range_succ, List.foldl_append, ← linkNode]
    simp only [List.foldl_cons, List.foldl_nil]
    by_cases hjn : j = n
    · subst hjn
      -- the earlier iterations have not touched this level
      have hold : ∀ b, forward (linkNode preds x.addr j nodes) j b = forward nodes j b := by
        intro b
        rw [ih b]
        simp
      by_cases hb : b = preds j
      · rw [if_pos ⟨by omega, hb⟩, hb, ← hda]
        exact forward_setForward_self (stores_setForward.mpr (stores_linkNode.mpr hd)) hid
      · rw [if_neg (fun h => hb h.2), forward_setForward_of_ne (Or.inr hb)]
        by_cases hbx : b = x.addr
        · rw [if_pos ⟨by omega, hbx⟩, hbx, hold]
          exact forward_setForward_self (stores_linkNode.mpr hx) (by omega)
        · rw [if_neg (fun h => hbx h.2), forward_setForward_of_ne (Or.inr hbx), hold]
    · have hlt : j < n + 1 ↔ j < n := by omega
      rw [forward_setForward_of_ne (Or.inl hjn), forward_setForward_of_ne (Or.inl hjn), ih b]
      simp only [hlt]

/-- **Splicing.**  Redirecting, on every level, the pointer of the last cell of `p` linked
there to the first such cell of `q` turns `p ++ l` into `p ++ q`. -/
theorem Linked.splice {p q l : List Cell} (hl : Linked nodes (p ++ l)) (hq : Linked nodes' q)
    (hnd : (p.map Cell.addr).Nodup) (hs : ∀ c ∈ p, Stores nodes' c)
    (hf : ∀ c ∈ p, ∀ i < c.level, forward nodes' i c.addr =
      if (levelCells i p).getLast? = some c.addr then (levelCells i q).head?
      else forward nodes i c.addr) : Linked nodes' (p ++ q) := by
  induction p with
  | nil => exact hq
  | cons c p ih =>
    obtain ⟨hcp, hnd⟩ := List.nodup_cons.mp hnd
    rw [List.cons_append, linked_cons] at hl ⊢
    refine ⟨hs c (by simp), ?_, ?_⟩
    · intro i hi
      rw [hf c (by simp) i hi, levelCells_cons_of_lt hi]
      cases hlast : (levelCells i p).getLast? with
      | none =>
        rw [List.getLast?_eq_none_iff] at hlast
        rw [hlast, levelCells_append, hlast]
        simp
      | some a =>
        obtain ⟨d, hd, -, hda⟩ := mem_levelCells.mp (List.mem_of_getLast? hlast)
        have hne : (c.addr :: levelCells i p).getLast? ≠ some c.addr := by
          rw [List.getLast?_cons, hlast]
          simp only [Option.getD_some, ne_eq, Option.some.injEq]
          rintro rfl
          exact hcp (List.mem_map.mpr ⟨d, hd, hda⟩)
        rw [if_neg hne, hl.2.1 i hi, levelCells_append, levelCells_append,
          List.head?_append_of_ne_nil _ (by intro h; simp [h] at hlast),
          List.head?_append_of_ne_nil _ (by intro h; simp [h] at hlast)]
    · refine ih hl.2.2 hnd (fun d hd => hs d (by simp [hd])) ?_
      intro d hd i hi
      rw [hf d (by simp [hd]) i hi]
      -- the last cell of `c :: p` on a level where `p` has one is the last of `p`
      have hmem : d.addr ∈ levelCells i p := mem_levelCells.mpr ⟨d, hd, hi, rfl⟩
      rcases Nat.lt_or_ge i c.level with hic | hic
      · rw [levelCells_cons_of_lt hic, List.getLast?_cons]
        cases hlast : (levelCells i p).getLast? with
        | none =>
          rw [List.getLast?_eq_none_iff] at hlast
          rw [hlast] at hmem
          cases hmem
        | some a => rfl
      · rw [levelCells_cons_of_le hic]

/-- A linked list whose cells keep their fields and their pointers. -/
theorem Linked.of_forward {l : List Cell} (h : Linked nodes l) (hs : ∀ c ∈ l, Stores nodes' c)
    (hf : ∀ c ∈ l, ∀ i < c.level, forward nodes' i c.addr = forward nodes i c.addr) :
    Linked nodes' l := by
  induction l with
  | nil => trivial
  | cons c l ih =>
    refine ⟨hs c (by simp), ?_, ih h.2.2 (fun d hd => hs d (by simp [hd]))
      (fun d hd => hf d (by simp [hd]))⟩
    intro i hi
    rw [hf c (by simp) i hi, h.2.1 i hi]

/-- The cell a search stops at is stored, and is a cell of the prefix. -/
theorem Linked.exists_pred (h : Linked nodes ((z :: p) ++ l)) {i : Nat} (hi : i < z.level) :
    ∃ d ∈ z :: p, Stores nodes d ∧ d.addr = (levelCells i p).getLastD z.addr ∧ i < d.level := by
  obtain ⟨q, d, r, hsplit, hda, hid, -⟩ := exists_last_above hi p
  have hmem : d ∈ z :: p := by rw [hsplit]; simp
  exact ⟨d, hmem, h.stores (List.mem_append_left _ hmem), hda, hid⟩

/-- Its pointer goes to the first cell after the prefix that is linked on the level. -/
theorem Linked.forward_pred (h : Linked nodes ((z :: p) ++ l)) {i : Nat} (hi : i < z.level) :
    forward nodes i ((levelCells i p).getLastD z.addr) = (levelCells i l).head? := by
  obtain ⟨q, d, r, hsplit, hda, hid, hr⟩ := exists_last_above hi p
  rw [hsplit, List.append_assoc, List.cons_append] at h
  rw [← hda, h.forward_eq hid, levelCells_append, levelCells_eq_nil hr, List.nil_append]

/-- Splicing behind the cells that a search stops at. -/
theorem Linked.splice_pred {q : List Cell} (hl : Linked nodes ((z :: p) ++ l))
    (hq : Linked nodes' q) (hnd : ((z :: p).map Cell.addr).Nodup)
    (hlv : ∀ c ∈ p, c.level ≤ z.level) (hs : ∀ c ∈ z :: p, Stores nodes' c)
    (hf : ∀ c ∈ z :: p, ∀ i < c.level, forward nodes' i c.addr =
      if c.addr = (levelCells i p).getLastD z.addr then (levelCells i q).head?
      else forward nodes i c.addr) : Linked nodes' ((z :: p) ++ q) := by
  refine hl.splice hq hnd hs ?_
  intro c hc i hi
  have hih : i < z.level := by
    rcases List.mem_cons.mp hc with rfl | hc
    · exact hi
    · exact Nat.lt_of_lt_of_le hi (hlv c hc)
  have hlast : (levelCells i (z :: p)).getLast? = some ((levelCells i p).getLastD z.addr) := by
    rw [levelCells_cons_of_lt hih, List.getLast?_cons, List.getLastD_eq_getLast?]
  rw [hf c hc i hi, hlast]
  simp only [Option.some.injEq, eq_comm]

/-- Assigning fields of one cell, its pointers apart. -/
theorem Linked.modify {p l : List Cell} {c d : Cell} {f : GtidIntervalNode → GtidIntervalNode}
    (h : Linked nodes (p ++ c :: l)) (hnd : ((p ++ c :: l).map Cell.addr).Nodup)
    (ha : d.addr = c.addr) (hlv : d.level = c.level)
    (hf : ∀ n, nodes.get c.addr = some n → (f n).level = n.level ∧ (f n).forwards = n.forwards ∧
      (f n).start = d.start ∧ (f n).end = d.end) :
    Linked (nodes.modify c.addr f) (p ++ d :: l) := by
  induction p with
  | nil =>
    obtain ⟨n, hn, hnl, -, -, hlen⟩ := h.1
    obtain ⟨h₁, h₂, h₃, h₄⟩ := hf n hn
    have hget : (nodes.modify c.addr f).get d.addr = some (f n) := by
      rw [ha, Arena.get_modify_self f hn]
    refine ⟨⟨f n, hget, by omega, h₃, h₄, by rw [h₂]; omega⟩, ?_, ?_⟩
    · intro i hi
      rw [forward_of_get hget, h₂, ← forward_of_get hn]
      exact h.2.1 i (by omega)
    · refine h.2.2.congr ?_
      intro e he
      refine Arena.get_modify_of_ne _ _ ?_
      intro hec
      simp only [List.nil_append, List.map_cons, List.nodup_cons] at hnd
      exact hnd.1 (hec ▸ List.mem_map_of_mem he)
  | cons e p ih =>
    simp only [List.cons_append, List.map_cons, List.nodup_cons] at hnd
    have hec : e.addr ≠ c.addr := by
      intro hec
      refine hnd.1 (List.mem_map.mpr ⟨c, by simp, hec.symm⟩)
    have hget : (nodes.modify c.addr f).get e.addr = nodes.get e.addr :=
      Arena.get_modify_of_ne _ _ hec
    rw [List.cons_append, linked_cons] at h ⊢
    refine ⟨h.1.congr hget, ?_, ih h.2.2 hnd.2⟩
    intro i hi
    have hcells : levelCells i (p ++ d :: l) = levelCells i (p ++ c :: l) := by
      rw [levelCells_append, levelCells_append, levelCells_congr ha hlv]
    rw [forward_congr hget, h.2.1 i hi, hcells]

/-- **Linking a stored cell behind the predecessors of its levels** inserts it into the
list. -/
theorem Linked.linkNode {x : Cell} {f : Nat → Addr} (hl : Linked nodes ((z :: p) ++ l))
    (hx : Stores nodes x) (hxl : x.level ≤ z.level) (hlv : ∀ c ∈ p, c.level ≤ z.level)
    (hnd : ((z :: p ++ x :: l).map Cell.addr).Nodup)
    (hpreds : ∀ i < x.level, f i = (levelCells i p).getLastD z.addr) :
    Linked (linkNode f x.addr x.level nodes) (z :: p ++ x :: l) := by
  rw [List.map_append, List.nodup_append] at hnd
  obtain ⟨hndp, hndl, hne⟩ := hnd
  have hpred : ∀ i < x.level, ∃ d ∈ z :: p, Stores nodes d ∧ d.addr = f i ∧ i < d.level := by
    intro i hi
    rw [hpreds i hi]
    exact hl.exists_pred (Nat.lt_of_lt_of_le hi hxl)
  have hpx : ∀ d ∈ z :: p, d.addr ≠ x.addr := fun d hd =>
    hne _ (List.mem_map_of_mem hd) _ (by simp)
  have hpl : ∀ d ∈ z :: p, ∀ c ∈ l, d.addr ≠ c.addr := fun d hd c hc =>
    hne _ (List.mem_map_of_mem hd) _ (by simp only [List.map_cons, List.mem_cons]
                                         exact Or.inr (List.mem_map_of_mem hc))
  have hfw := forward_linkNode hx (Nat.le_refl _) (fun i hi => by
    obtain ⟨d, hd, hs, hda, hid⟩ := hpred i hi
    exact ⟨hda ▸ hpx d hd, d, hs, hda, hid⟩)
  have hstores : ∀ {c : Cell}, Stores nodes c → Stores (XredisGtid.linkNode f x.addr x.level nodes) c :=
    fun h => stores_linkNode.mpr h
  have hq : Linked (XredisGtid.linkNode f x.addr x.level nodes) (x :: l) := by
    refine linked_cons.mpr ⟨hstores hx, ?_, ?_⟩
    · intro i hi
      obtain ⟨d, hd, -, hda, -⟩ := hpred i hi
      rw [hfw, if_neg (fun h => hpx d hd (hda.trans h.2.symm)), if_pos ⟨hi, rfl⟩, hpreds i hi]
      exact hl.forward_pred (Nat.lt_of_lt_of_le hi hxl)
    · refine hl.append_right.of_forward (fun c hc => hstores (hl.append_right.stores hc)) ?_
      intro c hc i hi
      have hcx : c.addr ≠ x.addr := by
        intro h
        rw [List.map_cons, List.nodup_cons] at hndl
        exact hndl.1 (h ▸ List.mem_map_of_mem hc)
      rw [hfw, if_neg, if_neg (fun h => hcx h.2)]
      rintro ⟨hix, hcp⟩
      obtain ⟨d, hd, -, hda, -⟩ := hpred i hix
      exact hpl d hd c hc (hda.trans hcp.symm)
  refine hl.splice_pred hq hndp hlv (fun c hc => hstores (hl.stores (List.mem_append_left _ hc))) ?_
  intro c hc i hi
  have hih : i < z.level := by
    rcases List.mem_cons.mp hc with rfl | hc
    · exact hi
    · exact Nat.lt_of_lt_of_le hi (hlv c hc)
  rw [hfw]
  by_cases hix : i < x.level
  · rw [← hpreds i hix, levelCells_cons_of_lt hix]
    by_cases hcp : c.addr = f i
    · rw [if_pos ⟨hix, hcp⟩, if_pos hcp, List.head?_cons]
    · rw [if_neg (fun h => hcp h.2), if_neg (fun h => hpx c hc h.2), if_neg hcp]
  · rw [if_neg (fun h => hix h.1), if_neg (fun h => hix h.1)]
    -- a level the new cell does not reach keeps its pointers
    split
    · rename_i hcp
      rw [levelCells_cons_of_le (by omega), hcp]
      exact hl.forward_pred hih
    · rfl

/-! ## Freeing a run and lowering the level -/

/-- **The loop frees exactly the cells up to the one it stops at**, counting them and their
gnos, and changes no other cell. -/
theorem freeRun_eq {m l : List Cell} (hl : Linked nodes (m ++ l))
    (hlv : ∀ c ∈ m ++ l, 1 ≤ c.level) (hnd : ((m ++ l).map Cell.addr).Nodup)
    {stop : Option Addr} (hstop : stop = (l.map Cell.addr).head?) {fuel : Nat}
    (hfuel : m.length < fuel) :
    ∃ nodes', freeRun stop fuel ((m ++ l).map Cell.addr).head? nodes =
        (nodes', m.length, IntervalList.size (m.map Cell.interval)) ∧
      ∀ a, a ∉ m.map Cell.addr → nodes'.get a = nodes.get a := by
  induction m generalizing nodes fuel with
  | nil =>
    refine ⟨nodes, ?_, fun _ _ => rfl⟩
    obtain ⟨fuel, rfl⟩ := Nat.exists_eq_succ_of_ne_zero (by omega : fuel ≠ 0)
    rw [List.nil_append, hstop]
    cases l with
    | nil => rfl
    | cons c l => simp [freeRun]
  | cons c m ih =>
    obtain ⟨fuel, rfl⟩ := Nat.exists_eq_succ_of_ne_zero (by omega : fuel ≠ 0)
    simp only [List.cons_append, List.map_cons, List.nodup_cons] at hnd
    rw [List.cons_append, linked_cons] at hl
    obtain ⟨n, hn, -, hns, hne, -⟩ := hl.1
    have hnext : forward nodes 0 c.addr = ((m ++ l).map Cell.addr).head? := by
      rw [hl.2.1 0 (hlv c (by simp)),
        levelCells_zero (fun d hd => hlv d (by simp at hd ⊢; tauto))]
    have hstopc : some c.addr ≠ stop := by
      rw [hstop]
      intro h
      refine hnd.1 ?_
      rw [List.map_append]
      exact List.mem_append_right _ (List.mem_of_head? h.symm)
    have hframe : ∀ d ∈ m ++ l, (nodes.free c.addr).get d.addr = nodes.get d.addr := by
      intro d hd
      refine Arena.get_free_of_ne ?_
      intro hdc
      exact hnd.1 (hdc ▸ List.mem_map_of_mem hd)
    have hshort : m.length < fuel := by simp at hfuel; omega
    obtain ⟨nodes', hrun, hget⟩ := ih (hl.2.2.congr hframe)
      (fun d hd => hlv d (by simp at hd ⊢; tauto)) hnd.2 hshort
    refine ⟨nodes', ?_, ?_⟩
    · simp only [List.cons_append, List.map_cons, List.head?_cons, freeRun, if_neg hstopc, hn,
        hnext, hrun, List.length_cons, IntervalList.size_cons]
      simp [gtidIntervalNodeGnoCount, hns, hne, Cell.interval]
    · intro a ha
      simp only [List.map_cons, List.mem_cons, not_or] at ha
      rw [hget a ha.2, Arena.get_free_of_ne ha.1]

/-- The largest level of the cells, at least one. -/
def topLevel (l : List Cell) : Nat := (l.map Cell.level).foldr max 1

theorem le_topLevel {l : List Cell} {c : Cell} (hc : c ∈ l) : c.level ≤ topLevel l := by
  induction l with
  | nil => simp at hc
  | cons d l ih =>
    simp only [topLevel, List.map_cons, List.foldr_cons]
    rcases List.mem_cons.mp hc with rfl | hc
    · exact Nat.le_max_left _ _
    · exact Nat.le_trans (ih hc) (Nat.le_max_right _ _)

theorem one_le_topLevel (l : List Cell) : 1 ≤ topLevel l := by
  induction l with
  | nil => exact Nat.le_refl 1
  | cons d l ih => exact Nat.le_trans ih (Nat.le_max_right _ _)

theorem topLevel_le {l : List Cell} {n : Nat} (hn : 1 ≤ n) (h : ∀ c ∈ l, c.level ≤ n) :
    topLevel l ≤ n := by
  induction l with
  | nil => exact hn
  | cons d l ih => exact Nat.max_le.mpr ⟨h d (by simp), ih (fun c hc => h c (by simp [hc]))⟩

/-- Some cell reaches the top level, or it is the default. -/
theorem topLevel_attained (l : List Cell) : topLevel l = 1 ∨ ∃ c ∈ l, c.level = topLevel l := by
  induction l with
  | nil => exact Or.inl rfl
  | cons d l ih =>
    have hd : topLevel (d :: l) = max d.level (topLevel l) := rfl
    rcases Nat.le_total (topLevel l) d.level with h | h
    · exact Or.inr ⟨d, by simp, by rw [hd, Nat.max_eq_left h]⟩
    · rw [hd, Nat.max_eq_right h]
      exact ih.imp id (fun ⟨c, hc, he⟩ => ⟨c, by simp [hc], he⟩)

/-- **Lowering the level while the header has no pointer there ends at the top level of the
cells.** -/
theorem shrinkLevel_eq {l : List Cell} (hl : Linked nodes (z :: l)) {n : Nat}
    (hn : n ≤ z.level) (htop : topLevel l ≤ n) :
    shrinkLevel nodes z.addr n = topLevel l := by
  have h1 := one_le_topLevel l
  induction n with
  | zero => omega
  | succ n ih =>
    cases n with
    | zero => simp only [shrinkLevel]; omega
    | succ n =>
      rw [shrinkLevel, hl.2.1 (n + 1) (by omega)]
      by_cases hlt : topLevel l ≤ n + 1
      · rw [levelCells_eq_nil (fun c hc => Nat.le_trans (le_topLevel hc) hlt)]
        simpa using ih (by omega) hlt
      · have heq : topLevel l = n + 2 := by omega
        obtain ⟨c, hc, hcl⟩ := (topLevel_attained l).resolve_left (by omega)
        have hmem : c.addr ∈ levelCells (n + 1) l := mem_levelCells.mpr ⟨c, hc, by omega, rfl⟩
        rw [if_neg, heq]
        intro hnil
        rw [List.head?_eq_none_iff] at hnil
        rw [hnil] at hmem
        cases hmem

end Links

end XredisGtid
