import XredisGtid.GtidSet

/-!
# The list of uuid sets

`SetLinks` says that the records from the header on are those at the addresses `as`, all of
them allocated and no two at one address, and that `tail` is the last of them.  The four
changes the operations make to a list keep it: a record is assigned, appended, unlinked
and freed, or linked behind its predecessor when a list is copied.

Nothing here looks at the gnos of a record, so the lemmas serve sets whose skip lists are
well formed and sets whose skip lists are not.
-/
namespace XredisGtid
open Memory

structure SetLinks (cells : Arena UuidSet) (header tail : Option Addr) (as : List Addr) :
    Prop where
  chain : Chain (uuidSetNextOf cells) header as
  nodup : as.Nodup
  alive : ∀ a ∈ as, ∃ u, cells.get a = some u
  tail : tail = as.getLast?

/-- The record at `a` is what it was, up to its pointer to the next one. -/
def KeepsRecord (cells cells' : Arena UuidSet) (a : Addr) : Prop :=
  ∀ u, cells.get a = some u → ∃ next, cells'.get a = some { u with next := next }

section Links
variable {cells cells' : Arena UuidSet} {header tail : Option Addr} {as p q : List Addr}
  {a b : Addr} {u v : UuidSet} {s : GtidSet} {uuid : Uuid}

theorem uuidSetNextOf_congr (h : cells'.get a = cells.get a) :
    uuidSetNextOf cells' a = uuidSetNextOf cells a := by
  simp [uuidSetNextOf, h]

theorem uuidSetNextOf_of_get (h : cells.get a = some u) : uuidSetNextOf cells a = u.next := by
  simp [uuidSetNextOf, h]

theorem KeepsRecord.of_eq (h : cells'.get a = cells.get a) : KeepsRecord cells cells' a :=
  fun u hu => ⟨u.next, h.trans hu⟩

theorem setLinks_new : SetLinks gtidSetNew.uuidSetCells gtidSetNew.header gtidSetNew.tail [] :=
  ⟨rfl, List.nodup_nil, by simp, rfl⟩

namespace SetLinks

theorem lt_size (h : SetLinks cells header tail as) (ha : a ∈ as) : a < cells.size := by
  obtain ⟨u, hu⟩ := h.alive a ha
  exact Arena.lt_size_of_get hu

theorem ne_fresh (h : SetLinks cells header tail as) (ha : a ∈ as) : a ≠ cells.fresh :=
  Nat.ne_of_lt (h.lt_size ha)

theorem length_le (h : SetLinks cells header tail as) : as.length ≤ cells.size :=
  length_le_of_nodup_lt h.nodup (fun _ ha => h.lt_size ha)

/-- A loop over the list visits the records in order. -/
theorem uuidSets_eq (h : SetLinks s.uuidSetCells s.header s.tail as) : uuidSets s = as :=
  follow_chain h.chain h.length_le

/-- The record at a place in the list, with its pointer to the next one. -/
theorem get (h : SetLinks cells header tail (p ++ a :: q)) :
    ∃ u, cells.get a = some u ∧ u.next = q.head? := by
  obtain ⟨u, hu⟩ := h.alive a (by simp)
  refine ⟨u, hu, ?_⟩
  rw [← uuidSetNextOf_of_get hu]
  exact h.chain.next_eq

theorem ne (h : SetLinks cells header tail (p ++ a :: q)) (hb : b ∈ p ∨ b ∈ q) : b ≠ a := by
  have hnd := h.nodup
  rw [List.nodup_append, List.nodup_cons] at hnd
  rcases hb with hb | hb
  · exact hnd.2.2 _ hb _ (by simp)
  · rintro rfl
    exact hnd.2.1.1 hb

/-- The search ends at a record of the list that has the uuid. -/
theorem find_mem (h : SetLinks s.uuidSetCells s.header s.tail as)
    (hfind : gtidSetFind s uuid = some a) :
    a ∈ as ∧ hasUuid s.uuidSetCells uuid a = true := by
  rw [gtidSetFind, h.uuidSets_eq] at hfind
  exact ⟨List.mem_of_find?_eq_some hfind, List.find?_some hfind⟩

/-- **Assigning** a record whose pointer stays. -/
theorem assign (h : SetLinks cells header tail as) (hu : cells.get a = some u)
    (hv : v.next = u.next) : SetLinks (cells.set a v) header tail as := by
  refine ⟨h.chain.congr (fun b _ => ?_), h.nodup, ?_, h.tail⟩
  · by_cases hb : b = a
    · rw [hb, uuidSetNextOf_of_get (Arena.get_set_self v hu), uuidSetNextOf_of_get hu, hv]
    · exact uuidSetNextOf_congr (Arena.get_set_of_ne v hb)
  · intro b hmem
    by_cases hb : b = a
    · rw [hb]
      exact ⟨v, Arena.get_set_self v hu⟩
    · obtain ⟨w, hw⟩ := h.alive b hmem
      exact ⟨w, (Arena.get_set_of_ne v hb).trans hw⟩

/-- **Linking** a new record behind the last one, whether `tail` points to it or not. -/
theorem link (h : SetLinks cells header tail as) (hnext : u.next = none) :
    SetLinks ((cells.alloc u).modifyAt as.getLast? (fun w => { w with next := some cells.fresh }))
      (if as = [] then some cells.fresh else header) (some cells.fresh) (as ++ [cells.fresh]) ∧
    ((cells.alloc u).modifyAt as.getLast? (fun w => { w with next := some cells.fresh })).get
      cells.fresh = some u ∧
    ∀ a ∈ as, KeepsRecord cells ((cells.alloc u).modifyAt as.getLast?
      (fun w => { w with next := some cells.fresh })) a := by
  have hlast : as.getLast? ≠ some cells.fresh := fun he =>
    h.ne_fresh (List.mem_of_getLast? he) rfl
  have hget : ∀ a ∈ as, ((cells.alloc u).modifyAt as.getLast?
      (fun w => { w with next := some cells.fresh })).get a =
        if as.getLast? = some a then
          (cells.get a).map (fun w => { w with next := some cells.fresh })
        else cells.get a := by
    intro a ha
    rw [Arena.get_modifyAt, Arena.get_alloc_of_ne u (h.ne_fresh ha)]
  have hnew : ((cells.alloc u).modifyAt as.getLast?
      (fun w => { w with next := some cells.fresh })).get cells.fresh = some u := by
    rw [Arena.get_modifyAt, if_neg hlast, Arena.get_alloc_fresh]
  have hkeep : ∀ a ∈ as, KeepsRecord cells ((cells.alloc u).modifyAt as.getLast?
      (fun w => { w with next := some cells.fresh })) a := by
    intro a ha w hw
    rw [hget a ha, hw]
    split
    · exact ⟨_, rfl⟩
    · exact ⟨w.next, rfl⟩
  refine ⟨⟨?_, ?_, ?_, ?_⟩, hnew, hkeep⟩
  · have hchain := h.chain
    rw [← List.append_nil as] at hchain
    refine hchain.splice h.nodup ?_ (fun a ha => ?_)
    · exact ⟨rfl, by rw [chain_nil, uuidSetNextOf_of_get hnew, hnext]⟩
    · obtain ⟨w, hw⟩ := h.alive a ha
      simp only [uuidSetNextOf, hget a ha, hw]
      split <;> rfl
  · rw [List.nodup_append]
    refine ⟨h.nodup, List.nodup_singleton _, fun a ha b hb => ?_⟩
    rw [List.mem_singleton] at hb
    exact hb ▸ h.ne_fresh ha
  · intro a ha
    rcases List.mem_append.mp ha with ha | ha
    · obtain ⟨w, hw⟩ := h.alive a ha
      obtain ⟨next, hget⟩ := hkeep a ha w hw
      exact ⟨_, hget⟩
    · rw [List.mem_singleton] at ha
      exact ⟨u, ha ▸ hnew⟩
  · rw [List.getLast?_concat]

/-- **Appending** a record. -/
theorem append (h : SetLinks s.uuidSetCells s.header s.tail as) (hnext : u.next = none) :
    ∃ s', gtidSetAppend s u = some (s', uuidSetCount u) ∧
      SetLinks s'.uuidSetCells s'.header s'.tail (as ++ [s.uuidSetCells.fresh]) ∧
      s'.uuidSetCells.get s.uuidSetCells.fresh = some u ∧
      (∀ a ∈ as, KeepsRecord s.uuidSetCells s'.uuidSetCells a) ∧
      s'.cached = s.cached ∧ s'.current = s.current ∧ s'.curnext = s.curnext := by
  obtain ⟨hlink, hnew, hkeep⟩ := h.link hnext
  refine ⟨{ s with
      header := if as = [] then some s.uuidSetCells.fresh else s.header
      tail := some s.uuidSetCells.fresh
      uuidSetCells := (s.uuidSetCells.alloc u).modifyAt as.getLast?
        (fun w => { w with next := some s.uuidSetCells.fresh }) },
    ?_, hlink, hnew, hkeep, rfl, rfl, rfl⟩
  have hheader : s.header = as.head? := h.chain.head
  cases as with
  | nil =>
    rw [List.head?_nil] at hheader
    simp only [gtidSetAppend, hheader, List.getLast?_nil, Arena.modifyAt, if_true]
  | cons b as =>
    rw [List.head?_cons] at hheader
    have htail := h.tail
    rw [List.getLast?_cons] at htail ⊢
    simp only [gtidSetAppend, hheader, htail, Arena.modifyAt, List.cons_ne_nil, if_false,
      Option.bind_eq_bind, Option.bind_some]

/-- **Unlinking** and freeing a record. -/
theorem unlink (h : SetLinks s.uuidSetCells s.header s.tail (p ++ a :: q)) :
    SetLinks (unlinkUuidSet s a p.getLast? q.head?).uuidSetCells
      (unlinkUuidSet s a p.getLast? q.head?).header
      (unlinkUuidSet s a p.getLast? q.head?).tail (p ++ q) ∧
    ∀ b ∈ p ++ q, KeepsRecord s.uuidSetCells
      (unlinkUuidSet s a p.getLast? q.head?).uuidSetCells b := by
  have hnd := h.nodup
  rw [List.nodup_append, List.nodup_cons] at hnd
  obtain ⟨hndp, ⟨haq, hndq⟩, hcross⟩ := hnd
  have hap : a ∉ p := fun hmem => hcross _ hmem _ (by simp) rfl
  -- the records other than the predecessor keep their contents
  have hcells : ∀ b, b ≠ a → (unlinkUuidSet s a p.getLast? q.head?).uuidSetCells.get b =
      if p.getLast? = some b then
        (s.uuidSetCells.get b).map (fun u => { u with next := q.head? })
      else s.uuidSetCells.get b := by
    intro b hb
    simp only [unlinkUuidSet]
    rw [Arena.get_free_of_ne hb]
    cases hlast : p.getLast? with
    | none => rw [if_neg (by simp)]
    | some c => simp only [Arena.get_modify, Option.some.injEq, eq_comm]
  have hkeep : ∀ b ∈ p ++ q, KeepsRecord s.uuidSetCells
      (unlinkUuidSet s a p.getLast? q.head?).uuidSetCells b := by
    intro b hb u hu
    rw [hcells b (h.ne (List.mem_append.mp hb)), hu]
    split
    · exact ⟨_, rfl⟩
    · exact ⟨u.next, rfl⟩
  refine ⟨⟨?_, ?_, ?_, ?_⟩, hkeep⟩
  · have hnext : ∀ b ∈ p, uuidSetNextOf
        (unlinkUuidSet s a p.getLast? q.head?).uuidSetCells b =
          if p.getLast? = some b then q.head? else uuidSetNextOf s.uuidSetCells b := by
      intro b hb
      obtain ⟨u, hu⟩ := h.alive b (by simp [hb])
      simp only [uuidSetNextOf, hcells b (h.ne (Or.inl hb)), hu]
      split <;> rfl
    have hrest : Chain (uuidSetNextOf (unlinkUuidSet s a p.getLast? q.head?).uuidSetCells)
        q.head? q := by
      have hq := h.chain.suffix.2
      rw [hq.head] at hq
      refine hq.congr (fun b hb => ?_)
      have hlast : p.getLast? ≠ some b := fun he =>
        hcross _ (List.mem_of_getLast? he) _ (by simp [hb]) rfl
      exact uuidSetNextOf_congr ((hcells b (h.ne (Or.inr hb))).trans (if_neg hlast))
    have hsplice := h.chain.splice hndp hrest hnext
    refine Eq.mp (congrArg (fun r => Chain _ r _) ?_) hsplice
    show _ = if s.header = some a then q.head? else s.header
    rw [h.chain.head]
    cases p with
    | nil => simp
    | cons c p =>
      have hca : c ≠ a := h.ne (Or.inl (by simp))
      simp [hca]
  · exact List.nodup_append.mpr ⟨hndp, hndq, fun b hb c hc => hcross b hb c (by simp [hc])⟩
  · intro b hb
    obtain ⟨u, hu⟩ := h.alive b (by
      simp only [List.mem_append, List.mem_cons] at hb ⊢
      tauto)
    obtain ⟨next, hget⟩ := hkeep b hb u hu
    exact ⟨_, hget⟩
  · show (if s.tail = some a then p.getLast? else s.tail) = _
    rw [h.tail]
    cases q with
    | nil => simp
    | cons c q =>
      obtain ⟨t, ht⟩ : ∃ t, (c :: q).getLast? = some t := ⟨_, List.getLast?_cons⟩
      have hta : t ≠ a := h.ne (Or.inr (List.mem_of_getLast? ht))
      rw [List.getLast?_append, List.getLast?_append, List.getLast?_cons_cons, ht,
        Option.some_or, if_neg (fun he => hta (Option.some.inj he))]

end SetLinks

end Links

end XredisGtid
