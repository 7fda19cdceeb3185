import XredisGtid.GtidSetRep

/-!
# The operations on gtid sets

One specification for each operation, in terms of the entries of the set: adding and
asking for the next gno update the first entry of a uuid, removing reduces it, and
merging, diffing and copying are those operations on the whole list.  The number a
merge or a diff returns, and the count, are the exact ones as `long long`.
-/
namespace XredisGtid
open Memory KeyedIntervals

/-- No gno of the entries is `LLONG_MAX`. -/
def EntriesBelow (es : Entries Uuid) : Prop := ∀ e ∈ es, Below e.2

section Ops
variable {s : GtidSet} {l p q : List (Addr × Entry)} {c : Addr × Entry} {uuid : Uuid}
  {start «end» g : Int}

theorem below_lookup {es : Entries Uuid} (h : EntriesBelow es) : Below (lookup uuid es) := by
  induction es with
  | nil => simp [Below]
  | cons e es ih =>
    rw [lookup]
    split
    · exact h e (by simp)
    · exact ih (fun d hd => h d (by simp [hd]))

theorem EntriesBelow.update {es : Entries Uuid} (h : EntriesBelow es)
    {f : List (Int × Int) → List (Int × Int)} (hf : ∀ l, Below l → Below (f l)) :
    EntriesBelow (update uuid f es) := by
  rcases exists_first uuid es with hk | ⟨p, e, q, rfl, hp, he⟩
  · rw [update_of_notMem hk]
    intro e he
    rcases List.mem_append.mp he with he | he
    · exact h e he
    · rw [List.mem_singleton] at he
      subst he
      exact hf [] (by simp [Below])
  · rw [update_append_cons hp he]
    intro d hd
    simp only [List.mem_append, List.mem_cons] at hd
    rcases hd with hd | rfl | hd
    · exact h d (by simp [hd])
    · exact hf e.2 (h e (by simp))
    · exact h d (by simp [hd])

theorem top_lookup_lt {es : Entries Uuid} (h : EntriesBelow es) :
    IntervalList.top (lookup uuid es) < LLONG_MAX :=
  IntervalList.top_lt (by decide) (below_lookup h)

/-- Below the limit any entries can be merged. -/
theorem EntriesBelow.fitsInto {es m : Entries Uuid} (h : EntriesBelow es) (hm : EntriesBelow m) :
    FitsInto LLONG_MAX es m := fun e he _ => (below_lookup h).fitsOnto (hm e he)

theorem EntriesBelow.merge {es m : Entries Uuid} (h : EntriesBelow es) (hm : EntriesBelow m) :
    EntriesBelow (merge es m) := by
  induction m generalizing es with
  | nil => exact h
  | cons e m ih =>
    exact ih (h.update (fun _ hl => hl.union (hm e (by simp)))) (fun d hd => hm d (by simp [hd]))

/-! ## The record of a uuid -/

/-- The cached record of a uuid is the one the search finds. -/
theorem cachedFor_or_find (h : SetRep s l) (hd : (cellKeys l).Nodup) :
    (cachedFor s uuid).or (gtidSetFind s uuid) = gtidSetFind s uuid := by
  cases hcached : cachedFor s uuid with
  | none => rfl
  | some cur =>
    obtain ⟨hcur, hyes⟩ := Option.filter_eq_some_iff.mp hcached
    obtain ⟨c, hc, rfl⟩ := List.mem_map.mp (h.cached cur hcur)
    obtain ⟨p, q, rfl⟩ := List.append_of_mem hc
    rw [hasUuid_of_holds (h.holds c hc), decide_eq_true_eq] at hyes
    have hp : uuid ∉ cellKeys p := by
      rw [cellKeys, List.map_append, List.map_cons, keys_append, keys_cons,
        List.nodup_append] at hd
      intro hmem
      exact hd.2.2 _ hmem _ (by simp) hyes.symm
    rw [gtidSetFind_of_first h hp hyes, Option.some_or]

/-- **Finding or appending the record of a uuid.**  It is the first of that uuid, every
earlier record stays, and assigning its intervals updates the entries. -/
theorem findOrAppend_rep (h : SetRep s l) (uuid : Uuid) :
    ∃ s' p c q, findOrAppend s (gtidSetFind s uuid) uuid = some (s', c.1) ∧
      SetRep s' (p ++ c :: q) ∧ c.2.1 = uuid ∧ c.2.2 = lookup uuid (l.map Prod.snd) ∧
      (∀ f, (p ++ (c.1, (uuid, f c.2.2)) :: q).map Prod.snd =
        update uuid f (l.map Prod.snd)) ∧
      (∀ d ∈ l, d ∈ p ++ c :: q) ∧
      s'.current = s.current ∧ s'.curnext = s.curnext := by
  rcases exists_first_cell uuid l with hk | ⟨p, c, q, rfl, hp, hc⟩
  · have hnew := gtidIntervalSkipListNew_spec
    obtain ⟨s', happ, hrep, -, hcur, hnext⟩ :=
      gtidSetAppend_rep (u := uuidSetNew uuid) h rfl hnew.1
    refine ⟨s', l, (s.uuidSetCells.fresh, (uuid, [])), [], ?_, ?_, rfl, ?_, ?_, ?_, hcur, hnext⟩
    · rw [gtidSetFind_of_notMem h hk]
      simp only [findOrAppend, happ, Option.bind_eq_bind, Option.bind_some]
    · have : intervals (uuidSetNew uuid).intervals = [] := hnew.2
      rw [this] at hrep
      exact hrep
    · rw [lookup_of_notMem hk]
    · intro f
      rw [update_of_notMem hk, List.map_append]
      rfl
    · exact fun d hd => List.mem_append_left _ hd
  · refine ⟨s, p, c, q, ?_, h, hc, ?_, ?_, fun d hd => hd, rfl, rfl⟩
    · rw [gtidSetFind_of_first h hp hc]
      rfl
    · rw [List.map_append, List.map_cons, lookup_append_cons hp hc]
    · intro f
      rw [List.map_append, List.map_cons, List.map_append, List.map_cons,
        update_append_cons hp hc]

/-- Records that stay where they are, with their uuids. -/
def Keeps (l l' : List (Addr × Entry)) : Prop := ∀ d ∈ l, ∃ d' ∈ l', d'.1 = d.1 ∧ d'.2.1 = d.2.1

theorem keeps_assign {e : Entry} (hc : e.1 = c.2.1) (hl : ∀ d ∈ l, d ∈ p ++ c :: q) :
    Keeps l (p ++ (c.1, e) :: q) := by
  intro d hd
  have hmem := hl d hd
  simp only [List.mem_append, List.mem_cons] at hmem
  rcases hmem with hmem | rfl | hmem
  · exact ⟨d, by simp [hmem], rfl, rfl⟩
  · exact ⟨(d.1, e), by simp, rfl, hc⟩
  · exact ⟨d, by simp [hmem], rfl, rfl⟩

theorem mem_fst_middle : ∀ a, some c.1 = some a → a ∈ (p ++ c :: q).map Prod.fst := by
  intro a ha
  rw [← Option.some.inj ha]
  simp

/-- Adding a range that the skip list of the uuid takes. -/
theorem gtidSetAdd_of_skipList (h : SetRep s l) (uuid : Uuid) (hd : (cellKeys l).Nodup)
    (hs : 1 ≤ start) (hse : start ≤ «end») (rand : Rand)
    (hadd : ∀ gsl, WF gsl → intervals gsl = lookup uuid (l.map Prod.snd) →
      ∃ gsl', gtidIntervalSkipListAdd gsl start «end» rand =
          some (gsl', IntervalList.size (intervals gsl') - IntervalList.size (intervals gsl)) ∧
        WF gsl' ∧ intervals gsl' = IntervalList.insert start «end» (intervals gsl)) :
    ∃ s' l', gtidSetAdd s uuid start «end» rand =
        some (s', size (l'.map Prod.snd) - size (l.map Prod.snd)) ∧
      SetRep s' l' ∧ l'.map Prod.snd = add uuid start «end» (l.map Prod.snd) ∧ Keeps l l' ∧
      s'.current = s.current ∧ s'.curnext = s.curnext := by
  obtain ⟨s₁, p, c, q, hfind, hrep, hc, hlook, hupd, hkeep, hcur, hnext⟩ :=
    findOrAppend_rep h uuid
  obtain ⟨u, hu, huuid, hwf, hint, -⟩ := hrep.get
  obtain ⟨gsl', hadd, hwf', hint'⟩ := hadd _ hwf (hint.trans hlook)
  have hvalid : gtidIntervalIsValid start «end» = true := gtidIntervalIsValid_iff.mpr ⟨hs, hse⟩
  have hentries := hupd (IntervalList.insert start «end»)
  refine ⟨{ s₁ with
      cached := some c.1
      uuidSetCells := s₁.uuidSetCells.set c.1 { u with intervals := gsl' } },
    p ++ (c.1, (uuid, IntervalList.insert start «end» c.2.2)) :: q, ?_, ?_, hentries,
    keeps_assign hc.symm hkeep, hcur, hnext⟩
  · rw [hentries, size_update, ← hlook, ← hint, ← hint']
    simp only [gtidSetAdd, cachedFor_or_find h hd, hfind, hu, uuidSetAdd, hvalid, hadd, if_true,
      Option.bind_eq_bind, Option.bind_some, Option.some.injEq, Prod.mk.injEq, true_and]
    omega
  · refine hrep.assign (v := { u with intervals := gsl' }) hu rfl (huuid.trans hc) hwf' ?_
      mem_fst_middle
    rw [hint', hint]

/-- **Add** inserts a range that stays clear of the limit into the uuid's entry. -/
theorem gtidSetAdd_fits_rep (h : SetRep s l) (uuid : Uuid) (hd : (cellKeys l).Nodup)
    (hfits : IntervalList.FitsNext LLONG_MAX (lookup uuid (l.map Prod.snd)) (start, «end»))
    (hs : 1 ≤ start) (hse : start ≤ «end») (he : «end» ≤ LLONG_MAX) (rand : Rand) :
    ∃ s' l', gtidSetAdd s uuid start «end» rand =
        some (s', size (l'.map Prod.snd) - size (l.map Prod.snd)) ∧
      SetRep s' l' ∧ l'.map Prod.snd = add uuid start «end» (l.map Prod.snd) ∧ Keeps l l' ∧
      s'.current = s.current ∧ s'.curnext = s.curnext := by
  refine gtidSetAdd_of_skipList h uuid hd hs hse rand (fun gsl hwf hint => ?_)
  exact gtidIntervalSkipListAdd_fits_spec hwf (hint ▸ hfits) hs hse he rand

theorem gtidSetAdd_rep (h : SetRep s l) (uuid : Uuid) (hd : (cellKeys l).Nodup)
    (hb : EntriesBelow (l.map Prod.snd)) (hs : 1 ≤ start) (hse : start ≤ «end»)
    (he : «end» < LLONG_MAX) (rand : Rand) :
    ∃ s' l', gtidSetAdd s uuid start «end» rand =
        some (s', size (l'.map Prod.snd) - size (l.map Prod.snd)) ∧
      SetRep s' l' ∧ l'.map Prod.snd = add uuid start «end» (l.map Prod.snd) ∧ Keeps l l' ∧
      s'.current = s.current ∧ s'.curnext = s.curnext :=
  gtidSetAdd_fits_rep h uuid hd (.of_lt (top_lookup_lt hb) he) hs hse he.le rand

/-- Elsewhere behind the gnos of the uuid a range up to `LLONG_MAX` is not added. -/
theorem gtidSetAdd_max_rep (h : SetRep s l) (uuid : Uuid) (hd : (cellKeys l).Nodup)
    (hne : lookup uuid (l.map Prod.snd) ≠ [])
    (htop : IntervalList.top (lookup uuid (l.map Prod.snd)) + 1 < start) (hs : 1 ≤ start)
    (hse : start ≤ LLONG_MAX) (rand : Rand) :
    gtidSetAdd s uuid start LLONG_MAX rand = none := by
  obtain ⟨s₁, p, c, q, hfind, hrep, hc, hlook, -⟩ := findOrAppend_rep h uuid
  obtain ⟨u, hu, -, hwf, hint, -⟩ := hrep.get
  have hvalid : gtidIntervalIsValid start LLONG_MAX = true := gtidIntervalIsValid_iff.mpr ⟨hs, hse⟩
  have hlist : intervals u.intervals = lookup uuid (l.map Prod.snd) := hint.trans hlook
  have hadd := gtidIntervalSkipListAdd_max_spec hwf (hlist ▸ hne) (hlist ▸ htop) hse rand
  simp only [gtidSetAdd, cachedFor_or_find h hd, hfind, hu, uuidSetAdd, hvalid, hadd, if_true,
    Option.bind_eq_bind, Option.bind_some, Option.bind_none]

/-- An invalid range adds nothing, though the uuid may get an empty record. -/
theorem gtidSetAdd_invalid_rep (h : SetRep s l) (uuid : Uuid) (hd : (cellKeys l).Nodup)
    (hinvalid : ¬ (1 ≤ start ∧ start ≤ «end»)) (rand : Rand) :
    ∃ s' l', gtidSetAdd s uuid start «end» rand = some (s', 0) ∧
      SetRep s' l' ∧ l'.map Prod.snd = update uuid id (l.map Prod.snd) ∧ Keeps l l' ∧
      s'.current = s.current ∧ s'.curnext = s.curnext := by
  obtain ⟨s₁, p, c, q, hfind, hrep, hc, hlook, hupd, hkeep, hcur, hnext⟩ :=
    findOrAppend_rep h uuid
  obtain ⟨u, hu, huuid, hwf, hint, -⟩ := hrep.get
  have hvalid : gtidIntervalIsValid start «end» = false := by
    rw [← Bool.not_eq_true, gtidIntervalIsValid_iff]
    exact hinvalid
  refine ⟨{ s₁ with cached := some c.1, uuidSetCells := s₁.uuidSetCells.set c.1 u },
    p ++ (c.1, (uuid, id c.2.2)) :: q, ?_, ?_, hupd id, keeps_assign hc.symm hkeep, hcur, hnext⟩
  · simp only [gtidSetAdd, cachedFor_or_find h hd, hfind, hu, uuidSetAdd, hvalid,
      Bool.false_eq_true, if_false, Option.bind_eq_bind, Option.bind_some]
  · exact hrep.assign (e := (uuid, id c.2.2)) hu rfl (huuid.trans hc) hwf hint mem_fst_middle

/-- **Next with `update`** adds the gno after the greatest one of the uuid. -/
theorem gtidSetNext_update_rep (h : SetRep s l) (uuid : Uuid) (hb : EntriesBelow (l.map Prod.snd))
    (htop : IntervalList.top (lookup uuid (l.map Prod.snd)) + 1 < LLONG_MAX) (rand : Rand) :
    ∃ s' l', gtidSetNext s uuid true rand =
        some (s', IntervalList.top (lookup uuid (l.map Prod.snd)) + 1) ∧
      SetRep s' l' ∧ l'.map Prod.snd =
        add uuid (IntervalList.top (lookup uuid (l.map Prod.snd)) + 1)
          (IntervalList.top (lookup uuid (l.map Prod.snd)) + 1) (l.map Prod.snd) ∧
      Keeps l l' ∧ s'.current = s.current ∧ s'.curnext = s.curnext := by
  obtain ⟨s₁, p, c, q, hfind, hrep, hc, hlook, hupd, hkeep, hcur, hnext⟩ :=
    findOrAppend_rep h uuid
  obtain ⟨u, hu, huuid, hwf, hint, -⟩ := hrep.get
  have hlook' : intervals u.intervals = lookup uuid (l.map Prod.snd) := hint.trans hlook
  rw [← hlook'] at htop ⊢
  have hbelow : Below (intervals u.intervals) := by
    rw [hlook']
    exact below_lookup hb
  obtain ⟨gsl', hn, hwf', hint'⟩ := gtidIntervalSkipListNext_update_spec hwf hbelow htop rand
  refine ⟨{ s₁ with
      cached := some c.1
      uuidSetCells := s₁.uuidSetCells.set c.1 { u with intervals := gsl' } },
    p ++ (c.1, (uuid, IntervalList.insert (IntervalList.top (intervals u.intervals) + 1)
      (IntervalList.top (intervals u.intervals) + 1) c.2.2)) :: q, ?_, ?_, hupd _,
    keeps_assign hc.symm hkeep, hcur, hnext⟩
  · cases hf : gtidSetFind s uuid with
    | none =>
      rw [hf] at hfind
      simp only [gtidSetNext, hf, hfind, hu, uuidSetNext, hn, Option.bind_eq_bind,
        Option.bind_some]
    | some cur =>
      rw [hf] at hfind
      simp only [gtidSetNext, hf, hfind, hu, uuidSetNext, hn, Option.bind_eq_bind,
        Option.bind_some]
  · refine hrep.assign (v := { u with intervals := gsl' }) hu rfl (huuid.trans hc) hwf' ?_
      mem_fst_middle
    rw [hint', hint]

/-- Without `update` it only reads the set. -/
theorem gtidSetNext_read_rep (h : SetRep s l) (uuid : Uuid) (rand : Rand) :
    ∃ s', gtidSetNext s uuid false rand =
        some (s', llong (IntervalList.top (lookup uuid (l.map Prod.snd)) + 1)) ∧
      SetRep s' l ∧ s'.current = s.current ∧ s'.curnext = s.curnext := by
  rcases exists_first_cell uuid l with hk | ⟨p, c, q, rfl, hp, hc⟩
  · refine ⟨s, ?_, h, rfl, rfl⟩
    rw [lookup_of_notMem hk]
    simp only [gtidSetNext, gtidSetFind_of_notMem h hk]
    rfl
  · obtain ⟨u, hu, huuid, hwf, hint, -⟩ := h.get
    refine ⟨{ s with cached := some c.1, uuidSetCells := s.uuidSetCells.set c.1 u }, ?_, ?_,
      rfl, rfl⟩
    · rw [List.map_append, List.map_cons, lookup_append_cons hp hc, ← hint]
      simp only [gtidSetNext, gtidSetFind_of_first h hp hc, findOrAppend, hu, uuidSetNext,
        gtidIntervalSkipListNext_spec hwf, Option.bind_eq_bind, Option.bind_some]
    · exact h.assign (e := c.2) hu rfl huuid hwf hint mem_fst_middle

theorem gtidSetContains_rep (h : SetRep s l) (uuid : Uuid) (g : Int) :
    ∃ s', gtidSetContains s uuid g =
        some (s', decide (1 ≤ g ∧ g ∈ IntervalList.points (lookup uuid (l.map Prod.snd)))) ∧
      SetRep s' l ∧ s'.current = s.current ∧ s'.curnext = s.curnext := by
  rcases exists_first_cell uuid l with hk | ⟨p, c, q, rfl, hp, hc⟩
  · refine ⟨{ s with cached := none }, ?_, ⟨h.chain, h.nodup, h.holds, h.tail, by simp⟩, rfl,
      rfl⟩
    rw [lookup_of_notMem hk]
    simp [gtidSetContains, gtidSetFind_of_notMem h hk]
  · obtain ⟨u, hu, huuid, hwf, hint, -⟩ := h.get
    refine ⟨{ s with cached := some c.1 }, ?_,
      ⟨h.chain, h.nodup, h.holds, h.tail, mem_fst_middle⟩, rfl, rfl⟩
    rw [List.map_append, List.map_cons, lookup_append_cons hp hc, ← hint]
    by_cases hg : 1 ≤ g
    · have hvalid : gtidIntervalIsValid 1 g = true := gtidIntervalIsValid_iff.mpr ⟨le_refl _, hg⟩
      simp only [gtidSetContains, gtidSetFind_of_first h hp hc, hu, uuidSetContains, hvalid,
        if_true, gtidIntervalSkipListContains_spec hwf hg, Option.bind_eq_bind, Option.bind_some,
        hg, true_and]
    · have hinvalid : gtidIntervalIsValid 1 g = false := by
        rw [← Bool.not_eq_true, gtidIntervalIsValid_iff]
        exact fun h => hg h.2
      simp [gtidSetContains, gtidSetFind_of_first h hp hc, hu, uuidSetContains, hinvalid, hg]

theorem gtidSetCount_rep (h : SetRep s l) : gtidSetCount s = llong (size (l.map Prod.snd)) := by
  rw [gtidSetCount, h.uuidSets_eq]
  have hholds := h.holds
  have hsum : ∀ n, (l.map Prod.fst).foldl (fun count a =>
      llong (count + ((s.uuidSetCells.get a).map uuidSetCount).getD 0)) (llong n) =
        llong (n + size (l.map Prod.snd)) := by
    clear h
    induction l with
    | nil => simp
    | cons c l ih =>
      intro n
      obtain ⟨u, hu, -, hwf, hint⟩ := hholds c (by simp)
      have hcount : uuidSetCount u = IntervalList.size c.2.2 := by
        rw [uuidSetCount, hwf.gnoCount, hint]
      rw [List.map_cons, List.foldl_cons, hu, Option.map_some, Option.getD_some, hcount,
        llong_add_llong, ih (fun d hd => hholds d (by simp [hd])), List.map_cons, size_cons,
        Int.add_assoc]
  have := hsum 0
  rw [Int.zero_add] at this
  exact this

/-! ## Remove -/

theorem getLast?_fst_concat (p : List (Addr × Entry)) (c : Addr × Entry) :
    ((p ++ [c]).map Prod.fst).getLast? = some c.1 := by
  rw [List.map_append, List.map_singleton, List.getLast?_concat]

/-- What `uuidSetRemove` makes of the intervals of a record. -/
def Removes (start «end» : Int) (f : List (Int × Int) → List (Int × Int)) : Prop :=
  ∀ u rand, WF u.intervals →
    ∃ gsl', uuidSetRemove u start «end» rand = some ({ u with intervals := gsl' },
        IntervalList.size (intervals u.intervals) - IntervalList.size (intervals gsl')) ∧
      WF gsl' ∧ intervals gsl' = f (intervals u.intervals)

theorem removes_erase (hs : 1 ≤ start) (hse : start ≤ «end») :
    Removes start «end» (IntervalList.erase start «end») := by
  intro u rand hwf
  obtain ⟨gsl', hremove, hwf', hint'⟩ := gtidIntervalSkipListRemove_spec hwf hs hse rand
  refine ⟨gsl', ?_, hwf', hint'⟩
  simp only [uuidSetRemove, gtidIntervalIsValid_iff.mpr ⟨hs, hse⟩, if_true, hremove,
    Option.bind_eq_bind, Option.bind_some]

theorem removes_invalid (hinvalid : ¬ (1 ≤ start ∧ start ≤ «end»)) : Removes start «end» id := by
  intro u rand hwf
  have hvalid : ¬ gtidIntervalIsValid start «end» = true := by
    rw [gtidIntervalIsValid_iff]
    exact hinvalid
  refine ⟨u.intervals, ?_, hwf, rfl⟩
  rw [uuidSetRemove, if_neg hvalid, Int.sub_self]

/-- The search of `gtidSetRemove`, with the cells `p` passed and `q` ahead. -/
theorem removeFrom_rep {f : List (Int × Int) → List (Int × Int)} (h : SetRep s (p ++ q))
    (hp : uuid ∉ cellKeys p) (hf : Removes start «end» f) (rand : Rand) {fuel : Nat}
    (hfuel : q.length < fuel) :
    ∃ s' l', removeFrom uuid start «end» rand s fuel (q.map Prod.fst).head?
        (p.map Prod.fst).getLast? =
          some (s', intOfGno (size ((p ++ q).map Prod.snd) - size (l'.map Prod.snd))) ∧
      SetRep s' l' ∧
      l'.map Prod.snd = p.map Prod.snd ++ reduce uuid f (q.map Prod.snd) ∧
      s'.curnext = s.curnext := by
  induction q generalizing p fuel with
  | nil =>
    obtain ⟨fuel, rfl⟩ := Nat.exists_eq_succ_of_ne_zero (by omega : fuel ≠ 0)
    refine ⟨{ s with cached := none }, p ++ [], ?_,
      ⟨h.chain, h.nodup, h.holds, h.tail, by simp⟩, by simp [reduce], rfl⟩
    simp only [List.map_nil, List.head?_nil, removeFrom, Int.sub_self]
    rfl
  | cons c q ih =>
    obtain ⟨fuel, rfl⟩ := Nat.exists_eq_succ_of_ne_zero (by omega : fuel ≠ 0)
    obtain ⟨u, hu, huuid, hwf, hint, hnext⟩ := h.get
    have hhead : ((c :: q).map Prod.fst).head? = some c.1 := rfl
    by_cases hc : c.2.1 = uuid
    · obtain ⟨gsl', hremove, hwf', hint'⟩ := hf u rand hwf
      have hcount : uuidSetCount { u with intervals := gsl' } =
          IntervalList.size (intervals gsl') := hwf'.gnoCount
      have hentries : reduce uuid f ((c :: q).map Prod.snd) =
          if intervals gsl' = [] then q.map Prod.snd
          else (uuid, intervals gsl') :: q.map Prod.snd := by
        rw [List.map_cons, reduce, if_pos hc, ← hint, ← hint']
      have hassign := h.assign (e := (uuid, intervals gsl')) (v := { u with intervals := gsl' })
        hu rfl (huuid.trans hc) hwf' rfl (b := some c.1) mem_fst_middle
      rw [hentries]
      by_cases hnil : intervals gsl' = []
      · -- the record turned empty
        have hzero : uuidSetCount { u with intervals := gsl' } = 0 := by
          rw [hcount, hnil]
          rfl
        have hunlink := hassign.unlink (b := none) (by simp)
          (if s.current = some c.1 then none else s.current)
        rw [← hnext] at hunlink
        refine ⟨_, p ++ q, ?_, hunlink, ?_, rfl⟩
        · rw [hhead]
          simp only [removeFrom, hu, if_pos (huuid.trans hc), hremove, if_pos hzero,
            Option.bind_eq_bind, Option.bind_some]
          rw [hint, hnil]
          simp only [List.map_append, List.map_cons, size_append, size_cons,
            IntervalList.size_nil]
          congr 3
          omega
        · rw [if_pos hnil, List.map_append]
      · have hpos : uuidSetCount { u with intervals := gsl' } ≠ 0 := by
          rw [hcount]
          exact fun h0 => hnil ((IntervalList.size_eq_zero hwf'.canonical).mp h0)
        refine ⟨_, _, ?_, hassign, ?_, rfl⟩
        · rw [hhead]
          simp only [removeFrom, hu, if_pos (huuid.trans hc), hremove, if_neg hpos,
            Option.bind_eq_bind, Option.bind_some]
          rw [hint]
          simp only [List.map_append, List.map_cons, size_append, size_cons]
          congr 3
          omega
        · rw [if_neg hnil, List.map_append, List.map_cons]
    · have hpc : uuid ∉ cellKeys (p ++ [c]) := by
        rw [cellKeys, List.map_append, keys_append, List.mem_append, not_or]
        exact ⟨hp, by simpa using Ne.symm hc⟩
      obtain ⟨s', l', hrun, hrep, hl', hcur⟩ := ih (p := p ++ [c]) (by simpa using h) hpc
        (Nat.lt_of_succ_lt_succ hfuel)
      refine ⟨s', l', ?_, hrep, ?_, hcur⟩
      · rw [getLast?_fst_concat, List.append_assoc, List.singleton_append] at hrun
        rw [hhead]
        simp only [removeFrom, hu, huuid, hc, if_false, hnext, Option.bind_eq_bind,
          Option.bind_some]
        exact hrun
      · have hstep : reduce uuid f ((c :: q).map Prod.snd) =
            c.2 :: reduce uuid f (q.map Prod.snd) := if_neg hc
        rw [hl', hstep, List.map_append, List.append_assoc]
        rfl

theorem gtidSetRemove_removes {f : List (Int × Int) → List (Int × Int)} (h : SetRep s l)
    (uuid : Uuid) (hf : Removes start «end» f) (rand : Rand) :
    ∃ s' l', gtidSetRemove s uuid start «end» rand =
        some (s', intOfGno (size (l.map Prod.snd) - size (l'.map Prod.snd))) ∧
      SetRep s' l' ∧ l'.map Prod.snd = reduce uuid f (l.map Prod.snd) ∧
      s'.curnext = s.curnext := by
  have hheader : s.header = (l.map Prod.fst).head? := h.chain.head
  have hfuel : l.length < s.uuidSetCells.size + 1 := Nat.lt_succ_of_le h.length_le
  obtain ⟨s', l', hrun, hrep, hl', hcur⟩ := removeFrom_rep (p := []) h
    (show uuid ∉ cellKeys [] by simp [cellKeys]) hf rand hfuel
  refine ⟨s', l', ?_, hrep, hl', hcur⟩
  rw [gtidSetRemove, hheader]
  exact hrun

/-- **Remove** erases the range from the uuid's entry. -/
theorem gtidSetRemove_rep (h : SetRep s l) (uuid : Uuid) (hs : 1 ≤ start) (hse : start ≤ «end»)
    (rand : Rand) :
    ∃ s' l', gtidSetRemove s uuid start «end» rand =
        some (s', intOfGno (size (l.map Prod.snd) - size (l'.map Prod.snd))) ∧
      SetRep s' l' ∧ l'.map Prod.snd = remove uuid start «end» (l.map Prod.snd) ∧
      s'.curnext = s.curnext :=
  gtidSetRemove_removes h uuid (removes_erase hs hse) rand

/-! ## Merge -/

theorem Keeps.trans {m : List (Addr × Entry)} (h : Keeps l m) (h' : Keeps m p) : Keeps l p := by
  intro d hd
  obtain ⟨d', hd', hda, hdu⟩ := h d hd
  obtain ⟨d'', hd'', hda', hdu'⟩ := h' d' hd'
  exact ⟨d'', hd'', hda'.trans hda, hdu'.trans hdu⟩

/-- Two counts taken one after the other add up as `long long`. -/
theorem llong_sub_add (x y z : Int) : llong (x - y + llong (z - x)) = llong (z - y) := by
  rw [Int.add_comm, llong_add_llong]
  congr 1
  omega

/-- **One record of `src` is merged**: its gnos are added under its uuid. -/
theorem mergeRecord_rep (h : SetRep s l) {u : UuidSet} (hwf : WF u.intervals)
    (hfits : u.uuid ∈ cellKeys l → IntervalList.FitsOnto LLONG_MAX
      (lookup u.uuid (l.map Prod.snd)) (intervals u.intervals)) (rand : Rand) :
    ∃ s' l', mergeRecord s u rand =
        some (s', size (l'.map Prod.snd) - size (l.map Prod.snd)) ∧
      SetRep s' l' ∧ l'.map Prod.snd = update u.uuid
        (fun m => IntervalList.union m (intervals u.intervals)) (l.map Prod.snd) ∧
      Keeps l l' ∧ s'.current = s.current ∧ s'.curnext = s.curnext := by
  rcases exists_first_cell u.uuid l with hk | ⟨p, c, q, rfl, hp, hc⟩
  · obtain ⟨hwfd, hintd⟩ := gtidIntervalSkipListDup_spec hwf
    obtain ⟨s', happ, hrep, -, hcur, hnext⟩ := gtidSetAppend_rep (u := uuidSetDup u) h rfl hwfd
    refine ⟨s', _, ?_, hrep, ?_, fun d hd => ⟨d, List.mem_append_left _ hd, rfl, rfl⟩, hcur,
      hnext⟩
    · simp only [mergeRecord, gtidSetFind_of_notMem h hk, happ, List.map_append, List.map_cons, List.map_nil, size_append, size_cons,
        size_nil, Option.some.injEq, Prod.mk.injEq, true_and]
      omega
    · rw [update_of_notMem hk, IntervalList.nil_union hwf.canonical, List.map_append, ← hintd]
      rfl
  · obtain ⟨v, hv, hvuuid, hvwf, hvint, -⟩ := h.get
    have hlook : lookup u.uuid ((p ++ c :: q).map Prod.snd) = intervals v.intervals := by
      rw [hvint, List.map_append, List.map_cons, lookup_append_cons hp hc]
    rw [hlook] at hfits
    obtain ⟨gsl', hmerge, hwf', hint'⟩ := gtidIntervalSkipListMerge_spec hvwf hwf
      (hfits (by rw [cellKeys, List.map_append, List.map_cons, keys_append, keys_cons, hc]; simp))
      rand
    have hassign := h.assign (e := (u.uuid, intervals gsl')) (v := { v with intervals := gsl' })
      hv rfl (hvuuid.trans hc) hwf' rfl h.cached
    refine ⟨_, _, ?_, hassign, ?_, keeps_assign hc.symm (fun d hd => hd), rfl, rfl⟩
    · simp only [mergeRecord, gtidSetFind_of_first h hp hc, hv, uuidSetMerge, if_pos (hvuuid.trans hc), hmerge, Option.bind_eq_bind,
        Option.bind_some, Option.some.injEq, Prod.mk.injEq, true_and, List.map_append,
        List.map_cons, size_append, size_cons]
      rw [hvint]
      omega
    · rw [List.map_append, List.map_cons, List.map_append, List.map_cons,
        update_append_cons hp hc, hint', hvint]

theorem mergeFrom_rep {src : Arena UuidSet} {m : List (Addr × Entry)}
    (hm : ∀ c ∈ m, Holds src c) (hd : (cellKeys m).Nodup) (h : SetRep s l)
    (hfits : FitsInto LLONG_MAX (l.map Prod.snd) (m.map Prod.snd)) (rand : Rand) :
    ∃ s' l', mergeFrom src (m.map Prod.fst) s rand =
        some (s', llong (size (l'.map Prod.snd) - size (l.map Prod.snd))) ∧
      SetRep s' l' ∧ l'.map Prod.snd = merge (l.map Prod.snd) (m.map Prod.snd) ∧
      Keeps l l' ∧ s'.current = s.current ∧ s'.curnext = s.curnext := by
  induction m generalizing s l rand with
  | nil =>
    refine ⟨s, l, ?_, h, rfl, fun d hd => ⟨d, hd, rfl, rfl⟩, rfl, rfl⟩
    rw [Int.sub_self]
    rfl
  | cons c m ih =>
    obtain ⟨u, hu, huuid, hwf, hint⟩ := hm c (by simp)
    rw [cellKeys, List.map_cons, keys_cons, List.nodup_cons] at hd
    obtain ⟨s₁, l₁, hstep, hrep₁, hl₁, hkeep₁, hcur₁, hnext₁⟩ := mergeRecord_rep h hwf
      (fun hmem => by rw [hint, huuid]; exact hfits c.2 (by simp) (huuid ▸ hmem)) (rand.sub 0)
    -- the other records go to other uuids
    have hfits₁ : FitsInto LLONG_MAX (l₁.map Prod.snd) (m.map Prod.snd) := by
      rw [hl₁, huuid]
      exact FitsInto.update (fun e he => hfits e (List.mem_cons_of_mem _ he)) hd.1
    obtain ⟨s₂, l₂, hrest, hrep₂, hl₂, hkeep₂, hcur₂, hnext₂⟩ :=
      ih (fun d hd => hm d (by simp [hd])) hd.2 hrep₁ hfits₁ (rand.sub 1)
    refine ⟨s₂, l₂, ?_, hrep₂, ?_, hkeep₁.trans hkeep₂, hcur₂.trans hcur₁, hnext₂.trans hnext₁⟩
    · simp only [List.map_cons, mergeFrom, hu, hstep, hrest, llong_sub_add, Option.bind_eq_bind,
        Option.bind_some]
    · rw [hl₂, hl₁, List.map_cons, merge_cons, huuid, hint]

/-- **Merge** adds the entries of `src`; the count is exact as a `long long`. -/
theorem gtidSetMerge_rep {src : GtidSet} {m : List (Addr × Entry)} (hm : SetRep src m)
    (hd : (cellKeys m).Nodup) (h : SetRep s l)
    (hfits : FitsInto LLONG_MAX (l.map Prod.snd) (m.map Prod.snd)) (rand : Rand) :
    ∃ s' l', gtidSetMerge s src rand =
        some (s', llong (size (l'.map Prod.snd) - size (l.map Prod.snd))) ∧
      SetRep s' l' ∧ l'.map Prod.snd = merge (l.map Prod.snd) (m.map Prod.snd) ∧
      Keeps l l' ∧ s'.current = s.current ∧ s'.curnext = s.curnext := by
  rw [gtidSetMerge, hm.uuidSets_eq]
  exact mergeFrom_rep hm.holds hd h hfits rand

/-! ## Diff -/

/-- One record keeps what `src` does not have under its uuid. -/
theorem diffRecord_rep {src : GtidSet} {m : List (Addr × Entry)} (hm : SetRep src m)
    {u : UuidSet} (hwf : WF u.intervals) (rand : Rand) :
    ∃ gsl', diffRecord src u rand = some ({ u with intervals := gsl' },
        IntervalList.size (intervals u.intervals) - IntervalList.size (intervals gsl')) ∧
      WF gsl' ∧ intervals gsl' =
        IntervalList.diff (intervals u.intervals) (lookup u.uuid (m.map Prod.snd)) := by
  rcases exists_first_cell u.uuid m with hk | ⟨p, c, q, rfl, hp, hc⟩
  · refine ⟨u.intervals, ?_, hwf, ?_⟩
    · simp only [diffRecord, gtidSetFind_of_notMem hm hk, Int.sub_self]
    · rw [lookup_of_notMem hk]
      rfl
  · obtain ⟨v, hv, hvuuid, hvwf, hvint, -⟩ := hm.get
    obtain ⟨gsl', hdiff, hwf', hint'⟩ := gtidIntervalSkipListDiff_spec hwf hvwf rand
    refine ⟨gsl', ?_, hwf', ?_⟩
    · simp only [diffRecord, gtidSetFind_of_first hm hp hc, hv, uuidSetDiff,
        if_pos (hc.symm.trans hvuuid.symm), hdiff, Option.bind_eq_bind, Option.bind_some]
    · rw [hint', hvint, List.map_append, List.map_cons, lookup_append_cons hp hc]

theorem diff_cons_entry (e : Entry) (es m : Entries Uuid) :
    diff (e :: es) m =
      if (diffEntry m e).2 = [] then diff es m else diffEntry m e :: diff es m := by
  by_cases hnil : (diffEntry m e).2 = [] <;> simp [diff, hnil]

/-- The loop of `gtidSetDiff`, with the cells `p` left so far and `q` ahead. -/
theorem diffFrom_rep {src : GtidSet} {m : List (Addr × Entry)} (hm : SetRep src m)
    (h : SetRep s (p ++ q)) (rand : Rand) {fuel : Nat} (hfuel : q.length < fuel) :
    ∃ s' l', diffFrom src fuel (q.map Prod.fst).head? (p.map Prod.fst).getLast? s rand =
        some (s', llong (size ((p ++ q).map Prod.snd) - size (l'.map Prod.snd))) ∧
      SetRep s' l' ∧
      l'.map Prod.snd = p.map Prod.snd ++ diff (q.map Prod.snd) (m.map Prod.snd) ∧
      s'.current = s.current ∧ s'.curnext = s.curnext := by
  induction q generalizing s p rand fuel with
  | nil =>
    obtain ⟨fuel, rfl⟩ := Nat.exists_eq_succ_of_ne_zero (by omega : fuel ≠ 0)
    refine ⟨s, p ++ [], ?_, h, by simp [diff], rfl, rfl⟩
    rw [Int.sub_self]
    rfl
  | cons c q ih =>
    obtain ⟨fuel, rfl⟩ := Nat.exists_eq_succ_of_ne_zero (by omega : fuel ≠ 0)
    have hfuel' : q.length < fuel := Nat.lt_of_succ_lt_succ hfuel
    obtain ⟨u, hu, huuid, hwf, hint, hnext⟩ := h.get
    obtain ⟨gsl', hdiff, hwf', hint'⟩ := diffRecord_rep hm hwf (rand.sub 0)
    have hcount : uuidSetCount { u with intervals := gsl' } =
        IntervalList.size (intervals gsl') := hwf'.gnoCount
    have hentry : diffEntry (m.map Prod.snd) c.2 = (c.2.1, intervals gsl') := by
      rw [hint', hint, huuid]
      rfl
    have hentries : diff ((c :: q).map Prod.snd) (m.map Prod.snd) =
        if intervals gsl' = [] then diff (q.map Prod.snd) (m.map Prod.snd)
        else (c.2.1, intervals gsl') :: diff (q.map Prod.snd) (m.map Prod.snd) := by
      rw [List.map_cons, diff_cons_entry, hentry]
    have hassign := h.assign (e := (c.2.1, intervals gsl')) (v := { u with intervals := gsl' })
      hu rfl huuid hwf' rfl h.cached
    have hhead : ((c :: q).map Prod.fst).head? = some c.1 := rfl
    have hsize : size ((p ++ c :: q).map Prod.snd) = size (p.map Prod.snd) +
        (IntervalList.size (intervals u.intervals) + size (q.map Prod.snd)) := by
      rw [List.map_append, List.map_cons, size_append, size_cons, hint]
    rw [hentries, hhead, hsize]
    by_cases hnil : intervals gsl' = []
    · -- the record turned empty
      have hzero : uuidSetCount { u with intervals := gsl' } = 0 := by
        rw [hcount, hnil]
        rfl
      have hcached : ∀ a, (if s.cached = some c.1 then none else s.cached) = some a →
          a ∈ (p ++ q).map Prod.fst := by
        intro a ha
        split at ha
        · cases ha
        · rename_i hne
          have hmem := h.cached a ha
          simp only [List.map_append, List.map_cons, List.mem_append, List.mem_cons] at hmem ⊢
          rcases hmem with hmem | rfl | hmem
          · exact Or.inl hmem
          · exact absurd ha hne
          · exact Or.inr hmem
      have hunlink := hassign.unlink hcached s.current
      rw [← hnext] at hunlink
      obtain ⟨s', l', hrun, hrep, hl', hcur, hnx⟩ := ih hunlink (rand.sub 1) hfuel'
      refine ⟨s', l', ?_, hrep, by rw [hl', if_pos hnil], hcur, hnx⟩
      rw [← hnext] at hrun
      have hstep : diffFrom src (fuel + 1) (some c.1) (p.map Prod.fst).getLast? s rand =
          some (s', llong (IntervalList.size (intervals u.intervals) -
            IntervalList.size (intervals gsl') +
              llong (size ((p ++ q).map Prod.snd) - size (l'.map Prod.snd)))) := by
        simp only [diffFrom, hu, hdiff, if_pos hzero, Option.bind_eq_bind, Option.bind_some]
        exact (congrArg (fun r => Option.bind r _) hrun).trans rfl
      rw [hstep, hnil, IntervalList.size_nil, List.map_append, size_append, Int.add_comm,
        llong_add_llong]
      congr 3
      omega
    · have hpos : uuidSetCount { u with intervals := gsl' } ≠ 0 := by
        rw [hcount]
        exact fun h0 => hnil ((IntervalList.size_eq_zero hwf'.canonical).mp h0)
      have hassign' : SetRep { s with
          uuidSetCells := s.uuidSetCells.set c.1 { u with intervals := gsl' } }
            ((p ++ [(c.1, (c.2.1, intervals gsl'))]) ++ q) := by
        rw [List.append_assoc, List.singleton_append]
        exact hassign
      obtain ⟨s', l', hrun, hrep, hl', hcur, hnx⟩ := ih hassign' (rand.sub 1) hfuel'
      refine ⟨s', l', ?_, hrep, ?_, hcur, hnx⟩
      · rw [getLast?_fst_concat, ← hnext] at hrun
        have hstep : diffFrom src (fuel + 1) (some c.1) (p.map Prod.fst).getLast? s rand =
            some (s', llong (IntervalList.size (intervals u.intervals) -
              IntervalList.size (intervals gsl') +
                llong (size ((p ++ [(c.1, (c.2.1, intervals gsl'))] ++ q).map Prod.snd) -
                  size (l'.map Prod.snd)))) := by
          simp only [diffFrom, hu, hdiff, if_neg hpos, Option.bind_eq_bind, Option.bind_some]
          exact (congrArg (fun r => Option.bind r _) hrun).trans rfl
        rw [hstep, List.map_append, List.map_append, List.map_singleton, size_append, size_append,
          size_cons, size_nil, Int.add_comm, llong_add_llong]
        congr 3
        dsimp only
        omega
      · rw [hl', if_neg hnil, List.map_append, List.append_assoc]
        rfl

/-- **Diff** removes the entries of `src`; the count is exact as a `long long`. -/
theorem gtidSetDiff_rep {src : GtidSet} {m : List (Addr × Entry)} (hm : SetRep src m)
    (h : SetRep s l) (rand : Rand) :
    ∃ s' l', gtidSetDiff s src rand =
        some (s', llong (size (l.map Prod.snd) - size (l'.map Prod.snd))) ∧
      SetRep s' l' ∧ l'.map Prod.snd = diff (l.map Prod.snd) (m.map Prod.snd) ∧
      s'.current = s.current ∧ s'.curnext = s.curnext := by
  have hheader : s.header = (l.map Prod.fst).head? := h.chain.head
  have hfuel : l.length < s.uuidSetCells.size + 1 := Nat.lt_succ_of_le h.length_le
  obtain ⟨s', l', hrun, hrest⟩ := diffFrom_rep (p := []) hm h rand hfuel
  refine ⟨s', l', ?_, hrest⟩
  rw [gtidSetDiff, hheader]
  exact hrun

/-! ## Dup and Equal -/

/-- One step of the copying loop is an append, the tail being kept in `prev`. -/
theorem gtidSetAppend_dupRecord {dup : GtidSet} {prev : Option Addr} {u : UuidSet}
    (h : SetRep { dup with tail := prev } l) :
    gtidSetAppend { dup with tail := prev } u =
      some ({ dupRecord dup prev u with tail := some dup.uuidSetCells.fresh },
        uuidSetCount u) := by
  have hheader : dup.header = (l.map Prod.fst).head? := h.chain.head
  have hprev : prev = (l.map Prod.fst).getLast? := h.tail
  rcases List.eq_nil_or_concat l with rfl | ⟨p, c, rfl⟩
  · simp only [List.map_nil, List.head?_nil, List.getLast?_nil] at hheader hprev
    simp only [gtidSetAppend, dupRecord, hheader, hprev, if_true]
  · rw [List.concat_eq_append, getLast?_fst_concat] at hprev
    obtain ⟨b, hb⟩ : ∃ b, dup.header = some b := by
      rw [hheader]
      cases p <;> simp
    simp only [gtidSetAppend, dupRecord, hb, hprev, Option.bind_eq_bind, Option.bind_some,
      reduceCtorEq, if_false]

theorem dupFrom_rep {src : Arena UuidSet} {m : List (Addr × Entry)}
    (hm : ∀ c ∈ m, Holds src c) {dup : GtidSet} {prev : Option Addr}
    (h : SetRep { dup with tail := prev } l) :
    ∃ s' l', dupFrom src (m.map Prod.fst) prev dup = some s' ∧ SetRep s' l' ∧
      l'.map Prod.snd = l.map Prod.snd ++ m.map Prod.snd ∧
      s'.current = dup.current ∧ s'.curnext = dup.curnext := by
  induction m generalizing l prev dup with
  | nil => exact ⟨_, l, rfl, h, by simp, rfl, rfl⟩
  | cons c m ih =>
    obtain ⟨u, hu, huuid, hwf, hint⟩ := hm c (by simp)
    obtain ⟨hwfd, hintd⟩ := gtidIntervalSkipListDup_spec hwf
    obtain ⟨s₁, happ, hrep, -⟩ := gtidSetAppend_rep (u := uuidSetDup u) h rfl hwfd
    rw [gtidSetAppend_dupRecord h] at happ
    rw [← (Prod.mk.inj (Option.some.inj happ)).1] at hrep
    obtain ⟨s', l', hrun, hrep', hl', hcur', hnext'⟩ := ih (fun d hd => hm d (by simp [hd])) hrep
    refine ⟨s', l', ?_, hrep', ?_, hcur', hnext'⟩
    · rw [List.map_cons, dupFrom, hu]
      exact hrun
    · have hentry : (u.uuid, intervals (uuidSetDup u).intervals) = c.2 :=
        Prod.ext huuid (hintd.trans hint)
      rw [hl', List.map_append, List.map_cons, List.append_assoc, List.map_cons]
      simp only [uuidSetDup, List.map_nil, List.singleton_append] at hentry ⊢
      rw [hentry]

/-- **Dup** has the same entries, and its own records. -/
theorem gtidSetDup_rep (h : SetRep s l) :
    ∃ s' l', gtidSetDup s = some s' ∧ SetRep s' l' ∧ l'.map Prod.snd = l.map Prod.snd ∧
      s'.current = none ∧ s'.curnext = 0 := by
  rw [gtidSetDup, h.uuidSets_eq]
  obtain ⟨s', l', hrun, hrep, hl', hcur, hnext⟩ :=
    dupFrom_rep h.holds (show SetRep { gtidSetNew with tail := none } [] from setRep_new)
  exact ⟨s', l', hrun, hrep, by simpa using hl', hcur, hnext⟩

/-- **Equal** compares the sizes of the two differences, as `long long`, with zero. -/
theorem gtidSetEqual_rep {t : GtidSet} {m : List (Addr × Entry)} (h : SetRep s l)
    (ht : SetRep t m) (rand : Rand) :
    gtidSetEqual s t rand = some (decide
      (llong (size (diff (l.map Prod.snd) (m.map Prod.snd))) = 0 ∧
        llong (size (diff (m.map Prod.snd) (l.map Prod.snd))) = 0)) := by
  obtain ⟨s₁, l₁, hdup₁, hrep₁, hl₁, -⟩ := gtidSetDup_rep h
  obtain ⟨s₂, l₂, hdiff₁, hrep₂, hl₂, -⟩ := gtidSetDiff_rep ht hrep₁ (rand.sub 0)
  obtain ⟨t₁, m₁, hdup₂, hrept₁, hm₁, -⟩ := gtidSetDup_rep ht
  obtain ⟨t₂, m₂, hdiff₂, hrept₂, hm₂, -⟩ := gtidSetDiff_rep h hrept₁ (rand.sub 1)
  simp only [gtidSetEqual, hdup₁, hdiff₁, hdup₂, hdiff₂, gtidSetCount_rep hrep₂,
    gtidSetCount_rep hrept₂, hl₂, hl₁, hm₂, hm₁, Option.bind_eq_bind, Option.bind_some]
  by_cases hz : llong (size (diff (l.map Prod.snd) (m.map Prod.snd))) = 0
  · simp [hz]
  · simp [hz]

end Ops

end XredisGtid
