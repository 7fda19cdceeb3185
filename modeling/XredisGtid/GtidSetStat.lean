import XredisGtid.GtidSetRun

/-!
# What the operations report

`gtidSetGetStat` adds up the numbers of the records, one by one.  Two reports of the
operations are not what they seem.  `gtidSetAdd` looks for the record of the uuid, and
appends it, before the range is checked: a rejected add returns `0`, but a uuid that had
no record has one afterwards.  `gtidSetRemove` keeps the number of gnos removed in an
`int`, which is that number only below `2 ^ 31`.
-/
namespace XredisGtid
open Memory KeyedIntervals

structure GtidStat where
  usedMemory : Nat
  uuidCount : Nat
  gapCount : Nat
  gnoCount : Int
deriving DecidableEq

/-- most gtid interval nodes are level 1: the node and one pointer -/
def GTID_INTERVAL_MEMORY : Nat := 32

def uuidSetGetStat (uuidSet : UuidSet) : GtidStat where
  usedMemory := sizeT (uuidSet.intervals.nodeCount * GTID_INTERVAL_MEMORY : Nat)
  uuidCount := 1
  gapCount := sizeT ((uuidSet.intervals.nodeCount : Int) - 1)
  gnoCount := uuidSet.intervals.gnoCount

def gtidStatMerge (sum one : GtidStat) : GtidStat where
  usedMemory := sizeT (sum.usedMemory + one.usedMemory : Nat)
  uuidCount := sizeT (sum.uuidCount + one.uuidCount : Nat)
  gapCount := sizeT (sum.gapCount + one.gapCount : Nat)
  gnoCount := llong (sum.gnoCount + one.gnoCount)

def gtidSetGetStat (gtidSet : GtidSet) : GtidStat :=
  (uuidSets gtidSet).foldl (fun stat a =>
    ((gtidSet.uuidSetCells.get a).map (fun u => gtidStatMerge stat (uuidSetGetStat u))).getD stat)
    { usedMemory := 0, uuidCount := 0, gapCount := 0, gnoCount := 0 }

/-- The two sets answer every question about membership alike. -/
def SameMembers (s s' : GtidSet) : Prop :=
  ∀ k g, (gtidSetContains s' k g).map Prod.snd = (gtidSetContains s k g).map Prod.snd

/-- The two sets are related to the same sets. -/
def SameRelations (s s' : GtidSet) : Prop :=
  ∀ t, gtidSetRelated s' t = gtidSetRelated s t ∧ gtidSetRelated t s' = gtidSetRelated t s

section Rejected
variable {s s' : GtidSet} {as : List Addr} {cells cells' : Arena UuidSet} {a : Addr} {u : UuidSet}
  {uuid k : Uuid} {start «end» g : Int}

theorem gtidSetGetStat_uuidCount (h : SetLinks s.uuidSetCells s.header s.tail as) :
    (gtidSetGetStat s).uuidCount = sizeT (as.length : Nat) := by
  have hsum : ∀ l : List Addr, (∀ a ∈ l, a ∈ as) → ∀ stat : GtidStat, ∀ n : Nat,
      stat.uuidCount = sizeT n → (l.foldl (fun stat a => ((s.uuidSetCells.get a).map
        (fun u => gtidStatMerge stat (uuidSetGetStat u))).getD stat) stat).uuidCount =
          sizeT (n + l.length : Nat) := by
    intro l
    induction l with
    | nil => exact fun _ _ _ hn => hn
    | cons a l ih =>
      intro hl stat n hn
      obtain ⟨u, hu⟩ := h.alive a (hl a (by simp))
      rw [List.foldl_cons, hu, Option.map_some, Option.getD_some, List.length_cons,
        Nat.add_comm l.length, ← Nat.add_assoc]
      refine ih (fun b hb => hl b (by simp [hb])) _ (n + 1) ?_
      rw [gtidStatMerge, hn]
      simp only [uuidSetGetStat, sizeT]
      omega
  have := hsum as (fun _ ha => ha) { usedMemory := 0, uuidCount := 0, gapCount := 0, gnoCount := 0 }
    0 rfl
  rw [gtidSetGetStat, h.uuidSets_eq, this, Nat.zero_add]

/-- The pointer to the next record plays no part in a search. -/
theorem KeepsRecord.hasUuid (h : KeepsRecord cells cells' a) (hu : cells.get a = some u) :
    hasUuid cells' k a = hasUuid cells k a := by
  obtain ⟨next, hget⟩ := h u hu
  simp only [XredisGtid.hasUuid, hu, hget, Option.map_some]

theorem SetLinks.find_iff (h : SetLinks s.uuidSetCells s.header s.tail as) :
    (∃ a, gtidSetFind s k = some a) ↔ ∃ a ∈ as, XredisGtid.hasUuid s.uuidSetCells k a = true := by
  constructor
  · rintro ⟨a, hfind⟩
    exact ⟨a, h.find_mem hfind⟩
  · rintro ⟨a, ha, hyes⟩
    rw [← Option.isSome_iff_exists, gtidSetFind, h.uuidSets_eq, List.find?_isSome]
    exact ⟨a, ha, hyes⟩

/-- The answer about membership is that of the record found. -/
theorem gtidSetContains_snd (s : GtidSet) (k : Uuid) (g : Int) :
    (gtidSetContains s k g).map Prod.snd = ((gtidSetFind s k).map
      (fun cur => (s.uuidSetCells.get cur).bind (fun u => uuidSetContains u g))).getD
        (some false) := by
  unfold gtidSetContains
  cases gtidSetFind s k with
  | none => rfl
  | some cur =>
    cases hget : s.uuidSetCells.get cur with
    | none => simp [hget]
    | some u => cases hcontains : uuidSetContains u g <;> simp [hget, hcontains]

/-- An appended record is found after all others. -/
theorem SetLinks.find_append (h : SetLinks s.uuidSetCells s.header s.tail as)
    (h' : SetLinks s'.uuidSetCells s'.header s'.tail (as ++ [a]))
    (hkeep : ∀ b ∈ as, KeepsRecord s.uuidSetCells s'.uuidSetCells b)
    (hget : s'.uuidSetCells.get a = some u) :
    gtidSetFind s' k = (gtidSetFind s k).or (if u.uuid = k then some a else none) := by
  rw [gtidSetFind, gtidSetFind, h.uuidSets_eq, h'.uuidSets_eq, List.find?_append]
  congr 1
  · refine List.find?_congr (fun b hb => ?_)
    obtain ⟨w, hw⟩ := h.alive b hb
    exact (hkeep b hb).hasUuid hw
  · by_cases huuid : u.uuid = k <;>
      simp [List.find?, XredisGtid.hasUuid, hget, huuid]

theorem uuidSetContains_new (uuid : Uuid) (g : Int) :
    uuidSetContains (uuidSetNew uuid) g = some false := by
  obtain ⟨hwf, hint⟩ := gtidIntervalSkipListNew_spec
  unfold uuidSetContains
  split
  · rename_i hvalid
    rw [uuidSetNew, gtidIntervalSkipListContains_spec hwf (gtidIntervalIsValid_iff.mp hvalid).2, hint]
    rfl
  · rfl

/-- A rejected add to a uuid that has no record appends an empty one, which changes no answer
about membership. -/
theorem gtidSetAdd_rejected_new (h : SetLinks s.uuidSetCells s.header s.tail as)
    (hcached : cachedFor s uuid = none) (hfind : gtidSetFind s uuid = none)
    (hinvalid : gtidIntervalIsValid start «end» = false) (rand : Rand) :
    ∃ s', gtidSetAdd s uuid start «end» rand = some (s', 0) ∧ SameMembers s s' ∧
      SetLinks s'.uuidSetCells s'.header s'.tail (as ++ [s.uuidSetCells.fresh]) := by
  obtain ⟨s₁, happend, hlink, hnew, hkeep, -⟩ := h.append (u := uuidSetNew uuid) rfl
  refine ⟨{ s₁ with cached := some s.uuidSetCells.fresh }, ?_, ?_, hlink⟩
  · simp only [gtidSetAdd, hcached, hfind, Option.or_none, findOrAppend, happend, hnew, uuidSetAdd,
      hinvalid, Bool.false_eq_true, if_false, Option.bind_eq_bind, Option.bind_some,
      Arena.set_self hnew]
  · intro k g
    have hfind' : gtidSetFind { s₁ with cached := some s.uuidSetCells.fresh } k =
        (gtidSetFind s k).or (if uuid = k then some s.uuidSetCells.fresh else none) :=
      h.find_append hlink hkeep hnew
    rw [gtidSetContains_snd, gtidSetContains_snd, hfind']
    cases hk : gtidSetFind s k with
    | none =>
      by_cases huuid : uuid = k
      · simp only [huuid, if_true, Option.none_or, Option.map_some, Option.getD_some, hnew,
          Option.bind_some, uuidSetContains_new, Option.map_none, Option.getD_none]
      · rw [if_neg huuid, Option.none_or]
        rfl
    | some cur =>
      obtain ⟨hcur, -⟩ := h.find_mem hk
      obtain ⟨u, hu⟩ := h.alive cur hcur
      obtain ⟨next, hget⟩ := hkeep cur hcur u hu
      simp only [Option.some_or, Option.map_some, Option.getD_some, hu, hget, Option.bind_some]
      rfl

/-- **A rejected add returns `0` and changes no membership; it leaves the number of records and
the related sets as they were just when the uuid had a record.** -/
theorem gtidSetAdd_rejected_iff (h : SetLinks s.uuidSetCells s.header s.tail as)
    (hcached : ∀ a, s.cached = some a → a ∈ as) (uuid : Uuid)
    (hinvalid : start < 1 ∨ «end» < start) (rand : Rand) :
    ∃ s', gtidSetAdd s uuid start «end» rand = some (s', 0) ∧ SameMembers s s' ∧
      (((gtidSetGetStat s').uuidCount = (gtidSetGetStat s).uuidCount ∧ SameRelations s s') ↔
        ∃ a, gtidSetFind s uuid = some a) := by
  have hvalid : gtidIntervalIsValid start «end» = false := by
    rw [← Bool.not_eq_true, gtidIntervalIsValid_iff]
    omega
  cases hfound : (cachedFor s uuid).or (gtidSetFind s uuid) with
  | some cur =>
    have hcur : cur ∈ as ∧ XredisGtid.hasUuid s.uuidSetCells uuid cur = true := by
      rcases Option.or_eq_some_iff.mp hfound with hc | ⟨-, hc⟩
      · obtain ⟨hc, hyes⟩ := Option.filter_eq_some_iff.mp hc
        exact ⟨hcached cur hc, hyes⟩
      · exact h.find_mem hc
    obtain ⟨u, hu⟩ := h.alive cur hcur.1
    refine ⟨{ s with cached := some cur }, ?_, fun k g => ?_, fun _ => h.find_iff.mpr ⟨cur, hcur⟩,
      fun _ => ⟨rfl, fun t => ⟨rfl, rfl⟩⟩⟩
    · simp only [gtidSetAdd, hfound, findOrAppend, hu, uuidSetAdd, hvalid, Bool.false_eq_true,
        if_false, Option.bind_eq_bind, Option.bind_some, Arena.set_self hu]
    · rw [gtidSetContains_snd, gtidSetContains_snd]
      rfl
  | none =>
    obtain ⟨hc, hfind⟩ := Option.or_eq_none_iff.mp hfound
    obtain ⟨s', hadd, hmem, hlink⟩ := gtidSetAdd_rejected_new h hc hfind hvalid rand
    refine ⟨s', hadd, hmem, ?_, ?_⟩
    · rintro ⟨hcount, -⟩
      rw [gtidSetGetStat_uuidCount h, gtidSetGetStat_uuidCount hlink, List.length_append,
        List.length_singleton, sizeT, sizeT] at hcount
      omega
    · rintro ⟨a, ha⟩
      rw [hfind] at ha
      cases ha

theorem gtidSetAdd_rejected_known :
    ∃ s s', gtidSetAdd gtidSetNew [65] 1 3 (fun _ => 0) = some (s, 3) ∧
      gtidSetAdd s [65] 0 0 (fun _ => 0) = some (s', 0) ∧ SameMembers s s' ∧
      (gtidSetGetStat s').uuidCount = (gtidSetGetStat s).uuidCount ∧ SameRelations s s' := by
  have hset : ∃ s, gtidSetAdd gtidSetNew [65] 1 3 (fun _ => 0) = some (s, 3) ∧
      SetLinks s.uuidSetCells s.header s.tail [0] ∧ s.cached = some 0 ∧
      gtidSetFind s [65] = some 0 :=
    ⟨_, rfl, ⟨⟨rfl, rfl⟩, List.nodup_singleton 0,
      (by rintro a ⟨⟩; exacts [⟨_, rfl⟩, by contradiction]), rfl⟩, rfl, rfl⟩
  obtain ⟨s, hadd, hlinks, hcached, hfind⟩ := hset
  obtain ⟨s', hadd', hmem, hiff⟩ := gtidSetAdd_rejected_iff hlinks
    (fun a ha => by rw [hcached] at ha; cases ha; simp) [65] (Or.inl (show (0 : Int) < 1 by decide))
    (fun _ => 0)
  exact ⟨s, s', hadd, hadd', hmem, hiff.mpr ⟨0, hfind⟩⟩

/-- Adding the invalid range `0-0` to a set without records: the set reports one uuid and is
related to a set of that uuid. -/
theorem gtidSetAdd_rejected_counterexample :
    ∃ s t, gtidSetAdd gtidSetNew [65] 0 0 (fun _ => 0) = some (s, 0) ∧
      gtidSetAdd gtidSetNew [65] 1 3 (fun _ => 0) = some (t, 3) ∧
      (gtidSetGetStat gtidSetNew).uuidCount = 0 ∧ (gtidSetGetStat s).uuidCount = 1 ∧
      gtidSetRelated gtidSetNew t = false ∧ gtidSetRelated s t = true :=
  ⟨_, _, rfl, rfl, rfl, rfl, rfl, rfl⟩

end Rejected

section Removed
variable {s : GtidSet} {start «end» : Int}

theorem intOfGno_eq_iff {n : Int} (hn : 0 ≤ n) : intOfGno n = n ↔ n ≤ 2147483647 := by
  unfold intOfGno
  omega

/-- The gnos of one uuid are not more than `long long` can count. -/
theorem WellFormedSet.removed_le (h : WellFormedSet s) (uuid : Uuid) (start «end» : Int) :
    ((contents s ∩ {uuid} ×ˢ Finset.Icc start «end»).card : Int) ≤ LLONG_MAX := by
  have hsub : contents s ∩ {uuid} ×ˢ Finset.Icc start «end» ⊆
      {uuid} ×ˢ Finset.Icc 1 LLONG_MAX := by
    rintro ⟨k, g⟩ hg
    rw [Finset.mem_inter, Finset.mem_product] at hg
    have hbounds := h.gno_bounds hg.1
    rw [Finset.mem_product, Finset.mem_Icc]
    exact ⟨hg.2.1, hbounds⟩
  have hmax : (({uuid} : Finset Uuid) ×ˢ Finset.Icc 1 LLONG_MAX).card = LLONG_MAX.toNat := by
    rw [Finset.card_product, Finset.card_singleton, Nat.one_mul, Int.card_Icc,
      Int.add_sub_cancel]
  have hcard := Finset.card_le_card hsub
  rw [hmax] at hcard
  have hnonneg : 0 ≤ LLONG_MAX := by decide
  omega

/-- **`gtidSetRemove` returns the decrease of `gtidSetCount` just when it removes fewer than
`2 ^ 31` gnos and the count does not wrap in between.**  A range just added, of gnos that were
not there, is reported back just when it is shorter than `2 ^ 31`. -/
theorem gtidSetRemove_count_iff (h : WellFormedSet s) (uuid : Uuid) (hs : 1 ≤ start)
    (hse : start ≤ «end») (rand : Rand) :
    (∃ s' removed, gtidSetRemove s uuid start «end» rand = some (s', removed) ∧
      (removed = gtidSetCount s - gtidSetCount s' ↔
        (contents s ∩ {uuid} ×ˢ Finset.Icc start «end»).card < 2 ^ 31 ∧
        ((contents s).card + 2 ^ 63) / 2 ^ 64 =
          ((contents s \ {uuid} ×ˢ Finset.Icc start «end»).card + 2 ^ 63) / 2 ^ 64)) ∧
    (EntriesBelow (entries s) → «end» < LLONG_MAX →
      (∀ g ∈ Finset.Icc start «end», (uuid, g) ∉ contents s) →
      ∃ s₁ added s₂ removed, gtidSetAdd s uuid start «end» rand = some (s₁, added) ∧
        gtidSetRemove s₁ uuid start «end» rand = some (s₂, removed) ∧
        (removed = added ↔ «end» - start + 1 < 2 ^ 31)) := by
  constructor
  · obtain ⟨s', hremove, hwf', -, hset⟩ := remove_wellFormedSet h uuid hs hse rand
    refine ⟨s', _, hremove, ?_⟩
    have hle := h.removed_le uuid start «end»
    have hcard := Finset.card_sdiff_add_card_inter (contents s) ({uuid} ×ˢ Finset.Icc start «end»)
    rw [h.count, hwf'.count, hset, ← hcard]
    generalize (contents s ∩ {uuid} ×ˢ Finset.Icc start «end»).card = n at hle
    generalize (contents s \ {uuid} ×ˢ Finset.Icc start «end»).card = m
    unfold LLONG_MAX at hle
    unfold intOfGno llong
    omega
  · intro hb he hnew
    obtain ⟨s₁, hadd, hr₁, hset⟩ := add_regularSet ⟨h, hb⟩ uuid hs hse he rand
    obtain ⟨s₂, hremove, -⟩ := remove_regularSet hr₁ uuid hs hse rand
    refine ⟨s₁, _, s₂, _, hadd, hremove, ?_⟩
    have hsdiff : ({uuid} ×ˢ Finset.Icc start «end» : Finset (Uuid × Int)) \ contents s =
        {uuid} ×ˢ Finset.Icc start «end» := by
      rw [Finset.sdiff_eq_self_iff_disjoint, Finset.disjoint_left]
      rintro ⟨k, g⟩ hg
      rw [Finset.mem_product, Finset.mem_singleton] at hg
      obtain ⟨rfl, hg⟩ := hg
      exact hnew g hg
    have hinter : contents s₁ ∩ {uuid} ×ˢ Finset.Icc start «end» =
        {uuid} ×ˢ Finset.Icc start «end» := by
      rw [hset, Finset.inter_eq_right]
      exact Finset.subset_union_right
    rw [hsdiff, hinter, Finset.card_product, Finset.card_singleton, Int.card_Icc, Nat.one_mul,
      intOfGno_eq_iff (Int.natCast_nonneg _)]
    omega

theorem gtidSetRemove_count_four :
    ∃ s s' removed, contents s = {[65]} ×ˢ Finset.Icc 5 8 ∧
      gtidSetRemove s [65] 5 8 (fun _ => 0) = some (s', removed) ∧
      (removed = gtidSetCount s - gtidSetCount s' ↔
        (contents s ∩ {[65]} ×ˢ Finset.Icc 5 8).card < 2 ^ 31 ∧
        ((contents s).card + 2 ^ 63) / 2 ^ 64 =
          ((contents s \ {[65]} ×ˢ Finset.Icc 5 8).card + 2 ^ 63) / 2 ^ 64) := by
  obtain ⟨s, -, hr, hset⟩ := add_regularSet regularSet_new.1 [65] (show (1 : Int) ≤ 5 by decide)
    (show (5 : Int) ≤ 8 by decide) (by decide) (fun _ => 0)
  rw [contents_new, Finset.empty_union] at hset
  obtain ⟨s', removed, hremove, hiff⟩ := (gtidSetRemove_count_iff hr.toWellFormedSet [65]
    (show (1 : Int) ≤ 5 by decide) (show (5 : Int) ≤ 8 by decide) (fun _ => 0)).1
  exact ⟨s, s', removed, hset, hremove, hiff⟩

/-- `2 ^ 31` gnos go in and come out, and `-2 ^ 31` is what the removal reports. -/
theorem gtidSetRemove_count_negative :
    ∃ s s', gtidSetAdd gtidSetNew [65] 1 2147483648 (fun _ => 0) = some (s, 2147483648) ∧
      gtidSetRemove s [65] 1 2147483648 (fun _ => 0) = some (s', -2147483648) ∧
      gtidSetCount s = 2147483648 ∧ gtidSetCount s' = 0 :=
  ⟨_, _, rfl, rfl, rfl, rfl⟩

end Removed

end XredisGtid
