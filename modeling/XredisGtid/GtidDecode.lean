import XredisGtid.GtidEncode

/-!
# Decoding undoes encoding

Decoding the text of a list of entries gives a set with these entries, for every list
that encoding can write: the uuids contain no separator, every entry has gnos, and the
text is shorter than `2 ^ 31` bytes, since the source keeps positions in an `int`.

The intervals of an entry are added one after another, so that an entry has to be
`Restorable`: only one that is the single interval of its uuid may end at `LLONG_MAX`.
Decoding the text of any other entry fails.
-/
namespace XredisGtid
open Memory Buffer Decimal KeyedIntervals

section Separators
variable {x : Int} {i : Int × Int} {c : UInt8}

theorem notMem_longText (hx : 1 ≤ x) (hc : ¬ IsDigit c) : c ∉ longText x := by
  rw [longText, if_neg (by omega)]
  exact fun hmem => hc (isDigit_decimal x.toNat c hmem)

theorem notMem_intervalText (h : 1 ≤ i.1 ∧ i.1 ≤ i.2) (hc : ¬ IsDigit c) (hne : c ≠ hyphen) :
    c ∉ intervalText i := by
  have h₁ := notMem_longText h.1 hc
  have h₂ := notMem_longText (Int.le_trans h.1 h.2) hc
  rw [intervalText]
  split
  · exact h₁
  · rw [List.mem_append, List.mem_cons]
    tauto

theorem notMem_uuidSetText {e : Entry} (h : Valid e.2) (hk : split ∉ e.1) :
    split ∉ uuidSetText e := by
  rw [uuidSetText, List.mem_append, intervalsText, List.mem_flatMap]
  rintro (hmem | ⟨i, hi, hmem⟩)
  · exact hk hmem
  · have hvalid := h i hi
    rcases List.mem_cons.mp hmem with heq | hmem
    · exact absurd heq (by decide)
    · exact notMem_intervalText ⟨hvalid.1, hvalid.2.1⟩ (by unfold IsDigit; decide) (by decide) hmem

end Separators

/-! ## The functions on a text that is split -/

section Split
variable {mem a b uuid : Bytes} {s src start i : Nat} {g : GtidSet} {rand : Rand}

/-- The two numbers around the first hyphen. -/
theorem gtidIntervalDecode_hyphen (h : TextAt mem s (a ++ hyphen :: b)) (ha : hyphen ∉ a) :
    gtidIntervalDecode mem s (a ++ hyphen :: b).length =
      andThen (string2ll mem s a.length) (fun x =>
        (string2ll mem (s + a.length + 1) b.length).map (fun r => r.map (fun y => (x, y)))) := by
  have hlen : (a ++ hyphen :: b).length - a.length - 1 = b.length := by
    rw [List.length_append, List.length_cons]
    omega
  have hscan := scan_append h ha (show a.length < (a ++ hyphen :: b).length by simp)
  rw [gtidIntervalDecode, hscan]
  simp only [Option.bind_eq_bind, Option.bind_some, Nat.add_sub_cancel_left, hlen]
  rcases string2ll mem s a.length with _ | _ | x
  · rfl
  · rfl
  · rw [Option.bind_some, andThen_some]
    rcases string2ll mem (s + a.length + 1) b.length with _ | _ | y <;> rfl

/-- One number. -/
theorem gtidIntervalDecode_single (h : TextAt mem s a) (ha : hyphen ∉ a) :
    gtidIntervalDecode mem s a.length =
      (string2ll mem s a.length).map (fun r => r.map (fun x => (x, x))) := by
  rw [gtidIntervalDecode, scan_of_notMem h ha]
  simp only [Option.bind_eq_bind, Option.bind_some]
  cases string2ll mem s a.length with
  | none => rfl
  | some r => cases r <;> rfl

theorem uuidSetDecode_plain (h : TextAt mem s a) (hne : a ≠ []) (ha : colon ∉ a) :
    uuidSetDecode mem s (a.length : Int) rand = some (some (uuidSetNew a)) := by
  have hpos := List.length_pos_iff.mpr hne
  rw [uuidSetDecode, if_neg (by omega)]
  simp only [Option.bind_eq_bind, Int.toNat_natCast, scan_of_notMem h ha, Option.bind_some, if_true,
    h.take_drop]

/-- The loop over the intervals behind the first colon. -/
theorem uuidSetDecode_cons (h : TextAt mem s (uuid ++ colon :: b)) (hu : colon ∉ uuid) :
    uuidSetDecode mem s ((uuid ++ colon :: b).length : Int) rand =
      forPieces mem s colon (decodeInterval mem s rand) b.length (uuid.length + 1)
        (uuid.length + 1) (uuidSetNew uuid) := by
  obtain ⟨n, hn⟩ : ∃ n, n = (uuid ++ colon :: b).length := ⟨_, rfl⟩
  have hlen := hn
  rw [List.length_append, List.length_cons] at hlen
  have hscan := scan_append h hu (show uuid.length < n by omega)
  rw [← hn, uuidSetDecode, if_neg (by omega)]
  simp only [Option.bind_eq_bind, Int.toNat_natCast, hscan, Option.bind_some,
    Nat.add_sub_cancel_left]
  rw [if_neg (by omega), (textAt_append.mp h).1.take_drop,
    show n - (uuid.length + 1) = b.length by omega]

/-- The piece that the two `int`s give. -/
theorem decodeUuidSet_eq {k : Nat} (hk : intOfSize (start : Int) = k) :
    decodeUuidSet mem src rand g start i =
      andThen (uuidSetDecode mem (src + k) (intOfSize ((i : Int) - k)) (rand.sub i))
        (fun u => (gtidSetAppend g u).map (fun r => some r.1)) := by
  have hguard : (guard (0 ≤ (src : Int) + (k : Int)) : Option Unit) = some () :=
    if_pos (by omega)
  have hplace : ((src : Int) + (k : Int)).toNat = src + k := by omega
  rw [decodeUuidSet]
  simp only [hk, hguard, hplace, Option.bind_eq_bind, Option.bind_some]
  rcases uuidSetDecode mem (src + k) (intOfSize ((i : Int) - k)) (rand.sub i) with _ | _ | u
  · rfl
  · rfl
  · simp only [Option.bind_some, andThen_some]
    cases gtidSetAppend g u <;> rfl

/-- A position that does not fit the `int` is a pointer in front of the text. -/
theorem decodeUuidSet_neg (h : intOfSize (start : Int) < 0) :
    decodeUuidSet mem 0 rand g start i = none := by
  have hguard : (guard (0 ≤ ((0 : Nat) : Int) + intOfSize (start : Int)) : Option Unit) = none :=
    if_neg (by omega)
  rw [decodeUuidSet]
  simp only [hguard]
  rfl

end Split

section Decode
variable {mem : Bytes} {i : Int × Int} {u : UuidSet} {e : Entry} {s : Nat}

theorem gtidIntervalDecode_spec (h : 1 ≤ i.1 ∧ i.1 ≤ i.2 ∧ i.2 ≤ LLONG_MAX)
    (hmem : TextAt mem s (intervalText i)) :
    gtidIntervalDecode mem s (intervalText i).length = some (some i) := by
  have hlow : ∀ x : Int, 1 ≤ x → LLONG_MIN ≤ x := fun x hx => by unfold LLONG_MIN; omega
  have hhyphen := notMem_longText (c := hyphen) h.1 (by unfold IsDigit; decide)
  obtain ⟨start, «end»⟩ := i
  dsimp only at h hhyphen
  by_cases heq : start = «end»
  · subst heq
    have htext : intervalText (start, start) = longText start := if_pos rfl
    rw [htext] at hmem ⊢
    rw [gtidIntervalDecode_single hmem hhyphen, string2ll_spec (hlow start h.1) h.2.2 hmem]
    rfl
  · have htext : intervalText (start, «end») = longText start ++ hyphen :: longText «end» :=
      if_neg heq
    rw [htext] at hmem ⊢
    obtain ⟨hstart, hrest⟩ := textAt_append.mp hmem
    have hend := (textAt_cons.mp hrest).2
    rw [gtidIntervalDecode_hyphen hmem hhyphen,
      string2ll_spec (hlow start h.1) (Int.le_trans h.2.1 h.2.2) hstart, andThen_some,
      string2ll_spec (hlow «end» (Int.le_trans h.1 h.2.1)) h.2.2 hend]
    rfl

/-- What the loop of `uuidSetDecode` has built from the intervals read so far. -/
structure Decoded (uuid : Uuid) (done : List (Int × Int)) (u : UuidSet) : Prop where
  record : RecordOf u (uuid, IntervalList.union [] done)
  next : u.next = none

theorem decoded_new (uuid : Uuid) : Decoded uuid [] (uuidSetNew uuid) := by
  obtain ⟨hwf, hint⟩ := gtidIntervalSkipListNew_spec
  exact ⟨⟨rfl, hwf, hint⟩, rfl⟩

theorem union_concat (done : List (Int × Int)) (i : Int × Int) :
    IntervalList.union [] (done ++ [i]) =
      IntervalList.insert i.1 i.2 (IntervalList.union [] done) := by
  simp only [IntervalList.union, List.foldl_append, List.foldl_cons, List.foldl_nil]

/-- Adding the next interval. -/
theorem Decoded.add {uuid : Uuid} {done : List (Int × Int)} (hu : Decoded uuid done u)
    (h : 1 ≤ i.1 ∧ i.1 ≤ i.2 ∧ i.2 ≤ LLONG_MAX)
    (hfits : IntervalList.FitsNext LLONG_MAX (IntervalList.union [] done) i) (rand : Rand) :
    ∃ u' n, uuidSetAdd u i.1 i.2 rand = some (u', n) ∧ Decoded uuid (done ++ [i]) u' := by
  have hint := hu.record.intervals
  obtain ⟨gsl, hadd, hwf, hgsl⟩ := gtidIntervalSkipListAdd_fits_spec hu.record.wf
    (s := i.1) (e := i.2) (hint ▸ hfits) h.1 h.2.1 h.2.2 rand
  have hset : uuidSetAdd u i.1 i.2 rand = some ({ u with intervals := gsl },
      IntervalList.size (intervals gsl) - IntervalList.size (intervals u.intervals)) := by
    simp only [uuidSetAdd, gtidIntervalIsValid_iff.mpr ⟨h.1, h.2.1⟩, if_true, hadd,
      Option.bind_eq_bind, Option.bind_some]
  refine ⟨_, _, hset, ⟨hu.record.uuid, hwf, ?_⟩, hu.next⟩
  show intervals gsl = IntervalList.union [] (done ++ [i])
  rw [hgsl, hint, union_concat]

theorem decodeInterval_eq {rand : Rand} {start : Nat}
    (h : 1 ≤ i.1 ∧ i.1 ≤ i.2 ∧ i.2 ≤ LLONG_MAX)
    (hmem : TextAt mem (s + start) (intervalText i)) :
    decodeInterval mem s rand u start (start + (intervalText i).length) =
      (uuidSetAdd u i.1 i.2 (rand.sub (start + (intervalText i).length))).map
        (fun r => some r.1) := by
  have hpos := length_intervalText_pos i
  rw [decodeInterval, if_pos (by omega), Nat.add_sub_cancel_left, gtidIntervalDecode_spec h hmem]
  simp only [Option.bind_eq_bind, Option.bind_some, gtidIntervalIsValid_iff.mpr ⟨h.1, h.2.1⟩,
    if_true]
  cases uuidSetAdd u i.1 i.2 (rand.sub (start + (intervalText i).length)) <;> rfl

/-- **The next interval of a canonical list** is added if it stays clear of the limit, and fails
otherwise. -/
theorem decodeInterval_spec {uuid : Uuid} {done rest : List (Int × Int)} {start : Nat}
    (hu : Decoded uuid done u) (hc : IntervalList.Canonical (done ++ i :: rest))
    (h : 1 ≤ i.1 ∧ i.1 ≤ i.2 ∧ i.2 ≤ LLONG_MAX)
    (hmem : TextAt mem (s + start) (intervalText i)) (rand : Rand) :
    (¬ IntervalList.FitsNext LLONG_MAX (IntervalList.union [] done) i ∧
        decodeInterval mem s rand u start (start + (intervalText i).length) = none) ∨
      ∃ u', decodeInterval mem s rand u start (start + (intervalText i).length) = some (some u') ∧
        IntervalList.FitsNext LLONG_MAX (IntervalList.union [] done) i ∧
        Decoded uuid (done ++ [i]) u' := by
  rw [decodeInterval_eq h hmem]
  by_cases hfits : IntervalList.FitsNext LLONG_MAX (IntervalList.union [] done) i
  · obtain ⟨u', n, hadd, hu'⟩ := hu.add h hfits (rand.sub (start + (intervalText i).length))
    exact Or.inr ⟨u', by rw [hadd, Option.map_some], hfits, hu'⟩
  refine Or.inl ⟨hfits, ?_⟩
  obtain ⟨hdone, -, hsep⟩ := IntervalList.canonical_append.mp hc
  rw [IntervalList.nil_union hdone] at hfits
  have hint : intervals u.intervals = done :=
    hu.record.intervals.trans (IntervalList.nil_union hdone)
  rw [IntervalList.FitsNext, not_or] at hfits
  -- it starts behind what is there, and so it is the one that ends at the limit
  obtain ⟨j, hj, -, htop⟩ := IntervalList.mem_points.mp (IntervalList.top_mem hdone hfits.1)
  have hgap := hsep j hj i (by simp)
  have hmax : i.2 = LLONG_MAX := by
    by_contra hne
    exact hfits.2 ⟨by omega, Or.inl (by omega)⟩
  have hadd := gtidIntervalSkipListAdd_max_spec hu.record.wf (hint ▸ hfits.1)
    (show IntervalList.top (intervals u.intervals) + 1 < i.1 by rw [hint]; omega) (by omega)
    (rand.sub (start + (intervalText i).length))
  rw [← hmax] at hadd
  simp only [uuidSetAdd, gtidIntervalIsValid_iff.mpr ⟨h.1, h.2.1⟩, if_true, hadd,
    Option.bind_eq_bind, Option.bind_none, Option.map_none]

/-- Only a single interval may end at `LLONG_MAX`. -/
def Restorable (e : Entry) : Prop := e.2.length ≤ 1 ∨ IntervalList.top e.2 < LLONG_MAX

theorem fitsOnto_iff_restorable (hc : IntervalList.Canonical e.2) :
    IntervalList.FitsOnto LLONG_MAX [] e.2 ↔ Restorable e := hc.fitsOnto_iff (by decide)

/-- **Decoding one uuid set** that has gnos. -/
theorem uuidSetDecode_spec (hc : IntervalList.Canonical e.2) (h : Valid e.2) (hne : e.2 ≠ [])
    (hk : colon ∉ e.1) (hmem : TextAt mem s (uuidSetText e)) (rand : Rand) :
    (¬ Restorable e ∧ uuidSetDecode mem s (uuidSetText e).length rand = none) ∨
      ∃ u, uuidSetDecode mem s (uuidSetText e).length rand = some (some u) ∧ Restorable e ∧
        RecordOf u e ∧ u.next = none := by
  obtain ⟨uuid, l⟩ := e
  obtain ⟨i, l, rfl⟩ := List.exists_cons_of_ne_nil hne
  have htext : uuidSetText (uuid, i :: l) =
      uuid ++ colon :: (intervalText i ++ l.flatMap (fun i => colon :: intervalText i)) := rfl
  dsimp only at hk hc h
  rw [htext] at hmem ⊢
  rw [uuidSetDecode_cons hmem hk]
  have hrest := (textAt_cons.mp (textAt_append.mp hmem).2).2
  rcases forPieces_spec (decodeInterval mem s rand) (¬ Restorable (uuid, i :: l)) intervalText
    (fun done u => IntervalList.FitsOnto LLONG_MAX [] done ∧ Decoded uuid done u)
    (uuid.length + 1) (List.nil_append (i :: l)) ⟨trivial, decoded_new uuid⟩ hrest rfl
    (fun a ha => notMem_intervalText ⟨(h a ha).1, (h a ha).2.1⟩ (by unfold IsDigit; decide)
      (by decide))
    (fun done a rest u start hall hu hmem _ => by
      have ha := h a (hall ▸ by simp)
      rcases decodeInterval_spec hu.2 (hall ▸ hc) ha hmem rand with
        ⟨hfits, hfail⟩ | ⟨u', hrun, hfits, hu'⟩
      · refine Or.inl ⟨fun hok => hfits ?_, hfail⟩
        have hok : IntervalList.FitsOnto LLONG_MAX [] (i :: l) := (fitsOnto_iff_restorable hc).mpr hok
        rw [← hall, IntervalList.fitsOnto_append] at hok
        exact hok.2.1
      · refine Or.inr ⟨u', hrun, ?_, hu'⟩
        exact IntervalList.fitsOnto_append.mpr ⟨hu.1, hfits, trivial⟩) with
    hfail | ⟨u, hloop, hfits, hu⟩
  · exact Or.inl hfail
  · refine Or.inr ⟨u, hloop, (fitsOnto_iff_restorable hc).mp hfits, ?_, hu.next⟩
    have := hu.record
    rw [IntervalList.nil_union hc] at this
    exact this

/-- An entry that encoding writes. -/
structure Readable (e : Entry) : Prop where
  canonical : IntervalList.Canonical e.2
  valid : Valid e.2
  ne_nil : e.2 ≠ []
  colon_notMem : colon ∉ e.1
  split_notMem : split ∉ e.1

theorem intOfSize_natCast {n : Nat} (h : n < 2 ^ 31) : intOfSize (n : Int) = n := by
  unfold intOfSize intOfGno
  omega

/-- Entries whose texts an `int` reaches: it holds where a text starts, and how long it is. -/
structure Addressable (es : List Entry) : Prop where
  short : ∀ e ∈ es, (uuidSetText e).length < 2 ^ 31
  start : ∀ e ∈ es.getLast?, (gtidSetText es).length < 2 ^ 31 + (uuidSetText e).length

theorem length_uuidSetText_le {es : List Entry} (he : e ∈ es) :
    (uuidSetText e).length ≤ (gtidSetText es).length := by
  cases es with
  | nil => cases he
  | cons d es =>
    rw [gtidSetText, List.length_append]
    rcases List.mem_cons.mp he with rfl | he
    · exact Nat.le_add_right _ _
    · obtain ⟨l₁, l₂, rfl⟩ := List.append_of_mem he
      simp only [List.flatMap_append, List.flatMap_cons, List.length_append, List.length_cons]
      omega

theorem addressable_of_length_lt {es : List Entry} (h : (gtidSetText es).length < 2 ^ 31) :
    Addressable es :=
  ⟨fun _ he => (length_uuidSetText_le he).trans_lt h, fun _ _ => h.trans_le (Nat.le_add_right _ _)⟩

/-- The texts of all entries start below `2 ^ 31` when the last one does. -/
theorem Addressable.start_lt {es rest : List Entry} {start : Nat} (h : Addressable es)
    (hs : e :: rest <:+ es) (hn : start + (gtidSetText (e :: rest)).length = (gtidSetText es).length) :
    start < 2 ^ 31 := by
  obtain ⟨d, hd⟩ : ∃ d, (e :: rest).getLast? = some d :=
    ⟨_, List.getLast?_eq_some_getLast (List.cons_ne_nil e rest)⟩
  obtain ⟨done, rfl⟩ := hs
  have hlast := h.start d (by rw [List.getLast?_append, hd]; rfl)
  have hle := length_uuidSetText_le (List.mem_of_getLast? hd)
  omega

/-- Decoding one piece appends its entry. -/
theorem decodeUuidSet_spec {src start : Nat} {g : GtidSet} {l : List (Addr × Entry)}
    (h : SetRep g l) (he : Readable e) (hmem : TextAt mem (src + start) (uuidSetText e))
    (hstart : start < 2 ^ 31) (hlen : (uuidSetText e).length < 2 ^ 31) (rand : Rand) :
    (¬ Restorable e ∧
        decodeUuidSet mem src rand g start (start + (uuidSetText e).length) = none) ∨
      ∃ g', decodeUuidSet mem src rand g start (start + (uuidSetText e).length) =
          some (some g') ∧ Restorable e ∧
        ∃ l', SetRep g' l' ∧ l'.map Prod.snd = l.map Prod.snd ++ [e] := by
  have hstart : intOfSize (start : Int) = start := intOfSize_natCast hstart
  have hpiece : intOfSize (((start + (uuidSetText e).length : Nat) : Int) - start) =
      (uuidSetText e).length := by
    rw [Nat.cast_add, add_sub_cancel_left]
    exact intOfSize_natCast hlen
  rw [decodeUuidSet_eq hstart, hpiece]
  rcases uuidSetDecode_spec he.canonical he.valid he.ne_nil he.colon_notMem hmem
    (rand.sub (start + (uuidSetText e).length)) with ⟨hnot, hfail⟩ | ⟨u, hdecode, hok, hrec, hnext⟩
  · rw [hfail]
    exact Or.inl ⟨hnot, rfl⟩
  · obtain ⟨g', happend, hrep, -⟩ := gtidSetAppend_rep h hnext hrec.wf
    rw [hdecode, andThen_some, happend]
    refine Or.inr ⟨g', rfl, hok, _, hrep, ?_⟩
    rw [List.map_append, List.map_singleton, hrec.uuid, hrec.intervals]

/-- **Decoding a gtid set.** -/
theorem gtidSetDecode_spec {es : List Entry} {src : Nat} (hes : ∀ e ∈ es, Readable e)
    (hmem : TextAt mem src (gtidSetText es)) (haddr : Addressable es) (rand : Rand) :
    (¬ (∀ e ∈ es, Restorable e) ∧
        gtidSetDecode mem src (gtidSetText es).length rand = none) ∨
      ∃ t l, gtidSetDecode mem src (gtidSetText es).length rand = some (some t) ∧
        (∀ e ∈ es, Restorable e) ∧ SetRep t l ∧ l.map Prod.snd = es := by
  cases es with
  | nil => exact Or.inr ⟨gtidSetNew, [], rfl, by simp, setRep_new, rfl⟩
  | cons e es =>
    rw [gtidSetText] at hmem ⊢
    have hpos : 0 < (uuidSetText e).length := by
      obtain ⟨i, l, hi⟩ := List.exists_cons_of_ne_nil (hes e (by simp)).ne_nil
      rw [uuidSetText, hi, intervalsText, List.flatMap_cons, List.length_append,
        List.length_append, List.length_cons]
      omega
    rw [gtidSetDecode, if_neg (by rw [List.length_append]; omega)]
    rcases forPieces_spec (decodeUuidSet mem src rand) (¬ ∀ d ∈ e :: es, Restorable d) uuidSetText
      (fun done t => (∀ d ∈ done, Restorable d) ∧ ∃ l, SetRep t l ∧ l.map Prod.snd = done) 0
      (List.nil_append (e :: es)) ⟨by simp, [], setRep_new, rfl⟩ hmem rfl
      (fun d hd => notMem_uuidSetText (hes d hd).valid (hes d hd).split_notMem)
      (fun done d rest g start hall hg hmem hn => by
        obtain ⟨hdone, l, hrep, hl⟩ := hg
        have hd : d ∈ e :: es := hall ▸ by simp
        have hstart := haddr.start_lt ⟨done, hall⟩ (hn.trans (Nat.zero_add _))
        rcases decodeUuidSet_spec hrep (hes d hd) hmem hstart (haddr.short d hd) rand with
          ⟨hnot, hfail⟩ | ⟨g', hdecode, hok, l', hrep', hl'⟩
        · exact Or.inl ⟨fun hok => hnot (hok d hd), hfail⟩
        · refine Or.inr ⟨g', hdecode, ?_, l', hrep', hl ▸ hl'⟩
          intro k hk
          rcases List.mem_append.mp hk with hk | hk
          · exact hdone k hk
          · exact List.mem_singleton.mp hk ▸ hok) with hfail | ⟨t, hloop, hok, l, hrep, hl⟩
    · exact Or.inl hfail
    · exact Or.inr ⟨t, l, hloop, hok, hrep, hl⟩

end Decode

section RoundTrip
variable {s : GtidSet} {l : List (Addr × Entry)}

theorem SetRep.valid (h : SetRep s l) : ∀ c ∈ l, Valid c.2.2 := by
  intro c hc
  obtain ⟨u, -, hrec⟩ := (h.holds c hc).recordOf
  exact hrec.valid

theorem nonEmpty_nonEmpty (es : List Entry) : nonEmpty (nonEmpty es) = nonEmpty es := by
  simp [nonEmpty]

/-- What encoding writes of a set when no uuid has a separator in it. -/
theorem WellFormedSet.readable (h : WellFormedSet s)
    (hk : ∀ e ∈ nonEmpty (entries s), colon ∉ e.1 ∧ split ∉ e.1) :
    ∀ e ∈ nonEmpty (entries s), Readable e := by
  intro e he
  obtain ⟨hmem, hne⟩ := List.mem_filter.mp he
  obtain ⟨l, hrep⟩ := h.rep
  have hvalid : Valid e.2 := by
    rw [hrep.entries_eq] at hmem
    obtain ⟨c, hc, rfl⟩ := List.mem_map.mp hmem
    exact hrep.valid c hc
  exact ⟨h.canonical.canonical e hmem, hvalid, of_decide_eq_true hne, (hk e he).1, (hk e he).2⟩

/-- No uuid with several intervals reaches `LLONG_MAX`. -/
def RestorableSet (s : GtidSet) : Prop := ∀ e ∈ entries s, Restorable e

theorem restorable_nonEmpty : (∀ e ∈ nonEmpty (entries s), Restorable e) ↔ RestorableSet s := by
  constructor
  · intro h e he
    by_cases hnil : e.2 = []
    · exact Or.inl (by rw [hnil]; exact Nat.zero_le 1)
    · exact h e (List.mem_filter.mpr ⟨he, decide_eq_true hnil⟩)
  · exact fun h e he => h e (List.mem_of_mem_filter he)

theorem RegularSet.restorable (h : RegularSet s) : RestorableSet s := fun e he =>
  Or.inr (IntervalList.top_lt (by decide) (h.below e he))

/-- **Decoding what encoding has written** gives the entries back, or fails if a uuid with several
intervals reaches `LLONG_MAX`. -/
theorem WellFormedSet.decode_text (h : WellFormedSet s)
    (hk : ∀ e ∈ nonEmpty (entries s), colon ∉ e.1 ∧ split ∉ e.1)
    (haddr : Addressable (nonEmpty (entries s))) {mem : Bytes} {src : Nat}
    (hmem : TextAt mem src (gtidSetText (nonEmpty (entries s)))) (rand : Rand) :
    (¬ RestorableSet s ∧
        gtidSetDecode mem src (gtidSetText (nonEmpty (entries s))).length rand = none) ∨
      ∃ t, gtidSetDecode mem src (gtidSetText (nonEmpty (entries s))).length rand =
          some (some t) ∧ RestorableSet s ∧ WellFormedSet t ∧ entries t = nonEmpty (entries s) := by
  have hreadable := h.readable hk
  have hcanonical : Canonical (nonEmpty (entries s)) :=
    ⟨(List.filter_sublist.map Prod.fst).nodup h.distinct, fun e he => (hreadable e he).canonical⟩
  rw [← restorable_nonEmpty]
  rcases gtidSetDecode_spec hreadable hmem haddr rand with
    hfail | ⟨t, m, hdecode, hok, hrept, hm⟩
  · exact Or.inl hfail
  · exact Or.inr ⟨t, hdecode, hok, hrept.wellFormed hm hcanonical⟩

theorem RegularSet.decode_text (h : RegularSet s)
    (hk : ∀ e ∈ nonEmpty (entries s), colon ∉ e.1 ∧ split ∉ e.1)
    (haddr : Addressable (nonEmpty (entries s))) {mem : Bytes} {src : Nat}
    (hmem : TextAt mem src (gtidSetText (nonEmpty (entries s)))) (rand : Rand) :
    ∃ t, gtidSetDecode mem src (gtidSetText (nonEmpty (entries s))).length rand = some (some t) ∧
      RegularSet t ∧ entries t = nonEmpty (entries s) := by
  rcases h.toWellFormedSet.decode_text hk haddr hmem rand with
    ⟨hnot, -⟩ | ⟨t, hdecode, -, ht, hes⟩
  · exact absurd h.restorable hnot
  · exact ⟨t, hdecode, ⟨ht, fun e he => h.below e (List.mem_of_mem_filter (hes ▸ he))⟩, hes⟩

/-- **Encoding a set** in a buffer of the estimated size. -/
theorem WellFormedSet.encode (h : WellFormedSet s)
    (hlen : (gtidSetText (nonEmpty (entries s))).length < 2 ^ 63) {mem : Bytes}
    (hmem : gtidSetEstimatedEncodeBufferSize s ≤ mem.length) :
    ∃ mem', gtidSetEncode mem 0 (gtidSetEstimatedEncodeBufferSize s) s =
        some (mem', ((gtidSetText (nonEmpty (entries s))).length : Int)) ∧
      Written mem mem' 0 (gtidSetText (nonEmpty (entries s))) := by
  obtain ⟨l, hrep⟩ := h.rep
  have hes := hrep.entries_eq
  rw [hes] at hlen ⊢
  apply gtidSetEncode_spec mem 0 _ hrep (Nat.le_refl _)
  · rwa [Nat.zero_add]
  · rwa [Nat.zero_add]

/-- **Decode undoes encode.**  A set encoded into a buffer of the estimated size is read back
without its empty records, and encoding what was read gives the same bytes. -/
theorem gtidSetDecode_gtidSetEncode (h : RegularSet s)
    (huuids : ∀ uuid ∈ keys (entries s), colon ∉ uuid ∧ split ∉ uuid) {text : Bytes}
    (htext : text = gtidSetText (nonEmpty (entries s))) (hlen : text.length < 2 ^ 31) (mem : Bytes)
    (hmem : gtidSetEstimatedEncodeBufferSize s ≤ mem.length) (rand : Rand) :
    ∃ (mem' : Bytes) (t : GtidSet),
      gtidSetEncode mem 0 (gtidSetEstimatedEncodeBufferSize s) s =
        some (mem', (text.length : Int)) ∧
      mem'.take text.length = text ∧
      gtidSetDecode mem' 0 text.length rand = some (some t) ∧
      RegularSet t ∧ entries t = (entries s).filter (fun e => decide (e.2 ≠ [])) ∧
      ∀ mem₂ : Bytes, gtidSetEstimatedEncodeBufferSize t ≤ mem₂.length →
        ∃ mem₂' : Bytes, gtidSetEncode mem₂ 0 (gtidSetEstimatedEncodeBufferSize t) t =
          some (mem₂', (text.length : Int)) ∧ mem₂'.take text.length = text := by
  subst htext
  have hshort := hlen.trans (show 2 ^ 31 < 2 ^ 63 by decide)
  -- encoding, decoding, and encoding again
  obtain ⟨mem', hencode, hw⟩ := h.encode hshort hmem
  obtain ⟨t, hdecode, ht, htes⟩ := h.decode_text
    (fun e he => huuids e.1 (List.mem_map_of_mem (List.mem_of_mem_filter he)))
    (addressable_of_length_lt hlen) hw.textAt rand
  refine ⟨mem', t, hencode, hw.take_zero, hdecode, ht, htes, ?_⟩
  intro mem₂ hmem₂
  have hsame : nonEmpty (entries t) = nonEmpty (entries s) := by rw [htes, nonEmpty_nonEmpty]
  obtain ⟨mem₂', hencode₂, hw₂⟩ := ht.encode (hsame ▸ hshort) hmem₂
  rw [hsame] at hencode₂ hw₂
  exact ⟨mem₂', hencode₂, hw₂.take_zero⟩

/-- A set with gnos under `A` and an empty record of `B`. -/
theorem exists_set_with_empty :
    ∃ s, RegularSet s ∧ entries s = [([65], [(1, 3)]), ([66], [])] := by
  obtain ⟨s, l, -, hrep, hl, -⟩ := gtidSetAdd_rep setRep_new [65] List.nodup_nil
    (fun _ he => absurd he List.not_mem_nil) (show (1 : Int) ≤ 1 by decide)
    (show (1 : Int) ≤ 3 by decide) (by decide) (fun _ => 0)
  have hl : l.map Prod.snd = [([65], [(1, 3)])] := hl
  obtain ⟨s', l', -, hrep', hl', -⟩ := gtidSetAdd_invalid_rep hrep [66]
    (by rw [cellKeys, hl]; decide) (show ¬ ((1 : Int) ≤ 0 ∧ (0 : Int) ≤ 0) by decide) (fun _ => 0)
  rw [hl] at hl'
  have hcanonical : Canonical ([([65], [(1, 3)]), ([66], [])] : List Entry) :=
    canonical_cons.mpr ⟨by decide, ⟨by decide, by decide⟩,
      canonical_cons.mpr ⟨by decide, IntervalList.canonical_nil, canonical_nil⟩⟩
  have hbelow : ∀ e ∈ ([([65], [(1, 3)]), ([66], [])] : List Entry), ∀ i ∈ e.2,
      i.2 < LLONG_MAX := by decide
  exact ⟨s', hrep'.regular hl' hcanonical hbelow⟩

theorem gtidSetDecode_gtidSetEncode_pair :
    ∃ (s : GtidSet) (mem' : Bytes) (t : GtidSet),
      gtidSetEncode (List.replicate (gtidSetEstimatedEncodeBufferSize s) 0) 0
        (gtidSetEstimatedEncodeBufferSize s) s = some (mem', 5) ∧
      mem'.take 5 = [65, 58, 49, 45, 51] ∧
      gtidSetDecode mem' 0 5 (fun _ => 0) = some (some t) ∧ entries t = [([65], [(1, 3)])] := by
  obtain ⟨s, h, hes⟩ := exists_set_with_empty
  obtain ⟨mem', t, hencode, htake, hdecode, -, ht, -⟩ := gtidSetDecode_gtidSetEncode h
    (by rw [hes]; decide)
    (show [65, 58, 49, 45, 51] = gtidSetText (nonEmpty (entries s)) by rw [hes]; decide) (by decide)
    (List.replicate (gtidSetEstimatedEncodeBufferSize s) 0) (by simp) (fun _ => 0)
  exact ⟨s, mem', t, hencode, htake, hdecode, by rw [ht, hes]; decide⟩

end RoundTrip

end XredisGtid
