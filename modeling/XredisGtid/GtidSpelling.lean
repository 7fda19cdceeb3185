import XredisGtid.GtidReadPast

/-!
# The spelling of a number and of a gtid

What `ll2string` writes is read back by `string2ll`, and a gtid that `uuidGnoEncode` writes
by `uuidGnoDecode` as long as an `int` holds the position of its colon.  The other way
round, the comment on `string2ll` promises that only the notation of a number is read, but
zeros in front of it are skipped: a number has one more spelling for every number of zeros.
-/
namespace XredisGtid
open Buffer Decimal

/-- A number that starts with a zero, other than the number zero. -/
def LeadingZero (a : Bytes) : Prop := (unsigned a).head? = some '0'.toUInt8 ∧ a ≠ ['0'.toUInt8]

section Number
variable {l b : Bytes} {v : Nat} {x : Int}

/-- What a magnitude is read from: zeros and its notation. -/
theorem magnitude_some {max : Nat} (h : magnitude l max = some v) :
    1 ≤ v ∧ v ≤ max ∧ ∃ z, Zeros z ∧ l = z ++ decimal v := by
  obtain ⟨d, hd⟩ : ∃ d, l.dropWhile (fun c => c = '0'.toUInt8) = d := ⟨_, rfl⟩
  rw [magnitude_eq hd] at h
  split at h
  · next hnum =>
    obtain ⟨hne, hdigits, hmax⟩ := hnum
    obtain ⟨c, l', rfl⟩ := List.exists_cons_of_ne_nil hne
    have hc : c ≠ '0'.toUInt8 := by
      have := List.head?_dropWhile_not (fun c => decide (c = '0'.toUInt8)) l
      rw [hd] at this
      simpa using this
    have hvalue := decimal_value hdigits hc
    obtain rfl := Option.some.inj h
    refine ⟨?_, hmax, l.takeWhile (fun c => c = '0'.toUInt8), fun c hc => ?_, ?_⟩
    · apply Nat.one_le_iff_ne_zero.mpr
      intro hzero
      rw [hzero, decimal_of_lt (by decide)] at hvalue
      exact hc (List.cons.inj hvalue).1.symm
    · simpa using List.mem_takeWhile_imp hc
    · rw [hvalue, ← hd, List.takeWhile_append_dropWhile]
  · cases h

/-- The notation of a positive number does not start with a zero. -/
theorem head?_decimal (h : 1 ≤ v) : (decimal v).head? ≠ some '0'.toUInt8 := by
  obtain ⟨d, l, h₁, h₂, hl⟩ := decimal_eq_cons h
  obtain ⟨-, -, hd, -⟩ := first_digit h₁ h₂
  rw [hl]
  exact fun he => hd (Option.some.inj he)

/-- Zeros and the notation of a number are that notation when they do not start with a zero. -/
theorem zeros_append_decimal {z : Bytes} (hz : Zeros z) (h : 1 ≤ v) :
    decimal v = z ++ decimal v ↔ (z ++ decimal v).head? ≠ some '0'.toUInt8 := by
  cases z with
  | nil => exact iff_of_true rfl (head?_decimal h)
  | cons c z =>
    have hc := hz c (by simp)
    refine iff_of_false (fun he => ?_) (not_not.mpr (by rw [hc]; rfl))
    have := congrArg List.length he
    rw [List.length_append, List.length_cons] at this
    omega

/-- **The spelling of a number** is its notation when it has no zero in front. -/
theorem longText_eq_iff (h : number b = some x) : longText x = b ↔ ¬ LeadingZero b := by
  rw [number] at h
  split at h
  · next hzero =>
    obtain rfl := Option.some.inj h
    exact iff_of_true hzero.symm (fun hlead => hlead.2 hzero)
  · next hzero =>
    split at h
    · next hsign =>
      obtain ⟨c, a, rfl⟩ : ∃ c a, b = c :: a := by
        cases b with
        | nil => cases hsign
        | cons c a => exact ⟨c, a, rfl⟩
      obtain rfl := Option.some.inj hsign
      rw [List.tail_cons, Option.map_eq_some_iff] at h
      obtain ⟨v, hv, rfl⟩ := h
      obtain ⟨hpos, -, z, hz, rfl⟩ := magnitude_some hv
      rw [longText, if_pos (by omega), Int.neg_neg, Int.toNat_natCast, LeadingZero, unsigned,
        if_pos hsign, List.tail_cons, List.cons_inj_right, zeros_append_decimal hz hpos]
      simp only [hzero, ne_eq, not_false_eq_true, and_true]
    · next hsign =>
      rw [Option.map_eq_some_iff] at h
      obtain ⟨v, hv, rfl⟩ := h
      obtain ⟨hpos, -, z, hz, rfl⟩ := magnitude_some hv
      rw [longText, if_neg (by omega), Int.toNat_natCast, LeadingZero, unsigned, if_neg hsign,
        zeros_append_decimal hz hpos]
      simp only [hzero, ne_eq, not_false_eq_true, and_true]

theorem isDigit_of_zeros {z : Bytes} (hz : Zeros z) : ∀ c ∈ z, IsDigit c := by
  intro c hc
  rw [hz c hc]
  decide

/-- A number has no colon in it. -/
theorem colon_notMem_of_number (h : number b = some x) : colon ∉ b := by
  have hmag : ∀ {l : Bytes} {v max : Nat}, magnitude l max = some v → colon ∉ l := by
    intro l v max hv hmem
    obtain ⟨-, -, z, hz, rfl⟩ := magnitude_some hv
    rcases List.mem_append.mp hmem with hmem | hmem
    · exact not_isDigit_colon (isDigit_of_zeros hz _ hmem)
    · exact not_isDigit_colon (isDigit_decimal v _ hmem)
  rw [number] at h
  split at h
  · next hzero =>
    rw [hzero]
    decide
  split at h
  · next hsign =>
    obtain ⟨v, hv, -⟩ := Option.map_eq_some_iff.mp h
    cases b with
    | nil => cases hsign
    | cons c a =>
      rw [List.mem_cons, not_or]
      obtain rfl := Option.some.inj hsign
      exact ⟨by decide, hmag hv⟩
  · obtain ⟨v, hv, -⟩ := Option.map_eq_some_iff.mp h
    exact hmag hv

end Number

section Gtid
variable {mem a b : Bytes} {src n : Nat} {c : UInt8} {x : Int}

/-- **What is accepted as a gtid**: a uuid whose colon an `int` can point at, and a number. -/
theorem uuidGnoDecode_iff (h : TextAt mem src (a ++ colon :: b ++ [c])) (hc : ¬ IsDigit c)
    (ha : colon ∉ a) :
    uuidGnoDecode mem src (a ++ colon :: b).length = some (some (x, n)) ↔
      a.length < 2 ^ 31 ∧ number b = some x ∧ n = a.length := by
  have htext := (textAt_append.mp h).1
  by_cases hneg : intOfSize (a.length : Int) < 0
  · rw [uuidGnoDecode_neg htext ha hneg]
    refine iff_of_false (by split <;> simp) (fun hshort => ?_)
    rw [intOfSize_natCast hshort.1] at hneg
    exact absurd hneg (by omega)
  obtain ⟨k, hk⟩ := Int.eq_ofNat_of_zero_le (Int.not_lt.mp hneg)
  rw [uuidGnoDecode_colon htext ha hk]
  by_cases hshort : a.length < 2 ^ 31
  · rw [intOfSize_natCast hshort, Nat.cast_inj] at hk
    subst hk
    have hrest : (a ++ colon :: b).length - a.length - 1 = b.length := by
      rw [List.length_append, List.length_cons]
      omega
    rw [List.append_assoc, List.cons_append] at h
    rw [hrest, string2ll_text (textAt_cons.mp (textAt_append.mp h).2).2 hc]
    cases number b with
    | none => simp
    | some y =>
      rw [Option.map_some, Option.map_some, Option.some.injEq, Option.some.injEq, Prod.mk.injEq,
        Option.some.injEq, eq_comm (a := n)]
      exact ⟨fun he => ⟨hshort, he⟩, fun he => he.2⟩
  · -- a position too large for an `int`: the text from there on has the colon in it
    refine iff_of_false ?_ (fun he => hshort he.1)
    have hfar := intOfSize_of_le (x := (a.length : Int)) (by omega)
    rw [hk] at hfar
    obtain ⟨a₁, a₂, rfl, ha₁⟩ : ∃ a₁ a₂, a = a₁ ++ a₂ ∧ a₁.length = k + 1 := by
      refine ⟨_, _, (List.take_append_drop (k + 1) a).symm, ?_⟩
      rw [List.length_take]
      omega
    have hrest : (a₁ ++ a₂ ++ colon :: b).length - k - 1 = (a₂ ++ colon :: b).length := by
      simp only [List.length_append, List.length_cons]
      omega
    have hmem : TextAt mem (src + k + 1) (a₂ ++ colon :: b ++ [c]) := by
      rw [List.append_assoc a₁, List.append_assoc a₁] at h
      have := (textAt_append.mp h).2
      rwa [ha₁, ← Nat.add_assoc] at this
    rw [hrest, string2ll_text hmem hc]
    cases hnum : number (a₂ ++ colon :: b) with
    | none => simp
    | some y => exact absurd (by simp) (colon_notMem_of_number hnum)

/-- **Writing a gtid** changes nothing outside of the buffer. -/
theorem uuidGnoEncode_spec (pre buf post uuid : Bytes) (hlow : LLONG_MIN ≤ x) (hhigh : x ≤ LLONG_MAX)
    (hroom : uuid.length + 1 + GNO_REPR_MAX_LEN ≤ buf.length) :
    ∃ rest, uuidGnoEncode (pre ++ buf ++ post) pre.length buf.length uuid x =
        some (pre ++ (uuid ++ colon :: longText x ++ 0 :: rest) ++ post,
          ((uuid ++ colon :: longText x).length : Int)) ∧
      (uuid ++ colon :: longText x ++ 0 :: rest).length = buf.length := by
  have hlen := length_longText_le_twenty hlow hhigh
  have hmax : GNO_REPR_MAX_LEN = 21 := rfl
  rw [hmax] at hroom
  -- the parts of the buffer that are written
  obtain ⟨u, d, t, z, rest, rfl, hu, ht⟩ : ∃ u d t z rest, buf = u ++ d :: (t ++ z :: rest) ∧
      u.length = uuid.length ∧ t.length = (longText x).length := by
    obtain ⟨u, d, v, rfl, hu⟩ := exists_split_cons buf uuid.length (by omega)
    rw [List.length_append, List.length_cons] at hroom
    obtain ⟨t, z, rest, rfl, ht⟩ := exists_split_cons v (longText x).length (by omega)
    exact ⟨u, d, t, z, rest, rfl, hu, ht⟩
  refine ⟨rest, ?_, by simp [hu, ht]⟩
  have h₁ : memcpy (pre ++ (u ++ d :: (t ++ z :: rest)) ++ post) pre.length uuid =
      some (pre ++ uuid ++ [d] ++ (t ++ z :: rest ++ post)) := by
    have := memcpy_append (a := pre) (b := d :: (t ++ z :: rest) ++ post) hu
    simpa using this
  have h₂ : memcpy (pre ++ uuid ++ [d] ++ (t ++ z :: rest ++ post)) (pre.length + uuid.length) [colon] =
      some (pre ++ uuid ++ [colon] ++ t ++ z :: (rest ++ post)) := by
    have := memcpy_append (a := pre ++ uuid) (b := t ++ z :: rest ++ post)
      (show [d].length = [colon].length from rfl)
    rw [List.length_append] at this
    simpa using this
  have h₃ : ll2string (pre ++ uuid ++ [colon] ++ t ++ z :: (rest ++ post))
      (pre.length + uuid.length + 1) GNO_REPR_MAX_LEN x =
      some (pre ++ uuid ++ [colon] ++ longText x ++ 0 :: (rest ++ post), (longText x).length) := by
    have := ll2string_append (pre ++ uuid ++ [colon]) t (rest ++ post) z x ht
      (show (longText x).length < GNO_REPR_MAX_LEN by omega)
    rwa [List.length_append, List.length_append] at this
  rw [uuidGnoEncode, if_neg (by rw [hmax]; omega), h₁]
  simp only [Option.bind_eq_bind, Option.bind_some, h₂, h₃]
  simp [Nat.add_assoc, Nat.add_comm 1]

end Gtid

/-! ## The image of the writers -/

/-- `ll2string` into the buffer `buf` writes the text `b`. -/
def NumberSpelled (pre buf post : Bytes) (x : Int) (b : Bytes) : Prop :=
  ∃ rest, ll2string (pre ++ buf ++ post) pre.length buf.length x =
    some (pre ++ (b ++ rest) ++ post, b.length)

/-- `uuidGnoEncode` into the buffer `buf` writes the text `s`. -/
def GtidSpelled (pre buf post uuid : Bytes) (x : Int) (s : Bytes) : Prop :=
  ∃ rest, uuidGnoEncode (pre ++ buf ++ post) pre.length buf.length uuid x =
    some (pre ++ (s ++ rest) ++ post, (s.length : Int))

section Spelled
variable {pre buf post uuid s b : Bytes} {x : Int} {n : Nat}

/-- A text of a known length in the middle. -/
theorem middle_inj {t rest rest' : Bytes}
    (h : pre ++ (s ++ rest) ++ post = pre ++ (t ++ rest') ++ post) (hlen : s.length = t.length) :
    s = t :=
  (List.append_inj (List.append_cancel_left (List.append_cancel_right h)) hlen).1

/-- **Writing a number** fills a buffer of 21 bytes at most. -/
theorem ll2string_buffer (pre buf post : Bytes) (hlow : LLONG_MIN ≤ x) (hhigh : x ≤ LLONG_MAX)
    (hroom : GNO_REPR_MAX_LEN ≤ buf.length) :
    ∃ rest, ll2string (pre ++ buf ++ post) pre.length buf.length x =
        some (pre ++ (longText x ++ 0 :: rest) ++ post, (longText x).length) ∧
      (longText x ++ 0 :: rest).length = buf.length := by
  have hlen := length_longText_le_twenty hlow hhigh
  rw [show GNO_REPR_MAX_LEN = 21 from rfl] at hroom
  obtain ⟨t, z, rest, rfl, ht⟩ := exists_split_cons buf (longText x).length (by omega)
  have hwrite := ll2string_append pre t (rest ++ post) z x ht
    (show (longText x).length < (t ++ z :: rest).length by
      rw [List.length_append, List.length_cons]
      omega)
  refine ⟨rest, ?_, by simp [ht]⟩
  simpa using hwrite

theorem numberSpelled_iff (hlow : LLONG_MIN ≤ x) (hhigh : x ≤ LLONG_MAX)
    (hroom : GNO_REPR_MAX_LEN ≤ buf.length) :
    NumberSpelled pre buf post x b ↔ longText x = b := by
  obtain ⟨rest, hwrite, -⟩ := ll2string_buffer pre buf post hlow hhigh hroom
  rw [NumberSpelled, hwrite]
  constructor
  · rintro ⟨rest', h⟩
    obtain ⟨hmem, hlen⟩ := Prod.mk.inj (Option.some.inj h)
    exact middle_inj hmem hlen
  · rintro rfl
    exact ⟨0 :: rest, rfl⟩

theorem gtidSpelled_iff (hlow : LLONG_MIN ≤ x) (hhigh : x ≤ LLONG_MAX)
    (hroom : uuid.length + 1 + GNO_REPR_MAX_LEN ≤ buf.length) :
    GtidSpelled pre buf post uuid x s ↔ uuid ++ colon :: longText x = s := by
  obtain ⟨rest, hwrite, -⟩ := uuidGnoEncode_spec pre buf post uuid hlow hhigh hroom
  rw [GtidSpelled, hwrite]
  constructor
  · rintro ⟨rest', h⟩
    obtain ⟨hmem, hlen⟩ := Prod.mk.inj (Option.some.inj h)
    exact middle_inj hmem (Nat.cast_inj.mp hlen)
  · rintro rfl
    exact ⟨0 :: rest, rfl⟩

/-- A text behind which a NUL stands is where the reader starts. -/
theorem textAt_nul (s : Bytes) : TextAt (s ++ [0]) 0 (s ++ [0]) := ⟨[], by simp⟩

/-- A number that is read is written as it was read when it has no zero in front. -/
theorem numberSpelled_of_string2ll (h : string2ll (b ++ [0]) 0 b.length = some (some x))
    (hroom : GNO_REPR_MAX_LEN ≤ buf.length) :
    NumberSpelled pre buf post x b ↔ ¬ LeadingZero b := by
  obtain ⟨hlow, hhigh⟩ := string2ll_bounds h
  rw [string2ll_text (textAt_nul b) (by decide)] at h
  rw [numberSpelled_iff hlow hhigh hroom]
  exact longText_eq_iff (Option.some.inj h)

/-- A gtid that is read is written as it was read when its number has no zero in front. -/
theorem gtidSpelled_of_uuidGnoDecode
    (h : uuidGnoDecode (s ++ [0]) 0 s.length = some (some (x, n)))
    (hroom : n + 1 + GNO_REPR_MAX_LEN ≤ buf.length) :
    GtidSpelled pre buf post (s.take n) x s ↔ ¬ LeadingZero (s.drop (n + 1)) := by
  obtain ⟨hlow, hhigh⟩ := uuidGnoDecode_bounds h
  by_cases hcolon : colon ∈ s
  · obtain ⟨a, b, rfl, ha⟩ := List.eq_append_cons_of_mem hcolon
    obtain ⟨-, hnum, rfl⟩ := (uuidGnoDecode_iff (textAt_nul _) (by decide) ha).mp h
    have hdrop : (a ++ colon :: b).drop (a.length + 1) = b := by
      rw [List.append_cons, List.drop_left' (by simp)]
    rw [List.take_left' rfl, hdrop, gtidSpelled_iff hlow hhigh hroom, List.append_cancel_left_eq,
      List.cons_inj_right]
    exact longText_eq_iff hnum
  · rw [uuidGnoDecode_plain (textAt_append.mp (textAt_nul s)).1 hcolon] at h
    cases h

/-- A uuid without colon that is written is read back as long as an `int` holds its length. -/
theorem uuidGnoDecode_uuidGnoEncode (pre buf post : Bytes) (huuid : colon ∉ uuid)
    (hlow : LLONG_MIN ≤ x) (hhigh : x ≤ LLONG_MAX)
    (hroom : uuid.length + 1 + GNO_REPR_MAX_LEN ≤ buf.length) :
    ∃ mem len, uuidGnoEncode (pre ++ buf ++ post) pre.length buf.length uuid x =
        some (mem, ((len : Nat) : Int)) ∧
      (uuidGnoDecode mem pre.length len = some (some (x, uuid.length)) ↔
        uuid.length < 2 ^ 31) := by
  obtain ⟨rest, hwrite, -⟩ := uuidGnoEncode_spec pre buf post uuid hlow hhigh hroom
  refine ⟨_, _, hwrite, ?_⟩
  have htext : TextAt (pre ++ (uuid ++ colon :: longText x ++ 0 :: rest) ++ post) pre.length
      (uuid ++ colon :: longText x ++ [0]) := ⟨rest ++ post, by simp⟩
  rw [uuidGnoDecode_iff htext (by decide) huuid]
  have hnum : number (longText x) = some x := by
    have hread := string2ll_spec hlow hhigh (textAt_append.mp (textAt_nul (longText x))).1
    rw [string2ll_text (textAt_nul _) (by decide)] at hread
    exact Option.some.inj hread
  simp only [hnum, and_true]

/-- **The spelling of a gtid.**  What is read is what would be written for it, if and only if
the number has no zero in front; the same holds for a number alone. -/
theorem gtid_spelling (pre buf post s : Bytes) (x : Int) :
    (∀ n, uuidGnoDecode (s ++ [0]) 0 s.length = some (some (x, n)) →
      n + 1 + GNO_REPR_MAX_LEN ≤ buf.length →
      (GtidSpelled pre buf post (s.take n) x s ↔ ¬ LeadingZero (s.drop (n + 1)))) ∧
    (string2ll (s ++ [0]) 0 s.length = some (some x) → GNO_REPR_MAX_LEN ≤ buf.length →
      (NumberSpelled pre buf post x s ↔ ¬ LeadingZero s)) :=
  ⟨fun _ h hroom => gtidSpelled_of_uuidGnoDecode h hroom,
    fun h hroom => numberSpelled_of_string2ll h hroom⟩

/-- The gtid `A:01` is read. -/
theorem uuidGnoDecode_zero_one :
    uuidGnoDecode ([65, colon, 48, 49] ++ [0]) 0 [65, colon, 48, 49].length =
      some (some (1, 1)) := by
  decide +kernel

theorem gtid_spelling_plain :
    GtidSpelled [] (List.replicate 23 0) [] [65] 1 [65, colon, 49] ∧
      NumberSpelled [] (List.replicate 21 0) [] 10 [49, 48] :=
  ⟨((gtid_spelling [] (List.replicate 23 0) [] [65, colon, 49] 1).1 1 (by decide +kernel)
      (by decide)).mpr (by unfold LeadingZero; decide),
    ((gtid_spelling [] (List.replicate 21 0) [] [49, 48] 10).2 (by decide +kernel)
      (by decide)).mpr (by unfold LeadingZero; decide)⟩

/-- `A:01` is read as the gtid whose text is `A:1`. -/
theorem gtid_spelling_counterexample :
    uuidGnoDecode ([65, colon, 48, 49] ++ [0]) 0 [65, colon, 48, 49].length =
        some (some (1, 1)) ∧
      ¬ GtidSpelled [] (List.replicate 23 0) [] [65] 1 [65, colon, 48, 49] := by
  refine ⟨uuidGnoDecode_zero_one, ?_⟩
  rw [gtidSpelled_iff (by decide) (by decide) (by decide)]
  decide +kernel

/-- **Reading back what is written.**  Every number is read back, and every gtid whose uuid
is shorter than an `int` can count. -/
theorem gtid_readback (pre buf post uuid : Bytes) (hlow : LLONG_MIN ≤ x) (hhigh : x ≤ LLONG_MAX) :
    (21 ≤ buf.length →
      ∃ rest, ll2string (pre ++ buf ++ post) pre.length buf.length x =
          some (pre ++ (longText x ++ 0 :: rest) ++ post, (longText x).length) ∧
        (longText x ++ 0 :: rest).length = buf.length ∧
        string2ll (pre ++ (longText x ++ 0 :: rest) ++ post) pre.length (longText x).length =
          some (some x)) ∧
    (colon ∉ uuid → uuid.length + 1 + GNO_REPR_MAX_LEN ≤ buf.length →
      ∃ mem len, uuidGnoEncode (pre ++ buf ++ post) pre.length buf.length uuid x =
          some (mem, ((len : Nat) : Int)) ∧
        (uuidGnoDecode mem pre.length len = some (some (x, uuid.length)) ↔
          uuid.length < 2 ^ 31)) := by
  refine ⟨fun hroom => ?_, fun huuid hroom =>
    uuidGnoDecode_uuidGnoEncode pre buf post huuid hlow hhigh hroom⟩
  obtain ⟨rest, hwrite, hlen⟩ := ll2string_buffer pre buf post hlow hhigh hroom
  exact ⟨rest, hwrite, hlen, string2ll_spec hlow hhigh ⟨0 :: rest ++ post, by simp⟩⟩

theorem gtid_readback_min :
    (∃ rest, ll2string (List.replicate 21 0) 0 21 LLONG_MIN =
      some (longText LLONG_MIN ++ 0 :: rest, 20)) ∧
    ∃ mem len, uuidGnoEncode (List.replicate 23 0) 0 23 [65] LLONG_MIN =
        some (mem, ((len : Nat) : Int)) ∧
      uuidGnoDecode mem 0 len = some (some (LLONG_MIN, 1)) := by
  have hmin : LLONG_MIN ≤ LLONG_MAX := by decide
  constructor
  · obtain ⟨rest, hwrite, -, -⟩ := (gtid_readback [] (List.replicate 21 0) [] [65] (le_refl LLONG_MIN)
      hmin).1 (by decide)
    have hlen : (longText LLONG_MIN).length = 20 := by decide +kernel
    rw [hlen] at hwrite
    exact ⟨rest, by simpa using hwrite⟩
  · obtain ⟨mem, len, hwrite, hread⟩ := (gtid_readback [] (List.replicate 23 0) [] [65]
      (le_refl LLONG_MIN) hmin).2 (by decide) (by decide)
    exact ⟨mem, len, by simpa using hwrite, hread.mpr (by decide)⟩

/-- A uuid of `2 ^ 31` bytes is written but not read back. -/
theorem gtid_readback_counterexample :
    ¬ ∀ pre buf post uuid : Bytes, ∀ x : Int, colon ∉ uuid → LLONG_MIN ≤ x → x ≤ LLONG_MAX →
      uuid.length + 1 + GNO_REPR_MAX_LEN ≤ buf.length →
      ∃ mem len, uuidGnoEncode (pre ++ buf ++ post) pre.length buf.length uuid x =
          some (mem, ((len : Nat) : Int)) ∧
        uuidGnoDecode mem pre.length len = some (some (x, uuid.length)) := by
  intro hall
  have huuid : colon ∉ List.replicate (2 ^ 31) (65 : UInt8) := by
    intro hmem
    exact absurd (List.eq_of_mem_replicate hmem) (by decide)
  have hlen : (List.replicate (2 ^ 31) (65 : UInt8)).length = 2 ^ 31 := List.length_replicate
  have hroom : (List.replicate (2 ^ 31) (65 : UInt8)).length + 1 + GNO_REPR_MAX_LEN ≤
      (List.replicate (2 ^ 31 + 22) (0 : UInt8)).length := by
    rw [hlen, List.length_replicate]
    decide
  obtain ⟨mem, len, hwrite, hread⟩ := hall [] _ [] _ 1 huuid (by decide) (by decide) hroom
  obtain ⟨mem', len', hwrite', hread'⟩ := uuidGnoDecode_uuidGnoEncode [] _ [] huuid
    (x := 1) (by decide) (by decide) hroom
  rw [hwrite'] at hwrite
  obtain ⟨rfl, hlen'⟩ := Prod.mk.inj (Option.some.inj hwrite)
  obtain rfl := Nat.cast_inj.mp hlen'
  have := hread'.mp hread
  rw [hlen] at this
  exact absurd this (Nat.lt_irrefl _)

end Spelled

end XredisGtid
