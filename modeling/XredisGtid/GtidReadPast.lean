import XredisGtid.GtidText

/-!
# Reading past the text

`string2ll` skips zeros without looking at the length it is given.  So a number of nothing
but zeros (`ReadPast`) is read on behind its end, and what stands there decides: a digit
becomes the number, any other character rejects the text, and the end of the buffer is
passed.  All other numbers, and all of the text around them, are read within the length.

For each parser there is one lemma on two texts that agree (`_congr`), and one on a text
that is read past, which is followed by the character `e` or by the end of the buffer
(`_readPast`).
-/
namespace XredisGtid
open Memory Buffer Decimal

/-- Nothing but the character `0`. -/
def Zeros (a : Bytes) : Prop := ∀ c ∈ a, c = '0'.toUInt8

/-- What stands behind the sign of a number. -/
def unsigned (a : Bytes) : Bytes := if a.head? = some '-'.toUInt8 then a.tail else a

/-- A number that is read past. -/
def ReadPast (a : Bytes) : Prop := unsigned a ≠ [] ∧ Zeros (unsigned a) ∧ a ≠ ['0'.toUInt8]

/-- An interval that is read past: its last number is, and it has no other that is rejected. -/
def IntervalReadPast (a : Bytes) : Prop :=
  if hyphen ∈ a then
    let start := a.takeWhile (fun c => c ≠ hyphen)
    number start ≠ none ∧ ReadPast (a.drop (start.length + 1))
  else ReadPast a

/-- A uuid set that is read past: its last number is, and what stands in front of that one,
up to its colon, is accepted. -/
def UuidSetReadPast (a : Bytes) (rand : Rand) : Prop :=
  ∃ q z u, a = q ++ colon :: z ∧ colon ∉ z ∧ IntervalReadPast z ∧
    uuidSetDecode (q ++ [colon]) 0 ((q ++ [colon]).length : Int) rand = some (some u)

section Number
variable {mem mem' a b w z l : Bytes} {s s' p p' slen plen : Nat} {e : Option UInt8}

theorem zeros_append : Zeros (a ++ b) ↔ Zeros a ∧ Zeros b := List.forall_mem_append

theorem mem_unsigned {c : UInt8} (h : c ∈ a.tail) : c ∈ unsigned a := by
  rw [unsigned]
  split
  · exact h
  · exact List.mem_of_mem_tail h

theorem exists_not_zero (h : ¬ Zeros a) :
    ∃ z d l, a = z ++ d :: l ∧ Zeros z ∧ d ≠ '0'.toUInt8 := by
  induction a with
  | nil => exact absurd (fun c hc => absurd hc List.not_mem_nil) h
  | cons c a ih =>
    by_cases hc : c = '0'.toUInt8
    · obtain ⟨z, d, l, rfl, hz, hd⟩ := ih (fun hz => h (List.forall_mem_cons.mpr ⟨hc, hz⟩))
      exact ⟨c :: z, d, l, rfl, List.forall_mem_cons.mpr ⟨hc, hz⟩, hd⟩
    · exact ⟨[], c, a, rfl, fun c hc => absurd hc List.not_mem_nil, hc⟩

theorem takeWhile_zeros_append (hz : Zeros z) (hl : ∀ d ∈ l.head?, d ≠ '0'.toUInt8) :
    (z ++ l).takeWhile (fun c => c = '0'.toUInt8) = z := by
  rw [List.takeWhile_append_of_pos (fun c hc => decide_eq_true (hz c hc))]
  cases l with
  | nil => rw [List.takeWhile_nil, List.append_nil]
  | cons d l =>
    rw [List.takeWhile_cons_of_neg (by simpa using hl d rfl), List.append_nil]

theorem readDigits_congr (left v : Nat) (h : TextAt mem p l) (h' : TextAt mem' p' l)
    (hle : left ≤ l.length) : readDigits mem left p v = readDigits mem' left p' v := by
  induction left generalizing l p p' v with
  | zero => rfl
  | succ left ih =>
    obtain ⟨c, l, rfl⟩ := List.exists_cons_of_length_pos (Nat.lt_of_lt_of_le left.succ_pos hle)
    obtain ⟨hc, hl⟩ := textAt_cons.mp h
    obtain ⟨hc', hl'⟩ := textAt_cons.mp h'
    simp only [readDigits, hc, hc', Option.bind_eq_bind, Option.bind_some,
      ih _ hl hl' (Nat.le_of_succ_le_succ hle)]

theorem string2llFrom_congr {negative : Bool} (h : TextAt mem (s + plen) (a ++ w))
    (h' : TextAt mem' (s' + plen) (a ++ w)) (hn : ¬ Zeros (a ++ w))
    (hlen : slen = plen + a.length) :
    string2llFrom mem s slen negative plen = string2llFrom mem' s' slen negative plen := by
  obtain ⟨z, d, l, hb, hz, hd⟩ := exists_not_zero hn
  have hsize := congrArg List.length hb
  simp only [List.length_append, List.length_cons] at hsize
  rw [hb] at h h'
  -- both stop at the same character
  have hskip : ∀ {mem : Bytes} {p : Nat}, TextAt mem p (z ++ d :: l) →
      (mem.drop p).takeWhile (fun c => c = '0'.toUInt8) = z := by
    rintro mem p ⟨r, hr⟩
    rw [← hr, List.append_assoc]
    exact takeWhile_zeros_append hz (fun c hc => Option.some.inj hc ▸ hd)
  have hget := h.get
  have hget' := h'.get
  have hl := (textAt_cons.mp (textAt_append.mp h).2).2
  have hl' := (textAt_cons.mp (textAt_append.mp h').2).2
  rw [Nat.add_assoc] at hget hget'
  rw [Nat.add_assoc s] at hl
  rw [Nat.add_assoc s'] at hl'
  have hread := readDigits_congr (slen - (plen + z.length + 1)) (d.toNat - 48) hl hl' (by omega)
  rw [string2llFrom, string2llFrom, hskip h, hskip h', hget, hget']
  simp only [Option.bind_eq_bind, Option.bind_some, hread]

theorem string2llFrom_zeros {negative : Bool} (h : mem.drop (s + plen) = z ++ e.toList)
    (hz : Zeros z) (he : ∀ c ∈ e, ¬ IsDigit c) :
    string2llFrom mem s slen negative plen = e.map (fun _ => none) := by
  have hskip : (mem.drop (s + plen)).takeWhile (fun c => c = '0'.toUInt8) = z := by
    rw [h]
    refine takeWhile_zeros_append hz (fun c hc => ?_)
    cases e with
    | none => cases hc
    | some d => exact Option.some.inj hc ▸ not_isDigit_ne (he d rfl)
  have hget : mem[s + (plen + z.length)]? = e := by
    rw [← Nat.add_assoc, ← List.getElem?_drop, h, List.getElem?_append_right (Nat.le_refl _),
      Nat.sub_self]
    cases e <;> rfl
  rw [string2llFrom, hskip, hget]
  cases e with
  | none => rfl
  | some c =>
    have hc := he c rfl
    rw [Option.bind_eq_bind, Option.bind_some,
      if_neg (fun hd => hc ((isDigit_iff_of_ne_zero (not_isDigit_ne hc)).mpr hd)),
      if_neg (fun h0 => not_isDigit_ne hc h0.1)]
    rfl

/-- **Within the length.**  A number that is not read past is settled by its own characters,
one that is by those behind it as soon as one of them is not a zero. -/
theorem string2ll_congr (h : TextAt mem s (a ++ w)) (h' : TextAt mem' s' (a ++ w))
    (hstop : ReadPast a → ¬ Zeros w) : string2ll mem s a.length = string2ll mem' s' a.length := by
  cases a with
  | nil => rfl
  | cons d l =>
    obtain ⟨hd, hl⟩ := textAt_cons.mp h
    obtain ⟨hd', hl'⟩ := textAt_cons.mp h'
    have hzeros : unsigned (d :: l) ≠ [] → (d :: l) ≠ ['0'.toUInt8] →
        ¬ Zeros (unsigned (d :: l) ++ w) := by
      intro hne hzero hz
      obtain ⟨hz, hw⟩ := zeros_append.mp hz
      exact hstop ⟨hne, hz, hzero⟩ hw
    simp only [string2ll, List.length_cons, if_neg (Nat.succ_ne_zero _), hd, hd',
      Option.bind_eq_bind, Option.bind_some]
    by_cases hzero : l.length + 1 = 1 ∧ d = '0'.toUInt8
    · rw [if_pos hzero, if_pos hzero]
    rw [if_neg hzero, if_neg hzero]
    have hne : (d :: l) ≠ ['0'.toUInt8] := by
      intro heq
      obtain ⟨rfl, rfl⟩ := List.cons.inj heq
      exact hzero ⟨rfl, rfl⟩
    by_cases hsign : d = '-'.toUInt8
    · rw [if_pos hsign, if_pos hsign]
      by_cases hone : 1 = l.length + 1
      · rw [if_pos hone, if_pos hone]
      · rw [if_neg hone, if_neg hone]
        have hunsigned : unsigned (d :: l) = l := by rw [unsigned, hsign]; rfl
        rw [hunsigned] at hzeros
        refine string2llFrom_congr hl hl' (hzeros ?_ hne) (Nat.add_comm _ _)
        rintro rfl
        exact hone rfl
    · rw [if_neg hsign, if_neg hsign]
      have hunsigned : unsigned (d :: l) = d :: l :=
        if_neg (fun hhead => hsign (Option.some.inj hhead))
      rw [hunsigned] at hzeros
      exact string2llFrom_congr (a := d :: l) h h' (hzeros (List.cons_ne_nil d l) hne)
        (Nat.zero_add _).symm

theorem string2ll_readPast (h : mem.drop s = a ++ w ++ e.toList) (ha : ReadPast a)
    (hw : Zeros w) (he : ∀ c ∈ e, ¬ IsDigit c) :
    string2ll mem s a.length = e.map (fun _ => none) := by
  obtain ⟨hne, hz, hzero⟩ := ha
  cases a with
  | nil => exact absurd rfl hne
  | cons d l =>
    have hget : mem[s]? = some d := by
      rw [← List.head?_drop, h]
      rfl
    rw [string2ll, List.length_cons, if_neg (Nat.succ_ne_zero _), hget, Option.bind_eq_bind,
      Option.bind_some, if_neg]
    · by_cases hsign : d = '-'.toUInt8
      · have hunsigned : unsigned (d :: l) = l := by rw [unsigned, hsign]; rfl
        rw [hunsigned] at hne hz
        have hdrop : mem.drop (s + 1) = (l ++ w) ++ e.toList := by
          rw [← List.drop_drop, h]
          rfl
        rw [if_pos hsign, if_neg (fun hone => hne (List.length_eq_zero_iff.mp
          (Nat.succ.inj hone).symm))]
        exact string2llFrom_zeros hdrop (zeros_append.mpr ⟨hz, hw⟩) he
      · have hunsigned : unsigned (d :: l) = d :: l :=
          if_neg (fun hhead => hsign (Option.some.inj hhead))
        rw [hunsigned] at hz
        rw [if_neg hsign]
        exact string2llFrom_zeros h (zeros_append.mpr ⟨hz, hw⟩) he
    · rintro ⟨hone, rfl⟩
      exact hzero (by rw [List.length_eq_zero_iff.mp (Nat.succ.inj hone)])

end Number

section Interval
variable {mem mem' a b w : Bytes} {s s' start : Nat} {e : Option UInt8} {u : UuidSet}
  {rand : Rand}

theorem intervalReadPast_append (ha : hyphen ∉ a) :
    IntervalReadPast (a ++ hyphen :: b) ↔ number a ≠ none ∧ ReadPast b := by
  have hdrop : (a ++ hyphen :: b).drop (a.length + 1) = b := by
    rw [List.append_cons, List.drop_left' (by simp)]
  rw [IntervalReadPast, if_pos (by simp), takeWhile_append_cons ha]
  dsimp only
  rw [hdrop]

/-- The number in front of the hyphen, then the one behind it. -/
theorem gtidIntervalDecode_number (h : TextAt mem s (a ++ hyphen :: b)) (ha : hyphen ∉ a) :
    gtidIntervalDecode mem s (a ++ hyphen :: b).length =
      match number a with
      | none => some none
      | some x => (string2ll mem (s + a.length + 1) b.length).map (fun r => r.map (fun y => (x, y))) := by
  rw [gtidIntervalDecode_hyphen h ha, string2ll_text (textAt_singleton_append h) (by decide)]
  cases number a <;> rfl

theorem gtidIntervalDecode_congr (h : TextAt mem s (a ++ w)) (h' : TextAt mem' s' (a ++ w))
    (hstop : IntervalReadPast a → ¬ Zeros w) :
    gtidIntervalDecode mem s a.length = gtidIntervalDecode mem' s' a.length := by
  by_cases hmem : hyphen ∈ a
  · obtain ⟨x, y, rfl, hx⟩ := List.eq_append_cons_of_mem hmem
    rw [gtidIntervalDecode_number (textAt_append.mp h).1 hx,
      gtidIntervalDecode_number (textAt_append.mp h').1 hx]
    cases hn : number x with
    | none => rfl
    | some v =>
      rw [List.append_assoc, List.cons_append, List.append_cons] at h h'
      have hend := (textAt_append.mp h).2
      have hend' := (textAt_append.mp h').2
      rw [List.length_append, List.length_singleton, ← Nat.add_assoc] at hend hend'
      have hread := string2ll_congr hend hend' (fun hy => hstop
        ((intervalReadPast_append hx).mpr ⟨by rw [hn]; exact Option.some_ne_none v, hy⟩))
      dsimp only
      rw [hread]
  · rw [IntervalReadPast, if_neg hmem] at hstop
    rw [gtidIntervalDecode_single (textAt_append.mp h).1 hmem,
      gtidIntervalDecode_single (textAt_append.mp h').1 hmem, string2ll_congr h h' hstop]

theorem gtidIntervalDecode_readPast (h : mem.drop s = a ++ w ++ e.toList)
    (ha : IntervalReadPast a) (hw : Zeros w) (he : ∀ c ∈ e, ¬ IsDigit c) :
    gtidIntervalDecode mem s a.length = e.map (fun _ => none) := by
  have htext : TextAt mem s a := by
    rw [TextAt, h, List.append_assoc]
    exact List.prefix_append _ _
  by_cases hmem : hyphen ∈ a
  · obtain ⟨x, y, rfl, hx⟩ := List.eq_append_cons_of_mem hmem
    obtain ⟨hn, hy⟩ := (intervalReadPast_append hx).mp ha
    have hdrop : mem.drop (s + x.length + 1) = y ++ w ++ e.toList := by
      rw [Nat.add_assoc, ← List.drop_drop, h, List.append_assoc, List.append_assoc,
        List.cons_append, List.append_cons, List.drop_left' (by simp), List.append_assoc]
    rw [gtidIntervalDecode_number htext hx]
    cases hv : number x with
    | none => exact absurd hv hn
    | some v =>
      dsimp only
      rw [string2ll_readPast hdrop hy hw he]
      cases e <;> rfl
  · rw [IntervalReadPast, if_neg hmem] at ha
    rw [gtidIntervalDecode_single htext hmem, string2ll_readPast h ha hw he]
    cases e <;> rfl

theorem IntervalReadPast.length_pos (h : IntervalReadPast a) : 0 < a.length := by
  rw [List.length_pos_iff]
  rintro rfl
  rw [IntervalReadPast, if_neg List.not_mem_nil] at h
  exact h.1 rfl

theorem decodeInterval_congr (h : TextAt mem (s + start) (a ++ w))
    (h' : TextAt mem' (s' + start) (a ++ w)) (hstop : IntervalReadPast a → ¬ Zeros w) :
    decodeInterval mem s rand u start (start + a.length) =
      decodeInterval mem' s' rand u start (start + a.length) := by
  rw [decodeInterval, decodeInterval, Nat.add_sub_cancel_left, gtidIntervalDecode_congr h h' hstop]

theorem decodeInterval_readPast (h : mem.drop (s + start) = a ++ w ++ e.toList)
    (ha : IntervalReadPast a) (hw : Zeros w) (he : ∀ c ∈ e, ¬ IsDigit c) :
    decodeInterval mem s rand u start (start + a.length) = e.map (fun _ => none) := by
  have hpos := ha.length_pos
  rw [decodeInterval, if_pos (by omega), Nat.add_sub_cancel_left,
    gtidIntervalDecode_readPast h ha hw he]
  cases e <;> rfl

theorem decodeInterval_nil : decodeInterval mem s rand u start start = some (some u) :=
  if_neg (Nat.lt_irrefl start)

end Interval

section UuidSet
variable {mem mem' a b q w z : Bytes} {s s' : Nat} {c : UInt8} {e : Option UInt8} {uuid : Uuid}
  {rand : Rand}

/-- The text in front of the last separator and the one behind it. -/
theorem exists_last (h : c ∈ a) : ∃ q z, a = q ++ c :: z ∧ c ∉ z := by
  obtain ⟨x, y, hxy, hx⟩ := List.eq_append_cons_of_mem (List.mem_reverse.mpr h)
  refine ⟨y.reverse, x.reverse, ?_, by rwa [List.mem_reverse]⟩
  rw [← List.reverse_reverse a, hxy, List.reverse_append, List.reverse_cons, List.append_assoc,
    List.singleton_append]

/-- The loop up to a further colon, and from there on. -/
theorem uuidSetDecode_append (h : TextAt mem s (uuid ++ colon :: (q ++ colon :: b)))
    (hu : colon ∉ uuid) :
    uuidSetDecode mem s ((uuid ++ colon :: (q ++ colon :: b)).length : Int) rand =
      andThen (forPieces mem s colon (decodeInterval mem s rand) q.length (uuid.length + 1)
          (uuid.length + 1) (uuidSetNew uuid))
        (forPieces mem s colon (decodeInterval mem s rand) b.length
          (uuid.length + 1 + q.length + 1) (uuid.length + 1 + q.length + 1)) := by
  have hget : mem[s + (uuid.length + 1 + q.length)]? = some colon := by
    have hrest := (textAt_cons.mp (textAt_append.mp h).2).2.get
    rw [← hrest]
    congr 1
    omega
  rw [uuidSetDecode_cons h hu, List.length_append, List.length_cons,
    forPieces_append _ _ _ _ hget]

/-- **The last number** is read after everything in front of it. -/
theorem uuidSetDecode_last (h : TextAt mem s (q ++ colon :: z)) (hz : colon ∉ z) :
    uuidSetDecode mem s ((q ++ colon :: z).length : Int) rand =
      andThen (uuidSetDecode mem s ((q ++ [colon]).length : Int) rand)
        (fun u => decodeInterval mem s rand u (q.length + 1) (q.length + 1 + z.length)) := by
  have hfront : TextAt mem s (q ++ [colon]) := by
    rw [List.append_cons] at h
    exact (textAt_append.mp h).1
  have hlast : TextAt mem (s + (q.length + 1)) z := (textAt_cons.mp (textAt_append.mp h).2).2
  have hskip : ∀ u, forPieces mem s colon (decodeInterval mem s rand) z.length (q.length + 1)
      (q.length + 1) u = decodeInterval mem s rand u (q.length + 1) (q.length + 1 + z.length) :=
    fun u => forPieces_skip (decodeInterval mem s rand) 0 (q.length + 1) (q.length + 1) u hlast hz
  by_cases hq : colon ∈ q
  · obtain ⟨uuid, q, rfl, hu⟩ := List.eq_append_cons_of_mem hq
    rw [List.append_assoc, List.cons_append] at h hfront ⊢
    have hplace : (uuid ++ colon :: q).length + 1 = uuid.length + 1 + q.length + 1 := by
      rw [List.length_append, List.length_cons]
      omega
    rw [hplace] at hskip ⊢
    rw [uuidSetDecode_append h hu, List.append_assoc, List.cons_append,
      uuidSetDecode_append hfront hu]
    rcases forPieces mem s colon (decodeInterval mem s rand) q.length (uuid.length + 1)
        (uuid.length + 1) (uuidSetNew uuid) with _ | _ | u
    · rfl
    · rfl
    · simp only [andThen_some, hskip, List.length_nil, forPieces, decodeInterval_nil]
  · rw [uuidSetDecode_cons h hq, uuidSetDecode_cons hfront hq, hskip]
    simp only [List.length_nil, forPieces, decodeInterval_nil, andThen_some]

/-- A piece in front of a colon of the text. -/
theorem decodeInterval_colon {start j : Nat} {u : UuidSet} (h : TextAt mem s a)
    (h' : TextAt mem' s' a) (hstart : start ≤ j) (hj : j < a.length)
    (hget : mem[s + j]? = some colon) :
    decodeInterval mem s rand u start j = decodeInterval mem' s' rand u start j := by
  obtain ⟨x, y, b, rfl, rfl, hy⟩ := Buffer.exists_split a start (j - start) (by omega)
  obtain rfl : j = x.length + y.length := by omega
  obtain ⟨c, b, rfl⟩ := List.exists_cons_of_ne_nil (l := b) (by
    rintro rfl
    simp only [List.length_append, List.length_nil] at hj
    omega)
  have hc := h.get
  rw [List.length_append, hget] at hc
  obtain rfl := Option.some.inj hc
  rw [List.append_assoc] at h h'
  exact decodeInterval_congr (textAt_append.mp h).2 (textAt_append.mp h').2
    (fun _ hz => absurd (hz colon (by simp)) (by decide))

/-- What ends in a colon is settled by its own characters. -/
theorem uuidSetDecode_closed (h : TextAt mem s (q ++ [colon])) (h' : TextAt mem' s' (q ++ [colon])) :
    uuidSetDecode mem s ((q ++ [colon]).length : Int) rand =
      uuidSetDecode mem' s' ((q ++ [colon]).length : Int) rand := by
  by_cases hq : colon ∈ q
  · obtain ⟨uuid, q, rfl, hu⟩ := List.eq_append_cons_of_mem hq
    rw [List.append_assoc, List.cons_append] at h h' ⊢
    rw [uuidSetDecode_append h hu, uuidSetDecode_append h' hu]
    have hb := (textAt_cons.mp (textAt_append.mp h).2).2
    have hb' := (textAt_cons.mp (textAt_append.mp h').2).2
    rw [Nat.add_assoc] at hb hb'
    have hfront : forPieces mem s colon (decodeInterval mem s rand) q.length (uuid.length + 1)
        (uuid.length + 1) (uuidSetNew uuid) =
        forPieces mem' s' colon (decodeInterval mem' s' rand) q.length (uuid.length + 1)
          (uuid.length + 1) (uuidSetNew uuid) := by
      apply forPieces_congr _ _ hb hb' (Nat.le_refl _)
      intro u start j _ hj hle hget
      refine decodeInterval_colon h h' hj ?_ hget
      simp only [List.length_append, List.length_cons]
      omega
    rw [hfront]
    simp only [List.length_nil, forPieces, decodeInterval_nil]
  · rw [uuidSetDecode_cons h hq, uuidSetDecode_cons h' hq]
    simp only [List.length_nil, forPieces, decodeInterval_nil]

theorem uuidSetDecode_congr (h : TextAt mem s (a ++ w)) (h' : TextAt mem' s' (a ++ w))
    (hstop : UuidSetReadPast a rand → ¬ Zeros w) :
    uuidSetDecode mem s (a.length : Int) rand = uuidSetDecode mem' s' (a.length : Int) rand := by
  by_cases hne : a = []
  · subst hne
    rfl
  by_cases ha : colon ∈ a
  · obtain ⟨q, z, rfl, hz⟩ := exists_last ha
    have hq : ∀ {mem : Bytes} {s : Nat}, TextAt mem s (q ++ colon :: z ++ w) →
        TextAt mem s (q ++ [colon]) ∧ TextAt mem (s + (q.length + 1)) (z ++ w) := by
      intro mem s h
      rw [List.append_assoc, List.cons_append] at h
      refine ⟨?_, (textAt_cons.mp (textAt_append.mp h).2).2⟩
      rw [List.append_cons] at h
      exact (textAt_append.mp h).1
    have hown : TextAt (q ++ [colon]) 0 (q ++ [colon]) := textAt_self _
    rw [uuidSetDecode_last (textAt_append.mp h).1 hz, uuidSetDecode_last (textAt_append.mp h').1 hz,
      uuidSetDecode_closed (hq h).1 hown, uuidSetDecode_closed (hq h').1 hown]
    refine andThen_congr (fun u hfront => ?_)
    refine decodeInterval_congr (hq h).2 (hq h').2 (fun hpast => ?_)
    exact hstop ⟨q, z, u, rfl, hz, hpast, hfront⟩
  · rw [uuidSetDecode_plain (textAt_append.mp h).1 hne ha,
      uuidSetDecode_plain (textAt_append.mp h').1 hne ha]

theorem uuidSetDecode_readPast (h : mem.drop s = a ++ w ++ e.toList)
    (ha : UuidSetReadPast a rand) (hw : Zeros w) (he : ∀ c ∈ e, ¬ IsDigit c) :
    uuidSetDecode mem s (a.length : Int) rand = e.map (fun _ => none) := by
  obtain ⟨q, z, u, rfl, hz, hpast, hfront⟩ := ha
  have htext : TextAt mem s (q ++ colon :: z) := by
    rw [TextAt, h, List.append_assoc]
    exact List.prefix_append _ _
  have hq : TextAt mem s (q ++ [colon]) := by
    rw [List.append_cons] at htext
    exact (textAt_append.mp htext).1
  have hdrop : mem.drop (s + (q.length + 1)) = z ++ w ++ e.toList := by
    rw [← List.drop_drop, h, List.append_assoc, List.append_assoc, List.cons_append,
      List.append_cons, List.drop_left' (by simp), List.append_assoc]
  rw [uuidSetDecode_last htext hz, uuidSetDecode_closed hq (textAt_self _), hfront]
  exact decodeInterval_readPast hdrop hpast hw he

end UuidSet

/-! ## Whole sets -/

/-- A text of pieces, each closed by a comma. -/
def closedPieces (l : List Bytes) : Bytes := l.flatMap (fun a => a ++ [split])

/-- The pieces from position `start` on are accepted. -/
def PiecesAccepted (rand : Rand) : Nat → List Bytes → Prop
  | _, [] => True
  | start, a :: l =>
    (∃ u, uuidSetDecode (a ++ [split]) 0 (a.length : Int) (rand.sub (start + a.length)) =
      some (some u)) ∧ PiecesAccepted rand (start + a.length + 1) l

/-- A set that is read past: its last piece is, and the pieces in front of that one are
accepted.  The positions and lengths are `int`s; of a piece longer than that only the length
modulo `2 ^ 32` is read, and the zeros behind. -/
def SetReadPast (t : Bytes) (rand : Rand) : Prop :=
  ∃ (l : List Bytes) (p : Bytes) (k : Nat),
    t = closedPieces l ++ (p ++ List.replicate (k * 2 ^ 32) '0'.toUInt8) ∧
    (∀ a ∈ l, split ∉ a) ∧ split ∉ p ∧ (closedPieces l).length < 2 ^ 31 ∧ p.length < 2 ^ 31 ∧
    PiecesAccepted rand 0 l ∧ UuidSetReadPast p (rand.sub t.length)

/-- A gtid that is read past: its gno is. -/
def GnoReadPast (t : Bytes) : Prop :=
  ∃ a b, t = a ++ colon :: b ∧ colon ∉ a ∧ a.length < 2 ^ 31 ∧ ReadPast b

section Position
variable {x : Int}

theorem intOfSize_le (hx : 0 ≤ x) : intOfSize x ≤ x := by
  unfold intOfSize intOfGno
  omega

theorem intOfSize_range : -2 ^ 31 ≤ intOfSize x ∧ intOfSize x < 2 ^ 31 := by
  unfold intOfSize intOfGno
  omega

/-- The value of an `int` that does not hold the position. -/
theorem intOfSize_of_le (hx : 2 ^ 31 ≤ x) : intOfSize x < 0 ∨ intOfSize x + 2 ^ 32 ≤ x := by
  unfold intOfSize intOfGno
  omega

theorem intOfSize_nonneg {n m : Nat} (h : intOfSize (n : Int) = m) : ∃ k, n = m + k * 2 ^ 32 := by
  refine ⟨(n - m) / 2 ^ 32, ?_⟩
  unfold intOfSize intOfGno at h
  omega

theorem intOfSize_add {m k : Nat} (h : m < 2 ^ 31) :
    intOfSize ((m + k * 2 ^ 32 : Nat) : Int) = m := by
  unfold intOfSize intOfGno
  omega

end Position

section Set
variable {mem mem' t a : Bytes} {start i j : Nat} {g : GtidSet} {l : List Bytes}
  {e : Option UInt8} {rand : Rand}

theorem not_zeros_drop {c : UInt8} (hget : t[j]? = some c) (hc : c ≠ '0'.toUInt8) (hi : i ≤ j) :
    ¬ Zeros (t.drop i) := by
  intro hz
  refine hc (hz c (List.mem_of_getElem? (i := j - i) ?_))
  rw [List.getElem?_drop, Nat.add_sub_cancel' hi, hget]

theorem decodeUuidSet_congr (h : TextAt mem 0 t) (h' : TextAt mem' 0 t) (hstart : start ≤ i)
    (hi : i ≤ t.length)
    (hstop : ∀ k n : Nat, intOfSize (start : Int) = k → intOfSize ((i : Int) - k) = n →
      UuidSetReadPast ((t.drop k).take n) (rand.sub i) → ¬ Zeros (t.drop (k + n))) :
    decodeUuidSet mem 0 rand g start i = decodeUuidSet mem' 0 rand g start i := by
  by_cases hneg : intOfSize (start : Int) < 0
  · rw [decodeUuidSet_neg hneg, decodeUuidSet_neg hneg]
  obtain ⟨k, hk⟩ := Int.eq_ofNat_of_zero_le (Int.not_lt.mp hneg)
  have hle := intOfSize_le (x := (start : Int)) (by omega)
  rw [hk] at hle
  rw [decodeUuidSet_eq hk, decodeUuidSet_eq hk, Nat.zero_add]
  have hsame : uuidSetDecode mem k (intOfSize ((i : Int) - k)) (rand.sub i) =
      uuidSetDecode mem' k (intOfSize ((i : Int) - k)) (rand.sub i) := by
    have hlen := intOfSize_le (x := (i : Int) - k) (by omega)
    obtain ⟨m, hm⟩ : ∃ m, m = intOfSize ((i : Int) - k) := ⟨_, rfl⟩
    rw [← hm] at hlen ⊢
    by_cases hpos : m ≤ 0
    · rw [uuidSetDecode, uuidSetDecode, if_pos hpos, if_pos hpos]
    -- the piece and what stands behind it
    obtain ⟨n, rfl⟩ := Int.eq_ofNat_of_zero_le (Int.le_of_lt (Int.not_le.mp hpos))
    obtain ⟨x, a, w, rfl, rfl, rfl⟩ := Buffer.exists_split t k n (by omega)
    have hstop := hstop x.length a.length hk hm.symm
    rw [List.append_assoc] at h h' hstop
    rw [List.drop_left, List.take_left, ← List.drop_drop, List.drop_left, List.drop_left] at hstop
    have htext := (textAt_append.mp h).2
    have htext' := (textAt_append.mp h').2
    rw [Nat.zero_add] at htext htext'
    exact uuidSetDecode_congr htext htext' hstop
  rw [hsame]

/-- A piece that starts and ends where an `int` can point. -/
theorem decodeUuidSet_piece (h : TextAt mem start (a ++ [split]))
    (hlen : start + a.length < 2 ^ 31) :
    decodeUuidSet mem 0 rand g start (start + a.length) =
      andThen (uuidSetDecode (a ++ [split]) 0 (a.length : Int) (rand.sub (start + a.length)))
        (fun u => (gtidSetAppend g u).map (fun r => some r.1)) := by
  have hpiece : intOfSize (((start + a.length : Nat) : Int) - (start : Nat)) = (a.length : Int) := by
    rw [Nat.cast_add, add_sub_cancel_left]
    exact intOfSize_natCast (by omega)
  rw [decodeUuidSet_eq (intOfSize_natCast (by omega)), Nat.zero_add, hpiece,
    uuidSetDecode_congr h (textAt_self (a ++ [split]))
      (fun _ hz => absurd (hz split (by simp)) (by decide))]

/-! ## The pieces in front of the last one -/

/-- Decoding and appending pieces that an `int` can address. -/
def appendPieces (rand : Rand) : Nat → List Bytes → GtidSet → Option (Option GtidSet)
  | _, [], g => some (some g)
  | start, a :: l, g =>
    andThen (uuidSetDecode (a ++ [split]) 0 (a.length : Int) (rand.sub (start + a.length)))
      (fun u => andThen ((gtidSetAppend g u).map (fun r => some r.1))
        (appendPieces rand (start + a.length + 1) l))

theorem closedPieces_cons (a : Bytes) (l : List Bytes) :
    closedPieces (a :: l) = a ++ split :: closedPieces l := by
  rw [closedPieces, List.flatMap_cons, List.append_assoc, List.singleton_append, closedPieces]

theorem forPieces_closed {n : Nat} (h : TextAt mem start (closedPieces l))
    (hsep : ∀ a ∈ l, split ∉ a) (hlen : start + (closedPieces l).length ≤ 2 ^ 31) :
    forPieces mem 0 split (decodeUuidSet mem 0 rand) ((closedPieces l).length + n) start start g =
      andThen (appendPieces rand start l g)
        (forPieces mem 0 split (decodeUuidSet mem 0 rand) n (start + (closedPieces l).length)
          (start + (closedPieces l).length)) := by
  induction l generalizing start g with
  | nil => simp [closedPieces, appendPieces]
  | cons a l ih =>
    rw [closedPieces_cons] at h hlen ⊢
    rw [List.length_append, List.length_cons] at hlen
    have hpiece : TextAt mem start (a ++ [split]) := by
      rw [List.append_cons] at h
      exact (textAt_append.mp h).1
    have hrest := (textAt_cons.mp (textAt_append.mp h).2).2
    have hget : mem[0 + (start + a.length)]? = some split := by
      rw [Nat.zero_add]
      exact hpiece.get
    have htext : TextAt mem (0 + start) a := by
      rw [Nat.zero_add]
      exact (textAt_append.mp hpiece).1
    have hskip := forPieces_skip (decodeUuidSet mem 0 rand) 0 start start g htext
      (hsep a (by simp))
    have hplace : start + (a ++ split :: closedPieces l).length =
        start + a.length + 1 + (closedPieces l).length := by
      rw [List.length_append, List.length_cons]
      omega
    rw [Nat.add_zero] at hskip
    rw [hplace, List.length_append, List.length_cons, Nat.add_assoc,
      Nat.add_right_comm _ 1 n, forPieces_append _ _ _ _ hget, hskip, forPieces,
      decodeUuidSet_piece hpiece (by omega), appendPieces]
    rcases uuidSetDecode (a ++ [split]) 0 (a.length : Int) (rand.sub (start + a.length))
      with _ | _ | u
    · rfl
    · rfl
    · simp only [andThen_some]
      rcases gtidSetAppend g u with _ | ⟨g', m⟩
      · rfl
      · exact ih hrest (fun b hb => hsep b (by simp [hb])) (by omega)

/-- A record can be appended. -/
def Appendable (g : GtidSet) : Prop := g.header = none ∨ g.tail ≠ none

theorem Appendable.append (h : Appendable g) (u : UuidSet) :
    ∃ g' n, gtidSetAppend g u = some (g', n) ∧ Appendable g' := by
  rw [gtidSetAppend]
  cases hheader : g.header with
  | none => exact ⟨_, _, rfl, Or.inr (Option.some_ne_none _)⟩
  | some x =>
    obtain ⟨b, hb⟩ := Option.ne_none_iff_exists'.mp
      (h.resolve_left (by rw [hheader]; exact Option.some_ne_none x))
    rw [hb]
    exact ⟨_, _, rfl, Or.inr (Option.some_ne_none _)⟩

theorem appendPieces_iff (hg : Appendable g) :
    (∃ g', appendPieces rand start l g = some (some g')) ↔ PiecesAccepted rand start l := by
  induction l generalizing start g with
  | nil => exact iff_of_true ⟨g, rfl⟩ trivial
  | cons a l ih =>
    rw [appendPieces, PiecesAccepted]
    rcases uuidSetDecode (a ++ [split]) 0 (a.length : Int) (rand.sub (start + a.length))
      with _ | _ | u
    · simp
    · simp
    · obtain ⟨g', n, happend, hg'⟩ := hg.append u
      simp only [andThen_some, happend, Option.map_some, ih hg', Option.some.injEq, exists_eq',
        true_and]

/-- The pieces closed by a comma, and the last one. -/
theorem exists_closedPieces (t : Bytes) :
    ∃ l p, t = closedPieces l ++ p ∧ (∀ a ∈ l, split ∉ a) ∧ split ∉ p := by
  induction t with
  | nil => exact ⟨[], [], rfl, by simp, by simp⟩
  | cons c t ih =>
    obtain ⟨l, p, rfl, hl, hp⟩ := ih
    by_cases hc : c = split
    · subst hc
      refine ⟨[] :: l, p, by rw [closedPieces_cons]; rfl, ?_, hp⟩
      exact List.forall_mem_cons.mpr ⟨List.not_mem_nil, hl⟩
    · cases l with
      | nil => exact ⟨[], c :: p, rfl, hl, List.not_mem_cons_of_ne_of_not_mem (Ne.symm hc) hp⟩
      | cons a l =>
        obtain ⟨ha, hl⟩ := List.forall_mem_cons.mp hl
        refine ⟨(c :: a) :: l, p, by rw [closedPieces_cons, closedPieces_cons]; rfl, ?_, hp⟩
        exact List.forall_mem_cons.mpr
          ⟨List.not_mem_cons_of_ne_of_not_mem (Ne.symm hc) ha, hl⟩

theorem gtidSetDecode_readPast (h : SetReadPast t rand) (he : ∀ c ∈ e, ¬ IsDigit c) :
    gtidSetDecode (t ++ e.toList) 0 t.length rand = e.map (fun _ => none) := by
  obtain ⟨l, p, k, ht, hl, hp, hstart, hshort, hfront, hpast⟩ := h
  obtain ⟨w, hw⟩ : ∃ w, w = List.replicate (k * 2 ^ 32) '0'.toUInt8 := ⟨_, rfl⟩
  have hzeros : Zeros w := fun c hc => List.eq_of_mem_replicate (hw ▸ hc)
  have hwlen : w.length = k * 2 ^ 32 := by rw [hw, List.length_replicate]
  rw [← hw] at ht
  obtain ⟨g, hg⟩ := (appendPieces_iff (g := gtidSetNew) (Or.inl rfl)).mpr hfront
  have hmem : TextAt (t ++ e.toList) 0 (closedPieces l) := by
    rw [TextAt, List.drop_zero, ht, List.append_assoc]
    exact List.prefix_append _ _
  have hdrop : (t ++ e.toList).drop (closedPieces l).length = p ++ w ++ e.toList := by
    rw [ht, List.append_assoc, List.drop_left]
  have hlast : TextAt (t ++ e.toList) (0 + (closedPieces l).length) (p ++ w) := by
    rw [Nat.zero_add, TextAt, hdrop]
    exact List.prefix_append _ _
  have hpw : split ∉ p ++ w := by
    rw [List.mem_append, not_or]
    exact ⟨hp, fun hmem => absurd (hzeros split hmem) (by decide)⟩
  have hne : t.length ≠ 0 := by
    obtain ⟨q, z, u, rfl, -⟩ := hpast
    rw [ht]
    simp
  have hlen : t.length = (closedPieces l).length + (p ++ w).length := by
    rw [ht, List.length_append]
  have hskip := forPieces_skip (decodeUuidSet (t ++ e.toList) 0 rand) 0 (closedPieces l).length
    (closedPieces l).length g hlast hpw
  have hpiece : intOfSize ((t.length : Int) - ((closedPieces l).length : Nat)) =
      (p.length : Int) := by
    rw [hlen, List.length_append, hwlen, Nat.cast_add, add_sub_cancel_left]
    exact intOfSize_add hshort
  rw [Nat.add_zero, ← hlen] at hskip
  rw [gtidSetDecode, if_neg hne, hlen, forPieces_closed hmem hl (by omega), hg, andThen_some,
    Nat.zero_add, hskip, forPieces, decodeUuidSet_eq (intOfSize_natCast hstart), Nat.zero_add, hpiece,
    uuidSetDecode_readPast hdrop hpast hzeros he]
  cases e <;> rfl

/-- The last piece of a text that an `int` cannot point to has the comma in front of it behind
what is read. -/
theorem not_zeros_of_far {q p : Bytes} {k n : Nat} (ht : t = q ++ split :: p)
    (hfar : 2 ^ 31 ≤ q.length + 1) (hk : intOfSize ((q.length + 1 : Nat) : Int) = k)
    (hn : n < 2 ^ 31) : ¬ Zeros (t.drop (k + n)) := by
  have hle := intOfSize_of_le (x := ((q.length + 1 : Nat) : Int)) (by omega)
  have hrange := intOfSize_range (x := ((q.length + 1 : Nat) : Int))
  rw [hk] at hle hrange
  have hget : t[q.length]? = some split := by
    rw [ht, List.getElem?_append_right (Nat.le_refl _), Nat.sub_self]
    rfl
  exact not_zeros_drop hget (by decide) (by omega)

/-- What is read past in the last piece makes the whole set one that is read past. -/
theorem setReadPast_of_last {p : Bytes} {n : Nat} (ht : t = closedPieces l ++ p)
    (hl : ∀ a ∈ l, split ∉ a) (hp : split ∉ p) (hstart : (closedPieces l).length < 2 ^ 31)
    (hfront : PiecesAccepted rand 0 l) (hn : intOfSize (p.length : Int) = n)
    (hpast : UuidSetReadPast (p.take n) (rand.sub t.length)) (hz : Zeros (p.drop n)) :
    SetReadPast t rand := by
  obtain ⟨k, hk⟩ := intOfSize_nonneg hn
  have hrange := intOfSize_range (x := (p.length : Int))
  rw [hn] at hrange
  have hzeros : p.drop n = List.replicate (k * 2 ^ 32) '0'.toUInt8 := by
    rw [List.eq_replicate_iff]
    refine ⟨?_, hz⟩
    rw [List.length_drop, hk, Nat.add_sub_cancel_left]
  refine ⟨l, p.take n, k, ?_, hl, fun hmem => hp (List.mem_of_mem_take hmem), hstart, ?_, hfront,
    hpast⟩
  · rw [ht, ← hzeros, List.take_append_drop]
  · rw [List.length_take]
    omega

theorem gtidSetDecode_congr (h : TextAt mem 0 t) (h' : TextAt mem' 0 t)
    (hstop : ¬ SetReadPast t rand) :
    gtidSetDecode mem 0 t.length rand = gtidSetDecode mem' 0 t.length rand := by
  by_cases hne : t.length = 0
  · rw [gtidSetDecode, gtidSetDecode, if_pos hne, if_pos hne]
  rw [gtidSetDecode, gtidSetDecode, if_neg hne, if_neg hne]
  obtain ⟨l, p, ht, hl, hp⟩ := exists_closedPieces t
  have hlen : t.length = (closedPieces l).length + p.length := by rw [ht, List.length_append]
  -- the loop over the last piece
  have hlast : ∀ {mem : Bytes}, TextAt mem 0 t → ∀ g,
      forPieces mem 0 split (decodeUuidSet mem 0 rand) p.length (closedPieces l).length
          (closedPieces l).length g =
        decodeUuidSet mem 0 rand g (closedPieces l).length t.length := by
    intro mem h g
    rw [ht] at h
    have hskip := forPieces_skip (decodeUuidSet mem 0 rand) 0 (closedPieces l).length
      (closedPieces l).length g (textAt_append.mp h).2 hp
    rw [Nat.add_zero, ← hlen] at hskip
    exact hskip
  by_cases hstart : (closedPieces l).length < 2 ^ 31
  · have hclosed : ∀ {mem : Bytes}, TextAt mem 0 t → TextAt mem 0 (closedPieces l) :=
      fun h => (textAt_append.mp (ht ▸ h)).1
    rw [hlen, forPieces_closed (hclosed h) hl (by omega),
      forPieces_closed (hclosed h') hl (by omega), Nat.zero_add]
    refine andThen_congr (fun g hg => ?_)
    rw [hlast h, hlast h']
    apply decodeUuidSet_congr h h' (by omega) (Nat.le_refl _)
    intro k n hk hn hpast hz
    rw [intOfSize_natCast hstart, Nat.cast_inj] at hk
    subst hk
    rw [hlen, Nat.cast_add, add_sub_cancel_left] at hn
    have hdrop : t.drop (closedPieces l).length = p := by rw [ht, List.drop_left]
    rw [← List.drop_drop, hdrop] at hz
    rw [hdrop] at hpast
    exact hstop (setReadPast_of_last ht hl hp hstart
      ((appendPieces_iff (Or.inl rfl)).mp ⟨g, hg⟩) hn hpast hz)
  · -- the comma in front of the last piece
    obtain ⟨q, hq⟩ : ∃ q, closedPieces l = q ++ [split] := by
      rcases List.eq_nil_or_concat l with rfl | ⟨m, a, rfl⟩
      · exact absurd (show (closedPieces []).length < 2 ^ 31 by decide) hstart
      · refine ⟨closedPieces m ++ a, ?_⟩
        rw [List.concat_eq_append, closedPieces, List.flatMap_append, List.flatMap_singleton,
          List.append_assoc, closedPieces]
    have hqlen : (closedPieces l).length = q.length + 1 := by simp [hq]
    have htext : t = q ++ split :: p := by rw [ht, hq, List.append_assoc, List.singleton_append]
    have hfront : ∀ {mem : Bytes}, TextAt mem 0 t → TextAt mem (0 + 0) (q ++ [split]) := by
      intro mem h
      rw [ht, hq] at h
      exact (textAt_append.mp h).1
    have hget : ∀ {mem : Bytes}, TextAt mem 0 t → mem[0 + (0 + q.length)]? = some split := by
      intro mem h
      rw [htext] at h
      rw [Nat.zero_add]
      exact h.get
    rw [hqlen] at hstart hlast hlen
    have hsplit : t.length = q.length + (p.length + 1) := by omega
    rw [hsplit, forPieces_append _ _ _ _ (hget h), forPieces_append _ _ _ _ (hget h'),
      Nat.zero_add]
    have hsame : forPieces mem 0 split (decodeUuidSet mem 0 rand) q.length 0 0 gtidSetNew =
        forPieces mem' 0 split (decodeUuidSet mem' 0 rand) q.length 0 0 gtidSetNew := by
      apply forPieces_congr _ _ (hfront h) (hfront h') (Nat.le_refl _)
      intro g start j _ hj hle hcomma
      apply decodeUuidSet_congr h h' hj (by omega)
      intro k n hk hn _
      have hkle := intOfSize_le (x := (start : Int)) (by omega)
      rw [hk] at hkle
      have hnle := intOfSize_le (x := (j : Int) - k) (by omega)
      rw [hn] at hnle
      rw [h.get_of_lt (by omega)] at hcomma
      exact not_zeros_drop hcomma (by decide) (by omega)
    rw [hsame]
    refine andThen_congr (fun g _ => ?_)
    rw [hlast h, hlast h']
    apply decodeUuidSet_congr h h' (by omega) (Nat.le_refl _)
    intro k n hk hn _
    have hrange := intOfSize_range (x := (t.length : Int) - k)
    exact not_zeros_of_far htext (by omega) hk (by omega)

end Set

/-! ## One gtid -/

section Gtid
variable {mem mem' t a b : Bytes} {e : Option UInt8}

theorem uuidGnoDecode_neg {src : Nat} (h : TextAt mem src (a ++ colon :: b)) (ha : colon ∉ a)
    (hneg : intOfSize (a.length : Int) < 0) :
    uuidGnoDecode mem src (a ++ colon :: b).length =
      if intOfSize (a.length : Int) = -1 then some none else none := by
  have hscan := scan_append h ha (show a.length < (a ++ colon :: b).length by simp)
  have hguard : (guard (0 ≤ intOfSize (a.length : Int)) : Option Unit) = none :=
    if_neg (by omega)
  rw [uuidGnoDecode, hscan, Option.bind_eq_bind, Option.bind_some]
  dsimp only
  rw [Nat.add_sub_cancel_left, hguard, Option.bind_eq_bind, Option.bind_none]

theorem uuidGnoDecode_congr (h : TextAt mem 0 t) (h' : TextAt mem' 0 t)
    (hstop : ¬ GnoReadPast t) : uuidGnoDecode mem 0 t.length = uuidGnoDecode mem' 0 t.length := by
  by_cases ht : colon ∈ t
  · obtain ⟨a, b, rfl, ha⟩ := List.eq_append_cons_of_mem ht
    by_cases hneg : intOfSize (a.length : Int) < 0
    · rw [uuidGnoDecode_neg h ha hneg, uuidGnoDecode_neg h' ha hneg]
    obtain ⟨k, hk⟩ := Int.eq_ofNat_of_zero_le (Int.not_lt.mp hneg)
    rw [uuidGnoDecode_colon h ha hk, uuidGnoDecode_colon h' ha hk, Nat.zero_add]
    have hle := intOfSize_le (x := (a.length : Int)) (by omega)
    rw [hk] at hle
    -- the number is what stands behind the position
    obtain ⟨x, y, hxy, hx⟩ : ∃ x y, a ++ colon :: b = x ++ y ∧ x.length = k + 1 := by
      refine ⟨_, _, (List.take_append_drop (k + 1) _).symm, ?_⟩
      rw [List.length_take, List.length_append, List.length_cons]
      omega
    have hlen : (a ++ colon :: b).length = x.length + y.length := by rw [hxy, List.length_append]
    have htext : ∀ {mem : Bytes}, TextAt mem 0 (a ++ colon :: b) → TextAt mem (k + 1) (y ++ []) := by
      intro mem h
      rw [hxy] at h
      have := (textAt_append.mp h).2
      rwa [Nat.zero_add, hx, ← List.append_nil y] at this
    have hread := string2ll_congr (htext h) (htext h') (fun hpast => ?_)
    · rw [show (a ++ colon :: b).length - k - 1 = y.length by omega, hread]
    · exfalso
      apply hstop
      by_cases hshort : a.length < 2 ^ 31
      · rw [intOfSize_natCast hshort, Nat.cast_inj] at hk
        subst hk
        rw [List.append_cons] at hxy
        obtain ⟨-, rfl⟩ := List.append_inj hxy (by rw [hx, List.length_append]; rfl)
        exact ⟨a, b, rfl, ha, hshort, hpast⟩
      · have hfar := intOfSize_of_le (x := (a.length : Int)) (by omega)
        rw [hk] at hfar
        exfalso
        have hcolon : (x ++ y)[a.length]? = some colon := by
          rw [← hxy, List.getElem?_append_right (Nat.le_refl _), Nat.sub_self]
          rfl
        rw [List.getElem?_append_right (by omega), show a.length - x.length =
          a.length - (k + 2) + 1 by omega, ← List.getElem?_tail] at hcolon
        have hmem := mem_unsigned (List.mem_of_getElem? hcolon)
        exact absurd (hpast.2.1 colon hmem) (by decide)
  · rw [uuidGnoDecode_plain h ht, uuidGnoDecode_plain h' ht]

theorem uuidGnoDecode_readPast (h : GnoReadPast t) (he : ∀ c ∈ e, ¬ IsDigit c) :
    uuidGnoDecode (t ++ e.toList) 0 t.length = e.map (fun _ => none) := by
  obtain ⟨a, b, rfl, ha, hshort, hpast⟩ := h
  have htext : TextAt (a ++ colon :: b ++ e.toList) 0 (a ++ colon :: b) := by
    rw [TextAt, List.drop_zero]
    exact List.prefix_append _ _
  have hdrop : (a ++ colon :: b ++ e.toList).drop (a.length + 1) = b ++ [] ++ e.toList := by
    rw [List.append_assoc, List.cons_append, List.append_cons, List.drop_left' (by simp),
      List.append_nil]
  have hread := string2ll_readPast hdrop hpast (fun c hc => absurd hc List.not_mem_nil) he
  have hlen : (a ++ colon :: b).length - a.length - 1 = b.length := by
    rw [List.length_append, List.length_cons]
    omega
  rw [uuidGnoDecode_colon htext ha (intOfSize_natCast hshort), Nat.zero_add, hlen, hread]
  cases e <;> rfl

/-- Two buffers that start with the text. -/
theorem eq_of_textAt {α : Type} {f : Bytes → α}
    (h : ∀ mem mem', TextAt mem 0 t → TextAt mem' 0 t → f mem = f mem') (r r' : Bytes) :
    f (t ++ r) = f (t ++ r') := by
  apply h
  · rw [TextAt, List.drop_zero]
    exact List.prefix_append _ _
  · rw [TextAt, List.drop_zero]
    exact List.prefix_append _ _

/-- A parser that passes the end of the text fails where the buffer ends there, and rejects
the text where a colon follows. -/
theorem ne_of_readPast {α : Type} {f : Bytes → Option (Option α)}
    (h : ∀ e : Option UInt8, (∀ c ∈ e, ¬ IsDigit c) → f (t ++ e.toList) = e.map (fun _ => none)) :
    ¬ ∀ r r', f (t ++ r) = f (t ++ r') := by
  intro hsame
  have hend := h none (fun c hc => by cases hc)
  have hcolon := h (some colon) (fun c hc => Option.some.inj hc ▸ not_isDigit_colon)
  rw [hsame _ (some colon).toList, hcolon] at hend
  cases hend

/-- **Parsers read only their input**, all buffers alike behind it, exactly unless a number
of zeros is read past at the end of the text. -/
theorem parsers_read_only_input_iff (t : Bytes) :
    ((∀ r r', string2ll (t ++ r) 0 t.length = string2ll (t ++ r') 0 t.length) ↔ ¬ ReadPast t) ∧
    ((∀ r r', uuidGnoDecode (t ++ r) 0 t.length = uuidGnoDecode (t ++ r') 0 t.length) ↔
      ¬ GnoReadPast t) ∧
    ∀ rand, (∀ r r', gtidSetDecode (t ++ r) 0 t.length rand =
      gtidSetDecode (t ++ r') 0 t.length rand) ↔ ¬ SetReadPast t rand := by
  refine ⟨⟨fun h hpast => ?_, fun hstop => ?_⟩, ⟨fun h hpast => ?_, fun hstop => ?_⟩,
    fun rand => ⟨fun h hpast => ?_, fun hstop => ?_⟩⟩
  · refine ne_of_readPast (f := fun mem => string2ll mem 0 t.length) (fun e he => ?_) h
    refine string2ll_readPast (w := []) ?_ hpast (fun c hc => absurd hc List.not_mem_nil) he
    rw [List.drop_zero, List.append_nil]
  · refine eq_of_textAt (f := fun mem => string2ll mem 0 t.length) (fun mem mem' ht ht' => ?_)
    rw [← List.append_nil t] at ht ht'
    exact string2ll_congr ht ht' (fun hpast => absurd hpast hstop)
  · exact ne_of_readPast (f := fun mem => uuidGnoDecode mem 0 t.length)
      (fun e he => uuidGnoDecode_readPast hpast he) h
  · exact eq_of_textAt (f := fun mem => uuidGnoDecode mem 0 t.length)
      (fun mem mem' ht ht' => uuidGnoDecode_congr ht ht' hstop)
  · exact ne_of_readPast (f := fun mem => gtidSetDecode mem 0 t.length rand)
      (fun e he => gtidSetDecode_readPast hpast he) h
  · exact eq_of_textAt (f := fun mem => gtidSetDecode mem 0 t.length rand)
      (fun mem mem' ht ht' => gtidSetDecode_congr ht ht' hstop)

/-- The text `A:00` is the gtid set `A:5` in front of a `5`, and no gtid set in front of a
colon. -/
theorem zeros_read_past :
    (∃ s, gtidSetDecode ([65, 58, 48, 48] ++ [53]) 0 4 (fun _ => 0) = some (some s) ∧
      entries s = [([65], [(5, 5)])]) ∧
    gtidSetDecode ([65, 58, 48, 48] ++ [58]) 0 4 (fun _ => 0) = some none ∧
    uuidGnoDecode ([65, 58, 48, 48] ++ [53]) 0 4 = some (some (5, 1)) ∧
    uuidGnoDecode ([65, 58, 48, 48] ++ [58]) 0 4 = some none ∧
    string2ll ([48, 48] ++ [53]) 0 2 = some (some 5) ∧
    string2ll ([48, 48] ++ [58]) 0 2 = some none := by
  refine ⟨⟨_, rfl, ?_⟩, rfl, ?_, ?_, ?_, ?_⟩ <;> decide +kernel

end Gtid

end XredisGtid
