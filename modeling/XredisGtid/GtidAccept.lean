import XredisGtid.GtidText

/-!
# Texts of gtid sets

`IsGtidSet` says which texts are gtid sets: the empty one, and pieces between commas, each
of them a uuid with intervals behind colons.  `gtidSetDecode` returns a set for these
texts and for no others, as long as positions fit an `int` and the intervals of each
piece can be added one after another.
-/
namespace XredisGtid
open Memory Buffer Decimal KeyedIntervals

/-- What may stand between two colons: an interval of gnos, or nothing. -/
def IntervalText (a : Bytes) : Prop := a = [] ∨ ∃ i ∈ interval a, 1 ≤ i.1 ∧ i.1 ≤ i.2

instance (a : Bytes) : Decidable (IntervalText a) := inferInstanceAs (Decidable (_ ∨ _))

/-- What may stand between two commas. -/
def PieceText (p : Bytes) : Prop := p ≠ [] ∧ ∀ a ∈ (p.splitOn colon).tail, IntervalText a

instance (p : Bytes) : Decidable (PieceText p) := inferInstanceAs (Decidable (_ ∧ _))

def IsGtidSet (s : Bytes) : Prop := s = [] ∨ ∀ p ∈ s.splitOn split, PieceText p

instance (s : Bytes) : Decidable (IsGtidSet s) := inferInstanceAs (Decidable (_ ∨ _))

section Accept
variable {mem s p uuid t : Bytes} {c : UInt8} {src : Nat} {rand : Rand} {u : UuidSet}
variable {done : List (Int × Int)} {g : GtidSet} {l : List (Addr × Entry)}

theorem decodeInterval_iff {start : Nat} (hu : Accepted uuid done u)
    (h : TextAt mem (src + start) (t ++ [c])) (hc : ¬ IsDigit c)
    (hfits : ∀ i ∈ interval t, IntervalList.FitsNext LLONG_MAX (IntervalList.union [] done) i) :
    (∃ u', decodeInterval mem src rand u start (start + t.length) = some (some u')) ↔
      IntervalText t := by
  by_cases hempty : t = []
  · subst hempty
    rw [decodeInterval, if_neg (by simp)]
    exact ⟨fun _ => Or.inl rfl, fun _ => ⟨u, rfl⟩⟩
  have hpos := List.length_pos_iff.mpr hempty
  rw [decodeInterval, if_pos (by omega), Nat.add_sub_cancel_left,
    gtidIntervalDecode_text h hc, Option.bind_eq_bind, Option.bind_some, IntervalText,
    or_iff_right hempty]
  cases hi : interval t with
  | none =>
    constructor
    · rintro ⟨_, hno⟩
      cases hno
    · rintro ⟨_, hno, -⟩
      cases hno
  | some i =>
    dsimp only
    by_cases hvalid : gtidIntervalIsValid i.1 i.2
    · have hvalid' := gtidIntervalIsValid_iff.mp hvalid
      obtain ⟨v, n, hadd, -⟩ := hu.toDecoded.add ⟨hvalid'.1, hvalid'.2, interval_le hi⟩ (hfits i hi)
        (rand.sub (start + t.length))
      rw [if_pos hvalid, hadd]
      exact ⟨fun _ => ⟨i, rfl, hvalid'⟩, fun _ => ⟨v, rfl⟩⟩
    · rw [if_neg hvalid]
      constructor
      · rintro ⟨_, hno⟩
        cases hno
      · rintro ⟨j, hj, hvalid'⟩
        cases hj
        exact absurd (gtidIntervalIsValid_iff.mpr hvalid') hvalid

/-- **The pieces that are accepted.** -/
theorem uuidSetDecode_accepts_iff (h : TextAt mem src (p ++ [c])) (hc : ¬ IsDigit c)
    (hfits : IntervalList.FitsOnto LLONG_MAX [] (pieceIntervals p)) :
    (∃ u, uuidSetDecode mem src p.length rand = some (some u)) ↔ PieceText p := by
  have htext := (textAt_append.mp h).1
  by_cases hempty : p = []
  · constructor
    · rintro ⟨u, hrun⟩
      exact absurd hempty (uuidSetDecode_ne_nil hrun)
    · intro ho
      exact absurd hempty ho.1
  by_cases hmem : colon ∈ p
  · obtain ⟨uuid, b, rfl, huuid⟩ := List.eq_append_cons_of_mem hmem
    obtain ⟨item, l, hsplit, rfl, hsep⟩ := exists_splitOn colon b
    have htail : ((uuid ++ colon :: (item ++ l.flatMap (fun a => colon :: a))).splitOn colon).tail =
        item :: l := by
      rw [List.splitOn_append_cons_self_of_not_mem huuid, hsplit, List.tail_cons]
    rw [pieceIntervals, htail] at hfits
    have hrest : TextAt mem (src + (uuid.length + 1))
        (item ++ l.flatMap (fun a => colon :: a) ++ [c]) := by
      rw [List.append_assoc, List.cons_append] at h
      exact (textAt_cons.mp (textAt_append.mp h).2).2
    rw [uuidSetDecode_cons htext huuid, PieceText, htail, and_iff_right hempty]
    refine forPieces_accepts (decodeInterval mem src rand)
      (fun done u => Accepted uuid (done.filterMap interval) u) IntervalText (uuid.length + 1)
      (List.nil_append (item :: l))
      (show Accepted uuid (([] : List Bytes).filterMap interval) _ from accepted_new uuid) hrest rfl
      hsep ?_
    intro done a rest u start d hall hu hd htext' _
    have hdigit : ¬ IsDigit d := by
      rcases hd with rfl | rfl
      · exact not_isDigit_colon
      · exact hc
    have hnext := fitsNext_filterMap (hall ▸ hfits)
    refine ⟨decodeInterval_iff hu htext' hdigit hnext, fun u' hrun => ?_⟩
    rw [List.filterMap_append]
    exact decodeInterval_text hu htext' hdigit hnext hrun
  · rw [uuidSetDecode_plain htext hempty hmem, PieceText, List.splitOn_eq_singleton hmem]
    exact ⟨fun _ => ⟨hempty, fun a ha => absurd ha List.not_mem_nil⟩, fun _ => ⟨_, rfl⟩⟩

theorem decodeUuidSet_iff {start : Nat} (hg : SetRep g l) (h : TextAt mem start (p ++ [c]))
    (hc : ¬ IsDigit c) (hshort : start + p.length < 2 ^ 31)
    (hfits : IntervalList.FitsOnto LLONG_MAX [] (pieceIntervals p)) :
    (∃ g', decodeUuidSet mem 0 rand g start (start + p.length) = some (some g')) ↔ PieceText p := by
  have haccept : (∃ u, uuidSetDecode mem start p.length (rand.sub (start + p.length)) =
      some (some u)) ↔ PieceText p := uuidSetDecode_accepts_iff h hc hfits
  rw [← haccept, decodeUuidSet_eq (intOfSize_natCast (show start < 2 ^ 31 by omega)), Nat.zero_add,
    Nat.cast_add, add_sub_cancel_left, intOfSize_natCast (show p.length < 2 ^ 31 by omega)]
  rcases hdecode : uuidSetDecode mem start (p.length : Int) (rand.sub (start + p.length)) with
    _ | _ | u
  · apply iff_of_false
    all_goals rintro ⟨_, hno⟩; cases hno
  · apply iff_of_false
    all_goals rintro ⟨_, hno⟩; cases hno
  · have hu := uuidSetDecode_text h hc hfits hdecode
    obtain ⟨g', happend, -⟩ := gtidSetAppend_rep hg hu.next hu.record.wf
    rw [andThen_some, happend]
    exact ⟨fun _ => ⟨u, rfl⟩, fun _ => ⟨g', rfl⟩⟩

/-- **The texts that are accepted** are the gtid sets. -/
theorem gtidSetDecode_accepts_iff
    (hfits : ∀ p ∈ s.splitOn split, IntervalList.FitsOnto LLONG_MAX [] (pieceIntervals p))
    (hlen : s.length < 2 ^ 31) (rand : Rand) :
    (∃ t, gtidSetDecode (s ++ [0]) 0 s.length rand = some (some t)) ↔ IsGtidSet s := by
  by_cases hempty : s = []
  · subst hempty
    exact ⟨fun _ => Or.inl rfl, fun _ => ⟨_, rfl⟩⟩
  obtain ⟨item, rest, hsplit, hs, hsep⟩ := exists_splitOn split s
  have hmem : TextAt (s ++ [0]) (0 + 0) (item ++ rest.flatMap (fun a => split :: a) ++ [0]) := by
    rw [← hs]
    exact textAt_self (s ++ [0])
  rw [gtidSetDecode, if_neg (fun he => hempty (List.length_eq_zero_iff.mp he)), IsGtidSet,
    or_iff_right hempty, hsplit]
  rw [hsplit] at hfits
  have hloop := forPieces_accepts (decodeUuidSet (s ++ [0]) 0 rand) (fun _ g => ∃ l, SetRep g l)
    PieceText 0 (List.nil_append (item :: rest)) ⟨[], setRep_new⟩ hmem (Nat.zero_add _) hsep
    (fun done p ps g start d hall hg hd htext hend => by
      have hp : p ∈ item :: rest := hall ▸ by simp
      obtain ⟨l, hg⟩ := hg
      have hdigit : ¬ IsDigit d := by
        rcases hd with rfl | rfl
        · decide
        · decide
      rw [← hs] at hend
      rw [Nat.zero_add] at htext
      have hshort : start + p.length < 2 ^ 31 := by omega
      refine ⟨decodeUuidSet_iff hg htext hdigit hshort (hfits p hp), fun g' hrun => ?_⟩
      obtain ⟨-, -, l', hg', -⟩ := decodeUuidSet_text hg htext hdigit (by omega) (by omega)
        (hfits p hp) hrun
      exact ⟨l', hg'⟩)
  rw [← hs] at hloop
  exact hloop

end Accept

end XredisGtid
