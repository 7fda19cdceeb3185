import XredisGtid.GtidCodec
import XredisGtid.GtidSetRun

/-!
# What encoding writes

`gtidSetText` is the text of a keyed list of intervals.  The callers keep the `-1` of a
failed call in a `size_t` and test it for being negative, so a number that does not fit is
not an error: the interval, and likewise the record, is left out, and the loop goes on.
Whether everything fits is a condition on the text and the room alone (`IntervalsFit`,
`RecordFits`, `EntriesFit`), and what is written is the whole text just when it holds
(`Partly`).  A buffer of the estimated size is large enough.
-/
namespace XredisGtid
open Memory Buffer Decimal

def intervalText (i : Int × Int) : Bytes :=
  if i.1 = i.2 then longText i.1 else longText i.1 ++ hyphen :: longText i.2

def intervalsText (l : List (Int × Int)) : Bytes := l.flatMap (fun i => colon :: intervalText i)

def uuidSetText (e : Entry) : Bytes := e.1 ++ intervalsText e.2

def gtidSetText : List Entry → Bytes
  | [] => []
  | e :: es => uuidSetText e ++ es.flatMap (fun e => split :: uuidSetText e)

/-- The entries that have gnos. -/
def nonEmpty (es : List Entry) : List Entry := es.filter (fun e => decide (e.2 ≠ []))

/-- The part of the buffer estimated for an entry. -/
def entrySize (e : Entry) : Nat := e.1.length + (e.2.length + 1) * 44

/-- Gnos the source accepts. -/
def Valid (l : List (Int × Int)) : Prop := ∀ i ∈ l, 1 ≤ i.1 ∧ i.1 ≤ i.2 ∧ i.2 ≤ LLONG_MAX

section Text
variable {x : Int} {i : Int × Int} {l : List (Int × Int)}

theorem length_longText_le (h₁ : 1 ≤ x) (h₂ : x ≤ LLONG_MAX) : (longText x).length ≤ 19 := by
  unfold LLONG_MAX at h₂
  rw [longText, if_neg (by omega)]
  exact length_decimal_le (by decide) (by omega)

theorem length_intervalText_pos (i : Int × Int) : 0 < (intervalText i).length := by
  have hpos : ∀ x : Int, 0 < (longText x).length := by
    intro x
    rw [longText]
    split
    · exact Nat.succ_pos _
    · exact length_decimal_pos _
  have := hpos i.1
  rw [intervalText]
  split
  · exact this
  · rw [List.length_append]
    omega

theorem length_intervalText_le (h : 1 ≤ i.1 ∧ i.1 ≤ i.2 ∧ i.2 ≤ LLONG_MAX) :
    (intervalText i).length ≤ 39 := by
  have h₁ := length_longText_le h.1 (Int.le_trans h.2.1 h.2.2)
  have h₂ := length_longText_le (Int.le_trans h.1 h.2.1) h.2.2
  rw [intervalText]
  split
  · omega
  · rw [List.length_append, List.length_cons]
    omega

theorem length_intervalsText_le (h : Valid l) : (intervalsText l).length ≤ l.length * 40 := by
  induction l with
  | nil => exact Nat.zero_le _
  | cons i l ih =>
    have hi := length_intervalText_le (h i (by simp))
    have hl := ih (fun j hj => h j (by simp [hj]))
    simp only [intervalsText, List.flatMap_cons, List.length_append, List.length_cons] at hl ⊢
    omega

/-- The numbers of an interval fit, each given the room of the longest. -/
def IntervalFits (i : Int × Int) (room : Nat) : Prop :=
  GNO_REPR_MAX_LEN ≤ room ∧
    (i.1 ≠ i.2 → (longText i.1).length + 1 + GNO_REPR_MAX_LEN ≤ room)

/-- The intervals fit one behind the other, each with a separator in front. -/
def IntervalsFit : List (Int × Int) → Nat → Prop
  | [], _ => True
  | i :: l, room =>
    IntervalFits i (room - 1) ∧ IntervalsFit l (room - (1 + (intervalText i).length))

/-- What is written of a text: all of it when it fits, and less when it does not. -/
structure Partly (fits : Prop) (full text : Bytes) : Prop where
  whole : fits → text = full
  short : ¬ fits → text.length < full.length

theorem Partly.length_le {fits : Prop} {full text : Bytes} (h : Partly fits full text) :
    text.length ≤ full.length := by
  by_cases hfits : fits
  · rw [h.whole hfits]
  · exact Nat.le_of_lt (h.short hfits)

theorem IntervalFits.length_lt {room : Nat} (h : 1 ≤ i.1 ∧ i.1 ≤ i.2 ∧ i.2 ≤ LLONG_MAX)
    (hfits : IntervalFits i room) : (intervalText i).length + 1 < room := by
  have h₁ := length_longText_le h.1 (Int.le_trans h.2.1 h.2.2)
  have h₂ := length_longText_le (Int.le_trans h.1 h.2.1) h.2.2
  obtain ⟨hone, htwo⟩ := hfits
  unfold GNO_REPR_MAX_LEN at hone htwo
  rw [intervalText]
  by_cases heq : i.1 = i.2
  · rw [if_pos heq]
    omega
  · have := htwo heq
    rw [if_neg heq, List.length_append, List.length_cons]
    omega

/-- Encoding an interval that fits. -/
theorem gtidIntervalEncode_spec (mem : Bytes) (buf maxlen : Nat)
    (h : 1 ≤ i.1 ∧ i.1 ≤ i.2 ∧ i.2 ≤ LLONG_MAX) (hfits : IntervalFits i maxlen)
    (hroom : buf + maxlen ≤ mem.length) :
    ∃ mem', gtidIntervalEncode mem buf maxlen i.1 i.2 = some (mem', ((intervalText i).length : Int)) ∧
      Written mem mem' buf (intervalText i) := by
  have h₁ := length_longText_le h.1 (Int.le_trans h.2.1 h.2.2)
  have h₂ := length_longText_le (Int.le_trans h.1 h.2.1) h.2.2
  obtain ⟨hone, htwo⟩ := hfits
  have hmax : GNO_REPR_MAX_LEN = 21 := rfl
  obtain ⟨mem₁, hstart, hw₁⟩ := ll2string_spec mem buf GNO_REPR_MAX_LEN i.1 (by omega) (by omega)
  have hlen₁ := hw₁.length
  rw [gtidIntervalEncode, if_neg (by omega), hstart, intervalText]
  simp only [Option.bind_eq_bind, Option.bind_some]
  by_cases heq : i.1 = i.2
  · rw [if_neg (not_not.mpr heq), if_pos heq]
    exact ⟨mem₁, rfl, hw₁⟩
  · have hroom₂ := htwo heq
    obtain ⟨mem₂, hhyphen, hw₂⟩ := memcpy_written mem₁ [hyphen]
      (buf + (longText i.1).length) (by rw [List.length_singleton]; omega)
    have hlen₂ := hw₂.length
    obtain ⟨mem₃, hend, hw₃⟩ := ll2string_spec mem₂
      (buf + ((longText i.1).length + 1)) GNO_REPR_MAX_LEN i.2 (by omega) (by omega)
    refine ⟨mem₃, ?_, ?_⟩
    · rw [if_pos heq, if_neg heq, if_neg (by omega), hhyphen]
      simp only [Option.bind_some, hend, List.length_append, List.length_cons]
      rw [Nat.add_assoc, Nat.add_comm 1]
    · rw [if_neg heq]
      exact hw₁.trans (hw₂.trans hw₃ (Nat.add_assoc _ _ _).symm) rfl

/-- An interval that does not fit; its first number may have been written. -/
theorem gtidIntervalEncode_fails (mem : Bytes) (buf maxlen : Nat)
    (h : 1 ≤ i.1 ∧ i.1 ≤ i.2 ∧ i.2 ≤ LLONG_MAX) (hfits : ¬ IntervalFits i maxlen)
    (hroom : buf + maxlen ≤ mem.length) :
    ∃ mem', gtidIntervalEncode mem buf maxlen i.1 i.2 = some (mem', -1) ∧
      Written mem mem' buf [] := by
  have h₁ := length_longText_le h.1 (Int.le_trans h.2.1 h.2.2)
  have hmax : GNO_REPR_MAX_LEN = 21 := rfl
  by_cases hone : GNO_REPR_MAX_LEN > maxlen
  · exact ⟨mem, by rw [gtidIntervalEncode, if_pos hone], Written.nil (by omega)⟩
  · obtain ⟨mem₁, hstart, hw₁⟩ := ll2string_spec mem buf GNO_REPR_MAX_LEN i.1 (by omega) (by omega)
    have htwo : i.1 ≠ i.2 ∧ (longText i.1).length + 1 + GNO_REPR_MAX_LEN > maxlen := by
      rw [IntervalFits, not_and, Classical.not_imp] at hfits
      obtain ⟨hne, hlong⟩ := hfits (by omega)
      exact ⟨hne, by omega⟩
    refine ⟨mem₁, ?_, hw₁.none⟩
    rw [gtidIntervalEncode, if_neg hone, hstart]
    simp only [Option.bind_eq_bind, Option.bind_some, if_pos htwo.1, if_pos htwo.2]

theorem sizeT_natCast {n : Nat} (h : n < 2 ^ 64) : sizeT n = n := by
  unfold sizeT
  omega

theorem sizeT_add {a b : Nat} (h : a + b < 2 ^ 64) : sizeT (a + b) = a + b := by
  unfold sizeT
  omega

/-- The `-1` of a failed call takes one off a length that is not `0`. -/
theorem sizeT_add_failed {n : Nat} (h : n + 1 < 2 ^ 64) :
    sizeT (((n + 1 : Nat) : Int) + (sizeT (-1) : Nat)) = n := by
  unfold sizeT
  omega

theorem llong_natCast {n : Nat} (h : n < 2 ^ 63) : llong n = n := by
  unfold llong
  omega

/-- **The loop over the intervals.**  An interval that does not fit is left out. -/
theorem encodeIntervals_spec (mem : Bytes) (buf maxlen len : Nat) (h : Valid l)
    (hstart : len ≤ maxlen ∧ (l ≠ [] → len < maxlen)) (hroom : buf + maxlen ≤ mem.length)
    (hlen : maxlen < 2 ^ 63 ∨ len + (intervalsText l).length < 2 ^ 63) :
    ∃ mem' text, encodeIntervals buf maxlen l mem len =
        some (mem', ((len + text.length : Nat) : Int)) ∧
      Written mem mem' (buf + len) text ∧
      Partly (IntervalsFit l (maxlen - len)) (intervalsText l) text ∧
      (len < maxlen → len + text.length < maxlen) := by
  induction l generalizing mem len with
  | nil =>
    have hlen' : len < 2 ^ 63 := by
      rcases hlen with hlen | hlen
      · omega
      · exact hlen
    refine ⟨mem, [], by rw [encodeIntervals, llong_natCast hlen']; rfl, Written.nil (by omega),
      ⟨fun _ => rfl, fun hno => absurd trivial hno⟩, fun hlt => hlt⟩
  | cons i l ih =>
    have hi := h i (by simp)
    have hl : Valid l := fun j hj => h j (by simp [hj])
    have hlt := hstart.2 (List.cons_ne_nil i l)
    have htext : intervalsText (i :: l) = [colon] ++ (intervalText i ++ intervalsText l) := by
      simp [intervalsText]
    have htextlen : (intervalsText (i :: l)).length =
        1 + (intervalText i).length + (intervalsText l).length := by
      rw [htext, List.length_append, List.length_append, List.length_singleton, Nat.add_assoc]
    rw [htextlen] at hlen
    obtain ⟨mem₁, hcolon, hw₁⟩ := memcpy_written mem [colon] (buf + len)
      (by rw [List.length_singleton]; omega)
    have hlen₁ := hw₁.length
    by_cases hfits : IntervalFits i (maxlen - (len + 1))
    · have hilen := hfits.length_lt hi
      have hibound := length_intervalText_le hi
      obtain ⟨mem₂, hinterval, hw₂⟩ := gtidIntervalEncode_spec mem₁
        (buf + (len + 1)) (maxlen - (len + 1)) hi hfits (by omega)
      have hlen₂ := hw₂.length
      have hsize : sizeT ((intervalText i).length : Int) = (intervalText i).length :=
        sizeT_natCast (by omega)
      have hadd : sizeT (((len + 1 : Nat) : Int) + ((intervalText i).length : Nat)) =
          len + 1 + (intervalText i).length := sizeT_add (by omega)
      obtain ⟨mem₃, text, hrest, hw₃, hpart, hbelow⟩ := ih mem₂
        (len + 1 + (intervalText i).length) hl ⟨by omega, fun _ => by omega⟩ (by omega) (by omega)
      refine ⟨mem₃, [colon] ++ (intervalText i ++ text), ?_, ?_, ?_, ?_⟩
      · rw [encodeIntervals, if_neg (by omega), hcolon]
        simp only [Option.bind_eq_bind, Option.bind_some, hinterval, hsize, Nat.not_lt_zero,
          if_false, hadd, hrest]
        rw [List.length_append, List.length_append, List.length_singleton]
        simp only [Nat.add_assoc]
      · refine hw₁.trans (hw₂.trans hw₃ ?_) (Nat.add_assoc _ _ _).symm
        rw [Nat.add_assoc, Nat.add_assoc, Nat.add_assoc]
      · have hleft : maxlen - len - (1 + (intervalText i).length) =
            maxlen - (len + 1 + (intervalText i).length) := by omega
        rw [htext, IntervalsFit, hleft, Nat.sub_sub]
        refine ⟨fun hall => by rw [hpart.whole hall.2], fun hno => ?_⟩
        have := hpart.short (fun hall => hno ⟨hfits, hall⟩)
        simp only [List.length_append]
        omega
      · intro _
        have := hbelow (by omega)
        simp only [List.length_append, List.length_singleton]
        omega
    · obtain ⟨mem₂, hinterval, hw₂⟩ := gtidIntervalEncode_fails mem₁
        (buf + (len + 1)) (maxlen - (len + 1)) hi hfits (by omega)
      have hlen₂ := hw₂.length
      obtain ⟨mem₃, text, hrest, hw₃, hpart, hbelow⟩ := ih mem₂ len hl
        ⟨by omega, fun _ => hlt⟩ (by omega) (by omega)
      have hback : sizeT (((len + 1 : Nat) : Int) + (sizeT (-1) : Nat)) = len :=
        sizeT_add_failed (by omega)
      refine ⟨mem₃, text, ?_, ?_, ?_, hbelow⟩
      · rw [encodeIntervals, if_neg (by omega), hcolon]
        simp only [Option.bind_eq_bind, Option.bind_some, hinterval, Nat.not_lt_zero, if_false,
          hback, hrest]
      · -- the separator is overwritten
        exact (hw₁.trans hw₂ (Nat.add_assoc _ _ _).symm).overwrite hw₃
      · rw [IntervalsFit, Nat.sub_sub]
        refine ⟨fun hall => absurd hall.1 hfits, fun _ => ?_⟩
        have := hpart.length_le
        omega

/-- The estimate of an interval is enough. -/
theorem intervalsFit_of_estimate {room : Nat} (h : Valid l) (hroom : l.length * 44 ≤ room) :
    IntervalsFit l room := by
  induction l generalizing room with
  | nil => trivial
  | cons i l ih =>
    have hi := h i (by simp)
    have h₁ := length_longText_le hi.1 (Int.le_trans hi.2.1 hi.2.2)
    have h₂ := length_intervalText_le hi
    rw [List.length_cons] at hroom
    have hmax : GNO_REPR_MAX_LEN = 21 := rfl
    refine ⟨⟨by omega, fun _ => by omega⟩, ih (fun j hj => h j (by simp [hj])) (by omega)⟩

end Text

section Encode
variable {u : UuidSet} {e : Entry} {s : GtidSet} {l : List (Addr × Entry)}

/-- A record with the uuid and the intervals of an entry. -/
structure RecordOf (u : UuidSet) (e : Entry) : Prop where
  uuid : u.uuid = e.1
  wf : WF u.intervals
  intervals : intervals u.intervals = e.2

theorem WF.valid {gsl : GtidIntervalSkipList} (h : WF gsl) : Valid (intervals gsl) := fun i hi =>
  ⟨(h.gnos.bounds i hi).1, h.canonical.nonempty i hi, (h.gnos.bounds i hi).2⟩

theorem WF.nodeCount {gsl : GtidIntervalSkipList} (h : WF gsl) :
    gsl.nodeCount = (intervals gsl).length + 1 := by
  obtain ⟨cells, hrep⟩ := h
  rw [hrep.nodeCount, hrep.intervals_eq, List.length_map]

theorem RecordOf.valid (h : RecordOf u e) : Valid e.2 := h.intervals ▸ h.wf.valid

theorem RecordOf.count (h : RecordOf u e) : uuidSetCount u = 0 ↔ e.2 = [] := by
  rw [uuidSetCount, h.wf.gnoCount, IntervalList.size_eq_zero h.wf.canonical, h.intervals]

theorem RecordOf.estimated (h : RecordOf u e) : uuidSetEstimatedEncodeBufferSize u = entrySize e := by
  rw [uuidSetEstimatedEncodeBufferSize, h.wf.nodeCount, h.intervals, h.uuid, entrySize]

theorem length_uuidSetText (e : Entry) :
    (uuidSetText e).length = e.1.length + (intervalsText e.2).length := List.length_append

/-- The estimate is large enough. -/
theorem RecordOf.length_le (h : RecordOf u e) : (uuidSetText e).length ≤ entrySize e := by
  have := length_intervalsText_le h.valid
  rw [length_uuidSetText, entrySize]
  omega

theorem Holds.recordOf {cells : Arena UuidSet} {c : Addr × Entry} (h : Holds cells c) :
    ∃ u, cells.get c.1 = some u ∧ RecordOf u c.2 := by
  obtain ⟨u, hu, huuid, hwf, hint⟩ := h
  exact ⟨u, hu, huuid, hwf, hint⟩

/-- The uuid and its intervals fit. -/
def RecordFits (e : Entry) (room : Nat) : Prop :=
  e.1.length ≤ room ∧ IntervalsFit e.2 (room - e.1.length)

/-- There is no room for the uuid and the separator of the first interval. -/
def RecordFails (e : Entry) (room : Nat) : Prop :=
  room < e.1.length ∨ (e.2 ≠ [] ∧ room = e.1.length)

instance (e : Entry) (room : Nat) : Decidable (RecordFails e room) :=
  inferInstanceAs (Decidable (_ ∨ (_ ∧ _)))

theorem recordFails_iff {room : Nat} (h : e.2 ≠ []) : RecordFails e room ↔ room ≤ e.1.length := by
  rw [RecordFails, Nat.le_iff_lt_or_eq]
  simp only [h, ne_eq, not_false_eq_true, true_and]

theorem RecordFails.not_fits {room : Nat} (h : RecordFails e room) : ¬ RecordFits e room := by
  rintro ⟨hle, hfit⟩
  rcases h with h | ⟨hne, h⟩
  · omega
  · cases hl : e.2 with
    | nil => exact hne hl
    | cons i l =>
      rw [hl, IntervalsFit, IntervalFits] at hfit
      have hmax : GNO_REPR_MAX_LEN = 21 := rfl
      omega

/-- **A uuid set that fails** returns `-1`; its uuid may have been written. -/
theorem uuidSetEncode_fails (mem : Bytes) (buf maxlen : Nat) (h : RecordOf u e)
    (hfails : RecordFails e maxlen) (hroom : buf + maxlen ≤ mem.length) :
    ∃ mem', uuidSetEncode mem buf maxlen u = some (mem', -1) ∧ Written mem mem' buf [] := by
  rcases hfails with hlt | ⟨hne, heq⟩
  · refine ⟨mem, ?_, Written.nil (by omega)⟩
    rw [uuidSetEncode, h.uuid, if_pos hlt]
  · obtain ⟨mem₁, huuid, hw₁⟩ := memcpy_written mem e.1 buf (by omega)
    refine ⟨mem₁, ?_, hw₁.none⟩
    rw [uuidSetEncode, h.uuid, if_neg (by omega), huuid, h.intervals]
    cases hl : e.2 with
    | nil => exact absurd hl hne
    | cons i l =>
      simp only [Option.bind_eq_bind, Option.bind_some]
      rw [encodeIntervals, if_pos (by omega)]

/-- **Encoding one uuid set**; the intervals that do not fit are left out. -/
theorem uuidSetEncode_spec (mem : Bytes) (buf maxlen : Nat) (h : RecordOf u e)
    (hfails : ¬ RecordFails e maxlen) (hroom : buf + maxlen ≤ mem.length)
    (hlen : maxlen < 2 ^ 63 ∨ (uuidSetText e).length < 2 ^ 63) :
    ∃ mem' text, uuidSetEncode mem buf maxlen u = some (mem', (text.length : Int)) ∧
      Written mem mem' buf text ∧ Partly (RecordFits e maxlen) (uuidSetText e) text ∧
      (e.2 ≠ [] → text.length < maxlen) := by
  rw [RecordFails, not_or, not_and] at hfails
  obtain ⟨hle, hne⟩ := hfails
  rw [length_uuidSetText] at hlen
  obtain ⟨mem₁, huuid, hw₁⟩ := memcpy_written mem e.1 buf (by omega)
  obtain ⟨mem₂, text, hloop, hw₂, hpart, hbelow⟩ := encodeIntervals_spec mem₁ buf maxlen
    e.1.length h.valid ⟨by omega, fun hl => by have := hne hl; omega⟩
    (by rw [hw₁.length]; exact hroom) hlen
  refine ⟨mem₂, e.1 ++ text, ?_, hw₁.trans hw₂ rfl, ?_, ?_⟩
  · rw [uuidSetEncode, h.uuid, if_neg hle, huuid, h.intervals, List.length_append]
    exact hloop
  · refine ⟨fun hfits => by rw [hpart.whole hfits.2, uuidSetText], fun hno => ?_⟩
    have := hpart.short (fun hfits => hno ⟨by omega, hfits⟩)
    rw [length_uuidSetText, List.length_append]
    omega
  · intro hl
    have := hne hl
    rw [List.length_append]
    exact hbelow (by omega)

/-! ## Several records -/

/-- The text of the entries behind the first. -/
def restText (es : List Entry) : Bytes := es.flatMap (fun e => split :: uuidSetText e)

theorem restText_cons (e : Entry) (es : List Entry) :
    restText (e :: es) = [split] ++ (uuidSetText e ++ restText es) := by simp [restText]

theorem length_restText_cons (e : Entry) (es : List Entry) :
    (restText (e :: es)).length = 1 + (uuidSetText e).length + (restText es).length := by
  rw [restText_cons, List.length_append, List.length_append, List.length_singleton, Nat.add_assoc]

/-- The records fit one behind the other, each with a separator in front. -/
def RestFits : List Entry → Nat → Prop
  | [], _ => True
  | e :: es, room => RecordFits e (room - 1) ∧ RestFits es (room - (1 + (uuidSetText e).length))

/-- The first record has no separator. -/
def EntriesFit (es : List Entry) (room : Nat) : Prop := RestFits es (room + 1)

theorem entriesFit_cons (e : Entry) (es : List Entry) (room : Nat) :
    EntriesFit (e :: es) room ↔
      RecordFits e room ∧ RestFits es (room - (uuidSetText e).length) := by
  rw [EntriesFit, RestFits, Nat.add_sub_cancel, ← Nat.sub_sub, Nat.add_sub_cancel]

/-- The cells of the entries that have gnos. -/
def nonEmptyCells (l : List (Addr × Entry)) : List (Addr × Entry) :=
  l.filter (fun c => decide (c.2.2 ≠ []))

theorem nonEmptyCells_map (l : List (Addr × Entry)) :
    (nonEmptyCells l).map Prod.snd = nonEmpty (l.map Prod.snd) := by
  rw [nonEmptyCells, nonEmpty, List.filter_map]
  rfl

theorem nonEmpty_cons_of_nil {es : List Entry} (h : e.2 = []) :
    nonEmpty (e :: es) = nonEmpty es := by simp [nonEmpty, h]

theorem nonEmpty_cons_of_ne {es : List Entry} (h : e.2 ≠ []) :
    nonEmpty (e :: es) = e :: nonEmpty es := by simp [nonEmpty, h]

/-- The loop skips the records without gnos. -/
theorem encodeFrom_nonEmpty {cells : Arena UuidSet} (mem : Bytes) (buf maxlen len : Nat)
    (first : Bool) (h : ∀ c ∈ l, Holds cells c) :
    encodeFrom cells buf maxlen (l.map Prod.fst) first mem len =
      encodeFrom cells buf maxlen ((nonEmptyCells l).map Prod.fst) first mem len := by
  induction l generalizing mem len first with
  | nil => rfl
  | cons c l ih =>
    obtain ⟨u, hu, hrec⟩ := (h c (by simp)).recordOf
    have hl : ∀ mem len first, _ := fun mem len first =>
      ih mem len first (fun d hd => h d (by simp [hd]))
    by_cases hnil : c.2.2 = []
    · rw [List.map_cons, encodeFrom, hu, nonEmptyCells, List.filter_cons_of_neg (by simp [hnil])]
      simp only [Option.bind_eq_bind, Option.bind_some, if_pos (hrec.count.mpr hnil)]
      exact hl mem len first
    · rw [nonEmptyCells, List.filter_cons_of_pos (by simp [hnil])]
      simp only [List.map_cons, encodeFrom, hl]
      rfl

/-- **The loop over the records behind the first.**  A record that does not fit is left
out; the next one is written over its separator. -/
theorem encodeRest_spec {cells : Arena UuidSet} (mem : Bytes) (buf maxlen len : Nat)
    (h : ∀ c ∈ l, Holds cells c ∧ c.2.2 ≠ []) (hlt : len < maxlen)
    (hroom : buf + maxlen ≤ mem.length)
    (hlen : buf + maxlen < 2 ^ 63 ∨ buf + len + (restText (l.map Prod.snd)).length < 2 ^ 63) :
    ∃ mem' text, encodeFrom cells buf maxlen (l.map Prod.fst) false mem len =
        some (mem', ((len + text.length : Nat) : Int)) ∧
      Written mem mem' (buf + len) text ∧
      Partly (RestFits (l.map Prod.snd) (maxlen - len)) (restText (l.map Prod.snd)) text := by
  induction l generalizing mem len with
  | nil =>
    have hlen' : len < 2 ^ 63 := by omega
    exact ⟨mem, [], by rw [List.map_nil, encodeFrom, llong_natCast hlen']; rfl,
      Written.nil (by omega), fun _ => rfl, fun hno => absurd trivial hno⟩
  | cons c l ih =>
    obtain ⟨hc, hne⟩ := h c (by simp)
    obtain ⟨u, hu, hrec⟩ := hc.recordOf
    have hl : ∀ d ∈ l, Holds cells d ∧ d.2.2 ≠ [] := fun d hd => h d (by simp [hd])
    have hcount : ¬ uuidSetCount u = 0 := fun hzero => hne (hrec.count.mp hzero)
    have hnext : sizeT ((len : Int) + 1) = len + 1 := sizeT_add (a := len) (b := 1) (by omega)
    have hpos : sizeT ((buf : Int) + len) = buf + len := sizeT_add (by omega)
    have hpos' : sizeT ((buf : Int) + ((len + 1 : Nat) : Int)) = buf + (len + 1) :=
      sizeT_add (by omega)
    have hleft : subSize maxlen (len + 1) = maxlen - (len + 1) := if_pos (by omega)
    have hguard : ¬ (¬ False ∧ len + 1 > maxlen) := fun hno => Nat.not_le.mpr hno.2 hlt
    rw [List.map_cons, length_restText_cons] at hlen
    obtain ⟨mem₁, hsplit, hw₁⟩ := memcpy_written mem [split] (buf + len)
      (by rw [List.length_singleton]; omega)
    have hlen₁ := hw₁.length
    simp only [List.map_cons, encodeFrom, hu, Option.bind_eq_bind, Option.bind_some,
      if_neg hcount, if_neg hguard, encodeSplit, Bool.false_eq_true, if_false, hpos, hsplit, hnext,
      hpos', hleft]
    by_cases hfails : RecordFails c.2 (maxlen - (len + 1))
    · obtain ⟨mem₂, hencode, hw₂⟩ := uuidSetEncode_fails mem₁ (buf + (len + 1))
        (maxlen - (len + 1)) hrec hfails (by omega)
      have hlen₂ := hw₂.length
      have hback : sizeT (((len + 1 : Nat) : Int) + (sizeT (-1) : Nat)) = len :=
        sizeT_add_failed (by omega)
      obtain ⟨mem₃, text, hrest, hw₃, hpart⟩ := ih mem₂ len hl hlt (by omega) (by omega)
      refine ⟨mem₃, text, ?_, ?_, ?_⟩
      · simp only [hencode, Option.bind_some, Nat.not_lt_zero, if_false, hback, hrest]
      · -- the separator is overwritten
        exact (hw₁.trans hw₂ (Nat.add_assoc _ _ _).symm).overwrite hw₃
      · rw [RestFits, Nat.sub_sub]
        refine ⟨fun hall => absurd hall.1 hfails.not_fits, fun _ => ?_⟩
        have := hpart.length_le
        rw [length_restText_cons]
        omega
    · obtain ⟨mem₂, record, hencode, hw₂, hrecord, hbelow⟩ := uuidSetEncode_spec mem₁
        (buf + (len + 1)) (maxlen - (len + 1)) hrec hfails (by omega) (by omega)
      have hlen₂ := hw₂.length
      have hrecordlen := hrecord.length_le
      have hlt₂ := hbelow hne
      have hret : sizeT (record.length : Int) = record.length := sizeT_natCast (by omega)
      have hadd : sizeT (((len + 1 : Nat) : Int) + (record.length : Nat)) =
          len + 1 + record.length := sizeT_add (by omega)
      obtain ⟨mem₃, text, hrest, hw₃, hpart⟩ := ih mem₂ (len + 1 + record.length) hl (by omega)
        (by omega) (by omega)
      refine ⟨mem₃, [split] ++ (record ++ text), ?_, ?_, ?_⟩
      · simp only [hencode, Option.bind_some, hret, Nat.not_lt_zero, if_false, hadd, hrest]
        rw [List.length_append, List.length_append, List.length_singleton]
        simp only [Nat.add_assoc]
      · refine hw₁.trans (hw₂.trans hw₃ ?_) (Nat.add_assoc _ _ _).symm
        rw [Nat.add_assoc, Nat.add_assoc, Nat.add_assoc]
      · rw [RestFits, Nat.sub_sub]
        by_cases hfits : RecordFits c.2 (maxlen - (len + 1))
        · have hwhole := hrecord.whole hfits
          have hleft₂ : maxlen - len - (1 + (uuidSetText c.2).length) =
              maxlen - (len + 1 + record.length) := by
            rw [hwhole]
            omega
          rw [hleft₂]
          refine ⟨fun hall => by rw [hpart.whole hall.2, hwhole, restText_cons], fun hno => ?_⟩
          have := hpart.short (fun hall => hno ⟨hfits, hall⟩)
          rw [length_restText_cons]
          simp only [List.length_append, List.length_singleton]
          omega
        · refine ⟨fun hall => absurd hall.1 hfits, fun _ => ?_⟩
          have h₁ := hrecord.short hfits
          have h₂ := hpart.length_le
          rw [length_restText_cons]
          simp only [List.length_append, List.length_singleton]
          omega

section First
variable {cells : Arena UuidSet} {c : Addr × Entry}

/-- **The first record does not fit at all.**  The length wraps around: alone the record
makes the call fail, with another one the separator is written in front of the buffer. -/
theorem encodeFrom_fails (mem : Bytes) (maxlen : Nat)
    (h : ∀ d ∈ c :: l, Holds cells d ∧ d.2.2 ≠ []) (hfails : RecordFails c.2 maxlen)
    (hroom : maxlen ≤ mem.length) (hlen : mem.length < 2 ^ 63) :
    if l = [] then
      ∃ mem', encodeFrom cells 0 maxlen ((c :: l).map Prod.fst) true mem 0 = some (mem', -1)
    else encodeFrom cells 0 maxlen ((c :: l).map Prod.fst) true mem 0 = none := by
  obtain ⟨hc, hne⟩ := h c (by simp)
  obtain ⟨u, hu, hrec⟩ := hc.recordOf
  have hcount : ¬ uuidSetCount u = 0 := fun hzero => hne (hrec.count.mp hzero)
  obtain ⟨mem₁, hencode, hw⟩ := uuidSetEncode_fails mem 0 maxlen hrec hfails (by omega)
  have hlen₁ := hw.length
  have hwrap : sizeT (((0 : Nat) : Int) + (sizeT (-1) : Nat)) = 2 ^ 64 - 1 := by decide
  have hstart : sizeT (((0 : Nat) : Int) + ((0 : Nat) : Int)) = 0 := by decide
  have hleft : subSize maxlen 0 = maxlen := if_pos (Nat.zero_le _)
  cases l with
  | nil =>
    rw [if_pos rfl]
    refine ⟨mem₁, ?_⟩
    have hllong : llong (((2 ^ 64 - 1 : Nat)) : Int) = -1 := by decide
    simp only [List.map_cons, List.map_nil, encodeFrom, hu, Option.bind_eq_bind, Option.bind_some,
      if_neg hcount, encodeSplit, not_true_eq_false, false_and, if_false, if_true, hstart, hleft,
      hencode, Nat.not_lt_zero, hwrap, hllong]
  | cons d l =>
    obtain ⟨hd, hdne⟩ := h d (by simp)
    obtain ⟨v, hv, hrecv⟩ := hd.recordOf
    have hcountv : ¬ uuidSetCount v = 0 := fun hzero => hdne (hrecv.count.mp hzero)
    have hpos : sizeT (((0 : Nat) : Int) + ((2 ^ 64 - 1 : Nat) : Int)) = 2 ^ 64 - 1 := by decide
    have hnext : sizeT (((2 ^ 64 - 1 : Nat) : Int) + 1) = 0 := by decide
    have hout : memcpy mem₁ (2 ^ 64 - 1) [split] = none := by
      rw [memcpy, if_neg (by rw [List.length_singleton]; omega)]
    rw [if_neg (List.cons_ne_nil d l)]
    simp only [List.map_cons, encodeFrom, hu, hv, Option.bind_eq_bind, Option.bind_some,
      if_neg hcount, if_neg hcountv, encodeSplit, not_true_eq_false, false_and, if_false, if_true,
      hstart, hleft, hencode, Nat.not_lt_zero, hwrap, hpos, hnext, hout, Bool.false_eq_true,
      gt_iff_lt, and_false, Option.bind_none]

/-- The first record fits at least in part. -/
theorem encodeFrom_spec (mem : Bytes) (buf maxlen : Nat)
    (h : ∀ d ∈ c :: l, Holds cells d ∧ d.2.2 ≠ []) (hfails : ¬ RecordFails c.2 maxlen)
    (hroom : buf + maxlen ≤ mem.length)
    (hlen : buf + maxlen < 2 ^ 63 ∨
      buf + (gtidSetText ((c :: l).map Prod.snd)).length < 2 ^ 63) :
    ∃ mem' text, encodeFrom cells buf maxlen ((c :: l).map Prod.fst) true mem 0 =
        some (mem', (text.length : Int)) ∧
      Written mem mem' buf text ∧
      Partly (EntriesFit ((c :: l).map Prod.snd) maxlen) (gtidSetText ((c :: l).map Prod.snd))
        text := by
  obtain ⟨hc, hne⟩ := h c (by simp)
  obtain ⟨u, hu, hrec⟩ := hc.recordOf
  have hcount : ¬ uuidSetCount u = 0 := fun hzero => hne (hrec.count.mp hzero)
  have htext : gtidSetText ((c :: l).map Prod.snd) =
      uuidSetText c.2 ++ restText (l.map Prod.snd) := rfl
  have htextlen : (gtidSetText ((c :: l).map Prod.snd)).length =
      (uuidSetText c.2).length + (restText (l.map Prod.snd)).length := by
    rw [htext, List.length_append]
  rw [htextlen] at hlen
  obtain ⟨mem₁, record, hencode, hw₁, hrecord, hbelow⟩ := uuidSetEncode_spec mem buf maxlen hrec
    hfails hroom (by omega)
  have hlen₁ := hw₁.length
  have hrecordlen := hrecord.length_le
  have hlt := hbelow hne
  have hpos : sizeT ((buf : Int) + ((0 : Nat) : Int)) = buf := by
    have := sizeT_add (a := buf) (b := 0) (by omega)
    exact this
  have hleft : subSize maxlen 0 = maxlen := if_pos (Nat.zero_le _)
  have hret : sizeT (record.length : Int) = record.length := sizeT_natCast (by omega)
  have hadd : sizeT (((0 : Nat) : Int) + (record.length : Nat)) = record.length := by
    have := sizeT_add (a := 0) (b := record.length) (by omega)
    rw [this, Nat.zero_add]
  have hl : ∀ d ∈ l, Holds cells d ∧ d.2.2 ≠ [] := fun d hd => h d (by simp [hd])
  obtain ⟨mem₂, text, hrest, hw₂, hpart⟩ := encodeRest_spec mem₁ buf maxlen record.length hl hlt (by omega) (by omega)
  refine ⟨mem₂, record ++ text, ?_, hw₁.trans hw₂ rfl, ?_⟩
  · simp only [List.map_cons, encodeFrom, hu, Option.bind_eq_bind, Option.bind_some, if_neg hcount,
      encodeSplit, not_true_eq_false, false_and, if_false, if_true, hpos, hleft, hencode, hret,
      Nat.not_lt_zero, hadd, hrest, List.length_append]
  · rw [List.map_cons, entriesFit_cons, ← List.map_cons, htext]
    by_cases hfits : RecordFits c.2 maxlen
    · have hwhole := hrecord.whole hfits
      rw [← hwhole]
      refine ⟨fun hall => by rw [hpart.whole hall.2], fun hno => ?_⟩
      have := hpart.short (fun hall => hno ⟨hfits, hall⟩)
      rw [List.length_append, List.length_append]
      omega
    · refine ⟨fun hall => absurd hall.1 hfits, fun _ => ?_⟩
      have h₁ := hrecord.short hfits
      have h₂ := hpart.length_le
      rw [List.length_append, List.length_append]
      omega

end First

/-! ## The buffer of the estimated size -/

def sizes (es : List Entry) : Nat := (es.map (fun e => entrySize e + 1)).sum

theorem sizes_cons (e : Entry) (es : List Entry) : sizes (e :: es) = entrySize e + 1 + sizes es := by
  rw [sizes, sizes, List.map_cons, List.sum_cons]

theorem foldl_sizes {cells : Arena UuidSet} (h : ∀ c ∈ l, Holds cells c) (n : Nat) :
    (l.map Prod.fst).foldl (fun maxLen a => maxLen +
      (((cells.get a).map uuidSetEstimatedEncodeBufferSize).getD 0 + 1)) n =
        n + sizes (l.map Prod.snd) := by
  induction l generalizing n with
  | nil => rfl
  | cons c l ih =>
    obtain ⟨u, hu, hrec⟩ := (h c (by simp)).recordOf
    rw [List.map_cons, List.foldl_cons, hu, ih (fun d hd => h d (by simp [hd])), Option.map_some,
      Option.getD_some, hrec.estimated, List.map_cons, sizes_cons, Nat.add_assoc]

theorem SetRep.estimated (h : SetRep s l) :
    gtidSetEstimatedEncodeBufferSize s = 1 + sizes (l.map Prod.snd) := by
  rw [gtidSetEstimatedEncodeBufferSize, h.uuidSets_eq]
  exact foldl_sizes h.holds 1

theorem RecordOf.fits (h : RecordOf u e) {room : Nat} (hroom : entrySize e ≤ room) :
    RecordFits e room := by
  unfold entrySize at hroom
  exact ⟨by omega, intervalsFit_of_estimate h.valid (by omega)⟩

theorem restFits_of_sizes {cells : Arena UuidSet} {room : Nat} (h : ∀ c ∈ l, Holds cells c)
    (hroom : sizes (l.map Prod.snd) ≤ room) : RestFits (nonEmpty (l.map Prod.snd)) room := by
  induction l generalizing room with
  | nil => trivial
  | cons c l ih =>
    obtain ⟨u, -, hrec⟩ := (h c (by simp)).recordOf
    have hl : ∀ d ∈ l, Holds cells d := fun d hd => h d (by simp [hd])
    have hlen := hrec.length_le
    rw [List.map_cons, sizes_cons] at hroom
    rw [List.map_cons]
    by_cases hnil : c.2.2 = []
    · rw [nonEmpty_cons_of_nil hnil]
      exact ih hl (by omega)
    · rw [nonEmpty_cons_of_ne hnil]
      exact ⟨hrec.fits (by omega), ih hl (by omega)⟩

theorem SetRep.nonEmptyCells (h : SetRep s l) :
    ∀ c ∈ nonEmptyCells l, Holds s.uuidSetCells c ∧ c.2.2 ≠ [] := fun c hc => by
  rw [XredisGtid.nonEmptyCells, List.mem_filter, decide_eq_true_iff] at hc
  exact ⟨h.holds c hc.1, hc.2⟩

theorem SetRep.encode (h : SetRep s l) (mem : Bytes) (buf maxlen : Nat) :
    gtidSetEncode mem buf maxlen s =
      encodeFrom s.uuidSetCells buf maxlen ((XredisGtid.nonEmptyCells l).map Prod.fst) true mem 0 := by
  rw [gtidSetEncode, h.uuidSets_eq, encodeFrom_nonEmpty mem buf maxlen 0 true h.holds]

/-- **Encoding a gtid set** in a buffer of the estimated size succeeds. -/
theorem gtidSetEncode_spec (mem : Bytes) (buf maxlen : Nat) (h : SetRep s l)
    (hmax : gtidSetEstimatedEncodeBufferSize s ≤ maxlen) (hroom : buf + maxlen ≤ mem.length)
    (hlen : buf + (gtidSetText (nonEmpty (l.map Prod.snd))).length < 2 ^ 63) :
    ∃ mem', gtidSetEncode mem buf maxlen s = some (mem',
        ((gtidSetText (nonEmpty (l.map Prod.snd))).length : Int)) ∧
      Written mem mem' buf (gtidSetText (nonEmpty (l.map Prod.snd))) := by
  have hsizes := h.estimated
  have hfits : EntriesFit (nonEmpty (l.map Prod.snd)) maxlen :=
    restFits_of_sizes h.holds (by omega)
  have hcells := h.nonEmptyCells
  rw [h.encode]
  rw [← nonEmptyCells_map] at hlen hfits ⊢
  cases hc : XredisGtid.nonEmptyCells l with
  | nil => exact ⟨mem, rfl, Written.nil (by omega)⟩
  | cons c l' =>
    rw [hc] at hlen hfits hcells
    have hfails : ¬ RecordFails c.2 maxlen := fun hno =>
      hno.not_fits ((entriesFit_cons c.2 _ maxlen).mp hfits).1
    obtain ⟨mem', text, hencode, hw, hpart⟩ := encodeFrom_spec mem buf maxlen hcells hfails hroom
      (Or.inr hlen)
    rw [← hpart.whole hfits]
    exact ⟨mem', hencode, hw⟩

/-! ## Small buffers -/

/-- A call on a buffer of its own, outside of which a write fails: it returns `-1`, or
the length of the text, which the buffer then starts with. -/
def AllOrNothing (buf text : Bytes) (result : Option (Bytes × Int)) : Prop :=
  ∃ mem' n, result = some (mem', n) ∧
    (n = -1 ∨ (n = text.length ∧ text.length ≤ buf.length ∧ mem'.take text.length = text))

theorem Partly.allOrNothing {buf mem' full text : Bytes} {fits : Prop}
    (h : Partly fits full text) (hw : Written buf mem' 0 text) :
    AllOrNothing buf full (some (mem', (text.length : Int))) ↔ fits := by
  have hbound := hw.bound
  have htake := hw.take
  rw [Nat.zero_add] at hbound htake
  constructor
  · rintro ⟨mem₁, n, hres, hn⟩
    obtain ⟨rfl, rfl⟩ := Prod.mk.inj (Option.some.inj hres)
    by_contra hno
    have hshort := h.short hno
    rcases hn with hn | ⟨hn, -⟩
    · omega
    · omega
  · intro hfits
    rw [← h.whole hfits]
    exact ⟨mem', _, rfl, Or.inr ⟨rfl, hbound, htake⟩⟩

theorem allOrNothing_failed (buf text mem' : Bytes) :
    AllOrNothing buf text (some (mem', -1)) := ⟨mem', -1, rfl, Or.inl rfl⟩

theorem uuidSetEncode_allOrNothing (h : RecordOf u e) (buf : Bytes) (hlen : buf.length < 2 ^ 63) :
    AllOrNothing buf (uuidSetText e) (uuidSetEncode buf 0 buf.length u) ↔
      RecordFits e buf.length ∨ RecordFails e buf.length := by
  by_cases hfails : RecordFails e buf.length
  · obtain ⟨mem', hencode, -⟩ := uuidSetEncode_fails buf 0 buf.length h hfails (by omega)
    rw [hencode]
    exact iff_of_true (allOrNothing_failed _ _ _) (Or.inr hfails)
  · obtain ⟨mem', text, hencode, hw, hpart, -⟩ := uuidSetEncode_spec buf 0 buf.length h hfails
      (by omega) (Or.inl hlen)
    rw [hencode, hpart.allOrNothing hw, or_iff_left hfails]

/-- **Encoding is all or nothing** just when every number is given the room of the
longest, or no room is left behind the uuid of the only record. -/
theorem encode_allOrNothing_iff (buf : Bytes) (hlen : buf.length < 2 ^ 63) :
    (∀ s l, SetRep s l →
      (AllOrNothing buf (gtidSetText (nonEmpty (entries s))) (gtidSetEncode buf 0 buf.length s) ↔
        EntriesFit (nonEmpty (entries s)) buf.length ∨
        ∃ e, nonEmpty (entries s) = [e] ∧ buf.length ≤ e.1.length)) ∧
    ∀ u, WF u.intervals →
      (AllOrNothing buf (uuidSetText (u.uuid, intervals u.intervals))
          (uuidSetEncode buf 0 buf.length u) ↔
        RecordFits (u.uuid, intervals u.intervals) buf.length ∨
        RecordFails (u.uuid, intervals u.intervals) buf.length) := by
  constructor
  · intro s l h
    have hcells := h.nonEmptyCells
    rw [h.entries_eq, h.encode, ← nonEmptyCells_map]
    cases hc : nonEmptyCells l with
    | nil =>
      refine iff_of_true ⟨buf, 0, rfl, Or.inr ⟨rfl, Nat.zero_le _, rfl⟩⟩ (Or.inl trivial)
    | cons c l' =>
      rw [hc] at hcells
      have hne := (hcells c (by simp)).2
      by_cases hfails : RecordFails c.2 buf.length
      · have hunfit : ¬ EntriesFit ((c :: l').map Prod.snd) buf.length := fun hno =>
          hfails.not_fits ((entriesFit_cons c.2 _ _).mp hno).1
        have hresult := encodeFrom_fails buf buf.length hcells hfails (Nat.le_refl _) hlen
        rw [or_iff_right hunfit]
        cases l' with
        | nil =>
          obtain ⟨mem', hencode⟩ := hresult
          rw [hencode]
          exact iff_of_true (allOrNothing_failed _ _ _)
            ⟨c.2, rfl, (recordFails_iff hne).mp hfails⟩
        | cons d l' =>
          have hencode : encodeFrom s.uuidSetCells 0 buf.length ((c :: d :: l').map Prod.fst) true
              buf 0 = none := hresult
          rw [hencode]
          refine iff_of_false ?_ ?_
          · rintro ⟨mem', n, hres, -⟩
            cases hres
          · rintro ⟨e, he, -⟩
            cases he
      · obtain ⟨mem', text, hencode, hw, hpart⟩ := encodeFrom_spec buf 0 buf.length hcells hfails
          (by omega) (by omega)
        rw [hencode, hpart.allOrNothing hw, or_iff_left]
        rintro ⟨e, he, hle⟩
        have hce : c.2 = e := (List.cons.inj he).1
        exact hfails ((recordFails_iff hne).mpr (hce ▸ hle))
  · exact fun u h => uuidSetEncode_allOrNothing ⟨rfl, h, rfl⟩ buf hlen

theorem encode_allOrNothing_five :
    ∃ s, entries s = [([65], [(1, 5)])] ∧
      (AllOrNothing [0, 0, 0, 0, 0] [65, 58, 49, 45, 53] (gtidSetEncode [0, 0, 0, 0, 0] 0 5 s) ↔
        EntriesFit [([65], [(1, 5)])] 5 ∨
        ∃ e : Entry, [(([65] : Bytes), [((1 : Int), (5 : Int))])] = [e] ∧ 5 ≤ e.1.length) := by
  obtain ⟨s, l, -, hrep, hl, -⟩ := gtidSetAdd_rep setRep_new [65] List.nodup_nil
    (fun _ he => absurd he List.not_mem_nil) (show (1 : Int) ≤ 1 by decide)
    (show (1 : Int) ≤ 5 by decide) (by decide) (fun _ => 0)
  have hl : l.map Prod.snd = [([65], [(1, 5)])] := hl
  have hes : entries s = [([65], [(1, 5)])] := hrep.entries_eq.trans hl
  refine ⟨s, hes, ?_⟩
  have hiff := (encode_allOrNothing_iff [0, 0, 0, 0, 0] (by decide)).1 s l hrep
  rw [hes] at hiff
  have htext : gtidSetText (nonEmpty [([65], [(1, 5)])]) = [65, 58, 49, 45, 53] := by decide
  rw [htext] at hiff
  exact hiff

/-- Ten bytes are enough for `A:1-5` and get `A` with the length `1`; the text of two
uuids of which the first fills the buffer is started in front of the buffer. -/
theorem gtidSetEncode_short :
    ∃ s t, gtidSetAdd gtidSetNew [65] 1 5 (fun _ => 0) = some (s, 5) ∧
      gtidSetText (nonEmpty (entries s)) = [65, 58, 49, 45, 53] ∧
      gtidSetEncode (List.replicate 10 0) 0 10 s = some ([65, 58, 0, 0, 0, 0, 0, 0, 0, 0], 1) ∧
      gtidSetAdd s [66] 7 7 (fun _ => 0) = some (t, 1) ∧ gtidSetEncode [0] 0 1 t = none :=
  ⟨_, _, rfl, by decide +kernel, by decide +kernel, rfl, by decide +kernel⟩

end Encode

end XredisGtid
