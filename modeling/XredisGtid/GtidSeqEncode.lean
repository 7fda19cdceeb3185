import XredisGtid.GtidSeqBook
import XredisGtid.GtidDecode

/-!
# The text of the sequence

GTIDX SEQ replies with the first and the last segment of the sequence,

  uuid:[gno=offset,gno=offset,…];...;uuid:[gno=offset,…]

which `gtidSeqEncode` writes with one `snprintf` after the other, each to what the ones
before have left of the buffer.  They are not checked: the size of the buffer,
`gtidSeqEstimatedEncodeBufferSize`, is to be enough, with 42 bytes for a gtid.
-/
namespace XredisGtid
open Memory Buffer Decimal OffsetLog

/-! ## Printing -/

/-- `snprintf` of a text to the `size` bytes at `buf`.  It returns an `int`, which is
negative for a text too long for one; what has been written then is of no concern. -/
def snprintf (mem : Bytes) (buf size : Nat) (text : Bytes) : Option (Bytes × Int) := do
  let result := if text.length < 2147483648 then (text.length : Int) else -1
  if size = 0 then some (mem, result)
  else
    let mem ← memcpy mem buf (text.take (size - 1) ++ [0])
    some (mem, result)

/-- `len += snprintf(buf+len,maxlen-len,…)` -/
def printAt (mem : Bytes) (buf maxlen len : Nat) (text : Bytes) : Option (Bytes × Nat) := do
  let (mem, n) ← snprintf mem (buf + len) (subSize maxlen len) text
  some (mem, sizeT (len + n))

/-- Texts one after the other. -/
def printAll (buf maxlen : Nat) : List Bytes → Bytes → Nat → Option (Bytes × Nat)
  | [], mem, len => some (mem, len)
  | text :: texts, mem, len => do
    let (mem, len) ← printAt mem buf maxlen len text
    printAll buf maxlen texts mem len

/-! ## Encoding -/

def openBracket : UInt8 := '['.toUInt8
def closeBracket : UInt8 := ']'.toUInt8
def equalsSign : UInt8 := '='.toUInt8

/-- `"%.*s:["`, where a negative precision is as good as none. -/
def segmentHead (seg : GtidSegment) : Bytes :=
  let precision := intOfSize seg.uuid.length
  let uuid := seg.uuid.takeWhile (fun c => c ≠ 0)
  (if precision < 0 then uuid else uuid.take precision.toNat) ++ [colon, openBracket]

/-- `"%llu=%llu,"` -/
def gtidText (gno offset : Int) : Bytes :=
  decimal (sizeT gno) ++ equalsSign :: decimal (sizeT offset) ++ [split]

/-- `";...;"` -/
def ellipsis : Bytes :=
  [';'.toUInt8, '.'.toUInt8, '.'.toUInt8, '.'.toUInt8, ';'.toUInt8]

/-- <uuid>:[<gno_1>=<offset_1>,<gno_2>=<offset_2>,...] -/
def gtidSegmentEstimatedEncodeBufferSize (seg : GtidSegment) : Nat :=
  sizeT (seg.uuid.length + 1 /- uuid: -/ + 2 /- [] -/ +
    subSize seg.ngno seg.tgno * (20 + 1 + 20 + 1) /- <gno_i>=<offset_i>, -/)

/-- The loop of `gtidSegmentEncode`. -/
def encodeGtids (buf maxlen : Nat) (seg : GtidSegment) :
    Nat → Nat → Bytes → Nat → Option (Bytes × Nat)
  | 0, _, mem, len => some (mem, len)
  | left + 1, i, mem, len => do
    let offset ← offsetAt seg i
    let (mem, len) ← printAt mem buf maxlen len (gtidText (llong (seg.baseGno + i)) offset)
    encodeGtids buf maxlen seg left (i + 1) mem len

def gtidSegmentEncode (mem : Bytes) (buf maxlen : Nat) (seg : GtidSegment) :
    Option (Bytes × Nat) := do
  let (mem, len) ← printAt mem buf maxlen 0 (segmentHead seg)
  let (mem, len) ← encodeGtids buf maxlen seg (seg.ngno - seg.tgno) seg.tgno mem len
  printAt mem buf maxlen len [closeBracket]

def gtidSeqEstimatedEncodeBufferSize (seq : GtidSeq) : Option Nat := do
  let len ← match seq.firstseg with
    | some first => (seq.segments.get first).map gtidSegmentEstimatedEncodeBufferSize
    | none => some 0
  if seq.lastseg ≠ seq.firstseg then
    let last ← seq.segments.get (← seq.lastseg)
    some (sizeT (len + 5 /- ;...; -/ + gtidSegmentEstimatedEncodeBufferSize last))
  else some len

/-- <first_seg>;...;<last_seg> -/
def gtidSeqEncode (mem : Bytes) (buf maxlen : Nat) (seq : GtidSeq) : Option (Bytes × Int) := do
  let (mem, len) ← match seq.firstseg with
    | some first => do gtidSegmentEncode mem buf maxlen (← seq.segments.get first)
    | none => some (mem, 0)
  if seq.lastseg ≠ seq.firstseg then
    let (mem, len) ← printAt mem buf maxlen len ellipsis
    let last ← seq.segments.get (← seq.lastseg)
    let (mem, n) ← gtidSegmentEncode mem (buf + len) (subSize maxlen len) last
    some (mem, llong (sizeT (len + n)))
  else some (mem, llong len)

/-! ## The text -/

/-- What `gtidSegmentEncode` is to print. -/
def segmentTexts (seg : GtidSegment) : List Bytes :=
  (seg.uuid ++ [colon, openBracket]) ::
    (segmentEntries seg).map (fun e => gtidText e.gno e.offset) ++ [[closeBracket]]

def segmentTextsAt (segments : Arena GtidSegment) (p : Option Addr) : List Bytes :=
  ((p.bind segments.get).map segmentTexts).getD []

/-- What `gtidSeqEncode` is to print, call by call. -/
def gtidSeqTexts (seq : GtidSeq) : List Bytes :=
  segmentTextsAt seq.segments seq.firstseg ++
    if seq.lastseg ≠ seq.firstseg then ellipsis :: segmentTextsAt seq.segments seq.lastseg else []

/-- What is left of a buffer behind texts that are printed to it. -/
def remaining : List Bytes → Bytes → Bytes
  | [], old => old
  | text :: texts, old => remaining texts (0 :: old.drop (text.length + 1))

section Print
variable {a b done old text t : Bytes} {texts texts' : List Bytes} {buf maxlen len : Nat}
  {mem : Bytes}

theorem subSize_le {m n : Nat} (h : n ≤ m) : subSize m n = m - n := if_pos h

theorem printAll_singleton : printAll buf maxlen [text] mem len = printAt mem buf maxlen len text := by
  rw [printAll, Option.bind_eq_bind]
  exact Option.bind_fun_some _

theorem printAll_append (texts texts' : List Bytes) (mem : Bytes) (len : Nat) :
    printAll buf maxlen (texts ++ texts') mem len =
      (printAll buf maxlen texts mem len).bind (fun r => printAll buf maxlen texts' r.1 r.2) := by
  induction texts generalizing mem len with
  | nil => rfl
  | cons text texts ih =>
    rw [List.cons_append, printAll, printAll]
    cases printAt mem buf maxlen len text with
    | none => rfl
    | some r => exact ih r.1 r.2

theorem remaining_append (texts texts' : List Bytes) (old : Bytes) :
    remaining (texts ++ texts') old = remaining texts' (remaining texts old) := by
  induction texts generalizing old with
  | nil => rfl
  | cons text texts ih => exact ih _

theorem length_remaining (old : Bytes) (hfit : texts.flatten.length < old.length) :
    texts.flatten.length + (remaining texts old).length = old.length := by
  induction texts generalizing old with
  | nil => exact Nat.zero_add _
  | cons text texts ih =>
    rw [List.flatten_cons, List.length_append] at hfit ⊢
    have hlen : (0 :: old.drop (text.length + 1)).length = old.length - text.length := by
      rw [List.length_cons, List.length_drop]
      omega
    have := ih (0 :: old.drop (text.length + 1)) (by omega)
    rw [remaining]
    omega

/-- **A text that fits** is appended to what is printed, with a zero behind it. -/
theorem printAt_fits (a b done old text : Bytes) (hint : text.length < 2147483648)
    (hfit : text.length < old.length) (hsize : done.length + old.length < 2 ^ 64) :
    printAt (a ++ (done ++ old) ++ b) a.length (done.length + old.length) done.length text =
      some (a ++ (done ++ text ++ 0 :: old.drop (text.length + 1)) ++ b, (done ++ text).length) := by
  obtain ⟨o, z, rest, rfl, ho⟩ := exists_split_cons old text.length hfit
  have hroom : subSize (done.length + (o ++ z :: rest).length) done.length =
      (o ++ z :: rest).length := by
    rw [subSize_le (Nat.le_add_right _ _), Nat.add_sub_cancel_left]
  have hrest : (o ++ z :: rest).drop (text.length + 1) = rest := by
    rw [List.append_cons, List.drop_left' (by simp [ho])]
  have hcopy : memcpy (a ++ (done ++ (o ++ z :: rest)) ++ b) (a.length + done.length) (text ++ [0]) =
      some (a ++ (done ++ text ++ 0 :: rest) ++ b) := by
    have := memcpy_append (a := a ++ done) (b := rest ++ b)
      (show (o ++ [z]).length = (text ++ [0]).length by
        rw [List.length_append, List.length_append, ho, List.length_singleton,
          List.length_singleton])
    rw [List.length_append] at this
    simpa using this
  have hpos : (o ++ z :: rest).length ≠ 0 := by simp
  have htake : text.take ((o ++ z :: rest).length - 1) = text := by
    apply List.take_of_length_le
    omega
  rw [printAt, hroom, snprintf, if_neg hpos, htake, hcopy, if_pos hint, hrest]
  simp only [Option.bind_eq_bind, Option.bind_some]
  rw [sizeT_add (by omega), List.length_append]

/-- **Texts that fit together** are printed one behind the other. -/
theorem printAll_fits (a b done old : Bytes) (hint : ∀ t ∈ texts, t.length < 2147483648)
    (hfit : texts.flatten.length < old.length) (hsize : done.length + old.length < 2 ^ 64) :
    printAll a.length (done.length + old.length) texts (a ++ (done ++ old) ++ b) done.length =
      some (a ++ (done ++ texts.flatten ++ remaining texts old) ++ b,
        (done ++ texts.flatten).length) := by
  induction texts generalizing done old with
  | nil => simp [printAll, remaining]
  | cons text texts ih =>
    rw [List.flatten_cons, List.length_append] at hfit
    have hprint := printAt_fits a b done old text (hint text (by simp)) (by omega) hsize
    have hmax : done.length + old.length =
        (done ++ text).length + (0 :: old.drop (text.length + 1)).length := by
      rw [List.length_append, List.length_cons, List.length_drop]
      omega
    have hrec := ih (done ++ text) (0 :: old.drop (text.length + 1))
      (fun t ht => hint t (by simp [ht]))
      (by rw [List.length_cons, List.length_drop]; omega) (hmax ▸ hsize)
    rw [printAll, hprint, Option.bind_eq_bind, Option.bind_some]
    dsimp only
    rw [hmax, hrec, List.flatten_cons, List.append_assoc done, remaining]

end Print

/-! ## A segment -/

/-- A gtid of a run: a positive gno at an offset, and a uuid that is a string. -/
structure RunGtid (e : LogEntry) : Prop where
  gno : 1 ≤ e.gno ∧ e.gno ≤ LLONG_MAX
  offset : 0 ≤ e.offset ∧ e.offset ≤ LLONG_MAX
  uuid : 0 ∉ e.uuid

/-- Its uuid and the two characters behind it have a length that is an `int`. -/
def ShortUuid (e : LogEntry) : Prop := e.uuid.length + 2 < 2147483648

section Segment
variable {seg : GtidSegment} {buf maxlen : Nat}

/-- The offsets of a segment are different 16-bit distances from its base. -/
theorem SegmentFilled.ngno_le (h : SegmentFilled seg) : seg.ngno ≤ SEGMENT_SIZE := by
  have hge : ∀ i < seg.ngno, seg.baseOffset + i ≤ (entryAt seg i).offset := by
    intro i hi
    induction i with
    | zero =>
      rw [h.baseOffset]
      omega
    | succ i ih =>
      have := ih (by omega)
      have := h.ordered i (i + 1) (by omega) hi
      push_cast
      omega
  have hpos := h.nonempty
  have hlast := hge (seg.ngno - 1) (by omega)
  have hle := (h.base_le (i := seg.ngno - 1) (by omega)).2
  unfold SEGMENT_SIZE
  omega

theorem segmentHead_eq (hnul : 0 ∉ seg.uuid) (hlen : seg.uuid.length < 2 ^ 31) :
    segmentHead seg = seg.uuid ++ [colon, openBracket] := by
  have hwhole : seg.uuid.takeWhile (fun c => c ≠ 0) = seg.uuid := by
    rw [List.takeWhile_eq_self_iff]
    intro c hc
    exact decide_eq_true (fun hzero => hnul (hzero ▸ hc))
  rw [segmentHead, hwhole, intOfSize_natCast hlen, Int.toNat_natCast, List.take_length, ite_self]

/-- A gtid takes 40 bytes at most. -/
theorem length_gtidText {e : LogEntry} (h : RunGtid e) :
    (gtidText e.gno e.offset).length ≤ 40 := by
  have hdecimal : ∀ x : Int, 0 ≤ x → x ≤ LLONG_MAX → (decimal (sizeT x)).length ≤ 19 := by
    intro x hlow hhigh
    refine length_decimal_le (by decide) ?_
    unfold LLONG_MAX at hhigh
    unfold sizeT
    omega
  have hgno := hdecimal e.gno (by have := h.gno.1; omega) h.gno.2
  have hoffset := hdecimal e.offset h.offset.1 h.offset.2
  simp only [gtidText, List.length_append, List.length_cons, List.length_nil]
  omega

/-- The loop prints the texts of the gtids from `i` on. -/
theorem encodeGtids_eq (h : SegmentFilled seg) (hgnos : ∀ e ∈ segmentEntries seg, RunGtid e)
    (left : Nat) {i : Nat} (hi : seg.tgno ≤ i) (hleft : i + left = seg.ngno) (mem : Bytes)
    (len : Nat) :
    encodeGtids buf maxlen seg left i mem len = printAll buf maxlen
      ((List.range' i left).map (fun i => gtidText (entryAt seg i).gno (entryAt seg i).offset))
      mem len := by
  induction left generalizing i mem len with
  | zero => rfl
  | succ left ih =>
    have hgno := (hgnos (entryAt seg i) (mem_segmentEntries.mpr ⟨i, hi, by omega, rfl⟩)).gno
    have hllong : llong (seg.baseGno + i) = (entryAt seg i).gno :=
      llong_of_mem (by unfold LLONG_MIN; exact le_trans (by decide) hgno.1) hgno.2
    rw [encodeGtids, h.offsetAt (by omega), hllong, List.range'_succ, List.map_cons, printAll,
      Option.bind_eq_bind, Option.bind_some]
    cases printAt mem buf maxlen len (gtidText (entryAt seg i).gno (entryAt seg i).offset) with
    | none => rfl
    | some r => exact ih (by omega) (by omega) r.1 r.2

theorem gtidSegmentEncode_eq (h : SegmentFilled seg)
    (hgnos : ∀ e ∈ segmentEntries seg, RunGtid e ∧ ShortUuid e) (mem : Bytes) :
    gtidSegmentEncode mem buf maxlen seg = printAll buf maxlen (segmentTexts seg) mem 0 := by
  have hlt := h.nonempty
  -- the uuid is that of any of its gtids
  have huuid := hgnos (entryAt seg seg.tgno) (mem_segmentEntries.mpr ⟨_, le_refl _, hlt, rfl⟩)
  have hshort : seg.uuid.length + 2 < 2147483648 := huuid.2
  have hhead := segmentHead_eq huuid.1.uuid (show seg.uuid.length < 2 ^ 31 by omega)
  have hloop : ∀ mem len, encodeGtids buf maxlen seg (seg.ngno - seg.tgno) seg.tgno mem len =
      printAll buf maxlen ((List.range' seg.tgno (seg.ngno - seg.tgno)).map
        (fun i => gtidText (entryAt seg i).gno (entryAt seg i).offset)) mem len :=
    encodeGtids_eq h (fun e he => (hgnos e he).1) _ (le_refl _) (by omega)
  rw [gtidSegmentEncode, hhead, segmentTexts, segmentEntries, List.map_map, Function.comp_def,
    List.cons_append, printAll]
  simp only [hloop, printAll_append, printAll_singleton, Option.bind_eq_bind]

/-- A used segment of such gtids. -/
structure PrintableSegment (seg : GtidSegment) : Prop extends SegmentFilled seg where
  gtids : ∀ e ∈ segmentEntries seg, RunGtid e ∧ ShortUuid e

theorem PrintableSegment.shortUuid (h : PrintableSegment seg) : seg.uuid.length + 2 < 2147483648 :=
  (h.gtids (entryAt seg seg.tgno) (mem_segmentEntries.mpr ⟨_, le_refl _, h.nonempty, rfl⟩)).2

/-- The estimate does not wrap around. -/
theorem PrintableSegment.estimate (h : PrintableSegment seg) :
    gtidSegmentEstimatedEncodeBufferSize seg =
        seg.uuid.length + 3 + (seg.ngno - seg.tgno) * 42 ∧
      gtidSegmentEstimatedEncodeBufferSize seg < 2 ^ 32 := by
  have hlt := h.nonempty
  have hn := h.ngno_le
  have hshort := h.shortUuid
  rw [show SEGMENT_SIZE = 65536 from rfl] at hn
  have hsum : ((seg.uuid.length : Int) + 1 + 2 + ((seg.ngno - seg.tgno : Nat) : Int) *
      (20 + 1 + 20 + 1)) = ((seg.uuid.length + 3 + (seg.ngno - seg.tgno) * 42 : Nat) : Int) := by
    push_cast
    omega
  rw [gtidSegmentEstimatedEncodeBufferSize, subSize_le (le_of_lt hlt), hsum,
    sizeT_natCast (by omega)]
  exact ⟨rfl, by omega⟩

theorem length_flatten_le {l : List Bytes} {n : Nat} (h : ∀ t ∈ l, t.length ≤ n) :
    l.flatten.length ≤ l.length * n := by
  rw [List.length_flatten]
  have := List.sum_le_card_nsmul (l.map List.length) n (by simpa using h)
  simpa using this

/-- **The estimate of a segment** leaves two bytes for each gtid. -/
theorem PrintableSegment.room (h : PrintableSegment seg) :
    (segmentTexts seg).flatten.length + 2 ≤ gtidSegmentEstimatedEncodeBufferSize seg := by
  have hlt := h.nonempty
  have htexts := length_flatten_le (n := 40)
    (l := (segmentEntries seg).map (fun e => gtidText e.gno e.offset)) (fun t ht => by
      obtain ⟨e, he, rfl⟩ := List.mem_map.mp ht
      exact length_gtidText (h.gtids e he).1)
  have hcount : (segmentEntries seg).length = seg.ngno - seg.tgno := by
    rw [segmentEntries, List.length_map, List.length_range']
  rw [List.length_map, hcount] at htexts
  rw [h.estimate.1, segmentTexts, List.flatten_append, List.flatten_cons, List.length_append,
    List.length_append, List.length_append]
  simp only [List.length_cons, List.length_nil, List.flatten_cons, List.flatten_nil,
    List.length_append]
  omega

theorem PrintableSegment.int_texts (h : PrintableSegment seg) :
    ∀ t ∈ segmentTexts seg, t.length < 2147483648 := by
  have hshort := h.shortUuid
  intro t ht
  simp only [segmentTexts, List.cons_append, List.mem_cons, List.mem_append, List.mem_map,
    List.not_mem_nil, or_false] at ht
  rcases ht with rfl | ⟨e, he, rfl⟩ | rfl
  · simpa using hshort
  · exact lt_of_le_of_lt (length_gtidText (h.gtids e he).1) (by decide)
  · decide

/-- A segment is printed as a whole to a buffer that is larger than its text. -/
theorem PrintableSegment.encode (h : PrintableSegment seg) (a b old : Bytes)
    (hfit : (segmentTexts seg).flatten.length < old.length) (hsize : old.length < 2 ^ 64) :
    gtidSegmentEncode (a ++ old ++ b) a.length old.length seg =
      some (a ++ ((segmentTexts seg).flatten ++ remaining (segmentTexts seg) old) ++ b,
        (segmentTexts seg).flatten.length) := by
  have hall := printAll_fits a b [] old h.int_texts hfit (by simpa using hsize)
  rw [gtidSegmentEncode_eq h.toSegmentFilled h.gtids]
  simpa using hall

end Segment

/-! ## Runs -/

/-- The sequences reached by appends of such gtids that meet a condition, and by trims. -/
inductive GtidSeqRun (cond : LogEntry → Prop) : GtidSeq → Prop
  | create : GtidSeqRun cond gtidSeqCreate
  | append {seq seq' : GtidSeq} (e : LogEntry) : GtidSeqRun cond seq → RunGtid e → cond e →
      gtidSeqAppend seq e.uuid e.gno e.offset = some seq' → GtidSeqRun cond seq'
  | trim {seq seq' : GtidSeq} (o : Int) : GtidSeqRun cond seq → gtidSeqTrim seq o = some seq' →
      GtidSeqRun cond seq'

/-- The sequence is filled, and its gtids are such. -/
structure RunInvariant (cond : LogEntry → Prop) (seq : GtidSeq) : Prop where
  filled : ∃ l f, SeqFilled seq l f
  gtids : ∀ e ∈ gtidSeqEntries seq, RunGtid e ∧ cond e

section Run
variable {cond : LogEntry → Prop} {seq seq' : GtidSeq} {e : LogEntry} {a : Addr}

/-- **One append.**  The entry is the one given, up to the greatest gno. -/
theorem RunInvariant.append (h : RunInvariant cond seq) (he : RunGtid e) (hcond : cond e)
    (hrun : gtidSeqAppend seq e.uuid e.gno e.offset = some seq') : RunInvariant cond seq' := by
  obtain ⟨⟨l, f, hfilled⟩, hgtids⟩ := h
  have hoff := he.offset
  have hinc := gtidSeqAppend_increasing hfilled hrun
  obtain ⟨seq₁, p, c, f', seg, hrun₁, hfilled', -, hcont, -, -, hentries⟩ :=
    gtidSeqAppend_filled hfilled e.uuid e.gno hinc
      ⟨le_trans (by decide) hoff.1, hoff.2⟩
  obtain rfl := Option.some.inj (hrun₁.symm.trans hrun)
  have hgno : seg.baseGno + seg.ngno = e.gno := by
    rcases hcont with ⟨hbase, hzero⟩ | ⟨d, hd, hdseg, hllong⟩
    · rw [hbase, hzero]
      exact Int.add_zero _
    · -- the gno before it is in range, so the sum cannot have wrapped around to a positive one
      have hne : seg.tgno < seg.ngno := by
        have := (hfilled.filled d hd).nonempty
        rwa [hdseg] at this
      have hlast : entryAt seg (seg.ngno - 1) ∈ gtidSeqEntries seq := by
        rw [hfilled.entries_eq, cellEntries, List.mem_flatMap]
        refine ⟨d, hd, mem_segmentEntries.mpr ⟨seg.ngno - 1, ?_⟩⟩
        rw [hdseg]
        exact ⟨show seg.tgno ≤ _ by omega, show _ < seg.ngno by omega, rfl⟩
      have hbefore := (hgtids _ hlast).1.gno
      have hpos := he.gno.1
      simp only [entryAt] at hbefore
      unfold llong at hllong
      unfold LLONG_MAX at hbefore
      omega
  rw [hgno] at hentries
  refine ⟨⟨_, _, hfilled'⟩, fun d hd => ?_⟩
  rw [hentries, List.mem_append, List.mem_singleton] at hd
  rcases hd with hd | rfl
  · exact hgtids d hd
  · exact ⟨he, hcond⟩

theorem RunInvariant.trim (h : RunInvariant cond seq) (o : Int)
    (hrun : gtidSeqTrim seq o = some seq') : RunInvariant cond seq' := by
  obtain ⟨⟨l, f, hfilled⟩, hgtids⟩ := h
  obtain ⟨seq₁, l', f', hrun₁, hfilled', -, hentries⟩ := gtidSeqTrim_filled hfilled o
  obtain rfl := Option.some.inj (hrun₁.symm.trans hrun)
  refine ⟨⟨l', f', hfilled'⟩, fun d hd => hgtids d ?_⟩
  rw [hentries] at hd
  exact (mem_entriesFrom.mp hd).1

theorem GtidSeqRun.invariant (h : GtidSeqRun cond seq) : RunInvariant cond seq := by
  induction h with
  | create => exact ⟨⟨[], [], seqFilled_create⟩, by simp [seqFilled_create.entries_eq]⟩
  | append e _ he hcond hrun ih => exact ih.append he hcond hrun
  | trim o _ hrun ih => exact ih.trim o hrun

/-- The ends of the list of segments. -/
theorem RunInvariant.ends (h : RunInvariant ShortUuid seq) :
    (seq.firstseg = none ∧ seq.lastseg = none) ∨
    (∃ a seg, seq.firstseg = some a ∧ seq.lastseg = some a ∧ seq.segments.get a = some seg ∧
      PrintableSegment seg) ∨
    ∃ a b seg seg', seq.firstseg = some a ∧ seq.lastseg = some b ∧ b ≠ a ∧
      seq.segments.get a = some seg ∧ PrintableSegment seg ∧
      seq.segments.get b = some seg' ∧ PrintableSegment seg' := by
  obtain ⟨⟨l, f, hfilled⟩, hgtids⟩ := h
  have hfirst := hfilled.toSeqLinks.firstseg
  have hlast := hfilled.toSeqLinks.lastseg
  have hget : ∀ c ∈ l, ∃ seg, seq.segments.get c.1 = some seg ∧ PrintableSegment seg := by
    intro c hc
    obtain ⟨seg, hseg, hcore, hwf⟩ := hfilled.get hc
    refine ⟨seg, hseg, hwf, fun e he => hgtids e ?_⟩
    rw [hfilled.entries_eq, cellEntries, List.mem_flatMap]
    refine ⟨c, hc, ?_⟩
    rw [← hcore]
    exact he
  cases l with
  | nil => exact Or.inl ⟨hfirst, hlast⟩
  | cons c l =>
    obtain ⟨seg, hseg, hprintable⟩ := hget c (by simp)
    rcases List.eq_nil_or_concat l with rfl | ⟨p, d, rfl⟩
    · exact Or.inr (Or.inl ⟨c.1, seg, hfirst, hlast, hseg, hprintable⟩)
    · rw [List.concat_eq_append] at *
      obtain ⟨seg', hseg', hprintable'⟩ := hget d (by simp)
      rw [List.map_cons, List.map_append, List.map_singleton, ← List.cons_append,
        List.getLast?_concat] at hlast
      have hnd := hfilled.toSeqLinks.nodup
      rw [List.map_append, List.map_cons, List.map_append, List.map_singleton, List.cons_append,
        List.nodup_cons] at hnd
      refine Or.inr (Or.inr ⟨c.1, d.1, seg, seg', hfirst, hlast, fun heq => hnd.1 ?_, hseg,
        hprintable, hseg', hprintable'⟩)
      rw [← heq]
      simp

end Run

/-! ## The buffer is large enough -/

/-- With a buffer of `maxlen` bytes no call of `snprintf` is cut short: each prints where the one
before ended, and the texts and the zero behind them stay in the buffer. -/
structure EncodesWhole (seq : GtidSeq) (maxlen : Nat) : Prop where
  estimate : gtidSeqEstimatedEncodeBufferSize seq = some maxlen
  room : ∀ ts t us, gtidSeqTexts seq = ts ++ t :: us → ts.flatten.length + t.length < maxlen
  encode : ∀ pre buf post : Bytes, buf.length = maxlen →
    gtidSeqEncode (pre ++ buf ++ post) pre.length maxlen seq =
        some (pre ++ ((gtidSeqTexts seq).flatten ++ remaining (gtidSeqTexts seq) buf) ++ post,
          ((gtidSeqTexts seq).flatten.length : Int)) ∧
      printAll pre.length maxlen (gtidSeqTexts seq) (pre ++ buf ++ post) 0 =
        some (pre ++ ((gtidSeqTexts seq).flatten ++ remaining (gtidSeqTexts seq) buf) ++ post,
          (gtidSeqTexts seq).flatten.length) ∧
      (gtidSeqTexts seq).flatten.length + (remaining (gtidSeqTexts seq) buf).length = maxlen

section Whole
variable {seq : GtidSeq} {maxlen : Nat} {texts : List Bytes} {a b : Addr} {seg seg' : GtidSegment}

/-- Texts that fit together leave room for each of them. -/
theorem room_of_fits (hfit : texts.flatten.length < maxlen) (ts : List Bytes) (t : Bytes)
    (us : List Bytes) (h : texts = ts ++ t :: us) : ts.flatten.length + t.length < maxlen := by
  rw [h, List.flatten_append, List.flatten_cons, List.length_append, List.length_append] at hfit
  omega

/-- What remains to be shown of an encoding. -/
theorem encodesWhole_of_fits (hestimate : gtidSeqEstimatedEncodeBufferSize seq = some maxlen)
    (hint : ∀ t ∈ gtidSeqTexts seq, t.length < 2147483648)
    (hfit : (gtidSeqTexts seq).flatten.length < maxlen) (hsize : maxlen < 2 ^ 64)
    (hencode : ∀ pre buf post : Bytes, buf.length = maxlen →
      gtidSeqEncode (pre ++ buf ++ post) pre.length maxlen seq =
        some (pre ++ ((gtidSeqTexts seq).flatten ++ remaining (gtidSeqTexts seq) buf) ++ post,
          ((gtidSeqTexts seq).flatten.length : Int))) :
    EncodesWhole seq maxlen := by
  refine ⟨hestimate, room_of_fits hfit, ?_⟩
  rintro pre buf post rfl
  have hall := printAll_fits pre post [] buf hint hfit (by simpa using hsize)
  refine ⟨hencode pre buf post rfl, ?_, length_remaining buf hfit⟩
  simpa using hall

theorem encodesWhole_empty (hfirst : seq.firstseg = none) (hlast : seq.lastseg = none) :
    EncodesWhole seq 0 := by
  have htexts : gtidSeqTexts seq = [] := by
    rw [gtidSeqTexts, hfirst, hlast, if_neg (not_not.mpr rfl)]
    rfl
  refine ⟨?_, ?_, ?_⟩
  · rw [gtidSeqEstimatedEncodeBufferSize, hfirst, hlast]
    rfl
  · intro ts t us h
    rw [htexts] at h
    simp at h
  · intro pre buf post hbuf
    rw [htexts]
    refine ⟨?_, by simp [printAll, remaining], by simpa [remaining] using hbuf⟩
    rw [gtidSeqEncode, hfirst, hlast]
    rfl

theorem encodesWhole_one (hfirst : seq.firstseg = some a) (hlast : seq.lastseg = some a)
    (hget : seq.segments.get a = some seg) (h : PrintableSegment seg) :
    EncodesWhole seq (gtidSegmentEstimatedEncodeBufferSize seg) := by
  have hroom := h.room
  have hbound := h.estimate.2
  have htexts : gtidSeqTexts seq = segmentTexts seg := by
    rw [gtidSeqTexts, hfirst, hlast, if_neg (not_not.mpr rfl), segmentTextsAt, Option.bind_some,
      hget, List.append_nil]
    rfl
  refine encodesWhole_of_fits ?_ ?_ ?_ (by omega) ?_
  · simp only [gtidSeqEstimatedEncodeBufferSize, hfirst, hlast, hget, Option.map_some,
      Option.bind_eq_bind, Option.bind_some, ne_eq, not_true_eq_false, if_false]
  · rw [htexts]
    exact h.int_texts
  · rw [htexts]
    omega
  · intro pre buf post hbuf
    have hencode := h.encode pre post buf (by omega) (by omega)
    rw [hbuf] at hencode
    have hllong : llong ((segmentTexts seg).flatten.length : Int) =
        ((segmentTexts seg).flatten.length : Int) :=
      llong_of_mem (by unfold LLONG_MIN; omega) (by unfold LLONG_MAX; omega)
    rw [htexts]
    simp only [gtidSeqEncode, hfirst, hlast, hget, hencode, Option.bind_eq_bind, Option.bind_some,
      ne_eq, not_true_eq_false, if_false, hllong]

theorem encodesWhole_two (hfirst : seq.firstseg = some a) (hlast : seq.lastseg = some b)
    (hne : b ≠ a) (hget : seq.segments.get a = some seg) (h : PrintableSegment seg)
    (hget' : seq.segments.get b = some seg') (h' : PrintableSegment seg') :
    EncodesWhole seq (gtidSegmentEstimatedEncodeBufferSize seg + 5 +
      gtidSegmentEstimatedEncodeBufferSize seg') := by
  have hroom := h.room
  have hroom' := h'.room
  have hbound := h.estimate.2
  have hbound' := h'.estimate.2
  have hdots : ellipsis.length = 5 := rfl
  have hlast_ne : seq.lastseg ≠ seq.firstseg := by
    rw [hfirst, hlast]
    exact fun heq => hne (Option.some.inj heq)
  have htexts : gtidSeqTexts seq = segmentTexts seg ++ (ellipsis :: segmentTexts seg') := by
    rw [gtidSeqTexts, if_pos hlast_ne, hfirst, hlast, segmentTextsAt, segmentTextsAt,
      Option.bind_some, Option.bind_some, hget, hget']
    rfl
  have hflat : (gtidSeqTexts seq).flatten =
      (segmentTexts seg).flatten ++ ellipsis ++ (segmentTexts seg').flatten := by
    rw [htexts, List.flatten_append, List.flatten_cons, List.append_assoc]
  have hlen : (gtidSeqTexts seq).flatten.length =
      (segmentTexts seg).flatten.length + 5 + (segmentTexts seg').flatten.length := by
    rw [hflat, List.length_append, List.length_append, hdots]
  refine encodesWhole_of_fits ?_ ?_ (by omega) (by omega) ?_
  · simp only [gtidSeqEstimatedEncodeBufferSize, if_pos hlast_ne]
    simp only [hfirst, hlast, hget, hget', Option.map_some, Option.bind_eq_bind, Option.bind_some]
    exact congrArg some (sizeT_natCast (n := gtidSegmentEstimatedEncodeBufferSize seg + 5 +
      gtidSegmentEstimatedEncodeBufferSize seg') (by omega))
  · intro t ht
    rw [htexts, List.mem_append, List.mem_cons] at ht
    rcases ht with ht | rfl | ht
    · exact h.int_texts t ht
    · decide
    · exact h'.int_texts t ht
  · intro pre buf post hbuf
    have htextlen : (gtidSeqTexts seq).flatten.length < 2 ^ 64 := by omega
    -- what the first segment leaves of the buffer, and what the dots leave
    obtain ⟨old, hold⟩ : ∃ old, remaining (segmentTexts seg) buf = old := ⟨_, rfl⟩
    have hfirstfit : (segmentTexts seg).flatten.length < buf.length := by omega
    have holdlen := length_remaining buf hfirstfit
    rw [hold] at holdlen
    have hencode := h.encode pre post buf hfirstfit (by omega)
    rw [hold] at hencode
    have hprint := printAt_fits pre post (segmentTexts seg).flatten old ellipsis (by decide) (by omega) (by omega)
    rw [holdlen] at hprint
    obtain ⟨rest, hrest⟩ : ∃ rest, 0 :: old.drop (ellipsis.length + 1) = rest := ⟨_, rfl⟩
    have hrestlen : rest.length + 5 = old.length := by
      rw [← hrest, List.length_cons, List.length_drop]
      omega
    have hsecond := h'.encode (pre ++ ((segmentTexts seg).flatten ++ ellipsis)) post rest
      (show (segmentTexts seg').flatten.length < rest.length by omega) (by omega)
    have hbuffer : pre ++ ((segmentTexts seg).flatten ++ ellipsis ++ rest) ++ post =
        pre ++ ((segmentTexts seg).flatten ++ ellipsis) ++ rest ++ post := by
      simp only [List.append_assoc]
    have hleft : subSize buf.length ((segmentTexts seg).flatten ++ ellipsis).length = rest.length := by
      rw [List.length_append, hdots, subSize_le (by omega)]
      omega
    have hsum : ((((segmentTexts seg).flatten ++ ellipsis).length : Nat) : Int) +
        ((segmentTexts seg').flatten.length : Nat) = ((gtidSeqTexts seq).flatten.length : Nat) := by
      rw [hlen, List.length_append, hdots]
      push_cast
      rfl
    have hllong : llong ((gtidSeqTexts seq).flatten.length : Int) =
        ((gtidSeqTexts seq).flatten.length : Int) :=
      llong_of_mem (by unfold LLONG_MIN; omega) (by unfold LLONG_MAX; omega)
    have hpointer : (pre ++ ((segmentTexts seg).flatten ++ ellipsis)).length =
        pre.length + ((segmentTexts seg).flatten ++ ellipsis).length := List.length_append
    rw [hrest, hbuffer] at hprint
    rw [← hbuf]
    simp only [gtidSeqEncode, hfirst, hlast, hget, hget', hencode, hprint, Option.bind_eq_bind,
      Option.bind_some, hleft, ne_eq, Option.some.injEq, hne, not_false_eq_true, if_true]
    rw [hpointer] at hsecond
    rw [hsecond, Option.bind_some]
    dsimp only
    rw [hsum, sizeT_natCast htextlen, hllong, hflat, htexts, remaining_append, remaining, hold,
      hrest]
    simp only [List.append_assoc]

/-- **The estimate is enough** in every run with uuids whose head an `int` can count. -/
theorem gtidSeqEncode_whole (h : GtidSeqRun ShortUuid seq) : ∃ maxlen, EncodesWhole seq maxlen := by
  rcases h.invariant.ends with ⟨hfirst, hlast⟩ | ⟨a, seg, hfirst, hlast, hget, hseg⟩ |
    ⟨a, b, seg, seg', hfirst, hlast, hne, hget, hseg, hget', hseg'⟩
  · exact ⟨_, encodesWhole_empty hfirst hlast⟩
  · exact ⟨_, encodesWhole_one hfirst hlast hget hseg⟩
  · exact ⟨_, encodesWhole_two hfirst hlast hne hget hseg hget' hseg'⟩

/-- The first gtid of a sequence. -/
theorem exists_first_append (uuid : Uuid) :
    ∃ seq a seg, gtidSeqAppend gtidSeqCreate uuid 1 0 = some seq ∧ seq.firstseg = some a ∧
      seq.lastseg = some a ∧ seq.segments.get a = some seg ∧ seg.uuid = uuid ∧ seg.tgno = 0 ∧
      seg.ngno = 1 ∧ offsetAt seg 0 = some 0 := by
  obtain ⟨seq, p, c, f, seg, hrun, hfilled, hp, hcont, -, hn, hentries⟩ :=
    gtidSeqAppend_filled seqFilled_create uuid 1 (by simp [seqFilled_create.entries_eq])
      (show LLONG_MIN ≤ 0 ∧ 0 ≤ LLONG_MAX by decide)
  obtain rfl : p = [] := List.eq_nil_iff_forall_not_mem.mpr
    (fun d hd => absurd (hp d hd) List.not_mem_nil)
  obtain ⟨-, hzero⟩ | ⟨d, hd, -⟩ := hcont
  swap
  · exact absurd hd List.not_mem_nil
  obtain ⟨seg', hget, hcore, hwf⟩ := hfilled.get (c := c) (by simp)
  have hone : seg'.ngno = 1 := by
    have : c.2.ngno = 1 := by rw [hn, hzero]
    rw [← hcore] at this
    exact this
  have htrim : seg'.tgno = 0 := by
    have := hwf.nonempty
    omega
  have hentry : entryAt seg' 0 ∈ gtidSeqEntries seq := by
    rw [hfilled.entries_eq, cellEntries, List.nil_append, List.flatMap_singleton, ← hcore]
    exact mem_segmentEntries.mpr ⟨0, htrim.le, show 0 < seg'.ngno by omega, rfl⟩
  rw [hentries, seqFilled_create.entries_eq, cellEntries, List.flatMap_nil, List.nil_append,
    List.mem_singleton] at hentry
  refine ⟨seq, c.1, seg', hrun, hfilled.toSeqLinks.firstseg, hfilled.toSeqLinks.lastseg, hget,
    congrArg LogEntry.uuid hentry, htrim, hone, ?_⟩
  rw [hwf.offsetAt (by omega), hentry]

/-- Two gtids of one uuid, the first of which is trimmed, and one of another uuid. -/
theorem gtidSeqEncode_whole_trimmed :
    ∃ seq maxlen, GtidSeqRun ShortUuid seq ∧
      gtidSeqEntries seq = [⟨[65], 6, 140⟩, ⟨[66], 1, 180⟩] ∧ EncodesWhole seq maxlen := by
  have short : ∀ {uuid : Uuid} {g o : Int}, uuid.length = 1 → ShortUuid ⟨uuid, g, o⟩ := by
    intro uuid g o hlen
    rw [ShortUuid, show (LogEntry.mk uuid g o).uuid.length = 1 from hlen]
    decide
  have hrun : ∃ seq, GtidSeqRun ShortUuid seq ∧
      gtidSeqEntries seq = [⟨[65], 6, 140⟩, ⟨[66], 1, 180⟩] := by
    have h₁ := GtidSeqRun.append ⟨[65], 5, 100⟩ .create
      ⟨by decide, by decide, by decide⟩ (short rfl) rfl
    have h₂ := GtidSeqRun.append ⟨[65], 6, 140⟩ h₁ ⟨by decide, by decide, by decide⟩ (short rfl) rfl
    have h₃ := GtidSeqRun.append ⟨[66], 1, 180⟩ h₂ ⟨by decide, by decide, by decide⟩ (short rfl) rfl
    exact ⟨_, .trim 120 h₃ rfl, rfl⟩
  obtain ⟨seq, h, hlog⟩ := hrun
  obtain ⟨maxlen, hwhole⟩ := gtidSeqEncode_whole h
  exact ⟨seq, maxlen, h, hlog, hwhole⟩

/-- `snprintf` returns `-1` for a text that an `int` cannot count, and the length wraps around. -/
theorem printAt_wraps {mem : Bytes} (text : Bytes) (hmem : mem.length = maxlen)
    (hint : 2147483648 ≤ text.length) :
    ∃ mem', printAt mem 0 maxlen 0 text = some (mem', 18446744073709551615) ∧
      mem'.length = maxlen := by
  have hwrap : sizeT (((0 : Nat) : Int) + -1) = 18446744073709551615 := by
    unfold sizeT
    omega
  have hresult : (if text.length < 2147483648 then (text.length : Int) else -1) = -1 :=
    if_neg (by omega)
  simp only [printAt, snprintf, hresult, subSize_le (Nat.zero_le maxlen), Nat.sub_zero,
    Nat.add_zero]
  by_cases hzero : maxlen = 0
  · refine ⟨mem, ?_, hmem⟩
    simp only [if_pos hzero, Option.bind_eq_bind, Option.bind_some, hwrap]
  · have hroom : 0 + (text.take (maxlen - 1) ++ [0]).length ≤ mem.length := by
      rw [List.length_append, List.length_take, List.length_singleton]
      omega
    obtain ⟨mem', hcopy, hwritten⟩ := memcpy_written mem (text.take (maxlen - 1) ++ [0]) 0 hroom
    refine ⟨mem', ?_, hwritten.length.trans hmem⟩
    simp only [if_neg hzero, hcopy, Option.bind_eq_bind, Option.bind_some, hwrap]

/-- The next text goes to the byte in front of the buffer. -/
theorem printAt_outside {mem : Bytes} (text : Bytes) (hmem : mem.length = maxlen)
    (hmax : maxlen < 2 ^ 63) : printAt mem 0 maxlen 18446744073709551615 text = none := by
  have hroom : subSize maxlen 18446744073709551615 = maxlen + 1 := by
    rw [subSize, if_neg (by omega)]
    omega
  have hcopy : memcpy mem (0 + 18446744073709551615) (text.take (maxlen + 1 - 1) ++ [0]) = none :=
    if_neg (by omega)
  simp only [printAt, snprintf, hroom, Nat.succ_ne_zero, if_false, hcopy, Option.bind_eq_bind,
    Option.bind_none]

/-- A uuid of `2 ^ 31 - 2` bytes: the buffer is overrun. -/
theorem gtidSeqEncode_overruns :
    ∃ seq maxlen, GtidSeqRun (fun _ => True) seq ∧
      gtidSeqEstimatedEncodeBufferSize seq = some maxlen ∧
      gtidSeqEncode (List.replicate maxlen 0) 0 maxlen seq = none ∧
      ¬ ∃ n, EncodesWhole seq n := by
  obtain ⟨uuid, huuid⟩ : ∃ uuid : Uuid, uuid = List.replicate (2 ^ 31 - 2) 65 := ⟨_, rfl⟩
  have hlen : uuid.length = 2 ^ 31 - 2 := by rw [huuid, List.length_replicate]
  have hnul : 0 ∉ uuid := by
    intro hmem
    rw [huuid] at hmem
    exact absurd (List.eq_of_mem_replicate hmem) (by decide)
  obtain ⟨seq, a, seg, hrun, hfirst, hlast, hget, rfl, htrim, hone, hoff⟩ :=
    exists_first_append uuid
  have he : RunGtid ⟨seg.uuid, 1, 0⟩ :=
    ⟨show 1 ≤ (1 : Int) ∧ 1 ≤ LLONG_MAX by decide, show 0 ≤ (0 : Int) ∧ 0 ≤ LLONG_MAX by decide, hnul⟩
  have hreach : GtidSeqRun (fun _ => True) seq := .append ⟨seg.uuid, 1, 0⟩ .create he trivial hrun
  obtain ⟨maxlen, hmaxlen⟩ : ∃ maxlen, gtidSegmentEstimatedEncodeBufferSize seg = maxlen :=
    ⟨_, rfl⟩
  have hmax : maxlen < 2 ^ 63 := by
    rw [← hmaxlen, gtidSegmentEstimatedEncodeBufferSize, hlen, htrim, hone,
      subSize_le (Nat.zero_le 1)]
    unfold sizeT
    omega
  have hestimate : gtidSeqEstimatedEncodeBufferSize seq = some maxlen := by
    simp only [gtidSeqEstimatedEncodeBufferSize, hfirst, hlast, hget, hmaxlen, Option.map_some,
      Option.bind_eq_bind, Option.bind_some, ne_eq, not_true_eq_false, if_false]
  have hsegment : gtidSegmentEncode (List.replicate maxlen 0) 0 maxlen seg = none := by
    obtain ⟨mem', hhead, hmem'⟩ := printAt_wraps (segmentHead seg)
      (show (List.replicate maxlen (0 : UInt8)).length = maxlen from List.length_replicate)
      (by
        rw [segmentHead_eq hnul (by omega), List.length_append, hlen, List.length_cons,
          List.length_singleton]
        omega)
    rw [gtidSegmentEncode, hhead, htrim, hone, Option.bind_eq_bind, Option.bind_some]
    dsimp only
    rw [encodeGtids, hoff, Option.bind_eq_bind, Option.bind_some,
      printAt_outside _ hmem' hmax]
    rfl
  have hnone : gtidSeqEncode (List.replicate maxlen 0) 0 maxlen seq = none := by
    simp only [gtidSeqEncode, hfirst, hget, hsegment, Option.bind_eq_bind, Option.bind_some,
      Option.bind_none]
  refine ⟨seq, maxlen, hreach, hestimate, hnone, ?_⟩
  rintro ⟨n, hwhole⟩
  obtain rfl := Option.some.inj (hestimate.symm.trans hwhole.estimate)
  have hencode := (hwhole.encode [] (List.replicate maxlen 0) [] List.length_replicate).1
  rw [List.nil_append, List.append_nil, List.length_nil, hnone] at hencode
  cases hencode

end Whole

end XredisGtid
