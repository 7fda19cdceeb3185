import Mathlib.Algebra.Order.BigOperators.Group.Finset
import XredisGtid.Backlog
import XredisGtid.Command
import XredisGtid.GtidAccept

/-!
# Locating a gtid set in the backlog

GTIDX SEQ LOCATE of `xredis_gtid.c` decodes a gtid set, searches the sequence for the place
where a replica with this set goes on, and replies with the offset, the gtids from there on
and the first bytes of the backlog there.

`zcalloc` says for how many bytes there is memory; a buffer that cannot be allocated ends the
server, as a failed assertion does.
-/
namespace XredisGtid
open Memory Buffer RingBuffer KeyedIntervals OffsetLog

inductive LocateReply where
  /-- gtid seq not exists -/
  | seqNotExists
  | located (offset : Int) (cont : Bytes) (slice : Option Bytes)
deriving DecidableEq

/-- `consumeReplicationBacklogLimitedCopyCb` on each of the pieces. -/
def copyPieces (ring : Bytes) : List (Int × Int) → Bytes → Nat → Option Bytes
  | [], buf, _ => some buf
  | piece :: pieces, buf, added => do
    let buf ← memcpy buf added (pieceBytes ring piece)
    copyPieces ring pieces buf (added + piece.2.toNat)

def copyReplicationBacklogLimited (backlog : ReplBuffer) (buf : Bytes) (offset limit : Int) :
    Option (Bytes × Int) := do
  let (pieces, added) ← consumeReplicationBacklogLimited backlog offset limit
  some (← copyPieces backlog.bytes pieces buf 0, added)

/-- The length argument; one that is not a number leaves the default. -/
def locateLength (redis : Redis) (arg : Option Bytes) : Int :=
  (arg.bind redis.getLongLongFromObject).getD 128

def gtidxSeqLocate (redis : Redis) (zcalloc : Nat → Bool) (gtidSeq : Option GtidSeq)
    (backlog : ReplBuffer) (gtidrepr : Bytes) (arg : Option Bytes) (rand : Rand) :
    Option LocateReply := do
  match gtidSeq with
  | none => some .seqNotExists
  | some seq =>
    let gtidReq ← gtidSetDecode (gtidrepr ++ [0]) 0 gtidrepr.length (rand.sub 0)
    let blmaxlen := locateLength redis arg
    guard (zcalloc (sizeT blmaxlen))
    let blbuf := List.replicate (sizeT blmaxlen) 0
    let (offset, gtidCont) ← match gtidReq with
      | some gtidReq => gtidSeqXsync seq gtidReq (rand.sub 1)
      -- a set that is NULL is searched for the uuid of the last segment
      | none => if seq.lastseg = none then some (-1, gtidSetNew) else none
    let maxlen := gtidSetEstimatedEncodeBufferSize gtidCont
    let (buf, len) ← gtidSetEncode (List.replicate maxlen 0) 0 maxlen gtidCont
    guard (sizeT len ≤ maxlen)
    let cont := buf.take (sizeT len)
    if offset ≥ 0 then
      -- the length is no LLONG_MIN, for which there is no memory
      let (blbuf, bllen) ← copyReplicationBacklogLimited backlog blbuf offset (blmaxlen - 1)
      guard (sizeT bllen ≤ blbuf.length)
      some (.located offset cont (some (blbuf.take (sizeT bllen))))
    else some (.located offset cont none)

/-! ## The buffers -/

section Copy
variable {ring buf : Bytes} {added : Nat} {pieces : List (Int × Int)}

/-- The pieces stand in the buffer one behind the other. -/
theorem copyPieces_spec (hpieces : ∀ p ∈ pieces, 0 < p.2 ∧ 0 ≤ p.1 ∧ p.1 + p.2 ≤ ring.length)
    (hroom : added + (pieces.flatMap (pieceBytes ring)).length ≤ buf.length) :
    ∃ buf', copyPieces ring pieces buf added = some buf' ∧
      Written buf buf' added (pieces.flatMap (pieceBytes ring)) := by
  induction pieces generalizing buf added with
  | nil => exact ⟨buf, rfl, Written.nil (by simpa using hroom)⟩
  | cons piece pieces ih =>
    rw [List.flatMap_cons, List.length_append] at hroom
    obtain ⟨hpos, hstart, hend⟩ := hpieces piece (by simp)
    have hlength : (pieceBytes ring piece).length = piece.2.toNat := by
      rw [pieceBytes, List.length_take, List.length_drop]
      omega
    obtain ⟨buf₁, hcopy, hw⟩ := memcpy_written buf (pieceBytes ring piece) added (by omega)
    have hroom₁ : added + piece.2.toNat + (pieces.flatMap (pieceBytes ring)).length ≤ buf₁.length := by
      rw [hw.length]
      omega
    obtain ⟨buf', hrest, hw'⟩ := ih (fun p hp => hpieces p (List.mem_cons_of_mem _ hp)) hroom₁
    refine ⟨buf', ?_, ?_⟩
    · rw [copyPieces, hcopy, Option.bind_eq_bind, Option.bind_some, hrest]
    · rw [List.flatMap_cons]
      exact hw.trans hw' (by rw [hlength])

/-- **The copied slice** of the stream, with the limit of the buffer. -/
theorem copyReplicationBacklogLimited_slice {backlog : ReplBuffer} {hist : Bytes} {offset limit : Int}
    (h : backlog.Holds hist)
    (hoff : backlog.off ≤ offset ∧ offset ≤ backlog.off + backlog.histlen) (hlimit : 0 ≤ limit)
    (hroom : limit ≤ buf.length) :
    ∃ buf' n, copyReplicationBacklogLimited backlog buf offset limit = some (buf', ((n : Nat) : Int)) ∧
      n ≤ buf'.length ∧ (n : Int) ≤ limit ∧
      buf'.take n = (hist.drop (offset - backlog.off).toNat).take limit.toNat := by
  obtain ⟨pieces, hrun, hbytes, hinside, htotal, -⟩ :=
    consumeReplicationBacklogLimited_slice h hoff hlimit
  obtain ⟨hlen, -⟩ := h.histlen
  have hsize := h.size.2
  have hfull : (hist.drop (offset - backlog.off).toNat).take
      (min limit (backlog.off + backlog.histlen - offset)).toNat =
      (hist.drop (offset - backlog.off).toNat).take limit.toNat := by
    have hrest : (hist.drop (offset - backlog.off).toNat).length =
        (backlog.off + backlog.histlen - offset).toNat := by
      rw [List.length_drop]
      omega
    rcases le_total limit (backlog.off + backlog.histlen - offset) with hle | hle
    · rw [min_eq_left hle]
    · rw [min_eq_right hle, ← hrest, List.take_length, List.take_of_length_le (by omega)]
  rw [hfull] at hbytes
  have hcount : (pieces.flatMap (pieceBytes backlog.bytes)).length =
      (min limit (backlog.off + backlog.histlen - offset)).toNat := by
    rw [hbytes, List.length_take, List.length_drop]
    omega
  have hroom₀ : 0 + (pieces.flatMap (pieceBytes backlog.bytes)).length ≤ buf.length := by
    rw [hcount]
    omega
  obtain ⟨buf', hcopy, hw⟩ := copyPieces_spec (by rwa [hsize]) hroom₀
  refine ⟨buf', (pieces.flatMap (pieceBytes backlog.bytes)).length, ?_, ?_, by omega, ?_⟩
  · rw [copyReplicationBacklogLimited, hrun, htotal, hcount, Int.toNat_of_nonneg (by omega)]
    simp only [hcopy, Option.bind_eq_bind, Option.bind_some]
  · have := hw.bound
    rw [hw.length]
    omega
  · rw [hw.take_zero, hbytes]

end Copy

section Text
variable {es : List Entry} {l : List (Int × Int)}

/-- A list of intervals has no more intervals than numbers. -/
theorem length_le_card (h : IntervalList.Canonical l) :
    l.length ≤ (IntervalList.points l).card := by
  have hsize : ∀ m : List (Int × Int), (∀ i ∈ m, i.1 ≤ i.2) → (m.length : Int) ≤ IntervalList.size m := by
    intro m
    induction m with
    | nil => exact fun _ => Int.le_refl 0
    | cons i m ih =>
      intro hm
      have hi := hm i (by simp)
      have hrest := ih (fun j hj => hm j (List.mem_cons_of_mem _ hj))
      rw [IntervalList.size_cons, List.length_cons]
      omega
  have := hsize l h.nonempty
  rw [IntervalList.size_eq_card h] at this
  omega

/-- The text of a set takes at most its uuid and 41 bytes for each gno. -/
theorem length_restText_le (hc : Canonical es) (hv : ∀ e ∈ es, Valid e.2) :
    (restText (nonEmpty es)).length ≤ ∑ x ∈ pairs es, (x.1.length + 41) := by
  induction es with
  | nil => exact Nat.zero_le _
  | cons e es ih =>
    obtain ⟨hkey, hdistinct⟩ := List.nodup_cons.mp hc.distinct
    have hrest := ih ⟨hdistinct, fun d hd => hc.canonical d (List.mem_cons_of_mem _ hd)⟩
      (fun d hd => hv d (List.mem_cons_of_mem _ hd))
    have hdisjoint : Disjoint ({e.1} ×ˢ IntervalList.points e.2) (pairs es) := by
      rw [Finset.disjoint_left]
      rintro ⟨k, g⟩ hk hmem
      rw [Finset.mem_product, Finset.mem_singleton] at hk
      exact hkey (hk.1 ▸ key_mem_of_mem_pairs hmem)
    have hsum : ∑ x ∈ {e.1} ×ˢ IntervalList.points e.2, (x.1.length + 41) =
        (IntervalList.points e.2).card * (e.1.length + 41) := by
      rw [Finset.sum_product, Finset.sum_singleton]
      dsimp only
      rw [Finset.sum_const, smul_eq_mul]
    rw [pairs_cons, Finset.sum_union hdisjoint, hsum]
    by_cases hnil : e.2 = []
    · rw [nonEmpty_cons_of_nil hnil]
      omega
    · have hcard := length_le_card (hc.canonical e (by simp))
      have hpos := List.length_pos_iff.mpr hnil
      have hlen := length_intervalsText_le (hv e (by simp))
      rw [nonEmpty_cons_of_ne hnil, length_restText_cons, length_uuidSetText]
      nlinarith

theorem length_gtidSetText_le_restText (es : List Entry) :
    (gtidSetText es).length ≤ (restText es).length := by
  cases es with
  | nil => exact Nat.le_refl 0
  | cons e es =>
    rw [length_restText_cons, gtidSetText, List.length_append, restText]
    omega

/-- The bytes that the gtids of some entries take as text, if nothing is put together. -/
def gtidsSize (l : List LogEntry) : Nat := (l.map (fun e => e.uuid.length + 41)).sum

theorem sum_gtids_le (l : List LogEntry) : ∑ x ∈ gtids l, (x.1.length + 41) ≤ gtidsSize l := by
  induction l with
  | nil => exact Nat.le_refl 0
  | cons e l ih =>
    have hcons : gtids (e :: l) = insert e.gtid (gtids l) := List.toFinset_cons
    rw [hcons, gtidsSize, List.map_cons, List.sum_cons]
    by_cases hmem : e.gtid ∈ gtids l
    · rw [Finset.insert_eq_of_mem hmem]
      exact Nat.le_add_left_of_le ih
    · rw [Finset.sum_insert hmem]
      exact Nat.add_le_add_left ih _

theorem WellFormedSet.length_text_le {s : GtidSet} (h : WellFormedSet s) {suf m : List LogEntry}
    (hset : contents s = gtids suf) (hsuf : suf <:+ m) :
    (gtidSetText (nonEmpty (entries s))).length ≤ gtidsSize m := by
  obtain ⟨l, hrep⟩ := h.rep
  have hvalid : ∀ e ∈ entries s, Valid e.2 := by
    intro e he
    rw [hrep.entries_eq] at he
    obtain ⟨c, hc, rfl⟩ := List.mem_map.mp he
    exact hrep.valid c hc
  calc (gtidSetText (nonEmpty (entries s))).length
      ≤ (restText (nonEmpty (entries s))).length := length_gtidSetText_le_restText _
    _ ≤ ∑ x ∈ contents s, (x.1.length + 41) := length_restText_le h.canonical hvalid
    _ ≤ gtidsSize suf := hset ▸ sum_gtids_le suf
    _ ≤ gtidsSize m := by
      obtain ⟨pre, rfl⟩ := hsuf
      rw [gtidsSize, gtidsSize, List.map_append, List.sum_append]
      exact Nat.le_add_left _ _

end Text

/-! ## The request -/

/-- The first piece of its uuid in a text has a gno that is not below the one of an entry, and none of
its intervals ends at `LLONG_MAX`, after which the next gno is `LLONG_MIN`. -/
def CaughtUp (s : Bytes) (e : LogEntry) : Prop :=
  ∃ p, (s.splitOn split).find? (fun p => pieceUuid p = e.uuid) = some p ∧
    (∃ i ∈ pieceIntervals p, e.gno ≤ i.2) ∧ ∀ i ∈ pieceIntervals p, i.2 < LLONG_MAX

section Locate
variable {redis : Redis} {zcalloc : Nat → Bool} {seq : GtidSeq} {backlog : ReplBuffer}
variable {s hist : Bytes} {log : List LogEntry} {arg : Option Bytes} {rand : Rand}
variable {l f : List (Addr × GtidSegment)} {e : LogEntry}

theorem pieceIntervals_le {p : Bytes} {i : Int × Int} (hi : i ∈ pieceIntervals p) :
    i.2 ≤ LLONG_MAX := by
  obtain ⟨t, -, ht⟩ := List.mem_filterMap.mp hi
  exact interval_le ht

/-- The next gno of a text that is a gtid set. -/
theorem next_le_iff (hvalid : ∀ p ∈ s.splitOn split, ∀ i ∈ pieceIntervals p, 1 ≤ i.1 ∧ i.1 ≤ i.2)
    (hpos : 1 ≤ e.gno) :
    llong (IntervalList.top (lookup e.uuid ((s.splitOn split).map pieceEntry)) + 1) ≤ e.gno ↔
      ¬ CaughtUp s e := by
  rw [lookup_pieceEntry]
  cases hfind : (s.splitOn split).find? (fun p => pieceUuid p = e.uuid) with
  | none =>
    have hone : llong (IntervalList.top (Option.getD (Option.map (fun p =>
        IntervalList.union [] (pieceIntervals p)) (none : Option Bytes)) []) + 1) = 1 := rfl
    rw [hone]
    refine ⟨fun _ => ?_, fun _ => hpos⟩
    rintro ⟨p, hp, -⟩
    rw [hfind] at hp
    cases hp
  | some p =>
    have hmem := List.mem_of_find?_eq_some hfind
    have hle : ∀ i ∈ pieceIntervals p, i.1 ≤ i.2 := fun i hi => (hvalid p hmem i hi).2
    have hcanonical : IntervalList.Canonical (IntervalList.union [] (pieceIntervals p)) :=
      IntervalList.canonical_nil.union hle
    have hcaught : CaughtUp s e ↔ (∃ i ∈ pieceIntervals p, e.gno ≤ i.2) ∧
        ∀ i ∈ pieceIntervals p, i.2 < LLONG_MAX := by
      constructor
      · rintro ⟨q, hq, hi⟩
        rw [hfind] at hq
        cases hq
        exact hi
      · exact fun hi => ⟨p, hfind, hi⟩
    rw [Option.map_some, Option.getD_some, hcaught]
    -- the top of the union is the greatest of the ends
    have hbound : ∀ i ∈ pieceIntervals p, i.2 ≤ IntervalList.top (IntervalList.union [] (pieceIntervals p)) :=
      fun i hi => IntervalList.le_top hcanonical
        ((mem_points_union hle).mpr ⟨i, hi, hle i hi, Int.le_refl _⟩)
    by_cases hnil : IntervalList.union [] (pieceIntervals p) = []
    · rw [hnil]
      have hone : llong (IntervalList.top [] + 1) = 1 := rfl
      rw [hone]
      refine ⟨fun _ => ?_, fun _ => hpos⟩
      rintro ⟨⟨i, hi, hge⟩, -⟩
      have hin := (mem_points_union hle).mpr ⟨i, hi, hle i hi, Int.le_refl i.2⟩
      rw [hnil, IntervalList.points_nil] at hin
      exact absurd hin (Finset.notMem_empty _)
    · obtain ⟨j, hj, hj₁, hj₂⟩ := (mem_points_union hle).mp (IntervalList.top_mem hcanonical hnil)
      have hj₃ := (hvalid p hmem j hj).1
      have hj₄ := pieceIntervals_le hj
      have hj₅ := hbound j hj
      by_cases htop : j.2 = LLONG_MAX
      · -- the next gno wraps around, and the entry counts as one that is lacking
        rw [le_antisymm hj₂ hj₅, htop, llong_max_add_one]
        refine iff_of_true (by unfold LLONG_MIN; omega) ?_
        rintro ⟨-, hall⟩
        exact absurd (hall j hj) (by omega)
      · rw [llong_of_mem (by unfold LLONG_MIN; omega) (by omega)]
        constructor
        · rintro h ⟨⟨i, hi, hge⟩, -⟩
          have := hbound i hi
          omega
        · intro h
          by_contra hlt
          refine h ⟨⟨j, hj, by omega⟩, fun i hi => ?_⟩
          have := hbound i hi
          omega

/-- The entries behind the last one that the request is past. -/
def entriesBehind (next : Uuid → Int) (seq : GtidSeq) : List LogEntry :=
  (gtidSeqEntries seq).rtakeWhile (fun e => decide (next e.uuid ≤ e.gno))

theorem entriesBehind_eq_nil {next : Uuid → Int} :
    entriesBehind next seq = [] ↔ ∀ e ∈ (gtidSeqEntries seq).getLast?, ¬ next e.uuid ≤ e.gno := by
  rw [entriesBehind, List.rtakeWhile_eq_nil_iff]
  cases hlog : gtidSeqEntries seq using List.reverseRecOn with
  | nil => simp
  | append_singleton log e => simp

/-- What is left of LOCATE when there is a set and a buffer. -/
theorem gtidxSeqLocate_set {t : GtidSet} {next : Uuid → Int} (hrep : SeqRep seq l f)
    (hdecode : gtidSetDecode (s ++ [0]) 0 s.length (rand.sub 0) = some (some t))
    (hnext : ∀ uuid rand, requestNext t uuid rand = some (next uuid))
    (hzcalloc : zcalloc (sizeT (locateLength redis arg)) = true)
    (hmemory : gtidsSize (gtidSeqEntries seq) < 2 ^ 63) :
    ∃ cont, RegularSet cont ∧ gtidxSeqLocate redis zcalloc (some seq) backlog s arg rand =
      if headOffset (entriesBehind next seq) ≥ 0 then
        (copyReplicationBacklogLimited backlog
          (List.replicate (sizeT (locateLength redis arg)) 0) (headOffset (entriesBehind next seq))
          (locateLength redis arg - 1)).bind (fun r =>
            (guard (sizeT r.2 ≤ r.1.length) : Option Unit).bind (fun _ =>
              some (.located (headOffset (entriesBehind next seq))
                (gtidSetText (nonEmpty (entries cont))) (some (r.1.take (sizeT r.2))))))
      else some (.located (headOffset (entriesBehind next seq))
        (gtidSetText (nonEmpty (entries cont))) none) := by
  obtain ⟨cont, hxsync, hcont, hset⟩ := gtidSeqXsync_next hrep hnext (rand.sub 1)
  refine ⟨cont, hcont, ?_⟩
  have hlen := Nat.lt_of_le_of_lt
    (hcont.toWellFormedSet.length_text_le hset (List.rtakeWhile_suffix _ _)) hmemory
  have hroom : gtidSetEstimatedEncodeBufferSize cont ≤
      (List.replicate (gtidSetEstimatedEncodeBufferSize cont) (0 : UInt8)).length :=
    List.length_replicate.ge
  obtain ⟨mem', hencode, hw⟩ := hcont.toWellFormedSet.encode hlen hroom
  have hbound := hw.bound
  rw [List.length_replicate, Nat.zero_add] at hbound
  have hsize : sizeT ((gtidSetText (nonEmpty (entries cont))).length : Int) =
      (gtidSetText (nonEmpty (entries cont))).length := sizeT_natCast (by omega)
  simp only [gtidxSeqLocate, hdecode, hzcalloc, guard_true, hxsync, hencode, hsize, hbound,
    hw.take_zero, Option.pure_def, Option.bind_eq_bind, Option.bind_some]
  rfl

/-- An error, or an offset, the text of a gtid set, and for an offset in the backlog what the
backlog holds from there on, at most one byte less than the length. -/
def Answers (backlog : ReplBuffer) (hist : Bytes) (len : Int) (reply : Option LocateReply) : Prop :=
  reply = some .seqNotExists ∨
    ∃ offset cont slice, WellFormedSet cont ∧
      reply = some (.located offset (gtidSetText (nonEmpty (entries cont))) slice) ∧
      (slice.isSome ↔ 0 ≤ offset) ∧
      ∀ bytes ∈ slice, (bytes.length : Int) ≤ len - 1 ∧
        bytes = (hist.drop (offset - backlog.off).toNat).take (len - 1).toNat

theorem not_answers_none (len : Int) : ¬ Answers backlog hist len none := by
  rintro (hno | ⟨_, _, _, -, hno, -⟩)
  · cases hno
  · cases hno

theorem headOffset_mem {m : List LogEntry} (h : m ≠ []) : ∃ e ∈ m, headOffset m = e.offset := by
  cases m with
  | nil => exact absurd rfl h
  | cons e m => exact ⟨e, by simp, rfl⟩

/-- Without a set there is no answer, as long as there are entries. -/
theorem gtidxSeqLocate_rejected (hrep : SeqRep seq l f) (hne : gtidSeqEntries seq ≠ [])
    (hreject : ¬ ∃ t, gtidSetDecode (s ++ [0]) 0 s.length (rand.sub 0) = some (some t)) :
    gtidxSeqLocate redis zcalloc (some seq) backlog s arg rand = none := by
  have hlast : seq.lastseg ≠ none := by
    rw [hrep.toSeqLinks.lastseg]
    intro hnone
    rw [List.getLast?_eq_none_iff, List.map_eq_nil_iff] at hnone
    apply hne
    rw [hrep.entries_eq, hnone, cellEntries_nil]
  rw [gtidxSeqLocate]
  rcases hdecode : gtidSetDecode (s ++ [0]) 0 s.length (rand.sub 0) with _ | _ | t
  · rfl
  · simp only [Option.bind_eq_bind, Option.bind_some, if_neg hlast, Option.bind_none,
      Option.bind_fun_none]
  · exact absurd ⟨t, hdecode⟩ hreject

theorem gtidxSeqLocate_no_memory (hzcalloc : zcalloc (sizeT (locateLength redis arg)) ≠ true) :
    gtidxSeqLocate redis zcalloc (some seq) backlog s arg rand = none := by
  rw [gtidxSeqLocate]
  cases gtidSetDecode (s ++ [0]) 0 s.length (rand.sub 0) with
  | none => rfl
  | some req =>
    simp only [guard, if_neg hzcalloc]
    rfl

/-- **LOCATE with a set and a buffer** answers just if the length is positive or nothing is to be
copied. -/
theorem gtidxSeqLocate_set_iff {t : GtidSet} {next : Uuid → Int} (hrep : SeqRep seq l f)
    (hholds : backlog.Holds hist) (hstart : 0 ≤ backlog.off)
    (hinside : ∀ e ∈ gtidSeqEntries seq,
      backlog.off ≤ e.offset ∧ e.offset ≤ backlog.off + backlog.histlen)
    (hmemory : gtidsSize (gtidSeqEntries seq) < 2 ^ 63)
    (hdecode : gtidSetDecode (s ++ [0]) 0 s.length (rand.sub 0) = some (some t))
    (hnext : ∀ uuid rand, requestNext t uuid rand = some (next uuid))
    (hzcalloc : zcalloc (sizeT (locateLength redis arg)) = true)
    (hrange : locateLength redis arg ≤ LLONG_MAX) :
    Answers backlog hist (locateLength redis arg)
        (gtidxSeqLocate redis zcalloc (some seq) backlog s arg rand) ↔
      1 ≤ locateLength redis arg ∨ entriesBehind next seq = [] := by
  obtain ⟨cont, hcont, hrun⟩ := gtidxSeqLocate_set hrep hdecode hnext hzcalloc hmemory
  rw [hrun]
  by_cases hnil : entriesBehind next seq = []
  · have hneg : ¬ headOffset [] ≥ 0 := by decide
    rw [hnil, if_neg hneg]
    refine iff_of_true (Or.inr ⟨_, cont, none, hcont.toWellFormedSet, rfl, ?_, ?_⟩) (Or.inr rfl)
    · exact iff_of_false Bool.false_ne_true hneg
    · rintro bytes hbytes
      cases hbytes
  · obtain ⟨e, he, hoffset⟩ := headOffset_mem hnil
    have hin := hinside e ((List.rtakeWhile_suffix _ _).mem he)
    rw [or_iff_left hnil, hoffset, if_pos (show e.offset ≥ 0 by omega)]
    by_cases hlen : 1 ≤ locateLength redis arg
    · have hsize : (sizeT (locateLength redis arg) : Int) = locateLength redis arg := by
        unfold LLONG_MAX at hrange
        rw [sizeT, Int.toNat_of_nonneg (Int.emod_nonneg _ (by decide)),
          Int.emod_eq_of_lt (by omega) (by omega)]
      have hroom : locateLength redis arg - 1 ≤
          (List.replicate (sizeT (locateLength redis arg)) (0 : UInt8)).length := by
        rw [List.length_replicate, hsize]
        omega
      have hlimit : 0 ≤ locateLength redis arg - 1 := by omega
      obtain ⟨buf', n, hcopy, hn, hle, hbytes⟩ :=
        copyReplicationBacklogLimited_slice hholds hin hlimit hroom
      have hcount : sizeT ((n : Nat) : Int) = n := by
        unfold LLONG_MAX at hrange
        exact sizeT_natCast (by omega)
      refine iff_of_true (Or.inr ⟨e.offset, cont, some (buf'.take n), hcont.toWellFormedSet, ?_,
        ?_, ?_⟩) hlen
      · simp only [hcopy, hcount, hn, guard_true, Option.pure_def, Option.bind_some]
      · exact iff_of_true rfl (by omega)
      · rintro bytes hbytes'
        cases hbytes'
        refine ⟨?_, hbytes⟩
        rw [List.length_take]
        omega
    · have hguard : ¬ (locateLength redis arg - 1 ≥ 0 ∧ e.offset ≥ backlog.off) := by omega
      refine iff_of_false ?_ hlen
      rw [copyReplicationBacklogLimited, consumeReplicationBacklogLimited, guard, if_neg hguard]
      exact not_answers_none _

end Locate

/-- A Redis that knows the number zero. -/
def redisZero : Redis :=
  ⟨fun _ => none, fun _ => some 0, fun a => if a = [48] then some 0 else none, 1, execNothing⟩

/-- A full backlog of the bytes from offset 10 on. -/
def ringOfFour : ReplBuffer := ⟨⟨true, 4, 4, 10⟩, 2, [3, 4, 1, 2]⟩

theorem ringOfFour_holds : ringOfFour.Holds [1, 2, 3, 4] := by
  have hstored : ∀ k < 4, ([3, 4, 1, 2] : Bytes)[((2 + 4 - 4 + (k : Nat)) % 4 : Int).toNat]? =
      ([1, 2, 3, 4] : Bytes)[k]? := by decide
  exact ⟨⟨by decide, rfl⟩, ⟨by decide, by decide⟩, ⟨rfl, by decide⟩, hstored⟩

end XredisGtid
