import XredisGtid.GtidSet
import XredisGtid.OffsetLog

/-!
# The gtid sequence

`gtidSeq` of `gtid.c`, the index from gtids to offsets in the replication stream: a
doubly linked list of segments and a list of free ones, all in one arena.  A segment
holds the gtids `base_gno + i` of one uuid at the offsets `base_offset + deltas[i]`,
for `i` from `tgno` to below `ngno`.

`deltas` is an array of `capacity` 16-bit numbers that is not initialized when it is
allocated, nor when a free segment is used again: a slot never written is `none`,
and reading it, or reading past the array, fails.  So does every `assert`.
-/
namespace XredisGtid
open Memory OffsetLog

def SEGOFF_MAX : Nat := 65535
def SEGMENT_SIZE : Nat := SEGOFF_MAX + 1
def GTID_ESTIMATED_CMD_SIZE : Nat := 1024
def GTID_SEGMENT_NGNO_DEFAULT : Nat := SEGMENT_SIZE / GTID_ESTIMATED_CMD_SIZE

structure GtidSegment where
  next : Option Addr
  prev : Option Addr
  uuid : Uuid
  baseOffset : Int
  baseGno : Int
  /-- trimmed gno count -/
  tgno : Nat
  /-- gno count -/
  ngno : Nat
  /-- gno capacity -/
  capacity : Nat
  deltas : List (Option UInt16)

def gtidSegmentNew : GtidSegment where
  next := none
  prev := none
  uuid := []
  baseOffset := 0
  baseGno := 0
  tgno := 0
  ngno := 0
  capacity := GTID_SEGMENT_NGNO_DEFAULT
  deltas := List.replicate GTID_SEGMENT_NGNO_DEFAULT none

def gtidSegmentReset (seg : GtidSegment) (uuid : Uuid) (baseGno baseOffset : Int) :
    GtidSegment :=
  { seg with uuid := uuid, baseOffset := baseOffset, baseGno := baseGno, tgno := 0, ngno := 0 }

/-- `seg->deltas[i]` -/
def deltaAt (seg : GtidSegment) (i : Nat) : Option UInt16 := seg.deltas[i]?.join

/-- `seg->base_offset + seg->deltas[i]` -/
def offsetAt (seg : GtidSegment) (i : Nat) : Option Int :=
  (deltaAt seg i).map (fun delta => llong (seg.baseOffset + delta.toNat))

/-- An array reallocated with `n` slots. -/
def gtidRealloc (deltas : List (Option UInt16)) (n : Nat) : List (Option UInt16) :=
  deltas.take n ++ List.replicate (n - deltas.length) none

/-- Double the capacity of a full segment. -/
def gtidSegmentReserve (seg : GtidSegment) : GtidSegment :=
  if seg.ngno = seg.capacity then
    { seg with
      capacity := seg.capacity * 2
      deltas := gtidRealloc seg.deltas (seg.capacity * 2) }
  else seg

def gtidSegmentAppend (seg : GtidSegment) (offset : Int) : Option GtidSegment := do
  let delta := sizeT (offset - seg.baseOffset)
  guard (delta ≤ SEGOFF_MAX)
  guard (seg.ngno ≤ seg.capacity)
  let seg := gtidSegmentReserve seg
  some { seg with
    deltas := seg.deltas.set seg.ngno (some delta.toUInt16)
    ngno := seg.ngno + 1 }

structure GtidSeq where
  segmentSize : Nat
  nsegment : Nat
  nfreeseg : Nat
  nsegmentDeltas : Nat
  nfreesegDeltas : Nat
  /-- head of occupied segment list -/
  firstseg : Option Addr
  /-- tail of occupied segment list -/
  lastseg : Option Addr
  /-- head of vacant segment list -/
  freeseg : Option Addr
  segments : Arena GtidSegment

def gtidSeqCreate : GtidSeq where
  segmentSize := SEGMENT_SIZE
  nsegment := 0
  nfreeseg := 0
  nsegmentDeltas := 0
  nfreesegDeltas := 0
  firstseg := none
  lastseg := none
  freeseg := none
  segments := Arena.empty

/-- A loop of `gtidSeqDestroy`: free the segments of a list and take them off its two
counters, which are `size_t`. -/
def destroyFrom : Nat → Option Addr → Arena GtidSegment → Nat → Nat →
    Option (Arena GtidSegment × Nat × Nat)
  | 0, _, _, _, _ => none
  | _ + 1, none, segments, n, deltas => some (segments, n, deltas)
  | fuel + 1, some a, segments, n, deltas => do
    let seg ← segments.get a
    destroyFrom fuel seg.next (segments.free a) (sizeT (n - 1)) (sizeT (deltas - seg.capacity))

def gtidSeqDestroy (seq : GtidSeq) : Option (Arena GtidSegment) := do
  let (segments, nsegment, nsegmentDeltas) ← destroyFrom (seq.segments.size + 1) seq.firstseg
    seq.segments seq.nsegment seq.nsegmentDeltas
  guard (nsegment = 0 ∧ nsegmentDeltas = 0)
  let (segments, nfreeseg, nfreesegDeltas) ← destroyFrom (seq.segments.size + 1) seq.freeseg
    segments seq.nfreeseg seq.nfreesegDeltas
  guard (nfreeseg = 0 ∧ nfreesegDeltas = 0)
  some segments

/-- Unlink a segment from the free list, or create one. -/
def takeSegment (seq : GtidSeq) : Option (GtidSeq × Addr) :=
  match seq.freeseg with
  | some a => do
    let seg ← seq.segments.get a
    guard (seg.prev = none)
    some ({ seq with
        freeseg := seg.next
        segments := seq.segments.set a { seg with next := none }
        nfreeseg := seq.nfreeseg - 1
        nfreesegDeltas := seq.nfreesegDeltas - seg.capacity }, a)
  | none => some ({ seq with segments := seq.segments.alloc gtidSegmentNew }, seq.segments.fresh)

/-- Link the segment at `a`, which now reads `seg`, behind the last one. -/
def linkSegment (seq : GtidSeq) (a : Addr) (seg : GtidSegment) : GtidSeq :=
  { seq with
    segments := (seq.segments.set a { seg with prev := seq.lastseg }).modifyAt seq.lastseg
      (fun last => { last with next := some a })
    firstseg := if seq.firstseg = none then some a else seq.firstseg
    lastseg := some a
    nsegment := seq.nsegment + 1
    nsegmentDeltas := seq.nsegmentDeltas + seg.capacity }

def gtidSeqSwitchSegment (seq : GtidSeq) (uuid : Uuid) (baseGno baseOffset : Int) :
    Option (GtidSeq × Addr) := do
  let (seq, a) ← takeSegment seq
  let seg ← seq.segments.get a
  some (linkSegment seq a (gtidSegmentReset seg uuid baseGno baseOffset), a)

/-- Whether a gtid cannot go to the end of the segment. -/
def mustSwitch (seq : GtidSeq) (seg : GtidSegment) (uuid : Uuid) (gno offset : Int) : Bool :=
  seg.uuid ≠ uuid /- uuid switch -/ ||
  llong (seg.baseGno + seg.ngno) ≠ gno /- gno gap -/ ||
  llong (seg.baseOffset + seq.segmentSize) ≤ offset

/-- The segment a gtid is appended to. -/
def segmentFor (seq : GtidSeq) (uuid : Uuid) (gno offset : Int) : Option (GtidSeq × Addr) :=
  match seq.lastseg with
  | none => gtidSeqSwitchSegment seq uuid gno offset
  | some last => do
    let seg ← seq.segments.get last
    guard (0 < seg.ngno)
    let tailOffset ← offsetAt seg (seg.ngno - 1)
    guard (tailOffset < offset)
    if mustSwitch seq seg uuid gno offset then gtidSeqSwitchSegment seq uuid gno offset
    else some (seq, last)

def gtidSeqAppend (seq : GtidSeq) (uuid : Uuid) (gno offset : Int) : Option GtidSeq := do
  let (seq, a) ← segmentFor seq uuid gno offset
  let seg ← seq.segments.get a
  let seg' ← gtidSegmentAppend seg offset
  some { seq with
    segments := seq.segments.set a seg'
    nsegmentDeltas := seq.nsegmentDeltas + (seg'.capacity - seg.capacity) }

/-- Unlink the first segment; it is kept on the free list if that is shorter than the list
of used ones, and freed otherwise. -/
def dropFirstSegment (seq : GtidSeq) (first : Addr) (seg : GtidSegment) : GtidSeq :=
  let seq : GtidSeq := { seq with
    nsegment := seq.nsegment - 1
    nsegmentDeltas := seq.nsegmentDeltas - seg.capacity
    firstseg := seg.next
    lastseg := if seg.next = none then none else seq.lastseg
    segments := seq.segments.modifyAt seg.next (fun first => { first with prev := none }) }
  if seq.nfreeseg < seq.nsegment then
    { seq with
      segments := seq.segments.set first { seg with next := seq.freeseg, prev := none }
      freeseg := some first
      nfreeseg := seq.nfreeseg + 1
      nfreesegDeltas := seq.nfreesegDeltas + seg.capacity }
  else { seq with segments := seq.segments.free first }

/-- The index of the first gtid of a segment that is not before `offset`. -/
def searchOffset (seg : GtidSegment) (offset : Int) : Option Nat :=
  bisect (fun m => (offsetAt seg m).map (fun o => decide (o < offset)))
    (seg.ngno - seg.tgno) seg.tgno seg.ngno

/-- The loop of `gtidSeqTrim`. -/
def trimFrom («until» : Int) : Nat → GtidSeq → Option GtidSeq
  | 0, _ => none
  | fuel + 1, seq =>
    match seq.firstseg with
    | none => some seq
    | some first => do
      let seg ← seq.segments.get first
      -- no empty segment allowed
      guard (seg.tgno < seg.ngno)
      let tailOffset ← offsetAt seg (seg.ngno - 1)
      if tailOffset < «until» then
        -- whole segment trimmed
        trimFrom «until» fuel (dropFirstSegment seq first seg)
      else
        -- at least last gno will be kept
        let l ← searchOffset seg «until»
        guard (l < seg.ngno)
        some { seq with segments := seq.segments.set first { seg with tgno := l } }

def gtidSeqTrim (seq : GtidSeq) («until» : Int) : Option GtidSeq :=
  trimFrom «until» (seq.segments.size + 1) seq

def segmentNextOf (segments : Arena GtidSegment) (a : Addr) : Option Addr :=
  (segments.get a).bind GtidSegment.next

def segmentPrevOf (segments : Arena GtidSegment) (a : Addr) : Option Addr :=
  (segments.get a).bind GtidSegment.prev

/-- The segments from the last one back, as the searches visit them. -/
def segmentsBackward (seq : GtidSeq) : List Addr :=
  follow (segmentPrevOf seq.segments) seq.segments.size seq.lastseg

/-- The next gno a set has no record of, under `uuid`. -/
def requestNext (req : GtidSet) (uuid : Uuid) (rand : Rand) : Option Int :=
  match gtidSetFind req uuid with
  | some a => do
    let (_, gno) ← uuidSetNext (← req.uuidSetCells.get a) false rand
    some gno
  | none => some GTID_GNO_INITIAL

/-- The loop of `gtidSeqXsync` over the segments, from the last one back. -/
def xsyncFrom (segments : Arena GtidSegment) (req : GtidSet) :
    List Addr → Int → GtidSet → Rand → Option (Int × GtidSet)
  | [], offset, cont, _ => some (offset, cont)
  | a :: l, offset, cont, rand => do
    let seg ← segments.get a
    let nextGno ← requestNext req seg.uuid (rand.sub 0)
    let startGno := llong (seg.baseGno + seg.tgno)
    let endGno := llong (seg.baseGno + seg.ngno - 1)
    if nextGno > endGno then some (offset, cont)
    else if nextGno > startGno then
      let offset ← offsetAt seg (nextGno - seg.baseGno).toNat
      let (cont, _) ← gtidSetAdd cont seg.uuid nextGno endGno (rand.sub 1)
      some (offset, cont)
    else
      let offset ← offsetAt seg (startGno - seg.baseGno).toNat
      let (cont, _) ← gtidSetAdd cont seg.uuid startGno endGno (rand.sub 1)
      xsyncFrom segments req l offset cont (rand.sub 2)

/-- The offset `req` continues at, `-1` if it lacks nothing, and the gtids from there on. -/
def gtidSeqXsync (seq : GtidSeq) (req : GtidSet) (rand : Rand) : Option (Int × GtidSet) :=
  xsyncFrom seq.segments req (segmentsBackward seq) (-1) gtidSetNew rand

/-- The loop of `gtidSeqPsync` over the segments, from the last one back. -/
def psyncFrom (segments : Arena GtidSegment) (offset : Int) :
    List Addr → GtidSet → Rand → Option GtidSet
  | [], gtidSet, _ => some gtidSet
  | a :: l, gtidSet, rand => do
    let seg ← segments.get a
    let endGno := llong (seg.baseGno + seg.ngno - 1)
    let startOffset ← offsetAt seg seg.tgno
    if startOffset ≥ offset then
      let startGno := llong (seg.baseGno + seg.tgno)
      let (gtidSet, _) ← gtidSetAdd gtidSet seg.uuid startGno endGno (rand.sub 0)
      psyncFrom segments offset l gtidSet (rand.sub 1)
    else
      let l ← searchOffset seg offset
      let startGno := llong (seg.baseGno + l)
      let (gtidSet, _) ← gtidSetAdd gtidSet seg.uuid startGno endGno (rand.sub 0)
      some gtidSet

/-- The gtids from `offset` on. -/
def gtidSeqPsync (seq : GtidSeq) (offset : Int) (rand : Rand) : Option GtidSet :=
  psyncFrom seq.segments offset (segmentsBackward seq) gtidSetNew rand

/-! ## The sequence read as a log -/

structure LogEntry where
  uuid : Uuid
  gno : Int
  offset : Int
deriving DecidableEq, Repr

/-- The gtid at index `i` of a segment. -/
def entryAt (seg : GtidSegment) (i : Nat) : LogEntry where
  uuid := seg.uuid
  gno := seg.baseGno + i
  offset := seg.baseOffset + ((deltaAt seg i).getD 0).toNat

def segmentEntries (seg : GtidSegment) : List LogEntry :=
  (List.range' seg.tgno (seg.ngno - seg.tgno)).map (entryAt seg)

/-- The gtids of a sequence with their offsets, from `firstseg` to `lastseg`. -/
def gtidSeqEntries (seq : GtidSeq) : List LogEntry :=
  (follow (segmentNextOf seq.segments) seq.segments.size seq.firstseg).flatMap
    (fun a => ((seq.segments.get a).map segmentEntries).getD [])

end XredisGtid
