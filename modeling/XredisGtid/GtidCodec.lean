import XredisGtid.GtidUtil
import XredisGtid.GtidSet

/-!
# The text of a gtid set

The encode and decode functions of `gtid.c`.  A gtid set is written

  uuid:start-end:gno:start-end,uuid:gno, …

with one number for an interval of one gno, and an uuid set without gnos left out.
The functions that write return the length, or `-1` where the source goes to `err`.
The lengths are `size_t`, and where a failed call makes one wrap around the model
wraps too.

Decoding returns `none` inside the result for the `NULL` of a text that is not a gtid
set.  Every piece of the text is given to one `uuidSetDecode`, and the record it makes
is appended without a search for the uuid.
-/
namespace XredisGtid
open Memory Buffer

def GNO_REPR_MAX_LEN : Nat := 21

def hyphen : UInt8 := '-'.toUInt8
def colon : UInt8 := ':'.toUInt8
def split : UInt8 := ','.toUInt8

/-- `a - b` on `size_t`. -/
def subSize (a b : Nat) : Nat := if b ≤ a then a - b else a + 18446744073709551616 - b

/-- The value of an `int` variable assigned from a `size_t`. -/
def intOfSize (x : Int) : Int := intOfGno x

/-! ## Encoding -/

def gtidIntervalEncode (mem : Bytes) (buf maxlen : Nat) (start «end» : Int) :
    Option (Bytes × Int) := do
  if GNO_REPR_MAX_LEN > maxlen then some (mem, -1)
  else
    let (mem, len) ← ll2string mem buf GNO_REPR_MAX_LEN start
    if start ≠ «end» then
      if len + 1 + GNO_REPR_MAX_LEN > maxlen then some (mem, -1)
      else
        let mem ← memcpy mem (buf + len) [hyphen]
        let len := len + 1
        let (mem, n) ← ll2string mem (buf + len) GNO_REPR_MAX_LEN «end»
        some (mem, ((len + n : Nat) : Int))
    else some (mem, (len : Int))

/-- The loop of `uuidSetEncode` over the intervals. -/
def encodeIntervals (buf maxlen : Nat) : List (Int × Int) → Bytes → Nat → Option (Bytes × Int)
  | [], mem, len => some (mem, llong len)
  | i :: l, mem, len => do
    if len + 1 > maxlen then some (mem, -1)
    else
      let mem ← memcpy mem (buf + len) [colon]
      let len := len + 1
      let (mem, ret) ← gtidIntervalEncode mem (buf + len) (maxlen - len) i.1 i.2
      let ret := sizeT ret
      -- `ret` is a `size_t`: this never holds
      if ret < 0 then some (mem, -1)
      else encodeIntervals buf maxlen l mem (sizeT (len + ret))

def uuidSetEncode (mem : Bytes) (buf maxlen : Nat) (uuidSet : UuidSet) : Option (Bytes × Int) := do
  if uuidSet.uuid.length > maxlen then some (mem, -1)
  else
    let mem ← memcpy mem buf uuidSet.uuid
    encodeIntervals buf maxlen (intervals uuidSet.intervals) mem uuidSet.uuid.length

/-- 44 = 1(:) + 21(longlong) + 1(-) + 21(long long) -/
def uuidSetEstimatedEncodeBufferSize (uuidSet : UuidSet) : Nat :=
  uuidSet.uuid.length + uuidSet.intervals.nodeCount * 44

def gtidSetEstimatedEncodeBufferSize (gtidSet : GtidSet) : Nat :=
  (uuidSets gtidSet).foldl
    (fun maxLen a => maxLen +
      (((gtidSet.uuidSetCells.get a).map uuidSetEstimatedEncodeBufferSize).getD 0 + 1)) 1

/-- The separator in front of a record, unless it is the first one written. -/
def encodeSplit (first : Bool) (mem : Bytes) (p : Nat) : Option Bytes :=
  if first then some mem else memcpy mem p [split]

/-- The loop of `gtidSetEncode`; `first` until a record has been written. -/
def encodeFrom (cells : Arena UuidSet) (buf maxlen : Nat) :
    List Addr → Bool → Bytes → Nat → Option (Bytes × Int)
  | [], _, mem, len => some (mem, llong len)
  | a :: l, first, mem, len => do
    let cur ← cells.get a
    if uuidSetCount cur = 0 then encodeFrom cells buf maxlen l first mem len
    else if ¬ first ∧ sizeT (len + 1) > maxlen then some (mem, -1)
    else
      let mem ← encodeSplit first mem (sizeT (buf + len))
      let len := if first then len else sizeT (len + 1)
      let (mem, ret) ← uuidSetEncode mem (sizeT (buf + len)) (subSize maxlen len) cur
      let ret := sizeT ret
      -- as above
      if ret < 0 then some (mem, -1)
      else encodeFrom cells buf maxlen l false mem (sizeT (len + ret))

def gtidSetEncode (mem : Bytes) (buf maxlen : Nat) (gtidSet : GtidSet) : Option (Bytes × Int) :=
  encodeFrom gtidSet.uuidSetCells buf maxlen (uuidSets gtidSet) true mem 0

/-! ## Decoding -/

/-- One number, or two with a hyphen between them. -/
def gtidIntervalDecode (mem : Bytes) (s len : Nat) : Option (Option (Int × Int)) := do
  match ← scan mem hyphen len s with
  | none =>
    match ← string2ll mem s len with
    | some start => some (some (start, start))
    | none => some none
  | some p =>
    let index := p - s
    match ← string2ll mem s index with
    | none => some none
    | some start =>
      match ← string2ll mem (s + index + 1) (len - index - 1) with
      | some «end» => some (some (start, «end»))
      | none => some none

/-- Add the interval between two separators, if there is anything between them. -/
def decodeInterval (mem : Bytes) (s : Nat) (rand : Rand) (uuidSet : UuidSet)
    (startIndex endIndex : Nat) : Option (Option UuidSet) := do
  if startIndex < endIndex then
    match ← gtidIntervalDecode mem (s + startIndex) (endIndex - startIndex) with
    | none => some none
    | some (start, «end») =>
      if gtidIntervalIsValid start «end» then
        let (uuidSet, _) ← uuidSetAdd uuidSet start «end» (rand.sub endIndex)
        some (some uuidSet)
      else some none
  else some (some uuidSet)

def uuidSetDecode (mem : Bytes) (s : Nat) (len : Int) (rand : Rand) : Option (Option UuidSet) := do
  if len ≤ 0 then some none
  else
    let len := len.toNat
    let i := match ← scan mem colon len s with
      | some p => p - s
      | none => len
    let uuidSet := uuidSetNew ((mem.drop s).take i)
    -- this is an empty uuidSet
    if i = len then some (some uuidSet)
    else forPieces mem s colon (decodeInterval mem s rand) (len - (i + 1)) (i + 1) (i + 1) uuidSet

/-- Decode and append the uuid set between two separators; its start is an `int`. -/
def decodeUuidSet (mem : Bytes) (src : Nat) (rand : Rand) (gtidSet : GtidSet)
    (startIndex i : Nat) : Option (Option GtidSet) := do
  let start := intOfSize startIndex
  guard (0 ≤ (src : Int) + start)
  match ← uuidSetDecode mem (src + start).toNat (intOfSize (i - start)) (rand.sub i) with
  | none => some none
  | some uuidSet =>
    let (gtidSet, _) ← gtidSetAppend gtidSet uuidSet
    some (some gtidSet)

def gtidSetDecode (mem : Bytes) (src len : Nat) (rand : Rand) : Option (Option GtidSet) :=
  if len = 0 then some (some gtidSetNew)
  else forPieces mem src split (decodeUuidSet mem src rand) len 0 0 gtidSetNew

/-! ## One gtid -/

/-- Write a text `uuid:gno`; the encoded length, or `-1` if encode failed. -/
def uuidGnoEncode (mem : Bytes) (buf maxlen : Nat) (uuid : Uuid) (gno : Int) :
    Option (Bytes × Int) := do
  if maxlen < uuid.length + 1 + GNO_REPR_MAX_LEN then some (mem, -1)
  else
    let mem ← memcpy mem buf uuid
    let mem ← memcpy mem (buf + uuid.length) [colon]
    let (mem, n) ← ll2string mem (buf + uuid.length + 1) GNO_REPR_MAX_LEN gno
    some (mem, ((uuid.length + 1 + n : Nat) : Int))

/-- The gno of a text `uuid:gno`, and the length of the uuid. -/
def uuidGnoDecode (mem : Bytes) (src srcLen : Nat) : Option (Option (Int × Nat)) := do
  match ← scan mem colon srcLen src with
  | none => some none
  | some p =>
    let index := intOfSize (p - src : Nat)
    if index = -1 then some none
    else
      guard (0 ≤ index)
      let index := index.toNat
      match ← string2ll mem (src + index + 1) (srcLen - index - 1) with
      | none => some none
      | some gno => some (some (gno, index))

end XredisGtid
