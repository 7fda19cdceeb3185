import XredisGtid.SkipList

/-!
# The gtid set

`gtidSet` of `gtid.c`: a singly linked list of `uuidSet` records in an arena, each
with the skip list of its gnos, and pointers `header`, `tail`, `cached` and
`current` into the list.  Every record owns its skip list, so an operation on the
list of one record is an assignment to that record.

The number and lengths that the source keeps beside its strings are those of the
byte lists here; comparing the lengths and then the bytes is equality of lists.
Loops that only read follow the list (`uuidSets`), those that relink it carry the
pointers `cur` and `prev` of the source.
-/
namespace XredisGtid
open Memory

abbrev Uuid := List UInt8

structure UuidSet where
  uuid : Uuid
  intervals : GtidIntervalSkipList
  next : Option Addr

def uuidSetNew (uuid : Uuid) : UuidSet where
  uuid := uuid
  intervals := gtidIntervalSkipListNew
  next := none

def uuidSetDup (uuidSet : UuidSet) : UuidSet where
  uuid := uuidSet.uuid
  intervals := gtidIntervalSkipListDup uuidSet.intervals
  next := none

def uuidSetCount (uuidSet : UuidSet) : Int := uuidSet.intervals.gnoCount

def uuidSetAdd (uuidSet : UuidSet) (start «end» : Int) (rand : Rand) : Option (UuidSet × Int) :=
  if gtidIntervalIsValid start «end» then do
    let (gsl, added) ← gtidIntervalSkipListAdd uuidSet.intervals start «end» rand
    some ({ uuidSet with intervals := gsl }, added)
  else some (uuidSet, 0)

def uuidSetRemove (uuidSet : UuidSet) (start «end» : Int) (rand : Rand) :
    Option (UuidSet × Int) :=
  if gtidIntervalIsValid start «end» then do
    let (gsl, removed) ← gtidIntervalSkipListRemove uuidSet.intervals start «end» rand
    some ({ uuidSet with intervals := gsl }, removed)
  else some (uuidSet, 0)

def uuidSetMerge (dst src : UuidSet) (rand : Rand) : Option (UuidSet × Int) :=
  if dst.uuid = src.uuid then do
    let (gsl, added) ← gtidIntervalSkipListMerge dst.intervals src.intervals rand
    some ({ dst with intervals := gsl }, added)
  else some (dst, 0)

def uuidSetDiff (dst src : UuidSet) (rand : Rand) : Option (UuidSet × Int) :=
  if dst.uuid = src.uuid then do
    let (gsl, removed) ← gtidIntervalSkipListDiff dst.intervals src.intervals rand
    some ({ dst with intervals := gsl }, removed)
  else some (dst, 0)

def uuidSetContains (uuidSet : UuidSet) (gno : Int) : Option Bool :=
  if gtidIntervalIsValid 1 gno then gtidIntervalSkipListContains uuidSet.intervals gno
  else some false

def uuidSetNext (uuidSet : UuidSet) (update : Bool) (rand : Rand) : Option (UuidSet × Int) := do
  let (gsl, gno) ← gtidIntervalSkipListNext uuidSet.intervals update rand
  some ({ uuidSet with intervals := gsl }, gno)

structure GtidSet where
  /-- next gno for current if > 0 -/
  curnext : Int
  current : Option Addr
  cached : Option Addr
  header : Option Addr
  tail : Option Addr
  uuidSetCells : Arena UuidSet

def gtidSetNew : GtidSet where
  curnext := 0
  current := none
  cached := none
  header := none
  tail := none
  uuidSetCells := Arena.empty

/-- `a->next` -/
def uuidSetNextOf (cells : Arena UuidSet) (a : Addr) : Option Addr :=
  (cells.get a).bind UuidSet.next

/-- The records from the header on, as a loop over the list visits them. -/
def uuidSets (gtidSet : GtidSet) : List Addr :=
  follow (uuidSetNextOf gtidSet.uuidSetCells) gtidSet.uuidSetCells.size gtidSet.header

/-- Whether the record at `a` is that of `uuid`. -/
def hasUuid (cells : Arena UuidSet) (uuid : Uuid) (a : Addr) : Bool :=
  ((cells.get a).map (fun u => decide (u.uuid = uuid))).getD false

def gtidSetFind (gtidSet : GtidSet) (uuid : Uuid) : Option Addr :=
  (uuidSets gtidSet).find? (hasUuid gtidSet.uuidSetCells uuid)

/-- Append a record; also the number of its gnos. -/
def gtidSetAppend (gtidSet : GtidSet) (uuidSet : UuidSet) : Option (GtidSet × Int) :=
  let x := gtidSet.uuidSetCells.fresh
  let cells := gtidSet.uuidSetCells.alloc uuidSet
  match gtidSet.header with
  | none =>
    some ({ gtidSet with header := some x, tail := some x, uuidSetCells := cells },
      uuidSetCount uuidSet)
  | some _ => do
    let tail ← gtidSet.tail
    some ({ gtidSet with
        tail := some x
        uuidSetCells := cells.modify tail (fun u => { u with next := some x }) },
      uuidSetCount uuidSet)

/-- The record of `uuid`, appended if there is none. -/
def findOrAppend (gtidSet : GtidSet) (found : Option Addr) (uuid : Uuid) :
    Option (GtidSet × Addr) :=
  match found with
  | some cur => some (gtidSet, cur)
  | none => do
    let (appended, _) ← gtidSetAppend gtidSet (uuidSetNew uuid)
    some (appended, gtidSet.uuidSetCells.fresh)

/-- The cached record, if it is that of `uuid`. -/
def cachedFor (gtidSet : GtidSet) (uuid : Uuid) : Option Addr :=
  gtidSet.cached.filter (hasUuid gtidSet.uuidSetCells uuid)

def gtidSetAdd (gtidSet : GtidSet) (uuid : Uuid) (start «end» : Int) (rand : Rand) :
    Option (GtidSet × Int) := do
  -- fast path: adding to the cached uuid set
  let found := (cachedFor gtidSet uuid).or (gtidSetFind gtidSet uuid)
  let (gtidSet, cur) ← findOrAppend gtidSet found uuid
  let u ← gtidSet.uuidSetCells.get cur
  let (u, added) ← uuidSetAdd u start «end» rand
  some ({ gtidSet with cached := some cur, uuidSetCells := gtidSet.uuidSetCells.set cur u }, added)

/-- Take the record at `cur`, between `prev` and `next`, out of the list and free it. -/
def unlinkUuidSet (gtidSet : GtidSet) (cur : Addr) (prev next : Option Addr) : GtidSet :=
  let cells := match prev with
    | some prev => gtidSet.uuidSetCells.modify prev (fun u => { u with next := next })
    | none => gtidSet.uuidSetCells
  { gtidSet with
    header := if gtidSet.header = some cur then next else gtidSet.header
    tail := if gtidSet.tail = some cur then prev else gtidSet.tail
    uuidSetCells := cells.free cur }

/-- The value of an `int` variable assigned from a `gno_t`. -/
def intOfGno (x : Int) : Int := (x + 2147483648) % 4294967296 - 2147483648

/-- The search of `gtidSetRemove` from `cur` on. -/
def removeFrom (uuid : Uuid) (start «end» : Int) (rand : Rand) (gtidSet : GtidSet) :
    Nat → Option Addr → Option Addr → Option (GtidSet × Int)
  | 0, _, _ => none
  | _ + 1, none, _ => some ({ gtidSet with cached := none }, 0)
  | fuel + 1, some cur, prev => do
    let u ← gtidSet.uuidSetCells.get cur
    if u.uuid = uuid then
      let (u', removed) ← uuidSetRemove u start «end» rand
      let gtidSet := { gtidSet with uuidSetCells := gtidSet.uuidSetCells.set cur u' }
      if uuidSetCount u' = 0 then
        some ({ unlinkUuidSet gtidSet cur prev u.next with
            current := if gtidSet.current = some cur then none else gtidSet.current
            cached := none },
          intOfGno removed)
      else some ({ gtidSet with cached := some cur }, intOfGno removed)
    else removeFrom uuid start «end» rand gtidSet fuel u.next (some cur)

/-- Remove the range under `uuid`; the number of gnos removed is kept in an `int`. -/
def gtidSetRemove (gtidSet : GtidSet) (uuid : Uuid) (start «end» : Int) (rand : Rand) :
    Option (GtidSet × Int) :=
  removeFrom uuid start «end» rand gtidSet (gtidSet.uuidSetCells.size + 1) gtidSet.header none

/-- The body of the loop of `gtidSetMerge`: add the gnos of one record of `src`. -/
def mergeRecord (dst : GtidSet) (srcUuidSet : UuidSet) (rand : Rand) : Option (GtidSet × Int) :=
  match gtidSetFind dst srcUuidSet.uuid with
  | some cur => do
    let dstUuidSet ← dst.uuidSetCells.get cur
    let (u, added) ← uuidSetMerge dstUuidSet srcUuidSet rand
    some ({ dst with uuidSetCells := dst.uuidSetCells.set cur u }, added)
  | none => gtidSetAppend dst (uuidSetDup srcUuidSet)

/-- The loop of `gtidSetMerge` over the records of `src`. -/
def mergeFrom (src : Arena UuidSet) :
    List Addr → GtidSet → Rand → Option (GtidSet × Int)
  | [], dst, _ => some (dst, 0)
  | a :: l, dst, rand => do
    let srcUuidSet ← src.get a
    let (dst, added) ← mergeRecord dst srcUuidSet (rand.sub 0)
    let (dst, addedRest) ← mergeFrom src l dst (rand.sub 1)
    some (dst, llong (added + addedRest))

/-- Add every gtid of `src`, which is only read; also the number of gtids added. -/
def gtidSetMerge (dst src : GtidSet) (rand : Rand) : Option (GtidSet × Int) :=
  mergeFrom src.uuidSetCells (uuidSets src) dst rand

/-- Remove from one record the gnos `src` has under its uuid. -/
def diffRecord (src : GtidSet) (cur : UuidSet) (rand : Rand) : Option (UuidSet × Int) :=
  match gtidSetFind src cur.uuid with
  | some a => do
    let srcUuidSet ← src.uuidSetCells.get a
    uuidSetDiff cur srcUuidSet rand
  | none => some (cur, 0)

/-- The loop of `gtidSetDiff` from `cur` on. -/
def diffFrom (src : GtidSet) :
    Nat → Option Addr → Option Addr → GtidSet → Rand → Option (GtidSet × Int)
  | 0, _, _, _, _ => none
  | _ + 1, none, _, dst, _ => some (dst, 0)
  | fuel + 1, some cur, prev, dst, rand => do
    let u ← dst.uuidSetCells.get cur
    let (u', removed) ← diffRecord src u (rand.sub 0)
    let dst := { dst with uuidSetCells := dst.uuidSetCells.set cur u' }
    let (dst, prev) :=
      if uuidSetCount u' = 0 then
        -- delete uuid_set if it turns empty
        ({ unlinkUuidSet dst cur prev u.next with
            cached := if dst.cached = some cur then none else dst.cached }, prev)
      else (dst, some cur)
    let (dst, removedRest) ← diffFrom src fuel u.next prev dst (rand.sub 1)
    some (dst, llong (removed + removedRest))

/-- Remove every gtid of `src`, which is only read; also the number of gtids removed. -/
def gtidSetDiff (dst src : GtidSet) (rand : Rand) : Option (GtidSet × Int) :=
  diffFrom src (dst.uuidSetCells.size + 1) dst.header none dst rand

def gtidSetNext (gtidSet : GtidSet) (uuid : Uuid) (update : Bool) (rand : Rand) :
    Option (GtidSet × Int) :=
  match gtidSetFind gtidSet uuid, update with
  | none, false => some (gtidSet, GTID_GNO_INITIAL)
  | found, _ => do
    let (gtidSet, cur) ← findOrAppend gtidSet found uuid
    let u ← gtidSet.uuidSetCells.get cur
    let (u, gno) ← uuidSetNext u update rand
    some ({ gtidSet with cached := some cur, uuidSetCells := gtidSet.uuidSetCells.set cur u }, gno)

def gtidSetCount (gtidSet : GtidSet) : Int :=
  (uuidSets gtidSet).foldl
    (fun count a => llong (count + ((gtidSet.uuidSetCells.get a).map uuidSetCount).getD 0)) 0

def gtidSetContains (gtidSet : GtidSet) (uuid : Uuid) (gno : Int) : Option (GtidSet × Bool) :=
  match gtidSetFind gtidSet uuid with
  | some cur => do
    let contains ← uuidSetContains (← gtidSet.uuidSetCells.get cur) gno
    some ({ gtidSet with cached := some cur }, contains)
  | none => some ({ gtidSet with cached := none }, false)

/-- The body of the loop of `gtidSetDup`: link a copied record behind `prev`. -/
def dupRecord (dup : GtidSet) (prev : Option Addr) (uuidSet : UuidSet) : GtidSet :=
  let x := dup.uuidSetCells.fresh
  let cells := dup.uuidSetCells.alloc uuidSet
  { dup with
    header := if dup.header = none then some x else dup.header
    uuidSetCells := match prev with
      | some prev => cells.modify prev (fun u => { u with next := some x })
      | none => cells }

/-- The loop of `gtidSetDup`: copy the records of a list, `prev` being the last copy. -/
def dupFrom (src : Arena UuidSet) :
    List Addr → Option Addr → GtidSet → Option GtidSet
  | [], prev, dup => some { dup with tail := prev }
  | a :: l, prev, dup => do
    let u ← src.get a
    dupFrom src l (some dup.uuidSetCells.fresh) (dupRecord dup prev (uuidSetDup u))

def gtidSetDup (gtidSet : GtidSet) : Option GtidSet :=
  dupFrom gtidSet.uuidSetCells (uuidSets gtidSet) none gtidSetNew

def gtidSetEqual (set1 set2 : GtidSet) (rand : Rand) : Option Bool := do
  let (set, _) ← gtidSetDiff (← gtidSetDup set1) set2 (rand.sub 0)
  if gtidSetCount set ≠ 0 then some false
  else
    let (set, _) ← gtidSetDiff (← gtidSetDup set2) set1 (rand.sub 1)
    some (gtidSetCount set = 0)

/-- Whether the two sets have a common uuid. -/
def gtidSetRelated (set1 set2 : GtidSet) : Bool :=
  (uuidSets set2).any (fun a =>
    ((set2.uuidSetCells.get a).map (fun u => (gtidSetFind set1 u.uuid).isSome)).getD false)

/-- Note that an empty uuid set might be added if needed. -/
def gtidSetCurrentUuidSetUpdate (gtidSet : GtidSet) (uuid : Uuid) : Option GtidSet := do
  let (gtidSet, cur) ← findOrAppend gtidSet (gtidSetFind gtidSet uuid) uuid
  some { gtidSet with current := some cur }

def gtidSetCurrentUuidSetSetNextGno (gtidSet : GtidSet) (curnext : Int) (rand : Rand) :
    Option GtidSet := do
  let current ← gtidSet.current
  let (_, next) ← uuidSetNext (← gtidSet.uuidSetCells.get current) false rand
  guard (next ≤ curnext)
  some { gtidSet with curnext := curnext, cached := gtidSet.current }

def gtidSetCurrentUuidSetNext (gtidSet : GtidSet) (update : Bool) (rand : Rand) :
    Option (GtidSet × Int) :=
  let gtidSet : GtidSet := { gtidSet with cached := gtidSet.current }
  if gtidSet.curnext = 0 then do
    let current ← gtidSet.current
    let (u, gno) ← uuidSetNext (← gtidSet.uuidSetCells.get current) update rand
    some ({ gtidSet with uuidSetCells := gtidSet.uuidSetCells.set current u }, gno)
  else if update then do
    let current ← gtidSet.current
    let (u, _) ← uuidSetAdd (← gtidSet.uuidSetCells.get current) gtidSet.curnext gtidSet.curnext
      rand
    some ({ gtidSet with curnext := 0, uuidSetCells := gtidSet.uuidSetCells.set current u },
      gtidSet.curnext)
  else some (gtidSet, gtidSet.curnext)

end XredisGtid
