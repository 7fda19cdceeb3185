import XredisGtid.GtidSet
import XredisGtid.Buffer

/-!
# The gtid sets of a server

`xredis_gtid.c`: the sets `gtid_executed` and `gtid_lost` of a server, the functions
that change them, and the commands GTID and GTIDX.  Logging and replies are left out,
and so is what the command inside of a GTID command does to the keys.

An allocation is the call `gtidSetCurrentUuidSetNext(server.gtid_executed,1)` made when
a write is propagated.
-/
namespace XredisGtid
open Buffer

/-- The server's own uuid and its gtid sets. -/
structure ServerSets where
  uuid : Uuid
  gtidExecuted : GtidSet
  gtidLost : GtidSet

def serverGtidSetGet (server : ServerSets) (rand : Rand) : Option GtidSet := do
  let gtidMaster ← gtidSetDup server.gtidExecuted
  let (gtidMaster, _) ← gtidSetMerge gtidMaster server.gtidLost rand
  some gtidMaster

def serverGtidSetContains (server : ServerSets) (uuid : Uuid) (gno : Int) :
    Option (ServerSets × Bool) := do
  let (gtidExecuted, executed) ← gtidSetContains server.gtidExecuted uuid gno
  let server := { server with gtidExecuted := gtidExecuted }
  if executed then some (server, true)
  else
    let (gtidLost, lost) ← gtidSetContains server.gtidLost uuid gno
    some ({ server with gtidLost := gtidLost }, lost)

def serverGtidSetCurrrentUuidSetUpdateNextGno (server : ServerSets) (rand : Rand) :
    Option ServerSets := do
  let (gtidExecuted, curnext) ←
    gtidSetCurrentUuidSetNext server.gtidExecuted false (rand.sub 0)
  let (gtidLost, lostnext) ← gtidSetNext server.gtidLost server.uuid false (rand.sub 1)
  let server := { server with gtidExecuted := gtidExecuted, gtidLost := gtidLost }
  if curnext < lostnext then
    let gtidExecuted ← gtidSetCurrentUuidSetSetNextGno server.gtidExecuted lostnext (rand.sub 2)
    some { server with gtidExecuted := gtidExecuted }
  else some server

def serverGtidSetResetExecuted (server : ServerSets) (gtidExecuted : GtidSet) (rand : Rand) :
    Option ServerSets := do
  let gtidExecuted ← gtidSetCurrentUuidSetUpdate gtidExecuted server.uuid
  serverGtidSetCurrrentUuidSetUpdateNextGno { server with gtidExecuted := gtidExecuted } rand

def serverGtidSetResetLost (server : ServerSets) (gtidLost : GtidSet) (rand : Rand) :
    Option ServerSets :=
  serverGtidSetCurrrentUuidSetUpdateNextGno { server with gtidLost := gtidLost } rand

def serverGtidSetAddLost (server : ServerSets) (deltaLost : GtidSet) (rand : Rand) :
    Option ServerSets := do
  let (gtidLost, _) ← gtidSetMerge server.gtidLost deltaLost (rand.sub 0)
  serverGtidSetCurrrentUuidSetUpdateNextGno { server with gtidLost := gtidLost } (rand.sub 1)

def serverGtidSetRemoveLost (server : ServerSets) (deltaLost : GtidSet) (rand : Rand) :
    Option ServerSets := do
  let (gtidLost, _) ← gtidSetDiff server.gtidLost deltaLost rand
  some { server with gtidLost := gtidLost }

-- the lost set is the one that is merged into, here and in the next function
def serverGtidSetAddExecuted (server : ServerSets) (deltaExecuted : GtidSet) (rand : Rand) :
    Option ServerSets := do
  let (gtidLost, _) ← gtidSetMerge server.gtidLost deltaExecuted rand
  some { server with gtidLost := gtidLost }

def serverGtidSetRemoveExecuted (server : ServerSets) (deltaExecuted : GtidSet) (rand : Rand) :
    Option ServerSets := do
  let (gtidLost, _) ← gtidSetMerge server.gtidLost deltaExecuted (rand.sub 0)
  serverGtidSetCurrrentUuidSetUpdateNextGno { server with gtidLost := gtidLost } (rand.sub 1)

/-- A GTID command; also whether the command inside of it runs. -/
def gtidCommand (server : ServerSets) (uuid : Uuid) (gno : Int) (rand : Rand) :
    Option (ServerSets × Bool) := do
  let (server, contains) ← serverGtidSetContains server uuid gno
  if contains then some (server, false)
  else
    let (gtidExecuted, added) ← gtidSetAdd server.gtidExecuted uuid gno gno rand
    guard (added ≠ 0)
    some ({ server with gtidExecuted := gtidExecuted }, true)

/-- GTID commands one after another; also which of the commands inside of them run. -/
def gtidCommands : ServerSets → List (Uuid × Int) → Rand → Option (ServerSets × List Bool)
  | server, [], _ => some (server, [])
  | server, (uuid, gno) :: l, rand => do
    let (server, run) ← gtidCommand server uuid gno (rand.sub 0)
    let (server, runs) ← gtidCommands server l (rand.sub 1)
    some (server, run :: runs)

/-- `strcasecmp(a,b) == 0` -/
def equalsIgnoreCase (a b : Bytes) : Bool :=
  let lower := fun c : UInt8 => if 'A'.toUInt8 ≤ c ∧ c ≤ 'Z'.toUInt8 then c + 32 else c
  a.map lower == b.map lower

/-- The set a GTIDX command names. -/
inductive GtidSetType where
  | executed
  | lost
deriving DecidableEq, Repr

def findGtidSet (server : ServerSets) : GtidSetType → GtidSet
  | .executed => server.gtidExecuted
  | .lost => server.gtidLost

def assignGtidSet (server : ServerSets) (type : GtidSetType) (gtidSet : GtidSet) : ServerSets :=
  match type with
  | .executed => { server with gtidExecuted := gtidSet }
  | .lost => { server with gtidLost := gtidSet }

/-- GTIDX ADD EXECUTED|LOST; also the reply. -/
def gtidxAdd (server : ServerSets) (type : GtidSetType) (uuid : Uuid) (start «end» : Int)
    (rand : Rand) : Option (ServerSets × Int) := do
  let (gtidSet, added) ← gtidSetAdd (findGtidSet server type) uuid start «end» (rand.sub 0)
  let server ← serverGtidSetCurrrentUuidSetUpdateNextGno (assignGtidSet server type gtidSet)
    (rand.sub 1)
  some (server, added)

/-- GTIDX REMOVE EXECUTED|LOST; also the reply. -/
def gtidxRemove (server : ServerSets) (type : GtidSetType) (uuid : Uuid) (start «end» : Int)
    (rand : Rand) : Option (ServerSets × Int) := do
  let (gtidSet, removed) ← gtidSetRemove (findGtidSet server type) uuid start «end» rand
  -- update current uuid set because it might be removed
  let gtidSet ← match type with
    | .executed => gtidSetCurrentUuidSetUpdate gtidSet server.uuid
    | .lost => some gtidSet
  some (assignGtidSet server type gtidSet, removed)

/-- Allocate the gno of a write. -/
def allocateGno (server : ServerSets) (rand : Rand) : Option (ServerSets × Int) := do
  let (gtidExecuted, gno) ← gtidSetCurrentUuidSetNext server.gtidExecuted true rand
  some ({ server with gtidExecuted := gtidExecuted }, gno)

end XredisGtid
