import XredisGtid.Server
import XredisGtid.GtidSeq
import XredisGtid.Buffer

/-!
# The replication stream of a server

`xredis_gtid_rs.c`: the repl mode of a server, the stage before it (`prevReplMode`),
the backlog with its index `gtidSeq`, and the functions that reset, switch and update
them.

Offsets in the stream are `long long` in the source and integers without a bound here: a stream of
2^63 bytes is left out.  Of the backlog only its range is kept.  The functions of Redis that are
called are a parameter, with what is assumed of them: `RedisReplication`.  Disconnecting replicas
and logging are left out.  Random ids are arguments.
-/
namespace XredisGtid
open Buffer

def CONFIG_RUN_ID_SIZE : Nat := 40
def CONFIG_REPL_BACKLOG_MIN_SIZE : Int := 16384

inductive Mode where
  | unset
  | psync
  | xsync
deriving DecidableEq, Repr

structure ReplMode where
  «from» : Int
  mode : Mode
  /-- The first field of both members of the union. -/
  replid : Bytes
  replid2 : Bytes
  secondReplidOffset : Int
  gtidReploffDelta : Int
deriving DecidableEq, Repr

def replModeInit : ReplMode where
  «from» := -1
  mode := .unset
  replid := []
  replid2 := []
  secondReplidOffset := 0
  gtidReploffDelta := 0

/-- The range of the backlog; its fields keep their values while there is none. -/
structure ReplBacklog where
  created : Bool
  size : Int
  histlen : Int
  off : Int
deriving DecidableEq, Repr

structure Server extends ServerSets where
  replMode : ReplMode
  prevReplMode : ReplMode
  replid : Bytes
  replid2 : Bytes
  secondReplidOffset : Int
  masterReplOffset : Int
  gtidReploffDelta : Int
  /-- The whole array; `masterUuidLen` bytes of it count. -/
  masterUuid : Bytes
  masterUuidLen : Nat
  gtidUuidInterested : Bytes
  gtidXsyncMaxGap : Int
  /-- Whether these pointers are not `NULL`. -/
  masterhost : Bool
  master : Bool
  cachedMaster : Bool
  replBacklog : ReplBacklog
  gtidSeq : Option GtidSeq

def GTID_XSYNC_UUID_INTERESTED_DEFAULT : Bytes := ['*'.toUInt8]
def GTID_XSYNC_UUID_INTERESTED_FULLRESYNC : Bytes := ['?'.toUInt8]

def xsyncUuidInterestedInit (server : Server) : Server :=
  { server with gtidUuidInterested := GTID_XSYNC_UUID_INTERESTED_DEFAULT }

/-- `memcpy` to the start of an array. -/
def overwrite (array src : Bytes) : Bytes := src ++ array.drop src.length

def setMasterUuid (server : Server) (masterUuid : Bytes) : Server :=
  let uuid := masterUuid.take CONFIG_RUN_ID_SIZE
  { server with masterUuid := overwrite server.masterUuid (uuid ++ [0]), masterUuidLen := uuid.length }

def clearMasterUuid (server : Server) : Server :=
  { server with
    masterUuid := List.replicate CONFIG_RUN_ID_SIZE '0'.toUInt8 ++ [0]
    masterUuidLen := CONFIG_RUN_ID_SIZE }

def getMasterUuid (server : Server) : Bytes :=
  if server.masterhost then server.masterUuid.take server.masterUuidLen else server.uuid

/-! ## Redis -/

/-- An empty backlog behind the offset `offset`. -/
def ReplBacklog.create (backlog : ReplBacklog) (offset : Int) : ReplBacklog :=
  { backlog with created := true, histlen := 0, off := offset + 1 }

def ReplBacklog.resize (backlog : ReplBacklog) (newsize offset : Int) : ReplBacklog :=
  let newsize := max newsize CONFIG_REPL_BACKLOG_MIN_SIZE
  if backlog.size = newsize then backlog
  else if backlog.created then { backlog with size := newsize }.create offset
  else { backlog with size := newsize }

/-- The backlog after `n` bytes more, up to the offset `offset`. -/
def ReplBacklog.feed (backlog : ReplBacklog) (n : Nat) (offset : Int) : ReplBacklog :=
  if backlog.created then
    let histlen := min backlog.size (backlog.histlen + n)
    { backlog with histlen := histlen, off := offset - histlen + 1 }
  else backlog

/-- The functions of Redis that are called on a server, with what is assumed of each of them. -/
class RedisReplication where
  createReplicationBacklog : Server → Server
  resizeReplicationBacklog : Server → Int → Server
  freeReplicationBacklog : Server → Server
  /-- With the number of bytes that are fed. -/
  feedReplicationBacklog : Server → Nat → Server
  clearReplicationId2 : Server → Server
  replicationDiscardCachedMaster : Server → Server
  createReplicationBacklog_eq (server : Server) : createReplicationBacklog server =
    { server with replBacklog := server.replBacklog.create server.masterReplOffset }
  resizeReplicationBacklog_eq (server : Server) (newsize : Int) :
    resizeReplicationBacklog server newsize =
      { server with replBacklog := server.replBacklog.resize newsize server.masterReplOffset }
  freeReplicationBacklog_eq (server : Server) : freeReplicationBacklog server =
    { server with replBacklog := { server.replBacklog with created := false } }
  feedReplicationBacklog_eq (server : Server) (n : Nat) : feedReplicationBacklog server n =
    { server with
      masterReplOffset := server.masterReplOffset + n
      replBacklog := server.replBacklog.feed n (server.masterReplOffset + n) }
  clearReplicationId2_eq (server : Server) : clearReplicationId2 server =
    { server with
      replid2 := List.replicate CONFIG_RUN_ID_SIZE '0'.toUInt8
      secondReplidOffset := -1 }
  replicationDiscardCachedMaster_eq (server : Server) : replicationDiscardCachedMaster server =
    { server with cachedMaster := false }

export RedisReplication (createReplicationBacklog createReplicationBacklog_eq
  resizeReplicationBacklog resizeReplicationBacklog_eq freeReplicationBacklog
  freeReplicationBacklog_eq feedReplicationBacklog feedReplicationBacklog_eq clearReplicationId2
  clearReplicationId2_eq replicationDiscardCachedMaster replicationDiscardCachedMaster_eq)

/-- Redis, for runs of a concrete server. -/
instance : RedisReplication where
  createReplicationBacklog := _
  resizeReplicationBacklog := _
  freeReplicationBacklog := _
  feedReplicationBacklog := _
  clearReplicationId2 := _
  replicationDiscardCachedMaster := _
  createReplicationBacklog_eq _ := rfl
  resizeReplicationBacklog_eq _ _ := rfl
  freeReplicationBacklog_eq _ := rfl
  feedReplicationBacklog_eq _ _ := rfl
  clearReplicationId2_eq _ := rfl
  replicationDiscardCachedMaster_eq _ := rfl

variable [RedisReplication]

/-! ## Repl modes -/

def resetServerReplMode (server : Server) (mode : Mode) : Server :=
  { server with
    prevReplMode := replModeInit
    replMode := { server.replMode with mode := mode, «from» := server.masterReplOffset + 1 } }

/-- What is saved of the stage that ends when the server turns to `mode`. -/
def savedReplMode (server : Server) (mode : Mode) : ReplMode :=
  let prevMode :=
    { server.prevReplMode with «from» := server.replMode.from, mode := server.replMode.mode }
  if mode = .psync then
    { prevMode with replid := server.replid, gtidReploffDelta := server.gtidReploffDelta }
  else
    { prevMode with
      replid := server.replid
      replid2 := server.replid2
      secondReplidOffset := server.secondReplidOffset }

/-- Must reset server repl mode before shift. -/
def shiftServerReplMode (server : Server) (mode : Mode) : Option Server := do
  guard (server.replMode.mode ≠ .unset ∧ server.replMode.mode ≠ mode)
  some { server with
    prevReplMode := savedReplMode server mode
    replMode := { server.replMode with «from» := server.masterReplOffset + 1, mode := mode } }

/-- Replid and offset of current repl mode are save in server struct -/
def serverReplModeGetCurReplIdOff (server : Server) (offset : Int) : Option Bytes × Int :=
  match server.replMode.mode with
  | .psync => (some server.replid, offset)
  | .xsync => (some server.replid, server.gtidReploffDelta + offset)
  | .unset => (none, -1)

/-- Replid and offset of prev repl mode are save in prev repl mode -/
def serverReplModeGetPrevReplIdOff (server : Server) (offset : Int) : Option Bytes × Int :=
  match server.prevReplMode.mode with
  | .psync => (some server.prevReplMode.replid, offset)
  | .xsync => (some server.prevReplMode.replid, server.prevReplMode.gtidReploffDelta + offset)
  | .unset => (none, -1)

def ctripGetMasterReploff (server : Server) : Option Int := do
  guard (server.replMode.mode = .xsync ∨ server.gtidReploffDelta = 0)
  some (server.masterReplOffset + server.gtidReploffDelta)

def ctripSetMasterReploff (server : Server) (reploff : Int) : Option Server := do
  guard (server.replMode.mode = .xsync ∨ reploff = server.masterReplOffset)
  some { server with gtidReploffDelta := reploff - server.masterReplOffset }

/-- The stage of the stream an offset is in; an offset that cannot be served has the reason
and the numbers of its message. -/
inductive LocateResult where
  /-- request mode(%s) != located mode(%s) -/
  | invalidMode (request located : Mode)
  /-- prev repl mode not valid -/
  | invalidPrev
  /-- psync offset(%lld) < repl_mode.from(%lld) -/
  | invalidFrom (offset «from» : Int)
  /-- psync offset(%lld) < prev_repl_mode.from(%lld) -/
  | invalidPrevFrom (offset «from» : Int)
  | prev (limit : Int)
  | switch
  | cur
deriving DecidableEq, Repr

def locateServerReplMode (server : Server) (requestMode : Mode) (psyncOffset : Int) :
    Option LocateResult := do
  guard (server.replMode.mode ≠ .unset)
  guard (requestMode = .psync ∨ requestMode = .xsync)
  if psyncOffset > server.replMode.from then
    if requestMode = server.replMode.mode then some .cur
    else some (.invalidMode requestMode server.replMode.mode)
  else if psyncOffset = server.replMode.from then
    if requestMode = server.replMode.mode then some .cur
    else if server.prevReplMode.mode = .unset then some .invalidPrev
    else some .switch
  else if server.prevReplMode.mode = .unset then
    some (.invalidFrom psyncOffset server.replMode.from)
  else if psyncOffset ≥ server.prevReplMode.from then do
    guard (server.prevReplMode.from < server.replMode.from)
    if requestMode = server.prevReplMode.mode then do
      let limit := server.replMode.from - psyncOffset
      guard (limit > 0)
      some (.prev limit)
    else some (.invalidMode requestMode server.prevReplMode.mode)
  else some (.invalidPrevFrom psyncOffset server.prevReplMode.from)

/-! ## Backlog with gtid index -/

def ctripCreateReplicationBacklog (server : Server) : Option Server := do
  guard server.gtidSeq.isNone
  some { createReplicationBacklog server with gtidSeq := some gtidSeqCreate }

def ctripResizeReplicationBacklog (server : Server) (newsize : Int) : Server :=
  let resized := resizeReplicationBacklog server newsize
  if resized.replBacklog.created ∧ server.replBacklog.size ≠ resized.replBacklog.size then
    { resized with gtidSeq := some gtidSeqCreate }
  else resized

def ctripFreeReplicationBacklog (server : Server) : Server :=
  { freeReplicationBacklog server with gtidSeq := none }

/-- Reset will not create backlog if it not exists -/
def ctripResetReplicationBacklog (server : Server) : Server :=
  { server with
    replBacklog :=
      if server.replBacklog.created then server.replBacklog.create server.masterReplOffset
      else server.replBacklog
    -- gtid_seq became invalid if master offset bumped.
    gtidSeq := server.gtidSeq.map (fun _ => gtidSeqCreate) }

/-- Feed `n` bytes that start at `offset` and carry a gtid; index them if `touchIndex`. -/
def feedIndexed (server : Server) (touchIndex : Bool) (uuid : Uuid) (gno offset : Int) (n : Nat) :
    Option Server :=
  if touchIndex then do
    let gtidSeq ← gtidSeqAppend (← server.gtidSeq) uuid gno offset
    let server := feedReplicationBacklog { server with gtidSeq := some gtidSeq } n
    let gtidSeq ← gtidSeqTrim gtidSeq server.replBacklog.off
    some { server with gtidSeq := some gtidSeq }
  else some (feedReplicationBacklog server n)

def ctripReplicationFeedSlaves (server : Server) (uuid : Option Uuid) (gno offset : Int) (n : Nat) :
    Option Server :=
  feedIndexed server
    (uuid.isSome && decide (gno ≥ GTID_GNO_INITIAL) && server.gtidSeq.isSome && !server.masterhost)
    (uuid.getD []) gno offset n

def ctripReplicationFeedSlavesFromMasterStream (server : Server) (uuid : Option Uuid)
    (gno offset : Int) (n : Nat) : Option Server :=
  feedIndexed server
    (uuid.isSome && decide (gno ≥ GTID_GNO_INITIAL) && server.gtidSeq.isSome)
    (uuid.getD []) gno offset n

/-! ## Updates, switches and resets -/

/-- Set the gtid sets of a server. -/
def Server.setSets (server : Server) (sets : ServerSets) : Server :=
  { server with toServerSets := sets }

/-- The part of `serverReplStreamUpdateXsync` about `gtid.lost`; also whether it changed. -/
def updateLost (server : Server) (deltaLost : GtidSet) (rand : Rand) : Option (Server × Bool) :=
  if gtidSetCount deltaLost ≠ 0 then do
    let sets ← serverGtidSetAddLost server.toServerSets deltaLost rand
    some (server.setSets sets, true)
  else some (server, false)

/-- The part about `master.uuid`.  Its length is not updated. -/
def updateMasterUuid (server : Server) (fromMaster : Bool) (mode : Mode) :
    Option Bytes → Option (Server × Bool)
  | none => some (server, false)
  | some masterUuid =>
    if masterUuid.length ≠ server.masterUuidLen ∨
        masterUuid.take server.masterUuidLen ≠ server.masterUuid.take server.masterUuidLen then do
      guard (fromMaster ∧ mode = .xsync)
      some ({ server with masterUuid := overwrite server.masterUuid masterUuid }, true)
    else some (server, false)

/-- The part about `replid`, of which as many bytes are compared as are given. -/
def updateReplid (server : Server) (fromMaster : Bool) (mode : Mode) :
    Option Bytes → Option (Server × Bool)
  | none => some (server, false)
  | some replid =>
    if server.replid.take replid.length ≠ replid then do
      guard (fromMaster ∧ mode = .xsync)
      some ({ server with replid := overwrite server.replid replid }, true)
    else some (server, false)

/-- The part about `reploff`. -/
def updateReploff (server : Server) (fromMaster : Bool) (mode : Mode) (reploff : Int) :
    Option (Server × Bool) := do
  let myreploff ← ctripGetMasterReploff server
  if reploff ≥ 0 ∧ reploff ≠ myreploff then
    guard (fromMaster ∧ mode = .xsync)
    let server ← ctripSetMasterReploff server reploff
    some (server, true)
  else some (server, false)

/-- Also whether anything changed, in which case replicas are disconnected. -/
def serverReplStreamUpdateXsync (server : Server) (deltaLost : GtidSet) (fromMaster : Bool)
    (masterUuid replid : Option Bytes) (reploff : Int) (rand : Rand) :
    Option (Server × Bool) := do
  let mode := server.replMode.mode
  let (server, lost) ← updateLost server deltaLost rand
  let (server, uuid) ← updateMasterUuid server fromMaster mode masterUuid
  let (server, id) ← updateReplid server fromMaster mode replid
  let (server, off) ← updateReploff server fromMaster mode reploff
  some (server, lost || uuid || id || off)

/-- Discard backlog when master_repl_offset bump. -/
def bumpMasterReplOffset (server : Server) (reploff : Int) : Server :=
  if server.masterReplOffset ≠ reploff then
    ctripResetReplicationBacklog { server with masterReplOffset := reploff }
  else server

def serverReplStreamSwitch2Psync (server : Server) (replid : Option Bytes) (reploff : Int) :
    Option Server := do
  guard (server.replMode.mode = .xsync)
  guard (¬ server.master ∧ ¬ server.cachedMaster)
  let replid ← replid
  guard (reploff ≥ 0)
  let server ← ctripSetMasterReploff (bumpMasterReplOffset server reploff) reploff
  guard (server.gtidReploffDelta = 0)
  let server ← shiftServerReplMode server .psync
  some (xsyncUuidInterestedInit (clearMasterUuid
    (clearReplicationId2 { server with replid := replid })))

/-- Install copies of two sets as executed and lost. -/
def serverGtidSetReset (sets : ServerSets) (gtidExecuted gtidLost : GtidSet) (rand : Rand) :
    Option ServerSets := do
  let sets ← serverGtidSetResetExecuted sets (← gtidSetDup gtidExecuted) (rand.sub 0)
  serverGtidSetResetLost sets (← gtidSetDup gtidLost) (rand.sub 1)

def serverReplStreamSwitch2Xsync (server : Server) (replid : Option Bytes) (reploff : Int)
    (masterUuid : Option Bytes) (gtidExecuted gtidLost : GtidSet) (rand : Rand) :
    Option Server := do
  guard (server.replMode.mode = .psync)
  guard (server.gtidReploffDelta = 0)
  let server ← shiftServerReplMode server .xsync
  let server := xsyncUuidInterestedInit (clearReplicationId2 { server with replid := ← replid })
  let server ← ctripSetMasterReploff server reploff
  let server := setMasterUuid server (← masterUuid)
  -- Discard previous xsync history so that slave in previous xsync state
  -- trying to xsync will fail because of gtid not related.
  let sets ← serverGtidSetReset server.toServerSets gtidExecuted gtidLost rand
  let server := server.setSets sets
  some (replicationDiscardCachedMaster
    { server with gtidSeq := server.gtidSeq.map (fun _ => gtidSeqCreate) })

def serverReplStreamReset2Psync (server : Server) (replid : Option Bytes) (reploff : Int) :
    Option Server := do
  let replid ← replid
  guard (reploff ≥ 0)
  let server := ctripResetReplicationBacklog { server with masterReplOffset := reploff }
  let server := resetServerReplMode server .psync
  let server := xsyncUuidInterestedInit (clearMasterUuid
    (clearReplicationId2 { server with replid := replid }))
  some { server with gtidReploffDelta := 0 }

/-- Assign `master.uuid` with its length. -/
def assignMasterUuid (server : Server) : Option Bytes → Server
  | some masterUuid =>
    { server with
      masterUuid := overwrite server.masterUuid masterUuid
      masterUuidLen := masterUuid.length }
  | none => server

/-- `newReplid` is the one generated if none is given. -/
def serverReplStreamReset2Xsync (server : Server) (replid : Option Bytes) (reploff : Int)
    (masterUuid : Option Bytes) (gtidExecuted gtidLost : GtidSet) (newReplid : Bytes)
    (rand : Rand) : Option Server := do
  let server :=
    { server with masterReplOffset := if reploff ≥ 0 then reploff else server.masterReplOffset }
  let server := resetServerReplMode (ctripResetReplicationBacklog server) .xsync
  let server := clearReplicationId2 (xsyncUuidInterestedInit server)
  let server := assignMasterUuid { server with replid := replid.getD newReplid } masterUuid
  let sets ← serverGtidSetReset server.toServerSets gtidExecuted gtidLost rand
  some (server.setSets sets)

/-- The new uuid of a server that turns to xsync again. -/
def renewUuid (server : Server) (newUuid : Uuid) : Option Server :=
  if server.prevReplMode.mode = .xsync then do
    let gtidExecuted ← gtidSetCurrentUuidSetUpdate server.gtidExecuted newUuid
    some { server with uuid := newUuid, gtidExecuted := gtidExecuted }
  else some server

/-- `newReplid` and `newUuid` are the random ids generated on the way. -/
def serverReplStreamSwitchIfNeeded (server : Server) (toMode : Mode) (newReplid : Bytes)
    (newUuid : Uuid) (rand : Rand) : Option Server :=
  if server.replMode.mode = toMode then some server
  else if toMode = .psync then
    serverReplStreamSwitch2Psync server (some newReplid) server.masterReplOffset
  else do
    let server ← renewUuid server newUuid
    -- reset gtid.set and index to empty
    serverReplStreamSwitch2Xsync server (some newReplid) server.masterReplOffset
      (some server.uuid) gtidSetNew gtidSetNew rand

/-- Create the link to the master. -/
def serverReplStreamResurrectCreate (server : Server) (replid : Option Bytes) (reploff : Int) :
    Option Server := do
  guard (¬ server.cachedMaster)
  guard (replid.isSome ∧ reploff ≥ 0)
  let server := { server with master := true }
  if server.replBacklog.created then some server else ctripCreateReplicationBacklog server

end XredisGtid
