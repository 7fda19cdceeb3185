import XredisGtid.ReplStream

/-!
# Partial synchronization

`xredis_gtid_repl.c`: how a master analyses the PSYNC or XSYNC request of a replica
and answers it, and how the replica acts on the answer.

A request or a reply is here what its text says: the texts themselves, and sending
bytes of the backlog, are left out.  Gtid sets that are only logged are not computed.
-/
namespace XredisGtid
open Buffer Memory

/-- `gtid = gtidSetDup(a); gtidSetDiff(gtid,b);` -/
def gtidSetDupDiff (a b : GtidSet) (rand : Rand) : Option GtidSet := do
  let (gtid, _) ← gtidSetDiff (← gtidSetDup a) b rand
  some gtid

/-! ## Requests -/

structure PsyncRequest where
  replid : Bytes
  offset : Int

structure XsyncRequest where
  uuidInterested : Bytes
  gtidSlave : GtidSet
  gtidLost : GtidSet
  maxgap : Int

/-- Why a request is answered as it is; the format and the numbers of `result->msg`. -/
inductive SyncMsg where
  | none
  /-- fullresync request -/
  | fullresyncRequest
  /-- xfullresync requested -/
  | xfullresyncRequested
  /-- psync offset(%lld) not in backlog [%lld,%lld) -/
  | notInBacklog (offset low high : Int)
  /-- the message of `locateServerReplMode` -/
  | located (slr : LocateResult)
  /-- (%s:%lld) can't continue in {(%s:%lld),(%s:%lld)} -/
  | cantContinue (replid : Bytes) (offset : Int) (replid1 : Bytes) (offset1 : Int)
      (replid2 : Bytes) (offset2 : Int)
  /-- prior psync => xsync -/
  | priorPsync
  /-- psync => xsync -/
  | psyncToXsync
  /-- gtid.set-master(%s) and gtid.set-slave(%s) not related -/
  | notRelated (gtidMaster gtidSlave : GtidSet)
  /-- gap=%lld > maxgap=%lld -/
  | gapExceeds (gap maxgap : Int)
  /-- gap=%lld <= maxgap=%lld -/
  | gapWithin (gap maxgap : Int)
  /-- xsync => psync -/
  | xsyncToPsync

inductive SyncAction where
  | nop
  | xcontinue (replid : Bytes) (reploff : Int) (gtidCont deltaLost : GtidSet)
  /-- A negative `reploff` is not sent. -/
  | «continue» (replid : Bytes) (reploff : Int) (deltaLost : Option GtidSet)
  | full

structure SyncResult where
  action : SyncAction
  /-- send offset start -/
  offset : Int
  /-- send offset limit -/
  limit : Int
  msg : SyncMsg

def SyncResult.fullresync (offset : Int) (msg : SyncMsg) : SyncResult :=
  ⟨.full, offset, 0, msg⟩

/-- The XCONTINUE answer to a PSYNC request at the switch to xsync. -/
def psyncXcontinue (server : Server) (psyncOffset : Int) (rand : Rand) : Option SyncResult := do
  let gtidMaster ← serverGtidSetGet server.toServerSets (rand.sub 0)
  let gtidXsync ← gtidSeqPsync (← server.gtidSeq) psyncOffset (rand.sub 1)
  let (gtidCont, _) ← gtidSetDiff gtidMaster gtidXsync (rand.sub 2)
  let (replid, reploff) := serverReplModeGetCurReplIdOff server (psyncOffset - 1)
  some
    { action := .xcontinue (replid.getD []) reploff gtidCont gtidSetNew
      offset := psyncOffset
      limit := 0
      msg := .psyncToXsync }

/-- The answer to a PSYNC request in the previous stage, or at its end. -/
def psyncPrevious (server : Server) (request : PsyncRequest) (slr : LocateResult) (rand : Rand) :
    Option SyncResult := do
  guard (server.prevReplMode.mode = .psync)
  let replid1 := server.prevReplMode.replid
  let replid2 := server.prevReplMode.replid2
  let offset1 := server.replMode.from
  let offset2 := server.prevReplMode.secondReplidOffset
  if (equalsIgnoreCase request.replid replid1 ∧ request.offset ≤ offset1) ∨
      (equalsIgnoreCase request.replid replid2 ∧ request.offset ≤ offset2) then
    match slr with
    | .prev limit =>
      some
        { action := .continue replid1 (-1) none -- no need to align reploff
          offset := request.offset
          limit := limit
          msg := .priorPsync }
    | _ => psyncXcontinue server request.offset rand
  else
    some (.fullresync request.offset
      (.cantContinue request.replid request.offset replid1 offset1 replid2 offset2))

def masterAnaPsyncRequest (server : Server) (request : PsyncRequest) (rand : Rand) :
    Option SyncResult := do
  if request.replid.head? = some '?'.toUInt8 then some (.fullresync 0 .fullresyncRequest)
  else if ¬ server.replBacklog.created ∨ request.offset < server.replBacklog.off ∨
      request.offset > server.replBacklog.off + server.replBacklog.histlen then
    some (.fullresync 0 (.notInBacklog request.offset server.replBacklog.off
      (server.replBacklog.off + server.replBacklog.histlen)))
  else
    match ← locateServerReplMode server .psync request.offset with
    | .prev limit => psyncPrevious server request (.prev limit) rand
    | .switch => psyncPrevious server request .switch rand
    -- Let origin redis hanle this psync request
    | .cur => some ⟨.nop, request.offset, 0, .none⟩
    | slr => some (.fullresync request.offset (.located slr))

/-- The offset an XSYNC request continues at, before it is adjusted, and the gtids from it on. -/
def xsyncContinuePoint (server : Server) (gtidSlave : GtidSet) (rand : Rand) :
    Option (Int × GtidSet) :=
  match server.gtidSeq with
  | none => some (server.masterReplOffset + 1, gtidSetNew)
  | some gtidSeq => gtidSeqXsync gtidSeq gtidSlave rand

/-- Without a continue point: the backlog tail, or the start of the psync stage. -/
def adjustContinuePoint (server : Server) (psyncOffset : Int) : Int :=
  if psyncOffset < 0 then
    if server.replMode.mode = .xsync then server.masterReplOffset + 1 else server.replMode.from
  else psyncOffset

/-- The number of gtids that only one side has executed, not counting those to be sent. -/
def xsyncGap (server : Server) (request : XsyncRequest) (gtidXsync : GtidSet) (rand : Rand) :
    Option Int := do
  let gtidMexec ← gtidSetDupDiff server.gtidExecuted gtidXsync (rand.sub 0)
  let gtidSexec ← gtidSetDupDiff request.gtidSlave request.gtidLost (rand.sub 1)
  let gtidMexecGap ← gtidSetDupDiff gtidMexec gtidSexec (rand.sub 2)
  let gtidSexecGap ← gtidSetDupDiff gtidSexec gtidMexec (rand.sub 3)
  some (llong (gtidSetCount gtidMexecGap + gtidSetCount gtidSexecGap))

/-- The answer to an XSYNC request that is located and close enough. -/
def xsyncAccept (server : Server) (slr : LocateResult) (psyncOffset : Int)
    (gtidCont gtidMlost : GtidSet) (gap maxgap : Int) : Option SyncResult :=
  match slr with
  | .prev limit =>
    let (replid, reploff) := serverReplModeGetPrevReplIdOff server (psyncOffset - 1)
    some
      { action := .xcontinue (replid.getD []) reploff gtidCont gtidMlost
        offset := psyncOffset
        limit := limit
        msg := .gapWithin gap maxgap }
  | .switch =>
    some
      { action := .continue server.replid (psyncOffset - 1) (some gtidMlost)
        offset := psyncOffset
        limit := 0
        msg := .xsyncToPsync }
  | .cur =>
    let (replid, reploff) := serverReplModeGetCurReplIdOff server (psyncOffset - 1)
    some
      { action := .xcontinue (replid.getD []) reploff gtidCont gtidMlost
        offset := psyncOffset
        limit := 0
        msg := .gapWithin gap maxgap }
  | _ => none

/-- The answer to an XSYNC request that is located. -/
def xsyncLocated (server : Server) (request : XsyncRequest) (slr : LocateResult)
    (psyncOffset : Int) (gtidMaster gtidXsync : GtidSet) (rand : Rand) : Option SyncResult := do
  let (gtidCont, _) ← gtidSetDiff gtidMaster gtidXsync (rand.sub 0)
  let gtidMlost ← gtidSetDupDiff request.gtidSlave gtidCont (rand.sub 1)
  let gap ← xsyncGap server request gtidXsync (rand.sub 2)
  if gap > request.maxgap then
    some (.fullresync psyncOffset (.gapExceeds gap request.maxgap))
  else xsyncAccept server slr psyncOffset gtidCont gtidMlost gap request.maxgap

def LocateResult.isInvalid : LocateResult → Bool
  | .invalidMode .. | .invalidPrev | .invalidFrom .. | .invalidPrevFrom .. => true
  | _ => false

def masterAnaXsyncRequest (server : Server) (request : XsyncRequest) (rand : Rand) :
    Option SyncResult := do
  if request.uuidInterested = GTID_XSYNC_UUID_INTERESTED_FULLRESYNC then
    some (.fullresync 0 .xfullresyncRequested)
  else
    let gtidMaster ← serverGtidSetGet server.toServerSets (rand.sub 0)
    if ¬ gtidSetRelated gtidMaster request.gtidSlave then
      some (.fullresync 0 (.notRelated gtidMaster request.gtidSlave))
    else
      let (psyncOffset, gtidXsync) ← xsyncContinuePoint server request.gtidSlave (rand.sub 1)
      let psyncOffset := adjustContinuePoint server psyncOffset
      if server.replMode.mode = .psync ∧ psyncOffset < server.replBacklog.off then
        some (.fullresync 0 (.notInBacklog psyncOffset server.replBacklog.off
          (server.replBacklog.off + server.replBacklog.histlen)))
      else
        let slr ← locateServerReplMode server .xsync psyncOffset
        if slr.isInvalid then some (.fullresync psyncOffset (.located slr))
        else xsyncLocated server request slr psyncOffset gtidMaster gtidXsync (rand.sub 2)

/-! ## Replies -/

variable [RedisReplication]

/-- Check that the continue point is in the backlog, which is created if there is none. -/
def masterSetupPartialSynchronization (server : Server) (offset : Int) : Option Server := do
  let server ← if server.replBacklog.created then some server else ctripCreateReplicationBacklog server
  guard (offset ≥ server.replBacklog.off)
  some server

/-- What a replica reads: the reply to its request. -/
inductive SyncReply where
  | xcontinue (gtidCont gtidLost : GtidSet) (masterUuid replid : Bytes) (reploff : Int)
  | «continue» (replid : Bytes) (reploff : Option Int)
  /-- The request is left to Redis. -/
  | byRedis

def masterReplySyncRequest (server : Server) (result : SyncResult) (rand : Rand) :
    Option (Server × SyncReply) :=
  match result.action with
  | .xcontinue replid reploff gtidCont deltaLost => do
    let gtidLost := server.gtidLost
    let (server, _) ← serverReplStreamUpdateXsync server deltaLost false none none (-1) rand
    let reply := .xcontinue gtidCont gtidLost (getMasterUuid server) replid reploff
    let server ← masterSetupPartialSynchronization server result.offset
    some (server, reply)
  | .continue replid reploff deltaLost => do
    let (server, _) ← match deltaLost with
      | some deltaLost =>
        serverReplStreamUpdateXsync server deltaLost false none none (-1) rand
      | none => some (server, false)
    let server ← masterSetupPartialSynchronization server result.offset
    some (server, .continue replid (if reploff < 0 then none else some reploff))
  | .nop | .full => some (server, .byRedis)

/-- The XSYNC request of a replica.  None in psync mode, where the function returns -1 and Redis asks
with PSYNC. -/
def slaveTryPartialResynchronizationWrite (server : Server) (rand : Rand) :
    Option XsyncRequest := do
  guard (server.replMode.mode = .xsync)
  some
    { uuidInterested := server.gtidUuidInterested
      gtidSlave := ← serverGtidSetGet server.toServerSets rand
      gtidLost := server.gtidLost
      maxgap := server.gtidXsyncMaxGap }

/-- PSYNC => XCONTINUE: align the gtid sets with the master. -/
def slavePsyncXcontinue (server : Server) (gtidCont gtidLost : GtidSet)
    (masterUuid replid : Bytes) (reploff : Int) (rand : Rand) : Option Server := do
  let replyExecuted ← gtidSetDupDiff gtidCont gtidLost (rand.sub 0)
  serverReplStreamSwitch2Xsync server (some replid) reploff (some masterUuid) replyExecuted
    gtidLost (rand.sub 1)

/-- XSYNC => XCONTINUE: what the master has and will not send is lost. -/
def slaveXsyncXcontinue (server : Server) (gtidCont : GtidSet) (masterUuid replid : Bytes)
    (reploff : Int) (rand : Rand) : Option Server := do
  let gtidSlave ← serverGtidSetGet server.toServerSets (rand.sub 0)
  let gtidSlost ← gtidSetDupDiff gtidCont gtidSlave (rand.sub 1)
  let (server, _) ← serverReplStreamUpdateXsync server gtidSlost true (some masterUuid)
    (some replid) reploff (rand.sub 2)
  some server

end XredisGtid
