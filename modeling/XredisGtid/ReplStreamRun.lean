import XredisGtid.ReplStreamSpec

/-!
# Runs of the stream

`StreamOp` are the operations on the stream of a server: resets, switches, updates, feeds
and what happens to the backlog; `StreamReachable` are the servers after a run that
starts with a reset.  `StreamEffect` says once what an operation can do, and the
invariants of runs are derived from it.
-/
namespace XredisGtid
open Buffer Memory OffsetLog

inductive StreamOp where
  | reset2Psync (replid : Bytes) (reploff : Int)
  | reset2Xsync (replid : Option Bytes) (reploff : Int) (masterUuid : Option Bytes)
      (gtidExecuted gtidLost : GtidSet) (newReplid : Bytes)
  | switch2Psync (replid : Bytes) (reploff : Int)
  | switch2Xsync (replid : Bytes) (reploff : Int) (masterUuid : Bytes)
      (gtidExecuted gtidLost : GtidSet)
  | switchIfNeeded (toMode : Mode) (newReplid : Bytes) (newUuid : Uuid)
  /-- The XCONTINUE reply of a master. -/
  | updateFromMaster (deltaLost : GtidSet) (masterUuid replid : Bytes) (reploff : Int)
  /-- The request of a replica. -/
  | updateFromReplica (deltaLost : GtidSet)
  | feedSlaves (uuid : Option Uuid) (gno offset : Int) (n : Nat)
  | feedSlavesFromMasterStream (uuid : Option Uuid) (gno offset : Int) (n : Nat)
  | createBacklog
  | resizeBacklog (newsize : Int)
  | freeBacklog
  /-- Whatever changes the gtid sets and nothing else. -/
  | changeSets (sets : ServerSets)
  /-- Links to a master come and go. -/
  | changeLinks (masterhost master cachedMaster : Bool)

def StreamOp.step [RedisReplication] (s : Server) (rand : Rand) : StreamOp → Option Server
  | .reset2Psync replid reploff => serverReplStreamReset2Psync s (some replid) reploff
  | .reset2Xsync replid reploff masterUuid gtidExecuted gtidLost newReplid =>
    serverReplStreamReset2Xsync s replid reploff masterUuid gtidExecuted gtidLost newReplid rand
  | .switch2Psync replid reploff => serverReplStreamSwitch2Psync s (some replid) reploff
  | .switch2Xsync replid reploff masterUuid gtidExecuted gtidLost =>
    serverReplStreamSwitch2Xsync s (some replid) reploff (some masterUuid) gtidExecuted gtidLost
      rand
  | .switchIfNeeded toMode newReplid newUuid =>
    serverReplStreamSwitchIfNeeded s toMode newReplid newUuid rand
  | .updateFromMaster deltaLost masterUuid replid reploff =>
    (serverReplStreamUpdateXsync s deltaLost true (some masterUuid) (some replid) reploff
      rand).map Prod.fst
  | .updateFromReplica deltaLost =>
    (serverReplStreamUpdateXsync s deltaLost false none none (-1) rand).map Prod.fst
  | .feedSlaves uuid gno offset n => ctripReplicationFeedSlaves s uuid gno offset n
  | .feedSlavesFromMasterStream uuid gno offset n =>
    ctripReplicationFeedSlavesFromMasterStream s uuid gno offset n
  | .createBacklog => ctripCreateReplicationBacklog s
  | .resizeBacklog newsize => some (ctripResizeReplicationBacklog s newsize)
  | .freeBacklog => some (ctripFreeReplicationBacklog s)
  | .changeSets sets => some (s.setSets sets)
  | .changeLinks masterhost master cachedMaster =>
    some { s with masterhost := masterhost, master := master, cachedMaster := cachedMaster }

def StreamOp.IsReset : StreamOp → Prop
  | .reset2Psync .. | .reset2Xsync .. => True
  | _ => False

/-- What the callers see to: a reply of the master is followed in xsync mode, and a command that
is fed starts at or before the next byte of the stream. -/
def StreamOp.Valid (s : Server) : StreamOp → Prop
  | .updateFromMaster .. => s.replMode.mode = .xsync
  | .feedSlaves _ _ offset _ | .feedSlavesFromMasterStream _ _ offset _ =>
    LLONG_MIN ≤ offset ∧ offset ≤ LLONG_MAX ∧ offset ≤ s.masterReplOffset + 1
  | _ => True

/-- The servers after any sequence of operations that meet a condition. -/
inductive StreamReachable [RedisReplication] (init : Server → Prop)
    (cond : Server → StreamOp → Prop) : Server → Prop
  | start {s s' : Server} (op : StreamOp) (rand : Rand) : init s → op.IsReset →
      op.step s rand = some s' → StreamReachable init cond s'
  | step {s s' : Server} (op : StreamOp) (rand : Rand) : StreamReachable init cond s →
      op.Valid s → cond s op → op.step s rand = some s' → StreamReachable init cond s'

/-! ## What an operation can do -/

/-- Neither the modes nor the offsets have changed. -/
structure SameStream (s s' : Server) : Prop where
  replMode : s'.replMode = s.replMode
  prevReplMode : s'.prevReplMode = s.prevReplMode
  offset : s'.masterReplOffset = s.masterReplOffset
  delta : s'.gtidReploffDelta = s.gtidReploffDelta

/-- A command that is fed: whether it touches the index, its gtid, where it starts and how many
bytes it has. -/
structure Feed where
  touchIndex : Bool
  uuid : Uuid
  gno : Int
  offset : Int
  n : Nat

def StreamOp.feed (s : Server) : StreamOp → Option Feed
  | .feedSlaves uuid gno offset n =>
    some ⟨uuid.isSome && decide (gno ≥ GTID_GNO_INITIAL) && s.gtidSeq.isSome && !s.masterhost,
      uuid.getD [], gno, offset, n⟩
  | .feedSlavesFromMasterStream uuid gno offset n =>
    some ⟨uuid.isSome && decide (gno ≥ GTID_GNO_INITIAL) && s.gtidSeq.isSome,
      uuid.getD [], gno, offset, n⟩
  | _ => none

structure Fed (s : Server) (f : Feed) (s' : Server) : Prop where
  replMode : s'.replMode = s.replMode
  prevReplMode : s'.prevReplMode = s.prevReplMode
  offset : s'.masterReplOffset = s.masterReplOffset + f.n
  delta : s'.gtidReploffDelta = s.gtidReploffDelta
  backlog : s'.replBacklog = s.replBacklog.feed f.n (s.masterReplOffset + f.n)
  indexed : f.touchIndex = true → ∃ seq seq₁ seq', s.gtidSeq = some seq ∧
    gtidSeqAppend seq f.uuid f.gno f.offset = some seq₁ ∧
    gtidSeqTrim seq₁ s'.replBacklog.off = some seq' ∧ s'.gtidSeq = some seq'
  untouched : f.touchIndex = false → s'.gtidSeq = s.gtidSeq

/-- The part of an operation on the backlog that concerns its range. -/
inductive BacklogEffect (s s' : Server) : Prop
  | emptied : s'.replBacklog.created = true → s'.replBacklog.histlen = 0 →
      s'.replBacklog.off = s.masterReplOffset + 1 → s'.gtidSeq = some gtidSeqCreate →
      BacklogEffect s s'
  | freed : s'.replBacklog.created = false → s'.gtidSeq = none → BacklogEffect s s'
  | kept : s'.replBacklog.created = s.replBacklog.created →
      s'.replBacklog.histlen = s.replBacklog.histlen → s'.replBacklog.off = s.replBacklog.off →
      s'.gtidSeq = s.gtidSeq → BacklogEffect s s'

/-- **What an operation can do.** -/
inductive StreamEffect (s : Server) (op : StreamOp) (s' : Server) : Prop
  | reset2Psync (id : Bytes) (reploff : Int) : Reset2Psync s id reploff s' → StreamEffect s op s'
  | reset2Xsync (replid : Option Bytes) (reploff : Int) :
      Reset2Xsync s replid reploff s' → StreamEffect s op s'
  | switched2Psync (id : Bytes) (reploff : Int) :
      Switched2Psync s id reploff s' → StreamEffect s op s'
  | switched2Xsync (id : Bytes) (reploff : Int) :
      Switched2Xsync s id reploff s' → StreamEffect s op s'
  | updated : UpdatedXsync s s' →
      (s'.gtidReploffDelta ≠ s.gtidReploffDelta → s.replMode.mode = .xsync) → StreamEffect s op s'
  | fed (f : Feed) : op.feed s = some f → Fed s f s' → StreamEffect s op s'
  | backlog : SameStream s s' → (0 ≤ s.replBacklog.size → 0 ≤ s'.replBacklog.size) →
      BacklogEffect s s' → StreamEffect s op s'

section Effects
variable {s s' : Server} {op : StreamOp} {rand : Rand} {toMode : Mode} {newReplid : Bytes}
  {newUuid : Uuid}

/-- A feed in terms of its parts. -/
theorem feedIndexed_some [RedisReplication] {f : Feed}
    (h : feedIndexed s f.touchIndex f.uuid f.gno f.offset f.n = some s') : Fed s f s' := by
  simp only [feedIndexed, feedReplicationBacklog_eq] at h
  split at h
  · next htouch =>
    simp only [Option.bind_eq_bind, Option.bind_eq_some_iff] at h
    obtain ⟨seq, hseq, seq₁, happ, seq', htrim, heq⟩ := h
    obtain rfl := Option.some.inj heq
    exact ⟨rfl, rfl, rfl, rfl, rfl, fun _ => ⟨seq, seq₁, seq', hseq, happ, htrim, rfl⟩,
      fun h => Bool.noConfusion (h.symm.trans htouch)⟩
  · next htouch =>
    obtain rfl := Option.some.inj h
    exact ⟨rfl, rfl, rfl, rfl, rfl, fun h => absurd h htouch, fun _ => rfl⟩

theorem feed_some [RedisReplication] {f : Feed} (hf : op.feed s = some f)
    (h : op.step s rand = some s') :
    Fed s f s' := by
  cases op with
  | feedSlaves uuid gno offset n =>
    obtain rfl := Option.some.inj hf
    exact feedIndexed_some h
  | feedSlavesFromMasterStream uuid gno offset n =>
    obtain rfl := Option.some.inj hf
    exact feedIndexed_some h
  | _ => nomatch hf

/-- The new uuid concerns the gtid sets only. -/
theorem renewUuid_some (h : renewUuid s newUuid = some s') : s' = s.setSets s'.toServerSets := by
  rw [renewUuid] at h
  split at h
  · simp only [Option.bind_eq_bind, Option.bind_eq_some_iff] at h
    obtain ⟨e, -, heq⟩ := h
    obtain rfl := Option.some.inj heq
    rfl
  · obtain rfl := Option.some.inj h
    rfl

/-- What a switch to xsync does to the stream does not depend on the sets. -/
theorem Switched2Xsync.of_setSets {sets : ServerSets} {id : Bytes} {reploff : Int}
    (h : Switched2Xsync (s.setSets sets) id reploff s') : Switched2Xsync s id reploff s' :=
  ⟨h.was, h.wasDelta, h.mode, h.from, h.prevMode, h.prevFrom, h.prevReplid, h.replid, h.offset,
    h.delta, h.backlog, h.seq⟩

theorem serverReplStreamSwitchIfNeeded_some [RedisReplication]
    (h : serverReplStreamSwitchIfNeeded s toMode newReplid newUuid rand = some s') :
    s.replMode.mode = toMode ∧ s' = s ∨
      Switched2Psync s newReplid s.masterReplOffset s' ∨
      ∃ s₁, renewUuid s newUuid = some s₁ ∧ Switched2Xsync s newReplid s.masterReplOffset s' ∧
        serverGtidSetReset s₁.toServerSets gtidSetNew gtidSetNew rand = some s'.toServerSets := by
  rw [serverReplStreamSwitchIfNeeded] at h
  split at h
  · next hmode => exact Or.inl ⟨hmode, (Option.some.inj h).symm⟩
  · split at h
    · obtain ⟨id, hid, hsw⟩ := serverReplStreamSwitch2Psync_some h
      obtain rfl := Option.some.inj hid
      exact Or.inr (Or.inl hsw)
    · simp only [Option.bind_eq_bind, Option.bind_eq_some_iff] at h
      obtain ⟨s₁, hrenew, h⟩ := h
      obtain ⟨id, hid, hsw, hsets⟩ := serverReplStreamSwitch2Xsync_some h
      obtain rfl := Option.some.inj hid
      have hsame := renewUuid_some hrenew
      have hoff : s₁.masterReplOffset = s.masterReplOffset := by rw [hsame]; rfl
      rw [hoff, hsame] at hsw
      exact Or.inr (Or.inr ⟨s₁, hrenew, hsw.of_setSets, hsets⟩)

theorem resize_effect [RedisReplication] (s : Server) (newsize : Int) :
    SameStream s (ctripResizeReplicationBacklog s newsize) ∧
    (0 ≤ s.replBacklog.size → 0 ≤ (ctripResizeReplicationBacklog s newsize).replBacklog.size) ∧
    BacklogEffect s (ctripResizeReplicationBacklog s newsize) := by
  have hmin : (0 : Int) ≤ max newsize CONFIG_REPL_BACKLOG_MIN_SIZE :=
    le_max_of_le_right (by decide)
  by_cases hsize : s.replBacklog.size = max newsize CONFIG_REPL_BACKLOG_MIN_SIZE
  · -- the size stays, and so does everything else
    have hresized : resizeReplicationBacklog s newsize = s := by
      rw [resizeReplicationBacklog_eq, ReplBacklog.resize]
      simp only [hsize, if_true]
    rw [ctripResizeReplicationBacklog]
    simp only [hresized, ne_eq, not_true_eq_false, and_false, if_false]
    exact ⟨⟨rfl, rfl, rfl, rfl⟩, id, .kept rfl rfl rfl rfl⟩
  · by_cases hcreated : s.replBacklog.created = true
    · have hresized : ctripResizeReplicationBacklog s newsize =
          { s with
            replBacklog := ReplBacklog.create
              { s.replBacklog with size := max newsize CONFIG_REPL_BACKLOG_MIN_SIZE }
              s.masterReplOffset
            gtidSeq := some gtidSeqCreate } := by
        simp only [ctripResizeReplicationBacklog, resizeReplicationBacklog_eq, ReplBacklog.resize,
          ReplBacklog.create, hsize, hcreated, if_true, if_false, ne_eq, not_false_eq_true,
          and_true]
      rw [hresized]
      exact ⟨⟨rfl, rfl, rfl, rfl⟩, fun _ => hmin, .emptied rfl rfl rfl rfl⟩
    · have hresized : ctripResizeReplicationBacklog s newsize =
          { s with
            replBacklog :=
              { s.replBacklog with size := max newsize CONFIG_REPL_BACKLOG_MIN_SIZE } } := by
        simp only [ctripResizeReplicationBacklog, resizeReplicationBacklog_eq, ReplBacklog.resize,
          hsize, hcreated, if_false, false_and, Bool.false_eq_true]
      rw [hresized]
      exact ⟨⟨rfl, rfl, rfl, rfl⟩, fun _ => hmin, .kept rfl rfl rfl rfl⟩

/-- **One step.** -/
theorem StreamOp.step_effect [RedisReplication] (h : op.step s rand = some s') :
    StreamEffect s op s' := by
  cases op with
  | reset2Psync replid reploff =>
    obtain ⟨id, -, hreset⟩ := serverReplStreamReset2Psync_some h
    exact .reset2Psync id reploff hreset
  | reset2Xsync replid reploff masterUuid t u newReplid =>
    exact .reset2Xsync replid reploff (serverReplStreamReset2Xsync_some h).1
  | switch2Psync replid reploff =>
    obtain ⟨id, -, hsw⟩ := serverReplStreamSwitch2Psync_some h
    exact .switched2Psync id reploff hsw
  | switch2Xsync replid reploff masterUuid t u =>
    obtain ⟨id, -, hsw, -⟩ := serverReplStreamSwitch2Xsync_some h
    exact .switched2Xsync id reploff hsw
  | switchIfNeeded toMode newReplid newUuid =>
    rcases serverReplStreamSwitchIfNeeded_some h with ⟨-, rfl⟩ | hsw | ⟨s₁, -, hsw, -⟩
    · exact .updated ⟨rfl, rfl, rfl, rfl, rfl, rfl, rfl⟩ (fun h => absurd rfl h)
    · exact .switched2Psync _ _ hsw
    · exact .switched2Xsync _ _ hsw
  | updateFromMaster deltaLost masterUuid replid reploff =>
    obtain ⟨⟨s₁, b⟩, hrun, rfl⟩ := Option.map_eq_some_iff.mp h
    obtain ⟨hup, -, -, -, hdelta⟩ := serverReplStreamUpdateXsync_some hrun
    exact .updated hup hdelta
  | updateFromReplica deltaLost =>
    obtain ⟨⟨s₁, b⟩, hrun, rfl⟩ := Option.map_eq_some_iff.mp h
    obtain ⟨hup, -, -, -, hdelta⟩ := serverReplStreamUpdateXsync_some hrun
    exact .updated hup hdelta
  | feedSlaves uuid gno offset n => exact .fed _ rfl (feed_some rfl h)
  | feedSlavesFromMasterStream uuid gno offset n => exact .fed _ rfl (feed_some rfl h)
  | createBacklog =>
    simp only [step, ctripCreateReplicationBacklog, createReplicationBacklog_eq,
      Option.bind_eq_bind, Option.bind_eq_some_iff, Option.guard_eq_some', exists_const] at h
    obtain ⟨-, heq⟩ := h
    obtain rfl := Option.some.inj heq
    exact .backlog ⟨rfl, rfl, rfl, rfl⟩ id (.emptied rfl rfl rfl rfl)
  | resizeBacklog newsize =>
    obtain rfl := Option.some.inj h
    obtain ⟨hsame, hsize, heff⟩ := resize_effect s newsize
    exact .backlog hsame hsize heff
  | freeBacklog =>
    simp only [step, ctripFreeReplicationBacklog, freeReplicationBacklog_eq] at h
    obtain rfl := Option.some.inj h
    exact .backlog ⟨rfl, rfl, rfl, rfl⟩ id (.freed rfl rfl)
  | changeSets sets =>
    obtain rfl := Option.some.inj h
    exact .updated ⟨rfl, rfl, rfl, rfl, rfl, rfl, rfl⟩ (fun h => absurd rfl h)
  | changeLinks masterhost master cachedMaster =>
    obtain rfl := Option.some.inj h
    exact .updated ⟨rfl, rfl, rfl, rfl, rfl, rfl, rfl⟩ (fun h => absurd rfl h)

end Effects

/-! ## The identity of a history that ends -/

/-- A switch of the mode; one to psync keeps the backlog. -/
def StreamOp.IsSwitch (s : Server) : StreamOp → Prop
  | .switch2Psync _ reploff => reploff = s.masterReplOffset
  | .switch2Xsync .. => True
  | _ => False

/-- A master without a backlog, in its first stage. -/
def masterServer (sets : ServerSets) (mode : Mode) (offset delta : Int) : Server where
  toServerSets := sets
  replMode := { replModeInit with mode := mode, «from» := offset + 1 }
  prevReplMode := replModeInit
  replid := List.replicate CONFIG_RUN_ID_SIZE '1'.toUInt8
  replid2 := List.replicate CONFIG_RUN_ID_SIZE '0'.toUInt8
  secondReplidOffset := -1
  masterReplOffset := offset
  gtidReploffDelta := delta
  masterUuid := List.replicate CONFIG_RUN_ID_SIZE '0'.toUInt8
  masterUuidLen := CONFIG_RUN_ID_SIZE
  gtidUuidInterested := GTID_XSYNC_UUID_INTERESTED_DEFAULT
  gtidXsyncMaxGap := 10000
  masterhost := false
  master := false
  cachedMaster := false
  replBacklog := { created := false, size := CONFIG_REPL_BACKLOG_MIN_SIZE, histlen := 0, off := 0 }
  gtidSeq := none

section Identity
variable {s s' : Server} {op : StreamOp} {rand : Rand}

/-- **What a switch saves of the stage it leaves** is what that stage was exactly when the stage was
a psync one or had no delta: the switch to psync sets the delta before it saves it. -/
theorem switch_keeps_identity_iff [RedisReplication] (hop : op.IsSwitch s)
    (h : op.step s rand = some s') :
    (∀ offset, serverReplModeGetPrevReplIdOff s' offset =
        serverReplModeGetCurReplIdOff s offset) ↔
      (s.replMode.mode = .xsync → s.gtidReploffDelta = 0) := by
  cases op with
  | switch2Psync replid reploff =>
    obtain ⟨id, -, hsw⟩ := serverReplStreamSwitch2Psync_some h
    have hprev : ∀ offset, serverReplModeGetPrevReplIdOff s' offset = (some s.replid, offset) := by
      intro offset
      simp only [serverReplModeGetPrevReplIdOff, hsw.prevMode, hsw.prevReplid, hsw.prevDelta,
        Int.zero_add]
    have hcur : ∀ offset, serverReplModeGetCurReplIdOff s offset =
        (some s.replid, s.gtidReploffDelta + offset) := by
      intro offset
      simp only [serverReplModeGetCurReplIdOff, hsw.was]
    constructor
    · intro hsame _
      have := hsame 0
      rw [hprev, hcur, Prod.mk.injEq] at this
      omega
    · intro hzero offset
      rw [hprev, hcur, hzero hsw.was, Int.zero_add]
  | switch2Xsync replid reploff masterUuid t u =>
    obtain ⟨id, -, hsw, -⟩ := serverReplStreamSwitch2Xsync_some h
    constructor
    · intro _ hxsync
      exact nomatch hxsync.symm.trans hsw.was
    · intro _ offset
      simp only [serverReplModeGetPrevReplIdOff, serverReplModeGetCurReplIdOff, hsw.prevMode,
        hsw.prevReplid, hsw.was]
  | _ => exact absurd hop id

/-- A switch to psync at the offset of the stream. -/
theorem exists_switch2Psync [RedisReplication] (sets : ServerSets) (delta : Int) :
    ∃ s', (StreamOp.switch2Psync [49] 100).step (masterServer sets .xsync 100 delta)
      (fun _ => 0) = some s' :=
  serverReplStreamSwitch2Psync_isSome rfl ⟨Bool.noConfusion, Bool.noConfusion⟩ (by decide) [49]

theorem switch_keeps_identity_zero :
    ∃ s s', (StreamOp.switch2Psync [49] 100).step s (fun _ => 0) = some s' ∧
      ∀ offset, serverReplModeGetPrevReplIdOff s' offset =
        serverReplModeGetCurReplIdOff s offset := by
  obtain ⟨s', h⟩ := exists_switch2Psync ⟨[65], gtidSetNew, gtidSetNew⟩ 0
  have hop : (StreamOp.switch2Psync [49] 100).IsSwitch
      (masterServer ⟨[65], gtidSetNew, gtidSetNew⟩ .xsync 100 0) := rfl
  exact ⟨_, s', h, (switch_keeps_identity_iff hop h).mpr (fun _ => rfl)⟩

/-- A server in xsync mode with the delta 50 that switches to psync says of its previous stage that
offset 0 was 0, where it was 50. -/
theorem switch_loses_delta :
    ¬ ∀ (s s' : Server) (op : StreamOp) (rand : Rand), op.IsSwitch s → op.step s rand = some s' →
      ∀ offset, serverReplModeGetPrevReplIdOff s' offset =
        serverReplModeGetCurReplIdOff s offset := by
  intro hall
  obtain ⟨s', h⟩ := exists_switch2Psync ⟨[65], gtidSetNew, gtidSetNew⟩ 50
  obtain ⟨id, -, hsw⟩ := serverReplStreamSwitch2Psync_some h
  have hop : (StreamOp.switch2Psync [49] 100).IsSwitch
      (masterServer ⟨[65], gtidSetNew, gtidSetNew⟩ .xsync 100 50) := rfl
  have := hall _ s' _ _ hop h 0
  simp only [serverReplModeGetPrevReplIdOff, hsw.prevMode, hsw.prevDelta,
    serverReplModeGetCurReplIdOff, masterServer, Prod.mk.injEq] at this
  omega

/-! ## The offset of a history that begins -/

/-- The replid and the offset a transition is told. -/
def StreamOp.target : StreamOp → Option (Bytes × Int)
  | .reset2Psync replid reploff | .switch2Psync replid reploff
  | .reset2Xsync (some replid) reploff _ _ _ _ | .switch2Xsync replid reploff _ _ _
  | .updateFromMaster _ _ replid reploff => some (replid, reploff)
  | _ => none

/-- `serverReplStreamReset2Xsync` does not set the delta. -/
def StreamOp.KeepsDelta : StreamOp → Prop
  | .reset2Xsync .. => True
  | _ => False

/-- The server is at the offset `reploff` of the history `replid`. -/
def Aligned (s : Server) (replid : Bytes) (reploff : Int) : Prop :=
  ctripGetMasterReploff s = some reploff ∧
    serverReplModeGetCurReplIdOff s s.masterReplOffset = (some replid, reploff)

theorem aligned_psync {replid : Bytes} {reploff : Int} (hmode : s.replMode.mode = .psync)
    (hdelta : s.gtidReploffDelta = 0) (hid : s.replid = replid)
    (hoff : s.masterReplOffset = reploff) : Aligned s replid reploff := by
  rw [Aligned, ctripGetMasterReploff_eq (Or.inr hdelta)]
  simp only [serverReplModeGetCurReplIdOff, hmode, hid, hoff, hdelta, Int.add_zero, and_self]

theorem aligned_xsync_iff {replid : Bytes} {reploff : Int} (hmode : s.replMode.mode = .xsync)
    (hid : s.replid = replid) :
    Aligned s replid reploff ↔ s.masterReplOffset + s.gtidReploffDelta = reploff := by
  rw [Aligned, ctripGetMasterReploff_eq (Or.inl hmode)]
  simp only [serverReplModeGetCurReplIdOff, hmode, hid, Option.some.injEq, Prod.mk.injEq,
    true_and]
  omega

/-- **A transition leaves the server at the offset it is told** exactly when it is not a reset to
xsync of a server with a delta. -/
theorem transition_aligns_iff [RedisReplication] {replid : Bytes} {reploff : Int}
    (htarget : op.target = some (replid, reploff)) (hreploff : 0 ≤ reploff)
    (hold : s.replid.length = CONFIG_RUN_ID_SIZE) (hnew : replid.length = CONFIG_RUN_ID_SIZE)
    (hv : op.Valid s) (h : op.step s rand = some s') :
    Aligned s' replid reploff ↔ (op.KeepsDelta → s.gtidReploffDelta = 0) := by
  cases op with
  | reset2Psync id off =>
    obtain ⟨rfl, rfl⟩ := Prod.mk.inj (Option.some.inj htarget)
    obtain ⟨id', hid, hreset⟩ := serverReplStreamReset2Psync_some h
    obtain rfl := Option.some.inj hid
    exact iff_of_true (aligned_psync hreset.mode hreset.delta hreset.replid hreset.offset)
      (fun hk => hk.elim)
  | switch2Psync id off =>
    obtain ⟨rfl, rfl⟩ := Prod.mk.inj (Option.some.inj htarget)
    obtain ⟨id', hid, hsw⟩ := serverReplStreamSwitch2Psync_some h
    obtain rfl := Option.some.inj hid
    exact iff_of_true (aligned_psync hsw.mode hsw.delta hsw.replid hsw.offset)
      (fun hk => hk.elim)
  | switch2Xsync id off masterUuid t u =>
    obtain ⟨rfl, rfl⟩ := Prod.mk.inj (Option.some.inj htarget)
    obtain ⟨id', hid, hsw, -⟩ := serverReplStreamSwitch2Xsync_some h
    obtain rfl := Option.some.inj hid
    refine iff_of_true ((aligned_xsync_iff hsw.mode hsw.replid).mpr ?_) (fun hk => hk.elim)
    rw [hsw.offset, hsw.delta]
    omega
  | updateFromMaster deltaLost masterUuid id off =>
    obtain ⟨rfl, rfl⟩ := Prod.mk.inj (Option.some.inj htarget)
    obtain ⟨⟨s₁, b⟩, hrun, rfl⟩ := Option.map_eq_some_iff.mp h
    obtain ⟨hup, -, hid, halign, -⟩ := serverReplStreamUpdateXsync_some hrun
    have hmode : s₁.replMode.mode = .xsync := hup.replMode ▸ hv
    exact iff_of_true ((aligned_xsync_iff hmode (hid _ rfl (hnew.trans hold.symm))).mpr
      (halign hreploff)) (fun hk => hk.elim)
  | reset2Xsync oid off masterUuid t u newReplid =>
    cases oid with
    | none => exact nomatch htarget
    | some id =>
      obtain ⟨rfl, rfl⟩ := Prod.mk.inj (Option.some.inj htarget)
      obtain ⟨hreset, -⟩ := serverReplStreamReset2Xsync_some h
      rw [aligned_xsync_iff hreset.mode (hreset.replid id rfl), hreset.offset hreploff,
        hreset.delta]
      exact ⟨fun h _ => by omega, fun h => by rw [h trivial, Int.add_zero]⟩
  | _ => exact nomatch htarget

/-- A reset to xsync at offset 200. -/
theorem exists_reset2Xsync [RedisReplication] (delta : Int) :
    ∃ sets s', (StreamOp.reset2Xsync (some (List.replicate 40 49)) 200 none gtidSetNew gtidSetNew
      []).step (masterServer sets .xsync 100 delta) (fun _ => 0) = some s' := by
  obtain ⟨e, hupdate, -⟩ := gtidSetCurrentUuidSetUpdate_spec regularSet_new.1 [65]
  have hstart : ServerStart ⟨[65], e, gtidSetNew⟩ := ⟨hupdate, rfl⟩
  obtain ⟨hold, -⟩ := serverStart_spec hstart
  obtain ⟨sets, hsets, -⟩ := serverGtidSetReset_spec hold regularSet_new.1 regularSet_new.1
    (fun _ => 0)
  exact ⟨_, serverReplStreamReset2Xsync_isSome (s := masterServer _ .xsync 100 delta) _ _ _ _ hsets⟩

theorem transition_aligns_reset :
    ∃ s s', (StreamOp.reset2Psync (List.replicate 40 49) 200).step s (fun _ => 0) = some s' ∧
      Aligned s' (List.replicate 40 49) 200 := by
  have hrun : ∃ s', (StreamOp.reset2Psync (List.replicate 40 49) 200).step
      (masterServer ⟨[65], gtidSetNew, gtidSetNew⟩ .xsync 100 50) (fun _ => 0) = some s' := ⟨_, rfl⟩
  obtain ⟨s', h⟩ := hrun
  have hv : (StreamOp.reset2Psync (List.replicate 40 49) 200).Valid
      (masterServer ⟨[65], gtidSetNew, gtidSetNew⟩ .xsync 100 50) := trivial
  exact ⟨_, s', h, (transition_aligns_iff rfl (by decide) List.length_replicate (by decide) hv
    h).mpr False.elim⟩

/-- A server with the delta 50 that is reset to xsync at offset 200 says it is at 250. -/
theorem reset2Xsync_keeps_delta :
    ¬ ∀ (s s' : Server) (op : StreamOp) (replid : Bytes) (reploff : Int) (rand : Rand),
      op.target = some (replid, reploff) → 0 ≤ reploff →
      s.replid.length = CONFIG_RUN_ID_SIZE → replid.length = CONFIG_RUN_ID_SIZE →
      op.Valid s → op.step s rand = some s' → Aligned s' replid reploff := by
  intro hall
  obtain ⟨sets, s', h⟩ := exists_reset2Xsync 50
  obtain ⟨hreset, -⟩ := serverReplStreamReset2Xsync_some h
  have hlen : (masterServer sets .xsync 100 50).replid.length = CONFIG_RUN_ID_SIZE :=
    List.length_replicate
  have halign := hall _ s' (.reset2Xsync _ 200 _ _ _ _) _ _ _ rfl (by decide) hlen (by decide)
    trivial h
  rw [aligned_xsync_iff hreset.mode (hreset.replid _ rfl), hreset.offset (by decide),
    hreset.delta] at halign
  exact absurd (show (200 : Int) + 50 = 200 from halign) (by decide)

end Identity

/-! ## The repl modes over runs -/

def Mode.opposite : Mode → Mode
  | .psync => .xsync
  | .xsync => .psync
  | .unset => .unset

structure ReplModeInvariant (s : Server) : Prop where
  set : s.replMode.mode ≠ .unset
  prev : s.prevReplMode.mode = .unset ∨ s.prevReplMode.mode = s.replMode.mode.opposite
  delta : s.replMode.mode = .psync → s.gtidReploffDelta = 0
  «from» : s.replMode.from ≤ s.masterReplOffset + 1

section Invariant
variable {init : Server → Prop} {cond : Server → StreamOp → Prop} {s s' : Server} {op : StreamOp}
  {rand : Rand}

theorem Reset2Psync.replModeInvariant {id : Bytes} {reploff : Int}
    (h : Reset2Psync s id reploff s') : ReplModeInvariant s' := by
  refine ⟨?_, Or.inl h.prevMode, fun _ => h.delta, h.from.le⟩
  rw [h.mode]
  decide

theorem Reset2Xsync.replModeInvariant {replid : Option Bytes} {reploff : Int}
    (h : Reset2Xsync s replid reploff s') : ReplModeInvariant s' := by
  refine ⟨?_, Or.inl h.prevMode, fun hmode => (nomatch hmode.symm.trans h.mode), h.from.le⟩
  rw [h.mode]
  decide

/-- **One step** keeps the modes consistent. -/
theorem StreamEffect.replModeInvariant (heff : StreamEffect s op s') (h : ReplModeInvariant s) :
    ReplModeInvariant s' := by
  cases heff with
  | reset2Psync id reploff hreset => exact hreset.replModeInvariant
  | reset2Xsync replid reploff hreset => exact hreset.replModeInvariant
  | switched2Psync id reploff hsw =>
    refine ⟨?_, Or.inr ?_, fun _ => hsw.delta, by rw [hsw.from, hsw.offset]⟩
    · rw [hsw.mode]
      decide
    · rw [hsw.mode, hsw.prevMode]
      rfl
  | switched2Xsync id reploff hsw =>
    refine ⟨?_, Or.inr ?_, fun hmode => (nomatch hmode.symm.trans hsw.mode),
      by rw [hsw.from, hsw.offset]⟩
    · rw [hsw.mode]
      decide
    · rw [hsw.mode, hsw.prevMode]
      rfl
  | updated hup hdelta =>
    refine ⟨by rw [hup.replMode]; exact h.set, by rw [hup.replMode, hup.prevReplMode]; exact h.prev,
      ?_, by rw [hup.replMode, hup.offset]; exact h.from⟩
    intro hmode
    rw [hup.replMode] at hmode
    by_cases hsame : s'.gtidReploffDelta = s.gtidReploffDelta
    · rw [hsame]
      exact h.delta hmode
    · exact nomatch hmode.symm.trans (hdelta hsame)
  | fed f hf hfed =>
    refine ⟨by rw [hfed.replMode]; exact h.set,
      by rw [hfed.replMode, hfed.prevReplMode]; exact h.prev, ?_, ?_⟩
    · rw [hfed.replMode, hfed.delta]
      exact h.delta
    · have := h.from
      rw [hfed.replMode, hfed.offset]
      omega
  | backlog hsame hsize hbacklog =>
    refine ⟨by rw [hsame.replMode]; exact h.set,
      by rw [hsame.replMode, hsame.prevReplMode]; exact h.prev, ?_, ?_⟩
    · rw [hsame.replMode, hsame.delta]
      exact h.delta
    · rw [hsame.replMode, hsame.offset]
      exact h.from

/-- A mode that is not the current one is the one before, if there is one. -/
theorem ReplModeInvariant.prev_eq (h : ReplModeInvariant s) {mode : Mode} (hset : mode ≠ .unset)
    (hne : mode ≠ s.replMode.mode) (hprev : s.prevReplMode.mode ≠ .unset) :
    s.prevReplMode.mode = mode := by
  rw [h.prev.resolve_left hprev]
  have hmode := h.set
  cases hcur : s.replMode.mode <;> cases mode <;> simp_all [Mode.opposite]

theorem StreamOp.IsReset.replModeInvariant [RedisReplication] (hop : op.IsReset)
    (h : op.step s rand = some s') :
    ReplModeInvariant s' := by
  cases op with
  | reset2Psync replid reploff =>
    obtain ⟨id, -, hreset⟩ := serverReplStreamReset2Psync_some h
    exact hreset.replModeInvariant
  | reset2Xsync replid reploff masterUuid t u newReplid =>
    exact (serverReplStreamReset2Xsync_some h).1.replModeInvariant
  | _ => exact absurd hop id

/-- **Every run** keeps the modes consistent. -/
theorem StreamReachable.replModeInvariant [RedisReplication] (h : StreamReachable init cond s) :
    ReplModeInvariant s := by
  induction h with
  | start op rand _ hop hrun => exact hop.replModeInvariant hrun
  | step op rand _ _ _ hrun ih => exact (StreamOp.step_effect hrun).replModeInvariant ih

end Invariant

end XredisGtid
