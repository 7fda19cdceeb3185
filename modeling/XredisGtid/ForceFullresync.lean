import XredisGtid.Gtidx
import XredisGtid.SyncReplyRead

/-!
# Forcing a full synchronization

A replica in xsync mode that replies to its master with a type error has other data than the
master.  `ctrip_afterErrorReply` of `xredis_gtid.c` counts these errors, and the cron, when it
finds that the counter has gone up, frees the link to the master and asks for a full
synchronization with the next request.  Whatever happens before the cron runs, and after it until
the stream is reset or switched, no master continues the stream of such a replica.

`freeClient` is what Redis does to the links when the client of the master is freed.
-/
namespace XredisGtid
open Buffer

inductive ClientType where
  | normal
  | slave
  | pubsub
  | master
deriving DecidableEq, Repr

structure XsyncServer extends Server where
  gtidXsyncFullresyncIndicator : Int
  /-- The static variable of `forceXsyncFullResyncIfNeeded`. -/
  prevXsyncFullresyncIndicator : Int

/-- Swap failed (code=-206) -/
def SWAP_FAILED : Bytes :=
  ['S', 'w', 'a', 'p', ' ', 'f', 'a', 'i', 'l', 'e', 'd', ' ', '(', 'c', 'o', 'd', 'e', '=', '-',
    '2', '0', '6', ')'].map Char.toUInt8
def WRONGTYPE : Bytes := ['W', 'R', 'O', 'N', 'G', 'T', 'Y', 'P', 'E'].map Char.toUInt8

def isWrongTypeErrorReply (s : Bytes) : Bool :=
  let s := if s.head? = some '-'.toUInt8 then s.tail else s
  decide (SWAP_FAILED <+: s ∨ WRONGTYPE <+: s)

/-- Replica sending wrong type error to master indicates data inconsistent, force fullresync to
fix it. -/
def ctripAfterErrorReply (server : XsyncServer) (clientType : ClientType) (s : Bytes) :
    XsyncServer :=
  if server.replMode.mode ≠ .xsync then server
  else if clientType = .master ∧ isWrongTypeErrorReply s then
    { server with gtidXsyncFullresyncIndicator := server.gtidXsyncFullresyncIndicator + 1 }
  else server

def forceXsyncFullResyncIfNeeded (freeClient : Server → Server) (server : XsyncServer) :
    Option XsyncServer := do
  guard (server.replMode.mode = .xsync)
  guard (server.prevXsyncFullresyncIndicator ≤ server.gtidXsyncFullresyncIndicator)
  if server.prevXsyncFullresyncIndicator = server.gtidXsyncFullresyncIndicator then some server
  else
    let forced := forceXsyncFullResync server.toServer
    some { server with
      toServer := if forced.master then freeClient forced else forced
      prevXsyncFullresyncIndicator := server.gtidXsyncFullresyncIndicator }

def xsyncReplicationCron (freeClient : Server → Server) (server : XsyncServer) :
    Option XsyncServer :=
  forceXsyncFullResyncIfNeeded freeClient server

/-! ## Runs -/

/-- What Redis provides. -/
structure XsyncEnvironment where
  redis : Redis
  sds : Sds
  zcalloc : Nat → Bool
  freeClient : Server → Server

/-- Freeing the client of the master concerns the links only. -/
def XsyncEnvironment.FreesMaster (env : XsyncEnvironment) : Prop :=
  ∀ s, ∃ cachedMaster, env.freeClient s = { s with master := false, cachedMaster := cachedMaster }

inductive XsyncOp where
  | stream (op : StreamOp)
  | errorReply (clientType : ClientType) (s : Bytes)
  | gtidx (backlog : ReplBuffer) (sub : Bytes) (args : List Bytes)
  /-- The reply of a master. -/
  | read (reply : Bytes)
  | cron

def XsyncOp.step [RedisReplication] (env : XsyncEnvironment) (s : XsyncServer) (rand : Rand) :
    XsyncOp → Option XsyncServer
  | .stream op => (op.step s.toServer rand).map (fun t => { s with toServer := t })
  | .errorReply clientType text => some (ctripAfterErrorReply s clientType text)
  | .gtidx backlog sub args =>
    (gtidxSubcommand env.redis env.zcalloc s.toServer backlog sub args rand).map
      (fun r => { s with toServer := r.1 })
  | .read reply =>
    (slaveTryPartialResynchronizationRead env.sds s.toServer reply rand).map
      (fun out => { s with toServer := out.server })
  | .cron => xsyncReplicationCron env.freeClient s

inductive XsyncSteps [RedisReplication] (env : XsyncEnvironment) :
    XsyncServer → List XsyncOp → XsyncServer → Prop
  | nil (s : XsyncServer) : XsyncSteps env s [] s
  | cons {s s' s'' : XsyncServer} {ops : List XsyncOp} (op : XsyncOp) (rand : Rand) :
      op.step env s rand = some s' → XsyncSteps env s' ops s'' → XsyncSteps env s (op :: ops) s''

/-- An error that is counted in xsync mode. -/
def XsyncOp.IsTypeError : XsyncOp → Prop
  | .errorReply clientType text => clientType = .master ∧ isWrongTypeErrorReply text = true
  | _ => False

/-- What may set uuid.interested back: resets, switches, a CONTINUE reply and the command that sets
it. -/
def XsyncOp.Renews : XsyncOp → Prop
  | .stream op => op.IsReset ∨ match op with
    | .switch2Psync .. | .switch2Xsync .. | .switchIfNeeded .. => True
    | _ => False
  | .gtidx _ sub _ => isOption sub UUID_INTERESTED = true
  | .read reply => CONTINUE <+: reply
  | _ => False

/-- Some error has been counted since the last full synchronization was forced. -/
def XsyncServer.Pending (s : XsyncServer) : Prop :=
  s.prevXsyncFullresyncIndicator < s.gtidXsyncFullresyncIndicator

/-! ## What a step keeps -/

section Steps
variable {env : XsyncEnvironment} {s s' s'' : XsyncServer} {op : XsyncOp} {ops : List XsyncOp}
  {t t' : Server} {reply : Bytes} {rand : Rand}

/-- An operation on the stream that does not reset or switch it. -/
theorem StreamOp.step_kept [RedisReplication] {op : StreamOp} (h : op.step t rand = some t')
    (hop : ¬ (XsyncOp.stream op).Renews) :
    t'.replMode = t.replMode ∧ t'.gtidUuidInterested = t.gtidUuidInterested := by
  have hfeed : ∀ {touch uuid gno offset n}, feedIndexed t touch uuid gno offset n = some t' →
      t'.replMode = t.replMode ∧ t'.gtidUuidInterested = t.gtidUuidInterested := by
    intro touch uuid gno offset n h
    simp only [feedIndexed, feedReplicationBacklog_eq] at h
    split at h
    · simp only [Option.bind_eq_bind, Option.bind_eq_some_iff] at h
      obtain ⟨seq, -, seq₁, -, seq', -, heq⟩ := h
      obtain rfl := Option.some.inj heq
      exact ⟨rfl, rfl⟩
    · obtain rfl := Option.some.inj h
      exact ⟨rfl, rfl⟩
  cases op with
  | reset2Psync | reset2Xsync => exact absurd (Or.inl trivial) hop
  | switch2Psync | switch2Xsync | switchIfNeeded => exact absurd (Or.inr trivial) hop
  | updateFromMaster | updateFromReplica =>
    obtain ⟨⟨t₁, b⟩, hrun, rfl⟩ := Option.map_eq_some_iff.mp h
    obtain ⟨hup, -⟩ := serverReplStreamUpdateXsync_some hrun
    exact ⟨hup.replMode, hup.interested⟩
  | feedSlaves | feedSlavesFromMasterStream => exact hfeed h
  | createBacklog =>
    simp only [StreamOp.step, ctripCreateReplicationBacklog, createReplicationBacklog_eq,
      Option.bind_eq_bind, Option.bind_eq_some_iff] at h
    obtain ⟨-, -, heq⟩ := h
    obtain rfl := Option.some.inj heq
    exact ⟨rfl, rfl⟩
  | resizeBacklog newsize =>
    obtain rfl := Option.some.inj h
    simp only [ctripResizeReplicationBacklog, resizeReplicationBacklog_eq]
    split <;> exact ⟨rfl, rfl⟩
  | freeBacklog =>
    simp only [StreamOp.step, ctripFreeReplicationBacklog, freeReplicationBacklog_eq] at h
    obtain rfl := Option.some.inj h
    exact ⟨rfl, rfl⟩
  | changeSets | changeLinks =>
    obtain rfl := Option.some.inj h
    exact ⟨rfl, rfl⟩

/-- Only a CONTINUE reply is parsed as one. -/
theorem parseSyncReply_pcontinue {sds : Sds} {replid : Option Bytes} {isSet : Bool} {reploff : Int}
    (h : parseSyncReply sds reply rand = some (.pcontinue replid isSet reploff)) :
    CONTINUE <+: reply := by
  have hoptions : ∀ (kind : ReplyKind) {tokens},
      parseReplyOptions kind.options kind.parsedOf tokens rand ≠
        some (.pcontinue replid isSet reploff) := by
    intro kind tokens hparse
    rw [parseReplyOptions] at hparse
    obtain ⟨r, -, hparse⟩ := Option.bind_eq_some_iff.mp hparse
    cases r with
    | error errmsg => cases hparse
    | ok fields =>
      have hparsed := Option.some.inj hparse
      cases kind with
      | xfullresync =>
        rw [ReplyKind.parsedOf, xfullresyncOf.eq_def] at hparsed
        split at hparsed <;> try cases hparsed
        split at hparsed <;> cases hparsed
      | xcontinue =>
        rw [ReplyKind.parsedOf, xcontinueOf.eq_def] at hparsed
        split at hparsed <;> try cases hparsed
        split at hparsed <;> cases hparsed
  rw [parseSyncReply] at h
  split at h
  · exact absurd h (hoptions .xfullresync)
  split at h
  · exact absurd h (hoptions .xcontinue)
  split at h
  · have hparsed := Option.some.inj h
    rw [parseSyncReplyFullresync] at hparsed
    split at hparsed
    · dsimp only at hparsed
      split at hparsed
      · cases hparsed
      split at hparsed <;> cases hparsed
    · cases hparsed
  split at h
  · assumption
  split at h
  · cases h
  split at h
  · cases h
  · cases h

theorem serverReplStreamResurrectCreate_kept [RedisReplication] {replid : Option Bytes}
    {reploff : Int} (h : serverReplStreamResurrectCreate t replid reploff = some t') :
    t'.replMode = t.replMode ∧ t'.gtidUuidInterested = t.gtidUuidInterested := by
  simp only [serverReplStreamResurrectCreate, Option.bind_eq_bind, Option.bind_eq_some_iff,
    Option.guard_eq_some', exists_const] at h
  obtain ⟨-, -, h⟩ := h
  split at h
  · obtain rfl := Option.some.inj h
    exact ⟨rfl, rfl⟩
  · rw [ctripCreateReplicationBacklog, createReplicationBacklog_eq] at h
    obtain ⟨-, -, h⟩ := Option.bind_eq_some_iff.mp h
    obtain rfl := Option.some.inj h
    exact ⟨rfl, rfl⟩

/-- **A reply** that does not switch the stream leaves a replica in xsync mode in its stage, and may
only ask for a full synchronization. -/
theorem slaveRead_kept [RedisReplication] {sds : Sds} {out : ReadOutcome}
    (h : slaveTryPartialResynchronizationRead sds t reply rand = some out)
    (hmode : t.replMode.mode = .xsync) (hreply : ¬ CONTINUE <+: reply) :
    out.server.replMode = t.replMode ∧
      (out.server.gtidUuidInterested = t.gtidUuidInterested ∨
        out.server.gtidUuidInterested = GTID_XSYNC_UUID_INTERESTED_FULLRESYNC) := by
  rw [slaveTryPartialResynchronizationRead] at h
  obtain ⟨parsed, hparse, h⟩ := Option.bind_eq_some_iff.mp h
  cases parsed with
  | transerr =>
    obtain rfl := Option.some.inj h
    exact ⟨rfl, Or.inl rfl⟩
  | transerr2 =>
    obtain rfl := Option.some.inj h
    exact ⟨rfl, Or.inl rfl⟩
  | invalid msg =>
    obtain rfl := Option.some.inj h
    rw [fallbackToFullresync, serverReplStreamMasterLinkBroken, if_pos hmode]
    exact ⟨rfl, Or.inr rfl⟩
  | pcontinue => exact absurd (parseSyncReply_pcontinue hparse) hreply
  | fullresync =>
    dsimp only at h
    rw [if_neg (not_not.mpr hmode), slaveXsyncRead] at h
    obtain ⟨-, -, h⟩ := Option.bind_eq_some_iff.mp h
    obtain rfl := Option.some.inj h
    exact ⟨rfl, Or.inl rfl⟩
  | xfullresync =>
    dsimp only at h
    rw [if_neg (not_not.mpr hmode), slaveXsyncRead] at h
    obtain ⟨-, -, h⟩ := Option.bind_eq_some_iff.mp h
    obtain rfl := Option.some.inj h
    exact ⟨rfl, Or.inl rfl⟩
  | xcontinue gtidCont gtidLost masterUuid replid reploff =>
    dsimp only at h
    rw [if_neg (not_not.mpr hmode), slaveXsyncRead] at h
    obtain ⟨-, -, h⟩ := Option.bind_eq_some_iff.mp h
    obtain ⟨t₁, hupdate, h⟩ := Option.bind_eq_some_iff.mp h
    obtain ⟨t₂, hcreate, h⟩ := Option.bind_eq_some_iff.mp h
    obtain rfl := Option.some.inj h
    rw [slaveXsyncXcontinue] at hupdate
    obtain ⟨slave, -, hupdate⟩ := Option.bind_eq_some_iff.mp hupdate
    obtain ⟨slost, -, hupdate⟩ := Option.bind_eq_some_iff.mp hupdate
    obtain ⟨⟨t₃, b⟩, hrun, heq⟩ := Option.bind_eq_some_iff.mp hupdate
    obtain rfl := Option.some.inj heq
    obtain ⟨hup, -⟩ := serverReplStreamUpdateXsync_some hrun
    obtain ⟨hkept, hsame⟩ := serverReplStreamResurrectCreate_kept hcreate
    exact ⟨hkept.trans hup.replMode, Or.inl (hsame.trans hup.interested)⟩

/-- What is asked for is a full synchronization. -/
def XsyncServer.Forced (s : XsyncServer) : Prop :=
  s.gtidUuidInterested = GTID_XSYNC_UUID_INTERESTED_FULLRESYNC

theorem forceXsyncFullResyncIfNeeded_some {freeClient : Server → Server}
    (h : forceXsyncFullResyncIfNeeded freeClient s = some s') :
    s.replMode.mode = .xsync ∧
      (s.prevXsyncFullresyncIndicator = s.gtidXsyncFullresyncIndicator ∧ s' = s ∨
        s.Pending ∧ s' = { s with
          toServer :=
            if s.master then freeClient (forceXsyncFullResync s.toServer)
            else forceXsyncFullResync s.toServer
          prevXsyncFullresyncIndicator := s.gtidXsyncFullresyncIndicator }) := by
  simp only [forceXsyncFullResyncIfNeeded, Option.bind_eq_bind, Option.bind_eq_some_iff,
    Option.guard_eq_some', exists_const] at h
  obtain ⟨hmode, hle, h⟩ := h
  refine ⟨hmode, ?_⟩
  split at h
  · next heq => exact Or.inl ⟨heq, (Option.some.inj h).symm⟩
  · next hne =>
    obtain rfl := Option.some.inj h
    exact Or.inr ⟨lt_of_le_of_ne hle hne, rfl⟩

/-- **The counters**: an error that is counted adds one, the cron catches up with it, and nothing
else changes them. -/
theorem XsyncOp.step_counters [RedisReplication] (h : op.step env s rand = some s') :
    s.gtidXsyncFullresyncIndicator ≤ s'.gtidXsyncFullresyncIndicator ∧
      (¬ op.IsTypeError → s'.gtidXsyncFullresyncIndicator = s.gtidXsyncFullresyncIndicator) ∧
      (op ≠ .cron → s'.prevXsyncFullresyncIndicator = s.prevXsyncFullresyncIndicator) ∧
      (op = .cron → s'.prevXsyncFullresyncIndicator = s.gtidXsyncFullresyncIndicator) := by
  cases op with
  | stream op =>
    obtain ⟨t, -, rfl⟩ := Option.map_eq_some_iff.mp h
    exact ⟨le_refl _, fun _ => rfl, fun _ => rfl, fun h => nomatch h⟩
  | gtidx =>
    obtain ⟨r, -, rfl⟩ := Option.map_eq_some_iff.mp h
    exact ⟨le_refl _, fun _ => rfl, fun _ => rfl, fun h => nomatch h⟩
  | read =>
    obtain ⟨out, -, rfl⟩ := Option.map_eq_some_iff.mp h
    exact ⟨le_refl _, fun _ => rfl, fun _ => rfl, fun h => nomatch h⟩
  | errorReply clientType text =>
    obtain rfl := Option.some.inj h
    rw [ctripAfterErrorReply]
    split
    · exact ⟨le_refl _, fun _ => rfl, fun _ => rfl, fun h => nomatch h⟩
    split
    · next herror =>
      exact ⟨Int.le_add_one (le_refl _), fun hno => absurd herror hno, fun _ => rfl,
        fun h => nomatch h⟩
    · exact ⟨le_refl _, fun _ => rfl, fun _ => rfl, fun h => nomatch h⟩
  | cron =>
    obtain ⟨-, ⟨heq, rfl⟩ | ⟨-, rfl⟩⟩ := forceXsyncFullResyncIfNeeded_some h
    · exact ⟨le_refl _, fun _ => rfl, fun h => absurd rfl h, fun _ => heq⟩
    · exact ⟨le_refl _, fun _ => rfl, fun h => absurd rfl h, fun _ => rfl⟩

/-- Every subcommand but one changes the sets at most. -/
theorem gtidxSubcommand_kept {redis : Redis} {zcalloc : Nat → Bool} {backlog : ReplBuffer}
    {sub : Bytes} {args : List Bytes} {reply : GtidxReply}
    (hsub : ¬ isOption sub UUID_INTERESTED = true)
    (h : gtidxSubcommand redis zcalloc t backlog sub args rand = some (t', reply)) :
    ∃ sets, t' = t.setSets sets := by
  have hsame : ∀ {r : Option GtidxReply}, r.map (t, ·) = some (t', reply) →
      ∃ sets, t' = t.setSets sets := by
    intro r hr
    obtain ⟨_, -, heq⟩ := Option.map_eq_some_iff.mp hr
    obtain ⟨rfl, -⟩ := Prod.mk.inj heq
    exact ⟨t.toServerSets, rfl⟩
  rw [gtidxSubcommand] at h
  split at h
  · exact hsame (r := some .help) h
  split at h
  · exact hsame h
  split at h
  · exact hsame h
  split at h
  · obtain ⟨⟨sets, _⟩, -, h⟩ := Option.bind_eq_some_iff.mp h
    obtain ⟨rfl, -⟩ := Prod.mk.inj (Option.some.inj h)
    exact ⟨sets, rfl⟩
  split at h
  · exact hsame h
  split at h
  · next huuid => exact absurd huuid.1 hsub
  · exact hsame (r := some .subcommandSyntaxError) h

/-- **A step that does not renew** uuid.interested leaves a replica in xsync mode there, and lets it
ask for a full synchronization. -/
theorem XsyncOp.step_forced [RedisReplication] (henv : env.FreesMaster)
    (h : op.step env s rand = some s') (hmode : s.replMode.mode = .xsync) (hop : ¬ op.Renews) :
    s'.replMode.mode = .xsync ∧ (s.Forced → s'.Forced) := by
  cases op with
  | stream op =>
    obtain ⟨t, hrun, rfl⟩ := Option.map_eq_some_iff.mp h
    obtain ⟨hkept, hsame⟩ := StreamOp.step_kept hrun hop
    exact ⟨(congrArg ReplMode.mode hkept).trans hmode, fun hf => hsame.trans hf⟩
  | gtidx =>
    obtain ⟨r, hrun, rfl⟩ := Option.map_eq_some_iff.mp h
    obtain ⟨sets, hsets⟩ := gtidxSubcommand_kept hop hrun
    exact ⟨hsets ▸ hmode, fun hf => hsets ▸ hf⟩
  | read =>
    obtain ⟨out, hrun, rfl⟩ := Option.map_eq_some_iff.mp h
    obtain ⟨hkept, hsame⟩ := slaveRead_kept hrun hmode hop
    exact ⟨(congrArg ReplMode.mode hkept).trans hmode,
      fun hf => hsame.elim (fun h => h.trans hf) id⟩
  | errorReply clientType text =>
    obtain rfl := Option.some.inj h
    rw [ctripAfterErrorReply, if_neg (not_not.mpr hmode)]
    split
    · exact ⟨hmode, id⟩
    · exact ⟨hmode, id⟩
  | cron =>
    obtain ⟨-, ⟨-, rfl⟩ | ⟨-, rfl⟩⟩ := forceXsyncFullResyncIfNeeded_some h
    · exact ⟨hmode, id⟩
    · obtain ⟨c, hfree⟩ := henv (forceXsyncFullResync s.toServer)
      rw [XsyncServer.Forced, hfree]
      dsimp only
      split
      · exact ⟨hmode, fun _ => rfl⟩
      · exact ⟨hmode, fun _ => rfl⟩

end Steps

/-! ## What a run keeps -/

section Run
variable {env : XsyncEnvironment} {s s₀ s₁ s₂ s₃ : XsyncServer} {ops l l₀ l₁ l₂ : List XsyncOp}
  {text : Bytes} {rand : Rand}

/-- Some run from a server whose counters are in order. -/
def XsyncReachable [RedisReplication] (env : XsyncEnvironment) (s : XsyncServer) : Prop :=
  ∃ s₀ ops, s₀.prevXsyncFullresyncIndicator ≤ s₀.gtidXsyncFullresyncIndicator ∧
    XsyncSteps env s₀ ops s

theorem XsyncSteps.ordered [RedisReplication] (h : XsyncSteps env s ops s₁)
    (hle : s.prevXsyncFullresyncIndicator ≤ s.gtidXsyncFullresyncIndicator) :
    s₁.prevXsyncFullresyncIndicator ≤ s₁.gtidXsyncFullresyncIndicator := by
  induction h with
  | nil => exact hle
  | cons op rand hstep _ ih =>
    obtain ⟨hmono, -, hother, hcron⟩ := op.step_counters hstep
    apply ih
    by_cases hop : op = .cron
    · rw [hcron hop]
      exact hmono
    · rw [hother hop]
      exact hle.trans hmono

/-- **The assertion of the cron holds** in every run. -/
theorem XsyncReachable.ordered [RedisReplication] (h : XsyncReachable env s) :
    s.prevXsyncFullresyncIndicator ≤ s.gtidXsyncFullresyncIndicator := by
  obtain ⟨s₀, ops, hle, hrun⟩ := h
  exact hrun.ordered hle

/-- Until the cron runs, a counted error is not forgotten. -/
theorem XsyncSteps.pending [RedisReplication] (h : XsyncSteps env s ops s₁) (hno : .cron ∉ ops)
    (hs : s.Pending) :
    s₁.Pending := by
  induction h with
  | nil => exact hs
  | cons op rand hstep _ ih =>
    rw [List.mem_cons, not_or] at hno
    obtain ⟨hmono, -, hother, -⟩ := op.step_counters hstep
    refine ih hno.2 ?_
    rw [XsyncServer.Pending, hother (Ne.symm hno.1)]
    exact lt_of_lt_of_le hs hmono

/-- Without an error, there is none for the cron to find. -/
theorem XsyncSteps.idle [RedisReplication] (h : XsyncSteps env s ops s₁)
    (hno : ∀ op ∈ ops, ¬ op.IsTypeError)
    (hs : s.prevXsyncFullresyncIndicator = s.gtidXsyncFullresyncIndicator) :
    s₁.prevXsyncFullresyncIndicator = s₁.gtidXsyncFullresyncIndicator := by
  induction h with
  | nil => exact hs
  | cons op rand hstep _ ih =>
    obtain ⟨-, hsame, hother, hcron⟩ := op.step_counters hstep
    refine ih (fun op' hop' => hno op' (List.mem_cons_of_mem _ hop')) ?_
    rw [hsame (hno op List.mem_cons_self)]
    by_cases hop : op = .cron
    · exact hcron hop
    · exact (hother hop).trans hs

/-- A replica that asks for a full synchronization goes on doing so. -/
theorem XsyncSteps.forced [RedisReplication] (henv : env.FreesMaster) (h : XsyncSteps env s ops s₁)
    (hno : ∀ op ∈ ops, ¬ op.Renews) (hmode : s.replMode.mode = .xsync) (hs : s.Forced) :
    s₁.replMode.mode = .xsync ∧ s₁.Forced := by
  induction h with
  | nil => exact ⟨hmode, hs⟩
  | cons op rand hstep _ ih =>
    obtain ⟨hmode', hforced⟩ := op.step_forced henv hstep hmode (hno op List.mem_cons_self)
    exact ih (fun op' hop' => hno op' (List.mem_cons_of_mem _ hop')) hmode' (hforced hs)

/-- The cron finds an error. -/
theorem xsyncReplicationCron_pending (henv : env.FreesMaster) (hs : s.Pending)
    (h : xsyncReplicationCron env.freeClient s = some s₁) :
    s₁.replMode.mode = .xsync ∧ s₁.master = false ∧ s₁.Forced := by
  obtain ⟨hmode, ⟨heq, -⟩ | ⟨-, rfl⟩⟩ := forceXsyncFullResyncIfNeeded_some h
  · exact absurd heq (ne_of_lt hs)
  · obtain ⟨c, hfree⟩ := henv (forceXsyncFullResync s.toServer)
    rw [XsyncServer.Forced, hfree]
    dsimp only
    split
    · exact ⟨hmode, rfl, rfl⟩
    · next hno => exact ⟨hmode, Bool.eq_false_iff.mpr hno, rfl⟩

/-- **The cron never fails** in xsync mode, and changes nothing but when an error has been counted
since it ran last. -/
theorem xsyncReplicationCron_idle [RedisReplication] (h : XsyncReachable env s)
    (hmode : s.replMode.mode = .xsync) :
    ∃ s₁, xsyncReplicationCron env.freeClient s = some s₁ ∧ ∀ ops s₂, XsyncSteps env s₁ ops s₂ →
      (∀ op ∈ ops, ¬ op.IsTypeError) → s₂.replMode.mode = .xsync →
      xsyncReplicationCron env.freeClient s₂ = some s₂ := by
  have hguard : ∀ {t : XsyncServer}, t.replMode.mode = .xsync →
      (guard (t.replMode.mode = .xsync) : Option Unit) = some () := fun h => if_pos h
  have hordered : ∀ {t : XsyncServer},
      t.prevXsyncFullresyncIndicator ≤ t.gtidXsyncFullresyncIndicator →
      (guard (t.prevXsyncFullresyncIndicator ≤ t.gtidXsyncFullresyncIndicator) : Option Unit) =
        some () := fun h => if_pos h
  obtain ⟨s₁, hcron⟩ : ∃ s₁, xsyncReplicationCron env.freeClient s = some s₁ := by
    simp only [xsyncReplicationCron, forceXsyncFullResyncIfNeeded, hguard hmode,
      hordered h.ordered, Option.bind_eq_bind, Option.bind_some]
    split
    · exact ⟨_, rfl⟩
    · exact ⟨_, rfl⟩
  refine ⟨s₁, hcron, fun ops s₂ hrun hno hmode₂ => ?_⟩
  have hcaught : s₁.prevXsyncFullresyncIndicator = s₁.gtidXsyncFullresyncIndicator := by
    have hstep : XsyncOp.cron.step env s (fun _ => 0) = some s₁ := hcron
    obtain ⟨-, hsame, -, hprev⟩ := XsyncOp.cron.step_counters hstep
    rw [hprev rfl, hsame (fun h => h)]
  have hidle := hrun.idle hno hcaught
  simp only [xsyncReplicationCron, forceXsyncFullResyncIfNeeded, hguard hmode₂,
    hordered (le_of_eq hidle), Option.bind_eq_bind, Option.bind_some, if_pos hidle]

/-- The link is freed and nothing is cached. -/
def plainEnvironment : XsyncEnvironment where
  redis := Redis.plain
  sds := blankSds
  zcalloc := fun _ => true
  freeClient := fun s => { s with master := false, cachedMaster := false }

theorem plainEnvironment_freesMaster : plainEnvironment.FreesMaster := fun _ => ⟨false, rfl⟩

/-- A replica with a link to its master, and the two counters. -/
def linkedReplica (sets : ServerSets) (indicator prev : Int) : XsyncServer where
  toServer := { masterServer sets .xsync 100 0 with masterhost := true, master := true }
  gtidXsyncFullresyncIndicator := indicator
  prevXsyncFullresyncIndicator := prev

/-- An error is counted, the cron forces a full synchronization, and leaves it at that when a
client gets a type error and the replica is linked to its master again. -/
theorem xsyncReplicationCron_idle_linked :
    ∃ s s₁ s₂, (XsyncServer.Pending s ∧ ¬ s.Forced) ∧
      xsyncReplicationCron plainEnvironment.freeClient s = some s₁ ∧ XsyncServer.Forced s₁ ∧
      XsyncSteps plainEnvironment s₁
        [.errorReply .normal WRONGTYPE, .stream (.changeLinks true true false)] s₂ ∧
      s₂.master = true ∧ xsyncReplicationCron plainEnvironment.freeClient s₂ = some s₂ := by
  obtain ⟨sets, -⟩ := exists_replicaSets
  have hpending : (linkedReplica sets 1 0).Pending := (by decide : (0 : Int) < 1)
  have hreach : XsyncReachable plainEnvironment (linkedReplica sets 1 0) :=
    ⟨linkedReplica sets 0 0, _, le_refl _, .cons (.errorReply .master WRONGTYPE) (fun _ => 0) rfl
      (.cons (.stream (.changeLinks true true false)) (fun _ => 0) rfl (.nil _))⟩
  have hfree : ¬ (linkedReplica sets 1 0).Forced := (by decide :
    GTID_XSYNC_UUID_INTERESTED_DEFAULT ≠ GTID_XSYNC_UUID_INTERESTED_FULLRESYNC)
  obtain ⟨s₁, hcron, hidle⟩ := xsyncReplicationCron_idle hreach rfl
  obtain ⟨hmode, -, hforced⟩ :=
    xsyncReplicationCron_pending plainEnvironment_freesMaster hpending hcron
  have herror : ctripAfterErrorReply s₁ .normal WRONGTYPE = s₁ := by
    rw [ctripAfterErrorReply, if_neg (not_not.mpr hmode), if_neg (fun h => nomatch h.1)]
  have hrun : XsyncSteps plainEnvironment s₁
      [.errorReply .normal WRONGTYPE, .stream (.changeLinks true true false)] _ :=
    .cons (.errorReply .normal WRONGTYPE) (fun _ => 0) (congrArg some herror)
      (.cons (.stream (.changeLinks true true false)) (fun _ => 0) rfl (.nil _))
  refine ⟨_, s₁, _, ⟨hpending, hfree⟩, hcron, hforced, hrun, rfl, hidle _ _ hrun ?_ hmode⟩
  simp [XsyncOp.IsTypeError]

end Run

/-! ## What the master answers -/

section Answer
variable {env : XsyncEnvironment} {s s₁ s₂ s₃ : XsyncServer} {l₁ l₂ : List XsyncOp}
  {text gtidSlave gtidLost : Bytes} {maxgap : Int} {request : SyncRequest} {rand : Rand}

/-- The request is one for a full synchronization, or no request at all. -/
theorem masterParseSyncRequest_forced
    (h : masterParseSyncRequest (xsyncArgv GTID_XSYNC_UUID_INTERESTED_FULLRESYNC gtidSlave gtidLost
      maxgap) rand = some request) :
    (∃ msg, request = .invalid msg) ∨
      ∃ x, request = .xsync x ∧ x.uuidInterested = GTID_XSYNC_UUID_INTERESTED_FULLRESYNC := by
  have hpsync : isOption (['X', 'S', 'Y', 'N', 'C'].map Char.toUInt8) PSYNC = false := by decide
  have hxsync : isOption (['X', 'S', 'Y', 'N', 'C'].map Char.toUInt8) XSYNC = true := by decide
  simp only [masterParseSyncRequest, xsyncArgv, List.getElem?_cons_zero, List.getElem?_cons_succ,
    hpsync, hxsync, Option.bind_eq_bind, Option.bind_some, Bool.false_eq_true, if_false,
    if_true] at h
  rw [masterParseXsyncRequest] at h
  obtain ⟨slave, -, h⟩ := Option.bind_eq_some_iff.mp h
  cases slave with
  | none => exact Or.inl ⟨_, (Option.some.inj h).symm⟩
  | some slave =>
    obtain ⟨options, -, h⟩ := Option.bind_eq_some_iff.mp h
    cases options with
    | none => exact Or.inl ⟨_, (Option.some.inj h).symm⟩
    | some options =>
      obtain rfl := Option.some.inj h
      exact Or.inr ⟨_, rfl, rfl⟩

/-- **Every master** leaves such a request to a full synchronization. -/
theorem ctripMasterTryPartialResynchronization_forced [RedisReplication] {m m' : Server}
    {reply : SyncReply} {result : SyncResult}
    (h : ctripMasterTryPartialResynchronization m (xsyncArgv GTID_XSYNC_UUID_INTERESTED_FULLRESYNC
      gtidSlave gtidLost maxgap) rand = some (m', reply, result)) :
    m' = m ∧ reply = .byRedis ∧ result.action = .full := by
  rw [ctripMasterTryPartialResynchronization] at h
  obtain ⟨request, hparse, h⟩ := Option.bind_eq_some_iff.mp h
  obtain ⟨⟨result', msg⟩, hana, h⟩ := Option.bind_eq_some_iff.mp h
  obtain ⟨⟨m₁, reply'⟩, hreply, h⟩ := Option.bind_eq_some_iff.mp h
  simp only [Option.some.injEq, Prod.mk.injEq] at h
  obtain ⟨rfl, rfl, rfl⟩ := h
  have hfull : result'.action = .full := by
    rcases masterParseSyncRequest_forced hparse with ⟨msg', rfl⟩ | ⟨x, rfl, hx⟩
    · obtain ⟨rfl, -⟩ := Prod.mk.inj (Option.some.inj hana)
      rfl
    · obtain ⟨r, hxsync, hana⟩ := Option.bind_eq_some_iff.mp hana
      obtain ⟨rfl, -⟩ := Prod.mk.inj (Option.some.inj hana)
      rw [masterAnaXsyncRequest, if_pos hx] at hxsync
      obtain rfl := Option.some.inj hxsync
      rfl
  rw [masterReplySyncRequest, hfull] at hreply
  obtain ⟨rfl, rfl⟩ := Prod.mk.inj (Option.some.inj hreply)
  exact ⟨rfl, rfl, hfull⟩

/-- **A type error in a reply to the master forces a full synchronization.**  The next cron frees
the link to the master; from then on, until something renews uuid.interested, whatever is requested
of whatever master is left to a full synchronization. -/
theorem typeError_forces_fullresync [RedisReplication] (henv : env.FreesMaster)
    (h : XsyncReachable env s)
    (hmode : s.replMode.mode = .xsync) (htext : isWrongTypeErrorReply text = true)
    (hrun₁ : XsyncSteps env (ctripAfterErrorReply s .master text) l₁ s₁) (hno : .cron ∉ l₁)
    (hcron : xsyncReplicationCron env.freeClient s₁ = some s₂)
    (hrun₂ : XsyncSteps env s₂ l₂ s₃) (hkeep : ∀ op ∈ l₂, ¬ op.Renews) :
    s₂.master = false ∧ s₃.replMode.mode = .xsync ∧
      ∀ rand argv, ctripSlaveTryPartialResynchronizationWrite s₃.toServer rand = some argv →
        ∀ m m' reply result rand',
          ctripMasterTryPartialResynchronization m argv rand' = some (m', reply, result) →
            m' = m ∧ reply = .byRedis ∧ result.action = .full := by
  have hordered := h.ordered
  have hpending : (ctripAfterErrorReply s .master text).Pending := by
    rw [ctripAfterErrorReply, if_neg (not_not.mpr hmode), if_pos ⟨rfl, htext⟩]
    exact Int.lt_add_one_of_le hordered
  obtain ⟨hmode₂, hmaster, hforced⟩ :=
    xsyncReplicationCron_pending henv (hrun₁.pending hno hpending) hcron
  obtain ⟨hmode₃, hforced₃⟩ := hrun₂.forced henv hkeep hmode₂ hforced
  refine ⟨hmaster, hmode₃, fun rand argv hwrite m m' reply result rand' hrun => ?_⟩
  have hinterested : cString s₃.gtidUuidInterested = GTID_XSYNC_UUID_INTERESTED_FULLRESYNC := by
    rw [show s₃.gtidUuidInterested = GTID_XSYNC_UUID_INTERESTED_FULLRESYNC from hforced₃]
    decide
  simp only [ctripSlaveTryPartialResynchronizationWrite, Option.bind_eq_bind,
    Option.bind_eq_some_iff, hinterested] at hwrite
  obtain ⟨-, -, slave, -, slaveRepr, -, lostRepr, -, heq⟩ := hwrite
  obtain rfl := Option.some.inj heq
  exact ctripMasterTryPartialResynchronization_forced hrun

/-- `-WRONGTYPE` in the replies to two commands of the master; after the cron has run the replica
is linked again, and the cron runs once more. -/
theorem typeError_forces_fullresync_twice :
    ∃ (s₂ s₃ : XsyncServer) (argv : List Bytes) (result : SyncResult) (m : Server),
      s₂.master = false ∧ s₃.master = true ∧
      ctripSlaveTryPartialResynchronizationWrite s₃.toServer (fun _ => 0) = some argv ∧
      ctripMasterTryPartialResynchronization m argv (fun _ => 0) = some (m, .byRedis, result) ∧
      result.action = .full := by
  obtain ⟨sets, hold, huuids, hlost, -, hget⟩ := exists_replicaSets
  have hreach : XsyncReachable plainEnvironment (linkedReplica sets 0 0) :=
    ⟨linkedReplica sets 0 0, _, le_refl _,
      .cons (.stream (.changeLinks true true false)) (fun _ => 0) rfl (.nil _)⟩
  have hmode : ∀ {n}, (linkedReplica sets n 0).replMode.mode = .xsync := rfl
  have htext : isWrongTypeErrorReply ('-'.toUInt8 :: WRONGTYPE) = true := by decide
  have herror : ∀ n, ctripAfterErrorReply (linkedReplica sets n 0) .master
      ('-'.toUInt8 :: WRONGTYPE) = linkedReplica sets (n + 1) 0 := by
    intro n
    rw [ctripAfterErrorReply, if_neg (not_not.mpr hmode), if_pos ⟨rfl, htext⟩]
    rfl
  have hrun₁ : XsyncSteps plainEnvironment
      (ctripAfterErrorReply (linkedReplica sets 0 0) .master ('-'.toUInt8 :: WRONGTYPE))
      [.errorReply .master ('-'.toUInt8 :: WRONGTYPE)] (linkedReplica sets 2 0) := by
    rw [herror]
    exact .cons _ (fun _ => 0) (congrArg some (herror 1)) (.nil _)
  obtain ⟨s₂, s₃, hcron, hrun₂, hlinked, hs⟩ : ∃ s₂ s₃,
      xsyncReplicationCron plainEnvironment.freeClient (linkedReplica sets 2 0) = some s₂ ∧
      XsyncSteps plainEnvironment s₂ [.stream (.changeLinks true true false), .cron] s₃ ∧
      s₃.master = true ∧ s₃.toServer =
        { masterServer sets .xsync 100 0 with
          masterhost := true
          master := true
          gtidUuidInterested := GTID_XSYNC_UUID_INTERESTED_FULLRESYNC } :=
    ⟨_, _, rfl, .cons (.stream (.changeLinks true true false)) (fun _ => 0) rfl
      (.cons .cron (fun _ => 0) rfl (.nil _)), rfl, rfl⟩
  obtain ⟨hmaster, -, hanswer⟩ := typeError_forces_fullresync plainEnvironment_freesMaster hreach
    hmode htext hrun₁ (by simp) hcron hrun₂ (by simp [XsyncOp.Renews, StreamOp.IsReset])
  have hr : Holding s₃.toServerSets [66] {([66], 1)} ∅ := by
    rw [hs]
    exact hold
  have hplain := sendsRequest_replicaSets huuids hlost hget
  have hsends : SendsRequest s₃.toServer (fun _ => 0) := by
    rw [hs]
    exact ⟨rfl, (by decide : 0 ∉ GTID_XSYNC_UUID_INTERESTED_FULLRESYNC), hplain.maxgap,
      hplain.plain, hplain.slave_short, hplain.lost_short⟩
  obtain ⟨argv, request, hwrite, hparse, hinterested, -⟩ :=
    xsyncRequest_readBack hr hsends (fun _ => 0)
  have hx : request.uuidInterested = GTID_XSYNC_UUID_INTERESTED_FULLRESYNC := by
    rw [hinterested, hs]
  obtain ⟨m, hm⟩ : ∃ m, masterServer sets .xsync 100 0 = m := ⟨_, rfl⟩
  have hrun : ctripMasterTryPartialResynchronization m argv (fun _ => 0) =
      some (m, .byRedis, .fullresync 0 .xfullresyncRequested) := by
    have hrand : Rand.sub (fun _ => 0) 0 = fun _ => 0 := rfl
    simp only [ctripMasterTryPartialResynchronization, hrand, hparse, masterAnaSyncRequest,
      masterAnaXsyncRequest, hx, if_true, Option.bind_eq_bind, Option.bind_some]
    rfl
  exact ⟨s₂, s₃, argv, _, m, hmaster, hlinked, hwrite, hrun,
    (hanswer _ _ hwrite _ _ _ _ _ hrun).2.2⟩

end Answer

end XredisGtid
