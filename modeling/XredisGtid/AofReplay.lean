import XredisGtid.FullResync

/-!
# Restarting from the append only file

What a server feeds it also appends to its files: a GTID command as `feedAppendOnlyFileGtid`
rewrites it, another one as Redis does.  A server that starts again executes the file from its
start on.

A record of a GTID command is again one with the same gtid, so the file gives back the gtids that
were executed while it was written: all of them, and of a file that is cut behind a record those
that are left in it.
-/
namespace XredisGtid
open Buffer Memory

/-- What Redis appends for a command without a gtid. -/
abbrev RedisFeed := AofServer → Int → Int → List Bytes → AofBuffer

def ctripFeedAppendOnlyFile (redisFeed : RedisFeed) (server : AofServer) (mstime : Int)
    (cmd : PropagatedCommand) (dictid : Int) (argv : List Bytes) : Option AofServer :=
  if cmd = .gtidCommand then feedAppendOnlyFileGtid server mstime dictid argv
  else some (server.feed dictid (redisFeed server mstime dictid argv))

/-- What is appended of a step that may have fed a command. -/
def appendFed (redisFeed : RedisFeed) (server : AofServer) (mstime dictid : Int) :
    Option PropagateArgs → Option AofServer
  | none => some server
  | some args => ctripFeedAppendOnlyFile redisFeed server mstime args.cmd dictid args.argv

/-- The command that is looked up for a record. -/
def recordCommand (redis : Redis) (argv : List Bytes) : Option RedisCommand :=
  argv.head?.bind redis.lookupCommand

/-- `cmd->proc(fakeClient)` for each record of a file.  A server does not start with a file that has
an unknown command. -/
def callRecords (redis : Redis) : ServerSets → AofBuffer → Rand → Option (ServerSets × List Reply)
  | server, [], _ => some (server, [])
  | server, argv :: buf, rand => do
    let cmd ← recordCommand redis argv
    let (server, reply) ← cmd.call redis server argv (rand.sub 0)
    let (server, replies) ← callRecords redis server buf (rand.sub 1)
    some (server, reply :: replies)

/-- A client's GTID command was found under its name. -/
def PropagateOp.Named (redis : Redis) : PropagateOp → Prop
  | .call r _ _ => ∃ cmd, redis.lookupCommand r.command = some cmd ∧ cmd.proc = .gtidCommand
  | _ => True

/-- What a server and its files are after any commands. -/
inductive LoggedRun [RedisReplication] (redis : Redis) (redisFeed : RedisFeed) (p : PropagateServer)
    (aof : AofServer) : PropagateServer → AofServer → Prop
  | refl : LoggedRun redis redisFeed p aof p aof
  | step {p' p'' : PropagateServer} {aof' aof'' : AofServer} {fed : Option PropagateArgs}
      (op : PropagateOp) (rand : Rand) (mstime dictid : Int) :
      LoggedRun redis redisFeed p aof p' aof' → op.Valid redis p' → HasRoom p' →
      op.Plain redis p' → op.Named redis → op.step redis p' rand = some (p'', fed) →
      appendFed redisFeed aof' mstime dictid fed = some aof'' →
      LoggedRun redis redisFeed p aof p'' aof''

/-- What Redis has under the names that the rewriting writes. -/
structure WritesKnown (redis : Redis) : Prop where
  gtid : ∃ cmd, redis.lookupCommand shared.gtid = some cmd ∧ cmd.proc = .gtidCommand
  select : ∃ cmd, redis.lookupCommand shared.select = some cmd ∧ cmd.LeavesSets redis
  pexpireat : ∃ name, redis.lookupCommand shared.pexpireat = some ⟨name, 3, .other⟩
  set : ∀ name, lookupKeyCommand name = some .setCommand →
    ∃ n, redis.lookupCommand name = some ⟨n, -3, .other⟩

/-- For a command that leaves the gtid sets alone Redis appends such commands. -/
def FeedsPlain (redis : Redis) (redisFeed : RedisFeed) : Prop :=
  ∀ server mstime dictid argv, PlainCommand redis argv →
    ∀ record ∈ redisFeed server mstime dictid argv,
      ∃ cmd, recordCommand redis record = some cmd ∧ cmd.LeavesSets redis

/-! ## Records -/

/-- A record as a command in flight. -/
def recordArgs (redis : Redis) (argv : List Bytes) : PropagateArgs :=
  ⟨if (recordCommand redis argv).any (fun cmd => cmd.proc = .gtidCommand) then .gtidCommand
    else .other, argv, none, 0, 0⟩

/-- The gtids of the GTID commands in a file. -/
def recordGtids (redis : Redis) (buf : AofBuffer) : List (Uuid × Int) :=
  buf.filterMap (fun argv => carriedGtid redis (recordArgs redis argv))

/-- A record that loading executes: a GTID command, or one that leaves the sets alone. -/
structure Loadable (redis : Redis) (argv : List Bytes) : Prop where
  known : ∃ cmd, recordCommand redis argv = some cmd ∧
    (cmd.proc = .gtidCommand ∨ cmd.LeavesSets redis)
  executable : Executable redis (recordArgs redis argv)

section Records
variable {redis : Redis} {argv : List Bytes} {cmd : RedisCommand} {r : GtidRequest}
  {buf out : AofBuffer} {t : Int} {x : Uuid × Int}

theorem recordArgs_gtid (h : recordCommand redis argv = some cmd)
    (hproc : cmd.proc = .gtidCommand) :
    recordArgs redis argv = ⟨.gtidCommand, argv, none, 0, 0⟩ := by
  rw [recordArgs, h, Option.any_some, hproc]
  rfl

theorem recordArgs_other (h : recordCommand redis argv = some cmd)
    (hproc : cmd.proc ≠ .gtidCommand) :
    recordArgs redis argv = ⟨.other, argv, none, 0, 0⟩ := by
  rw [recordArgs, h, Option.any_some, decide_eq_false hproc]
  rfl

/-- A command without a gtid is loaded, and carries none. -/
theorem Loadable.of_other (h : recordCommand redis argv = some cmd)
    (hleaves : cmd.LeavesSets redis) :
    Loadable redis argv ∧ carriedGtid redis (recordArgs redis argv) = none := by
  have hargs := recordArgs_other h hleaves.ne_gtid
  have hne : (recordArgs redis argv).cmd ≠ .gtidCommand := by
    rw [hargs]
    exact PropagatedCommand.noConfusion
  exact ⟨⟨⟨cmd, h, Or.inr hleaves⟩, fun hcmd => absurd hcmd hne⟩, carriedGtid_other hne⟩

/-- What the record of a GTID command has of it. -/
structure RecordKeeps (r r' : GtidRequest) : Prop where
  gtid : r'.gtid = r.gtid
  id : r'.id = r.id
  command : r'.command = r.command ∨ r'.command = shared.gtid
  inner : r'.inner = r.inner ∨ r'.name = shared.pexpireat ∧ r'.inner.length = 3 ∨
    lookupKeyCommand r'.name = some .setCommand ∧ r'.inner.length = 5

theorem RecordKeeps.refl (r : GtidRequest) : RecordKeeps r r := ⟨rfl, rfl, Or.inl rfl, Or.inl rfl⟩

/-- **The record of a GTID command** is a GTID command, whatever it is rewritten to. -/
theorem catAppendOnlyGtid_record (h : catAppendOnlyGtid buf t r.argv = some out) :
    ∃ r', out = buf ++ [r'.argv] ∧ RecordKeeps r r' := by
  obtain ⟨command, gtid, id, name, args⟩ := r
  simp only [catAppendOnlyGtid, GtidRequest.argv, GtidRequest.inner, GTID_COMMAN_ARGC,
    List.getElem?_cons_succ, List.getElem?_cons_zero, Option.bind_eq_bind, Option.bind_some] at h
  have hself : some (buf ++ [command :: gtid :: id :: name :: args]) = some out →
      ∃ r', out = buf ++ [r'.argv] ∧ RecordKeeps ⟨command, gtid, id, name, args⟩ r' :=
    fun h => ⟨⟨command, gtid, id, name, args⟩, (Option.some.inj h).symm, .refl _⟩
  have hexpire : ∀ cmd, (args[0]?.bind fun key => args[1]?.bind fun seconds =>
      some (catAppendOnlyGtidExpireAtCommand buf gtid id none cmd key seconds t)) = some out →
      ∃ r', out = buf ++ [r'.argv] ∧ RecordKeeps ⟨command, gtid, id, name, args⟩ r' := by
    intro cmd h
    obtain ⟨key, -, h⟩ := Option.bind_eq_some_iff.mp h
    obtain ⟨seconds, -, h⟩ := Option.bind_eq_some_iff.mp h
    exact ⟨⟨shared.gtid, gtid, id, shared.pexpireat, [key, _]⟩, (Option.some.inj h).symm, rfl, rfl,
      Or.inr rfl, Or.inr (Or.inl ⟨rfl, rfl⟩)⟩
  split at h
  · next hname => exact hexpire _ (by simpa only [hname, Option.bind_some] using h)
  · next hname => exact hexpire _ (by simpa only [hname, Option.bind_some] using h)
  · next hname => exact hexpire _ (by simpa only [hname, Option.bind_some] using h)
  · next hname =>
    by_cases hlen : (command :: gtid :: id :: name :: args).length > 3 + 3
    · -- SET with options: a PX in front is rewritten, and what is behind it is dropped
      obtain ⟨px, -, h⟩ := Option.bind_eq_some_iff.mp ((if_pos hlen).symm.trans h)
      split at h
      · obtain ⟨millisecond, -, h⟩ := Option.bind_eq_some_iff.mp h
        obtain ⟨key, val, rest, rfl⟩ : ∃ key val rest, args = key :: val :: rest := by
          rcases args with _ | ⟨key, _ | ⟨val, rest⟩⟩
          · exact absurd hlen (by decide : ¬ 4 > 3 + 3)
          · exact absurd hlen (by decide : ¬ 5 > 3 + 3)
          · exact ⟨key, val, rest, rfl⟩
        exact ⟨⟨command, gtid, id, name, [key, val, shared.pxat, _]⟩, (Option.some.inj h).symm, rfl,
          rfl, Or.inl rfl, Or.inr (Or.inr ⟨hname, rfl⟩)⟩
      · exact hself h
    · exact hself ((if_neg hlen).symm.trans h)
  · exact hself h

theorem lookupCommand_of_inner {name : Bytes} (h : innerCommand redis name argv = .ok cmd) :
    redis.lookupCommand name = some cmd := by
  rw [innerCommand] at h
  split at h
  · cases h
  · next hlookup =>
    split at h
    · cases h
    · rw [hlookup, Except.ok.inj h]

/-- What is found under a name of the right arity is the command inside. -/
theorem innerCommand_found {name : Bytes} (h : redis.lookupCommand name = some cmd)
    (harity : cmd.rejects argv.length = false) : innerCommand redis name argv = .ok cmd := by
  rw [innerCommand, h]
  exact if_neg (by rw [harity]; exact Bool.false_ne_true)

/-- **A record runs what it has been written for**, with the same gtid. -/
theorem RecordKeeps.wellFormed {r' : GtidRequest} (hknown : WritesKnown redis)
    (h : RecordKeeps r r') (hwf : r.wellFormed redis = some x)
    (hleaves : ∀ cmd, innerCommand redis r.name r.inner = .ok cmd → cmd.LeavesSets redis) :
    r'.wellFormed redis = some x ∧
      ∀ cmd, innerCommand redis r'.name r'.inner = .ok cmd → cmd.LeavesSets redis := by
  obtain ⟨hargs, cmd, hinner⟩ := wellFormed_some hwf
  have hrecord : ∃ cmd', innerCommand redis r'.name r'.inner = .ok cmd' ∧
      cmd'.LeavesSets redis := by
    rcases h.inner with heq | ⟨hname, hlen⟩ | ⟨hname, hlen⟩
    · have hname : r'.name = r.name := (List.cons.inj heq).1
      rw [hname, heq]
      exact ⟨cmd, hinner, hleaves cmd hinner⟩
    · obtain ⟨n, hlookup⟩ := hknown.pexpireat
      exact ⟨_, innerCommand_found (hname ▸ hlookup) (by rw [hlen]; rfl), leavesSets_other rfl⟩
    · obtain ⟨n, hlookup⟩ := hknown.set _ hname
      exact ⟨_, innerCommand_found hlookup (by rw [hlen]; rfl), leavesSets_other rfl⟩
  obtain ⟨cmd', hcmd', hleaves'⟩ := hrecord
  refine ⟨?_, fun c hc => ?_⟩
  · rw [GtidRequest.wellFormed, h.gtid, h.id, hargs, hcmd']
  · rw [← Except.ok.inj (hcmd'.symm.trans hc)]
    exact hleaves'

end Records

/-! ## What is appended -/

/-- What is fed starts with the name of its command. -/
structure FedNamed (redis : Redis) (args : PropagateArgs) : Prop where
  gtid : args.cmd = .gtidCommand →
    ∃ cmd, recordCommand redis args.argv = some cmd ∧ cmd.proc = .gtidCommand
  plain : args.cmd ≠ .gtidCommand → PlainCommand redis args.argv

section Append
variable {redis : Redis} {redisFeed : RedisFeed} {p p' : PropagateServer} {aof aof' : AofServer}
  {args : PropagateArgs} {op : PropagateOp} {t dictid : Int} {buf buf' : AofBuffer} {rand : Rand}

theorem recordGtids_append (buf buf' : AofBuffer) :
    recordGtids redis (buf ++ buf') = recordGtids redis buf ++ recordGtids redis buf' :=
  List.filterMap_append

theorem recordGtids_others (h : ∀ record ∈ buf, ∃ cmd, recordCommand redis record = some cmd ∧
    cmd.LeavesSets redis) :
    (∀ record ∈ buf, Loadable redis record) ∧ recordGtids redis buf = [] := by
  constructor
  · intro record hrecord
    obtain ⟨cmd, hcmd, hleaves⟩ := h record hrecord
    exact (Loadable.of_other hcmd hleaves).1
  · rw [recordGtids, List.filterMap_eq_nil_iff]
    intro record hrecord
    obtain ⟨cmd, hcmd, hleaves⟩ := h record hrecord
    exact (Loadable.of_other hcmd hleaves).2

theorem select_others (hknown : WritesKnown redis) (aof : AofServer) (dictid : Int) :
    ∀ record ∈ aof.select dictid, ∃ cmd, recordCommand redis record = some cmd ∧
      cmd.LeavesSets redis := by
  intro record hrecord
  rw [AofServer.select] at hrecord
  split at hrecord
  · obtain rfl := List.mem_singleton.mp hrecord
    exact hknown.select
  · exact absurd hrecord List.not_mem_nil

/-- **What is appended of a command** is loaded, and carries the gtid of the command. -/
theorem ctripFeedAppendOnlyFile_spec (hknown : WritesKnown redis)
    (hfeed : FeedsPlain redis redisFeed) (hargs : Executable redis args)
    (hnamed : FedNamed redis args)
    (h : ctripFeedAppendOnlyFile redisFeed aof t args.cmd dictid args.argv = some aof') :
    ∃ buf, aof' = aof.feed dictid buf ∧ (∀ record ∈ buf, Loadable redis record) ∧
      recordGtids redis buf = (carriedGtid redis args).toList := by
  rw [ctripFeedAppendOnlyFile] at h
  split at h
  · next hcmd =>
    obtain ⟨r, x, hargv, hwf, hshort, hgno, hleaves⟩ := hargs hcmd
    obtain ⟨out, hout, heq⟩ := Option.bind_eq_some_iff.mp h
    obtain rfl := Option.some.inj heq
    rw [hargv] at hout
    obtain ⟨r', rfl, hkeeps⟩ := catAppendOnlyGtid_record hout
    obtain ⟨hwf', hleaves'⟩ := hkeeps.wellFormed hknown hwf hleaves
    obtain ⟨cmd, hlookup, hproc⟩ : ∃ cmd, recordCommand redis r'.argv = some cmd ∧
        cmd.proc = .gtidCommand := by
      rcases hkeeps.command with hsame | hgtid
      · have hnames := hnamed.gtid hcmd
        rw [hargv] at hnames
        show ∃ cmd, redis.lookupCommand r'.command = some cmd ∧ cmd.proc = .gtidCommand
        rw [hsame]
        exact hnames
      · show ∃ cmd, redis.lookupCommand r'.command = some cmd ∧ cmd.proc = .gtidCommand
        rw [hgtid]
        exact hknown.gtid
    have hrecord := recordArgs_gtid hlookup hproc
    have hexec : Executable redis (recordArgs redis r'.argv) := by
      rw [hrecord]
      exact fun _ => ⟨r', x, rfl, hwf', hkeeps.gtid ▸ hshort, hgno, hleaves'⟩
    have hcarried : carriedGtid redis (recordArgs redis r'.argv) = some x := by
      rw [hrecord]
      exact (carriedGtid_request rfl rfl).trans hwf'
    obtain ⟨hselect, hnone⟩ := recordGtids_others (select_others hknown aof dictid)
    refine ⟨_, rfl, fun record hmem => ?_, ?_⟩
    · rcases List.mem_append.mp hmem with hmem | hmem
      · exact hselect record hmem
      · obtain rfl := List.mem_singleton.mp hmem
        exact ⟨⟨cmd, hlookup, Or.inl hproc⟩, hexec⟩
    · rw [recordGtids_append, hnone, carriedGtid_request hcmd hargv, hwf, recordGtids,
        List.filterMap_cons, hcarried]
      rfl
  · next hcmd =>
    obtain ⟨hload, hnone⟩ := recordGtids_others
      (hfeed aof t dictid args.argv (hnamed.plain hcmd))
    refine ⟨_, (Option.some.inj h).symm, hload, ?_⟩
    rw [hnone, carriedGtid_other hcmd]
    rfl

/-- **A step feeds** a command under the name that it was called by, or under that of GTID. -/
theorem LinkInvariant.step_named [RedisReplication] {link : ReplLink} (hknown : WritesKnown redis)
    (h : LinkInvariant redis link) (hv : (LinkOp.run op).Valid redis link)
    (hnames : op.Named redis) (hrun : op.step redis link.master rand = some (p', some args)) :
    FedNamed redis args := by
  obtain ⟨hvalid, hroom, hplain⟩ := hv
  cases op with
  | call r dbid n =>
    obtain ⟨hr, hn, hmulti⟩ := hvalid
    obtain ⟨p₁, fed, hstep, -, hcase⟩ := h.master.call hr hn hmulti hroom.1 dbid rand
    obtain ⟨-, rfl⟩ := Prod.mk.inj (Option.some.inj (hrun.symm.trans hstep))
    rcases hcase with ⟨x, args', -, -, hargs', hcmd, hargv, -⟩ | ⟨-, hnone, -⟩
    · obtain rfl := Option.some.inj hargs'
      refine ⟨fun _ => ?_, fun hne => absurd hcmd hne⟩
      rw [hargv]
      exact hnames
    · cases hnone
  | write cmd dbid argv n =>
    obtain ⟨p₁, args', hstep, -, hcase⟩ :=
      h.master.write redis hvalid.1 hvalid.2 hroom dbid argv rand
    obtain ⟨-, hfed⟩ := Prod.mk.inj (Option.some.inj (hrun.symm.trans hstep))
    obtain rfl := Option.some.inj hfed
    rcases hcase with ⟨hcmd, hargv, -⟩ | ⟨hcmd, hargv, -⟩
    · refine ⟨fun hgtid => absurd (hcmd.symm.trans hgtid) hvalid.1, fun _ => ?_⟩
      rw [hargv]
      exact hplain.2.2.1
    · refine ⟨fun _ => ?_, fun hne => absurd hcmd hne⟩
      rw [hargv]
      exact hknown.gtid
  | beginMulti dbid => exact nomatch (Prod.mk.inj (Option.some.inj hrun)).2
  | stream op => exact hplain.elim

end Append

/-! ## A run -/

/-- Both files have grown by the same records, if they are written. -/
structure FilesGrown (aof aof' : AofServer) (records : AofBuffer) : Prop where
  on : aof'.aofOn = aof.aofOn
  child : aof'.childAof = aof.childAof
  buf : aof'.aofBuf = if aof.aofOn then aof.aofBuf ++ records else aof.aofBuf
  rewriteBuf : aof'.aofRewriteBuf =
    if aof.childAof then aof.aofRewriteBuf ++ records else aof.aofRewriteBuf

section Run
variable {redis : Redis} {redisFeed : RedisFeed} {p p' : PropagateServer}
  {aof aof' aof'' : AofServer} {records buf : AofBuffer} {argv : List Bytes} {q : ServerSets}
  {k : Uuid} {E L : Finset (Uuid × Int)}

theorem FilesGrown.refl (aof : AofServer) : FilesGrown aof aof [] := by
  refine ⟨rfl, rfl, ?_, ?_⟩
  · rw [List.append_nil, ite_self]
  · rw [List.append_nil, ite_self]

theorem FilesGrown.feed (h : FilesGrown aof aof' records) (dictid : Int) (buf : AofBuffer) :
    FilesGrown aof (aof'.feed dictid buf) (records ++ buf) := by
  refine ⟨h.on, h.child, ?_, ?_⟩
  · show (if aof'.aofOn then aof'.aofBuf ++ buf else aof'.aofBuf) = _
    rw [h.on, h.buf]
    split
    · exact List.append_assoc _ _ _
    · rfl
  · show (if aof'.childAof then aof'.aofRewriteBuf ++ buf else aof'.aofRewriteBuf) = _
    rw [h.child, h.rewriteBuf]
    split
    · exact List.append_assoc _ _ _
    · rfl

/-- The records of a run carry the gtids that it has fed. -/
theorem LoggedRun.recorded [RedisReplication] (hredis : ReadsDbid redis)
    (hknown : WritesKnown redis)
    (hfeed : FeedsPlain redis redisFeed) (hstart : LinkReachable redis ⟨p, [], p.toServerSets⟩)
    (hrun : LoggedRun redis redisFeed p aof p' aof') :
    ∃ records feds, FilesGrown aof aof' records ∧ (∀ record ∈ records, Loadable redis record) ∧
      LinkRun redis ⟨p, [], p.toServerSets⟩ ⟨p', feds, p.toServerSets⟩ ∧
      recordGtids redis records = feds.filterMap (carriedGtid redis) := by
  induction hrun with
  | refl => exact ⟨[], [], .refl aof, fun _ h => absurd h List.not_mem_nil, .refl, rfl⟩
  | @step p₁ p₂ aof₁ aof₂ fed op rand t dictid _ hv hroom hplain hnames hstep happend ih =>
    obtain ⟨records, feds, happended, hload, hlink, hgtids⟩ := ih
    have hvalid : (LinkOp.run op).Valid redis ⟨p₁, feds, p.toServerSets⟩ := ⟨hv, hroom, hplain⟩
    have hlink' : LinkRun redis ⟨p, [], p.toServerSets⟩
        ⟨p₂, feds ++ fed.toList, p.toServerSets⟩ := by
      refine .step (.run op) rand hlink hvalid ?_
      simp only [LinkOp.step, hstep, Option.bind_eq_bind, Option.bind_some]
    cases fed with
    | none =>
      obtain rfl := Option.some.inj happend
      exact ⟨records, _, happended, hload, hlink', by rw [hgtids, Option.toList_none,
        List.append_nil]⟩
    | some args =>
      have hinv := (hstart.run hlink).invariant hredis
      have hexec := ((hstart.run hlink').invariant hredis).executable args
        (List.mem_append_right _ (List.mem_singleton_self _))
      obtain ⟨buf, rfl, hload', hcarried⟩ := ctripFeedAppendOnlyFile_spec hknown hfeed hexec
        (LinkInvariant.step_named hknown hinv hvalid hnames hstep) happend
      refine ⟨records ++ buf, _, happended.feed dictid buf, fun record hmem => ?_, hlink', ?_⟩
      · rcases List.mem_append.mp hmem with hmem | hmem
        · exact hload record hmem
        · exact hload' record hmem
      · rw [recordGtids_append, hgtids, hcarried, List.filterMap_append, Option.toList_some,
          List.filterMap_cons]
        cases carriedGtid redis args <;> rfl

/-! ## Loading -/

/-- A record that carries a gtid has run. -/
def HasRun (redis : Redis) (argv : List Bytes) (reply : Reply) : Prop :=
  ∀ x, carriedGtid redis (recordArgs redis argv) = some x → reply.isRan = true

/-- **A record is loaded** by a server that does not know its gtid. -/
theorem Loadable.call (h : Loadable redis argv) (hold : Holding q k E L)
    (hnew : ∀ x, carriedGtid redis (recordArgs redis argv) = some x → x ∉ E ∪ L) (rand : Rand) :
    ∃ cmd q' reply, recordCommand redis argv = some cmd ∧
      cmd.call redis q argv rand = some (q', reply) ∧ HasRun redis argv reply ∧
      Holding q' k (E ∪ (carriedGtid redis (recordArgs redis argv)).toList.toFinset) L := by
  obtain ⟨cmd, hlookup, hproc | hleaves⟩ := h.known
  · obtain ⟨q', hexec, hold'⟩ := replicaExecute_spec hold h.executable hnew rand
    have hcall : cmd.call redis q argv rand = gtidCommandProc redis q argv rand := by
      rw [RedisCommand.call, hproc]
    rw [replicaExecute, recordArgs_gtid hlookup hproc] at hexec
    obtain ⟨⟨q₁, reply⟩, hrun, heq⟩ := Option.bind_eq_some_iff.mp hexec
    obtain ⟨rfl, hran⟩ := Prod.mk.inj (Option.some.inj heq)
    exact ⟨cmd, q₁, reply, hlookup, hcall.trans hrun, fun _ _ => hran, hold'⟩
  · obtain ⟨-, hnone⟩ := Loadable.of_other hlookup hleaves
    obtain ⟨reply, hcall⟩ := hleaves q argv rand
    refine ⟨cmd, q, reply, hlookup, hcall, fun x hx => ?_, by rw [hnone]; simpa using hold⟩
    rw [hnone] at hx
    cases hx

/-- **A file is loaded**, record by record. -/
theorem callRecords_spec (records : AofBuffer) (hold : Holding q k E L)
    (hload : ∀ record ∈ records, Loadable redis record) (hnodup : (recordGtids redis records).Nodup)
    (hnew : ∀ x ∈ recordGtids redis records, x ∉ E ∪ L) (rand : Rand) :
    ∃ q' replies, callRecords redis q records rand = some (q', replies) ∧
      List.Forall₂ (HasRun redis) records replies ∧
      Holding q' k (E ∪ (recordGtids redis records).toFinset) L := by
  induction records generalizing q E rand with
  | nil => exact ⟨q, [], rfl, .nil, by simpa [recordGtids] using hold⟩
  | cons argv records ih =>
    have hsplit : recordGtids redis (argv :: records) =
        (carriedGtid redis (recordArgs redis argv)).toList ++ recordGtids redis records := by
      rw [recordGtids, List.filterMap_cons]
      cases carriedGtid redis (recordArgs redis argv) <;> rfl
    rw [hsplit] at hnodup hnew
    obtain ⟨hfirst, hrest, hnew'⟩ := new_append hnodup hnew
    obtain ⟨cmd, q₁, reply, hlookup, hcall, hran, hold₁⟩ := (hload argv List.mem_cons_self).call
      hold (fun x hx => hfirst x (Option.mem_toList.mpr hx)) (rand.sub 0)
    obtain ⟨q', replies, hruns, hall, hold'⟩ := ih hold₁
      (fun a ha => hload a (List.mem_cons_of_mem _ ha)) hrest hnew' (rand.sub 1)
    refine ⟨q', reply :: replies, ?_, .cons hran hall, ?_⟩
    · simp only [callRecords, hlookup, hcall, hruns, Option.bind_eq_bind, Option.bind_some]
    · rw [hsplit, List.toFinset_append, ← Finset.union_assoc]
      exact hold'

/-- A Redis that knows the commands of the file by their names. -/
def Redis.filed : Redis :=
  ⟨fun name => some (if name = shared.gtid then ⟨[], -5, .gtidCommand⟩
    else if name = shared.pexpireat then ⟨[], 3, .other⟩ else ⟨[], -3, .other⟩), number, number, 16,
    execNothing⟩

theorem Redis.filed_readsDbid : ReadsDbid Redis.filed := fun _ hlow hhigh =>
  number_longText (le_trans (by decide) hlow) (le_trans hhigh.le (by decide))

theorem Redis.filed_writesKnown : WritesKnown Redis.filed := by
  refine ⟨⟨_, rfl, rfl⟩, ⟨_, rfl, leavesSets_other rfl⟩, ⟨_, rfl⟩, fun name hname => ⟨[], ?_⟩⟩
  have hgtid : name ≠ shared.gtid := by
    rintro rfl
    exact absurd hname (by decide)
  have hpexpireat : name ≠ shared.pexpireat := by
    rintro rfl
    exact absurd hname (by decide)
  show some _ = _
  rw [if_neg hgtid, if_neg hpexpireat]

/-- The file of a server that has run EXPIRE of a key at time 5. -/
def expireFile : AofBuffer :=
  [[shared.select, longText 0], [shared.gtid, [65] ++ colon :: longText 1, longText 0,
    shared.pexpireat, [107], longText 10005]]

/-- A master that has executed nothing runs EXPIRE: the file has PEXPIREAT. -/
theorem exists_loggedRun :
    ∃ (p p' : PropagateServer) (aof aof' : AofServer), PropagateReachable Redis.filed p ∧
      ¬ p.inMulti ∧ Holding p.toServerSets [65] ∅ ∅ ∧
      LoggedRun Redis.filed (fun _ _ _ argv => [argv]) p aof p' aof' ∧
      aof.aofOn = true ∧ aof.aofBuf = [] ∧ aof'.aofBuf = expireFile ∧
      contents p'.gtidExecuted = {([65], 1)} := by
  obtain ⟨p, hreach, hroom, hout, hold, hnext, hrewrites⟩ := exists_propagateServer Redis.filed
  let argv : List Bytes := [KeyCommand.name .expireCommand, [107], [49, 48]]
  let aof : AofServer := ⟨-1, true, false, [], []⟩
  let args : PropagateArgs := ⟨.gtidCommand, [shared.gtid, [65] ++ colon :: longText 1,
    longText 0] ++ argv, some [65], 1, p.nextOffset⟩
  have hv : (PropagateOp.write .other 0 argv 10).Valid Redis.filed p := ⟨by decide, by decide⟩
  have hplain : (PropagateOp.write .other 0 argv 10).Plain Redis.filed p := by
    refine ⟨le_refl 0, (by decide : (0 : Int) < 16),
      ⟨_, ⟨[], -3, .other⟩, rfl, rfl, leavesSets_other rfl⟩, ?_⟩
    rw [hold.executed_eq, hold.lost_eq]
    simp
  -- the command is rewritten before it is fed, and again for the file
  obtain ⟨p', hprop, -, -, hold'⟩ := propagate_rewritten hreach.invariant
    (endsMulti_write (by decide : PropagatedCommand.other ≠ .gtidCommand) argv)
    (fun h => nomatch h) (afterMulti_false ▸ hrewrites) hroom.1 hroom.2 0 (by decide : 1 ≤ 10)
    (fun _ => 0)
  rw [hnext, if_neg hout, hold.uuid] at hprop
  rw [hnext, hold.uuid, hold.executed_eq, hold.lost_eq] at hold'
  have hstep : (PropagateOp.write .other 0 argv 10).step Redis.filed p (fun _ => 0) =
      some (p', some args) := by
    rw [PropagateOp.step, hprop, Option.bind_eq_bind, Option.bind_some]
  have hcat : catAppendOnlyGtid (aof.select 0) 5 args.argv = some expireFile :=
    catAppendOnlyGtid_expire (by decide) (Or.inl rfl) (by decide)
  have happend : appendFed (fun _ _ _ argv => [argv]) aof 5 0 (some args) =
      some (aof.feed 0 expireFile) := by
    show feedAppendOnlyFileGtid aof 5 0 args.argv = _
    rw [feedAppendOnlyFileGtid, hcat, Option.bind_eq_bind, Option.bind_some]
  exact ⟨p, p', aof, aof.feed 0 expireFile, hreach, hout, hold,
    .step _ _ 5 0 .refl hv hroom hplain trivial hstep happend, rfl, rfl, rfl, hold'.executed_eq⟩

end Run

end XredisGtid
