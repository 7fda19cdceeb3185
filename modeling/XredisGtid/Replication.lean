import XredisGtid.PropagateRun

/-!
# A master and a replica that follows it

The master runs commands and feeds them; the replica executes what it has been sent, some time
later and in order.  Between the two are the commands in flight.

In every interleaving each gtid that the master has beyond those of the replica is carried by
exactly one command in flight, and that command will run.  So once nothing is in flight the two
have the same gtids.
-/
namespace XredisGtid
open Buffer Memory

/-- A master, what it has fed and the replica has not executed, oldest first, and the replica. -/
structure ReplLink where
  master : PropagateServer
  inFlight : List PropagateArgs
  replica : ServerSets

/-- The gtid of the command to run, if it is a GTID command. -/
def carriedGtid (redis : Redis) (args : PropagateArgs) : Option (Uuid × Int) :=
  match args.cmd, args.argv with
  | .gtidCommand, command :: gtid :: id :: name :: rest =>
    (⟨command, gtid, id, name, rest⟩ : GtidRequest).wellFormed redis
  | _, _ => none

def ReplLink.carried (redis : Redis) (link : ReplLink) : List (Uuid × Int) :=
  link.inFlight.filterMap (carriedGtid redis)

/-- What a replica does with a command it is sent; also whether it has run. -/
def replicaExecute (redis : Redis) (replica : ServerSets) (args : PropagateArgs) (rand : Rand) :
    Option (ServerSets × Bool) :=
  match args.cmd with
  | .gtidCommand => do
    let (replica, reply) ← gtidCommandProc redis replica args.argv rand
    some (replica, reply.isRan)
  | _ => some (replica, true)

def replicaExecuteAll (redis : Redis) :
    ServerSets → List PropagateArgs → Rand → Option (ServerSets × List Bool)
  | replica, [], _ => some (replica, [])
  | replica, args :: inFlight, rand => do
    let (replica, ran) ← replicaExecute redis replica args (rand.sub 0)
    let (replica, rans) ← replicaExecuteAll redis replica inFlight (rand.sub 1)
    some (replica, ran :: rans)

inductive LinkOp where
  | run (op : PropagateOp)
  | deliver

def LinkOp.step [RedisReplication] (redis : Redis) (link : ReplLink) (rand : Rand) :
    LinkOp → Option ReplLink
  | .run op => do
    let (master, fed) ← op.step redis link.master rand
    some { link with master := master, inFlight := link.inFlight ++ fed.toList }
  | .deliver =>
    match link.inFlight with
    | [] => none
    | args :: inFlight => do
      let (replica, _) ← replicaExecute redis link.replica args rand
      some { link with inFlight := inFlight, replica := replica }

/-- What Redis reads back a database number as. -/
def ReadsDbid (redis : Redis) : Prop :=
  ∀ dbid, 0 ≤ dbid → dbid < redis.dbnum → redis.getIntFromObject (longText dbid) = some dbid

/-- A command that Redis knows and that leaves the gtid sets alone. -/
def PlainCommand (redis : Redis) (argv : List Bytes) : Prop :=
  ∃ name cmd, argv.head? = some name ∧
    innerCommand redis name argv = .ok cmd ∧ cmd.LeavesSets redis

/-- A uuid without colon, and short enough for a gtid that an `int` can address. -/
def PlainUuid (uuid : Uuid) : Prop := colon ∉ uuid ∧ uuid.length + 22 < 2 ^ 31

/-- Keys are changed by plain commands in a database of the server, and the gno for a write is a
new one. -/
def PropagateOp.Plain (redis : Redis) (p : PropagateServer) : PropagateOp → Prop
  | .call r _ _ => ∀ cmd, innerCommand redis r.name r.inner = .ok cmd → cmd.LeavesSets redis
  | .write _ dbid argv _ => 0 ≤ dbid ∧ dbid < redis.dbnum ∧ PlainCommand redis argv ∧
    (p.uuid, nextGno p.gtidExecuted p.uuid) ∉ contents p.gtidExecuted ∪ contents p.gtidLost
  | .beginMulti dbid => dbid < redis.dbnum
  | .stream _ => False

def LinkOp.Valid (redis : Redis) (link : ReplLink) : LinkOp → Prop
  | .run op => op.Valid redis link.master ∧ HasRoom link.master ∧ op.Plain redis link.master
  | .deliver => True

/-- The links after any interleaving that starts with the same gtids on both sides. -/
inductive LinkReachable [RedisReplication] (redis : Redis) : ReplLink → Prop
  | start {master : PropagateServer} {replica : ServerSets} : PropagateReachable redis master →
      ¬ master.inMulti → PlainUuid master.uuid → SetsInvariant replica →
      contents master.gtidExecuted ∪ contents master.gtidLost =
        contents replica.gtidExecuted ∪ contents replica.gtidLost →
      LinkReachable redis ⟨master, [], replica⟩
  | step {link link' : ReplLink} (op : LinkOp) (rand : Rand) : LinkReachable redis link →
      op.Valid redis link → op.step redis link rand = some link' → LinkReachable redis link'

/-! ## What is in flight -/

/-- A GTID command in flight is well formed, and what it carries leaves the gtid sets alone. -/
def Executable (redis : Redis) (args : PropagateArgs) : Prop :=
  args.cmd = .gtidCommand → ∃ (r : GtidRequest) (x : Uuid × Int), args.argv = r.argv ∧
    r.wellFormed redis = some x ∧ r.gtid.length < 2 ^ 31 ∧ (1 ≤ x.2 ∧ x.2 < LLONG_MAX) ∧
    ∀ cmd, innerCommand redis r.name r.inner = .ok cmd → cmd.LeavesSets redis

section InFlight
variable {redis : Redis} {args : PropagateArgs} {r : GtidRequest} {x : Uuid × Int} {uuid k : Uuid}
  {gno dbid : Int} {q : ServerSets} {E L : Finset (Uuid × Int)}

theorem carriedGtid_request (hcmd : args.cmd = .gtidCommand) (hargv : args.argv = r.argv) :
    carriedGtid redis args = r.wellFormed redis := by
  rw [carriedGtid, hcmd, hargv]
  rfl

theorem carriedGtid_other (hcmd : args.cmd ≠ .gtidCommand) : carriedGtid redis args = none := by
  rw [carriedGtid]
  split
  · next hgtid _ => exact absurd hgtid hcmd
  · rfl

/-- A well formed request is one whose arguments are read and whose command is known. -/
theorem wellFormed_some (h : r.wellFormed redis = some x) :
    gtidArguments redis r.gtid r.id = some (.ok x) ∧
      ∃ cmd, innerCommand redis r.name r.inner = .ok cmd := by
  rw [GtidRequest.wellFormed] at h
  split at h
  · next hargs hinner =>
    cases h
    exact ⟨hargs, _, hinner⟩
  · cases h

/-- **What the master writes is read back**: the gtid it has handed out, and its command. -/
theorem rewritten_wellFormed (hredis : ReadsDbid redis) (huuid : PlainUuid uuid)
    (hgno : 1 ≤ gno ∧ gno < LLONG_MAX) (hdbid : 0 ≤ dbid ∧ dbid < redis.dbnum) {name : Bytes}
    {rest : List Bytes} {cmd : RedisCommand}
    (hcmd : innerCommand redis name (name :: rest) = .ok cmd) (command : Bytes) :
    (⟨command, uuid ++ colon :: longText gno, longText dbid, name, rest⟩ :
        GtidRequest).wellFormed redis = some (uuid, gno) ∧
      (uuid ++ colon :: longText gno).length < 2 ^ 31 := by
  have hmin : LLONG_MIN ≤ 1 := by decide
  have hlow : LLONG_MIN ≤ gno := le_trans hmin hgno.1
  have hshort : (uuid ++ colon :: longText gno).length < 2 ^ 31 := by
    have hlen := length_longText_le_twenty hlow hgno.2.le
    have := huuid.2
    rw [List.length_append, List.length_cons]
    omega
  have hgtid := gtidOf_repr huuid.1 hlow hgno.2.le
  have hread := uuidGnoDecode_text (textAt_self ((uuid ++ colon :: longText gno) ++ [0]))
    (by decide) hshort
  rw [hgtid, Option.map_some] at hread
  have hdb : ¬ (dbid < 0 ∨ redis.dbnum ≤ dbid) := by omega
  have hargs : gtidArguments redis (uuid ++ colon :: longText gno) (longText dbid) =
      some (.ok (uuid, gno)) := by
    simp only [gtidArguments, hread, hredis dbid hdbid.1 hdbid.2, if_neg hdb, List.take_left,
      Option.bind_eq_bind, Option.bind_some]
  refine ⟨?_, hshort⟩
  rw [GtidRequest.wellFormed, hargs, GtidRequest.inner, hcmd]

/-- **A command in flight runs** at a replica that does not know its gtid. -/
theorem replicaExecute_spec (h : Holding q k E L) (hargs : Executable redis args)
    (hnew : ∀ x, carriedGtid redis args = some x → x ∉ E ∪ L) (rand : Rand) :
    ∃ q', replicaExecute redis q args rand = some (q', true) ∧
      Holding q' k (E ∪ (carriedGtid redis args).toList.toFinset) L := by
  by_cases hcmd : args.cmd = .gtidCommand
  · obtain ⟨r, x, hargv, hwf, hshort, hgno, hleaves⟩ := hargs hcmd
    rw [carriedGtid_request hcmd hargv] at hnew ⊢
    obtain ⟨decoded, hdecoded, hgtid, -⟩ := gtidArguments_isSome redis r.id hshort
    have hx := hgtid x (Option.some.inj (hdecoded.symm.trans (wellFormed_some hwf).1))
    have hr : Deliverable redis r k E L := by
      refine ⟨hshort, fun y hy => ?_, fun cmd hinner => (hleaves cmd hinner).keepsSets _⟩
      obtain rfl := Option.some.inj (hx.symm.trans hy)
      exact hgno
    obtain ⟨q', reply, hrun, hiff, hold⟩ := gtidCommandProc_spec h hr rand
    have hran := hiff.mpr ⟨x, hwf, hnew x hwf⟩
    rw [GtidRequest.ran, hran, if_pos rfl] at hold
    refine ⟨q', ?_, hold⟩
    simp only [replicaExecute, hcmd, hargv, hrun, hran, Option.bind_eq_bind, Option.bind_some]
  · rw [carriedGtid_other hcmd]
    refine ⟨q, ?_, by simpa using h⟩
    rw [replicaExecute]
    split
    · next hgtid => exact absurd hgtid hcmd
    · rfl

/-- Of gtids that are new, those in front and those behind them. -/
theorem new_append {l l' : List (Uuid × Int)} (hnodup : (l ++ l').Nodup)
    (hnew : ∀ x ∈ l ++ l', x ∉ E ∪ L) :
    (∀ x ∈ l, x ∉ E ∪ L) ∧ l'.Nodup ∧ ∀ x ∈ l', x ∉ E ∪ l.toFinset ∪ L := by
  obtain ⟨-, hrest, hdisj⟩ := List.nodup_append.mp hnodup
  refine ⟨fun x hx => hnew x (List.mem_append_left _ hx), hrest, fun x hx hmem => ?_⟩
  rw [Finset.union_right_comm, Finset.mem_union, List.mem_toFinset] at hmem
  rcases hmem with hmem | hmem
  · exact hnew x (List.mem_append_right _ hx) hmem
  · exact hdisj x hmem x hx rfl

/-- **All that is in flight runs**, one after another. -/
theorem replicaExecuteAll_spec (inFlight : List PropagateArgs) (h : Holding q k E L)
    (hargs : ∀ args ∈ inFlight, Executable redis args)
    (hnodup : (inFlight.filterMap (carriedGtid redis)).Nodup)
    (hnew : ∀ x ∈ inFlight.filterMap (carriedGtid redis), x ∉ E ∪ L) (rand : Rand) :
    ∃ q', replicaExecuteAll redis q inFlight rand = some (q', inFlight.map (fun _ => true)) ∧
      Holding q' k (E ∪ (inFlight.filterMap (carriedGtid redis)).toFinset) L := by
  induction inFlight generalizing q E rand with
  | nil => exact ⟨q, rfl, by simpa using h⟩
  | cons args inFlight ih =>
    have hsplit : (args :: inFlight).filterMap (carriedGtid redis) =
        (carriedGtid redis args).toList ++ inFlight.filterMap (carriedGtid redis) := by
      rw [List.filterMap_cons]
      cases carriedGtid redis args <;> rfl
    rw [hsplit] at hnodup hnew
    obtain ⟨hfirst, hrest, hnew'⟩ := new_append hnodup hnew
    obtain ⟨q₁, hrun, hold⟩ := replicaExecute_spec h (hargs args List.mem_cons_self)
      (fun x hx => hfirst x (Option.mem_toList.mpr hx)) (rand.sub 0)
    obtain ⟨q', hruns, hold'⟩ := ih hold (fun a ha => hargs a (List.mem_cons_of_mem _ ha)) hrest
      hnew' (rand.sub 1)
    refine ⟨q', ?_, ?_⟩
    · simp only [replicaExecuteAll, hrun, hruns, List.map_cons, Option.bind_eq_bind,
        Option.bind_some]
    · rw [hsplit, List.toFinset_append, ← Finset.union_assoc]
      exact hold'

end InFlight

/-! ## The invariant of a link -/

structure LinkInvariant (redis : Redis) (link : ReplLink) : Prop where
  master : PropagateInvariant link.master
  uuid : PlainUuid link.master.uuid
  dbid : link.master.inMulti → link.master.gtidDbidAtMulti < redis.dbnum
  replica : SetsInvariant link.replica
  executable : ∀ args ∈ link.inFlight, Executable redis args
  nodup : (link.carried redis).Nodup
  new : ∀ x ∈ link.carried redis,
    x ∉ contents link.replica.gtidExecuted ∪ contents link.replica.gtidLost
  same : contents link.master.gtidExecuted ∪ contents link.master.gtidLost =
    contents link.replica.gtidExecuted ∪ contents link.replica.gtidLost ∪
      (link.carried redis).toFinset

section Link
variable {redis : Redis} {link link' : ReplLink} {p p' : PropagateServer} {args : PropagateArgs}
  {fed : Option PropagateArgs} {cmd : PropagatedCommand} {argv : List Bytes} {dbid : Int} {n : Nat}
  {rand : Rand}

/-- A propagation keeps the database of the transaction, unless that is over. -/
theorem propagate_dbid [RedisReplication] (h : propagate p cmd dbid argv n rand = some (p', args)) :
    p'.gtidDbidAtMulti = p.gtidDbidAtMulti ∨ p'.gtidDbidAtMulti = -1 := by
  simp only [propagate, propagateArgsPrepareToFeed, Option.bind_eq_bind, Option.bind_eq_some_iff,
    Prod.exists, Option.some.injEq, Prod.mk.injEq] at h
  obtain ⟨p₁, args₁, ⟨p₂, hleave, uuid, gno, -, hprepare⟩, fed, -, rfl, -⟩ := h
  have hleft : p₂.gtidDbidAtMulti = p.gtidDbidAtMulti ∨ p₂.gtidDbidAtMulti = -1 := by
    rw [leaveMulti] at hleave
    split at hleave
    · obtain ⟨ends, -, hleave⟩ := Option.bind_eq_some_iff.mp hleave
      split at hleave
      · obtain rfl := Option.some.inj hleave
        exact Or.inr rfl
      · obtain rfl := Option.some.inj hleave
        exact Or.inl rfl
    · obtain rfl := Option.some.inj hleave
      exact Or.inl rfl
  split at hprepare
  · obtain ⟨rfl, -⟩ := Prod.mk.inj (Option.some.inj hprepare)
    exact hleft
  · simp only [Option.bind_eq_some_iff, Prod.exists, Option.some.injEq, Prod.mk.injEq] at hprepare
    obtain ⟨sets, gno', -, gtid, -, rfl, -⟩ := hprepare
    exact hleft

/-- So does a command of a client. -/
theorem PropagateOp.step_dbid [RedisReplication] {op : PropagateOp} (hop : op.IsCommand)
    (hplain : op.Plain redis p) (hdbid : p.inMulti → p.gtidDbidAtMulti < redis.dbnum)
    (hrun : op.step redis p rand = some (p', fed)) :
    p'.inMulti → p'.gtidDbidAtMulti < redis.dbnum := by
  intro hmulti
  have hof : ∀ q : PropagateServer, q.gtidDbidAtMulti = p.gtidDbidAtMulti →
      p'.gtidDbidAtMulti = q.gtidDbidAtMulti ∨ p'.gtidDbidAtMulti = -1 →
      p'.gtidDbidAtMulti < redis.dbnum := by
    intro q hq hkept
    have hnonneg : 0 ≤ p'.gtidDbidAtMulti := hmulti
    have hsame : p'.gtidDbidAtMulti = p.gtidDbidAtMulti := by omega
    have := hdbid (show 0 ≤ p.gtidDbidAtMulti by omega)
    omega
  cases op with
  | call r dbid n =>
    obtain ⟨⟨sets, reply⟩, -, hrun⟩ := Option.bind_eq_some_iff.mp hrun
    dsimp only at hrun
    split at hrun
    · obtain ⟨⟨p₁, args⟩, hprop, heq⟩ := Option.bind_eq_some_iff.mp hrun
      obtain ⟨rfl, -⟩ := Prod.mk.inj (Option.some.inj heq)
      exact hof { p with toServerSets := sets } rfl (propagate_dbid hprop)
    · obtain ⟨rfl, -⟩ := Prod.mk.inj (Option.some.inj hrun)
      exact hdbid hmulti
  | write cmd dbid argv n =>
    obtain ⟨⟨p₁, args⟩, hprop, heq⟩ := Option.bind_eq_some_iff.mp hrun
    obtain ⟨rfl, -⟩ := Prod.mk.inj (Option.some.inj heq)
    exact hof p rfl (propagate_dbid hprop)
  | beginMulti dbid =>
    obtain ⟨rfl, -⟩ := Prod.mk.inj (Option.some.inj hrun)
    exact hplain
  | stream op => exact hop.elim

/-- What a step of the master adds: at most one command, with a gtid that is new to it. -/
structure MasterStep (redis : Redis) (p p' : PropagateServer) (fed : Option PropagateArgs) :
    Prop where
  invariant : PropagateInvariant p'
  uuid : p'.uuid = p.uuid
  executable : ∀ args, fed = some args → Executable redis args
  new : ∀ x, fed.bind (carriedGtid redis) = some x →
    x ∉ contents p.gtidExecuted ∪ contents p.gtidLost
  executed : contents p'.gtidExecuted =
    contents p.gtidExecuted ∪ (fed.bind (carriedGtid redis)).toList.toFinset
  lost : contents p'.gtidLost = contents p.gtidLost

/-- Nothing is added. -/
theorem MasterStep.of_plain (hinv : PropagateInvariant p')
    (hold : Holding p'.toServerSets p.uuid (contents p.gtidExecuted) (contents p.gtidLost))
    (hfed : ∀ args, fed = some args → args.cmd ≠ .gtidCommand) : MasterStep redis p p' fed := by
  have hnone : fed.bind (carriedGtid redis) = none := by
    cases fed with
    | none => rfl
    | some args => exact carriedGtid_other (hfed args rfl)
  refine ⟨hinv, hold.uuid, fun args hargs hcmd => absurd hcmd (hfed args hargs), ?_, ?_,
    hold.lost_eq⟩
  · rw [hnone]
    exact fun x hx => nomatch hx
  · rw [hnone, hold.executed_eq]
    exact (Finset.union_empty _).symm

/-- One gtid is added. -/
theorem MasterStep.of_request {r : GtidRequest} {x : Uuid × Int} (hinv : PropagateInvariant p')
    (hold : Holding p'.toServerSets p.uuid (contents p.gtidExecuted ∪ {x}) (contents p.gtidLost))
    (hcmd : args.cmd = .gtidCommand) (hargv : args.argv = r.argv)
    (hwf : r.wellFormed redis = some x) (hshort : r.gtid.length < 2 ^ 31)
    (hnew : x ∉ contents p.gtidExecuted ∪ contents p.gtidLost)
    (hleaves : ∀ cmd, innerCommand redis r.name r.inner = .ok cmd → cmd.LeavesSets redis) :
    MasterStep redis p p' (some args) := by
  have hcarried : (some args).bind (carriedGtid redis) = some x :=
    (carriedGtid_request hcmd hargv).trans hwf
  have hmem : (x.1, x.2) ∈ contents p'.gtidExecuted := by
    rw [hold.executed_eq]
    exact Finset.mem_union_right _ (Finset.mem_singleton_self _)
  refine ⟨hinv, hold.uuid, ?_, ?_, ?_, hold.lost_eq⟩
  · intro a ha _
    obtain rfl := Option.some.inj ha
    exact ⟨r, x, hargv, hwf, hshort, ⟨hold.executed.one_le hmem, hold.executed.lt_max hmem⟩,
      hleaves⟩
  · intro y hy
    obtain rfl := Option.some.inj (hcarried.symm.trans hy)
    exact hnew
  · rw [hcarried, hold.executed_eq]
    rfl

/-- **A step of the master.** -/
theorem LinkInvariant.masterStep [RedisReplication] {op : PropagateOp} (hredis : ReadsDbid redis)
    (h : LinkInvariant redis link) (hv : op.Valid redis link.master) (hroom : HasRoom link.master)
    (hplain : op.Plain redis link.master)
    (hrun : op.step redis link.master rand = some (p', fed)) :
    MasterStep redis link.master p' fed := by
  cases op with
  | call r dbid n =>
    obtain ⟨hr, hn, hmulti⟩ := hv
    obtain ⟨p₁, fed₁, hstep, hinv, hcase⟩ := h.master.call hr hn hmulti hroom.1 dbid rand
    obtain ⟨rfl, rfl⟩ := Prod.mk.inj (Option.some.inj (hrun.symm.trans hstep))
    rcases hcase with ⟨x, args, hwf, hnew, rfl, hcmd, hargv, hold⟩ | ⟨-, rfl, hold⟩
    · exact .of_request hinv hold hcmd hargv hwf hr.short hnew hplain
    · exact .of_plain hinv hold (fun _ hargs => nomatch hargs)
  | write cmd dbid argv n =>
    obtain ⟨p₁, args, hstep, hinv, hcase⟩ := h.master.write redis hv.1 hv.2 hroom dbid argv rand
    obtain ⟨rfl, rfl⟩ := Prod.mk.inj (Option.some.inj (hrun.symm.trans hstep))
    rcases hcase with ⟨hcmd, -, hsets⟩ | ⟨hcmd, hargv, hold⟩
    · refine .of_plain hinv (by rw [hsets]; exact Holding.self h.master.sets) (fun a ha => ?_)
      obtain rfl := Option.some.inj ha
      rw [hcmd]
      exact hv.1
    · obtain ⟨hlow, hhigh, ⟨name, c, hname, hinner, hleaves⟩, hnew⟩ := hplain
      obtain ⟨rest, rfl⟩ : ∃ rest, argv = name :: rest := by
        cases argv with
        | nil => exact nomatch hname
        | cons a l => exact ⟨l, by rw [Option.some.inj hname]⟩
      have hdbid : 0 ≤ (if link.master.inMulti then link.master.gtidDbidAtMulti else dbid) ∧
          (if link.master.inMulti then link.master.gtidDbidAtMulti else dbid) < redis.dbnum := by
        split
        · next hmulti => exact ⟨hmulti, h.dbid hmulti⟩
        · exact ⟨hlow, hhigh⟩
      have hmem : (link.master.uuid, nextGno link.master.gtidExecuted link.master.uuid) ∈
          contents p'.gtidExecuted := by
        rw [hold.executed_eq]
        exact Finset.mem_union_right _ (Finset.mem_singleton_self _)
      obtain ⟨hwf, hshort⟩ := rewritten_wellFormed hredis h.uuid
        ⟨hold.executed.one_le hmem, hold.executed.lt_max hmem⟩ hdbid hinner shared.gtid
      have hargv : args.argv = GtidRequest.argv ⟨shared.gtid, _, _, name, rest⟩ := hargv
      refine .of_request hinv hold hcmd hargv hwf hshort hnew (fun cmd hcmd => ?_)
      obtain rfl := Except.ok.inj (hinner.symm.trans hcmd)
      exact hleaves
  | beginMulti dbid =>
    have hinv := PropagateOp.step_invariant h.master hv hroom hrun
    obtain ⟨rfl, rfl⟩ := Prod.mk.inj (Option.some.inj hrun)
    exact .of_plain hinv (Holding.self h.master.sets) (fun _ hargs => nomatch hargs)
  | stream op => exact hplain.elim

/-- What a step of the master does to the link. -/
theorem LinkInvariant.run_step [RedisReplication] {op : PropagateOp} (hredis : ReadsDbid redis)
    (h : LinkInvariant redis link) (hv : (LinkOp.run op).Valid redis link)
    (hrun : (LinkOp.run op).step redis link rand = some link') :
    ∃ p' fed, op.step redis link.master rand = some (p', fed) ∧
      MasterStep redis link.master p' fed ∧
      link' = { link with master := p', inFlight := link.inFlight ++ fed.toList } ∧
      link'.carried redis = link.carried redis ++ (fed.bind (carriedGtid redis)).toList := by
  obtain ⟨hvalid, hroom, hplain⟩ := hv
  obtain ⟨⟨p', fed⟩, hstep, heq⟩ := Option.bind_eq_some_iff.mp hrun
  obtain rfl := Option.some.inj heq
  refine ⟨p', fed, hstep, h.masterStep hredis hvalid hroom hplain hstep, rfl, ?_⟩
  rw [ReplLink.carried, List.filterMap_append]
  cases fed with
  | none => rfl
  | some args =>
    rw [Option.toList_some, List.filterMap_cons, Option.bind_some]
    cases carriedGtid redis args <;> rfl

/-- What the execution of the next command does. -/
theorem LinkInvariant.deliver_step [RedisReplication] (h : LinkInvariant redis link)
    (hrun : LinkOp.deliver.step redis link rand = some link') :
    ∃ args inFlight q', link.inFlight = args :: inFlight ∧
      link' = { link with inFlight := inFlight, replica := q' } ∧
      link.carried redis = (carriedGtid redis args).toList ++ link'.carried redis ∧
      Holding q' link.replica.uuid
        (contents link.replica.gtidExecuted ∪ (carriedGtid redis args).toList.toFinset)
        (contents link.replica.gtidLost) := by
  cases hfly : link.inFlight with
  | nil =>
    rw [LinkOp.step, hfly] at hrun
    cases hrun
  | cons args inFlight =>
    rw [LinkOp.step, hfly] at hrun
    obtain ⟨⟨q, ran⟩, hexec, heq⟩ := Option.bind_eq_some_iff.mp hrun
    obtain rfl := Option.some.inj heq
    have hcarried : link.carried redis =
        (carriedGtid redis args).toList ++ inFlight.filterMap (carriedGtid redis) := by
      rw [ReplLink.carried, hfly, List.filterMap_cons]
      cases carriedGtid redis args <;> rfl
    have hnew := h.new
    rw [hcarried] at hnew
    obtain ⟨q', hexec', hold⟩ := replicaExecute_spec (Holding.self h.replica)
      (h.executable args (hfly ▸ List.mem_cons_self))
      (fun x hx => hnew x (List.mem_append_left _ (by simp [hx]))) rand
    obtain ⟨rfl, -⟩ := Prod.mk.inj (Option.some.inj (hexec.symm.trans hexec'))
    exact ⟨args, inFlight, q, rfl, rfl, hcarried, hold⟩

/-- **One step.** -/
theorem LinkOp.step_invariant [RedisReplication] {op : LinkOp} (hredis : ReadsDbid redis)
    (h : LinkInvariant redis link) (hv : op.Valid redis link)
    (hrun : op.step redis link rand = some link') : LinkInvariant redis link' := by
  cases op with
  | run op =>
    obtain ⟨p', fed, hstep, hmaster, rfl, hcarried⟩ := h.run_step hredis hv hrun
    have hcommand : op.IsCommand := by
      cases op with
      | stream op => exact hv.2.2
      | _ => trivial
    -- what is fed is neither executed by the replica nor in flight
    have hfresh : ∀ x ∈ (fed.bind (carriedGtid redis)).toList,
        x ∉ contents link.replica.gtidExecuted ∪ contents link.replica.gtidLost ∧
          x ∉ link.carried redis := by
      intro x hx
      have hnew := hmaster.new x (Option.mem_toList.mp hx)
      rw [h.same, Finset.mem_union, not_or, List.mem_toFinset] at hnew
      exact hnew
    constructor
    · exact hmaster.invariant
    · exact hmaster.uuid ▸ h.uuid
    · exact PropagateOp.step_dbid hcommand hv.2.2 h.dbid hstep
    · exact h.replica
    · intro args hargs
      rcases List.mem_append.mp hargs with hargs | hargs
      · exact h.executable args hargs
      · exact hmaster.executable args (Option.mem_toList.mp hargs)
    · rw [hcarried]
      have hone : (fed.bind (carriedGtid redis)).toList.Nodup := by
        cases fed.bind (carriedGtid redis) <;> simp
      refine List.nodup_append.mpr ⟨h.nodup, hone, ?_⟩
      rintro x hx y hy rfl
      exact (hfresh x hy).2 hx
    · rw [hcarried]
      intro x hx
      rcases List.mem_append.mp hx with hx | hx
      · exact h.new x hx
      · exact (hfresh x hx).1
    · rw [hcarried, List.toFinset_append, ← Finset.union_assoc, ← h.same, hmaster.executed,
        hmaster.lost, Finset.union_right_comm]
  | deliver =>
    obtain ⟨args, inFlight, q, hfly, rfl, hcarried, hold⟩ := h.deliver_step hrun
    have hnodup := h.nodup
    have hnew := h.new
    have hsame := h.same
    rw [hcarried] at hnodup hnew hsame
    obtain ⟨-, hrest, hnew'⟩ := new_append hnodup hnew
    constructor
    · exact h.master
    · exact h.uuid
    · exact h.dbid
    · exact hold.toSetsInvariant
    · exact fun a ha => h.executable a (hfly ▸ List.mem_cons_of_mem _ ha)
    · exact hrest
    · rw [hold.executed_eq, hold.lost_eq]
      exact hnew'
    · rw [List.toFinset_append, ← Finset.union_assoc] at hsame
      rw [hold.executed_eq, hold.lost_eq, Finset.union_right_comm
        (contents link.replica.gtidExecuted) _ (contents link.replica.gtidLost)]
      exact hsame

/-- The replica has lost what the master has lost, and executed what the master has, up to the
commands in flight. -/
structure Complete (redis : Redis) (link : ReplLink) : Prop where
  executed : contents link.master.gtidExecuted =
    contents link.replica.gtidExecuted ∪ (link.carried redis).toFinset
  lost : contents link.master.gtidLost = contents link.replica.gtidLost

/-- **A replica that is complete stays so.** -/
theorem LinkOp.step_complete [RedisReplication] {op : LinkOp} (hredis : ReadsDbid redis)
    (h : LinkInvariant redis link) (hc : Complete redis link) (hv : op.Valid redis link)
    (hrun : op.step redis link rand = some link') : Complete redis link' := by
  cases op with
  | run op =>
    obtain ⟨p', fed, -, hmaster, rfl, hcarried⟩ := h.run_step hredis hv hrun
    refine ⟨?_, hmaster.lost.trans hc.lost⟩
    rw [hcarried, List.toFinset_append, ← Finset.union_assoc, ← hc.executed]
    exact hmaster.executed
  | deliver =>
    obtain ⟨args, inFlight, q, -, rfl, hcarried, hold⟩ := h.deliver_step hrun
    refine ⟨?_, hc.lost.trans hold.lost_eq.symm⟩
    have hexecuted := hc.executed
    rw [hcarried, List.toFinset_append, ← Finset.union_assoc] at hexecuted
    rw [hold.executed_eq]
    exact hexecuted

/-- **Every interleaving.** -/
theorem LinkReachable.invariant [RedisReplication] (hredis : ReadsDbid redis)
    (h : LinkReachable redis link) : LinkInvariant redis link := by
  induction h with
  | start hmaster hout huuid hreplica hsame =>
    refine ⟨hmaster.invariant, huuid, fun hmulti => absurd hmulti hout, hreplica, ?_, ?_, ?_, ?_⟩
    · exact fun _ hargs => nomatch hargs
    · exact List.nodup_nil
    · exact fun _ hx => nomatch hx
    · exact hsame.trans (Finset.union_empty _).symm
  | step op rand _ hv hrun ih => exact op.step_invariant hredis ih hv hrun

/-- A replica that executes what is in flight. -/
theorem LinkInvariant.executeAll (h : LinkInvariant redis link) (rand : Rand) :
    ∃ replica, replicaExecuteAll redis link.replica link.inFlight rand =
        some (replica, link.inFlight.map (fun _ => true)) ∧
      contents replica.gtidExecuted =
        contents link.replica.gtidExecuted ∪ (link.carried redis).toFinset ∧
      contents replica.gtidExecuted ∪ contents replica.gtidLost =
        contents link.master.gtidExecuted ∪ contents link.master.gtidLost := by
  obtain ⟨replica, hrun, hold⟩ := replicaExecuteAll_spec link.inFlight (Holding.self h.replica)
    h.executable h.nodup h.new rand
  refine ⟨replica, hrun, hold.executed_eq, ?_⟩
  rw [hold.executed_eq, hold.lost_eq, h.same, Finset.union_right_comm]
  rfl

/-- A Redis that knows all commands, and reads numbers. -/
def Redis.numeric : Redis :=
  ⟨fun _ => some ⟨[], -1, .other⟩, number, number, 16, execNothing⟩

theorem Redis.numeric_readsDbid : ReadsDbid Redis.numeric := fun _ hlow hhigh =>
  number_longText (le_trans (by decide) hlow) (le_trans hhigh.le (by decide))

end Link

end XredisGtid
