import XredisGtid.CommandSpec

/-!
# GTID commands inside of GTID commands

The command inside of a GTID command may change the sets: it may be a GTID command
itself, GTIDX ADD and GTIDX REMOVE, or EXEC, which runs what the client has queued.
`CommandProc.change` says what a call changes, in terms of its arguments and the gtids
executed and lost before it: the searches of all nested commands come first, then the
innermost command runs, and then the gtids are recorded from the inside out.

EXEC belongs to Redis.  `ExecChanges` is what is said of it: that it changes the sets by
gtids which depend on those executed and lost before.  For an EXEC that runs its commands
one after the other `execChanges_runQueue` computes them.

The gtid of a GTID command is checked before the command inside of it runs, and recorded
afterwards.  So recording it finds it executed when the command inside has executed it,
and takes `0` and negative gnos for executed, which no search finds.
-/
namespace XredisGtid
open Buffer

/-! ## What a call changes -/

/-- Gtids that come to be executed, and that are not any more; and the same of the lost ones. -/
structure Change where
  added : Finset (Uuid × Int)
  removed : Finset (Uuid × Int)
  lostAdded : Finset (Uuid × Int)
  lostRemoved : Finset (Uuid × Int)

namespace Change

def none : Change := ⟨∅, ∅, ∅, ∅⟩

def add (type : GtidSetType) (A : Finset (Uuid × Int)) : Change :=
  match type with
  | .executed => ⟨A, ∅, ∅, ∅⟩
  | .lost => ⟨∅, ∅, A, ∅⟩

def remove (type : GtidSetType) (A : Finset (Uuid × Int)) : Change :=
  match type with
  | .executed => ⟨∅, A, ∅, ∅⟩
  | .lost => ⟨∅, ∅, ∅, A⟩

/-- The executed gtids afterwards. -/
def apply (c : Change) (E : Finset (Uuid × Int)) : Finset (Uuid × Int) := (E \ c.removed) ∪ c.added

/-- The lost gtids afterwards. -/
def applyLost (c : Change) (L : Finset (Uuid × Int)) : Finset (Uuid × Int) :=
  (L \ c.lostRemoved) ∪ c.lostAdded

def andThen (c d : Change) : Change :=
  ⟨(c.added \ d.removed) ∪ d.added, c.removed ∪ d.removed,
    (c.lostAdded \ d.lostRemoved) ∪ d.lostAdded, c.lostRemoved ∪ d.lostRemoved⟩

end Change

/-- The gtids of a range that is valid. -/
noncomputable def validRange (k : Uuid) (start «end» : Int) : Finset (Uuid × Int) :=
  if gtidIntervalIsValid start «end» then range k start «end» else ∅

noncomputable def gtidxChange (redis : Redis) (sub type uuid start «end» : Bytes) : Change :=
  match gtidxRange redis type start «end» with
  | .ok (type, start, «end») =>
    if equalsIgnoreCase sub (['a', 'd', 'd'].map Char.toUInt8) then
      .add type (validRange uuid start «end»)
    else if equalsIgnoreCase sub (['r', 'e', 'm', 'o', 'v', 'e'].map Char.toUInt8) then
      .remove type (validRange uuid start «end»)
    else .none
  | .error _ => .none

/-- What EXEC changes, given the executed and the lost gtids. -/
abbrev ExecChange := Finset (Uuid × Int) → Finset (Uuid × Int) → Change

/-- An EXEC that returns changes the sets so, and keeps their invariant. -/
def ExecChanges (redis : Redis) (execChange : ExecChange) : Prop :=
  ∀ s uuid E L rand s' reply, Holding s uuid E L → redis.execCommand s rand = some (s', reply) →
    Holding s' uuid ((execChange E L).apply E) ((execChange E L).applyLost L)

/-- The gtid of a GTID command and the command it runs, with the gtids `S` executed or lost. -/
def innerRun (redis : Redis) (S : Finset (Uuid × Int)) (gtid id : Bytes) (argv : List Bytes) :
    Option ((Uuid × Int) × CommandProc) := do
  let gtid ← (← gtidArguments redis gtid id).toOption
  guard (gtid ∉ S)
  let cmd ← (innerCommand redis (← argv.head?) argv).toOption
  some (gtid, cmd.proc)

/-- What a call that returns changes, with the gtids `E` executed and `L` lost. -/
noncomputable def CommandProc.change (redis : Redis) (execChange : ExecChange)
    (E L : Finset (Uuid × Int)) : CommandProc → List Bytes → Change
  | .gtidCommand, _ :: gtid :: id :: argv =>
    match innerRun redis (E ∪ L) gtid id argv with
    | some (gtid, proc) =>
      let inner := proc.change redis execChange E L argv
      { inner with added := inner.added ∪ {gtid} }
    | none => .none
  | .gtidxCommand, [_, sub, type, uuid, start, «end»] =>
    gtidxChange redis sub type uuid start «end»
  | .execCommand, _ => execChange E L
  | _, _ => .none

/-- No gno that the call or a command inside of it adds is `LLONG_MAX`. -/
def CommandProc.Below (redis : Redis) : CommandProc → List Bytes → Prop
  | .gtidCommand, _ :: gtid :: id :: argv =>
    (∀ x, gtidArguments redis gtid id = some (.ok x) → x.2 < LLONG_MAX) ∧
      ∀ name cmd, argv.head? = some name → innerCommand redis name argv = .ok cmd →
        cmd.proc.Below redis argv
  | .gtidxCommand, [_, sub, type, _, start, «end»] =>
    equalsIgnoreCase sub (['a', 'd', 'd'].map Char.toUInt8) →
      ∀ t first last, gtidxRange redis type start «end» = .ok (t, first, last) → last < LLONG_MAX
  | _, _ => True

section Calls
variable {redis : Redis} {s s' : ServerSets} {uuid k : Uuid} {start «end» g n : Int}
  {E L : Finset (Uuid × Int)} {rand : Rand} {reply : Reply}

@[simp] theorem Change.apply_none : Change.none.apply E = E := by
  rw [Change.apply, Change.none, Finset.sdiff_empty, Finset.union_empty]

@[simp] theorem Change.applyLost_none : Change.none.applyLost L = L := by
  rw [Change.applyLost, Change.none, Finset.sdiff_empty, Finset.union_empty]

theorem Change.add_apply (type : GtidSetType) (A : Finset (Uuid × Int)) :
    (Change.add type A).apply E = (if type = .executed then E ∪ A else E) ∧
      (Change.add type A).applyLost L = (if type = .executed then L else L ∪ A) := by
  cases type <;> simp [Change.add, Change.apply, Change.applyLost]

theorem Change.remove_apply (type : GtidSetType) (A : Finset (Uuid × Int)) :
    (Change.remove type A).apply E = (if type = .executed then E \ A else E) ∧
      (Change.remove type A).applyLost L = (if type = .executed then L else L \ A) := by
  cases type <;> simp [Change.remove, Change.apply, Change.applyLost]

theorem Change.apply_insert {c : Change} {A : Finset (Uuid × Int)} :
    Change.apply { c with added := c.added ∪ A } E = c.apply E ∪ A := by
  rw [Change.apply, Change.apply, Finset.union_assoc]

theorem Change.apply_andThen {c d : Change} : (c.andThen d).apply E = d.apply (c.apply E) := by
  simp only [Change.apply, Change.andThen]
  rw [Finset.union_sdiff_distrib, Finset.sdiff_sdiff_left', Finset.sdiff_union_distrib,
    Finset.union_assoc]

theorem Change.applyLost_andThen {c d : Change} :
    (c.andThen d).applyLost L = d.applyLost (c.applyLost L) := by
  simp only [Change.applyLost, Change.andThen]
  rw [Finset.union_sdiff_distrib, Finset.sdiff_sdiff_left', Finset.sdiff_union_distrib,
    Finset.union_assoc]

/-! ## GTIDX -/

theorem not_valid_iff : gtidIntervalIsValid start «end» = false ↔ ¬ (1 ≤ start ∧ start ≤ «end») := by
  rw [← Bool.not_eq_true, gtidIntervalIsValid_iff]

theorem addExecuted_range (h : Holding s uuid E L) (k : Uuid) (he : «end» < LLONG_MAX)
    (rand : Rand) :
    ∃ e n, gtidSetAdd s.gtidExecuted k start «end» rand = some (e, n) ∧
      Holding { s with gtidExecuted := e } uuid (E ∪ validRange k start «end») L := by
  rw [validRange]
  cases hvalid : gtidIntervalIsValid start «end» with
  | true =>
    obtain ⟨hs, hse⟩ := gtidIntervalIsValid_iff.mp hvalid
    obtain ⟨e, n, hadd, hold, -⟩ := gtidxAdd_executed_holding h k hs hse he rand
    exact ⟨e, n, hadd, hold⟩
  | false =>
    obtain ⟨⟨hE, hL, hsaved⟩, rfl, rfl, rfl⟩ := h
    obtain ⟨e, hadd, hE', hset, hcur⟩ := hE.add_invalid k (not_valid_iff.mp hvalid) rand
    refine ⟨e, 0, hadd, ⟨hE', hL, hcur ▸ hsaved⟩, rfl, ?_, rfl⟩
    rw [if_neg Bool.false_ne_true, Finset.union_empty]
    exact hset

theorem addLost_range (h : Holding s uuid E L) (k : Uuid) (he : «end» < LLONG_MAX)
    (rand : Rand) :
    ∃ l n, gtidSetAdd s.gtidLost k start «end» rand = some (l, n) ∧
      Holding { s with gtidLost := l } uuid E (L ∪ validRange k start «end») := by
  rw [validRange]
  cases hvalid : gtidIntervalIsValid start «end» with
  | true =>
    obtain ⟨hs, hse⟩ := gtidIntervalIsValid_iff.mp hvalid
    exact gtidxAdd_lost_holding h k hs hse he rand
  | false =>
    obtain ⟨l, hadd, hL, hset⟩ := add_invalid_regularSet h.lost k (not_valid_iff.mp hvalid) rand
    rw [if_neg Bool.false_ne_true, Finset.union_empty, ← h.lost_eq, ← hset]
    exact ⟨l, 0, hadd, h.setLost hL⟩

/-- GTIDX ADD that returns. -/
theorem gtidxAdd_returned (h : Holding s uuid E L) {type : GtidSetType} (he : «end» < LLONG_MAX)
    (hrun : gtidxAdd s type k start «end» rand = some (s', n)) :
    Holding s' uuid ((Change.add type (validRange k start «end»)).apply E)
      ((Change.add type (validRange k start «end»)).applyLost L) := by
  have hfst : (gtidxAdd s type k start «end» rand).map Prod.fst = some s' := by
    rw [hrun, Option.map_some]
  obtain ⟨hE, hL⟩ := Change.add_apply (E := E) (L := L) type (validRange k start «end»)
  rw [hE, hL]
  cases type with
  | executed =>
    obtain ⟨e, n, hadd, hold⟩ := addExecuted_range h k he (rand.sub 0)
    exact (updateNextGno_some hold (gtidxAdd_update .executed hadd hfst)).2.1
  | lost =>
    obtain ⟨l, n, hadd, hold⟩ := addLost_range h k he (rand.sub 0)
    exact (updateNextGno_some hold (gtidxAdd_update .lost hadd hfst)).2.1

/-- GTIDX REMOVE. -/
theorem gtidxRemove_returned (h : Holding s uuid E L) {type : GtidSetType}
    (hrun : gtidxRemove s type k start «end» rand = some (s', n)) :
    Holding s' uuid ((Change.remove type (validRange k start «end»)).apply E)
      ((Change.remove type (validRange k start «end»)).applyLost L) := by
  obtain ⟨heqE, heqL⟩ := Change.remove_apply (E := E) (L := L) type (validRange k start «end»)
  rw [heqE, heqL, validRange]
  cases hvalid : gtidIntervalIsValid start «end» with
  | true =>
    obtain ⟨hs, hse⟩ := gtidIntervalIsValid_iff.mp hvalid
    cases type with
    | executed =>
      obtain ⟨s₁, n, hremove, hold, -⟩ := gtidxRemove_executed_spec h k hs hse rand
      cases hremove.symm.trans hrun
      exact hold
    | lost =>
      obtain ⟨s₁, n, hremove, hold, -⟩ := gtidxRemove_lost_spec h k hs hse rand
      cases hremove.symm.trans hrun
      exact hold
  | false =>
    have hinvalid := not_valid_iff.mp hvalid
    rw [if_neg Bool.false_ne_true, Finset.sdiff_empty, Finset.sdiff_empty, ite_self, ite_self]
    obtain ⟨⟨hE, hL, hsaved⟩, rfl, rfl, rfl⟩ := h
    cases type with
    | executed =>
      obtain ⟨e, n, hremove, hE', hset, hcur⟩ :=
        remove_invalid_regularSet hE.toRegularSet k hinvalid rand
      obtain ⟨e', hupdate, hE'', hset', hcur'⟩ := gtidSetCurrentUuidSetUpdate_spec hE' s.uuid
      simp only [gtidxRemove, findGtidSet, hremove, hupdate, assignGtidSet, Option.bind_eq_bind,
        Option.bind_some, Option.some.injEq, Prod.mk.injEq] at hrun
      obtain ⟨rfl, -⟩ := hrun
      exact ⟨⟨hE'', hL, (hcur'.trans hcur) ▸ hsaved⟩, rfl, hset'.trans hset, rfl⟩
    | lost =>
      obtain ⟨l, n, hremove, hL', hset, -⟩ := remove_invalid_regularSet hL k hinvalid rand
      simp only [gtidxRemove, findGtidSet, hremove, assignGtidSet, Option.bind_eq_bind,
        Option.bind_some, Option.some.injEq, Prod.mk.injEq] at hrun
      obtain ⟨rfl, -⟩ := hrun
      exact ⟨⟨hE, hL', hsaved⟩, rfl, rfl, hset⟩

section GtidxChange
variable {sub type id first last : Bytes} {t : GtidSetType}

theorem gtidxChange_add (hsub : equalsIgnoreCase sub (['a', 'd', 'd'].map Char.toUInt8) = true)
    (hrange : gtidxRange redis type first last = .ok (t, start, «end»)) :
    gtidxChange redis sub type k first last = .add t (validRange k start «end») := by
  rw [gtidxChange, hrange]
  exact if_pos hsub

theorem gtidxChange_remove (hadd : ¬ equalsIgnoreCase sub (['a', 'd', 'd'].map Char.toUInt8) = true)
    (hsub : equalsIgnoreCase sub (['r', 'e', 'm', 'o', 'v', 'e'].map Char.toUInt8) = true)
    (hrange : gtidxRange redis type first last = .ok (t, start, «end»)) :
    gtidxChange redis sub type k first last = .remove t (validRange k start «end») := by
  rw [gtidxChange, hrange]
  exact (if_neg hadd).trans (if_pos hsub)

theorem gtidxChange_error (hrange : gtidxRange redis type first last = .error reply) :
    gtidxChange redis sub type k first last = .none := by
  rw [gtidxChange, hrange]

theorem gtidxChange_other (hadd : ¬ equalsIgnoreCase sub (['a', 'd', 'd'].map Char.toUInt8) = true)
    (hremove : ¬ equalsIgnoreCase sub (['r', 'e', 'm', 'o', 'v', 'e'].map Char.toUInt8) = true) :
    gtidxChange redis sub type k first last = .none := by
  rw [gtidxChange]
  split
  · rw [if_neg hadd, if_neg hremove]
  · rfl

end GtidxChange

variable {execChange : ExecChange}

theorem CommandProc.change_other (argv : List Bytes) :
    CommandProc.other.change redis execChange E L argv = .none := by
  rw [CommandProc.change] <;> intros <;> contradiction

theorem CommandProc.change_exec (argv : List Bytes) :
    CommandProc.execCommand.change redis execChange E L argv = execChange E L := by
  rw [CommandProc.change]

/-- GTIDX with other arguments than those of ADD and REMOVE. -/
theorem CommandProc.change_gtidx {argv : List Bytes}
    (hargv : ∀ c sub type k first last, argv = [c, sub, type, k, first, last] → False) :
    CommandProc.gtidxCommand.change redis execChange E L argv = .none := by
  rw [CommandProc.change]
  · exact CommandProc.noConfusion
  · exact fun _ _ _ _ hproc => CommandProc.noConfusion hproc
  · exact fun _ _ _ _ _ _ _ => hargv _ _ _ _ _ _

/-- **A GTIDX command** that returns. -/
theorem gtidxCommand_returned {argv : List Bytes} (h : Holding s uuid E L)
    (hb : CommandProc.gtidxCommand.Below redis argv)
    (hrun : gtidxCommand redis s argv rand = some (s', reply)) :
    Holding s' uuid ((CommandProc.gtidxCommand.change redis execChange E L argv).apply E)
      ((CommandProc.gtidxCommand.change redis execChange E L argv).applyLost L) := by
  have hsame : Holding s uuid (Change.none.apply E) (Change.none.applyLost L) := by
    rw [Change.apply_none, Change.applyLost_none]
    exact h
  rw [gtidxCommand.eq_def] at hrun
  split at hrun
  · next _ sub type k first last =>
    rw [CommandProc.Below] at hb
    rw [CommandProc.change]
    split at hrun
    · next hadd =>
      split at hrun
      · next hrange =>
        cases hrun
        rw [gtidxChange_error hrange]
        exact hsame
      · next t start «end» hrange =>
        obtain ⟨⟨s₁, n⟩, hcall, hrun⟩ := Option.bind_eq_some_iff.mp hrun
        cases hrun
        rw [gtidxChange_add hadd hrange]
        exact gtidxAdd_returned h (hb hadd t start «end» hrange) hcall
    · next hadd =>
      split at hrun
      · next hremove =>
        split at hrun
        · next hrange =>
          cases hrun
          rw [gtidxChange_error hrange]
          exact hsame
        · next t start «end» hrange =>
          obtain ⟨⟨s₁, n⟩, hcall, hrun⟩ := Option.bind_eq_some_iff.mp hrun
          cases hrun
          rw [gtidxChange_remove hadd hremove hrange]
          exact gtidxRemove_returned h hcall
      · next hremove =>
        cases hrun
        rw [gtidxChange_other hadd hremove]
        exact hsame
  · next hargv =>
    cases hrun
    rw [CommandProc.change_gtidx hargv]
    exact hsame

/-! ## GTID -/

/-- A GTID command with the gtid `x` whose checks pass, and the state `s₂` in which the command
inside of it leaves the sets. -/
structure RunsInside (redis : Redis) (s : ServerSets) (gtid id : Bytes) (argv : List Bytes)
    (rand : Rand) (x : Uuid × Int) (cmd : RedisCommand) (s₂ : ServerSets) : Prop where
  arguments : gtidArguments redis gtid id = some (.ok x)
  inner : ∃ name, argv.head? = some name ∧ innerCommand redis name argv = .ok cmd
  run : ∃ s₁ reply, serverGtidSetContains s x.1 x.2 = some (s₁, false) ∧
    cmd.call redis s₁ argv (rand.sub 0) = some (s₂, reply)

variable {gtid id c : Bytes} {argv : List Bytes} {x : Uuid × Int} {cmd : RedisCommand}
  {s₂ : ServerSets}

theorem RunsInside.notMem (hr : RunsInside redis s gtid id argv rand x cmd s₂)
    (h : Holding s uuid E L) : x ∉ E ∪ L := by
  obtain ⟨s₁, reply, hcontains, -⟩ := hr.run
  obtain ⟨s₃, hcontains', -⟩ := serverGtidSetContains_spec h x.1 x.2
  rw [hcontains] at hcontains'
  have hfalse := (Prod.mk.inj (Option.some.inj hcontains')).2
  exact of_decide_eq_false hfalse.symm

theorem RunsInside.innerRun (hr : RunsInside redis s gtid id argv rand x cmd s₂)
    (h : Holding s uuid E L) : innerRun redis (E ∪ L) gtid id argv = some (x, cmd.proc) := by
  obtain ⟨name, hname, hinner⟩ := hr.inner
  have hguard : guard (x ∉ E ∪ L) = some () := if_pos (hr.notMem h)
  simp only [XredisGtid.innerRun, hr.arguments, hname, hinner, hguard, Except.toOption,
    Option.bind_eq_bind, Option.bind_some]

/-- What the command inside has left, the gtid is recorded in. -/
theorem RunsInside.eq (hr : RunsInside redis s gtid id argv rand x cmd s₂) :
    ∃ reply, gtidCommandProc redis s (c :: gtid :: id :: argv) rand =
      (gtidSetAdd s₂.gtidExecuted x.1 x.2 x.2 (rand.sub 1)).bind (fun r =>
        if r.2 ≠ 0 then some ({ s₂ with gtidExecuted := r.1 }, .ran reply) else none) := by
  obtain ⟨name, hname, hinner⟩ := hr.inner
  obtain ⟨s₁, reply, hcontains, hcall⟩ := hr.run
  refine ⟨reply, ?_⟩
  have hrecord : ∀ r : GtidSet × Int,
      ((guard (r.2 ≠ 0) : Option Unit).bind fun _ =>
        some (({ s₂ with gtidExecuted := r.1 } : ServerSets), Reply.ran reply)) =
        if r.2 ≠ 0 then some ({ s₂ with gtidExecuted := r.1 }, .ran reply) else none := by
    intro r
    rw [guard]
    split <;> rfl
  rw [RedisCommand.call] at hcall
  simp only [gtidCommandProc, hr.arguments, hcontains, hname, hinner, Bool.false_eq_true, if_false,
    Option.bind_eq_bind, Option.bind_some, ← hrecord]
  cases hproc : cmd.proc with
  | gtidCommand | gtidxCommand | execCommand =>
    rw [hproc] at hcall
    simp only [hcall, Option.bind_some]
  | other =>
    rw [hproc] at hcall
    cases hcall
    rfl

/-- A GTID command that returns has changed nothing, or it has run the command inside of it and
recorded its gtid. -/
theorem gtidCommandProc_cases (h : Holding s uuid E L)
    (hrun : gtidCommandProc redis s (c :: gtid :: id :: argv) rand = some (s', reply)) :
    (innerRun redis (E ∪ L) gtid id argv = none ∧ Holding s' uuid E L) ∨
      ∃ x cmd s₂, RunsInside redis s gtid id argv rand x cmd s₂ ∧ ∃ e n,
        gtidSetAdd s₂.gtidExecuted x.1 x.2 x.2 (rand.sub 1) = some (e, n) ∧ n ≠ 0 ∧
        s' = { s₂ with gtidExecuted := e } := by
  have horig := hrun
  rw [gtidCommandProc] at hrun
  obtain ⟨args, hargs, hrun⟩ := Option.bind_eq_some_iff.mp hrun
  cases args with
  | error reply =>
    cases hrun
    refine Or.inl ⟨?_, h⟩
    rw [innerRun, hargs]
    rfl
  | ok x =>
    obtain ⟨k, g⟩ := x
    obtain ⟨s₁, hcontains, hold, -⟩ := serverGtidSetContains_spec h k g
    dsimp only at hrun
    rw [hcontains, Option.bind_eq_bind, Option.bind_some] at hrun
    obtain ⟨name, hname, hrun⟩ := Option.bind_eq_some_iff.mp hrun
    by_cases hmem : (k, g) ∈ E ∪ L
    · rw [decide_eq_true hmem, if_pos rfl] at hrun
      cases hrun
      have hguard : guard ((k, g) ∉ E ∪ L) = (none : Option Unit) := if_neg (not_not.mpr hmem)
      refine Or.inl ⟨?_, hold⟩
      simp only [innerRun, hargs, Except.toOption, hguard, Option.bind_eq_bind, Option.bind_some,
        Option.bind_none]
    rw [decide_eq_false hmem] at hrun hcontains
    cases hinner : innerCommand redis name argv with
    | error reply =>
      rw [hinner] at hrun
      cases hrun
      have hguard : guard ((k, g) ∉ E ∪ L) = some () := if_pos hmem
      refine Or.inl ⟨?_, hold⟩
      simp only [innerRun, hargs, hname, hinner, Except.toOption, hguard, Option.bind_eq_bind,
        Option.bind_some, Option.bind_none]
    | ok cmd =>
      rw [hinner] at hrun
      cases hcall : cmd.call redis s₁ argv (rand.sub 0) with
      | none =>
        rw [RedisCommand.call] at hcall
        cases hproc : cmd.proc with
        | gtidCommand | gtidxCommand | execCommand =>
          rw [hproc] at hcall
          simp only [hproc, hcall, Bool.false_eq_true, if_false, Option.bind_eq_bind,
            Option.bind_none, reduceCtorEq] at hrun
        | other =>
          rw [hproc] at hcall
          cases hcall
      | some r =>
        have hr : RunsInside redis s gtid id argv rand (k, g) cmd r.1 :=
          ⟨hargs, ⟨name, hname, hinner⟩, s₁, r.2, hcontains, hcall⟩
        obtain ⟨reply', heq⟩ := hr.eq (c := c)
        rw [heq] at horig
        obtain ⟨⟨e, n⟩, hadd, hrecord⟩ := Option.bind_eq_some_iff.mp horig
        split at hrecord
        · next hn =>
          cases hrecord
          exact Or.inr ⟨(k, g), cmd, r.1, hr, e, n, hadd, hn, rfl⟩
        · cases hrecord

theorem RunsInside.holding (hr : RunsInside redis s gtid id argv rand x cmd s₂)
    (h : Holding s uuid E L) :
    ∃ s₁ reply, Holding s₁ uuid E L ∧ cmd.call redis s₁ argv (rand.sub 0) = some (s₂, reply) := by
  obtain ⟨s₁, reply, hcontains, hcall⟩ := hr.run
  obtain ⟨s₃, hcontains', hold, -⟩ := serverGtidSetContains_spec h x.1 x.2
  obtain rfl : s₁ = s₃ := (Prod.mk.inj (Option.some.inj (hcontains.symm.trans hcontains'))).1
  exact ⟨s₁, reply, hold, hcall⟩

/-- **A call that returns** changes the sets as `CommandProc.change` says. -/
theorem RedisCommand.call_returned (hexec : ExecChanges redis execChange) {cmd : RedisCommand}
    (h : Holding s uuid E L) (hb : cmd.proc.Below redis argv)
    (hrun : cmd.call redis s argv rand = some (s', reply)) :
    Holding s' uuid ((cmd.proc.change redis execChange E L argv).apply E)
      ((cmd.proc.change redis execChange E L argv).applyLost L) := by
  induction hlen : argv.length using Nat.strong_induction_on
    generalizing cmd s s' argv rand reply with
  | _ len ih =>
    rw [RedisCommand.call] at hrun
    cases hproc : cmd.proc with
    | other =>
      rw [hproc] at hrun
      cases hrun
      rw [CommandProc.change_other, Change.apply_none, Change.applyLost_none]
      exact h
    | gtidxCommand =>
      rw [hproc] at hrun hb
      exact gtidxCommand_returned h hb hrun
    | execCommand =>
      rw [hproc] at hrun
      rw [CommandProc.change_exec]
      exact hexec s uuid E L rand s' reply h hrun
    | gtidCommand =>
      rw [hproc] at hrun hb
      rcases argv with _ | ⟨c, _ | ⟨gtid, _ | ⟨id, argv⟩⟩⟩
      · simp [gtidCommandProc] at hrun
      · simp [gtidCommandProc] at hrun
      · simp [gtidCommandProc] at hrun
      rw [CommandProc.Below] at hb
      rw [CommandProc.change]
      rcases gtidCommandProc_cases h hrun with
        ⟨hnone, hold⟩ | ⟨⟨k, g⟩, cmd', s₂, hr, e, n, hadd, hn, rfl⟩
      · rw [hnone, Change.apply_none, Change.applyLost_none]
        exact hold
      · obtain ⟨name, hname, hinner⟩ := hr.inner
        obtain ⟨s₁, reply', hold₁, hcall⟩ := hr.holding h
        have hold₂ := ih argv.length (by simp at hlen; omega) hold₁
          (hb.2 name cmd' hname hinner) hcall rfl
        have hmax : g < LLONG_MAX := hb.1 _ hr.arguments
        rw [hr.innerRun h]
        dsimp only
        rw [Change.apply_insert]
        rcases add_gno_regularSet hold₂.executed.toRegularSet k (le_of_lt hmax) (rand.sub 1) with
          ⟨hadds, -⟩ | ⟨-, hzero⟩
        · rw [hold₂.executed_eq] at hadds
          obtain ⟨e', hadd', hold', -⟩ :=
            addExecuted_holding hold₂ hadds.1 hmax hadds.2.1 (rand.sub 1)
          cases hadd'.symm.trans hadd
          exact hold'
        · exact absurd (hzero e n hadd) hn

/-! ## EXEC -/

theorem execChanges_nothing (hexec : redis.execCommand = execNothing) :
    ExecChanges redis (fun _ _ => .none) := by
  intro s uuid E L rand s' reply h hrun
  rw [hexec] at hrun
  cases hrun
  rw [Change.apply_none, Change.applyLost_none]
  exact h

/-- The commands that are queued run one after the other. -/
def runQueue (redis : Redis) :
    List (RedisCommand × List Bytes) → ServerSets → Rand → Option (ServerSets × Reply)
  | [], server, _ => some (server, .other)
  | (cmd, argv) :: queue, server, rand => do
    let (server, _) ← cmd.call redis server argv (rand.sub 0)
    runQueue redis queue server (rand.sub 1)

noncomputable def queueChange (redis : Redis) (execChange : ExecChange)
    (E L : Finset (Uuid × Int)) : List (RedisCommand × List Bytes) → Change
  | [] => .none
  | (cmd, argv) :: queue =>
    let c := cmd.proc.change redis execChange E L argv
    c.andThen (queueChange redis execChange (c.apply E) (c.applyLost L) queue)

/-- **A queue that has run** has changed what its commands change, one after the other. -/
theorem runQueue_returned (hexec : ExecChanges redis execChange)
    {queue : List (RedisCommand × List Bytes)} (hb : ∀ c ∈ queue, c.1.proc.Below redis c.2)
    (h : Holding s uuid E L) (hrun : runQueue redis queue s rand = some (s', reply)) :
    Holding s' uuid ((queueChange redis execChange E L queue).apply E)
      ((queueChange redis execChange E L queue).applyLost L) := by
  induction queue generalizing s E L rand with
  | nil =>
    cases hrun
    rw [queueChange, Change.apply_none, Change.applyLost_none]
    exact h
  | cons c queue ih =>
    obtain ⟨cmd, argv⟩ := c
    obtain ⟨⟨s₁, reply₁⟩, hcall, hrun⟩ := Option.bind_eq_some_iff.mp hrun
    have hold := RedisCommand.call_returned hexec h (hb (cmd, argv) List.mem_cons_self) hcall
    rw [queueChange, Change.apply_andThen, Change.applyLost_andThen]
    exact ih (fun c hc => hb c (List.mem_cons_of_mem _ hc)) hold hrun

/-- So does an EXEC that runs it. -/
theorem execChanges_runQueue (hexec : ExecChanges redis execChange)
    {queue : List (RedisCommand × List Bytes)} (hb : ∀ c ∈ queue, c.1.proc.Below redis c.2) :
    ExecChanges (redis.queued (runQueue redis queue))
      (fun E L => queueChange redis execChange E L queue) :=
  fun _ _ _ _ _ _ _ h hrun => runQueue_returned hexec hb h hrun

/-- A gno read is a `long long`. -/
theorem gtidArguments_le (h : gtidArguments redis gtid id = some (.ok x)) : x.2 ≤ LLONG_MAX := by
  obtain ⟨read, hread, h⟩ := Option.bind_eq_some_iff.mp h
  rcases read with _ | ⟨gno, uuidLen⟩
  · cases h
  have hgno : gno ≤ LLONG_MAX := by
    rw [uuidGnoDecode] at hread
    obtain ⟨colon, -, hread⟩ := Option.bind_eq_some_iff.mp hread
    cases colon with
    | none => cases hread
    | some p =>
      dsimp only at hread
      split at hread
      · cases hread
      · obtain ⟨-, -, hread⟩ := Option.bind_eq_some_iff.mp hread
        obtain ⟨number, hnumber, hread⟩ := Option.bind_eq_some_iff.mp hread
        cases number with
        | none => cases hread
        | some gno =>
          cases hread
          exact (string2ll_bounds hnumber).2
  cases hid : redis.getIntFromObject id with
  | none =>
    rw [hid] at h
    cases h
  | some db =>
    rw [hid] at h
    dsimp only at h
    split at h
    · cases h
    · cases h
      exact hgno

end Calls

/-! ## Runs -/

/-- Calls of GTID, GTIDX, EXEC and other commands, whatever their clients have queued, and
operations of the server itself, in any order. -/
inductive CommandRun (redis : Redis) (s₀ : ServerSets) : ServerSets → Prop
  | start : CommandRun redis s₀ s₀
  | call {s s' : ServerSets} {reply : Reply} (cmd : RedisCommand) (argv : List Bytes)
      (exec : ServerSets → Rand → Option (ServerSets × Reply)) (execChange : ExecChange)
      (rand : Rand) (h : CommandRun redis s₀ s) (hexec : ExecChanges (redis.queued exec) execChange)
      (hb : cmd.proc.Below redis argv)
      (hrun : cmd.call (redis.queued exec) s argv rand = some (s', reply)) : CommandRun redis s₀ s'
  | step {s s' : ServerSets} (op : ServerOp) (rand : Rand) (h : CommandRun redis s₀ s)
      (hv : op.Valid s) (hrun : op.step s rand = some s') : CommandRun redis s₀ s'

section Runs
variable {redis : Redis} {execChange : ExecChange} {s₀ s s₂ : ServerSets} {gtid id c : Bytes}
  {argv : List Bytes} {x : Uuid × Int} {cmd : RedisCommand} {rand : Rand}

/-- What is queued has no part in it. -/
theorem CommandProc.below_queued (exec : ServerSets → Rand → Option (ServerSets × Reply))
    (proc : CommandProc) (h : proc.Below redis argv) : proc.Below (redis.queued exec) argv := by
  induction hlen : argv.length using Nat.strong_induction_on generalizing proc argv with
  | _ len ih =>
    rw [CommandProc.Below.eq_def] at h ⊢
    split at h
    · next _ gtid id argv =>
      refine ⟨h.1, fun name cmd hname hcmd => ?_⟩
      exact ih argv.length (by simp at hlen; omega) cmd.proc (h.2 name cmd hname hcmd) rfl
    · exact h
    · trivial

theorem CommandRun.invariant (h : CommandRun redis s₀ s) (h₀ : SetsInvariant s₀) :
    SetsInvariant s := by
  induction h with
  | start => exact h₀
  | call cmd argv exec execChange rand _ hexec hb hrun ih =>
    have hold := RedisCommand.call_returned hexec ih.holding (cmd.proc.below_queued exec hb) hrun
    exact hold.toSetsInvariant
  | step op rand _ hv hrun ih => exact ServerOp.step_invariant ih hv hrun

/-- The gtid of a GTID command is new after the change that the command inside of it makes. -/
def RecordsNew (change : Change) (E : Finset (Uuid × Int)) (x : Uuid × Int) : Prop :=
  1 ≤ x.2 ∧ x ∉ change.added ∧ (x.2 = LLONG_MAX →
    maxGno (change.apply E) x.1 = 0 ∨ maxGno (change.apply E) x.1 + 1 = LLONG_MAX)

theorem recordsNew_iff {change : Change} {E : Finset (Uuid × Int)} (hnew : x ∉ E) :
    RecordsNew change E x ↔ AddsGno (change.apply E) x.1 x.2 := by
  have hmem : x ∈ change.apply E ↔ x ∈ change.added := by
    rw [Change.apply, Finset.mem_union, Finset.mem_sdiff]
    exact or_iff_right (fun h => hnew h.1)
  rw [RecordsNew, AddsGno, ← hmem]

/-- The gtid is new and counted as one, or it is not and nothing is counted. -/
theorem RunsInside.recorded (hexec : ExecChanges redis execChange)
    (hr : RunsInside redis s gtid id argv rand x cmd s₂)
    (hs : SetsInvariant s) (hb : cmd.proc.Below redis argv) :
    (RecordsNew (cmd.proc.change redis execChange (contents s.gtidExecuted) (contents s.gtidLost)
        argv) (contents s.gtidExecuted) x ∧
      ∃ e, gtidSetAdd s₂.gtidExecuted x.1 x.2 x.2 (rand.sub 1) = some (e, 1)) ∨
    (¬ RecordsNew (cmd.proc.change redis execChange (contents s.gtidExecuted) (contents s.gtidLost)
        argv) (contents s.gtidExecuted) x ∧
      ∀ e n, gtidSetAdd s₂.gtidExecuted x.1 x.2 x.2 (rand.sub 1) = some (e, n) → n = 0) := by
  obtain ⟨s₁, reply, hold₁, hcall⟩ := hr.holding hs.holding
  have hold₂ := RedisCommand.call_returned hexec hold₁ hb hcall
  have hnew : x ∉ contents s.gtidExecuted :=
    fun hmem => hr.notMem hs.holding (Finset.mem_union_left _ hmem)
  rw [recordsNew_iff hnew, ← hold₂.executed_eq]
  exact add_gno_regularSet hold₂.executed.toRegularSet x.1 (gtidArguments_le hr.arguments)
    (rand.sub 1)

/-- A gtid that is counted as none fails the assertion. -/
theorem RunsInside.fails (hr : RunsInside redis s gtid id argv rand x cmd s₂) (c : Bytes)
    (hzero : ∀ e n, gtidSetAdd s₂.gtidExecuted x.1 x.2 x.2 (rand.sub 1) = some (e, n) → n = 0) :
    gtidCommandProc redis s (c :: gtid :: id :: argv) rand = none := by
  obtain ⟨reply, heq⟩ := hr.eq (c := c)
  rw [heq, Option.bind_eq_none_iff]
  intro r hadd
  rw [if_neg (not_not.mpr (hzero r.1 r.2 hadd))]

/-- `G` is GTID, `E` is EXEC, and every other name a command that leaves the sets alone. -/
def Redis.nested : Redis :=
  ⟨fun name => some ⟨name, -1, if name = [71] then .gtidCommand
    else if name = [69] then .execCommand else .other⟩, fun _ => some 0, fun _ => some 1, 16,
    execNothing⟩

/-- G A:1 inside of a GTID command, on empty sets. -/
theorem runsInside_nested {uuid : Uuid} (h : Holding s uuid ∅ ∅) (gtid : Bytes) (x : Uuid × Int)
    (hargs : gtidArguments Redis.nested gtid [] = some (.ok x)) :
    ∃ s₂, RunsInside Redis.nested s gtid [] [[71], [65, 58, 49], [], []] (fun _ => 0) x
      ⟨[71], -1, .gtidCommand⟩ s₂ := by
  have hr : Deliverable Redis.nested ⟨[71], [65, 58, 49], [], [], []⟩ uuid ∅ ∅ := by
    refine ⟨by decide, ?_, ?_⟩
    · intro y hy
      have hgtid : gtidOf [65, 58, 49] = some ([65], 1) := by decide +kernel
      rw [hgtid] at hy
      cases hy
      decide
    · intro cmd hcmd
      cases hcmd
      exact (leavesSets_other rfl).keepsSets _
  obtain ⟨s₁, hcontains, hold, -⟩ := serverGtidSetContains_spec h x.1 x.2
  obtain ⟨s₂, reply, hrun, -⟩ := gtidCommandProc_spec hold hr (Rand.sub (fun _ => 0) 0)
  refine ⟨s₂, hargs, ⟨_, rfl, rfl⟩, s₁, reply, ?_, hrun⟩
  rw [hcontains, decide_eq_false (by simp)]

theorem below_nested : CommandProc.gtidCommand.Below Redis.nested [[71], [65, 58, 49], [], []] := by
  refine ⟨fun x hx => ?_, fun name cmd hname hcmd => ?_⟩
  · cases hx
    decide
  · cases hname
    cases hcmd
    trivial

theorem change_nested :
    CommandProc.gtidCommand.change Redis.nested (fun _ _ => .none) ∅ ∅
      [[71], [65, 58, 49], [], []] = ⟨{([65], 1)}, ∅, ∅, ∅⟩ := by
  have hrun : innerRun Redis.nested (∅ ∪ ∅) [65, 58, 49] [] [[]] = some (([65], 1), .other) := rfl
  rw [CommandProc.change, hrun]
  dsimp only
  rw [CommandProc.change_other, Change.none, Finset.empty_union]

/-- A client has queued GTIDX ADD EXECUTED A 1 1. -/
def queuedAdd : List (RedisCommand × List Bytes) :=
  [(⟨[88], 6, .gtidxCommand⟩, [[88], [97, 100, 100],
    ['e', 'x', 'e', 'c', 'u', 't', 'e', 'd'].map Char.toUInt8, [65], [49], [49]])]

def Redis.nestedQueued : Redis := Redis.nested.queued (runQueue Redis.nested queuedAdd)

def nestedQueuedChange : ExecChange :=
  fun _ _ => ⟨{([65], 1)}, ∅, ∅, ∅⟩

theorem execChanges_nestedQueued : ExecChanges Redis.nestedQueued nestedQueuedChange := by
  have hchange : ∀ E L, queueChange Redis.nested (fun _ _ => .none) E L queuedAdd =
      nestedQueuedChange E L := by
    intro E L
    have hrange : gtidxRange Redis.nested
        (['e', 'x', 'e', 'c', 'u', 't', 'e', 'd'].map Char.toUInt8) [49] [49] =
        .ok (.executed, 1, 1) := rfl
    have hvalid : validRange [65] 1 1 = {([65], 1)} := by
      rw [validRange, if_pos (by decide), range, Finset.Icc_self,
        Finset.singleton_product_singleton]
    rw [queuedAdd, queueChange, queueChange, CommandProc.change,
      gtidxChange_add (by decide) hrange, hvalid]
    simp [Change.andThen, Change.add, Change.none, nestedQueuedChange]
  have hbelow : ∀ c ∈ queuedAdd, c.1.proc.Below Redis.nested c.2 := by
    intro c hc
    obtain rfl := List.mem_singleton.mp hc
    intro _ t first last hrange
    cases hrange
    decide
  have hqueue := execChanges_runQueue (execChanges_nothing rfl) hbelow
  simp only [hchange] at hqueue
  exact hqueue

end Runs

end XredisGtid
