import XredisGtid.Command
import XredisGtid.GtidText
import XredisGtid.ServerRun

/-!
# What a GTID command runs

One GTID command on a state whose sets are `E` and `L`.  The command inside of it runs
when the GTID command is well formed and its gtid is in neither set, and then the gtid
is recorded.  A run delivers GTID commands in any order and any number of times, and no
gtid runs twice in it.
-/
namespace XredisGtid
open Buffer

/-- The arguments of a GTID command, which names at least a command to run. -/
structure GtidRequest where
  command : Bytes
  gtid : Bytes
  id : Bytes
  name : Bytes
  args : List Bytes

namespace GtidRequest

def inner (r : GtidRequest) : List Bytes := r.name :: r.args

def argv (r : GtidRequest) : List Bytes := r.command :: r.gtid :: r.id :: r.inner

/-- The gtid of a request that passes every check before the sets are looked at. -/
def wellFormed (redis : Redis) (r : GtidRequest) : Option (Uuid × Int) :=
  match gtidArguments redis r.gtid r.id, innerCommand redis r.name r.inner with
  | some (.ok gtid), .ok _ => some gtid
  | _, _ => none

end GtidRequest

def Reply.isRan : Reply → Bool
  | .ran _ => true
  | _ => false

/-- The gtid that a reply tells has run. -/
def GtidRequest.ran (redis : Redis) (r : GtidRequest) (reply : Reply) : List (Uuid × Int) :=
  if reply.isRan then (r.wellFormed redis).toList else []

/-- What is queued has no part in it. -/
theorem GtidRequest.ran_queued {redis : Redis}
    (exec : ServerSets → Rand → Option (ServerSets × Reply)) (r : GtidRequest) (reply : Reply) :
    r.ran (redis.queued exec) reply = r.ran redis reply := rfl

/-- A command that returns and leaves the gtid sets alone: EXEC does when the queued commands
do, and every command does that is none of GTID, GTIDX and EXEC. -/
def RedisCommand.LeavesSets (redis : Redis) (cmd : RedisCommand) : Prop :=
  ∀ s argv rand, ∃ reply, cmd.call redis s argv rand = some (s, reply)

/-- On sets `E` and `L` a command returns, and leaves them as they are. -/
def KeepsSets (redis : Redis) (cmd : RedisCommand) (argv : List Bytes) (uuid : Uuid)
    (E L : Finset (Uuid × Int)) : Prop :=
  ∀ s rand, Holding s uuid E L →
    ∃ s' reply, cmd.call redis s argv rand = some (s', reply) ∧ Holding s' uuid E L

/-- A request whose gtid is below `LLONG_MAX` and can be addressed with an `int`, and whose
command leaves the sets alone. -/
structure Deliverable (redis : Redis) (r : GtidRequest) (uuid : Uuid)
    (E L : Finset (Uuid × Int)) : Prop where
  short : r.gtid.length < 2 ^ 31
  gno : ∀ x, gtidOf r.gtid = some x → 1 ≤ x.2 ∧ x.2 < LLONG_MAX
  keeps : ∀ cmd, innerCommand redis r.name r.inner = .ok cmd →
    KeepsSets redis cmd r.inner uuid E L

section Deliver
variable {redis : Redis} {r : GtidRequest} {s : ServerSets} {uuid : Uuid}
  {E L : Finset (Uuid × Int)} {gtid id : Bytes}

theorem leavesSets_other {cmd : RedisCommand} (h : cmd.proc = .other) : cmd.LeavesSets redis := by
  intro s argv rand
  refine ⟨.other, ?_⟩
  rw [RedisCommand.call, h]

theorem RedisCommand.LeavesSets.ne_gtid {cmd : RedisCommand} (h : cmd.LeavesSets redis) :
    cmd.proc ≠ .gtidCommand := by
  intro hproc
  obtain ⟨reply, hcall⟩ := h ⟨[], gtidSetNew, gtidSetNew⟩ [] (fun _ => 0)
  rw [RedisCommand.call, hproc] at hcall
  simp [gtidCommandProc] at hcall

theorem RedisCommand.LeavesSets.keepsSets {cmd : RedisCommand} (h : cmd.LeavesSets redis)
    (argv : List Bytes) : KeepsSets redis cmd argv uuid E L := by
  intro s rand hold
  obtain ⟨reply, hcall⟩ := h s argv rand
  exact ⟨s, reply, hcall, hold⟩

theorem gtidOf_take {x : Uuid × Int} (h : gtidOf gtid = some x) : gtid.take x.1.length = x.1 := by
  rw [gtidOf] at h
  split at h
  · obtain ⟨gno, -, rfl⟩ := Option.map_eq_some_iff.mp h
    exact (List.prefix_iff_eq_take.mp (List.takeWhile_prefix _)).symm
  · cases h

/-- The arguments are read, and an accepted gtid is that of the text. -/
theorem gtidArguments_isSome (redis : Redis) (id : Bytes) (hshort : gtid.length < 2 ^ 31) :
    ∃ r, gtidArguments redis gtid id = some r ∧ (∀ x, r = .ok x → gtidOf gtid = some x) ∧
      ∀ reply, r = .error reply → reply.isRan = false := by
  have hread := uuidGnoDecode_text (textAt_self (gtid ++ [0])) (by decide) hshort
  have herror : ∀ reply : Reply, reply.isRan = false →
      (∀ x, (Except.error reply : Except Reply (Uuid × Int)) = .ok x → gtidOf gtid = some x) ∧
        ∀ reply', (Except.error reply : Except Reply (Uuid × Int)) = .error reply' →
          reply'.isRan = false := by
    intro reply hreply
    refine ⟨fun x hx => (by cases hx), ?_⟩
    intro reply' he
    cases he
    exact hreply
  rw [gtidArguments, hread]
  cases hgtid : gtidOf gtid with
  | none => exact ⟨_, rfl, hgtid ▸ herror _ rfl⟩
  | some x =>
    have htake := gtidOf_take hgtid
    rw [hgtid] at herror
    cases hid : redis.getIntFromObject id with
    | none => exact ⟨_, rfl, herror _ rfl⟩
    | some db =>
      simp only [Option.map_some, Option.bind_eq_bind, Option.bind_some, htake]
      by_cases hdb : db < 0 ∨ redis.dbnum ≤ db
      · rw [if_pos hdb]
        exact ⟨_, rfl, herror _ rfl⟩
      · rw [if_neg hdb]
        refine ⟨_, rfl, fun y hy => ?_, fun reply hreply => (by cases hreply)⟩
        cases hy
        rfl

theorem innerCommand_error {name : Bytes} {argv : List Bytes} {reply : Reply}
    (h : innerCommand redis name argv = .error reply) : reply.isRan = false := by
  rw [innerCommand] at h
  split at h
  · cases h
    rfl
  · split at h
    · cases h
      rfl
    · cases h

/-- A reply that tells of no run records nothing. -/
theorem holding_of_not_ran {reply : Reply} (h : Holding s uuid E L) (hreply : reply.isRan = false) :
    Holding s uuid (E ∪ (r.ran redis reply).toFinset) L := by
  rw [GtidRequest.ran, hreply, if_neg Bool.false_ne_true, List.toFinset_nil, Finset.union_empty]
  exact h

/-- **One GTID command.**  The command inside of it runs when the request is well formed and its
gtid is in neither set; the gtid is recorded then, and otherwise the sets stay. -/
theorem gtidCommandProc_spec (h : Holding s uuid E L) (hr : Deliverable redis r uuid E L)
    (rand : Rand) :
    ∃ s' reply, gtidCommandProc redis s r.argv rand = some (s', reply) ∧
      (reply.isRan = true ↔ ∃ x, r.wellFormed redis = some x ∧ x ∉ E ∪ L) ∧
      Holding s' uuid (E ∪ (r.ran redis reply).toFinset) L := by
  obtain ⟨args, hargs, hgtid, herror⟩ := gtidArguments_isSome redis r.id hr.short
  have hwell : ∀ reply : Reply, reply.isRan = false → (∀ x, r.wellFormed redis = some x → x ∈ E ∪ L) →
      (reply.isRan = true ↔ ∃ x, r.wellFormed redis = some x ∧ x ∉ E ∪ L) := by
    intro reply hreply hall
    rw [hreply]
    exact ⟨fun he => absurd he Bool.false_ne_true, fun ⟨x, hx, hnot⟩ => absurd (hall x hx) hnot⟩
  rw [GtidRequest.argv, GtidRequest.inner, gtidCommandProc, hargs]
  cases args with
  | error reply =>
    have hreply := herror reply rfl
    refine ⟨s, reply, rfl, hwell reply hreply (fun x hx => ?_), holding_of_not_ran h hreply⟩
    rw [GtidRequest.wellFormed, hargs] at hx
    cases hx
  | ok x =>
    obtain ⟨k, g⟩ := x
    obtain ⟨hg, hmax⟩ := hr.gno (k, g) (hgtid _ rfl)
    obtain ⟨s₁, hcontains, hold, -⟩ := serverGtidSetContains_spec h k g
    simp only [Option.bind_eq_bind, Option.bind_some, hcontains, List.head?_cons]
    by_cases hmem : (k, g) ∈ E ∪ L
    · rw [decide_eq_true hmem, if_pos rfl]
      refine ⟨s₁, _, rfl, hwell _ rfl (fun x hx => ?_), holding_of_not_ran hold rfl⟩
      rw [GtidRequest.wellFormed, hargs] at hx
      split at hx
      · next heq _ =>
        cases heq
        cases hx
        exact hmem
      · cases hx
    · rw [decide_eq_false hmem, if_neg Bool.false_ne_true]
      cases hinner : innerCommand redis r.name (r.name :: r.args) with
      | error reply =>
        have hreply := innerCommand_error hinner
        refine ⟨s₁, reply, rfl, hwell reply hreply (fun x hx => ?_), holding_of_not_ran hold hreply⟩
        rw [GtidRequest.wellFormed, hargs, GtidRequest.inner, hinner] at hx
        cases hx
      | ok cmd =>
        obtain ⟨s₂, reply, hcall, hold₂⟩ := hr.keeps cmd hinner s₁ (rand.sub 0) hold
        have hnew : (k, g) ∉ E := fun he => hmem (Finset.mem_union_left _ he)
        obtain ⟨e, hadd, hold₃, -⟩ := addExecuted_holding hold₂ hg hmax hnew (rand.sub 1)
        have hwf : r.wellFormed redis = some (k, g) := by
          rw [GtidRequest.wellFormed, hargs, GtidRequest.inner, hinner]
        have hran : (r.ran redis (.ran reply)).toFinset = {(k, g)} := by
          rw [GtidRequest.ran, hwf]
          rfl
        refine ⟨{ s₂ with gtidExecuted := e }, .ran reply, ?_,
          ⟨fun _ => ⟨(k, g), hwf, hmem⟩, fun _ => rfl⟩, hran ▸ hold₃⟩
        rw [RedisCommand.call, GtidRequest.inner] at hcall
        dsimp only
        cases hproc : cmd.proc with
        | gtidCommand | gtidxCommand | execCommand =>
          rw [hproc] at hcall
          simp only [hcall, Option.bind_some, hadd]
          rfl
        | other =>
          rw [hproc] at hcall
          cases hcall
          simp only [Option.bind_some, hadd]
          rfl

end Deliver

/-! ## Deliveries -/

/-- GTID commands in any order and number, whatever their clients have queued, with lost gtids
added in between; also the gtids that have run. -/
inductive DeliveryRun (redis : Redis) (s₀ : ServerSets) : ServerSets → List (Uuid × Int) → Prop
  | start : DeliveryRun redis s₀ s₀ []
  | deliver {s s' : ServerSets} {ran : List (Uuid × Int)} {reply : Reply} (r : GtidRequest)
      (exec : ServerSets → Rand → Option (ServerSets × Reply)) (rand : Rand)
      (h : DeliveryRun redis s₀ s ran)
      (hr : Deliverable (redis.queued exec) r s.uuid (contents s.gtidExecuted)
        (contents s.gtidLost))
      (hrun : gtidCommandProc (redis.queued exec) s r.argv rand = some (s', reply)) :
      DeliveryRun redis s₀ s' (ran ++ r.ran redis reply)
  | addLost {s s' : ServerSets} {ran : List (Uuid × Int)} (deltaLost : GtidSet) (rand : Rand)
      (h : DeliveryRun redis s₀ s ran) (hd : RegularSet deltaLost)
      (hrun : serverGtidSetAddLost s deltaLost rand = some s') :
      DeliveryRun redis s₀ s' ran

structure DeliveryInvariant (s₀ s : ServerSets) (ran : List (Uuid × Int)) : Prop where
  sets : SetsInvariant s
  nodup : ran.Nodup
  new : ∀ x ∈ ran, x ∉ contents s₀.gtidExecuted
  executed : contents s.gtidExecuted = contents s₀.gtidExecuted ∪ ran.toFinset

section Deliveries
variable {redis : Redis} {r : GtidRequest} {s₀ s s' : ServerSets} {ran : List (Uuid × Int)}
  {reply : Reply} {rand : Rand}

theorem SetsInvariant.holding (h : SetsInvariant s) :
    Holding s s.uuid (contents s.gtidExecuted) (contents s.gtidLost) := ⟨h, rfl, rfl, rfl⟩

/-- What a delivery runs is new, and there is at most one such gtid. -/
theorem DeliveryInvariant.deliver (h : DeliveryInvariant s₀ s ran)
    (hr : Deliverable redis r s.uuid (contents s.gtidExecuted) (contents s.gtidLost))
    (hrun : gtidCommandProc redis s r.argv rand = some (s', reply)) :
    DeliveryInvariant s₀ s' (ran ++ r.ran redis reply) := by
  obtain ⟨s₁, reply₁, hrun₁, hiff, hold⟩ := gtidCommandProc_spec h.sets.holding hr rand
  rw [hrun, Option.some.injEq, Prod.mk.injEq] at hrun₁
  obtain ⟨rfl, rfl⟩ := hrun₁
  have hfresh : ∀ x ∈ r.ran redis reply, x ∉ contents s.gtidExecuted := by
    intro x hx
    rw [GtidRequest.ran] at hx
    split at hx
    · next hran =>
      obtain ⟨y, hy, hnot⟩ := hiff.mp hran
      rw [hy, Option.toList_some, List.mem_singleton] at hx
      rw [Finset.mem_union, not_or] at hnot
      exact hx ▸ hnot.1
    · cases hx
  have hone : (r.ran redis reply).Nodup := by
    rw [GtidRequest.ran]
    split
    · cases r.wellFormed redis with
      | none => exact List.nodup_nil
      | some x => exact List.nodup_singleton x
    · exact List.nodup_nil
  rw [h.executed] at hfresh
  refine ⟨hold.toSetsInvariant, ?_, ?_, ?_⟩
  · refine List.nodup_append.mpr ⟨h.nodup, hone, ?_⟩
    rintro x hx y hy rfl
    exact hfresh x hy (Finset.mem_union_right _ (List.mem_toFinset.mpr hx))
  · intro x hx
    rcases List.mem_append.mp hx with hx | hx
    · exact h.new x hx
    · exact fun hmem => hfresh x hx (Finset.mem_union_left _ hmem)
  · rw [hold.executed_eq, h.executed, List.toFinset_append, Finset.union_assoc]

theorem DeliveryInvariant.addLost {t : GtidSet} (h : DeliveryInvariant s₀ s ran) (ht : RegularSet t)
    (hrun : serverGtidSetAddLost s t rand = some s') : DeliveryInvariant s₀ s' ran := by
  obtain ⟨l, n, hmerge, hold⟩ := addLost_holding h.sets.holding ht (rand.sub 0)
  rw [serverGtidSetAddLost, hmerge] at hrun
  obtain ⟨-, hold', -⟩ := updateNextGno_some hold hrun
  exact ⟨hold'.toSetsInvariant, h.nodup, h.new, hold'.executed_eq.trans h.executed⟩

theorem DeliveryRun.invariant (h : DeliveryRun redis s₀ s ran) (h₀ : SetsInvariant s₀) :
    DeliveryInvariant s₀ s ran := by
  induction h with
  | start => exact ⟨h₀, List.nodup_nil, by simp, by simp⟩
  | deliver r exec rand _ hr hrun ih =>
    have hinv := ih.deliver hr hrun
    rwa [GtidRequest.ran_queued] at hinv
  | addLost t rand _ ht hrun ih => exact ih.addLost ht hrun

/-- **At-most-once execution.**  In a run no gtid runs twice, the executed set grows by the gtids
that ran, and the next GTID command runs when it is well formed and its gtid is in neither set,
and otherwise leaves both sets as they are. -/
theorem delivered_at_most_once (h₀ : SetsInvariant s₀) (h : DeliveryRun redis s₀ s ran) :
    ran.Nodup ∧ contents s.gtidExecuted = contents s₀.gtidExecuted ∪ ran.toFinset ∧
      ∀ r rand, Deliverable redis r s.uuid (contents s.gtidExecuted) (contents s.gtidLost) →
        ∃ s' reply, gtidCommandProc redis s r.argv rand = some (s', reply) ∧
          (reply.isRan = true ↔ ∃ x, r.wellFormed redis = some x ∧
            x ∉ contents s.gtidExecuted ∪ contents s.gtidLost) ∧
          (reply.isRan = false → contents s'.gtidExecuted = contents s.gtidExecuted ∧
            contents s'.gtidLost = contents s.gtidLost) := by
  have hinv := h.invariant h₀
  refine ⟨hinv.nodup, hinv.executed, fun r rand hr => ?_⟩
  obtain ⟨s', reply, hrun, hiff, hold⟩ := gtidCommandProc_spec hinv.sets.holding hr rand
  refine ⟨s', reply, hrun, hiff, fun hreply => ⟨?_, hold.lost_eq⟩⟩
  rw [hold.executed_eq, GtidRequest.ran, hreply, if_neg Bool.false_ne_true, List.toFinset_nil,
    Finset.union_empty]

/-- Every name is a command that leaves the sets alone. -/
def Redis.plain : Redis :=
  ⟨fun _ => some ⟨[], -1, .other⟩, fun _ => some 0, fun _ => some 0, 16, execNothing⟩

theorem innerCommand_plain {name : Bytes} {argv : List Bytes} {cmd : RedisCommand}
    (h : innerCommand Redis.plain name argv = .ok cmd) : cmd.proc = .other := by
  rw [innerCommand, Redis.plain] at h
  dsimp only at h
  split at h
  · cases h
  · cases h
    rfl

/-- GTID A:1 delivered to a server with empty sets. -/
theorem delivered_once :
    ∃ s₀ s, contents s₀.gtidExecuted = ∅ ∧ DeliveryRun Redis.plain s₀ s [([65], 1)] ∧
      contents s.gtidExecuted = contents s₀.gtidExecuted ∪ [(([65] : Uuid), (1 : Int))].toFinset := by
  obtain ⟨e, hupdate, -⟩ := gtidSetCurrentUuidSetUpdate_spec regularSet_new.1 [66]
  obtain ⟨hold, -⟩ : Holding ⟨[66], e, gtidSetNew⟩ [66] ∅ ∅ ∧ e.curnext = 0 :=
    serverStart_spec ⟨hupdate, rfl⟩
  have hr : Deliverable Redis.plain ⟨[], [65, 58, 49], [], [], []⟩ [66] ∅ ∅ := by
    refine ⟨by decide, ?_,
      fun cmd hcmd => (leavesSets_other (innerCommand_plain hcmd)).keepsSets _⟩
    intro x hx
    have hgtid : gtidOf [65, 58, 49] = some ([65], 1) := by decide +kernel
    rw [hgtid] at hx
    cases hx
    decide
  have hwf : GtidRequest.wellFormed Redis.plain ⟨[], [65, 58, 49], [], [], []⟩ = some ([65], 1) := by
    decide +kernel
  obtain ⟨s', reply, hrun, hiff, -⟩ := gtidCommandProc_spec hold hr (fun _ => 0)
  have hran : GtidRequest.ran Redis.plain ⟨[], [65, 58, 49], [], [], []⟩ reply = [([65], 1)] := by
    rw [GtidRequest.ran, hwf, if_pos (hiff.mpr ⟨_, hwf, by simp⟩), Option.toList_some]
  have h : DeliveryRun Redis.plain ⟨[66], e, gtidSetNew⟩ s'
      ([] ++ GtidRequest.ran Redis.plain ⟨[], [65, 58, 49], [], [], []⟩ reply) := by
    refine .deliver _ execNothing _ .start ?_ hrun
    rw [hold.executed_eq, hold.lost_eq]
    exact hr
  rw [hran, List.nil_append] at h
  exact ⟨_, s', hold.executed_eq, h, (delivered_at_most_once hold.toSetsInvariant h).2.1⟩

/-- With A:4-9223372036854775807 executed, GTID A:3 runs and is not found afterwards. -/
theorem delivered_not_recorded :
    ∃ (e e' : GtidSet) (s : ServerSets),
      gtidSetAdd gtidSetNew [65] 4 LLONG_MAX (fun _ => 0) = some (e, 9223372036854775804) ∧
      gtidCommandProc Redis.plain ⟨[66], e, gtidSetNew⟩ [[], [65, 58, 51], [], []] (fun _ => 0) =
        some (s, .ran .other) ∧
      gtidSetContains s.gtidExecuted [65] 3 = some (e', false) :=
  ⟨_, _, _, rfl, rfl, rfl⟩

end Deliveries

end XredisGtid
