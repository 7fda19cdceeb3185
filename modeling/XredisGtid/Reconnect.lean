import XredisGtid.Replication
import XredisGtid.SyncWire

/-!
# A replica that comes back

While a replica is away its master runs commands.  When the replica comes back it synchronizes over
the wire, executes what it has missed, and follows the master from there on: then, however the two
go on, the replica lacks just the gtids in flight.
-/
namespace XredisGtid
open Buffer Memory

/-- A replica in xsync mode without a link to its master. -/
structure Unlinked (r : Server) (k : Uuid) (E L : Finset (Uuid × Int)) : Prop where
  sets : Holding r.toServerSets k E L
  disjoint : Disjoint E L
  mode : r.replMode.mode = .xsync
  state : ReplicaState r
  replid : r.replid.length = CONFIG_RUN_ID_SIZE

/-- A master in xsync mode, after any run and outside of a transaction. -/
structure Serving [RedisReplication] (redis : Redis) (p : PropagateServer) : Prop where
  reachable : PropagateReachable redis p
  room : HasRoom p
  out : ¬ p.inMulti
  uuid : PlainUuid p.uuid
  mode : p.replMode.mode = .xsync
  disjoint : Disjoint (contents p.gtidExecuted) (contents p.gtidLost)

/-- Any steps of a link. -/
inductive LinkRun [RedisReplication] (redis : Redis) (link : ReplLink) : ReplLink → Prop
  | refl : LinkRun redis link link
  | step {link' link'' : ReplLink} (op : LinkOp) (rand : Rand) : LinkRun redis link link' →
      op.Valid redis link' → op.step redis link' rand = some link'' → LinkRun redis link link''

section Reconnect
variable {redis : Redis} {link link' : ReplLink} {p : PropagateServer} {r s' : Server} {k : Uuid}
  {E L : Finset (Uuid × Int)} {slave cont deltaLost : GtidSet} {sds : Sds} {conn : Connection}
  {rand : Rand} {b : Bool}

theorem LinkReachable.run [RedisReplication] (h : LinkReachable redis link)
    (hrun : LinkRun redis link link') :
    LinkReachable redis link' := by
  induction hrun with
  | refl => exact h
  | step op rand _ hv hstep ih => exact .step op rand ih hv hstep

/-- **The index of a master** has what the synchronization relies on. -/
theorem Serving.xsyncPair [RedisReplication] (h : Serving redis p) (hr : Unlinked r k E L) :
    XsyncPair p.toServer r p.uuid k (contents p.gtidExecuted) (contents p.gtidLost) E L := by
  have hinv := h.reachable.invariant
  refine ⟨Holding.self hinv.sets, hr.sets, h.disjoint, hr.disjoint, h.mode, hr.mode,
    fun seq hseq => (hinv.index seq hseq).1, fun seq hseq x hx => ?_, hr.state, hr.replid⟩
  obtain ⟨e, he, rfl⟩ := mem_gtids.mp hx
  exact ((hinv.index seq hseq).2 e he).1

/-- A master that has taken in what a replica has beyond it. -/
theorem Serving.updated [RedisReplication] (h : Serving redis p) (hdelta : RegularSet deltaLost)
    (hup : serverReplStreamUpdateXsync p.toServer deltaLost false none none (-1) rand =
      some (s', b)) :
    PropagateReachable redis { p with toServer := s' } ∧ s'.uuid = p.uuid := by
  have hop : (PropagateOp.stream (.updateFromReplica deltaLost)).step redis p rand =
      some ({ p with toServer := s' }, none) := by
    simp only [PropagateOp.step, StreamOp.step, hup, Option.map_some, Option.bind_eq_bind,
      Option.bind_some]
  obtain ⟨L₁, hold, -⟩ := serverReplStreamUpdateXsync_outcome
    (Holding.self h.reachable.invariant.sets) hdelta hup
  have hv : (PropagateOp.stream (.updateFromReplica deltaLost)).Valid redis p := ⟨trivial, hdelta⟩
  exact ⟨.step _ rand h.reachable hv h.room hop, hold.uuid⟩

/-- The master of the sample. -/
def sampleMaster (sets : ServerSets) (seq : GtidSeq) : PropagateServer :=
  ⟨indexedMaster sets seq, true, -1, -1⟩

section Sample
variable {before sets rsets : ServerSets} {seq : GtidSeq}

/-- It has created a backlog and propagated a write, whatever its stage before was. -/
theorem SampleExchange.serving_after (h : SampleExchange before sets rsets seq slave cont)
    (redis : Redis) (prev : ReplMode) :
    Serving redis { sampleMaster sets seq with prevReplMode := prev } := by
  let p₀ : PropagateServer :=
    ⟨{ masterServer before .xsync 100 0 with prevReplMode := prev }, true, -1, -1⟩
  let p₁ : PropagateServer := ⟨{ freshMaster before with prevReplMode := prev }, true, -1, -1⟩
  have hout : ∀ {s : Server}, ¬ PropagateServer.inMulti ⟨s, true, -1, -1⟩ :=
    fun {_} => (by decide : ¬ (0 : Int) ≤ -1)
  have hroom₀ : HasRoom p₀ := by
    refine ⟨(by decide : (100 : Int) < LLONG_MAX), ?_⟩
    show nextGno before.gtidExecuted before.uuid < LLONG_MAX
    rw [nextGno, if_pos h.start_curnext, h.start.executed_eq, h.start.uuid]
    decide
  have hroom₁ : HasRoom p₁ := hroom₀
  have hstart : PropagateReachable redis p₀ :=
    .start h.start.toSetsInvariant (by decide : (0 : Int) ≤ 100) hout rfl
  have hcreate : PropagateReachable redis p₁ :=
    .step (.stream .createBacklog) (fun _ => 0) hstart ⟨trivial, trivial⟩ hroom₀ rfl
  have huuid : before.uuid = [65] := h.start.uuid
  have hgtid : gtidRepr [65] 2 = some ([65] ++ colon :: longText 2) :=
    gtidRepr_eq [65] (by decide) (by decide)
  have hwrite : (PropagateOp.write .other 0 [[115]] 10).step redis p₁ (fun _ => 0) =
      some ({ sampleMaster sets seq with prevReplMode := prev },
        some ⟨.gtidCommand, [shared.gtid, [65] ++ colon :: longText 2, longText 0, [115]],
          some [65], 2, 101⟩) := by
    have hends : endsMulti .other [[115]] = some false := rfl
    have hafter : p₁.afterMulti false = p₁ := afterMulti_false
    have hown : propagatedGtid p₁ .other [[115]] = some (some p₁.uuid, 0) :=
      propagatedGtid_own _ (Or.inr (by decide))
    have hasIs : ¬ feedsAsIs p₁ .other := by
      simp only [feedsAsIs, not_or]
      exact ⟨Bool.false_ne_true, Bool.false_ne_true.symm, by decide, by decide, fun h => hout h.1⟩
    have halloc : allocateGno p₁.toServerSets (fun _ => 0) = some (sets, 2) := h.allocated
    have hfed : ctripReplicationFeedSlaves { p₁.toServer with toServerSets := sets }
        (some p₁.uuid) 2 (p₁.masterReplOffset + 1) 10 =
          some { indexedMaster sets seq with prevReplMode := prev } := by
      rw [show p₁.uuid = [65] from huuid]
      exact h.fed prev
    have hrepr : gtidRepr p₁.uuid 2 = some ([65] ++ colon :: longText 2) := by
      rw [show p₁.uuid = [65] from huuid, hgtid]
    simp only [PropagateOp.step, propagate, propagateArgsPrepareToFeed, leaveMulti_eq hends,
      hafter, hown, if_neg hasIs, halloc, hrepr, Option.bind_eq_bind, Option.bind_some]
    rw [if_neg (hout : ¬ p₁.inMulti), if_neg (hout : ¬ p₁.inMulti), hfed]
    rw [show p₁.uuid = [65] from huuid]
    rfl
  have hsets : (sampleMaster sets seq).uuid = [65] := h.master.uuid
  refine ⟨.step (.write .other 0 [[115]] 10) (fun _ => 0) hcreate ⟨by decide, by decide⟩ hroom₁ hwrite,
    ⟨(by decide : (110 : Int) < LLONG_MAX), ?_⟩, hout, ?_, rfl, ?_⟩
  · show nextGno sets.gtidExecuted sets.uuid < LLONG_MAX
    rw [nextGno, if_pos h.curnext, h.master.executed_eq, h.master.uuid]
    decide
  · show PlainUuid sets.uuid
    rw [h.master.uuid]
    exact ⟨by decide, by decide⟩
  · show Disjoint (contents sets.gtidExecuted) (contents sets.gtidLost)
    rw [h.master.lost_eq]
    exact Finset.disjoint_empty_right _

theorem SampleExchange.serving (h : SampleExchange before sets rsets seq slave cont) :
    Serving Redis.numeric (sampleMaster sets seq) :=
  h.serving_after Redis.numeric replModeInit

/-- A write of a master with the next gno new to it, which is in flight then. -/
theorem exists_writeRun (hreach : PropagateReachable Redis.numeric p) (hroom : HasRoom p)
    (hnew : (p.uuid, nextGno p.gtidExecuted p.uuid) ∉
      contents p.gtidExecuted ∪ contents p.gtidLost) (replica : ServerSets) :
    ∃ p' args, LinkRun Redis.numeric ⟨p, [], replica⟩ ⟨p', [args], replica⟩ := by
  have hv : (PropagateOp.write .other 0 [[115]] 10).Valid Redis.numeric p := ⟨by decide, by decide⟩
  have hplain : (PropagateOp.write .other 0 [[115]] 10).Plain Redis.numeric p :=
    ⟨le_refl 0, (by decide : (0 : Int) < 16),
      ⟨[115], ⟨[], -1, .other⟩, rfl, rfl, leavesSets_other rfl⟩, hnew⟩
  obtain ⟨p', args, hstep, -⟩ :=
    hreach.invariant.write Redis.numeric hv.1 hv.2 hroom 0 [[115]] (fun _ => 0)
  refine ⟨p', args, .step (.run (.write .other 0 [[115]] 10)) (fun _ => 0) .refl
    ⟨hv, hroom, hplain⟩ ?_⟩
  simp only [LinkOp.step, hstep, Option.bind_eq_bind, Option.bind_some, List.nil_append,
    Option.toList_some]

/-- The next gno of the sample is new. -/
theorem SampleExchange.next_new (h : SampleExchange before sets rsets seq slave cont) :
    (sets.uuid, nextGno sets.gtidExecuted sets.uuid) ∉
      contents sets.gtidExecuted ∪ contents sets.gtidLost := by
  rw [nextGno, if_pos h.curnext, h.master.executed_eq, h.master.lost_eq, h.master.uuid]
  decide

end Sample

end Reconnect

end XredisGtid
