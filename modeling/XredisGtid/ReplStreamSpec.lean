import XredisGtid.ReplStream
import XredisGtid.ServerRun

/-!
# What a transition of the stream does

One lemma for each of the resets, switches and updates says what it does if it
succeeds, and one says when it succeeds.  Installing gtid sets always succeeds, since a
set that has just been installed has no saved gno at or below an executed one.
-/
namespace XredisGtid
open Buffer KeyedIntervals

section Sets
variable {s s' : ServerSets} {t u : GtidSet} {uuid : Uuid} {E L : Finset (Uuid × Int)} {rand : Rand}

/-- A gno is saved only above the executed ones. -/
def SavedAbove (s : ServerSets) : Prop :=
  s.gtidExecuted.curnext ≠ 0 → maxGno (contents s.gtidExecuted) s.uuid < s.gtidExecuted.curnext

theorem maxGno_empty (uuid : Uuid) : maxGno ∅ uuid = 0 := rfl

/-- **The update of the next gno succeeds** on a set that has a gno saved only above the executed
ones.  It saves none if nothing is lost. -/
theorem updateNextGno_above (h : Holding s uuid E L) (habove : SavedAbove s) (rand : Rand) :
    ∃ s', serverGtidSetCurrrentUuidSetUpdateNextGno s rand = some s' ∧ Holding s' uuid E L ∧
      SavedAbove s' ∧ (L = ∅ → s.gtidExecuted.curnext = 0 → s'.gtidExecuted.curnext = 0) := by
  rw [SavedAbove, h.executed_eq, h.uuid] at habove
  have hL := h.lost_nonneg
  have hsaved := h.saved
  have hassert := updateAsserts_of_le (L := L) (fun hs => Int.le_of_lt (habove hs))
  obtain ⟨s', hrun, hold, hcur⟩ := updateNextGno_spec h hassert rand
  refine ⟨s', hrun, hold, ?_, fun hempty hzero => ?_⟩
  · rw [SavedAbove, hold.executed_eq, hold.uuid, hcur]
    split
    · next hlt =>
      have := hassert hlt
      intro _
      omega
    · exact habove
  · have hE := h.executed_nonneg
    rw [hcur, hzero, hempty, maxGno_empty, nextOf, if_pos rfl, if_neg (by omega)]

/-- A saved gno that is not below the next one passes the assertion of the update. -/
theorem updateNextGno_keeps (h : WellFormedHolding s uuid E L)
    (habove : s.gtidExecuted.curnext ≠ 0 → llong (maxGno E uuid + 1) ≤ s.gtidExecuted.curnext)
    (rand : Rand) :
    ∃ s', serverGtidSetCurrrentUuidSetUpdateNextGno s rand = some s' ∧
      WellFormedHolding s' uuid E L ∧
      (s'.gtidExecuted.curnext ≠ 0 →
        llong (maxGno E uuid + 1) ≤ s'.gtidExecuted.curnext) := by
  have hread : llong (maxGno E uuid + 1) ≤ readNext E s.gtidExecuted.curnext uuid := by
    rw [readNext]
    split
    · exact le_refl _
    · next hs => exact habove hs
  obtain ⟨s', hrun, hold, hcur⟩ := updateNextGno_wellFormed h
    (fun hlt => hread.trans hlt.le) rand
  refine ⟨s', hrun, hold, ?_⟩
  rw [hcur]
  split
  · next hlt => exact fun _ => hread.trans hlt.le
  · exact habove

/-- **Installing two sets**, whatever they are. -/
theorem serverGtidSetReset_wellFormed (h : WellFormedHolding s uuid E L) (ht : WellFormedSet t)
    (hu : WellFormedSet u) (rand : Rand) :
    ∃ s', serverGtidSetReset s t u rand = some s' ∧
      WellFormedHolding s' uuid (contents t) (contents u) := by
  obtain ⟨-, hL, -, rfl, -, rfl⟩ := h
  obtain ⟨t₁, hdup₁, ht₁, hes₁, hcur₁⟩ := dup_wellFormedSet ht
  obtain ⟨u₁, hdup₂, hu₁, hes₂, -⟩ := dup_wellFormedSet hu
  obtain ⟨t', hupdate, ht', htset, htcur⟩ := gtidSetCurrentUuidSetUpdate_wellFormed ht₁ s.uuid
  have hzero : t'.curnext = 0 := htcur.trans hcur₁
  have htset' : contents t' = contents t := htset.trans (congrArg pairs hes₁)
  have hold : WellFormedHolding { s with gtidExecuted := t' } s.uuid (contents t)
      (contents s.gtidLost) := ⟨ht', hL, hzero.ge, rfl, htset', rfl⟩
  obtain ⟨s₁, hrun₁, hold₁, habove₁⟩ :=
    updateNextGno_keeps hold (fun hs => absurd hzero hs) (rand.sub 0)
  have hold₁' : WellFormedHolding { s₁ with gtidLost := u₁ } s.uuid (contents t) (contents u) :=
    ⟨hold₁.executed, hu₁, hold₁.saved, hold₁.uuid, hold₁.executed_eq, congrArg pairs hes₂⟩
  obtain ⟨s₂, hrun₂, hold₂, -⟩ := updateNextGno_keeps hold₁' habove₁ (rand.sub 1)
  refine ⟨s₂, ?_, hold₂⟩
  simp only [serverGtidSetReset, serverGtidSetResetExecuted, serverGtidSetResetLost, hdup₁, hdup₂,
    hupdate, hrun₁, hrun₂, Option.bind_eq_bind, Option.bind_some]

/-- **Installing two sets.** -/
theorem serverGtidSetReset_spec (h : Holding s uuid E L) (ht : RegularSet t) (hu : RegularSet u)
    (rand : Rand) :
    ∃ s', serverGtidSetReset s t u rand = some s' ∧ Holding s' uuid (contents t) (contents u) ∧
      SavedAbove s' ∧ (L = ∅ → contents u = ∅ → s'.gtidExecuted.curnext = 0) := by
  obtain ⟨t₁, hdup₁, ht₁, hes₁, hcur₁⟩ := dup_wellFormedSet ht.toWellFormedSet
  obtain ⟨u₁, hdup₂, hu₁, hset₂⟩ := dup_regularSet hu
  have hset₁ : contents t₁ = contents t := congrArg pairs hes₁
  obtain ⟨t', hupdate, hzero, hold⟩ := resetExecuted_holding h (ht.of_contents ht₁ hset₁) hcur₁
  obtain ⟨s₁, hrun₁, hold₁, habove₁, hunsaved₁⟩ := updateNextGno_above hold
    (fun hs => absurd hzero hs) (rand.sub 0)
  obtain ⟨s₂, hrun₂, hold₂, habove₂, hunsaved₂⟩ :=
    updateNextGno_above (hold₁.setLost hu₁) habove₁ (rand.sub 1)
  refine ⟨s₂, ?_, hset₁ ▸ hset₂ ▸ hold₂, habove₂, fun hL hempty =>
    hunsaved₂ (hset₂.trans hempty) (hunsaved₁ hL hzero)⟩
  simp only [serverGtidSetReset, serverGtidSetResetExecuted, serverGtidSetResetLost, hdup₁, hdup₂,
    hupdate, hrun₁, hrun₂, Option.bind_eq_bind, Option.bind_some]

end Sets

/-! ## Transitions of the repl mode -/

/-- The backlog has been emptied and so has the index. -/
structure EmptiedBacklog (s s' : Server) : Prop where
  backlog : s'.replBacklog =
    if s.replBacklog.created then s.replBacklog.create s'.masterReplOffset else s.replBacklog
  seq : s'.gtidSeq = s.gtidSeq.map (fun _ => gtidSeqCreate)

structure Switched2Psync (s : Server) (id : Bytes) (reploff : Int) (s' : Server) : Prop where
  was : s.replMode.mode = .xsync
  nonneg : 0 ≤ reploff
  mode : s'.replMode.mode = .psync
  «from» : s'.replMode.from = reploff + 1
  prevMode : s'.prevReplMode.mode = .xsync
  prevFrom : s'.prevReplMode.from = s.replMode.from
  prevReplid : s'.prevReplMode.replid = s.replid
  /-- The delta has been set to that of the new stage before the old one is saved. -/
  prevDelta : s'.prevReplMode.gtidReploffDelta = 0
  replid : s'.replid = id
  offset : s'.masterReplOffset = reploff
  delta : s'.gtidReploffDelta = 0
  sets : s'.toServerSets = s.toServerSets
  kept : s.masterReplOffset = reploff →
    s'.replBacklog = s.replBacklog ∧ s'.gtidSeq = s.gtidSeq
  emptied : s.masterReplOffset ≠ reploff → EmptiedBacklog s s'

structure Switched2Xsync (s : Server) (id : Bytes) (reploff : Int) (s' : Server) : Prop where
  was : s.replMode.mode = .psync
  wasDelta : s.gtidReploffDelta = 0
  mode : s'.replMode.mode = .xsync
  «from» : s'.replMode.from = s.masterReplOffset + 1
  prevMode : s'.prevReplMode.mode = .psync
  prevFrom : s'.prevReplMode.from = s.replMode.from
  prevReplid : s'.prevReplMode.replid = s.replid
  replid : s'.replid = id
  offset : s'.masterReplOffset = s.masterReplOffset
  delta : s'.gtidReploffDelta = reploff - s.masterReplOffset
  backlog : s'.replBacklog = s.replBacklog
  seq : s'.gtidSeq = s.gtidSeq.map (fun _ => gtidSeqCreate)

structure Reset2Psync (s : Server) (id : Bytes) (reploff : Int) (s' : Server) : Prop where
  nonneg : 0 ≤ reploff
  mode : s'.replMode.mode = .psync
  «from» : s'.replMode.from = s'.masterReplOffset + 1
  prevMode : s'.prevReplMode.mode = .unset
  replid : s'.replid = id
  offset : s'.masterReplOffset = reploff
  delta : s'.gtidReploffDelta = 0
  sets : s'.toServerSets = s.toServerSets
  emptied : EmptiedBacklog s s'

structure Reset2Xsync (s : Server) (replid : Option Bytes) (reploff : Int) (s' : Server) : Prop where
  mode : s'.replMode.mode = .xsync
  «from» : s'.replMode.from = s'.masterReplOffset + 1
  prevMode : s'.prevReplMode.mode = .unset
  replid : ∀ id, replid = some id → s'.replid = id
  offset : 0 ≤ reploff → s'.masterReplOffset = reploff
  /-- The delta of the stage before stays. -/
  delta : s'.gtidReploffDelta = s.gtidReploffDelta
  masterhost : s'.masterhost = s.masterhost
  emptied : EmptiedBacklog s s'

/-- Nothing but the sets, the delta and the names of the master and of the stream has changed. -/
structure UpdatedXsync (s s' : Server) : Prop where
  replMode : s'.replMode = s.replMode
  prevReplMode : s'.prevReplMode = s.prevReplMode
  offset : s'.masterReplOffset = s.masterReplOffset
  backlog : s'.replBacklog = s.replBacklog
  seq : s'.gtidSeq = s.gtidSeq
  interested : s'.gtidUuidInterested = s.gtidUuidInterested
  maxgap : s'.gtidXsyncMaxGap = s.gtidXsyncMaxGap

section Transitions
variable {s s' : Server} {replid masterUuid : Option Bytes} {id : Bytes} {reploff : Int}
  {mode : Mode} {t u : GtidSet} {E L : Finset (Uuid × Int)} {rand : Rand}

theorem shiftServerReplMode_some (h : shiftServerReplMode s mode = some s') :
    s.replMode.mode ≠ .unset ∧ s.replMode.mode ≠ mode ∧ s' = { s with
      prevReplMode := savedReplMode s mode
      replMode := { s.replMode with «from» := s.masterReplOffset + 1, mode := mode } } := by
  simp only [shiftServerReplMode, Option.bind_eq_bind, Option.bind_eq_some_iff,
    Option.guard_eq_some', exists_const] at h
  exact ⟨h.1.1, h.1.2, (Option.some.inj h.2).symm⟩

theorem ctripSetMasterReploff_some (h : ctripSetMasterReploff s reploff = some s') :
    (s.replMode.mode = .xsync ∨ reploff = s.masterReplOffset) ∧
      s' = { s with gtidReploffDelta := reploff - s.masterReplOffset } := by
  simp only [ctripSetMasterReploff, Option.bind_eq_bind, Option.bind_eq_some_iff,
    Option.guard_eq_some', exists_const] at h
  exact ⟨h.1, (Option.some.inj h.2).symm⟩

/-- **The switch to psync.** -/
theorem serverReplStreamSwitch2Psync_some [RedisReplication]
    (h : serverReplStreamSwitch2Psync s replid reploff = some s') :
    ∃ id, replid = some id ∧ Switched2Psync s id reploff s' := by
  simp only [serverReplStreamSwitch2Psync, clearReplicationId2_eq, Option.bind_eq_bind, Option.bind_eq_some_iff,
    Option.guard_eq_some', exists_const] at h
  obtain ⟨hmode, -, id, hid, hnonneg, s₁, hset, hdelta, s₂, hshift, heq⟩ := h
  obtain ⟨-, rfl⟩ := ctripSetMasterReploff_some hset
  obtain ⟨-, -, rfl⟩ := shiftServerReplMode_some hshift
  obtain rfl := Option.some.inj heq
  refine ⟨id, hid, ?_⟩
  by_cases hoff : s.masterReplOffset = reploff
  · have hbump : bumpMasterReplOffset s reploff = s := if_neg (not_not.mpr hoff)
    simp only [hbump] at hdelta ⊢
    exact ⟨hmode, hnonneg, rfl, congrArg (· + 1) hoff, hmode, rfl, rfl, hdelta, rfl, hoff, hdelta,
      rfl, fun _ => ⟨rfl, rfl⟩, fun h => absurd hoff h⟩
  · have hbump : bumpMasterReplOffset s reploff =
        ctripResetReplicationBacklog { s with masterReplOffset := reploff } := if_pos hoff
    simp only [hbump] at hdelta ⊢
    exact ⟨hmode, hnonneg, rfl, rfl, hmode, rfl, rfl, hdelta, rfl, rfl, hdelta, rfl,
      fun h => absurd h hoff, fun _ => ⟨rfl, rfl⟩⟩

/-- **The switch to xsync** installs the two sets. -/
theorem serverReplStreamSwitch2Xsync_some [RedisReplication]
    (h : serverReplStreamSwitch2Xsync s replid reploff masterUuid t u rand = some s') :
    ∃ id, replid = some id ∧ Switched2Xsync s id reploff s' ∧
      serverGtidSetReset s.toServerSets t u rand = some s'.toServerSets := by
  simp only [serverReplStreamSwitch2Xsync, clearReplicationId2_eq,
    replicationDiscardCachedMaster_eq, Option.bind_eq_bind, Option.bind_eq_some_iff,
    Option.guard_eq_some', exists_const] at h
  obtain ⟨hmode, hdelta, s₁, hshift, id, hid, s₂, hset, uuid, huuid, sets, hsets, heq⟩ := h
  obtain ⟨-, -, rfl⟩ := shiftServerReplMode_some hshift
  obtain ⟨-, rfl⟩ := ctripSetMasterReploff_some hset
  obtain rfl := Option.some.inj heq
  exact ⟨id, hid, ⟨hmode, hdelta, rfl, rfl, hmode, rfl, rfl, rfl, rfl, rfl, rfl, rfl⟩, hsets⟩

theorem serverReplStreamReset2Psync_some [RedisReplication]
    (h : serverReplStreamReset2Psync s replid reploff = some s') :
    ∃ id, replid = some id ∧ Reset2Psync s id reploff s' := by
  simp only [serverReplStreamReset2Psync, clearReplicationId2_eq, Option.bind_eq_bind, Option.bind_eq_some_iff,
    Option.guard_eq_some', exists_const] at h
  obtain ⟨id, hid, hnonneg, heq⟩ := h
  obtain rfl := Option.some.inj heq
  exact ⟨id, hid, hnonneg, rfl, rfl, rfl, rfl, rfl, rfl, rfl, ⟨rfl, rfl⟩⟩

theorem serverReplStreamReset2Xsync_some [RedisReplication] {newReplid : Bytes}
    (h : serverReplStreamReset2Xsync s replid reploff masterUuid t u newReplid rand = some s') :
    Reset2Xsync s replid reploff s' ∧
      serverGtidSetReset s.toServerSets t u rand = some s'.toServerSets := by
  simp only [serverReplStreamReset2Xsync, clearReplicationId2_eq, Option.bind_eq_bind, Option.bind_eq_some_iff] at h
  obtain ⟨sets, hsets, heq⟩ := h
  obtain rfl := Option.some.inj heq
  have hoff : 0 ≤ reploff → (if reploff ≥ 0 then reploff else s.masterReplOffset) = reploff :=
    fun h => if_pos h
  have hid : ∀ id, replid = some id → replid.getD newReplid = id := by
    rintro id rfl
    rfl
  cases masterUuid with
  | none => exact ⟨⟨rfl, rfl, rfl, hid, hoff, rfl, rfl, ⟨rfl, rfl⟩⟩, hsets⟩
  | some uuid => exact ⟨⟨rfl, rfl, rfl, hid, hoff, rfl, rfl, ⟨rfl, rfl⟩⟩, hsets⟩

/-! ## Updates -/

theorem updateLost_some {b : Bool} (h : updateLost s t rand = some (s', b)) :
    s' = s.setSets s'.toServerSets ∧
      (gtidSetCount t ≠ 0 ∧ serverGtidSetAddLost s.toServerSets t rand = some s'.toServerSets ∨
        gtidSetCount t = 0 ∧ s' = s) := by
  rw [updateLost] at h
  split at h
  · next hcount =>
    simp only [Option.bind_eq_bind, Option.bind_eq_some_iff, Option.some.injEq,
      Prod.mk.injEq] at h
    obtain ⟨sets, hadd, rfl, -⟩ := h
    exact ⟨rfl, .inl ⟨hcount, hadd⟩⟩
  · next hcount =>
    obtain ⟨rfl, -⟩ := Prod.mk.inj (Option.some.inj h)
    exact ⟨rfl, .inr ⟨not_not.mp hcount, rfl⟩⟩

theorem updateMasterUuid_some {fromMaster b : Bool}
    (h : updateMasterUuid s fromMaster mode masterUuid = some (s', b)) :
    s' = { s with masterUuid := s'.masterUuid } := by
  cases masterUuid with
  | none =>
    obtain ⟨rfl, -⟩ := Prod.mk.inj (Option.some.inj h)
    rfl
  | some uuid =>
    rw [updateMasterUuid] at h
    split at h
    · simp only [Option.bind_eq_bind, Option.bind_eq_some_iff, Option.guard_eq_some',
        exists_const, Option.some.injEq, Prod.mk.injEq] at h
      obtain ⟨-, rfl, -⟩ := h
      rfl
    · obtain ⟨rfl, -⟩ := Prod.mk.inj (Option.some.inj h)
      rfl

/-- An id of the right length replaces the old one. -/
theorem updateReplid_some {fromMaster b : Bool}
    (h : updateReplid s fromMaster mode replid = some (s', b)) :
    s' = { s with replid := s'.replid } ∧
      ∀ id, replid = some id → id.length = s.replid.length → s'.replid = id := by
  cases replid with
  | none =>
    obtain ⟨rfl, -⟩ := Prod.mk.inj (Option.some.inj h)
    exact ⟨rfl, fun id hid => nomatch hid⟩
  | some id =>
    rw [updateReplid] at h
    split at h
    · simp only [Option.bind_eq_bind, Option.bind_eq_some_iff, Option.guard_eq_some',
        exists_const, Option.some.injEq, Prod.mk.injEq] at h
      obtain ⟨-, rfl, -⟩ := h
      refine ⟨rfl, ?_⟩
      rintro id' hid hlen
      obtain rfl := Option.some.inj hid
      show overwrite s.replid id = id
      rw [overwrite, hlen, List.drop_length, List.append_nil]
    · next heq =>
      obtain ⟨rfl, -⟩ := Prod.mk.inj (Option.some.inj h)
      refine ⟨rfl, ?_⟩
      rintro id' hid hlen
      obtain rfl := Option.some.inj hid
      rw [← not_not.mp heq, hlen, List.take_length]

theorem updateReploff_some {fromMaster b : Bool}
    (h : updateReploff s fromMaster mode reploff = some (s', b)) :
    s' = { s with gtidReploffDelta := s'.gtidReploffDelta } ∧
      (0 ≤ reploff → s'.masterReplOffset + s'.gtidReploffDelta = reploff) ∧
      (s'.gtidReploffDelta ≠ s.gtidReploffDelta → mode = .xsync) := by
  simp only [updateReploff, ctripGetMasterReploff, Option.bind_eq_bind, Option.bind_eq_some_iff,
    Option.guard_eq_some', exists_const, Option.some.injEq] at h
  obtain ⟨myreploff, ⟨-, rfl⟩, h⟩ := h
  split at h
  · simp only [Option.bind_eq_some_iff, Option.guard_eq_some', exists_const, Option.some.injEq,
      Prod.mk.injEq] at h
    obtain ⟨⟨-, hmode⟩, s₁, hset, rfl, -⟩ := h
    obtain ⟨-, rfl⟩ := ctripSetMasterReploff_some hset
    refine ⟨rfl, fun _ => ?_, fun _ => hmode⟩
    dsimp only
    omega
  · obtain ⟨rfl, -⟩ := Prod.mk.inj (Option.some.inj h)
    refine ⟨rfl, fun _ => by omega, fun hne => absurd rfl hne⟩

/-- **The update of an xsync stream.** -/
theorem serverReplStreamUpdateXsync_some {fromMaster b : Bool}
    (h : serverReplStreamUpdateXsync s t fromMaster masterUuid replid reploff rand =
      some (s', b)) :
    UpdatedXsync s s' ∧
      (∃ s₁ b₁, updateLost s t rand = some (s₁, b₁) ∧ s'.toServerSets = s₁.toServerSets) ∧
      (∀ id, replid = some id → id.length = s.replid.length → s'.replid = id) ∧
      (0 ≤ reploff → s'.masterReplOffset + s'.gtidReploffDelta = reploff) ∧
      (s'.gtidReploffDelta ≠ s.gtidReploffDelta → s.replMode.mode = .xsync) := by
  simp only [serverReplStreamUpdateXsync, Option.bind_eq_bind, Option.bind_eq_some_iff,
    Prod.exists, Option.some.injEq, Prod.mk.injEq] at h
  obtain ⟨s₁, b₁, hlost, s₂, b₂, huuid, s₃, b₃, hid, s₄, b₄, hoff, rfl, -⟩ := h
  have h₁ := (updateLost_some hlost).1
  have h₂ := updateMasterUuid_some huuid
  obtain ⟨h₃, hreplid⟩ := updateReplid_some hid
  obtain ⟨h₄, halign, hdelta⟩ := updateReploff_some hoff
  refine ⟨?_, ⟨s₁, b₁, hlost, ?_⟩, ?_, halign, ?_⟩
  · rw [h₄, h₃, h₂, h₁]
    exact ⟨rfl, rfl, rfl, rfl, rfl, rfl, rfl⟩
  · rw [h₄, h₃, h₂]
  · intro id hsome hlen
    rw [h₄]
    exact hreplid id hsome (by rw [h₂, h₁]; exact hlen)
  · intro hne
    apply hdelta
    intro heq
    apply hne
    rw [heq, h₃, h₂, h₁]
    rfl

/-! ## When they succeed -/

theorem bumpMasterReplOffset_offset (s : Server) (reploff : Int) :
    (bumpMasterReplOffset s reploff).masterReplOffset = reploff ∧
      (bumpMasterReplOffset s reploff).replMode = s.replMode := by
  by_cases hoff : s.masterReplOffset = reploff
  · rw [bumpMasterReplOffset, if_neg (not_not.mpr hoff)]
    exact ⟨hoff, rfl⟩
  · rw [bumpMasterReplOffset, if_pos hoff]
    exact ⟨rfl, rfl⟩

theorem shiftServerReplMode_eq (h : s.replMode.mode ≠ .unset ∧ s.replMode.mode ≠ mode) :
    shiftServerReplMode s mode = some { s with
      prevReplMode := savedReplMode s mode
      replMode := { s.replMode with «from» := s.masterReplOffset + 1, mode := mode } } := by
  rw [shiftServerReplMode, guard, if_pos h]
  rfl

theorem ctripGetMasterReploff_eq (h : s.replMode.mode = .xsync ∨ s.gtidReploffDelta = 0) :
    ctripGetMasterReploff s = some (s.masterReplOffset + s.gtidReploffDelta) := by
  rw [ctripGetMasterReploff, guard, if_pos h]
  rfl

theorem ctripSetMasterReploff_eq (h : s.replMode.mode = .xsync ∨ reploff = s.masterReplOffset) :
    ctripSetMasterReploff s reploff =
      some { s with gtidReploffDelta := reploff - s.masterReplOffset } := by
  rw [ctripSetMasterReploff, guard, if_pos h]
  rfl

/-- Without a master the switch to psync succeeds at every offset. -/
theorem serverReplStreamSwitch2Psync_isSome [RedisReplication] (hmode : s.replMode.mode = .xsync)
    (hmaster : ¬ s.master ∧ ¬ s.cachedMaster) (hreploff : 0 ≤ reploff) (id : Bytes) :
    ∃ s', serverReplStreamSwitch2Psync s (some id) reploff = some s' := by
  obtain ⟨hoff, hsame⟩ := bumpMasterReplOffset_offset s reploff
  have hset : (bumpMasterReplOffset s reploff).replMode.mode = .xsync := by rw [hsame, hmode]
  have hdelta : reploff - (bumpMasterReplOffset s reploff).masterReplOffset = 0 := by
    rw [hoff, Int.sub_self]
  simp only [serverReplStreamSwitch2Psync, clearReplicationId2_eq, Option.bind_eq_bind, Option.bind_eq_some_iff,
    Option.guard_eq_some', exists_const]
  refine ⟨_, hmode, hmaster, id, rfl, hreploff, _, ctripSetMasterReploff_eq (Or.inl hset), hdelta,
    _, shiftServerReplMode_eq ⟨?_, ?_⟩, rfl⟩
  · exact fun h => nomatch hset.symm.trans h
  · exact fun h => nomatch hset.symm.trans h

/-- The switch to xsync succeeds when the two sets can be installed. -/
theorem serverReplStreamSwitch2Xsync_isSome [RedisReplication] (hmode : s.replMode.mode = .psync)
    (hdelta : s.gtidReploffDelta = 0) (id uuid : Bytes) (reploff : Int) {sets : ServerSets}
    (hsets : serverGtidSetReset s.toServerSets t u rand = some sets) :
    ∃ s', serverReplStreamSwitch2Xsync s (some id) reploff (some uuid) t u rand = some s' := by
  simp only [serverReplStreamSwitch2Xsync, clearReplicationId2_eq,
    replicationDiscardCachedMaster_eq, Option.bind_eq_bind, Option.bind_eq_some_iff,
    Option.guard_eq_some', exists_const]
  refine ⟨_, hmode, hdelta, _, shiftServerReplMode_eq ⟨?_, ?_⟩, id, rfl, _,
    ctripSetMasterReploff_eq (Or.inl rfl), uuid, rfl, sets, hsets, rfl⟩
  · exact fun h => nomatch hmode.symm.trans h
  · exact fun h => nomatch hmode.symm.trans h

theorem serverReplStreamReset2Xsync_isSome [RedisReplication] (replid masterUuid : Option Bytes)
    (reploff : Int) (newReplid : Bytes) {sets : ServerSets}
    (hsets : serverGtidSetReset s.toServerSets t u rand = some sets) :
    ∃ s', serverReplStreamReset2Xsync s replid reploff masterUuid t u newReplid rand = some s' := by
  simp only [serverReplStreamReset2Xsync, clearReplicationId2_eq, Option.bind_eq_bind, Option.bind_eq_some_iff]
  cases masterUuid with
  | none => exact ⟨_, sets, hsets, rfl⟩
  | some uuid => exact ⟨_, sets, hsets, rfl⟩

theorem updateMasterUuid_isSome {fromMaster : Bool}
    (h : masterUuid = none ∨ fromMaster ∧ mode = .xsync) :
    ∃ r, updateMasterUuid s fromMaster mode masterUuid = some r := by
  cases masterUuid with
  | none => exact ⟨_, rfl⟩
  | some uuid =>
    have hmaster := h.resolve_left (by simp)
    rw [updateMasterUuid]
    split
    · simp only [Option.bind_eq_bind, Option.bind_eq_some_iff, Option.guard_eq_some',
        exists_const]
      exact ⟨_, hmaster, rfl⟩
    · exact ⟨_, rfl⟩

theorem updateReplid_isSome {fromMaster : Bool}
    (h : replid = none ∨ fromMaster ∧ mode = .xsync) :
    ∃ r, updateReplid s fromMaster mode replid = some r := by
  cases replid with
  | none => exact ⟨_, rfl⟩
  | some id =>
    have hmaster := h.resolve_left (by simp)
    rw [updateReplid]
    split
    · simp only [Option.bind_eq_bind, Option.bind_eq_some_iff, Option.guard_eq_some',
        exists_const]
      exact ⟨_, hmaster, rfl⟩
    · exact ⟨_, rfl⟩

theorem updateReploff_isSome {fromMaster : Bool}
    (hget : s.replMode.mode = .xsync ∨ s.gtidReploffDelta = 0)
    (h : reploff < 0 ∨ fromMaster ∧ mode = .xsync ∧ s.replMode.mode = .xsync) :
    ∃ r, updateReploff s fromMaster mode reploff = some r := by
  simp only [updateReploff, ctripGetMasterReploff_eq hget, Option.bind_eq_bind, Option.bind_some]
  split
  · obtain ⟨hfrom, hmode, hset⟩ := h.resolve_left (by omega)
    simp only [ctripSetMasterReploff_eq (Or.inl hset), guard, if_pos (And.intro hfrom hmode),
      Option.pure_def, Option.bind_some]
    exact ⟨_, rfl⟩
  · exact ⟨_, rfl⟩

/-- The update succeeds when its part about the lost set does, if the other parts come from the
master in xsync mode. -/
theorem serverReplStreamUpdateXsync_isSome {fromMaster : Bool} {r : Server × Bool}
    (hlost : updateLost s t rand = some r)
    (hget : s.replMode.mode = .xsync ∨ s.gtidReploffDelta = 0)
    (h : masterUuid = none ∧ replid = none ∧ reploff < 0 ∨
      fromMaster ∧ s.replMode.mode = .xsync) :
    ∃ s' b, serverReplStreamUpdateXsync s t fromMaster masterUuid replid reploff rand =
      some (s', b) := by
  obtain ⟨s₁, b₁⟩ := r
  obtain ⟨⟨s₂, b₂⟩, huuid⟩ : ∃ r, updateMasterUuid s₁ fromMaster s.replMode.mode masterUuid =
      some r := updateMasterUuid_isSome (h.imp And.left id)
  obtain ⟨⟨s₃, b₃⟩, hid⟩ : ∃ r, updateReplid s₂ fromMaster s.replMode.mode replid = some r :=
    updateReplid_isSome (h.imp (fun h => h.2.1) id)
  have h₁ := (updateLost_some hlost).1
  have h₂ := updateMasterUuid_some huuid
  have h₃ := (updateReplid_some hid).1
  have hmode : s₃.replMode = s.replMode := by
    rw [h₃, h₂, h₁]
    rfl
  have hdelta : s₃.gtidReploffDelta = s.gtidReploffDelta := by
    rw [h₃, h₂, h₁]
    rfl
  obtain ⟨⟨s₄, b₄⟩, hoff⟩ : ∃ r, updateReploff s₃ fromMaster s.replMode.mode reploff = some r :=
    updateReploff_isSome (hmode ▸ hdelta ▸ hget)
      (h.imp (fun h => h.2.2) (fun h => ⟨h.1, h.2, hmode ▸ h.2⟩))
  exact ⟨s₄, _, by simp only [serverReplStreamUpdateXsync, hlost, huuid, hid, hoff,
    Option.bind_eq_bind, Option.bind_some]; rfl⟩

/-- Without lost gtids the request of a replica changes nothing. -/
theorem serverReplStreamUpdateXsync_nop (hcount : gtidSetCount t = 0)
    (hget : s.replMode.mode = .xsync ∨ s.gtidReploffDelta = 0) (rand : Rand) :
    serverReplStreamUpdateXsync s t false none none (-1) rand = some (s, false) := by
  have hlost : updateLost s t rand = some (s, false) := if_neg (not_not.mpr hcount)
  have hoff : updateReploff s false s.replMode.mode (-1) = some (s, false) := by
    simp only [updateReploff, ctripGetMasterReploff_eq hget, Option.bind_eq_bind, Option.bind_some]
    exact if_neg (fun h => absurd h.1 (by decide))
  simp only [serverReplStreamUpdateXsync, hlost, updateMasterUuid, updateReplid, hoff,
    Option.bind_eq_bind, Option.bind_some, Bool.or_self]

end Transitions

end XredisGtid
