import XredisGtid.ServerMutators
import XredisGtid.SyncSpec

/-!
# The identity a master's reply installs

An XCONTINUE reply has the uuid of the master, the id of its stream and an offset, and the
replica takes them over.  The id and the offset are taken over as they are.  The bytes of
the uuid are, but not their number, `masterUuidLen`: with a uuid of another length than the
one before, the replica has a name that is none of both, and updates it at every reply.
-/
namespace XredisGtid
open Buffer

/-- A replica with the identity of a reply. -/
structure Identified (s : Server) (masterUuid replid : Bytes) (reploff : Int) : Prop where
  uuid : getMasterUuid s = masterUuid
  replid : s.replid = replid
  reploff : ctripGetMasterReploff s = some reploff

/-- A reply with nothing lost finds nothing to update. -/
def Settled (s : Server) (masterUuid replid : Bytes) (reploff : Int) : Prop :=
  ∀ deltaLost rand, gtidSetCount deltaLost = 0 →
    serverReplStreamUpdateXsync s deltaLost true (some masterUuid) (some replid) reploff rand =
      some (s, false)

/-- A replica in xsync mode, whose arrays have room for a uuid and hold an id. -/
structure XsyncReplica (s : Server) : Prop where
  mode : s.replMode.mode = .xsync
  masterhost : s.masterhost = true
  room : CONFIG_RUN_ID_SIZE ≤ s.masterUuid.length
  uuidLen : 1 ≤ s.masterUuidLen ∧ s.masterUuidLen ≤ CONFIG_RUN_ID_SIZE
  replid : s.replid.length = CONFIG_RUN_ID_SIZE

section Update
variable {s s₁ s' : Server} {t : GtidSet} {uuid id : Bytes} {reploff : Int} {b : Bool} {rand : Rand}

theorem XsyncReplica.getMasterUuid_eq (h : XsyncReplica s) :
    getMasterUuid s = s.masterUuid.take s.masterUuidLen := if_pos h.masterhost

theorem XsyncReplica.getMasterUuid_length (h : XsyncReplica s) :
    (getMasterUuid s).length = s.masterUuidLen := by
  have hroom := h.room
  have hlen := h.uuidLen.2
  rw [h.getMasterUuid_eq, List.length_take]
  omega

/-- The bytes of the uuid are taken over, and count if there are as many as before. -/
theorem updateMasterUuid_installs (hlen : uuid.length ≤ s.masterUuid.length)
    (h : updateMasterUuid s true .xsync (some uuid) = some (s', b)) :
    s' = { s with masterUuid := s'.masterUuid } ∧
      s'.masterUuid.length = s.masterUuid.length ∧
      (uuid.length = s.masterUuidLen → s'.masterUuid.take s.masterUuidLen = uuid) := by
  refine ⟨updateMasterUuid_some h, ?_⟩
  rw [updateMasterUuid] at h
  split at h
  · simp only [Option.bind_eq_bind, Option.bind_eq_some_iff, Option.guard_eq_some',
      exists_const, Option.some.injEq, Prod.mk.injEq] at h
    obtain ⟨-, rfl, -⟩ := h
    dsimp only
    rw [overwrite]
    refine ⟨?_, fun heq => ?_⟩
    · rw [List.length_append, List.length_drop]
      omega
    · exact List.take_left' heq
  · next hsame =>
    obtain ⟨rfl, -⟩ := Prod.mk.inj (Option.some.inj h)
    refine ⟨rfl, fun heq => ?_⟩
    have hbytes := not_not.mp (fun hne => hsame (Or.inr hne))
    rw [← hbytes, ← heq, List.take_length]

/-- **The update.**  What it installs. -/
theorem serverReplStreamUpdateXsync_installs (h : XsyncReplica s) (huuid : uuid.length ≤ CONFIG_RUN_ID_SIZE)
    (hid : id.length = CONFIG_RUN_ID_SIZE) (hoff : 0 ≤ reploff)
    (hrun : serverReplStreamUpdateXsync s t true (some uuid) (some id) reploff rand =
      some (s', b)) :
    XsyncReplica s' ∧ s'.masterUuidLen = s.masterUuidLen ∧ s'.replid = id ∧
      ctripGetMasterReploff s' = some reploff ∧
      (uuid.length = s.masterUuidLen → getMasterUuid s' = uuid) := by
  obtain ⟨hup, -, hreplid, halign, -⟩ := serverReplStreamUpdateXsync_some hrun
  have hmode' : s'.replMode.mode = .xsync := hup.replMode ▸ h.mode
  have hreplid' : s'.replid = id := hreplid id rfl (hid.trans h.replid.symm)
  simp only [serverReplStreamUpdateXsync, Option.bind_eq_bind, Option.bind_eq_some_iff,
    Prod.exists, Option.some.injEq, Prod.mk.injEq] at hrun
  obtain ⟨s₁, b₁, hlost, s₂, b₂, hmaster, s₃, b₃, hupid, s₄, b₄, hupoff, rfl, -⟩ := hrun
  have h₁ := (updateLost_some hlost).1
  have h₃ := (updateReplid_some hupid).1
  have h₄ := (updateReploff_some hupoff).1
  -- the name of the master is the one after the second part
  have hroom₁ : uuid.length ≤ s₁.masterUuid.length := by
    rw [h₁]
    exact le_trans huuid h.room
  rw [h.mode] at hmaster
  obtain ⟨h₂, hsize, hbytes⟩ := updateMasterUuid_installs hroom₁ hmaster
  have hname : s₄.masterUuid = s₂.masterUuid := by rw [h₄, h₃]
  have hlen : s₄.masterUuidLen = s.masterUuidLen := by rw [h₄, h₃, h₂, h₁]; rfl
  have hlen₁ : s₁.masterUuidLen = s.masterUuidLen := by rw [h₁]; rfl
  have hhost : s₄.masterhost = true := by
    rw [h₄, h₃, h₂, h₁]
    exact h.masterhost
  have hreplica : XsyncReplica s₄ := by
    refine ⟨hmode', hhost, ?_, hlen ▸ h.uuidLen, by rw [hreplid', hid]⟩
    rw [hname, hsize, h₁]
    exact h.room
  refine ⟨hreplica, hlen, hreplid', ?_, fun heq => ?_⟩
  · rw [ctripGetMasterReploff_eq (Or.inl hmode'), halign hoff]
  · rw [hreplica.getMasterUuid_eq, hname, hlen, ← hlen₁]
    exact hbytes (heq.trans hlen₁.symm)

/-- With the identity of the reply there is nothing to update. -/
theorem Identified.settled (h : Identified s uuid id reploff) (hs : XsyncReplica s) :
    Settled s uuid id reploff := by
  intro deltaLost rand hcount
  have hlen := hs.getMasterUuid_length
  have hname := hs.getMasterUuid_eq
  rw [h.uuid] at hlen hname
  have hlost : updateLost s deltaLost rand = some (s, false) := if_neg (not_not.mpr hcount)
  have hmaster : updateMasterUuid s true s.replMode.mode (some uuid) = some (s, false) := by
    apply if_neg
    rintro (hne | hne)
    · exact hne hlen
    · exact hne (by rw [← hlen, List.take_length, hlen]; exact hname)
  have hupid : updateReplid s true s.replMode.mode (some id) = some (s, false) := by
    apply if_neg
    rw [not_not, ← h.replid, List.take_length]
  have hupoff : updateReploff s true s.replMode.mode reploff = some (s, false) := by
    rw [updateReploff, h.reploff, Option.bind_eq_bind, Option.bind_some]
    exact if_neg (fun hne => hne.2 rfl)
  simp only [serverReplStreamUpdateXsync, hlost, hmaster, hupid, hupoff, Option.bind_eq_bind,
    Option.bind_some, Bool.or_self]

/-- With a length that is not the one recorded the uuid is updated each time. -/
theorem serverReplStreamUpdateXsync_updates (hlen : uuid.length ≠ s.masterUuidLen)
    (hrun : serverReplStreamUpdateXsync s t true (some uuid) (some id) reploff rand =
      some (s', b)) : b = true := by
  simp only [serverReplStreamUpdateXsync, Option.bind_eq_bind, Option.bind_eq_some_iff,
    Prod.exists, Option.some.injEq, Prod.mk.injEq] at hrun
  obtain ⟨s₁, b₁, hlost, s₂, b₂, hmaster, s₃, b₃, -, s₄, b₄, -, -, rfl⟩ := hrun
  have hlen₁ : s₁.masterUuidLen = s.masterUuidLen := by
    rw [(updateLost_some hlost).1]
    rfl
  rw [updateMasterUuid, if_pos (Or.inl (hlen₁ ▸ hlen))] at hmaster
  simp only [Option.bind_eq_bind, Option.bind_eq_some_iff, Option.guard_eq_some', exists_const,
    Option.some.injEq, Prod.mk.injEq] at hmaster
  obtain ⟨-, -, rfl⟩ := hmaster
  simp only [Bool.or_true, Bool.true_or]

/-- The update returns when its part about the lost set does. -/
theorem serverReplStreamUpdateXsync_returns (h : XsyncReplica s) :
    (∃ s' b, serverReplStreamUpdateXsync s t true (some uuid) (some id) reploff rand =
        some (s', b)) ↔
      (gtidSetCount t ≠ 0 → (serverGtidSetAddLost s.toServerSets t rand).isSome) := by
  constructor
  · rintro ⟨s', b, hrun⟩ hcount
    obtain ⟨-, ⟨s₁, b₁, hlost, -⟩, -⟩ := serverReplStreamUpdateXsync_some hrun
    obtain ⟨-, ⟨-, hadd⟩ | ⟨hzero, -⟩⟩ := updateLost_some hlost
    · rw [hadd]
      rfl
    · exact absurd hzero hcount
  · intro hadd
    obtain ⟨r, hlost⟩ : ∃ r, updateLost s t rand = some r := by
      by_cases hcount : gtidSetCount t = 0
      · exact ⟨_, if_neg (not_not.mpr hcount)⟩
      · obtain ⟨sets, hsets⟩ := Option.isSome_iff_exists.mp (hadd hcount)
        rw [updateLost, if_pos hcount, hsets]
        exact ⟨_, rfl⟩
    exact serverReplStreamUpdateXsync_isSome hlost (Or.inl h.mode) (Or.inr ⟨rfl, h.mode⟩)

theorem serverGtidSetAddLost_isSome_iff {s : ServerSets} (h : SetsInvariant s) (ht : RegularSet t)
    (rand : Rand) :
    (serverGtidSetAddLost s t rand).isSome ↔
      UpdateAsserts (contents s.gtidExecuted) (contents s.gtidLost ∪ contents t)
        s.gtidExecuted.curnext s.uuid := by
  by_cases hassert : UpdateAsserts (contents s.gtidExecuted) (contents s.gtidLost ∪ contents t)
      s.gtidExecuted.curnext s.uuid
  · obtain ⟨s', hrun, -⟩ := SetMutator.call_spec (m := .addLost) (Holding.self h) ht hassert rand
    rw [SetMutator.call] at hrun
    exact iff_of_true (Option.isSome_iff_exists.mpr ⟨s', hrun⟩) hassert
  · have hnone := SetMutator.call_none (m := .addLost) (Holding.self h) ht hassert rand
    rw [SetMutator.call] at hnone
    rw [hnone]
    exact iff_of_false Bool.false_ne_true hassert

/-- **The identity of a reply** is installed once and for all exactly when the uuid is as long as
the one before, given that the lost gtids are taken in; when they are is the second part. -/
theorem serverReplStreamUpdateXsync_identity (h : XsyncReplica s)
    (huuid : 1 ≤ uuid.length ∧ uuid.length ≤ CONFIG_RUN_ID_SIZE)
    (hid : id.length = CONFIG_RUN_ID_SIZE) (hoff : 0 ≤ reploff) (t : GtidSet) (rand : Rand) :
    ((∃ s' b, serverReplStreamUpdateXsync s t true (some uuid) (some id) reploff rand =
          some (s', b) ∧ Identified s' uuid id reploff ∧ Settled s' uuid id reploff) ↔
      uuid.length = s.masterUuidLen ∧
        (gtidSetCount t ≠ 0 → (serverGtidSetAddLost s.toServerSets t rand).isSome)) ∧
    (SetsInvariant s.toServerSets → RegularSet t →
      ((serverGtidSetAddLost s.toServerSets t rand).isSome ↔
        UpdateAsserts (contents s.gtidExecuted) (contents s.gtidLost ∪ contents t)
          s.gtidExecuted.curnext s.uuid)) := by
  refine ⟨⟨?_, ?_⟩, fun hsets ht => serverGtidSetAddLost_isSome_iff hsets ht rand⟩
  · rintro ⟨s', b, hrun, hidentified, -⟩
    obtain ⟨hs', hlen, -⟩ := serverReplStreamUpdateXsync_installs h huuid.2 hid hoff hrun
    refine ⟨?_, (serverReplStreamUpdateXsync_returns h).mp ⟨s', b, hrun⟩⟩
    rw [← hlen, ← hs'.getMasterUuid_length, hidentified.uuid]
  · rintro ⟨hlen, hadd⟩
    obtain ⟨s', b, hrun⟩ : ∃ s' b, serverReplStreamUpdateXsync s t true (some uuid) (some id) reploff
        rand = some (s', b) := (serverReplStreamUpdateXsync_returns h).mpr hadd
    obtain ⟨hs', -, hreplid, hreploff, hname⟩ :=
      serverReplStreamUpdateXsync_installs h huuid.2 hid hoff hrun
    have hidentified : Identified s' uuid id reploff := ⟨hname hlen, hreplid, hreploff⟩
    exact ⟨s', b, hrun, hidentified, hidentified.settled hs'⟩

/-- A replica that has been given no master uuid yet. -/
theorem exists_xsyncReplica :
    ∃ s, XsyncReplica s ∧ SetsInvariant s.toServerSets ∧ s.gtidExecuted.curnext = 0 ∧
      s.masterUuidLen = CONFIG_RUN_ID_SIZE := by
  obtain ⟨sets, -, hold, hcur⟩ := exists_serverStart [65]
  refine ⟨{ masterServer sets .xsync 0 0 with masterhost := true }, ?_, hold.toSetsInvariant, hcur,
    rfl⟩
  exact ⟨rfl, rfl, List.length_replicate.ge, ⟨show 1 ≤ CONFIG_RUN_ID_SIZE by decide, le_refl _⟩, rfl⟩

theorem serverReplStreamUpdateXsync_identity_forty :
    ∃ s t, UpdateAsserts (contents s.gtidExecuted) (contents s.gtidLost ∪ contents t)
        s.gtidExecuted.curnext s.uuid ∧
      ∃ s' b, serverReplStreamUpdateXsync s t true (some (List.replicate 40 49))
          (some (List.replicate 40 50)) 7 (fun _ => 0) = some (s', b) ∧
        getMasterUuid s' = List.replicate 40 49 := by
  obtain ⟨s, hs, hsets, hcur, hlen⟩ := exists_xsyncReplica
  obtain ⟨t, ht, -⟩ := exists_singleton_set [65] (le_refl 1) (by decide)
  have hassert : UpdateAsserts (contents s.gtidExecuted) (contents s.gtidLost ∪ contents t)
      s.gtidExecuted.curnext s.uuid := updateAsserts_of_le (fun hne => absurd hcur hne)
  have hforty : 1 ≤ (List.replicate 40 (49 : UInt8)).length ∧
      (List.replicate 40 (49 : UInt8)).length ≤ CONFIG_RUN_ID_SIZE := by decide
  have hid : (List.replicate 40 (50 : UInt8)).length = CONFIG_RUN_ID_SIZE := rfl
  obtain ⟨hiff, hadd⟩ := serverReplStreamUpdateXsync_identity hs hforty hid
    (show (0 : Int) ≤ 7 by decide) t (fun _ => 0)
  obtain ⟨s', b, hrun, hidentified, -⟩ := hiff.mpr
    ⟨by rw [hlen]; rfl, fun _ => (hadd hsets ht).mpr hassert⟩
  exact ⟨s, t, hassert, s', b, hrun, hidentified.uuid⟩

/-- A master uuid of one byte in the place of one of 40 bytes: the name has the other 39 bytes behind
it, and the same reply is an update again. -/
theorem serverReplStreamUpdateXsync_identity_counterexample :
    ∃ s, XsyncReplica s ∧ ∃ s' b, serverReplStreamUpdateXsync s gtidSetNew true (some [65])
        (some (List.replicate 40 50)) 7 (fun _ => 0) = some (s', b) ∧
      getMasterUuid s' ≠ [65] ∧
      ∃ s'', serverReplStreamUpdateXsync s' gtidSetNew true (some [65])
        (some (List.replicate 40 50)) 7 (fun _ => 0) = some (s'', true) := by
  obtain ⟨s, hs, -, -, hlen⟩ := exists_xsyncReplica
  have hempty : gtidSetCount gtidSetNew = 0 := rfl
  obtain ⟨s', b, hrun⟩ : ∃ s' b, serverReplStreamUpdateXsync s gtidSetNew true (some [65])
      (some (List.replicate 40 50)) 7 (fun _ => 0) = some (s', b) :=
    (serverReplStreamUpdateXsync_returns hs).mpr (fun hne => absurd hempty hne)
  obtain ⟨hs', hlen', -⟩ :=
    serverReplStreamUpdateXsync_installs hs (by decide) (List.length_replicate) (by decide) hrun
  have hforty : s'.masterUuidLen = 40 := hlen'.trans hlen
  obtain ⟨s'', b', hrun'⟩ : ∃ s'' b, serverReplStreamUpdateXsync s' gtidSetNew true (some [65])
      (some (List.replicate 40 50)) 7 (fun _ => 0) = some (s'', b) :=
    (serverReplStreamUpdateXsync_returns hs').mpr (fun hne => absurd hempty hne)
  obtain rfl := serverReplStreamUpdateXsync_updates (by rw [hforty]; decide) hrun'
  refine ⟨s, hs, s', b, hrun, fun hname => ?_, s'', hrun'⟩
  have := hs'.getMasterUuid_length
  rw [hname, hforty] at this
  exact absurd this (by decide)

end Update

end XredisGtid
