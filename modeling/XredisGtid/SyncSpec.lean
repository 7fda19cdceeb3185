import XredisGtid.Sync
import XredisGtid.ReplStreamRun
import XredisGtid.GtidSeqRun

/-!
# What the analysis of a request does

For each part of the analysis one lemma says what an answer implies, and for the parts
that compute with gtid sets one says which set they compute.
-/
namespace XredisGtid
open Buffer Memory OffsetLog KeyedIntervals

/-- The replica goes on with the stream. -/
def SyncAction.Continues : SyncAction → Prop
  | .xcontinue .. | .continue .. => True
  | .nop | .full => False

section Locate
variable {s : Server} {requestMode : Mode} {offset : Int} {slr : LocateResult}

/-- **Every offset is located**, when the modes are consistent. -/
theorem locateServerReplMode_isSome (hset : s.replMode.mode ≠ .unset)
    (hrequest : requestMode = .psync ∨ requestMode = .xsync) (offset : Int) :
    ∃ slr, locateServerReplMode s requestMode offset = some slr := by
  simp only [locateServerReplMode, guard, if_pos hset, if_pos hrequest, Option.pure_def,
    Option.bind_eq_bind, Option.bind_some]
  by_cases habove : offset > s.replMode.from
  · rw [if_pos habove]
    split <;> exact ⟨_, rfl⟩
  rw [if_neg habove]
  by_cases hat : offset = s.replMode.from
  · rw [if_pos hat]
    repeat' split
    all_goals exact ⟨_, rfl⟩
  rw [if_neg hat]
  by_cases hprev : s.prevReplMode.mode = .unset
  · rw [if_pos hprev]
    exact ⟨_, rfl⟩
  rw [if_neg hprev]
  by_cases hfrom : offset ≥ s.prevReplMode.from
  · rw [if_pos hfrom, if_pos (show s.prevReplMode.from < s.replMode.from by omega),
      if_pos (show s.replMode.from - offset > 0 by omega)]
    simp only [Option.bind_some]
    split <;> exact ⟨_, rfl⟩
  · rw [if_neg hfrom]
    exact ⟨_, rfl⟩

/-- What the place of an offset says about the stages. -/
structure Located (s : Server) (requestMode : Mode) (offset : Int) (slr : LocateResult) :
    Prop where
  prev : ∀ limit, slr = .prev limit → requestMode = s.prevReplMode.mode ∧
    s.prevReplMode.from ≤ offset ∧ offset < s.replMode.from ∧ limit = s.replMode.from - offset
  switch : slr = .switch → requestMode ≠ s.replMode.mode ∧ s.prevReplMode.mode ≠ .unset ∧
    offset = s.replMode.from
  cur : slr = .cur → requestMode = s.replMode.mode ∧ s.replMode.from ≤ offset

theorem locateServerReplMode_some (h : locateServerReplMode s requestMode offset = some slr) :
    Located s requestMode offset slr := by
  simp only [locateServerReplMode, Option.bind_eq_bind, Option.bind_eq_some_iff,
    Option.guard_eq_some', exists_const] at h
  obtain ⟨-, -, h⟩ := h
  split at h
  · next habove =>
    split at h
    · next hmode =>
      obtain rfl := Option.some.inj h
      exact ⟨nofun, nofun, fun _ => ⟨hmode, by omega⟩⟩
    · obtain rfl := Option.some.inj h
      exact ⟨nofun, nofun, nofun⟩
  split at h
  · next hat =>
    split at h
    · next hmode =>
      obtain rfl := Option.some.inj h
      exact ⟨nofun, nofun, fun _ => ⟨hmode, hat.ge⟩⟩
    · next hmode =>
      split at h
      · obtain rfl := Option.some.inj h
        exact ⟨nofun, nofun, nofun⟩
      · next hprev =>
        obtain rfl := Option.some.inj h
        exact ⟨nofun, fun _ => ⟨hmode, hprev, hat⟩, nofun⟩
  split at h
  · obtain rfl := Option.some.inj h
    exact ⟨nofun, nofun, nofun⟩
  split at h
  · next hfrom =>
    simp only [Option.bind_eq_some_iff, Option.guard_eq_some', exists_const] at h
    obtain ⟨-, h⟩ := h
    split at h
    · next hmode =>
      simp only [Option.bind_eq_some_iff, Option.guard_eq_some', exists_const] at h
      obtain ⟨-, heq⟩ := h
      obtain rfl := Option.some.inj heq
      refine ⟨fun limit hlimit => ⟨hmode, hfrom, by omega, ?_⟩, nofun, nofun⟩
      exact (LocateResult.prev.inj hlimit).symm
    · obtain rfl := Option.some.inj h
      exact ⟨nofun, nofun, nofun⟩
  · obtain rfl := Option.some.inj h
    exact ⟨nofun, nofun, nofun⟩

end Locate

/-! ## Requests -/

section Requests
variable {s : Server} {psync : PsyncRequest} {request : XsyncRequest} {result : SyncResult}
  {slr : LocateResult} {rand : Rand} {point : Int} {gtidMaster gtidXsync cont mlost : GtidSet}
  {gap maxgap : Int}

theorem psyncXcontinue_some {offset : Int} (h : psyncXcontinue s offset rand = some result) :
    result.offset = offset ∧ ∃ gtidMaster gtidSeq gtidXsync cont n,
      serverGtidSetGet s.toServerSets (rand.sub 0) = some gtidMaster ∧
      s.gtidSeq = some gtidSeq ∧ gtidSeqPsync gtidSeq offset (rand.sub 1) = some gtidXsync ∧
      gtidSetDiff gtidMaster gtidXsync (rand.sub 2) = some (cont, n) ∧
      result.action = .xcontinue ((serverReplModeGetCurReplIdOff s (offset - 1)).1.getD [])
        (serverReplModeGetCurReplIdOff s (offset - 1)).2 cont gtidSetNew := by
  simp only [psyncXcontinue, Option.bind_eq_bind, Option.bind_eq_some_iff, Prod.exists] at h
  obtain ⟨gtidMaster, hget, gtidSeq, hseq, gtidXsync, hxsync, cont, n, hdiff, heq⟩ := h
  obtain rfl := Option.some.inj heq
  exact ⟨rfl, gtidMaster, gtidSeq, gtidXsync, cont, n, hget, hseq, hxsync, hdiff, rfl⟩

/-- **A PSYNC request that goes on** is in the backlog and in the previous stage or at its end. -/
theorem masterAnaPsyncRequest_some (h : masterAnaPsyncRequest s psync rand = some result)
    (hact : result.action.Continues) :
    s.replBacklog.created = true ∧ result.offset = psync.offset ∧
      s.replBacklog.off ≤ psync.offset ∧
      psync.offset ≤ s.replBacklog.off + s.replBacklog.histlen ∧
      ((∃ limit, locateServerReplMode s .psync psync.offset = some (.prev limit) ∧
          result.action = .continue s.prevReplMode.replid (-1) none) ∨
        locateServerReplMode s .psync psync.offset = some .switch ∧
          psyncXcontinue s psync.offset rand = some result) := by
  rw [masterAnaPsyncRequest] at h
  split at h
  · obtain rfl := Option.some.inj h
    exact hact.elim
  split at h
  · obtain rfl := Option.some.inj h
    exact hact.elim
  · next hin =>
    simp only [not_or, not_not, Int.not_lt] at hin
    obtain ⟨hcreated, hlow, hhigh⟩ := hin
    simp only [Option.bind_eq_bind, Option.bind_eq_some_iff] at h
    obtain ⟨slr, hlocate, h⟩ := h
    refine ⟨hcreated, ?_⟩
    cases slr with
    | prev limit =>
      simp only [psyncPrevious, Option.bind_eq_bind, Option.bind_eq_some_iff,
        Option.guard_eq_some', exists_const] at h
      obtain ⟨-, h⟩ := h
      split at h
      · obtain rfl := Option.some.inj h
        exact ⟨rfl, hlow, by omega, Or.inl ⟨limit, hlocate, rfl⟩⟩
      · obtain rfl := Option.some.inj h
        exact hact.elim
    | «switch» =>
      simp only [psyncPrevious, Option.bind_eq_bind, Option.bind_eq_some_iff,
        Option.guard_eq_some', exists_const] at h
      obtain ⟨-, h⟩ := h
      split at h
      · exact ⟨(psyncXcontinue_some h).1, hlow, by omega, Or.inr ⟨hlocate, h⟩⟩
      · obtain rfl := Option.some.inj h
        exact hact.elim
    | _ =>
      obtain rfl := Option.some.inj h
      exact hact.elim

theorem masterSetupPartialSynchronization_eq [RedisReplication] {offset : Int}
    (hcreated : s.replBacklog.created = true) (hoff : s.replBacklog.off ≤ offset) :
    masterSetupPartialSynchronization s offset = some s := by
  simp only [masterSetupPartialSynchronization, hcreated, if_true, Option.bind_eq_bind,
    Option.bind_some, guard, if_pos hoff, Option.pure_def]

/-- The XCONTINUE reply to a replica that has lost nothing. -/
theorem masterReplySyncRequest_xcontinue_eq [RedisReplication] {replid : Bytes} {reploff : Int}
    (hcreated : s.replBacklog.created = true)
    (hact : result.action = .xcontinue replid reploff cont mlost) (hcount : gtidSetCount mlost = 0)
    (hoff : s.replBacklog.off ≤ result.offset)
    (hmode : s.replMode.mode = .xsync ∨ s.gtidReploffDelta = 0) (rand : Rand) :
    masterReplySyncRequest s result rand =
      some (s, .xcontinue cont s.gtidLost (getMasterUuid s) replid reploff) := by
  have hup := serverReplStreamUpdateXsync_nop hcount hmode rand
  simp only [masterReplySyncRequest, hact, hup, masterSetupPartialSynchronization_eq hcreated hoff,
    Option.bind_eq_bind, Option.bind_some]

/-- The CONTINUE reply to such a replica. -/
theorem masterReplySyncRequest_continue_eq [RedisReplication] {replid : Bytes} {reploff : Int}
    (hcreated : s.replBacklog.created = true)
    (hact : result.action = .continue replid reploff (some mlost))
    (hcount : gtidSetCount mlost = 0) (hoff : s.replBacklog.off ≤ result.offset)
    (hreploff : 0 ≤ reploff) (hmode : s.replMode.mode = .xsync ∨ s.gtidReploffDelta = 0)
    (rand : Rand) :
    masterReplySyncRequest s result rand = some (s, .continue replid (some reploff)) := by
  have hup := serverReplStreamUpdateXsync_nop hcount hmode rand
  simp only [masterReplySyncRequest, hact, hup, masterSetupPartialSynchronization_eq hcreated hoff,
    Option.bind_eq_bind, Option.bind_some, if_neg (Int.not_lt.mpr hreploff)]

/-- What an accepted XSYNC request is answered. -/
theorem xsyncAccept_some (h : xsyncAccept s slr point cont mlost gap maxgap = some result) :
    result.offset = point ∧
      (result.action = .continue s.replid (point - 1) (some mlost) ∧ slr = .switch ∧
          result.limit = 0 ∧ result.msg = .xsyncToPsync ∨
        result.msg = .gapWithin gap maxgap ∧
          ((∃ limit, slr = .prev limit ∧ result.limit = limit ∧ result.action = .xcontinue
              ((serverReplModeGetPrevReplIdOff s (point - 1)).1.getD [])
              (serverReplModeGetPrevReplIdOff s (point - 1)).2 cont mlost) ∨
            slr = .cur ∧ result.limit = 0 ∧ result.action = .xcontinue
              ((serverReplModeGetCurReplIdOff s (point - 1)).1.getD [])
              (serverReplModeGetCurReplIdOff s (point - 1)).2 cont mlost)) := by
  cases slr with
  | prev limit =>
    obtain rfl := Option.some.inj h
    exact ⟨rfl, Or.inr ⟨rfl, Or.inl ⟨limit, rfl, rfl, rfl⟩⟩⟩
  | «switch» =>
    obtain rfl := Option.some.inj h
    exact ⟨rfl, Or.inl ⟨rfl, rfl, rfl, rfl⟩⟩
  | cur =>
    obtain rfl := Option.some.inj h
    exact ⟨rfl, Or.inr ⟨rfl, Or.inr ⟨rfl, rfl, rfl⟩⟩⟩
  | _ => exact nomatch h

/-- **An XSYNC request that goes on** has been related, located and found close enough. -/
theorem masterAnaXsyncRequest_some (h : masterAnaXsyncRequest s request rand = some result)
    (hact : result.action.Continues) :
    ∃ gtidMaster point gtidXsync slr cont n mlost gap,
      serverGtidSetGet s.toServerSets (rand.sub 0) = some gtidMaster ∧
      gtidSetRelated gtidMaster request.gtidSlave = true ∧
      xsyncContinuePoint s request.gtidSlave (rand.sub 1) = some (point, gtidXsync) ∧
      ¬ (s.replMode.mode = .psync ∧ adjustContinuePoint s point < s.replBacklog.off) ∧
      locateServerReplMode s .xsync (adjustContinuePoint s point) = some slr ∧
      gtidSetDiff gtidMaster gtidXsync ((rand.sub 2).sub 0) = some (cont, n) ∧
      gtidSetDupDiff request.gtidSlave cont ((rand.sub 2).sub 1) = some mlost ∧
      xsyncGap s request gtidXsync ((rand.sub 2).sub 2) = some gap ∧ gap ≤ request.maxgap ∧
      xsyncAccept s slr (adjustContinuePoint s point) cont mlost gap request.maxgap =
        some result := by
  rw [masterAnaXsyncRequest] at h
  split at h
  · obtain rfl := Option.some.inj h
    exact hact.elim
  simp only [Option.bind_eq_bind, Option.bind_eq_some_iff] at h
  obtain ⟨gtidMaster, hget, h⟩ := h
  split at h
  · obtain rfl := Option.some.inj h
    exact hact.elim
  next hrelated =>
  simp only [Option.bind_eq_some_iff, Prod.exists] at h
  obtain ⟨point, gtidXsync, hpoint, h⟩ := h
  split at h
  · obtain rfl := Option.some.inj h
    exact hact.elim
  next hbacklog =>
  simp only [Option.bind_eq_some_iff] at h
  obtain ⟨slr, hlocate, h⟩ := h
  split at h
  · obtain rfl := Option.some.inj h
    exact hact.elim
  simp only [xsyncLocated, Option.bind_eq_bind, Option.bind_eq_some_iff, Prod.exists] at h
  obtain ⟨cont, n, hcont, mlost, hmlost, gap, hgap, h⟩ := h
  split at h
  · obtain rfl := Option.some.inj h
    exact hact.elim
  next hle =>
  exact ⟨gtidMaster, point, gtidXsync, slr, cont, n, mlost, gap, hget, not_not.mp hrelated,
    hpoint, hbacklog, hlocate, hcont, hmlost, hgap, Int.not_lt.mp hle, h⟩

/-- A request that passes every check is accepted. -/
theorem masterAnaXsyncRequest_of_parts {n : Int}
    (hinterested : request.uuidInterested ≠ GTID_XSYNC_UUID_INTERESTED_FULLRESYNC)
    (hget : serverGtidSetGet s.toServerSets (rand.sub 0) = some gtidMaster)
    (hrelated : gtidSetRelated gtidMaster request.gtidSlave = true)
    (hpoint : xsyncContinuePoint s request.gtidSlave (rand.sub 1) = some (point, gtidXsync))
    (hbacklog : ¬ (s.replMode.mode = .psync ∧ adjustContinuePoint s point < s.replBacklog.off))
    (hlocate : locateServerReplMode s .xsync (adjustContinuePoint s point) = some slr)
    (hvalid : slr.isInvalid = false)
    (hcont : gtidSetDiff gtidMaster gtidXsync ((rand.sub 2).sub 0) = some (cont, n))
    (hmlost : gtidSetDupDiff request.gtidSlave cont ((rand.sub 2).sub 1) = some mlost)
    (hgap : xsyncGap s request gtidXsync ((rand.sub 2).sub 2) = some gap)
    (hle : gap ≤ request.maxgap) :
    masterAnaXsyncRequest s request rand =
      xsyncAccept s slr (adjustContinuePoint s point) cont mlost gap request.maxgap := by
  have hlocated : xsyncLocated s request slr (adjustContinuePoint s point) gtidMaster gtidXsync
      (rand.sub 2) =
      xsyncAccept s slr (adjustContinuePoint s point) cont mlost gap request.maxgap := by
    simp only [xsyncLocated, hcont, hmlost, hgap, Option.bind_eq_bind, Option.bind_some]
    exact if_neg (Int.not_lt.mpr hle)
  rw [masterAnaXsyncRequest, if_neg hinterested]
  simp only [hget, hpoint, hlocate, Option.bind_eq_bind, Option.bind_some]
  rw [if_neg (not_not.mpr hrelated), if_neg hbacklog, hvalid]
  exact hlocated
end Requests

/-! ## The sets of the analysis -/

section Sets
variable {s : ServerSets} {a b t : GtidSet} {uuid : Uuid} {E L : Finset (Uuid × Int)} {rand : Rand}

theorem gtidSetDupDiff_wellFormedSet (ha : WellFormedSet a) (hb : WellFormedSet b) (rand : Rand) :
    ∃ t, gtidSetDupDiff a b rand = some t ∧ WellFormedSet t ∧
      contents t = contents a \ contents b := by
  obtain ⟨a', hdup, ha', hes, -⟩ := dup_wellFormedSet ha
  obtain ⟨t, hdiff, ht, -, hset⟩ := diff_wellFormedSet ha' hb rand
  have hsame : contents a' = contents a := congrArg pairs hes
  refine ⟨t, ?_, ht, hsame ▸ hset⟩
  simp only [gtidSetDupDiff, hdup, hdiff, Option.bind_eq_bind, Option.bind_some]

/-- The uuids of a set. -/
def uuids (s : GtidSet) : List Uuid := keys (entries s)

/-- **The set of a server** has the executed and the lost gtids, and the uuids of both sets. -/
theorem serverGtidSetGet_wellFormed (h : WellFormedHolding s uuid E L) (hfits : MergeFits s)
    (rand : Rand) :
    ∃ t, serverGtidSetGet s rand = some t ∧ WellFormedSet t ∧ contents t = E ∪ L ∧
      ∀ k, k ∈ uuids t ↔ k ∈ uuids s.gtidExecuted ∨ k ∈ uuids s.gtidLost := by
  obtain ⟨s₁, hdup, hs₁, hes₁, -⟩ := dup_wellFormedSet h.executed.toWellFormedSet
  obtain ⟨t, hmerge, ht, hes, hset⟩ := merge_wellFormedSet hs₁ h.lost (hes₁ ▸ hfits) rand
  have hsame : contents s₁ = E := (congrArg pairs hes₁).trans h.executed_eq
  refine ⟨t, ?_, ht, by rw [hset, hsame, h.lost_eq], ?_⟩
  · simp only [serverGtidSetGet, hdup, hmerge, Option.bind_eq_bind, Option.bind_some]
  · intro k
    rw [uuids, hes, hes₁]
    exact mem_keys_merge

theorem serverGtidSetGet_holding (h : Holding s uuid E L) (rand : Rand) :
    ∃ t, serverGtidSetGet s rand = some t ∧ RegularSet t ∧ contents t = E ∪ L ∧
      ∀ k, k ∈ uuids t ↔ k ∈ uuids s.gtidExecuted ∨ k ∈ uuids s.gtidLost := by
  obtain ⟨t, hget, ht, hset, huuids⟩ := serverGtidSetGet_wellFormed h.wellFormed h.mergeFits rand
  exact ⟨t, hget, ht.regular (fun x hx => h.lt_max x (hset ▸ hx)), hset, huuids⟩

/-- **Two sets are related** when they share a uuid. -/
theorem gtidSetRelated_iff (ha : WellFormedSet a) (hb : WellFormedSet b) :
    gtidSetRelated a b = true ↔ ∃ k, k ∈ uuids a ∧ k ∈ uuids b := by
  obtain ⟨l, hrep⟩ := ha.rep
  obtain ⟨m, hrept⟩ := hb.rep
  have hfind : ∀ k, (gtidSetFind a k).isSome = true ↔ k ∈ cellKeys l := by
    intro k
    rcases exists_first_cell k l with hk | ⟨p, c, q, rfl, hp, hc⟩
    · rw [gtidSetFind_of_notMem hrep hk]
      exact iff_of_false Bool.false_ne_true hk
    · rw [gtidSetFind_of_first hrep hp hc]
      refine iff_of_true rfl ?_
      rw [cellKeys, List.map_append, List.map_cons, keys_append, keys_cons, hc]
      simp
  rw [gtidSetRelated, hrept.uuidSets_eq, List.any_eq_true]
  simp only [uuids, hrep.entries_eq, hrept.entries_eq]
  constructor
  · rintro ⟨x, hx, hrelated⟩
    obtain ⟨c, hc, rfl⟩ := List.mem_map.mp hx
    obtain ⟨u, hu, huuid, -⟩ := hrept.holds c hc
    rw [hu, Option.map_some, Option.getD_some, hfind, huuid] at hrelated
    exact ⟨c.2.1, hrelated, List.mem_map_of_mem (List.mem_map_of_mem hc)⟩
  · rintro ⟨k, hka, hkb⟩
    obtain ⟨e, he, rfl⟩ := List.mem_map.mp hkb
    obtain ⟨c, hc, rfl⟩ := List.mem_map.mp he
    obtain ⟨u, hu, huuid, -⟩ := hrept.holds c hc
    refine ⟨c.1, List.mem_map_of_mem hc, ?_⟩
    rw [hu, Option.map_some, Option.getD_some, hfind, huuid]
    exact hka

/-- A uuid with a gno is one of the set. -/
theorem mem_uuids_of_contents {g : Int} (h : (uuid, g) ∈ contents a) : uuid ∈ uuids a :=
  key_mem_of_mem_pairs h

/-- The gtids executed on one side only, not counting those of `X`, which are sent. -/
noncomputable def gapSize (E S X : Finset (Uuid × Int)) : Nat :=
  ((E \ X) \ S).card + (S \ (E \ X)).card

/-- **The gap** is the number of those gtids, as a `long long`. -/
theorem xsyncGap_wellFormed {server : Server} {request : XsyncRequest} {gtidXsync : GtidSet}
    (h : WellFormedHolding server.toServerSets uuid E L) (hslave : WellFormedSet request.gtidSlave)
    (hlost : WellFormedSet request.gtidLost) (hX : WellFormedSet gtidXsync) (rand : Rand) :
    xsyncGap server request gtidXsync rand = some (llong (gapSize E
      (contents request.gtidSlave \ contents request.gtidLost) (contents gtidXsync))) := by
  obtain ⟨m, hm, hm', hmset⟩ :=
    gtidSetDupDiff_wellFormedSet h.executed.toWellFormedSet hX (rand.sub 0)
  obtain ⟨x, hx, hx', hxset⟩ := gtidSetDupDiff_wellFormedSet hslave hlost (rand.sub 1)
  obtain ⟨g, hg, hg', hgset⟩ := gtidSetDupDiff_wellFormedSet hm' hx' (rand.sub 2)
  obtain ⟨k, hk, hk', hkset⟩ := gtidSetDupDiff_wellFormedSet hx' hm' (rand.sub 3)
  rw [h.executed_eq] at hmset
  simp only [xsyncGap, hm, hx, hg, hk, Option.bind_eq_bind, Option.bind_some,
    hg'.count, hk'.count, hgset, hkset, hmset, hxset, gapSize]
  rw [llong_add_llong, Int.add_comm, llong_add_llong, Int.add_comm, Nat.cast_add]

end Sets

/-- A replica that follows a reply and then executes the gtids `X`, in any order, executes each of
them and ends with the sets `E` and `L`. -/
def CatchesUp (follow : Rand → Option Server) (uuid : Uuid) (X E L : Finset (Uuid × Int)) : Prop :=
  ∀ rand, ∃ r', follow rand = some r' ∧
    ∀ l : List (Uuid × Int), l.Nodup → l.toFinset = X →
      ∀ rand, ∃ sets, gtidCommands r'.toServerSets l rand = some (sets, l.map (fun _ => true)) ∧
        WellFormedHolding sets uuid E L

/-! ## The whole analysis of an XSYNC request -/

/-- The entries that are sent: those at the end that the request lacks. -/
noncomputable def streamed (s : Server) (req : GtidSet) : List LogEntry :=
  match s.gtidSeq with
  | none => []
  | some seq => (gtidSeqEntries seq).rtakeWhile (expected req)

/-- The continue point, before it is adjusted. -/
noncomputable def continueOffset (s : Server) (req : GtidSet) : Int :=
  if s.gtidSeq.isSome then headOffset (streamed s req) else s.masterReplOffset + 1

section Analysis
variable {s : Server} {uuid : Uuid}
  {E L : Finset (Uuid × Int)} {rand : Rand}

theorem streamed_of_seq {seq : GtidSeq} (hseq : s.gtidSeq = some seq) (req : GtidSet) :
    streamed s req = (gtidSeqEntries seq).rtakeWhile (expected req) ∧
      continueOffset s req = headOffset (streamed s req) := by
  simp only [continueOffset, streamed, hseq, Option.isSome_some, if_true, and_self]

theorem streamed_of_none (hseq : s.gtidSeq = none) (req : GtidSet) :
    streamed s req = [] ∧ continueOffset s req = s.masterReplOffset + 1 := by
  simp only [continueOffset, streamed, hseq, Option.isSome_none, Bool.false_eq_true, if_false,
    and_self]

theorem xsyncContinuePoint_rep (hidx : ∀ seq, s.gtidSeq = some seq → ∃ l f, SeqRep seq l f)
    {req : GtidSet} (hreq : WellFormedSet req) (rand : Rand) :
    ∃ X, xsyncContinuePoint s req rand = some (continueOffset s req, X) ∧ RegularSet X ∧
      contents X = gtids (streamed s req) := by
  cases hseq : s.gtidSeq with
  | none =>
    obtain ⟨hstream, hpoint⟩ := streamed_of_none hseq req
    refine ⟨gtidSetNew, ?_, regularSet_new.1, ?_⟩
    · simp only [xsyncContinuePoint, hseq, hpoint]
    · rw [hstream, contents, regularSet_new.2]
      rfl
  | some seq =>
    obtain ⟨hstream, hpoint⟩ := streamed_of_seq hseq req
    obtain ⟨l, f, hrep⟩ := hidx seq hseq
    obtain ⟨X, hrun, hX, hset⟩ := gtidSeqXsync_rep hrep hreq rand
    refine ⟨X, ?_, hX, ?_⟩
    · simp only [xsyncContinuePoint, hseq, hpoint, hstream, hrun]
    · rw [hstream, hset]

/-- What is answered in terms of sets.  The continue set is what the master has and does not send,
and what the replica has beyond it is lost. -/
structure XsyncAnalysis (s : Server) (request : XsyncRequest) (rand : Rand)
    (E L : Finset (Uuid × Int)) (cont mlost : GtidSet) : Prop where
  cont_eq : contents cont = (E ∪ L) \ gtids (streamed s request.gtidSlave)
  mlost_eq : contents mlost = contents request.gtidSlave \ contents cont
  accepts : ∀ slr, (∃ k ∈ uuids request.gtidSlave,
      k ∈ uuids s.gtidExecuted ∨ k ∈ uuids s.gtidLost) →
    request.uuidInterested ≠ GTID_XSYNC_UUID_INTERESTED_FULLRESYNC →
    ¬ (s.replMode.mode = .psync ∧
      adjustContinuePoint s (continueOffset s request.gtidSlave) < s.replBacklog.off) →
    locateServerReplMode s .xsync
      (adjustContinuePoint s (continueOffset s request.gtidSlave)) = some slr →
    slr.isInvalid = false →
    llong (gapSize E (contents request.gtidSlave \ contents request.gtidLost)
      (gtids (streamed s request.gtidSlave))) ≤ request.maxgap →
    masterAnaXsyncRequest s request rand = xsyncAccept s slr
      (adjustContinuePoint s (continueOffset s request.gtidSlave)) cont mlost
      (llong (gapSize E (contents request.gtidSlave \ contents request.gtidLost)
        (gtids (streamed s request.gtidSlave)))) request.maxgap
  continues : ∀ result, masterAnaXsyncRequest s request rand = some result →
    result.action.Continues →
    ∃ slr, locateServerReplMode s .xsync
        (adjustContinuePoint s (continueOffset s request.gtidSlave)) = some slr ∧
      xsyncAccept s slr (adjustContinuePoint s (continueOffset s request.gtidSlave)) cont mlost
        (llong (gapSize E (contents request.gtidSlave \ contents request.gtidLost)
          (gtids (streamed s request.gtidSlave)))) request.maxgap = some result

/-- **The analysis in terms of sets.** -/
theorem masterAnaXsyncRequest_wellFormed (h : WellFormedHolding s.toServerSets uuid E L)
    (hfits : MergeFits s.toServerSets)
    (hidx : ∀ seq, s.gtidSeq = some seq → ∃ l f, SeqRep seq l f) (request : XsyncRequest)
    (hslave : WellFormedSet request.gtidSlave) (hlost : WellFormedSet request.gtidLost)
    (rand : Rand) :
    ∃ cont mlost, WellFormedSet cont ∧ WellFormedSet mlost ∧
      XsyncAnalysis s request rand E L cont mlost := by
  obtain ⟨gtidMaster, hget, hmaster, hmset, huuids⟩ :=
    serverGtidSetGet_wellFormed h hfits (rand.sub 0)
  obtain ⟨X, hpoint, hX, hXset⟩ := xsyncContinuePoint_rep hidx hslave (rand.sub 1)
  obtain ⟨cont, hcont, hcont', -, hcset⟩ :=
    diff_wellFormedSet hmaster hX.toWellFormedSet ((rand.sub 2).sub 0)
  obtain ⟨mlost, hmlost, hmlost', hlset⟩ :=
    gtidSetDupDiff_wellFormedSet hslave hcont' ((rand.sub 2).sub 1)
  have hgap := xsyncGap_wellFormed h hslave hlost hX.toWellFormedSet ((rand.sub 2).sub 2)
  rw [hXset] at hgap
  refine ⟨cont, mlost, hcont', hmlost', by rw [hcset, hmset, hXset], hlset, ?_, ?_⟩
  · rintro slr ⟨k, hk, hk'⟩ hinterested hbacklog hlocate hvalid hle
    have hrelated : gtidSetRelated gtidMaster request.gtidSlave = true :=
      (gtidSetRelated_iff hmaster hslave).mpr ⟨k, (huuids k).mpr hk', hk⟩
    exact masterAnaXsyncRequest_of_parts hinterested hget hrelated hpoint hbacklog hlocate hvalid
      hcont hmlost hgap hle
  · intro result hrun hact
    obtain ⟨gtidMaster', point, X', slr, cont', n, mlost', gap, hget', -, hpoint', -, hlocate,
      hcont₁, hmlost₁, hgap', -, haccept⟩ := masterAnaXsyncRequest_some hrun hact
    obtain rfl := Option.some.inj (hget.symm.trans hget')
    obtain ⟨rfl, rfl⟩ := Prod.mk.inj (Option.some.inj (hpoint.symm.trans hpoint'))
    obtain ⟨rfl, -⟩ := Prod.mk.inj (Option.some.inj (hcont.symm.trans hcont₁))
    obtain rfl := Option.some.inj (hmlost.symm.trans hmlost₁)
    obtain rfl := Option.some.inj (hgap.symm.trans hgap')
    exact ⟨slr, hlocate, haccept⟩

theorem masterAnaXsyncRequest_eq (h : Holding s.toServerSets uuid E L)
    (hidx : ∀ seq, s.gtidSeq = some seq → ∃ l f, SeqRep seq l f) (request : XsyncRequest)
    (hslave : RegularSet request.gtidSlave) (hlost : RegularSet request.gtidLost) (rand : Rand) :
    ∃ cont mlost, RegularSet cont ∧ RegularSet mlost ∧
      XsyncAnalysis s request rand E L cont mlost := by
  obtain ⟨cont, mlost, hcont, hmlost, hana⟩ := masterAnaXsyncRequest_wellFormed h.wellFormed
    h.mergeFits hidx request hslave.toWellFormedSet hlost.toWellFormedSet rand
  refine ⟨cont, mlost, hcont.regular (fun x hx => ?_), hmlost.regular (fun x hx => ?_), hana⟩
  · rw [hana.cont_eq] at hx
    exact h.lt_max x (Finset.mem_sdiff.mp hx).1
  · rw [hana.mlost_eq] at hx
    exact hslave.lt_max (Finset.mem_sdiff.mp hx).1

end Analysis

/-! ## Lost gtids -/

/-- An update takes in the gtids `D` as lost: it notices that there are some, and the update of the
next gno passes its assertion. -/
def LostTaken (E L D : Finset (Uuid × Int)) (saved : Int) (uuid : Uuid) : Prop :=
  D = ∅ ∨ ¬ 2 ^ 64 ∣ D.card ∧ UpdateAsserts E (L ∪ D) saved uuid

section Lost
variable {s r : Server} {t cont : GtidSet} {uuid : Uuid} {E L : Finset (Uuid × Int)} {rand : Rand}

/-- A set whose count is a multiple of `2 ^ 64` looks empty. -/
theorem updateLost_wrapped (ht : WellFormedSet t) (hcard : 2 ^ 64 ∣ (contents t).card) (rand : Rand) :
    updateLost s t rand = some (s, false) := by
  have hcount : gtidSetCount t = 0 := by rw [ht.count, llong_eq_zero_iff]; exact hcard
  exact if_neg (not_not.mpr hcount)

theorem updateLost_taken (h : Holding s.toServerSets uuid E L) (ht : RegularSet t)
    (htaken : LostTaken E L (contents t) s.gtidExecuted.curnext uuid) (rand : Rand) :
    ∃ sets b, updateLost s t rand = some (s.setSets sets, b) ∧
      Holding sets uuid E (L ∪ contents t) := by
  rcases htaken with hempty | ⟨hcard, hassert⟩
  · refine ⟨s.toServerSets, false, updateLost_wrapped ht.toWellFormedSet ?_ rand, ?_⟩
    · rw [hempty, Finset.card_empty]
      exact dvd_zero _
    · rw [hempty, Finset.union_empty]
      exact h
  · have hcount : gtidSetCount t ≠ 0 := by
      rw [ht.count, Ne, llong_eq_zero_iff]
      exact hcard
    obtain ⟨l, n, hmerge, hold⟩ := addLost_holding h ht (rand.sub 0)
    obtain ⟨sets, hrun, hold', -⟩ := updateNextGno_spec hold hassert (rand.sub 1)
    refine ⟨sets, true, ?_, hold'⟩
    rw [updateLost, if_pos hcount]
    simp only [serverGtidSetAddLost, hmerge, hrun, Option.bind_eq_bind, Option.bind_some]

theorem updateLost_none (h : Holding s.toServerSets uuid E L) (ht : RegularSet t)
    (hcard : ¬ 2 ^ 64 ∣ (contents t).card)
    (hassert : ¬ UpdateAsserts E (L ∪ contents t) s.gtidExecuted.curnext uuid) (rand : Rand) :
    updateLost s t rand = none := by
  have hcount : gtidSetCount t ≠ 0 := by
    rw [ht.count, Ne, llong_eq_zero_iff]
    exact hcard
  obtain ⟨l, n, hmerge, hold⟩ := addLost_holding h ht (rand.sub 0)
  rw [updateLost, if_pos hcount]
  simp only [serverGtidSetAddLost, hmerge, updateNextGno_none hold hassert, Option.bind_eq_bind,
    Option.bind_some, Option.bind_none]

/-- An update in xsync mode does to the sets what its part about the lost set does. -/
theorem serverReplStreamUpdateXsync_sets {s₁ : Server} {fromMaster b : Bool}
    {masterUuid replid : Option Bytes} {reploff : Int} (hmode : s.replMode.mode = .xsync)
    (h : masterUuid = none ∧ replid = none ∧ reploff < 0 ∨ fromMaster = true)
    (hlost : updateLost s t rand = some (s₁, b)) :
    ∃ s' b', serverReplStreamUpdateXsync s t fromMaster masterUuid replid reploff rand =
      some (s', b') ∧ s'.toServerSets = s₁.toServerSets ∧ UpdatedXsync s s' := by
  obtain ⟨s', b', hrun⟩ : ∃ s' b', serverReplStreamUpdateXsync s t fromMaster masterUuid replid
      reploff rand = some (s', b') :=
    serverReplStreamUpdateXsync_isSome hlost (Or.inl hmode) (h.imp id (fun h => ⟨h, hmode⟩))
  obtain ⟨hup, ⟨s₂, b₂, hlost', hsets⟩, -⟩ := serverReplStreamUpdateXsync_some hrun
  obtain ⟨rfl, -⟩ := Prod.mk.inj (Option.some.inj (hlost.symm.trans hlost'))
  exact ⟨s', b', hrun, hsets, hup⟩

/-- What a replica in xsync mode takes as lost: what the master has, will not send, and the replica
does not have. -/
theorem slaveXsyncXcontinue_wellFormed (h : WellFormedHolding r.toServerSets uuid E L)
    (hfits : MergeFits r.toServerSets) (hcont : WellFormedSet cont) (masterUuid replid : Bytes)
    (reploff : Int) (rand : Rand) :
    ∃ slost, WellFormedSet slost ∧ contents slost = contents cont \ (E ∪ L) ∧
      slaveXsyncXcontinue r cont masterUuid replid reploff rand =
        (serverReplStreamUpdateXsync r slost true (some masterUuid) (some replid) reploff
          (rand.sub 2)).map Prod.fst := by
  obtain ⟨gtidSlave, hget, hslave, hset, -⟩ := serverGtidSetGet_wellFormed h hfits (rand.sub 0)
  obtain ⟨slost, hdiff, hslost, hlset⟩ := gtidSetDupDiff_wellFormedSet hcont hslave (rand.sub 1)
  refine ⟨slost, hslost, by rw [hlset, hset], ?_⟩
  simp only [slaveXsyncXcontinue, hget, hdiff, Option.bind_eq_bind, Option.bind_some]
  cases serverReplStreamUpdateXsync r slost true (some masterUuid) (some replid) reploff
    (rand.sub 2) <;> rfl

theorem slaveXsyncXcontinue_eq (h : Holding r.toServerSets uuid E L) (hcont : RegularSet cont)
    (masterUuid replid : Bytes) (reploff : Int) (rand : Rand) :
    ∃ slost, RegularSet slost ∧ contents slost = contents cont \ (E ∪ L) ∧
      slaveXsyncXcontinue r cont masterUuid replid reploff rand =
        (serverReplStreamUpdateXsync r slost true (some masterUuid) (some replid) reploff
          (rand.sub 2)).map Prod.fst := by
  obtain ⟨slost, hslost, hset, hrun⟩ := slaveXsyncXcontinue_wellFormed h.wellFormed h.mergeFits
    hcont.toWellFormedSet masterUuid replid reploff rand
  refine ⟨slost, hslost.regular (fun x hx => ?_), hset, hrun⟩
  rw [hset] at hx
  exact hcont.lt_max (Finset.mem_sdiff.mp hx).1

/-- **The request of a replica** names all of its gtids, and the lost ones again. -/
theorem slaveTryPartialResynchronizationWrite_wellFormed
    (h : WellFormedHolding r.toServerSets uuid E L) (hfits : MergeFits r.toServerSets)
    (hmode : r.replMode.mode = .xsync) (rand : Rand) :
    ∃ gtidSlave, slaveTryPartialResynchronizationWrite r rand =
        some ⟨r.gtidUuidInterested, gtidSlave, r.gtidLost, r.gtidXsyncMaxGap⟩ ∧
      WellFormedSet gtidSlave ∧ contents gtidSlave = E ∪ L ∧
      ∀ k, k ∈ uuids gtidSlave ↔ k ∈ uuids r.gtidExecuted ∨ k ∈ uuids r.gtidLost := by
  obtain ⟨gtidSlave, hget, hslave, hset, huuids⟩ := serverGtidSetGet_wellFormed h hfits rand
  refine ⟨gtidSlave, ?_, hslave, hset, huuids⟩
  simp only [slaveTryPartialResynchronizationWrite, guard, if_pos hmode, hget, Option.pure_def,
    Option.bind_eq_bind, Option.bind_some]

theorem slaveTryPartialResynchronizationWrite_spec (h : Holding r.toServerSets uuid E L)
    (hmode : r.replMode.mode = .xsync) (rand : Rand) :
    ∃ gtidSlave, slaveTryPartialResynchronizationWrite r rand =
        some ⟨r.gtidUuidInterested, gtidSlave, r.gtidLost, r.gtidXsyncMaxGap⟩ ∧
      RegularSet gtidSlave ∧ contents gtidSlave = E ∪ L ∧
      ∀ k, k ∈ uuids gtidSlave ↔ k ∈ uuids r.gtidExecuted ∨ k ∈ uuids r.gtidLost := by
  obtain ⟨gtidSlave, hrun, hslave, hset, huuids⟩ :=
    slaveTryPartialResynchronizationWrite_wellFormed h.wellFormed h.mergeFits hmode rand
  exact ⟨gtidSlave, hrun, hslave.regular (fun x hx => h.lt_max x (hset ▸ hx)), hset, huuids⟩

end Lost

end XredisGtid
