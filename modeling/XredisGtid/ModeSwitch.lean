import XredisGtid.FullResync

/-!
# Switching modes over the wire

A master that has changed its mode has its replicas follow when they come back.  A replica in psync
mode that stands at the switch to xsync is answered with a XCONTINUE line: it takes over the sets of
the master and has just what the master has from then on, also what is executed and what is lost.
A replica in xsync mode that stands at the switch to psync is answered with a CONTINUE line: it
keeps its sets and goes on at the offset of the master.

In psync mode a replica asks as Redis does.
-/
namespace XredisGtid
open Buffer Decimal KeyedIntervals Memory OffsetLog

/-- PSYNC <replid> <offset> -/
def psyncArgv (replid : Bytes) (offset : Int) : List Bytes :=
  [['P', 'S', 'Y', 'N', 'C'].map Char.toUInt8, replid, longText offset]

/-- A replica in psync mode asks, the master answers with a line and goes on with `stream`, and the
replica reads the answer.  Also what is left to be read. -/
def synchronizePsync [RedisReplication] (sds : Sds) (conn : Connection) (master replica : Server)
    (replid : Bytes) (offset : Int) (stream : Bytes) (rand : Rand) :
    Option (Server × SyncResult × ReadOutcome × Bytes) := do
  let (master, reply, result) ←
    ctripMasterTryPartialResynchronization master (psyncArgv replid offset) (rand.sub 0)
  let (response, rest) := ctripReceiveSynchronousResponse conn ((← reply.line) ++ stream)
  let outcome ← slaveTryPartialResynchronizationRead sds replica response (rand.sub 1)
  some (master, result, outcome, rest)

/-! ## From psync to xsync -/

/-- A master that has switched from psync to xsync, and the replid of a replica that has been there
until the switch, which is still in the backlog. -/
structure AtSwitch (s : Server) (replid : Bytes) : Prop where
  mode : s.replMode.mode = .xsync
  prev : s.prevReplMode.mode = .psync
  range : LLONG_MIN ≤ s.replMode.from ∧ s.replMode.from ≤ LLONG_MAX
  created : s.replBacklog.created = true
  backlog : s.replBacklog.off ≤ s.replMode.from ∧
    s.replMode.from ≤ s.replBacklog.off + s.replBacklog.histlen
  asked : replid.head? ≠ some '?'.toUInt8
  known : equalsIgnoreCase replid s.prevReplMode.replid = true ∨
    equalsIgnoreCase replid s.prevReplMode.replid2 = true ∧
      s.replMode.from ≤ s.prevReplMode.secondReplidOffset

section ToXsync
variable {s r r' : Server} {replid replid' masterUuid : Bytes} {reploff : Int} {uuid : Uuid}
  {E L X : Finset (Uuid × Int)} {seq : GtidSeq} {c l cont : GtidSet} {sds : Sds} {conn : Connection}
  {redis : Redis} {p : PropagateServer} {rand : Rand}

/-- **The request of a replica in psync mode** is parsed as one. -/
theorem masterParseSyncRequest_psyncArgv {offset : Int} (hlow : LLONG_MIN ≤ offset)
    (hhigh : offset ≤ LLONG_MAX) (replid : Bytes) (rand : Rand) :
    masterParseSyncRequest (psyncArgv replid offset) rand = some (.psync ⟨replid, offset⟩) := by
  have hpsync : isOption (['P', 'S', 'Y', 'N', 'C'].map Char.toUInt8) PSYNC = true := by decide
  simp only [masterParseSyncRequest, psyncArgv, List.getElem?_cons_zero, List.getElem?_cons_succ,
    hpsync, if_true, masterParsePsyncRequest, getLongLongFromObject_longText hlow hhigh,
    Option.bind_eq_bind, Option.bind_some]

/-- The request is answered as one at the switch. -/
theorem AtSwitch.answer_eq (h : AtSwitch s replid) (rand : Rand) :
    masterAnaPsyncRequest s ⟨replid, s.replMode.from⟩ rand =
      psyncXcontinue s s.replMode.from rand := by
  have hinside : ¬ (¬ s.replBacklog.created ∨ s.replMode.from < s.replBacklog.off ∨
      s.replMode.from > s.replBacklog.off + s.replBacklog.histlen) := by
    rw [h.created]
    have := h.backlog
    simp only [not_true_eq_false, false_or, not_or]
    omega
  have hlocate : locateServerReplMode s .psync s.replMode.from = some .switch := by
    simp [locateServerReplMode, guard, h.mode, h.prev]
  have hprev : (guard (s.prevReplMode.mode = .psync) : Option Unit) = some () := if_pos h.prev
  have hknown : (equalsIgnoreCase replid s.prevReplMode.replid = true ∧
      s.replMode.from ≤ s.replMode.from) ∨ (equalsIgnoreCase replid s.prevReplMode.replid2 = true ∧
      s.replMode.from ≤ s.prevReplMode.secondReplidOffset) :=
    h.known.imp_left (fun heq => ⟨heq, le_refl _⟩)
  rw [masterAnaPsyncRequest, if_neg h.asked, if_neg hinside, hlocate, Option.bind_eq_bind,
    Option.bind_some]
  show psyncPrevious s ⟨replid, s.replMode.from⟩ .switch rand = _
  rw [psyncPrevious, hprev, Option.bind_eq_bind, Option.bind_some]
  exact if_pos hknown

/-- **The answer** has the gtids of the master, but for those indexed from the switch on. -/
theorem AtSwitch.answer (h : AtSwitch s replid) (hold : Holding s.toServerSets uuid E L)
    (hseq : s.gtidSeq = some seq) (hrep : ∃ l f, SeqRep seq l f) (rand : Rand) :
    ∃ result cont, masterAnaPsyncRequest s ⟨replid, s.replMode.from⟩ rand = some result ∧
      result.action = .xcontinue s.replid (s.gtidReploffDelta + (s.replMode.from - 1)) cont
        gtidSetNew ∧ result.offset = s.replMode.from ∧ RegularSet cont ∧
      contents cont = (E ∪ L) \
        gtids (entriesFrom LogEntry.offset s.replMode.from (gtidSeqEntries seq)) ∧
      ∀ k ∈ uuids cont, k ∈ uuids s.gtidExecuted ∨ k ∈ uuids s.gtidLost := by
  obtain ⟨l, f, hrep⟩ := hrep
  obtain ⟨gtidMaster, hget, hmaster, hmset, huuids⟩ := serverGtidSetGet_holding hold (rand.sub 0)
  obtain ⟨Y, hY, hYreg, hYset⟩ := gtidSeqPsync_rep hrep s.replMode.from (rand.sub 1)
  obtain ⟨cont, hdiff, hcont, hcset⟩ := diff_regularSet hmaster hYreg (rand.sub 2)
  have hcur : serverReplModeGetCurReplIdOff s (s.replMode.from - 1) =
      (some s.replid, s.gtidReploffDelta + (s.replMode.from - 1)) := by
    rw [serverReplModeGetCurReplIdOff, h.mode]
  refine ⟨⟨_, s.replMode.from, 0, .psyncToXsync⟩, cont, ?_, rfl, rfl, hcont, ?_, fun k hk => ?_⟩
  · rw [h.answer_eq]
    simp only [psyncXcontinue, hget, hseq, hY, hdiff, hcur, Option.bind_eq_bind, Option.bind_some]
    rfl
  · rw [hcset, hmset, hYset]
  · exact (huuids k).mp (gtidSetDiff_uuids hmaster hYreg hdiff hk)

/-- What the replica is after it has switched. -/
theorem slavePsyncXcontinue_switched [RedisReplication]
    (h : slavePsyncXcontinue r c l masterUuid replid reploff rand = some r') :
    Switched2Xsync r replid reploff r' ∧ ¬ r'.cachedMaster ∧
      (r.masterhost = true → masterUuid.length ≤ CONFIG_RUN_ID_SIZE →
        getMasterUuid r' = masterUuid) := by
  obtain ⟨t, -, hswitch⟩ := Option.bind_eq_some_iff.mp h
  obtain ⟨id, hid, hsw, -⟩ := serverReplStreamSwitch2Xsync_some hswitch
  obtain rfl := Option.some.inj hid
  refine ⟨hsw, serverReplStreamSwitch2Xsync_cachedMaster hswitch, fun hhost hlen => ?_⟩
  simp only [serverReplStreamSwitch2Xsync, clearReplicationId2_eq,
    replicationDiscardCachedMaster_eq, Option.bind_eq_bind, Option.bind_eq_some_iff,
    Option.guard_eq_some', exists_const] at hswitch
  obtain ⟨-, -, s₁, hshift, id, -, s₂, hset, uuid, huuid, sets, -, heq⟩ := hswitch
  obtain ⟨-, -, rfl⟩ := shiftServerReplMode_some hshift
  obtain ⟨-, rfl⟩ := ctripSetMasterReploff_some hset
  obtain rfl := Option.some.inj heq
  obtain rfl := Option.some.inj huuid
  refine (if_pos hhost).trans ?_
  show (overwrite r.masterUuid (masterUuid.take CONFIG_RUN_ID_SIZE ++ [0])).take
    (masterUuid.take CONFIG_RUN_ID_SIZE).length = masterUuid
  rw [List.take_of_length_le hlen, overwrite, List.append_assoc, List.take_left]

/-- **The replica follows the answer**: its sets are those of the reply. -/
theorem slavePsyncRead_xcontinue [RedisReplication] (hr : SetsInvariant r.toServerSets)
    (hstate : ReplicaState r)
    (hmode : r.replMode.mode = .psync) (hc : RegularSet c) (hl : RegularSet l) (hoff : 0 ≤ reploff)
    (masterUuid replid : Bytes) (rand : Rand) :
    ∃ out, slavePsyncRead r (.xcontinue c l masterUuid replid reploff) rand = some out ∧
      out.result = .continue ∧
      Holding out.server.toServerSets r.uuid (contents c \ contents l) (contents l) ∧
      out.server.replMode.mode = .xsync ∧ out.server.replid = replid ∧
      out.server.masterReplOffset + out.server.gtidReploffDelta = reploff ∧
      (r.masterhost = true → masterUuid.length ≤ CONFIG_RUN_ID_SIZE →
        getMasterUuid out.server = masterUuid) := by
  obtain ⟨r₁, hswitch, hold⟩ := slavePsyncXcontinue_spec hr hmode (hstate.modes.delta hmode) hc hl
    masterUuid replid reploff rand
  obtain ⟨hsw, hcached, huuid⟩ := slavePsyncXcontinue_switched hswitch
  have hindexed : r₁.gtidSeq.isSome = r₁.replBacklog.created := by
    rw [hsw.backlog, hsw.seq, Option.isSome_map, hstate.indexed]
  obtain ⟨r₂, hcreate⟩ := serverReplStreamResurrectCreate_isSome hcached hindexed replid hoff
  obtain ⟨hsets, hid, hoffset, hdelta, hmodes, huuid'⟩ :=
    serverReplStreamResurrectCreate_some hcreate
  refine ⟨⟨r₂, .continue, some .psyncXcontinue, none⟩, ?_, rfl, ?_, ?_, ?_, ?_, ?_⟩
  · simp only [slavePsyncRead, hswitch, hcreate, Option.bind_eq_bind, Option.bind_some]
  · exact hsets ▸ hold
  · exact (congrArg ReplMode.mode hmodes).trans hsw.mode
  · exact hid.trans hsw.replid
  · show r₂.masterReplOffset + r₂.gtidReploffDelta = reploff
    rw [hoffset, hdelta, hsw.offset, hsw.delta]
    omega
  · exact fun hhost hlen => huuid'.trans (huuid hhost hlen)

/-- What a master that has executed `E` and lost `L` has, without some that it has executed. -/
theorem sdiff_lost (hdisj : Disjoint E L) (X : Finset (Uuid × Int)) :
    ((E ∪ L) \ X) \ L = E \ X := by
  ext x
  have hnot : x ∈ E → x ∉ L := fun hx => Finset.disjoint_left.mp hdisj hx
  simp only [Finset.mem_sdiff, Finset.mem_union]
  tauto

/-- **The exchange at the switch to xsync.** -/
theorem AtSwitch.synchronize_spec [RedisReplication] (hsds : sds.Splits) (hconn : conn.ReadsLines)
    (h : AtSwitch s replid) (hold : Holding s.toServerSets uuid E L) (hdisj : Disjoint E L)
    (hseq : s.gtidSeq = some seq) (hrep : ∃ l f, SeqRep seq l f)
    (hX : gtids (entriesFrom LogEntry.offset s.replMode.from (gtidSeqEntries seq)) = X)
    (hcont : RegularSet cont) (hcset : contents cont = (E ∪ L) \ X)
    (hpresents : Presents s cont (s.gtidReploffDelta + (s.replMode.from - 1)))
    (hr : SetsInvariant r.toServerSets) (hstate : ReplicaState r)
    (hmode : r.replMode.mode = .psync) (stream : Bytes) (rand : Rand) :
    ∃ result out, synchronizePsync sds conn s r replid s.replMode.from stream rand =
        some (s, result, out, stream) ∧ out.result = .continue ∧
      result.offset = s.replMode.from ∧
      Holding out.server.toServerSets r.uuid (E \ X) L ∧
      out.server.replMode.mode = .xsync ∧ out.server.replid = s.replid ∧
      out.server.masterReplOffset + out.server.gtidReploffDelta =
        s.gtidReploffDelta + (s.replMode.from - 1) ∧
      (r.masterhost = true → getMasterUuid out.server = getMasterUuid s) := by
  obtain ⟨result, c, hana, hact, hoffset, hc, hccont, hplain⟩ :=
    h.answer hold hseq hrep ((rand.sub 0).sub 1)
  rw [hX] at hccont
  have hreply := masterReplySyncRequest_xcontinue_eq h.created hact rfl (hoffset ▸ h.backlog.1)
    (Or.inl h.mode) ((rand.sub 0).sub 2)
  obtain ⟨line, text, c', l, hline, hreceive, hparse, hc', hcset', hl, hlset⟩ :=
    hpresents.read_line hsds hconn hold.lost hc (hccont.trans hcset.symm) hcont hplain stream
      ((rand.sub 1).sub 0)
  obtain ⟨out, hout, hresult, hold', hmode', hid, hoff, huuid⟩ := slavePsyncRead_xcontinue hr hstate
    hmode hc' hl hpresents.identity.reploff_nonneg (getMasterUuid s) s.replid ((rand.sub 1).sub 1)
  rw [hcset', hcset, hlset, hold.lost_eq, sdiff_lost hdisj X] at hold'
  have hmaster : ctripMasterTryPartialResynchronization s (psyncArgv replid s.replMode.from)
      (rand.sub 0) = some (s, .xcontinue c s.gtidLost (getMasterUuid s) s.replid
        (s.gtidReploffDelta + (s.replMode.from - 1)), result) := by
    simp only [ctripMasterTryPartialResynchronization,
      masterParseSyncRequest_psyncArgv h.range.1 h.range.2, masterAnaSyncRequest, hana, hreply,
      Option.bind_eq_bind, Option.bind_some]
  have hnot : r.replMode.mode ≠ .xsync := by
    rw [hmode]
    exact Mode.noConfusion
  have hread : slaveTryPartialResynchronizationRead sds r text (rand.sub 1) = some out := by
    rw [slaveTryPartialResynchronizationRead, hparse, Option.bind_eq_bind, Option.bind_some]
    exact (if_pos hnot).trans hout
  refine ⟨result, out, ?_, hresult, hoffset, hold', hmode', hid, hoff,
    fun hhost => huuid hhost hpresents.uuid_short⟩
  simp only [synchronizePsync, hmaster, hline, hreceive, hread, Option.bind_eq_bind,
    Option.bind_some]

end ToXsync

/-! ## The CONTINUE line -/

def continueText (replid : Bytes) (reploff : Int) : Bytes :=
  CONTINUE ++ space :: replid ++ space :: longText reploff

section Line
variable {replid : Bytes} {reploff : Int} {c : UInt8} {sds : Sds} {rand : Rand}

theorem WordByte.not_isBlank (h : WordByte c) : isBlank c = false := by
  apply decide_eq_false
  rintro (rfl | rfl)
  · exact absurd h (by decide)
  · exact absurd h (by decide)

theorem WordByte.not_isLineEnd (h : WordByte c) : isLineEnd c = false := by
  have hends : ∀ c ∈ crlf, ¬ WordByte c := by decide +kernel
  apply decide_eq_false
  rintro (hmem | rfl)
  · exact hends c hmem h
  · exact h.1 rfl

/-- Blanks in front of a word are skipped. -/
theorem IsWord.dropWhile_isBlank (h : IsWord replid) (rest : Bytes) :
    (space :: (replid ++ rest)).dropWhile isBlank = replid ++ rest := by
  obtain ⟨hne, hword⟩ := h
  cases replid with
  | nil => exact absurd rfl hne
  | cons c l =>
    have hc := (hword c List.mem_cons_self).not_isBlank
    rw [List.dropWhile_cons_of_pos (by decide), List.cons_append,
      List.dropWhile_cons_of_neg (by rw [hc]; exact Bool.false_ne_true)]

theorem length_continueText (replid : Bytes) (reploff : Int) :
    (continueText replid reploff).length = replid.length + (longText reploff).length + 11 := by
  have hname : CONTINUE.length = 9 := rfl
  simp only [continueText, List.length_append, List.length_cons, hname]
  omega

/-- **The master writes the line.** -/
theorem line_continue (hid : IsWord replid) (hlen : replid.length = CONFIG_RUN_ID_SIZE)
    (hlow : 0 ≤ reploff) (hhigh : reploff ≤ LLONG_MAX) :
    SyncReply.line (.continue replid (some reploff)) =
      some (continueText replid reploff ++ crlf) := by
  have hnumber := length_longText_le_twenty (le_trans (by decide : LLONG_MIN ≤ 0) hlow) hhigh
  have htext := length_continueText replid reploff
  have hforty : CONFIG_RUN_ID_SIZE = 40 := rfl
  have htwo : crlf.length = 2 := rfl
  have hshort : (continueText replid reploff ++ crlf).length < 128 := by
    rw [List.length_append]
    omega
  rw [SyncReply.line, cString_eq (hid.notMem not_wordByte_zero)]
  show printed 128 (continueText replid reploff ++ crlf) = _
  exact printed_eq hshort (by omega)

/-- A byte that is in no word, nor a space, is not in the line. -/
theorem notMem_continueText (hid : IsWord replid) (hlow : 0 ≤ reploff) (hc : ¬ WordByte c)
    (hspace : c ≠ space) (hhead : c ∉ CONTINUE) : c ∉ continueText replid reploff := by
  have hnumber := (isWord_longText hlow).notMem hc
  have hword := hid.notMem hc
  simp only [continueText, List.mem_append, List.mem_cons, not_or]
  exact ⟨⟨hhead, hspace, hword⟩, hspace, hnumber⟩

/-- **The replica reads it back.** -/
theorem parseSyncReply_continueText (hid : IsWord replid)
    (hlen : replid.length = CONFIG_RUN_ID_SIZE) (hlow : 0 ≤ reploff) (hhigh : reploff ≤ LLONG_MAX) :
    parseSyncReply sds (continueText replid reploff) rand =
      some (.pcontinue (some replid) true reploff) := by
  have hnumber := isWord_longText hlow
  have hstart : continueStart (continueText replid reploff) =
      replid ++ space :: longText reploff := by
    rw [continueStart, continueText, List.append_assoc, List.drop_left, List.cons_append,
      hid.dropWhile_isBlank]
  have hreplid : continueReplid (continueText replid reploff) = replid := by
    rw [continueReplid, hstart, List.takeWhile_append_of_pos,
      List.takeWhile_cons_of_neg (by decide), List.append_nil]
    intro c hc
    rw [(hid.2 c hc).not_isBlank, (hid.2 c hc).not_isLineEnd]
    rfl
  have hrest : continueRest (continueText replid reploff) = longText reploff := by
    have hblank := hnumber.dropWhile_isBlank []
    rw [List.append_nil] at hblank
    rw [continueRest, hstart, hreplid, List.drop_left, hblank]
  have hreploff : continueReploff (continueText replid reploff) = longText reploff := by
    rw [continueReploff, hrest, List.takeWhile_eq_self_iff]
    intro c hc
    rw [(hnumber.2 c hc).not_isLineEnd]
    rfl
  have hhead : CONTINUE <+: continueText replid reploff := by
    rw [continueText, List.append_assoc]
    exact List.prefix_append _ _
  have hne : continueReploff (continueText replid reploff) ≠ [] := by
    rw [hreploff]
    exact hnumber.1
  rw [parseSyncReply_continue hhead, parseSyncReplyContinue_reploff (by rw [hreplid, hlen]) hne,
    hreploff, hreplid, number_longText (le_trans (by decide : LLONG_MIN ≤ 0) hlow) hhigh]

end Line

/-! ## From xsync to psync -/

/-- A master that has switched from xsync to psync, and a replica in xsync mode that stands at the
switch and is close enough. -/
structure AtPsyncSwitch (s r : Server) (uuid k : Uuid) (E L E' L' : Finset (Uuid × Int))
    (slave : GtidSet) : Prop where
  master : Holding s.toServerSets uuid E L
  replica : Holding r.toServerSets k E' L'
  disjoint' : Disjoint E' L'
  mode : s.replMode.mode = .psync
  prev : s.prevReplMode.mode = .xsync
  delta : s.gtidReploffDelta = 0
  mode' : r.replMode.mode = .xsync
  index : ∀ seq, s.gtidSeq = some seq → ∃ l f, SeqRep seq l f
  state : ReplicaState r
  slave_eq : contents slave = E' ∪ L'
  point : continueAt s slave = s.replMode.from
  range : 1 ≤ s.replMode.from ∧ s.replMode.from ≤ LLONG_MAX
  replid_word : IsWord s.replid
  replid_length : s.replid.length = CONFIG_RUN_ID_SIZE
  interested : r.gtidUuidInterested ≠ GTID_XSYNC_UUID_INTERESTED_FULLRESYNC
  related : ∃ x ∈ contents slave, x.1 ∈ uuids s.gtidExecuted ∨ x.1 ∈ uuids s.gtidLost
  created : s.replBacklog.created = true
  backlog : s.replBacklog.off ≤ s.replMode.from
  gap : (gapSize E E' (gtids (streamed s slave)) : Int) ≤ r.gtidXsyncMaxGap

section ToPsync
variable {s r : Server} {uuid k : Uuid} {E L E' L' : Finset (Uuid × Int)} {slave : GtidSet}
  {request : XsyncRequest} {replid : Bytes} {reploff : Int} {sds : Sds} {conn : Connection}
  {rand : Rand}

theorem AtPsyncSwitch.reploff_nonneg (h : AtPsyncSwitch s r uuid k E L E' L' slave) :
    0 ≤ s.replMode.from - 1 := by
  have := h.range.1
  omega

/-- **The answer** is to go on in psync, and what the replica has beyond the master is lost
there. -/
theorem AtPsyncSwitch.answer (h : AtPsyncSwitch s r uuid k E L E' L' slave)
    (hmaxgap : r.gtidXsyncMaxGap ≤ LLONG_MAX)
    (hinterested : request.uuidInterested = r.gtidUuidInterested)
    (hgap : request.maxgap = r.gtidXsyncMaxGap) (hslave : RegularSet request.gtidSlave)
    (hset : contents request.gtidSlave = E' ∪ L')
    (hlost : RegularSet request.gtidLost) (hlset : contents request.gtidLost = L') (rand : Rand) :
    ∃ result deltaLost, masterAnaXsyncRequest s request rand = some result ∧
      result.action = .continue s.replid (s.replMode.from - 1) (some deltaLost) ∧
      result.offset = s.replMode.from ∧ RegularSet deltaLost ∧
      contents deltaLost = (E' ∪ L') \ (E ∪ L) := by
  have hlocate : locateServerReplMode s .xsync (continueAt s slave) = some .switch := by
    rw [h.point]
    simp [locateServerReplMode, guard, h.mode, h.prev]
  obtain ⟨cont, mlost, hmlost, hmset, hrun⟩ := masterAnaXsyncRequest_accepts h.master h.index
    h.disjoint' hslave hset h.slave_eq hlost hlset (hinterested ▸ h.interested) h.related
    (h.point ▸ h.backlog) hlocate rfl (hgap ▸ h.gap) (hgap ▸ hmaxgap) rand
  rw [h.point] at hrun
  exact ⟨_, mlost, hrun, rfl, rfl, hmlost, hmset⟩

/-- **The replica follows the answer**: it keeps its sets, and stands where the master goes on. -/
theorem slaveXsyncRead_continue [RedisReplication] (hstate : ReplicaState r)
    (hmode : r.replMode.mode = .xsync)
    (hoff : 0 ≤ reploff) (replid : Bytes) (isSet : Bool) (rand : Rand) :
    ∃ out, slaveXsyncRead r (.pcontinue (some replid) isSet reploff) rand = some out ∧
      out.result = .continue ∧ out.server.toServerSets = r.toServerSets ∧
      out.server.replMode.mode = .psync ∧ out.server.replid = replid ∧
      out.server.masterReplOffset = reploff ∧ out.server.gtidReploffDelta = 0 := by
  have hlinks : ¬ r.cachedMaster ∧ ¬ r.master := (hstate.links hmode).symm
  have hguard : (guard (¬ r.cachedMaster ∧ ¬ r.master) : Option Unit) = some () := if_pos hlinks
  obtain ⟨r₁, hswitch⟩ :=
    serverReplStreamSwitch2Psync_isSome hmode (hstate.links hmode) hoff replid
  obtain ⟨id, hid, hsw⟩ := serverReplStreamSwitch2Psync_some hswitch
  obtain rfl := Option.some.inj hid
  have heff : StreamEffect r (.switch2Psync replid reploff) r₁ := .switched2Psync _ _ hsw
  obtain ⟨r₂, hcreate⟩ := serverReplStreamResurrectCreate_isSome
    (serverReplStreamSwitch2Psync_cachedMaster hswitch) (heff.indexed hstate.indexed) replid hoff
  obtain ⟨hsets, hreplid, hoffset, hdelta, hmodes, -⟩ :=
    serverReplStreamResurrectCreate_some hcreate
  refine ⟨⟨r₂, .continue, some .xsyncContinue, none⟩, ?_, rfl, hsets.trans hsw.sets,
    (congrArg ReplMode.mode hmodes).trans hsw.mode, hreplid.trans hsw.replid,
    hoffset.trans hsw.offset, hdelta.trans hsw.delta⟩
  simp only [slaveXsyncRead, hguard, hswitch, hcreate, Option.bind_eq_bind, Option.bind_some]

/-- **The reply** of a master that takes in what the replica has beyond it. -/
theorem AtPsyncSwitch.reply [RedisReplication] (h : AtPsyncSwitch s r uuid k E L E' L' slave)
    {result : SyncResult} {deltaLost : GtidSet}
    (haction : result.action = .continue s.replid (s.replMode.from - 1) (some deltaLost))
    (hoffset : result.offset = s.replMode.from) (hdelta : RegularSet deltaLost)
    (hdset : contents deltaLost = (E' ∪ L') \ (E ∪ L))
    (htaken : LostTaken E L ((E' ∪ L') \ (E ∪ L)) s.gtidExecuted.curnext uuid) (rand : Rand) :
    ∃ sets, masterReplySyncRequest s result rand =
        some (s.setSets sets, .continue s.replid (some (s.replMode.from - 1))) ∧
      Holding sets uuid E (L ∪ (E' ∪ L') \ (E ∪ L)) := by
  obtain ⟨sets, b, hup, hold⟩ :=
    serverReplStreamUpdateXsync_taken h.master (Or.inr h.delta) hdelta hdset htaken rand
  have hsetup : masterSetupPartialSynchronization (s.setSets sets) result.offset =
      some (s.setSets sets) :=
    masterSetupPartialSynchronization_eq h.created (hoffset ▸ h.backlog)
  have hnot : ¬ s.replMode.from - 1 < 0 := not_lt.mpr h.reploff_nonneg
  refine ⟨sets, ?_, hold⟩
  simp only [masterReplySyncRequest, haction, hup, hsetup, if_neg hnot, Option.bind_eq_bind,
    Option.bind_some]

/-- The replica reads the line that the master has written. -/
theorem AtPsyncSwitch.read_line (h : AtPsyncSwitch s r uuid k E L E' L' slave) (sds : Sds)
    (hconn : conn.ReadsLines) (stream : Bytes) (rand : Rand) :
    ∃ line text, SyncReply.line (.continue s.replid (some (s.replMode.from - 1))) = some line ∧
      ctripReceiveSynchronousResponse conn (line ++ stream) = (text, stream) ∧
      parseSyncReply sds text rand =
        some (.pcontinue (some s.replid) true (s.replMode.from - 1)) := by
  have hlow := h.reploff_nonneg
  have hhigh : s.replMode.from - 1 ≤ LLONG_MAX := by
    have := h.range.2
    omega
  have hnewline : newline ∉ continueText s.replid (s.replMode.from - 1) :=
    notMem_continueText h.replid_word hlow not_wordByte_newline (by decide) (by decide)
  have hzero : 0 ∉ continueText s.replid (s.replMode.from - 1) :=
    notMem_continueText h.replid_word hlow not_wordByte_zero (by decide) (by decide)
  have hnumber := length_longText_le_twenty (le_trans (by decide : LLONG_MIN ≤ 0) hlow) hhigh
  have hid := h.replid_length
  have hforty : CONFIG_RUN_ID_SIZE = 40 := rfl
  have hmax : GTID_XSYNC_MAX_REPLY_SIZE = 65536 := rfl
  refine ⟨_, _, line_continue h.replid_word hid hlow hhigh,
    ctripReceiveSynchronousResponse_line hconn hnewline hzero ?_,
    parseSyncReply_continueText h.replid_word hid hlow hhigh⟩
  rw [length_continueText]
  omega

end ToPsync

end XredisGtid
