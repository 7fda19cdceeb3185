import XredisGtid.Reconnect

/-!
# A full synchronization

A master in xsync mode that does not continue the stream of a replica sends a XFULLRESYNC line and
the RDB file that it saves at that moment.  The replica reads the line into `gtid_initial` and the
fields of the file into `rsi`, and resets its stream to both.  From there on it follows the master,
and unlike one that comes back it has also executed, and not only taken as lost, what the master
has.

Redis's `readSyncBulkPayload` loads the file and resets the stream, and is a parameter; of the file
only the auxiliary fields are kept, with those of Redis around the three that are saved here.
-/
namespace XredisGtid
open Buffer Decimal KeyedIntervals Memory

/-- What a master sends: a line and a file. -/
def sendFullResync {Rio : Type} (rdbSaveAuxField : Rio → Bytes → Bytes → Rio × Int)
    (master : Server) (rdb : Rio) : Option (Bytes × Rio) := do
  let line ← replicationSetupSlaveForXFullResync master
  let (rdb, ret) ← rdbSaveInfoAuxFieldsGtid rdbSaveAuxField master rdb (some ⟨none⟩)
  guard (ret = 1)
  some (line, rdb)

/-- It is given the replica, what the line has set up and the fields of the file. -/
abbrev ReadSyncBulkPayload := Server → GtidInitialInfo → List (Bytes × Bytes) → Rand → Option Server

/-- What is known of `readSyncBulkPayload`: a file that has been saved in xsync mode resets the
stream to what it says is executed, at what the line has set up.  What is lost is in both. -/
def ReadSyncBulkPayload.Resets [RedisReplication] (readSyncBulkPayload : ReadSyncBulkPayload) :
    Prop :=
  ∀ replica gtidInitial fields rand, ∃ rand₁ rand₂ newReplid, ∀ gtidExecuted gtidLost,
    loadAuxFields fields (some ⟨none⟩) rand₁ =
      some (some ⟨some ⟨.xsync, some gtidExecuted, some gtidLost⟩⟩) →
    ∃ lost, (lost = gtidLost ∨ lost = gtidInitial.gtidLost) ∧
      readSyncBulkPayload replica gtidInitial fields rand =
        serverReplStreamReset2Xsync replica (some gtidInitial.replid) gtidInitial.reploff
          (some gtidInitial.masterUuid) gtidExecuted lost newReplid rand₂

/-- What a replica does with the two.  Also what is left to be read. -/
def receiveFullResync [RedisReplication] (sds : Sds) (conn : Connection)
    (readSyncBulkPayload : ReadSyncBulkPayload)
    (replica : Server) (received : Bytes) (fields : List (Bytes × Bytes)) (rand : Rand) :
    Option (Server × Bytes) := do
  let (response, rest) := ctripReceiveSynchronousResponse conn received
  let outcome ← slaveTryPartialResynchronizationRead sds replica response (rand.sub 0)
  guard (outcome.result = .fullresync)
  let gtidInitial ← outcome.gtidInitial
  let server ← readSyncBulkPayload outcome.server gtidInitial fields (rand.sub 1)
  some (server, rest)

/-! ## The fields of the file -/

/-- A field that is none of the three. -/
structure OtherField (field : Bytes × Bytes) : Prop where
  replMode : equalsIgnoreCase (cString field.1) GTID_AUX_REPL_MODE = false
  executed : equalsIgnoreCase (cString field.1) GTID_AUX_EXECUTED = false
  lost : equalsIgnoreCase (cString field.1) GTID_AUX_LOST = false

section Fields
variable {field : Bytes × Bytes} {fields rest : List (Bytes × Bytes)} {rsi : Option RdbSaveInfo}
  {executed lost : Bytes} {e l : GtidSet} {rand : Rand}

theorem OtherField.load (h : OtherField field) :
    loadInfoAuxFieldsGtid field.1 field.2 rsi rand = some (rsi, false) := by
  simp only [loadInfoAuxFieldsGtid, h.replMode, h.executed, h.lost, Bool.false_eq_true, if_false]

theorem loadAuxFields_others (h : ∀ field ∈ fields, OtherField field) :
    loadAuxFields fields rsi rand = some rsi := by
  induction fields generalizing rand with
  | nil => rfl
  | cons field fields ih =>
    have hload : loadInfoAuxFieldsGtid field.1 field.2 rsi (rand.sub 0) = some (rsi, false) :=
      (h field List.mem_cons_self).load
    rw [loadAuxFields, hload]
    exact ih (fun f hf => h f (List.mem_cons_of_mem _ hf))

/-- The fields in front of some others. -/
theorem loadAuxFields_append (fields : List (Bytes × Bytes)) (rand : Rand) :
    ∃ rand', ∀ rest rsi, loadAuxFields (fields ++ rest) rsi rand =
      (loadAuxFields fields rsi rand).bind (fun rsi => loadAuxFields rest rsi rand') := by
  induction fields generalizing rand with
  | nil => exact ⟨rand, fun _ _ => rfl⟩
  | cons field fields ih =>
    obtain ⟨rand', hrest⟩ := ih (rand.sub 1)
    refine ⟨rand', fun rest rsi => ?_⟩
    rw [List.cons_append, loadAuxFields, loadAuxFields]
    cases loadInfoAuxFieldsGtid field.1 field.2 rsi (rand.sub 0) with
    | none => rfl
    | some r => exact hrest rest r.1

/-- **The three fields of a master in xsync mode**, wherever they stand in the file. -/
theorem loadAuxFields_xsync (hfields : ∀ field ∈ fields, OtherField field)
    (hrest : ∀ field ∈ rest, OtherField field)
    (hexecuted : ∀ rand, ∃ t, gtidSetDecode (executed ++ [0]) 0 executed.length rand =
      some (some t) ∧ RegularSet t ∧ contents t = contents e)
    (hlost : ∀ rand, ∃ t, gtidSetDecode (lost ++ [0]) 0 lost.length rand = some (some t) ∧
      RegularSet t ∧ contents t = contents l) (rand : Rand) :
    ∃ t u, loadAuxFields (fields ++ [(GTID_AUX_REPL_MODE, replModeName .xsync),
        (GTID_AUX_EXECUTED, executed), (GTID_AUX_LOST, lost)] ++ rest) (some ⟨none⟩) rand =
        some (some ⟨some ⟨.xsync, some t, some u⟩⟩) ∧
      RegularSet t ∧ contents t = contents e ∧ RegularSet u ∧ contents u = contents l := by
  obtain ⟨rand₁, hfront⟩ := loadAuxFields_append fields rand
  obtain ⟨rand₂, hmiddle⟩ := loadAuxFields_append [(GTID_AUX_REPL_MODE, replModeName .xsync),
    (GTID_AUX_EXECUTED, executed), (GTID_AUX_LOST, lost)] rand₁
  obtain ⟨t, hdecode, ht, htset⟩ := hexecuted ((rand₁.sub 1).sub 0)
  obtain ⟨u, hdecode', hu, huset⟩ := hlost (((rand₁.sub 1).sub 1).sub 0)
  have hmode : ∀ r, loadInfoAuxFieldsGtid GTID_AUX_REPL_MODE (replModeName .xsync) (some ⟨none⟩) r =
      some (some ⟨some ⟨.xsync, none, none⟩⟩, true) := fun _ => rfl
  have hload : ∀ gtid r, loadInfoAuxFieldsGtid GTID_AUX_EXECUTED executed (some ⟨some gtid⟩) r =
      (gtidSetDecode (executed ++ [0]) 0 executed.length r).bind (fun gtidExecuted =>
        some (some ⟨some { gtid with gtidExecuted := gtidExecuted }⟩, true)) := fun _ _ => rfl
  have hload' : ∀ gtid r, loadInfoAuxFieldsGtid GTID_AUX_LOST lost (some ⟨some gtid⟩) r =
      (gtidSetDecode (lost ++ [0]) 0 lost.length r).bind (fun gtidLost =>
        some (some ⟨some { gtid with gtidLost := some (gtidLost.getD gtidSetNew) }⟩, true)) :=
    fun _ _ => rfl
  refine ⟨t, u, ?_, ht, htset, hu, huset⟩
  rw [List.append_assoc, hfront, loadAuxFields_others hfields, Option.bind_some, hmiddle]
  simp only [loadAuxFields, hmode, hload, hload', hdecode, hdecode', Option.bind_eq_bind,
    Option.bind_some, Option.getD_some]
  exact loadAuxFields_others hrest

end Fields

/-! ## The line -/

/-- What the master sends fits in the buffers of the replica, and is read back. -/
structure Transferable (s : Server) : Prop where
  plain : ∀ uuid, uuid ∈ uuids s.gtidExecuted ∨ uuid ∈ uuids s.gtidLost → Plain uuid
  identity : ReplyIdentity (getMasterUuid s) s.replid (s.masterReplOffset + s.gtidReploffDelta)
  uuid_short : (getMasterUuid s).length ≤ CONFIG_RUN_ID_SIZE
  executed_short : (setText s.gtidExecuted).length < 2 ^ 31
  lost_short : (setText s.gtidLost).length + 256 ≤ GTID_XSYNC_MAX_REPLY_SIZE

def xfullresyncText (lost masterUuid replid : Bytes) (reploff : Int) : Bytes :=
  XFULLRESYNC ++ optionText .gtidLost lost ++ optionText .masterUuid masterUuid ++
    optionText .replid replid ++ optionText .reploff (longText reploff)

section Line
variable {s r : Server} {sds : Sds} {conn : Connection} {lost masterUuid replid stream : Bytes}
  {reploff : Int} {c : UInt8} {rand : Rand}

theorem length_xfullresyncText (lost masterUuid replid : Bytes) (reploff : Int) :
    (xfullresyncText lost masterUuid replid reploff).length =
      lost.length + masterUuid.length + replid.length + (longText reploff).length + 53 := by
  have hnames : XFULLRESYNC.length = 12 ∧ ReplyOption.gtidLost.written.length = 9 ∧
      ReplyOption.masterUuid.written.length = 11 ∧ ReplyOption.replid.written.length = 6 ∧
      ReplyOption.reploff.written.length = 7 := by
    decide
  simp only [xfullresyncText, List.length_append, length_optionText, hnames]
  omega

/-- A byte that is in no word, nor a space, is not in the line. -/
theorem notMem_xfullresyncText (h : ReplyIdentity masterUuid replid reploff) (hc : ¬ WordByte c)
    (hspace : c ≠ space) (hhead : c ∉ XFULLRESYNC) (hlost : c ∉ lost) :
    c ∉ xfullresyncText lost masterUuid replid reploff := by
  have hoption : ∀ {option text}, c ∉ text → c ∉ optionText option text :=
    notMem_optionText hc hspace
  have huuid := h.masterUuid_word.notMem hc
  have hid := h.replid_word.notMem hc
  have hoff := (isWord_longText h.reploff_nonneg).notMem hc
  simp only [xfullresyncText, List.mem_append, not_or]
  exact ⟨⟨⟨⟨hhead, hoption hlost⟩, hoption huuid⟩, hoption hid⟩, hoption hoff⟩

/-- **The replica reads the line**, also if nothing is lost. -/
theorem Transferable.read_line (hsds : sds.Splits) (hconn : conn.ReadsLines) (h : Transferable s)
    (hlost : RegularSet s.gtidLost) (hmode : s.replMode.mode = .xsync) (stream : Bytes)
    (rand : Rand) :
    ∃ line text l, replicationSetupSlaveForXFullResync s = some line ∧
      ctripReceiveSynchronousResponse conn (line ++ stream) = (text, stream) ∧
      parseSyncReply sds text rand = some (.xfullresync l (getMasterUuid s) s.replid
        (s.masterReplOffset + s.gtidReploffDelta)) ∧
      RegularSet l ∧ contents l = contents s.gtidLost := by
  have hmax : GTID_XSYNC_MAX_REPLY_SIZE = 65536 := rfl
  have hshort := h.lost_short
  have hsend : Sendable s.gtidLost :=
    ⟨hlost.toWellFormedSet, fun k hk => h.plain k (Or.inr hk), by omega⟩
  obtain ⟨l, hdecode, hl, hset⟩ := hsend.decode_regular hlost (by omega) (rand.sub 0)
  have hline : replicationSetupSlaveForXFullResync s =
      some (xfullresyncText (gtidSetQuoteIfEmpty (setText s.gtidLost)) (getMasterUuid s) s.replid
        (s.masterReplOffset + s.gtidReploffDelta) ++ crlf) := by
    have hid := cString_eq (h.identity.replid_word.notMem not_wordByte_zero)
    simp only [replicationSetupSlaveForXFullResync, ctripGetMasterReploff_eq (Or.inl hmode),
      xfullresyncLine, hsend.dump, hid, xfullresyncText, Option.bind_eq_bind, Option.bind_some]
  have hnewline := notMem_xfullresyncText h.identity not_wordByte_newline (by decide) (by decide)
    hsend.newline_notMem
  have hzero := notMem_xfullresyncText h.identity not_wordByte_zero (by decide) (by decide)
    hsend.quoted_zero
  refine ⟨_, _, l, hline, ctripReceiveSynchronousResponse_line hconn hnewline hzero ?_,
    parseSyncReply_xfullresync hsds h.identity (hsend.writes_args hsds) hdecode, hl, hset⟩
  -- the line is shorter than the buffer
  have hquoted : (gtidSetQuoteIfEmpty (setText s.gtidLost)).length ≤
      (setText s.gtidLost).length + 2 := length_quoted_le _
  have hnumber := length_longText_le_twenty (le_trans (by decide) h.identity.reploff_nonneg)
    h.identity.reploff_le
  have hreplid := h.identity.replid_length
  have huuid := h.uuid_short
  have hforty : CONFIG_RUN_ID_SIZE = 40 := rfl
  rw [length_xfullresyncText]
  omega

/-- A XFULLRESYNC reply is kept for the time when the file is loaded, in either mode. -/
theorem slaveRead_xfullresync [RedisReplication] {text : Bytes} {l : GtidSet} (hr : ReplicaState r)
    (hparse : parseSyncReply sds text (rand.sub 0) =
      some (.xfullresync l masterUuid replid reploff)) :
    ∃ out, slaveTryPartialResynchronizationRead sds r text rand = some out ∧
      out.result = .fullresync ∧ out.gtidInitial = some ⟨l, masterUuid, replid, reploff⟩ ∧
      out.server.toServerSets = r.toServerSets ∧ out.server.masterhost = r.masterhost := by
  by_cases hmode : r.replMode.mode = .xsync
  · have hguard : (guard (¬ r.cachedMaster ∧ ¬ r.master) : Option Unit) = some () :=
      if_pos (hr.links hmode).symm
    refine ⟨⟨r, .fullresync, some .xsyncXfullresync, _⟩, ?_, rfl, rfl, rfl, rfl⟩
    rw [slaveTryPartialResynchronizationRead, hparse, Option.bind_eq_bind, Option.bind_some]
    exact (if_neg (not_not.mpr hmode)).trans (by rw [slaveXsyncRead, hguard]; rfl)
  · refine ⟨⟨{ r with cachedMaster := false }, .fullresync, some .psyncXfullresync, _⟩, ?_, rfl,
      rfl, rfl, rfl⟩
    rw [slaveTryPartialResynchronizationRead, hparse, Option.bind_eq_bind, Option.bind_some]
    exact (if_pos hmode).trans (by rw [slavePsyncRead, replicationDiscardCachedMaster_eq])

end Line

/-! ## The whole exchange -/

section Exchange
variable {Rio : Type} {rdbSaveAuxField : Rio → Bytes → Bytes → Rio × Int}
  {auxFields : Rio → List (Bytes × Bytes)} {rdb : Rio} {redis : Redis} {p : PropagateServer}
  {s r : Server} {sds : Sds} {conn : Connection} {uuid k : Uuid}
  {E L E' L' : Finset (Uuid × Int)} {after : List (Bytes × Bytes)} {stream : Bytes}
  {readSyncBulkPayload : ReadSyncBulkPayload} {rand : Rand}

theorem overwrite_take (array src : Bytes) : (overwrite array src).take src.length = src := by
  rw [overwrite, List.take_left]

/-- **Resetting the stream** to what has been read, in any state of the replica. -/
theorem serverReplStreamReset2Xsync_installs [RedisReplication] {t u : GtidSet} {reploff : Int}
    {replid : Bytes} (h : Holding r.toServerSets k E' L') (ht : RegularSet t) (hu : RegularSet u)
    (hoff : 0 ≤ reploff) (masterUuid newReplid : Bytes) (rand : Rand) :
    ∃ r', serverReplStreamReset2Xsync r (some replid) reploff (some masterUuid) t u newReplid rand =
        some r' ∧ Holding r'.toServerSets k (contents t) (contents u) ∧
      r'.replMode.mode = .xsync ∧ r'.replid = replid ∧ r'.masterReplOffset = reploff ∧
      (r.masterhost = true → getMasterUuid r' = masterUuid) := by
  obtain ⟨sets, hsets, hold, -⟩ := serverGtidSetReset_spec h ht hu rand
  obtain ⟨r', hrun⟩ := serverReplStreamReset2Xsync_isSome (some replid) (some masterUuid) reploff
    newReplid hsets
  obtain ⟨hreset, hsets'⟩ := serverReplStreamReset2Xsync_some hrun
  obtain rfl := Option.some.inj (hsets.symm.trans hsets')
  refine ⟨r', hrun, hold, hreset.mode, hreset.replid replid rfl, hreset.offset hoff,
    fun hhost => ?_⟩
  simp only [serverReplStreamReset2Xsync, clearReplicationId2_eq, Option.bind_eq_bind,
    Option.bind_eq_some_iff] at hrun
  obtain ⟨sets', -, heq⟩ := hrun
  obtain rfl := Option.some.inj heq
  exact (if_pos hhost).trans (overwrite_take _ _)

/-- What the two sides do, and what the replica then has. -/
theorem fullResync_spec [RedisReplication] (hsds : sds.Splits) (hconn : conn.ReadsLines)
    (hsave : SavesAuxField rdbSaveAuxField auxFields) (hbulk : readSyncBulkPayload.Resets)
    (h : Holding s.toServerSets uuid E L) (hmode : s.replMode.mode = .xsync)
    (hsends : Transferable s) (hr : Holding r.toServerSets k E' L') (hstate : ReplicaState r)
    (hbefore : ∀ field ∈ auxFields rdb, OtherField field)
    (hafter : ∀ field ∈ after, OtherField field) (stream : Bytes) (rand : Rand) :
    ∃ line rdb', sendFullResync rdbSaveAuxField s rdb = some (line, rdb') ∧
      ∃ r', receiveFullResync sds conn readSyncBulkPayload r (line ++ stream)
          (auxFields rdb' ++ after) rand = some (r', stream) ∧ Holding r'.toServerSets k E L ∧
        r'.replMode.mode = .xsync ∧ r'.replid = s.replid ∧
        r'.masterReplOffset = s.masterReplOffset + s.gtidReploffDelta ∧
        (r.masterhost = true → getMasterUuid r' = getMasterUuid s) := by
  have hmax : GTID_XSYNC_MAX_REPLY_SIZE = 65536 := rfl
  have hshort := hsends.executed_short
  have hshort' := hsends.lost_short
  have hexecuted : Sendable s.gtidExecuted :=
    ⟨h.executed.toWellFormedSet, fun k hk => hsends.plain k (Or.inl hk), by omega⟩
  have hlost : Sendable s.gtidLost :=
    ⟨h.lost.toWellFormedSet, fun k hk => hsends.plain k (Or.inr hk), by omega⟩
  obtain ⟨line, text, l, hline, hreceive, hparse, hl, hlset⟩ :=
    hsends.read_line hsds hconn h.lost hmode stream ((rand.sub 0).sub 0)
  obtain ⟨out, hread, hresult, hinitial, hsets, hhost⟩ := slaveRead_xfullresync hstate hparse
  obtain ⟨rdb', hsaved, hfields⟩ : ∃ rdb', rdbSaveInfoAuxFieldsGtid rdbSaveAuxField s
      rdb (some ⟨none⟩) = some (rdb', 1) ∧ auxFields rdb' = auxFields rdb ++ _ :=
    rdbSaveInfoAuxFieldsGtid_spec hsave hexecuted.dump hlost.dump ⟨none⟩
  rw [hmode] at hfields
  obtain ⟨rand₁, rand₂, newReplid, hpayload⟩ := hbulk out.server
    ⟨l, getMasterUuid s, s.replid, s.masterReplOffset + s.gtidReploffDelta⟩
    (auxFields rdb' ++ after) (rand.sub 1)
  obtain ⟨t, u, hload, ht, htset, hu, huset⟩ := loadAuxFields_xsync hbefore hafter
    (hexecuted.decode_regular h.executed.toRegularSet hshort)
    (hlost.decode_regular h.lost (by omega)) rand₁
  rw [← hfields] at hload
  obtain ⟨lost, hcases, hpayload⟩ := hpayload t u hload
  -- the line and the file agree
  have hlost' : RegularSet lost ∧ contents lost = contents s.gtidLost := by
    rcases hcases with rfl | rfl
    · exact ⟨hu, huset⟩
    · exact ⟨hl, hlset⟩
  obtain ⟨r', hreset, hold, hmode', hreplid, hoff, huuid⟩ := serverReplStreamReset2Xsync_installs
    (r := out.server) (hsets ▸ hr) ht hlost'.1 hsends.identity.reploff_nonneg (getMasterUuid s)
    newReplid rand₂
  rw [htset, hlost'.2, h.executed_eq, h.lost_eq] at hold
  have hfull : (guard (out.result = .fullresync) : Option Unit) = some () := if_pos hresult
  refine ⟨line, rdb', ?_, r', ?_, hold, hmode', hreplid, hoff, fun h => huuid (hhost.trans h)⟩
  · simp only [sendFullResync, hline, hsaved, Option.bind_eq_bind, Option.bind_some]
    rfl
  · simp only [receiveFullResync, hreceive, hread, hfull, hinitial, hpayload, hreset,
      Option.bind_eq_bind, Option.bind_some]

theorem LinkRun.complete [RedisReplication] {link link' : ReplLink} (hredis : ReadsDbid redis)
    (h : LinkReachable redis link) (hc : Complete redis link) (hrun : LinkRun redis link link') :
    Complete redis link' := by
  induction hrun with
  | refl => exact hc
  | step op rand hrun hv hstep ih =>
    exact op.step_complete hredis ((h.run hrun).invariant hredis) ih hv hstep

/-- A replica that has executed and lost what its master has keeps up with it. -/
theorem Serving.follows [RedisReplication] {sets : ServerSets} {link : ReplLink}
    (hredis : ReadsDbid redis) (hp : Serving redis p) (hsets : SetsInvariant sets)
    (hE : contents sets.gtidExecuted = contents p.gtidExecuted)
    (hL : contents sets.gtidLost = contents p.gtidLost)
    (hrun : LinkRun redis ⟨p, [], sets⟩ link) (rand : Rand) :
    ∃ replica, replicaExecuteAll redis link.replica link.inFlight rand =
        some (replica, link.inFlight.map (fun _ => true)) ∧
      contents replica.gtidExecuted = contents link.master.gtidExecuted ∧
      contents replica.gtidLost = contents link.master.gtidLost := by
  have hstart : LinkReachable redis ⟨p, [], sets⟩ := by
    refine .start hp.reachable hp.out hp.uuid hsets ?_
    rw [hE, hL]
  have hcomplete : Complete redis ⟨p, [], sets⟩ := by
    refine ⟨?_, hL.symm⟩
    rw [hE]
    exact (Finset.union_empty _).symm
  have hlink := hrun.complete hredis hstart hcomplete
  have hinv := (hstart.run hrun).invariant hredis
  obtain ⟨replica, hall, hholding⟩ := replicaExecuteAll_spec link.inFlight
    (Holding.self hinv.replica) hinv.executable hinv.nodup hinv.new rand
  refine ⟨replica, hall, ?_, ?_⟩
  · rw [hholding.executed_eq, hlink.executed]
    rfl
  · rw [hholding.lost_eq, hlink.lost]

/-- It resets the stream to the set of the file and to that of the line. -/
def loadBulkPayload : ReadSyncBulkPayload := fun replica gtidInitial fields rand => do
  let rsi ← loadAuxFields fields (some ⟨none⟩) (rand.sub 0)
  let gtid ← rsi.bind RdbSaveInfo.gtid
  guard (gtid.replMode = .xsync)
  serverReplStreamReset2Xsync replica (some gtidInitial.replid) gtidInitial.reploff
    (some gtidInitial.masterUuid) (← gtid.gtidExecuted) gtidInitial.gtidLost [] (rand.sub 1)

theorem loadBulkPayload_resets : loadBulkPayload.Resets := by
  intro replica gtidInitial fields rand
  refine ⟨rand.sub 0, rand.sub 1, [], fun gtidExecuted gtidLost hload =>
    ⟨gtidInitial.gtidLost, Or.inr rfl, ?_⟩⟩
  simp only [loadBulkPayload, hload, Option.bind_eq_bind, Option.bind_some]
  rfl

end Exchange

end XredisGtid
