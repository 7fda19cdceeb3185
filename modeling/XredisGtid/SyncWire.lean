import XredisGtid.SyncConverge
import XredisGtid.SyncReplyRead
import XredisGtid.SyncRequest

/-!
# A synchronization over the wire

A replica in xsync mode sends its request as text, the master parses it and answers with a line,
and the replica reads the line from the connection.  From there on it executes what the master
sends, and both sides end with the same gtids: nothing is lost on the way through the texts, not
even of an empty set, which is read as a uuid without gnos.
-/
namespace XredisGtid
open Buffer Decimal KeyedIntervals Memory

/-! ## Reading a line -/

def GTID_XSYNC_MAX_REPLY_SIZE : Nat := 64 * 1024
def newline : UInt8 := '\n'.toUInt8

/-- `connSyncReadLine(conn,buf,size,timeout)`: what is written to the buffer and what is left to be
read, or the text of `errno`. -/
structure Connection where
  connSyncReadLine : Bytes → Nat → Except Bytes (Bytes × Bytes)

/-- A line for which the buffer is large enough is read, without its end. -/
def Connection.ReadsLines (conn : Connection) : Prop :=
  ∀ line rest size, newline ∉ line → line.length + crlf.length < size →
    conn.connSyncReadLine (line ++ crlf ++ rest) size = .ok (line, rest)

/-- XCONTINUE reply could exceed 256 byte.  Also what is left to be read. -/
def ctripReceiveSynchronousResponse (conn : Connection) (received : Bytes) : Bytes × Bytes :=
  match conn.connSyncReadLine received GTID_XSYNC_MAX_REPLY_SIZE with
  | .error errno => (READING_FROM_MASTER ++ space :: errno, received)
  | .ok (buf, rest) => (cString buf, rest)

/-- A replica asks, the master answers with a line and goes on with `stream`, and the replica reads
the answer.  Also what is left to be read. -/
def synchronize [RedisReplication] (sds : Sds) (conn : Connection) (master replica : Server)
    (stream : Bytes) (rand : Rand) : Option (Server × SyncResult × ReadOutcome × Bytes) := do
  let argv ← ctripSlaveTryPartialResynchronizationWrite replica (rand.sub 0)
  let (master, reply, result) ← ctripMasterTryPartialResynchronization master argv (rand.sub 1)
  let (response, rest) := ctripReceiveSynchronousResponse conn ((← reply.line) ++ stream)
  let outcome ← slaveTryPartialResynchronizationRead sds replica response (rand.sub 2)
  some (master, result, outcome, rest)

/-! ## Texts -/

section Text
variable {s t : GtidSet} {c : UInt8} {option : ReplyOption} {text line stream : Bytes}
  {conn : Connection} {cont lost masterUuid replid : Bytes} {reploff : Int} {rand : Rand}

theorem not_wordByte_newline : ¬ WordByte newline := by decide

theorem notMem_optionText (hc : ¬ WordByte c) (hspace : c ≠ space) (h : c ∉ text) :
    c ∉ optionText option text := by
  have hname := (isWord_written option).notMem hc
  rw [optionText, List.cons_append, List.mem_cons, List.mem_append, List.mem_cons]
  tauto

theorem Sendable.notMem_quoted (h : Sendable s) (hc : ¬ WordByte c) (hquote : c ≠ quote) :
    c ∉ gtidSetQuoteIfEmpty (setText s) := by
  by_cases hnil : setText s = []
  · rw [hnil, show gtidSetQuoteIfEmpty [] = [quote, quote] from rfl]
    simp [hquote]
  · rw [gtidSetQuoteIfEmpty_of_ne hnil]
    exact fun hmem => hc (h.wordByte _ hmem)

theorem Sendable.newline_notMem (h : Sendable s) : newline ∉ gtidSetQuoteIfEmpty (setText s) :=
  h.notMem_quoted not_wordByte_newline (by decide)

theorem length_quoted_le (text : Bytes) :
    (gtidSetQuoteIfEmpty text).length ≤ text.length + 2 := by
  rw [gtidSetQuoteIfEmpty]
  split
  · rw [List.length_append]
    exact le_refl _
  · exact Nat.le_add_right _ _

theorem newline_notMem_xcontinueText (h : ReplyIdentity masterUuid replid reploff)
    (hcont : newline ∉ cont) (hlost : newline ∉ lost) :
    newline ∉ xcontinueText cont lost masterUuid replid reploff := by
  have hspace : newline ≠ space := by decide
  have hoption : ∀ {option text}, newline ∉ text → newline ∉ optionText option text :=
    notMem_optionText not_wordByte_newline hspace
  have hhead : newline ∉ XCONTINUE := by decide
  have huuid := h.masterUuid_word.notMem not_wordByte_newline
  have hid := h.replid_word.notMem not_wordByte_newline
  have hoff := (isWord_longText h.reploff_nonneg).notMem not_wordByte_newline
  simp only [xcontinueText, List.mem_append, not_or]
  exact ⟨⟨⟨⟨⟨hhead, hoption hcont⟩, hoption hlost⟩, hoption huuid⟩, hoption hid⟩, hoption hoff⟩

theorem zero_notMem_xcontinueText (h : ReplyIdentity masterUuid replid reploff)
    (hcont : 0 ∉ cont) (hlost : 0 ∉ lost) :
    0 ∉ xcontinueText cont lost masterUuid replid reploff := by
  have hhead : 0 ∉ XCONTINUE := by decide
  have huuid := h.masterUuid_word.notMem not_wordByte_zero
  have hid := h.replid_word.notMem not_wordByte_zero
  have hoff := (isWord_longText h.reploff_nonneg).notMem not_wordByte_zero
  simp only [xcontinueText, List.mem_append, not_or]
  exact ⟨⟨⟨⟨⟨hhead, zero_notMem_optionText hcont⟩, zero_notMem_optionText hlost⟩,
    zero_notMem_optionText huuid⟩, zero_notMem_optionText hid⟩, zero_notMem_optionText hoff⟩

theorem ctripReceiveSynchronousResponse_line (hconn : conn.ReadsLines) (hnewline : newline ∉ line)
    (hzero : 0 ∉ line) (hlen : line.length + 2 < GTID_XSYNC_MAX_REPLY_SIZE) :
    ctripReceiveSynchronousResponse conn (line ++ crlf ++ stream) = (line, stream) := by
  have hread := hconn line stream GTID_XSYNC_MAX_REPLY_SIZE hnewline hlen
  simp only [ctripReceiveSynchronousResponse, hread, cString_eq hzero]

/-- A text without separators is read as a uuid, which has no gnos. -/
theorem gtidSetDecode_uuid {uuid : Uuid} (hne : uuid ≠ []) (hcolon : colon ∉ uuid)
    (hsplit : split ∉ uuid) (hlen : uuid.length < 2 ^ 31) (rand : Rand) :
    ∃ t, gtidSetDecode (uuid ++ [0]) 0 uuid.length rand = some (some t) ∧ RegularSet t ∧
      contents t = ∅ := by
  have htext : TextAt (uuid ++ [0]) 0 uuid := (textAt_append.mp (textAt_self (uuid ++ [0]))).1
  have hstart : intOfSize ((0 : Nat) : Int) = ((0 : Nat) : Int) := intOfSize_natCast (by decide)
  obtain ⟨t, happend, hrep, -⟩ := gtidSetAppend_rep (u := uuidSetNew uuid) setRep_new rfl
    gtidIntervalSkipListNew_spec.1
  have hstep : decodeUuidSet (uuid ++ [0]) 0 rand gtidSetNew 0 (0 + uuid.length) =
      some (some t) := by
    rw [decodeUuidSet_eq hstart, Nat.zero_add, Nat.zero_add, Nat.cast_zero, sub_zero,
      intOfSize_natCast hlen, uuidSetDecode_plain htext hne hcolon, andThen_some, happend]
    rfl
  have hdecode : gtidSetDecode (uuid ++ [0]) 0 uuid.length rand = some (some t) := by
    have hloop := forPieces_skip (decodeUuidSet (uuid ++ [0]) 0 rand) 0 0 0 gtidSetNew
      (by rwa [Nat.add_zero]) hsplit
    rw [gtidSetDecode, if_neg (fun h => hne (List.length_eq_zero_iff.mp h))]
    exact hloop.trans hstep
  obtain ⟨ht, hes⟩ : RegularSet t ∧ entries t = [(uuid, [])] := hrep.regular rfl
    (canonical_cons.mpr ⟨List.not_mem_nil, IntervalList.canonical_nil, canonical_nil⟩)
    (fun e he i hi => by rw [List.mem_singleton.mp he] at hi; exact absurd hi List.not_mem_nil)
  refine ⟨t, hdecode, ht, ?_⟩
  rw [contents, hes]
  rfl

/-- **A set in a XCONTINUE line** has its gtids, whether it is empty or not. -/
theorem Sendable.decode_quoted_contents (h : Sendable s) (hs : RestorableSet s)
    (hlen : (setText s).length < 2 ^ 31) (rand : Rand) :
    ∃ t, gtidSetDecode (gtidSetQuoteIfEmpty (setText s) ++ [0]) 0
        (gtidSetQuoteIfEmpty (setText s)).length rand = some (some t) ∧
      WellFormedSet t ∧ contents t = contents s := by
  by_cases hempty : contents s = ∅
  · rw [h.text_nil hempty, hempty]
    obtain ⟨t, hdecode, ht, hset⟩ := gtidSetDecode_uuid (List.cons_ne_nil quote [quote])
      (by decide) (by decide) (by decide) rand
    exact ⟨t, hdecode, ht.toWellFormedSet, hset⟩
  · rw [gtidSetQuoteIfEmpty_of_ne (h.text_ne_nil hempty)]
    exact h.decode_contents hs hlen rand

theorem length_gtidSetText (es : List Entry) :
    (gtidSetText es).length = (es.map (fun e => (uuidSetText e).length + 1)).sum - 1 := by
  cases es with
  | nil => rfl
  | cons e es =>
    have hrest : (es.flatMap (fun e => split :: uuidSetText e)).length =
        (es.map (fun e => (uuidSetText e).length + 1)).sum := by
      rw [List.length_flatMap]
      rfl
    rw [gtidSetText, List.length_append, hrest, List.map_cons, List.sum_cons]
    omega

theorem RegularSet.nonEmpty_subset (hs : RegularSet s) (ht : RegularSet t)
    (h : contents s = contents t) : nonEmpty (entries s) ⊆ nonEmpty (entries t) := by
  intro e he
  obtain ⟨hmem, hne⟩ := List.mem_filter.mp he
  obtain ⟨g, hg⟩ := hs.toWellFormedSet.exists_gno he
  obtain ⟨e', he', hkey⟩ := List.mem_map.mp (key_mem_of_mem_pairs (h ▸ hg))
  have hpoints : IntervalList.points e.2 = IntervalList.points e'.2 := by
    ext x
    rw [← lookup_of_mem hs.distinct hmem, ← lookup_of_mem ht.distinct he', hkey,
      ← hs.toWellFormedSet.mem_contents, ← ht.toWellFormedSet.mem_contents, h]
  have heq : e.2 = e'.2 := (hs.canonical.canonical e hmem).unique (ht.canonical.canonical e' he')
    hpoints
  have hentry : e' = e := Prod.ext hkey heq.symm
  exact List.mem_filter.mpr ⟨hentry ▸ he', hne⟩

/-- **The length of a text** depends on the gtids only. -/
theorem RegularSet.length_setText (hs : RegularSet s) (ht : RegularSet t)
    (h : contents s = contents t) : (setText s).length = (setText t).length := by
  have hnodup : ∀ {s}, RegularSet s → (nonEmpty (entries s)).Nodup :=
    fun hs => (List.Nodup.of_map Prod.fst hs.distinct).sublist List.filter_sublist
  have hperm : (nonEmpty (entries s)).Perm (nonEmpty (entries t)) :=
    (List.perm_ext_iff_of_nodup (hnodup hs) (hnodup ht)).mpr
      (fun e => ⟨fun he => hs.nonEmpty_subset ht h he, fun he => ht.nonEmpty_subset hs h.symm he⟩)
  rw [setText, setText, length_gtidSetText, length_gtidSetText, (hperm.map _).sum_eq]

end Text

/-! ## The master -/

section Master
variable {s s₁ r : Server} {request : XsyncRequest} {t a b : GtidSet} {uuid k : Uuid}
  {E L E' L' : Finset (Uuid × Int)} {result : SyncResult} {replid : Bytes} {reploff : Int}
  {cont deltaLost : GtidSet} {rand : Rand} {n : Int}

/-- What is streamed depends on the gtids of a request only. -/
theorem streamed_congr (h : contents a = contents b) (s : Server) :
    streamed s a = streamed s b := by
  have hexpected : expected a = expected b := by
    funext e
    rw [expected, expected, expectedGno, expectedGno, h]
  rw [streamed, streamed, hexpected]

theorem continueOffset_congr (h : contents a = contents b) (s : Server) :
    continueOffset s a = continueOffset s b := by
  rw [continueOffset, continueOffset, streamed_congr h]

theorem gtidSetDiff_uuids (ha : RegularSet a) (hb : RegularSet b)
    (hrun : gtidSetDiff a b rand = some (t, n)) : uuids t ⊆ uuids a := by
  obtain ⟨l, hrep⟩ := ha.rep
  obtain ⟨m, hrept⟩ := hb.rep
  obtain ⟨t', l', hdiff, hrep', hl', -⟩ := gtidSetDiff_rep hrept hrep rand
  obtain ⟨rfl, -⟩ := Prod.mk.inj (Option.some.inj (hrun.symm.trans hdiff))
  rw [uuids, uuids, hrep'.entries_eq, hrep.entries_eq, hl']
  exact keys_diff_sublist.subset

/-- A request in the stage of a master in xsync mode. -/
theorem locateServerReplMode_cur {offset : Int} (hmode : s.replMode.mode = .xsync)
    (hstage : s.replMode.from ≤ offset) :
    locateServerReplMode s .xsync offset = some .cur := by
  have hset : (guard (s.replMode.mode ≠ .unset) : Option Unit) = some () :=
    if_pos (by rw [hmode]; decide)
  have hrequest : (guard (Mode.xsync = .psync ∨ Mode.xsync = .xsync) : Option Unit) = some () :=
    if_pos (Or.inr rfl)
  rw [locateServerReplMode, hset, hrequest, Option.bind_eq_bind, Option.bind_some, Option.bind_some]
  rcases hstage.lt_or_eq with habove | hat
  · rw [if_pos habove, if_pos hmode.symm]
  · rw [if_neg (by omega), if_pos hat.symm, if_pos hmode.symm]

/-- The continue set has no uuid that the master does not have. -/
theorem Handshake.cont_uuids (h : Handshake s r uuid k E L E' L' request result replid reploff cont
    deltaLost rand) :
    ∀ k' ∈ uuids cont, k' ∈ uuids s.gtidExecuted ∨ k' ∈ uuids s.gtidLost := by
  obtain ⟨gtidMaster, point, gtidXsync, slr, cont', n, mlost, gap, hget, -, hpoint, -, -, hdiff, -,
    -, -, haccept⟩ := masterAnaXsyncRequest_some h.answer (h.action ▸ trivial)
  obtain ⟨t, hget', hmaster, -, huuids⟩ := serverGtidSetGet_holding h.master (rand.sub 0)
  obtain rfl := Option.some.inj (hget.symm.trans hget')
  obtain ⟨X, hpoint', hX, -⟩ :=
    xsyncContinuePoint_rep h.index h.slave.toWellFormedSet (rand.sub 1)
  obtain ⟨-, rfl⟩ := Prod.mk.inj (Option.some.inj (hpoint.symm.trans hpoint'))
  have hcont : cont = cont' := by
    obtain ⟨-, ⟨hact, -⟩ | ⟨-, ⟨limit, -, -, hact⟩ | ⟨-, -, hact⟩⟩⟩ := xsyncAccept_some haccept
    · exact nomatch h.action.symm.trans hact
    · exact (SyncAction.xcontinue.inj (h.action.symm.trans hact)).2.2.1
    · exact (SyncAction.xcontinue.inj (h.action.symm.trans hact)).2.2.1
  subst hcont
  exact fun k' hk' => (huuids k').mp (gtidSetDiff_uuids hmaster hX hdiff hk')

/-- An update of the lost set alone. -/
theorem serverReplStreamUpdateXsync_lost {b : Bool}
    (hmode : s.replMode.mode = .xsync ∨ s.gtidReploffDelta = 0)
    (hlost : updateLost s t rand = some (s₁, b)) :
    serverReplStreamUpdateXsync s t false none none (-1) rand = some (s₁, b) := by
  have hmode₁ : s₁.replMode.mode = .xsync ∨ s₁.gtidReploffDelta = 0 := by
    rw [(updateLost_some hlost).1]
    exact hmode
  have hoff : updateReploff s₁ false s.replMode.mode (-1) = some (s₁, false) := by
    simp only [updateReploff, ctripGetMasterReploff_eq hmode₁, Option.bind_eq_bind,
      Option.bind_some]
    exact if_neg (fun h => absurd h.1 (by decide))
  simp only [serverReplStreamUpdateXsync, hlost, updateMasterUuid, updateReplid, hoff,
    Option.bind_eq_bind, Option.bind_some, Bool.or_false]

end Master

/-! ## The whole exchange -/

/-- Where the stream goes on for a replica with the gtids of `slave`. -/
noncomputable def continueAt (s : Server) (slave : GtidSet) : Int :=
  adjustContinuePoint s (continueOffset s slave)

/-- A master and a replica in xsync mode. -/
structure XsyncPair (s r : Server) (uuid k : Uuid) (E L E' L' : Finset (Uuid × Int)) : Prop where
  master : Holding s.toServerSets uuid E L
  replica : Holding r.toServerSets k E' L'
  disjoint : Disjoint E L
  disjoint' : Disjoint E' L'
  mode : s.replMode.mode = .xsync
  mode' : r.replMode.mode = .xsync
  index : ∀ seq, s.gtidSeq = some seq → ∃ l f, SeqRep seq l f
  indexed : ∀ seq, s.gtidSeq = some seq → gtids (gtidSeqEntries seq) ⊆ E
  state : ReplicaState r
  replid : r.replid.length = CONFIG_RUN_ID_SIZE

/-- The two have a uuid in common, the continue point is in the stage and the backlog of the master,
and the gap is within what the replica allows. -/
structure Continuable (s r : Server) (slave : GtidSet) (E E' : Finset (Uuid × Int)) : Prop where
  interested : r.gtidUuidInterested ≠ GTID_XSYNC_UUID_INTERESTED_FULLRESYNC
  related : ∃ x ∈ contents slave, x.1 ∈ uuids s.gtidExecuted ∨ x.1 ∈ uuids s.gtidLost
  stage : s.replMode.from ≤ continueAt s slave
  created : s.replBacklog.created = true
  backlog : s.replBacklog.off ≤ continueAt s slave
  gap : (gapSize E E' (gtids (streamed s slave)) : Int) ≤ r.gtidXsyncMaxGap

/-- What the master writes of `cont` and `reploff` fits in the buffer of the replica, and is read
back. -/
structure Presents (s : Server) (cont : GtidSet) (reploff : Int) : Prop where
  plain : ∀ uuid, uuid ∈ uuids s.gtidExecuted ∨ uuid ∈ uuids s.gtidLost → Plain uuid
  identity : ReplyIdentity (getMasterUuid s) s.replid reploff
  uuid_short : (getMasterUuid s).length ≤ CONFIG_RUN_ID_SIZE
  short : (setText cont).length + (setText s.gtidLost).length + 256 ≤ GTID_XSYNC_MAX_REPLY_SIZE

/-- The same of the offset at which the stream of the replica goes on. -/
abbrev Presentable (s : Server) (slave cont : GtidSet) : Prop :=
  Presents s cont (s.gtidReploffDelta + (continueAt s slave - 1))

section Exchange
variable {s r : Server} {uuid k : Uuid} {E L E' L' : Finset (Uuid × Int)} {request : XsyncRequest}
  {slave cont deltaLost : GtidSet} {result : SyncResult} {replid : Bytes} {reploff : Int}
  {rand : Rand}

/-- **A request that is close enough is accepted** where the stream goes on, and what the replica
has beyond the master is to be taken as lost. -/
theorem masterAnaXsyncRequest_accepts {slr : LocateResult} (h : Holding s.toServerSets uuid E L)
    (hindex : ∀ seq, s.gtidSeq = some seq → ∃ l f, SeqRep seq l f) (hdisj : Disjoint E' L')
    (hslave : RegularSet request.gtidSlave) (hset : contents request.gtidSlave = E' ∪ L')
    (hsame : contents slave = E' ∪ L') (hlost : RegularSet request.gtidLost)
    (hlset : contents request.gtidLost = L')
    (hinterested : request.uuidInterested ≠ GTID_XSYNC_UUID_INTERESTED_FULLRESYNC)
    (hrelated : ∃ x ∈ contents slave, x.1 ∈ uuids s.gtidExecuted ∨ x.1 ∈ uuids s.gtidLost)
    (hbacklog : s.replBacklog.off ≤ continueAt s slave)
    (hlocate : locateServerReplMode s .xsync (continueAt s slave) = some slr)
    (hvalid : slr.isInvalid = false)
    (hgap : (gapSize E E' (gtids (streamed s slave)) : Int) ≤ request.maxgap)
    (hmaxgap : request.maxgap ≤ LLONG_MAX) (rand : Rand) :
    ∃ cont deltaLost, RegularSet deltaLost ∧ contents deltaLost = (E' ∪ L') \ (E ∪ L) ∧
      masterAnaXsyncRequest s request rand = xsyncAccept s slr (continueAt s slave) cont deltaLost
        (gapSize E E' (gtids (streamed s slave))) request.maxgap := by
  have hcongr : contents request.gtidSlave = contents slave := hset.trans hsame.symm
  have hpoint : adjustContinuePoint s (continueOffset s request.gtidSlave) =
      continueAt s slave := by
    rw [continueAt, continueOffset_congr hcongr]
  have hS : contents request.gtidSlave \ contents request.gtidLost = E' := by
    rw [hset, hlset, Finset.union_sdiff_cancel_right hdisj]
  obtain ⟨cont, mlost, -, hmlost, hcset, hmset, hanswer, -⟩ :=
    masterAnaXsyncRequest_eq h hindex request hslave hlost rand
  obtain ⟨⟨k', g⟩, hx, huuid⟩ := hrelated
  have hmem : k' ∈ uuids request.gtidSlave := mem_uuids_of_contents (g := g) (hcongr ▸ hx)
  have hrun := hanswer slr ⟨k', hmem, huuid⟩ hinterested
  rw [hpoint, hS, streamed_congr hcongr, (llong_natCast_iff _).mpr (hgap.trans hmaxgap)] at hrun
  refine ⟨cont, mlost, hmlost, ?_,
    hrun (fun hlow => absurd hbacklog (not_le.mpr hlow.2)) hlocate hvalid hgap⟩
  -- what is streamed the replica does not have
  have hnew := streamed_disjoint (s := s) hslave
  rw [hset] at hnew
  rw [hmset, hcset, hset, sdiff_sdiff_right', disjoint_iff.mp hnew.symm, sup_bot_eq]

/-- **The master answers with XCONTINUE.** -/
theorem XsyncPair.handshake (h : XsyncPair s r uuid k E L E' L')
    (hcontinue : Continuable s r slave E E') (hmaxgap : r.gtidXsyncMaxGap ≤ LLONG_MAX)
    (hinterested : request.uuidInterested = r.gtidUuidInterested)
    (hgap : request.maxgap = r.gtidXsyncMaxGap) (hslave : RegularSet request.gtidSlave)
    (hset : contents request.gtidSlave = E' ∪ L') (hsame : contents slave = E' ∪ L')
    (hlost : RegularSet request.gtidLost) (hlset : contents request.gtidLost = L') (rand : Rand) :
    ∃ result cont deltaLost, result.offset = continueAt s slave ∧
      Handshake s r uuid k E L E' L' request result s.replid
        (s.gtidReploffDelta + (continueAt s slave - 1)) cont deltaLost rand := by
  obtain ⟨cont, mlost, -, -, hrun⟩ := masterAnaXsyncRequest_accepts h.master h.index h.disjoint'
    hslave hset hsame hlost hlset (hinterested ▸ hcontinue.interested) hcontinue.related
    hcontinue.backlog (locateServerReplMode_cur h.mode hcontinue.stage) rfl
    (hgap ▸ hcontinue.gap) (hgap ▸ hmaxgap) rand
  have hcur : serverReplModeGetCurReplIdOff s (continueAt s slave - 1) =
      (some s.replid, s.gtidReploffDelta + (continueAt s slave - 1)) := by
    rw [serverReplModeGetCurReplIdOff, h.mode]
  rw [xsyncAccept, hcur] at hrun
  exact ⟨_, cont, mlost, rfl, h.master, h.replica, h.disjoint, h.disjoint', h.mode, h.mode',
    h.index, h.indexed, hslave, hset, hlost, hlset, hrun, rfl⟩

/-- A master takes in as lost what the replica has beyond it. -/
theorem serverReplStreamUpdateXsync_taken {t : GtidSet} {D : Finset (Uuid × Int)}
    (h : Holding s.toServerSets uuid E L)
    (hmode : s.replMode.mode = .xsync ∨ s.gtidReploffDelta = 0) (ht : RegularSet t)
    (hset : contents t = D) (htaken : LostTaken E L D s.gtidExecuted.curnext uuid) (rand : Rand) :
    ∃ sets b, serverReplStreamUpdateXsync s t false none none (-1) rand =
      some (s.setSets sets, b) ∧ Holding sets uuid E (L ∪ D) := by
  subst hset
  obtain ⟨sets, b, hlost, hold⟩ := updateLost_taken h ht htaken rand
  exact ⟨sets, b, serverReplStreamUpdateXsync_lost hmode hlost, hold⟩

/-- **The reply** of a master that takes in what the replica has beyond it. -/
theorem Handshake.reply [RedisReplication]
    (h : Handshake s r uuid k E L E' L' request result replid reploff cont
      deltaLost rand) (hcreated : s.replBacklog.created = true)
    (hoff : s.replBacklog.off ≤ result.offset)
    (htaken : LostTaken E L ((E' ∪ L') \ (E ∪ L)) s.gtidExecuted.curnext uuid) (rand' : Rand) :
    ∃ s' b, masterReplySyncRequest s result rand' =
        some (s', .xcontinue cont s.gtidLost (getMasterUuid s) replid reploff) ∧
      serverReplStreamUpdateXsync s deltaLost false none none (-1) rand' = some (s', b) ∧
      Holding s'.toServerSets uuid E (L ∪ ((E' ∪ L') \ (E ∪ L))) := by
  obtain ⟨-, -, hdelta, hdset, -⟩ := h.answer_sets
  obtain ⟨sets, b, hup, hold⟩ :=
    serverReplStreamUpdateXsync_taken h.master (Or.inl h.mode) hdelta hdset htaken rand'
  have huuid : getMasterUuid (s.setSets sets) = getMasterUuid s := by
    have hsets : sets.uuid = s.uuid := hold.uuid.trans h.master.uuid.symm
    rw [getMasterUuid, getMasterUuid, Server.setSets, hsets]
  have hsetup : masterSetupPartialSynchronization (s.setSets sets) result.offset =
      some (s.setSets sets) := masterSetupPartialSynchronization_eq hcreated hoff
  refine ⟨s.setSets sets, b, ?_, hup, hold⟩
  simp only [masterReplySyncRequest, h.action, hup, hsetup, huuid, Option.bind_eq_bind,
    Option.bind_some]

theorem serverReplStreamResurrectCreate_some [RedisReplication] {s s' : Server}
    {replid : Option Bytes} {reploff : Int}
    (h : serverReplStreamResurrectCreate s replid reploff = some s') :
    s'.toServerSets = s.toServerSets ∧ s'.replid = s.replid ∧
      s'.masterReplOffset = s.masterReplOffset ∧ s'.gtidReploffDelta = s.gtidReploffDelta ∧
      s'.replMode = s.replMode ∧ getMasterUuid s' = getMasterUuid s := by
  simp only [serverReplStreamResurrectCreate, Option.bind_eq_bind, Option.bind_eq_some_iff,
    Option.guard_eq_some', exists_const] at h
  obtain ⟨-, -, h⟩ := h
  split at h
  · obtain rfl := Option.some.inj h
    exact ⟨rfl, rfl, rfl, rfl, rfl, rfl⟩
  · rw [ctripCreateReplicationBacklog, createReplicationBacklog_eq] at h
    obtain ⟨-, -, h⟩ := Option.bind_eq_some_iff.mp h
    obtain rfl := Option.some.inj h
    exact ⟨rfl, rfl, rfl, rfl, rfl, rfl⟩

/-- **What the replica does** with a continue set: it takes in as lost what it will not be sent, and
stands where the master goes on. -/
theorem XsyncPair.read [RedisReplication] {c l : GtidSet} {D : Finset (Uuid × Int)}
    (h : XsyncPair s r uuid k E L E' L') (hc : RegularSet c)
    (hcset : contents c \ (E' ∪ L') = D)
    (htaken : LostTaken E' L' D r.gtidExecuted.curnext k)
    (hid : replid.length = CONFIG_RUN_ID_SIZE) (hoff : 0 ≤ reploff) (masterUuid : Bytes)
    (rand : Rand) :
    ∃ out, slaveXsyncRead r (.xcontinue c l masterUuid replid reploff) rand = some out ∧
      out.result = .continue ∧ Holding out.server.toServerSets k E' (L' ∪ D) ∧
      out.server.replid = replid ∧
      out.server.masterReplOffset + out.server.gtidReploffDelta = reploff := by
  subst hcset
  obtain ⟨slost, hslost, hsset, hslave⟩ :=
    slaveXsyncXcontinue_eq h.replica hc masterUuid replid reploff rand
  obtain ⟨sets, b, hlost, hold⟩ :=
    updateLost_taken h.replica hslost (hsset.symm ▸ htaken) (rand.sub 2)
  rw [hsset] at hold
  obtain ⟨r₁, b₁, hup, hsets, hkept⟩ : ∃ r₁ b₁, serverReplStreamUpdateXsync r slost true
      (some masterUuid) (some replid) reploff (rand.sub 2) = some (r₁, b₁) ∧
      r₁.toServerSets = (r.setSets sets).toServerSets ∧ UpdatedXsync r r₁ :=
    serverReplStreamUpdateXsync_sets h.mode' (Or.inr rfl) hlost
  obtain ⟨-, -, hreplid, hreploff, -⟩ := serverReplStreamUpdateXsync_some hup
  have hlinks : ¬ r.cachedMaster ∧ ¬ r.master := (h.state.links h.mode').symm
  have hcached : ¬ r₁.cachedMaster := by
    rw [serverReplStreamUpdateXsync_cachedMaster hup]
    exact hlinks.1
  have hindexed : r₁.gtidSeq.isSome = r₁.replBacklog.created := by
    rw [hkept.backlog, hkept.seq, h.state.indexed]
  obtain ⟨r₂, hcreate⟩ := serverReplStreamResurrectCreate_isSome hcached hindexed replid hoff
  obtain ⟨hsets₂, hreplid₂, hoff₂, hdelta₂, -⟩ := serverReplStreamResurrectCreate_some hcreate
  have hguard : (guard (¬ r.cachedMaster ∧ ¬ r.master) : Option Unit) = some () := if_pos hlinks
  have hrun : slaveXsyncRead r (.xcontinue c l masterUuid replid reploff) rand =
      some ⟨r₂, .continue, some .xsyncXcontinue, none⟩ := by
    simp only [slaveXsyncRead, hguard, hslave, hup, hcreate, Option.map_some, Option.bind_eq_bind,
      Option.bind_some]
  refine ⟨_, hrun, rfl, ?_, ?_, ?_⟩
  · rw [hsets₂, hsets]
    exact hold
  · rw [hreplid₂]
    exact hreplid replid rfl (hid.trans h.replid.symm)
  · rw [hoff₂, hdelta₂]
    exact hreploff hoff

/-- The replica reads the line that the master has written. -/
theorem Presents.read_line {sds : Sds} {conn : Connection} {c : GtidSet} (hsds : sds.Splits)
    (hconn : conn.ReadsLines) (h : Presents s cont reploff) (hlost : RegularSet s.gtidLost)
    (hc : RegularSet c) (hset : contents c = contents cont) (hcont : RegularSet cont)
    (hplain : ∀ k' ∈ uuids c, k' ∈ uuids s.gtidExecuted ∨ k' ∈ uuids s.gtidLost) (stream : Bytes)
    (rand : Rand) :
    ∃ line text c' l, SyncReply.line (.xcontinue c s.gtidLost (getMasterUuid s) s.replid reploff) =
        some line ∧
      ctripReceiveSynchronousResponse conn (line ++ stream) = (text, stream) ∧
      parseSyncReply sds text rand = some (.xcontinue c' l (getMasterUuid s) s.replid reploff) ∧
      RegularSet c' ∧ contents c' = contents cont ∧
      RegularSet l ∧ contents l = contents s.gtidLost := by
  have hlength := hc.length_setText hcont hset
  have hmax : GTID_XSYNC_MAX_REPLY_SIZE = 65536 := rfl
  have hshort := h.short
  have hsendc : Sendable c :=
    ⟨hc.toWellFormedSet, fun k' hk' => h.plain k' (hplain k' hk'), by omega⟩
  have hsendl : Sendable s.gtidLost :=
    ⟨hlost.toWellFormedSet, fun k' hk' => h.plain k' (Or.inr hk'), by omega⟩
  have hquotedc := length_quoted_le (setText c)
  have hquotedl := length_quoted_le (setText s.gtidLost)
  have hline := line_xcontinue hsendc hsendl h.identity h.uuid_short
  rw [if_pos (by omega)] at hline
  obtain ⟨c', hdecode, hc', hcset⟩ :=
    hsendc.decode_quoted_contents hc.restorable (by omega) (rand.sub 0)
  obtain ⟨l, hdecodel, hl, hlset⟩ :=
    hsendl.decode_quoted_contents hlost.restorable (by omega) ((rand.sub 1).sub 0)
  have hparse := parseSyncReply_xcontinue hsds h.identity (hsendc.writes_len hsds)
    (hsendl.writes_len hsds) hdecode hdecodel
  -- the line is shorter than the buffer
  have hnumber := length_longText_le_twenty
    (le_trans (by decide : LLONG_MIN ≤ 0) h.identity.reploff_nonneg) h.identity.reploff_le
  have hreplid := h.identity.replid_length
  have huuid := h.uuid_short
  have hforty : CONFIG_RUN_ID_SIZE = 40 := rfl
  refine ⟨_, _, c', l, hline, ctripReceiveSynchronousResponse_line hconn
    (newline_notMem_xcontinueText h.identity hsendc.newline_notMem hsendl.newline_notMem)
    (zero_notMem_xcontinueText h.identity hsendc.quoted_zero hsendl.quoted_zero) ?_, hparse,
    hc.of_contents hc' hcset, hcset.trans hset, hlost.of_contents hl hlset, hlset⟩
  rw [length_xcontinueText]
  omega

/-- What a replica and a master do in a synchronization, and what the replica then executes. -/
theorem XsyncPair.synchronize_spec [RedisReplication] {sds : Sds} {conn : Connection}
    (hsds : sds.Splits) (hconn : conn.ReadsLines) (h : XsyncPair s r uuid k E L E' L')
    (hsends : SendsRequest r (rand.sub 0)) (hslave : contents slave = E' ∪ L')
    (hcontinue : Continuable s r slave E E') (hcont : RegularSet cont)
    (hcset : contents cont = (E ∪ L) \ gtids (streamed s slave))
    (hpresent : Presentable s slave cont)
    (htaken : LostTaken E L ((E' ∪ L') \ (E ∪ L)) s.gtidExecuted.curnext uuid)
    (htaken' : LostTaken E' L' (contents cont \ (E' ∪ L')) r.gtidExecuted.curnext k)
    (stream : Bytes) :
    ∃ s' result out deltaLost b,
      synchronize sds conn s r stream rand = some (s', result, out, stream) ∧
      RegularSet deltaLost ∧ contents deltaLost = (E' ∪ L') \ (E ∪ L) ∧
      serverReplStreamUpdateXsync s deltaLost false none none (-1) ((rand.sub 1).sub 2) =
        some (s', b) ∧
      out.result = .continue ∧ out.server.replid = s.replid ∧
      out.server.masterReplOffset + out.server.gtidReploffDelta =
        s.gtidReploffDelta + (continueAt s slave - 1) ∧
      ∀ l : List (Uuid × Int), l.Nodup → l.toFinset = gtids (streamed s slave) →
        ∀ rand, ∃ sets, gtidCommands out.server.toServerSets l rand =
            some (sets, l.map (fun _ => true)) ∧ SetsInvariant sets ∧
          Converged s'.toServerSets sets result := by
  obtain ⟨argv, request, hwrite, hparse, hinterested, hgap, hset, hsset, hlost, hlset⟩ :=
    xsyncRequest_readBack h.replica hsends ((rand.sub 1).sub 0)
  obtain ⟨result, c, deltaLost, hoffset, hshake⟩ := h.handshake hcontinue hsends.maxgap.2
    hinterested hgap hset hsset hslave hlost hlset ((rand.sub 1).sub 1)
  have hcongr : streamed s request.gtidSlave = streamed s slave :=
    streamed_congr (hsset.trans hslave.symm) s
  obtain ⟨hc, hccont, hdelta, hdset, maxgap, hmsg⟩ := hshake.answer_sets
  rw [hcongr] at hccont hmsg
  obtain ⟨s', b, hreply, hup, hold⟩ := hshake.reply hcontinue.created
    (hoffset ▸ hcontinue.backlog) htaken ((rand.sub 1).sub 2)
  obtain ⟨line, text, c', l, hline, hreceive, hread, hc', hc'set, -⟩ :=
    hpresent.read_line hsds hconn h.master.lost hc (hccont.trans hcset.symm) hcont
      hshake.cont_uuids stream ((rand.sub 2).sub 0)
  obtain ⟨out, hout, hresult, hold', hreplid, hreploff⟩ := h.read (l := l) hc'
    (congrArg (fun S => S \ (E' ∪ L')) hc'set) htaken' hpresent.identity.replid_length
    hpresent.identity.reploff_nonneg (getMasterUuid s) ((rand.sub 2).sub 1)
  have hmaster : ctripMasterTryPartialResynchronization s argv (rand.sub 1) = some (s',
      .xcontinue c s.gtidLost (getMasterUuid s) s.replid
        (s.gtidReploffDelta + (continueAt s slave - 1)), result) := by
    simp only [ctripMasterTryPartialResynchronization, hparse, masterAnaSyncRequest, hshake.answer,
      hreply, Option.bind_eq_bind, Option.bind_some]
  have hslaveRead : slaveTryPartialResynchronizationRead sds r text (rand.sub 2) = some out := by
    rw [slaveTryPartialResynchronizationRead, hread, Option.bind_eq_bind, Option.bind_some]
    exact (if_neg (not_not.mpr h.mode')).trans hout
  have hrun : synchronize sds conn s r stream rand = some (s', result, out, stream) := by
    simp only [synchronize, hwrite, hmaster, hline, hreceive, hslaveRead, Option.bind_eq_bind,
      Option.bind_some]
  refine ⟨s', result, out, deltaLost, b, hrun, hdelta, hdset, hup, hresult, hreplid, hreploff,
    fun m hnodup hm rand' => ?_⟩
  have hXE : gtids (streamed s slave) ⊆ E := streamed_subset h.indexed
  have hnew : Disjoint (gtids (streamed s slave)) (E' ∪ L') :=
    hsset ▸ hcongr ▸ streamed_disjoint hset
  obtain ⟨hunion, hdisj, hdisj', hsize⟩ := sets_converge h.disjoint h.disjoint' hXE hnew
  rw [hcset] at hold'
  obtain ⟨sets, hcmds, hold''⟩ := gtidCommands_sent h.master hold' hXE
    (sent_disjoint hnew (Finset.Subset.refl _)) hnodup hm rand'
  have hfits := (llong_natCast_iff _).mpr (hcontinue.gap.trans hsends.maxgap.2)
  refine ⟨sets, hcmds, hold''.toSetsInvariant, ?_, ?_, ?_, maxgap, ?_⟩
  · rw [hold.executed_eq, hold.lost_eq, hold''.executed_eq, hold''.lost_eq]
    exact hunion
  · rw [hold.executed_eq, hold.lost_eq]
    exact hdisj
  · rw [hold''.executed_eq, hold''.lost_eq]
    exact hdisj'
  · rw [hold.executed_eq, hold''.executed_eq, hsize, hmsg, hfits]

end Exchange

section Example

/-- Read up to the end of the line, or until the buffer is full. -/
def lineConnection : Connection where
  connSyncReadLine received size :=
    let line := received.takeWhile (fun c => c ≠ newline)
    if line.length + 1 < size then
      .ok (line.take (line.length - 1), received.drop (line.length + 1))
    else .ok (received.take (size - 1), received.drop (size - 1))

theorem lineConnection_readsLines : lineConnection.ReadsLines := by
  intro line rest size hline hsize
  have hcrlf : crlf = ['\r'.toUInt8, newline] := rfl
  have hne : ∀ c ∈ line ++ ['\r'.toUInt8], decide (c ≠ newline) = true := by
    intro c hc
    rcases List.mem_append.mp hc with hc | hc
    · exact decide_eq_true (fun heq => hline (heq ▸ hc))
    · rw [List.mem_singleton.mp hc]
      decide
  have hreceived : line ++ crlf ++ rest = (line ++ ['\r'.toUInt8]) ++ newline :: rest := by
    simp only [hcrlf, List.append_assoc, List.cons_append, List.nil_append]
  have htake : (line ++ crlf ++ rest).takeWhile (fun c => decide (c ≠ newline)) =
      line ++ ['\r'.toUInt8] := by
    rw [hreceived, List.takeWhile_append_of_pos hne, List.takeWhile_cons_of_neg (by decide),
      List.append_nil]
  have hlen : (line ++ ['\r'.toUInt8]).length = line.length + 1 := List.length_append
  have hdrop : (line ++ crlf ++ rest).drop (line.length + 1 + 1) = rest := by
    rw [List.append_assoc, List.drop_append, List.drop_of_length_le (by omega), List.nil_append]
    have htwo : line.length + 1 + 1 - line.length = crlf.length := by rw [hcrlf]; simp; omega
    rw [htwo, List.drop_left]
  have hroom : line.length + 1 + 1 < size := hsize
  simp only [lineConnection, htake, hlen, if_pos hroom, hdrop, Nat.add_sub_cancel, List.take_left]

/-- A master of uuid `A` that has executed `B:1`, `A:1` and `A:2`, and the set of the first two. -/
theorem exists_masterSets :
    ∃ before sets t, Holding before [65] ({([66], 1)} ∪ {([65], 1)}) ∅ ∧
      before.gtidExecuted.curnext = 0 ∧ allocateGno before (fun _ => 0) = some (sets, 2) ∧
      Holding sets [65] ({([66], 1)} ∪ {([65], 1)} ∪ {([65], 2)}) ∅ ∧
      uuids sets.gtidExecuted = [[65], [66]] ∧ sets.gtidLost = gtidSetNew ∧
      sets.gtidExecuted.curnext = 0 ∧ (setText sets.gtidExecuted).length = 9 ∧
      RegularSet t ∧ contents t = {([66], 1)} ∪ {([65], 1)} ∧ (setText t).length = 7 := by
  obtain ⟨e, first, before, sets, t, hupdate, hrun, hrun', halloc, hcurnext, huuids, hlost,
      hexecuted, hget, hlen⟩ :
      ∃ e first before sets t, gtidSetCurrentUuidSetUpdate gtidSetNew [65] = some e ∧
      gtidCommand ⟨[65], e, gtidSetNew⟩ [66] 1 (fun _ => 0) = some (first, true) ∧
      gtidCommand first [65] 1 (fun _ => 0) = some (before, true) ∧
      allocateGno before (fun _ => 0) = some (sets, 2) ∧ sets.gtidExecuted.curnext = 0 ∧
      uuids sets.gtidExecuted = [[65], [66]] ∧ sets.gtidLost = gtidSetNew ∧
      (setText sets.gtidExecuted).length = 9 ∧
      serverGtidSetGet before (fun _ => 0) = some t ∧ (setText t).length = 7 :=
    ⟨_, _, _, _, _, rfl, rfl, rfl, rfl, rfl, rfl, rfl, rfl, rfl, rfl⟩
  obtain ⟨hold, hcur⟩ := serverStart_spec (s := ⟨[65], e, gtidSetNew⟩) ⟨hupdate, rfl⟩
  obtain ⟨first', hrun₁, hold₁, hcur₁⟩ :=
    gtidCommand_spec hold [66] (le_refl 1) (by decide) (fun _ => 0)
  obtain ⟨rfl, -⟩ := Prod.mk.inj (Option.some.inj (hrun.symm.trans hrun₁))
  rw [if_neg (by decide), Finset.empty_union] at hold₁
  obtain ⟨before', hrun₂, hold₂, hcur₂⟩ :=
    gtidCommand_spec hold₁ [65] (le_refl 1) (by decide) (fun _ => 0)
  obtain ⟨rfl, -⟩ := Prod.mk.inj (Option.some.inj (hrun'.symm.trans hrun₂))
  rw [if_neg (by decide)] at hold₂
  have hzero : before.gtidExecuted.curnext = 0 := hcur₂.trans (hcur₁.trans hcur)
  have hnext : nextOf ({([66], 1)} ∪ {([65], 1)}) before.gtidExecuted.curnext [65] = 2 := by
    rw [nextOf, if_pos hzero]
    decide
  obtain ⟨sets', halloc', hold₃, -⟩ :=
    allocateGno_spec hold₂ (by rw [hnext]; decide) (fun _ => 0)
  obtain ⟨rfl, -⟩ := Prod.mk.inj (Option.some.inj (halloc.symm.trans halloc'))
  rw [hnext] at hold₃
  obtain ⟨t', hget', ht, hset, -⟩ := serverGtidSetGet_holding hold₂ (fun _ => 0)
  obtain rfl := Option.some.inj (hget.symm.trans hget')
  exact ⟨before, sets, t, hold₂, hzero, halloc, hold₃, huuids, hlost, hcurnext, hexecuted, ht,
    hset.trans (Finset.union_empty _), hlen⟩

/-- The master of such sets, which has created its backlog at the offset 101 and fed `A:2` as ten
bytes, and has `seq` as its index. -/
def indexedMaster (sets : ServerSets) (seq : GtidSeq) : Server :=
  { freshMaster sets with
    masterReplOffset := 110
    replBacklog := ⟨true, CONFIG_REPL_BACKLOG_MIN_SIZE, 10, 101⟩
    gtidSeq := some seq }

/-- The index of `A:2`. -/
theorem exists_indexedSeq :
    ∃ seq₁ seq l f, gtidSeqAppend gtidSeqCreate [65] 2 101 = some seq₁ ∧
      gtidSeqTrim seq₁ 101 = some seq ∧ SeqRep seq l f ∧
      gtidSeqEntries seq = [⟨[65], 2, 101⟩] := by
  obtain ⟨seq₁, seq, happend, htrim, hentries⟩ : ∃ seq₁ seq,
      gtidSeqAppend gtidSeqCreate [65] 2 101 = some seq₁ ∧ gtidSeqTrim seq₁ 101 = some seq ∧
      gtidSeqEntries seq = [⟨[65], 2, 101⟩] := ⟨_, _, rfl, rfl, rfl⟩
  have hreach : GtidSeqReachable [⟨[65], 2, 101⟩] seq :=
    .trim 101 (.append ⟨[65], 2, 101⟩ .create ⟨by decide, by decide, by decide⟩ happend) htrim
  obtain ⟨l, f, hrep⟩ := hreach.invariant.rep
  exact ⟨seq₁, seq, l, f, happend, htrim, hrep, hentries⟩

/-- Such a master, and a replica of uuid `B` that has executed `B:1`. -/
structure SampleExchange (before sets rsets : ServerSets) (seq : GtidSeq) (slave cont : GtidSet) :
    Prop where
  start : Holding before [65] ({([66], 1)} ∪ {([65], 1)}) ∅
  start_curnext : before.gtidExecuted.curnext = 0
  allocated : allocateGno before (fun _ => 0) = some (sets, 2)
  fed : ∀ prev, ctripReplicationFeedSlaves { freshMaster sets with prevReplMode := prev }
    (some [65]) 2 101 10 = some { indexedMaster sets seq with prevReplMode := prev }
  index : (∃ l f, SeqRep seq l f) ∧ gtidSeqEntries seq = [⟨[65], 2, 101⟩]
  master : Holding sets [65] ({([66], 1)} ∪ {([65], 1)} ∪ {([65], 2)}) ∅
  curnext : sets.gtidExecuted.curnext = 0
  executed_short : (setText sets.gtidExecuted).length < 2 ^ 31
  replica : Holding rsets [66] {([66], 1)} ∅
  state : ReplicaState (masterServer rsets .xsync 100 0)
  sends : SendsRequest (masterServer rsets .xsync 100 0) (fun _ => 0)
  slave_eq : contents slave = {([66], 1)} ∪ ∅
  streamed_eq : streamed (indexedMaster sets seq) slave = [⟨[65], 2, 101⟩]
  continuable : Continuable (indexedMaster sets seq) (masterServer rsets .xsync 100 0) slave
    ({([66], 1)} ∪ {([65], 1)} ∪ {([65], 2)}) {([66], 1)}
  regular : RegularSet cont
  cont_eq : contents cont = {([66], 1)} ∪ {([65], 1)}
  presentable : Presentable (indexedMaster sets seq) slave cont
  taken : LostTaken ({([66], 1)} ∪ {([65], 1)} ∪ {([65], 2)}) ∅
    (({([66], 1)} ∪ ∅) \ (({([66], 1)} ∪ {([65], 1)} ∪ {([65], 2)}) ∪ ∅))
    sets.gtidExecuted.curnext [65]
  taken' : LostTaken {([66], 1)} ∅ (contents cont \ ({([66], 1)} ∪ ∅))
    rsets.gtidExecuted.curnext [66]

theorem exists_sampleExchange :
    ∃ before sets rsets seq slave cont, SampleExchange before sets rsets seq slave cont := by
  obtain ⟨before, sets, cont, hbefore, hzero, halloc, hs, huuids, hlost, hcurnext, hexecuted,
    hcont, hcset, hlen⟩ := exists_masterSets
  obtain ⟨seq₁, seq, l, f, happend, htrim, hrep, hentries⟩ := exists_indexedSeq
  obtain ⟨rsets, hr, hruuids, hrlost, hcur, hget⟩ := exists_replicaSets
  obtain ⟨slave, -, hslave, hsset, -⟩ := serverGtidSetGet_holding hr (fun _ => 0)
  have hmodes : ReplModeInvariant (masterServer rsets .xsync 100 0) :=
    ⟨(by decide : Mode.xsync ≠ .unset), Or.inl rfl, fun h => Mode.noConfusion h, le_refl _⟩
  have hnone : ∀ g, (([65] : Uuid), g) ∉ contents slave := by
    intro g hg
    rw [hsset, Finset.union_empty, Finset.mem_singleton] at hg
    exact absurd (Prod.mk.inj hg).1 (by decide)
  have hstream : streamed (indexedMaster sets seq) slave = [⟨[65], 2, 101⟩] := by
    rw [(streamed_of_seq rfl slave).1, hentries, List.rtakeWhile_eq_self_iff]
    intro e he
    rw [List.mem_singleton.mp he]
    have hmax : maxGno (contents slave) [65] ≤ 0 :=
      maxGno_le (le_refl 0) (fun g hg => absurd hg (hnone g))
    have hmax' : 0 ≤ maxGno (contents slave) [65] := hslave.maxGno_nonneg [65]
    exact decide_eq_true (by rw [expectedGno, le_antisymm hmax hmax']; decide)
  have hpoint : continueAt (indexedMaster sets seq) slave = 101 := by
    rw [continueAt, (streamed_of_seq rfl slave).2, hstream]
    rfl
  have hmem : (([66] : Uuid), (1 : Int)) ∈ contents slave := by
    rw [hsset]
    decide
  have huuid : Plain [65] := by decide +kernel
  have huuid' : Plain [66] := by decide +kernel
  have hid : Plain (List.replicate CONFIG_RUN_ID_SIZE '1'.toUInt8) := by decide +kernel
  have hmaster : getMasterUuid (indexedMaster sets seq) = [65] := hs.uuid
  have hlost' : (indexedMaster sets seq).gtidLost = gtidSetNew := hlost
  refine ⟨before, sets, rsets, seq, slave, cont,
    { start := hbefore
      start_curnext := hzero
      allocated := halloc
      fed := ?_
      index := ⟨⟨l, f, hrep⟩, hentries⟩
      master := hs
      curnext := hcurnext
      executed_short := by rw [hexecuted]; decide
      replica := hr
      state := ⟨hmodes, rfl, fun _ => ⟨Bool.false_ne_true, Bool.false_ne_true⟩⟩
      sends := sendsRequest_replicaSets hruuids hrlost hget
      slave_eq := hsset
      streamed_eq := hstream
      continuable := ⟨?_, ?_, hpoint.ge, rfl, hpoint.ge, ?_⟩
      regular := hcont
      cont_eq := hcset
      presentable := ⟨?_, ?_, ?_, ?_⟩
      taken := Or.inl (by decide)
      taken' := ?_ }⟩
  · intro prev
    show feedIndexed { freshMaster sets with prevReplMode := prev } true [65] 2 101 10 = _
    have hseq : (freshMaster sets).gtidSeq = some gtidSeqCreate := rfl
    rw [feedIndexed, if_pos rfl, hseq, Option.bind_eq_bind, Option.bind_some, happend]
    show (gtidSeqTrim seq₁ 101).bind _ = _
    rw [htrim]
    rfl
  · exact (by decide : GTID_XSYNC_UUID_INTERESTED_DEFAULT ≠ GTID_XSYNC_UUID_INTERESTED_FULLRESYNC)
  · exact ⟨([66], 1), hmem, Or.inl (huuids ▸ List.mem_cons_of_mem _ List.mem_cons_self)⟩
  · rw [hstream]
    exact (by decide : (gapSize ({([66], 1)} ∪ {([65], 1)} ∪ {([65], 2)}) {([66], 1)}
      (gtids [⟨[65], 2, 101⟩]) : Int) ≤ 10000)
  · rintro k (hk | hk)
    · have hk : k ∈ uuids sets.gtidExecuted := hk
      rw [huuids] at hk
      rcases List.mem_cons.mp hk with rfl | hk
      · exact huuid
      · exact List.mem_singleton.mp hk ▸ huuid'
    · rw [hlost'] at hk
      exact absurd hk List.not_mem_nil
  · rw [hmaster, hpoint]
    exact replyIdentity_of_plain (le_refl 1) huuid rfl hid
      (by decide : (0 : Int) ≤ 0 + (101 - 1) ∧ (0 : Int) + (101 - 1) ≤ LLONG_MAX)
  · rw [hmaster]
    decide
  · have hnil : setText (indexedMaster sets seq).gtidLost = [] := by
      rw [hlost']
      rfl
    rw [hnil, hlen]
    decide
  · rw [hcset]
    refine Or.inr ⟨by decide, updateAsserts_of_none hcur.ge ?_⟩
    intro g hg
    simp at hg

theorem SampleExchange.pair [RedisReplication] {before sets rsets : ServerSets} {seq : GtidSeq}
    {slave cont : GtidSet} (h : SampleExchange before sets rsets seq slave cont) :
    XsyncPair (indexedMaster sets seq) (masterServer rsets .xsync 100 0) [65] [66]
      ({([66], 1)} ∪ {([65], 1)} ∪ {([65], 2)}) ∅ {([66], 1)} ∅ := by
  have hseq : ∀ seq', (indexedMaster sets seq).gtidSeq = some seq' → seq' = seq :=
    fun seq h => (Option.some.inj h).symm
  refine ⟨h.master, h.replica, Finset.disjoint_empty_right _, Finset.disjoint_empty_right _, rfl,
    rfl, fun seq' hs => hseq seq' hs ▸ h.index.1, ?_, h.state, rfl⟩
  intro seq' hs
  rw [hseq seq' hs, h.index.2]
  decide

end Example

end XredisGtid
