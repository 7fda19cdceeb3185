import XredisGtid.GtidSetStat
import XredisGtid.PropagateRun
import XredisGtid.SeqLocate
import XredisGtid.SyncWire

/-!
# GTIDX with all of its subcommands

`gtidxCommand` of `xredis_gtid.c` on a whole server, of which the function of that name is the
part about ADD and REMOVE.  LIST and SEQ GTID.SET reply with the text of gtids, and STAT counts
them: who decodes such a text has the gtids of the set, of one of its uuids or of the index.
-/
namespace XredisGtid
open Memory Buffer KeyedIntervals OffsetLog

/-! ## The subcommands -/

def GTIDX : Bytes := ['g', 't', 'i', 'd', 'x'].map Char.toUInt8
def HELP : Bytes := ['h', 'e', 'l', 'p'].map Char.toUInt8
def LIST : Bytes := ['l', 'i', 's', 't'].map Char.toUInt8
def STAT : Bytes := ['s', 't', 'a', 't'].map Char.toUInt8
def ADD : Bytes := ['a', 'd', 'd'].map Char.toUInt8
def REMOVE : Bytes := ['r', 'e', 'm', 'o', 'v', 'e'].map Char.toUInt8
def SEQ : Bytes := ['s', 'e', 'q'].map Char.toUInt8
def LOCATE : Bytes := ['l', 'o', 'c', 'a', 't', 'e'].map Char.toUInt8
def GTID_SET : Bytes := ['g', 't', 'i', 'd', '.', 's', 'e', 't'].map Char.toUInt8
def UUID_INTERESTED : Bytes :=
  ['u', 'u', 'i', 'd', '-', 'i', 'n', 't', 'e', 'r', 'e', 's', 't', 'e', 'd'].map Char.toUInt8
def SET : Bytes := ['s', 'e', 't'].map Char.toUInt8

inductive GtidxReply where
  | help
  | bulk (text : Bytes)
  | ok
  /-- The reply of ADD or REMOVE. -/
  | sets (reply : Reply)
  | located (reply : LocateReply)
  /-- uuid not found:%s -/
  | uuidNotFound (uuid : Bytes)
  | invalidGtidSetType
  /-- gtid seq not exists -/
  | seqNotExists
  /-- Invalid uuid-interested -/
  | invalidUuidInterested
  /-- Syntax error -/
  | syntaxError
  | subcommandSyntaxError

/-! ## LIST and STAT -/

/-- The text of one uuid; a failed encoding would be a length beyond the buffer. -/
def uuidSetDump (uuidSet : UuidSet) : Option Bytes := do
  let maxlen := uuidSetEstimatedEncodeBufferSize uuidSet
  let (buf, len) ← uuidSetEncode (List.replicate maxlen 0) 0 maxlen uuidSet
  guard (0 ≤ len)
  some (buf.take len.toNat)

/-- uuid_count:%ld,used_memory:%ld,gap_count:%ld,gno_count:%lld -/
def catGtidStatString (info : Bytes) (stat : GtidStat) : Bytes :=
  info ++ ['u', 'u', 'i', 'd', '_', 'c', 'o', 'u', 'n', 't', ':'].map Char.toUInt8 ++
    longText (llong stat.uuidCount) ++
    [',', 'u', 's', 'e', 'd', '_', 'm', 'e', 'm', 'o', 'r', 'y', ':'].map Char.toUInt8 ++
    longText (llong stat.usedMemory) ++
    [',', 'g', 'a', 'p', '_', 'c', 'o', 'u', 'n', 't', ':'].map Char.toUInt8 ++
    longText (llong stat.gapCount) ++
    [',', 'g', 'n', 'o', '_', 'c', 'o', 'u', 'n', 't', ':'].map Char.toUInt8 ++
    longText stat.gnoCount

/-- The set, or the record of a uuid, that a LIST or STAT is about. -/
def gtidxReport (server : ServerSets) (type : Bytes) (uuid : Option Uuid)
    (all : GtidSet → Option Bytes) (one : UuidSet → Option Bytes) : Option GtidxReply :=
  match findGtidSetType (cString type) with
  | none => some .invalidGtidSetType
  | some type =>
    let gtidSet := findGtidSet server type
    match uuid with
    | none => (all gtidSet).map .bulk
    | some uuid =>
      match gtidSetFind gtidSet uuid with
      | none => some (.uuidNotFound (cString uuid))
      | some a => ((gtidSet.uuidSetCells.get a).bind one).map .bulk

/-- List gtid or uuid(if specified) gaps. -/
def gtidxList (server : ServerSets) (type : Bytes) (uuid : Option Uuid) : Option GtidxReply :=
  gtidxReport server type uuid gtidSetDump uuidSetDump

/-- Show gtid or uuid(if specified) stat. -/
def gtidxStat (server : ServerSets) (type : Bytes) (uuid : Option Uuid) : Option GtidxReply :=
  gtidxReport server type uuid
    (fun s => some (catGtidStatString (['a', 'l', 'l', ':'].map Char.toUInt8) (gtidSetGetStat s)))
    (fun u => some (catGtidStatString (cString (uuid.getD []) ++ [colon]) (uuidSetGetStat u)))

/-! ## SEQ -/

/-- The segments from the first one on. -/
def segmentsForward (seq : GtidSeq) : List Addr :=
  follow (segmentNextOf seq.segments) seq.segments.size seq.firstseg

/-- The loop of SEQ GTID.SET. -/
def addSegments (segments : Arena GtidSegment) : List Addr → GtidSet → Rand → Option GtidSet
  | [], gtidSet, _ => some gtidSet
  | a :: l, gtidSet, rand => do
    let seg ← segments.get a
    let (gtidSet, _) ← gtidSetAdd gtidSet seg.uuid (llong (seg.baseGno + seg.tgno))
      (llong (seg.baseGno + seg.ngno - 1)) (rand.sub 0)
    addSegments segments l gtidSet (rand.sub 1)

/-- Get gtid.set of gtid seq index. -/
def gtidxSeqGtidSet (seq : GtidSeq) (rand : Rand) : Option GtidxReply := do
  let gtidSet ← addSegments seq.segments (segmentsForward seq) gtidSetNew rand
  some (.bulk (← gtidSetDump gtidSet))

/-- List gtid.seq. -/
def gtidxSeqList (seq : GtidSeq) : Option GtidxReply := do
  let maxlen ← gtidSeqEstimatedEncodeBufferSize seq
  let (buf, len) ← gtidSeqEncode (List.replicate maxlen 0) 0 maxlen seq
  guard (0 ≤ len ∧ len ≤ maxlen)
  some (.bulk (buf.take len.toNat))

def gtidxSeq (redis : Redis) (zcalloc : Nat → Bool) (gtidSeq : Option GtidSeq)
    (backlog : ReplBuffer) (args : List Bytes) (rand : Rand) : Option GtidxReply :=
  match args with
  | [] => (gtidSeq.map gtidxSeqList).getD (some .seqNotExists)
  | sub :: args =>
    if isOption sub LOCATE ∧ args ≠ [] then
      (gtidxSeqLocate redis zcalloc gtidSeq backlog (args.headD []) args[1]? rand).map .located
    else if isOption sub GTID_SET ∧ args = [] then
      (gtidSeq.map (gtidxSeqGtidSet · rand)).getD (some .seqNotExists)
    else some .syntaxError

/-! ## UUID-INTERESTED -/

/-- Note: uuid interested is effective only once -/
def xsyncUuidInterestedSet (server : Server) (uuid : Bytes) : Server :=
  { server with gtidUuidInterested := uuid }

/-- SET uuid.interested to * or ? -/
def gtidxUuidInterested (server : Server) (args : List Bytes) : Server × GtidxReply :=
  match args with
  | [sub, uuid] =>
    if isOption sub SET then
      if isOption uuid GTID_XSYNC_UUID_INTERESTED_DEFAULT then
        (xsyncUuidInterestedSet server GTID_XSYNC_UUID_INTERESTED_DEFAULT, .ok)
      else if isOption uuid GTID_XSYNC_UUID_INTERESTED_FULLRESYNC then
        (xsyncUuidInterestedSet server GTID_XSYNC_UUID_INTERESTED_FULLRESYNC, .ok)
      else (server, .invalidUuidInterested)
    else (server, .syntaxError)
  | _ => (server, .syntaxError)

/-! ## The command -/

/-- A subcommand with its arguments. -/
def gtidxSubcommand (redis : Redis) (zcalloc : Nat → Bool) (server : Server) (backlog : ReplBuffer)
    (sub : Bytes) (args : List Bytes) (rand : Rand) : Option (Server × GtidxReply) :=
  if isOption sub HELP ∧ args = [] then some (server, .help)
  else if isOption sub LIST ∧ (args.length = 1 ∨ args.length = 2) then
    (gtidxList server.toServerSets (args.headD []) args[1]?).map (server, ·)
  else if isOption sub STAT ∧ (args.length = 1 ∨ args.length = 2) then
    (gtidxStat server.toServerSets (args.headD []) args[1]?).map (server, ·)
  else if (isOption sub ADD ∨ isOption sub REMOVE) ∧ args.length = 4 then do
    let (sets, reply) ← gtidxCommand redis server.toServerSets
      ([] :: cString sub :: cString (args.headD []) :: args.drop 1) rand
    some (server.setSets sets, .sets reply)
  else if isOption sub SEQ then
    (gtidxSeq redis zcalloc server.gtidSeq backlog args rand).map (server, ·)
  else if isOption sub UUID_INTERESTED ∧ args ≠ [] then
    some (gtidxUuidInterested server args)
  else some (server, .subcommandSyntaxError)

/-- The arguments from the name of the command on, of which there are two at least. -/
def gtidxCommandProc (redis : Redis) (zcalloc : Nat → Bool) (server : Server)
    (backlog : ReplBuffer) (argv : List Bytes) (rand : Rand) : Option (Server × GtidxReply) :=
  match argv with
  | _ :: sub :: args => gtidxSubcommand redis zcalloc server backlog sub args rand
  | _ => none

/-! ## What changes -/

section Frame
variable {redis : Redis} {zcalloc : Nat → Bool} {server server' : Server} {backlog : ReplBuffer}
  {sub : Bytes} {args : List Bytes} {sets : ServerSets} {reply : GtidxReply} {rand : Rand}

theorem isOption_of_notMem (h : 0 ∉ sub) (name : Bytes) :
    isOption sub name = equalsIgnoreCase sub name := by
  have htext : sub.takeWhile (· ≠ 0) = sub := cString_eq h
  rw [isOption, htext]

theorem gtidxCommand_other (h : ¬ ((equalsIgnoreCase sub ADD = true ∨
    equalsIgnoreCase sub REMOVE = true) ∧ args.length = 4)) :
    gtidxCommand redis sets ([] :: sub :: args) rand = some (sets, .other) := by
  rw [gtidxCommand.eq_def]
  split
  · next heq =>
    obtain ⟨-, heq⟩ := List.cons_eq_cons.mp heq
    obtain ⟨rfl, rfl⟩ := List.cons_eq_cons.mp heq
    rw [not_and_or, not_or] at h
    obtain ⟨hadd, hremove⟩ := h.resolve_right (fun hlen => hlen rfl)
    exact (if_neg hadd).trans (if_neg hremove)
  · rfl

theorem gtidxUuidInterested_cases (server : Server) (args : List Bytes) :
    (gtidxUuidInterested server args).1 = server ∨
      (gtidxUuidInterested server args).1 =
        xsyncUuidInterestedSet server GTID_XSYNC_UUID_INTERESTED_DEFAULT ∨
      (gtidxUuidInterested server args).1 =
        xsyncUuidInterestedSet server GTID_XSYNC_UUID_INTERESTED_FULLRESYNC := by
  rw [gtidxUuidInterested.eq_def]
  split
  · split
    · split
      · exact Or.inr (Or.inl rfl)
      · split
        · exact Or.inr (Or.inr rfl)
        · exact Or.inl rfl
    · exact Or.inl rfl
  · exact Or.inl rfl

/-- **GTIDX changes the sets** as the function of ADD and REMOVE says, whatever the command is
called, and nothing else but uuid.interested. -/
theorem gtidxCommandProc_sets {name : Bytes} (hsub : 0 ∉ sub) (htype : 0 ∉ args.headD [])
    (h : gtidxCommandProc redis zcalloc server backlog (name :: sub :: args) rand =
      some (server', reply)) :
    (∃ reply', gtidxCommand redis server.toServerSets ([] :: sub :: args) rand =
      some (server'.toServerSets, reply')) ∧
    server' = { server with
      toServerSets := server'.toServerSets
      gtidUuidInterested := server'.gtidUuidInterested } := by
  have hsame : ∀ {r : Option GtidxReply},
      ¬ ((equalsIgnoreCase sub ADD = true ∨ equalsIgnoreCase sub REMOVE = true) ∧
        args.length = 4) →
      r.map (server, ·) = some (server', reply) →
      (∃ reply', gtidxCommand redis server.toServerSets ([] :: sub :: args) rand =
        some (server'.toServerSets, reply')) ∧
      server' = { server with
        toServerSets := server'.toServerSets
        gtidUuidInterested := server'.gtidUuidInterested } := by
    intro r hother hr
    obtain ⟨reply', -, heq⟩ := Option.map_eq_some_iff.mp hr
    obtain ⟨rfl, -⟩ := Prod.mk.inj heq
    exact ⟨⟨.other, gtidxCommand_other hother⟩, rfl⟩
  rw [gtidxCommandProc, gtidxSubcommand] at h
  split at h
  · next hhelp =>
    refine hsame (fun hr => ?_) (r := some .help) h
    rw [hhelp.2] at hr
    exact absurd hr.2 (by decide)
  split at h
  · next hlist => exact hsame (fun hr => by omega) h
  split at h
  · next hstat => exact hsame (fun hr => by omega) h
  split at h
  · next hrange =>
    obtain ⟨⟨sets, reply'⟩, hrun, h⟩ := Option.bind_eq_some_iff.mp h
    obtain ⟨rfl, -⟩ := Prod.mk.inj (Option.some.inj h)
    obtain ⟨type, rest, rfl⟩ : ∃ type rest, args = type :: rest :=
      List.exists_cons_of_length_pos (by omega)
    rw [cString_eq hsub, cString_eq htype] at hrun
    exact ⟨⟨reply', hrun⟩, rfl⟩
  next hother =>
    rw [isOption_of_notMem hsub, isOption_of_notMem hsub] at hother
    split at h
    · exact hsame hother h
    split at h
    · have hserver : (gtidxUuidInterested server args).1 = server' :=
        congrArg Prod.fst (Option.some.inj h)
      have hkept : server' = xsyncUuidInterestedSet server server'.gtidUuidInterested := by
        rw [← hserver]
        rcases gtidxUuidInterested_cases server args with heq | heq | heq <;> rw [heq] <;> rfl
      have hsets : server'.toServerSets = server.toServerSets :=
        (congrArg (fun s => Server.toServerSets s) hkept).trans rfl
      rw [hsets]
      exact ⟨⟨.other, gtidxCommand_other hother⟩, hkept⟩
    · exact hsame hother (r := some .subcommandSyntaxError) h

end Frame

/-! ## What STAT counts -/

section Stat
variable {s : GtidSet} {l : List (Addr × Entry)} {c : Addr × Entry} {u : UuidSet} {e : Entry}
  {es : List Entry}

/-- The number of intervals. -/
def gapCount (es : List Entry) : Nat := (es.map (fun e => e.2.length)).sum

/-- The numbers of some records. -/
def entriesStat (es : List Entry) : GtidStat where
  usedMemory := sizeT ((gapCount es + es.length) * GTID_INTERVAL_MEMORY : Nat)
  uuidCount := sizeT (es.length : Nat)
  gapCount := sizeT (gapCount es : Nat)
  gnoCount := llong (size es)

theorem gapCount_append (es : List Entry) (e : Entry) :
    gapCount (es ++ [e]) = gapCount es + e.2.length := by
  simp [gapCount]

theorem RecordOf.stat (h : RecordOf u e) : uuidSetGetStat u =
    ⟨sizeT ((e.2.length + 1) * GTID_INTERVAL_MEMORY : Nat), 1, sizeT (e.2.length : Nat),
      IntervalList.size e.2⟩ := by
  rw [uuidSetGetStat, h.wf.nodeCount, h.wf.gnoCount, h.intervals, Nat.cast_add, Nat.cast_one,
    add_sub_cancel_right]

theorem gtidStatMerge_record (h : RecordOf u e) :
    gtidStatMerge (entriesStat es) (uuidSetGetStat u) = entriesStat (es ++ [e]) := by
  rw [h.stat, gtidStatMerge, entriesStat, entriesStat, gapCount_append, size_append]
  have hone : size [e] = IntervalList.size e.2 := by simp [size]
  rw [hone, llong_add_llong, List.length_append, List.length_singleton]
  simp only [sizeT, GTID_INTERVAL_MEMORY, GtidStat.mk.injEq, and_true]
  omega

/-- **The loop** adds up the records. -/
theorem SetRep.stat (h : SetRep s l) : gtidSetGetStat s = entriesStat (entries s) := by
  have hloop : ∀ l' : List (Addr × Entry), (∀ c ∈ l', Holds s.uuidSetCells c) →
      ∀ es, (l'.map Prod.fst).foldl (fun stat a => ((s.uuidSetCells.get a).map
        (fun u => gtidStatMerge stat (uuidSetGetStat u))).getD stat) (entriesStat es) =
          entriesStat (es ++ l'.map Prod.snd) := by
    intro l'
    induction l' with
    | nil =>
      intro _ es
      rw [List.map_nil, List.map_nil, List.foldl_nil, List.append_nil]
    | cons c l' ih =>
      intro hholds es
      obtain ⟨u, hu, hrecord⟩ := (hholds c List.mem_cons_self).recordOf
      rw [List.map_cons, List.foldl_cons, hu, Option.map_some, Option.getD_some,
        gtidStatMerge_record hrecord, ih (fun d hd => hholds d (List.mem_cons_of_mem c hd)),
        List.append_assoc]
      rfl
  rw [gtidSetGetStat, h.uuidSets_eq, h.entries_eq]
  exact hloop l h.holds []

end Stat

/-! ## What LIST writes -/

section List
variable {s : GtidSet} {c : Addr × Entry} {u : UuidSet} {e : Entry} {k : Uuid} {rand : Rand}

/-- A text is read as some gtids. -/
def ReadsAs (text : Bytes) (S : Finset (Uuid × Int)) : Prop :=
  ∀ rand, ∃ t, gtidSetDecode (text ++ [0]) 0 text.length rand = some (some t) ∧ RegularSet t ∧
    contents t = S

/-- **The text of a record** is read as its gtids. -/
theorem readsAs_uuidSetText (hcanonical : IntervalList.Canonical e.2) (hvalid : Valid e.2)
    (hbelow : Below e.2) (hw : Writable e.1) (hlen : (uuidSetText e).length < 2 ^ 31) :
    ReadsAs (uuidSetText e) (pairs [e]) := by
  intro rand
  by_cases hne : e.2 = []
  · have hempty : pairs [e] = ∅ := by simp [pairs, hne]
    have htext : uuidSetText e = e.1 := by rw [uuidSetText, hne]; exact List.append_nil _
    rw [htext] at hlen ⊢
    rw [hempty]
    by_cases hnil : e.1 = []
    · rw [hnil]
      exact ⟨gtidSetNew, rfl, regularSet_new.1, contents_new⟩
    · exact gtidSetDecode_uuid hnil hw.1 hw.2 hlen rand
  · have hreadable : ∀ d ∈ [e], Readable d := by
      intro d hd
      obtain rfl := List.mem_singleton.mp hd
      exact ⟨hcanonical, hvalid, hne, hw.1, hw.2⟩
    have htext : gtidSetText [e] = uuidSetText e := by simp [gtidSetText]
    have hmem := (textAt_append.mp (textAt_self (gtidSetText [e] ++ [0]))).1
    have hok : ∀ d ∈ [e], Restorable d := by
      intro d hd
      obtain rfl := List.mem_singleton.mp hd
      exact Or.inr (IntervalList.top_lt (by decide) hbelow)
    rcases gtidSetDecode_spec hreadable hmem (addressable_of_length_lt (by rwa [htext])) rand with
      ⟨hnot, -⟩ | ⟨t, l, hdecode, -, hrep, hl⟩
    · exact absurd hok hnot
    obtain ⟨ht, hes⟩ := hrep.regular hl
      (canonical_cons.mpr ⟨List.not_mem_nil, hcanonical, canonical_nil⟩)
      (fun d hd => List.mem_singleton.mp hd ▸ hbelow)
    rw [htext] at hdecode
    exact ⟨t, hdecode, ht, by rw [contents, hes]⟩

/-- **The text of a set** is read as its gtids. -/
theorem RegularSet.readsAs (h : RegularSet s) (hw : ∀ x ∈ contents s, Writable x.1)
    (hlen : (setText s).length < 2 ^ 31) :
    gtidSetDump s = some (setText s) ∧ ReadsAs (setText s) (contents s) := by
  refine ⟨gtidSetDump_spec h.toWellFormedSet (hlen.trans (by decide)), fun rand => ?_⟩
  have hmem := (textAt_append.mp (textAt_self (setText s ++ [0]))).1
  have hwritable : ∀ e ∈ nonEmpty (entries s), Writable e.1 := by
    intro e he
    obtain ⟨g, hg⟩ := h.toWellFormedSet.exists_gno he
    exact hw _ hg
  obtain ⟨t, hdecode, ht, htes⟩ :=
    h.decode_text hwritable (addressable_of_length_lt hlen) hmem rand
  refine ⟨t, hdecode, ht, ?_⟩
  rw [contents, htes, pairs_nonEmpty]
  rfl

theorem uuidSetDump_spec (h : RecordOf u e) (hlen : (uuidSetText e).length < 2 ^ 63) :
    uuidSetDump u = some (uuidSetText e) := by
  have hsize : e.1.length + e.2.length * 44 + 44 = entrySize e := by rw [entrySize]; omega
  have hfails : ¬ RecordFails e (entrySize e) := by
    rintro (hlt | ⟨-, heq⟩)
    · omega
    · omega
  obtain ⟨mem', text, hencode, hw, hpart, -⟩ := uuidSetEncode_spec
    (List.replicate (entrySize e) 0) 0 (entrySize e) h hfails
    (by rw [List.length_replicate, Nat.zero_add]) (Or.inr hlen)
  obtain rfl := hpart.whole (h.fits (le_refl _))
  have hguard : (guard (0 ≤ ((uuidSetText e).length : Int)) : Option Unit) = some () :=
    if_pos (Int.natCast_nonneg _)
  rw [uuidSetDump]
  simp only [h.estimated, hencode, hguard, Option.bind_eq_bind, Option.bind_some,
    Int.toNat_natCast, hw.take_zero]

/-- The record of a uuid, with all of the gtids that the set has of it. -/
theorem RegularSet.find (h : RegularSet s) (hk : k ∈ uuids s) :
    ∃ a u e, gtidSetFind s k = some a ∧ s.uuidSetCells.get a = some u ∧ RecordOf u e ∧
      e ∈ entries s ∧ e.1 = k ∧ pairs [e] = (contents s).filter (fun x => x.1 = k) := by
  obtain ⟨l, hrep⟩ := h.rep
  rcases exists_first_cell k l with hno | ⟨p, c, q, rfl, hp, hc⟩
  · rw [uuids, hrep.entries_eq] at hk
    exact absurd hk hno
  · have hmem : c ∈ p ++ c :: q := by simp
    obtain ⟨u, hu, hrecord⟩ := (hrep.holds c hmem).recordOf
    have hentry : c.2 ∈ entries s := by
      rw [hrep.entries_eq]
      exact List.mem_map_of_mem hmem
    refine ⟨c.1, u, c.2, gtidSetFind_of_first hrep hp hc, hu, hrecord, hentry, hc, ?_⟩
    have hlookup := lookup_of_mem h.distinct hentry
    ext ⟨k', g⟩
    rw [Finset.mem_filter, h.toWellFormedSet.mem_contents, pairs, List.foldr_cons, List.foldr_nil,
      Finset.union_empty, Finset.mem_product, Finset.mem_singleton, ← hc]
    constructor
    · rintro ⟨rfl, hg⟩
      exact ⟨by rwa [hlookup], rfl⟩
    · rintro ⟨hg, rfl⟩
      exact ⟨rfl, by rwa [hlookup] at hg⟩

theorem gtidSetFind_none (h : RegularSet s) (hk : k ∉ uuids s) : gtidSetFind s k = none := by
  obtain ⟨l, hrep⟩ := h.rep
  rw [uuids, hrep.entries_eq] at hk
  exact gtidSetFind_of_notMem hrep hk

/-- A text of one uuid is not longer than that of all of them. -/
theorem length_uuidSetText_setText (he : e ∈ entries s) :
    (uuidSetText e).length ≤ max e.1.length (setText s).length := by
  by_cases hne : e.2 = []
  · have htext : uuidSetText e = e.1 := by rw [uuidSetText, hne]; exact List.append_nil _
    rw [htext]
    exact le_max_left _ _
  · exact le_max_of_le_right
      (length_uuidSetText_le (List.mem_filter.mpr ⟨he, decide_eq_true hne⟩))

end List

/-! ## The reports -/

section Report
variable {server : Server} {sub sub' type : Bytes} {ty : GtidSetType} {k uuid : Uuid}
  {E L : Finset (Uuid × Int)} {redis : Redis} {zcalloc : Nat → Bool} {backlog : ReplBuffer}
  {rand : Rand}

theorem equalsIgnoreCase_of_both {a b c : Bytes} (h : equalsIgnoreCase a b = true)
    (h' : equalsIgnoreCase a c = true) : equalsIgnoreCase b c = true := by
  simp only [equalsIgnoreCase, beq_iff_eq] at h h' ⊢
  exact h.symm.trans h'

/-- A subcommand has one name. -/
theorem isOption_ne {a b : Bytes} (h : isOption sub a = true)
    (hne : equalsIgnoreCase a b = false) : isOption sub b = false :=
  Bool.eq_false_iff.mpr
    (fun h' => Bool.eq_false_iff.mp hne (equalsIgnoreCase_of_both h h'))

/-- A set that can be reported: its texts are read back, and short enough. -/
structure Reportable (s : GtidSet) : Prop where
  regular : RegularSet s
  writable : ∀ k ∈ uuids s, Writable k ∧ k.length < 2 ^ 31
  short : (setText s).length < 2 ^ 31

/-- The numbers of a set of gtids that is made of some uuids. -/
structure Counts (stat : GtidStat) (n : Nat) (S : Finset (Uuid × Int)) : Prop where
  uuidCount : stat.uuidCount = sizeT (n : Nat)
  gapCount : stat.gapCount = sizeT ((ends S).card : Nat)
  gnoCount : stat.gnoCount = llong (S.card : Nat)

theorem Reportable.readsAs {s : GtidSet} (h : Reportable s) :
    gtidSetDump s = some (setText s) ∧ ReadsAs (setText s) (contents s) :=
  h.regular.readsAs (fun _ hx => (h.writable _ (mem_uuids_of_contents hx)).1) h.short

theorem Reportable.counts {s : GtidSet} (h : Reportable s) :
    Counts (gtidSetGetStat s) (uuids s).length (contents s) := by
  obtain ⟨l, hrep⟩ := h.regular.rep
  have hcanonical := h.regular.canonical
  have hgaps : (ends (contents s)).card = gapCount (entries s) := card_ends hcanonical
  rw [hrep.stat]
  refine ⟨?_, ?_, ?_⟩
  · rw [entriesStat, uuids, keys, List.length_map]
  · rw [hgaps]
    rfl
  · rw [← h.regular.toWellFormedSet.card]
    rfl

/-- One uuid of the set. -/
theorem Reportable.record {s : GtidSet} (h : Reportable s) (hk : k ∈ uuids s) :
    ∃ a u text, gtidSetFind s k = some a ∧ s.uuidSetCells.get a = some u ∧
      uuidSetDump u = some text ∧ ReadsAs text ((contents s).filter (fun x => x.1 = k)) ∧
      Counts (uuidSetGetStat u) 1 ((contents s).filter (fun x => x.1 = k)) := by
  obtain ⟨a, u, e, hfind, hu, hrecord, he, rfl, hpairs⟩ := h.regular.find hk
  have hcanonical := h.regular.canonical.canonical e he
  have hsingle : Canonical [e] := canonical_cons.mpr ⟨List.not_mem_nil, hcanonical, canonical_nil⟩
  have hw := h.writable e.1 hk
  have hlen : (uuidSetText e).length < 2 ^ 31 :=
    (length_uuidSetText_setText he).trans_lt (max_lt hw.2 h.short)
  have hgaps := card_ends hsingle
  have hsize := size_eq_card hsingle
  rw [hpairs] at hgaps hsize
  refine ⟨a, u, uuidSetText e, hfind, hu, uuidSetDump_spec hrecord (hlen.trans (by decide)), ?_,
    ?_, ?_, ?_⟩
  · rw [← hpairs]
    exact readsAs_uuidSetText hcanonical hrecord.valid (h.regular.below e he) hw.1 hlen
  · rw [hrecord.stat]
    rfl
  · rw [hgaps, hrecord.stat]
    rfl
  · have hone : size [e] = IntervalList.size e.2 := by simp [size]
    have hbounds := hrecord.wf.gnos.size_bounds
    rw [hrecord.intervals] at hbounds
    rw [← hsize, hone, hrecord.stat,
      llong_of_mem (le_trans (by decide : LLONG_MIN ≤ 0) hbounds.1) hbounds.2]

section Parts
variable {all : GtidSet → Option Bytes} {one : UuidSet → Option Bytes} {a : Addr} {u : UuidSet}

theorem gtidxReport_all (htype : findGtidSetType (cString type) = some ty) :
    gtidxReport server.toServerSets type none all one =
      (all (findGtidSet server.toServerSets ty)).map .bulk := by
  rw [gtidxReport, htype]

theorem gtidxReport_one (htype : findGtidSetType (cString type) = some ty)
    (hfind : gtidSetFind (findGtidSet server.toServerSets ty) k = some a)
    (hu : (findGtidSet server.toServerSets ty).uuidSetCells.get a = some u) :
    gtidxReport server.toServerSets type (some k) all one = (one u).map .bulk := by
  rw [gtidxReport, htype]
  simp only [hfind, hu, Option.bind_some]

theorem gtidxReport_notFound (htype : findGtidSetType (cString type) = some ty)
    (hfind : gtidSetFind (findGtidSet server.toServerSets ty) k = none) :
    gtidxReport server.toServerSets type (some k) all one =
      some (.uuidNotFound (cString k)) := by
  rw [gtidxReport, htype]
  simp only [hfind]

end Parts

theorem gtidxSubcommand_list (hsub : isOption sub LIST = true) (uuid : Option Uuid) :
    gtidxSubcommand redis zcalloc server backlog sub (type :: uuid.toList) rand =
      (gtidxList server.toServerSets type uuid).map (server, ·) := by
  have hargs : (type :: uuid.toList).length = 1 ∨ (type :: uuid.toList).length = 2 := by
    cases uuid with
    | none => exact Or.inl rfl
    | some k => exact Or.inr rfl
  have huuid : (type :: uuid.toList)[1]? = uuid := by cases uuid <;> rfl
  rw [gtidxSubcommand, if_neg (fun h => List.cons_ne_nil _ _ h.2), if_pos ⟨hsub, hargs⟩, huuid]
  rfl

theorem gtidxSubcommand_stat (hsub : isOption sub STAT = true) (uuid : Option Uuid) :
    gtidxSubcommand redis zcalloc server backlog sub (type :: uuid.toList) rand =
      (gtidxStat server.toServerSets type uuid).map (server, ·) := by
  have hargs : (type :: uuid.toList).length = 1 ∨ (type :: uuid.toList).length = 2 := by
    cases uuid with
    | none => exact Or.inl rfl
    | some k => exact Or.inr rfl
  have huuid : (type :: uuid.toList)[1]? = uuid := by cases uuid <;> rfl
  have hlist : isOption sub LIST = false := isOption_ne hsub (by decide)
  rw [gtidxSubcommand, if_neg (fun h => List.cons_ne_nil _ _ h.2),
    if_neg (fun h => Bool.eq_false_iff.mp hlist h.1), if_pos ⟨hsub, hargs⟩, huuid]
  rfl

/-- **LIST and STAT** of a set agree with each other and with the set: the text that is listed is
read as its gtids, of which STAT gives the number, that of the runs of consecutive ones and that of
the uuids; the same for one uuid, which is not found just when the set has no record of it.  The
server is left as it is. -/
theorem gtidx_reports (htype : findGtidSetType (cString type) = some ty)
    (h : Reportable (findGtidSet server.toServerSets ty)) (hlist : isOption sub LIST = true)
    (hstat : isOption sub' STAT = true) (redis : Redis) (zcalloc : Nat → Bool)
    (backlog : ReplBuffer) (name : Bytes) (rand : Rand) :
    (∃ text stat, gtidxCommandProc redis zcalloc server backlog [name, sub, type] rand =
        some (server, .bulk text) ∧ ReadsAs text (contents (findGtidSet server.toServerSets ty)) ∧
      gtidxCommandProc redis zcalloc server backlog [name, sub', type] rand = some (server,
        .bulk (catGtidStatString (['a', 'l', 'l', ':'].map Char.toUInt8) stat)) ∧
      Counts stat (uuids (findGtidSet server.toServerSets ty)).length
        (contents (findGtidSet server.toServerSets ty))) ∧
    ∀ k, (k ∈ uuids (findGtidSet server.toServerSets ty) → ∃ text stat,
        gtidxCommandProc redis zcalloc server backlog [name, sub, type, k] rand =
          some (server, .bulk text) ∧
        ReadsAs text ((contents (findGtidSet server.toServerSets ty)).filter (fun x => x.1 = k)) ∧
        gtidxCommandProc redis zcalloc server backlog [name, sub', type, k] rand =
          some (server, .bulk (catGtidStatString (cString k ++ [colon]) stat)) ∧
        Counts stat 1 ((contents (findGtidSet server.toServerSets ty)).filter (fun x => x.1 = k))) ∧
      (k ∉ uuids (findGtidSet server.toServerSets ty) → ∀ sub'' ∈ [sub, sub'],
        gtidxCommandProc redis zcalloc server backlog [name, sub'', type, k] rand =
          some (server, .uuidNotFound (cString k))) := by
  refine ⟨?_, fun k => ⟨fun hk => ?_, fun hk => ?_⟩⟩
  · obtain ⟨hdump, hreads⟩ := h.readsAs
    refine ⟨_, _, (gtidxSubcommand_list hlist none).trans ?_, hreads,
      (gtidxSubcommand_stat hstat none).trans ?_, h.counts⟩
    · rw [gtidxList, gtidxReport_all htype, hdump]
      rfl
    · rw [gtidxStat, gtidxReport_all htype]
      rfl
  · obtain ⟨a, u, text, hfind, hu, hdump, hreads, hcounts⟩ := h.record hk
    refine ⟨text, _, (gtidxSubcommand_list hlist (some k)).trans ?_, hreads,
      (gtidxSubcommand_stat hstat (some k)).trans ?_, hcounts⟩
    · rw [gtidxList, gtidxReport_one htype hfind hu, hdump]
      rfl
    · rw [gtidxStat, gtidxReport_one htype hfind hu]
      rfl
  · have hfind := gtidSetFind_none h.regular hk
    intro sub'' hsub''
    rcases List.mem_cons.mp hsub'' with rfl | hsub''
    · refine (gtidxSubcommand_list hlist (some k)).trans ?_
      rw [gtidxList, gtidxReport_notFound htype hfind]
      rfl
    · obtain rfl := List.mem_singleton.mp hsub''
      refine (gtidxSubcommand_stat hstat (some k)).trans ?_
      rw [gtidxStat, gtidxReport_notFound htype hfind]
      rfl

/-- `GTIDX list executed` and `GTIDX stat executed` on a server that has executed `B:1`. -/
theorem gtidx_reports_one :
    ∃ server text stat, gtidxCommandProc Redis.plain (fun _ => true) server ringOfFour
        [GTIDX, LIST, ['e', 'x', 'e', 'c', 'u', 't', 'e', 'd'].map Char.toUInt8] (fun _ => 0) =
          some (server, .bulk text) ∧ ReadsAs text {([66], 1)} ∧
      gtidxCommandProc Redis.plain (fun _ => true) server ringOfFour
        [GTIDX, STAT, ['e', 'x', 'e', 'c', 'u', 't', 'e', 'd'].map Char.toUInt8] (fun _ => 0) =
          some (server, .bulk (catGtidStatString (['a', 'l', 'l', ':'].map Char.toUInt8) stat)) ∧
      Counts stat 1 {([66], 1)} := by
  obtain ⟨sets, hold, huuids, -, -, t, hget, hlen⟩ := exists_replicaSets
  obtain ⟨t', hget', ht, htset, -⟩ := serverGtidSetGet_holding hold (fun _ => 0)
  obtain rfl := Option.some.inj (hget.symm.trans hget')
  have hregular := hold.executed.toRegularSet
  have hset : contents (findGtidSet (masterServer sets .xsync 100 0).toServerSets .executed) =
      {([66], 1)} := hold.executed_eq
  have hshort : (setText sets.gtidExecuted).length = 3 := by
    rw [hregular.length_setText ht (by rw [hold.executed_eq, htset, Finset.union_empty]), hlen]
  have huuid : Writable [66] ∧ [66].length < 2 ^ 31 := by
    unfold Writable
    decide
  have hreport : Reportable (findGtidSet (masterServer sets .xsync 100 0).toServerSets .executed) :=
    { regular := hregular
      writable := by
        intro k hk
        have hk : k ∈ uuids sets.gtidExecuted := hk
        rw [huuids] at hk
        exact List.mem_singleton.mp hk ▸ huuid
      short := hshort.trans_lt (by decide) }
  obtain ⟨⟨text, stat, hlist, hreads, hstat, hcounts⟩, -⟩ := gtidx_reports
    (show findGtidSetType (cString (['e', 'x', 'e', 'c', 'u', 't', 'e', 'd'].map Char.toUInt8)) =
      some .executed by decide +kernel) hreport (show isOption LIST LIST = true by decide +kernel)
    (show isOption STAT STAT = true by decide +kernel) Redis.plain (fun _ => true) ringOfFour
    GTIDX (fun _ => 0)
  have hone : (uuids (findGtidSet (masterServer sets .xsync 100 0).toServerSets .executed)).length =
      1 := congrArg List.length huuids
  rw [hset] at hreads hcounts
  rw [hone] at hcounts
  exact ⟨_, text, stat, hlist, hreads, hstat, hcounts⟩

end Report

/-! ## The gtids of the index -/

section Index
variable {redis : Redis} {p : PropagateServer} {seq : GtidSeq} {segments : Arena GtidSegment}
  {l f : List (Addr × GtidSegment)} {s : GtidSet} {log : List LogEntry} {sub sub' : Bytes}
  {rand : Rand}

/-- **The loop** adds the gtids of the segments. -/
theorem addSegments_rep (hl : ∀ c ∈ l, (segments.get c.1).map unlinked = some c.2 ∧ SegmentWF c.2)
    (hs : RegularSet s) (hset : contents s = gtids log) (rand : Rand) :
    ∃ t, addSegments segments (l.map Prod.fst) s rand = some t ∧ RegularSet t ∧
      contents t = gtids (cellEntries l ++ log) := by
  induction l generalizing s log rand with
  | nil => exact ⟨s, rfl, hs, hset⟩
  | cons c l ih =>
    obtain ⟨hget, hwf⟩ := hl c List.mem_cons_self
    obtain ⟨seg, hseg, hunlinked⟩ := Option.map_eq_some_iff.mp hget
    rw [← hunlinked, segmentWF_unlinked] at hwf
    obtain ⟨s', n, hadd, hs', hset'⟩ := addRange hs hwf hwf.nonempty hset (rand.sub 0)
    have hentries : segmentEntries c.2 =
        (List.range' seg.tgno (seg.ngno - seg.tgno)).map (entryAt seg) := by
      rw [← hunlinked, segmentEntries_unlinked, segmentEntries]
    obtain ⟨t, hrun, ht, htset⟩ :=
      ih (fun d hd => hl d (List.mem_cons_of_mem c hd)) hs' hset' (rand.sub 1)
    refine ⟨t, ?_, ht, ?_⟩
    · rw [List.map_cons, addSegments, hseg]
      simp only [Option.bind_eq_bind, Option.bind_some, hwf.llong_gno (Nat.le_of_lt hwf.nonempty),
        hwf.llong_end, hadd]
      exact hrun
    · rw [htset, cellEntries_cons, hentries, gtids_append, gtids_append, gtids_append, gtids_append,
        ← Finset.union_assoc, Finset.union_comm (gtids (cellEntries l))]

/-- **SEQ GTID.SET** replies with the gtids of the index. -/
theorem SeqRep.gtidSet (h : SeqRep seq l f) (hw : ∀ e ∈ gtidSeqEntries seq, Writable e.uuid)
    (hsize : gtidsSize (gtidSeqEntries seq) < 2 ^ 31) (rand : Rand) :
    ∃ text, gtidxSeqGtidSet seq rand = some (.bulk text) ∧
      ReadsAs text (gtids (gtidSeqEntries seq)) := by
  have hnew : contents gtidSetNew = gtids [] := contents_new
  obtain ⟨t, hrun, ht, hset⟩ := addSegments_rep h.holds_wf regularSet_new.1 hnew rand
  rw [List.append_nil, ← h.entries_eq] at hset
  have hforward : segmentsForward seq = l.map Prod.fst :=
    follow_chain h.next (by simpa using h.toSeqLinks.length_le)
  have hlen := ht.toWellFormedSet.length_text_le hset (List.suffix_refl _)
  obtain ⟨hdump, hreads⟩ := ht.readsAs (fun x hx => by
    obtain ⟨e, he, rfl⟩ := mem_gtids.mp (hset ▸ hx)
    exact hw e he) (hlen.trans_lt hsize)
  refine ⟨setText t, ?_, hset ▸ hreads⟩
  rw [gtidxSeqGtidSet, hforward, hrun, Option.bind_eq_bind, Option.bind_some, hdump]
  rfl

/-- A master that has executed nothing, with a backlog. -/
def backlogServer (e : GtidSet) : PropagateServer where
  toServer :=
    { masterServer ⟨[65], e, gtidSetNew⟩ .xsync 0 0 with
      replBacklog := ⟨true, CONFIG_REPL_BACKLOG_MIN_SIZE, 0, 1⟩
      gtidSeq := some gtidSeqCreate }
  gtidEnabled := true
  gtidDbidAtMulti := -1
  gtidOffsetAtMulti := -1

/-- Its first write has been indexed. -/
theorem exists_indexedWrite :
    ∃ e p' fed seq, gtidSetCurrentUuidSetUpdate gtidSetNew [65] = some e ∧
      (PropagateOp.write .other 0 [[115]] 10).step Redis.plain (backlogServer e) (fun _ => 0) =
        some (p', fed) ∧ p'.gtidSeq = some seq ∧ gtidSeqEntries seq = [⟨[65], 1, 1⟩] := by
  obtain ⟨e, hupdate, hentries⟩ : ∃ e, gtidSetCurrentUuidSetUpdate gtidSetNew [65] = some e ∧
      ((PropagateOp.write .other 0 [[115]] 10).step Redis.plain (backlogServer e)
        (fun _ => 0)).map (fun r => r.1.gtidSeq.map gtidSeqEntries) = some (some [⟨[65], 1, 1⟩]) :=
    ⟨_, rfl, by decide +kernel⟩
  obtain ⟨⟨p', fed⟩, hstep, hseq⟩ := Option.map_eq_some_iff.mp hentries
  obtain ⟨seq, hsome, hlog⟩ := Option.map_eq_some_iff.mp hseq
  exact ⟨e, p', fed, seq, hupdate, hstep, hsome, hlog⟩

end Index

end XredisGtid
