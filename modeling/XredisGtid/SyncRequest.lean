import XredisGtid.SyncReply
import XredisGtid.SyncReplyText
import XredisGtid.SyncSpec

/-!
# Requests

`xredis_gtid_repl.c`: the arguments of PSYNC and XSYNC, what a master parses them as, and how it
goes on from there.  An XSYNC request that a replica writes is parsed as a request with the same
gtids.
-/
namespace XredisGtid
open Buffer KeyedIntervals

def PSYNC : Bytes := ['p', 's', 'y', 'n', 'c'].map Char.toUInt8
def XSYNC : Bytes := ['x', 's', 'y', 'n', 'c'].map Char.toUInt8
def MAXGAP : Bytes := ['m', 'a', 'x', 'g', 'a', 'p'].map Char.toUInt8

/-- Why a request is invalid; the format and the value of `i.msg`. -/
inductive RequestError where
  /-- offset %s invalid -/
  | offset (value : Bytes)
  /-- invalid gtid.set %s -/
  | gtidSet (value : Bytes)
  /-- invalid repl mode: %s -/
  | replMode (value : Bytes)
deriving DecidableEq, Repr

inductive SyncRequest where
  | psync (request : PsyncRequest)
  | xsync (request : XsyncRequest)
  /-- A bad GTID.LOST has no message. -/
  | invalid (msg : Option RequestError)

def masterParsePsyncRequest (replid offset : Bytes) : SyncRequest :=
  match getLongLongFromObject offset with
  | none => .invalid (some (.offset offset))
  | some value => .psync ⟨replid, value⟩

/-- The options of XSYNC, of which the last one of a name counts.  A bad MAXGAP is ignored, and so
is what has no value; a bad GTID.LOST is not. -/
def parseXsyncOptions : List Bytes → Int → Option GtidSet → Rand →
    Option (Option (Int × Option GtidSet))
  | name :: value :: optargv, maxgap, gtidLost, rand =>
    if isOption name MAXGAP then
      parseXsyncOptions optargv ((getLongLongFromObject value).getD 0) gtidLost rand
    else if isOption name ReplyOption.gtidLost.name then do
      match ← gtidSetDecode (value ++ [0]) 0 value.length (rand.sub 0) with
      | none => some none
      | some gtidLost => parseXsyncOptions optargv maxgap (some gtidLost) (rand.sub 1)
    else parseXsyncOptions optargv maxgap gtidLost rand
  | _, maxgap, gtidLost, _ => some (some (maxgap, gtidLost))

def masterParseXsyncRequest (uuid gtidset : Bytes) (optargv : List Bytes) (rand : Rand) :
    Option SyncRequest := do
  match ← gtidSetDecode (gtidset ++ [0]) 0 gtidset.length (rand.sub 0) with
  | none => some (.invalid (some (.gtidSet gtidset)))
  | some gtidSlave =>
    match ← parseXsyncOptions optargv 0 none (rand.sub 1) with
    | none => some (.invalid none)
    | some (maxgap, gtidLost) =>
      some (.xsync
        { uuidInterested := cString uuid
          gtidSlave := gtidSlave
          -- gtid.lost unspecified, default to empty
          gtidLost := gtidLost.getD gtidSetNew
          maxgap := maxgap })

def masterParseSyncRequest (argv : List Bytes) (rand : Rand) : Option SyncRequest := do
  let mode ← argv[0]?
  if isOption mode PSYNC then some (masterParsePsyncRequest (← argv[1]?) (← argv[2]?))
  else if isOption mode XSYNC then
    masterParseXsyncRequest (← argv[1]?) (← argv[2]?) (argv.drop 3) rand
  else some (.invalid (some (.replMode mode)))

/-- Also the message of a request that is invalid. -/
def masterAnaSyncRequest (server : Server) (request : SyncRequest) (rand : Rand) :
    Option (SyncResult × Option RequestError) :=
  match request with
  | .psync request => do some (← masterAnaPsyncRequest server request rand, none)
  | .xsync request => do some (← masterAnaXsyncRequest server request rand, none)
  | .invalid msg => some (.fullresync 0 .none, msg)

/-- Also whether it is left to a full synchronization. -/
def ctripMasterTryPartialResynchronization [RedisReplication] (server : Server) (argv : List Bytes)
    (rand : Rand) :
    Option (Server × SyncReply × SyncResult) := do
  let request ← masterParseSyncRequest argv (rand.sub 0)
  let (result, _) ← masterAnaSyncRequest server request (rand.sub 1)
  let (server, reply) ← masterReplySyncRequest server result (rand.sub 2)
  some (server, reply, result)

/-- XSYNC <uuid.interested> <gtid.set> GTID.LOST <gtid.lost> MAXGAP <maxgap> -/
def xsyncArgv (uuidInterested gtidSlave gtidLost : Bytes) (maxgap : Int) : List Bytes :=
  [['X', 'S', 'Y', 'N', 'C'].map Char.toUInt8, uuidInterested, gtidSlave,
    ReplyOption.gtidLost.written, gtidLost, ['M', 'A', 'X', 'G', 'A', 'P'].map Char.toUInt8,
    longText maxgap]

/-- The arguments a replica sends in xsync mode, none in psync mode; a text ends at a zero byte. -/
def ctripSlaveTryPartialResynchronizationWrite (server : Server) (rand : Rand) :
    Option (List Bytes) := do
  guard (server.replMode.mode = .xsync)
  let gtidSlave ← serverGtidSetGet server.toServerSets rand
  let gtidSlaveRepr ← gtidSetDump gtidSlave
  let gtidLostRepr ← gtidSetDump server.gtidLost
  some (xsyncArgv (cString server.gtidUuidInterested) (cString gtidSlaveRepr)
    (cString gtidLostRepr) server.gtidXsyncMaxGap)

/-- The arguments that a request is sent as. -/
def XsyncRequest.argv (request : XsyncRequest) : Option (List Bytes) := do
  let gtidSlaveRepr ← gtidSetDump request.gtidSlave
  let gtidLostRepr ← gtidSetDump request.gtidLost
  some (xsyncArgv (cString request.uuidInterested) (cString gtidSlaveRepr)
    (cString gtidLostRepr) request.maxgap)

/-- **What is sent** are the texts of the request. -/
theorem ctripSlaveTryPartialResynchronizationWrite_eq (server : Server) (rand : Rand) :
    ctripSlaveTryPartialResynchronizationWrite server rand =
      (slaveTryPartialResynchronizationWrite server rand).bind XsyncRequest.argv := by
  simp only [ctripSlaveTryPartialResynchronizationWrite, slaveTryPartialResynchronizationWrite,
    XsyncRequest.argv, Option.bind_eq_bind, Option.bind_assoc, Option.bind_some]

/-! ## What a replica writes is what a master parses -/

section ReadBack
variable {r : Server} {name value : Bytes} {optargv : List Bytes} {maxgap n : Int}
  {gtidLost : Option GtidSet} {t : GtidSet} {E L : Finset (Uuid × Int)} {uuid : Uuid} {rand : Rand}

theorem parseXsyncOptions_maxgap (hname : isOption name MAXGAP = true)
    (hvalue : getLongLongFromObject value = some n) :
    parseXsyncOptions (name :: value :: optargv) maxgap gtidLost rand =
      parseXsyncOptions optargv n gtidLost rand := by
  rw [parseXsyncOptions, if_pos hname, hvalue, Option.getD_some]

theorem parseXsyncOptions_gtidLost (hname : isOption name ReplyOption.gtidLost.name = true)
    (hmaxgap : isOption name MAXGAP = false)
    (hvalue : gtidSetDecode (value ++ [0]) 0 value.length (rand.sub 0) = some (some t)) :
    parseXsyncOptions (name :: value :: optargv) maxgap gtidLost rand =
      parseXsyncOptions optargv maxgap (some t) (rand.sub 1) := by
  rw [parseXsyncOptions, hmaxgap, if_neg Bool.false_ne_true, if_pos hname, hvalue]
  rfl

/-- A set whose text is read back as one with the same gtids. -/
theorem Sendable.decode_contents {s : GtidSet} (h : Sendable s) (hs : RestorableSet s)
    (hlen : (setText s).length < 2 ^ 31) (rand : Rand) :
    ∃ t, gtidSetDecode (setText s ++ [0]) 0 (setText s).length rand = some (some t) ∧
      WellFormedSet t ∧ contents t = contents s := by
  obtain ⟨t, hdecode, -, ht, htes⟩ := (h.decode hlen rand).resolve_left (fun hfails => hfails.1 hs)
  refine ⟨t, hdecode, ht, ?_⟩
  rw [contents, htes, pairs_nonEmpty]
  rfl

theorem Sendable.decode_regular {s : GtidSet} (h : Sendable s) (hs : RegularSet s)
    (hlen : (setText s).length < 2 ^ 31) (rand : Rand) :
    ∃ t, gtidSetDecode (setText s ++ [0]) 0 (setText s).length rand = some (some t) ∧
      RegularSet t ∧ contents t = contents s := by
  obtain ⟨t, hdecode, ht, hset⟩ := h.decode_contents hs.restorable hlen rand
  exact ⟨t, hdecode, hs.of_contents ht hset, hset⟩

theorem Sendable.zero_notMem {s : GtidSet} (h : Sendable s) : 0 ∉ setText s :=
  fun hmem => not_wordByte_zero (h.wordByte 0 hmem)

/-- What a replica has to send: plain uuids, and texts that an `int` can address. -/
structure SendsRequest (r : Server) (rand : Rand) : Prop where
  mode : r.replMode.mode = .xsync
  interested : 0 ∉ r.gtidUuidInterested
  maxgap : LLONG_MIN ≤ r.gtidXsyncMaxGap ∧ r.gtidXsyncMaxGap ≤ LLONG_MAX
  plain : ∀ uuid, uuid ∈ uuids r.gtidExecuted ∨ uuid ∈ uuids r.gtidLost → Plain uuid
  slave_short : ∀ gtidSlave, serverGtidSetGet r.toServerSets rand = some gtidSlave →
    (setText gtidSlave).length < 2 ^ 31
  lost_short : (setText r.gtidLost).length < 2 ^ 31

/-- **The request of a replica** is parsed as an XSYNC request with its gtids, those it has lost,
its uuid.interested and its maxgap. -/
theorem xsyncRequest_readBack (h : Holding r.toServerSets uuid E L) (hsends : SendsRequest r rand)
    (rand' : Rand) :
    ∃ argv request, ctripSlaveTryPartialResynchronizationWrite r rand = some argv ∧
      masterParseSyncRequest argv rand' = some (.xsync request) ∧
      request.uuidInterested = r.gtidUuidInterested ∧ request.maxgap = r.gtidXsyncMaxGap ∧
      RegularSet request.gtidSlave ∧ contents request.gtidSlave = E ∪ L ∧
      RegularSet request.gtidLost ∧ contents request.gtidLost = L := by
  obtain ⟨gtidSlave, hget, hslave, hset, huuids⟩ := serverGtidSetGet_holding h rand
  have hshort := hsends.slave_short gtidSlave hget
  have hsend : Sendable gtidSlave :=
    ⟨hslave.toWellFormedSet, fun k hk => hsends.plain k ((huuids k).mp hk), by omega⟩
  have hlost : Sendable r.gtidLost :=
    ⟨h.lost.toWellFormedSet, fun k hk => hsends.plain k (Or.inr hk),
      lt_trans hsends.lost_short (by decide)⟩
  obtain ⟨t, hdecode, ht, htset⟩ := hsend.decode_regular hslave hshort (rand'.sub 0)
  obtain ⟨u, hdecode', hu, huset⟩ :=
    hlost.decode_regular h.lost hsends.lost_short ((rand'.sub 1).sub 0)
  have hguard : (guard (r.replMode.mode = .xsync) : Option Unit) = some () := if_pos hsends.mode
  have hrequest : slaveTryPartialResynchronizationWrite r rand =
      some ⟨r.gtidUuidInterested, gtidSlave, r.gtidLost, r.gtidXsyncMaxGap⟩ := by
    simp only [slaveTryPartialResynchronizationWrite, hguard, hget, Option.bind_eq_bind,
      Option.bind_some]
  have hwrite : ctripSlaveTryPartialResynchronizationWrite r rand =
      some (xsyncArgv r.gtidUuidInterested (setText gtidSlave) (setText r.gtidLost)
        r.gtidXsyncMaxGap) := by
    simp only [ctripSlaveTryPartialResynchronizationWrite_eq, XsyncRequest.argv, hrequest,
      hsend.dump, hlost.dump, cString_eq hsend.zero_notMem, cString_eq hlost.zero_notMem,
      cString_eq hsends.interested, Option.bind_eq_bind, Option.bind_some]
  have hoptions : parseXsyncOptions [ReplyOption.gtidLost.written, setText r.gtidLost,
      ['M', 'A', 'X', 'G', 'A', 'P'].map Char.toUInt8, longText r.gtidXsyncMaxGap] 0 none
      (rand'.sub 1) = some (some (r.gtidXsyncMaxGap, some u)) := by
    rw [parseXsyncOptions_gtidLost (by decide) (by decide) hdecode',
      parseXsyncOptions_maxgap (by decide)
        (getLongLongFromObject_longText hsends.maxgap.1 hsends.maxgap.2)]
    rfl
  have hparse : masterParseSyncRequest (xsyncArgv r.gtidUuidInterested (setText gtidSlave)
      (setText r.gtidLost) r.gtidXsyncMaxGap) rand' =
        some (.xsync ⟨r.gtidUuidInterested, t, u, r.gtidXsyncMaxGap⟩) := by
    have hpsync : isOption (['X', 'S', 'Y', 'N', 'C'].map Char.toUInt8) PSYNC = false := by decide
    have hxsync : isOption (['X', 'S', 'Y', 'N', 'C'].map Char.toUInt8) XSYNC = true := by decide
    simp only [masterParseSyncRequest, xsyncArgv, List.getElem?_cons_zero,
      List.getElem?_cons_succ, hpsync, hxsync, masterParseXsyncRequest, hdecode, hoptions,
      List.drop_succ_cons, List.drop_zero, cString_eq hsends.interested, Option.bind_eq_bind,
      Option.bind_some, Bool.false_eq_true, if_false, if_true, Option.getD_some]
  exact ⟨_, _, hwrite, hparse, rfl, rfl, ht, htset.trans hset, hu, huset.trans h.lost_eq⟩

/-- A replica of uuid `B` that has executed `B:1`. -/
theorem exists_replicaSets :
    ∃ sets, Holding sets [66] {([66], 1)} ∅ ∧ uuids sets.gtidExecuted = [[66]] ∧
      sets.gtidLost = gtidSetNew ∧ sets.gtidExecuted.curnext = 0 ∧
      ∃ t, serverGtidSetGet sets (fun _ => 0) = some t ∧ (setText t).length = 3 := by
  obtain ⟨e, sets, t, hupdate, hrun, huuids, hlost, hget, hlen⟩ : ∃ e sets t,
      gtidSetCurrentUuidSetUpdate gtidSetNew [66] = some e ∧
      gtidCommand ⟨[66], e, gtidSetNew⟩ [66] 1 (fun _ => 0) = some (sets, true) ∧
      uuids sets.gtidExecuted = [[66]] ∧ sets.gtidLost = gtidSetNew ∧
      serverGtidSetGet sets (fun _ => 0) = some t ∧ (setText t).length = 3 :=
    ⟨_, _, _, rfl, rfl, rfl, rfl, rfl, rfl⟩
  obtain ⟨hold, hcur⟩ := serverStart_spec (s := ⟨[66], e, gtidSetNew⟩) ⟨hupdate, rfl⟩
  obtain ⟨sets', hrun', hold', hcur'⟩ :=
    gtidCommand_spec hold [66] (le_refl 1) (by decide) (fun _ => 0)
  obtain ⟨rfl, -⟩ := Prod.mk.inj (Option.some.inj (hrun.symm.trans hrun'))
  rw [if_neg (by decide), Finset.empty_union] at hold'
  exact ⟨sets, hold', huuids, hlost, hcur'.trans hcur, t, hget, hlen⟩

theorem sendsRequest_replicaSets {sets : ServerSets} (huuids : uuids sets.gtidExecuted = [[66]])
    (hlost : sets.gtidLost = gtidSetNew)
    (hget : ∃ t, serverGtidSetGet sets (fun _ => 0) = some t ∧ (setText t).length = 3) :
    SendsRequest (masterServer sets .xsync 100 0) (fun _ => 0) := by
  have hnone : uuids gtidSetNew = [] := rfl
  have htext : setText gtidSetNew = [] := rfl
  have huuid : Plain [66] := by decide +kernel
  have hinterested : 0 ∉ GTID_XSYNC_UUID_INTERESTED_DEFAULT := by decide
  have hmaxgap : LLONG_MIN ≤ 10000 ∧ 10000 ≤ LLONG_MAX := by decide
  refine ⟨rfl, hinterested, hmaxgap, ?_, ?_, ?_⟩
  · rintro uuid (h | h)
    · rw [show (masterServer sets .xsync 100 0).gtidExecuted = sets.gtidExecuted from rfl,
        huuids] at h
      exact List.mem_singleton.mp h ▸ huuid
    · rw [show (masterServer sets .xsync 100 0).gtidLost = sets.gtidLost from rfl, hlost,
        hnone] at h
      exact absurd h List.not_mem_nil
  · obtain ⟨t, hget, hlen⟩ := hget
    intro t' hget'
    obtain rfl := Option.some.inj (hget.symm.trans hget')
    omega
  · rw [show (masterServer sets .xsync 100 0).gtidLost = sets.gtidLost from rfl, hlost, htext]
    decide

theorem xsyncRequest_readBack_one :
    ∃ r argv request, ctripSlaveTryPartialResynchronizationWrite r (fun _ => 0) = some argv ∧
      masterParseSyncRequest argv (fun _ => 0) = some (.xsync request) ∧
      contents request.gtidSlave = {([66], 1)} := by
  obtain ⟨sets, hold, huuids, hlost, -, hget⟩ := exists_replicaSets
  have hr : Holding (masterServer sets .xsync 100 0).toServerSets [66] {([66], 1)} ∅ := hold
  obtain ⟨argv, request, hwrite, hparse, -, -, -, hset, -⟩ :=
    xsyncRequest_readBack hr (sendsRequest_replicaSets huuids hlost hget) (fun _ => 0)
  exact ⟨_, argv, request, hwrite, hparse, hset⟩

end ReadBack

end XredisGtid
