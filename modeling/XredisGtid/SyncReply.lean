import XredisGtid.KeyCommand
import XredisGtid.Rdb
import XredisGtid.GtidSeqEncode
import XredisGtid.Sync

/-!
# Reply lines

`xredis_gtid_repl.c`: the lines a master answers a sync request with, what a replica parses
a line as, and what it then does.  Sending, logging and memory to free are left out.

How Redis splits a line into tokens is a parameter.
-/
namespace XredisGtid
open Buffer Decimal

/-- `sdssplitlen(s,len," ",1,&count)`, and `sdssplitargs(s,&argc)`, which is `NULL` for a text with
unbalanced quotes. -/
structure Sds where
  sdssplitlen : Bytes → List Bytes
  sdssplitargs : Bytes → Option (List Bytes)

def space : UInt8 := ' '.toUInt8
def tab : UInt8 := '\t'.toUInt8
def quote : UInt8 := '"'.toUInt8
def singleQuote : UInt8 := '\''.toUInt8
def crlf : Bytes := ['\r', '\n'].map Char.toUInt8

def XFULLRESYNC : Bytes :=
  ['+', 'X', 'F', 'U', 'L', 'L', 'R', 'E', 'S', 'Y', 'N', 'C'].map Char.toUInt8
def XCONTINUE : Bytes := ['+', 'X', 'C', 'O', 'N', 'T', 'I', 'N', 'U', 'E'].map Char.toUInt8
def FULLRESYNC : Bytes := ['+', 'F', 'U', 'L', 'L', 'R', 'E', 'S', 'Y', 'N', 'C'].map Char.toUInt8
def CONTINUE : Bytes := ['+', 'C', 'O', 'N', 'T', 'I', 'N', 'U', 'E'].map Char.toUInt8
def NOMASTERLINK : Bytes :=
  ['-', 'N', 'O', 'M', 'A', 'S', 'T', 'E', 'R', 'L', 'I', 'N', 'K'].map Char.toUInt8
def LOADING : Bytes := ['-', 'L', 'O', 'A', 'D', 'I', 'N', 'G'].map Char.toUInt8
def READING_FROM_MASTER : Bytes :=
  ['-', 'R', 'e', 'a', 'd', 'i', 'n', 'g', ' ', 'f', 'r', 'o', 'm', ' ', 'm', 'a', 's', 't', 'e', 'r',
    ':'].map Char.toUInt8

/-! ## Options -/

inductive ReplyOption where
  | gtidSet
  | gtidLost
  | masterUuid
  | replid
  | reploff
deriving DecidableEq, Repr

/-- The name as a master writes it. -/
def ReplyOption.written : ReplyOption → Bytes
  | .gtidSet => ['G', 'T', 'I', 'D', '.', 'S', 'E', 'T'].map Char.toUInt8
  | .gtidLost => ['G', 'T', 'I', 'D', '.', 'L', 'O', 'S', 'T'].map Char.toUInt8
  | .masterUuid => ['M', 'A', 'S', 'T', 'E', 'R', '.', 'U', 'U', 'I', 'D'].map Char.toUInt8
  | .replid => ['R', 'E', 'P', 'L', 'I', 'D'].map Char.toUInt8
  | .reploff => ['R', 'E', 'P', 'L', 'O', 'F', 'F'].map Char.toUInt8

/-- The name as it is compared with. -/
def ReplyOption.name : ReplyOption → Bytes
  | .gtidSet => ['g', 't', 'i', 'd', '.', 's', 'e', 't'].map Char.toUInt8
  | .gtidLost => ['g', 't', 'i', 'd', '.', 'l', 'o', 's', 't'].map Char.toUInt8
  | .masterUuid => ['m', 'a', 's', 't', 'e', 'r', '.', 'u', 'u', 'i', 'd'].map Char.toUInt8
  | .replid => ['r', 'e', 'p', 'l', 'i', 'd'].map Char.toUInt8
  | .reploff => ['r', 'e', 'p', 'l', 'o', 'f', 'f'].map Char.toUInt8

/-- The names in the order in which a token is compared with them. -/
def xfullresyncOptions : List ReplyOption := [.gtidLost, .masterUuid, .replid, .reploff]
def xcontinueOptions : List ReplyOption := [.gtidSet, .gtidLost, .masterUuid, .replid, .reploff]

def tolower (c : UInt8) : UInt8 := if 'A'.toUInt8 ≤ c ∧ c ≤ 'Z'.toUInt8 then c + 32 else c

/-- `strncasecmp(a,b,n) == 0`, for two texts with a zero byte behind them. -/
def strncasecmp (a b : Bytes) : Nat → Bool
  | 0 => true
  | n + 1 =>
    decide (tolower (a.headD 0) = tolower (b.headD 0)) &&
      (decide (a.headD 0 = 0) || strncasecmp a.tail b.tail n)

/-- The option a token names: the number of bytes compared is the length of the token. -/
def replyOption (options : List ReplyOption) (token : Bytes) : Option ReplyOption :=
  options.find? (fun option => strncasecmp token option.name token.length)

/-! ## Parsing -/

/-- Why a reply is invalid; the format and the values of `errmsg`. -/
inductive ReplyError where
  /-- invalid gtid.set-cont(%s) -/
  | gtidCont (value : Bytes)
  /-- invalid gtid.set-lost(%s) -/
  | gtidLost (value : Bytes)
  /-- invalid replid(%s) -/
  | replid (value : Bytes)
  /-- invalid reploff(%s) -/
  | reploff (value : Bytes)
  /-- master.uuid unspecified -/
  | masterUuidUnspecified
  /-- gtid.set unspecified -/
  | gtidSetUnspecified
  /-- gtid.lost unspecified -/
  | gtidLostUnspecified
  /-- replid invalid or unspecified -/
  | replidUnspecified
  /-- reploff invalid or unspecified -/
  | reploffUnspecified
  /-- replid invalid(%s) -/
  | replidOf (reply : Bytes)
  /-- offset invalid(%s) -/
  | offsetOf (reply : Bytes)
  /-- reploff invalid(%s) -/
  | reploffOf (reply : Bytes)
  /-- invalid sync reply type -/
  | replyType

inductive ParsedSyncReply where
  /-- A bad length of the replid of CONTINUE has no message. -/
  | invalid (errmsg : Option ReplyError)
  | fullresync (replid : Bytes) (reploff : Int)
  | pcontinue (replid : Option Bytes) (reploffIsSet : Bool) (reploff : Int)
  | xfullresync (gtidLost : GtidSet) (masterUuid replid : Bytes) (reploff : Int)
  | xcontinue (gtidCont gtidLost : GtidSet) (masterUuid replid : Bytes) (reploff : Int)
  | transerr
  | transerr2

/-- `strchr(s,' ')+1` -/
def afterSpace (s : Bytes) : Option Bytes :=
  if space ∈ s then some (s.dropWhile (· ≠ space)).tail else none

/-- +FULLRESYNC <replid> <reploff> -/
def parseSyncReplyFullresync (reply : Bytes) : ParsedSyncReply :=
  let replid := afterSpace (cString reply)
  match replid, replid.bind afterSpace with
  | some replid, some offset =>
    let len := replid.length - offset.length - 1
    if len ≠ CONFIG_RUN_ID_SIZE then .invalid (some (.replidOf reply))
    else if strtoll offset < 0 then .invalid (some (.offsetOf reply))
    else .fullresync (replid.take len) (strtoll offset)
  | _, _ => .invalid (some (.replidOf reply))

def isBlank (c : UInt8) : Bool := decide (c = space ∨ c = tab)

/-- The end of a line. -/
def isLineEnd (c : UInt8) : Bool := decide (c ∈ crlf ∨ c = 0)

/-- Where the replid of a CONTINUE reply starts. -/
def continueStart (reply : Bytes) : Bytes := (reply.drop CONTINUE.length).dropWhile isBlank

def continueReplid (reply : Bytes) : Bytes :=
  (continueStart reply).takeWhile (fun c => !isBlank c && !isLineEnd c)

/-- Where its reploff starts. -/
def continueRest (reply : Bytes) : Bytes :=
  ((continueStart reply).drop (continueReplid reply).length).dropWhile isBlank

def continueReploff (reply : Bytes) : Bytes := (continueRest reply).takeWhile (fun c => !isLineEnd c)

/-- +CONTINUE [<replid>] [<reploff>].  `string2ll` is declared by `server.h` there; it is taken to be
that of `gtid_util.c`, which has the same name and arguments. -/
def parseSyncReplyContinue (reply : Bytes) : Option ParsedSyncReply :=
  let replid := continueReplid reply
  if replid = [] then some (.pcontinue none false 0)
  else if replid.length ≠ CONFIG_RUN_ID_SIZE then some (.invalid none)
  else if continueReploff reply = [] then some (.pcontinue (some replid) false 0)
  else do
    match ← string2ll (continueRest reply ++ [0]) 0 (continueReploff reply).length with
    | none => some (.invalid (some (.reploffOf reply)))
    | some reploff => some (.pcontinue (some replid) true reploff)

/-- What the options read so far have set. -/
structure ReplyFields where
  gtidCont : Option GtidSet
  gtidLost : Option GtidSet
  masterUuid : Option Bytes
  replid : Option Bytes
  reploff : Int

def noFields : ReplyFields := ⟨none, none, none, none, -1⟩

/-- Read the value of one option. -/
def setField (fields : ReplyFields) (option : ReplyOption) (value : Bytes) (rand : Rand) :
    Option (Except ReplyError ReplyFields) :=
  match option with
  | .gtidSet => do
    match ← gtidSetDecode (value ++ [0]) 0 value.length rand with
    | none => some (.error (.gtidCont value))
    | some gtidCont => some (.ok { fields with gtidCont := some gtidCont })
  | .gtidLost => do
    match ← gtidSetDecode (value ++ [0]) 0 value.length rand with
    | none => some (.error (.gtidLost value))
    | some gtidLost => some (.ok { fields with gtidLost := some gtidLost })
  | .masterUuid => some (.ok { fields with masterUuid := some value })
  | .replid =>
    if value.length ≠ CONFIG_RUN_ID_SIZE then some (.error (.replid value))
    else some (.ok { fields with replid := some value })
  | .reploff =>
    if strtoll value < 0 then some (.error (.reploff value))
    else some (.ok { fields with reploff := strtoll value })

/-- Read the pairs of a name and a value, up to the first error.  A token without a value at the end
is not looked at. -/
def parseFields (options : List ReplyOption) : List Bytes → ReplyFields → Rand →
    Option (Except ReplyError ReplyFields)
  | token :: value :: tokens, fields, rand =>
    match replyOption options token with
    -- Ignore unrecognized option
    | none => parseFields options tokens fields rand
    | some option => do
      match ← setField fields option value (rand.sub 0) with
      | .error errmsg => some (.error errmsg)
      | .ok fields => parseFields options tokens fields (rand.sub 1)
  | _, fields, _ => some (.ok fields)

/-- What has to be specified in a XFULLRESYNC reply. -/
def xfullresyncOf (fields : ReplyFields) : ParsedSyncReply :=
  match fields.masterUuid, fields.gtidLost, fields.replid with
  | none, _, _ => .invalid (some .masterUuidUnspecified)
  | some _, none, _ => .invalid (some .gtidLostUnspecified)
  | some _, some _, none => .invalid (some .replidUnspecified)
  | some masterUuid, some gtidLost, some replid =>
    if fields.reploff < 0 then .invalid (some .reploffUnspecified)
    else .xfullresync gtidLost masterUuid replid fields.reploff

/-- In a XCONTINUE reply, where the lost set is empty if it is not. -/
def xcontinueOf (fields : ReplyFields) : ParsedSyncReply :=
  match fields.masterUuid, fields.gtidCont, fields.replid with
  | none, _, _ => .invalid (some .masterUuidUnspecified)
  | some _, none, _ => .invalid (some .gtidSetUnspecified)
  | some _, some _, none => .invalid (some .replidUnspecified)
  | some masterUuid, some gtidCont, some replid =>
    if fields.reploff < 0 then .invalid (some .reploffUnspecified)
    else .xcontinue gtidCont (fields.gtidLost.getD gtidSetNew) masterUuid replid fields.reploff

/-- The tokens of a XFULLRESYNC reply; there are none if they cannot be split. -/
def xfullresyncTokens (sds : Sds) (reply : Bytes) : List Bytes :=
  (sds.sdssplitargs (cString ((reply.drop XFULLRESYNC.length).dropWhile isSpace))).getD []

def xcontinueTokens (sds : Sds) (reply : Bytes) : List Bytes :=
  sds.sdssplitlen ((reply.drop XCONTINUE.length).dropWhile isSpace)

def parseReplyOptions (options : List ReplyOption) (parsedOf : ReplyFields → ParsedSyncReply)
    (tokens : List Bytes) (rand : Rand) : Option ParsedSyncReply := do
  match ← parseFields options tokens noFields rand with
  | .error errmsg => some (.invalid (some errmsg))
  | .ok fields => some (parsedOf fields)

/-- +XFULLRESYNC GTID.LOST <gtid.lost> MASTER.UUID <master-uuid> REPLID <replid> REPLOFF <reploff> -/
def parseSyncReplyXfullresync (sds : Sds) (reply : Bytes) (rand : Rand) : Option ParsedSyncReply :=
  parseReplyOptions xfullresyncOptions xfullresyncOf (xfullresyncTokens sds reply) rand

/-- +XCONTINUE GTID.SET <gtid.set-continue> [GTID.LOST <gtid.set-lost>]
MASTER.UUID <master-uuid> REPLID <replid> REPLOFF <reploff> -/
def parseSyncReplyXcontinue (sds : Sds) (reply : Bytes) (rand : Rand) : Option ParsedSyncReply :=
  parseReplyOptions xcontinueOptions xcontinueOf (xcontinueTokens sds reply) rand

def parseSyncReply (sds : Sds) (reply : Bytes) (rand : Rand) : Option ParsedSyncReply :=
  if XFULLRESYNC <+: reply then parseSyncReplyXfullresync sds reply rand
  else if XCONTINUE <+: reply then parseSyncReplyXcontinue sds reply rand
  else if FULLRESYNC <+: reply then some (parseSyncReplyFullresync reply)
  else if CONTINUE <+: reply then parseSyncReplyContinue reply
  else if NOMASTERLINK <+: reply ∨ LOADING <+: reply then some .transerr
  else if READING_FROM_MASTER <+: reply then some .transerr2
  else some (.invalid (some .replyType))

/-! ## The lines a master writes -/

def gtidSetQuoteIfEmpty (gtidRepr : Bytes) : Bytes :=
  if gtidRepr.length = 0 then gtidRepr ++ [quote, quote] else gtidRepr

/-- ` NAME value` -/
def optionText (option : ReplyOption) (value : Bytes) : Bytes :=
  space :: option.written ++ space :: value

/-- The bytes that are sent of a line that `snprintf` has written to a buffer of `size` bytes. -/
def printed (size : Nat) (line : Bytes) : Option Bytes := do
  let (buf, buflen) ← snprintf (List.replicate size 0) 0 size line
  guard (0 ≤ buflen ∧ buflen ≤ size)
  some (buf.take buflen.toNat)

/-- The line of a reply, of `masterReplySyncRequest`.  A `buflen` that wraps around to a negative
number asks for more memory than there is. -/
def SyncReply.line : SyncReply → Option Bytes
  | .xcontinue gtidCont gtidLost masterUuid replid reploff => do
    let gtidContRepr := gtidSetQuoteIfEmpty (← gtidSetDump gtidCont)
    let gtidLostRepr := gtidSetQuoteIfEmpty (← gtidSetDump gtidLost)
    let buflen := intOfSize ((gtidContRepr.length + gtidLostRepr.length + 256 : Nat) : Int)
    guard (0 ≤ buflen)
    printed buflen.toNat (XCONTINUE ++ optionText .gtidSet (cString gtidContRepr) ++
      optionText .gtidLost (cString gtidLostRepr) ++ optionText .masterUuid (cString masterUuid) ++
      optionText .replid (cString replid) ++ optionText .reploff (longText reploff) ++ crlf)
  | .continue replid none => printed 128 (CONTINUE ++ space :: cString replid ++ crlf)
  | .continue replid (some reploff) =>
    printed 128 (CONTINUE ++ space :: cString replid ++ space :: longText reploff ++ crlf)
  | .byRedis => none

/-- The line of `replicationSetupSlaveForXFullResync`. -/
def xfullresyncLine (gtidLost : GtidSet) (masterUuid replid : Bytes) (reploff : Int) :
    Option Bytes := do
  let gtidLostRepr := gtidSetQuoteIfEmpty (← gtidSetDump gtidLost)
  some (XFULLRESYNC ++ optionText .gtidLost gtidLostRepr ++ optionText .masterUuid masterUuid ++
    optionText .replid (cString replid) ++ optionText .reploff (longText reploff) ++ crlf)

/-- The line sent to a replica. -/
def replicationSetupSlaveForXFullResync (server : Server) : Option Bytes := do
  xfullresyncLine server.gtidLost (getMasterUuid server) server.replid (← ctripGetMasterReploff server)

/-! ## What a replica does -/

inductive PsyncResult where
  | byRedis
  | «continue»
  | fullresync
  | tryLater
deriving DecidableEq, Repr

/-- The counters of replies. -/
inductive GtidSyncStat where
  | psyncFullresync
  | psyncContinue
  | psyncXfullresync
  | psyncXcontinue
  | xsyncFullresync
  | xsyncContinue
  | xsyncXfullresync
  | xsyncXcontinue
deriving DecidableEq, Repr

structure GtidInitialInfo where
  gtidLost : GtidSet
  masterUuid : Bytes
  replid : Bytes
  reploff : Int

structure ReadOutcome where
  server : Server
  result : PsyncResult
  /-- The counter that goes up. -/
  stat : Option GtidSyncStat
  /-- What `gtid_initial` is set up with. -/
  gtidInitial : Option GtidInitialInfo

def forceXsyncFullResync (server : Server) : Server :=
  { server with gtidUuidInterested := GTID_XSYNC_UUID_INTERESTED_FULLRESYNC }

variable [RedisReplication]

/-- On some edge cases, master might reply psync with unexpected reply, and replica can't
successfully sync with master. -/
def serverReplStreamMasterLinkBroken (server : Server) : Server :=
  if server.replMode.mode = .xsync then forceXsyncFullResync server
  else replicationDiscardCachedMaster server

/-- What is done about an invalid reply. -/
def fallbackToFullresync (server : Server) : ReadOutcome :=
  ⟨serverReplStreamMasterLinkBroken server, .tryLater, none, none⟩

/-- A valid reply outside of xsync mode. -/
def slavePsyncRead (server : Server) (parsed : ParsedSyncReply) (rand : Rand) :
    Option ReadOutcome :=
  match parsed with
  -- Repl mode will be reset on rdb loading
  | .xfullresync gtidLost masterUuid replid reploff =>
    some ⟨replicationDiscardCachedMaster server, .fullresync, some .psyncXfullresync,
      some ⟨gtidLost, masterUuid, replid, reploff⟩⟩
  | .xcontinue gtidCont gtidLost masterUuid replid reploff => do
    let server ← slavePsyncXcontinue server gtidCont gtidLost masterUuid replid reploff rand
    let server ← serverReplStreamResurrectCreate server (some replid) reploff
    some ⟨server, .continue, some .psyncXcontinue, none⟩
  | .fullresync .. => some ⟨server, .byRedis, some .psyncFullresync, none⟩
  | .pcontinue .. => some ⟨server, .byRedis, some .psyncContinue, none⟩
  | _ => some ⟨server, .byRedis, none, none⟩

/-- A valid reply in xsync mode. -/
def slaveXsyncRead (server : Server) (parsed : ParsedSyncReply) (rand : Rand) :
    Option ReadOutcome := do
  guard (¬ server.cachedMaster ∧ ¬ server.master)
  match parsed with
  | .fullresync .. => some ⟨server, .byRedis, some .xsyncFullresync, none⟩
  -- whether the reploff is set is not looked at
  | .pcontinue replid _ reploff => do
    let server ← serverReplStreamSwitch2Psync server replid reploff
    let server ← serverReplStreamResurrectCreate server replid reploff
    some ⟨server, .continue, some .xsyncContinue, none⟩
  | .xfullresync gtidLost masterUuid replid reploff =>
    some ⟨server, .fullresync, some .xsyncXfullresync, some ⟨gtidLost, masterUuid, replid, reploff⟩⟩
  | .xcontinue gtidCont _ masterUuid replid reploff => do
    let server ← slaveXsyncXcontinue server gtidCont masterUuid replid reploff rand
    let server ← serverReplStreamResurrectCreate server (some replid) reploff
    some ⟨server, .continue, some .xsyncXcontinue, none⟩
  | _ => some ⟨server, .byRedis, none, none⟩

def slaveTryPartialResynchronizationRead (sds : Sds) (server : Server) (reply : Bytes)
    (rand : Rand) : Option ReadOutcome := do
  match ← parseSyncReply sds reply (rand.sub 0) with
  | .transerr => some ⟨server, .byRedis, none, none⟩
  | .transerr2 => some ⟨server, .tryLater, none, none⟩
  | .invalid _ => some (fallbackToFullresync server)
  | parsed =>
    if server.replMode.mode ≠ .xsync then slavePsyncRead server parsed (rand.sub 1)
    else slaveXsyncRead server parsed (rand.sub 1)

end XredisGtid
