import XredisGtid.KeyCommand

/-!
# The append only file

`xredis_gtid_aof.c`: what a GTID command appends to the append only file, and what loading
it does to the keys.

A buffer is the list of the commands in it, each with its arguments.  The command inside of
a GTID command is one of `KeyCommand`, if it is not another one that the rewriting leaves
alone.
-/
namespace XredisGtid
open Buffer Decimal

namespace shared

def gtid : Bytes := ['G', 'T', 'I', 'D'].map Char.toUInt8
def select : Bytes := ['S', 'E', 'L', 'E', 'C', 'T'].map Char.toUInt8
def pexpireat : Bytes := ['P', 'E', 'X', 'P', 'I', 'R', 'E', 'A', 'T'].map Char.toUInt8
def pxat : Bytes := ['P', 'X', 'A', 'T'].map Char.toUInt8

end shared

abbrev AofBuffer := List (List Bytes)

structure AofServer where
  aofSelectedDb : Int
  /-- `server.aof_state == AOF_ON` -/
  aofOn : Bool
  /-- `server.child_type == CHILD_TYPE_AOF` -/
  childAof : Bool
  aofBuf : AofBuffer
  aofRewriteBuf : AofBuffer

def catAppendOnlyGtidExpireAtCommand (buf : AofBuffer) (gtid dbid : Bytes) (comment : Option Bytes)
    (cmd : KeyCommand) (key seconds : Bytes) (mstime : Int) : AofBuffer :=
  let when := strtoll seconds
  -- the argument in milliseconds for EXPIRE, SETEX, EXPIREAT
  let when := if cmd = .expireCommand ∨ cmd = .setexCommand ∨ cmd = .expireatCommand then
      llong (when * 1000)
    else when
  -- absolute time for EXPIRE, PEXPIRE, SETEX, PSETEX
  let when := if cmd = .expireCommand ∨ cmd = .pexpireCommand ∨ cmd = .setexCommand ∨
      cmd = .psetexCommand then llong (when + mstime)
    else when
  buf ++ [[shared.gtid, gtid, dbid] ++ comment.toList ++ [shared.pexpireat, key, longText when]]

/-- The GTID command behind `buf`. -/
def catAppendOnlyGtid (buf : AofBuffer) (mstime : Int) (argv : List Bytes) : Option AofBuffer := do
  let cmd := lookupKeyCommand (← argv[GTID_COMMAN_ARGC]?)
  match cmd with
  | some .expireCommand | some .pexpireCommand | some .expireatCommand =>
    some (catAppendOnlyGtidExpireAtCommand buf (← argv[1]?) (← argv[2]?) none (← cmd)
      (← argv[GTID_COMMAN_ARGC + 1]?) (← argv[GTID_COMMAN_ARGC + 2]?) mstime)
  | some .setCommand =>
    if argv.length > 3 + GTID_COMMAN_ARGC then
      if isOption (← argv[3 + GTID_COMMAN_ARGC]?) (['p', 'x'].map Char.toUInt8) then
        let millisecond ← argv[4 + GTID_COMMAN_ARGC]?
        let when := llong (strtoll millisecond + mstime)
        some (buf ++ [argv.take (3 + GTID_COMMAN_ARGC) ++ [shared.pxat, longText when]])
      else some (buf ++ [argv])
    else some (buf ++ [argv])
  | _ => some (buf ++ [argv])

/-- The end of `feedAppendOnlyFileGtid`. -/
def AofServer.feed (server : AofServer) (dictid : Int) (buf : AofBuffer) : AofServer :=
  { server with
    aofSelectedDb := dictid
    aofBuf := if server.aofOn then server.aofBuf ++ buf else server.aofBuf
    aofRewriteBuf := if server.childAof then server.aofRewriteBuf ++ buf else server.aofRewriteBuf }

/-- The SELECT in front of a command of another database than the last. -/
def AofServer.select (server : AofServer) (dictid : Int) : AofBuffer :=
  if dictid ≠ server.aofSelectedDb then [[shared.select, longText dictid]] else []

def feedAppendOnlyFileGtid (server : AofServer) (mstime : Int) (dictid : Int) (argv : List Bytes) :
    Option AofServer := do
  some (server.feed dictid (← catAppendOnlyGtid (server.select dictid) mstime argv))

/-! ## Loading -/

/-- The keys behind a GTID command whose gtid is not executed yet. -/
def callGtidCommand (redis : Redis) (now : RedisTime) (dbs : Int → RedisDb) :
    List Bytes → Option (Int → RedisDb)
  | name :: gtid :: id :: argv => do
    guard (equalsIgnoreCase name shared.gtid)
    match ← gtidArguments redis gtid id with
    | .error _ => none
    | .ok _ =>
      let db ← redis.getIntFromObject id
      some (Function.update dbs db (← callKeyCommand now (dbs db) argv))
  | _ => none

/-- The keys behind the GTID commands of a buffer.  A SELECT is for commands without a gtid. -/
def loadAppendOnlyFile (redis : Redis) (mstime : Int) (dbs : Int → RedisDb) (buf : AofBuffer) :
    Int → RedisDb :=
  buf.foldl (fun dbs argv => (callGtidCommand redis ⟨mstime, false⟩ dbs argv).getD dbs) dbs

/-! ## Commands that set a deadline -/

def IsExpire (cmd : KeyCommand) : Prop :=
  cmd = .expireCommand ∨ cmd = .pexpireCommand ∨ cmd = .expireatCommand

/-- EXPIRE, PEXPIRE, EXPIREAT, SETEX, PSETEX, and SET with EX or PX among its options. -/
inductive SetsDeadline : List Bytes → Prop
  | expire {name : Bytes} {argv : List Bytes} {cmd : KeyCommand}
      (hname : lookupKeyCommand name = some cmd) (hcmd : IsExpire cmd) : SetsDeadline (name :: argv)
  | setex {name : Bytes} {argv : List Bytes} (hname : lookupKeyCommand name = some .setexCommand) :
      SetsDeadline (name :: argv)
  | psetex {name : Bytes} {argv : List Bytes} (hname : lookupKeyCommand name = some .psetexCommand) :
      SetsDeadline (name :: argv)
  | set {name key val text : Bytes} {options : List Bytes} {args : SetArguments}
      {option : ExpireOption} (hname : lookupKeyCommand name = some .setCommand)
      (hoptions : parseExtendedStringArguments SetArguments.none options = some args)
      (hexpire : args.expire = some (option, text)) (hrelative : option = .ex ∨ option = .px) :
      SetsDeadline (name :: key :: val :: options)

/-- The commands whose record has their deadline: EXPIRE, PEXPIRE, EXPIREAT, and SET with PX as
its first option, and no PX with another number as its last. -/
inductive DeadlineRecorded : List Bytes → Prop
  | expire {name : Bytes} {argv : List Bytes} {cmd : KeyCommand}
      (hname : lookupKeyCommand name = some cmd) (hcmd : IsExpire cmd) :
      DeadlineRecorded (name :: argv)
  | px {name key val px first last : Bytes} {options : List Bytes} {args : SetArguments}
      {option : ExpireOption} (hname : lookupKeyCommand name = some .setCommand)
      (hpx : isOption px (['p', 'x'].map Char.toUInt8) = true)
      (hoptions : parseExtendedStringArguments SetArguments.none (px :: first :: options) = some args)
      (hexpire : args.expire = some (option, last)) (heq : strtoll first = strtoll last) :
      DeadlineRecorded (name :: key :: val :: px :: first :: options)

/-- **Whenever it is loaded, what a GTID command appends at a time leaves every key with the value
and the expiry instant that the command left it with at that time.** -/
def KeepsDeadline (redis : Redis) (t : Int) (argv : List Bytes) : Prop :=
  ∀ server dictid expires dbs dbs', server.aofOn = true →
    callGtidCommand redis ⟨t, expires⟩ dbs argv = some dbs' →
    ∃ buf, feedAppendOnlyFileGtid server t dictid argv = some (server.feed dictid buf) ∧
      ∀ t' later, t < t' → t' ≤ later → ∀ db key,
        (loadAppendOnlyFile redis t' dbs buf db).read later key = (dbs' db).read later key

section
variable {redis : Redis} {t : Int} {name gtid id key val param text : Bytes} {now : RedisTime}
variable {argv argv' : List Bytes} {cmd : KeyCommand} {args : SetArguments} {option : ExpireOption}
variable {db db' : RedisDb} {dbs dbs' : Int → RedisDb} {buf : AofBuffer}

theorem callKeyCommand_cons (hname : lookupKeyCommand name = some cmd) (now : RedisTime) (db : RedisDb)
    (argv : List Bytes) : callKeyCommand now db (name :: argv) = cmd.call now db (name :: argv) := by
  rw [callKeyCommand, List.head?_cons, Option.bind_eq_bind, Option.bind_some, hname,
    Option.bind_eq_bind, Option.bind_some]

/-- EXPIRE and its like have a key and one number. -/
theorem callKeyCommand_expire (hname : lookupKeyCommand name = some cmd) (hcmd : IsExpire cmd)
    (h : callKeyCommand now db (name :: argv) = some db') :
    ∃ key param, argv = [key, param] ∧
      expireGenericCommand now (if cmd = .expireatCommand then 0 else now.mstime)
        (decide (cmd ≠ .pexpireCommand)) db key param = some db' := by
  rw [callKeyCommand_cons hname] at h
  have hshape : ∃ key param, argv = [key, param] := by
    rcases argv with _ | ⟨key, _ | ⟨param, _ | ⟨extra, argv⟩⟩⟩
    case cons.cons.nil => exact ⟨key, param, rfl⟩
    all_goals rcases hcmd with rfl | rfl | rfl <;> cases h
  obtain ⟨key, param, rfl⟩ := hshape
  refine ⟨key, param, rfl, ?_⟩
  rcases hcmd with rfl | rfl | rfl <;> exact h

/-! ## Records -/

theorem catAppendOnlyGtid_expireAt {n : Bytes} (hname : lookupKeyCommand n = some cmd)
    (hcmd : IsExpire cmd) :
    catAppendOnlyGtid buf t [name, gtid, id, n, key, param] =
      some (catAppendOnlyGtidExpireAtCommand buf gtid id none cmd key param t) := by
  simp only [catAppendOnlyGtid, GTID_COMMAN_ARGC, List.getElem?_cons_succ, List.getElem?_cons_zero,
    Option.bind_eq_bind, Option.bind_some, hname]
  rcases hcmd with rfl | rfl | rfl <;> rfl

/-- **The record of EXPIRE and its like** is PEXPIREAT with the instant of the command. -/
theorem catAppendOnlyGtid_expire {n : Bytes} {when : Int} (hname : lookupKeyCommand n = some cmd)
    (hcmd : IsExpire cmd)
    (hwhen : expireWhen (if cmd = .expireatCommand then 0 else t) (decide (cmd ≠ .pexpireCommand)) param =
      some when) :
    catAppendOnlyGtid buf t [name, gtid, id, n, key, param] =
      some (buf ++ [[shared.gtid, gtid, id, shared.pexpireat, key, longText when]]) := by
  obtain ⟨hw, hlow, hhigh⟩ := expireWhen_eq_some hwhen
  have hself := llong_of_mem hlow hhigh
  rw [catAppendOnlyGtid_expireAt hname hcmd]
  rcases hcmd with rfl | rfl | rfl
  · change when = strtoll param * 1000 + t at hw
    change some (buf ++ [[_, _, _, _, _, longText (llong (llong (strtoll param * 1000) + t))]]) = _
    rw [llong_add_llong, ← hw, hself]
  · change when = strtoll param + t at hw
    change some (buf ++ [[_, _, _, _, _, longText (llong (strtoll param + t))]]) = _
    rw [← hw, hself]
  · change when = strtoll param * 1000 + 0 at hw
    change some (buf ++ [[_, _, _, _, _, longText (llong (strtoll param * 1000))]]) = _
    rw [← Int.add_zero (strtoll param * 1000), ← hw, hself]

/-- **The record of SET with PX in front** has the first PX only, as PXAT. -/
theorem catAppendOnlyGtid_px {n px first : Bytes} {options : List Bytes}
    (hname : lookupKeyCommand n = some .setCommand)
    (hpx : isOption px (['p', 'x'].map Char.toUInt8) = true) :
    catAppendOnlyGtid buf t (name :: gtid :: id :: n :: key :: param :: px :: first :: options) =
      some (buf ++ [[name, gtid, id, n, key, param, shared.pxat,
        longText (llong (strtoll first + t))]]) := by
  simp only [catAppendOnlyGtid, GTID_COMMAN_ARGC, List.getElem?_cons_succ, List.getElem?_cons_zero,
    Option.bind_eq_bind, Option.bind_some, hname, hpx, if_true]
  have hlen : (name :: gtid :: id :: n :: key :: param :: px :: first :: options).length > 3 + 3 := by
    simp only [List.length_cons]
    omega
  exact if_pos hlen

/-- **Any other SET is its own record.** -/
theorem catAppendOnlyGtid_set {n : Bytes} {options : List Bytes}
    (hname : lookupKeyCommand n = some .setCommand)
    (hpx : ∀ px, options.head? = some px → ¬ isOption px (['p', 'x'].map Char.toUInt8) = true) :
    catAppendOnlyGtid buf t (name :: gtid :: id :: n :: key :: param :: options) =
      some (buf ++ [name :: gtid :: id :: n :: key :: param :: options]) := by
  simp only [catAppendOnlyGtid, GTID_COMMAN_ARGC, List.getElem?_cons_succ, List.getElem?_cons_zero,
    Option.bind_eq_bind, Option.bind_some, hname]
  cases options with
  | nil => rfl
  | cons px options =>
    have hlen : (name :: gtid :: id :: n :: key :: param :: px :: options).length > 3 + 3 := by
      simp only [List.length_cons]
      omega
    apply (if_pos hlen).trans
    simp only [List.getElem?_cons_zero, Option.bind_some, if_neg (hpx px rfl)]

/-- **SETEX and PSETEX are their own records.** -/
theorem catAppendOnlyGtid_setex {n : Bytes} (hname : lookupKeyCommand n = some cmd)
    (hcmd : cmd = .setexCommand ∨ cmd = .psetexCommand) :
    catAppendOnlyGtid buf t (name :: gtid :: id :: n :: argv) =
      some (buf ++ [name :: gtid :: id :: n :: argv]) := by
  simp only [catAppendOnlyGtid, GTID_COMMAN_ARGC, List.getElem?_cons_succ, List.getElem?_cons_zero,
    Option.bind_eq_bind, Option.bind_some, hname]
  rcases hcmd with rfl | rfl <;> rfl

/-! ## Loading a record -/

theorem callGtidCommand_eq_some :
    callGtidCommand redis now dbs (name :: gtid :: id :: argv) = some dbs' ↔
      equalsIgnoreCase name shared.gtid = true ∧ ∃ k n, gtidArguments redis gtid id = some (.ok k) ∧
        redis.getIntFromObject id = some n ∧ ∃ keys, callKeyCommand now (dbs n) argv = some keys ∧
          dbs' = Function.update dbs n keys := by
  rw [callGtidCommand]
  constructor
  · intro h
    obtain ⟨_, hguard, h⟩ := Option.bind_eq_some_iff.mp h
    obtain ⟨r, hr, h⟩ := Option.bind_eq_some_iff.mp h
    cases r with
    | error reply => cases h
    | ok k =>
      obtain ⟨n, hn, h⟩ := Option.bind_eq_some_iff.mp h
      obtain ⟨keys, hkeys, h⟩ := Option.bind_eq_some_iff.mp h
      exact ⟨of_guard hguard, k, n, hr, hn, keys, hkeys, (Option.some.inj h).symm⟩
  · rintro ⟨hname, k, n, hk, hn, keys, hkeys, rfl⟩
    simp only [hname, hk, hn, hkeys, guard_true, Option.pure_def, Option.bind_eq_bind,
      Option.bind_some]

/-- Loading leaves alone what the SELECT in front of a record is about. -/
theorem loadAppendOnlyFile_select (server : AofServer) (dictid t' : Int) (dbs : Int → RedisDb)
    (argv : List Bytes) :
    loadAppendOnlyFile redis t' dbs (server.select dictid ++ [argv]) =
      (callGtidCommand redis ⟨t', false⟩ dbs argv).getD dbs := by
  rw [AofServer.select]
  split <;> rfl

/-- What a command inside of a GTID command, and the one of its record, do to the keys. -/
def KeepsKeys (t : Int) (argv argv' : List Bytes) : Prop :=
  ∀ expires db db', callKeyCommand ⟨t, expires⟩ db argv = some db' →
    ∀ t' later, t < t' → t' ≤ later → ∀ key,
      ((callKeyCommand ⟨t', false⟩ db argv').getD db).read later key = db'.read later key

/-- A GTID command with a gtid and a database. -/
def GtidRuns (redis : Redis) (name gtid id : Bytes) : Prop :=
  equalsIgnoreCase name shared.gtid = true ∧
    ∃ k n, gtidArguments redis gtid id = some (.ok k) ∧ redis.getIntFromObject id = some n

theorem callGtidCommand_getD {name' : Bytes} {n : Int} {k : Uuid × Int}
    (hname : equalsIgnoreCase name' shared.gtid = true) (hk : gtidArguments redis gtid id = some (.ok k))
    (hn : redis.getIntFromObject id = some n) (now : RedisTime) (dbs : Int → RedisDb) :
    (callGtidCommand redis now dbs (name' :: gtid :: id :: argv')).getD dbs =
      Function.update dbs n ((callKeyCommand now (dbs n) argv').getD (dbs n)) := by
  cases hkeys : callKeyCommand now (dbs n) argv' with
  | none =>
    have hnone : callGtidCommand redis now dbs (name' :: gtid :: id :: argv') = none := by
      simp only [callGtidCommand, hname, hk, hn, hkeys, guard_true, Option.pure_def,
        Option.bind_eq_bind, Option.bind_some, Option.bind_none]
    rw [hnone, Option.getD_none, Option.getD_none, Function.update_eq_self]
  | some keys =>
    rw [callGtidCommand_eq_some.mpr ⟨hname, k, n, hk, hn, keys, hkeys, rfl⟩, Option.getD_some,
      Option.getD_some]

variable {name' : Bytes} (hname' : name' = name ∨ name' = shared.gtid)
variable (hrecord : ∀ buf, catAppendOnlyGtid buf t (name :: gtid :: id :: argv) =
  some (buf ++ [name' :: gtid :: id :: argv']))

include hname' hrecord in
/-- **The feed is about the command inside.** -/
theorem keepsDeadline_of_keys (h : KeepsKeys t argv argv') :
    KeepsDeadline redis t (name :: gtid :: id :: argv) := by
  intro server dictid expires dbs dbs' _ hcall
  obtain ⟨hname, k, n, hk, hn, keys, hkeys, rfl⟩ := callGtidCommand_eq_some.mp hcall
  have hname₁ : equalsIgnoreCase name' shared.gtid = true := by
    rcases hname' with rfl | rfl
    · exact hname
    · rfl
  refine ⟨server.select dictid ++ [name' :: gtid :: id :: argv'], ?_, ?_⟩
  · rw [feedAppendOnlyFileGtid, hrecord, Option.bind_eq_bind, Option.bind_some]
  · intro t' later ht' hlater db key
    rw [loadAppendOnlyFile_select, callGtidCommand_getD hname₁ hk hn]
    by_cases hdb : db = n
    · subst hdb
      rw [Function.update_self, Function.update_self]
      exact h expires _ _ hkeys t' later ht' hlater key
    · rw [Function.update_of_ne hdb, Function.update_of_ne hdb]

include hname' hrecord in
theorem keys_of_keepsDeadline (hruns : GtidRuns redis name gtid id)
    (h : KeepsDeadline redis t (name :: gtid :: id :: argv)) : KeepsKeys t argv argv' := by
  intro expires db db' hkeys t' later ht' hlater key
  obtain ⟨hname, k, n, hk, hn⟩ := hruns
  have hname₁ : equalsIgnoreCase name' shared.gtid = true := by
    rcases hname' with rfl | rfl
    · exact hname
    · rfl
  have hcall := callGtidCommand_eq_some.mpr
    ⟨hname, k, n, hk, hn, db', hkeys, (rfl : _ = Function.update (fun _ => db) n db')⟩
  obtain ⟨buf, hfeed, hload⟩ := h ⟨0, true, false, [], []⟩ 0 expires _ _ rfl hcall
  rw [feedAppendOnlyFileGtid, hrecord, Option.bind_eq_bind, Option.bind_some, Option.some.injEq] at hfeed
  have hbuf : _ = buf := congrArg AofServer.aofBuf hfeed
  subst hbuf
  have hread := hload t' later ht' hlater n key
  rw [Function.update_self] at hread
  rw [← hread]
  change _ = (loadAppendOnlyFile redis t' _ (AofServer.select _ 0 ++ [_]) n).read later key
  rw [loadAppendOnlyFile_select, callGtidCommand_getD hname₁ hk hn, Function.update_self]

/-! ## The commands -/

theorem lookupKeyCommand_pexpireat : lookupKeyCommand shared.pexpireat = some .pexpireatCommand := by
  decide

theorem keepsKeys_expire {n : Bytes} (hname : lookupKeyCommand n = some cmd) (hcmd : IsExpire cmd)
    {when : Int}
    (hwhen : expireWhen (if cmd = .expireatCommand then 0 else t) (decide (cmd ≠ .pexpireCommand)) param =
      some when) :
    KeepsKeys t [n, key, param] [shared.pexpireat, key, longText when] := by
  intro expires db db' h t' later ht' hlater key'
  obtain ⟨key₁, param₁, hargv, hrun⟩ := callKeyCommand_expire hname hcmd h
  cases hargv
  obtain ⟨when', hwhen', hload⟩ := expireGenericCommand_later hrun
  obtain rfl := Option.some.inj (hwhen.symm.trans hwhen')
  obtain ⟨db'', hdb'', hread⟩ := hload t'
  have hcall : callKeyCommand ⟨t', false⟩ db [shared.pexpireat, key, longText when] = some db'' := by
    rw [callKeyCommand_cons lookupKeyCommand_pexpireat]
    exact hdb''
  rw [hcall, Option.getD_some]
  exact hread later (by dsimp only; omega) key'

/-- A SET with a relative deadline: SETEX, PSETEX, or SET with EX or PX. -/
structure IsSet (argv : List Bytes) (args : SetArguments) (option : ExpireOption)
    (text key val : Bytes) : Prop where
  expire : args.expire = some (option, text)
  relative : option = .ex ∨ option = .px
  call : ∀ now db, callKeyCommand now db argv = setGenericCommand now args db key val

variable {val : Bytes}

/-- **A record with another instant**, or none, is not what the command did. -/
theorem IsSet.not_keepsKeys (hset : IsSet argv args option text key val)
    (h : callKeyCommand now db argv = some db')
    (hother : ∀ db₀ db'' w, option.when now.mstime text = some w →
      callKeyCommand ⟨now.mstime + 1, false⟩ db₀ argv' = some db'' →
        ∃ w', db'' key = some ⟨.string val, some w'⟩ ∧ w' ≠ w) :
    ¬ KeepsKeys now.mstime argv argv' := by
  intro hkeeps
  rw [hset.call] at h
  obtain ⟨w, hw, -⟩ := (setGenericCommand_eq_some hset.expire).mp h
  -- keys that do not expire are found alike at the two times
  have hrun := setGenericCommand_persist hset.expire h hw
  rw [← hset.call] at hrun
  refine RedisDb.read_ne (Function.update_self _ _ _) rfl (ExpireOption.lt_when hset.relative hw) ?_
    (hkeeps now.expires _ _ hrun _ _ (Int.lt_succ now.mstime) (Int.le_refl _) key)
  intro entry hentry
  cases hload : callKeyCommand ⟨now.mstime + 1, false⟩ (db.persist now) argv' with
  | none =>
    rw [hload, Option.getD_none] at hentry
    rw [RedisDb.persist_expire hentry]
    exact fun hno => Option.some_ne_none _ hno.symm
  | some db'' =>
    rw [hload, Option.getD_some] at hentry
    obtain ⟨w', hw', hne⟩ := hother _ _ w hw hload
    rw [hw'] at hentry
    cases hentry
    exact fun heq => hne (Option.some.inj heq)

/-- **A relative deadline that is loaded later is another deadline.** -/
theorem IsSet.not_keepsKeys_self (hset : IsSet argv args option text key val)
    (h : callKeyCommand now db argv = some db') : ¬ KeepsKeys now.mstime argv argv := by
  apply hset.not_keepsKeys h
  intro db₀ db'' w hw hload
  rw [hset.call] at hload
  obtain ⟨w', hw', -, rfl⟩ := (setGenericCommand_eq_some hset.expire).mp hload
  have hmoved := ExpireOption.when_later hset.relative hw hw'
  dsimp only at hmoved
  exact ⟨w', Function.update_self _ _ _, by omega⟩

/-- What loading does with the record of a SET with PX in front. -/
theorem callKeyCommand_pxat {n : Bytes} (hname : lookupKeyCommand n = some .setCommand) (now : RedisTime)
    (db : RedisDb) (key val text : Bytes) :
    callKeyCommand now db [n, key, val, shared.pxat, text] =
      setGenericCommand now { SetArguments.none with expire := some (.pxat, text) } db key val := by
  rw [callKeyCommand_cons hname]
  rfl

/-- PX in front makes PX the option of the deadline. -/
theorem parseExtendedStringArguments_px {px first : Bytes} {options : List Bytes}
    (hpx : isOption px (['p', 'x'].map Char.toUInt8) = true)
    (h : parseExtendedStringArguments SetArguments.none (px :: first :: options) = some args)
    (hexpire : args.expire = some (option, text)) : option = .px := by
  unfold parseExtendedStringArguments at h
  simp only [flag_px hpx] at h
  obtain ⟨args₁, hdeadline, h⟩ := Option.bind_eq_some_iff.mp h
  obtain ⟨option', hfind, hdeadline⟩ := Option.bind_eq_some_iff.mp hdeadline
  obtain ⟨_, -, hdeadline⟩ := Option.bind_eq_some_iff.mp hdeadline
  rw [find_px hpx] at hfind
  cases hfind
  have hfirst : args₁.expire = some (.px, first) := by rw [← Option.some.inj hdeadline]
  obtain ⟨text', htext'⟩ := parseExtendedStringArguments_kind h hfirst
  rw [hexpire] at htext'
  cases htext'
  rfl

/-- The record has the instant of the command if the first PX has the number of the last. -/
theorem keepsKeys_px {n first last : Bytes} (hname : lookupKeyCommand n = some .setCommand)
    (hset : IsSet argv args .px last key val) (heq : strtoll first = strtoll last) :
    KeepsKeys t argv [n, key, val, shared.pxat, longText (llong (strtoll first + t))] := by
  intro expires db db' h t' later ht' hlater key'
  rw [hset.call] at h
  obtain ⟨w, hw, hallow, rfl⟩ := (setGenericCommand_eq_some hset.expire).mp h
  obtain ⟨-, hpos, hhigh, hsum⟩ := ExpireOption.when_eq_some hw
  rw [if_neg (by decide), if_pos (Or.inr rfl), ← heq] at hsum
  dsimp only at hsum
  have hlow : LLONG_MIN ≤ w := by unfold LLONG_MIN; omega
  rw [← hsum, llong_of_mem hlow hhigh, callKeyCommand_pxat hname]
  have hwhen : ExpireOption.when .pxat t' (longText w) = some w := by
    rw [ExpireOption.when_pxat hlow hhigh, if_pos hpos]
  rw [(setGenericCommand_eq_some rfl).mpr ⟨w, hwhen, rfl, rfl⟩, Option.getD_some]

theorem not_keepsKeys_px {n first last : Bytes} (hname : lookupKeyCommand n = some .setCommand)
    (hset : IsSet argv args .px last key val) (h : callKeyCommand now db argv = some db')
    (hne : strtoll first ≠ strtoll last) :
    ¬ KeepsKeys now.mstime argv
      [n, key, val, shared.pxat, longText (llong (strtoll first + now.mstime))] := by
  apply hset.not_keepsKeys h
  intro db₀ db'' w hw hload
  rw [callKeyCommand_pxat hname] at hload
  obtain ⟨w', hw', -, rfl⟩ := (setGenericCommand_eq_some rfl).mp hload
  refine ⟨w', Function.update_self _ _ _, ?_⟩
  obtain ⟨-, hpos, hhigh, hsum⟩ := ExpireOption.when_eq_some hw
  rw [if_neg (by decide), if_pos (Or.inr rfl)] at hsum
  obtain ⟨hmin, hmax⟩ := llong_range (strtoll first + now.mstime)
  rw [ExpireOption.when_pxat hmin hmax] at hw'
  split at hw'
  · cases hw'
    intro hwrap
    -- two numbers of a `long long` that agree modulo 2^64
    obtain ⟨h₁, h₂⟩ := strtoll_range first
    obtain ⟨h₃, h₄⟩ := strtoll_range last
    unfold llong LLONG_MIN LLONG_MAX at *
    omega
  · cases hw'

theorem isSet_setex {n : Bytes} (hname : lookupKeyCommand n = some .setexCommand)
    (h : callKeyCommand now db (n :: argv) = some db') :
    ∃ key param val, IsSet (n :: argv) { SetArguments.none with expire := some (.ex, param) } .ex param
      key val := by
  rw [callKeyCommand_cons hname] at h
  rcases argv with _ | ⟨key, _ | ⟨param, _ | ⟨val, _ | ⟨extra, argv⟩⟩⟩⟩
  case cons.cons.cons.nil =>
    refine ⟨key, param, val, rfl, Or.inl rfl, fun now db => ?_⟩
    rw [callKeyCommand_cons hname]
    rfl
  all_goals cases h

theorem isSet_psetex {n : Bytes} (hname : lookupKeyCommand n = some .psetexCommand)
    (h : callKeyCommand now db (n :: argv) = some db') :
    ∃ key param val, IsSet (n :: argv) { SetArguments.none with expire := some (.px, param) } .px param
      key val := by
  rw [callKeyCommand_cons hname] at h
  rcases argv with _ | ⟨key, _ | ⟨param, _ | ⟨val, _ | ⟨extra, argv⟩⟩⟩⟩
  case cons.cons.cons.nil =>
    refine ⟨key, param, val, rfl, Or.inr rfl, fun now db => ?_⟩
    rw [callKeyCommand_cons hname]
    rfl
  all_goals cases h

theorem isSet_set {n : Bytes} {options : List Bytes} (hname : lookupKeyCommand n = some .setCommand)
    (hoptions : parseExtendedStringArguments SetArguments.none options = some args)
    (hexpire : args.expire = some (option, text)) (hrelative : option = .ex ∨ option = .px) :
    IsSet (n :: key :: val :: options) args option text key val := by
  refine ⟨hexpire, hrelative, fun now db => ?_⟩
  rw [callKeyCommand_cons hname]
  simp only [KeyCommand.call, hoptions, Option.bind_eq_bind, Option.bind_some]

/-- A command whose record is itself does not keep its deadline. -/
theorem IsSet.not_keepsDeadline (hset : IsSet argv args option text key val)
    (hrecord : ∀ buf, catAppendOnlyGtid buf t (name :: gtid :: id :: argv) =
      some (buf ++ [name :: gtid :: id :: argv]))
    (hruns : GtidRuns redis name gtid id) {expires : Bool}
    (h : callKeyCommand ⟨t, expires⟩ db argv = some db') :
    ¬ KeepsDeadline redis t (name :: gtid :: id :: argv) := by
  intro hkeeps
  have hkeys := keys_of_keepsDeadline (Or.inl rfl) hrecord hruns hkeeps
  exact hset.not_keepsKeys_self h hkeys

theorem DeadlineRecorded.keepsDeadline (h : DeadlineRecorded argv) :
    KeepsDeadline redis t (name :: gtid :: id :: argv) := by
  cases h with
  | @expire n argv cmd hname hcmd =>
    intro server dictid expires dbs dbs' hon hcall
    obtain ⟨-, k, db, -, -, keys, hkeys, -⟩ := callGtidCommand_eq_some.mp hcall
    obtain ⟨key, param, rfl, hrun⟩ := callKeyCommand_expire hname hcmd hkeys
    obtain ⟨when, hwhen, -⟩ := expireGenericCommand_later hrun
    have hkeeps : KeepsDeadline redis t (name :: gtid :: id :: [n, key, param]) :=
      keepsDeadline_of_keys (Or.inr rfl) (fun _ => catAppendOnlyGtid_expire hname hcmd hwhen)
        (keepsKeys_expire hname hcmd hwhen)
    exact hkeeps server dictid expires dbs dbs' hon hcall
  | @px n key val px first last options args option hname hpx hoptions hexpire heq =>
    obtain rfl := parseExtendedStringArguments_px hpx hoptions hexpire
    have hset : IsSet (n :: key :: val :: px :: first :: options) args .px last key val :=
      isSet_set hname hoptions hexpire (Or.inr rfl)
    exact keepsDeadline_of_keys (Or.inl rfl) (fun _ => catAppendOnlyGtid_px hname hpx)
      (keepsKeys_px hname hset heq)

theorem SetsDeadline.recorded (hdeadline : SetsDeadline argv) (hruns : GtidRuns redis name gtid id)
    {expires : Bool} (hcall : callKeyCommand ⟨t, expires⟩ db argv = some db')
    (h : KeepsDeadline redis t (name :: gtid :: id :: argv)) : DeadlineRecorded argv := by
  cases hdeadline with
  | expire hname hcmd => exact .expire hname hcmd
  | setex hname =>
    obtain ⟨key, param, val, hset⟩ := isSet_setex hname hcall
    exact absurd h (hset.not_keepsDeadline (fun _ => catAppendOnlyGtid_setex hname (Or.inl rfl))
      hruns hcall)
  | psetex hname =>
    obtain ⟨key, param, val, hset⟩ := isSet_psetex hname hcall
    exact absurd h (hset.not_keepsDeadline (fun _ => catAppendOnlyGtid_setex hname (Or.inr rfl))
      hruns hcall)
  | @set n key val text options args option hname hoptions hexpire hrelative =>
    have hset : IsSet (n :: key :: val :: options) args option text key val :=
      isSet_set hname hoptions hexpire hrelative
    by_cases hpx : ∃ px, options.head? = some px ∧ isOption px (['p', 'x'].map Char.toUInt8) = true
    · obtain ⟨px, hhead, hpx⟩ := hpx
      obtain ⟨rest, rfl⟩ := List.head?_eq_some_iff.mp hhead
      cases rest with
      | nil =>
        unfold parseExtendedStringArguments at hoptions
        simp only [flag_px hpx] at hoptions
        cases hoptions
      | cons first rest =>
        obtain rfl := parseExtendedStringArguments_px hpx hoptions hexpire
        have hkeys := keys_of_keepsDeadline (Or.inl rfl)
          (fun _ => catAppendOnlyGtid_px hname hpx) hruns h
        by_cases heq : strtoll first = strtoll text
        · exact .px hname hpx hoptions hexpire heq
        · have hno := not_keepsKeys_px hname hset hcall heq
          exact absurd hkeys hno
    · have hnot : ∀ px, options.head? = some px →
          ¬ isOption px (['p', 'x'].map Char.toUInt8) = true := fun px hhead ho => hpx ⟨px, hhead, ho⟩
      exact absurd h (hset.not_keepsDeadline (fun _ => catAppendOnlyGtid_set hname hnot) hruns hcall)

end

/-- **The append only file keeps the deadline of a GTID command** if the command is EXPIRE, PEXPIRE,
EXPIREAT, or SET with PX in front and the number of its last PX there, and of no other SET and no
SETEX or PSETEX that does something. -/
theorem feedAppendOnlyFileGtid_keeps_iff (redis : Redis) (t : Int) (name gtid id : Bytes)
    (argv : List Bytes) (hdeadline : SetsDeadline argv) :
    KeepsDeadline redis t (name :: gtid :: id :: argv) ↔
      DeadlineRecorded argv ∨
        ∀ expires dbs, callGtidCommand redis ⟨t, expires⟩ dbs (name :: gtid :: id :: argv) = none := by
  constructor
  · intro h
    by_cases hruns : ∃ expires dbs dbs',
        callGtidCommand redis ⟨t, expires⟩ dbs (name :: gtid :: id :: argv) = some dbs'
    · left
      obtain ⟨expires, dbs, dbs', hcall⟩ := hruns
      obtain ⟨hname, k, db, hk, hn, keys, hkeys, -⟩ := callGtidCommand_eq_some.mp hcall
      exact hdeadline.recorded ⟨hname, k, db, hk, hn⟩ hkeys h
    · right
      intro expires dbs
      apply Option.eq_none_iff_forall_ne_some.mpr
      exact fun dbs' hcall => hruns ⟨expires, dbs, dbs', hcall⟩
  · rintro (h | h)
    · exact h.keepsDeadline
    · intro server dictid expires dbs dbs' _ hcall
      rw [h expires dbs] at hcall
      cases hcall

/-- A Redis with one database and no commands but these. -/
def redisWithKeys : Redis := ⟨fun _ => none, fun _ => some 0, fun _ => none, 1, execNothing⟩

/-- EXPIRE k 10 inside of a GTID command, at a time. -/
theorem feedAppendOnlyFileGtid_keeps_expire :
    KeepsDeadline redisWithKeys 1000 [shared.gtid, ['A', ':', '1'].map Char.toUInt8,
      ['0'].map Char.toUInt8, KeyCommand.name .expireCommand, ['k'].map Char.toUInt8,
      ['1', '0'].map Char.toUInt8] := by
  have hname : lookupKeyCommand (KeyCommand.name .expireCommand) = some .expireCommand := by decide
  apply (feedAppendOnlyFileGtid_keeps_iff _ _ _ _ _ _ (.expire hname (Or.inl rfl))).mpr
  exact Or.inl (.expire hname (Or.inl rfl))

/-- **SETEX k 10 v inside of a GTID command** does not keep its deadline. -/
theorem feedAppendOnlyFileGtid_loses_setex :
    SetsDeadline [KeyCommand.name .setexCommand, ['k'].map Char.toUInt8, ['1', '0'].map Char.toUInt8,
      ['v'].map Char.toUInt8] ∧
    ¬ KeepsDeadline redisWithKeys 1000 [shared.gtid, ['A', ':', '1'].map Char.toUInt8,
      ['0'].map Char.toUInt8, KeyCommand.name .setexCommand, ['k'].map Char.toUInt8,
      ['1', '0'].map Char.toUInt8, ['v'].map Char.toUInt8] := by
  have hname : lookupKeyCommand (KeyCommand.name .setexCommand) = some .setexCommand := by decide
  have hruns : GtidRuns redisWithKeys shared.gtid (['A', ':', '1'].map Char.toUInt8)
      (['0'].map Char.toUInt8) := by
    have hargs : gtidArguments redisWithKeys (['A', ':', '1'].map Char.toUInt8)
        (['0'].map Char.toUInt8) = some (.ok (['A'].map Char.toUInt8, 1)) := by rfl
    exact ⟨rfl, _, 0, hargs, rfl⟩
  have hsome : (callKeyCommand ⟨1000, true⟩ (fun _ => none) [KeyCommand.name .setexCommand,
      ['k'].map Char.toUInt8, ['1', '0'].map Char.toUInt8, ['v'].map Char.toUInt8]).isSome = true := by
    decide +kernel
  obtain ⟨db', hcall⟩ := Option.isSome_iff_exists.mp hsome
  obtain ⟨key, param, val, hset⟩ := isSet_setex hname hcall
  refine ⟨.setex hname, ?_⟩
  exact hset.not_keepsDeadline (fun _ => catAppendOnlyGtid_setex hname (Or.inl rfl)) hruns hcall

end XredisGtid
