import XredisGtid.Server
import XredisGtid.GtidCodec

/-!
# The commands GTID and GTIDX

`gtidCommand` and `gtidxCommand` of `xredis_gtid.c` on the arguments of a client.  A GTID
command carries another command, which may be a GTID command again.

What Redis provides is in `Redis`: the table of commands, the numbers it reads from
arguments, the number of databases, and what EXEC makes of the commands that the client
has queued.  Commands other than these three leave the gtid sets alone.  Counters and
logging are left out, and an error has the values that its text shows.
-/
namespace XredisGtid
open Buffer

def GTID_COMMAN_ARGC : Nat := 3

inductive CommandProc where
  | gtidCommand
  | gtidxCommand
  | execCommand
  | other
deriving DecidableEq, Repr

structure RedisCommand where
  name : Bytes
  /-- A negative arity is a least one. -/
  arity : Int
  proc : CommandProc

inductive Reply where
  /-- gtid format error:%s -/
  | gtidFormatError (gtid : Bytes)
  /-- value is not an integer or out of range -/
  | notAnInteger
  /-- DB index is out of range -/
  | dbIndexOutOfRange
  /-- gtid command already executed, %s -/
  | alreadyExecuted (args : List Bytes)
  /-- unknown command `%s`, with args beginning with: %s -/
  | unknownCommand (argv : List Bytes)
  /-- wrong number of arguments for '%s' command -/
  | wrongNumberOfArguments (name : Bytes)
  /-- invalid gtid.set type -/
  | invalidGtidSetType
  | longLong (n : Int)
  /-- The reply of the command inside of a GTID command. -/
  | ran (reply : Reply)
  | other

structure Redis where
  lookupCommand : Bytes → Option RedisCommand
  getIntFromObject : Bytes → Option Int
  getLongLongFromObject : Bytes → Option Int
  dbnum : Int
  /-- The commands that the client has queued run, if it is in a transaction. -/
  execCommand : ServerSets → Rand → Option (ServerSets × Reply)

/-- The same Redis, for a client that has queued other commands. -/
def Redis.queued (redis : Redis) (exec : ServerSets → Rand → Option (ServerSets × Reply)) : Redis :=
  { redis with execCommand := exec }

/-- EXEC of a client that has queued nothing. -/
def execNothing (server : ServerSets) (_ : Rand) : Option (ServerSets × Reply) :=
  some (server, .other)

def RedisCommand.rejects (cmd : RedisCommand) (argc : Nat) : Bool :=
  (decide (cmd.arity > 0) && decide (cmd.arity ≠ argc)) || decide ((argc : Int) < -cmd.arity)

def findGtidSetType (type : Bytes) : Option GtidSetType :=
  if equalsIgnoreCase type (['e', 'x', 'e', 'c', 'u', 't', 'e', 'd'].map Char.toUInt8) then some .executed
  else if equalsIgnoreCase type (['l', 'o', 's', 't'].map Char.toUInt8) then some .lost
  else none

/-- The set and the range of GTIDX ADD and GTIDX REMOVE, or an error. -/
def gtidxRange (redis : Redis) (type start «end» : Bytes) : Except Reply (GtidSetType × Int × Int) :=
  match findGtidSetType type with
  | none => .error .invalidGtidSetType
  | some type =>
    match redis.getLongLongFromObject start, redis.getLongLongFromObject «end» with
    | some start, some «end» => .ok (type, start, «end»)
    | _, _ => .error .notAnInteger

/-- The other subcommands leave the sets alone. -/
def gtidxCommand (redis : Redis) (server : ServerSets) (argv : List Bytes) (rand : Rand) :
    Option (ServerSets × Reply) :=
  match argv with
  | [_, sub, type, uuid, start, «end»] =>
    if equalsIgnoreCase sub (['a', 'd', 'd'].map Char.toUInt8) then
      match gtidxRange redis type start «end» with
      | .error reply => some (server, reply)
      | .ok (type, start, «end») => do
        let (server, added) ← gtidxAdd server type uuid start «end» rand
        some (server, .longLong added)
    else if equalsIgnoreCase sub (['r', 'e', 'm', 'o', 'v', 'e'].map Char.toUInt8) then
      match gtidxRange redis type start «end» with
      | .error reply => some (server, reply)
      | .ok (type, start, «end») => do
        let (server, removed) ← gtidxRemove server type uuid start «end» rand
        some (server, .longLong removed)
    else some (server, .other)
  | _ => some (server, .other)

/-- The gtid of a GTID command, or the error in its first arguments. -/
def gtidArguments (redis : Redis) (gtid id : Bytes) : Option (Except Reply (Uuid × Int)) := do
  match ← uuidGnoDecode (gtid ++ [0]) 0 gtid.length with
  | none => some (.error (.gtidFormatError gtid))
  | some (gno, uuidLen) =>
    match redis.getIntFromObject id with
    | none => some (.error .notAnInteger)
    | some db =>
      if db < 0 ∨ redis.dbnum ≤ db then some (.error .dbIndexOutOfRange)
      else some (.ok (gtid.take uuidLen, gno))

/-- The command inside of a GTID command, or why there is none. -/
def innerCommand (redis : Redis) (name : Bytes) (argv : List Bytes) : Except Reply RedisCommand :=
  match redis.lookupCommand name with
  | none => .error (.unknownCommand argv)
  | some cmd =>
    if cmd.rejects argv.length then .error (.wrongNumberOfArguments cmd.name) else .ok cmd

/-- `gtidCommand`, of which the function of that name is the part about the sets. -/
def gtidCommandProc (redis : Redis) :
    ServerSets → List Bytes → Rand → Option (ServerSets × Reply)
  | server, _ :: gtid :: id :: argv, rand => do
    match ← gtidArguments redis gtid id with
    | .error reply => some (server, reply)
    | .ok (uuid, gno) =>
      let (server, contains) ← serverGtidSetContains server uuid gno
      let name ← argv.head?
      if contains then some (server, .alreadyExecuted [gtid, id, name])
      else
        match innerCommand redis name argv with
        | .error reply => some (server, reply)
        | .ok cmd =>
          let (server, reply) ← match cmd.proc with
            | .gtidCommand => gtidCommandProc redis server argv (rand.sub 0)
            | .gtidxCommand => gtidxCommand redis server argv (rand.sub 0)
            | .execCommand => redis.execCommand server (rand.sub 0)
            | .other => some (server, .other)
          let (gtidExecuted, added) ← gtidSetAdd server.gtidExecuted uuid gno gno (rand.sub 1)
          guard (added ≠ 0)
          some ({ server with gtidExecuted := gtidExecuted }, .ran reply)
  | _, _, _ => none

/-- `c->cmd->proc(c)` -/
def RedisCommand.call (redis : Redis) (cmd : RedisCommand) (server : ServerSets)
    (argv : List Bytes) (rand : Rand) : Option (ServerSets × Reply) :=
  match cmd.proc with
  | .gtidCommand => gtidCommandProc redis server argv rand
  | .gtidxCommand => gtidxCommand redis server argv rand
  | .execCommand => redis.execCommand server rand
  | .other => some (server, .other)

end XredisGtid
