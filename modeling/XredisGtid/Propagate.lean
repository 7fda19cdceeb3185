import XredisGtid.Aof
import XredisGtid.ReplStream

/-!
# Propagating commands

`propagateArgsPrepareToFeed` of `xredis_gtid_rs.c`: what a command that has run is rewritten
to before it is fed, and what is indexed of it.  A write becomes a GTID command with a new
gtid; a transaction becomes one at its EXEC, at the offset of its MULTI.

Redis keeps the database and the offset of a MULTI, and feeds what has been prepared.
-/
namespace XredisGtid
open Buffer

/-- The commands that are told apart. -/
inductive PropagatedCommand where
  | gtidCommand
  | publishCommand
  | execCommand
  | other
deriving DecidableEq, Repr

structure PropagateServer extends Server where
  gtidEnabled : Bool
  /-- Negative outside of a transaction. -/
  gtidDbidAtMulti : Int
  gtidOffsetAtMulti : Int

/-- What is fed of a command, and the gtid and the offset to index. -/
structure PropagateArgs where
  cmd : PropagatedCommand
  argv : List Bytes
  uuid : Option Uuid
  gno : Int
  offset : Int

def EXEC : Bytes := ['e', 'x', 'e', 'c'].map Char.toUInt8

def PropagateServer.inMulti (server : PropagateServer) : Prop := 0 ≤ server.gtidDbidAtMulti

instance (server : PropagateServer) : Decidable server.inMulti :=
  inferInstanceAs (Decidable (0 ≤ server.gtidDbidAtMulti))

/-- Whether a command is an EXEC, inside of a GTID command or not. -/
def endsMulti (cmd : PropagatedCommand) (argv : List Bytes) : Option Bool :=
  match cmd with
  | .execCommand => some true
  | .gtidCommand => argv[3]?.map (fun name => isOption name EXEC)
  | _ => some false

/-- afterPropagateExec could be called before calling propagate() for exec, so we clear
gtid_xxx_at_multi here. -/
def leaveMulti (server : PropagateServer) (cmd : PropagatedCommand) (argv : List Bytes) :
    Option PropagateServer := do
  if server.inMulti then
    if ← endsMulti cmd argv then
      some { server with gtidDbidAtMulti := -1, gtidOffsetAtMulti := -1 }
    else some server
  else some server

/-- The gtid of the command itself: that of a GTID command on a master, which is `NULL` if it cannot
be read, and else none, since 0 is no gno. -/
def propagatedGtid (server : PropagateServer) (cmd : PropagatedCommand) (argv : List Bytes) :
    Option (Option Uuid × Int) :=
  if ¬ server.masterhost ∧ cmd = .gtidCommand then do
    let gtid ← argv[1]?
    match ← uuidGnoDecode (gtid ++ [0]) 0 gtid.length with
    | none => some (none, 0)
    | some (gno, uuidLen) => some (some (gtid.take uuidLen), gno)
  else some (some server.uuid, 0)

/-- Whether a command is fed as it is. -/
def feedsAsIs (server : PropagateServer) (cmd : PropagatedCommand) : Prop :=
  server.masterhost = true ∨ server.gtidEnabled = false ∨ cmd = .gtidCommand ∨
    cmd = .publishCommand ∨ server.inMulti ∧ cmd ≠ .execCommand

instance (server : PropagateServer) (cmd : PropagatedCommand) : Decidable (feedsAsIs server cmd) :=
  inferInstanceAs (Decidable (_ ∨ _ ∨ _ ∨ _ ∨ _ ∧ _))

/-- The text of a gtid. -/
def gtidRepr (uuid : Uuid) (gno : Int) : Option Bytes := do
  let bufmaxlen := uuid.length + 1 + GNO_REPR_MAX_LEN
  let (buf, buflen) ← uuidGnoEncode (List.replicate bufmaxlen 0) 0 bufmaxlen uuid gno
  guard (0 ≤ buflen)
  some (buf.take buflen.toNat)

def propagateArgsPrepareToFeed (server : PropagateServer) (cmd : PropagatedCommand) (dbid : Int)
    (argv : List Bytes) (rand : Rand) : Option (PropagateServer × PropagateArgs) := do
  let dbid := if server.inMulti then server.gtidDbidAtMulti else dbid
  let offset := if server.inMulti then server.gtidOffsetAtMulti else server.masterReplOffset + 1
  let server ← leaveMulti server cmd argv
  let (uuid, gno) ← propagatedGtid server cmd argv
  if feedsAsIs server cmd then some (server, ⟨cmd, argv, uuid, gno, offset⟩)
  else
    let (sets, gno) ← allocateGno server.toServerSets rand
    let gtid ← gtidRepr server.uuid gno
    some ({ server with toServerSets := sets },
      ⟨.gtidCommand, [shared.gtid, gtid, longText dbid] ++ argv, some server.uuid, gno, offset⟩)

/-- Prepare a command and feed it, as `n` bytes. -/
def propagate [RedisReplication] (server : PropagateServer) (cmd : PropagatedCommand) (dbid : Int)
    (argv : List Bytes) (n : Nat) (rand : Rand) : Option (PropagateServer × PropagateArgs) := do
  let (server, args) ← propagateArgsPrepareToFeed server cmd dbid argv rand
  let fed ← ctripReplicationFeedSlaves server.toServer args.uuid args.gno args.offset n
  some ({ server with toServer := fed }, args)

/-- What Redis keeps when a transaction starts. -/
def beginMulti (server : PropagateServer) (dbid : Int) : PropagateServer :=
  { server with gtidDbidAtMulti := dbid, gtidOffsetAtMulti := server.masterReplOffset + 1 }

end XredisGtid
