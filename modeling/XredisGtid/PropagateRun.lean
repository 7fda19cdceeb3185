import XredisGtid.Propagate
import XredisGtid.GtidSpelling
import XredisGtid.CommandSpec
import XredisGtid.ReplStreamAllocate
import XredisGtid.SyncConverge

/-!
# Runs of a server that propagates

A server is called with GTID commands, propagates writes, begins and ends transactions, and
its stream is reset, switched and updated on the way (`MasterOp`).  Every gtid in the index
has been executed, and starts before the next command does (`PropagateInvariant`).  From this
an operation that propagates never fails: the offset it appends is above those in the index.
-/
namespace XredisGtid
open Buffer Memory OffsetLog

/-! ## The parts of a propagation -/

section Parts
variable {server : PropagateServer} {cmd : PropagatedCommand} {argv : List Bytes} {uuid : Uuid}
  {gno : Int}

/-- Where the next command that is indexed starts. -/
def PropagateServer.nextOffset (server : PropagateServer) : Int :=
  if server.inMulti then server.gtidOffsetAtMulti else server.masterReplOffset + 1

theorem gtidRepr_eq (uuid : Uuid) (hlow : LLONG_MIN ≤ gno) (hhigh : gno ≤ LLONG_MAX) :
    gtidRepr uuid gno = some (uuid ++ colon :: longText gno) := by
  have hlen : (List.replicate (uuid.length + 1 + GNO_REPR_MAX_LEN) (0 : UInt8)).length =
      uuid.length + 1 + GNO_REPR_MAX_LEN := List.length_replicate
  obtain ⟨rest, hwrite, -⟩ := uuidGnoEncode_spec [] (List.replicate _ 0) [] uuid hlow hhigh hlen.ge
  rw [List.nil_append, List.nil_append, List.append_nil, List.append_nil, List.length_nil,
    hlen] at hwrite
  have hnonneg : (0 : Int) ≤ ((uuid ++ colon :: longText gno).length : Int) := by omega
  simp only [gtidRepr, hwrite, Option.bind_eq_bind, Option.bind_some, guard, if_pos hnonneg,
    Option.pure_def, Int.toNat_natCast, List.take_left]

theorem number_longText (hlow : LLONG_MIN ≤ gno) (hhigh : gno ≤ LLONG_MAX) :
    number (longText gno) = some gno := by
  have hread := string2ll_spec hlow hhigh (textAt_append.mp (textAt_nul (longText gno))).1
  rw [string2ll_text (textAt_nul _) (by decide)] at hread
  exact Option.some.inj hread

/-- The text of a gtid is read back. -/
theorem gtidOf_repr (huuid : colon ∉ uuid) (hlow : LLONG_MIN ≤ gno) (hhigh : gno ≤ LLONG_MAX) :
    gtidOf (uuid ++ colon :: longText gno) = some (uuid, gno) := by
  have hdrop : (uuid ++ colon :: longText gno).drop (uuid.length + 1) = longText gno := by
    rw [List.append_cons, List.drop_left' (by simp)]
  rw [gtidOf, if_pos (by simp), pieceUuid, takeWhile_append_cons huuid, hdrop,
    number_longText hlow hhigh]
  rfl

/-- The transaction is over. -/
def PropagateServer.afterMulti (server : PropagateServer) (ends : Bool) : PropagateServer :=
  if server.inMulti ∧ ends then { server with gtidDbidAtMulti := -1, gtidOffsetAtMulti := -1 }
  else server

theorem leaveMulti_eq {ends : Bool} (h : endsMulti cmd argv = some ends) :
    leaveMulti server cmd argv = some (server.afterMulti ends) := by
  rw [leaveMulti, PropagateServer.afterMulti]
  by_cases hmulti : server.inMulti
  · rw [if_pos hmulti, h, Option.bind_eq_bind, Option.bind_some]
    cases ends with
    | true => rw [if_pos rfl, if_pos ⟨hmulti, rfl⟩]
    | false => rw [if_neg Bool.false_ne_true, if_neg (fun h => Bool.false_ne_true h.2)]
  · rw [if_neg hmulti, if_neg (fun h => hmulti h.1)]

/-- Nothing but what is kept of the transaction changes. -/
theorem afterMulti_toServer (server : PropagateServer) (ends : Bool) :
    (server.afterMulti ends).toServer = server.toServer := by
  rw [PropagateServer.afterMulti]
  split <;> rfl

theorem not_inMulti_afterMulti : ¬ (server.afterMulti true).inMulti := by
  rw [PropagateServer.afterMulti]
  by_cases hmulti : server.inMulti
  · rw [if_pos ⟨hmulti, rfl⟩]
    exact (by decide : ¬ (0 : Int) ≤ -1)
  · rw [if_neg (fun h => hmulti h.1)]
    exact hmulti

theorem afterMulti_false : server.afterMulti false = server :=
  if_neg (fun h => Bool.false_ne_true h.2)

/-- A GTID command that has been read is propagated with the same gtid by a master. -/
theorem propagatedGtid_gtidCommand {redis : Redis} {command gtid id : Bytes} {x : Uuid × Int}
    (hargs : gtidArguments redis gtid id = some (.ok x)) (hhost : server.masterhost = false)
    (rest : List Bytes) :
    propagatedGtid server .gtidCommand (command :: gtid :: id :: rest) =
      some (some x.1, x.2) := by
  obtain ⟨decoded, hdecode, hargs⟩ := Option.bind_eq_some_iff.mp hargs
  have hmaster : ¬ server.masterhost ∧ PropagatedCommand.gtidCommand = .gtidCommand := by
    rw [hhost]
    exact ⟨Bool.false_ne_true, rfl⟩
  rw [propagatedGtid, if_pos hmaster]
  simp only [List.getElem?_cons_succ, List.getElem?_cons_zero, hdecode, Option.bind_eq_bind,
    Option.bind_some]
  cases decoded with
  | none => cases hargs
  | some r =>
    dsimp only at hargs
    split at hargs
    · cases hargs
    · split at hargs
      · cases hargs
      · cases hargs
        rfl

/-- Other commands, and those of a replica, have no gtid of their own. -/
theorem propagatedGtid_own (argv : List Bytes)
    (h : server.masterhost = true ∨ cmd ≠ .gtidCommand) :
    propagatedGtid server cmd argv = some (some server.uuid, 0) := by
  rw [propagatedGtid, if_neg]
  rintro ⟨hhost, hcmd⟩
  rcases h with h | h
  · exact hhost h
  · exact h hcmd

/-- So a GTID command that has been read has its own gtid or none. -/
theorem propagatedGtid_request {redis : Redis} {r : GtidRequest} {x : Uuid × Int}
    (server : PropagateServer) (hargs : gtidArguments redis r.gtid r.id = some (.ok x)) :
    ∃ uuid gno, propagatedGtid server .gtidCommand r.argv = some (uuid, gno) ∧
      ∀ k, uuid = some k → 1 ≤ gno → server.masterhost = false → (k, gno) = x := by
  cases hhost : server.masterhost with
  | true =>
    exact ⟨_, _, propagatedGtid_own _ (Or.inl hhost), fun _ _ hone => absurd hone (by decide)⟩
  | false =>
    refine ⟨_, _, propagatedGtid_gtidCommand hargs hhost _, fun k hk _ _ => ?_⟩
    rw [← Option.some.inj hk]

end Parts

/-! ## The index -/

/-- Every gtid in the index has been executed, and starts before `bound`. -/
def IndexSound (E : Finset (Uuid × Int)) (bound : Int) (gtidSeq : Option GtidSeq) : Prop :=
  ∀ seq, gtidSeq = some seq → (∃ l f, SeqRep seq l f) ∧
    ∀ e ∈ gtidSeqEntries seq, e.gtid ∈ E ∧ e.offset < bound

structure PropagateInvariant (p : PropagateServer) : Prop where
  sets : SetsInvariant p.toServerSets
  offset : 0 ≤ p.masterReplOffset
  multi : p.inMulti → 1 ≤ p.gtidOffsetAtMulti ∧ p.gtidOffsetAtMulti ≤ p.masterReplOffset + 1
  index : IndexSound (contents p.gtidExecuted) p.nextOffset p.gtidSeq

section Index
variable {E E' : Finset (Uuid × Int)} {bound bound' : Int} {gtidSeq : Option GtidSeq}

theorem IndexSound.mono (h : IndexSound E bound gtidSeq) (hE : E ⊆ E') (hbound : bound ≤ bound') :
    IndexSound E' bound' gtidSeq := by
  intro seq hseq
  obtain ⟨hrep, hentries⟩ := h seq hseq
  exact ⟨hrep, fun e he => ⟨hE (hentries e he).1, by have := (hentries e he).2; omega⟩⟩

theorem indexSound_none : IndexSound E bound none := fun _ hseq => nomatch hseq

theorem indexSound_create : IndexSound E bound (some gtidSeqCreate) := by
  intro seq hseq
  obtain rfl := Option.some.inj hseq
  exact ⟨⟨[], [], seqRep_create⟩, by simp [gtidSeqEntries_create]⟩

/-- An index that has been emptied, if there is one. -/
theorem indexSound_emptied (gtidSeq : Option GtidSeq) :
    IndexSound E bound (gtidSeq.map (fun _ => gtidSeqCreate)) := by
  cases gtidSeq with
  | none => exact indexSound_none
  | some seq => exact indexSound_create

variable {s : Server}

/-- **A feed** whose gtid has been executed succeeds behind all that is in the index. -/
theorem feedIndexed_spec [RedisReplication] (f : Feed) (h : IndexSound E bound s.gtidSeq)
    (hbound : bound ≤ bound') (hoff : LLONG_MIN ≤ f.offset ∧ f.offset ≤ LLONG_MAX)
    (htouch : f.touchIndex = true → s.gtidSeq.isSome ∧ (f.uuid, f.gno) ∈ E ∧
      (1 ≤ f.gno ∧ f.gno < LLONG_MAX) ∧ bound ≤ f.offset ∧ f.offset < bound') :
    ∃ gtidSeq, feedIndexed s f.touchIndex f.uuid f.gno f.offset f.n =
        some { s with
          masterReplOffset := s.masterReplOffset + f.n
          replBacklog := s.replBacklog.feed f.n (s.masterReplOffset + f.n)
          gtidSeq := gtidSeq } ∧
      IndexSound E bound' gtidSeq := by
  simp only [feedIndexed, feedReplicationBacklog_eq]
  cases hindexed : f.touchIndex with
  | false => exact ⟨s.gtidSeq, rfl, h.mono (Finset.Subset.refl _) hbound⟩
  | true =>
    obtain ⟨hsome, hE, hgno, hlow, hhigh⟩ := htouch hindexed
    obtain ⟨seq, hseq⟩ := Option.isSome_iff_exists.mp hsome
    obtain ⟨⟨l, c, hrep⟩, hentries⟩ := h seq hseq
    obtain ⟨seq₁, l₁, c₁, happend, hrep₁, hentries₁⟩ := gtidSeqAppend_rep hrep f.uuid
      (fun e he => lt_of_lt_of_le (hentries e he).2 hlow) hoff hgno
    obtain ⟨seq₂, l₂, c₂, htrim, hrep₂, hentries₂⟩ := gtidSeqTrim_rep hrep₁
      (s.replBacklog.feed f.n (s.masterReplOffset + f.n)).off
    refine ⟨some seq₂, ?_, ?_⟩
    · rw [if_pos rfl, hseq]
      simp only [happend, htrim, Option.bind_eq_bind, Option.bind_some]
    · intro seq' hseq'
      obtain rfl := Option.some.inj hseq'
      refine ⟨⟨l₂, c₂, hrep₂⟩, fun e he => ?_⟩
      rw [hentries₂, hentries₁] at he
      rcases List.mem_append.mp (mem_entriesFrom.mp he).1 with he | he
      · exact ⟨(hentries e he).1, lt_of_lt_of_le (hentries e he).2 hbound⟩
      · rw [List.mem_singleton.mp he]
        exact ⟨hE, hhigh⟩

end Index

/-! ## A propagation -/

section Propagation
variable {p : PropagateServer} {cmd : PropagatedCommand} {argv : List Bytes} {ends : Bool}
  {uuid : Option Uuid} {gno : Int}

/-- A command starts inside of the stream. -/
theorem PropagateInvariant.nextOffset_bounds (h : PropagateInvariant p)
    (hroom : p.masterReplOffset < LLONG_MAX) :
    (LLONG_MIN ≤ p.nextOffset ∧ p.nextOffset ≤ LLONG_MAX) ∧
      p.nextOffset ≤ p.masterReplOffset + 1 := by
  have hoff := h.offset
  have hmin : LLONG_MIN ≤ 0 := by decide
  rw [PropagateServer.nextOffset]
  split
  · next hmulti =>
    have := h.multi hmulti
    exact ⟨⟨by omega, by omega⟩, by omega⟩
  · exact ⟨⟨by omega, by omega⟩, le_refl _⟩

/-- The offset of what is prepared. -/
theorem nextOffset_eq (p : PropagateServer) :
    (if p.inMulti then p.gtidOffsetAtMulti else p.masterReplOffset + 1) = p.nextOffset := rfl

/-- Where the next command starts after `n` bytes more. -/
def PropagateServer.offsetAfter (p : PropagateServer) (n : Nat) : Int :=
  if p.inMulti then p.gtidOffsetAtMulti else p.masterReplOffset + n + 1

/-- **What has been prepared is fed**, and the invariant holds then. -/
theorem PropagateInvariant.feed [RedisReplication] {E : Finset (Uuid × Int)} {offset : Int}
    (h : PropagateInvariant p)
    (uuid : Option Uuid) (gno : Int) (hsets : SetsInvariant p.toServerSets)
    (hE : contents p.gtidExecuted = E)
    (hbound : offset ≤ p.nextOffset) (hroom : p.masterReplOffset < LLONG_MAX)
    (hgno : ∀ k, uuid = some k → 1 ≤ gno → p.masterhost = false → (k, gno) ∈ E ∧ ¬ p.inMulti)
    (hoff : LLONG_MIN ≤ offset) (hindex : IndexSound E offset p.gtidSeq) {n : Nat} (hn : 1 ≤ n) :
    ∃ fed, ctripReplicationFeedSlaves p.toServer uuid gno offset n = some fed ∧
      PropagateInvariant { p with toServer := fed } ∧ fed.toServerSets = p.toServerSets := by
  obtain ⟨⟨-, hhigh⟩, hle⟩ := h.nextOffset_bounds hroom
  have hafter : offset ≤ p.offsetAfter n := by
    rw [PropagateServer.offsetAfter]
    split
    · next hmulti => rwa [PropagateServer.nextOffset, if_pos hmulti] at hbound
    · omega
  let f : Feed := ⟨uuid.isSome && decide (gno ≥ GTID_GNO_INITIAL) && p.gtidSeq.isSome &&
    !p.masterhost, uuid.getD [], gno, offset, n⟩
  have htouch : f.touchIndex = true → p.gtidSeq.isSome ∧ (f.uuid, f.gno) ∈ E ∧
      (1 ≤ f.gno ∧ f.gno < LLONG_MAX) ∧ offset ≤ f.offset ∧ f.offset < p.offsetAfter n := by
    intro htouch
    simp only [f, Bool.and_eq_true, Bool.not_eq_true'] at htouch
    obtain ⟨⟨⟨huuid, hone⟩, hseq⟩, hhost⟩ := htouch
    have hone : 1 ≤ gno := of_decide_eq_true hone
    obtain ⟨k, rfl⟩ := Option.isSome_iff_exists.mp huuid
    obtain ⟨hmem, hmulti⟩ := hgno k rfl hone hhost
    refine ⟨hseq, hmem, ⟨hone, hsets.executed.lt_max (hE.symm ▸ hmem)⟩, le_refl _, ?_⟩
    rw [PropagateServer.offsetAfter, if_neg hmulti]
    show offset < p.masterReplOffset + n + 1
    omega
  obtain ⟨gtidSeq, hrun, hsound⟩ :=
    feedIndexed_spec f hindex hafter ⟨hoff, le_trans hbound hhigh⟩ htouch
  refine ⟨_, hrun, ⟨hsets, ?_, ?_, hE ▸ hsound⟩, rfl⟩
  · have := h.offset
    show 0 ≤ p.masterReplOffset + n
    omega
  · intro hmulti
    have := h.multi hmulti
    refine ⟨this.1, ?_⟩
    show p.gtidOffsetAtMulti ≤ p.masterReplOffset + n + 1
    omega

/-- More may be executed at any time. -/
theorem PropagateInvariant.setSets {sets : ServerSets} (h : PropagateInvariant p)
    (hsets : SetsInvariant sets) (hE : contents p.gtidExecuted ⊆ contents sets.gtidExecuted) :
    PropagateInvariant { p with toServerSets := sets } :=
  ⟨hsets, h.offset, h.multi, h.index.mono hE (le_refl _)⟩

/-- What is kept of a transaction does not matter once it is over. -/
theorem PropagateInvariant.afterMulti (h : PropagateInvariant p) (ends : Bool) :
    PropagateInvariant (p.afterMulti ends) ∧ p.nextOffset ≤ (p.afterMulti ends).nextOffset := by
  rw [PropagateServer.afterMulti]
  split
  · next hends =>
    have hout : ¬ PropagateServer.inMulti
        { p with gtidDbidAtMulti := -1, gtidOffsetAtMulti := -1 } := (by decide : ¬ (0 : Int) ≤ -1)
    have hle : p.nextOffset ≤
        PropagateServer.nextOffset { p with gtidDbidAtMulti := -1, gtidOffsetAtMulti := -1 } := by
      rw [PropagateServer.nextOffset, PropagateServer.nextOffset, if_pos hends.1, if_neg hout]
      exact (h.multi hends.1).2
    exact ⟨⟨h.sets, h.offset, fun hmulti => absurd hmulti hout,
      h.index.mono (Finset.Subset.refl _) hle⟩, hle⟩
  · exact ⟨h, le_refl _⟩

/-- **A command that is fed as it is.** -/
theorem propagate_asIs [RedisReplication] (h : PropagateInvariant p)
    (hends : endsMulti cmd argv = some ends)
    (hgtid : propagatedGtid (p.afterMulti ends) cmd argv = some (uuid, gno))
    (hasIs : feedsAsIs (p.afterMulti ends) cmd) (hroom : p.masterReplOffset < LLONG_MAX)
    (hgno : ∀ k, uuid = some k → 1 ≤ gno → p.masterhost = false →
      (k, gno) ∈ contents p.gtidExecuted ∧ ¬ (p.afterMulti ends).inMulti)
    (dbid : Int) {n : Nat} (hn : 1 ≤ n) (rand : Rand) :
    ∃ p', propagate p cmd dbid argv n rand = some (p', ⟨cmd, argv, uuid, gno, p.nextOffset⟩) ∧
      PropagateInvariant p' ∧ p'.toServerSets = p.toServerSets := by
  have hsame := afterMulti_toServer p ends
  obtain ⟨hafter, hle⟩ := h.afterMulti ends
  obtain ⟨fed, hfed, hinv, hsets⟩ := hafter.feed uuid gno hafter.sets rfl hle
    (by rw [hsame]; exact hroom) (by rw [hsame]; exact hgno) (h.nextOffset_bounds hroom).1.1
    (by rw [hsame]; exact h.index) hn
  refine ⟨_, ?_, hinv, by rw [hsame] at hsets; exact hsets⟩
  simp only [propagate, propagateArgsPrepareToFeed, leaveMulti_eq hends, hgtid, if_pos hasIs,
    nextOffset_eq, hfed, Option.bind_eq_bind, Option.bind_some]

/-- **A command that is rewritten** gets the next gno of the server. -/
theorem propagate_rewritten [RedisReplication] (h : PropagateInvariant p)
    (hends : endsMulti cmd argv = some ends)
    (hcmd : cmd = .execCommand → ends = true) (hasIs : ¬ feedsAsIs (p.afterMulti ends) cmd)
    (hroom : p.masterReplOffset < LLONG_MAX) (hnext : nextGno p.gtidExecuted p.uuid < LLONG_MAX)
    (dbid : Int) {n : Nat} (hn : 1 ≤ n) (rand : Rand) :
    ∃ p', propagate p cmd dbid argv n rand = some (p', ⟨.gtidCommand,
        [shared.gtid, p.uuid ++ colon :: longText (nextGno p.gtidExecuted p.uuid),
          longText (if p.inMulti then p.gtidDbidAtMulti else dbid)] ++ argv,
        some p.uuid, nextGno p.gtidExecuted p.uuid, p.nextOffset⟩) ∧
      PropagateInvariant p' ∧ p'.gtidExecuted.curnext = 0 ∧
      Holding p'.toServerSets p.uuid
        (contents p.gtidExecuted ∪ {(p.uuid, nextGno p.gtidExecuted p.uuid)})
        (contents p.gtidLost) := by
  have hsame := afterMulti_toServer p ends
  obtain ⟨hafter, hle⟩ := h.afterMulti ends
  simp only [feedsAsIs, not_or] at hasIs
  obtain ⟨hhost, henabled, hgtid, hpublish, hmulti⟩ := hasIs
  -- what is rewritten is not part of a transaction that goes on
  have hmulti : ¬ (p.afterMulti ends).inMulti := by
    by_cases hexec : cmd = .execCommand
    · rw [hcmd hexec]
      exact not_inMulti_afterMulti
    · exact fun h => hmulti ⟨h, hexec⟩
  have hown := propagatedGtid_own argv (Or.inr hgtid : (p.afterMulti ends).masterhost = true ∨
    cmd ≠ .gtidCommand)
  obtain ⟨sets, halloc, hold, hzero⟩ := allocateGno_spec (Holding.self h.sets) hnext rand
  rw [← nextGno_eq] at halloc hold
  have hlow : LLONG_MIN ≤ nextGno p.gtidExecuted p.uuid := by
    have hmin : LLONG_MIN ≤ 0 := by decide
    have hmax := (h.sets.executed.maxGno_bounds p.uuid).1
    have hsaved := h.sets.saved
    rw [nextGno]
    split <;> omega
  have hrepr := gtidRepr_eq p.uuid hlow hnext.le
  have hafter' := hafter.setSets hold.toSetsInvariant (by
    rw [hsame, hold.executed_eq]
    exact Finset.subset_union_left)
  obtain ⟨fed, hfed, hinv, hsets⟩ := hafter'.feed (some p.uuid) (nextGno p.gtidExecuted p.uuid)
    hold.toSetsInvariant hold.executed_eq hle (by rw [hsame]; exact hroom)
    (fun k hk _ _ => ⟨Option.some.inj hk ▸ Finset.mem_union_right _ (Finset.mem_singleton_self _),
      hmulti⟩) (h.nextOffset_bounds hroom).1.1
    (by rw [hsame]; exact h.index.mono Finset.subset_union_left (le_refl _)) hn
  refine ⟨_, ?_, hinv, by rw [hsets]; exact hzero, hsets ▸ hold⟩
  have hasIs : ¬ feedsAsIs (p.afterMulti ends) cmd := by
    simp only [feedsAsIs, not_or]
    exact ⟨hhost, henabled, hgtid, hpublish, fun h => hmulti h.1⟩
  have hserver : (p.afterMulti ends).toServerSets = p.toServerSets := by rw [hsame]
  simp only [propagate, propagateArgsPrepareToFeed, leaveMulti_eq hends, hown, if_neg hasIs,
    hserver, halloc, hrepr, nextOffset_eq, Option.bind_eq_bind, Option.bind_some, hfed]

end Propagation

/-! ## Operations -/

inductive PropagateOp where
  /-- A client's GTID command, which is propagated if it has run. -/
  | call (r : GtidRequest) (dbid : Int) (n : Nat)
  /-- Another command, which has run. -/
  | write (cmd : PropagatedCommand) (dbid : Int) (argv : List Bytes) (n : Nat)
  | beginMulti (dbid : Int)
  | stream (op : StreamOp)

/-- Also what has been fed. -/
def PropagateOp.step [RedisReplication] (redis : Redis) (p : PropagateServer) (rand : Rand) :
    PropagateOp → Option (PropagateServer × Option PropagateArgs)
  | .call r dbid n => do
    let (sets, reply) ← gtidCommandProc redis p.toServerSets r.argv (rand.sub 0)
    let p := { p with toServerSets := sets }
    if reply.isRan then do
      let (p, args) ← propagate p .gtidCommand dbid r.argv n (rand.sub 1)
      some (p, some args)
    else some (p, none)
  | .write cmd dbid argv n => do
    let (p, args) ← propagate p cmd dbid argv n rand
    some (p, some args)
  | .beginMulti dbid => some (XredisGtid.beginMulti p dbid, none)
  | .stream op => do
    let s ← op.step p.toServer rand
    some ({ p with toServer := s }, none)

/-- What an operation on the stream is given is regular, the role does not change inside of a
transaction, and what a replica is fed by its master it has executed. -/
def StreamOp.Regular (p : PropagateServer) : StreamOp → Prop
  | .reset2Psync .. | .switch2Psync .. => ¬ p.inMulti
  | .reset2Xsync _ _ _ gtidExecuted gtidLost _ =>
    ¬ p.inMulti ∧ RegularSet gtidExecuted ∧ RegularSet gtidLost
  | .switch2Xsync _ _ _ gtidExecuted gtidLost => RegularSet gtidExecuted ∧ RegularSet gtidLost
  | .updateFromMaster deltaLost .. | .updateFromReplica deltaLost => RegularSet deltaLost
  | .feedSlavesFromMasterStream uuid gno _ n => ¬ p.inMulti ∧ 1 ≤ n ∧
    (∀ k, uuid = some k → 1 ≤ gno → (k, gno) ∈ contents p.gtidExecuted)
  -- commands are fed by what propagates them, and the sets are changed by what executes them
  | .feedSlaves .. | .changeSets _ => False
  | _ => True

/-- A GTID command is not allowed in a transaction, other than to end it. -/
def PropagateOp.Valid (redis : Redis) (p : PropagateServer) : PropagateOp → Prop
  | .call r _ n =>
    Deliverable redis r p.uuid (contents p.gtidExecuted) (contents p.gtidLost) ∧ 1 ≤ n ∧
      (p.inMulti → isOption r.name EXEC = true)
  | .write cmd _ _ n => cmd ≠ .gtidCommand ∧ 1 ≤ n
  | .beginMulti dbid => ¬ p.inMulti ∧ 0 ≤ dbid
  | .stream op => op.Valid p.toServer ∧ op.Regular p

/-- There is room for another command and another gno. -/
def HasRoom (p : PropagateServer) : Prop :=
  p.masterReplOffset < LLONG_MAX ∧ nextGno p.gtidExecuted p.uuid < LLONG_MAX

/-- The servers after any run. -/
inductive PropagateReachable [RedisReplication] (redis : Redis) : PropagateServer → Prop
  | start {p : PropagateServer} : SetsInvariant p.toServerSets → 0 ≤ p.masterReplOffset →
      ¬ p.inMulti → p.gtidSeq = none → PropagateReachable redis p
  | step {p p' : PropagateServer} {fed : Option PropagateArgs} (op : PropagateOp) (rand : Rand) :
      PropagateReachable redis p → op.Valid redis p → HasRoom p →
      op.step redis p rand = some (p', fed) → PropagateReachable redis p'

section Operations
variable {redis : Redis} {p p' : PropagateServer} {r : GtidRequest} {fed : Option PropagateArgs}
  {op : PropagateOp} {rand : Rand} {n : Nat}

theorem endsMulti_request (r : GtidRequest) :
    endsMulti .gtidCommand r.argv = some (isOption r.name EXEC) := rfl

theorem endsMulti_write {cmd : PropagatedCommand} (h : cmd ≠ .gtidCommand) (argv : List Bytes) :
    endsMulti cmd argv = some (decide (cmd = .execCommand)) := by
  cases cmd with
  | gtidCommand => exact absurd rfl h
  | _ => rfl

/-- **A GTID command** that runs is fed as it is, and one that does not run is not fed. -/
theorem PropagateInvariant.call [RedisReplication] (h : PropagateInvariant p)
    (hr : Deliverable redis r p.uuid (contents p.gtidExecuted) (contents p.gtidLost)) (hn : 1 ≤ n)
    (hmulti : p.inMulti → isOption r.name EXEC = true) (hroom : p.masterReplOffset < LLONG_MAX)
    (dbid : Int) (rand : Rand) :
    ∃ p' fed, (PropagateOp.call r dbid n).step redis p rand = some (p', fed) ∧
      PropagateInvariant p' ∧
      ((∃ x args, r.wellFormed redis = some x ∧
          x ∉ contents p.gtidExecuted ∪ contents p.gtidLost ∧ fed = some args ∧
          args.cmd = .gtidCommand ∧ args.argv = r.argv ∧
          Holding p'.toServerSets p.uuid (contents p.gtidExecuted ∪ {x}) (contents p.gtidLost)) ∨
        (∀ x, r.wellFormed redis = some x →
          x ∈ contents p.gtidExecuted ∪ contents p.gtidLost) ∧ fed = none ∧
          Holding p'.toServerSets p.uuid (contents p.gtidExecuted) (contents p.gtidLost)) := by
  obtain ⟨sets, reply, hproc, hiff, hold⟩ :=
    gtidCommandProc_spec (Holding.self h.sets) hr (rand.sub 0)
  have hinv := h.setSets hold.toSetsInvariant (by
    rw [hold.executed_eq]
    exact Finset.subset_union_left)
  cases hran : reply.isRan with
  | false =>
    rw [GtidRequest.ran, hran, if_neg Bool.false_ne_true, List.toFinset_nil,
      Finset.union_empty] at hold
    refine ⟨_, none, ?_, hinv, Or.inr ⟨fun x hx => ?_, rfl, hold⟩⟩
    · simp only [PropagateOp.step, hproc, hran, Option.bind_eq_bind, Option.bind_some,
        Bool.false_eq_true, if_false]
    · exact not_not.mp (fun hnot => Bool.false_ne_true (hran.symm.trans (hiff.mpr ⟨x, hx, hnot⟩)))
  | true =>
    obtain ⟨x, hx, hnew⟩ := hiff.mp hran
    rw [GtidRequest.ran, hran, if_pos rfl, hx, Option.toList_some, List.toFinset_cons,
      List.toFinset_nil, insert_empty_eq] at hold
    have hargs : gtidArguments redis r.gtid r.id = some (.ok x) := by
      rw [GtidRequest.wellFormed] at hx
      split at hx
      · next heq _ => rw [heq, Option.some.inj hx]
      · cases hx
    have hout : ¬ (PropagateServer.afterMulti { p with toServerSets := sets }
        (isOption r.name EXEC)).inMulti := by
      by_cases hin : p.inMulti
      · rw [hmulti hin]
        exact not_inMulti_afterMulti
      · rw [PropagateServer.afterMulti, if_neg (fun h => hin h.1)]
        exact hin
    obtain ⟨uuid, gno, hgtid, hmem⟩ := propagatedGtid_request (PropagateServer.afterMulti
      { p with toServerSets := sets } (isOption r.name EXEC)) hargs
    have hhost : (PropagateServer.afterMulti { p with toServerSets := sets }
        (isOption r.name EXEC)).masterhost = p.masterhost := by
      rw [afterMulti_toServer]
    obtain ⟨p', hrun, hinv', hsets⟩ := propagate_asIs hinv (endsMulti_request r) hgtid
      (Or.inr (Or.inr (Or.inl rfl))) hroom (fun k hk hone hfalse => by
        refine ⟨?_, hout⟩
        rw [hold.executed_eq, hmem k hk hone (hhost.trans hfalse)]
        exact Finset.mem_union_right _ (Finset.mem_singleton_self _)) dbid hn (rand.sub 1)
    have hstep : (PropagateOp.call r dbid n).step redis p rand =
        some (p', some ⟨.gtidCommand, r.argv, uuid, gno,
          PropagateServer.nextOffset { p with toServerSets := sets }⟩) := by
      simp only [PropagateOp.step, hproc, hran, hrun, Option.bind_eq_bind, Option.bind_some,
        if_true]
    exact ⟨p', _, hstep, hinv', Or.inl ⟨x, _, hx, hnew, rfl, rfl, rfl, hsets ▸ hold⟩⟩

/-- **Another command** is fed as it is, or with the next gno of the server. -/
theorem PropagateInvariant.write [RedisReplication] (h : PropagateInvariant p)
    {cmd : PropagatedCommand}
    (redis : Redis) (hcmd : cmd ≠ .gtidCommand) (hn : 1 ≤ n) (hroom : HasRoom p) (dbid : Int)
    (argv : List Bytes) (rand : Rand) :
    ∃ p' args, (PropagateOp.write cmd dbid argv n).step redis p rand = some (p', some args) ∧
      PropagateInvariant p' ∧
      (args.cmd = cmd ∧ args.argv = argv ∧ p'.toServerSets = p.toServerSets ∨
        args.cmd = .gtidCommand ∧
        args.argv = [shared.gtid, p.uuid ++ colon :: longText (nextGno p.gtidExecuted p.uuid),
          longText (if p.inMulti then p.gtidDbidAtMulti else dbid)] ++ argv ∧
        Holding p'.toServerSets p.uuid
          (contents p.gtidExecuted ∪ {(p.uuid, nextGno p.gtidExecuted p.uuid)})
          (contents p.gtidLost)) := by
  have hends := endsMulti_write hcmd argv
  by_cases hasIs : feedsAsIs (p.afterMulti (decide (cmd = .execCommand))) cmd
  · have hgtid := propagatedGtid_own argv (Or.inr hcmd :
      (p.afterMulti (decide (cmd = .execCommand))).masterhost = true ∨ cmd ≠ .gtidCommand)
    obtain ⟨p', hrun, hinv, hsets⟩ := propagate_asIs h hends hgtid hasIs hroom.1
      (fun _ _ hone => absurd hone (by decide)) dbid hn rand
    have hstep : (PropagateOp.write cmd dbid argv n).step redis p rand =
        some (p', some ⟨cmd, argv, some (p.afterMulti (decide (cmd = .execCommand))).uuid, 0,
          p.nextOffset⟩) := by
      simp only [PropagateOp.step, hrun, Option.bind_eq_bind, Option.bind_some]
    exact ⟨p', _, hstep, hinv, Or.inl ⟨rfl, rfl, hsets⟩⟩
  · obtain ⟨p', hrun, hinv, -, hold⟩ := propagate_rewritten h hends decide_eq_true hasIs hroom.1
      hroom.2 dbid hn rand
    have hstep : (PropagateOp.write cmd dbid argv n).step redis p rand =
        some (p', some ⟨.gtidCommand,
          [shared.gtid, p.uuid ++ colon :: longText (nextGno p.gtidExecuted p.uuid),
            longText (if p.inMulti then p.gtidDbidAtMulti else dbid)] ++ argv,
          some p.uuid, nextGno p.gtidExecuted p.uuid, p.nextOffset⟩) := by
      simp only [PropagateOp.step, hrun, Option.bind_eq_bind, Option.bind_some]
    exact ⟨p', _, hstep, hinv, Or.inr ⟨rfl, rfl, hold⟩⟩

end Operations

/-! ## Operations on the stream -/

section Stream
variable {p : PropagateServer} {s s' : Server} {op : StreamOp} {rand : Rand}

theorem nextOffset_out (hmulti : ¬ p.inMulti) :
    PropagateServer.nextOffset { p with toServer := s' } = s'.masterReplOffset + 1 :=
  if_neg hmulti

/-- The parts of the invariant after an operation on the stream. -/
theorem PropagateInvariant.stream (h : PropagateInvariant p) (hsets : SetsInvariant s'.toServerSets)
    (hoff : s'.masterReplOffset = p.masterReplOffset ∨ ¬ p.inMulti ∧ 0 ≤ s'.masterReplOffset)
    (hindex : IndexSound (contents s'.gtidExecuted)
      (PropagateServer.nextOffset { p with toServer := s' }) s'.gtidSeq) :
    PropagateInvariant { p with toServer := s' } := by
  have hzero := h.offset
  refine ⟨hsets, ?_, fun hmulti => ?_, hindex⟩
  · rcases hoff with hoff | ⟨-, hoff⟩
    · exact hoff ▸ hzero
    · exact hoff
  · have hsame := hoff.resolve_right (fun hout => hout.1 hmulti)
    have := h.multi hmulti
    exact ⟨this.1, hsame ▸ this.2⟩

/-- When neither the index nor the offset changes, and nothing that has been executed is
forgotten. -/
theorem PropagateInvariant.stream_kept (h : PropagateInvariant p)
    (hsets : SetsInvariant s'.toServerSets) (hoff : s'.masterReplOffset = p.masterReplOffset)
    (hseq : s'.gtidSeq = p.gtidSeq) (hE : contents s'.gtidExecuted = contents p.gtidExecuted) :
    PropagateInvariant { p with toServer := s' } := by
  have hnext : PropagateServer.nextOffset { p with toServer := s' } = p.nextOffset := by
    show (if p.inMulti then p.gtidOffsetAtMulti else s'.masterReplOffset + 1) = _
    rw [hoff]
    rfl
  refine h.stream hsets (Or.inl hoff) ?_
  rw [hnext, hseq, hE]
  exact h.index

/-- When the index is emptied. -/
theorem PropagateInvariant.stream_emptied (h : PropagateInvariant p)
    (hsets : SetsInvariant s'.toServerSets)
    (hoff : s'.masterReplOffset = p.masterReplOffset ∨ ¬ p.inMulti ∧ 0 ≤ s'.masterReplOffset)
    (hseq : s'.gtidSeq = p.gtidSeq.map (fun _ => gtidSeqCreate)) :
    PropagateInvariant { p with toServer := s' } :=
  h.stream hsets hoff (hseq ▸ indexSound_emptied p.gtidSeq)

theorem serverReplStreamReset2Xsync_offset [RedisReplication] {replid masterUuid : Option Bytes}
    {reploff : Int} {t u : GtidSet} {newReplid : Bytes}
    (h : serverReplStreamReset2Xsync s replid reploff masterUuid t u newReplid rand = some s') :
    s'.masterReplOffset = if reploff ≥ 0 then reploff else s.masterReplOffset := by
  simp only [serverReplStreamReset2Xsync, clearReplicationId2_eq, Option.bind_eq_bind,
    Option.bind_eq_some_iff] at h
  obtain ⟨sets, -, heq⟩ := h
  obtain rfl := Option.some.inj heq
  cases masterUuid <;> rfl

/-- Two sets that are installed are regular. -/
theorem serverGtidSetReset_invariant {sets sets' : ServerSets} {t u : GtidSet}
    (h : SetsInvariant sets) (ht : RegularSet t) (hu : RegularSet u)
    (hrun : serverGtidSetReset sets t u rand = some sets') : SetsInvariant sets' := by
  obtain ⟨sets₁, hreset, hold, -⟩ := serverGtidSetReset_spec (Holding.self h) ht hu rand
  obtain rfl := Option.some.inj (hrun.symm.trans hreset)
  exact hold.toSetsInvariant

/-- An update changes the lost set only. -/
theorem PropagateInvariant.update {t : GtidSet} {fromMaster b : Bool}
    {masterUuid replid : Option Bytes} {reploff : Int} (h : PropagateInvariant p)
    (ht : RegularSet t)
    (hrun : serverReplStreamUpdateXsync p.toServer t fromMaster masterUuid replid reploff rand =
      some (s', b)) : PropagateInvariant { p with toServer := s' } := by
  obtain ⟨hup, -⟩ := serverReplStreamUpdateXsync_some hrun
  obtain ⟨L, hold, -⟩ := serverReplStreamUpdateXsync_outcome (Holding.self h.sets) ht hrun
  exact h.stream_kept hold.toSetsInvariant hup.offset hup.seq hold.executed_eq

/-- What a replica is fed by its master. -/
theorem PropagateInvariant.feedFromMaster [RedisReplication] {uuid : Option Uuid} {gno offset : Int}
    {n : Nat} (h : PropagateInvariant p) (hmulti : ¬ p.inMulti) (hn : 1 ≤ n)
    (hE : ∀ k, uuid = some k → 1 ≤ gno → (k, gno) ∈ contents p.gtidExecuted)
    (hv : (StreamOp.feedSlavesFromMasterStream uuid gno offset n).Valid p.toServer)
    (hrun : ctripReplicationFeedSlavesFromMasterStream p.toServer uuid gno offset n = some s') :
    PropagateInvariant { p with toServer := s' } := by
  let f : Feed := ⟨uuid.isSome && decide (gno ≥ GTID_GNO_INITIAL) && p.gtidSeq.isSome,
    uuid.getD [], gno, offset, n⟩
  have hrun : feedIndexed p.toServer f.touchIndex f.uuid f.gno f.offset f.n = some s' := hrun
  have hnext : p.nextOffset = p.masterReplOffset + 1 := if_neg hmulti
  -- what has been appended is above what was there, and below the next command
  have hbound : IndexSound (contents p.gtidExecuted) (if f.touchIndex then offset else p.nextOffset)
      p.gtidSeq := by
    split
    · next htouch =>
      obtain ⟨seq, seq₁, -, hseq, happend, -⟩ := (feedIndexed_some hrun).indexed htouch
      intro seq' hseq'
      obtain rfl := Option.some.inj (hseq.symm.trans hseq')
      obtain ⟨⟨l, c, hrep⟩, hentries⟩ := h.index seq hseq
      have hinc := gtidSeqAppend_increasing hrep.toFilled happend
      exact ⟨⟨l, c, hrep⟩, fun e he => ⟨(hentries e he).1, hinc e he⟩⟩
    · exact h.index
  obtain ⟨hmin, hmax, hoff⟩ := hv
  have htouch : f.touchIndex = true → p.gtidSeq.isSome ∧ (f.uuid, f.gno) ∈ contents p.gtidExecuted ∧
      (1 ≤ f.gno ∧ f.gno < LLONG_MAX) ∧
      (if f.touchIndex then offset else p.nextOffset) ≤ f.offset ∧
      f.offset < p.masterReplOffset + n + 1 := by
    intro htouch
    rw [if_pos htouch]
    simp only [f, Bool.and_eq_true] at htouch
    obtain ⟨⟨huuid, hone⟩, hseq⟩ := htouch
    obtain ⟨k, rfl⟩ := Option.isSome_iff_exists.mp huuid
    have hone : 1 ≤ gno := of_decide_eq_true hone
    have hmem := hE k rfl hone
    refine ⟨hseq, hmem, ⟨hone, h.sets.executed.lt_max hmem⟩, le_refl _, ?_⟩
    show offset < p.masterReplOffset + n + 1
    omega
  have hafter : (if f.touchIndex then offset else p.nextOffset) ≤ p.masterReplOffset + n + 1 := by
    split <;> omega
  obtain ⟨gtidSeq, hfeed, hsound⟩ := feedIndexed_spec f hbound hafter ⟨hmin, hmax⟩ htouch
  obtain rfl := Option.some.inj (hrun.symm.trans hfeed)
  have hzero := h.offset
  refine h.stream h.sets (Or.inr ⟨hmulti, ?_⟩) ?_
  · show 0 ≤ p.masterReplOffset + n
    omega
  · rw [nextOffset_out hmulti]
    exact hsound

/-- **An operation on the stream.** -/
theorem StreamOp.step_propagateInvariant [RedisReplication] (h : PropagateInvariant p)
    (hv : op.Valid p.toServer) (hreg : op.Regular p) (hrun : op.step p.toServer rand = some s') :
    PropagateInvariant { p with toServer := s' } := by
  cases op with
  | reset2Psync replid reploff =>
    obtain ⟨id, -, hreset⟩ := serverReplStreamReset2Psync_some hrun
    exact h.stream_emptied (hreset.sets ▸ h.sets)
      (Or.inr ⟨hreg, hreset.offset.symm ▸ hreset.nonneg⟩) hreset.emptied.seq
  | reset2Xsync replid reploff masterUuid t u newReplid =>
    obtain ⟨hmulti, ht, hu⟩ := hreg
    obtain ⟨hreset, hsets⟩ := serverReplStreamReset2Xsync_some hrun
    have hzero := h.offset
    refine h.stream_emptied (serverGtidSetReset_invariant h.sets ht hu hsets)
      (Or.inr ⟨hmulti, ?_⟩) hreset.emptied.seq
    rw [serverReplStreamReset2Xsync_offset hrun]
    split <;> omega
  | switch2Psync replid reploff =>
    obtain ⟨id, -, hsw⟩ := serverReplStreamSwitch2Psync_some hrun
    by_cases hoff : p.masterReplOffset = reploff
    · exact h.stream_kept (hsw.sets ▸ h.sets) (hsw.offset.trans hoff.symm) (hsw.kept hoff).2
        (by rw [hsw.sets])
    · exact h.stream_emptied (hsw.sets ▸ h.sets)
        (Or.inr ⟨hreg, hsw.offset.symm ▸ hsw.nonneg⟩) (hsw.emptied hoff).seq
  | switch2Xsync replid reploff masterUuid t u =>
    obtain ⟨id, -, hsw, hsets⟩ := serverReplStreamSwitch2Xsync_some hrun
    exact h.stream_emptied (serverGtidSetReset_invariant h.sets hreg.1 hreg.2 hsets)
      (Or.inl hsw.offset) hsw.seq
  | switchIfNeeded toMode newReplid newUuid =>
    rcases serverReplStreamSwitchIfNeeded_some hrun with ⟨-, rfl⟩ | hsw | ⟨s₁, hrenew, hsw, hsets⟩
    · exact h
    · exact h.stream_kept (hsw.sets ▸ h.sets) hsw.offset (hsw.kept rfl).2 (by rw [hsw.sets])
    · exact h.stream_emptied (serverGtidSetReset_invariant (renewUuid_sets h.sets hrenew).1
        regularSet_new.1 regularSet_new.1 hsets) (Or.inl hsw.offset) hsw.seq
  | updateFromMaster deltaLost masterUuid replid reploff =>
    obtain ⟨⟨s₁, b⟩, hup, rfl⟩ := Option.map_eq_some_iff.mp hrun
    exact h.update hreg hup
  | updateFromReplica deltaLost =>
    obtain ⟨⟨s₁, b⟩, hup, rfl⟩ := Option.map_eq_some_iff.mp hrun
    exact h.update hreg hup
  | feedSlaves uuid gno offset n => exact hreg.elim
  | feedSlavesFromMasterStream uuid gno offset n =>
    exact h.feedFromMaster hreg.1 hreg.2.1 hreg.2.2 hv hrun
  | createBacklog =>
    obtain ⟨-, -, heq⟩ := Option.bind_eq_some_iff.mp hrun
    rw [createReplicationBacklog_eq] at heq
    obtain rfl := Option.some.inj heq
    exact h.stream h.sets (Or.inl rfl) indexSound_create
  | resizeBacklog newsize =>
    obtain rfl := Option.some.inj hrun
    simp only [ctripResizeReplicationBacklog, resizeReplicationBacklog_eq]
    split
    · exact h.stream h.sets (Or.inl rfl) indexSound_create
    · exact h.stream_kept h.sets rfl rfl rfl
  | freeBacklog =>
    simp only [StreamOp.step, ctripFreeReplicationBacklog, freeReplicationBacklog_eq] at hrun
    obtain rfl := Option.some.inj hrun
    exact h.stream h.sets (Or.inl rfl) indexSound_none
  | changeSets sets => exact hreg.elim
  | changeLinks masterhost master cachedMaster =>
    obtain rfl := Option.some.inj hrun
    exact h.stream_kept h.sets rfl rfl rfl

end Stream

/-! ## The invariant -/

section Run
variable {redis : Redis} {p p' : PropagateServer} {fed : Option PropagateArgs} {op : PropagateOp}
  {rand : Rand}

/-- **One step.** -/
theorem PropagateOp.step_invariant [RedisReplication] (h : PropagateInvariant p)
    (hv : op.Valid redis p)
    (hroom : HasRoom p) (hrun : op.step redis p rand = some (p', fed)) : PropagateInvariant p' := by
  cases op with
  | call r dbid n =>
    obtain ⟨hr, hn, hmulti⟩ := hv
    obtain ⟨p₁, fed₁, hstep, hinv, -⟩ := h.call hr hn hmulti hroom.1 dbid rand
    obtain ⟨rfl, -⟩ := Prod.mk.inj (Option.some.inj (hrun.symm.trans hstep))
    exact hinv
  | write cmd dbid argv n =>
    obtain ⟨p₁, args, hstep, hinv, -⟩ := h.write redis hv.1 hv.2 hroom dbid argv rand
    obtain ⟨rfl, -⟩ := Prod.mk.inj (Option.some.inj (hrun.symm.trans hstep))
    exact hinv
  | beginMulti dbid =>
    obtain ⟨rfl, -⟩ := Prod.mk.inj (Option.some.inj hrun)
    have hzero := h.offset
    have hindex := h.index
    have hin : (XredisGtid.beginMulti p dbid).inMulti := hv.2
    rw [PropagateServer.nextOffset, if_neg hv.1] at hindex
    refine ⟨h.sets, h.offset, fun _ => ⟨?_, le_refl _⟩, ?_⟩
    · show 1 ≤ p.masterReplOffset + 1
      omega
    · rw [PropagateServer.nextOffset, if_pos hin]
      exact hindex
  | stream op =>
    obtain ⟨s', hstep, heq⟩ := Option.bind_eq_some_iff.mp hrun
    obtain ⟨rfl, -⟩ := Prod.mk.inj (Option.some.inj heq)
    exact StreamOp.step_propagateInvariant h hv.1 hv.2 hstep

/-- **Every run.** -/
theorem PropagateReachable.invariant [RedisReplication] (h : PropagateReachable redis p) :
    PropagateInvariant p := by
  induction h with
  | start hsets hoff hmulti hseq =>
    exact ⟨hsets, hoff, fun hin => absurd hin hmulti, hseq ▸ indexSound_none⟩
  | step op rand _ hv hroom hrun ih => exact PropagateOp.step_invariant ih hv hroom hrun

/-- The operations of clients. -/
def PropagateOp.IsCommand : PropagateOp → Prop
  | .stream _ => False
  | _ => True

/-- A master that has executed nothing, has a backlog and is going to rewrite what it runs. -/
theorem exists_propagateServer (redis : Redis) :
    ∃ p, PropagateReachable redis p ∧ HasRoom p ∧ ¬ p.inMulti ∧
      Holding p.toServerSets [65] ∅ ∅ ∧ nextGno p.gtidExecuted p.uuid = 1 ∧
      ¬ feedsAsIs p .other := by
  obtain ⟨e, hupdate, -⟩ := gtidSetCurrentUuidSetUpdate_spec regularSet_new.1 [65]
  obtain ⟨hold, hcur⟩ : Holding ⟨[65], e, gtidSetNew⟩ [65] ∅ ∅ ∧ e.curnext = 0 :=
    serverStart_spec ⟨hupdate, rfl⟩
  let p : PropagateServer :=
    ⟨masterServer ⟨[65], e, gtidSetNew⟩ .xsync 0 0, true, -1, -1⟩
  have hout : ¬ p.inMulti := (by decide : ¬ (0 : Int) ≤ -1)
  have hnext : nextGno e [65] = 1 := by
    have hempty : contents e = ∅ := hold.executed_eq
    rw [nextGno, if_pos hcur, hempty, maxGno_empty]
    rfl
  have hroom : HasRoom p := by
    refine ⟨(by decide : (0 : Int) < LLONG_MAX), ?_⟩
    show nextGno e [65] < LLONG_MAX
    rw [hnext]
    decide
  have hrewrites : ¬ feedsAsIs p .other := by
    rintro (h | h | h | h | h)
    · cases h
    · cases h
    · cases h
    · cases h
    · exact hout h.1
  have hstart : PropagateReachable redis p :=
    .start hold.toSetsInvariant (le_refl (0 : Int)) hout rfl
  exact ⟨_, .step (.stream .createBacklog) (fun _ => 0) hstart ⟨trivial, trivial⟩ hroom rfl, hroom,
    hout, hold, hnext, hrewrites⟩

end Run

end XredisGtid
