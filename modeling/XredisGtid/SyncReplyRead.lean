import XredisGtid.SyncReplyOptions
import XredisGtid.SyncRun

/-!
# What a replica does about a reply

The transitions assert what they need of a reply, and the parsers see to it that a valid
reply has it, with one exception: the fields of a CONTINUE reply are optional, and the
switch from xsync to psync that the reply causes needs them.
-/
namespace XredisGtid
open Buffer Decimal

/-! ## The fields of a reply -/

/-- The value of an option can be used. -/
def ReplyOption.InRange : ReplyOption → Bytes → Prop
  | .gtidSet, v | .gtidLost, v => ∃ rand g, gtidSetDecode (v ++ [0]) 0 v.length rand = some (some g)
  | .masterUuid, _ => True
  | .replid, v => v.length = CONFIG_RUN_ID_SIZE
  | .reploff, v => 0 ≤ strtoll v

/-- The values that are given for an option. -/
def optionValues (options : List ReplyOption) (option : ReplyOption) : List Bytes → List Bytes
  | token :: value :: tokens =>
    if replyOption options token = some option then value :: optionValues options option tokens
    else optionValues options option tokens
  | _ => []

namespace ReplyKind

/-- The options that have to be specified. -/
def required : ReplyKind → List ReplyOption
  | xfullresync => [.gtidLost, .masterUuid, .replid, .reploff]
  | xcontinue => [.gtidSet, .masterUuid, .replid, .reploff]

def tokens (sds : Sds) : ReplyKind → Bytes → List Bytes
  | xfullresync, reply => xfullresyncTokens sds reply
  | xcontinue, reply => xcontinueTokens sds reply

end ReplyKind

/-- The fields of a reply with options are there and in range. -/
structure OptionsGiven (kind : ReplyKind) (tokens : List Bytes) : Prop where
  given : ∀ option ∈ kind.required, optionValues kind.options option tokens ≠ []
  inRange : ∀ option, ∀ v ∈ optionValues kind.options option tokens, option.InRange v

/-- The fields of a FULLRESYNC reply. -/
def FullresyncGiven (reply : Bytes) : Prop :=
  ∃ replid offset, afterSpace (cString reply) = some replid ∧ afterSpace replid = some offset ∧
    replid.length - offset.length - 1 = CONFIG_RUN_ID_SIZE ∧ 0 ≤ strtoll offset

/-- The fields of a CONTINUE reply. -/
def ContinueGiven (reply : Bytes) : Prop :=
  (continueReplid reply).length = CONFIG_RUN_ID_SIZE ∧
    ∃ x, number (continueReploff reply) = some x ∧ 0 ≤ x

/-- A field that the transition in a mode needs is missing or out of range.  A CONTINUE reply in
psync mode is left to Redis. -/
inductive LacksField (sds : Sds) (mode : Mode) (reply : Bytes) : Prop
  | options (kind : ReplyKind) : kind.head <+: reply →
      ¬ OptionsGiven kind (kind.tokens sds reply) → LacksField sds mode reply
  | fullresync : FULLRESYNC <+: reply → ¬ FullresyncGiven reply → LacksField sds mode reply
  | «continue» : CONTINUE <+: reply → mode = .xsync → ¬ ContinueGiven reply →
      LacksField sds mode reply

/-! ## Which parser a reply is given to -/

section Heads
variable {sds : Sds} {kind : ReplyKind} {reply : Bytes} {rand : Rand} {parsed : ParsedSyncReply}

/-- Texts that differ at a place are not the beginning of one text. -/
theorem not_prefix_of_ne {a b : Bytes} (h : a <+: reply) (i : Nat) (ha : i < a.length)
    (hb : i < b.length) (hne : a[i] ≠ b[i]) : ¬ b <+: reply := by
  intro hb'
  have h₁ := List.IsPrefix.getElem h ha
  have h₂ := List.IsPrefix.getElem hb' hb
  exact hne (h₁.trans h₂.symm)

theorem parseSyncReply_head (h : kind.head <+: reply) :
    parseSyncReply sds reply rand =
      parseReplyOptions kind.options kind.parsedOf (kind.tokens sds reply) rand := by
  cases kind with
  | xfullresync =>
    simp only [ReplyKind.head] at h
    rw [parseSyncReply, if_pos h]
    rfl
  | xcontinue =>
    simp only [ReplyKind.head] at h
    have hx : ¬ XFULLRESYNC <+: reply := not_prefix_of_ne h 2 (by decide) (by decide) (by decide)
    rw [parseSyncReply, if_neg hx, if_pos h]
    rfl

theorem parseSyncReply_fullresync (h : FULLRESYNC <+: reply) :
    parseSyncReply sds reply rand = some (parseSyncReplyFullresync reply) := by
  have hx : ¬ XFULLRESYNC <+: reply := not_prefix_of_ne h 1 (by decide) (by decide) (by decide)
  have hc : ¬ XCONTINUE <+: reply := not_prefix_of_ne h 1 (by decide) (by decide) (by decide)
  rw [parseSyncReply, if_neg hx, if_neg hc, if_pos h]

theorem parseSyncReply_continue (h : CONTINUE <+: reply) :
    parseSyncReply sds reply rand = parseSyncReplyContinue reply := by
  have hx : ¬ XFULLRESYNC <+: reply := not_prefix_of_ne h 1 (by decide) (by decide) (by decide)
  have hc : ¬ XCONTINUE <+: reply := not_prefix_of_ne h 1 (by decide) (by decide) (by decide)
  have hf : ¬ FULLRESYNC <+: reply := not_prefix_of_ne h 1 (by decide) (by decide) (by decide)
  rw [parseSyncReply, if_neg hx, if_neg hc, if_neg hf, if_pos h]

end Heads

/-! ## What a valid reply has -/

section Options
variable {sds : Sds} {kind : ReplyKind} {options : List ReplyOption} {option : ReplyOption}
  {value reply : Bytes} {fields fields' : ReplyFields} {tokens : List Bytes} {rand : Rand}
  {parsed : ParsedSyncReply}

/-- The field of an option has been set. -/
def ReplyFields.Has (fields : ReplyFields) : ReplyOption → Prop
  | .gtidSet => fields.gtidCont.isSome
  | .gtidLost => fields.gtidLost.isSome
  | .masterUuid => fields.masterUuid.isSome
  | .replid => fields.replid.isSome
  | .reploff => 0 ≤ fields.reploff

theorem noFields_has : ¬ noFields.Has option := by
  cases option <;> simp [ReplyFields.Has, noFields]

/-- **One option** sets its own field, to a value in range. -/
theorem setField_ok (h : setField fields option value rand = some (.ok fields')) :
    option.InRange value ∧ ∀ o, fields'.Has o → o = option ∨ fields.Has o := by
  cases option with
  | gtidSet =>
    rw [setField] at h
    obtain ⟨r, hdecode, h⟩ := Option.bind_eq_some_iff.mp h
    cases r with
    | none => cases h
    | some g =>
      obtain rfl := Except.ok.inj (Option.some.inj h)
      refine ⟨⟨rand, g, hdecode⟩, fun o ho => ?_⟩
      cases o with
      | gtidSet => exact Or.inl rfl
      | _ => exact Or.inr ho
  | gtidLost =>
    rw [setField] at h
    obtain ⟨r, hdecode, h⟩ := Option.bind_eq_some_iff.mp h
    cases r with
    | none => cases h
    | some g =>
      obtain rfl := Except.ok.inj (Option.some.inj h)
      refine ⟨⟨rand, g, hdecode⟩, fun o ho => ?_⟩
      cases o with
      | gtidLost => exact Or.inl rfl
      | _ => exact Or.inr ho
  | masterUuid =>
    obtain rfl := Except.ok.inj (Option.some.inj h)
    refine ⟨trivial, fun o ho => ?_⟩
    cases o with
    | masterUuid => exact Or.inl rfl
    | _ => exact Or.inr ho
  | replid =>
    rw [setField] at h
    split at h
    · cases h
    · rename_i hlen
      obtain rfl := Except.ok.inj (Option.some.inj h)
      refine ⟨not_not.mp hlen, fun o ho => ?_⟩
      cases o with
      | replid => exact Or.inl rfl
      | _ => exact Or.inr ho
  | reploff =>
    rw [setField] at h
    split at h
    · cases h
    · rename_i hoff
      obtain rfl := Except.ok.inj (Option.some.inj h)
      refine ⟨Int.not_lt.mp hoff, fun o ho => ?_⟩
      cases o with
      | reploff => exact Or.inl rfl
      | _ => exact Or.inr ho

/-- **All options**: the fields that are set have been given, and what is given is in range. -/
theorem parseFields_ok (h : parseFields options tokens fields rand = some (.ok fields')) :
    (∀ o, ∀ v ∈ optionValues options o tokens, o.InRange v) ∧
      ∀ o, fields'.Has o → optionValues options o tokens ≠ [] ∨ fields.Has o := by
  induction tokens using List.twoStepInduction generalizing fields rand with
  | nil =>
    obtain rfl := Except.ok.inj (Option.some.inj h)
    exact ⟨fun o v hv => absurd hv List.not_mem_nil, fun o ho => Or.inr ho⟩
  | singleton t =>
    obtain rfl := Except.ok.inj (Option.some.inj h)
    exact ⟨fun o v hv => absurd hv List.not_mem_nil, fun o ho => Or.inr ho⟩
  | cons_cons t v tokens ih =>
    rw [parseFields] at h
    simp only [optionValues]
    cases hoption : replyOption options t with
    | none =>
      rw [hoption] at h
      simp only [reduceCtorEq, if_false]
      exact ih h
    | some option =>
      rw [hoption] at h
      obtain ⟨r, hset, h⟩ := Option.bind_eq_some_iff.mp h
      cases r with
      | error errmsg => cases h
      | ok fields₁ =>
        obtain ⟨hrange, hhas⟩ := setField_ok hset
        obtain ⟨hranges, hgiven⟩ := ih h
        refine ⟨fun o w hw => ?_, fun o ho => ?_⟩
        · split at hw
          · next heq =>
            obtain rfl := Option.some.inj heq
            rcases List.mem_cons.mp hw with rfl | hw
            · exact hrange
            · exact hranges _ w hw
          · exact hranges o w hw
        · split
          · exact Or.inl (List.cons_ne_nil _ _)
          · next hne =>
            rcases hgiven o ho with hgiven | hfield
            · exact Or.inl hgiven
            · exact Or.inr ((hhas o hfield).resolve_left (fun heq => hne (heq ▸ rfl)))

/-- What is required is there. -/
theorem parsedOf_has (h : (kind.parsedOf fields).isInvalid = false) :
    ∀ o ∈ kind.required, fields.Has o := by
  cases kind with
  | xfullresync =>
    simp only [ReplyKind.parsedOf, xfullresyncOf] at h
    split at h
    · cases h
    · cases h
    · cases h
    · rename_i huuid hl hid
      split at h
      · cases h
      · rename_i hoff
        simp [ReplyKind.required, ReplyFields.Has, huuid, hl, hid, Int.not_lt.mp hoff]
  | xcontinue =>
    simp only [ReplyKind.parsedOf, xcontinueOf] at h
    split at h
    · cases h
    · cases h
    · cases h
    · rename_i huuid hc hid
      split at h
      · cases h
      · rename_i hoff
        simp [ReplyKind.required, ReplyFields.Has, huuid, hc, hid, Int.not_lt.mp hoff]

/-- **A valid reply with options has all that is required.** -/
theorem parseReplyOptions_given
    (h : parseReplyOptions kind.options kind.parsedOf tokens rand = some parsed)
    (hvalid : parsed.isInvalid = false) : OptionsGiven kind tokens := by
  rw [parseReplyOptions] at h
  obtain ⟨r, hparse, h⟩ := Option.bind_eq_some_iff.mp h
  cases r with
  | error errmsg =>
    obtain rfl := Option.some.inj h
    cases hvalid
  | ok fields =>
    obtain rfl := Option.some.inj h
    obtain ⟨hrange, hgiven⟩ := parseFields_ok hparse
    exact ⟨fun o ho => (hgiven o (parsedOf_has hvalid o ho)).resolve_right noFields_has, hrange⟩

end Options

/-! ## CONTINUE replies -/

section Continue
variable {sds : Sds} {reply : Bytes} {rand : Rand} {parsed : ParsedSyncReply}

/-- A reply whose replid or reploff fails an assertion of the switch to psync. -/
def ContinueAborts (reply : Bytes) : Prop :=
  continueReplid reply = [] ∨
    (continueReplid reply).length = CONFIG_RUN_ID_SIZE ∧
      ∃ x < 0, number (continueReploff reply) = some x

/-- Also one without a reploff. -/
def ContinueIncomplete (reply : Bytes) : Prop :=
  ContinueAborts reply ∨
    (continueReplid reply).length = CONFIG_RUN_ID_SIZE ∧ continueReploff reply = []

/-- A text up to the end of a line, and the byte that ends it. -/
theorem takeWhile_end (p : UInt8 → Bool) (l : Bytes) :
    ∃ c, (c = 0 ∨ p c = false) ∧ l.takeWhile p ++ [c] <+: l ++ [0] := by
  induction l with
  | nil => exact ⟨0, Or.inl rfl, List.prefix_refl _⟩
  | cons a l ih =>
    cases hp : p a with
    | true =>
      obtain ⟨c, hc, hprefix⟩ := ih
      refine ⟨c, hc, ?_⟩
      rw [List.takeWhile_cons_of_pos hp, List.cons_append, List.cons_append]
      exact List.cons_prefix_cons.mpr ⟨rfl, hprefix⟩
    | false =>
      refine ⟨a, Or.inr hp, ?_⟩
      rw [List.takeWhile_cons_of_neg (by rw [hp]; exact Bool.false_ne_true)]
      exact List.cons_prefix_cons.mpr ⟨rfl, List.nil_prefix⟩

/-- The reploff is read up to the end of the line. -/
theorem string2ll_continueRest (reply : Bytes) :
    string2ll (continueRest reply ++ [0]) 0 (continueReploff reply).length =
      some (number (continueReploff reply)) := by
  obtain ⟨c, hc, hprefix⟩ := takeWhile_end (fun c => !isLineEnd c) (continueRest reply)
  have hdigit : ∀ c ∈ 0 :: crlf, ¬ IsDigit c := by decide +kernel
  refine string2ll_text hprefix (hdigit c (List.mem_cons.mpr ?_))
  rcases hc with rfl | hc
  · exact Or.inl rfl
  · rw [Bool.not_eq_false', isLineEnd, decide_eq_true_iff] at hc
    exact hc.symm

theorem parseSyncReplyContinue_noReplid (h : continueReplid reply = []) :
    parseSyncReplyContinue reply = some (.pcontinue none false 0) := by
  rw [parseSyncReplyContinue, if_pos h]

theorem parseSyncReplyContinue_replid (hne : continueReplid reply ≠ [])
    (h : (continueReplid reply).length ≠ CONFIG_RUN_ID_SIZE) :
    parseSyncReplyContinue reply = some (.invalid none) := by
  rw [parseSyncReplyContinue, if_neg hne, if_pos h]

theorem parseSyncReplyContinue_noReploff (h : (continueReplid reply).length = CONFIG_RUN_ID_SIZE)
    (hoff : continueReploff reply = []) :
    parseSyncReplyContinue reply = some (.pcontinue (some (continueReplid reply)) false 0) := by
  have hne : continueReplid reply ≠ [] := fun he => by rw [he] at h; exact absurd h (by decide)
  rw [parseSyncReplyContinue, if_neg hne, if_neg (not_not.mpr h), if_pos hoff]

theorem parseSyncReplyContinue_reploff (h : (continueReplid reply).length = CONFIG_RUN_ID_SIZE)
    (hoff : continueReploff reply ≠ []) :
    parseSyncReplyContinue reply = some (
      match number (continueReploff reply) with
      | none => .invalid (some (.reploffOf reply))
      | some reploff => .pcontinue (some (continueReplid reply)) true reploff) := by
  have hne : continueReplid reply ≠ [] := fun he => by rw [he] at h; exact absurd h (by decide)
  rw [parseSyncReplyContinue, if_neg hne, if_neg (not_not.mpr h), if_neg hoff,
    string2ll_continueRest]
  cases number (continueReploff reply) <;> rfl

end Continue

/-! ## The replica -/

/-- A replica in psync mode, or in xsync mode without links to a master.  The rest holds in every
run. -/
structure ReplicaState (s : Server) : Prop where
  modes : ReplModeInvariant s
  indexed : s.gtidSeq.isSome = s.replBacklog.created
  links : s.replMode.mode = .xsync → ¬ s.master ∧ ¬ s.cachedMaster

/-- The functions of gtid sets that are called on the way return. -/
structure SetFunctionsReturn (sds : Sds) (server : Server) (reply : Bytes) (rand : Rand) : Prop where
  parse : (parseSyncReply sds reply (rand.sub 0)).isSome
  psyncXcontinue : server.replMode.mode = .psync → ∀ gtidCont gtidLost masterUuid replid reploff,
    parseSyncReply sds reply (rand.sub 0) =
      some (.xcontinue gtidCont gtidLost masterUuid replid reploff) →
    ∃ replyExecuted sets,
      gtidSetDupDiff gtidCont gtidLost ((rand.sub 1).sub 0) = some replyExecuted ∧
      serverGtidSetReset server.toServerSets replyExecuted gtidLost ((rand.sub 1).sub 1) = some sets
  xsyncXcontinue : server.replMode.mode = .xsync → ∀ gtidCont gtidLost masterUuid replid reploff,
    parseSyncReply sds reply (rand.sub 0) =
      some (.xcontinue gtidCont gtidLost masterUuid replid reploff) →
    ∃ gtidSlave gtidSlost r,
      serverGtidSetGet server.toServerSets ((rand.sub 1).sub 0) = some gtidSlave ∧
      gtidSetDupDiff gtidCont gtidSlave ((rand.sub 1).sub 1) = some gtidSlost ∧
      updateLost server gtidSlost ((rand.sub 1).sub 2) = some r

/-- No assertion fails. -/
def ReadReturns [RedisReplication] (sds : Sds) (server : Server) (reply : Bytes) (rand : Rand) :
    Prop :=
  SetFunctionsReturn sds server reply rand →
    ∃ out, slaveTryPartialResynchronizationRead sds server reply rand = some out

/-- And a reply that lacks what is needed is treated as invalid. -/
def ReadSafe [RedisReplication] (sds : Sds) (server : Server) (reply : Bytes) (rand : Rand) :
    Prop :=
  SetFunctionsReturn sds server reply rand →
    ∃ out, slaveTryPartialResynchronizationRead sds server reply rand = some out ∧
      (LacksField sds server.replMode.mode reply → out = fallbackToFullresync server)

section Runs
variable {init : Server → Prop} {cond : Server → StreamOp → Prop} {s s' : Server} {op : StreamOp}
  {rand : Rand}

theorem EmptiedBacklog.indexed (h : EmptiedBacklog s s')
    (hs : s.gtidSeq.isSome = s.replBacklog.created) :
    s'.gtidSeq.isSome = s'.replBacklog.created := by
  rw [h.seq, h.backlog, Option.isSome_map, hs]
  split
  · next hcreated => exact hcreated
  · rfl

/-- **One step** leaves an index where there is a backlog. -/
theorem StreamEffect.indexed (heff : StreamEffect s op s')
    (hs : s.gtidSeq.isSome = s.replBacklog.created) :
    s'.gtidSeq.isSome = s'.replBacklog.created := by
  cases heff with
  | reset2Psync id reploff hreset => exact hreset.emptied.indexed hs
  | reset2Xsync replid reploff hreset => exact hreset.emptied.indexed hs
  | switched2Psync id reploff hsw =>
    by_cases hoff : s.masterReplOffset = reploff
    · obtain ⟨hbacklog, hseq⟩ := hsw.kept hoff
      rw [hbacklog, hseq, hs]
    · exact (hsw.emptied hoff).indexed hs
  | switched2Xsync id reploff hsw => rw [hsw.backlog, hsw.seq, Option.isSome_map, hs]
  | updated hup => rw [hup.backlog, hup.seq, hs]
  | fed f hf hfed =>
    have hcreated : s'.replBacklog.created = s.replBacklog.created := by
      rw [hfed.backlog, ReplBacklog.feed]
      split
      · rfl
      · rfl
    cases htouch : f.touchIndex with
    | false => rw [hfed.untouched htouch, hcreated, hs]
    | true =>
      obtain ⟨seq, -, seq', hseq, -, -, hseq'⟩ := hfed.indexed htouch
      rw [hseq', hcreated, ← hs, hseq]
      rfl
  | backlog hsame hsize hbacklog =>
    cases hbacklog with
    | emptied hcreated hhistlen hoff hseq =>
      rw [hseq, hcreated]
      rfl
    | freed hcreated hseq =>
      rw [hseq, hcreated]
      rfl
    | kept hcreated hhistlen hoff hseq => rw [hseq, hcreated, hs]

/-- **Every run** leads to a replica in that state, if there are no links in xsync mode. -/
theorem StreamReachable.replicaState [RedisReplication] (h : StreamReachable Paired cond s)
    (hlinks : s.replMode.mode = .xsync → ¬ s.master ∧ ¬ s.cachedMaster) : ReplicaState s := by
  refine ⟨h.replModeInvariant, ?_, hlinks⟩
  clear hlinks
  induction h with
  | start op rand hinit hop hrun => exact (StreamOp.step_effect hrun).indexed hinit.1
  | step op rand _ _ _ hrun ih => exact (StreamOp.step_effect hrun).indexed ih

end Runs

/-! ## The transitions of a replica -/

section Transitions
variable {s s' : Server} {t u : GtidSet} {id : Bytes} {replid masterUuid : Option Bytes}
  {reploff : Int} {rand : Rand}

theorem serverReplStreamSwitch2Psync_cachedMaster [RedisReplication]
    (h : serverReplStreamSwitch2Psync s replid reploff = some s') : ¬ s'.cachedMaster := by
  simp only [serverReplStreamSwitch2Psync, clearReplicationId2_eq, Option.bind_eq_bind,
    Option.bind_eq_some_iff, Option.guard_eq_some', exists_const] at h
  obtain ⟨-, hmaster, id, -, -, s₁, hset, -, s₂, hshift, heq⟩ := h
  obtain ⟨-, rfl⟩ := ctripSetMasterReploff_some hset
  obtain ⟨-, -, rfl⟩ := shiftServerReplMode_some hshift
  obtain rfl := Option.some.inj heq
  have hbump : (bumpMasterReplOffset s reploff).cachedMaster = s.cachedMaster := by
    rw [bumpMasterReplOffset]
    split
    · rfl
    · rfl
  show ¬ (bumpMasterReplOffset s reploff).cachedMaster
  rw [hbump]
  exact hmaster.2

/-- Without a replid, or with a negative offset, the switch to psync aborts. -/
theorem serverReplStreamSwitch2Psync_none [RedisReplication] (h : replid = none ∨ reploff < 0) :
    serverReplStreamSwitch2Psync s replid reploff = none := by
  rw [Option.eq_none_iff_forall_ne_some]
  intro s' hs'
  obtain ⟨id, hid, hsw⟩ := serverReplStreamSwitch2Psync_some hs'
  rcases h with hnone | hneg
  · exact nomatch hnone.symm.trans hid
  · exact absurd hsw.nonneg (Int.not_le.mpr hneg)

theorem serverReplStreamSwitch2Xsync_cachedMaster [RedisReplication]
    (h : serverReplStreamSwitch2Xsync s replid reploff masterUuid t u rand = some s') :
    ¬ s'.cachedMaster := by
  simp only [serverReplStreamSwitch2Xsync, replicationDiscardCachedMaster_eq, Option.bind_eq_bind,
    Option.bind_eq_some_iff, Option.guard_eq_some', exists_const] at h
  obtain ⟨-, -, s₁, -, id, -, s₂, -, uuid, -, sets, -, heq⟩ := h
  obtain rfl := Option.some.inj heq
  exact Bool.false_ne_true

theorem serverReplStreamUpdateXsync_cachedMaster {fromMaster b : Bool}
    (h : serverReplStreamUpdateXsync s t fromMaster masterUuid replid reploff rand = some (s', b)) :
    s'.cachedMaster = s.cachedMaster := by
  simp only [serverReplStreamUpdateXsync, Option.bind_eq_bind, Option.bind_eq_some_iff,
    Prod.exists, Option.some.injEq, Prod.mk.injEq] at h
  obtain ⟨s₁, b₁, hlost, s₂, b₂, huuid, s₃, b₃, hid, s₄, b₄, hoff, rfl, -⟩ := h
  rw [(updateReploff_some hoff).1, (updateReplid_some hid).1, updateMasterUuid_some huuid,
    (updateLost_some hlost).1]
  rfl

theorem serverReplStreamResurrectCreate_isSome [RedisReplication] (hcached : ¬ s.cachedMaster)
    (hindexed : s.gtidSeq.isSome = s.replBacklog.created) (id : Bytes) (hreploff : 0 ≤ reploff) :
    ∃ s', serverReplStreamResurrectCreate s (some id) reploff = some s' := by
  simp only [serverReplStreamResurrectCreate, ctripCreateReplicationBacklog, Option.bind_eq_bind,
    Option.bind_eq_some_iff, Option.guard_eq_some', exists_const, Option.isSome_some, true_and]
  cases hcreated : s.replBacklog.created with
  | true => exact ⟨_, hcached, hreploff, rfl⟩
  | false =>
    have hnone : s.gtidSeq = none := Option.not_isSome_iff_eq_none.mp (by simp [hindexed, hcreated])
    simp only [hnone, Bool.false_eq_true, if_false, Option.bind_eq_some_iff, Option.guard_eq_some',
      exists_const]
    exact ⟨_, hcached, hreploff, rfl, rfl⟩

end Transitions

/-! ## Reading a reply -/

section Read
variable {sds : Sds} {kind : ReplyKind} {fields : ReplyFields} {server : Server}
  {reply : Bytes} {rand : Rand} {parsed : ParsedSyncReply}

/-- What the transition that a reply causes asserts of it. -/
def ParsedSyncReply.Ready : ParsedSyncReply → Prop
  | .pcontinue replid _ reploff => replid.isSome ∧ 0 ≤ reploff
  | .xcontinue _ _ _ _ reploff => 0 ≤ reploff
  | _ => True

theorem parsedOf_ready : (kind.parsedOf fields).Ready := by
  cases kind with
  | xfullresync =>
    simp only [ReplyKind.parsedOf, xfullresyncOf]
    split
    · trivial
    · trivial
    · trivial
    · split
      · trivial
      · trivial
  | xcontinue =>
    simp only [ReplyKind.parsedOf, xcontinueOf]
    split
    · trivial
    · trivial
    · trivial
    · split
      · trivial
      · next hoff => exact Int.not_lt.mp hoff

theorem parseReplyOptions_ready (kind : ReplyKind) {tokens : List Bytes}
    (h : parseReplyOptions kind.options kind.parsedOf tokens rand = some parsed) : parsed.Ready := by
  rw [parseReplyOptions] at h
  obtain ⟨r, -, h⟩ := Option.bind_eq_some_iff.mp h
  cases r with
  | error errmsg =>
    obtain rfl := Option.some.inj h
    trivial
  | ok fields =>
    obtain rfl := Option.some.inj h
    exact parsedOf_ready

theorem parseSyncReplyFullresync_ready : (parseSyncReplyFullresync reply).Ready := by
  rw [parseSyncReplyFullresync]
  dsimp only
  split
  · split
    · trivial
    · split
      · trivial
      · trivial
  · trivial

/-- A CONTINUE reply is the only one that may lack what is asserted. -/
theorem parseSyncReplyContinue_ready (h : parseSyncReplyContinue reply = some parsed) :
    parsed.Ready ∨ ContinueAborts reply ∧
      ∃ replid isSet reploff, parsed = .pcontinue replid isSet reploff := by
  by_cases hnone : continueReplid reply = []
  · rw [parseSyncReplyContinue_noReplid hnone] at h
    exact Or.inr ⟨Or.inl hnone, none, false, 0, (Option.some.inj h).symm⟩
  by_cases hlen : (continueReplid reply).length = CONFIG_RUN_ID_SIZE
  · by_cases hoff : continueReploff reply = []
    · rw [parseSyncReplyContinue_noReploff hlen hoff] at h
      obtain rfl := Option.some.inj h
      exact Or.inl ⟨rfl, le_refl 0⟩
    · rw [parseSyncReplyContinue_reploff hlen hoff] at h
      obtain rfl := Option.some.inj h
      cases hnumber : number (continueReploff reply) with
      | none => exact Or.inl trivial
      | some reploff =>
        by_cases hneg : reploff < 0
        · exact Or.inr ⟨Or.inr ⟨hlen, reploff, hneg, hnumber⟩, _, _, _, rfl⟩
        · exact Or.inl ⟨rfl, Int.not_lt.mp hneg⟩
  · rw [parseSyncReplyContinue_replid hnone hlen] at h
    obtain rfl := Option.some.inj h
    exact Or.inl trivial

theorem parseSyncReply_ready (h : parseSyncReply sds reply rand = some parsed) :
    parsed.Ready ∨ (CONTINUE <+: reply ∧ ContinueAborts reply) ∧
      ∃ replid isSet reploff, parsed = .pcontinue replid isSet reploff := by
  rw [parseSyncReply] at h
  split at h
  · exact Or.inl (parseReplyOptions_ready .xfullresync h)
  split at h
  · exact Or.inl (parseReplyOptions_ready .xcontinue h)
  split at h
  · obtain rfl := Option.some.inj h
    exact Or.inl parseSyncReplyFullresync_ready
  split at h
  · next hcont =>
    exact (parseSyncReplyContinue_ready h).imp_right (fun hfail => ⟨⟨hcont, hfail.1⟩, hfail.2⟩)
  split at h
  · obtain rfl := Option.some.inj h
    exact Or.inl trivial
  split at h
  · obtain rfl := Option.some.inj h
    exact Or.inl trivial
  · obtain rfl := Option.some.inj h
    exact Or.inl trivial

theorem parseSyncReplyContinue_aborts (h : ContinueAborts reply) :
    ∃ replid isSet reploff, parseSyncReplyContinue reply = some (.pcontinue replid isSet reploff) ∧
      (replid = none ∨ reploff < 0) := by
  rcases h with hnone | ⟨hlen, reploff, hneg, hnumber⟩
  · exact ⟨_, _, _, parseSyncReplyContinue_noReplid hnone, Or.inl rfl⟩
  · have hoff : continueReploff reply ≠ [] := by
      intro hnil
      rw [hnil] at hnumber
      cases hnumber
    rw [parseSyncReplyContinue_reploff hlen hoff, hnumber]
    exact ⟨_, _, _, rfl, Or.inr hneg⟩

/-- A field that is missing makes a reply invalid, but not one of a CONTINUE reply. -/
theorem LacksField.isInvalid (h : LacksField sds server.replMode.mode reply)
    (hparse : parseSyncReply sds reply rand = some parsed)
    (hcont : server.replMode.mode = .xsync → CONTINUE <+: reply → ¬ ContinueIncomplete reply) :
    parsed.isInvalid = true := by
  cases h with
  | options kind hhead hlacks =>
    rw [parseSyncReply_head hhead] at hparse
    cases hvalid : parsed.isInvalid with
    | true => rfl
    | false => exact absurd (parseReplyOptions_given hparse hvalid) hlacks
  | fullresync hhead hlacks =>
    rw [parseSyncReply_fullresync hhead] at hparse
    obtain rfl := Option.some.inj hparse
    rw [parseSyncReplyFullresync]
    dsimp only
    split
    · next replid offset hreplid hoffset =>
      split
      · rfl
      · next hlen =>
        split
        · rfl
        · next hoff =>
          rw [hreplid, Option.bind_some] at hoffset
          exact absurd ⟨replid, offset, hreplid, hoffset, not_not.mp hlen, Int.not_lt.mp hoff⟩
            hlacks
    · rfl
  | «continue» hhead hmode hlacks =>
    rw [parseSyncReply_continue hhead] at hparse
    have hcomplete := hcont hmode hhead
    rw [ContinueIncomplete, ContinueAborts, not_or, not_or] at hcomplete
    obtain ⟨⟨hne, hneg⟩, hoff⟩ := hcomplete
    by_cases hlen : (continueReplid reply).length = CONFIG_RUN_ID_SIZE
    · have hoff' : continueReploff reply ≠ [] := fun hnil => hoff ⟨hlen, hnil⟩
      rw [parseSyncReplyContinue_reploff hlen hoff'] at hparse
      obtain rfl := Option.some.inj hparse
      cases hnumber : number (continueReploff reply) with
      | none => rfl
      | some reploff =>
        have hnonneg : 0 ≤ reploff :=
          Int.not_lt.mp (fun hlt => hneg ⟨hlen, reploff, hlt, hnumber⟩)
        exact absurd ⟨hlen, reploff, hnumber, hnonneg⟩ hlacks
    · rw [parseSyncReplyContinue_replid hne hlen] at hparse
      obtain rfl := Option.some.inj hparse
      rfl

theorem slaveTryPartialResynchronizationRead_invalid [RedisReplication]
    (hparse : parseSyncReply sds reply (rand.sub 0) = some parsed)
    (hinvalid : parsed.isInvalid = true) :
    slaveTryPartialResynchronizationRead sds server reply rand =
      some (fallbackToFullresync server) := by
  rw [slaveTryPartialResynchronizationRead, hparse]
  cases parsed with
  | invalid errmsg => rfl
  | _ => cases hinvalid

/-- **Outside of xsync mode** nothing but a XCONTINUE reply causes a transition here. -/
theorem slavePsyncRead_isSome [RedisReplication] (h : ReplicaState server)
    (hmode : server.replMode.mode = .psync) (hret : SetFunctionsReturn sds server reply rand)
    (hparse : parseSyncReply sds reply (rand.sub 0) = some parsed)
    (hready : parsed.Ready ∨ ∃ replid isSet reploff, parsed = .pcontinue replid isSet reploff) :
    ∃ out, slavePsyncRead server parsed (rand.sub 1) = some out := by
  cases parsed with
  | xcontinue gtidCont gtidLost masterUuid replid reploff =>
    have hoff : 0 ≤ reploff := hready.resolve_right (by rintro ⟨_, _, _, heq⟩; cases heq)
    obtain ⟨replyExecuted, sets, hdiff, hsets⟩ := hret.psyncXcontinue hmode _ _ _ _ _ hparse
    obtain ⟨s, hswitch⟩ := serverReplStreamSwitch2Xsync_isSome hmode (h.modes.delta hmode) replid
      masterUuid reploff hsets
    obtain ⟨id, -, hsw, -⟩ := serverReplStreamSwitch2Xsync_some hswitch
    have hindexed : s.gtidSeq.isSome = s.replBacklog.created := by
      rw [hsw.backlog, hsw.seq, Option.isSome_map, h.indexed]
    obtain ⟨s', hcreate⟩ := serverReplStreamResurrectCreate_isSome
      (serverReplStreamSwitch2Xsync_cachedMaster hswitch) hindexed replid hoff
    simp only [slavePsyncRead, slavePsyncXcontinue, hdiff, hswitch, hcreate, Option.bind_eq_bind,
      Option.bind_some]
    exact ⟨_, rfl⟩
  | _ => exact ⟨_, rfl⟩

/-- **In xsync mode** a reply that has what is asserted of it causes its transition. -/
theorem slaveXsyncRead_isSome [RedisReplication] (h : ReplicaState server)
    (hmode : server.replMode.mode = .xsync) (hret : SetFunctionsReturn sds server reply rand)
    (hparse : parseSyncReply sds reply (rand.sub 0) = some parsed) (hready : parsed.Ready) :
    ∃ out, slaveXsyncRead server parsed (rand.sub 1) = some out := by
  have hlinks : ¬ server.cachedMaster ∧ ¬ server.master := (h.links hmode).symm
  simp only [slaveXsyncRead, guard, if_pos hlinks, Option.pure_def, Option.bind_eq_bind,
    Option.bind_some]
  cases parsed with
  | pcontinue replid isSet reploff =>
    obtain ⟨hid, hoff⟩ := hready
    obtain ⟨id, rfl⟩ := Option.isSome_iff_exists.mp hid
    obtain ⟨s, hswitch⟩ := serverReplStreamSwitch2Psync_isSome hmode (h.links hmode) hoff id
    obtain ⟨_, -, hsw⟩ := serverReplStreamSwitch2Psync_some hswitch
    have heff : StreamEffect server (.switch2Psync id reploff) s := .switched2Psync _ _ hsw
    have hindexed := heff.indexed h.indexed
    obtain ⟨s', hcreate⟩ := serverReplStreamResurrectCreate_isSome
      (serverReplStreamSwitch2Psync_cachedMaster hswitch) hindexed id hoff
    simp only [hswitch, hcreate, Option.bind_some]
    exact ⟨_, rfl⟩
  | xcontinue gtidCont gtidLost masterUuid replid reploff =>
    have hoff : 0 ≤ reploff := hready
    obtain ⟨gtidSlave, gtidSlost, r, hget, hdiff, hlost⟩ :=
      hret.xsyncXcontinue hmode _ _ _ _ _ hparse
    obtain ⟨s, b, hupdate⟩ : ∃ s b, serverReplStreamUpdateXsync server gtidSlost true
        (some masterUuid) (some replid) reploff ((rand.sub 1).sub 2) = some (s, b) :=
      serverReplStreamUpdateXsync_isSome hlost (Or.inl hmode) (Or.inr ⟨rfl, hmode⟩)
    have hup := (serverReplStreamUpdateXsync_some hupdate).1
    have hindexed : s.gtidSeq.isSome = s.replBacklog.created := by
      rw [hup.backlog, hup.seq, h.indexed]
    have hcached : ¬ s.cachedMaster := by
      rw [serverReplStreamUpdateXsync_cachedMaster hupdate]
      exact hlinks.1
    obtain ⟨s', hcreate⟩ := serverReplStreamResurrectCreate_isSome hcached hindexed replid hoff
    simp only [slaveXsyncXcontinue, hget, hdiff, hupdate, hcreate, Option.bind_eq_bind,
      Option.bind_some]
    exact ⟨_, rfl⟩
  | _ => exact ⟨_, rfl⟩

/-- A valid reply is followed in the mode of the replica. -/
theorem slaveTryPartialResynchronizationRead_isSome [RedisReplication]
    (hparse : parseSyncReply sds reply (rand.sub 0) = some parsed)
    (hpsync : server.replMode.mode ≠ .xsync →
      ∃ out, slavePsyncRead server parsed (rand.sub 1) = some out)
    (hxsync : server.replMode.mode = .xsync →
      ∃ out, slaveXsyncRead server parsed (rand.sub 1) = some out) :
    ∃ out, slaveTryPartialResynchronizationRead sds server reply rand = some out := by
  rw [slaveTryPartialResynchronizationRead, hparse, Option.bind_eq_bind, Option.bind_some]
  have hfollow : ∃ out, (if server.replMode.mode ≠ .xsync then
      slavePsyncRead server parsed (rand.sub 1)
      else slaveXsyncRead server parsed (rand.sub 1)) = some out := by
    split
    · next hmode => exact hpsync hmode
    · next hmode => exact hxsync (not_not.mp hmode)
  cases parsed with
  | invalid errmsg => exact ⟨_, rfl⟩
  | transerr => exact ⟨_, rfl⟩
  | transerr2 => exact ⟨_, rfl⟩
  | _ => exact hfollow

/-- **No assertion fails** but those about the fields of a CONTINUE reply. -/
theorem readReturns_of_not_aborts [RedisReplication] (h : ReplicaState server)
    (hcont : server.replMode.mode = .xsync → CONTINUE <+: reply → ¬ ContinueAborts reply) :
    ReadReturns sds server reply rand := by
  intro hret
  obtain ⟨parsed, hparse⟩ := Option.isSome_iff_exists.mp hret.parse
  have hready := parseSyncReply_ready hparse
  refine slaveTryPartialResynchronizationRead_isSome hparse (fun hmode => ?_) (fun hmode => ?_)
  · have hpsync : server.replMode.mode = .psync := by
      have hset := h.modes.set
      cases hcase : server.replMode.mode with
      | unset => exact absurd hcase hset
      | psync => rfl
      | xsync => exact absurd hcase hmode
    exact slavePsyncRead_isSome h hpsync hret hparse (hready.imp_right And.right)
  · exact slaveXsyncRead_isSome h hmode hret hparse
      (hready.resolve_right (fun hfail => hcont hmode hfail.1.1 hfail.1.2))

/-- A CONTINUE reply calls no functions of gtid sets. -/
theorem setFunctionsReturn_continue {replid : Option Bytes} {isSet : Bool} {reploff : Int}
    (hparse : ∀ rand, parseSyncReply sds reply rand = some (.pcontinue replid isSet reploff)) :
    SetFunctionsReturn sds server reply rand := by
  refine ⟨Option.isSome_of_eq_some (hparse _), ?_, ?_⟩
  · intro _ c l u id off h
    exact nomatch (hparse _).symm.trans h
  · intro _ c l u id off h
    exact nomatch (hparse _).symm.trans h

theorem slaveRead_continue [RedisReplication] {replid : Option Bytes} {isSet : Bool} {reploff : Int}
    {out : ReadOutcome} (hmode : server.replMode.mode = .xsync)
    (hparse : ∀ rand, parseSyncReply sds reply rand = some (.pcontinue replid isSet reploff))
    (hread : slaveTryPartialResynchronizationRead sds server reply rand = some out) :
    out.result = .continue ∧ ∃ s, serverReplStreamSwitch2Psync server replid reploff = some s := by
  rw [slaveTryPartialResynchronizationRead, hparse, Option.bind_eq_bind, Option.bind_some] at hread
  dsimp only at hread
  rw [if_neg (not_not.mpr hmode), slaveXsyncRead] at hread
  obtain ⟨_, -, hread⟩ := Option.bind_eq_some_iff.mp hread
  obtain ⟨s, hswitch, hread⟩ := Option.bind_eq_some_iff.mp hread
  obtain ⟨s', -, hread⟩ := Option.bind_eq_some_iff.mp hread
  obtain rfl := Option.some.inj hread
  exact ⟨rfl, s, hswitch⟩

/-- **Its fields that are asserted** abort the replica. -/
theorem not_readReturns_of_aborts [RedisReplication] (hmode : server.replMode.mode = .xsync)
    (hhead : CONTINUE <+: reply)
    (haborts : ContinueAborts reply) : ¬ ReadReturns sds server reply rand := by
  obtain ⟨replid, isSet, reploff, hcont, hbad⟩ := parseSyncReplyContinue_aborts haborts
  have hparse : ∀ rand, parseSyncReply sds reply rand = some (.pcontinue replid isSet reploff) :=
    fun _ => (parseSyncReply_continue hhead).trans hcont
  intro h
  obtain ⟨out, hread⟩ := h (setFunctionsReturn_continue hparse)
  obtain ⟨-, s, hswitch⟩ := slaveRead_continue hmode hparse hread
  exact nomatch (serverReplStreamSwitch2Psync_none hbad).symm.trans hswitch

theorem ReadSafe.returns [RedisReplication] (h : ReadSafe sds server reply rand) : ReadReturns sds
    server reply rand :=
  fun hret => (h hret).imp (fun _ hout => hout.1)

/-- **A reply without a reploff** is followed like one with the reploff zero. -/
theorem not_readSafe_of_incomplete [RedisReplication] (hmode : server.replMode.mode = .xsync)
    (hhead : CONTINUE <+: reply) (hlacks : ContinueIncomplete reply) :
    ¬ ReadSafe sds server reply rand := by
  rcases hlacks with haborts | ⟨hlen, hoff⟩
  · exact fun h => not_readReturns_of_aborts hmode hhead haborts h.returns
  have hparse : ∀ rand, parseSyncReply sds reply rand =
      some (.pcontinue (some (continueReplid reply)) false 0) :=
    fun _ => (parseSyncReply_continue hhead).trans (parseSyncReplyContinue_noReploff hlen hoff)
  have hgiven : ¬ ContinueGiven reply := by
    rintro ⟨-, x, hnumber, -⟩
    rw [hoff] at hnumber
    cases hnumber
  intro h
  obtain ⟨out, hread, hinvalid⟩ := h (setFunctionsReturn_continue hparse)
  obtain ⟨hresult, -⟩ := slaveRead_continue hmode hparse hread
  rw [hinvalid (.continue hhead hmode hgiven)] at hresult
  cases hresult

/-- **A reply aborts a replica** exactly when the replica is in xsync mode and the reply is a CONTINUE
reply without a replid or with a negative reploff.  Any other reply that lacks a field is treated as
invalid, except for a CONTINUE reply without a reploff. -/
theorem slaveTryPartialResynchronizationRead_safe_iff [RedisReplication] (h : ReplicaState server)
    (sds : Sds) (reply : Bytes) (rand : Rand) :
    (ReadReturns sds server reply rand ↔
      ¬ (server.replMode.mode = .xsync ∧ CONTINUE <+: reply ∧ ContinueAborts reply)) ∧
    (ReadSafe sds server reply rand ↔
      ¬ (server.replMode.mode = .xsync ∧ CONTINUE <+: reply ∧ ContinueIncomplete reply)) := by
  have hreturns : (server.replMode.mode = .xsync → CONTINUE <+: reply → ¬ ContinueAborts reply) →
      ReadReturns sds server reply rand := readReturns_of_not_aborts h
  refine ⟨⟨?_, ?_⟩, ?_, ?_⟩
  · rintro hread ⟨hmode, hhead, haborts⟩
    exact not_readReturns_of_aborts hmode hhead haborts hread
  · exact fun hcont => hreturns (fun hmode hhead haborts => hcont ⟨hmode, hhead, haborts⟩)
  · rintro hread ⟨hmode, hhead, hlacks⟩
    exact not_readSafe_of_incomplete hmode hhead hlacks hread
  · intro hcont hret
    have hcomplete : server.replMode.mode = .xsync → CONTINUE <+: reply →
        ¬ ContinueIncomplete reply :=
      fun hmode hhead hlacks => hcont ⟨hmode, hhead, hlacks⟩
    obtain ⟨out, hread⟩ :=
      hreturns (fun hmode hhead haborts => hcomplete hmode hhead (Or.inl haborts)) hret
    refine ⟨out, hread, fun hlacks => ?_⟩
    obtain ⟨parsed, hparse⟩ := Option.isSome_iff_exists.mp hret.parse
    have hinvalid := hlacks.isInvalid hparse hcomplete
    rw [slaveTryPartialResynchronizationRead_invalid hparse hinvalid] at hread
    exact (Option.some.inj hread).symm

/-- A replica in its first xsync stage. -/
theorem exists_xsyncReplicaState : ∃ server, StreamReachable Paired (fun _ _ => True) server ∧
    ReplicaState server ∧ server.replMode.mode = .xsync := by
  obtain ⟨s, hreach, -, -, hmode, -⟩ :=
    exists_xsync_server (fun _ _ => True) (fun _ => trivial) regularSet_new.1
  have hlink : (StreamOp.changeLinks true false false).step s (fun _ => 0) =
      some { s with masterhost := true, master := false, cachedMaster := false } := rfl
  have hvalid : (StreamOp.changeLinks true false false).Valid s := trivial
  have hreach' := StreamReachable.step _ _ hreach hvalid trivial hlink
  exact ⟨_, hreach', hreach'.replicaState (fun _ => ⟨Bool.false_ne_true, Bool.false_ne_true⟩),
    hmode⟩

/-- `+CONTINUE` with a replid and the reploff 1. -/
theorem slaveTryPartialResynchronizationRead_safe_one :
    ∃ server reply, server.replMode.mode = .xsync ∧ CONTINUE <+: reply ∧
      SetFunctionsReturn blankSds server reply (fun _ => 0) ∧
      ReadSafe blankSds server reply (fun _ => 0) := by
  obtain ⟨server, -, hserver, hmode⟩ := exists_xsyncReplicaState
  obtain ⟨reply, hreply⟩ : ∃ reply,
    reply = CONTINUE ++ space :: (List.replicate 40 48 ++ space :: [49]) := ⟨_, rfl⟩
  have hhead : CONTINUE <+: reply := hreply ▸ List.prefix_append _ _
  have hlen : (continueReplid reply).length = CONFIG_RUN_ID_SIZE := by rw [hreply]; rfl
  have hoff : continueReploff reply = [49] := by rw [hreply]; rfl
  have hne : continueReploff reply ≠ [] := by rw [hoff]; exact List.cons_ne_nil _ _
  have hone : number (continueReploff reply) = some 1 := by rw [hoff]; decide +kernel
  have hparse : ∀ rand, parseSyncReply blankSds reply rand =
      some (.pcontinue (some (continueReplid reply)) true 1) := by
    intro rand
    rw [parseSyncReply_continue hhead, parseSyncReplyContinue_reploff hlen hne, hone]
  refine ⟨server, reply, hmode, hhead, setFunctionsReturn_continue hparse,
    (slaveTryPartialResynchronizationRead_safe_iff hserver _ _ _).2.mpr ?_⟩
  rintro ⟨-, -, (hnone | ⟨-, x, hneg, hnumber⟩) | ⟨-, hnone⟩⟩
  · rw [hnone] at hlen
    exact absurd hlen (by decide)
  · obtain rfl := Option.some.inj (hone.symm.trans hnumber)
    exact absurd hneg (by decide)
  · exact hne hnone

/-- `+CONTINUE` -/
theorem slaveTryPartialResynchronizationRead_safe_counterexample :
    ∃ server, StreamReachable Paired (fun _ _ => True) server ∧ ReplicaState server ∧
      ¬ ReadReturns blankSds server CONTINUE (fun _ => 0) ∧
      ¬ ReadSafe blankSds server CONTINUE (fun _ => 0) := by
  obtain ⟨server, hreach, hserver, hmode⟩ := exists_xsyncReplicaState
  have haborts : ContinueAborts CONTINUE := Or.inl rfl
  have hread : ¬ ReadReturns blankSds server CONTINUE (fun _ => 0) :=
    not_readReturns_of_aborts hmode (List.prefix_refl _) haborts
  exact ⟨server, hreach, hserver, hread, fun h => hread h.returns⟩

end Read

end XredisGtid
