import Mathlib.Algebra.Group.Even
import XredisGtid.SyncReplyText

/-!
# Options that a replica does not know

A pair of a name and a value put into a XFULLRESYNC or XCONTINUE reply.  A token is
compared with the names of the options as far as it is long, so that it is taken for an
option when the option's name begins with it, in either case of the letters.
-/
namespace XredisGtid
open Buffer Decimal

/-- The two replies that have options. -/
inductive ReplyKind where
  | xfullresync
  | xcontinue

namespace ReplyKind

def head : ReplyKind → Bytes
  | xfullresync => XFULLRESYNC
  | xcontinue => XCONTINUE

def options : ReplyKind → List ReplyOption
  | xfullresync => xfullresyncOptions
  | xcontinue => xcontinueOptions

def parsedOf : ReplyKind → ReplyFields → ParsedSyncReply
  | xfullresync => xfullresyncOf
  | xcontinue => xcontinueOf

def split (sds : Sds) : ReplyKind → Bytes → Option (List Bytes)
  | xfullresync, s => sds.sdssplitargs s
  | xcontinue, s => some (sds.sdssplitlen s)

/-- The bytes that end a token. -/
def ends : ReplyKind → Bytes
  | xfullresync => tokenEnds
  | xcontinue => [space]

end ReplyKind

/-- The name of the option begins with the token. -/
def Abbreviates (token : Bytes) (option : ReplyOption) : Prop :=
  token.map tolower <+: option.name.map tolower

/-- The second text is the first one with a pair at an option position: in front, between two
tokens with an even number of them before, or at the end. -/
inductive PairInserted (ends : Bytes) (split : Bytes → Option (List Bytes)) (name value : Bytes) :
    Bytes → Bytes → Prop
  | first {b tb} : b ≠ [] → split b = some tb →
      PairInserted ends split name value b (name ++ space :: value ++ space :: b)
  | between {a b ta tb c} : a ≠ [] → b ≠ [] → c ∈ ends → split a = some ta → Even ta.length →
      split b = some tb →
      PairInserted ends split name value (a ++ c :: b)
        (a ++ space :: (name ++ space :: value ++ c :: b))
  | last {a ta} : a ≠ [] → split a = some ta → Even ta.length →
      PairInserted ends split name value a (a ++ space :: (name ++ space :: value))

/-- The same for replies, which are strings of C. -/
def OptionInserted (sds : Sds) (kind : ReplyKind) (name value reply reply' : Bytes) : Prop :=
  ∃ blanks opts opts', (∀ c ∈ blanks, isSpace c = true) ∧ (∀ c ∈ opts.head?, isSpace c = false) ∧
    0 ∉ opts ∧
    PairInserted kind.ends (kind.split sds) name value opts opts' ∧
    reply = kind.head ++ (blanks ++ opts) ∧ reply' = kind.head ++ (blanks ++ opts')

def ParsedSyncReply.isInvalid : ParsedSyncReply → Bool
  | .invalid _ => true
  | _ => false

/-! ## Tokens -/

section Tokens
variable {sds : Sds} {kind : ReplyKind} {ends : Bytes} {split : Bytes → Option (List Bytes)}
  {name value opts opts' : Bytes} {rand : Rand}

theorem tolower_eq_zero {c : UInt8} (h : tolower c = 0) : c = 0 := by
  rw [tolower] at h
  split at h
  · rename_i hupper
    have h₁ := UInt8.le_iff_toNat_le.mp hupper.1
    have h₂ := UInt8.le_iff_toNat_le.mp hupper.2
    have hA : 'A'.toUInt8.toNat = 65 := rfl
    have hZ : 'Z'.toUInt8.toNat = 90 := rfl
    have hsum := congrArg UInt8.toNat h
    rw [UInt8.toNat_add] at hsum
    have h32 : (32 : UInt8).toNat = 32 := rfl
    have h0 : (0 : UInt8).toNat = 0 := rfl
    omega
  · exact h

/-- Comparing as many bytes as the token has compares it with the beginning of the name. -/
theorem strncasecmp_iff {a : Bytes} (ha : 0 ∉ a) (b : Bytes) :
    strncasecmp a b a.length = true ↔ a.map tolower <+: b.map tolower := by
  induction a generalizing b with
  | nil => exact iff_of_true rfl List.nil_prefix
  | cons c a ih =>
    have hc : c ≠ 0 := fun h => ha (h ▸ List.mem_cons_self)
    have ha' : 0 ∉ a := fun h => ha (List.mem_cons_of_mem c h)
    rw [List.length_cons, strncasecmp, List.headD_cons, List.tail_cons, Bool.and_eq_true,
      decide_eq_true_iff, Bool.or_eq_true, decide_eq_true_iff, or_iff_right hc, ih ha']
    cases b with
    | nil =>
      rw [List.headD_nil, List.map_nil, List.prefix_nil]
      refine iff_of_false ?_ (List.cons_ne_nil _ _)
      rintro ⟨h, -⟩
      exact hc (tolower_eq_zero h)
    | cons d b => rw [List.headD_cons, List.tail_cons, List.map_cons, List.map_cons,
        List.cons_prefix_cons]

/-- The options a token is taken for. -/
theorem replyOption_eq_none_iff {options : List ReplyOption} (hname : IsWord name) :
    replyOption options name = none ↔ ∀ o ∈ options, ¬ Abbreviates name o := by
  rw [replyOption, List.find?_eq_none]
  have hzero := hname.notMem not_wordByte_zero
  simp only [strncasecmp_iff hzero]
  rfl

theorem Sds.Splits.splitter (h : sds.Splits) (kind : ReplyKind) :
    Splitter kind.ends (kind.split sds) := by
  cases kind with
  | xfullresync => exact h.splitter_args
  | xcontinue => exact h.splitter_len

theorem Splitter.pair (h : Splitter ends split) (hname : IsWord name) (hvalue : IsWord value) :
    split (name ++ space :: value) = some [name, value] :=
  h.append name value [name] [value] space h.space_mem hname.1 hvalue.1
    (hname.notMem not_wordByte_zero) (h.word name hname) (h.word value hvalue)

/-- The pair comes between two lists of tokens, the first of which has an even length. -/
theorem PairInserted.tokens (h : Splitter ends split) (hname : IsWord name) (hvalue : IsWord value)
    (hzero : 0 ∉ opts) (hins : PairInserted ends split name value opts opts') :
    ∃ ta tb, Even ta.length ∧ split opts = some (ta ++ tb) ∧
      split opts' = some (ta ++ name :: value :: tb) := by
  have hpair := h.pair hname hvalue
  have hne : name ++ space :: value ≠ [] := List.append_ne_nil_of_left_ne_nil hname.1 _
  have hpairZero : 0 ∉ name ++ space :: value := by
    have hspace : (0 : UInt8) ≠ space := by decide
    have hname' := hname.notMem not_wordByte_zero
    have hvalue' := hvalue.notMem not_wordByte_zero
    rw [List.mem_append, List.mem_cons]
    tauto
  cases hins with
  | @first b tb hb htb =>
    exact ⟨[], tb, ⟨0, rfl⟩, htb,
      h.append _ _ [name, value] tb space h.space_mem hne hb hpairZero hpair htb⟩
  | @between a b ta tb c ha hb hc hta heven htb =>
    rw [List.mem_append, not_or] at hzero
    refine ⟨ta, tb, heven, h.append _ _ _ _ c hc ha hb hzero.1 hta htb, ?_⟩
    exact h.append _ _ _ _ space h.space_mem ha (List.append_ne_nil_of_left_ne_nil hne _) hzero.1 hta
      (h.append _ _ _ _ c hc hne hb hpairZero hpair htb)
  | @last a ta ha hta heven =>
    refine ⟨ta, [], heven, by rw [List.append_nil, hta], ?_⟩
    exact h.append _ _ _ _ space h.space_mem ha hne hzero hta hpair

/-- A pair that is no option is skipped. -/
theorem parseFields_insert {options : List ReplyOption} (hname : replyOption options name = none)
    (value : Bytes) {ta tb : List Bytes} (heven : Even ta.length) (fields : ReplyFields)
    (rand : Rand) :
    parseFields options (ta ++ name :: value :: tb) fields rand =
      parseFields options (ta ++ tb) fields rand := by
  induction ta using List.twoStepInduction generalizing fields rand with
  | nil => rw [List.nil_append, List.nil_append, parseFields, hname]
  | singleton t => exact absurd heven Nat.not_even_one
  | cons_cons t v ta ih =>
    have heven' : Even ta.length := by
      obtain ⟨n, hn⟩ := heven
      rw [List.length_cons, List.length_cons] at hn
      exact ⟨n - 1, by omega⟩
    simp only [List.cons_append, parseFields]
    cases replyOption options t with
    | none => exact ih heven' fields rand
    | some option =>
      simp only [ih heven']

end Tokens

/-! ## Replies -/

section Replies
variable {sds : Sds} {kind : ReplyKind} {name value blanks opts opts' reply reply' : Bytes}
  {rand : Rand}

theorem dropWhile_blanks (hblanks : ∀ c ∈ blanks, isSpace c = true)
    (hopts : ∀ c ∈ opts.head?, isSpace c = false) : (blanks ++ opts).dropWhile isSpace = opts := by
  rw [List.dropWhile_append_of_pos hblanks]
  cases opts with
  | nil => rfl
  | cons c opts => exact dropWhile_isSpace (hopts c rfl)

theorem parseSyncReply_kind (hblanks : ∀ c ∈ blanks, isSpace c = true)
    (hopts : ∀ c ∈ opts.head?, isSpace c = false) (hzero : 0 ∉ opts) :
    parseSyncReply sds (kind.head ++ (blanks ++ opts)) rand =
      parseReplyOptions kind.options kind.parsedOf ((kind.split sds opts).getD []) rand := by
  have hdrop := dropWhile_blanks hblanks hopts
  cases kind with
  | xfullresync =>
    simp only [ReplyKind.head]
    rw [parseSyncReply, if_pos (List.prefix_append _ _), parseSyncReplyXfullresync,
      xfullresyncTokens, List.drop_left, hdrop, cString_eq hzero]
    rfl
  | xcontinue =>
    simp only [ReplyKind.head]
    rw [parseSyncReply, if_neg (not_xfullresync _), if_pos (List.prefix_append _ _),
      parseSyncReplyXcontinue, xcontinueTokens, List.drop_left, hdrop]
    rfl

theorem IsWord.head (h : IsWord name) (rest : Bytes) :
    ∀ c ∈ (name ++ rest).head?, isSpace c = false := by
  obtain ⟨d, l, rfl⟩ := List.exists_cons_of_ne_nil h.1
  intro c hc
  cases hc
  exact (h.2 d List.mem_cons_self).2.1

/-- A text with a pair in it starts where the text starts, or with the name, and has no zero byte. -/
theorem PairInserted.wellFormed {ends : Bytes} {split : Bytes → Option (List Bytes)}
    (hname : IsWord name) (hvalue : IsWord value) (hopts : ∀ c ∈ opts.head?, isSpace c = false)
    (hzero : 0 ∉ opts) (hins : PairInserted ends split name value opts opts') :
    (∀ c ∈ opts'.head?, isSpace c = false) ∧ 0 ∉ opts' := by
  have hspace : (0 : UInt8) ≠ space := by decide
  have hname' := hname.notMem not_wordByte_zero
  have hvalue' := hvalue.notMem not_wordByte_zero
  cases hins with
  | first hb htb =>
    rw [List.append_assoc]
    refine ⟨hname.head _, ?_⟩
    simp only [List.mem_append, List.mem_cons, not_or]
    exact ⟨hname', ⟨hspace, hvalue'⟩, hspace, hzero⟩
  | between ha hb hc hta heven htb =>
    rw [List.head?_append_of_ne_nil _ ha] at hopts ⊢
    simp only [List.mem_append, List.mem_cons, not_or] at hzero ⊢
    exact ⟨hopts, hzero.1, hspace, ⟨hname', hspace, hvalue'⟩, hzero.2⟩
  | last ha hta heven =>
    rw [List.head?_append_of_ne_nil _ ha]
    simp only [List.mem_append, List.mem_cons, not_or]
    exact ⟨hopts, hzero, hspace, hname', hspace, hvalue'⟩

/-- **A pair that is no option changes nothing.** -/
theorem OptionInserted.ignored (hsds : sds.Splits) (hname : IsWord name) (hvalue : IsWord value)
    (hnone : ∀ o ∈ kind.options, ¬ Abbreviates name o)
    (hins : OptionInserted sds kind name value reply reply') (rand : Rand) :
    parseSyncReply sds reply' rand = parseSyncReply sds reply rand := by
  obtain ⟨blanks, opts, opts', hblanks, hopts, hzero, hpair, rfl, rfl⟩ := hins
  obtain ⟨hopts', hzero'⟩ := hpair.wellFormed hname hvalue hopts hzero
  obtain ⟨ta, tb, heven, hsplit, hsplit'⟩ := hpair.tokens (hsds.splitter kind) hname hvalue hzero
  rw [parseSyncReply_kind hblanks hopts hzero, parseSyncReply_kind hblanks hopts' hzero', hsplit,
    hsplit', Option.getD_some, Option.getD_some, parseReplyOptions, parseReplyOptions,
    parseFields_insert ((replyOption_eq_none_iff hname).mpr hnone) value heven]

end Replies

/-! ## Abbreviated names -/

section Abbreviations
variable {sds : Sds} {kind : ReplyKind} {name value : Bytes} {rand : Rand}
  {fields fields' : ReplyFields}

/-- The master uuid and the reploff of a reply. -/
def ParsedSyncReply.identity : ParsedSyncReply → Option (Bytes × Int)
  | .xfullresync _ masterUuid _ reploff | .xcontinue _ _ masterUuid _ reploff =>
    some (masterUuid, reploff)
  | _ => none

theorem parsedOf_identity (h : (kind.parsedOf fields).isInvalid = false) :
    (kind.parsedOf fields).identity = fields.masterUuid.map (fun uuid => (uuid, fields.reploff)) := by
  cases kind with
  | xfullresync =>
    simp only [ReplyKind.parsedOf] at h ⊢
    rw [xfullresyncOf] at h ⊢
    split at h
    · cases h
    · cases h
    · cases h
    · rename_i uuid l id huuid hl hid
      split at h
      · cases h
      · rename_i hoff
        rw [if_neg hoff, huuid]
        rfl
  | xcontinue =>
    simp only [ReplyKind.parsedOf] at h ⊢
    rw [xcontinueOf] at h ⊢
    split at h
    · cases h
    · cases h
    · cases h
    · rename_i uuid c id huuid hc hid
      split at h
      · cases h
      · rename_i hoff
        rw [if_neg hoff, huuid]
        rfl

/-- A reply with another master uuid or reploff. -/
theorem parsedOf_ne {uuid : Bytes} (h : (kind.parsedOf fields).isInvalid = false)
    (huuid : fields.masterUuid = some uuid)
    (hne : fields'.masterUuid.map (fun uuid => (uuid, fields'.reploff)) ≠
      some (uuid, fields.reploff)) : kind.parsedOf fields' ≠ kind.parsedOf fields := by
  intro heq
  have hid := parsedOf_identity h
  have hid' := parsedOf_identity (heq ▸ h : (kind.parsedOf fields').isInvalid = false)
  rw [heq, hid, huuid] at hid'
  exact hne hid'.symm

/-- The options of a valid reply, with `A` as its sets and its master uuid: the name of the first one
and the words behind it. -/
def sampleHead : ReplyKind → Bytes
  | .xfullresync => ReplyOption.gtidLost.written
  | .xcontinue => ReplyOption.gtidSet.written

def sampleRest : List Bytes :=
  [[65], ReplyOption.masterUuid.written, [65], ReplyOption.replid.written, List.replicate 40 48,
    ReplyOption.reploff.written, longText 7]

def sampleWords : ReplyKind → List Bytes
  | .xfullresync => sampleRest
  | .xcontinue => [65] :: ReplyOption.gtidLost.written :: sampleRest

/-- What is read of them, and what follows is read with. -/
theorem parseFields_sample (kind : ReplyKind) (rand : Rand) :
    ∃ fields rand', (∀ tokens,
        parseFields kind.options (sampleHead kind :: sampleWords kind ++ tokens) noFields rand =
          parseFields kind.options tokens fields rand') ∧
      (kind.parsedOf fields).isInvalid = false ∧ fields.masterUuid = some [65] ∧
      fields.reploff = 7 := by
  have hdecode : ∀ rand, ∃ t, gtidSetDecode ([65] ++ [0]) 0 1 rand = some (some t) :=
    fun _ => ⟨_, rfl⟩
  have hlen : (List.replicate 40 (48 : UInt8)).length = CONFIG_RUN_ID_SIZE := rfl
  have hmax : (7 : Int) ≤ LLONG_MAX := by decide
  cases kind with
  | xfullresync =>
    obtain ⟨l, hl⟩ := hdecode (rand.sub 0)
    obtain ⟨rand', hfields⟩ := parseFields_xfullresync [65] hlen
      (show (0 : Int) ≤ 7 by decide) hmax hl
    exact ⟨⟨none, some l, some [65], _, 7⟩, rand', hfields, rfl, rfl, rfl⟩
  | xcontinue =>
    obtain ⟨c, hc⟩ := hdecode (rand.sub 0)
    obtain ⟨l, hl⟩ := hdecode ((rand.sub 1).sub 0)
    obtain ⟨rand', hfields⟩ := parseFields_xcontinue [65] hlen
      (show (0 : Int) ≤ 7 by decide) hmax hc hl
    exact ⟨⟨some c, some l, some [65], _, 7⟩, rand', hfields, rfl, rfl, rfl⟩

/-- The value `:x` is no gtid set, no replid, and zero as a reploff. -/
theorem setField_sample (fields : ReplyFields) (option : ReplyOption) (rand : Rand) :
    (∃ errmsg, setField fields option [58, 120] rand = some (.error errmsg)) ∨
      setField fields option [58, 120] rand =
        some (.ok { fields with masterUuid := some [58, 120] }) ∨
      setField fields option [58, 120] rand = some (.ok { fields with reploff := 0 }) := by
  cases option with
  | gtidSet => exact Or.inl ⟨_, rfl⟩
  | gtidLost => exact Or.inl ⟨_, rfl⟩
  | masterUuid => exact Or.inr (Or.inl rfl)
  | replid => exact Or.inl ⟨_, rfl⟩
  | reploff => exact Or.inr (Or.inr rfl)

theorem isWord_colonX : IsWord [58, 120] := by decide +kernel

theorem isWord_sample (kind : ReplyKind) : ∀ w ∈ sampleHead kind :: sampleWords kind, IsWord w := by
  have hrest : ∀ w ∈ sampleRest, IsWord w := by decide +kernel
  intro w hw
  cases kind with
  | xfullresync =>
    rcases List.mem_cons.mp hw with rfl | hw
    · exact isWord_written .gtidLost
    · exact hrest w hw
  | xcontinue =>
    rcases List.mem_cons.mp hw with rfl | hw
    · exact isWord_written .gtidSet
    · rcases List.mem_cons.mp hw with rfl | hw
      · decide +kernel
      · rcases List.mem_cons.mp hw with rfl | hw
        · exact isWord_written .gtidLost
        · exact hrest w hw

/-- Words with a space between them. -/
theorem Splitter.words {ends : Bytes} {split : Bytes → Option (List Bytes)} {w : Bytes}
    {l : List Bytes} (h : Splitter ends split) (hw : ∀ w' ∈ w :: l, IsWord w') :
    split (w ++ l.flatMap (fun w => space :: w)) = some (w :: l) := by
  have hl : ∀ p ∈ l.map (fun w => (w, w)), Writes split p.1 p.2 := by
    intro p hp
    obtain ⟨w', hw', rfl⟩ := List.mem_map.mp hp
    exact h.writes (hw w' (List.mem_cons_of_mem w hw'))
  have htokens := h.tokens (h.writes (hw w List.mem_cons_self)) _ hl
  rw [List.flatMap_map, List.map_map] at htokens
  rw [htokens]
  exact congrArg (fun l => some (w :: l)) (List.map_id l)

/-- A valid reply, and the one with a pair at its end, which is read after everything else. -/
theorem exists_sampleReply (hsds : sds.Splits) (kind : ReplyKind) (hname : IsWord name)
    (hvalue : IsWord value) (rand : Rand) :
    ∃ reply reply' fields rand', OptionInserted sds kind name value reply reply' ∧
      parseSyncReply sds reply rand = some (kind.parsedOf fields) ∧
      (kind.parsedOf fields).isInvalid = false ∧ fields.masterUuid = some [65] ∧
      fields.reploff = 7 ∧
      parseSyncReply sds reply' rand = parseReplyOptions kind.options kind.parsedOf
        (sampleHead kind :: sampleWords kind ++ [name, value]) rand ∧
      parseFields kind.options (sampleHead kind :: sampleWords kind ++ [name, value]) noFields rand =
        parseFields kind.options [name, value] fields rand' := by
  have hsplit := hsds.splitter kind
  have hwords := isWord_sample kind
  obtain ⟨opts, hopts⟩ : ∃ opts, opts = sampleHead kind ++
    (sampleWords kind).flatMap (fun w => space :: w) := ⟨_, rfl⟩
  have htokens : kind.split sds opts = some (sampleHead kind :: sampleWords kind) :=
    hopts ▸ hsplit.words hwords
  have hhead := hwords _ List.mem_cons_self
  have hne : opts ≠ [] := hopts ▸ List.append_ne_nil_of_left_ne_nil hhead.1 _
  have hstart : ∀ c ∈ opts.head?, isSpace c = false := hopts ▸ hhead.head _
  have hzero : 0 ∉ opts := by
    rw [hopts, List.mem_append, List.mem_flatMap]
    rintro (hmem | ⟨w, hw, hmem⟩)
    · exact hhead.notMem not_wordByte_zero hmem
    · rcases List.mem_cons.mp hmem with heq | hmem
      · exact absurd heq (by decide)
      · exact (hwords w (List.mem_cons_of_mem _ hw)).notMem not_wordByte_zero hmem
  have heven : Even (sampleHead kind :: sampleWords kind).length := by
    cases kind with
    | xfullresync => exact ⟨4, rfl⟩
    | xcontinue => exact ⟨5, rfl⟩
  have hins : PairInserted kind.ends (kind.split sds) name value opts
      (opts ++ space :: (name ++ space :: value)) := .last hne htokens heven
  obtain ⟨hstart', hzero'⟩ := hins.wellFormed hname hvalue hstart hzero
  have htokens' : kind.split sds (opts ++ space :: (name ++ space :: value)) =
      some (sampleHead kind :: sampleWords kind ++ [name, value]) :=
    hsplit.append _ _ _ _ space hsplit.space_mem hne (List.append_ne_nil_of_left_ne_nil hname.1 _)
      hzero htokens (hsplit.pair hname hvalue)
  have hblanks : ∀ c ∈ [space], isSpace c = true := List.forall_mem_singleton.mpr rfl
  obtain ⟨fields, rand', hfields, hvalid, huuid, hoff⟩ := parseFields_sample kind rand
  have hread := hfields []
  rw [List.append_nil] at hread
  refine ⟨_, _, fields, rand', ⟨[space], opts, _, hblanks, hstart, hzero, hins, rfl, rfl⟩, ?_, hvalid,
    huuid, hoff, ?_, hfields _⟩
  · rw [parseSyncReply_kind hblanks hstart hzero, htokens, Option.getD_some]
    exact parseReplyOptions_eq hread
  · rw [parseSyncReply_kind hblanks hstart' hzero', htokens', Option.getD_some]

/-- **A name that an option begins with is taken for the option.** -/
theorem abbreviation_changes (hsds : sds.Splits) (hname : IsWord name) {option : ReplyOption}
    (hoption : option ∈ kind.options) (habbr : Abbreviates name option) (rand : Rand) :
    ∃ reply reply' parsed, OptionInserted sds kind name [58, 120] reply reply' ∧
      parseSyncReply sds reply rand = some parsed ∧ parsed.isInvalid = false ∧
      parseSyncReply sds reply' rand ≠ some parsed := by
  obtain ⟨reply, reply', fields, rand', hins, hparse, hvalid, huuid, hoff, hparse', hfields⟩ :=
    exists_sampleReply hsds kind hname isWord_colonX rand
  refine ⟨reply, reply', _, hins, hparse, hvalid, ?_⟩
  -- the option the name is taken for
  obtain ⟨o, ho⟩ : ∃ o, replyOption kind.options name = some o := by
    apply Option.ne_none_iff_exists'.mp
    rw [ne_eq, replyOption_eq_none_iff hname]
    exact fun hnone => hnone option hoption habbr
  rw [hparse']
  rcases setField_sample fields o (rand'.sub 0) with ⟨errmsg, hset⟩ | hset | hset
  · rw [parseReplyOptions, hfields, parseFields, ho]
    simp only [hset, Option.bind_eq_bind, Option.bind_some]
    intro heq
    rw [← Option.some.inj heq] at hvalid
    cases hvalid
  · rw [parseReplyOptions_eq (hfields.trans (parseFields_option ho hset))]
    refine fun heq => parsedOf_ne hvalid huuid ?_ (Option.some.inj heq)
    simp
  · rw [parseReplyOptions_eq (hfields.trans (parseFields_option ho hset))]
    refine fun heq => parsedOf_ne hvalid huuid ?_ (Option.some.inj heq)
    simp [huuid, hoff]

/-- **Options that are not known are ignored** if and only if no option of the reply begins with the
name. -/
theorem optionInserted_ignored_iff (hsds : sds.Splits) (hname : IsWord name) :
    (∀ (value reply reply' : Bytes) (rand : Rand) (parsed : ParsedSyncReply), IsWord value →
        OptionInserted sds kind name value reply reply' →
        parseSyncReply sds reply rand = some parsed → parsed.isInvalid = false →
        parseSyncReply sds reply' rand = some parsed) ↔
      ∀ option ∈ kind.options, ¬ Abbreviates name option := by
  constructor
  · intro h option hoption habbr
    obtain ⟨reply, reply', parsed, hins, hparse, hvalid, hchanged⟩ :=
      abbreviation_changes hsds hname hoption habbr (fun _ => 0)
    exact hchanged (h [58, 120] reply reply' _ parsed isWord_colonX hins hparse hvalid)
  · intro hnone value reply reply' rand parsed hvalue hins hparse _
    rw [hins.ignored hsds hname hvalue hnone rand, hparse]

/-- `FOO BAR` at the end of a reply. -/
theorem optionInserted_ignored_foo :
    ∃ reply reply' parsed, OptionInserted blankSds .xcontinue [70, 79, 79] [66, 65, 82] reply reply' ∧
      parseSyncReply blankSds reply (fun _ => 0) = some parsed ∧ parsed.isInvalid = false ∧
      parseSyncReply blankSds reply' (fun _ => 0) = some parsed := by
  have hname : IsWord [70, 79, 79] := by decide +kernel
  have hvalue : IsWord [66, 65, 82] := by decide +kernel
  have hnone : ∀ option ∈ ReplyKind.xcontinue.options, ¬ Abbreviates [70, 79, 79] option := by
    unfold Abbreviates
    decide
  obtain ⟨reply, reply', fields, rand', hins, hparse, hvalid, -⟩ :=
    exists_sampleReply blankSds_splits .xcontinue hname hvalue (fun _ => 0)
  exact ⟨reply, reply', _, hins, hparse, hvalid, (optionInserted_ignored_iff blankSds_splits hname).mpr
    hnone _ reply reply' _ _ hvalue hins hparse hvalid⟩

/-- `MASTER` is taken for `master.uuid`. -/
theorem optionInserted_ignored_counterexample :
    ¬ ∀ (sds : Sds) (kind : ReplyKind) (name value reply reply' : Bytes) (rand : Rand)
        (parsed : ParsedSyncReply),
      sds.Splits → IsWord name → (∀ o ∈ kind.options, name.map tolower ≠ o.name.map tolower) →
      IsWord value → OptionInserted sds kind name value reply reply' →
      parseSyncReply sds reply rand = some parsed → parsed.isInvalid = false →
      parseSyncReply sds reply' rand = some parsed := by
  intro h
  have hname : IsWord [77, 65, 83, 84, 69, 82] := by decide +kernel
  have habbr : Abbreviates [77, 65, 83, 84, 69, 82] .masterUuid := by
    unfold Abbreviates
    decide
  have hoption : ReplyOption.masterUuid ∈ ReplyKind.xcontinue.options := by decide
  obtain ⟨reply, reply', parsed, hins, hparse, hvalid, hchanged⟩ :=
    abbreviation_changes blankSds_splits hname hoption habbr (fun _ => 0)
  exact hchanged (h blankSds .xcontinue _ _ reply reply' _ parsed blankSds_splits hname (by decide)
    isWord_colonX hins hparse hvalid)

end Abbreviations

end XredisGtid
