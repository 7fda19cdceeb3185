import XredisGtid.SyncReply
import XredisGtid.ReplStreamSpec

/-!
# A replica parses what a master writes

The options of a line are split by two functions of Redis: `sdssplitlen` splits at every
space, `sdssplitargs` at blanks, and takes away quotes.  A master writes an empty set as
two quotes in both kinds of lines.
-/
namespace XredisGtid
open Buffer Decimal KeyedIntervals Memory

/-! ## Tokens -/

/-- A byte that is written as it is. -/
def WordByte (c : UInt8) : Prop := c ≠ 0 ∧ isSpace c = false ∧ c ≠ quote ∧ c ≠ singleQuote

instance (c : UInt8) : Decidable (WordByte c) := by unfold WordByte; infer_instance

def IsWord (w : Bytes) : Prop := w ≠ [] ∧ ∀ c ∈ w, WordByte c

instance (w : Bytes) : Decidable (IsWord w) := by unfold IsWord; infer_instance

/-- The bytes that end a token of `sdssplitargs`. -/
def tokenEnds : Bytes := [space, tab] ++ crlf

/-- What is known of the functions of Redis. -/
structure Sds.Splits (sds : Sds) : Prop where
  len : ∀ s, s ≠ [] → sds.sdssplitlen s = s.splitOn space
  args_word : ∀ w, IsWord w → sds.sdssplitargs w = some [w]
  args_quotes : sds.sdssplitargs [quote, quote] = some [[]]
  /-- Both texts are split on their own when a blank is between them. -/
  args_append : ∀ a b ta tb, ∀ c ∈ tokenEnds, 0 ∉ a → sds.sdssplitargs a = some ta →
    sds.sdssplitargs b = some tb → sds.sdssplitargs (a ++ c :: b) = some (ta ++ tb)

/-- What both have in common, with the bytes that end a token. -/
structure Splitter (ends : Bytes) (split : Bytes → Option (List Bytes)) : Prop where
  space_mem : space ∈ ends
  word : ∀ w, IsWord w → split w = some [w]
  append : ∀ a b ta tb, ∀ c ∈ ends, a ≠ [] → b ≠ [] → 0 ∉ a → split a = some ta → split b = some tb →
    split (a ++ c :: b) = some (ta ++ tb)

section Tokens
variable {sds : Sds} {ends : Bytes} {split : Bytes → Option (List Bytes)} {w t : Bytes} {c : UInt8}

theorem IsWord.notMem (h : IsWord w) (hc : ¬ WordByte c) : c ∉ w := fun hmem => hc (h.2 c hmem)

theorem not_wordByte_zero : ¬ WordByte 0 := by decide

theorem not_wordByte_space : ¬ WordByte space := by decide

theorem wordByte_of_le (h : 33 ≤ c) (hquote : c ≠ quote) (hsingle : c ≠ singleQuote) :
    WordByte c := by
  have hle := UInt8.le_iff_toNat_le.mp h
  have h33 : (33 : UInt8).toNat = 33 := rfl
  refine ⟨?_, decide_eq_false ?_, hquote, hsingle⟩
  · rintro rfl
    have h0 : (0 : UInt8).toNat = 0 := rfl
    omega
  · rintro (rfl | ⟨-, h13⟩)
    · have h32 : (32 : UInt8).toNat = 32 := rfl
      omega
    · have := UInt8.le_iff_toNat_le.mp h13
      have h13 : (13 : UInt8).toNat = 13 := rfl
      omega

theorem wordByte_of_isDigit (h : IsDigit c) : WordByte c := by
  have h48 : (33 : UInt8) ≤ '0'.toUInt8 := by decide
  refine wordByte_of_le (h48.trans h.1) ?_ ?_
  · rintro rfl
    exact absurd h.1 (by decide)
  · rintro rfl
    exact absurd h.1 (by decide)

theorem Sds.Splits.splitter_len (h : sds.Splits) :
    Splitter [space] (fun s => some (sds.sdssplitlen s)) := by
  refine ⟨List.mem_singleton_self space, ?_, ?_⟩
  · intro w hw
    rw [h.len w hw.1, List.splitOn_eq_singleton (hw.notMem not_wordByte_space)]
  · intro a b ta tb c hc ha hb _ hta htb
    obtain rfl := List.mem_singleton.mp hc
    rw [h.len a ha] at hta
    rw [h.len b hb] at htb
    rw [h.len _ (List.append_ne_nil_of_left_ne_nil ha _), List.splitOn_append_cons_self,
      Option.some.inj hta, Option.some.inj htb]

theorem Sds.Splits.splitter_args (h : sds.Splits) : Splitter tokenEnds sds.sdssplitargs :=
  ⟨List.mem_cons_self, h.args_word, fun a b ta tb c hc _ _ hzero => h.args_append a b ta tb c hc hzero⟩

/-- A text that is one token. -/
structure Writes (split : Bytes → Option (List Bytes)) (w t : Bytes) : Prop where
  ne_nil : w ≠ []
  zero_notMem : 0 ∉ w
  split : split w = some [t]

theorem Splitter.writes (h : Splitter ends split) (hw : IsWord w) : Writes split w w :=
  ⟨hw.1, hw.notMem not_wordByte_zero, h.word w hw⟩

/-- Texts of tokens with a space between them. -/
theorem Splitter.tokens (h : Splitter ends split) (hw : Writes split w t) (l : List (Bytes × Bytes))
    (hl : ∀ p ∈ l, Writes split p.1 p.2) :
    split (w ++ l.flatMap (fun p => space :: p.1)) = some (t :: l.map Prod.snd) := by
  induction l generalizing w t with
  | nil => rw [List.flatMap_nil, List.append_nil, hw.split, List.map_nil]
  | cons p l ih =>
    have hp := hl p List.mem_cons_self
    have hrest := ih hp (fun q hq => hl q (List.mem_cons_of_mem p hq))
    rw [List.flatMap_cons, List.cons_append, List.map_cons]
    exact h.append w _ [t] _ space h.space_mem hw.ne_nil (List.append_ne_nil_of_left_ne_nil hp.ne_nil _)
      hw.zero_notMem hw.split hrest

/-- An option as it is written, and the token of its value. -/
structure WrittenOption where
  option : ReplyOption
  text : Bytes
  value : Bytes

theorem isWord_written (option : ReplyOption) : IsWord option.written := by
  cases option <;> decide +kernel

/-- The text of the options is split into names and values. -/
theorem Splitter.options (h : Splitter ends split) (o : WrittenOption) (l : List WrittenOption)
    (hl : ∀ o' ∈ o :: l, Writes split o'.text o'.value) :
    split (((o :: l).flatMap (fun o => optionText o.option o.text)).dropWhile isSpace) =
      some ((o :: l).flatMap (fun o => [o.option.written, o.value])) := by
  obtain ⟨m, hm⟩ : ∃ m : List (Bytes × Bytes), m = (o.text, o.value) ::
    l.flatMap (fun o => [(o.option.written, o.option.written), (o.text, o.value)]) := ⟨_, rfl⟩
  have hwrites : ∀ p ∈ m, Writes split p.1 p.2 := by
    rw [hm]
    intro p hp
    rcases List.mem_cons.mp hp with rfl | hp
    · exact hl o List.mem_cons_self
    · obtain ⟨o', ho', hp⟩ := List.mem_flatMap.mp hp
      rcases List.mem_cons.mp hp with rfl | hp
      · exact h.writes (isWord_written o'.option)
      · rw [List.mem_singleton.mp hp]
        exact hl o' (List.mem_cons_of_mem o ho')
  have htext : (o :: l).flatMap (fun o => optionText o.option o.text) =
      space :: (o.option.written ++ m.flatMap (fun p => space :: p.1)) := by
    simp only [hm, List.flatMap_cons, List.flatMap_assoc, List.flatMap_nil, List.append_nil,
      optionText, List.cons_append, List.append_assoc]
  have hdrop : (space :: (o.option.written ++ m.flatMap (fun p => space :: p.1))).dropWhile
      isSpace = o.option.written ++ m.flatMap (fun p => space :: p.1) := by
    cases o.option <;> rfl
  have hvalues : o.option.written :: m.map Prod.snd =
      (o :: l).flatMap (fun o => [o.option.written, o.value]) := by
    rw [hm, List.map_cons, List.map_flatMap, List.flatMap_cons]
    rfl
  rw [htext, hdrop, ← hvalues]
  exact h.tokens (h.writes (isWord_written o.option)) m hwrites

end Tokens

/-! ## Options -/

section Options
variable {options : List ReplyOption} {option : ReplyOption} {value : Bytes} {tokens : List Bytes}
  {fields fields' : ReplyFields} {rand : Rand} {g : GtidSet}

theorem replyOption_xcontinue (o : ReplyOption) :
    replyOption xcontinueOptions o.written = some o := by
  cases o <;> decide

theorem replyOption_xfullresync {o : ReplyOption} (h : o ≠ .gtidSet) :
    replyOption xfullresyncOptions o.written = some o := by
  cases o with
  | gtidSet => exact absurd rfl h
  | _ => decide

theorem parseFields_option {token : Bytes} (hoption : replyOption options token = some option)
    (hset : setField fields option value (rand.sub 0) = some (.ok fields')) :
    parseFields options (token :: value :: tokens) fields rand =
      parseFields options tokens fields' (rand.sub 1) := by
  rw [parseFields, hoption]
  simp only [hset, Option.bind_eq_bind, Option.bind_some]

theorem parseFields_fails {token : Bytes} (hoption : replyOption options token = some option)
    (hset : setField fields option value (rand.sub 0) = none) :
    parseFields options (token :: value :: tokens) fields rand = none := by
  rw [parseFields, hoption]
  simp only [hset, Option.bind_eq_bind, Option.bind_none]

theorem setField_gtidSet (h : gtidSetDecode (value ++ [0]) 0 value.length rand = some (some g)) :
    setField fields .gtidSet value rand = some (.ok { fields with gtidCont := some g }) := by
  simp only [setField, h, Option.bind_eq_bind, Option.bind_some]

theorem setField_gtidLost (h : gtidSetDecode (value ++ [0]) 0 value.length rand = some (some g)) :
    setField fields .gtidLost value rand = some (.ok { fields with gtidLost := some g }) := by
  simp only [setField, h, Option.bind_eq_bind, Option.bind_some]

theorem setField_gtidSet_fails (h : gtidSetDecode (value ++ [0]) 0 value.length rand = none) :
    setField fields .gtidSet value rand = none := by
  simp only [setField, h, Option.bind_eq_bind, Option.bind_none]

theorem setField_gtidLost_fails (h : gtidSetDecode (value ++ [0]) 0 value.length rand = none) :
    setField fields .gtidLost value rand = none := by
  simp only [setField, h, Option.bind_eq_bind, Option.bind_none]

theorem setField_replid (h : value.length = CONFIG_RUN_ID_SIZE) :
    setField fields .replid value rand = some (.ok { fields with replid := some value }) := by
  rw [setField, if_neg (not_not.mpr h)]

theorem setField_reploff {x : Int} (h : 0 ≤ x) (hmax : x ≤ LLONG_MAX) :
    setField fields .reploff (longText x) rand = some (.ok { fields with reploff := x }) := by
  have hlow : LLONG_MIN ≤ x := by unfold LLONG_MIN; omega
  rw [setField, strtoll_longText hlow hmax, if_neg (by omega)]

end Options

section Parse
variable {sds : Sds} {gtidCont gtidLost masterUuid replid : Bytes} {cont lost : Bytes}
  {c l : GtidSet} {reploff : Int} {rand : Rand}

/-- What is the same in both replies. -/
structure ReplyIdentity (masterUuid replid : Bytes) (reploff : Int) : Prop where
  masterUuid_word : IsWord masterUuid
  replid_word : IsWord replid
  replid_length : replid.length = CONFIG_RUN_ID_SIZE
  reploff_nonneg : 0 ≤ reploff
  reploff_le : reploff ≤ LLONG_MAX

theorem isWord_longText {x : Int} (h : 0 ≤ x) : IsWord (longText x) := by
  have hdecimal : longText x = decimal x.toNat := if_neg (by omega)
  rw [hdecimal]
  exact ⟨List.length_pos_iff.mp (length_decimal_pos _),
    fun c hc => wordByte_of_isDigit (isDigit_decimal _ c hc)⟩

theorem parseReplyOptions_eq {options : List ReplyOption} {parsedOf : ReplyFields → ParsedSyncReply}
    {tokens : List Bytes} {fields : ReplyFields}
    (h : parseFields options tokens noFields rand = some (.ok fields)) :
    parseReplyOptions options parsedOf tokens rand = some (parsedOf fields) := by
  simp only [parseReplyOptions, h, Option.bind_eq_bind, Option.bind_some]

theorem not_xfullresync (s : Bytes) : ¬ XFULLRESYNC <+: XCONTINUE ++ s := by
  rintro ⟨rest, hrest⟩
  have hthird : ((XFULLRESYNC ++ rest).drop 2).head? = ((XCONTINUE ++ s).drop 2).head? := by rw [hrest]
  exact absurd hthird (show some 'F'.toUInt8 ≠ some 'C'.toUInt8 by decide)

/-- Reading the options of a XCONTINUE line, whatever follows. -/
theorem parseFields_xcontinue (masterUuid : Bytes) (hid : replid.length = CONFIG_RUN_ID_SIZE)
    (hnonneg : 0 ≤ reploff) (hmax : reploff ≤ LLONG_MAX)
    (hc : gtidSetDecode (gtidCont ++ [0]) 0 gtidCont.length (rand.sub 0) = some (some c))
    (hl : gtidSetDecode (gtidLost ++ [0]) 0 gtidLost.length ((rand.sub 1).sub 0) = some (some l)) :
    ∃ rand', ∀ tokens, parseFields xcontinueOptions (ReplyOption.gtidSet.written :: gtidCont ::
        ReplyOption.gtidLost.written :: gtidLost :: ReplyOption.masterUuid.written :: masterUuid ::
        ReplyOption.replid.written :: replid :: ReplyOption.reploff.written :: longText reploff ::
        tokens) noFields rand =
      parseFields xcontinueOptions tokens ⟨some c, some l, some masterUuid, some replid, reploff⟩
        rand' := by
  refine ⟨((((rand.sub 1).sub 1).sub 1).sub 1).sub 1, fun tokens => ?_⟩
  rw [parseFields_option (replyOption_xcontinue .gtidSet) (setField_gtidSet hc),
    parseFields_option (replyOption_xcontinue .gtidLost) (setField_gtidLost hl),
    parseFields_option (replyOption_xcontinue .masterUuid) rfl,
    parseFields_option (replyOption_xcontinue .replid) (setField_replid hid),
    parseFields_option (replyOption_xcontinue .reploff) (setField_reploff hnonneg hmax)]

theorem parseFields_xfullresync (masterUuid : Bytes) (hid : replid.length = CONFIG_RUN_ID_SIZE)
    (hnonneg : 0 ≤ reploff) (hmax : reploff ≤ LLONG_MAX)
    (hl : gtidSetDecode (lost ++ [0]) 0 lost.length (rand.sub 0) = some (some l)) :
    ∃ rand', ∀ tokens, parseFields xfullresyncOptions (ReplyOption.gtidLost.written :: lost ::
        ReplyOption.masterUuid.written :: masterUuid :: ReplyOption.replid.written :: replid ::
        ReplyOption.reploff.written :: longText reploff :: tokens) noFields rand =
      parseFields xfullresyncOptions tokens ⟨none, some l, some masterUuid, some replid, reploff⟩
        rand' := by
  refine ⟨(((rand.sub 1).sub 1).sub 1).sub 1, fun tokens => ?_⟩
  rw [parseFields_option (replyOption_xfullresync (by decide)) (setField_gtidLost hl),
    parseFields_option (replyOption_xfullresync (by decide)) rfl,
    parseFields_option (replyOption_xfullresync (by decide)) (setField_replid hid),
    parseFields_option (replyOption_xfullresync (by decide)) (setField_reploff hnonneg hmax)]
  rfl

/-- The tokens of a XCONTINUE line. -/
theorem parseSyncReply_xcontinue_tokens (hsds : sds.Splits)
    (h : ReplyIdentity masterUuid replid reploff)
    (hcont : Writes (fun s => some (sds.sdssplitlen s)) gtidCont gtidCont)
    (hlost : Writes (fun s => some (sds.sdssplitlen s)) gtidLost gtidLost) :
    parseSyncReply sds (XCONTINUE ++ optionText .gtidSet gtidCont ++ optionText .gtidLost gtidLost ++
        optionText .masterUuid masterUuid ++ optionText .replid replid ++
        optionText .reploff (longText reploff)) rand =
      parseReplyOptions xcontinueOptions xcontinueOf
        [ReplyOption.gtidSet.written, gtidCont, ReplyOption.gtidLost.written, gtidLost,
          ReplyOption.masterUuid.written, masterUuid, ReplyOption.replid.written, replid,
          ReplyOption.reploff.written, longText reploff] rand := by
  have hsplit := hsds.splitter_len
  have htokens := hsplit.options ⟨.gtidSet, gtidCont, gtidCont⟩
    [⟨.gtidLost, gtidLost, gtidLost⟩, ⟨.masterUuid, masterUuid, masterUuid⟩,
      ⟨.replid, replid, replid⟩, ⟨.reploff, longText reploff, longText reploff⟩] (by
    simp only [List.forall_mem_cons, List.not_mem_nil, false_implies, implies_true, and_true]
    exact ⟨hcont, hlost, hsplit.writes h.masterUuid_word, hsplit.writes h.replid_word,
      hsplit.writes (isWord_longText h.reploff_nonneg)⟩)
  simp only [List.flatMap_cons, List.flatMap_nil, List.append_nil, List.cons_append, List.nil_append,
    Option.some.injEq] at htokens
  simp only [List.append_assoc]
  rw [parseSyncReply, if_neg (not_xfullresync _), if_pos (List.prefix_append _ _),
    parseSyncReplyXcontinue, xcontinueTokens, List.drop_left, htokens]

/-- The options of a XCONTINUE line. -/
theorem parseSyncReply_xcontinue (hsds : sds.Splits)
    (h : ReplyIdentity masterUuid replid reploff)
    (hcont : Writes (fun s => some (sds.sdssplitlen s)) gtidCont gtidCont)
    (hlost : Writes (fun s => some (sds.sdssplitlen s)) gtidLost gtidLost)
    (hc : gtidSetDecode (gtidCont ++ [0]) 0 gtidCont.length (rand.sub 0) = some (some c))
    (hl : gtidSetDecode (gtidLost ++ [0]) 0 gtidLost.length ((rand.sub 1).sub 0) = some (some l)) :
    parseSyncReply sds (XCONTINUE ++ optionText .gtidSet gtidCont ++ optionText .gtidLost gtidLost ++
        optionText .masterUuid masterUuid ++ optionText .replid replid ++
        optionText .reploff (longText reploff)) rand =
      some (.xcontinue c l masterUuid replid reploff) := by
  obtain ⟨rand', hfields⟩ := parseFields_xcontinue masterUuid h.replid_length h.reploff_nonneg
    h.reploff_le hc hl
  rw [parseSyncReply_xcontinue_tokens hsds h hcont hlost, parseReplyOptions_eq (hfields [])]
  exact congrArg some (if_neg (not_lt.mpr h.reploff_nonneg))

/-- A replica whose decoder fails on one of the sets does not read the line. -/
theorem parseSyncReply_xcontinue_fails (hsds : sds.Splits)
    (h : ReplyIdentity masterUuid replid reploff)
    (hcont : Writes (fun s => some (sds.sdssplitlen s)) gtidCont gtidCont)
    (hlost : Writes (fun s => some (sds.sdssplitlen s)) gtidLost gtidLost)
    (hfails : gtidSetDecode (gtidCont ++ [0]) 0 gtidCont.length (rand.sub 0) = none ∨
      (∃ c, gtidSetDecode (gtidCont ++ [0]) 0 gtidCont.length (rand.sub 0) = some (some c)) ∧
        gtidSetDecode (gtidLost ++ [0]) 0 gtidLost.length ((rand.sub 1).sub 0) = none) :
    parseSyncReply sds (XCONTINUE ++ optionText .gtidSet gtidCont ++ optionText .gtidLost gtidLost ++
        optionText .masterUuid masterUuid ++ optionText .replid replid ++
        optionText .reploff (longText reploff)) rand = none := by
  rw [parseSyncReply_xcontinue_tokens hsds h hcont hlost, parseReplyOptions]
  rcases hfails with hc | ⟨⟨c, hc⟩, hl⟩
  · rw [parseFields_fails (replyOption_xcontinue .gtidSet) (setField_gtidSet_fails hc)]
    rfl
  · rw [parseFields_option (replyOption_xcontinue .gtidSet) (setField_gtidSet hc),
      parseFields_fails (replyOption_xcontinue .gtidLost) (setField_gtidLost_fails hl)]
    rfl

theorem zero_notMem_optionText {option : ReplyOption} {text : Bytes} (h : 0 ∉ text) :
    0 ∉ optionText option text := by
  have hname := (isWord_written option).notMem not_wordByte_zero
  have hspace : (0 : UInt8) ≠ space := by decide
  rw [optionText, List.cons_append, List.mem_cons, List.mem_append, List.mem_cons]
  tauto

theorem cString_eq {b : Bytes} (h : 0 ∉ b) : cString b = b := takeWhile_of_notMem h

/-- The options of a XFULLRESYNC line. -/
theorem parseSyncReply_xfullresync (hsds : sds.Splits)
    (h : ReplyIdentity masterUuid replid reploff) (hlost : Writes sds.sdssplitargs gtidLost lost)
    (hl : gtidSetDecode (lost ++ [0]) 0 lost.length (rand.sub 0) = some (some l)) :
    parseSyncReply sds (XFULLRESYNC ++ optionText .gtidLost gtidLost ++
        optionText .masterUuid masterUuid ++ optionText .replid replid ++
        optionText .reploff (longText reploff)) rand =
      some (.xfullresync l masterUuid replid reploff) := by
  have hsplit := hsds.splitter_args
  have hreploff := isWord_longText h.reploff_nonneg
  have htokens := hsplit.options ⟨.gtidLost, gtidLost, lost⟩
    [⟨.masterUuid, masterUuid, masterUuid⟩, ⟨.replid, replid, replid⟩,
      ⟨.reploff, longText reploff, longText reploff⟩] (by
    simp only [List.forall_mem_cons, List.not_mem_nil, false_implies, implies_true, and_true]
    exact ⟨hlost, hsplit.writes h.masterUuid_word, hsplit.writes h.replid_word,
      hsplit.writes hreploff⟩)
  simp only [List.flatMap_cons, List.flatMap_nil, List.append_nil, List.cons_append, List.nil_append]
    at htokens
  have hzero : 0 ∉ optionText .gtidLost gtidLost ++ (optionText .masterUuid masterUuid ++
      (optionText .replid replid ++ optionText .reploff (longText reploff))) := by
    simp only [List.mem_append, not_or]
    exact ⟨zero_notMem_optionText hlost.zero_notMem,
      zero_notMem_optionText (h.masterUuid_word.notMem not_wordByte_zero),
      zero_notMem_optionText (h.replid_word.notMem not_wordByte_zero),
      zero_notMem_optionText (hreploff.notMem not_wordByte_zero)⟩
  obtain ⟨rand', hfields⟩ := parseFields_xfullresync masterUuid h.replid_length h.reploff_nonneg
    h.reploff_le hl
  have hdrop := fun hmem => hzero ((List.dropWhile_suffix isSpace).subset hmem)
  simp only [List.append_assoc]
  rw [parseSyncReply, if_pos (List.prefix_append _ _), parseSyncReplyXfullresync, xfullresyncTokens,
    List.drop_left, cString_eq hdrop, htokens, Option.getD_some, parseReplyOptions_eq (hfields [])]
  exact congrArg some (if_neg (not_lt.mpr h.reploff_nonneg))

end Parse

/-! ## Sets -/

/-- Printable bytes that are neither a space, nor a separator, nor a quote, nor a backslash. -/
def Plain (uuid : Bytes) : Prop :=
  ∀ c ∈ uuid, 33 ≤ c ∧ c ≤ 126 ∧ c ≠ colon ∧ c ≠ split ∧ c ≠ quote ∧ c ≠ singleQuote ∧
    c ≠ '\\'.toUInt8

instance (uuid : Bytes) : Decidable (Plain uuid) := by unfold Plain; infer_instance

section Sets
variable {s : GtidSet} {uuid : Bytes} {es : List Entry} {c : UInt8}

theorem Plain.wordByte (h : Plain uuid) (hc : c ∈ uuid) : WordByte c := by
  obtain ⟨hle, -, -, -, hquote, hsingle, -⟩ := h c hc
  exact wordByte_of_le hle hquote hsingle

theorem Plain.isWord (h : Plain uuid) (hne : uuid ≠ []) : IsWord uuid := ⟨hne, fun _ => h.wordByte⟩

theorem Plain.writable (h : Plain uuid) : Writable uuid :=
  ⟨fun hmem => (h _ hmem).2.2.1 rfl, fun hmem => (h _ hmem).2.2.2.1 rfl⟩

/-- The bytes in the text of a set. -/
theorem wordByte_of_mem_text (hvalid : ∀ e ∈ es, Valid e.2) (hplain : ∀ e ∈ es, Plain e.1)
    (hc : c ∈ gtidSetText es) : WordByte c := by
  have hentry : ∀ e ∈ es, ∀ c ∈ uuidSetText e, WordByte c := by
    intro e he c hc
    rcases List.mem_append.mp hc with hc | hc
    · exact (hplain e he).wordByte hc
    · obtain ⟨i, hi, hc⟩ := List.mem_flatMap.mp hc
      have hi := hvalid e he i hi
      rcases List.mem_cons.mp hc with rfl | hc
      · decide
      · by_contra hno
        have hdigit : ¬ IsDigit c := fun h => hno (wordByte_of_isDigit h)
        have hhyphen : c ≠ hyphen := by
          rintro rfl
          exact hno (by decide)
        exact notMem_intervalText ⟨hi.1, hi.2.1⟩ hdigit hhyphen hc
  cases es with
  | nil => cases hc
  | cons e es =>
    rcases List.mem_append.mp hc with hc | hc
    · exact hentry e List.mem_cons_self c hc
    · obtain ⟨e', he', hc⟩ := List.mem_flatMap.mp hc
      rcases List.mem_cons.mp hc with rfl | hc
      · decide
      · exact hentry e' (List.mem_cons_of_mem e he') c hc

theorem contents_eq_empty_iff (h : WellFormedSet s) :
    contents s = ∅ ↔ nonEmpty (entries s) = [] := by
  constructor
  · intro hempty
    by_contra hne
    obtain ⟨e, he⟩ := List.exists_mem_of_ne_nil _ hne
    obtain ⟨g, hg⟩ := h.exists_gno he
    rw [hempty] at hg
    exact Finset.notMem_empty _ hg
  · intro hnil
    rw [contents, ← pairs_nonEmpty, hnil]
    rfl

theorem WellFormedSet.restorable_of_empty (h : WellFormedSet s) (hempty : contents s = ∅) :
    RestorableSet s := by
  rw [← restorable_nonEmpty, (contents_eq_empty_iff h).mp hempty]
  exact fun _ he => absurd he List.not_mem_nil

theorem gtidSetText_nonEmpty_ne_nil (h : nonEmpty es ≠ []) : gtidSetText (nonEmpty es) ≠ [] := by
  obtain ⟨e, l, hl⟩ := List.exists_cons_of_ne_nil h
  have he : e ∈ nonEmpty es := by
    rw [hl]
    exact List.mem_cons_self
  obtain ⟨i, l', hi⟩ := List.exists_cons_of_ne_nil (of_decide_eq_true (List.mem_filter.mp he).2)
  rw [hl, gtidSetText, uuidSetText, hi, intervalsText, List.flatMap_cons]
  simp

/-- The members of the set, and no uuid that it does not have. -/
def ReadBack (s t : GtidSet) : Prop := SameMembers s t ∧ keys (entries t) ⊆ keys (entries s)

/-- The text of a set. -/
def setText (s : GtidSet) : Bytes := gtidSetText (nonEmpty (entries s))

/-- A set whose text can stand in a line; no object is larger than `2 ^ 63` bytes. -/
structure Sendable (s : GtidSet) : Prop where
  wellFormed : WellFormedSet s
  plain : ∀ uuid ∈ keys (entries s), Plain uuid
  length_lt : (setText s).length < 2 ^ 63

theorem Sendable.plain_nonEmpty (h : Sendable s) : ∀ e ∈ nonEmpty (entries s), Plain e.1 :=
  fun _ he => h.plain _ (List.mem_map_of_mem (List.mem_of_mem_filter he))

theorem Sendable.wordByte (h : Sendable s) : ∀ c ∈ setText s, WordByte c := by
  have hreadable := h.wellFormed.readable (fun e he => (h.plain_nonEmpty e he).writable)
  exact fun c hc => wordByte_of_mem_text (fun e he => (hreadable e he).valid) h.plain_nonEmpty hc

theorem Sendable.dump (h : Sendable s) : gtidSetDump s = some (setText s) :=
  gtidSetDump_spec h.wellFormed h.length_lt

theorem Sendable.decode (h : Sendable s) (hlen : (setText s).length < 2 ^ 31) (rand : Rand) :
    (¬ RestorableSet s ∧
        gtidSetDecode (setText s ++ [0]) 0 (setText s).length rand = none) ∨
      ∃ t, gtidSetDecode (setText s ++ [0]) 0 (setText s).length rand = some (some t) ∧
        RestorableSet s ∧ WellFormedSet t ∧ entries t = nonEmpty (entries s) :=
  h.wellFormed.decode_text (fun e he => (h.plain_nonEmpty e he).writable)
    (addressable_of_length_lt hlen) (textAt_append.mp (textAt_self (setText s ++ [0]))).1 rand

theorem Sendable.readBack {t : GtidSet} (h : Sendable s) (ht : WellFormedSet t)
    (hes : entries t = nonEmpty (entries s)) : ReadBack s t := by
  have hsame : contents t = contents s := by rw [contents, hes, pairs_nonEmpty]; rfl
  refine ⟨h.wellFormed.sameMembers ht hsame, ?_⟩
  rw [hes]
  exact (List.filter_sublist.map Prod.fst).subset

theorem Sendable.text_ne_nil (h : Sendable s) (hne : contents s ≠ ∅) : setText s ≠ [] := by
  apply gtidSetText_nonEmpty_ne_nil
  exact fun hnil => hne ((contents_eq_empty_iff h.wellFormed).mpr hnil)

theorem Sendable.text_nil (h : Sendable s) (hempty : contents s = ∅) : setText s = [] := by
  rw [setText, (contents_eq_empty_iff h.wellFormed).mp hempty]
  rfl

theorem gtidSetQuoteIfEmpty_of_ne {text : Bytes} (h : text ≠ []) : gtidSetQuoteIfEmpty text = text :=
  if_neg (fun hlen => h (List.length_eq_zero_iff.mp hlen))

/-- Two quotes are decoded as a uuid. -/
theorem gtidSetDecode_quotes (rand : Rand) :
    ∃ t, gtidSetDecode ([quote, quote] ++ [0]) 0 [quote, quote].length rand = some (some t) ∧
      keys (entries t) = [[quote, quote]] :=
  ⟨_, rfl, rfl⟩

/-- **A set in a XCONTINUE line**, where the quotes are not taken away. -/
theorem Sendable.decode_quoted (h : Sendable s) (hlen : (setText s).length < 2 ^ 31) (rand : Rand) :
    (¬ RestorableSet s ∧ gtidSetDecode (gtidSetQuoteIfEmpty (setText s) ++ [0]) 0
        (gtidSetQuoteIfEmpty (setText s)).length rand = none) ∨
      ∃ t, gtidSetDecode (gtidSetQuoteIfEmpty (setText s) ++ [0]) 0
          (gtidSetQuoteIfEmpty (setText s)).length rand = some (some t) ∧
        RestorableSet s ∧ (ReadBack s t ↔ contents s ≠ ∅) := by
  by_cases hempty : contents s = ∅
  · obtain ⟨t, hdecode, hkeys⟩ := gtidSetDecode_quotes rand
    rw [h.text_nil hempty]
    refine Or.inr ⟨t, hdecode, h.wellFormed.restorable_of_empty hempty,
      iff_of_false ?_ (not_not.mpr hempty)⟩
    rintro ⟨-, hsub⟩
    rw [hkeys] at hsub
    have hplain := h.plain _ (hsub List.mem_cons_self)
    exact (hplain quote List.mem_cons_self).2.2.2.2.1 rfl
  · rw [gtidSetQuoteIfEmpty_of_ne (h.text_ne_nil hempty)]
    rcases h.decode hlen rand with hfails | ⟨t, hdecode, hrestorable, ht, hes⟩
    · exact Or.inl hfails
    · exact Or.inr ⟨t, hdecode, hrestorable, iff_of_true (h.readBack ht hes) hempty⟩

theorem Sendable.writes_len {sds : Sds} (hsds : sds.Splits) (h : Sendable s) :
    Writes (fun s => some (sds.sdssplitlen s)) (gtidSetQuoteIfEmpty (setText s))
      (gtidSetQuoteIfEmpty (setText s)) := by
  by_cases hnil : setText s = []
  · rw [hnil]
    have hquotes : gtidSetQuoteIfEmpty [] = [quote, quote] := rfl
    have hspace : space ∉ [quote, quote] := by decide
    rw [hquotes]
    refine ⟨List.cons_ne_nil _ _, by decide, ?_⟩
    rw [hsds.len _ (List.cons_ne_nil _ _), List.splitOn_eq_singleton hspace]
  · rw [gtidSetQuoteIfEmpty_of_ne hnil]
    exact hsds.splitter_len.writes ⟨hnil, h.wordByte⟩

theorem Sendable.writes_args {sds : Sds} (hsds : sds.Splits) (h : Sendable s) :
    Writes sds.sdssplitargs (gtidSetQuoteIfEmpty (setText s)) (setText s) := by
  by_cases hnil : setText s = []
  · rw [hnil]
    exact ⟨List.cons_ne_nil _ _, by decide, hsds.args_quotes⟩
  · rw [gtidSetQuoteIfEmpty_of_ne hnil]
    exact hsds.splitter_args.writes ⟨hnil, h.wordByte⟩

theorem Sendable.quoted_zero (h : Sendable s) : 0 ∉ gtidSetQuoteIfEmpty (setText s) := by
  by_cases hnil : setText s = []
  · rw [hnil]
    decide
  · rw [gtidSetQuoteIfEmpty_of_ne hnil]
    exact fun hmem => not_wordByte_zero (h.wordByte 0 hmem)

theorem replyIdentity_of_plain {masterUuid replid : Bytes} {reploff : Int}
    (huuid : 1 ≤ masterUuid.length) (huuid' : Plain masterUuid)
    (hreplid : replid.length = CONFIG_RUN_ID_SIZE) (hreplid' : Plain replid)
    (hreploff : 0 ≤ reploff ∧ reploff ≤ LLONG_MAX) : ReplyIdentity masterUuid replid reploff where
  masterUuid_word := huuid'.isWord (List.length_pos_iff.mp huuid)
  replid_word := by
    apply hreplid'.isWord
    rintro rfl
    cases hreplid
  replid_length := hreplid
  reploff_nonneg := hreploff.1
  reploff_le := hreploff.2

theorem length_le_quoted (text : Bytes) : text.length ≤ (gtidSetQuoteIfEmpty text).length := by
  rw [gtidSetQuoteIfEmpty]
  split
  · rw [List.length_append]
    exact Nat.le_add_right _ _
  · exact le_refl _

end Sets

/-! ## Lines -/

section Lines
variable {sds : Sds} {cont lost : GtidSet} {masterUuid replid : Bytes} {reploff : Int} {rand : Rand}
  {line : Bytes} {size : Nat}

theorem printed_eq (hsize : line.length < size) (hint : line.length < 2147483648) :
    printed size line = some line := by
  have htake : line.take (size - 1) = line := List.take_of_length_le (by omega)
  have hroom : 0 + (line ++ [0]).length ≤ (List.replicate size (0 : UInt8)).length := by
    rw [List.length_append, List.length_singleton, List.length_replicate]
    omega
  obtain ⟨mem, hcopy, hw⟩ := memcpy_written _ _ 0 hroom
  have hprint : snprintf (List.replicate size 0) 0 size line = some (mem, (line.length : Int)) := by
    rw [snprintf, if_pos hint, if_neg (by omega), htake, hcopy]
    rfl
  have hline : mem.take line.length = line := by
    have hall := hw.take_zero
    rw [List.length_append, List.length_singleton] at hall
    rw [← Nat.min_eq_left (Nat.le_succ line.length), ← List.take_take, hall, List.take_left]
  have hguard : (guard (0 ≤ (line.length : Int) ∧ (line.length : Int) ≤ size) : Option Unit) =
      some () := if_pos (by omega)
  rw [printed, hprint]
  simp only [Option.bind_eq_bind, Option.bind_some, hguard, Int.toNat_natCast, hline]

theorem printed_none (hint : 2147483648 ≤ line.length) : printed size line = none := by
  rw [printed, snprintf, if_neg (not_lt.mpr hint)]
  by_cases hzero : size = 0
  · rw [if_pos hzero]
    rfl
  · rw [if_neg hzero]
    cases memcpy (List.replicate size 0) 0 (line.take (size - 1) ++ [0]) <;> rfl

theorem length_optionText (option : ReplyOption) (value : Bytes) :
    (optionText option value).length = option.written.length + value.length + 2 := by
  rw [optionText, List.length_append, List.length_cons, List.length_cons]
  omega

/-- The text of a XCONTINUE line, without its end. -/
def xcontinueText (cont lost masterUuid replid : Bytes) (reploff : Int) : Bytes :=
  XCONTINUE ++ optionText .gtidSet cont ++ optionText .gtidLost lost ++
    optionText .masterUuid masterUuid ++ optionText .replid replid ++
    optionText .reploff (longText reploff)

theorem length_xcontinueText (cont lost masterUuid replid : Bytes) (reploff : Int) :
    (xcontinueText cont lost masterUuid replid reploff).length =
      cont.length + lost.length + masterUuid.length + replid.length + (longText reploff).length +
        61 := by
  have hnames : XCONTINUE.length = 10 ∧ ReplyOption.gtidSet.written.length = 8 ∧
      ReplyOption.gtidLost.written.length = 9 ∧ ReplyOption.masterUuid.written.length = 11 ∧
      ReplyOption.replid.written.length = 6 ∧ ReplyOption.reploff.written.length = 7 := by
    decide
  simp only [xcontinueText, List.length_append, length_optionText, hnames]
  omega

/-- A line in a buffer that has some bytes more: one whose size an `int` does not hold is not
allocated, or its line is too long for `snprintf`. -/
theorem printed_buflen {n : Nat} (hroom : line.length < n) (hsize : n ≤ line.length + 256) :
    (guard (0 ≤ intOfSize (n : Int)) : Option Unit).bind
        (fun _ => printed (intOfSize (n : Int)).toNat line) =
      if n < 2 ^ 31 then some line else none := by
  split
  · rename_i hshort
    have hguard : (guard (0 ≤ (n : Int)) : Option Unit) = some () := if_pos (Int.natCast_nonneg n)
    rw [intOfSize_natCast hshort, hguard, Option.bind_some, Int.toNat_natCast]
    exact printed_eq hroom (by omega)
  · rename_i hlong
    by_cases hneg : 0 ≤ intOfSize (n : Int)
    · have hwrap := (intOfSize_of_le (x := (n : Int)) (by omega)).resolve_left (by omega)
      have hnone : printed (intOfSize (n : Int)).toNat line = none := printed_none (by omega)
      rw [hnone]
      exact Option.bind_fun_none _
    · have hguard : (guard (0 ≤ intOfSize (n : Int)) : Option Unit) = none := if_neg hneg
      rw [hguard, Option.bind_none]

/-- Exactly lines whose size an `int` holds are built. -/
theorem line_xcontinue (hcont : Sendable cont) (hlost : Sendable lost)
    (h : ReplyIdentity masterUuid replid reploff) (huuid : masterUuid.length ≤ CONFIG_RUN_ID_SIZE) :
    SyncReply.line (.xcontinue cont lost masterUuid replid reploff) =
      if (gtidSetQuoteIfEmpty (setText cont)).length + (gtidSetQuoteIfEmpty (setText lost)).length +
          256 < 2 ^ 31 then
        some (xcontinueText (gtidSetQuoteIfEmpty (setText cont)) (gtidSetQuoteIfEmpty (setText lost))
          masterUuid replid reploff ++ crlf)
      else none := by
  have hlow : LLONG_MIN ≤ reploff := by
    have := h.reploff_nonneg
    unfold LLONG_MIN
    omega
  have hnumber := length_longText_le_twenty hlow h.reploff_le
  have hid := h.replid_length
  have hforty : CONFIG_RUN_ID_SIZE = 40 := rfl
  have hlength : (xcontinueText (gtidSetQuoteIfEmpty (setText cont))
      (gtidSetQuoteIfEmpty (setText lost)) masterUuid replid reploff ++ crlf).length =
      (gtidSetQuoteIfEmpty (setText cont)).length + (gtidSetQuoteIfEmpty (setText lost)).length +
        masterUuid.length + replid.length + (longText reploff).length + 63 := by
    rw [List.length_append, length_xcontinueText]
    rfl
  rw [← printed_buflen (by omega) (by omega), SyncReply.line, hcont.dump, hlost.dump,
    Option.bind_eq_bind, Option.bind_some, Option.bind_eq_bind, Option.bind_some]
  dsimp only
  rw [cString_eq hcont.quoted_zero, cString_eq hlost.quoted_zero,
    cString_eq (h.masterUuid_word.notMem not_wordByte_zero),
    cString_eq (h.replid_word.notMem not_wordByte_zero)]
  rfl

/-- A replica that reads the XCONTINUE line has what the master has put in. -/
def XcontinueReadBack (sds : Sds) (cont lost : GtidSet) (masterUuid replid : Bytes) (reploff : Int)
    (rand : Rand) : Prop :=
  ∃ line c l, SyncReply.line (.xcontinue cont lost masterUuid replid reploff) = some (line ++ crlf) ∧
    parseSyncReply sds line rand = some (.xcontinue c l masterUuid replid reploff) ∧
    ReadBack cont c ∧ ReadBack lost l

/-- One that reads the XFULLRESYNC line. -/
def XfullresyncReadBack (sds : Sds) (lost : GtidSet) (masterUuid replid : Bytes) (reploff : Int)
    (rand : Rand) : Prop :=
  ∃ line l, xfullresyncLine lost masterUuid replid reploff = some (line ++ crlf) ∧
    parseSyncReply sds line rand = some (.xfullresync l masterUuid replid reploff) ∧
    ReadBack lost l

/-- **XFULLRESYNC**: an empty set is written as quotes that are taken away. -/
theorem xfullresync_readBack (hsds : sds.Splits) (hlost : Sendable lost)
    (hrestorable : RestorableSet lost) (h : ReplyIdentity masterUuid replid reploff)
    (hlen : (setText lost).length < 2 ^ 31) :
    XfullresyncReadBack sds lost masterUuid replid reploff rand := by
  obtain ⟨l, hl, -, hlw, hles⟩ := (hlost.decode hlen (rand.sub 0)).resolve_left
    (fun hfails => hfails.1 hrestorable)
  refine ⟨_, l, ?_, parseSyncReply_xfullresync hsds h (hlost.writes_args hsds) hl,
    hlost.readBack hlw hles⟩
  rw [xfullresyncLine, hlost.dump, cString_eq (h.replid_word.notMem not_wordByte_zero)]
  rfl

/-- A line that is parsed to nothing is not read back. -/
theorem not_xcontinueReadBack
    (hline : SyncReply.line (.xcontinue cont lost masterUuid replid reploff) = some (line ++ crlf))
    (hparse : parseSyncReply sds line rand = none) :
    ¬ XcontinueReadBack sds cont lost masterUuid replid reploff rand := by
  rintro ⟨line', c, l, hwritten, hread, -⟩
  obtain rfl : line = line' := List.append_cancel_right (Option.some.inj (hline.symm.trans hwritten))
  rw [hparse] at hread
  cases hread

/-- **XCONTINUE**: quotes are read as a uuid, and the decoder does not read several intervals of one
uuid up to `LLONG_MAX`. -/
theorem xcontinue_readBack_iff (hsds : sds.Splits) (hcont : Sendable cont) (hlost : Sendable lost)
    (h : ReplyIdentity masterUuid replid reploff) (huuid : masterUuid.length ≤ CONFIG_RUN_ID_SIZE) :
    XcontinueReadBack sds cont lost masterUuid replid reploff rand ↔
      contents cont ≠ ∅ ∧ contents lost ≠ ∅ ∧ RestorableSet cont ∧ RestorableSet lost ∧
        (setText cont).length + (setText lost).length + 256 < 2 ^ 31 := by
  have hline := line_xcontinue hcont hlost h huuid
  by_cases hsize : (gtidSetQuoteIfEmpty (setText cont)).length +
      (gtidSetQuoteIfEmpty (setText lost)).length + 256 < 2 ^ 31
  · rw [if_pos hsize] at hline
    have hlen := length_le_quoted (setText cont)
    have hlen' := length_le_quoted (setText lost)
    rcases hcont.decode_quoted (by omega) (rand.sub 0) with ⟨hnot, hc⟩ | ⟨c, hc, hok, hcback⟩
    · exact iff_of_false (not_xcontinueReadBack hline (parseSyncReply_xcontinue_fails hsds h
        (hcont.writes_len hsds) (hlost.writes_len hsds) (Or.inl hc))) (fun hcond => hnot hcond.2.2.1)
    rcases hlost.decode_quoted (by omega) ((rand.sub 1).sub 0) with
      ⟨hnot, hl⟩ | ⟨l, hl, hok', hlback⟩
    · exact iff_of_false (not_xcontinueReadBack hline (parseSyncReply_xcontinue_fails hsds h
        (hcont.writes_len hsds) (hlost.writes_len hsds) (Or.inr ⟨⟨c, hc⟩, hl⟩)))
        (fun hcond => hnot hcond.2.2.2.1)
    have hparse := parseSyncReply_xcontinue hsds h (hcont.writes_len hsds) (hlost.writes_len hsds)
      hc hl
    constructor
    · rintro ⟨line, c', l', hwritten, hread, hback, hback'⟩
      obtain rfl : _ = line := List.append_cancel_right (Option.some.inj (hline.symm.trans hwritten))
      cases hparse.symm.trans hread
      exact ⟨hcback.mp hback, hlback.mp hback', hok, hok', by omega⟩
    · rintro ⟨hne, hne', -⟩
      exact ⟨_, c, l, hline, hparse, hcback.mpr hne, hlback.mpr hne'⟩
  · rw [if_neg hsize] at hline
    constructor
    · rintro ⟨line, c, l, hwritten, -⟩
      rw [hline] at hwritten
      cases hwritten
    · rintro ⟨hne, hne', -, -, hshort⟩
      rw [gtidSetQuoteIfEmpty_of_ne (hcont.text_ne_nil hne),
        gtidSetQuoteIfEmpty_of_ne (hlost.text_ne_nil hne')] at hsize
      exact absurd hshort hsize

theorem getMasterUuid_masterSetup [RedisReplication] {server server' : Server} {offset : Int}
    (h : masterSetupPartialSynchronization server offset = some server') :
    getMasterUuid server' = getMasterUuid server := by
  rw [masterSetupPartialSynchronization] at h
  split at h
  · obtain ⟨s, hs, h⟩ := Option.bind_eq_some_iff.mp h
    obtain ⟨_, _, h⟩ := Option.bind_eq_some_iff.mp h
    cases hs
    cases h
    rfl
  · obtain ⟨s, hs, h⟩ := Option.bind_eq_some_iff.mp h
    obtain ⟨_, _, h⟩ := Option.bind_eq_some_iff.mp h
    rw [ctripCreateReplicationBacklog, createReplicationBacklog_eq] at hs
    obtain ⟨_, _, hs⟩ := Option.bind_eq_some_iff.mp hs
    cases hs
    cases h
    rfl

/-- **A replica parses what a master writes** if and only if no set is empty, no uuid of them with
several intervals reaches `LLONG_MAX`, and the line has a size that an `int` holds. -/
theorem replyLines_readBack_iff (hsds : sds.Splits) (hcont : Sendable cont) (hlost : Sendable lost)
    (huuid : 1 ≤ masterUuid.length ∧ masterUuid.length ≤ CONFIG_RUN_ID_SIZE)
    (huuid' : Plain masterUuid) (hreplid : replid.length = CONFIG_RUN_ID_SIZE)
    (hreplid' : Plain replid) (hreploff : 0 ≤ reploff ∧ reploff ≤ LLONG_MAX) (rand : Rand) :
    XcontinueReadBack sds cont lost masterUuid replid reploff rand ∧
        XfullresyncReadBack sds lost masterUuid replid reploff rand ↔
      contents cont ≠ ∅ ∧ contents lost ≠ ∅ ∧ RestorableSet cont ∧ RestorableSet lost ∧
        (setText cont).length + (setText lost).length + 256 < 2 ^ 31 := by
  have h := replyIdentity_of_plain huuid.1 huuid' hreplid hreplid' hreploff
  have hiff : XcontinueReadBack sds cont lost masterUuid replid reploff rand ↔ _ :=
    xcontinue_readBack_iff hsds hcont hlost h huuid.2
  constructor
  · exact fun hback => hiff.mp hback.1
  · intro hcond
    exact ⟨hiff.mpr hcond, xfullresync_readBack hsds hlost hcond.2.2.2.1 h (by omega)⟩

/-- The line of a master that answers a request with XCONTINUE. -/
theorem masterReplySyncRequest_readBack [RedisReplication] {server server' : Server}
    {result : SyncResult}
    {reply : SyncReply} {deltaLost : GtidSet} {rand' : Rand} (hsds : sds.Splits)
    (hact : result.action = .xcontinue replid reploff cont deltaLost)
    (hrun : masterReplySyncRequest server result rand' = some (server', reply))
    (hcont : Sendable cont) (hlost : Sendable server.gtidLost)
    (h : ReplyIdentity (getMasterUuid server') replid reploff)
    (huuid : (getMasterUuid server').length ≤ CONFIG_RUN_ID_SIZE) :
    (∃ line c l, reply.line = some (line ++ crlf) ∧
      parseSyncReply sds line rand =
        some (.xcontinue c l (getMasterUuid server') replid reploff) ∧
      ReadBack cont c ∧ ReadBack server.gtidLost l) ↔
    contents cont ≠ ∅ ∧ contents server.gtidLost ≠ ∅ ∧ RestorableSet cont ∧
      RestorableSet server.gtidLost ∧
      (setText cont).length + (setText server.gtidLost).length + 256 < 2 ^ 31 := by
  rw [← xcontinue_readBack_iff hsds hcont hlost h huuid, XcontinueReadBack]
  have hreply : reply = .xcontinue cont server.gtidLost (getMasterUuid server') replid reploff := by
    rw [masterReplySyncRequest, hact] at hrun
    obtain ⟨⟨s₁, b⟩, -, hrun⟩ := Option.bind_eq_some_iff.mp hrun
    obtain ⟨s₂, hsetup, hrun⟩ := Option.bind_eq_some_iff.mp hrun
    cases hrun
    rw [getMasterUuid_masterSetup hsetup]
  rw [hreply]

/-- The line of a master in xsync mode that answers with XFULLRESYNC. -/
theorem replicationSetupSlaveForXFullResync_readBack {server : Server} (hsds : sds.Splits)
    (hmode : server.replMode.mode = .xsync) (hlost : Sendable server.gtidLost)
    (hrestorable : RestorableSet server.gtidLost)
    (h : ReplyIdentity (getMasterUuid server) server.replid
      (server.masterReplOffset + server.gtidReploffDelta))
    (hlen : (setText server.gtidLost).length < 2 ^ 31) :
    ∃ line l, replicationSetupSlaveForXFullResync server = some (line ++ crlf) ∧
      parseSyncReply sds line rand = some (.xfullresync l (getMasterUuid server) server.replid
        (server.masterReplOffset + server.gtidReploffDelta)) ∧ ReadBack server.gtidLost l := by
  obtain ⟨line, l, hline, hback⟩ : XfullresyncReadBack sds server.gtidLost (getMasterUuid server)
      server.replid (server.masterReplOffset + server.gtidReploffDelta) rand :=
    xfullresync_readBack hsds hlost hrestorable h hlen
  refine ⟨line, l, ?_, hback⟩
  rw [replicationSetupSlaveForXFullResync, ctripGetMasterReploff_eq (Or.inl hmode)]
  exact hline

end Lines

section Example

/-- Split at blanks; two quotes are an empty token. -/
def blankSds : Sds where
  sdssplitlen s := if s = [] then [] else s.splitOn space
  sdssplitargs s := some (((s.splitOnP isSpace).filter (fun w => w ≠ [])).map
    (fun w => if w = [quote, quote] then [] else w))

theorem blankSds_splits : blankSds.Splits where
  len _ hs := if_neg hs
  args_word w hw := by
    have hsplit : w.splitOnP isSpace = [w] := List.splitOnP_eq_singleton (fun c hc => (hw.2 c hc).2.1)
    have hquotes : w ≠ [quote, quote] := by
      rintro rfl
      exact (hw.2 quote List.mem_cons_self).2.2.1 rfl
    simp [blankSds, hsplit, hw.1, hquotes]
  args_quotes := rfl
  args_append a b ta tb c hc _ ha hb := by
    have hspace : ∀ c ∈ tokenEnds, isSpace c = true := by decide +kernel
    have hsplit : (a ++ c :: b).splitOnP isSpace = a.splitOnP isSpace ++ b.splitOnP isSpace :=
      List.splitOnP_append_cons a b (hspace c hc)
    simp only [blankSds] at ha hb ⊢
    rw [hsplit, List.filter_append, List.map_append, Option.some.inj ha, Option.some.inj hb]

theorem plain_forty : Plain (List.replicate 40 48) := by decide +kernel

theorem replyLines_readBack_one :
    ∃ s, Sendable s ∧ XcontinueReadBack blankSds s s [65] (List.replicate 40 48) 7 (fun _ => 0) ∧
      XfullresyncReadBack blankSds s [65] (List.replicate 40 48) 7 (fun _ => 0) := by
  obtain ⟨s, hs, hes⟩ := exists_set_with_empty
  have hplain : ∀ uuid ∈ keys (entries s), Plain uuid := by
    rw [hes]
    decide +kernel
  have htext : (setText s).length = 5 := by
    rw [setText, hes]
    rfl
  have hsend : Sendable s := ⟨hs.toWellFormedSet, hplain, by omega⟩
  have hne : contents s ≠ ∅ := by
    rw [ne_eq, contents_eq_empty_iff hs.toWellFormedSet, hes]
    decide
  have huuid : Plain [65] := by decide +kernel
  exact ⟨s, hsend, (replyLines_readBack_iff blankSds_splits hsend hsend ⟨le_refl 1, by decide⟩ huuid rfl
    plain_forty ⟨by decide, by decide⟩ _).mpr
    ⟨hne, hne, hs.restorable, hs.restorable, by omega⟩⟩

theorem sendable_new : Sendable gtidSetNew :=
  ⟨regularSet_new.1.toWellFormedSet, fun _ h => absurd h List.not_mem_nil, by decide⟩

/-- The XCONTINUE line of two empty sets. -/
theorem replyLines_readBack_counterexample :
    ¬ ∀ (sds : Sds) (cont lost : GtidSet) (masterUuid replid : Bytes) (reploff : Int) (rand : Rand),
      sds.Splits → Sendable cont → Sendable lost →
      1 ≤ masterUuid.length ∧ masterUuid.length ≤ CONFIG_RUN_ID_SIZE → Plain masterUuid →
      replid.length = CONFIG_RUN_ID_SIZE → Plain replid → 0 ≤ reploff ∧ reploff ≤ LLONG_MAX →
      XcontinueReadBack sds cont lost masterUuid replid reploff rand ∧
        XfullresyncReadBack sds lost masterUuid replid reploff rand := by
  intro h
  have huuid : Plain [65] := by decide +kernel
  have hreploff : (0 : Int) ≤ 7 ∧ (7 : Int) ≤ LLONG_MAX := by decide
  obtain ⟨hback, -⟩ := h blankSds gtidSetNew gtidSetNew [65] (List.replicate 40 48) 7 (fun _ => 0)
    blankSds_splits sendable_new sendable_new ⟨le_refl 1, by decide⟩ huuid rfl plain_forty hreploff
  have hid := replyIdentity_of_plain (le_refl 1) huuid rfl plain_forty hreploff
  have hcond := (xcontinue_readBack_iff blankSds_splits sendable_new sendable_new hid (by decide)).mp
    hback
  exact hcond.1 contents_new

end Example

end XredisGtid
