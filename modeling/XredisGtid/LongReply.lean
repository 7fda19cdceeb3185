import XredisGtid.SyncWire

/-!
# A reply that is too long

A replica reads the line that answers its request into a buffer of `GTID_XSYNC_MAX_REPLY_SIZE`
bytes, and a XCONTINUE line has the texts of two sets in it.  When the line does not fit, the
replica parses what has been read.  The offset comes last and has to be there, so a line that is
cut in front of it makes the replica ask for a full synchronization.  A line that is cut in the
offset is accepted, and the replica goes on from an offset without its last digits.
-/
namespace XredisGtid
open Buffer Decimal KeyedIntervals Memory

/-- A line for which the buffer is too small is read as far as the buffer goes. -/
def Connection.CutsLines (conn : Connection) : Prop :=
  ∀ received size, newline ∉ received.take (size - 1) → size ≤ received.length + 1 →
    conn.connSyncReadLine received size = .ok (received.take (size - 1), received.drop (size - 1))

/-- The name and the value of the last option are not yet there. -/
def xcontinueWords (cont lost masterUuid replid : Bytes) : List Bytes :=
  [cont, ReplyOption.gtidLost.written, lost, ReplyOption.masterUuid.written, masterUuid,
    ReplyOption.replid.written, replid, ReplyOption.reploff.written]

/-! ## Words that are cut -/

section Words
variable {sep : UInt8} {w v : Bytes} {words : List Bytes} {cont lost masterUuid replid : Bytes}
  {m k : Nat}

/-- **A text of words that is cut** has the words in front of the cut, and the beginning of one. -/
theorem splitOn_take (hw : sep ∉ w) (hwords : ∀ w' ∈ words, sep ∉ w') (m : Nat) :
    ∃ k v, k ≤ words.length ∧
      ((w ++ words.flatMap (fun w => sep :: w)).take m).splitOn sep =
        (w :: words).take k ++ [v] := by
  induction words generalizing w m with
  | nil =>
    refine ⟨0, w.take m, le_refl 0, ?_⟩
    rw [List.flatMap_nil, List.append_nil]
    exact List.splitOn_eq_singleton (fun hmem => hw (List.mem_of_mem_take hmem))
  | cons w' words ih =>
    rcases Nat.lt_or_ge w.length m with hlt | hle
    rotate_left
    · refine ⟨0, w.take m, Nat.zero_le _, ?_⟩
      rw [List.take_append_of_le_length hle]
      exact List.splitOn_eq_singleton (fun hmem => hw (List.mem_of_mem_take hmem))
    · obtain ⟨k, v, hk, hsplit⟩ := ih (hwords w' List.mem_cons_self)
        (fun u hu => hwords u (List.mem_cons_of_mem _ hu)) (m - w.length - 1)
      refine ⟨k + 1, v, Nat.succ_le_succ hk, ?_⟩
      have hcut : (w ++ (w' :: words).flatMap (fun w => sep :: w)).take m =
          w ++ sep :: (w' ++ words.flatMap (fun w => sep :: w)).take (m - w.length - 1) := by
        obtain ⟨n, rfl⟩ : ∃ n, m = w.length + (n + 1) := ⟨m - w.length - 1, by omega⟩
        rw [List.take_append, List.take_of_length_le (by omega), Nat.add_sub_cancel_left,
          List.flatMap_cons, List.cons_append, List.take_succ_cons, Nat.add_sub_cancel]
      rw [hcut, List.splitOn_append_cons_self, List.splitOn_eq_singleton hw, hsplit]
      rfl

theorem splitOn_words (hw : sep ∉ w) (hwords : ∀ w' ∈ words, sep ∉ w') :
    (w ++ words.flatMap (fun w => sep :: w)).splitOn sep = w :: words := by
  induction words generalizing w with
  | nil =>
    rw [List.flatMap_nil, List.append_nil]
    exact List.splitOn_eq_singleton hw
  | cons w' words ih =>
    rw [List.flatMap_cons, List.cons_append, List.splitOn_append_cons_self,
      List.splitOn_eq_singleton hw, ih (hwords w' List.mem_cons_self)
        (fun u hu => hwords u (List.mem_cons_of_mem _ hu))]
    rfl

/-- Of an odd number of tokens the last one is no name of an option. -/
theorem optionValues_words (hk : k ≤ 8) :
    optionValues xcontinueOptions .reploff
      ((ReplyOption.gtidSet.written :: xcontinueWords cont lost masterUuid replid).take k ++ [v]) =
        [] := by
  have hname : ∀ o : ReplyOption, replyOption xcontinueOptions o.written = some o :=
    replyOption_xcontinue
  interval_cases k <;> simp [xcontinueWords, optionValues, hname]

end Words

/-! ## A line that is cut -/

section Cut
variable {sds : Sds} {conn : Connection} {r : Server} {cont lost : GtidSet} {c l : Bytes}
  {masterUuid replid stream text : Bytes} {reploff off : Int} {n : Nat} {rand : Rand}
  {out : ReadOutcome}

/-- The text in front of the value of the last option. -/
def xcontinueHead (c l masterUuid replid : Bytes) : Bytes :=
  XCONTINUE ++ space :: (ReplyOption.gtidSet.written ++
    (xcontinueWords c l masterUuid replid).flatMap (fun w => space :: w))

theorem xcontinueText_eq (c l masterUuid replid : Bytes) (reploff : Int) :
    xcontinueText c l masterUuid replid reploff =
      xcontinueHead c l masterUuid replid ++ space :: longText reploff := by
  simp only [xcontinueText, xcontinueHead, xcontinueWords, optionText, List.flatMap_cons,
    List.flatMap_nil, List.append_assoc, List.cons_append, List.nil_append]

theorem length_xcontinueHead (c l masterUuid replid : Bytes) (reploff : Int) :
    (xcontinueText c l masterUuid replid reploff).length =
      (xcontinueHead c l masterUuid replid).length + (longText reploff).length + 1 := by
  rw [xcontinueText_eq, List.length_append, List.length_cons]
  rfl

/-- **A line that is cut in front of the offset** is not valid. -/
theorem parseSyncReply_cut (hsds : sds.Splits)
    (hwords : ∀ w ∈ xcontinueWords c l masterUuid replid, space ∉ w) (hstart : 11 < n)
    (hn : n ≤ (xcontinueHead c l masterUuid replid).length) {parsed : ParsedSyncReply}
    (h : parseSyncReply sds ((xcontinueHead c l masterUuid replid).take n) rand = some parsed) :
    parsed.isInvalid = true := by
  obtain ⟨m, rfl⟩ : ∃ m, n = XCONTINUE.length + (m + 2) := ⟨n - 12, by
    have hten : XCONTINUE.length = 10 := rfl
    omega⟩
  -- the text after the head starts with the name of the first option
  obtain ⟨body, hbody, hcut⟩ : ∃ body, body = (ReplyOption.gtidSet.written ++
      (xcontinueWords c l masterUuid replid).flatMap (fun w => space :: w)).take (m + 1) ∧
      (xcontinueHead c l masterUuid replid).take (XCONTINUE.length + (m + 2)) =
        XCONTINUE ++ space :: body := by
    refine ⟨_, rfl, ?_⟩
    rw [xcontinueHead, List.take_append, List.take_of_length_le (by omega),
      Nat.add_sub_cancel_left, List.take_succ_cons]
  have hspace : (space :: body).dropWhile isSpace = body := by
    rw [hbody]
    rfl
  have hne : body ≠ [] := by
    rw [hbody]
    exact List.cons_ne_nil _ _
  have hset : space ∉ ReplyOption.gtidSet.written :=
    (isWord_written .gtidSet).notMem not_wordByte_space
  obtain ⟨k, v, hk, hsplit⟩ := splitOn_take hset hwords (m + 1)
  have htokens : ReplyKind.xcontinue.tokens sds (XCONTINUE ++ space :: body) =
      (ReplyOption.gtidSet.written :: xcontinueWords c l masterUuid replid).take k ++ [v] := by
    rw [ReplyKind.tokens, xcontinueTokens, List.drop_left, hspace, hsds.len _ hne, hbody, hsplit]
  have hhead : ReplyKind.xcontinue.head <+: XCONTINUE ++ space :: body := List.prefix_append _ _
  rw [hcut, parseSyncReply_head hhead] at h
  by_contra hvalid
  have hgiven := (parseReplyOptions_given h (Bool.eq_false_iff.mpr hvalid)).given .reploff
    (by decide)
  rw [htokens] at hgiven
  exact hgiven (optionValues_words hk)

/-- **A line that is cut in the offset** is valid, with the number that is left of it. -/
theorem parseSyncReply_cutOffset {gc gl : GtidSet} (hsds : sds.Splits)
    (hwords : ∀ w ∈ xcontinueWords c l masterUuid replid, space ∉ w) (htext : space ∉ text)
    (hid : replid.length = CONFIG_RUN_ID_SIZE) (hnonneg : 0 ≤ strtoll text)
    (hc : gtidSetDecode (c ++ [0]) 0 c.length (rand.sub 0) = some (some gc))
    (hl : gtidSetDecode (l ++ [0]) 0 l.length ((rand.sub 1).sub 0) = some (some gl)) :
    parseSyncReply sds (xcontinueHead c l masterUuid replid ++ space :: text) rand =
      some (.xcontinue gc gl masterUuid replid (strtoll text)) := by
  have hset : space ∉ ReplyOption.gtidSet.written :=
    (isWord_written .gtidSet).notMem not_wordByte_space
  obtain ⟨body, hbody, hreply⟩ : ∃ body, body = (ReplyOption.gtidSet.written ++
      (xcontinueWords c l masterUuid replid).flatMap (fun w => space :: w)) ++ space :: text ∧
      xcontinueHead c l masterUuid replid ++ space :: text = XCONTINUE ++ space :: body := by
    refine ⟨_, rfl, ?_⟩
    rw [xcontinueHead, List.append_assoc, List.cons_append]
  have hspace : (space :: body).dropWhile isSpace = body := by
    rw [hbody]
    rfl
  have hne : body ≠ [] := by
    rw [hbody]
    exact List.append_ne_nil_of_right_ne_nil _ (List.cons_ne_nil _ _)
  have htokens : ReplyKind.xcontinue.tokens sds (XCONTINUE ++ space :: body) =
      ReplyOption.gtidSet.written :: xcontinueWords c l masterUuid replid ++ [text] := by
    rw [ReplyKind.tokens, xcontinueTokens, List.drop_left, hspace, hsds.len _ hne, hbody,
      List.splitOn_append_cons_self, splitOn_words hset hwords, List.splitOn_eq_singleton htext]
  have hhead : ReplyKind.xcontinue.head <+: XCONTINUE ++ space :: body := List.prefix_append _ _
  have hreploff : ∀ fields r, setField fields .reploff text r =
      some (.ok { fields with reploff := strtoll text }) := fun _ _ =>
    if_neg (not_lt.mpr hnonneg)
  have hfields : parseFields xcontinueOptions (ReplyOption.gtidSet.written ::
      xcontinueWords c l masterUuid replid ++ [text]) noFields rand =
        some (.ok ⟨some gc, some gl, some masterUuid, some replid, strtoll text⟩) := by
    simp only [xcontinueWords, List.cons_append, List.nil_append]
    rw [parseFields_option (replyOption_xcontinue .gtidSet) (setField_gtidSet hc),
      parseFields_option (replyOption_xcontinue .gtidLost) (setField_gtidLost hl),
      parseFields_option (replyOption_xcontinue .masterUuid) rfl,
      parseFields_option (replyOption_xcontinue .replid) (setField_replid hid),
      parseFields_option (replyOption_xcontinue .reploff) (hreploff _ _)]
    rfl
  rw [hreply, parseSyncReply_head hhead, htokens, ReplyKind.options, parseReplyOptions_eq hfields]
  exact congrArg some (if_neg (not_lt.mpr hnonneg))

/-- **The replica reads as much as the buffer has room for.** -/
theorem ctripReceiveSynchronousResponse_cut (hconn : conn.CutsLines) {received : Bytes}
    (hnewline : newline ∉ received.take (GTID_XSYNC_MAX_REPLY_SIZE - 1))
    (hzero : 0 ∉ received.take (GTID_XSYNC_MAX_REPLY_SIZE - 1))
    (hlong : GTID_XSYNC_MAX_REPLY_SIZE ≤ received.length + 1) :
    (ctripReceiveSynchronousResponse conn received).1 =
      received.take (GTID_XSYNC_MAX_REPLY_SIZE - 1) := by
  have hread := hconn received GTID_XSYNC_MAX_REPLY_SIZE hnewline hlong
  simp only [ctripReceiveSynchronousResponse, hread, cString_eq hzero]

/-- The end of a line does not belong to a number. -/
theorem strtoll_longText_return (h : 0 ≤ reploff) (hmax : reploff ≤ LLONG_MAX) :
    strtoll (longText reploff ++ ['\r'.toUInt8]) = reploff := by
  have htext : longText reploff = decimal reploff.toNat := if_neg (by omega)
  obtain ⟨d, rest, hd⟩ := List.exists_cons_of_length_pos (length_decimal_pos reploff.toNat)
  have hdigits := isDigit_decimal reploff.toNat
  have hfirst : IsDigit d := hdigits d (by rw [hd]; exact List.mem_cons_self)
  have hminus : d ≠ '-'.toUInt8 := fun heq => not_isDigit_minus (heq ▸ hfirst)
  have hplus : d ≠ '+'.toUInt8 := fun heq => not_isDigit_plus (heq ▸ hfirst)
  have hspace : (decimal reploff.toNat ++ ['\r'.toUInt8]).dropWhile isSpace =
      decimal reploff.toNat ++ ['\r'.toUInt8] := by
    rw [hd]
    exact dropWhile_isSpace (isSpace_of_isDigit hfirst)
  have hhead : (decimal reploff.toNat ++ ['\r'.toUInt8]).head? = some d := by
    rw [hd]
    rfl
  have hread : (decimal reploff.toNat ++ ['\r'.toUInt8]).takeWhile (fun c => IsDigit c) =
      decimal reploff.toNat := by
    rw [List.takeWhile_append_of_pos (fun c hc => decide_eq_true (hdigits c hc)),
      List.takeWhile_cons_of_neg (by decide), List.append_nil]
  rw [htext, strtoll, hspace, hhead]
  simp only [Option.some.injEq, hminus, hplus, decide_false, Bool.false_eq_true, or_self, if_false]
  rw [hread, value_decimal, Int.toNat_of_nonneg h, min_eq_right hmax,
    max_eq_right (le_trans (by decide) h)]

/-- What is read of a line whose offset does not fit at all. -/
theorem response_cut (hconn : conn.CutsLines) (h : ReplyIdentity masterUuid replid reploff)
    (hc : newline ∉ c ∧ 0 ∉ c) (hl : newline ∉ l ∧ 0 ∉ l)
    (hlong : GTID_XSYNC_MAX_REPLY_SIZE + (longText reploff).length ≤
      (xcontinueText c l masterUuid replid reploff).length) (stream : Bytes) :
    (ctripReceiveSynchronousResponse conn
        (xcontinueText c l masterUuid replid reploff ++ crlf ++ stream)).1 =
      (xcontinueHead c l masterUuid replid).take (GTID_XSYNC_MAX_REPLY_SIZE - 1) := by
  have hlen := length_xcontinueHead c l masterUuid replid reploff
  have htake : (xcontinueText c l masterUuid replid reploff ++ crlf ++ stream).take
      (GTID_XSYNC_MAX_REPLY_SIZE - 1) =
      (xcontinueText c l masterUuid replid reploff).take (GTID_XSYNC_MAX_REPLY_SIZE - 1) := by
    rw [List.append_assoc, List.take_append_of_le_length (by omega)]
  rw [ctripReceiveSynchronousResponse_cut hconn
    (by rw [htake]; exact fun hmem => newline_notMem_xcontinueText h hc.1 hl.1
          (List.mem_of_mem_take hmem))
    (by rw [htake]; exact fun hmem => zero_notMem_xcontinueText h hc.2 hl.2
          (List.mem_of_mem_take hmem))
    (by rw [List.length_append, List.length_append]; omega), htake, xcontinueText_eq,
    List.take_append_of_le_length (by omega)]

/-- What is read of a line whose offset fits in part or as a whole. -/
theorem response_offset (hreads : conn.ReadsLines) (hcuts : conn.CutsLines)
    (h : ReplyIdentity masterUuid replid reploff)
    (hc : newline ∉ c ∧ 0 ∉ c) (hl : newline ∉ l ∧ 0 ∉ l)
    (hshort : (xcontinueText c l masterUuid replid reploff).length <
      GTID_XSYNC_MAX_REPLY_SIZE + (longText reploff).length) (stream : Bytes) :
    ∃ t, (ctripReceiveSynchronousResponse conn
        (xcontinueText c l masterUuid replid reploff ++ crlf ++ stream)).1 =
        xcontinueHead c l masterUuid replid ++ space :: t ∧ space ∉ t ∧
      strtoll t = reploff / 10 ^ ((xcontinueText c l masterUuid replid reploff).length + 1 -
        GTID_XSYNC_MAX_REPLY_SIZE) := by
  have hmax : GTID_XSYNC_MAX_REPLY_SIZE = 65536 := rfl
  have htwo : crlf.length = 2 := rfl
  have hlen := length_xcontinueHead c l masterUuid replid reploff
  have hnewline := newline_notMem_xcontinueText h hc.1 hl.1
  have hzero := zero_notMem_xcontinueText h hc.2 hl.2
  have hspace := (isWord_longText h.reploff_nonneg).notMem not_wordByte_space
  have hall : strtoll (longText reploff) = reploff :=
    strtoll_longText (le_trans (by decide) h.reploff_nonneg) h.reploff_le
  rcases Nat.lt_trichotomy ((xcontinueText c l masterUuid replid reploff).length + 2)
    GTID_XSYNC_MAX_REPLY_SIZE with hlt | heq | hgt
  · -- the line is read as it is
    refine ⟨longText reploff, ?_, hspace, ?_⟩
    · rw [ctripReceiveSynchronousResponse_line hreads hnewline hzero hlt, xcontinueText_eq]
    · rw [hall, Nat.sub_eq_zero_of_le (by omega), pow_zero, Int.ediv_one]
  · -- the first byte of its end is read, too
    have htake : (xcontinueText c l masterUuid replid reploff ++ crlf ++ stream).take
        (GTID_XSYNC_MAX_REPLY_SIZE - 1) =
        xcontinueText c l masterUuid replid reploff ++ ['\r'.toUInt8] := by
      have hone : GTID_XSYNC_MAX_REPLY_SIZE - 1 =
          (xcontinueText c l masterUuid replid reploff).length + 1 := by omega
      rw [List.append_assoc, hone, List.take_append, List.take_of_length_le (by omega),
        Nat.add_sub_cancel_left]
      rfl
    have hnotMem : ∀ {b}, b ≠ '\r'.toUInt8 → b ∉ xcontinueText c l masterUuid replid reploff →
        b ∉ (xcontinueText c l masterUuid replid reploff ++ crlf ++ stream).take
          (GTID_XSYNC_MAX_REPLY_SIZE - 1) := by
      intro b hb hmem
      rw [htake, List.mem_append, List.mem_singleton, not_or]
      exact ⟨hmem, hb⟩
    refine ⟨longText reploff ++ ['\r'.toUInt8], ?_, ?_, ?_⟩
    · rw [ctripReceiveSynchronousResponse_cut hcuts (hnotMem (by decide) hnewline)
        (hnotMem (by decide) hzero) (by rw [List.length_append, List.length_append]; omega), htake,
        xcontinueText_eq, List.append_assoc, List.cons_append]
    · rw [List.mem_append, List.mem_singleton, not_or]
      exact ⟨hspace, by decide⟩
    · rw [strtoll_longText_return h.reploff_nonneg h.reploff_le, Nat.sub_eq_zero_of_le (by omega),
        pow_zero, Int.ediv_one]
  · -- the cut is in the offset
    have htake : (xcontinueText c l masterUuid replid reploff ++ crlf ++ stream).take
        (GTID_XSYNC_MAX_REPLY_SIZE - 1) =
        (xcontinueText c l masterUuid replid reploff).take (GTID_XSYNC_MAX_REPLY_SIZE - 1) := by
      rw [List.append_assoc, List.take_append_of_le_length (by omega)]
    have hnotMem : ∀ {b}, b ∉ xcontinueText c l masterUuid replid reploff →
        b ∉ (xcontinueText c l masterUuid replid reploff ++ crlf ++ stream).take
          (GTID_XSYNC_MAX_REPLY_SIZE - 1) := by
      intro b hb
      rw [htake]
      exact fun hmem => hb (List.mem_of_mem_take hmem)
    obtain ⟨k, hk⟩ : ∃ k, GTID_XSYNC_MAX_REPLY_SIZE - 1 =
        (xcontinueHead c l masterUuid replid).length + (k + 1) :=
      ⟨GTID_XSYNC_MAX_REPLY_SIZE - 2 - (xcontinueHead c l masterUuid replid).length, by omega⟩
    refine ⟨(longText reploff).take k, ?_, fun hmem => hspace (List.mem_of_mem_take hmem), ?_⟩
    · rw [ctripReceiveSynchronousResponse_cut hcuts (hnotMem hnewline) (hnotMem hzero)
        (by rw [List.length_append, List.length_append]; omega), htake, xcontinueText_eq, hk,
        List.take_append, List.take_of_length_le (by omega), Nat.add_sub_cancel_left,
        List.take_succ_cons]
    · have hcut : (longText reploff).length - k =
          (xcontinueText c l masterUuid replid reploff).length + 1 - GTID_XSYNC_MAX_REPLY_SIZE := by
        omega
      rw [strtoll_take h.reploff_nonneg h.reploff_le (by omega), hcut]

/-- **A replica that accepts a XCONTINUE reply** stands at its offset, in either mode. -/
theorem slaveRead_xcontinue [RedisReplication] {gc gl : GtidSet}
    (hparse : parseSyncReply sds text (rand.sub 0) =
      some (.xcontinue gc gl masterUuid replid off)) (hoff : 0 ≤ off)
    (h : slaveTryPartialResynchronizationRead sds r text rand = some out) :
    out.result = .continue ∧
      out.server.masterReplOffset + out.server.gtidReploffDelta = off := by
  rw [slaveTryPartialResynchronizationRead, hparse, Option.bind_eq_bind, Option.bind_some] at h
  dsimp only at h
  split at h
  · rw [slavePsyncRead] at h
    obtain ⟨r₁, hswitch, h⟩ := Option.bind_eq_some_iff.mp h
    obtain ⟨r₂, hcreate, h⟩ := Option.bind_eq_some_iff.mp h
    obtain rfl := Option.some.inj h
    obtain ⟨-, -, hoffset, hdelta, -⟩ := serverReplStreamResurrectCreate_some hcreate
    rw [slavePsyncXcontinue] at hswitch
    obtain ⟨t, -, hswitch⟩ := Option.bind_eq_some_iff.mp hswitch
    obtain ⟨_, -, hswitched, -⟩ := serverReplStreamSwitch2Xsync_some hswitch
    refine ⟨rfl, ?_⟩
    rw [hoffset, hdelta, hswitched.offset, hswitched.delta]
    omega
  · rw [slaveXsyncRead] at h
    obtain ⟨-, -, h⟩ := Option.bind_eq_some_iff.mp h
    obtain ⟨r₁, hupdate, h⟩ := Option.bind_eq_some_iff.mp h
    obtain ⟨r₂, hcreate, h⟩ := Option.bind_eq_some_iff.mp h
    obtain rfl := Option.some.inj h
    obtain ⟨-, -, hoffset, hdelta, -⟩ := serverReplStreamResurrectCreate_some hcreate
    rw [slaveXsyncXcontinue] at hupdate
    obtain ⟨slave, -, hupdate⟩ := Option.bind_eq_some_iff.mp hupdate
    obtain ⟨slost, -, hupdate⟩ := Option.bind_eq_some_iff.mp hupdate
    obtain ⟨⟨r₃, b⟩, hrun, heq⟩ := Option.bind_eq_some_iff.mp hupdate
    obtain rfl := Option.some.inj heq
    obtain ⟨-, -, -, hreploff, -⟩ := serverReplStreamUpdateXsync_some hrun
    refine ⟨rfl, ?_⟩
    rw [hoffset, hdelta]
    exact hreploff hoff

/-- No word of a line is split at a space. -/
theorem space_notMem_xcontinueWords (hcont : Sendable cont) (hlost : Sendable lost)
    (h : ReplyIdentity masterUuid replid reploff) :
    ∀ w ∈ xcontinueWords (gtidSetQuoteIfEmpty (setText cont))
      (gtidSetQuoteIfEmpty (setText lost)) masterUuid replid, space ∉ w := by
  have hspace : space ≠ quote := by decide
  simp only [xcontinueWords, List.forall_mem_cons, List.not_mem_nil, false_implies,
    implies_true, and_true]
  exact ⟨hcont.notMem_quoted not_wordByte_space hspace,
    (isWord_written .gtidLost).notMem not_wordByte_space,
    hlost.notMem_quoted not_wordByte_space hspace,
    (isWord_written .masterUuid).notMem not_wordByte_space,
    h.masterUuid_word.notMem not_wordByte_space,
    (isWord_written .replid).notMem not_wordByte_space,
    h.replid_word.notMem not_wordByte_space,
    (isWord_written .reploff).notMem not_wordByte_space⟩

/-- **A XCONTINUE line of any length.**  If the offset does not fit in the buffer of the replica, it
asks for a full synchronization.  Otherwise it continues, with the sets of the master, at the offset
without the digits that do not fit. -/
theorem longReply_read [RedisReplication] (hsds : sds.Splits) (hreads : conn.ReadsLines)
    (hcuts : conn.CutsLines)
    (hcont : Sendable cont) (hlost : Sendable lost) (hcontRest : RestorableSet cont)
    (hlostRest : RestorableSet lost) (h : ReplyIdentity masterUuid replid reploff)
    (huuid : masterUuid.length ≤ CONFIG_RUN_ID_SIZE) {line : Bytes}
    (hline : SyncReply.line (.xcontinue cont lost masterUuid replid reploff) = some line)
    (stream : Bytes) {response : Bytes}
    (hresponse : (ctripReceiveSynchronousResponse conn (line ++ stream)).1 = response) :
    (GTID_XSYNC_MAX_REPLY_SIZE + 1 + (longText reploff).length < line.length →
      ∀ rand out, slaveTryPartialResynchronizationRead sds r response rand = some out →
        out = fallbackToFullresync r) ∧
    (line.length ≤ GTID_XSYNC_MAX_REPLY_SIZE + 1 + (longText reploff).length →
      ∃ off, off = reploff / 10 ^ (line.length - (GTID_XSYNC_MAX_REPLY_SIZE + 1)) ∧
        (∀ rand, ∃ c l, parseSyncReply sds response rand =
            some (.xcontinue c l masterUuid replid off) ∧
          contents c = contents cont ∧ contents l = contents lost) ∧
        ∀ rand out, slaveTryPartialResynchronizationRead sds r response rand = some out →
          out.result = .continue ∧
            out.server.masterReplOffset + out.server.gtidReploffDelta = off) := by
  have hmax : GTID_XSYNC_MAX_REPLY_SIZE = 65536 := rfl
  rw [line_xcontinue hcont hlost h huuid] at hline
  split at hline
  case isFalse => cases hline
  next hfits =>
    obtain rfl := Option.some.inj hline
    have hquoted := length_le_quoted (setText cont)
    have hquoted' := length_le_quoted (setText lost)
    have hlen : (xcontinueText (gtidSetQuoteIfEmpty (setText cont))
        (gtidSetQuoteIfEmpty (setText lost)) masterUuid replid reploff ++ crlf).length =
        (xcontinueText (gtidSetQuoteIfEmpty (setText cont))
          (gtidSetQuoteIfEmpty (setText lost)) masterUuid replid reploff).length + 2 :=
      List.length_append
    have hhead := length_xcontinueHead (gtidSetQuoteIfEmpty (setText cont))
      (gtidSetQuoteIfEmpty (setText lost)) masterUuid replid reploff
    have hc := And.intro hcont.newline_notMem hcont.quoted_zero
    have hl := And.intro hlost.newline_notMem hlost.quoted_zero
    have hwords := space_notMem_xcontinueWords hcont hlost h
    constructor
    · intro hlong rand out hread
      rw [hlen] at hlong
      rw [response_cut hcuts h hc hl (by omega)] at hresponse
      subst hresponse
      have hread' := hread
      rw [slaveTryPartialResynchronizationRead] at hread'
      obtain ⟨parsed, hparse, -⟩ := Option.bind_eq_some_iff.mp hread'
      have hinvalid := parseSyncReply_cut hsds hwords (by omega) (by omega) hparse
      exact Option.some.inj (hread.symm.trans
        (slaveTryPartialResynchronizationRead_invalid hparse hinvalid))
    · intro hshort
      rw [hlen] at hshort
      obtain ⟨t, hread, hspace, hoff⟩ := response_offset hreads hcuts h hc hl (by omega) stream
      rw [hread] at hresponse
      have hnonneg : 0 ≤ strtoll t := by
        rw [hoff]
        exact Int.ediv_nonneg h.reploff_nonneg (by positivity)
      have hparse : ∀ rand, ∃ c l, parseSyncReply sds response rand =
          some (.xcontinue c l masterUuid replid (strtoll t)) ∧
            contents c = contents cont ∧ contents l = contents lost := by
        intro rand
        obtain ⟨c, hdecode, -, hcset⟩ :=
          hcont.decode_quoted_contents hcontRest (by omega) (rand.sub 0)
        obtain ⟨l, hdecode', -, hlset⟩ :=
          hlost.decode_quoted_contents hlostRest (by omega) ((rand.sub 1).sub 0)
        exact ⟨c, l, hresponse ▸ parseSyncReply_cutOffset hsds hwords hspace h.replid_length hnonneg
          hdecode hdecode', hcset, hlset⟩
      refine ⟨strtoll t, ?_, hparse, fun rand out hout => ?_⟩
      · have hcut : ∀ n, n + 2 - (GTID_XSYNC_MAX_REPLY_SIZE + 1) =
            n + 1 - GTID_XSYNC_MAX_REPLY_SIZE := fun n => by omega
        rw [hlen, hcut, hoff]
      · obtain ⟨c, l, hparsed, -⟩ := hparse (rand.sub 0)
        exact slaveRead_xcontinue hparsed hnonneg hout

end Cut

section Example

/-- A set of one uuid with one gno. -/
theorem exists_sendable {uuid : Uuid} (huuid : Plain uuid) (hlen : uuid.length < 2 ^ 31) :
    ∃ s, Sendable s ∧ RestorableSet s ∧ (setText s).length = uuid.length + 2 := by
  have hmax : (1 : Int) < LLONG_MAX := by decide
  obtain ⟨s, l, -, hrep, hl, -⟩ := gtidSetAdd_rep setRep_new uuid List.nodup_nil
    (fun _ he => absurd he List.not_mem_nil) (le_refl 1) (le_refl 1) hmax (fun _ => 0)
  obtain ⟨hs, hes⟩ : RegularSet s ∧ entries s = [(uuid, [(1, 1)])] := hrep.regular hl
    (canonical_nil.add (le_refl 1)) (fun e he i hi => by
      rw [List.mem_singleton.mp he] at hi
      rw [List.mem_singleton.mp hi]
      exact hmax)
  have hone : (intervalsText [(1, 1)]).length = 2 := by decide +kernel
  have htext : (setText s).length = uuid.length + 2 := by
    rw [setText, hes]
    simp [nonEmpty, gtidSetText, uuidSetText, hone]
  refine ⟨s, ⟨hs.toWellFormedSet, fun k hk => ?_, by omega⟩, hs.restorable, htext⟩
  rw [hes] at hk
  rw [List.mem_singleton.mp hk]
  exact huuid

theorem lineConnection_cutsLines : lineConnection.CutsLines := by
  intro received size hnewline hsize
  have hfront : ∀ c ∈ received.take (size - 1), decide (c ≠ newline) = true := fun c hc =>
    decide_eq_true (fun heq => hnewline (heq ▸ hc))
  have hlong : size - 1 ≤ (received.takeWhile (fun c => decide (c ≠ newline))).length := by
    rw [← List.take_append_drop (size - 1) received, List.takeWhile_append_of_pos hfront,
      List.length_append, List.length_take]
    omega
  exact if_neg (by omega)

/-- The master writes 100, and of that two digits fit. -/
theorem longReply_read_cut :
    ∃ (cont : GtidSet) (line response : Bytes) (c l : GtidSet),
      SyncReply.line (.xcontinue cont gtidSetNew [65] (List.replicate 40 48) 100) = some line ∧
      (ctripReceiveSynchronousResponse lineConnection (line ++ [])).1 = response ∧
      parseSyncReply blankSds response (fun _ => 0) =
        some (.xcontinue c l [65] (List.replicate 40 48) 10) ∧ contents c = contents cont := by
  have hmax : GTID_XSYNC_MAX_REPLY_SIZE = 65536 := rfl
  have huuid : Plain [65] := by decide +kernel
  have hlong : Plain (List.replicate 65427 65) := fun c hc => by
    rw [List.eq_of_mem_replicate hc]
    exact huuid 65 List.mem_cons_self
  obtain ⟨cont, hcont, hrestorable, hlen⟩ := exists_sendable hlong
    (by rw [List.length_replicate]; decide)
  rw [List.length_replicate] at hlen
  have h := replyIdentity_of_plain (le_refl 1) huuid rfl plain_forty
    (by decide : (0 : Int) ≤ 100 ∧ (100 : Int) ≤ LLONG_MAX)
  have hquoted : (gtidSetQuoteIfEmpty (setText cont)).length = 65429 := by
    rw [gtidSetQuoteIfEmpty_of_ne (List.ne_nil_of_length_pos (by omega)), hlen]
  have hquoted' : (gtidSetQuoteIfEmpty (setText gtidSetNew)).length = 2 := rfl
  have hline := line_xcontinue hcont sendable_new h (by decide)
  rw [if_pos (by omega)] at hline
  have hlength : (xcontinueText (gtidSetQuoteIfEmpty (setText cont))
      (gtidSetQuoteIfEmpty (setText gtidSetNew)) [65] (List.replicate 40 48) 100 ++ crlf).length =
      65538 := by
    rw [List.length_append, length_xcontinueText, hquoted, hquoted']
    rfl
  obtain ⟨-, hread⟩ := longReply_read (r := masterServer ⟨[], cont, cont⟩ .xsync 0 0)
    blankSds_splits lineConnection_readsLines lineConnection_cutsLines hcont sendable_new
    hrestorable regularSet_new.1.restorable h (by decide) hline [] rfl
  have hdigits : (longText 100).length = 3 := by decide +kernel
  obtain ⟨off, hoff, hparse, -⟩ := hread (by rw [hlength, hdigits, hmax]; decide)
  obtain ⟨c, l, hparsed, hc, -⟩ := hparse (fun _ => 0)
  rw [hlength, hmax] at hoff
  obtain rfl : off = 10 := hoff.trans (by decide)
  exact ⟨cont, _, _, c, l, hline, rfl, hparsed, hc⟩

end Example

end XredisGtid
