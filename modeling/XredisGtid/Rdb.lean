import XredisGtid.CommandNested
import XredisGtid.GtidReadPast
import XredisGtid.GtidSetStat
import XredisGtid.ReplStreamRun

/-!
# The gtid sets in an RDB file

`xredis_gtid_rdb.c`: the repl mode and the two sets are saved as auxiliary fields, the sets
as texts, and loaded field by field into `rsi`.  What saves one field is Redis's, and here a
parameter.

A text separates the uuids with commas and ends each with a colon, and both may stand in a
uuid that GTIDX ADD has added, and a comma in that of a GTID command.  The sets that are
loaded have no such uuid.
-/
namespace XredisGtid
open Memory KeyedIntervals Buffer

def GTID_AUX_REPL_MODE : Bytes :=
  ['g', 't', 'i', 'd', '-', 'r', 'e', 'p', 'l', '-', 'm', 'o', 'd', 'e'].map Char.toUInt8
def GTID_AUX_EXECUTED : Bytes :=
  ['g', 't', 'i', 'd', '-', 'e', 'x', 'e', 'c', 'u', 't', 'e', 'd'].map Char.toUInt8
def GTID_AUX_LOST : Bytes := ['g', 't', 'i', 'd', '-', 'l', 'o', 's', 't'].map Char.toUInt8

structure RdbSaveInfoGtid where
  replMode : Mode
  gtidExecuted : Option GtidSet
  gtidLost : Option GtidSet

/-- The field that these functions use. -/
structure RdbSaveInfo where
  gtid : Option RdbSaveInfoGtid

/-- The text of a set; a failed encoding would set its length beyond the buffer. -/
def gtidSetDump (gtidSet : GtidSet) : Option Bytes := do
  let estlen := gtidSetEstimatedEncodeBufferSize gtidSet
  let (gtidrepr, gtidlen) ← gtidSetEncode (List.replicate estlen 0) 0 estlen gtidSet
  guard (0 ≤ gtidlen)
  some (gtidrepr.take gtidlen.toNat)

/-- The name of a mode, as the file and the log have it. -/
def replModeName : Mode → Bytes
  | .unset => ['?'.toUInt8]
  | .psync => ['p', 's', 'y', 'n', 'c'].map Char.toUInt8
  | .xsync => ['x', 's', 'y', 'n', 'c'].map Char.toUInt8

section Save
variable {Rio : Type}

/-- Nothing is saved without a replication history; otherwise also what is returned. -/
def rdbSaveInfoAuxFieldsGtid (rdbSaveAuxField : Rio → Bytes → Bytes → Rio × Int)
    (server : Server) (rdb : Rio) (rsi : Option RdbSaveInfo) : Option (Rio × Int) :=
  match rsi with
  | none => some (rdb, 1)
  | some _ => do
    let gtidExecutedRepr ← gtidSetDump server.gtidExecuted
    let gtidLostRepr ← gtidSetDump server.gtidLost
    let (rdb, ret) := rdbSaveAuxField rdb GTID_AUX_REPL_MODE (replModeName server.replMode.mode)
    -- not `-1`, as below
    if ret = 0 then some (rdb, -1)
    else
      let (rdb, ret) := rdbSaveAuxField rdb GTID_AUX_EXECUTED gtidExecutedRepr
      if ret = -1 then some (rdb, -1)
      else
        let (rdb, ret) := rdbSaveAuxField rdb GTID_AUX_LOST gtidLostRepr
        if ret = -1 then some (rdb, -1) else some (rdb, 1)

/-- What is known of `rdbSaveAuxField`: it adds the field to those of the file and returns how
many bytes it has written. -/
structure SavesAuxField (rdbSaveAuxField : Rio → Bytes → Bytes → Rio × Int)
    (auxFields : Rio → List (Bytes × Bytes)) : Prop where
  fields : ∀ rdb key val,
    auxFields (rdbSaveAuxField rdb key val).1 = auxFields rdb ++ [(key, val)]
  written : ∀ rdb key val, 0 < (rdbSaveAuxField rdb key val).2

end Save

/-- The bytes that a C string function reads. -/
def cString (b : Bytes) : Bytes := b.takeWhile (fun c => c ≠ 0)

/-- Load one field; also whether it is one of the three. -/
def loadInfoAuxFieldsGtid (key val : Bytes) (rsi : Option RdbSaveInfo) (rand : Rand) :
    Option (Option RdbSaveInfo × Bool) :=
  let gtidRsi := rsi.bind RdbSaveInfo.gtid
  if equalsIgnoreCase (cString key) GTID_AUX_REPL_MODE then do
    guard gtidRsi.isNone
    let replMode :=
      if equalsIgnoreCase (cString val) (['x', 's', 'y', 'n', 'c'].map Char.toUInt8) then Mode.xsync
      else Mode.psync
    some (rsi.map (fun rsi => { rsi with gtid := some ⟨replMode, none, none⟩ }), true)
  else if equalsIgnoreCase (cString key) GTID_AUX_EXECUTED then
    match rsi with
    | none => some (none, true)
    | some rsi => do
      let gtidRsi ← gtidRsi
      let gtidExecuted ← gtidSetDecode (val ++ [0]) 0 val.length rand
      some (some { rsi with gtid := some { gtidRsi with gtidExecuted := gtidExecuted } }, true)
  else if equalsIgnoreCase (cString key) GTID_AUX_LOST then
    match rsi with
    | none => some (none, true)
    | some rsi => do
      let gtidRsi ← gtidRsi
      let gtidLost ← gtidSetDecode (val ++ [0]) 0 val.length rand
      let gtidLost := gtidLost.getD gtidSetNew
      some (some { rsi with gtid := some { gtidRsi with gtidLost := some gtidLost } }, true)
  else some (rsi, false)

/-- Load the fields of a file in their order. -/
def loadAuxFields : List (Bytes × Bytes) → Option RdbSaveInfo → Rand → Option (Option RdbSaveInfo)
  | [], rsi, _ => some rsi
  | (key, val) :: fields, rsi, rand => do
    let (rsi, _) ← loadInfoAuxFieldsGtid key val rsi (rand.sub 0)
    loadAuxFields fields rsi (rand.sub 1)

/-- A uuid that can stand in the text of a set. -/
def Writable (uuid : Uuid) : Prop := colon ∉ uuid ∧ split ∉ uuid

/-! ## The uuids of a set that has been decoded -/

section Decode
variable {mem p : Bytes} {s i j n : Nat} {u v : UuidSet} {g g' : GtidSet} {as : List Addr}
  {k : Uuid} {rand : Rand}

theorem uuidSetAdd_uuid {start «end» m : Int} (h : uuidSetAdd u start «end» rand = some (v, m)) :
    v.uuid = u.uuid := by
  rw [uuidSetAdd] at h
  split at h
  · obtain ⟨⟨gsl, added⟩, -, h⟩ := Option.bind_eq_some_iff.mp h
    cases h
    rfl
  · cases h
    rfl

theorem decodeInterval_uuid (h : decodeInterval mem s rand u i j = some (some v)) :
    v.uuid = u.uuid := by
  rw [decodeInterval] at h
  split at h
  · obtain ⟨r, -, h⟩ := Option.bind_eq_some_iff.mp h
    cases r with
    | none => cases h
    | some e =>
      dsimp only at h
      split at h
      · obtain ⟨⟨w, added⟩, hadd, h⟩ := Option.bind_eq_some_iff.mp h
        cases h
        exact uuidSetAdd_uuid hadd
      · cases h
  · cases h
    rfl

/-- The uuid of a piece is what stands in front of its first colon. -/
theorem uuidSetDecode_uuid (hmem : TextAt mem s p)
    (h : uuidSetDecode mem s (p.length : Int) rand = some (some u)) : u.uuid = pieceUuid p := by
  by_cases hcolon : colon ∈ p
  · obtain ⟨uuid, b, rfl, huuid⟩ := List.eq_append_cons_of_mem hcolon
    rw [uuidSetDecode_cons hmem huuid] at h
    have hkeep := forPieces_keeps _ (fun v => v.uuid = uuid)
      (fun x i j y hx hstep => (decodeInterval_uuid hstep).trans hx) rfl h
    rw [hkeep, pieceUuid, takeWhile_append_cons huuid]
  · rw [uuidSetDecode_plain hmem (uuidSetDecode_ne_nil h) hcolon] at h
    cases h
    rw [pieceUuid, takeWhile_of_notMem hcolon]
    rfl

theorem writable_pieceUuid (hp : split ∉ p) : Writable (pieceUuid p) := by
  refine ⟨fun hmem => ?_, fun hmem => hp (List.takeWhile_subset _ hmem)⟩
  have := List.mem_takeWhile_imp hmem
  simp at this

/-- Records with uuids that can stand in a text. -/
structure WritableRecords (g : GtidSet) (as : List Addr) : Prop where
  links : SetLinks g.uuidSetCells g.header g.tail as
  writable : ∀ a ∈ as, ∀ u, g.uuidSetCells.get a = some u → Writable u.uuid

theorem WritableRecords.append (h : WritableRecords g as) (hnext : u.next = none)
    (hu : Writable u.uuid) {m : Int} (hrun : gtidSetAppend g u = some (g', m)) :
    ∃ a, WritableRecords g' (as ++ [a]) := by
  obtain ⟨g₁, happend, hlinks, hget, hkeep, -⟩ := h.links.append hnext
  cases happend.symm.trans hrun
  refine ⟨_, hlinks, fun a ha w hw => ?_⟩
  rcases List.mem_append.mp ha with ha | ha
  · obtain ⟨v, hv⟩ := h.links.alive a ha
    obtain ⟨next, hv'⟩ := hkeep a ha v hv
    cases hv'.symm.trans hw
    exact h.writable a ha v hv
  · rw [List.mem_singleton] at ha
    subst ha
    cases hget.symm.trans hw
    exact hu

/-- A piece that has been decoded. -/
theorem WritableRecords.decodeUuidSet {start : Nat} (h : WritableRecords g as)
    (hmem : TextAt mem start p) (hp : split ∉ p) (hstart : start < 2 ^ 32) (hlen : p.length < 2 ^ 32)
    (hrun : decodeUuidSet mem 0 rand g start (start + p.length) = some (some g')) :
    ∃ a, WritableRecords g' (as ++ [a]) := by
  obtain ⟨-, -, u, m, hdecode, happend⟩ := decodeUuidSet_accepted hstart hlen hrun
  have hu : Writable u.uuid := by
    rw [uuidSetDecode_uuid hmem hdecode]
    exact writable_pieceUuid hp
  exact h.append (uuidSetDecode_next hdecode) hu happend

/-- **The records of a set that has been decoded.** -/
theorem gtidSetDecode_writable {text : Bytes} (hlen : text.length < 2 ^ 32)
    (hrun : gtidSetDecode (text ++ [0]) 0 text.length rand = some (some g)) :
    ∃ as, WritableRecords g as := by
  rw [gtidSetDecode] at hrun
  split at hrun
  · cases hrun
    exact ⟨[], setLinks_new, by simp⟩
  · obtain ⟨item, rest, -, htext, hsep⟩ := exists_splitOn split text
    have hmem := textAt_self (text ++ [0])
    rw [htext] at hrun hmem
    obtain ⟨-, as, -, has⟩ := forPieces_inv _
      (fun (done : List Bytes) _ g => ∃ as : List Addr, as.length = done.length ∧ WritableRecords g as)
      0 (List.nil_append (item :: rest))
      ⟨[], (rfl : _ = ([] : List Bytes).length), setLinks_new, by simp⟩ hmem hsep
      (fun done p ps x x' start d hall hinv _ hpiece hstep => by
        have hp : p ∈ item :: rest := hall ▸ by simp
        obtain ⟨as, hcount, h⟩ := hinv
        -- the piece is inside of the text
        have hbound := List.IsPrefix.length_le hpiece
        rw [List.length_append, List.length_singleton, List.length_drop, ← htext,
          List.length_append, List.length_singleton] at hbound
        rw [Nat.zero_add] at hpiece hbound
        obtain ⟨a, h'⟩ := h.decodeUuidSet (textAt_append.mp hpiece).1 (hsep p hp) (by omega)
          (by omega) hstep
        exact ⟨as ++ [a], by rw [List.length_append, List.length_append, hcount]; rfl, h'⟩)
      hrun
    exact ⟨as, has⟩

/-- Such a set has no gno under a uuid that cannot stand in a text. -/
theorem WritableRecords.contains (h : WritableRecords g as) (hk : ¬ Writable k) (x : Int) :
    (gtidSetContains g k x).map Prod.snd = some false := by
  have hfind : gtidSetFind g k = none := by
    apply Option.eq_none_iff_forall_ne_some.mpr
    intro a ha
    obtain ⟨hmem, hyes⟩ := h.links.find_mem ha
    obtain ⟨u, hu⟩ := h.links.alive a hmem
    rw [hasUuid, hu, Option.map_some, Option.getD_some, decide_eq_true_iff] at hyes
    exact hk (hyes ▸ h.writable a hmem u hu)
  rw [gtidSetContains_snd, hfind]
  rfl

end Decode

/-! ## One set -/

section Sets
variable {s t : GtidSet} {rand : Rand}

theorem pairs_nonEmpty (es : List Entry) : pairs (nonEmpty es) = pairs es := by
  induction es with
  | nil => rfl
  | cons e es ih =>
    by_cases hnil : e.2 = []
    · rw [nonEmpty_cons_of_nil hnil, ih, pairs_cons, hnil, IntervalList.points_nil,
        Finset.product_empty, Finset.empty_union]
    · rw [nonEmpty_cons_of_ne hnil, pairs_cons, pairs_cons, ih]

/-- Every entry that is written has a gno. -/
theorem WellFormedSet.exists_gno (h : WellFormedSet s) {e : Entry} (he : e ∈ nonEmpty (entries s)) :
    ∃ g, (e.1, g) ∈ contents s := by
  obtain ⟨hmem, hne⟩ := List.mem_filter.mp he
  obtain ⟨i, hi⟩ := List.exists_mem_of_ne_nil e.2 (of_decide_eq_true hne)
  have hle := (h.canonical.canonical e hmem).nonempty i hi
  refine ⟨i.1, h.mem_contents.mpr ?_⟩
  rw [lookup_of_mem h.distinct hmem, IntervalList.mem_points]
  exact ⟨i, hi, le_refl _, hle⟩

theorem Addressable.length_lt {es : List Entry} (h : Addressable es) :
    (gtidSetText es).length < 2 ^ 32 := by
  cases hlast : es.getLast? with
  | none =>
    rw [List.getLast?_eq_none_iff.mp hlast]
    decide
  | some e =>
    have hstart := h.start e hlast
    have hshort := h.short e (List.mem_of_getLast? hlast)
    omega

theorem gtidSetDump_spec (h : WellFormedSet s)
    (hlen : (gtidSetText (nonEmpty (entries s))).length < 2 ^ 63) :
    gtidSetDump s = some (gtidSetText (nonEmpty (entries s))) := by
  have hroom : gtidSetEstimatedEncodeBufferSize s ≤
      (List.replicate (gtidSetEstimatedEncodeBufferSize s) 0 : Bytes).length := by
    rw [List.length_replicate]
  obtain ⟨mem', hencode, hw⟩ := h.encode hlen hroom
  have hguard : (guard (0 ≤ ((gtidSetText (nonEmpty (entries s))).length : Int)) : Option Unit) =
      some () := if_pos (Int.natCast_nonneg _)
  rw [gtidSetDump]
  simp only [hencode, hguard, Option.bind_eq_bind, Option.bind_some, Int.toNat_natCast, hw.take_zero]

theorem WellFormedSet.sameMembers (h : WellFormedSet s) (ht : WellFormedSet t)
    (hsame : contents t = contents s) : SameMembers s t := by
  intro k g
  obtain ⟨s', hs, -⟩ := contains_wellFormedSet h k g
  obtain ⟨t', ht, -⟩ := contains_wellFormedSet ht k g
  rw [hs, ht, hsame]
  rfl

/-- **A set is restored** when no uuid it has gnos of has a separator in it. -/
theorem RegularSet.restored (h : RegularSet s) (haddr : Addressable (nonEmpty (entries s)))
    (hw : ∀ x ∈ contents s, Writable x.1) (rand : Rand) :
    ∃ t, gtidSetDecode (gtidSetText (nonEmpty (entries s)) ++ [0]) 0
        (gtidSetText (nonEmpty (entries s))).length rand = some (some t) ∧ SameMembers s t := by
  have hmem := (textAt_append.mp (textAt_self (gtidSetText (nonEmpty (entries s)) ++ [0]))).1
  obtain ⟨t, hdecode, ht, htes⟩ := h.decode_text
    (fun e he => (h.exists_gno he).elim fun g hg => hw _ hg) haddr hmem rand
  have hsame : contents t = contents s := by rw [contents, htes, pairs_nonEmpty]; rfl
  exact ⟨t, hdecode, h.toWellFormedSet.sameMembers ht.toWellFormedSet hsame⟩

/-- A set with the members of one that has been decoded. -/
theorem RegularSet.writable (h : RegularSet s) {as : List Addr} (ht : WritableRecords t as)
    (hsame : SameMembers s t) : ∀ x ∈ contents s, Writable x.1 := by
  rintro ⟨k, g⟩ hx
  by_contra hk
  obtain ⟨s', hs, -⟩ := contains_regularSet h k g
  have hcontains := hsame k g
  rw [hs, ht.contains hk g, decide_eq_true hx] at hcontains
  cases hcontains

theorem writableRecords_new : WritableRecords gtidSetNew [] := ⟨setLinks_new, by simp⟩

end Sets

/-! ## The file -/

/-- The sets are there and have the members of the server's. -/
def Restored (server : Server) (rsi : Option RdbSaveInfo) : Prop :=
  ∃ gtid gtidExecuted gtidLost, rsi = some ⟨some gtid⟩ ∧ gtid.gtidExecuted = some gtidExecuted ∧
    gtid.gtidLost = some gtidLost ∧ SameMembers server.gtidExecuted gtidExecuted ∧
    SameMembers server.gtidLost gtidLost

section File
variable {Rio : Type} {rdbSaveAuxField : Rio → Bytes → Bytes → Rio × Int}
  {auxFields : Rio → List (Bytes × Bytes)} {server : Server} {rdb : Rio}
  {redis : Redis} {s₀ : ServerSets}

theorem rdbSaveInfoAuxFieldsGtid_spec (hsave : SavesAuxField rdbSaveAuxField auxFields)
    {executed lost : Bytes} (hexecuted : gtidSetDump server.gtidExecuted = some executed)
    (hlost : gtidSetDump server.gtidLost = some lost) (rsi : RdbSaveInfo) :
    ∃ rdb', rdbSaveInfoAuxFieldsGtid rdbSaveAuxField server rdb (some rsi) =
        some (rdb', 1) ∧
      auxFields rdb' = auxFields rdb ++ [(GTID_AUX_REPL_MODE, replModeName server.replMode.mode),
        (GTID_AUX_EXECUTED, executed), (GTID_AUX_LOST, lost)] := by
  have hsaves : ∀ rdb key val, ∃ rdb' n, rdbSaveAuxField rdb key val = (rdb', n) ∧ n ≠ 0 ∧ n ≠ -1 ∧
      auxFields rdb' = auxFields rdb ++ [(key, val)] := by
    intro rdb key val
    have hn := hsave.written rdb key val
    exact ⟨_, _, rfl, by omega, by omega, hsave.fields rdb key val⟩
  obtain ⟨rdb₁, n₁, hrun₁, hn₁, -, h₁⟩ :=
    hsaves rdb GTID_AUX_REPL_MODE (replModeName server.replMode.mode)
  obtain ⟨rdb₂, n₂, hrun₂, -, hn₂, h₂⟩ := hsaves rdb₁ GTID_AUX_EXECUTED executed
  obtain ⟨rdb₃, n₃, hrun₃, -, hn₃, h₃⟩ := hsaves rdb₂ GTID_AUX_LOST lost
  refine ⟨rdb₃, ?_, ?_⟩
  · rw [rdbSaveInfoAuxFieldsGtid, hexecuted, hlost]
    simp only [Option.bind_eq_bind, Option.bind_some, hrun₁, if_neg hn₁, hrun₂, if_neg hn₂, hrun₃,
      if_neg hn₃]
  · rw [h₃, h₂, h₁, List.append_assoc, List.append_assoc]
    rfl

theorem loadAuxFields_saved (name executed lost : Bytes) (rand : Rand) :
    ∃ mode, loadAuxFields [(GTID_AUX_REPL_MODE, name), (GTID_AUX_EXECUTED, executed),
        (GTID_AUX_LOST, lost)] (some ⟨none⟩) rand =
      (gtidSetDecode (executed ++ [0]) 0 executed.length ((rand.sub 1).sub 0)).bind
        (fun gtidExecuted =>
          (gtidSetDecode (lost ++ [0]) 0 lost.length (((rand.sub 1).sub 1).sub 0)).bind
            (fun gtidLost =>
              some (some ⟨some ⟨mode, gtidExecuted, some (gtidLost.getD gtidSetNew)⟩⟩))) := by
  have hmode : ∃ mode, loadInfoAuxFieldsGtid GTID_AUX_REPL_MODE name (some ⟨none⟩) (rand.sub 0) =
      some (some ⟨some ⟨mode, none, none⟩⟩, true) := ⟨_, rfl⟩
  have hexecuted : ∀ gtid r, loadInfoAuxFieldsGtid GTID_AUX_EXECUTED executed (some ⟨some gtid⟩) r =
      (gtidSetDecode (executed ++ [0]) 0 executed.length r).bind (fun gtidExecuted =>
        some (some ⟨some { gtid with gtidExecuted := gtidExecuted }⟩, true)) := fun _ _ => rfl
  have hlost : ∀ gtid r, loadInfoAuxFieldsGtid GTID_AUX_LOST lost (some ⟨some gtid⟩) r =
      (gtidSetDecode (lost ++ [0]) 0 lost.length r).bind (fun gtidLost =>
        some (some ⟨some { gtid with gtidLost := some (gtidLost.getD gtidSetNew) }⟩, true)) :=
    fun _ _ => rfl
  obtain ⟨mode, hmode⟩ := hmode
  refine ⟨mode, ?_⟩
  simp only [loadAuxFields, hmode, hexecuted, hlost, Option.bind_eq_bind, Option.bind_some,
    Option.bind_assoc]

/-- **Saving and loading, one file.** -/
theorem loadAuxFields_restored_iff (he : RegularSet server.gtidExecuted)
    (hl : RegularSet server.gtidLost) (hexecuted : Addressable (nonEmpty (entries server.gtidExecuted)))
    (hlost : Addressable (nonEmpty (entries server.gtidLost))) (name : Bytes) (rand : Rand) :
    (∃ rsi, loadAuxFields [(GTID_AUX_REPL_MODE, name),
        (GTID_AUX_EXECUTED, gtidSetText (nonEmpty (entries server.gtidExecuted))),
        (GTID_AUX_LOST, gtidSetText (nonEmpty (entries server.gtidLost)))] (some ⟨none⟩) rand =
        some rsi ∧ Restored server rsi) ↔
      ∀ x ∈ contents server.gtidExecuted ∪ contents server.gtidLost, Writable x.1 := by
  obtain ⟨mode, hload⟩ := loadAuxFields_saved name
    (gtidSetText (nonEmpty (entries server.gtidExecuted)))
    (gtidSetText (nonEmpty (entries server.gtidLost))) rand
  rw [hload]
  constructor
  · rintro ⟨rsi, hrun, gtid, e, l, rfl, hgtid, hgtid', hsame, hsame'⟩
    obtain ⟨r, hr, hrun⟩ := Option.bind_eq_some_iff.mp hrun
    obtain ⟨r', hr', hrun⟩ := Option.bind_eq_some_iff.mp hrun
    cases hrun
    dsimp only at hgtid hgtid'
    subst hgtid
    obtain ⟨as, has⟩ := gtidSetDecode_writable hexecuted.length_lt hr
    -- `NULL` becomes an empty set
    obtain ⟨as', has'⟩ : ∃ as, WritableRecords l as := by
      cases hgtid'
      cases r' with
      | none => exact ⟨[], writableRecords_new⟩
      | some l => exact gtidSetDecode_writable hlost.length_lt hr'
    intro x hx
    rcases Finset.mem_union.mp hx with hx | hx
    · exact he.writable has hsame x hx
    · exact hl.writable has' hsame' x hx
  · intro hw
    obtain ⟨e, hdecode, hsame⟩ := he.restored hexecuted
      (fun x hx => hw x (Finset.mem_union_left _ hx)) ((rand.sub 1).sub 0)
    obtain ⟨l, hdecode', hsame'⟩ := hl.restored hlost
      (fun x hx => hw x (Finset.mem_union_right _ hx)) (((rand.sub 1).sub 1).sub 0)
    rw [hdecode, Option.bind_some, hdecode', Option.bind_some]
    exact ⟨_, rfl, _, e, l, rfl, rfl, rfl, hsame, hsame'⟩

/-- **The sets in an RDB file.**  In every state of a run the sets are saved; what is loaded has
their members if and only if no uuid that one of them has a gno of contains a separator. -/
theorem loadAuxFields_rdbSave_iff (hsave : SavesAuxField rdbSaveAuxField auxFields)
    (h₀ : SetsInvariant s₀) (h : CommandRun redis s₀ server.toServerSets)
    (hexecuted : Addressable (nonEmpty (entries server.gtidExecuted)))
    (hlost : Addressable (nonEmpty (entries server.gtidLost))) (rsi : RdbSaveInfo) :
    ∃ rdb' saved, rdbSaveInfoAuxFieldsGtid rdbSaveAuxField server rdb (some rsi) =
        some (rdb', 1) ∧
      auxFields rdb' = auxFields rdb ++ saved ∧
      ∀ rand, (∃ rsi, loadAuxFields saved (some ⟨none⟩) rand = some rsi ∧ Restored server rsi) ↔
        ∀ x ∈ contents server.gtidExecuted ∪ contents server.gtidLost, Writable x.1 := by
  have hinv := h.invariant h₀
  have he : RegularSet server.gtidExecuted := hinv.executed.toRegularSet
  have hshort : ∀ n : Nat, n < 2 ^ 32 → n < 2 ^ 63 := fun n hn => by omega
  obtain ⟨rdb', hrun, hfields⟩ := rdbSaveInfoAuxFieldsGtid_spec hsave
    (gtidSetDump_spec he.toWellFormedSet (hshort _ hexecuted.length_lt))
    (gtidSetDump_spec hinv.lost.toWellFormedSet (hshort _ hlost.length_lt)) rsi
  exact ⟨rdb', _, hrun, hfields, loadAuxFields_restored_iff he hinv.lost hexecuted hlost _⟩

/-- A file that is the list of its fields. -/
def appendAuxField (rdb : List (Bytes × Bytes)) (key val : Bytes) : List (Bytes × Bytes) × Int :=
  (rdb ++ [(key, val)], ((key.length + val.length + 3 : Nat) : Int))

theorem savesAuxField_append : SavesAuxField appendAuxField id :=
  ⟨fun _ _ _ => rfl, fun _ _ _ => by rw [appendAuxField]; omega⟩

/-- A:1-3 lost. -/
theorem loadAuxFields_rdbSave_lost :
    ∃ server rdb' saved, ([65], 1) ∈ contents server.gtidLost ∧
      rdbSaveInfoAuxFieldsGtid appendAuxField server [] (some ⟨none⟩) =
        some (rdb', 1) ∧
      rdb' = [] ++ saved ∧
      ∃ rsi, loadAuxFields saved (some ⟨none⟩) (fun _ => 0) = some rsi ∧ Restored server rsi := by
  obtain ⟨l, hl, hes⟩ := exists_set_with_empty
  obtain ⟨e, -, he, hempty, hcur⟩ := gtidSetCurrentUuidSetUpdate_spec regularSet_new.1 [66]
  have hinv : SetsInvariant ⟨[66], e, l⟩ := ⟨he, hl, hcur.ge⟩
  have hexecuted : nonEmpty (entries e) = [] := by
    rw [List.eq_nil_iff_forall_not_mem]
    intro d hd
    obtain ⟨g, hg⟩ := he.exists_gno hd
    rw [hempty, contents_new] at hg
    cases hg
  have hcontents : contents l = {[65]} ×ˢ IntervalList.points [(1, 3)] := by
    rw [contents, hes, pairs_cons, pairs_cons, IntervalList.points_nil, Finset.product_empty,
      pairs_nil, Finset.union_empty, Finset.union_empty]
  have hrun : CommandRun Redis.plain ⟨[66], e, l⟩
      (masterServer ⟨[66], e, l⟩ .psync 0 0).toServerSets := .start
  obtain ⟨rdb', saved, hsaved, hfields, hiff⟩ := loadAuxFields_rdbSave_iff savesAuxField_append hinv
    hrun (addressable_of_length_lt (by rw [masterServer, hexecuted]; decide))
    (addressable_of_length_lt (by rw [masterServer, hes]; decide)) ⟨none⟩
  refine ⟨_, rdb', saved, ?_, hsaved, hfields, (hiff _).mpr ?_⟩
  · rw [masterServer, hcontents, Finset.mem_product, IntervalList.mem_points]
    exact ⟨Finset.mem_singleton_self _, (1, 3), List.mem_singleton_self _, by decide⟩
  · intro x hx
    rw [masterServer, hempty, contents_new, Finset.empty_union, hcontents, Finset.mem_product,
      Finset.mem_singleton] at hx
    rw [hx.1]
    exact ⟨by decide, by decide⟩

/-- GTID A,B:1 is written A,B:1, and read as a set of A without gnos and one of B. -/
theorem loadAuxFields_loses :
    ∃ s₀ server rdb' saved, SetsInvariant s₀ ∧ CommandRun Redis.plain s₀ server.toServerSets ∧
      rdbSaveInfoAuxFieldsGtid appendAuxField server [] (some ⟨none⟩) =
        some (rdb', 1) ∧
      rdb' = [] ++ saved ∧
      ∀ rand, ¬ ∃ rsi, loadAuxFields saved (some ⟨none⟩) rand = some rsi ∧ Restored server rsi := by
  obtain ⟨e, s, hupdate, hcall, hes, hlost⟩ : ∃ (e : GtidSet) (s : ServerSets),
      gtidSetCurrentUuidSetUpdate gtidSetNew [66] = some e ∧
      gtidCommandProc Redis.plain ⟨[66], e, gtidSetNew⟩ [[], [65, 44, 66, 58, 49], [], []]
        (fun _ => 0) = some (s, .ran .other) ∧
      entries s.gtidExecuted = [([66], []), ([65, 44, 66], [(1, 1)])] ∧ s.gtidLost = gtidSetNew :=
    ⟨_, _, rfl, rfl, rfl, rfl⟩
  obtain ⟨hold, -⟩ : Holding ⟨[66], e, gtidSetNew⟩ [66] ∅ ∅ ∧ e.curnext = 0 :=
    serverStart_spec ⟨hupdate, rfl⟩
  have hbelow : CommandProc.gtidCommand.Below Redis.plain [[], [65, 44, 66, 58, 49], [], []] := by
    refine ⟨fun x hx => ?_, fun name cmd hname hcmd => ?_⟩
    · cases hx
      decide
    · cases hcmd
      trivial
  have hrun : CommandRun Redis.plain ⟨[66], e, gtidSetNew⟩
      (masterServer s .psync 0 0).toServerSets :=
    .call ⟨[], -1, .gtidCommand⟩ _ execNothing _ _ .start (execChanges_nothing rfl) hbelow hcall
  have hinv := hrun.invariant hold.toSetsInvariant
  have he : RegularSet s.gtidExecuted := hinv.executed.toRegularSet
  have hexecuted : Addressable (nonEmpty (entries s.gtidExecuted)) :=
    addressable_of_length_lt (by rw [hes]; decide)
  have hlost : Addressable (nonEmpty (entries s.gtidLost)) :=
    addressable_of_length_lt (by rw [hlost]; decide)
  obtain ⟨rdb', hsaved, hfields⟩ := rdbSaveInfoAuxFieldsGtid_spec savesAuxField_append
    (gtidSetDump_spec he.toWellFormedSet (hexecuted.length_lt.trans (by decide)))
    (gtidSetDump_spec hinv.lost.toWellFormedSet (hlost.length_lt.trans (by decide))) ⟨none⟩
  refine ⟨_, _, rdb', _, hold.toSetsInvariant, hrun, hsaved, hfields, fun rand hrestored => ?_⟩
  have hall := (loadAuxFields_restored_iff he hinv.lost hexecuted hlost _ rand).mp hrestored
  have hmem : ([65, 44, 66], 1) ∈ contents s.gtidExecuted := by
    rw [contents, hes]
    decide
  exact (hall _ (Finset.mem_union_left _ hmem)).2 (by decide)

end File

end XredisGtid
