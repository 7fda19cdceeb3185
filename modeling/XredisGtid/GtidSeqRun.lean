import XredisGtid.GtidSeqSearch

/-!
# Runs of the sequence

`GtidSeqReachable hist seq` holds of the sequences reached by appends and trims, where
`hist` are the entries appended so far, with increasing offsets.  What is left of them
is a suffix of `hist` (`GtidSeqReachable.rep`).
-/
namespace XredisGtid
open Memory OffsetLog

/-- An entry that may be appended after those of `hist`. -/
structure Follows (hist : List LogEntry) (e : LogEntry) : Prop where
  gno : 1 ≤ e.gno ∧ e.gno < LLONG_MAX
  offset : LLONG_MIN ≤ e.offset ∧ e.offset ≤ LLONG_MAX
  increasing : ∀ d ∈ hist, d.offset < e.offset

inductive GtidSeqReachable : List LogEntry → GtidSeq → Prop
  | create : GtidSeqReachable [] gtidSeqCreate
  | append {hist : List LogEntry} {seq seq' : GtidSeq} (e : LogEntry) :
      GtidSeqReachable hist seq → Follows hist e →
      gtidSeqAppend seq e.uuid e.gno e.offset = some seq' → GtidSeqReachable (hist ++ [e]) seq'
  | trim {hist : List LogEntry} {seq seq' : GtidSeq} (o : Int) :
      GtidSeqReachable hist seq → gtidSeqTrim seq o = some seq' → GtidSeqReachable hist seq'

/-- What holds of every sequence of a run. -/
structure SeqInvariant (hist : List LogEntry) (seq : GtidSeq) : Prop where
  rep : ∃ l f, SeqRep seq l f
  suffix : gtidSeqEntries seq <:+ hist
  ordered : Ordered LogEntry.offset hist
  gnos : ∀ e ∈ hist, 1 ≤ e.gno ∧ e.gno < LLONG_MAX

section Run
variable {hist before suf : List LogEntry} {seq : GtidSeq} {req : GtidSet} {e : LogEntry}

theorem seqInvariant_create : SeqInvariant [] gtidSeqCreate :=
  ⟨⟨[], [], seqRep_create⟩, by rw [seqRep_create.entries_eq]; exact List.suffix_refl _,
    List.Pairwise.nil, by simp⟩

/-- **One append.** -/
theorem SeqInvariant.append (h : SeqInvariant hist seq) (he : Follows hist e) :
    ∃ seq', gtidSeqAppend seq e.uuid e.gno e.offset = some seq' ∧
      SeqInvariant (hist ++ [e]) seq' ∧
      gtidSeqEntries seq' = gtidSeqEntries seq ++ [e] := by
  obtain ⟨l, f, hrep⟩ := h.rep
  obtain ⟨seq', l', f', hrun, hrep', hentries⟩ := gtidSeqAppend_rep hrep e.uuid
    (fun d hd => he.increasing d (h.suffix.mem hd)) he.offset he.gno
  refine ⟨seq', hrun, ⟨⟨l', f', hrep'⟩, ?_, ?_, ?_⟩, hentries⟩
  · obtain ⟨t, ht⟩ := h.suffix
    rw [hentries, ← ht, List.append_assoc]
    exact List.suffix_append _ _
  · rw [Ordered, List.pairwise_append]
    refine ⟨h.ordered, List.pairwise_singleton _ _, ?_⟩
    intro d hd x hx
    rw [List.mem_singleton.mp hx]
    exact he.increasing d hd
  · intro d hd
    rcases List.mem_append.mp hd with hd | hd
    · exact h.gnos d hd
    · exact List.mem_singleton.mp hd ▸ he.gno

/-- **One trim.** -/
theorem SeqInvariant.trim (h : SeqInvariant hist seq) (o : Int) :
    ∃ seq', gtidSeqTrim seq o = some seq' ∧ SeqInvariant hist seq' ∧
      gtidSeqEntries seq' = entriesFrom LogEntry.offset o (gtidSeqEntries seq) := by
  obtain ⟨l, f, hrep⟩ := h.rep
  obtain ⟨seq', l', f', hrun, hrep', hentries⟩ := gtidSeqTrim_rep hrep o
  refine ⟨seq', hrun, ⟨⟨l', f', hrep'⟩, ?_, h.ordered, h.gnos⟩, hentries⟩
  obtain ⟨t, ht⟩ := h.suffix
  have hord : Ordered LogEntry.offset (gtidSeqEntries seq) := by
    have := h.ordered
    rw [← ht] at this
    exact this.suffix
  rw [hentries]
  exact (entriesFrom_suffix hord o).trans h.suffix

theorem GtidSeqReachable.invariant (h : GtidSeqReachable hist seq) : SeqInvariant hist seq := by
  induction h with
  | create => exact seqInvariant_create
  | append e _ he hrun ih =>
    obtain ⟨seq', hrun', hinv, -⟩ := ih.append he
    exact Option.some.inj (hrun.symm.trans hrun') ▸ hinv
  | trim o _ hrun ih =>
    obtain ⟨seq', hrun', hinv, -⟩ := ih.trim o
    exact Option.some.inj (hrun.symm.trans hrun') ▸ hinv

theorem SeqInvariant.ordered_entries (h : SeqInvariant hist seq) :
    Ordered LogEntry.offset (gtidSeqEntries seq) := by
  obtain ⟨t, ht⟩ := h.suffix
  have := h.ordered
  rw [← ht] at this
  exact this.suffix

/-- **The sequence is a log.**  In every run an append adds its entry at the end and
changes no other, and a trim removes just the entries before the cut point. -/
theorem reachable_seqs_refine_log (h : GtidSeqReachable hist seq) :
    (∀ e, Follows hist e → ∃ seq', gtidSeqAppend seq e.uuid e.gno e.offset = some seq' ∧
      gtidSeqEntries seq' = gtidSeqEntries seq ++ [e]) ∧
    (∀ o, ∃ seq', gtidSeqTrim seq o = some seq' ∧
      gtidSeqEntries seq' = (gtidSeqEntries seq).filter (fun e => o ≤ e.offset)) := by
  constructor
  · intro e he
    obtain ⟨seq', hrun, -, hentries⟩ := h.invariant.append he
    exact ⟨seq', hrun, hentries⟩
  · intro o
    obtain ⟨seq', hrun, -, hentries⟩ := h.invariant.trim o
    exact ⟨seq', hrun, hentries⟩

/-- Three appends, the second of which continues a segment, and a trim that cuts it. -/
theorem exists_trimmed_seq :
    ∃ seq, GtidSeqReachable [⟨[65], 5, 100⟩, ⟨[65], 6, 140⟩, ⟨[66], 1, 180⟩] seq ∧
      gtidSeqEntries seq = [⟨[65], 6, 140⟩, ⟨[66], 1, 180⟩] := by
  have h₁ := GtidSeqReachable.append ⟨[65], 5, 100⟩ .create ⟨by decide, by decide, by decide⟩ rfl
  have h₂ := GtidSeqReachable.append ⟨[65], 6, 140⟩ h₁ ⟨by decide, by decide, by decide⟩ rfl
  have h₃ := GtidSeqReachable.append ⟨[66], 1, 180⟩ h₂ ⟨by decide, by decide, by decide⟩ rfl
  exact ⟨_, .trim 120 h₃ rfl, rfl⟩

theorem reachable_seqs_refine_log_trimmed :
    ∃ seq seq' seq'', gtidSeqEntries seq = [⟨[65], 6, 140⟩, ⟨[66], 1, 180⟩] ∧
      gtidSeqAppend seq [66] 3 190 = some seq' ∧
      gtidSeqEntries seq' = gtidSeqEntries seq ++ [⟨[66], 3, 190⟩] ∧
      gtidSeqTrim seq 141 = some seq'' ∧
      gtidSeqEntries seq'' = (gtidSeqEntries seq).filter (fun e => 141 ≤ e.offset) := by
  obtain ⟨seq, h, hlog⟩ := exists_trimmed_seq
  obtain ⟨happend, htrim⟩ := reachable_seqs_refine_log h
  obtain ⟨seq', hrun', hentries'⟩ :=
    happend ⟨[66], 3, 190⟩ ⟨by decide, by decide, by decide⟩
  obtain ⟨seq'', hrun'', hentries''⟩ := htrim 141
  exact ⟨seq, seq', seq'', hlog, hrun', hentries', hrun'', hentries''⟩

/-- The sequence with one entry. -/
theorem exists_singleton_seq (he : Follows [] e) :
    ∃ seq, GtidSeqReachable [e] seq ∧ gtidSeqEntries seq = [e] := by
  obtain ⟨seq, hrun, -, hlog⟩ := seqInvariant_create.append he
  exact ⟨seq, .append e .create he hrun, hlog⟩

/-- **`gtidSeqPsync` selects the tail of the log.** -/
theorem gtidSeqPsync_tail (h : GtidSeqReachable hist seq) (o : Int) (rand : Rand) :
    ∃ cont, gtidSeqPsync seq o rand = some cont ∧
      ∀ uuid g, (uuid, g) ∈ contents cont ↔
        ∃ e ∈ gtidSeqEntries seq, o ≤ e.offset ∧ e.uuid = uuid ∧ e.gno = g := by
  obtain ⟨l, f, hrep⟩ := h.invariant.rep
  obtain ⟨cont, hrun, -, hset⟩ := gtidSeqPsync_rep hrep o rand
  refine ⟨cont, hrun, fun uuid g => ?_⟩
  rw [hset, mem_gtids]
  constructor
  · rintro ⟨e, he, hgtid⟩
    obtain ⟨he, ho⟩ := mem_entriesFrom.mp he
    cases hgtid
    exact ⟨e, he, ho, rfl, rfl⟩
  · rintro ⟨e, he, ho, rfl, rfl⟩
    exact ⟨e, mem_entriesFrom.mpr ⟨he, ho⟩, rfl⟩

theorem gtidSeqPsync_tail_trimmed :
    ∃ seq cont, gtidSeqEntries seq = [⟨[65], 6, 140⟩, ⟨[66], 1, 180⟩] ∧
      gtidSeqPsync seq 150 (fun _ => 0) = some cont ∧
      ∀ uuid g, (uuid, g) ∈ contents cont ↔
        ∃ e ∈ gtidSeqEntries seq, 150 ≤ e.offset ∧ e.uuid = uuid ∧ e.gno = g := by
  obtain ⟨seq, hreach, hlog⟩ := exists_trimmed_seq
  obtain ⟨cont, hrun, hmem⟩ := gtidSeqPsync_tail hreach 150 (fun _ => 0)
  exact ⟨seq, cont, hlog, hrun, hmem⟩

/-! ## The continue point of a replica -/

/-- The gno of the last entry of a uuid, `0` if there is none. -/
def lastGno (l : List LogEntry) (uuid : Uuid) : Int :=
  ((l.filter (fun e => e.uuid = uuid)).getLast?.map LogEntry.gno).getD 0

theorem lastGno_concat (l : List LogEntry) (e : LogEntry) : lastGno (l ++ [e]) e.uuid = e.gno := by
  simp [lastGno, List.filter_append]

/-- The last gno of a uuid is below all later ones. -/
theorem lastGno_lt (hinc : (before ++ suf).Pairwise (fun a b => a.uuid = b.uuid → a.gno < b.gno))
    (hpos : ∀ e ∈ suf, 1 ≤ e.gno) (he : e ∈ suf) : lastGno before e.uuid < e.gno := by
  rw [lastGno]
  cases hlast : (before.filter (fun d => d.uuid = e.uuid)).getLast? with
  | none =>
    have := hpos e he
    simp only [Option.map_none, Option.getD_none]
    omega
  | some d =>
    obtain ⟨hd, huuid⟩ := List.mem_filter.mp (List.mem_of_getLast? hlast)
    exact (List.pairwise_append.mp hinc).2.2 d hd e he (by simpa using huuid)

theorem lastGno_lt_max (h : ∀ e ∈ before, e.gno < LLONG_MAX) (uuid : Uuid) :
    lastGno before uuid < LLONG_MAX := by
  rw [lastGno]
  cases hlast : (before.filter (fun d => d.uuid = uuid)).getLast? with
  | none => decide
  | some d => exact h d (List.mem_filter.mp (List.mem_of_getLast? hlast)).1

/-- A gno that is not the last possible one is expected when it is above the greatest one. -/
theorem expected_iff (hreq : WellFormedSet req) (hmax : maxGno (contents req) e.uuid < LLONG_MAX) :
    expected req e = true ↔ maxGno (contents req) e.uuid < e.gno := by
  have hnn : 0 ≤ maxGno (contents req) e.uuid := hreq.maxGno_nonneg e.uuid
  rw [expected, decide_eq_true_eq, expectedGno, llong_succ hnn hmax]
  omega

/-- **The continue point of a replica that is a prefix of the log.**  `suf` are the entries
from a retained position on, `before` all that were appended earlier. -/
theorem gtidSeqXsync_prefix (h : GtidSeqReachable hist seq)
    (hinc : hist.Pairwise (fun a b => a.uuid = b.uuid → a.gno < b.gno)) (hreq : WellFormedSet req)
    (hhist : hist = before ++ suf) (hsuf : suf <:+ gtidSeqEntries seq)
    (hlasts : ∀ e ∈ gtidSeqEntries seq, maxGno (contents req) e.uuid = lastGno before e.uuid)
    (rand : Rand) :
    ∃ cont, gtidSeqXsync seq req rand = some (headOffset suf, cont) ∧
      contents cont = gtids suf := by
  have hinv := h.invariant
  obtain ⟨l, f, hrep⟩ := hinv.rep
  obtain ⟨pre, hpre⟩ := hsuf
  rw [hhist] at hinc
  have hmax : ∀ e ∈ gtidSeqEntries seq, maxGno (contents req) e.uuid < LLONG_MAX := by
    intro e he
    rw [hlasts e he]
    refine lastGno_lt_max (fun d hd => (hinv.gnos d ?_).2) _
    rw [hhist]
    exact List.mem_append_left suf hd
  have hall : ∀ e ∈ suf, expected req e = true := by
    intro e he
    have hmem : e ∈ gtidSeqEntries seq := hpre ▸ List.mem_append_right pre he
    rw [expected_iff hreq (hmax e hmem), hlasts e hmem]
    refine lastGno_lt hinc (fun d hd => (hinv.gnos d ?_).1) he
    rw [hhist]
    exact List.mem_append_right before hd
  have hrun : (gtidSeqEntries seq).rtakeWhile (expected req) = suf := by
    rw [← hpre]
    rcases List.eq_nil_or_concat pre with rfl | ⟨pre, d, rfl⟩
    · rw [List.nil_append, List.rtakeWhile_eq_self_iff]
      exact hall
    · -- the entry before the position is the last one of its uuid
      rw [List.concat_eq_append, List.append_assoc, List.singleton_append] at *
      have hmem : d ∈ gtidSeqEntries seq := by
        rw [← hpre]
        simp
      obtain ⟨t, ht⟩ := hinv.suffix
      have hbefore : before = t ++ pre ++ [d] := by
        rw [← hpre, hhist, ← List.singleton_append, ← List.append_assoc, ← List.append_assoc] at ht
        exact List.append_cancel_right ht.symm
      refine rtakeWhile_concat_neg_append ?_ hall
      rw [← Bool.not_eq_true, expected_iff hreq (hmax d hmem), hlasts d hmem, hbefore,
        lastGno_concat]
      exact Int.lt_irrefl _
  obtain ⟨cont, hxsync, -, hset⟩ := gtidSeqXsync_rep hrep hreq rand
  exact ⟨cont, by rw [hxsync, hrun], by rw [hset, hrun]⟩

theorem gtidSeqXsync_prefix_two :
    ∃ seq req, GtidSeqReachable [⟨[65], 5, 100⟩, ⟨[66], 3, 200⟩] seq ∧
      ∃ cont, gtidSeqXsync seq req (fun _ => 0) = some (headOffset [⟨[66], 3, 200⟩], cont) ∧
        contents cont = gtids [⟨[66], 3, 200⟩] := by
  obtain ⟨seq₁, hrun₁, hinv₁, hlog₁⟩ := seqInvariant_create.append (e := ⟨[65], 5, 100⟩)
    ⟨by decide, by decide, by simp⟩
  have hfollows : Follows [⟨[65], 5, 100⟩] ⟨[66], 3, 200⟩ := ⟨by decide, by decide, by simp⟩
  obtain ⟨seq, hrun, hinv, hlog⟩ := hinv₁.append hfollows
  have hreach : GtidSeqReachable ([⟨[65], 5, 100⟩] ++ [⟨[66], 3, 200⟩]) seq :=
    (GtidSeqReachable.append _ .create ⟨by decide, by decide, by simp⟩ hrun₁).append _ hfollows hrun
  obtain ⟨req, hadd, hreq, -⟩ := add_regularSet regularSet_new.1 [65]
    (show 1 ≤ (1 : Int) by decide) (show 1 ≤ (5 : Int) by decide) (by decide) (fun _ => 0)
  have hentries : (gtidSetAdd gtidSetNew [65] 1 5 (fun _ => 0)).map (fun r => entries r.1) =
      some [([65], [(1, 5)])] := by decide +kernel
  rw [hadd, Option.map_some, Option.some.injEq] at hentries
  rw [show gtidSeqEntries gtidSeqCreate = [] from rfl] at hlog₁
  refine ⟨seq, req, hreach, gtidSeqXsync_prefix hreach (by simp) hreq.toWellFormedSet rfl ?_ ?_ _⟩
  · rw [hlog]
    exact List.suffix_append _ _
  · intro e he
    rw [hlog, hlog₁] at he
    rw [hreq.maxGno_eq, hentries]
    simp only [List.nil_append, List.singleton_append, List.mem_cons, List.not_mem_nil,
      or_false] at he
    rcases he with rfl | rfl <;> rfl

/-! ## Soundness of the continue point -/

/-- No uuid whose gnos reach `LLONG_MAX` in the request makes an entry of the request look
missing: behind such an entry there is always one that stops the walk. -/
def OverflowShielded (l : List LogEntry) (S : Finset (Uuid × Int)) : Prop :=
  ∀ pre e suf, l = pre ++ e :: suf → e.gtid ∈ S → (e.uuid, LLONG_MAX) ∈ S →
    ∃ d ∈ suf, (d.uuid, LLONG_MAX) ∉ S ∧ d.gno ≤ maxGno S d.uuid

/-- A uuid that reaches `LLONG_MAX` expects every gno. -/
theorem expected_of_max (hreq : WellFormedSet req) (hmem : (e.uuid, LLONG_MAX) ∈ contents req)
    (hpos : 1 ≤ e.gno) : expected req e = true := by
  have hmax : maxGno (contents req) e.uuid = LLONG_MAX :=
    Int.le_antisymm (hreq.maxGno_le _) (hreq.le_maxGno hmem)
  rw [expected, decide_eq_true_eq, expectedGno, hmax, llong_max_add_one]
  unfold LLONG_MIN
  omega

/-- **The entries found are missing from the request** exactly when it is shielded. -/
theorem disjoint_iff_shielded (hreq : WellFormedSet req) {l : List LogEntry}
    (hpos : ∀ e ∈ l, 1 ≤ e.gno) :
    Disjoint (gtids (l.rtakeWhile (expected req))) (contents req) ↔
      OverflowShielded l (contents req) := by
  rw [Finset.disjoint_left]
  constructor
  · intro hdisj pre e suf hl he hmax
    by_contra hno
    -- everything from `e` on is expected, so `e` is found
    have hall : ∀ d ∈ e :: suf, expected req d = true := by
      intro d hd
      have hmem : d ∈ l := by
        rw [hl]
        exact List.mem_append_right pre hd
      by_cases hdm : (d.uuid, LLONG_MAX) ∈ contents req
      · exact expected_of_max hreq hdm (hpos d hmem)
      · rcases List.mem_cons.mp hd with rfl | hd
        · exact absurd hmax hdm
        · rw [expected_iff hreq ((hreq.maxGno_lt_iff d.uuid).mpr hdm)]
          apply Classical.byContradiction
          intro hle
          exact hno ⟨d, hd, hdm, by omega⟩
    refine hdisj (mem_gtids.mpr ⟨e, ?_, rfl⟩) he
    rw [hl, rtakeWhile_append_of_forall hall]
    simp
  · intro hshield x hx hreqx
    obtain ⟨e, he, rfl⟩ := mem_gtids.mp hx
    obtain ⟨t, ht, -⟩ := exists_rtakeWhile (expected req) l
    obtain ⟨p, q, hpq⟩ := List.append_of_mem he
    have hexp : ∀ d ∈ l.rtakeWhile (expected req), expected req d = true :=
      fun d hd => List.mem_rtakeWhile_imp hd
    by_cases hmax : (e.uuid, LLONG_MAX) ∈ contents req
    · rw [hpq, ← List.append_assoc] at ht
      obtain ⟨d, hd, hdm, hle⟩ := hshield (t ++ p) e q ht hreqx hmax
      have := hexp d (by rw [hpq]; simp [hd])
      rw [expected_iff hreq ((hreq.maxGno_lt_iff d.uuid).mpr hdm)] at this
      omega
    · have := hexp e he
      rw [expected_iff hreq ((hreq.maxGno_lt_iff e.uuid).mpr hmax)] at this
      have := hreq.le_maxGno hreqx
      omega

/-- What the answer of `gtidSeqXsync` is for: `o` is the offset of a retained entry, `cont`
the gtids from there on, the same as `gtidSeqPsync` finds, and the request has none of
them; `-1` comes with an empty set. -/
def SoundAnswer (seq : GtidSeq) (req : GtidSet) (o : Int) (cont : GtidSet) : Prop :=
  (0 ≤ o →
    (∃ e ∈ gtidSeqEntries seq, e.offset = o) ∧
    contents cont = gtids ((gtidSeqEntries seq).filter (fun e => o ≤ e.offset)) ∧
    (∀ rand, ∃ set, gtidSeqPsync seq o rand = some set ∧ contents set = contents cont) ∧
    Disjoint (gtids ((gtidSeqEntries seq).filter (fun e => o ≤ e.offset))) (contents req)) ∧
  (o = -1 → contents cont = ∅)

/-- **The answer of `gtidSeqXsync`** is sound exactly when the request is shielded from the
overflow of the expected gno. -/
theorem gtidSeqXsync_sound_iff (h : GtidSeqReachable hist seq) (hoff : ∀ e ∈ hist, 0 ≤ e.offset)
    (hreq : WellFormedSet req) (rand : Rand) :
    ∃ o cont, gtidSeqXsync seq req rand = some (o, cont) ∧
      (SoundAnswer seq req o cont ↔ OverflowShielded (gtidSeqEntries seq) (contents req)) := by
  have hinv := h.invariant
  obtain ⟨l, f, hrep⟩ := hinv.rep
  obtain ⟨cont, hxsync, -, hset⟩ := gtidSeqXsync_rep hrep hreq rand
  have hpos : ∀ e ∈ gtidSeqEntries seq, 1 ≤ e.gno :=
    fun e he => (hinv.gnos e (hinv.suffix.mem he)).1
  refine ⟨_, cont, hxsync, ?_⟩
  rw [← disjoint_iff_shielded hreq hpos, SoundAnswer]
  obtain ⟨t, ht, -⟩ := exists_rtakeWhile (expected req) (gtidSeqEntries seq)
  cases hsuf : (gtidSeqEntries seq).rtakeWhile (expected req) with
  | nil =>
    rw [hsuf, gtids_nil] at hset
    have hneg : ¬ (0 : Int) ≤ headOffset [] := by decide
    simp only [hneg, false_imp_iff, true_and, hset, gtids_nil, Finset.disjoint_empty_left,
      implies_true]
  | cons e q =>
    rw [hsuf] at ht hset
    have hmem : e ∈ gtidSeqEntries seq := by
      rw [ht]
      simp
    have hnn := hoff e (hinv.suffix.mem hmem)
    have hfrom : (gtidSeqEntries seq).filter (fun d => decide (e.offset ≤ d.offset)) = e :: q := by
      have hord := hinv.ordered_entries
      rw [ht] at hord ⊢
      exact entriesFrom_middle hord
    have hne : ¬ e.offset = -1 := by omega
    have hhead : headOffset (e :: q) = e.offset := rfl
    rw [hhead, hfrom]
    constructor
    · exact fun hprop => (hprop.1 hnn).2.2.2
    · intro hdisj
      refine ⟨fun _ => ⟨⟨e, hmem, rfl⟩, hset, fun rand' => ?_, hdisj⟩, fun habs => absurd habs hne⟩
      obtain ⟨set, hpsync, -, hset'⟩ := gtidSeqPsync_rep hrep e.offset rand'
      rw [entriesFrom, hfrom, ← hset] at hset'
      exact ⟨set, hpsync, hset'⟩

/-- A request with `A:1-6` to the sequence left of three appends and a trim. -/
theorem gtidSeqXsync_sound_iff_trimmed :
    ∃ seq req, gtidSeqEntries seq = [⟨[65], 6, 140⟩, ⟨[66], 1, 180⟩] ∧
      contents req = {[65]} ×ˢ Finset.Icc 1 6 ∧ ∃ o cont,
      gtidSeqXsync seq req (fun _ => 0) = some (o, cont) ∧
      (SoundAnswer seq req o cont ↔ OverflowShielded (gtidSeqEntries seq) (contents req)) := by
  obtain ⟨seq, hreach, hlog⟩ := exists_trimmed_seq
  obtain ⟨req, -, hreq, hset⟩ := add_regularSet regularSet_new.1 [65] (le_refl 1)
    (show 1 ≤ 6 by decide) (by decide) (fun _ => 0)
  rw [contents_new, Finset.empty_union] at hset
  exact ⟨seq, req, hlog, hset,
    gtidSeqXsync_sound_iff hreach (by decide) hreq.toWellFormedSet (fun _ => 0)⟩

/-- A request with the gnos `1-LLONG_MAX` of a uuid is sent its gno `5` again. -/
theorem gtidSeqXsync_overflow :
    ∃ seq req o cont, GtidSeqReachable [⟨[65], 5, 100⟩] seq ∧ WellFormedSet req ∧
      contents req = {[65]} ×ˢ Finset.Icc 1 LLONG_MAX ∧
      gtidSeqXsync seq req (fun _ => 0) = some (o, cont) ∧ ¬ SoundAnswer seq req o cont := by
  obtain ⟨seq, hreach, hlog⟩ := exists_singleton_seq (e := ⟨[65], 5, 100⟩)
    ⟨by decide, by decide, by simp⟩
  obtain ⟨req, hadd, hreq, hset⟩ := add_wellFormedSet regularSet_new.1.toWellFormedSet [65]
    (Or.inl (by rw [regularSet_new.2]; rfl)) (le_refl 1) (show 1 ≤ LLONG_MAX by decide) (le_refl _)
    (fun _ => 0)
  rw [contents_new, Finset.empty_union] at hset
  obtain ⟨l, f, hrep⟩ := hreach.invariant.rep
  obtain ⟨cont, hxsync, -, -⟩ := gtidSeqXsync_rep hrep hreq (fun _ => 0)
  have hmem : ∀ g, 1 ≤ g → g ≤ LLONG_MAX → (([65] : Uuid), g) ∈ contents req := by
    intro g h₁ h₂
    rw [hset]
    simp [h₁, h₂]
  have hrun : (gtidSeqEntries seq).rtakeWhile (expected req) = [⟨[65], 5, 100⟩] := by
    rw [hlog, List.rtakeWhile_eq_self_iff]
    intro e he
    rw [List.mem_singleton.mp he]
    exact expected_of_max hreq (hmem LLONG_MAX (by decide) (le_refl _)) (by decide)
  refine ⟨seq, req, _, cont, hreach, hreq, hset, hxsync, fun hsound => ?_⟩
  rw [hrun] at hsound
  have hdisj := (hsound.1 (by decide)).2.2.2
  rw [hlog, Finset.disjoint_left] at hdisj
  exact hdisj (mem_gtids.mpr ⟨⟨[65], 5, 100⟩, by decide, rfl⟩) (hmem 5 (by decide) (by decide))

end Run

end XredisGtid
