import XredisGtid.GtidSetLinks
import XredisGtid.GtidCodec

/-!
# The pointers of a gtid set

`SetPointers` adds to the list of records that `cached` and `current` point into it.  Each
operation keeps this, whatever the skip lists of the records hold, except for one:
`gtidSetDiff` frees every record that has no gno left and resets `cached`, but not
`current`, which is left pointing to a freed record (`gtidSetDiff_frees_current`).  In a
run in which no diff empties the current record the pointers never dangle.
-/
namespace XredisGtid
open Memory Buffer

structure SetPointers (s : GtidSet) (as : List Addr) : Prop where
  links : SetLinks s.uuidSetCells s.header s.tail as
  cached : ∀ a, s.cached = some a → a ∈ as
  current : ∀ a, s.current = some a → a ∈ as

section Record
variable {u v src : UuidSet} {start «end» n : Int} {rand : Rand}

/-! ## Operations on a record keep its pointer -/

theorem uuidSetAdd_next (h : uuidSetAdd u start «end» rand = some (v, n)) : v.next = u.next := by
  unfold uuidSetAdd at h
  split at h
  · obtain ⟨⟨gsl, k⟩, -, h⟩ := Option.bind_eq_some_iff.mp h
    cases h
    rfl
  · cases h
    rfl

theorem uuidSetRemove_next (h : uuidSetRemove u start «end» rand = some (v, n)) :
    v.next = u.next := by
  unfold uuidSetRemove at h
  split at h
  · obtain ⟨⟨gsl, k⟩, -, h⟩ := Option.bind_eq_some_iff.mp h
    cases h
    rfl
  · cases h
    rfl

theorem uuidSetMerge_next (h : uuidSetMerge u src rand = some (v, n)) : v.next = u.next := by
  unfold uuidSetMerge at h
  split at h
  · obtain ⟨⟨gsl, k⟩, -, h⟩ := Option.bind_eq_some_iff.mp h
    cases h
    rfl
  · cases h
    rfl

theorem uuidSetDiff_next (h : uuidSetDiff u src rand = some (v, n)) : v.next = u.next := by
  unfold uuidSetDiff at h
  split at h
  · obtain ⟨⟨gsl, k⟩, -, h⟩ := Option.bind_eq_some_iff.mp h
    cases h
    rfl
  · cases h
    rfl

theorem uuidSetNext_next {update : Bool} (h : uuidSetNext u update rand = some (v, n)) :
    v.next = u.next := by
  obtain ⟨⟨gsl, k⟩, -, h⟩ := Option.bind_eq_some_iff.mp h
  cases h
  rfl

theorem diffRecord_next {src : GtidSet} (h : diffRecord src u rand = some (v, n)) :
    v.next = u.next := by
  unfold diffRecord at h
  split at h
  · obtain ⟨w, -, h⟩ := Option.bind_eq_some_iff.mp h
    exact uuidSetDiff_next h
  · cases h
    rfl

end Record

section Pointers
variable {s s' dst src : GtidSet} {as p q : List Addr} {a cur : Addr} {u v : UuidSet} {uuid : Uuid}
  {start «end» g n : Int} {rand : Rand}

theorem setPointers_new : SetPointers gtidSetNew [] :=
  ⟨setLinks_new, by simp [gtidSetNew], by simp [gtidSetNew]⟩

/-- Assigning a record and pointing `cached` to a record of the list. -/
theorem SetPointers.assign (h : SetPointers s as) (hu : s.uuidSetCells.get a = some u)
    (hv : v.next = u.next) {b : Option Addr} (hb : ∀ a, b = some a → a ∈ as) :
    SetPointers { s with cached := b, uuidSetCells := s.uuidSetCells.set a v } as :=
  ⟨h.links.assign hu hv, hb, h.current⟩

theorem SetPointers.append (h : SetPointers s as) (hnext : u.next = none)
    (hrun : gtidSetAppend s u = some (s', n)) :
    SetPointers s' (as ++ [s.uuidSetCells.fresh]) := by
  obtain ⟨t, happend, hlink, -, -, hcached, hcurrent, -⟩ := h.links.append hnext
  rw [happend] at hrun
  cases hrun
  refine ⟨hlink, fun a ha => ?_, fun a ha => ?_⟩
  · exact List.mem_append_left _ (h.cached a (hcached ▸ ha))
  · exact List.mem_append_left _ (h.current a (hcurrent ▸ ha))

theorem SetPointers.findOrAppend (h : SetPointers s as) {found : Option Addr}
    (hfound : ∀ a, found = some a → a ∈ as)
    (hrun : findOrAppend s found uuid = some (s', cur)) :
    ∃ as', SetPointers s' as' ∧ cur ∈ as' := by
  cases found with
  | some b =>
    cases hrun
    exact ⟨as, h, hfound cur rfl⟩
  | none =>
    obtain ⟨⟨t, k⟩, happend, hrun⟩ := Option.bind_eq_some_iff.mp hrun
    cases hrun
    exact ⟨_, h.append rfl happend, by simp⟩

theorem SetPointers.find_mem (h : SetPointers s as) :
    ∀ a, gtidSetFind s uuid = some a → a ∈ as :=
  fun _ hfind => (h.links.find_mem hfind).1

/-! ## One set -/

theorem gtidSetAdd_pointers (h : SetPointers s as)
    (hrun : gtidSetAdd s uuid start «end» rand = some (s', n)) : ∃ as', SetPointers s' as' := by
  have hfound : ∀ a, (cachedFor s uuid).or (gtidSetFind s uuid) = some a → a ∈ as := by
    intro a ha
    cases hcached : cachedFor s uuid with
    | none =>
      rw [hcached, Option.none_or] at ha
      exact h.find_mem a ha
    | some c =>
      rw [hcached, Option.some_or, ← hcached] at ha
      exact h.cached a (Option.filter_eq_some_iff.mp ha).1
  obtain ⟨⟨t, cur⟩, hfind, hrun⟩ := Option.bind_eq_some_iff.mp hrun
  obtain ⟨u, hu, hrun⟩ := Option.bind_eq_some_iff.mp hrun
  obtain ⟨⟨v, k⟩, hadd, hrun⟩ := Option.bind_eq_some_iff.mp hrun
  cases hrun
  obtain ⟨as', ht, hcur⟩ := h.findOrAppend hfound hfind
  refine ⟨as', ht.assign hu (uuidSetAdd_next hadd) ?_⟩
  intro a ha
  exact Option.some.inj ha ▸ hcur

theorem gtidSetNext_pointers (h : SetPointers s as) {update : Bool}
    (hrun : gtidSetNext s uuid update rand = some (s', n)) : ∃ as', SetPointers s' as' := by
  unfold gtidSetNext at hrun
  split at hrun
  · cases hrun
    exact ⟨as, h⟩
  · obtain ⟨⟨t, cur⟩, hfind, hrun⟩ := Option.bind_eq_some_iff.mp hrun
    obtain ⟨u, hu, hrun⟩ := Option.bind_eq_some_iff.mp hrun
    obtain ⟨⟨v, k⟩, hnext, hrun⟩ := Option.bind_eq_some_iff.mp hrun
    cases hrun
    obtain ⟨as', ht, hcur⟩ := h.findOrAppend h.find_mem hfind
    refine ⟨as', ht.assign hu (uuidSetNext_next hnext) ?_⟩
    intro a ha
    exact Option.some.inj ha ▸ hcur

theorem gtidSetContains_pointers (h : SetPointers s as) {found : Bool}
    (hrun : gtidSetContains s uuid g = some (s', found)) : SetPointers s' as := by
  cases hfind : gtidSetFind s uuid with
  | some cur =>
    rw [gtidSetContains, hfind] at hrun
    obtain ⟨u, hu, hrun⟩ := Option.bind_eq_some_iff.mp hrun
    obtain ⟨b, hb, hrun⟩ := Option.bind_eq_some_iff.mp hrun
    cases hrun
    exact ⟨h.links, fun a ha => Option.some.inj ha ▸ h.find_mem cur hfind, h.current⟩
  | none =>
    rw [gtidSetContains, hfind] at hrun
    cases hrun
    exact ⟨h.links, by simp, h.current⟩

theorem gtidSetCurrentUuidSetUpdate_pointers (h : SetPointers s as)
    (hrun : gtidSetCurrentUuidSetUpdate s uuid = some s') : ∃ as', SetPointers s' as' := by
  obtain ⟨⟨t, cur⟩, hfind, hrun⟩ := Option.bind_eq_some_iff.mp hrun
  cases hrun
  obtain ⟨as', ht, hcur⟩ := h.findOrAppend h.find_mem hfind
  exact ⟨as', ht.links, ht.cached, fun a ha => Option.some.inj ha ▸ hcur⟩

theorem gtidSetCurrentUuidSetNext_pointers (h : SetPointers s as) {update : Bool}
    (hrun : gtidSetCurrentUuidSetNext s update rand = some (s', n)) : SetPointers s' as := by
  dsimp only [gtidSetCurrentUuidSetNext] at hrun
  split at hrun
  · obtain ⟨cur, hcur, hrun⟩ := Option.bind_eq_some_iff.mp hrun
    obtain ⟨u, hu, hrun⟩ := Option.bind_eq_some_iff.mp hrun
    obtain ⟨⟨v, k⟩, hnext, hrun⟩ := Option.bind_eq_some_iff.mp hrun
    cases hrun
    exact h.assign hu (uuidSetNext_next hnext) h.current
  · split at hrun
    · obtain ⟨cur, hcur, hrun⟩ := Option.bind_eq_some_iff.mp hrun
      obtain ⟨u, hu, hrun⟩ := Option.bind_eq_some_iff.mp hrun
      obtain ⟨⟨v, k⟩, hadd, hrun⟩ := Option.bind_eq_some_iff.mp hrun
      cases hrun
      exact ⟨h.links.assign hu (uuidSetAdd_next hadd), h.current, h.current⟩
    · cases hrun
      exact ⟨h.links, h.current, h.current⟩

theorem mem_of_mem_middle {b : Addr} (h : b ∈ p ++ a :: q) (hb : b ≠ a) : b ∈ p ++ q := by
  simp only [List.mem_append, List.mem_cons] at h ⊢
  tauto

/-- The search of `gtidSetRemove`, with the records `p` passed and `q` ahead. -/
theorem removeFrom_pointers (h : SetPointers s (p ++ q)) {fuel : Nat}
    (hrun : removeFrom uuid start «end» rand s fuel q.head? p.getLast? = some (s', n)) :
    ∃ as', SetPointers s' as' := by
  induction q generalizing p fuel with
  | nil =>
    cases fuel with
    | zero => cases hrun
    | succ fuel =>
      cases hrun
      exact ⟨_, h.links, by simp, h.current⟩
  | cons a q ih =>
    cases fuel with
    | zero => cases hrun
    | succ fuel =>
      obtain ⟨u, hu, hnext⟩ := h.links.get
      rw [List.head?_cons, removeFrom, hu, Option.bind_eq_bind, Option.bind_some] at hrun
      by_cases huuid : u.uuid = uuid
      · rw [if_pos huuid, Option.bind_eq_bind, Option.bind_eq_some_iff] at hrun
        obtain ⟨⟨v, k⟩, hremove, hrun⟩ := hrun
        have hassign := h.links.assign hu (uuidSetRemove_next hremove)
        dsimp only at hrun
        split at hrun
        · cases hrun
          rw [hnext]
          refine ⟨p ++ q, (SetLinks.unlink hassign).1, by simp, ?_⟩
          intro b hb
          rw [ite_eq_iff] at hb
          obtain ⟨-, hb⟩ | ⟨hcur, hb⟩ := hb
          · cases hb
          · refine mem_of_mem_middle (h.current b hb) ?_
            rintro rfl
            exact hcur hb
        · cases hrun
          exact ⟨_, hassign, fun b hb => Option.some.inj hb ▸ (by simp), h.current⟩
      · rw [if_neg huuid, hnext] at hrun
        have hlast : (p ++ [a]).getLast? = some a := List.getLast?_concat
        rw [← hlast] at hrun
        exact ih (p := p ++ [a]) (by rw [List.append_assoc]; exact h) hrun

theorem gtidSetRemove_pointers (h : SetPointers s as)
    (hrun : gtidSetRemove s uuid start «end» rand = some (s', n)) : ∃ as', SetPointers s' as' := by
  rw [gtidSetRemove, h.links.chain.head] at hrun
  exact removeFrom_pointers (p := []) h hrun

/-! ## Merge, diff and copies -/

theorem mergeRecord_pointers (h : SetPointers dst as)
    (hrun : mergeRecord dst u rand = some (s', n)) : ∃ as', SetPointers s' as' := by
  unfold mergeRecord at hrun
  split at hrun
  · rename_i cur hfind
    obtain ⟨w, hw, hrun⟩ := Option.bind_eq_some_iff.mp hrun
    obtain ⟨⟨v, k⟩, hmerge, hrun⟩ := Option.bind_eq_some_iff.mp hrun
    cases hrun
    exact ⟨as, h.assign hw (uuidSetMerge_next hmerge) h.cached⟩
  · exact ⟨_, h.append rfl hrun⟩

theorem mergeFrom_pointers {src : Arena UuidSet} {l : List Addr} (h : SetPointers dst as)
    (hrun : mergeFrom src l dst rand = some (s', n)) : ∃ as', SetPointers s' as' := by
  induction l generalizing dst as rand n with
  | nil =>
    cases hrun
    exact ⟨as, h⟩
  | cons a l ih =>
    obtain ⟨u, -, hrun⟩ := Option.bind_eq_some_iff.mp hrun
    obtain ⟨⟨t, k⟩, hrecord, hrun⟩ := Option.bind_eq_some_iff.mp hrun
    obtain ⟨⟨t', k'⟩, hrest, hrun⟩ := Option.bind_eq_some_iff.mp hrun
    cases hrun
    obtain ⟨as', ht⟩ := mergeRecord_pointers h hrecord
    exact ih ht hrest

/-- A diff leaves the record without gnos. -/
def EmptiesRecord (src : GtidSet) (u : UuidSet) : Prop :=
  ∃ rand v n, diffRecord src u rand = some (v, n) ∧ uuidSetCount v = 0

/-- A diff of `dst` with `src` frees the record `current` points to. -/
def EmptiesCurrent (dst src : GtidSet) : Prop :=
  ∃ a u, dst.current = some a ∧ dst.uuidSetCells.get a = some u ∧ EmptiesRecord src u

/-- The pointer to the next record plays no part in a diff. -/
theorem uuidSetDiff_setNext (next : Option Addr) :
    uuidSetDiff { u with next := next } v rand =
      (uuidSetDiff u v rand).map (fun r => ({ r.1 with next := next }, r.2)) := by
  dsimp only [uuidSetDiff]
  by_cases huuid : u.uuid = v.uuid
  · rw [if_pos huuid, if_pos huuid]
    cases gtidIntervalSkipListDiff u.intervals v.intervals rand <;> rfl
  · rw [if_neg huuid, if_neg huuid]
    rfl

theorem diffRecord_setNext (next : Option Addr) :
    diffRecord src { u with next := next } rand =
      (diffRecord src u rand).map (fun r => ({ r.1 with next := next }, r.2)) := by
  dsimp only [diffRecord]
  cases gtidSetFind src u.uuid with
  | none => rfl
  | some a =>
    cases hget : src.uuidSetCells.get a with
    | none => simp only [hget, Option.bind_eq_bind, Option.bind_none, Option.map_none]
    | some w =>
      simp only [hget, Option.bind_eq_bind, Option.bind_some]
      exact uuidSetDiff_setNext next

theorem EmptiesRecord.of_setNext {next : Option Addr}
    (h : EmptiesRecord src { u with next := next }) : EmptiesRecord src u := by
  obtain ⟨rand, v, n, hdiff, hcount⟩ := h
  rw [diffRecord_setNext, Option.map_eq_some_iff] at hdiff
  obtain ⟨⟨w, k⟩, hdiff, he⟩ := hdiff
  cases he
  exact ⟨rand, w, k, hdiff, hcount⟩

/-- The loop of `gtidSetDiff`, with the records `p` kept and `q` ahead. -/
theorem diffFrom_pointers (h : SetPointers dst (p ++ q))
    (hcur : ∀ a u, dst.current = some a → a ∈ q → dst.uuidSetCells.get a = some u →
      ¬ EmptiesRecord src u) {fuel : Nat} {n : Int}
    (hrun : diffFrom src fuel q.head? p.getLast? dst rand = some (s', n)) :
    ∃ as', SetPointers s' as' := by
  induction q generalizing dst p n fuel rand with
  | nil =>
    cases fuel with
    | zero => cases hrun
    | succ fuel =>
      cases hrun
      exact ⟨_, h⟩
  | cons a q ih =>
    cases fuel with
    | zero => cases hrun
    | succ fuel =>
      obtain ⟨u, hu, hnext⟩ := h.links.get
      have hqa : ∀ b ∈ q, b ≠ a := fun b hb => h.links.ne (Or.inr hb)
      rw [List.head?_cons, diffFrom, hu, Option.bind_eq_bind, Option.bind_some,
        Option.bind_eq_bind, Option.bind_eq_some_iff] at hrun
      obtain ⟨⟨v, k⟩, hdiff, hrun⟩ := hrun
      have hassign := h.links.assign hu (diffRecord_next hdiff)
      dsimp only at hrun
      rw [hnext] at hrun
      -- the records ahead keep their gnos, so the current one still has some
      have hahead : ∀ cells : Arena UuidSet,
          (∀ b ∈ q, KeepsRecord (dst.uuidSetCells.set a v) cells b) →
          ∀ b u, dst.current = some b → b ∈ q → cells.get b = some u → ¬ EmptiesRecord src u := by
        intro cells hkeep b u' hb hbq hu' he
        obtain ⟨w, hw⟩ := h.links.alive b (by simp [hbq])
        obtain ⟨next, hget⟩ := hkeep b hbq w ((Arena.get_set_of_ne v (hqa b hbq)).trans hw)
        rw [hget] at hu'
        cases hu'
        exact hcur b w hb (by simp [hbq]) hw he.of_setNext
      by_cases hcount : uuidSetCount v = 0
      · rw [if_pos hcount, Option.bind_eq_bind, Option.bind_eq_some_iff] at hrun
        obtain ⟨⟨t, k'⟩, hrest, hrun⟩ := hrun
        cases hrun
        obtain ⟨hlink, hkeep⟩ := SetLinks.unlink
          (s := { dst with uuidSetCells := dst.uuidSetCells.set a v }) hassign
        refine ih (p := p) ?_ ?_ hrest
        · refine ⟨hlink, fun b hb => ?_, fun b hb => ?_⟩
          · rw [ite_eq_iff] at hb
            obtain ⟨-, hb⟩ | ⟨hcached, hb⟩ := hb
            · cases hb
            · refine mem_of_mem_middle (h.cached b hb) ?_
              rintro rfl
              exact hcached hb
          · refine mem_of_mem_middle (h.current b hb) ?_
            rintro rfl
            exact hcur b u hb (by simp) hu ⟨_, v, k, hdiff, hcount⟩
        · exact hahead _ (fun b hb => hkeep b (by simp [hb]))
      · rw [if_neg hcount, Option.bind_eq_bind, Option.bind_eq_some_iff] at hrun
        obtain ⟨⟨t, k'⟩, hrest, hrun⟩ := hrun
        cases hrun
        have hlast : (p ++ [a]).getLast? = some a := List.getLast?_concat
        rw [← hlast] at hrest
        refine ih (p := p ++ [a]) ?_ ?_ hrest
        · rw [List.append_assoc]
          exact ⟨hassign, h.cached, h.current⟩
        · exact hahead _ (fun _ _ => KeepsRecord.of_eq rfl)

theorem gtidSetDiff_pointers (h : SetPointers dst as) (hcur : ¬ EmptiesCurrent dst src)
    (hrun : gtidSetDiff dst src rand = some (s', n)) : ∃ as', SetPointers s' as' := by
  rw [gtidSetDiff, h.links.chain.head] at hrun
  exact diffFrom_pointers (p := []) h (fun a u ha _ hu he => hcur ⟨a, u, ha, hu, he⟩) hrun

/-- The loop of `gtidSetDup`, with the records `as` copied; `tail` is set at its end. -/
theorem dupFrom_pointers {src : Arena UuidSet} {l : List Addr} {dup : GtidSet}
    (h : SetLinks dup.uuidSetCells dup.header as.getLast? as) (hcached : dup.cached = none)
    (hcurrent : dup.current = none) (hrun : dupFrom src l as.getLast? dup = some s') :
    ∃ as', SetPointers s' as' := by
  induction l generalizing dup as with
  | nil =>
    cases hrun
    exact ⟨as, h, fun a ha => by simp [hcached] at ha, fun a ha => by simp [hcurrent] at ha⟩
  | cons a l ih =>
    obtain ⟨u, -, hrun⟩ := Option.bind_eq_some_iff.mp hrun
    have hlast : (as ++ [dup.uuidSetCells.fresh]).getLast? = some dup.uuidSetCells.fresh :=
      List.getLast?_concat
    rw [← hlast] at hrun
    have hlink := (h.link (u := uuidSetDup u) rfl).1
    rw [← hlast] at hlink
    refine ih ?_ ?_ ?_ hrun
    · have hheader : (if dup.header = none then some dup.uuidSetCells.fresh else dup.header) =
          if as = [] then some dup.uuidSetCells.fresh else dup.header := by
        rw [h.chain.head]
        cases as <;> rfl
      rw [hlast, ← hheader] at hlink
      rw [hlast]
      cases hprev : as.getLast? with
      | none =>
        rw [hprev] at hlink
        exact hlink
      | some t =>
        rw [hprev] at hlink
        exact hlink
    · exact hcached
    · exact hcurrent

theorem gtidSetDup_pointers (hrun : gtidSetDup s = some s') : ∃ as', SetPointers s' as' := by
  have hnew : SetLinks gtidSetNew.uuidSetCells gtidSetNew.header ([] : List Addr).getLast? [] :=
    setLinks_new
  exact dupFrom_pointers hnew rfl rfl hrun

/-! ## Decoding -/

theorem decodeInterval_next {mem : Bytes} {pos i j : Nat}
    (hrun : decodeInterval mem pos rand u i j = some (some v)) : v.next = u.next := by
  unfold decodeInterval at hrun
  split at hrun
  · obtain ⟨r, -, hrun⟩ := Option.bind_eq_some_iff.mp hrun
    cases r with
    | none => cases hrun
    | some e =>
      dsimp only at hrun
      split at hrun
      · obtain ⟨⟨w, k⟩, hadd, hrun⟩ := Option.bind_eq_some_iff.mp hrun
        cases hrun
        exact uuidSetAdd_next hadd
      · cases hrun
  · cases hrun
    rfl

theorem uuidSetDecode_next {mem : Bytes} {pos : Nat} {len : Int}
    (hrun : uuidSetDecode mem pos len rand = some (some u)) : u.next = none := by
  have hkeep : ∀ x i j y, x.next = none → decodeInterval mem pos rand x i j = some (some y) →
      y.next = none := fun x i j y hx hstep => (decodeInterval_next hstep).trans hx
  unfold uuidSetDecode at hrun
  split at hrun
  · cases hrun
  · obtain ⟨r, -, hrun⟩ := Option.bind_eq_some_iff.mp hrun
    dsimp only at hrun
    split at hrun
    all_goals
      split at hrun
      · cases hrun
        rfl
      · exact forPieces_keeps _ (fun v => v.next = none) hkeep rfl hrun

theorem gtidSetDecode_pointers {mem : Bytes} {pos len : Nat}
    (hrun : gtidSetDecode mem pos len rand = some (some s)) : ∃ as, SetPointers s as := by
  unfold gtidSetDecode at hrun
  split at hrun
  · cases hrun
    exact ⟨[], setPointers_new⟩
  · refine forPieces_keeps _ (fun t => ∃ as, SetPointers t as) ?_ ⟨[], setPointers_new⟩ hrun
    rintro t start i t' ⟨as, ht⟩ hstep
    rw [decodeUuidSet, Option.bind_eq_bind, Option.bind_eq_some_iff] at hstep
    obtain ⟨-, -, hstep⟩ := hstep
    rw [Option.bind_eq_bind, Option.bind_eq_some_iff] at hstep
    obtain ⟨r, hdecode, hstep⟩ := hstep
    cases r with
    | none => cases hstep
    | some u =>
      obtain ⟨⟨v, k⟩, happend, hstep⟩ := Option.bind_eq_some_iff.mp hstep
      cases hstep
      exact ⟨_, ht.append (uuidSetDecode_next hdecode) happend⟩

end Pointers

/-! ## Runs -/

inductive SetCall where
  | new
  | decode (mem : Bytes) (pos len : Nat)
  | dup (i : Nat)
  | add (i : Nat) (uuid : Uuid) (start «end» : Int)
  | remove (i : Nat) (uuid : Uuid) (start «end» : Int)
  | merge (dst src : Nat)
  | diff (dst src : Nat)
  | next (i : Nat) (uuid : Uuid) (update : Bool)
  | contains (i : Nat) (uuid : Uuid) (gno : Int)
  | currentUpdate (i : Nat) (uuid : Uuid)
  | currentNext (i : Nat) (update : Bool)

/-- One call on a list of sets; new sets, copies and decoded sets come at its end. -/
def SetCall.step (sets : List GtidSet) (rand : Rand) : SetCall → Option (List GtidSet)
  | .new => some (sets ++ [gtidSetNew])
  | .decode mem pos len => do
    let s ← gtidSetDecode mem pos len rand
    some (sets ++ s.toList)
  | .dup i => do
    let s ← gtidSetDup (← sets[i]?)
    some (sets ++ [s])
  | .add i uuid start «end» => do
    let (s, _) ← gtidSetAdd (← sets[i]?) uuid start «end» rand
    some (sets.set i s)
  | .remove i uuid start «end» => do
    let (s, _) ← gtidSetRemove (← sets[i]?) uuid start «end» rand
    some (sets.set i s)
  | .merge dst src => do
    let (s, _) ← gtidSetMerge (← sets[dst]?) (← sets[src]?) rand
    some (sets.set dst s)
  | .diff dst src => do
    let (s, _) ← gtidSetDiff (← sets[dst]?) (← sets[src]?) rand
    some (sets.set dst s)
  | .next i uuid update => do
    let (s, _) ← gtidSetNext (← sets[i]?) uuid update rand
    some (sets.set i s)
  | .contains i uuid gno => do
    let (s, _) ← gtidSetContains (← sets[i]?) uuid gno
    some (sets.set i s)
  | .currentUpdate i uuid => do
    let s ← gtidSetCurrentUuidSetUpdate (← sets[i]?) uuid
    some (sets.set i s)
  | .currentNext i update => do
    let (s, _) ← gtidSetCurrentUuidSetNext (← sets[i]?) update rand
    some (sets.set i s)

/-- The call is not a diff that leaves the record `current` points to without gnos. -/
def SetCall.SparesCurrent (sets : List GtidSet) : SetCall → Prop
  | .diff dst src => ∀ d s, sets[dst]? = some d → sets[src]? = some s → ¬ EmptiesCurrent d s
  | _ => True

/-- The sets after any sequence of calls that meet the condition `ok` where they are made. -/
inductive SetCallRun (ok : List GtidSet → SetCall → Prop) : List GtidSet → Prop
  | init : SetCallRun ok []
  | step {sets sets' : List GtidSet} (call : SetCall) (rand : Rand) :
      SetCallRun ok sets → ok sets call → call.step sets rand = some sets' →
      SetCallRun ok sets'

section Run
variable {sets sets' : List GtidSet} {s : GtidSet}

/-- **One call.** -/
theorem SetCall.step_pointers {call : SetCall} {rand : Rand}
    (h : ∀ s ∈ sets, ∃ as, SetPointers s as) (hok : call.SparesCurrent sets)
    (hstep : call.step sets rand = some sets') : ∀ s ∈ sets', ∃ as, SetPointers s as := by
  have assign : ∀ i t, (∃ as, SetPointers t as) → ∀ s ∈ sets.set i t, ∃ as, SetPointers s as := by
    intro i t ht s hs
    rcases List.mem_or_eq_of_mem_set hs with hm | rfl
    · exact h s hm
    · exact ht
  have append : ∀ t : Option GtidSet, (∀ s, t = some s → ∃ as, SetPointers s as) →
      ∀ s ∈ sets ++ t.toList, ∃ as, SetPointers s as := by
    intro t ht s hs
    rcases List.mem_append.mp hs with hm | hm
    · exact h s hm
    · exact ht s (Option.mem_toList.mp hm)
  -- a call that assigns the set at `i` and returns something besides
  have update : ∀ {α : Type} (i : Nat) (f : GtidSet → Option (GtidSet × α)),
      (∀ t as t' x, sets[i]? = some t → SetPointers t as → f t = some (t', x) →
        ∃ as, SetPointers t' as) →
      (do let t ← sets[i]?; let (t', _) ← f t; some (sets.set i t')) = some sets' →
      ∀ s ∈ sets', ∃ as, SetPointers s as := by
    intro α i f hf hrun
    obtain ⟨t, hget, hrun⟩ := Option.bind_eq_some_iff.mp hrun
    obtain ⟨⟨t', x⟩, hft, hrun⟩ := Option.bind_eq_some_iff.mp hrun
    cases hrun
    obtain ⟨as, ht⟩ := h t (List.mem_of_getElem? hget)
    exact assign i t' (hf t as t' x hget ht hft)
  cases call with
  | new =>
    cases hstep
    exact append (some gtidSetNew) (by rintro s ⟨⟩; exact ⟨[], setPointers_new⟩)
  | decode mem pos len =>
    obtain ⟨t, hdecode, hstep⟩ := Option.bind_eq_some_iff.mp hstep
    cases hstep
    exact append t (by rintro s rfl; exact gtidSetDecode_pointers hdecode)
  | dup i =>
    obtain ⟨t, -, hstep⟩ := Option.bind_eq_some_iff.mp hstep
    obtain ⟨t', hdup, hstep⟩ := Option.bind_eq_some_iff.mp hstep
    cases hstep
    exact append (some t') (by rintro s ⟨⟩; exact gtidSetDup_pointers hdup)
  | add i uuid start «end» =>
    exact update i _ (fun _ _ _ _ _ ht hadd => gtidSetAdd_pointers ht hadd) hstep
  | remove i uuid start «end» =>
    exact update i _ (fun _ _ _ _ _ ht hremove => gtidSetRemove_pointers ht hremove) hstep
  | merge i j =>
    exact update i (fun t => do gtidSetMerge t (← sets[j]?) rand)
      (fun _ _ _ _ _ ht hrun => by
        obtain ⟨src, -, hmerge⟩ := Option.bind_eq_some_iff.mp hrun
        exact mergeFrom_pointers ht hmerge)
      (by simpa only [step, Option.bind_eq_bind, Option.bind_assoc] using hstep)
  | diff i j =>
    exact update i (fun t => do gtidSetDiff t (← sets[j]?) rand)
      (fun t _ _ _ hget ht hrun => by
        obtain ⟨src, hsrc, hdiff⟩ := Option.bind_eq_some_iff.mp hrun
        exact gtidSetDiff_pointers ht (hok t src hget hsrc) hdiff)
      (by simpa only [step, Option.bind_eq_bind, Option.bind_assoc] using hstep)
  | next i uuid b =>
    exact update i _ (fun _ _ _ _ _ ht hnext => gtidSetNext_pointers ht hnext) hstep
  | contains i uuid gno =>
    exact update i _ (fun _ as _ _ _ ht hcontains =>
      ⟨as, gtidSetContains_pointers ht hcontains⟩) hstep
  | currentUpdate i uuid =>
    obtain ⟨t, hget, hstep⟩ := Option.bind_eq_some_iff.mp hstep
    obtain ⟨t', hupdate, hstep⟩ := Option.bind_eq_some_iff.mp hstep
    cases hstep
    obtain ⟨as, ht⟩ := h t (List.mem_of_getElem? hget)
    exact assign i t' (gtidSetCurrentUuidSetUpdate_pointers ht hupdate)
  | currentNext i b =>
    exact update i _ (fun _ as _ _ _ ht hnext =>
      ⟨as, gtidSetCurrentUuidSetNext_pointers ht hnext⟩) hstep

theorem SetCallRun.pointers (h : SetCallRun SetCall.SparesCurrent sets) :
    ∀ s ∈ sets, ∃ as, SetPointers s as := by
  induction h with
  | init => simp
  | step call rand _ hok hstep ih => exact SetCall.step_pointers ih hok hstep

/-- Every pointer an operation starts from or goes on to leads to an allocated record. -/
theorem SetPointers.alive {as : List Addr} (h : SetPointers s as) {a : Addr}
    (ha : s.header = some a ∨ s.tail = some a ∨ s.cached = some a ∨ s.current = some a ∨
      ∃ b ∈ as, uuidSetNextOf s.uuidSetCells b = some a) :
    ∃ u, s.uuidSetCells.get a = some u := by
  apply h.links.alive
  rcases ha with ha | ha | ha | ha | ⟨b, hb, ha⟩
  · rw [h.links.chain.head] at ha
    exact List.mem_of_head? ha
  · rw [h.links.tail] at ha
    exact List.mem_of_getLast? ha
  · exact h.cached a ha
  · exact h.current a ha
  · obtain ⟨p, q, rfl⟩ := List.append_of_mem hb
    rw [h.links.chain.next_eq] at ha
    simp [List.mem_of_head? ha]

/-- **In a run whose diffs spare the current record no pointer dangles.** -/
theorem pointers_of_run (h : SetCallRun SetCall.SparesCurrent sets) (hs : s ∈ sets) :
    ∃ as, SetPointers s as ∧
      ∀ a, s.header = some a ∨ s.tail = some a ∨ s.cached = some a ∨ s.current = some a ∨
        (∃ b ∈ as, uuidSetNextOf s.uuidSetCells b = some a) →
          ∃ u, s.uuidSetCells.get a = some u := by
  obtain ⟨as, hp⟩ := h.pointers s hs
  exact ⟨as, hp, fun a => hp.alive⟩

theorem pointers_of_run_diff :
    ∃ s as, s.current = some 0 ∧ SetPointers s as ∧
      ∀ a, s.header = some a ∨ s.tail = some a ∨ s.cached = some a ∨ s.current = some a ∨
        (∃ b ∈ as, uuidSetNextOf s.uuidSetCells b = some a) →
          ∃ u, s.uuidSetCells.get a = some u := by
  have h₁ : SetCallRun SetCall.SparesCurrent [_, gtidSetNew] :=
    .step .new (fun _ => 0) (.step (.add 0 [65] 1 3) (fun _ => 0)
      (.step (.currentUpdate 0 [65]) (fun _ => 0)
        (.step .new (fun _ => 0) .init trivial rfl) trivial rfl) trivial rfl) trivial rfl
  have h₂ : SetCallRun SetCall.SparesCurrent [_, gtidSetNew] :=
    .step (.diff 0 1) (fun _ => 0) h₁ (by
      rintro d s ⟨⟩ ⟨⟩ ⟨a, u, ha, hu, rand, v, n, hdiff, hcount⟩
      cases ha
      cases hu
      cases hdiff
      revert hcount
      decide) rfl
  obtain ⟨as, hrest⟩ := pointers_of_run h₂ (List.mem_cons_self ..)
  exact ⟨_, as, rfl, hrest⟩

/-- A diff that empties the current record leaves `current` pointing to a freed one, and the
next gno is then read from it. -/
theorem gtidSetDiff_frees_current :
    ∃ s, SetCallRun (fun _ _ => True) [s, gtidSetNew] ∧ s.current = some 0 ∧
      s.uuidSetCells.get 0 = none ∧ (¬ ∃ as, SetPointers s as) ∧
      gtidSetCurrentUuidSetNext s true (fun _ => 0) = none := by
  refine ⟨_, .step (.diff 0 1) (fun _ => 0) (.step .new (fun _ => 0)
    (.step (.currentUpdate 0 [65]) (fun _ => 0)
      (.step .new (fun _ => 0) .init trivial rfl) trivial rfl) trivial rfl) trivial rfl,
    rfl, rfl, ?_, rfl⟩
  rintro ⟨as, h⟩
  obtain ⟨u, hu⟩ := h.links.alive 0 (h.current 0 rfl)
  cases hu

end Run

end XredisGtid
