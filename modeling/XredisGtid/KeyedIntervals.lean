import XredisGtid.IntervalList

/-!
# Keyed lists of intervals

A list of keys, each with a list of intervals, denotes a finite set of pairs of a
key and an integer (`pairs`).  The first entry of a key is the one that counts
(`lookup`).  Entries are created at the end of the list, and an entry that becomes
empty is dropped.

`update`, `reduce`, `merge` and `diff` are described by what they do to `lookup`; on
canonical lists, with distinct keys and canonical intervals, that gives the set they
compute (`pairs_merge`, `pairs_diff` and so on), and `size` is its cardinality.
-/
namespace KeyedIntervals

variable {κ : Type}

abbrev Entries (κ : Type) := List (κ × List (ℤ × ℤ))

def keys (es : Entries κ) : List κ := es.map Prod.fst

/-- Keys are distinct and every entry is a canonical list of intervals. -/
structure Canonical (es : Entries κ) : Prop where
  distinct : (keys es).Nodup
  canonical : ∀ e ∈ es, IntervalList.Canonical e.2

/-- The total length of all intervals. -/
def size (es : Entries κ) : ℤ := (es.map (fun e => IntervalList.size e.2)).sum

section Keys
variable {es : Entries κ}

@[simp] theorem keys_nil : keys ([] : Entries κ) = [] := rfl

@[simp] theorem keys_cons (e : κ × List (ℤ × ℤ)) : keys (e :: es) = e.1 :: keys es := rfl

@[simp] theorem size_nil : size ([] : Entries κ) = 0 := rfl

@[simp] theorem size_cons (e : κ × List (ℤ × ℤ)) :
    size (e :: es) = IntervalList.size e.2 + size es := by simp [size]

@[simp] theorem keys_append (es' : Entries κ) : keys (es ++ es') = keys es ++ keys es' := by
  simp [keys]

@[simp] theorem size_append (es' : Entries κ) : size (es ++ es') = size es + size es' := by
  simp [size]

theorem canonical_nil : Canonical ([] : Entries κ) := ⟨List.nodup_nil, by simp⟩

theorem canonical_cons {e : κ × List (ℤ × ℤ)} :
    Canonical (e :: es) ↔ e.1 ∉ keys es ∧ IntervalList.Canonical e.2 ∧ Canonical es := by
  constructor
  · rintro ⟨hd, hc⟩
    rw [keys_cons, List.nodup_cons] at hd
    exact ⟨hd.1, hc e (by simp), hd.2, fun d hd => hc d (by simp [hd])⟩
  · rintro ⟨hk, he, hes⟩
    refine ⟨List.nodup_cons.mpr ⟨hk, hes.distinct⟩, ?_⟩
    intro d hd
    rcases List.mem_cons.mp hd with rfl | hd
    · exact he
    · exact hes.canonical d hd

end Keys

variable [DecidableEq κ]

/-- The intervals of the first entry of a key, none if it has no entry. -/
def lookup (k : κ) : Entries κ → List (ℤ × ℤ)
  | [] => []
  | e :: es => if e.1 = k then e.2 else lookup k es

/-- The pairs of a key and an integer in one of its intervals. -/
noncomputable def pairs (es : Entries κ) : Finset (κ × ℤ) :=
  es.foldr (fun e S => {e.1} ×ˢ IntervalList.points e.2 ∪ S) ∅

section Basic
variable {es : Entries κ} {k k' : κ} {g : ℤ}

@[simp] theorem lookup_nil : lookup k ([] : Entries κ) = [] := rfl

theorem lookup_cons_self (l : List (ℤ × ℤ)) : lookup k ((k, l) :: es) = l := by simp [lookup]

theorem lookup_cons_of_ne {e : κ × List (ℤ × ℤ)} (h : e.1 ≠ k) :
    lookup k (e :: es) = lookup k es := by simp [lookup, h]

theorem lookup_of_notMem (h : k ∉ keys es) : lookup k es = [] := by
  induction es with
  | nil => rfl
  | cons e es ih =>
    rw [keys_cons, List.mem_cons, not_or] at h
    rw [lookup_cons_of_ne (Ne.symm h.1), ih h.2]

theorem lookup_of_mem {e : κ × List (ℤ × ℤ)} (hd : (keys es).Nodup) (he : e ∈ es) :
    lookup e.1 es = e.2 := by
  induction es with
  | nil => simp at he
  | cons d es ih =>
    rw [keys_cons, List.nodup_cons] at hd
    rcases List.mem_cons.mp he with rfl | he
    · exact lookup_cons_self _
    · have hne : d.1 ≠ e.1 := fun h => hd.1 (h ▸ List.mem_map_of_mem he)
      rw [lookup_cons_of_ne hne, ih hd.2 he]

theorem Canonical.lookup (h : Canonical es) (k : κ) :
    IntervalList.Canonical (lookup k es) := by
  induction es with
  | nil => exact IntervalList.canonical_nil
  | cons e es ih =>
    obtain ⟨-, he, hes⟩ := canonical_cons.mp h
    rw [KeyedIntervals.lookup]
    split
    · exact he
    · exact ih hes

@[simp] theorem pairs_nil : pairs ([] : Entries κ) = ∅ := rfl

@[simp] theorem pairs_cons (e : κ × List (ℤ × ℤ)) :
    pairs (e :: es) = {e.1} ×ˢ IntervalList.points e.2 ∪ pairs es := rfl

theorem key_mem_of_mem_pairs (h : (k, g) ∈ pairs es) : k ∈ keys es := by
  induction es with
  | nil => simp at h
  | cons e es ih =>
    rw [pairs_cons, Finset.mem_union, Finset.mem_product, Finset.mem_singleton] at h
    rcases h with ⟨h, -⟩ | h
    · rw [keys_cons, ← h]
      exact List.mem_cons_self
    · exact List.mem_cons_of_mem _ (ih h)

/-- **A pair belongs to the set when the key's entry covers the integer.** -/
theorem mem_pairs (hd : (keys es).Nodup) :
    (k, g) ∈ pairs es ↔ g ∈ IntervalList.points (lookup k es) := by
  induction es with
  | nil => simp
  | cons e es ih =>
    rw [keys_cons, List.nodup_cons] at hd
    rw [pairs_cons, Finset.mem_union, Finset.mem_product, Finset.mem_singleton]
    by_cases hk : e.1 = k
    · subst hk
      rw [show KeyedIntervals.lookup e.1 (e :: es) = e.2 from lookup_cons_self _]
      constructor
      · rintro (⟨-, hg⟩ | hg)
        · exact hg
        · exact absurd (key_mem_of_mem_pairs hg) hd.1
      · exact fun hg => Or.inl ⟨rfl, hg⟩
    · rw [lookup_cons_of_ne hk, ← ih hd.2]
      constructor
      · rintro (⟨h, -⟩ | hg)
        · exact absurd h.symm hk
        · exact hg
      · exact Or.inr

/-- Lists with the same lookups denote the same set. -/
theorem pairs_ext {es' : Entries κ} (hd : (keys es).Nodup) (hd' : (keys es').Nodup)
    (h : ∀ k, IntervalList.points (lookup k es) = IntervalList.points (lookup k es')) :
    pairs es = pairs es' := by
  ext ⟨k, g⟩
  rw [mem_pairs hd, mem_pairs hd', h]

/-- **The total length counts the pairs.** -/
theorem size_eq_card (h : Canonical es) : size es = (pairs es).card := by
  induction es with
  | nil => simp
  | cons e es ih =>
    obtain ⟨hk, he, hes⟩ := canonical_cons.mp h
    have hdisj : Disjoint ({e.1} ×ˢ IntervalList.points e.2) (pairs es) := by
      rw [Finset.disjoint_left]
      rintro ⟨k, g⟩ hg hges
      rw [Finset.mem_product, Finset.mem_singleton] at hg
      exact hk (hg.1 ▸ key_mem_of_mem_pairs hges)
    rw [pairs_cons, Finset.card_union_of_disjoint hdisj, Finset.card_product,
      Finset.card_singleton, size_cons, ih hes, IntervalList.size_eq_card he]
    omega

/-- The last integers of the runs of each key. -/
def ends (S : Finset (κ × ℤ)) : Finset (κ × ℤ) := S.filter (fun x => (x.1, x.2 + 1) ∉ S)

/-- **The number of all intervals is the number of runs.** -/
theorem card_ends (h : Canonical es) :
    (ends (pairs es)).card = (es.map (fun e => e.2.length)).sum := by
  induction es with
  | nil => rfl
  | cons e es ih =>
    obtain ⟨hk, he, hes⟩ := canonical_cons.mp h
    have hother : ∀ {k g}, (k, g) ∈ pairs es → k ≠ e.1 :=
      fun hg heq => hk (heq ▸ key_mem_of_mem_pairs hg)
    have hends : ends (pairs (e :: es)) =
        {e.1} ×ˢ IntervalList.ends (IntervalList.points e.2) ∪ ends (pairs es) := by
      ext ⟨k, g⟩
      simp only [ends, IntervalList.ends, pairs_cons, Finset.mem_filter, Finset.mem_union,
        Finset.mem_product, Finset.mem_singleton]
      constructor
      · rintro ⟨⟨rfl, hg⟩ | hg, hnext⟩
        · exact Or.inl ⟨rfl, hg, fun hin => hnext (Or.inl ⟨rfl, hin⟩)⟩
        · exact Or.inr ⟨hg, fun hin => hnext (Or.inr hin)⟩
      · rintro (⟨rfl, hg, hnext⟩ | ⟨hg, hnext⟩)
        · refine ⟨Or.inl ⟨rfl, hg⟩, ?_⟩
          rintro (⟨-, hin⟩ | hin)
          · exact hnext hin
          · exact hother hin rfl
        · refine ⟨Or.inr hg, ?_⟩
          rintro (⟨heq, -⟩ | hin)
          · exact hother hg heq
          · exact hnext hin
    have hdisj : Disjoint ({e.1} ×ˢ IntervalList.ends (IntervalList.points e.2))
        (ends (pairs es)) := by
      rw [Finset.disjoint_left]
      rintro ⟨k, g⟩ hg hges
      rw [Finset.mem_product, Finset.mem_singleton] at hg
      exact hother (Finset.mem_filter.mp hges).1 hg.1
    rw [hends, Finset.card_union_of_disjoint hdisj, Finset.card_product, Finset.card_singleton,
      one_mul, IntervalList.card_ends he, ih hes, List.map_cons, List.sum_cons]

theorem size_nonneg (h : Canonical es) : 0 ≤ size es := by
  rw [size_eq_card h]
  omega

end Basic

/-! ## Changing one entry -/

/-- Change the first entry of a key, or create one at the end. -/
def update (k : κ) (f : List (ℤ × ℤ) → List (ℤ × ℤ)) : Entries κ → Entries κ
  | [] => [(k, f [])]
  | e :: es => if e.1 = k then (k, f e.2) :: es else e :: update k f es

/-- Change the first entry of a key, dropping it when nothing is left. -/
def reduce (k : κ) (f : List (ℤ × ℤ) → List (ℤ × ℤ)) : Entries κ → Entries κ
  | [] => []
  | e :: es =>
    if e.1 = k then (if f e.2 = [] then es else (k, f e.2) :: es) else e :: reduce k f es

section Update
variable {es : Entries κ} {k : κ} {f : List (ℤ × ℤ) → List (ℤ × ℤ)}

theorem keys_update : keys (update k f es) = if k ∈ keys es then keys es else keys es ++ [k] := by
  induction es with
  | nil => rfl
  | cons e es ih =>
    rw [update]
    by_cases hk : e.1 = k
    · rw [if_pos hk, keys_cons, keys_cons, hk, if_pos List.mem_cons_self]
    · rw [if_neg hk, keys_cons, keys_cons, ih]
      by_cases hmem : k ∈ keys es
      · rw [if_pos hmem, if_pos (List.mem_cons_of_mem _ hmem)]
      · rw [if_neg hmem, if_neg (by simp [hmem, Ne.symm hk])]
        rfl

theorem update_of_notMem (h : k ∉ keys es) : update k f es = es ++ [(k, f [])] := by
  induction es with
  | nil => rfl
  | cons e es ih =>
    rw [keys_cons, List.mem_cons, not_or] at h
    rw [update, if_neg (Ne.symm h.1), ih h.2, List.cons_append]

theorem update_append_cons {p q : Entries κ} {e : κ × List (ℤ × ℤ)} (hp : k ∉ keys p)
    (he : e.1 = k) : update k f (p ++ e :: q) = p ++ (k, f e.2) :: q := by
  induction p with
  | nil => rw [List.nil_append, update, if_pos he, List.nil_append]
  | cons d p ih =>
    rw [keys_cons, List.mem_cons, not_or] at hp
    rw [List.cons_append, update, if_neg (Ne.symm hp.1), ih hp.2, List.cons_append]

theorem reduce_of_notMem (h : k ∉ keys es) : reduce k f es = es := by
  induction es with
  | nil => rfl
  | cons e es ih =>
    rw [keys_cons, List.mem_cons, not_or] at h
    rw [reduce, if_neg (Ne.symm h.1), ih h.2]

theorem reduce_append_cons {p q : Entries κ} {e : κ × List (ℤ × ℤ)} (hp : k ∉ keys p)
    (he : e.1 = k) :
    reduce k f (p ++ e :: q) = p ++ (if f e.2 = [] then q else (k, f e.2) :: q) := by
  induction p with
  | nil => rw [List.nil_append, reduce, if_pos he, List.nil_append]
  | cons d p ih =>
    rw [keys_cons, List.mem_cons, not_or] at hp
    rw [List.cons_append, reduce, if_neg (Ne.symm hp.1), ih hp.2, List.cons_append]

/-- The first entry of a key. -/
theorem exists_first (k : κ) (es : Entries κ) :
    k ∉ keys es ∨ ∃ p e q, es = p ++ e :: q ∧ k ∉ keys p ∧ e.1 = k := by
  induction es with
  | nil => exact Or.inl (by simp)
  | cons d es ih =>
    by_cases hk : d.1 = k
    · exact Or.inr ⟨[], d, es, rfl, by simp, hk⟩
    · rcases ih with h | ⟨p, e, q, rfl, hp, he⟩
      · refine Or.inl ?_
        rw [keys_cons, List.mem_cons, not_or]
        exact ⟨Ne.symm hk, h⟩
      · refine Or.inr ⟨d :: p, e, q, rfl, ?_, he⟩
        rw [keys_cons, List.mem_cons, not_or]
        exact ⟨Ne.symm hk, hp⟩

theorem lookup_append_cons {p q : Entries κ} {e : κ × List (ℤ × ℤ)} (hp : k ∉ keys p)
    (he : e.1 = k) : lookup k (p ++ e :: q) = e.2 := by
  induction p with
  | nil => rw [List.nil_append, lookup, if_pos he]
  | cons d p ih =>
    rw [keys_cons, List.mem_cons, not_or] at hp
    rw [List.cons_append, lookup_cons_of_ne (Ne.symm hp.1), ih hp.2]

theorem size_update : size (update k f es) =
    size es + (IntervalList.size (f (lookup k es)) - IntervalList.size (lookup k es)) := by
  rcases exists_first k es with h | ⟨p, e, q, rfl, hp, he⟩
  · rw [update_of_notMem h, lookup_of_notMem h]
    simp
  · rw [update_append_cons hp he, lookup_append_cons hp he]
    simp only [size_append, size_cons]
    omega

theorem nodup_keys_update (hd : (keys es).Nodup) : (keys (update k f es)).Nodup := by
  rw [keys_update]
  split
  · exact hd
  · rename_i hmem
    refine List.nodup_append.mpr ⟨hd, by simp, ?_⟩
    intro a ha b hb
    rw [List.mem_singleton] at hb
    rintro rfl
    exact hmem (hb ▸ ha)

theorem lookup_update_self : lookup k (update k f es) = f (lookup k es) := by
  induction es with
  | nil => simp [update, lookup]
  | cons e es ih =>
    rw [update]
    by_cases hk : e.1 = k
    · rw [if_pos hk, lookup_cons_self, lookup, if_pos hk]
    · rw [if_neg hk, lookup_cons_of_ne hk, lookup_cons_of_ne hk, ih]

theorem lookup_update_of_ne {k' : κ} (hne : k' ≠ k) :
    lookup k' (update k f es) = lookup k' es := by
  induction es with
  | nil => simp [update, lookup, Ne.symm hne]
  | cons e es ih =>
    rw [update]
    by_cases hk : e.1 = k
    · rw [if_pos hk, lookup_cons_of_ne (Ne.symm hne), lookup_cons_of_ne (hk ▸ Ne.symm hne)]
    · rw [if_neg hk, lookup, lookup, ih]

theorem Canonical.update (h : Canonical es)
    (hf : ∀ l, IntervalList.Canonical l → IntervalList.Canonical (f l)) :
    Canonical (update k f es) := by
  refine ⟨nodup_keys_update h.distinct, ?_⟩
  have hc := h.canonical
  clear h
  induction es with
  | nil =>
    intro e he
    rw [KeyedIntervals.update, List.mem_singleton] at he
    exact he ▸ hf [] IntervalList.canonical_nil
  | cons d es ih =>
    rw [KeyedIntervals.update]
    split
    · intro e he
      rcases List.mem_cons.mp he with rfl | he
      · exact hf d.2 (hc d (by simp))
      · exact hc e (by simp [he])
    · intro e he
      rcases List.mem_cons.mp he with rfl | he
      · exact hc e (by simp)
      · exact ih (fun e he => hc e (by simp [he])) e he

theorem keys_reduce_sublist : (keys (reduce k f es)).Sublist (keys es) := by
  induction es with
  | nil => exact List.Sublist.refl _
  | cons e es ih =>
    rw [reduce]
    split
    · rename_i hk
      split
      · exact List.sublist_cons_self _ _
      · rw [keys_cons, keys_cons, hk]
    · exact ih.cons_cons _

theorem lookup_reduce_self (hd : (keys es).Nodup) (hf : f [] = []) :
    lookup k (reduce k f es) = f (lookup k es) := by
  induction es with
  | nil => simp [reduce, hf]
  | cons e es ih =>
    rw [keys_cons, List.nodup_cons] at hd
    rw [reduce]
    by_cases hk : e.1 = k
    · rw [if_pos hk, lookup, if_pos hk]
      split
      · rename_i hnil
        rw [hnil, lookup_of_notMem (hk ▸ hd.1)]
      · exact lookup_cons_self _
    · rw [if_neg hk, lookup_cons_of_ne hk, lookup_cons_of_ne hk, ih hd.2]

theorem lookup_reduce_of_ne {k' : κ} (hne : k' ≠ k) :
    lookup k' (reduce k f es) = lookup k' es := by
  induction es with
  | nil => rfl
  | cons e es ih =>
    rw [reduce]
    by_cases hk : e.1 = k
    · rw [if_pos hk, lookup_cons_of_ne (hk ▸ Ne.symm hne)]
      split
      · rfl
      · exact lookup_cons_of_ne (Ne.symm hne)
    · rw [if_neg hk, lookup, lookup, ih]

theorem Canonical.reduce (h : Canonical es)
    (hf : ∀ l, IntervalList.Canonical l → IntervalList.Canonical (f l)) :
    Canonical (reduce k f es) := by
  refine ⟨h.distinct.sublist keys_reduce_sublist, ?_⟩
  have hc := h.canonical
  clear h
  induction es with
  | nil => simp [KeyedIntervals.reduce]
  | cons d es ih =>
    rw [KeyedIntervals.reduce]
    split
    · split
      · exact fun e he => hc e (by simp [he])
      · intro e he
        rcases List.mem_cons.mp he with rfl | he
        · exact hf d.2 (hc d (by simp))
        · exact hc e (by simp [he])
    · intro e he
      rcases List.mem_cons.mp he with rfl | he
      · exact hc e (by simp)
      · exact ih (fun e he => hc e (by simp [he])) e he

end Update

/-! ## Union and difference -/

/-- Add `[s, e]` under `k`. -/
def add (k : κ) (s e : ℤ) (es : Entries κ) : Entries κ := update k (IntervalList.insert s e) es

/-- Remove `[s, e]` under `k`. -/
def remove (k : κ) (s e : ℤ) (es : Entries κ) : Entries κ := reduce k (IntervalList.erase s e) es

/-- Add all entries of `m`. -/
def merge (es m : Entries κ) : Entries κ :=
  m.foldl (fun es e => update e.1 (fun l => IntervalList.union l e.2) es) es

/-- What is left of one entry after removing those of `m`. -/
def diffEntry (m : Entries κ) (e : κ × List (ℤ × ℤ)) : κ × List (ℤ × ℤ) :=
  (e.1, IntervalList.diff e.2 (lookup e.1 m))

/-- Remove all entries of `m`, dropping what becomes empty. -/
def diff (es m : Entries κ) : Entries κ :=
  (es.map (diffEntry m)).filter (fun e => e.2 ≠ [])

section Algebra
variable {es m : Entries κ} {k : κ} {s e : ℤ}

/-- Creating an entry that stays empty changes nothing. -/
theorem pairs_update_id (h : Canonical es) : pairs (update k id es) = pairs es := by
  refine pairs_ext (h.update (fun _ hl => hl)).distinct h.distinct (fun k' => ?_)
  by_cases hk : k' = k
  · rw [hk, lookup_update_self, id_eq]
  · rw [lookup_update_of_ne hk]

/-- Dropping an empty entry changes nothing. -/
theorem pairs_reduce_id (h : Canonical es) : pairs (reduce k id es) = pairs es := by
  refine pairs_ext (h.reduce (fun _ hl => hl)).distinct h.distinct (fun k' => ?_)
  by_cases hk : k' = k
  · rw [hk, lookup_reduce_self h.distinct rfl, id_eq]
  · rw [lookup_reduce_of_ne hk]

theorem Canonical.add (h : Canonical es) (hse : s ≤ e) : Canonical (add k s e es) :=
  h.update (fun _ hl => hl.insert hse)

theorem pairs_add (h : Canonical es) (hse : s ≤ e) :
    pairs (add k s e es) = pairs es ∪ {k} ×ˢ Finset.Icc s e := by
  ext ⟨k', g⟩
  rw [mem_pairs (h.add hse).distinct, Finset.mem_union, mem_pairs h.distinct, Finset.mem_product,
    Finset.mem_singleton]
  by_cases hk : k' = k
  · subst hk
    rw [add, lookup_update_self, IntervalList.points_insert hse (h.lookup k').nonempty,
      Finset.mem_union]
    simp
  · rw [add, lookup_update_of_ne hk]
    simp [hk]

theorem Canonical.remove (h : Canonical es) (hse : s ≤ e) : Canonical (remove k s e es) :=
  h.reduce (fun _ hl => hl.erase hse)

theorem pairs_remove (h : Canonical es) (hse : s ≤ e) :
    pairs (remove k s e es) = pairs es \ {k} ×ˢ Finset.Icc s e := by
  ext ⟨k', g⟩
  rw [mem_pairs (h.remove hse).distinct, Finset.mem_sdiff, mem_pairs h.distinct,
    Finset.mem_product, Finset.mem_singleton]
  by_cases hk : k' = k
  · subst hk
    rw [remove, lookup_reduce_self h.distinct rfl, IntervalList.points_erase hse,
      Finset.mem_sdiff]
    simp
  · rw [remove, lookup_reduce_of_ne hk]
    simp [hk]

@[simp] theorem merge_nil : merge es ([] : Entries κ) = es := rfl

@[simp] theorem merge_cons (e : κ × List (ℤ × ℤ)) :
    merge es (e :: m) = merge (update e.1 (fun l => IntervalList.union l e.2) es) m := rfl

theorem Canonical.merge (h : Canonical es) (hm : Canonical m) : Canonical (merge es m) := by
  induction m generalizing es with
  | nil => exact h
  | cons e m ih =>
    obtain ⟨-, he, hm⟩ := canonical_cons.mp hm
    exact ih (h.update (fun _ hl => hl.union he.nonempty)) hm

/-- The keys of a merge are those of both sides. -/
theorem mem_keys_merge {k : κ} : k ∈ keys (merge es m) ↔ k ∈ keys es ∨ k ∈ keys m := by
  induction m generalizing es with
  | nil => simp
  | cons e m ih =>
    rw [merge_cons, ih, keys_update, keys_cons, List.mem_cons]
    split
    · next hmem =>
      constructor
      · rintro (h | h)
        · exact Or.inl h
        · exact Or.inr (Or.inr h)
      · rintro (h | rfl | h)
        · exact Or.inl h
        · exact Or.inl hmem
        · exact Or.inr h
    · rw [List.mem_append, List.mem_singleton, or_assoc]

/-- The entries of `u` can be merged into `es` where the numbers end at `m`; what a key has that is
new to `es` is taken over as it is. -/
def FitsInto (m : ℤ) (es u : Entries κ) : Prop :=
  ∀ e ∈ u, e.1 ∈ keys es → IntervalList.FitsOnto m (lookup e.1 es) e.2

instance (m : ℤ) (es u : Entries κ) : Decidable (FitsInto m es u) :=
  inferInstanceAs (Decidable (∀ e ∈ u, _ → _))

theorem FitsInto.update {bound : ℤ} {f : List (ℤ × ℤ) → List (ℤ × ℤ)} (h : FitsInto bound es m)
    (hk : k ∉ keys m) : FitsInto bound (update k f es) m := by
  intro e he hmem
  have hne : e.1 ≠ k := fun heq => hk (heq ▸ List.mem_map_of_mem he)
  rw [lookup_update_of_ne hne]
  refine h e he ?_
  rw [keys_update] at hmem
  split at hmem
  · exact hmem
  · exact (List.mem_append.mp hmem).resolve_right (fun hk => hne (List.mem_singleton.mp hk))

/-- Adding below the bound to a key that stays below it. -/
theorem FitsInto.add {bound : ℤ} {start «end» : ℤ} (h : FitsInto bound es m) (hbound : 0 < bound)
    (hes : IntervalList.Canonical (lookup k es)) (hm : Canonical m)
    (htop : IntervalList.top (lookup k es) < bound) (htop' : IntervalList.top (lookup k m) < bound)
    (hend : «end» < bound) : FitsInto bound (add k start «end» es) m := by
  intro e he hmem
  by_cases hk : e.1 = k
  · subst hk
    rw [lookup_of_mem hm.distinct he] at htop'
    rw [KeyedIntervals.add, lookup_update_self]
    exact IntervalList.fitsOnto_of_lt hbound
      (IntervalList.insert_lt hend (hes.lt_of_top_lt htop))
      ((hm.canonical e he).lt_of_top_lt htop')
  · rw [KeyedIntervals.add, lookup_update_of_ne hk]
    refine h e he ?_
    rw [KeyedIntervals.add, keys_update] at hmem
    split at hmem
    · exact hmem
    · exact (List.mem_append.mp hmem).resolve_right (fun hmem => hk (List.mem_singleton.mp hmem))

theorem lookup_merge (hm : (keys m).Nodup) (k : κ) :
    lookup k (merge es m) = IntervalList.union (lookup k es) (lookup k m) := by
  induction m generalizing es with
  | nil => rfl
  | cons e m ih =>
    rw [keys_cons, List.nodup_cons] at hm
    rw [merge_cons, ih hm.2]
    by_cases hk : e.1 = k
    · subst hk
      rw [lookup_update_self, lookup_of_notMem hm.1, lookup, if_pos rfl]
      rfl
    · rw [lookup_update_of_ne (Ne.symm hk), lookup_cons_of_ne hk]

theorem pairs_merge (h : Canonical es) (hm : Canonical m) :
    pairs (merge es m) = pairs es ∪ pairs m := by
  ext ⟨k, g⟩
  rw [mem_pairs (h.merge hm).distinct, lookup_merge hm.distinct,
    IntervalList.points_union (h.lookup k) (hm.lookup k).nonempty, Finset.mem_union,
    Finset.mem_union, mem_pairs h.distinct, mem_pairs hm.distinct]

theorem keys_diff_sublist : (keys (diff es m)).Sublist (keys es) := by
  have h : keys es = (es.map (diffEntry m)).map Prod.fst := by
    rw [List.map_map]
    rfl
  rw [h]
  exact List.filter_sublist.map _

theorem lookup_diff (hd : (keys es).Nodup) (k : κ) :
    lookup k (diff es m) = IntervalList.diff (lookup k es) (lookup k m) := by
  induction es with
  | nil =>
    have hnil : ∀ l : List (ℤ × ℤ), IntervalList.diff [] l = [] := by
      intro l
      induction l with
      | nil => rfl
      | cons i l ih => exact ih
    exact (hnil _).symm
  | cons e es ih =>
    rw [keys_cons, List.nodup_cons] at hd
    have hcons : diff (e :: es) m =
        if (diffEntry m e).2 = [] then diff es m else diffEntry m e :: diff es m := by
      by_cases hnil : (diffEntry m e).2 = [] <;> simp [diff, hnil]
    rw [hcons]
    by_cases hk : e.1 = k
    · subst hk
      rw [lookup, if_pos rfl]
      split
      · rename_i hnil
        rw [lookup_of_notMem (fun hmem => hd.1 (keys_diff_sublist.subset hmem))]
        exact hnil.symm
      · exact lookup_cons_self _
    · rw [lookup_cons_of_ne hk, ← ih hd.2]
      split
      · rfl
      · exact lookup_cons_of_ne hk

theorem Canonical.diff (h : Canonical es) (hm : Canonical m) : Canonical (diff es m) := by
  refine ⟨h.distinct.sublist keys_diff_sublist, ?_⟩
  intro e he
  obtain ⟨d, hd, rfl⟩ := List.mem_map.mp (List.mem_of_mem_filter he)
  exact (h.canonical d hd).diff (hm.lookup d.1).nonempty

theorem pairs_diff (h : Canonical es) (hm : Canonical m) :
    pairs (diff es m) = pairs es \ pairs m := by
  ext ⟨k, g⟩
  rw [mem_pairs (h.diff hm).distinct, lookup_diff h.distinct,
    IntervalList.points_diff (hm.lookup k).nonempty, Finset.mem_sdiff, Finset.mem_sdiff,
    mem_pairs h.distinct, mem_pairs hm.distinct]

end Algebra

end KeyedIntervals
