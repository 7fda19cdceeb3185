import Mathlib.Data.List.Basic

/-!
# Byte buffers

A buffer is the list of its bytes and a pointer into it an offset.  `poke` and
`memcpy` write, and fail outside of the buffer; reading a byte is `mem[p]?`.

`TextAt mem p text` says that the bytes from `p` on start with `text`, and
`Written mem mem' p text` that `mem'` is `mem` up to `p` followed by `text`, with
anything behind it.  A program that writes from left to right composes by
`Written.trans`, one that reads takes its text apart by `textAt_append`.
-/
namespace Buffer

abbrev Bytes := List UInt8

def poke (mem : Bytes) (p : Nat) (c : UInt8) : Option Bytes :=
  if p < mem.length then some (mem.set p c) else none

def memcpy (mem : Bytes) (p : Nat) (src : Bytes) : Option Bytes :=
  if p + src.length ≤ mem.length then
    some (mem.take p ++ src ++ mem.drop (p + src.length))
  else none

def TextAt (mem : Bytes) (p : Nat) (text : Bytes) : Prop := text <+: mem.drop p

structure Written (mem mem' : Bytes) (p : Nat) (text : Bytes) : Prop where
  length : mem'.length = mem.length
  bound : p + text.length ≤ mem.length
  take : mem'.take (p + text.length) = mem.take p ++ text

section TextAt
variable {mem a b : Bytes} {p : Nat} {c : UInt8}

theorem textAt_append : TextAt mem p (a ++ b) ↔ TextAt mem p a ∧ TextAt mem (p + a.length) b := by
  simp only [TextAt, ← List.drop_drop]
  constructor
  · rintro ⟨r, hr⟩
    rw [← hr, List.append_assoc]
    refine ⟨List.prefix_append _ _, ?_⟩
    rw [List.drop_left]
    exact List.prefix_append _ _
  · rintro ⟨⟨r, hr⟩, ⟨r', hr'⟩⟩
    rw [← hr, List.drop_left] at hr'
    exact ⟨r', by rw [List.append_assoc, hr', hr]⟩

theorem textAt_singleton : TextAt mem p [c] ↔ mem[p]? = some c := by
  rw [TextAt, ← List.head?_drop]
  cases mem.drop p with
  | nil => simp
  | cons d l => simp [eq_comm]

theorem textAt_cons : TextAt mem p (c :: b) ↔ mem[p]? = some c ∧ TextAt mem (p + 1) b := by
  rw [← textAt_singleton]
  exact textAt_append (a := [c])

/-- The byte behind a part of the text. -/
theorem TextAt.get (h : TextAt mem p (a ++ c :: b)) : mem[p + a.length]? = some c :=
  (textAt_cons.mp (textAt_append.mp h).2).1

theorem TextAt.get_of_lt {i : Nat} (h : TextAt mem p a) (hi : i < a.length) :
    mem[p + i]? = a[i]? := by
  obtain ⟨r, hr⟩ := h
  rw [← List.getElem?_drop, ← hr, List.getElem?_append_left hi]

/-- A text up to one of its characters. -/
theorem textAt_singleton_append (h : TextAt mem p (a ++ c :: b)) : TextAt mem p (a ++ [c]) := by
  rw [List.append_cons] at h
  exact (textAt_append.mp h).1

theorem TextAt.take_drop (h : TextAt mem p a) : (mem.drop p).take a.length = a := by
  obtain ⟨r, hr⟩ := h
  rw [← hr, List.take_left]

end TextAt

section Written
variable {mem mem' mem'' a b : Bytes} {p : Nat}

theorem Written.textAt (h : Written mem mem' p a) : TextAt mem' p a := by
  have hp : p ≤ mem.length := Nat.le_trans (Nat.le_add_right p a.length) h.bound
  have hsplit : mem' = mem.take p ++ (a ++ mem'.drop (p + a.length)) := by
    rw [← List.append_assoc, ← h.take, List.take_append_drop]
  have hdrop : mem'.drop p = a ++ mem'.drop (p + a.length) := by
    have hlen : (mem.take p).length = p := by rw [List.length_take, Nat.min_eq_left hp]
    calc mem'.drop p = (mem.take p ++ (a ++ mem'.drop (p + a.length))).drop p :=
          congrArg (List.drop p) hsplit
      _ = a ++ mem'.drop (p + a.length) := List.drop_left' hlen
  exact ⟨_, hdrop.symm⟩

theorem Written.nil (hp : p ≤ mem.length) : Written mem mem p [] :=
  ⟨rfl, by simpa using hp, by simp⟩

/-- **Writes from left to right compose.** -/
theorem Written.trans {q : Nat} (h : Written mem mem' p a) (h' : Written mem' mem'' q b)
    (hq : q = p + a.length) : Written mem mem'' p (a ++ b) := by
  subst hq
  refine ⟨h'.length.trans h.length, ?_, ?_⟩
  · have := h'.bound
    have := h.length
    rw [List.length_append]
    omega
  · rw [List.length_append, ← Nat.add_assoc, h'.take, h.take, List.append_assoc]

theorem Written.take_eq (h : Written mem mem' p a) : mem'.take p = mem.take p := by
  have hp : (mem.take p).length = p := by
    have := h.bound
    rw [List.length_take]
    omega
  calc mem'.take p = (mem'.take (p + a.length)).take p := by
        rw [List.take_take, Nat.min_eq_left (Nat.le_add_right p _)]
    _ = mem.take p := by rw [h.take, List.take_append_of_le_length (by omega), List.take_take,
          Nat.min_self]

/-- A write that will be taken as not made. -/
theorem Written.none (h : Written mem mem' p a) : Written mem mem' p [] := by
  refine ⟨h.length, ?_, ?_⟩
  · have := h.bound
    simp only [List.length_nil]
    omega
  · rw [List.length_nil, Nat.add_zero, List.append_nil, h.take_eq]

/-- **A second write** at the same place replaces the first. -/
theorem Written.overwrite (h : Written mem mem' p a) (h' : Written mem' mem'' p b) :
    Written mem mem'' p b := by
  refine ⟨h'.length.trans h.length, ?_, ?_⟩
  · rw [← h.length]
    exact h'.bound
  · rw [h'.take, h.take_eq]

/-- Replacing a part of the buffer by a text of the same length. -/
theorem written_of_append {old text b' : Bytes} (hlen : old.length = text.length)
    (hb : b.length = b'.length) : Written (a ++ old ++ b) (a ++ text ++ b') a.length text := by
  refine ⟨by simp [hlen, hb], by simp [hlen], ?_⟩
  rw [← List.length_append, List.take_left, List.append_assoc, List.take_left]

theorem exists_split (mem : Bytes) (p n : Nat) (hp : p + n ≤ mem.length) :
    ∃ a old b, mem = a ++ old ++ b ∧ a.length = p ∧ old.length = n := by
  refine ⟨mem.take p, (mem.drop p).take n, mem.drop (p + n), ?_, ?_, ?_⟩
  · rw [List.append_assoc, ← List.drop_drop, List.take_append_drop, List.take_append_drop]
  · rw [List.length_take]
    omega
  · rw [List.length_take, List.length_drop]
    omega

/-- The character at a place, and what stands around it. -/
theorem exists_split_cons (mem : Bytes) (p : Nat) (hp : p < mem.length) :
    ∃ a c b, mem = a ++ c :: b ∧ a.length = p := by
  refine ⟨mem.take p, mem[p], mem.drop (p + 1), ?_, ?_⟩
  · rw [← List.drop_eq_getElem_cons, List.take_append_drop]
  · rw [List.length_take]
    omega

theorem poke_append (a : Bytes) (c d : UInt8) (b : Bytes) :
    poke (a ++ c :: b) a.length d = some (a ++ d :: b) := by
  rw [poke, if_pos (by simp)]
  simp

theorem memcpy_append {old text : Bytes} (hlen : old.length = text.length) :
    memcpy (a ++ old ++ b) a.length text = some (a ++ text ++ b) := by
  have htake : (a ++ old ++ b).take a.length = a := by rw [List.append_assoc, List.take_left]
  have hdrop : (a ++ old ++ b).drop (a.length + text.length) = b := by
    rw [← hlen, ← List.length_append, List.drop_left]
  rw [memcpy, if_pos (by simp [hlen]), htake, hdrop]

theorem memcpy_written (mem a : Bytes) (p : Nat) (hp : p + a.length ≤ mem.length) :
    ∃ mem', memcpy mem p a = some mem' ∧ Written mem mem' p a := by
  refine ⟨_, if_pos hp, ?_, hp, ?_⟩
  · simp only [List.length_append, List.length_take, List.length_drop]
    omega
  · have hlen : (mem.take p ++ a).length = p + a.length := by
      rw [List.length_append, List.length_take]
      omega
    rw [← hlen, List.take_left]

/-- A text written at the start. -/
theorem Written.take_zero (h : Written mem mem' 0 a) : mem'.take a.length = a := by
  simpa using h.take

end Written

/-! ## Separators -/

/-- The first place of a character among the next `left` ones, `none` inside if there is none. -/
def scan (mem : Bytes) (c : UInt8) : Nat → Nat → Option (Option Nat)
  | 0, _ => some none
  | left + 1, p => do
    let d ← mem[p]?
    if d = c then some (some p) else scan mem c left (p + 1)

/-- Hand the pieces between separators to `f`, by their start and end; stop when `f` yields
`none` inside.  The loop is at `i`, the last separator was in front of `start`. -/
def forPieces {σ : Type} (mem : Bytes) (base : Nat) (sep : UInt8)
    (f : σ → Nat → Nat → Option (Option σ)) : Nat → Nat → Nat → σ → Option (Option σ)
  | 0, start, i, x => f x start i
  | left + 1, start, i, x => do
    let c ← mem[base + i]?
    if c = sep then
      match ← f x start i with
      | none => some none
      | some x => forPieces mem base sep f left (i + 1) (i + 1) x
    else forPieces mem base sep f left start (i + 1) x

/-- Go on with what has been accepted; a rejection or a failure stays one. -/
def andThen {σ τ : Type} (r : Option (Option σ)) (k : σ → Option (Option τ)) :
    Option (Option τ) :=
  r.bind (fun r => r.elim (some none) k)

@[simp] theorem andThen_none {σ τ : Type} (k : σ → Option (Option τ)) : andThen none k = none := rfl

@[simp] theorem andThen_reject {σ τ : Type} (k : σ → Option (Option τ)) :
    andThen (some none) k = some none := rfl

@[simp] theorem andThen_some {σ τ : Type} (x : σ) (k : σ → Option (Option τ)) :
    andThen (some (some x)) k = k x := rfl

theorem andThen_congr {σ τ : Type} {r : Option (Option σ)} {k k' : σ → Option (Option τ)}
    (h : ∀ x, r = some (some x) → k x = k' x) : andThen r k = andThen r k' := by
  rcases r with _ | _ | x
  · rfl
  · rfl
  · exact h x rfl

section Separators
variable {mem a b : Bytes} {p base left : Nat} {c sep : UInt8}

theorem scan_of_notMem (h : TextAt mem p a) (hc : c ∉ a) : scan mem c a.length p = some none := by
  induction a generalizing p with
  | nil => rfl
  | cons d a ih =>
    obtain ⟨hd, ha⟩ := textAt_cons.mp h
    rw [List.mem_cons, not_or] at hc
    rw [List.length_cons, scan, hd, Option.bind_eq_bind, Option.bind_some, if_neg (Ne.symm hc.1),
      ih ha hc.2]

theorem scan_append (h : TextAt mem p (a ++ c :: b)) (hc : c ∉ a) (hleft : a.length < left) :
    scan mem c left p = some (some (p + a.length)) := by
  induction a generalizing p left with
  | nil =>
    obtain ⟨left, rfl⟩ := Nat.exists_eq_add_of_lt hleft
    rw [List.length_nil, Nat.zero_add, scan, (textAt_cons.mp h).1, Option.bind_eq_bind,
      Option.bind_some, if_pos rfl, Nat.add_zero]
  | cons d a ih =>
    obtain ⟨hd, ha⟩ := textAt_cons.mp h
    rw [List.mem_cons, not_or] at hc
    obtain ⟨left, rfl⟩ : ∃ n, left = n + 1 := Nat.exists_eq_succ_of_ne_zero (by omega)
    rw [List.length_cons] at hleft
    rw [scan, hd, Option.bind_eq_bind, Option.bind_some, if_neg (Ne.symm hc.1),
      ih ha hc.2 (Nat.lt_of_succ_lt_succ hleft), List.length_cons, Nat.add_assoc,
      Nat.add_comm 1]

variable {σ α : Type} (f : σ → Nat → Nat → Option (Option σ))

/-- The loop passes over characters that are not the separator. -/
theorem forPieces_skip (left start i : Nat) (x : σ) (h : TextAt mem (base + i) a) (hsep : sep ∉ a) :
    forPieces mem base sep f (a.length + left) start i x =
      forPieces mem base sep f left start (i + a.length) x := by
  induction a generalizing i with
  | nil => rw [List.length_nil, Nat.zero_add, Nat.add_zero]
  | cons d a ih =>
    obtain ⟨hd, ha⟩ := textAt_cons.mp h
    rw [List.mem_cons, not_or] at hsep
    rw [List.length_cons, Nat.add_right_comm, forPieces, hd, Option.bind_eq_bind,
      Option.bind_some, if_neg (Ne.symm hsep.1), ih (i + 1) ha hsep.2, Nat.add_assoc,
      Nat.add_comm 1]

/-- The loop comes to a separator with the pieces in front of it handed on. -/
theorem forPieces_append {n : Nat} (start i : Nat) (x : σ) (h : mem[base + (i + n)]? = some sep) :
    forPieces mem base sep f (n + (left + 1)) start i x =
      andThen (forPieces mem base sep f n start i x)
        (forPieces mem base sep f left (i + n + 1) (i + n + 1)) := by
  induction n generalizing start i x with
  | zero =>
    rw [Nat.add_zero] at h
    rw [Nat.zero_add (left + 1)]
    simp only [forPieces, h, Option.bind_eq_bind, Option.bind_some, if_true, Nat.add_zero]
    rcases f x start i with _ | _ | y <;> rfl
  | succ n ih =>
    have hplace : i + (n + 1) = i + 1 + n := by omega
    rw [hplace] at h ⊢
    rw [Nat.add_right_comm, forPieces, forPieces]
    cases mem[base + i]? with
    | none => rfl
    | some d =>
      simp only [Option.bind_eq_bind, Option.bind_some]
      by_cases hd : d = sep
      · rw [if_pos hd, if_pos hd]
        rcases f x start i with _ | _ | y
        · rfl
        · rfl
        · exact ih (i + 1) (i + 1) y h
      · rw [if_neg hd, if_neg hd]
        exact ih start (i + 1) x h

/-- Loops over the same text, closed by a separator, that do the same with each piece. -/
theorem forPieces_congr {mem' : Bytes} {base' : Nat} {f' : σ → Nat → Nat → Option (Option σ)}
    {start i : Nat} (x : σ) (h : TextAt mem (base + i) (a ++ [sep]))
    (h' : TextAt mem' (base' + i) (a ++ [sep])) (hstart : start ≤ i)
    (hf : ∀ x start' j, start ≤ start' → start' ≤ j → j ≤ i + a.length →
      mem[base + j]? = some sep → f x start' j = f' x start' j) :
    forPieces mem base sep f a.length start i x = forPieces mem' base' sep f' a.length start i x := by
  induction a generalizing start i x with
  | nil =>
    have hsep := textAt_singleton.mp h
    exact hf x start i (Nat.le_refl _) hstart (Nat.le_refl _) hsep
  | cons c a ih =>
    obtain ⟨hc, ha⟩ := textAt_cons.mp h
    obtain ⟨hc', ha'⟩ := textAt_cons.mp h'
    rw [List.length_cons] at hf ⊢
    simp only [forPieces, hc, hc', Option.bind_eq_bind, Option.bind_some]
    by_cases hs : c = sep
    · rw [if_pos hs, if_pos hs, hf x start i (Nat.le_refl _) hstart (by omega) (hs ▸ hc)]
      rcases f' x start i with _ | _ | y
      · rfl
      · rfl
      · exact ih y ha ha' (Nat.le_refl _)
          (fun x start' j h₁ h₂ h₃ => hf x start' j (by omega) h₂ (by omega))
    · rw [if_neg hs, if_neg hs]
      exact ih x ha ha' (by omega) (fun x start' j h₁ h₂ h₃ => hf x start' j h₁ h₂ (by omega))

/-- **The invariant rule.**  What each piece keeps holds at the end, or a piece fails, `n` being the
place where the text ends. -/
theorem forPieces_spec (fails : Prop) (text : α → Bytes) (inv : List α → σ → Prop) (start : Nat)
    {l all : List α} {item : α} {done : List α} {x : σ} {n : Nat} (hall : done ++ item :: l = all)
    (hinv : inv done x)
    (h : TextAt mem (base + start) (text item ++ l.flatMap (fun a => sep :: text a)))
    (hn : start + (text item ++ l.flatMap (fun a => sep :: text a)).length = n)
    (hsep : ∀ a ∈ item :: l, sep ∉ text a)
    (hstep : ∀ done a rest x start, done ++ a :: rest = all → inv done x →
      TextAt mem (base + start) (text a) →
      start + (text a ++ rest.flatMap (fun a => sep :: text a)).length = n →
      (fails ∧ f x start (start + (text a).length) = none) ∨
        ∃ x', f x start (start + (text a).length) = some (some x') ∧ inv (done ++ [a]) x') :
    (fails ∧ forPieces mem base sep f (text item ++ l.flatMap (fun a => sep :: text a)).length
        start start x = none) ∨
      ∃ x', forPieces mem base sep f (text item ++ l.flatMap (fun a => sep :: text a)).length
        start start x = some (some x') ∧ inv all x' := by
  induction l generalizing item done x start with
  | nil =>
    rw [List.flatMap_nil, List.append_nil] at h ⊢
    have hskip : forPieces mem base sep f (text item).length start start x =
        f x start (start + (text item).length) :=
      forPieces_skip f 0 start start x h (hsep item (by simp))
    rw [hskip, ← hall]
    exact hstep done item [] x start hall hinv h hn
  | cons b l ih =>
    have hplace := hn
    rw [List.flatMap_cons, List.cons_append] at h hn ⊢
    rw [List.length_append, List.length_cons] at hn
    obtain ⟨hitem, hrest⟩ := textAt_append.mp h
    obtain ⟨hc, hrest⟩ := textAt_cons.mp hrest
    rw [Nat.add_assoc] at hc
    rw [Nat.add_assoc base, Nat.add_assoc base] at hrest
    rw [List.length_append, forPieces_skip f _ _ _ _ hitem (hsep item (by simp)), List.length_cons,
      forPieces, hc, Option.bind_eq_bind, Option.bind_some, if_pos rfl]
    rcases hstep done item (b :: l) x start hall hinv hitem hplace with ⟨hf, hx⟩ | ⟨x', hx', hinv'⟩
    · rw [hx]
      exact Or.inl ⟨hf, rfl⟩
    · rw [hx']
      exact ih _ (by rw [List.append_assoc]; exact hall) hinv' hrest (by omega)
        (fun a ha => hsep a (List.mem_cons_of_mem _ ha))

/-- The invariant rule for a loop that has come to its end; the text is followed by `c`. -/
theorem forPieces_inv (inv : List Bytes → Nat → σ → Prop) (start : Nat) {l all : List Bytes}
    {item : Bytes} {done : List Bytes} {x x' : σ} (hall : done ++ item :: l = all)
    (hinv : inv done start x)
    (h : TextAt mem (base + start) (item ++ l.flatMap (fun a => sep :: a) ++ [c]))
    (hsep : ∀ a ∈ item :: l, sep ∉ a)
    (hstep : ∀ done a rest x x' start d, done ++ a :: rest = all → inv done start x →
      d = sep ∨ d = c → TextAt mem (base + start) (a ++ [d]) →
      f x start (start + a.length) = some (some x') → inv (done ++ [a]) (start + a.length + 1) x')
    (hrun : forPieces mem base sep f (item ++ l.flatMap (fun a => sep :: a)).length
      start start x = some (some x')) :
    ∃ n, inv all n x' := by
  induction l generalizing item done x start with
  | nil =>
    rw [List.flatMap_nil, List.append_nil] at h hrun
    have hskip := forPieces_skip f 0 start start x (textAt_append.mp h).1 (hsep item (by simp))
    rw [Nat.add_zero] at hskip
    rw [← hall]
    exact ⟨_, hstep done item [] x x' start c hall hinv (Or.inr rfl) h (hskip.symm.trans hrun)⟩
  | cons b l ih =>
    rw [List.flatMap_cons, List.cons_append] at h hrun
    rw [List.append_assoc, List.cons_append, List.append_cons] at h
    obtain ⟨hitem, hrest⟩ := textAt_append.mp h
    obtain ⟨hskip, hc⟩ := textAt_append.mp hitem
    rw [textAt_singleton, Nat.add_assoc] at hc
    rw [List.length_append, forPieces_skip f _ _ _ _ hskip (hsep item (by simp)), List.length_cons,
      forPieces, hc, Option.bind_eq_bind, Option.bind_some, if_pos rfl] at hrun
    cases hf : f x start (start + item.length) with
    | none =>
      rw [hf] at hrun
      cases hrun
    | some r =>
      rw [hf, Option.bind_eq_bind, Option.bind_some] at hrun
      cases r with
      | none => cases hrun
      | some x₁ =>
        rw [List.length_append, List.length_singleton, Nat.add_assoc base, ← Nat.add_assoc start]
          at hrest
        have hinv₁ := hstep done item (b :: l) x x₁ start sep hall hinv (Or.inl rfl) hitem hf
        exact ih _ (by rw [List.append_assoc]; exact hall) hinv₁ hrest
          (fun a ha => hsep a (List.mem_cons_of_mem _ ha)) hrun

/-- The loop comes to its end just if every piece is accepted; the text is followed by `c` and ends
at `n`. -/
theorem forPieces_accepts (inv : List Bytes → σ → Prop) (ok : Bytes → Prop) (start : Nat)
    {l all : List Bytes} {item : Bytes} {done : List Bytes} {x : σ} {n : Nat}
    (hall : done ++ item :: l = all) (hinv : inv done x)
    (h : TextAt mem (base + start) (item ++ l.flatMap (fun a => sep :: a) ++ [c]))
    (hn : start + (item ++ l.flatMap (fun a => sep :: a)).length = n)
    (hsep : ∀ a ∈ item :: l, sep ∉ a)
    (hstep : ∀ done a rest x start d, done ++ a :: rest = all → inv done x → d = sep ∨ d = c →
      TextAt mem (base + start) (a ++ [d]) → start + a.length ≤ n →
      ((∃ x', f x start (start + a.length) = some (some x')) ↔ ok a) ∧
        ∀ x', f x start (start + a.length) = some (some x') → inv (done ++ [a]) x') :
    (∃ x', forPieces mem base sep f (item ++ l.flatMap (fun a => sep :: a)).length start start x =
      some (some x')) ↔ ∀ a ∈ item :: l, ok a := by
  induction l generalizing item done x start with
  | nil =>
    rw [List.flatMap_nil, List.append_nil] at h hn ⊢
    have hskip := forPieces_skip f 0 start start x (textAt_append.mp h).1 (hsep item (by simp))
    rw [Nat.add_zero] at hskip
    rw [hskip, List.forall_mem_singleton]
    exact (hstep done item [] x start c hall hinv (Or.inr rfl) h (by omega)).1
  | cons b l ih =>
    rw [List.flatMap_cons, List.cons_append] at h hn ⊢
    rw [List.append_assoc, List.cons_append, List.append_cons] at h
    obtain ⟨hitem, hrest⟩ := textAt_append.mp h
    obtain ⟨hskip, hc⟩ := textAt_append.mp hitem
    rw [textAt_singleton, Nat.add_assoc] at hc
    rw [List.length_append, List.length_cons] at hn
    obtain ⟨hiff, hkeep⟩ :=
      hstep done item (b :: l) x start sep hall hinv (Or.inl rfl) hitem (by omega)
    rw [List.length_append, forPieces_skip f _ _ _ _ hskip (hsep item (by simp)), List.length_cons,
      forPieces, hc, Option.bind_eq_bind, Option.bind_some, if_pos rfl, List.forall_mem_cons, ← hiff]
    cases hf : f x start (start + item.length) with
    | none =>
      constructor
      · rintro ⟨_, hno⟩
        cases hno
      · rintro ⟨⟨_, hno⟩, -⟩
        cases hno
    | some r =>
      cases r with
      | none =>
        constructor
        · rintro ⟨_, hno⟩
          cases hno
        · rintro ⟨⟨_, hno⟩, -⟩
          cases hno
      | some x₁ =>
        rw [List.length_append, List.length_singleton, Nat.add_assoc base, ← Nat.add_assoc start]
          at hrest
        have hrec := ih (start + item.length + 1) (by rw [List.append_assoc]; exact hall)
          (hkeep x₁ hf) hrest (by omega) (fun a ha => hsep a (List.mem_cons_of_mem _ ha))
        exact hrec.trans ⟨fun ho => ⟨⟨x₁, rfl⟩, ho⟩, fun ho => ho.2⟩

/-- What every piece keeps holds of the result, wherever the pieces are. -/
theorem forPieces_keeps (inv : σ → Prop)
    (hf : ∀ x start i x', inv x → f x start i = some (some x') → inv x') {start i : Nat}
    {x x' : σ} (hinv : inv x) (hrun : forPieces mem base sep f left start i x = some (some x')) :
    inv x' := by
  induction left generalizing start i x with
  | zero => exact hf x start i x' hinv hrun
  | succ left ih =>
    rw [forPieces, Option.bind_eq_bind, Option.bind_eq_some_iff] at hrun
    obtain ⟨c, -, hrun⟩ := hrun
    by_cases hc : c = sep
    · rw [if_pos hc, Option.bind_eq_bind, Option.bind_eq_some_iff] at hrun
      obtain ⟨r, hr, hrun⟩ := hrun
      cases r with
      | none => cases hrun
      | some x₁ => exact ih (hf x start i x₁ hinv hr) hrun
    · rw [if_neg hc] at hrun
      exact ih hinv hrun

end Separators

/-- The pieces of a text between the separators. -/
theorem exists_splitOn (sep : UInt8) (l : Bytes) :
    ∃ item rest, l.splitOn sep = item :: rest ∧ l = item ++ rest.flatMap (fun a => sep :: a) ∧
      ∀ a ∈ item :: rest, sep ∉ a := by
  induction l with
  | nil => exact ⟨[], [], by simp, rfl, by simp⟩
  | cons c l ih =>
    obtain ⟨item, rest, hsplit, hl, hsep⟩ := ih
    rw [List.splitOn_cons_eq_if_modifyHead, hsplit]
    by_cases hc : c = sep
    · refine ⟨[], item :: rest, if_pos (beq_iff_eq.mpr hc), ?_, ?_⟩
      · rw [List.flatMap_cons, List.nil_append, List.cons_append, ← hl, hc]
      · intro a ha
        rcases List.mem_cons.mp ha with rfl | ha
        · exact List.not_mem_nil
        · exact hsep a ha
    · refine ⟨c :: item, rest, if_neg (fun he => hc (beq_iff_eq.mp he)), ?_, ?_⟩
      · rw [List.cons_append, ← hl]
      · intro a ha
        rcases List.mem_cons.mp ha with rfl | ha
        · rw [List.mem_cons, not_or]
          exact ⟨Ne.symm hc, hsep item (by simp)⟩
        · exact hsep a (List.mem_cons_of_mem _ ha)

theorem length_le_of_mem_splitOn {sep : UInt8} {l p : Bytes} (h : p ∈ l.splitOn sep) :
    p.length ≤ l.length := by
  obtain ⟨item, rest, hsplit, hl, -⟩ := exists_splitOn sep l
  rw [hsplit] at h
  rw [hl, List.length_append]
  rcases List.mem_cons.mp h with rfl | hmem
  · exact Nat.le_add_right _ _
  · obtain ⟨a, b, rfl⟩ := List.append_of_mem hmem
    rw [List.flatMap_append, List.flatMap_cons, List.length_append, List.length_append,
      List.length_cons]
    omega

end Buffer
