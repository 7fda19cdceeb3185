import XredisGtid.Buffer
import XredisGtid.Decimal
import XredisGtid.Gno

/-!
# Numbers as text

`digits10`, `ll2string` and `string2ll` of `gtid_util.c`.  A `char *` is an offset
into a buffer, and a read or a write outside of the buffer makes the function fail.

`ll2string` writes the notation `longText` of a number and `string2ll` reads it
back, over the whole range of `long long`.
-/
namespace XredisGtid
open Buffer Decimal

def ULLONG_MAX : Nat := 18446744073709551615

def digits10 (v : Nat) : Nat :=
  if v < 10 then 1
  else if v < 100 then 2
  else if v < 1000 then 3
  else if v < 1000000000000 then
    if v < 100000000 then
      if v < 1000000 then
        if v < 10000 then 4
        else 5 + (decide (v ≥ 100000)).toNat
      else 7 + (decide (v ≥ 10000000)).toNat
    else if v < 10000000000 then 9 + (decide (v ≥ 1000000000)).toNat
    else 11 + (decide (v ≥ 100000000000)).toNat
  else 12 + digits10 (v / 1000000000000)
termination_by v

/-- The table "00" "01" … "99". -/
def digits : Bytes := (List.range 100).flatMap (fun n => [digitChar (n / 10), digitChar (n % 10)])

/-- Write digits up to `dst[next]`, two at a time from the right. -/
def writeDigits (mem : Bytes) (dst next value : Nat) : Option Bytes := do
  if value ≥ 100 then
    let i := value % 100 * 2
    let mem ← poke mem (dst + next) (← digits[i + 1]?)
    let mem ← poke mem (dst + (next - 1)) (← digits[i]?)
    writeDigits mem dst (next - 2) (value / 100)
  -- the last 1-2 digits
  else if value < 10 then poke mem (dst + next) (digitChar value)
  else
    let i := value * 2
    let mem ← poke mem (dst + next) (← digits[i + 1]?)
    poke mem (dst + (next - 1)) (← digits[i]?)
termination_by value

/-- Write a number and a terminating zero; the number of characters is `0` if they do not fit. -/
def ll2string (mem : Bytes) (dst dstlen : Nat) (svalue : Int) : Option (Bytes × Nat) := do
  let negative := decide (svalue < 0)
  let value := if svalue < 0 then
      if svalue ≠ LLONG_MIN then (-svalue).toNat else (LLONG_MAX + 1).toNat
    else svalue.toNat
  let length := digits10 value + negative.toNat
  if length ≥ dstlen then some (mem, 0)
  else
    let mem ← poke mem (dst + length) 0
    let mem ← writeDigits mem dst (length - 1) value
    if negative then some (← poke mem dst '-'.toUInt8, length) else some (mem, length)

/-- The second loop of `string2ll`, with `left` characters to go: the number of characters
not read and the value, or `none` inside if the value overflows. -/
def readDigits (mem : Bytes) : Nat → Nat → Nat → Option (Option (Nat × Nat))
  | 0, _, v => some (some (0, v))
  | left + 1, p, v => do
    let c ← mem[p]?
    if '0'.toUInt8 ≤ c ∧ c ≤ '9'.toUInt8 then
      if v > ULLONG_MAX / 10 then some none
      else if v * 10 > ULLONG_MAX - (c.toNat - 48) then some none
      else readDigits mem left (p + 1) (v * 10 + (c.toNat - 48))
    else some (some (left + 1, v))

/-- The rest of `string2ll` behind the sign, which was `plen` characters. -/
def string2llFrom (mem : Bytes) (s slen : Nat) (negative : Bool) (plen : Nat) :
    Option (Option Int) := do
  -- nothing bounds the search for the first character other than '0'
  let plen := plen + ((mem.drop (s + plen)).takeWhile (fun c => c = '0'.toUInt8)).length
  let c ← mem[s + plen]?
  if '1'.toUInt8 ≤ c ∧ c ≤ '9'.toUInt8 then
    match ← readDigits mem (slen - (plen + 1)) (s + plen + 1) (c.toNat - 48) with
    | none => some none
    | some (left, v) =>
      if 0 < left then some none
      else if negative then
        if v > (LLONG_MAX + 1).toNat then some none else some (some (llong (-v)))
      else if v > LLONG_MAX.toNat then some none
      else some (some v)
  else if c = '0'.toUInt8 ∧ slen = 1 then some (some 0)
  else some none

/-- The number in the `slen` characters from `s` on, `none` inside if they are not one. -/
def string2ll (mem : Bytes) (s slen : Nat) : Option (Option Int) := do
  if slen = 0 then some none
  else
    let c ← mem[s]?
    if slen = 1 ∧ c = '0'.toUInt8 then some (some 0)
    else if c = '-'.toUInt8 then
      if 1 = slen then some none else string2llFrom mem s slen true 1
    else string2llFrom mem s slen false 0

/-- The notation of a `long long`. -/
def longText (x : Int) : Bytes :=
  if x < 0 then '-'.toUInt8 :: decimal (-x).toNat else decimal x.toNat

/-! ## Writing -/

/-- The number of digits below a power of ten, tested the way `digits10` does. -/
theorem length_decimal_of_le {v k : Nat} (h₁ : 10 ^ k ≤ v) (h₂ : v < 10 ^ (k + 2)) :
    k + 1 + (decide (v ≥ 10 ^ (k + 1))).toNat = (decimal v).length := by
  by_cases h : v ≥ 10 ^ (k + 1)
  · rw [decide_eq_true h, length_decimal h h₂]
    rfl
  · rw [decide_eq_false h, length_decimal h₁ (Nat.not_le.mp h)]
    rfl

theorem digits10_eq (v : Nat) : digits10 v = (decimal v).length := by
  induction v using Nat.strong_induction_on with
  | _ v ih =>
    rw [digits10]
    split
    · next h => rw [decimal_of_lt h]; rfl
    split
    · exact (length_decimal (k := 1) (by omega) (by omega)).symm
    split
    · exact (length_decimal (k := 2) (by omega) (by omega)).symm
    split
    · split
      · split
        · split
          · exact (length_decimal (k := 3) (by omega) (by omega)).symm
          · exact length_decimal_of_le (k := 4) (by omega) (by omega)
        · exact length_decimal_of_le (k := 6) (by omega) (by omega)
      · split
        · exact length_decimal_of_le (k := 8) (by omega) (by omega)
        · exact length_decimal_of_le (k := 10) (by omega) (by omega)
    · rw [length_decimal_div (k := 12) (by omega), ih _ (by omega),
        show (10 : Nat) ^ 12 = 1000000000000 from rfl]

theorem digits_get {n : Nat} (hn : n < 100) :
    digits[n * 2]? = some (digitChar (n / 10)) ∧
      digits[n * 2 + 1]? = some (digitChar (n % 10)) := by
  have hall : ∀ n < 100, digits[n * 2]? = some (digitChar (n / 10)) ∧
      digits[n * 2 + 1]? = some (digitChar (n % 10)) := by decide
  exact hall n hn

/-- The last two digits. -/
theorem decimal_two_step {v : Nat} (hv : 10 ≤ v) :
    decimal v = (if v < 100 then [] else decimal (v / 100)) ++
      [digitChar (v % 100 / 10), digitChar (v % 100 % 10)] := by
  rw [decimal_step hv, show v % 100 % 10 = v % 10 by omega]
  split
  · next h =>
    rw [decimal_of_lt (show v / 10 < 10 by omega), Nat.mod_eq_of_lt h]
    rfl
  · next h =>
    rw [decimal_step (show 10 ≤ v / 10 by omega), Nat.div_div_eq_div_mul, List.append_assoc,
      show v / 10 % 10 = v % 100 / 10 by omega]
    rfl

/-- Writing two digits, the right one first. -/
theorem poke_pair (a : Bytes) (c d : UInt8) (b : Bytes) {n : Nat} (hn : n < 100)
    (f : Bytes → Option Bytes) :
    (do
      let mem ← poke (a ++ c :: d :: b) (a.length + 1) (← digits[n * 2 + 1]?)
      let mem ← poke mem a.length (← digits[n * 2]?)
      f mem) = f (a ++ digitChar (n / 10) :: digitChar (n % 10) :: b) := by
  have hpoke := poke_append (a ++ [c]) d (digitChar (n % 10)) b
  rw [List.length_append, List.length_singleton] at hpoke
  simp only [List.append_assoc, List.singleton_append] at hpoke
  simp only [digits_get hn, Option.bind_eq_bind, Option.bind_some, hpoke, poke_append]

theorem exists_pair {old : Bytes} {n : Nat} (h : old.length = n + 2) :
    ∃ old' c d, old = old' ++ [c, d] ∧ old'.length = n := by
  obtain ⟨old', r, b, hold, ha, hr⟩ := exists_split old n 2 h.ge
  obtain ⟨c, d, rfl⟩ := List.length_eq_two.mp hr
  have hb : b = [] := by
    apply List.eq_nil_of_length_eq_zero
    have := congrArg List.length hold
    simp only [List.length_append, List.length_cons, List.length_nil] at this
    omega
  exact ⟨old', c, d, by rw [hold, hb, List.append_nil], ha⟩

/-- **The digits are written over the place left for them.** -/
theorem writeDigits_eq (a old b : Bytes) (value dst next : Nat)
    (hlen : old.length = (decimal value).length) (hnext : dst + next + 1 = a.length + old.length)
    (hdst : dst ≤ a.length) :
    writeDigits (a ++ old ++ b) dst next value = some (a ++ decimal value ++ b) := by
  induction value using Nat.strong_induction_on generalizing old b next with
  | _ value ih =>
    rw [writeDigits]
    by_cases hten : value < 10
    · rw [decimal_of_lt hten, List.length_singleton] at hlen
      obtain ⟨c, rfl⟩ := List.length_eq_one_iff.mp hlen
      rw [List.length_singleton] at hnext
      rw [if_neg (by omega), if_pos hten, decimal_of_lt hten, List.append_assoc,
        List.append_assoc, show dst + next = a.length by omega]
      exact poke_append a c (digitChar value) b
    · have hge : 10 ≤ value := Nat.not_lt.mp hten
      have htwo := decimal_two_step hge
      -- the last two places
      rw [htwo, List.length_append] at hlen
      obtain ⟨old', c, d, rfl, hold'⟩ := exists_pair hlen
      rw [List.length_append, List.length_cons, List.length_singleton] at hnext
      have hright : dst + next = (a ++ old').length + 1 := by rw [List.length_append]; omega
      have hleft : dst + (next - 1) = (a ++ old').length := by rw [List.length_append]; omega
      have hmem : a ++ (old' ++ [c, d]) ++ b = (a ++ old') ++ c :: d :: b := by simp
      have hpair := poke_pair (a ++ old') c d b (show value % 100 < 100 by omega)
      rw [hmem, hright, hleft]
      by_cases hhundred : value ≥ 100
      · rw [if_neg (by omega)] at hold' htwo
        have hpos := length_decimal_pos (value / 100)
        have hrec := ih (value / 100) (by omega) old'
          (digitChar (value % 100 / 10) :: digitChar (value % 100 % 10) :: b) (next - 2) hold'
          (by omega)
        rw [if_pos hhundred, hpair, hrec, htwo]
        simp
      · rw [if_pos (by omega)] at hold' htwo
        rw [List.length_eq_zero_iff.mp hold'] at hpair ⊢
        rw [if_neg hhundred, if_neg hten, htwo]
        rw [Nat.mod_eq_of_lt (show value < 100 by omega)] at hpair ⊢
        have := hpair some
        simp only [Option.bind_eq_bind, Option.bind_fun_some] at this
        exact this.trans (by simp)

/-- The absolute value, which for `LLONG_MIN` is not a `long long`. -/
theorem ll2string_value (x : Int) :
    (if x < 0 then if x ≠ LLONG_MIN then (-x).toNat else (LLONG_MAX + 1).toNat else x.toNat) =
      if x < 0 then (-x).toNat else x.toNat := by
  by_cases hneg : x < 0
  · rw [if_pos hneg, if_pos hneg]
    by_cases hmin : x = LLONG_MIN
    · rw [if_neg (not_not.mpr hmin), hmin]
      rfl
    · rw [if_pos hmin]
  · rw [if_neg hneg, if_neg hneg]

/-- The digits and the sign, written over a place of their length. -/
theorem ll2string_digits (a old b : Bytes) (x : Int) (hlen : old.length = (longText x).length) :
    (do
      let mem ← writeDigits (a ++ old ++ b) a.length (old.length - 1)
        (if x < 0 then (-x).toNat else x.toNat)
      if decide (x < 0) then some (← poke mem a.length '-'.toUInt8, old.length)
      else some (mem, old.length)) = some (a ++ longText x ++ b, old.length) := by
  have hpos := length_decimal_pos
  by_cases hneg : x < 0
  · rw [longText, if_pos hneg, List.length_cons] at hlen
    obtain ⟨sign, old, rfl⟩ := List.exists_cons_of_length_eq_add_one hlen
    rw [List.length_cons, Nat.add_right_cancel_iff] at hlen
    have hmem : a ++ sign :: old ++ b = (a ++ [sign]) ++ old ++ b := by simp
    have hwrite := writeDigits_eq (a ++ [sign]) old b (-x).toNat a.length old.length hlen
      (by rw [List.length_append, List.length_singleton]; omega) (by simp)
    have hpoke := poke_append a sign '-'.toUInt8 (decimal (-x).toNat ++ b)
    have hback : (a ++ [sign]) ++ decimal (-x).toNat ++ b =
        a ++ sign :: (decimal (-x).toNat ++ b) := by simp
    rw [if_pos hneg, List.length_cons, Nat.add_sub_cancel, hmem, hwrite, longText, if_pos hneg]
    simp only [Option.bind_eq_bind, Option.bind_some, decide_eq_true hneg, if_true, hback, hpoke]
    simp
  · rw [longText, if_neg hneg] at hlen ⊢
    have hlt := hpos x.toNat
    have hwrite := writeDigits_eq a old b x.toNat a.length (old.length - 1) hlen (by omega)
      (Nat.le_refl _)
    rw [if_neg hneg, hwrite]
    simp only [Option.bind_eq_bind, Option.bind_some, decide_eq_false hneg, Bool.false_eq_true,
      if_false]

theorem length_longText (x : Int) : (longText x).length =
    digits10 (if x < 0 then (-x).toNat else x.toNat) + (decide (x < 0)).toNat := by
  rw [digits10_eq, longText]
  by_cases hneg : x < 0
  · simp only [if_pos hneg, decide_eq_true hneg, List.length_cons, Bool.toNat_true]
  · simp only [if_neg hneg, decide_eq_false hneg, Bool.toNat_false, Nat.add_zero]

/-- The notation of a `long long` has at most 20 characters. -/
theorem length_longText_le_twenty {x : Int} (hlow : LLONG_MIN ≤ x) (hhigh : x ≤ LLONG_MAX) :
    (longText x).length ≤ 20 := by
  unfold LLONG_MIN LLONG_MAX at *
  rw [longText]
  split
  · have := length_decimal_le (v := (-x).toNat) (show 0 < 19 by decide) (by omega)
    rw [List.length_cons]
    omega
  · have := length_decimal_le (v := x.toNat) (show 0 < 19 by decide) (by omega)
    omega

/-- Formatting replaces what stands in the place of the notation and of the zero behind it. -/
theorem ll2string_append (a old b : Bytes) (z : UInt8) (x : Int) {dstlen : Nat}
    (hlen : old.length = (longText x).length) (hfit : (longText x).length < dstlen) :
    ll2string (a ++ old ++ z :: b) a.length dstlen x =
      some (a ++ longText x ++ 0 :: b, (longText x).length) := by
  have hpoke := poke_append (a ++ old) z 0 b
  have hwrite := ll2string_digits a old (0 :: b) x hlen
  rw [ll2string]
  simp only [ll2string_value, ← length_longText, ← hlen]
  rw [if_neg (by omega), ← List.length_append, hpoke]
  exact hwrite

/-- **Formatting** writes the notation of the number. -/
theorem ll2string_spec (mem : Bytes) (dst dstlen : Nat) (x : Int)
    (hfit : (longText x).length < dstlen) (hroom : dst + dstlen ≤ mem.length) :
    ∃ mem', ll2string mem dst dstlen x = some (mem', (longText x).length) ∧
      Written mem mem' dst (longText x) := by
  obtain ⟨a, old, b, rfl, rfl, hold⟩ :=
    exists_split mem dst (longText x).length (by omega)
  obtain ⟨z, b, rfl⟩ := List.exists_cons_of_ne_nil (l := b) (by
    rintro rfl
    simp only [List.length_append, List.length_nil] at hroom
    omega)
  exact ⟨_, ll2string_append a old b z x hold hfit, written_of_append hold rfl⟩

/-! ## Reading -/

theorem isDigit_iff {c : UInt8} : IsDigit c ↔ '0'.toUInt8 ≤ c ∧ c ≤ '9'.toUInt8 := Iff.rfl

/-- Digits are read to the end, as long as the value fits. -/
theorem readDigits_spec {mem l : Bytes} {p v : Nat} (h : TextAt mem p l)
    (hdigits : ∀ c ∈ l, IsDigit c) (hv : value l v ≤ ULLONG_MAX) :
    readDigits mem l.length p v = some (some (0, value l v)) := by
  induction l generalizing p v with
  | nil => rfl
  | cons c l ih =>
    obtain ⟨hc, hl⟩ := textAt_cons.mp h
    rw [value_cons] at hv
    have hle := le_value l (v * 10 + (c.toNat - 48))
    unfold ULLONG_MAX at hv
    have hrec := ih hl (fun d hd => hdigits d (by simp [hd])) hv
    rw [List.length_cons, readDigits, hc, Option.bind_eq_bind, Option.bind_some,
      if_pos (isDigit_iff.mp (hdigits c (by simp))), if_neg (by unfold ULLONG_MAX; omega),
      if_neg (by unfold ULLONG_MAX; omega), hrec, value_cons]

/-- The first digit of a positive number. -/
theorem first_digit {d : Nat} (h₁ : 1 ≤ d) (h₂ : d < 10) :
    '1'.toUInt8 ≤ digitChar d ∧ digitChar d ≤ '9'.toUInt8 ∧ digitChar d ≠ '0'.toUInt8 ∧
      digitChar d ≠ '-'.toUInt8 ∧ (digitChar d).toNat - 48 = d := by
  have hall : ∀ d < 10, 1 ≤ d → '1'.toUInt8 ≤ digitChar d ∧ digitChar d ≤ '9'.toUInt8 ∧
      digitChar d ≠ '0'.toUInt8 ∧ digitChar d ≠ '-'.toUInt8 ∧ (digitChar d).toNat - 48 = d := by
    decide
  exact hall d h₂ h₁

/-- No leading zero is skipped. -/
theorem takeWhile_textAt {mem l : Bytes} {p : Nat} {c : UInt8} (h : TextAt mem p (c :: l))
    (hc : c ≠ '0'.toUInt8) : (mem.drop p).takeWhile (fun c => c = '0'.toUInt8) = [] := by
  obtain ⟨r, hr⟩ := h
  rw [← hr, List.cons_append, List.takeWhile_cons_of_neg (by simpa using hc)]

/-- A positive number behind the sign. -/
theorem string2llFrom_spec {mem : Bytes} {s slen v : Nat} (negative : Bool) (plen : Nat)
    (hv : 1 ≤ v)
    (hmax : v ≤ LLONG_MAX.toNat + negative.toNat) (h : TextAt mem (s + plen) (decimal v))
    (hlen : slen = plen + (decimal v).length) :
    string2llFrom mem s slen negative plen =
      some (some (if negative then -(v : Int) else v)) := by
  obtain ⟨d, l, h₁, h₂, hl⟩ := decimal_eq_cons hv
  obtain ⟨hd₁, hd₂, hd₃, -, hd₅⟩ := first_digit h₁ h₂
  have hvalue := value_decimal v
  rw [hl] at h hlen
  rw [hl, value_cons, hd₅, Nat.zero_mul, Nat.zero_add] at hvalue
  have hbool : negative.toNat ≤ 1 := Bool.toNat_le negative
  have hmax64 : v ≤ ULLONG_MAX := by
    unfold LLONG_MAX at hmax
    unfold ULLONG_MAX
    omega
  obtain ⟨hfirst, hrest⟩ := textAt_cons.mp h
  have hread := readDigits_spec (v := d) hrest
    (fun c hc => isDigit_decimal v c (by rw [hl]; simp [hc])) (by rw [hvalue]; exact hmax64)
  have hleft : slen - (plen + 1) = l.length := by
    rw [hlen, List.length_cons]
    omega
  rw [string2llFrom, takeWhile_textAt h hd₃, List.length_nil, Nat.add_zero, hfirst]
  simp only [Option.bind_eq_bind, Option.bind_some, hd₁, hd₂, and_self, if_true, hleft, hd₅,
    hread, hvalue, Nat.lt_irrefl, if_false]
  cases negative with
  | false =>
    have hle : ¬ v > LLONG_MAX.toNat := Nat.not_lt.mpr hmax
    rw [if_neg (by simp), if_neg hle, if_neg (by simp)]
  | true =>
    have hle : ¬ v > (LLONG_MAX + 1).toNat := Nat.not_lt.mpr hmax
    have hmin : llong (-(v : Int)) = -(v : Int) := by
      unfold LLONG_MAX at hmax
      rw [Bool.toNat_true] at hmax
      exact llong_of_mem (by unfold LLONG_MIN; omega) (by unfold LLONG_MAX; omega)
    rw [if_pos rfl, if_neg hle, if_pos rfl, hmin]

/-- **Parsing inverts formatting** on every `long long`. -/
theorem string2ll_spec {mem : Bytes} {s : Nat} {x : Int} (hlow : LLONG_MIN ≤ x)
    (hhigh : x ≤ LLONG_MAX) (h : TextAt mem s (longText x)) :
    string2ll mem s (longText x).length = some (some x) := by
  rcases Int.lt_trichotomy x 0 with hneg | rfl | hpos
  · have hv : 1 ≤ (-x).toNat := by omega
    rw [longText, if_pos hneg] at h ⊢
    obtain ⟨hsign, hrest⟩ := textAt_cons.mp h
    have hlen := length_decimal_pos (-x).toNat
    have hfrom := string2llFrom_spec true 1 hv
      (by unfold LLONG_MAX; unfold LLONG_MIN at hlow; rw [Bool.toNat_true]; omega) hrest
      (Nat.add_comm _ 1)
    rw [string2ll, List.length_cons, if_neg (Nat.succ_ne_zero _), hsign, Option.bind_eq_bind,
      Option.bind_some, if_neg (by omega), if_pos rfl, if_neg (by omega), hfrom, if_pos rfl,
      Int.toNat_of_nonneg (by omega), Int.neg_neg]
  · have hget := (textAt_cons.mp h).1
    rw [show (longText 0).length = 1 from rfl, string2ll, if_neg Nat.one_ne_zero, hget]
    rfl
  · have hv : 1 ≤ x.toNat := by omega
    rw [longText, if_neg (by omega)] at h ⊢
    obtain ⟨d, l, h₁, h₂, hl⟩ := decimal_eq_cons hv
    obtain ⟨-, -, hd₃, hd₄, -⟩ := first_digit h₁ h₂
    have hfirst := h
    rw [hl] at hfirst
    have hfrom := string2llFrom_spec false 0 hv
      (by rw [Bool.toNat_false, Nat.add_zero]; exact Int.toNat_le_toNat hhigh) h
      (Nat.zero_add _).symm
    rw [string2ll, if_neg (Nat.ne_of_gt (length_decimal_pos _)), (textAt_cons.mp hfirst).1,
      Option.bind_eq_bind, Option.bind_some, if_neg (fun he => hd₃ he.2), if_neg hd₄, hfrom,
      if_neg (by decide), Int.toNat_of_nonneg (by omega)]

/-- A number read is a `long long`. -/
theorem string2llFrom_bounds {mem : Bytes} {s slen plen : Nat} {negative : Bool} {x : Int}
    (h : string2llFrom mem s slen negative plen = some (some x)) :
    LLONG_MIN ≤ x ∧ x ≤ LLONG_MAX := by
  rw [string2llFrom] at h
  obtain ⟨c, -, h⟩ := Option.bind_eq_some_iff.mp h
  split at h
  · obtain ⟨r, -, h⟩ := Option.bind_eq_some_iff.mp h
    split at h
    · cases h
    · next left v =>
      split at h
      · cases h
      split at h
      · split at h
        · cases h
        · cases h
          exact llong_range _
      · split at h
        · cases h
        · next hle =>
          cases h
          unfold LLONG_MIN LLONG_MAX at *
          omega
  · split at h
    · cases h
      decide
    · cases h

theorem string2ll_bounds {mem : Bytes} {s slen : Nat} {x : Int}
    (h : string2ll mem s slen = some (some x)) : LLONG_MIN ≤ x ∧ x ≤ LLONG_MAX := by
  rw [string2ll] at h
  split at h
  · cases h
  obtain ⟨c, -, h⟩ := Option.bind_eq_some_iff.mp h
  split at h
  · cases h
    decide
  split at h
  · split at h
    · cases h
    · exact string2llFrom_bounds h
  · exact string2llFrom_bounds h

end XredisGtid
