import Mathlib.Data.Nat.Digits.Lemmas
import Mathlib.Data.List.Basic

/-!
# Decimal notation

`decimal v` is the shortest decimal notation of a number as ASCII bytes, most
significant digit first.  `decimal_of_lt` and `decimal_step` are its recursion
equations and `induction` the induction that goes with them; `value` reads digits
from left to right, as a parser does, and `value_decimal` is its inverse.
-/
namespace Decimal

/-- The ASCII character of a digit. -/
def digitChar (d : Nat) : UInt8 := UInt8.ofNat (48 + d)

def decimal (v : Nat) : List UInt8 :=
  if v = 0 then [digitChar 0] else (Nat.digits 10 v).reverse.map digitChar

def IsDigit (c : UInt8) : Prop := 48 ≤ c.toNat ∧ c.toNat ≤ 57

instance (c : UInt8) : Decidable (IsDigit c) := inferInstanceAs (Decidable (_ ∧ _))

/-- The number read off digits, continuing from `acc`. -/
def value (l : List UInt8) (acc : Nat) : Nat :=
  l.foldl (fun acc c => acc * 10 + (c.toNat - 48)) acc

variable {v k : Nat}

theorem toNat_digitChar {d : Nat} (hd : d < 10) : (digitChar d).toNat = 48 + d := by
  rw [digitChar, UInt8.toNat_ofNat']
  omega

theorem isDigit_digitChar {d : Nat} (hd : d < 10) : IsDigit (digitChar d) := by
  unfold IsDigit
  rw [toNat_digitChar hd]
  omega

theorem decimal_of_lt (hv : v < 10) : decimal v = [digitChar v] := by
  by_cases h : v = 0
  · rw [decimal, if_pos h, h]
  · rw [decimal, if_neg h, Nat.digits_of_lt 10 v h hv]
    rfl

theorem decimal_step (hv : 10 ≤ v) : decimal v = decimal (v / 10) ++ [digitChar (v % 10)] := by
  have hdiv : v / 10 ≠ 0 := by omega
  rw [decimal, if_neg (by omega), Nat.digits_def' (by omega) (by omega), List.reverse_cons,
    List.map_append, decimal, if_neg hdiv]
  rfl

/-- One digit, or one digit behind those of `v / 10`. -/
theorem induction {motive : Nat → Prop} (one : ∀ v, v < 10 → motive v)
    (step : ∀ v, 10 ≤ v → motive (v / 10) → motive v) (v : Nat) : motive v := by
  induction v using Nat.strong_induction_on with
  | _ v ih =>
    rcases Nat.lt_or_ge v 10 with hv | hv
    · exact one v hv
    · exact step v hv (ih (v / 10) (by omega))

theorem isDigit_decimal (v : Nat) : ∀ c ∈ decimal v, IsDigit c := by
  induction v using induction with
  | one v hv =>
    intro c hc
    rw [decimal_of_lt hv, List.mem_singleton] at hc
    exact hc ▸ isDigit_digitChar hv
  | step v hv ih =>
    intro c hc
    rw [decimal_step hv, List.mem_append, List.mem_singleton] at hc
    rcases hc with hc | rfl
    · exact ih c hc
    · exact isDigit_digitChar (by omega)

theorem length_decimal_pos (v : Nat) : 0 < (decimal v).length := by
  rcases Nat.lt_or_ge v 10 with hv | hv
  · rw [decimal_of_lt hv]
    exact Nat.one_pos
  · rw [decimal_step hv, List.length_append]
    exact Nat.succ_pos _

/-- A positive number does not start with the digit zero. -/
theorem decimal_eq_cons (hv : 1 ≤ v) :
    ∃ d l, 1 ≤ d ∧ d < 10 ∧ decimal v = digitChar d :: l := by
  induction v using induction with
  | one v hlt => exact ⟨v, [], hv, hlt, decimal_of_lt hlt⟩
  | step v hge ih =>
    obtain ⟨d, l, h₁, h₂, hl⟩ := ih (by omega)
    exact ⟨d, l ++ [digitChar (v % 10)], h₁, h₂, by rw [decimal_step hge, hl]; rfl⟩

/-- The digits in front of the last `k`. -/
theorem length_decimal_div (h : 10 ^ k ≤ v) :
    (decimal v).length = k + (decimal (v / 10 ^ k)).length := by
  induction k generalizing v with
  | zero => simp
  | succ k ih =>
    have hpow : 10 ≤ 10 ^ (k + 1) := Nat.le_self_pow (Nat.succ_ne_zero k) 10
    have hdiv : 10 ^ k ≤ v / 10 := by
      rw [Nat.le_div_iff_mul_le (by decide), ← Nat.pow_succ]
      exact h
    rw [decimal_step (Nat.le_trans hpow h), List.length_append, ih hdiv, Nat.div_div_eq_div_mul,
      ← Nat.pow_succ', List.length_singleton, Nat.succ_eq_add_one, Nat.add_right_comm]

/-- The number of digits. -/
theorem length_decimal (h₁ : 10 ^ k ≤ v) (h₂ : v < 10 ^ (k + 1)) : (decimal v).length = k + 1 := by
  have hlt : v / 10 ^ k < 10 := by
    rw [Nat.div_lt_iff_lt_mul (Nat.pow_pos (by decide)), ← Nat.pow_succ']
    exact h₂
  rw [length_decimal_div h₁, decimal_of_lt hlt, List.length_singleton]

theorem length_decimal_le (hk : 0 < k) (h : v < 10 ^ k) : (decimal v).length ≤ k := by
  by_cases hv : v = 0
  · rw [hv, decimal_of_lt (by decide)]
    exact hk
  · rw [decimal, if_neg hv, List.length_map, List.length_reverse,
      Nat.digits_length_le_iff (by decide)]
    exact h

/-- **The first digits** are those of the number without its last ones. -/
theorem take_decimal (hpos : 0 < k) (hk : k ≤ (decimal v).length) :
    (decimal v).take k = decimal (v / 10 ^ ((decimal v).length - k)) := by
  induction v using induction with
  | one v hv =>
    have hlen : (decimal v).length = 1 := by rw [decimal_of_lt hv, List.length_singleton]
    rw [List.take_of_length_le (by omega), hlen, Nat.sub_eq_zero_of_le hpos, Nat.pow_zero,
      Nat.div_one]
  | step v hv ih =>
    have hlen : (decimal v).length = (decimal (v / 10)).length + 1 := by
      rw [decimal_step hv, List.length_append, List.length_singleton]
    rcases Nat.lt_or_ge (decimal (v / 10)).length k with hlt | hle
    · rw [List.take_of_length_le (by omega), Nat.sub_eq_zero_of_le (by omega), Nat.pow_zero,
        Nat.div_one]
    · rw [hlen, Nat.succ_sub hle, Nat.pow_succ', ← Nat.div_div_eq_div_mul, ← ih hle,
        decimal_step hv, List.take_append_of_le_length hle]

theorem lt_pow_length_decimal (v : Nat) : v < 10 ^ (decimal v).length := by
  by_cases hv : v = 0
  · rw [hv]
    exact Nat.pow_pos (by decide)
  · rw [decimal, if_neg hv, List.length_map, List.length_reverse]
    exact Nat.lt_base_pow_length_digits (by decide)

/-! ## Reading -/

theorem value_append (l l' : List UInt8) (acc : Nat) :
    value (l ++ l') acc = value l' (value l acc) := List.foldl_append

@[simp] theorem value_nil (acc : Nat) : value [] acc = acc := rfl

theorem value_cons (c : UInt8) (l : List UInt8) (acc : Nat) :
    value (c :: l) acc = value l (acc * 10 + (c.toNat - 48)) := by
  rw [value, List.foldl_cons, value]

/-- Reading more digits does not make the number smaller. -/
theorem le_value (l : List UInt8) (acc : Nat) : acc ≤ value l acc := by
  induction l generalizing acc with
  | nil => exact Nat.le_refl acc
  | cons c l ih =>
    rw [value_cons]
    have := ih (acc * 10 + (c.toNat - 48))
    omega

/-- **Reading the notation of a number gives the number.** -/
theorem value_decimal (v : Nat) : value (decimal v) 0 = v := by
  induction v using induction with
  | one v hv =>
    rw [decimal_of_lt hv, value_cons, toNat_digitChar hv, value_nil]
    omega
  | step v hv ih =>
    rw [decimal_step hv, value_append, ih, value_cons, toNat_digitChar (by omega), value_nil]
    omega

theorem digitChar_of_isDigit {c : UInt8} (h : IsDigit c) : digitChar (c.toNat - 48) = c := by
  apply UInt8.toNat_inj.mp
  unfold IsDigit at h
  rw [toNat_digitChar (by omega)]
  omega

/-- **The notation of a number that is read** is what has been read, if that does not start with
the digit zero. -/
theorem decimal_value {l : List UInt8} {d : UInt8} (h : ∀ c ∈ d :: l, IsDigit c)
    (hd : d ≠ digitChar 0) : decimal (value (d :: l) 0) = d :: l := by
  induction l using List.reverseRecOn with
  | nil =>
    have hdigit := h d (by simp)
    have hlt : d.toNat - 48 < 10 := by
      unfold IsDigit at hdigit
      omega
    rw [value_cons, value_nil, Nat.zero_mul, Nat.zero_add, decimal_of_lt hlt,
      digitChar_of_isDigit hdigit]
  | append_singleton l c ih =>
    have hc := h c (by simp)
    have ih := ih (fun c hc => h c (by
      rcases List.mem_cons.mp hc with rfl | hc
      · exact List.mem_cons_self
      · exact List.mem_cons_of_mem _ (List.mem_append_left _ hc)))
    have hpos : 1 ≤ value (d :: l) 0 := by
      apply Nat.one_le_iff_ne_zero.mpr
      intro hzero
      rw [hzero, decimal_of_lt (by decide)] at ih
      exact hd (List.cons.inj ih).1.symm
    unfold IsDigit at hc
    have hlast : value (d :: (l ++ [c])) 0 = value (d :: l) 0 * 10 + (c.toNat - 48) := by
      rw [← List.cons_append, value_append, value_cons, value_nil]
    have hdiv : value (d :: (l ++ [c])) 0 / 10 = value (d :: l) 0 := by omega
    have hmod : value (d :: (l ++ [c])) 0 % 10 = c.toNat - 48 := by omega
    rw [decimal_step (by omega), hdiv, hmod, ih, digitChar_of_isDigit hc]
    rfl

end Decimal
