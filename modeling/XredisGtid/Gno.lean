import Mathlib.Data.Int.Basic
import Mathlib.Data.Nat.Pairing

/-!
# Machine integers and random draws

`gno_t` is `long long`.  A gno is an `Int`, and where the source adds, subtracts
or accumulates in `long long` and its own checks let the exact result leave 64
bits, the model applies `llong`, the two's complement value the compiled program
computes.  The validity check admits gnos up to `LLONG_MAX`, so `end + 1` is such
a place.

`rand()` is an arbitrary source of numbers, handed to every function that draws
from it; `Rand.sub` gives each of the calls a function makes a source of its own.
-/
namespace XredisGtid

def LLONG_MAX : Int := 9223372036854775807
def LLONG_MIN : Int := -9223372036854775808

/-- The `long long` with the same residue modulo `2 ^ 64`. -/
def llong (x : Int) : Int :=
  (x + 9223372036854775808) % 18446744073709551616 - 9223372036854775808

theorem llong_of_mem {x : Int} (h₁ : LLONG_MIN ≤ x) (h₂ : x ≤ LLONG_MAX) : llong x = x := by
  unfold LLONG_MIN at h₁
  unfold LLONG_MAX at h₂
  unfold llong
  omega

theorem llong_range (x : Int) : LLONG_MIN ≤ llong x ∧ llong x ≤ LLONG_MAX := by
  unfold llong LLONG_MIN LLONG_MAX
  omega

theorem llong_eq_self_iff {x : Int} : llong x = x ↔ LLONG_MIN ≤ x ∧ x ≤ LLONG_MAX :=
  ⟨fun h => h ▸ llong_range x, fun h => llong_of_mem h.1 h.2⟩

/-- Accumulating in `long long` and truncating once give the same residue. -/
theorem llong_add_llong (x y : Int) : llong (llong x + y) = llong (x + y) := by
  unfold llong
  omega

theorem llong_max_add_one : llong (LLONG_MAX + 1) = LLONG_MIN := by decide

/-- The `size_t` with the same residue modulo `2 ^ 64`. -/
def sizeT (x : Int) : Nat := (x % 18446744073709551616).toNat

def GTID_GNO_INITIAL : Int := 1

def gtidIntervalIsValid (start «end» : Int) : Bool :=
  GTID_GNO_INITIAL ≤ start && start ≤ «end»

theorem gtidIntervalIsValid_iff {s e : Int} :
    gtidIntervalIsValid s e = true ↔ 1 ≤ s ∧ s ≤ e := by
  rw [gtidIntervalIsValid, Bool.and_eq_true, decide_eq_true_eq, decide_eq_true_eq,
    GTID_GNO_INITIAL]

/-- What successive draws from `rand()` return. -/
abbrev Rand := Nat → Nat

/-- The draws made by the `k`-th call of a function that makes several. -/
def Rand.sub (rand : Rand) (k : Nat) : Rand := fun n => rand (Nat.pair k n)

end XredisGtid
