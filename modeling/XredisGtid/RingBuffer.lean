import Mathlib.Data.Nat.ModEq
import Mathlib.Data.List.GetD

/-!
# Stretches of a ring

The positions of a ring are those of a list, counted modulo its length.  `Stretch ring j l`
says that `l` is what is read from position `j` on, going round the end of the ring as
often as needed.  A stretch is read in pieces (`Stretch.append`), a piece that does not
reach the end is a slice of the list (`stretch_slice`), and only the length of a stretch
leaves a choice (`Stretch.unique`).
-/
namespace RingBuffer

def Stretch {α : Type} (ring : List α) (j : Nat) (l : List α) : Prop :=
  ∀ i < l.length, ring[(j + i) % ring.length]? = l[i]?

variable {α : Type} {ring l l' : List α} {j k n : Nat}

theorem stretch_nil (ring : List α) (j : Nat) : Stretch ring j [] := by
  intro i hi
  cases hi

/-- A stretch depends on its start only modulo the length of the ring. -/
theorem Stretch.congr (h : Stretch ring j l) (hjk : k % ring.length = j % ring.length) :
    Stretch ring k l := by
  intro i hi
  rw [← h i hi, Nat.add_mod, hjk, ← Nat.add_mod]

theorem Stretch.append (h : Stretch ring j l) (h' : Stretch ring (j + l.length) l') :
    Stretch ring j (l ++ l') := by
  intro i hi
  rw [List.length_append] at hi
  by_cases hl : i < l.length
  · rw [List.getElem?_append_left hl]
    exact h i hl
  · rw [List.getElem?_append_right (by omega), ← h' (i - l.length) (by omega)]
    congr 2
    omega

theorem Stretch.drop (h : Stretch ring j l) (n : Nat) : Stretch ring (j + n) (l.drop n) := by
  intro i hi
  rw [List.length_drop] at hi
  rw [List.getElem?_drop, Nat.add_assoc]
  exact h (n + i) (by omega)

theorem Stretch.take (h : Stretch ring j l) (n : Nat) : Stretch ring j (l.take n) := by
  intro i hi
  rw [List.length_take] at hi
  rw [List.getElem?_take_of_lt (by omega)]
  exact h i (by omega)

/-- **A piece that does not reach the end** is a slice of the list. -/
theorem stretch_slice (h : j + n ≤ ring.length) : Stretch ring j ((ring.drop j).take n) := by
  intro i hi
  rw [List.length_take, List.length_drop] at hi
  rw [List.getElem?_take_of_lt (by omega), List.getElem?_drop, Nat.mod_eq_of_lt (by omega)]

/-- **Two stretches** of one length from one position are the same. -/
theorem Stretch.unique (h : Stretch ring j l) (h' : Stretch ring j l')
    (hlen : l.length = l'.length) : l = l' := by
  refine List.ext_getElem? (fun i => ?_)
  by_cases hi : i < l.length
  · rw [← h i hi, ← h' i (hlen ▸ hi)]
  · rw [List.getElem?_eq_none (by omega), List.getElem?_eq_none (by omega)]

end RingBuffer
