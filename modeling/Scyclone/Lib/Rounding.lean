import Mathlib.Algebra.Order.Round
import Mathlib.Data.Rat.Floor
import Mathlib.Tactic.Linarith

set_option relaxedAutoImplicit false
set_option autoImplicit false

/-!
# Rounding to the nearest integer

What programs rely on when they round: the result is at most one half away. Which of the two nearest
integers a tie is rounded to is left open.

## Main definitions

* `Rounding` — a way to round.
* `Rounding.up` — ties are rounded up.

## Main results

* `Rounding.le_toInt`, `Rounding.toInt_le` — bounds on the rounded number from bounds on the number.
* `Rounding.lt_toInt_iff`, `Rounding.toInt_le_iff` — the exact form, with the tie.
-/

/-- A way to round to the nearest integer. -/
structure Rounding where
  toInt : ℚ → ℤ
  abs_sub_le : ∀ x, |(toInt x : ℚ) - x| ≤ 1 / 2

/-- Ties are rounded up. -/
def Rounding.up : Rounding where
  toInt x := round x
  abs_sub_le x := by
    rw [abs_sub_comm]
    exact abs_sub_round x

/-- A number above `n - 1/2` is not rounded to less than `n`. -/
lemma Rounding.le_toInt (r : Rounding) {x : ℚ} {n : ℤ} (h : (n : ℚ) - 1 / 2 < x) :
    n ≤ r.toInt x := by
  have hround := abs_le.mp (r.abs_sub_le x)
  have hlt : ((n - 1 : ℤ) : ℚ) < r.toInt x := by
    push_cast
    linarith
  have := Int.cast_lt.mp hlt
  omega

/-- A number below `n + 1/2` is not rounded to more than `n`. -/
lemma Rounding.toInt_le (r : Rounding) {x : ℚ} {n : ℤ} (h : x < (n : ℚ) + 1 / 2) :
    r.toInt x ≤ n := by
  have hround := abs_le.mp (r.abs_sub_le x)
  have hlt : (r.toInt x : ℚ) < ((n + 1 : ℤ) : ℚ) := by
    push_cast
    linarith
  have := Int.cast_lt.mp hlt
  omega

/-- A number is rounded to more than `n` if it is above `n + 1/2`, and if it is that tie and the tie
is rounded up. -/
lemma Rounding.lt_toInt_iff (r : Rounding) (x : ℚ) (n : ℤ) :
    n < r.toInt x ↔ (n : ℚ) + 1 / 2 < x ∨ x = n + 1 / 2 ∧ r.toInt (n + 1 / 2) = n + 1 := by
  rcases lt_trichotomy x (n + 1 / 2) with hlt | rfl | hgt
  · have hle : r.toInt x ≤ n := r.toInt_le hlt
    refine iff_of_false (by omega) ?_
    rintro (h | ⟨h, -⟩)
    · exact absurd h hlt.not_gt
    · exact absurd h hlt.ne
  · have hle : r.toInt (n + 1 / 2) ≤ n + 1 := r.toInt_le (by push_cast; linarith)
    constructor
    · intro h
      exact Or.inr ⟨rfl, by omega⟩
    · rintro (h | ⟨-, h⟩)
      · exact absurd h (lt_irrefl _)
      · omega
  · have hge : n + 1 ≤ r.toInt x := r.le_toInt (by push_cast; linarith)
    exact iff_of_true (by omega) (Or.inl hgt)

/-- A number is rounded to at most `n` if it is below `n + 1/2`, and if it is that tie and the tie
is rounded down. -/
lemma Rounding.toInt_le_iff (r : Rounding) (x : ℚ) (n : ℤ) :
    r.toInt x ≤ n ↔ x < (n : ℚ) + 1 / 2 ∨ x = n + 1 / 2 ∧ r.toInt (n + 1 / 2) = n := by
  have hge : n ≤ r.toInt (n + 1 / 2) := r.le_toInt (by linarith)
  have hle : r.toInt (n + 1 / 2) ≤ n + 1 := r.toInt_le (by push_cast; linarith)
  rw [← not_lt, r.lt_toInt_iff x n]
  rcases lt_trichotomy x (n + 1 / 2) with hlt | rfl | hgt
  · refine iff_of_true ?_ (Or.inl hlt)
    rintro (h | ⟨h, -⟩)
    · exact absurd h hlt.not_gt
    · exact absurd h hlt.ne
  · simp only [lt_irrefl, true_and, false_or]
    omega
  · refine iff_of_false (fun h => h (Or.inl hgt)) ?_
    rintro (h | ⟨h, -⟩)
    · exact absurd h hgt.not_gt
    · exact absurd h hgt.ne'
