import Mathlib.Algebra.BigOperators.Group.List.Basic
import Mathlib.Algebra.BigOperators.Ring.List
import Mathlib.Algebra.Order.BigOperators.Group.List
import Mathlib.Analysis.Real.Sqrt
import Scyclone.Lib.WithNan

set_option relaxedAutoImplicit false
set_option autoImplicit false

/-!
# The root mean square

What a function has to promise that gives the level of a list of samples as the root of the mean of
their squares: zero without samples, and NaN if a sample is.

## Main definitions

* `RootMeanSquare` — the laws.
* `realRootMeanSquare` — the function on real numbers.

## Main results

* `RootMeanSquare.map_mul` — a factor that is not negative comes out of the level.
* `RootMeanSquare.level_le` — larger squares give a larger level.
-/

open WithNan

/-- A function is the root mean square. -/
structure RootMeanSquare {K : Type} [Semiring K] [LE K] (rms : List (WithNan K) → WithNan K) :
    Prop where
  nil : rms [] = 0
  numbers : ∀ xs : List K, ∃ level, rms (xs.map number) = number level ∧ 0 ≤ level ∧
    level * level * xs.length = (xs.map fun x => x * x).sum
  of_mem_nan : ∀ xs, nan ∈ xs → rms xs = nan

/-- A list of numbers, or one with a NaN. -/
lemma WithNan.exists_map_number_or_mem_nan {K : Type} (xs : List (WithNan K)) :
    (∃ as : List K, xs = as.map number) ∨ nan ∈ xs := by
  induction xs with
  | nil => exact Or.inl ⟨[], rfl⟩
  | cons x xs ih =>
    cases x with
    | nan => exact Or.inr (List.mem_cons_self ..)
    | number a =>
      rcases ih with ⟨as, rfl⟩ | hmem
      · exact Or.inl ⟨a :: as, rfl⟩
      · exact Or.inr (List.mem_cons_of_mem _ hmem)

namespace RootMeanSquare

variable {K : Type} [Field K] [LinearOrder K] [IsStrictOrderedRing K]
  {rms : List (WithNan K) → WithNan K}

/-- The level is determined by its square. -/
lemma eq_of_mul_self (h : RootMeanSquare rms) {xs : List K} {level : K} (hnonneg : 0 ≤ level)
    (hlevel : level * level * xs.length = (xs.map fun x => x * x).sum) (hxs : xs ≠ []) :
    rms (xs.map number) = number level := by
  obtain ⟨level', hrms, hnonneg', hlevel'⟩ := h.numbers xs
  have hlength : (xs.length : K) ≠ 0 := Nat.cast_ne_zero.mpr (by simpa using hxs)
  have hsquare := mul_right_cancel₀ hlength (hlevel.trans hlevel'.symm)
  rw [hrms, (mul_self_inj hnonneg hnonneg').mp hsquare]

/-- **A factor that is not negative comes out of the level.** -/
theorem map_mul (h : RootMeanSquare rms) {g : K} (hg : 0 ≤ g) (xs : List (WithNan K)) :
    rms (xs.map (number g * ·)) = number g * rms xs := by
  rcases exists_map_number_or_mem_nan xs with ⟨as, rfl⟩ | hmem
  · by_cases hempty : as = []
    · subst hempty
      simp [h.nil, zero_eq]
    · obtain ⟨level, hrms, hnonneg, hlevel⟩ := h.numbers as
      have hmap : (as.map number).map (number g * ·) = (as.map (g * ·)).map number := by
        simp only [List.map_map]
        rfl
      rw [hmap, hrms, number_mul]
      refine h.eq_of_mul_self (mul_nonneg hg hnonneg) ?_ (by simpa using hempty)
      have hsum : ((as.map (g * ·)).map fun x => x * x).sum =
          g * g * (as.map fun x => x * x).sum := by
        rw [List.map_map, ← List.sum_map_mul_left]
        congr 1
        exact List.map_congr_left fun a _ => mul_mul_mul_comm g a g a
      rw [hsum, ← hlevel, List.length_map]
      ring
  · rw [h.of_mem_nan xs hmem, h.of_mem_nan _ (List.mem_map.mpr ⟨nan, hmem, rfl⟩), mul_nan]

/-- **Larger squares give a larger level.** -/
theorem level_le (h : RootMeanSquare rms) {xs ys : List K}
    (hxys : List.Forall₂ (fun x y => x * x ≤ y * y) xs ys) :
    ∃ level level', rms (xs.map number) = number level ∧ rms (ys.map number) = number level' ∧
      level ≤ level' := by
  by_cases hempty : xs = []
  · subst hempty
    obtain rfl := List.forall₂_nil_left_iff.mp hxys
    exact ⟨0, 0, h.nil, h.nil, le_refl 0⟩
  · obtain ⟨level, hrms, hnonneg, hlevel⟩ := h.numbers xs
    obtain ⟨level', hrms', hnonneg', hlevel'⟩ := h.numbers ys
    refine ⟨level, level', hrms, hrms', ?_⟩
    have hlength : (0 : K) < xs.length := Nat.cast_pos.mpr (List.length_pos_of_ne_nil hempty)
    have hsum : (xs.map fun x => x * x).sum ≤ (ys.map fun y => y * y).sum :=
      List.Forall₂.sum_le_sum
        (List.forall₂_map_left_iff.mpr (List.forall₂_map_right_iff.mpr hxys))
    rw [← hlevel, ← hlevel', ← hxys.length_eq] at hsum
    rw [mul_self_le_mul_self_iff hnonneg hnonneg']
    exact le_of_mul_le_mul_right hsum hlength

end RootMeanSquare

/-- The root mean square of real numbers. -/
noncomputable def realRootMeanSquare (xs : List (WithNan ℝ)) : WithNan ℝ :=
  match xs.foldr (fun x sum => x * x + sum) 0 with
  | nan => nan
  | number sum => number (Real.sqrt (sum / xs.length))

/-- It obeys the law of the documented level.

**Proof sketch.** The sum of the squares is a number exactly if all entries are, and then its
quotient by the length is not negative and has a root. -/
lemma rootMeanSquare_real : RootMeanSquare realRootMeanSquare where
  nil := by simp [realRootMeanSquare, zero_eq]
  numbers xs := by
    have hsum : (xs.map number).foldr (fun x sum => x * x + sum) 0 =
        number (xs.map fun x => x * x).sum := by
      induction xs with
      | nil => rfl
      | cons x xs ih =>
        rw [List.map_cons, List.foldr_cons, ih, List.map_cons, List.sum_cons]
        rfl
    have hnonneg : 0 ≤ (xs.map fun x => x * x).sum :=
      List.sum_nonneg fun y hy => by
        obtain ⟨x, -, rfl⟩ := List.mem_map.mp hy
        exact mul_self_nonneg x
    refine ⟨Real.sqrt ((xs.map fun x => x * x).sum / xs.length), ?_, Real.sqrt_nonneg _, ?_⟩
    · rw [realRootMeanSquare, hsum, List.length_map]
    · rw [Real.mul_self_sqrt (div_nonneg hnonneg (Nat.cast_nonneg _))]
      by_cases hempty : xs = []
      · simp [hempty]
      · rw [div_mul_cancel₀]
        exact Nat.cast_ne_zero.mpr (by simpa using hempty)
  of_mem_nan xs hmem := by
    have hsum : xs.foldr (fun x sum => x * x + sum) 0 = nan := by
      induction xs with
      | nil => simp at hmem
      | cons x xs ih =>
        rw [List.foldr_cons]
        rcases List.mem_cons.mp hmem with rfl | hrest
        · rw [nan_mul, nan_add]
        · rw [ih hrest, add_nan]
    rw [realRootMeanSquare, hsum]
