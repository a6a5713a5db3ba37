import Mathlib.Algebra.Order.Round
import Mathlib.Data.Int.Log
import Mathlib.Tactic.Linarith
import Mathlib.Tactic.Ring

set_option relaxedAutoImplicit false
set_option autoImplicit false

/-!
# Floating-point formats

What programs rely on when every operation rounds its result: which results come out as zero. The
numbers are those of an ordered field, and there is no largest one.

## Main definitions

* `FloatFormat` — rounding, and the magnitude up to which a result is rounded to zero.
* `FloatFormat.exact` — exact arithmetic.
* `FloatFormat.single` — single precision with gradual underflow.

## Main results

* `roundEven_eq_zero`, `abs_roundEven_sub_le` — rounding to the nearest integer, ties to even.
* `FloatFormat.abs_single_sub_le` — the error of single precision.
-/

/-! ## Ties to even -/

section RoundEven

variable {K : Type} [Field K] [LinearOrder K] [IsStrictOrderedRing K] [FloorRing K]

/-- The nearest integer, and of two nearest ones the even one. -/
def roundEven (y : K) : ℤ := if Int.fract y = 1 / 2 ∧ Even ⌊y⌋ then ⌊y⌋ else round y

/-- The nearest integer is at most one half away. -/
lemma abs_roundEven_sub_le (y : K) : |(roundEven y : K) - y| ≤ 1 / 2 := by
  unfold roundEven
  split_ifs with h
  · have hy : (⌊y⌋ : K) - y = -(1 / 2) := by rw [← h.1, Int.fract, neg_sub]
    rw [hy, abs_neg, abs_of_pos (by norm_num)]
  · rw [abs_sub_comm]
    exact abs_sub_round y

/-- The nearest integer is zero up to the tie.

**Proof sketch.** Up to the ties it is `round`. Of the two ties next to zero the even neighbour is
zero. -/
lemma roundEven_eq_zero (y : K) : roundEven y = 0 ↔ |y| ≤ 1 / 2 := by
  have hround : round y = 0 ↔ -(1 / 2) ≤ y ∧ y < 1 / 2 := by
    rw [round_eq, Int.floor_eq_zero_iff, Set.mem_Ico]
    constructor <;> rintro ⟨h₁, h₂⟩ <;> constructor <;> linarith
  have hsplit : y = ⌊y⌋ + Int.fract y := (Int.floor_add_fract y).symm
  unfold roundEven
  rw [abs_le]
  split_ifs with h
  · obtain ⟨hfract, heven⟩ := h
    rw [hfract] at hsplit
    constructor
    · intro h0
      rw [h0, Int.cast_zero] at hsplit
      constructor <;> linarith
    · rintro ⟨h₁, h₂⟩
      have hlow : (-1 : K) ≤ ⌊y⌋ := by linarith
      have hhigh : (⌊y⌋ : K) ≤ 0 := by linarith
      have hlow' : -1 ≤ ⌊y⌋ := by exact_mod_cast hlow
      have hhigh' : ⌊y⌋ ≤ 0 := by exact_mod_cast hhigh
      obtain ⟨k, hk⟩ := heven
      omega
  · rw [hround]
    refine and_congr_right fun h₁ => ⟨le_of_lt, fun h₂ => lt_of_le_of_ne h₂ ?_⟩
    rintro rfl
    have hfloor : ⌊(1 / 2 : K)⌋ = 0 := by
      rw [Int.floor_eq_zero_iff, Set.mem_Ico]
      constructor <;> norm_num
    refine h ⟨?_, by rw [hfloor]; exact Even.zero⟩
    rw [Int.fract, hfloor, Int.cast_zero, sub_zero]

end RoundEven

/-! ## Formats -/

/-- A format: every result is rounded to one of its numbers. -/
structure FloatFormat (K : Type) [Field K] [LinearOrder K] where
  round : K → K
  /-- The magnitude up to which a result is rounded to zero. -/
  underflow : K
  round_eq_zero : ∀ x, round x = 0 ↔ |x| ≤ underflow

namespace FloatFormat

variable {K : Type} [Field K] [LinearOrder K] [IsStrictOrderedRing K]

/-- Results are left as they are. -/
def exact : FloatFormat K where
  round x := x
  underflow := 0
  round_eq_zero _ := abs_nonpos_iff.symm

variable [FloorRing K]

/-- The exponent of the last place of a number in single precision. -/
def singleExponent (x : K) : ℤ := max (Int.log 2 |x| - 23) (-149)

/-- Rounding to single precision: 24 bits and gradual underflow. -/
def singleRound (x : K) : K := roundEven (x / 2 ^ singleExponent x) * 2 ^ singleExponent x

/-- A place above the last one is that of the leading bit, less the bits after it. -/
lemma le_abs_of_singleExponent {x : K} (hx : x ≠ 0) (h : singleExponent x ≠ -149) :
    (2 : K) ^ (singleExponent x + 23) ≤ |x| ∧ -149 < singleExponent x := by
  have hle : -149 ≤ singleExponent x := le_max_right _ _
  have hlt : -149 < singleExponent x := lt_of_le_of_ne hle (Ne.symm h)
  have hlog : singleExponent x = Int.log 2 |x| - 23 := by
    unfold singleExponent at hlt ⊢
    omega
  refine ⟨?_, hlt⟩
  rw [hlog, sub_add_cancel]
  exact_mod_cast Int.zpow_log_le_self (b := 2) (by norm_num) (abs_pos.mpr hx)

lemma singleRound_zero : singleRound (0 : K) = 0 := by
  have hround : roundEven (0 : K) = 0 := (roundEven_eq_zero 0).mpr (by norm_num)
  rw [singleRound, zero_div, hround, Int.cast_zero, zero_mul]

/-- **The error of single precision**: half a unit in the last place.

**Proof sketch.** Rounding the quotient by the unit `2 ^ e` to an integer is off by at most one
half. Either `e` is the least exponent, or the number is at least `2 ^ (e + 23)`, so that half a
unit is at most the number divided by `2 ^ 24`. -/
theorem abs_singleRound_sub_le (x : K) :
    |singleRound x - x| ≤ max (|x| / 2 ^ 24) ((2 : K) ^ (-150 : ℤ)) := by
  by_cases hx : x = 0
  · rw [hx, singleRound_zero, sub_zero, abs_zero]
    exact le_max_of_le_right (zpow_pos two_pos _).le
  set e := singleExponent x with he
  have hpos : (0 : K) < 2 ^ e := zpow_pos two_pos _
  have hplace : |singleRound x - x| ≤ 2 ^ e / 2 := by
    have hscaled : singleRound x - x = (roundEven (x / 2 ^ e) - x / 2 ^ e) * 2 ^ e := by
      rw [singleRound, ← he, sub_mul, div_mul_cancel₀ x hpos.ne']
    have hhalf : |(roundEven (x / 2 ^ e) - x / 2 ^ e : K)| * 2 ^ e ≤ 1 / 2 * 2 ^ e :=
      mul_le_mul_of_nonneg_right (abs_roundEven_sub_le _) hpos.le
    rw [hscaled, abs_mul, abs_of_pos hpos]
    exact hhalf.trans_eq (by ring)
  refine hplace.trans ?_
  by_cases hleast : e = -149
  · refine le_max_of_le_right (le_of_eq ?_)
    rw [hleast]
    norm_num
  · refine le_max_of_le_left ?_
    have hlead := (le_abs_of_singleExponent hx hleast).1
    rw [← he, zpow_add₀ (by norm_num)] at hlead
    rw [div_le_div_iff₀ (by norm_num) (by norm_num)]
    norm_num at hlead ⊢
    linarith

/-- A positive number of the format at least loses no more than half of itself. -/
lemma half_le_singleRound {x : K} (h : (2 : K) ^ (-149 : ℤ) ≤ x) : x / 2 ≤ singleRound x := by
  have hx : 0 < x := (zpow_pos two_pos _).trans_le h
  have herror := (abs_le.mp (abs_singleRound_sub_le x)).1
  have hbound : max (|x| / 2 ^ 24) ((2 : K) ^ (-150 : ℤ)) ≤ x / 2 := by
    rw [abs_of_pos hx]
    refine max_le ?_ ?_
    · exact div_le_div_of_nonneg_left hx.le two_pos (by norm_num)
    · rw [le_div_iff₀ two_pos]
      exact le_trans (le_of_eq (by norm_num)) h
  linarith

/-- Single precision. -/
def single : FloatFormat K where
  round := singleRound
  underflow := 2 ^ (-150 : ℤ)
  round_eq_zero x := by
    by_cases hx : x = 0
    · rw [hx, singleRound_zero, abs_zero]
      exact iff_of_true rfl (zpow_pos two_pos _).le
    set e := singleExponent x with he
    have hpos : (0 : K) < 2 ^ e := zpow_pos two_pos _
    have hzero : singleRound x = 0 ↔ |x| ≤ 2 ^ e / 2 := by
      rw [singleRound, ← he, mul_eq_zero_iff_right hpos.ne', Int.cast_eq_zero, roundEven_eq_zero,
        abs_div, abs_of_pos hpos, div_le_iff₀ hpos, one_div, inv_mul_eq_div]
    rw [hzero]
    by_cases hleast : e = -149
    · rw [hleast]
      norm_num
    · obtain ⟨hlead, hlt⟩ := le_abs_of_singleExponent hx hleast
      rw [← he] at hlead hlt
      have hhalf : (2 : K) ^ e / 2 < 2 ^ (e + 23) := by
        rw [zpow_add₀ (by norm_num)]
        norm_num
        linarith
      have hsmall : (2 : K) ^ (-150 : ℤ) < 2 ^ (e + 23) :=
        zpow_lt_zpow_right₀ (by norm_num) (by omega)
      exact iff_of_false (not_le.mpr (hhalf.trans_le hlead)) (not_le.mpr (hsmall.trans_le hlead))

end FloatFormat
