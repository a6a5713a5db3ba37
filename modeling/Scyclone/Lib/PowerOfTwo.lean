import Mathlib.Data.Nat.Log
import Mathlib.Data.Nat.Bitwise
import Mathlib.Tactic.Ring

set_option relaxedAutoImplicit false
set_option autoImplicit false

/-!
# Powers of two by smearing bits

Or-ing a number with its own shifts sets all bits below its highest one. A shift by the number of
bits covered so far doubles that number, so a few shifts cover a whole machine word; one more than
the result is the next power of two.

## Main definitions

* `BitSmear.Smeared` — which bits are set after some of the shifts.
* `BitSmear.smear` — the shifts for a list of distances.

## Main results

* `BitSmear.Smeared.double` — one more shift.
* `BitSmear.Smeared.eq_two_pow_sub_one` — all bits from the highest one down are set.
* `BitSmear.smear_pred_add_one` — the least power of two that is not smaller.
-/

namespace BitSmear

/-- A bit of `y` is set exactly if one of the `n` bits of `x` from it upwards is. -/
def Smeared (n x y : ℕ) : Prop := ∀ i, y.testBit i = true ↔ ∃ j < n, x.testBit (i + j) = true

/-- `v |= v >> s`, for the distances in order. -/
def smear (v : ℕ) (distances : List ℕ) : ℕ := distances.foldl (fun v s => v ||| v >>> s) v

lemma smeared_one (x : ℕ) : Smeared 1 x x := by
  intro i
  constructor
  · exact fun h => ⟨0, Nat.one_pos, h⟩
  · rintro ⟨j, hj, h⟩
    obtain rfl : j = 0 := by omega
    exact h

/-- **A shift by the number of bits that are covered doubles it.** -/
lemma Smeared.double {n x y : ℕ} (h : Smeared n x y) : Smeared (n + n) x (y ||| y >>> n) := by
  intro i
  rw [Nat.testBit_or, Bool.or_eq_true, Nat.testBit_shiftRight, h i, h (n + i)]
  constructor
  · rintro (⟨j, hj, hbit⟩ | ⟨j, hj, hbit⟩)
    · exact ⟨j, by omega, hbit⟩
    · exact ⟨n + j, by omega, by rwa [← Nat.add_assoc, Nat.add_comm i n]⟩
  · rintro ⟨j, hj, hbit⟩
    rcases Nat.lt_or_ge j n with hlt | hge
    · exact Or.inl ⟨j, hlt, hbit⟩
    · refine Or.inr ⟨j - n, by omega, ?_⟩
      have hpos : n + i + (j - n) = i + j := by omega
      rwa [hpos]

/-- Shifts by 1, 2, 4 and so on. -/
lemma smeared_smear (x k : ℕ) : Smeared (2 ^ k) x (smear x ((List.range k).map (2 ^ ·))) := by
  induction k with
  | zero => exact smeared_one x
  | succ k ih =>
    have hdouble := ih.double
    rw [← two_mul, ← pow_succ'] at hdouble
    simpa [smear, List.range_succ] using hdouble

/-- **All bits from the highest one down are set** once a whole word is covered. -/
lemma Smeared.eq_two_pow_sub_one {n x y : ℕ} (h : Smeared n x y) (hx : x ≠ 0) (hlt : x < 2 ^ n) :
    y = 2 ^ (Nat.log 2 x + 1) - 1 := by
  have htop : x.testBit (Nat.log 2 x) = true := by
    rw [← Nat.log2_eq_log_two]
    exact Nat.testBit_log2 hx
  have hlog : Nat.log 2 x < n := Nat.log_lt_of_lt_pow hx hlt
  refine Nat.eq_of_testBit_eq fun i => ?_
  rw [Nat.testBit_two_pow_sub_one, Bool.eq_iff_iff, h i, decide_eq_true_eq]
  constructor
  · rintro ⟨j, -, hbit⟩
    have hle : 2 ^ (i + j) ≤ x := Nat.ge_two_pow_of_testBit hbit
    have := Nat.le_log_of_pow_le Nat.one_lt_two hle
    omega
  · intro hi
    refine ⟨Nat.log 2 x - i, by omega, ?_⟩
    have hpos : i + (Nat.log 2 x - i) = Nat.log 2 x := by omega
    rwa [hpos]

/-- **The least power of two that is not smaller.** -/
theorem smear_pred_add_one {v k : ℕ} (hv : 0 < v) (hlt : v ≤ 2 ^ 2 ^ k) :
    smear (v - 1) ((List.range k).map (2 ^ ·)) + 1 = 2 ^ Nat.clog 2 v := by
  rcases Nat.eq_or_lt_of_le hv with rfl | hone
  · have hzero : Smeared (2 ^ k) 0 (smear 0 ((List.range k).map (2 ^ ·))) := smeared_smear 0 k
    have hnone : smear 0 ((List.range k).map (2 ^ ·)) = 0 := by
      refine Nat.eq_of_testBit_eq fun i => ?_
      rw [Nat.zero_testBit, Bool.eq_false_iff, ne_eq, hzero i]
      simp
    rw [Nat.sub_self, hnone, Nat.clog_one_right, pow_zero, Nat.zero_add]
  · have hsmeared := (smeared_smear (v - 1) k).eq_two_pow_sub_one (by omega) (by omega)
    have hclog : Nat.clog 2 v = Nat.log 2 (v - 1) + 1 := by
      refine le_antisymm ?_ ?_
      · refine (Nat.clog_le_iff_le_pow Nat.one_lt_two).mpr ?_
        have := Nat.lt_pow_succ_log_self Nat.one_lt_two (v - 1)
        omega
      · refine (Nat.lt_clog_iff_pow_lt Nat.one_lt_two).mpr ?_
        have := Nat.pow_log_le_self 2 (x := v - 1) (by omega)
        omega
    rw [hsmeared, hclog]
    exact Nat.sub_add_cancel Nat.one_le_two_pow

end BitSmear
