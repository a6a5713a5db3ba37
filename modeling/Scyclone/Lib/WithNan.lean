import Mathlib.Algebra.Order.Field.Basic
import Mathlib.Algebra.Order.Group.Abs

set_option relaxedAutoImplicit false
set_option autoImplicit false

/-!
# Exact numbers with NaN

The values of an ordered field and one value that is not a number. Arithmetic with it gives it
again, a comparison with it is false, and so is the comparison with itself that `isnan` rests
on.

A quotient by zero is not a number either. In a program the quotient of a number other than zero is
an infinity there, and `std::min (x / 0, 1)` is then 1; the infinities are not among these values.
So a result that rests on a quotient has its divisor other than zero, as a hypothesis or by its own
proof, or it compares two computations that divide by zero at the same places, for which one value
stands for the other.

## Main definitions

* `WithNan` — the values, with their arithmetic and comparisons.
* `WithNan.abs`, `WithNan.stdMax`, `WithNan.stdMin` — `std::abs`, `std::max`, `std::min`.
* `WithNan.blend` — a weighted mean with a weight that is a number.

## Main results

* `WithNan.blend_eq_nan` — a mean is NaN exactly if one of the values is.
* `WithNan.stdMax_eq_nan` — `std::max` is NaN exactly if its first argument is.
-/

/-- A number of `K` or NaN. -/
inductive WithNan (K : Type)
  | nan
  | number (value : K)
  deriving DecidableEq

namespace WithNan

variable {K : Type}

/-! ## Arithmetic -/

/-- An operation that is NaN where an argument is. -/
def map₂ (f : K → K → K) : WithNan K → WithNan K → WithNan K
  | number a, number b => number (f a b)
  | number _, nan => nan
  | nan, _ => nan

/-- A function that is NaN for NaN. -/
def map (f : K → K) : WithNan K → WithNan K
  | number a => number (f a)
  | nan => nan

@[simp] lemma map_number (f : K → K) (a : K) : (number a).map f = number (f a) := rfl

@[simp] lemma map_nan (f : K → K) : (nan : WithNan K).map f = nan := rfl

instance [Zero K] : Zero (WithNan K) := ⟨number 0⟩
instance [One K] : One (WithNan K) := ⟨number 1⟩
instance [Add K] : Add (WithNan K) := ⟨map₂ (· + ·)⟩
instance [Sub K] : Sub (WithNan K) := ⟨map₂ (· - ·)⟩
instance [Mul K] : Mul (WithNan K) := ⟨map₂ (· * ·)⟩

instance [Zero K] [Div K] [DecidableEq K] : Div (WithNan K) :=
  ⟨fun x y => match x, y with
    | number a, number b => if b = 0 then nan else number (a / b)
    | number _, nan => nan
    | nan, _ => nan⟩

lemma zero_eq [Zero K] : (0 : WithNan K) = number 0 := rfl

lemma one_eq [One K] : (1 : WithNan K) = number 1 := rfl

@[simp] lemma number_add [Add K] (a b : K) : number a + number b = number (a + b) := rfl

@[simp] lemma nan_add [Add K] (x : WithNan K) : nan + x = nan := rfl

@[simp] lemma add_nan [Add K] (x : WithNan K) : x + nan = nan := by cases x <;> rfl

@[simp] lemma number_sub [Sub K] (a b : K) : number a - number b = number (a - b) := rfl

@[simp] lemma nan_sub [Sub K] (x : WithNan K) : nan - x = nan := rfl

@[simp] lemma sub_nan [Sub K] (x : WithNan K) : x - nan = nan := by cases x <;> rfl

@[simp] lemma number_mul [Mul K] (a b : K) : number a * number b = number (a * b) := rfl

@[simp] lemma nan_mul [Mul K] (x : WithNan K) : nan * x = nan := rfl

@[simp] lemma mul_nan [Mul K] (x : WithNan K) : x * nan = nan := by cases x <;> rfl

@[simp] lemma nan_div [Zero K] [Div K] [DecidableEq K] (x : WithNan K) : nan / x = nan := rfl

@[simp] lemma div_nan [Zero K] [Div K] [DecidableEq K] (x : WithNan K) : x / nan = nan := by
  cases x <;> rfl

@[simp] lemma number_div_of_ne [Zero K] [Div K] [DecidableEq K] (a : K) {b : K} (h : b ≠ 0) :
    number a / number b = number (a / b) := if_neg h

@[simp] lemma number_div_zero [Zero K] [Div K] [DecidableEq K] (a : K) :
    number a / number 0 = nan := if_pos rfl

/-! ## Comparisons -/

instance [LT K] : LT (WithNan K) :=
  ⟨fun x y => match x, y with
    | number a, number b => a < b
    | number _, nan => False
    | nan, _ => False⟩

instance [LE K] : LE (WithNan K) :=
  ⟨fun x y => match x, y with
    | number a, number b => a ≤ b
    | number _, nan => False
    | nan, _ => False⟩

@[simp] lemma number_lt [LT K] (a b : K) : number a < number b ↔ a < b := Iff.rfl

@[simp] lemma not_nan_lt [LT K] (x : WithNan K) : ¬ nan < x := fun h => h

@[simp] lemma not_lt_nan [LT K] (x : WithNan K) : ¬ x < nan := by
  cases x <;> exact fun h => h

@[simp] lemma number_le [LE K] (a b : K) : number a ≤ number b ↔ a ≤ b := Iff.rfl

@[simp] lemma not_nan_le [LE K] (x : WithNan K) : ¬ nan ≤ x := fun h => h

@[simp] lemma not_le_nan [LE K] (x : WithNan K) : ¬ x ≤ nan := by
  cases x <;> exact fun h => h

instance [LT K] [DecidableLT K] : DecidableLT (WithNan K)
  | number a, number b => inferInstanceAs (Decidable (a < b))
  | number _, nan => isFalse fun h => h
  | nan, number _ => isFalse fun h => h
  | nan, nan => isFalse fun h => h

instance [LE K] [DecidableLE K] : DecidableLE (WithNan K)
  | number a, number b => inferInstanceAs (Decidable (a ≤ b))
  | number _, nan => isFalse fun h => h
  | nan, number _ => isFalse fun h => h
  | nan, nan => isFalse fun h => h

/-- The test `isnan`. -/
def isNan : WithNan K → Bool
  | nan => true
  | number _ => false

@[simp] lemma isNan_nan : (nan : WithNan K).isNan = true := rfl

@[simp] lemma isNan_number (a : K) : (number a).isNan = false := rfl

/-- A value that is not NaN is a number. -/
lemma exists_number_of_ne_nan {x : WithNan K} (h : x ≠ nan) : ∃ a, x = number a := by
  cases x with
  | nan => exact absurd rfl h
  | number a => exact ⟨a, rfl⟩

/-! ## Functions of the C++ library -/

section Order

variable [LinearOrder K]

/-- `std::max (a, b)`: the first argument unless it is less than the second. -/
def stdMax (x y : WithNan K) : WithNan K := if x < y then y else x

/-- `std::min (a, b)`: the first argument unless the second is less. -/
def stdMin (x y : WithNan K) : WithNan K := if y < x then y else x

@[simp] lemma stdMax_number (a b : K) : stdMax (number a) (number b) = number (max a b) := by
  unfold stdMax
  by_cases h : a < b
  · simp [h, max_eq_right h.le]
  · simp [h, max_eq_left (not_lt.mp h)]

@[simp] lemma stdMin_number (a b : K) : stdMin (number a) (number b) = number (min a b) := by
  unfold stdMin
  by_cases h : b < a
  · simp [h, min_eq_right h.le]
  · simp [h, min_eq_left (not_lt.mp h)]

@[simp] lemma stdMin_nan_left (x : WithNan K) : stdMin nan x = nan := by simp [stdMin]

/-- `std::max` passes a NaN on only in its first argument. -/
lemma stdMax_eq_nan {x y : WithNan K} : stdMax x y = nan ↔ x = nan := by
  unfold stdMax
  cases x with
  | nan => simp
  | number a =>
    cases y with
    | nan => simp
    | number b =>
      by_cases h : a < b
      · simp [h]
      · simp [h]

/-- `std::abs`. -/
def abs [AddGroup K] : WithNan K → WithNan K
  | nan => nan
  | number a => number |a|

@[simp] lemma abs_nan [AddGroup K] : (nan : WithNan K).abs = nan := rfl

@[simp] lemma abs_number [AddGroup K] (a : K) : (number a).abs = number |a| := rfl

@[simp] lemma abs_eq_nan [AddGroup K] {x : WithNan K} : x.abs = nan ↔ x = nan := by
  cases x <;> simp

end Order

section Mean

variable [Ring K]

/-- The mean of two values with the weights `w` and `1 - w`. -/
def blend (w : K) (x y : WithNan K) : WithNan K := number w * x + number (1 - w) * y

@[simp] lemma blend_number (w a b : K) :
    blend w (number a) (number b) = number (w * a + (1 - w) * b) := rfl

@[simp] lemma blend_eq_nan {w : K} {x y : WithNan K} : blend w x y = nan ↔ x = nan ∨ y = nan := by
  unfold blend
  cases x <;> cases y <;> simp

end Mean

end WithNan
