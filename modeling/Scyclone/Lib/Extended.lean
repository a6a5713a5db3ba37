import Mathlib.Algebra.Order.Field.Basic
import Mathlib.Data.Sign.Basic
import Scyclone.Lib.WithNan

set_option relaxedAutoImplicit false
set_option autoImplicit false

/-!
# Exact numbers with the infinities and NaN

The values of an ordered field, two infinities and NaN, with the arithmetic of floating point but
for its rounding and for the sign of zero: zero is taken as positive where a quotient asks for it.

## Main definitions

* `Extended` — the values, with their arithmetic and comparisons.
* `Extended.abs`, `Extended.stdMax` — `std::abs`, `std::max`.
* `WithNan.toExtended`, `Extended.toWithNan` — to and from the numbers with NaN.

## Main results

* `Extended.finite_mul_posInf_of_neg`, `Extended.zero_mul_posInf` — an infinity times a number.
* `Extended.finite_div_of_ne` — a quotient of numbers.
-/

/-- A number of `K`, an infinity or NaN. -/
inductive Extended (K : Type)
  | nan
  | negInf
  | finite (value : K)
  | posInf
  deriving DecidableEq

namespace Extended

variable {K : Type}

/-! ## Arithmetic -/

/-- The infinity of a sign. Zero has none. -/
def infinity : SignType → Extended K
  | .neg => negInf
  | .zero => nan
  | .pos => posInf

section Ring

variable [Ring K]

instance : Neg (Extended K) :=
  ⟨fun x => match x with
    | nan => nan
    | negInf => posInf
    | finite a => finite (-a)
    | posInf => negInf⟩

instance : Add (Extended K) :=
  ⟨fun x y => match x, y with
    | finite a, finite b => finite (a + b)
    | nan, _ => nan
    | _, nan => nan
    | negInf, posInf => nan
    | posInf, negInf => nan
    | negInf, _ => negInf
    | _, negInf => negInf
    | posInf, _ => posInf
    | _, posInf => posInf⟩

instance : Sub (Extended K) :=
  ⟨fun x y => match x, y with
    | finite a, finite b => finite (a - b)
    | x, y => x + -y⟩

@[simp] lemma finite_add (a b : K) : finite a + finite b = finite (a + b) := rfl

@[simp] lemma nan_add (x : Extended K) : nan + x = nan := by cases x <;> rfl

@[simp] lemma add_nan (x : Extended K) : x + nan = nan := by cases x <;> rfl

@[simp] lemma finite_sub (a b : K) : finite a - finite b = finite (a - b) := rfl

@[simp] lemma nan_sub (x : Extended K) : nan - x = nan := by cases x <;> rfl

@[simp] lemma negInf_sub_finite (a : K) : negInf - finite a = negInf := rfl

@[simp] lemma posInf_sub_finite (a : K) : posInf - finite a = posInf := rfl

@[simp] lemma posInf_add_finite (a : K) : posInf + finite a = posInf := rfl

@[simp] lemma finite_sub_nan (a : K) : finite a - nan = nan := rfl

@[simp] lemma finite_sub_negInf (a : K) : finite a - negInf = posInf := rfl

variable [LinearOrder K]

/-- The sign of a value, that of NaN being zero. -/
def sign : Extended K → SignType
  | nan => 0
  | negInf => -1
  | finite a => SignType.sign a
  | posInf => 1

instance : Mul (Extended K) :=
  ⟨fun x y => match x, y with
    | finite a, finite b => finite (a * b)
    | nan, _ => nan
    | _, nan => nan
    | x, y => infinity (x.sign * y.sign)⟩

@[simp] lemma finite_mul (a b : K) : finite a * finite b = finite (a * b) := rfl

@[simp] lemma nan_mul (x : Extended K) : nan * x = nan := by cases x <;> rfl

@[simp] lemma mul_nan (x : Extended K) : x * nan = nan := by cases x <;> rfl

lemma finite_mul_posInf (a : K) : finite a * posInf = infinity (SignType.sign a) := by
  show infinity (SignType.sign a * 1) = _
  rw [mul_one]

lemma finite_mul_negInf (a : K) : finite a * negInf = infinity (-SignType.sign a) := by
  show infinity (SignType.sign a * -1) = _
  rw [mul_neg_one]

/-- An infinity times zero is no number. -/
@[simp] lemma zero_mul_posInf : finite (0 : K) * posInf = nan := by
  rw [finite_mul_posInf, sign_zero]
  rfl

lemma finite_mul_posInf_of_pos {a : K} (h : 0 < a) : finite a * posInf = posInf := by
  rw [finite_mul_posInf, sign_pos h]
  rfl

lemma finite_mul_posInf_of_neg {a : K} (h : a < 0) : finite a * posInf = negInf := by
  rw [finite_mul_posInf, sign_neg h]
  rfl

lemma posInf_mul_finite_of_pos {a : K} (h : 0 < a) : posInf * finite a = posInf := by
  show infinity (1 * SignType.sign a) = _
  rw [one_mul, sign_pos h]
  rfl

lemma finite_mul_negInf_of_pos {a : K} (h : 0 < a) : finite a * negInf = negInf := by
  rw [finite_mul_negInf, sign_pos h]
  rfl

end Ring

section Field

variable [Field K] [LinearOrder K]

instance : Div (Extended K) :=
  ⟨fun x y => match x, y with
    | finite a, finite b => if b = 0 then infinity (SignType.sign a) else finite (a / b)
    | nan, _ => nan
    | _, nan => nan
    | finite _, _ => finite 0
    | x, finite b => infinity (if b = 0 then x.sign else x.sign * SignType.sign b)
    | _, _ => nan⟩

@[simp] lemma nan_div (x : Extended K) : nan / x = nan := by cases x <;> rfl

/-- A quotient of numbers. -/
@[simp] lemma finite_div_of_ne (a : K) {b : K} (h : b ≠ 0) :
    finite a / finite b = finite (a / b) := if_neg h

@[simp] lemma finite_div_zero (a : K) :
    finite a / finite (0 : K) = infinity (SignType.sign a) := if_pos rfl

lemma posInf_div_of_pos {b : K} (h : 0 < b) : (posInf : Extended K) / finite b = posInf := by
  show infinity (if b = 0 then 1 else 1 * SignType.sign b) = _
  rw [if_neg h.ne', sign_pos h, mul_one]
  rfl

end Field

/-! ## Comparisons -/

section Order

variable [LinearOrder K]

instance : LT (Extended K) :=
  ⟨fun x y => match x, y with
    | finite a, finite b => a < b
    | negInf, finite _ => True
    | negInf, posInf => True
    | finite _, posInf => True
    | _, _ => False⟩

instance : LE (Extended K) :=
  ⟨fun x y => match x, y with
    | finite a, finite b => a ≤ b
    | nan, _ => False
    | _, nan => False
    | negInf, _ => True
    | _, posInf => True
    | _, _ => False⟩

@[simp] lemma finite_lt (a b : K) : finite a < finite b ↔ a < b := Iff.rfl

@[simp] lemma not_nan_lt (x : Extended K) : ¬ nan < x := by cases x <;> exact fun h => h

@[simp] lemma not_lt_nan (x : Extended K) : ¬ x < nan := by cases x <;> exact fun h => h

@[simp] lemma not_lt_negInf (x : Extended K) : ¬ x < negInf := by cases x <;> exact fun h => h

@[simp] lemma negInf_lt_finite (a : K) : negInf < finite a := trivial

@[simp] lemma finite_lt_posInf (a : K) : finite a < posInf := trivial

@[simp] lemma not_posInf_lt (x : Extended K) : ¬ posInf < x := by cases x <;> exact fun h => h

@[simp] lemma finite_le (a b : K) : finite a ≤ finite b ↔ a ≤ b := Iff.rfl

@[simp] lemma not_nan_le (x : Extended K) : ¬ nan ≤ x := by cases x <;> exact fun h => h

@[simp] lemma not_posInf_le_finite (a : K) : ¬ posInf ≤ finite a := fun h => h

instance : DecidableLT (Extended K)
  | finite a, finite b => inferInstanceAs (Decidable (a < b))
  | negInf, finite _ => isTrue trivial
  | negInf, posInf => isTrue trivial
  | finite _, posInf => isTrue trivial
  | nan, _ => isFalse (not_nan_lt _)
  | _, nan => isFalse (not_lt_nan _)
  | _, negInf => isFalse (not_lt_negInf _)
  | posInf, _ => isFalse (not_posInf_lt _)

instance : DecidableLE (Extended K)
  | finite a, finite b => inferInstanceAs (Decidable (a ≤ b))
  | nan, _ => isFalse (not_nan_le _)
  | negInf, negInf => isTrue trivial
  | negInf, finite _ => isTrue trivial
  | negInf, posInf => isTrue trivial
  | finite _, posInf => isTrue trivial
  | posInf, posInf => isTrue trivial
  | negInf, nan => isFalse fun h => h
  | finite _, nan => isFalse fun h => h
  | posInf, nan => isFalse fun h => h
  | finite _, negInf => isFalse fun h => h
  | posInf, negInf => isFalse fun h => h
  | posInf, finite _ => isFalse fun h => h

/-- `std::max (a, b)`: the first argument unless it is less than the second. -/
def stdMax (x y : Extended K) : Extended K := if x < y then y else x

@[simp] lemma stdMax_finite (a b : K) : stdMax (finite a) (finite b) = finite (max a b) := by
  unfold stdMax
  by_cases h : a < b
  · simp [h, max_eq_right h.le]
  · simp [h, max_eq_left (not_lt.mp h)]

@[simp] lemma stdMax_nan (x : Extended K) : stdMax nan x = nan := by simp [stdMax]

@[simp] lemma stdMax_negInf (a : K) : stdMax negInf (finite a) = finite a := by simp [stdMax]

@[simp] lemma stdMax_posInf (x : Extended K) : stdMax posInf x = posInf := by simp [stdMax]

/-- `std::abs`. -/
def abs [AddGroup K] : Extended K → Extended K
  | nan => nan
  | negInf => posInf
  | finite a => finite |a|
  | posInf => posInf

@[simp] lemma abs_finite [AddGroup K] (a : K) : (finite a).abs = finite |a| := rfl

@[simp] lemma abs_nan [AddGroup K] : (nan : Extended K).abs = nan := rfl

@[simp] lemma abs_negInf [AddGroup K] : (negInf : Extended K).abs = posInf := rfl

end Order

end Extended

/-! ## Numbers with NaN -/

/-- The same value. -/
def WithNan.toExtended {K : Type} : WithNan K → Extended K
  | .nan => .nan
  | .number a => .finite a

/-- The value, or NaN for an infinity. -/
def Extended.toWithNan {K : Type} : Extended K → WithNan K
  | .finite a => .number a
  | _ => .nan

@[simp] lemma WithNan.toExtended_number {K : Type} (a : K) :
    (WithNan.number a).toExtended = .finite a := rfl

@[simp] lemma WithNan.toExtended_nan {K : Type} :
    (WithNan.nan : WithNan K).toExtended = .nan := rfl

@[simp] lemma Extended.toWithNan_finite {K : Type} (a : K) :
    (Extended.finite a).toWithNan = .number a := rfl
