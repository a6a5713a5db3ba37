import Scyclone.Lib.Rounding
import Mathlib.Tactic.FieldSimp
import Mathlib.Tactic.Ring

set_option relaxedAutoImplicit false
set_option autoImplicit false

/-!
# Decimal texts

Numbers written with a fixed number of decimals, and the number that a text begins with. A text is
the list of its characters. Writing rounds to the nearest number with so many decimals, in whatever
way ties are broken; reading back what was written gives that number, whatever text follows it.

## Main definitions

* `Decimal.fixed`, `Decimal.write` — numbers as texts.
* `Decimal.unsigned`, `Decimal.read` — the number that a text begins with.

## Main results

* `Decimal.unsigned_fixed` — a number with a fixed number of decimals is read back.
* `Decimal.abs_read_write_sub_le` — what is read back is half a unit of the last decimal away.
-/

namespace Decimal

/-! ## Writing -/

/-- The digits of `n`, filled up with zeros to the width. -/
def padded (width n : ℕ) : List Char :=
  List.replicate (width - (Nat.toDigits 10 n).length) '0' ++ Nat.toDigits 10 n

/-- The number `m / 10 ^ places` with so many decimals. -/
def fixed (m places : ℕ) : List Char :=
  Nat.toDigits 10 (m / 10 ^ places) ++
    if places = 0 then [] else '.' :: padded places (m % 10 ^ places)

/-- The magnitude of `x` in units of the last of so many decimals, rounded. -/
def units (r : Rounding) (x : ℚ) (places : ℕ) : ℕ := (r.toInt (|x| * 10 ^ places)).toNat

/-- `x` rounded to so many decimals, with a minus sign for negative numbers. -/
def write (r : Rounding) (x : ℚ) (places : ℕ) : List Char :=
  (if x < 0 then ['-'] else []) ++ fixed (units r x places) places

/-! ## Reading -/

/-- The number that a text begins with: digits, and perhaps a point with further digits. It is 0
if there is none. -/
def unsigned (text : List Char) : ℚ :=
  let whole := text.takeWhile Char.isDigit
  match text.dropWhile Char.isDigit with
  | '.' :: rest =>
    let fraction := rest.takeWhile Char.isDigit
    Nat.ofDigitChars 10 (whole ++ fraction) 0 / 10 ^ fraction.length
  | _ => Nat.ofDigitChars 10 whole 0

/-- The number that a text begins with, after white space and with a sign right before it. -/
def read (text : List Char) : ℚ :=
  match text.dropWhile Char.isWhitespace with
  | '-' :: rest => -unsigned rest
  | '+' :: rest => unsigned rest
  | rest => unsigned rest

/-! ## Reading back -/

/-- A text that does not go on with a number. -/
def Ends (rest : List Char) : Prop := ∀ c ∈ rest.head?, c.isDigit = false ∧ c ≠ '.'

lemma Ends.nil : Ends [] := by
  intro c hc
  cases hc

lemma Ends.cons {c : Char} {rest : List Char} (hdigit : c.isDigit = false) (hpoint : c ≠ '.') :
    Ends (c :: rest) := by
  intro d hd
  obtain rfl := Option.some.inj hd
  exact ⟨hdigit, hpoint⟩

/-- Digits end where a character that is none follows. -/
lemma takeWhile_digits {digits rest : List Char} (h : ∀ c ∈ digits, c.isDigit = true)
    (hrest : ∀ c ∈ rest.head?, c.isDigit = false) :
    (digits ++ rest).takeWhile Char.isDigit = digits ∧
      (digits ++ rest).dropWhile Char.isDigit = rest := by
  rw [List.takeWhile_append_of_pos h, List.dropWhile_append_of_pos h]
  cases rest with
  | nil => simp
  | cons c rest => simp [hrest c rfl]

/-- The digits that a number is written with. -/
lemma isDigit_toDigits (n : ℕ) : ∀ c ∈ Nat.toDigits 10 n, c.isDigit = true :=
  fun _ hc => Nat.isDigit_of_mem_toDigits (by omega) (by omega) hc

lemma isDigit_padded (width n : ℕ) : ∀ c ∈ padded width n, c.isDigit = true := by
  intro c hc
  rcases List.mem_append.mp hc with hc | hc
  · rw [List.eq_of_mem_replicate hc]
    decide
  · exact isDigit_toDigits n c hc

/-- The zeros in front do not count. -/
lemma ofDigitChars_padded (width n : ℕ) : Nat.ofDigitChars 10 (padded width n) 0 = n := by
  unfold padded
  rw [Nat.ofDigitChars_append, Nat.ofDigitChars_replicate_zero, Nat.mul_zero,
    Nat.ofDigitChars_ten_toDigits]

lemma length_padded {width n : ℕ} (hwidth : 0 < width) (h : n < 10 ^ width) :
    (padded width n).length = width := by
  have hle : (Nat.toDigits 10 n).length ≤ width :=
    (Nat.length_toDigits_le_iff (by omega) hwidth).mpr h
  unfold padded
  rw [List.length_append, List.length_replicate]
  omega

/-- A text that begins with digits and does not go on with a number. -/
lemma unsigned_digits {digits rest : List Char} (h : ∀ c ∈ digits, c.isDigit = true)
    (hrest : Ends rest) : unsigned (digits ++ rest) = Nat.ofDigitChars 10 digits 0 := by
  obtain ⟨htake, hdrop⟩ := takeWhile_digits h fun c hc => (hrest c hc).1
  unfold unsigned
  rw [htake, hdrop]
  split
  · next heq => exact absurd rfl (hrest '.' rfl).2
  · rfl

/-- A text that begins with digits, a point and further digits. -/
lemma unsigned_point {whole fraction rest : List Char} (hwhole : ∀ c ∈ whole, c.isDigit = true)
    (hfraction : ∀ c ∈ fraction, c.isDigit = true) (hrest : Ends rest) :
    unsigned (whole ++ '.' :: (fraction ++ rest)) =
      Nat.ofDigitChars 10 (whole ++ fraction) 0 / 10 ^ fraction.length := by
  have hpoint : ∀ c ∈ ('.' :: (fraction ++ rest)).head?, c.isDigit = false := by
    intro c hc
    obtain rfl := Option.some.inj hc
    decide
  obtain ⟨htake, hdrop⟩ := takeWhile_digits hwhole hpoint
  obtain ⟨htake', -⟩ := takeWhile_digits hfraction fun c hc => (hrest c hc).1
  unfold unsigned
  rw [htake, hdrop]
  show (Nat.ofDigitChars 10 (whole ++ (fraction ++ rest).takeWhile Char.isDigit) 0 : ℚ) /
    10 ^ ((fraction ++ rest).takeWhile Char.isDigit).length = _
  rw [htake']

/-- A text that does not begin with a number reads as 0. -/
lemma unsigned_of_ends {rest : List Char} (h : Ends rest) : unsigned rest = 0 := by
  have hdigits : unsigned ([] ++ rest) = Nat.ofDigitChars 10 [] 0 :=
    unsigned_digits (fun _ hc => by cases hc) h
  rw [List.nil_append] at hdigits
  rw [hdigits, Nat.ofDigitChars_nil, Nat.cast_zero]

/-- **A number with a fixed number of decimals is read back**, if the text that follows does not go
on with a number.

**Proof sketch.** The digits of the whole part and of the decimals are those of
`m / 10 ^ places` and `m % 10 ^ places`, and together they are the digits of `m`. -/
theorem unsigned_fixed (m places : ℕ) {rest : List Char} (hrest : Ends rest) :
    unsigned (fixed m places ++ rest) = m / 10 ^ places := by
  unfold fixed
  by_cases hplaces : places = 0
  · subst hplaces
    rw [if_pos rfl, List.append_nil, unsigned_digits (isDigit_toDigits _) hrest,
      Nat.ofDigitChars_ten_toDigits]
    simp
  · have hpos : 0 < places := by omega
    have hlt : m % 10 ^ places < 10 ^ places := Nat.mod_lt _ (by positivity)
    have hlength := length_padded hpos hlt
    rw [if_neg hplaces, List.append_assoc, List.cons_append,
      unsigned_point (isDigit_toDigits _) (isDigit_padded _ _) hrest, hlength]
    have hvalue : Nat.ofDigitChars 10
        (Nat.toDigits 10 (m / 10 ^ places) ++ padded places (m % 10 ^ places)) 0 = m := by
      rw [Nat.ofDigitChars_append, Nat.ofDigitChars_ten_toDigits,
        Nat.ofDigitChars_eq_ofDigitChars_zero, ofDigitChars_padded, hlength]
      exact Nat.div_add_mod m (10 ^ places)
    rw [hvalue]

/-- The text of a number begins with a digit. -/
lemma exists_fixed_eq_cons (m places : ℕ) :
    ∃ c rest, fixed m places = c :: rest ∧ c.isDigit = true := by
  have hdigits := isDigit_toDigits (m / 10 ^ places)
  unfold fixed
  cases h : Nat.toDigits 10 (m / 10 ^ places) with
  | nil => exact absurd h Nat.toDigits_ne_nil
  | cons c rest =>
    rw [h] at hdigits
    exact ⟨c, _, rfl, hdigits c (by simp)⟩

/-- A text that begins with a digit has no sign. -/
lemma read_of_isDigit {c : Char} {rest : List Char} (h : c.isDigit = true) :
    read (c :: rest) = unsigned (c :: rest) := by
  have hspace : c.isWhitespace = false := by
    by_contra hspace
    simp only [Bool.not_eq_false, Char.isWhitespace, Bool.or_eq_true, decide_eq_true_eq] at hspace
    rcases hspace with ((rfl | rfl) | rfl) | rfl <;> simp [Char.isDigit] at h
  unfold read
  rw [List.dropWhile_cons_of_neg (by simp [hspace])]
  split
  · next heq =>
    obtain ⟨rfl, -⟩ := List.cons.inj heq
    simp [Char.isDigit] at h
  · next heq =>
    obtain ⟨rfl, -⟩ := List.cons.inj heq
    simp [Char.isDigit] at h
  · rfl

/-- A number with a fixed number of decimals and no sign. -/
lemma read_fixed (m places : ℕ) {rest : List Char} (hrest : Ends rest) :
    read (fixed m places ++ rest) = m / 10 ^ places := by
  obtain ⟨c, text, htext, hdigit⟩ := exists_fixed_eq_cons m places
  rw [← unsigned_fixed m places hrest, htext, List.cons_append, read_of_isDigit hdigit]

/-- What is read back has the sign of the number and its rounded magnitude. -/
lemma read_write (r : Rounding) (x : ℚ) (places : ℕ) {rest : List Char} (hrest : Ends rest) :
    read (write r x places ++ rest) =
      (if x < 0 then -1 else 1) * ((units r x places : ℚ) / 10 ^ places) := by
  unfold write
  by_cases hx : x < 0
  · rw [if_pos hx, if_pos hx, List.append_assoc, List.singleton_append, neg_one_mul,
      ← unsigned_fixed _ places hrest]
    rfl
  · rw [if_neg hx, if_neg hx, List.nil_append, read_fixed _ places hrest, one_mul]

/-- White space in front does not count. -/
lemma read_space (text : List Char) : read (' ' :: text) = read text := by
  unfold read
  rw [List.dropWhile_cons_of_pos (by decide)]

/-- The rounded magnitude is not negative. -/
lemma cast_units (r : Rounding) (x : ℚ) (places : ℕ) :
    (units r x places : ℤ) = r.toInt (|x| * 10 ^ places) := by
  have hnonneg : 0 ≤ r.toInt (|x| * 10 ^ places) := by
    apply r.le_toInt
    have : (0 : ℚ) ≤ |x| * 10 ^ places := by positivity
    push_cast
    linarith
  unfold units
  exact Int.toNat_of_nonneg hnonneg

/-- Zero is read back exactly. -/
lemma read_write_zero (r : Rounding) (places : ℕ) : read (write r 0 places) = 0 := by
  have hle : r.toInt 0 ≤ 0 := r.toInt_le (by norm_num)
  have hge : 0 ≤ r.toInt 0 := r.le_toInt (by norm_num)
  have hunits : units r 0 places = 0 := by
    have hcast := cast_units r 0 places
    rw [abs_zero, zero_mul] at hcast
    omega
  have hread := read_write r 0 places Ends.nil
  rw [List.append_nil] at hread
  rw [hread, hunits, Nat.cast_zero, zero_div, mul_zero]

/-- The rounded magnitude is half a unit away. -/
lemma abs_units_sub_le (r : Rounding) (x : ℚ) (places : ℕ) :
    |(units r x places : ℚ) - |x| * 10 ^ places| ≤ 1 / 2 := by
  have hcast : (units r x places : ℚ) = r.toInt (|x| * 10 ^ places) := by
    rw [← cast_units, Int.cast_natCast]
  rw [hcast]
  exact r.abs_sub_le _

/-- **What is read back is at most half a unit of the last decimal away.** -/
theorem abs_read_write_sub_le (r : Rounding) (x : ℚ) (places : ℕ) {rest : List Char}
    (hrest : Ends rest) : |read (write r x places ++ rest) - x| ≤ 1 / 2 / 10 ^ places := by
  have hunit : (0 : ℚ) < 10 ^ places := by positivity
  have hsub : |(units r x places : ℚ) / 10 ^ places - (|x|)| ≤ 1 / 2 / 10 ^ places := by
    have hdiv : (units r x places : ℚ) / 10 ^ places - |x| =
        ((units r x places : ℚ) - |x| * 10 ^ places) / 10 ^ places := by
      field_simp
    rw [hdiv, abs_div, abs_of_pos hunit]
    exact div_le_div_of_nonneg_right (abs_units_sub_le r x places) hunit.le
  rw [read_write r x places hrest]
  by_cases hx : x < 0
  · have hneg : -1 * ((units r x places : ℚ) / 10 ^ places) - x =
        -((units r x places : ℚ) / 10 ^ places - (|x|)) := by
      rw [abs_of_neg hx]
      ring
    rw [if_pos hx, hneg, abs_neg]
    exact hsub
  · rw [if_neg hx, one_mul]
    rwa [abs_of_nonneg (not_lt.mp hx)] at hsub

end Decimal
