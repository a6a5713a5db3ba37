import Scyclone.Lib.Decimal
import Scyclone.Plugin.PluginParameters

set_option relaxedAutoImplicit false
set_option autoImplicit false

/-!
# The texts of the parameters

The attributes of `PluginParameters.h` that turn the value of a parameter into a text and the text
back into a value. Each is a pair of separate functions, and not every pair belongs together: the
text of a gain has a space between the sign and the number, `Auto` is no number, and a whole number
of seconds is read as milliseconds.

`juce::String (x, n)` and `getFloatValue` are `Decimal.write` and `Decimal.read`.

## Main definitions

* `AudioParameterFloatAttributes`, `msAttributes`, …, `fadeAttributes` — the pairs of functions.
* `ParameterId.attributes` — the parameters that are declared with one of them.
* `ParameterId.ReadsBack` — a value is read back from its text.
* `ParameterId.TextKept` — the values that are.

## Main results

* `parameter_text_reads_back_iff` — the round trip, for every parameter and value.
-/

open Decimal

/-- The two functions of `juce::AudioParameterFloatAttributes`. -/
structure AudioParameterFloatAttributes where
  stringFromValue : ℚ → List Char
  valueFromString : List Char → ℚ

/-- `static_cast<int>`, towards zero. -/
def staticCastInt (x : ℚ) : ℤ := if x < 0 then ⌈x⌉ else ⌊x⌋

/-- `juce::String` of an `int`. -/
def stringOfInt (n : ℤ) : List Char := (if n < 0 then ['-'] else []) ++ Nat.toDigits 10 n.natAbs

section Attributes

variable (r : Rounding)

/-- `ms_attributes`. -/
def msAttributes : AudioParameterFloatAttributes where
  stringFromValue x :=
    if x < 1 then write r (x * 1000) 0 ++ " ms".toList
    else write r x 1 ++ " sec".toList
  valueFromString x :=
    let value := read x
    if value ≠ staticCastInt value ∧ value ≤ 2 then value else value / 1000

/-- One decimal, with the unit in the label. -/
def oneDecimalAttributes : AudioParameterFloatAttributes where
  stringFromValue x := write r x 1
  valueFromString x := read x

/-- `semitones_attributes`. -/
def semitonesAttributes : AudioParameterFloatAttributes := oneDecimalAttributes r

/-- `dB_attributes`. -/
def dBAttributes : AudioParameterFloatAttributes := oneDecimalAttributes r

/-- `ratio_attributes`. -/
def ratioAttributes : AudioParameterFloatAttributes := oneDecimalAttributes r

/-- `gain_attributes`. -/
def gainAttributes : AudioParameterFloatAttributes where
  stringFromValue x :=
    let sign := if 0 < x then "+ ".toList else if x < 0 then "- ".toList else " ".toList
    sign ++ write r |x| 1
  valueFromString x := read x

/-- `makeup_attributes`. -/
def makeupAttributes : AudioParameterFloatAttributes where
  stringFromValue x := if x < 0 then "Auto".toList else write r x 1 ++ " dB".toList
  valueFromString x := read x

/-- `percentage_attributes`. -/
def percentageAttributes : AudioParameterFloatAttributes where
  stringFromValue x := write r (x * 100) 0
  valueFromString x := read x / 100

/-- `fade_attributes`. -/
def fadeAttributes : AudioParameterFloatAttributes where
  stringFromValue x :=
    let source2 := (1 - x) * 100
    let source1 := x * 100
    stringOfInt (staticCastInt source1) ++ " / ".toList ++ stringOfInt (staticCastInt source2)
  valueFromString x := read x / 100

end Attributes

namespace ParameterId

/-- The attributes that `createParameterLayout` declares a parameter with. The interval and the size
of the grains have a text but no function back, the transient shapers and the switches neither. -/
def attributes (r : Rounding) : ParameterId → Option AudioParameterFloatAttributes
  | .inputGain | .outputGain => some (gainAttributes r)
  | .tranAttackTime _ => some (msAttributes r)
  | .filter _ | .grainMix _ | .compDryWet | .dryWet => some (percentageAttributes r)
  | .grainPitch _ => some (semitonesAttributes r)
  | .fade => some fadeAttributes
  | .compThreshold => some (dBAttributes r)
  | .compRatio => some (ratioAttributes r)
  | .compMakeupgain => some (makeupAttributes r)
  | .tranShaper _ | .select _ | .grainOnOff _ | .onOff _ | .grainInterval _ | .grainSize _ => none

/-- One unit of the last digit that the text of a value displays. -/
def lastDigit : ParameterId → ℚ → ℚ
  | .tranAttackTime _, v => if v < 1 then 1 / 1000 else 1 / 10
  | .filter _, _ | .grainMix _, _ | .compDryWet, _ | .dryWet, _ | .fade, _ => 1 / 100
  | _, _ => 1 / 10

/-- The value is read back from its text, up to one unit of the last digit; the value that stands
for the automatic make-up gain is itself. -/
structure ReadsBack (id : ParameterId) (a : AudioParameterFloatAttributes) (v : ℚ) : Prop where
  within : |a.valueFromString (a.stringFromValue v) - v| ≤ id.lastDigit v
  auto : id = .compMakeupgain → v = -1 / 10 → a.valueFromString (a.stringFromValue v) = v

/-- The values that are read back. Between 1 and 2 seconds, the text must not be that of a whole
number of seconds; the two ties are rounded as `r` has it. -/
def TextKept (r : Rounding) : ParameterId → ℚ → Prop
  | .inputGain, v | .outputGain, v => |v| ≤ 1 / 10
  | .compMakeupgain, v => v ≠ -1 / 10
  | .tranAttackTime _, v =>
    v < 1 ∨ (21 / 20 < v ∨ v = 21 / 20 ∧ r.toInt (21 / 2) = 11) ∧
      (v < 39 / 20 ∨ v = 39 / 20 ∧ r.toInt (39 / 2) = 19)
  | _, _ => True

end ParameterId

/-! ## Each pair of functions -/

lemma staticCastInt_natCast (n : ℕ) : staticCastInt n = n := by
  have h : ¬ ((n : ℚ) < 0) := not_lt.mpr (Nat.cast_nonneg n)
  unfold staticCastInt
  rw [if_neg h, Int.floor_natCast]

/-- A number that is not negative loses less than 1. -/
lemma staticCastInt_of_nonneg {x : ℚ} (h : 0 ≤ x) :
    0 ≤ staticCastInt x ∧ (staticCastInt x : ℚ) ≤ x ∧ x < staticCastInt x + 1 := by
  unfold staticCastInt
  rw [if_neg (not_lt.mpr h)]
  exact ⟨Int.floor_nonneg.mpr h, Int.floor_le x, Int.lt_floor_add_one x⟩

/-- The text of an `int` that is not negative. -/
lemma read_stringOfInt {n : ℤ} (h : 0 ≤ n) {rest : List Char} (hrest : Ends rest) :
    read (stringOfInt n ++ rest) = n := by
  have hfixed : stringOfInt n = fixed n.natAbs 0 := by
    unfold stringOfInt fixed
    rw [if_neg (not_lt.mpr h), if_pos rfl, List.nil_append, List.append_nil, Nat.pow_zero,
      Nat.div_one]
  have hcast : ((n.natAbs : ℕ) : ℚ) = n := by
    rw [← Int.cast_natCast, Int.natAbs_of_nonneg h]
  rw [hfixed, read_fixed _ _ hrest, hcast, pow_zero, div_one]

/-- One decimal is read back. -/
lemma oneDecimal_within (r : Rounding) (v : ℚ) {rest : List Char} (hrest : Ends rest) :
    |read (write r v 1 ++ rest) - v| ≤ 1 / 10 :=
  (abs_read_write_sub_le r v 1 hrest).trans (by norm_num)

/-- A percentage is read back. -/
lemma percentageAttributes_within (r : Rounding) (v : ℚ) :
    |(percentageAttributes r).valueFromString ((percentageAttributes r).stringFromValue v) - v| ≤
      1 / 100 := by
  have hread := abs_le.mp (abs_read_write_sub_le r (v * 100) 0 Ends.nil)
  rw [List.append_nil, pow_zero, div_one] at hread
  show |read (write r (v * 100) 0) / 100 - v| ≤ 1 / 100
  rw [abs_le]
  constructor <;> linarith [hread.1, hread.2]

/-- A fade is read back: the number up to the first space. -/
lemma fadeAttributes_within {v : ℚ} (hv : 0 ≤ v) :
    |fadeAttributes.valueFromString (fadeAttributes.stringFromValue v) - v| ≤ 1 / 100 := by
  obtain ⟨hnonneg, hle, hlt⟩ := staticCastInt_of_nonneg (x := v * 100) (by linarith)
  have hends : Ends (" / ".toList ++ stringOfInt (staticCastInt ((1 - v) * 100))) :=
    Ends.cons (by decide) (by decide)
  show |read (stringOfInt (staticCastInt (v * 100)) ++ " / ".toList ++
    stringOfInt (staticCastInt ((1 - v) * 100))) / 100 - v| ≤ 1 / 100
  rw [List.append_assoc, read_stringOfInt hnonneg hends, abs_le]
  constructor <;> linarith

/-- **The text of a gain reads as 0**: after the sign there is a space and no number. -/
lemma gainAttributes_reads_zero (r : Rounding) (v : ℚ) :
    (gainAttributes r).valueFromString ((gainAttributes r).stringFromValue v) = 0 := by
  have hspace : unsigned (' ' :: write r |v| 1) = 0 :=
    unsigned_of_ends (Ends.cons (by decide) (by decide))
  rcases lt_trichotomy v 0 with hneg | rfl | hpos
  · show read ((if 0 < v then "+ ".toList else if v < 0 then "- ".toList else " ".toList) ++
      write r |v| 1) = 0
    rw [if_neg hneg.not_gt, if_pos hneg]
    show -unsigned (' ' :: write r |v| 1) = 0
    rw [hspace, neg_zero]
  · show read (' ' :: write r |0| 1) = 0
    rw [abs_zero, read_space, read_write_zero]
  · show read ((if 0 < v then "+ ".toList else if v < 0 then "- ".toList else " ".toList) ++
      write r |v| 1) = 0
    rw [if_pos hpos]
    exact hspace

/-- The text of a make-up gain is read back unless it is `Auto`, which reads as 0. -/
lemma makeupAttributes_read (r : Rounding) (v : ℚ) :
    (v < 0 → (makeupAttributes r).valueFromString ((makeupAttributes r).stringFromValue v) = 0) ∧
      (0 ≤ v → |(makeupAttributes r).valueFromString ((makeupAttributes r).stringFromValue v) - v| ≤
        1 / 10) := by
  constructor
  · intro hv
    show read (if v < 0 then "Auto".toList else write r v 1 ++ " dB".toList) = 0
    rw [if_pos hv]
    show unsigned ('A' :: "uto".toList) = 0
    exact unsigned_of_ends (Ends.cons (by decide) (by decide))
  · intro hv
    show |read (if v < 0 then "Auto".toList else write r v 1 ++ " dB".toList) - v| ≤ 1 / 10
    rw [if_neg (not_lt.mpr hv)]
    exact oneDecimal_within r v (Ends.cons (by decide) (by decide))

/-- Milliseconds are whole numbers and are read back. -/
lemma msAttributes_within_of_lt {v : ℚ} (r : Rounding) (hlow : 0 ≤ v) (hv : v < 1) :
    |(msAttributes r).valueFromString ((msAttributes r).stringFromValue v) - v| ≤ 1 / 1000 := by
  have hends : Ends " ms".toList := Ends.cons (by decide) (by decide)
  have hread := abs_le.mp (abs_read_write_sub_le r (v * 1000) 0 hends)
  have hwhole : read (write r (v * 1000) 0 ++ " ms".toList) = units r (v * 1000) 0 := by
    rw [read_write r _ _ hends, if_neg (by linarith), pow_zero, div_one, one_mul]
  rw [hwhole, pow_zero, div_one] at hread
  show |(let value := read (if v < 1 then write r (v * 1000) 0 ++ " ms".toList
      else write r v 1 ++ " sec".toList)
    if value ≠ staticCastInt value ∧ value ≤ 2 then value else value / 1000) - v| ≤ 1 / 1000
  rw [if_pos hv, hwhole]
  dsimp only
  rw [staticCastInt_natCast, Int.cast_natCast, if_neg fun h => h.1 rfl, abs_le]
  constructor <;> linarith [hread.1, hread.2]

/-- The tenths of a second that are written. -/
lemma cast_units_seconds (r : Rounding) {v : ℚ} (hlow : 1 ≤ v) :
    (units r v 1 : ℤ) = r.toInt (v * 10) := by
  rw [cast_units, abs_of_nonneg (by linarith), pow_one]

lemma units_bounds (r : Rounding) {v : ℚ} (hlow : 1 ≤ v) (hhigh : v ≤ 2) :
    10 ≤ units r v 1 ∧ units r v 1 ≤ 20 := by
  have hcast := cast_units_seconds r hlow
  have hge : 10 ≤ r.toInt (v * 10) := r.le_toInt (by push_cast; linarith)
  have hle : r.toInt (v * 10) ≤ 20 := r.toInt_le (by push_cast; linarith)
  omega

/-- When the text is not that of 1 second. -/
lemma units_ne_ten_iff (r : Rounding) {v : ℚ} (hlow : 1 ≤ v) (hhigh : v ≤ 2) :
    units r v 1 ≠ 10 ↔ 21 / 20 < v ∨ v = 21 / 20 ∧ r.toInt (21 / 2) = 11 := by
  have hbounds := units_bounds r hlow hhigh
  have hcast := cast_units_seconds r hlow
  have htie : (((10 : ℤ) : ℚ) + 1 / 2) = 21 / 2 := by norm_num
  have hround := r.lt_toInt_iff (v * 10) 10
  rw [htie] at hround
  have hlt : 21 / 2 < v * 10 ↔ 21 / 20 < v := by constructor <;> intro h <;> linarith
  have heq : v * 10 = 21 / 2 ↔ v = 21 / 20 := by constructor <;> intro h <;> linarith
  rw [hlt, heq] at hround
  rw [show r.toInt (21 / 2) = 11 ↔ r.toInt (21 / 2) = 10 + 1 from Iff.rfl, ← hround]
  omega

/-- When the text is not that of 2 seconds. -/
lemma units_ne_twenty_iff (r : Rounding) {v : ℚ} (hlow : 1 ≤ v) (hhigh : v ≤ 2) :
    units r v 1 ≠ 20 ↔ v < 39 / 20 ∨ v = 39 / 20 ∧ r.toInt (39 / 2) = 19 := by
  have hbounds := units_bounds r hlow hhigh
  have hcast := cast_units_seconds r hlow
  have htie : (((19 : ℤ) : ℚ) + 1 / 2) = 39 / 2 := by norm_num
  have hround := r.toInt_le_iff (v * 10) 19
  rw [htie] at hround
  have hlt : v * 10 < 39 / 2 ↔ v < 39 / 20 := by constructor <;> intro h <;> linarith
  have heq : v * 10 = 39 / 2 ↔ v = 39 / 20 := by constructor <;> intro h <;> linarith
  rw [hlt, heq] at hround
  rw [← hround]
  omega

/-- A whole number of seconds is read as so many milliseconds. -/
lemma valueFromString_of_natCast (r : Rounding) {text : List Char} {n : ℕ} (h : read text = n) :
    (msAttributes r).valueFromString text = n / 1000 := by
  show (if read text ≠ staticCastInt (read text) ∧ read text ≤ 2 then read text
    else read text / 1000) = n / 1000
  rw [h, staticCastInt_natCast, Int.cast_natCast, if_neg fun h => h.1 rfl]

/-- A number of seconds with a decimal is read as seconds. -/
lemma valueFromString_of_lt (r : Rounding) {text : List Char} (hlow : 1 < read text)
    (hhigh : read text < 2) : (msAttributes r).valueFromString text = read text := by
  have hcast : staticCastInt (read text) = 1 := by
    obtain ⟨-, hle, hlt⟩ := staticCastInt_of_nonneg (x := read text) (by linarith)
    have hone : ((staticCastInt (read text) : ℤ) : ℚ) < ((2 : ℤ) : ℚ) := by
      push_cast
      linarith
    have hzero : ((0 : ℤ) : ℚ) < ((staticCastInt (read text) : ℤ) : ℚ) := by
      push_cast
      linarith
    have := Int.cast_lt.mp hone
    have := Int.cast_lt.mp hzero
    omega
  show (if read text ≠ staticCastInt (read text) ∧ read text ≤ 2 then read text
    else read text / 1000) = read text
  rw [hcast, Int.cast_one, if_pos ⟨hlow.ne', hhigh.le⟩]

/-- **Seconds are read back unless their text is that of a whole number of seconds.**

**Proof sketch.** The text has one decimal. A whole number of seconds is read as that many
milliseconds, which is far away; any other text is read as seconds, within half a unit of its last
place. -/
lemma msAttributes_within_iff (r : Rounding) {v : ℚ} (hlow : 1 ≤ v) (hhigh : v ≤ 2) :
    |(msAttributes r).valueFromString ((msAttributes r).stringFromValue v) - v| ≤ 1 / 10 ↔
      units r v 1 ≠ 10 ∧ units r v 1 ≠ 20 := by
  have hends : Ends " sec".toList := Ends.cons (by decide) (by decide)
  have htext : (msAttributes r).stringFromValue v = write r v 1 ++ " sec".toList :=
    if_neg (not_lt.mpr hlow)
  have hread : read (write r v 1 ++ " sec".toList) = units r v 1 / 10 := by
    rw [read_write r v 1 hends, if_neg (by linarith), one_mul, pow_one]
  obtain ⟨hten, htwenty⟩ := units_bounds r hlow hhigh
  rw [htext]
  by_cases hk : units r v 1 = 10 ∨ units r v 1 = 20
  · -- the text is `1.0 sec` or `2.0 sec`
    obtain ⟨n, hn, hn2⟩ : ∃ n : ℕ, units r v 1 = n * 10 ∧ n ≤ 2 := by
      rcases hk with hk | hk
      · exact ⟨1, by omega, by omega⟩
      · exact ⟨2, by omega, by omega⟩
    have hwhole : read (write r v 1 ++ " sec".toList) = n := by
      rw [hread, hn]
      push_cast
      ring
    have hcast : (n : ℚ) ≤ 2 := by exact_mod_cast hn2
    refine iff_of_false ?_ (by omega)
    rw [valueFromString_of_natCast r hwhole, abs_le]
    rintro ⟨h, -⟩
    linarith
  · have hlt : 10 < units r v 1 ∧ units r v 1 < 20 := by omega
    have h10 : (10 : ℚ) < units r v 1 := by exact_mod_cast hlt.1
    have h20 : (units r v 1 : ℚ) < 20 := by exact_mod_cast hlt.2
    refine iff_of_true ?_ (by omega)
    rw [valueFromString_of_lt r (by rw [hread]; linarith) (by rw [hread]; linarith)]
    exact oneDecimal_within r v hends

/-! ## Every parameter -/

namespace ParameterId

/-- A parameter other than the make-up gain has no value that stands for anything. -/
lemma readsBack_iff_within {id : ParameterId} (hid : id ≠ .compMakeupgain)
    (a : AudioParameterFloatAttributes) (v : ℚ) :
    id.ReadsBack a v ↔ |a.valueFromString (a.stringFromValue v) - v| ≤ id.lastDigit v :=
  ⟨fun h => h.within, fun h => ⟨h, fun heq => absurd heq hid⟩⟩

/-- A gain. -/
lemma abs_gain_sub_le_iff (r : Rounding) (v : ℚ) :
    |(gainAttributes r).valueFromString ((gainAttributes r).stringFromValue v) - v| ≤ 1 / 10 ↔
      |v| ≤ 1 / 10 := by
  rw [gainAttributes_reads_zero, zero_sub, abs_neg]

/-- An attack time. -/
lemma tranAttackTime_readsBack_iff (r : Rounding) (n : NetworkId) {v : ℚ} (hlow : 0 ≤ v)
    (hhigh : v ≤ 2) :
    (ParameterId.tranAttackTime n).ReadsBack (msAttributes r) v ↔
      TextKept r (.tranAttackTime n) v := by
  rw [readsBack_iff_within (by simp), lastDigit]
  by_cases hone : v < 1
  · rw [if_pos hone]
    exact iff_of_true (msAttributes_within_of_lt r hlow hone) (Or.inl hone)
  · have hge : 1 ≤ v := not_lt.mp hone
    rw [if_neg hone, msAttributes_within_iff r hge hhigh, units_ne_ten_iff r hge hhigh,
      units_ne_twenty_iff r hge hhigh]
    exact (or_iff_right hone).symm

/-- The make-up gain. -/
lemma compMakeupgain_readsBack_iff (r : Rounding) {v : ℚ} (hlow : -1 / 10 ≤ v) :
    ParameterId.compMakeupgain.ReadsBack (makeupAttributes r) v ↔ v ≠ -1 / 10 := by
  obtain ⟨hneg, hnonneg⟩ := makeupAttributes_read r v
  constructor
  · rintro ⟨-, hauto⟩ rfl
    rw [hneg (by norm_num)] at hauto
    exact absurd (hauto rfl rfl) (by norm_num)
  · intro h
    refine ⟨?_, fun _ heq => absurd heq h⟩
    show _ ≤ 1 / 10
    by_cases hv : v < 0
    · rw [hneg hv, zero_sub, abs_neg, abs_of_neg hv]
      linarith
    · exact hnonneg (not_lt.mp hv)

end ParameterId

/-- **Which values are read back.** A parameter is declared with one of the pairs of functions, and
a value lies in its range. Then the value is read back from its text up to one unit of the last
digit, and the make-up gain that stands for `Auto` is itself, exactly if it is one of
`ParameterId.TextKept`: a gain of at most 0.1 dB, a make-up gain other than the one that stands for
`Auto`, an attack time whose text is not `1.0 sec` or `2.0 sec`, and any other value.

**Proof sketch.** What `String (x, n)` writes is read back up to half a unit, with any text behind
it that is no number. The exceptions are texts that do not begin with a number, which read as 0, and
whole numbers of seconds, which are read as milliseconds. -/
theorem parameter_text_reads_back_iff (r : Rounding) (id : ParameterId)
    {a : AudioParameterFloatAttributes} (ha : id.attributes r = some a) {v : ℚ}
    (hv : id.range.contains v = true) : id.ReadsBack a v ↔ id.TextKept r v := by
  have hrange : id.range.rangeStart ≤ v ∧ v ≤ id.range.rangeEnd := by
    simpa [NormalisableRange.contains] using hv
  cases id with
  | inputGain | outputGain =>
    obtain rfl := Option.some.inj ha
    rw [ParameterId.readsBack_iff_within (by simp)]
    exact ParameterId.abs_gain_sub_le_iff r v
  | tranAttackTime n =>
    obtain rfl := Option.some.inj ha
    have hlow : 0 ≤ v := le_trans (by norm_num [ParameterId.range]) hrange.1
    exact ParameterId.tranAttackTime_readsBack_iff r n hlow hrange.2
  | compMakeupgain =>
    obtain rfl := Option.some.inj ha
    exact ParameterId.compMakeupgain_readsBack_iff r hrange.1
  | filter _ | grainMix _ | compDryWet | dryWet =>
    obtain rfl := Option.some.inj ha
    rw [ParameterId.readsBack_iff_within (by simp)]
    exact iff_of_true (percentageAttributes_within r v) trivial
  | fade =>
    obtain rfl := Option.some.inj ha
    rw [ParameterId.readsBack_iff_within (by simp)]
    exact iff_of_true (fadeAttributes_within hrange.1) trivial
  | grainPitch _ | compThreshold | compRatio =>
    obtain rfl := Option.some.inj ha
    have hwithin := oneDecimal_within r v Ends.nil
    rw [List.append_nil] at hwithin
    rw [ParameterId.readsBack_iff_within (by simp)]
    exact iff_of_true hwithin trivial
  | tranShaper _ | select _ | grainOnOff _ | onOff _ | grainInterval _ | grainSize _ => cases ha

/-- A compressor ratio of 4. -/
theorem parameter_text_reads_back_ratio :
    ParameterId.compRatio.ReadsBack (ratioAttributes .up) 4 ↔
      ParameterId.compRatio.TextKept .up 4 :=
  parameter_text_reads_back_iff .up .compRatio rfl (by decide +kernel)

/-- An input gain of 3 dB has the text `+ 3.0`, which reads as 0. -/
theorem gain_text_reads_zero :
    ParameterId.inputGain.attributes .up = some (gainAttributes .up) ∧
      ParameterId.inputGain.range.contains 3 = true ∧
      (gainAttributes .up).stringFromValue 3 = "+ 3.0".toList ∧
      ¬ ParameterId.inputGain.ReadsBack (gainAttributes .up) 3 := by
  refine ⟨rfl, by decide +kernel, by decide +kernel, fun h => ?_⟩
  have hwithin := h.within
  revert hwithin
  decide +kernel
