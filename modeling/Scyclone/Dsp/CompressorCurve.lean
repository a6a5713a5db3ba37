import Scyclone.Dsp.Compressor
import Scyclone.Lib.Slope
import Mathlib.Tactic.NormNum

set_option relaxedAutoImplicit false
set_option autoImplicit false

/-!
# The curve of the compressor

The gain in dB that `processBlock` chooses for a level, by three branches for each of the two types:
beyond the knee it is linear, in the knee quadratic, and elsewhere the level is left alone.

## Main definitions

* `CompressorParameter.controlVoltage`, `CompressorParameter.gain` — the gain for a level.
* `CompressorParameter.Applied` — `processBlock` multiplies by the amplitude of such a gain.

## Main results

* `CompressorParameter.processSample_gain` — the gain is the one that the code applies.
* `CompressorParameter.within_controlVoltage` — the slope of the curve over all its regions.
* `curve_shape` — the shape of the curve, and its mirror image.
-/

open WithNan
open Extended (finite)

namespace CompressorParameter

variable {K : Type} [Field K] [LinearOrder K]

/-- The three branches, up to the control voltage limited to the range, for the level beyond the
threshold on the side of the type and for the level above the threshold. -/
def controlVoltage (p : CompressorParameter K) (beyond above : K) : K :=
  if p.knee < 2 * beyond then max ((1 / p.ratio - 1) * beyond) (-p.range)
  else if 2 * |above| ≤ p.knee then
    max ((1 / p.ratio - 1) * ((beyond + p.knee / 2) * (beyond + p.knee / 2)) / (2 * p.knee))
      (-p.range)
  else 0

/-- The gain in dB for a level in dB, before the make-up gain. -/
def gain (p : CompressorParameter K) (level : K) : K :=
  match p.compType with
  | .upward => p.controlVoltage (level - p.threshold) (level - p.threshold)
  | .expander => p.controlVoltage (p.threshold - level) (level - p.threshold)

/-- `processBlock` multiplies each sample by the amplitude of the gain, with the make-up gain unless
that is automatic. -/
def Applied (maps : CompressorMaps K) (p : CompressorParameter K) (gain : K → K) : Prop :=
  ∀ envelope level sample, amp2dB maps envelope = finite level →
    Compressor.processSample maps p envelope sample =
      dB2amp maps (if p.autoMakeUpGain then finite (gain level)
        else finite (gain level) + p.makeUpGain.toExtended) * sample

variable [IsStrictOrderedRing K]

/-! ## The code -/

/-- Without a gain the sample is left alone. -/
lemma dB2amp_zero_mul {maps : CompressorMaps K} (hzero : maps.pow10 0 = 1) (x : WithNan K) :
    dB2amp maps (finite 0) * x = x := by
  cases x with
  | nan => simp
  | number x => simp [hzero]

omit [IsStrictOrderedRing K] in
/-- The gain of a limited control voltage, as the code applies it. -/
lemma applyControlVoltage_finite (maps : CompressorMaps K) (p : CompressorParameter K)
    (controlVoltage : K) (sample : WithNan K) :
    Compressor.applyControlVoltage maps p (finite controlVoltage) sample =
      dB2amp maps (if p.autoMakeUpGain then finite (max controlVoltage (-p.range))
        else finite (max controlVoltage (-p.range)) + p.makeUpGain.toExtended) * sample := by
  unfold Compressor.applyControlVoltage
  cases p.autoMakeUpGain <;> simp

/-- A level that is left alone has the gain 0 dB. -/
lemma applyMakeUpGain_eq {maps : CompressorMaps K} (hzero : maps.pow10 0 = 1)
    (p : CompressorParameter K) (sample : WithNan K) :
    Compressor.applyMakeUpGain maps p sample =
      dB2amp maps (if p.autoMakeUpGain then finite 0
        else finite 0 + p.makeUpGain.toExtended) * sample := by
  unfold Compressor.applyMakeUpGain
  cases p.autoMakeUpGain with
  | true => exact (dB2amp_zero_mul hzero sample).symm
  | false => cases p.makeUpGain <;> simp

/-- The three branches of the code apply the control voltage. -/
lemma processRegions_eq {maps : CompressorMaps K} (hzero : maps.pow10 0 = 1)
    {p : CompressorParameter K} (hratio : p.ratio ≠ 0) (hknee : p.knee ≠ 0) (beyond above : K)
    (sample : WithNan K) :
    Compressor.processRegions maps p (finite beyond) (finite above) sample =
      dB2amp maps (if p.autoMakeUpGain then finite (p.controlVoltage beyond above)
        else finite (p.controlVoltage beyond above) + p.makeUpGain.toExtended) * sample := by
  rw [Compressor.processRegions_finite maps p sample hratio hknee]
  unfold controlVoltage
  by_cases hbeyond : p.knee < 2 * beyond
  · rw [if_pos hbeyond, if_pos hbeyond, applyControlVoltage_finite]
  · rw [if_neg hbeyond, if_neg hbeyond]
    by_cases habove : 2 * |above| ≤ p.knee
    · rw [if_pos habove, if_pos habove, applyControlVoltage_finite]
    · rw [if_neg habove, if_neg habove, applyMakeUpGain_eq hzero]

/-- **The gain is the one that the code applies**, in all regions of both types. -/
lemma processSample_gain {maps : CompressorMaps K} (hzero : maps.pow10 0 = 1)
    {p : CompressorParameter K} (hratio : p.ratio ≠ 0) (hknee : p.knee ≠ 0) :
    p.Applied maps p.gain := by
  intro envelope level sample hlevel
  unfold Compressor.processSample gain
  cases p.compType with
  | upward =>
    simp only [hlevel, Extended.finite_sub]
    exact processRegions_eq hzero hratio hknee _ _ sample
  | expander =>
    simp only [hlevel, Extended.finite_sub]
    exact processRegions_eq hzero hratio hknee _ _ sample

/-! ## The shape -/

/-- The slope beyond the knee. -/
def slope (p : CompressorParameter K) : K := 1 / p.ratio - 1

lemma slope_nonpos {p : CompressorParameter K} (hratio : 1 ≤ p.ratio) : p.slope ≤ 0 := by
  unfold slope
  rw [sub_nonpos, div_le_one (zero_lt_one.trans_le hratio)]
  exact hratio

lemma neg_one_le_slope {p : CompressorParameter K} (hratio : 1 ≤ p.ratio) : -1 ≤ p.slope := by
  have : 0 ≤ 1 / p.ratio := div_nonneg zero_le_one (zero_le_one.trans hratio)
  unfold slope
  linarith

/-- The curve without a limit, for the level beyond the threshold. -/
def unlimited (p : CompressorParameter K) (beyond : K) : K :=
  if p.knee < 2 * beyond then p.slope * beyond
  else if 2 * |beyond| ≤ p.knee then
    p.slope * ((beyond + p.knee / 2) * (beyond + p.knee / 2)) / (2 * p.knee)
  else 0

/-- The range limits the curve: where the level is left alone it has nothing to limit. -/
lemma controlVoltage_eq {p : CompressorParameter K} (hrange : 0 ≤ p.range) {beyond above : K}
    (habs : |above| = |beyond|) :
    p.controlVoltage beyond above = max (p.unlimited beyond) (-p.range) := by
  unfold controlVoltage unlimited slope
  rw [habs]
  split_ifs
  · rfl
  · rfl
  · rw [max_eq_left (neg_nonpos.mpr hrange)]

/-- In the knee. -/
lemma unlimited_of_knee {p : CompressorParameter K} {u : K} (h : -(p.knee / 2) ≤ u)
    (h' : u ≤ p.knee / 2) :
    p.unlimited u = p.slope * ((u + p.knee / 2) * (u + p.knee / 2)) / (2 * p.knee) := by
  have habs : |u| ≤ p.knee / 2 := abs_le.mpr ⟨h, h'⟩
  unfold unlimited
  rw [if_neg (by linarith), if_pos (by linarith)]

/-- Beyond the knee, its edge included. -/
lemma unlimited_of_ge {p : CompressorParameter K} (hknee : 0 < p.knee) {u : K}
    (h : p.knee / 2 ≤ u) : p.unlimited u = p.slope * u := by
  rcases h.eq_or_lt with rfl | hlt
  · have hne := hknee.ne'
    rw [unlimited_of_knee (by linarith) (le_refl _)]
    field_simp
    ring
  · unfold unlimited
    rw [if_pos (by linarith)]

/-- Below the knee, its edge included. -/
lemma unlimited_of_le {p : CompressorParameter K} (hknee : 0 < p.knee) {u : K}
    (h : u ≤ -(p.knee / 2)) : p.unlimited u = 0 := by
  rcases h.eq_or_lt with rfl | hlt
  · rw [unlimited_of_knee (le_refl _) (by linarith)]
    simp
  · have habs : p.knee / 2 < |u| := by
      rw [abs_of_neg (by linarith)]
      linarith
    unfold unlimited
    rw [if_neg (by linarith), if_neg (by linarith)]

/-- The slope in the knee: between two points it is that of the line beyond the knee, times a
weight between 0 and 1.

**Proof sketch.** The knee is a parabola. The difference quotient of two of its points is the slope
times a weight, the mean of the points measured from the beginning of the knee in widths of the
knee, and the weight is between 0 and 1 inside. -/
lemma within_knee {p : CompressorParameter K} (hknee : 0 < p.knee) (hslope : p.slope ≤ 0) :
    Slope.Within p.slope 0 (Set.Icc (-(p.knee / 2)) (p.knee / 2)) p.unlimited := by
  intro x hx y hy hxy
  obtain ⟨weight, hweight⟩ : ∃ w, w = (x + y + p.knee) / (2 * p.knee) := ⟨_, rfl⟩
  have hnonneg : 0 ≤ weight := by
    rw [hweight]
    exact div_nonneg (by linarith [hx.1, hy.1]) (by linarith)
  have hone : weight ≤ 1 := by
    rw [hweight, div_le_one (by linarith)]
    linarith [hx.2, hy.2]
  have hdiff : p.unlimited y - p.unlimited x = weight * (p.slope * (y - x)) := by
    have hne := hknee.ne'
    rw [unlimited_of_knee hx.1 hx.2, unlimited_of_knee hy.1 hy.2, hweight]
    field_simp
    ring
  have hline : p.slope * (y - x) ≤ 0 :=
    mul_nonpos_of_nonpos_of_nonneg hslope (sub_nonneg.mpr hxy)
  rw [hdiff, zero_mul]
  constructor
  · calc p.slope * (y - x) = 1 * (p.slope * (y - x)) := (one_mul _).symm
      _ ≤ weight * (p.slope * (y - x)) := mul_le_mul_of_nonpos_right hone hline
  · exact mul_nonpos_of_nonneg_of_nonpos hnonneg hline

/-- **The slope over all regions**: the pieces agree at both edges of the knee, so the slope of the
whole curve lies between that of the line beyond the knee and zero. -/
lemma within_unlimited {p : CompressorParameter K} (hknee : 0 < p.knee) (hslope : p.slope ≤ 0) :
    Slope.Within p.slope 0 Set.univ p.unlimited := by
  have hhalf : 0 < p.knee / 2 := half_pos hknee
  refine Slope.Within.glue (a := -(p.knee / 2)) trivial ?_ ?_
  · refine (Slope.within_const hslope (le_refl 0) 0).congr fun x hx => ?_
    exact unlimited_of_le hknee hx.2
  · refine Slope.Within.glue (a := p.knee / 2) ⟨trivial, ?_⟩ ?_ ?_
    · show -(p.knee / 2) ≤ p.knee / 2
      linarith
    · intro x hx y hy hxy
      exact within_knee hknee hslope x ⟨hx.1.2, hx.2⟩ y ⟨hy.1.2, hy.2⟩ hxy
    · refine (Slope.within_linear (le_refl p.slope) hslope).congr fun x hx => ?_
      exact unlimited_of_ge hknee hx.2

/-- The slope of the limited curve. -/
lemma within_controlVoltage {p : CompressorParameter K} (hratio : 1 ≤ p.ratio)
    (hknee : 0 < p.knee) (hrange : 0 ≤ p.range) :
    Slope.Within p.slope 0 Set.univ fun u => p.controlVoltage u u := by
  have hslope := slope_nonpos hratio
  refine ((within_unlimited hknee hslope).max_const hslope (le_refl 0) (-p.range)).congr ?_
  exact fun u _ => controlVoltage_eq hrange rfl

/-- The curve is never above zero. -/
lemma unlimited_nonpos {p : CompressorParameter K} (hratio : 1 ≤ p.ratio) (hknee : 0 < p.knee)
    (u : K) : p.unlimited u ≤ 0 := by
  have hslope := slope_nonpos hratio
  rcases le_total u (-(p.knee / 2)) with hle | hge
  · exact (unlimited_of_le hknee hle).le
  · have hfall := (within_unlimited hknee hslope _ trivial _ trivial hge).2
    rw [unlimited_of_le hknee (le_refl _)] at hfall
    linarith

/-- The gain lies within the range. -/
lemma controlVoltage_bounds {p : CompressorParameter K} (hratio : 1 ≤ p.ratio)
    (hknee : 0 < p.knee) (hrange : 0 ≤ p.range) (u : K) :
    -p.range ≤ p.controlVoltage u u ∧ p.controlVoltage u u ≤ 0 := by
  rw [controlVoltage_eq hrange rfl]
  exact ⟨le_max_right _ _, max_le (unlimited_nonpos hratio hknee u) (neg_nonpos.mpr hrange)⟩

/-! ## The types -/

/-- The same parameter with another type. -/
def withType (p : CompressorParameter K) (compType : CompressorType) : CompressorParameter K :=
  { p with compType }

omit [IsStrictOrderedRing K] in
lemma gain_upward (p : CompressorParameter K) (level : K) :
    (p.withType .upward).gain level =
      p.controlVoltage (level - p.threshold) (level - p.threshold) := rfl

/-- The curve of the expander is the curve of the other type, for the level below the threshold. -/
lemma gain_expander {p : CompressorParameter K} (hrange : 0 ≤ p.range) (level : K) :
    (p.withType .expander).gain level =
      p.controlVoltage (p.threshold - level) (p.threshold - level) := by
  show p.controlVoltage (p.threshold - level) (level - p.threshold) = _
  rw [controlVoltage_eq hrange (abs_sub_comm _ _), controlVoltage_eq hrange rfl]

end CompressorParameter

open CompressorParameter in
/-- **The shape of the curve.** The code multiplies by the amplitude of the gain, whichever the
type; the gain of the upward type lies within the range, and between two levels it falls, by no more
than the slope beyond the knee, so that the level after the compression does not fall; and the gain
of the expander is its mirror image at the threshold.

**Proof sketch.** The three pieces of the curve agree at the edges of the knee, and the slope of
each is bounded; so is that of the whole curve, and the limit to the range keeps the bounds. -/
theorem curve_shape {K : Type} [Field K] [LinearOrder K] [IsStrictOrderedRing K]
    {p : CompressorParameter K} (hratio : 1 ≤ p.ratio) (hknee : 0 < p.knee)
    (hrange : 0 ≤ p.range) :
    (∀ maps : CompressorMaps K, maps.pow10 0 = 1 → ∀ compType,
      (p.withType compType).Applied maps (p.withType compType).gain) ∧
    (∀ x, -p.range ≤ (p.withType .upward).gain x ∧ (p.withType .upward).gain x ≤ 0) ∧
    (∀ x y, x ≤ y →
      (1 / p.ratio - 1) * (y - x) ≤ (p.withType .upward).gain y - (p.withType .upward).gain x ∧
      (p.withType .upward).gain y - (p.withType .upward).gain x ≤ 0 ∧
      x + (p.withType .upward).gain x ≤ y + (p.withType .upward).gain y) ∧
    ∀ d, (p.withType .expander).gain (p.threshold + d) =
      (p.withType .upward).gain (p.threshold - d) := by
  have hratio0 : p.ratio ≠ 0 := (zero_lt_one.trans_le hratio).ne'
  refine ⟨fun maps hzero compType => ?_, fun x => ?_, fun x y hxy => ?_, fun d => ?_⟩
  · exact processSample_gain (p := p.withType compType) hzero hratio0 hknee.ne'
  · exact controlVoltage_bounds hratio hknee hrange _
  · have hcurve := (within_controlVoltage hratio hknee hrange).comp_sub p.threshold
    obtain ⟨hlow, hhigh⟩ := hcurve x trivial y trivial hxy
    rw [zero_mul] at hhigh
    have hsteep : -1 * (y - x) ≤ p.slope * (y - x) :=
      mul_le_mul_of_nonneg_right (neg_one_le_slope hratio) (sub_nonneg.mpr hxy)
    rw [gain_upward, gain_upward]
    exact ⟨hlow, hhigh, by linarith⟩
  · rw [gain_expander hrange, gain_upward]
    congr 1 <;> ring

/-- The theorem at work: the compressor as it is constructed. -/
theorem curve_shape_initial :
    (∀ x, -80 ≤ (({} : CompressorParameter ℚ).withType .upward).gain x ∧
      (({} : CompressorParameter ℚ).withType .upward).gain x ≤ 0) ∧
    (({} : CompressorParameter ℚ).withType .expander).gain (-10) =
      (({} : CompressorParameter ℚ).withType .upward).gain 10 := by
  obtain ⟨-, hbounds, -, hmirror⟩ := curve_shape (p := ({} : CompressorParameter ℚ))
    (by decide +kernel) (by decide +kernel) (by decide +kernel)
  refine ⟨hbounds, ?_⟩
  have := hmirror (-10)
  norm_num at this ⊢
  exact this
