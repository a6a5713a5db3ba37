import Mathlib.Analysis.SpecialFunctions.Log.Base
import Mathlib.Tactic.Linarith
import Scyclone.Dsp.Compressor
import Scyclone.Lib.RootMeanSquare
import Scyclone.Lib.Transition

set_option relaxedAutoImplicit false
set_option autoImplicit false

/-!
# The automatic make-up gain

With automatic make-up gain the compressor divides the levels of two windows of the last samples,
one before and one after the compression. Separate loops write them, with an index each. The entries
after the compression are those before it times a factor, unless the expander has the ratio 1: there
silence, whose level is minus infinity, is multiplied by zero dB times infinity.

## Main definitions

* `ExactMaps` — the laws of the functions of the libraries in exact arithmetic.
* `Attenuated` — a sample after the compression against the one before it.
* `Compressor.Aligned` — the windows and the indices.
* `Compressor.MakeUpBounded` — what a block leaves behind.
* `Compressor.SparesSilence` — the condition on a block.

## Main results

* `Compressor.processSample_attenuated`, `Compressor.processSample_silence` — the gain over all
  regions of the curve.
* `getRMSLevel_attenuated` — the levels of two such windows.
* `Compressor.Aligned.makeUpBounded_iff` — a block leaves the gain within its bounds exactly if it
  spares silence.
* `make_up_gain_bounded_iff` — the quotient stays within its bounds exactly in such runs.
-/

open WithNan
open Extended (finite)

variable {K : Type} [Field K] [LinearOrder K]

/-- The laws of the functions of the libraries in exact arithmetic: powers of 10 are positive and
increase, 0 dB is the amplitude 1, and `getRMSLevel` is the root mean square. -/
structure ExactMaps (maps : CompressorMaps K) : Prop where
  pow10_pos : ∀ x, 0 < maps.pow10 x
  pow10_mono : ∀ x y, x ≤ y → maps.pow10 x ≤ maps.pow10 y
  pow10_zero : maps.pow10 0 = 1
  rmsLevel : RootMeanSquare maps.rmsLevel

/-- `dB2amp (-range)`. -/
def lowestGain (maps : CompressorMaps K) (range : K) : K := maps.pow10 (-range / 20)

/-- The second sample is the first one times a factor between `lowest` and 1. -/
def Attenuated (lowest : K) (before after : WithNan K) : Prop :=
  ∃ x factor, lowest ≤ factor ∧ factor ≤ 1 ∧ before = number x ∧ after = number (factor * x)

lemma lowestGain_pos {maps : CompressorMaps K} (h : ExactMaps maps) (range : K) :
    0 < lowestGain maps range := h.pow10_pos _

/-- A sample that is left alone. -/
lemma attenuated_self {lowest : K} (h : lowest ≤ 1) (x : K) :
    Attenuated lowest (number x) (number x) :=
  ⟨x, 1, h, le_refl 1, rfl, by rw [one_mul]⟩

variable [IsStrictOrderedRing K]

lemma lowestGain_le_one {maps : CompressorMaps K} (h : ExactMaps maps) {range : K}
    (hrange : 0 ≤ range) : lowestGain maps range ≤ 1 := by
  rw [← h.pow10_zero]
  exact h.pow10_mono _ _ (div_nonpos_of_nonpos_of_nonneg (by linarith) (by norm_num))

/-! ## The curve -/

namespace Compressor

/-- The factor of a limited control voltage, with automatic make-up gain. -/
lemma dB2amp_attenuated {maps : CompressorMaps K} (h : ExactMaps maps) {range v : K}
    (hlow : -range ≤ v) (hv : v ≤ 0) (x : K) :
    Attenuated (lowestGain maps range) (number x) (dB2amp maps (finite v) * number x) := by
  refine ⟨x, maps.pow10 (v / 20), ?_, ?_, rfl, ?_⟩
  · exact h.pow10_mono _ _ (div_le_div_of_nonneg_right hlow (by norm_num))
  · rw [← h.pow10_zero]
    exact h.pow10_mono _ _ (div_nonpos_of_nonpos_of_nonneg hv (by norm_num))
  · simp

/-- A control voltage that is not positive attenuates, with automatic make-up gain. -/
lemma applyControlVoltage_attenuated {maps : CompressorMaps K} (h : ExactMaps maps)
    {parameter : CompressorParameter K} (hauto : parameter.autoMakeUpGain = true)
    (hrange : 0 ≤ parameter.range) {controlVoltage : K} (hv : controlVoltage ≤ 0) (x : K) :
    Attenuated (lowestGain maps parameter.range) (number x)
      (applyControlVoltage maps parameter (finite controlVoltage) (number x)) := by
  rw [applyControlVoltage, hauto, Extended.stdMax_finite]
  exact dB2amp_attenuated h (le_max_right _ _) (max_le hv (neg_nonpos.mpr hrange)) x

/-- **All three regions attenuate**, for a level that is a number.

**Proof sketch.** The slope `1 / ratio - 1` is not positive. Beyond the knee it is multiplied by a
positive level, in the knee by a square; elsewhere the sample is left alone. -/
lemma processRegions_attenuated {maps : CompressorMaps K} (h : ExactMaps maps)
    {parameter : CompressorParameter K} (hauto : parameter.autoMakeUpGain = true)
    (hrange : 0 ≤ parameter.range) (hratio : 1 ≤ parameter.ratio) (hknee : 0 < parameter.knee)
    (beyond above x : K) :
    Attenuated (lowestGain maps parameter.range) (number x)
      (processRegions maps parameter (finite beyond) (finite above) (number x)) := by
  have hpos : 0 < parameter.ratio := zero_lt_one.trans_le hratio
  have hslope : 1 / parameter.ratio - 1 ≤ 0 := by
    rw [sub_nonpos, div_le_one hpos]
    exact hratio
  rw [processRegions_finite maps parameter _ hpos.ne' hknee.ne']
  split_ifs with hbeyond habove
  · have hnonneg : 0 ≤ beyond := by linarith
    exact applyControlVoltage_attenuated h hauto hrange
      (mul_nonpos_of_nonpos_of_nonneg hslope hnonneg) x
  · refine applyControlVoltage_attenuated h hauto hrange ?_ x
    exact div_nonpos_of_nonpos_of_nonneg
      (mul_nonpos_of_nonpos_of_nonneg hslope (mul_self_nonneg _)) (by linarith)
  · rw [applyMakeUpGain, hauto]
    exact attenuated_self (lowestGain_le_one h hrange) x

/-- **The gain over all regions of the curve**, for both types, but for silence in an expander of
ratio 1.

**Proof sketch.** A level that is not a number is left alone. Silence is beyond the range of the
expander: its control voltage is minus infinity, limited to the range. -/
lemma processSample_attenuated {maps : CompressorMaps K} (h : ExactMaps maps)
    {parameter : CompressorParameter K} (hauto : parameter.autoMakeUpGain = true)
    (hrange : 0 ≤ parameter.range) (hratio : 1 ≤ parameter.ratio) (hknee : 0 < parameter.knee)
    {envelope : WithNan K}
    (hsilence : parameter.compType = .expander → parameter.ratio = 1 → envelope ≠ 0) (x : K) :
    Attenuated (lowestGain maps parameter.range) (number x)
      (processSample maps parameter envelope (number x)) := by
  have hself : Attenuated (lowestGain maps parameter.range) (number x)
      (applyMakeUpGain maps parameter (number x)) := by
    rw [applyMakeUpGain, hauto]
    exact attenuated_self (lowestGain_le_one h hrange) x
  rcases amp2dB_cases maps envelope with ⟨level, hlevel⟩ | ⟨rfl, -⟩ | hnan
  · unfold processSample
    rw [hlevel]
    cases parameter.compType with
    | upward => exact processRegions_attenuated h hauto hrange hratio hknee _ _ x
    | expander => exact processRegions_attenuated h hauto hrange hratio hknee _ _ x
  · cases htype : parameter.compType with
    | upward =>
      rw [processSample_zero_upward maps parameter _ htype]
      exact hself
    | expander =>
      have hgt : 1 < parameter.ratio :=
        lt_of_le_of_ne hratio fun heq => hsilence htype heq.symm rfl
      have hslope : 1 / parameter.ratio - 1 < 0 := by
        rw [sub_neg, div_lt_one (zero_lt_one.trans hgt)]
        exact hgt
      rw [processSample_zero_expander maps parameter _ htype,
        Extended.finite_div_of_ne _ (zero_lt_one.trans hgt).ne', Extended.finite_sub,
        Extended.finite_mul_posInf_of_neg hslope, applyControlVoltage, hauto,
        Extended.stdMax_negInf]
      exact dB2amp_attenuated h (le_refl _) (neg_nonpos.mpr hrange) x
  · rw [processSample_of_nan maps parameter _ hnan]
    exact hself

/-- **Silence in an expander of ratio 1** gives NaN: its slope is zero, and its level infinite. -/
lemma processSample_silence (maps : CompressorMaps K) {parameter : CompressorParameter K}
    (htype : parameter.compType = .expander) (hratio : parameter.ratio = 1) (sample : WithNan K) :
    processSample maps parameter 0 sample = nan := by
  rw [processSample_zero_expander maps parameter _ htype, hratio,
    Extended.finite_div_of_ne _ one_ne_zero, Extended.finite_sub, div_one, sub_self,
    Extended.zero_mul_posInf, applyControlVoltage, Extended.stdMax_nan]
  cases parameter.autoMakeUpGain <;> simp

end Compressor

/-! ## Levels -/

/-- **The levels of two windows** whose entries are related: the second one is at least the first
one times `lowest`.

**Proof sketch.** The entries are numbers with `(lowest * x)² ≤ y²`. The level is monotone in the
squares of its entries, and a factor comes out of it. -/
lemma rmsLevel_attenuated {maps : CompressorMaps K} (h : ExactMaps maps) {lowest : K}
    (hlowest : 0 < lowest) {before after : List (WithNan K)}
    (hentries : List.Forall₂ (Attenuated lowest) before after) :
    ∃ inputGain outputGain, maps.rmsLevel before = number inputGain ∧
      maps.rmsLevel after = number outputGain ∧ lowest * inputGain ≤ outputGain := by
  have hnumbers : ∃ xs ys : List K, before = xs.map number ∧ after = ys.map number ∧
      List.Forall₂ (fun x y => lowest * x * (lowest * x) ≤ y * y) xs ys := by
    induction hentries with
    | nil => exact ⟨[], [], rfl, rfl, .nil⟩
    | cons hentry _ ih =>
      obtain ⟨x, factor, hlow, -, rfl, rfl⟩ := hentry
      obtain ⟨xs, ys, rfl, rfl, hrest⟩ := ih
      refine ⟨x :: xs, factor * x :: ys, rfl, rfl, .cons ?_ hrest⟩
      calc lowest * x * (lowest * x) = lowest * lowest * (x * x) := by ring
        _ ≤ factor * factor * (x * x) :=
          mul_le_mul_of_nonneg_right (mul_self_le_mul_self hlowest.le hlow) (mul_self_nonneg x)
        _ = factor * x * (factor * x) := by ring
  obtain ⟨xs, ys, rfl, rfl, hsquares⟩ := hnumbers
  obtain ⟨scaled, outputGain, hscaled, hout, hle⟩ := h.rmsLevel.level_le
    (List.forall₂_map_left_iff (f := fun x => lowest * x).mpr hsquares)
  obtain ⟨inputGain, hin, -, -⟩ := h.rmsLevel.numbers xs
  have hfactor := h.rmsLevel.map_mul hlowest.le (xs.map number)
  have hmap : (xs.map number).map (number lowest * ·) = (xs.map (lowest * ·)).map number := by
    simp only [List.map_map]
    rfl
  rw [hmap, hscaled, hin, number_mul, WithNan.number.injEq] at hfactor
  exact ⟨inputGain, outputGain, hin, hout, hfactor ▸ hle⟩

/-- The make-up gain of two such levels: the quotient is taken only of a positive divisor, and it
lies between 1 and `1 / lowest`. -/
lemma makeUpQuotient_bounded {lowest inputGain outputGain : K} (hlowest : 0 < lowest)
    (hone : lowest ≤ 1) (h : lowest * inputGain ≤ outputGain) :
    (0 < inputGain ∧ outputGain < inputGain → 0 < outputGain) ∧
      ∃ gain, Compressor.makeUpQuotient (number inputGain) (number outputGain) = number gain ∧
        1 ≤ gain ∧ gain ≤ 1 / lowest := by
  have hpos : 0 < inputGain → 0 < outputGain := fun hin => (mul_pos hlowest hin).trans_le h
  refine ⟨fun hq => hpos hq.1, ?_⟩
  unfold Compressor.makeUpQuotient
  split_ifs with hq
  · have hin : 0 < inputGain := hq.1
    have hlt : outputGain < inputGain := hq.2
    have hout := hpos hin
    refine ⟨inputGain / outputGain, number_div_of_ne _ hout.ne', ?_, ?_⟩
    · rw [one_le_div hout]
      exact hlt.le
    · rw [div_le_div_iff₀ hout hlowest]
      linarith
  · refine ⟨1, rfl, le_refl 1, ?_⟩
    rw [one_le_div hlowest]
    exact hone

/-! ## Windows in step -/

namespace Compressor

/-- The windows of a compressor that was prepared with the specification: as large as it says,
written at the same index, and each entry of the second one that of the first after the
compression. The ratio and the knee are within their domains, and the range has not been changed. -/
structure Aligned (maps : CompressorMaps K) (spec : ProcessSpec) (range : K)
    (c : Compressor K) : Prop where
  ratio : 1 ≤ c.parameter.ratio
  knee : 0 < c.parameter.knee
  range_eq : c.parameter.range = range
  bufferSize : c.autoMakeUpGain.bufferSize = spec.windowSize
  inputChannels : c.autoMakeUpGain.inputBuffer.numChannels = 1
  outputChannels : c.autoMakeUpGain.outputBuffer.numChannels = 1
  inputSize : c.autoMakeUpGain.inputBuffer.numSamples = spec.windowSize
  outputSize : c.autoMakeUpGain.outputBuffer.numSamples = spec.windowSize
  index_eq : c.autoMakeUpGain.inputBufferIndex = c.autoMakeUpGain.outputBufferIndex
  index_lt : c.autoMakeUpGain.inputBufferIndex < spec.windowSize
  entries : ∀ i < spec.windowSize, Attenuated (lowestGain maps range)
    (c.autoMakeUpGain.inputBuffer.data 0 i) (c.autoMakeUpGain.outputBuffer.data 0 i)

/-- A block of one channel whose samples are numbers. -/
structure MonoNumbers (b : AudioBuffer (WithNan K)) : Prop where
  numChannels : b.numChannels = 1
  data : ∀ j < b.numSamples, b.data 0 j ≠ nan

/-- What a block leaves behind: the indices are equal, the entries of the windows are related, and
with automatic make-up gain the quotient was taken only of a positive divisor, and the linear gain
lies within its bounds. -/
def MakeUpBounded (maps : CompressorMaps K) (range : K) (c : Compressor K) : Prop :=
  c.autoMakeUpGain.inputBufferIndex = c.autoMakeUpGain.outputBufferIndex ∧
    (∀ i < c.autoMakeUpGain.bufferSize, Attenuated (lowestGain maps range)
      (c.autoMakeUpGain.inputBuffer.data 0 i) (c.autoMakeUpGain.outputBuffer.data 0 i)) ∧
    (c.parameter.autoMakeUpGain = true → ∃ inputGain outputGain gain,
      c.autoMakeUpGain.inputGain = number inputGain ∧
        c.autoMakeUpGain.outputGain = number outputGain ∧
        c.autoMakeUpGain.previousMakeUpGain = number gain ∧
        (0 < inputGain ∧ outputGain < inputGain → 0 < outputGain) ∧
        1 ≤ gain ∧ gain ≤ 1 / lowestGain maps range)

/-! ### The condition -/

end Compressor

/-- A sample leads the follower to zero: the mean of it and the value stored before it, with the
weight of the attack if the sample is greater and of the release otherwise. A stored NaN is taken as
zero where there is an attack time; without one a greater sample is taken over. -/
def Envelope.LeadsToZero (e : Envelope K) (lastValue detector : WithNan K) : Prop :=
  ∃ l d, (lastValue = number l ∨ lastValue = nan ∧ e.attackTime ≠ 0 ∧ l = 0) ∧
    detector = number d ∧
      if l < d then
        if e.attackTime = 0 then d = 0
        else e.attackCoefficient * l + (1 - e.attackCoefficient) * d = 0
      else e.releaseCoefficient * l + (1 - e.releaseCoefficient) * d = 0

omit [IsStrictOrderedRing K] in
/-- The condition for two numbers. -/
lemma Envelope.follow_number_eq_zero (e : Envelope K) (l d : K) :
    e.follow (number l) (number d) = 0 ↔
      if l < d then
        if e.attackTime = 0 then d = 0
        else e.attackCoefficient * l + (1 - e.attackCoefficient) * d = 0
      else e.releaseCoefficient * l + (1 - e.releaseCoefficient) * d = 0 := by
  rw [e.follow_number, zero_eq, WithNan.number.injEq]
  split_ifs <;> exact Iff.rfl

omit [IsStrictOrderedRing K] in
/-- One step of the follower leads to zero only so. -/
lemma Envelope.follow_eq_zero_iff (e : Envelope K) (lastValue : WithNan K) (d : K) :
    e.follow lastValue (number d) = 0 ↔ e.LeadsToZero lastValue (number d) := by
  constructor
  · intro h
    cases lastValue with
    | number l => exact ⟨l, d, Or.inl rfl, rfl, (e.follow_number_eq_zero l d).mp h⟩
    | nan =>
      have htime : e.attackTime ≠ 0 := by
        intro hinstant
        rw [e.follow_nan_of_instant hinstant] at h
        cases h
      rw [e.follow_nan htime] at h
      exact ⟨0, d, Or.inr ⟨rfl, htime, rfl⟩, rfl, (e.follow_number_eq_zero 0 d).mp h⟩
  · rintro ⟨l, d', hl | ⟨hl, htime, rfl⟩, hd, hmean⟩
    · obtain rfl := WithNan.number.inj hd
      rw [hl]
      exact (e.follow_number_eq_zero l d).mpr hmean
    · obtain rfl := WithNan.number.inj hd
      rw [hl, e.follow_nan htime]
      exact (e.follow_number_eq_zero 0 d).mpr hmean

namespace Compressor

/-- A block with automatic make-up gain in an expander of ratio 1 does not lead the follower to
zero. -/
def SparesSilence (c : Compressor K) : Event K → Prop
  | .processBlock b => c.parameter.autoMakeUpGain = true → c.parameter.compType = .expander →
      c.parameter.ratio = 1 →
        Scan.Meets c.envelope.follow (fun l d => ¬ c.envelope.LeadsToZero l d)
          c.envelope.lastValue (Envelope.detected b)
  | _ => True

omit [IsStrictOrderedRing K] in
/-- In a mono block of numbers the samples themselves are detected. -/
lemma MonoNumbers.exists_detected {b : AudioBuffer (WithNan K)} (hb : MonoNumbers b)
    {d : WithNan K} (hd : d ∈ Envelope.detected b) : ∃ a, d = number a := by
  obtain ⟨j, hj, rfl⟩ := List.mem_map.mp hd
  refine exists_number_of_ne_nan ?_
  rw [Envelope.detect, if_pos hb.numChannels]
  exact hb.data j (List.mem_range.mp hj)

omit [IsStrictOrderedRing K] in
/-- The values of the follower for a block that does not lead it to zero. -/
lemma meets_iff_getSample_ne_zero (e : Envelope K) {b : AudioBuffer (WithNan K)}
    (hb : MonoNumbers b) :
    Scan.Meets e.follow (fun l d => ¬ e.LeadsToZero l d) e.lastValue (Envelope.detected b) ↔
      ∀ j < b.numSamples, (e.processBlock b).getSample j ≠ 0 := by
  have hstates := Scan.forall_states_iff (f := e.follow) (I := fun _ => True)
    (P := fun v => v ≠ 0) (D := fun d => ∃ a, d = number a)
    (C := fun l d => ¬ e.LeadsToZero l d) (fun _ _ _ _ => trivial) (fun l d _ hd => by
      obtain ⟨a, rfl⟩ := hd
      exact not_congr (e.follow_eq_zero_iff l a))
    (s := e.lastValue) trivial fun d hd => hb.exists_detected hd
  rw [← hstates]
  constructor
  · intro h j hj
    rw [e.getSample_processBlock b (by simpa using hj)]
    exact h _ (List.getElem_mem _)
  · intro h v hv
    obtain ⟨j, hj, rfl⟩ := List.getElem_of_mem hv
    rw [← e.getSample_processBlock b hj]
    exact h j (by simpa using hj)

/-! ### Blocks -/

omit [IsStrictOrderedRing K] in
/-- The compression of a mono block, sample by sample. -/
lemma compressed_samples (maps : CompressorMaps K) {c : Compressor K}
    {b : AudioBuffer (WithNan K)} (hb : MonoNumbers b) :
    (c.compressed maps b).numChannels = 1 ∧
      (c.compressed maps b).samples 0 = (List.range b.numSamples).map fun j =>
        processSample maps c.parameter ((c.envelope.processBlock b).getSample j) (b.data 0 j) := by
  have hinput := c.processInput_parameter maps b
  have hone : 0 < b.numChannels := by
    rw [hb.numChannels]
    exact Nat.one_pos
  constructor
  · simp [compressed, compress, AudioBuffer.forEachSample_eq, hb.numChannels]
  · unfold AudioBuffer.samples
    simp only [compressed, compress, AudioBuffer.forEachSample_eq, hinput]
    refine List.map_congr_left fun j hj => ?_
    rw [if_pos ⟨hone, List.mem_range.mp hj⟩]

/-- The compression of a block of numbers that spares silence. -/
lemma compressed_attenuated {maps : CompressorMaps K} (h : ExactMaps maps) {c : Compressor K}
    (hauto : c.parameter.autoMakeUpGain = true) (hrange : 0 ≤ c.parameter.range)
    (hratio : 1 ≤ c.parameter.ratio) (hknee : 0 < c.parameter.knee)
    {b : AudioBuffer (WithNan K)} (hb : MonoNumbers b)
    (hsilence : c.SparesSilence (.processBlock b)) :
    List.Forall₂ (Attenuated (lowestGain maps c.parameter.range)) (b.samples 0)
      ((c.compressed maps b).samples 0) := by
  rw [(compressed_samples maps hb).2, AudioBuffer.samples, List.forall₂_map_left_iff,
    List.forall₂_map_right_iff, List.forall₂_same]
  intro j hj
  have hlt := List.mem_range.mp hj
  obtain ⟨x, hx⟩ := exists_number_of_ne_nan (hb.data j hlt)
  rw [hx]
  exact processSample_attenuated h hauto hrange hratio hknee (fun htype hone =>
    (meets_iff_getSample_ne_zero c.envelope hb).mp (hsilence hauto htype hone) j hlt) x

/-- The levels of windows whose entries are related. -/
lemma getRMSLevel_attenuated {maps : CompressorMaps K} (h : ExactMaps maps) {lowest : K}
    (hlowest : 0 < lowest) {n : ℕ} {before after : AudioBuffer (WithNan K)}
    (hbefore : before.numSamples = n) (hafter : after.numSamples = n)
    (hentries : ∀ i < n, Attenuated lowest (before.data 0 i) (after.data 0 i)) :
    ∃ inputGain outputGain, getRMSLevel maps before = number inputGain ∧
      getRMSLevel maps after = number outputGain ∧ lowest * inputGain ≤ outputGain := by
  refine rmsLevel_attenuated h hlowest ?_
  rw [AudioBuffer.samples, AudioBuffer.samples, hbefore, hafter, List.forall₂_map_left_iff,
    List.forall₂_map_right_iff, List.forall₂_same]
  exact fun i hi => hentries i (List.mem_range.mp hi)

/-- A block with automatic make-up gain that spares silence keeps the windows aligned: one loop
writes the block before the compression into the first one, and another loop the block after it into
the second one, from the same index on.

**Proof sketch.** The samples of the block before and after the compression are related entry by
entry, by `compressed_attenuated`, and `Cyclic.fill_related` carries that relation over to the
windows they are written into. -/
lemma Aligned.processBlock_auto {maps : CompressorMaps K} (h : ExactMaps maps)
    {spec : ProcessSpec} {range : K} (hrange : 0 ≤ range) {c : Compressor K}
    (hc : Aligned maps spec range c) (hauto : c.parameter.autoMakeUpGain = true)
    {b : AudioBuffer (WithNan K)} (hb : MonoNumbers b)
    (hsilence : c.SparesSilence (.processBlock b)) :
    Aligned maps spec range (c.processBlock maps b).1 := by
  have hsize : 0 < spec.windowSize := (Nat.zero_le _).trans_lt hc.index_lt
  have hblock := Compressor.processBlock_auto maps hauto b
  have hchannels := (compressed_samples maps (c := c) hb).1
  have hcompressed := compressed_attenuated h hauto
    (by rw [hc.range_eq]; exact hrange) hc.ratio hc.knee hb hsilence
  rw [hc.range_eq] at hcompressed
  obtain ⟨hfilled, hindex, hindex_lt⟩ := Cyclic.fill_related hsize hc.entries hc.index_lt
    hcompressed
  have hinput := hblock.input
  have houtput := hblock.output
  rw [hc.bufferSize, copyToWindow_mono _ _ _ hb.numChannels, Prod.mk.injEq] at hinput
  rw [hc.bufferSize, ← hc.index_eq, copyToWindow_mono _ _ _ hchannels, Prod.mk.injEq] at houtput
  generalize (c.processBlock maps b).1 = c' at *
  refine ⟨?_, ?_, ?_, ?_, ?_, ?_, ?_, ?_, ?_, ?_, fun i hi => ?_⟩
  · rw [hblock.parameter]
    exact hc.ratio
  · rw [hblock.parameter]
    exact hc.knee
  · rw [hblock.parameter]
    exact hc.range_eq
  · rw [hblock.bufferSize, hc.bufferSize]
  · rw [hinput.1]
    exact hc.inputChannels
  · rw [houtput.1]
    exact hc.outputChannels
  · rw [hinput.1]
    exact hc.inputSize
  · rw [houtput.1]
    exact hc.outputSize
  · rw [hinput.2, houtput.2]
    exact hindex
  · rw [hinput.2]
    exact hindex_lt
  · rw [hinput.1, houtput.1]
    simpa only [Function.update_self] using hfilled i hi

/-- The gains after a block with automatic make-up gain are those of aligned windows. -/
lemma Aligned.bounded_of_auto {maps : CompressorMaps K} (h : ExactMaps maps) {spec : ProcessSpec}
    {range : K} (hrange : 0 ≤ range) {c c' : Compressor K} (hc' : Aligned maps spec range c')
    {before after : AudioBuffer (WithNan K)} (hblock : AutoBlock maps c c' before after) :
    MakeUpBounded maps range c' := by
  refine ⟨hc'.index_eq, fun i hi => hc'.entries i (hc'.bufferSize ▸ hi), fun _ => ?_⟩
  have hpositive := lowestGain_pos h range
  obtain ⟨inputGain, outputGain, hin, hout, hlow⟩ :=
    getRMSLevel_attenuated h hpositive hc'.inputSize hc'.outputSize hc'.entries
  obtain ⟨hdivisor, gain, hgain, hbounds⟩ :=
    makeUpQuotient_bounded hpositive (lowestGain_le_one h hrange) hlow
  have hinputGain := hblock.inputGain
  have houtputGain := hblock.outputGain
  rw [hin] at hinputGain
  rw [hout] at houtputGain
  refine ⟨inputGain, outputGain, gain, hinputGain, houtputGain, ?_, hdivisor, hbounds⟩
  rw [hblock.previousMakeUpGain, hinputGain, houtputGain, hgain]

/-- **A block that spares silence keeps the windows aligned** and leaves the make-up gain within its
bounds. Without automatic make-up gain the windows are left alone. -/
lemma Aligned.processBlock {maps : CompressorMaps K} (h : ExactMaps maps) {spec : ProcessSpec}
    {range : K} (hrange : 0 ≤ range) {c : Compressor K} (hc : Aligned maps spec range c)
    {b : AudioBuffer (WithNan K)} (hb : MonoNumbers b)
    (hsilence : c.SparesSilence (.processBlock b)) :
    Aligned maps spec range (c.processBlock maps b).1 ∧
      MakeUpBounded maps range (c.processBlock maps b).1 := by
  cases hauto : c.parameter.autoMakeUpGain with
  | false =>
    rw [processBlock_manual maps hauto]
    refine ⟨{ hc with }, hc.index_eq, fun i hi => ?_, fun htrue => ?_⟩
    · exact hc.entries i (hc.bufferSize ▸ hi)
    · simp [hauto] at htrue
  | true =>
    have hc' := hc.processBlock_auto h hrange hauto hb hsilence
    exact ⟨hc', hc'.bounded_of_auto h hrange (Compressor.processBlock_auto maps hauto b)⟩

/-- **A block that does not spare silence** leaves a NaN in the window after the compression.

**Proof sketch.** The follower comes to zero at some sample, and the sample to NaN. The block fits
into the window, so that the NaN is still there when all of it has been written. -/
lemma Aligned.not_makeUpBounded {maps : CompressorMaps K} {spec : ProcessSpec} {range : K}
    {c : Compressor K} (hc : Aligned maps spec range c) {b : AudioBuffer (WithNan K)}
    (hb : MonoNumbers b) (hlen : b.numSamples ≤ spec.windowSize)
    (hsilence : ¬ c.SparesSilence (.processBlock b)) :
    ¬ MakeUpBounded maps range (c.processBlock maps b).1 := by
  simp only [SparesSilence, Classical.not_imp] at hsilence
  obtain ⟨hauto, htype, hratio, hmeets⟩ := hsilence
  rw [meets_iff_getSample_ne_zero c.envelope hb] at hmeets
  push Not at hmeets
  obtain ⟨j, hj, hzero⟩ := hmeets
  obtain ⟨hchannels, hsamples⟩ := compressed_samples maps (c := c) hb
  have hmem : nan ∈ (c.compressed maps b).samples 0 := by
    rw [hsamples]
    refine List.mem_map.mpr ⟨j, List.mem_range.mpr hj, ?_⟩
    rw [hzero, processSample_silence maps htype hratio]
  have hfits : ((c.compressed maps b).samples 0).length ≤ spec.windowSize := by
    rw [hsamples, List.length_map, List.length_range]
    exact hlen
  obtain ⟨i, hi, hcell⟩ :=
    Cyclic.exists_fill_eq (c.autoMakeUpGain.outputBuffer.data 0) hc.index_lt hfits hmem
  have hblock := Compressor.processBlock_auto maps hauto b
  have houtput := hblock.output
  rw [hc.bufferSize, ← hc.index_eq, copyToWindow_mono _ _ _ hchannels, Prod.mk.injEq] at houtput
  rintro ⟨-, hentries, -⟩
  have hin : i < (c.processBlock maps b).1.autoMakeUpGain.bufferSize := by
    rw [hblock.bufferSize, hc.bufferSize]
    exact hi
  obtain ⟨x, factor, -, -, -, hafter⟩ := hentries i hin
  rw [houtput.1] at hafter
  simp only [Function.update_self, hcell] at hafter
  cases hafter

/-- **A block leaves the make-up gain within its bounds exactly if it spares silence.** -/
lemma Aligned.makeUpBounded_iff {maps : CompressorMaps K} (h : ExactMaps maps)
    {spec : ProcessSpec} {range : K} (hrange : 0 ≤ range) {c : Compressor K}
    (hc : Aligned maps spec range c) {b : AudioBuffer (WithNan K)} (hb : MonoNumbers b)
    (hlen : b.numSamples ≤ spec.windowSize) :
    MakeUpBounded maps range (c.processBlock maps b).1 ↔ c.SparesSilence (.processBlock b) := by
  constructor
  · intro hbounded
    by_contra hsilence
    exact hc.not_makeUpBounded hb hlen hsilence hbounded
  · exact fun hsilence => (hc.processBlock h hrange hb hsilence).2

/-! ## Runs -/

/-- The calls that the bound is about: prepares with the same specification, ratios and knees
within their domains, the same range, and mono blocks of numbers that are no longer than was
said. -/
def Event.Within (spec : ProcessSpec) (range : K) : Event K → Prop
  | .prepare spec' _ => spec' = spec
  | .setRatio newRatio => 1 ≤ newRatio
  | .setKnee newKnee => 0 < newKnee
  | .setRange newRange => newRange = range
  | .processBlock b => MonoNumbers b ∧ b.numSamples ≤ spec.maximumBlockSize
  | _ => True

omit [IsStrictOrderedRing K] in
/-- The windows hold a block of the greatest size. -/
lemma maximumBlockSize_le_windowSize {spec : ProcessSpec} (hblock : 1 ≤ spec.maximumBlockSize)
    (hrate : (spec.maximumBlockSize : ℚ) ≤ spec.sampleRate) :
    spec.maximumBlockSize ≤ spec.windowSize := by
  have hpos : (0 : ℚ) < spec.maximumBlockSize := Nat.cast_pos.mpr hblock
  have hfloor : 1 ≤ ⌊spec.sampleRate / spec.maximumBlockSize⌋ := by
    rw [Int.le_floor, Int.cast_one, one_le_div hpos]
    exact hrate
  exact Nat.le_mul_of_pos_left _ (by omega)

omit [IsStrictOrderedRing K] in
/-- A window that is prepared again stays as it is, and the indices start over. -/
lemma Aligned.prepare {maps : CompressorMaps K} {spec : ProcessSpec} {range : K}
    {c : Compressor K} (hc : Aligned maps spec range c) (memory : WindowMemory K) :
    Aligned maps spec range (c.prepare maps spec memory) := by
  have hinput := AudioBuffer.setSize_of_eq hc.inputChannels hc.inputSize memory.inputBuffer
  have houtput := AudioBuffer.setSize_of_eq hc.outputChannels hc.outputSize memory.outputBuffer
  unfold Compressor.prepare
  rw [hinput, houtput]
  exact { hc with
    bufferSize := rfl
    index_eq := rfl
    index_lt := (Nat.zero_le _).trans_lt hc.index_lt }

/-- **One call keeps the windows aligned**, if it is not a block that does not spare silence.

**Proof sketch.** A block is `Aligned.processBlock`, `prepare` keeps the windows since their size is
kept, and a setter touches neither the windows nor, unless it sets them in their ranges, the ratio,
the knee or the range. -/
lemma Aligned.step {maps : CompressorMaps K} (h : ExactMaps maps) {spec : ProcessSpec} {range : K}
    (hrange : 0 ≤ range) {c c' : Compressor K} {e : Event K} (hc : Aligned maps spec range c)
    (he : e.Within spec range) (hsilence : c.SparesSilence e) (hs : c.step maps e = some c') :
    Aligned maps spec range c' := by
  cases e with
  | prepare spec' memory =>
    obtain rfl : spec' = spec := he
    obtain rfl := Option.some.inj hs
    exact hc.prepare memory
  | setRatio newRatio =>
    obtain rfl := Option.some.inj hs
    exact { hc with ratio := he }
  | setKnee newKnee =>
    obtain rfl := Option.some.inj hs
    exact { hc with knee := he }
  | setRange newRange =>
    obtain rfl := Option.some.inj hs
    exact { hc with range_eq := he }
  | processBlock b =>
    obtain rfl := Option.some.inj hs
    exact (hc.processBlock h hrange he.1 hsilence).1
  | setCompressionTypeIndex newCompressionTypeIndex =>
    obtain rfl := Option.some.inj hs
    unfold Compressor.setCompressionTypeIndex
    split_ifs
    · exact { hc with }
    · exact { hc with }
    · exact hc
  | setThreshold newThreshold | setMakeUpGain newMakeUpGain | setAttackTime newAttackTime
  | setReleaseTime newReleaseTime | setAutoMakeUpGain newBool =>
    obtain rfl := Option.some.inj hs
    exact { hc with }

/-- The windows are aligned after the first `prepare`, if they hold zeros. -/
lemma aligned_prepare {maps : CompressorMaps K} (h : ExactMaps maps) {spec : ProcessSpec}
    (hblock : 1 ≤ spec.maximumBlockSize) (hrate : (spec.maximumBlockSize : ℚ) ≤ spec.sampleRate)
    {c : Compressor K} (hratio : 1 ≤ c.parameter.ratio) (hrange : 0 ≤ c.parameter.range)
    (hknee : 0 < c.parameter.knee) {memory : WindowMemory K}
    (hzero : ∀ i < spec.windowSize,
      (c.prepare maps spec memory).autoMakeUpGain.inputBuffer.data 0 i = 0 ∧
        (c.prepare maps spec memory).autoMakeUpGain.outputBuffer.data 0 i = 0) :
    Aligned maps spec c.parameter.range (c.prepare maps spec memory) where
  ratio := hratio
  knee := hknee
  range_eq := rfl
  bufferSize := rfl
  inputChannels := AudioBuffer.setSize_numChannels ..
  outputChannels := AudioBuffer.setSize_numChannels ..
  inputSize := AudioBuffer.setSize_numSamples ..
  outputSize := AudioBuffer.setSize_numSamples ..
  index_eq := rfl
  index_lt := hblock.trans (maximumBlockSize_le_windowSize hblock hrate)
  entries i hi := by
    rw [(hzero i hi).1, (hzero i hi).2]
    exact attenuated_self (lowestGain_le_one h hrange) (0 : K)

/-- Each block leaves the make-up gain within its bounds. -/
def LeavesBounded (maps : CompressorMaps K) (range : K) (c : Compressor K) : Event K → Prop
  | .processBlock b => MakeUpBounded maps range (c.processBlock maps b).1
  | _ => True

/-- One call does so exactly if it spares silence. -/
lemma Aligned.leavesBounded_iff {maps : CompressorMaps K} (h : ExactMaps maps)
    {spec : ProcessSpec} (hblock : 1 ≤ spec.maximumBlockSize)
    (hrate : (spec.maximumBlockSize : ℚ) ≤ spec.sampleRate) {range : K} (hrange : 0 ≤ range)
    {c : Compressor K} (hc : Aligned maps spec range c) {e : Event K}
    (he : e.Within spec range) : c.LeavesBounded maps range e ↔ c.SparesSilence e := by
  cases e with
  | processBlock b =>
    exact hc.makeUpBounded_iff h hrange he.1
      (he.2.trans (maximumBlockSize_le_windowSize hblock hrate))
  | _ => exact Iff.rfl

end Compressor

/-- **When the automatic make-up gain is bounded.** In a run of a compressor that was prepared with
windows of zeros, whatever is prepared again, switched or set between the blocks, each block leaves
equal indices and windows whose entries differ by a factor between `dB2amp (-range)` and 1; with
automatic make-up gain it divides only by a positive level, and the gain lies between 1 and
`1 / dB2amp (-range)`. That is so exactly if every block spares silence: with automatic make-up
gain, in an expander of ratio 1, no sample leads the follower to zero.

**Proof sketch.** The windows are aligned after the first `prepare`, and every call that spares
silence keeps them so. The first block that does not leaves a NaN in the window after the
compression. -/
theorem make_up_gain_bounded_iff {maps : CompressorMaps K} (h : ExactMaps maps)
    {spec : ProcessSpec} (hblock : 1 ≤ spec.maximumBlockSize)
    (hrate : (spec.maximumBlockSize : ℚ) ≤ spec.sampleRate)
    {c : Compressor K} (hratio : 1 ≤ c.parameter.ratio) (hrange : 0 ≤ c.parameter.range)
    (hknee : 0 < c.parameter.knee) {memory : Compressor.WindowMemory K}
    (hzero : ∀ i < spec.windowSize,
      (c.prepare maps spec memory).autoMakeUpGain.inputBuffer.data 0 i = 0 ∧
        (c.prepare maps spec memory).autoMakeUpGain.outputBuffer.data 0 i = 0)
    {es : List (Compressor.Event K)} (hes : ∀ e ∈ es, e.Within spec c.parameter.range) :
    Transition.StepsMeet (Compressor.step maps)
        (Compressor.LeavesBounded maps c.parameter.range) (c.prepare maps spec memory) es ↔
      Transition.StepsMeet (Compressor.step maps) Compressor.SparesSilence
        (c.prepare maps spec memory) es :=
  Transition.stepsMeet_iff_of_stepsMeet (I := Compressor.Aligned maps spec c.parameter.range)
    (fun _ _ _ hc he hsilence hs => hc.step h hrange he hsilence hs)
    (fun _ _ hc he => hc.leavesBounded_iff h hblock hrate hrange he)
    (Compressor.aligned_prepare h hblock hrate hratio hrange hknee hzero)
    (Transition.stepsMeet_of_forall _ hes)

/-- The functions of the libraries over the real numbers. -/
noncomputable def realMaps : CompressorMaps ℝ where
  exp := Real.exp
  log10 := Real.logb 10
  pow10 := fun x => (10 : ℝ) ^ x
  rmsLevel := realRootMeanSquare
  rampGain startGain endGain numSamples i :=
    (fun gain => gain + (endGain - startGain) / number (numSamples : ℝ))^[i] startGain

lemma exactMaps_real : ExactMaps realMaps where
  pow10_pos x := Real.rpow_pos_of_pos (by norm_num) x
  pow10_mono _ _ h := Real.rpow_le_rpow_of_exponent_le (by norm_num) h
  pow10_zero := Real.rpow_zero 10
  rmsLevel := rootMeanSquare_real

/-- A compressor with empty windows. -/
noncomputable def silentCompressor : Compressor ℝ :=
  .construct ⟨.ofList [], .ofList [], 0, 0, 0, 0, 0, 0⟩

/-- Memory of zeros. -/
def zeroMemory : Compressor.WindowMemory ℝ := ⟨fun _ _ => 0, fun _ _ => 0⟩

/-- The windows of a compressor prepared with such memory. -/
lemma prepare_zeroMemory {c : Compressor ℝ}
    (hinput : c.autoMakeUpGain.inputBuffer = .ofList [])
    (houtput : c.autoMakeUpGain.outputBuffer = .ofList []) (spec : ProcessSpec) (i : ℕ) :
    (c.prepare realMaps spec zeroMemory).autoMakeUpGain.inputBuffer.data 0 i = 0 ∧
      (c.prepare realMaps spec zeroMemory).autoMakeUpGain.outputBuffer.data 0 i = 0 := by
  have hsize : ((AudioBuffer.ofList [] : AudioBuffer (WithNan ℝ)).setSize 1 spec.windowSize
      fun _ _ => 0).data 0 i = 0 := by
    unfold AudioBuffer.setSize
    split_ifs <;> rfl
  simp only [Compressor.prepare, hinput, houtput, zeroMemory, hsize, and_self]

lemma monoNumbers_ofList {xs : List (WithNan ℝ)} (h : nan ∉ xs) :
    Compressor.MonoNumbers (.ofList xs) := by
  refine ⟨rfl, fun j hj hnan => h ?_⟩
  have hj' : j < xs.length := hj
  rw [← hnan]
  simp [AudioBuffer.ofList, hj']

lemma monoNumbers_single (x : ℝ) : Compressor.MonoNumbers (.single x) :=
  ⟨rfl, fun _ _ h => by cases h⟩

/-- The expander of ratio 1. -/
noncomputable def unityExpander : Compressor ℝ :=
  (silentCompressor.setCompressionTypeIndex 1).setRatio 1

/-- A sample of 1 does not lead the follower to zero. -/
lemma unityExpander_spares_one :
    (unityExpander.prepare realMaps ⟨48000, 512, 1⟩ zeroMemory).SparesSilence
      (.processBlock (.single 1)) := by
  intro _ _ _
  rw [Envelope.detected_single]
  refine ⟨?_, trivial⟩
  have hlt : Envelope.coefficient Real.exp (1 / 20 : ℝ) ((48000 : ℚ) : ℝ) < 1 :=
    (Envelope.coefficient_bounds expLaws_real (by norm_num) (by norm_num)).2
  rintro ⟨l, d, hl | ⟨hl, -, -⟩, hd, hmean⟩
  · obtain rfl : 0 = l := WithNan.number.inj hl
    obtain rfl : 1 = d := WithNan.number.inj hd
    have htime : ¬ (1 / 20 : ℝ) = 0 := by norm_num
    rw [if_pos zero_lt_one] at hmean
    change (if (1 / 20 : ℝ) = 0 then (1 : ℝ) = 0
      else Envelope.coefficient Real.exp (1 / 20 : ℝ) ((48000 : ℚ) : ℝ) * 0 +
        (1 - Envelope.coefficient Real.exp (1 / 20 : ℝ) ((48000 : ℚ) : ℝ)) * 1 = 0) at hmean
    rw [if_neg htime] at hmean
    linarith
  · cases hl

/-- The theorem at work: an expander of ratio 1 with a block that is not silent, and then of ratio 8
with silence, with automatic make-up gain off and on again and another prepare in between. -/
theorem make_up_gain_bounded_sparing :
    Transition.StepsMeet (Compressor.step realMaps) (Compressor.LeavesBounded realMaps 80)
      (unityExpander.prepare realMaps ⟨48000, 512, 1⟩ zeroMemory)
      [.processBlock (.single 1), .setRatio 8, .setAutoMakeUpGain false,
        .prepare ⟨48000, 512, 1⟩ zeroMemory, .processBlock (.single 0), .setAutoMakeUpGain true,
        .processBlock (.ofList [0, number (-2)])] := by
  refine (make_up_gain_bounded_iff exactMaps_real (c := unityExpander)
    (by decide : 1 ≤ 512) (show ((512 : ℕ) : ℚ) ≤ 48000 by norm_num)
    (show (1 : ℝ) ≤ 1 from le_refl 1) (show (0 : ℝ) ≤ 80 by norm_num)
    (show (0 : ℝ) < 4 by norm_num) (fun i _ => prepare_zeroMemory rfl rfl _ i) ?_).mpr ?_
  · intro e he
    simp only [List.mem_cons, List.not_mem_nil, or_false] at he
    rcases he with rfl | rfl | rfl | rfl | rfl | rfl | rfl
    · exact ⟨monoNumbers_single 1, by decide⟩
    · show (1 : ℝ) ≤ 8
      norm_num
    · trivial
    · rfl
    · exact ⟨monoNumbers_single 0, by decide⟩
    · trivial
    · exact ⟨monoNumbers_ofList (by simp [zero_eq]), by simp [AudioBuffer.ofList]⟩
  · intro s₁ hs₁
    obtain rfl := Option.some.inj hs₁
    refine ⟨unityExpander_spares_one, fun s₂ hs₂ => ⟨trivial, fun s₃ hs₃ => ⟨trivial, fun s₄ hs₄ =>
      ⟨trivial, fun s₅ hs₅ => ?_⟩⟩⟩⟩
    obtain rfl := Option.some.inj hs₂
    obtain rfl := Option.some.inj hs₃
    obtain rfl := Option.some.inj hs₄
    obtain rfl := Option.some.inj hs₅
    -- without automatic make-up gain
    refine ⟨fun hauto => Bool.noConfusion hauto, fun s₆ hs₆ => ⟨trivial, fun s₇ hs₇ => ?_⟩⟩
    obtain rfl := Option.some.inj hs₆
    obtain rfl := Option.some.inj hs₇
    -- the ratio is 8
    refine ⟨fun _ _ hratio => ?_, trivial⟩
    have hkept := Compressor.processBlock_ratio realMaps
      (((((unityExpander.prepare realMaps ⟨48000, 512, 1⟩ zeroMemory).processBlock realMaps
        (.single 1)).1.setRatio 8).setAutoMakeUpGain false).prepare realMaps ⟨48000, 512, 1⟩
          zeroMemory) (.single 0)
    have height : (8 : ℝ) = 1 := hkept.symm.trans hratio
    norm_num at height

/-- A silent sample after the first `prepare` of the expander of ratio 1: the follower stays at
zero, and the window after the compression holds a NaN. -/
theorem silence_leaves_the_bounds :
    (∀ e ∈ [(.processBlock (.single 0) : Compressor.Event ℝ)],
      e.Within ⟨48000, 512, 1⟩ unityExpander.parameter.range) ∧
    (∀ i < ProcessSpec.windowSize ⟨48000, 512, 1⟩,
      (unityExpander.prepare realMaps ⟨48000, 512, 1⟩
        zeroMemory).autoMakeUpGain.inputBuffer.data 0 i = 0 ∧
      (unityExpander.prepare realMaps ⟨48000, 512, 1⟩
        zeroMemory).autoMakeUpGain.outputBuffer.data 0 i = 0) ∧
    ¬ Transition.StepsMeet (Compressor.step realMaps)
      (Compressor.LeavesBounded realMaps unityExpander.parameter.range)
      (unityExpander.prepare realMaps ⟨48000, 512, 1⟩ zeroMemory)
      [.processBlock (.single 0)] := by
  have hwithin : (.processBlock (.single 0) : Compressor.Event ℝ).Within ⟨48000, 512, 1⟩
      unityExpander.parameter.range := ⟨monoNumbers_single 0, by decide⟩
  have hzero : ∀ i < ProcessSpec.windowSize ⟨48000, 512, 1⟩, _ :=
    fun i _ => prepare_zeroMemory (c := unityExpander) rfl rfl ⟨48000, 512, 1⟩ i
  have hrange : (0 : ℝ) ≤ unityExpander.parameter.range := show (0 : ℝ) ≤ 80 by norm_num
  have hblock : 1 ≤ (⟨48000, 512, 1⟩ : ProcessSpec).maximumBlockSize := by decide
  have hrate : ((⟨48000, 512, 1⟩ : ProcessSpec).maximumBlockSize : ℚ) ≤
      (⟨48000, 512, 1⟩ : ProcessSpec).sampleRate := show ((512 : ℕ) : ℚ) ≤ 48000 by norm_num
  have haligned := Compressor.aligned_prepare exactMaps_real hblock hrate (c := unityExpander)
    (show (1 : ℝ) ≤ 1 from le_refl 1) hrange (show (0 : ℝ) < 4 by norm_num) hzero
  refine ⟨fun e he => List.mem_singleton.mp he ▸ hwithin, hzero, fun h => ?_⟩
  have hspares := (haligned.leavesBounded_iff exactMaps_real hblock hrate hrange hwithin).mp
    (h _ rfl).1 rfl rfl rfl
  rw [Envelope.detected_single] at hspares
  refine hspares.1 ⟨0, 0, Or.inl rfl, rfl, ?_⟩
  rw [if_neg (lt_irrefl 0)]
  ring
