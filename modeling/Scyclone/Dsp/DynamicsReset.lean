import Scyclone.Dsp.MakeUpGain
import Scyclone.Dsp.SplitterGain

set_option relaxedAutoImplicit false
set_option autoImplicit false

/-!
# What prepare leaves of the past

`prepare` of the dynamics processors resets the indices and computes the coefficients again. It
leaves the last values of the followers, the samples of windows whose size does not change, and the
previous make-up gain.

## Main definitions

* `Envelope.memory`, `Compressor.SameMemory`, `TransientSplitter.SameMemory` — what is left alone.
* `Compressor.SameSettings`, `TransientSplitter.SameSettings` — what the user has set.
* `CompressorParameter.IgnoresLevel` — the curve is the same for all levels.

## Main results

* `Compressor.Twin.processBlock`, `TransientSplitter.Twin.processBlock` — one block.
* `Compressor.outputs_eq_of_sameMemory`, `TransientSplitter.outputs_eq_of_sameMemory` — nothing
  else of the past is heard.
* `prepare_resets_iff` — for which settings and which states `prepare` resets the processors.
-/

open WithNan
open Extended (finite)

variable {K : Type} [Field K] [LinearOrder K]

/-! ## Followers -/

namespace Envelope

/-- What `prepare` leaves alone: the last value, where NaN counts as zero with an attack time. -/
def memory (e : Envelope K) : WithNan K :=
  if e.attackTime ≠ 0 ∧ e.lastValue = nan then 0 else e.lastValue

/-- The times that were set. -/
structure SameTimes (e e' : Envelope K) : Prop where
  attackTime : e.attackTime = e'.attackTime
  releaseTime : e.releaseTime = e'.releaseTime

/-- Two followers that go on in the same way. -/
structure Twin (e e' : Envelope K) : Prop where
  attackTime : e.attackTime = e'.attackTime
  attackCoefficient : e.attackCoefficient = e'.attackCoefficient
  releaseCoefficient : e.releaseCoefficient = e'.releaseCoefficient
  memory : e.memory = e'.memory

/-- Followers with the same times and the same memory are twins after `prepare`. -/
lemma twin_prepare (exp : K → K) {e e' : Envelope K} (h : e.SameTimes e')
    (hmemory : e.memory = e'.memory) (spec : ProcessSpec) :
    Twin (e.prepare exp spec) (e'.prepare exp spec) where
  attackTime := h.attackTime
  attackCoefficient := by
    show coefficient exp e.attackTime (spec.sampleRate : K) =
      coefficient exp e'.attackTime (spec.sampleRate : K)
    rw [h.attackTime]
  releaseCoefficient := by
    show coefficient exp e.releaseTime (spec.sampleRate : K) =
      coefficient exp e'.releaseTime (spec.sampleRate : K)
    rw [h.releaseTime]
  memory := hmemory

/-- A step sees only the memory. -/
lemma follow_lastValue (e : Envelope K) (d : WithNan K) :
    e.follow e.lastValue d = e.follow e.memory d := by
  unfold memory
  split_ifs with h
  · rw [h.2, follow_nan e h.1]
  · rfl

/-- Twins follow in the same way. -/
lemma Twin.follow {e e' : Envelope K} (h : Twin e e') : e.follow = e'.follow := by
  funext l d
  simp only [Envelope.follow, Envelope.followBy, h.attackTime, h.attackCoefficient,
    h.releaseCoefficient]

/-- **One block keeps twins**, and the same values are read after it.

**Proof sketch.** The first detected sample is followed from the same value, by `follow_lastValue`,
and from there on the states are equal. An empty block leaves the memory as it is. -/
lemma Twin.processBlock {e e' : Envelope K} (h : Twin e e') (buffer : AudioBuffer (WithNan K)) :
    Twin (e.processBlock buffer) (e'.processBlock buffer) ∧
      ∀ j < buffer.numSamples,
        (e.processBlock buffer).getSample j = (e'.processBlock buffer).getSample j := by
  have hstep : ∀ d, e.follow e.lastValue d = e'.follow e'.lastValue d := by
    intro d
    rw [follow_lastValue, follow_lastValue, h.memory, h.follow]
  have hstates : Scan.states e.follow e.lastValue (detected buffer) =
      Scan.states e'.follow e'.lastValue (detected buffer) := by
    cases detected buffer with
    | nil => rfl
    | cons d ds => rw [Scan.states_cons, Scan.states_cons, hstep, h.follow]
  constructor
  · refine ⟨?_, ?_, ?_, ?_⟩
    · rw [processBlock_eq, processBlock_eq]
      exact h.attackTime
    · rw [processBlock_eq, processBlock_eq]
      exact h.attackCoefficient
    · rw [processBlock_eq, processBlock_eq]
      exact h.releaseCoefficient
    · unfold Envelope.memory
      rw [processBlock_lastValue, processBlock_lastValue]
      have htime : (e.processBlock buffer).attackTime = e.attackTime := by rw [processBlock_eq]
      have htime' : (e'.processBlock buffer).attackTime = e.attackTime := by
        rw [processBlock_eq, h.attackTime]
      rw [htime, htime']
      cases detected buffer with
      | nil =>
        have hmemory := h.memory
        unfold Envelope.memory at hmemory
        rw [← h.attackTime] at hmemory
        exact hmemory
      | cons d ds => rw [List.foldl_cons, List.foldl_cons, hstep, h.follow]
  · intro j hj
    have hlen : j < (Scan.states e.follow e.lastValue (detected buffer)).length := by
      simpa using hj
    have hlen' : j < (Scan.states e'.follow e'.lastValue (detected buffer)).length := by
      simpa using hj
    rw [getSample_processBlock e buffer hlen, getSample_processBlock e' buffer hlen']
    simp only [hstates]

end Envelope

/-! ## The transient splitter -/

namespace TransientSplitter

/-- The settings: the gains, and the times of the followers. -/
structure SameSettings (s s' : TransientSplitter K) : Prop where
  parameter : s.parameter = s'.parameter
  detector : s.detector.SameTimes s'.detector
  envelope1 : s.envelope1.SameTimes s'.envelope1
  envelope2 : s.envelope2.SameTimes s'.envelope2

/-- What `prepare` leaves alone. -/
structure SameMemory (s s' : TransientSplitter K) : Prop where
  detector : s.detector.memory = s'.detector.memory
  envelope1 : s.envelope1.memory = s'.envelope1.memory
  envelope2 : s.envelope2.memory = s'.envelope2.memory

/-- Two splitters that go on in the same way. -/
structure Twin (s s' : TransientSplitter K) : Prop where
  parameter : s.parameter = s'.parameter
  detector : s.detector.Twin s'.detector
  envelope1 : s.envelope1.Twin s'.envelope1
  envelope2 : s.envelope2.Twin s'.envelope2

/-- **One block keeps twins**, and they give back the same block. -/
lemma Twin.processBlock {s s' : TransientSplitter K} (h : Twin s s')
    (buffer : AudioBuffer (WithNan K)) :
    Twin (s.processBlock buffer).1 (s'.processBlock buffer).1 ∧
      (s.processBlock buffer).2 = (s'.processBlock buffer).2 := by
  obtain ⟨hd, hdetector⟩ := h.detector.processBlock buffer
  obtain ⟨h₁, henvelope1⟩ := h.envelope1.processBlock buffer
  obtain ⟨h₂, henvelope2⟩ := h.envelope2.processBlock buffer
  refine ⟨⟨h.parameter, hd, h₁, h₂⟩, AudioBuffer.forEachSample_congr buffer ?_⟩
  intro c j _ hj
  show mixSample s.parameter _ _ _ _ = mixSample s'.parameter _ _ _ _
  simp only [followed, h.parameter, hdetector j hj, henvelope1 j hj, henvelope2 j hj]

lemma processBlocks_eq_run (s : TransientSplitter K) (buffers : List (AudioBuffer (WithNan K))) :
    s.processBlocks buffers = Scan.run processBlock s buffers := by
  induction buffers generalizing s with
  | nil => rfl
  | cons buffer buffers ih => rw [processBlocks, Scan.run, ih]

/-- **Nothing else of the past is heard** after `prepare`. -/
theorem outputs_eq_of_sameMemory (exp : K → K) {s s' : TransientSplitter K}
    (hsettings : s.SameSettings s') (hmemory : s.SameMemory s') (spec : ProcessSpec)
    (buffers : List (AudioBuffer (WithNan K))) :
    ((s.prepare exp spec).processBlocks buffers).2 =
      ((s'.prepare exp spec).processBlocks buffers).2 := by
  rw [processBlocks_eq_run, processBlocks_eq_run]
  refine Scan.run_snd_eq_of_related (R := Twin) (fun s s' b h => h.processBlock b) ?_ buffers
  exact ⟨hsettings.parameter, Envelope.twin_prepare exp hsettings.detector hmemory.detector spec,
    Envelope.twin_prepare exp hsettings.envelope1 hmemory.envelope1 spec,
    Envelope.twin_prepare exp hsettings.envelope2 hmemory.envelope2 spec⟩

end TransientSplitter

/-! ## The compressor -/

/-- Two buffers with the same samples in the first channel. -/
def AudioBuffer.SameSamples {F : Type} (b b' : AudioBuffer F) : Prop :=
  b.numSamples = b'.numSamples ∧ ∀ i < b.numSamples, b.data 0 i = b'.data 0 i

namespace Compressor

/-- The settings: the parameters and the times of the follower. The make-up gain is one of them
unless it is computed. -/
structure SameSettings (c c' : Compressor K) : Prop where
  parameter : c'.parameter = { c.parameter with makeUpGain := c'.parameter.makeUpGain }
  makeUpGain : c.parameter.autoMakeUpGain = false →
    c'.parameter.makeUpGain = c.parameter.makeUpGain
  envelope : c.envelope.SameTimes c'.envelope

/-- What `prepare` leaves of the past. The windows hold the samples of before where their size does
not change, and else those that the memory happens to hold. -/
structure SameMemory (spec : ProcessSpec) (c c' : Compressor K) (memory memory' : WindowMemory K) :
    Prop where
  envelope : c.envelope.memory = c'.envelope.memory
  inputBuffer : c.parameter.autoMakeUpGain = true → ∀ i < spec.windowSize,
    (c.autoMakeUpGain.inputBuffer.setSize 1 spec.windowSize memory.inputBuffer).data 0 i =
      (c'.autoMakeUpGain.inputBuffer.setSize 1 spec.windowSize memory'.inputBuffer).data 0 i
  outputBuffer : c.parameter.autoMakeUpGain = true → ∀ i < spec.windowSize,
    (c.autoMakeUpGain.outputBuffer.setSize 1 spec.windowSize memory.outputBuffer).data 0 i =
      (c'.autoMakeUpGain.outputBuffer.setSize 1 spec.windowSize memory'.outputBuffer).data 0 i
  previousMakeUpGain : c.parameter.autoMakeUpGain = true →
    c.autoMakeUpGain.previousMakeUpGain = c'.autoMakeUpGain.previousMakeUpGain

/-- Two windows that are written in step. -/
structure TwinWindows (a a' : AutoMakeUpGain K) : Prop where
  bufferSize : a.bufferSize = a'.bufferSize
  inputBuffer : a.inputBuffer.SameSamples a'.inputBuffer
  outputBuffer : a.outputBuffer.SameSamples a'.outputBuffer
  inputBufferIndex : a.inputBufferIndex = a'.inputBufferIndex
  outputBufferIndex : a.outputBufferIndex = a'.outputBufferIndex
  previousMakeUpGain : a.previousMakeUpGain = a'.previousMakeUpGain

/-- Two compressors that go on in the same way. -/
structure Twin (c c' : Compressor K) : Prop where
  parameter : c'.parameter = { c.parameter with makeUpGain := c'.parameter.makeUpGain }
  makeUpGain : c.parameter.autoMakeUpGain = false →
    c'.parameter.makeUpGain = c.parameter.makeUpGain
  envelope : c.envelope.Twin c'.envelope
  windows : c.parameter.autoMakeUpGain = true → TwinWindows c.autoMakeUpGain c'.autoMakeUpGain

omit [Field K] [LinearOrder K] in
/-- A copy writes the same samples to both windows. -/
lemma copyToWindow_twin (bufferSize index : ℕ) {target target' : AudioBuffer (WithNan K)}
    (h : target.SameSamples target') (source : AudioBuffer (WithNan K)) :
    (copyToWindow bufferSize (target, index) source).1.SameSamples
        (copyToWindow bufferSize (target', index) source).1 ∧
      (copyToWindow bufferSize (target, index) source).2 =
        (copyToWindow bufferSize (target', index) source).2 := by
  have hrelated : ∀ t t' : AudioBuffer (WithNan K) × ℕ, t.1.SameSamples t'.1 ∧ t.2 = t'.2 →
      ∀ x, (copySample bufferSize t x).1.SameSamples (copySample bufferSize t' x).1 ∧
        (copySample bufferSize t x).2 = (copySample bufferSize t' x).2 := by
    rintro ⟨b, i⟩ ⟨b', i'⟩ ⟨⟨hsize, hdata⟩, hindex⟩ x
    obtain rfl : i = i' := hindex
    refine ⟨⟨hsize, fun j hj => ?_⟩, rfl⟩
    show (b.setSample 0 i x).data 0 j = (b'.setSample 0 i x).data 0 j
    rw [AudioBuffer.setSample_data_self, AudioBuffer.setSample_data_self, Function.update_apply,
      Function.update_apply, hdata j hj]
  exact List.foldl_rel (r := fun t t' : AudioBuffer (WithNan K) × ℕ =>
      t.1.SameSamples t'.1 ∧ t.2 = t'.2) ⟨h, rfl⟩ fun channel _ t t' ht =>
    List.foldl_rel (r := fun t t' : AudioBuffer (WithNan K) × ℕ =>
      t.1.SameSamples t'.1 ∧ t.2 = t'.2) ht fun x _ t t' ht => hrelated t t' ht x

omit [Field K] [LinearOrder K] in
/-- The level of two windows with the same samples. -/
lemma getRMSLevel_congr (maps : CompressorMaps K) {b b' : AudioBuffer (WithNan K)}
    (h : b.SameSamples b') : getRMSLevel maps b = getRMSLevel maps b' := by
  obtain ⟨hsize, hdata⟩ := h
  have hsamples : b.samples 0 = b'.samples 0 := by
    rw [AudioBuffer.samples, AudioBuffer.samples, ← hsize]
    exact List.map_congr_left fun i hi => hdata i (List.mem_range.mp hi)
  rw [getRMSLevel, getRMSLevel, hsamples]

/-- With automatic make-up gain the compression does not use the make-up gain. -/
lemma processSample_auto (maps : CompressorMaps K) {parameter : CompressorParameter K}
    (hauto : parameter.autoMakeUpGain = true) (makeUpGain envelope sample : WithNan K) :
    processSample maps { parameter with makeUpGain } envelope sample =
      processSample maps parameter envelope sample := by
  simp only [processSample, processRegions, applyControlVoltage, applyMakeUpGain, hauto,
    Bool.not_true, Bool.false_eq_true, if_false]

/-- Twins compress in the same way. -/
lemma Twin.processSample (maps : CompressorMaps K) {c c' : Compressor K} (h : Twin c c')
    (envelope sample : WithNan K) : Compressor.processSample maps c.parameter envelope sample =
      Compressor.processSample maps c'.parameter envelope sample := by
  rw [h.parameter]
  cases hauto : c.parameter.autoMakeUpGain with
  | false => rw [h.makeUpGain hauto]
  | true => exact (processSample_auto maps hauto _ envelope sample).symm

/-- The loops of `processBlock` give the same block for twins. -/
lemma Twin.compressed (maps : CompressorMaps K) {c c' : Compressor K} (h : Twin c c')
    (buffer : AudioBuffer (WithNan K)) :
    c.compressed maps buffer = c'.compressed maps buffer := by
  obtain ⟨hparameter, henvelope⟩ := c.processInput_parameter maps buffer
  obtain ⟨hparameter', henvelope'⟩ := c'.processInput_parameter maps buffer
  refine AudioBuffer.forEachSample_congr buffer fun channel j _ hj => ?_
  rw [hparameter, hparameter', henvelope, henvelope', h.processSample,
    (h.envelope.processBlock buffer).2 j hj]

/-- **One block keeps twins**, and they give back the same block.

**Proof sketch.** The compressed blocks agree, by `Twin.compressed`. Without automatic make-up gain
the windows are not touched. With it both windows take the same entries at the same index, so the
levels of the windows and the gain of the ramp agree as well. -/
lemma Twin.processBlock (maps : CompressorMaps K) {c c' : Compressor K} (h : Twin c c')
    (buffer : AudioBuffer (WithNan K)) :
    Twin (c.processBlock maps buffer).1 (c'.processBlock maps buffer).1 ∧
      (c.processBlock maps buffer).2 = (c'.processBlock maps buffer).2 := by
  have hmode : c'.parameter.autoMakeUpGain = c.parameter.autoMakeUpGain := by rw [h.parameter]
  have hcompressed := h.compressed maps buffer
  have henvelope := (h.envelope.processBlock buffer).1
  rw [processBlock_snd, processBlock_snd, hmode, ← hcompressed]
  cases hauto : c.parameter.autoMakeUpGain with
  | false =>
    rw [processBlock_manual maps hauto, processBlock_manual maps (hmode.trans hauto)]
    refine ⟨⟨h.parameter, h.makeUpGain, henvelope, fun htrue => ?_⟩, rfl⟩
    simp [hauto] at htrue
  | true =>
    have hwindows := h.windows hauto
    have hblock := processBlock_auto maps hauto buffer
    have hblock' := processBlock_auto maps (hmode.trans hauto) buffer
    have hin := hblock'.input
    have hout := hblock'.output
    rw [← hcompressed, ← hwindows.bufferSize, ← hwindows.outputBufferIndex] at hout
    rw [← hwindows.bufferSize, ← hwindows.inputBufferIndex] at hin
    have hinput := copyToWindow_twin c.autoMakeUpGain.bufferSize
      c.autoMakeUpGain.inputBufferIndex hwindows.inputBuffer buffer
    have houtput := copyToWindow_twin c.autoMakeUpGain.bufferSize
      c.autoMakeUpGain.outputBufferIndex hwindows.outputBuffer (c.compressed maps buffer)
    rw [← hblock.input, ← hin] at hinput
    rw [← hblock.output, ← hout] at houtput
    generalize (c.processBlock maps buffer).1 = c₁ at *
    generalize (c'.processBlock maps buffer).1 = c₁' at *
    have hinputGain : c₁.autoMakeUpGain.inputGain = c₁'.autoMakeUpGain.inputGain := by
      rw [hblock.inputGain, hblock'.inputGain, getRMSLevel_congr maps hinput.1]
    have houtputGain : c₁.autoMakeUpGain.outputGain = c₁'.autoMakeUpGain.outputGain := by
      rw [hblock.outputGain, hblock'.outputGain, getRMSLevel_congr maps houtput.1]
    have hprevious : c₁.autoMakeUpGain.previousMakeUpGain =
        c₁'.autoMakeUpGain.previousMakeUpGain := by
      rw [hblock.previousMakeUpGain, hblock'.previousMakeUpGain, hinputGain, houtputGain]
    rw [if_pos rfl, if_pos rfl, hwindows.previousMakeUpGain, hprevious]
    refine ⟨⟨?_, fun hmanual => ?_, ?_, fun _ => ?_⟩, rfl⟩
    · rw [hblock.parameter, hblock'.parameter, h.parameter]
    · rw [hblock.parameter] at hmanual
      exact absurd (hauto.symm.trans hmanual) (by simp)
    · rw [hblock.envelope, hblock'.envelope]
      exact henvelope
    · exact ⟨by rw [hblock.bufferSize, hblock'.bufferSize, hwindows.bufferSize], hinput.1,
        houtput.1, hinput.2, houtput.2, hprevious⟩

/-- **Nothing else of the past is heard** after `prepare`. -/
theorem outputs_eq_of_sameMemory (maps : CompressorMaps K) {c c' : Compressor K}
    (hsettings : c.SameSettings c') {spec : ProcessSpec} {memory memory' : WindowMemory K}
    (hmemory : c.SameMemory spec c' memory memory') (buffers : List (AudioBuffer (WithNan K))) :
    ((c.prepare maps spec memory).processBlocks maps buffers).2 =
      ((c'.prepare maps spec memory').processBlocks maps buffers).2 := by
  have hsize : ∀ (b b' : AudioBuffer (WithNan K)) (m m' : ℕ → ℕ → WithNan K),
      (b.setSize 1 spec.windowSize m).numSamples = (b'.setSize 1 spec.windowSize m').numSamples :=
    fun b b' m m' => by rw [AudioBuffer.setSize_numSamples, AudioBuffer.setSize_numSamples]
  have hlt : ∀ (b : AudioBuffer (WithNan K)) (m : ℕ → ℕ → WithNan K) (i : ℕ),
      i < (b.setSize 1 spec.windowSize m).numSamples → i < spec.windowSize := fun b m i hi => by
    rwa [AudioBuffer.setSize_numSamples] at hi
  refine Scan.run_snd_eq_of_related (R := Twin) (fun c c' b h => h.processBlock maps b) ?_ buffers
  exact
    { parameter := hsettings.parameter
      makeUpGain := hsettings.makeUpGain
      envelope := Envelope.twin_prepare maps.exp hsettings.envelope hmemory.envelope spec
      windows := fun hauto =>
        ⟨rfl, ⟨hsize _ _ _ _, fun i hi => hmemory.inputBuffer hauto i (hlt _ _ i hi)⟩,
          ⟨hsize _ _ _ _, fun i hi => hmemory.outputBuffer hauto i (hlt _ _ i hi)⟩, rfl, rfl,
          hmemory.previousMakeUpGain hauto⟩ }

end Compressor

/-! ## Which settings let nothing be heard -/

/-- The laws of the functions of the libraries that tell levels and gains apart: different levels
have different amplitudes, every level is that of an amplitude, and a gain ramp begins at its first
gain. -/
structure LevelMaps (maps : CompressorMaps K) : Prop where
  pow10_injective : Function.Injective maps.pow10
  log10_onto : ∀ v, ∃ e, 0 < e ∧ maps.log10 e = v
  rampGain_zero : ∀ startGain endGain numSamples, 0 < numSamples →
    maps.rampGain startGain endGain numSamples 0 = startGain

namespace CompressorParameter

/-- The curve has no slope, or one that the range takes away. -/
def Flat (p : CompressorParameter K) : Prop :=
  p.ratio ≠ 0 ∧ p.knee ≠ 0 ∧
    (p.ratio = 1 ∧ 0 ≤ p.range ∨ 0 < p.knee ∧ p.range = 0 ∧ (p.ratio < 0 ∨ 1 < p.ratio))

/-- The curve is the same for all levels: a make-up gain that is not a number apart, it is flat. The
expander must not have the ratio 1, for which silence gives NaN. -/
def IgnoresLevel (p : CompressorParameter K) : Prop :=
  p.makeUpGain = nan ∨ p.Flat ∧ (p.ratio = 1 → p.compType = .upward)

end CompressorParameter

namespace Compressor

omit [Field K] [LinearOrder K] in
lemma toExtended_eq {x : WithNan K} {m : K} (h : x = number m) : x.toExtended = finite m := by
  rw [h, toExtended_number]

/-- The factor of a control voltage without automatic make-up gain. -/
lemma applyControlVoltage_manual (maps : CompressorMaps K) {p : CompressorParameter K}
    (hmanual : p.autoMakeUpGain = false) (controlVoltage : Extended K) (sample : WithNan K) :
    applyControlVoltage maps p controlVoltage sample =
      dB2amp maps (controlVoltage.stdMax (finite (-p.range)) + p.makeUpGain.toExtended) *
        sample := by
  simp [applyControlVoltage, hmanual]

lemma applyMakeUpGain_manual (maps : CompressorMaps K) {p : CompressorParameter K}
    (hmanual : p.autoMakeUpGain = false) (sample : WithNan K) :
    applyMakeUpGain maps p sample = dB2amp maps p.makeUpGain.toExtended * sample := by
  simp [applyMakeUpGain, hmanual]

variable [IsStrictOrderedRing K]

/-- The slope of the curve. -/
lemma slope_nonpos {ratio : K} (h : ratio < 0 ∨ 1 < ratio) : 1 / ratio - 1 < 0 := by
  rcases h with hneg | hone
  · have := one_div_neg.mpr hneg
    linarith
  · have hpos : 0 < ratio := zero_lt_one.trans hone
    rw [sub_neg, div_lt_one hpos]
    exact hone

/-- A control voltage that the range limits to zero applies the make-up gain alone. -/
lemma applyControlVoltage_of_stdMax (maps : CompressorMaps K) {p : CompressorParameter K}
    (hmanual : p.autoMakeUpGain = false) {controlVoltage : Extended K}
    (h : controlVoltage.stdMax (finite (-p.range)) = finite 0) (sample : WithNan K) :
    applyControlVoltage maps p controlVoltage sample = applyMakeUpGain maps p sample := by
  rw [applyControlVoltage_manual maps hmanual, applyMakeUpGain_manual maps hmanual, h]
  cases p.makeUpGain <;> simp

omit [IsStrictOrderedRing K] in
/-- Nothing is left of a sample where the make-up gain is not a number. -/
lemma processSample_of_makeUpGain_nan (maps : CompressorMaps K) {p : CompressorParameter K}
    (hmanual : p.autoMakeUpGain = false) (h : p.makeUpGain = nan) (envelope sample : WithNan K) :
    processSample maps p envelope sample = applyMakeUpGain maps p sample := by
  have hvoltage : ∀ v : Extended K, applyControlVoltage maps p v sample =
      applyMakeUpGain maps p sample := by
    intro v
    rw [applyControlVoltage_manual maps hmanual, applyMakeUpGain_manual maps hmanual, h]
    simp
  unfold processSample processRegions
  simp only [hvoltage, ite_self]
  cases p.compType <;> rfl

/-- **A curve that ignores the level** only applies the make-up gain.

**Proof sketch.** A make-up gain of NaN spoils every sample alike. On a flat curve the control
voltage is zero in each of the three regions, with ratio 1 since the slope is zero, and otherwise
since the range is zero and the slope is not positive. Silence is below every knee in Upward mode
and beyond the range in Expander mode, where ratio 1 is excluded. -/
lemma processSample_of_ignoresLevel (maps : CompressorMaps K) {p : CompressorParameter K}
    (hmanual : p.autoMakeUpGain = false) (h : p.IgnoresLevel) (envelope sample : WithNan K) :
    processSample maps p envelope sample = applyMakeUpGain maps p sample := by
  rcases h with hgain | ⟨⟨hratio, hknee, hslope⟩, hupward⟩
  · exact processSample_of_makeUpGain_nan maps hmanual hgain envelope sample
  · have hzero : ∀ v : K, (0 < p.knee → 0 ≤ v) →
        applyControlVoltage maps p (finite ((1 / p.ratio - 1) * v)) sample =
          applyMakeUpGain maps p sample := by
      intro v hv
      refine applyControlVoltage_of_stdMax maps hmanual ?_ sample
      rw [Extended.stdMax_finite]
      congr 1
      rcases hslope with ⟨hone, hrange⟩ | ⟨hpos, hrange, hratio⟩
      · rw [hone, div_one, sub_self, zero_mul]
        exact max_eq_left (neg_nonpos.mpr hrange)
      · rw [hrange, neg_zero]
        exact max_eq_right (mul_nonpos_of_nonpos_of_nonneg (slope_nonpos hratio).le (hv hpos))
    have hregions : ∀ beyond above : K,
        processRegions maps p (finite beyond) (finite above) sample =
          applyMakeUpGain maps p sample := by
      intro beyond above
      rw [processRegions_finite maps p sample hratio hknee]
      split_ifs with hbeyond habove
      · exact hzero beyond fun hpos => by linarith
      · rw [mul_div_assoc]
        exact hzero _ fun hpos => div_nonneg (mul_self_nonneg _) (by linarith)
      · rfl
    rcases amp2dB_cases maps envelope with ⟨level, hlevel⟩ | ⟨rfl, -⟩ | hnan
    · unfold processSample
      rw [hlevel]
      cases p.compType with
      | upward => exact hregions _ _
      | expander => exact hregions _ _
    · cases htype : p.compType with
      | upward => exact processSample_zero_upward maps p sample htype
      | expander =>
        -- silence is beyond any range, and the range is zero
        have hratio1 : p.ratio ≠ 1 := fun hone => by
          rw [hupward hone] at htype
          cases htype
        obtain ⟨-, hrange, hsteep⟩ := hslope.resolve_left fun h => hratio1 h.1
        rw [processSample_zero_expander maps p sample htype]
        refine applyControlVoltage_of_stdMax maps hmanual ?_ sample
        rw [Extended.finite_div_of_ne _ hratio, Extended.finite_sub,
          Extended.finite_mul_posInf_of_neg (slope_nonpos hsteep), Extended.stdMax_negInf, hrange,
          neg_zero]
    · exact processSample_of_nan maps p sample hnan

/-! ### Two levels that the curve tells apart -/

/-- Beyond the knee the control voltage of a curve that is not flat is somewhere other than zero.

**Proof sketch.** A negative range lifts every voltage above zero, and a positive slope does so
beyond the knee. With a negative slope the level is taken below zero where the knee is negative, and
far above the knee where it is positive, since then the range is positive. The slope zero and a
range that is not negative make the curve flat. -/
lemma exists_voltage_ne_zero {p : CompressorParameter K} (hratio : p.ratio ≠ 0)
    (hknee : p.knee ≠ 0) (h : ¬ p.Flat) :
    ∃ b, p.knee < 2 * b ∧ max ((1 / p.ratio - 1) * b) (-p.range) ≠ 0 := by
  have hlarge : p.knee < 2 * (|p.knee| + 1) := by
    have := le_abs_self p.knee
    have := abs_nonneg p.knee
    linarith
  have hpos : 0 < |p.knee| + 1 := by
    have := abs_nonneg p.knee
    linarith
  by_cases hrange : p.range < 0
  · refine ⟨|p.knee| + 1, hlarge, (lt_of_lt_of_le ?_ (le_max_right _ _)).ne'⟩
    exact neg_pos.mpr hrange
  · rcases lt_trichotomy (1 / p.ratio - 1) 0 with hneg | hzero | hslope
    · have hsteep : p.ratio < 0 ∨ 1 < p.ratio := by
        by_contra hnot
        rw [not_or, not_lt, not_lt] at hnot
        have hratio0 : 0 < p.ratio := lt_of_le_of_ne hnot.1 (Ne.symm hratio)
        have := (one_le_div hratio0).mpr hnot.2
        linarith
      rcases lt_or_gt_of_ne hknee with hk | hk
      · refine ⟨p.knee / 4, by linarith, (lt_of_lt_of_le ?_ (le_max_left _ _)).ne'⟩
        exact mul_pos_of_neg_of_neg hneg (by linarith)
      · have hrange0 : 0 < p.range := by
          refine lt_of_le_of_ne (not_lt.mp hrange) fun h0 => h ⟨hratio, hknee, Or.inr ?_⟩
          exact ⟨hk, h0.symm, hsteep⟩
        refine ⟨|p.knee| + 1, hlarge, (max_lt ?_ ?_).ne⟩
        · exact mul_neg_of_neg_of_pos hneg hpos
        · exact neg_neg_iff_pos.mpr hrange0
    · refine absurd ⟨hratio, hknee, Or.inl ⟨?_, not_lt.mp hrange⟩⟩ h
      have hone : 1 / p.ratio = 1 := by linarith
      rwa [div_eq_one_iff_eq hratio, eq_comm] at hone
    · refine ⟨|p.knee| + 1, hlarge, (lt_of_lt_of_le ?_ (le_max_left _ _)).ne'⟩
      exact mul_pos hslope hpos

/-- Below the knee a sample is left alone but for the make-up gain. -/
lemma processRegions_below (maps : CompressorMaps K) (p : CompressorParameter K) {above : K}
    (habove : |above| = |p.knee| + 1) (sample : WithNan K) :
    processRegions maps p (finite (-(|p.knee| + 1))) (finite above) sample =
      applyMakeUpGain maps p sample := by
  have hknee := neg_abs_le p.knee
  have hknee' := le_abs_self p.knee
  have hbeyond : ¬ finite p.knee < finite 2 * finite (-(|p.knee| + 1)) := by
    rw [Extended.finite_mul, Extended.finite_lt, not_lt]
    linarith
  have hwithin : ¬ finite 2 * (finite above).abs ≤ finite p.knee := by
    rw [Extended.abs_finite, habove, Extended.finite_mul, Extended.finite_le, not_le]
    linarith
  rw [processRegions, if_neg hbeyond, if_neg hwithin]

/-- **A curve that is not flat** gives another factor somewhere.

**Proof sketch.** With ratio 0 the slope is infinite, and so is the voltage beyond the knee. With
knee 0 the level at the threshold divides zero by zero. Otherwise `exists_voltage_ne_zero` gives a
level whose voltage is not zero, and `pow10` is injective. -/
lemma exists_beyond_ne {maps : CompressorMaps K} (hmaps : LevelMaps maps)
    {p : CompressorParameter K} (hmanual : p.autoMakeUpGain = false) {m : K}
    (hm : p.makeUpGain = number m) (h : ¬ p.Flat) :
    ∃ b, ∀ above : K, |above| = |b| → ∀ x ≠ 0,
      processRegions maps p (finite b) (finite above) (number x) ≠
        applyMakeUpGain maps p (number x) := by
  have htwenty : (20 : K) ≠ 0 := by norm_num
  have htwo : (2 : K) ≠ 0 := by norm_num
  have hgain : ∀ x, applyMakeUpGain maps p (number x) =
      number (maps.pow10 (m / 20) * x) := by
    intro x
    rw [applyMakeUpGain_manual maps hmanual, toExtended_eq hm, dB2amp_finite, number_mul]
  by_cases hratio : p.ratio = 0
  · -- the slope is infinite
    have := le_abs_self p.knee
    have := abs_nonneg p.knee
    have hpos : 0 < |p.knee| + 1 := by linarith
    have htwenty' : (0 : K) < 20 := by norm_num
    have hinfinite : (finite 1 / finite (0 : K) : Extended K) = .posInf := by
      rw [Extended.finite_div_zero, sign_one]
      rfl
    refine ⟨|p.knee| + 1, fun above _ x _ => ?_⟩
    rw [hgain, processRegions, if_pos (by rw [Extended.finite_mul, Extended.finite_lt]; linarith),
      hratio, hinfinite, Extended.posInf_sub_finite, Extended.posInf_mul_finite_of_pos hpos,
      applyControlVoltage_manual maps hmanual, Extended.stdMax_posInf, toExtended_eq hm,
      Extended.posInf_add_finite, dB2amp, Extended.posInf_div_of_pos htwenty']
    exact fun h => by cases h
  · by_cases hknee : p.knee = 0
    · -- in the knee, zero is divided by zero
      refine ⟨0, fun above habove x _ => ?_⟩
      rw [abs_zero] at habove
      rw [hgain, processRegions, hknee, if_neg (by simp), Extended.abs_finite, habove,
        if_pos (by simp)]
      simp only [Extended.finite_mul, mul_zero, Extended.finite_div_of_ne _ hratio,
        Extended.finite_sub, Extended.finite_div_of_ne _ htwo, Extended.finite_add, zero_div,
        add_zero, Extended.finite_div_zero, sign_zero]
      rw [applyControlVoltage_manual maps hmanual]
      show dB2amp maps (Extended.stdMax .nan _ + _) * _ ≠ _
      rw [Extended.stdMax_nan, Extended.nan_add, dB2amp_nan, nan_mul]
      exact fun h => by cases h
    · obtain ⟨b, hb, hvoltage⟩ := exists_voltage_ne_zero hratio hknee h
      refine ⟨b, fun above _ x hx heq => hvoltage ?_⟩
      rw [processRegions_finite maps p _ hratio hknee, if_pos hb, hgain,
        applyControlVoltage_manual maps hmanual, Extended.stdMax_finite, toExtended_eq hm,
        Extended.finite_add, dB2amp_finite, number_mul, WithNan.number.injEq] at heq
      have hpow := hmaps.pow10_injective (mul_right_cancel₀ hx heq)
      rw [div_left_inj' htwenty] at hpow
      linarith

/-- An amplitude for each level. -/
lemma exists_amplitude {maps : CompressorMaps K} (hmaps : LevelMaps maps)
    (p : CompressorParameter K) (b : K) :
    ∃ e, 0 < e ∧ ∃ above : K, |above| = |b| ∧
      ∀ sample, processSample maps p (number e) sample =
        processRegions maps p (finite b) (finite above) sample := by
  have htwenty : (20 : K) ≠ 0 := by norm_num
  have hlevel : ∀ v, ∃ e, 0 < e ∧ amp2dB maps (number e) = finite v := by
    intro v
    obtain ⟨e, he, hlog⟩ := hmaps.log10_onto (v / 20)
    exact ⟨e, he, by rw [amp2dB_of_pos maps he, hlog, mul_div_cancel₀ _ htwenty]⟩
  cases htype : p.compType with
  | upward =>
    obtain ⟨e, he, hamp⟩ := hlevel (b + p.threshold)
    refine ⟨e, he, b, rfl, fun sample => ?_⟩
    rw [processSample, htype, hamp, Extended.finite_sub, add_sub_cancel_right]
  | expander =>
    obtain ⟨e, he, hamp⟩ := hlevel (p.threshold - b)
    refine ⟨e, he, -b, abs_neg b, fun sample => ?_⟩
    rw [processSample, htype, hamp, Extended.finite_sub, Extended.finite_sub, sub_sub_cancel,
      sub_sub_cancel_left]

/-- A sample with a level, a ratio and a knee other than zero and a make-up gain that is a number
give a number, on whichever piece of the curve the level lies. -/
lemma processSample_ne_nan {maps : CompressorMaps K} {p : CompressorParameter K}
    (hmanual : p.autoMakeUpGain = false) {m : K} (hm : p.makeUpGain = number m)
    (hratio : p.ratio ≠ 0) (hknee : p.knee ≠ 0) {e : K} (he : 0 < e) (x : K) :
    processSample maps p (number e) (number x) ≠ nan := by
  have hvoltage : ∀ v : K, applyControlVoltage maps p (finite v) (number x) ≠ nan := by
    intro v
    rw [applyControlVoltage_manual maps hmanual, Extended.stdMax_finite, toExtended_eq hm,
      Extended.finite_add, dB2amp_finite, number_mul]
    exact fun h => by cases h
  have hregions : ∀ beyond above : K,
      processRegions maps p (finite beyond) (finite above) (number x) ≠ nan := by
    intro beyond above
    rw [processRegions_finite maps p _ hratio hknee]
    split_ifs
    · exact hvoltage _
    · exact hvoltage _
    · rw [applyMakeUpGain_manual maps hmanual, toExtended_eq hm, dB2amp_finite, number_mul]
      exact fun h => by cases h
  unfold processSample
  rw [amp2dB_of_pos maps he]
  cases p.compType with
  | upward => exact hregions _ _
  | expander => exact hregions _ _

end Compressor

/-! ### The settings -/

namespace Compressor

/-- `prepare` resets the compressor: any other one with its settings, whatever else it holds, gives
back the same blocks afterwards. -/
def PrepareResets (maps : CompressorMaps K) (spec : ProcessSpec) (c : Compressor K) : Prop :=
  ∀ c' : Compressor K, c.SameSettings c' → ∀ memory memory' buffers,
    ((c.prepare maps spec memory).processBlocks maps buffers).2 =
      ((c'.prepare maps spec memory').processBlocks maps buffers).2

/-- Two compressors with the settings of a compressor that is reset by `prepare`. -/
lemma PrepareResets.outputs_eq {maps : CompressorMaps K} {spec : ProcessSpec}
    {c c₁ c₂ : Compressor K} (h : c.PrepareResets maps spec) (h₁ : c.SameSettings c₁)
    (h₂ : c.SameSettings c₂) (memory : WindowMemory K) (buffer : AudioBuffer (WithNan K)) :
    ((c₁.prepare maps spec memory).processBlock maps buffer).2 =
      ((c₂.prepare maps spec memory).processBlock maps buffer).2 := by
  have heq := (h c₁ h₁ memory memory [buffer]).symm.trans (h c₂ h₂ memory memory [buffer])
  exact (List.cons.inj heq).1

/-- The compressor with another history: what its follower and its make-up gain hold. -/
def withHistory (c : Compressor K) (lastValue previousMakeUpGain : K) : Compressor K :=
  { c with
    envelope := { c.envelope with lastValue := number lastValue }
    autoMakeUpGain :=
      { c.autoMakeUpGain with
        outputBuffer := c.autoMakeUpGain.inputBuffer
        previousMakeUpGain := number previousMakeUpGain } }

omit [LinearOrder K] in
lemma sameSettings_withHistory (c : Compressor K) (lastValue previousMakeUpGain : K) :
    c.SameSettings (c.withHistory lastValue previousMakeUpGain) :=
  ⟨rfl, fun _ => rfl, rfl, rfl⟩

/-- One sample that is not above the last value. -/
lemma compressed_single (maps : CompressorMaps K) {c : Compressor K} {l x : K}
    (hl : c.envelope.lastValue = number l) (hx : x ≤ l) :
    (c.compressed maps (.single x)).data 0 0 = processSample maps c.parameter
      (number (c.envelope.releaseCoefficient * l + (1 - c.envelope.releaseCoefficient) * x))
      (number x) := by
  obtain ⟨hparameter, henvelope⟩ := c.processInput_parameter maps (.single x)
  rw [compressed, compress, AudioBuffer.forEachSample_eq]
  simp only [hparameter, henvelope, Envelope.getSample_single_of_le hl hx]
  simp [AudioBuffer.single]

variable [IsStrictOrderedRing K]

/-- **A compressor whose curve ignores the level is reset**, without automatic make-up gain.

**Proof sketch.** Two compressors with these settings keep them, for without automatic make-up gain
a block writes no parameter. The sample given back then depends on the settings and the sample
alone, so the two runs are related by having equal parameters. -/
lemma prepareResets_of_ignoresLevel (maps : CompressorMaps K) (spec : ProcessSpec)
    {c : Compressor K} (hmanual : c.parameter.autoMakeUpGain = false)
    (h : c.parameter.IgnoresLevel) : c.PrepareResets maps spec := by
  intro c' hsettings memory memory' buffers
  have hparameter : c'.parameter = c.parameter := by
    rw [hsettings.parameter, hsettings.makeUpGain hmanual]
  have hprepared : (c.prepare maps spec memory).parameter = c.parameter ∧
      (c'.prepare maps spec memory').parameter = c.parameter := ⟨rfl, hparameter⟩
  refine Scan.run_snd_eq_of_related (R := fun d d' : Compressor K =>
    d.parameter = c.parameter ∧ d'.parameter = c.parameter) (fun d d' b hd => ?_)
    hprepared buffers
  have hmanual₁ : d.parameter.autoMakeUpGain = false := by rw [hd.1, hmanual]
  have hmanual₂ : d'.parameter.autoMakeUpGain = false := by rw [hd.2, hmanual]
  refine ⟨⟨?_, ?_⟩, ?_⟩
  · rw [processBlock_manual maps hmanual₁]
    exact hd.1
  · rw [processBlock_manual maps hmanual₂]
    exact hd.2
  · rw [processBlock_snd, processBlock_snd, if_neg (by simp [hmanual₁]),
      if_neg (by simp [hmanual₂])]
    refine AudioBuffer.forEachSample_congr b fun channel j _ _ => ?_
    rw [(d.processInput_parameter maps b).1, (d'.processInput_parameter maps b).1, hd.1, hd.2,
      processSample_of_ignoresLevel maps hmanual h, processSample_of_ignoresLevel maps hmanual h]

/-- Memory of zeros for both windows. -/
def WindowMemory.zeros : WindowMemory K := ⟨fun _ _ => 0, fun _ _ => 0⟩

omit [IsStrictOrderedRing K] in
/-- The sample given back for one that is not above the last value, after another history. -/
lemma PrepareResets.processSample_eq {maps : CompressorMaps K} {spec : ProcessSpec}
    {c : Compressor K} (hmanual : c.parameter.autoMakeUpGain = false)
    (h : c.PrepareResets maps spec) {l l' x : K} (hl : x ≤ l) (hl' : x ≤ l') :
    let r := Envelope.coefficient maps.exp c.envelope.releaseTime (spec.sampleRate : K)
    processSample maps c.parameter (number (r * l + (1 - r) * x)) (number x) =
      processSample maps c.parameter (number (r * l' + (1 - r) * x)) (number x) := by
  intro r
  have hout := h.outputs_eq (c.sameSettings_withHistory l 1) (c.sameSettings_withHistory l' 1)
    WindowMemory.zeros (.single x)
  rw [processBlock_snd, processBlock_snd, if_neg (by simp [prepare, withHistory, hmanual]),
    if_neg (by simp [prepare, withHistory, hmanual])] at hout
  have hdata := congrFun (congrFun (congrArg AudioBuffer.data hout) 0) 0
  rwa [compressed_single maps (l := l) rfl hl, compressed_single maps (l := l') rfl hl'] at hdata

/-- **A compressor whose curve does not ignore the level is not reset.**

**Proof sketch.** If the curve is not flat, there are two levels with other factors; for a small
sample the follower takes either of them, if its last value was chosen for it. In a flat expander of
ratio 1 a silent sample becomes NaN, unless the follower still holds something else. -/
lemma ignoresLevel_of_prepareResets {maps : CompressorMaps K} (hexp : ExpLaws maps.exp)
    (hmaps : LevelMaps maps) {spec : ProcessSpec} (hrate : 0 < (spec.sampleRate : K))
    {c : Compressor K} (hrelease : 0 < c.envelope.releaseTime)
    (hmanual : c.parameter.autoMakeUpGain = false) (h : c.PrepareResets maps spec) :
    c.parameter.IgnoresLevel := by
  by_contra hcurve
  obtain ⟨m, hm⟩ := exists_number_of_ne_nan fun hnan => hcurve (Or.inl hnan)
  set r := Envelope.coefficient maps.exp c.envelope.releaseTime (spec.sampleRate : K) with hr
  have hpos : 0 < r := Envelope.coefficient_pos hexp hrelease hrate
  by_cases hflat : c.parameter.Flat
  · -- silence in an expander of ratio 1
    have hexpander : c.parameter.ratio = 1 ∧ c.parameter.compType = .expander := by
      by_contra hnot
      refine hcurve (Or.inr ⟨hflat, fun hone => ?_⟩)
      cases htype : c.parameter.compType with
      | upward => rfl
      | expander => exact absurd ⟨hone, htype⟩ hnot
    have hdata := h.processSample_eq hmanual (le_refl (0 : K)) zero_le_one
    simp only [mul_zero, add_zero, mul_one] at hdata
    rw [← zero_eq, processSample_silence maps hexpander.2 hexpander.1] at hdata
    exact processSample_ne_nan hmanual hm hflat.1 hflat.2.1 hpos 0 hdata.symm
  · obtain ⟨b, hbeyond⟩ := exists_beyond_ne hmaps hmanual hm hflat
    obtain ⟨e, he, above, habove, hsample⟩ := exists_amplitude hmaps c.parameter b
    obtain ⟨e', he', above', habove', hsample'⟩ :=
      exists_amplitude hmaps c.parameter (-(|c.parameter.knee| + 1))
    rw [abs_neg, abs_of_nonneg (show 0 ≤ |c.parameter.knee| + 1 by positivity)] at habove'
    -- the follower takes any value from the sample on
    have hreach : ∀ v x, x ≤ v → ∃ l, x ≤ l ∧ r * l + (1 - r) * x = v := by
      intro v x hv
      refine ⟨(v - (1 - r) * x) / r, ?_, ?_⟩
      · rw [le_div_iff₀ hpos]
        linarith
      · rw [mul_div_cancel₀ _ hpos.ne']
        ring
    obtain ⟨l, hl, hle⟩ := hreach e (min e e') (min_le_left _ _)
    obtain ⟨l', hl', hle'⟩ := hreach e' (min e e') (min_le_right _ _)
    have hdata := h.processSample_eq hmanual hl hl'
    simp only [← hr, hle, hle', hsample, hsample', processRegions_below maps c.parameter habove']
      at hdata
    exact hbeyond above habove _ (lt_min he he').ne' hdata

/-- **A compressor with automatic make-up gain is not reset.**

**Proof sketch.** Below the knee the sample is left alone, so both windows hold the same samples
and the quotient is 1; but the ramp begins at the previous make-up gain. -/
lemma not_prepareResets_of_auto {maps : CompressorMaps K} (hmaps : LevelMaps maps)
    {spec : ProcessSpec} {c : Compressor K} (hauto : c.parameter.autoMakeUpGain = true) :
    ¬ c.PrepareResets maps spec := by
  intro h
  obtain ⟨e, he, above, habove, hsample⟩ :=
    exists_amplitude hmaps c.parameter (-(|c.parameter.knee| + 1))
  rw [abs_neg, abs_of_nonneg (show 0 ≤ |c.parameter.knee| + 1 by positivity)] at habove
  -- the block given back, after a previous make-up gain
  have hout : ∀ g, (((c.withHistory e g).prepare maps spec .zeros).processBlock maps
      (.single e)).2.data 0 0 = number (e * g) := by
    intro g
    set d := (c.withHistory e g).prepare maps spec .zeros with hd
    have hautod : d.parameter.autoMakeUpGain = true := hauto
    have hleft : (d.compressed maps (.single e)).data 0 0 = number e := by
      rw [compressed_single maps (l := e) rfl (le_refl e)]
      have hvalue : d.envelope.releaseCoefficient * e +
          (1 - d.envelope.releaseCoefficient) * e = e := by ring
      rw [hvalue]
      show processSample maps c.parameter (number e) (number e) = number e
      rw [hsample, processRegions_below maps c.parameter habove, applyMakeUpGain,
        if_neg (by simp [hauto])]
    have hsize : (d.compressed maps (.single e)).numChannels = 1 ∧
        (d.compressed maps (.single e)).numSamples = 1 := by
      simp [compressed, compress, AudioBuffer.forEachSample_eq, AudioBuffer.single]
    have hsamples : (d.compressed maps (.single e)).samples 0 =
        (AudioBuffer.single e).samples 0 := by
      have hsingle : (AudioBuffer.single e).samples 0 = [number e] := rfl
      rw [hsingle, AudioBuffer.samples, hsize.2]
      simp [hleft]
    have hblock := processBlock_auto maps hautod (.single e)
    have hinput := hblock.input
    have houtput := hblock.output
    rw [copyToWindow_mono _ _ _ rfl] at hinput
    rw [copyToWindow_mono _ _ _ hsize.1, hsamples] at houtput
    have hwindow : (d.processBlock maps (.single e)).1.autoMakeUpGain.inputBuffer =
        (d.processBlock maps (.single e)).1.autoMakeUpGain.outputBuffer :=
      (congrArg Prod.fst hinput).trans (congrArg Prod.fst houtput).symm
    have hgain : (d.processBlock maps (.single e)).1.autoMakeUpGain.previousMakeUpGain = 1 := by
      rw [hblock.previousMakeUpGain, hblock.inputGain, hblock.outputGain, hwindow]
      refine if_neg fun hlt => ?_
      generalize getRMSLevel maps _ = level at hlt
      cases level with
      | nan => simp at hlt
      | number v => exact lt_irrefl v hlt.2
    have hprevious : d.autoMakeUpGain.previousMakeUpGain = number g := rfl
    rw [processBlock_snd, if_pos hautod, hgain, hprevious, applyGainRamp,
      AudioBuffer.forEachSample_eq]
    simp only [hsize.1, hsize.2, hleft, Nat.lt_one_iff, and_self, if_true,
      hmaps.rampGain_zero _ _ 1 Nat.one_pos, number_mul]
  have heq := congrFun (congrFun (congrArg AudioBuffer.data
    (h.outputs_eq (c.sameSettings_withHistory e 1) (c.sameSettings_withHistory e 2) .zeros
      (.single e))) 0) 0
  rw [hout, hout, WithNan.number.injEq] at heq
  have := mul_left_cancel₀ he.ne' heq
  norm_num at this

/-- **For which settings `prepare` resets a compressor.** -/
theorem prepareResets_iff {maps : CompressorMaps K} (hexp : ExpLaws maps.exp)
    (hmaps : LevelMaps maps) {spec : ProcessSpec} (hrate : 0 < (spec.sampleRate : K))
    {c : Compressor K} (hrelease : 0 < c.envelope.releaseTime) :
    c.PrepareResets maps spec ↔
      c.parameter.autoMakeUpGain = false ∧ c.parameter.IgnoresLevel := by
  constructor
  · intro h
    have hmanual : c.parameter.autoMakeUpGain = false := by
      rw [← Bool.not_eq_true]
      exact fun hauto => not_prepareResets_of_auto hmaps hauto h
    exact ⟨hmanual, ignoresLevel_of_prepareResets hexp hmaps hrate hrelease hmanual h⟩
  · rintro ⟨hmanual, hcurve⟩
    exact prepareResets_of_ignoresLevel maps spec hmanual hcurve

end Compressor

namespace TransientSplitter

/-- `prepare` resets the splitter: any other one with its settings, whatever else it holds, gives
back the same blocks afterwards. -/
def PrepareResets (exp : K → K) (spec : ProcessSpec) (s : TransientSplitter K) : Prop :=
  ∀ s' : TransientSplitter K, s.SameSettings s' → ∀ buffers,
    ((s.prepare exp spec).processBlocks buffers).2 =
      ((s'.prepare exp spec).processBlocks buffers).2

/-- The splitter with another history: what its followers hold. -/
def withHistory (s : TransientSplitter K) (envelope1 : WithNan K) : TransientSplitter K :=
  { s with
    detector := { s.detector with lastValue := number 1 }
    envelope1 := { s.envelope1 with lastValue := envelope1 }
    envelope2 := { s.envelope2 with lastValue := number 1 } }

variable [IsStrictOrderedRing K]

/-- **`prepare` never resets a splitter.** A NaN in its first follower stays.

**Proof sketch.** Two histories are compared, all 1 and all NaN, on a block of the one sample 1. The
followers that hold 1 give 1. The first follower has attack time 0 and keeps its NaN
(`follow_nan_of_instant`), so the sample is a number in one run and NaN in the other. -/
theorem not_prepareResets (exp : K → K) (spec : ProcessSpec) {s : TransientSplitter K}
    (hinstant : s.envelope1.attackTime = 0) : ¬ s.PrepareResets exp spec := by
  intro h
  have hsettings : ∀ v, s.SameSettings (s.withHistory v) := fun v =>
    ⟨rfl, ⟨rfl, rfl⟩, ⟨rfl, rfl⟩, ⟨rfl, rfl⟩⟩
  have hout := (h _ (hsettings (number 1)) [.single 1]).symm.trans
    (h _ (hsettings nan) [.single 1])
  have hdata := congrFun (congrFun (congrArg AudioBuffer.data (List.cons.inj hout).1) 0) 0
  rw [processBlock_data _ _ Nat.one_pos Nat.one_pos,
    processBlock_data _ _ Nat.one_pos Nat.one_pos] at hdata
  have hself : ∀ e : Envelope K, e.lastValue = number 1 →
      (e.processBlock (.single 1)).getSample 0 = number 1 := by
    intro e he
    rw [Envelope.getSample_single_of_le he (le_refl 1), mul_one, mul_one, add_sub_cancel]
  have hnan : ∀ e : Envelope K, e.attackTime = 0 → e.lastValue = nan →
      (e.processBlock (.single 1)).getSample 0 = nan := by
    intro e he hlast
    rw [Envelope.getSample_single, hlast, e.follow_nan_of_instant he]
  simp only [followed] at hdata
  rw [hself _ rfl, hself _ rfl, hself _ rfl, hself _ rfl,
    hnan ((s.withHistory nan).prepare exp spec).envelope1 hinstant rfl, hself _ rfl,
    mixSample_eq _ one_ne_zero] at hdata
  simp [mixSample, AudioBuffer.single] at hdata

end TransientSplitter

/-- **What `prepare` resets.** For given settings it resets a compressor of any history exactly
without automatic make-up gain and with a curve that ignores the level, and a splitter never. For
given states, nothing else of the past is heard than what their memories hold. -/
theorem prepare_resets_iff [IsStrictOrderedRing K] {maps : CompressorMaps K}
    (hexp : ExpLaws maps.exp) (hmaps : LevelMaps maps) {spec : ProcessSpec}
    (hrate : 0 < (spec.sampleRate : K)) :
    (∀ c : Compressor K, 0 < c.envelope.releaseTime → (c.PrepareResets maps spec ↔
      c.parameter.autoMakeUpGain = false ∧ c.parameter.IgnoresLevel)) ∧
    (∀ (c c' : Compressor K) memory memory', c.SameSettings c' →
      c.SameMemory spec c' memory memory' →
      ∀ buffers, ((c.prepare maps spec memory).processBlocks maps buffers).2 =
        ((c'.prepare maps spec memory').processBlocks maps buffers).2) ∧
    (∀ s : TransientSplitter K, s.envelope1.attackTime = 0 →
      ¬ s.PrepareResets maps.exp spec) ∧
    (∀ s s' : TransientSplitter K, s.SameSettings s' → s.SameMemory s' →
      ∀ buffers, ((s.prepare maps.exp spec).processBlocks buffers).2 =
        ((s'.prepare maps.exp spec).processBlocks buffers).2) :=
  ⟨fun _ hrelease => Compressor.prepareResets_iff hexp hmaps hrate hrelease,
    fun _ _ _ _ hsettings hmemory =>
      Compressor.outputs_eq_of_sameMemory maps hsettings hmemory,
    fun _ hinstant => TransientSplitter.not_prepareResets maps.exp spec hinstant,
    fun _ _ hsettings hmemory =>
      TransientSplitter.outputs_eq_of_sameMemory maps.exp hsettings hmemory spec⟩

lemma levelMaps_real : LevelMaps realMaps where
  pow10_injective _ _ h := (Real.rpow_right_inj (by norm_num) (by norm_num)).mp h
  log10_onto v :=
    ⟨(10 : ℝ) ^ v, Real.rpow_pos_of_pos (by norm_num) v, Real.logb_rpow (by norm_num) (by norm_num)⟩
  rampGain_zero _ _ _ _ := rfl

/-- The theorem at work: a constructed compressor is not reset. Without automatic make-up gain and
with ratio 1 it is, but as an expander it is not. -/
theorem prepare_resets_constructed :
    ¬ silentCompressor.PrepareResets realMaps ⟨48000, 512, 2⟩ ∧
    ((silentCompressor.setAutoMakeUpGain false).setRatio 1).PrepareResets realMaps
      ⟨48000, 512, 2⟩ ∧
    ¬ (((silentCompressor.setAutoMakeUpGain false).setRatio 1).setCompressionTypeIndex
      1).PrepareResets realMaps ⟨48000, 512, 2⟩ := by
  have hrelease : (0 : ℝ) < 3 / 10 := by norm_num
  have hknee : (4 : ℝ) ≠ 0 := by norm_num
  have hrange : (0 : ℝ) ≤ 80 := by norm_num
  have hrate : 0 < (((⟨48000, 512, 2⟩ : ProcessSpec).sampleRate : ℚ) : ℝ) := by norm_num
  have hreset := (prepare_resets_iff expLaws_real levelMaps_real hrate).1
  refine ⟨fun h => ?_, ?_, fun h => ?_⟩
  · exact Bool.noConfusion ((hreset _ hrelease).mp h).1
  · exact (hreset _ hrelease).mpr
      ⟨rfl, Or.inr ⟨⟨one_ne_zero, hknee, Or.inl ⟨rfl, hrange⟩⟩, fun _ => rfl⟩⟩
  · rcases ((hreset _ hrelease).mp h).2 with hnan | ⟨-, hupward⟩
    · cases hnan
    · cases hupward rfl

/-- A splitter before its first block, with less sustain than attack. -/
noncomputable def firstTake : TransientSplitter ℝ :=
  (TransientSplitter.construct.setSustain (3 / 5)).prepare Real.exp ⟨48000, 512, 1⟩

/-- The splitter after a block with the sample 1. -/
noncomputable def secondTake : TransientSplitter ℝ := (firstTake.processBlock (.single 1)).1

/-- The coefficient of the attack in both takes. -/
noncomputable def takeAttack : ℝ := Envelope.coefficient Real.exp (1 / 2 : ℝ) (48000 : ℚ)

lemma takeAttack_pos : 0 < takeAttack :=
  Envelope.coefficient_pos expLaws_real (by norm_num) (by norm_num)

lemma takeAttack_lt_one : takeAttack < 1 :=
  (Envelope.coefficient_bounds expLaws_real (by norm_num) (by norm_num)).2

/-- A rising sample is taken over without an attack time. -/
lemma follow_rising_of_instant {e : Envelope ℝ} {l x : ℝ} (he : e.attackTime = 0)
    (hl : e.lastValue = number l) (hlx : l < x) : e.follow e.lastValue (number x) = number x := by
  rw [hl, e.follow_number, if_pos hlx, if_pos he]

/-- With an attack time it is approached. -/
lemma follow_rising_of_smooth {e : Envelope ℝ} {l x : ℝ} (he : e.attackTime ≠ 0)
    (hcoefficient : e.attackCoefficient = takeAttack) (hl : e.lastValue = number l)
    (hlx : l < x) : e.follow e.lastValue (number x) =
      number (takeAttack * l + (1 - takeAttack) * x) := by
  rw [hl, e.follow_number, if_pos hlx, if_neg he, hcoefficient]

/-- A block changes none of the times. -/
lemma processBlock_sameTimes (e : Envelope ℝ) (b : AudioBuffer (WithNan ℝ)) :
    e.SameTimes (e.processBlock b) := by
  rw [Envelope.processBlock_eq]
  exact ⟨rfl, rfl⟩

lemma half_ne_zero : (1 / 2 : ℝ) ≠ 0 := by norm_num

/-- What the first take stores. -/
lemma secondTake_lastValue : secondTake.detector.lastValue = number 1 ∧
    secondTake.envelope1.lastValue = number 1 ∧
    secondTake.envelope2.lastValue = number (takeAttack * 0 + (1 - takeAttack) * 1) :=
  ⟨(Envelope.lastValue_single _ 1).trans (follow_rising_of_instant rfl rfl one_pos),
    (Envelope.lastValue_single _ 1).trans (follow_rising_of_instant rfl rfl one_pos),
    (Envelope.lastValue_single _ 1).trans (follow_rising_of_smooth half_ne_zero rfl rfl one_pos)⟩

/-- The times of the followers are those of the construction. -/
lemma secondTake_attackTime : secondTake.detector.attackTime = 0 ∧
    secondTake.envelope1.attackTime = 0 ∧ secondTake.envelope2.attackTime = 1 / 2 := by
  unfold secondTake
  simp only [TransientSplitter.processBlock_fst, TransientSplitter.followed,
    Envelope.processBlock_eq]
  exact ⟨rfl, rfl, rfl⟩

/-- The share of the attack where the detector and the first follower are at 2. -/
lemma attackShare_two {v : ℝ} (hv : v ≤ 2) (hv0 : 0 ≤ v) :
    TransientSplitter.attackShare 2 2 v = (2 - v) / 2 := by
  unfold TransientSplitter.attackShare
  rw [abs_of_nonneg (sub_nonneg.mpr hv), abs_of_pos two_pos]
  refine min_eq_left ?_
  linarith

/-- The sample 2 after a `prepare` of a splitter whose second follower stores `l`. -/
lemma processBlock_two {s : TransientSplitter ℝ} {d l₁ l : ℝ}
    (hdetector : s.detector.attackTime = 0) (h₁ : s.envelope1.attackTime = 0)
    (h₂ : s.envelope2.attackTime = 1 / 2) (hd : s.detector.lastValue = number d)
    (hl₁ : s.envelope1.lastValue = number l₁) (hl : s.envelope2.lastValue = number l)
    (hd2 : d < 2) (hl₁2 : l₁ < 2) (hl0 : 0 ≤ l) (hl2 : l < 2) :
    ((s.prepare Real.exp ⟨48000, 512, 1⟩).processBlock (.single 2)).2.data 0 0 =
      number (TransientSplitter.gain s.parameter
        ((2 - (takeAttack * l + (1 - takeAttack) * 2)) / 2) * 2) := by
  have hcoefficient : (s.envelope2.prepare Real.exp ⟨48000, 512, 1⟩).attackCoefficient =
      takeAttack := by
    show Envelope.coefficient Real.exp s.envelope2.attackTime _ = takeAttack
    rw [h₂]
    rfl
  have hpos := takeAttack_pos
  have hlt := takeAttack_lt_one
  have hle : takeAttack * l + (1 - takeAttack) * 2 ≤ 2 := by nlinarith
  have hnonneg : 0 ≤ takeAttack * l + (1 - takeAttack) * 2 := by nlinarith
  rw [TransientSplitter.processBlock_data _ _ Nat.one_pos Nat.one_pos]
  simp only [TransientSplitter.followed, TransientSplitter.prepare, Envelope.getSample_single]
  rw [follow_rising_of_instant (e := s.detector.prepare Real.exp ⟨48000, 512, 1⟩) hdetector hd hd2,
    follow_rising_of_instant (e := s.envelope1.prepare Real.exp ⟨48000, 512, 1⟩) h₁ hl₁ hl₁2,
    follow_rising_of_smooth (e := s.envelope2.prepare Real.exp ⟨48000, 512, 1⟩)
      (h₂.trans_ne half_ne_zero) hcoefficient hl hl2,
    TransientSplitter.mixSample_eq _ two_ne_zero, attackShare_two hle hnonneg]
  rfl

/-- Before the first and before the second block `prepare` is called again; then the sample 2
comes. -/
theorem second_take_differs :
    firstTake.SameSettings secondTake ∧
      ((firstTake.prepare Real.exp ⟨48000, 512, 1⟩).processBlocks [.single 2]).2 ≠
        ((secondTake.prepare Real.exp ⟨48000, 512, 1⟩).processBlocks [.single 2]).2 := by
  constructor
  · exact ⟨rfl, processBlock_sameTimes _ _, processBlock_sameTimes _ _,
      processBlock_sameTimes _ _⟩
  · intro hout
    have hdata := congrFun (congrFun (congrArg AudioBuffer.data (List.cons.inj hout).1) 0) 0
    have hpos := takeAttack_pos
    have hlt := takeAttack_lt_one
    obtain ⟨hdetector, henvelope1, henvelope2⟩ := secondTake_lastValue
    obtain ⟨htime, htime₁, htime₂⟩ := secondTake_attackTime
    have hfirst := processBlock_two (s := firstTake) rfl rfl rfl
      (rfl : firstTake.detector.lastValue = number 0)
      (rfl : firstTake.envelope1.lastValue = number 0)
      (rfl : firstTake.envelope2.lastValue = number 0) two_pos two_pos le_rfl two_pos
    rw [hfirst, processBlock_two htime htime₁ htime₂ hdetector henvelope1 henvelope2 one_lt_two
      one_lt_two (by linarith) (by linarith)] at hdata
    have htwo : (2 : ℝ) ≠ 0 := two_ne_zero
    have hgain := mul_right_cancel₀ htwo (WithNan.number.inj hdata)
    change (2 - (takeAttack * 0 + (1 - takeAttack) * 2)) / 2 * 1 +
        (1 - (2 - (takeAttack * 0 + (1 - takeAttack) * 2)) / 2) * (3 / 5) =
      (2 - (takeAttack * (takeAttack * 0 + (1 - takeAttack) * 1) + (1 - takeAttack) * 2)) / 2 * 1 +
        (1 - (2 - (takeAttack * (takeAttack * 0 + (1 - takeAttack) * 1) +
          (1 - takeAttack) * 2)) / 2) * (3 / 5) at hgain
    have hzero : takeAttack * (1 - takeAttack) = 0 := by linarith
    rcases mul_eq_zero.mp hzero with h | h <;> linarith
