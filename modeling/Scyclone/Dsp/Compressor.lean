import Mathlib.Data.Rat.Floor
import Scyclone.Dsp.Envelope
import Scyclone.Lib.CyclicStore
import Scyclone.Lib.Extended

set_option relaxedAutoImplicit false
set_option autoImplicit false

/-!
# The compressor

`Compressor` of `source/dsp/compressor/Compressor.cpp`, over exact numbers with NaN. Levels in dB
can be infinite too: silence has the level minus infinity. The functions of the C library and those
of JUCE are parameters. With automatic make-up gain the compressor keeps two windows of the last
samples, before and after the compression.

## Main definitions

* `CompressorMaps`, `amp2dB`, `dB2amp` — the functions of the libraries, and those of `utils`.
* `Compressor` with `construct`, `prepare`, the setters and `processBlock`.
* `Compressor.Event`, `Compressor.step` — the calls of a run.

## Main results

* `amp2dB_cases` — the level of a value is a number, minus infinity or NaN.
* `Compressor.copyToWindow_mono` — a block of one channel fills the window from its index on.
* `Compressor.processBlock_auto`, `Compressor.processBlock_manual` — what a block does to the
  compressor.
-/

open WithNan
open Extended (finite)

/-- The functions of the C library and of JUCE that the compressor uses. -/
structure CompressorMaps (K : Type) where
  /-- `std::exp`. -/
  exp : K → K
  /-- `std::log10` of a positive number. -/
  log10 : K → K
  /-- `std::pow (10, x)` for a number. -/
  pow10 : K → K
  /-- `AudioBuffer::getRMSLevel` of a channel with these samples. -/
  rmsLevel : List (WithNan K) → WithNan K
  /-- The gain that `AudioBuffer::applyGainRamp` multiplies the sample at an index by, for a start
  gain, an end gain and the number of samples. -/
  rampGain : WithNan K → WithNan K → ℕ → ℕ → WithNan K

variable {K : Type} [Field K]

/-- `std::log10`: minus infinity for zero, and NaN below. -/
def CompressorMaps.stdLog10 [LinearOrder K] (maps : CompressorMaps K) : WithNan K → Extended K
  | nan => .nan
  | number a => if 0 < a then finite (maps.log10 a) else if a = 0 then .negInf else .nan

/-- `std::pow (10, x)`. An amplitude that would be infinite is not a number here. -/
def CompressorMaps.stdPow10 (maps : CompressorMaps K) : Extended K → WithNan K
  | .nan => nan
  | .negInf => 0
  | .finite x => number (maps.pow10 x)
  | .posInf => nan

section Level

variable [LinearOrder K]

/-- `utils::amp2dB`. -/
def amp2dB (maps : CompressorMaps K) (amp : WithNan K) : Extended K :=
  finite 20 * maps.stdLog10 amp

/-- `utils::dB2amp`. -/
def dB2amp (maps : CompressorMaps K) (db : Extended K) : WithNan K :=
  maps.stdPow10 (db / finite 20)

lemma amp2dB_of_pos (maps : CompressorMaps K) {a : K} (h : 0 < a) :
    amp2dB maps (number a) = finite (20 * maps.log10 a) := by
  simp [amp2dB, CompressorMaps.stdLog10, h]

lemma amp2dB_of_neg (maps : CompressorMaps K) {a : K} (h : a < 0) :
    amp2dB maps (number a) = .nan := by
  simp [amp2dB, CompressorMaps.stdLog10, h.ne, h.not_gt]

@[simp] lemma amp2dB_nan (maps : CompressorMaps K) : amp2dB maps nan = .nan := by
  simp [amp2dB, CompressorMaps.stdLog10]

variable [IsStrictOrderedRing K]

/-- Silence has the level minus infinity. -/
@[simp] lemma amp2dB_zero (maps : CompressorMaps K) : amp2dB maps 0 = .negInf := by
  have htwenty : (0 : K) < 20 := by norm_num
  simp [amp2dB, CompressorMaps.stdLog10, Extended.finite_mul_negInf_of_pos htwenty]

/-- The level of a value is a number, minus infinity for silence, or NaN. -/
lemma amp2dB_cases (maps : CompressorMaps K) (amp : WithNan K) :
    (∃ level, amp2dB maps amp = finite level) ∨ (amp = 0 ∧ amp2dB maps amp = .negInf) ∨
      amp2dB maps amp = .nan := by
  cases amp with
  | nan => exact Or.inr (Or.inr (amp2dB_nan maps))
  | number a =>
    rcases lt_trichotomy a 0 with hneg | rfl | hpos
    · exact Or.inr (Or.inr (amp2dB_of_neg maps hneg))
    · exact Or.inr (Or.inl ⟨rfl, amp2dB_zero maps⟩)
    · exact Or.inl ⟨_, amp2dB_of_pos maps hpos⟩

@[simp] lemma dB2amp_finite (maps : CompressorMaps K) (db : K) :
    dB2amp maps (finite db) = number (maps.pow10 (db / 20)) := by
  have htwenty : (20 : K) ≠ 0 := by norm_num
  simp [dB2amp, CompressorMaps.stdPow10, htwenty]

omit [IsStrictOrderedRing K] in
@[simp] lemma dB2amp_nan (maps : CompressorMaps K) : dB2amp maps .nan = nan := by
  simp [dB2amp, CompressorMaps.stdPow10]

end Level

/-- `enum CompressorType`. -/
inductive CompressorType
  | upward
  | expander
  deriving DecidableEq, Repr

/-- `struct CompressorParameter`, as the member is initialised. The make-up gain can be one that
was computed, which need not be a number. -/
structure CompressorParameter (K : Type) [Field K] where
  threshold : K := 0
  ratio : K := 4
  knee : K := 4
  makeUpGain : WithNan K := 0
  range : K := 80
  attackTime : K := 1 / 20
  releaseTime : K := 3 / 10
  autoMakeUpGain : Bool := true
  compType : CompressorType := .upward

/-- `struct AutoMakeUpGain`. -/
structure AutoMakeUpGain (K : Type) where
  inputBuffer : AudioBuffer (WithNan K)
  outputBuffer : AudioBuffer (WithNan K)
  inputBufferIndex : ℕ
  outputBufferIndex : ℕ
  bufferSize : ℕ
  inputGain : WithNan K
  outputGain : WithNan K
  previousMakeUpGain : WithNan K

/-- `class Compressor`. -/
structure Compressor (K : Type) [Field K] where
  parameter : CompressorParameter K
  autoMakeUpGain : AutoMakeUpGain K
  envelope : Envelope K

/-- `AutoMakeUpGain::BufferSize` for a specification: as many whole blocks as fit into a second. -/
def ProcessSpec.windowSize (spec : ProcessSpec) : ℕ :=
  ⌊spec.sampleRate / spec.maximumBlockSize⌋.toNat * spec.maximumBlockSize

namespace Compressor

/-! ## Settings -/

/-- `Compressor()`. The members of `AutoMakeUpGain` are not initialised. -/
def construct (autoMakeUpGain : AutoMakeUpGain K) : Compressor K :=
  let parameter : CompressorParameter K := {}
  { parameter
    autoMakeUpGain
    envelope := .construct parameter.attackTime parameter.releaseTime }

/-- `setThreshold`. -/
def setThreshold (c : Compressor K) (newThreshold : K) : Compressor K :=
  { c with parameter := { c.parameter with threshold := newThreshold } }

/-- `setRatio`. -/
def setRatio (c : Compressor K) (newRatio : K) : Compressor K :=
  { c with parameter := { c.parameter with ratio := newRatio } }

/-- `setKnee`. -/
def setKnee (c : Compressor K) (newKnee : K) : Compressor K :=
  { c with parameter := { c.parameter with knee := newKnee } }

/-- `setMakeUpGain`. -/
def setMakeUpGain (c : Compressor K) (newMakeUpGain : K) : Compressor K :=
  { c with parameter := { c.parameter with makeUpGain := number newMakeUpGain } }

/-- `setRange`. -/
def setRange (c : Compressor K) (newRange : K) : Compressor K :=
  { c with parameter := { c.parameter with range := newRange } }

/-- `setAutoMakeUpGain`. -/
def setAutoMakeUpGain (c : Compressor K) (newBool : Bool) : Compressor K :=
  { c with parameter := { c.parameter with autoMakeUpGain := newBool } }

/-- `setCompressionTypeIndex`. -/
def setCompressionTypeIndex (c : Compressor K) (newCompressionTypeIndex : ℤ) : Compressor K :=
  if newCompressionTypeIndex = 0 then
    { c with parameter := { c.parameter with compType := .upward } }
  else if newCompressionTypeIndex = 1 then
    { c with parameter := { c.parameter with compType := .expander } }
  else c

variable [LinearOrder K]

/-- `setAttackTime`. -/
def setAttackTime (maps : CompressorMaps K) (c : Compressor K) (newAttackTime : K) :
    Compressor K :=
  { c with
    parameter := { c.parameter with attackTime := newAttackTime }
    envelope := c.envelope.setAttackTime maps.exp newAttackTime }

/-- `setReleaseTime`. -/
def setReleaseTime (maps : CompressorMaps K) (c : Compressor K) (newReleaseTime : K) :
    Compressor K :=
  { c with
    parameter := { c.parameter with releaseTime := newReleaseTime }
    envelope := c.envelope.setReleaseTime maps.exp newReleaseTime }

/-- What the memory of the two windows happens to hold after their size was changed. -/
structure WindowMemory (K : Type) where
  inputBuffer : ℕ → ℕ → WithNan K
  outputBuffer : ℕ → ℕ → WithNan K

/-- `prepare`. -/
def prepare (maps : CompressorMaps K) (c : Compressor K) (spec : ProcessSpec)
    (memory : WindowMemory K) : Compressor K :=
  { c with
    envelope := c.envelope.prepare maps.exp spec
    autoMakeUpGain :=
      { c.autoMakeUpGain with
        bufferSize := spec.windowSize
        inputBuffer :=
          c.autoMakeUpGain.inputBuffer.setSize 1 spec.windowSize memory.inputBuffer
        outputBuffer :=
          c.autoMakeUpGain.outputBuffer.setSize 1 spec.windowSize memory.outputBuffer
        inputBufferIndex := 0
        outputBufferIndex := 0 } }

/-! ## The windows -/

/-- The body of the loops of `copyAutoMakeUpBuffer`: one sample is written to the window, and its
index advanced. -/
def copySample (bufferSize : ℕ) (target : AudioBuffer (WithNan K) × ℕ) (sample : WithNan K) :
    AudioBuffer (WithNan K) × ℕ :=
  (target.1.setSample 0 target.2 sample,
    if target.2 + 1 ≥ bufferSize then 0 else target.2 + 1)

/-- `copyAutoMakeUpBuffer`: the loops over the channels and the samples, for one of the windows
and its index. -/
def copyToWindow (bufferSize : ℕ) (target : AudioBuffer (WithNan K) × ℕ)
    (source : AudioBuffer (WithNan K)) : AudioBuffer (WithNan K) × ℕ :=
  (List.range source.numChannels).foldl
    (fun target channel => (source.samples channel).foldl (copySample bufferSize) target) target

/-- `copyAutoMakeUpBuffer`. -/
def copyAutoMakeUpBuffer (a : AutoMakeUpGain K) (source : AudioBuffer (WithNan K))
    (input : Bool) : AutoMakeUpGain K :=
  if input then
    let copied := copyToWindow a.bufferSize (a.inputBuffer, a.inputBufferIndex) source
    { a with inputBuffer := copied.1, inputBufferIndex := copied.2 }
  else
    let copied := copyToWindow a.bufferSize (a.outputBuffer, a.outputBufferIndex) source
    { a with outputBuffer := copied.1, outputBufferIndex := copied.2 }

/-- `getRMSLevel (0, 0, getNumSamples())` of a window. -/
def getRMSLevel (maps : CompressorMaps K) (buffer : AudioBuffer (WithNan K)) : WithNan K :=
  maps.rmsLevel (buffer.samples 0)

/-! ## Processing -/

/-- What both types do with a control voltage: it is limited to the range, and the sample is
multiplied by its amplitude. -/
def applyControlVoltage (maps : CompressorMaps K) (parameter : CompressorParameter K)
    (controlVoltage : Extended K) (sample : WithNan K) : WithNan K :=
  let controlVoltage := controlVoltage.stdMax (finite (-parameter.range))
  if !parameter.autoMakeUpGain then
    dB2amp maps (controlVoltage + parameter.makeUpGain.toExtended) * sample
  else dB2amp maps controlVoltage * sample

/-- What both types do where the level is left alone. -/
def applyMakeUpGain (maps : CompressorMaps K) (parameter : CompressorParameter K)
    (sample : WithNan K) : WithNan K :=
  if !parameter.autoMakeUpGain then dB2amp maps parameter.makeUpGain.toExtended * sample
  else sample

/-- The three regions of the curve, for the level beyond the threshold on the side of the type
and for the level above the threshold. -/
def processRegions (maps : CompressorMaps K) (parameter : CompressorParameter K)
    (beyond above : Extended K) (sample : WithNan K) : WithNan K :=
  if finite parameter.knee < finite 2 * beyond then
    applyControlVoltage maps parameter ((finite 1 / finite parameter.ratio - finite 1) * beyond)
      sample
  else if finite 2 * above.abs ≤ finite parameter.knee then
    applyControlVoltage maps parameter
      ((finite 1 / finite parameter.ratio - finite 1) *
          ((beyond + finite parameter.knee / finite 2) *
            (beyond + finite parameter.knee / finite 2)) /
        (finite 2 * finite parameter.knee)) sample
  else applyMakeUpGain maps parameter sample

/-- The body of the loops of `processBlock`: the new value of a sample. -/
def processSample (maps : CompressorMaps K) (parameter : CompressorParameter K)
    (envelope sample : WithNan K) : WithNan K :=
  match parameter.compType with
  | .upward =>
    processRegions maps parameter (amp2dB maps envelope - finite parameter.threshold)
      (amp2dB maps envelope - finite parameter.threshold) sample
  | .expander =>
    processRegions maps parameter (finite parameter.threshold - amp2dB maps envelope)
      (amp2dB maps envelope - finite parameter.threshold) sample

/-- The loop of `applyGainRamp (channel, 0, numSamples, startGain, endGain)` over the channels. -/
def applyGainRamp (maps : CompressorMaps K) (buffer : AudioBuffer (WithNan K))
    (startGain endGain : WithNan K) : AudioBuffer (WithNan K) :=
  buffer.forEachSample fun _ i sample =>
    sample * maps.rampGain startGain endGain buffer.numSamples i

/-- The first part of `processBlock`, up to the loops. -/
def processInput (maps : CompressorMaps K) (c : Compressor K) (buffer : AudioBuffer (WithNan K)) :
    Compressor K :=
  let c := { c with envelope := c.envelope.processBlock buffer }
  if c.parameter.autoMakeUpGain then
    let a := copyAutoMakeUpBuffer c.autoMakeUpGain buffer true
    { c with
      autoMakeUpGain :=
        { a with inputGain := getRMSLevel maps a.inputBuffer } }
  else c

/-- The loops of `processBlock`. -/
def compress (maps : CompressorMaps K) (c : Compressor K) (buffer : AudioBuffer (WithNan K)) :
    AudioBuffer (WithNan K) :=
  buffer.forEachSample fun _ j sample =>
    processSample maps c.parameter (c.envelope.getSample j) sample

/-- The quotient of the two gains, or 1. -/
def makeUpQuotient (inputGain outputGain : WithNan K) : WithNan K :=
  if 0 < inputGain ∧ outputGain < inputGain then inputGain / outputGain else 1

/-- The last part of `processBlock`, after the loops. -/
def processOutput (maps : CompressorMaps K) (c : Compressor K)
    (buffer : AudioBuffer (WithNan K)) : Compressor K × AudioBuffer (WithNan K) :=
  if c.parameter.autoMakeUpGain then
    let a := copyAutoMakeUpBuffer c.autoMakeUpGain buffer false
    let a := { a with outputGain := getRMSLevel maps a.outputBuffer }
    let makeUpGain := makeUpQuotient a.inputGain a.outputGain
    ({ c with
        parameter := { c.parameter with makeUpGain := (amp2dB maps makeUpGain).toWithNan }
        autoMakeUpGain := { a with previousMakeUpGain := makeUpGain } },
      applyGainRamp maps buffer a.previousMakeUpGain makeUpGain)
  else
    ({ c with
        autoMakeUpGain :=
          { c.autoMakeUpGain with
            previousMakeUpGain := dB2amp maps c.parameter.makeUpGain.toExtended } },
      buffer)

/-- `processBlock`, with the contents it leaves in the buffer. -/
def processBlock (maps : CompressorMaps K) (c : Compressor K) (buffer : AudioBuffer (WithNan K)) :
    Compressor K × AudioBuffer (WithNan K) :=
  let c := c.processInput maps buffer
  c.processOutput maps (c.compress maps buffer)

/-- A run over blocks, with the blocks given back. -/
def processBlocks (maps : CompressorMaps K) (c : Compressor K) :
    List (AudioBuffer (WithNan K)) → Compressor K × List (AudioBuffer (WithNan K)) :=
  Scan.run (processBlock maps) c

/-! ## Calls -/

/-- The calls. -/
inductive Event (K : Type)
  | prepare (spec : ProcessSpec) (memory : WindowMemory K)
  | setThreshold (newThreshold : K)
  | setRatio (newRatio : K)
  | setKnee (newKnee : K)
  | setMakeUpGain (newMakeUpGain : K)
  | setRange (newRange : K)
  | setAttackTime (newAttackTime : K)
  | setReleaseTime (newReleaseTime : K)
  | setAutoMakeUpGain (newBool : Bool)
  | setCompressionTypeIndex (newCompressionTypeIndex : ℤ)
  | processBlock (buffer : AudioBuffer (WithNan K))

/-- One call. All of them can always be made. -/
def step (maps : CompressorMaps K) (c : Compressor K) : Event K → Option (Compressor K)
  | .prepare spec memory => some (c.prepare maps spec memory)
  | .setThreshold newThreshold => some (c.setThreshold newThreshold)
  | .setRatio newRatio => some (c.setRatio newRatio)
  | .setKnee newKnee => some (c.setKnee newKnee)
  | .setMakeUpGain newMakeUpGain => some (c.setMakeUpGain newMakeUpGain)
  | .setRange newRange => some (c.setRange newRange)
  | .setAttackTime newAttackTime => some (c.setAttackTime maps newAttackTime)
  | .setReleaseTime newReleaseTime => some (c.setReleaseTime maps newReleaseTime)
  | .setAutoMakeUpGain newBool => some (c.setAutoMakeUpGain newBool)
  | .setCompressionTypeIndex newCompressionTypeIndex =>
    some (c.setCompressionTypeIndex newCompressionTypeIndex)
  | .processBlock buffer => some (c.processBlock maps buffer).1

/-! ## One sample -/

section Regions

variable (maps : CompressorMaps K) (p : CompressorParameter K) (sample : WithNan K)

/-- A level that is not a number is left alone. -/
lemma processSample_of_nan {envelope : WithNan K} (h : amp2dB maps envelope = .nan) :
    processSample maps p envelope sample = applyMakeUpGain maps p sample := by
  unfold processSample processRegions
  cases p.compType <;> simp [h]

variable [IsStrictOrderedRing K]

/-- Silence is below every threshold. -/
lemma processSample_zero_upward (h : p.compType = .upward) :
    processSample maps p 0 sample = applyMakeUpGain maps p sample := by
  have htwo : (0 : K) < 2 := by norm_num
  unfold processSample processRegions
  rw [h, amp2dB_zero]
  simp [Extended.finite_mul_negInf_of_pos htwo, Extended.finite_mul_posInf_of_pos htwo]

/-- The expander takes silence to be infinitely far below the threshold. -/
lemma processSample_zero_expander (h : p.compType = .expander) :
    processSample maps p 0 sample = applyControlVoltage maps p
      ((finite 1 / finite p.ratio - finite 1) * .posInf) sample := by
  have htwo : (0 : K) < 2 := by norm_num
  unfold processSample processRegions
  rw [h, amp2dB_zero]
  simp [Extended.finite_mul_posInf_of_pos htwo]

/-- The regions for a level that is a number. -/
lemma processRegions_finite (hratio : p.ratio ≠ 0) (hknee : p.knee ≠ 0) (beyond above : K) :
    processRegions maps p (finite beyond) (finite above) sample =
      if p.knee < 2 * beyond then
        applyControlVoltage maps p (finite ((1 / p.ratio - 1) * beyond)) sample
      else if 2 * |above| ≤ p.knee then
        applyControlVoltage maps p (finite
          ((1 / p.ratio - 1) * ((beyond + p.knee / 2) * (beyond + p.knee / 2)) / (2 * p.knee)))
          sample
      else applyMakeUpGain maps p sample := by
  have htwo : (2 : K) ≠ 0 := by norm_num
  have hdivisor : 2 * p.knee ≠ 0 := mul_ne_zero htwo hknee
  simp only [processRegions, Extended.finite_div_of_ne _ hratio, Extended.finite_div_of_ne _ htwo,
    Extended.finite_sub, Extended.finite_add, Extended.finite_mul,
    Extended.finite_div_of_ne _ hdivisor, Extended.abs_finite, Extended.finite_lt,
    Extended.finite_le]

end Regions

/-! ## The copies -/

omit [Field K] [LinearOrder K] in
/-- The loop over the samples of a channel fills the window from its index on. -/
lemma foldl_copySample (bufferSize : ℕ) (target : AudioBuffer (WithNan K)) (index : ℕ)
    (xs : List (WithNan K)) :
    xs.foldl (copySample bufferSize) (target, index) =
      ({ target with
          data := Function.update target.data 0
            (Cyclic.fill bufferSize (target.data 0) index xs).1 },
        (Cyclic.fill bufferSize (target.data 0) index xs).2) := by
  induction xs generalizing target index with
  | nil => simp
  | cons x xs ih =>
    have hstep : copySample bufferSize (target, index) x =
        (target.setSample 0 index x, Cyclic.next bufferSize index) := rfl
    rw [List.foldl_cons, hstep, ih, Cyclic.fill_cons, AudioBuffer.setSample_data_self]
    simp [AudioBuffer.setSample]

omit [Field K] [LinearOrder K] in
/-- **A block of one channel fills the window** from its index on. -/
lemma copyToWindow_mono (bufferSize : ℕ) (target : AudioBuffer (WithNan K)) (index : ℕ)
    {source : AudioBuffer (WithNan K)} (h : source.numChannels = 1) :
    copyToWindow bufferSize (target, index) source =
      ({ target with
          data := Function.update target.data 0
            (Cyclic.fill bufferSize (target.data 0) index (source.samples 0)).1 },
        (Cyclic.fill bufferSize (target.data 0) index (source.samples 0)).2) := by
  unfold copyToWindow
  rw [h]
  exact foldl_copySample bufferSize target index (source.samples 0)

/-! ## One block -/

/-- The block after the loops of `processBlock`. -/
def compressed (maps : CompressorMaps K) (c : Compressor K) (buffer : AudioBuffer (WithNan K)) :
    AudioBuffer (WithNan K) :=
  (c.processInput maps buffer).compress maps buffer

/-- What a block does to the compressor with automatic make-up gain: each window is written from
its index on, and the gains are those of the windows as they are then. -/
structure AutoBlock (maps : CompressorMaps K) (c c' : Compressor K)
    (before after : AudioBuffer (WithNan K)) : Prop where
  parameter : c'.parameter = { c.parameter with
    makeUpGain := (amp2dB maps c'.autoMakeUpGain.previousMakeUpGain).toWithNan }
  envelope : c'.envelope = c.envelope.processBlock before
  bufferSize : c'.autoMakeUpGain.bufferSize = c.autoMakeUpGain.bufferSize
  input : (c'.autoMakeUpGain.inputBuffer, c'.autoMakeUpGain.inputBufferIndex) =
    copyToWindow c.autoMakeUpGain.bufferSize
      (c.autoMakeUpGain.inputBuffer, c.autoMakeUpGain.inputBufferIndex) before
  output : (c'.autoMakeUpGain.outputBuffer, c'.autoMakeUpGain.outputBufferIndex) =
    copyToWindow c.autoMakeUpGain.bufferSize
      (c.autoMakeUpGain.outputBuffer, c.autoMakeUpGain.outputBufferIndex) after
  inputGain : c'.autoMakeUpGain.inputGain =
    getRMSLevel maps c'.autoMakeUpGain.inputBuffer
  outputGain : c'.autoMakeUpGain.outputGain =
    getRMSLevel maps c'.autoMakeUpGain.outputBuffer
  previousMakeUpGain : c'.autoMakeUpGain.previousMakeUpGain =
    makeUpQuotient c'.autoMakeUpGain.inputGain c'.autoMakeUpGain.outputGain

/-- **A block with automatic make-up gain.** -/
lemma processBlock_auto (maps : CompressorMaps K) {c : Compressor K}
    (hauto : c.parameter.autoMakeUpGain = true) (buffer : AudioBuffer (WithNan K)) :
    AutoBlock maps c (c.processBlock maps buffer).1 buffer (c.compressed maps buffer) := by
  constructor <;>
    simp [processBlock, compressed, processInput, processOutput, copyAutoMakeUpBuffer, hauto]

/-- A block without automatic make-up gain leaves the windows alone. -/
lemma processBlock_manual (maps : CompressorMaps K) {c : Compressor K}
    (hmanual : c.parameter.autoMakeUpGain = false) (buffer : AudioBuffer (WithNan K)) :
    (c.processBlock maps buffer).1 =
      { c with
        envelope := c.envelope.processBlock buffer
        autoMakeUpGain :=
          { c.autoMakeUpGain with
            previousMakeUpGain := dB2amp maps c.parameter.makeUpGain.toExtended } } := by
  simp [processBlock, processInput, processOutput, hmanual]

/-- A block leaves the settings alone, but for the make-up gain. -/
lemma processBlock_parameter (maps : CompressorMaps K) (c : Compressor K)
    (buffer : AudioBuffer (WithNan K)) :
    ∃ makeUpGain, (c.processBlock maps buffer).1.parameter = { c.parameter with makeUpGain } := by
  cases hauto : c.parameter.autoMakeUpGain with
  | true => exact ⟨_, (processBlock_auto maps hauto buffer).parameter⟩
  | false =>
    rw [processBlock_manual maps hauto]
    exact ⟨c.parameter.makeUpGain, rfl⟩

lemma processBlock_ratio (maps : CompressorMaps K) (c : Compressor K)
    (buffer : AudioBuffer (WithNan K)) :
    (c.processBlock maps buffer).1.parameter.ratio = c.parameter.ratio := by
  obtain ⟨makeUpGain, h⟩ := c.processBlock_parameter maps buffer
  rw [h]

/-- The first part of `processBlock` leaves the settings alone, and runs the follower. -/
lemma processInput_parameter (maps : CompressorMaps K) (c : Compressor K)
    (buffer : AudioBuffer (WithNan K)) :
    (c.processInput maps buffer).parameter = c.parameter ∧
      (c.processInput maps buffer).envelope = c.envelope.processBlock buffer := by
  unfold processInput
  dsimp only
  split_ifs
  · exact ⟨rfl, rfl⟩
  · exact ⟨rfl, rfl⟩

/-- The block given back: with automatic make-up gain a ramp is applied. -/
lemma processBlock_snd (maps : CompressorMaps K) (c : Compressor K)
    (buffer : AudioBuffer (WithNan K)) :
    (c.processBlock maps buffer).2 =
      if c.parameter.autoMakeUpGain then
        applyGainRamp maps (c.compressed maps buffer) c.autoMakeUpGain.previousMakeUpGain
          (c.processBlock maps buffer).1.autoMakeUpGain.previousMakeUpGain
      else c.compressed maps buffer := by
  cases hauto : c.parameter.autoMakeUpGain <;>
    simp [processBlock, compressed, processInput, processOutput, copyAutoMakeUpBuffer, hauto]

end Compressor
