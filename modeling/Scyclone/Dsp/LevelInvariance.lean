import Scyclone.Dsp.MakeUpGain
import Scyclone.Dsp.TransientSplitter

set_option relaxedAutoImplicit false
set_option autoImplicit false

/-!
# The level of the input

The transient splitter compares its followers with each other, and the compressor compares its
follower with the threshold. So a louder input comes out louder by the same factor: of the splitter
as it is, and of the compressor with a threshold that is raised by as many decibels.

## Main definitions

* `AudioBuffer.louder`, `Envelope.louder` — samples and followers, times a factor.
* `ProcessorTransientSplitter.call`, `Compressor.call` — the calls, with the blocks given back.
* `Compressor.louder`, `DecibelMaps` — the compressor with the raised threshold.

## Main results

* `Envelope.louder_processBlock` — a follower of louder blocks.
* `splitter_ignores_level` — the splitter in every run.
* `compressor_relative_to_threshold` — the compressor in every run.
-/

open WithNan
open Extended (finite)

variable {K : Type} [Field K] [LinearOrder K] [IsStrictOrderedRing K] {g : K}

/-! ## Numbers -/

namespace WithNan

omit [LinearOrder K] [IsStrictOrderedRing K] in
@[simp] lemma louder_sub (x y : WithNan K) : number g * x - number g * y = number g * (x - y) := by
  cases x <;> cases y <;> simp [mul_sub]

omit [LinearOrder K] [IsStrictOrderedRing K] in
@[simp] lemma blend_louder (w : K) (x y : WithNan K) :
    blend w (number g * x) (number g * y) = number g * blend w x y := by
  cases x <;> cases y <;> simp [blend]
  ring

omit [LinearOrder K] [IsStrictOrderedRing K] in
@[simp] lemma louder_add (x y : WithNan K) : number g * x + number g * y = number g * (x + y) := by
  cases x <;> cases y <;> simp [mul_add]

omit [LinearOrder K] [IsStrictOrderedRing K] in
@[simp] lemma mul_louder (x y : WithNan K) : x * (number g * y) = number g * (x * y) := by
  cases x <;> cases y <;> simp [mul_left_comm]

omit [LinearOrder K] [IsStrictOrderedRing K] in
@[simp] lemma louder_mul (x y : WithNan K) : number g * x * y = number g * (x * y) := by
  cases x <;> cases y <;> simp [mul_assoc]

omit [LinearOrder K] [IsStrictOrderedRing K] in
@[simp] lemma isNan_louder (x : WithNan K) : (number g * x).isNan = x.isNan := by
  cases x <;> rfl

omit [LinearOrder K] [IsStrictOrderedRing K] in
@[simp] lemma louder_zero : number g * (0 : WithNan K) = 0 := by
  rw [zero_eq, number_mul, mul_zero]

lemma louder_lt (hg : 0 < g) (x y : WithNan K) : number g * x < number g * y ↔ x < y := by
  cases x <;> cases y <;> simp [hg]

lemma abs_louder (hg : 0 < g) (x : WithNan K) : (number g * x).abs = number g * x.abs := by
  cases x with
  | nan => rfl
  | number a => rw [number_mul, abs_number, abs_number, number_mul, abs_mul, abs_of_pos hg]

lemma stdMax_louder (hg : 0 < g) (x y : WithNan K) :
    stdMax (number g * x) (number g * y) = number g * stdMax x y := by
  unfold stdMax
  simp only [louder_lt hg]
  split_ifs <;> rfl

omit [IsStrictOrderedRing K] in
lemma div_louder (hg : g ≠ 0) (x y : WithNan K) :
    number g * x / (number g * y) = x / y := by
  cases x with
  | nan => rfl
  | number a =>
    cases y with
    | nan => rfl
    | number b =>
      by_cases hb : b = 0
      · subst hb
        rw [number_mul, number_mul, mul_zero, number_div_zero, number_div_zero]
      · rw [number_mul, number_mul, number_div_of_ne _ (mul_ne_zero hg hb), number_div_of_ne _ hb,
          mul_div_mul_left _ _ hg]

end WithNan

/-! ## Followers -/

/-- A buffer with every sample times a factor. -/
def AudioBuffer.louder (g : K) (b : AudioBuffer (WithNan K)) : AudioBuffer (WithNan K) :=
  { b with data := fun c i => number g * b.data c i }

omit [LinearOrder K] [IsStrictOrderedRing K] in
/-- A change of the size of a louder buffer, after which the memory holds louder samples. -/
lemma AudioBuffer.louder_setSize (b : AudioBuffer (WithNan K)) (numChannels numSamples : ℕ)
    (memory : ℕ → ℕ → WithNan K) :
    (b.louder g).setSize numChannels numSamples (fun c i => number g * memory c i) =
      (b.setSize numChannels numSamples memory).louder g := by
  unfold setSize louder
  dsimp only
  split_ifs <;> rfl

namespace Envelope

/-- A follower with everything it holds times a factor. -/
def louder (g : K) (e : Envelope K) : Envelope K :=
  { e with
    envelope := fun i => number g * e.envelope i
    detector := fun i => number g * e.detector i
    lastValue := number g * e.lastValue }

/-- Louder blocks are detected as such. -/
lemma detected_louder (hg : 0 < g) (b : AudioBuffer (WithNan K)) :
    detected (b.louder g) = (detected b).map (number g * ·) := by
  unfold detected
  rw [List.map_map]
  refine List.map_congr_left fun i _ => ?_
  show detect (b.louder g) i = number g * detect b i
  unfold detect
  show (if b.numChannels = 1 then number g * b.data 0 i
    else stdMax (number g * b.data 0 i).abs (number g * b.data 1 i).abs) = _
  split_ifs
  · rfl
  · rw [abs_louder hg, abs_louder hg, stdMax_louder hg]
    rfl

/-- **A pass of a follower** with louder values. -/
lemma follow_louder (hg : 0 < g) (e : Envelope K) (l d : WithNan K) :
    (e.louder g).follow (number g * l) (number g * d) = number g * e.follow l d := by
  have hstored : (if (number g * l).isNan then 0 else number g * l) =
      number g * (if l.isNan then 0 else l) := by
    rw [isNan_louder]
    split_ifs
    · rw [louder_zero]
    · rfl
  unfold follow followBy
  by_cases ht : e.attackTime = 0
  · simp only [louder, ht, if_true, louder_lt hg, blend_louder]
    split_ifs <;> rfl
  · simp only [louder, ht, if_false, hstored, louder_lt hg, blend_louder]
    split_ifs <;> rfl

omit [LinearOrder K] [IsStrictOrderedRing K] in
/-- Cells overwritten by louder values. -/
lemma overwrite_louder (cells : ℕ → WithNan K) (xs : List (WithNan K)) :
    overwrite (fun i => number g * cells i) (xs.map (number g * ·)) =
      fun i => number g * overwrite cells xs i := by
  funext i
  simp only [overwrite, List.getElem?_map]
  cases xs[i]? <;> rfl

/-- **A follower of louder blocks.** -/
lemma louder_processBlock (hg : 0 < g) (e : Envelope K) (b : AudioBuffer (WithNan K)) :
    (e.louder g).processBlock (b.louder g) = (e.processBlock b).louder g := by
  rw [processBlock_eq, processBlock_eq, detected_louder hg]
  have hstates : Scan.states (e.louder g).follow (e.louder g).lastValue
      ((detected b).map (number g * ·)) =
        (Scan.states e.follow e.lastValue (detected b)).map (number g * ·) :=
    Scan.states_equivariant (follow_louder hg e) _ _
  have hlast : ((detected b).map (number g * ·)).foldl (e.louder g).follow
      (e.louder g).lastValue = number g * (detected b).foldl e.follow e.lastValue :=
    Scan.foldl_equivariant (follow_louder hg e) _ _
  rw [hstates, hlast]
  simp only [louder, overwrite_louder]

end Envelope

omit [LinearOrder K] [IsStrictOrderedRing K] in
/-- Zeros are pushed to louder cells alike. -/
lemma Envelope.louder_pushZeros (e : Envelope K) (n : ℕ) :
    (e.louder g).pushZeros n = (e.pushZeros n).louder g := by
  have hpush : ∀ cells : ℕ → WithNan K,
      (fun i => if e.size ≤ i ∧ i < e.size + n then 0 else number g * cells i) =
        fun i => number g * if e.size ≤ i ∧ i < e.size + n then 0 else cells i := by
    intro cells
    funext i
    split_ifs
    · rw [louder_zero]
    · rfl
  unfold pushZeros louder
  congr 1
  · exact hpush e.envelope
  · exact hpush e.detector

omit [LinearOrder K] [IsStrictOrderedRing K] in
/-- A loop over louder samples. -/
lemma AudioBuffer.louder_forEachSample {f f' : ℕ → ℕ → WithNan K → WithNan K}
    (h : ∀ c i x, f' c i (number g * x) = number g * f c i x) (b : AudioBuffer (WithNan K)) :
    (b.louder g).forEachSample f' = (b.forEachSample f).louder g := by
  rw [forEachSample_eq, forEachSample_eq]
  ext c i
  · rfl
  · rfl
  · simp only [louder, h]
    split_ifs <;> rfl

/-! ## The splitter -/

/-- A splitter with everything its followers hold times a factor. -/
def TransientSplitter.louder (g : K) (s : TransientSplitter K) : TransientSplitter K :=
  { s with
    detector := s.detector.louder g
    envelope1 := s.envelope1.louder g
    envelope2 := s.envelope2.louder g }

/-- **The gain of a sample** depends on how the followers compare. -/
lemma TransientSplitter.mixSample_louder (hg : 0 < g) (parameter : TransientSplitterParameter K)
    (detector envelope1 envelope2 sample : WithNan K) :
    mixSample parameter (number g * detector) (number g * envelope1) (number g * envelope2)
        (number g * sample) =
      number g * mixSample parameter detector envelope1 envelope2 sample := by
  unfold mixSample
  simp only [louder_sub, abs_louder hg, div_louder hg.ne', mul_louder, louder_add]

/-- **A louder block** comes out louder by the same factor. -/
lemma TransientSplitter.louder_processBlock (hg : 0 < g) (s : TransientSplitter K)
    (b : AudioBuffer (WithNan K)) :
    (s.louder g).processBlock (b.louder g) =
      ((s.processBlock b).1.louder g, (s.processBlock b).2.louder g) := by
  have hfollowed : (s.louder g).followed (b.louder g) = (s.followed b).louder g := by
    simp only [followed, louder, Envelope.louder_processBlock hg]
  refine Prod.ext hfollowed ?_
  simp only [processBlock, hfollowed]
  exact AudioBuffer.louder_forEachSample (fun _ _ _ => mixSample_louder hg _ _ _ _ _) b

namespace ProcessorTransientSplitter

/-- A processor with everything its followers hold times a factor. -/
def louder (g : K) (p : ProcessorTransientSplitter K) : ProcessorTransientSplitter K :=
  { p with transientSplitter := p.transientSplitter.louder g }

/-- What happens to a processor, with the block given back. -/
def call (exp : K → K) (p : ProcessorTransientSplitter K) :
    Event K → ProcessorTransientSplitter K × Option (AudioBuffer (WithNan K))
  | .prepare spec => (p.prepare exp spec, none)
  | .parameterChanged parameterID newValue => (p.parameterChanged exp parameterID newValue, none)
  | .processBlock buffer => ((p.processBlock buffer).1, some (p.processBlock buffer).2)

/-- The same with a louder block. -/
def Event.louder (g : K) : Event K → Event K
  | .processBlock buffer => .processBlock (buffer.louder g)
  | e => e

/-- **Every call** leaves a louder splitter louder, and gives back a louder block. -/
lemma louder_call (hg : 0 < g) (exp : K → K) (p : ProcessorTransientSplitter K) (e : Event K) :
    (p.louder g).call exp (e.louder g) =
      ((p.call exp e).1.louder g, (p.call exp e).2.map (AudioBuffer.louder g)) := by
  cases e with
  | prepare spec =>
    simp only [Event.louder, call, prepare, louder, TransientSplitter.prepare,
      TransientSplitter.louder, Envelope.prepare, ← Envelope.louder_pushZeros, Option.map_none]
    rfl
  | parameterChanged parameterID newValue =>
    refine Prod.ext ?_ rfl
    show (p.louder g).parameterChanged exp parameterID newValue =
      (p.parameterChanged exp parameterID newValue).louder g
    unfold parameterChanged setShaper
    split_ifs <;> first | rfl | contradiction
  | processBlock buffer =>
    simp only [Event.louder, call, processBlock, louder,
      TransientSplitter.louder_processBlock hg, Option.map_some]

end ProcessorTransientSplitter

/-- **The transient splitter does not depend on the level of its input.** Whatever is prepared and
set between the blocks, if all blocks are louder by a factor, the blocks given back are.

**Proof sketch.** Each call commutes with the factor (`louder_call`), so the run does, from the
louder splitter. As it is constructed a splitter holds zeros, and is its own louder version. -/
theorem splitter_ignores_level (hg : 0 < g) (exp : K → K) (apvts : ParameterValues)
    (no : NetworkId) (es : List (ProcessorTransientSplitter.Event K)) :
    (Scan.run (ProcessorTransientSplitter.call exp)
        (ProcessorTransientSplitter.construct exp apvts no)
        (es.map (ProcessorTransientSplitter.Event.louder g))).2 =
      (Scan.run (ProcessorTransientSplitter.call exp)
        (ProcessorTransientSplitter.construct exp apvts no) es).2.map
        (Option.map (AudioBuffer.louder g)) := by
  have hstart : (ProcessorTransientSplitter.construct exp apvts no).louder g =
      ProcessorTransientSplitter.construct exp apvts no := by
    have hsplitter :
        (ProcessorTransientSplitter.construct exp apvts no).transientSplitter.louder g =
          (ProcessorTransientSplitter.construct exp apvts no).transientSplitter := by
      rw [ProcessorTransientSplitter.construct_transientSplitter]
      simp only [TransientSplitter.louder, Envelope.louder, Envelope.construct,
        Envelope.setAttackTime, louder_zero]
    rw [ProcessorTransientSplitter.louder, hsplitter]
  have hrun := Scan.run_equivariant (χ := Option.map (AudioBuffer.louder g))
    (ProcessorTransientSplitter.louder_call hg exp)
    (ProcessorTransientSplitter.construct exp apvts no) es
  rw [hstart] at hrun
  rw [hrun]

/-- The theorem at work: a sample of 1 and one of 2, after `prepare`. -/
theorem splitter_ignores_level_of_two :
    (Scan.run (ProcessorTransientSplitter.call (K := ℚ) fun _ => 1 / 2)
        (ProcessorTransientSplitter.construct (fun _ => 1 / 2) (fun _ => 1 / 4) .network1)
        ([.prepare ⟨48000, 1, 1⟩, .processBlock (.single 1)].map
          (ProcessorTransientSplitter.Event.louder 2))).2 =
      (Scan.run (ProcessorTransientSplitter.call (K := ℚ) fun _ => 1 / 2)
        (ProcessorTransientSplitter.construct (fun _ => 1 / 2) (fun _ => 1 / 4) .network1)
        [.prepare ⟨48000, 1, 1⟩, .processBlock (.single 1)]).2.map
        (Option.map (AudioBuffer.louder 2)) :=
  splitter_ignores_level (by norm_num) _ _ _ _

/-! ## The compressor -/

/-- What `std::log10` promises of positive numbers: the logarithm of a product, here with a factor
`g` whose logarithm is `s`. -/
def DecibelMaps (maps : CompressorMaps K) (g s : K) : Prop :=
  ∀ x, 0 < x → maps.log10 (g * x) = s + maps.log10 x

variable {maps : CompressorMaps K} {s : K}

/-- A louder value has a level that is higher by so many decibels; silence stays at minus
infinity. -/
lemma amp2dB_louder (hg : 0 < g) (h : DecibelMaps maps g s) (x : WithNan K) :
    amp2dB maps (number g * x) = amp2dB maps x + finite (20 * s) := by
  cases x with
  | nan => simp
  | number a =>
    rcases lt_trichotomy a 0 with hneg | rfl | hpos
    · rw [number_mul, amp2dB_of_neg maps hneg,
        amp2dB_of_neg maps (mul_neg_of_pos_of_neg hg hneg), Extended.nan_add]
    · rw [number_mul, mul_zero, ← zero_eq, amp2dB_zero]
      rfl
    · rw [number_mul, amp2dB_of_pos maps hpos, amp2dB_of_pos maps (mul_pos hg hpos), h a hpos,
        Extended.finite_add, mul_add, add_comm]

/-- The windows and their levels times a factor. The make-up gain is their quotient. -/
def AutoMakeUpGain.louder (g : K) (a : AutoMakeUpGain K) : AutoMakeUpGain K :=
  { a with
    inputBuffer := a.inputBuffer.louder g
    outputBuffer := a.outputBuffer.louder g
    inputGain := number g * a.inputGain
    outputGain := number g * a.outputGain }

namespace Compressor

/-- A compressor with everything that it holds of the signal times a factor, and a threshold that
is higher by so many decibels. -/
def louder (g s : K) (c : Compressor K) : Compressor K where
  parameter := { c.parameter with threshold := c.parameter.threshold + 20 * s }
  autoMakeUpGain := c.autoMakeUpGain.louder g
  envelope := c.envelope.louder g

/-! ### The curve -/

omit [IsStrictOrderedRing K] in
/-- The regions multiply the sample by a gain. -/
lemma processRegions_louder (parameter : CompressorParameter K)
    (beyond above : Extended K) (sample : WithNan K) :
    processRegions maps parameter beyond above (number g * sample) =
      number g * processRegions maps parameter beyond above sample := by
  unfold processRegions applyControlVoltage applyMakeUpGain
  split_ifs <;> first | rfl | exact mul_louder _ _

/-- **The curve depends on the level above the threshold.** -/
lemma processSample_louder (hg : 0 < g) (h : DecibelMaps maps g s)
    (parameter : CompressorParameter K) (envelope sample : WithNan K) :
    processSample maps { parameter with threshold := parameter.threshold + 20 * s }
        (number g * envelope) (number g * sample) =
      number g * processSample maps parameter envelope sample := by
  have habove : amp2dB maps (number g * envelope) - finite (parameter.threshold + 20 * s) =
      amp2dB maps envelope - finite parameter.threshold := by
    rw [amp2dB_louder hg h]
    cases amp2dB maps envelope with
    | finite level => simp
    | _ => rfl
  have hbelow : finite (parameter.threshold + 20 * s) - amp2dB maps (number g * envelope) =
      finite parameter.threshold - amp2dB maps envelope := by
    rw [amp2dB_louder hg h]
    cases amp2dB maps envelope with
    | finite level => simp
    | _ => rfl
  simp only [processSample, habove, hbelow]
  cases parameter.compType with
  | upward => exact processRegions_louder _ _ _ _
  | expander => exact processRegions_louder _ _ _ _

/-! ### The windows -/

omit [LinearOrder K] [IsStrictOrderedRing K] in
/-- Windows that louder blocks are copied to.

**Proof sketch.** One sample that is louder is written where the other one is, into a window that is
louder. The loop is carried over by `Scan.foldl_equivariant`. -/
lemma copyToWindow_louder (bufferSize : ℕ) (target : AudioBuffer (WithNan K) × ℕ)
    (source : AudioBuffer (WithNan K)) :
    copyToWindow bufferSize (target.1.louder g, target.2) (source.louder g) =
      ((copyToWindow bufferSize target source).1.louder g,
        (copyToWindow bufferSize target source).2) := by
  have hsample : ∀ (t : AudioBuffer (WithNan K) × ℕ) (x : WithNan K),
      copySample bufferSize (t.1.louder g, t.2) (number g * x) =
        ((copySample bufferSize t x).1.louder g, (copySample bufferSize t x).2) := by
    intro t x
    refine Prod.ext ?_ rfl
    ext c i
    · rfl
    · rfl
    · simp only [copySample, AudioBuffer.setSample, AudioBuffer.louder]
      by_cases hc : c = 0
      · subst hc
        simp only [Function.update_self, Function.update_apply]
        split_ifs <;> rfl
      · simp only [Function.update_of_ne hc]
  have hsamples : ∀ c, (source.louder g).samples c = (source.samples c).map (number g * ·) := by
    intro c
    simp only [AudioBuffer.samples, AudioBuffer.louder, List.map_map]
    rfl
  unfold copyToWindow
  refine List.foldl_hom (fun t : AudioBuffer (WithNan K) × ℕ => (t.1.louder g, t.2)) fun t c => ?_
  rw [hsamples]
  exact Scan.foldl_equivariant
    (φ := fun t : AudioBuffer (WithNan K) × ℕ => (t.1.louder g, t.2)) hsample t _

omit [LinearOrder K] [IsStrictOrderedRing K] in
lemma copyAutoMakeUpBuffer_louder (a : AutoMakeUpGain K) (source : AudioBuffer (WithNan K))
    (input : Bool) :
    copyAutoMakeUpBuffer (a.louder g) (source.louder g) input =
      (copyAutoMakeUpBuffer a source input).louder g := by
  have hcopy : ∀ (window : AudioBuffer (WithNan K)) (index : ℕ),
      copyToWindow a.bufferSize (window.louder g, index) (source.louder g) =
        ((copyToWindow a.bufferSize (window, index) source).1.louder g,
          (copyToWindow a.bufferSize (window, index) source).2) :=
    fun window index => copyToWindow_louder a.bufferSize (window, index) source
  unfold copyAutoMakeUpBuffer AutoMakeUpGain.louder
  cases input
  · simp only [Bool.false_eq_true, if_false, hcopy]
  · simp only [if_true, hcopy]

/-- **The level of a louder window.** -/
lemma getRMSLevel_louder (h : ExactMaps maps) (hg : 0 < g) (b : AudioBuffer (WithNan K)) :
    getRMSLevel maps (b.louder g) = number g * getRMSLevel maps b := by
  have hsamples : (b.louder g).samples 0 = (b.samples 0).map (number g * ·) := by
    simp only [AudioBuffer.samples, AudioBuffer.louder, List.map_map]
    rfl
  rw [getRMSLevel, hsamples, h.rmsLevel.map_mul hg.le]
  rfl

/-- The quotient of two levels. -/
lemma makeUpQuotient_louder (hg : 0 < g) (x y : WithNan K) :
    makeUpQuotient (number g * x) (number g * y) = makeUpQuotient x y := by
  unfold makeUpQuotient
  have hpos : 0 < number g * x ↔ 0 < x := by
    rw [← louder_lt hg 0 x, louder_zero]
  simp only [hpos, louder_lt hg, div_louder hg.ne']

/-! ### A block -/

/-- The level of the input and the follower, for a louder block. -/
lemma processInput_louder (h : ExactMaps maps) (hg : 0 < g) (c : Compressor K)
    (b : AudioBuffer (WithNan K)) :
    (c.louder g s).processInput maps (b.louder g) = (c.processInput maps b).louder g s := by
  by_cases hauto : c.parameter.autoMakeUpGain = true
  · have hlevel := getRMSLevel_louder h hg
      (copyAutoMakeUpBuffer c.autoMakeUpGain b true).inputBuffer
    simp only [processInput, louder, hauto, if_true, copyAutoMakeUpBuffer_louder,
      Envelope.louder_processBlock hg]
    simp only [AutoMakeUpGain.louder, hlevel]
  · simp only [processInput, louder, hauto, Bool.false_eq_true, if_false,
      Envelope.louder_processBlock hg]

omit [LinearOrder K] [IsStrictOrderedRing K] in
/-- A gain ramp over a louder block. -/
lemma applyGainRamp_louder (b : AudioBuffer (WithNan K)) (startGain endGain : WithNan K) :
    applyGainRamp maps (b.louder g) startGain endGain =
      (applyGainRamp maps b startGain endGain).louder g := by
  unfold applyGainRamp
  refine AudioBuffer.louder_forEachSample (fun c i x => ?_) b
  exact louder_mul _ _

/-- The level of the output and the make-up gain, for a louder block. -/
lemma processOutput_louder (h : ExactMaps maps) (hg : 0 < g) (c : Compressor K)
    (b : AudioBuffer (WithNan K)) :
    (c.louder g s).processOutput maps (b.louder g) =
      ((c.processOutput maps b).1.louder g s, (c.processOutput maps b).2.louder g) := by
  by_cases hauto : c.parameter.autoMakeUpGain = true
  · have hlevel := getRMSLevel_louder h hg
      (copyAutoMakeUpBuffer c.autoMakeUpGain b false).outputBuffer
    simp only [processOutput, louder, hauto, if_true, copyAutoMakeUpBuffer_louder]
    simp only [AutoMakeUpGain.louder, hlevel, makeUpQuotient_louder hg, applyGainRamp_louder]
  · simp only [processOutput, louder, hauto, Bool.false_eq_true, if_false]
    rfl

/-- **A louder block** comes out louder by the same factor. -/
lemma processBlock_louder (h : ExactMaps maps) (hg : 0 < g) (hdecibel : DecibelMaps maps g s)
    (c : Compressor K) (b : AudioBuffer (WithNan K)) :
    (c.louder g s).processBlock maps (b.louder g) =
      ((c.processBlock maps b).1.louder g s, (c.processBlock maps b).2.louder g) := by
  have hcompress : ((c.processInput maps b).louder g s).compress maps (b.louder g) =
      ((c.processInput maps b).compress maps b).louder g := by
    unfold compress
    refine AudioBuffer.louder_forEachSample (fun _ j x => ?_) b
    exact processSample_louder hg hdecibel _ _ _
  simp only [processBlock, processInput_louder h hg, hcompress, processOutput_louder h hg]

/-! ### Calls -/

/-- The calls, with the block given back. -/
def call (maps : CompressorMaps K) (c : Compressor K) :
    Event K → Compressor K × Option (AudioBuffer (WithNan K))
  | .processBlock buffer => ((c.processBlock maps buffer).1, some (c.processBlock maps buffer).2)
  | e => ((c.step maps e).getD c, none)

/-- What the memory of the windows happens to hold, times a factor. -/
def WindowMemory.louder (g : K) (memory : WindowMemory K) : WindowMemory K where
  inputBuffer c i := number g * memory.inputBuffer c i
  outputBuffer c i := number g * memory.outputBuffer c i

/-- The same call with a louder block, or with a threshold that is higher by so many decibels. What
the memory happens to hold after a change of the size of the windows is louder too. -/
def Event.louder (g s : K) : Event K → Event K
  | .processBlock buffer => .processBlock (buffer.louder g)
  | .setThreshold newThreshold => .setThreshold (newThreshold + 20 * s)
  | .prepare spec memory => .prepare spec (memory.louder g)
  | e => e

/-- **Every call** leaves a louder compressor louder, and gives back a louder block. -/
lemma call_louder (h : ExactMaps maps) (hg : 0 < g) (hdecibel : DecibelMaps maps g s)
    (c : Compressor K) (e : Event K) :
    (c.louder g s).call maps (e.louder g s) =
      ((c.call maps e).1.louder g s, (c.call maps e).2.map (AudioBuffer.louder g)) := by
  cases e with
  | prepare spec memory =>
    simp only [Event.louder, call, step, prepare, louder, AutoMakeUpGain.louder,
      WindowMemory.louder, AudioBuffer.louder_setSize, Envelope.prepare,
      ← Envelope.louder_pushZeros, Option.map_none, Option.getD_some]
    rfl
  | processBlock buffer =>
    simp only [Event.louder, call, processBlock_louder h hg hdecibel, Option.map_some]
  | setCompressionTypeIndex newCompressionTypeIndex =>
    simp only [Event.louder, call, step, setCompressionTypeIndex, Option.getD_some,
      Option.map_none]
    split_ifs <;> rfl
  | setThreshold newThreshold | setRatio newRatio | setKnee newKnee | setMakeUpGain newMakeUpGain
  | setRange newRange | setAttackTime newAttackTime | setReleaseTime newReleaseTime
  | setAutoMakeUpGain newBool => rfl

end Compressor

/-- **The compressor depends on the level relative to the threshold.** Two compressors are called
alike, but that all blocks of the second are louder by a factor and its thresholds are higher by as
many decibels; where a `prepare` changes the size of the windows, the memory holds louder samples
too. Then the blocks that it gives back are louder by this factor, with and without automatic
make-up gain, for both types. -/
theorem compressor_relative_to_threshold (h : ExactMaps maps) (hg : 0 < g)
    (hdecibel : DecibelMaps maps g s) (c : Compressor K) (es : List (Compressor.Event K)) :
    (Scan.run (Compressor.call maps) (c.louder g s)
        (es.map (Compressor.Event.louder g s))).2 =
      (Scan.run (Compressor.call maps) c es).2.map (Option.map (AudioBuffer.louder g)) := by
  rw [Scan.run_equivariant (χ := Option.map (AudioBuffer.louder g))
    (Compressor.call_louder h hg hdecibel)]

lemma decibelMaps_real {factor : ℝ} (h : 0 < factor) :
    DecibelMaps realMaps factor (Real.logb 10 factor) :=
  fun _ hx => Real.logb_mul h.ne' hx.ne'

/-- The compressor with the threshold at -20 dB, without an attack time and automatic make-up
gain. -/
noncomputable def compressing : Compressor ℝ :=
  (((silentCompressor.prepare realMaps ⟨48000, 1, 1⟩ zeroMemory).setThreshold (-20)).setAttackTime
    realMaps 0).setAutoMakeUpGain false

/-- It compresses a sample of 1 by 15 dB.

**Proof sketch.** Without an attack time the follower has the value 1, so the level is 0 dB, 20 dB
above the threshold. The slope is -3/4, so 15 dB are taken away, which is within the range of 80 dB.
-/
lemma compressing_single :
    (compressing.processBlock realMaps (.single 1)).2.data 0 0 =
      number ((10 : ℝ) ^ (-15 / 20 : ℝ)) := by
  obtain ⟨hparameter, henvelope⟩ := compressing.processInput_parameter realMaps (.single 1)
  have hvalue : (compressing.envelope.processBlock (.single 1)).getSample 0 = number 1 := by
    rw [Envelope.getSample_single]
    show compressing.envelope.follow (number 0) (number 1) = number 1
    rw [Envelope.follow_number, if_pos zero_lt_one]
    exact congrArg number (if_pos rfl)
  have hlevel : amp2dB realMaps (number (1 : ℝ)) = finite 0 := by
    rw [amp2dB_of_pos realMaps one_pos]
    show finite (20 * Real.logb 10 1) = finite 0
    rw [Real.logb_one, mul_zero]
  have hregion := Compressor.processRegions_finite realMaps compressing.parameter (number 1)
    (show (4 : ℝ) ≠ 0 by norm_num) (show (4 : ℝ) ≠ 0 by norm_num) (0 - -20) (0 - -20)
  have hbeyond : compressing.parameter.knee < 2 * (0 - -20) :=
    show (4 : ℝ) < 2 * (0 - -20) by norm_num
  rw [if_pos hbeyond] at hregion
  rw [Compressor.processBlock_snd, if_neg (by exact Bool.false_ne_true), Compressor.compressed,
    Compressor.compress, AudioBuffer.forEachSample_eq]
  show Compressor.processSample realMaps (compressing.processInput realMaps (.single 1)).parameter
    ((compressing.processInput realMaps (.single 1)).envelope.getSample 0) (number 1) = _
  rw [hparameter, henvelope, hvalue]
  show Compressor.processRegions realMaps compressing.parameter (amp2dB realMaps (number 1) -
    finite (-20)) (amp2dB realMaps (number 1) - finite (-20)) (number 1) = _
  rw [hlevel, Extended.finite_sub, hregion]
  show dB2amp realMaps (Extended.stdMax (finite ((1 / 4 - 1) * (0 - -20))) (finite (-80)) +
    finite 0) * number 1 = _
  rw [Extended.stdMax_finite, Extended.finite_add, dB2amp_finite, number_mul, mul_one]
  norm_num [realMaps]

/-- The theorem at work: blocks with a sample of 1 without and with automatic make-up gain, and such
that are 20 dB louder with a threshold that is 20 dB higher. The first sample is 20 dB above the
threshold, and compressed by 15 dB. -/
theorem compressor_relative_to_threshold_of_ten :
    (Scan.run (Compressor.call realMaps) (silentCompressor.louder 10 1)
        ([.prepare ⟨48000, 1, 1⟩ zeroMemory, .setThreshold (-20), .setAttackTime 0,
          .setAutoMakeUpGain false, .processBlock (.single 1), .setRange 40,
          .setAutoMakeUpGain true, .processBlock (.single 1)].map
          (Compressor.Event.louder 10 1))).2 =
      (Scan.run (Compressor.call realMaps) silentCompressor
        [.prepare ⟨48000, 1, 1⟩ zeroMemory, .setThreshold (-20), .setAttackTime 0,
          .setAutoMakeUpGain false, .processBlock (.single 1), .setRange 40,
          .setAutoMakeUpGain true, .processBlock (.single 1)]).2.map
        (Option.map (AudioBuffer.louder 10)) ∧
    ∃ block, (Scan.run (Compressor.call realMaps) silentCompressor
        [.prepare ⟨48000, 1, 1⟩ zeroMemory, .setThreshold (-20), .setAttackTime 0,
          .setAutoMakeUpGain false, .processBlock (.single 1), .setRange 40,
          .setAutoMakeUpGain true, .processBlock (.single 1)]).2[4]? = some (some block) ∧
      block.data 0 0 = number ((10 : ℝ) ^ (-15 / 20 : ℝ)) := by
  have hdecibel := decibelMaps_real (show (0 : ℝ) < 10 by norm_num)
  rw [Real.logb_self_eq_one (by norm_num)] at hdecibel
  exact ⟨compressor_relative_to_threshold exactMaps_real (by norm_num) hdecibel _ _, _, rfl,
    compressing_single⟩
