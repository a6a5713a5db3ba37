import Scyclone.Plugin.PluginTiming

set_option relaxedAutoImplicit false
set_option autoImplicit false

/-!
# From the host to the host

The host sends stereo blocks of the size it announced. If both inference threads keep up, the two
networks come out in step: each gives back its own model's output, delayed by the one latency
that the plugin reports. With a chain that leaves the signal alone, the host gets the output of
the first network's model for the average of its two channels.

## Main definitions

* `PluginEvent.HasBlocks`, `TimelyNetworks` — what is asked of the host and of the threads.
* `InStep` — the plugin while both threads keep up.
* `Effects.Neutral`, `PluginEvent.Neutral` — a chain and parameters that leave the signal alone.
* `DelayedPlugin` — the host's output is the delayed output of the model.

## Main results

* `networks_in_step` — both networks along whole runs, whatever the rest of the chain does.
* `plugin_delays` — the output of the plugin along whole runs.
-/

variable {F S File E : Type} [FloatArithmetic F]

/-- The inference threads keep up: for either network, an inference that was started in callback
`n` has ended before callback `n + c` takes the output. -/
def TimelyNetworks (fx : Effects F E) (c : ℕ) (r : PluginRun F S E) (e : PluginEvent F E) :
    Prop :=
  ∀ k event, r.audioEvent fx e = some (k, event) → Timely c (r.observed k) event

/-! ## Both networks -/

/-- The plugin while both threads keep up. -/
structure InStep (session : NetworkId → S)
    (model : NetworkId → ModelBlock F → ModelBlock F) (period c blockSize : ℕ)
    (r : PluginRun F S E) : Prop where
  sized : Sized blockSize r
  kept : ∀ k, Compensated (session k) (model k) period blockSize (r.observed k)
  onTime : ∀ k, OnTime c blockSize (r.observed k)

/-- **Every timely step keeps both networks in step.**

**Proof sketch.** A step of the plugin is a step of one network at most. That network is on time by
the step lemmas of the processor, and the other one is not touched. -/
theorem InStep.step {fx : Effects F E} {ort : Ort F S File} {session : NetworkId → S}
    {model : NetworkId → ModelBlock F → ModelBlock F}
    (hmodel : ∀ k block, ort.run (session k) block = .ok (model k block))
    {period c blockSize : ℕ} (hpos : 0 < blockSize)
    (hmargin : (c + 1) * blockSize ≤ maxModelCalcSize)
    (hperiod : modelInputSize + 2 * maxModelCalcSize < period) {r r' : PluginRun F S E}
    (h : InStep session model period c blockSize r) {e : PluginEvent F E}
    (he : e.HasBlocks blockSize) (htimely : TimelyNetworks fx c r e)
    (hs : r.step fx ort e = some r') : InStep session model period c blockSize r' := by
  have hobserved := PluginRun.observed_step hs
  cases hevent : r.audioEvent fx e with
  | none =>
    rw [hevent] at hobserved
    refine ⟨h.sized.step he hs, fun k => ?_, fun k => ?_⟩
    · rw [hobserved k]
      exact h.kept k
    · rw [hobserved k]
      exact h.onTime k
  | some taken =>
    obtain ⟨k, event⟩ := taken
    rw [hevent] at hobserved
    obtain ⟨hstep, hother⟩ := hobserved
    have hsize := h.sized.audioEvent he hs hevent
    have hkept := h.kept k
    have honTime := h.onTime k
    have hroom := honTime.noOverrun hkept hmargin hperiod hsize hstep
    refine ⟨h.sized.step he hs, fun j => ?_, fun j => ?_⟩
    · by_cases hj : j = k
      · rw [hj]
        exact hkept.step (hmodel k) hpos hsize hroom hstep
      · rw [hother j hj]
        exact h.kept j
    · by_cases hj : j = k
      · rw [hj]
        exact honTime.step hkept hpos hmargin hperiod hsize (htimely k event hevent) hstep
      · rw [hother j hj]
        exact h.onTime j

/-- The plugin that `prepareToPlay` leaves while no inference is in flight. -/
lemma InStep.start {fx : Effects F E} {session : NetworkId → S}
    (model : NetworkId → ModelBlock F → ModelBlock F) {p : AudioPluginAudioProcessor F S E}
    (hsession : ∀ k, (p.onnxProcessor k).inferenceThread.session = some (session k))
    (hstopped : ∀ k, (p.onnxProcessor k).inferenceThread.thread = .stopped)
    (hloading : ∀ k, (p.onnxProcessor k).inferenceThread.loadingModel = false)
    (totalNumInputChannels : ℕ) (sampleRate : ℚ) (c blockSize : ℕ) :
    InStep session model (max (ProcessSpec.mk sampleRate blockSize 1).ringSize 1) c blockSize
      (PluginRun.start fx p totalNumInputChannels sampleRate blockSize) := by
  refine ⟨Sized.start fx p totalNumInputChannels sampleRate blockSize, fun k => ?_, fun k => ?_⟩
  · rw [PluginRun.observed_start]
    exact Compensated.start (hsession k) (by simp [hstopped k]) _ _
  · rw [PluginRun.observed_start]
    exact OnTime.start (hstopped k) (hloading k) _ _ _

/-- Both networks along a run. -/
lemma always_inStep {fx : Effects F E} {ort : Ort F S File} {session : NetworkId → S}
    {model : NetworkId → ModelBlock F → ModelBlock F}
    (hmodel : ∀ k block, ort.run (session k) block = .ok (model k block))
    {p : AudioPluginAudioProcessor F S E}
    (hsession : ∀ k, (p.onnxProcessor k).inferenceThread.session = some (session k))
    (hstopped : ∀ k, (p.onnxProcessor k).inferenceThread.thread = .stopped)
    (hloading : ∀ k, (p.onnxProcessor k).inferenceThread.loadingModel = false)
    {sampleRate : ℚ} (hrate : 32768 ≤ sampleRate) {c blockSize : ℕ} (hpos : 0 < blockSize)
    (hmargin : (c + 1) * blockSize ≤ maxModelCalcSize) {es : List (PluginEvent F E)}
    (hblocks : ∀ e ∈ es, e.HasBlocks blockSize)
    (htimely : Transition.StepsMeet (PluginRun.step fx ort) (TimelyNetworks fx c)
      (PluginRun.start fx p 2 sampleRate blockSize) es) :
    Transition.Always (PluginRun.step fx ort)
      (InStep session model (max (ProcessSpec.mk sampleRate blockSize 1).ringSize 1) c blockSize)
      (PluginRun.start fx p 2 sampleRate blockSize) es := by
  refine Transition.always_of_stepsMeet (fun r e r' h hc hs => ?_)
    (InStep.start model hsession hstopped hloading 2 sampleRate c blockSize)
    (htimely.and (Transition.stepsMeet_of_forall _ hblocks))
  exact h.step hmodel hpos hmargin (ProcessSpec.lt_ringSize hrate) hc.2 hc.1 hs

omit [FloatArithmetic F] in
/-- Both `OnnxProcessor`s have one latency, which the plugin reports. -/
lemma latencySamples_prepareToPlay (fx : Effects F E) (p : AudioPluginAudioProcessor F S E)
    (totalNumInputChannels : ℕ) (sampleRate : ℚ) {blockSize : ℕ} (hpos : 0 < blockSize) :
    (p.prepareToPlay fx totalNumInputChannels sampleRate blockSize).latencySamples =
      (latencyBlocks blockSize * blockSize : ℕ) := by
  have hlatency : ∀ o : OnnxProcessor F S,
      (o.prepare ⟨sampleRate, blockSize, 1⟩).getLatency =
        (latencyBlocks blockSize * blockSize : ℕ) :=
    fun o => OnnxProcessor.prepare_latency o ⟨sampleRate, blockSize, 1⟩ hpos
  simp only [AudioPluginAudioProcessor.prepareToPlay, hlatency, if_true]

/-- **The networks come out in step.** The plugin is prepared at a sample rate of at least 32768 Hz
while no inference is in flight, and the host sends stereo blocks of the size it announced. In
either network an inference started in callback `n` ends before callback `n + c` takes the
output, where `c + 1` blocks are at most `maxModelCalcSize` samples. Whatever the rest of the
chain does and whatever parameters change, the latency that the plugin reports is the delay of
both networks: each gives back its own model's output for its own input, that much later, and
none misses samples. -/
theorem networks_in_step {fx : Effects F E} {ort : Ort F S File} {session : NetworkId → S}
    {model : NetworkId → ModelBlock F → ModelBlock F}
    (hmodel : ∀ k block, ort.run (session k) block = .ok (model k block))
    {p : AudioPluginAudioProcessor F S E}
    (hsession : ∀ k, (p.onnxProcessor k).inferenceThread.session = some (session k))
    (hstopped : ∀ k, (p.onnxProcessor k).inferenceThread.thread = .stopped)
    (hloading : ∀ k, (p.onnxProcessor k).inferenceThread.loadingModel = false)
    {sampleRate : ℚ} (hrate : 32768 ≤ sampleRate) {c blockSize : ℕ} (hpos : 0 < blockSize)
    (hmargin : (c + 1) * blockSize ≤ maxModelCalcSize) {es : List (PluginEvent F E)}
    (hblocks : ∀ e ∈ es, e.HasBlocks blockSize)
    (htimely : Transition.StepsMeet (PluginRun.step fx ort) (TimelyNetworks fx c)
      (PluginRun.start fx p 2 sampleRate blockSize) es) :
    (p.prepareToPlay fx 2 sampleRate blockSize).latencySamples =
        (latencyBlocks blockSize * blockSize : ℕ) ∧
      Transition.Always (PluginRun.step fx ort)
        (fun r => ∀ k, DelayedOutput (model k) blockSize (r.observed k))
        (PluginRun.start fx p 2 sampleRate blockSize) es := by
  refine ⟨latencySamples_prepareToPlay fx p 2 sampleRate hpos, ?_⟩
  exact (always_inStep hmodel hsession hstopped hloading hrate hpos hmargin hblocks
    htimely).mono fun r h k => (h.onTime k).delayedOutput (h.kept k)

/-- Block `i` of two streams of distinct samples, cut into blocks of `size` samples. -/
def stereoRamp (size i : ℕ) : AudioBuffer ExactFloat :=
  ⟨2, size, fun c j => .number ((2 * (i * size + j) + c : ℕ) : ℚ)⟩

/-- A whole callback, with nothing in between. -/
def wholeCallback (E : Type) (size i : ℕ) : List (PluginEvent ExactFloat E) :=
  [.beginBlock (stereoRamp size i), .output1, .send2, .endBlock fun _ => true]

/-- Twelve callbacks. The eighth one completes a block of the model in both networks; the inference
of the first network ends in the ninth callback before its output is taken, that of the second
network between the two networks. -/
def timelySession (E : Type) : List (PluginEvent ExactFloat E) :=
  (List.range 8).flatMap (wholeCallback E 2048) ++
    [.beginBlock (stereoRamp 2048 8), .deliver .network1, .threadEnd .network1, .output1,
      .deliver .network2, .send2, .threadEnd .network2, .endBlock fun _ => true] ++
    [9, 10, 11].flatMap (wholeCallback E 2048)

lemma timelySession_timing (E : Type) : (timelySession E).map PluginEvent.timing =
    (List.replicate 8 [PluginTimingEvent.beginBlock, .output1, .send2, .endBlock]).flatten ++
      [.beginBlock, .deliver .network1, .threadEnd .network1, .output1, .deliver .network2,
        .send2, .threadEnd .network2, .endBlock] ++
      (List.replicate 3 [PluginTimingEvent.beginBlock, .output1, .send2, .endBlock]).flatten := by
  simp [timelySession, wholeCallback, PluginEvent.timing, List.range_succ, List.replicate]

/-- What every event of a whole callback meets, and the other ones of the ninth, the events of
`timelySession` meet.

**Proof sketch.** The session is eight whole callbacks, the ninth one with the deliveries and the
ends of both threads between its halves, and three more whole ones. -/
lemma forall_timelySession {P : PluginEvent ExactFloat E → Prop}
    (hbegin : ∀ i, P (.beginBlock (stereoRamp 2048 i))) (houtput : P .output1) (hsend : P .send2)
    (hend : P (.endBlock fun _ => true)) (hdeliver : ∀ k, P (.deliver k))
    (hthread : ∀ k, P (.threadEnd k)) : ∀ e ∈ timelySession E, P e := by
  have hwhole : ∀ is : List ℕ, ∀ e ∈ is.flatMap (wholeCallback E 2048), P e := by
    intro is e he
    obtain ⟨i, -, he⟩ := List.mem_flatMap.mp he
    simp only [wholeCallback, List.mem_cons, List.not_mem_nil, or_false] at he
    rcases he with rfl | rfl | rfl | rfl
    · exact hbegin i
    · exact houtput
    · exact hsend
    · exact hend
  intro e he
  simp only [timelySession, List.mem_append] at he
  rcases he with (he | he) | he
  · exact hwhole _ e he
  · simp only [List.mem_cons, List.not_mem_nil, or_false] at he
    rcases he with rfl | rfl | rfl | rfl | rfl | rfl | rfl | rfl
    · exact hbegin 8
    · exact hdeliver .network1
    · exact hthread .network1
    · exact houtput
    · exact hdeliver .network2
    · exact hsend
    · exact hthread .network2
    · exact hend
  · exact hwhole [9, 10, 11] e he

lemma hasBlocks_timelySession : ∀ e ∈ timelySession E, e.HasBlocks 2048 :=
  forall_timelySession (fun _ => ⟨rfl, rfl⟩) trivial trivial trivial (fun _ => trivial)
    fun _ => trivial

section TimelySession

variable (fx : Effects ExactFloat E) (ort : Ort ExactFloat S File)
  {p : AudioPluginAudioProcessor ExactFloat S E}
  (hstopped : ∀ k, (p.onnxProcessor k).inferenceThread.thread = .stopped)
  (hloading : ∀ k, (p.onnxProcessor k).inferenceThread.loadingModel = false)

include hstopped hloading

/-- Two inferences are in flight at the end of the eighth callback, and have ended before the
next output is taken. -/
lemma timely_timelySession : Transition.StepsMeet (PluginRun.step fx ort) (TimelyNetworks fx 1)
    (PluginRun.start fx p 2 48000 2048) (timelySession E) := by
  refine PluginRun.stepsMeet_of_timing fx ort (PluginRun.Tracked.start fx p 2 48000 2048)
    (timely_of_timing (c := 1)) hasBlocks_timelySession ?_
  rw [PluginRun.timing_start fx hstopped hloading, ProcessSpec.ringSize_ofNat, timelySession_timing]
  decide +kernel

/-- The last three callbacks give back samples of both models. -/
lemma exec_timelySession : ∃ r, Transition.exec (PluginRun.step fx ort)
      (PluginRun.start fx p 2 48000 2048) (timelySession E) = some r ∧
    ∀ k, (r.history k).callbacks.map Callback.timing =
      List.replicate 9 (.initialising, 0) ++ List.replicate 3 (.modelSamples, 0) := by
  obtain ⟨r, hexec, hcallbacks⟩ := PluginRun.exists_exec_of_timing fx ort
    (PluginRun.Tracked.start fx p 2 48000 2048) hasBlocks_timelySession
    (fun t => (t.network1.callbacks, t.network2.callbacks))
    (a := (List.replicate 9 (.initialising, 0) ++ List.replicate 3 (.modelSamples, 0),
      List.replicate 9 (.initialising, 0) ++ List.replicate 3 (.modelSamples, 0)))
    (by
      rw [PluginRun.timing_start fx hstopped hloading, ProcessSpec.ringSize_ofNat,
        timelySession_timing]
      decide +kernel)
  obtain ⟨h1, h2⟩ := Prod.mk.inj hcallbacks
  refine ⟨r, hexec, fun k => ?_⟩
  cases k with
  | network1 => exact h1
  | network2 => exact h2

end TimelySession

lemma session_passThrough (k : NetworkId) :
    ((AudioPluginAudioProcessor.passThrough ExactFloat).onnxProcessor k).inferenceThread.session =
      some () := by
  cases k <;> rfl

lemma stopped_passThrough (k : NetworkId) :
    ((AudioPluginAudioProcessor.passThrough ExactFloat).onnxProcessor k).inferenceThread.thread =
      .stopped := by
  cases k <;> rfl

lemma notLoading_passThrough (k : NetworkId) :
    ((AudioPluginAudioProcessor.passThrough ExactFloat).onnxProcessor
      k).inferenceThread.loadingModel = false := by
  cases k <;> rfl

/-- The theorem at work: `timelySession`, with models that return their input. -/
theorem networks_in_step_timely_session :
    (∃ r, Transition.exec (PluginRun.step (.bypass ExactFloat) (Ort.passThrough ExactFloat))
        (PluginRun.start (.bypass ExactFloat) (.passThrough ExactFloat) 2 48000 2048)
        (timelySession Unit) = some r ∧
      ∀ k, (r.history k).callbacks.map Callback.timing =
        List.replicate 9 (.initialising, 0) ++ List.replicate 3 (.modelSamples, 0)) ∧
      ((AudioPluginAudioProcessor.passThrough ExactFloat).prepareToPlay (.bypass ExactFloat) 2
        48000 2048).latencySamples = (latencyBlocks 2048 * 2048 : ℕ) ∧
      Transition.Always (PluginRun.step (.bypass ExactFloat) (Ort.passThrough ExactFloat))
        (fun r => ∀ k, DelayedOutput id 2048 (r.observed k))
        (PluginRun.start (.bypass ExactFloat) (.passThrough ExactFloat) 2 48000 2048)
        (timelySession Unit) :=
  ⟨exec_timelySession _ _ stopped_passThrough notLoading_passThrough,
    networks_in_step (c := 1) (fun _ _ => rfl) session_passThrough stopped_passThrough
      notLoading_passThrough (by norm_num) (by norm_num) (by rw [maxModelCalcSize_eq])
      hasBlocks_timelySession
      (timely_timelySession _ _ stopped_passThrough notLoading_passThrough)⟩

/-! ## A neutral chain -/

/-- Processors that leave the signal as it is up to the last mixer: no gain, neutral splitters,
filters and grain delays that are off, the other mixers at the signal that is passed on, and no
compression. -/
structure Effects.NeutralChain (fx : Effects F E) : Prop where
  gainRamp : ∀ n xs i, i < n → fx.applyGainRamp 1 1 n xs i = xs i
  transientSplitter : ∀ k effects buffer, (fx.transientSplitter k effects buffer).2 = buffer.data
  iirCutoffFilter : ∀ k effects buffer, (fx.iirCutoffFilter k effects buffer).2 = buffer.data
  grainDelay : ∀ k effects buffer, (fx.grainDelay k effects buffer).2 = buffer.data
  setWetSamples : ∀ mixer effects buffer, mixer ≠ .dryWetMixer →
    (fx.setWetSamples mixer effects buffer).2 = buffer.data
  compressor : ∀ effects buffer, (fx.compressor effects buffer).2 = buffer.data

/-- Processors that leave the signal as it is, the last mixer at the wet signal. -/
structure Effects.Neutral (fx : Effects F E) : Prop extends fx.NeutralChain where
  dryWetMixer : ∀ effects buffer,
    (fx.setWetSamples .dryWetMixer effects buffer).2 = buffer.data

/-- The gains stay at one and the first network stays on. -/
def PluginEvent.Neutral : PluginEvent F E → Prop
  | .endBlock onOff => onOff .network1 = true
  | .setGains inputGain outputGain => inputGain = 1 ∧ outputGain = 1
  | _ => True

/-- The average of the two channels of a block. -/
def averaged (buffer : AudioBuffer F) : List F :=
  List.zipWith average (buffer.samples 0) (buffer.samples 1)

namespace Effects.NeutralChain

variable {fx : Effects F E} {p : AudioPluginAudioProcessor F S E} {blockSize : ℕ}

/-- A gain of one leaves the samples as they are. -/
lemma data_gainRamp (h : fx.NeutralChain) (buffer : AudioBuffer F) (c : ℕ) {i : ℕ}
    (hi : i < buffer.numSamples) :
    (fx.gainRamp ⟨1, 1⟩ buffer).data c i = buffer.data c i := h.gainRamp _ _ i hi

/-- **What a neutral chain feeds the networks**: the average of the channels of the block. -/
lemma samples_fed (h : fx.NeutralChain) (hgain : p.inputGain = ⟨1, 1⟩)
    (hchannels : p.monoBuffer.numChannels = 1) {buffer : AudioBuffer F}
    (htwo : buffer.numChannels = 2) (hsize : buffer.numSamples = p.monoBuffer.numSamples)
    (k : NetworkId) :
    (((p.feedNetworks fx buffer).value.filterNetworks fx).networkBuffer k).samples 0 =
      averaged buffer := by
  have hfilter : ∀ q : AudioPluginAudioProcessor F S E,
      (q.filterNetworks fx).networkBuffer k = q.networkBuffer k := by
    intro q
    cases k <;>
      simp only [AudioPluginAudioProcessor.filterNetworks, AudioPluginAudioProcessor.networkBuffer,
        h.transientSplitter, h.iirCutoffFilter] <;> exact rfl
  rw [hfilter, samples_networkBuffer fx hchannels, hgain, averaged,
    ← samples_stereoToMono (by omega) hsize]
  refine List.map_congr_left fun i hi => ?_
  exact h.data_gainRamp _ 0 (List.mem_range.mp hi)

/-- The mix of a neutral chain has the samples of the first network. -/
lemma data_mixNetworks (h : fx.NeutralChain) (hgain : p.outputGain = ⟨1, 1⟩)
    {onOff : NetworkId → Bool} (hon : onOff .network1 = true) {c i : ℕ}
    (hc : c < p.network1Buffer.numChannels) (hi : i < p.network1Buffer.numSamples) :
    (p.mixNetworks fx onOff).monoBuffer.data c i = p.network1Buffer.data c i := by
  have hwet : ∀ mixer : MixerId, mixer ≠ .dryWetMixer → ∀ effects buffer,
      (fx.setWetSamples mixer effects buffer).2 = buffer.data :=
    fun mixer hmixer effects buffer => h.setWetSamples mixer effects buffer hmixer
  simp only [AudioPluginAudioProcessor.mixNetworks, hon, if_true, hgain,
    hwet .fadeMixer (by decide), hwet .compMixer (by decide), h.compressor]
  exact (h.gainRamp _ _ _ hi).trans (if_pos ⟨hc, hi⟩)

/-- **What a neutral chain writes to the host's block** before the last mixer: either channel has
the output of the first network.

**Proof sketch.** The processors leave the buffers alone, so the mono buffer is that of the first
network, and both channels are overwritten with it. -/
lemma samples_written (h : fx.NeutralChain) (hgain : p.outputGain = ⟨1, 1⟩)
    (hchannels : p.network1Buffer.numChannels = 1) {buffer : AudioBuffer F}
    (hsize : buffer.numSamples = p.network1Buffer.numSamples) {onOff : NetworkId → Bool}
    (hon : onOff .network1 = true) {c : ℕ} (hc : c < 2) :
    (monoToStereo buffer ((((p.analyseLevels fx).runGrainDelays fx).mixNetworks fx
      onOff).monoBuffer)).value.samples c = p.network1Buffer.samples 0 := by
  set q := (p.analyseLevels fx).runGrainDelays fx with hq
  have hgrain : q.network1Buffer = p.network1Buffer := by
    have hwet : ∀ k effects buffer,
        (fx.setWetSamples (.grainDryWetMixer k) effects buffer).2 = buffer.data :=
      fun k effects buffer => h.setWetSamples _ effects buffer (by simp)
    simp only [hq, AudioPluginAudioProcessor.runGrainDelays, h.grainDelay, hwet]
    exact rfl
  have hmono := p.size_finish fx onOff buffer
  have hone : (q.mixNetworks fx onOff).monoBuffer.numChannels = 1 := hmono.1.trans hchannels
  have hfull : (q.mixNetworks fx onOff).monoBuffer.numSamples = p.network1Buffer.numSamples :=
    hmono.2
  have hdata : ∀ i < p.network1Buffer.numSamples,
      (q.mixNetworks fx onOff).monoBuffer.data 0 i = p.network1Buffer.data 0 i := by
    intro i hi
    have hchannel : 0 < q.network1Buffer.numChannels := by
      rw [hgrain, hchannels]
      exact Nat.one_pos
    have hsample : i < q.network1Buffer.numSamples := by
      rw [hgrain]
      exact hi
    rw [← hgrain]
    exact h.data_mixNetworks (p := q) hgain hon hchannel hsample
  rw [monoToStereo, if_neg (by rw [hone]; decide)]
  simp only [AudioBuffer.samples, FloatVectorOperations.copy, Traced.value_bind,
    AudioBuffer.overwrite, hfull, hsize]
  refine List.map_congr_left fun i hi => ?_
  have hi := List.mem_range.mp hi
  obtain rfl | rfl : c = 0 ∨ c = 1 := by omega
  · simp [hi, hdata i hi]
  · simp [hi, hdata i hi]

end Effects.NeutralChain

/-- **What a neutral chain gives back to the host**: either channel has the output of the first
network. -/
lemma Effects.Neutral.samples_finish {fx : Effects F E} (h : fx.Neutral)
    {p : AudioPluginAudioProcessor F S E} (hgain : p.outputGain = ⟨1, 1⟩)
    (hchannels : p.network1Buffer.numChannels = 1) {buffer : AudioBuffer F}
    (hsize : buffer.numSamples = p.network1Buffer.numSamples) {onOff : NetworkId → Bool}
    (hon : onOff .network1 = true) {c : ℕ} (hc : c < 2) :
    (p.finish fx onOff buffer).2.samples c = p.network1Buffer.samples 0 := by
  rw [← h.samples_written hgain hchannels hsize hon hc]
  simp only [AudioPluginAudioProcessor.finish, AudioPluginAudioProcessor.writeHost,
    Traced.value_bind, Traced.value_pure, h.dryWetMixer]
  exact rfl

/-! ## From the host to the host -/

/-- What a neutral chain has fed the first network: the average of the host's blocks. -/
structure Fed (r : PluginRun F S E) : Prop where
  inputGain : r.plugin.inputGain = ⟨1, 1⟩
  outputGain : r.plugin.outputGain = ⟨1, 1⟩
  sent : (r.history .network1).sent = r.inputs.flatMap averaged

/-- **Every step of a neutral chain feeds the first network.**

**Proof sketch.** By the event. Only the beginning of a callback sends samples, and these are the
averages of the host's block; the gains stay at one. -/
lemma Fed.step {fx : Effects F E} (hfx : fx.NeutralChain) {ort : Ort F S File} {blockSize : ℕ}
    {r r' : PluginRun F S E} (h : Fed r) (hsized : Sized blockSize r) {e : PluginEvent F E}
    (he : e.HasBlocks blockSize) (hneutral : e.Neutral) (hs : r.step fx ort e = some r') :
    Fed r' := by
  obtain ⟨q, hq, rfl⟩ := PluginRun.step_eq_some hs
  cases e with
  | beginBlock buffer =>
    obtain ⟨-, rfl⟩ := PluginRun.advance_beginBlock hq
    obtain ⟨htwo, hfull⟩ := he
    have hfed := hfx.samples_fed h.inputGain hsized.monoChannels htwo
      (by rw [hfull, hsized.monoSamples]) .network1
    refine ⟨?_, h.outputGain, ?_⟩
    · show GainLevel.mk r.plugin.inputGain.currentGain r.plugin.inputGain.currentGain = _
      rw [h.inputGain]
    · rw [List.flatMap_append, List.flatMap_singleton, ← hfed, ← h.sent]
      exact rfl
  | output1 =>
    obtain ⟨buffer, hc, rfl⟩ := PluginRun.advance_output1 hq
    have hpending : r.pending .network1 = some r.plugin.network1Buffer := by
      simp only [PluginRun.pending, hc, if_true]
      exact rfl
    refine ⟨h.inputGain, h.outputGain, ?_⟩
    simp only [PluginRun.record, PluginRun.audioEvent, if_true, History.record, PluginRun.live,
      hpending]
    exact h.sent
  | send2 =>
    obtain ⟨buffer, -, rfl⟩ := PluginRun.advance_send2 hq
    exact ⟨h.inputGain, h.outputGain, h.sent⟩
  | endBlock onOff =>
    obtain ⟨buffer, -, rfl⟩ := PluginRun.advance_endBlock hq
    refine ⟨h.inputGain, ?_, h.sent⟩
    show GainLevel.mk r.plugin.outputGain.currentGain r.plugin.outputGain.currentGain = _
    rw [h.outputGain]
  | deliver k =>
    obtain ⟨-, rfl⟩ := PluginRun.advance_deliver hq
    cases k <;> exact ⟨h.inputGain, h.outputGain, h.sent⟩
  | threadEnd k =>
    obtain ⟨-, rfl⟩ := PluginRun.advance_threadEnd hq
    cases k <;> exact ⟨h.inputGain, h.outputGain, h.sent⟩
  | setGains inputGain outputGain =>
    obtain rfl := Option.some.inj hq
    obtain ⟨rfl, rfl⟩ := hneutral
    refine ⟨?_, ?_, h.sent⟩
    · show (⟨1, r.plugin.inputGain.previousGain⟩ : GainLevel F) = _
      rw [h.inputGain]
    · show (⟨1, r.plugin.outputGain.previousGain⟩ : GainLevel F) = _
      rw [h.outputGain]
  | setEffects effects =>
    obtain rfl := Option.some.inj hq
    exact ⟨h.inputGain, h.outputGain, h.sent⟩

/-- What the callbacks so far have taken out of the first network. -/
def PluginRun.taken (r : PluginRun F S E) : List F :=
  (r.history .network1).callbacks.flatMap Callback.output

/-- The samples of the first network that the callback in progress has not given to the host yet. -/
def PluginRun.onTheWay (r : PluginRun F S E) : List F :=
  match r.callback with
  | none => []
  | some (.sent .network1, _) => []
  | some (.between, _) => r.plugin.network1Buffer.samples 0
  | some (.sent .network2, _) => r.plugin.network1Buffer.samples 0

/-- **What is taken out of the first network is on its way** until the callback ends: every step
leaves the host's blocks alone, and puts on the way what it takes out, but for the one that writes
a block with what is on the way.

**Proof sketch.** By the event. `output1` takes a block out and puts it into the first network's
buffer, and the end of the callback writes that buffer; every other event leaves all this alone. -/
lemma PluginRun.onTheWay_step {fx : Effects F E} {ort : Ort F S File} {r r' : PluginRun F S E}
    {e : PluginEvent F E} (hs : r.step fx ort e = some r') :
    (r'.outputs = r.outputs ∧
      ∃ xs, r'.taken = r.taken ++ xs ∧ r'.onTheWay = r.onTheWay ++ xs) ∨
    ∃ onOff buffer, e = .endBlock onOff ∧ r.callback = some (.sent .network2, buffer) ∧
      r'.taken = r.taken ∧ r.onTheWay = r.plugin.network1Buffer.samples 0 ∧ r'.onTheWay = [] ∧
      r'.outputs =
        r.outputs ++ [((r.plugin.processOutput .network2).finish fx onOff buffer).2] := by
  obtain ⟨q, hq, rfl⟩ := PluginRun.step_eq_some hs
  have hidle : ∀ q : PluginRun F S E, q.taken = r.taken → q.onTheWay = r.onTheWay →
      q.outputs = r.outputs → q.outputs = r.outputs ∧
        ∃ xs, q.taken = r.taken ++ xs ∧ q.onTheWay = r.onTheWay ++ xs :=
    fun q htaken hway houtputs => ⟨houtputs, [], by rw [htaken, List.append_nil],
      by rw [hway, List.append_nil]⟩
  cases e with
  | beginBlock buffer =>
    obtain ⟨hc, rfl⟩ := PluginRun.advance_beginBlock hq
    refine Or.inl (hidle _ rfl ?_ rfl)
    simp only [onTheWay, hc]
  | output1 =>
    obtain ⟨buffer, hc, rfl⟩ := PluginRun.advance_output1 hq
    have hpending : r.pending .network1 = some r.plugin.network1Buffer := by
      simp only [PluginRun.pending, hc, if_true]
      exact rfl
    refine Or.inl ⟨rfl, (r.plugin.processOutput .network1).network1Buffer.samples 0, ?_, ?_⟩
    · simp only [taken, PluginRun.record, PluginRun.audioEvent, if_true, History.record,
        PluginRun.live, hpending, List.flatMap_append, List.flatMap_singleton]
      exact rfl
    · simp only [onTheWay, hc, List.nil_append]
  | send2 =>
    obtain ⟨buffer, hc, rfl⟩ := PluginRun.advance_send2 hq
    refine Or.inl (hidle _ rfl ?_ rfl)
    simp only [onTheWay, hc]
    exact rfl
  | endBlock onOff =>
    obtain ⟨buffer, hc, rfl⟩ := PluginRun.advance_endBlock hq
    exact Or.inr ⟨onOff, buffer, rfl, hc, rfl, by simp only [onTheWay, hc], rfl, rfl⟩
  | deliver k =>
    obtain ⟨-, rfl⟩ := PluginRun.advance_deliver hq
    cases k <;> exact Or.inl (hidle _ rfl rfl rfl)
  | threadEnd k =>
    obtain ⟨-, rfl⟩ := PluginRun.advance_threadEnd hq
    cases k <;> exact Or.inl (hidle _ rfl rfl rfl)
  | setGains inputGain outputGain =>
    obtain rfl := Option.some.inj hq
    exact Or.inl (hidle _ rfl rfl rfl)
  | setEffects effects =>
    obtain rfl := Option.some.inj hq
    exact Or.inl (hidle _ rfl rfl rfl)

/-- What a neutral chain has passed on: the first network was sent the average of the host's
blocks, and the host has been given its output. -/
structure PassedOn (r : PluginRun F S E) : Prop extends Fed r where
  given : ∀ c < 2, r.outputs.flatMap (fun buffer => buffer.samples c) ++ r.onTheWay = r.taken

/-- **Every step of a neutral chain passes the signal on.** -/
lemma PassedOn.step {fx : Effects F E} (hfx : fx.Neutral) {ort : Ort F S File} {blockSize : ℕ}
    {r r' : PluginRun F S E} (h : PassedOn r) (hsized : Sized blockSize r) {e : PluginEvent F E}
    (he : e.HasBlocks blockSize) (hneutral : e.Neutral) (hs : r.step fx ort e = some r') :
    PassedOn r' := by
  refine ⟨h.toFed.step hfx.toNeutralChain hsized he hneutral hs, fun c hlt => ?_⟩
  have hway := h.given c hlt
  rcases PluginRun.onTheWay_step hs with
    ⟨houtputs, xs, htaken, hnext⟩ | ⟨onOff, buffer, rfl, hc, htaken, hbefore, hnext, houtputs⟩
  · rw [houtputs, htaken, hnext, ← List.append_assoc, hway]
  · obtain ⟨-, hhost⟩ := hsized.host _ _ hc
    obtain ⟨hchannels, hsamples⟩ := hsized.networks (by simp [hc]) .network1
    have hfinish := hfx.samples_finish (p := r.plugin.processOutput .network2) h.outputGain
      hchannels (hhost.trans hsamples.symm) hneutral hlt
    rw [hbefore] at hway
    rw [houtputs, htaken, hnext, List.append_nil, List.flatMap_append, List.flatMap_singleton,
      hfinish]
    exact hway

/-! ## Whole runs -/

/-- What the host gets back: either channel is as long as the blocks together, and its sample at
position `i` is the average of the host's channels before the latency and the model's sample at
`i` less the latency after it. -/
structure DelayedPlugin (model : ModelBlock F → ModelBlock F) (blockSize : ℕ)
    (r : PluginRun F S E) : Prop where
  length : ∀ c < 2, (r.outputs.flatMap fun buffer => buffer.samples c).length =
    r.outputs.length * blockSize
  sample : ∀ c < 2, ∀ i < r.outputs.length * blockSize,
    (r.outputs.flatMap fun buffer => buffer.samples c)[i]? =
      if i < latencyBlocks blockSize * blockSize then (r.inputs.flatMap averaged)[i]?
      else (modelOutput model (r.inputs.flatMap averaged))[
        i - latencyBlocks blockSize * blockSize]?

omit [FloatArithmetic F] in
/-- The host gets blocks of the size it sends. -/
lemma Sized.length_outputs {blockSize : ℕ} {r : PluginRun F S E} (h : Sized blockSize r) (c : ℕ) :
    (r.outputs.flatMap fun buffer => buffer.samples c).length = r.outputs.length * blockSize := by
  rw [List.length_flatMap, ← smul_eq_mul]
  refine List.sum_eq_card_nsmul _ _ ?_ |>.trans (by rw [List.length_map])
  intro n hn
  obtain ⟨buffer, hbuffer, rfl⟩ := List.mem_map.mp hn
  rw [AudioBuffer.length_samples]
  exact h.returned buffer hbuffer

/-- What has been taken out of the first network, while both networks are in step. -/
lemma Fed.taken_sample {session : NetworkId → S}
    {model : NetworkId → ModelBlock F → ModelBlock F} {period c blockSize : ℕ}
    {r : PluginRun F S E} (h : Fed r) (hstep : InStep session model period c blockSize r) {i : ℕ}
    (hi : i < r.taken.length) :
    r.taken[i]? =
      if i < latencyBlocks blockSize * blockSize then (r.inputs.flatMap averaged)[i]?
      else (modelOutput (model .network1) (r.inputs.flatMap averaged))[
        i - latencyBlocks blockSize * blockSize]? := by
  have hdelayed := (hstep.onTime .network1).delayedOutput (hstep.kept .network1)
  have hlength : r.taken.length = (r.history .network1).callbacks.length * blockSize :=
    hdelayed.length
  rw [← h.sent]
  exact hdelayed.sample i (hlength ▸ hi)

/-- What the host has been given, while both networks are in step. -/
lemma PassedOn.delayedPlugin {session : NetworkId → S}
    {model : NetworkId → ModelBlock F → ModelBlock F} {period c blockSize : ℕ}
    {r : PluginRun F S E} (h : PassedOn r)
    (hstep : InStep session model period c blockSize r) :
    DelayedPlugin (model .network1) blockSize r := by
  have hlength := hstep.sized.length_outputs
  refine ⟨fun c _ => hlength c, fun c hlt i hi => ?_⟩
  have hgiven := h.given c hlt
  have htaken : i < r.taken.length := by
    have hsum := congrArg List.length hgiven
    rw [List.length_append, hlength] at hsum
    omega
  rw [← h.taken_sample hstep htaken, ← hgiven,
    List.getElem?_append_left (by rw [hlength]; exact hi)]

/-- **The plugin delays its output by the latency it reports, and by nothing else.** As in
`networks_in_step`; in addition the gains are one, the first network stays on, and the rest of
the chain leaves the signal alone. Then the host gets, in either channel, the average of its own
channels during the latency, and from there on the output of the first network's model for that
average.

**Proof sketch.** Both networks are in step, and the first one is fed with the averages and passed
on as it is; the output is then that of the processor. -/
theorem plugin_delays {fx : Effects F E} (hfx : fx.Neutral) {ort : Ort F S File}
    {session : NetworkId → S} {model : NetworkId → ModelBlock F → ModelBlock F}
    (hmodel : ∀ k block, ort.run (session k) block = .ok (model k block))
    {p : AudioPluginAudioProcessor F S E}
    (hsession : ∀ k, (p.onnxProcessor k).inferenceThread.session = some (session k))
    (hstopped : ∀ k, (p.onnxProcessor k).inferenceThread.thread = .stopped)
    (hloading : ∀ k, (p.onnxProcessor k).inferenceThread.loadingModel = false)
    (hinput : p.inputGain = ⟨1, 1⟩) (houtput : p.outputGain = ⟨1, 1⟩)
    {sampleRate : ℚ} (hrate : 32768 ≤ sampleRate) {c blockSize : ℕ} (hpos : 0 < blockSize)
    (hmargin : (c + 1) * blockSize ≤ maxModelCalcSize) {es : List (PluginEvent F E)}
    (hblocks : ∀ e ∈ es, e.HasBlocks blockSize) (hneutral : ∀ e ∈ es, e.Neutral)
    (htimely : Transition.StepsMeet (PluginRun.step fx ort) (TimelyNetworks fx c)
      (PluginRun.start fx p 2 sampleRate blockSize) es) :
    Transition.Always (PluginRun.step fx ort) (DelayedPlugin (model .network1) blockSize)
      (PluginRun.start fx p 2 sampleRate blockSize) es := by
  have hstart : PassedOn (PluginRun.start fx p 2 sampleRate blockSize) :=
    ⟨⟨hinput, houtput, rfl⟩, fun _ _ => rfl⟩
  have hsteps := htimely.and (Transition.stepsMeet_of_forall _ fun e he =>
    And.intro (hblocks e he) (hneutral e he))
  refine (Transition.always_of_stepsMeet
    (I := fun r => InStep session model
      (max (ProcessSpec.mk sampleRate blockSize 1).ringSize 1) c blockSize r ∧ PassedOn r)
    (fun r e r' h hc hs => ?_)
    ⟨InStep.start model hsession hstopped hloading 2 sampleRate c blockSize, hstart⟩
    hsteps).mono fun _ h => h.2.delayedPlugin h.1
  exact ⟨h.1.step hmodel hpos hmargin (ProcessSpec.lt_ringSize hrate) hc.2.1 hc.1 hs,
    h.2.step hfx h.1.sized hc.2.1 hc.2.2 hs⟩

/-- A gain of one is exact. -/
lemma exactFloat_mul_one : ∀ x : ExactFloat, x * 1 = x
  | .nan => rfl
  | .number q => congrArg ExactFloat.number (mul_one q)

lemma neutral_bypass : (Effects.bypass ExactFloat).Neutral where
  gainRamp _ _ _ _ := exactFloat_mul_one _
  transientSplitter _ _ _ := rfl
  iirCutoffFilter _ _ _ := rfl
  grainDelay _ _ _ := rfl
  setWetSamples _ _ _ _ := rfl
  compressor _ _ := rfl
  dryWetMixer _ _ := rfl

lemma neutral_timelySession : ∀ e ∈ timelySession E, e.Neutral :=
  forall_timelySession (fun _ => trivial) trivial trivial rfl (fun _ => trivial) fun _ => trivial

/-- The theorem at work: the same session. -/
theorem plugin_delays_timely_session :
    (∃ r, Transition.exec (PluginRun.step (.bypass ExactFloat) (Ort.passThrough ExactFloat))
        (PluginRun.start (.bypass ExactFloat) (.passThrough ExactFloat) 2 48000 2048)
        (timelySession Unit) = some r ∧
      ∀ k, (r.history k).callbacks.map Callback.timing =
        List.replicate 9 (.initialising, 0) ++ List.replicate 3 (.modelSamples, 0)) ∧
      Transition.Always (PluginRun.step (.bypass ExactFloat) (Ort.passThrough ExactFloat))
        (DelayedPlugin id 2048)
        (PluginRun.start (.bypass ExactFloat) (.passThrough ExactFloat) 2 48000 2048)
        (timelySession Unit) := by
  have hmodel : ∀ (k : NetworkId) block, (Ort.passThrough ExactFloat).run () block =
      .ok ((fun _ => id : NetworkId → ModelBlock ExactFloat → _) k block) := fun _ _ => rfl
  exact ⟨exec_timelySession _ _ stopped_passThrough notLoading_passThrough,
    plugin_delays (c := 1) neutral_bypass hmodel session_passThrough stopped_passThrough
      notLoading_passThrough rfl rfl (by norm_num) (by norm_num)
      (by rw [maxModelCalcSize_eq]) hasBlocks_timelySession neutral_timelySession
      (timely_timelySession _ _ stopped_passThrough notLoading_passThrough)⟩
