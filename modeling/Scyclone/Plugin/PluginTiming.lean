import Scyclone.Onnx.Timing
import Scyclone.Plugin.PluginRun

set_option relaxedAutoImplicit false
set_option autoImplicit false

/-!
# The sizes and the timing of the plugin

While the host sends stereo blocks of the size it announced, all buffers of the plugin have that
size, and what the two networks do, apart from their samples, follows from the order of the
events alone. As with a single processor (`Timing`), the plugin without its samples is a system
of its own, in which runs with blocks of any size can be evaluated.

## Main definitions

* `PluginEvent.HasBlocks`, `Sized` — the host's blocks, and the sizes of the buffers.
* `PluginTiming`, `PluginTiming.step` — the timings of both networks and the place in the callback.
* `PluginRun.timing` — the plugin without its samples.

## Main results

* `Sized.step` — every step keeps the sizes.
* `PluginRun.timing_step` — a step of the plugin is a step of its timing.
* `PluginRun.exists_exec_of_timing`, `PluginRun.stepsMeet_of_timing` — the same for runs and for
  conditions on them.
-/

variable {F S File E : Type} [FloatArithmetic F]

/-- The host sends stereo blocks of `blockSize` samples. -/
def PluginEvent.HasBlocks (blockSize : ℕ) : PluginEvent F E → Prop
  | .beginBlock buffer => buffer.numChannels = 2 ∧ buffer.numSamples = blockSize
  | _ => True

/-! ## Sizes -/

/-- The buffers have the sizes that the host announced, those of the networks during a callback. -/
structure Sized (blockSize : ℕ) (r : PluginRun F S E) : Prop where
  monoChannels : r.plugin.monoBuffer.numChannels = 1
  monoSamples : r.plugin.monoBuffer.numSamples = blockSize
  host : ∀ stage buffer, r.callback = some (stage, buffer) →
    buffer.numChannels = 2 ∧ buffer.numSamples = blockSize
  networks : r.callback ≠ none → ∀ k,
    (r.plugin.networkBuffer k).numChannels = 1 ∧
      (r.plugin.networkBuffer k).numSamples = blockSize
  returned : ∀ buffer ∈ r.outputs, buffer.numSamples = blockSize

namespace AudioPluginAudioProcessor

/-- The chains get blocks of one channel. -/
lemma numChannels_feedNetworks (fx : Effects F E) {p : AudioPluginAudioProcessor F S E}
    (h : p.monoBuffer.numChannels = 1) (buffer : AudioBuffer F) (k : NetworkId) :
    ((p.feedNetworks fx buffer).value.networkBuffer k).numChannels = 1 := by
  rw [← numChannels_stereoToMono h buffer]
  cases k <;> rfl

omit [FloatArithmetic F] in
/-- The splitters and the filters work in place. -/
lemma size_filterNetworks (fx : Effects F E) (p : AudioPluginAudioProcessor F S E)
    (k : NetworkId) :
    ((p.filterNetworks fx).networkBuffer k).numChannels = (p.networkBuffer k).numChannels ∧
      ((p.filterNetworks fx).networkBuffer k).numSamples = (p.networkBuffer k).numSamples := by
  cases k <;> exact ⟨rfl, rfl⟩

/-- So does an `OnnxProcessor`. -/
lemma size_processOutput (p : AudioPluginAudioProcessor F S E) (k j : NetworkId) :
    ((p.processOutput k).networkBuffer j).numChannels = (p.networkBuffer j).numChannels ∧
      ((p.processOutput k).networkBuffer j).numSamples = (p.networkBuffer j).numSamples := by
  have hchannels : ∀ (o : OnnxProcessor F S) (b : AudioBuffer F),
      (o.processOutput b b.numSamples).2.numChannels = b.numChannels := by
    intro o b
    simp only [OnnxProcessor.processOutput]
    split_ifs <;> rfl
  cases k with
  | network1 =>
    cases j with
    | network1 => exact ⟨hchannels _ _, OnnxProcessor.processOutput_numSamples _ _ _⟩
    | network2 => exact ⟨rfl, rfl⟩
  | network2 =>
    cases j with
    | network1 => exact ⟨rfl, rfl⟩
    | network2 => exact ⟨hchannels _ _, OnnxProcessor.processOutput_numSamples _ _ _⟩

/-- The mix leaves `monoBuffer` with the size of the first network's block. -/
lemma size_finish (fx : Effects F E) (onOff : NetworkId → Bool) (buffer : AudioBuffer F)
    (p : AudioPluginAudioProcessor F S E) :
    (p.finish fx onOff buffer).1.monoBuffer.numChannels = p.network1Buffer.numChannels ∧
      (p.finish fx onOff buffer).1.monoBuffer.numSamples = p.network1Buffer.numSamples := by
  have hclear : ∀ b : AudioBuffer F,
      (if onOff .network1 then b else b.clear).numChannels = b.numChannels ∧
        (if onOff .network1 then b else b.clear).numSamples = b.numSamples := by
    intro b
    split_ifs <;> exact ⟨rfl, rfl⟩
  exact ⟨(hclear _).1.trans rfl, (hclear _).2.trans rfl⟩

/-- The host's block is written in place. -/
lemma numSamples_finish (fx : Effects F E) (onOff : NetworkId → Bool) (buffer : AudioBuffer F)
    {p : AudioPluginAudioProcessor F S E} (h : p.network1Buffer.numChannels = 1) :
    (p.finish fx onOff buffer).2.numSamples = buffer.numSamples := by
  have hmono := (p.size_finish fx onOff buffer).1.trans h
  have hwrite : ∀ mono : AudioBuffer F, mono.numChannels = 1 →
      (monoToStereo buffer mono).value.numSamples = buffer.numSamples := by
    intro mono hone
    rw [monoToStereo, if_neg (by rw [hone]; decide)]
    rfl
  exact hwrite _ hmono

end AudioPluginAudioProcessor

/-- **Every step keeps the sizes.**

**Proof sketch.** By the event. The beginning of a callback gives the buffers the size of the host's
block, and every later piece of it keeps the sizes; its end writes a block of the size that the host
has sent. -/
lemma Sized.step {fx : Effects F E} {ort : Ort F S File} {blockSize : ℕ} {r r' : PluginRun F S E}
    (h : Sized blockSize r) {e : PluginEvent F E} (he : e.HasBlocks blockSize)
    (hs : r.step fx ort e = some r') : Sized blockSize r' := by
  obtain ⟨q, hq, rfl⟩ := PluginRun.step_eq_some hs
  have hmono := h.monoChannels
  cases e with
  | beginBlock buffer =>
    obtain ⟨-, rfl⟩ := PluginRun.advance_beginBlock hq
    obtain ⟨htwo, hfull⟩ := he
    have hfed := AudioPluginAudioProcessor.numSamples_feedNetworks fx r.plugin buffer
    simp only [htwo, OfNat.ofNat_ne_one, if_false, h.monoSamples] at hfed
    refine ⟨?_, hfed .network1, ?_, fun _ k => ?_, h.returned⟩
    · exact AudioPluginAudioProcessor.numChannels_stereoToMono hmono buffer
    · rintro stage b ⟨⟩
      exact ⟨htwo, hfull⟩
    · obtain ⟨hchannels, hsamples⟩ := AudioPluginAudioProcessor.size_filterNetworks fx
        (r.plugin.feedNetworks fx buffer).value k
      rw [AudioPluginAudioProcessor.sendAudio,
        AudioPluginAudioProcessor.networkBuffer_setOnnxProcessor, hchannels, hsamples]
      exact ⟨AudioPluginAudioProcessor.numChannels_feedNetworks fx hmono buffer k, hfed k⟩
  | output1 =>
    obtain ⟨buffer, hc, rfl⟩ := PluginRun.advance_output1 hq
    refine ⟨hmono, h.monoSamples, ?_, fun _ k => ?_, h.returned⟩
    · rintro stage b ⟨⟩
      exact h.host _ _ hc
    · obtain ⟨hchannels, hsamples⟩ := r.plugin.size_processOutput .network1 k
      rw [hchannels, hsamples]
      exact h.networks (by simp [hc]) k
  | send2 =>
    obtain ⟨buffer, hc, rfl⟩ := PluginRun.advance_send2 hq
    refine ⟨hmono, h.monoSamples, ?_, fun _ k => ?_, h.returned⟩
    · rintro stage b ⟨⟩
      exact h.host _ _ hc
    · rw [AudioPluginAudioProcessor.sendAudio,
        AudioPluginAudioProcessor.networkBuffer_setOnnxProcessor]
      exact h.networks (by simp [hc]) k
  | endBlock onOff =>
    obtain ⟨buffer, hc, rfl⟩ := PluginRun.advance_endBlock hq
    obtain ⟨hchannels, hsamples⟩ := h.networks (by simp [hc]) .network1
    obtain ⟨hmonoChannels, hmonoSamples⟩ :=
      (r.plugin.processOutput .network2).size_finish fx onOff buffer
    refine ⟨hmonoChannels.trans hchannels, hmonoSamples.trans hsamples, nofun,
      fun hne => absurd rfl hne, fun b hb => ?_⟩
    rcases List.mem_append.mp hb with hb | hb
    · exact h.returned b hb
    · obtain rfl := List.mem_singleton.mp hb
      have hhost := (r.plugin.processOutput .network2).numSamples_finish fx onOff buffer hchannels
      exact hhost.trans (h.host _ _ hc).2
  | deliver k =>
    obtain ⟨-, rfl⟩ := PluginRun.advance_deliver hq
    refine ⟨?_, ?_, h.host, fun hc j => ?_, h.returned⟩
    · cases k <;> exact hmono
    · cases k <;> exact h.monoSamples
    · rw [AudioPluginAudioProcessor.networkBuffer_setOnnxProcessor]
      exact h.networks hc j
  | threadEnd k =>
    obtain ⟨-, rfl⟩ := PluginRun.advance_threadEnd hq
    refine ⟨?_, ?_, h.host, fun hc j => ?_, h.returned⟩
    · cases k <;> exact hmono
    · cases k <;> exact h.monoSamples
    · rw [AudioPluginAudioProcessor.networkBuffer_setOnnxProcessor]
      exact h.networks hc j
  | setGains inputGain outputGain =>
    obtain rfl := Option.some.inj hq
    refine ⟨hmono, h.monoSamples, h.host, fun hc k => ?_, h.returned⟩
    cases k with
    | network1 => exact h.networks hc .network1
    | network2 => exact h.networks hc .network2
  | setEffects effects =>
    obtain rfl := Option.some.inj hq
    refine ⟨hmono, h.monoSamples, h.host, fun hc k => ?_, h.returned⟩
    cases k with
    | network1 => exact h.networks hc .network1
    | network2 => exact h.networks hc .network2

/-- The block that a network is sent has the size of the host's blocks.

**Proof sketch.** The first network is sent its buffer after the mixdown of the host's block, the
second one its own buffer, which has kept the size. -/
lemma Sized.audioEvent {fx : Effects F E} {ort : Ort F S File} {blockSize : ℕ}
    {r r' : PluginRun F S E} (h : Sized blockSize r) {e : PluginEvent F E}
    (he : e.HasBlocks blockSize) (hs : r.step fx ort e = some r') {k : NetworkId}
    {event : AudioEvent F} (hevent : r.audioEvent fx e = some (k, event)) :
    event.HasSize blockSize := by
  obtain ⟨q, hq, rfl⟩ := PluginRun.step_eq_some hs
  cases e with
  | beginBlock buffer =>
    obtain ⟨rfl, rfl⟩ := Prod.mk.inj (Option.some.inj hevent)
    have hfed := AudioPluginAudioProcessor.numSamples_feedNetworks fx r.plugin buffer .network1
    rw [if_neg (by rw [he.1]; decide), h.monoSamples] at hfed
    exact (AudioPluginAudioProcessor.size_filterNetworks fx _ .network1).2.trans hfed
  | output1 =>
    obtain ⟨rfl, rfl⟩ := Prod.mk.inj (Option.some.inj hevent)
    trivial
  | send2 =>
    obtain ⟨rfl, rfl⟩ := Prod.mk.inj (Option.some.inj hevent)
    obtain ⟨buffer, hc, -⟩ := PluginRun.advance_send2 hq
    exact (h.networks (by simp [hc]) .network2).2
  | endBlock onOff =>
    obtain ⟨rfl, rfl⟩ := Prod.mk.inj (Option.some.inj hevent)
    trivial
  | deliver j =>
    obtain ⟨rfl, rfl⟩ := Prod.mk.inj (Option.some.inj hevent)
    trivial
  | threadEnd j =>
    obtain ⟨rfl, rfl⟩ := Prod.mk.inj (Option.some.inj hevent)
    trivial
  | setGains inputGain outputGain => cases hevent
  | setEffects effects => cases hevent

omit [FloatArithmetic F] in
/-- The sizes after `prepareToPlay`. -/
lemma Sized.start (fx : Effects F E) (p : AudioPluginAudioProcessor F S E)
    (totalNumInputChannels : ℕ) (sampleRate : ℚ) (blockSize : ℕ) :
    Sized blockSize (PluginRun.start fx p totalNumInputChannels sampleRate blockSize) :=
  ⟨AudioBuffer.setSize_numChannels .., AudioBuffer.setSize_numSamples .., nofun,
    fun hne => absurd rfl hne, nofun⟩

omit [FloatArithmetic F] in
/-- What a network sees right after `prepareToPlay`. -/
lemma PluginRun.observed_start (fx : Effects F E) (p : AudioPluginAudioProcessor F S E)
    (totalNumInputChannels : ℕ) (sampleRate : ℚ) (blockSize : ℕ) (k : NetworkId) :
    (PluginRun.start fx p totalNumInputChannels sampleRate blockSize).observed k =
      Observed.start (p.onnxProcessor k) ⟨sampleRate, blockSize, 1⟩ := by
  cases k <;> rfl

/-! ## Timings -/

/-- An event without its samples and settings. -/
inductive PluginTimingEvent
  | beginBlock
  | output1
  | send2
  | endBlock
  | deliver (network : NetworkId)
  | threadEnd (network : NetworkId)
  | setParameters
  deriving DecidableEq

/-- What the plugin does, without its samples. -/
structure PluginTiming where
  /-- Where the callback in progress is. -/
  stage : Option Stage
  network1 : Timing
  network2 : Timing
  deriving DecidableEq

namespace PluginTiming

/-- The timing of a network. -/
def network (t : PluginTiming) : NetworkId → Timing
  | .network1 => t.network1
  | .network2 => t.network2

/-- The timings with another one for a network. -/
def setNetwork (t : PluginTiming) (timing : Timing) : NetworkId → PluginTiming
  | .network1 => { t with network1 := timing }
  | .network2 => { t with network2 := timing }

/-- Where the callback is after an event, if it can happen there. -/
def stageAfter : Option Stage → PluginTimingEvent → Option (Option Stage)
  | none, .beginBlock => some (some (.sent .network1))
  | some (.sent .network1), .output1 => some (some .between)
  | some .between, .send2 => some (some (.sent .network2))
  | some (.sent .network2), .endBlock => some none
  | stage, .deliver _ => some stage
  | stage, .threadEnd _ => some stage
  | stage, .setParameters => some stage
  | _, _ => none

/-- What an event is for the network that takes part in it. -/
def audioEvent (blockSize : ℕ) : PluginTimingEvent → Option (NetworkId × TimingEvent)
  | .beginBlock => some (.network1, .sendAudio blockSize)
  | .output1 => some (.network1, .processOutput)
  | .send2 => some (.network2, .sendAudio blockSize)
  | .endBlock => some (.network2, .processOutput)
  | .deliver k => some (k, .deliver)
  | .threadEnd k => some (k, .threadEnd)
  | .setParameters => none

/-- One step, of a plugin whose buffers have `blockSize` samples. -/
def step (blockSize : ℕ) (t : PluginTiming) (e : PluginTimingEvent) : Option PluginTiming :=
  (stageAfter t.stage e).bind fun stage =>
    match audioEvent blockSize e with
    | none => some { t with stage }
    | some (k, event) =>
      ((t.network k).step event).map fun timing => { t.setNetwork timing k with stage }

/-- The timing right after `prepareToPlay`. -/
def start (thread : ThreadState) (loadingModel : Bool) (ringSize : ℕ) : PluginTiming :=
  ⟨none, .start thread loadingModel ringSize, .start thread loadingModel ringSize⟩

/-- A condition on the network that takes part in an event. -/
def meets (C : Timing → TimingEvent → Bool) (blockSize : ℕ) (t : PluginTiming)
    (e : PluginTimingEvent) : Bool :=
  match audioEvent blockSize e with
  | none => true
  | some (k, event) => C (t.network k) event

end PluginTiming

/-- The event without its samples and settings. -/
def PluginEvent.timing : PluginEvent F E → PluginTimingEvent
  | .beginBlock _ => .beginBlock
  | .output1 => .output1
  | .send2 => .send2
  | .endBlock _ => .endBlock
  | .deliver k => .deliver k
  | .threadEnd k => .threadEnd k
  | .setGains _ _ => .setParameters
  | .setEffects _ => .setParameters

namespace PluginRun

/-- The plugin without its samples. -/
def timing (r : PluginRun F S E) : PluginTiming where
  stage := r.callback.map Prod.fst
  network1 := (r.observed .network1).timing
  network2 := (r.observed .network2).timing

omit [FloatArithmetic F] in
@[simp] lemma timing_network (r : PluginRun F S E) (k : NetworkId) :
    r.timing.network k = (r.observed k).timing := by
  cases k <;> rfl

/-- The buffers have the announced size, and the rings of both networks are tracked. -/
structure Tracked (period blockSize : ℕ) (r : PluginRun F S E) : Prop where
  sized : Sized blockSize r
  rings : ∀ k, RingsTracked period (r.observed k)

variable {fx : Effects F E} {ort : Ort F S File} {period blockSize : ℕ} {r r' : PluginRun F S E}
  {e : PluginEvent F E}

/-- Every step keeps the sizes and the rings tracked. -/
lemma Tracked.step (h : Tracked period blockSize r) (he : e.HasBlocks blockSize)
    (hs : r.step fx ort e = some r') : Tracked period blockSize r' := by
  refine ⟨h.sized.step he hs, fun j => ?_⟩
  have hobserved := observed_step hs
  cases hevent : r.audioEvent fx e with
  | none =>
    rw [hevent] at hobserved
    rw [hobserved j]
    exact h.rings j
  | some taken =>
    obtain ⟨k, event⟩ := taken
    rw [hevent] at hobserved
    by_cases hj : j = k
    · rw [hj]
      exact (h.rings k).step hobserved.1
    · rw [hobserved.2 j hj]
      exact h.rings j

/-- The plugin that `prepareToPlay` leaves. -/
lemma Tracked.start (fx : Effects F E) (p : AudioPluginAudioProcessor F S E)
    (totalNumInputChannels : ℕ) (sampleRate : ℚ) (blockSize : ℕ) :
    Tracked (max (ProcessSpec.mk sampleRate blockSize 1).ringSize 1) blockSize
      (PluginRun.start fx p totalNumInputChannels sampleRate blockSize) := by
  refine ⟨Sized.start fx p totalNumInputChannels sampleRate blockSize, fun k => ?_⟩
  rw [observed_start]
  exact RingsTracked.start _ _

/-- A step takes the callback to where its timing says.

**Proof sketch.** By the event: its guard says where the callback was. -/
lemma stage_step (hs : r.step fx ort e = some r') :
    PluginTiming.stageAfter r.timing.stage e.timing = some r'.timing.stage := by
  obtain ⟨q, hq, rfl⟩ := step_eq_some hs
  cases e with
  | beginBlock buffer =>
    obtain ⟨hc, rfl⟩ := advance_beginBlock hq
    simp only [timing, hc]
    rfl
  | output1 =>
    obtain ⟨buffer, hc, rfl⟩ := advance_output1 hq
    simp only [timing, hc]
    rfl
  | send2 =>
    obtain ⟨buffer, hc, rfl⟩ := advance_send2 hq
    simp only [timing, hc]
    rfl
  | endBlock onOff =>
    obtain ⟨buffer, hc, rfl⟩ := advance_endBlock hq
    simp only [timing, hc]
    rfl
  | deliver k =>
    obtain ⟨-, rfl⟩ := advance_deliver hq
    simp [timing, PluginTiming.stageAfter, PluginEvent.timing]
  | threadEnd k =>
    obtain ⟨-, rfl⟩ := advance_threadEnd hq
    simp [timing, PluginTiming.stageAfter, PluginEvent.timing]
  | setGains inputGain outputGain =>
    obtain rfl := Option.some.inj hq
    simp [timing, PluginTiming.stageAfter, PluginEvent.timing]
  | setEffects effects =>
    obtain rfl := Option.some.inj hq
    simp [timing, PluginTiming.stageAfter, PluginEvent.timing]

/-- An event is for a network what its timing says. -/
lemma audioEvent_timing (h : Sized blockSize r) (he : e.HasBlocks blockSize)
    (hs : r.step fx ort e = some r') :
    PluginTiming.audioEvent blockSize e.timing =
      (r.audioEvent fx e).map fun taken => (taken.1, taken.2.timing) := by
  cases e with
  | beginBlock buffer =>
    have hsize : (((r.plugin.feedNetworks fx buffer).value.filterNetworks fx).networkBuffer
        .network1).numSamples = blockSize := h.audioEvent he hs rfl
    simp only [PluginEvent.timing, PluginTiming.audioEvent, audioEvent, Option.map_some,
      AudioEvent.timing, hsize]
  | send2 =>
    have hsize : (r.plugin.networkBuffer .network2).numSamples = blockSize := h.audioEvent he hs rfl
    simp only [PluginEvent.timing, PluginTiming.audioEvent, audioEvent, Option.map_some,
      AudioEvent.timing, hsize]
  | output1 => rfl
  | endBlock onOff => rfl
  | deliver k => rfl
  | threadEnd k => rfl
  | setGains inputGain outputGain => rfl
  | setEffects effects => rfl

/-- A step that the plugin takes is one of its timing.

**Proof sketch.** The step is seen by at most one network, whose timing moves by its own law
(`Observed.timing_step`), while the stage of the plugin moves by `stage_step`. The other network
keeps its timing. -/
lemma timing_of_step (h : Tracked period blockSize r) (he : e.HasBlocks blockSize)
    (hs : r.step fx ort e = some r') : r.timing.step blockSize e.timing = some r'.timing := by
  have hstage := stage_step hs
  have hevent := audioEvent_timing h.sized he hs
  have hobserved := observed_step hs
  unfold PluginTiming.step
  rw [hstage, hevent, Option.bind_some]
  cases htaken : r.audioEvent fx e with
  | none =>
    rw [htaken] at hobserved
    simp only [Option.map_none, timing, hobserved]
  | some taken =>
    obtain ⟨k, event⟩ := taken
    rw [htaken] at hobserved
    obtain ⟨hstep, hother⟩ := hobserved
    have hnetwork := Observed.timing_step ort (h.rings k) event
    rw [hstep, Option.map_some] at hnetwork
    simp only [Option.map_some, timing_network, ← hnetwork]
    cases k with
    | network1 => simp only [PluginTiming.setNetwork, timing, hother .network2 (by decide)]
    | network2 => simp only [PluginTiming.setNetwork, timing, hother .network1 (by decide)]

/-- An event that cannot happen cannot happen in the timing either.

**Proof sketch.** By the event. A piece of a callback cannot happen when the callback is elsewhere,
and the timing knows where it is; a step of a thread depends on the state of that thread. -/
lemma timing_of_no_step (hs : r.step fx ort e = none) :
    r.timing.step blockSize e.timing = none := by
  rw [step, Option.map_eq_none_iff] at hs
  have hstage : PluginTiming.stageAfter r.timing.stage e.timing = none →
      r.timing.step blockSize e.timing = none := by
    intro hnone
    rw [PluginTiming.step, hnone, Option.bind_none]
  cases e with
  | beginBlock buffer =>
    refine hstage ?_
    cases hc : r.callback with
    | none => simp [advance, hc] at hs
    | some c =>
      simp only [timing, hc]
      rcases c with ⟨⟨_ | _⟩ | _, _⟩ <;> rfl
  | output1 | send2 | endBlock _ =>
    refine hstage ?_
    simp only [timing]
    -- at the stage before it the event could happen
    rcases hc : r.callback with _ | ⟨⟨_ | _⟩ | _, buffer⟩
    all_goals first
      | rfl
      | simp [advance, hc] at hs
  | deliver k =>
    have hthread : (r.plugin.onnxProcessor k).inferenceThread.thread ≠ .running := by
      simpa [advance] using hs
    have htiming : (r.observed k).timing.thread ≠ .running := hthread
    simp [PluginTiming.step, PluginTiming.stageAfter, PluginTiming.audioEvent,
      PluginEvent.timing, Timing.step, htiming]
  | threadEnd k =>
    have hthread : (r.plugin.onnxProcessor k).inferenceThread.thread ≠ .delivered := by
      simpa [advance] using hs
    have htiming : (r.observed k).timing.thread ≠ .delivered := hthread
    simp [PluginTiming.step, PluginTiming.stageAfter, PluginTiming.audioEvent,
      PluginEvent.timing, Timing.step, htiming]
  | setGains inputGain outputGain => cases hs
  | setEffects effects => cases hs

/-- **A step of the plugin is a step of its timing.** -/
theorem timing_step (fx : Effects F E) (ort : Ort F S File) (h : Tracked period blockSize r)
    (he : e.HasBlocks blockSize) :
    (r.step fx ort e).map timing = r.timing.step blockSize e.timing := by
  cases hs : r.step fx ort e with
  | none => exact (timing_of_no_step hs).symm
  | some r' => exact (timing_of_step h he hs).symm

/-! ## Runs -/

omit [FloatArithmetic F] in
/-- The timing of the plugin after `prepareToPlay`. -/
lemma timing_start (fx : Effects F E) {p : AudioPluginAudioProcessor F S E} {thread : ThreadState}
    {loadingModel : Bool} (ht : ∀ k, (p.onnxProcessor k).inferenceThread.thread = thread)
    (hl : ∀ k, (p.onnxProcessor k).inferenceThread.loadingModel = loadingModel)
    (totalNumInputChannels : ℕ) (sampleRate : ℚ) (blockSize : ℕ) :
    (PluginRun.start fx p totalNumInputChannels sampleRate blockSize).timing =
      .start thread loadingModel (ProcessSpec.mk sampleRate blockSize 1).ringSize := by
  have hnetwork : ∀ k,
      ((PluginRun.start fx p totalNumInputChannels sampleRate blockSize).observed k).timing =
        .start thread loadingModel (ProcessSpec.mk sampleRate blockSize 1).ringSize := by
    intro k
    rw [observed_start, Observed.timing_start (ht k) (hl k)]
  simp only [timing, hnetwork]
  rfl

/-- **A run that the timing can take can be taken**, and leads to a state with that timing. -/
theorem exists_exec_of_timing (fx : Effects F E) (ort : Ort F S File)
    (h : Tracked period blockSize r) {es : List (PluginEvent F E)}
    (hes : ∀ e ∈ es, e.HasBlocks blockSize) {α : Type} (f : PluginTiming → α) {a : α}
    (hrun : (Transition.exec (PluginTiming.step blockSize) r.timing
      (es.map PluginEvent.timing)).map f = some a) :
    ∃ r', Transition.exec (PluginRun.step fx ort) r es = some r' ∧ f r'.timing = a := by
  obtain ⟨t, htiming, rfl⟩ := Option.map_eq_some_iff.mp hrun
  obtain ⟨r', hexec, rfl⟩ := Transition.exists_exec_of_map
    (fun _ _ _ h he hs => Tracked.step h he hs) (fun _ _ h he => timing_step fx ort h he) h hes
    htiming
  exact ⟨r', hexec, rfl⟩

/-- **A condition on the networks that the timing meets along a run is met by the plugin.** -/
theorem stepsMeet_of_timing (fx : Effects F E) (ort : Ort F S File)
    (h : Tracked period blockSize r) {C : Observed F S → AudioEvent F → Prop}
    {C' : Timing → TimingEvent → Bool}
    (hC : ∀ o e, C' (Observed.timing o) e.timing = true → C o e) {es : List (PluginEvent F E)}
    (hes : ∀ e ∈ es, e.HasBlocks blockSize)
    (hrun : Transition.StepsMeet (PluginTiming.step blockSize)
      (fun t e => PluginTiming.meets C' blockSize t e = true) r.timing
      (es.map PluginEvent.timing)) :
    Transition.StepsMeet (PluginRun.step fx ort)
      (fun r e => ∀ k event, r.audioEvent fx e = some (k, event) → C (r.observed k) event) r
      es := by
  refine Transition.StepsMeet.of_map (fun _ _ _ h he hs => Tracked.step h he hs)
    (fun _ _ h he => timing_step fx ort h he) (fun r e r' h he hs hmeets k event htaken => ?_)
    h hes hrun
  have hevent := audioEvent_timing h.sized he hs
  rw [htaken, Option.map_some] at hevent
  simp only [PluginTiming.meets, hevent, timing_network] at hmeets
  exact hC _ event hmeets

end PluginRun
