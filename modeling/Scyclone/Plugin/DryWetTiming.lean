import Scyclone.Plugin.Muting

set_option relaxedAutoImplicit false
set_option autoImplicit false

/-!
# Dry and wet in time

The last mixer of the plugin gets the host's block at the start of a callback and the processed
block at its end. `prepareToPlay` tells it the latency of the networks, by which it is to delay the
dry samples. If both inference threads keep up, every dry sample meets the wet sample that was made
of the same place of the host's stream.

## Main definitions

* `sampleLater` — a stream some samples later.
* `DelaysDry` — what a mixer with a wet latency is documented to do.
* `MixerKept` — no parameter change touches the last mixer.
* `MixedOutput` — the host's output is the mix of both, delayed alike.

## Main results

* `MixedInTime.step` — every step keeps both paths in time.
* `dry_and_wet_in_time` — the output of the plugin along whole runs.
-/

variable {F S File E : Type} [FloatArithmetic F]

/-- Sample `i` of a stream that is delayed, with silence before it. -/
def sampleLater (delay : ℕ) (xs : List F) (i : ℕ) : F :=
  if i < delay then 0 else xs.getD (i - delay) 0

/-- What comes after a place of the stream is not heard there. -/
lemma sampleLater_append {delay : ℕ} {xs : List F} (ys : List F) {i : ℕ} (hi : i < xs.length) :
    sampleLater delay (xs ++ ys) i = sampleLater delay xs i := by
  unfold sampleLater
  split_ifs
  · rfl
  · rw [List.getD_eq_getElem?_getD, List.getD_eq_getElem?_getD,
      List.getElem?_append_left (by omega)]

/-- The member `mixer {48000}` of `DryWetMixer`: the largest wet latency. -/
def maximumWetLatency : ℤ := 48000

/-- What `juce::dsp::DryWetMixer` is documented to do: dry samples that were pushed are mixed with
the wet samples of their place, the wet latency later, in the proportion that it was given. -/
structure DelaysDry (m : DryWet F) where
  /-- The dry samples of a channel since it was prepared. -/
  pushed : m.State → ℕ → List F
  /-- The number of wet samples it has been given since. -/
  mixed : m.State → ℕ
  /-- The wet latency. -/
  delay : m.State → ℕ
  /-- A dry and a wet sample, mixed. -/
  mix : m.State → F → F → F
  prepared : ∀ spec s, (∀ c, pushed (m.prepare spec s) c = []) ∧
    mixed (m.prepare spec s) = 0 ∧ mix (m.prepare spec s) = mix s
  setWetLatency : ∀ latency s, 0 ≤ latency → latency ≤ maximumWetLatency →
    (delay (m.setWetLatency latency s) : ℤ) = latency ∧
      pushed (m.setWetLatency latency s) = pushed s ∧
      mixed (m.setWetLatency latency s) = mixed s ∧ mix (m.setWetLatency latency s) = mix s
  setDrySamples : ∀ s buffer,
    (∀ c < buffer.numChannels,
      pushed (m.setDrySamples s buffer) c = pushed s c ++ buffer.samples c) ∧
      mixed (m.setDrySamples s buffer) = mixed s ∧
      delay (m.setDrySamples s buffer) = delay s ∧ mix (m.setDrySamples s buffer) = mix s
  setWetSamples : ∀ s buffer,
    (∀ c < buffer.numChannels, (pushed s c).length = mixed s + buffer.numSamples) →
    (∀ c < buffer.numChannels, ∀ i < buffer.numSamples,
      (m.setWetSamples s buffer).2 c i =
        mix s (sampleLater (delay s) (pushed s c) (mixed s + i)) (buffer.data c i)) ∧
      pushed (m.setWetSamples s buffer).1 = pushed s ∧
      mixed (m.setWetSamples s buffer).1 = mixed s + buffer.numSamples ∧
      delay (m.setWetSamples s buffer).1 = delay s ∧ mix (m.setWetSamples s buffer).1 = mix s

/-- No parameter change touches the last mixer. -/
def MixerKept {R : EffectRack F} (r : PluginRun F S R.State) : PluginEvent F R.State → Prop
  | .setEffects effects =>
    effects.mixer .dryWetMixer = r.plugin.effects.mixer .dryWetMixer
  | _ => True

/-! ## The last mixer -/

section Mixer

variable {R : EffectRack F} (p : AudioPluginAudioProcessor F S R.State)

/-- The last mixer gets the host's block, and nothing else up to the networks touches it. -/
lemma mixer_begin (buffer : AudioBuffer F) :
    (((p.feedNetworks R.effects buffer).value.filterNetworks R.effects).sendAudio
        .network1).effects.mixer .dryWetMixer =
      (R.mixer .dryWetMixer).setDrySamples (p.effects.mixer .dryWetMixer) buffer := by
  have hgiven : ∀ e : R.State, (R.setDrySamples .dryWetMixer e buffer).mixer .dryWetMixer =
      (R.mixer .dryWetMixer).setDrySamples (e.mixer .dryWetMixer) buffer := by
    intro e
    simp only [EffectRack.setDrySamples, Function.update_self]
  exact hgiven p.effects

/-- The host's block before the last mixer. -/
def AudioPluginAudioProcessor.written (onOff : NetworkId → Bool) (buffer : AudioBuffer F) :
    AudioBuffer F :=
  (monoToStereo buffer (((p.analyseLevels R.effects).runGrainDelays R.effects).mixNetworks
    R.effects onOff).monoBuffer).value

/-- Up to the last mixer the callback uses the other mixers alone. -/
lemma mixer_mixNetworks (onOff : NetworkId → Bool) :
    (((p.analyseLevels R.effects).runGrainDelays R.effects).mixNetworks R.effects
      onOff).effects.mixer .dryWetMixer = p.effects.mixer .dryWetMixer := by
  simp only [AudioPluginAudioProcessor.mixNetworks, AudioPluginAudioProcessor.runGrainDelays,
    AudioPluginAudioProcessor.analyseLevels, EffectRack.effects, EffectRack.setDrySamples,
    EffectRack.setWetSamples, EffectRack.process, Function.update_of_ne, ne_eq, reduceCtorEq,
    not_false_eq_true]

/-- The last mixer gets the block that is written, and the host gets what it makes of it. -/
lemma mixer_finish (onOff : NetworkId → Bool) (buffer : AudioBuffer F) :
    (p.finish R.effects onOff buffer).1.effects.mixer .dryWetMixer =
        ((R.mixer .dryWetMixer).setWetSamples (p.effects.mixer .dryWetMixer)
          (p.written onOff buffer)).1 ∧
      (p.finish R.effects onOff buffer).2 = (p.written onOff buffer).withData
        ((R.mixer .dryWetMixer).setWetSamples (p.effects.mixer .dryWetMixer)
          (p.written onOff buffer)).2 := by
  have hmixed : ∀ (e : R.State) (b : AudioBuffer F),
      (R.setWetSamples .dryWetMixer e b).1.mixer .dryWetMixer =
        ((R.mixer .dryWetMixer).setWetSamples (e.mixer .dryWetMixer) b).1 := by
    intro e b
    simp only [EffectRack.setWetSamples, Function.update_self]
  rw [← mixer_mixNetworks p onOff]
  exact ⟨hmixed _ _, rfl⟩

end Mixer

/-! ## Steps -/

namespace PluginRun

variable {R : EffectRack F}

/-- The last mixer. -/
def lastMixer (r : PluginRun F S R.State) : (R.mixer .dryWetMixer).State :=
  r.plugin.effects.mixer .dryWetMixer

/-- **What a step does to the last mixer**: a callback gives it the host's block when it begins
and the written block when it ends, and no other step touches it.

**Proof sketch.** By the event. Of the pieces of a callback only its beginning and its end use the
last mixer; the steps of the threads and the gains do not, and by the condition a change of the
processors keeps it. -/
lemma lastMixer_step {ort : Ort F S File} {r r' : PluginRun F S R.State}
    {e : PluginEvent F R.State} (hkept : MixerKept r e) (hs : r.step R.effects ort e = some r') :
    (r'.outputs = r.outputs ∧ r'.inputs = r.inputs ∧ r'.lastMixer = r.lastMixer ∧
      (r'.callback = none ↔ r.callback = none)) ∨
    (∃ buffer, e = .beginBlock buffer ∧ r'.outputs = r.outputs ∧
      r'.inputs = r.inputs ++ [buffer] ∧
      r'.lastMixer = (R.mixer .dryWetMixer).setDrySamples r.lastMixer buffer ∧
      r.callback = none ∧ r'.callback ≠ none) ∨
    ∃ onOff buffer, e = .endBlock onOff ∧ r.callback = some (.sent .network2, buffer) ∧
      r'.callback = none ∧ r'.inputs = r.inputs ∧
      (let written := (r.plugin.processOutput .network2).written onOff buffer
       r'.lastMixer = ((R.mixer .dryWetMixer).setWetSamples r.lastMixer written).1 ∧
        r'.outputs = r.outputs ++
          [written.withData ((R.mixer .dryWetMixer).setWetSamples r.lastMixer written).2]) := by
  obtain ⟨q, hq, rfl⟩ := step_eq_some hs
  cases e with
  | beginBlock buffer =>
    obtain ⟨hc, rfl⟩ := advance_beginBlock hq
    exact Or.inr (Or.inl ⟨buffer, rfl, rfl, rfl, mixer_begin r.plugin buffer, hc, nofun⟩)
  | output1 =>
    obtain ⟨buffer, hc, rfl⟩ := advance_output1 hq
    exact Or.inl ⟨rfl, rfl, rfl, by simp [hc]⟩
  | send2 =>
    obtain ⟨buffer, hc, rfl⟩ := advance_send2 hq
    exact Or.inl ⟨rfl, rfl, rfl, by simp [hc]⟩
  | endBlock onOff =>
    obtain ⟨buffer, hc, rfl⟩ := advance_endBlock hq
    obtain ⟨hmixer, hblock⟩ := mixer_finish (r.plugin.processOutput .network2) onOff buffer
    exact Or.inr (Or.inr ⟨onOff, buffer, rfl, hc, rfl, rfl, hmixer,
      congrArg (fun b => r.outputs ++ [b]) hblock⟩)
  | deliver k =>
    obtain ⟨-, rfl⟩ := advance_deliver hq
    cases k <;> exact Or.inl ⟨rfl, rfl, rfl, Iff.rfl⟩
  | threadEnd k =>
    obtain ⟨-, rfl⟩ := advance_threadEnd hq
    cases k <;> exact Or.inl ⟨rfl, rfl, rfl, Iff.rfl⟩
  | setGains inputGain outputGain =>
    obtain rfl := Option.some.inj hq
    exact Or.inl ⟨rfl, rfl, rfl, Iff.rfl⟩
  | setEffects effects =>
    obtain rfl := Option.some.inj hq
    exact Or.inl ⟨rfl, rfl, hkept, Iff.rfl⟩

end PluginRun

/-! ## Both paths -/

/-- The block that is written has the size of the host's. -/
lemma AudioPluginAudioProcessor.size_hostBlock {R : EffectRack F}
    {p : AudioPluginAudioProcessor F S R.State} (h : p.network1Buffer.numChannels = 1)
    (onOff : NetworkId → Bool) (buffer : AudioBuffer F) :
    (p.written onOff buffer).numChannels = buffer.numChannels ∧
      (p.written onOff buffer).numSamples = buffer.numSamples := by
  have hmono := (p.size_finish R.effects onOff buffer).1.trans h
  have hwrite : ∀ mono : AudioBuffer F, mono.numChannels = 1 →
      (monoToStereo buffer mono).value.numChannels = buffer.numChannels ∧
        (monoToStereo buffer mono).value.numSamples = buffer.numSamples := by
    intro mono hone
    rw [monoToStereo, if_neg (by rw [hone]; decide)]
    exact ⟨rfl, rfl⟩
  exact hwrite _ hmono

section Paths

variable {R : EffectRack F} (D : DelaysDry (R.mixer .dryWetMixer)) (mix : F → F → F)

/-- The dry path: the last mixer has the host's stream up to the callback in progress, has been
given a wet sample for each sample that the host got back, and delays by the latency. -/
structure DryPushed (blockSize : ℕ) (r : PluginRun F S R.State) : Prop where
  proportion : D.mix r.lastMixer = mix
  delay : D.delay r.lastMixer = latencyBlocks blockSize * blockSize
  mixed : D.mixed r.lastMixer = r.outputs.length * blockSize
  pushed : ∀ c < 2, D.pushed r.lastMixer c = r.inputs.flatMap fun buffer => buffer.samples c
  length : ∀ c < 2, (r.inputs.flatMap fun buffer => buffer.samples c).length =
    r.outputs.length * blockSize + if r.callback = none then 0 else blockSize

variable {D mix}

/-- **The block that ends a callback fits the mixer**: it has the size of the host's blocks, and the
mixer has a dry sample for each of its samples. -/
lemma DryPushed.written_fits {blockSize : ℕ} {r : PluginRun F S R.State}
    (h : DryPushed D mix blockSize r) (hsized : Sized blockSize r) {buffer : AudioBuffer F}
    (hbusy : r.callback = some (.sent .network2, buffer)) (onOff : NetworkId → Bool) :
    let written := (r.plugin.processOutput .network2).written onOff buffer
    written.numChannels = 2 ∧ written.numSamples = blockSize ∧
      ∀ c < written.numChannels,
        (D.pushed r.lastMixer c).length = D.mixed r.lastMixer + written.numSamples := by
  obtain ⟨htwo, hfull⟩ := hsized.host _ _ hbusy
  obtain ⟨hchannels, hsamples⟩ :=
    AudioPluginAudioProcessor.size_hostBlock (p := r.plugin.processOutput .network2)
      (hsized.networks (by simp [hbusy]) .network1).1 onOff buffer
  refine ⟨hchannels.trans htwo, hsamples.trans hfull, fun c hc => ?_⟩
  rw [h.pushed c (by omega), h.length c (by omega), h.mixed, hsamples, hfull,
    if_neg (by simp [hbusy])]

/-- **Every step keeps the dry path.**

**Proof sketch.** By what the step does to the last mixer: it is left alone, or takes the host's
block in, or mixes a block that fits what it has taken in. -/
lemma DryPushed.step {ort : Ort F S File} {blockSize : ℕ} {r r' : PluginRun F S R.State}
    (h : DryPushed D mix blockSize r) (hsized : Sized blockSize r) {e : PluginEvent F R.State}
    (he : e.HasBlocks blockSize) (hkept : MixerKept r e)
    (hs : r.step R.effects ort e = some r') : DryPushed D mix blockSize r' := by
  rcases PluginRun.lastMixer_step hkept hs with
    ⟨houtputs, hinputs, hmixer, hcallback⟩ |
    ⟨buffer, rfl, houtputs, hinputs, hmixer, hidle, hbusy⟩ |
    ⟨onOff, buffer, rfl, hbusy, hidle, hinputs, hmixer, houtputs⟩
  · refine ⟨?_, ?_, ?_, ?_, ?_⟩
    · rw [hmixer, h.proportion]
    · rw [hmixer, h.delay]
    · rw [hmixer, h.mixed, houtputs]
    · rw [hmixer, hinputs]
      exact h.pushed
    · simp only [hinputs, houtputs, hcallback]
      exact h.length
  · obtain ⟨htwo, hfull⟩ := he
    obtain ⟨hpushed, hmixed, hdelay, hmix⟩ := D.setDrySamples r.lastMixer buffer
    refine ⟨?_, ?_, ?_, fun c hc => ?_, fun c hc => ?_⟩
    · rw [hmixer, hmix, h.proportion]
    · rw [hmixer, hdelay, h.delay]
    · rw [hmixer, hmixed, h.mixed, houtputs]
    · rw [hmixer, hpushed c (by omega), h.pushed c hc, hinputs, List.flatMap_append,
        List.flatMap_singleton]
    · rw [hinputs, List.flatMap_append, List.length_append, h.length c hc, houtputs, if_pos hidle,
        if_neg hbusy, List.flatMap_singleton, AudioBuffer.length_samples, hfull, Nat.add_zero]
  · obtain ⟨-, hsamples, hfits⟩ := h.written_fits hsized hbusy onOff
    obtain ⟨-, hpushed, hmixed, hdelay, hmix⟩ := D.setWetSamples r.lastMixer _ hfits
    refine ⟨?_, ?_, ?_, fun c hc => ?_, fun c hc => ?_⟩
    · rw [hmixer, hmix, h.proportion]
    · rw [hmixer, hdelay, h.delay]
    · rw [hmixer, hmixed, h.mixed, hsamples, houtputs, List.length_append,
        List.length_singleton, Nat.add_mul, Nat.one_mul]
    · rw [hmixer, hpushed, h.pushed c hc, hinputs]
    · rw [hinputs, h.length c hc, houtputs, if_neg (by simp [hbusy]), if_pos hidle,
        List.length_append, List.length_singleton, Nat.add_mul, Nat.one_mul, Nat.add_zero]

/-- Both paths meet: the host has got back, for each sample taken out of the first network but for
those on the way, its mix with the dry sample that the latency puts at its place. -/
structure MixedInTime (D : DelaysDry (R.mixer .dryWetMixer)) (mix : F → F → F) (blockSize : ℕ)
    (r : PluginRun F S R.State) : Prop extends Fed r, DryPushed D mix blockSize r where
  done : ∃ xs, r.taken = xs ++ r.onTheWay ∧ xs.length = r.outputs.length * blockSize
  sample : ∀ c < 2, ∀ i < r.outputs.length * blockSize,
    (r.outputs.flatMap fun buffer => buffer.samples c)[i]? = r.taken[i]?.map
      (mix (sampleLater (latencyBlocks blockSize * blockSize)
        (r.inputs.flatMap fun buffer => buffer.samples c) i))

/-- The samples of the block that is mixed last: the callback's dry samples, the latency late, with
what was on the way.

**Proof sketch.** The mixer has the host's stream up to this callback, and the block that is
written has the samples of the first network in either channel. -/
lemma MixedInTime.sample_mixed {blockSize : ℕ} {r : PluginRun F S R.State}
    (h : MixedInTime D mix blockSize r) (hfx : R.effects.NeutralChain) (hsized : Sized blockSize r)
    {buffer : AudioBuffer F} (hbusy : r.callback = some (.sent .network2, buffer))
    {onOff : NetworkId → Bool} (hon : onOff .network1 = true) {c : ℕ} (hc : c < 2) {j : ℕ}
    (hj : j < blockSize) :
    ((R.mixer .dryWetMixer).setWetSamples r.lastMixer
        ((r.plugin.processOutput .network2).written onOff buffer)).2 c j =
      mix (sampleLater (latencyBlocks blockSize * blockSize)
        (r.inputs.flatMap fun buffer => buffer.samples c) (r.outputs.length * blockSize + j))
        (r.plugin.network1Buffer.data 0 j) := by
  obtain ⟨htwo, hfull⟩ := hsized.host _ _ hbusy
  obtain ⟨hone, hnetwork⟩ : r.plugin.network1Buffer.numChannels = 1 ∧
      r.plugin.network1Buffer.numSamples = blockSize := hsized.networks (by simp [hbusy]) .network1
  set written := (r.plugin.processOutput .network2).written onOff buffer
  obtain ⟨hchannels, hsamples, hfits⟩ : written.numChannels = 2 ∧
      written.numSamples = blockSize ∧ _ := h.written_fits hsized hbusy onOff
  have hwet : written.samples c = r.plugin.network1Buffer.samples 0 :=
    hfx.samples_written (p := r.plugin.processOutput .network2) h.outputGain hone
      (hfull.trans hnetwork.symm) hon hc
  have hdata : written.data c j = r.plugin.network1Buffer.data 0 j := by
    have hget := congrArg (fun xs => xs[j]?) hwet
    rwa [AudioBuffer.samples, AudioBuffer.samples, List.getElem?_map, List.getElem?_map, hsamples,
      hnetwork, List.getElem?_range hj, Option.map_some, Option.map_some,
      Option.some.injEq] at hget
  rw [(D.setWetSamples r.lastMixer written hfits).1 c (by omega) j (by omega), h.proportion,
    h.delay, h.pushed c hc, h.mixed, hdata]

/-- **Every step keeps both paths in time.**

**Proof sketch.** A step that gives the host nothing changes no sample that the host has been given,
as both streams only grow. The end of a callback gives it one more block: there the dry stream comes
out of the mixer, and the wet one is what was on the way. -/
lemma MixedInTime.step {ort : Ort F S File} {blockSize : ℕ} {r r' : PluginRun F S R.State}
    (h : MixedInTime D mix blockSize r) (hfx : R.effects.NeutralChain) (hsized : Sized blockSize r)
    {e : PluginEvent F R.State} (he : e.HasBlocks blockSize) (hneutral : e.Neutral)
    (hkept : MixerKept r e) (hs : r.step R.effects ort e = some r') :
    MixedInTime D mix blockSize r' := by
  have hfed := h.toFed.step hfx hsized he hneutral hs
  have hdry := h.toDryPushed.step hsized he hkept hs
  obtain ⟨xs, hxs, hlength⟩ := h.done
  rcases PluginRun.onTheWay_step hs with
    ⟨houtputs, ys, htaken, hway⟩ | ⟨onOff, buffer, rfl, hbusy, htaken, hbefore, hway, hgrown⟩
  · refine ⟨hfed, hdry, ⟨xs, by rw [htaken, hway, hxs, List.append_assoc], by
      rw [houtputs, hlength]⟩, fun c hc i hi => ?_⟩
    rw [houtputs] at hi ⊢
    -- nothing that this step takes or pushes is heard at a place the host has been given
    have hsame : r'.taken[i]? = r.taken[i]? := by
      rw [htaken, List.getElem?_append_left]
      rw [hxs, List.length_append]
      omega
    have hheard : sampleLater (latencyBlocks blockSize * blockSize)
        (r'.inputs.flatMap fun buffer => buffer.samples c) i =
          sampleLater (latencyBlocks blockSize * blockSize)
            (r.inputs.flatMap fun buffer => buffer.samples c) i := by
      rcases PluginRun.lastMixer_step hkept hs with
        ⟨-, hinputs, -⟩ | ⟨buffer, -, -, hinputs, -⟩ | ⟨onOff, buffer, -, -, -, hinputs, -⟩
      · rw [hinputs]
      · rw [hinputs, List.flatMap_append]
        exact sampleLater_append _ (by rw [h.length c hc]; omega)
      · rw [hinputs]
    rw [hsame, hheard]
    exact h.sample c hc i hi
  · obtain ⟨htwo, hfull⟩ := hsized.host _ _ hbusy
    obtain ⟨hone, hnetwork⟩ : r.plugin.network1Buffer.numChannels = 1 ∧
        r.plugin.network1Buffer.numSamples = blockSize :=
      hsized.networks (by simp [hbusy]) .network1
    obtain ⟨hinputs, houtputs⟩ : r'.inputs = r.inputs ∧ r'.outputs = r.outputs ++
        [((r.plugin.processOutput .network2).written onOff buffer).withData
          ((R.mixer .dryWetMixer).setWetSamples r.lastMixer
            ((r.plugin.processOutput .network2).written onOff buffer)).2] := by
      rcases PluginRun.lastMixer_step hkept hs with
        ⟨hsame, -⟩ | ⟨_, he, -⟩ | ⟨_, _, he, hsame, -, hinputs, -, houtputs⟩
      · simp [hgrown] at hsame
      · cases he
      · cases he
        obtain rfl : buffer = _ := by simpa [hbusy] using hsame
        exact ⟨hinputs, houtputs⟩
    have hsamples := (AudioPluginAudioProcessor.size_hostBlock
      (p := r.plugin.processOutput .network2) hone onOff buffer).2.trans hfull
    have hgrow : r'.outputs.length * blockSize = r.outputs.length * blockSize + blockSize := by
      rw [hgrown, List.length_append, List.length_singleton, Nat.add_mul, Nat.one_mul]
    refine ⟨hfed, hdry, ⟨r'.taken, by rw [hway, List.append_nil], ?_⟩, fun c hc i hi => ?_⟩
    · rw [htaken, hxs, hbefore, List.length_append, hlength, AudioBuffer.length_samples, hnetwork,
        hgrow]
    have hgiven := hsized.length_outputs c
    rw [hinputs, htaken, houtputs, List.flatMap_append, List.flatMap_singleton]
    by_cases hold : i < r.outputs.length * blockSize
    · rw [List.getElem?_append_left (by rw [hgiven]; exact hold)]
      exact h.sample c hc i hold
    · obtain ⟨j, rfl⟩ := Nat.exists_eq_add_of_le (Nat.le_of_not_lt hold)
      have hj : j < blockSize := by omega
      rw [List.getElem?_append_right (by rw [hgiven]; exact Nat.le_add_right _ _), hgiven, hxs,
        hbefore, List.getElem?_append_right (by rw [hlength]; exact Nat.le_add_right _ _), hlength,
        Nat.add_sub_cancel_left]
      simp only [AudioBuffer.samples, AudioBuffer.withData_numSamples, hsamples, hnetwork,
        List.getElem?_map, List.getElem?_range hj, Option.map_some, Option.some.injEq]
      exact h.sample_mixed hfx hsized hbusy hneutral hc hj

end Paths

/-! ## Whole runs -/

/-- What the host gets back: either channel is the mix of its dry stream, the latency late, and of
the wet stream, which is the average of the host's channels before the latency and the output of
the model for it after the latency. -/
structure MixedOutput (mix : F → F → F) (model : ModelBlock F → ModelBlock F) (blockSize : ℕ)
    (r : PluginRun F S E) : Prop where
  length : ∀ c < 2, (r.outputs.flatMap fun buffer => buffer.samples c).length =
    r.outputs.length * blockSize
  sample : ∀ c < 2, ∀ i < r.outputs.length * blockSize,
    (r.outputs.flatMap fun buffer => buffer.samples c)[i]? =
      (if i < latencyBlocks blockSize * blockSize then (r.inputs.flatMap averaged)[i]?
        else (modelOutput model (r.inputs.flatMap averaged))[
          i - latencyBlocks blockSize * blockSize]?).map
        (mix (sampleLater (latencyBlocks blockSize * blockSize)
          (r.inputs.flatMap fun buffer => buffer.samples c) i))

section Runs

variable {R : EffectRack F}

/-- What the host has been given, while both networks are in step. -/
lemma MixedInTime.mixedOutput {D : DelaysDry (R.mixer .dryWetMixer)} {mix : F → F → F}
    {session : NetworkId → S}
    {model : NetworkId → ModelBlock F → ModelBlock F} {period c blockSize : ℕ}
    {r : PluginRun F S R.State} (h : MixedInTime D mix blockSize r)
    (hstep : InStep session model period c blockSize r) :
    MixedOutput mix (model .network1) blockSize r := by
  refine ⟨fun c _ => hstep.sized.length_outputs c, fun c hc i hi => ?_⟩
  have htaken : i < r.taken.length := by
    obtain ⟨xs, hxs, hlength⟩ := h.done
    rw [hxs, List.length_append]
    omega
  rw [h.sample c hc i hi, h.taken_sample hstep htaken]

/-- The mixer delays by what the plugin reports.

**Proof sketch.** `prepareToPlay` prepares the last mixer and then sets its latency, so it is empty
and delays by so many samples; nothing was taken out of a network yet. -/
lemma MixedInTime.start (D : DelaysDry (R.mixer .dryWetMixer))
    {p : AudioPluginAudioProcessor F S R.State} (hinput : p.inputGain = ⟨1, 1⟩)
    (houtput : p.outputGain = ⟨1, 1⟩) (sampleRate : ℚ) {blockSize : ℕ} (hpos : 0 < blockSize) :
    MixedInTime D (D.mix (p.effects.mixer .dryWetMixer)) blockSize
      (PluginRun.start R.effects p 2 sampleRate blockSize) := by
  have hmixer : (PluginRun.start R.effects p 2 sampleRate blockSize).lastMixer =
      (R.mixer .dryWetMixer).setWetLatency (latencyBlocks blockSize * blockSize : ℕ)
        ((R.mixer .dryWetMixer).prepare ⟨sampleRate, blockSize, 2⟩
          (p.effects.mixer .dryWetMixer)) := by
    rw [← latencySamples_prepareToPlay R.effects p 2 sampleRate hpos]
    have hset : ∀ (latency : ℤ) (e : R.State),
        (R.effects.setWetLatency latency e).mixer .dryWetMixer =
          (R.mixer .dryWetMixer).setWetLatency latency (e.mixer .dryWetMixer) := by
      intro latency e
      simp only [EffectRack.effects, Function.update_self]
    exact hset _ _
  have hlatency := latencyBlocks_mul_lt blockSize
  rw [modelInputSize_eq, maxModelCalcSize_eq] at hlatency
  obtain ⟨hpushed, hmixed, hmix⟩ :=
    D.prepared ⟨sampleRate, blockSize, 2⟩ (p.effects.mixer .dryWetMixer)
  obtain ⟨hdelay, hsame, hmixed', hmix'⟩ := D.setWetLatency
    (latencyBlocks blockSize * blockSize : ℕ)
    ((R.mixer .dryWetMixer).prepare ⟨sampleRate, blockSize, 2⟩ (p.effects.mixer .dryWetMixer))
    (by omega) (by unfold maximumWetLatency; omega)
  refine ⟨⟨hinput, houtput, rfl⟩, ⟨?_, ?_, ?_, fun c _ => ?_, fun c _ => ?_⟩, ⟨[], rfl, ?_⟩, ?_⟩
  · rw [hmixer, hmix', hmix]
  · rw [hmixer]
    exact_mod_cast hdelay
  · rw [hmixer, hmixed', hmixed]
    exact (Nat.zero_mul _).symm
  · rw [hmixer, hsame]
    exact hpushed c
  · exact (Nat.zero_mul _).symm
  · exact (Nat.zero_mul _).symm
  · intro c _ i hi
    simp [PluginRun.start] at hi

/-- **Every dry sample meets the wet sample of its place.** As in `networks_in_step`; in addition
the gains are one, the first network stays on, the chain leaves the signal alone up to the last
mixer, and this mixer does what is documented of it and keeps its proportion. Then either channel
that the host gets is the mix of the host's channel and of the wet stream, both by the latency
that the plugin reports.

**Proof sketch.** Both networks are in step and both paths in time, which every step keeps; the two
invariants together imply the output. -/
theorem dry_and_wet_in_time (hfx : R.effects.NeutralChain)
    (D : DelaysDry (R.mixer .dryWetMixer)) {ort : Ort F S File} {session : NetworkId → S}
    {model : NetworkId → ModelBlock F → ModelBlock F}
    (hmodel : ∀ k block, ort.run (session k) block = .ok (model k block))
    {p : AudioPluginAudioProcessor F S R.State}
    (hsession : ∀ k, (p.onnxProcessor k).inferenceThread.session = some (session k))
    (hstopped : ∀ k, (p.onnxProcessor k).inferenceThread.thread = .stopped)
    (hloading : ∀ k, (p.onnxProcessor k).inferenceThread.loadingModel = false)
    (hinput : p.inputGain = ⟨1, 1⟩) (houtput : p.outputGain = ⟨1, 1⟩)
    {sampleRate : ℚ} (hrate : 32768 ≤ sampleRate) {c blockSize : ℕ} (hpos : 0 < blockSize)
    (hmargin : (c + 1) * blockSize ≤ maxModelCalcSize) {es : List (PluginEvent F R.State)}
    (hblocks : ∀ e ∈ es, e.HasBlocks blockSize) (hneutral : ∀ e ∈ es, e.Neutral)
    (hkept : Transition.StepsMeet (PluginRun.step R.effects ort) MixerKept
      (PluginRun.start R.effects p 2 sampleRate blockSize) es)
    (htimely : Transition.StepsMeet (PluginRun.step R.effects ort) (TimelyNetworks R.effects c)
      (PluginRun.start R.effects p 2 sampleRate blockSize) es) :
    Transition.Always (PluginRun.step R.effects ort)
      (MixedOutput (D.mix (p.effects.mixer .dryWetMixer)) (model .network1) blockSize)
      (PluginRun.start R.effects p 2 sampleRate blockSize) es := by
  have hsteps := (htimely.and hkept).and (Transition.stepsMeet_of_forall _ fun e he =>
    And.intro (hblocks e he) (hneutral e he))
  refine (Transition.always_of_stepsMeet
    (I := fun r => InStep session model
      (max (ProcessSpec.mk sampleRate blockSize 1).ringSize 1) c blockSize r ∧
        MixedInTime D (D.mix (p.effects.mixer .dryWetMixer)) blockSize r)
    (fun r e r' h hc hs => ?_)
    ⟨InStep.start model hsession hstopped hloading 2 sampleRate c blockSize,
      MixedInTime.start D hinput houtput sampleRate hpos⟩
    hsteps).mono fun _ h => h.2.mixedOutput h.1
  obtain ⟨⟨htimely, hkept⟩, hblocks, hneutral⟩ := hc
  exact ⟨h.1.step hmodel hpos hmargin (ProcessSpec.lt_ringSize hrate) hblocks htimely hs,
    h.2.step hfx h.1.sized hblocks hneutral hkept hs⟩

end Runs

/-! ## The theorem at work -/

/-- A mixer that keeps all dry samples and mixes them in, the wet latency later. -/
def DryWet.delaying (mix : F → F → F) : DryWet F where
  State := (ℕ → List F) × ℕ × ℕ
  prepare _ s := (fun _ => [], 0, s.2.2)
  setWetLatency latency s := (s.1, s.2.1, latency.toNat)
  setDrySamples s b :=
    (fun c => if c < b.numChannels then s.1 c ++ b.samples c else s.1 c, s.2)
  setWetSamples s b := ((s.1, s.2.1 + b.numSamples, s.2.2),
    fun c i => mix (sampleLater s.2.2 (s.1 c) (s.2.1 + i)) (b.data c i))
  confinedDry s b b' h := by
    rw [Prod.mk.injEq, ← h.numChannels]
    refine ⟨funext fun c => ?_, rfl⟩
    split_ifs with hc
    · rw [h.samples hc]
    · rfl
  confinedWet s b b' h := by
    refine ⟨by rw [h.numSamples], h.numChannels, h.numSamples, fun _ c hc i hi => ?_⟩
    exact congrArg _ (h.data trivial c hc i hi)

/-- It does what is documented. -/
def DryWet.delaysDry (mix : F → F → F) : DelaysDry (DryWet.delaying mix) where
  pushed s := s.1
  mixed s := s.2.1
  delay s := s.2.2
  mix _ := mix
  prepared _ _ := ⟨fun _ => rfl, rfl, rfl⟩
  setWetLatency _ _ h _ := ⟨Int.toNat_of_nonneg h, rfl, rfl, rfl⟩
  setDrySamples _ _ := ⟨fun _ hc => if_pos hc, rfl, rfl, rfl⟩
  setWetSamples _ _ _ := ⟨fun _ _ _ _ => rfl, rfl, rfl, rfl, rfl⟩

/-- A neutral chain with such a mixer at its end. -/
def EffectRack.halfWet : EffectRack ExactFloat where
  processor _ :=
    { State := Unit
      prepare := fun _ _ => ()
      process := fun _ b => ((), b.data)
      confined := fun _ _ _ _ h => ⟨rfl, h⟩ }
  mixer
    | .dryWetMixer => DryWet.delaying average
    | m => (EffectRack.gains ExactFloat).mixer m
  Ears := Unit
  audioVisualiser _ _ _ := ()
  levelAnalyser _ _ _ := ()
  applyGainRamp gain _ _ xs i := xs i * gain
  confinedRamp gain _ _ _ _ h i hi := congrArg (· * gain) (h i hi)

lemma neutralChain_halfWet : EffectRack.halfWet.effects.NeutralChain where
  gainRamp _ _ _ _ := exactFloat_mul_one _
  transientSplitter _ _ _ := rfl
  iirCutoffFilter _ _ _ := rfl
  grainDelay _ _ _ := rfl
  setWetSamples mixer _ _ h := by
    cases mixer with
    | dryWetMixer => exact absurd rfl h
    | fadeMixer => rfl
    | compMixer => rfl
    | grainDryWetMixer k => rfl
  compressor _ _ := rfl

/-- The processors of this chain, nothing pushed. -/
def halfWetStart : EffectRack.halfWet.State where
  processor _ := ()
  mixer
    | .dryWetMixer => (fun _ => [], 0, 0)
    | .fadeMixer => ()
    | .compMixer => ()
    | .grainDryWetMixer _ => ()
  ears := ()

/-- A plugin with this chain. -/
def halfWetPlugin : AudioPluginAudioProcessor ExactFloat Unit EffectRack.halfWet.State where
  monoBuffer := ⟨0, 0, fun _ _ => 0⟩
  network1Buffer := ⟨0, 0, fun _ _ => 0⟩
  network2Buffer := ⟨0, 0, fun _ _ => 0⟩
  grain1DryBuffer := ⟨0, 0, fun _ _ => 0⟩
  grain2DryBuffer := ⟨0, 0, fun _ _ => 0⟩
  inputGain := ⟨1, 1⟩
  outputGain := ⟨1, 1⟩
  onnxProcessor1 := .passThrough ExactFloat
  onnxProcessor2 := .passThrough ExactFloat
  effects := halfWetStart
  latencySamples := 0

lemma stopped_halfWetPlugin (k : NetworkId) :
    (halfWetPlugin.onnxProcessor k).inferenceThread.thread = .stopped := by
  cases k <;> rfl

lemma notLoading_halfWetPlugin (k : NetworkId) :
    (halfWetPlugin.onnxProcessor k).inferenceThread.loadingModel = false := by
  cases k <;> rfl

/-- The theorem at work: `timelySession`, the last mixer halfway between both streams. -/
theorem dry_and_wet_in_time_timely_session :
    (∃ r, Transition.exec
        (PluginRun.step EffectRack.halfWet.effects (Ort.passThrough ExactFloat))
        (PluginRun.start EffectRack.halfWet.effects halfWetPlugin 2 48000 2048)
        (timelySession EffectRack.halfWet.State) = some r ∧
      ∀ k, (r.history k).callbacks.map Callback.timing =
        List.replicate 9 (.initialising, 0) ++ List.replicate 3 (.modelSamples, 0)) ∧
      Transition.Always
        (PluginRun.step EffectRack.halfWet.effects (Ort.passThrough ExactFloat))
        (MixedOutput average id 2048)
        (PluginRun.start EffectRack.halfWet.effects halfWetPlugin 2 48000 2048)
        (timelySession EffectRack.halfWet.State) := by
  have hmodel : ∀ (k : NetworkId) block, (Ort.passThrough ExactFloat).run () block =
      .ok ((fun _ => id : NetworkId → ModelBlock ExactFloat → _) k block) := fun _ _ => rfl
  -- no event of the session changes the processors of the chain
  have hkept : Transition.StepsMeet
      (PluginRun.step EffectRack.halfWet.effects (Ort.passThrough ExactFloat)) MixerKept
      (PluginRun.start EffectRack.halfWet.effects halfWetPlugin 2 48000 2048)
      (timelySession EffectRack.halfWet.State) := by
    refine (Transition.stepsMeet_of_forall (C := fun e => ∀ r : PluginRun _ _ _, MixerKept r e) _
      ?_).mono fun r e h => h r
    exact forall_timelySession (fun _ _ => trivial) (fun _ => trivial) (fun _ => trivial)
      (fun _ => trivial) (fun _ _ => trivial) fun _ _ => trivial
  exact ⟨exec_timelySession _ _ stopped_halfWetPlugin notLoading_halfWetPlugin,
    dry_and_wet_in_time (c := 1) neutralChain_halfWet (DryWet.delaysDry average) hmodel
      (fun k => by cases k <;> rfl) stopped_halfWetPlugin notLoading_halfWetPlugin rfl rfl
      (by norm_num) (by norm_num) (by rw [maxModelCalcSize_eq]) hasBlocks_timelySession
      neutral_timelySession hkept
      (timely_timelySession _ _ stopped_halfWetPlugin notLoading_halfWetPlugin)⟩
