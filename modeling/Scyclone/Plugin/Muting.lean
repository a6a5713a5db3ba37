import Scyclone.Dsp.MakeUpGain
import Scyclone.Plugin.EffectRack
import Scyclone.Plugin.EndToEnd

set_option relaxedAutoImplicit false
set_option autoImplicit false

/-!
# A network that is off cannot be heard

`processBlock` runs the chain of a network that is off like that of one that is on, and clears its
buffer at the end. The processors of the chain are members of the plugin of their own, and each
works on the buffer it is given. So nothing that happens in the chain of the network that is off
reaches the host: not what its parameters do to its processors, not what its model returns, and
not when its inference thread delivers.

## Main definitions

* `EffectRack.State.Alike` — processors that are the same as far as they are heard.
* `PluginAlike`, `PluginRun.Alike` — plugins that differ in what is not heard.
* `EventsAlike` — runs that differ in what happens to the network that is off.

## Main results

* `PluginRun.Alike.step` — the same event keeps two plugins alike.
* `off_network_inaudible` — two such runs give the host the same blocks.
-/

variable {F S File : Type}

/-- The output of a network reads none of the buffer that it is written to. -/
lemma OnnxProcessor.processOutput_alike [FloatSample F] (o : OnnxProcessor F S)
    {b b' : AudioBuffer F} (h : b.AlikeIf True b') (numSamples : ℕ) :
    (o.processOutput b numSamples).1 = (o.processOutput b' numSamples).1 ∧
      (o.processOutput b numSamples).2.AlikeIf True (o.processOutput b' numSamples).2 := by
  refine ⟨by rw [processOutput_eq, processOutput_eq], ?_⟩
  unfold processOutput
  dsimp only
  split_ifs <;> first | exact h.setSamples 0 _ | exact h

/-! ## What is heard -/

/-- A processor that does not belong to the network that is off. -/
def ProcessorId.heard (off : NetworkId) : ProcessorId → Prop
  | .transientSplitter k => k ≠ off
  | .iirCutoffFilter k => k ≠ off
  | .grainDelay k => k ≠ off
  | .compressor => True

/-- A mixer that does not. -/
def MixerId.heard (off : NetworkId) : MixerId → Prop
  | .grainDryWetMixer k => k ≠ off
  | _ => True

/-- The states of the processors that are heard are the same. -/
structure EffectRack.State.Alike {R : EffectRack F} (off : NetworkId) (e e' : R.State) : Prop where
  processor : ∀ i : ProcessorId, i.heard off → e.processor i = e'.processor i
  mixer : ∀ m : MixerId, m.heard off → e.mixer m = e'.mixer m

namespace EffectRack.State.Alike

variable {R : EffectRack F} {off : NetworkId} {e e' : R.State} {b b' : AudioBuffer F}

/-- **A processor at work** keeps the states alike, and the buffers as far as it is heard. -/
lemma process (h : e.Alike off e') (i : ProcessorId) (hb : b.AlikeIf (i.heard off) b')
    (hchannels : 0 < b.numChannels) :
    (R.process i e b).1.Alike off (R.process i e' b').1 ∧
      (b.withData (R.process i e b).2).AlikeIf (i.heard off)
        (b'.withData (R.process i e' b').2) := by
  refine ⟨⟨fun j hj => ?_, h.mixer⟩, hb.numChannels, hb.numSamples, fun hi => ?_⟩
  · by_cases hji : j = i
    · subst hji
      simp only [EffectRack.process, Function.update_self, h.processor j hj]
      exact ((R.processor j).confined _ b b' hchannels (hb.of_heard hj)).1
    · simp only [EffectRack.process, Function.update_of_ne hji]
      exact h.processor j hj
  · simp only [EffectRack.process, h.processor i hi]
    exact (((R.processor i).confined _ b b' hchannels (hb.of_heard hi)).2).data trivial

/-- A mixer that is given the dry samples. -/
lemma setDrySamples (h : e.Alike off e') (m : MixerId) (hb : b.AlikeIf (m.heard off) b') :
    (R.setDrySamples m e b).Alike off (R.setDrySamples m e' b') := by
  refine ⟨h.processor, fun j hj => ?_⟩
  by_cases hjm : j = m
  · subst hjm
    simp only [EffectRack.setDrySamples, Function.update_self, h.mixer j hj]
    exact (R.mixer j).confinedDry _ b b' (hb.of_heard hj)
  · simp only [EffectRack.setDrySamples, Function.update_of_ne hjm]
    exact h.mixer j hj

/-- A mixer that mixes. -/
lemma setWetSamples (h : e.Alike off e') (m : MixerId) (hb : b.AlikeIf (m.heard off) b') :
    (R.setWetSamples m e b).1.Alike off (R.setWetSamples m e' b').1 ∧
      (b.withData (R.setWetSamples m e b).2).AlikeIf (m.heard off)
        (b'.withData (R.setWetSamples m e' b').2) := by
  refine ⟨⟨h.processor, fun j hj => ?_⟩, hb.numChannels, hb.numSamples, fun hm => ?_⟩
  · by_cases hjm : j = m
    · subst hjm
      simp only [EffectRack.setWetSamples, Function.update_self, h.mixer j hj]
      exact ((R.mixer j).confinedWet _ b b' (hb.of_heard hj)).1
    · simp only [EffectRack.setWetSamples, Function.update_of_ne hjm]
      exact h.mixer j hj
  · simp only [EffectRack.setWetSamples, h.mixer m hm]
    exact (((R.mixer m).confinedWet _ b b' (hb.of_heard hm)).2).data trivial

/-- What is kept for the editor is not heard. -/
lemma withEars (h : e.Alike off e') (ears ears' : R.Ears) :
    EffectRack.State.Alike off { e with ears := ears } { e' with ears := ears' } :=
  ⟨h.processor, h.mixer⟩

end EffectRack.State.Alike

/-- Gain ramps of buffers that are alike. -/
lemma EffectRack.gainRamp_alike {R : EffectRack F} {b b' : AudioBuffer F} (h : b.AlikeIf True b')
    {gain gain' : GainLevel F} (hgain : gain = gain') :
    (R.effects.gainRamp gain b).AlikeIf True (R.effects.gainRamp gain' b') := by
  subst hgain
  refine ⟨h.numChannels, h.numSamples, fun _ c hc i hi => ?_⟩
  simp only [Effects.gainRamp, AudioBuffer.withData_numChannels,
    AudioBuffer.withData_numSamples] at hc hi ⊢
  have hramp := R.confinedRamp gain.previousGain gain.currentGain b.numSamples (b.data c)
    (b'.data c) (fun j hj => h.data trivial c hc j hj) i hi
  simpa only [AudioBuffer.withData, EffectRack.effects, ← h.numSamples] using hramp

/-! ## Plugins that differ in what is not heard -/

/-- Two plugins that differ at most in what belongs to the network that is off. -/
structure PluginAlike {R : EffectRack F} (off : NetworkId)
    (p p' : AudioPluginAudioProcessor F S R.State) : Prop where
  monoBuffer : p.monoBuffer.AlikeIf True p'.monoBuffer
  networkBuffer : ∀ k, (p.networkBuffer k).AlikeIf (k ≠ off) (p'.networkBuffer k)
  monoChannels : p.monoBuffer.numChannels = 1
  networkChannels : ∀ k, (p.networkBuffer k).numChannels = 1
  inputGain : p.inputGain = p'.inputGain
  outputGain : p.outputGain = p'.outputGain
  onnxProcessor : ∀ k, k ≠ off → p.onnxProcessor k = p'.onnxProcessor k
  effects : p.effects.Alike off p'.effects

/-- The mixdown into buffers that are alike. -/
lemma stereoToMono_alike [FloatArithmetic F] {b b' : AudioBuffer F} (h : b.AlikeIf True b')
    (source : AudioBuffer F) :
    (stereoToMono b source).value.AlikeIf True (stereoToMono b' source).value := by
  unfold stereoToMono
  split_ifs with hmono
  · exact (AudioBuffer.AlikeIf.refl True source).makeCopyOf b b'
  · have hcopy : (b.overwrite 0 source.numSamples (source.data 0)).AlikeIf True
        (b'.overwrite 0 source.numSamples (source.data 0)) := h.overwrite 0 fun _ _ _ _ => rfl
    have hadd := hcopy.overwrite 0 (n := source.numSamples) fun i _ hi hc =>
      congrArg (· + source.data 1 i) (hcopy.data trivial 0 hc i hi)
    exact hadd.overwrite 0 fun i _ hi hc => congrArg (· * half) (hadd.data trivial 0 hc i hi)

/-- Mono buffers that are alike, written to the host's block. -/
lemma monoToStereo_alike {b b' : AudioBuffer F} (h : b.AlikeIf True b')
    (hone : b.numChannels = 1) (target : AudioBuffer F) :
    (monoToStereo target b).value.AlikeIf True (monoToStereo target b').value := by
  have hone' : b'.numChannels = 1 := h.numChannels.symm.trans hone
  rw [monoToStereo, monoToStereo, if_neg (by omega), if_neg (by omega), ← h.numSamples]
  have hdata : ∀ i < b.numSamples, b.data 0 i = b'.data 0 i :=
    h.data trivial 0 (by omega)
  refine AudioBuffer.AlikeIf.overwrite ?_ 1 fun i hi _ _ => hdata i hi
  exact (AudioBuffer.AlikeIf.refl True target).overwrite 0 fun i hi _ _ => hdata i hi

namespace PluginAlike

variable [FloatArithmetic F] {R : EffectRack F} {off : NetworkId}
  {p p' : AudioPluginAudioProcessor F S R.State}

omit [FloatArithmetic F] in
/-- The networks' buffers have a channel. -/
lemma networkChannels_pos (h : PluginAlike off p p') (k : NetworkId) :
    0 < (p.networkBuffer k).numChannels := by
  rw [h.networkChannels k]
  exact Nat.one_pos

/-- The copies for the two networks. -/
lemma feedNetworks (h : PluginAlike off p p') (buffer : AudioBuffer F) :
    PluginAlike off (p.feedNetworks R.effects buffer).value
      (p'.feedNetworks R.effects buffer).value := by
  have hmono : (R.effects.gainRamp p.inputGain (stereoToMono p.monoBuffer buffer).value).AlikeIf
      True (R.effects.gainRamp p'.inputGain (stereoToMono p'.monoBuffer buffer).value) :=
    EffectRack.gainRamp_alike (stereoToMono_alike h.monoBuffer buffer) h.inputGain
  have hchannels := AudioPluginAudioProcessor.numChannels_stereoToMono h.monoChannels buffer
  exact
    { monoBuffer := hmono
      networkBuffer := fun k => by
        cases k <;> exact (hmono.makeCopyOf _ _).mono _
      monoChannels := hchannels
      networkChannels := fun k => by cases k <;> exact hchannels
      inputGain := by
        show GainLevel.mk p.inputGain.currentGain p.inputGain.currentGain =
          ⟨p'.inputGain.currentGain, p'.inputGain.currentGain⟩
        rw [h.inputGain]
      outputGain := h.outputGain
      onnxProcessor := fun k hk => by
        have hsame := h.onnxProcessor k hk
        cases k <;> exact hsame
      effects := h.effects.setDrySamples .dryWetMixer (.refl _ buffer) }

omit [FloatArithmetic F] in
/-- The transient splitters and the filters.

**Proof sketch.** The four effects keep the relation one after the other, each by
`EffectRack.State.Alike.process`; the buffers they read are those the last one has left. -/
lemma filterNetworks (h : PluginAlike off p p') :
    PluginAlike off (p.filterNetworks R.effects) (p'.filterNetworks R.effects) := by
  have hpos : ∀ k, 0 < (p.networkBuffer k).numChannels := h.networkChannels_pos
  have hsplit1 := h.effects.process (.transientSplitter .network1)
    (h.networkBuffer .network1) (hpos .network1)
  have hsplit2 := hsplit1.1.process (.transientSplitter .network2)
    (h.networkBuffer .network2) (hpos .network2)
  have hfilter1 := hsplit2.1.process (.iirCutoffFilter .network1) hsplit1.2 (hpos .network1)
  have hfilter2 := hfilter1.1.process (.iirCutoffFilter .network2) hsplit2.2 (hpos .network2)
  exact
    { monoBuffer := h.monoBuffer
      networkBuffer := fun k => by
        cases k
        · exact hfilter1.2
        · exact hfilter2.2
      monoChannels := h.monoChannels
      networkChannels := fun k => by
        have hchannels := h.networkChannels k
        cases k <;> exact hchannels
      inputGain := h.inputGain
      outputGain := h.outputGain
      onnxProcessor := fun k hk => by
        have hsame := h.onnxProcessor k hk
        cases k <;> exact hsame
      effects := hfilter2.1.withEars _ _ }

omit [FloatArithmetic F] in
/-- Other processors. -/
lemma withEffects (h : PluginAlike off p p') {e e' : R.State} (he : e.Alike off e') :
    PluginAlike off { p with effects := e } { p' with effects := e' } where
  monoBuffer := h.monoBuffer
  networkBuffer k := by
    have hbuffer := h.networkBuffer k
    cases k <;> exact hbuffer
  monoChannels := h.monoChannels
  networkChannels k := by
    have hchannels := h.networkChannels k
    cases k <;> exact hchannels
  inputGain := h.inputGain
  outputGain := h.outputGain
  onnxProcessor k hk := by
    have hsame := h.onnxProcessor k hk
    cases k <;> exact hsame
  effects := he

omit [FloatArithmetic F] in
/-- The gain parameters. -/
lemma setGains (h : PluginAlike off p p') (inputGain outputGain : F) :
    PluginAlike off
      { p with
        inputGain := { p.inputGain with currentGain := inputGain }
        outputGain := { p.outputGain with currentGain := outputGain } }
      { p' with
        inputGain := { p'.inputGain with currentGain := inputGain }
        outputGain := { p'.outputGain with currentGain := outputGain } } where
  monoBuffer := h.monoBuffer
  networkBuffer k := by
    have hbuffer := h.networkBuffer k
    cases k <;> exact hbuffer
  monoChannels := h.monoChannels
  networkChannels k := by
    have hchannels := h.networkChannels k
    cases k <;> exact hchannels
  inputGain := by rw [h.inputGain]
  outputGain := by rw [h.outputGain]
  onnxProcessor k hk := by
    have hsame := h.onnxProcessor k hk
    cases k <;> exact hsame
  effects := h.effects

omit [FloatArithmetic F] in
/-- Another `OnnxProcessor` for a network: the same one, if the network is heard.

**Proof sketch.** Only the processor of that network is another one; each field is found again by
cases on the network. -/
lemma setOnnxProcessor (h : PluginAlike off p p') {k : NetworkId}
    {o o' : OnnxProcessor F S} (ho : k ≠ off → o = o') :
    PluginAlike off (p.setOnnxProcessor o k) (p'.setOnnxProcessor o' k) where
  monoBuffer := by
    have hmono := h.monoBuffer
    cases k <;> exact hmono
  networkBuffer j := by
    have hbuffer := h.networkBuffer j
    cases k <;> cases j <;> exact hbuffer
  monoChannels := by
    have hchannels := h.monoChannels
    cases k <;> exact hchannels
  networkChannels j := by
    have hchannels := h.networkChannels j
    cases k <;> cases j <;> exact hchannels
  inputGain := by
    have hgain := h.inputGain
    cases k <;> exact hgain
  outputGain := by
    have hgain := h.outputGain
    cases k <;> exact hgain
  onnxProcessor j hj := by
    have hsame := h.onnxProcessor j hj
    cases k <;> cases j <;> first | exact hsame | exact ho hj
  effects := by
    have heffects := h.effects
    cases k <;> exact heffects

/-- `sendAudio` of a network. -/
lemma sendAudio (h : PluginAlike off p p') (k : NetworkId) :
    PluginAlike off (p.sendAudio k) (p'.sendAudio k) := by
  refine h.setOnnxProcessor fun hk => ?_
  have hsamples := (h.networkBuffer k).of_heard hk |>.samples (c := 0)
    (h.networkChannels_pos k)
  rw [h.onnxProcessor k hk]
  simp only [OnnxProcessor.sendAudio, InferenceThread.sendAudio, hsamples]

/-- `processOutput` of a network.

**Proof sketch.** The output reads the size of the buffer only, so a network that is heard gives the
same samples; the other one is not heard, and nothing else changes. -/
lemma processOutput (h : PluginAlike off p p') (k : NetworkId) :
    PluginAlike off (p.processOutput k) (p'.processOutput k) := by
  have hsize : ∀ q : AudioPluginAudioProcessor F S R.State, ∀ j,
      ((q.processOutput k).networkBuffer j).numChannels = (q.networkBuffer j).numChannels ∧
        ((q.processOutput k).networkBuffer j).numSamples = (q.networkBuffer j).numSamples :=
    fun q j => q.size_processOutput k j
  have hsame : k ≠ off →
      (p.processOutput k).onnxProcessor k = (p'.processOutput k).onnxProcessor k ∧
        ((p.processOutput k).networkBuffer k).AlikeIf True
          ((p'.processOutput k).networkBuffer k) := by
    intro hk
    have hbuffer := (h.networkBuffer k).of_heard hk
    have houtput : ∀ q : AudioPluginAudioProcessor F S R.State,
        (q.processOutput k).onnxProcessor k =
            ((q.onnxProcessor k).processOutput (q.networkBuffer k)
              (q.networkBuffer k).numSamples).1 ∧
          (q.processOutput k).networkBuffer k =
            ((q.onnxProcessor k).processOutput (q.networkBuffer k)
              (q.networkBuffer k).numSamples).2 := by
      intro q
      cases k <;> exact ⟨rfl, rfl⟩
    have halike := (p'.onnxProcessor k).processOutput_alike hbuffer (p'.networkBuffer k).numSamples
    rw [(houtput p).1, (houtput p).2, (houtput p').1, (houtput p').2, h.onnxProcessor k hk,
      hbuffer.numSamples]
    exact halike
  exact
    { monoBuffer := by
        have hmono := h.monoBuffer
        cases k <;> exact hmono
      networkBuffer := fun j => by
        refine ⟨?_, ?_, fun hj => ?_⟩
        · rw [(hsize p j).1, (hsize p' j).1, (h.networkBuffer j).numChannels]
        · rw [(hsize p j).2, (hsize p' j).2, (h.networkBuffer j).numSamples]
        · have hother := (h.networkBuffer j).data hj
          cases k <;> cases j <;> first | exact (hsame hj).2.data trivial | exact hother
      monoChannels := by
        have hchannels := h.monoChannels
        cases k <;> exact hchannels
      networkChannels := fun j => (hsize p j).1.trans (h.networkChannels j)
      inputGain := by
        have hgain := h.inputGain
        cases k <;> exact hgain
      outputGain := by
        have hgain := h.outputGain
        cases k <;> exact hgain
      onnxProcessor := fun j hj => by
        have hother := h.onnxProcessor j hj
        cases k <;> cases j <;> first | exact (hsame hj).1 | exact hother
      effects := by
        have heffects := h.effects
        cases k <;> exact heffects }

omit [FloatArithmetic F] in
/-- The level analysers. -/
lemma analyseLevels (h : PluginAlike off p p') :
    PluginAlike off (p.analyseLevels R.effects) (p'.analyseLevels R.effects) :=
  h.withEffects (h.effects.withEars _ _)

omit [FloatArithmetic F] in
/-- The grain delays with their mixers.

**Proof sketch.** Six processors work one after the other, each on the buffer of its own network;
the states stay alike, and either buffer as far as it is heard. -/
lemma runGrainDelays (h : PluginAlike off p p') :
    PluginAlike off (p.runGrainDelays R.effects) (p'.runGrainDelays R.effects) := by
  have hdry1 := h.effects.setDrySamples (.grainDryWetMixer .network1)
    ((h.networkBuffer .network1).makeCopyOf p.grain1DryBuffer p'.grain1DryBuffer)
  have hgrain1 := hdry1.process (.grainDelay .network1) (h.networkBuffer .network1)
    (h.networkChannels_pos .network1)
  have hwet1 := hgrain1.1.setWetSamples (.grainDryWetMixer .network1) hgrain1.2
  have hdry2 := hwet1.1.setDrySamples (.grainDryWetMixer .network2)
    ((h.networkBuffer .network2).makeCopyOf p.grain2DryBuffer p'.grain2DryBuffer)
  have hgrain2 := hdry2.process (.grainDelay .network2) (h.networkBuffer .network2)
    (h.networkChannels_pos .network2)
  have hwet2 := hgrain2.1.setWetSamples (.grainDryWetMixer .network2) hgrain2.2
  exact
    { monoBuffer := h.monoBuffer
      networkBuffer := fun k => by
        cases k
        · exact hwet1.2
        · exact hwet2.2
      monoChannels := h.monoChannels
      networkChannels := fun k => by
        have hchannels := h.networkChannels k
        cases k <;> exact hchannels
      inputGain := h.inputGain
      outputGain := h.outputGain
      onnxProcessor := fun k hk => by
        have hsame := h.onnxProcessor k hk
        cases k <;> exact hsame
      effects := hwet2.1 }

/-- **Muting a network that is off** leaves nothing that the plugins differ in: from here on both
buffers are heard. -/
lemma muted (h : PluginAlike off p p') {onOff : NetworkId → Bool} (hoff : onOff off = false)
    (k : NetworkId) :
    (if onOff k then p.networkBuffer k else (p.networkBuffer k).clear).AlikeIf True
      (if onOff k then p'.networkBuffer k else (p'.networkBuffer k).clear) := by
  cases hk : onOff k with
  | true =>
    refine (h.networkBuffer k).of_heard ?_
    rintro rfl
    rw [hk] at hoff
    cases hoff
  | false => exact (h.networkBuffer k).clear

/-- The mix of the two networks.

**Proof sketch.** After the muting both buffers are heard, so from there on every processor works on
the same samples. -/
lemma mixNetworks (h : PluginAlike off p p') {onOff : NetworkId → Bool}
    (hoff : onOff off = false) :
    PluginAlike off (p.mixNetworks R.effects onOff) (p'.mixNetworks R.effects onOff) := by
  have hchannels : ∀ k, (if onOff k then p.networkBuffer k else
      (p.networkBuffer k).clear).numChannels = 1 := by
    intro k
    rw [← h.networkChannels k]
    split_ifs
    · rfl
    · rfl
  have hmono := (h.muted hoff .network1).makeCopyOf p.monoBuffer p'.monoBuffer
  have hdry := h.effects.setDrySamples .fadeMixer (h.muted hoff .network2)
  have hfade := hdry.setWetSamples .fadeMixer hmono
  have hcompDry := hfade.1.setDrySamples .compMixer hfade.2
  have hcomp := hcompDry.process .compressor hfade.2 (by
    rw [AudioBuffer.withData_numChannels, AudioBuffer.makeCopyOf_numChannels, hchannels]
    exact Nat.one_pos)
  have hwet := hcomp.1.setWetSamples .compMixer hcomp.2
  have hramp := EffectRack.gainRamp_alike (R := R) hwet.2 h.outputGain
  exact
    { monoBuffer := hramp
      networkBuffer := fun k => by
        have hmuted := (h.muted hoff k).mono (k ≠ off)
        cases k <;> exact hmuted
      monoChannels := hchannels .network1
      networkChannels := fun k => by
        have hone := hchannels k
        cases k <;> exact hone
      inputGain := h.inputGain
      outputGain := by
        show GainLevel.mk p.outputGain.currentGain p.outputGain.currentGain =
          ⟨p'.outputGain.currentGain, p'.outputGain.currentGain⟩
        rw [h.outputGain]
      onnxProcessor := fun k hk => by
        have hsame := h.onnxProcessor k hk
        cases k <;> exact hsame
      effects := hwet.1 }

/-- **What follows the second network's output** gives the host the same block. -/
lemma finish (h : PluginAlike off p p') {onOff : NetworkId → Bool} (hoff : onOff off = false)
    (buffer : AudioBuffer F) :
    PluginAlike off (p.finish R.effects onOff buffer).1 (p'.finish R.effects onOff buffer).1 ∧
      (p.finish R.effects onOff buffer).2.AlikeIf True
        (p'.finish R.effects onOff buffer).2 := by
  have hmix := h.analyseLevels.runGrainDelays.mixNetworks hoff
  have hwet := hmix.effects.setWetSamples .dryWetMixer
    (monoToStereo_alike hmix.monoBuffer hmix.monoChannels buffer)
  refine ⟨⟨hmix.monoBuffer, fun k => ?_, hmix.monoChannels, fun k => ?_, hmix.inputGain,
    hmix.outputGain, fun k hk => ?_, hwet.1⟩, hwet.2⟩
  · have hbuffer := hmix.networkBuffer k
    cases k <;> exact hbuffer
  · have hchannels := hmix.networkChannels k
    cases k <;> exact hchannels
  · have hsame := hmix.onnxProcessor k hk
    cases k <;> exact hsame

end PluginAlike

/-! ## Runs that differ in what is not heard -/

/-- The network is off at the end of every callback. -/
def PluginEvent.Mutes {E : Type} (off : NetworkId) : PluginEvent F E → Prop
  | .endBlock onOff => onOff off = false
  | _ => True

/-- A step of the inference thread of a network. -/
def PluginEvent.IsThreadOf {E : Type} (k : NetworkId) (e : PluginEvent F E) : Prop :=
  e = .deliver k ∨ e = .threadEnd k

/-- The events of two runs that differ at most in the network that is off: in the steps that its
inference thread takes, and in what parameter changes do to its processors. -/
inductive EventsAlike {R : EffectRack F} (off : NetworkId) :
    List (PluginEvent F R.State) → List (PluginEvent F R.State) → Prop
  | nil : EventsAlike off [] []
  | left {e : PluginEvent F R.State} {es es' : List (PluginEvent F R.State)} :
    e.IsThreadOf off → EventsAlike off es es' → EventsAlike off (e :: es) es'
  | right {e : PluginEvent F R.State} {es es' : List (PluginEvent F R.State)} :
    e.IsThreadOf off → EventsAlike off es es' → EventsAlike off es (e :: es')
  | setEffects {effects effects' : R.State} {es es' : List (PluginEvent F R.State)} :
    effects.Alike off effects' → EventsAlike off es es' →
      EventsAlike off (.setEffects effects :: es) (.setEffects effects' :: es')
  | both {e : PluginEvent F R.State} {es es' : List (PluginEvent F R.State)} :
    e.Mutes off → EventsAlike off es es' → EventsAlike off (e :: es) (e :: es')

namespace PluginRun

variable [FloatArithmetic F] {R : EffectRack F} {off : NetworkId} {ort : Ort F S File}

/-- Two runs that differ at most in what belongs to the network that is off: the host has been
given the same blocks. -/
structure Alike (off : NetworkId) (r r' : PluginRun F S R.State) : Prop where
  plugin : PluginAlike off r.plugin r'.plugin
  callback : r.callback = r'.callback
  outputs : List.Forall₂ (AudioBuffer.AlikeIf True) r.outputs r'.outputs

/-- Processors that are set alike keep two plugins alike. -/
lemma Alike.setEffects {r r' q q' : PluginRun F S R.State} (h : Alike off r r')
    {effects effects' : R.State} (heffects : effects.Alike off effects')
    (hs : r.step R.effects ort (.setEffects effects) = some q)
    (hs' : r'.step R.effects ort (.setEffects effects') = some q') : Alike off q q' := by
  obtain rfl := Option.some.inj hs
  obtain rfl := Option.some.inj hs'
  exact ⟨h.plugin.withEffects heffects, h.callback, h.outputs⟩

/-- **The same event keeps two plugins alike**, if it leaves the network off.

**Proof sketch.** By the event: each is one of the pieces of the callback, for which this has been
shown, or replaces something of both plugins. -/
lemma Alike.step {r r' q q' : PluginRun F S R.State} (h : Alike off r r')
    {e : PluginEvent F R.State} (he : e.Mutes off) (hs : r.step R.effects ort e = some q)
    (hs' : r'.step R.effects ort e = some q') : Alike off q q' := by
  obtain ⟨t, ht, rfl⟩ := step_eq_some hs
  obtain ⟨t', ht', rfl⟩ := step_eq_some hs'
  cases e with
  | beginBlock buffer =>
    obtain ⟨-, rfl⟩ := advance_beginBlock ht
    obtain ⟨-, rfl⟩ := advance_beginBlock ht'
    exact ⟨((h.plugin.feedNetworks buffer).filterNetworks).sendAudio .network1, rfl, h.outputs⟩
  | output1 =>
    obtain ⟨b, hb, rfl⟩ := advance_output1 ht
    obtain ⟨b', hb', rfl⟩ := advance_output1 ht'
    obtain rfl : b = b' := by simpa [hb, hb'] using h.callback
    exact ⟨h.plugin.processOutput .network1, rfl, h.outputs⟩
  | send2 =>
    obtain ⟨b, hb, rfl⟩ := advance_send2 ht
    obtain ⟨b', hb', rfl⟩ := advance_send2 ht'
    obtain rfl : b = b' := by simpa [hb, hb'] using h.callback
    exact ⟨h.plugin.sendAudio .network2, rfl, h.outputs⟩
  | endBlock onOff =>
    obtain ⟨b, hb, rfl⟩ := advance_endBlock ht
    obtain ⟨b', hb', rfl⟩ := advance_endBlock ht'
    obtain rfl : b = b' := by simpa [hb, hb'] using h.callback
    obtain ⟨hplugin, hblock⟩ := (h.plugin.processOutput .network2).finish he b
    exact ⟨hplugin, rfl, List.rel_append h.outputs (.cons hblock .nil)⟩
  | deliver k =>
    obtain ⟨-, rfl⟩ := advance_deliver ht
    obtain ⟨-, rfl⟩ := advance_deliver ht'
    refine ⟨h.plugin.setOnnxProcessor fun hk => ?_, h.callback, h.outputs⟩
    rw [h.plugin.onnxProcessor k hk]
  | threadEnd k =>
    obtain ⟨-, rfl⟩ := advance_threadEnd ht
    obtain ⟨-, rfl⟩ := advance_threadEnd ht'
    refine ⟨h.plugin.setOnnxProcessor fun hk => ?_, h.callback, h.outputs⟩
    rw [h.plugin.onnxProcessor k hk]
  | setGains inputGain outputGain =>
    obtain rfl := Option.some.inj ht
    obtain rfl := Option.some.inj ht'
    exact ⟨h.plugin.setGains inputGain outputGain, h.callback, h.outputs⟩
  | setEffects effects =>
    obtain rfl := Option.some.inj ht
    obtain rfl := Option.some.inj ht'
    exact ⟨h.plugin.withEffects ⟨fun _ _ => rfl, fun _ _ => rfl⟩, h.callback, h.outputs⟩

/-- A step of the inference thread of the network that is off leaves a plugin alike to itself. -/
lemma alike_thread {r q : PluginRun F S R.State} {e : PluginEvent F R.State}
    (he : e.IsThreadOf off) (hs : r.step R.effects ort e = some q) :
    ∃ o, q.plugin = r.plugin.setOnnxProcessor o off ∧ q.callback = r.callback ∧
      q.outputs = r.outputs := by
  obtain ⟨t, ht, rfl⟩ := step_eq_some hs
  rcases he with rfl | rfl
  · obtain ⟨-, rfl⟩ := advance_deliver ht
    exact ⟨_, rfl, rfl, rfl⟩
  · obtain ⟨-, rfl⟩ := advance_threadEnd ht
    exact ⟨_, rfl, rfl, rfl⟩

/-- Two plugins stay alike when the inference thread of the network that is off takes a step in
the first. -/
lemma Alike.left {r r' q : PluginRun F S R.State} (h : Alike off r r')
    {e : PluginEvent F R.State} (he : e.IsThreadOf off)
    (hs : r.step R.effects ort e = some q) : Alike off q r' := by
  obtain ⟨o, hplugin, hcallback, houtputs⟩ := alike_thread he hs
  refine ⟨?_, hcallback.trans h.callback, houtputs ▸ h.outputs⟩
  have hsame : r'.plugin = r'.plugin.setOnnxProcessor (r'.plugin.onnxProcessor off) off := by
    cases off <;> rfl
  rw [hplugin, hsame]
  exact h.plugin.setOnnxProcessor fun hk => absurd rfl hk

/-- And in the second. -/
lemma Alike.right {r r' q' : PluginRun F S R.State} (h : Alike off r r')
    {e : PluginEvent F R.State} (he : e.IsThreadOf off)
    (hs : r'.step R.effects ort e = some q') : Alike off r q' := by
  obtain ⟨o, hplugin, hcallback, houtputs⟩ := alike_thread he hs
  refine ⟨?_, h.callback.trans hcallback.symm, houtputs ▸ h.outputs⟩
  have hsame : r.plugin = r.plugin.setOnnxProcessor (r.plugin.onnxProcessor off) off := by
    cases off <;> rfl
  rw [hplugin, hsame]
  exact h.plugin.setOnnxProcessor fun hk => absurd rfl hk

/-- **Runs that differ in the network that is off keep the plugins alike.**

**Proof sketch.** Induction on how the events of the two runs are matched. -/
lemma Alike.run {es es' : List (PluginEvent F R.State)} (hes : EventsAlike off es es')
    {r r' : PluginRun F S R.State} (h : Alike off r r') {q q' : PluginRun F S R.State}
    (hq : Transition.exec (PluginRun.step R.effects ort) r es = some q)
    (hq' : Transition.exec (PluginRun.step R.effects ort) r' es' = some q') : Alike off q q' := by
  induction hes generalizing r r' with
  | nil =>
    obtain rfl := Option.some.inj hq
    obtain rfl := Option.some.inj hq'
    exact h
  | left he _ ih =>
    obtain ⟨t, ht, hq⟩ := Transition.exec_cons_eq_some.mp hq
    exact ih (h.left he ht) hq hq'
  | right he _ ih =>
    obtain ⟨t', ht', hq'⟩ := Transition.exec_cons_eq_some.mp hq'
    exact ih (h.right he ht') hq hq'
  | setEffects heffects _ ih =>
    obtain ⟨t, ht, hq⟩ := Transition.exec_cons_eq_some.mp hq
    obtain ⟨t', ht', hq'⟩ := Transition.exec_cons_eq_some.mp hq'
    exact ih (h.setEffects heffects ht ht') hq hq'
  | both he _ ih =>
    obtain ⟨t, ht, hq⟩ := Transition.exec_cons_eq_some.mp hq
    obtain ⟨t', ht', hq'⟩ := Transition.exec_cons_eq_some.mp hq'
    exact ih (h.step he ht ht') hq hq'

omit [FloatArithmetic F] in
/-- Plugins prepared alike, whatever model one of them has in the network that is off. -/
lemma Alike.start (p : AudioPluginAudioProcessor F S R.State) (o : OnnxProcessor F S)
    (totalNumInputChannels : ℕ) (sampleRate : ℚ) (samplesPerBlock : ℕ) :
    Alike off (start R.effects p totalNumInputChannels sampleRate samplesPerBlock)
      (start R.effects (p.setOnnxProcessor o off) totalNumInputChannels sampleRate
        samplesPerBlock) := by
  have hnetwork : ∀ (k : NetworkId) (buffer : AudioBuffer F),
      (buffer.setSize 1 samplesPerBlock buffer.data).AlikeIf (k ≠ off)
        (buffer.setSize 1 samplesPerBlock buffer.data) :=
    fun _ _ => .refl _ _
  have heffects : ∀ e : R.State, e.Alike off e := fun e => ⟨fun _ _ => rfl, fun _ _ => rfl⟩
  have hmono := AudioBuffer.setSize_numChannels p.monoBuffer 1 samplesPerBlock p.monoBuffer.data
  have hchannels : ∀ k, ((p.prepareToPlay R.effects totalNumInputChannels sampleRate
      samplesPerBlock).networkBuffer k).numChannels = 1 := fun k => by
    cases k <;> exact AudioBuffer.setSize_numChannels ..
  cases off
  · exact ⟨⟨.refl _ _, fun k => by cases k <;> exact hnetwork _ _, hmono, hchannels, rfl, rfl,
      fun k hk => by cases k <;> first | exact absurd rfl hk | rfl, heffects _⟩, rfl, .nil⟩
  · exact ⟨⟨.refl _ _, fun k => by cases k <;> exact hnetwork _ _, hmono, hchannels, rfl, rfl,
      fun k hk => by cases k <;> first | exact absurd rfl hk | rfl, heffects _⟩, rfl, .nil⟩

end PluginRun

/-- **A network that is off cannot be heard.** Two plugins that are set up alike but for the model
of the network that is off run through the same events, in any order with the steps of their
inference threads, save that the processors of the network that is off may be set differently and
that its inference thread may deliver at other points or not at all. Then the host gets the same
blocks from both. -/
theorem off_network_inaudible [FloatArithmetic F] {R : EffectRack F} {ort : Ort F S File}
    {off : NetworkId} (p : AudioPluginAudioProcessor F S R.State) (o : OnnxProcessor F S)
    (totalNumInputChannels : ℕ) (sampleRate : ℚ) (samplesPerBlock : ℕ)
    {es es' : List (PluginEvent F R.State)} (hes : EventsAlike off es es')
    {r r' : PluginRun F S R.State}
    (hr : Transition.exec (PluginRun.step R.effects ort)
      (PluginRun.start R.effects p totalNumInputChannels sampleRate samplesPerBlock) es = some r)
    (hr' : Transition.exec (PluginRun.step R.effects ort)
      (PluginRun.start R.effects (p.setOnnxProcessor o off) totalNumInputChannels sampleRate
        samplesPerBlock) es' = some r') :
    List.Forall₂ (AudioBuffer.AlikeIf True) r.outputs r'.outputs :=
  ((PluginRun.Alike.start p o totalNumInputChannels sampleRate samplesPerBlock).run hes hr
    hr').outputs

/-! ## The theorem at work -/

/-- Processors that multiply by a gain each, and mixers that pass on what is mixed in. -/
def EffectRack.gains (F : Type) [Mul F] : EffectRack F where
  processor _ :=
    { State := F
      prepare := fun _ gain => gain
      process := fun gain b => (gain, fun c i => b.data c i * gain)
      confined := fun gain _ _ _ h => ⟨rfl, h.numChannels, h.numSamples, fun _ c hc i hi =>
        congrArg (· * gain) (h.data trivial c hc i hi)⟩ }
  mixer _ :=
    { State := Unit
      prepare := fun _ _ => ()
      setWetLatency := fun _ _ => ()
      setDrySamples := fun _ _ => ()
      setWetSamples := fun _ b => ((), b.data)
      confinedDry := fun _ _ _ _ => rfl
      confinedWet := fun _ _ _ h => ⟨rfl, h⟩ }
  Ears := Unit
  audioVisualiser _ _ _ := ()
  levelAnalyser _ _ _ := ()
  applyGainRamp gain _ _ xs i := xs i * gain
  confinedRamp gain _ _ _ _ h i hi := congrArg (· * gain) (h i hi)

/-- Gains of one beside the splitters and the compressor of the plugin. -/
noncomputable def EffectRack.dynamics : EffectRack (WithNan ℝ) :=
  (EffectRack.gains (WithNan ℝ)).withDynamics realMaps zeroMemory

/-- The processors as they are constructed, but for the sustain of the second network. -/
noncomputable def sustaining (sustain : ℝ) : EffectRack.dynamics.State where
  processor
    | .transientSplitter k =>
      { index := k
        transientSplitter :=
          if k = .network2 then TransientSplitter.construct.setSustain sustain else .construct
        isMuted := false : ProcessorTransientSplitter ℝ }
    | .compressor => silentCompressor
    | .iirCutoffFilter _ => (1 : WithNan ℝ)
    | .grainDelay _ => (1 : WithNan ℝ)
  mixer _ := ()
  ears := ()

/-- Setting the sustain of the second network's splitter, and a callback with that network off. -/
noncomputable def mutedCallback (sustain : ℝ) :
    List (PluginEvent (WithNan ℝ) EffectRack.dynamics.State) :=
  [.setEffects (sustaining sustain), .beginBlock ⟨2, 1, fun _ _ => 1⟩, .output1, .send2,
    .endBlock fun k => decide (k = .network1)]

/-- A plugin with this rack and a model in both networks. -/
noncomputable def mutedPlugin :
    AudioPluginAudioProcessor (WithNan ℝ) Unit EffectRack.dynamics.State where
  monoBuffer := ⟨0, 0, fun _ _ => 0⟩
  network1Buffer := ⟨0, 0, fun _ _ => 0⟩
  network2Buffer := ⟨0, 0, fun _ _ => 0⟩
  grain1DryBuffer := ⟨0, 0, fun _ _ => 0⟩
  grain2DryBuffer := ⟨0, 0, fun _ _ => 0⟩
  inputGain := ⟨1, 1⟩
  outputGain := ⟨1, 1⟩
  onnxProcessor1 := .passThrough (WithNan ℝ)
  onnxProcessor2 := .passThrough (WithNan ℝ)
  effects := sustaining 1
  latencySamples := 0

/-- The processors that are heard do not differ. -/
lemma alike_sustaining (sustain sustain' : ℝ) :
    (sustaining sustain).Alike .network2 (sustaining sustain') := by
  refine ⟨fun i hi => ?_, fun _ _ => rfl⟩
  cases i with
  | transientSplitter k =>
    have hk : k ≠ .network2 := hi
    simp only [sustaining, if_neg hk]
    rfl
  | iirCutoffFilter _ => rfl
  | grainDelay _ => rfl
  | compressor => rfl

/-- Nor do the callbacks differ in what is heard. -/
lemma alike_mutedCallback (sustain sustain' : ℝ) :
    EventsAlike .network2 (mutedCallback sustain) (mutedCallback sustain') := by
  refine .setEffects (alike_sustaining sustain sustain')
    (.both ?_ (.both ?_ (.both ?_ (.both ?_ .nil))))
  · trivial
  · trivial
  · trivial
  · rfl

/-- The callback can happen. -/
lemma exec_mutedCallback
    (p : AudioPluginAudioProcessor (WithNan ℝ) Unit EffectRack.dynamics.State) (sustain : ℝ) :
    ∃ r, Transition.exec
      (PluginRun.step EffectRack.dynamics.effects (Ort.passThrough (WithNan ℝ)))
      (PluginRun.start EffectRack.dynamics.effects p 2 48000 1) (mutedCallback sustain) =
        some r := ⟨_, rfl⟩

/-- A network without a model. -/
noncomputable def withoutModel : OnnxProcessor (WithNan ℝ) Unit :=
  { OnnxProcessor.passThrough (WithNan ℝ) with
    inferenceThread :=
      { (OnnxProcessor.passThrough (WithNan ℝ)).inferenceThread with session := none } }

/-- The theorem at work: the second network is off; its splitter has a sustain of a half in one
run and of zero in the other, where it also has no model. -/
theorem off_network_inaudible_one_callback :
    ∃ r r' : PluginRun (WithNan ℝ) Unit EffectRack.dynamics.State,
      Transition.exec
          (PluginRun.step EffectRack.dynamics.effects (Ort.passThrough (WithNan ℝ)))
          (PluginRun.start EffectRack.dynamics.effects mutedPlugin 2 48000 1)
          (mutedCallback (1 / 2)) = some r ∧
        Transition.exec
          (PluginRun.step EffectRack.dynamics.effects (Ort.passThrough (WithNan ℝ)))
          (PluginRun.start EffectRack.dynamics.effects
            (mutedPlugin.setOnnxProcessor withoutModel .network2) 2 48000 1)
          (mutedCallback 0) = some r' ∧
        List.Forall₂ (AudioBuffer.AlikeIf True) r.outputs r'.outputs := by
  obtain ⟨r, hr⟩ := exec_mutedCallback mutedPlugin (1 / 2)
  obtain ⟨r', hr'⟩ := exec_mutedCallback (mutedPlugin.setOnnxProcessor withoutModel .network2) 0
  exact ⟨r, r', hr, hr', off_network_inaudible mutedPlugin withoutModel 2 48000 1
    (alike_mutedCallback (1 / 2) 0) hr hr'⟩
