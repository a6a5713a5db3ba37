import Scyclone.Juce.VectorOperations
import Scyclone.Onnx.OnnxProcessor
import Scyclone.Plugin.PluginParameters

set_option relaxedAutoImplicit false
set_option autoImplicit false

/-!
# The audio callback

`AudioPluginAudioProcessor::processBlock` mixes the host's block down to mono, feeds a copy to
each network's chain, mixes the chains and writes the result back to the host's block. The
buffers it works on are members, sized by `prepareToPlay` and by every `makeCopyOf`. Most
processors of the chain work in place: they are parameters that get a buffer and return other
contents for it.

## Main definitions

* `BusesLayout`, `isBusesLayoutSupported` — the layouts the host may choose.
* `Effects`, `AudioPluginAudioProcessor` — the processors of the chain and the plugin.
* `stereoToMono`, `monoToStereo`, `AudioPluginAudioProcessor.processBlock` — the callback, with
  the samples that the two conversions touch.
* `HostEvent`, `AudioPluginAudioProcessor.run` — a run.

## Main results

* `numSamples_feedNetworks` — how long the blocks are that the chains get.
* `size_written` — the size of `monoBuffer` when it is written back.
* `log_processBlock` — what a callback touches.
-/

/-! ## Bus layouts -/

/-- `juce::AudioChannelSet`. -/
inductive AudioChannelSet
  | disabled
  | mono
  | stereo
  /-- Any other set of channels. -/
  | named (name : String) (size : ℕ)
  deriving DecidableEq, Repr

/-- `size()`. -/
def AudioChannelSet.size : AudioChannelSet → ℕ
  | .disabled => 0
  | .mono => 1
  | .stereo => 2
  | .named _ size => size

/-- `BusesLayout`, with the one input and the one output bus that the plugin declares. -/
structure BusesLayout where
  mainInput : AudioChannelSet
  mainOutput : AudioChannelSet
  deriving DecidableEq, Repr

/-- `isBusesLayoutSupported`, for a plugin that is neither a synth nor a MIDI effect. -/
def isBusesLayoutSupported (layouts : BusesLayout) : Bool :=
  if layouts.mainOutput ≠ .mono ∧ layouts.mainOutput ≠ .stereo then false
  else if layouts.mainOutput ≠ layouts.mainInput then false
  else true

/-- The channels of the host's blocks: enough for the inputs and for the outputs. -/
def BusesLayout.numChannels (layouts : BusesLayout) : ℕ :=
  max layouts.mainInput.size layouts.mainOutput.size

/-- A supported layout is mono or stereo on both sides. -/
lemma eq_of_isBusesLayoutSupported {layouts : BusesLayout}
    (h : isBusesLayoutSupported layouts = true) :
    layouts = ⟨.mono, .mono⟩ ∨ layouts = ⟨.stereo, .stereo⟩ := by
  obtain ⟨input, output⟩ := layouts
  by_cases hin : output = input
  · rw [← hin] at h ⊢
    cases output with
    | disabled => simp [isBusesLayoutSupported] at h
    | mono => exact Or.inl rfl
    | stereo => exact Or.inr rfl
    | named name size => simp [isBusesLayoutSupported] at h
  · simp [isBusesLayoutSupported, hin] at h

/-! ## The processors of the chain -/

/-- The `DryWetMixer`s of the plugin. -/
inductive MixerId
  | dryWetMixer
  | fadeMixer
  | compMixer
  | grainDryWetMixer (network : NetworkId)
  deriving DecidableEq, Repr

/-- Processing a buffer in place: the state of the processors afterwards and the new contents. -/
abbrev InPlace (F E : Type) := E → AudioBuffer F → E × (ℕ → ℕ → F)

/-- The processors that the callback calls, beside the two `OnnxProcessor`s. `E` is the state of
all of them. -/
structure Effects (F E : Type) where
  /-- `AudioBuffer::applyGainRamp (0, numSamples, startGain, endGain)` on one channel. -/
  applyGainRamp : F → F → ℕ → (ℕ → F) → ℕ → F
  /-- The calls of `prepare`, with the specification and the mono specification. -/
  prepare : ProcessSpec → ProcessSpec → E → E
  setWetLatency : ℤ → E → E
  setDrySamples : MixerId → E → AudioBuffer F → E
  setWetSamples : MixerId → InPlace F E
  transientSplitter : NetworkId → InPlace F E
  iirCutoffFilter : NetworkId → InPlace F E
  audioVisualiser : E → AudioBuffer F → AudioBuffer F → E
  levelAnalyser : NetworkId → E → AudioBuffer F → E
  grainDelay : NetworkId → InPlace F E
  compressor : InPlace F E

/-- `struct GainLevel`. -/
structure GainLevel (F : Type) where
  currentGain : F
  previousGain : F

/-- `class AudioPluginAudioProcessor`: what the callback uses. -/
structure AudioPluginAudioProcessor (F S E : Type) where
  monoBuffer : AudioBuffer F
  network1Buffer : AudioBuffer F
  network2Buffer : AudioBuffer F
  grain1DryBuffer : AudioBuffer F
  grain2DryBuffer : AudioBuffer F
  /-- `processorGain.inputGain`. -/
  inputGain : GainLevel F
  /-- `processorGain.outputGain`. -/
  outputGain : GainLevel F
  onnxProcessor1 : OnnxProcessor F S
  onnxProcessor2 : OnnxProcessor F S
  effects : E
  /-- `setLatencySamples`. -/
  latencySamples : ℤ

variable {F S E : Type}

/-- The whole buffer, ramped from one gain to the other. -/
def Effects.gainRamp (fx : Effects F E) (gain : GainLevel F) (buffer : AudioBuffer F) :
    AudioBuffer F :=
  buffer.withData fun c i =>
    fx.applyGainRamp gain.previousGain gain.currentGain buffer.numSamples (buffer.data c) i

/-- Processors that leave every buffer as it is. The gain is that at the start of the block. -/
def Effects.bypass (F : Type) [Mul F] : Effects F Unit where
  applyGainRamp startGain _ _ xs i := xs i * startGain
  prepare _ _ _ := ()
  setWetLatency _ _ := ()
  setDrySamples _ _ _ := ()
  setWetSamples _ _ buffer := ((), buffer.data)
  transientSplitter _ _ buffer := ((), buffer.data)
  iirCutoffFilter _ _ buffer := ((), buffer.data)
  audioVisualiser _ _ _ := ()
  levelAnalyser _ _ _ := ()
  grainDelay _ _ buffer := ((), buffer.data)
  compressor _ buffer := ((), buffer.data)

/-! ## Mixing down and up -/

/-- `stereoToMono`. -/
def stereoToMono [FloatArithmetic F] (targetMonoBlock sourceBlock : AudioBuffer F) :
    Traced Access (AudioBuffer F) :=
  if sourceBlock.numChannels = 1 then targetMonoBlock.tracedCopyOf sourceBlock
  else do
    let nSamples := sourceBlock.numSamples
    let mono ← FloatVectorOperations.copy targetMonoBlock 0 sourceBlock 0 nSamples
    let mono ← FloatVectorOperations.add mono 0 sourceBlock 1 nSamples
    FloatVectorOperations.multiply mono 0 half nSamples

/-- `monoToStereo`. -/
def monoToStereo (targetStereoBlock sourceBlock : AudioBuffer F) :
    Traced Access (AudioBuffer F) :=
  if sourceBlock.numChannels = 2 then targetStereoBlock.tracedCopyOf sourceBlock
  else do
    let nSamples := sourceBlock.numSamples
    let stereo ← FloatVectorOperations.copy targetStereoBlock 0 sourceBlock 0 nSamples
    FloatVectorOperations.copy stereo 1 sourceBlock 0 nSamples

/-! ## The callback -/

namespace AudioPluginAudioProcessor

variable [FloatArithmetic F]

/-- The plugin before it is prepared for the first time. -/
def passThrough (F : Type) [FloatArithmetic F] : AudioPluginAudioProcessor F Unit Unit where
  monoBuffer := ⟨0, 0, fun _ _ => 0⟩
  network1Buffer := ⟨0, 0, fun _ _ => 0⟩
  network2Buffer := ⟨0, 0, fun _ _ => 0⟩
  grain1DryBuffer := ⟨0, 0, fun _ _ => 0⟩
  grain2DryBuffer := ⟨0, 0, fun _ _ => 0⟩
  inputGain := ⟨1, 1⟩
  outputGain := ⟨1, 1⟩
  onnxProcessor1 := .passThrough F
  onnxProcessor2 := .passThrough F
  effects := ()
  latencySamples := 0

/-- `prepareToPlay`. -/
def prepareToPlay (fx : Effects F E) (p : AudioPluginAudioProcessor F S E)
    (totalNumInputChannels : ℕ) (sampleRate : ℚ) (samplesPerBlock : ℕ) :
    AudioPluginAudioProcessor F S E :=
  let spec : ProcessSpec := ⟨sampleRate, samplesPerBlock, totalNumInputChannels⟩
  let monoSpec : ProcessSpec := ⟨sampleRate, samplesPerBlock, 1⟩
  let onnxProcessor1 := p.onnxProcessor1.prepare monoSpec
  let onnxProcessor2 := p.onnxProcessor2.prepare monoSpec
  let latency :=
    if onnxProcessor1.getLatency = onnxProcessor2.getLatency then onnxProcessor1.getLatency else 0
  { p with
    network1Buffer := p.network1Buffer.setSize 1 samplesPerBlock p.network1Buffer.data
    network2Buffer := p.network2Buffer.setSize 1 samplesPerBlock p.network2Buffer.data
    grain1DryBuffer := p.grain1DryBuffer.setSize 1 samplesPerBlock p.grain1DryBuffer.data
    grain2DryBuffer := p.grain2DryBuffer.setSize 1 samplesPerBlock p.grain2DryBuffer.data
    monoBuffer := p.monoBuffer.setSize 1 samplesPerBlock p.monoBuffer.data
    onnxProcessor1
    onnxProcessor2
    effects := fx.setWetLatency latency (fx.prepare spec monoSpec p.effects)
    latencySamples := latency }

/-- The first part of `processBlock`, up to the copies for the two networks. -/
def feedNetworks (fx : Effects F E) (p : AudioPluginAudioProcessor F S E)
    (buffer : AudioBuffer F) : Traced Access (AudioPluginAudioProcessor F S E) := do
  let effects := fx.setDrySamples .dryWetMixer p.effects buffer
  let monoBuffer ← stereoToMono p.monoBuffer buffer
  let monoBuffer := fx.gainRamp p.inputGain monoBuffer
  return { p with
    monoBuffer
    network1Buffer := p.network1Buffer.makeCopyOf monoBuffer
    network2Buffer := p.network2Buffer.makeCopyOf monoBuffer
    inputGain := { p.inputGain with previousGain := p.inputGain.currentGain }
    effects }

/-- The two chains before the grain delays. -/
def runNetworks (fx : Effects F E) (p : AudioPluginAudioProcessor F S E) :
    AudioPluginAudioProcessor F S E :=
  let split1 := fx.transientSplitter .network1 p.effects p.network1Buffer
  let network1Buffer := p.network1Buffer.withData split1.2
  let split2 := fx.transientSplitter .network2 split1.1 p.network2Buffer
  let network2Buffer := p.network2Buffer.withData split2.2
  let filter1 := fx.iirCutoffFilter .network1 split2.1 network1Buffer
  let network1Buffer := network1Buffer.withData filter1.2
  let filter2 := fx.iirCutoffFilter .network2 filter1.1 network2Buffer
  let network2Buffer := network2Buffer.withData filter2.2
  let effects := fx.audioVisualiser filter2.1 network1Buffer network2Buffer
  let onnx1 := p.onnxProcessor1.processBlock network1Buffer
  let onnx2 := p.onnxProcessor2.processBlock network2Buffer
  let effects := fx.levelAnalyser .network1 effects onnx1.2
  let effects := fx.levelAnalyser .network2 effects onnx2.2
  { p with
    network1Buffer := onnx1.2
    network2Buffer := onnx2.2
    onnxProcessor1 := onnx1.1
    onnxProcessor2 := onnx2.1
    effects }

/-- The grain delays with their mixers. -/
def runGrainDelays (fx : Effects F E) (p : AudioPluginAudioProcessor F S E) :
    AudioPluginAudioProcessor F S E :=
  let grain1DryBuffer := p.grain1DryBuffer.makeCopyOf p.network1Buffer
  let effects := fx.setDrySamples (.grainDryWetMixer .network1) p.effects grain1DryBuffer
  let grain1 := fx.grainDelay .network1 effects p.network1Buffer
  let network1Buffer := p.network1Buffer.withData grain1.2
  let wet1 := fx.setWetSamples (.grainDryWetMixer .network1) grain1.1 network1Buffer
  let network1Buffer := network1Buffer.withData wet1.2
  let grain2DryBuffer := p.grain2DryBuffer.makeCopyOf p.network2Buffer
  let effects := fx.setDrySamples (.grainDryWetMixer .network2) wet1.1 grain2DryBuffer
  let grain2 := fx.grainDelay .network2 effects p.network2Buffer
  let network2Buffer := p.network2Buffer.withData grain2.2
  let wet2 := fx.setWetSamples (.grainDryWetMixer .network2) grain2.1 network2Buffer
  let network2Buffer := network2Buffer.withData wet2.2
  { p with network1Buffer, network2Buffer, grain1DryBuffer, grain2DryBuffer, effects := wet2.1 }

/-- Muting the networks that are off, and mixing the two. `onOff` are the values of the
`ON_OFF` parameters. -/
def mixNetworks (fx : Effects F E) (onOff : NetworkId → Bool)
    (p : AudioPluginAudioProcessor F S E) : AudioPluginAudioProcessor F S E :=
  let network1Buffer := if onOff .network1 then p.network1Buffer else p.network1Buffer.clear
  let network2Buffer := if onOff .network2 then p.network2Buffer else p.network2Buffer.clear
  let monoBuffer := p.monoBuffer.makeCopyOf network1Buffer
  let effects := fx.setDrySamples .fadeMixer p.effects network2Buffer
  let fade := fx.setWetSamples .fadeMixer effects monoBuffer
  let monoBuffer := monoBuffer.withData fade.2
  let effects := fx.setDrySamples .compMixer fade.1 monoBuffer
  let comp := fx.compressor effects monoBuffer
  let monoBuffer := monoBuffer.withData comp.2
  let wet := fx.setWetSamples .compMixer comp.1 monoBuffer
  let monoBuffer := fx.gainRamp p.outputGain (monoBuffer.withData wet.2)
  { p with
    network1Buffer, network2Buffer, monoBuffer
    outputGain := { p.outputGain with previousGain := p.outputGain.currentGain }
    effects := wet.1 }

/-- The last part of `processBlock`: the host's block is written. -/
def writeHost (fx : Effects F E) (p : AudioPluginAudioProcessor F S E)
    (buffer : AudioBuffer F) :
    Traced Access (AudioPluginAudioProcessor F S E × AudioBuffer F) := do
  let buffer ← monoToStereo buffer p.monoBuffer
  let wet := fx.setWetSamples .dryWetMixer p.effects buffer
  return ({ p with effects := wet.1 }, buffer.withData wet.2)

/-- `processBlock`. -/
def processBlock (fx : Effects F E) (p : AudioPluginAudioProcessor F S E)
    (onOff : NetworkId → Bool) (buffer : AudioBuffer F) :
    Traced Access (AudioPluginAudioProcessor F S E × AudioBuffer F) := do
  let p ← p.feedNetworks fx buffer
  (((p.runNetworks fx).runGrainDelays fx).mixNetworks fx onOff).writeHost fx buffer

/-! ## Sizes -/

/-- The buffer handed to a network's chain. -/
def networkBuffer (p : AudioPluginAudioProcessor F S E) : NetworkId → AudioBuffer F
  | .network1 => p.network1Buffer
  | .network2 => p.network2Buffer

/-- `monoBuffer` after the mixdown: as long as the block if the block is mono, and as long as it
was before if it is not. -/
lemma numSamples_stereoToMono (target source : AudioBuffer F) :
    (stereoToMono target source).value.numSamples =
      if source.numChannels = 1 then source.numSamples else target.numSamples := by
  unfold stereoToMono
  split_ifs
  · rfl
  · rfl

/-- A mixed down block has one channel. -/
lemma numChannels_stereoToMono {target : AudioBuffer F} (h : target.numChannels = 1)
    (source : AudioBuffer F) : (stereoToMono target source).value.numChannels = 1 := by
  unfold stereoToMono
  split_ifs with hmono
  · exact hmono
  · exact h

/-- **How long the blocks are that the chains get.** -/
lemma numSamples_feedNetworks (fx : Effects F E) (p : AudioPluginAudioProcessor F S E)
    (buffer : AudioBuffer F) (k : NetworkId) :
    ((p.feedNetworks fx buffer).value.networkBuffer k).numSamples =
      if buffer.numChannels = 1 then buffer.numSamples else p.monoBuffer.numSamples := by
  rw [← numSamples_stereoToMono p.monoBuffer buffer]
  cases k with
  | network1 => rfl
  | network2 => rfl

/-- The `OnnxProcessor` keeps the size of its block. -/
lemma numSamples_onnx (o : OnnxProcessor F S) (buffer : AudioBuffer F) :
    (o.processBlock buffer).2.numSamples = buffer.numSamples :=
  OnnxProcessor.processOutput_numSamples _ _ _

lemma numChannels_onnx (o : OnnxProcessor F S) (buffer : AudioBuffer F) :
    (o.processBlock buffer).2.numChannels = buffer.numChannels := by
  simp only [OnnxProcessor.processBlock, OnnxProcessor.processOutput]
  split_ifs <;> rfl

/-- The chains and the mix leave `monoBuffer` with the size of the first network's block. -/
lemma size_mixNetworks (fx : Effects F E) (onOff : NetworkId → Bool)
    (p : AudioPluginAudioProcessor F S E) :
    (((p.runNetworks fx).runGrainDelays fx).mixNetworks fx onOff).monoBuffer.numSamples =
        p.network1Buffer.numSamples ∧
      (((p.runNetworks fx).runGrainDelays fx).mixNetworks fx onOff).monoBuffer.numChannels =
        p.network1Buffer.numChannels := by
  have hclear : ∀ b : AudioBuffer F,
      (if onOff .network1 then b else b.clear).numSamples = b.numSamples ∧
        (if onOff .network1 then b else b.clear).numChannels = b.numChannels := by
    intro b
    split_ifs
    · exact ⟨rfl, rfl⟩
    · exact ⟨rfl, rfl⟩
  constructor
  · exact (hclear _).1.trans (numSamples_onnx p.onnxProcessor1 _)
  · exact (hclear _).2.trans (numChannels_onnx p.onnxProcessor1 _)

/-- `monoBuffer` when it is written back: as long as the block if the block is mono, and as long
as it was before if it is not. -/
lemma size_written (fx : Effects F E) {p : AudioPluginAudioProcessor F S E}
    (h : p.monoBuffer.numChannels = 1) (onOff : NetworkId → Bool) (buffer : AudioBuffer F) :
    let written := (((p.feedNetworks fx buffer).value.runNetworks fx).runGrainDelays fx).mixNetworks
      fx onOff
    written.monoBuffer.numSamples =
        (if buffer.numChannels = 1 then buffer.numSamples else p.monoBuffer.numSamples) ∧
      written.monoBuffer.numChannels = 1 := by
  intro written
  obtain ⟨hsamples, hchannels⟩ := size_mixNetworks fx onOff (p.feedNetworks fx buffer).value
  constructor
  · exact hsamples.trans (numSamples_feedNetworks fx p buffer .network1)
  · exact hchannels.trans (numChannels_stereoToMono h buffer)

/-- **What the callback touches** is what the two conversions touch. -/
lemma log_processBlock (fx : Effects F E) (p : AudioPluginAudioProcessor F S E)
    (onOff : NetworkId → Bool) (buffer : AudioBuffer F) :
    (p.processBlock fx onOff buffer).log = (stereoToMono p.monoBuffer buffer).log ++
      (monoToStereo buffer (((p.feedNetworks fx buffer).value.runNetworks fx).runGrainDelays
        fx |>.mixNetworks fx onOff).monoBuffer).log := by
  simp only [processBlock, feedNetworks, writeHost, Traced.log_bind, Traced.log_pure,
    List.append_nil]

/-! ## Runs -/

end AudioPluginAudioProcessor

/-- What happens to the plugin after it was prepared. -/
inductive HostEvent (F S E : Type)
  /-- A callback with the host's block, and the values of the `ON_OFF` parameters. -/
  | processBlock (onOff : NetworkId → Bool) (buffer : AudioBuffer F)
  /-- The gain parameters are set. -/
  | setGains (inputGain outputGain : F)
  /-- Other parameters, the inference threads or a load change the processors of the chain. -/
  | elsewhere (onnxProcessor1 onnxProcessor2 : OnnxProcessor F S) (effects : E)

/-- The host's blocks, in order. -/
def HostEvent.blocks (es : List (HostEvent F S E)) : List (AudioBuffer F) :=
  es.filterMap fun
    | .processBlock _ buffer => some buffer
    | .setGains _ _ => none
    | .elsewhere _ _ _ => none

/-- The blocks of a run are those of its first event and then those of the rest. -/
lemma HostEvent.blocks_cons (e : HostEvent F S E) (es : List (HostEvent F S E)) :
    HostEvent.blocks (e :: es) = HostEvent.blocks [e] ++ HostEvent.blocks es := by
  rw [← List.singleton_append, blocks, List.filterMap_append]
  rfl

namespace AudioPluginAudioProcessor

variable [FloatArithmetic F]

/-- One event. -/
def handle (fx : Effects F E) (p : AudioPluginAudioProcessor F S E) :
    HostEvent F S E → Traced Access (AudioPluginAudioProcessor F S E)
  | .processBlock onOff buffer => do
    let result ← p.processBlock fx onOff buffer
    return result.1
  | .setGains inputGain outputGain => return { p with
      inputGain := { p.inputGain with currentGain := inputGain }
      outputGain := { p.outputGain with currentGain := outputGain } }
  | .elsewhere onnxProcessor1 onnxProcessor2 effects =>
    return { p with onnxProcessor1, onnxProcessor2, effects }

/-- A run. -/
def run (fx : Effects F E) (p : AudioPluginAudioProcessor F S E) :
    List (HostEvent F S E) → Traced Access (AudioPluginAudioProcessor F S E)
  | [] => return p
  | e :: es => do
    let p ← p.handle fx e
    p.run fx es

/-- `monoBuffer` after a callback. -/
lemma size_handle_processBlock (fx : Effects F E) {p : AudioPluginAudioProcessor F S E}
    (h : p.monoBuffer.numChannels = 1) (onOff : NetworkId → Bool) (buffer : AudioBuffer F) :
    (p.handle fx (.processBlock onOff buffer)).value.monoBuffer.numSamples =
        (if buffer.numChannels = 1 then buffer.numSamples else p.monoBuffer.numSamples) ∧
      (p.handle fx (.processBlock onOff buffer)).value.monoBuffer.numChannels = 1 :=
  size_written fx h onOff buffer

end AudioPluginAudioProcessor
