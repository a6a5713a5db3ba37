import Scyclone.Plugin.ProcessBlock

set_option relaxedAutoImplicit false
set_option autoImplicit false

/-!
# The settings of the processors

What constructors and `parameterChanged` of the processors set, class by class, and the plugin's
own constructor and `parameterChanged`. Values of parameters are exact rationals. The functions
of JUCE and of the C library that map them are parameters.

## Main definitions

* `ParameterMaps` — the functions of libraries.
* `TransientSplitterSettings`, `IIRCutoffFilter`, `GrainDelay`, `DryWetMixer`, `ProcessorGain`,
  `CompressorSettings` — the settings of a processor, with its `parameterChanged`.
* `DspSettings`, `DspSettings.parameterChanged`, `DspSettings.construct` — those of the plugin.
-/

/-- The functions of libraries that settings are computed with. `C` are the coefficients of a
filter. -/
structure ParameterMaps (C : Type) where
  /-- `juce::Decibels::decibelsToGain`. -/
  decibelsToGain : ℚ → ℚ
  /-- `std::exp`. -/
  exp : ℚ → ℚ
  /-- `NormalisableRange::convertTo0to1`. -/
  convertTo0to1 : NormalisableRange → ℚ → ℚ
  /-- `NormalisableRange::convertFrom0to1`, of a range with `setSkewForCentre (centre)`. -/
  convertFrom0to1 : NormalisableRange → (centre : ℚ) → ℚ → ℚ
  /-- `juce::dsp::IIR::Coefficients::makeLowPass (sampleRate, freq, q)`. -/
  makeLowPass : ℚ → ℚ → ℚ → C
  /-- `juce::dsp::IIR::Coefficients::makeHighPass (sampleRate, freq, q)`. -/
  makeHighPass : ℚ → ℚ → ℚ → C
  /-- What a `double` holds that was not initialised. -/
  indeterminate : ℚ

/-- Maps that agree with those of the libraries at 0 dB and on ranges without a skew. -/
def ParameterMaps.plain : ParameterMaps (ℚ × ℚ × ℚ) where
  decibelsToGain decibels := 1 + decibels / 20
  exp x := 1 + x
  convertTo0to1 range value :=
    (value - range.rangeStart) / (range.rangeEnd - range.rangeStart)
  convertFrom0to1 range _ proportion :=
    range.rangeStart + (range.rangeEnd - range.rangeStart) * proportion
  makeLowPass sampleRate freq q := (sampleRate, freq, q)
  makeHighPass sampleRate freq q := (sampleRate, freq, q)
  indeterminate := 0

/-- The values of all parameters, `getRawParameterValue`. -/
abbrev ParameterValues := ParameterId → ℚ

/-- `(bool) value`. -/
def asBool (value : ℚ) : Bool := !decide (value = 0)

variable {C : Type}

/-! ## Transient splitters -/

/-- The settings of an `Envelope`. -/
structure EnvelopeSettings where
  attackTime : ℚ
  attackCoefficient : ℚ
  sampleRate : ℚ

/-- `Envelope::setAttackTime`. -/
def EnvelopeSettings.setAttackTime (maps : ParameterMaps C) (e : EnvelopeSettings)
    (newAttackTime : ℚ) : EnvelopeSettings :=
  { e with
    attackTime := newAttackTime
    attackCoefficient := maps.exp (-1 / (newAttackTime * e.sampleRate)) }

/-- The settings of a `ProcessorTransientSplitter`, with those of its `TransientSplitter` that
are set. -/
structure TransientSplitterSettings where
  attack : ℚ := 1
  sustain : ℚ := 1
  attackTime : ℚ := 1 / 2
  envelope2 : EnvelopeSettings := ⟨1 / 2, 1, 48000⟩
  isMuted : Bool := false

namespace TransientSplitterSettings

/-- `setAttackTime`. -/
def setAttackTime (maps : ParameterMaps C) (s : TransientSplitterSettings) (newAttackTime : ℚ) :
    TransientSplitterSettings :=
  { s with
    attackTime := newAttackTime
    envelope2 := s.envelope2.setAttackTime maps newAttackTime }

/-- What `parameterChanged` does with a value of the shaper. -/
def setShaper (s : TransientSplitterSettings) (newValue : ℚ) : TransientSplitterSettings :=
  if newValue < 1 / 2 then { s with attack := 1, sustain := newValue * 2 }
  else { s with attack := 1 - (newValue - 1 / 2) * 2, sustain := 1 }

/-- What the constructor does with a value of the shaper: where `parameterChanged` sets the
sustain, the attack is set twice. -/
def initialiseShaper (s : TransientSplitterSettings) (value : ℚ) : TransientSplitterSettings :=
  if value < 1 / 2 then { s with attack := 1, sustain := value * 2 }
  else { { s with attack := 1 - (value - 1 / 2) * 2 } with attack := 1 }

/-- `ProcessorTransientSplitter (apvts, no)`. -/
def construct (maps : ParameterMaps C) (apvts : ParameterValues) (no : NetworkId) :
    TransientSplitterSettings :=
  let s : TransientSplitterSettings := {}
  if !s.isMuted then
    (s.setAttackTime maps (apvts (.tranAttackTime no))).initialiseShaper (apvts (.tranShaper no))
  else s

/-- `parameterChanged`. -/
def parameterChanged (maps : ParameterMaps C) (index : NetworkId) (parameterID : ParameterId)
    (newValue : ℚ) (s : TransientSplitterSettings) : TransientSplitterSettings :=
  if parameterID = .tranAttackTime index then s.setAttackTime maps newValue
  else if parameterID = .tranShaper index then s.setShaper newValue
  else if parameterID = .onOff index then { s with isMuted := !asBool newValue }
  else s

end TransientSplitterSettings

/-! ## Filters -/

/-- `FILTER_PARAMS`. -/
structure FilterParams where
  freq : ℚ
  q : ℚ := 1 / 2
  enabled : Bool := false

/-- The settings of an `IIRCutoffFilter`. -/
structure IIRCutoffFilter (C : Type) where
  filterParamsHP : FilterParams
  filterParamsLP : FilterParams
  lowPassFilter : C
  highPassFilter : C
  /-- `currentSpec.sampleRate`. -/
  sampleRate : ℚ := 48000
  isMuted : Bool := false

/-- `std::clamp (v, lo, hi)`. -/
def clamp (v lo hi : ℚ) : ℚ := if v < lo then lo else if hi < v then hi else v

namespace IIRCutoffFilter

/-- `targetFreqRangeHPF`, with the skew for 500 Hz. -/
def targetFreqRangeHPF (maps : ParameterMaps C) : ℚ → ℚ := maps.convertFrom0to1 ⟨20, 8000, 0⟩ 500

/-- `targetFreqRangeLPF`, with the skew for 500 Hz. -/
def targetFreqRangeLPF (maps : ParameterMaps C) : ℚ → ℚ :=
  maps.convertFrom0to1 ⟨100, 20000, 0⟩ 500

/-- `updateLPFilterParams`. -/
def updateLPFilterParams (maps : ParameterMaps C) (f : IIRCutoffFilter C) (freq q : ℚ) :
    IIRCutoffFilter C :=
  { f with
    filterParamsLP := ⟨freq, q, decide (freq < 20000)⟩
    lowPassFilter := maps.makeLowPass f.sampleRate freq q }

/-- `updateHPFilterParams`. -/
def updateHPFilterParams (maps : ParameterMaps C) (f : IIRCutoffFilter C) (freq q : ℚ) :
    IIRCutoffFilter C :=
  { f with
    filterParamsHP := ⟨freq, q, decide (freq > 20)⟩
    highPassFilter := maps.makeHighPass f.sampleRate freq q }

/-- `updateFilterParams`. -/
def updateFilterParams (maps : ParameterMaps C) (f : IIRCutoffFilter C) (yPos : ℚ) :
    IIRCutoffFilter C :=
  if 1 / 2 ≤ yPos then
    let clampedYPos := clamp yPos (1 / 2) 1
    let f := { f with
      filterParamsHP := { f.filterParamsHP with enabled := true }
      filterParamsLP := { f.filterParamsLP with enabled := false } }
    let normalizedValue := maps.convertTo0to1 ⟨1 / 2, 1, 0⟩ clampedYPos
    f.updateHPFilterParams maps (targetFreqRangeHPF maps normalizedValue) f.filterParamsHP.q
  else
    let clampedYPos := clamp yPos 0 (1 / 2)
    let f := { f with
      filterParamsLP := { f.filterParamsLP with enabled := true }
      filterParamsHP := { f.filterParamsHP with enabled := false } }
    let normalizedValue := maps.convertTo0to1 ⟨0, 1 / 2, 0⟩ clampedYPos
    f.updateLPFilterParams maps (targetFreqRangeLPF maps normalizedValue) f.filterParamsLP.q

/-- `IIRCutoffFilter (apvts, no)`. -/
def construct (maps : ParameterMaps C) (apvts : ParameterValues) (no : NetworkId) :
    IIRCutoffFilter C :=
  let f : IIRCutoffFilter C :=
    { filterParamsHP := { freq := maps.indeterminate }
      filterParamsLP := { freq := maps.indeterminate }
      lowPassFilter := maps.makeLowPass 48000 20000 1
      highPassFilter := maps.makeHighPass 48000 20 1 }
  f.updateFilterParams maps (apvts (.filter no))

/-- `parameterChanged`. -/
def parameterChanged (maps : ParameterMaps C) (index : NetworkId) (parameterID : ParameterId)
    (newValue : ℚ) (f : IIRCutoffFilter C) : IIRCutoffFilter C :=
  if parameterID = .filter index then f.updateFilterParams maps newValue
  else if parameterID = .onOff index then { f with isMuted := !asBool newValue }
  else f

end IIRCutoffFilter

/-! ## Grain delays -/

/-- The parameters of the exported RNBO patch. -/
structure RnboObject where
  grainPos : ℚ := 100
  grainSize : ℚ := 100
  pitch : ℚ := 0
  interval : ℚ := 100

/-- `setParameterValue (index, v)`: the value is constrained to the range of the parameter. -/
def RnboObject.setParameterValue (r : RnboObject) (index : ℕ) (v : ℚ) : RnboObject :=
  match index with
  | 0 => { r with grainPos := clamp v 1 500 }
  | 1 => { r with grainSize := clamp v 10 500 }
  | 2 => { r with pitch := clamp v (-12) 12 }
  | 3 => { r with interval := clamp v 1 50 }
  | _ => r

/-- The settings of a `GrainDelay`. -/
structure GrainDelay where
  rnboObject : RnboObject
  isMuted : Bool := true

namespace GrainDelay

/-- `GrainDelay (no)`. -/
def construct : GrainDelay :=
  let rnboObject : RnboObject := {}
  { rnboObject := rnboObject.setParameterValue 0 2 }

/-- `setParameterValue`, with the value of the parameter to connect. -/
def setParameterValue (g : GrainDelay) (parameterToConnect : ℚ) (rnboParameterIdx : ℕ) :
    GrainDelay :=
  { g with rnboObject := g.rnboObject.setParameterValue rnboParameterIdx parameterToConnect }

/-- `parameterChanged`. -/
def parameterChanged (number : NetworkId) (parameterID : ParameterId) (newValue : ℚ)
    (g : GrainDelay) : GrainDelay :=
  if parameterID = .grainOnOff number then { g with isMuted := !asBool newValue }
  else if parameterID = .grainPitch number then
    { g with rnboObject := g.rnboObject.setParameterValue 2 newValue }
  else if parameterID = .grainSize number then
    { g with rnboObject := g.rnboObject.setParameterValue 1 newValue }
  else if parameterID = .grainInterval number then
    { g with rnboObject := g.rnboObject.setParameterValue 3 newValue }
  else g

end GrainDelay

/-! ## Mixers, gains and the compressor -/

/-- The settings of a `DryWetMixer`. -/
structure DryWetMixer where
  dryWetProportion : ℚ := 0
  /-- `mixer.setWetMixProportion`, called by the constructor. -/
  wetMixProportion : ℚ := 0

/-- `setDryWetProportion`, which is all that `parameterChanged` calls. -/
def DryWetMixer.setDryWetProportion (m : DryWetMixer) (dryWet : ℚ) : DryWetMixer :=
  { m with dryWetProportion := dryWet, wetMixProportion := dryWet }

/-- The settings of a `ProcessorGain`. -/
structure ProcessorGain where
  inputGain : GainLevel ℚ := ⟨1, 1⟩
  outputGain : GainLevel ℚ := ⟨1, 1⟩

/-- `parameterChanged`. -/
def ProcessorGain.parameterChanged (maps : ParameterMaps C) (parameterID : ParameterId)
    (newValue : ℚ) (g : ProcessorGain) : ProcessorGain :=
  if parameterID = .inputGain then
    { g with inputGain := { g.inputGain with currentGain := maps.decibelsToGain newValue } }
  else if parameterID = .outputGain then
    { g with outputGain := { g.outputGain with currentGain := maps.decibelsToGain newValue } }
  else g

/-- The settings of a `Compressor` that its `ProcessorCompressor` sets. -/
structure CompressorSettings where
  threshold : ℚ := 0
  ratio : ℚ := 4
  makeUpGain : ℚ := 0
  autoMakeUpGain : Bool := true

namespace CompressorSettings

/-- `ProcessorCompressor (apvts)`. -/
def construct (apvts : ParameterValues) : CompressorSettings :=
  let c : CompressorSettings := {}
  { c with
    threshold := apvts .compThreshold
    ratio := apvts .compRatio
    makeUpGain := apvts .compMakeupgain }

/-- `ProcessorCompressor::parameterChanged`. -/
def parameterChanged (parameterID : ParameterId) (newValue : ℚ) (c : CompressorSettings) :
    CompressorSettings :=
  if parameterID = .compThreshold then { c with threshold := newValue }
  else if parameterID = .compRatio then { c with ratio := newValue }
  else if parameterID = .compMakeupgain then
    if newValue = -1 / 10 then { c with autoMakeUpGain := true }
    else { c with autoMakeUpGain := false, makeUpGain := newValue }
  else c

end CompressorSettings

/-! ## The plugin -/

/-- The settings of all processors of the plugin. -/
@[ext] structure DspSettings (C : Type) where
  processorTransientSplitter : NetworkId → TransientSplitterSettings
  iirCutoffFilter : NetworkId → IIRCutoffFilter C
  grainDelay : NetworkId → GrainDelay
  grainDryWetMixer : NetworkId → DryWetMixer
  processorGain : ProcessorGain
  processorCompressor : CompressorSettings
  dryWetMixer : DryWetMixer
  compMixer : DryWetMixer
  fadeMixer : DryWetMixer

namespace DspSettings

/-- `parameterChanged`. The two `OnnxProcessor`s only begin a load. -/
def parameterChanged (maps : ParameterMaps C) (parameterID : ParameterId) (newValue : ℚ)
    (d : DspSettings C) : DspSettings C where
  processorTransientSplitter k :=
    (d.processorTransientSplitter k).parameterChanged maps k parameterID newValue
  iirCutoffFilter k := (d.iirCutoffFilter k).parameterChanged maps k parameterID newValue
  grainDelay k := (d.grainDelay k).parameterChanged k parameterID newValue
  grainDryWetMixer k :=
    if parameterID = .grainMix k then (d.grainDryWetMixer k).setDryWetProportion newValue
    else d.grainDryWetMixer k
  processorGain := d.processorGain.parameterChanged maps parameterID newValue
  processorCompressor := d.processorCompressor.parameterChanged parameterID newValue
  dryWetMixer :=
    if parameterID = .dryWet then d.dryWetMixer.setDryWetProportion newValue else d.dryWetMixer
  compMixer :=
    if parameterID = .compDryWet then d.compMixer.setDryWetProportion newValue else d.compMixer
  fadeMixer :=
    if parameterID = .fade then d.fadeMixer.setDryWetProportion newValue else d.fadeMixer

/-- The members as their own constructors leave them. -/
def constructMembers (maps : ParameterMaps C) (parameters : ParameterValues) : DspSettings C where
  processorTransientSplitter k := .construct maps parameters k
  iirCutoffFilter k := .construct maps parameters k
  grainDelay _ := .construct
  grainDryWetMixer _ := {}
  processorGain := {}
  processorCompressor := .construct parameters
  dryWetMixer := {}
  compMixer := {}
  fadeMixer := {}

/-- `setInitialMuteParameters`. The second network's value is read from the first one's
parameter. -/
def setInitialMuteParameters (maps : ParameterMaps C) (parameters : ParameterValues)
    (d : DspSettings C) : DspSettings C :=
  let onOffGrain1 := parameters (.grainOnOff .network1)
  let onOffGrain2 := parameters (.grainOnOff .network2)
  let onOffNetwork1 := parameters (.onOff .network1)
  let onOffNetwork2 := parameters (.onOff .network1)
  let d := d.parameterChanged maps (.onOff .network1) onOffNetwork1
  let d := d.parameterChanged maps (.onOff .network2) onOffNetwork2
  let d := d.parameterChanged maps (.grainOnOff .network1) onOffGrain1
  d.parameterChanged maps (.grainOnOff .network2) onOffGrain2

/-- `initialiseRnbo`. -/
def initialiseRnbo (parameters : ParameterValues) (d : DspSettings C) : DspSettings C :=
  { d with
    grainDelay := fun k => (((d.grainDelay k).setParameterValue (parameters (.grainPitch k)) 2)
      |>.setParameterValue (parameters (.grainInterval k)) 3)
      |>.setParameterValue (parameters (.grainSize k)) 1 }

/-- `AudioPluginAudioProcessor ()`. -/
def construct (maps : ParameterMaps C) (parameters : ParameterValues) : DspSettings C :=
  let d := constructMembers maps parameters
  let d := { d with
    dryWetMixer := d.dryWetMixer.setDryWetProportion (parameters .dryWet)
    compMixer := d.compMixer.setDryWetProportion (parameters .compDryWet)
    fadeMixer := d.fadeMixer.setDryWetProportion (parameters .fade) }
  (d.setInitialMuteParameters maps parameters).initialiseRnbo parameters

end DspSettings
