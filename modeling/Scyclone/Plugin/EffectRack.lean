import Scyclone.Dsp.Compressor
import Scyclone.Dsp.TransientSplitter
import Scyclone.Rnbo.Granular

set_option relaxedAutoImplicit false
set_option autoImplicit false

/-!
# The rack of effects

The processors that the callback calls, as objects: each has a state of its own, and what it does
depends on that state and on the samples of the buffer that it is given. The callback takes them
through the structure `Effects`, whose state is that of all of them. Those of the plugin that are
written in its own repository are such objects.

## Main definitions

* `AudioBuffer.AlikeIf` — buffers that are the same as far as they are heard.
* `ChainProcessor`, `DryWet`, `EffectRack` — the processors of the chain, as objects.
* `ChainProcessor.ofTransientSplitter`, `ChainProcessor.ofCompressor`,
  `ChainProcessor.ofGrainDelay` — the processors of the plugin.

## Main results

* `Envelope.processBlock_alike`, `Compressor.processBlock_alike`,
  `GrainDelay.Running.processBlock_alike` — they read the samples of the buffer and nothing else.
-/

variable {F : Type}

/-! ## Buffers -/

/-- Buffers of one size that have the same samples if they are heard. -/
structure AudioBuffer.AlikeIf (heard : Prop) (b b' : AudioBuffer F) : Prop where
  numChannels : b.numChannels = b'.numChannels
  numSamples : b.numSamples = b'.numSamples
  data : heard → ∀ c < b.numChannels, ∀ i < b.numSamples, b.data c i = b'.data c i

namespace AudioBuffer.AlikeIf

variable {heard : Prop} {b b' : AudioBuffer F}

lemma refl (heard : Prop) (b : AudioBuffer F) : b.AlikeIf heard b :=
  ⟨rfl, rfl, fun _ _ _ _ _ => rfl⟩

/-- Buffers that are heard less are alike more easily. -/
lemma mono (h : b.AlikeIf True b') (heard : Prop) : b.AlikeIf heard b' :=
  ⟨h.numChannels, h.numSamples, fun _ => h.data trivial⟩

/-- Buffers that are heard are alike in every sample. -/
lemma of_heard (h : b.AlikeIf heard b') (hh : heard) : b.AlikeIf True b' :=
  ⟨h.numChannels, h.numSamples, fun _ => h.data hh⟩

/-- The samples of a channel. -/
lemma samples (h : b.AlikeIf True b') {c : ℕ} (hc : c < b.numChannels) :
    b.samples c = b'.samples c := by
  unfold AudioBuffer.samples
  rw [← h.numSamples]
  refine List.map_congr_left fun i hi => ?_
  exact h.data trivial c hc i (List.mem_range.mp hi)

/-- Copies of buffers that are alike. -/
lemma makeCopyOf (h : b.AlikeIf heard b') (t t' : AudioBuffer F) :
    (t.makeCopyOf b).AlikeIf heard (t'.makeCopyOf b') where
  numChannels := h.numChannels
  numSamples := h.numSamples
  data hh c hc i hi := by
    simp only [AudioBuffer.makeCopyOf_numChannels, AudioBuffer.makeCopyOf_numSamples] at hc hi
    have hc' := hc
    have hi' := hi
    rw [h.numChannels] at hc'
    rw [h.numSamples] at hi'
    simp only [AudioBuffer.makeCopyOf, hc, hi, hc', hi', and_self, if_true]
    exact h.data hh c hc i hi

/-- Cleared buffers of one size are alike. -/
lemma clear [Zero F] (h : b.AlikeIf heard b') : b.clear.AlikeIf True b'.clear where
  numChannels := h.numChannels
  numSamples := h.numSamples
  data _ c hc i hi := by
    simp only [AudioBuffer.clear_numChannels, AudioBuffer.clear_numSamples] at hc hi
    simp only [AudioBuffer.clear, ← h.numChannels, ← h.numSamples, hc, hi, and_self, if_true]

/-- Channels overwritten with the same samples. -/
lemma overwrite (h : b.AlikeIf True b') (channel : ℕ) {n : ℕ} {f f' : ℕ → F}
    (hf : ∀ i < n, i < b.numSamples → channel < b.numChannels → f i = f' i) :
    (b.overwrite channel n f).AlikeIf True (b'.overwrite channel n f') where
  numChannels := h.numChannels
  numSamples := h.numSamples
  data _ c hc i hi := by
    simp only [AudioBuffer.overwrite_numChannels, AudioBuffer.overwrite_numSamples] at hc hi
    simp only [AudioBuffer.overwrite]
    split_ifs with hin
    · exact hf i hin.2 hi (hin.1 ▸ hc)
    · exact h.data trivial c hc i hi

/-- Samples written to the start of a channel. -/
lemma setSamples (h : b.AlikeIf True b') (channel : ℕ) (xs : List F) :
    (b.setSamples channel xs).AlikeIf True (b'.setSamples channel xs) where
  numChannels := h.numChannels
  numSamples := h.numSamples
  data _ c hc i hi := by
    have hdata : b.data c i = b'.data c i := h.data trivial c hc i hi
    by_cases hchannel : c = channel
    · subst hchannel
      simp only [AudioBuffer.setSamples, Function.update_self, hdata]
    · simp only [AudioBuffer.setSamples, Function.update_of_ne hchannel, hdata]

/-- The new contents of buffers, from buffers of the same sizes that are alike. -/
lemma withData (h : b.AlikeIf True b') {r r' : AudioBuffer F} (hr : r.AlikeIf True r')
    (hchannels : r.numChannels = b.numChannels) (hsamples : r.numSamples = b.numSamples) :
    (b.withData r.data).AlikeIf True (b'.withData r'.data) :=
  ⟨h.numChannels, h.numSamples, fun _ c hc i hi =>
    hr.data trivial c (by rw [hchannels]; exact hc) i (by rw [hsamples]; exact hi)⟩

/-- Loops that compute the new samples in the same way. -/
lemma forEachSample (h : b.AlikeIf True b') (f : ℕ → ℕ → F → F) :
    (b.forEachSample f).AlikeIf True (b'.forEachSample f) := by
  rw [AudioBuffer.forEachSample_eq, AudioBuffer.forEachSample_eq]
  refine ⟨h.numChannels, h.numSamples, fun _ c hc i hi => ?_⟩
  have hin : c < b.numChannels ∧ i < b.numSamples := ⟨hc, hi⟩
  have hin' : c < b'.numChannels ∧ i < b'.numSamples := ⟨h.numChannels ▸ hc, h.numSamples ▸ hi⟩
  dsimp only
  rw [if_pos hin, if_pos hin', h.data trivial c hc i hi]

end AudioBuffer.AlikeIf

/-! ## The processors as objects -/

/-- A processor that works on a buffer in place: of a buffer with a channel it depends on the
samples alone, and what it does to them depends on nothing else. -/
structure ChainProcessor (F : Type) where
  State : Type
  prepare : ProcessSpec → State → State
  process : InPlace F State
  confined : ∀ (s : State) (b b' : AudioBuffer F), 0 < b.numChannels → b.AlikeIf True b' →
    (process s b).1 = (process s b').1 ∧
      (b.withData (process s b).2).AlikeIf True (b'.withData (process s b').2)

/-! ## The processors of the plugin

Each of them reads the samples of the buffer that it is given, and nothing else of it. -/

section Dynamics

variable {K : Type} [Field K] [LinearOrder K] {b b' : AudioBuffer (WithNan K)}

instance : FloatArithmetic (WithNan K) where
  isnan := WithNan.isNan
  isnan_zero := rfl
  half := .number (1 / 2)

/-- The follower finds the same in buffers that are alike. -/
lemma Envelope.processBlock_alike (e : Envelope K) (hchannels : 0 < b.numChannels)
    (h : b.AlikeIf True b') : e.processBlock b = e.processBlock b' := by
  have hdetected : detected b = detected b' := by
    unfold detected
    rw [← h.numSamples]
    refine List.map_congr_left fun i hi => ?_
    have hi' : i < b.numSamples := List.mem_range.mp hi
    unfold detect AudioBuffer.getSample
    rw [← h.numChannels, h.data trivial 0 hchannels i hi']
    split_ifs with hone
    · rfl
    · rw [h.data trivial 1 (by omega) i hi']
  rw [processBlock_eq, processBlock_eq, hdetected]

/-- **The transient splitter**: its followers run on the samples, and its loops set them. -/
lemma TransientSplitter.processBlock_alike (s : TransientSplitter K)
    (hchannels : 0 < b.numChannels) (h : b.AlikeIf True b') :
    (s.processBlock b).1 = (s.processBlock b').1 ∧
      (s.processBlock b).2.AlikeIf True (s.processBlock b').2 := by
  have hfollowed : s.followed b = s.followed b' := by
    simp only [followed, Envelope.processBlock_alike _ hchannels h]
  refine ⟨hfollowed, ?_⟩
  unfold processBlock
  rw [hfollowed]
  exact h.forEachSample _

/-- `ProcessorTransientSplitter` in a chain. -/
def ChainProcessor.ofTransientSplitter (exp : K → K) : ChainProcessor (WithNan K) where
  State := ProcessorTransientSplitter K
  prepare spec p := p.prepare exp spec
  process p b := ((p.processBlock b).1, (p.processBlock b).2.data)
  confined p b b' hchannels h := by
    obtain ⟨hstate, hblock⟩ := p.transientSplitter.processBlock_alike hchannels h
    refine ⟨?_, h.withData hblock ?_ ?_⟩
    · simp only [ProcessorTransientSplitter.processBlock, hstate]
    · exact AudioBuffer.forEachSample_numChannels b _
    · exact AudioBuffer.forEachSample_numSamples b _

omit [Field K] [LinearOrder K] in
/-- The copies to the windows take the samples of the buffer. -/
lemma Compressor.copyToWindow_alike (h : b.AlikeIf True b') (bufferSize : ℕ)
    (target : AudioBuffer (WithNan K) × ℕ) :
    copyToWindow bufferSize target b = copyToWindow bufferSize target b' := by
  unfold copyToWindow
  rw [← h.numChannels]
  refine List.foldl_ext _ _ _ fun target channel hchannel => ?_
  rw [h.samples (List.mem_range.mp hchannel)]

/-- The sizes of the block that the compressor gives back. -/
lemma Compressor.size_processBlock (maps : CompressorMaps K) (c : Compressor K)
    (buffer : AudioBuffer (WithNan K)) :
    (c.processBlock maps buffer).2.numChannels = buffer.numChannels ∧
      (c.processBlock maps buffer).2.numSamples = buffer.numSamples := by
  rw [processBlock_snd]
  unfold compressed compress applyGainRamp
  split_ifs <;> simp

/-- **The compressor**: its follower runs on the samples, its windows take them before and after
the loops, and the loops and the ramp set them. -/
lemma Compressor.processBlock_alike (maps : CompressorMaps K) (c : Compressor K)
    (hchannels : 0 < b.numChannels) (h : b.AlikeIf True b') :
    (c.processBlock maps b).1 = (c.processBlock maps b').1 ∧
      (c.processBlock maps b).2.AlikeIf True (c.processBlock maps b').2 := by
  have hinput : c.processInput maps b = c.processInput maps b' := by
    simp only [processInput, copyAutoMakeUpBuffer, copyToWindow_alike h,
      Envelope.processBlock_alike _ hchannels h]
  have hcompress : ((c.processInput maps b').compress maps b).AlikeIf True
      ((c.processInput maps b').compress maps b') := h.forEachSample _
  unfold processBlock
  dsimp only
  rw [hinput]
  unfold processOutput
  split_ifs with hauto
  · simp only [copyAutoMakeUpBuffer, copyToWindow_alike hcompress, Bool.false_eq_true, if_false,
      true_and]
    unfold applyGainRamp
    rw [← hcompress.numSamples]
    exact hcompress.forEachSample _
  · exact ⟨rfl, hcompress⟩

/-- `Compressor` in a chain. What the memory of its windows happens to hold is the same at every
`prepare`. -/
def ChainProcessor.ofCompressor (maps : CompressorMaps K) (memory : Compressor.WindowMemory K) :
    ChainProcessor (WithNan K) where
  State := Compressor K
  prepare spec c := c.prepare maps spec memory
  process c b := ((c.processBlock maps b).1, (c.processBlock maps b).2.data)
  confined c b b' hchannels h := by
    obtain ⟨hstate, hblock⟩ := c.processBlock_alike maps hchannels h
    obtain ⟨hsizeChannels, hsizeSamples⟩ := c.size_processBlock maps b
    exact ⟨hstate, h.withData hblock hsizeChannels hsizeSamples⟩

end Dynamics

/-- **The grain delay**: the patch takes the samples of the first two channels, and sets those of
the block.

**Proof sketch.** The inputs of the patch are the samples of channels that the block has, so the
patch runs alike; its outputs go to the samples of the block. -/
lemma GrainDelay.Running.processBlock_alike (maps : GranularMaps) (g : GrainDelay.Running)
    {b b' : AudioBuffer ℚ} (h : b.AlikeIf True b') :
    (g.processBlock maps b.numChannels b.numSamples b.data).1 =
        (g.processBlock maps b'.numChannels b'.numSamples b'.data).1 ∧
      (b.withData (g.processBlock maps b.numChannels b.numSamples b.data).2).AlikeIf True
        (b'.withData (g.processBlock maps b'.numChannels b'.numSamples b'.data).2) := by
  have hinputs : inputs b.numChannels b.numSamples b.data =
      inputs b'.numChannels b'.numSamples b'.data := by
    unfold inputs
    rw [← h.numSamples, ← h.numChannels]
    refine List.map_congr_left fun i hi => ?_
    have hi' : i < b.numSamples := List.mem_range.mp hi
    ext
    · dsimp only
      split_ifs with hfirst
      · exact h.data trivial 0 hfirst i hi'
      · rfl
    · dsimp only
      split_ifs with hsecond
      · exact h.data trivial 1 hsecond i hi'
      · rfl
  unfold processBlock
  dsimp only
  split_ifs with hmuted
  · rw [← hinputs, ← h.numChannels, ← h.numSamples]
    refine ⟨rfl, h.numChannels, h.numSamples, fun _ c hc i hi => ?_⟩
    simp only [AudioBuffer.withData_numChannels, AudioBuffer.withData_numSamples] at hc hi
    simp only [AudioBuffer.withData, outputs, hc, hi, and_self, if_true]
  · exact ⟨rfl, h⟩

/-- `GrainDelay` in a chain, on exact samples. -/
def ChainProcessor.ofGrainDelay (maps : GranularMaps) : ChainProcessor ℚ where
  State := GrainDelay.Running
  prepare spec g := g.prepare spec
  process g b := g.processBlock maps b.numChannels b.numSamples b.data
  confined g _ _ _ h := g.processBlock_alike maps h

/-- A `DryWetMixer`. -/
structure DryWet (F : Type) where
  State : Type
  prepare : ProcessSpec → State → State
  setWetLatency : ℤ → State → State
  setDrySamples : State → AudioBuffer F → State
  setWetSamples : InPlace F State
  confinedDry : ∀ (s : State) (b b' : AudioBuffer F), b.AlikeIf True b' →
    setDrySamples s b = setDrySamples s b'
  confinedWet : ∀ (s : State) (b b' : AudioBuffer F), b.AlikeIf True b' →
    (setWetSamples s b).1 = (setWetSamples s b').1 ∧
      (b.withData (setWetSamples s b).2).AlikeIf True (b'.withData (setWetSamples s b').2)

/-- The processors that work in place. -/
inductive ProcessorId
  | transientSplitter (network : NetworkId)
  | iirCutoffFilter (network : NetworkId)
  | grainDelay (network : NetworkId)
  | compressor
  deriving DecidableEq, Repr

/-- The processors of the chain, each an object of its own. -/
structure EffectRack (F : Type) where
  processor : ProcessorId → ChainProcessor F
  mixer : MixerId → DryWet F
  /-- What the visualiser and the level analysers keep for the editor. -/
  Ears : Type
  audioVisualiser : Ears → AudioBuffer F → AudioBuffer F → Ears
  levelAnalyser : NetworkId → Ears → AudioBuffer F → Ears
  applyGainRamp : F → F → ℕ → (ℕ → F) → ℕ → F
  confinedRamp : ∀ (g g' : F) (n : ℕ) (xs ys : ℕ → F), (∀ i < n, xs i = ys i) →
    ∀ i < n, applyGainRamp g g' n xs i = applyGainRamp g g' n ys i

/-- A rack with the transient splitters and the compressor of the plugin. -/
def EffectRack.withDynamics {K : Type} [Field K] [LinearOrder K] (R : EffectRack (WithNan K))
    (maps : CompressorMaps K) (memory : Compressor.WindowMemory K) : EffectRack (WithNan K) :=
  { R with
    processor := fun
      | .transientSplitter _ => .ofTransientSplitter maps.exp
      | .compressor => .ofCompressor maps memory
      | i => R.processor i }

/-- The states of all of them. -/
structure EffectRack.State (R : EffectRack F) where
  processor : (i : ProcessorId) → (R.processor i).State
  mixer : (m : MixerId) → (R.mixer m).State
  ears : R.Ears

namespace EffectRack

variable (R : EffectRack F)

/-- A processor at work. -/
def process (i : ProcessorId) : InPlace F R.State := fun e b =>
  ({ e with
      processor := Function.update e.processor i ((R.processor i).process (e.processor i) b).1 },
    ((R.processor i).process (e.processor i) b).2)

/-- A mixer that is given the dry samples. -/
def setDrySamples (m : MixerId) (e : R.State) (b : AudioBuffer F) : R.State :=
  { e with mixer := Function.update e.mixer m ((R.mixer m).setDrySamples (e.mixer m) b) }

/-- A mixer that mixes. -/
def setWetSamples (m : MixerId) : InPlace F R.State := fun e b =>
  ({ e with mixer := Function.update e.mixer m ((R.mixer m).setWetSamples (e.mixer m) b).1 },
    ((R.mixer m).setWetSamples (e.mixer m) b).2)

/-- The processors as the callback uses them. -/
def effects : Effects F R.State where
  applyGainRamp := R.applyGainRamp
  prepare spec monoSpec e :=
    { processor := fun i => (R.processor i).prepare monoSpec (e.processor i)
      mixer := fun m =>
        (R.mixer m).prepare (if m = .dryWetMixer then spec else monoSpec) (e.mixer m)
      ears := e.ears }
  setWetLatency latency e :=
    { e with
      mixer := Function.update e.mixer .dryWetMixer
        ((R.mixer .dryWetMixer).setWetLatency latency (e.mixer .dryWetMixer)) }
  setDrySamples := R.setDrySamples
  setWetSamples := R.setWetSamples
  transientSplitter k := R.process (.transientSplitter k)
  iirCutoffFilter k := R.process (.iirCutoffFilter k)
  audioVisualiser e b₁ b₂ := { e with ears := R.audioVisualiser e.ears b₁ b₂ }
  levelAnalyser k e b := { e with ears := R.levelAnalyser k e.ears b }
  grainDelay k := R.process (.grainDelay k)
  compressor := R.process .compressor

end EffectRack

