import Scyclone.Dsp.Envelope
import Scyclone.Lib.Transition
import Scyclone.Plugin.Settings

set_option relaxedAutoImplicit false
set_option autoImplicit false

/-!
# The transient splitter

`TransientSplitter` and `ProcessorTransientSplitter`, over exact numbers with NaN: three envelope
followers, and a gain for each sample between that of the attack and that of the sustain.

## Main definitions

* `TransientSplitter` with `construct`, `prepare`, the setters and `processBlock`.
* `TransientSplitter.processBlocks` — a run over blocks, with the blocks given back.
* `ProcessorTransientSplitter` with `construct`, `prepare`, `parameterChanged`, `processBlock`, and
  `ProcessorTransientSplitter.step` for what happens to it.

## Main results

* `TransientSplitter.processBlock_data` — the samples of a block given back.
* `TransientSplitter.mixSample_eq` — they are the samples of the block times a gain.
* `ProcessorTransientSplitter.settings_parameterChanged` — it sets what its settings say.
-/

open WithNan

/-- `struct TransientSplitterParameter`, as the member is initialised. -/
structure TransientSplitterParameter (K : Type) [Field K] where
  attack : K := 1
  sustain : K := 1
  attackTime : K := 1 / 2
  attackTimeDetector : K := 0
  releaseTime : K := 3 / 10
  releaseTimeRatio : K := 10

/-- `class TransientSplitter`. -/
structure TransientSplitter (K : Type) [Field K] where
  parameter : TransientSplitterParameter K
  detector : Envelope K
  envelope1 : Envelope K
  envelope2 : Envelope K

namespace TransientSplitter

variable {K : Type} [Field K]

/-! ## Settings -/

/-- `TransientSplitter()`. -/
def construct : TransientSplitter K :=
  let parameter : TransientSplitterParameter K := {}
  { parameter
    detector :=
      .construct parameter.attackTimeDetector (parameter.releaseTimeRatio * parameter.releaseTime)
    envelope1 := .construct 0 parameter.releaseTime
    envelope2 := .construct parameter.attackTime parameter.releaseTime }

/-- `setAttack`. -/
def setAttack (s : TransientSplitter K) (newAttack : K) : TransientSplitter K :=
  { s with parameter := { s.parameter with attack := newAttack } }

/-- `setSustain`. -/
def setSustain (s : TransientSplitter K) (newSustain : K) : TransientSplitter K :=
  { s with parameter := { s.parameter with sustain := newSustain } }

variable [LinearOrder K]

/-- `prepare`. -/
def prepare (exp : K → K) (s : TransientSplitter K) (spec : ProcessSpec) : TransientSplitter K :=
  { s with
    detector := s.detector.prepare exp spec
    envelope1 := s.envelope1.prepare exp spec
    envelope2 := s.envelope2.prepare exp spec }

/-- `setAttackTime`. -/
def setAttackTime (exp : K → K) (s : TransientSplitter K) (newAttackTime : K) :
    TransientSplitter K :=
  { s with
    parameter := { s.parameter with attackTime := newAttackTime }
    envelope2 := s.envelope2.setAttackTime exp newAttackTime }

/-! ## Processing -/

/-- The body of the loops of `processBlock`: the new value of a sample. -/
def mixSample (parameter : TransientSplitterParameter K)
    (detector envelope1 envelope2 sample : WithNan K) : WithNan K :=
  let attack := (envelope1 - envelope2).abs
  let attack := stdMin (attack / detector.abs) 1
  let sustain := 1 - attack
  let signalAttack := attack * number parameter.attack * sample
  let signalSustain := sustain * number parameter.sustain * sample
  signalAttack + signalSustain

/-- The followers after a block. -/
def followed (s : TransientSplitter K) (buffer : AudioBuffer (WithNan K)) : TransientSplitter K :=
  { s with
    detector := s.detector.processBlock buffer
    envelope1 := s.envelope1.processBlock buffer
    envelope2 := s.envelope2.processBlock buffer }

/-- `processBlock`, with the contents it leaves in the buffer. -/
def processBlock (s : TransientSplitter K) (buffer : AudioBuffer (WithNan K)) :
    TransientSplitter K × AudioBuffer (WithNan K) :=
  let s := s.followed buffer
  (s, buffer.forEachSample fun _ j sample => mixSample s.parameter (s.detector.getSample j)
    (s.envelope1.getSample j) (s.envelope2.getSample j) sample)

/-- A run over blocks, with the blocks given back. -/
def processBlocks (s : TransientSplitter K) :
    List (AudioBuffer (WithNan K)) → TransientSplitter K × List (AudioBuffer (WithNan K))
  | [] => (s, [])
  | buffer :: buffers =>
    let rest := (s.processBlock buffer).1.processBlocks buffers
    (rest.1, (s.processBlock buffer).2 :: rest.2)

@[simp] lemma processBlock_fst (s : TransientSplitter K) (buffer : AudioBuffer (WithNan K)) :
    (s.processBlock buffer).1 = s.followed buffer := rfl

/-- The samples given back. -/
lemma processBlock_data (s : TransientSplitter K) (buffer : AudioBuffer (WithNan K)) {c j : ℕ}
    (hc : c < buffer.numChannels) (hj : j < buffer.numSamples) :
    (s.processBlock buffer).2.data c j =
      mixSample s.parameter ((s.followed buffer).detector.getSample j)
        ((s.followed buffer).envelope1.getSample j) ((s.followed buffer).envelope2.getSample j)
        (buffer.data c j) := by
  simp only [processBlock, AudioBuffer.forEachSample_eq, hc, hj, and_self, if_true]
  rfl

/-- The share of the attack in the gain. -/
def attackShare (detector envelope1 envelope2 : K) : K :=
  min (|envelope1 - envelope2| / |detector|) 1

/-- The gain between that of the sustain and that of the attack. -/
def gain (parameter : TransientSplitterParameter K) (share : K) : K :=
  share * parameter.attack + (1 - share) * parameter.sustain

variable [IsStrictOrderedRing K]

omit [IsStrictOrderedRing K] in
lemma attackShare_le_one (detector envelope1 envelope2 : K) :
    attackShare detector envelope1 envelope2 ≤ 1 := min_le_right _ _

lemma attackShare_nonneg (detector envelope1 envelope2 : K) :
    0 ≤ attackShare detector envelope1 envelope2 :=
  le_min (div_nonneg (abs_nonneg _) (abs_nonneg _)) zero_le_one

/-- **The new value of a sample is the sample times the gain**, where the detector is a number
other than zero. -/
lemma mixSample_eq (parameter : TransientSplitterParameter K) {detector : K} (h : detector ≠ 0)
    (envelope1 envelope2 : K) (sample : WithNan K) :
    mixSample parameter (number detector) (number envelope1) (number envelope2) sample =
      number (gain parameter (attackShare detector envelope1 envelope2)) * sample := by
  have habs : |detector| ≠ 0 := abs_ne_zero.mpr h
  unfold mixSample
  simp only [number_sub, abs_number, number_div_of_ne _ habs, one_eq, stdMin_number, number_mul]
  cases sample with
  | nan => simp
  | number x =>
    simp only [number_mul, number_add, number.injEq, gain, attackShare]
    ring

end TransientSplitter

/-! ## The processor -/

/-- `class ProcessorTransientSplitter`. -/
structure ProcessorTransientSplitter (K : Type) [Field K] where
  index : NetworkId
  transientSplitter : TransientSplitter K
  isMuted : Bool

namespace ProcessorTransientSplitter

variable {K : Type} [Field K] [LinearOrder K]

/-- What `parameterChanged` does with a value of the shaper. -/
def setShaper (p : ProcessorTransientSplitter K) (newValue : K) : ProcessorTransientSplitter K :=
  if newValue < 1 / 2 then
    { p with transientSplitter := (p.transientSplitter.setAttack 1).setSustain (newValue * 2) }
  else
    { p with
      transientSplitter :=
        (p.transientSplitter.setAttack (1 - (newValue - 1 / 2) * 2)).setSustain 1 }

/-- What the constructor does with a value of the shaper. -/
def initialiseShaper (p : ProcessorTransientSplitter K) (value : K) :
    ProcessorTransientSplitter K :=
  if value < 1 / 2 then
    { p with transientSplitter := (p.transientSplitter.setAttack 1).setSustain (value * 2) }
  else
    { p with
      transientSplitter :=
        (p.transientSplitter.setAttack (1 - (value - 1 / 2) * 2)).setAttack 1 }

/-- `ProcessorTransientSplitter (apvts, no)`. -/
def construct (exp : K → K) (apvts : ParameterValues) (no : NetworkId) :
    ProcessorTransientSplitter K :=
  let p : ProcessorTransientSplitter K := ⟨no, .construct, false⟩
  if !p.isMuted then
    { p with
      transientSplitter :=
        p.transientSplitter.setAttackTime exp (apvts (.tranAttackTime no) : K) }.initialiseShaper
      (apvts (.tranShaper no) : K)
  else p

/-- `prepare`. -/
def prepare (exp : K → K) (p : ProcessorTransientSplitter K) (spec : ProcessSpec) :
    ProcessorTransientSplitter K :=
  { p with transientSplitter := p.transientSplitter.prepare exp spec }

/-- `parameterChanged`. -/
def parameterChanged (exp : K → K) (p : ProcessorTransientSplitter K) (parameterID : ParameterId)
    (newValue : ℚ) : ProcessorTransientSplitter K :=
  if parameterID = .tranAttackTime p.index then
    { p with transientSplitter := p.transientSplitter.setAttackTime exp (newValue : K) }
  else if parameterID = .tranShaper p.index then p.setShaper (newValue : K)
  else if parameterID = .onOff p.index then { p with isMuted := !asBool newValue }
  else p

/-- `processBlock`. Whether the processor is muted makes no difference. -/
def processBlock (p : ProcessorTransientSplitter K) (buffer : AudioBuffer (WithNan K)) :
    ProcessorTransientSplitter K × AudioBuffer (WithNan K) :=
  ({ p with transientSplitter := (p.transientSplitter.processBlock buffer).1 },
    (p.transientSplitter.processBlock buffer).2)

/-- The splitter as it was constructed. In both branches the attack ends up as 1. -/
lemma construct_transientSplitter (exp : K → K) (apvts : ParameterValues) (no : NetworkId) :
    (construct exp apvts no).transientSplitter =
      { parameter :=
          { attack := 1
            sustain :=
              if (apvts (.tranShaper no) : K) < 1 / 2 then (apvts (.tranShaper no) : K) * 2 else 1
            attackTime := (apvts (.tranAttackTime no) : K) }
        detector := .construct 0 (10 * (3 / 10))
        envelope1 := .construct 0 (3 / 10)
        envelope2 :=
          (Envelope.construct (1 / 2) (3 / 10)).setAttackTime exp
            (apvts (.tranAttackTime no) : K) } := by
  unfold construct initialiseShaper
  simp only [Bool.not_false, if_true]
  split_ifs <;> rfl

lemma construct_index (exp : K → K) (apvts : ParameterValues) (no : NetworkId) :
    (construct exp apvts no).index = no := by
  unfold construct initialiseShaper
  simp only [Bool.not_false, if_true]
  split_ifs <;> rfl

/-- A value of the processor's own shaper. -/
lemma parameterChanged_tranShaper (exp : K → K) (p : ProcessorTransientSplitter K)
    (newValue : ℚ) : p.parameterChanged exp (.tranShaper p.index) newValue =
      p.setShaper (newValue : K) := by
  simp [parameterChanged]

/-- What happens to a processor. -/
inductive Event (K : Type)
  | prepare (spec : ProcessSpec)
  | parameterChanged (parameterID : ParameterId) (newValue : ℚ)
  | processBlock (buffer : AudioBuffer (WithNan K))

/-- One step. -/
def step (exp : K → K) (p : ProcessorTransientSplitter K) :
    Event K → Option (ProcessorTransientSplitter K)
  | .prepare spec => some (p.prepare exp spec)
  | .parameterChanged parameterID newValue => some (p.parameterChanged exp parameterID newValue)
  | .processBlock buffer => some (p.processBlock buffer).1

/-! ### The settings -/

/-- The settings of the processor. -/
def settings (p : ProcessorTransientSplitter ℚ) : TransientSplitterSettings where
  attack := p.transientSplitter.parameter.attack
  sustain := p.transientSplitter.parameter.sustain
  attackTime := p.transientSplitter.parameter.attackTime
  envelope2 :=
    ⟨p.transientSplitter.envelope2.attackTime, p.transientSplitter.envelope2.attackCoefficient,
      p.transientSplitter.envelope2.sampleRate⟩
  isMuted := p.isMuted

/-- Setting an attack time, where the quotient in its coefficient exists. -/
lemma settings_setAttackTime {C : Type} (maps : ParameterMaps C) (p : ProcessorTransientSplitter ℚ)
    {time : ℚ} (h : time * p.transientSplitter.envelope2.sampleRate ≠ 0) :
    settings { p with transientSplitter := p.transientSplitter.setAttackTime maps.exp time } =
      p.settings.setAttackTime maps time := by
  simp only [settings, TransientSplitter.setAttackTime, Envelope.setAttackTime,
    Envelope.coefficient, if_neg h, TransientSplitterSettings.setAttackTime,
    EnvelopeSettings.setAttackTime]

/-- **The processor sets what its settings say**, as long as the times and the rate are not
zero. -/
theorem settings_parameterChanged {C : Type} (maps : ParameterMaps C)
    (p : ProcessorTransientSplitter ℚ) (parameterID : ParameterId) (newValue : ℚ)
    (h : parameterID = .tranAttackTime p.index →
      newValue * p.transientSplitter.envelope2.sampleRate ≠ 0) :
    (p.parameterChanged maps.exp parameterID newValue).settings =
      p.settings.parameterChanged maps p.index parameterID newValue := by
  unfold parameterChanged TransientSplitterSettings.parameterChanged
  simp only [Rat.cast_id]
  by_cases htime : parameterID = .tranAttackTime p.index
  · rw [if_pos htime, if_pos htime]
    exact settings_setAttackTime maps p (h htime)
  · rw [if_neg htime, if_neg htime]
    by_cases hshaper : parameterID = .tranShaper p.index
    · rw [if_pos hshaper, if_pos hshaper]
      unfold setShaper TransientSplitterSettings.setShaper
      split_ifs <;> rfl
    · rw [if_neg hshaper, if_neg hshaper]
      split_ifs <;> rfl

/-- The constructor sets what that of the settings does. -/
theorem settings_construct {C : Type} (maps : ParameterMaps C) (apvts : ParameterValues)
    (no : NetworkId) (h : apvts (.tranAttackTime no) ≠ 0) :
    (construct maps.exp apvts no).settings = TransientSplitterSettings.construct maps apvts no := by
  have htime : apvts (.tranAttackTime no) * 48000 ≠ 0 := mul_ne_zero h (by norm_num)
  unfold construct initialiseShaper TransientSplitterSettings.construct
    TransientSplitterSettings.initialiseShaper
  simp only [Bool.not_false, if_true, Rat.cast_id]
  split_ifs <;>
    simp [settings, TransientSplitter.setAttackTime, TransientSplitter.construct,
      TransientSplitter.setAttack, TransientSplitter.setSustain, Envelope.setAttackTime,
      Envelope.construct, Envelope.coefficient, TransientSplitterSettings.setAttackTime,
      EnvelopeSettings.setAttackTime, htime]

end ProcessorTransientSplitter
