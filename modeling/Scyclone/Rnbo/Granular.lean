import Mathlib.Analysis.SpecialFunctions.Pow.Real
import Mathlib.Analysis.SpecialFunctions.Trigonometric.Basic
import Scyclone.Lib.Scan
import Scyclone.Plugin.Settings
import Scyclone.Rnbo.DelayLine
import Scyclone.Rnbo.Xoshiro

set_option relaxedAutoImplicit false
set_option autoImplicit false

/-!
# The grain delay

`RnboGranular`, the patch that was exported from RNBO, and `GrainDelay`, which runs it on the
blocks of a network. The patch has two delay lines and a table of grains: buffer `data_param` has a
channel for each of 100 grains, with the count, the size, the position and the pitch of the grain at
the indices 0, 1, 2 and 5. `peek` reads channel 0 of a buffer only, `poke` writes every channel.

A `number` is an exact rational here, and the functions of the C library are parameters.

## Main definitions

* `peek`, `poke`, `wrap` — the operators of the patch.
* `Granular` — the state of the patch, with `prepareToProcess` and `process`.
* `Granular.performSample` — one turn of the loop of `gen_01_perform`.
* `GrainDelay.Running` — a `GrainDelay` with its patch, and its `step`.
-/

/-- The functions of the C library that the patch computes with. -/
structure GranularMaps where
  /-- `rnbo_sin`. -/
  sin : ℚ → ℚ
  /-- `rnbo_pow`. -/
  pow : ℚ → ℚ → ℚ

/-- The nearest number with 52 binary places. -/
noncomputable def nearestBinary (x : ℝ) : ℚ := round (x * (2 ^ 52 : ℕ)) / (2 ^ 52 : ℕ)

/-- The functions of the library, with results of 52 binary places. -/
noncomputable def GranularMaps.library : GranularMaps where
  sin x := nearestBinary (Real.sin x)
  pow x y := nearestBinary ((x : ℝ) ^ (y : ℝ))

lemma nearestBinary_one : nearestBinary 1 = 1 := by
  rw [nearestBinary, one_mul, round_natCast, Int.cast_natCast]
  exact div_self (by norm_num)

/-- Rounding does not leave the range from -1 to 1. -/
lemma abs_nearestBinary_le {x : ℝ} (h : |x| ≤ 1) : |nearestBinary x| ≤ 1 := by
  obtain ⟨hlow, hhigh⟩ := abs_le.mp h
  have hupper : round (x * (2 ^ 52 : ℕ)) ≤ 2 ^ 52 := by
    rw [round_eq, ← Int.lt_add_one_iff, Int.floor_lt]
    push_cast
    linarith
  have hlower : -2 ^ 52 ≤ round (x * (2 ^ 52 : ℕ)) := by
    rw [round_eq, Int.le_floor]
    push_cast
    linarith
  have hupper' : (round (x * (2 ^ 52 : ℕ)) : ℚ) ≤ 2 ^ 52 := by exact_mod_cast hupper
  have hlower' : -2 ^ 52 ≤ (round (x * (2 ^ 52 : ℕ)) : ℚ) := by exact_mod_cast hlower
  have hplaces : ((2 ^ 52 : ℕ) : ℚ) = 2 ^ 52 := by norm_num
  rw [nearestBinary, abs_le, hplaces, le_div_iff₀ (by norm_num), div_le_iff₀ (by norm_num)]
  constructor <;> linarith

lemma GranularMaps.abs_library_sin_le (x : ℚ) : |library.sin x| ≤ 1 :=
  abs_nearestBinary_le (Real.abs_sin_le_one _)

lemma GranularMaps.library_pow_one (y : ℚ) : library.pow 1 y = 1 := by
  show nearestBinary (((1 : ℚ) : ℝ) ^ (y : ℝ)) = 1
  rw [Rat.cast_one, Real.one_rpow, nearestBinary_one]

/-! ## Operators -/

/-- The sample that `peek_default` returns: every channel but the first one reads as zero. -/
def peek (buffer : AudioBuffer ℚ) (sampleIndex channelOffset : ℕ) : ℚ :=
  if buffer.numSamples = 0 ∨ sampleIndex ≥ buffer.numSamples then 0
  else if channelOffset ≥ 1 then 0
  else buffer.getSample channelOffset sampleIndex

/-- `poke_default`, without an overdub. -/
def poke (buffer : AudioBuffer ℚ) (value : ℚ) (sampleIndex channel : ℕ) : AudioBuffer ℚ :=
  if buffer.numSamples > 0 ∧ sampleIndex < buffer.numSamples ∧ channel < buffer.numChannels then
    buffer.setSample channel sampleIndex value
  else buffer

/-- `wrap`, for whole numbers. -/
def wrap (x low high : ℤ) : ℤ :=
  if low = high then low
  else
    let hi := if low > high then low else high
    let lo := if low > high then high else low
    let range := hi - lo
    if x ≥ lo ∧ x < hi then x
    else
      let numWraps := (x - lo).tdiv range - if x < lo then 1 else 0
      let result := x - range * numWraps
      if result ≥ hi then result - range else result

/-! ## The patch -/

/-- `RnboGranular`, without its parameters. -/
structure Granular where
  sr : ℚ := 44100
  maxvs : ℕ := 0
  setupDone : Bool := false
  hisGain : ℚ := 0
  hisIndex : ℕ := 0
  counter : ℕ := 0
  noise : XoshiroState
  dataParam : AudioBuffer ℚ := ⟨100, 6, fun _ _ => 0⟩
  delR : DelayLine := .init 44100
  delL : DelayLine := .init 44100

/-- What the loop over the grains adds up. -/
structure GrainSum where
  dataParam : AudioBuffer ℚ
  outL : ℚ := 0
  outR : ℚ := 0
  totalWin : ℚ := 0

/-- The body of the loop over the grains. What a grain plays replaces what the ones before it have
played. -/
def GrainSum.grain (maps : GranularMaps) (delL delR : DelayLine) (a : GrainSum) (i : ℕ) :
    GrainSum :=
  let pCout := peek a.dataParam 0 i
  if pCout ≠ 0 then
    let s := peek a.dataParam 1 i
    if pCout < s then
      let pCoutScaled := if s = 0 then 0 else pCout / s
      let win := 0.5 * (maps.sin (4.7123889803847 + pCoutScaled * 6.28318530717958647692) + 1)
      { dataParam := poke a.dataParam (pCout + 1) 0 i
        outL := delL.read (peek a.dataParam 2 i - pCout * peek a.dataParam 5 i) * win
        outR := delR.read (peek a.dataParam 2 i - pCout * peek a.dataParam 5 i) * win
        totalWin := a.totalWin + win }
    else { a with dataParam := poke a.dataParam 0 0 i }
  else a

namespace Granular

/-- `mstosamps`. -/
def mstosamps (g : Granular) (ms : ℚ) : ℚ := ms * g.sr * 0.001

/-- `gen_01_counter_0_next`, whose first result is the counter. -/
def counterNext (g : Granular) (limit : ℚ) : Granular :=
  let count := g.counter + 1
  if limit ≠ 0 ∧ (count : ℚ) ≥ limit then { g with counter := 0 } else { g with counter := count }

/-- What `gen_01_perform` does where the counter is at one: it starts the grain at the index unless
that one plays, and pokes the position into the grain after it. -/
def trigger (maps : GranularMaps) (r : RnboObject) (g : Granular) : Granular :=
  if peek g.dataParam 0 g.hisIndex = 0 then
    let dataParam := poke g.dataParam 1 0 g.hisIndex
    let dataParam := poke dataParam (g.mstosamps r.grainSize) 1 g.hisIndex
    let sizeScaled := g.mstosamps r.grainSize
    let pitchScaled := maps.pow 2 (r.pitch / 12) - 1
    let dataParam := poke dataParam pitchScaled 5 g.hisIndex
    let hisIndex := (wrap (g.hisIndex + 1) 0 100).toNat
    let posScaled := g.mstosamps r.grainPos * |g.noise.value|
    let dataParam := poke dataParam (posScaled + max (sizeScaled * pitchScaled) 0) 2 hisIndex
    { g with dataParam, hisIndex, noise := g.noise.next }
  else g

/-- A turn of the loop of `gen_01_perform` up to the loop over the grains. -/
def cue (maps : GranularMaps) (r : RnboObject) (g : Granular) (inputs : ℚ × ℚ) : Granular :=
  let g := { g with hisGain := (1 - g.hisGain) * 0.001 + g.hisGain }
  let g := { g with delL := g.delL.write inputs.1 }
  let g := { g with delR := g.delR.write inputs.2 }
  let g := g.counterNext (g.mstosamps r.interval)
  if g.counter = 1 then g.trigger maps r else g

/-- The loop over the grains. -/
def grains (maps : GranularMaps) (g : Granular) : GrainSum :=
  (List.range 100).foldl (GrainSum.grain maps g.delL g.delR) { dataParam := g.dataParam }

/-- One turn of the loop of `gen_01_perform`, with the two samples it writes. -/
def performSample (maps : GranularMaps) (r : RnboObject) (g : Granular) (inputs : ℚ × ℚ) :
    Granular × (ℚ × ℚ) :=
  let g := g.cue maps r inputs
  let sum := g.grains maps
  let totalWin := max sum.totalWin 1
  let normalise := maps.pow (if totalWin = 0 then 0 else 1 / totalWin) 0.3 * g.hisGain
  let g := { g with dataParam := sum.dataParam }
  let g := { g with delR := g.delR.step }
  ({ g with delL := g.delL.step }, (sum.outL * normalise, sum.outR * normalise))

/-- `process`: the loop of `gen_01_perform`. -/
def process (maps : GranularMaps) (r : RnboObject) (g : Granular) (inputs : List (ℚ × ℚ)) :
    Granular × List (ℚ × ℚ) :=
  Scan.run (performSample maps r) g inputs

/-- `gen_01_dspsetup`. -/
def dspsetup (g : Granular) (force : Bool) : Granular :=
  if g.setupDone && !force then g
  else { g with setupDone := true, delR := g.delR.reset g.sr, delL := g.delL.reset g.sr }

/-- `prepareToProcess`. -/
def prepareToProcess (g : Granular) (sampleRate : ℚ) (maxBlockSize : ℕ) (force : Bool) :
    Granular :=
  let sampleRateChanged := decide (sampleRate ≠ g.sr)
  let maxvsChanged := decide (maxBlockSize ≠ g.maxvs)
  let forceDSPSetup := sampleRateChanged || maxvsChanged || force
  let g := if sampleRateChanged || maxvsChanged then
    { g with maxvs := maxBlockSize, sr := sampleRate } else g
  g.dspsetup forceDSPSetup

/-! ### What a sample leaves alone -/

/-- The counter writes itself. -/
lemma counterNext_eq (g : Granular) (limit : ℚ) :
    g.counterNext limit = { g with counter := (g.counterNext limit).counter } := by
  unfold counterNext
  dsimp only
  split_ifs
  · rfl
  · rfl

variable (maps : GranularMaps) (r : RnboObject)

/-- A trigger writes the table, the index and the noise. -/
lemma trigger_eq (g : Granular) : g.trigger maps r =
    { g with
      dataParam := (g.trigger maps r).dataParam
      hisIndex := (g.trigger maps r).hisIndex
      noise := (g.trigger maps r).noise } := by
  unfold trigger
  split_ifs
  · rfl
  · rfl

/-- Up to the loop over the grains, the delay lines take the inputs in and nothing else. -/
lemma cue_delays (g : Granular) (inputs : ℚ × ℚ) :
    (g.cue maps r inputs).delL = g.delL.write inputs.1 ∧
      (g.cue maps r inputs).delR = g.delR.write inputs.2 ∧
      (g.cue maps r inputs).setupDone = g.setupDone := by
  unfold cue
  dsimp only
  split_ifs
  · rw [trigger_eq, counterNext_eq]
    exact ⟨rfl, rfl, rfl⟩
  · rw [counterNext_eq]
    exact ⟨rfl, rfl, rfl⟩

/-- **A preparation** does nothing at all, or it clears both delay lines and nothing else. -/
lemma prepareToProcess_eq (g : Granular) (sampleRate : ℚ) (maxBlockSize : ℕ) :
    g.prepareToProcess sampleRate maxBlockSize false =
      if g.setupDone = true ∧ sampleRate = g.sr ∧ maxBlockSize = g.maxvs then g
      else
        { g with
          sr := sampleRate
          maxvs := maxBlockSize
          setupDone := true
          delR := g.delR.reset sampleRate
          delL := g.delL.reset sampleRate } := by
  unfold prepareToProcess dspsetup
  by_cases hrate : sampleRate = g.sr
  · by_cases hsize : maxBlockSize = g.maxvs
    · subst hrate hsize
      cases hdone : g.setupDone <;> simp [hdone]
    · simp [hsize]
  · simp [hrate]

end Granular

/-! ## The processor -/

namespace GrainDelay

/-- A `GrainDelay` that runs: its settings, its sample rate and its patch. -/
structure Running where
  settings : GrainDelay
  sampleRate : ℕ := 48000
  patch : Granular

/-- What happens to a `GrainDelay`. A block has its sizes and its samples. -/
inductive Event (D : Type)
  | prepare (spec : ProcessSpec)
  | parameterChanged (parameterID : ParameterId) (newValue : ℚ)
  | setParameterValue (parameterToConnect : ℚ) (rnboParameterIdx : ℕ)
  | processBlock (numChannels numSamples : ℕ) (data : D)

/-- The samples of a block. -/
abbrev Samples := ℕ → ℕ → ℚ

/-- The same events with other samples. -/
def Event.map {D E : Type} (φ : D → E) : Event D → Event E
  | .prepare spec => .prepare spec
  | .parameterChanged parameterID newValue => .parameterChanged parameterID newValue
  | .setParameterValue parameterToConnect rnboParameterIdx =>
    .setParameterValue parameterToConnect rnboParameterIdx
  | .processBlock numChannels numSamples data => .processBlock numChannels numSamples (φ data)

namespace Running

/-- `GrainDelay (no)`, with the seed of the noise. -/
def construct (seed : BitVec 64) : Running where
  settings := .construct
  patch := { noise := .reset seed }

/-- `prepare`. -/
def prepare (g : Running) (spec : ProcessSpec) : Running :=
  { g with
    sampleRate := spec.ringSize
    patch := g.patch.prepareToProcess spec.ringSize spec.maximumBlockSize false }

/-- The inputs of the patch: a channel that a block does not have is zero. -/
def inputs (numChannels numSamples : ℕ) (data : Samples) : List (ℚ × ℚ) :=
  (List.range numSamples).map fun i =>
    (if numChannels ≥ 1 then data 0 i else 0, if numChannels ≥ 2 then data 1 i else 0)

/-- What the patch leaves in a block: its two outputs in the first two channels, and zeros in the
others. -/
def outputs (numChannels numSamples : ℕ) (data : Samples) (frames : List (ℚ × ℚ)) : Samples :=
  fun c i =>
    if c < numChannels ∧ i < numSamples then
      if c = 0 then (frames.getD i (0, 0)).1 else if c = 1 then (frames.getD i (0, 0)).2 else 0
    else data c i

/-- `processBlock`, and the samples it leaves. -/
def processBlock (maps : GranularMaps) (g : Running) (numChannels numSamples : ℕ)
    (data : Samples) : Running × Samples :=
  if !g.settings.isMuted then
    let patch := g.patch.prepareToProcess g.sampleRate numSamples false
    let result := patch.process maps g.settings.rnboObject (inputs numChannels numSamples data)
    ({ g with patch := result.1 }, outputs numChannels numSamples data result.2)
  else (g, data)

/-- One event, and the samples that a block is left with. -/
def step (maps : GranularMaps) (number : NetworkId) (g : Running) :
    Event Samples → Running × Option Samples
  | .prepare spec => (g.prepare spec, none)
  | .parameterChanged parameterID newValue =>
    ({ g with settings := g.settings.parameterChanged number parameterID newValue }, none)
  | .setParameterValue parameterToConnect rnboParameterIdx =>
    ({ g with settings := g.settings.setParameterValue parameterToConnect rnboParameterIdx }, none)
  | .processBlock numChannels numSamples data =>
    let result := g.processBlock maps numChannels numSamples data
    (result.1, some result.2)

end Running

end GrainDelay
