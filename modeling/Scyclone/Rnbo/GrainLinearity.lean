import Mathlib.Algebra.Module.Pi
import Mathlib.Algebra.Module.Prod
import Scyclone.Rnbo.GrainRuns

set_option relaxedAutoImplicit false
set_option autoImplicit false

/-!
# Superposition and fading in

The grain delay treats the samples it hears linearly, since they do not steer its grains; and it
never makes them louder, since it plays one grain at a time. Both follow from what a delay line
reads: two of its cells, chosen and weighted by its positions alone.

## Main definitions

* `DelayLine.SamePositions`, `DelayLine.Mixed` — delay lines that were written in step.
* `GrainDelay.Running.Mixed` — three grain delays of which one hears a mix of what the others hear.
* `GrainDelay.Running.samplesPlayed` — how many samples were played by the patch.

## Main results

* `DelayLine.exists_read` — what a read depends on.
* `grain_delay_superposition` — the grain delay is linear, over whole runs.
* `grain_delay_fades_in` — how loud it can be.
-/

namespace DelayLine

/-! ## What a read depends on -/

/-- Two lines with the same sizes and positions. -/
structure SamePositions (d e : DelayLine) : Prop where
  size_eq : d.buffer.numSamples = e.buffer.numSamples
  maxdelay_eq : d.maxdelay = e.maxdelay
  wrap_eq : d.wrap = e.wrap
  reader_eq : d.reader = e.reader
  writer_eq : d.writer = e.writer

/-- **A read interpolates between two cells**, which do not depend on what the cells hold. -/
lemma exists_read (d : DelayLine) (size : ℚ) :
    ∃ f : ℚ, ∃ i j : ℕ, 0 ≤ f ∧ f < 1 ∧ ∀ e : DelayLine, e.SamePositions d →
      e.read size = linearinterp f (e.buffer.data 0 i) (e.buffer.data 0 j) := by
  set r : ℚ := d.buffer.numSamples + d.reader -
    (if size > d.maxdelay then (d.maxdelay : ℚ)
      else if size < (if d.reader ≠ d.writer then 1 else 0) then
        (if d.reader ≠ d.writer then 1 else 0) else size) with hr
  refine ⟨Int.fract r, ⌊r⌋.toNat &&& d.wrap, (⌊r⌋ + 1).toNat &&& d.wrap, Int.fract_nonneg r,
    Int.fract_lt_one r, fun e he => ?_⟩
  simp only [read, he.size_eq, he.maxdelay_eq, he.wrap_eq, he.reader_eq, he.writer_eq, ← hr]
  rfl

lemma SamePositions.write {d e : DelayLine} (h : d.SamePositions e) (v w : ℚ) :
    (d.write v).SamePositions (e.write w) :=
  ⟨h.size_eq, h.maxdelay_eq, h.wrap_eq, h.reader_eq, h.reader_eq⟩

lemma SamePositions.step {d e : DelayLine} (h : d.SamePositions e) :
    d.step.SamePositions e.step := by
  refine ⟨h.size_eq, h.maxdelay_eq, h.wrap_eq, ?_, h.writer_eq⟩
  unfold DelayLine.step
  rw [h.reader_eq, h.size_eq]

lemma SamePositions.reset {d e : DelayLine} (h : d.SamePositions e) (samplerate : ℚ) :
    (d.reset samplerate).SamePositions (e.reset samplerate) := by
  unfold DelayLine.reset
  simp only [h.reader_eq, h.writer_eq, AudioBuffer.setSize_data]
  split_ifs
  · exact ⟨rfl, rfl, rfl, rfl, rfl⟩
  · exact ⟨rfl, rfl, rfl, rfl, rfl⟩

/-- The cells of a line that was reset. -/
lemma data_reset (d : DelayLine) (samplerate : ℚ) (i : ℕ) :
    (d.reset samplerate).buffer.data 0 i =
      if i < (calcSizeInSamples samplerate).2 then 0 else d.buffer.data 0 i := by
  unfold reset
  dsimp only
  split_ifs <;> simp_all [AudioBuffer.clear]

/-! ## Mixing -/

/-- The cells of a line are a mix of those of two others. -/
structure Mixed (a b : ℚ) (d d₁ d₂ : DelayLine) : Prop where
  first : d₁.SamePositions d
  second : d₂.SamePositions d
  data_eq : ∀ i, d.buffer.data 0 i = a * d₁.buffer.data 0 i + b * d₂.buffer.data 0 i

variable {a b : ℚ} {d d₁ d₂ : DelayLine}

lemma Mixed.write (h : Mixed a b d d₁ d₂) (v₁ v₂ : ℚ) :
    Mixed a b (d.write (a * v₁ + b * v₂)) (d₁.write v₁) (d₂.write v₂) := by
  refine ⟨h.first.write _ _, h.second.write _ _, fun i => ?_⟩
  change (d.buffer.setSample 0 d.reader _).data 0 i =
    a * (d₁.buffer.setSample 0 d₁.reader v₁).data 0 i +
      b * (d₂.buffer.setSample 0 d₂.reader v₂).data 0 i
  rw [AudioBuffer.setSample_data_self, AudioBuffer.setSample_data_self,
    AudioBuffer.setSample_data_self, h.first.reader_eq, h.second.reader_eq,
    Function.update_apply, Function.update_apply, Function.update_apply]
  split_ifs
  · rfl
  · exact h.data_eq i

lemma Mixed.step (h : Mixed a b d d₁ d₂) : Mixed a b d.step d₁.step d₂.step :=
  ⟨h.first.step, h.second.step, h.data_eq⟩

lemma Mixed.reset (h : Mixed a b d d₁ d₂) (samplerate : ℚ) :
    Mixed a b (d.reset samplerate) (d₁.reset samplerate) (d₂.reset samplerate) := by
  refine ⟨h.first.reset _, h.second.reset _, fun i => ?_⟩
  rw [data_reset, data_reset, data_reset]
  split_ifs
  · ring
  · exact h.data_eq i

/-- **Reading is linear.** -/
lemma Mixed.read_eq (h : Mixed a b d d₁ d₂) (size : ℚ) :
    d.read size = a * d₁.read size + b * d₂.read size := by
  obtain ⟨f, i, j, -, -, hread⟩ := d.exists_read size
  rw [hread d ⟨rfl, rfl, rfl, rfl, rfl⟩, hread d₁ h.first, hread d₂ h.second, h.data_eq, h.data_eq]
  unfold linearinterp
  ring

end DelayLine

/-! ## The patch hears a mix -/

/-- A patch whose delay lines hold a mix of those of two others. -/
structure Granular.Mixed (a b : ℚ) (g g₁ g₂ : Granular) : Prop where
  setup₁ : g₁.setupDone = g.setupDone
  setup₂ : g₂.setupDone = g.setupDone
  controls : ∃ v : GrainVoice, v.Controls g ∧ v.Controls g₁ ∧ v.Controls g₂
  left : DelayLine.Mixed a b g.delL g₁.delL g₂.delL
  right : DelayLine.Mixed a b g.delR g₁.delR g₂.delR

namespace Granular.Mixed

variable {a b : ℚ} {g g₁ g₂ : Granular} (h : Mixed a b g g₁ g₂)
include h

/-- A sample.

**Proof sketch.** The controls do not depend on what is heard, so the three voices read at one delay
with one level; the delay lines are mixed by the same factors. -/
lemma performSample (maps : GranularMaps) (r : RnboObject) (x y : ℚ × ℚ) :
    Mixed a b (g.performSample maps r (a • x + b • y)).1 (g₁.performSample maps r x).1
        (g₂.performSample maps r y).1 ∧
      (g.performSample maps r (a • x + b • y)).2 =
        a • (g₁.performSample maps r x).2 + b • (g₂.performSample maps r y).2 := by
  obtain ⟨v, hv, hv₁, hv₂⟩ := h.controls
  obtain ⟨hc, hL, hR, hdone, hout⟩ := hv.performSample maps r (0, 0) (a • x + b • y)
  obtain ⟨hc₁, hL₁, hR₁, hdone₁, hout₁⟩ := hv₁.performSample maps r (0, 0) x
  obtain ⟨hc₂, hL₂, hR₂, hdone₂, hout₂⟩ := hv₂.performSample maps r (0, 0) y
  have hleft := h.left.write x.1 y.1
  have hright := h.right.write x.2 y.2
  refine ⟨⟨?_, ?_, ⟨_, hc, hc₁, hc₂⟩, ?_, ?_⟩, ?_⟩
  · rw [hdone, hdone₁, h.setup₁]
  · rw [hdone, hdone₂, h.setup₂]
  · rw [hL, hL₁, hL₂]
    exact hleft.step
  · rw [hR, hR₁, hR₂]
    exact hright.step
  · rw [hout, hout₁, hout₂]
    refine Prod.ext ?_ ?_
    · change (g.delL.write (a * x.1 + b * y.1)).read _ * _ = a * (_ * _) + b * (_ * _)
      rw [hleft.read_eq]
      ring
    · change (g.delR.write (a * x.2 + b * y.2)).read _ * _ = a * (_ * _) + b * (_ * _)
      rw [hright.read_eq]
      ring

/-- A preparation. -/
lemma prepareToProcess (sampleRate : ℚ) (maxBlockSize : ℕ) :
    Mixed a b (g.prepareToProcess sampleRate maxBlockSize false)
      (g₁.prepareToProcess sampleRate maxBlockSize false)
      (g₂.prepareToProcess sampleRate maxBlockSize false) := by
  obtain ⟨v, hv, hv₁, hv₂⟩ := h.controls
  have hcontrols := And.intro (hv.prepareToProcess sampleRate maxBlockSize)
    (And.intro (hv₁.prepareToProcess sampleRate maxBlockSize)
      (hv₂.prepareToProcess sampleRate maxBlockSize))
  simp only [prepareToProcess_eq, h.setup₁, h.setup₂, hv.sr_eq, hv₁.sr_eq, hv₂.sr_eq, hv.block_eq,
    hv₁.block_eq, hv₂.block_eq] at hcontrols ⊢
  split_ifs at hcontrols ⊢
  · exact h
  · exact ⟨rfl, rfl, ⟨_, hcontrols⟩, h.left.reset _, h.right.reset _⟩

/-- The samples of a block. -/
lemma process (maps : GranularMaps) (r : RnboObject) (l : List ℕ) (x y : ℕ → ℚ × ℚ) :
    Mixed a b (g.process maps r (l.map fun i => a • x i + b • y i)).1
        (g₁.process maps r (l.map x)).1 (g₂.process maps r (l.map y)).1 ∧
      ∀ i, (g.process maps r (l.map fun i => a • x i + b • y i)).2.getD i (0, 0) =
        a • (g₁.process maps r (l.map x)).2.getD i (0, 0) +
          b • (g₂.process maps r (l.map y)).2.getD i (0, 0) := by
  induction l generalizing g g₁ g₂ with
  | nil => exact ⟨h, fun i => by simp [Granular.process, Scan.run]⟩
  | cons n l ih =>
    obtain ⟨hnext, houtput⟩ := h.performSample maps r (x n) (y n)
    obtain ⟨hlast, houtputs⟩ := ih hnext
    refine ⟨hlast, fun i => ?_⟩
    cases i with
    | zero => exact houtput
    | succ i => exact houtputs i

end Granular.Mixed

/-! ## The processor hears a mix -/

open GrainDelay (Event Samples)

namespace GrainDelay

/-- What a mixing desk makes of two channels. -/
def mix (a b : ℚ) (p : Samples × Samples) : Samples := a • p.1 + b • p.2

namespace Running

/-- A grain delay whose patch has heard a mix of what those of two others have. -/
structure Mixed (a b : ℚ) (g g₁ g₂ : Running) : Prop where
  settings₁ : g₁.settings = g.settings
  settings₂ : g₂.settings = g.settings
  rate₁ : g₁.sampleRate = g.sampleRate
  rate₂ : g₂.sampleRate = g.sampleRate
  patch : Granular.Mixed a b g.patch g₁.patch g₂.patch

lemma inputs_mix (a b : ℚ) (numChannels numSamples : ℕ) (p : Samples × Samples) :
    inputs numChannels numSamples (mix a b p) = (List.range numSamples).map fun i =>
      a • (if numChannels ≥ 1 then p.1 0 i else 0, if numChannels ≥ 2 then p.1 1 i else 0) +
        b • (if numChannels ≥ 1 then p.2 0 i else 0, if numChannels ≥ 2 then p.2 1 i else 0) := by
  refine List.map_congr_left fun i _ => Prod.ext ?_ ?_
  · by_cases h : numChannels ≥ 1 <;> simp [mix, h]
  · by_cases h : numChannels ≥ 2 <;> simp [mix, h]

/-- Mixed outputs are left in a mixed block. -/
lemma outputs_mix (a b : ℚ) (numChannels numSamples : ℕ) (p : Samples × Samples)
    {frames frames₁ frames₂ : List (ℚ × ℚ)}
    (h : ∀ i, frames.getD i (0, 0) = a • frames₁.getD i (0, 0) + b • frames₂.getD i (0, 0)) :
    outputs numChannels numSamples (mix a b p) frames =
      mix a b (outputs numChannels numSamples p.1 frames₁,
        outputs numChannels numSamples p.2 frames₂) := by
  funext c i
  simp only [outputs, mix, Pi.add_apply, Pi.smul_apply, h, Prod.fst_add, Prod.smul_fst,
    Prod.snd_add, Prod.smul_snd]
  split_ifs
  · rfl
  · rfl
  · simp
  · rfl

/-- **One event.**

**Proof sketch.** By the event: settings and rates are the same throughout, and a block is mixed
sample by sample. -/
theorem mixed_step {a b : ℚ} {g g₁ g₂ : Running} (h : Mixed a b g g₁ g₂) (maps : GranularMaps)
    (number : NetworkId) (e : Event (Samples × Samples)) :
    Mixed a b (g.step maps number (e.map (mix a b))).1 (g₁.step maps number (e.map Prod.fst)).1
        (g₂.step maps number (e.map Prod.snd)).1 ∧
      (g.step maps number (e.map (mix a b))).2 =
        Option.map₂ (fun x y => mix a b (x, y)) (g₁.step maps number (e.map Prod.fst)).2
          (g₂.step maps number (e.map Prod.snd)).2 := by
  cases e with
  | prepare spec =>
    exact ⟨⟨h.settings₁, h.settings₂, rfl, rfl, h.patch.prepareToProcess _ _⟩, rfl⟩
  | parameterChanged parameterID newValue =>
    refine ⟨⟨?_, ?_, h.rate₁, h.rate₂, h.patch⟩, rfl⟩
    · exact congrArg (fun s : GrainDelay => s.parameterChanged number parameterID newValue)
        h.settings₁
    · exact congrArg (fun s : GrainDelay => s.parameterChanged number parameterID newValue)
        h.settings₂
  | setParameterValue parameterToConnect rnboParameterIdx =>
    refine ⟨⟨?_, ?_, h.rate₁, h.rate₂, h.patch⟩, rfl⟩
    · exact congrArg
        (fun s : GrainDelay => s.setParameterValue parameterToConnect rnboParameterIdx) h.settings₁
    · exact congrArg
        (fun s : GrainDelay => s.setParameterValue parameterToConnect rnboParameterIdx) h.settings₂
  | processBlock numChannels numSamples p =>
    simp only [Event.map, step, processBlock, h.settings₁, h.settings₂, h.rate₁, h.rate₂]
    cases g.settings.isMuted
    · obtain ⟨hlast, houtputs⟩ := (h.patch.prepareToProcess g.sampleRate numSamples).process maps
        g.settings.rnboObject (List.range numSamples) _ _
      simp only [Bool.not_false, if_true, inputs_mix]
      refine ⟨⟨rfl, rfl, rfl, rfl, hlast⟩, ?_⟩
      exact congrArg some (outputs_mix a b numChannels numSamples p houtputs)
    · exact ⟨⟨h.settings₁, h.settings₂, h.rate₁, h.rate₂, h.patch⟩, rfl⟩

lemma mixed_construct (a b : ℚ) (seed : BitVec 64) :
    Mixed a b (construct seed) (construct seed) (construct seed) := by
  have hline : DelayLine.Mixed a b (.init 44100) (.init 44100) (.init 44100) := by
    refine ⟨⟨rfl, rfl, rfl, rfl, rfl⟩, ⟨rfl, rfl, rfl, rfl, rfl⟩, fun i => ?_⟩
    change (0 : ℚ) = a * 0 + b * 0
    ring
  have hcontrols := GrainVoice.controls_construct seed
  exact ⟨rfl, rfl, rfl, rfl, ⟨rfl, rfl, ⟨_, hcontrols, hcontrols, hcontrols⟩, hline, hline⟩⟩

/-- A run from three grain delays. -/
lemma mixed_run {a b : ℚ} {g g₁ g₂ : Running} (h : Mixed a b g g₁ g₂) (maps : GranularMaps)
    (number : NetworkId) (es : List (Event (Samples × Samples))) :
    (Scan.run (step maps number) g (es.map (Event.map (mix a b)))).2 =
      List.zipWith (Option.map₂ fun x y => mix a b (x, y))
        (Scan.run (step maps number) g₁ (es.map (Event.map Prod.fst))).2
        (Scan.run (step maps number) g₂ (es.map (Event.map Prod.snd))).2 := by
  induction es generalizing g g₁ g₂ with
  | nil => rfl
  | cons e es ih =>
    obtain ⟨hnext, houtput⟩ := mixed_step h maps number e
    simp only [List.map_cons, Scan.run, List.zipWith_cons_cons, houtput, ih hnext]

end Running

end GrainDelay

/-- **The grain delay is linear.** For any seed of the noise and any sequence of preparations,
changes of the parameters and blocks: blocks that are a mix of the blocks of two other sequences are
left as the same mix of what those are left as.

**Proof sketch.** What is heard does not steer the grains, so that the three patches read the same
cells with the same weights; and the cells of the first one hold the mix. -/
theorem grain_delay_superposition (maps : GranularMaps) (number : NetworkId) (seed : BitVec 64)
    (a b : ℚ) (es : List (Event (Samples × Samples))) :
    let run (φ : Samples × Samples → Samples) :=
      (Scan.run (GrainDelay.Running.step maps number) (.construct seed) (es.map (Event.map φ))).2
    run (fun p => a • p.1 + b • p.2) =
      List.zipWith (Option.map₂ fun x y => a • x + b • y) (run Prod.fst) (run Prod.snd) :=
  GrainDelay.Running.mixed_run (GrainDelay.Running.mixed_construct a b seed) maps number es

/-! ## How loud the grain delay is -/

/-- The cells of a line are within a bound. -/
def DelayLine.Bounded (B : ℚ) (d : DelayLine) : Prop := ∀ i, |d.buffer.data 0 i| ≤ B

namespace DelayLine.Bounded

variable {B : ℚ} {d : DelayLine} (h : d.Bounded B)
include h

lemma write {v : ℚ} (hv : |v| ≤ B) : (d.write v).Bounded B := by
  intro i
  change |(d.buffer.setSample 0 d.reader v).data 0 i| ≤ B
  rw [AudioBuffer.setSample_data_self, Function.update_apply]
  split_ifs
  · exact hv
  · exact h i

lemma reset (samplerate : ℚ) : (d.reset samplerate).Bounded B := by
  intro i
  rw [data_reset]
  split_ifs
  · rw [abs_zero]
    exact (abs_nonneg _).trans (h 0)
  · exact h i

/-- An interpolation is between its samples. -/
lemma read (size : ℚ) : |d.read size| ≤ B := by
  obtain ⟨f, i, j, hf0, hf1, hread⟩ := d.exists_read size
  rw [hread d ⟨rfl, rfl, rfl, rfl, rfl⟩]
  obtain ⟨hi, hi'⟩ := abs_le.mp (h i)
  obtain ⟨hj, hj'⟩ := abs_le.mp (h j)
  have hsplit : linearinterp f (d.buffer.data 0 i) (d.buffer.data 0 j) =
      (1 - f) * d.buffer.data 0 i + f * d.buffer.data 0 j := by
    unfold linearinterp
    ring
  rw [hsplit]
  refine abs_le.mpr ⟨?_, ?_⟩
  · have := mul_le_mul_of_nonneg_left hi (sub_nonneg.mpr hf1.le)
    have := mul_le_mul_of_nonneg_left hj hf0
    linarith
  · have := mul_le_mul_of_nonneg_left hi' (sub_nonneg.mpr hf1.le)
    have := mul_le_mul_of_nonneg_left hj' hf0
    linarith

end DelayLine.Bounded

/-- A patch that has played `n` samples of what was within a bound. -/
structure Granular.Faded (B : ℚ) (n : ℕ) (g : Granular) : Prop where
  controls : ∃ v : GrainVoice, v.Controls g
  gain_eq : g.hisGain = 1 - 0.999 ^ n
  left : g.delL.Bounded B
  right : g.delR.Bounded B

namespace Granular.Faded

variable {maps : GranularMaps} (hsin : ∀ x, |maps.sin x| ≤ 1) (hpow : maps.pow 1 0.3 = 1)
include hsin hpow

/-- The level is not more than the gain. -/
lemma abs_scaledLevel_le {v : GrainVoice} (hgain : 0 ≤ v.gain) :
    |v.scaledLevel maps| ≤ v.gain := by
  rw [GrainVoice.scaledLevel_eq (fun x => (abs_le.mp (hsin x)).2) hpow, GrainVoice.level]
  split_ifs
  · obtain ⟨hlow, hhigh⟩ := abs_le.mp
      (hsin (4.7123889803847 + v.played / v.size * 6.28318530717958647692))
    have hwindow : 0 ≤ v.window maps ∧ v.window maps ≤ 1 := by
      unfold GrainVoice.window
      constructor
      · linarith
      · linarith
    rw [abs_mul, abs_of_nonneg hwindow.1, abs_of_nonneg hgain]
    exact mul_le_of_le_one_left hgain hwindow.2
  · rwa [abs_zero]

/-- A sample.

**Proof sketch.** The gain of the history is `1 - 0.999 ^ n` after `n` samples, and the level of the
voice is at most that; what is read from a delay line is bounded by what was written. -/
lemma performSample {B : ℚ} {n : ℕ} {g : Granular} (h : g.Faded B n) (r : RnboObject) {x : ℚ × ℚ}
    (hx : |x.1| ≤ B ∧ |x.2| ≤ B) :
    (g.performSample maps r x).1.Faded B (n + 1) ∧
      |(g.performSample maps r x).2.1| ≤ (1 - 0.999 ^ (n + 1)) * B ∧
      |(g.performSample maps r x).2.2| ≤ (1 - 0.999 ^ (n + 1)) * B := by
  obtain ⟨v, hv⟩ := h.controls
  obtain ⟨hnext, hL, hR, -, hout⟩ := hv.performSample maps r x x
  have hgain : (v.cue maps r x).gain = 1 - 0.999 ^ (n + 1) := by
    have hcue : (v.cue maps r x).gain = (1 - v.gain) * 0.001 + v.gain := by
      unfold GrainVoice.cue GrainVoice.trigger
      dsimp only
      split_ifs <;> rfl
    rw [hcue, ← hv.gain_eq, h.gain_eq, pow_succ]
    ring
  have hpos : 0 ≤ (v.cue maps r x).gain := by
    rw [hgain]
    have := pow_le_one₀ (n := n + 1) (show (0 : ℚ) ≤ 0.999 by norm_num) (by norm_num)
    linarith
  have hlevel := abs_scaledLevel_le hsin hpow hpos
  have hloud : ∀ y : ℚ, |y| ≤ B →
      |y * (v.cue maps r x).scaledLevel maps| ≤ (1 - 0.999 ^ (n + 1)) * B := by
    intro y hy
    rw [abs_mul, mul_comm, ← hgain]
    exact mul_le_mul hlevel hy (abs_nonneg _) hpos
  refine ⟨⟨⟨_, hnext⟩, hnext.gain_eq.trans hgain, ?_, ?_⟩, ?_, ?_⟩
  · rw [hL]
    exact h.left.write hx.1
  · rw [hR]
    exact h.right.write hx.2
  · rw [hout]
    exact hloud _ ((h.left.write hx.1).read _)
  · rw [hout]
    exact hloud _ ((h.right.write hx.2).read _)

/-- The samples of a block. -/
lemma process {B : ℚ} {n : ℕ} {g : Granular} (h : g.Faded B n) (r : RnboObject)
    {xs : List (ℚ × ℚ)} (hxs : ∀ x ∈ xs, |x.1| ≤ B ∧ |x.2| ≤ B) :
    (g.process maps r xs).1.Faded B (n + xs.length) ∧
      ∀ i < xs.length,
        |((g.process maps r xs).2.getD i (0, 0)).1| ≤ (1 - 0.999 ^ (n + i + 1)) * B ∧
        |((g.process maps r xs).2.getD i (0, 0)).2| ≤ (1 - 0.999 ^ (n + i + 1)) * B := by
  induction xs generalizing g n with
  | nil => exact ⟨h, fun i hi => absurd hi (Nat.not_lt_zero i)⟩
  | cons x xs ih =>
    obtain ⟨hx, hrest⟩ := List.forall_mem_cons.mp hxs
    obtain ⟨hnext, hout⟩ := h.performSample hsin hpow r hx
    obtain ⟨hlast, houts⟩ := ih hnext hrest
    rw [List.length_cons, Nat.add_comm xs.length 1, ← Nat.add_assoc]
    refine ⟨hlast, fun i hi => ?_⟩
    cases i with
    | zero => exact hout
    | succ i =>
      have hindex : n + (i + 1) + 1 = n + 1 + i + 1 := by omega
      rw [hindex]
      exact houts i (by omega)

omit hsin hpow in
/-- A preparation. -/
lemma prepareToProcess {B : ℚ} {n : ℕ} {g : Granular} (h : g.Faded B n) (sampleRate : ℚ)
    (maxBlockSize : ℕ) : (g.prepareToProcess sampleRate maxBlockSize false).Faded B n := by
  obtain ⟨v, hv⟩ := h.controls
  have hcontrols := hv.prepareToProcess sampleRate maxBlockSize
  rw [prepareToProcess_eq] at hcontrols ⊢
  split_ifs at hcontrols ⊢
  · exact h
  · exact ⟨⟨_, hcontrols⟩, h.gain_eq, h.left.reset _, h.right.reset _⟩

end Granular.Faded

namespace GrainDelay

/-- The samples of a block are within a bound. -/
def Event.Within (B : ℚ) : Event Samples → Prop
  | .processBlock numChannels numSamples data =>
    ∀ c < numChannels, ∀ i < numSamples, |data c i| ≤ B
  | _ => True

namespace Running

/-- How many samples an event lets the patch play. -/
def samplesOf (g : Running) : Event Samples → ℕ
  | .processBlock _ numSamples _ => if g.settings.isMuted then 0 else numSamples
  | _ => 0

/-- How many samples were played by the patch. -/
def samplesPlayed (maps : GranularMaps) (number : NetworkId) : Running → List (Event Samples) → ℕ
  | _, [] => 0
  | g, e :: es => g.samplesOf e + samplesPlayed maps number (g.step maps number e).1 es

lemma inputs_within {B : ℚ} (hB : 0 ≤ B) {numChannels numSamples : ℕ} {data : Samples}
    (h : ∀ c < numChannels, ∀ i < numSamples, |data c i| ≤ B) :
    ∀ x ∈ inputs numChannels numSamples data, |x.1| ≤ B ∧ |x.2| ≤ B := by
  intro x hx
  obtain ⟨i, hi, rfl⟩ := List.mem_map.mp hx
  rw [List.mem_range] at hi
  dsimp only
  constructor
  · split_ifs with hc
    · exact h 0 (by omega) i hi
    · rwa [abs_zero]
  · split_ifs with hc
    · exact h 1 (by omega) i hi
    · rwa [abs_zero]

section Faded

variable {maps : GranularMaps} (hsin : ∀ x, |maps.sin x| ≤ 1) (hpow : maps.pow 1 0.3 = 1)
include hsin hpow

/-- One event. -/
lemma faded_step {B : ℚ} (hB : 0 ≤ B) {n : ℕ} {g : Running} (h : g.patch.Faded B n)
    (number : NetworkId) {e : Event Samples} (he : e.Within B) :
    (g.step maps number e).1.patch.Faded B (n + g.samplesOf e) := by
  cases e with
  | prepare spec => exact h.prepareToProcess _ _
  | parameterChanged parameterID newValue => exact h
  | setParameterValue parameterToConnect rnboParameterIdx => exact h
  | processBlock numChannels numSamples data =>
    simp only [step, processBlock, samplesOf]
    cases g.settings.isMuted
    · have hlast := ((h.prepareToProcess g.sampleRate numSamples).process hsin hpow
        g.settings.rnboObject (inputs_within hB he)).1
      simpa [inputs] using hlast
    · exact h

/-- A run. -/
lemma faded_run {B : ℚ} (hB : 0 ≤ B) {n : ℕ} {g : Running} (h : g.patch.Faded B n)
    (number : NetworkId) {es : List (Event Samples)} (hes : ∀ e ∈ es, e.Within B) :
    (Scan.run (step maps number) g es).1.patch.Faded B (n + samplesPlayed maps number g es) := by
  induction es generalizing g n with
  | nil => exact h
  | cons e es ih =>
    obtain ⟨he, hrest⟩ := List.forall_mem_cons.mp hes
    have hlast := ih (faded_step hsin hpow hB h number he) hrest
    rwa [Nat.add_assoc] at hlast

end Faded

end Running

end GrainDelay

open GrainDelay.Running (samplesPlayed) in
/-- **The grain delay fades in, and is never louder than what it has heard.** Let all samples of a
run be within `B`. If the grain delay is on, it leaves a sample of the next block within
`(1 - 0.999 ^ n) * B`, where it is the `n`th sample that its patch has played since the
construction.

**Proof sketch.** A delay line is read between two of its samples, the window is between zero and
one, only one grain plays, and the gain has come as much closer to one as `n` samples bring it. -/
theorem grain_delay_fades_in {maps : GranularMaps} (hsin : ∀ x, |maps.sin x| ≤ 1)
    (hpow : maps.pow 1 0.3 = 1) (number : NetworkId) (seed : BitVec 64) {B : ℚ} (hB : 0 ≤ B)
    (es : List (Event Samples)) (hes : ∀ e ∈ es, e.Within B) (numChannels numSamples : ℕ)
    (data : Samples) (hdata : Event.Within B (.processBlock numChannels numSamples data))
    {c i : ℕ} (hc : c < numChannels) (hi : i < numSamples)
    (hon : (Scan.run (GrainDelay.Running.step maps number) (.construct seed)
      es).1.settings.isMuted = false) :
    let g := (Scan.run (GrainDelay.Running.step maps number) (.construct seed) es).1
    |(g.processBlock maps numChannels numSamples data).2 c i| ≤
      (1 - 0.999 ^ (samplesPlayed maps number (.construct seed) es + i + 1)) * B := by
  intro g
  have hfresh : (GrainDelay.Running.construct seed).patch.Faded B 0 := by
    refine ⟨⟨_, GrainVoice.controls_construct seed⟩, ?_, fun i => ?_, fun i => ?_⟩
    · norm_num [GrainDelay.Running.construct]
    · rwa [show ((GrainDelay.Running.construct seed).patch.delL.buffer.data 0 i) = 0 from rfl,
        abs_zero]
    · rwa [show ((GrainDelay.Running.construct seed).patch.delR.buffer.data 0 i) = 0 from rfl,
        abs_zero]
  have hfaded := GrainDelay.Running.faded_run hsin hpow hB hfresh number hes
  rw [Nat.zero_add] at hfaded
  set n := samplesPlayed maps number (.construct seed) es
  have hframes := ((hfaded.prepareToProcess g.sampleRate numSamples).process hsin hpow
    g.settings.rnboObject (GrainDelay.Running.inputs_within hB hdata)).2 i
    (by simpa [GrainDelay.Running.inputs] using hi)
  have hpos : 0 ≤ (1 - (0.999 : ℚ) ^ (n + i + 1)) * B := by
    have := pow_le_one₀ (n := n + i + 1) (show (0 : ℚ) ≤ 0.999 by norm_num) (by norm_num)
    exact mul_nonneg (by linarith) hB
  have hunmuted : g.settings.isMuted = false := hon
  simp only [GrainDelay.Running.processBlock, hunmuted, Bool.not_false, if_true,
    GrainDelay.Running.outputs, hc, hi, and_self]
  split_ifs
  · exact hframes.1
  · exact hframes.2
  · rwa [abs_zero]

/-- The first block of a grain delay that was switched on. -/
theorem grain_delay_fades_in_first_block :
    let es : List (Event Samples) := [.parameterChanged (.grainOnOff .network1) 1]
    |(((Scan.run (GrainDelay.Running.step .library .network1) (.construct 7) es).1).processBlock
      .library 1 2 fun _ _ => 1).2 0 1| ≤ (1 - 0.999 ^ 2) * 1 := by
  intro es
  exact grain_delay_fades_in
    GranularMaps.abs_library_sin_le (GranularMaps.library_pow_one _)
    .network1 7 zero_le_one es (by simp [es, Event.Within]) 1 2 (fun _ _ => 1)
    (by simp [Event.Within]) Nat.one_pos Nat.one_lt_two (by decide +kernel)
