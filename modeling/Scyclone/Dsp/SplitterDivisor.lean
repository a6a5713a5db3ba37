import Mathlib.Tactic.LinearCombination
import Scyclone.Dsp.NanContainment
import Scyclone.Lib.FloatFormat

set_option relaxedAutoImplicit false
set_option autoImplicit false

/-!
# The divisor of the transient splitter

The splitter divides by the value of its detector, a follower without an attack time that begins
at zero. Whether the detector comes to zero depends on how results are rounded, so here the blocks
are processed in a floating-point format. `exp` is what the program computes as the coefficient of
a time, with its rounding; nothing is assumed of it.

## Main definitions

* `TransientSplitter.processBlockRounded`, `ProcessorTransientSplitter.stepRounded` — the splitter
  with every result rounded.
* `Envelope.StaysOffZero` — the condition on a sample and the value stored before it.
* `ProcessorTransientSplitter.DividesSafely` — all divisors of a block are other than zero, and all
  samples given back are numbers.

## Main results

* `ProcessorTransientSplitter.stepRounded_exact` — without rounding it is the splitter in exact
  arithmetic.
* `Envelope.followBy_ne_zero_iff` — one step of the detector.
* `Envelope.staysOffZero_exact_iff` — the condition in exact arithmetic.
* `divides_safely_iff` — a run never divides by zero exactly if every sample meets the condition.
-/

open WithNan

variable {K : Type} [Field K] [LinearOrder K]

/-! ## Rounded results -/

namespace FloatFormat

/-- The mean of two values with the weights `w` and `1 - w`, every result rounded. -/
def mean (format : FloatFormat K) (w : K) (x y : WithNan K) : WithNan K :=
  ((number w * x).map format.round + (number (format.round (1 - w)) * y).map format.round).map
    format.round

/-- The sum of the two products of a mean, each of them rounded. -/
def meanSum (format : FloatFormat K) (w a b : K) : K :=
  format.round (w * a) + format.round (format.round (1 - w) * b)

lemma mean_number (format : FloatFormat K) (w a b : K) :
    format.mean w (number a) (number b) = number (format.round (format.meanSum w a b)) := rfl

lemma mean_ne_nan (format : FloatFormat K) (w : K) {x y : WithNan K} (hx : x ≠ nan)
    (hy : y ≠ nan) : format.mean w x y ≠ nan := by
  obtain ⟨a, rfl⟩ := exists_number_of_ne_nan hx
  obtain ⟨b, rfl⟩ := exists_number_of_ne_nan hy
  rw [mean_number]
  exact fun h => by cases h

lemma mean_exact [IsStrictOrderedRing K] : (exact : FloatFormat K).mean = blend := by
  funext w x y
  cases x with
  | nan => rfl
  | number a => cases y <;> rfl

end FloatFormat

namespace TransientSplitter

/-- The body of the loops of `processBlock`, every result rounded. -/
def mixSampleRounded (format : FloatFormat K) (parameter : TransientSplitterParameter K)
    (detector envelope1 envelope2 sample : WithNan K) : WithNan K :=
  let attack := ((envelope1 - envelope2).map format.round).abs
  let attack := stdMin ((attack / detector.abs).map format.round) 1
  let sustain := (1 - attack).map format.round
  let signalAttack :=
    ((attack * number parameter.attack).map format.round * sample).map format.round
  let signalSustain :=
    ((sustain * number parameter.sustain).map format.round * sample).map format.round
  (signalAttack + signalSustain).map format.round

/-- The followers after a block. -/
def followedRounded (format : FloatFormat K) (s : TransientSplitter K)
    (buffer : AudioBuffer (WithNan K)) : TransientSplitter K :=
  { s with
    detector := s.detector.processBlockBy format.mean buffer
    envelope1 := s.envelope1.processBlockBy format.mean buffer
    envelope2 := s.envelope2.processBlockBy format.mean buffer }

/-- `processBlock`, every result rounded. -/
def processBlockRounded (format : FloatFormat K) (s : TransientSplitter K)
    (buffer : AudioBuffer (WithNan K)) : TransientSplitter K × AudioBuffer (WithNan K) :=
  let s := s.followedRounded format buffer
  (s, buffer.forEachSample fun _ j sample => mixSampleRounded format s.parameter
    (s.detector.getSample j) (s.envelope1.getSample j) (s.envelope2.getSample j) sample)

/-- The samples given back. -/
lemma processBlockRounded_data (format : FloatFormat K) (s : TransientSplitter K)
    (buffer : AudioBuffer (WithNan K)) {c j : ℕ} (hc : c < buffer.numChannels)
    (hj : j < buffer.numSamples) :
    (s.processBlockRounded format buffer).2.data c j =
      mixSampleRounded format s.parameter ((s.followedRounded format buffer).detector.getSample j)
        ((s.followedRounded format buffer).envelope1.getSample j)
        ((s.followedRounded format buffer).envelope2.getSample j) (buffer.data c j) := by
  simp only [processBlockRounded, AudioBuffer.forEachSample_eq, hc, hj, and_self, if_true]
  rfl

/-- Numbers are mixed to a number where the detector is not zero. -/
lemma mixSampleRounded_ne_nan (format : FloatFormat K) (parameter : TransientSplitterParameter K)
    {detector : K} (h : detector ≠ 0) [IsStrictOrderedRing K] (envelope1 envelope2 sample : K) :
    mixSampleRounded format parameter (number detector) (number envelope1) (number envelope2)
      (number sample) ≠ nan := by
  have habs : |detector| ≠ 0 := abs_ne_zero.mpr h
  unfold mixSampleRounded
  simp only [number_sub, map_number, abs_number, number_div_of_ne _ habs, one_eq, stdMin_number,
    number_mul, number_add]
  exact fun h => by cases h

/-- Without rounding a sample is mixed as in exact arithmetic. -/
lemma mixSampleRounded_exact [IsStrictOrderedRing K] (parameter : TransientSplitterParameter K)
    (detector envelope1 envelope2 sample : WithNan K) :
    mixSampleRounded .exact parameter detector envelope1 envelope2 sample =
      mixSample parameter detector envelope1 envelope2 sample := by
  have hid : ∀ x : WithNan K, x.map (FloatFormat.exact : FloatFormat K).round = x := fun x => by
    cases x <;> rfl
  simp only [mixSampleRounded, mixSample, hid]

end TransientSplitter

namespace ProcessorTransientSplitter

/-- `processBlock`, every result rounded. -/
def processBlockRounded (format : FloatFormat K) (p : ProcessorTransientSplitter K)
    (buffer : AudioBuffer (WithNan K)) :
    ProcessorTransientSplitter K × AudioBuffer (WithNan K) :=
  ({ p with transientSplitter := (p.transientSplitter.processBlockRounded format buffer).1 },
    (p.transientSplitter.processBlockRounded format buffer).2)

/-- One step, in which the results of `processBlock` are rounded. -/
def stepRounded (format : FloatFormat K) (exp : K → K) (p : ProcessorTransientSplitter K) :
    Event K → Option (ProcessorTransientSplitter K)
  | .prepare spec => some (p.prepare exp spec)
  | .parameterChanged parameterID newValue => some (p.parameterChanged exp parameterID newValue)
  | .processBlock buffer => some (p.processBlockRounded format buffer).1

/-- **Without rounding it is the splitter in exact arithmetic.** -/
theorem stepRounded_exact [IsStrictOrderedRing K] (exp : K → K) :
    stepRounded (K := K) .exact exp = step exp ∧
      ∀ (p : ProcessorTransientSplitter K) (buffer : AudioBuffer (WithNan K)),
        p.processBlockRounded .exact buffer = p.processBlock buffer := by
  have hblock : ∀ (p : ProcessorTransientSplitter K) (buffer : AudioBuffer (WithNan K)),
      p.processBlockRounded .exact buffer = p.processBlock buffer := by
    intro p buffer
    have hfollowed : p.transientSplitter.followedRounded .exact buffer =
        p.transientSplitter.followed buffer := by
      simp only [TransientSplitter.followedRounded, FloatFormat.mean_exact]
      rfl
    simp only [processBlockRounded, processBlock, TransientSplitter.processBlockRounded,
      TransientSplitter.processBlock, hfollowed, TransientSplitter.mixSampleRounded_exact]
  refine ⟨?_, hblock⟩
  funext p e
  cases e with
  | prepare spec => rfl
  | parameterChanged parameterID newValue => rfl
  | processBlock buffer => simp only [stepRounded, step, hblock]

end ProcessorTransientSplitter

/-! ## The detector -/

namespace Envelope

/-- The sample and the value stored before it do not lead to zero: not silence on a negative value,
and, unless the value rises, not two products in the mean whose sum underflows. -/
def StaysOffZero (format : FloatFormat K) (e : Envelope K) (lastValue detector : WithNan K) :
    Prop :=
  ∀ l d : K, lastValue = number l → detector = number d →
    ¬ (l < 0 ∧ d = 0) ∧
      ¬ (d ≤ l ∧ |format.meanSum e.releaseCoefficient l d| ≤ format.underflow)

/-- The condition for two numbers. -/
lemma staysOffZero_number (format : FloatFormat K) (e : Envelope K) (l d : K) :
    e.StaysOffZero format (number l) (number d) ↔ ¬ (l < 0 ∧ d = 0) ∧
      ¬ (d ≤ l ∧ |format.meanSum e.releaseCoefficient l d| ≤ format.underflow) := by
  refine ⟨fun h => h l d rfl rfl, fun h l' d' hl hd => ?_⟩
  obtain rfl := WithNan.number.inj hl
  obtain rfl := WithNan.number.inj hd
  exact h

/-- **One step of the detector** leads to zero only so.

**Proof sketch.** A rising detector is copied, and is zero exactly if its input is. A falling one is
the rounded mean, which is zero exactly if the mean is below the smallest number (`round_eq_zero`).
-/
lemma followBy_ne_zero_iff (format : FloatFormat K) (e : Envelope K) (h : e.attackTime = 0)
    {lastValue detector : WithNan K} (hl : lastValue ≠ nan) (hd : detector ≠ nan) :
    e.followBy format.mean lastValue detector ≠ 0 ↔
      e.StaysOffZero format lastValue detector := by
  obtain ⟨l, rfl⟩ := exists_number_of_ne_nan hl
  obtain ⟨d, rfl⟩ := exists_number_of_ne_nan hd
  rw [staysOffZero_number, ← not_or, not_iff_not, zero_eq]
  unfold followBy
  simp only [h, if_true, number_lt]
  by_cases hlt : l < d
  · rw [if_pos hlt, WithNan.number.injEq]
    constructor
    · rintro rfl
      exact Or.inl ⟨hlt, rfl⟩
    · rintro (⟨-, h0⟩ | ⟨hle, -⟩)
      · exact h0
      · exact absurd hlt (not_lt.mpr hle)
  · rw [if_neg hlt, format.mean_number, WithNan.number.injEq, format.round_eq_zero]
    constructor
    · exact fun hsmall => Or.inr ⟨not_lt.mp hlt, hsmall⟩
    · rintro (⟨hneg, rfl⟩ | ⟨-, hsmall⟩)
      · exact absurd hneg hlt
      · exact hsmall

/-- A step between numbers stays among numbers. -/
lemma followBy_ne_nan (format : FloatFormat K) (e : Envelope K) {lastValue detector : WithNan K}
    (hl : lastValue ≠ nan) (hd : detector ≠ nan) :
    e.followBy format.mean lastValue detector ≠ nan := by
  obtain ⟨l, rfl⟩ := exists_number_of_ne_nan hl
  have hmean : ∀ w, format.mean w (number l) detector ≠ nan := fun w => format.mean_ne_nan w hl hd
  simp only [followBy, isNan_number, Bool.false_eq_true, if_false]
  split_ifs
  · exact hd
  · exact hmean _
  · exact hmean _
  · exact hmean _

/-- **The condition in exact arithmetic**: not silence on a stored value that is not positive, and
not a negative sample that balances a positive stored value.

**Proof sketch.** Without rounding the second clause of the condition says that the weighted mean is
zero. Cases on the sign of the sample: the mean of a positive sample and a larger stored value is
positive, that of silence is zero only with the stored value, and a negative sample has to balance
it. -/
theorem staysOffZero_exact_iff [IsStrictOrderedRing K] (e : Envelope K)
    (hr : 0 < e.releaseCoefficient) (hr' : e.releaseCoefficient < 1) (l d : K) :
    e.StaysOffZero .exact (number l) (number d) ↔ ¬ (d = 0 ∧ l ≤ 0) ∧
      ¬ (d < 0 ∧ 0 < l ∧ e.releaseCoefficient * l = (1 - e.releaseCoefficient) * -d) := by
  have hs : 0 < 1 - e.releaseCoefficient := sub_pos.mpr hr'
  have hsum : |(FloatFormat.exact : FloatFormat K).meanSum e.releaseCoefficient l d| ≤
      (FloatFormat.exact : FloatFormat K).underflow ↔
        e.releaseCoefficient * l + (1 - e.releaseCoefficient) * d = 0 := abs_nonpos_iff
  rw [staysOffZero_number, hsum, ← not_or, ← not_or, not_iff_not]
  constructor
  · rintro (⟨hneg, h0⟩ | ⟨hle, hzero⟩)
    · exact Or.inl ⟨h0, hneg.le⟩
    · rcases lt_trichotomy d 0 with hneg | h0 | hpos
      · right
        have hbalance : e.releaseCoefficient * l = (1 - e.releaseCoefficient) * -d := by
          linear_combination hzero
        have hright : 0 < (1 - e.releaseCoefficient) * -d := mul_pos hs (neg_pos.mpr hneg)
        rw [← hbalance] at hright
        exact ⟨hneg, (mul_pos_iff_of_pos_left hr).mp hright, hbalance⟩
      · left
        rw [h0, mul_zero, add_zero] at hzero
        rcases mul_eq_zero.mp hzero with hr0 | hl0
        · exact absurd hr0 hr.ne'
        · exact ⟨h0, hl0.le⟩
      · have hl : 0 < l := hpos.trans_le hle
        have hsum : 0 < e.releaseCoefficient * l + (1 - e.releaseCoefficient) * d :=
          add_pos (mul_pos hr hl) (mul_pos hs hpos)
        exact absurd hzero hsum.ne'
  · rintro (⟨h0, hl⟩ | ⟨hneg, hpos, hbalance⟩)
    · rcases hl.lt_or_eq with hlt | hl0
      · exact Or.inl ⟨hlt, h0⟩
      · refine Or.inr ⟨(h0.trans hl0.symm).le, ?_⟩
        rw [h0, hl0, mul_zero, mul_zero, add_zero]
    · exact Or.inr ⟨(hneg.trans hpos).le, by linear_combination hbalance⟩

end Envelope

/-! ## Blocks of numbers -/

/-- The buffer has a channel, and all its samples are numbers. -/
structure AudioBuffer.AllNumbers (b : AudioBuffer (WithNan K)) : Prop where
  numChannels_pos : 0 < b.numChannels
  data : ∀ c < b.numChannels, ∀ j < b.numSamples, b.data c j ≠ nan

/-- In a block of numbers numbers are detected. -/
lemma AudioBuffer.AllNumbers.detected_ne_nan {b : AudioBuffer (WithNan K)} (h : b.AllNumbers)
    {d : WithNan K} (hd : d ∈ Envelope.detected b) : d ≠ nan := by
  obtain ⟨j, hj, rfl⟩ := List.mem_map.mp hd
  have hnumber : b.getSample 0 j ≠ nan := h.data 0 h.numChannels_pos j (List.mem_range.mp hj)
  unfold Envelope.detect
  split_ifs with hone
  · exact hnumber
  · rw [Ne, stdMax_eq_nan, abs_eq_nan]
    exact hnumber

/-- The values of a follower for a block of numbers are numbers, and so is the one it stores. -/
lemma Envelope.valuesBy_ne_nan (format : FloatFormat K) (e : Envelope K)
    {b : AudioBuffer (WithNan K)} (h : b.AllNumbers) (hl : e.lastValue ≠ nan) :
    (∀ j < b.numSamples, (e.processBlockBy format.mean b).getSample j ≠ nan) ∧
      (e.processBlockBy format.mean b).lastValue ≠ nan := by
  obtain ⟨hall, hlast⟩ := Scan.forall_states (I := fun l => l ≠ nan) (C := fun d => d ≠ nan)
    (fun l d hl hd => e.followBy_ne_nan format hl hd) hl fun d hd => h.detected_ne_nan hd
  refine ⟨fun j hj => ?_, by rwa [processBlockBy_eq]⟩
  have hlen : j < (Scan.states (e.followBy format.mean) e.lastValue (detected b)).length := by
    simpa using hj
  rw [e.getSample_processBlockBy format.mean b hlen]
  exact hall _ (List.getElem_mem hlen)

/-! ## The splitter -/

namespace TransientSplitter

/-- A splitter that has met numbers only. -/
structure MetNumbers (s : TransientSplitter K) : Prop where
  attackTime : s.detector.attackTime = 0
  detector : s.detector.lastValue ≠ nan
  envelope1 : s.envelope1.lastValue ≠ nan
  envelope2 : s.envelope2.lastValue ≠ nan

/-- A block of numbers keeps it so. -/
lemma MetNumbers.followed {s : TransientSplitter K} (h : MetNumbers s) (format : FloatFormat K)
    {b : AudioBuffer (WithNan K)} (hb : b.AllNumbers) :
    MetNumbers (s.followedRounded format b) := by
  refine ⟨?_, (s.detector.valuesBy_ne_nan format hb h.detector).2,
    (s.envelope1.valuesBy_ne_nan format hb h.envelope1).2,
    (s.envelope2.valuesBy_ne_nan format hb h.envelope2).2⟩
  simpa [TransientSplitter.followedRounded, Envelope.processBlockBy_eq] using h.attackTime

/-- **A block is divided safely** exactly if all its samples keep the detector off zero.

**Proof sketch.** The divisors are the states of the detector, which are off zero exactly if every
sample keeps it there, by `Scan.forall_states_iff`. Where the divisor is not zero the values of all
followers are numbers, and so is the sample that is mixed from them. -/
lemma MetNumbers.divides_iff [IsStrictOrderedRing K] {s : TransientSplitter K} (h : MetNumbers s)
    (format : FloatFormat K) {b : AudioBuffer (WithNan K)} (hb : b.AllNumbers) :
    (∀ j < b.numSamples, (s.followedRounded format b).detector.getSample j ≠ 0 ∧
      ∀ c < b.numChannels, (s.processBlockRounded format b).2.data c j ≠ nan) ↔
    Scan.Meets (s.detector.followBy format.mean) (s.detector.StaysOffZero format)
      s.detector.lastValue (Envelope.detected b) := by
  have hvalue : ∀ j (hj : j < (Scan.states (s.detector.followBy format.mean) s.detector.lastValue
      (Envelope.detected b)).length),
      (s.followedRounded format b).detector.getSample j =
        (Scan.states (s.detector.followBy format.mean) s.detector.lastValue
          (Envelope.detected b))[j] :=
    fun j hj => s.detector.getSample_processBlockBy format.mean b hj
  rw [← Scan.forall_states_iff (I := fun l => l ≠ nan) (P := fun v => v ≠ 0)
    (D := fun d => d ≠ nan) (fun l d hl hd => s.detector.followBy_ne_nan format hl hd)
    (fun l d hl hd => s.detector.followBy_ne_zero_iff format h.attackTime hl hd) h.detector
    fun d hd => hb.detected_ne_nan hd]
  constructor
  · intro hsafe v hv
    obtain ⟨j, hj, rfl⟩ := List.getElem_of_mem hv
    rw [← hvalue j hj]
    exact (hsafe j (by simpa using hj)).1
  · intro hoff j hj
    have hne : (s.followedRounded format b).detector.getSample j ≠ 0 := by
      rw [hvalue j (by simpa using hj)]
      exact hoff _ (List.getElem_mem _)
    refine ⟨hne, fun c hc => ?_⟩
    obtain ⟨d, hd⟩ := exists_number_of_ne_nan
      ((s.detector.valuesBy_ne_nan format hb h.detector).1 j hj)
    obtain ⟨v₁, h₁⟩ := exists_number_of_ne_nan
      ((s.envelope1.valuesBy_ne_nan format hb h.envelope1).1 j hj)
    obtain ⟨v₂, h₂⟩ := exists_number_of_ne_nan
      ((s.envelope2.valuesBy_ne_nan format hb h.envelope2).1 j hj)
    obtain ⟨x, hx⟩ := exists_number_of_ne_nan (hb.data c hc j hj)
    rw [s.processBlockRounded_data format b hc hj, hx]
    simp only [TransientSplitter.followedRounded] at hne ⊢
    rw [hd, zero_eq, Ne, WithNan.number.injEq] at hne
    rw [hd, h₁, h₂]
    exact mixSampleRounded_ne_nan format _ hne v₁ v₂ x

end TransientSplitter

/-! ## Runs -/

namespace ProcessorTransientSplitter

/-- All divisors of a block are other than zero, and all samples given back are numbers. -/
def DividesSafely (format : FloatFormat K) (p : ProcessorTransientSplitter K) : Event K → Prop
  | .processBlock b => ∀ j < b.numSamples,
      (p.transientSplitter.followedRounded format b).detector.getSample j ≠ 0 ∧
        ∀ c < b.numChannels, (p.processBlockRounded format b).2.data c j ≠ nan
  | .prepare _ => True
  | .parameterChanged _ _ => True

/-- All samples of a block keep the detector off zero. -/
def KeepsOffZero (format : FloatFormat K) (p : ProcessorTransientSplitter K) : Event K → Prop
  | .processBlock b => Scan.Meets (p.transientSplitter.detector.followBy format.mean)
      (p.transientSplitter.detector.StaysOffZero format) p.transientSplitter.detector.lastValue
      (Envelope.detected b)
  | .prepare _ => True
  | .parameterChanged _ _ => True

/-- A block has samples that are numbers, and a specification a positive rate. -/
def Event.Finite : Event K → Prop
  | .processBlock b => b.AllNumbers
  | .prepare spec => 0 < (spec.sampleRate : K)
  | .parameterChanged _ _ => True

/-- A value of a parameter leaves the detector and the stored values alone. -/
lemma parameterChanged_frame (exp : K → K) (p : ProcessorTransientSplitter K)
    (parameterID : ParameterId) (newValue : ℚ) :
    (p.parameterChanged exp parameterID newValue).transientSplitter.detector =
        p.transientSplitter.detector ∧
      (p.parameterChanged exp parameterID newValue).transientSplitter.envelope1 =
        p.transientSplitter.envelope1 ∧
      (p.parameterChanged exp parameterID newValue).transientSplitter.envelope2.lastValue =
        p.transientSplitter.envelope2.lastValue := by
  unfold parameterChanged setShaper
  split_ifs <;> exact ⟨rfl, rfl, rfl⟩

/-- **Every step keeps it so that the splitter has met numbers only.** -/
lemma metNumbers_step {format : FloatFormat K} {exp : K → K} {p p' : ProcessorTransientSplitter K}
    {e : Event K} (h : p.transientSplitter.MetNumbers) (he : e.Finite)
    (hs : p.stepRounded format exp e = some p') : p'.transientSplitter.MetNumbers := by
  cases e with
  | prepare spec =>
    obtain rfl := Option.some.inj hs
    exact ⟨h.attackTime, h.detector, h.envelope1, h.envelope2⟩
  | parameterChanged parameterID newValue =>
    obtain rfl := Option.some.inj hs
    obtain ⟨hd, h₁, h₂⟩ := p.parameterChanged_frame exp parameterID newValue
    exact ⟨hd ▸ h.attackTime, hd ▸ h.detector, h₁ ▸ h.envelope1, h₂ ▸ h.envelope2⟩
  | processBlock b =>
    obtain rfl := Option.some.inj hs
    exact h.followed format he

/-- A splitter that was constructed and prepared has met no sample. -/
lemma metNumbers_prepare (exp : K → K) (apvts : ParameterValues) (no : NetworkId)
    (spec : ProcessSpec) :
    ((construct exp apvts no).prepare exp spec).transientSplitter.MetNumbers := by
  rw [prepare, construct_transientSplitter]
  refine ⟨rfl, ?_, ?_, ?_⟩
  · exact fun h => by cases h
  · exact fun h => by cases h
  · exact fun h => by cases h

end ProcessorTransientSplitter

open ProcessorTransientSplitter in
/-- **When the splitter never divides by zero.** A splitter is constructed and prepared; blocks of
numbers, values of parameters and further calls of `prepare` follow in any order, and every result
is rounded to a floating-point format. No divisor of any block is zero, and all samples given back
are numbers, exactly if every sample keeps the detector off zero: it is not silence on a stored
value that is negative, and, unless it is above the stored value, the sum of the two products in
the weighted mean of the two does not underflow.

**Proof sketch.** The detector takes a rising value over and otherwise comes to the rounded mean.
All values met are numbers, and a quotient of numbers is one where the divisor is not zero. -/
theorem divides_safely_iff [IsStrictOrderedRing K] (format : FloatFormat K) (exp : K → K)
    (apvts : ParameterValues) (no : NetworkId) (spec : ProcessSpec) {es : List (Event K)}
    (hes : ∀ e ∈ es, e.Finite) :
    Transition.StepsMeet (stepRounded format exp) (DividesSafely format)
        ((construct exp apvts no).prepare exp spec) es ↔
      Transition.StepsMeet (stepRounded format exp) (KeepsOffZero format)
        ((construct exp apvts no).prepare exp spec) es := by
  refine Transition.stepsMeet_iff_of_invariant (D := fun _ e => e.Finite)
    (I := fun p : ProcessorTransientSplitter K => p.transientSplitter.MetNumbers)
    (fun _ _ _ h he hs => metNumbers_step h he hs) (fun p e h he => ?_)
    (metNumbers_prepare exp apvts no spec) (Transition.stepsMeet_of_forall _ hes)
  cases e with
  | prepare spec => exact Iff.rfl
  | parameterChanged parameterID newValue => exact Iff.rfl
  | processBlock b => exact h.divides_iff format he

/-- The values of the parameters that are declared. -/
def declaredValues : ParameterValues := ParameterId.defaultValue

/-- What `(float) std::exp` computes. -/
noncomputable def singleExp (y : ℝ) : ℝ := FloatFormat.singleRound (Real.exp y)

/-- The splitter of the first network, constructed and prepared at 48 kHz. -/
noncomputable def prepared48 : ProcessorTransientSplitter ℝ :=
  (ProcessorTransientSplitter.construct singleExp declaredValues .network1).prepare singleExp
    ⟨48000, 512, 1⟩

/-- Its detector has no attack time, has stored zero, and its coefficient is above 1/4. -/
lemma prepared48_detector : prepared48.transientSplitter.detector.attackTime = 0 ∧
    prepared48.transientSplitter.detector.lastValue = 0 ∧
    1 / 4 ≤ prepared48.transientSplitter.detector.releaseCoefficient := by
  unfold prepared48
  rw [ProcessorTransientSplitter.prepare,
    ProcessorTransientSplitter.construct_transientSplitter]
  refine ⟨rfl, rfl, ?_⟩
  have hcoefficient : 1 / 4 ≤ Envelope.coefficient singleExp (10 * (3 / 10)) (48000 : ℝ) := by
    have hexp : (1 / 2 : ℝ) ≤ Real.exp (-1 / (10 * (3 / 10) * 48000)) := by
      have hone := Real.add_one_le_exp (-1 / (10 * (3 / 10) * 48000) : ℝ)
      norm_num at hone ⊢
      linarith
    have hsmall : (2 : ℝ) ^ (-149 : ℤ) ≤ 1 / 2 := by norm_num
    have hround := FloatFormat.half_le_singleRound (hsmall.trans hexp)
    rw [Envelope.coefficient, if_neg (by norm_num), singleExp]
    linarith
  have hrate : ((48000 : ℚ) : ℝ) = 48000 := by norm_num
  show 1 / 4 ≤ Envelope.coefficient singleExp (10 * (3 / 10)) ((48000 : ℚ) : ℝ)
  rwa [hrate]

open ProcessorTransientSplitter in
/-- The theorem at work: in single precision, silence after a sample of one. -/
theorem divides_safely_fading :
    Transition.StepsMeet (stepRounded .single singleExp) (DividesSafely .single) prepared48
      [.processBlock (.single 1), .processBlock (.single 0)] := by
  obtain ⟨htime, hstored, hcoefficient⟩ := prepared48_detector
  have hnumbers : ∀ x : ℝ, (AudioBuffer.single x).AllNumbers := fun x =>
    ⟨by simp [AudioBuffer.single], fun c _ j _ h => by cases h⟩
  have hfinite : ∀ e ∈ ([.processBlock (.single 1), .processBlock (.single 0)] : List (Event ℝ)),
      e.Finite := by simp [Event.Finite, hnumbers]
  refine (divides_safely_iff .single singleExp declaredValues .network1 ⟨48000, 512, 1⟩
    hfinite).mpr fun p₁ h₁ => ⟨?_, fun p₂ _ => ⟨?_, trivial⟩⟩
  · -- the sample of one rises above the zero that is stored
    simp only [KeepsOffZero, Envelope.detected_single, Scan.Meets, and_true]
    rw [show ((construct singleExp declaredValues .network1).prepare singleExp
      ⟨48000, 512, 1⟩).transientSplitter.detector.lastValue = number 0 from hstored,
      Envelope.staysOffZero_number]
    exact ⟨fun h => lt_irrefl _ h.1, fun h => absurd h.1 (by norm_num)⟩
  · -- one is stored, and its share in the mean does not underflow
    obtain rfl := Option.some.inj h₁
    have hlast : (prepared48.transientSplitter.detector.processBlockBy FloatFormat.single.mean
        (.single 1)).lastValue = number 1 := by
      rw [(Envelope.processBlockBy_single _ _ _).2, hstored, zero_eq]
      simp [Envelope.followBy, htime]
    have hkept : (prepared48.transientSplitter.detector.processBlockBy FloatFormat.single.mean
        (.single 1)).releaseCoefficient =
          prepared48.transientSplitter.detector.releaseCoefficient := by
      rw [Envelope.processBlockBy_eq]
    simp only [KeepsOffZero, Envelope.detected_single, Scan.Meets, and_true]
    show (prepared48.transientSplitter.detector.processBlockBy FloatFormat.single.mean
      (.single 1)).StaysOffZero .single (prepared48.transientSplitter.detector.processBlockBy
        FloatFormat.single.mean (.single 1)).lastValue (number 0)
    rw [hlast, Envelope.staysOffZero_number, hkept]
    refine ⟨fun h => absurd h.1 (by norm_num), fun h => absurd h.2 (not_le.mpr ?_)⟩
    set r := prepared48.transientSplitter.detector.releaseCoefficient
    have hsmall : (2 : ℝ) ^ (-149 : ℤ) ≤ 1 / 4 := by norm_num
    have hround : r / 2 ≤ FloatFormat.singleRound r :=
      FloatFormat.half_le_singleRound (hsmall.trans hcoefficient)
    have hsum : (FloatFormat.single : FloatFormat ℝ).meanSum r 1 0 =
        FloatFormat.singleRound r := by
      simp only [FloatFormat.meanSum, FloatFormat.single, mul_one, mul_zero,
        FloatFormat.singleRound_zero, add_zero]
    have hunderflow : (FloatFormat.single : FloatFormat ℝ).underflow < 1 / 8 := by
      norm_num [FloatFormat.single]
    rw [hsum]
    refine lt_of_lt_of_le hunderflow (le_trans ?_ (le_abs_self _))
    linarith

open ProcessorTransientSplitter in
/-- A block that begins with silence: the detector is zero, and the sample given back is NaN. -/
theorem silence_divides_by_zero :
    ¬ Transition.StepsMeet (stepRounded .single singleExp) (DividesSafely .single) prepared48
      [.processBlock (.single 0)] := by
  obtain ⟨htime, hstored, -⟩ := prepared48_detector
  intro h
  have hsafe := (h _ rfl).1 0 (by simp [AudioBuffer.single])
  refine hsafe.1 ?_
  simp only [TransientSplitter.followedRounded]
  rw [(Envelope.processBlockBy_single _ _ _).1, hstored]
  by_contra hne
  have hoff := (Envelope.followBy_ne_zero_iff .single _ htime (fun h => by cases h)
    (fun h => by cases h)).mp hne
  rw [zero_eq, Envelope.staysOffZero_number] at hoff
  refine hoff.2 ⟨le_refl 0, ?_⟩
  simp only [FloatFormat.meanSum, FloatFormat.single, mul_zero, FloatFormat.singleRound_zero,
    add_zero, abs_zero]
  exact (zpow_pos two_pos _).le
