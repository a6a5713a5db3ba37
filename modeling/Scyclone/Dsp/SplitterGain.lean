import Scyclone.Dsp.SplitterDivisor

set_option relaxedAutoImplicit false
set_option autoImplicit false

/-!
# The gain of the transient splitter

The splitter multiplies each sample by a mean of two gains, which `parameterChanged` derives from
the value of the shaper. The declared range of the shaper reaches down to -1; the gain of the
sustain is twice the value below 1/2.

## Main definitions

* `ProcessorTransientSplitter.Attenuates` — the samples of a block are multiplied by means of the
  two gains that lie between 0 and 1.
* `ProcessorTransientSplitter.ShaperNotNegative` — the value of the shaper in force is not
  negative.

## Main results

* `ProcessorTransientSplitter.Shaped.attenuates` — the direction that holds in every state.
* `TransientSplitter.Numeric.exists_gain_neg` — a negative value lets a sample through with the
  opposite sign.
* `attenuates_iff` — both, for every run.
-/

open WithNan

variable {K : Type} [Field K] [LinearOrder K]

/-- The values of a follower for a block of numbers are numbers, and so is the one it stores. -/
lemma Envelope.values_ne_nan (e : Envelope K) {b : AudioBuffer (WithNan K)} (h : b.AllNumbers)
    (hl : e.lastValue ≠ nan) :
    (∀ j < b.numSamples, (e.processBlock b).getSample j ≠ nan) ∧
      (e.processBlock b).lastValue ≠ nan := by
  obtain ⟨hall, hlast⟩ := Scan.forall_states (I := fun l => l ≠ nan) (C := fun d => d ≠ nan)
    (fun l d hl hd => e.follow_ne_nan_of_ne hl hd) hl fun d hd => h.detected_ne_nan hd
  refine ⟨fun j hj => ?_, by rwa [processBlock_lastValue]⟩
  have hlen : j < (Scan.states e.follow e.lastValue (detected b)).length := by simpa using hj
  rw [e.getSample_processBlock b hlen]
  exact hall _ (List.getElem_mem hlen)

namespace TransientSplitter

/-- A prepared splitter that has met numbers only. -/
structure Numeric (s : TransientSplitter K) : Prop where
  attackTime : s.detector.attackTime = 0
  releaseTime_pos : 0 < s.detector.releaseTime
  release_pos : 0 < s.detector.releaseCoefficient
  release_lt_one : s.detector.releaseCoefficient < 1
  detector : s.detector.lastValue ≠ nan
  envelope1 : s.envelope1.lastValue ≠ nan
  envelope2 : s.envelope2.lastValue ≠ nan

/-- A block of numbers keeps it so. -/
lemma Numeric.followed {s : TransientSplitter K} (h : Numeric s) {b : AudioBuffer (WithNan K)}
    (hb : b.AllNumbers) : Numeric (s.followed b) := by
  have hd := (s.detector.values_ne_nan hb h.detector).2
  have h₁ := (s.envelope1.values_ne_nan hb h.envelope1).2
  have h₂ := (s.envelope2.values_ne_nan hb h.envelope2).2
  refine ⟨?_, ?_, ?_, ?_, hd, h₁, h₂⟩
  · simpa [TransientSplitter.followed, Envelope.processBlock_eq] using h.attackTime
  · simpa [TransientSplitter.followed, Envelope.processBlock_eq] using h.releaseTime_pos
  · simpa [TransientSplitter.followed, Envelope.processBlock_eq] using h.release_pos
  · simpa [TransientSplitter.followed, Envelope.processBlock_eq] using h.release_lt_one

end TransientSplitter

namespace ProcessorTransientSplitter

/-- Where the detector is a number other than zero, the samples of a block are multiplied by a
mean of the two gains that lies between 0 and 1. -/
def Attenuates (p : ProcessorTransientSplitter K) : Event K → Prop
  | .processBlock b => ∀ j < b.numSamples, ∀ d ≠ (0 : K),
      (p.transientSplitter.followed b).detector.getSample j = number d →
      ∃ share, 0 ≤ share ∧ share ≤ 1 ∧
        0 ≤ TransientSplitter.gain p.transientSplitter.parameter share ∧
        TransientSplitter.gain p.transientSplitter.parameter share ≤ 1 ∧
        ∀ c < b.numChannels, (p.processBlock b).2.data c j =
          number (TransientSplitter.gain p.transientSplitter.parameter share) * b.data c j
  | .prepare _ => True
  | .parameterChanged _ _ => True

/-- A block comes while the value of the shaper in force is not negative: the gain of the sustain
is twice that value or 1. -/
def ShaperNotNegative (p : ProcessorTransientSplitter K) : Event K → Prop
  | .processBlock _ => 0 ≤ p.transientSplitter.parameter.sustain
  | .prepare _ => True
  | .parameterChanged _ _ => True

/-- **Every step keeps the splitter numeric.** -/
lemma numeric_step [IsStrictOrderedRing K] {exp : K → K} (hexp : ExpLaws exp)
    {p p' : ProcessorTransientSplitter K} {e : Event K} (h : p.transientSplitter.Numeric)
    (he : e.Finite) (hs : p.step exp e = some p') : p'.transientSplitter.Numeric := by
  cases e with
  | prepare spec =>
    obtain rfl := Option.some.inj hs
    have hrelease : 0 < p.transientSplitter.detector.releaseTime := h.releaseTime_pos
    refine ⟨h.attackTime, hrelease, ?_, ?_, h.detector, h.envelope1, h.envelope2⟩
    · exact Envelope.coefficient_pos hexp hrelease he
    · exact (Envelope.coefficient_bounds hexp hrelease.le (le_of_lt he)).2
  | parameterChanged parameterID newValue =>
    obtain rfl := Option.some.inj hs
    obtain ⟨hd, h₁, h₂⟩ := p.parameterChanged_frame exp parameterID newValue
    exact ⟨hd ▸ h.attackTime, hd ▸ h.releaseTime_pos, hd ▸ h.release_pos, hd ▸ h.release_lt_one,
      hd ▸ h.detector, h₁ ▸ h.envelope1, h₂ ▸ h.envelope2⟩
  | processBlock b =>
    obtain rfl := Option.some.inj hs
    exact h.followed he

/-- A splitter that was constructed and prepared is numeric. -/
lemma numeric_prepare [IsStrictOrderedRing K] {exp : K → K} (hexp : ExpLaws exp)
    (apvts : ParameterValues) (no : NetworkId) {spec : ProcessSpec}
    (hrate : 0 < (spec.sampleRate : K)) :
    ((construct exp apvts no).prepare exp spec).transientSplitter.Numeric := by
  have htime : (0 : K) < 10 * (3 / 10) := by norm_num
  rw [prepare, construct_transientSplitter]
  refine ⟨rfl, htime, Envelope.coefficient_pos hexp htime hrate,
    (Envelope.coefficient_bounds hexp htime.le hrate.le).2, ?_, ?_, ?_⟩
  · exact fun h => by cases h
  · exact fun h => by cases h
  · exact fun h => by cases h

/-- A value of a parameter is in the range that the parameter declares. -/
def Event.InRange : Event K → Prop
  | .parameterChanged parameterID newValue => parameterID.inRange newValue = true
  | .prepare _ => True
  | .processBlock _ => True

/-- What every reachable splitter has in common. -/
structure Shaped (p : ProcessorTransientSplitter K) : Prop where
  attack_nonneg : 0 ≤ p.transientSplitter.parameter.attack
  attack_le_one : p.transientSplitter.parameter.attack ≤ 1
  sustain_le_one : p.transientSplitter.parameter.sustain ≤ 1
  attack_of_sustain : p.transientSplitter.parameter.sustain < 0 →
    p.transientSplitter.parameter.attack = 1
  attackTime : p.transientSplitter.detector.attackTime = 0
  releaseTime : p.transientSplitter.envelope2.releaseTime =
    p.transientSplitter.envelope1.releaseTime
  releaseCoefficient : p.transientSplitter.envelope2.releaseCoefficient =
    p.transientSplitter.envelope1.releaseCoefficient
  envelope1 : p.transientSplitter.envelope1.lastValue = nan →
    p.transientSplitter.detector.lastValue = nan
  envelope2 : p.transientSplitter.envelope2.lastValue = nan →
    p.transientSplitter.detector.lastValue = nan

end ProcessorTransientSplitter

/-! ## Followers of the same stream -/

/-- Where a follower gives NaN, so does one without an attack time that follows the same stream,
if that is so for their stored values.

**Proof sketch.** A follower without an attack time is NaN exactly if its stored value or a sample
it has met is, and any other follower turns numbers into numbers. -/
lemma Envelope.getSample_ne_nan {e d : Envelope K} (h : d.attackTime = 0)
    (hl : e.lastValue = nan → d.lastValue = nan) (b : AudioBuffer (WithNan K)) :
    (∀ j < b.numSamples, (e.processBlock b).getSample j = nan →
      (d.processBlock b).getSample j = nan) ∧
    ((e.processBlock b).lastValue = nan → (d.processBlock b).lastValue = nan) := by
  have hfold : ∀ ds : List (WithNan K), ds.foldl e.follow e.lastValue = nan →
      ds.foldl d.follow d.lastValue = nan := by
    intro ds hnan
    rw [Scan.foldl_iff_exists (P := fun l => l = nan) (Q := fun x => x = nan)
      (d.follow_eq_nan h)]
    by_contra hno
    rw [not_or] at hno
    have hlast : e.lastValue ≠ nan := fun hnan => hno.1 (hl hnan)
    have hds : ∀ x ∈ ds, x ≠ nan := fun x hx hnan => hno.2 ⟨x, hx, hnan⟩
    exact (Scan.forall_states (I := fun l => l ≠ nan) (C := fun x => x ≠ nan)
      (fun l x hl hx => e.follow_ne_nan_of_ne hl hx) hlast hds).2 hnan
  constructor
  · intro j hj
    have hlen : j < (Envelope.detected b).length := by simpa using hj
    rw [e.getSample_processBlock b (by simpa using hj),
      d.getSample_processBlock b (by simpa using hj),
      Scan.getElem_states _ _ _ _ hlen, Scan.getElem_states _ _ _ _ hlen]
    intro hnan
    rw [d.follow_eq_nan h]
    by_contra hno
    rw [not_or] at hno
    refine e.follow_ne_nan_of_ne (fun hl => hno.1 (hfold _ hl)) hno.2 hnan
  · rw [processBlock_lastValue, processBlock_lastValue]
    exact hfold _

namespace ProcessorTransientSplitter

variable [IsStrictOrderedRing K]

/-- **With a gain of the sustain that is not negative a block is attenuated.**

**Proof sketch.** Where the detector has a number all three followers have, and the gain is the mean
of attack and sustain weighted with the share of the attack. Both lie between 0 and 1. -/
lemma Shaped.attenuates {p : ProcessorTransientSplitter K} (h : p.Shaped)
    (hs : 0 ≤ p.transientSplitter.parameter.sustain) (b : AudioBuffer (WithNan K)) :
    p.Attenuates (.processBlock b) := by
  intro j hj d hd hdetector
  have hnumber : ∀ e : Envelope K, (e.lastValue = nan →
      p.transientSplitter.detector.lastValue = nan) →
      ∃ v, (e.processBlock b).getSample j = number v := by
    intro e he
    refine exists_number_of_ne_nan fun hnan => ?_
    have hspoilt := (Envelope.getSample_ne_nan h.attackTime he b).1 j hj hnan
    simp only [TransientSplitter.followed] at hdetector
    rw [hspoilt] at hdetector
    cases hdetector
  obtain ⟨v₁, h₁⟩ := hnumber _ h.envelope1
  obtain ⟨v₂, h₂⟩ := hnumber _ h.envelope2
  have hshare := TransientSplitter.attackShare_nonneg d v₁ v₂
  have hshare' := TransientSplitter.attackShare_le_one d v₁ v₂
  refine ⟨TransientSplitter.attackShare d v₁ v₂, hshare, hshare', ?_, ?_, fun c hc => ?_⟩
  · exact add_nonneg (mul_nonneg hshare h.attack_nonneg) (mul_nonneg (sub_nonneg.mpr hshare') hs)
  · have ha := mul_le_mul_of_nonneg_left h.attack_le_one hshare
    have hb := mul_le_mul_of_nonneg_left h.sustain_le_one (sub_nonneg.mpr hshare')
    unfold TransientSplitter.gain
    linarith
  · simp only [processBlock]
    rw [p.transientSplitter.processBlock_data b hc hj, hdetector]
    simp only [TransientSplitter.followed]
    rw [h₁, h₂, TransientSplitter.mixSample_eq _ hd]

/-- A value of the shaper sets gains of at most 1, and only a negative one a negative gain. -/
lemma Shaped.setShaper {p : ProcessorTransientSplitter K} (h : p.Shaped) {v : K} (hv : v ≤ 1) :
    (p.setShaper v).Shaped := by
  unfold ProcessorTransientSplitter.setShaper
  split_ifs with hlt
  · exact ⟨zero_le_one, le_refl 1, by
      simp only [TransientSplitter.setSustain]; linarith, fun _ => rfl, h.attackTime,
      h.releaseTime, h.releaseCoefficient, h.envelope1, h.envelope2⟩
  · have hge : 1 / 2 ≤ v := not_lt.mp hlt
    refine ⟨?_, ?_, le_refl 1, fun hneg => absurd hneg (not_lt.mpr zero_le_one), h.attackTime,
      h.releaseTime, h.releaseCoefficient, h.envelope1, h.envelope2⟩
    · simp only [TransientSplitter.setSustain, TransientSplitter.setAttack]
      linarith
    · simp only [TransientSplitter.setSustain, TransientSplitter.setAttack]
      linarith

/-- **Every step keeps what reachable splitters have in common.**

**Proof sketch.** The shaper is the only call that sets the gains, in `Shaped.setShaper`. A block
leaves NaN in a follower only where the detector has it too, by `Envelope.getSample_ne_nan`. -/
lemma Shaped.step {exp : K → K} {p p' : ProcessorTransientSplitter K} {e : Event K} (h : p.Shaped)
    (he : e.InRange) (hs : p.step exp e = some p') : p'.Shaped := by
  cases e with
  | prepare spec =>
    obtain rfl := Option.some.inj hs
    refine ⟨h.attack_nonneg, h.attack_le_one, h.sustain_le_one, h.attack_of_sustain, h.attackTime,
      h.releaseTime, ?_, h.envelope1, h.envelope2⟩
    show Envelope.coefficient exp p.transientSplitter.envelope2.releaseTime _ =
      Envelope.coefficient exp p.transientSplitter.envelope1.releaseTime _
    rw [h.releaseTime]
    rfl
  | parameterChanged parameterID newValue =>
    obtain rfl := Option.some.inj hs
    unfold parameterChanged
    split_ifs with htime hshaper honoff
    · exact ⟨h.attack_nonneg, h.attack_le_one, h.sustain_le_one, h.attack_of_sustain, h.attackTime,
        h.releaseTime, h.releaseCoefficient, h.envelope1, h.envelope2⟩
    · refine h.setShaper ?_
      have hrange : parameterID.inRange newValue = true := he
      rw [hshaper] at hrange
      have hle : newValue ≤ 1 := by
        simp only [ParameterId.inRange, NormalisableRange.contains, ParameterId.range,
          Bool.and_eq_true] at hrange
        exact of_decide_eq_true hrange.1.2
      exact_mod_cast hle
    · exact ⟨h.attack_nonneg, h.attack_le_one, h.sustain_le_one, h.attack_of_sustain, h.attackTime,
        h.releaseTime, h.releaseCoefficient, h.envelope1, h.envelope2⟩
    · exact h
  | processBlock b =>
    obtain rfl := Option.some.inj hs
    have h₁ := (Envelope.getSample_ne_nan h.attackTime h.envelope1 b).2
    have h₂ := (Envelope.getSample_ne_nan h.attackTime h.envelope2 b).2
    refine ⟨h.attack_nonneg, h.attack_le_one, h.sustain_le_one, h.attack_of_sustain, ?_, ?_, ?_,
      h₁, h₂⟩
    · simpa [processBlock, TransientSplitter.followed, Envelope.processBlock_eq] using h.attackTime
    · simpa [processBlock, TransientSplitter.followed, Envelope.processBlock_eq] using
        h.releaseTime
    · simpa [processBlock, TransientSplitter.followed, Envelope.processBlock_eq] using
        h.releaseCoefficient

/-- A splitter that was constructed and prepared. -/
lemma shaped_prepare (exp : K → K) (apvts : ParameterValues) (no : NetworkId)
    (spec : ProcessSpec) : ((construct exp apvts no).prepare exp spec).Shaped := by
  rw [prepare, construct_transientSplitter]
  refine ⟨zero_le_one, le_refl 1, ?_, fun _ => rfl, rfl, rfl, rfl, fun h => (by cases h),
    fun h => (by cases h)⟩
  simp only [TransientSplitter.prepare]
  split_ifs with hlt
  · linarith
  · exact le_refl 1

end ProcessorTransientSplitter

/-! ## A negative gain of the sustain -/

namespace TransientSplitter

variable [IsStrictOrderedRing K]

/-- A follower that releases comes as far below zero as is asked for, with a sample that is below
zero and below given values. -/
lemma exists_release_lt {r : K} (hr0 : 0 < r) (hr1 : r < 1) {far : K} (hfar : 0 ≤ far)
    (l l₁ l₂ : K) : ∃ x < 0, x ≤ l ∧ x ≤ l₁ ∧ x ≤ l₂ ∧ r * l + (1 - r) * x < -far := by
  have hs : 0 < 1 - r := sub_pos.mpr hr1
  have habs := abs_nonneg l
  have habs₁ := abs_nonneg l₁
  have habs₂ := abs_nonneg l₂
  obtain ⟨m, hm⟩ : ∃ m, m = (far + |l| + 1) / (1 - r) + |l| + |l₁| + |l₂| + 1 := ⟨_, rfl⟩
  have hquot : 0 ≤ (far + |l| + 1) / (1 - r) := div_nonneg (by linarith) hs.le
  have hbelow : ∀ v, |v| ≤ m → -m ≤ v := fun v hv => (abs_le.mp hv).1
  refine ⟨-m, by linarith, hbelow l (by linarith), hbelow l₁ (by linarith),
    hbelow l₂ (by linarith), ?_⟩
  have hmul : far + |l| + 1 ≤ (1 - r) * m := by
    have hle : (far + |l| + 1) / (1 - r) ≤ m := by linarith
    rw [div_le_iff₀ hs] at hle
    linarith
  have hrl : r * l ≤ |l| := by
    have hone : r * |l| ≤ 1 * |l| := mul_le_mul_of_nonneg_right hr1.le habs
    have hself : r * l ≤ r * |l| := mul_le_mul_of_nonneg_left (le_abs_self l) hr0.le
    linarith
  linarith

/-- The share of the attack is small where the detector is far from zero. -/
lemma attackShare_mul_lt {detector envelope1 envelope2 σ : K} (hσ : σ < 0)
    (hfar : |envelope1 - envelope2| * (1 - σ) / -σ < |detector|) :
    attackShare detector envelope1 envelope2 * (1 - σ) < -σ := by
  have hσ0 : 0 < -σ := neg_pos.mpr hσ
  have hone : 0 < 1 - σ := by linarith
  have hpos : 0 < |detector| :=
    (div_nonneg (mul_nonneg (abs_nonneg _) hone.le) hσ0.le).trans_lt hfar
  have hlt : |envelope1 - envelope2| * (1 - σ) < -σ * |detector| := by
    rw [div_lt_iff₀ hσ0] at hfar
    linarith
  calc attackShare detector envelope1 envelope2 * (1 - σ)
      ≤ |envelope1 - envelope2| / |detector| * (1 - σ) :=
        mul_le_mul_of_nonneg_right (min_le_left _ _) hone.le
    _ = |envelope1 - envelope2| * (1 - σ) / |detector| := by ring
    _ < -σ := by rwa [div_lt_iff₀ hpos]

/-- **A negative gain of the sustain lets a sample through with the opposite sign.**

**Proof sketch.** The two followers for the share of the attack release alike, so a sample far
below zero leaves their difference as it is, while it takes the detector far from zero. The share
becomes so small that the sustain prevails. -/
lemma Numeric.exists_gain_neg {s : TransientSplitter K} (h : Numeric s)
    (hrelease : s.envelope2.releaseCoefficient = s.envelope1.releaseCoefficient)
    (hattack : s.parameter.attack = 1) (hsustain : s.parameter.sustain < 0) :
    ∃ x < 0, ∃ d ≠ (0 : K), ∃ g < 0,
      (s.followed (.single x)).detector.getSample 0 = number d ∧
      (s.processBlock (.single x)).2.data 0 0 = number (g * x) := by
  obtain ⟨l, hl⟩ := exists_number_of_ne_nan h.detector
  obtain ⟨l₁, hl₁⟩ := exists_number_of_ne_nan h.envelope1
  obtain ⟨l₂, hl₂⟩ := exists_number_of_ne_nan h.envelope2
  obtain ⟨q, hq⟩ : ∃ q, q = s.envelope1.releaseCoefficient := ⟨_, rfl⟩
  -- the difference of the two followers, and how far the detector has to be from zero
  obtain ⟨far, hfar⟩ : ∃ far, far = |q * (l₁ - l₂)| * (1 - s.parameter.sustain) /
      -s.parameter.sustain := ⟨_, rfl⟩
  have hfar0 : 0 ≤ far := by
    rw [hfar]
    exact div_nonneg (mul_nonneg (abs_nonneg _) (by linarith)) (by linarith)
  obtain ⟨x, hx, hxl, hx₁, hx₂, hdet⟩ :=
    exists_release_lt h.release_pos h.release_lt_one hfar0 l l₁ l₂
  have hd := Envelope.getSample_single_of_le hl hxl
  have h₁ := Envelope.getSample_single_of_le hl₁ hx₁
  have h₂ := Envelope.getSample_single_of_le hl₂ hx₂
  rw [hrelease] at h₂
  rw [← hq] at h₁ h₂
  obtain ⟨d, hd'⟩ : ∃ d, d = s.detector.releaseCoefficient * l +
      (1 - s.detector.releaseCoefficient) * x := ⟨_, rfl⟩
  rw [← hd'] at hd hdet
  have hneg : d < 0 := by linarith
  have hlarge : |q * l₁ + (1 - q) * x - (q * l₂ + (1 - q) * x)| * (1 - s.parameter.sustain) /
      -s.parameter.sustain < |d| := by
    have hdiff : q * l₁ + (1 - q) * x - (q * l₂ + (1 - q) * x) = q * (l₁ - l₂) := by ring
    rw [hdiff, ← hfar, abs_of_neg hneg]
    linarith
  have hshare := attackShare_mul_lt hsustain hlarge
  refine ⟨x, hx, d, hneg.ne, gain s.parameter
    (attackShare d (q * l₁ + (1 - q) * x) (q * l₂ + (1 - q) * x)), ?_, hd, ?_⟩
  · unfold gain
    rw [hattack]
    linarith
  · rw [s.processBlock_data _ (by simp [AudioBuffer.single]) (by simp [AudioBuffer.single])]
    show mixSample s.parameter ((s.detector.processBlock _).getSample 0)
      ((s.envelope1.processBlock _).getSample 0) ((s.envelope2.processBlock _).getSample 0) _ = _
    rw [hd, h₁, h₂, mixSample_eq _ hneg.ne]
    rfl

end TransientSplitter

/-! ## Runs -/

open ProcessorTransientSplitter in
/-- **When the splitter attenuates.** A splitter is constructed and prepared; blocks, values of
parameters within their ranges and further calls of `prepare` follow in any order. If the value of
the shaper in force is not negative when a block comes, then in all blocks each sample whose
detector value is a number other than zero is multiplied by a mean of the two gains that lies
between 0 and 1. And in every state that a run of blocks of numbers leads to, this holds for
every block exactly if the value of the shaper in force is not negative.

**Proof sketch.** The gain of the attack is at most 1 and never negative in the range of the
shaper, and the gain of the sustain is at most 1. A mean of the two lies between 0 and 1 if the
second is not negative either. If it is negative, the gain of the attack is 1, and
`TransientSplitter.Numeric.exists_gain_neg` has a sample that comes back with the opposite
sign. -/
theorem attenuates_iff [IsStrictOrderedRing K] {exp : K → K} (hexp : ExpLaws exp)
    (apvts : ParameterValues) (no : NetworkId) {spec : ProcessSpec}
    (hrate : 0 < (spec.sampleRate : K)) {es : List (Event K)} (hes : ∀ e ∈ es, e.InRange) :
    (Transition.StepsMeet (step exp) ShaperNotNegative
        ((construct exp apvts no).prepare exp spec) es →
      Transition.StepsMeet (step exp) Attenuates ((construct exp apvts no).prepare exp spec) es) ∧
    ((∀ e ∈ es, e.Finite) → ∀ p,
      Transition.exec (step exp) ((construct exp apvts no).prepare exp spec) es = some p →
      ((∀ b, p.Attenuates (.processBlock b)) ↔ 0 ≤ p.transientSplitter.parameter.sustain)) := by
  have hshaped := shaped_prepare exp apvts no spec
  constructor
  · intro hsteps
    have hboth : Transition.StepsMeet (step exp) (fun p e => e.InRange ∧ p.ShaperNotNegative e)
        ((construct exp apvts no).prepare exp spec) es :=
      (Transition.stepsMeet_of_forall _ hes).and hsteps
    refine (Transition.stepsMeet_iff_of_invariant (fun _ _ _ h he hs => h.step he.1 hs)
      (fun p e h he => ?_) hshaped hboth).mpr hboth
    · refine iff_of_true ?_ he
      cases e with
      | processBlock b => exact h.attenuates he.2 b
      | prepare spec => trivial
      | parameterChanged parameterID newValue => trivial
  · intro hfinite p hp
    have hreached : p.Shaped ∧ p.transientSplitter.Numeric :=
      (Transition.always_of_stepsMeet (I := fun p => p.Shaped ∧ p.transientSplitter.Numeric)
        (C := fun _ e => e.InRange ∧ e.Finite)
        (fun _ _ _ h he hs => ⟨h.1.step he.1 hs, numeric_step hexp h.2 he.2 hs⟩)
        ⟨hshaped, numeric_prepare hexp apvts no hrate⟩
        (Transition.stepsMeet_of_forall _ fun e he => ⟨hes e he, hfinite e he⟩)).last hp
    refine ⟨fun hall => ?_, fun hs b => hreached.1.attenuates hs b⟩
    by_contra hneg
    have hsustain := not_le.mp hneg
    obtain ⟨x, hx, d, hd, g, hg, hdetector, hout⟩ :=
      hreached.2.exists_gain_neg hreached.1.releaseCoefficient
        (hreached.1.attack_of_sustain hsustain) hsustain
    obtain ⟨share, -, -, hnonneg, -, hgain⟩ :=
      hall (.single x) 0 (by simp [AudioBuffer.single]) d hd hdetector
    have hsame := hgain 0 (by simp [AudioBuffer.single])
    have hvalue : (p.processBlock (.single x)).2.data 0 0 = number (g * x) := hout
    rw [hvalue] at hsame
    have heq : g * x = TransientSplitter.gain p.transientSplitter.parameter share * x :=
      WithNan.number.inj hsame
    have hgain' := mul_right_cancel₀ hx.ne heq
    rw [← hgain'] at hnonneg
    exact absurd hg (not_lt.mpr hnonneg)

namespace ProcessorTransientSplitter

/-- A splitter of the first network, prepared at 48 kHz. -/
noncomputable def prepared : ProcessorTransientSplitter ℝ :=
  (construct Real.exp declaredValues .network1).prepare Real.exp ⟨48000, 512, 1⟩

/-- The splitter after a value of its shaper. -/
lemma prepared_parameterChanged (newValue : ℚ) :
    prepared.parameterChanged Real.exp (.tranShaper .network1) newValue =
      prepared.setShaper newValue := by
  have hindex : prepared.index = .network1 := construct_index _ _ _
  rw [← parameterChanged_tranShaper Real.exp prepared newValue, hindex]

/-- The theorem at work: the shaper is set to its maximum, and a block comes. -/
theorem attenuates_at_maximum :
    Transition.StepsMeet (step Real.exp) Attenuates prepared
      [.parameterChanged (.tranShaper .network1) 1, .processBlock (.single 1)] := by
  refine (attenuates_iff expLaws_real declaredValues .network1 (by norm_num) (by
    intro e he
    simp only [List.mem_cons, List.not_mem_nil, or_false] at he
    rcases he with rfl | rfl
    · show (ParameterId.tranShaper .network1).inRange 1 = true
      decide +kernel
    · trivial)).1 fun p₁ h₁ => ⟨trivial, fun p₂ h₂ => ⟨?_, trivial⟩⟩
  have hset := prepared_parameterChanged 1
  obtain rfl := Option.some.inj h₁
  have hlt : ¬ ((1 : ℚ) : ℝ) < 1 / 2 := by norm_num
  show 0 ≤ (prepared.parameterChanged Real.exp (.tranShaper .network1)
    1).transientSplitter.parameter.sustain
  rw [hset, setShaper, if_neg hlt]
  exact zero_le_one

/-- The stored values of the prepared splitter are zero. -/
lemma prepared_lastValue :
    prepared.transientSplitter.detector.lastValue = number 0 ∧
      prepared.transientSplitter.envelope1.lastValue = number 0 ∧
      prepared.transientSplitter.envelope2.lastValue = number 0 := by
  rw [prepared, prepare, construct_transientSplitter]
  exact ⟨rfl, rfl, rfl⟩

/-- The shaper is set to -1, its minimum, and the sample -1 comes: 2 is given back. -/
theorem negative_shaper_amplifies :
    ¬ Transition.StepsMeet (step Real.exp) Attenuates prepared
      [.parameterChanged (.tranShaper .network1) (-1), .processBlock (.single (-1))] := by
  intro h
  have hset := prepared_parameterChanged (-1)
  have hlt : ((-1 : ℚ) : ℝ) < 1 / 2 := by norm_num
  rw [setShaper, if_pos hlt] at hset
  have hstep : step Real.exp prepared (.parameterChanged (.tranShaper .network1) (-1)) =
      some (prepared.parameterChanged Real.exp (.tranShaper .network1) (-1)) := rfl
  obtain ⟨-, hrest⟩ := h.head hstep
  obtain ⟨hblock, -⟩ := hrest.head rfl
  rw [hset] at hblock
  obtain ⟨hl, hl₁, hl₂⟩ := prepared_lastValue
  have hnumeric : prepared.transientSplitter.Numeric :=
    numeric_prepare expLaws_real declaredValues .network1 (by norm_num)
  have hrelease : prepared.transientSplitter.envelope2.releaseCoefficient =
      prepared.transientSplitter.envelope1.releaseCoefficient :=
    (shaped_prepare Real.exp declaredValues .network1 ⟨48000, 512, 1⟩).releaseCoefficient
  have hd := Envelope.getSample_single_of_le hl (x := -1) (by norm_num)
  have h₁ := Envelope.getSample_single_of_le hl₁ (x := -1) (by norm_num)
  have h₂ := Envelope.getSample_single_of_le hl₂ (x := -1) (by norm_num)
  rw [hrelease] at h₂
  have hne : prepared.transientSplitter.detector.releaseCoefficient * 0 +
      (1 - prepared.transientSplitter.detector.releaseCoefficient) * -1 ≠ 0 := by
    have := hnumeric.release_lt_one
    intro hzero
    linarith
  obtain ⟨share, -, -, hnonneg, -, hgain⟩ :=
    hblock 0 (by simp [AudioBuffer.single]) _ hne hd
  have hout := hgain 0 (by simp [AudioBuffer.single])
  simp only [processBlock] at hout
  rw [TransientSplitter.processBlock_data _ _ (by simp [AudioBuffer.single])
    (by simp [AudioBuffer.single])] at hout
  change TransientSplitter.mixSample _
    ((prepared.transientSplitter.detector.processBlock _).getSample 0)
    ((prepared.transientSplitter.envelope1.processBlock _).getSample 0)
    ((prepared.transientSplitter.envelope2.processBlock _).getSample 0) _ = _ at hout
  rw [hd, h₁, h₂, TransientSplitter.mixSample_eq _ hne] at hout
  have hgains := mul_right_cancel₀ (show (-1 : ℝ) ≠ 0 by norm_num) (WithNan.number.inj hout)
  have hshare : ∀ d e : ℝ, TransientSplitter.attackShare d e e = 0 := fun d e => by
    simp [TransientSplitter.attackShare]
  have hsustain : ∀ q : TransientSplitterParameter ℝ, TransientSplitter.gain q 0 = q.sustain :=
    fun q => by simp [TransientSplitter.gain]
  rw [hshare, hsustain] at hgains
  rw [← hgains] at hnonneg
  have hnegative : ¬ (0 : ℝ) ≤ ((-1 : ℚ) : ℝ) * 2 := by norm_num
  exact hnegative hnonneg

end ProcessorTransientSplitter
