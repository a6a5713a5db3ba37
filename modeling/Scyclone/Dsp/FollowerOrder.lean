import Mathlib.Tactic.Linarith
import Scyclone.Dsp.SplitterDivisor

set_option relaxedAutoImplicit false
set_option autoImplicit false

/-!
# The order of the three followers

The detector of the transient splitter releases more slowly than its two followers, and the second
of these attacks more slowly than the first. So the detector stays above the first follower, and
that above the second one.

## Main definitions

* `Envelope.move` — one pass of a follower on numbers.
* `ExpRises` — what the order rests on in the exponential.
* `TransientSplitter.Event`, `TransientSplitter.step` — the calls between and with blocks.
* `TransientSplitter.Ordered` — the coefficients and the stored values, in every reachable state.

## Main results

* `Envelope.move_le_move` — a pass preserves the order of the states and of the coefficients.
* `Envelope.foldl_follow_le`, `Envelope.foldl_follow_bounds` — the followers over a stream.
* `followers_ordered` — the followers in every run.
-/

open WithNan

variable {K : Type} [Field K] [LinearOrder K]

/-! ## One pass -/

namespace Envelope

/-- One pass of a follower: a rising value keeps the share `attack` of the stored one, any other
value the share `release`. -/
def move (attack release lastValue detector : K) : K :=
  if lastValue < detector then attack * lastValue + (1 - attack) * detector
  else release * lastValue + (1 - release) * detector

/-- The share that a rising value keeps: none without an attack time. -/
def attackKept (e : Envelope K) : K := if e.attackTime = 0 then 0 else e.attackCoefficient

/-- The loop that the attack time selects makes such a pass. -/
lemma follow_eq_move (e : Envelope K) (l d : K) :
    e.follow (number l) (number d) =
      number (move e.attackKept e.releaseCoefficient l d) := by
  rw [e.follow_number]
  unfold move attackKept
  split_ifs <;> simp

variable [IsStrictOrderedRing K]

/-- **A pass preserves the order** of the stored values and of the shares: less is kept of a rising
value, and more of a falling one. -/
lemma move_le_move {a a' r r' l l' : K} (ha' : 0 ≤ a') (haa : a' ≤ a) (hr : 0 ≤ r) (hrr : r ≤ r')
    (hl : l ≤ l') (x : K) : move a r l x ≤ move a' r' l' x := by
  unfold move
  by_cases h : l < x
  · have hrise : a' * (x - l) ≤ a * (x - l) :=
      mul_le_mul_of_nonneg_right haa (sub_nonneg.mpr h.le)
    by_cases h' : l' < x
    · have hless : a' * (x - l') ≤ a' * (x - l) :=
        mul_le_mul_of_nonneg_left (by linarith) ha'
      rw [if_pos h, if_pos h']
      linarith
    · have hfall : 0 ≤ r' * (l' - x) :=
        mul_nonneg (hr.trans hrr) (sub_nonneg.mpr (not_lt.mp h'))
      have hnonneg : 0 ≤ a' * (x - l) := mul_nonneg ha' (sub_nonneg.mpr h.le)
      rw [if_pos h, if_neg h']
      linarith
  · have hx : x ≤ l := not_lt.mp h
    have hmore : r * (l - x) ≤ r' * (l' - x) :=
      mul_le_mul hrr (by linarith) (sub_nonneg.mpr hx) (hr.trans hrr)
    rw [if_neg h, if_neg (not_lt.mpr (hx.trans hl))]
    linarith

/-- A pass stays between bounds of the stored value and of the sample. -/
lemma move_bounds {a r l x low high : K} (ha : 0 ≤ a) (ha' : a ≤ 1) (hr : 0 ≤ r) (hr' : r ≤ 1)
    (hl : low ≤ l ∧ l ≤ high) (hx : low ≤ x ∧ x ≤ high) :
    low ≤ move a r l x ∧ move a r l x ≤ high := by
  have hmean : ∀ w : K, 0 ≤ w → w ≤ 1 →
      low ≤ w * l + (1 - w) * x ∧ w * l + (1 - w) * x ≤ high := by
    intro w hw hw'
    have h₁ := mul_le_mul_of_nonneg_left hl.1 hw
    have h₂ := mul_le_mul_of_nonneg_left hl.2 hw
    have h₃ := mul_le_mul_of_nonneg_left hx.1 (sub_nonneg.mpr hw')
    have h₄ := mul_le_mul_of_nonneg_left hx.2 (sub_nonneg.mpr hw')
    constructor <;> linarith
  unfold move
  split_ifs
  · exact hmean a ha ha'
  · exact hmean r hr hr'

/-! ## A stream -/

/-- Both shares lie between 0 and 1. -/
structure Moderate (e : Envelope K) : Prop where
  attack_nonneg : 0 ≤ e.attackKept
  attack_le_one : e.attackKept ≤ 1
  release_nonneg : 0 ≤ e.releaseCoefficient
  release_le_one : e.releaseCoefficient ≤ 1

/-- The first value is at least the second one, and both are numbers. -/
def AtLeast (x y : WithNan K) : Prop := ∃ a b, x = number a ∧ y = number b ∧ b ≤ a

/-- **The followers stay in order over a stream.** -/
lemma foldl_follow_le {e e' : Envelope K} (he : e.Moderate) (he' : e'.Moderate)
    (hattack : e'.attackKept ≤ e.attackKept)
    (hrelease : e.releaseCoefficient ≤ e'.releaseCoefficient) {xs : List (WithNan K)}
    (hxs : ∀ x ∈ xs, x ≠ nan) (hlast : AtLeast e'.lastValue e.lastValue) :
    AtLeast (xs.foldl e'.follow e'.lastValue) (xs.foldl e.follow e.lastValue) := by
  refine Scan.foldl_related (C := fun x => x ≠ nan) (fun s t x hst hx => ?_) hlast hxs
  obtain ⟨l', l, rfl, rfl, hle⟩ := hst
  obtain ⟨d, rfl⟩ := exists_number_of_ne_nan hx
  rw [follow_eq_move, follow_eq_move]
  exact ⟨_, _, rfl, rfl,
    move_le_move he'.attack_nonneg hattack he.release_nonneg hrelease hle d⟩

/-- The value is a number between the bounds. -/
def Between (low high : K) (x : WithNan K) : Prop := ∃ a, x = number a ∧ low ≤ a ∧ a ≤ high

/-- **A follower stays between the bounds of a stream.** -/
lemma foldl_follow_bounds {e : Envelope K} (he : e.Moderate) {low high : K}
    {xs : List (WithNan K)} (hxs : ∀ x ∈ xs, Between low high x)
    (hlast : Between low high e.lastValue) :
    Between low high (xs.foldl e.follow e.lastValue) := by
  refine (Scan.forall_states (I := Between low high) (fun l x hl hx => ?_) hlast hxs).2
  obtain ⟨a, rfl, ha⟩ := hl
  obtain ⟨d, rfl, hd⟩ := hx
  rw [follow_eq_move]
  exact ⟨_, rfl, move_bounds he.attack_nonneg he.attack_le_one he.release_nonneg
    he.release_le_one ha hd⟩

end Envelope

/-! ## Coefficients -/

/-- What the order rests on: for negative arguments `std::exp` lies between 0 and 1 and does not
fall. Both bounds may be reached, as they are by rounding. -/
structure ExpRises (exp : K → K) : Prop where
  nonneg : ∀ y, y < 0 → 0 ≤ exp y
  le_one : ∀ y, y < 0 → exp y ≤ 1
  mono : ∀ x y, x ≤ y → y < 0 → exp x ≤ exp y

lemma expRises_real : ExpRises Real.exp where
  nonneg y _ := (Real.exp_pos y).le
  le_one _ h := Real.exp_le_one_iff.mpr h.le
  mono _ _ h _ := Real.exp_le_exp.mpr h

namespace Envelope

variable [IsStrictOrderedRing K]

/-- A coefficient lies between 0 and 1. -/
lemma coefficient_mem {exp : K → K} (hexp : ExpRises exp) {time sampleRate : K}
    (htime : 0 ≤ time) (hrate : 0 ≤ sampleRate) :
    0 ≤ coefficient exp time sampleRate ∧ coefficient exp time sampleRate ≤ 1 := by
  unfold coefficient
  split_ifs with h
  · exact ⟨le_refl 0, zero_le_one⟩
  · have hpos : 0 < time * sampleRate :=
      lt_of_le_of_ne (mul_nonneg htime hrate) (Ne.symm h)
    have hneg : -1 / (time * sampleRate) < 0 := div_neg_of_neg_of_pos (by simp) hpos
    exact ⟨hexp.nonneg _ hneg, hexp.le_one _ hneg⟩

/-- A longer time gives a coefficient that is not smaller. -/
lemma coefficient_mono {exp : K → K} (hexp : ExpRises exp) {time time' sampleRate : K}
    (htime : 0 < time) (hle : time ≤ time') (hrate : 0 ≤ sampleRate) :
    coefficient exp time sampleRate ≤ coefficient exp time' sampleRate := by
  have htime' : 0 < time' := htime.trans_le hle
  rcases hrate.eq_or_lt with rfl | hpos
  · simp [coefficient]
  · have h : 0 < time * sampleRate := mul_pos htime hpos
    have h' : 0 < time' * sampleRate := mul_pos htime' hpos
    unfold coefficient
    rw [if_neg h.ne', if_neg h'.ne']
    refine hexp.mono _ _ ?_ (div_neg_of_neg_of_pos (by simp) h')
    rw [neg_div, neg_div, neg_le_neg_iff]
    exact one_div_le_one_div_of_le h (mul_le_mul_of_nonneg_right hle hrate)

end Envelope

/-! ## The splitter -/

namespace TransientSplitter

/-- The calls between blocks, and blocks. -/
inductive Event (K : Type)
  | prepare (spec : ProcessSpec)
  | setAttack (newAttack : K)
  | setSustain (newSustain : K)
  | setAttackTime (newAttackTime : K)
  | processBlock (buffer : AudioBuffer (WithNan K))

/-- One call. -/
def step (exp : K → K) (s : TransientSplitter K) : Event K → Option (TransientSplitter K)
  | .prepare spec => some (s.prepare exp spec)
  | .setAttack newAttack => some (s.setAttack newAttack)
  | .setSustain newSustain => some (s.setSustain newSustain)
  | .setAttackTime newAttackTime => some (s.setAttackTime exp newAttackTime)
  | .processBlock buffer => some (s.processBlock buffer).1

/-- Rates are positive, attack times are not negative, and blocks hold numbers. -/
def Event.Admissible : Event K → Prop
  | .prepare spec => 0 < (spec.sampleRate : K)
  | .setAttackTime newAttackTime => 0 ≤ newAttackTime
  | .processBlock buffer => buffer.AllNumbers
  | .setAttack _ => True
  | .setSustain _ => True

/-- What the followers hear of a call: on one channel the samples, on two the magnitudes. -/
def Event.heard : Event K → List (WithNan K)
  | .processBlock buffer => Envelope.detected buffer
  | _ => []

/-- The coefficients and the stored values are in order. -/
structure Ordered (s : TransientSplitter K) : Prop where
  detector_attackTime : s.detector.attackTime = 0
  envelope1_attackTime : s.envelope1.attackTime = 0
  envelope2_attackTime : 0 ≤ s.envelope2.attackTime
  attack_nonneg : 0 ≤ s.envelope2.attackCoefficient
  attack_le_one : s.envelope2.attackCoefficient ≤ 1
  releaseTime_pos : 0 < s.envelope1.releaseTime
  releaseTime_le : s.envelope1.releaseTime ≤ s.detector.releaseTime
  releaseTime_eq : s.envelope2.releaseTime = s.envelope1.releaseTime
  release_nonneg : 0 ≤ s.envelope1.releaseCoefficient
  release_le : s.envelope1.releaseCoefficient ≤ s.detector.releaseCoefficient
  release_le_one : s.detector.releaseCoefficient ≤ 1
  release_eq : s.envelope2.releaseCoefficient = s.envelope1.releaseCoefficient
  sampleRate_nonneg : 0 ≤ s.envelope2.sampleRate
  first : Envelope.AtLeast s.detector.lastValue s.envelope1.lastValue
  second : Envelope.AtLeast s.envelope1.lastValue s.envelope2.lastValue

/-- All stored values lie between the bounds. -/
structure Bounded (low high : K) (s : TransientSplitter K) : Prop where
  detector : Envelope.Between low high s.detector.lastValue
  envelope1 : Envelope.Between low high s.envelope1.lastValue
  envelope2 : Envelope.Between low high s.envelope2.lastValue

variable [IsStrictOrderedRing K]

/-- A splitter as it is constructed: all coefficients are 1, and all stored values are 0. -/
lemma ordered_construct : (construct : TransientSplitter K).Ordered where
  detector_attackTime := rfl
  envelope1_attackTime := rfl
  envelope2_attackTime := by
    show (0 : K) ≤ 1 / 2
    norm_num
  attack_nonneg := zero_le_one
  attack_le_one := le_refl 1
  releaseTime_pos := by
    show (0 : K) < 3 / 10
    norm_num
  releaseTime_le := by
    show (3 : K) / 10 ≤ 10 * (3 / 10)
    norm_num
  releaseTime_eq := rfl
  release_nonneg := zero_le_one
  release_le := le_refl 1
  release_le_one := le_refl 1
  release_eq := rfl
  sampleRate_nonneg := by
    show (0 : K) ≤ 48000
    norm_num
  first := ⟨0, 0, rfl, rfl, le_refl 0⟩
  second := ⟨0, 0, rfl, rfl, le_refl 0⟩

/-- The shares of the three followers. -/
lemma Ordered.moderate {s : TransientSplitter K} (h : s.Ordered) :
    s.detector.Moderate ∧ s.envelope1.Moderate ∧ s.envelope2.Moderate := by
  have hle_one : s.envelope1.releaseCoefficient ≤ 1 := h.release_le.trans h.release_le_one
  refine ⟨⟨?_, ?_, h.release_nonneg.trans h.release_le, h.release_le_one⟩,
    ⟨?_, ?_, h.release_nonneg, hle_one⟩, ⟨?_, ?_, ?_, ?_⟩⟩
  · simp [Envelope.attackKept, h.detector_attackTime]
  · simp [Envelope.attackKept, h.detector_attackTime]
  · simp [Envelope.attackKept, h.envelope1_attackTime]
  · simp [Envelope.attackKept, h.envelope1_attackTime]
  · unfold Envelope.attackKept
    split_ifs
    · exact le_refl 0
    · exact h.attack_nonneg
  · unfold Envelope.attackKept
    split_ifs
    · exact zero_le_one
    · exact h.attack_le_one
  · rw [h.release_eq]
    exact h.release_nonneg
  · rw [h.release_eq]
    exact hle_one

/-- **The followers stay in order over a stream.** -/
lemma Ordered.foldl_follow {s : TransientSplitter K} (h : s.Ordered) {xs : List (WithNan K)}
    (hxs : ∀ x ∈ xs, x ≠ nan) :
    Envelope.AtLeast (xs.foldl s.detector.follow s.detector.lastValue)
        (xs.foldl s.envelope1.follow s.envelope1.lastValue) ∧
      Envelope.AtLeast (xs.foldl s.envelope1.follow s.envelope1.lastValue)
        (xs.foldl s.envelope2.follow s.envelope2.lastValue) := by
  obtain ⟨hd, h₁, h₂⟩ := h.moderate
  have hinstant : s.envelope1.attackKept = 0 := by
    simp [Envelope.attackKept, h.envelope1_attackTime]
  constructor
  · refine Envelope.foldl_follow_le h₁ hd ?_ h.release_le hxs h.first
    rw [hinstant]
    simp [Envelope.attackKept, h.detector_attackTime]
  · refine Envelope.foldl_follow_le h₂ h₁ ?_ h.release_eq.le hxs h.second
    rw [hinstant]
    exact h₂.attack_nonneg

/-- **Every call keeps the followers in order.**

**Proof sketch.** By the call. The setters and `prepare` keep the order of the coefficients, as the
exponential rises with the time; a block keeps the order of the values, sample by sample. -/
lemma Ordered.step {exp : K → K} (hexp : ExpRises exp) {s s' : TransientSplitter K} {e : Event K}
    (h : s.Ordered) (he : e.Admissible) (hs : s.step exp e = some s') : s'.Ordered := by
  cases e with
  | prepare spec =>
    obtain rfl := Option.some.inj hs
    have hrate : 0 ≤ (spec.sampleRate : K) := le_of_lt he
    have hlong : 0 ≤ s.detector.releaseTime := h.releaseTime_pos.le.trans h.releaseTime_le
    obtain ⟨ha, ha'⟩ := Envelope.coefficient_mem hexp h.envelope2_attackTime hrate
    refine { h with
      attack_nonneg := ha
      attack_le_one := ha'
      release_nonneg := (Envelope.coefficient_mem hexp h.releaseTime_pos.le hrate).1
      release_le := Envelope.coefficient_mono hexp h.releaseTime_pos h.releaseTime_le hrate
      release_le_one := (Envelope.coefficient_mem hexp hlong hrate).2
      release_eq := ?_
      sampleRate_nonneg := hrate }
    show Envelope.coefficient exp s.envelope2.releaseTime _ =
      Envelope.coefficient exp s.envelope1.releaseTime _
    rw [h.releaseTime_eq]
    rfl
  | setAttack newAttack | setSustain newSustain =>
    obtain rfl := Option.some.inj hs
    exact { h with }
  | setAttackTime newAttackTime =>
    obtain rfl := Option.some.inj hs
    obtain ⟨ha, ha'⟩ := Envelope.coefficient_mem hexp he h.sampleRate_nonneg
    exact { h with envelope2_attackTime := he, attack_nonneg := ha, attack_le_one := ha' }
  | processBlock buffer =>
    obtain rfl := Option.some.inj hs
    obtain ⟨hfirst, hsecond⟩ := h.foldl_follow fun x hx =>
      AudioBuffer.AllNumbers.detected_ne_nan he hx
    simp only [processBlock_fst, followed]
    rw [s.detector.processBlock_eq, s.envelope1.processBlock_eq, s.envelope2.processBlock_eq]
    exact { h with first := hfirst, second := hsecond }

/-- Every call keeps the stored values between bounds of what is heard. -/
lemma Bounded.step {exp : K → K} {low high : K} {s s' : TransientSplitter K} {e : Event K}
    (h : s.Ordered) (hb : s.Bounded low high) (he : ∀ x ∈ e.heard, Envelope.Between low high x)
    (hs : s.step exp e = some s') : s'.Bounded low high := by
  cases e with
  | prepare spec | setAttack newAttack | setSustain newSustain | setAttackTime newAttackTime =>
    obtain rfl := Option.some.inj hs
    exact { hb with }
  | processBlock buffer =>
    obtain rfl := Option.some.inj hs
    obtain ⟨hd, h₁, h₂⟩ := h.moderate
    simp only [processBlock_fst, followed]
    rw [s.detector.processBlock_eq, s.envelope1.processBlock_eq, s.envelope2.processBlock_eq]
    exact ⟨Envelope.foldl_follow_bounds hd he hb.detector,
      Envelope.foldl_follow_bounds h₁ he hb.envelope1,
      Envelope.foldl_follow_bounds h₂ he hb.envelope2⟩

omit [IsStrictOrderedRing K] in
/-- The bounds of zero bound a splitter as it is constructed. -/
lemma bounded_construct {low high : K} (hlow : low ≤ 0) (hhigh : 0 ≤ high) :
    (construct : TransientSplitter K).Bounded low high :=
  ⟨⟨0, rfl, hlow, hhigh⟩, ⟨0, rfl, hlow, hhigh⟩, ⟨0, rfl, hlow, hhigh⟩⟩

/-- **The stored values of a run** lie between bounds of zero and of what was heard. -/
lemma bounded_exec {exp : K → K} (hexp : ExpRises exp) {low high : K} (hlow : low ≤ 0)
    (hhigh : 0 ≤ high) {es : List (Event K)} (hes : ∀ e ∈ es, e.Admissible)
    (hheard : ∀ x ∈ es.flatMap Event.heard, Envelope.Between low high x)
    {s : TransientSplitter K} (hs : Transition.exec (TransientSplitter.step exp) construct es =
      some s) : s.Bounded low high := by
  refine ((Transition.always_of_stepsMeet (I := fun s => s.Ordered ∧ s.Bounded low high)
    (C := fun _ e => e.Admissible ∧ ∀ x ∈ e.heard, Envelope.Between low high x) ?_
    ⟨ordered_construct, bounded_construct hlow hhigh⟩ ?_).last hs).2
  · exact fun _ _ _ h he hstep => ⟨h.1.step hexp he.1 hstep, h.2.step h.1 he.2 hstep⟩
  · exact Transition.stepsMeet_of_forall _ fun e he =>
      ⟨hes e he, fun x hx => hheard x (List.mem_flatMap.mpr ⟨e, he, hx⟩)⟩

omit [Field K] [IsStrictOrderedRing K] in
/-- Bounds of a number. -/
lemma between_of_le {low high : K} {x : WithNan K}
    (h : number low ≤ x ∧ x ≤ number high) : Envelope.Between low high x := by
  cases x with
  | nan => simp at h
  | number a => exact ⟨a, rfl, h.1, h.2⟩

omit [IsStrictOrderedRing K] in
/-- A list without a negative value lies between zero and a bound. -/
lemma exists_high {xs : List (WithNan K)} (h : ∀ x ∈ xs, 0 ≤ x) :
    ∃ high ≥ 0, ∀ x ∈ xs, Envelope.Between 0 high x := by
  induction xs with
  | nil => exact ⟨0, le_refl 0, fun x hx => (by cases hx)⟩
  | cons x xs ih =>
    obtain ⟨hx, hxs⟩ := List.forall_mem_cons.mp h
    obtain ⟨high, hhigh, hall⟩ := ih hxs
    cases x with
    | nan => simp at hx
    | number a =>
      refine ⟨max a high, hhigh.trans (le_max_right _ _), List.forall_mem_cons.mpr ⟨?_, ?_⟩⟩
      · exact ⟨a, rfl, hx, le_max_left _ _⟩
      · intro y hy
        obtain ⟨c, rfl, hc, hc'⟩ := hall y hy
        exact ⟨c, rfl, hc, hc'.trans (le_max_right _ _)⟩

/-- Without a negative sample the share of the attack is the quotient as it is. -/
lemma attackShare_of_ordered {d v₁ v₂ : K} (hd : 0 < d) (h₂ : 0 ≤ v₂) (h₁₂ : v₂ ≤ v₁)
    (h₁ : v₁ ≤ d) : 0 ≤ (v₁ - v₂) / d ∧ (v₁ - v₂) / d ≤ 1 ∧
      attackShare d v₁ v₂ = (v₁ - v₂) / d := by
  have hone : (v₁ - v₂) / d ≤ 1 := by
    rw [div_le_one hd]
    linarith
  refine ⟨div_nonneg (sub_nonneg.mpr h₁₂) hd.le, hone, ?_⟩
  rw [attackShare, abs_of_nonneg (sub_nonneg.mpr h₁₂), abs_of_pos hd, min_eq_left hone]

end TransientSplitter

open TransientSplitter in
/-- **The order of the followers.** A splitter is constructed; calls of `prepare`, attack times and
other settings, and blocks of numbers follow in any order; then a block comes. For each sample of it
the detector is at least the first follower, and that at least the second one; all three lie between
any bounds of zero and of what was heard so far; and if nothing negative was heard, a positive
detector divides the difference of the followers to a share between 0 and 1, which the limit to 1
leaves alone.

**Proof sketch.** A pass preserves the order of stored values if the one with the larger value keeps
less of it when it attacks and more when it releases. The detector and the first follower attack at
once; the detector releases ten times as slowly, and the other two alike. -/
theorem followers_ordered [IsStrictOrderedRing K] {exp : K → K} (hexp : ExpRises exp)
    {es : List (Event K)} (hes : ∀ e ∈ es, e.Admissible) {s : TransientSplitter K}
    (hs : Transition.exec (step exp) construct es = some s) {b : AudioBuffer (WithNan K)}
    (hb : b.AllNumbers) {j : ℕ} (hj : j < b.numSamples) :
    ∃ d v₁ v₂, (s.followed b).detector.getSample j = number d ∧
      (s.followed b).envelope1.getSample j = number v₁ ∧
      (s.followed b).envelope2.getSample j = number v₂ ∧ v₂ ≤ v₁ ∧ v₁ ≤ d ∧
      (∀ low ≤ 0, ∀ high ≥ 0,
        (∀ x ∈ es.flatMap Event.heard ++ (Envelope.detected b).take (j + 1),
          number low ≤ x ∧ x ≤ number high) → low ≤ v₂ ∧ d ≤ high) ∧
      ((∀ x ∈ es.flatMap Event.heard ++ (Envelope.detected b).take (j + 1), 0 ≤ x) → 0 < d →
        0 ≤ (v₁ - v₂) / d ∧ (v₁ - v₂) / d ≤ 1 ∧ attackShare d v₁ v₂ = (v₁ - v₂) / d) := by
  have hordered : s.Ordered :=
    (Transition.always_of_stepsMeet (fun _ _ _ h he hstep => h.step hexp he hstep)
      ordered_construct (Transition.stepsMeet_of_forall _ hes)).last hs
  -- the value for a sample is what the stream up to it leads to
  have hvalue : ∀ e : Envelope K, (e.processBlock b).getSample j =
      ((Envelope.detected b).take (j + 1)).foldl e.follow e.lastValue := by
    intro e
    have hlen : j < (Scan.states e.follow e.lastValue (Envelope.detected b)).length := by
      simpa using hj
    rw [e.getSample_processBlock b hlen, Scan.getElem_states_eq_foldl]
  obtain ⟨⟨d, v₁, hd, h₁, hle₁⟩, ⟨v₁', v₂, h₁', h₂, hle₂⟩⟩ :=
    hordered.foldl_follow fun x (hx : x ∈ (Envelope.detected b).take (j + 1)) =>
      hb.detected_ne_nan (List.mem_of_mem_take hx)
  obtain rfl : v₁' = v₁ := WithNan.number.inj (h₁'.symm.trans h₁)
  have hbounds : ∀ low ≤ 0, ∀ high ≥ 0,
      (∀ x ∈ es.flatMap Event.heard ++ (Envelope.detected b).take (j + 1),
        Envelope.Between low high x) → low ≤ v₂ ∧ d ≤ high := by
    intro low hlow high hhigh hx
    rw [List.forall_mem_append] at hx
    have hstored := bounded_exec hexp hlow hhigh hes hx.1 hs
    obtain ⟨hm, -, hm₂⟩ := hordered.moderate
    obtain ⟨a, ha, -, hdhigh⟩ := Envelope.foldl_follow_bounds hm hx.2 hstored.detector
    obtain ⟨c, hc, hlow₂, -⟩ := Envelope.foldl_follow_bounds hm₂ hx.2 hstored.envelope2
    obtain rfl : a = d := WithNan.number.inj (ha.symm.trans hd)
    obtain rfl : c = v₂ := WithNan.number.inj (hc.symm.trans h₂)
    exact ⟨hlow₂, hdhigh⟩
  refine ⟨d, v₁', v₂, (hvalue s.detector).trans hd, (hvalue s.envelope1).trans h₁,
    (hvalue s.envelope2).trans h₂, hle₂, hle₁,
    fun low hlow high hhigh hx => hbounds low hlow high hhigh fun x hmem =>
      between_of_le (hx x hmem), fun hnonneg hpos => ?_⟩
  obtain ⟨high, hhigh, hall⟩ := exists_high hnonneg
  exact attackShare_of_ordered hpos (hbounds 0 (le_refl 0) high hhigh hall).1 hle₂ hle₁

open TransientSplitter in
/-- The theorem at work: a positive sample after a prepare, a negative sample and a new attack
time. -/
theorem followers_ordered_rising :
    ∃ s, Transition.exec (step Real.exp) (construct : TransientSplitter ℝ)
        [.prepare ⟨48000, 512, 1⟩, .processBlock (.single (-1)), .setAttackTime (1 / 20)] =
          some s ∧
      ∃ d v₁ v₂, (s.followed (.single 1)).detector.getSample 0 = number d ∧
        (s.followed (.single 1)).envelope1.getSample 0 = number v₁ ∧
        (s.followed (.single 1)).envelope2.getSample 0 = number v₂ ∧ v₂ ≤ v₁ ∧ v₁ ≤ d := by
  have hnumbers : ∀ x : ℝ, (AudioBuffer.single x).AllNumbers := fun x =>
    ⟨by simp [AudioBuffer.single], fun c _ j _ h => by cases h⟩
  have hes : ∀ e ∈ ([.prepare ⟨48000, 512, 1⟩, .processBlock (.single (-1)),
      .setAttackTime (1 / 20)] : List (Event ℝ)), e.Admissible := by
    intro e he
    simp only [List.mem_cons, List.not_mem_nil, or_false] at he
    rcases he with rfl | rfl | rfl
    · show (0 : ℝ) < ((48000 : ℚ) : ℝ)
      norm_num
    · exact hnumbers (-1)
    · show (0 : ℝ) ≤ 1 / 20
      norm_num
  refine ⟨_, rfl, ?_⟩
  obtain ⟨d, v₁, v₂, hd, h₁, h₂, hle₂, hle₁, -⟩ :=
    followers_ordered expRises_real hes rfl (hnumbers 1) (j := 0) (by simp [AudioBuffer.single])
  exact ⟨d, v₁, v₂, hd, h₁, h₂, hle₂, hle₁⟩
