import Mathlib.Analysis.Complex.Exponential
import Scyclone.Juce.AudioBuffer
import Scyclone.Lib.Scan
import Scyclone.Lib.WithNan

set_option relaxedAutoImplicit false
set_option autoImplicit false

/-!
# The envelope follower

`Envelope` of `source/dsp/utils/Envelope.cpp`, over numbers with NaN. The follower has two loops:
one without an attack time, which takes a rising value over, and one with an attack time. How the
weighted means are rounded is a parameter of the loops; without rounding they are exact.

## Main definitions

* `Envelope` with `construct`, `prepare`, the setters and `processBlock`.
* `Envelope.followBy`, `Envelope.follow` — one pass of the loops as a recurrence.
* `Envelope.processBlocks` — a run over blocks, with the values read after each of them.

## Main results

* `Envelope.processBlockBy_eq`, `Envelope.processBlock_eq` — the loops in one step.
* `Envelope.processBlocks_eq` — a run follows the stream, however it is cut into blocks.
* `Envelope.prepare_configured` — the coefficients after `prepare`.
-/

open WithNan

/-! ## Literals

The literals that several processors use, as instances with a name. -/

instance atLeastTwo_two : Nat.AtLeastTwo 2 := ⟨by decide⟩

instance atLeastTwo_three : Nat.AtLeastTwo 3 := ⟨by decide⟩

instance atLeastTwo_ten : Nat.AtLeastTwo 10 := ⟨by decide⟩

instance atLeastTwo_twenty : Nat.AtLeastTwo 20 := ⟨by decide⟩

/-! ## The exponential -/

/-- What `std::exp` promises for a negative argument. -/
structure ExpLaws {K : Type} [Zero K] [One K] [LT K] (exp : K → K) : Prop where
  pos : ∀ y, y < 0 → 0 < exp y
  lt_one : ∀ y, y < 0 → exp y < 1

lemma expLaws_real : ExpLaws Real.exp :=
  ⟨fun y _ => Real.exp_pos y, fun _ h => Real.exp_lt_one_iff.mpr h⟩

/-! ## The follower -/

/-- One sample on one channel. -/
def AudioBuffer.single {K : Type} (x : K) : AudioBuffer (WithNan K) := ⟨1, 1, fun _ _ => number x⟩

/-- `class Envelope`. A cell of the two vectors that was not pushed yet holds zero. -/
structure Envelope (K : Type) where
  envelope : ℕ → WithNan K
  detector : ℕ → WithNan K
  /-- The size of both vectors. -/
  size : ℕ
  lastValue : WithNan K
  attackTime : K
  releaseTime : K
  attackCoefficient : K
  releaseCoefficient : K
  sampleRate : K

namespace Envelope

variable {K : Type} [Field K] [LinearOrder K]

/-! ## Settings -/

/-- `Envelope (initAttackTime, initReleaseTime)`. -/
def construct (initAttackTime initReleaseTime : K) : Envelope K where
  envelope _ := 0
  detector _ := 0
  size := 0
  lastValue := 0
  attackTime := initAttackTime
  releaseTime := initReleaseTime
  attackCoefficient := 1
  releaseCoefficient := 1
  sampleRate := 48000

/-- `std::exp (-1 / (time * sampleRate))`, where `-1 / 0` is minus infinity. -/
def coefficient (exp : K → K) (time sampleRate : K) : K :=
  if time * sampleRate = 0 then 0 else exp (-1 / (time * sampleRate))

/-- `setSampleRate`. -/
def setSampleRate (e : Envelope K) (newSampleRate : K) : Envelope K :=
  { e with sampleRate := newSampleRate }

/-- `setAttackTime`. -/
def setAttackTime (exp : K → K) (e : Envelope K) (newAttackTime : K) : Envelope K :=
  { e with
    attackTime := newAttackTime
    attackCoefficient := coefficient exp newAttackTime e.sampleRate }

/-- `setReleaseTime`. -/
def setReleaseTime (exp : K → K) (e : Envelope K) (newReleaseTime : K) : Envelope K :=
  { e with
    releaseTime := newReleaseTime
    releaseCoefficient := coefficient exp newReleaseTime e.sampleRate }

/-- The loop of `prepare`: `push_back (0.)` on both vectors. -/
def pushZeros (e : Envelope K) (n : ℕ) : Envelope K :=
  { e with
    envelope := fun i => if e.size ≤ i ∧ i < e.size + n then 0 else e.envelope i
    detector := fun i => if e.size ≤ i ∧ i < e.size + n then 0 else e.detector i
    size := e.size + n }

/-- `prepare`. -/
def prepare (exp : K → K) (e : Envelope K) (spec : ProcessSpec) : Envelope K :=
  let e := e.setSampleRate (spec.sampleRate : K)
  let e := e.setAttackTime exp e.attackTime
  let e := e.setReleaseTime exp e.releaseTime
  e.pushZeros spec.maximumBlockSize

/-! ## Processing -/

/-- What both loops write to `detector[i]`. -/
def detect (buffer : AudioBuffer (WithNan K)) (i : ℕ) : WithNan K :=
  if buffer.numChannels = 1 then buffer.getSample 0 i
  else stdMax (buffer.getSample 0 i).abs (buffer.getSample 1 i).abs

/-- The body of the loop without an attack time, where `mean` gives the weighted means. -/
def processInstantBy (mean : K → WithNan K → WithNan K → WithNan K)
    (buffer : AudioBuffer (WithNan K)) (e : Envelope K) (i : ℕ) : Envelope K :=
  let detector := detect buffer i
  let value :=
    if e.lastValue < detector then detector
    else mean e.releaseCoefficient e.lastValue detector
  { e with
    detector := Function.update e.detector i detector
    envelope := Function.update e.envelope i value
    lastValue := value }

/-- The body of the loop with an attack time. -/
def processSmoothBy (mean : K → WithNan K → WithNan K → WithNan K)
    (buffer : AudioBuffer (WithNan K)) (e : Envelope K) (i : ℕ) : Envelope K :=
  let detector := detect buffer i
  let lastValue := if e.lastValue.isNan then 0 else e.lastValue
  let value :=
    if lastValue < detector then mean e.attackCoefficient lastValue detector
    else mean e.releaseCoefficient lastValue detector
  { e with
    detector := Function.update e.detector i detector
    envelope := Function.update e.envelope i value
    lastValue := value }

/-- `processBlock`, where `mean` gives the weighted means. -/
def processBlockBy (mean : K → WithNan K → WithNan K → WithNan K) (e : Envelope K)
    (buffer : AudioBuffer (WithNan K)) : Envelope K :=
  if e.attackTime = 0 then (List.range buffer.numSamples).foldl (processInstantBy mean buffer) e
  else (List.range buffer.numSamples).foldl (processSmoothBy mean buffer) e

/-- `processBlock` in exact arithmetic. -/
def processBlock (e : Envelope K) (buffer : AudioBuffer (WithNan K)) : Envelope K :=
  e.processBlockBy blend buffer

/-- `getSample`. -/
def getSample (e : Envelope K) (sample : ℕ) : WithNan K := e.envelope sample

/-! ## The recurrence -/

/-- One pass of the loop that the attack time selects: the value from the last one and the
detector. -/
def followBy (mean : K → WithNan K → WithNan K → WithNan K) (e : Envelope K)
    (lastValue detector : WithNan K) : WithNan K :=
  if e.attackTime = 0 then
    if lastValue < detector then detector else mean e.releaseCoefficient lastValue detector
  else
    let lastValue := if lastValue.isNan then 0 else lastValue
    if lastValue < detector then mean e.attackCoefficient lastValue detector
    else mean e.releaseCoefficient lastValue detector

/-- One pass in exact arithmetic. -/
def follow (e : Envelope K) (lastValue detector : WithNan K) : WithNan K :=
  e.followBy blend lastValue detector

/-- A step from a number with a number. -/
lemma follow_number (e : Envelope K) (l d : K) :
    e.follow (number l) (number d) = number
      (if l < d then
        if e.attackTime = 0 then d else e.attackCoefficient * l + (1 - e.attackCoefficient) * d
      else e.releaseCoefficient * l + (1 - e.releaseCoefficient) * d) := by
  unfold follow followBy
  by_cases ht : e.attackTime = 0
  · by_cases hlt : l < d <;> simp [ht, hlt]
  · by_cases hlt : l < d <;> simp [ht, hlt]

/-- With an attack time a stored NaN is taken as zero. -/
lemma follow_nan (e : Envelope K) (h : e.attackTime ≠ 0) (d : WithNan K) :
    e.follow nan d = e.follow 0 d := by
  simp [follow, followBy, h, zero_eq]

/-- Without an attack time a stored NaN stays. -/
lemma follow_nan_of_instant (e : Envelope K) (h : e.attackTime = 0) (d : WithNan K) :
    e.follow nan d = nan := by
  simp [follow, followBy, h]

/-- A step to a number that is not greater releases, and one to a greater number attacks. -/
lemma follow_le {e : Envelope K} {l d : K} (h : d ≤ l) :
    e.follow (number l) (number d) =
      number (e.releaseCoefficient * l + (1 - e.releaseCoefficient) * d) := by
  rw [follow_number, if_neg (not_lt.mpr h)]

/-- What the loops find in a block. -/
def detected (buffer : AudioBuffer (WithNan K)) : List (WithNan K) :=
  (List.range buffer.numSamples).map (detect buffer)

/-- The first cells overwritten by a list. -/
def overwrite (cells : ℕ → WithNan K) (xs : List (WithNan K)) (i : ℕ) : WithNan K :=
  (xs[i]?).getD (cells i)

omit [Field K] [LinearOrder K] in
lemma overwrite_append (cells : ℕ → WithNan K) (xs : List (WithNan K)) (x : WithNan K) :
    overwrite cells (xs ++ [x]) = Function.update (overwrite cells xs) xs.length x := by
  funext i
  rw [Function.update_apply]
  unfold overwrite
  by_cases hi : i = xs.length
  · simp [hi]
  · by_cases hlt : i < xs.length
    · rw [if_neg hi, List.getElem?_append_left hlt]
    · have hge : xs.length + 1 ≤ i := by omega
      rw [if_neg hi, List.getElem?_eq_none (by simpa using hge),
        List.getElem?_eq_none (by omega)]

@[simp] lemma length_detected (buffer : AudioBuffer (WithNan K)) :
    (detected buffer).length = buffer.numSamples := by simp [detected]

/-- **The loops in one step**: the values are the states of the recurrence, and the last of them
is kept.

**Proof sketch.** Induction on the number of passes, for both loops alike. -/
lemma processBlockBy_eq (mean : K → WithNan K → WithNan K → WithNan K) (e : Envelope K)
    (buffer : AudioBuffer (WithNan K)) :
    e.processBlockBy mean buffer =
      { e with
        detector := overwrite e.detector (detected buffer)
        envelope := overwrite e.envelope
          (Scan.states (e.followBy mean) e.lastValue (detected buffer))
        lastValue := (detected buffer).foldl (e.followBy mean) e.lastValue } := by
  have hloop : ∀ body : Envelope K → ℕ → Envelope K,
      (∀ l c d i, body { e with lastValue := l, envelope := c, detector := d } i =
        { e with
          detector := Function.update d i (detect buffer i)
          envelope := Function.update c i (e.followBy mean l (detect buffer i))
          lastValue := e.followBy mean l (detect buffer i) }) →
      ∀ n, (List.range n).foldl body e =
        { e with
          detector := overwrite e.detector ((List.range n).map (detect buffer))
          envelope := overwrite e.envelope (Scan.states (e.followBy mean) e.lastValue
            ((List.range n).map (detect buffer)))
          lastValue :=
            ((List.range n).map (detect buffer)).foldl (e.followBy mean) e.lastValue } := by
    intro body hbody n
    induction n with
    | zero => rfl
    | succ n ih =>
      rw [List.range_succ, List.foldl_append, ih, List.foldl_cons, List.foldl_nil, hbody,
        List.map_append, Scan.states_append, List.foldl_append]
      simp only [List.map_cons, List.map_nil, Scan.states_cons, Scan.states_nil, List.foldl_cons,
        List.foldl_nil, overwrite_append, List.length_map, List.length_range, Scan.length_states]
  unfold processBlockBy detected
  split_ifs with h
  · refine hloop _ (fun l c d i => ?_) _
    simp only [processInstantBy, followBy, h, if_true]
  · refine hloop _ (fun l c d i => ?_) _
    simp only [processSmoothBy, followBy, h, if_false]

/-- The value read for one sample of a block. -/
lemma getSample_processBlockBy (mean : K → WithNan K → WithNan K → WithNan K) (e : Envelope K)
    (buffer : AudioBuffer (WithNan K)) {j : ℕ}
    (hj : j < (Scan.states (e.followBy mean) e.lastValue (detected buffer)).length) :
    (e.processBlockBy mean buffer).getSample j =
      (Scan.states (e.followBy mean) e.lastValue (detected buffer))[j] := by
  rw [processBlockBy_eq]
  simp [getSample, overwrite, List.getElem?_eq_getElem hj]

/-- The loops in exact arithmetic. -/
lemma processBlock_eq (e : Envelope K) (buffer : AudioBuffer (WithNan K)) :
    e.processBlock buffer =
      { e with
        detector := overwrite e.detector (detected buffer)
        envelope := overwrite e.envelope (Scan.states e.follow e.lastValue (detected buffer))
        lastValue := (detected buffer).foldl e.follow e.lastValue } :=
  e.processBlockBy_eq blend buffer

@[simp] lemma processBlock_follow (e : Envelope K) (buffer : AudioBuffer (WithNan K)) :
    (e.processBlock buffer).follow = e.follow := by
  rw [processBlock_eq]
  rfl

@[simp] lemma processBlock_lastValue (e : Envelope K) (buffer : AudioBuffer (WithNan K)) :
    (e.processBlock buffer).lastValue = (detected buffer).foldl e.follow e.lastValue := by
  rw [processBlock_eq]

/-- The values that are read after a block. -/
def readOut (e : Envelope K) (n : ℕ) : List (WithNan K) := (List.range n).map e.getSample

/-- After a block its values are the states of the recurrence. -/
lemma readOut_processBlock (e : Envelope K) (buffer : AudioBuffer (WithNan K)) :
    (e.processBlock buffer).readOut buffer.numSamples =
      Scan.states e.follow e.lastValue (detected buffer) := by
  rw [processBlock_eq]
  refine List.ext_getElem (by simp [readOut]) fun i h₁ h₂ => ?_
  simp [readOut, getSample, overwrite, List.getElem?_eq_getElem h₂]

/-- The value read for one sample of a block. -/
lemma getSample_processBlock (e : Envelope K) (buffer : AudioBuffer (WithNan K)) {j : ℕ}
    (hj : j < (Scan.states e.follow e.lastValue (detected buffer)).length) :
    (e.processBlock buffer).getSample j =
      (Scan.states e.follow e.lastValue (detected buffer))[j] :=
  e.getSample_processBlockBy blend buffer hj

/-! ## One sample -/

@[simp] lemma detected_single (x : K) : detected (.single x) = [number x] := by
  simp [detected, detect, AudioBuffer.single, AudioBuffer.getSample]

/-- The value for one sample, which is kept as the last one. -/
lemma processBlockBy_single (mean : K → WithNan K → WithNan K → WithNan K) (e : Envelope K)
    (x : K) : (e.processBlockBy mean (.single x)).getSample 0 =
        e.followBy mean e.lastValue (number x) ∧
      (e.processBlockBy mean (.single x)).lastValue = e.followBy mean e.lastValue (number x) := by
  rw [getSample_processBlockBy mean e (.single x) (by simp), processBlockBy_eq]
  simp only [detected_single, Scan.states_cons, List.getElem_cons_zero, List.foldl_cons,
    List.foldl_nil, and_self]

/-- The value for one sample. -/
lemma getSample_single (e : Envelope K) (x : K) :
    (e.processBlock (.single x)).getSample 0 = e.follow e.lastValue (number x) :=
  (e.processBlockBy_single blend x).1

/-- The value for a sample that is not above the stored one. -/
lemma getSample_single_of_le {e : Envelope K} {l x : K} (hl : e.lastValue = number l)
    (hx : x ≤ l) : (e.processBlock (.single x)).getSample 0 =
      number (e.releaseCoefficient * l + (1 - e.releaseCoefficient) * x) := by
  rw [getSample_single, hl]
  exact follow_le hx

/-- The value for one sample is kept as the last one. -/
lemma lastValue_single (e : Envelope K) (x : K) :
    (e.processBlock (.single x)).lastValue = e.follow e.lastValue (number x) :=
  (e.processBlockBy_single blend x).2

/-! ## Runs -/

/-- A run over blocks, with the values that are read after each of them. -/
def processBlocks (e : Envelope K) :
    List (AudioBuffer (WithNan K)) → Envelope K × List (WithNan K)
  | [] => (e, [])
  | buffer :: buffers =>
    let rest := (e.processBlock buffer).processBlocks buffers
    (rest.1, (e.processBlock buffer).readOut buffer.numSamples ++ rest.2)

/-- **A run follows the stream**, however it is cut into blocks. -/
theorem processBlocks_eq (e : Envelope K) (buffers : List (AudioBuffer (WithNan K))) :
    (e.processBlocks buffers).2 =
        Scan.states e.follow e.lastValue (buffers.flatMap detected) ∧
      (e.processBlocks buffers).1.lastValue =
        (buffers.flatMap detected).foldl e.follow e.lastValue := by
  induction buffers generalizing e with
  | nil => exact ⟨rfl, rfl⟩
  | cons buffer buffers ih =>
    obtain ⟨hvalues, hlast⟩ := ih (e.processBlock buffer)
    rw [processBlock_follow, processBlock_lastValue] at hvalues hlast
    rw [List.flatMap_cons, Scan.states_append, List.foldl_append]
    refine ⟨?_, hlast⟩
    rw [processBlocks, readOut_processBlock, hvalues]

/-- A run leaves the attack time alone. -/
lemma processBlocks_attackTime (e : Envelope K) (buffers : List (AudioBuffer (WithNan K))) :
    (e.processBlocks buffers).1.attackTime = e.attackTime := by
  induction buffers generalizing e with
  | nil => rfl
  | cons buffer buffers ih =>
    rw [processBlocks, ih, processBlock_eq]

/-! ## Coefficients -/

/-- The coefficients are those of the times: at least 0 and less than 1. -/
structure Configured (e : Envelope K) : Prop where
  attack_nonneg : 0 ≤ e.attackCoefficient
  attack_lt_one : e.attackCoefficient < 1
  release_nonneg : 0 ≤ e.releaseCoefficient
  release_lt_one : e.releaseCoefficient < 1

variable [IsStrictOrderedRing K]

/-- A time and a rate that are not negative give a coefficient below 1. -/
lemma coefficient_bounds {exp : K → K} (hexp : ExpLaws exp) {time sampleRate : K}
    (htime : 0 ≤ time) (hrate : 0 ≤ sampleRate) :
    0 ≤ coefficient exp time sampleRate ∧ coefficient exp time sampleRate < 1 := by
  unfold coefficient
  split_ifs with h
  · exact ⟨le_refl 0, zero_lt_one⟩
  · have hpos : 0 < time * sampleRate :=
      lt_of_le_of_ne (mul_nonneg htime hrate) (Ne.symm h)
    have hneg : -1 / (time * sampleRate) < 0 := div_neg_of_neg_of_pos (by simp) hpos
    exact ⟨(hexp.pos _ hneg).le, hexp.lt_one _ hneg⟩

/-- A positive time gives a positive coefficient. -/
lemma coefficient_pos {exp : K → K} (hexp : ExpLaws exp) {time sampleRate : K}
    (htime : 0 < time) (hrate : 0 < sampleRate) : 0 < coefficient exp time sampleRate := by
  have hpos : 0 < time * sampleRate := mul_pos htime hrate
  rw [coefficient, if_neg hpos.ne']
  exact hexp.pos _ (div_neg_of_neg_of_pos (by simp) hpos)

/-- The coefficients after `prepare`. -/
lemma prepare_configured {exp : K → K} (hexp : ExpLaws exp) {e : Envelope K}
    {spec : ProcessSpec} (hattack : 0 ≤ e.attackTime) (hrelease : 0 ≤ e.releaseTime)
    (hrate : 0 ≤ (spec.sampleRate : K)) : (e.prepare exp spec).Configured := by
  obtain ⟨ha₀, ha₁⟩ := coefficient_bounds hexp hattack hrate
  obtain ⟨hr₀, hr₁⟩ := coefficient_bounds hexp hrelease hrate
  exact ⟨ha₀, ha₁, hr₀, hr₁⟩

end Envelope
