import Mathlib.Data.List.Basic
import Mathlib.Data.Rat.Floor
import Mathlib.Logic.Function.Basic

set_option relaxedAutoImplicit false
set_option autoImplicit false

/-!
# Samples, audio buffers and process specifications

The parts of JUCE that the signal path is written against. A sample type is any type with a
zero and the test `isnan`; the ring buffers and the inference code use nothing else of
`float`. An `AudioBuffer` has its two sizes and its contents; what lies outside the sizes is
whatever the contents function says and is never relied on. A `setSize` that changes a size leaves
any samples behind, and they come in as an argument; one that changes none leaves the samples alone.

## Main definitions

* `FloatSample`, `nanToZero` — sample types and the replacement of NaN by zero.
* `AudioBuffer` — `juce::AudioBuffer<float>` with `setSize`, `clear`, `makeCopyOf`,
  `getSample`, `setSample` and the samples of a channel.
* `ProcessSpec` — `juce::dsp::ProcessSpec`.
-/

/-! ## Samples -/

/-- What the signal path asks of a sample type: a zero and the `isnan` test, which the zero
does not meet. -/
class FloatSample (F : Type) extends Zero F where
  /-- The test `isnan` of `<cmath>`. -/
  isnan : F → Bool
  /-- Zero is a number. -/
  isnan_zero : isnan 0 = false

export FloatSample (isnan)

/-- The sample itself, or zero for NaN. -/
def nanToZero {F : Type} [FloatSample F] (x : F) : F := if isnan x then 0 else x

section Sample

variable {F : Type} [FloatSample F]

/-- The replacement never leaves NaN. -/
@[simp] lemma isnan_nanToZero (x : F) : isnan (nanToZero x) = false := by
  unfold nanToZero
  split_ifs with h
  · exact FloatSample.isnan_zero
  · simpa using h

/-- A number is kept. -/
lemma nanToZero_of_not_isnan {x : F} (h : isnan x = false) : nanToZero x = x := by
  simp [nanToZero, h]

/-- Replacing twice is replacing once. -/
@[simp] lemma nanToZero_nanToZero (x : F) : nanToZero (nanToZero x) = nanToZero x :=
  nanToZero_of_not_isnan (isnan_nanToZero x)

@[simp] lemma nanToZero_zero : nanToZero (0 : F) = 0 :=
  nanToZero_of_not_isnan FloatSample.isnan_zero

end Sample

/-- Exact samples: the numbers that a `float` approximates, and NaN. -/
inductive ExactFloat
  | nan
  | number (value : ℚ)
  deriving DecidableEq

instance : FloatSample ExactFloat where
  zero := .number 0
  isnan
    | .nan => true
    | .number _ => false
  isnan_zero := rfl

@[simp] lemma ExactFloat.nanToZero_number (q : ℚ) :
    nanToZero (ExactFloat.number q) = .number q := rfl

/-! ## Audio buffers -/

/-- `juce::AudioBuffer`: sizes and contents. Sample `i` of channel `c` is `data c i`, of
meaning for `c < numChannels` and `i < numSamples`. -/
@[ext] structure AudioBuffer (F : Type) where
  /-- `getNumChannels()`. -/
  numChannels : ℕ
  /-- `getNumSamples()`. -/
  numSamples : ℕ
  /-- The samples, by channel and index. -/
  data : ℕ → ℕ → F

namespace AudioBuffer

variable {F : Type}

/-- `getSample (channel, index)`. -/
def getSample (b : AudioBuffer F) (channel index : ℕ) : F := b.data channel index

/-- `setSample (channel, index, value)`. -/
def setSample (b : AudioBuffer F) (channel index : ℕ) (value : F) : AudioBuffer F :=
  { b with data := Function.update b.data channel (Function.update (b.data channel) index value) }

/-- `setSize (numChannels, numSamples)` with its default arguments: nothing is cleared. A buffer of
these sizes is left alone; any other one then has the samples that the memory happens to hold. -/
def setSize (b : AudioBuffer F) (numChannels numSamples : ℕ) (memory : ℕ → ℕ → F) :
    AudioBuffer F :=
  if b.numChannels = numChannels ∧ b.numSamples = numSamples then b
  else ⟨numChannels, numSamples, memory⟩

/-- `clear()`. -/
def clear [Zero F] (b : AudioBuffer F) : AudioBuffer F :=
  { b with data := fun c i => if c < b.numChannels ∧ i < b.numSamples then 0 else b.data c i }

/-- `makeCopyOf (other)`: the sizes and the samples of the other buffer. -/
def makeCopyOf (b other : AudioBuffer F) : AudioBuffer F :=
  { numChannels := other.numChannels
    numSamples := other.numSamples
    data := fun c i =>
      if c < other.numChannels ∧ i < other.numSamples then other.data c i else b.data c i }

/-- The samples behind `getReadPointer (channel)`, in order. -/
def samples (b : AudioBuffer F) (channel : ℕ) : List F :=
  (List.range b.numSamples).map (b.data channel)

/-- A mono buffer of the listed samples. -/
def ofList [Zero F] (xs : List F) : AudioBuffer F := ⟨1, xs.length, fun _ i => xs.getD i 0⟩

/-- Writes the listed samples to the start of a channel, as a loop of `setSample` does. -/
def setSamples (b : AudioBuffer F) (channel : ℕ) (xs : List F) : AudioBuffer F :=
  { b with
    data := Function.update b.data channel fun i => (xs[i]?).getD (b.data channel i) }

/-- A loop over the channels and in it one over the samples, which sets each of them to a value
computed from it. -/
def forEachSample (b : AudioBuffer F) (f : ℕ → ℕ → F → F) : AudioBuffer F :=
  (List.range b.numChannels).foldl (fun b i =>
    (List.range b.numSamples).foldl (fun b j => b.setSample i j (f i j (b.getSample i j))) b) b

@[simp] lemma setSize_numChannels (b : AudioBuffer F) (numChannels numSamples : ℕ)
    (memory : ℕ → ℕ → F) : (b.setSize numChannels numSamples memory).numChannels = numChannels := by
  unfold setSize
  split_ifs with h
  · exact h.1
  · rfl

@[simp] lemma setSize_numSamples (b : AudioBuffer F) (numChannels numSamples : ℕ)
    (memory : ℕ → ℕ → F) : (b.setSize numChannels numSamples memory).numSamples = numSamples := by
  unfold setSize
  split_ifs with h
  · exact h.2
  · rfl

/-- Sizes that a buffer has already. -/
lemma setSize_of_eq {b : AudioBuffer F} {numChannels numSamples : ℕ}
    (hchannels : b.numChannels = numChannels) (hsamples : b.numSamples = numSamples)
    (memory : ℕ → ℕ → F) : b.setSize numChannels numSamples memory = b :=
  if_pos ⟨hchannels, hsamples⟩

/-- The samples of before stand for those that the memory happens to hold. -/
@[simp] lemma setSize_data (b : AudioBuffer F) (numChannels numSamples : ℕ) :
    b.setSize numChannels numSamples b.data = { b with numChannels, numSamples } := by
  unfold setSize
  split_ifs with h
  · obtain ⟨rfl, rfl⟩ := h
    rfl
  · rfl

@[simp] lemma setSamples_numSamples (b : AudioBuffer F) (c : ℕ) (xs : List F) :
    (b.setSamples c xs).numSamples = b.numSamples := rfl

@[simp] lemma clear_numSamples [Zero F] (b : AudioBuffer F) :
    b.clear.numSamples = b.numSamples := rfl

/-- The channel written to, as a function of the index. -/
lemma setSample_data_self (b : AudioBuffer F) (c i : ℕ) (x : F) :
    (b.setSample c i x).data c = Function.update (b.data c) i x := by
  simp [setSample]

@[simp] lemma length_samples (b : AudioBuffer F) (c : ℕ) :
    (b.samples c).length = b.numSamples := by simp [samples]

/-- Sample `i` of a channel. -/
lemma getElem_samples (b : AudioBuffer F) (c i : ℕ) (h : i < (b.samples c).length) :
    (b.samples c)[i] = b.data c i := by simp [samples]

@[simp] lemma samples_ofList [Zero F] (xs : List F) : (ofList xs).samples 0 = xs := by
  refine List.ext_getElem (by simp [ofList]) fun i h₁ h₂ => ?_
  rw [getElem_samples]
  simp [ofList, List.getElem?_eq_getElem h₂]

@[simp] lemma ofList_numSamples [Zero F] (xs : List F) : (ofList xs).numSamples = xs.length := rfl

/-- A channel filled from a list of its own length reads as that list. -/
lemma samples_setSamples (b : AudioBuffer F) (c : ℕ) {xs : List F}
    (h : xs.length = b.numSamples) : (b.setSamples c xs).samples c = xs := by
  refine List.ext_getElem (by simp [h]) fun i h₁ h₂ => ?_
  rw [getElem_samples]
  simp [setSamples, List.getElem?_eq_getElem h₂]

/-- The inner loop of `forEachSample`, up to sample `n`. -/
lemma foldl_setSample (b : AudioBuffer F) (f : ℕ → ℕ → F → F) (i n : ℕ) :
    (List.range n).foldl (fun b j => b.setSample i j (f i j (b.getSample i j))) b =
      { b with data := fun c j => if c = i ∧ j < n then f c j (b.data c j) else b.data c j } := by
  induction n with
  | zero => simp
  | succ n ih =>
    rw [List.range_succ, List.foldl_append, ih]
    ext c j
    · rfl
    · rfl
    · simp only [List.foldl_cons, List.foldl_nil, setSample, getSample, Function.update_apply]
      by_cases hc : c = i
      · by_cases hj : j = n
        · simp [hc, hj]
        · have hlt : j < n + 1 ↔ j < n := by omega
          simp [hc, hj, hlt]
      · simp [hc]

/-- **The loops set each sample of the buffer once.**

**Proof sketch.** The outer loop is followed channel by channel: after `n` channels exactly the
samples of the first `n` have been set (induction on `n`, with `foldl_setSample` for the inner
loop). -/
lemma forEachSample_eq (b : AudioBuffer F) (f : ℕ → ℕ → F → F) :
    b.forEachSample f =
      { b with
        data := fun c j =>
          if c < b.numChannels ∧ j < b.numSamples then f c j (b.data c j) else b.data c j } := by
  have hloop : ∀ n, (List.range n).foldl (fun b i =>
      (List.range b.numSamples).foldl (fun b j => b.setSample i j (f i j (b.getSample i j))) b) b =
      { b with
        data := fun c j =>
          if c < n ∧ j < b.numSamples then f c j (b.data c j) else b.data c j } := by
    intro n
    induction n with
    | zero => simp
    | succ n ih =>
      rw [List.range_succ, List.foldl_append, ih, List.foldl_cons, List.foldl_nil, foldl_setSample]
      ext c j
      · rfl
      · rfl
      · by_cases hc : c = n
        · simp [hc]
        · have hlt : c < n + 1 ↔ c < n := by omega
          simp [hc, hlt]
  exact hloop b.numChannels

@[simp] lemma forEachSample_numChannels (b : AudioBuffer F) (f : ℕ → ℕ → F → F) :
    (b.forEachSample f).numChannels = b.numChannels := by
  rw [forEachSample_eq]

@[simp] lemma forEachSample_numSamples (b : AudioBuffer F) (f : ℕ → ℕ → F → F) :
    (b.forEachSample f).numSamples = b.numSamples := by
  rw [forEachSample_eq]

/-- The loops compute the new values of the samples of the buffer, and of no others. -/
lemma forEachSample_congr (b : AudioBuffer F) {f g : ℕ → ℕ → F → F}
    (h : ∀ c j, c < b.numChannels → j < b.numSamples → f c j (b.data c j) = g c j (b.data c j)) :
    b.forEachSample f = b.forEachSample g := by
  rw [forEachSample_eq, forEachSample_eq]
  ext c j
  · rfl
  · rfl
  · dsimp only
    split_ifs with hin
    · exact h c j hin.1 hin.2
    · rfl

end AudioBuffer

/-! ## Process specifications -/

/-- `juce::dsp::ProcessSpec`. -/
structure ProcessSpec where
  /-- The sample rate, a `double`. -/
  sampleRate : ℚ
  /-- The largest block the host will send. -/
  maximumBlockSize : ℕ
  /-- The number of channels. -/
  numChannels : ℕ

/-- The ring capacity `(int) spec.sampleRate`, truncated towards zero. -/
def ProcessSpec.ringSize (spec : ProcessSpec) : ℕ := ⌊spec.sampleRate⌋.toNat

/-- At a whole rate it is the rate. -/
lemma ProcessSpec.ringSize_ofNat (rate : ℕ) [rate.AtLeastTwo] (maximumBlockSize numChannels : ℕ) :
    (ProcessSpec.mk (OfNat.ofNat rate) maximumBlockSize numChannels).ringSize =
      OfNat.ofNat rate := by
  rw [ringSize, Int.floor_ofNat]
  rfl
