import Mathlib.Tactic.Linarith
import Scyclone.Dsp.Compressor
import Scyclone.Lib.Traced
import Scyclone.Lib.Transition

set_option relaxedAutoImplicit false
set_option autoImplicit false

/-!
# The bounds of the make-up windows

The size of the windows and their indices in the integers of the machine: `BufferSize` is computed
in `unsigned int` and stored in an `int`, and `copyAutoMakeUpBuffer` compares an index with it only
after the write.

## Main definitions

* `ToUnsigned`, `ProcessSpec.bufferSize` — the arithmetic of `prepare`.
* `WindowIndices` — the members of `AutoMakeUpGain` of type `int`, with `prepare`,
  `copyAutoMakeUpBuffer` and `processBlock`, and the indices that are written at.
* `ProcessSpec.WindowFits` — the condition on the arguments of `prepare`.

## Main results

* `WindowIndices.Tracks.step` — below 2^31 samples a second the indices are those of the compressor.
* `WindowIndices.Prepared.writesInBounds_iff` — one call.
* `window_writes_iff` — the writes of a run.
-/

/-! ## The size -/

/-- `(unsigned int) value` of a `double`: the value without its fraction, where an `unsigned int`
holds that; anything else is left open. -/
structure ToUnsigned where
  toNat : ℚ → ℕ
  toNat_of_lt : ∀ x, 0 ≤ x → x < 2 ^ 32 → toNat x = ⌊x⌋.toNat

/-- A conversion that is right also where it need not be. -/
def ToUnsigned.unbounded : ToUnsigned := ⟨fun x => ⌊x⌋.toNat, fun _ _ _ => rfl⟩

namespace ProcessSpec

/-- `(unsigned int) (spec.sampleRate / spec.maximumBlockSize) * spec.maximumBlockSize`, before it is
reduced to the width of an `unsigned int`. -/
def unsignedSize (convert : ToUnsigned) (spec : ProcessSpec) : ℕ :=
  convert.toNat (spec.sampleRate / spec.maximumBlockSize) * spec.maximumBlockSize

/-- `AutoMakeUpGain::BufferSize`: the product in 32 bits, as an `int`. -/
def bufferSize (convert : ToUnsigned) (spec : ProcessSpec) : ℤ :=
  (BitVec.ofNat 32 (spec.unsignedSize convert)).toInt

/-- A whole block fits into a second, and the size of the windows into an `int`: modulo 2^32, the
samples of as many whole blocks as fit into a second are between 1 and 2^31 - 1. -/
def WindowFits (convert : ToUnsigned) (spec : ProcessSpec) : Prop :=
  0 < spec.unsignedSize convert % 2 ^ 32 ∧ spec.unsignedSize convert % 2 ^ 32 < 2 ^ 31

instance (convert : ToUnsigned) (spec : ProcessSpec) : Decidable (spec.WindowFits convert) :=
  inferInstanceAs (Decidable (_ ∧ _))

lemma bufferSize_pos_iff (convert : ToUnsigned) (spec : ProcessSpec) :
    0 < spec.bufferSize convert ↔ spec.WindowFits convert := by
  unfold bufferSize WindowFits
  rw [BitVec.toInt, BitVec.toNat_ofNat]
  split_ifs <;> omega

/-- Below 2^31 samples a second the product is the exact one.

**Proof sketch.** The quotient is at most the sample rate, so its truncation is the floor, and the
floor times the block size is at most the sample rate again. -/
lemma unsignedSize_eq (convert : ToUnsigned) {spec : ProcessSpec}
    (hblock : 1 ≤ spec.maximumBlockSize) (hrate : 0 ≤ spec.sampleRate)
    (hlt : spec.sampleRate < 2 ^ 31) :
    spec.unsignedSize convert = spec.windowSize ∧ spec.windowSize < 2 ^ 31 := by
  have hone : (1 : ℚ) ≤ spec.maximumBlockSize := by exact_mod_cast hblock
  have hpos : (0 : ℚ) < spec.maximumBlockSize := zero_lt_one.trans_le hone
  have hnonneg : 0 ≤ spec.sampleRate / spec.maximumBlockSize := div_nonneg hrate hpos.le
  have hle : spec.sampleRate / spec.maximumBlockSize ≤ spec.sampleRate := div_le_self hrate hone
  constructor
  · unfold unsignedSize windowSize
    rw [convert.toNat_of_lt _ hnonneg (by linarith)]
  · have hfloor : 0 ≤ ⌊spec.sampleRate / spec.maximumBlockSize⌋ := Int.floor_nonneg.mpr hnonneg
    have hsize : (spec.windowSize : ℚ) ≤ spec.sampleRate := by
      calc (spec.windowSize : ℚ)
          = (⌊spec.sampleRate / spec.maximumBlockSize⌋ : ℚ) * spec.maximumBlockSize := by
            unfold windowSize
            rw [Nat.cast_mul]
            congr 1
            exact_mod_cast Int.toNat_of_nonneg hfloor
        _ ≤ spec.sampleRate / spec.maximumBlockSize * spec.maximumBlockSize :=
            mul_le_mul_of_nonneg_right (Int.floor_le _) hpos.le
        _ = spec.sampleRate := div_mul_cancel₀ _ hpos.ne'
    have : (spec.windowSize : ℚ) < 2 ^ 31 := by linarith
    exact_mod_cast this

/-- Below 2^31 samples a second the size is that of the windows in exact arithmetic. -/
lemma bufferSize_eq (convert : ToUnsigned) {spec : ProcessSpec}
    (hblock : 1 ≤ spec.maximumBlockSize) (hrate : 0 ≤ spec.sampleRate)
    (hlt : spec.sampleRate < 2 ^ 31) : spec.bufferSize convert = spec.windowSize := by
  obtain ⟨heq, hsize⟩ := unsignedSize_eq convert hblock hrate hlt
  unfold bufferSize
  rw [heq, BitVec.toInt, BitVec.toNat_ofNat]
  split_ifs <;> omega

/-- **Below 2^31 samples a second the windows fit exactly if a block does not last longer than a
second.** -/
lemma windowFits_iff (convert : ToUnsigned) {spec : ProcessSpec}
    (hblock : 1 ≤ spec.maximumBlockSize) (hrate : 0 ≤ spec.sampleRate)
    (hlt : spec.sampleRate < 2 ^ 31) :
    spec.WindowFits convert ↔ (spec.maximumBlockSize : ℚ) ≤ spec.sampleRate := by
  have hpos : (0 : ℚ) < spec.maximumBlockSize := by exact_mod_cast hblock
  rw [← bufferSize_pos_iff, bufferSize_eq convert hblock hrate hlt, Nat.cast_pos, windowSize,
    Nat.mul_pos_iff_of_pos_right hblock, ← one_le_div hpos]
  have hfloor := Int.le_floor (z := 1) (a := spec.sampleRate / spec.maximumBlockSize)
  rw [Int.cast_one] at hfloor
  rw [← hfloor]
  omega

end ProcessSpec

/-! ## The indices -/

/-- The members of `AutoMakeUpGain` of type `int` and the flag that `processBlock` tests. The last
field is not a member: it is the specification of the last `prepare`. -/
structure WindowIndices where
  bufferSize : ℤ
  inputBufferIndex : ℤ
  outputBufferIndex : ℤ
  autoMakeUpGain : Bool
  preparedWith : ProcessSpec

namespace WindowIndices

variable {K : Type}

/-- `prepare`. -/
def prepare (convert : ToUnsigned) (w : WindowIndices) (spec : ProcessSpec) : WindowIndices :=
  { w with
    bufferSize := spec.bufferSize convert
    inputBufferIndex := 0
    outputBufferIndex := 0
    preparedWith := spec }

/-- The index of one of the windows. -/
def index (w : WindowIndices) (input : Bool) : ℤ :=
  if input then w.inputBufferIndex else w.outputBufferIndex

/-- Another index of one of the windows. -/
def setIndex (w : WindowIndices) (input : Bool) (index : ℤ) : WindowIndices :=
  if input then { w with inputBufferIndex := index } else { w with outputBufferIndex := index }

/-- The index after one that was written at. -/
def nextIndex (w : WindowIndices) (index : ℤ) : ℤ :=
  if index + 1 ≥ w.bufferSize then 0 else index + 1

/-- The body of the loops of `copyAutoMakeUpBuffer`: a write at the index, which is logged, and then
the step of the index. -/
def copySample (input : Bool) (w : WindowIndices) : Traced ℤ WindowIndices :=
  ⟨w.setIndex input (w.nextIndex (w.index input)), [w.index input]⟩

/-- The loop over the samples of a channel. -/
def copyChannel (input : Bool) (w : WindowIndices) (numSamples : ℕ) : Traced ℤ WindowIndices :=
  (List.range numSamples).foldlM (fun w _ => copySample input w) w

/-- `copyAutoMakeUpBuffer`. -/
def copyAutoMakeUpBuffer (w : WindowIndices) (source : AudioBuffer (WithNan K)) (input : Bool) :
    Traced ℤ WindowIndices :=
  (List.range source.numChannels).foldlM (fun w _ => copyChannel input w source.numSamples) w

/-- `processBlock`. The loops between the two copies leave the size of the block alone. -/
def processBlock (w : WindowIndices) (buffer : AudioBuffer (WithNan K)) :
    Traced ℤ WindowIndices :=
  if w.autoMakeUpGain then do
    let w ← w.copyAutoMakeUpBuffer buffer true
    w.copyAutoMakeUpBuffer buffer false
  else pure w

/-- One call. -/
def step (convert : ToUnsigned) (w : WindowIndices) : Compressor.Event K → Option WindowIndices
  | .prepare spec _ => some (w.prepare convert spec)
  | .setAutoMakeUpGain newBool => some { w with autoMakeUpGain := newBool }
  | .processBlock buffer => some (w.processBlock buffer).value
  | _ => some w

@[simp] lemma index_setIndex (w : WindowIndices) (input : Bool) (i : ℤ) :
    (w.setIndex input i).index input = i := by cases input <;> rfl

@[simp] lemma bufferSize_setIndex (w : WindowIndices) (input : Bool) (i : ℤ) :
    (w.setIndex input i).bufferSize = w.bufferSize := by cases input <;> rfl

/-- Setting an index again. -/
@[simp] lemma setIndex_setIndex (w : WindowIndices) (input : Bool) (i j : ℤ) :
    (w.setIndex input i).setIndex input j = w.setIndex input j := by cases input <;> rfl

/-- The other index is left alone. -/
lemma index_setIndex_of_ne (w : WindowIndices) {input other : Bool} (h : other ≠ input) (i : ℤ) :
    (w.setIndex input i).index other = w.index other := by
  cases input <;> cases other <;> first | rfl | exact absurd rfl h

/-! ## The indices of the compressor -/

section Tracks

variable [Field K] [LinearOrder K]

@[simp] lemma setIndex_index (w : WindowIndices) (input : Bool) :
    w.setIndex input (w.index input) = w := by cases input <;> rfl

/-- The indices are those of the compressor. -/
structure Tracks (w : WindowIndices) (c : Compressor K) : Prop where
  bufferSize : w.bufferSize = c.autoMakeUpGain.bufferSize
  input : w.inputBufferIndex = c.autoMakeUpGain.inputBufferIndex
  output : w.outputBufferIndex = c.autoMakeUpGain.outputBufferIndex
  autoMakeUpGain : w.autoMakeUpGain = c.parameter.autoMakeUpGain

omit [Field K] [LinearOrder K] in
/-- The loop over the samples moves the index as that of the compressor does.

**Proof sketch.** Induction on the samples: one pass advances both indices alike. -/
lemma copyChannel_value {size : ℕ} {w : WindowIndices} (hsize : w.bufferSize = size)
    (input : Bool) {target : AudioBuffer (WithNan K) × ℕ} (hindex : w.index input = target.2)
    (xs : List (WithNan K)) : (copyChannel input w xs.length).value =
      w.setIndex input (xs.foldl (Compressor.copySample size) target).2 := by
  have hloop : ∀ passes : List ℕ, passes.length = xs.length →
      (passes.foldlM (fun w _ => copySample input w) w).value =
        w.setIndex input (xs.foldl (Compressor.copySample size) target).2 := by
    induction xs generalizing w target with
    | nil =>
      intro passes hlength
      rw [List.length_nil, List.length_eq_zero_iff] at hlength
      rw [hlength, List.foldl_nil, ← hindex, setIndex_index]
      rfl
    | cons x xs ih =>
      intro passes hlength
      cases passes with
      | nil => simp at hlength
      | cons pass passes =>
        have hnext : w.nextIndex (w.index input) =
            (Compressor.copySample size target x).2 := by
          simp only [nextIndex, hindex, hsize, Compressor.copySample]
          split_ifs <;> omega
        have hindex' : (w.setIndex input (w.nextIndex (w.index input))).index input =
            (Compressor.copySample size target x).2 := by
          rw [index_setIndex]
          exact hnext
        have hrest := ih (by rw [bufferSize_setIndex]; exact hsize) hindex' passes
          (by simpa using hlength)
        rw [setIndex_setIndex] at hrest
        exact hrest
  exact hloop _ (by simp)

omit [Field K] [LinearOrder K] in
/-- `copyAutoMakeUpBuffer` moves the index as that of the compressor does. -/
lemma copyAutoMakeUpBuffer_value {size : ℕ} {w : WindowIndices} (hsize : w.bufferSize = size)
    (input : Bool) (target : AudioBuffer (WithNan K) × ℕ) (hindex : w.index input = target.2)
    (source source' : AudioBuffer (WithNan K))
    (hchannels : source.numChannels = source'.numChannels)
    (hsamples : source.numSamples = source'.numSamples) :
    (w.copyAutoMakeUpBuffer source input).value =
      w.setIndex input (Compressor.copyToWindow size target source').2 := by
  unfold copyAutoMakeUpBuffer Compressor.copyToWindow
  rw [hchannels]
  generalize List.range source'.numChannels = channels
  induction channels generalizing w target with
  | nil =>
    show w = w.setIndex input target.2
    rw [← hindex, setIndex_index]
  | cons channel channels ih =>
    have hvalue := copyChannel_value hsize input hindex (source'.samples channel)
    rw [AudioBuffer.length_samples, ← hsamples] at hvalue
    rw [List.foldlM_cons, Traced.value_bind, hvalue, List.foldl_cons,
      ih (by rw [bufferSize_setIndex]; exact hsize) _ (index_setIndex _ _ _), setIndex_setIndex]

/-- **Below 2^31 samples a second the indices are those of the compressor**, call by call.

**Proof sketch.** By the call. Below this rate neither conversion of `prepare` overflows, so the
sizes are the same; a block with automatic make-up gain moves both indices by the same copies. -/
theorem Tracks.step {convert : ToUnsigned} {maps : CompressorMaps K} {w w' : WindowIndices}
    {c c' : Compressor K} {e : Compressor.Event K} (h : w.Tracks c)
    (he : ∀ spec memory, e = .prepare spec memory →
      1 ≤ spec.maximumBlockSize ∧ 0 ≤ spec.sampleRate ∧ spec.sampleRate < 2 ^ 31)
    (hw : w.step convert e = some w') (hc : c.step maps e = some c') : w'.Tracks c' := by
  cases e with
  | prepare spec memory =>
    obtain ⟨hblock, hrate, hlt⟩ := he spec memory rfl
    obtain rfl := Option.some.inj hw
    obtain rfl := Option.some.inj hc
    exact ⟨spec.bufferSize_eq convert hblock hrate hlt, rfl, rfl, h.autoMakeUpGain⟩
  | setAutoMakeUpGain newBool =>
    obtain rfl := Option.some.inj hw
    obtain rfl := Option.some.inj hc
    exact ⟨h.bufferSize, h.input, h.output, rfl⟩
  | processBlock buffer =>
    obtain rfl := Option.some.inj hw
    obtain rfl := Option.some.inj hc
    cases hauto : c.parameter.autoMakeUpGain with
    | false =>
      rw [Compressor.processBlock_manual maps hauto, processBlock, h.autoMakeUpGain, hauto]
      exact ⟨h.bufferSize, h.input, h.output, h.autoMakeUpGain⟩
    | true =>
      have hblock := Compressor.processBlock_auto maps hauto buffer
      obtain ⟨-, hinput⟩ := Prod.mk.inj hblock.input
      obtain ⟨-, houtput⟩ := Prod.mk.inj hblock.output
      have hfirst := copyAutoMakeUpBuffer_value h.bufferSize true
        (c.autoMakeUpGain.inputBuffer, c.autoMakeUpGain.inputBufferIndex) h.input buffer buffer
        rfl rfl
      have hsecond := copyAutoMakeUpBuffer_value
        (w := w.setIndex true (Compressor.copyToWindow c.autoMakeUpGain.bufferSize
          (c.autoMakeUpGain.inputBuffer, c.autoMakeUpGain.inputBufferIndex) buffer).2)
        h.bufferSize false
        (c.autoMakeUpGain.outputBuffer, c.autoMakeUpGain.outputBufferIndex) h.output buffer
        (c.compressed maps buffer)
        (by simp [Compressor.compressed, Compressor.compress, AudioBuffer.forEachSample_eq])
        (by simp [Compressor.compressed, Compressor.compress, AudioBuffer.forEachSample_eq])
      rw [processBlock, h.autoMakeUpGain, hauto, if_pos rfl, Traced.value_bind, hfirst, hsecond]
      refine ⟨?_, ?_, ?_, ?_⟩
      · rw [hblock.bufferSize]
        exact h.bufferSize
      · rw [hinput]
        rfl
      · rw [houtput]
        rfl
      · rw [hblock.parameter]
        exact h.autoMakeUpGain
  | setCompressionTypeIndex newCompressionTypeIndex =>
    obtain rfl := Option.some.inj hw
    obtain rfl := Option.some.inj hc
    unfold Compressor.setCompressionTypeIndex
    split_ifs
    · exact ⟨h.bufferSize, h.input, h.output, h.autoMakeUpGain⟩
    · exact ⟨h.bufferSize, h.input, h.output, h.autoMakeUpGain⟩
    · exact h
  | setThreshold newThreshold | setRatio newRatio | setKnee newKnee | setMakeUpGain newMakeUpGain
  | setRange newRange | setAttackTime newAttackTime | setReleaseTime newReleaseTime =>
    obtain rfl := Option.some.inj hw
    obtain rfl := Option.some.inj hc
    exact ⟨h.bufferSize, h.input, h.output, h.autoMakeUpGain⟩

end Tracks

/-! ## One block -/

/-- Both indices lie within the windows, as far as these have entries. -/
structure Placed (size : ℤ) (w : WindowIndices) : Prop where
  bufferSize : w.bufferSize = size
  nonneg : ∀ input, 0 ≤ w.index input
  lt : 0 < size → ∀ input, w.index input < size

/-- The step of an index keeps it within the windows.

**Proof sketch.** The next index is the successor, or 0 if that has reached the size. -/
lemma Placed.setIndex {size : ℤ} {w : WindowIndices} (h : w.Placed size) (input : Bool) :
    (w.setIndex input (w.nextIndex (w.index input))).Placed size := by
  have hnonneg := h.nonneg input
  have hindex : ∀ other, (w.setIndex input (w.nextIndex (w.index input))).index other =
      if other = input then w.nextIndex (w.index input) else w.index other := by
    intro other
    split_ifs with hother
    · rw [hother, index_setIndex]
    · exact w.index_setIndex_of_ne hother _
  refine ⟨by rw [bufferSize_setIndex]; exact h.bufferSize, fun other => ?_,
    fun hpos other => ?_⟩
  · rw [hindex]
    unfold nextIndex
    split_ifs
    · exact le_refl 0
    · omega
    · exact h.nonneg other
  · have hlt := h.lt hpos other
    rw [hindex]
    unfold nextIndex
    rw [h.bufferSize]
    split_ifs
    · exact hpos
    · omega
    · exact hlt

/-- The loops keep the indices within the windows, and write within them if these have entries. -/
lemma Placed.copyAutoMakeUpBuffer {size : ℤ} {w : WindowIndices} (h : w.Placed size)
    (source : AudioBuffer (WithNan K)) (input : Bool) :
    (w.copyAutoMakeUpBuffer source input).value.Placed size ∧
      ∀ i ∈ (w.copyAutoMakeUpBuffer source input).log, 0 < size → 0 ≤ i ∧ i < size := by
  refine Traced.foldlM_invariant (fun w _ h => ?_) h _
  refine Traced.foldlM_invariant (fun w _ h => ⟨h.setIndex input, fun i hi => ?_⟩) h _
  obtain rfl : i = w.index input := by simpa [copySample] using hi
  exact fun hpos => ⟨h.nonneg input, h.lt hpos input⟩

/-- The first write of a copy is at the index. -/
lemma index_mem_log {source : AudioBuffer (WithNan K)} (hchannels : 0 < source.numChannels)
    (hsamples : 0 < source.numSamples) (w : WindowIndices) (input : Bool) :
    w.index input ∈ (w.copyAutoMakeUpBuffer source input).log := by
  obtain ⟨c, hc⟩ := Nat.exists_eq_add_of_lt hchannels
  obtain ⟨n, hn⟩ := Nat.exists_eq_add_of_lt hsamples
  rw [Nat.zero_add] at hc hn
  unfold copyAutoMakeUpBuffer copyChannel
  rw [hc, hn, List.range_succ_eq_map, List.range_succ_eq_map, List.foldlM_cons, List.foldlM_cons]
  simp [copySample]

/-- Nothing is written of a block without channels or samples. -/
lemma not_mem_log {source : AudioBuffer (WithNan K)}
    (h : source.numChannels = 0 ∨ source.numSamples = 0) (w : WindowIndices) (input : Bool)
    (i : ℤ) : i ∉ (w.copyAutoMakeUpBuffer source input).log := by
  unfold copyAutoMakeUpBuffer
  rcases h with h | h
  · simp [h]
  · have hpass : ∀ (w : WindowIndices) (c : ℕ), True → True ∧
        ∀ i ∈ (copyChannel input w source.numSamples).log, False := by
      intro w c _
      simp [copyChannel, h]
    exact fun hi => (Traced.foldlM_invariant hpass trivial (List.range source.numChannels)).2 i hi

/-- The block has entries to copy. -/
def Written (w : WindowIndices) (buffer : AudioBuffer (WithNan K)) : Prop :=
  w.autoMakeUpGain = true ∧ 0 < buffer.numChannels ∧ 0 < buffer.numSamples

/-- **One block** is written within the windows exactly if these have entries or nothing is
written.

**Proof sketch.** With entries every write is at an index below the size, by
`Placed.copyAutoMakeUpBuffer`. Without entries the first write, if there is one, is beyond them. -/
lemma Placed.processBlock {size : ℤ} {w : WindowIndices} (h : w.Placed size)
    (buffer : AudioBuffer (WithNan K)) :
    (w.processBlock buffer).value.Placed size ∧
      ((∀ i ∈ (w.processBlock buffer).log, 0 ≤ i ∧ i < size) ↔
        (w.Written buffer → 0 < size)) := by
  obtain ⟨hinput, hinputlog⟩ := h.copyAutoMakeUpBuffer buffer true
  obtain ⟨houtput, houtputlog⟩ := hinput.copyAutoMakeUpBuffer buffer false
  unfold WindowIndices.processBlock Written
  cases hauto : w.autoMakeUpGain with
  | false => exact ⟨h, by simp⟩
  | true =>
    refine ⟨houtput, ?_⟩
    simp only [if_true, Traced.forall_log_bind, true_and]
    constructor
    · rintro ⟨hwrites, -⟩ ⟨hchannels, hsamples⟩
      have hfirst := hwrites _ (index_mem_log hchannels hsamples w true)
      omega
    · intro hsize
      by_cases hwritten : 0 < buffer.numChannels ∧ 0 < buffer.numSamples
      · have hpos := hsize hwritten
        exact ⟨fun i hi => hinputlog i hi hpos, fun i hi => houtputlog i hi hpos⟩
      · have hempty : buffer.numChannels = 0 ∨ buffer.numSamples = 0 := by omega
        exact ⟨fun i hi => absurd hi (not_mem_log hempty _ _ _),
          fun i hi => absurd hi (not_mem_log hempty _ _ _)⟩

/-! ## Runs -/

/-- Every index that a block writes at lies within the windows. -/
def WritesInBounds (w : WindowIndices) : Compressor.Event K → Prop
  | .processBlock buffer => ∀ i ∈ (w.processBlock buffer).log, 0 ≤ i ∧ i < w.bufferSize
  | _ => True

/-- Where a block is written, the windows of the last `prepare` fit. -/
def FitsWhereWritten (convert : ToUnsigned) (w : WindowIndices) : Compressor.Event K → Prop
  | .processBlock buffer => w.Written buffer → w.preparedWith.WindowFits convert
  | _ => True

/-- A compressor that was prepared. -/
def Prepared (convert : ToUnsigned) (w : WindowIndices) : Prop :=
  w.Placed (w.preparedWith.bufferSize convert)

lemma prepared_prepare (convert : ToUnsigned) (w : WindowIndices) (spec : ProcessSpec) :
    (w.prepare convert spec).Prepared convert := by
  have hindex : ∀ input, (w.prepare convert spec).index input = 0 := by
    intro input
    cases input <;> rfl
  refine ⟨rfl, fun input => ?_, fun hpos input => ?_⟩
  · rw [hindex]
  · rw [hindex]
    exact hpos

/-- The copies leave everything but the indices alone. -/
lemma processBlock_preparedWith (w : WindowIndices) (buffer : AudioBuffer (WithNan K)) :
    (w.processBlock buffer).value.preparedWith = w.preparedWith := by
  have hcopy : ∀ (w : WindowIndices) (input : Bool),
      (w.copyAutoMakeUpBuffer buffer input).value.preparedWith = w.preparedWith := by
    intro w input
    have hset : ∀ (v : WindowIndices) (i : ℤ),
        (v.setIndex input i).preparedWith = v.preparedWith := by
      intro v i
      cases input <;> rfl
    have hsame : ∀ v : WindowIndices, v.preparedWith = w.preparedWith → ∀ n,
        (copyChannel input v n).value.preparedWith = w.preparedWith ∧
          ∀ i ∈ (copyChannel input v n).log, True := fun v hv n =>
      Traced.foldlM_invariant (I := fun v : WindowIndices => v.preparedWith = w.preparedWith)
        (P := fun _ => True) (fun v _ hv => ⟨(hset v _).trans hv, fun _ _ => trivial⟩) hv _
    exact (Traced.foldlM_invariant (P := fun _ => True)
      (I := fun v : WindowIndices => v.preparedWith = w.preparedWith)
      (fun v _ hv => hsame v hv _) rfl _).1
  unfold processBlock
  split_ifs
  · exact (hcopy _ false).trans (hcopy w true)
  · rfl

/-- Every call keeps the indices placed. -/
lemma Prepared.step {convert : ToUnsigned} {w w' : WindowIndices} {e : Compressor.Event K}
    (h : w.Prepared convert) (hs : w.step convert e = some w') : w'.Prepared convert := by
  cases e with
  | prepare spec memory =>
    obtain rfl := Option.some.inj hs
    exact w.prepared_prepare convert spec
  | processBlock buffer =>
    obtain rfl := Option.some.inj hs
    unfold Prepared
    rw [processBlock_preparedWith]
    exact (Placed.processBlock h buffer).1
  | setAutoMakeUpGain newBool =>
    obtain rfl := Option.some.inj hs
    exact ⟨h.bufferSize, h.nonneg, h.lt⟩
  | setThreshold newThreshold | setRatio newRatio | setKnee newKnee | setMakeUpGain newMakeUpGain
  | setRange newRange | setAttackTime newAttackTime | setReleaseTime newReleaseTime
  | setCompressionTypeIndex newCompressionTypeIndex =>
    obtain rfl := Option.some.inj hs
    exact h

/-- One call writes within the windows exactly if these fit where it writes. -/
lemma Prepared.writesInBounds_iff {convert : ToUnsigned} {w : WindowIndices}
    (h : w.Prepared convert) (e : Compressor.Event K) :
    w.WritesInBounds e ↔ w.FitsWhereWritten convert e := by
  cases e with
  | processBlock buffer =>
    unfold WritesInBounds FitsWhereWritten
    dsimp only
    rw [← ProcessSpec.bufferSize_pos_iff, Placed.bufferSize h]
    exact (Placed.processBlock h buffer).2
  | _ => exact Iff.rfl

end WindowIndices

open WindowIndices in
/-- **The writes of a run.** After a `prepare` come blocks, further calls of `prepare` and settings,
in any order. Every index that `copyAutoMakeUpBuffer` writes at lies in `[0, BufferSize)` exactly
if, wherever a block is written, the windows fit: in the last `prepare` a block did not last longer
than a second, as long as the rate is below 2^31.

**Proof sketch.** The index is compared with the size after each write, so it lies within the
windows before the next one if they have entries. If they have none, the first write is already
beyond their end. -/
theorem window_writes_iff {K : Type} (convert : ToUnsigned) (w : WindowIndices)
    (spec : ProcessSpec) (es : List (Compressor.Event K)) :
    (Transition.StepsMeet (step convert) WritesInBounds (w.prepare convert spec) es ↔
      Transition.StepsMeet (step convert) (FitsWhereWritten convert)
        (w.prepare convert spec) es) ∧
    ∀ spec : ProcessSpec, 1 ≤ spec.sampleRate → 1 ≤ spec.maximumBlockSize →
      spec.sampleRate < 2 ^ 31 →
      (spec.WindowFits convert ↔ (spec.maximumBlockSize : ℚ) ≤ spec.sampleRate) := by
  constructor
  · exact Transition.stepsMeet_iff_of_invariant (D := fun _ _ => True)
      (fun _ _ _ h _ hs => h.step hs) (fun w e h _ => h.writesInBounds_iff e)
      (w.prepared_prepare convert spec) (Transition.stepsMeet_of_forall _ fun _ _ => trivial)
  · intro spec hrate hblock hlt
    exact spec.windowFits_iff convert hblock (by linarith) hlt

open WindowIndices in
/-- The theorem at work: a block with automatic make-up gain at 48 kHz, for all of which there is
room. -/
theorem window_writes_48kHz :
    Transition.StepsMeet (step .unbounded) WritesInBounds
      ((⟨0, 0, 0, true, ⟨0, 0, 0⟩⟩ : WindowIndices).prepare .unbounded ⟨48000, 512, 1⟩)
      [(.processBlock (.ofList [0, 0]) : Compressor.Event ℚ)] := by
  obtain ⟨hruns, hrates⟩ := window_writes_iff .unbounded ⟨0, 0, 0, true, ⟨0, 0, 0⟩⟩
    ⟨48000, 512, 1⟩ [(.processBlock (.ofList [0, 0]) : Compressor.Event ℚ)]
  have hfits := (hrates ⟨48000, 512, 1⟩ (by norm_num) (by norm_num) (by norm_num)).mpr
    (by norm_num)
  exact hruns.mpr fun w' _ => ⟨fun _ => hfits, trivial⟩

open WindowIndices in
/-- At 8 kHz with blocks of up to 16384 samples no whole block fits into a second. The windows have
no entries, and a block of one sample is written at index 0. -/
theorem long_block_leaves_the_window :
    ¬ Transition.StepsMeet (step .unbounded) WritesInBounds
      ((⟨0, 0, 0, true, ⟨0, 0, 0⟩⟩ : WindowIndices).prepare .unbounded ⟨8000, 16384, 1⟩)
      [(.processBlock (.ofList [0]) : Compressor.Event ℚ)] := by
  intro h
  have hfits := ((prepared_prepare _ _ _).writesInBounds_iff _).mp (h _ rfl).1
    ⟨rfl, by decide, by decide⟩
  have hempty : ¬ ProcessSpec.WindowFits .unbounded ⟨8000, 16384, 1⟩ := by decide +kernel
  exact hempty hfits
