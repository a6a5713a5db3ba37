import Scyclone.Onnx.InferenceThread

set_option relaxedAutoImplicit false
set_option autoImplicit false

/-!
# The ONNX processor

`OnnxProcessor` of `source/dsp/onnx/OnnxProcessor.cpp`: one inference thread, the ring that
receives the model's output, and the counter of the callbacks that found too few samples
there. `processBlock` sends a block of input and replaces it by output; while the inference
thread still has `init` set the block is left as it is.

The latency is computed in exact rational arithmetic here (`calculateLatency`), where the
source divides two `float`. The warning window for other sample rates than 48 kHz and the
unused `monoBuffer` are left out.

## Main definitions

* `OnnxProcessor` with `construct`, `prepare`, `onNewProcessedBuffer`, `processOutput`,
  `processBlock`, `getLatency`.
* `OutputBranch`, `OnnxProcessor.outputBranch`, `OnnxProcessor.popCount` — the branch that
  `processOutput` takes and the number of samples it pops there.
* `latencyBlocks` — the latency as a number of blocks.

## Main results

* `OnnxProcessor.prepare_latency` — the reported latency is `latencyBlocks` whole blocks.
* `OnnxProcessor.processOutput_eq` — `processOutput` field by field.
* `OnnxProcessor.samples_processOutput` — the block it leaves.
-/

/-- `class OnnxProcessor`. -/
structure OnnxProcessor (F S : Type) where
  number : ℕ
  inferenceThread : InferenceThread F S
  latencyInSamples : ℤ
  receiveRingBuffer : RingBuffer F
  inferenceCounter : ℤ

/-- The branches of `processOutput`. -/
inductive OutputBranch
  /-- `init` is set, the block is left as it is. -/
  | initialising
  /-- Samples of the model replace the block. -/
  | modelSamples
  /-- The branch that prints "missing samples": zeros replace the block. -/
  | missingSamples
  deriving DecidableEq, Repr

/-- The latency as a number of blocks of `blockSize` samples: the callbacks, counted from
zero, that `init` lasts. -/
def latencyBlocks (blockSize : ℕ) : ℕ := (modelInputSize + maxModelCalcSize - 1) / blockSize

/-- The whole blocks of latency end before the last of the awaited samples. -/
lemma latencyBlocks_mul_lt (blockSize : ℕ) :
    latencyBlocks blockSize * blockSize < modelInputSize + maxModelCalcSize := by
  have h := Nat.div_mul_le_self (modelInputSize + maxModelCalcSize - 1) blockSize
  have hpos := modelInputSize_pos
  unfold latencyBlocks
  omega

/-- One more block reaches all of them. -/
lemma le_latencyBlocks_succ_mul {blockSize : ℕ} (h : 0 < blockSize) :
    modelInputSize + maxModelCalcSize ≤ (latencyBlocks blockSize + 1) * blockSize := by
  have := Nat.lt_div_mul_add h (a := modelInputSize + maxModelCalcSize - 1)
  rw [Nat.succ_mul]
  unfold latencyBlocks
  omega

namespace OnnxProcessor

variable {F S File : Type} [FloatSample F]

/-- The constructor. -/
def construct (ort : Ort F S File) (number : ℕ) (raveModel : RaveModel)
    (lastSpec : ProcessSpec) : Except OrtException (OnnxProcessor F S) := do
  let inferenceThread ← InferenceThread.construct ort raveModel lastSpec
  pure
    { number
      inferenceThread
      latencyInSamples := 0
      receiveRingBuffer := ⟨⟨0, 0, fun _ _ => 0⟩, [], []⟩
      inferenceCounter := 0 }

/-- The processor that is constructed with the runtime `Ort.passThrough`. -/
def passThrough (F : Type) [FloatSample F] : OnnxProcessor F Unit where
  number := 1
  inferenceThread :=
    { thread := .stopped
      init := true
      initSamples := 0
      startUp := false
      lastSpec := ⟨0, 0, 0⟩
      currentLevel := .funkDrum
      session := some ()
      onnxInputData := fun _ => 0
      onnxOutputData := fun _ => 0
      receiveRingBuffer := ⟨⟨0, 0, fun _ _ => 0⟩, [], []⟩
      loadingModel := false }
  latencyInSamples := 0
  receiveRingBuffer := ⟨⟨0, 0, fun _ _ => 0⟩, [], []⟩
  inferenceCounter := 0

example :
    construct (Ort.passThrough F) 1 .funkDrum ⟨0, 0, 0⟩ = .ok (passThrough F) := rfl

/-- The callback `inferenceThread.onNewProcessedBuffer`: the loop pushing the block. -/
def onNewProcessedBuffer (p : OnnxProcessor F S) (block : ModelBlock F) : OnnxProcessor F S :=
  { p with receiveRingBuffer := p.receiveRingBuffer.pushSamples (List.ofFn block) 0 }

/-- `calculateLatency`. -/
def calculateLatency (p : OnnxProcessor F S) (maxSamplesPerBuffer : ℕ) : OnnxProcessor F S :=
  let latency : ℚ := (p.inferenceThread.getLatency : ℚ) / (maxSamplesPerBuffer : ℚ)
  { p with
    latencyInSamples :=
      if latency = (⌊latency⌋ : ℤ) then ⌊latency⌋ * maxSamplesPerBuffer - maxSamplesPerBuffer
      else ⌊latency + 1⌋ * maxSamplesPerBuffer - maxSamplesPerBuffer }

/-- `prepare`. -/
def prepare (p : OnnxProcessor F S) (spec : ProcessSpec) : OnnxProcessor F S :=
  { p with
    receiveRingBuffer := p.receiveRingBuffer.initialise 1 spec.ringSize
    inferenceThread := p.inferenceThread.prepare spec
    inferenceCounter := 0 }.calculateLatency spec.maximumBlockSize

/-- `getLatency`. -/
def getLatency (p : OnnxProcessor F S) : ℤ := p.latencyInSamples

/-- `processOutput`. -/
def processOutput (p : OnnxProcessor F S) (buffer : AudioBuffer F) (numSamples : ℕ) :
    OnnxProcessor F S × AudioBuffer F :=
  let availableSamples := p.receiveRingBuffer.getAvailableSamples 0
  if !p.inferenceThread.init then
    if availableSamples ≥ numSamples then
      let p :=
        if p.inferenceCounter > 0 then
          if availableSamples ≥ 2 * numSamples then
            { p with
              receiveRingBuffer := (p.receiveRingBuffer.popSamples 0 numSamples).2
              inferenceCounter := p.inferenceCounter - 1 }
          else p
        else p
      ({ p with receiveRingBuffer := (p.receiveRingBuffer.popSamples 0 numSamples).2 },
        buffer.setSamples 0 (p.receiveRingBuffer.popSamples 0 numSamples).1)
    else
      ({ p with inferenceCounter := p.inferenceCounter + 1 },
        buffer.setSamples 0 (List.replicate numSamples 0))
  else (p, buffer)

/-- `inferenceThread.sendAudio (buffer)`, the first half of `processBlock`. -/
def sendAudio (p : OnnxProcessor F S) (buffer : AudioBuffer F) : OnnxProcessor F S :=
  { p with inferenceThread := p.inferenceThread.sendAudio buffer }

/-- `processBlock`. -/
def processBlock (p : OnnxProcessor F S) (buffer : AudioBuffer F) :
    OnnxProcessor F S × AudioBuffer F :=
  (p.sendAudio buffer).processOutput buffer buffer.numSamples

/-! ## Latency -/

omit [FloatSample F] in
/-- The reported latency is the whole number of blocks that `init` lasts.

**Proof sketch.** With `a = modelInputSize + maxModelCalcSize` and `M` the block size, the
quotient `a / M` is its own floor exactly if `M ∣ a`. The two branches then give `a / M - 1`
and `a / M` blocks, which is `(a - 1) / M` in both cases. -/
lemma calculateLatency_getLatency (p : OnnxProcessor F S) {blockSize : ℕ} (h : 0 < blockSize) :
    (p.calculateLatency blockSize).getLatency = (latencyBlocks blockSize * blockSize : ℕ) := by
  set a := modelInputSize + maxModelCalcSize with ha
  have hM : (blockSize : ℚ) ≠ 0 := by exact_mod_cast h.ne'
  have hfloor : ⌊(a : ℚ) / (blockSize : ℚ)⌋ = ((a / blockSize : ℕ) : ℤ) := by
    rw [← Int.cast_natCast a, Rat.floor_intCast_div_natCast]
    rfl
  have hint : ((a : ℚ) / (blockSize : ℚ) = ((a / blockSize : ℕ) : ℤ)) ↔ blockSize ∣ a := by
    rw [div_eq_iff hM, Nat.dvd_iff_div_mul_eq, eq_comm]
    norm_cast
  have hval : (p.calculateLatency blockSize).getLatency =
      if blockSize ∣ a then (a / blockSize : ℕ) * (blockSize : ℤ) - blockSize
      else ((a / blockSize : ℕ) + 1) * (blockSize : ℤ) - blockSize := by
    unfold calculateLatency getLatency InferenceThread.getLatency
    simp only [← ha, hfloor, hint, Int.floor_add_one]
  have hpos : 0 < a := Nat.add_pos_left modelInputSize_pos _
  rw [hval]
  unfold latencyBlocks
  rw [← ha]
  split_ifs with hd
  · obtain ⟨q, hq⟩ := hd
    obtain ⟨q, rfl⟩ : ∃ q', q = q' + 1 := by
      refine ⟨q - 1, ?_⟩
      rcases Nat.eq_zero_or_pos q with rfl | hq0
      · omega
      · omega
    have hsub : a - 1 = blockSize * q + (blockSize - 1) := by
      rw [hq, Nat.mul_succ]; omega
    rw [hsub, Nat.mul_add_div h, Nat.div_eq_of_lt (by omega : blockSize - 1 < blockSize), hq,
      Nat.mul_div_cancel_left _ h]
    push_cast
    ring
  · have hmod := Nat.div_add_mod a blockSize
    have hne : a % blockSize ≠ 0 := fun h0 => hd (Nat.dvd_of_mod_eq_zero h0)
    have hlt := Nat.mod_lt a h
    have hsub : a - 1 = blockSize * (a / blockSize) + (a % blockSize - 1) := by omega
    rw [hsub, Nat.mul_add_div h,
      Nat.div_eq_of_lt (by omega : a % blockSize - 1 < blockSize)]
    push_cast
    ring

omit [FloatSample F] in
/-- After `prepare` the reported latency is `latencyBlocks` blocks. -/
lemma prepare_latency (p : OnnxProcessor F S) (spec : ProcessSpec)
    (h : 0 < spec.maximumBlockSize) : (p.prepare spec).getLatency =
      (latencyBlocks spec.maximumBlockSize * spec.maximumBlockSize : ℕ) :=
  calculateLatency_getLatency _ h

/-! ## The branches of `processOutput` -/

/-- The branch that `processOutput` takes. -/
def outputBranch (p : OnnxProcessor F S) (numSamples : ℕ) : OutputBranch :=
  if p.inferenceThread.init then .initialising
  else if p.receiveRingBuffer.getAvailableSamples 0 ≥ numSamples then .modelSamples
  else .missingSamples

/-- Whether a block of samples is discarded before the samples of the model are taken. -/
def discards (p : OnnxProcessor F S) (numSamples : ℕ) : Bool :=
  decide (p.inferenceCounter > 0)
    && decide (p.receiveRingBuffer.getAvailableSamples 0 ≥ 2 * numSamples)

/-- The number of samples popped and thrown away. -/
def discardCount (p : OnnxProcessor F S) (numSamples : ℕ) : ℕ :=
  if p.discards numSamples then numSamples else 0

/-- The number of calls of `popSample` that `processOutput` makes. -/
def popCount (p : OnnxProcessor F S) (numSamples : ℕ) : ℕ :=
  match p.outputBranch numSamples with
  | .initialising => 0
  | .modelSamples => p.discardCount numSamples + numSamples
  | .missingSamples => 0

/-- The counter after `processOutput`. -/
def counterAfter (p : OnnxProcessor F S) (numSamples : ℕ) : ℤ :=
  match p.outputBranch numSamples with
  | .initialising => p.inferenceCounter
  | .modelSamples =>
    if p.discards numSamples then p.inferenceCounter - 1 else p.inferenceCounter
  | .missingSamples => p.inferenceCounter + 1

/-- `processOutput` field by field: it pops `popCount` samples and moves the counter.

**Proof sketch.** By the branch taken. In the branch of the model's samples the discarded block
and the block used are popped in two loops, which are one loop of pops (`popSamples_add`). -/
lemma processOutput_eq (p : OnnxProcessor F S) (buffer : AudioBuffer F) (numSamples : ℕ) :
    (p.processOutput buffer numSamples).1 =
      { p with
        receiveRingBuffer := (p.receiveRingBuffer.popSamples 0 (p.popCount numSamples)).2
        inferenceCounter := p.counterAfter numSamples } := by
  unfold processOutput popCount counterAfter outputBranch discardCount discards
  cases hi : p.inferenceThread.init with
  | true => simp [RingBuffer.popSamples]
  | false =>
    by_cases ha : p.receiveRingBuffer.getAvailableSamples 0 ≥ numSamples
    · by_cases hc : p.inferenceCounter > 0
      · by_cases hd : p.receiveRingBuffer.getAvailableSamples 0 ≥ 2 * numSamples
        · simp [ha, hc, hd, RingBuffer.popSamples_add]
        · simp [ha, hc, hd]
      · simp [ha, hc]
    · simp [ha, RingBuffer.popSamples]

/-- The block that `processOutput` leaves, by the branch taken. -/
lemma samples_processOutput (p : OnnxProcessor F S) (buffer : AudioBuffer F) :
    (p.processOutput buffer buffer.numSamples).2.samples 0 =
      match p.outputBranch buffer.numSamples with
      | .initialising => buffer.samples 0
      | .modelSamples =>
        (p.receiveRingBuffer.popSamples 0 (p.popCount buffer.numSamples)).1.drop
          (p.discardCount buffer.numSamples)
      | .missingSamples => List.replicate buffer.numSamples 0 := by
  unfold processOutput popCount outputBranch discardCount discards
  cases hi : p.inferenceThread.init with
  | true => simp
  | false =>
    by_cases ha : p.receiveRingBuffer.getAvailableSamples 0 ≥ buffer.numSamples
    · by_cases hc : p.inferenceCounter > 0
      · by_cases hd : p.receiveRingBuffer.getAvailableSamples 0 ≥ 2 * buffer.numSamples
        · simp [ha, hc, hd, RingBuffer.popSamples_add, AudioBuffer.samples_setSamples]
        · simp [ha, hc, hd, AudioBuffer.samples_setSamples]
      · simp [ha, hc, AudioBuffer.samples_setSamples]
    · simp [ha, AudioBuffer.samples_setSamples]

/-- `processOutput` works in place. -/
lemma processOutput_numSamples (p : OnnxProcessor F S) (buffer : AudioBuffer F)
    (numSamples : ℕ) : (p.processOutput buffer numSamples).2.numSamples = buffer.numSamples := by
  unfold processOutput
  dsimp only
  split_ifs <;> rfl

omit [FloatSample F] in
/-- When the samples of the model are used. -/
lemma outputBranch_eq_modelSamples {p : OnnxProcessor F S} {numSamples : ℕ} :
    p.outputBranch numSamples = .modelSamples ↔ p.inferenceThread.init = false ∧
      numSamples ≤ p.receiveRingBuffer.getAvailableSamples 0 := by
  unfold outputBranch
  split_ifs <;> simp_all

omit [FloatSample F] in
/-- When the block is left as it is. -/
lemma outputBranch_eq_initialising {p : OnnxProcessor F S} {numSamples : ℕ} :
    p.outputBranch numSamples = .initialising ↔ p.inferenceThread.init = true := by
  unfold outputBranch
  split_ifs <;> simp_all

omit [FloatSample F] in
/-- A block is discarded only if one is left to be used. -/
lemma discardCount_add_le {p : OnnxProcessor F S} {numSamples : ℕ}
    (h : numSamples ≤ p.receiveRingBuffer.getAvailableSamples 0) :
    p.discardCount numSamples + numSamples ≤ p.receiveRingBuffer.getAvailableSamples 0 := by
  unfold discardCount discards
  split_ifs with hd
  · simp only [Bool.and_eq_true, decide_eq_true_eq] at hd
    omega
  · omega

omit [FloatSample F] in
/-- In the branch of the model's samples, those thrown away and those used are popped. -/
lemma popCount_of_modelSamples {p : OnnxProcessor F S} {numSamples : ℕ}
    (h : p.outputBranch numSamples = .modelSamples) :
    p.popCount numSamples = p.discardCount numSamples + numSamples := by
  unfold popCount
  rw [h]

omit [FloatSample F] in
/-- At most as many samples are popped as the ring counts. -/
lemma popCount_le (p : OnnxProcessor F S) (numSamples : ℕ) :
    p.popCount numSamples ≤ p.receiveRingBuffer.getAvailableSamples 0 := by
  unfold popCount
  cases hb : p.outputBranch numSamples with
  | initialising => exact Nat.zero_le _
  | modelSamples => exact discardCount_add_le (outputBranch_eq_modelSamples.mp hb).2
  | missingSamples => exact Nat.zero_le _

omit [FloatSample F] in
/-- The counter never falls below zero. -/
lemma counterAfter_nonneg (p : OnnxProcessor F S) (numSamples : ℕ)
    (h : 0 ≤ p.inferenceCounter) : 0 ≤ p.counterAfter numSamples := by
  unfold counterAfter discards
  split
  · exact h
  · split_ifs with hd
    · simp only [Bool.and_eq_true, decide_eq_true_eq] at hd
      omega
    · exact h
  · omega

end OnnxProcessor
