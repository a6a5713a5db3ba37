import Scyclone.Onnx.Timing
import Mathlib.Data.List.Nodup

set_option relaxedAutoImplicit false
set_option autoImplicit false

/-!
# What the model is fed

Between two calls of `prepare` the input ring is filled by every callback and emptied one block
of `modelInputSize` samples at a time, by callbacks that find the thread idle. `pushSample` does
not check whether the ring is full, so a thread that is slow for long enough, or a ring that is
small enough, lets new samples overwrite samples that no block has taken.

## Main definitions

* `InputIntact` — the blocks handed to the model are the consecutive cuts of the stream sent,
  and every later sample is still in its cell of the ring.
* `RoomFor` — the ring has room for the samples of a callback.

## Main results

* `InputKept.step` — a callback that there is room for keeps the input intact.
* `roomFor_of_inputIntact` — on a stream of distinct samples no other one does.
* `inputIntact_of_roomFor` — the two along whole runs.
-/

variable {F S File : Type} [FloatSample F]

/-- The blocks handed to the model are, in order, the cuts of the stream sent, NaN replaced by
zero; what has been sent and is in none of them can still be read from the ring. -/
structure InputIntact (o : Observed F S) : Prop where
  blocks : o.history.blocks =
    (List.range o.history.blocks.length).map (cutBlock (o.history.sent.map nanToZero))
  consumed : o.history.blocks.length * modelInputSize ≤ o.history.sent.length
  unread : ∀ i (hi : i < o.history.sent.length), o.history.blocks.length * modelInputSize ≤ i →
    o.inference.receiveRingBuffer.buffer.data 0 (i % o.inference.receiveRingBuffer.period) =
      nanToZero o.history.sent[i]

/-- The samples that `sendAudio` is about to push fit into a ring of `capacity` samples, next to
those sent that no block has taken yet. -/
def RoomFor (capacity : ℕ) (o : Observed F S) : AudioEvent F → Prop
  | .sendAudio buffer =>
    o.history.sent.length + buffer.numSamples ≤
      o.history.blocks.length * modelInputSize + capacity
  | .processOutput => True
  | .deliver => True
  | .threadEnd => True

/-- No two of the samples sent are equal. -/
def DistinctSent (o : Observed F S) : Prop := (o.history.sent.map nanToZero).Nodup

/-! ## Room is enough -/

/-- The rings and the stream while there has been room for every callback. -/
structure InputKept (period : ℕ) (o : Observed F S) : Prop where
  rings : RingsTracked period o
  blocks : o.history.blocks =
    (List.range o.history.blocks.length).map (cutBlock (o.history.sent.map nanToZero))
  room : o.history.sent.length ≤ o.history.blocks.length * modelInputSize + period

/-- The input is intact as long as there has been room. -/
lemma InputKept.intact {period : ℕ} {o : Observed F S} (h : InputKept period o) :
    InputIntact o where
  blocks := h.blocks
  consumed := h.rings.input.popped_le
  unread i hi hle := by
    have hroom := h.room
    have hread := h.rings.input.holds.read (i := i) (by simpa using hi)
      (by rw [h.rings.inputPeriod, List.length_map]; omega)
    rw [hread, List.getElem_map]

/-- The cuts of the stream are kept when it grows. -/
lemma cutBlocks_append {xs : List F} {k : ℕ} (h : k * modelInputSize ≤ xs.length)
    (ys : List F) :
    (List.range k).map (cutBlock ((xs ++ ys).map nanToZero)) =
      (List.range k).map (cutBlock (xs.map nanToZero)) := by
  refine List.map_congr_left fun j hj => ?_
  have hjk : (j + 1) * modelInputSize ≤ k * modelInputSize :=
    Nat.mul_le_mul_right _ (List.mem_range.mp hj)
  rw [List.map_append, cutBlock_append (by rw [List.length_map]; omega)]

/-- The block handed to the model is the next cut, if nothing of it was overwritten. -/
lemma RingsTracked.nextBlock_eq {period : ℕ} {o : Observed F S} (h : RingsTracked period o)
    {buffer : AudioBuffer F} (hs : o.inference.starts buffer = true)
    (hroom : o.history.sent.length + buffer.numSamples ≤
      o.history.blocks.length * modelInputSize + period) :
    o.nextBlock buffer = cutBlock ((o.history.sent ++ buffer.samples 0).map nanToZero)
      o.history.blocks.length := by
  have hper : (o.inference.fedRing buffer).period = period := by
    simp [InferenceThread.fedRing, h.inputPeriod]
  unfold Observed.nextBlock cutBlock
  rw [(h.fedRing buffer).popSamples_fst (h.block_sent hs) (by simpa [hper] using hroom)]

/-- **A callback that there is room for keeps the input**, and so does every other step.

**Proof sketch.** Only `sendAudio` touches the stream, the blocks and the input ring. If it starts
the thread, the block it pops is the next cut, since no sample of it was overwritten; and the
cuts taken before are not changed by what is sent later. -/
theorem InputKept.step {ort : Ort F S File} {period : ℕ} {o o' : Observed F S}
    (h : InputKept period o) {e : AudioEvent F} (hroom : RoomFor period o e)
    (hs : o.step ort e = some o') : InputKept period o' := by
  refine ⟨h.rings.step hs, ?_, ?_⟩
  · cases e with
    | sendAudio buffer =>
      obtain ⟨-, rfl⟩ := Observed.step_sendAudio hs
      have hcuts := cutBlocks_append h.rings.input.popped_le (buffer.samples 0)
      cases hst : o.inference.starts buffer with
      | true =>
        have hnext := h.rings.nextBlock_eq hst hroom
        simp only [if_true, List.length_append, List.length_singleton, List.range_succ,
          List.map_append, List.map_singleton]
        rw [hnext, ← List.map_append, hcuts, ← h.blocks]
      | false =>
        simp only [Bool.false_eq_true, if_false]
        rw [hcuts]
        exact h.blocks
    | processOutput =>
      obtain ⟨buffer, -, rfl⟩ := Observed.step_processOutput hs
      exact h.blocks
    | deliver =>
      obtain ⟨-, rfl⟩ := Observed.step_deliver hs
      exact h.blocks
    | threadEnd =>
      obtain ⟨-, rfl⟩ := Observed.step_threadEnd hs
      exact h.blocks
  · cases e with
    | sendAudio buffer =>
      obtain ⟨-, rfl⟩ := Observed.step_sendAudio hs
      have hlen : o.history.blocks.length ≤
          (if o.inference.starts buffer then o.history.blocks ++ [o.nextBlock buffer]
            else o.history.blocks).length := by
        split_ifs <;> simp
      have hmul := Nat.mul_le_mul_right modelInputSize hlen
      simp only [RoomFor] at hroom
      simp only [List.length_append, AudioBuffer.length_samples]
      omega
    | processOutput =>
      obtain ⟨buffer, -, rfl⟩ := Observed.step_processOutput hs
      exact h.room
    | deliver =>
      obtain ⟨-, rfl⟩ := Observed.step_deliver hs
      exact h.room
    | threadEnd =>
      obtain ⟨-, rfl⟩ := Observed.step_threadEnd hs
      exact h.room

/-- Nothing has been sent at the start. -/
lemma InputKept.start (p : OnnxProcessor F S) (spec : ProcessSpec) :
    InputKept (max spec.ringSize 1) (Observed.start p spec) where
  rings := RingsTracked.start p spec
  blocks := rfl
  room := Nat.zero_le _

/-! ## Room is needed -/

/-- The cell of the oldest sample that no block has taken, once more samples were pushed than
there are cells: it reads as a later sample. -/
lemma cell_ne_of_overwritten {rb : RingBuffer F} {xs : List F} {first : ℕ}
    (h : rb.Tracks 0 xs first) (hdistinct : (xs.map nanToZero).Nodup) (hfirst : first < xs.length)
    (hlost : first + rb.period < xs.length) :
    rb.buffer.data 0 (first % rb.period) ≠ nanToZero xs[first] ∧
      nanToZero (rb.buffer.data 0 (first % rb.period)) = rb.buffer.data 0 (first % rb.period) := by
  obtain ⟨j, hj, hfj, hcell⟩ := h.holds.overwritten rb.period_pos (i := first)
    (by rw [List.length_map]; exact hlost)
  rw [hcell, List.getElem_map, nanToZero_nanToZero]
  refine ⟨fun heq => ?_, rfl⟩
  rw [← List.getElem_map nanToZero (h := hj),
    ← List.getElem_map nanToZero (h := by simpa using hfirst)] at heq
  have := (List.Nodup.getElem_inj_iff hdistinct).mp heq
  omega

/-- A stream of distinct samples whose unread part is intact fits into the ring. -/
lemma InputIntact.room {period : ℕ} {o : Observed F S} (h : InputIntact o)
    (hrings : RingsTracked period o) (hdistinct : DistinctSent o) :
    o.history.sent.length ≤ o.history.blocks.length * modelInputSize + period := by
  by_contra hfull
  have hlt : o.history.blocks.length * modelInputSize < o.history.sent.length := by omega
  refine (cell_ne_of_overwritten hrings.input hdistinct hlt ?_).1 (h.unread _ hlt le_rfl)
  rw [hrings.inputPeriod]
  omega

/-- **A callback that leaves a stream of distinct samples intact had room.**

**Proof sketch.** Without room, the cell of the oldest sample that no block has taken reads as a
later sample of the stream. If the thread is not started, that sample is unread and gone; if it
is, it should be the first of the block handed to the model. -/
theorem roomFor_of_inputIntact {ort : Ort F S File} {period : ℕ} {o o' : Observed F S}
    (h : RingsTracked period o) {e : AudioEvent F} (hs : o.step ort e = some o')
    (hintact : InputIntact o') (hdistinct : DistinctSent o') : RoomFor period o e := by
  cases e with
  | processOutput => trivial
  | deliver => trivial
  | threadEnd => trivial
  | sendAudio buffer =>
    have hrings := h.step hs
    obtain ⟨-, rfl⟩ := Observed.step_sendAudio hs
    simp only [RoomFor]
    cases hst : o.inference.starts buffer with
    | false =>
      have hroom := hintact.room hrings hdistinct
      simp only [hst, Bool.false_eq_true, if_false, List.length_append,
        AudioBuffer.length_samples] at hroom
      exact hroom
    | true =>
      simp only [hst, if_true] at hintact
      simp only [DistinctSent] at hdistinct
      set xs := o.history.sent ++ buffer.samples 0 with hxs
      have hfed := h.fedRing buffer
      have hper : (o.inference.fedRing buffer).period = period := by
        simp [InferenceThread.fedRing, h.inputPeriod]
      by_contra hfull
      have hlost : o.history.blocks.length * modelInputSize +
          (o.inference.fedRing buffer).period < xs.length := by
        rw [hper, hxs, List.length_append, AudioBuffer.length_samples]
        omega
      obtain ⟨hne, hnum⟩ := cell_ne_of_overwritten hfed hdistinct
        (lt_of_le_of_lt (Nat.le_add_right _ _) hlost) hlost
      -- the block popped is the next cut, so its first sample is the one overwritten
      have hblocks := hintact.blocks
      simp only [List.length_append, List.length_singleton, List.range_succ, List.map_append,
        List.map_singleton] at hblocks
      have hnext : o.nextBlock buffer = cutBlock (xs.map nanToZero) o.history.blocks.length :=
        List.singleton_injective (List.append_inj' hblocks (by simp)).2
      have hfirst : o.nextBlock buffer ⟨0, modelInputSize_pos⟩ =
          ((o.inference.fedRing buffer).popSample 0).1 := by
        unfold Observed.nextBlock ModelBlock.ofList
        exact RingBuffer.popSamples_getD_zero _ _ modelInputSize_pos _
      obtain ⟨hi, hcut⟩ := cutBlock_apply (xs.map nanToZero)
        (j := o.history.blocks.length)
        (by rw [List.length_map, Nat.succ_mul]; exact h.block_sent hst) ⟨0, modelInputSize_pos⟩
      rw [← hnext, hfirst, RingBuffer.popSample_fst, hfed.readPos_eq, hnum,
        List.getElem_map] at hcut
      exact hne hcut

/-! ## Whole runs -/

/-- **The blocks handed to the model are the consecutive cuts of the stream, and nothing is
overwritten, in every run whose callbacks all find room in the ring.** On a stream of distinct
samples there is no other such run.

**Proof sketch.** The invariant `InputKept` is kept by every step that finds room, and implies the
property. For the other direction a callback that finds none overwrites a sample before it is read,
which shows in a stream of distinct samples. -/
theorem inputIntact_of_roomFor (ort : Ort F S File) (p : OnnxProcessor F S) (spec : ProcessSpec)
    (es : List (AudioEvent F)) :
    (Transition.StepsMeet (Observed.step ort) (RoomFor spec.ringSize) (Observed.start p spec) es →
      Transition.Always (Observed.step ort) InputIntact (Observed.start p spec) es) ∧
    (0 < spec.ringSize →
      Transition.Always (Observed.step ort) DistinctSent (Observed.start p spec) es →
      Transition.Always (Observed.step ort) InputIntact (Observed.start p spec) es →
      Transition.StepsMeet (Observed.step ort) (RoomFor spec.ringSize)
        (Observed.start p spec) es) := by
  constructor
  · intro hroom
    have hroom' : Transition.StepsMeet (Observed.step ort) (RoomFor (max spec.ringSize 1))
        (Observed.start p spec) es := by
      refine hroom.mono fun o e h => ?_
      cases e with
      | sendAudio buffer =>
        simp only [RoomFor] at h ⊢
        omega
      | processOutput => trivial
      | deliver => trivial
      | threadEnd => trivial
    exact (Transition.always_of_stepsMeet (fun _ _ _ h hc hs => h.step hc hs)
      (InputKept.start p spec) hroom').mono fun _ h => h.intact
  · intro hpos hdistinct hintact
    have hmax : max spec.ringSize 1 = spec.ringSize := max_eq_left hpos
    have hrings := RingsTracked.always ort p spec es
    rw [hmax] at hrings
    exact Transition.stepsMeet_of_always (fun _ _ _ h h' hs =>
      roomFor_of_inputIntact h.2.2 hs h'.1 h'.2.1) (hintact.and (hdistinct.and hrings))

/-- The events of whole callbacks on the listed blocks, with no step of the inference thread. -/
def callbacks (bs : List (AudioBuffer F)) : List (AudioEvent F) :=
  bs.flatMap fun buffer => [.sendAudio buffer, .processOutput]

/-- Block `i` of a stream of distinct samples, cut into blocks of `size` samples. -/
def rampBlock (size i : ℕ) : AudioBuffer ExactFloat :=
  .ofList ((List.range size).map fun j => .number ((i * size + j : ℕ) : ℚ))

@[simp] lemma rampBlock_numSamples (size i : ℕ) : (rampBlock size i).numSamples = size := by
  rw [rampBlock, AudioBuffer.ofList_numSamples, List.length_map, List.length_range]

/-- `RoomFor`, of a timing. -/
def Timing.roomFor (capacity : ℕ) (t : Timing) : TimingEvent → Bool
  | .sendAudio numSamples =>
    decide (t.sent + numSamples ≤ t.blocks * modelInputSize + capacity)
  | .processOutput => true
  | .deliver => true
  | .threadEnd => true

omit [FloatSample F] in
lemma roomFor_of_timing {capacity : ℕ} (o : Observed F S) (e : AudioEvent F)
    (h : o.timing.roomFor capacity e.timing = true) : RoomFor capacity o e := by
  cases e with
  | sendAudio buffer =>
    simp only [AudioEvent.timing, Timing.roomFor, decide_eq_true_eq] at h
    exact h
  | processOutput => trivial
  | deliver => trivial
  | threadEnd => trivial

/-- Two callbacks of a whole model block each, and a third one after the inference that the first
one has started has ended. -/
def lateCompletion : List (AudioEvent ExactFloat) :=
  callbacks [rampBlock 16384 0, rampBlock 16384 1] ++ [.deliver, .threadEnd] ++
    callbacks [rampBlock 16384 2]

/-- The theorem at work: at 48 kHz there is room for the second block while the inference on the
first one is still running, and the third callback hands the second block to the model. -/
theorem inputIntact_late_completion :
    (∃ o, Transition.exec (Observed.step (Ort.passThrough ExactFloat))
        (Observed.start (.passThrough ExactFloat) ⟨48000, 16384, 1⟩) lateCompletion = some o ∧
      o.history.blocks.length = 2 ∧ o.history.sent.length = 3 * 16384) ∧
      Transition.Always (Observed.step (Ort.passThrough ExactFloat)) InputIntact
        (Observed.start (.passThrough ExactFloat) ⟨48000, 16384, 1⟩) lateCompletion := by
  have hevents : lateCompletion.map AudioEvent.timing =
      [.sendAudio 16384, .processOutput, .sendAudio 16384, .processOutput, .deliver, .threadEnd,
        .sendAudio 16384, .processOutput] := by
    simp [lateCompletion, callbacks, AudioEvent.timing]
  constructor
  · obtain ⟨o, hexec, hcounts⟩ := Observed.exists_exec_start
      (p := OnnxProcessor.passThrough ExactFloat) rfl rfl (Ort.passThrough ExactFloat)
      ⟨48000, 16384, 1⟩ lateCompletion
      (fun t => (t.blocks, t.sent)) (a := (2, 3 * 16384)) (by
        rw [ProcessSpec.ringSize_ofNat, hevents]
        decide +kernel)
    exact ⟨o, hexec, (Prod.ext_iff.mp hcounts).1, (Prod.ext_iff.mp hcounts).2⟩
  · refine (inputIntact_of_roomFor _ _ _ _).1 (Observed.stepsMeet_start rfl rfl _
      roomFor_of_timing ?_)
    rw [ProcessSpec.ringSize_ofNat, hevents]
    decide +kernel

/-! ## A slow inference thread -/

/-- While the inference thread takes no step, at most one block is handed to the model.

**Proof sketch.** Induction on the callbacks. Once the thread has been started it stays busy, and
from then on no block is taken. -/
lemma exists_exec_callbacks (ort : Ort F S File) (bs : List (AudioBuffer F)) {o : Observed F S}
    (hc : o.live.callback = none) :
    ∃ o', Transition.exec (Observed.step ort) o (callbacks bs) = some o' ∧
      o'.live.callback = none ∧
      o'.history.sent = o.history.sent ++ bs.flatMap (fun buffer => buffer.samples 0) ∧
      o'.history.delivered = o.history.delivered ∧
      o'.history.blocks.length ≤ o.history.blocks.length + 1 ∧
      (o.inference.thread ≠ .stopped →
        o'.history.blocks.length = o.history.blocks.length ∧ o'.inference.thread ≠ .stopped) := by
  induction bs generalizing o with
  | nil => exact ⟨o, rfl, hc, by simp, rfl, Nat.le_succ _, fun h => ⟨rfl, h⟩⟩
  | cons buffer bs ih =>
    obtain ⟨o₁, hs₁, hc₁⟩ := Observed.exists_step_sendAudio ort buffer hc
    obtain ⟨o₂, hs₂, hc₂⟩ := Observed.exists_step_processOutput ort hc₁
    obtain ⟨o', hexec, hc', hsent, hdel, hlen, hbusy⟩ := ih hc₂
    obtain ⟨hsent₂, hdel₂, hlen₂, hbusy₂, hstart₂⟩ :
        o₂.history.sent = o.history.sent ++ buffer.samples 0 ∧
          o₂.history.delivered = o.history.delivered ∧
          o₂.history.blocks.length ≤ o.history.blocks.length + 1 ∧
          (o.inference.thread ≠ .stopped →
            o₂.history.blocks.length = o.history.blocks.length ∧
              o₂.inference.thread ≠ .stopped) ∧
          (o₂.inference.thread = .stopped →
            o₂.history.blocks.length = o.history.blocks.length) := by
      obtain ⟨-, rfl⟩ := Observed.step_sendAudio hs₁
      obtain ⟨b, -, rfl⟩ := Observed.step_processOutput hs₂
      simp only [Observed.proc, Observed.inference, OnnxProcessor.processOutput_eq,
        OnnxProcessor.sendAudio, InferenceThread.sendAudio_thread]
      cases hst : o.live.proc.inferenceThread.starts buffer with
      | true =>
        have hstopped := ((InferenceThread.starts_iff _ _).mp hst).1
        simp [hstopped]
      | false => simp
    refine ⟨o', ?_, hc', ?_, hdel.trans hdel₂, ?_, fun hne => ?_⟩
    · have hcons : callbacks (buffer :: bs) =
          .sendAudio buffer :: .processOutput :: callbacks bs := rfl
      rw [hcons, Transition.exec_cons_of_step hs₁, Transition.exec_cons_of_step hs₂, hexec]
    · rw [hsent, hsent₂, List.append_assoc, List.flatMap_cons]
    · by_cases ht : o₂.inference.thread = .stopped
      · have := hstart₂ ht
        omega
      · have := (hbusy ht).1
        omega
    · obtain ⟨hsame, hne₂⟩ := hbusy₂ hne
      obtain ⟨hsame', hne'⟩ := hbusy hne₂
      exact ⟨hsame'.trans hsame, hne'⟩

/-- A thread that takes no step while more distinct samples are sent than one block and the ring
have room for: some of them are lost. -/
lemma not_inputIntact_of_slow (ort : Ort F S File) (p : OnnxProcessor F S) (spec : ProcessSpec)
    {bs : List (AudioBuffer F)} (hpos : 0 < spec.ringSize)
    (hdistinct : ((bs.flatMap fun buffer => buffer.samples 0).map nanToZero).Nodup)
    (hlen : modelInputSize + spec.ringSize <
      (bs.flatMap fun buffer => buffer.samples 0).length) :
    ¬ Transition.Always (Observed.step ort) InputIntact (Observed.start p spec)
      (callbacks bs) := by
  intro hintact
  obtain ⟨o, hexec, -, hsent, -, hblocks, -⟩ :=
    exists_exec_callbacks ort bs (o := Observed.start p spec) rfl
  have hnil : (Observed.start p spec).history.sent = [] := rfl
  have hzero : (Observed.start p spec).history.blocks.length = 0 := rfl
  rw [hnil, List.nil_append] at hsent
  rw [hzero, Nat.zero_add] at hblocks
  have hrings := (RingsTracked.always ort p spec (callbacks bs)).last hexec
  rw [max_eq_left (Nat.succ_le_of_lt hpos)] at hrings
  have hroom := (hintact.last hexec).room hrings (by rw [DistinctSent, hsent]; exact hdistinct)
  have hmul := Nat.mul_le_mul_right modelInputSize hblocks
  rw [hsent] at hroom
  omega

/-- The stream of the first `k` blocks. -/
lemma flatMap_rampBlock (size k : ℕ) :
    ((List.range k).map (rampBlock size)).flatMap (fun buffer => buffer.samples 0) =
      (List.range (k * size)).map fun i : ℕ => ExactFloat.number (i : ℚ) := by
  rw [← List.pieces_range, List.flatMap_map]
  simp only [rampBlock, AudioBuffer.samples_ofList]
  rfl

/-- At 48 kHz, an inference that has not ended 94 callbacks of 512 samples (one second) after it
was started loses samples. -/
theorem slow_inference_loses_input :
    ¬ Transition.Always (Observed.step (Ort.passThrough ExactFloat)) InputIntact
      (Observed.start (OnnxProcessor.passThrough ExactFloat) ⟨48000, 512, 1⟩)
      (callbacks ((List.range 126).map (rampBlock 512))) := by
  refine not_inputIntact_of_slow _ _ _ (by rw [ProcessSpec.ringSize_ofNat]; norm_num) ?_ ?_
  · rw [flatMap_rampBlock, List.map_map]
    refine List.nodup_range.map fun i j h => ?_
    simpa using h
  · rw [flatMap_rampBlock, ProcessSpec.ringSize_ofNat, modelInputSize_eq, List.length_map,
      List.length_range]
    norm_num

/-! ## An inference in flight -/

/-- A block of ones. -/
def ones : AudioBuffer ExactFloat := .ofList (List.replicate modelInputSize (.number 1))

/-- A processor at 48 kHz that has been sent a block of ones and has started the inference. -/
def inFlight : OnnxProcessor ExactFloat Unit :=
  ((OnnxProcessor.passThrough ExactFloat).prepare ⟨48000, 16384, 1⟩).sendAudio ones

/-- Its inference runs on the block of ones.

**Proof sketch.** The ring holds exactly one block after the call, so an inference starts, and its
input are the first samples sent, all of which are 1. -/
lemma inFlight_running : inFlight.inferenceThread.thread = .running ∧
    inFlight.inferenceThread.onnxInputData = fun _ => .number 1 := by
  set o := Observed.start (OnnxProcessor.passThrough ExactFloat) ⟨48000, 16384, 1⟩ with ho
  have hrings : RingsTracked 48000 o := by
    have := RingsTracked.start (OnnxProcessor.passThrough ExactFloat) ⟨48000, 16384, 1⟩
    rwa [ProcessSpec.ringSize_ofNat] at this
  have hsamples : ones.samples 0 = List.replicate modelInputSize (.number 1) :=
    AudioBuffer.samples_ofList _
  have hlen : (o.history.sent ++ ones.samples 0).length = modelInputSize := by
    rw [hsamples, List.length_append, List.length_replicate]
    exact Nat.zero_add _
  have hzero : o.history.blocks.length * modelInputSize = 0 := Nat.zero_mul _
  have hper : (o.inference.fedRing ones).period = 48000 := by
    simp [InferenceThread.fedRing, hrings.inputPeriod]
  have havail : (o.inference.fedRing ones).getAvailableSamples 0 = modelInputSize := by
    rw [(hrings.fedRing ones).getAvailableSamples_of_lt, hlen, hzero, Nat.sub_zero]
    rw [hlen, hzero, hper, modelInputSize_eq]
    norm_num
  have hstarts : o.inference.starts ones = true :=
    (InferenceThread.starts_iff _ _).mpr ⟨rfl, havail.ge, rfl⟩
  constructor
  · have hthread := InferenceThread.sendAudio_thread o.inference ones
    rw [hstarts, if_pos rfl] at hthread
    exact hthread
  · have hdata := InferenceThread.sendAudio_onnxInputData hstarts
    have hnext := hrings.nextBlock_eq hstarts (by
      have hsize : ones.numSamples = modelInputSize := by
        rw [ones, AudioBuffer.ofList_numSamples, List.length_replicate]
      have hnil : o.history.sent.length = 0 := rfl
      rw [hnil, hzero, hsize, modelInputSize_eq]
      norm_num)
    have hcut : o.nextBlock ones = fun _ => .number 1 := by
      funext i
      obtain ⟨hi, happly⟩ := cutBlock_apply ((o.history.sent ++ ones.samples 0).map
        nanToZero) (j := 0) (by rw [List.length_map, hlen, Nat.zero_add, Nat.one_mul]) i
      rw [hnext]
      refine happly.trans ?_
      have hmem := List.getElem_mem hi
      have hall : ∀ x ∈ (o.history.sent ++ ones.samples 0).map nanToZero,
          x = ExactFloat.number 1 := by
        intro x hx
        have hnil : o.history.sent = [] := rfl
        rw [hnil, List.nil_append, hsamples, List.map_replicate] at hx
        exact List.eq_of_mem_replicate hx
      exact hall _ hmem
    exact hdata.trans hcut

lemma inFlight_session : inFlight.inferenceThread.session = some () :=
  InferenceThread.sendAudio_session _ _
