import Scyclone.Lib.Transition
import Scyclone.Onnx.OnnxProcessor

set_option relaxedAutoImplicit false
set_option autoImplicit false

/-!
# Runs of a processor

The steps of one `OnnxProcessor` between two calls of `prepare`, outside model loads: a
callback sends its block (`sendAudio`) and later takes its output (`processOutput`), and the
inference thread delivers a block (`deliver`) and ends (`threadEnd`) at any point in between.
A run is any sequence of these events that can happen.

Next to the processor a run carries what has been seen since its start (`History`): the
samples sent, the blocks handed to the model, the samples delivered and popped, and a record
of every finished callback. The history only observes; no step depends on it.

## Main definitions

* `Live`, `AudioEvent`, `Live.step` — the processor with the callback in progress, and its
  steps.
* `History`, `Observed`, `Observed.step` — the same with the history.
* `RingsTracked` — both rings are what the history says.
* `Provenance` — what was delivered is the output of the model for blocks handed to it.
* `Ort.served`, `Served` — the same where calls of `session.Run` may throw.

## Main results

* `Observed.step_sendAudio`, `Observed.step_processOutput`, `Observed.step_deliver`,
  `Observed.step_threadEnd` — all that a step can do.
* `Observed.step_job` — what a step does to the job of the thread.
* `RingsTracked.step`, `Provenance.step`, `Served.step` — these invariants are kept by every
  step.
-/

variable {F S File : Type} [FloatSample F]

/-! ## Steps -/

/-- The inference thread reaches the end of `run`: it computes the output block and delivers
it through `onNewProcessedBuffer`. -/
def OnnxProcessor.deliver (ort : Ort F S File) (p : OnnxProcessor F S) : OnnxProcessor F S :=
  { p with
    inferenceThread :=
      { (p.inferenceThread.run ort).2 with thread := .delivered } }.onNewProcessedBuffer
    (p.inferenceThread.run ort).1

/-- `run` has returned. -/
def OnnxProcessor.endThread (p : OnnxProcessor F S) : OnnxProcessor F S :=
  { p with inferenceThread := { p.inferenceThread with thread := .stopped } }

/-- A processor and the buffer of the callback in progress, if `sendAudio` has been called and
`processOutput` has not. -/
structure Live (F S : Type) where
  proc : OnnxProcessor F S
  callback : Option (AudioBuffer F)

/-- What can happen between two calls of `prepare`. -/
inductive AudioEvent (F : Type)
  /-- A callback begins: `inferenceThread.sendAudio (buffer)`. -/
  | sendAudio (buffer : AudioBuffer F)
  /-- The callback ends: `processOutput (buffer, numSamples)`. -/
  | processOutput
  /-- The inference thread delivers its block. -/
  | deliver
  /-- The inference thread ends. -/
  | threadEnd

/-- One step. -/
def Live.step (ort : Ort F S File) (s : Live F S) : AudioEvent F → Option (Live F S)
  | .sendAudio buffer =>
    match s.callback with
    | none => some { proc := s.proc.sendAudio buffer, callback := some buffer }
    | some _ => none
  | .processOutput =>
    match s.callback with
    | none => none
    | some buffer =>
      some { proc := (s.proc.processOutput buffer buffer.numSamples).1, callback := none }
  | .deliver =>
    if s.proc.inferenceThread.thread = .running then
      some { s with proc := s.proc.deliver ort }
    else none
  | .threadEnd =>
    if s.proc.inferenceThread.thread = .delivered then
      some { s with proc := s.proc.endThread }
    else none

/-- No step touches the session or the flag of a load.

**Proof sketch.** By the step: `sendAudio` has its own lemmas, `processOutput` leaves the thread
alone, and the two steps of the thread change other fields. -/
lemma Live.step_frame {ort : Ort F S File} {s s' : Live F S} {e : AudioEvent F}
    (h : s.step ort e = some s') :
    s'.proc.inferenceThread.session = s.proc.inferenceThread.session ∧
      s'.proc.inferenceThread.loadingModel = s.proc.inferenceThread.loadingModel := by
  cases e with
  | sendAudio buffer =>
    cases hc : s.callback with
    | none =>
      simp only [Live.step, hc, Option.some.injEq] at h
      rw [← h]
      exact ⟨InferenceThread.sendAudio_session _ _, InferenceThread.sendAudio_loadingModel _ _⟩
    | some b => simp [Live.step, hc] at h
  | processOutput =>
    cases hc : s.callback with
    | none => simp [Live.step, hc] at h
    | some buffer =>
      simp only [Live.step, hc, Option.some.injEq] at h
      rw [← h, OnnxProcessor.processOutput_eq]
      exact ⟨rfl, rfl⟩
  | deliver =>
    simp only [Live.step, Option.ite_none_right_eq_some, Option.some.injEq] at h
    rw [← h.2]
    exact ⟨rfl, rfl⟩
  | threadEnd =>
    simp only [Live.step, Option.ite_none_right_eq_some, Option.some.injEq] at h
    rw [← h.2]
    exact ⟨rfl, rfl⟩

/-- While a load has its flag raised, a stopped thread stays stopped.

**Proof sketch.** Only `sendAudio` starts the thread, and not while the flag is raised. -/
lemma Live.step_stopped {ort : Ort F S File} {s s' : Live F S} {e : AudioEvent F}
    (h : s.step ort e = some s') (ht : s.proc.inferenceThread.thread = .stopped)
    (hl : s.proc.inferenceThread.loadingModel = true) :
    s'.proc.inferenceThread.thread = .stopped := by
  cases e with
  | sendAudio buffer =>
    cases hc : s.callback with
    | none =>
      simp only [Live.step, hc, Option.some.injEq] at h
      have hidle : s.proc.inferenceThread.starts buffer = false := by
        simp [InferenceThread.starts, hl]
      have hthread := InferenceThread.sendAudio_thread s.proc.inferenceThread buffer
      rw [hidle, if_neg Bool.false_ne_true] at hthread
      rw [← h]
      exact hthread.trans ht
    | some b => simp [Live.step, hc] at h
  | processOutput =>
    cases hc : s.callback with
    | none => simp [Live.step, hc] at h
    | some buffer =>
      simp only [Live.step, hc, Option.some.injEq] at h
      rw [← h, OnnxProcessor.processOutput_eq]
      exact ht
  | deliver => simp [Live.step, ht] at h
  | threadEnd => simp [Live.step, ht] at h

/-! ## Histories -/

/-- The record of a finished callback. -/
structure Callback (F : Type) where
  /-- The block the host passed in. -/
  input : List F
  /-- The branch `processOutput` took. -/
  branch : OutputBranch
  /-- The block the host got back. -/
  output : List F
  /-- `inferenceCounter` afterwards. -/
  counter : ℤ

/-- What has been seen since the start of a run. -/
structure History (F : Type) where
  /-- The samples passed to `sendAudio`. -/
  sent : List F := []
  /-- The blocks handed to the model. -/
  blocks : List (ModelBlock F) := []
  /-- The samples passed to `onNewProcessedBuffer`. -/
  delivered : List F := []
  /-- The samples popped by `processOutput`, also those thrown away. -/
  popped : List F := []
  /-- The finished callbacks. -/
  callbacks : List (Callback F) := []
  /-- The number of the callback that handed the last block to the model. -/
  startedAt : ℕ := 0

/-- Whether the thread was started between two states. -/
def Live.startedBetween (s s' : Live F S) : Bool :=
  decide (s.proc.inferenceThread.thread = .stopped)
    && decide (s'.proc.inferenceThread.thread = .running)

/-- The history after the step from `s` to `s'`. -/
def History.record (h : History F) (s s' : Live F S) : AudioEvent F → History F
  | .sendAudio buffer =>
    { h with
      sent := h.sent ++ buffer.samples 0
      blocks :=
        if s.startedBetween s' then h.blocks ++ [s'.proc.inferenceThread.onnxInputData]
        else h.blocks
      startedAt := if s.startedBetween s' then h.callbacks.length else h.startedAt }
  | .processOutput =>
    match s.callback with
    | none => h
    | some buffer =>
      let numSamples := buffer.numSamples
      { h with
        popped :=
          h.popped ++ (s.proc.receiveRingBuffer.popSamples 0 (s.proc.popCount numSamples)).1
        callbacks :=
          h.callbacks ++
            [{ input := buffer.samples 0
               branch := s.proc.outputBranch numSamples
               output := (s.proc.processOutput buffer numSamples).2.samples 0
               counter := s'.proc.inferenceCounter }] }
  | .deliver =>
    { h with delivered := h.delivered ++ List.ofFn s'.proc.inferenceThread.onnxOutputData }
  | .threadEnd => h

/-- A processor in a run, with its history. -/
structure Observed (F S : Type) where
  live : Live F S
  history : History F

namespace Observed

/-- The processor. -/
abbrev proc (o : Observed F S) : OnnxProcessor F S := o.live.proc

/-- Its inference thread. -/
abbrev inference (o : Observed F S) : InferenceThread F S := o.live.proc.inferenceThread

/-- One step, recorded. -/
def step (ort : Ort F S File) (o : Observed F S) (e : AudioEvent F) : Option (Observed F S) :=
  (o.live.step ort e).map fun live => ⟨live, o.history.record o.live live e⟩

/-- The start of a run: `prepare` has just returned, nothing has been seen. -/
def start (p : OnnxProcessor F S) (spec : ProcessSpec) : Observed F S :=
  ⟨⟨p.prepare spec, none⟩, {}⟩

/-! ## What a step can do -/

variable {ort : Ort F S File} {o o' : Observed F S}

/-- `sendAudio` starts the thread exactly if `starts` says so. -/
lemma startedBetween_sendAudio (o : Observed F S) (buffer : AudioBuffer F) :
    o.live.startedBetween ⟨o.proc.sendAudio buffer, some buffer⟩ =
      o.inference.starts buffer := by
  unfold Live.startedBetween
  simp only [OnnxProcessor.sendAudio, InferenceThread.sendAudio_thread]
  cases hs : o.inference.starts buffer with
  | true => simp [((InferenceThread.starts_iff _ _).mp hs).1]
  | false => cases ht : o.inference.thread <;> simp

/-- The block that `sendAudio` hands to the model when it starts the thread. -/
def nextBlock (o : Observed F S) (buffer : AudioBuffer F) : ModelBlock F :=
  ModelBlock.ofList ((o.inference.fedRing buffer).popSamples 0 modelInputSize).1

/-- The beginning of a callback. -/
lemma step_sendAudio {buffer : AudioBuffer F} (h : o.step ort (.sendAudio buffer) = some o') :
    o.live.callback = none ∧
      o' =
        ⟨⟨o.proc.sendAudio buffer, some buffer⟩,
          { sent := o.history.sent ++ buffer.samples 0
            blocks :=
              if o.inference.starts buffer then o.history.blocks ++ [o.nextBlock buffer]
              else o.history.blocks
            delivered := o.history.delivered
            popped := o.history.popped
            callbacks := o.history.callbacks
            startedAt :=
              if o.inference.starts buffer then o.history.callbacks.length
              else o.history.startedAt }⟩ := by
  unfold step Live.step at h
  cases hc : o.live.callback with
  | some b => simp [hc] at h
  | none =>
    simp only [hc, Option.map_some, Option.some.injEq] at h
    refine ⟨rfl, ?_⟩
    rw [← h]
    simp only [History.record, startedBetween_sendAudio]
    cases hs : o.inference.starts buffer with
    | false => simp only [Bool.false_eq_true, if_false]
    | true =>
      have hblock : (o.proc.sendAudio buffer).inferenceThread.onnxInputData =
          o.nextBlock buffer := InferenceThread.sendAudio_onnxInputData hs
      simp only [if_true, hblock]

/-- The end of a callback. -/
lemma step_processOutput (h : o.step ort .processOutput = some o') :
    ∃ buffer, o.live.callback = some buffer ∧
      o' =
        ⟨⟨(o.proc.processOutput buffer buffer.numSamples).1, none⟩,
          { sent := o.history.sent
            blocks := o.history.blocks
            delivered := o.history.delivered
            startedAt := o.history.startedAt
            popped :=
              o.history.popped ++
                (o.proc.receiveRingBuffer.popSamples 0 (o.proc.popCount buffer.numSamples)).1
            callbacks :=
              o.history.callbacks ++
                [{ input := buffer.samples 0
                   branch := o.proc.outputBranch buffer.numSamples
                   output := (o.proc.processOutput buffer buffer.numSamples).2.samples 0
                   counter := o.proc.counterAfter buffer.numSamples }] }⟩ := by
  unfold step Live.step at h
  cases hc : o.live.callback with
  | none => simp [hc] at h
  | some buffer =>
    simp only [hc, Option.map_some, Option.some.injEq] at h
    refine ⟨buffer, rfl, ?_⟩
    rw [← h]
    simp only [History.record, hc, OnnxProcessor.processOutput_eq]

/-- A delivery. -/
lemma step_deliver (h : o.step ort .deliver = some o') :
    o.inference.thread = .running ∧
      o' =
        ⟨⟨o.proc.deliver ort, o.live.callback⟩,
          { sent := o.history.sent
            blocks := o.history.blocks
            delivered :=
              o.history.delivered ++ List.ofFn (InferenceThread.run ort o.inference).1
            popped := o.history.popped
            callbacks := o.history.callbacks
            startedAt := o.history.startedAt }⟩ := by
  simp only [step, Live.step] at h
  by_cases ht : o.inference.thread = .running
  · rw [if_pos ht, Option.map_some, Option.some.injEq] at h
    exact ⟨ht, h.symm⟩
  · rw [if_neg ht] at h
    cases h

/-- The end of the thread. -/
lemma step_threadEnd (h : o.step ort .threadEnd = some o') :
    o.inference.thread = .delivered ∧
      o' = ⟨⟨o.proc.endThread, o.live.callback⟩, o.history⟩ := by
  simp only [step, Live.step] at h
  by_cases ht : o.inference.thread = .delivered
  · rw [if_pos ht, Option.map_some, Option.some.injEq] at h
    exact ⟨ht, h.symm⟩
  · rw [if_neg ht] at h
    cases h

/-- **What a step does to the job of the thread**: it starts one on a new block, or it delivers
the output of the one in progress, or it leaves all of this alone.

**Proof sketch.** By the step. A `sendAudio` with a full block in the ring is the first case and any
other one the third; `deliver` is the second; `processOutput` and `threadEnd` do not touch the
thread's data. -/
lemma step_job {e : AudioEvent F} (h : o.step ort e = some o') :
    o'.inference.session = o.inference.session ∧
    ((o.inference.thread = .stopped ∧ o'.inference.thread = .running ∧
        o'.history.blocks = o.history.blocks ++ [o'.inference.onnxInputData] ∧
        o'.history.delivered = o.history.delivered ∧
        o'.inference.onnxOutputData = o.inference.onnxOutputData) ∨
      (o.inference.thread = .running ∧ o'.inference.thread = .delivered ∧
        o'.history.blocks = o.history.blocks ∧
        o'.history.delivered =
          o.history.delivered ++ List.ofFn (InferenceThread.run ort o.inference).1 ∧
        o'.inference.onnxOutputData = (InferenceThread.run ort o.inference).1) ∨
      ((o'.inference.thread = .running ↔ o.inference.thread = .running) ∧
        o'.history.blocks = o.history.blocks ∧ o'.history.delivered = o.history.delivered ∧
        o'.inference.onnxInputData = o.inference.onnxInputData ∧
        o'.inference.onnxOutputData = o.inference.onnxOutputData)) := by
  cases e with
  | sendAudio buffer =>
    obtain ⟨-, rfl⟩ := step_sendAudio h
    refine ⟨InferenceThread.sendAudio_session _ _, ?_⟩
    have heq := InferenceThread.sendAudio_eq o.inference buffer
    cases hst : o.inference.starts buffer with
    | true =>
      have hstopped := ((InferenceThread.starts_iff _ _).mp hst).1
      rw [hst, if_pos rfl, if_pos rfl, if_pos rfl] at heq
      refine Or.inl ⟨hstopped, ?_, ?_, rfl, ?_⟩
      · simp only [inference, OnnxProcessor.sendAudio, heq]
      · simp only [inference, OnnxProcessor.sendAudio, heq, if_true]
        rfl
      · simp only [inference, OnnxProcessor.sendAudio, heq]
    | false =>
      rw [hst, if_neg Bool.false_ne_true, if_neg Bool.false_ne_true,
        if_neg Bool.false_ne_true] at heq
      refine Or.inr (Or.inr ⟨?_, ?_, rfl, ?_, ?_⟩)
      · simp only [inference, OnnxProcessor.sendAudio, heq]
      · simp only [Bool.false_eq_true, if_false]
      · simp only [inference, OnnxProcessor.sendAudio, heq]
      · simp only [inference, OnnxProcessor.sendAudio, heq]
  | processOutput =>
    obtain ⟨buffer, -, rfl⟩ := step_processOutput h
    have hthread : (o.proc.processOutput buffer buffer.numSamples).1.inferenceThread =
        o.inference := by rw [OnnxProcessor.processOutput_eq]
    simp only [inference, hthread, and_self, or_true]
  | deliver =>
    obtain ⟨ht, rfl⟩ := step_deliver h
    exact ⟨rfl, Or.inr (Or.inl ⟨ht, rfl, rfl, rfl, rfl⟩)⟩
  | threadEnd =>
    obtain ⟨ht, rfl⟩ := step_threadEnd h
    refine ⟨rfl, Or.inr (Or.inr ⟨?_, rfl, rfl, rfl, rfl⟩)⟩
    simp [inference, OnnxProcessor.endThread, ht]

/-- A callback can begin when none is in progress. -/
lemma exists_step_sendAudio (ort : Ort F S File) (buffer : AudioBuffer F)
    (h : o.live.callback = none) :
    ∃ o', o.step ort (.sendAudio buffer) = some o' ∧ o'.live.callback = some buffer := by
  simp [step, Live.step, h]

/-- A callback in progress can end. -/
lemma exists_step_processOutput (ort : Ort F S File) {buffer : AudioBuffer F}
    (h : o.live.callback = some buffer) :
    ∃ o', o.step ort .processOutput = some o' ∧ o'.live.callback = none := by
  simp [step, Live.step, h]

/-- A running thread can deliver. -/
lemma exists_step_deliver (ort : Ort F S File) (h : o.inference.thread = .running) :
    ∃ o', o.step ort .deliver = some o' := by
  simp [step, Live.step, h]

/-- A thread that has delivered can end. -/
lemma exists_step_threadEnd (ort : Ort F S File) (h : o.inference.thread = .delivered) :
    ∃ o', o.step ort .threadEnd = some o' := by
  simp [step, Live.step, h]

end Observed

/-! ## The rings and the history -/

/-- Both rings are what the history says they are: the input ring has the samples sent, a
block of them popped for each block handed to the model; the output ring has the samples
delivered, those in `popped` taken out. No bound on either ring is part of it. -/
structure RingsTracked (period : ℕ) (o : Observed F S) : Prop where
  /-- The input ring. -/
  input : o.inference.receiveRingBuffer.Tracks 0 o.history.sent
    (o.history.blocks.length * modelInputSize)
  /-- Its period. -/
  inputPeriod : o.inference.receiveRingBuffer.period = period
  /-- The output ring. -/
  output : o.proc.receiveRingBuffer.Tracks 0 o.history.delivered o.history.popped.length
  /-- Its period. -/
  outputPeriod : o.proc.receiveRingBuffer.period = period

namespace RingsTracked

variable {ort : Ort F S File} {o o' : Observed F S} {period : ℕ}

/-- The rings right after `prepare`, whatever state it was called in. -/
lemma start (p : OnnxProcessor F S) (spec : ProcessSpec) :
    RingsTracked (max spec.ringSize 1) (Observed.start p spec) where
  input := by
    have hpopped : (Observed.start p spec).history.blocks.length * modelInputSize = 0 :=
      Nat.zero_mul _
    rw [hpopped]
    exact p.inferenceThread.receiveRingBuffer.tracks_initialise Nat.one_pos spec.ringSize
  inputPeriod := p.inferenceThread.receiveRingBuffer.initialise_period 1 spec.ringSize
  output := p.receiveRingBuffer.tracks_initialise Nat.one_pos spec.ringSize
  outputPeriod := p.receiveRingBuffer.initialise_period 1 spec.ringSize

/-- The input ring with the samples of a callback pushed. -/
lemma fedRing (h : RingsTracked period o) (buffer : AudioBuffer F) :
    (o.inference.fedRing buffer).Tracks 0 (o.history.sent ++ buffer.samples 0)
      (o.history.blocks.length * modelInputSize) := h.input.pushSamples _

/-- A block that is handed to the model has been sent. -/
lemma block_sent (h : RingsTracked period o) {buffer : AudioBuffer F}
    (hs : o.inference.starts buffer = true) :
    o.history.blocks.length * modelInputSize + modelInputSize ≤
      (o.history.sent ++ buffer.samples 0).length := by
  have hav := ((InferenceThread.starts_iff _ _).mp hs).2.1
  have := (h.fedRing buffer).getAvailableSamples_le
  omega

/-- Samples that are popped have been delivered. -/
lemma popped_delivered (h : RingsTracked period o) (numSamples : ℕ) :
    o.history.popped.length + o.proc.popCount numSamples ≤ o.history.delivered.length := by
  have := o.proc.popCount_le numSamples
  have := h.output.getAvailableSamples_le
  omega

/-- **Every step keeps the rings in line with the history.**

**Proof sketch.** `sendAudio` pushes its samples to the input ring and pops a block if a job starts,
`processOutput` pops what `popCount` says, `deliver` pushes a block; each time the history grows by
the same samples. -/
theorem step (h : RingsTracked period o) {e : AudioEvent F} (hs : o.step ort e = some o') :
    RingsTracked period o' := by
  cases e with
  | sendAudio buffer =>
    obtain ⟨-, rfl⟩ := Observed.step_sendAudio hs
    have hfed := h.fedRing buffer
    have hper : (o.inference.fedRing buffer).period = period := by
      simp [InferenceThread.fedRing, h.inputPeriod]
    refine ⟨?_, ?_, h.output, h.outputPeriod⟩
    · simp only [Observed.inference, OnnxProcessor.sendAudio, InferenceThread.sendAudio_eq]
      split_ifs with hst
      · have hpop := hfed.popSamples (h.block_sent hst)
        rw [← Nat.succ_mul] at hpop
        simpa only [List.length_append, List.length_singleton] using hpop
      · exact hfed
    · simp only [Observed.inference, OnnxProcessor.sendAudio, InferenceThread.sendAudio_eq]
      split_ifs <;> simp [hper]
  | processOutput =>
    obtain ⟨buffer, -, rfl⟩ := Observed.step_processOutput hs
    have hpop := h.output.popSamples (h.popped_delivered buffer.numSamples)
    refine ⟨?_, ?_, ?_, ?_⟩
    · simpa only [Observed.inference, OnnxProcessor.processOutput_eq] using h.input
    · simpa only [Observed.inference, OnnxProcessor.processOutput_eq] using h.inputPeriod
    · simpa [Observed.proc, OnnxProcessor.processOutput_eq] using hpop
    · simpa [Observed.proc, OnnxProcessor.processOutput_eq] using h.outputPeriod
  | deliver =>
    obtain ⟨-, rfl⟩ := Observed.step_deliver hs
    refine ⟨h.input, h.inputPeriod, h.output.pushSamples _, ?_⟩
    simpa [Observed.proc, OnnxProcessor.deliver, OnnxProcessor.onNewProcessedBuffer] using
      h.outputPeriod
  | threadEnd =>
    obtain ⟨-, rfl⟩ := Observed.step_threadEnd hs
    exact ⟨h.input, h.inputPeriod, h.output, h.outputPeriod⟩

/-- The rings along a whole run after `prepare`. -/
theorem always (ort : Ort F S File) (p : OnnxProcessor F S) (spec : ProcessSpec)
    (es : List (AudioEvent F)) :
    Transition.Always (Observed.step ort) (RingsTracked (max spec.ringSize 1))
      (Observed.start p spec) es :=
  Transition.always_of_invariant (fun _ _ _ h hs => h.step hs) es (start p spec)

end RingsTracked

/-! ## The output of the model -/

/-- The samples that the model `model` returns for the blocks `blocks`, in order. -/
def modelled (model : ModelBlock F → ModelBlock F) (blocks : List (ModelBlock F)) : List F :=
  blocks.flatMap fun block => List.ofFn (model block)

omit [FloatSample F] in
lemma modelled_append_singleton (model : ModelBlock F → ModelBlock F)
    (blocks : List (ModelBlock F)) (block : ModelBlock F) :
    modelled model (blocks ++ [block]) = modelled model blocks ++ List.ofFn (model block) := by
  simp [modelled, List.flatMap_append]

omit [FloatSample F] in
lemma length_modelled (model : ModelBlock F → ModelBlock F) (blocks : List (ModelBlock F)) :
    (modelled model blocks).length = blocks.length * modelInputSize := by
  induction blocks with
  | nil => simp [modelled]
  | cons block blocks ih =>
    have hcons : modelled model (block :: blocks) =
        List.ofFn (model block) ++ modelled model blocks := rfl
    rw [hcons, List.length_append, List.length_ofFn, ih, List.length_cons, Nat.succ_mul,
      Nat.add_comm]

omit [FloatSample F] in
/-- More blocks only add samples at the end. -/
lemma modelled_initial (model : ModelBlock F → ModelBlock F) {blocks blocks' : List (ModelBlock F)}
    (h : blocks <+: blocks') : modelled model blocks <+: modelled model blocks' := by
  obtain ⟨t, rfl⟩ := h
  simp [modelled, List.flatMap_append]

/-- What was delivered is the output of the model for the blocks handed to it; while the thread
runs, the last of these is still to come. -/
structure Provenance (session : S) (model : ModelBlock F → ModelBlock F) (o : Observed F S) :
    Prop where
  session : o.inference.session = some session
  idle : o.inference.thread ≠ .running →
    o.history.delivered = modelled model o.history.blocks
  busy : o.inference.thread = .running → ∃ before,
    o.history.blocks = before ++ [o.inference.onnxInputData] ∧
      o.history.delivered = modelled model before

namespace Provenance

variable {ort : Ort F S File} {o o' : Observed F S} {session : S}
  {model : ModelBlock F → ModelBlock F}

omit [FloatSample F] in
/-- It holds at the start of a run that no inference is in flight in. -/
lemma start {p : OnnxProcessor F S} (hs : p.inferenceThread.session = some session)
    (ht : p.inferenceThread.thread ≠ .running) (spec : ProcessSpec) :
    Provenance session model (Observed.start p spec) where
  session := hs
  idle _ := rfl
  busy h := absurd h ht

omit [FloatSample F] in
/-- The number of samples delivered. -/
lemma length_delivered (h : Provenance session model o) :
    o.history.delivered.length =
      if o.inference.thread = .running then (o.history.blocks.length - 1) * modelInputSize
      else o.history.blocks.length * modelInputSize := by
  split_ifs with ht
  · obtain ⟨before, hblocks, hdel⟩ := h.busy ht
    rw [hdel, length_modelled, hblocks, List.length_append, List.length_singleton,
      Nat.add_sub_cancel]
  · rw [h.idle ht, length_modelled]

omit [FloatSample F] in
/-- What was delivered is a prefix of the output of the model for all the blocks. -/
lemma delivered_initial (h : Provenance session model o) :
    o.history.delivered <+: modelled model o.history.blocks := by
  by_cases ht : o.inference.thread = .running
  · obtain ⟨before, hblocks, hdel⟩ := h.busy ht
    rw [hdel, hblocks, modelled_append_singleton]
    exact List.prefix_append _ _
  · exact ⟨[], by rw [List.append_nil, h.idle ht]⟩

/-- **Every step keeps what was delivered in line with the blocks**, if the session runs the
model without an exception.

**Proof sketch.** By what the step does to the job of the thread: a new block is in flight until its
output is delivered, and in between nothing changes. -/
theorem step (hmodel : ∀ block, ort.run session block = .ok (model block))
    (h : Provenance session model o) {e : AudioEvent F} (hs : o.step ort e = some o') :
    Provenance session model o' := by
  obtain ⟨hsession, hjob⟩ := Observed.step_job hs
  have hsession' := hsession.trans h.session
  rcases hjob with ⟨hstopped, hrunning, hblocks, hdelivered, -⟩ |
    ⟨hrunning, hthread, hblocks, hdelivered, -⟩ | ⟨hthread, hblocks, hdelivered, hinput, -⟩
  · refine ⟨hsession', fun hne => absurd hrunning hne, fun _ => ⟨_, hblocks, ?_⟩⟩
    rw [hdelivered]
    exact h.idle (by simp [hstopped])
  · obtain ⟨before, hbefore, hdel⟩ := h.busy hrunning
    have hrun : (InferenceThread.run ort o.inference).1 = model o.inference.onnxInputData :=
      InferenceThread.run_fst_of_ok h.session (hmodel _)
    refine ⟨hsession', fun _ => ?_, fun hr => ?_⟩
    · rw [hdelivered, hblocks, hrun, hdel, hbefore, modelled_append_singleton]
    · rw [hthread] at hr
      cases hr
  · refine ⟨hsession', fun hne => ?_, fun hr => ?_⟩
    · rw [hdelivered, hblocks]
      exact h.idle fun hr => hne (hthread.mpr hr)
    · rw [hdelivered, hblocks, hinput]
      exact h.busy (hthread.mp hr)

end Provenance

/-! ## Runs that throw -/

section Served

omit [FloatSample F]

/-- What a job hands over for a block: what the session returns, or once more what was handed
over last if it throws. -/
def Ort.output (ort : Ort F S File) (session : S) (last block : ModelBlock F) : ModelBlock F :=
  match ort.run session block with
  | .ok output => output
  | .error _ => last

/-- What the jobs on the listed blocks hand over, in order; `last` was there before them. -/
def Ort.served (ort : Ort F S File) (session : S) :
    ModelBlock F → List (ModelBlock F) → List (ModelBlock F)
  | _, [] => []
  | last, block :: blocks =>
    ort.output session last block :: ort.served session (ort.output session last block) blocks

variable {ort : Ort F S File} {session : S}

/-- `run` hands over what it has put into `onnxOutputData`. -/
lemma InferenceThread.run_fst_of_session {t : InferenceThread F S} (hs : t.session = some session) :
    (run ort t).1 = ort.output session t.onnxOutputData t.onnxInputData := by
  cases hrun : ort.run session t.onnxInputData with
  | ok output => simp [run, hs, Ort.output, hrun]
  | error e => simp [run, hs, Ort.output, hrun]

/-- One more job, after the others. -/
lemma Ort.served_append_singleton (last : ModelBlock F) (blocks : List (ModelBlock F))
    (block : ModelBlock F) : ort.served session last (blocks ++ [block]) =
      ort.served session last blocks ++
        [ort.output session ((ort.served session last blocks).getLastD last) block] := by
  induction blocks generalizing last with
  | nil => rfl
  | cons b blocks ih => simp only [List.cons_append, served, ih, List.getLastD_cons]

/-- More blocks only add outputs at the end. -/
lemma Ort.served_initial (last : ModelBlock F) {blocks blocks' : List (ModelBlock F)}
    (h : blocks <+: blocks') :
    ort.served session last blocks <+: ort.served session last blocks' := by
  obtain ⟨rest, rfl⟩ := h
  induction blocks generalizing last with
  | nil => exact List.nil_prefix
  | cons b blocks ih =>
    rw [List.cons_append]
    exact List.cons_prefix_cons.mpr ⟨rfl, ih _⟩

/-- The same for their samples. -/
lemma Ort.samples_served_initial (last : ModelBlock F) {blocks blocks' : List (ModelBlock F)}
    (h : blocks <+: blocks') :
    (ort.served session last blocks).flatMap List.ofFn <+:
      (ort.served session last blocks').flatMap List.ofFn := by
  have hserved : ort.served session last blocks <+: ort.served session last blocks' :=
    Ort.served_initial last h
  obtain ⟨rest, hrest⟩ := hserved
  rw [← hrest, List.flatMap_append]
  exact List.prefix_append _ _

/-- What the jobs hand over was there before, or the session has returned it for one of the
blocks. -/
lemma Ort.eq_or_of_mem_served {last output : ModelBlock F} {blocks : List (ModelBlock F)}
    (h : output ∈ ort.served session last blocks) :
    output = last ∨ ∃ block ∈ blocks, ort.run session block = .ok output := by
  induction blocks generalizing last with
  | nil => cases h
  | cons b blocks ih =>
    have hfirst : ort.output session last b = last ∨
        ort.run session b = .ok (ort.output session last b) := by
      unfold Ort.output
      cases ort.run session b with
      | ok output => exact Or.inr rfl
      | error e => exact Or.inl rfl
    have hcases : output = ort.output session last b ∨
        ∃ block ∈ blocks, ort.run session block = .ok output := by
      rcases List.mem_cons.mp h with heq | hrest
      · exact Or.inl heq
      · exact ih hrest
    rcases hcases with rfl | ⟨block, hblock, hrun⟩
    · exact hfirst.imp id fun hrun => ⟨b, List.mem_cons_self, hrun⟩
    · exact Or.inr ⟨block, List.mem_cons_of_mem _ hblock, hrun⟩

/-- A session that does not throw returns the output of its model for every block. -/
lemma Ort.served_eq_map {model : ModelBlock F → ModelBlock F}
    (hmodel : ∀ block, ort.run session block = .ok (model block)) (last : ModelBlock F)
    (blocks : List (ModelBlock F)) : ort.served session last blocks = blocks.map model := by
  induction blocks generalizing last with
  | nil => rfl
  | cons b blocks ih => simp only [served, ih, List.map_cons, output, hmodel]

end Served

/-- What was delivered is what the jobs on the blocks have handed over, whether the session threw
or not; while the thread runs, the last of these is still to come. `last` is what
`onnxOutputData` held at the start. -/
structure Served (ort : Ort F S File) (session : S) (last : ModelBlock F) (o : Observed F S) :
    Prop where
  held : o.inference.session = some session
  jobs : ∃ done,
    o.history.blocks =
      done ++ (if o.inference.thread = .running then [o.inference.onnxInputData] else []) ∧
    o.history.delivered = (ort.served session last done).flatMap List.ofFn ∧
    o.inference.onnxOutputData = (ort.served session last done).getLastD last

namespace Served

variable {ort : Ort F S File} {o o' : Observed F S} {session : S} {last : ModelBlock F}

omit [FloatSample F] in
/-- It holds at the start of a run that no inference is in flight in. -/
lemma start {p : OnnxProcessor F S} (hs : p.inferenceThread.session = some session)
    (ht : p.inferenceThread.thread ≠ .running) (spec : ProcessSpec) :
    Served ort session p.inferenceThread.onnxOutputData (Observed.start p spec) where
  held := hs
  jobs := ⟨[], (if_neg ht).symm, rfl, rfl⟩

omit [FloatSample F] in
/-- What was delivered is the first part of what the jobs on all the blocks hand over. -/
lemma delivered_initial (h : Served ort session last o) :
    o.history.delivered <+: (ort.served session last o.history.blocks).flatMap List.ofFn := by
  obtain ⟨done, hblocks, hdelivered, -⟩ := h.jobs
  rw [hdelivered, hblocks]
  exact Ort.samples_served_initial last (List.prefix_append _ _)

/-- **Every step keeps what was delivered in line with the jobs.**

**Proof sketch.** By what the step does to the job of the thread; a job whose call throws hands over
what the vector held before it, which is what the jobs before it have left. -/
theorem step (h : Served ort session last o) {e : AudioEvent F} (hs : o.step ort e = some o') :
    Served ort session last o' := by
  obtain ⟨hsession, hjob⟩ := Observed.step_job hs
  obtain ⟨done, hdone, hdel, hdata⟩ := h.jobs
  refine ⟨hsession.trans h.held, ?_⟩
  rcases hjob with ⟨hstopped, hrunning, hblocks, hdelivered, houtput⟩ |
    ⟨hrunning, hthread, hblocks, hdelivered, houtput⟩ |
    ⟨hthread, hblocks, hdelivered, hinput, houtput⟩
  · rw [hstopped, if_neg (by simp), List.append_nil] at hdone
    exact ⟨done, by rw [hblocks, if_pos hrunning, hdone], hdelivered.trans hdel,
      houtput.trans hdata⟩
  · rw [if_pos hrunning] at hdone
    have hrun : (InferenceThread.run ort o.inference).1 =
        ort.output session o.inference.onnxOutputData o.inference.onnxInputData :=
      InferenceThread.run_fst_of_session h.held
    rw [hdata] at hrun
    refine ⟨done ++ [o.inference.onnxInputData], ?_, ?_, ?_⟩
    · rw [hblocks, hdone, hthread, if_neg (by simp), List.append_nil]
    · rw [hdelivered, hdel, hrun, Ort.served_append_singleton, List.flatMap_append,
        List.flatMap_singleton]
    · rw [houtput, hrun, Ort.served_append_singleton, List.getLastD_concat]
  · refine ⟨done, ?_, hdelivered.trans hdel, houtput.trans hdata⟩
    rw [hblocks, hdone, hinput]
    simp only [hthread]

end Served
