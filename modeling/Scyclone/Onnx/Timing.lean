import Scyclone.Onnx.AudioRun

set_option relaxedAutoImplicit false
set_option autoImplicit false

/-!
# The timing of a processor

Which branches a processor takes, when it starts its thread and how its counter moves depends on
how many samples are sent and on when the thread delivers and ends, and on nothing else: not on
the samples, nor on the model, nor on what the runtime returns. `Timing` is the state of a
processor without its samples, and its steps are those of the processor.

A timing has no sample in it, so a run of it can be evaluated also where the blocks have
thousands of samples.

## Main definitions

* `Timing`, `TimingEvent`, `Timing.step` — the counts and flags of a processor, and their steps.
* `Observed.timing`, `AudioEvent.timing` — the timing of a processor and of an event.

## Main results

* `Observed.timing_step` — a step of the processor is a step of its timing.
* `Observed.exists_exec_of_timing`, `Observed.stepsMeet_of_timing` — the same for runs and for
  conditions on them.
-/

variable {F S File : Type} [FloatSample F]

/-! ## Timings -/

/-- What a processor does, without its samples. -/
structure Timing where
  /-- The number of positions of either ring. -/
  period : ℕ
  thread : ThreadState
  loadingModel : Bool
  init : Bool
  initSamples : ℕ
  inferenceCounter : ℤ
  /-- The size of the block of the callback in progress. -/
  callback : Option ℕ
  /-- The samples sent. -/
  sent : ℕ
  /-- The blocks handed to the model. -/
  blocks : ℕ
  /-- The samples delivered. -/
  delivered : ℕ
  /-- The samples popped from what was delivered. -/
  popped : ℕ
  /-- The callback that handed the last block to the model. -/
  startedAt : ℕ
  /-- The branches of the finished callbacks, with the counter afterwards. -/
  callbacks : List (OutputBranch × ℤ)
  deriving DecidableEq

/-- An event without its samples. -/
inductive TimingEvent
  | sendAudio (numSamples : ℕ)
  | processOutput
  | deliver
  | threadEnd
  deriving DecidableEq

namespace Timing

/-- Whether `sendAudio` of `numSamples` samples starts the thread. -/
def starts (t : Timing) (numSamples : ℕ) : Bool :=
  !t.thread.isThreadRunning
    && decide ((t.sent + numSamples - t.blocks * modelInputSize) % t.period ≥ modelInputSize)
    && !t.loadingModel

/-- The samples in the output ring, as it counts them. -/
def available (t : Timing) : ℕ := (t.delivered - t.popped) % t.period

/-- The branch of `processOutput`. -/
def outputBranch (t : Timing) (numSamples : ℕ) : OutputBranch :=
  if t.init then .initialising
  else if t.available ≥ numSamples then .modelSamples
  else .missingSamples

/-- Whether `processOutput` throws a block away. -/
def discards (t : Timing) (numSamples : ℕ) : Bool :=
  decide (t.inferenceCounter > 0) && decide (t.available ≥ 2 * numSamples)

/-- The samples that `processOutput` pops. -/
def popCount (t : Timing) (numSamples : ℕ) : ℕ :=
  match t.outputBranch numSamples with
  | .initialising => 0
  | .modelSamples => (if t.discards numSamples then numSamples else 0) + numSamples
  | .missingSamples => 0

/-- The counter after `processOutput`. -/
def counterAfter (t : Timing) (numSamples : ℕ) : ℤ :=
  match t.outputBranch numSamples with
  | .initialising => t.inferenceCounter
  | .modelSamples =>
    if t.discards numSamples then t.inferenceCounter - 1 else t.inferenceCounter
  | .missingSamples => t.inferenceCounter + 1

/-- One step. -/
def step (t : Timing) : TimingEvent → Option Timing
  | .sendAudio numSamples =>
    match t.callback with
    | none =>
      let initSamples := if t.init then t.initSamples + numSamples else t.initSamples
      some { t with
        callback := some numSamples
        sent := t.sent + numSamples
        blocks := if t.starts numSamples then t.blocks + 1 else t.blocks
        startedAt := if t.starts numSamples then t.callbacks.length else t.startedAt
        thread := if t.starts numSamples then .running else t.thread
        initSamples
        init := t.init && decide (initSamples < modelInputSize + maxModelCalcSize) }
    | some _ => none
  | .processOutput =>
    match t.callback with
    | none => none
    | some numSamples =>
      some { t with
        callback := none
        popped := t.popped + t.popCount numSamples
        inferenceCounter := t.counterAfter numSamples
        callbacks := t.callbacks ++ [(t.outputBranch numSamples, t.counterAfter numSamples)] }
  | .deliver =>
    if t.thread = .running then
      some { t with thread := .delivered, delivered := t.delivered + modelInputSize }
    else none
  | .threadEnd => if t.thread = .delivered then some { t with thread := .stopped } else none

/-- The timing at the start of a run with rings of `ringSize` samples, with the thread and the
flag of a load as `prepare` has found them. -/
def start (thread : ThreadState) (loadingModel : Bool) (ringSize : ℕ) : Timing where
  period := max ringSize 1
  thread
  loadingModel
  init := true
  initSamples := 0
  inferenceCounter := 0
  callback := none
  sent := 0
  blocks := 0
  delivered := 0
  popped := 0
  startedAt := 0
  callbacks := []

end Timing

/-! ## The timing of a processor -/

/-- The event without its samples. -/
def AudioEvent.timing : AudioEvent F → TimingEvent
  | .sendAudio buffer => .sendAudio buffer.numSamples
  | .processOutput => .processOutput
  | .deliver => .deliver
  | .threadEnd => .threadEnd

/-- What is kept of a finished callback. -/
def Callback.timing (c : Callback F) : OutputBranch × ℤ := (c.branch, c.counter)

namespace Observed

/-- The processor and what has been seen of it, without the samples. -/
def timing (o : Observed F S) : Timing where
  period := o.inference.receiveRingBuffer.period
  thread := o.inference.thread
  loadingModel := o.inference.loadingModel
  init := o.inference.init
  initSamples := o.inference.initSamples
  inferenceCounter := o.proc.inferenceCounter
  callback := o.live.callback.map AudioBuffer.numSamples
  sent := o.history.sent.length
  blocks := o.history.blocks.length
  delivered := o.history.delivered.length
  popped := o.history.popped.length
  startedAt := o.history.startedAt
  callbacks := o.history.callbacks.map Callback.timing

variable {ort : Ort F S File} {o : Observed F S} {period : ℕ}

/-- `sendAudio` starts the thread when the timing says so. -/
lemma timing_starts (h : RingsTracked period o) (buffer : AudioBuffer F) :
    o.timing.starts buffer.numSamples = o.inference.starts buffer := by
  have hper : (o.inference.fedRing buffer).period = o.inference.receiveRingBuffer.period := by
    simp [InferenceThread.fedRing]
  unfold Timing.starts InferenceThread.starts
  rw [(h.fedRing buffer).getAvailableSamples, hper, List.length_append,
    AudioBuffer.length_samples]
  rfl

/-- The output ring counts what the timing says. -/
lemma timing_available (h : RingsTracked period o) :
    o.timing.available = o.proc.receiveRingBuffer.getAvailableSamples 0 := by
  rw [h.output.getAvailableSamples, h.outputPeriod, ← h.inputPeriod]
  rfl

/-- `processOutput` takes the branch that the timing says. -/
lemma timing_outputBranch (h : RingsTracked period o) (n : ℕ) :
    o.timing.outputBranch n = o.proc.outputBranch n := by
  unfold Timing.outputBranch OnnxProcessor.outputBranch
  rw [timing_available h]
  rfl

lemma timing_discards (h : RingsTracked period o) (n : ℕ) :
    o.timing.discards n = o.proc.discards n := by
  unfold Timing.discards OnnxProcessor.discards
  rw [timing_available h]
  rfl

lemma timing_popCount (h : RingsTracked period o) (n : ℕ) :
    o.timing.popCount n = o.proc.popCount n := by
  have hbranch := timing_outputBranch h n
  have hdiscards := timing_discards h n
  unfold Timing.popCount OnnxProcessor.popCount OnnxProcessor.discardCount
  cases hb : o.proc.outputBranch n with
  | initialising => simp [hbranch, hb]
  | missingSamples => simp [hbranch, hb]
  | modelSamples => simp [hbranch, hb, hdiscards]

lemma timing_counterAfter (h : RingsTracked period o) (n : ℕ) :
    o.timing.counterAfter n = o.proc.counterAfter n := by
  unfold Timing.counterAfter OnnxProcessor.counterAfter
  rw [timing_outputBranch h, timing_discards h]
  rfl

/-- **A step of the processor is a step of its timing**, also after the rings have overflowed.

**Proof sketch.** The rings infer how many samples are stored from their positions alone, and
these follow from the numbers of samples pushed and popped. -/
theorem timing_step (ort : Ort F S File) (h : RingsTracked period o) (e : AudioEvent F) :
    (o.step ort e).map timing = o.timing.step e.timing := by
  cases e with
  | sendAudio buffer =>
    cases hc : o.live.callback with
    | some b => simp [step, Live.step, Timing.step, timing, AudioEvent.timing, hc]
    | none =>
      obtain ⟨o', hs, -⟩ := exists_step_sendAudio ort buffer hc
      obtain ⟨-, rfl⟩ := step_sendAudio hs
      have hstarts := timing_starts h buffer
      have hcallback : o.timing.callback = none := by simp [timing, hc]
      rw [hs]
      simp only [Option.map_some, AudioEvent.timing, Timing.step, hcallback, hstarts,
        Option.some.injEq]
      simp only [timing, inference, Timing.mk.injEq, OnnxProcessor.sendAudio,
        InferenceThread.sendAudio_eq, InferenceThread.initSamplesAfter]
      cases o.inference.starts buffer <;> simp [proc, InferenceThread.fedRing] <;>
        exact ⟨rfl, rfl⟩
  | processOutput =>
    cases hc : o.live.callback with
    | none => simp [step, Live.step, Timing.step, timing, AudioEvent.timing, hc]
    | some buffer =>
      obtain ⟨o', hs, -⟩ := exists_step_processOutput ort hc
      obtain ⟨b, hb, rfl⟩ := step_processOutput hs
      obtain rfl := Option.some.inj (hc.symm.trans hb)
      have hcallback : o.timing.callback = some buffer.numSamples := by simp [timing, hc]
      rw [hs]
      simp only [Option.map_some, AudioEvent.timing, Timing.step, hcallback,
        timing_outputBranch h, timing_popCount h, timing_counterAfter h, Option.some.injEq]
      simp [timing, inference, proc, OnnxProcessor.processOutput_eq, Callback.timing]
  | deliver =>
    by_cases ht : o.inference.thread = .running
    · obtain ⟨o', hs⟩ := exists_step_deliver ort ht
      obtain ⟨-, rfl⟩ := step_deliver hs
      have hthread : o.timing.thread = .running := ht
      rw [hs]
      simp only [Option.map_some, AudioEvent.timing, Timing.step, hthread, if_true,
        Option.some.injEq]
      simp [timing, inference, proc, OnnxProcessor.deliver, OnnxProcessor.onNewProcessedBuffer,
        InferenceThread.run]
    · have hthread : o.timing.thread ≠ .running := ht
      simp [step, Live.step, Timing.step, AudioEvent.timing, hthread, ht]
  | threadEnd =>
    by_cases ht : o.inference.thread = .delivered
    · obtain ⟨o', hs⟩ := exists_step_threadEnd ort ht
      obtain ⟨-, rfl⟩ := step_threadEnd hs
      have hthread : o.timing.thread = .delivered := ht
      rw [hs]
      simp only [Option.map_some, AudioEvent.timing, Timing.step, hthread, if_true]
      rfl
    · have hthread : o.timing.thread ≠ .delivered := ht
      simp [step, Live.step, Timing.step, AudioEvent.timing, hthread, ht]

/-! ## Runs -/

omit [FloatSample F] in
/-- The timing of a processor that has been prepared. -/
lemma timing_start {p : OnnxProcessor F S} {thread : ThreadState} {loadingModel : Bool}
    (ht : p.inferenceThread.thread = thread) (hl : p.inferenceThread.loadingModel = loadingModel)
    (spec : ProcessSpec) : (start p spec).timing = .start thread loadingModel spec.ringSize := by
  simp only [timing, start, inference, proc, OnnxProcessor.prepare, OnnxProcessor.calculateLatency,
    InferenceThread.prepare, ht, hl, RingBuffer.initialise_period]
  rfl

/-- **A run that the timing can take can be taken**, and leads to a state with that timing, of
which `f` is what is of interest. -/
theorem exists_exec_of_timing (ort : Ort F S File) (h : RingsTracked period o)
    {es : List (AudioEvent F)} {α : Type} (f : Timing → α) {a : α}
    (hrun : (Transition.exec Timing.step o.timing (es.map AudioEvent.timing)).map f = some a) :
    ∃ o', Transition.exec (Observed.step ort) o es = some o' ∧ RingsTracked period o' ∧
      f o'.timing = a := by
  obtain ⟨t, htiming, rfl⟩ := Option.map_eq_some_iff.mp hrun
  obtain ⟨o', hexec, rfl⟩ := Transition.exists_exec_of_map (D := fun _ => True)
    (fun _ _ _ h _ hs => RingsTracked.step h hs) (fun _ e h _ => timing_step ort h e) h
    (fun _ _ => trivial) htiming
  refine ⟨o', hexec, ?_, rfl⟩
  exact (Transition.always_of_stepsMeet (C := fun _ _ => True)
    (fun _ _ _ h _ hs => RingsTracked.step h hs) h
    (Transition.stepsMeet_of_forall _ fun _ _ => trivial)).last hexec

/-- **A condition that the timing meets along a run is met by the processor.** -/
theorem stepsMeet_of_timing (ort : Ort F S File) (h : RingsTracked period o)
    {C : Observed F S → AudioEvent F → Prop} {C' : Timing → TimingEvent → Bool}
    (hC : ∀ o e, C' (timing o) e.timing = true → C o e) {es : List (AudioEvent F)}
    (hrun : Transition.StepsMeet Timing.step (fun t e => C' t e = true) o.timing
      (es.map AudioEvent.timing)) : Transition.StepsMeet (Observed.step ort) C o es :=
  Transition.StepsMeet.of_map (D := fun _ => True)
    (fun _ _ _ h _ hs => RingsTracked.step h hs) (fun _ e h _ => timing_step ort h e)
    (fun o e _ _ _ _ => hC o e) h (fun _ _ => trivial) hrun

section Start

variable {p : OnnxProcessor F S} {thread : ThreadState} {loadingModel : Bool}
  (ht : p.inferenceThread.thread = thread)
  (hl : p.inferenceThread.loadingModel = loadingModel)

include ht hl

/-- A run that the timing of a prepared processor can take. -/
theorem exists_exec_start (ort : Ort F S File) (spec : ProcessSpec)
    (es : List (AudioEvent F)) {α : Type} (f : Timing → α) {a : α}
    (hrun : (Transition.exec Timing.step (.start thread loadingModel spec.ringSize)
      (es.map AudioEvent.timing)).map f = some a) :
    ∃ o, Transition.exec (Observed.step ort) (start p spec) es = some o ∧ f o.timing = a := by
  rw [← timing_start ht hl spec] at hrun
  obtain ⟨o, hexec, -, ha⟩ := exists_exec_of_timing ort (RingsTracked.start p spec) f hrun
  exact ⟨o, hexec, ha⟩

/-- A condition that the timing of a prepared processor meets. -/
theorem stepsMeet_start (ort : Ort F S File) {spec : ProcessSpec}
    {C : Observed F S → AudioEvent F → Prop} {C' : Timing → TimingEvent → Bool}
    (hC : ∀ o e, C' (timing o) e.timing = true → C o e) {es : List (AudioEvent F)}
    (hrun : Transition.StepsMeet Timing.step (fun t e => C' t e = true)
      (.start thread loadingModel spec.ringSize) (es.map AudioEvent.timing)) :
    Transition.StepsMeet (Observed.step ort) C (start p spec) es := by
  rw [← timing_start ht hl spec] at hrun
  exact stepsMeet_of_timing ort (RingsTracked.start p spec) hC hrun

end Start

end Observed
