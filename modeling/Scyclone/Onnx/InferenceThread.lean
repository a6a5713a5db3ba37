import Scyclone.Onnx.RingBuffer

set_option relaxedAutoImplicit false
set_option autoImplicit false

/-!
# The inference thread

`InferenceThread` of `source/dsp/onnx/InferenceThread.cpp`: the ring of incoming samples, the
block handed to the model, and the thread that runs the model on it. ONNX Runtime is a
parameter (`Ort`): its sessions are constructed from the embedded models or from a file and
run on blocks, and each of these calls may throw.

A run of the thread is two events for the rest of the program: `run` computes and delivers the
output block (`ThreadState.running` to `ThreadState.delivered`), and later the thread has
ended (`ThreadState.stopped`). Between `startThread` and that end `isThreadRunning` is true.

## Main definitions

* `modelInputSize`, `maxModelCalcSize`, `ModelBlock` — the block the model works on.
* `Ort` — what the code uses of ONNX Runtime.
* `InferenceThread` with `construct`, `prepare`, `sendAudio`, `run`, `getLatency`.

## Main results

* `InferenceThread.storeSamples_eq` — the loop of `sendAudio` in one step.
* `InferenceThread.sendAudio_eq` — the three stages of `sendAudio` as one update.
-/

/-! ## Model blocks -/

/-- The member `modelInputSize`; it is set once, to this value. -/
@[irreducible] def modelInputSize : ℕ := 16384

/-- The member `maxModelCalcSize`. -/
@[irreducible] def maxModelCalcSize : ℕ := 4096

lemma modelInputSize_eq : modelInputSize = 16384 := by unfold modelInputSize; rfl

lemma maxModelCalcSize_eq : maxModelCalcSize = 4096 := by unfold maxModelCalcSize; rfl

lemma modelInputSize_pos : 0 < modelInputSize := by rw [modelInputSize_eq]; norm_num

/-- The samples the model reads and writes: the contents of `onnxInputData` and
`onnxOutputData`, vectors of length `modelInputSize`. -/
abbrev ModelBlock (F : Type) := Fin modelInputSize → F

section Blocks

variable {F : Type} [Zero F]

/-- The block filled from a list of `modelInputSize` samples. -/
def ModelBlock.ofList (xs : List F) : ModelBlock F := fun i => xs.getD i 0

/-- Block `j` of the consecutive cuts of a stream. -/
def cutBlock (xs : List F) (j : ℕ) : ModelBlock F :=
  ModelBlock.ofList (xs.slice (j * modelInputSize) modelInputSize)

/-- A block that lies inside the stream is kept when the stream grows. -/
lemma cutBlock_append {xs : List F} {j : ℕ} (h : (j + 1) * modelInputSize ≤ xs.length)
    (ys : List F) : cutBlock (xs ++ ys) j = cutBlock xs j := by
  unfold cutBlock
  rw [List.slice_append_left]
  rwa [← Nat.succ_mul]

/-- Entry `i` of block `j` is sample `j * modelInputSize + i` of the stream. -/
lemma cutBlock_apply (xs : List F) {j : ℕ} (h : (j + 1) * modelInputSize ≤ xs.length)
    (i : Fin modelInputSize) : ∃ hi : j * modelInputSize + i < xs.length,
      cutBlock xs j i = xs[j * modelInputSize + i] := by
  have hi : j * modelInputSize + i < xs.length := by
    have := i.isLt
    rw [Nat.succ_mul] at h
    omega
  refine ⟨hi, ?_⟩
  simp [cutBlock, ModelBlock.ofList, List.slice, i.isLt, List.getElem?_drop,
    List.getElem?_eq_getElem hi]

end Blocks

/-! ## ONNX Runtime -/

/-- `Ort::Exception`. -/
structure OrtException where
  /-- `what()`. -/
  what : String

/-- `enum RaveModel`. -/
inductive RaveModel
  | funkDrum
  | djembe
  deriving DecidableEq, Repr

/-- What the code uses of ONNX Runtime, with sessions of type `S` and model files of type
`File`. Every call may throw. -/
structure Ort (F S File : Type) where
  /-- `Ort::Session (env, BinaryData::…_ort, …)` for an embedded model. -/
  sessionFromData : RaveModel → Except OrtException S
  /-- `Ort::Session (env, modelCStr, …)` for a model file. -/
  sessionFromFile : File → Except OrtException S
  /-- `session.Run (…)` on one block. -/
  run : S → ModelBlock F → Except OrtException (ModelBlock F)
  /-- `GetInputTypeInfo (0).GetTensorTypeAndShapeInfo().GetShape()`. -/
  inputShape : S → Except OrtException (List ℤ)

/-- A runtime with one session, whose model returns its input. -/
def Ort.passThrough (F : Type) : Ort F Unit Unit where
  sessionFromData _ := .ok ()
  sessionFromFile _ := .ok ()
  run _ block := .ok block
  inputShape _ := .ok [1, 1, modelInputSize]

/-- A runtime that has the embedded models of `Ort.passThrough` and takes no file. -/
def Ort.noFiles (F : Type) : Ort F Unit Unit :=
  { Ort.passThrough F with sessionFromFile := fun _ => .error ⟨"invalid model"⟩ }

/-! ## The thread -/

/-- Where `juce::Thread` is with `run()`. -/
inductive ThreadState
  /-- Not running. -/
  | stopped
  /-- Started; the output block has not been delivered yet. -/
  | running
  /-- The output block has been delivered, `run()` has not returned yet. -/
  | delivered
  deriving DecidableEq, Repr

/-- `juce::Thread::isThreadRunning()`. -/
def ThreadState.isThreadRunning : ThreadState → Bool
  | .stopped => false
  | .running => true
  | .delivered => true

@[simp] lemma ThreadState.isThreadRunning_eq_false {s : ThreadState} :
    s.isThreadRunning = false ↔ s = .stopped := by
  cases s <;> simp [isThreadRunning]

/-- `class InferenceThread`. -/
structure InferenceThread (F S : Type) where
  /-- The underlying `juce::Thread`. -/
  thread : ThreadState
  init : Bool
  initSamples : ℕ
  startUp : Bool
  lastSpec : ProcessSpec
  currentLevel : RaveModel
  /-- The session held, if any: `session (nullptr)` is none. -/
  session : Option S
  onnxInputData : ModelBlock F
  onnxOutputData : ModelBlock F
  receiveRingBuffer : RingBuffer F
  loadingModel : Bool

namespace InferenceThread

variable {F S File : Type} [FloatSample F]

/-- The constructor, which loads the internal model with `startUp` set: no `prepare`, no
`onModelLoaded`. An exception of the session constructor leaves it. The members that are not
initialised come in as parameters. -/
def construct (ort : Ort F S File) (raveModel : RaveModel) (lastSpec : ProcessSpec) :
    Except OrtException (InferenceThread F S) := do
  let session ← ort.sessionFromData raveModel
  let _ ← ort.inputShape session
  pure
    { thread := .stopped
      init := true
      initSamples := 0
      startUp := false
      lastSpec
      currentLevel := raveModel
      session := some session
      onnxInputData := fun _ => 0
      onnxOutputData := fun _ => 0
      receiveRingBuffer := ⟨⟨0, 0, fun _ _ => 0⟩, [], []⟩
      loadingModel := false }

/-- `prepare`. -/
def prepare (t : InferenceThread F S) (spec : ProcessSpec) : InferenceThread F S :=
  { t with
    receiveRingBuffer := t.receiveRingBuffer.initialise 1 spec.ringSize
    lastSpec := spec
    init := true
    initSamples := 0 }

/-- The body of the first loop of `sendAudio`. -/
def storeSample (t : InferenceThread F S) (x : F) : InferenceThread F S :=
  { t with
    receiveRingBuffer := t.receiveRingBuffer.pushSample x 0
    initSamples := if t.init then t.initSamples + 1 else t.initSamples }

/-- The first loop of `sendAudio`. -/
def storeSamples (t : InferenceThread F S) (xs : List F) : InferenceThread F S :=
  xs.foldl storeSample t

/-- The condition under which `sendAudio` starts the thread. -/
def readyToStart (t : InferenceThread F S) : Bool :=
  !t.thread.isThreadRunning && decide (t.receiveRingBuffer.getAvailableSamples 0 ≥ modelInputSize)
    && !t.loadingModel

/-- The second part of `sendAudio`: a block is popped and the thread started on it. -/
def startIfReady (t : InferenceThread F S) : InferenceThread F S :=
  if t.readyToStart then
    { t with
      receiveRingBuffer := (t.receiveRingBuffer.popSamples 0 modelInputSize).2
      onnxInputData := ModelBlock.ofList (t.receiveRingBuffer.popSamples 0 modelInputSize).1
      thread := .running }
  else t

/-- The last line of `sendAudio`. -/
def endInit (t : InferenceThread F S) : InferenceThread F S :=
  if t.init && decide (t.initSamples ≥ modelInputSize + maxModelCalcSize) then
    { t with init := false }
  else t

/-- `sendAudio`. -/
def sendAudio (t : InferenceThread F S) (buffer : AudioBuffer F) : InferenceThread F S :=
  ((t.storeSamples (buffer.samples 0)).startIfReady).endInit

/-- `run`, up to the call of `onNewProcessedBuffer` with the returned block. An exception of
`session.Run` is caught and leaves `onnxOutputData` as it was. -/
def run (ort : Ort F S File) (t : InferenceThread F S) : ModelBlock F × InferenceThread F S :=
  let onnxOutputData :=
    match t.session with
    | none => t.onnxOutputData
    | some session =>
      match ort.run session t.onnxInputData with
      | .ok output => output
      | .error _ => t.onnxOutputData
  (onnxOutputData, { t with onnxOutputData })

/-- `getLatency`. -/
def getLatency (_t : InferenceThread F S) : ℕ := modelInputSize + maxModelCalcSize

/-! ## `sendAudio` in one update -/

/-- The loop pushes the samples and, while `init` is set, counts them.

**Proof sketch.** Induction on the samples; the loop does not change `init`. -/
lemma storeSamples_eq (t : InferenceThread F S) (xs : List F) :
    t.storeSamples xs =
      { t with
        receiveRingBuffer := t.receiveRingBuffer.pushSamples xs 0
        initSamples := if t.init then t.initSamples + xs.length else t.initSamples } := by
  induction xs generalizing t with
  | nil => simp [storeSamples, RingBuffer.pushSamples]
  | cons x xs ih =>
    have hcons : t.storeSamples (x :: xs) = (t.storeSample x).storeSamples xs := rfl
    rw [hcons, ih]
    cases hi : t.init <;>
      simp [storeSample, RingBuffer.pushSamples, hi, Nat.add_comm, Nat.add_left_comm]

/-- The second part of `sendAudio` field by field. -/
lemma startIfReady_eq (t : InferenceThread F S) :
    t.startIfReady =
      { t with
        receiveRingBuffer :=
          if t.readyToStart then (t.receiveRingBuffer.popSamples 0 modelInputSize).2
          else t.receiveRingBuffer
        onnxInputData :=
          if t.readyToStart then
            ModelBlock.ofList (t.receiveRingBuffer.popSamples 0 modelInputSize).1
          else t.onnxInputData
        thread := if t.readyToStart then .running else t.thread } := by
  unfold startIfReady
  split_ifs <;> rfl

omit [FloatSample F] in
/-- The last line of `sendAudio` as an update of `init`. -/
lemma endInit_eq (t : InferenceThread F S) :
    t.endInit =
      { t with
        init := t.init && decide (t.initSamples < modelInputSize + maxModelCalcSize) } := by
  unfold endInit
  by_cases hn : t.initSamples < modelInputSize + maxModelCalcSize
  · have hge : ¬ t.initSamples ≥ modelInputSize + maxModelCalcSize := Nat.not_le.mpr hn
    simp only [hn, hge, decide_true, decide_false, Bool.and_true, Bool.and_false,
      Bool.false_eq_true, if_false]
  · have hge : t.initSamples ≥ modelInputSize + maxModelCalcSize := Nat.not_lt.mp hn
    cases hi : t.init <;> simp [hn, hge, ← hi]

/-- The ring after the samples of a callback were pushed, before a block is popped. -/
def fedRing (t : InferenceThread F S) (buffer : AudioBuffer F) : RingBuffer F :=
  t.receiveRingBuffer.pushSamples (buffer.samples 0) 0

/-- Whether `sendAudio` starts the thread on a new block. -/
def starts (t : InferenceThread F S) (buffer : AudioBuffer F) : Bool :=
  !t.thread.isThreadRunning
    && decide ((t.fedRing buffer).getAvailableSamples 0 ≥ modelInputSize) && !t.loadingModel

/-- The count `initSamples` after a callback. -/
def initSamplesAfter (t : InferenceThread F S) (buffer : AudioBuffer F) : ℕ :=
  if t.init then t.initSamples + buffer.numSamples else t.initSamples

/-- `sendAudio` field by field. -/
lemma sendAudio_eq (t : InferenceThread F S) (buffer : AudioBuffer F) :
    t.sendAudio buffer =
      { t with
        receiveRingBuffer :=
          if t.starts buffer then ((t.fedRing buffer).popSamples 0 modelInputSize).2
          else t.fedRing buffer
        onnxInputData :=
          if t.starts buffer then
            ModelBlock.ofList ((t.fedRing buffer).popSamples 0 modelInputSize).1
          else t.onnxInputData
        thread := if t.starts buffer then .running else t.thread
        initSamples := t.initSamplesAfter buffer
        init := t.init &&
          decide (t.initSamplesAfter buffer < modelInputSize + maxModelCalcSize) } := by
  have hready : (t.storeSamples (buffer.samples 0)).readyToStart = t.starts buffer := by
    rw [storeSamples_eq]
    rfl
  unfold sendAudio
  rw [endInit_eq, startIfReady_eq, hready, storeSamples_eq, AudioBuffer.length_samples]
  rfl

@[simp] lemma sendAudio_loadingModel (t : InferenceThread F S) (buffer : AudioBuffer F) :
    (t.sendAudio buffer).loadingModel = t.loadingModel := by rw [sendAudio_eq]

@[simp] lemma sendAudio_session (t : InferenceThread F S) (buffer : AudioBuffer F) :
    (t.sendAudio buffer).session = t.session := by rw [sendAudio_eq]

@[simp] lemma sendAudio_thread (t : InferenceThread F S) (buffer : AudioBuffer F) :
    (t.sendAudio buffer).thread = if t.starts buffer then .running else t.thread := by
  rw [sendAudio_eq]

/-- The block that a started thread works on. -/
lemma sendAudio_onnxInputData {t : InferenceThread F S} {buffer : AudioBuffer F}
    (h : t.starts buffer = true) : (t.sendAudio buffer).onnxInputData =
      ModelBlock.ofList ((t.fedRing buffer).popSamples 0 modelInputSize).1 := by
  rw [sendAudio_eq]
  exact if_pos h

/-- A thread that is started was stopped and is not held back by a load. -/
lemma starts_iff (t : InferenceThread F S) (buffer : AudioBuffer F) :
    t.starts buffer = true ↔ t.thread = .stopped ∧
      modelInputSize ≤ (t.fedRing buffer).getAvailableSamples 0 ∧ t.loadingModel = false := by
  simp [starts, and_assoc]

omit [FloatSample F] in
/-- The block of a session that runs without an exception. -/
lemma run_fst_of_ok {ort : Ort F S File} {t : InferenceThread F S} {session : S}
    {output : ModelBlock F} (hs : t.session = some session)
    (hr : ort.run session t.onnxInputData = .ok output) : (run ort t).1 = output := by
  simp [run, hs, hr]

end InferenceThread
