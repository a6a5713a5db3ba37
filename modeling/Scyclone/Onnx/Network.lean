import Mathlib.Data.Finset.Insert
import Mathlib.Data.Fintype.Defs
import Scyclone.Onnx.AudioRun

set_option relaxedAutoImplicit false
set_option autoImplicit false

/-!
# Networks: loading a model

A network is a processor and, if a model is being loaded into it, the call that loads it. The
call (`loadExternalModel`, or `loadInternalModel` through the parameter that selects it) is a
sequence of stages; audio callbacks, the inference thread, `prepare` and other callers of
`suspendProcessing` can come between any two of them. Callbacks begin only while processing is
not suspended, and `suspendProcessing` waits for a callback in progress to end.

A `Network` has one load at a time. The program does not see to that: a file is loaded on the
message thread and the internal model on the thread that changes the parameter, and neither waits
for the other. `SharedNetwork` has a load for each thread, and each of its steps is the step of a
`Network`, the one that the thread sees.

The call `setExternalModelName (…)` at the end of a load is left out: the editor has set it, and
only the editor loads files.

## Main definitions

* `LoadStage`, `Network`, `Network.step` — the stages of a load, a network and its steps.
* `Hosted`, `Hosted.step` — a network in a host.
* `SharedNetwork`, `SharedNetwork.step`, `LoadingThread` — a network that several threads load
  models into.

## Main results

* `Network.loadStep_effect` — what a stage of a load does.
* `Network.step_other`, `Network.step_of_no_loader` — the steps beside the stages of a load.
* `Hosted.step_cases` — a step while a load is in progress.
-/

/-! ## Stages -/

/-- What is loaded. -/
inductive ModelSource (File : Type)
  /-- `setInternalModel()`. -/
  | internal
  /-- `setExternalModel (file)`. -/
  | external (file : File)

/-- The next thing that `loadExternalModel` and `loadInternalModel` do. -/
inductive LoadStage
  /-- `loadingModel = true`. -/
  | raiseFlag
  /-- `if (isThreadRunning())`. -/
  | checkThread
  /-- `stopThread (10)`. -/
  | stopThread
  /-- `while (!isThreadRunning())`. -/
  | wait
  /-- `session = Ort::Session (…)`. -/
  | construct
  /-- `prepare (last_spec)`. -/
  | prepare
  /-- `getInputShape (&session)`. -/
  | inputShape
  /-- `onModelLoaded`: `onOnnxModelLoad (false, …)`. -/
  | resume
  /-- `onModelLoaded`: `receiveRingBuffer.reset()`. -/
  | resetRing
  /-- `onModelLoaded`: `inferenceCounter = 0`. -/
  | resetCounter
  /-- `loadingModel = false`, and `startUp = false` for an internal model. -/
  | lowerFlag
  deriving DecidableEq, Repr

variable {F S File : Type} [FloatSample F]

/-- The constructor of the session for a source. -/
def ModelSource.session (ort : Ort F S File) (currentLevel : RaveModel) :
    ModelSource File → Except OrtException S
  | .internal => ort.sessionFromData currentLevel
  | .external file => ort.sessionFromFile file

/-- Whether `prepare` and `onModelLoaded` are called: always for a file, and for an internal
model if not `startUp`. -/
def ModelSource.notifies (startUp : Bool) : ModelSource File → Bool
  | .internal => !startUp
  | .external _ => true

/-- Stages that come before `onOnnxModelLoad (false, …)` has returned. -/
def LoadStage.suspends : LoadStage → Bool
  | .resetRing => false
  | .resetCounter => false
  | .lowerFlag => false
  | _ => true

/-! ## Networks -/

/-- A processor and the load in progress. -/
structure Network (F S File : Type) where
  live : Live F S
  loader : Option (ModelSource File × LoadStage)

namespace Network

/-- The inference thread of the network. -/
abbrev inference (n : Network F S File) : InferenceThread F S := n.live.proc.inferenceThread

/-- An update of the inference thread. -/
def mapInference (n : Network F S File) (f : InferenceThread F S → InferenceThread F S) :
    Network F S File :=
  { n with live := { n.live with
      proc := { n.live.proc with inferenceThread := f n.live.proc.inferenceThread } } }

/-- The load goes on with `stage`. -/
def goTo (n : Network F S File) (source : ModelSource File) (stage : LoadStage) :
    Network F S File := { n with loader := some (source, stage) }

/-- The call has returned or was left by an exception. -/
def ended (n : Network F S File) : Network F S File := { n with loader := none }

/-- One stage of the load, with the host's suspend flag before and after. -/
def loadStep (ort : Ort F S File) (suspended : Bool) (n : Network F S File)
    (source : ModelSource File) : LoadStage → Network F S File × Bool
  | .raiseFlag =>
    ((n.mapInference fun t => { t with loadingModel := true }).goTo source .checkThread,
      suspended)
  | .checkThread =>
    (if n.inference.thread.isThreadRunning then n.goTo source .stopThread
      else n.goTo source .construct, suspended)
  | .stopThread =>
    ((n.mapInference fun t => { t with thread := .stopped }).goTo source .wait, suspended)
  | .wait =>
    (if !n.inference.thread.isThreadRunning then n else n.goTo source .construct, suspended)
  | .construct =>
    match source.session ort n.inference.currentLevel with
    | .ok session =>
      ((n.mapInference fun t => { t with session := some session }).goTo source .prepare,
        suspended)
    | .error _ => (n.ended, suspended)
  | .prepare =>
    ((if source.notifies n.inference.startUp then
        n.mapInference fun t => t.prepare t.lastSpec
      else n).goTo source .inputShape, suspended)
  | .inputShape =>
    match n.inference.session.map ort.inputShape with
    | some (.ok _) => (n.goTo source .resume, suspended)
    | some (.error _) => (n.ended, suspended)
    | none => (n.ended, suspended)
  | .resume =>
    (n.goTo source .resetRing, if source.notifies n.inference.startUp then false else suspended)
  | .resetRing =>
    ((if source.notifies n.inference.startUp then
        { n with live := { n.live with proc := { n.live.proc with
            receiveRingBuffer := n.live.proc.receiveRingBuffer.reset } } }
      else n).goTo source .resetCounter, suspended)
  | .resetCounter =>
    ((if source.notifies n.inference.startUp then
        { n with live := { n.live with proc := { n.live.proc with inferenceCounter := 0 } } }
      else n).goTo source .lowerFlag, suspended)
  | .lowerFlag =>
    ((n.mapInference fun t =>
      match source with
      | .internal => { t with loadingModel := false, startUp := false }
      | .external _ => { t with loadingModel := false }).ended, suspended)

end Network

/-- What can happen in a network. -/
inductive NetworkEvent (F File : Type)
  /-- `OnnxProcessor::prepare`. -/
  | prepare (spec : ProcessSpec)
  /-- A step of a callback or of the inference thread. -/
  | audio (event : AudioEvent F)
  /-- The call begins: `onOnnxModelLoad (true, …)`. -/
  | beginLoad (source : ModelSource File)
  /-- The call takes its next stage. -/
  | loadStep

/-- Whether the host lets the event happen: a callback does not begin while processing is
suspended. -/
def AudioEvent.allowed (suspended : Bool) : AudioEvent F → Bool
  | .sendAudio _ => !suspended
  | .processOutput => true
  | .deliver => true
  | .threadEnd => true

/-- One step of a network, with the host's suspend flag before and after. -/
def Network.step (ort : Ort F S File) (suspended : Bool) (n : Network F S File) :
    NetworkEvent F File → Option (Network F S File × Bool)
  | .prepare spec =>
    match n.live.callback with
    | none => some ({ n with live := { n.live with proc := n.live.proc.prepare spec } }, suspended)
    | some _ => none
  | .audio event =>
    if event.allowed suspended then
      (n.live.step ort event).map fun live => ({ n with live }, suspended)
    else none
  | .beginLoad source =>
    match n.loader, n.live.callback with
    | none, none => some (n.goTo source .raiseFlag, true)
    | _, _ => none
  | .loadStep =>
    n.loader.map fun load => n.loadStep ort suspended load.1 load.2

/-- The event calls `onOnnxModelLoad (false, …)`. -/
def Network.resumes (n : Network F S File) : NetworkEvent F File → Bool
  | .loadStep =>
    match n.loader with
    | some (source, .resume) => source.notifies n.inference.startUp
    | _ => false
  | _ => false

/-- A network and the suspend flag of its host. -/
structure Hosted (F S File : Type) where
  network : Network F S File
  suspended : Bool

/-- An event of the network, or a call of `suspendProcessing` by someone else. -/
inductive HostedEvent (F File : Type)
  | own (event : NetworkEvent F File)
  | suspendProcessing (shouldBeSuspended : Bool)

namespace Hosted

/-- The inference thread of the network. -/
abbrev inference (s : Hosted F S File) : InferenceThread F S :=
  s.network.live.proc.inferenceThread

/-- One step. -/
def step (ort : Ort F S File) (s : Hosted F S File) :
    HostedEvent F File → Option (Hosted F S File)
  | .own event => (s.network.step ort s.suspended event).map fun r => ⟨r.1, r.2⟩
  | .suspendProcessing shouldBeSuspended =>
    match s.network.live.callback with
    | none => some { s with suspended := shouldBeSuspended }
    | some _ => none

/-- A load in progress takes its next stage. -/
lemma step_loadStep (ort : Ort F S File) {s : Hosted F S File} {source : ModelSource File}
    {stage : LoadStage} (h : s.network.loader = some (source, stage)) :
    s.step ort (.own .loadStep) =
      some ⟨(s.network.loadStep ort s.suspended source stage).1,
        (s.network.loadStep ort s.suspended source stage).2⟩ := by
  simp only [step, Network.step, h, Option.map_some]

end Hosted

/-! ## What a stage of a load does -/

/-- The stage that follows a stage, if the load goes on: the last stage has none. -/
def LoadStage.next (running : Bool) : LoadStage → LoadStage
  | .raiseFlag => .checkThread
  | .checkThread => if running then .stopThread else .construct
  | .stopThread => .wait
  | .wait => if running then .construct else .wait
  | .construct => .prepare
  | .prepare => .inputShape
  | .inputShape => .resume
  | .resume => .resetRing
  | .resetRing => .resetCounter
  | .resetCounter => .lowerFlag
  | .lowerFlag => .lowerFlag

/-- What a stage of a load from `source` leaves of the network `n`, apart from the contents of the
rings and the counters. -/
structure Network.LoadEffect (n n' : Network F S File) (source : ModelSource File)
    (stage : LoadStage) : Prop where
  callback : n'.live.callback = n.live.callback
  thread : n'.inference.thread =
    if stage = .stopThread then .stopped else n.inference.thread
  raised : stage = .raiseFlag → n'.inference.loadingModel = true
  flag : stage ≠ .raiseFlag → stage ≠ .lowerFlag →
    n'.inference.loadingModel = n.inference.loadingModel
  session : stage ≠ .construct → n'.inference.session = n.inference.session
  onnxOutputData : n'.inference.onnxOutputData = n.inference.onnxOutputData
  loader : n'.loader = none ∨ (stage ≠ .lowerFlag ∧
    n'.loader = some (source, stage.next n.inference.thread.isThreadRunning))

/-- **What a stage of a load does.**

**Proof sketch.** By the stage. Most of them leave all this alone and go on to the next stage, or
end the load with an exception; the others are the flag, the request to stop the thread, the new
session and the end. -/
lemma Network.loadStep_effect (ort : Ort F S File) (suspended : Bool) {n : Network F S File}
    {source : ModelSource File} {stage : LoadStage} (hload : n.loader = some (source, stage)) :
    LoadEffect n (n.loadStep ort suspended source stage).1 source stage := by
  -- a stage that leaves all this alone, apart from where the load is
  have hgo : ∀ {n' : Network F S File} {stage next : LoadStage},
      stage.next n.inference.thread.isThreadRunning = next → stage ≠ .lowerFlag →
      stage ≠ .raiseFlag → stage ≠ .stopThread → n'.live.callback = n.live.callback →
      n'.inference.thread = n.inference.thread →
      n'.inference.loadingModel = n.inference.loadingModel →
      n'.inference.session = n.inference.session →
      n'.inference.onnxOutputData = n.inference.onnxOutputData →
      LoadEffect n (n'.goTo source next) source stage := by
    rintro n' stage next rfl hlast hfirst hstop hcallback hthread hflag hsession hdata
    exact ⟨hcallback, hthread.trans (if_neg hstop).symm, fun h => absurd h hfirst,
      fun _ _ => hflag, fun _ => hsession, hdata, Or.inr ⟨hlast, rfl⟩⟩
  have hend : ∀ {stage : LoadStage}, stage ≠ .raiseFlag → stage ≠ .stopThread →
      LoadEffect n n.ended source stage := fun hfirst hstop =>
    ⟨rfl, (if_neg hstop).symm, fun h => absurd h hfirst, fun _ _ => rfl, fun _ => rfl, rfl,
      Or.inl rfl⟩
  cases stage with
  | raiseFlag =>
    exact ⟨rfl, rfl, fun _ => rfl, fun h => absurd rfl h, fun _ => rfl, rfl,
      Or.inr ⟨by decide, rfl⟩⟩
  | checkThread =>
    simp only [loadStep]
    split_ifs with ht
    · exact hgo (if_pos ht) (by decide) (by decide) (by decide) rfl rfl rfl rfl rfl
    · exact hgo (if_neg ht) (by decide) (by decide) (by decide) rfl rfl rfl rfl rfl
  | stopThread =>
    exact ⟨rfl, rfl, fun h => absurd h (by decide), fun _ _ => rfl, fun _ => rfl, rfl,
      Or.inr ⟨by decide, rfl⟩⟩
  | wait =>
    simp only [loadStep]
    split_ifs with ht
    · have hidle : LoadStage.next n.inference.thread.isThreadRunning .wait = .wait := by
        simpa [LoadStage.next] using ht
      exact ⟨rfl, rfl, fun h => absurd h (by decide), fun _ _ => rfl, fun _ => rfl, rfl,
        Or.inr ⟨by decide, by rw [hidle, hload]⟩⟩
    · have hrunning : LoadStage.next n.inference.thread.isThreadRunning .wait = .construct := by
        simpa [LoadStage.next] using ht
      exact hgo hrunning (by decide) (by decide) (by decide) rfl rfl rfl rfl rfl
  | construct =>
    simp only [loadStep]
    split
    · exact ⟨rfl, rfl, fun h => absurd h (by decide), fun _ _ => rfl, fun h => absurd rfl h, rfl,
        Or.inr ⟨by decide, rfl⟩⟩
    · exact hend (by decide) (by decide)
  | prepare =>
    simp only [loadStep]
    split_ifs
    · exact hgo rfl (by decide) (by decide) (by decide) rfl rfl rfl rfl rfl
    · exact hgo rfl (by decide) (by decide) (by decide) rfl rfl rfl rfl rfl
  | inputShape =>
    simp only [loadStep]
    split
    · exact hgo rfl (by decide) (by decide) (by decide) rfl rfl rfl rfl rfl
    · exact hend (by decide) (by decide)
    · exact hend (by decide) (by decide)
  | resume => exact hgo rfl (by decide) (by decide) (by decide) rfl rfl rfl rfl rfl
  | resetRing =>
    simp only [loadStep]
    split_ifs
    · exact hgo rfl (by decide) (by decide) (by decide) rfl rfl rfl rfl rfl
    · exact hgo rfl (by decide) (by decide) (by decide) rfl rfl rfl rfl rfl
  | resetCounter =>
    simp only [loadStep]
    split_ifs
    · exact hgo rfl (by decide) (by decide) (by decide) rfl rfl rfl rfl rfl
    · exact hgo rfl (by decide) (by decide) (by decide) rfl rfl rfl rfl rfl
  | lowerFlag =>
    cases source with
    | internal =>
      exact ⟨rfl, rfl, fun h => absurd h (by decide), fun _ h => absurd rfl h, fun _ => rfl, rfl,
        Or.inl rfl⟩
    | external file =>
      exact ⟨rfl, rfl, fun h => absurd h (by decide), fun _ h => absurd rfl h, fun _ => rfl, rfl,
        Or.inl rfl⟩

/-! ## What a step can do -/

/-- A step of a network that is not a stage of its load keeps the load, the flags, the session,
and a thread that the load's flag keeps from being started.

**Proof sketch.** By the event: `prepare` and the audio events write neither the load, nor its flag,
nor the session, and a stopped thread is started by `sendAudio` only if the flag is down. -/
lemma Network.step_other {ort : Ort F S File} {suspended : Bool} {n : Network F S File}
    {load : ModelSource File × LoadStage} (hload : n.loader = some load)
    {e : NetworkEvent F File} {r : Network F S File × Bool}
    (h : n.step ort suspended e = some r) (he : e ≠ .loadStep) :
    r.1.loader = some load ∧ r.1.inference.loadingModel = n.inference.loadingModel ∧
      (n.inference.thread = .stopped → n.inference.loadingModel = true →
        r.1.inference.thread = .stopped) ∧
      r.1.inference.session = n.inference.session ∧ r.2 = suspended := by
  cases e with
  | prepare spec =>
    cases hc : n.live.callback with
    | none =>
      simp only [Network.step, hc, Option.some.injEq] at h
      rw [← h]
      exact ⟨hload, rfl, fun ht _ => ht, rfl, rfl⟩
    | some b => simp [Network.step, hc] at h
  | audio event =>
    simp only [Network.step, Option.ite_none_right_eq_some, Option.map_eq_some_iff] at h
    obtain ⟨-, live, hlive, rfl⟩ := h
    obtain ⟨hsession, hflag⟩ := Live.step_frame hlive
    exact ⟨hload, hflag, fun ht hl => Live.step_stopped hlive ht hl, hsession, rfl⟩
  | beginLoad source => simp [Network.step, hload] at h
  | loadStep => exact absurd rfl he

/-- With no load in progress a step begins one, with its call of `suspendProcessing`, or leaves
the network without one and the flags alone.

**Proof sketch.** By the event: without a load there is no stage to take, and beside the beginning
of a load no event touches the flags. -/
lemma Network.step_of_no_loader {ort : Ort F S File} {suspended : Bool} {n : Network F S File}
    (hload : n.loader = none) {e : NetworkEvent F File} {r : Network F S File × Bool}
    (h : n.step ort suspended e = some r) :
    (∃ source, e = .beginLoad source ∧ r = (n.goTo source .raiseFlag, true)) ∨
      (r.1.loader = none ∧ r.2 = suspended ∧
        r.1.inference.loadingModel = n.inference.loadingModel) := by
  cases e with
  | prepare spec =>
    right
    cases hc : n.live.callback with
    | none =>
      simp only [Network.step, hc, Option.some.injEq] at h
      rw [← h]
      exact ⟨hload, rfl, rfl⟩
    | some b => simp [Network.step, hc] at h
  | audio event =>
    right
    simp only [Network.step, Option.ite_none_right_eq_some, Option.map_eq_some_iff] at h
    obtain ⟨-, live, hlive, rfl⟩ := h
    exact ⟨hload, rfl, (Live.step_frame hlive).2⟩
  | beginLoad source =>
    left
    cases hc : n.live.callback with
    | none =>
      simp only [Network.step, hload, hc, Option.some.injEq] at h
      exact ⟨source, rfl, h.symm⟩
    | some b => simp [Network.step, hload, hc] at h
  | loadStep => simp [Network.step, hload] at h

/-- A step while a load is in progress: a stage of the load, or one that keeps the load.

**Proof sketch.** By the event: a stage of the load is the first case; any other event of the
network, and a call of `suspendProcessing`, keeps the load. -/
lemma Hosted.step_cases {ort : Ort F S File} {s s' : Hosted F S File}
    {source : ModelSource File} {stage : LoadStage}
    (hload : s.network.loader = some (source, stage)) {e : HostedEvent F File}
    (h : s.step ort e = some s') :
    (e = .own .loadStep ∧ s' = ⟨(s.network.loadStep ort s.suspended source stage).1,
      (s.network.loadStep ort s.suspended source stage).2⟩) ∨
    (e ≠ .own .loadStep ∧ s'.network.loader = some (source, stage) ∧
      s'.inference.loadingModel = s.inference.loadingModel ∧
      (s.inference.thread = .stopped → s.inference.loadingModel = true →
        s'.inference.thread = .stopped)) := by
  cases e with
  | own event =>
    simp only [step, Option.map_eq_some_iff] at h
    obtain ⟨r, hr, rfl⟩ := h
    by_cases hevent : event = .loadStep
    · left
      rw [hevent] at hr ⊢
      simp only [Network.step, hload, Option.map_some, Option.some.injEq] at hr
      exact ⟨rfl, by rw [hr]⟩
    · right
      obtain ⟨hload', hflag', ht', -⟩ := Network.step_other hload hr hevent
      exact ⟨fun heq => hevent (HostedEvent.own.inj heq), hload', hflag', ht'⟩
  | suspendProcessing shouldBeSuspended =>
    right
    cases hc : s.network.live.callback with
    | none =>
      simp only [step, hc, Option.some.injEq] at h
      rw [← h]
      exact ⟨by simp, hload, rfl, fun ht _ => ht⟩
    | some b => simp [step, hc] at h

/-! ## Loads on several threads -/

/-- The threads that load models: the message thread files, the host's thread internal models. -/
inductive LoadingThread
  | message
  | host
  deriving DecidableEq, Repr

instance : Fintype LoadingThread := ⟨{.message, .host}, fun i => by cases i <;> decide⟩

/-- A network and the load in progress on each of the threads `ι`. -/
structure SharedNetwork (F S File ι : Type) where
  live : Live F S
  loads : ι → Option (ModelSource File × LoadStage)

namespace SharedNetwork

variable {ι : Type}

/-- The network as a thread sees it: with the load that is in progress there. -/
def seenBy (n : SharedNetwork F S File ι) (i : ι) : Network F S File := ⟨n.live, n.loads i⟩

variable [DecidableEq ι]

/-- The network after a thread has taken a step. -/
def put (n : SharedNetwork F S File ι) (i : ι) (r : Network F S File) :
    SharedNetwork F S File ι := ⟨r.live, Function.update n.loads i r.loader⟩

/-- One step, of the load on a thread or of anything else: it is the step of the network that the
thread sees. -/
def step (ort : Ort F S File) (suspended : Bool) (n : SharedNetwork F S File ι) (i : ι)
    (e : NetworkEvent F File) : Option (SharedNetwork F S File ι × Bool) :=
  ((n.seenBy i).step ort suspended e).map fun r => (n.put i r.1, r.2)

omit [FloatSample F] in
@[simp] lemma seenBy_put_self (n : SharedNetwork F S File ι) (i : ι) (r : Network F S File) :
    (n.put i r).seenBy i = r := by
  simp [put, seenBy]

omit [FloatSample F] in
@[simp] lemma loads_put_of_ne (n : SharedNetwork F S File ι) {i j : ι} (h : j ≠ i)
    (r : Network F S File) : (n.put i r).loads j = n.loads j := Function.update_of_ne h _ _

omit [FloatSample F] in
@[simp] lemma loads_put_self (n : SharedNetwork F S File ι) (i : ι) (r : Network F S File) :
    (n.put i r).loads i = r.loader := Function.update_self _ _ _

end SharedNetwork
