import Mathlib.Data.Fintype.Basic
import Scyclone.Onnx.LoadAtomicity
import Scyclone.Onnx.LoadTermination

set_option relaxedAutoImplicit false
set_option autoImplicit false

/-!
# The session of a running job

`run` uses the session that the thread holds. The loads replace it, from any of several threads,
and the destructor releases it. Between a load and `sendAudio`, which starts the thread, there are
the flag of the load, the check of the thread and the suspension of the host; `sendAudio` reads
the flag before it starts the thread, so here it is taken in the stages in which others can come
between. Between the destructor and the thread there is `stopThread`, which comes after the
release.

## Main definitions

* `SendStage`, `Lifetime`, `Lifetime.step` — a network in a host with its loads, its callback
  inside `sendAudio` and its destructor, and a count of the changes of the session.
* `Lifetime.SessionKept` — the session that the job in progress was started with is held.
* `Lifetime.KeepsProtection` — the condition on the destructor and on whoever resumes processing
  or lowers the flag.

## Main results

* `Lifetime.exec_sendAudio` — the stages of `sendAudio` without anything between them are the
  step of the callback.
* `Lifetime.Protected.step` — what protects the session is kept.
* `session_kept` — when it is kept, and that the destructor takes it from a job in progress.
-/

variable {F S File : Type} [FloatSample F]

/-! ## Stages -/

/-- The second part of `sendAudio` once its condition was found true: a block is popped and the
thread started on it. -/
def InferenceThread.popAndStart (t : InferenceThread F S) : InferenceThread F S :=
  { t with
    receiveRingBuffer := (t.receiveRingBuffer.popSamples 0 modelInputSize).2
    onnxInputData := ModelBlock.ofList (t.receiveRingBuffer.popSamples 0 modelInputSize).1
    thread := .running }

/-- The loop of `sendAudio` touches neither the session nor the flag nor the thread. -/
lemma InferenceThread.storeSamples_frame (t : InferenceThread F S) (xs : List F) :
    (t.storeSamples xs).session = t.session ∧ (t.storeSamples xs).loadingModel = t.loadingModel ∧
      (t.storeSamples xs).thread = t.thread := by
  rw [storeSamples_eq]
  exact ⟨rfl, rfl, rfl⟩

omit [FloatSample F] in
/-- Nor does its last line. -/
lemma InferenceThread.endInit_frame (t : InferenceThread F S) :
    t.endInit.session = t.session ∧ t.endInit.loadingModel = t.loadingModel ∧
      t.endInit.thread = t.thread := by
  rw [endInit_eq]
  exact ⟨rfl, rfl, rfl⟩

/-- How far a callback is inside `sendAudio`. -/
inductive SendStage (F : Type)
  /-- No callback is in `sendAudio`. -/
  | outside
  /-- The samples are stored. -/
  | stored (buffer : AudioBuffer F)
  /-- The condition has been evaluated, with this result. -/
  | checked (buffer : AudioBuffer F) (ready : Bool)

/-- How far `~InferenceThread` is. -/
inductive DestructorStage
  /-- It has not been called. -/
  | alive
  /-- `session.release()` has returned. -/
  | released
  /-- `stopThread (100)` has returned. -/
  | threadStopped
  deriving DecidableEq, Repr

/-- A network in a host over its lifetime, with the threads `ι` that load models. -/
structure Lifetime (F S File ι : Type) where
  network : SharedNetwork F S File ι
  suspended : Bool
  send : SendStage F
  destructor : DestructorStage
  /-- How often the session held was replaced or released. -/
  version : ℕ
  /-- The version that the last job was started with. -/
  jobVersion : ℕ

/-- What can happen. -/
inductive LifetimeEvent (F File ι : Type)
  /-- Anything but the beginning of a callback, on one of the threads. -/
  | hosted (i : ι) (event : HostedEvent F File)
  /-- A callback begins; the loop of `sendAudio`. -/
  | storeSamples (buffer : AudioBuffer F)
  /-- `sendAudio` evaluates its condition. -/
  | evaluate
  /-- `sendAudio` starts the thread if the condition was true, and returns. -/
  | startIfReady
  /-- The destructor is called: `session.release()`. -/
  | release
  /-- The destructor goes on: `stopThread (100)`. -/
  | stopThread

/-- An event that waits for a callback in progress, or that the host keeps apart from
callbacks. -/
def HostedEvent.waitsForCallback : HostedEvent F File → Bool
  | .own (.prepare _) => true
  | .own (.audio _) => false
  | .own (.beginLoad _) => true
  | .own .loadStep => false
  | .suspendProcessing _ => true

/-- An event of the inference thread. -/
def HostedEvent.byThread : HostedEvent F File → Bool
  | .own (.audio .deliver) => true
  | .own (.audio .threadEnd) => true
  | _ => false

/-- The beginning of a callback. -/
def HostedEvent.beginsCallback : HostedEvent F File → Bool
  | .own (.audio (.sendAudio _)) => true
  | _ => false

/-- The event is the stage of a load that replaces the session, and the constructor does not
throw. -/
def Hosted.replacesSession (ort : Ort F S File) (s : Hosted F S File) :
    HostedEvent F File → Bool
  | .own .loadStep =>
    match s.network.loader with
    | some (source, .construct) =>
      match source.session ort s.inference.currentLevel with
      | .ok _ => true
      | .error _ => false
    | _ => false
  | _ => false

/-- Stages that come only after the thread was found stopped, or was stopped. -/
def LoadStage.afterStop : LoadStage → Bool
  | .wait => true
  | .construct => true
  | _ => false

/-- An update of the inference thread. -/
def SharedNetwork.mapInference {ι : Type} (n : SharedNetwork F S File ι)
    (f : InferenceThread F S → InferenceThread F S) : SharedNetwork F S File ι :=
  { n with live := { n.live with
      proc := { n.live.proc with inferenceThread := f n.live.proc.inferenceThread } } }

/-- The callback goes on to `processOutput`. -/
def SharedNetwork.awaitOutput {ι : Type} (n : SharedNetwork F S File ι) (buffer : AudioBuffer F) :
    SharedNetwork F S File ι :=
  { n with live := { n.live with callback := some buffer } }

/-- Only the call of `onOnnxModelLoad (false, …)` touches the host's flag. -/
lemma Network.loadStep_suspended (ort : Ort F S File) (suspended : Bool) (n : Network F S File)
    (source : ModelSource File) {stage : LoadStage} (hstage : stage ≠ .resume) :
    (n.loadStep ort suspended source stage).2 = suspended := by
  cases stage with
  | resume => exact absurd rfl hstage
  | construct =>
    simp only [loadStep]
    split <;> rfl
  | inputShape =>
    simp only [loadStep]
    split <;> rfl
  | raiseFlag | checkThread | stopThread | wait | prepare | resetRing | resetCounter | lowerFlag =>
    rfl

/-- A stage leads to one before the session is there only from one before it. -/
lemma LoadStage.hasSession_next {running : Bool} {stage : LoadStage}
    (h : (stage.next running).hasSession = false) :
    stage.hasSession = false ∧ stage ≠ .resume ∧ stage ≠ .lowerFlag := by
  revert h
  cases stage <;> cases running <;> decide

/-- A stage leads to the wait loop or to the constructor if it stops the thread, is the wait loop
itself, or does not find the thread running. -/
lemma LoadStage.afterStop_next {running : Bool} {stage : LoadStage}
    (h : (stage.next running).afterStop = true) :
    stage = .stopThread ∨ stage.afterStop = true ∨ running = false := by
  revert h
  cases stage <;> cases running <;> decide

omit [FloatSample F] in
/-- Only the constructor replaces the session. -/
lemma Hosted.replacesSession_eq_false (ort : Ort F S File) {s : Hosted F S File}
    {source : ModelSource File} {stage : LoadStage}
    (hload : s.network.loader = some (source, stage)) (hstage : stage ≠ .construct) :
    s.replacesSession ort (.own .loadStep) = false := by
  simp only [replacesSession, hload]
  split
  · rename_i h
    cases h
    exact absurd rfl hstage
  · rfl

/-- The constructor replaces the session, or it throws and the session is kept. -/
lemma Hosted.loadStep_construct (ort : Ort F S File) {s : Hosted F S File}
    {source : ModelSource File} (hload : s.network.loader = some (source, .construct)) :
    (s.replacesSession ort (.own .loadStep) = true ∧ ∃ session,
      (s.network.loadStep ort s.suspended source .construct).1.inference.session =
        some session) ∨
    (s.replacesSession ort (.own .loadStep) = false ∧
      (s.network.loadStep ort s.suspended source .construct).1.inference.session =
        s.inference.session) := by
  cases hs : source.session ort s.inference.currentLevel with
  | ok session =>
    left
    simp only [Network.loadStep, replacesSession, hload, hs]
    exact ⟨trivial, session, rfl⟩
  | error e =>
    right
    simp only [Network.loadStep, replacesSession, hload, hs]
    exact ⟨trivial, rfl⟩

namespace Lifetime

variable {ι : Type}

/-- The inference thread. -/
abbrev inference (s : Lifetime F S File ι) : InferenceThread F S :=
  s.network.live.proc.inferenceThread

/-- The network in its host as one of the threads sees it. -/
def seenBy (s : Lifetime F S File ι) (i : ι) : Hosted F S File :=
  ⟨s.network.seenBy i, s.suspended⟩

/-- No callback is in progress. -/
def quiet (s : Lifetime F S File ι) : Bool :=
  match s.send, s.network.live.callback with
  | .outside, none => true
  | _, _ => false

/-- One step. Once the destructor has been called, only the inference thread goes on. The host
calls it when no callback and no load is in progress. -/
def step [DecidableEq ι] [Fintype ι] (ort : Ort F S File) (s : Lifetime F S File ι) :
    LifetimeEvent F File ι → Option (Lifetime F S File ι)
  | .hosted i event =>
    if event.beginsCallback || (event.waitsForCallback && !s.quiet)
        || (s.destructor != .alive && !event.byThread) then none
    else ((s.seenBy i).step ort event).map fun hosted =>
      { s with
        network := s.network.put i hosted.network
        suspended := hosted.suspended
        version := if (s.seenBy i).replacesSession ort event then s.version + 1 else s.version }
  | .storeSamples buffer =>
    if s.quiet && !s.suspended && s.destructor == .alive then
      some { s with
        network := s.network.mapInference fun t => t.storeSamples (buffer.samples 0)
        send := .stored buffer }
    else none
  | .evaluate =>
    match s.send with
    | .stored buffer => some { s with send := .checked buffer s.inference.readyToStart }
    | _ => none
  | .startIfReady =>
    match s.send with
    | .checked buffer ready =>
      some { s with
        network := (s.network.mapInference fun t =>
          (if ready then t.popAndStart else t).endInit).awaitOutput buffer
        send := .outside
        jobVersion := if ready then s.version else s.jobVersion }
    | _ => none
  | .release =>
    if s.quiet && decide (∀ i, (s.network.loads i).isNone) && s.destructor == .alive then
      some { s with
        network := s.network.mapInference fun t => { t with session := none }
        destructor := .released
        version := s.version + 1 }
    else none
  | .stopThread =>
    if s.destructor == .released then
      some { s with
        network := s.network.mapInference fun t => { t with thread := .stopped }
        destructor := .threadStopped }
    else none

/-! ## The session of the job -/

/-- While a job is in progress the session it was started with is held: it has been neither
replaced nor released since. -/
def SessionKept (s : Lifetime F S File ι) : Prop :=
  s.inference.thread.isThreadRunning = true →
    s.jobVersion = s.version ∧ s.inference.session.isSome = true

/-- Some load has begun and has not constructed its session. -/
def Exposed (s : Lifetime F S File ι) : Prop :=
  ∃ i source stage, s.network.loads i = some (source, stage) ∧ stage.hasSession = false

/-- Some load has found the thread stopped, or has stopped it, and has not constructed its
session. -/
def Halted (s : Lifetime F S File ι) : Prop :=
  ∃ i source stage, s.network.loads i = some (source, stage) ∧ stage.afterStop = true

/-- The condition on a step. The destructor finds the inference thread stopped. While a load has
begun and has not constructed its session, processing is resumed, by another load or by anyone,
only with `loadingModel` set, and `loadingModel` is lowered only while processing is suspended. -/
def KeepsProtection (s : Lifetime F S File ι) : LifetimeEvent F File ι → Prop
  | .hosted _ (.suspendProcessing false) => s.Exposed → s.inference.loadingModel = true
  | .hosted i (.own .loadStep) =>
    ((s.network.seenBy i).resumes .loadStep = true → s.Exposed →
      s.inference.loadingModel = true) ∧
    ((s.network.loads i).map Prod.snd = some .lowerFlag → s.Exposed → s.suspended = true)
  | .release => s.inference.thread = .stopped
  | _ => True

/-- What keeps the session of a job: while a load has yet to construct its session, processing is
suspended or the flag is raised, and no callback is about to start the thread; and a load that
has found the thread stopped finds it so until it has replaced the session. -/
structure Protected (s : Lifetime F S File ι) : Prop where
  kept : s.SessionKept
  held : s.destructor = .alive → s.inference.session.isSome = true
  dead : s.destructor ≠ .alive → (∀ i, s.network.loads i = none) ∧ s.inference.thread = .stopped
  settled : s.suspended = true ∨ s.destructor ≠ .alive → s.quiet = true
  shielded : s.Exposed → (s.suspended = true ∨ s.inference.loadingModel = true) ∧
    ∀ buffer, s.send ≠ .checked buffer true
  stopped : s.Halted → s.inference.thread = .stopped

/-! ## What a step can do -/

omit [FloatSample F] in
/-- No callback is in progress: none is in `sendAudio` and none waits for `processOutput`. -/
lemma quiet_iff {s : Lifetime F S File ι} :
    s.quiet = true ↔ s.send = .outside ∧ s.network.live.callback = none := by
  cases hsend : s.send <;> cases hc : s.network.live.callback <;> simp [quiet, hsend, hc]

omit [FloatSample F] in
/-- A load that has found the thread stopped has yet to construct its session. -/
lemma Halted.exposed {s : Lifetime F S File ι} (h : s.Halted) : s.Exposed := by
  obtain ⟨i, source, stage, hload, hafter⟩ := h
  refine ⟨i, source, stage, hload, ?_⟩
  revert hafter
  cases stage <;> decide

variable [DecidableEq ι] [Fintype ι]

/-- What a step of the network or of the host does, beside its effect on them. -/
lemma step_hosted {ort : Ort F S File} {s s' : Lifetime F S File ι} {i : ι}
    {event : HostedEvent F File} (h : s.step ort (.hosted i event) = some s') :
    event.beginsCallback = false ∧ (event.waitsForCallback = true → s.quiet = true) ∧
      (s.destructor ≠ .alive → event.byThread = true) ∧
      ∃ hosted, (s.seenBy i).step ort event = some hosted ∧
        s' = { s with
          network := s.network.put i hosted.network
          suspended := hosted.suspended
          version :=
            if (s.seenBy i).replacesSession ort event then s.version + 1 else s.version } := by
  simp only [step, Option.ite_none_left_eq_some, Option.map_eq_some_iff, Bool.or_eq_true,
    Bool.and_eq_true, not_or, Bool.not_eq_true', not_and, bne_iff_ne, Bool.not_eq_true] at h
  obtain ⟨⟨⟨hbegin, hwait⟩, hdead⟩, hosted, hstep, rfl⟩ := h
  refine ⟨hbegin, fun hw => ?_, fun hd => ?_, hosted, hstep, rfl⟩
  · simpa using hwait hw
  · simpa using hdead hd

/-- **The stages refine the callback's step**: with nothing between them they do what the step
`sendAudio` of the network does. -/
theorem exec_sendAudio {ort : Ort F S File} {s t : Lifetime F S File ι} {buffer : AudioBuffer F}
    (h : Transition.exec (step ort) s [.storeSamples buffer, .evaluate, .startIfReady] =
      some t) (i : ι) :
    (s.seenBy i).step ort (.own (.audio (.sendAudio buffer))) = some (t.seenBy i) := by
  obtain ⟨s₁, h₁, h⟩ := Transition.exec_cons_eq_some.mp h
  obtain ⟨s₂, h₂, h⟩ := Transition.exec_cons_eq_some.mp h
  obtain ⟨s₃, h₃, h⟩ := Transition.exec_cons_eq_some.mp h
  obtain rfl := Option.some.inj h
  simp only [step, Option.ite_none_right_eq_some, Bool.and_eq_true, Option.some.injEq] at h₁
  obtain ⟨⟨⟨hquiet, hresumed⟩, -⟩, rfl⟩ := h₁
  simp only [step, Option.some.injEq] at h₂
  subst h₂
  simp only [step, Option.some.injEq] at h₃
  subst h₃
  have hallowed : AudioEvent.allowed (s.seenBy i).suspended (.sendAudio buffer) = true := hresumed
  have hcallback : (s.seenBy i).network.live.callback = none := (quiet_iff.mp hquiet).2
  simp only [Hosted.step, Network.step, hallowed, if_true, Live.step, hcallback, Option.map_some]
  rfl

namespace Protected

omit [FloatSample F] [DecidableEq ι] [Fintype ι] in
/-- A callback that has found everything ready meets no load that has yet to construct its
session. -/
lemma not_exposed_of_checked {s : Lifetime F S File ι} (h : Protected s) {buffer : AudioBuffer F}
    (hsend : s.send = .checked buffer true) : ¬ s.Exposed ∧ s.destructor = .alive := by
  refine ⟨fun hexposed => (h.shielded hexposed).2 buffer hsend, ?_⟩
  by_contra hdead
  have hquiet := (quiet_iff.mp (h.settled (Or.inr hdead))).1
  rw [hsend] at hquiet
  cases hquiet

omit [FloatSample F] [DecidableEq ι] [Fintype ι] in
/-- A step that leaves the loads, their flag and the session alone and starts no thread.

**Proof sketch.** Each part of the invariant is about the fields listed, or about the thread, which
can only have stopped. -/
lemma of_frame {s s' : Lifetime F S File ι} (h : Protected s)
    (hversion : s'.version = s.version) (hjob : s'.jobVersion = s.jobVersion)
    (hdestructor : s'.destructor = s.destructor) (hloads : s'.network.loads = s.network.loads)
    (hsession : s'.inference.session = s.inference.session)
    (hthread : s'.inference.thread.isThreadRunning = true →
      s.inference.thread.isThreadRunning = true)
    (hsettled : s'.suspended = true ∨ s.destructor ≠ .alive → s'.quiet = true)
    (hshielded : s.Exposed → (s'.suspended = true ∨ s'.inference.loadingModel = true) ∧
      ∀ buffer, s'.send ≠ .checked buffer true) : Protected s' := by
  have hstopped : s.inference.thread = .stopped → s'.inference.thread = .stopped := by
    intro ht
    rw [← ThreadState.isThreadRunning_eq_false, ← Bool.not_eq_true]
    intro hrunning
    have hbefore := hthread hrunning
    rw [ht] at hbefore
    cases hbefore
  refine ⟨fun hr => ?_, fun hd => ?_, fun hd => ?_, fun hq => ?_, fun hexposed => ?_,
    fun hhalted => ?_⟩
  · rw [hversion, hjob, hsession]
    exact h.kept (hthread hr)
  · rw [hsession]
    exact h.held (hdestructor ▸ hd)
  · rw [hdestructor] at hd
    obtain ⟨hnone, ht⟩ := h.dead hd
    exact ⟨fun i => by rw [hloads]; exact hnone i, hstopped ht⟩
  · exact hsettled (hdestructor ▸ hq)
  · refine hshielded ?_
    unfold Exposed at hexposed
    rwa [hloads] at hexposed
  · refine hstopped (h.stopped ?_)
    unfold Halted at hhalted
    rwa [hloads] at hhalted

/-- The rest of a callback and the inference thread keep what protects the session.

**Proof sketch.** Such a step leaves the session and the flag alone, starts no thread and begins no
callback, so `of_frame` applies. -/
lemma audio {ort : Ort F S File} {s s' : Lifetime F S File ι} {i : ι} {event : AudioEvent F}
    (h : Protected s) (hs : s.step ort (.hosted i (.own (.audio event))) = some s') :
    Protected s' := by
  obtain ⟨hbegin, -, -, hosted, hstep, rfl⟩ := step_hosted hs
  simp only [Hosted.step, Network.step, Option.map_eq_some_iff,
    Option.ite_none_right_eq_some] at hstep
  obtain ⟨r, ⟨-, live, hlive, rfl⟩, rfl⟩ := hstep
  obtain ⟨hsession, hflag⟩ := Live.step_frame hlive
  have hloads : (s.network.put i ⟨live, (s.seenBy i).network.loader⟩).loads = s.network.loads :=
    Function.update_eq_self i s.network.loads
  -- the thread is not started, and no callback begins
  obtain ⟨hthread, hcallback⟩ : (live.proc.inferenceThread.thread.isThreadRunning = true →
      s.inference.thread.isThreadRunning = true) ∧
      (s.network.live.callback = none → live.callback = none) := by
    replace hlive : s.network.live.step ort event = some live := hlive
    cases event with
    | sendAudio buffer => cases hbegin
    | processOutput =>
      cases hc : s.network.live.callback with
      | none => simp [Live.step, hc] at hlive
      | some buffer =>
        simp only [Live.step, hc, Option.some.injEq] at hlive
        rw [← hlive, OnnxProcessor.processOutput_eq]
        exact ⟨id, fun hnone => by cases hnone⟩
    | deliver =>
      simp only [Live.step, Option.ite_none_right_eq_some, Option.some.injEq] at hlive
      obtain ⟨hrunning, rfl⟩ := hlive
      exact ⟨fun _ => by simp only [inference, hrunning, ThreadState.isThreadRunning], id⟩
    | threadEnd =>
      simp only [Live.step, Option.ite_none_right_eq_some, Option.some.injEq] at hlive
      obtain ⟨-, rfl⟩ := hlive
      exact ⟨fun hr => (by cases hr), id⟩
  refine h.of_frame rfl rfl rfl hloads hsession hthread (fun hq => ?_) fun hexposed => ?_
  · have hquiet := quiet_iff.mp (h.settled hq)
    exact quiet_iff.mpr ⟨hquiet.1, hcallback hquiet.2⟩
  · obtain ⟨hshield, hready⟩ := h.shielded hexposed
    exact ⟨hshield.imp_right hflag.trans, hready⟩

/-- **A stage of a load keeps what protects the session.**

**Proof sketch.** A load that has yet to construct its session afterwards had yet to do so before,
so processing was suspended or the flag raised. Only `onOnnxModelLoad (false, …)` resumes
processing and only the last stage lowers the flag, and then the condition says that the other
shield is up. The thread is not started by any stage, and the constructor finds it stopped. -/
lemma loadStep {ort : Ort F S File} {s s' : Lifetime F S File ι} {i : ι} (h : Protected s)
    (hc : s.KeepsProtection (.hosted i (.own .loadStep)))
    (hs : s.step ort (.hosted i (.own .loadStep)) = some s') : Protected s' := by
  obtain ⟨-, -, hdead, hosted, hstep, rfl⟩ := step_hosted hs
  have halive : s.destructor = .alive := by
    by_contra hd
    cases hdead hd
  cases hload : s.network.loads i with
  | none =>
    have hnone : (s.seenBy i).network.loader = none := hload
    simp [Hosted.step, Network.step, hnone] at hstep
  | some load =>
  obtain ⟨source, stage⟩ := load
  have hloader : (s.seenBy i).network.loader = some (source, stage) := hload
  rw [Hosted.step_loadStep ort hloader, Option.some.injEq] at hstep
  subst hstep
  have heffect := Network.loadStep_effect ort (s.seenBy i).suspended hloader
  set r := (s.seenBy i).network.loadStep ort (s.seenBy i).suspended source stage with hr
  -- a load that is there afterwards: that of this stage, or another one
  have hloads : ∀ {j source' stage'}, (s.network.put i r.1).loads j = some (source', stage') →
      s.network.loads j = some (source', stage') ∨ (stage ≠ .lowerFlag ∧
        stage' = stage.next (s.seenBy i).network.inference.thread.isThreadRunning) := by
    intro j source' stage' hj
    by_cases hji : j = i
    · rw [hji, SharedNetwork.loads_put_self] at hj
      rcases heffect.loader with hnone | ⟨hlast, hnext⟩
      · rw [hnone] at hj
        cases hj
      · rw [hnext] at hj
        cases hj
        exact Or.inr ⟨hlast, rfl⟩
    · rw [SharedNetwork.loads_put_of_ne _ hji] at hj
      exact Or.inl hj
  have hthread : s.inference.thread = .stopped → r.1.inference.thread = .stopped := by
    intro ht
    rw [heffect.thread]
    split_ifs
    · rfl
    · exact ht
  refine ⟨fun hrunning => ?_, fun _ => ?_, fun hd => absurd halive hd, fun hq => ?_, ?_, ?_⟩
  · have hrunning' : s.inference.thread.isThreadRunning = true := by
      by_contra hstopped
      rw [Bool.not_eq_true, ThreadState.isThreadRunning_eq_false] at hstopped
      replace hrunning : r.1.inference.thread.isThreadRunning = true := hrunning
      rw [hthread hstopped] at hrunning
      cases hrunning
    by_cases hstage : stage = .construct
    · have ht := h.stopped ⟨i, source, stage, hload, by rw [hstage]; rfl⟩
      rw [ht] at hrunning'
      cases hrunning'
    · obtain ⟨hversion, hsome⟩ := h.kept hrunning'
      rw [Hosted.replacesSession_eq_false ort hloader hstage, if_neg Bool.false_ne_true]
      exact ⟨hversion, heffect.session hstage ▸ hsome⟩
  · have hheld := h.held halive
    by_cases hstage : stage = .construct
    · subst hstage
      rcases Hosted.loadStep_construct ort hloader with ⟨-, session, hsession⟩ | ⟨-, hsession⟩
      · exact Option.isSome_iff_exists.mpr ⟨session, hsession⟩
      · exact (congrArg Option.isSome hsession).trans hheld
    · exact (congrArg Option.isSome (heffect.session hstage)).trans hheld
  · have hsuspended : s.suspended = true := by
      rcases hq with hq | hd
      · by_cases hstage : stage = .resume
        · subst hstage
          replace hq : (if source.notifies (s.seenBy i).network.inference.startUp then false
            else s.suspended) = true := hq
          split_ifs at hq
          exact hq
        · exact (Network.loadStep_suspended ort _ _ _ hstage).symm.trans hq
      · exact absurd halive hd
    have hquiet := quiet_iff.mp (h.settled (Or.inl hsuspended))
    exact quiet_iff.mpr ⟨hquiet.1, heffect.callback.trans hquiet.2⟩
  · rintro ⟨j, source', stage', hj, hno⟩
    have hexposed : s.Exposed := by
      rcases hloads hj with hbefore | ⟨-, rfl⟩
      · exact ⟨j, source', stage', hbefore, hno⟩
      · exact ⟨i, source, stage, hload, (LoadStage.hasSession_next hno).1⟩
    obtain ⟨hshield, hready⟩ := h.shielded hexposed
    refine ⟨?_, hready⟩
    by_cases hfirst : stage = .raiseFlag
    · exact Or.inr (heffect.raised hfirst)
    by_cases hlast : stage = .lowerFlag
    · subst hlast
      have hsuspended : s.suspended = true := hc.2 (by rw [hload]; rfl) hexposed
      exact Or.inl hsuspended
    have hflag : r.1.inference.loadingModel = s.inference.loadingModel :=
      heffect.flag hfirst hlast
    by_cases hresume : stage = .resume
    · subst hresume
      by_cases hn : source.notifies s.inference.startUp = true
      · have hresumes : (s.network.seenBy i).resumes .loadStep = true := by
          simpa [Network.resumes, SharedNetwork.seenBy, hload] using hn
        exact Or.inr (hflag.trans (hc.1 hresumes hexposed))
      · refine hshield.imp (fun hsus => ?_) hflag.trans
        exact (if_neg hn).trans hsus
    · exact hshield.imp (Network.loadStep_suspended ort _ _ _ hresume).trans hflag.trans
  · rintro ⟨j, source', stage', hj, hafter⟩
    rcases hloads hj with hbefore | ⟨-, rfl⟩
    · exact hthread (h.stopped ⟨j, source', stage', hbefore, hafter⟩)
    · rcases LoadStage.afterStop_next hafter with hstop | hbefore | hidle
      · exact heffect.thread.trans (if_pos hstop)
      · exact hthread (h.stopped ⟨i, source, stage, hload, hbefore⟩)
      · exact hthread (ThreadState.isThreadRunning_eq_false.mp hidle)

/-- The other events of the host keep what protects the session.

**Proof sketch.** By the event. `prepare` and `suspendProcessing` leave the loads alone; a resume is
safe by the condition, since the flag is raised where a load is exposed. A load that begins suspends
processing while no callback runs. -/
lemma host {ort : Ort F S File} {s s' : Lifetime F S File ι} {i : ι} {event : HostedEvent F File}
    (h : Protected s) (hc : s.KeepsProtection (.hosted i event))
    (hs : s.step ort (.hosted i event) = some s') : Protected s' := by
  cases event with
  | own event =>
    cases event with
    | audio event => exact h.audio hs
    | loadStep => exact h.loadStep hc hs
    | prepare spec =>
      obtain ⟨-, hwait, -, hosted, hstep, rfl⟩ := step_hosted hs
      have hquiet := quiet_iff.mp (hwait rfl)
      have hcallback : (s.seenBy i).network.live.callback = none := hquiet.2
      simp only [Hosted.step, Network.step, hcallback, Option.map_some,
        Option.some.injEq] at hstep
      subst hstep
      exact h.of_frame rfl rfl rfl (Function.update_eq_self i s.network.loads) rfl id
        (fun _ => quiet_iff.mpr ⟨hquiet.1, rfl⟩) h.shielded
    | beginLoad source =>
      obtain ⟨-, hwait, hdead, hosted, hstep, rfl⟩ := step_hosted hs
      have hquiet := quiet_iff.mp (hwait rfl)
      have halive : s.destructor = .alive := by
        by_contra hd
        cases hdead hd
      have hcallback : (s.seenBy i).network.live.callback = none := hquiet.2
      cases hl : (s.seenBy i).network.loader with
      | some load => simp [Hosted.step, Network.step, hl] at hstep
      | none =>
        simp only [Hosted.step, Network.step, hl, hcallback, Option.map_some,
          Option.some.injEq] at hstep
        subst hstep
        refine ⟨h.kept, h.held, fun hd => absurd halive hd, fun _ => quiet_iff.mpr hquiet,
          fun _ => ⟨Or.inl rfl, fun buffer hsend => ?_⟩, ?_⟩
        · rw [show s.send = .outside from hquiet.1] at hsend
          cases hsend
        · rintro ⟨j, source', stage', hj, hafter⟩
          by_cases hji : j = i
          · rw [hji, SharedNetwork.loads_put_self] at hj
            cases hj
            cases hafter
          · rw [SharedNetwork.loads_put_of_ne _ hji] at hj
            exact h.stopped ⟨j, source', stage', hj, hafter⟩
  | suspendProcessing shouldBeSuspended =>
    obtain ⟨-, hwait, -, hosted, hstep, rfl⟩ := step_hosted hs
    have hquiet := quiet_iff.mp (hwait rfl)
    have hcallback : (s.seenBy i).network.live.callback = none := hquiet.2
    simp only [Hosted.step, hcallback, Option.some.injEq] at hstep
    subst hstep
    refine h.of_frame rfl rfl rfl (Function.update_eq_self i s.network.loads) rfl id
      (fun _ => quiet_iff.mpr hquiet) fun hexposed => ⟨?_, (h.shielded hexposed).2⟩
    cases shouldBeSuspended with
    | true => exact Or.inl rfl
    | false => exact Or.inr (hc hexposed)

/-- The stages of `sendAudio` keep what protects the session.

**Proof sketch.** A callback begins only while processing is not suspended. If a load is exposed
then, its flag is raised, so the condition is found false and no thread starts; else the thread
starts on the session that is held, which is the current one. -/
lemma sendAudio {ort : Ort F S File} {s s' : Lifetime F S File ι} {e : LifetimeEvent F File ι}
    (h : Protected s) (he : (∃ buffer, e = .storeSamples buffer) ∨ e = .evaluate ∨
      e = .startIfReady) (hs : s.step ort e = some s') : Protected s' := by
  rcases he with ⟨buffer, rfl⟩ | rfl | rfl
  · simp only [step, Option.ite_none_right_eq_some, Bool.and_eq_true, Option.some.injEq,
      Bool.not_eq_true', beq_iff_eq] at hs
    obtain ⟨⟨⟨hquiet, hresumed⟩, halive⟩, rfl⟩ := hs
    obtain ⟨hsession, hflag, hthread⟩ :=
      InferenceThread.storeSamples_frame s.inference (buffer.samples 0)
    refine h.of_frame rfl rfl rfl rfl hsession (fun hr => hthread ▸ hr) (fun hq => ?_)
      fun hexposed => ⟨(h.shielded hexposed).1.imp_right hflag.trans, fun _ hsend => by cases hsend⟩
    rcases hq with hsus | hdead
    · rw [show s.suspended = true from hsus] at hresumed
      cases hresumed
    · exact absurd halive hdead
  · cases hsend : s.send with
    | outside => simp [step, hsend] at hs
    | checked buffer ready => simp [step, hsend] at hs
    | stored buffer =>
      simp only [step, hsend, Option.some.injEq] at hs
      subst hs
      have hbusy : s.quiet ≠ true := fun hq => by
        rw [quiet_iff, hsend] at hq
        cases hq.1
      refine h.of_frame rfl rfl rfl rfl rfl id (fun hq => absurd (h.settled hq) hbusy)
        fun hexposed => ⟨(h.shielded hexposed).1, fun b hchecked => ?_⟩
      -- the flag is raised, so the condition was found false
      rcases (h.shielded hexposed).1 with hsus | hflag
      · exact hbusy (h.settled (Or.inl hsus))
      · have hready : s.inference.readyToStart = true := by
          injection hchecked
        simp [InferenceThread.readyToStart, hflag] at hready
  · cases hsend : s.send with
    | outside => simp [step, hsend] at hs
    | stored buffer => simp [step, hsend] at hs
    | checked buffer ready =>
      simp only [step, hsend, Option.some.injEq] at hs
      subst hs
      have hbusy : s.quiet ≠ true := fun hq => by
        rw [quiet_iff, hsend] at hq
        cases hq.1
      cases ready with
      | false =>
        obtain ⟨hsession, hflag, hthread⟩ := InferenceThread.endInit_frame s.inference
        exact h.of_frame rfl rfl rfl rfl hsession (fun hr => hthread ▸ hr)
          (fun hq => absurd (h.settled hq) hbusy) fun hexposed =>
            ⟨(h.shielded hexposed).1.imp_right hflag.trans, fun _ hchecked => by cases hchecked⟩
      | true =>
        -- the job starts: no load has yet to construct its session, and the one held is current
        obtain ⟨hnot, halive⟩ := h.not_exposed_of_checked hsend
        have hheld := h.held halive
        have hsession : (s.inference.popAndStart.endInit).session = s.inference.session :=
          (InferenceThread.endInit_frame _).1
        refine ⟨fun _ => ⟨rfl, ?_⟩, fun _ => ?_, fun hd => absurd halive hd,
          fun hq => absurd (h.settled hq) hbusy, fun hexposed => absurd hexposed hnot,
          fun hhalted => absurd hhalted.exposed hnot⟩
        · exact hsession.symm ▸ hheld
        · exact hsession.symm ▸ hheld

/-- The destructor keeps what protects the session if it finds the thread stopped.

**Proof sketch.** The session is released while the thread is stopped and no load is in progress;
afterwards no callback begins and no thread starts. -/
lemma destruct {ort : Ort F S File} {s s' : Lifetime F S File ι} {e : LifetimeEvent F File ι}
    (h : Protected s) (he : e = .release ∨ e = .stopThread) (hc : s.KeepsProtection e)
    (hs : s.step ort e = some s') : Protected s' := by
  rcases he with rfl | rfl
  · have hstopped : s.inference.thread = .stopped := hc
    simp only [step, Option.ite_none_right_eq_some, Bool.and_eq_true, Option.some.injEq,
      decide_eq_true_eq, Option.isNone_iff_eq_none, beq_iff_eq] at hs
    obtain ⟨⟨⟨hquiet, hnone⟩, -⟩, rfl⟩ := hs
    have hnot : ¬ s.Exposed := by
      rintro ⟨i, source, stage, hload, -⟩
      rw [hnone i] at hload
      cases hload
    refine ⟨fun hr => ?_, fun hd => (by cases hd), fun _ => ⟨hnone, hstopped⟩, fun _ => hquiet,
      fun hexposed => absurd hexposed hnot, fun hhalted => absurd hhalted.exposed hnot⟩
    have hrunning : s.inference.thread.isThreadRunning = true := hr
    rw [hstopped] at hrunning
    cases hrunning
  · simp only [step, Option.ite_none_right_eq_some, beq_iff_eq, Option.some.injEq] at hs
    obtain ⟨hreleased, rfl⟩ := hs
    have hdead : s.destructor ≠ .alive := by rw [hreleased]; decide
    obtain ⟨hnone, -⟩ := h.dead hdead
    have hquiet := h.settled (Or.inr hdead)
    have hnot : ¬ s.Exposed := by
      rintro ⟨i, source, stage, hload, -⟩
      rw [hnone i] at hload
      cases hload
    exact ⟨fun hr => (by cases hr), fun hd => (by cases hd), fun _ => ⟨hnone, rfl⟩, fun _ => hquiet,
      fun hexposed => absurd hexposed hnot, fun _ => rfl⟩

/-- **Every step that meets the condition keeps what protects the session.** -/
lemma step {ort : Ort F S File} {s s' : Lifetime F S File ι} {e : LifetimeEvent F File ι}
    (h : Protected s) (hc : s.KeepsProtection e) (hs : s.step ort e = some s') :
    Protected s' := by
  cases e with
  | hosted i event => exact h.host hc hs
  | storeSamples buffer => exact h.sendAudio (Or.inl ⟨buffer, rfl⟩) hs
  | evaluate => exact h.sendAudio (Or.inr (Or.inl rfl)) hs
  | startIfReady => exact h.sendAudio (Or.inr (Or.inr rfl)) hs
  | release => exact h.destruct (Or.inl rfl) hc hs
  | stopThread => exact h.destruct (Or.inr rfl) hc hs

end Protected

/-- A plugin whose constructor has returned: no callback and no load is in progress, and its
inference thread is stopped. -/
structure Idle (s : Lifetime F S File ι) : Prop where
  alive : s.destructor = .alive
  quiet : s.quiet = true
  noLoad : ∀ i, s.network.loads i = none
  session : s.inference.session.isSome = true
  stopped : s.inference.thread = .stopped

omit [FloatSample F] [DecidableEq ι] [Fintype ι] in
lemma Idle.protected {s : Lifetime F S File ι} (h : Idle s) : Protected s := by
  have hnot : ¬ s.Exposed := by
    rintro ⟨i, source, stage, hload, -⟩
    rw [h.noLoad i] at hload
    cases hload
  refine ⟨fun hr => ?_, fun _ => h.session, fun hd => absurd h.alive hd, fun _ => h.quiet,
    fun hexposed => absurd hexposed hnot, fun hhalted => absurd hhalted.exposed hnot⟩
  rw [h.stopped] at hr
  cases hr

end Lifetime

/-- **When the session of a job is kept.** Callbacks with their stages, the inference thread, the
stages of loads on any number of threads, `prepare`, other callers of `suspendProcessing` and the
destructor follow each other in any order, from a plugin with its thread stopped. If every step
meets the condition, then while a job is in progress the session it was started with is held, in
all states of the run. And in any state, a destructor that is called while a job is in progress
takes its session away.

**Proof sketch.** A load suspends processing, so that no callback is in `sendAudio` when it raises
its flag, and with the flag raised none comes to start the thread. It stops the thread before it
constructs the session. The condition says that neither shield is taken down by someone else
before that. The destructor does it the other way round: it releases the session and then stops
the thread. -/
theorem session_kept {ι : Type} [DecidableEq ι] [Fintype ι] (ort : Ort F S File)
    (s : Lifetime F S File ι) :
    (s.Idle → ∀ es, Transition.StepsMeet (Lifetime.step ort) Lifetime.KeepsProtection s es →
      Transition.Always (Lifetime.step ort) Lifetime.SessionKept s es) ∧
    ∀ s', s.step ort .release = some s' → s.inference.thread ≠ .stopped → ¬ s'.SessionKept := by
  refine ⟨fun h0 es hes => ?_, fun s' hs hrunning hkept => ?_⟩
  · exact (Transition.always_of_stepsMeet (fun _ _ _ h hc hs => Lifetime.Protected.step h hc hs)
      h0.protected hes).mono fun _ h => h.kept
  · simp only [Lifetime.step, Option.ite_none_right_eq_some, Option.some.injEq] at hs
    obtain ⟨-, rfl⟩ := hs
    rw [Ne, ← ThreadState.isThreadRunning_eq_false, Bool.not_eq_false] at hrunning
    cases (hkept hrunning).2

/-! ## Runs of the plugin -/

namespace Lifetime

variable {ι : Type}

/-- A plugin as it is after it was constructed. -/
def ofProcessor (p : OnnxProcessor F S) : Lifetime F S File ι :=
  ⟨⟨⟨p, none⟩, fun _ => none⟩, false, .outside, .alive, 0, 0⟩

/-- Whether a load has yet to construct its session can be seen from the loads. -/
instance Exposed.decidable [Fintype ι] (s : Lifetime F S File ι) : Decidable s.Exposed :=
  decidable_of_iff (∃ i, ((s.network.loads i).any fun load => !load.2.hasSession) = true) <| by
    simp [Exposed, Option.any_eq_true]

/-- Whether a step meets the condition can be decided. -/
instance KeepsProtection.decidable [Fintype ι] (s : Lifetime F S File ι) :
    ∀ e, Decidable (s.KeepsProtection e)
  | .hosted _ (.suspendProcessing false) =>
    inferInstanceAs (Decidable (s.Exposed → s.inference.loadingModel = true))
  | .hosted _ (.suspendProcessing true) => .isTrue trivial
  | .hosted i (.own .loadStep) =>
    inferInstanceAs (Decidable
      (((s.network.seenBy i).resumes .loadStep = true → s.Exposed →
          s.inference.loadingModel = true) ∧
        ((s.network.loads i).map Prod.snd = some .lowerFlag → s.Exposed → s.suspended = true)))
  | .hosted _ (.own (.prepare _)) => .isTrue trivial
  | .hosted _ (.own (.audio _)) => .isTrue trivial
  | .hosted _ (.own (.beginLoad _)) => .isTrue trivial
  | .release => inferInstanceAs (Decidable (s.inference.thread = .stopped))
  | .storeSamples _ => .isTrue trivial
  | .evaluate => .isTrue trivial
  | .startIfReady => .isTrue trivial
  | .stopThread => .isTrue trivial

/-- The host prepares the plugin at 48 kHz and sends one block of 16384 samples. -/
def startedRun : List (LifetimeEvent ExactFloat Unit LoadingThread) :=
  [.hosted .host (.own (.prepare ⟨48000, 16384, 1⟩)), .storeSamples ones, .evaluate,
    .startIfReady, .hosted .host (.own (.audio .processOutput))]

/-- A callback, with nothing between its stages. -/
lemma exec_callback [DecidableEq ι] [Fintype ι] (ort : Ort F S File) (p : OnnxProcessor F S)
    (buffer : AudioBuffer F) (i : ι) : ∃ j,
    Transition.exec (step ort) (ofProcessor p) [.storeSamples buffer, .evaluate, .startIfReady,
        .hosted i (.own (.audio .processOutput))] =
      some ⟨⟨⟨((p.sendAudio buffer).processOutput buffer buffer.numSamples).1, none⟩,
        fun _ => none⟩, false, .outside, .alive, 0, j⟩ := by
  have hloads : Function.update (fun _ : ι => (none : Option (ModelSource File × LoadStage))) i
      none = fun _ => none := Function.update_eq_self i _
  rw [← hloads]
  exact ⟨_, rfl⟩

/-- The inference starts on this block. -/
lemma exec_startedRun : ∃ p j, p.inferenceThread.thread = .running ∧
    p.inferenceThread.startUp = false ∧ p.inferenceThread.session = some () ∧
    Transition.exec (step (Ort.passThrough ExactFloat))
      (ofProcessor (OnnxProcessor.passThrough ExactFloat)) startedRun =
        some ⟨⟨⟨p, none⟩, fun _ => none⟩, false, .outside, .alive, 0, j⟩ := by
  obtain ⟨j, hexec⟩ := exec_callback (Ort.passThrough ExactFloat)
    ((OnnxProcessor.passThrough ExactFloat).prepare ⟨48000, 16384, 1⟩) ones LoadingThread.host
  have hprepare : step (Ort.passThrough ExactFloat)
      (ofProcessor (OnnxProcessor.passThrough ExactFloat))
      (.hosted LoadingThread.host (.own (.prepare ⟨48000, 16384, 1⟩))) =
        some (ofProcessor ((OnnxProcessor.passThrough ExactFloat).prepare ⟨48000, 16384, 1⟩)) := by
    conv_rhs => rw [ofProcessor, ← Function.update_eq_self LoadingThread.host (fun _ => none)]
    rfl
  refine ⟨(inFlight.processOutput ones ones.numSamples).1, j, ?_, ?_, ?_, ?_⟩
  · rw [OnnxProcessor.processOutput_eq]
    exact inFlight_running.1
  · rw [OnnxProcessor.processOutput_eq]
    simp only [inFlight, OnnxProcessor.sendAudio, InferenceThread.sendAudio_eq]
    rfl
  · rw [OnnxProcessor.processOutput_eq]
    exact inFlight_session
  · exact (Transition.exec_cons_of_step hprepare _).trans hexec

/-- The inference ends, and a file is loaded. When its load has resumed processing, the internal
model is selected; both loads end, and the plugin is destroyed. -/
def loadedRun : List (LifetimeEvent ExactFloat Unit LoadingThread) :=
  [.hosted .host (.own (.audio .deliver)), .hosted .host (.own (.audio .threadEnd)),
      .hosted .message (.own (.beginLoad (.external ())))] ++
    List.replicate 6 (.hosted .message (.own .loadStep)) ++
    .hosted .host (.own (.beginLoad .internal)) ::
      List.replicate 3 (.hosted .message (.own .loadStep)) ++
    List.replicate 9 (.hosted .host (.own .loadStep)) ++ [.release, .stopThread]

end Lifetime

open Lifetime in
/-- The theorem at work: an inference, two loads and the destructor, each after the other. -/
theorem session_kept_loaded :
    Transition.Always (Lifetime.step (Ort.passThrough ExactFloat)) SessionKept
        (ofProcessor (OnnxProcessor.passThrough ExactFloat)) (startedRun ++ loadedRun) ∧
      ∃ t, Transition.exec (Lifetime.step (Ort.passThrough ExactFloat))
          (ofProcessor (OnnxProcessor.passThrough ExactFloat)) (startedRun ++ loadedRun) =
            some t ∧ t.destructor = .threadStopped ∧ t.version = 3 := by
  obtain ⟨p, j, hrunning, hstartUp, hsession, hexec⟩ := exec_startedRun
  obtain ⟨_, ⟨_, _, _, _, _, _, _, _, _, _, _⟩, _, _, _⟩ := p
  simp only at hrunning hstartUp hsession
  subst hrunning hstartUp hsession
  refine ⟨(session_kept (Ort.passThrough ExactFloat) _).1 ⟨rfl, rfl, fun _ => rfl, rfl, rfl⟩ _
    (Transition.StepsMeet.append ?_ hexec ?_), _,
    (Transition.exec_append_of_exec hexec _).trans rfl, rfl, rfl⟩
  · exact fun _ _ => ⟨trivial, fun _ _ => ⟨trivial, fun _ _ => ⟨trivial, fun _ _ =>
      ⟨trivial, fun _ _ => ⟨trivial, trivial⟩⟩⟩⟩⟩
  · exact of_decide_eq_true rfl

open Lifetime in
/-- The host prepares the plugin at 48 kHz and sends one block of 16384 samples, on which the
inference starts. The plugin is destroyed before it has ended: the session of the job is gone. -/
theorem destructor_releases_running_session :
    ¬ Transition.Always (Lifetime.step (Ort.passThrough ExactFloat)) SessionKept
      (ofProcessor (OnnxProcessor.passThrough ExactFloat)) (startedRun ++ [.release]) := by
  intro halways
  obtain ⟨p, j, hrunning, -, -, hexec⟩ := exec_startedRun
  have hkept := halways.last ((Transition.exec_append_of_exec hexec _).trans rfl)
    (by
      simp only [SharedNetwork.mapInference, inference, hrunning]
      rfl)
  cases hkept.2
