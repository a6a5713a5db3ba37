import Scyclone.Onnx.Latency
import Scyclone.Onnx.Network
import Scyclone.Onnx.RingQueue

set_option relaxedAutoImplicit false
set_option autoImplicit false

/-!
# A model change starts over

Loading a model prepares the inference thread again and empties the output ring, while the host
has suspended processing. The load ends in five stages after that, and callbacks can begin again
before the last three of them: what they find is a processor that has just been prepared, but for
a flag that is still up and a ring that is still full.

So if no inference is in flight when the load begins, the processor goes on as if it had been
prepared with the new model: the latency it reports is its delay again.

## Main definitions

* `ModelRun`, `ModelRun.step` — a network in a host, with what has been seen of it since it last
  started over.
* `Observed.restored` — the processor as the rest of the load will leave it.
* `Undisturbed` — the conditions on the steps.
* `ModelPhase` — where a load is, and what holds there.

## Main results

* `AfterRestart.audio` — callbacks before the end of a load, as callbacks of the restored processor.
* `ModelPhase.step` — every undisturbed step keeps the phase.
* `model_changes_in_step` — the output after any number of loads.
-/

variable {F S File : Type} [FloatSample F]

/-! ## Runs with loads -/

/-- A network in a host, and what has been seen of it since it last started over. -/
structure ModelRun (F S File : Type) where
  hosted : Hosted F S File
  history : History F

namespace ModelRun

/-- The network. -/
abbrev network (s : ModelRun F S File) : Network F S File := s.hosted.network

/-- The processor. -/
abbrev proc (s : ModelRun F S File) : OnnxProcessor F S := s.hosted.network.live.proc

/-- Its inference thread. -/
abbrev inference (s : ModelRun F S File) : InferenceThread F S :=
  s.hosted.network.live.proc.inferenceThread

/-- The processor and its history. -/
abbrev observed (s : ModelRun F S File) : Observed F S := ⟨s.hosted.network.live, s.history⟩

/-- Whether the processor starts over: `prepare` is called by the host, or by a load. -/
def startsOver (s : ModelRun F S File) : HostedEvent F File → Bool
  | .own (.prepare _) => true
  | .own .loadStep =>
    match s.network.loader with
    | some (source, .prepare) => source.notifies s.inference.startUp
    | _ => false
  | _ => false

/-- The history after an event. -/
def record (s : ModelRun F S File) (hosted : Hosted F S File) :
    HostedEvent F File → History F
  | .own (.audio event) => s.history.record s.hosted.network.live hosted.network.live event
  | e => if s.startsOver e then {} else s.history

/-- One step, recorded. -/
def step (ort : Ort F S File) (s : ModelRun F S File) (e : HostedEvent F File) :
    Option (ModelRun F S File) :=
  (s.hosted.step ort e).map fun hosted => ⟨hosted, s.record hosted e⟩

/-- The start of a run: the host has called `prepare`. -/
def start (p : OnnxProcessor F S) (spec : ProcessSpec) : ModelRun F S File :=
  ⟨⟨⟨⟨p.prepare spec, none⟩, none⟩, false⟩, {}⟩

/-- A step is one of the host, recorded. -/
lemma step_eq_some {ort : Ort F S File} {s s' : ModelRun F S File} {e : HostedEvent F File}
    (h : s.step ort e = some s') :
    ∃ hosted, s.hosted.step ort e = some hosted ∧ s' = ⟨hosted, s.record hosted e⟩ := by
  rw [step, Option.map_eq_some_iff] at h
  obtain ⟨hosted, hs, rfl⟩ := h
  exact ⟨hosted, hs, rfl⟩

/-- A step of a callback or of the inference thread is one of the processor. -/
lemma step_audio {ort : Ort F S File} {s s' : ModelRun F S File} {event : AudioEvent F}
    (h : s.step ort (.own (.audio event)) = some s') :
    event.allowed s.hosted.suspended = true ∧
      s.observed.step ort event = some s'.observed ∧
      s'.network.loader = s.network.loader ∧ s'.hosted.suspended = s.hosted.suspended := by
  obtain ⟨hosted, hs, rfl⟩ := step_eq_some h
  simp only [Hosted.step, Network.step, Option.map_eq_some_iff, Option.ite_none_right_eq_some]
    at hs
  obtain ⟨r, ⟨hallowed, live, hlive, rfl⟩, rfl⟩ := hs
  refine ⟨hallowed, ?_, rfl, rfl⟩
  simp only [Observed.step, observed, hlive, Option.map_some, record]

end ModelRun

/-! ## Processors in time -/

/-- A processor whose inference thread keeps up with the session it has. -/
structure InTime (model : S → ModelBlock F → ModelBlock F) (period c blockSize : ℕ)
    (session : S) (o : Observed F S) : Prop where
  current : o.inference.session = some session
  kept : Compensated session (model session) period blockSize o
  onTime : OnTime c blockSize o

namespace InTime

variable {ort : Ort F S File} {model : S → ModelBlock F → ModelBlock F}
  {period c blockSize : ℕ} {session : S} {o o' : Observed F S}

/-- Right after `prepare`. -/
lemma start {p : OnnxProcessor F S} (hsession : p.inferenceThread.session = some session)
    (hstopped : p.inferenceThread.thread = .stopped)
    (hloading : p.inferenceThread.loadingModel = false) (spec : ProcessSpec) (c blockSize : ℕ) :
    InTime model (max spec.ringSize 1) c blockSize session (Observed.start p spec) :=
  ⟨hsession, Compensated.start hsession (by simp [hstopped]) spec blockSize,
    OnTime.start hstopped hloading spec c blockSize⟩

/-- Every timely step keeps the processor in time. -/
lemma step (hmodel : ∀ session block, ort.run session block = .ok (model session block))
    (hpos : 0 < blockSize) (hmargin : (c + 1) * blockSize ≤ maxModelCalcSize)
    (hperiod : modelInputSize + 2 * maxModelCalcSize < period)
    (h : InTime model period c blockSize session o) {e : AudioEvent F}
    (he : e.HasSize blockSize) (htimely : Timely c o e) (hs : o.step ort e = some o') :
    InTime model period c blockSize session o' := by
  have hroom := h.onTime.noOverrun h.kept hmargin hperiod he hs
  refine ⟨?_, h.kept.step (hmodel session) hpos he hroom hs,
    h.onTime.step h.kept hpos hmargin hperiod he htimely hs⟩
  rw [Observed.step, Option.map_eq_some_iff] at hs
  obtain ⟨live, hlive, rfl⟩ := hs
  exact (Live.step_frame hlive).1.trans h.current

/-- Before a whole block has been sent, nothing has been handed to the model or got out of it. -/
lemma nothing_yet (h : InTime model period c blockSize session o)
    (hfew : o.history.sent.length < modelInputSize) :
    o.history.blocks = [] ∧ o.history.delivered = [] ∧ o.history.popped = [] := by
  have hblocks : o.history.blocks = [] := by
    have hle := h.kept.input.rings.input.popped_le
    rw [← List.length_eq_zero_iff]
    by_contra hne
    have := Nat.le_mul_of_pos_left modelInputSize (Nat.pos_of_ne_zero hne)
    omega
  have hdelivered : o.history.delivered = [] := by
    have hlen := h.kept.provenance.length_delivered
    rw [hblocks] at hlen
    rw [← List.length_eq_zero_iff]
    split_ifs at hlen <;> simpa using hlen
  refine ⟨hblocks, hdelivered, ?_⟩
  have hle := h.kept.input.rings.output.popped_le
  rw [hdelivered] at hle
  exact List.length_eq_zero_iff.mp (Nat.le_zero.mp hle)

/-- Another output ring with the same contents. What the processor says about its latency does not
matter either. -/
lemma withOutput (h : InTime model period c blockSize session o) {ring : RingBuffer F}
    (htracks : ring.Tracks 0 o.history.delivered o.history.popped.length)
    (hring : ring.period = period) (latencyInSamples : ℤ) :
    InTime model period c blockSize session
      { o with
        live :=
          { o.live with
            proc := { o.proc with receiveRingBuffer := ring, latencyInSamples } } } where
  current := h.current
  kept :=
    { input :=
        { h.kept.input with
          rings := ⟨h.kept.input.rings.input, h.kept.input.rings.inputPeriod, htracks, hring⟩ }
      output := h.kept.output
      provenance := { h.kept.provenance with }
      pace := { h.kept.pace with }
      count := { h.kept.count with }
      log := h.kept.log
      counter := { h.kept.counter with } }
  onTime := { h.onTime with }

end InTime

/-! ## What the rest of a load will leave -/

/-- The processor as the rest of a load will leave it: the flag down, the output ring empty. -/
def Observed.restored (o : Observed F S) : Observed F S :=
  { o with
    live :=
      { o.live with
        proc :=
          { o.proc with
            receiveRingBuffer := o.proc.receiveRingBuffer.reset
            inferenceThread := { o.inference with loadingModel := false } } } }

section Restored

variable {ort : Ort F S File} {model : S → ModelBlock F → ModelBlock F}
  {period c blockSize : ℕ} {session : S} {o o' : Observed F S}

/-- The samples of a callback that does not complete a block start no inference. -/
lemma InTime.starts_eq_false (h : InTime model period c blockSize session o)
    {buffer : AudioBuffer F}
    (hfew : o.history.sent.length + buffer.numSamples < modelInputSize) :
    o.inference.starts buffer = false := by
  rw [Bool.eq_false_iff]
  intro hst
  have hsent := h.kept.input.rings.block_sent hst
  rw [List.length_append, AudioBuffer.length_samples] at hsent
  omega

/-- The beginning of a callback, before a whole block has been sent. -/
lemma restored_sendAudio (h : InTime model period c blockSize session o.restored)
    (hflag : o.inference.loadingModel = true) {buffer : AudioBuffer F}
    (hfew : o.history.sent.length + buffer.numSamples < modelInputSize)
    (hs : o.step ort (.sendAudio buffer) = some o') :
    o.restored.step ort (.sendAudio buffer) = some o'.restored := by
  obtain ⟨hc, rfl⟩ := Observed.step_sendAudio hs
  obtain ⟨q, hq, -⟩ := Observed.exists_step_sendAudio ort (o := o.restored) buffer hc
  obtain ⟨-, rfl⟩ := Observed.step_sendAudio hq
  have hheld : o.inference.starts buffer = false := by
    simp [InferenceThread.starts, hflag]
  have hidle : InferenceThread.starts { o.inference with loadingModel := false } buffer = false :=
    h.starts_eq_false hfew
  rw [hq]
  simp only [Observed.restored, OnnxProcessor.sendAudio, InferenceThread.sendAudio_eq, hheld,
    hidle, Bool.false_eq_true, if_false]
  rfl

/-- The end of a callback, before a whole block has been sent: the block passes through. -/
lemma restored_processOutput (h : InTime model period c blockSize session o.restored)
    (hfew : o.history.sent.length < modelInputSize)
    (hs : o.step ort .processOutput = some o') :
    o.restored.step ort .processOutput = some o'.restored := by
  obtain ⟨buffer, hc, rfl⟩ := Observed.step_processOutput hs
  have hc' : o.restored.live.callback = some buffer := hc
  obtain ⟨q, hq, -⟩ := Observed.exists_step_processOutput ort hc'
  obtain ⟨b, hb, rfl⟩ := Observed.step_processOutput hq
  obtain rfl : buffer = b := Option.some.inj (hc.symm.trans hb)
  rw [hq]
  have hinit : o.inference.init = true := by
    have hpace : o.inference.init =
        decide (o.history.sent.length < modelInputSize + maxModelCalcSize) := h.kept.pace.init
    rw [hpace, decide_eq_true_eq]
    omega
  have hinit' : o.proc.inferenceThread.init = true := hinit
  simp only [Observed.restored, Observed.inference, OnnxProcessor.processOutput,
    OnnxProcessor.popCount, OnnxProcessor.outputBranch, OnnxProcessor.counterAfter,
    RingBuffer.popSamples, hinit', if_true, Bool.not_true, Bool.false_eq_true, if_false]

end Restored

/-! ## Conditions -/

/-- A callback does not complete a whole block of the model. -/
def AudioEvent.Few (sent : List F) : AudioEvent F → Prop
  | .sendAudio buffer => sent.length + buffer.numSamples < modelInputSize
  | _ => True

/-- The call of ONNX Runtime that the next stage of the load makes does not throw. -/
def ModelRun.Accepted (ort : Ort F S File) (s : ModelRun F S File) : Prop :=
  ∀ source stage, s.network.loader = some (source, stage) →
    (stage = .construct →
      ∃ session, source.session ort s.inference.currentLevel = .ok session) ∧
    (stage = .inputShape → ∀ session, s.inference.session = some session →
      ∃ dims, ort.inputShape session = .ok dims)

/-- What is asked of the steps: callbacks have the block size and the inference thread is timely;
`prepare` and loads begin while no inference is in flight; nobody resumes processing in the middle
of a load, ONNX Runtime does not throw, and a load ends before the first block of the model. -/
def Undisturbed (ort : Ort F S File) (spec : ProcessSpec) (c : ℕ) (s : ModelRun F S File) :
    HostedEvent F File → Prop
  | .own (.audio event) => event.HasSize spec.maximumBlockSize ∧ Timely c s.observed event ∧
      (s.network.loader ≠ none → event.Few s.history.sent)
  | .own (.prepare spec') =>
    spec' = spec ∧ s.inference.thread = .stopped ∧ s.network.loader = none
  | .own (.beginLoad _) => s.inference.thread = .stopped
  | .own .loadStep => s.Accepted ort
  | .suspendProcessing shouldBeSuspended =>
    shouldBeSuspended = false → ∀ source stage, s.network.loader = some (source, stage) →
      stage.suspends = false

/-! ## Phases -/

/-- A load that has not yet prepared the inference thread. -/
structure BeforeRestart (period : ℕ) (s : ModelRun F S File) (stage : LoadStage) : Prop where
  early : stage = .raiseFlag ∨ stage = .checkThread ∨ stage = .construct ∨ stage = .prepare
  suspended : s.hosted.suspended = true
  callback : s.network.live.callback = none
  thread : s.inference.thread = .stopped
  flagged : stage ≠ .raiseFlag → s.inference.loadingModel = true
  counter : s.proc.inferenceCounter = 0
  ring : ∃ xs n, s.proc.receiveRingBuffer.Tracks 0 xs n
  ringPeriod : s.proc.receiveRingBuffer.period = period
  session : ∃ session, s.inference.session = some session

/-- A load that has: the processor as the load will leave it is in time. -/
structure AfterRestart (model : S → ModelBlock F → ModelBlock F) (period c blockSize : ℕ)
    (s : ModelRun F S File) (stage : LoadStage) : Prop where
  late : stage = .inputShape ∨ stage = .resume ∨ stage = .resetRing ∨ stage = .resetCounter ∨
    stage = .lowerFlag
  thread : s.inference.thread = .stopped
  flagged : s.inference.loadingModel = true
  counter : s.proc.inferenceCounter = 0
  few : s.history.sent.length < modelInputSize
  emptied : stage = .resetCounter ∨ stage = .lowerFlag →
    s.proc.receiveRingBuffer.Tracks 0 [] 0
  restored : ∃ session, InTime model period c blockSize session s.observed.restored

/-- Where a load is, and what holds there. -/
structure ModelPhase (model : S → ModelBlock F → ModelBlock F) (spec : ProcessSpec) (c : ℕ)
    (s : ModelRun F S File) : Prop where
  lastSpec : s.inference.lastSpec = spec
  startUp : s.inference.startUp = false
  idle : s.network.loader = none → ∃ session,
    InTime model (max spec.ringSize 1) c spec.maximumBlockSize session s.observed
  loading : ∀ source stage, s.network.loader = some (source, stage) →
    BeforeRestart (max spec.ringSize 1) s stage ∨
      AfterRestart model (max spec.ringSize 1) c spec.maximumBlockSize s stage

/-- No step of a processor touches what it was prepared with.

**Proof sketch.** The event is recorded with an empty history, and the equation of the recorded step
says which fields it writes: `sendAudio` and `processOutput` rings and counters, `deliver` and
`threadEnd` the thread and its output. -/
lemma Live.step_lastSpec {ort : Ort F S File} {s s' : Live F S} {e : AudioEvent F}
    (h : s.step ort e = some s') :
    s'.proc.inferenceThread.lastSpec = s.proc.inferenceThread.lastSpec ∧
      s'.proc.inferenceThread.startUp = s.proc.inferenceThread.startUp := by
  have hstep : (Observed.mk s {}).step ort e = some ⟨s', History.record {} s s' e⟩ := by
    simp only [Observed.step, h, Option.map_some]
  cases e with
  | sendAudio buffer =>
    obtain ⟨-, heq⟩ := Observed.step_sendAudio hstep
    rw [(Observed.mk.inj heq).1]
    simp only [OnnxProcessor.sendAudio, InferenceThread.sendAudio_eq, and_self]
  | processOutput =>
    obtain ⟨buffer, -, heq⟩ := Observed.step_processOutput hstep
    rw [(Observed.mk.inj heq).1]
    simp only [OnnxProcessor.processOutput_eq, and_self]
  | deliver =>
    obtain ⟨-, heq⟩ := Observed.step_deliver hstep
    rw [(Observed.mk.inj heq).1]
    exact ⟨rfl, rfl⟩
  | threadEnd =>
    obtain ⟨-, heq⟩ := Observed.step_threadEnd hstep
    rw [(Observed.mk.inj heq).1]
    exact ⟨rfl, rfl⟩

/-- A stage of a load. -/
lemma ModelRun.step_loadStep {ort : Ort F S File} {s s' : ModelRun F S File}
    {source : ModelSource File} {stage : LoadStage}
    (hload : s.network.loader = some (source, stage))
    (h : s.step ort (.own .loadStep) = some s') :
    s' =
      ⟨⟨(s.network.loadStep ort s.hosted.suspended source stage).1,
          (s.network.loadStep ort s.hosted.suspended source stage).2⟩,
        if s.startsOver (.own .loadStep : HostedEvent F File) then {} else s.history⟩ := by
  obtain ⟨hosted, hs, rfl⟩ := step_eq_some h
  rw [Hosted.step_loadStep ort hload] at hs
  obtain rfl := Option.some.inj hs
  rfl

/-! ## Steps beside the stages of a load -/

section Steps

variable {ort : Ort F S File} {model : S → ModelBlock F → ModelBlock F}
  {period c blockSize : ℕ} {s s' : ModelRun F S File}

/-- No step of a callback or of the inference thread can be taken while processing is suspended
and nothing is in progress. -/
lemma BeforeRestart.no_audio {stage : LoadStage} (h : BeforeRestart period s stage)
    {event : AudioEvent F} (hs : s.step ort (.own (.audio event)) = some s') : False := by
  obtain ⟨hallowed, hstep, -, -⟩ := ModelRun.step_audio hs
  have hcallback : s.observed.live.callback = none := h.callback
  have hthread : s.observed.inference.thread = .stopped := h.thread
  cases event with
  | sendAudio buffer =>
    rw [h.suspended] at hallowed
    cases hallowed
  | processOutput =>
    obtain ⟨buffer, hc, -⟩ := Observed.step_processOutput hstep
    rw [hcallback] at hc
    cases hc
  | deliver =>
    obtain ⟨ht, -⟩ := Observed.step_deliver hstep
    rw [hthread] at ht
    cases ht
  | threadEnd =>
    obtain ⟨ht, -⟩ := Observed.step_threadEnd hstep
    rw [hthread] at ht
    cases ht

/-- **Callbacks before the end of a load** are callbacks of the restored processor.

**Proof sketch.** The flag keeps the thread stopped, so the steps of the thread cannot happen.
`sendAudio` stores its samples in both, and `processOutput` leaves both as they are, since too few
samples have been sent for `init` to end. -/
lemma AfterRestart.audio
    (hmodel : ∀ session block, ort.run session block = .ok (model session block))
    (hpos : 0 < blockSize) (hmargin : (c + 1) * blockSize ≤ maxModelCalcSize)
    (hperiod : modelInputSize + 2 * maxModelCalcSize < period) {stage : LoadStage}
    (h : AfterRestart model period c blockSize s stage) {event : AudioEvent F}
    (he : event.HasSize blockSize) (hfew : event.Few s.history.sent)
    (hs : s.step ort (.own (.audio event)) = some s') :
    AfterRestart model period c blockSize s' stage := by
  obtain ⟨-, hstep, -, -⟩ := ModelRun.step_audio hs
  obtain ⟨session, hrestored⟩ := h.restored
  have hthread : s.observed.inference.thread = .stopped := h.thread
  cases event with
  | sendAudio buffer =>
    have hq := restored_sendAudio hrestored h.flagged hfew hstep
    have hnext := hrestored.step hmodel hpos hmargin hperiod he trivial hq
    obtain ⟨-, heq⟩ := Observed.step_sendAudio hstep
    have hheld : s.observed.inference.starts buffer = false := by
      have hflag : s.observed.inference.loadingModel = true := h.flagged
      simp [InferenceThread.starts, hflag]
    have hlive := (Observed.mk.inj heq).1
    have hsent : s'.history.sent = s.history.sent ++ buffer.samples 0 :=
      congrArg History.sent (Observed.mk.inj heq).2
    refine ⟨h.late, ?_, ?_, ?_, ?_, ?_, session, hnext⟩
    · rw [ModelRun.inference, hlive]
      simpa only [OnnxProcessor.sendAudio, InferenceThread.sendAudio_thread, hheld,
        Bool.false_eq_true, if_false] using h.thread
    · rw [ModelRun.inference, hlive]
      simpa only [OnnxProcessor.sendAudio, InferenceThread.sendAudio_loadingModel] using h.flagged
    · rw [ModelRun.proc, hlive]
      exact h.counter
    · rw [hsent, List.length_append, AudioBuffer.length_samples]
      exact hfew
    · intro hstage
      rw [ModelRun.proc, hlive]
      exact h.emptied hstage
  | processOutput =>
    have hq := restored_processOutput hrestored h.few hstep
    have hnext := hrestored.step hmodel hpos hmargin hperiod he (fun hne => absurd hthread hne) hq
    obtain ⟨buffer, -, heq⟩ := Observed.step_processOutput hstep
    have hinit : s.proc.inferenceThread.init = true := by
      have hpace : s.proc.inferenceThread.init =
          decide (s.history.sent.length < modelInputSize + maxModelCalcSize) :=
        hrestored.kept.pace.init
      have hfew' := h.few
      rw [hpace, decide_eq_true_eq]
      omega
    have hproc : s'.proc = s.proc := by
      have hlive := congrArg Live.proc (Observed.mk.inj heq).1
      have hsame : (s.proc.processOutput buffer buffer.numSamples).1 = s.proc := by
        simp only [OnnxProcessor.processOutput, hinit, Bool.not_true, Bool.false_eq_true, if_false]
      exact hlive.trans hsame
    have hsent : s'.history.sent = s.history.sent := by rw [(Observed.mk.inj heq).2]
    refine ⟨h.late, ?_, ?_, ?_, ?_, ?_, session, hnext⟩
    · exact (congrArg (·.inferenceThread.thread) hproc).trans h.thread
    · exact (congrArg (·.inferenceThread.loadingModel) hproc).trans h.flagged
    · exact (congrArg (·.inferenceCounter) hproc).trans h.counter
    · rw [hsent]
      exact h.few
    · intro hstage
      rw [hproc]
      exact h.emptied hstage
  | deliver =>
    obtain ⟨ht, -⟩ := Observed.step_deliver hstep
    rw [hthread] at ht
    cases ht
  | threadEnd =>
    obtain ⟨ht, -⟩ := Observed.step_threadEnd hstep
    rw [hthread] at ht
    cases ht

/-! ## The stages of a load -/

/-- What holds at a stage of a load that is in progress. -/
lemma ModelPhase.of_loading {spec : ProcessSpec} {source : ModelSource File}
    {stage : LoadStage} (hload : s.network.loader = some (source, stage))
    (hspec : s.inference.lastSpec = spec) (hstart : s.inference.startUp = false)
    (hphase : BeforeRestart (max spec.ringSize 1) s stage ∨
      AfterRestart model (max spec.ringSize 1) c spec.maximumBlockSize s stage) :
    ModelPhase model spec c s := by
  refine ⟨hspec, hstart, fun hnone => ?_, fun source' stage' hload' => ?_⟩
  · rw [hload] at hnone
    cases hnone
  · rw [hload] at hload'
    cases hload'
    exact hphase

/-- **The stages before the restart**, the last of which is the restart.

**Proof sketch.** By the stage. Up to the constructor the load goes on with the thread stopped and
the flag raised; `prepare` then makes the processor what the host would have prepared, but for the
output ring and the flag. -/
lemma BeforeRestart.loadStep {spec : ProcessSpec} {source : ModelSource File}
    {stage : LoadStage} (h : BeforeRestart (max spec.ringSize 1) s stage)
    (hload : s.network.loader = some (source, stage)) (hspec : s.inference.lastSpec = spec)
    (hstart : s.inference.startUp = false) (haccepted : s.Accepted ort)
    (hs : s.step ort (.own .loadStep) = some s') :
    ModelPhase model spec c s' := by
  obtain rfl := ModelRun.step_loadStep hload hs
  obtain ⟨session, hsession⟩ := h.session
  rcases h.early with rfl | rfl | rfl | rfl
  · exact .of_loading rfl hspec hstart (Or.inl ⟨Or.inr (Or.inl rfl), h.suspended, h.callback,
      h.thread, fun _ => rfl, h.counter, h.ring, h.ringPeriod, h.session⟩)
  · have hidle : s.network.inference.thread.isThreadRunning = false := by
      have hthread : s.network.inference.thread = .stopped := h.thread
      rw [hthread]
      rfl
    simp only [Network.loadStep, hidle, Bool.false_eq_true, if_false]
    exact .of_loading rfl hspec hstart (Or.inl ⟨Or.inr (Or.inr (Or.inl rfl)), h.suspended,
      h.callback, h.thread, fun _ => h.flagged (by decide), h.counter, h.ring, h.ringPeriod,
      h.session⟩)
  · obtain ⟨new, hnew⟩ := (haccepted source .construct hload).1 rfl
    have hnew' : source.session ort s.network.inference.currentLevel = .ok new := hnew
    simp only [Network.loadStep, hnew']
    exact .of_loading rfl hspec hstart (Or.inl ⟨Or.inr (Or.inr (Or.inr rfl)), h.suspended,
      h.callback, h.thread, fun _ => h.flagged (by decide), h.counter, h.ring, h.ringPeriod, new,
      rfl⟩)
  · have hnotifies : source.notifies s.inference.startUp = true := by
      rw [hstart]
      cases source <;> rfl
    have hflag := h.flagged (by decide)
    obtain ⟨xs, n, htracks⟩ := h.ring
    -- the processor prepared by the host, but for its output ring
    have hstarted : InTime model (max spec.ringSize 1) c spec.maximumBlockSize session
        (Observed.start
          { s.proc with inferenceThread := { s.inference with loadingModel := false } } spec) := by
      refine InTime.start ?_ ?_ ?_ spec c spec.maximumBlockSize
      · exact hsession
      · exact h.thread
      · rfl
    have hprepared := hstarted.withOutput htracks.reset h.ringPeriod s.proc.latencyInSamples
    simp only [Network.loadStep, ModelRun.startsOver, hload, hnotifies, if_true]
    refine .of_loading rfl hspec hstart (Or.inr ⟨Or.inl rfl, h.thread, hflag, h.counter,
      modelInputSize_pos, ?_, session, ?_⟩)
    · simp
    · have hcounter : s.proc.inferenceCounter = 0 := h.counter
      have hcallback : s.network.live.callback = none := h.callback
      simpa only [Observed.restored, Observed.start, OnnxProcessor.prepare,
        OnnxProcessor.calculateLatency, InferenceThread.prepare, Network.mapInference,
        Network.goTo, hspec, hcounter, hcallback] using hprepared

/-- The restored processor once its ring is empty. -/
lemma AfterRestart.emptyRing {stage : LoadStage}
    (h : AfterRestart model period c blockSize s stage) :
    s.proc.receiveRingBuffer.reset.Tracks 0 [] 0 ∧ s.proc.receiveRingBuffer.period = period ∧
      s.history.delivered = [] ∧ s.history.popped = [] := by
  obtain ⟨session, hrestored⟩ := h.restored
  obtain ⟨-, hdelivered, hpopped⟩ := hrestored.nothing_yet h.few
  have hdelivered' : s.history.delivered = [] := hdelivered
  have hpopped' : s.history.popped = [] := hpopped
  have htracks : s.proc.receiveRingBuffer.reset.Tracks 0 s.history.delivered
      s.history.popped.length := hrestored.kept.input.rings.output
  rw [hdelivered', hpopped'] at htracks
  exact ⟨htracks, hrestored.kept.input.rings.outputPeriod, hdelivered', hpopped'⟩

/-- **The stages after the restart**, the last of which ends the load.

**Proof sketch.** By the stage. The output ring is reset and the counter set to zero, which it is
already; the end of the load lowers the flag, and the processor is the restored one. -/
lemma AfterRestart.loadStep {spec : ProcessSpec} {source : ModelSource File}
    {stage : LoadStage}
    (h : AfterRestart model (max spec.ringSize 1) c spec.maximumBlockSize s stage)
    (hload : s.network.loader = some (source, stage)) (hspec : s.inference.lastSpec = spec)
    (hstart : s.inference.startUp = false) (haccepted : s.Accepted ort)
    (hs : s.step ort (.own .loadStep) = some s') :
    ModelPhase model spec c s' := by
  obtain rfl := ModelRun.step_loadStep hload hs
  have hnotifies : source.notifies s.inference.startUp = true := by
    rw [hstart]
    cases source <;> rfl
  obtain ⟨session, hrestored⟩ := h.restored
  obtain ⟨hempty, hperiod, hdelivered, hpopped⟩ := h.emptyRing
  have htracks : ∀ ring : RingBuffer F, ring.Tracks 0 [] 0 →
      ring.Tracks 0 s.history.delivered s.history.popped.length := by
    intro ring hring
    rw [hdelivered, hpopped]
    exact hring
  rcases h.late with rfl | rfl | rfl | rfl | rfl
  · have hcurrent : s.network.inference.session = some session := hrestored.current
    obtain ⟨dims, hdims⟩ := (haccepted source .inputShape hload).2 rfl session hcurrent
    simp only [Network.loadStep, ModelRun.startsOver, hload, hcurrent, Option.map_some, hdims,
      Bool.false_eq_true, if_false]
    exact .of_loading rfl hspec hstart (Or.inr ⟨Or.inr (Or.inl rfl), h.thread, h.flagged,
      h.counter, h.few, by simp, session, hrestored⟩)
  · simp only [Network.loadStep, ModelRun.startsOver, hload, Bool.false_eq_true, if_false]
    exact .of_loading rfl hspec hstart (Or.inr ⟨Or.inr (Or.inr (Or.inl rfl)), h.thread, h.flagged,
      h.counter, h.few, by simp, session, hrestored⟩)
  · simp only [Network.loadStep, ModelRun.startsOver, hload, hnotifies, if_true,
      Bool.false_eq_true, if_false]
    refine .of_loading rfl hspec hstart (Or.inr ⟨Or.inr (Or.inr (Or.inr (Or.inl rfl))), h.thread,
      h.flagged, h.counter, h.few, fun _ => hempty, session, ?_⟩)
    exact hrestored.withOutput (htracks _ hempty.reset) hperiod s.proc.latencyInSamples
  · have hcounter : s.network.live.proc.inferenceCounter = 0 := h.counter
    have hsame : { s.network.live.proc with inferenceCounter := 0 } = s.network.live.proc := by
      rw [← hcounter]
    simp only [Network.loadStep, ModelRun.startsOver, hload, hnotifies, hsame, if_true,
      Bool.false_eq_true, if_false]
    exact .of_loading rfl hspec hstart (Or.inr ⟨Or.inr (Or.inr (Or.inr (Or.inr rfl))), h.thread,
      h.flagged, h.counter, h.few, fun _ => h.emptied (Or.inl rfl), session, hrestored⟩)
  · have hin := hrestored.withOutput (htracks _ (h.emptied (Or.inr rfl))) hperiod
      s.proc.latencyInSamples
    cases source with
    | internal =>
      have hsame :
          { s.network.live.proc.inferenceThread with loadingModel := false, startUp := false } =
            { s.network.live.proc.inferenceThread with loadingModel := false } := by
        rw [← hstart]
      refine ⟨hspec, rfl, fun _ => ⟨session, ?_⟩, fun _ _ hnone => by cases hnone⟩
      simpa only [Network.loadStep, Network.ended, Network.mapInference, Observed.restored, hsame,
        ModelRun.startsOver, hload, Bool.false_eq_true, if_false] using hin
    | external file =>
      refine ⟨hspec, hstart, fun _ => ⟨session, ?_⟩, fun _ _ hnone => by cases hnone⟩
      simpa only [Network.loadStep, Network.ended, Network.mapInference, Observed.restored,
        ModelRun.startsOver, hload, Bool.false_eq_true, if_false] using hin

/-! ## One step -/

/-- A load begins while no inference is in flight. -/
lemma ModelPhase.beginLoad {spec : ProcessSpec} {source : ModelSource File}
    (h : ModelPhase model spec c s) (hstopped : s.inference.thread = .stopped)
    (hs : s.step ort (.own (.beginLoad source)) = some s') : ModelPhase model spec c s' := by
  obtain ⟨hosted, hhosted, rfl⟩ := ModelRun.step_eq_some hs
  cases hload : s.network.loader with
  | some load => simp [Hosted.step, Network.step, hload] at hhosted
  | none =>
    cases hcallback : s.network.live.callback with
    | some buffer => simp [Hosted.step, Network.step, hload, hcallback] at hhosted
    | none =>
      simp only [Hosted.step, Network.step, hload, hcallback, Option.map_some,
        Option.some.injEq] at hhosted
      obtain rfl := hhosted
      obtain ⟨session, hin⟩ := h.idle hload
      have hrings := hin.kept.input.rings
      exact .of_loading rfl h.lastSpec h.startUp (Or.inl ⟨Or.inl rfl, rfl, hcallback, hstopped,
        fun hne => absurd rfl hne, hin.onTime.counter, ⟨_, _, hrings.output⟩, hrings.outputPeriod,
        session, hin.current⟩)

/-- The host prepares the processor while no inference is in flight. -/
lemma ModelPhase.prepare {spec : ProcessSpec} (h : ModelPhase model spec c s)
    (hstopped : s.inference.thread = .stopped) (hload : s.network.loader = none)
    (hs : s.step ort (.own (.prepare spec)) = some s') : ModelPhase model spec c s' := by
  obtain ⟨hosted, hhosted, rfl⟩ := ModelRun.step_eq_some hs
  cases hcallback : s.network.live.callback with
  | some buffer => simp [Hosted.step, Network.step, hcallback] at hhosted
  | none =>
    simp only [Hosted.step, Network.step, hcallback, Option.map_some, Option.some.injEq] at hhosted
    obtain rfl := hhosted
    obtain ⟨session, hin⟩ := h.idle hload
    have hstart : InTime model (max spec.ringSize 1) c spec.maximumBlockSize session
        (Observed.start s.proc spec) :=
      .start hin.current hstopped hin.onTime.loading spec c spec.maximumBlockSize
    refine ⟨rfl, h.startUp, fun _ => ⟨session, hstart⟩, fun source stage hsome => ?_⟩
    · have hnone : s.network.loader = some (source, stage) := hsome
      rw [hload] at hnone
      cases hnone

/-- Somebody else suspends processing, or resumes it where the load has done so. -/
lemma ModelPhase.suspendProcessing {spec : ProcessSpec} {shouldBeSuspended : Bool}
    (h : ModelPhase model spec c s)
    (hresume : shouldBeSuspended = false → ∀ source stage,
      s.network.loader = some (source, stage) → stage.suspends = false)
    (hs : s.step ort (.suspendProcessing shouldBeSuspended) = some s') :
    ModelPhase model spec c s' := by
  obtain ⟨hosted, hhosted, rfl⟩ := ModelRun.step_eq_some hs
  cases hcallback : s.network.live.callback with
  | some buffer => simp [Hosted.step, hcallback] at hhosted
  | none =>
    simp only [Hosted.step, hcallback, Option.some.injEq] at hhosted
    obtain rfl := hhosted
    refine ⟨h.lastSpec, h.startUp, h.idle, fun source stage hload => ?_⟩
    rcases h.loading source stage hload with hbefore | hafter
    · refine Or.inl { hbefore with suspended := ?_ }
      cases hsuspend : shouldBeSuspended with
      | true => rfl
      | false =>
        have hstage := hresume hsuspend source stage hload
        rcases hbefore.early with rfl | rfl | rfl | rfl <;> cases hstage
    · exact Or.inr { hafter with }

/-- **Every undisturbed step keeps the phase.**

**Proof sketch.** A stage of the load and a callback in it have their own lemmas for either phase;
outside loads a callback is a step of a processor that is in time. -/
theorem ModelPhase.step {spec : ProcessSpec}
    (hmodel : ∀ session block, ort.run session block = .ok (model session block))
    (hpos : 0 < spec.maximumBlockSize)
    (hmargin : (c + 1) * spec.maximumBlockSize ≤ maxModelCalcSize)
    (hperiod : modelInputSize + 2 * maxModelCalcSize < max spec.ringSize 1)
    (h : ModelPhase model spec c s) {e : HostedEvent F File} (he : Undisturbed ort spec c s e)
    (hs : s.step ort e = some s') : ModelPhase model spec c s' := by
  cases e with
  | suspendProcessing shouldBeSuspended => exact h.suspendProcessing he hs
  | own event =>
    cases event with
    | prepare spec' =>
      obtain ⟨rfl, hstopped, hload⟩ := he
      exact h.prepare hstopped hload hs
    | beginLoad source => exact h.beginLoad he hs
    | loadStep =>
      cases hload : s.network.loader with
      | none =>
        obtain ⟨hosted, hhosted, -⟩ := ModelRun.step_eq_some hs
        simp [Hosted.step, Network.step, hload] at hhosted
      | some load =>
        rcases h.loading load.1 load.2 hload with hbefore | hafter
        · exact hbefore.loadStep hload h.lastSpec h.startUp he hs
        · exact hafter.loadStep hload h.lastSpec h.startUp he hs
    | audio event =>
      obtain ⟨hsize, htimely, hfew⟩ := he
      obtain ⟨-, hstep, hloader, -⟩ := ModelRun.step_audio hs
      have hlive : s.network.live.step ort event = some s'.network.live := by
        rw [Observed.step, Option.map_eq_some_iff] at hstep
        obtain ⟨live, hlive, heq⟩ := hstep
        rw [hlive, (Observed.mk.inj heq).1]
      obtain ⟨hspec, hstart⟩ := Live.step_lastSpec hlive
      refine ⟨hspec.trans h.lastSpec, hstart.trans h.startUp, fun hnone => ?_,
        fun source stage hload => ?_⟩
      · obtain ⟨session, hin⟩ := h.idle (hloader ▸ hnone)
        exact ⟨session, hin.step hmodel hpos hmargin hperiod hsize htimely hstep⟩
      · have hload' := hloader ▸ hload
        rcases h.loading source stage hload' with hbefore | hafter
        · exact (hbefore.no_audio hs).elim
        · exact Or.inr (hafter.audio hmodel hpos hmargin hperiod hsize
            (hfew (by rw [hload']; simp)) hs)

end Steps

/-! ## Whole runs -/

/-- **After any number of model changes the latency is the delay.** A processor is prepared at a
sample rate of at least 32768 Hz, and goes through callbacks, loads of models and further calls of
`prepare`, in any order and with the steps of its inference thread anywhere in between, undisturbed.
Then, whenever no load is in progress, no callback since it last started over has missed samples,
and the output since then is that of the model it has now, delayed by the latency it reports.

**Proof sketch.** The phase of the model is an invariant: it holds at the start, where the processor
is prepared and idle, and `ModelPhase.step` keeps it along every step that meets `Undisturbed`.
Outside loads it says that the processor is in time with its present session, which is the
conclusion. -/
theorem model_changes_in_step {ort : Ort F S File} {model : S → ModelBlock F → ModelBlock F}
    (hmodel : ∀ session block, ort.run session block = .ok (model session block))
    {p : OnnxProcessor F S} {session : S} (hsession : p.inferenceThread.session = some session)
    (hstopped : p.inferenceThread.thread = .stopped)
    (hloading : p.inferenceThread.loadingModel = false)
    (hstartUp : p.inferenceThread.startUp = false) {spec : ProcessSpec}
    (hpos : 0 < spec.maximumBlockSize) (hrate : 32768 ≤ spec.sampleRate) {c : ℕ}
    (hmargin : (c + 1) * spec.maximumBlockSize ≤ maxModelCalcSize)
    {es : List (HostedEvent F File)}
    (hes : Transition.StepsMeet (ModelRun.step ort) (Undisturbed ort spec c)
      (ModelRun.start p spec) es) :
    Transition.Always (ModelRun.step ort)
      (fun s => s.network.loader = none → ∃ session, s.inference.session = some session ∧
        DelayedOutput (model session) spec.maximumBlockSize s.observed)
      (ModelRun.start p spec) es := by
  have hstart : ModelPhase model spec c (ModelRun.start p spec : ModelRun F S File) :=
    ⟨rfl, hstartUp, fun _ => ⟨session, InTime.start hsession hstopped hloading spec c _⟩,
      fun _ _ hnone => by cases hnone⟩
  refine (Transition.always_of_stepsMeet
    (fun _ _ _ h he hs => h.step hmodel hpos hmargin (ProcessSpec.lt_ringSize hrate) he hs)
    hstart hes).mono ?_
  intro s h hnone
  obtain ⟨session, hin⟩ := h.idle hnone
  exact ⟨session, hin.current, hin.onTime.delayedOutput hin.kept⟩

/-! ## The theorem at work -/

/-- Callbacks and steps of the inference thread outside loads are those of the processor, as long as
processing is not suspended.

**Proof sketch.** Induction on the events; none of them touches the load, the specification or the
session. -/
lemma ModelRun.exec_audio {ort : Ort F S File} {es : List (AudioEvent F)}
    {s : ModelRun F S File} (hrun : s.hosted.suspended = false) {o : Observed F S}
    (h : Transition.exec (Observed.step ort) s.observed es = some o) :
    ∃ t : ModelRun F S File,
      Transition.exec (ModelRun.step ort) s (es.map fun e => .own (.audio e)) = some t ∧
      t.observed = o ∧ t.network.loader = s.network.loader ∧
      t.inference.lastSpec = s.inference.lastSpec ∧ t.inference.startUp = s.inference.startUp ∧
      t.inference.session = s.inference.session := by
  induction es generalizing s with
  | nil =>
    obtain rfl := Option.some.inj h
    exact ⟨s, rfl, rfl, rfl, rfl, rfl, rfl⟩
  | cons e es ih =>
    obtain ⟨o', hs, hexec⟩ := Transition.exec_cons_eq_some.mp h
    have hlive := hs
    rw [Observed.step, Option.map_eq_some_iff] at hlive
    obtain ⟨live, hlive, rfl⟩ := hlive
    have hstep : s.step ort (.own (.audio e)) =
        some ⟨⟨⟨live, s.network.loader⟩, s.hosted.suspended⟩,
          s.history.record s.hosted.network.live live e⟩ := by
      have hallowed : e.allowed s.hosted.suspended = true := by
        rw [hrun]
        cases e <;> rfl
      simp only [ModelRun.step, Hosted.step, Network.step, hallowed, if_true, hlive,
        Option.map_some]
      rfl
    obtain ⟨t, ht, hobserved, hloader, hspec, hstart, hsession⟩ := ih (s := ⟨⟨⟨live,
      s.network.loader⟩, s.hosted.suspended⟩, s.history.record s.hosted.network.live live e⟩)
      hrun hexec
    obtain ⟨hspec', hstart'⟩ := Live.step_lastSpec hlive
    refine ⟨t, ?_, hobserved, hloader, hspec.trans hspec', hstart.trans hstart',
      hsession.trans (Live.step_frame hlive).1⟩
    rw [List.map_cons, Transition.exec_cons_of_step hstep]
    exact ht

/-- What is asked of the steps of the processor outside loads. -/
lemma undisturbed_audio {ort : Ort F S File} {spec : ProcessSpec} {c : ℕ}
    {es : List (AudioEvent F)} {s : ModelRun F S File} (hidle : s.network.loader = none)
    (h : Transition.StepsMeet (Observed.step ort)
      (fun o e => e.HasSize spec.maximumBlockSize ∧ Timely c o e) s.observed es) :
    Transition.StepsMeet (ModelRun.step ort) (Undisturbed ort spec c) s
      (es.map fun e => .own (.audio e)) := by
  induction es generalizing s with
  | nil => trivial
  | cons e es ih =>
    intro s' hs
    obtain ⟨-, hstep, hloader, -⟩ := ModelRun.step_audio hs
    obtain ⟨⟨hsize, htimely⟩, hrest⟩ := h _ hstep
    exact ⟨⟨hsize, htimely, fun hne => absurd hidle hne⟩, ih (hloader.trans hidle) hrest⟩

/-- A load up to the construction of its session, with nothing in between. -/
lemma ModelRun.exec_construct {ort : Ort F S File} {session : S} {s : ModelRun F S File}
    {source : ModelSource File} (hidle : s.network.loader = none)
    (hcallback : s.network.live.callback = none) (hstopped : s.inference.thread = .stopped)
    (hsession : source.session ort s.inference.currentLevel = .ok session) :
    Transition.exec (ModelRun.step ort) s
        (.own (.beginLoad source) :: List.replicate 3 (.own .loadStep)) =
      some ⟨⟨⟨⟨{ s.proc with
        inferenceThread := { s.inference with loadingModel := true, session := some session } },
        none⟩, some (source, .prepare)⟩, true⟩, s.history⟩ := by
  simp [Transition.exec, ModelRun.step, Hosted.step, Network.step, Network.loadStep,
    Network.goTo, Network.mapInference, Network.inference, hidle, hcallback, hstopped, hsession,
    List.replicate, ModelRun.record, ModelRun.startsOver, ThreadState.isThreadRunning]

/-- The rest of the load: the processor starts over.

**Proof sketch.** Once the session and the shape of its input are known, the six stages that are
left branch on nothing: each is a record update, and the simplifier runs them. The two cases are the
two sources, which differ in whether the stage `resume` notifies the processor. -/
lemma ModelRun.exec_constructed {ort : Ort F S File} {session : S} {dims : List ℤ}
    {s : ModelRun F S File} {source : ModelSource File}
    (hload : s.network.loader = some (source, .prepare))
    (hsession : s.inference.session = some session) (hstartUp : s.inference.startUp = false)
    (hdims : ort.inputShape session = .ok dims) :
    Transition.exec (ModelRun.step ort) s (List.replicate 6 (.own .loadStep)) =
      some ⟨⟨⟨⟨{ s.proc with
        receiveRingBuffer := s.proc.receiveRingBuffer.reset
        inferenceCounter := 0
        inferenceThread :=
          { s.inference.prepare s.inference.lastSpec with
            loadingModel := false, startUp := false } },
        s.network.live.callback⟩, none⟩, false⟩, {}⟩ := by
  cases source with
  | internal =>
    simp [Transition.exec, ModelRun.step, Hosted.step, Network.step, Network.loadStep,
      Network.goTo, Network.mapInference, Network.inference, Network.ended, hload, hstartUp,
      hsession, hdims, List.replicate, ModelSource.notifies, ModelRun.record,
      ModelRun.startsOver, InferenceThread.prepare]
  | external file =>
    simp [Transition.exec, ModelRun.step, Hosted.step, Network.step, Network.loadStep,
      Network.goTo, Network.mapInference, Network.inference, Network.ended, hload, hstartUp,
      hsession, hdims, List.replicate, ModelSource.notifies, ModelRun.record,
      ModelRun.startsOver, InferenceThread.prepare]

/-- A whole load with nothing in between, if ONNX Runtime accepts the model and no inference is in
flight. -/
lemma ModelRun.exec_load {ort : Ort F S File} {session : S} {dims : List ℤ}
    {s : ModelRun F S File} {source : ModelSource File} (hidle : s.network.loader = none)
    (hcallback : s.network.live.callback = none) (hstopped : s.inference.thread = .stopped)
    (hstartUp : s.inference.startUp = false)
    (hsession : source.session ort s.inference.currentLevel = .ok session)
    (hdims : ort.inputShape session = .ok dims) :
    Transition.exec (ModelRun.step ort) s
        (.own (.beginLoad source) :: List.replicate 9 (.own .loadStep)) =
      some ⟨⟨⟨⟨{ s.proc with
        receiveRingBuffer := s.proc.receiveRingBuffer.reset
        inferenceCounter := 0
        inferenceThread :=
          { InferenceThread.prepare { s.inference with session := some session }
              s.inference.lastSpec with loadingModel := false, startUp := false } },
        none⟩, none⟩, false⟩, {}⟩ := by
  have hfirst := exec_construct hidle hcallback hstopped hsession
  exact (Transition.exec_append_of_exec hfirst (List.replicate 6 (.own .loadStep))).trans
    (exec_constructed rfl rfl hstartUp hdims)

/-- After it the processor has been prepared, with the new model.

**Proof sketch.** The nine stages give the state of `exec_load`, so three facts are read off it: the
send ring has just been initialised, the receive ring reset, and the thread is still stopped. -/
lemma ModelRun.restarted_of_load {ort : Ort F S File} {session : S} {dims : List ℤ}
    {spec : ProcessSpec} {s : ModelRun F S File} {source : ModelSource File}
    (hrings : RingsTracked (max spec.ringSize 1) s.observed) (hspec : s.inference.lastSpec = spec)
    (hidle : s.network.loader = none) (hcallback : s.network.live.callback = none)
    (hstopped : s.inference.thread = .stopped) (hstartUp : s.inference.startUp = false)
    (hsession : source.session ort s.inference.currentLevel = .ok session)
    (hdims : ort.inputShape session = .ok dims) :
    ∃ t : ModelRun F S File, Transition.exec (ModelRun.step ort) s
        (.own (.beginLoad source) :: List.replicate 9 (.own .loadStep)) = some t ∧
      RingsTracked (max spec.ringSize 1) t.observed ∧
      t.observed.timing = .start .stopped false spec.ringSize ∧ t.network.loader = none ∧
      t.hosted.suspended = false ∧ t.inference.session = some session := by
  refine ⟨_, exec_load hidle hcallback hstopped hstartUp hsession hdims, ?_, ?_, rfl, rfl, rfl⟩
  · rw [hspec]
    refine ⟨?_, s.inference.receiveRingBuffer.initialise_period 1 spec.ringSize,
      hrings.output.reset, hrings.outputPeriod⟩
    show RingBuffer.Tracks _ 0 [] (0 * modelInputSize)
    rw [Nat.zero_mul]
    exact s.inference.receiveRingBuffer.tracks_initialise Nat.one_pos spec.ringSize
  · simp only [Observed.timing, InferenceThread.prepare, hspec, hstopped,
      RingBuffer.initialise_period]
    rfl

/-- The stages of a load meet the conditions if ONNX Runtime throws no exception. -/
lemma undisturbed_loadSteps {ort : Ort F S File}
    (haccepted : ∀ s : ModelRun F S File, s.Accepted ort) {spec : ProcessSpec} {c n : ℕ}
    (s : ModelRun F S File) : Transition.StepsMeet (ModelRun.step ort) (Undisturbed ort spec c) s
      (List.replicate n (.own .loadStep)) := by
  induction n generalizing s with
  | zero => trivial
  | succ n ih => exact fun s' _ => ⟨haccepted s, ih s'⟩

/-- A model that returns its input, and one that plays each block backwards. -/
def forwardsOrBackwards (forwards : Bool) (block : ModelBlock ExactFloat) :
    ModelBlock ExactFloat := if forwards then block else fun i => block i.rev

/-- A runtime with the first one embedded and the second one in a file. -/
def Ort.twoModels : Ort ExactFloat Bool Unit where
  sessionFromData _ := .ok true
  sessionFromFile _ := .ok false
  run session block := .ok (forwardsOrBackwards session block)
  inputShape _ := .ok [1, 1, modelInputSize]

lemma accepted_twoModels (s : ModelRun ExactFloat Bool Unit) : s.Accepted Ort.twoModels := by
  refine fun source stage _ => ⟨fun _ => ?_, fun _ session _ => ⟨_, rfl⟩⟩
  cases source with
  | internal => exact ⟨true, rfl⟩
  | external file => exact ⟨false, rfl⟩

/-- A processor that has the embedded model. -/
def forwardsProcessor : OnnxProcessor ExactFloat Bool :=
  { number := 1
    inferenceThread :=
      { thread := .stopped
        init := true
        initSamples := 0
        startUp := false
        lastSpec := ⟨0, 0, 0⟩
        currentLevel := .funkDrum
        session := some true
        onnxInputData := fun _ => 0
        onnxOutputData := fun _ => 0
        receiveRingBuffer := ⟨⟨0, 0, fun _ _ => 0⟩, [], []⟩
        loadingModel := false }
    latencyInSamples := 0
    receiveRingBuffer := ⟨⟨0, 0, fun _ _ => 0⟩, [], []⟩
    inferenceCounter := 0 }

/-- Six callbacks, of which the fourth completes a block of the model and the last two give back
its output. -/
def sixCallbacks : List (AudioEvent ExactFloat) :=
  callbacks [rampBlock 4096 0, rampBlock 4096 1, rampBlock 4096 2] ++
    [.sendAudio (rampBlock 4096 3), .deliver, .threadEnd, .processOutput] ++
    callbacks [rampBlock 4096 4, rampBlock 4096 5]

lemma sixCallbacks_timing : sixCallbacks.map AudioEvent.timing =
    [.sendAudio 4096, .processOutput, .sendAudio 4096, .processOutput, .sendAudio 4096,
      .processOutput, .sendAudio 4096, .deliver, .threadEnd, .processOutput, .sendAudio 4096,
      .processOutput, .sendAudio 4096, .processOutput] := by
  simp [sixCallbacks, callbacks, AudioEvent.timing]

lemma hasSize_sixCallbacks : ∀ e ∈ sixCallbacks, e.HasSize 4096 := by
  intro e he
  simp only [sixCallbacks, List.mem_append] at he
  rcases he with (he | he) | he
  · exact callbacks_hasSize (by simp) e he
  · simp only [List.mem_cons, List.not_mem_nil, or_false] at he
    rcases he with rfl | rfl | rfl | rfl
    · exact rampBlock_numSamples 4096 3
    · trivial
    · trivial
    · trivial
  · exact callbacks_hasSize (by simp) e he

/-- Six callbacks with the embedded model, the load of the file, and six callbacks. -/
def fileChange : List (HostedEvent ExactFloat Unit) :=
  (sixCallbacks.map fun e => .own (.audio e)) ++
    ((.own (.beginLoad (.external ())) :: List.replicate 9 (.own .loadStep)) ++
      sixCallbacks.map fun e => .own (.audio e))

/-- Six callbacks after `prepare`, from any state with that timing. -/
lemma exec_sixCallbacks {o : Observed ExactFloat Bool} (h : RingsTracked 48000 o)
    (htiming : o.timing = .start .stopped false 48000) :
    ∃ o', Transition.exec (Observed.step Ort.twoModels) o sixCallbacks = some o' ∧
      o'.inference.thread = .stopped ∧ o'.live.callback = none ∧
      o'.history.callbacks.map Callback.timing =
        List.replicate 4 (.initialising, 0) ++ List.replicate 2 (.modelSamples, 0) := by
  have hrun : (Transition.exec Timing.step o.timing (sixCallbacks.map AudioEvent.timing)).map
      (fun t => decide (t.thread = .stopped ∧ t.callback = none ∧ t.callbacks =
        List.replicate 4 (.initialising, 0) ++ List.replicate 2 (.modelSamples, 0))) =
      some true := by
    rw [htiming, sixCallbacks_timing]
    decide +kernel
  obtain ⟨o', hexec, -, hstate⟩ := Observed.exists_exec_of_timing Ort.twoModels h _ hrun
  obtain ⟨hthread, hcallback, hcallbacks⟩ := decide_eq_true_eq.mp hstate
  exact ⟨o', hexec, hthread, Option.map_eq_none_iff.mp hcallback, hcallbacks⟩

/-- They are timely. -/
lemma undisturbed_sixCallbacks {o : Observed ExactFloat Bool} (h : RingsTracked 48000 o)
    (htiming : o.timing = .start .stopped false 48000) :
    Transition.StepsMeet (Observed.step Ort.twoModels)
      (fun o e => e.HasSize 4096 ∧ Timely 0 o e) o sixCallbacks := by
  refine (Transition.stepsMeet_of_forall _ hasSize_sixCallbacks).and ?_
  refine Observed.stepsMeet_of_timing _ h (timely_of_timing (c := 0)) ?_
  rw [htiming, sixCallbacks_timing]
  decide +kernel

/-- The theorem at work: the last two callbacks give back the blocks sent since the load, each
backwards. -/
theorem model_changes_in_step_file :
    (∃ s, Transition.exec (ModelRun.step Ort.twoModels)
        (ModelRun.start forwardsProcessor ⟨48000, 4096, 1⟩) fileChange = some s ∧
      s.network.loader = none ∧ s.inference.session = some false ∧
      s.history.callbacks.map Callback.timing =
        List.replicate 4 (.initialising, 0) ++ List.replicate 2 (.modelSamples, 0)) ∧
      Transition.Always (ModelRun.step Ort.twoModels)
        (fun s => s.network.loader = none → ∃ session, s.inference.session = some session ∧
          DelayedOutput (forwardsOrBackwards session) 4096 s.observed)
        (ModelRun.start forwardsProcessor ⟨48000, 4096, 1⟩) fileChange := by
  have hmodel : ∀ (session : Bool) block, Ort.twoModels.run session block =
      .ok (forwardsOrBackwards session block) := fun _ _ => rfl
  have hmargin : (0 + 1) * (ProcessSpec.mk 48000 4096 1).maximumBlockSize ≤ maxModelCalcSize := by
    rw [maxModelCalcSize_eq]
    norm_num
  -- the callbacks before the load
  have hrings : RingsTracked 48000 (Observed.start forwardsProcessor ⟨48000, 4096, 1⟩) := by
    have hstart := RingsTracked.start forwardsProcessor ⟨48000, 4096, 1⟩
    rwa [ProcessSpec.ringSize_ofNat] at hstart
  have htiming : (Observed.start forwardsProcessor ⟨48000, 4096, 1⟩).timing =
      .start .stopped false 48000 := by
    rw [Observed.timing_start rfl rfl, ProcessSpec.ringSize_ofNat]
    rfl
  obtain ⟨o, ho, hthread, hcallback, -⟩ := exec_sixCallbacks hrings htiming
  obtain ⟨s, hs, rfl, hloader, hspec, hstartUp, -⟩ := ModelRun.exec_audio
    (s := ModelRun.start forwardsProcessor ⟨48000, 4096, 1⟩) rfl ho
  -- the load
  have hnew : ModelSource.session Ort.twoModels s.inference.currentLevel (.external ()) =
      .ok false := rfl
  have hlast : s.inference.lastSpec = ⟨48000, 4096, 1⟩ := hspec
  have hkept : RingsTracked 48000 s.observed := (Transition.always_of_stepsMeet
    (C := fun _ _ => True) (fun _ _ _ h _ hs => RingsTracked.step h hs) hrings
    (Transition.stepsMeet_of_forall _ fun _ _ => trivial)).last ho
  obtain ⟨t, ht, hrings', htiming', hloader', hsuspended, hsession⟩ :=
    ModelRun.restarted_of_load (by rwa [ProcessSpec.ringSize_ofNat]) hlast hloader hcallback
      hthread hstartUp hnew rfl
  rw [ProcessSpec.ringSize_ofNat] at hrings' htiming'
  -- the callbacks after it
  obtain ⟨o', ho', -, -, hcallbacks⟩ := exec_sixCallbacks hrings' htiming'
  obtain ⟨u, hu, rfl, hnone, -, -, hsame⟩ := ModelRun.exec_audio hsuspended ho'
  refine ⟨⟨u, ?_, hnone.trans hloader', hsame.trans hsession, hcallbacks⟩,
    model_changes_in_step (c := 0) hmodel (rfl : _ = some true) rfl rfl rfl (by norm_num)
      (by norm_num) hmargin ?_⟩
  · rw [fileChange, Transition.exec_append_of_exec hs, Transition.exec_append_of_exec ht, hu]
  · refine (undisturbed_audio rfl (undisturbed_sixCallbacks hrings htiming)).append hs ?_
    refine Transition.StepsMeet.append (fun s' _ => ⟨hthread, undisturbed_loadSteps
      accepted_twoModels s'⟩) ht ?_
    exact undisturbed_audio hloader' (undisturbed_sixCallbacks hrings' htiming')
