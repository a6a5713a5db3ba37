import Scyclone.Onnx.LoadTermination

set_option relaxedAutoImplicit false
set_option autoImplicit false

/-!
# Jobs whose inference fails

`run` catches the exception of `session.Run` and goes on to deliver `onnxOutputData`, a vector
that lives as long as the thread does. A job whose inference fails delivers what the last
successful one has left there.

## Main definitions

* `Job`, `Logged`, `Logged.step` — a network in a host with a record of the jobs that have
  delivered. The runtime may behave differently at every step, so that any of the calls of
  `session.Run` may throw.
* `NeverReplays` — no job delivers what an earlier one has produced.
* `FailsOnlyBefore` — no call of `session.Run` throws after one that has succeeded.

## Main results

* `Hosted.step_onnxOutputData` — only a delivery writes to the output vector.
* `never_replays_iff` — jobs replay nothing exactly if none fails after a successful one.
-/

variable {F S File : Type} [FloatSample F]

/-! ## Jobs -/

omit [FloatSample F] in
/-- What `session.Run` returns for the block at hand. -/
def InferenceThread.runResult (ort : Ort F S File) (t : InferenceThread F S) :
    Except OrtException (ModelBlock F) :=
  match t.session with
  | some session => ort.run session t.onnxInputData
  | none => .error ⟨"no session"⟩

omit [FloatSample F] in
lemma InferenceThread.runResult_of_session (ort : Ort F S File) {t : InferenceThread F S}
    {session : S} (hs : t.session = some session) :
    t.runResult ort = ort.run session t.onnxInputData := by
  rw [runResult, hs]

omit [FloatSample F] in
/-- `run` delivers the result. -/
lemma InferenceThread.run_fst_of_result {ort : Ort F S File} {t : InferenceThread F S}
    {output : ModelBlock F} (h : t.runResult ort = .ok output) : (run ort t).1 = output := by
  unfold runResult at h
  cases hs : t.session with
  | none => simp [hs] at h
  | some session => exact run_fst_of_ok hs ((runResult_of_session ort hs).symm.trans h)

omit [FloatSample F] in
/-- After an exception `run` delivers what the output vector holds. -/
lemma InferenceThread.run_fst_of_exception {ort : Ort F S File} {t : InferenceThread F S}
    {e : OrtException} (h : t.runResult ort = .error e) : (run ort t).1 = t.onnxOutputData := by
  cases hs : t.session with
  | none => simp [run, hs]
  | some session =>
    rw [runResult_of_session ort hs] at h
    simp [run, hs, h]

/-- A job that has delivered. -/
structure Job (F : Type) where
  /-- The block handed to the model. -/
  input : ModelBlock F
  /-- What `session.Run` returned. -/
  result : Except OrtException (ModelBlock F)
  /-- The samples passed to `onNewProcessedBuffer`. -/
  delivered : List F

/-- A network in a host, with the jobs that have delivered, in order. -/
structure Logged (F S File : Type) where
  hosted : Hosted F S File
  jobs : List (Job F)

/-- The jobs after a step of the network from the state `s`. -/
def Hosted.record (ort : Ort F S File) (s : Hosted F S File) (jobs : List (Job F)) :
    HostedEvent F File → List (Job F)
  | .own (.audio .deliver) =>
    jobs ++
      [{ input := s.inference.onnxInputData
         result := s.inference.runResult ort
         delivered := List.ofFn (s.inference.run ort).1 }]
  | _ => jobs

/-- One step, with the runtime as it behaves at this step. -/
def Logged.step (l : Logged F S File) (e : Ort F S File × HostedEvent F File) :
    Option (Logged F S File) :=
  (l.hosted.step e.1 e.2).map fun hosted => ⟨hosted, l.hosted.record e.1 l.jobs e.2⟩

/-! ## The output vector -/

/-- A step of a callback or of the thread that is not a delivery leaves the output vector
alone.

**Proof sketch.** By the event: `deliver`, the only one that writes the vector, is excluded. -/
lemma Live.step_onnxOutputData {ort : Ort F S File} {s s' : Live F S} {e : AudioEvent F}
    (h : s.step ort e = some s') (he : e ≠ .deliver) :
    s'.proc.inferenceThread.onnxOutputData = s.proc.inferenceThread.onnxOutputData := by
  cases e with
  | sendAudio buffer =>
    cases hc : s.callback with
    | none =>
      simp only [Live.step, hc, Option.some.injEq] at h
      rw [← h]
      simp only [OnnxProcessor.sendAudio, InferenceThread.sendAudio_eq]
    | some b => simp [Live.step, hc] at h
  | processOutput =>
    cases hc : s.callback with
    | none => simp [Live.step, hc] at h
    | some buffer =>
      simp only [Live.step, hc, Option.some.injEq] at h
      rw [← h, OnnxProcessor.processOutput_eq]
  | deliver => exact absurd rfl he
  | threadEnd =>
    simp only [Live.step, Option.ite_none_right_eq_some, Option.some.injEq] at h
    rw [← h.2]
    rfl

/-- **Only a delivery writes to the output vector.**

**Proof sketch.** By the event; the callback and the stages of a load have their own lemmas, and the
other events do not touch the thread's data. -/
lemma Hosted.step_onnxOutputData {ort : Ort F S File} {s s' : Hosted F S File}
    {e : HostedEvent F File} (h : s.step ort e = some s') (he : e ≠ .own (.audio .deliver)) :
    s'.inference.onnxOutputData = s.inference.onnxOutputData := by
  cases e with
  | suspendProcessing shouldBeSuspended =>
    cases hc : s.network.live.callback with
    | none =>
      simp only [step, hc, Option.some.injEq] at h
      rw [← h]
    | some b => simp [step, hc] at h
  | own event =>
    simp only [step, Option.map_eq_some_iff] at h
    obtain ⟨r, hr, rfl⟩ := h
    cases event with
    | prepare spec =>
      cases hc : s.network.live.callback with
      | none =>
        simp only [Network.step, hc, Option.some.injEq] at hr
        rw [← hr]
        rfl
      | some b => simp [Network.step, hc] at hr
    | audio event =>
      simp only [Network.step, Option.ite_none_right_eq_some, Option.map_eq_some_iff] at hr
      obtain ⟨-, live, hlive, rfl⟩ := hr
      exact Live.step_onnxOutputData hlive fun heq => he (by rw [heq])
    | beginLoad source =>
      cases hload : s.network.loader <;> cases hc : s.network.live.callback <;>
        simp only [Network.step, hload, hc, Option.some.injEq, reduceCtorEq] at hr
      rw [← hr]
      rfl
    | loadStep =>
      simp only [Network.step, Option.map_eq_some_iff] at hr
      obtain ⟨load, hload, rfl⟩ := hr
      exact (Network.loadStep_effect ort s.suspended hload).onnxOutputData

/-- A delivery leaves in the output vector what it delivers. -/
lemma Hosted.step_deliver {ort : Ort F S File} {s s' : Hosted F S File}
    (h : s.step ort (.own (.audio .deliver)) = some s') :
    s'.inference.onnxOutputData = (s.inference.run ort).1 := by
  simp only [step, Network.step, Live.step, AudioEvent.allowed, if_true,
    Option.map_eq_some_iff] at h
  obtain ⟨r, ⟨live, hlive, rfl⟩, rfl⟩ := h
  split_ifs at hlive with ht
  obtain rfl := Option.some.inj hlive
  rfl

/-! ## Replays -/

/-- Every job delivers one block of samples: the output of the model for its own input if
`session.Run` succeeded, and never the output of an earlier job if it threw. -/
structure NeverReplays (jobs : List (Job F)) : Prop where
  /-- A whole block is delivered. -/
  length : ∀ job ∈ jobs, job.delivered.length = 16384
  /-- It is the output for the job's own input. -/
  own : ∀ job ∈ jobs, ∀ output, job.result = .ok output → job.delivered = List.ofFn output
  /-- It is not the output of an earlier job. -/
  fresh : jobs.Pairwise fun earlier job => ∀ e, job.result = .error e →
    ∀ output, earlier.result = .ok output → job.delivered ≠ List.ofFn output

/-- No call of `session.Run` throws after one that has succeeded. -/
def FailsOnlyBefore (jobs : List (Job F)) : Prop :=
  jobs.Pairwise fun earlier job => (∃ output, earlier.result = .ok output) →
    ∃ output, job.result = .ok output

omit [FloatSample F] in
/-- One more job that delivers what `run` does.

**Proof sketch.** The first two requirements are about each job on its own, and the third is about
pairs, of which the new job adds those with an earlier one. -/
lemma neverReplays_append {jobs : List (Job F)} {job : Job F}
    (hlength : job.delivered.length = 16384)
    (hown : ∀ output, job.result = .ok output → job.delivered = List.ofFn output) :
    NeverReplays (jobs ++ [job]) ↔ NeverReplays jobs ∧ ∀ earlier ∈ jobs, ∀ e,
      job.result = .error e → ∀ output, earlier.result = .ok output →
        job.delivered ≠ List.ofFn output := by
  constructor
  · intro h
    have hfresh := List.pairwise_append.mp h.fresh
    exact ⟨⟨fun j hj => h.length j (List.mem_append_left _ hj),
      fun j hj => h.own j (List.mem_append_left _ hj), hfresh.1⟩,
      fun earlier hmem => hfresh.2.2 earlier hmem job (List.mem_singleton_self job)⟩
  · rintro ⟨h, hnew⟩
    refine ⟨fun j hj => ?_, fun j hj => ?_, List.pairwise_append.mpr
      ⟨h.fresh, List.pairwise_singleton _ _, fun earlier hmem j hj => ?_⟩⟩
    · rcases List.mem_append.mp hj with hj | hj
      · exact h.length j hj
      · rw [List.mem_singleton.mp hj]
        exact hlength
    · rcases List.mem_append.mp hj with hj | hj
      · exact h.own j hj
      · rw [List.mem_singleton.mp hj]
        exact hown
    · rw [List.mem_singleton.mp hj]
      exact hnew earlier hmem

omit [FloatSample F] in
/-- One more job, which must not fail after a successful one. -/
lemma failsOnlyBefore_append {jobs : List (Job F)} {job : Job F} :
    FailsOnlyBefore (jobs ++ [job]) ↔ FailsOnlyBefore jobs ∧ ∀ earlier ∈ jobs,
      (∃ output, earlier.result = .ok output) → ∃ output, job.result = .ok output := by
  unfold FailsOnlyBefore
  simp only [List.pairwise_append, List.pairwise_singleton, true_and, List.mem_singleton,
    forall_eq]

/-- What a run keeps: after a success the output vector holds the output of one of the jobs, and
so far jobs have replayed nothing exactly if none failed after a success. -/
structure ReplayInvariant (l : Logged F S File) : Prop where
  held : (∃ job ∈ l.jobs, ∃ output, job.result = .ok output) →
    ∃ job ∈ l.jobs, job.result = .ok l.hosted.inference.onnxOutputData
  exact : NeverReplays l.jobs ↔ FailsOnlyBefore l.jobs

/-- **A delivery replays an earlier job exactly if its inference failed and one before it
succeeded.**

**Proof sketch.** Only a delivery appends to the jobs. A job that succeeded hands over its own
output, which the vector then holds; one that failed hands over the vector, which is the output of
an earlier job exactly if one before it succeeded. -/
lemma ReplayInvariant.step {l l' : Logged F S File} (h : ReplayInvariant l)
    {e : Ort F S File × HostedEvent F File} (hs : l.step e = some l') : ReplayInvariant l' := by
  obtain ⟨ort, event⟩ := e
  simp only [Logged.step, Option.map_eq_some_iff] at hs
  obtain ⟨hosted, hhosted, rfl⟩ := hs
  by_cases hdeliver : event = .own (.audio .deliver)
  · rw [hdeliver] at hhosted ⊢
    have hvector := Hosted.step_deliver hhosted
    set t := l.hosted.inference with ht
    set job : Job F := ⟨t.onnxInputData, t.runResult ort, List.ofFn (t.run ort).1⟩ with hjob
    have hlength : job.delivered.length = 16384 := by
      rw [hjob, List.length_ofFn, modelInputSize_eq]
    have hown : ∀ output, job.result = .ok output → job.delivered = List.ofFn output :=
      fun output hok => by rw [hjob, InferenceThread.run_fst_of_result hok]
    show ReplayInvariant ⟨hosted, l.jobs ++ [job]⟩
    cases hresult : t.runResult ort with
    | ok output =>
      refine ⟨fun _ => ⟨job, by simp, ?_⟩, ?_⟩
      · rw [hvector, InferenceThread.run_fst_of_result hresult]
        exact hresult
      · -- a successful job replays nothing and fails after none
        rw [neverReplays_append hlength hown, failsOnlyBefore_append, h.exact]
        refine and_congr_right fun _ => iff_of_true ?_ fun _ _ _ => ⟨output, hresult⟩
        intro earlier _ e herror
        rw [hjob, hresult] at herror
        cases herror
    | error e =>
      have hkept : hosted.inference.onnxOutputData = t.onnxOutputData :=
        hvector.trans (InferenceThread.run_fst_of_exception hresult)
      have hfailed : ¬ ∃ output, job.result = .ok output := by
        rintro ⟨output, hok⟩
        rw [hjob, hresult] at hok
        cases hok
      refine ⟨?_, ?_⟩
      · rintro ⟨earlier, hmem, output, hok⟩
        rcases List.mem_append.mp hmem with hmem | hmem
        · obtain ⟨source, hsource, hheld⟩ := h.held ⟨earlier, hmem, output, hok⟩
          exact ⟨source, List.mem_append_left _ hsource, by rw [hkept]; exact hheld⟩
        · rw [List.mem_singleton.mp hmem] at hok
          exact absurd ⟨output, hok⟩ hfailed
      · -- a failed job delivers the vector, which after a success is the output of a job
        rw [neverReplays_append hlength hown, failsOnlyBefore_append, h.exact]
        refine and_congr_right fun _ => ⟨fun hfresh earlier hmem hok => ?_,
          fun hnone earlier hmem _ _ output hok => ?_⟩
        · obtain ⟨output, houtput⟩ := hok
          obtain ⟨source, hsource, hheld⟩ := h.held ⟨earlier, hmem, output, houtput⟩
          refine absurd ?_ (hfresh source hsource e hresult t.onnxOutputData hheld)
          rw [hjob, InferenceThread.run_fst_of_exception hresult]
        · exact absurd (hnone earlier hmem ⟨output, hok⟩) hfailed
  · have hjobs : l.hosted.record ort l.jobs event = l.jobs := by
      unfold Hosted.record
      split
      · exact absurd rfl hdeliver
      · rfl
    have hvector := Hosted.step_onnxOutputData hhosted hdeliver
    rw [hjobs]
    refine ⟨fun hsuccess => ?_, h.exact⟩
    rw [hvector]
    exact h.held hsuccess

omit [FloatSample F] in
/-- Before the first job there is nothing to replay. -/
lemma ReplayInvariant.start (s : Hosted F S File) :
    ReplayInvariant (⟨s, []⟩ : Logged F S File) := by
  refine ⟨?_, iff_of_true ⟨?_, ?_, List.Pairwise.nil⟩ List.Pairwise.nil⟩
  · rintro ⟨job, hmem, -⟩
    exact absurd hmem List.not_mem_nil
  · exact fun job hmem => absurd hmem List.not_mem_nil
  · exact fun job hmem => absurd hmem List.not_mem_nil

/-- The invariant holds after any run. -/
lemma ReplayInvariant.exec {s : Hosted F S File} {t : Logged F S File}
    {es : List (Ort F S File × HostedEvent F File)}
    (hrun : Transition.exec Logged.step ⟨s, []⟩ es = some t) : ReplayInvariant t :=
  Transition.exec_invariant (fun _ _ _ h hs => ReplayInvariant.step h hs)
    (ReplayInvariant.start s) hrun

/-- A running thread delivers, and the job is recorded. -/
lemma Logged.step_deliver (ort : Ort F S File) {p : OnnxProcessor F S}
    (callback : Option (AudioBuffer F)) (jobs : List (Job F))
    (h : p.inferenceThread.thread = .running) :
    Logged.step ⟨⟨⟨⟨p, callback⟩, none⟩, false⟩, jobs⟩ (ort, .own (.audio .deliver)) =
      some ⟨⟨⟨⟨p.deliver ort, callback⟩, none⟩, false⟩,
        jobs ++ [⟨p.inferenceThread.onnxInputData, p.inferenceThread.runResult ort,
          List.ofFn (p.inferenceThread.run ort).1⟩]⟩ := by
  simp [Logged.step, Hosted.step, Network.step, Live.step, AudioEvent.allowed, Hosted.record, h]

/-- **When a failed inference replays nothing.** Whatever the runtime does at each step, the jobs
of a run deliver one block each and never the output of an earlier job if and only if no call of
`session.Run` throws after one that has succeeded.

**Proof sketch.** The exception is caught between the call that writes the output vector and the
loop that delivers it, and nothing but that call writes to the vector. So a failed job delivers
the output of the last successful one, if there is any. -/
theorem never_replays_iff {s : Hosted F S File} {t : Logged F S File}
    {es : List (Ort F S File × HostedEvent F File)}
    (hrun : Transition.exec Logged.step ⟨s, []⟩ es = some t) :
    NeverReplays t.jobs ↔ FailsOnlyBefore t.jobs := (ReplayInvariant.exec hrun).exact

/-! ## Runs of two jobs -/

/-- The runtime `Ort.passThrough` while its sessions cannot run. -/
def Ort.outOfMemory (F : Type) : Ort F Unit Unit :=
  { Ort.passThrough F with run := fun _ _ => .error ⟨"out of memory"⟩ }

/-- The input ring once the first block has been taken out of it.

**Proof sketch.** The rings are tracked through the call of `sendAudio`, which has taken one block
out of the input ring since it has started the inference. -/
lemma inFlight_ring : ∃ xs, xs.length = modelInputSize ∧
    inFlight.inferenceThread.receiveRingBuffer.Tracks 0 xs modelInputSize ∧
    inFlight.inferenceThread.receiveRingBuffer.period = 48000 := by
  set o := Observed.start (OnnxProcessor.passThrough ExactFloat) ⟨48000, 16384, 1⟩ with ho
  have hrings := RingsTracked.start (OnnxProcessor.passThrough ExactFloat) ⟨48000, 16384, 1⟩
  rw [ProcessSpec.ringSize_ofNat] at hrings
  obtain ⟨o', hs, -⟩ :=
    Observed.exists_step_sendAudio (Ort.passThrough ExactFloat) (o := o) ones rfl
  have hrings' := hrings.step hs
  obtain ⟨-, rfl⟩ := Observed.step_sendAudio hs
  have hstarts : o.inference.starts ones = true := by
    by_contra hno
    have hthread := InferenceThread.sendAudio_thread o.inference ones
    rw [if_neg hno] at hthread
    have hrunning : (o.inference.sendAudio ones).thread = .running := inFlight_running.1
    rw [hrunning] at hthread
    cases hthread
  refine ⟨ones.samples 0, ?_, ?_, hrings'.inputPeriod⟩
  · rw [ones, AudioBuffer.samples_ofList, List.length_replicate]
  · have hinput := hrings'.input
    simp only [hstarts, if_true] at hinput
    have hblocks : (o.history.blocks ++ [o.nextBlock ones]).length * modelInputSize =
        modelInputSize := Nat.one_mul _
    rwa [hblocks] at hinput

/-- A second block of ones starts the inference again, once the first one has ended. -/
lemma second_starts {p : OnnxProcessor ExactFloat Unit}
    (hring : p.inferenceThread.receiveRingBuffer = inFlight.inferenceThread.receiveRingBuffer)
    (hthread : p.inferenceThread.thread = .stopped)
    (hflag : p.inferenceThread.loadingModel = false) :
    (p.sendAudio ones).inferenceThread.thread = .running := by
  obtain ⟨xs, hlen, htracks, hperiod⟩ := inFlight_ring
  have hsamples : (ones.samples 0).length = modelInputSize := by
    rw [ones, AudioBuffer.samples_ofList, List.length_replicate]
  have hfed := htracks.pushSamples (ones.samples 0)
  rw [← hring] at hfed
  have havail : (p.inferenceThread.fedRing ones).getAvailableSamples 0 = modelInputSize := by
    rw [InferenceThread.fedRing, hfed.getAvailableSamples_of_lt, List.length_append, hlen,
      hsamples, Nat.add_sub_cancel]
    rw [RingBuffer.pushSamples_period, hring, hperiod, List.length_append, hlen, hsamples,
      Nat.add_sub_cancel, modelInputSize_eq]
    norm_num
  have hstarts : p.inferenceThread.starts ones = true :=
    (InferenceThread.starts_iff _ _).mpr ⟨hthread, havail.ge, hflag⟩
  have hrun := InferenceThread.sendAudio_thread p.inferenceThread ones
  rwa [if_pos hstarts] at hrun

/-- A first callback of 16384 samples. -/
def firstCallback : List (Ort ExactFloat Unit Unit × HostedEvent ExactFloat Unit) :=
  [.own (.prepare ⟨48000, 16384, 1⟩), .own (.audio (.sendAudio ones))].map
    (Prod.mk (.passThrough ExactFloat))

/-- The thread ends, and a second callback starts it again. -/
def secondCallback : List (Ort ExactFloat Unit Unit × HostedEvent ExactFloat Unit) :=
  [.own (.audio .threadEnd), .own (.audio .processOutput),
    .own (.audio (.sendAudio ones))].map (Prod.mk (.passThrough ExactFloat))

/-- A processor whose job has delivered and ended, and whose callback has ended. -/
def OnnxProcessor.finishJob (ort : Ort F S File) (p : OnnxProcessor F S) (buffer : AudioBuffer F) :
    OnnxProcessor F S :=
  ((p.deliver ort).endThread.processOutput buffer buffer.numSamples).1

/-- What the end of a job and of a callback leave alone. -/
lemma OnnxProcessor.finishJob_frame (ort : Ort F S File) (p : OnnxProcessor F S)
    (buffer : AudioBuffer F) :
    (p.finishJob ort buffer).inferenceThread.receiveRingBuffer =
        p.inferenceThread.receiveRingBuffer ∧
      (p.finishJob ort buffer).inferenceThread.thread = .stopped ∧
      (p.finishJob ort buffer).inferenceThread.loadingModel = p.inferenceThread.loadingModel ∧
      (p.finishJob ort buffer).inferenceThread.session = p.inferenceThread.session := by
  unfold finishJob
  rw [processOutput_eq]
  exact ⟨rfl, rfl, rfl, rfl⟩

/-- The processor when the second inference runs, with the runtime of the first one. -/
def secondInFlight (ort : Ort ExactFloat Unit Unit) : OnnxProcessor ExactFloat Unit :=
  (inFlight.finishJob ort ones).sendAudio ones

lemma secondInFlight_running (ort : Ort ExactFloat Unit Unit) :
    (secondInFlight ort).inferenceThread.thread = .running := by
  obtain ⟨hring, hthread, hflag, -⟩ := inFlight.finishJob_frame ort ones
  exact second_starts hring hthread
    (hflag.trans (InferenceThread.sendAudio_loadingModel _ _))

lemma secondInFlight_session (ort : Ort ExactFloat Unit Unit) :
    (secondInFlight ort).inferenceThread.session = some () :=
  (InferenceThread.sendAudio_session _ _).trans
    ((inFlight.finishJob_frame ort ones).2.2.2.trans inFlight_session)

lemma exec_firstCallback :
    Transition.exec Logged.step ⟨⟨⟨⟨.passThrough ExactFloat, none⟩, none⟩, false⟩, []⟩
      firstCallback = some ⟨⟨⟨⟨inFlight, some ones⟩, none⟩, false⟩, []⟩ := rfl

/-- A processor whose job has delivered goes on to the next callback. -/
lemma exec_secondCallback (ort : Ort ExactFloat Unit Unit) (p : OnnxProcessor ExactFloat Unit)
    (jobs : List (Job ExactFloat)) :
    Transition.exec Logged.step ⟨⟨⟨⟨p.deliver ort, some ones⟩, none⟩, false⟩, jobs⟩
      secondCallback =
        some ⟨⟨⟨⟨(p.finishJob ort ones).sendAudio ones, some ones⟩, none⟩, false⟩, jobs⟩ := rfl

/-- Two callbacks with a job each, which find the runtime as it is then. -/
lemma exec_twoJobs (first second : Ort ExactFloat Unit Unit) : ∃ t, Transition.exec Logged.step
      ⟨⟨⟨⟨.passThrough ExactFloat, none⟩, none⟩, false⟩, []⟩
      (firstCallback ++ ((first, .own (.audio .deliver)) ::
        (secondCallback ++ [(second, .own (.audio .deliver))]))) = some t ∧
    t.jobs.map Job.result =
      [first.run () inFlight.inferenceThread.onnxInputData,
        second.run () (secondInFlight first).inferenceThread.onnxInputData] := by
  have hdelivered := Transition.exec_append_of_exec exec_firstCallback
    ((first, .own (.audio .deliver)) ::
      (secondCallback ++ [(second, .own (.audio .deliver))]))
  rw [Transition.exec_cons_of_step (Logged.step_deliver _ _ _ inFlight_running.1)] at hdelivered
  have hrun := hdelivered.trans (Transition.exec_append_of_exec (exec_secondCallback _ _ _) _)
  rw [← secondInFlight,
    Transition.exec_cons_of_step (Logged.step_deliver _ _ _ (secondInFlight_running first)),
    Transition.exec_nil, List.nil_append, List.singleton_append] at hrun
  refine ⟨_, hrun, ?_⟩
  simp only [List.map_cons, List.map_nil,
    InferenceThread.runResult_of_session first inFlight_session,
    InferenceThread.runResult_of_session second (secondInFlight_session first)]

/-- The theorem at work: the first inference throws and the second one succeeds, so nothing is
replayed. -/
theorem never_replays_failed_first :
    ∃ t, Transition.exec Logged.step
        ⟨⟨⟨⟨.passThrough ExactFloat, none⟩, none⟩, false⟩, []⟩
        (firstCallback ++ ((.outOfMemory ExactFloat, .own (.audio .deliver)) ::
          (secondCallback ++ [(.passThrough ExactFloat, .own (.audio .deliver))]))) = some t ∧
      (∃ job ∈ t.jobs, ∃ e, job.result = .error e) ∧ NeverReplays t.jobs := by
  obtain ⟨t, hrun, hresults⟩ := exec_twoJobs (.outOfMemory ExactFloat) (.passThrough ExactFloat)
  obtain ⟨first, jobs, hjobs, hfirst, hrest⟩ := List.map_eq_cons_iff.mp hresults
  obtain ⟨second, last, rfl, hsecond, hlast⟩ := List.map_eq_cons_iff.mp hrest
  obtain rfl := List.map_eq_nil_iff.mp hlast
  refine ⟨t, hrun, ⟨first, by simp [hjobs], _, hfirst⟩, (never_replays_iff hrun).mpr ?_⟩
  rw [hjobs]
  exact List.pairwise_pair.mpr fun _ => ⟨_, hsecond⟩

/-- The first inference succeeds and the second one throws: its job delivers the output of the
first. -/
theorem failed_inference_replays :
    ∃ t, Transition.exec Logged.step
        ⟨⟨⟨⟨.passThrough ExactFloat, none⟩, none⟩, false⟩, []⟩
        (firstCallback ++ ((.passThrough ExactFloat, .own (.audio .deliver)) ::
          (secondCallback ++ [(.outOfMemory ExactFloat, .own (.audio .deliver))]))) = some t ∧
      ¬ NeverReplays t.jobs := by
  obtain ⟨t, hrun, hresults⟩ := exec_twoJobs (.passThrough ExactFloat) (.outOfMemory ExactFloat)
  obtain ⟨first, jobs, hjobs, hfirst, hrest⟩ := List.map_eq_cons_iff.mp hresults
  obtain ⟨second, last, rfl, hsecond, hlast⟩ := List.map_eq_cons_iff.mp hrest
  refine ⟨t, hrun, fun hnever => ?_⟩
  have hfails := (ReplayInvariant.exec hrun).exact.mp hnever
  rw [hjobs] at hfails
  obtain ⟨output, hok⟩ := List.rel_of_pairwise_cons hfails List.mem_cons_self ⟨_, hfirst⟩
  rw [hsecond] at hok
  cases hok
