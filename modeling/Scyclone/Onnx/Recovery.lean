import Scyclone.Lib.BatchServer
import Scyclone.Onnx.Latency

set_option relaxedAutoImplicit false
set_option autoImplicit false

/-!
# Recovery from a slow stretch

The inference thread may fall behind for a while: callbacks miss samples, the counter rises, and
whole blocks of input wait in the ring. Once the thread keeps up again the processor finds back
by itself. The blocks that wait are worked off, from then on no callback misses samples, and every
callback throws a block away until the counter is zero and the output is again delayed by the
reported latency, no more and no less.

As far as the blocks are concerned the processor is a `BatchServer`: the callbacks are the
arrivals, and a block handed to the model is a batch in service.

## Main definitions

* `Observed.server` — the server that a processor is.
* `recoveryBlocks` — the callbacks it takes to work off the samples that wait.
* `Recovering` — the state of a processor whose thread keeps up again.
* `Recovered` — what the log of the callbacks says of a recovery.

## Main results

* `server_step` — every step is a step of the server, or leaves it alone.
* `Recovering.step` — a timely step keeps the processor recovering.
* `recovers` — the recovery along whole runs.
-/

variable {F S File : Type} [FloatSample F]

/-! ## The server -/

/-- The samples sent that have not been handed to the model. -/
def Observed.backlog (o : Observed F S) : ℕ :=
  o.history.sent.length - o.history.blocks.length * modelInputSize

/-- The server: its arrivals are the callbacks that have begun. -/
def Observed.server (o : Observed F S) : BatchServer where
  backlog := o.backlog
  arrivals := o.begun
  started := if o.inference.thread = .stopped then none else some o.history.startedAt

/-- What a step is for the server. -/
def AudioEvent.serverEvent : AudioEvent F → Option BatchServer.Event
  | .sendAudio _ => some .arrive
  | .processOutput => none
  | .deliver => none
  | .threadEnd => some .finish

/-- The thread is started exactly by a callback that finds it stopped and completes a block, as
long as the input ring has room for the samples of the callback. -/
lemma starts_iff_backlog {period blockSize : ℕ} {o : Observed F S}
    (hrings : RingsTracked period o) (hloading : o.inference.loadingModel = false)
    {buffer : AudioBuffer F} (hsize : buffer.numSamples = blockSize)
    (hroom : NoOverrun period o (.sendAudio buffer)) :
    o.inference.starts buffer = true ↔
      o.inference.thread = .stopped ∧ modelInputSize ≤ o.backlog + blockSize := by
  have hper : (o.inference.fedRing buffer).period = period := by
    simp [InferenceThread.fedRing, hrings.inputPeriod]
  have hle := hrings.input.popped_le
  simp only [NoOverrun, hsize] at hroom
  have havail := (hrings.fedRing buffer).getAvailableSamples_of_lt (by
    rw [hper, List.length_append, AudioBuffer.length_samples, hsize]
    omega)
  rw [InferenceThread.starts_iff, havail, List.length_append, AudioBuffer.length_samples, hsize]
  unfold Observed.backlog
  simp only [hloading, and_true]
  refine and_congr_right fun _ => ?_
  omega

/-- The beginning of a callback is an arrival.

**Proof sketch.** Both take a batch under the same condition, a stopped thread and enough samples
with those of this callback; then the fields are compared. -/
lemma server_sendAudio {ort : Ort F S File} {period blockSize : ℕ} {o o' : Observed F S}
    (hrings : RingsTracked period o) (hloading : o.inference.loadingModel = false)
    {buffer : AudioBuffer F} (hsize : buffer.numSamples = blockSize)
    (hroom : NoOverrun period o (.sendAudio buffer))
    (hs : o.step ort (.sendAudio buffer) = some o') :
    o.server.step blockSize modelInputSize .arrive = some o'.server := by
  obtain ⟨hc, rfl⟩ := Observed.step_sendAudio hs
  have hiff := starts_iff_backlog hrings hloading hsize hroom
  have hle := hrings.input.popped_le
  have hthread : (o.proc.sendAudio buffer).inferenceThread.thread =
      if o.inference.starts buffer then .running else o.inference.thread :=
    InferenceThread.sendAudio_thread _ _
  cases hst : o.inference.starts buffer with
  | true =>
    obtain ⟨hstopped, hbatch⟩ := hiff.mp hst
    rw [BatchServer.step_arrive_of_taken (by simp [Observed.server, hstopped]) hbatch]
    simp only [Observed.server, Observed.backlog, Observed.begun, Observed.inference, hthread,
      hst, hc, if_true, List.length_append, AudioBuffer.length_samples, hsize,
      List.length_singleton, Option.isSome_none, Option.isSome_some, Bool.false_eq_true,
      if_false, Nat.add_zero, reduceCtorEq, Nat.succ_mul]
    congr 2
    omega
  | false =>
    have hwait : ¬ (o.server.started = none ∧
        modelInputSize ≤ o.server.backlog + blockSize) := by
      rintro ⟨hnone, hbatch⟩
      have hstopped : o.inference.thread = .stopped := by
        by_contra hne
        simp [Observed.server, hne] at hnone
      rw [hiff.mpr ⟨hstopped, hbatch⟩] at hst
      cases hst
    rw [BatchServer.step_arrive_of_waiting hwait]
    simp only [Observed.server, Observed.backlog, Observed.begun, Observed.inference, hthread,
      hst, hc, if_true, List.length_append, AudioBuffer.length_samples, hsize,
      Option.isSome_none, Option.isSome_some, Bool.false_eq_true, if_false, Nat.add_zero]
    congr 2
    omega

/-- **Every step is a step of the server, or leaves it alone.**

**Proof sketch.** By the event. `sendAudio` is `server_sendAudio`. The end of a callback serves
samples, a delivery frees the backlog and the end of the thread frees the server; each changes the
two or three fields that the server's own step changes. -/
theorem server_step {ort : Ort F S File} {period blockSize : ℕ} {o o' : Observed F S}
    (hrings : RingsTracked period o) (hloading : o.inference.loadingModel = false)
    {e : AudioEvent F} (he : e.HasSize blockSize) (hroom : NoOverrun period o e)
    (hs : o.step ort e = some o') :
    match e.serverEvent with
    | some event => o.server.step blockSize modelInputSize event = some o'.server
    | none => o'.server = o.server := by
  cases e with
  | sendAudio buffer => exact server_sendAudio hrings hloading he hroom hs
  | processOutput =>
    obtain ⟨buffer, hc, rfl⟩ := Observed.step_processOutput hs
    have hthread : (o.proc.processOutput buffer buffer.numSamples).1.inferenceThread =
        o.inference := by rw [OnnxProcessor.processOutput_eq]
    simp only [AudioEvent.serverEvent, Observed.server, Observed.backlog, Observed.begun,
      Observed.inference, hthread, hc, List.length_append, List.length_singleton,
      Option.isSome_none, Option.isSome_some, Bool.false_eq_true, if_false, if_true, Nat.add_zero]
  | deliver =>
    obtain ⟨ht, rfl⟩ := Observed.step_deliver hs
    simp [AudioEvent.serverEvent, Observed.server, Observed.backlog, Observed.begun, ht,
      OnnxProcessor.deliver, OnnxProcessor.onNewProcessedBuffer]
  | threadEnd =>
    obtain ⟨ht, rfl⟩ := Observed.step_threadEnd hs
    simp [AudioEvent.serverEvent, Observed.server, BatchServer.step, ht, Observed.backlog,
      Observed.begun, OnnxProcessor.endThread]

/-! ## A run at any speed -/

/-- What holds along a run without overruns, however slow the inference thread is. -/
structure Serving (session : S) (model : ModelBlock F → ModelBlock F) (period blockSize : ℕ)
    (o : Observed F S) : Prop where
  kept : Compensated session model period blockSize o
  room : o.history.delivered.length < o.history.popped.length + period
  loading : o.inference.loadingModel = false
  started : o.inference.thread ≠ .stopped → o.history.startedAt < o.begun

namespace Serving

variable {ort : Ort F S File} {o o' : Observed F S} {session : S}
  {model : ModelBlock F → ModelBlock F} {period c blockSize : ℕ}

lemma start {p : OnnxProcessor F S} (hs : p.inferenceThread.session = some session)
    (ht : p.inferenceThread.thread = .stopped) (hl : p.inferenceThread.loadingModel = false)
    (spec : ProcessSpec) (blockSize : ℕ) :
    Serving session model (max spec.ringSize 1) blockSize (Observed.start p spec) where
  kept := Compensated.start hs (by simp [ht]) spec blockSize
  room := by simp [Observed.start]
  loading := hl
  started h := absurd ht h

/-- Every step that fills no ring keeps the processor serving.

**Proof sketch.** The counts of samples have their own invariant. Only a delivery adds to the output
ring, within the room it found, and only a `sendAudio` starts a job, in the callback that has begun.
-/
lemma step (hmodel : ∀ block, ort.run session block = .ok (model block)) (hpos : 0 < blockSize)
    (h : Serving session model period blockSize o) {e : AudioEvent F}
    (he : e.HasSize blockSize) (hroom : NoOverrun period o e) (hs : o.step ort e = some o') :
    Serving session model period blockSize o' := by
  have hlive : o.live.step ort e = some o'.live := by
    rw [Observed.step, Option.map_eq_some_iff] at hs
    obtain ⟨live, hlive, rfl⟩ := hs
    exact hlive
  have hframe := Live.step_frame hlive
  have hbefore := h.room
  have hstarted := h.started
  refine ⟨h.kept.step hmodel hpos he hroom hs, ?_, hframe.2.trans h.loading, ?_⟩
  · cases e with
    | sendAudio buffer =>
      obtain ⟨-, rfl⟩ := Observed.step_sendAudio hs
      exact hbefore
    | processOutput =>
      obtain ⟨buffer, -, rfl⟩ := Observed.step_processOutput hs
      simp only [List.length_append]
      omega
    | deliver =>
      obtain ⟨-, rfl⟩ := Observed.step_deliver hs
      simp only [NoOverrun] at hroom
      simp only [List.length_append, List.length_ofFn]
      exact hroom
    | threadEnd =>
      obtain ⟨-, rfl⟩ := Observed.step_threadEnd hs
      exact hbefore
  · cases e with
    | sendAudio buffer =>
      obtain ⟨hc, rfl⟩ := Observed.step_sendAudio hs
      simp only [Observed.begun, hc, Option.isSome_none, Bool.false_eq_true, if_false,
        Nat.add_zero] at hstarted
      simp only [Observed.begun, Observed.inference, OnnxProcessor.sendAudio,
        InferenceThread.sendAudio_thread, Option.isSome_some, if_true]
      split_ifs with hst
      · exact fun _ => Nat.lt_succ_self _
      · exact fun hne => Nat.lt_succ_of_lt (hstarted hne)
    | processOutput =>
      obtain ⟨buffer, hc, rfl⟩ := Observed.step_processOutput hs
      simp only [Observed.begun, hc, Option.isSome_some, if_true] at hstarted
      simpa only [Observed.begun, Observed.inference, OnnxProcessor.processOutput_eq,
        List.length_append, List.length_singleton, Option.isSome_none, Bool.false_eq_true,
        if_false, Nat.add_zero] using hstarted
    | deliver =>
      obtain ⟨ht, rfl⟩ := Observed.step_deliver hs
      exact fun _ => hstarted (by simp [ht])
    | threadEnd =>
      obtain ⟨-, rfl⟩ := Observed.step_threadEnd hs
      exact fun hne => absurd rfl hne

end Serving

/-! ## A run that is prompt again -/

/-- The inference in flight was started at most `c` callbacks before the last one. -/
def Observed.Punctual (c : ℕ) (o : Observed F S) : Prop :=
  o.inference.thread ≠ .stopped → o.history.callbacks.length ≤ o.history.startedAt + c

omit [FloatSample F] in
/-- At most one callback is in progress. -/
lemma Observed.begun_le (o : Observed F S) : o.begun ≤ o.history.callbacks.length + 1 := by
  unfold Observed.begun
  split_ifs <;> omega

omit [FloatSample F] in
lemma Observed.length_callbacks_le (o : Observed F S) : o.history.callbacks.length ≤ o.begun :=
  Nat.le_add_right _ _

/-- Every timely step leaves the inference in flight punctual.

**Proof sketch.** An inference that begins is punctual at once. The end of a callback is where its
age grows, and there the step's own timeliness is the claim. -/
lemma Observed.Punctual.step {ort : Ort F S File} {c : ℕ} {o o' : Observed F S}
    (h : o.Punctual c) {e : AudioEvent F} (htimely : Timely c o e)
    (hs : o.step ort e = some o') : o'.Punctual c := by
  cases e with
  | sendAudio buffer =>
    obtain ⟨-, rfl⟩ := Observed.step_sendAudio hs
    simp only [Observed.Punctual, Observed.inference, OnnxProcessor.sendAudio,
      InferenceThread.sendAudio_thread]
    split_ifs with hst
    · exact fun _ => Nat.le_add_right _ _
    · exact h
  | processOutput =>
    obtain ⟨buffer, -, rfl⟩ := Observed.step_processOutput hs
    simp only [Observed.Punctual, Observed.inference, OnnxProcessor.processOutput_eq,
      List.length_append, List.length_singleton]
    exact htimely
  | deliver =>
    obtain ⟨ht, rfl⟩ := Observed.step_deliver hs
    exact fun _ => h (by simp [ht])
  | threadEnd =>
    obtain ⟨-, rfl⟩ := Observed.step_threadEnd hs
    exact fun hne => absurd rfl hne

/-- A whole batch has room for two blocks of each callback that an inference may take. -/
lemma server_margin {c blockSize : ℕ} (h : (c + 1) * blockSize ≤ maxModelCalcSize) :
    2 * ((c + 1) * blockSize) ≤ modelInputSize := by
  rw [maxModelCalcSize_eq] at h
  rw [modelInputSize_eq]
  omega

namespace Serving

variable {ort : Ort F S File} {o o' : Observed F S} {session : S}
  {model : ModelBlock F → ModelBlock F} {period c blockSize : ℕ}

/-- The server of a punctual processor is in time. -/
lemma inTime (h : Serving session model period blockSize o) (hp : o.Punctual c) :
    o.server.InTime c := by
  intro n hn
  have hle := o.begun_le
  by_cases ht : o.inference.thread = .stopped
  · simp [Observed.server, ht] at hn
  · simp only [Observed.server, ht, if_false, Option.mem_def, Option.some.injEq] at hn
    subst hn
    have hpunctual := hp ht
    exact ⟨h.started ht, by simp only [Observed.server]; omega⟩

omit [FloatSample F] in
/-- A callback that begins finds the server prompt. -/
lemma prompt (hp : o.Punctual c) (hc : o.live.callback = none) (e : BatchServer.Event) :
    o.server.Prompt c e := by
  intro _ n hn
  by_cases ht : o.inference.thread = .stopped
  · simp [Observed.server, ht] at hn
  · simp only [Observed.server, ht, if_false, Option.mem_def, Option.some.injEq] at hn
    subst hn
    simpa [Observed.server, Observed.begun, hc] using hp ht

/-- **Every step of a punctual processor keeps its server catching up.** -/
theorem step_server (h : Serving session model period blockSize o) (hp : o.Punctual c)
    (hmargin : (c + 1) * blockSize ≤ maxModelCalcSize) {bound : ℕ}
    (hserver : o.server.CatchingUp blockSize modelInputSize c bound) {e : AudioEvent F}
    (he : e.HasSize blockSize) (hroom : NoOverrun period o e) (hs : o.step ort e = some o') :
    o'.server.CatchingUp blockSize modelInputSize c bound := by
  have hstep := server_step h.kept.input.rings h.loading he hroom hs
  cases e with
  | sendAudio buffer =>
    obtain ⟨hc, -⟩ := Observed.step_sendAudio hs
    exact hserver.step (server_margin hmargin) (h.inTime hp) (prompt hp hc _) hstep
  | processOutput =>
    rw [show o'.server = o.server from hstep]
    exact hserver
  | deliver =>
    rw [show o'.server = o.server from hstep]
    exact hserver
  | threadEnd =>
    exact hserver.step (e := .finish) (server_margin hmargin) (h.inTime hp) nofun hstep

/-- The counter as a number of blocks. -/
lemma counter_eq (h : Serving session model period blockSize o) :
    o.proc.inferenceCounter = (o.proc.inferenceCounter.toNat : ℤ) :=
  (Int.toNat_of_nonneg h.kept.count.nonneg).symm

/-- During `init` the counter is zero. -/
lemma counter_eq_zero (h : Serving session model period blockSize o) (hpos : 0 < blockSize)
    (hinit : o.history.callbacks.length ≤ latencyBlocks blockSize) :
    o.proc.inferenceCounter = 0 := by
  have hnonneg := h.kept.count.nonneg
  have hpopped := h.kept.count.popped
  rw [Nat.sub_eq_zero_of_le hinit, Nat.cast_zero, zero_sub, neg_mul] at hpopped
  have hmul : o.proc.inferenceCounter * (blockSize : ℤ) ≤ 0 := by omega
  have hle := nonpos_of_mul_nonpos_left hmul (by exact_mod_cast hpos)
  omega

/-- **The samples that a server has caught up with.** Once `init` is over, there are the samples of
the callback that ends and of every block that the output is behind.

**Proof sketch.** As many samples have been sent as callbacks have begun, and all but the backlog
and the block in service have been delivered. The latency of a block and the samples of `c + 1`
callbacks is more than these two together. -/
lemma samples_there (h : Serving session model period blockSize o) (hpos : 0 < blockSize)
    (hmargin : (c + 1) * blockSize ≤ maxModelCalcSize)
    (hcaught : o.server.CaughtUp blockSize modelInputSize) {buffer : AudioBuffer F}
    (hc : o.live.callback = some buffer) (htimely : Timely c o .processOutput)
    (hinit : latencyBlocks blockSize ≤ o.history.callbacks.length) :
    o.history.popped.length + (o.proc.inferenceCounter.toNat + 1) * blockSize ≤
      o.history.delivered.length := by
  have hlat := le_latencyBlocks_mul hpos
  have hsent := h.kept.pace.sent
  have hpopped := h.kept.count.popped
  have hdelivered := h.kept.provenance.length_delivered
  have hbacklog : o.history.sent.length =
      o.history.blocks.length * modelInputSize + o.backlog := by
    have := h.kept.input.rings.input.popped_le
    unfold Observed.backlog
    omega
  have hbegun : o.begun = o.history.callbacks.length + 1 := by simp [Observed.begun, hc]
  rw [hbegun] at hsent
  obtain ⟨d, hd⟩ := Nat.exists_eq_add_of_le hinit
  -- the samples popped and those asked for, as whole blocks since `init`
  have hasked : o.history.popped.length + (o.proc.inferenceCounter.toNat + 1) * blockSize =
      (d + 1) * blockSize := by
    rw [hd, Nat.add_sub_cancel_left, h.counter_eq] at hpopped
    have : ((o.history.popped.length +
        (o.proc.inferenceCounter.toNat + 1) * blockSize : ℕ) : ℤ) = ((d + 1) * blockSize : ℕ) := by
      push_cast
      rw [hpopped]
      ring
    exact_mod_cast this
  have hsplit : (o.history.callbacks.length + 1) * blockSize =
      latencyBlocks blockSize * blockSize + (d + 1) * blockSize := by
    rw [hd]
    ring
  have hblock : blockSize ≤ (c + 1) * blockSize := Nat.le_mul_of_pos_left _ (Nat.succ_pos c)
  rw [hasked]
  by_cases ht : o.inference.thread = .stopped
  · have hwait : o.backlog < modelInputSize := by
      simpa [BatchServer.CaughtUp, Observed.server, ht] using hcaught
    rw [if_neg (by simp [ht])] at hdelivered
    omega
  · have hwait : o.backlog < (o.begun - o.history.startedAt) * blockSize := by
      simpa [BatchServer.CaughtUp, Observed.server, ht] using hcaught
    have hfew : o.begun - o.history.startedAt ≤ c := by
      have := htimely ht
      omega
    have hmul := Nat.mul_le_mul_right blockSize hfew
    have hmost : o.history.blocks.length * modelInputSize ≤
        o.history.delivered.length + modelInputSize := by
      rw [hdelivered]
      split_ifs
      · rw [Nat.sub_mul]
        omega
      · omega
    rw [Nat.succ_mul] at hmargin
    omega

/-- **A callback of a server that has caught up does not miss samples, and takes the counter down
by one.**

**Proof sketch.** During `init` the counter is zero. Afterwards the samples needed have been
delivered, those that the counter owes included, so samples of the model are popped, and a block is
discarded where the counter is not zero. -/
lemma outputBranch_eq (h : Serving session model period blockSize o) (hpos : 0 < blockSize)
    (hmargin : (c + 1) * blockSize ≤ maxModelCalcSize)
    (hcaught : o.server.CaughtUp blockSize modelInputSize) {buffer : AudioBuffer F}
    (hc : o.live.callback = some buffer) (htimely : Timely c o .processOutput) :
    o.proc.outputBranch blockSize =
        (if o.history.callbacks.length < latencyBlocks blockSize then .initialising
        else .modelSamples) ∧
      o.proc.counterAfter blockSize = (o.proc.inferenceCounter.toNat - 1 : ℕ) := by
  have hinit := h.kept.pace.init_iff hpos hc
  by_cases hlt : o.history.callbacks.length < latencyBlocks blockSize
  · have hbranch : o.proc.outputBranch blockSize = .initialising :=
      OnnxProcessor.outputBranch_eq_initialising.mpr (hinit.mpr hlt)
    have hzero := h.counter_eq_zero hpos hlt.le
    refine ⟨by rw [hbranch, if_pos hlt], ?_⟩
    unfold OnnxProcessor.counterAfter
    rw [hbranch, hzero]
    rfl
  · have hthere := h.samples_there hpos hmargin hcaught hc htimely (Nat.not_lt.mp hlt)
    have hroom := h.room
    have havail := h.kept.input.rings.output.getAvailableSamples_of_lt (by
      rw [h.kept.input.rings.outputPeriod]
      omega)
    rw [Nat.succ_mul] at hthere
    have hbranch : o.proc.outputBranch blockSize = .modelSamples := by
      refine OnnxProcessor.outputBranch_eq_modelSamples.mpr ⟨?_, by rw [havail]; omega⟩
      exact Bool.eq_false_iff.mpr fun hi => hlt (hinit.mp hi)
    refine ⟨by rw [hbranch, if_neg hlt], ?_⟩
    unfold OnnxProcessor.counterAfter OnnxProcessor.discards
    rw [hbranch, havail]
    obtain ⟨k, hk⟩ := Int.eq_ofNat_of_zero_le h.kept.count.nonneg
    rw [hk, Int.toNat_natCast] at hthere
    rw [hk, Int.toNat_natCast]
    cases k with
    | zero => rfl
    | succ k =>
      rw [Nat.succ_mul] at hthere
      have hblocks : o.history.delivered.length - o.history.popped.length ≥ 2 * blockSize := by
        omega
      simp [hblocks]

end Serving

/-! ## Recovering -/

/-- The callbacks that it takes to work off the samples that wait for the model. -/
def recoveryBlocks (c blockSize : ℕ) (o : Observed F S) : ℕ := o.backlog / blockSize + c + 1

/-- What the counter is at most, `j` callbacks after it was `k`: it rises by one with each of the
first `n` callbacks and then falls by one with each. -/
def counterBound (k n j : ℕ) : ℕ := k + min j n - (j - n)

/-- The state of a processor whose inference thread keeps up again, since the state `o₀`. -/
structure Recovering (session : S) (model : ModelBlock F → ModelBlock F)
    (period c blockSize : ℕ) (o₀ o : Observed F S) : Prop where
  serving : Serving session model period blockSize o
  punctual : o.Punctual c
  server : o.server.CatchingUp blockSize modelInputSize c (o₀.server.potential blockSize c)
  later : o₀.history.callbacks.length ≤ o.history.callbacks.length
  counter : o.proc.inferenceCounter.toNat ≤
    counterBound o₀.proc.inferenceCounter.toNat (recoveryBlocks c blockSize o₀)
      (o.history.callbacks.length - o₀.history.callbacks.length)
  log : ∀ m (hm : m < o.history.callbacks.length),
    o₀.history.callbacks.length + recoveryBlocks c blockSize o₀ ≤ m →
      o.history.callbacks[m].branch =
          (if m < latencyBlocks blockSize then .initialising else .modelSamples) ∧
        ∃ k ≤ counterBound o₀.proc.inferenceCounter.toNat (recoveryBlocks c blockSize o₀)
            (m + 1 - o₀.history.callbacks.length), o.history.callbacks[m].counter = (k : ℕ)

namespace Recovering

variable {ort : Ort F S File} {o₀ o o' : Observed F S} {session : S}
  {model : ModelBlock F → ModelBlock F} {period c blockSize : ℕ}

lemma start (h : Serving session model period blockSize o₀) (hp : o₀.Punctual c) :
    Recovering session model period c blockSize o₀ o₀ where
  serving := h
  punctual := hp
  server := Or.inr le_rfl
  later := le_rfl
  counter := by simp [counterBound]
  log m hm hle := by omega

/-- **The samples that waited are worked off** after `recoveryBlocks` callbacks. -/
lemma caughtUp (h : Recovering session model period c blockSize o₀ o)
    (h₀ : o₀.server.InTime c) (hpos : 0 < blockSize)
    (hmargin : (c + 1) * blockSize ≤ maxModelCalcSize)
    (hlate : o₀.history.callbacks.length + recoveryBlocks c blockSize o₀ ≤
      o.history.callbacks.length) : o.server.CaughtUp blockSize modelInputSize := by
  refine h.server.caughtUp (server_margin hmargin) h₀ ?_
  have hdiv := Nat.lt_div_mul_add hpos (a := o₀.backlog)
  have hbegun : o₀.begun + (recoveryBlocks c blockSize o₀) ≤ o.begun + 1 := by
    have := o₀.begun_le
    have := o.length_callbacks_le
    omega
  have hmul := Nat.mul_le_mul_right blockSize hbegun
  have hsplit : (o₀.begun + recoveryBlocks c blockSize o₀) * blockSize =
      (o₀.begun + c) * blockSize + (o₀.backlog / blockSize * blockSize + blockSize) := by
    unfold recoveryBlocks
    ring
  simp only [Observed.server]
  omega

/-- **A callback that ends in time keeps the processor recovering.**

**Proof sketch.** Before the server has caught up the counter rises by at most one; afterwards it
falls by one in each callback, which is logged in the branch of `outputBranch_eq`. -/
lemma step_processOutput (h : Recovering session model period c blockSize o₀ o)
    (h₀ : o₀.server.InTime c)
    (hmodel : ∀ block, ort.run session block = .ok (model block)) (hpos : 0 < blockSize)
    (hmargin : (c + 1) * blockSize ≤ maxModelCalcSize)
    (htimely : Timely c o .processOutput) (hs : o.step ort .processOutput = some o') :
    Recovering session model period c blockSize o₀ o' := by
  have hserving := h.serving.step hmodel hpos (e := .processOutput) trivial trivial hs
  have hserver := h.serving.step_server h.punctual hmargin h.server (e := .processOutput)
    trivial trivial hs
  have hpunctual := h.punctual.step htimely hs
  obtain ⟨buffer, hc, rfl⟩ := Observed.step_processOutput hs
  have hsize := h.serving.kept.pace.size buffer hc
  have hlater := h.later
  have hcounter := h.counter
  -- the callback misses samples only while the server has not caught up
  have hmoved : (o.proc.counterAfter blockSize).toNat ≤
      counterBound o₀.proc.inferenceCounter.toNat (recoveryBlocks c blockSize o₀)
        (o.history.callbacks.length + 1 - o₀.history.callbacks.length) := by
    unfold counterBound at hcounter ⊢
    by_cases hlate : o₀.history.callbacks.length + recoveryBlocks c blockSize o₀ ≤
        o.history.callbacks.length
    · have hafter := (h.serving.outputBranch_eq hpos hmargin (h.caughtUp h₀ hpos hmargin hlate)
        hc htimely).2
      rw [hafter, Int.toNat_natCast]
      omega
    · have hrise : o.proc.counterAfter blockSize ≤ o.proc.inferenceCounter + 1 := by
        unfold OnnxProcessor.counterAfter
        split
        · omega
        · split_ifs <;> omega
        · exact le_rfl
      omega
  refine ⟨hserving, hpunctual, hserver, ?_, ?_, ?_⟩
  · simp only [List.length_append, List.length_singleton]
    omega
  · simpa only [Observed.proc, OnnxProcessor.processOutput_eq, hsize, List.length_append,
      List.length_singleton] using hmoved
  · intro m hm hlate
    simp only [List.length_append, List.length_singleton] at hm
    rcases Nat.lt_succ_iff_lt_or_eq.mp hm with hlt | rfl
    · rw [List.getElem_append_left hlt]
      exact h.log m hlt hlate
    · rw [List.getElem_concat_length rfl]
      simp only [hsize]
      obtain ⟨hbranch, hafter⟩ := h.serving.outputBranch_eq hpos hmargin
        (h.caughtUp h₀ hpos hmargin hlate) hc htimely
      rw [hafter, Int.toNat_natCast] at hmoved
      exact ⟨hbranch, _, hmoved, hafter⟩

/-- **Every timely step that fills no ring keeps the processor recovering.** -/
theorem step (h : Recovering session model period c blockSize o₀ o) (h₀ : o₀.server.InTime c)
    (hmodel : ∀ block, ort.run session block = .ok (model block)) (hpos : 0 < blockSize)
    (hmargin : (c + 1) * blockSize ≤ maxModelCalcSize) {e : AudioEvent F}
    (he : e.HasSize blockSize) (hroom : NoOverrun period o e) (htimely : Timely c o e)
    (hs : o.step ort e = some o') : Recovering session model period c blockSize o₀ o' := by
  have hserving := h.serving.step hmodel hpos he hroom hs
  have hserver := h.serving.step_server h.punctual hmargin h.server he hroom hs
  have hpunctual := h.punctual.step htimely hs
  cases e with
  | sendAudio buffer =>
    obtain ⟨-, rfl⟩ := Observed.step_sendAudio hs
    exact ⟨hserving, hpunctual, hserver, h.later, h.counter, h.log⟩
  | processOutput => exact h.step_processOutput h₀ hmodel hpos hmargin htimely hs
  | deliver =>
    obtain ⟨-, rfl⟩ := Observed.step_deliver hs
    exact ⟨hserving, hpunctual, hserver, h.later, h.counter, h.log⟩
  | threadEnd =>
    obtain ⟨-, rfl⟩ := Observed.step_threadEnd hs
    exact ⟨hserving, hpunctual, hserver, h.later, h.counter, h.log⟩

end Recovering

/-! ## Whole runs -/

/-- What the log says of a recovery: from callback `served` on none misses samples, and from
callback `aligned` on the counter is zero and the output is that of the model, delayed by the
reported latency. -/
structure Recovered (model : ModelBlock F → ModelBlock F) (blockSize served aligned : ℕ)
    (o : Observed F S) : Prop where
  served : ∀ m (hm : m < o.history.callbacks.length), served ≤ m →
    o.history.callbacks[m].branch =
      if m < latencyBlocks blockSize then .initialising else .modelSamples
  counter : ∀ m (hm : m < o.history.callbacks.length), aligned ≤ m →
    o.history.callbacks[m].counter = 0
  output : ∀ m (hm : m < o.history.callbacks.length), aligned ≤ m →
    latencyBlocks blockSize ≤ m →
      (m - latencyBlocks blockSize + 1) * blockSize ≤
          (modelOutput model o.history.sent).length ∧
        o.history.callbacks[m].output =
          (modelOutput model o.history.sent).slice ((m - latencyBlocks blockSize) * blockSize)
            blockSize

/-- The log of a processor that is recovering.

**Proof sketch.** The log of a recovering processor bounds the counter in each callback. Twice the
recovery time after the start the bound leaves 0 only, and with the counter at 0 the alignment of
the kept output is the latency itself. -/
lemma Recovering.recovered {o₀ o : Observed F S} {session : S}
    {model : ModelBlock F → ModelBlock F} {period c blockSize : ℕ}
    (h : Recovering session model period c blockSize o₀ o) :
    Recovered model blockSize (o₀.history.callbacks.length + recoveryBlocks c blockSize o₀)
      (o₀.history.callbacks.length + 2 * recoveryBlocks c blockSize o₀ +
        o₀.proc.inferenceCounter.toNat) o := by
  have hzero : ∀ m (hm : m < o.history.callbacks.length),
      o₀.history.callbacks.length + 2 * recoveryBlocks c blockSize o₀ +
        o₀.proc.inferenceCounter.toNat ≤ m → o.history.callbacks[m].counter = 0 := by
    intro m hm hle
    obtain ⟨k, hk, hcounter⟩ := (h.log m hm (by omega)).2
    have : k = 0 := by
      unfold counterBound at hk
      omega
    rw [hcounter, this]
    rfl
  refine ⟨fun m hm hle => (h.log m hm hle).1, hzero, fun m hm hle hinit => ?_⟩
  have hbranch := (h.log m hm (by omega)).1
  rw [if_neg (Nat.not_lt.mpr hinit)] at hbranch
  obtain ⟨q, hq, hlength, hout⟩ := h.serving.kept.aligned.aligned m hm hbranch
  rw [hzero m hm hle] at hq
  obtain rfl : q = m - latencyBlocks blockSize := by omega
  exact ⟨hlength, hout⟩

/-- **The processor recovers from a slow stretch.** A processor is prepared while no inference is in
flight and called with blocks of the size it was prepared for, and the inference thread runs at
any speed until the state `o`, where the inference in flight, if there is one, is punctual. From
there on inferences are timely. Then the callbacks miss no samples once those that wait in `o`
have been worked off, and as many callbacks later, and one for each block the counter says in
`o`, the output is again the output of the model delayed by the latency. This takes that no ring
is filled to its capacity.

**Proof sketch.** In the slow stretch the processor keeps serving; from then on `Recovering` is kept
by every timely step, and its log is what is claimed. -/
theorem recovers {ort : Ort F S File} {session : S} {model : ModelBlock F → ModelBlock F}
    (hmodel : ∀ block, ort.run session block = .ok (model block)) {p : OnnxProcessor F S}
    (hsession : p.inferenceThread.session = some session)
    (hstopped : p.inferenceThread.thread = .stopped)
    (hloading : p.inferenceThread.loadingModel = false) {spec : ProcessSpec}
    (hpos : 0 < spec.maximumBlockSize) {c : ℕ}
    (hmargin : (c + 1) * spec.maximumBlockSize ≤ maxModelCalcSize)
    {slow prompt : List (AudioEvent F)}
    (hsize : ∀ e ∈ slow ++ prompt, e.HasSize spec.maximumBlockSize) {o : Observed F S}
    (hslow : Transition.exec (Observed.step ort) (Observed.start p spec) slow = some o)
    (hroom : Transition.StepsMeet (Observed.step ort) (NoOverrun spec.ringSize)
      (Observed.start p spec) slow)
    (hpunctual : o.Punctual c)
    (htimely : Transition.StepsMeet (Observed.step ort)
      (fun o e => NoOverrun spec.ringSize o e ∧ Timely c o e) o prompt) :
    Transition.Always (Observed.step ort)
      (Recovered model spec.maximumBlockSize
        (o.history.callbacks.length + recoveryBlocks c spec.maximumBlockSize o)
        (o.history.callbacks.length + 2 * recoveryBlocks c spec.maximumBlockSize o +
          o.proc.inferenceCounter.toNat)) o prompt := by
  have hmono : ∀ (o : Observed F S) e, NoOverrun spec.ringSize o e →
      NoOverrun (max spec.ringSize 1) o e := fun o e h => NoOverrun.mono (Nat.le_max_left _ 1) h
  have hbefore := (hroom.mono hmono).and
    (Transition.stepsMeet_of_forall _ fun e he => hsize e (List.mem_append_left _ he))
  have hserving : Serving session model (max spec.ringSize 1) spec.maximumBlockSize o :=
    (Transition.always_of_stepsMeet (fun _ _ _ h hc hs => h.step hmodel hpos hc.2 hc.1 hs)
      (Serving.start hsession hstopped hloading spec _) hbefore).last hslow
  have hafter := htimely.and
    (Transition.stepsMeet_of_forall _ fun e he => hsize e (List.mem_append_right _ he))
  refine (Transition.always_of_stepsMeet (fun o₁ e o₂ h hc hs => ?_)
    (Recovering.start hserving hpunctual) hafter).mono fun _ h => h.recovered
  exact h.step (hserving.inTime hpunctual) hmodel hpos hmargin hc.2 (hmono o₁ e hc.1.1) hc.1.2 hs

/-- Five callbacks, the fourth of which starts an inference that ends only after the fifth. -/
def slowStretch : List (AudioEvent ExactFloat) :=
  callbacks ((List.range 5).map (rampBlock 4096)) ++ [.deliver, .threadEnd]

/-- Six callbacks in which every inference ends before the callback that has started it. -/
def promptStretch : List (AudioEvent ExactFloat) :=
  callbacks [rampBlock 4096 5, rampBlock 4096 6] ++
    [.sendAudio (rampBlock 4096 7), .deliver, .threadEnd, .processOutput] ++
    callbacks [rampBlock 4096 8, rampBlock 4096 9, rampBlock 4096 10]

/-- No ring of `capacity` samples is filled, and the inference thread is timely. -/
def Timing.prompt (capacity c : ℕ) (t : Timing) (e : TimingEvent) : Bool :=
  t.noOverrun capacity e && t.timely c e

lemma slowStretch_timing : slowStretch.map AudioEvent.timing =
    (List.replicate 5 [TimingEvent.sendAudio 4096, .processOutput]).flatten ++
      [.deliver, .threadEnd] := by
  simp [slowStretch, callbacks, AudioEvent.timing, List.range_succ, List.replicate]

lemma promptStretch_timing : promptStretch.map AudioEvent.timing =
    [.sendAudio 4096, .processOutput, .sendAudio 4096, .processOutput, .sendAudio 4096, .deliver,
      .threadEnd, .processOutput, .sendAudio 4096, .processOutput, .sendAudio 4096,
      .processOutput, .sendAudio 4096, .processOutput] := by
  simp [promptStretch, callbacks, AudioEvent.timing]

lemma hasSize_stretches : ∀ e ∈ slowStretch ++ promptStretch, e.HasSize 4096 := by
  intro e he
  have hcallbacks : ∀ bs : List ℕ, ∀ e ∈ callbacks (bs.map (rampBlock 4096)), e.HasSize 4096 :=
    fun bs => callbacks_hasSize (by simp)
  simp only [slowStretch, promptStretch, List.mem_append] at he
  rcases he with (he | he) | (he | he) | he
  · exact hcallbacks _ e he
  · simp only [List.mem_cons, List.not_mem_nil, or_false] at he
    rcases he with rfl | rfl <;> trivial
  · exact hcallbacks [5, 6] e he
  · simp only [List.mem_cons, List.not_mem_nil, or_false] at he
    rcases he with rfl | rfl | rfl | rfl
    · exact rampBlock_numSamples 4096 7
    · trivial
    · trivial
    · trivial
  · exact hcallbacks [8, 9, 10] e he

/-- The theorem at work: the fifth callback has missed samples and 4096 samples wait. From the
eighth callback on none misses samples, and the eleventh is aligned again. -/
theorem recovers_slow_stretch :
    ∃ o o', Transition.exec (Observed.step (Ort.passThrough ExactFloat))
        (Observed.start (.passThrough ExactFloat) ⟨48000, 4096, 1⟩) slowStretch = some o ∧
      o.proc.inferenceCounter = 1 ∧ o.backlog = 4096 ∧
      Transition.exec (Observed.step (Ort.passThrough ExactFloat)) o promptStretch = some o' ∧
      o'.history.callbacks.map Callback.timing =
        List.replicate 4 (.initialising, 0) ++ [(.missingSamples, 1)] ++
          List.replicate 6 (.modelSamples, 0) ∧
      Transition.Always (Observed.step (Ort.passThrough ExactFloat)) (Recovered id 4096 7 10) o
        promptStretch := by
  have hpos : 0 < (ProcessSpec.mk 48000 4096 1).maximumBlockSize := by norm_num
  have hmargin : (0 + 1) * (ProcessSpec.mk 48000 4096 1).maximumBlockSize ≤ maxModelCalcSize := by
    rw [maxModelCalcSize_eq]
    norm_num
  set o₀ := Observed.start (OnnxProcessor.passThrough ExactFloat) ⟨48000, 4096, 1⟩ with ho₀
  have hrun : (Transition.exec Timing.step o₀.timing (slowStretch.map AudioEvent.timing)).map
      (fun t => decide (t.sent = 20480 ∧ t.blocks = 1 ∧ t.thread = .stopped ∧
        t.inferenceCounter = 1 ∧ t.callbacks.length = 5 ∧
        (Transition.exec Timing.step t (promptStretch.map AudioEvent.timing)).map
            Timing.callbacks =
          some (List.replicate 4 (.initialising, 0) ++ [(.missingSamples, 1)] ++
            List.replicate 6 (.modelSamples, 0)) ∧
        Transition.StepsMeet Timing.step (fun t e => t.prompt 48000 0 e = true) t
          (promptStretch.map AudioEvent.timing))) = some true := by
    rw [ho₀, Observed.timing_start rfl rfl, ProcessSpec.ringSize_ofNat, slowStretch_timing,
      promptStretch_timing]
    decide +kernel
  obtain ⟨o, hslow, hrings, hstate⟩ := Observed.exists_exec_of_timing (Ort.passThrough ExactFloat)
    (RingsTracked.start (.passThrough ExactFloat) ⟨48000, 4096, 1⟩) _ hrun
  obtain ⟨hsent, hblocks, hthread, hcounter, hcallbacks, hbranches, hprompt⟩ :=
    decide_eq_true_eq.mp hstate
  obtain ⟨o', hexec, -, hlog⟩ := Observed.exists_exec_of_timing (Ort.passThrough ExactFloat)
    hrings Timing.callbacks hbranches
  have hbacklog : o.backlog = 4096 := by
    have hsent : o.history.sent.length = 20480 := hsent
    have hblocks : o.history.blocks.length = 1 := hblocks
    rw [Observed.backlog, hsent, hblocks, modelInputSize_eq]
  have hrecovers := recovers (c := 0) (fun _ => rfl) (rfl : _ = some ()) rfl rfl hpos hmargin
    hasSize_stretches hslow ?_ (fun hne => absurd hthread hne) ?_
  · have hlength : o.history.callbacks.length = 5 := by
      rw [← hcallbacks]
      exact (List.length_map _).symm
    have hone : o.proc.inferenceCounter = 1 := hcounter
    rw [hlength, recoveryBlocks, hbacklog, hone] at hrecovers
    exact ⟨o, o', hslow, hone, hbacklog, hexec, hlog, hrecovers⟩
  · refine Observed.stepsMeet_start rfl rfl _ noOverrun_of_timing ?_
    rw [ProcessSpec.ringSize_ofNat, slowStretch_timing]
    decide +kernel
  · have hC : ∀ (o : Observed ExactFloat Unit) e, o.timing.prompt 48000 0 e.timing = true →
        NoOverrun 48000 o e ∧ Timely 0 o e := by
      intro o e he
      simp only [Timing.prompt, Bool.and_eq_true] at he
      exact ⟨noOverrun_of_timing o e he.1, timely_of_timing o e he.2⟩
    rw [ProcessSpec.ringSize_ofNat]
    exact Observed.stepsMeet_of_timing _ hrings hC hprompt
