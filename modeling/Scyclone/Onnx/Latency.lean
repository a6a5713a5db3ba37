import Scyclone.Onnx.Network
import Scyclone.Onnx.OutputAlignment

set_option relaxedAutoImplicit false
set_option autoImplicit false

/-!
# The latency is the true delay

If the inference thread keeps up, no callback misses samples and the output is the output of the
model, delayed by the reported latency. Keeping up is a matter of callbacks: a block that is
complete in callback `n` must have been through the model before callback `n + c` ends, where
`c + 1` blocks of the host fit into `maxModelCalcSize`.

## Main definitions

* `Timely` — an inference ends in time for the callback `c` after the one it was started in.
* `OnTime` — the state of a processor whose inference thread keeps up.
* `DelayedOutput` — the output is the delayed output of the model.

## Main results

* `OnTime.step` — a step that is timely keeps the processor on time.
* `latency_exact` — the output along whole runs.
-/

variable {F S File : Type} [FloatSample F]

/-- An inference that was started in callback `n` has ended before callback `n + c` does. -/
def Timely (c : ℕ) (o : Observed F S) : AudioEvent F → Prop
  | .sendAudio _ => True
  | .processOutput =>
    o.inference.thread ≠ .stopped → o.history.callbacks.length < o.history.startedAt + c
  | .deliver => True
  | .threadEnd => True

/-- The processor is on time: every whole block of input has been handed to the model in the
callback that completed it, and no callback has missed samples. -/
structure OnTime (c blockSize : ℕ) (o : Observed F S) : Prop where
  loading : o.inference.loadingModel = false
  current : ∀ buffer, o.live.callback = some buffer → buffer.samples 0 <:+ o.history.sent
  handed : o.history.sent.length < (o.history.blocks.length + 1) * modelInputSize
  started : o.inference.thread ≠ .stopped →
    o.history.startedAt * blockSize < o.history.blocks.length * modelInputSize ∧
      o.history.callbacks.length ≤ o.history.startedAt + c
  counter : o.proc.inferenceCounter = 0
  served : ∀ callback ∈ o.history.callbacks, callback.branch ≠ .missingSamples
  output : o.history.callbacks.flatMap Callback.output =
    o.history.sent.take (min o.history.callbacks.length (latencyBlocks blockSize) * blockSize) ++
      (o.history.delivered.map nanToZero).take o.history.popped.length

/-! ## Margins -/

/-- The latency leaves a block of the host and `maxModelCalcSize` samples beyond a model block. -/
lemma le_latencyBlocks_mul {blockSize : ℕ} (hpos : 0 < blockSize) :
    modelInputSize + maxModelCalcSize ≤ latencyBlocks blockSize * blockSize + blockSize := by
  have := le_latencyBlocks_succ_mul hpos
  rwa [Nat.succ_mul] at this

namespace OnTime

variable {ort : Ort F S File} {o o' : Observed F S} {session : S}
  {model : ModelBlock F → ModelBlock F} {period c blockSize : ℕ}

/-- The samples in the input ring when a callback has pushed its own. -/
lemma stored_lt (h : OnTime c blockSize o) (hmargin : (c + 1) * blockSize ≤ maxModelCalcSize) :
    o.history.sent.length + blockSize <
      o.history.blocks.length * modelInputSize + modelInputSize + maxModelCalcSize := by
  have hhanded := h.handed
  rw [Nat.succ_mul] at hhanded hmargin
  omega

/-- A thread that is busy when a callback begins is not yet needed for the next block.

**Proof sketch.** The block it works on was not complete before callback `n = startedAt`, and the
callback now is at most `n + c`. So fewer than `(c + 1) * blockSize` samples of the next block
have been sent. -/
lemma next_incomplete (h : OnTime c blockSize o) (hpace : Paced blockSize o)
    (hmargin : (c + 1) * blockSize ≤ maxModelCalcSize) (hc : o.live.callback = none)
    (ht : o.inference.thread ≠ .stopped) :
    o.history.sent.length + blockSize < (o.history.blocks.length + 1) * modelInputSize := by
  obtain ⟨hbefore, hlate⟩ := h.started ht
  have hsent := hpace.sent
  simp only [Observed.begun, hc, Option.isSome_none, Bool.false_eq_true, if_false,
    Nat.add_zero] at hsent
  have hmul := Nat.mul_le_mul_right blockSize hlate
  have hcalc : maxModelCalcSize ≤ modelInputSize := by
    rw [maxModelCalcSize_eq, modelInputSize_eq]
    norm_num
  rw [Nat.add_mul] at hmul
  rw [Nat.succ_mul] at hmargin ⊢
  omega

/-- The thread is started exactly by a callback that finds it stopped and completes a block. -/
lemma starts_iff_complete (h : OnTime c blockSize o) (hrings : RingsTracked period o)
    (hmargin : (c + 1) * blockSize ≤ maxModelCalcSize)
    (hperiod : modelInputSize + 2 * maxModelCalcSize < period) {buffer : AudioBuffer F}
    (hsize : buffer.numSamples = blockSize) :
    o.inference.starts buffer = true ↔ o.inference.thread = .stopped ∧
      (o.history.blocks.length + 1) * modelInputSize ≤ o.history.sent.length + blockSize := by
  have hper : (o.inference.fedRing buffer).period = period := by
    simp [InferenceThread.fedRing, hrings.inputPeriod]
  have hstored := h.stored_lt hmargin
  have hle := hrings.input.popped_le
  have havail := (hrings.fedRing buffer).getAvailableSamples_of_lt (by
    rw [hper, List.length_append, AudioBuffer.length_samples, hsize]
    omega)
  rw [InferenceThread.starts_iff, havail, List.length_append, AudioBuffer.length_samples, hsize,
    Nat.succ_mul]
  simp only [h.loading, and_true]
  refine and_congr_right fun _ => ?_
  omega

/-- While the counter is zero, a block has been popped in every callback since `init` ended. -/
lemma length_popped (h : OnTime c blockSize o) (hcount : Counted blockSize o) :
    o.history.popped.length =
      (o.history.callbacks.length - latencyBlocks blockSize) * blockSize := by
  have hpopped := hcount.popped
  rw [h.counter, sub_zero] at hpopped
  exact_mod_cast hpopped

/-- The samples in the output ring, also if the whole input had been through the model. -/
lemma undelivered_lt (h : OnTime c blockSize o) (hpace : Paced blockSize o)
    (hcount : Counted blockSize o) :
    o.history.sent.length < o.history.popped.length + modelInputSize + maxModelCalcSize +
      blockSize := by
  have hlat := latencyBlocks_mul_lt blockSize
  have hpopped := h.length_popped hcount
  have hbegun : o.begun ≤ o.history.callbacks.length + 1 := by
    unfold Observed.begun
    split_ifs <;> omega
  have hsent : o.history.sent.length ≤ (o.history.callbacks.length + 1) * blockSize := by
    rw [hpace.sent]
    exact Nat.mul_le_mul_right _ hbegun
  have hsplit : o.history.callbacks.length ≤
      o.history.callbacks.length - latencyBlocks blockSize + latencyBlocks blockSize := by omega
  have hmul := Nat.mul_le_mul_right blockSize hsplit
  rw [Nat.add_mul, ← hpopped] at hmul
  rw [Nat.succ_mul] at hsent
  omega

/-- No step of a processor that is on time fills a ring.

**Proof sketch.** What is stored in the input ring is less than the margin, and what a job that
delivers adds to the output ring is no more than what was sent after its block was complete. -/
lemma noOverrun (h : OnTime c blockSize o)
    (hinv : Compensated session model period blockSize o)
    (hmargin : (c + 1) * blockSize ≤ maxModelCalcSize)
    (hperiod : modelInputSize + 2 * maxModelCalcSize < period) {e : AudioEvent F}
    (he : e.HasSize blockSize) (hs : o.step ort e = some o') : NoOverrun period o e := by
  cases e with
  | sendAudio buffer =>
    have hsize : buffer.numSamples = blockSize := he
    have hstored := h.stored_lt hmargin
    simp only [NoOverrun, hsize]
    omega
  | processOutput => trivial
  | deliver =>
    obtain ⟨ht, -⟩ := Observed.step_deliver hs
    have hundelivered := h.undelivered_lt hinv.pace hinv.count
    have hdelivered := hinv.provenance.length_delivered
    have hstarted := (h.started (by simp [ht])).1
    have hsent := hinv.input.rings.input.popped_le
    have hblock : 0 < o.history.blocks.length := by
      refine Nat.pos_of_ne_zero fun h0 => ?_
      rw [h0, Nat.zero_mul] at hstarted
      exact Nat.not_lt_zero _ hstarted
    obtain ⟨n, hn⟩ := Nat.exists_eq_succ_of_ne_zero hblock.ne'
    rw [if_pos ht, hn, Nat.succ_sub_one] at hdelivered
    rw [hn, Nat.succ_mul] at hsent
    rw [Nat.succ_mul] at hmargin
    simp only [NoOverrun]
    omega
  | threadEnd => trivial

/-- **The samples of a callback are there when it ends**, once `init` is over.

**Proof sketch.** In callback `m` the output asked for ends with sample
`(m + 1 - latencyBlocks) * blockSize`, which is at least `modelInputSize + maxModelCalcSize`
samples before the next callback's last sample. If the thread is not running, all but fewer
than `modelInputSize` samples sent have been delivered. If it is, its block was not complete
before callback `startedAt`, which is less than `c` callbacks ago. -/
lemma samples_there (h : OnTime c blockSize o)
    (hinv : Compensated session model period blockSize o) (hpos : 0 < blockSize)
    (hmargin : (c + 1) * blockSize ≤ maxModelCalcSize) {buffer : AudioBuffer F}
    (hc : o.live.callback = some buffer) (htimely : Timely c o .processOutput)
    (hinit : latencyBlocks blockSize ≤ o.history.callbacks.length) :
    o.history.popped.length + blockSize ≤ o.history.delivered.length := by
  have hlat := le_latencyBlocks_mul hpos
  have hsent := hinv.pace.sent
  have hpopped := h.length_popped hinv.count
  have hdelivered := hinv.provenance.length_delivered
  simp only [Observed.begun, hc, Option.isSome_some, if_true, Nat.succ_mul] at hsent
  rw [Nat.succ_mul] at hmargin
  obtain ⟨d, hd⟩ := Nat.exists_eq_add_of_le hinit
  have hsub : o.history.callbacks.length - latencyBlocks blockSize = d := by omega
  rw [hd, Nat.add_mul] at hsent
  rw [hsub] at hpopped
  by_cases ht : o.inference.thread = .running
  · have hne : o.inference.thread ≠ .stopped := by simp [ht]
    have hbefore := (h.started hne).1
    have hsoon := Nat.mul_le_mul_right blockSize (Nat.succ_le_of_lt (htimely hne))
    rw [hd, Nat.succ_mul, Nat.add_mul, Nat.add_mul] at hsoon
    rw [if_pos ht, Nat.sub_mul, Nat.one_mul] at hdelivered
    omega
  · have hhanded := h.handed
    rw [Nat.succ_mul] at hhanded
    rw [if_neg ht] at hdelivered
    omega

/-- A callback of a processor on time ends in one of the two good branches: the block is left as
it is during `init`, and replaced by the samples of the model afterwards.

**Proof sketch.** During `init` there is nothing to show. Afterwards the samples needed have been
delivered, as the inference started `c` callbacks ago has ended, and the ring counts them correctly,
as it is not full. -/
lemma outputBranch_eq (h : OnTime c blockSize o)
    (hinv : Compensated session model period blockSize o) (hpos : 0 < blockSize)
    (hmargin : (c + 1) * blockSize ≤ maxModelCalcSize)
    (hperiod : modelInputSize + 2 * maxModelCalcSize < period) {buffer : AudioBuffer F}
    (hc : o.live.callback = some buffer) (htimely : Timely c o .processOutput) :
    o.proc.outputBranch blockSize =
      if o.history.callbacks.length < latencyBlocks blockSize then .initialising
      else .modelSamples := by
  have hinit := hinv.pace.init_iff hpos hc
  split_ifs with hlt
  · exact OnnxProcessor.outputBranch_eq_initialising.mpr (hinit.mpr hlt)
  · refine OnnxProcessor.outputBranch_eq_modelSamples.mpr ⟨?_, ?_⟩
    · exact Bool.eq_false_iff.mpr fun hi => hlt (hinit.mp hi)
    · have hthere := h.samples_there hinv hpos hmargin hc htimely (Nat.not_lt.mp hlt)
      have hundelivered := h.undelivered_lt hinv.pace hinv.count
      have hsent := hinv.input.rings.input.popped_le
      have hle : o.history.delivered.length ≤ o.history.blocks.length * modelInputSize := by
        rw [hinv.provenance.length_delivered]
        split_ifs
        · exact Nat.mul_le_mul_right _ (Nat.sub_le _ _)
        · exact le_rfl
      rw [Nat.succ_mul] at hmargin
      have havail := hinv.input.rings.output.getAvailableSamples_of_lt (by
        rw [hinv.input.rings.outputPeriod]
        omega)
      rw [havail]
      omega

/-- While the counter is zero, nothing is thrown away. -/
lemma discardCount_eq (h : OnTime c blockSize o) : o.proc.discardCount blockSize = 0 := by
  have hcounter := h.counter
  simp [OnnxProcessor.discardCount, OnnxProcessor.discards, hcounter]

/-- The two good branches leave the counter at zero. -/
lemma counterAfter_eq (h : OnTime c blockSize o)
    (hbranch : o.proc.outputBranch blockSize =
      if o.history.callbacks.length < latencyBlocks blockSize then .initialising
      else .modelSamples) : o.proc.counterAfter blockSize = 0 := by
  have hcounter := h.counter
  have hdiscards : o.proc.discards blockSize = false := by
    simp [OnnxProcessor.discards, hcounter]
  unfold OnnxProcessor.counterAfter
  rw [hbranch, hdiscards]
  by_cases hlt : o.history.callbacks.length < latencyBlocks blockSize
  · rw [if_pos hlt]
    exact hcounter
  · rw [if_neg hlt]
    exact hcounter

/-! ## One step -/

lemma start {p : OnnxProcessor F S} (ht : p.inferenceThread.thread = .stopped)
    (hl : p.inferenceThread.loadingModel = false) (spec : ProcessSpec) (c blockSize : ℕ) :
    OnTime c blockSize (Observed.start p spec) where
  loading := hl
  current _ h := by cases h
  handed := by
    rw [Nat.succ_mul]
    exact Nat.lt_of_lt_of_le modelInputSize_pos (Nat.le_add_left _ _)
  started h := absurd ht h
  counter := rfl
  served _ h := by cases h
  output := by simp [Observed.start]

/-- The beginning of a callback keeps the processor on time.

**Proof sketch.** If a job starts now, its block is complete only since this callback. If none does,
either the thread is busy, or the next block is not complete yet; neither changes what is claimed of
the callbacks before. -/
lemma step_sendAudio (h : OnTime c blockSize o)
    (hinv : Compensated session model period blockSize o)
    (hmargin : (c + 1) * blockSize ≤ maxModelCalcSize)
    (hperiod : modelInputSize + 2 * maxModelCalcSize < period) {buffer : AudioBuffer F}
    (hsize : buffer.numSamples = blockSize)
    (hs : o.step ort (.sendAudio buffer) = some o') : OnTime c blockSize o' := by
  obtain ⟨hc, rfl⟩ := Observed.step_sendAudio hs
  have hiff := h.starts_iff_complete hinv.input.rings hmargin hperiod hsize
  have hstored := h.stored_lt hmargin
  have hcalc : maxModelCalcSize ≤ modelInputSize := by
    rw [maxModelCalcSize_eq, modelInputSize_eq]
    norm_num
  have hsent := hinv.pace.sent
  simp only [Observed.begun, hc, Option.isSome_none, Bool.false_eq_true, if_false,
    Nat.add_zero] at hsent
  have hthread : (o.proc.sendAudio buffer).inferenceThread.thread =
      if o.inference.starts buffer then .running else o.inference.thread :=
    InferenceThread.sendAudio_thread _ _
  refine ⟨?_, ?_, ?_, ?_, h.counter, h.served, ?_⟩
  · exact (InferenceThread.sendAudio_loadingModel _ _).trans h.loading
  · intro b hb
    obtain rfl := Option.some.inj hb
    exact List.suffix_append _ _
  · simp only [List.length_append, AudioBuffer.length_samples, hsize]
    cases hst : o.inference.starts buffer with
    | true =>
      simp only [if_true, List.length_append, List.length_singleton, Nat.succ_mul]
      omega
    | false =>
      simp only [Bool.false_eq_true, if_false]
      by_cases ht : o.inference.thread = .stopped
      · by_contra hge
        rw [hiff.mpr ⟨ht, Nat.not_lt.mp hge⟩] at hst
        cases hst
      · exact h.next_incomplete hinv.pace hmargin hc ht
  · simp only [Observed.inference, hthread]
    cases hst : o.inference.starts buffer with
    | true =>
      intro _
      have hhanded := h.handed
      simp only [if_true, List.length_append, List.length_singleton]
      exact ⟨by rw [← hsent]; exact hhanded, Nat.le_add_right _ _⟩
    | false =>
      simp only [Bool.false_eq_true, if_false]
      exact h.started
  · rw [List.take_append_of_le_length, h.output]
    rw [hsent]
    exact Nat.mul_le_mul_right _ (Nat.min_le_left _ _)

/-- A callback that ends in time keeps the processor on time.

**Proof sketch.** The branch is known, so the counter stays at zero. During `init` the block given
back is the end of what was sent; afterwards it is the next block of what was delivered. -/
lemma step_processOutput (h : OnTime c blockSize o)
    (hinv : Compensated session model period blockSize o) (hpos : 0 < blockSize)
    (hmargin : (c + 1) * blockSize ≤ maxModelCalcSize)
    (hperiod : modelInputSize + 2 * maxModelCalcSize < period)
    (htimely : Timely c o .processOutput)
    (hs : o.step ort .processOutput = some o') : OnTime c blockSize o' := by
  obtain ⟨buffer, hc, rfl⟩ := Observed.step_processOutput hs
  have hsize := hinv.pace.size buffer hc
  have hbranch := h.outputBranch_eq hinv hpos hmargin hperiod hc htimely
  have hdiscard := h.discardCount_eq
  have hpopped := h.length_popped hinv.count
  have hthread : (o.proc.processOutput buffer buffer.numSamples).1.inferenceThread =
      o.inference := by rw [OnnxProcessor.processOutput_eq]
  have hsent := hinv.pace.sent
  simp only [Observed.begun, hc, Option.isSome_some, if_true, Nat.succ_mul] at hsent
  refine ⟨?_, fun b hb => (by cases hb), h.handed, ?_, ?_, ?_, ?_⟩
  · simpa only [Observed.inference, hthread] using h.loading
  · simp only [Observed.inference, hthread, List.length_append, List.length_singleton]
    exact fun hne => ⟨(h.started hne).1, htimely hne⟩
  · simp only [Observed.proc, OnnxProcessor.processOutput_eq, hsize]
    exact h.counterAfter_eq hbranch
  · intro callback hmem
    rcases List.mem_append.mp hmem with hmem | hmem
    · exact h.served callback hmem
    · obtain rfl := List.mem_singleton.mp hmem
      simp only [hsize, hbranch]
      split_ifs <;> simp
  · simp only [List.flatMap_append, List.flatMap_singleton, h.output, List.length_append,
      List.length_singleton, hsize, RingBuffer.length_popSamples]
    by_cases hlt : o.history.callbacks.length < latencyBlocks blockSize
    · -- during `init` the block given back is the end of what was sent
      rw [if_pos hlt] at hbranch
      have hzero : o.history.popped.length = 0 := by
        rw [hpopped, Nat.sub_eq_zero_of_le hlt.le, Nat.zero_mul]
      have hpop : o.proc.popCount blockSize = 0 := by
        unfold OnnxProcessor.popCount
        rw [hbranch]
      have hout : (o.proc.processOutput buffer blockSize).2.samples 0 = buffer.samples 0 := by
        rw [← hsize, OnnxProcessor.samples_processOutput, hsize, hbranch]
      obtain ⟨before, hbefore⟩ := h.current buffer hc
      have hlen : before.length = o.history.callbacks.length * blockSize := by
        have := congrArg List.length hbefore
        rw [List.length_append, AudioBuffer.length_samples] at this
        omega
      rw [hzero, hpop, hout, Nat.min_eq_left hlt.le, Nat.min_eq_left hlt, Nat.succ_mul, ← hsent,
        List.take_length, List.take_zero, List.append_nil, List.append_nil, ← hbefore,
        List.take_left' hlen]
    · -- afterwards it is the next block of what was delivered
      rw [if_neg hlt] at hbranch
      have hge := Nat.not_lt.mp hlt
      have hpop := OnnxProcessor.popCount_of_modelSamples hbranch
      rw [hdiscard, Nat.zero_add] at hpop
      have hout := output_modelSamples hinv.input.rings hinv.output hsize hbranch
      rw [hdiscard, Nat.add_zero, hsize] at hout
      rw [hout, hpop, Nat.min_eq_right hge, Nat.min_eq_right (Nat.le_succ_of_le hge),
        List.append_assoc, List.take_append_slice]

/-- **Every timely step keeps the processor on time.** -/
theorem step (h : OnTime c blockSize o)
    (hinv : Compensated session model period blockSize o) (hpos : 0 < blockSize)
    (hmargin : (c + 1) * blockSize ≤ maxModelCalcSize)
    (hperiod : modelInputSize + 2 * maxModelCalcSize < period) {e : AudioEvent F}
    (he : e.HasSize blockSize) (htimely : Timely c o e) (hs : o.step ort e = some o') :
    OnTime c blockSize o' := by
  cases e with
  | sendAudio buffer => exact h.step_sendAudio hinv hmargin hperiod he hs
  | processOutput => exact h.step_processOutput hinv hpos hmargin hperiod htimely hs
  | deliver =>
    obtain ⟨ht, rfl⟩ := Observed.step_deliver hs
    have hpopped := hinv.input.rings.output.popped_le
    refine ⟨h.loading, h.current, h.handed, fun _ => h.started (by simp [ht]), h.counter,
      h.served, ?_⟩
    rw [List.map_append, List.take_append_of_le_length (by rw [List.length_map]; exact hpopped)]
    exact h.output
  | threadEnd =>
    obtain ⟨ht, rfl⟩ := Observed.step_threadEnd hs
    exact ⟨h.loading, h.current, h.handed, fun hne => absurd rfl hne, h.counter, h.served,
      h.output⟩

end OnTime

/-! ## Whole runs -/

/-- The output of a run without dropouts: no callback missed samples, and the sample at position
`i` is the input before the latency and the sample of the model at `i` less the latency after
it. -/
structure DelayedOutput (model : ModelBlock F → ModelBlock F) (blockSize : ℕ)
    (o : Observed F S) : Prop where
  served : ∀ callback ∈ o.history.callbacks, callback.branch ≠ .missingSamples
  counter : o.proc.inferenceCounter = 0
  length : (o.history.callbacks.flatMap Callback.output).length =
    o.history.callbacks.length * blockSize
  sample : ∀ i < o.history.callbacks.length * blockSize,
    (o.history.callbacks.flatMap Callback.output)[i]? =
      if i < latencyBlocks blockSize * blockSize then o.history.sent[i]?
      else (modelOutput model o.history.sent)[i - latencyBlocks blockSize * blockSize]?

/-- The output of a processor that is on time.

**Proof sketch.** The output is the first blocks of what was sent, followed by the first samples of
what was delivered; the lengths of both parts say in which of them an index lies. -/
lemma OnTime.delayedOutput {session : S} {model : ModelBlock F → ModelBlock F}
    {period c blockSize : ℕ} {o : Observed F S} (h : OnTime c blockSize o)
    (hinv : Compensated session model period blockSize o) : DelayedOutput model blockSize o := by
  have hpopped := h.length_popped hinv.count
  have hdelivered := hinv.input.rings.output.popped_le
  have hsent : o.history.callbacks.length * blockSize ≤ o.history.sent.length := by
    rw [hinv.pace.sent]
    exact Nat.mul_le_mul_right _ (Nat.le_add_right _ _)
  have hmin : min o.history.callbacks.length (latencyBlocks blockSize) * blockSize =
      min (o.history.callbacks.length * blockSize) (latencyBlocks blockSize * blockSize) :=
    (Nat.mul_min_mul_right _ _ _).symm
  have hhead : (o.history.sent.take
      (min o.history.callbacks.length (latencyBlocks blockSize) * blockSize)).length =
        min (o.history.callbacks.length * blockSize) (latencyBlocks blockSize * blockSize) := by
    rw [List.length_take, hmin]
    omega
  rw [Nat.sub_mul] at hpopped
  refine ⟨h.served, h.counter, ?_, fun i hi => ?_⟩
  · rw [h.output, List.length_append, hhead, List.length_take, List.length_map]
    omega
  · rw [h.output]
    split_ifs with hlat
    · rw [List.getElem?_append_left (by omega), List.getElem?_take_of_lt (by omega)]
    · rw [List.getElem?_append_right (by omega), hhead, List.getElem?_take_of_lt (by omega),
        Nat.min_eq_right (by omega)]
      obtain ⟨rest, hrest⟩ := delivered_prefix_modelOutput hinv.input hinv.provenance
      rw [← hrest, List.getElem?_append_left (by rw [List.length_map]; omega)]

/-- The ring that a rate of at least 32768 Hz gives is large enough. -/
lemma ProcessSpec.lt_ringSize {spec : ProcessSpec} (hrate : 32768 ≤ spec.sampleRate) :
    modelInputSize + 2 * maxModelCalcSize < max spec.ringSize 1 := by
  have hfloor : (32768 : ℤ) ≤ ⌊spec.sampleRate⌋ := Int.le_floor.mpr (by exact_mod_cast hrate)
  rw [modelInputSize_eq, maxModelCalcSize_eq]
  unfold ProcessSpec.ringSize
  omega

/-- **The reported latency is the true delay.** A processor is prepared at a sample rate of at
least 32768 Hz while no inference is in flight, and then called with blocks of the size it was
prepared for; an inference started in callback `n` ends before callback `n + c` does, where
`c + 1` blocks are at most `maxModelCalcSize` samples. Then no callback misses samples, and the
output is the output of the model delayed by the latency.

**Proof sketch.** `Compensated` and `OnTime` are kept together by every timely step, since such a
step fills no ring, and together they imply the output. -/
theorem latency_exact {ort : Ort F S File} {session : S}
    {model : ModelBlock F → ModelBlock F}
    (hmodel : ∀ block, ort.run session block = .ok (model block)) {p : OnnxProcessor F S}
    (hsession : p.inferenceThread.session = some session)
    (hstopped : p.inferenceThread.thread = .stopped)
    (hloading : p.inferenceThread.loadingModel = false) {spec : ProcessSpec}
    (hpos : 0 < spec.maximumBlockSize) (hrate : 32768 ≤ spec.sampleRate) {c : ℕ}
    (hmargin : (c + 1) * spec.maximumBlockSize ≤ maxModelCalcSize) {es : List (AudioEvent F)}
    (hsize : ∀ e ∈ es, e.HasSize spec.maximumBlockSize)
    (htimely : Transition.StepsMeet (Observed.step ort) (Timely c) (Observed.start p spec) es) :
    (p.prepare spec).getLatency =
        (latencyBlocks spec.maximumBlockSize * spec.maximumBlockSize : ℕ) ∧
      Transition.Always (Observed.step ort) (DelayedOutput model spec.maximumBlockSize)
        (Observed.start p spec) es := by
  refine ⟨OnnxProcessor.prepare_latency p spec hpos, ?_⟩
  have hperiod := ProcessSpec.lt_ringSize hrate
  have hidle : p.inferenceThread.thread ≠ .running := by simp [hstopped]
  have hsteps := htimely.and (Transition.stepsMeet_of_forall _ hsize)
  refine (Transition.always_of_stepsMeet
    (I := fun o => Compensated session model (max spec.ringSize 1) spec.maximumBlockSize o ∧
      OnTime c spec.maximumBlockSize o) ?_
    ⟨Compensated.start hsession hidle spec _, OnTime.start hstopped hloading spec c _⟩
    hsteps).mono fun _ h => h.2.delayedOutput h.1
  intro o e o' h hc hs
  have hroom := h.2.noOverrun h.1 hmargin hperiod hc.2 hs
  exact ⟨h.1.step hmodel hpos hc.2 hroom hs, h.2.step h.1 hpos hmargin hperiod hc.2 hc.1 hs⟩

/-- `Timely`, of a timing. -/
def Timing.timely (c : ℕ) (t : Timing) : TimingEvent → Bool
  | .sendAudio _ => true
  | .processOutput => decide (t.thread ≠ .stopped → t.callbacks.length < t.startedAt + c)
  | .deliver => true
  | .threadEnd => true

omit [FloatSample F] in
lemma timely_of_timing {c : ℕ} (o : Observed F S) (e : AudioEvent F)
    (h : o.timing.timely c e.timing = true) : Timely c o e := by
  cases e with
  | sendAudio buffer => trivial
  | processOutput =>
    simp only [AudioEvent.timing, Timing.timely, decide_eq_true_eq, Observed.timing,
      List.length_map] at h
    exact h
  | deliver => trivial
  | threadEnd => trivial

/-- Callbacks of 1024 samples. The sixteenth one completes a block; the inference on it ends while
the eighteenth is in progress. -/
def timelyRun : List (AudioEvent ExactFloat) :=
  callbacks ((List.range 17).map (rampBlock 1024)) ++
    [.sendAudio (rampBlock 1024 17), .deliver, .threadEnd, .processOutput] ++
    callbacks [rampBlock 1024 18, rampBlock 1024 19, rampBlock 1024 20]

lemma timelyRun_timing : timelyRun.map AudioEvent.timing =
    (List.replicate 17 [TimingEvent.sendAudio 1024, .processOutput]).flatten ++
      [.sendAudio 1024, .deliver, .threadEnd, .processOutput, .sendAudio 1024, .processOutput,
        .sendAudio 1024, .processOutput, .sendAudio 1024, .processOutput] := by
  simp [timelyRun, callbacks, AudioEvent.timing, List.range_succ, List.replicate]

/-- The theorem at work: two callbacks of `timelyRun` find the inference still running, the last
two give back samples of the model. -/
theorem latency_exact_timely_run :
    (∃ o, Transition.exec (Observed.step (Ort.passThrough ExactFloat))
        (Observed.start (.passThrough ExactFloat) ⟨48000, 1024, 1⟩) timelyRun = some o ∧
      o.history.callbacks.map Callback.timing =
        List.replicate 19 (.initialising, 0) ++ List.replicate 2 (.modelSamples, 0)) ∧
      (OnnxProcessor.prepare (.passThrough ExactFloat) ⟨48000, 1024, 1⟩).getLatency =
        (latencyBlocks 1024 * 1024 : ℕ) ∧
      Transition.Always (Observed.step (Ort.passThrough ExactFloat)) (DelayedOutput id 1024)
        (Observed.start (.passThrough ExactFloat) ⟨48000, 1024, 1⟩) timelyRun := by
  have hpos : 0 < (ProcessSpec.mk 48000 1024 1).maximumBlockSize := by norm_num
  refine ⟨Observed.exists_exec_start rfl rfl _ _ _ Timing.callbacks ?_,
    latency_exact (c := 3) (fun _ => rfl) (rfl : _ = some ()) rfl rfl hpos (by norm_num)
      (by rw [maxModelCalcSize_eq]; norm_num) ?_ ?_⟩
  · rw [ProcessSpec.ringSize_ofNat, timelyRun_timing]
    decide +kernel
  · intro e he
    rcases List.mem_append.mp he with he | he
    · rcases List.mem_append.mp he with he | he
      · refine callbacks_hasSize (fun buffer hmem => ?_) e he
        obtain ⟨i, -, rfl⟩ := List.mem_map.mp hmem
        exact rampBlock_numSamples 1024 i
      · simp only [List.mem_cons, List.not_mem_nil, or_false] at he
        rcases he with rfl | rfl | rfl | rfl
        · exact rampBlock_numSamples 1024 17
        · trivial
        · trivial
        · trivial
    · exact callbacks_hasSize (by simp) e he
  · refine Observed.stepsMeet_start rfl rfl _ timely_of_timing ?_
    rw [ProcessSpec.ringSize_ofNat, timelyRun_timing]
    decide +kernel

/-! ## After a load that has failed -/

/-- A processor as the load of a file leaves it whose session constructor has thrown: the flag of
the load is still raised. -/
def loadFailed : OnnxProcessor ExactFloat Unit :=
  { OnnxProcessor.passThrough ExactFloat with
    inferenceThread :=
      { (OnnxProcessor.passThrough ExactFloat).inferenceThread with loadingModel := true } }

/-- The host loads a file that is not a model, and somebody resumes processing afterwards. The
processor is prepared with no inference in flight and called with blocks of 4096 samples. No
inference is ever started, so none is late; but the fifth callback misses samples. -/
theorem latency_inexact_after_failed_load :
    Transition.exec (Hosted.step (Ort.noFiles ExactFloat))
        ⟨⟨⟨.passThrough ExactFloat, none⟩, none⟩, false⟩
        [.own (.beginLoad (.external ())), .own .loadStep, .own .loadStep, .own .loadStep,
          .suspendProcessing false] =
        some ⟨⟨⟨loadFailed, none⟩, none⟩, false⟩ ∧
      loadFailed.inferenceThread.thread = .stopped ∧
      Transition.StepsMeet (Observed.step (Ort.noFiles ExactFloat))
        (fun o e => e.HasSize 4096 ∧ Timely 0 o e) (Observed.start loadFailed ⟨48000, 4096, 1⟩)
        (callbacks ((List.range 5).map (rampBlock 4096))) ∧
      ¬ Transition.Always (Observed.step (Ort.noFiles ExactFloat)) (DelayedOutput id 4096)
        (Observed.start loadFailed ⟨48000, 4096, 1⟩)
        (callbacks ((List.range 5).map (rampBlock 4096))) := by
  have hevents : (callbacks ((List.range 5).map (rampBlock 4096))).map AudioEvent.timing =
      [.sendAudio 4096, .processOutput, .sendAudio 4096, .processOutput, .sendAudio 4096,
        .processOutput, .sendAudio 4096, .processOutput, .sendAudio 4096, .processOutput] := by
    simp [callbacks, AudioEvent.timing, List.range_succ]
  refine ⟨rfl, rfl, (Transition.stepsMeet_of_forall _ (callbacks_hasSize fun buffer hmem => ?_)).and
    (Observed.stepsMeet_start rfl rfl _ timely_of_timing ?_), fun halways => ?_⟩
  · obtain ⟨i, -, rfl⟩ := List.mem_map.mp hmem
    exact rampBlock_numSamples 4096 i
  · rw [ProcessSpec.ringSize_ofNat, hevents]
    decide +kernel
  · obtain ⟨o, hexec, hcallbacks⟩ := Observed.exists_exec_start (p := loadFailed) rfl rfl
      (Ort.noFiles ExactFloat) ⟨48000, 4096, 1⟩ (callbacks ((List.range 5).map (rampBlock 4096)))
      Timing.callbacks
      (a := List.replicate 4 (.initialising, 0) ++ [(.missingSamples, 1)])
      (by
        rw [ProcessSpec.ringSize_ofNat, hevents]
        decide +kernel)
    have hserved := (halways.last hexec).served
    have hmissing : (OutputBranch.missingSamples, (1 : ℤ)) ∈
        o.history.callbacks.map Callback.timing := by
      rw [show o.history.callbacks.map Callback.timing = _ from hcallbacks]
      simp
    obtain ⟨callback, hmem, hcallback⟩ := List.mem_map.mp hmissing
    exact hserved callback hmem (congrArg Prod.fst hcallback)
