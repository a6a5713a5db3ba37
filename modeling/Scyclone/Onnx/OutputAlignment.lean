import Scyclone.Onnx.InputIntegrity

set_option relaxedAutoImplicit false
set_option autoImplicit false

/-!
# What the callbacks give back

With callbacks of one size `M`, the first `latencyBlocks M` of them give their input back. From
then on each callback either gives back the next samples of the model or, if too few of them
are there, zeros. `inferenceCounter` counts the blocks by which the output has fallen behind in
this way, and a block is thrown away when there are two.

What the samples of the model are is a matter of the jobs alone: a call of `session.Run` that
throws hands the last output over once more, and the callbacks take it as they take any other.

## Main definitions

* `jobOutput`, `modelOutput` — what the jobs hand over for the whole blocks of a stream, and what
  it is if no call of `session.Run` throws.
* `Paced` — the callbacks have one size, and `init` has ended when it should.
* `Counted` — the counter is the number of blocks the output is behind.
* `NoOverrun` — no ring is filled to its capacity.

## Main results

* `Paced.step`, `Counted.step`, `LoggedAligned.step` — all three are kept by the steps.
* `output_aligned` — every block of model samples is where the counter says.
-/

variable {F S File : Type} [FloatSample F]

/-- The output of the model for the consecutive cuts of a stream, NaN replaced by zero before
and after. -/
def modelOutput (model : ModelBlock F → ModelBlock F) (xs : List F) : List F :=
  (modelled model ((List.range (xs.length / modelInputSize)).map
    (cutBlock (xs.map nanToZero)))).map nanToZero

/-- What the jobs on the consecutive cuts of a stream hand over, NaN replaced by zero before and
after; `last` is in the output vector before the first of them. -/
def jobOutput (ort : Ort F S File) (session : S) (last : ModelBlock F) (xs : List F) : List F :=
  ((ort.served session last ((List.range (xs.length / modelInputSize)).map
    (cutBlock (xs.map nanToZero)))).flatMap List.ofFn).map nanToZero

/-- If no call throws, it is the output of the model. -/
lemma jobOutput_eq_modelOutput {ort : Ort F S File} {session : S}
    {model : ModelBlock F → ModelBlock F}
    (hmodel : ∀ block, ort.run session block = .ok (model block)) (last : ModelBlock F)
    (xs : List F) : jobOutput ort session last xs = modelOutput model xs := by
  unfold jobOutput modelOutput modelled
  rw [Ort.served_eq_map hmodel, List.flatMap_map]

/-- Every callback passes `blockSize` samples. -/
def AudioEvent.HasSize (blockSize : ℕ) : AudioEvent F → Prop
  | .sendAudio buffer => buffer.numSamples = blockSize
  | .processOutput => True
  | .deliver => True
  | .threadEnd => True

omit [FloatSample F] in
/-- The events of callbacks on blocks of one size. -/
lemma callbacks_hasSize {bs : List (AudioBuffer F)} {n : ℕ}
    (h : ∀ buffer ∈ bs, buffer.numSamples = n) : ∀ e ∈ callbacks bs, e.HasSize n := by
  intro e he
  obtain ⟨buffer, hmem, he⟩ := List.mem_flatMap.mp he
  simp only [List.mem_cons, List.not_mem_nil, or_false] at he
  rcases he with rfl | rfl
  · exact h buffer hmem
  · trivial

omit [FloatSample F] in
lemma callbacks_append (bs bs' : List (AudioBuffer F)) :
    callbacks (bs ++ bs') = callbacks bs ++ callbacks bs' := List.flatMap_append

/-- The number of callbacks that have begun. -/
def Observed.begun (o : Observed F S) : ℕ :=
  o.history.callbacks.length + if o.live.callback.isSome then 1 else 0

/-! ## The pace of the callbacks -/

/-- All callbacks have passed `blockSize` samples, and `init` lasts until `sendAudio` has been
passed as many samples as the latency of the inference thread. -/
structure Paced (blockSize : ℕ) (o : Observed F S) : Prop where
  sent : o.history.sent.length = o.begun * blockSize
  size : ∀ buffer, o.live.callback = some buffer → buffer.numSamples = blockSize
  init : o.inference.init =
    decide (o.history.sent.length < modelInputSize + maxModelCalcSize)
  initSamples : o.inference.init = true → o.inference.initSamples = o.history.sent.length

namespace Paced

variable {ort : Ort F S File} {o o' : Observed F S} {blockSize : ℕ}

omit [FloatSample F] in
lemma start (p : OnnxProcessor F S) (spec : ProcessSpec) (blockSize : ℕ) :
    Paced blockSize (Observed.start p spec) where
  sent := (Nat.zero_mul _).symm
  size _ h := by cases h
  init := (decide_eq_true (Nat.add_pos_left modelInputSize_pos _)).symm
  initSamples _ := rfl

/-- **Every step keeps the pace.**

**Proof sketch.** `sendAudio` sends the block of a callback that has begun, and `processOutput` ends
the callback without sending any. While `init` is set the samples are counted, and it is cleared
once they exceed the initial latency. The thread sends nothing. -/
theorem step (h : Paced blockSize o) {e : AudioEvent F} (he : e.HasSize blockSize)
    (hs : o.step ort e = some o') : Paced blockSize o' := by
  cases e with
  | sendAudio buffer =>
    obtain ⟨hc, rfl⟩ := Observed.step_sendAudio hs
    have hsize : buffer.numSamples = blockSize := he
    have hsent := h.sent
    have hinit := h.init
    simp only [Observed.begun, hc, Option.isSome_none, Bool.false_eq_true, if_false,
      Nat.add_zero] at hsent
    have hafter : o.inference.init = true →
        o.inference.initSamplesAfter buffer = o.history.sent.length + blockSize := by
      intro hi
      simp only [InferenceThread.initSamplesAfter, hi, if_true, h.initSamples hi, hsize]
    refine ⟨?_, ?_, ?_, ?_⟩
    · simp only [Observed.begun, Option.isSome_some, if_true, List.length_append,
        AudioBuffer.length_samples, hsize, hsent, Nat.succ_mul]
    · intro b hb
      obtain rfl := Option.some.inj hb
      exact hsize
    · simp only [Observed.inference, OnnxProcessor.sendAudio, InferenceThread.sendAudio_eq,
        List.length_append, AudioBuffer.length_samples, hsize]
      cases hi : o.inference.init with
      | true => rw [hafter hi, Bool.true_and]
      | false =>
        rw [hi] at hinit
        have hge := of_decide_eq_false hinit.symm
        rw [Bool.false_and, eq_comm, decide_eq_false_iff_not]
        omega
    · simp only [Observed.inference, OnnxProcessor.sendAudio, InferenceThread.sendAudio_eq,
        List.length_append, AudioBuffer.length_samples, hsize, Bool.and_eq_true]
      exact fun hi => hafter hi.1
  | processOutput =>
    obtain ⟨buffer, hc, rfl⟩ := Observed.step_processOutput hs
    have hsent := h.sent
    have hthread : (o.proc.processOutput buffer buffer.numSamples).1.inferenceThread =
        o.inference := by rw [OnnxProcessor.processOutput_eq]
    simp only [Observed.begun, hc, Option.isSome_some, if_true] at hsent
    refine ⟨?_, fun b hb => (by cases hb), ?_, ?_⟩
    · simpa only [Observed.begun, Option.isSome_none, Bool.false_eq_true, if_false,
        List.length_append, List.length_singleton] using hsent
    · simpa only [Observed.inference, hthread] using h.init
    · simpa only [Observed.inference, hthread] using h.initSamples
  | deliver =>
    obtain ⟨-, rfl⟩ := Observed.step_deliver hs
    exact ⟨h.sent, h.size, h.init, h.initSamples⟩
  | threadEnd =>
    obtain ⟨-, rfl⟩ := Observed.step_threadEnd hs
    exact ⟨h.sent, h.size, h.init, h.initSamples⟩

omit [FloatSample F] in
/-- The callbacks that find `init` set are the first `latencyBlocks` ones. -/
lemma init_iff (h : Paced blockSize o) (hpos : 0 < blockSize) {buffer : AudioBuffer F}
    (hc : o.live.callback = some buffer) :
    o.inference.init = true ↔ o.history.callbacks.length < latencyBlocks blockSize := by
  have hsent := h.sent
  simp only [Observed.begun, hc, Option.isSome_some, if_true] at hsent
  rw [h.init, decide_eq_true_iff, hsent]
  constructor
  · intro hlt
    have := lt_of_lt_of_le hlt (le_latencyBlocks_succ_mul hpos)
    have := lt_of_mul_lt_mul_right this (Nat.zero_le _)
    omega
  · intro hlt
    exact lt_of_le_of_lt (Nat.mul_le_mul_right _ hlt) (latencyBlocks_mul_lt blockSize)

end Paced

/-! ## The counter -/

/-- The samples popped are those of the callbacks since `init` ended, less `inferenceCounter`
blocks. -/
structure Counted (blockSize : ℕ) (o : Observed F S) : Prop where
  nonneg : 0 ≤ o.proc.inferenceCounter
  popped : (o.history.popped.length : ℤ) =
    ((o.history.callbacks.length - latencyBlocks blockSize : ℕ) - o.proc.inferenceCounter) *
      blockSize

/-- The callbacks since `init` ended, after one more of them. -/
lemma callbacks_succ_sub {blockSize n : ℕ} (h : ¬ n < latencyBlocks blockSize) :
    ((n + 1 - latencyBlocks blockSize : ℕ) : ℤ) = (n - latencyBlocks blockSize : ℕ) + 1 := by
  omega

namespace Counted

variable {ort : Ort F S File} {o o' : Observed F S} {blockSize : ℕ}

omit [FloatSample F] in
lemma start (p : OnnxProcessor F S) (spec : ProcessSpec) (blockSize : ℕ) :
    Counted blockSize (Observed.start p spec) where
  nonneg := le_rfl
  popped := by simp [Observed.start, OnnxProcessor.prepare, OnnxProcessor.calculateLatency]

/-- **Every step keeps the count**: each branch of `processOutput` pops what it adds to the
callbacks less what it adds to the counter.

**Proof sketch.** While `init` is set no callback counts and nothing is popped. After that, zeros
raise the counter and pop nothing, the samples of the model pop a block, and throwing one away
pops another and lowers the counter. -/
theorem step (h : Counted blockSize o) (hpace : Paced blockSize o) (hpos : 0 < blockSize)
    {e : AudioEvent F} (hs : o.step ort e = some o') : Counted blockSize o' := by
  cases e with
  | sendAudio buffer =>
    obtain ⟨-, rfl⟩ := Observed.step_sendAudio hs
    exact ⟨h.nonneg, h.popped⟩
  | processOutput =>
    obtain ⟨buffer, hc, rfl⟩ := Observed.step_processOutput hs
    have hsize := hpace.size buffer hc
    have hpopped := h.popped
    have hinit := hpace.init_iff hpos hc
    refine ⟨?_, ?_⟩
    · rw [Observed.proc, OnnxProcessor.processOutput_eq]
      exact OnnxProcessor.counterAfter_nonneg _ _ h.nonneg
    · simp only [Observed.proc, OnnxProcessor.processOutput_eq, List.length_append,
        List.length_singleton, RingBuffer.length_popSamples, Nat.cast_add]
      rw [hpopped, hsize]
      unfold OnnxProcessor.popCount OnnxProcessor.counterAfter
      cases hb : o.live.proc.outputBranch blockSize with
      | initialising =>
        have hlt := hinit.mp (OnnxProcessor.outputBranch_eq_initialising.mp hb)
        have h₁ : o.history.callbacks.length + 1 - latencyBlocks blockSize = 0 := by omega
        have h₂ : o.history.callbacks.length - latencyBlocks blockSize = 0 := by omega
        simp [h₁, h₂]
      | modelSamples =>
        have hge : ¬ o.history.callbacks.length < latencyBlocks blockSize := by
          rw [← hinit, (OnnxProcessor.outputBranch_eq_modelSamples.mp hb).1]
          simp
        simp only [callbacks_succ_sub hge, OnnxProcessor.discardCount]
        split_ifs
        · push_cast
          ring
        · push_cast
          ring
      | missingSamples =>
        have hge : ¬ o.history.callbacks.length < latencyBlocks blockSize := by
          intro hlt
          have hinitialising : o.live.proc.outputBranch blockSize = .initialising :=
            OnnxProcessor.outputBranch_eq_initialising.mpr (hinit.mpr hlt)
          rw [hinitialising] at hb
          cases hb
        simp only [callbacks_succ_sub hge]
        push_cast
        ring
  | deliver =>
    obtain ⟨-, rfl⟩ := Observed.step_deliver hs
    exact ⟨h.nonneg, h.popped⟩
  | threadEnd =>
    obtain ⟨-, rfl⟩ := Observed.step_threadEnd hs
    exact ⟨h.nonneg, h.popped⟩

end Counted

/-- The rings, the pace and the count after any run whose callbacks have one size. -/
lemma counted_of_exec {ort : Ort F S File} {p : OnnxProcessor F S} {spec : ProcessSpec}
    {blockSize : ℕ} (hpos : 0 < blockSize) {es : List (AudioEvent F)}
    (hsize : ∀ e ∈ es, e.HasSize blockSize) {o : Observed F S}
    (hexec : Transition.exec (Observed.step ort) (Observed.start p spec) es = some o) :
    RingsTracked (max spec.ringSize 1) o ∧ Paced blockSize o ∧ Counted blockSize o := by
  refine (Transition.always_of_stepsMeet
    (I := fun o => RingsTracked (max spec.ringSize 1) o ∧ Paced blockSize o ∧ Counted blockSize o)
    (fun o e o' h he hs => ?_)
    ⟨RingsTracked.start p spec, Paced.start p spec _, Counted.start p spec _⟩
    (Transition.stepsMeet_of_forall _ hsize)).last hexec
  exact ⟨h.1.step hs, h.2.1.step he hs, h.2.2.step h.2.1 hpos hs⟩

/-! ## The log of the callbacks -/

/-- No ring is filled to its capacity: not the input ring by the samples that `sendAudio` pushes,
and not the output ring by a delivered block. -/
def NoOverrun (capacity : ℕ) (o : Observed F S) : AudioEvent F → Prop
  | .sendAudio buffer =>
    o.history.sent.length + buffer.numSamples <
      o.history.blocks.length * modelInputSize + capacity
  | .processOutput => True
  | .deliver =>
    o.history.delivered.length + modelInputSize < o.history.popped.length + capacity
  | .threadEnd => True

omit [FloatSample F] in
/-- A larger ring is filled later. -/
lemma NoOverrun.mono {capacity capacity' : ℕ} (h : capacity ≤ capacity') {o : Observed F S}
    {e : AudioEvent F} (hroom : NoOverrun capacity o e) : NoOverrun capacity' o e := by
  cases e with
  | sendAudio buffer =>
    simp only [NoOverrun] at hroom ⊢
    omega
  | processOutput => trivial
  | deliver =>
    simp only [NoOverrun] at hroom ⊢
    omega
  | threadEnd => trivial

/-- No delivered sample that has not been popped was overwritten. -/
def OutputKept (period : ℕ) (o : Observed F S) : Prop :=
  o.history.delivered.length ≤ o.history.popped.length + period

/-- A delivery that there is room for overwrites nothing, and no other step does. -/
lemma OutputKept.step {ort : Ort F S File} {period : ℕ} {o o' : Observed F S}
    (h : OutputKept period o) {e : AudioEvent F} (hroom : NoOverrun period o e)
    (hs : o.step ort e = some o') : OutputKept period o' := by
  unfold OutputKept at *
  cases e with
  | sendAudio buffer =>
    obtain ⟨-, rfl⟩ := Observed.step_sendAudio hs
    exact h
  | processOutput =>
    obtain ⟨buffer, -, rfl⟩ := Observed.step_processOutput hs
    simp only [List.length_append]
    omega
  | deliver =>
    obtain ⟨-, rfl⟩ := Observed.step_deliver hs
    simp only [NoOverrun] at hroom
    simp only [List.length_append, List.length_ofFn]
    omega
  | threadEnd =>
    obtain ⟨-, rfl⟩ := Observed.step_threadEnd hs
    exact h

/-- Every block of model samples given back is the piece of what was delivered that the number
of the callback and the counter after it point to. -/
def LoggedAligned (blockSize : ℕ) (o : Observed F S) : Prop :=
  ∀ m (hm : m < o.history.callbacks.length), o.history.callbacks[m].branch = .modelSamples →
    ∃ q : ℕ, (q : ℤ) = m - latencyBlocks blockSize - o.history.callbacks[m].counter ∧
      (q + 1) * blockSize ≤ o.history.delivered.length ∧
      o.history.callbacks[m].output =
        (o.history.delivered.map nanToZero).slice (q * blockSize) blockSize

omit [FloatSample F] in
/-- Where the samples used by `processOutput` begin, counted in blocks.

**Proof sketch.** The samples popped so far and those that are discarded now make up the callbacks
since the latency, less the counter, times the block size; both sides are divided by it. -/
lemma Counted.position {blockSize : ℕ} {o : Observed F S} (h : Counted blockSize o)
    (hpace : Paced blockSize o) (hpos : 0 < blockSize) {buffer : AudioBuffer F}
    (hc : o.live.callback = some buffer) (hb : o.proc.outputBranch blockSize = .modelSamples) :
    ∃ q : ℕ, (q : ℤ) =
        o.history.callbacks.length - latencyBlocks blockSize - o.proc.counterAfter blockSize ∧
      q * blockSize = o.history.popped.length + o.proc.discardCount blockSize := by
  have hinit : ¬ o.history.callbacks.length < latencyBlocks blockSize := by
    rw [← hpace.init_iff hpos hc, (OnnxProcessor.outputBranch_eq_modelSamples.mp hb).1]
    simp
  set q : ℤ :=
    o.history.callbacks.length - latencyBlocks blockSize - o.proc.counterAfter blockSize with hq
  have hmul : q * blockSize =
      ((o.history.popped.length + o.proc.discardCount blockSize : ℕ) : ℤ) := by
    rw [Nat.cast_add, h.popped, hq, Nat.cast_sub (Nat.not_lt.mp hinit)]
    unfold OnnxProcessor.counterAfter OnnxProcessor.discardCount
    rw [hb]
    dsimp only
    split_ifs
    · ring
    · push_cast
      ring
  have hnonneg : 0 ≤ q := by
    have hposZ : (0 : ℤ) < blockSize := by exact_mod_cast hpos
    exact nonneg_of_mul_nonneg_left (hmul ▸ Int.natCast_nonneg _) hposZ
  obtain ⟨n, hn⟩ := Int.eq_ofNat_of_zero_le hnonneg
  refine ⟨n, hn.symm, ?_⟩
  rw [hn] at hmul
  exact_mod_cast hmul

/-- The samples of the model that a callback gives back, as a piece of what was delivered. -/
lemma output_modelSamples {period blockSize : ℕ} {o : Observed F S}
    (hrings : RingsTracked period o) (hkept : OutputKept period o) {buffer : AudioBuffer F}
    (hsize : buffer.numSamples = blockSize)
    (hb : o.proc.outputBranch blockSize = .modelSamples) :
    (o.proc.processOutput buffer buffer.numSamples).2.samples 0 =
      (o.history.delivered.map nanToZero).slice
        (o.history.popped.length + o.proc.discardCount blockSize) blockSize := by
  have hpopped := hrings.popped_delivered blockSize
  have hfst := hrings.output.popSamples_fst hpopped (by rw [hrings.outputPeriod]; exact hkept)
  rw [OnnxProcessor.samples_processOutput, hsize, hb]
  dsimp only
  rw [hfst, OnnxProcessor.popCount_of_modelSamples hb, List.drop_slice]

/-- **Every step keeps the log aligned.**

**Proof sketch.** The pieces logged before stay where they are when more is delivered. A callback
that gives samples of the model back uses those that come after the samples popped so far and
those thrown away now, which is the piece its number and the new counter point to. -/
theorem LoggedAligned.step {ort : Ort F S File} {period blockSize : ℕ} {o o' : Observed F S}
    (h : LoggedAligned blockSize o) (hrings : RingsTracked period o)
    (hkept : OutputKept period o) (hpace : Paced blockSize o) (hcount : Counted blockSize o)
    (hpos : 0 < blockSize) {e : AudioEvent F} (hs : o.step ort e = some o') :
    LoggedAligned blockSize o' := by
  cases e with
  | sendAudio buffer =>
    obtain ⟨-, rfl⟩ := Observed.step_sendAudio hs
    exact h
  | processOutput =>
    obtain ⟨buffer, hc, rfl⟩ := Observed.step_processOutput hs
    have hsize := hpace.size buffer hc
    intro m hm hbranch
    simp only [List.length_append, List.length_singleton] at hm
    rcases Nat.lt_succ_iff_lt_or_eq.mp hm with hlt | rfl
    · rw [List.getElem_append_left hlt] at hbranch ⊢
      exact h m hlt hbranch
    · rw [List.getElem_concat_length rfl] at hbranch ⊢
      simp only [hsize] at hbranch ⊢
      obtain ⟨q, hq, hqmul⟩ := hcount.position hpace hpos hc hbranch
      have hpopped := hrings.popped_delivered blockSize
      rw [OnnxProcessor.popCount_of_modelSamples hbranch] at hpopped
      refine ⟨q, hq, ?_, ?_⟩
      · rw [Nat.succ_mul]
        omega
      · rw [hqmul, ← output_modelSamples hrings hkept hsize hbranch, hsize]
  | deliver =>
    obtain ⟨-, rfl⟩ := Observed.step_deliver hs
    intro m hm hbranch
    obtain ⟨q, hq, hqle, hout⟩ := h m hm hbranch
    refine ⟨q, hq, ?_, ?_⟩
    · rw [List.length_append]
      omega
    · rw [List.map_append, List.slice_append_left
        (by rw [List.length_map, ← Nat.succ_mul]; exact hqle)]
      exact hout
  | threadEnd =>
    obtain ⟨-, rfl⟩ := Observed.step_threadEnd hs
    exact h

/-! ## Delays and discards -/

/-- `inferenceCounter` before callback `m`. -/
def counterBefore (callbacks : List (Callback F)) (m : ℕ) : ℤ :=
  ((callbacks.take m).getLast?.map Callback.counter).getD 0

omit [FloatSample F] in
lemma counterBefore_length (callbacks : List (Callback F)) (c : Callback F) :
    counterBefore (callbacks ++ [c]) (callbacks ++ [c]).length = c.counter := by
  unfold counterBefore
  rw [List.take_length, List.getLast?_concat]
  rfl

/-- How a callback moves the counter, and what it gives back when it is not samples of the
model. -/
def Callback.Moves (before : ℤ) (c : Callback F) : Prop :=
  match c.branch with
  | .initialising => c.counter = before ∧ c.output = c.input
  | .modelSamples => c.counter = before ∨ (0 < before ∧ c.counter = before - 1)
  | .missingSamples => c.counter = before + 1 ∧ c.output = List.replicate c.input.length 0

/-- The log has every move of the counter. -/
structure CounterLogged (o : Observed F S) : Prop where
  last : o.proc.inferenceCounter = counterBefore o.history.callbacks o.history.callbacks.length
  moves : ∀ m (hm : m < o.history.callbacks.length),
    o.history.callbacks[m].Moves (counterBefore o.history.callbacks m)

/-- The move of a callback that ends. -/
lemma moves_processOutput (p : OnnxProcessor F S) (buffer : AudioBuffer F) :
    Callback.Moves p.inferenceCounter
      { input := buffer.samples 0
        branch := p.outputBranch buffer.numSamples
        output := (p.processOutput buffer buffer.numSamples).2.samples 0
        counter := p.counterAfter buffer.numSamples } := by
  unfold Callback.Moves OnnxProcessor.counterAfter
  rw [OnnxProcessor.samples_processOutput]
  dsimp only
  cases hb : p.outputBranch buffer.numSamples with
  | initialising => exact ⟨rfl, rfl⟩
  | modelSamples =>
    dsimp only
    unfold OnnxProcessor.discards
    split_ifs with hd
    · simp only [Bool.and_eq_true, decide_eq_true_eq] at hd
      exact Or.inr ⟨hd.1, rfl⟩
    · exact Or.inl rfl
  | missingSamples => exact ⟨rfl, by rw [AudioBuffer.length_samples]⟩

lemma CounterLogged.start (p : OnnxProcessor F S) (spec : ProcessSpec) :
    CounterLogged (Observed.start p spec) where
  last := rfl
  moves m hm := absurd hm (Nat.not_lt_zero m)

/-- **Every step keeps the moves of the counter logged.**

**Proof sketch.** Only `processOutput` appends to the callbacks. The counters before it are those of
the prefix, and its own move is that of `moves_processOutput`. -/
theorem CounterLogged.step {ort : Ort F S File} {o o' : Observed F S} (h : CounterLogged o)
    {e : AudioEvent F} (hs : o.step ort e = some o') : CounterLogged o' := by
  cases e with
  | sendAudio buffer =>
    obtain ⟨-, rfl⟩ := Observed.step_sendAudio hs
    exact ⟨h.last, h.moves⟩
  | processOutput =>
    obtain ⟨buffer, -, rfl⟩ := Observed.step_processOutput hs
    refine ⟨?_, fun m hm => ?_⟩
    · simp only [Observed.proc, OnnxProcessor.processOutput_eq, counterBefore_length]
    · simp only [List.length_append, List.length_singleton] at hm
      have htake : ∀ c, counterBefore (o.history.callbacks ++ [c]) m =
          counterBefore o.history.callbacks m := by
        intro c
        unfold counterBefore
        rw [List.take_append_of_le_length (by omega)]
      rw [htake]
      rcases Nat.lt_succ_iff_lt_or_eq.mp hm with hlt | rfl
      · rw [List.getElem_append_left hlt]
        exact h.moves m hlt
      · rw [List.getElem_concat_length rfl, ← h.last]
        exact moves_processOutput _ _
  | deliver =>
    obtain ⟨-, rfl⟩ := Observed.step_deliver hs
    exact ⟨h.last, h.moves⟩
  | threadEnd =>
    obtain ⟨-, rfl⟩ := Observed.step_threadEnd hs
    exact ⟨h.last, h.moves⟩

/-! ## Whole runs -/

/-- The blocks handed to the model are the first whole cuts of the stream. -/
lemma InputKept.blocks_initial {period : ℕ} {o : Observed F S} (h : InputKept period o) :
    o.history.blocks <+:
      (List.range (o.history.sent.length / modelInputSize)).map
        (cutBlock (o.history.sent.map nanToZero)) := by
  have hle : o.history.blocks.length ≤ o.history.sent.length / modelInputSize := by
    rw [Nat.le_div_iff_mul_le modelInputSize_pos]
    exact h.rings.input.popped_le
  rw [h.blocks]
  obtain ⟨d, hd⟩ := Nat.exists_eq_add_of_le hle
  rw [hd, List.range_add, List.map_append]
  exact List.prefix_append _ _

/-- The samples delivered are the first ones of what the jobs hand over for the stream. -/
lemma delivered_prefix_jobOutput {ort : Ort F S File} {period : ℕ} {o : Observed F S}
    {session : S} {last : ModelBlock F} (hkept : InputKept period o)
    (hserved : Served ort session last o) :
    o.history.delivered.map nanToZero <+: jobOutput ort session last o.history.sent :=
  (hserved.delivered_initial.trans
    (Ort.samples_served_initial last hkept.blocks_initial)).map nanToZero

/-- The samples delivered are the first ones of the output of the model. -/
lemma delivered_prefix_modelOutput {period : ℕ} {o : Observed F S} {session : S}
    {model : ModelBlock F → ModelBlock F} (hkept : InputKept period o)
    (hprov : Provenance session model o) :
    o.history.delivered.map nanToZero <+: modelOutput model o.history.sent :=
  (hprov.delivered_initial.trans (modelled_initial model hkept.blocks_initial)).map nanToZero

/-- What holds of a run with dropouts: the counter is never negative, nothing is popped that was
not delivered, and the samples of the model that a callback gives back begin
`latencyBlocks blockSize` blocks and as many more as the counter says before the callback. Zeros
put the output back by a block, and a block thrown away puts it forward by one. The output of
the model for the stream sent is `output`. -/
structure AlignedOutput (output : List F → List F) (blockSize : ℕ) (o : Observed F S) :
    Prop where
  counter_nonneg : 0 ≤ o.proc.inferenceCounter
  popped_le : o.history.popped.length ≤ o.history.delivered.length
  aligned : ∀ m (hm : m < o.history.callbacks.length),
    o.history.callbacks[m].branch = .modelSamples →
    ∃ q : ℕ, (q : ℤ) = m - latencyBlocks blockSize - o.history.callbacks[m].counter ∧
      (q + 1) * blockSize ≤ (output o.history.sent).length ∧
      o.history.callbacks[m].output = (output o.history.sent).slice (q * blockSize) blockSize
  moves : ∀ m (hm : m < o.history.callbacks.length),
    o.history.callbacks[m].Moves (counterBefore o.history.callbacks m)

/-- The invariants of a run with dropouts, up to what the jobs hand over. -/
structure Accounted (period blockSize : ℕ) (o : Observed F S) : Prop where
  input : InputKept period o
  output : OutputKept period o
  pace : Paced blockSize o
  count : Counted blockSize o
  log : LoggedAligned blockSize o
  counter : CounterLogged o

namespace Accounted

variable {ort : Ort F S File} {o o' : Observed F S} {period blockSize : ℕ}

lemma start (p : OnnxProcessor F S) (spec : ProcessSpec) (blockSize : ℕ) :
    Accounted (max spec.ringSize 1) blockSize (Observed.start p spec) where
  input := InputKept.start p spec
  output := Nat.zero_le _
  pace := Paced.start p spec blockSize
  count := Counted.start p spec blockSize
  log m hm := absurd hm (Nat.not_lt_zero m)
  counter := CounterLogged.start p spec

/-- Every step that fills no ring keeps the invariants. -/
lemma step (hpos : 0 < blockSize) (h : Accounted period blockSize o) {e : AudioEvent F}
    (he : e.HasSize blockSize) (hroom : NoOverrun period o e) (hs : o.step ort e = some o') :
    Accounted period blockSize o' where
  input := by
    refine h.input.step ?_ hs
    cases e with
    | sendAudio buffer => exact Nat.le_of_lt hroom
    | processOutput => trivial
    | deliver => trivial
    | threadEnd => trivial
  output := h.output.step hroom hs
  pace := h.pace.step he hs
  count := h.count.step h.pace hpos hs
  log := h.log.step h.input.rings h.output h.pace h.count hpos hs
  counter := h.counter.step hs

/-- What the invariants say about the output, if what was delivered is the first part of it. -/
lemma aligned (h : Accounted period blockSize o) {output : List F → List F}
    (hdelivered : o.history.delivered.map nanToZero <+: output o.history.sent) :
    AlignedOutput output blockSize o where
  counter_nonneg := h.count.nonneg
  popped_le := h.input.rings.output.popped_le
  aligned m hm hbranch := by
    obtain ⟨q, hq, hle, hout⟩ := h.log m hm hbranch
    have hlen := hdelivered.length_le
    rw [List.length_map] at hlen
    refine ⟨q, hq, hle.trans hlen, ?_⟩
    rw [hout, hdelivered.slice_eq]
    rwa [List.length_map, ← Nat.succ_mul]
  moves := h.counter.moves

end Accounted

/-- The invariants of a run with dropouts in which no call of `session.Run` throws. -/
structure Compensated (session : S) (model : ModelBlock F → ModelBlock F) (period blockSize : ℕ)
    (o : Observed F S) : Prop extends Accounted period blockSize o where
  provenance : Provenance session model o

namespace Compensated

variable {ort : Ort F S File} {o o' : Observed F S} {session : S}
  {model : ModelBlock F → ModelBlock F} {period blockSize : ℕ}

lemma start {p : OnnxProcessor F S} (hs : p.inferenceThread.session = some session)
    (ht : p.inferenceThread.thread ≠ .running) (spec : ProcessSpec) (blockSize : ℕ) :
    Compensated session model (max spec.ringSize 1) blockSize (Observed.start p spec) where
  toAccounted := Accounted.start p spec blockSize
  provenance := Provenance.start hs ht spec

/-- Every step that fills no ring keeps the invariants. -/
lemma step (hmodel : ∀ block, ort.run session block = .ok (model block))
    (hpos : 0 < blockSize) (h : Compensated session model period blockSize o)
    {e : AudioEvent F} (he : e.HasSize blockSize) (hroom : NoOverrun period o e)
    (hs : o.step ort e = some o') : Compensated session model period blockSize o' where
  toAccounted := h.toAccounted.step hpos he hroom hs
  provenance := h.provenance.step hmodel hs

/-- What the invariants say about the output. -/
lemma aligned (h : Compensated session model period blockSize o) :
    AlignedOutput (modelOutput model) blockSize o :=
  h.toAccounted.aligned (delivered_prefix_modelOutput h.input h.provenance)

end Compensated

/-- **Dropouts leave the output aligned.** In a run that begins with `prepare` while no inference
is in flight, with callbacks of `spec.maximumBlockSize` samples and completions of the inference
thread anywhere between them, as long as no ring is filled to its capacity: every block of
samples of the model is where the latency and the counter put it. A job whose call of
`session.Run` throws hands over the output of the job before it, or what was in the output vector
at the start; if none throws, the samples are the output of the model.

**Proof sketch.** The counts of samples and the output of the jobs are kept by every step that finds
room, and both together place every block of samples. If no job throws, the output of the jobs is
that of the model. -/
theorem output_aligned {ort : Ort F S File} {session : S} {p : OnnxProcessor F S}
    (hsession : p.inferenceThread.session = some session)
    (hidle : p.inferenceThread.thread ≠ .running) {spec : ProcessSpec}
    (hpos : 0 < spec.maximumBlockSize) {es : List (AudioEvent F)}
    (hsize : ∀ e ∈ es, e.HasSize spec.maximumBlockSize)
    (hroom : Transition.StepsMeet (Observed.step ort) (NoOverrun spec.ringSize)
      (Observed.start p spec) es) :
    (p.prepare spec).getLatency =
        (latencyBlocks spec.maximumBlockSize * spec.maximumBlockSize : ℕ) ∧
      Transition.Always (Observed.step ort)
        (AlignedOutput (jobOutput ort session p.inferenceThread.onnxOutputData)
          spec.maximumBlockSize) (Observed.start p spec) es ∧
      ∀ model : ModelBlock F → ModelBlock F,
        (∀ block, ort.run session block = .ok (model block)) →
        Transition.Always (Observed.step ort)
          (AlignedOutput (modelOutput model) spec.maximumBlockSize) (Observed.start p spec) es := by
  have hroom' := hroom.mono fun o e h => NoOverrun.mono (Nat.le_max_left _ 1) h
  have hsteps := hroom'.and (Transition.stepsMeet_of_forall _ hsize)
  have halways := (Transition.always_of_stepsMeet
    (I := fun o => Accounted (max spec.ringSize 1) spec.maximumBlockSize o ∧
      Served ort session p.inferenceThread.onnxOutputData o)
    (fun _ _ _ h hc hs => ⟨h.1.step hpos hc.2 hc.1 hs, h.2.step hs⟩)
    ⟨Accounted.start p spec _, Served.start hsession hidle spec⟩ hsteps).mono
      fun _ h => h.1.aligned (delivered_prefix_jobOutput h.1.input h.2)
  refine ⟨OnnxProcessor.prepare_latency p spec hpos, halways, fun model hmodel => ?_⟩
  have heq : jobOutput ort session p.inferenceThread.onnxOutputData = modelOutput model :=
    funext (jobOutput_eq_modelOutput hmodel _)
  rwa [heq] at halways

/-- `NoOverrun`, of a timing. -/
def Timing.noOverrun (capacity : ℕ) (t : Timing) : TimingEvent → Bool
  | .sendAudio numSamples =>
    decide (t.sent + numSamples < t.blocks * modelInputSize + capacity)
  | .processOutput => true
  | .deliver => decide (t.delivered + modelInputSize < t.popped + capacity)
  | .threadEnd => true

omit [FloatSample F] in
lemma noOverrun_of_timing {capacity : ℕ} (o : Observed F S) (e : AudioEvent F)
    (h : o.timing.noOverrun capacity e.timing = true) : NoOverrun capacity o e := by
  cases e with
  | sendAudio buffer =>
    simp only [AudioEvent.timing, Timing.noOverrun, decide_eq_true_eq] at h
    exact h
  | processOutput => trivial
  | deliver =>
    simp only [AudioEvent.timing, Timing.noOverrun, decide_eq_true_eq] at h
    exact h
  | threadEnd => trivial

/-- Five callbacks that the inference thread does not come to deliver in, and one after it has
delivered. -/
def lateRun : List (AudioEvent ExactFloat) :=
  callbacks ((List.range 5).map (rampBlock 4096)) ++ [.deliver, .threadEnd] ++
    callbacks [rampBlock 4096 5]

lemma lateRun_timing : lateRun.map AudioEvent.timing =
    [.sendAudio 4096, .processOutput, .sendAudio 4096, .processOutput, .sendAudio 4096,
      .processOutput, .sendAudio 4096, .processOutput, .sendAudio 4096, .processOutput,
      .deliver, .threadEnd, .sendAudio 4096, .processOutput] := by
  simp [lateRun, callbacks, AudioEvent.timing, List.range_succ]

/-- The theorem at work: the fifth callback finds no samples and gives back zeros; the sixth finds
a whole block, throws a quarter of it away and gives back the next one. -/
theorem output_aligned_late_run :
    (∃ o, Transition.exec (Observed.step (Ort.passThrough ExactFloat))
        (Observed.start (.passThrough ExactFloat) ⟨48000, 4096, 1⟩) lateRun = some o ∧
      o.history.callbacks.map Callback.timing =
        [(.initialising, 0), (.initialising, 0), (.initialising, 0), (.initialising, 0),
          (.missingSamples, 1), (.modelSamples, 0)]) ∧
      Transition.Always (Observed.step (Ort.passThrough ExactFloat))
        (AlignedOutput (modelOutput id) 4096)
        (Observed.start (.passThrough ExactFloat) ⟨48000, 4096, 1⟩) lateRun := by
  have hpos : 0 < (ProcessSpec.mk 48000 4096 1).maximumBlockSize := by norm_num
  refine ⟨Observed.exists_exec_start rfl rfl _ _ _ Timing.callbacks ?_,
    (output_aligned (rfl : _ = some ()) ThreadState.noConfusion hpos ?_ ?_).2.2 id fun _ => rfl⟩
  · rw [ProcessSpec.ringSize_ofNat, lateRun_timing]
    decide +kernel
  · intro e he
    rcases List.mem_append.mp he with he | he
    · rcases List.mem_append.mp he with he | he
      · exact callbacks_hasSize (by simp) e he
      · simp only [List.mem_cons, List.not_mem_nil, or_false] at he
        rcases he with rfl | rfl <;> trivial
    · exact callbacks_hasSize (by simp) e he
  · refine Observed.stepsMeet_start rfl rfl _ noOverrun_of_timing ?_
    rw [ProcessSpec.ringSize_ofNat, lateRun_timing]
    decide +kernel
