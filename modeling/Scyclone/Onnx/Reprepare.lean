import Scyclone.Onnx.OutputAlignment
import Mathlib.Algebra.Group.Action.Defs

set_option relaxedAutoImplicit false
set_option autoImplicit false

/-!
# Preparing again

`prepare` may be called in any state of a processor. It starts over with empty rings, but it does
not stop the inference thread: a block that was handed to the model before is delivered after it,
into the new output ring. The loading of a model stops the thread first; `prepare` does not. Nor
does it clear `onnxOutputData`, which is what a job delivers whose call of `session.Run` throws.

## Main definitions

* `OutputForSent` — a sample is the output of the model for a sample sent since `prepare`.
* `Isolated` — every sample popped is, and the first one is the output for the first sample.
* `FirstRunReturns` — the first inference since `prepare` does not throw.
* `RoomForFirst` — no ring overflows before the first block is taken, and popped from.

## Main results

* `OwnOutput.step`, `FirstOutput.step` — the invariants of a run with no inference in flight at
  its start.
* `reprepare_isolated` — when sessions are isolated.
-/

variable {F S File : Type} [FloatSample F]

/-- The sample is what the session has returned for a sample sent since the start of the run. -/
def OutputForSent (ort : Ort F S File) (session : S) (o : Observed F S) (x : F) : Prop :=
  ∃ block ∈ o.history.blocks, ∃ output, ort.run session block = .ok output ∧
    ∃ i, x = nanToZero (output i) ∧ block i ∈ o.history.sent.map nanToZero

/-- The samples popped are the output of the model for samples sent since the start, and the
first one is the output for the first sample sent. -/
structure Isolated (ort : Ort F S File) (session : S) (o : Observed F S) : Prop where
  own : ∀ x ∈ o.history.popped, OutputForSent ort session o x
  first : ∀ x, o.history.popped.head? = some x →
    modelInputSize ≤ o.history.sent.length ∧
      ∃ output, ort.run session (cutBlock (o.history.sent.map nanToZero) 0) = .ok output ∧
        x = nanToZero (output ⟨0, modelInputSize_pos⟩)

/-- The first job to deliver since the start does not find `session.Run` throwing. -/
def FirstRunReturns (ort : Ort F S File) (session : S) (o : Observed F S) :
    AudioEvent F → Prop
  | .sendAudio _ => True
  | .processOutput => True
  | .deliver => o.history.delivered = [] →
    ∃ output, ort.run session o.inference.onnxInputData = .ok output
  | .threadEnd => True

/-- The input ring does not overflow before the first block is taken from it, nor the output ring
before anything is popped from it. -/
def RoomForFirst (capacity : ℕ) (o : Observed F S) : AudioEvent F → Prop
  | .sendAudio buffer =>
    o.history.blocks = [] → o.history.sent.length + buffer.numSamples ≤ capacity
  | .processOutput => True
  | .deliver => o.history.popped = [] → o.history.delivered.length + modelInputSize ≤ capacity
  | .threadEnd => True

omit [FloatSample F] in
/-- A larger ring overflows later. -/
lemma RoomForFirst.mono {capacity capacity' : ℕ} (h : capacity ≤ capacity') {o : Observed F S}
    {e : AudioEvent F} (hroom : RoomForFirst capacity o e) : RoomForFirst capacity' o e := by
  cases e with
  | sendAudio buffer => exact fun hnil => (hroom hnil).trans h
  | processOutput => trivial
  | deliver => exact fun hnil => (hroom hnil).trans h
  | threadEnd => trivial

/-! ## Every sample popped -/

/-- The rings, what was delivered, and where the samples of the blocks and those popped come
from. -/
structure OwnOutput (ort : Ort F S File) (session : S) (last : ModelBlock F) (period : ℕ)
    (o : Observed F S) : Prop where
  rings : RingsTracked period o
  served : Served ort session last o
  blocks : ∀ block ∈ o.history.blocks, ∀ i, block i ∈ o.history.sent.map nanToZero
  returned : o.history.delivered ≠ [] → ∃ block, o.history.blocks.head? = some block ∧
    ∃ output, ort.run session block = .ok output
  own : ∀ x ∈ o.history.popped, OutputForSent ort session o x

/-- The first entry of a prefix. -/
lemma List.IsPrefix.head?_eq {α : Type} {xs ys : List α} (h : xs <+: ys) {x : α}
    (hx : xs.head? = some x) : ys.head? = some x := by
  obtain ⟨t, rfl⟩ := h
  rw [List.head?_append, hx]
  rfl

/-- Every sample of a block that is handed to the model has been sent, also after others were
overwritten. -/
lemma RingsTracked.nextBlock_mem {period : ℕ} {o : Observed F S} (h : RingsTracked period o)
    {buffer : AudioBuffer F} (hs : o.inference.starts buffer = true) (i : Fin modelInputSize) :
    o.nextBlock buffer i ∈ (o.history.sent ++ buffer.samples 0).map nanToZero := by
  refine (h.fedRing buffer).mem_popSamples (h.block_sent hs) _ ?_
  have hlen := RingBuffer.length_popSamples (o.inference.fedRing buffer) 0 modelInputSize
  have hi : (i : ℕ) < ((o.inference.fedRing buffer).popSamples 0 modelInputSize).1.length := by
    rw [hlen]
    exact i.isLt
  unfold Observed.nextBlock ModelBlock.ofList
  rw [List.getD_eq_getElem?_getD, List.getElem?_eq_getElem hi, Option.getD_some]
  exact List.getElem_mem hi

/-- If the first call of `session.Run` returns, then every sample delivered is what the session
has returned for one of the blocks: after that, also the output vector has nothing else. -/
lemma OwnOutput.mem_delivered {ort : Ort F S File} {session : S} {last : ModelBlock F} {period : ℕ}
    {o : Observed F S} (h : OwnOutput ort session last period o) {y : F}
    (hy : y ∈ o.history.delivered) : ∃ block ∈ o.history.blocks, ∃ output,
      ort.run session block = .ok output ∧ ∃ i, output i = y := by
  obtain ⟨first, hhead, output₀, hreturned⟩ := h.returned (List.ne_nil_of_mem hy)
  obtain ⟨rest, hblocks⟩ := List.head?_eq_some_iff.mp hhead
  obtain ⟨output, houtput, hmem⟩ := List.mem_flatMap.mp (h.served.delivered_initial.subset hy)
  obtain ⟨i, hi⟩ := List.mem_ofFn.mp hmem
  rw [hblocks] at houtput ⊢
  have hfirst : ort.output session last first = output₀ := by simp only [Ort.output, hreturned]
  have hcases : output = output₀ ∨ ∃ block ∈ rest, ort.run session block = .ok output := by
    simp only [Ort.served, hfirst, List.mem_cons] at houtput
    rcases houtput with heq | hrest
    · exact Or.inl heq
    · exact Ort.eq_or_of_mem_served hrest
  rcases hcases with rfl | ⟨block, hblock, hrun⟩
  · exact ⟨first, List.mem_cons_self, output, hreturned, i, hi⟩
  · exact ⟨block, List.mem_cons_of_mem _ hblock, output, hrun, i, hi⟩

omit [FloatSample F] in
/-- Before the first delivery, the block that the thread works on is the first one. -/
lemma Served.head?_of_running {ort : Ort F S File} {session : S} {last : ModelBlock F}
    {o : Observed F S} (h : Served ort session last o) (ht : o.inference.thread = .running)
    (hnil : o.history.delivered = []) :
    o.history.blocks.head? = some o.inference.onnxInputData := by
  obtain ⟨done, hblocks, hdelivered, -⟩ := h.jobs
  have hdone : done = [] := by
    cases done with
    | nil => rfl
    | cons block rest =>
      have hlen := congrArg List.length (hdelivered.symm.trans hnil)
      have hpos := modelInputSize_pos
      simp only [Ort.served, List.flatMap_cons, List.length_append, List.length_ofFn,
        List.length_nil] at hlen
      omega
  rw [hblocks, hdone, if_pos ht]
  rfl

/-- The first call of `session.Run` has returned, if it has been made.

**Proof sketch.** Only the first delivery makes the list of what was delivered other than empty, and
its block is the first one; any other step keeps that block in its place. -/
lemma OwnOutput.returned_step {ort : Ort F S File} {o o' : Observed F S} {session : S}
    {last : ModelBlock F} {period : ℕ} (h : OwnOutput ort session last period o)
    {e : AudioEvent F} (hc : FirstRunReturns ort session o e) (hs : o.step ort e = some o') :
    o'.history.delivered ≠ [] → ∃ block, o'.history.blocks.head? = some block ∧
      ∃ output, ort.run session block = .ok output := by
  -- a step that delivers nothing and only adds blocks at the end
  have hgrow : o'.history.delivered = o.history.delivered →
      o.history.blocks <+: o'.history.blocks → o'.history.delivered ≠ [] →
      ∃ block, o'.history.blocks.head? = some block ∧
        ∃ output, ort.run session block = .ok output := by
    intro hdelivered hblocks hne
    obtain ⟨block, hhead, hrun⟩ := h.returned (hdelivered ▸ hne)
    exact ⟨block, hblocks.head?_eq hhead, hrun⟩
  cases e with
  | sendAudio buffer =>
    obtain ⟨-, rfl⟩ := Observed.step_sendAudio hs
    refine hgrow rfl ?_
    dsimp only
    split_ifs
    · exact List.prefix_append _ _
    · exact List.prefix_rfl
  | processOutput =>
    obtain ⟨buffer, -, rfl⟩ := Observed.step_processOutput hs
    exact hgrow rfl List.prefix_rfl
  | deliver =>
    obtain ⟨ht, rfl⟩ := Observed.step_deliver hs
    intro _
    by_cases hnil : o.history.delivered = []
    · exact ⟨_, h.served.head?_of_running ht hnil, hc hnil⟩
    · exact h.returned hnil
  | threadEnd =>
    obtain ⟨-, rfl⟩ := Observed.step_threadEnd hs
    exact hgrow rfl List.prefix_rfl

/-- **Every step keeps the output of a session its own.**

**Proof sketch.** A block handed to the model is popped from a ring that only samples sent since
the start were pushed to, and a sample popped from the output ring has been delivered, which only
the output for such blocks is. Neither needs the rings not to overflow. -/
theorem OwnOutput.step {ort : Ort F S File} {o o' : Observed F S} {session : S}
    {last : ModelBlock F} {period : ℕ} (h : OwnOutput ort session last period o)
    {e : AudioEvent F} (hc : FirstRunReturns ort session o e) (hs : o.step ort e = some o') :
    OwnOutput ort session last period o' := by
  refine ⟨h.rings.step hs, h.served.step hs, ?_, h.returned_step hc hs, ?_⟩
  · cases e with
    | sendAudio buffer =>
      obtain ⟨-, rfl⟩ := Observed.step_sendAudio hs
      have hold : ∀ block ∈ o.history.blocks, ∀ i,
          block i ∈ (o.history.sent ++ buffer.samples 0).map nanToZero := by
        intro block hblock i
        rw [List.map_append]
        exact List.mem_append_left _ (h.blocks block hblock i)
      cases hst : o.inference.starts buffer with
      | true =>
        simp only [if_true]
        intro block hblock i
        rcases List.mem_append.mp hblock with hblock | hblock
        · exact hold block hblock i
        · obtain rfl := List.mem_singleton.mp hblock
          exact h.rings.nextBlock_mem hst i
      | false =>
        simp only [Bool.false_eq_true, if_false]
        exact hold
    | processOutput =>
      obtain ⟨buffer, -, rfl⟩ := Observed.step_processOutput hs
      exact h.blocks
    | deliver =>
      obtain ⟨-, rfl⟩ := Observed.step_deliver hs
      exact h.blocks
    | threadEnd =>
      obtain ⟨-, rfl⟩ := Observed.step_threadEnd hs
      exact h.blocks
  · cases e with
    | sendAudio buffer =>
      obtain ⟨-, rfl⟩ := Observed.step_sendAudio hs
      intro x hx
      obtain ⟨block, hblock, output, hrun, i, hxi, hi⟩ := h.own x hx
      refine ⟨block, ?_, output, hrun, i, hxi, ?_⟩
      · split_ifs
        · exact List.mem_append_left _ hblock
        · exact hblock
      · rw [List.map_append]
        exact List.mem_append_left _ hi
    | processOutput =>
      obtain ⟨buffer, -, rfl⟩ := Observed.step_processOutput hs
      intro x hx
      rcases List.mem_append.mp hx with hx | hx
      · exact h.own x hx
      · have hmem := h.rings.output.mem_popSamples (h.rings.popped_delivered _) x hx
        obtain ⟨y, hy, rfl⟩ := List.mem_map.mp hmem
        obtain ⟨block, hblock, output, hrun, i, rfl⟩ := h.mem_delivered hy
        exact ⟨block, hblock, output, hrun, i, rfl, h.blocks block hblock i⟩
    | deliver =>
      obtain ⟨-, rfl⟩ := Observed.step_deliver hs
      exact h.own
    | threadEnd =>
      obtain ⟨-, rfl⟩ := Observed.step_threadEnd hs
      exact h.own

/-! ## The first sample popped -/

/-- The first block is the first cut of the stream, and the first sample popped is the first one
of the output of the model. -/
structure FirstOutput (ort : Ort F S File) (session : S) (last : ModelBlock F) (period : ℕ)
    (o : Observed F S) : Prop where
  unsent : o.history.blocks = [] → o.history.sent.length ≤ period
  block : ∀ block, o.history.blocks.head? = some block →
    modelInputSize ≤ o.history.sent.length ∧
      block = cutBlock (o.history.sent.map nanToZero) 0
  unpopped : o.history.popped = [] → o.history.delivered.length ≤ period
  first : ∀ x, o.history.popped.head? = some x →
    (((ort.served session last o.history.blocks).flatMap List.ofFn).map nanToZero).head? = some x

namespace FirstOutput

variable {ort : Ort F S File} {o o' : Observed F S} {session : S} {last : ModelBlock F}
  {period : ℕ}

lemma start (ort : Ort F S File) (session : S) (last : ModelBlock F) (p : OnnxProcessor F S)
    (spec : ProcessSpec) (period : ℕ) :
    FirstOutput ort session last period (Observed.start p spec) where
  unsent _ := Nat.zero_le _
  block _ h := by cases h
  unpopped _ := Nat.zero_le _
  first _ h := by cases h

/-- The beginning of a callback.

**Proof sketch.** The first block is cut when the thread starts for the first time, and the ring had
room until then, so it is the first part of what was sent; later samples and blocks come after it.
-/
lemma step_sendAudio (h : FirstOutput ort session last period o) (hrings : RingsTracked period o)
    {buffer : AudioBuffer F} (hroom : RoomForFirst period o (.sendAudio buffer))
    (hs : o.step ort (.sendAudio buffer) = some o') : FirstOutput ort session last period o' := by
  obtain ⟨-, rfl⟩ := Observed.step_sendAudio hs
  simp only [RoomForFirst] at hroom
  have hgrow : o.history.blocks <+:
      if o.inference.starts buffer then o.history.blocks ++ [o.nextBlock buffer]
      else o.history.blocks := by
    split_ifs
    · exact List.prefix_append _ _
    · exact List.prefix_rfl
  have hlen : (o.history.sent ++ buffer.samples 0).length =
      o.history.sent.length + buffer.numSamples := by
    rw [List.length_append, AudioBuffer.length_samples]
  refine ⟨fun hnil => ?_, fun block hblock => ?_, h.unpopped, fun x hx => ?_⟩
  · have hnil' : o.history.blocks = [] := List.prefix_nil.mp (hnil ▸ hgrow)
    rw [hlen]
    exact hroom hnil'
  · cases hblocks : o.history.blocks with
    | nil =>
      rw [hblocks] at hblock hroom
      cases hst : o.inference.starts buffer with
      | true =>
        have hzero : o.history.blocks.length * modelInputSize = 0 := by
          rw [hblocks, List.length_nil, Nat.zero_mul]
        have hnext := hrings.nextBlock_eq hst (by rw [hzero, Nat.zero_add]; exact hroom rfl)
        have hsent := hrings.block_sent hst
        rw [hzero, Nat.zero_add] at hsent
        rw [hblocks, List.length_nil] at hnext
        simp only [hst, if_true, List.nil_append, List.head?_cons, Option.some.injEq] at hblock
        exact ⟨hsent, hblock ▸ hnext⟩
      | false => simp [hst] at hblock
    | cons first rest =>
      obtain ⟨hle, hfirst⟩ := h.block first (by rw [hblocks]; rfl)
      have hhead := hgrow.head?_eq (x := first) (by rw [hblocks]; rfl)
      rw [hhead] at hblock
      obtain rfl := Option.some.inj hblock
      have hinside : (0 + 1) * modelInputSize ≤ (o.history.sent.map nanToZero).length := by
        rw [List.length_map]
        omega
      refine ⟨hle.trans (by rw [hlen]; exact Nat.le_add_right _ _), ?_⟩
      rw [List.map_append, cutBlock_append hinside]
      exact hfirst
  · exact ((Ort.samples_served_initial last hgrow).map nanToZero).head?_eq (h.first x hx)

/-- The end of a callback. -/
lemma step_processOutput (h : FirstOutput ort session last period o)
    (hrings : RingsTracked period o) (hserved : Served ort session last o)
    (hs : o.step ort .processOutput = some o') :
    FirstOutput ort session last period o' := by
  obtain ⟨buffer, -, rfl⟩ := Observed.step_processOutput hs
  refine ⟨h.unsent, h.block, fun hnil => h.unpopped (List.append_eq_nil_iff.mp hnil).1, ?_⟩
  intro x hx
  cases hpopped : o.history.popped with
  | cons y rest =>
    rw [hpopped] at hx
    exact h.first x (by rw [hpopped]; exact hx)
  | nil =>
    have hle := hrings.popped_delivered buffer.numSamples
    have hroom := h.unpopped hpopped
    have hfst := hrings.output.popSamples_fst hle (by rw [hrings.outputPeriod]; omega)
    rw [hpopped, List.length_nil] at hfst
    rw [hpopped, List.nil_append, hfst] at hx
    have htake : (o.history.delivered.map nanToZero).slice 0
        (o.proc.popCount buffer.numSamples) <+: o.history.delivered.map nanToZero :=
      List.take_prefix _ _
    exact (htake.trans (hserved.delivered_initial.map nanToZero)).head?_eq hx

/-- **Every step keeps the first sample popped**, if neither ring overflows before it. -/
theorem step (h : FirstOutput ort session last period o) (hrings : RingsTracked period o)
    (hserved : Served ort session last o) {e : AudioEvent F} (hroom : RoomForFirst period o e)
    (hs : o.step ort e = some o') : FirstOutput ort session last period o' := by
  cases e with
  | sendAudio buffer => exact h.step_sendAudio hrings hroom hs
  | processOutput => exact h.step_processOutput hrings hserved hs
  | deliver =>
    obtain ⟨-, rfl⟩ := Observed.step_deliver hs
    refine ⟨h.unsent, h.block, fun hnil => ?_, h.first⟩
    rw [List.length_append, List.length_ofFn]
    exact hroom hnil
  | threadEnd =>
    obtain ⟨-, rfl⟩ := Observed.step_threadEnd hs
    exact ⟨h.unsent, h.block, h.unpopped, h.first⟩

/-- What the invariants say about the samples popped.

**Proof sketch.** If a sample has been popped, a block was delivered, and all of that come from the
new session. The first one popped is the first of the first block served, which is the output of the
session for the first block cut. -/
lemma isolated (h : FirstOutput ort session last period o)
    (hown : OwnOutput ort session last period o) : Isolated ort session o where
  own := hown.own
  first x hx := by
    have hdelivered : o.history.delivered ≠ [] := by
      intro hnil
      have hle := hown.rings.output.popped_le
      rw [hnil, List.length_nil, Nat.le_zero, List.length_eq_zero_iff] at hle
      rw [hle] at hx
      cases hx
    obtain ⟨block, hblock, output, hrun⟩ := hown.returned hdelivered
    obtain ⟨rest, hblocks⟩ := List.head?_eq_some_iff.mp hblock
    obtain ⟨hle, hcut⟩ := h.block block hblock
    refine ⟨hle, output, hcut ▸ hrun, ?_⟩
    have hfirst : ort.output session last block = output := by simp only [Ort.output, hrun]
    have hhead := h.first x hx
    rw [hblocks, Ort.served, List.flatMap_cons, List.map_append, hfirst] at hhead
    have hofFn : ((List.ofFn output).map nanToZero).head? =
        some (nanToZero (output ⟨0, modelInputSize_pos⟩)) := by
      rw [List.head?_map, List.head?_eq_getElem?, List.getElem?_ofFn, dif_pos modelInputSize_pos]
      rfl
    rw [List.head?_append, hofFn, Option.some_or, Option.some.injEq] at hhead
    exact hhead.symm

end FirstOutput

/-! ## An inference in flight -/

/-- A block of 512 zeros. -/
def silence (F : Type) [Zero F] : AudioBuffer F := .ofList (List.replicate 512 0)

/-- The number of callbacks of 512 samples until `init` is over. -/
lemma latencyBlocks_512 : latencyBlocks 512 = 39 := by
  unfold latencyBlocks
  rw [modelInputSize_eq, maxModelCalcSize_eq]

@[simp] lemma silence_numSamples : (silence F).numSamples = 512 := by
  unfold silence
  rw [AudioBuffer.ofList_numSamples, List.length_replicate]

lemma eq_zero_of_mem_silence {x : F} (hx : x ∈ (silence F).samples 0) : x = 0 := by
  unfold silence at hx
  rw [AudioBuffer.samples_ofList] at hx
  exact List.eq_of_mem_replicate hx

/-- 39 callbacks of silence and the first part of another one: 40 blocks of zeros have been sent,
and no block is added to those that the thread was started on before.

**Proof sketch.** 39 whole callbacks and the beginning of one more can always be run; while the
thread is busy none of them starts it. -/
lemma exists_exec_silence_sent (ort : Ort F S File) {o₀ : Observed F S}
    (hc : o₀.live.callback = none) (hsent : o₀.history.sent = []) :
    ∃ o, Transition.exec (Observed.step ort) o₀
        (callbacks (List.replicate 39 (silence F)) ++ [.sendAudio (silence F)]) = some o ∧
      o.live.callback = some (silence F) ∧
      o.history.delivered = o₀.history.delivered ∧
      o.history.sent.length = 40 * 512 ∧ (∀ x ∈ o.history.sent, x = 0) ∧
      (o₀.inference.thread ≠ .stopped →
        o.history.blocks.length = o₀.history.blocks.length) := by
  obtain ⟨o₁, hexec₁, hc₁, hsent₁, hdel₁, -, hbusy₁⟩ :=
    exists_exec_callbacks ort (List.replicate 39 (silence F)) hc
  obtain ⟨o₂, hs₂, hc₂⟩ := Observed.exists_step_sendAudio ort (silence F) hc₁
  obtain ⟨-, heq₂⟩ := Observed.step_sendAudio hs₂
  have hsent₂ : o₂.history.sent = o₁.history.sent ++ (silence F).samples 0 := by rw [heq₂]
  refine ⟨o₂, ?_, hc₂, by rw [heq₂, ← hdel₁], ?_, fun x hx => ?_, fun hne => ?_⟩
  · rw [Transition.exec_append_of_exec hexec₁, Transition.exec_cons_of_step hs₂,
      Transition.exec_nil]
  · rw [hsent₂, hsent₁, hsent, List.nil_append, List.length_append, List.length_flatMap,
      List.map_replicate, List.sum_replicate, AudioBuffer.length_samples, silence_numSamples,
      smul_eq_mul]
  · rw [hsent₂, hsent₁, hsent, List.nil_append] at hx
    rcases List.mem_append.mp hx with hx | hx
    · obtain ⟨buffer, hbuffer, hx⟩ := List.mem_flatMap.mp hx
      rw [List.eq_of_mem_replicate hbuffer] at hx
      exact eq_zero_of_mem_silence hx
    · exact eq_zero_of_mem_silence hx
  · obtain ⟨hsame, hne₁⟩ := hbusy₁ hne
    have hidle : o₁.inference.starts (silence F) = false :=
      Bool.eq_false_iff.mpr fun hst => hne₁ ((InferenceThread.starts_iff _ _).mp hst).1
    rw [heq₂, hidle]
    exact hsame

/-- When 40 blocks have been sent and the last callback has not ended, `init` has just ended:
nothing has been popped, and the callback pops samples of what has been delivered.

**Proof sketch.** 40 blocks are what `init` takes, so it has just ended; the counts then say that
nothing was popped, and the ring holds what was delivered. -/
lemma outputBranch_of_silence {ort : Ort F S File} {p : OnnxProcessor F S} {spec : ProcessSpec}
    (hring : modelInputSize < spec.ringSize) {es : List (AudioEvent F)}
    (hes : ∀ e ∈ es, e.HasSize 512) {o : Observed F S}
    (hexec : Transition.exec (Observed.step ort) (Observed.start p spec) es = some o)
    (hc : o.live.callback = some (silence F)) (hsent : o.history.sent.length = 40 * 512)
    (hdel : o.history.delivered.length = modelInputSize) :
    o.history.popped = [] ∧ o.proc.outputBranch 512 = .modelSamples := by
  obtain ⟨hrings, hpace, hcount⟩ := counted_of_exec (by norm_num) hes hexec
  have hcallbacks : o.history.callbacks.length = 39 := by
    have hbegun := hpace.sent
    simp only [Observed.begun, hc, Option.isSome_some, if_true] at hbegun
    omega
  have hinit : o.inference.init = false := by
    rw [hpace.init, hsent, modelInputSize_eq, maxModelCalcSize_eq]
    exact decide_eq_false (by norm_num)
  have hpopped : o.history.popped = [] := by
    have hpopped := hcount.popped
    have hnonneg := hcount.nonneg
    rw [hcallbacks, latencyBlocks_512] at hpopped
    refine List.eq_nil_of_length_eq_zero ?_
    omega
  have havail : o.proc.receiveRingBuffer.getAvailableSamples 0 = modelInputSize := by
    have hlt : o.history.delivered.length - o.history.popped.length <
        o.proc.receiveRingBuffer.period := by
      rw [hdel, hrings.outputPeriod]
      omega
    rw [hrings.output.getAvailableSamples_of_lt hlt, hpopped, hdel, List.length_nil, Nat.sub_zero]
  refine ⟨hpopped, OnnxProcessor.outputBranch_eq_modelSamples.mpr ⟨hinit, ?_⟩⟩
  rw [havail, modelInputSize_eq]
  norm_num

/-- If a block has been delivered before anything was sent, then 40 callbacks of silence pop
samples of it.

**Proof sketch.** When the last of them ends, `init` has just ended, so nothing has been popped
before, and the delivered block is all there is to pop. -/
lemma exists_exec_silence (ort : Ort F S File) (p : OnnxProcessor F S) {spec : ProcessSpec}
    (hring : modelInputSize < spec.ringSize) {early : List (AudioEvent F)}
    (hearly : ∀ e ∈ early, e.HasSize 512) {o₀ : Observed F S}
    (hexec : Transition.exec (Observed.step ort) (Observed.start p spec) early = some o₀)
    (hc : o₀.live.callback = none) (hsent : o₀.history.sent = [])
    (hdel : o₀.history.delivered.length = modelInputSize) :
    ∃ o, Transition.exec (Observed.step ort) (Observed.start p spec)
        (early ++ callbacks (List.replicate 40 (silence F))) = some o ∧
      o.history.popped ≠ [] ∧
      (∀ x ∈ o.history.popped, x ∈ o₀.history.delivered.map nanToZero) ∧
      (∀ x ∈ o.history.sent, x = 0) ∧
      (o₀.inference.thread ≠ .stopped →
        o.history.blocks.length = o₀.history.blocks.length) := by
  obtain ⟨o₂, hexec₂, hc₂, hdel₂, hlen₂, hzero, hblocks⟩ := exists_exec_silence_sent ort hc hsent
  obtain ⟨o₃, hs₃, -⟩ := Observed.exists_step_processOutput ort hc₂
  have hrun := (Transition.exec_append_of_exec hexec _).trans hexec₂
  have hsizes : ∀ e ∈ early ++ (callbacks (List.replicate 39 (silence F)) ++
      [.sendAudio (silence F)]), e.HasSize 512 := by
    intro e he
    rcases List.mem_append.mp he with he | he
    · exact hearly e he
    · rcases List.mem_append.mp he with he | he
      · refine callbacks_hasSize (fun buffer hmem => ?_) e he
        rw [List.eq_of_mem_replicate hmem, silence_numSamples]
      · rw [List.mem_singleton.mp he]
        exact silence_numSamples
  obtain ⟨hpopped₂, hbranch⟩ :=
    outputBranch_of_silence hring hsizes hrun hc₂ hlen₂ (by rw [hdel₂, hdel])
  obtain ⟨hrings, -, -⟩ := counted_of_exec (by norm_num) hsizes hrun
  obtain ⟨buffer, hbuffer, heq₃⟩ := Observed.step_processOutput hs₃
  obtain rfl := Option.some.inj (hc₂.symm.trans hbuffer)
  have hpopped₃ : o₃.history.popped =
      (o₂.proc.receiveRingBuffer.popSamples 0 (o₂.proc.popCount 512)).1 := by
    rw [heq₃, hpopped₂, silence_numSamples]
    rfl
  refine ⟨o₃, ?_, ?_, ?_, ?_, fun hne => ?_⟩
  · have hlast : callbacks (List.replicate 40 (silence F)) =
        (callbacks (List.replicate 39 (silence F)) ++ [.sendAudio (silence F)]) ++
          [.processOutput] := by
      rw [List.replicate_succ', callbacks_append, List.append_assoc]
      rfl
    rw [hlast, ← List.append_assoc, Transition.exec_append_of_exec hrun,
      Transition.exec_cons_of_step hs₃, Transition.exec_nil]
  · intro hnil
    have hlen := RingBuffer.length_popSamples o₂.proc.receiveRingBuffer 0
      (o₂.proc.popCount 512)
    rw [← hpopped₃, hnil, OnnxProcessor.popCount_of_modelSamples hbranch] at hlen
    simp at hlen
  · intro x hx
    rw [hpopped₃] at hx
    rw [← hdel₂]
    have hle := hrings.popped_delivered 512
    exact hrings.output.mem_popSamples hle x hx
  · rw [heq₃]
    exact hzero
  · rw [heq₃]
    exact hblocks hne

/-- A delivery right after `prepare`. -/
lemma Observed.deliver_at_start {ort : Ort F S File} {p : OnnxProcessor F S}
    {spec : ProcessSpec} {o : Observed F S}
    (hs : (Observed.start p spec).step ort .deliver = some o) :
    o.live.callback = none ∧ o.history.sent = [] ∧ o.history.blocks = [] ∧
      o.history.delivered.length = modelInputSize ∧ o.inference.thread = .delivered := by
  obtain ⟨-, rfl⟩ := Observed.step_deliver hs
  refine ⟨rfl, rfl, rfl, ?_, rfl⟩
  rw [List.length_append, List.length_ofFn]
  exact Nat.zero_add _

/-- A block that is in flight when `prepare` is called is played as output of the new session.

**Proof sketch.** The inference in flight is delivered right after `prepare`. Forty silent callbacks
later the delivered samples are being popped, while the new session has begun no block they could
come from. -/
lemma exists_not_isolated (ort : Ort F S File) (session : S) {p : OnnxProcessor F S}
    (hrunning : p.inferenceThread.thread = .running) {spec : ProcessSpec}
    (hring : modelInputSize < spec.ringSize) :
    ∃ es, ¬ Transition.Always (Observed.step ort) (Isolated ort session)
      (Observed.start p spec) es := by
  obtain ⟨o₀, hs₀⟩ := Observed.exists_step_deliver ort (o := Observed.start p spec) hrunning
  have hexec₀ : Transition.exec (Observed.step ort) (Observed.start p spec) [.deliver] =
      some o₀ := by rw [Transition.exec_cons_of_step hs₀, Transition.exec_nil]
  obtain ⟨hc, hsent, hblocks₀, hdel, hthread⟩ := Observed.deliver_at_start hs₀
  have hearly : ∀ e ∈ [(.deliver : AudioEvent F)], e.HasSize 512 :=
    fun e he => List.mem_singleton.mp he ▸ trivial
  obtain ⟨o, hexec, hpopped, -, -, hblocks⟩ :=
    exists_exec_silence ort p hring hearly hexec₀ hc hsent hdel
  refine ⟨[.deliver] ++ callbacks (List.replicate 40 (silence F)), fun halways => ?_⟩
  have hisolated := halways.last hexec
  have hnil : o.history.blocks = [] := by
    refine List.eq_nil_of_length_eq_zero ?_
    rw [hblocks (by simp [hthread]), hblocks₀, List.length_nil]
  obtain ⟨x, hx⟩ := List.exists_mem_of_ne_nil _ hpopped
  obtain ⟨block, hblock, -⟩ := hisolated.own x hx
  rw [hnil] at hblock
  exact List.not_mem_nil hblock

/-! ## A first inference that throws -/

/-- The samples that an event sends. -/
def AudioEvent.samples : AudioEvent F → List F
  | .sendAudio buffer => buffer.samples 0
  | .processOutput => []
  | .deliver => []
  | .threadEnd => []

/-- What has been sent in a run.

**Proof sketch.** By induction on the events: only `sendAudio` adds samples, those of its buffer. -/
lemma Observed.sent_of_exec {ort : Ort F S File} {o o' : Observed F S} {es : List (AudioEvent F)}
    (h : Transition.exec (Observed.step ort) o es = some o') :
    o'.history.sent = o.history.sent ++ es.flatMap AudioEvent.samples := by
  induction es generalizing o with
  | nil =>
    obtain rfl := Option.some.inj h
    exact (List.append_nil _).symm
  | cons e es ih =>
    obtain ⟨o₁, hs, hrest⟩ := Transition.exec_cons_eq_some.mp h
    have hsent : o₁.history.sent = o.history.sent ++ e.samples := by
      cases e with
      | sendAudio buffer =>
        obtain ⟨-, rfl⟩ := Observed.step_sendAudio hs
        rfl
      | processOutput =>
        obtain ⟨buffer, -, rfl⟩ := Observed.step_processOutput hs
        exact (List.append_nil _).symm
      | deliver =>
        obtain ⟨-, rfl⟩ := Observed.step_deliver hs
        exact (List.append_nil _).symm
      | threadEnd =>
        obtain ⟨-, rfl⟩ := Observed.step_threadEnd hs
        exact (List.append_nil _).symm
    rw [ih hrest, hsent, List.flatMap_cons, List.append_assoc]

/-- A callback of a whole model block, the delivery, and a callback of `maxModelCalcSize` samples:
the second callback pops samples of what was delivered. -/
lemma Timing.popped_of_one_job {ringSize : ℕ} (hring : modelInputSize < ringSize) :
    (Transition.exec Timing.step (.start .stopped false ringSize) [.sendAudio modelInputSize,
      .processOutput, .deliver, .sendAudio maxModelCalcSize, .processOutput]).map Timing.popped =
        some maxModelCalcSize := by
  have hmax : max ringSize 1 = ringSize := by omega
  have hmod : modelInputSize % ringSize = modelInputSize := Nat.mod_eq_of_lt hring
  have hle : maxModelCalcSize ≤ modelInputSize := by
    rw [maxModelCalcSize_eq, modelInputSize_eq]
    norm_num
  have hpos : 0 < maxModelCalcSize := by rw [maxModelCalcSize_eq]; norm_num
  simp [Transition.exec, Timing.step, Timing.start, Timing.starts, Timing.popCount,
    Timing.outputBranch, Timing.available, Timing.discards, Timing.counterAfter,
    ThreadState.isThreadRunning, hmax, hmod, hle, hpos]

/-- If the session throws for a block, then there is a run in which that is the first block, and
what is popped is not the output for it.

**Proof sketch.** The block is sent, its job throws and hands the output vector over, and one long
callback pops from it. The first sample popped would have to be the output for that block, but there
is none. -/
lemma exists_not_isolated_of_throw {ort : Ort F S File} {session : S} {p : OnnxProcessor F S}
    (hstopped : p.inferenceThread.thread = .stopped)
    (hloading : p.inferenceThread.loadingModel = false) {spec : ProcessSpec}
    (hring : modelInputSize < spec.ringSize) {block : ModelBlock F}
    (hnumbers : ∀ i, isnan (block i) = false) {e : OrtException}
    (hthrow : ort.run session block = .error e) :
    ∃ es, ¬ Transition.Always (Observed.step ort) (Isolated ort session)
      (Observed.start p spec) es := by
  have hevents : (callbacks [.ofList (List.ofFn block)] ++ [AudioEvent.deliver] ++
      callbacks [.ofList (List.replicate maxModelCalcSize (0 : F))]).map AudioEvent.timing =
        [.sendAudio modelInputSize, .processOutput, .deliver, .sendAudio maxModelCalcSize,
          .processOutput] := by
    simp [callbacks, AudioEvent.timing]
  obtain ⟨o, hexec, hpopped⟩ := Observed.exists_exec_start hstopped hloading ort
    spec _ Timing.popped (by rw [hevents]; exact Timing.popped_of_one_job hring)
  by_contra hall
  simp only [not_exists, not_not] at hall
  have hsent : o.history.sent = List.ofFn block ++ List.replicate maxModelCalcSize 0 := by
    rw [Observed.sent_of_exec hexec]
    simp [callbacks, AudioEvent.samples, Observed.start]
  have hne : o.history.popped ≠ [] := by
    intro hnil
    have hlen : o.history.popped.length = maxModelCalcSize := hpopped
    rw [hnil, maxModelCalcSize_eq] at hlen
    cases hlen
  obtain ⟨x, rest, hx⟩ := List.exists_cons_of_ne_nil hne
  obtain ⟨-, output, hrun, -⟩ := ((hall _).last hexec).first x (by rw [hx]; rfl)
  have hcut : cutBlock (o.history.sent.map nanToZero) 0 = block := by
    funext i
    obtain ⟨hi, happly⟩ := cutBlock_apply (o.history.sent.map nanToZero) (j := 0)
      (by simp [hsent]) i
    rw [happly, List.getElem_map]
    simp [hsent, nanToZero_of_not_isnan (hnumbers i)]
  rw [hcut, hthrow] at hrun
  cases hrun

/-! ## Whole runs -/

/-- **When sessions are isolated.** If no inference is in flight when `prepare` is called and the
first inference after it does not throw, every sample popped afterwards is the output of the
model for a sample sent afterwards, and the first one is the output for the first of them unless
a ring overflows before it is popped. If one is in flight, or if the session throws for some
block, there are continuations in which other samples are played.

**Proof sketch.** With nothing in flight, what is delivered comes from the jobs on the blocks of the
stream, and the first of them returned; the first block is the first part of the stream while the
ring has room. The other two parts are given by runs. -/
theorem reprepare_isolated {ort : Ort F S File} {session : S} {p : OnnxProcessor F S}
    (hsession : p.inferenceThread.session = some session) (spec : ProcessSpec) :
    (p.inferenceThread.thread ≠ .running → ∀ es,
      Transition.StepsMeet (Observed.step ort) (FirstRunReturns ort session)
        (Observed.start p spec) es →
      Transition.Always (Observed.step ort)
        (fun o => ∀ x ∈ o.history.popped, OutputForSent ort session o x)
        (Observed.start p spec) es ∧
      (Transition.StepsMeet (Observed.step ort) (RoomForFirst spec.ringSize)
          (Observed.start p spec) es →
        Transition.Always (Observed.step ort) (Isolated ort session)
          (Observed.start p spec) es)) ∧
    (modelInputSize < spec.ringSize →
      (p.inferenceThread.thread = .running →
        ∃ es, ¬ Transition.Always (Observed.step ort) (Isolated ort session)
          (Observed.start p spec) es) ∧
      (p.inferenceThread.thread = .stopped → p.inferenceThread.loadingModel = false →
        ∀ block : ModelBlock F, (∀ i, isnan (block i) = false) →
          ∀ e, ort.run session block = .error e →
          ∃ es, ¬ Transition.Always (Observed.step ort) (Isolated ort session)
            (Observed.start p spec) es)) := by
  refine ⟨fun hidle es hreturns => ?_, fun hring => ⟨fun hrunning =>
    exists_not_isolated ort session hrunning hring, fun hstopped hloading _ hnumbers _ hthrow =>
    exists_not_isolated_of_throw hstopped hloading hring hnumbers hthrow⟩⟩
  have hown₀ : OwnOutput ort session p.inferenceThread.onnxOutputData (max spec.ringSize 1)
      (Observed.start p spec) :=
    ⟨RingsTracked.start p spec, Served.start hsession hidle spec,
      fun _ h => (by cases h), fun h => absurd rfl h, fun _ h => (by cases h)⟩
  constructor
  · exact (Transition.always_of_stepsMeet (fun _ _ _ h hc hs => h.step hc hs) hown₀
      hreturns).mono fun _ h => h.own
  · intro hroom
    have hroom' := hroom.mono fun o e h => RoomForFirst.mono (Nat.le_max_left _ 1) h
    refine (Transition.always_of_stepsMeet
      (I := fun o => OwnOutput ort session p.inferenceThread.onnxOutputData
          (max spec.ringSize 1) o ∧
        FirstOutput ort session p.inferenceThread.onnxOutputData (max spec.ringSize 1) o) ?_
      ⟨hown₀, FirstOutput.start ort session _ p spec _⟩ (hreturns.and hroom')).mono
        fun _ h => h.2.isolated h.1
    intro o e o' h hc hs
    exact ⟨h.1.step hc.1 hs, h.2.step h.1.rings h.1.served hc.2 hs⟩

/-- `RoomForFirst`, of a timing. -/
def Timing.roomForFirst (capacity : ℕ) (t : Timing) : TimingEvent → Bool
  | .sendAudio numSamples => decide (t.blocks = 0 → t.sent + numSamples ≤ capacity)
  | .processOutput => true
  | .deliver => decide (t.popped = 0 → t.delivered + modelInputSize ≤ capacity)
  | .threadEnd => true

omit [FloatSample F] in
lemma roomForFirst_of_timing {capacity : ℕ} (o : Observed F S) (e : AudioEvent F)
    (h : o.timing.roomForFirst capacity e.timing = true) : RoomForFirst capacity o e := by
  cases e with
  | sendAudio buffer =>
    simp only [AudioEvent.timing, Timing.roomForFirst, decide_eq_true_eq] at h
    exact fun hnil => h (List.length_eq_zero_iff.mpr hnil)
  | processOutput => trivial
  | deliver =>
    simp only [AudioEvent.timing, Timing.roomForFirst, decide_eq_true_eq] at h
    exact fun hnil => h (List.length_eq_zero_iff.mpr hnil)
  | threadEnd => trivial

/-- The processor that has run an inference on ones: they are in its output vector. -/
def usedBefore : OnnxProcessor ExactFloat Unit :=
  { OnnxProcessor.passThrough ExactFloat with
    inferenceThread :=
      { (OnnxProcessor.passThrough ExactFloat).inferenceThread with
        onnxOutputData := fun _ => .number 1 } }

/-- The theorem at work: after `lateRun` of a processor that was used before, half of the first
block has been popped. -/
theorem reprepare_isolated_late_run :
    (∃ o, Transition.exec (Observed.step (Ort.passThrough ExactFloat))
        (Observed.start usedBefore ⟨48000, 4096, 1⟩) lateRun = some o ∧
      o.history.popped.length = 2 * 4096) ∧
      Transition.Always (Observed.step (Ort.passThrough ExactFloat))
        (Isolated (Ort.passThrough ExactFloat) ())
        (Observed.start usedBefore ⟨48000, 4096, 1⟩) lateRun := by
  refine ⟨Observed.exists_exec_start rfl rfl _ _ _ Timing.popped ?_,
    ((reprepare_isolated (rfl : _ = some ()) _).1 ThreadState.noConfusion _ ?_).2 ?_⟩
  · rw [ProcessSpec.ringSize_ofNat, lateRun_timing]
    decide +kernel
  · refine Transition.StepsMeet.mono (C := fun _ _ => True) (fun o e _ => ?_)
      (Transition.stepsMeet_of_forall _ fun _ _ => trivial)
    cases e with
    | deliver => exact fun _ => ⟨_, rfl⟩
    | _ => trivial
  · refine Observed.stepsMeet_start rfl rfl _ roomForFirst_of_timing ?_
    rw [ProcessSpec.ringSize_ofNat, lateRun_timing]
    decide +kernel

/-- Zeros only are sent after a block of ones, which the model returns as they are.

**Proof sketch.** The output for the block of ones is delivered first, then the callbacks send zeros
only; when `init` ends, a one is popped, which is no output for zeros. -/
lemma not_isolated_of_ones {p : OnnxProcessor ExactFloat Unit}
    (hrunning : p.inferenceThread.thread = .running)
    (hdata : p.inferenceThread.onnxInputData = fun _ => .number 1)
    (hsession : p.inferenceThread.session = some ()) {spec : ProcessSpec}
    (hring : modelInputSize < spec.ringSize) :
    ¬ Transition.Always (Observed.step (Ort.passThrough ExactFloat))
      (Isolated (Ort.passThrough ExactFloat) ())
      (Observed.start p spec)
      ([.deliver, .threadEnd] ++ callbacks (List.replicate 40 (silence ExactFloat))) := by
  intro halways
  obtain ⟨o₁, hs₁⟩ := Observed.exists_step_deliver (Ort.passThrough ExactFloat)
    (o := Observed.start p spec) hrunning
  obtain ⟨hc, hsent, -, hdel, hthread⟩ := Observed.deliver_at_start hs₁
  obtain ⟨o₀, hs₀⟩ := Observed.exists_step_threadEnd (Ort.passThrough ExactFloat) hthread
  have hexec₀ : Transition.exec (Observed.step (Ort.passThrough ExactFloat))
      (Observed.start p spec) [.deliver, .threadEnd] = some o₀ := by
    rw [Transition.exec_cons_of_step hs₁, Transition.exec_cons_of_step hs₀, Transition.exec_nil]
  obtain ⟨-, heq₀⟩ := Observed.step_threadEnd hs₀
  have hearly : ∀ e ∈ [(.deliver : AudioEvent ExactFloat), .threadEnd], e.HasSize 512 := by
    intro e he
    simp only [List.mem_cons, List.not_mem_nil, or_false] at he
    rcases he with rfl | rfl <;> trivial
  obtain ⟨o, hexec, hpopped, hones, hzeros, -⟩ := exists_exec_silence _ p hring hearly hexec₀
    (by rw [heq₀]; exact hc) (by rw [heq₀]; exact hsent) (by rw [heq₀]; exact hdel)
  have hblock : ∀ y ∈ o₀.history.delivered, y = ExactFloat.number 1 := by
    obtain ⟨-, heq₁⟩ := Observed.step_deliver hs₁
    have hrun : (InferenceThread.run (Ort.passThrough ExactFloat)
        (Observed.start p spec).inference).1 = fun _ => .number 1 :=
      InferenceThread.run_fst_of_ok (t := (Observed.start p spec).inference) hsession
        (congrArg Except.ok hdata)
    have hdelivered : o₀.history.delivered =
        [] ++ List.ofFn fun _ : Fin modelInputSize => ExactFloat.number 1 := by
      rw [heq₀, heq₁, hrun]
      rfl
    intro y hy
    rw [hdelivered, List.nil_append] at hy
    obtain ⟨i, rfl⟩ := List.mem_ofFn.mp hy
    rfl
  obtain ⟨x, hx⟩ := List.exists_mem_of_ne_nil _ hpopped
  have hone : x = .number 1 := by
    obtain ⟨y, hy, rfl⟩ := List.mem_map.mp (hones x hx)
    rw [hblock y hy]
    rfl
  obtain ⟨block, -, output, hrun, i, hxi, hsenti⟩ := (halways.last hexec).own x hx
  obtain rfl : block = output := Except.ok.inj hrun
  obtain ⟨y, hy, hyi⟩ := List.mem_map.mp hsenti
  rw [hzeros y hy, nanToZero_zero] at hyi
  rw [hone, ← hyi, nanToZero_zero] at hxi
  have hne : (1 : ℚ) = 0 := ExactFloat.number.inj hxi
  exact one_ne_zero hne

/-- The host prepares the processor again, for blocks of 512 samples, while that inference is in
flight. It sends zeros only, and the model returns its input; but ones are played. -/
theorem reprepare_plays_old_block :
    ¬ Transition.Always (Observed.step (Ort.passThrough ExactFloat))
      (Isolated (Ort.passThrough ExactFloat) ())
      (Observed.start inFlight ⟨48000, 512, 1⟩)
      ([.deliver, .threadEnd] ++ callbacks (List.replicate 40 (silence ExactFloat))) := by
  refine not_isolated_of_ones inFlight_running.1 inFlight_running.2 inFlight_session ?_
  rw [modelInputSize_eq]
  simp [ProcessSpec.ringSize]
