import Scyclone.Juce.AudioBuffer
import Scyclone.Lib.CyclicStore
import Scyclone.Lib.Slices

set_option relaxedAutoImplicit false
set_option autoImplicit false

/-!
# The ring buffer

`RingBuffer` of `source/dsp/onnx/RingBuffer.cpp`: one `AudioBuffer` and a read and a write
position for each channel. `pushSample` never checks whether the ring is full, and how many
samples are stored is inferred from the two positions alone.

The refinement relation `RingBuffer.Tracks` says what a channel of the ring is in terms of the
history of the pushes and the number of pops since the last `initialise` or `reset`. It has no
bound on how many samples are stored, so every operation keeps it, also past the point where
pushes overwrite what was not popped; each lemma says what the operation returns on either
side of that point.

## Main definitions

* `RingBuffer`, `initialise`, `reset`, `pushSample`, `popSample`, `getAvailableSamples`.
* `RingBuffer.pushSamples`, `RingBuffer.popSamples` — the loops of pushes and pops in the
  callers.
* `RingBuffer.Tracks` — the refinement relation.

## Main results

* `RingBuffer.Tracks.pushSample`, `RingBuffer.Tracks.popSamples`,
  `RingBuffer.Tracks.getAvailableSamples` — one specification for each operation.
-/

/-- `class RingBuffer`. -/
structure RingBuffer (F : Type) where
  /-- The samples. -/
  buffer : AudioBuffer F
  /-- The read positions, one for each channel. -/
  readPos : List ℕ
  /-- The write positions, one for each channel. -/
  writePos : List ℕ

namespace RingBuffer

variable {F : Type} [FloatSample F]

/-- The two position vectors are resized and zeroed, the buffer is resized. -/
def initialise (rb : RingBuffer F) (numChannels numSamples : ℕ) : RingBuffer F where
  readPos := List.replicate numChannels 0
  writePos := List.replicate numChannels 0
  buffer := rb.buffer.setSize numChannels numSamples rb.buffer.data

/-- The buffer is cleared and every position zeroed. -/
def reset (rb : RingBuffer F) : RingBuffer F where
  buffer := rb.buffer.clear
  readPos := rb.readPos.map fun _ => 0
  writePos := rb.writePos.map fun _ => 0

/-- NaN is stored as zero; the write position advances and wraps. -/
def pushSample (rb : RingBuffer F) (sample : F) (channel : ℕ) : RingBuffer F :=
  let sample := if isnan sample then 0 else sample
  let buffer := rb.buffer.setSample channel (rb.writePos.getD channel 0) sample
  let pos := rb.writePos.getD channel 0 + 1
  let pos := if pos ≥ buffer.numSamples then 0 else pos
  { rb with buffer, writePos := rb.writePos.set channel pos }

/-- The sample at the read position, NaN returned as zero; the read position advances and
wraps. -/
def popSample (rb : RingBuffer F) (channel : ℕ) : F × RingBuffer F :=
  let sample := rb.buffer.getSample channel (rb.readPos.getD channel 0)
  let pos := rb.readPos.getD channel 0 + 1
  let pos := if pos ≥ rb.buffer.numSamples then 0 else pos
  let rb := { rb with readPos := rb.readPos.set channel pos }
  if isnan sample then (0, rb) else (sample, rb)

/-- The number of stored samples, read off the two positions. -/
def getAvailableSamples (rb : RingBuffer F) (channel : ℕ) : ℕ :=
  if rb.readPos.getD channel 0 ≤ rb.writePos.getD channel 0 then
    rb.writePos.getD channel 0 - rb.readPos.getD channel 0
  else
    rb.writePos.getD channel 0 + rb.buffer.numSamples - rb.readPos.getD channel 0

/-- The loop `for (…) pushSample (x, channel)` over the listed samples. -/
def pushSamples (rb : RingBuffer F) (xs : List F) (channel : ℕ) : RingBuffer F :=
  xs.foldl (fun rb x => rb.pushSample x channel) rb

/-- The loop of `n` calls of `popSample (channel)`, with the popped samples in order. -/
def popSamples (rb : RingBuffer F) (channel : ℕ) : ℕ → List F × RingBuffer F
  | 0 => ([], rb)
  | n + 1 =>
    let (x, rb) := rb.popSample channel
    let (xs, rb) := popSamples rb channel n
    (x :: xs, rb)

/-! ## The refinement relation -/

/-- The number of positions before they wrap. A ring of no samples wraps like one of one. -/
def period (rb : RingBuffer F) : ℕ := max rb.buffer.numSamples 1

omit [FloatSample F] in
lemma period_pos (rb : RingBuffer F) : 0 < rb.period := by unfold period; omega

omit [FloatSample F] in
/-- The wrapping of the source is the cyclic successor. -/
lemma wrap_eq_next (n p : ℕ) : (if p + 1 ≥ n then 0 else p + 1) = Cyclic.next (max n 1) p := by
  unfold Cyclic.next
  split_ifs <;> omega

/-- Channel `c` of the ring is what remains of the history `xs` of pushes after `popped`
pops. -/
structure Tracks (rb : RingBuffer F) (c : ℕ) (xs : List F) (popped : ℕ) : Prop where
  /-- The channel has a read position. -/
  read_lt : c < rb.readPos.length
  /-- The channel has a write position. -/
  write_lt : c < rb.writePos.length
  /-- The read position is the number of pops. -/
  readPos_eq : rb.readPos.getD c 0 = popped % rb.period
  /-- The write position is the number of pushes. -/
  writePos_eq : rb.writePos.getD c 0 = xs.length % rb.period
  /-- Nothing was popped that had not been pushed. -/
  popped_le : popped ≤ xs.length
  /-- The cells hold the last pushes, NaN replaced by zero. -/
  holds : Cyclic.Holds rb.period (xs.map nanToZero) (rb.buffer.data c)

/-- A ring that has just been initialised has an empty history on each of its channels,
whatever its buffer contains. -/
lemma tracks_initialise (rb : RingBuffer F) {c numChannels : ℕ} (hc : c < numChannels)
    (numSamples : ℕ) : (rb.initialise numChannels numSamples).Tracks c [] 0 where
  read_lt := by simpa [initialise] using hc
  write_lt := by simpa [initialise] using hc
  readPos_eq := by simp [initialise, hc]
  writePos_eq := by simp [initialise, hc]
  popped_le := le_rfl
  holds := Cyclic.Holds.nil _ _

omit [FloatSample F] in
@[simp] lemma initialise_period (rb : RingBuffer F) (numChannels numSamples : ℕ) :
    (rb.initialise numChannels numSamples).period = max numSamples 1 := by
  simp [period, initialise]

/-! ## Pushing -/

@[simp] lemma pushSample_period (rb : RingBuffer F) (x : F) (c : ℕ) :
    (rb.pushSample x c).period = rb.period := rfl

/-- The write position of the channel moves on by one, cyclically. -/
lemma pushSample_writePos (rb : RingBuffer F) (x : F) (c : ℕ) :
    (rb.pushSample x c).writePos =
      rb.writePos.set c (Cyclic.next rb.period (rb.writePos.getD c 0)) := by
  unfold period
  rw [← wrap_eq_next]
  rfl

/-- A push extends the history by the sample pushed.

**Proof sketch.** The write position is the length of the history modulo the period, so the push
writes the entry that the longer history has there, and the position moves on with the length. -/
lemma Tracks.pushSample {rb : RingBuffer F} {c popped : ℕ} {xs : List F}
    (h : rb.Tracks c xs popped) (x : F) : (rb.pushSample x c).Tracks c (xs ++ [x]) popped where
  read_lt := h.read_lt
  write_lt := by simpa [RingBuffer.pushSample] using h.write_lt
  readPos_eq := h.readPos_eq
  writePos_eq := by
    have hpos : (rb.pushSample x c).writePos.getD c 0 =
        Cyclic.next rb.period (rb.writePos.getD c 0) := by
      simp [pushSample_writePos, h.write_lt]
    rw [hpos, h.writePos_eq, Cyclic.next_mod rb.period_pos, pushSample_period,
      List.length_append, List.length_singleton]
  popped_le := by
    have := h.popped_le
    simp only [List.length_append, List.length_singleton]
    omega
  holds := by
    have hdata : (rb.pushSample x c).buffer.data c =
        Function.update (rb.buffer.data c) ((xs.map nanToZero).length % rb.period)
          (nanToZero x) := by
      simp only [RingBuffer.pushSample, AudioBuffer.setSample_data_self, h.writePos_eq,
        List.length_map]
      rfl
    rw [hdata, List.map_append, pushSample_period]
    exact h.holds.write (nanToZero x)

@[simp] lemma pushSamples_period (rb : RingBuffer F) (xs : List F) (c : ℕ) :
    (rb.pushSamples xs c).period = rb.period := by
  induction xs generalizing rb with
  | nil => rfl
  | cons x xs ih => exact ih (rb.pushSample x c)

/-- A loop of pushes extends the history by the samples pushed. -/
lemma Tracks.pushSamples {rb : RingBuffer F} {c popped : ℕ} {xs : List F}
    (h : rb.Tracks c xs popped) (ys : List F) :
    (rb.pushSamples ys c).Tracks c (xs ++ ys) popped := by
  induction ys generalizing rb xs with
  | nil => simpa [RingBuffer.pushSamples] using h
  | cons y ys ih =>
    have := ih (h.pushSample y)
    rwa [List.append_assoc, List.singleton_append] at this

/-! ## Counting -/

/-- The number read off the positions is the number of stored samples, up to whole turns of
the ring. -/
lemma Tracks.getAvailableSamples {rb : RingBuffer F} {c popped : ℕ} {xs : List F}
    (h : rb.Tracks c xs popped) :
    rb.getAvailableSamples c = (xs.length - popped) % rb.period := by
  rw [← Cyclic.distance_mod rb.period_pos h.popped_le, ← h.readPos_eq, ← h.writePos_eq]
  have hr := Nat.mod_lt popped rb.period_pos
  rw [← h.readPos_eq] at hr
  unfold RingBuffer.getAvailableSamples Cyclic.distance
  unfold period at hr ⊢
  split_ifs <;> omega

/-- While fewer samples are stored than the ring has room for, they are counted. -/
lemma Tracks.getAvailableSamples_of_lt {rb : RingBuffer F} {c popped : ℕ} {xs : List F}
    (h : rb.Tracks c xs popped) (hlt : xs.length - popped < rb.period) :
    rb.getAvailableSamples c = xs.length - popped := by
  rw [h.getAvailableSamples, Nat.mod_eq_of_lt hlt]

/-- Never more samples are counted than are stored. -/
lemma Tracks.getAvailableSamples_le {rb : RingBuffer F} {c popped : ℕ} {xs : List F}
    (h : rb.Tracks c xs popped) : popped + rb.getAvailableSamples c ≤ xs.length := by
  have := Nat.mod_le (xs.length - popped) rb.period
  have := h.popped_le
  rw [h.getAvailableSamples]
  omega

/-! ## Popping -/

@[simp] lemma popSample_period (rb : RingBuffer F) (c : ℕ) :
    (rb.popSample c).2.period = rb.period := by
  unfold RingBuffer.popSample
  dsimp only
  split_ifs <;> rfl

/-- The popped sample is the cell at the read position, NaN replaced by zero. -/
lemma popSample_fst (rb : RingBuffer F) (c : ℕ) :
    (rb.popSample c).1 = nanToZero (rb.buffer.data c (rb.readPos.getD c 0)) := by
  unfold RingBuffer.popSample nanToZero AudioBuffer.getSample
  dsimp only
  split_ifs <;> rfl

/-- A pop changes the read position of its channel only. -/
lemma popSample_snd (rb : RingBuffer F) (c : ℕ) :
    (rb.popSample c).2 =
      { rb with
        readPos := rb.readPos.set c (Cyclic.next rb.period (rb.readPos.getD c 0)) } := by
  unfold RingBuffer.popSample
  dsimp only
  rw [wrap_eq_next]
  split_ifs <;> rfl

/-- A pop of a stored sample counts as one more pop. -/
lemma Tracks.popSample {rb : RingBuffer F} {c popped : ℕ} {xs : List F}
    (h : rb.Tracks c xs popped) (hlt : popped < xs.length) :
    (rb.popSample c).2.Tracks c xs (popped + 1) where
  read_lt := by simpa [popSample_snd] using h.read_lt
  write_lt := by simpa [popSample_snd] using h.write_lt
  readPos_eq := by
    rw [popSample_period, popSample_snd, ← Cyclic.next_mod rb.period_pos, ← h.readPos_eq]
    simp [List.getD_eq_getElem?_getD, h.read_lt]
  writePos_eq := by rw [popSample_period, popSample_snd]; exact h.writePos_eq
  popped_le := hlt
  holds := by rw [popSample_period, popSample_snd]; exact h.holds

/-- As long as the oldest stored sample has not been overwritten, it is the one popped. -/
lemma Tracks.popSample_fst {rb : RingBuffer F} {c popped : ℕ} {xs : List F}
    (h : rb.Tracks c xs popped) (hlt : popped < xs.length)
    (hroom : xs.length ≤ popped + rb.period) : (rb.popSample c).1 = nanToZero xs[popped] := by
  have hcell := h.holds.read (i := popped) (by simpa using hlt) (by simpa using hroom)
  rw [RingBuffer.popSample_fst, h.readPos_eq, hcell, List.getElem_map, nanToZero_nanToZero]

/-- Every popped sample has been pushed since the history began, also after others were
overwritten. -/
lemma Tracks.popSample_fst_mem {rb : RingBuffer F} {c popped : ℕ} {xs : List F}
    (h : rb.Tracks c xs popped) (hlt : popped < xs.length) :
    (rb.popSample c).1 ∈ xs.map nanToZero := by
  obtain ⟨j, hj, -, -, -, hcell⟩ :=
    h.holds.exists_read rb.period_pos (i := popped) (by simpa using hlt)
  rw [RingBuffer.popSample_fst, h.readPos_eq, hcell, List.getElem_map, nanToZero_nanToZero]
  exact List.mem_map.mpr ⟨_, List.getElem_mem _, rfl⟩

lemma popSamples_succ (rb : RingBuffer F) (c n : ℕ) :
    rb.popSamples c (n + 1) =
      ((rb.popSample c).1 :: ((rb.popSample c).2.popSamples c n).1,
        ((rb.popSample c).2.popSamples c n).2) := rfl

@[simp] lemma length_popSamples (rb : RingBuffer F) (c n : ℕ) :
    (rb.popSamples c n).1.length = n := by
  induction n generalizing rb with
  | zero => rfl
  | succ n ih => rw [popSamples_succ, List.length_cons, ih]

@[simp] lemma popSamples_period (rb : RingBuffer F) (c n : ℕ) :
    (rb.popSamples c n).2.period = rb.period := by
  induction n generalizing rb with
  | zero => rfl
  | succ n ih => rw [popSamples_succ, ih, popSample_period]

@[simp] lemma popSamples_buffer (rb : RingBuffer F) (c n : ℕ) :
    (rb.popSamples c n).2.buffer = rb.buffer := by
  induction n generalizing rb with
  | zero => rfl
  | succ n ih => rw [popSamples_succ, ih, popSample_snd]

/-- The first sample that a loop of pops returns. -/
lemma popSamples_getD_zero (rb : RingBuffer F) (c : ℕ) {n : ℕ} (h : 0 < n) (x : F) :
    (rb.popSamples c n).1.getD 0 x = (rb.popSample c).1 := by
  cases n with
  | zero => exact absurd h (Nat.lt_irrefl 0)
  | succ n => rw [popSamples_succ, List.getD_cons_zero]

/-- Two loops of pops are one. -/
lemma popSamples_add (rb : RingBuffer F) (c m n : ℕ) :
    rb.popSamples c (m + n) =
      ((rb.popSamples c m).1 ++ ((rb.popSamples c m).2.popSamples c n).1,
        ((rb.popSamples c m).2.popSamples c n).2) := by
  induction m generalizing rb with
  | zero => simp [RingBuffer.popSamples]
  | succ m ih => rw [Nat.succ_add, popSamples_succ, popSamples_succ, ih, List.cons_append]

/-- A loop of pops of stored samples counts as so many pops. -/
lemma Tracks.popSamples {rb : RingBuffer F} {c popped : ℕ} {xs : List F}
    (h : rb.Tracks c xs popped) {n : ℕ} (hn : popped + n ≤ xs.length) :
    (rb.popSamples c n).2.Tracks c xs (popped + n) := by
  induction n generalizing rb popped with
  | zero => exact h
  | succ n ih =>
    have := ih (h.popSample (by omega)) (by omega)
    rwa [Nat.add_assoc, Nat.add_comm 1 n] at this

/-- As long as no stored sample has been overwritten, a loop of pops returns the oldest ones
in order. -/
lemma Tracks.popSamples_fst {rb : RingBuffer F} {c popped : ℕ} {xs : List F}
    (h : rb.Tracks c xs popped) {n : ℕ} (hn : popped + n ≤ xs.length)
    (hroom : xs.length ≤ popped + rb.period) :
    (rb.popSamples c n).1 = (xs.map nanToZero).slice popped n := by
  induction n generalizing rb popped with
  | zero => simp [RingBuffer.popSamples, List.slice]
  | succ n ih =>
    have hlt : popped < xs.length := by omega
    have hrest := ih (h.popSample hlt) (by omega) (by rw [popSample_period]; omega)
    have hhead : (xs.map nanToZero).slice popped 1 = [nanToZero xs[popped]] := by
      simp [List.slice, List.take_one_drop_eq_of_lt_length, hlt]
    rw [popSamples_succ, hrest, h.popSample_fst hlt hroom, Nat.add_comm n 1,
      ← List.slice_append_slice, hhead, List.singleton_append]

/-- Every sample that a loop of pops returns has been pushed since the history began. -/
lemma Tracks.mem_popSamples {rb : RingBuffer F} {c popped : ℕ} {xs : List F}
    (h : rb.Tracks c xs popped) {n : ℕ} (hn : popped + n ≤ xs.length) :
    ∀ x ∈ (rb.popSamples c n).1, x ∈ xs.map nanToZero := by
  induction n generalizing rb popped with
  | zero => simp [RingBuffer.popSamples]
  | succ n ih =>
    intro x hx
    rw [popSamples_succ, List.mem_cons] at hx
    rcases hx with rfl | hx
    · exact h.popSample_fst_mem (by omega)
    · exact ih (h.popSample (by omega)) (by omega) x hx

end RingBuffer
