import Scyclone.Lib.BoundedQueues
import Scyclone.Lib.Transition
import Scyclone.Onnx.RingBuffer

set_option relaxedAutoImplicit false
set_option autoImplicit false

/-!
# The ring buffer as a bank of queues

What a caller of `RingBuffer` relies on: as long as each channel holds less than a full ring, the
ring is a bank of first-in first-out queues, one for each channel, that hold up to one sample less
than the ring has room for.

## Main definitions

* `RingBuffer.Call`, `RingBuffer.call` — the calls of the ring and their replies.
* `RingBuffer.queue` — the samples a channel holds, as further pops would return them.
* `RingBuffer.serve` — the calls as a bank of queues answers them.
* `RingBuffer.Session` — a ring, with what was pushed and popped since it was last emptied.

## Main results

* `RingBuffer.Session.inv_call` — what one call does.
* `ring_refines_queues` — the runs.
-/

namespace RingBuffer

variable {F : Type} [FloatSample F]

/-! ## Calls -/

/-- The calls of a ring. -/
inductive Call (F : Type)
  | initialise (numChannels numSamples : ℕ)
  | reset
  | pushSample (sample : F) (channel : ℕ)
  | popSample (channel : ℕ)
  | getAvailableSamples (channel : ℕ)

/-- The channel that a call names. -/
def Call.channel? : Call F → Option ℕ
  | .initialise _ _ | .reset => none
  | .pushSample _ c | .popSample c | .getAvailableSamples c => some c

/-- What a call returns. -/
inductive Reply (F : Type)
  | done
  | sample (x : F)
  | count (n : ℕ)

/-- One call of the ring. -/
def call (rb : RingBuffer F) : Call F → Reply F × RingBuffer F
  | .initialise numChannels numSamples => (.done, rb.initialise numChannels numSamples)
  | .reset => (.done, rb.reset)
  | .pushSample x c => (.done, rb.pushSample x c)
  | .popSample c => (.sample (rb.popSample c).1, (rb.popSample c).2)
  | .getAvailableSamples c => (.count (rb.getAvailableSamples c), rb)

/-- The index into the buffer that a call uses. -/
def index? (rb : RingBuffer F) : Call F → Option ℕ
  | .pushSample _ c => some (rb.writePos.getD c 0)
  | .popSample c => some (rb.readPos.getD c 0)
  | .initialise _ _ | .reset | .getAvailableSamples _ => none

/-- The samples that a channel holds: what popping all that are available returns. -/
def queue (rb : RingBuffer F) (c : ℕ) : List F := (rb.popSamples c (rb.getAvailableSamples c)).1

/-- One call of the bank of queues that the ring stands for. A call that names no queue, overfills
one or takes from an empty one has no result. -/
def serve (b : BoundedQueues F) : Call F → Option (Reply F × BoundedQueues F)
  | .initialise numChannels numSamples => some (.done, .empty numChannels (numSamples - 1))
  | .reset => some (.done, .empty b.channels b.bound)
  | .pushSample x c => (b.push? (nanToZero x) c).map fun b => (.done, b)
  | .popSample c => (b.pop? c).map fun (x, b) => (.sample x, b)
  | .getAvailableSamples c =>
    if c < b.channels then some (.count (b.items c).length, b) else none

/-! ## One channel of the ring -/

/-- A channel whose positions and cells are the same has the same history. -/
lemma Tracks.congr {rb rb' : RingBuffer F} {c popped : ℕ} {xs : List F}
    (h : rb.Tracks c xs popped) (hread : rb'.readPos.length = rb.readPos.length)
    (hwrite : rb'.writePos.length = rb.writePos.length)
    (hreadPos : rb'.readPos.getD c 0 = rb.readPos.getD c 0)
    (hwritePos : rb'.writePos.getD c 0 = rb.writePos.getD c 0) (hperiod : rb'.period = rb.period)
    (hdata : rb'.buffer.data c = rb.buffer.data c) : rb'.Tracks c xs popped where
  read_lt := by rw [hread]; exact h.read_lt
  write_lt := by rw [hwrite]; exact h.write_lt
  readPos_eq := by rw [hreadPos, hperiod]; exact h.readPos_eq
  writePos_eq := by rw [hwritePos, hperiod]; exact h.writePos_eq
  popped_le := h.popped_le
  holds := by rw [hperiod, hdata]; exact h.holds

/-- Entry `c` of a list after another one was set. -/
lemma getD_set_of_ne {xs : List ℕ} {c d : ℕ} (h : d ≠ c) (n : ℕ) :
    (xs.set d n).getD c 0 = xs.getD c 0 := by
  rw [List.getD_eq_getElem?_getD, List.getD_eq_getElem?_getD, List.getElem?_set_ne h]

/-- A push leaves the other channels alone. -/
lemma Tracks.pushSample_of_ne {rb : RingBuffer F} {c d popped : ℕ} {xs : List F}
    (h : rb.Tracks c xs popped) (hd : d ≠ c) (x : F) :
    (rb.pushSample x d).Tracks c xs popped := by
  apply h.congr
  · rfl
  · rw [pushSample_writePos, List.length_set]
  · rfl
  · rw [pushSample_writePos, getD_set_of_ne hd]
  · rfl
  · show Function.update rb.buffer.data d _ c = rb.buffer.data c
    rw [Function.update_of_ne hd.symm]

/-- A pop leaves the other channels alone. -/
lemma Tracks.popSample_of_ne {rb : RingBuffer F} {c d popped : ℕ} {xs : List F}
    (h : rb.Tracks c xs popped) (hd : d ≠ c) : (rb.popSample d).2.Tracks c xs popped := by
  rw [popSample_snd]
  apply h.congr
  · rw [List.length_set]
  · rfl
  · rw [getD_set_of_ne hd]
  · rfl
  · rfl
  · rfl

/-- A ring that was reset has an empty history on each of its channels. -/
lemma Tracks.reset {rb : RingBuffer F} {c popped : ℕ} {xs : List F}
    (h : rb.Tracks c xs popped) : rb.reset.Tracks c [] 0 where
  read_lt := by simpa [RingBuffer.reset] using h.read_lt
  write_lt := by simpa [RingBuffer.reset] using h.write_lt
  readPos_eq := by simp [RingBuffer.reset, List.getD_eq_getElem?_getD, h.read_lt]
  writePos_eq := by simp [RingBuffer.reset, List.getD_eq_getElem?_getD, h.write_lt]
  popped_le := le_rfl
  holds := Cyclic.Holds.nil _ _

/-- While fewer samples are stored than the ring has room for, a channel holds what was pushed and
not yet popped. -/
lemma Tracks.queue_eq {rb : RingBuffer F} {c popped : ℕ} {xs : List F}
    (h : rb.Tracks c xs popped) (hlt : xs.length - popped < rb.period) :
    rb.queue c = (xs.map nanToZero).drop popped := by
  have hle := h.popped_le
  unfold queue
  rw [h.getAvailableSamples_of_lt hlt, h.popSamples_fst (by omega) (by omega)]
  apply List.take_of_length_le
  simp

/-- The read position lies in the ring. -/
lemma Tracks.readPos_lt {rb : RingBuffer F} {c popped : ℕ} {xs : List F}
    (h : rb.Tracks c xs popped) : rb.readPos.getD c 0 < rb.period := by
  rw [h.readPos_eq]
  exact Nat.mod_lt _ rb.period_pos

/-- The write position lies in the ring. -/
lemma Tracks.writePos_lt {rb : RingBuffer F} {c popped : ℕ} {xs : List F}
    (h : rb.Tracks c xs popped) : rb.writePos.getD c 0 < rb.period := by
  rw [h.writePos_eq]
  exact Nat.mod_lt _ rb.period_pos

/-! ## A run -/

/-- A ring in use, with what happened since it was last initialised or reset. -/
structure Session (F : Type) where
  ring : RingBuffer F
  /-- The channels asked for by the last `initialise`. -/
  numChannels : ℕ
  /-- The capacity asked for by the last `initialise`. -/
  numSamples : ℕ
  /-- The samples pushed on a channel. -/
  pushed : ℕ → List F
  /-- The number of pops from a channel. -/
  popped : ℕ → ℕ

namespace Session

/-- A ring that is initialised. -/
def start (rb : RingBuffer F) (numChannels numSamples : ℕ) : Session F :=
  ⟨rb.initialise numChannels numSamples, numChannels, numSamples, fun _ => [], fun _ => 0⟩

/-- The session after a call. -/
def call (s : Session F) (c : Call F) : Session F :=
  let s := { s with ring := (s.ring.call c).2 }
  match c with
  | .initialise numChannels numSamples =>
    { s with numChannels, numSamples, pushed := fun _ => [], popped := fun _ => 0 }
  | .reset => { s with pushed := fun _ => [], popped := fun _ => 0 }
  | .pushSample x c => { s with pushed := Function.update s.pushed c (s.pushed c ++ [x]) }
  | .popSample c => { s with popped := Function.update s.popped c (s.popped c + 1) }
  | .getAvailableSamples _ => s

/-- One step of a run. -/
def step (s : Session F) (c : Call F) : Option (Session F) := some (s.call c)

/-- The pushes minus the pops of a channel. -/
def stored (s : Session F) (c : ℕ) : ℤ := (s.pushed c).length - s.popped c

/-- Each channel holds between 0 and `N - 1` samples, which leaves no room for a capacity of 0. -/
def InBounds (s : Session F) : Prop :=
  ∀ c < s.numChannels, 0 ≤ s.stored c ∧ s.stored c ≤ s.numSamples - 1

/-- The call names a channel of the ring. -/
def OnChannel (s : Session F) (call : Call F) : Prop :=
  ∀ c ∈ call.channel?, c < s.numChannels

/-- The ring is the bank of queues: each channel holds the items of its queue, and their number is
what `getAvailableSamples` returns. -/
structure Represents (s : Session F) (b : BoundedQueues F) : Prop where
  channels_eq : b.channels = s.numChannels
  bound_eq : b.bound = s.numSamples - 1
  queue_eq : ∀ c < s.numChannels, s.ring.queue c = b.items c
  available_eq : ∀ c < s.numChannels, (s.ring.getAvailableSamples c : ℤ) = s.stored c

/-- The call is answered as by the bank of queues. -/
structure Served (s : Session F) (call : Call F) : Prop where
  /-- The index used lies in the ring. -/
  index_lt : ∀ i ∈ s.ring.index? call, i < s.numSamples
  /-- The reply and the next state are those of the queues. -/
  reply_eq : ∀ b, s.Represents b →
    ∃ b', serve b call = some ((s.ring.call call).1, b') ∧ (s.call call).Represents b'
  /-- A pop returns the oldest sample not yet popped, 0 if it was NaN. -/
  oldest : ∀ c, call = .popSample c → ∃ h : s.popped c < (s.pushed c).length,
    (s.ring.popSample c).1 = nanToZero (s.pushed c)[s.popped c]
  /-- The samples of the other channels stay. -/
  others : ∀ c ∈ call.channel?, ∀ d < s.numChannels, d ≠ c →
    (s.call call).ring.queue d = s.ring.queue d

/-- The ring has the sizes asked for, and each channel the history of its calls. -/
structure Inv (s : Session F) : Prop where
  numSamples_eq : s.ring.buffer.numSamples = s.numSamples
  tracks : ∀ c < s.numChannels, s.ring.Tracks c (s.pushed c) (s.popped c)

lemma inv_start (rb : RingBuffer F) (numChannels numSamples : ℕ) :
    (start rb numChannels numSamples).Inv where
  numSamples_eq := rb.buffer.setSize_numSamples numChannels numSamples rb.buffer.data
  tracks _ hc := rb.tracks_initialise hc numSamples

/-- The capacity is the period of the positions where it is not 0. -/
lemma Inv.period_eq {s : Session F} (h : s.Inv) (hbounds : s.InBounds) {c : ℕ}
    (hc : c < s.numChannels) : s.ring.period = s.numSamples := by
  have hb := hbounds c hc
  unfold period
  rw [h.numSamples_eq]
  omega

/-- A channel within its bounds holds less than a full ring. -/
lemma Inv.stored_lt {s : Session F} (h : s.Inv) (hbounds : s.InBounds) {c : ℕ}
    (hc : c < s.numChannels) : (s.pushed c).length - s.popped c < s.ring.period := by
  have hb := hbounds c hc
  rw [h.period_eq hbounds hc]
  unfold stored at hb
  omega

/-- What a channel within its bounds holds. -/
lemma Inv.queue_eq {s : Session F} (h : s.Inv) (hbounds : s.InBounds) {c : ℕ}
    (hc : c < s.numChannels) :
    s.ring.queue c = ((s.pushed c).map nanToZero).drop (s.popped c) :=
  (h.tracks c hc).queue_eq (h.stored_lt hbounds hc)

lemma Inv.available_eq {s : Session F} (h : s.Inv) (hbounds : s.InBounds) {c : ℕ}
    (hc : c < s.numChannels) : (s.ring.getAvailableSamples c : ℤ) = s.stored c := by
  have hle := (h.tracks c hc).popped_le
  rw [(h.tracks c hc).getAvailableSamples_of_lt (h.stored_lt hbounds hc)]
  unfold stored
  omega

/-- **A state within its bounds is a bank of queues.** -/
lemma Inv.represents {s : Session F} (h : s.Inv) (hbounds : s.InBounds) :
    ∃ b, s.Represents b := by
  refine ⟨⟨s.numChannels, s.numSamples - 1,
    fun c => if c < s.numChannels then s.ring.queue c else [], fun c => ?_⟩,
    rfl, rfl, fun c hc => (if_pos hc).symm, fun c hc => h.available_eq hbounds hc⟩
  by_cases hc : c < s.numChannels
  · have hb := hbounds c hc
    rw [if_pos hc, h.queue_eq hbounds hc, List.length_drop, List.length_map]
    unfold stored at hb
    omega
  · rw [if_neg hc]
    exact Nat.zero_le _

/-! ## One call -/

variable {s : Session F}

/-- A pop that keeps the bounds takes a sample that is stored. -/
lemma popped_lt {c : ℕ} (hbounds : (s.call (.popSample c)).InBounds) (hc : c < s.numChannels) :
    s.popped c < (s.pushed c).length := by
  have hb := (hbounds c hc).1
  simp only [stored, call, Function.update_self] at hb
  omega

/-- A push that keeps the bounds finds room. -/
lemma stored_add_one_lt {x : F} {c : ℕ} (hbounds : (s.call (.pushSample x c)).InBounds)
    (hc : c < s.numChannels) : s.stored c + 1 < s.numSamples := by
  have hb := (hbounds c hc).2
  simp only [stored, call, Function.update_self, List.length_append, List.length_singleton] at hb
  unfold stored
  omega

/-- **What one call does**: every channel goes on with the history of its calls.

**Proof sketch.** By the call: the channel it works on goes on by the lemma of that call, and the
other channels by the one that leaves them alone. -/
lemma inv_call (h : s.Inv) {call : Call F} (hchannel : s.OnChannel call)
    (hbounds : (s.call call).InBounds) : (s.call call).Inv := by
  cases call with
  | initialise numChannels numSamples => exact inv_start s.ring numChannels numSamples
  | reset => exact ⟨h.numSamples_eq, fun c hc => (h.tracks c hc).reset⟩
  | pushSample x d =>
    refine ⟨h.numSamples_eq, fun c hc => ?_⟩
    show (s.ring.pushSample x d).Tracks c (Function.update s.pushed d (s.pushed d ++ [x]) c)
      (s.popped c)
    by_cases hd : c = d
    · subst hd
      rw [Function.update_self]
      exact (h.tracks c hc).pushSample x
    · rw [Function.update_of_ne hd]
      exact (h.tracks c hc).pushSample_of_ne (Ne.symm hd) x
  | popSample d =>
    have hd : d < s.numChannels := hchannel d rfl
    refine ⟨?_, fun c hc => ?_⟩
    · show (s.ring.popSample d).2.buffer.numSamples = s.numSamples
      rw [popSample_snd]
      exact h.numSamples_eq
    · show (s.ring.popSample d).2.Tracks c (s.pushed c)
        (Function.update s.popped d (s.popped d + 1) c)
      by_cases hcd : c = d
      · subst hcd
        rw [Function.update_self]
        exact (h.tracks c hc).popSample (popped_lt hbounds hc)
      · rw [Function.update_of_ne hcd]
        exact (h.tracks c hc).popSample_of_ne (Ne.symm hcd)
  | getAvailableSamples d => exact h

/-- The positions that a call uses lie in the ring. -/
lemma Inv.index_lt (h : s.Inv) {call : Call F} (hchannel : s.OnChannel call)
    (hbounds : s.InBounds) : ∀ i ∈ s.ring.index? call, i < s.numSamples := by
  intro i hi
  cases call with
  | initialise _ _ | reset | getAvailableSamples _ => cases hi
  | pushSample x c =>
    have hc := hchannel c rfl
    rw [← h.period_eq hbounds hc, ← Option.some.inj hi]
    exact (h.tracks c hc).writePos_lt
  | popSample c =>
    have hc := hchannel c rfl
    rw [← h.period_eq hbounds hc, ← Option.some.inj hi]
    exact (h.tracks c hc).readPos_lt

/-- A call on one channel leaves what was pushed and popped on the others. -/
lemma call_of_ne (s : Session F) {call : Call F} {c d : ℕ} (hcall : call.channel? = some c)
    (hd : d ≠ c) :
    (s.call call).numChannels = s.numChannels ∧ (s.call call).pushed d = s.pushed d ∧
      (s.call call).popped d = s.popped d := by
  cases call with
  | initialise _ _ | reset => cases hcall
  | pushSample x _ =>
    obtain rfl := Option.some.inj hcall
    exact ⟨rfl, Function.update_of_ne hd _ _, rfl⟩
  | popSample _ =>
    obtain rfl := Option.some.inj hcall
    exact ⟨rfl, rfl, Function.update_of_ne hd _ _⟩
  | getAvailableSamples _ => exact ⟨rfl, rfl, rfl⟩

/-- The samples of the other channels stay. -/
lemma Inv.queue_of_ne (h : s.Inv) {call : Call F} (hchannel : s.OnChannel call)
    (hbounds : s.InBounds) (hbounds' : (s.call call).InBounds) {c d : ℕ}
    (hcall : call.channel? = some c) (hdc : d ≠ c) (hd : d < s.numChannels) :
    (s.call call).ring.queue d = s.ring.queue d := by
  obtain ⟨hchannels, hpushed, hpopped⟩ := s.call_of_ne hcall hdc
  rw [(inv_call h hchannel hbounds').queue_eq hbounds' (hchannels ▸ hd), h.queue_eq hbounds hd,
    hpushed, hpopped]

/-- A pop that keeps the bounds returns the oldest sample not yet popped. -/
lemma Inv.popSample_fst (h : s.Inv) (hbounds : s.InBounds) {c : ℕ} (hc : c < s.numChannels)
    (hlt : s.popped c < (s.pushed c).length) :
    (s.ring.popSample c).1 = nanToZero (s.pushed c)[s.popped c] := by
  have hroom := h.stored_lt hbounds hc
  exact (h.tracks c hc).popSample_fst hlt (by omega)

/-- The queues that a state within its bounds is, from its history. -/
lemma Inv.represents_of (h : s.Inv) (hbounds : s.InBounds) {b : BoundedQueues F}
    (hchannels : b.channels = s.numChannels) (hbound : b.bound = s.numSamples - 1)
    (hitems : ∀ c < s.numChannels, b.items c = ((s.pushed c).map nanToZero).drop (s.popped c)) :
    s.Represents b where
  channels_eq := hchannels
  bound_eq := hbound
  queue_eq c hc := by rw [h.queue_eq hbounds hc, hitems c hc]
  available_eq _ hc := h.available_eq hbounds hc

/-- The items of a queue that a state within its bounds is, and their number. -/
lemma Inv.items_eq (h : s.Inv) (hbounds : s.InBounds) {b : BoundedQueues F} (hb : s.Represents b)
    {c : ℕ} (hc : c < s.numChannels) :
    b.items c = ((s.pushed c).map nanToZero).drop (s.popped c) ∧
      ((b.items c).length : ℤ) = s.stored c := by
  have hle := (h.tracks c hc).popped_le
  have hitems : b.items c = ((s.pushed c).map nanToZero).drop (s.popped c) := by
    rw [← hb.queue_eq c hc, h.queue_eq hbounds hc]
  refine ⟨hitems, ?_⟩
  rw [hitems, List.length_drop, List.length_map]
  unfold stored
  omega

/-- A push is answered as by the queues: it finds room, since the state after it is within its
bounds.

**Proof sketch.** Within its bounds the ring stores fewer samples than the bound, so the queue takes
the sample; then the items are compared channel by channel. -/
lemma Inv.reply_pushSample (h : s.Inv) {x : F} {d : ℕ} (hd : d < s.numChannels)
    (hbounds : s.InBounds) (hbounds' : (s.call (.pushSample x d)).InBounds)
    (h' : (s.call (.pushSample x d)).Inv) {b : BoundedQueues F} (hb : s.Represents b) :
    ∃ b', serve b (.pushSample x d) = some (.done, b') ∧
      (s.call (.pushSample x d)).Represents b' := by
  have hroom : (b.items d).length < b.bound := by
    have hstored := stored_add_one_lt hbounds' hd
    have hlength := (h.items_eq hbounds hb hd).2
    rw [hb.bound_eq]
    omega
  obtain ⟨b', hpush, hchannels, hbound, hitems⟩ :=
    BoundedQueues.push?_eq_some (x := nanToZero x) (hb.channels_eq ▸ hd) hroom
  refine ⟨b', ?_, h'.represents_of hbounds' (hchannels.trans hb.channels_eq)
    (hbound.trans hb.bound_eq) fun c hc => ?_⟩
  · show (b.push? (nanToZero x) d).map (fun b => (Reply.done, b)) = some (Reply.done, b')
    rw [hpush, Option.map_some]
  · have hold := (h.items_eq hbounds hb hc).1
    show b'.items c = ((Function.update s.pushed d (s.pushed d ++ [x]) c).map nanToZero).drop
      (s.popped c)
    rw [hitems]
    by_cases hcd : c = d
    · subst hcd
      have hle : s.popped c ≤ ((s.pushed c).map nanToZero).length := by
        simpa using (h.tracks c hc).popped_le
      rw [Function.update_self, Function.update_self, hold, List.map_append,
        List.drop_append_of_le_length hle, List.map_singleton]
    · rw [Function.update_of_ne hcd, Function.update_of_ne hcd, hold]

/-- A pop is answered as by the queues: it finds the oldest sample, since the state after it is
within its bounds.

**Proof sketch.** The sample at the read position is the head of the queue; then the items are
compared channel by channel. -/
lemma Inv.reply_popSample (h : s.Inv) {d : ℕ} (hd : d < s.numChannels) (hbounds : s.InBounds)
    (hbounds' : (s.call (.popSample d)).InBounds) (h' : (s.call (.popSample d)).Inv)
    {b : BoundedQueues F} (hb : s.Represents b) :
    ∃ b', serve b (.popSample d) = some (.sample (s.ring.popSample d).1, b') ∧
      (s.call (.popSample d)).Represents b' := by
  have hlt := popped_lt hbounds' hd
  have hcons : b.items d = nanToZero (s.pushed d)[s.popped d] ::
      ((s.pushed d).map nanToZero).drop (s.popped d + 1) := by
    rw [(h.items_eq hbounds hb hd).1, List.drop_eq_getElem_cons (by simpa using hlt),
      List.getElem_map]
  obtain ⟨b', hpop, hchannels, hbound, hitems⟩ :=
    BoundedQueues.pop?_eq_some (hb.channels_eq ▸ hd) hcons
  refine ⟨b', ?_, h'.represents_of hbounds' (hchannels.trans hb.channels_eq)
    (hbound.trans hb.bound_eq) fun c hc => ?_⟩
  · show (b.pop? d).map (fun (x, b) => (Reply.sample x, b)) =
      some (Reply.sample (s.ring.popSample d).1, b')
    rw [hpop, Option.map_some, h.popSample_fst hbounds hd hlt]
  · show b'.items c = ((s.pushed c).map nanToZero).drop
      (Function.update s.popped d (s.popped d + 1) c)
    rw [hitems]
    by_cases hcd : c = d
    · subst hcd
      rw [Function.update_self, Function.update_self]
    · rw [Function.update_of_ne hcd, Function.update_of_ne hcd, (h.items_eq hbounds hb hc).1]

/-- The count is that of the items of the queue. -/
lemma Inv.reply_getAvailableSamples (h : s.Inv) {d : ℕ} (hd : d < s.numChannels)
    (hbounds : s.InBounds) {b : BoundedQueues F} (hb : s.Represents b) :
    serve b (.getAvailableSamples d) = some (.count (s.ring.getAvailableSamples d), b) := by
  have hcount : (b.items d).length = s.ring.getAvailableSamples d := by
    have hlength := (h.items_eq hbounds hb hd).2
    have havailable := hb.available_eq d hd
    omega
  show (if d < b.channels then some (Reply.count (b.items d).length, b) else none) =
    some (Reply.count (s.ring.getAvailableSamples d), b)
  rw [if_pos (hb.channels_eq ▸ hd), hcount]

/-- **One call is answered as by the queues**, with the state after it as theirs. -/
lemma Inv.reply_eq (h : s.Inv) {call : Call F} (hchannel : s.OnChannel call)
    (hbounds : s.InBounds) (hbounds' : (s.call call).InBounds) {b : BoundedQueues F}
    (hb : s.Represents b) :
    ∃ b', serve b call = some ((s.ring.call call).1, b') ∧ (s.call call).Represents b' := by
  have h' : (s.call call).Inv := inv_call h hchannel hbounds'
  cases call with
  | initialise numChannels numSamples =>
    exact ⟨_, rfl, h'.represents_of hbounds' rfl rfl fun _ _ => rfl⟩
  | reset =>
    exact ⟨_, rfl, h'.represents_of hbounds' hb.channels_eq hb.bound_eq fun _ _ => rfl⟩
  | pushSample x d => exact h.reply_pushSample (hchannel d rfl) hbounds hbounds' h' hb
  | popSample d => exact h.reply_popSample (hchannel d rfl) hbounds hbounds' h' hb
  | getAvailableSamples d =>
    exact ⟨b, h.reply_getAvailableSamples (hchannel d rfl) hbounds hb, hb⟩

/-- One call within the bounds. -/
lemma Inv.served (h : s.Inv) {call : Call F} (hchannel : s.OnChannel call)
    (hbounds : s.InBounds) (hbounds' : (s.call call).InBounds) : s.Served call where
  index_lt := h.index_lt hchannel hbounds
  reply_eq _ hb := h.reply_eq hchannel hbounds hbounds' hb
  oldest := by
    rintro c rfl
    have hc : c < s.numChannels := hchannel c rfl
    exact ⟨popped_lt hbounds' hc, h.popSample_fst hbounds hc _⟩
  others _ hcall _ hd hdc := h.queue_of_ne hchannel hbounds hbounds' hcall hdc hd

end Session

end RingBuffer

open RingBuffer Session in
/-- **The ring buffer refines a bank of bounded queues.** A ring is initialised with any numbers of
channels and samples, and calls of any kind follow that name channels of the ring, further
`initialise`s among them. Let each channel always hold between 0 and `N - 1` samples. Then every
state is a bank of queues, whose items are what `queue` gives and are counted by
`getAvailableSamples`, and every call is answered as by that bank, with an index below `N`.

**Proof sketch.** Every channel keeps to the history of its calls (`Session.inv_call`). Within the
bounds the ring never laps itself, so the history beyond the pops is what the channel holds. -/
theorem ring_refines_queues {F : Type} [FloatSample F] (rb : RingBuffer F)
    (numChannels numSamples : ℕ) (calls : List (Call F))
    (hchannels : Transition.StepsMeet step OnChannel (start rb numChannels numSamples) calls)
    (hbounds : Transition.Always step InBounds (start rb numChannels numSamples) calls) :
    Transition.Always step (fun s => ∃ b, s.Represents b) (start rb numChannels numSamples)
        calls ∧
      Transition.StepsMeet step Served (start rb numChannels numSamples) calls := by
  have hstay : Transition.StepsMeet step (fun s call => s.InBounds ∧ (s.call call).InBounds)
      (start rb numChannels numSamples) calls := by
    refine Transition.stepsMeet_of_always (fun s call s' h h' hs => ?_) hbounds
    obtain rfl := Option.some.inj hs
    exact ⟨h, h'⟩
  have hsteps := hchannels.and hstay
  have hinv : Transition.Always step Inv (start rb numChannels numSamples) calls := by
    refine Transition.always_of_stepsMeet (fun s call s' h hc hs => ?_)
      (inv_start rb numChannels numSamples) hsteps
    obtain rfl := Option.some.inj hs
    exact inv_call h hc.1 hc.2.2
  refine ⟨(hinv.and hbounds).mono fun s h => h.1.represents h.2, ?_⟩
  exact hsteps.of_always hinv fun s call h hc => h.served hc.1 hc.2.1 hc.2.2

open RingBuffer Session in
/-- A ring of one channel and three samples: a push and a pop. -/
theorem ring_refines_queues_push_pop :
    Transition.Always step (fun s => ∃ b, s.Represents b)
        (start ⟨⟨0, 0, fun _ _ => ExactFloat.nan⟩, [], []⟩ 1 3)
        [.pushSample (.number 5) 0, .popSample 0] ∧
      Transition.StepsMeet step Served
        (start ⟨⟨0, 0, fun _ _ => ExactFloat.nan⟩, [], []⟩ 1 3)
        [.pushSample (.number 5) 0, .popSample 0] := by
  apply ring_refines_queues
  · intro s hs
    obtain rfl := Option.some.inj hs
    refine ⟨fun c hc => ?_, fun s' hs' => ?_⟩
    · obtain rfl := Option.some.inj hc
      exact Nat.zero_lt_one
    · obtain rfl := Option.some.inj hs'
      refine ⟨fun c hc => ?_, trivial⟩
      obtain rfl := Option.some.inj hc
      exact Nat.zero_lt_one
  · refine ⟨fun c hc => ?_, fun s hs => ?_⟩
    · obtain rfl := Nat.lt_one_iff.mp hc
      decide
    · obtain rfl := Option.some.inj hs
      refine ⟨fun c hc => ?_, fun s' hs' c hc => ?_⟩
      · obtain rfl := Nat.lt_one_iff.mp hc
        decide
      · obtain rfl := Option.some.inj hs'
        obtain rfl := Nat.lt_one_iff.mp hc
        decide
