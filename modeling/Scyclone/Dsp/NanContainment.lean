import Mathlib.Tactic.Linarith
import Scyclone.Dsp.TransientSplitter

set_option relaxedAutoImplicit false
set_option autoImplicit false

/-!
# What a NaN leaves behind

The loop of the follower with an attack time replaces a stored NaN, the one without does not. The
transient splitter has followers of both kinds.

## Main definitions

* `frames` — the stream of a run, one list of samples for each time.
* `Envelope.NanContained` — after the last NaN of the stream all values are numbers.
* `TransientSplitter.Recovers` — the splitter can give back numbers again.

## Main results

* `Envelope.foldl_follow_eq_nan` — without an attack time a NaN stays for ever.
* `nan_contained_iff` — both hold exactly if there is an attack time, or there was no NaN in the
  first channel.
-/

open WithNan

variable {K : Type}

/-! ## Streams of frames -/

/-- The samples of all channels at one time. -/
def AudioBuffer.frame (buffer : AudioBuffer (WithNan K)) (i : ℕ) : List (WithNan K) :=
  (List.range buffer.numChannels).map fun c => buffer.getSample c i

/-- The stream of a run. -/
def frames (buffers : List (AudioBuffer (WithNan K))) : List (List (WithNan K)) :=
  buffers.flatMap fun b => (List.range b.numSamples).map b.frame

lemma frames_append (bs cs : List (AudioBuffer (WithNan K))) :
    frames (bs ++ cs) = frames bs ++ frames cs := List.flatMap_append

section Detect

variable [Field K] [LinearOrder K]

/-- What is detected in a frame. -/
def detectFrame : List (WithNan K) → WithNan K
  | [x] => x
  | x :: y :: _ => stdMax x.abs y.abs
  | [] => 0

/-- The detector reads the frames. -/
lemma flatMap_detected {buffers : List (AudioBuffer (WithNan K))}
    (h : ∀ b ∈ buffers, 0 < b.numChannels) :
    buffers.flatMap Envelope.detected = (frames buffers).map detectFrame := by
  unfold frames
  rw [List.map_flatMap]
  refine List.flatMap_congr fun b hb => ?_
  rw [List.map_map]
  refine List.map_congr_left fun i _ => ?_
  have hpos := h b hb
  simp only [Envelope.detect, Function.comp, AudioBuffer.frame]
  by_cases hone : b.numChannels = 1
  · simp [hone, detectFrame]
  · obtain ⟨n, hn⟩ : ∃ n, b.numChannels = n + 2 := ⟨b.numChannels - 2, by omega⟩
    have hrange : List.range (n + 2) = 0 :: 1 :: (List.range n).map (· + 2) := by
      rw [List.range_succ_eq_map, List.range_succ_eq_map]
      simp
    rw [if_neg hone, hn, hrange]
    simp [detectFrame]

/-- A NaN is detected exactly in the first channel. -/
lemma detectFrame_eq_nan {f : List (WithNan K)} : detectFrame f = nan ↔ f.head? = some nan := by
  match f with
  | [] => simp [detectFrame, zero_eq]
  | [x] => simp [detectFrame]
  | x :: y :: _ => simp [detectFrame, stdMax_eq_nan]

omit [Field K] [LinearOrder K] in
/-- A frame without a NaN has none in its first channel. -/
lemma head?_ne_nan {f : List (WithNan K)} (h : nan ∉ f) : f.head? ≠ some nan := fun hf =>
  h (List.mem_of_head? hf)

/-! ## One follower -/

namespace Envelope

/-- After the last NaN of the stream all values are numbers, however the stream goes on without
one. -/
def NanContained (e : Envelope K) (received : List (AudioBuffer (WithNan K))) : Prop :=
  ∀ following : List (AudioBuffer (WithNan K)), (∀ b ∈ following, 0 < b.numChannels) →
    (∀ f ∈ frames following, nan ∉ f) →
    ∀ i (hi : i < (e.processBlocks (received ++ following)).2.length),
      (∀ f ∈ (frames (received ++ following)).drop i, nan ∉ f) →
      (e.processBlocks (received ++ following)).2[i] ≠ nan

/-- With an attack time a step gives NaN only for a NaN. -/
lemma follow_ne_nan (e : Envelope K) (h : e.attackTime ≠ 0) (l : WithNan K) {d : WithNan K}
    (hd : d ≠ nan) : e.follow l d ≠ nan := by
  obtain ⟨d, rfl⟩ := exists_number_of_ne_nan hd
  cases l with
  | nan =>
    rw [e.follow_nan h, zero_eq, e.follow_number]
    exact fun h => by cases h
  | number l =>
    rw [e.follow_number]
    exact fun h => by cases h

/-- Without an attack time a step also gives NaN from a stored one. -/
lemma follow_eq_nan (e : Envelope K) (h : e.attackTime = 0) (l d : WithNan K) :
    e.follow l d = nan ↔ l = nan ∨ d = nan := by
  cases l with
  | nan => simp [follow, followBy, h]
  | number l =>
    cases d with
    | nan => simp [follow, followBy, h]
    | number d =>
      rw [e.follow_number]
      simp

/-- A step between numbers stays among numbers. -/
lemma follow_ne_nan_of_ne (e : Envelope K) {l d : WithNan K} (hl : l ≠ nan) (hd : d ≠ nan) :
    e.follow l d ≠ nan := by
  by_cases h : e.attackTime = 0
  · rw [Ne, e.follow_eq_nan h, not_or]
    exact ⟨hl, hd⟩
  · exact e.follow_ne_nan h l hd

/-- **Without an attack time a NaN stays for ever.** -/
lemma foldl_follow_eq_nan (e : Envelope K) (h : e.attackTime = 0) (l : WithNan K)
    (fs : List (List (WithNan K))) :
    (fs.map detectFrame).foldl e.follow l = nan ↔ l = nan ∨ ∃ f ∈ fs, f.head? = some nan := by
  rw [Scan.foldl_iff_exists (P := fun l => l = nan) (Q := fun d => d = nan) (e.follow_eq_nan h)]
  simp only [List.mem_map, exists_exists_and_eq_and, detectFrame_eq_nan]

end Envelope

omit [Field K] [LinearOrder K] in
lemma frames_single (x : K) : frames [.single x] = [[number x]] := by
  simp [frames, AudioBuffer.frame, AudioBuffer.single, AudioBuffer.getSample]

namespace Envelope

/-- **When a follower contains a NaN.**

**Proof sketch.** With an attack time each value is a number if its own frame is. Without one the
stored value is NaN from the first NaN of the first channel on, and the next value shows it. -/
lemma nanContained_iff (e : Envelope K) {received : List (AudioBuffer (WithNan K))}
    (hreceived : ∀ b ∈ received, 0 < b.numChannels) :
    e.NanContained received ↔ e.attackTime ≠ 0 ∨
      (e.lastValue ≠ nan ∧ ∀ f ∈ frames received, f.head? ≠ some nan) := by
  have hvalues : ∀ following : List (AudioBuffer (WithNan K)),
      (∀ b ∈ following, 0 < b.numChannels) →
      (e.processBlocks (received ++ following)).2 =
        Scan.states e.follow e.lastValue ((frames (received ++ following)).map detectFrame) := by
    intro following hfollowing
    rw [(e.processBlocks_eq _).1, flatMap_detected fun b hb => ?_]
    exact (List.mem_append.mp hb).elim (hreceived b) (hfollowing b)
  constructor
  · intro h
    by_contra hcond
    rw [not_or, not_not] at hcond
    obtain ⟨hinstant, hno⟩ := hcond
    have hspoilt : ((frames received).map detectFrame).foldl e.follow e.lastValue = nan := by
      rw [e.foldl_follow_eq_nan hinstant]
      by_contra hgood
      rw [not_or] at hgood
      exact hno ⟨hgood.1, fun f hf hhead => hgood.2 ⟨f, hf, hhead⟩⟩
    -- one more sample is enough to see it
    have hone := h [.single 1] (by simp [AudioBuffer.single]) (by simp [frames_single])
    simp only [hvalues [.single 1] (by simp [AudioBuffer.single]), frames_append, frames_single,
      List.map_append, Scan.states_append] at hone
    refine hone (frames received).length (by simp) (by simp) ?_
    rw [List.getElem_append_right (by simp)]
    simp only [Scan.length_states, List.length_map, Nat.sub_self, List.map_cons, List.map_nil,
      Scan.states_cons, List.getElem_cons_zero, hspoilt]
    exact e.follow_nan_of_instant hinstant _
  · intro hcond following hfollowing hclean i hi hrest
    simp only [hvalues following hfollowing] at hi ⊢
    have hi' : i < (frames (received ++ following)).length := by simpa using hi
    rw [Scan.getElem_states _ _ _ hi (by simpa using hi'), List.getElem_map]
    have hframe : detectFrame (frames (received ++ following))[i] ≠ nan := by
      rw [Ne, detectFrame_eq_nan]
      refine head?_ne_nan (hrest _ ?_)
      rw [List.mem_drop_iff_getElem]
      exact ⟨0, by simpa using hi', by simp⟩
    rcases hcond with hattack | ⟨hl, hhead⟩
    · exact e.follow_ne_nan hattack _ hframe
    · refine e.follow_ne_nan_of_ne ?_ hframe
      refine (Scan.forall_states (I := fun l => l ≠ nan) (C := fun d => d ≠ nan)
        (fun l d hl hd => e.follow_ne_nan_of_ne hl hd) hl fun d hd => ?_).2
      obtain ⟨f, hf, rfl⟩ := List.mem_map.mp (List.mem_of_mem_take hd)
      rw [Ne, detectFrame_eq_nan]
      rw [frames_append] at hf
      rcases List.mem_append.mp hf with hf | hf
      · exact hhead f hf
      · exact head?_ne_nan (hclean f hf)

/-- A follower that has not met a NaN stores a number. -/
lemma lastValue_ne_nan (e : Envelope K) {received : List (AudioBuffer (WithNan K))}
    (hreceived : ∀ b ∈ received, 0 < b.numChannels) (hl : e.lastValue ≠ nan)
    (hhead : ∀ f ∈ frames received, f.head? ≠ some nan) :
    (e.processBlocks received).1.lastValue ≠ nan := by
  rw [(e.processBlocks_eq received).2, flatMap_detected hreceived]
  refine (Scan.forall_states (I := fun l => l ≠ nan) (C := fun d => d ≠ nan)
    (fun l d hl hd => e.follow_ne_nan_of_ne hl hd) hl fun d hd => ?_).2
  obtain ⟨f, hf, rfl⟩ := List.mem_map.mp hd
  rw [Ne, detectFrame_eq_nan]
  exact hhead f hf

end Envelope

end Detect

/-! ## The splitter -/

namespace TransientSplitter

variable [Field K] [LinearOrder K]

/-- The splitter can give back a number again, for some blocks without a NaN. -/
def Recovers (s : TransientSplitter K) (received : List (AudioBuffer (WithNan K))) : Prop :=
  ∃ following : List (AudioBuffer (WithNan K)), (∀ b ∈ following, 0 < b.numChannels) ∧
    (∀ f ∈ frames following, nan ∉ f) ∧
    ∃ out ∈ ((s.processBlocks received).1.processBlocks following).2,
      ∃ c < out.numChannels, ∃ j < out.numSamples, out.data c j ≠ nan

/-- The followers of a splitter run on their own. -/
lemma processBlocks_fst (s : TransientSplitter K) (bs : List (AudioBuffer (WithNan K))) :
    (s.processBlocks bs).1 =
      { s with
        detector := (s.detector.processBlocks bs).1
        envelope1 := (s.envelope1.processBlocks bs).1
        envelope2 := (s.envelope2.processBlocks bs).1 } := by
  induction bs generalizing s with
  | nil => rfl
  | cons b bs ih => exact ih (s.followed b)

/-- A NaN of the detector makes a NaN of the sample. -/
lemma mixSample_nan (parameter : TransientSplitterParameter K)
    (envelope1 envelope2 sample : WithNan K) :
    mixSample parameter nan envelope1 envelope2 sample = nan := by
  simp [mixSample]

/-- Once its detector stores a NaN, the splitter gives back nothing else.

**Proof sketch.** Induction on the blocks: without an attack time a stored NaN stays, and a sample
mixed with a detector of NaN is NaN. -/
lemma data_eq_nan_of_spoilt {s : TransientSplitter K} (h : s.detector.attackTime = 0)
    (hl : s.detector.lastValue = nan) {following : List (AudioBuffer (WithNan K))}
    {out : AudioBuffer (WithNan K)} (hout : out ∈ (s.processBlocks following).2) {c j : ℕ}
    (hc : c < out.numChannels) (hj : j < out.numSamples) : out.data c j = nan := by
  induction following generalizing s with
  | nil => cases hout
  | cons b bs ih =>
    have hstuck : ∀ ds : List (WithNan K), (∀ v ∈ Scan.states s.detector.follow nan ds, v = nan) ∧
        ds.foldl s.detector.follow nan = nan := fun ds =>
      Scan.forall_states (I := fun l => l = nan) (C := fun _ => True)
        (fun l d hl _ => by rw [hl]; exact s.detector.follow_nan_of_instant h d) rfl
        fun _ _ => trivial
    rcases List.mem_cons.mp hout with rfl | hout
    · simp only [processBlock, AudioBuffer.forEachSample_eq] at hc hj
      rw [processBlock_data s b hc hj]
      have hlen : j < (Scan.states s.detector.follow s.detector.lastValue
          (Envelope.detected b)).length := by simpa using hj
      have hdetector : (s.followed b).detector.getSample j = nan := by
        simp only [followed]
        rw [Envelope.getSample_processBlock _ _ hlen]
        refine (hstuck (Envelope.detected b)).1 _ ?_
        rw [← hl]
        exact List.getElem_mem hlen
      rw [hdetector]
      exact mixSample_nan _ _ _ _
    · refine ih (s := s.followed b) ?_ ?_ hout
      · simpa [followed, Envelope.processBlock_eq] using h
      · simp only [followed, Envelope.processBlock_lastValue, hl]
        exact (hstuck _).2

/-- While its followers store numbers, the splitter gives back a number for a sample above what
its detector stores. -/
lemma exists_data_ne_nan [IsStrictOrderedRing K] {s : TransientSplitter K}
    (h : s.detector.attackTime = 0) (hd : s.detector.lastValue ≠ nan)
    (h₁ : s.envelope1.lastValue ≠ nan) (h₂ : s.envelope2.lastValue ≠ nan) :
    ∃ x, (s.processBlock (.single x)).2.data 0 0 ≠ nan := by
  obtain ⟨l, hl⟩ := exists_number_of_ne_nan hd
  obtain ⟨l₁, hl₁⟩ := exists_number_of_ne_nan h₁
  obtain ⟨l₂, hl₂⟩ := exists_number_of_ne_nan h₂
  have hpos : 0 < max l 0 + 1 := by
    have := le_max_right l 0
    linarith
  have hlt : l < max l 0 + 1 := by
    have := le_max_left l 0
    linarith
  refine ⟨max l 0 + 1, ?_⟩
  rw [processBlock_data s _ (by simp [AudioBuffer.single]) (by simp [AudioBuffer.single])]
  simp only [followed, Envelope.getSample_single, hl, hl₁, hl₂, Envelope.follow_number, h,
    if_true, if_pos hlt]
  rw [mixSample_eq _ hpos.ne']
  simp [AudioBuffer.single]

/-- **When a splitter recovers.** A prepared splitter that was sent some blocks can give back
numbers again exactly if there was no NaN in the first channel.

**Proof sketch.** A NaN in the first channel stays in the detector, whose state is a value of every
later sample. Without one all three followers store numbers, and one more sample is given back as a
number. -/
lemma recovers_iff [IsStrictOrderedRing K] {s : TransientSplitter K}
    (h : s.detector.attackTime = 0) (hd : s.detector.lastValue ≠ nan)
    (h₁ : s.envelope1.lastValue ≠ nan) (h₂ : s.envelope2.lastValue ≠ nan)
    {received : List (AudioBuffer (WithNan K))} (hreceived : ∀ b ∈ received, 0 < b.numChannels) :
    s.Recovers received ↔ ∀ f ∈ frames received, f.head? ≠ some nan := by
  have hinstant : ((s.processBlocks received).1).detector.attackTime = 0 := by
    rw [processBlocks_fst]
    exact (s.detector.processBlocks_attackTime received).trans h
  constructor
  · rintro ⟨following, -, -, out, hout, c, hc, j, hj, hne⟩ f hf hhead
    refine hne (data_eq_nan_of_spoilt hinstant ?_ hout hc hj)
    rw [processBlocks_fst]
    simp only
    rw [(s.detector.processBlocks_eq received).2, flatMap_detected hreceived,
      s.detector.foldl_follow_eq_nan h]
    exact Or.inr ⟨f, hf, hhead⟩
  · intro hhead
    obtain ⟨x, hx⟩ := exists_data_ne_nan hinstant
      (by rw [processBlocks_fst]; exact s.detector.lastValue_ne_nan hreceived hd hhead)
      (by rw [processBlocks_fst]; exact s.envelope1.lastValue_ne_nan hreceived h₁ hhead)
      (by rw [processBlocks_fst]; exact s.envelope2.lastValue_ne_nan hreceived h₂ hhead)
    refine ⟨[.single x], by simp [AudioBuffer.single], by simp [frames_single], _,
      List.mem_singleton.mpr rfl, 0, ?_, 0, ?_, hx⟩
    · simp [processBlock, AudioBuffer.forEachSample_eq, AudioBuffer.single]
    · simp [processBlock, AudioBuffer.forEachSample_eq, AudioBuffer.single]

end TransientSplitter

/-! ## Both -/

variable [Field K] [LinearOrder K]

/-- **When a NaN is contained.** The plugin has received some blocks. A follower gives numbers
after the last NaN exactly if it has an attack time, or it has never stored a NaN nor met one in
the first channel. A splitter can give back a number again exactly if there was no NaN in the
first channel: its detector has no attack time.

**Proof sketch.** The two parts are `Envelope.nanContained_iff` and
`TransientSplitter.recovers_iff`. -/
theorem nan_contained_iff [IsStrictOrderedRing K] {received : List (AudioBuffer (WithNan K))}
    (hreceived : ∀ b ∈ received, 0 < b.numChannels) :
    (∀ e : Envelope K, e.NanContained received ↔ e.attackTime ≠ 0 ∨
      (e.lastValue ≠ nan ∧ ∀ f ∈ frames received, f.head? ≠ some nan)) ∧
    ∀ (exp : K → K) (attackTime : K) (spec : ProcessSpec),
      ((TransientSplitter.construct.setAttackTime exp attackTime).prepare exp spec).Recovers
        received ↔ ∀ f ∈ frames received, f.head? ≠ some nan := by
  refine ⟨fun e => e.nanContained_iff hreceived, fun exp attackTime spec => ?_⟩
  refine TransientSplitter.recovers_iff rfl ?_ ?_ ?_ hreceived
  · exact fun h => by cases h
  · exact fun h => by cases h
  · exact fun h => by cases h

/-- The theorem at work: a follower with an attack time gets over a NaN in the first channel, and a
prepared splitter over one in the second channel. -/
theorem nan_contained_second_channel :
    ((Envelope.construct (1 / 20) (3 / 10)).prepare Real.exp ⟨48000, 512, 1⟩).NanContained
        [⟨2, 1, fun c _ => if c = 0 then nan else 1⟩] ∧
      ((TransientSplitter.construct.setAttackTime Real.exp (1 / 2)).prepare Real.exp
        ⟨48000, 512, 1⟩).Recovers [⟨2, 1, fun c _ => if c = 0 then 1 else nan⟩] := by
  have hreceived : ∀ data : ℕ → ℕ → WithNan ℝ,
      ∀ b ∈ [AudioBuffer.mk 2 1 data], 0 < b.numChannels := by simp
  refine ⟨((nan_contained_iff (hreceived _)).1 _).mpr (Or.inl ?_),
    ((nan_contained_iff (hreceived _)).2 Real.exp (1 / 2) ⟨48000, 512, 1⟩).mpr fun f hf => ?_⟩
  · show (1 / 20 : ℝ) ≠ 0
    norm_num
  · obtain rfl : f = [1, nan] := by
      simpa [frames, AudioBuffer.frame, AudioBuffer.getSample, List.range_succ] using hf
    exact fun hhead => by cases hhead

/-- One sample that is NaN: neither a follower without an attack time nor a prepared splitter
gets over it. -/
theorem one_nan_stays :
    ¬ (((Envelope.construct 0 3).prepare Real.exp ⟨48000, 512, 1⟩).NanContained
        [⟨1, 1, fun _ _ => nan⟩]) ∧
      ¬ ((TransientSplitter.construct.setAttackTime Real.exp (1 / 2)).prepare Real.exp
        ⟨48000, 512, 1⟩).Recovers [⟨1, 1, fun _ _ => nan⟩] := by
  have hframes : frames [(⟨1, 1, fun _ _ => nan⟩ : AudioBuffer (WithNan ℝ))] = [[nan]] := by
    simp [frames, AudioBuffer.frame, AudioBuffer.getSample]
  have hreceived : ∀ b ∈ [(⟨1, 1, fun _ _ => nan⟩ : AudioBuffer (WithNan ℝ))],
      0 < b.numChannels := by simp
  constructor
  · rw [Envelope.nanContained_iff _ hreceived, hframes]
    rintro (hattack | ⟨-, hhead⟩)
    · exact hattack rfl
    · exact hhead [nan] (by simp) rfl
  · rw [TransientSplitter.recovers_iff rfl (fun h => by cases h) (fun h => by cases h)
      (fun h => by cases h) hreceived, hframes]
    exact fun hhead => hhead [nan] (by simp) rfl
