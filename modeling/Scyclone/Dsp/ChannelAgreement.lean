import Mathlib.Tactic.Linarith
import Scyclone.Dsp.Envelope

set_option relaxedAutoImplicit false
set_option autoImplicit false

/-!
# Envelope detection on one and on two channels

On two channels the follower takes the larger of the magnitudes, on one channel it takes the
sample with its sign.

## Main definitions

* `Envelope.HoldsMono`, `Envelope.HoldsStereo` — blocks that hold a stream on one channel, and on
  both of two channels.
* `Envelope.ChannelsAgree` — both give the same values and leave the same last value.

## Main results

* `Envelope.follow_eq_follow_abs` — one step agrees exactly if the sample is not negative.
* `channels_agree_iff` — a stream agrees exactly if none of its samples is.
-/

open WithNan

namespace Envelope

variable {K : Type}

/-- Blocks of one channel, which hold the stream. -/
structure HoldsMono (buffers : List (AudioBuffer (WithNan K))) (xs : List K) : Prop where
  numChannels : ∀ b ∈ buffers, b.numChannels = 1
  samples : buffers.flatMap (·.samples 0) = xs.map number

/-- Blocks of two channels, which hold the stream on both. -/
structure HoldsStereo (buffers : List (AudioBuffer (WithNan K))) (xs : List K) : Prop where
  numChannels : ∀ b ∈ buffers, b.numChannels = 2
  same : ∀ b ∈ buffers, b.samples 1 = b.samples 0
  samples : buffers.flatMap (·.samples 0) = xs.map number

variable [Field K] [LinearOrder K]

/-- Both runs give the same values and leave the same last value. -/
def ChannelsAgree (e : Envelope K) (mono stereo : List (AudioBuffer (WithNan K))) : Prop :=
  (e.processBlocks mono).2 = (e.processBlocks stereo).2 ∧
    (e.processBlocks mono).1.lastValue = (e.processBlocks stereo).1.lastValue

/-! ## What is detected -/

/-- On one channel the samples are detected as they are. -/
lemma HoldsMono.detected {buffers : List (AudioBuffer (WithNan K))} {xs : List K}
    (h : HoldsMono buffers xs) : buffers.flatMap detected = xs.map number := by
  rw [← h.samples]
  refine List.flatMap_congr fun b hb => ?_
  unfold Envelope.detected AudioBuffer.samples
  refine List.map_congr_left fun i _ => ?_
  simp only [detect, h.numChannels b hb, if_true]
  rfl

/-- On two equal channels the magnitudes are detected. -/
lemma HoldsStereo.detected {buffers : List (AudioBuffer (WithNan K))} {xs : List K}
    (h : HoldsStereo buffers xs) : buffers.flatMap detected = xs.map fun x => number |x| := by
  have hblock : ∀ b ∈ buffers, Envelope.detected b = (b.samples 0).map WithNan.abs := by
    intro b hb
    refine List.ext_getElem (by simp) fun i h₁ h₂ => ?_
    have hi : i < b.numSamples := by simpa using h₁
    have hsame : b.data 1 i = b.data 0 i := by
      have hget := List.getElem_of_eq (h.same b hb) (i := i) (by simpa using hi)
      rwa [AudioBuffer.getElem_samples, AudioBuffer.getElem_samples] at hget
    have htwo : b.numChannels ≠ 1 := by
      rw [h.numChannels b hb]
      decide
    simp only [Envelope.detected, List.getElem_map, List.getElem_range, detect, if_neg htwo,
      AudioBuffer.getSample, hsame, AudioBuffer.getElem_samples, stdMax, ite_self]
  rw [List.flatMap_congr hblock, ← List.map_flatMap, h.samples, List.map_map]
  rfl

/-! ## One step -/

variable [IsStrictOrderedRing K]

/-- A rising step ends above the stored value. -/
lemma Configured.lt_follow {e : Envelope K} (he : e.Configured) {l d : K} (h : l < d) :
    ∃ v, e.follow (number l) (number d) = number v ∧ l < v := by
  refine ⟨_, follow_number e l d, ?_⟩
  rw [if_pos h]
  split_ifs
  · exact h
  · have hpos : 0 < (1 - e.attackCoefficient) * (d - l) :=
      mul_pos (sub_pos.mpr he.attack_lt_one) (sub_pos.mpr h)
    linarith

/-- A falling step ends at most at the stored value. -/
lemma Configured.follow_le {e : Envelope K} (he : e.Configured) {l d : K} (h : d ≤ l) :
    ∃ v, e.follow (number l) (number d) = number v ∧ v ≤ l := by
  refine ⟨_, Envelope.follow_le h, ?_⟩
  have hnonneg : 0 ≤ (1 - e.releaseCoefficient) * (l - d) :=
    mul_nonneg (sub_nonneg.mpr he.release_lt_one.le) (sub_nonneg.mpr h)
  linarith

/-- A rising step gives more for more. -/
lemma Configured.follow_injective {e : Envelope K} (he : e.Configured) {l d d' : K} (hl : l < d)
    (hd : d < d') : e.follow (number l) (number d) ≠ e.follow (number l) (number d') := by
  rw [follow_number, follow_number, if_pos hl, if_pos (hl.trans hd)]
  intro heq
  have hv := WithNan.number.inj heq
  split_ifs at hv
  · exact hd.ne hv
  · have hpos : 0 < (1 - e.attackCoefficient) * (d' - d) :=
      mul_pos (sub_pos.mpr he.attack_lt_one) (sub_pos.mpr hd)
    linarith

/-- **One step from a number agrees exactly if the sample is not negative.**

**Proof sketch.** Take a negative sample. If it is above the stored value, both rise, towards
different targets. If its magnitude is not above the stored value, both fall, towards different
targets. Otherwise one falls and the other one rises. -/
lemma Configured.follow_eq_follow_abs {e : Envelope K} (he : e.Configured) (l x : K) :
    e.follow (number l) (number x) = e.follow (number l) (number |x|) ↔ 0 ≤ x := by
  refine ⟨fun heq => ?_, fun hx => by rw [abs_of_nonneg hx]⟩
  by_contra hx
  have hneg : x < 0 := not_le.mp hx
  have habs : x < |x| := hneg.trans (abs_pos.mpr hneg.ne)
  by_cases hrise : l < x
  · exact he.follow_injective hrise habs heq
  · have hfall : x ≤ l := not_lt.mp hrise
    by_cases habove : l < |x|
    · obtain ⟨v, hv, hle⟩ := he.follow_le hfall
      obtain ⟨w, hw, hlt⟩ := he.lt_follow habove
      rw [hv, hw] at heq
      have hvw := WithNan.number.inj heq
      linarith
    · rw [Envelope.follow_le hfall, Envelope.follow_le (not_lt.mp habove)] at heq
      have hvw := WithNan.number.inj heq
      have hpos : 0 < (1 - e.releaseCoefficient) * (|x| - x) :=
        mul_pos (sub_pos.mpr he.release_lt_one) (sub_pos.mpr habs)
      linarith

end Envelope

/-! ## Streams -/

open Envelope

variable {K : Type} [Field K] [LinearOrder K]

/-- **When one channel and two channels agree.** The stream is cut into blocks in any way, on one
channel and on both of two channels. The values and the last value are the same exactly if no
sample of the stream is negative, or there is no attack time and the stored value is NaN, and
then all values are NaN.

**Proof sketch.** By the exact rule for two recurrences: the two agree in a step from a number
exactly if the sample is not negative, and all stored values are numbers, or count as one where
there is an attack time. -/
theorem channels_agree_iff [IsStrictOrderedRing K] {e : Envelope K} (he : e.Configured)
    {xs : List K} {mono stereo : List (AudioBuffer (WithNan K))} (hmono : HoldsMono mono xs)
    (hstereo : HoldsStereo stereo xs) :
    e.ChannelsAgree mono stereo ↔
      (e.attackTime = 0 ∧ e.lastValue = nan) ∨ ∀ x ∈ xs, 0 ≤ x := by
  obtain ⟨hvalues, hlast⟩ := e.processBlocks_eq mono
  obtain ⟨hvalues', hlast'⟩ := e.processBlocks_eq stereo
  rw [hmono.detected] at hvalues hlast
  rw [hstereo.detected] at hvalues' hlast'
  rw [Scan.states_map] at hvalues hvalues'
  rw [List.foldl_map] at hlast hlast'
  have hagree : e.ChannelsAgree mono stereo ↔
      Scan.states (fun l x => e.follow l (number x)) e.lastValue xs =
        Scan.states (fun l x => e.follow l (number |x|)) e.lastValue xs := by
    unfold ChannelsAgree
    rw [hvalues, hvalues', hlast, hlast']
    exact ⟨fun h => h.1, fun h => ⟨h, Scan.foldl_eq_of_states_eq h⟩⟩
  rw [hagree]
  by_cases hstuck : e.attackTime = 0 ∧ e.lastValue = nan
  · refine ⟨fun _ => Or.inl hstuck, fun _ => ?_⟩
    refine (Scan.states_eq_iff (I := fun l => l = nan) (D := fun _ => True) (C := fun _ => True)
      (fun l x hl _ => ?_) (fun l x hl _ => ?_) hstuck.2 fun _ _ => trivial).mpr fun _ _ => trivial
    · rw [hl]
      exact e.follow_nan_of_instant hstuck.1 _
    · rw [hl, e.follow_nan_of_instant hstuck.1, e.follow_nan_of_instant hstuck.1]
      exact iff_of_true rfl trivial
  · rw [or_iff_right hstuck]
    refine Scan.states_eq_iff (I := fun l => ¬ (e.attackTime = 0 ∧ l = nan)) (D := fun _ => True)
      (fun l x hl _ => ?_) (fun l x hl _ => ?_) hstuck fun _ _ => trivial
    · rintro ⟨ht, hnan⟩
      cases l with
      | nan => exact hl ⟨ht, rfl⟩
      | number l =>
        rw [e.follow_number] at hnan
        cases hnan
    · cases l with
      | nan =>
        have ht : e.attackTime ≠ 0 := fun ht => hl ⟨ht, rfl⟩
        rw [e.follow_nan ht, e.follow_nan ht]
        exact he.follow_eq_follow_abs 0 x
      | number l => exact he.follow_eq_follow_abs l x

/-- The follower of the compressor, prepared at 48 kHz. -/
noncomputable def Envelope.ofCompressor : Envelope ℝ :=
  (Envelope.construct (1 / 20) (3 / 10)).prepare Real.exp ⟨48000, 512, 1⟩

lemma Envelope.ofCompressor_configured : Envelope.ofCompressor.Configured :=
  prepare_configured expLaws_real (by norm_num [construct]) (by norm_num [construct])
    (by norm_num)

/-- A block of two channels, which both hold the listed samples. -/
def AudioBuffer.onBoth (xs : List K) : AudioBuffer (WithNan K) :=
  ⟨2, xs.length, fun _ i => (xs.map number).getD i 0⟩

omit [LinearOrder K] in
/-- A stream on one channel, cut into blocks. -/
lemma holdsMono_ofList (xss : List (List K)) :
    HoldsMono (xss.map fun xs => .ofList (xs.map number)) xss.flatten := by
  refine ⟨fun b hb => ?_, ?_⟩
  · obtain ⟨xs, -, rfl⟩ := List.mem_map.mp hb
    rfl
  · simp [List.flatMap_def, List.map_flatten, Function.comp_def]

omit [LinearOrder K] in
/-- A stream on two channels, cut into blocks. -/
lemma holdsStereo_onBoth (xss : List (List K)) :
    HoldsStereo (xss.map AudioBuffer.onBoth) xss.flatten := by
  have hsamples : ∀ (xs : List K) (c : ℕ), (AudioBuffer.onBoth xs).samples c = xs.map number := by
    intro xs c
    refine List.ext_getElem (by simp [AudioBuffer.onBoth]) fun i h₁ h₂ => ?_
    rw [AudioBuffer.getElem_samples]
    simp [AudioBuffer.onBoth, List.getElem?_eq_getElem (by simpa using h₂ : i < xs.length)]
  refine ⟨fun b hb => ?_, fun b hb => ?_, ?_⟩
  · obtain ⟨xs, -, rfl⟩ := List.mem_map.mp hb
    rfl
  · obtain ⟨xs, -, rfl⟩ := List.mem_map.mp hb
    rw [hsamples, hsamples]
  · simp [List.flatMap_def, List.map_flatten, Function.comp_def, hsamples]

/-- The theorem at work: a stream that rises, falls and is silent for a sample, cut after the second
sample on one channel and after the first and the fourth on two. -/
theorem channels_agree_positive :
    Envelope.ofCompressor.ChannelsAgree
      [.ofList [number 1, number 2], .ofList [number 0, number 3, number (1 / 2)]]
      [.onBoth [1], .onBoth [2, 0, 3], .onBoth [1 / 2]] := by
  have hmono : HoldsMono [.ofList [number 1, number 2],
      .ofList [number 0, number 3, number (1 / 2)]] [(1 : ℝ), 2, 0, 3, 1 / 2] :=
    holdsMono_ofList [[1, 2], [0, 3, 1 / 2]]
  have hstereo : HoldsStereo [.onBoth [1], .onBoth [2, 0, 3], .onBoth [1 / 2]]
      [(1 : ℝ), 2, 0, 3, 1 / 2] := holdsStereo_onBoth [[1], [2, 0, 3], [1 / 2]]
  exact (channels_agree_iff Envelope.ofCompressor_configured hmono hstereo).mpr
    (Or.inr (by simp))

omit [Field K] [LinearOrder K] in
/-- One sample on one channel. -/
lemma holdsMono_single (x : K) : HoldsMono [⟨1, 1, fun _ _ => number x⟩] [x] :=
  ⟨by simp, by simp [AudioBuffer.samples]⟩

omit [Field K] [LinearOrder K] in
/-- One sample on both of two channels. -/
lemma holdsStereo_single (x : K) : HoldsStereo [⟨2, 1, fun _ _ => number x⟩] [x] :=
  ⟨by simp, by simp [AudioBuffer.samples], by simp [AudioBuffer.samples]⟩

/-- The sample -1 on one channel and on both of two: on one channel the follower falls below
zero, on two it rises. -/
theorem negative_sample_disagrees :
    ¬ Envelope.ofCompressor.ChannelsAgree [⟨1, 1, fun _ _ => number (-1)⟩]
      [⟨2, 1, fun _ _ => number (-1)⟩] := by
  intro h
  have hmono := (Envelope.ofCompressor.processBlocks_eq [⟨1, 1, fun _ _ => number (-1)⟩]).2
  have hstereo := (Envelope.ofCompressor.processBlocks_eq [⟨2, 1, fun _ _ => number (-1)⟩]).2
  rw [(holdsMono_single (-1)).detected] at hmono
  rw [(holdsStereo_single (-1)).detected] at hstereo
  have hlast := h.2
  rw [hmono, hstereo] at hlast
  have hneg := (Envelope.ofCompressor_configured.follow_eq_follow_abs 0 (-1)).mp hlast
  norm_num at hneg
