import Mathlib.Algebra.Group.Action.Defs
import Mathlib.Algebra.Order.BigOperators.Group.List
import Scyclone.Plugin.BufferBounds

set_option relaxedAutoImplicit false
set_option autoImplicit false

/-!
# What the networks are fed

The host may cut its stream into blocks of any lengths up to the one it announced. The chains of
the two networks get copies of `monoBuffer`, and in stereo the mixdown does not set the size of
that buffer.

## Main definitions

* `fed` — the samples that a network's chain gets in a run.
* `mixdown` — the average of the two channels of the host's stream, times a gain.
* `PartitionIndependent` — two ways of cutting a stream feed the networks its mixdown.

## Main results

* `length_fed` — every block feeds as many samples as the plugin was prepared for.
* `partition_independent_iff` — two cuts feed the mixdown exactly if all their blocks are as long
  as they may be.
-/

variable {F S E : Type} [FloatArithmetic F]

/-- The average of a left and a right sample. -/
def average (l r : F) : F := (l + r) * half

/-- One channel of the host's stream. -/
def hostStream (c : ℕ) (es : List (HostEvent F S E)) : List F :=
  (HostEvent.blocks es).flatMap fun buffer => buffer.samples c

/-- The average of the two channels of the host's stream, times the gain. -/
def mixdown (gain : F) (es : List (HostEvent F S E)) : List F :=
  (List.zipWith average (hostStream 0 es) (hostStream 1 es)).map (· * gain)

/-- The samples that the chain of network `k` gets by one event. -/
def fedBy (fx : Effects F E) (k : NetworkId) (p : AudioPluginAudioProcessor F S E) :
    HostEvent F S E → List F
  | .processBlock _ buffer => ((p.feedNetworks fx buffer).value.networkBuffer k).samples 0
  | .setGains _ _ => []
  | .elsewhere _ _ _ => []

/-- The samples that the chain of network `k` gets in a run. -/
def fed (fx : Effects F E) (k : NetworkId) (p : AudioPluginAudioProcessor F S E) :
    List (HostEvent F S E) → List F
  | [] => []
  | e :: es => fedBy fx k p e ++ fed fx k (p.handle fx e).value es

/-- A stereo stream cut into blocks of at most `M` samples, with the gain left alone. -/
structure StereoCut (M : ℕ) (es : List (HostEvent F S E)) : Prop where
  stereo : ∀ buffer ∈ HostEvent.blocks es, buffer.numChannels = 2
  le : ∀ buffer ∈ HostEvent.blocks es, buffer.numSamples ≤ M
  noGains : ∀ inputGain outputGain, .setGains inputGain outputGain ∉ es

/-- The two cuts feed both networks the same samples, namely the mixdown. -/
structure PartitionIndependent (fx : Effects F E) (gain : F)
    (p : AudioPluginAudioProcessor F S E) (es es' : List (HostEvent F S E)) : Prop where
  same : ∀ k, fed fx k p es = fed fx k p es'
  exact : ∀ k, fed fx k p es = mixdown gain es

/-- Between the callbacks of a stereo stream with constant gain. -/
structure Feeding (M : ℕ) (gain : F) (p : AudioPluginAudioProcessor F S E) : Prop where
  prepared : Prepared ⟨.stereo, .stereo⟩ M p
  inputGain : p.inputGain = ⟨gain, gain⟩

/-! ## One block -/

/-- The samples of a stereo block that fills `monoBuffer`, mixed down. -/
lemma samples_stereoToMono {target source : AudioBuffer F} (hsource : source.numChannels ≠ 1)
    (hlength : source.numSamples = target.numSamples) :
    (stereoToMono target source).value.samples 0 =
      List.zipWith average (source.samples 0) (source.samples 1) := by
  refine List.ext_getElem ?_ fun i h₁ h₂ => ?_
  · rw [AudioBuffer.length_samples, AudioPluginAudioProcessor.numSamples_stereoToMono,
      if_neg hsource, List.length_zipWith, AudioBuffer.length_samples,
      AudioBuffer.length_samples, hlength, min_self]
  · have hi : i < source.numSamples := by
      rw [List.length_zipWith, AudioBuffer.length_samples, AudioBuffer.length_samples,
        min_self] at h₂
      exact h₂
    rw [AudioBuffer.getElem_samples, List.getElem_zipWith, AudioBuffer.getElem_samples,
      AudioBuffer.getElem_samples, stereoToMono, if_neg hsource]
    simp [FloatVectorOperations.copy, FloatVectorOperations.add,
      FloatVectorOperations.multiply, AudioBuffer.overwrite, hi, average]

/-- Either network gets a copy of `monoBuffer` after the gain. -/
lemma samples_networkBuffer (fx : Effects F E) {p : AudioPluginAudioProcessor F S E}
    (hmono : p.monoBuffer.numChannels = 1) (buffer : AudioBuffer F) (k : NetworkId) :
    ((p.feedNetworks fx buffer).value.networkBuffer k).samples 0 =
      (fx.gainRamp p.inputGain (stereoToMono p.monoBuffer buffer).value).samples 0 := by
  have hchannel :
      0 < (fx.gainRamp p.inputGain (stereoToMono p.monoBuffer buffer).value).numChannels := by
    show 0 < (stereoToMono p.monoBuffer buffer).value.numChannels
    rw [AudioPluginAudioProcessor.numChannels_stereoToMono hmono]
    exact Nat.one_pos
  cases k with
  | network1 => exact AudioBuffer.samples_makeCopyOf _ hchannel
  | network2 => exact AudioBuffer.samples_makeCopyOf _ hchannel

/-- A constant gain multiplies every sample, if JUCE's ramp from a gain to itself does. -/
lemma samples_gainRamp {fx : Effects F E} {gain : F}
    (hramp : ∀ n xs i, i < n → fx.applyGainRamp gain gain n xs i = xs i * gain)
    (buffer : AudioBuffer F) :
    (fx.gainRamp ⟨gain, gain⟩ buffer).samples 0 = (buffer.samples 0).map (· * gain) := by
  simp only [AudioBuffer.samples, Effects.gainRamp, AudioBuffer.withData, List.map_map]
  refine List.map_congr_left fun i hi => ?_
  exact hramp _ _ i (List.mem_range.mp hi)

/-- **A block feeds as many samples as the plugin was prepared for.** -/
lemma length_fedBy (fx : Effects F E) (k : NetworkId) {M : ℕ}
    {p : AudioPluginAudioProcessor F S E} (h : Prepared ⟨.stereo, .stereo⟩ M p)
    {e : HostEvent F S E} (he : ∀ buffer ∈ HostEvent.blocks [e], buffer.numChannels = 2) :
    (fedBy fx k p e).length = M * (HostEvent.blocks [e]).length := by
  cases e with
  | setGains inputGain outputGain => rfl
  | elsewhere onnxProcessor1 onnxProcessor2 effects => rfl
  | processBlock onOff buffer =>
    have htwo := he buffer (by simp [HostEvent.blocks])
    rw [fedBy, AudioBuffer.length_samples, AudioPluginAudioProcessor.numSamples_feedNetworks,
      if_neg (by omega), h.numSamples rfl]
    simp [HostEvent.blocks]

/-- A block that is as long as it may be feeds its mixdown. -/
lemma fedBy_eq_mixdown {fx : Effects F E} {gain : F}
    (hramp : ∀ n xs i, i < n → fx.applyGainRamp gain gain n xs i = xs i * gain)
    (k : NetworkId) {M : ℕ} {p : AudioPluginAudioProcessor F S E}
    (h : Feeding M gain p) {e : HostEvent F S E}
    (he : ∀ buffer ∈ HostEvent.blocks [e], buffer.numChannels = 2 ∧ buffer.numSamples = M) :
    fedBy fx k p e = mixdown gain [e] := by
  cases e with
  | setGains inputGain outputGain => rfl
  | elsewhere onnxProcessor1 onnxProcessor2 effects => rfl
  | processBlock onOff buffer =>
    obtain ⟨htwo, hfull⟩ := he buffer (by simp [HostEvent.blocks])
    have hlength : buffer.numSamples = p.monoBuffer.numSamples := by
      rw [hfull, h.prepared.numSamples rfl]
    rw [fedBy, samples_networkBuffer fx h.prepared.numChannels, h.inputGain,
      samples_gainRamp hramp, samples_stereoToMono (by omega) hlength]
    simp [mixdown, hostStream, HostEvent.blocks]

/-! ## Runs -/

/-- Every event of a stereo stream with constant gain leaves the plugin as it has to be. -/
lemma Feeding.handle {fx : Effects F E} {M : ℕ} {gain : F} {p : AudioPluginAudioProcessor F S E}
    (h : Feeding M gain p) {e : HostEvent F S E}
    (he : ∀ buffer ∈ HostEvent.blocks [e], buffer.numChannels = 2)
    (hgains : ∀ inputGain outputGain, e ≠ .setGains inputGain outputGain) :
    Feeding M gain (p.handle fx e).value := by
  refine ⟨h.prepared.handle rfl he, ?_⟩
  cases e with
  | setGains inputGain outputGain => exact absurd rfl (hgains inputGain outputGain)
  | elsewhere onnxProcessor1 onnxProcessor2 effects => exact h.inputGain
  | processBlock onOff buffer =>
    show (⟨p.inputGain.currentGain, p.inputGain.currentGain⟩ : GainLevel F) = ⟨gain, gain⟩
    rw [h.inputGain]

omit [FloatArithmetic F] in
/-- The parts of a stereo stream. -/
lemma StereoCut.cons {M : ℕ} {e : HostEvent F S E} {es : List (HostEvent F S E)}
    (h : StereoCut M (e :: es)) : StereoCut M [e] ∧ StereoCut M es := by
  have hstereo := h.stereo
  have hle := h.le
  rw [HostEvent.blocks_cons, List.forall_mem_append] at hstereo hle
  refine ⟨⟨hstereo.1, hle.1, fun i o hmem => ?_⟩, ⟨hstereo.2, hle.2, fun i o hmem => ?_⟩⟩
  · exact h.noGains i o (List.mem_cons.mpr (Or.inl (List.mem_singleton.mp hmem)))
  · exact h.noGains i o (List.mem_cons_of_mem _ hmem)

/-- The mixdown of a run is the mixdown of its first event and then that of the rest. -/
lemma mixdown_cons (gain : F) (e : HostEvent F S E) (es : List (HostEvent F S E)) :
    mixdown gain (e :: es) = mixdown gain [e] ++ mixdown gain es := by
  have hlength : ∀ blocks : List (AudioBuffer F),
      (blocks.flatMap fun buffer => buffer.samples 0).length =
        (blocks.flatMap fun buffer => buffer.samples 1).length := by
    intro blocks
    simp [List.length_flatMap]
  simp only [mixdown, hostStream]
  rw [HostEvent.blocks_cons, List.flatMap_append, List.flatMap_append,
    List.zipWith_append (hlength _), List.map_append]

/-- The mixdown has as many samples as the host sent. -/
lemma length_mixdown (gain : F) (es : List (HostEvent F S E)) :
    (mixdown gain es).length = ((HostEvent.blocks es).map AudioBuffer.numSamples).sum := by
  simp [mixdown, hostStream, List.length_flatMap]

/-- **How many samples a run feeds**: every block counts as one of `M` samples. -/
lemma length_fed (fx : Effects F E) (k : NetworkId) {M : ℕ} {p : AudioPluginAudioProcessor F S E}
    (h : Prepared ⟨.stereo, .stereo⟩ M p) {es : List (HostEvent F S E)}
    (hes : ∀ buffer ∈ HostEvent.blocks es, buffer.numChannels = 2) :
    (fed fx k p es).length = M * (HostEvent.blocks es).length := by
  induction es generalizing p with
  | nil => rfl
  | cons e es ih =>
    rw [HostEvent.blocks_cons, List.forall_mem_append] at hes
    rw [fed, List.length_append, length_fedBy fx k h hes.1, ih (h.handle rfl hes.1) hes.2,
      HostEvent.blocks_cons e es, List.length_append, mul_add]

/-- A run whose blocks are as long as they may be feeds its mixdown. -/
lemma fed_eq_mixdown {fx : Effects F E} {gain : F}
    (hramp : ∀ n xs i, i < n → fx.applyGainRamp gain gain n xs i = xs i * gain)
    (k : NetworkId) {M : ℕ} {p : AudioPluginAudioProcessor F S E}
    (h : Feeding M gain p) {es : List (HostEvent F S E)} (hes : StereoCut M es)
    (hfull : ∀ buffer ∈ HostEvent.blocks es, buffer.numSamples = M) :
    fed fx k p es = mixdown gain es := by
  induction es generalizing p with
  | nil => rfl
  | cons e es ih =>
    obtain ⟨hfirst, hrest⟩ := hes.cons
    rw [HostEvent.blocks_cons, List.forall_mem_append] at hfull
    have hnext : Feeding M gain (p.handle fx e).value :=
      h.handle hfirst.stereo fun i o heq => hfirst.noGains i o (by simp [heq])
    rw [fed, mixdown_cons, ih hnext hrest hfull.2, fedBy_eq_mixdown hramp k h fun buffer hb =>
      ⟨hfirst.stereo buffer hb, hfull.1 buffer hb⟩]

omit [FloatArithmetic F] in
/-- Blocks of at most `M` samples that have `M` samples on average have `M` samples each. -/
lemma numSamples_eq_of_sum {M : ℕ} {blocks : List (AudioBuffer F)}
    (hle : ∀ buffer ∈ blocks, buffer.numSamples ≤ M)
    (hsum : (blocks.map AudioBuffer.numSamples).sum = M * blocks.length) :
    ∀ buffer ∈ blocks, buffer.numSamples = M := by
  induction blocks with
  | nil => simp
  | cons b blocks ih =>
    obtain ⟨hb, hrest⟩ := List.forall_mem_cons.mp hle
    have hbound : (blocks.map AudioBuffer.numSamples).sum ≤ blocks.length * M := by
      have hcard := List.sum_le_card_nsmul (blocks.map AudioBuffer.numSamples) M fun n hn => by
        obtain ⟨buffer, hbuffer, rfl⟩ := List.mem_map.mp hn
        exact hrest buffer hbuffer
      rwa [List.length_map, smul_eq_mul] at hcard
    rw [List.map_cons, List.sum_cons, List.length_cons, Nat.mul_succ] at hsum
    rw [Nat.mul_comm] at hbound
    exact List.forall_mem_cons.mpr ⟨by omega, ih hrest (by omega)⟩

/-- A run that feeds its mixdown has only blocks that are as long as they may be. -/
lemma full_of_fed_eq_mixdown {fx : Effects F E} {k : NetworkId} {M : ℕ} {gain : F}
    {p : AudioPluginAudioProcessor F S E} (h : Prepared ⟨.stereo, .stereo⟩ M p)
    {es : List (HostEvent F S E)} (hes : StereoCut M es)
    (hfed : fed fx k p es = mixdown gain es) :
    ∀ buffer ∈ HostEvent.blocks es, buffer.numSamples = M := by
  have hlength := congrArg List.length hfed
  rw [length_fed fx k h hes.stereo, length_mixdown] at hlength
  exact numSamples_eq_of_sum hes.le hlength.symm

/-- **When the way a stream is cut does not matter.** The plugin is prepared for blocks of at
most `M` samples, and a stereo stream is cut into such blocks in two ways, with the input gain
left alone. Both cuts feed both networks the same samples, the average of left and right times
the gain, if and only if every block of either cut has `M` samples.

**Proof sketch.** `monoBuffer` keeps the `M` samples it was prepared with, so every block feeds
`M` samples, of which those beyond the end of the block are left over from an earlier one. As
blocks have at most `M` samples, the count is right only if each has `M`; and then nothing is
left over. -/
theorem partition_independent_iff {fx : Effects F E} {gain : F}
    (hramp : ∀ n xs i, i < n → fx.applyGainRamp gain gain n xs i = xs i * gain)
    {p : AudioPluginAudioProcessor F S E} (hgain : p.inputGain = ⟨gain, gain⟩)
    (sampleRate : ℚ) {M : ℕ} {es es' : List (HostEvent F S E)} (hes : StereoCut M es)
    (hes' : StereoCut M es') (hstream : ∀ c < 2, hostStream c es = hostStream c es') :
    PartitionIndependent fx gain (p.prepareToPlay fx 2 sampleRate M) es es' ↔
      (∀ buffer ∈ HostEvent.blocks es, buffer.numSamples = M) ∧
        ∀ buffer ∈ HostEvent.blocks es', buffer.numSamples = M := by
  have hfeeding : Feeding M gain (p.prepareToPlay fx 2 sampleRate M) :=
    ⟨prepared_prepareToPlay _ fx p 2 sampleRate M, hgain⟩
  have hmixdown : mixdown gain es = mixdown gain es' := by
    rw [mixdown, mixdown, hstream 0 (by omega), hstream 1 (by omega)]
  constructor
  · intro h
    have hfirst := h.exact .network1
    have hsecond : fed fx .network1 (p.prepareToPlay fx 2 sampleRate M) es' =
        mixdown gain es' := by
      rw [← h.same, hfirst, hmixdown]
    exact ⟨full_of_fed_eq_mixdown hfeeding.prepared hes hfirst,
      full_of_fed_eq_mixdown hfeeding.prepared hes' hsecond⟩
  · rintro ⟨hfull, hfull'⟩
    have hfirst := fun k => fed_eq_mixdown hramp k hfeeding hes hfull
    have hsecond := fun k => fed_eq_mixdown hramp k hfeeding hes' hfull'
    exact ⟨fun k => by rw [hfirst, hsecond, hmixdown], hfirst⟩

/-- A block of a constant stereo stream. -/
def constantBlock (n : ℕ) : HostEvent ExactFloat Unit Unit :=
  .processBlock (fun _ => true) ⟨2, n, fun _ _ => .number 1⟩

/-- Blocks of a constant stream of at most `M` samples are a cut of it. -/
lemma stereoCut_constantBlock (M : ℕ) (ns : List ℕ) (h : ∀ n ∈ ns, n ≤ M) :
    StereoCut M (ns.map constantBlock) := by
  have hblocks : ∀ buffer ∈ HostEvent.blocks (ns.map constantBlock),
      buffer.numChannels = 2 ∧ buffer.numSamples ≤ M := by
    intro buffer hbuffer
    obtain ⟨e, he, hsome⟩ := List.mem_filterMap.mp hbuffer
    obtain ⟨n, hn, rfl⟩ := List.mem_map.mp he
    cases hsome
    exact ⟨rfl, h n hn⟩
  refine ⟨fun b hb => (hblocks b hb).1, fun b hb => (hblocks b hb).2, fun i o hmem => ?_⟩
  obtain ⟨n, -, heq⟩ := List.mem_map.mp hmem
  cases heq

/-- The theorem at work: one full block, cut in the one way there is. -/
theorem partition_independent_full_block :
    PartitionIndependent (.bypass ExactFloat) (.number 1)
      ((AudioPluginAudioProcessor.passThrough ExactFloat).prepareToPlay (.bypass ExactFloat)
        2 48000 2) ([2].map constantBlock) ([2].map constantBlock) := by
  have hcut := stereoCut_constantBlock 2 [2] (by simp)
  have hfull : ∀ buffer ∈ HostEvent.blocks ([2].map constantBlock), buffer.numSamples = 2 := by
    intro buffer hbuffer
    obtain rfl := List.mem_singleton.mp hbuffer
    rfl
  exact (partition_independent_iff (fun _ _ _ _ => rfl) rfl 48000 hcut hcut
    fun _ _ => rfl).mpr ⟨hfull, hfull⟩

/-- Two samples sent as one block or as two blocks of one sample: the networks are fed two samples
or four. -/
theorem short_blocks_feed_more :
    (∀ c < 2, hostStream c ([2].map constantBlock) = hostStream c ([1, 1].map constantBlock)) ∧
    (∀ k, (fed (.bypass ExactFloat) k
      ((AudioPluginAudioProcessor.passThrough ExactFloat).prepareToPlay (.bypass ExactFloat)
        2 48000 2) ([2].map constantBlock)).length = 2) ∧
    (∀ k, (fed (.bypass ExactFloat) k
      ((AudioPluginAudioProcessor.passThrough ExactFloat).prepareToPlay (.bypass ExactFloat)
        2 48000 2) ([1, 1].map constantBlock)).length = 4) ∧
    ¬ PartitionIndependent (.bypass ExactFloat) (.number 1)
      ((AudioPluginAudioProcessor.passThrough ExactFloat).prepareToPlay (.bypass ExactFloat)
        2 48000 2) ([2].map constantBlock) ([1, 1].map constantBlock) := by
  have hprepared : Prepared ⟨.stereo, .stereo⟩ 2
      ((AudioPluginAudioProcessor.passThrough ExactFloat).prepareToPlay (.bypass ExactFloat)
        2 48000 2) := ⟨rfl, fun _ => rfl⟩
  have hone := fun k => length_fed (.bypass ExactFloat) k hprepared
    (stereoCut_constantBlock 2 [2] (by simp)).stereo
  have htwo := fun k => length_fed (.bypass ExactFloat) k hprepared
    (stereoCut_constantBlock 2 [1, 1] (by simp)).stereo
  refine ⟨fun c _ => rfl, fun k => hone k, fun k => htwo k, fun h => ?_⟩
  have hlength := congrArg List.length (h.same .network1)
  rw [hone, htwo] at hlength
  cases hlength
