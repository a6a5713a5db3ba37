import Scyclone.Plugin.ProcessBlock

set_option relaxedAutoImplicit false
set_option autoImplicit false

/-!
# The bounds of the conversions

`stereoToMono` takes the number of samples from the host's block, `monoToStereo` takes it from
`monoBuffer`, and the latter writes to two channels whatever the layout.

## Main definitions

* `Prepared` — the plugin was prepared for blocks of at most `M` samples.

## Main results

* `processBlock_inBounds_iff` — one callback.
* `accesses_inBounds_iff` — every sample that a run touches lies within its buffer exactly if
  the layout is stereo and every block is as long as it may be.
-/

/-! ## The conversions -/

section Conversions

variable {F : Type}

/-- Mixing down stays in bounds if the target is as long as the block. -/
lemma stereoToMono_inBounds [FloatArithmetic F] {target source : AudioBuffer F}
    (htarget : target.numChannels = 1) (hsource : 1 ≤ source.numChannels)
    (hlength : source.numSamples ≤ target.numSamples) :
    (stereoToMono target source).InBounds := by
  unfold stereoToMono
  split_ifs with hmono
  · exact List.forall_mem_append.mpr
      ⟨AudioBuffer.touchAll_inBounds _, AudioBuffer.touchAll_inBounds _⟩
  · have hwrite : ∀ a ∈ target.touch 0 source.numSamples, a.InBounds :=
      AudioBuffer.forall_touch_inBounds.mpr (Or.inr ⟨by omega, hlength⟩)
    have hread : ∀ c < 2, ∀ a ∈ source.touch c source.numSamples, a.InBounds := fun c hc =>
      AudioBuffer.forall_touch_inBounds.mpr (Or.inr ⟨by omega, le_rfl⟩)
    simp only [Traced.InBounds, FloatVectorOperations.copy, FloatVectorOperations.add,
      FloatVectorOperations.multiply, Traced.log_bind, AudioBuffer.touch_overwrite,
      List.forall_mem_append]
    exact ⟨⟨hread 0 (by omega), hwrite⟩, ⟨hread 1 (by omega), hwrite⟩, hwrite⟩

/-- Writing back stays in bounds exactly if the target has a second channel and is as long as
the source. -/
lemma monoToStereo_inBounds_iff {target source : AudioBuffer F}
    (hsource : source.numChannels = 1) (hpos : 1 ≤ source.numSamples) :
    (monoToStereo target source).InBounds ↔
      2 ≤ target.numChannels ∧ source.numSamples ≤ target.numSamples := by
  have hread : ∀ a ∈ source.touch 0 source.numSamples, a.InBounds :=
    AudioBuffer.forall_touch_inBounds.mpr (Or.inr ⟨by omega, le_rfl⟩)
  rw [monoToStereo, if_neg (by omega)]
  simp only [Traced.InBounds, FloatVectorOperations.copy, Traced.log_bind,
    AudioBuffer.touch_overwrite, List.forall_mem_append, AudioBuffer.forall_touch_inBounds]
  omega

end Conversions

/-! ## Callbacks and runs -/

variable {F S E : Type} [FloatArithmetic F]

/-- The plugin was prepared for blocks of at most `M` samples in this layout: `monoBuffer` has one
channel, and in stereo it has `M` samples. -/
structure Prepared (layouts : BusesLayout) (M : ℕ) (p : AudioPluginAudioProcessor F S E) :
    Prop where
  numChannels : p.monoBuffer.numChannels = 1
  numSamples : layouts.mainOutput = .stereo → p.monoBuffer.numSamples = M

/-- A block that the host may send: its channels are those of the layout, and it has at least
one sample and at most `M`. -/
structure AllowedBlock (layouts : BusesLayout) (M : ℕ) (buffer : AudioBuffer F) : Prop where
  numChannels : buffer.numChannels = layouts.numChannels
  pos : 1 ≤ buffer.numSamples
  le : buffer.numSamples ≤ M

/-- Every step keeps the plugin prepared. -/
lemma Prepared.handle {layouts : BusesLayout} (hlayout : isBusesLayoutSupported layouts = true)
    {M : ℕ} {fx : Effects F E} {p : AudioPluginAudioProcessor F S E} (h : Prepared layouts M p)
    {e : HostEvent F S E}
    (he : ∀ buffer ∈ HostEvent.blocks [e], buffer.numChannels = layouts.numChannels) :
    Prepared layouts M (p.handle fx e).value := by
  cases e with
  | setGains inputGain outputGain => exact ⟨h.numChannels, h.numSamples⟩
  | elsewhere onnxProcessor1 onnxProcessor2 effects => exact ⟨h.numChannels, h.numSamples⟩
  | processBlock onOff buffer =>
    have hbuffer := he buffer (by simp [HostEvent.blocks])
    obtain ⟨hsamples, hchannels⟩ := p.size_handle_processBlock fx h.numChannels onOff buffer
    refine ⟨hchannels, fun hstereo => ?_⟩
    rcases eq_of_isBusesLayoutSupported hlayout with rfl | rfl
    · cases hstereo
    · rw [hsamples, if_neg (by rw [hbuffer]; decide), h.numSamples rfl]

/-- **One callback** stays in bounds exactly if the layout is stereo and the block has `M`
samples.

**Proof sketch.** In both layouts the mixdown stays in bounds. A mono block has no second channel to
be written; a stereo block is written as many samples as the mono buffer has, which are `M`. -/
lemma processBlock_inBounds_iff {layouts : BusesLayout}
    (hlayout : isBusesLayoutSupported layouts = true) {M : ℕ} (fx : Effects F E)
    {p : AudioPluginAudioProcessor F S E} (h : Prepared layouts M p) (onOff : NetworkId → Bool)
    {buffer : AudioBuffer F} (hbuffer : AllowedBlock layouts M buffer) :
    (p.processBlock fx onOff buffer).InBounds ↔
      layouts.mainOutput = .stereo ∧ buffer.numSamples = M := by
  have hpos := hbuffer.pos
  have hle := hbuffer.le
  have hchannels := hbuffer.numChannels
  obtain ⟨hsamples, hmono⟩ := p.size_written fx h.numChannels onOff buffer
  rw [Traced.InBounds, AudioPluginAudioProcessor.log_processBlock, List.forall_mem_append]
  change (stereoToMono p.monoBuffer buffer).InBounds ∧ Traced.InBounds _ ↔ _
  rcases eq_of_isBusesLayoutSupported hlayout with rfl | rfl
  · -- a mono block has no second channel
    have hone : buffer.numChannels = 1 := hchannels
    rw [if_pos hone] at hsamples
    rw [monoToStereo_inBounds_iff hmono (by omega), hone]
    constructor
    · rintro ⟨-, htwo, -⟩
      omega
    · rintro ⟨hstereo, -⟩
      cases hstereo
  · -- a stereo block is written as many samples as `monoBuffer` has
    have htwo : buffer.numChannels = 2 := hchannels
    have hM := h.numSamples rfl
    rw [if_neg (by omega), hM] at hsamples
    rw [monoToStereo_inBounds_iff hmono (by omega), hsamples, htwo]
    constructor
    · rintro ⟨-, -, hM'⟩
      exact ⟨rfl, by omega⟩
    · rintro ⟨-, hfull⟩
      exact ⟨stereoToMono_inBounds h.numChannels (by omega) (by omega), le_rfl, by omega⟩

omit [FloatArithmetic F] in
/-- The buffer after `prepareToPlay`. -/
lemma prepared_prepareToPlay (layouts : BusesLayout) (fx : Effects F E)
    (p : AudioPluginAudioProcessor F S E) (totalNumInputChannels : ℕ) (sampleRate : ℚ) (M : ℕ) :
    Prepared layouts M (p.prepareToPlay fx totalNumInputChannels sampleRate M) :=
  ⟨p.monoBuffer.setSize_numChannels 1 M p.monoBuffer.data,
    fun _ => p.monoBuffer.setSize_numSamples 1 M p.monoBuffer.data⟩

/-- **When everything the conversions touch lies within its buffer.** The plugin is prepared for
blocks of at most `M` samples in a layout that it supports; blocks of that layout with between 1
and `M` samples follow, and anything else that can happen. Every channel and every sample that
`stereoToMono` and `monoToStereo` read or write exists if and only if every block is a stereo
block of `M` samples.

**Proof sketch.** In stereo, no step resizes `monoBuffer`, so it keeps the `M` samples it was
prepared with, and `monoToStereo` writes `M` samples to either channel of the host's block. In
mono, `monoBuffer` follows the block, and the second channel that is written does not exist. -/
theorem accesses_inBounds_iff {layouts : BusesLayout}
    (hlayout : isBusesLayoutSupported layouts = true) (fx : Effects F E)
    (p : AudioPluginAudioProcessor F S E) (sampleRate : ℚ) {M : ℕ} {es : List (HostEvent F S E)}
    (hblocks : ∀ buffer ∈ HostEvent.blocks es, AllowedBlock layouts M buffer) :
    ((p.prepareToPlay fx layouts.mainInput.size sampleRate M).run fx es).InBounds ↔
      ∀ buffer ∈ HostEvent.blocks es, layouts.mainOutput = .stereo ∧ buffer.numSamples = M := by
  have hprepared := prepared_prepareToPlay layouts fx p layouts.mainInput.size sampleRate M
  generalize p.prepareToPlay fx layouts.mainInput.size sampleRate M = q at hprepared ⊢
  induction es generalizing q with
  | nil => simp [Traced.InBounds, AudioPluginAudioProcessor.run, HostEvent.blocks]
  | cons e es ih =>
    rw [HostEvent.blocks_cons, List.forall_mem_append] at hblocks
    rw [AudioPluginAudioProcessor.run, Traced.inBounds_bind, HostEvent.blocks_cons,
      List.forall_mem_append]
    refine and_congr ?_ (ih hblocks.2 (q.handle fx e).value
      (hprepared.handle hlayout fun buffer hbuffer => (hblocks.1 buffer hbuffer).numChannels))
    cases e with
    | setGains inputGain outputGain =>
      simp [Traced.InBounds, AudioPluginAudioProcessor.handle, HostEvent.blocks]
    | elsewhere onnxProcessor1 onnxProcessor2 effects =>
      simp [Traced.InBounds, AudioPluginAudioProcessor.handle, HostEvent.blocks]
    | processBlock onOff buffer =>
      have hone := processBlock_inBounds_iff hlayout fx hprepared onOff
        (hblocks.1 buffer (by simp [HostEvent.blocks]))
      simpa [Traced.InBounds, AudioPluginAudioProcessor.handle, HostEvent.blocks] using hone

/-- The theorem at work: a stereo block as long as it may be. -/
theorem accesses_inBounds_full_block :
    (((AudioPluginAudioProcessor.passThrough ExactFloat).prepareToPlay (.bypass ExactFloat) 2
      48000 2).run (.bypass ExactFloat)
        [.processBlock (fun _ => true) ⟨2, 2, fun _ _ => 0⟩]).InBounds :=
  (accesses_inBounds_iff (show isBusesLayoutSupported ⟨.stereo, .stereo⟩ = true from rfl)
    (.bypass ExactFloat)
    (.passThrough ExactFloat) 48000 (by
      intro buffer hbuffer
      obtain rfl := List.mem_singleton.mp hbuffer
      exact ⟨rfl, by decide, le_rfl⟩)).mpr (by
    intro buffer hbuffer
    obtain rfl := List.mem_singleton.mp hbuffer
    exact ⟨rfl, rfl⟩)

/-- A stereo block of one sample, where there may be two, is written a second sample; and a mono
block is written to on a second channel. -/
theorem conversions_leave_the_block :
    (∃ a ∈ (((AudioPluginAudioProcessor.passThrough ExactFloat).prepareToPlay
        (.bypass ExactFloat) 2 48000 2).run (.bypass ExactFloat)
          [.processBlock (fun _ => true) ⟨2, 1, fun _ _ => 0⟩]).log,
      a = ⟨2, 1, 0, 1⟩ ∧ ¬ a.InBounds) ∧
    ∃ a ∈ (((AudioPluginAudioProcessor.passThrough ExactFloat).prepareToPlay
        (.bypass ExactFloat) 1 48000 2).run (.bypass ExactFloat)
          [.processBlock (fun _ => true) ⟨1, 2, fun _ _ => 0⟩]).log,
      a = ⟨1, 2, 1, 0⟩ ∧ ¬ a.InBounds := by
  have hwritten : ∀ c, ∀ buffer : AudioBuffer ExactFloat, ∀ a,
      (∀ source : AudioBuffer ExactFloat, source.numChannels = 1 → source.numSamples = 2 →
        a ∈ (monoToStereo buffer source).log) →
      (if buffer.numChannels = 1 then buffer.numSamples else 2) = 2 →
      a ∈ (((AudioPluginAudioProcessor.passThrough ExactFloat).prepareToPlay
        (.bypass ExactFloat) c 48000 2).run (.bypass ExactFloat)
          [.processBlock (fun _ => true) buffer]).log := by
    intro c buffer a ha hlength
    obtain ⟨hsamples, hchannels⟩ := AudioPluginAudioProcessor.size_written (.bypass ExactFloat)
      (p := (AudioPluginAudioProcessor.passThrough ExactFloat).prepareToPlay
        (.bypass ExactFloat) c 48000 2) rfl (fun _ => true) buffer
    have hmem := ha _ hchannels (hsamples.trans hlength)
    simp only [AudioPluginAudioProcessor.run, AudioPluginAudioProcessor.handle, Traced.log_bind,
      AudioPluginAudioProcessor.log_processBlock]
    simp only [List.mem_append]
    exact Or.inl (Or.inl (Or.inr hmem))
  constructor
  · refine ⟨_, hwritten 2 _ _ (fun source h₁ h₂ => ?_) rfl, rfl, by simp [Access.InBounds]⟩
    simp [monoToStereo, h₁, h₂, FloatVectorOperations.copy, AudioBuffer.touch]
  · refine ⟨_, hwritten 1 _ _ (fun source h₁ h₂ => ?_) rfl, rfl, by simp [Access.InBounds]⟩
    simp [monoToStereo, h₁, h₂, FloatVectorOperations.copy, AudioBuffer.touch]
