import Mathlib.Tactic.NormNum
import Scyclone.Lib.Registers
import Scyclone.Plugin.Settings

set_option relaxedAutoImplicit false
set_option autoImplicit false

/-!
# Settings and parameters in sync

The settings of the processors are registers that the parameters are delivered to: deliveries of
different parameters do not disturb each other. What the constructors set is a second copy of
the same mappings, and the two copies differ.

## Main definitions

* `ParameterState`, `ParameterState.step` — the parameters and the settings, with deliveries.
* `misinitialised` — the parameters whose settings the constructors get wrong.

## Main results

* `DspSettings.independentWrites` — deliveries of different parameters are independent.
* `DspSettings.inSync_construct` — the settings that are right after construction.
* `settings_in_sync_iff` — all settings follow the parameters exactly in the states that are
  reached after each of those four parameters was delivered.
-/

variable {C : Type}

/-! ## Independent deliveries -/

section Independence

variable (maps : ParameterMaps C) (k : NetworkId)

lemma TransientSplitterSettings.independentWrites :
    IndependentWrites (TransientSplitterSettings.parameterChanged maps k) := by
  have htime : IndependentWrites fun (i : ParameterId) v (p : ℚ × EnvelopeSettings) =>
      if i = .tranAttackTime k then (v, p.2.setAttackTime maps v) else p :=
    .single _ fun _ _ => rfl
  have hshaper : IndependentWrites fun (i : ParameterId) v (p : ℚ × ℚ) =>
      if i = .tranShaper k then
        (if v < 1 / 2 then ((1 : ℚ), v * 2) else (1 - (v - 1 / 2) * 2, 1)) else p :=
    .single _ fun _ _ => rfl
  have hmuted : IndependentWrites fun (i : ParameterId) v (p : Bool) =>
      if i = .onOff k then !asBool v else p := .single _ fun _ _ => rfl
  refine (htime.prod (hshaper.prod hmuted)).of_view
    (fun s => ((s.attackTime, s.envelope2), (s.attack, s.sustain), s.isMuted)) ?_ ?_
  · rintro ⟨⟩ ⟨⟩ h
    simp only [Prod.mk.injEq] at h
    obtain ⟨⟨rfl, rfl⟩, ⟨rfl, rfl⟩, rfl⟩ := h
    rfl
  · intro i v s
    unfold parameterChanged setShaper setAttackTime
    split_ifs <;> simp_all

lemma IIRCutoffFilter.independentWrites :
    IndependentWrites (IIRCutoffFilter.parameterChanged maps k) := by
  have hfilter : IndependentWrites fun (i : ParameterId) v (f : IIRCutoffFilter C) =>
      if i = .filter k then f.updateFilterParams maps v else f := by
    refine .single _ fun v f => ?_
    unfold updateFilterParams
    split_ifs <;> rfl
  have hmuted : IndependentWrites fun (i : ParameterId) v (p : Bool) =>
      if i = .onOff k then !asBool v else p := .single _ fun _ _ => rfl
  refine (hfilter.prod hmuted).of_view
    (fun f => ({ f with isMuted := false }, f.isMuted)) ?_ ?_
  · rintro ⟨⟩ ⟨⟩ h
    simp only [Prod.mk.injEq, IIRCutoffFilter.mk.injEq] at h
    obtain ⟨⟨rfl, rfl, rfl, rfl, rfl, -⟩, rfl⟩ := h
    rfl
  · intro i v f
    unfold parameterChanged updateFilterParams
    split_ifs <;> simp_all [updateHPFilterParams, updateLPFilterParams]

lemma GrainDelay.independentWrites : IndependentWrites (GrainDelay.parameterChanged k) := by
  have hset : ∀ (i₀ : ParameterId) (lo hi : ℚ), IndependentWrites fun (i : ParameterId) v (p : ℚ) =>
      if i = i₀ then clamp v lo hi else p := fun _ _ _ => .single _ fun _ _ => rfl
  have hmuted : IndependentWrites fun (i : ParameterId) v (p : Bool) =>
      if i = .grainOnOff k then !asBool v else p := .single _ fun _ _ => rfl
  have hfixed : IndependentWrites fun (_ : ParameterId) (_ : ℚ) (p : ℚ) => p :=
    ⟨fun _ _ _ => rfl, fun _ _ _ _ => rfl, fun _ _ _ _ _ => rfl⟩
  refine (hmuted.prod ((hset (.grainPitch k) (-12) 12).prod ((hset (.grainSize k) 10 500).prod
    ((hset (.grainInterval k) 1 50).prod hfixed)))).of_view
    (fun g => (g.isMuted, g.rnboObject.pitch, g.rnboObject.grainSize,
      g.rnboObject.interval, g.rnboObject.grainPos)) ?_ ?_
  · rintro ⟨⟨⟩, _⟩ ⟨⟨⟩, _⟩ h
    simp only [Prod.mk.injEq] at h
    obtain ⟨rfl, rfl, rfl, rfl, rfl⟩ := h
    rfl
  · intro i v g
    unfold parameterChanged
    split_ifs <;> simp_all [RnboObject.setParameterValue]

lemma DryWetMixer.independentWrites (i₀ : ParameterId) :
    IndependentWrites fun i v (m : DryWetMixer) =>
      if i = i₀ then m.setDryWetProportion v else m := .single _ fun _ _ => rfl

lemma ProcessorGain.independentWrites :
    IndependentWrites (ProcessorGain.parameterChanged maps) := by
  have hgain : ∀ i₀ : ParameterId, IndependentWrites fun (i : ParameterId) v (g : GainLevel ℚ) =>
      if i = i₀ then { g with currentGain := maps.decibelsToGain v } else g :=
    fun _ => .single _ fun _ _ => rfl
  refine ((hgain .inputGain).prod (hgain .outputGain)).of_view
    (fun g => (g.inputGain, g.outputGain)) ?_ ?_
  · rintro ⟨⟩ ⟨⟩ h
    simp only [Prod.mk.injEq] at h
    obtain ⟨rfl, rfl⟩ := h
    rfl
  · intro i v g
    unfold parameterChanged
    split_ifs <;> simp_all

lemma CompressorSettings.independentWrites :
    IndependentWrites CompressorSettings.parameterChanged := by
  have hset : ∀ i₀ : ParameterId, IndependentWrites fun (i : ParameterId) v (p : ℚ) =>
      if i = i₀ then v else p := fun _ => .single _ fun _ _ => rfl
  have hmakeup : IndependentWrites fun (i : ParameterId) v (p : Bool × ℚ) =>
      if i = .compMakeupgain then (if v = -1 / 10 then (true, p.2) else (false, v)) else p := by
    refine .single _ fun v p => ?_
    split_ifs <;> rfl
  refine ((hset .compThreshold).prod ((hset .compRatio).prod hmakeup)).of_view
    (fun c => (c.threshold, c.ratio, c.autoMakeUpGain, c.makeUpGain)) ?_ ?_
  · rintro ⟨⟩ ⟨⟩ h
    simp only [Prod.mk.injEq] at h
    obtain ⟨rfl, rfl, rfl, rfl⟩ := h
    rfl
  · intro i v c
    unfold parameterChanged
    split_ifs <;> simp_all

/-- **Deliveries of different parameters are independent.** -/
theorem DspSettings.independentWrites : IndependentWrites (DspSettings.parameterChanged maps) := by
  have hmixer := DryWetMixer.independentWrites
  refine ((IndependentWrites.pi (TransientSplitterSettings.independentWrites maps)).prod
    ((IndependentWrites.pi (IIRCutoffFilter.independentWrites maps)).prod
    ((IndependentWrites.pi GrainDelay.independentWrites).prod
    ((IndependentWrites.pi fun k => hmixer (.grainMix k)).prod
    ((ProcessorGain.independentWrites maps).prod
    (CompressorSettings.independentWrites.prod
    ((hmixer .dryWet).prod ((hmixer .compDryWet).prod (hmixer .fade))))))))).of_view
    (fun d => (d.processorTransientSplitter, d.iirCutoffFilter, d.grainDelay,
      d.grainDryWetMixer, d.processorGain, d.processorCompressor, d.dryWetMixer, d.compMixer,
      d.fadeMixer)) ?_ fun _ _ _ => rfl
  rintro ⟨⟩ ⟨⟩ h
  simp only [Prod.mk.injEq] at h
  obtain ⟨rfl, rfl, rfl, rfl, rfl, rfl, rfl, rfl, rfl⟩ := h
  rfl

end Independence

/-! ## After construction -/

section Construction

variable (maps : ParameterMaps C) (p : ParameterValues) (k : NetworkId) (b : Bool)

/-- The constructor sets the attack time as `parameterChanged` does. -/
lemma TransientSplitterSettings.setAttackTime_construct :
    setAttackTime maps { construct maps p k with isMuted := b } (p (.tranAttackTime k)) =
      { construct maps p k with isMuted := b } := by
  simp only [construct, Bool.not_false, if_true, initialiseShaper]
  split_ifs <;> rfl

/-- The constructor sets the shaper as `parameterChanged` does up to the middle of its range, and
beyond it leaves the attack gain at 1. -/
lemma TransientSplitterSettings.setShaper_construct :
    setShaper { construct maps p k with isMuted := b } (p (.tranShaper k)) =
      { construct maps p k with isMuted := b } ↔ p (.tranShaper k) ≤ 1 / 2 := by
  simp only [construct, Bool.not_false, if_true, initialiseShaper, setShaper]
  split_ifs with hlow
  · exact iff_of_true rfl hlow.le
  · simp only [TransientSplitterSettings.mk.injEq, and_true, setAttackTime]
    constructor
    · intro hattack
      linarith
    · intro hmiddle
      have heq : p (.tranShaper k) = 1 / 2 := le_antisymm hmiddle (not_lt.mp hlow)
      rw [heq]
      norm_num

/-- The constructor sets the filter as `parameterChanged` does. -/
lemma IIRCutoffFilter.updateFilterParams_construct :
    updateFilterParams maps { construct maps p k with isMuted := b } (p (.filter k)) =
      { construct maps p k with isMuted := b } := by
  simp only [construct, updateFilterParams, updateHPFilterParams, updateLPFilterParams]
  split_ifs <;> rfl

namespace DspSettings

/-- What the plugin's constructor leaves of a splitter. -/
lemma construct_processorTransientSplitter :
    (construct maps p).processorTransientSplitter k =
      { TransientSplitterSettings.construct maps p k with
        isMuted := !asBool (p (.onOff .network1)) } := by
  cases k <;> simp [construct, initialiseRnbo, setInitialMuteParameters, parameterChanged,
    constructMembers, TransientSplitterSettings.parameterChanged]

/-- What the plugin's constructor leaves of a filter. -/
lemma construct_iirCutoffFilter :
    (construct maps p).iirCutoffFilter k =
      { IIRCutoffFilter.construct maps p k with isMuted := !asBool (p (.onOff .network1)) } := by
  cases k <;> simp [construct, initialiseRnbo, setInitialMuteParameters, parameterChanged,
    constructMembers, IIRCutoffFilter.parameterChanged]

/-- What the plugin's constructor leaves of a grain delay. -/
lemma construct_grainDelay :
    (construct maps p).grainDelay k =
      { rnboObject :=
          { grainPos := 2
            pitch := clamp (p (.grainPitch k)) (-12) 12
            grainSize := clamp (p (.grainSize k)) 10 500
            interval := clamp (p (.grainInterval k)) 1 50 }
        isMuted := !asBool (p (.grainOnOff k)) } := by
  have hpos : clamp 2 1 500 = 2 := by norm_num [clamp]
  cases k <;> simp [construct, initialiseRnbo, setInitialMuteParameters, parameterChanged,
    constructMembers, GrainDelay.parameterChanged, GrainDelay.setParameterValue,
    RnboObject.setParameterValue, GrainDelay.construct, hpos]

/-- What the plugin's constructor leaves of the other processors. -/
lemma construct_others :
    (construct maps p).grainDryWetMixer = (fun _ => {}) ∧
      (construct maps p).processorGain = {} ∧
      (construct maps p).processorCompressor = .construct p ∧
      (construct maps p).dryWetMixer = ⟨p .dryWet, p .dryWet⟩ ∧
      (construct maps p).compMixer = ⟨p .compDryWet, p .compDryWet⟩ ∧
      (construct maps p).fadeMixer = ⟨p .fade, p .fade⟩ := by
  simp [construct, initialiseRnbo, setInitialMuteParameters, parameterChanged, constructMembers,
    ProcessorGain.parameterChanged, CompressorSettings.parameterChanged,
    DryWetMixer.setDryWetProportion]

/-- A delivery changes nothing if it changes nothing in any processor. -/
lemma parameterChanged_eq_self_iff (id : ParameterId) (v : ℚ) (d : DspSettings C) :
    d.parameterChanged maps id v = d ↔
      (∀ k, (d.processorTransientSplitter k).parameterChanged maps k id v =
        d.processorTransientSplitter k) ∧
      (∀ k, (d.iirCutoffFilter k).parameterChanged maps k id v = d.iirCutoffFilter k) ∧
      (∀ k, (d.grainDelay k).parameterChanged k id v = d.grainDelay k) ∧
      (∀ k, id = .grainMix k → (d.grainDryWetMixer k).setDryWetProportion v =
        d.grainDryWetMixer k) ∧
      d.processorGain.parameterChanged maps id v = d.processorGain ∧
      d.processorCompressor.parameterChanged id v = d.processorCompressor ∧
      (id = .dryWet → d.dryWetMixer.setDryWetProportion v = d.dryWetMixer) ∧
      (id = .compDryWet → d.compMixer.setDryWetProportion v = d.compMixer) ∧
      (id = .fade → d.fadeMixer.setDryWetProportion v = d.fadeMixer) := by
  simp [DspSettings.ext_iff, funext_iff, parameterChanged]

/-- The values for which the constructors do what `parameterChanged` does. -/
def InitialisedRight : ParameterId → Prop
  | .tranShaper k => p (.tranShaper k) ≤ 1 / 2
  | .onOff .network2 => asBool (p (.onOff .network2)) = asBool (p (.onOff .network1))
  | .grainMix k => p (.grainMix k) = 0
  | .inputGain => maps.decibelsToGain (p .inputGain) = 1
  | .outputGain => maps.decibelsToGain (p .outputGain) = 1
  | .compMakeupgain => p .compMakeupgain = -1 / 10
  | _ => True

/-- **The settings that are right after construction**, for any values of the parameters. -/
theorem inSync_construct (id : ParameterId) :
    Mirrored.InSync (parameterChanged maps) ⟨p, construct maps p⟩ id ↔
      InitialisedRight maps p id := by
  have hothers := construct_others maps p
  rw [Mirrored.InSync, parameterChanged_eq_self_iff]
  cases id <;> simp [hothers, construct_processorTransientSplitter, construct_iirCutoffFilter,
    construct_grainDelay, TransientSplitterSettings.parameterChanged,
    IIRCutoffFilter.parameterChanged, GrainDelay.parameterChanged,
    ProcessorGain.parameterChanged, CompressorSettings.parameterChanged,
    CompressorSettings.construct, RnboObject.setParameterValue, DryWetMixer.setDryWetProportion,
    InitialisedRight]
  case tranAttackTime n => exact TransientSplitterSettings.setAttackTime_construct maps p n _
  case tranShaper n => simpa using TransientSplitterSettings.setShaper_construct maps p n _
  case filter n => exact IIRCutoffFilter.updateFilterParams_construct maps p n _
  case onOff n =>
    cases n with
    | network1 => simp
    | network2 => simp

end DspSettings

end Construction

/-! ## Runs -/

/-- The values of the parameters and the settings made of them. -/
abbrev ParameterState (C : Type) := Mirrored ParameterId ℚ (DspSettings C)

namespace ParameterState

/-- The plugin after its construction. -/
def construct (maps : ParameterMaps C) : ParameterState C :=
  ⟨ParameterId.defaultValue, .construct maps ParameterId.defaultValue⟩

/-- A parameter takes a value of its range, and `parameterChanged` is called. -/
def step (maps : ParameterMaps C) (s : ParameterState C) (e : ParameterId × ℚ) :
    Option (ParameterState C) :=
  if e.1.inRange e.2 then some (s.deliver (DspSettings.parameterChanged maps) e.1 e.2) else none

/-- Calling `parameterChanged` with the current value of any parameter changes nothing. -/
def Synced (maps : ParameterMaps C) (s : ParameterState C) : Prop :=
  ∀ id, s.InSync (DspSettings.parameterChanged maps) id

/-- The parameters whose settings the constructors get wrong. -/
def misinitialised : List ParameterId :=
  [.tranShaper .network2, .onOff .network2, .grainMix .network1, .grainMix .network2]

/-- At the defaults, the constructors get four settings wrong and the others right.

**Proof sketch.** By the parameter; the defaults are numbers, so both sides are computed. -/
lemma initialisedRight_defaultValue {maps : ParameterMaps C} (hgain : maps.decibelsToGain 0 = 1)
    (id : ParameterId) :
    DspSettings.InitialisedRight maps ParameterId.defaultValue id ↔ id ∉ misinitialised := by
  cases id with
  | tranShaper n =>
    cases n with
    | network1 =>
      refine iff_of_true ?_ (by decide)
      norm_num [DspSettings.InitialisedRight, ParameterId.defaultValue]
    | network2 =>
      refine iff_of_false ?_ (by decide)
      norm_num [DspSettings.InitialisedRight, ParameterId.defaultValue]
  | onOff n =>
    cases n with
    | network1 => exact iff_of_true trivial (by decide)
    | network2 =>
      refine iff_of_false ?_ (by decide)
      simp [DspSettings.InitialisedRight, ParameterId.defaultValue, asBool]
  | grainMix n =>
    refine iff_of_false ?_ (by cases n <;> decide)
    simp [DspSettings.InitialisedRight, ParameterId.defaultValue]
  | inputGain | outputGain => exact iff_of_true hgain (by decide)
  | compMakeupgain => exact iff_of_true rfl (by decide)
  | tranAttackTime n | filter n | select n | grainOnOff n | grainInterval n | grainSize n
  | grainPitch n => exact iff_of_true trivial (by cases n <;> decide)
  | fade | compDryWet | compThreshold | compRatio | dryWet => exact iff_of_true trivial (by decide)

/-- Any deliveries of values in range can happen. -/
lemma exists_exec (maps : ParameterMaps C) (s : ParameterState C) (es : List (ParameterId × ℚ))
    (h : ∀ e ∈ es, e.1.inRange e.2 = true) : ∃ t, Transition.exec (step maps) s es = some t := by
  induction es generalizing s with
  | nil => exact ⟨s, rfl⟩
  | cons e es ih =>
    obtain ⟨he, hrest⟩ := List.forall_mem_cons.mp h
    obtain ⟨t, ht⟩ := ih (s.deliver (DspSettings.parameterChanged maps) e.1 e.2) hrest
    refine ⟨t, ?_⟩
    rw [Transition.exec_cons_of_step (if_pos he), ht]

end ParameterState

/-- **When the settings follow the parameters.** In a state reached from the construction of the
plugin by deliveries of values in their ranges, every setting is what `parameterChanged` makes of
the current value of its parameter if and only if each of these was delivered at least once: the
shaper and the on/off switch of the second network, and the grain mixes of both.

**Proof sketch.** Deliveries are independent writes, so a delivery puts the settings of its own
parameter right and leaves the others as they were. After construction, the second splitter has
its attack gain set twice and its sustain never, the second network is muted as the first one
is, and the mixers of the grain delays are not set; all else is right. -/
theorem settings_in_sync_iff {maps : ParameterMaps C} (hgain : maps.decibelsToGain 0 = 1)
    {es : List (ParameterId × ℚ)} {t : ParameterState C}
    (hrun : Transition.exec (ParameterState.step maps) (ParameterState.construct maps) es =
      some t) :
    t.Synced maps ↔ ∀ id ∈ ParameterState.misinitialised, id ∈ es.map Prod.fst := by
  have hdeliver : ∀ (s : ParameterState C) (e : ParameterId × ℚ) (s' : ParameterState C),
      s.step maps e = some s' →
        s' = s.deliver (DspSettings.parameterChanged maps) e.1 e.2 := by
    intro s e s' hs
    simp only [ParameterState.step, Option.ite_none_right_eq_some, Option.some.injEq] at hs
    exact hs.2.symm
  have hsync : ∀ id, t.InSync (DspSettings.parameterChanged maps) id ↔
      id ∈ es.map Prod.fst ∨ id ∉ ParameterState.misinitialised := by
    intro id
    rw [Mirrored.inSync_exec (DspSettings.independentWrites maps) hdeliver hrun id,
      ParameterState.construct, DspSettings.inSync_construct,
      ParameterState.initialisedRight_defaultValue hgain]
  constructor
  · intro hall id hid
    exact ((hsync id).mp (hall id)).resolve_right fun hnot => hnot hid
  · intro hdelivered id
    by_cases hid : id ∈ ParameterState.misinitialised
    · exact (hsync id).mpr (Or.inl (hdelivered id hid))
    · exact (hsync id).mpr (Or.inr hid)

/-- The theorem at work: a value is delivered for each of the four parameters. -/
theorem settings_in_sync_after_four :
    ∃ t, Transition.exec (ParameterState.step .plain) (ParameterState.construct .plain)
        (ParameterState.misinitialised.map fun id => (id, id.defaultValue)) = some t ∧
      t.Synced .plain := by
  obtain ⟨t, hrun⟩ := ParameterState.exists_exec .plain (ParameterState.construct .plain)
    (ParameterState.misinitialised.map fun id => (id, id.defaultValue)) (by
      intro e he
      obtain ⟨id, -, rfl⟩ := List.mem_map.mp he
      exact id.defaultValue_inRange)
  refine ⟨t, hrun, (settings_in_sync_iff (by norm_num [ParameterMaps.plain]) hrun).mpr ?_⟩
  intro id hid
  rw [List.map_map]
  exact List.mem_map.mpr ⟨id, hid, rfl⟩

/-- Right after construction no setting of the four is right. In particular the attack gain of the
second splitter is 1, and the value of its parameter, delivered again, makes it 3/5. -/
theorem constructed_settings_out_of_sync :
    ((ParameterState.construct .plain).state.processorTransientSplitter .network2).attack = 1 ∧
    (((ParameterState.construct .plain).state.parameterChanged .plain (.tranShaper .network2)
      (ParameterId.defaultValue (.tranShaper .network2))).processorTransientSplitter
        .network2).attack = 3 / 5 ∧
    (∀ id ∈ ParameterState.misinitialised,
      ¬ (ParameterState.construct .plain).InSync (DspSettings.parameterChanged .plain) id) ∧
    ¬ (ParameterState.construct .plain).Synced .plain := by
  have hwrong : ∀ id ∈ ParameterState.misinitialised,
      ¬ (ParameterState.construct .plain).InSync (DspSettings.parameterChanged .plain) id := by
    intro id hid hsync
    rw [ParameterState.construct, DspSettings.inSync_construct,
      ParameterState.initialisedRight_defaultValue (by norm_num [ParameterMaps.plain])] at hsync
    exact hsync hid
  refine ⟨?_, ?_, hwrong, fun hall => hwrong (.tranShaper .network2) (by decide) (hall _)⟩
  · norm_num [ParameterState.construct, DspSettings.construct_processorTransientSplitter,
      TransientSplitterSettings.construct, TransientSplitterSettings.initialiseShaper,
      ParameterId.defaultValue, TransientSplitterSettings.setAttackTime]
  · simp only [DspSettings.parameterChanged, TransientSplitterSettings.parameterChanged,
      reduceCtorEq, if_false, if_true]
    norm_num [TransientSplitterSettings.setShaper, ParameterId.defaultValue]
