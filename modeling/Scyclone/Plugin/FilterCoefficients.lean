import Scyclone.Lib.Transition
import Scyclone.Plugin.Settings

set_option relaxedAutoImplicit false
set_option autoImplicit false

/-!
# The coefficients of the cutoff filter

`IIRCutoffFilter` computes coefficients when its parameter changes, for the sample rate of the last
`prepare`. `prepare` itself stores the new rate and leaves the coefficients as they are.

## Main definitions

* `IIRCutoffFilter.prepare`, `IIRCutoffFilter.Event`, `IIRCutoffFilter.step` — the calls.
* `IIRCutoffFilter.Matched` — the coefficients of an enabled filter are those of the current rate.
* `IIRCutoffFilter.KeepsCoefficients` — the condition on a `prepare`.

## Main results

* `IIRCutoffFilter.matched_updateFilterParams` — a parameter change computes the coefficients.
* `coefficients_match_iff` — the states of a run.
-/

variable {C : Type}

namespace IIRCutoffFilter

/-- `prepare`. The two filters are reset and prepared, which concerns their delay lines. -/
def prepare (f : IIRCutoffFilter C) (spec : ProcessSpec) : IIRCutoffFilter C :=
  { f with sampleRate := spec.sampleRate }

/-- The calls after the construction. -/
inductive Event
  | prepare (spec : ProcessSpec)
  | parameterChanged (parameterID : ParameterId) (newValue : ℚ)

/-- One call, of the filter of a network. -/
def step (maps : ParameterMaps C) (index : NetworkId) (f : IIRCutoffFilter C) :
    Event → Option (IIRCutoffFilter C)
  | .prepare spec => some (f.prepare spec)
  | .parameterChanged parameterID newValue =>
    some (f.parameterChanged maps index parameterID newValue)

/-- A filter that is enabled has the coefficients of the current sample rate and of its stored
frequency and q, and the two are not enabled together. -/
structure Matched (maps : ParameterMaps C) (f : IIRCutoffFilter C) : Prop where
  highPass : f.filterParamsHP.enabled = true →
    f.highPassFilter = maps.makeHighPass f.sampleRate f.filterParamsHP.freq f.filterParamsHP.q
  lowPass : f.filterParamsLP.enabled = true →
    f.lowPassFilter = maps.makeLowPass f.sampleRate f.filterParamsLP.freq f.filterParamsLP.q
  one : ¬ (f.filterParamsHP.enabled = true ∧ f.filterParamsLP.enabled = true)

/-- A `prepare` comes while no filter is enabled, or with a sample rate that does not ask for other
coefficients of the enabled one than the current rate. -/
def KeepsCoefficients (maps : ParameterMaps C) (f : IIRCutoffFilter C) : Event → Prop
  | .prepare spec =>
    (f.filterParamsHP.enabled = true →
      maps.makeHighPass spec.sampleRate f.filterParamsHP.freq f.filterParamsHP.q =
        maps.makeHighPass f.sampleRate f.filterParamsHP.freq f.filterParamsHP.q) ∧
    (f.filterParamsLP.enabled = true →
      maps.makeLowPass spec.sampleRate f.filterParamsLP.freq f.filterParamsLP.q =
        maps.makeLowPass f.sampleRate f.filterParamsLP.freq f.filterParamsLP.q)
  | .parameterChanged _ _ => True

/-- **A parameter change computes the coefficients** of the filter it enables, and disables the
other one. -/
lemma matched_updateFilterParams (maps : ParameterMaps C) (f : IIRCutoffFilter C) (yPos : ℚ) :
    (f.updateFilterParams maps yPos).Matched maps := by
  unfold updateFilterParams
  split_ifs
  · exact ⟨fun _ => rfl, fun h => (by cases h), fun h => (by cases h.2)⟩
  · exact ⟨fun h => (by cases h), fun _ => rfl, fun h => (by cases h.1)⟩

/-- Any parameter change keeps the coefficients matched. -/
lemma Matched.parameterChanged {maps : ParameterMaps C} {f : IIRCutoffFilter C}
    (h : f.Matched maps) (index : NetworkId) (parameterID : ParameterId) (newValue : ℚ) :
    (f.parameterChanged maps index parameterID newValue).Matched maps := by
  unfold IIRCutoffFilter.parameterChanged
  split_ifs
  · exact f.matched_updateFilterParams maps newValue
  · exact ⟨h.highPass, h.lowPass, h.one⟩
  · exact h

/-- **A `prepare` leaves the coefficients matched** exactly if it keeps them. -/
lemma Matched.prepare_iff {maps : ParameterMaps C} {f : IIRCutoffFilter C} (h : f.Matched maps)
    (spec : ProcessSpec) :
    (f.prepare spec).Matched maps ↔ f.KeepsCoefficients maps (.prepare spec) := by
  constructor
  · intro hmatched
    exact ⟨fun hon => (hmatched.highPass hon).symm.trans (h.highPass hon),
      fun hon => (hmatched.lowPass hon).symm.trans (h.lowPass hon)⟩
  · rintro ⟨hhigh, hlow⟩
    exact ⟨fun hon => (h.highPass hon).trans (hhigh hon).symm,
      fun hon => (h.lowPass hon).trans (hlow hon).symm, h.one⟩

end IIRCutoffFilter

open IIRCutoffFilter in
/-- **When the coefficients match.** A filter is constructed; calls of `prepare` and parameter
changes follow in any order. In every state an enabled filter has the coefficients of the current
sample rate, exactly if each `prepare` comes while no filter is enabled or with a rate that does not
ask for other coefficients; the rate that is already in force is one.

**Proof sketch.** A parameter change computes the coefficients for the current rate, and a `prepare`
changes that rate only. -/
theorem coefficients_match_iff (maps : ParameterMaps C) (apvts : ParameterValues) (no : NetworkId)
    (es : List Event) :
    Transition.Always (step maps no) (Matched maps) (construct maps apvts no) es ↔
      Transition.StepsMeet (step maps no) (KeepsCoefficients maps) (construct maps apvts no)
        es := by
  refine Transition.always_iff_stepsMeet (fun _ h => h) (fun f e f' h hc hs => ?_)
    (fun f e f' h hs hp => ?_) es (matched_updateFilterParams maps _ _)
  · cases e with
    | prepare spec =>
      obtain rfl := Option.some.inj hs
      exact (h.prepare_iff spec).mpr hc
    | parameterChanged parameterID newValue =>
      obtain rfl := Option.some.inj hs
      exact h.parameterChanged no parameterID newValue
  · cases e with
    | prepare spec =>
      obtain rfl := Option.some.inj hs
      exact (h.prepare_iff spec).mp hp
    | parameterChanged parameterID newValue => trivial

open IIRCutoffFilter in
/-- The filter of the first network, prepared at 44.1 kHz: its high pass is enabled with the
coefficients for 48 kHz. -/
theorem prepare_leaves_coefficients :
    ¬ Transition.Always (step ParameterMaps.plain .network1) (Matched ParameterMaps.plain)
      (construct ParameterMaps.plain ParameterId.defaultValue .network1)
      [.prepare ⟨44100, 512, 1⟩] := by
  intro h
  have hmatched : Matched ParameterMaps.plain
      ((construct ParameterMaps.plain ParameterId.defaultValue .network1).prepare
        ⟨44100, 512, 1⟩) := h.2 _ rfl
  have hon : ((construct ParameterMaps.plain ParameterId.defaultValue .network1).prepare
      ⟨44100, 512, 1⟩).filterParamsHP.enabled = true := by decide +kernel
  have hrate := congrArg Prod.fst (hmatched.highPass hon)
  revert hrate
  decide +kernel
