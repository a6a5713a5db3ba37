import Mathlib.Data.Rat.Defs
import Mathlib.Algebra.Order.Field.Rat
import Mathlib.Tactic.NormNum

set_option relaxedAutoImplicit false
set_option autoImplicit false

/-!
# The parameters of the plugin

The automatable parameters with the ranges and the values they are declared with.

## Main definitions

* `NetworkId`, `ParameterId` — the two networks and the parameters.
* `ParameterId.range`, `ParameterId.defaultValue` — the parameter layout.

## Main results

* `ParameterId.defaultValue_inRange` — the layout declares every default within its range.
-/

/-- The number of a network, 1 or 2. -/
inductive NetworkId
  | network1
  | network2
  deriving DecidableEq, Repr

/-- The identifiers of `PluginParameters`. -/
inductive ParameterId
  | inputGain
  | tranAttackTime (network : NetworkId)
  | tranShaper (network : NetworkId)
  | filter (network : NetworkId)
  | select (network : NetworkId)
  | grainOnOff (network : NetworkId)
  | onOff (network : NetworkId)
  | grainInterval (network : NetworkId)
  | grainSize (network : NetworkId)
  | grainPitch (network : NetworkId)
  | grainMix (network : NetworkId)
  | fade
  | compDryWet
  | compThreshold
  | compRatio
  | compMakeupgain
  | outputGain
  | dryWet
  deriving DecidableEq, Repr

/-- `juce::NormalisableRange`: the bounds of the values and the distance between them. -/
structure NormalisableRange where
  rangeStart : ℚ
  rangeEnd : ℚ
  interval : ℚ
  deriving DecidableEq, Repr

/-- The value lies within the bounds. -/
def NormalisableRange.contains (r : NormalisableRange) (value : ℚ) : Bool :=
  decide (r.rangeStart ≤ value) && decide (value ≤ r.rangeEnd)

namespace ParameterId

/-- The parameters declared as `AudioParameterBool`. -/
def isBool : ParameterId → Bool
  | .select _ => true
  | .grainOnOff _ => true
  | .onOff _ => true
  | _ => false

/-- The range a parameter is declared with. -/
def range : ParameterId → NormalisableRange
  | .inputGain => ⟨-12, 12, 1 / 10⟩
  | .tranAttackTime _ => ⟨5 / 100, 2, 1 / 1000⟩
  | .tranShaper _ => ⟨-1, 1, 1 / 1000⟩
  | .filter _ => ⟨-1, 1, 1 / 1000⟩
  | .select _ => ⟨0, 1, 1⟩
  | .grainOnOff _ => ⟨0, 1, 1⟩
  | .onOff _ => ⟨0, 1, 1⟩
  | .grainInterval _ => ⟨1 / 1000, 2, 1 / 10000⟩
  | .grainSize _ => ⟨10, 100, 1 / 10⟩
  | .grainPitch _ => ⟨-12, 12, 1 / 100⟩
  | .grainMix _ => ⟨0, 1, 1 / 100⟩
  | .fade => ⟨0, 1, 1 / 100⟩
  | .compDryWet => ⟨0, 1, 1 / 100⟩
  | .compThreshold => ⟨-60, 0, 1 / 10⟩
  | .compRatio => ⟨1, 10, 1 / 10⟩
  | .compMakeupgain => ⟨-1 / 10, 12, 1 / 10⟩
  | .outputGain => ⟨-12, 12, 1 / 10⟩
  | .dryWet => ⟨0, 1, 1 / 100⟩

/-- The value a parameter is declared with. -/
def defaultValue : ParameterId → ℚ
  | .inputGain => 0
  | .tranAttackTime _ => 1 / 2
  | .tranShaper .network1 => 3 / 10
  | .tranShaper .network2 => 7 / 10
  | .filter .network1 => 7 / 10
  | .filter .network2 => 3 / 10
  | .select _ => 0
  | .grainOnOff _ => 0
  | .onOff .network1 => 1
  | .onOff .network2 => 0
  | .grainInterval _ => 1 / 2
  | .grainSize _ => 60
  | .grainPitch _ => 0
  | .grainMix _ => 1 / 4
  | .fade => 1
  | .compDryWet => 1
  | .compThreshold => -20
  | .compRatio => 4
  | .compMakeupgain => -1 / 10
  | .outputGain => 0
  | .dryWet => 7 / 10

/-- A value that the parameter can take: one within its range, and 0 or 1 for a boolean. -/
def inRange (id : ParameterId) (value : ℚ) : Bool :=
  id.range.contains value && (!id.isBool || value == 0 || value == 1)

/-- **Every default lies within the declared range.** -/
theorem defaultValue_inRange (id : ParameterId) : id.inRange id.defaultValue = true := by
  cases id with
  | inputGain | fade | compDryWet | compThreshold | compRatio | compMakeupgain | outputGain
  | dryWet => decide +kernel
  | tranAttackTime n | tranShaper n | filter n | select n | grainOnOff n | onOff n
  | grainInterval n | grainSize n | grainPitch n | grainMix n => cases n <;> decide +kernel

end ParameterId
