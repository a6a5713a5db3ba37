import Mathlib.Data.Nat.Notation
import Mathlib.Logic.Function.Basic

set_option relaxedAutoImplicit false
set_option autoImplicit false

/-!
# Values and the properties of trees

A `juce::ValueTree` is a reference to an object with properties, and a `juce::Value` one to a
source: a variable of its own, or a property of such an object. The objects made so far are kept in
a store, and a reference that refers to nothing is `none`.

## Main definitions

* `TreeStore` — the properties of the objects made so far, with `create`, `getProperty` and
  `setProperty`.
* `Value` — what a `juce::Value` refers to, with `getValue` and `setValue`.

## Main results

* `TreeStore.properties_create`, `TreeStore.properties_setProperty_of_ne` — what an object holds
  afterwards.
-/

variable {P : Type} {V : P → Type}

/-- The properties of the objects made so far. One that was never set is void. -/
structure TreeStore (P : Type) (V : P → Type) where
  properties : ℕ → (p : P) → Option (V p)
  size : ℕ

namespace TreeStore

/-- A new object with the given properties. -/
def create (s : TreeStore P V) (properties : (p : P) → Option (V p)) : TreeStore P V where
  properties := Function.update s.properties s.size properties
  size := s.size + 1

/-- `ValueTree::getProperty`. An invalid tree has no properties. -/
def getProperty (s : TreeStore P V) (tree : Option ℕ) (p : P) : Option (V p) :=
  tree.bind fun t => s.properties t p

variable [DecidableEq P]

/-- `ValueTree::setProperty`. On an invalid tree nothing is set. -/
def setProperty (s : TreeStore P V) (tree : Option ℕ) (p : P) (v : V p) : TreeStore P V :=
  match tree with
  | none => s
  | some t =>
    { s with
      properties := Function.update s.properties t (Function.update (s.properties t) p (some v)) }

@[simp] lemma setProperty_size (s : TreeStore P V) (tree : Option ℕ) (p : P) (v : V p) :
    (s.setProperty tree p v).size = s.size := by
  cases tree <;> rfl

/-- Another object is left alone. -/
lemma properties_setProperty_of_ne (s : TreeStore P V) {tree : Option ℕ} {t : ℕ}
    (h : tree ≠ some t) (p : P) (v : V p) :
    (s.setProperty tree p v).properties t = s.properties t := by
  cases tree with
  | none => rfl
  | some t' =>
    have hne : t ≠ t' := fun heq => h (congrArg some heq.symm)
    exact Function.update_of_ne hne _ _

omit [DecidableEq P] in
/-- The new object has the given properties. -/
lemma properties_create (s : TreeStore P V) (properties : (p : P) → Option (V p)) :
    (s.create properties).properties s.size = properties := Function.update_self _ _ _

end TreeStore

/-- What a `juce::Value` refers to. -/
inductive Value (P : Type) (V : P → Type) (p : P)
  /-- A variable of its own. -/
  | own (v : Option (V p))
  /-- The property of a tree, as `getPropertyAsValue` gives it. -/
  | property (tree : Option ℕ)

namespace Value

variable {p : P}

/-- `getValue`. -/
def getValue (s : TreeStore P V) : Value P V p → Option (V p)
  | own v => v
  | property tree => s.getProperty tree p

/-- `setValue`: the variable or the property is set. -/
def setValue [DecidableEq P] (s : TreeStore P V) (v : V p) :
    Value P V p → TreeStore P V × Value P V p
  | own _ => (s, own (some v))
  | property tree => (s.setProperty tree p v, property tree)

end Value
