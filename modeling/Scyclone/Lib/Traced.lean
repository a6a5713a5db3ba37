import Mathlib.Data.List.Basic

set_option relaxedAutoImplicit false
set_option autoImplicit false

/-!
# Computations with a log

A value together with the list of what was done to compute it, in order. Safety statements
about single actions, such as the bounds of an access, are statements about the entries of the
log.

## Main definitions

* `Traced` — a value and its log, a monad.

## Main results

* `Traced.forall_log_bind` — a property of all actions of a sequence of two computations.
* `Traced.foldlM_invariant` — the rule for a loop.
-/

universe u v

/-- A value and the log of computing it. -/
structure Traced (A : Type v) (α : Type u) where
  value : α
  log : List A

namespace Traced

variable {A : Type v} {α β : Type u}

instance : Monad (Traced A) where
  pure a := ⟨a, []⟩
  bind x f := ⟨(f x.value).value, x.log ++ (f x.value).log⟩

@[simp] lemma value_pure (a : α) : (pure a : Traced A α).value = a := rfl

@[simp] lemma log_pure (a : α) : (pure a : Traced A α).log = [] := rfl

@[simp] lemma value_bind (x : Traced A α) (f : α → Traced A β) :
    (x >>= f).value = (f x.value).value := rfl

@[simp] lemma log_bind (x : Traced A α) (f : α → Traced A β) :
    (x >>= f).log = x.log ++ (f x.value).log := rfl

/-- All actions of a sequence have a property if those of its two parts do. -/
lemma forall_log_bind {P : A → Prop} (x : Traced A α) (f : α → Traced A β) :
    (∀ a ∈ (x >>= f).log, P a) ↔ (∀ a ∈ x.log, P a) ∧ ∀ a ∈ (f x.value).log, P a := by
  rw [log_bind, List.forall_mem_append]

/-- **The rule for a loop**: if every pass keeps an invariant of the value and logs only actions
with a property, so does the loop. -/
theorem foldlM_invariant {ι : Type v} {I : α → Prop} {P : A → Prop} {f : α → ι → Traced A α}
    (hpass : ∀ a x, I a → I (f a x).value ∧ ∀ l ∈ (f a x).log, P l) {a : α} (ha : I a)
    (xs : List ι) : I (xs.foldlM f a).value ∧ ∀ l ∈ (xs.foldlM f a).log, P l := by
  induction xs generalizing a with
  | nil => exact ⟨ha, fun l hl => (by cases hl)⟩
  | cons x xs ih =>
    obtain ⟨hvalue, hlog⟩ := hpass a x ha
    obtain ⟨hrest, hrestlog⟩ := ih hvalue
    rw [List.foldlM_cons]
    exact ⟨hrest, List.forall_mem_append.mpr ⟨hlog, hrestlog⟩⟩

end Traced
