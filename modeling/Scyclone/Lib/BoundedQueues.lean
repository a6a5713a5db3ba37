import Mathlib.Data.List.Basic
import Mathlib.Logic.Function.Basic

set_option relaxedAutoImplicit false
set_option autoImplicit false

/-!
# Bounded queues

A bank of first-in first-out queues, one for each channel, that share a bound on their lengths. The
bound is a field of the bank, so a queue that holds too much cannot be built: the operation that
would overfill a queue, and the one that would take from an empty queue, have no result.

## Main definitions

* `BoundedQueues` — the bank.
* `BoundedQueues.empty`, `BoundedQueues.push?`, `BoundedQueues.pop?` — the operations.

## Main results

* `BoundedQueues.push?_eq_some`, `BoundedQueues.pop?_eq_some` — when an operation has a result, and
  what it is.
-/

/-- Queues of at most `bound` items each. -/
@[ext] structure BoundedQueues (α : Type*) where
  /-- The number of queues. -/
  channels : ℕ
  /-- The number of items that a queue may hold. -/
  bound : ℕ
  /-- The items of a queue, the oldest first. -/
  items : ℕ → List α
  /-- No queue holds more. -/
  fits : ∀ c, (items c).length ≤ bound

namespace BoundedQueues

variable {α : Type*}

/-- Queues without items. -/
def empty (channels bound : ℕ) : BoundedQueues α := ⟨channels, bound, fun _ => [], by simp⟩

/-- The bank with other items in one queue. -/
def setItems (b : BoundedQueues α) (c : ℕ) (xs : List α) (h : xs.length ≤ b.bound) :
    BoundedQueues α where
  channels := b.channels
  bound := b.bound
  items := Function.update b.items c xs
  fits d := by
    by_cases hd : d = c
    · rw [hd, Function.update_self]
      exact h
    · rw [Function.update_of_ne hd]
      exact b.fits d

/-- A new youngest item, where there is room for it. -/
def push? (b : BoundedQueues α) (x : α) (c : ℕ) : Option (BoundedQueues α) :=
  if h : c < b.channels ∧ (b.items c).length < b.bound then
    some (b.setItems c (b.items c ++ [x]) (by rw [List.length_append]; exact h.2))
  else none

/-- The oldest item and the bank without it. -/
def pop? (b : BoundedQueues α) (c : ℕ) : Option (α × BoundedQueues α) :=
  if c < b.channels then
    (b.items c).head?.map fun x =>
      (x, b.setItems c (b.items c).tail (Nat.le_trans (List.tail_sublist _).length_le (b.fits c)))
  else none

/-- A push into a queue of the bank that has room. -/
lemma push?_eq_some {b : BoundedQueues α} {x : α} {c : ℕ} (hc : c < b.channels)
    (h : (b.items c).length < b.bound) :
    ∃ b', b.push? x c = some b' ∧ b'.channels = b.channels ∧ b'.bound = b.bound ∧
      b'.items = Function.update b.items c (b.items c ++ [x]) := by
  unfold push?
  rw [dif_pos ⟨hc, h⟩]
  exact ⟨_, rfl, rfl, rfl, rfl⟩

/-- A pop from a queue of the bank that has items. -/
lemma pop?_eq_some {b : BoundedQueues α} {x : α} {xs : List α} {c : ℕ} (hc : c < b.channels)
    (h : b.items c = x :: xs) :
    ∃ b', b.pop? c = some (x, b') ∧ b'.channels = b.channels ∧ b'.bound = b.bound ∧
      b'.items = Function.update b.items c xs := by
  have hhead : (b.items c).head? = some x := by rw [h, List.head?_cons]
  have htail : (b.items c).tail = xs := by rw [h, List.tail_cons]
  unfold pop?
  rw [if_pos hc, hhead]
  refine ⟨_, rfl, rfl, rfl, ?_⟩
  show Function.update b.items c (b.items c).tail = Function.update b.items c xs
  rw [htail]

end BoundedQueues
