import Mathlib.Data.List.Basic

set_option relaxedAutoImplicit false
set_option autoImplicit false

/-!
# Slices of lists and concatenations of equal pieces

A stream seen so far is a list that grows at its end. The file has the slices of such a list,
which stay what they are while the list grows, and the concatenation of pieces of one length,
as a stream cut into blocks and processed block by block produces it.

## Main definitions

* `List.slice` — the entries `a, …, a + n - 1`.
* `List.pieces` — the concatenation of the first `k` pieces of a sequence of lists.

## Main results

* `List.slice_append_left`, `List.slice_append_slice` — slices and growth, adjacent slices.
* `List.pieces_range` — the consecutive slices of one length are a slice.
-/

namespace List

variable {α : Type*}

/-! ## Slices -/

/-- The `n` entries of `xs` from position `a`. -/
def slice (xs : List α) (a n : ℕ) : List α := (xs.drop a).take n

/-- A slice that lies inside the list is kept when the list grows. -/
lemma slice_append_left {xs : List α} {a n : ℕ} (h : a + n ≤ xs.length) (ys : List α) :
    (xs ++ ys).slice a n = xs.slice a n := by
  unfold slice
  rw [drop_append_of_le_length (by omega), take_append_of_le_length (by simp; omega)]

/-- A slice of a prefix is a slice of the list. -/
lemma IsPrefix.slice_eq {xs ys : List α} (h : xs <+: ys) {a n : ℕ} (ha : a + n ≤ xs.length) :
    ys.slice a n = xs.slice a n := by
  obtain ⟨t, rfl⟩ := h
  exact slice_append_left ha t

/-- Two adjacent slices make one. -/
lemma slice_append_slice (xs : List α) (a m n : ℕ) :
    xs.slice a m ++ xs.slice (a + m) n = xs.slice a (m + n) := by
  unfold slice
  rw [take_add, drop_drop]

/-- A slice that begins where a prefix ends. -/
lemma take_append_slice (xs : List α) (a n : ℕ) :
    xs.take a ++ xs.slice a n = xs.take (a + n) := by
  unfold slice
  rw [take_add]

/-- A slice after the start of another one. -/
lemma drop_slice (xs : List α) (a m n : ℕ) : (xs.slice a (m + n)).drop m = xs.slice (a + m) n := by
  unfold slice
  rw [drop_take, drop_drop, Nat.add_sub_cancel_left]

/-! ## Concatenations of pieces -/

/-- The first `k` pieces of the sequence `f`, one after the other. -/
def pieces (f : ℕ → List α) (k : ℕ) : List α := (range k).flatMap f

@[simp] lemma pieces_zero (f : ℕ → List α) : pieces f 0 = [] := rfl

/-- One more piece is appended at the end. -/
lemma pieces_succ (f : ℕ → List α) (k : ℕ) : pieces f (k + 1) = pieces f k ++ f k := by
  simp [pieces, range_succ, flatMap_append]

/-- A sequence cut into pieces of length `l`. -/
lemma pieces_range (f : ℕ → α) (l k : ℕ) :
    pieces (fun i => (range l).map fun j => f (i * l + j)) k = (range (k * l)).map f := by
  induction k with
  | zero => simp
  | succ k ih =>
    rw [pieces_succ, ih, Nat.succ_mul, range_add, map_append, map_map]
    rfl

end List
