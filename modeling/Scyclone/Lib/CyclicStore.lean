import Mathlib.Data.List.Basic
import Mathlib.Logic.Function.Basic
import Mathlib.Data.Nat.ModEq

set_option relaxedAutoImplicit false
set_option autoImplicit false

/-!
# Cyclic stores

A store of `N` cells written one after the other, starting over at the first cell after the
last. Positions advance by a comparison (`Cyclic.next`) and the number of stored entries is
read off two positions (`Cyclic.distance`). The file relates both to running totals: after `k`
advances the position is `k % N`, and the distance of the positions of the totals `r ≤ w` is
`(w - r) % N`.

What the cells hold is described by the whole history of what was written, not only by what
still fits: `Cyclic.Holds N xs cells` says that the last `N` entries of `xs` are in their
cells. It is preserved by every write, also by those that overwrite an entry.

## Main definitions

* `Cyclic.next`, `Cyclic.distance` — the two position computations.
* `Cyclic.fill` — the cells and the position after a list was written.
* `Cyclic.Holds` — the cells hold the last `N` entries of a history.

## Main results

* `Cyclic.next_mod`, `Cyclic.distance_mod` — positions as remainders of totals.
* `Cyclic.Holds.write` — writing the next cell extends the history.
* `Cyclic.exists_fill_eq` — what was written last is in the cells.
* `Cyclic.fill_related` — two stores that are written in step stay related.
* `Cyclic.Holds.read`, `Cyclic.Holds.exists_read` — what a cell reads as, before and after
  entries were overwritten.
-/

namespace Cyclic

variable {α : Type*}

/-! ## Positions -/

/-- The position after `p` in a store of `N` cells. -/
def next (N p : ℕ) : ℕ := if p + 1 ≥ N then 0 else p + 1

/-- The number of entries between a read position `r` and a write position `w`. -/
def distance (N r w : ℕ) : ℕ := if r ≤ w then w - r else w + N - r

/-- The position of the total `k + 1` is the one after the position of `k`. -/
lemma next_mod {N : ℕ} (hN : 0 < N) (k : ℕ) : next N (k % N) = (k + 1) % N := by
  have hlt := Nat.mod_lt k hN
  have hk := Nat.div_add_mod k N
  unfold next
  split_ifs with h
  · have he : k + 1 = N * (k / N + 1) := by rw [Nat.mul_add, Nat.mul_one]; omega
    rw [he, Nat.mul_mod_right]
  · have he : k + 1 = N * (k / N) + (k % N + 1) := by omega
    have hk1 : k % N + 1 < N := by omega
    rw [he, Nat.mul_add_mod, Nat.mod_eq_of_lt hk1]

/-- The distance of the positions of two totals is the difference of the totals, up to whole
turns of the store. -/
lemma distance_mod {N r w : ℕ} (hN : 0 < N) (h : r ≤ w) :
    distance N (r % N) (w % N) = (w - r) % N := by
  have hr := Nat.mod_lt r hN
  have hw := Nat.mod_lt w hN
  obtain ⟨d, rfl⟩ := Nat.exists_eq_add_of_le h
  have hd := Nat.mod_lt d hN
  have hadd : (r + d) % N = (r % N + d % N) % N := Nat.add_mod r d N
  rw [Nat.add_sub_cancel_left]
  unfold distance
  by_cases hc : r % N + d % N < N
  · rw [Nat.mod_eq_of_lt hc] at hadd
    split_ifs <;> omega
  · have hsub : (r % N + d % N) % N = r % N + d % N - N := by
      rw [Nat.mod_eq_sub_mod (by omega), Nat.mod_eq_of_lt (by omega)]
    rw [hsub] at hadd
    split_ifs <;> omega

/-- Two totals less than `N` apart that share a position are equal. -/
lemma eq_of_mod_eq {N i j : ℕ} (hij : i % N = j % N) (hle : i ≤ j) (hlt : j < i + N) : i = j := by
  have hdvd : N ∣ j - i := (Nat.modEq_iff_dvd' hle).mp hij
  rcases Nat.eq_zero_or_pos (j - i) with h | h
  · omega
  · have := Nat.le_of_dvd h hdvd
    omega

/-! ## What the cells hold -/

/-- The last `N` entries of the history `xs` are in their cells: entry `i` is in cell
`i % N`. -/
def Holds (N : ℕ) (xs : List α) (cells : ℕ → α) : Prop :=
  ∀ i (h : i < xs.length), xs.length ≤ i + N → cells (i % N) = xs[i]

/-- Any cells hold the empty history. -/
lemma Holds.nil (N : ℕ) (cells : ℕ → α) : Holds N [] cells := by
  intro i h
  simp at h

/-- Writing the next cell extends the history by the entry written.

**Proof sketch.** The new entry is in the cell just written. An older one among the last `N`
is less than `N` before it, so its cell is another one (`eq_of_mod_eq`). -/
lemma Holds.write {N : ℕ} {xs : List α} {cells : ℕ → α} (h : Holds N xs cells) (x : α) :
    Holds N (xs ++ [x]) (Function.update cells (xs.length % N) x) := by
  intro i hi hlast
  rw [List.length_append, List.length_singleton] at hi hlast
  rcases Nat.lt_succ_iff_lt_or_eq.mp hi with hlt | rfl
  · have hne : i % N ≠ xs.length % N := by
      intro he
      have := eq_of_mod_eq he hlt.le (by omega)
      omega
    rw [Function.update_of_ne hne, List.getElem_append_left hlt]
    exact h i hlt (by omega)
  · rw [Function.update_self, List.getElem_concat_length rfl]

/-- The cell of an entry that has not been overwritten reads as that entry. -/
lemma Holds.read {N : ℕ} {xs : List α} {cells : ℕ → α} (h : Holds N xs cells) {i : ℕ}
    (hi : i < xs.length) (hlast : xs.length ≤ i + N) : cells (i % N) = xs[i] := h i hi hlast

/-- The cell of any entry ever written reads as an entry of the history: the last one
written there.

**Proof sketch.** The last total below `|xs|` with the same position as `i` is
`i + N · ((|xs| - 1 - i) / N)`, and it is less than `N` before the end. -/
lemma Holds.exists_read {N : ℕ} (hN : 0 < N) {xs : List α} {cells : ℕ → α}
    (h : Holds N xs cells) {i : ℕ} (hi : i < xs.length) :
    ∃ j, ∃ hj : j < xs.length, i ≤ j ∧ j % N = i % N ∧ xs.length ≤ j + N ∧
      cells (i % N) = xs[j] := by
  set q := (xs.length - 1 - i) / N with hq
  have hdiv := Nat.div_add_mod (xs.length - 1 - i) N
  have hmod := Nat.mod_lt (xs.length - 1 - i) hN
  rw [← hq] at hdiv
  have hpos : (i + N * q) % N = i % N := by rw [Nat.add_mul_mod_self_left]
  have hlt : i + N * q < xs.length := by omega
  have hlast : xs.length ≤ i + N * q + N := by omega
  exact ⟨i + N * q, hlt, Nat.le_add_right _ _, hpos, hlast, by rw [← hpos]; exact h _ hlt hlast⟩

/-- Once more than `N` entries beyond entry `i` were written, its cell reads as a later
entry. -/
lemma Holds.overwritten {N : ℕ} (hN : 0 < N) {xs : List α} {cells : ℕ → α}
    (h : Holds N xs cells) {i : ℕ} (hlost : i + N < xs.length) :
    ∃ j, ∃ hj : j < xs.length, i < j ∧ cells (i % N) = xs[j] := by
  obtain ⟨j, hj, hij, -, hlast, hcell⟩ := h.exists_read hN (i := i) (by omega)
  exact ⟨j, hj, by omega, hcell⟩

/-! ## Two stores in step -/

/-- Writes a list from position `p` on; the cells and the position afterwards. -/
def fill (N : ℕ) (cells : ℕ → α) (p : ℕ) (xs : List α) : (ℕ → α) × ℕ :=
  xs.foldl (fun s x => (Function.update s.1 s.2 x, next N s.2)) (cells, p)

@[simp] lemma fill_nil (N : ℕ) (cells : ℕ → α) (p : ℕ) : fill N cells p [] = (cells, p) := rfl

@[simp] lemma fill_cons (N : ℕ) (cells : ℕ → α) (p : ℕ) (x : α) (xs : List α) :
    fill N cells p (x :: xs) = fill N (Function.update cells p x) (next N p) xs := rfl

/-- Filling extends the history by the entries written. -/
lemma Holds.fill {N : ℕ} (hN : 0 < N) {history : List α} {cells : ℕ → α}
    (h : Holds N history cells) (xs : List α) :
    Holds N (history ++ xs) (fill N cells (history.length % N) xs).1 := by
  induction xs generalizing history cells with
  | nil => simpa using h
  | cons x xs ih =>
    have hrest := ih (h.write x)
    rw [List.length_append, List.length_singleton, ← next_mod hN, List.append_assoc,
      List.singleton_append] at hrest
    exact hrest

/-- **An entry of a list that fits into the store is in one of the cells** once the list has been
written. -/
theorem exists_fill_eq {N : ℕ} (cells : ℕ → α) {p : ℕ} (hp : p < N) {xs : List α}
    (hlen : xs.length ≤ N) {x : α} (hx : x ∈ xs) : ∃ i < N, (fill N cells p xs).1 i = x := by
  have hN : 0 < N := (Nat.zero_le p).trans_lt hp
  have hstart : Holds N ((List.range p).map cells) cells := by
    intro i hi _
    have hlt : i < p := by simpa using hi
    rw [Nat.mod_eq_of_lt (hlt.trans hp)]
    simp
  have hfilled := hstart.fill hN xs
  rw [List.length_map, List.length_range, Nat.mod_eq_of_lt hp] at hfilled
  obtain ⟨j, hj, rfl⟩ := List.getElem_of_mem hx
  refine ⟨(p + j) % N, Nat.mod_lt _ hN, ?_⟩
  rw [hfilled.read (i := p + j) (by simpa using hj) (by simp; omega)]
  simp

lemma next_lt {N : ℕ} (hN : 0 < N) (p : ℕ) : next N p < N := by
  unfold next
  split_ifs with h
  · exact hN
  · omega

/-- **Two stores that are written in step stay related**, entry by entry, if the entries written
are: their positions stay the same, through every turn. -/
theorem fill_related {β : Type*} {R : α → β → Prop} {N : ℕ} (hN : 0 < N) {cells : ℕ → α}
    {cells' : ℕ → β} (hcells : ∀ i < N, R (cells i) (cells' i)) {p : ℕ} (hp : p < N)
    {xs : List α} {ys : List β} (h : List.Forall₂ R xs ys) :
    (∀ i < N, R ((fill N cells p xs).1 i) ((fill N cells' p ys).1 i)) ∧
      (fill N cells p xs).2 = (fill N cells' p ys).2 ∧ (fill N cells p xs).2 < N := by
  induction h generalizing cells cells' p with
  | nil => exact ⟨hcells, rfl, hp⟩
  | @cons x y xs ys hxy _ ih =>
    rw [fill_cons, fill_cons]
    refine ih (fun i hi => ?_) (next_lt hN p)
    rw [Function.update_apply, Function.update_apply]
    split_ifs
    · exact hxy
    · exact hcells i hi

end Cyclic
