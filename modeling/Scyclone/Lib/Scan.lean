import Mathlib.Data.List.Basic

set_option relaxedAutoImplicit false
set_option autoImplicit false

/-!
# Recurrences over a stream

A recurrence `f : σ → ι → σ` turns a stream of inputs into the stream of its states. The file has
the rules for what holds of all states of such a stream, and of two streams from the same inputs.

## Main definitions

* `Scan.states` — the states after each input.
* `Scan.Meets` — every input meets a condition together with the state before it.
* `Scan.run` — the last state and the outputs of steps that give an output each.

## Main results

* `Scan.states_append` — the second part of a stream begins where the first one has led.
* `Scan.foldl_related` — the simulation rule for two recurrences.
* `Scan.forall_states` — the invariant rule.
* `Scan.foldl_iff_exists` — the rule for what is never left again.
* `Scan.forall_states_iff` — the exact form, with a condition on each step.
* `Scan.states_eq_iff` — two recurrences agree on a stream exactly if they agree in each step.
* `Scan.run_related` — the simulation rule for steps that give outputs.
* `Scan.run_snd_eq_of_related` — related states give the same outputs.
* `Scan.states_equivariant`, `Scan.run_equivariant` — maps that commute with a step commute with a
  stream.
-/

namespace Scan

variable {σ ι : Type*} {f g : σ → ι → σ}

/-- The states after each input, in order. -/
def states (f : σ → ι → σ) : σ → List ι → List σ
  | _, [] => []
  | s, x :: xs => f s x :: states f (f s x) xs

/-- Every input meets `C` together with the state before it. -/
def Meets (f : σ → ι → σ) (C : σ → ι → Prop) : σ → List ι → Prop
  | _, [] => True
  | s, x :: xs => C s x ∧ Meets f C (f s x) xs

@[simp] lemma states_nil (s : σ) : states f s [] = [] := rfl

@[simp] lemma states_cons (s : σ) (x : ι) (xs : List ι) :
    states f s (x :: xs) = f s x :: states f (f s x) xs := rfl

@[simp] lemma length_states (s : σ) (xs : List ι) : (states f s xs).length = xs.length := by
  induction xs generalizing s with
  | nil => rfl
  | cons x xs ih => simp [ih]

/-- The second part of a stream begins in the state that the first one has led to. -/
lemma states_append (s : σ) (xs ys : List ι) :
    states f s (xs ++ ys) = states f s xs ++ states f (xs.foldl f s) ys := by
  induction xs generalizing s with
  | nil => rfl
  | cons x xs ih => simp [ih]

/-- A stream whose inputs are computed from others. -/
lemma states_map {κ : Type*} (φ : κ → ι) (s : σ) (xs : List κ) :
    states f s (xs.map φ) = states (fun s x => f s (φ x)) s xs := by
  induction xs generalizing s with
  | nil => rfl
  | cons x xs ih => rw [List.map_cons, states_cons, states_cons, ih]

/-- State `i` comes from input `i` and the state that the inputs before it have led to. -/
lemma getElem_states (s : σ) (xs : List ι) (i : ℕ) (h : i < (states f s xs).length)
    (hi : i < xs.length) : (states f s xs)[i] = f ((xs.take i).foldl f s) xs[i] := by
  induction xs generalizing s i with
  | nil => simp at hi
  | cons x xs ih =>
    cases i with
    | zero => rfl
    | succ i =>
      simp only [states_cons, List.getElem_cons_succ, List.take_succ_cons, List.foldl_cons]
      exact ih (f s x) i (by simpa using h) (by simpa using hi)

/-- State `i` is the one that the inputs up to input `i` lead to. -/
lemma getElem_states_eq_foldl (s : σ) (xs : List ι) (i : ℕ) (h : i < (states f s xs).length) :
    (states f s xs)[i] = (xs.take (i + 1)).foldl f s := by
  have hi : i < xs.length := by simpa using h
  rw [getElem_states s xs i h hi, List.take_add_one, List.getElem?_eq_getElem hi,
    List.foldl_append]
  rfl

/-- **The simulation rule**: if one step of two recurrences with the same input keeps a relation
between their states, a stream of such inputs does. -/
theorem foldl_related {τ : Type*} {g : τ → ι → τ} {R : σ → τ → Prop} {C : ι → Prop}
    (hstep : ∀ s t x, R s t → C x → R (f s x) (g t x)) {s : σ} {t : τ} (h0 : R s t)
    {xs : List ι} (hC : ∀ x ∈ xs, C x) : R (xs.foldl f s) (xs.foldl g t) := by
  induction xs generalizing s t with
  | nil => exact h0
  | cons x xs ih =>
    obtain ⟨hx, hxs⟩ := List.forall_mem_cons.mp hC
    exact ih (hstep s t x h0 hx) hxs

/-- **The invariant rule**: an invariant that is kept by every step whose input meets `C` holds
of all states of a stream of such inputs, and of the last one. -/
theorem forall_states {I : σ → Prop} {C : ι → Prop} (hstep : ∀ s x, I s → C x → I (f s x))
    {s : σ} {xs : List ι} (h0 : I s) (hC : ∀ x ∈ xs, C x) :
    (∀ v ∈ states f s xs, I v) ∧ I (xs.foldl f s) := by
  induction xs generalizing s with
  | nil => exact ⟨fun v hv => (by cases hv), h0⟩
  | cons x xs ih =>
    obtain ⟨hx, hxs⟩ := List.forall_mem_cons.mp hC
    have h1 : I (f s x) := hstep s x h0 hx
    obtain ⟨hall, hlast⟩ := ih h1 hxs
    exact ⟨List.forall_mem_cons.mpr ⟨h1, hall⟩, hlast⟩

/-- **The rule for what is never left again**: if a step leads to a state with `P` exactly if it
comes from one or its input has `Q`, then a stream does exactly if it began in one or one of its
inputs has `Q`. -/
theorem foldl_iff_exists {P : σ → Prop} {Q : ι → Prop} (h : ∀ s x, P (f s x) ↔ P s ∨ Q x)
    (s : σ) (xs : List ι) : P (xs.foldl f s) ↔ P s ∨ ∃ x ∈ xs, Q x := by
  induction xs generalizing s with
  | nil => simp
  | cons x xs ih => simp only [List.foldl_cons, ih, h, or_assoc, List.exists_mem_cons_iff]

/-- **The exact rule for one property**: if a step leads to a state with `P` exactly if it meets
`C`, then all states of a stream have `P` exactly if every step meets `C`. The invariant `I`
says which states are met on the way. -/
theorem forall_states_iff {I P : σ → Prop} {D : ι → Prop} {C : σ → ι → Prop}
    (hstep : ∀ s x, I s → D x → I (f s x))
    (hexact : ∀ s x, I s → D x → (P (f s x) ↔ C s x)) {s : σ} {xs : List ι} (h0 : I s)
    (hD : ∀ x ∈ xs, D x) : (∀ v ∈ states f s xs, P v) ↔ Meets f C s xs := by
  induction xs generalizing s with
  | nil => simp [Meets]
  | cons x xs ih =>
    obtain ⟨hx, hxs⟩ := List.forall_mem_cons.mp hD
    rw [states_cons, List.forall_mem_cons, Meets, hexact s x h0 hx, ih (hstep s x h0 hx) hxs]

/-- **The exact rule for two recurrences**: if one step of both agrees exactly if its input meets
`C`, then both give the same states exactly if every input meets `C`. -/
theorem states_eq_iff {I : σ → Prop} {D C : ι → Prop} (hstep : ∀ s x, I s → D x → I (f s x))
    (hexact : ∀ s x, I s → D x → (f s x = g s x ↔ C x)) {s : σ} {xs : List ι} (h0 : I s)
    (hD : ∀ x ∈ xs, D x) : states f s xs = states g s xs ↔ ∀ x ∈ xs, C x := by
  induction xs generalizing s with
  | nil => simp
  | cons x xs ih =>
    obtain ⟨hx, hxs⟩ := List.forall_mem_cons.mp hD
    rw [states_cons, states_cons, List.cons_eq_cons, List.forall_mem_cons, hexact s x h0 hx]
    refine and_congr_right fun hc => ?_
    rw [← (hexact s x h0 hx).mpr hc]
    exact ih (hstep s x h0 hx) hxs

/-- Recurrences that give the same states lead to the same one. -/
lemma foldl_eq_of_states_eq {s : σ} {xs : List ι} (h : states f s xs = states g s xs) :
    xs.foldl f s = xs.foldl g s := by
  induction xs generalizing s with
  | nil => rfl
  | cons x xs ih =>
    rw [states_cons, states_cons, List.cons_eq_cons] at h
    rw [List.foldl_cons, List.foldl_cons, ← h.1]
    rw [← h.1] at h
    exact ih h.2

/-! ## Outputs -/

variable {ω : Type*}

/-- The last state and the outputs of a stream, for a step that gives an output. -/
def run (f : σ → ι → σ × ω) : σ → List ι → σ × List ω
  | s, [] => (s, [])
  | s, x :: xs => ((run f (f s x).1 xs).1, (f s x).2 :: (run f (f s x).1 xs).2)

/-- **The simulation rule for two runs**: related states and inputs give related outputs, and states
that are related again. -/
theorem run_related {τ κ υ : Type*} {f : σ → ι → σ × ω} {g : τ → κ → τ × υ} {R : σ → τ → Prop}
    {C : ι → κ → Prop} {S : ω → υ → Prop}
    (hstep : ∀ s t x y, R s t → C x y → R (f s x).1 (g t y).1 ∧ S (f s x).2 (g t y).2) {s : σ}
    {t : τ} (h0 : R s t) {xs : List ι} {ys : List κ} (hC : List.Forall₂ C xs ys) :
    R (run f s xs).1 (run g t ys).1 ∧ List.Forall₂ S (run f s xs).2 (run g t ys).2 := by
  induction hC generalizing s t with
  | nil => exact ⟨h0, .nil⟩
  | cons hx _ ih =>
    obtain ⟨hstate, houtput⟩ := hstep s t _ _ h0 hx
    exact ⟨(ih hstate).1, .cons houtput (ih hstate).2⟩

/-- **The rule for two runs**: if related states give the same output for an input, and are related
again afterwards, they give the same outputs for a stream. -/
theorem run_snd_eq_of_related {f : σ → ι → σ × ω} {R : σ → σ → Prop}
    (hstep : ∀ s t x, R s t → R (f s x).1 (f t x).1 ∧ (f s x).2 = (f t x).2) {s t : σ}
    (h0 : R s t) (xs : List ι) : (run f s xs).2 = (run f t xs).2 := by
  induction xs generalizing s t with
  | nil => rfl
  | cons x xs ih =>
    obtain ⟨hrelated, houtput⟩ := hstep s t x h0
    rw [run, run, houtput, ih hrelated]

/-! ## Equivariance -/

section Equivariance

variable {τ κ υ : Type*} {φ : σ → τ} {ψ : ι → κ} {χ : ω → υ}

/-- Maps of states and inputs that commute with one step commute with the states of a stream. -/
theorem states_equivariant {g : τ → κ → τ} (h : ∀ s x, g (φ s) (ψ x) = φ (f s x)) (s : σ)
    (xs : List ι) : states g (φ s) (xs.map ψ) = (states f s xs).map φ := by
  induction xs generalizing s with
  | nil => rfl
  | cons x xs ih => rw [List.map_cons, states_cons, states_cons, List.map_cons, h, ih]

/-- And with the last of them. -/
theorem foldl_equivariant {g : τ → κ → τ} (h : ∀ s x, g (φ s) (ψ x) = φ (f s x)) (s : σ)
    (xs : List ι) : (xs.map ψ).foldl g (φ s) = φ (xs.foldl f s) := by
  rw [List.foldl_map]
  exact List.foldl_hom φ h

/-- **The rule for steps that give outputs**: maps of the states, the inputs and the outputs that
commute with a step commute with a stream. -/
theorem run_equivariant {f : σ → ι → σ × ω} {g : τ → κ → τ × υ}
    (hstep : ∀ s x, g (φ s) (ψ x) = (φ (f s x).1, χ (f s x).2)) (s : σ) (xs : List ι) :
    run g (φ s) (xs.map ψ) = (φ (run f s xs).1, (run f s xs).2.map χ) := by
  induction xs generalizing s with
  | nil => rfl
  | cons x xs ih => rw [List.map_cons, run, run, hstep, ih, List.map_cons]

end Equivariance

end Scan
