import Mathlib.Data.List.Basic
import Mathlib.Logic.Basic

set_option relaxedAutoImplicit false
set_option autoImplicit false

/-!
# Runs of partial transition systems

A system is a partial step function `step : σ → ε → Option σ`: in state `s` the event `e`
either cannot happen (`none`) or leads to one successor. A run is a list of events. The file
has the two predicates that safety statements about runs need, and the rules that derive them
from facts about one step.

## Main definitions

* `Transition.exec` — the state a run leads to, if all its events can happen.
* `Transition.Always` — a property holds in every state a run visits.
* `Transition.StepsMeet` — every step a run takes meets a condition on the state before it
  and the event.

## Main results

* `Transition.always_of_stepsMeet` — an invariant that is preserved by the steps meeting a
  condition holds along every run whose steps all meet it.
* `Transition.stepsMeet_iff_of_stepsMeet`, `Transition.stepsMeet_iff_of_invariant` — two conditions
  on steps that an invariant makes equivalent.
* `Transition.always_iff_stepsMeet_of_stepsMeet`, `Transition.always_iff_stepsMeet` — the exact
  form: if a step keeps the property precisely when it meets the condition, the property holds
  along a run precisely when all its steps meet the condition.
* `Transition.exec_map`, `Transition.StepsMeet.of_map` — runs of an abstraction of the system.
-/

namespace Transition

variable {σ ε : Type*} (step : σ → ε → Option σ)

/-- The state reached from `s` by the events of a run, in order. -/
def exec : σ → List ε → Option σ
  | s, [] => some s
  | s, e :: es => (step s e).bind fun s' => exec s' es

/-- `P` holds in every state that the run visits, the first one included. -/
def Always (P : σ → Prop) : σ → List ε → Prop
  | s, [] => P s
  | s, e :: es => P s ∧ ∀ s', step s e = some s' → Always P s' es

/-- Every step that the run takes meets the condition `C` on the state before the step and the
event. -/
def StepsMeet (C : σ → ε → Prop) : σ → List ε → Prop
  | _, [] => True
  | s, e :: es => ∀ s', step s e = some s' → C s e ∧ StepsMeet C s' es

variable {step}

/-! ## Running -/

@[simp] lemma exec_nil (s : σ) : exec step s [] = some s := rfl

lemma exec_cons (s : σ) (e : ε) (es : List ε) :
    exec step s (e :: es) = (step s e).bind fun s' => exec step s' es := rfl

/-- The first step of a run that can be taken. -/
lemma exec_cons_of_step {s s' : σ} {e : ε} (h : step s e = some s') (es : List ε) :
    exec step s (e :: es) = exec step s' es := by
  rw [exec_cons, h, Option.bind_some]

/-- A nonempty run splits into its first step and the rest. -/
lemma exec_cons_eq_some {s t : σ} {e : ε} {es : List ε} :
    exec step s (e :: es) = some t ↔ ∃ s', step s e = some s' ∧ exec step s' es = some t := by
  rw [exec_cons, Option.bind_eq_some_iff]

/-- Runs compose. -/
lemma exec_append (s : σ) (es es' : List ε) :
    exec step s (es ++ es') = (exec step s es).bind fun t => exec step t es' := by
  induction es generalizing s with
  | nil => simp
  | cons e es ih =>
    rw [List.cons_append, exec_cons, exec_cons, Option.bind_assoc]
    congr 1
    funext s'
    exact ih s'

/-- A run goes on from the state that its first part leads to. -/
lemma exec_append_of_exec {s t : σ} {es : List ε} (h : exec step s es = some t) (es' : List ε) :
    exec step s (es ++ es') = exec step t es' := by
  rw [exec_append, h, Option.bind_some]

/-! ## Properties along a run -/

/-- A property that holds along a run holds in its first state. -/
lemma Always.first {P : σ → Prop} {s : σ} {es : List ε} (h : Always step P s es) : P s := by
  cases es with
  | nil => exact h
  | cons e es => exact h.1

/-- A property that holds along a run holds in the state it leads to. -/
lemma Always.last {P : σ → Prop} {s t : σ} {es : List ε} (h : Always step P s es)
    (he : exec step s es = some t) : P t := by
  induction es generalizing s with
  | nil => exact Option.some.inj he ▸ h
  | cons e es ih =>
    obtain ⟨s', hs, he⟩ := exec_cons_eq_some.mp he
    exact ih (h.2 s' hs) he

/-- A weaker property holds along a run where a stronger one does. -/
lemma Always.mono {P Q : σ → Prop} (hPQ : ∀ s, P s → Q s) {s : σ} {es : List ε}
    (h : Always step P s es) : Always step Q s es := by
  induction es generalizing s with
  | nil => exact hPQ s h
  | cons e es ih => exact ⟨hPQ s h.1, fun s' hs => ih (h.2 s' hs)⟩

/-- Two properties that hold along a run hold together. -/
lemma Always.and {P Q : σ → Prop} {s : σ} {es : List ε} (hP : Always step P s es)
    (hQ : Always step Q s es) : Always step (fun s => P s ∧ Q s) s es := by
  induction es generalizing s with
  | nil => exact ⟨hP, hQ⟩
  | cons e es ih => exact ⟨⟨hP.1, hQ.1⟩, fun s' hs => ih (hP.2 s' hs) (hQ.2 s' hs)⟩

/-- A condition met along a run is met by every step taken in it. -/
lemma StepsMeet.head {C : σ → ε → Prop} {s s' : σ} {e : ε} {es : List ε}
    (h : StepsMeet step C s (e :: es)) (hs : step s e = some s') :
    C s e ∧ StepsMeet step C s' es := h s' hs

/-- A condition met along a run is met by a step in the middle of it. -/
lemma StepsMeet.middle {C : σ → ε → Prop} {s t t' : σ} {e : ε} {es es' : List ε}
    (h : StepsMeet step C s (es ++ e :: es')) (he : exec step s es = some t)
    (hs : step t e = some t') : C t e := by
  induction es generalizing s with
  | nil =>
    obtain rfl := Option.some.inj he
    exact (h.head hs).1
  | cons e' es ih =>
    obtain ⟨s', hs', he⟩ := exec_cons_eq_some.mp he
    exact ih (h.head hs').2 he

/-- A condition met along a run and along one that goes on from where it leads to. -/
lemma StepsMeet.append {C : σ → ε → Prop} {s t : σ} {es es' : List ε} (h : StepsMeet step C s es)
    (he : exec step s es = some t) (h' : StepsMeet step C t es') :
    StepsMeet step C s (es ++ es') := by
  induction es generalizing s with
  | nil =>
    obtain rfl := Option.some.inj he
    exact h'
  | cons e es ih =>
    intro s' hs
    obtain ⟨hc, hrest⟩ := h.head hs
    rw [exec_cons_of_step hs] at he
    exact ⟨hc, ih hrest he⟩

/-- A weaker condition is met along a run where a stronger one is. -/
lemma StepsMeet.mono {C D : σ → ε → Prop} (hCD : ∀ s e, C s e → D s e) {s : σ} {es : List ε}
    (h : StepsMeet step C s es) : StepsMeet step D s es := by
  induction es generalizing s with
  | nil => trivial
  | cons e es ih => exact fun s' hs => ⟨hCD s e (h s' hs).1, ih (h s' hs).2⟩

/-- Two conditions met along a run are met together. -/
lemma StepsMeet.and {C D : σ → ε → Prop} {s : σ} {es : List ε}
    (hC : StepsMeet step C s es) (hD : StepsMeet step D s es) :
    StepsMeet step (fun s e => C s e ∧ D s e) s es := by
  induction es generalizing s with
  | nil => trivial
  | cons e es ih =>
    intro s' hs
    exact ⟨⟨(hC s' hs).1, (hD s' hs).1⟩, ih (hC s' hs).2 (hD s' hs).2⟩

/-- A condition that the steps meeting another one from states with `P` meet, along a run of such
states. -/
lemma StepsMeet.of_always {P : σ → Prop} {C D : σ → ε → Prop} {s : σ} {es : List ε}
    (hC : StepsMeet step C s es) (hP : Always step P s es)
    (hstep : ∀ s e, P s → C s e → D s e) : StepsMeet step D s es := by
  induction es generalizing s with
  | nil => trivial
  | cons e es ih =>
    intro s' hs
    obtain ⟨hc, hrest⟩ := hC.head hs
    exact ⟨hstep s e hP.1 hc, ih hrest (hP.2 s' hs)⟩

/-- A condition on the events alone, met by every event of a run, is met along it. -/
lemma stepsMeet_of_forall {C : ε → Prop} (s : σ) {es : List ε} (h : ∀ e ∈ es, C e) :
    StepsMeet step (fun _ e => C e) s es := by
  induction es generalizing s with
  | nil => trivial
  | cons e es ih =>
    exact fun s' _ => ⟨h e (by simp), ih s' fun e' he' => h e' (by simp [he'])⟩

/-! ## Rules -/

/-- **The invariant rule with a condition on steps.** If `I` holds at the start and every step
that meets `C` keeps it, then `I` holds along every run whose steps all meet `C`. -/
theorem always_of_stepsMeet {I : σ → Prop} {C : σ → ε → Prop}
    (hstep : ∀ s e s', I s → C s e → step s e = some s' → I s') {s : σ} {es : List ε}
    (h0 : I s) (hC : StepsMeet step C s es) : Always step I s es := by
  induction es generalizing s with
  | nil => exact h0
  | cons e es ih =>
    refine ⟨h0, fun s' hs => ?_⟩
    obtain ⟨hc, hrest⟩ := hC.head hs
    exact ih (hstep s e s' h0 hc hs) hrest

/-- **The invariant rule.** An invariant that every step keeps holds along every run. -/
theorem always_of_invariant {I : σ → Prop}
    (hstep : ∀ s e s', I s → step s e = some s' → I s') {s : σ} (es : List ε) (h0 : I s) :
    Always step I s es :=
  always_of_stepsMeet (C := fun _ _ => True) (fun s e s' hI _ hs => hstep s e s' hI hs) h0
    (stepsMeet_of_forall s fun _ _ => trivial)

/-- An invariant that every step keeps holds in the state a run leads to. -/
theorem exec_invariant {I : σ → Prop}
    (hstep : ∀ s e s', I s → step s e = some s' → I s') {s t : σ} {es : List ε} (h0 : I s)
    (he : exec step s es = some t) : I t :=
  (always_of_invariant hstep es h0).last he

/-- A condition that every step between two states with `P` meets is met along a run of such
states. -/
theorem stepsMeet_of_always {P : σ → Prop} {C : σ → ε → Prop}
    (hstep : ∀ s e s', P s → P s' → step s e = some s' → C s e) {s : σ} {es : List ε}
    (h : Always step P s es) : StepsMeet step C s es := by
  induction es generalizing s with
  | nil => trivial
  | cons e es ih =>
    intro s' hs
    have hrest := h.2 s' hs
    exact ⟨hstep s e s' h.first hrest.first hs, ih hrest⟩

/-- **The rule for two conditions on steps**: where they are equivalent as long as an invariant
holds, and the steps that meet them keep the invariant, they are met along the same runs. -/
theorem stepsMeet_iff_of_stepsMeet {I : σ → Prop} {C C' D : σ → ε → Prop}
    (hstep : ∀ s e s', I s → D s e → C' s e → step s e = some s' → I s')
    (hiff : ∀ s e, I s → D s e → (C s e ↔ C' s e)) {s : σ} {es : List ε} (h0 : I s)
    (hD : StepsMeet step D s es) : StepsMeet step C s es ↔ StepsMeet step C' s es := by
  induction es generalizing s with
  | nil => exact Iff.rfl
  | cons e es ih =>
    refine forall_congr' fun s' => imp_congr_right fun hs => ?_
    obtain ⟨hd, hrest⟩ := hD.head hs
    rw [hiff s e h0 hd]
    exact and_congr_right fun hc => ih (hstep s e s' h0 hd hc hs) hrest

/-- The same rule for an invariant that all steps keep. -/
theorem stepsMeet_iff_of_invariant {I : σ → Prop} {C C' D : σ → ε → Prop}
    (hstep : ∀ s e s', I s → D s e → step s e = some s' → I s')
    (hiff : ∀ s e, I s → D s e → (C s e ↔ C' s e)) {s : σ} {es : List ε} (h0 : I s)
    (hD : StepsMeet step D s es) : StepsMeet step C s es ↔ StepsMeet step C' s es :=
  stepsMeet_iff_of_stepsMeet (fun s e s' hI hd _ hs => hstep s e s' hI hd hs) hiff h0 hD

/-- **The exactness rule under a side condition.** Let all steps of a run meet `D`. Among the
steps that do, let `I` be preserved by those meeting `C`, let it imply `P`, and let a step from a
state with `I` that ends in a state with `P` have met `C`. Then from a state with `I`, the
property `P` holds along the run if and only if all its steps meet `C`.

**Proof sketch.** Induction on the run. From left to right, the state after the first step has
`P`, so the step met `C`, so that state has `I` again and the induction hypothesis applies to
the rest. From right to left it is `always_of_stepsMeet`. -/
theorem always_iff_stepsMeet_of_stepsMeet {I P : σ → Prop} {C D : σ → ε → Prop}
    (hP : ∀ s, I s → P s)
    (hstep : ∀ s e s', I s → D s e → C s e → step s e = some s' → I s')
    (hexact : ∀ s e s', I s → D s e → step s e = some s' → P s' → C s e) {s : σ} {es : List ε}
    (h0 : I s) (hD : StepsMeet step D s es) : Always step P s es ↔ StepsMeet step C s es := by
  constructor
  · intro h
    induction es generalizing s with
    | nil => trivial
    | cons e es ih =>
      intro s' hs
      obtain ⟨hd, hrest⟩ := hD.head hs
      have hc : C s e := hexact s e s' h0 hd hs (h.2 s' hs).first
      exact ⟨hc, ih (hstep s e s' h0 hd hc hs) hrest (h.2 s' hs)⟩
  · intro hC
    exact (always_of_stepsMeet (fun s e s' h hdc hs => hstep s e s' h hdc.1 hdc.2 hs) h0
      (hD.and hC)).mono hP

/-- **The exactness rule.** Let `I` be preserved by the steps meeting `C`, and let it imply
`P`; and let a step from a state with `I` that ends in a state with `P` have met `C`. Then
from a state with `I`, the property `P` holds along a run if and only if all steps of the run
meet `C`. -/
theorem always_iff_stepsMeet {I P : σ → Prop} {C : σ → ε → Prop} (hP : ∀ s, I s → P s)
    (hstep : ∀ s e s', I s → C s e → step s e = some s' → I s')
    (hexact : ∀ s e s', I s → step s e = some s' → P s' → C s e) {s : σ} (es : List ε)
    (h0 : I s) : Always step P s es ↔ StepsMeet step C s es :=
  always_iff_stepsMeet_of_stepsMeet (D := fun _ _ => True) hP
    (fun s e s' h _ hc hs => hstep s e s' h hc hs)
    (fun s e s' h _ hs hp => hexact s e s' h hs hp) h0 (stepsMeet_of_forall s fun _ _ => trivial)

/-! ## Abstractions -/

section Abstraction

variable {τ δ : Type*} {step' : τ → δ → Option τ} {f : σ → τ} {g : ε → δ} {I : σ → Prop}
  {D : ε → Prop}

/-- **Runs of an abstraction.** Let `f` and `g` take the steps of the events with `D` from states
with the invariant `I` to the steps of another system. Then they take runs to runs. -/
theorem exec_map (hI : ∀ s e s', I s → D e → step s e = some s' → I s')
    (hf : ∀ s e, I s → D e → (step s e).map f = step' (f s) (g e)) {s : σ} (h0 : I s)
    {es : List ε} (hD : ∀ e ∈ es, D e) :
    (exec step s es).map f = exec step' (f s) (es.map g) := by
  induction es generalizing s with
  | nil => rfl
  | cons e es ih =>
    obtain ⟨he, hrest⟩ := List.forall_mem_cons.mp hD
    have hstep := hf s e h0 he
    rw [List.map_cons, exec_cons, exec_cons, ← hstep]
    cases hs : step s e with
    | none => rfl
    | some s' => simpa using ih (hI s e s' h0 he hs) hrest

/-- A run that the abstraction can take can be taken. -/
theorem exists_exec_of_map (hI : ∀ s e s', I s → D e → step s e = some s' → I s')
    (hf : ∀ s e, I s → D e → (step s e).map f = step' (f s) (g e)) {s : σ} (h0 : I s)
    {es : List ε} (hD : ∀ e ∈ es, D e) {t : τ} (ht : exec step' (f s) (es.map g) = some t) :
    ∃ s', exec step s es = some s' ∧ f s' = t :=
  Option.map_eq_some_iff.mp ((exec_map hI hf h0 hD).trans ht)

/-- A condition that the abstraction meets along a run is met along the run itself. -/
theorem StepsMeet.of_map (hI : ∀ s e s', I s → D e → step s e = some s' → I s')
    (hf : ∀ s e, I s → D e → (step s e).map f = step' (f s) (g e)) {C : σ → ε → Prop}
    {C' : τ → δ → Prop}
    (hC : ∀ s e s', I s → D e → step s e = some s' → C' (f s) (g e) → C s e) {s : σ}
    (h0 : I s) {es : List ε} (hD : ∀ e ∈ es, D e) (h : StepsMeet step' C' (f s) (es.map g)) :
    StepsMeet step C s es := by
  induction es generalizing s with
  | nil => trivial
  | cons e es ih =>
    intro s' hs
    obtain ⟨he, hrest⟩ := List.forall_mem_cons.mp hD
    have hstep := hf s e h0 he
    rw [hs, Option.map_some] at hstep
    obtain ⟨hc, htail⟩ := h (f s') hstep.symm
    exact ⟨hC s e s' h0 he hs hc, ih (hI s e s' h0 he hs) hrest htail⟩

end Abstraction

/-- Along a run of a computable system a decidable condition can be decided. -/
instance StepsMeet.decidable {C : σ → ε → Prop} [∀ s e, Decidable (C s e)] :
    ∀ (s : σ) (es : List ε), Decidable (StepsMeet step C s es)
  | _, [] => .isTrue trivial
  | s, e :: es =>
    match h : step s e with
    | none => .isTrue fun s' hs => by rw [h] at hs; cases hs
    | some s' =>
      have : Decidable (StepsMeet step C s' es) := StepsMeet.decidable s' es
      decidable_of_iff (C s e ∧ StepsMeet step C s' es)
        ⟨fun hc _ hs => by rw [h] at hs; cases hs; exact hc, fun hc => hc s' h⟩

end Transition
