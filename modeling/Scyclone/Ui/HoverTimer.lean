import Scyclone.Lib.Transition
import Scyclone.Plugin.PluginParameters
import Mathlib.Logic.Function.Basic

set_option relaxedAutoImplicit false
set_option autoImplicit false

/-!
# The timer that hides the arrows

The arrow and the buttons of a knob are shown while the mouse is over the knob or over one of them.
`mouseExit` starts a timer of 20 ticks a second that is to hide them after 4 seconds, and
`mouseEnter` stops it. The ticks are counted by `timerCounter`, which only the tick that completes
the count sets back: a timer that is stopped and started again goes on counting from where it was.

## Main definitions

* `XYPad.Hover` with `mouseEnter`, `mouseExit`, `timerCallback` — the handlers.
* `XYPad.Hover.History` — the state, with what happened since the last `mouseExit`.
* `XYPad.Hover.History.HidesInTime`, `XYPad.Hover.History.CountsFromZero` — the property and the
  condition.

## Main results

* `XYPad.Hover.History.Inv.step` — the counter is what the last `mouseExit` found and the ticks
  since.
* `arrows_hidden_in_time_iff` — the runs.
-/

namespace XYPad

/-- The components that mouse events come from. -/
inductive Component
  | knob (k : NetworkId)
  | label (k : NetworkId)
  | arrow (k : NetworkId)
  | networkSelectButton (k : NetworkId)
  | networkGrainButton (k : NetworkId)
  | networkOnOffButton (k : NetworkId)
  | other

/-- The network that a component belongs to. -/
def Component.network? : Component → Option NetworkId
  | .knob k | .label k | .arrow k | .networkSelectButton k | .networkGrainButton k
  | .networkOnOffButton k => some k
  | .other => none

/-- `isButton1OnHover`. -/
def isButton1OnHover (e : Component) : Bool := e.network? == some .network1

/-- `isButton2OnHover`. -/
def isButton2OnHover (e : Component) : Bool := e.network? == some .network2

/-- The state of the handlers. -/
structure Hover where
  timerRunning : Bool
  timerCounter : ℕ
  knobOnHover : Option NetworkId
  /-- Whether the arrow and the buttons of a network are shown. -/
  visible : NetworkId → Bool

namespace Hover

/-- The pad as it is constructed. -/
def construct : Hover := ⟨false, 0, none, fun _ => false⟩

/-- `setArrowAndButtonsVisible`. -/
def setArrowAndButtonsVisible (h : Hover) (newState : Bool) (k : NetworkId) : Hover :=
  { h with visible := Function.update h.visible k newState }

/-- `stopTimer`. -/
def stopTimer (h : Hover) : Hover := { h with timerRunning := false }

/-- `startTimerHz (20)`. -/
def startTimer (h : Hover) : Hover := { h with timerRunning := true }

/-- `mouseEnter`. -/
def mouseEnter (h : Hover) (e : Component) : Hover :=
  if isButton1OnHover e then
    let h := h.stopTimer
    let h := h.setArrowAndButtonsVisible true .network1
    let h := h.setArrowAndButtonsVisible false .network2
    { h with knobOnHover := some .network1 }
  else if isButton2OnHover e then
    let h := h.stopTimer
    let h := h.setArrowAndButtonsVisible true .network2
    let h := h.setArrowAndButtonsVisible false .network1
    { h with knobOnHover := some .network2 }
  else h

/-- `mouseExit`. -/
def mouseExit (h : Hover) : Hover := h.startTimer

/-- `timerCallback`. -/
def timerCallback (h : Hover) : Hover :=
  let h := { h with timerCounter := h.timerCounter + 1 }
  if h.timerCounter = 20 * 4 then
    let h := match h.knobOnHover with
      | some k => h.setArrowAndButtonsVisible false k
      | none => h
    { h.stopTimer with knobOnHover := none, timerCounter := 0 }
  else h

/-! ## A run -/

/-- The events that the handlers are called for. -/
inductive Event
  | mouseEnter (e : Component)
  | mouseExit
  | timerCallback

/-- The state, with what happened since the last `mouseExit`. -/
structure History where
  pad : Hover
  /-- The mouse has left a component. -/
  exited : Bool
  /-- The ticks since the mouse last left one. -/
  ticks : ℕ
  /-- The mouse has entered the group of a knob since. -/
  entered : Bool
  /-- The count that the last `mouseExit` found. -/
  found : ℕ

namespace History

/-- The pad as it is constructed. -/
def start : History := ⟨construct, false, 0, false, 0⟩

/-- One event. A tick comes while the timer is running. -/
def step (s : History) : Event → Option History
  | .mouseEnter e =>
    some { s with pad := s.pad.mouseEnter e, entered := s.entered || e.network?.isSome }
  | .mouseExit => some ⟨s.pad.mouseExit, true, 0, false, s.pad.timerCounter⟩
  | .timerCallback =>
    if s.pad.timerRunning then some { s with pad := s.pad.timerCallback, ticks := s.ticks + 1 }
    else none

/-- A tick hides the arrow and the buttons of a knob only if it is at least the 80th since the mouse
last left a component, and the mouse has not entered the group of a knob since. -/
def HidesInTime (s : History) : Event → Prop
  | .timerCallback => ∀ k, s.pad.visible k = true → s.pad.timerCallback.visible k = false →
    s.exited = true ∧ 80 ≤ s.ticks + 1 ∧ s.entered = false
  | .mouseEnter _ | .mouseExit => True

/-- A tick that completes the count while a knob is hovered over is of a timer whose count was 0
when the mouse last left a component. -/
def CountsFromZero (s : History) : Event → Prop
  | .timerCallback => s.pad.timerCounter + 1 = 80 → s.pad.knobOnHover ≠ none → s.found = 0
  | .mouseEnter _ | .mouseExit => True

/-- A running timer has counted the ticks since the mouse last left a component, from the count
found then; and what is shown belongs to the knob hovered over. -/
structure Inv (s : History) : Prop where
  running : s.pad.timerRunning = true →
    s.exited = true ∧ s.entered = false ∧ s.pad.timerCounter = s.found + s.ticks
  visible_iff : ∀ k, s.pad.visible k = true ↔ s.pad.knobOnHover = some k

lemma inv_start : start.Inv where
  running h := by cases h
  visible_iff k := ⟨fun h => (by cases h), fun h => (by cases h)⟩

end History

/-! ## The handlers -/

/-- The mouse enters the group of a knob: the timer stops, and the knob is the one shown. -/
lemma mouseEnter_of_network (h : Hover) {e : Component} {k : NetworkId} (he : e.network? = some k) :
    (h.mouseEnter e).timerRunning = false ∧ (h.mouseEnter e).timerCounter = h.timerCounter ∧
      (h.mouseEnter e).knobOnHover = some k ∧
      ∀ d, (h.mouseEnter e).visible d = true ↔ d = k := by
  unfold mouseEnter isButton1OnHover isButton2OnHover
  rw [he]
  cases k with
  | network1 => exact ⟨rfl, rfl, rfl, fun d => by cases d <;> simp [setArrowAndButtonsVisible]⟩
  | network2 => exact ⟨rfl, rfl, rfl, fun d => by cases d <;> simp [setArrowAndButtonsVisible]⟩

/-- The mouse enters a component elsewhere: nothing changes. -/
lemma mouseEnter_of_other (h : Hover) {e : Component} (he : e.network? = none) :
    h.mouseEnter e = h := by
  unfold mouseEnter isButton1OnHover isButton2OnHover
  rw [he]
  rfl

/-- A tick that does not complete the count. -/
lemma timerCallback_of_ne {h : Hover} (hne : h.timerCounter + 1 ≠ 80) :
    h.timerCallback = { h with timerCounter := h.timerCounter + 1 } := if_neg hne

/-- The tick that completes the count hides what belongs to the knob hovered over. -/
lemma timerCallback_of_eq {h : Hover} (heq : h.timerCounter + 1 = 80) :
    h.timerCallback.timerRunning = false ∧ h.timerCallback.knobOnHover = none ∧
      ∀ k, h.timerCallback.visible k = if h.knobOnHover = some k then false else h.visible k := by
  have hcount : h.timerCounter + 1 = 20 * 4 := heq
  unfold timerCallback
  dsimp only
  rw [if_pos hcount]
  refine ⟨rfl, rfl, fun k => ?_⟩
  cases hover : h.knobOnHover with
  | none => rfl
  | some d =>
    show Function.update h.visible d false k = _
    by_cases hk : k = d
    · subst hk
      rw [Function.update_self, if_pos rfl]
    · rw [Function.update_of_ne hk, if_neg fun heq => hk (Option.some.inj heq).symm]

namespace History

/-! ## The runs -/

/-- The mouse enters a component: the group of a knob stops the timer, any other one changes
nothing. -/
lemma Inv.mouseEnter {s : History} (h : s.Inv) (e : Component) :
    Inv { s with pad := s.pad.mouseEnter e, entered := s.entered || e.network?.isSome } := by
  cases he : e.network? with
  | none =>
    rw [s.pad.mouseEnter_of_other he, Option.isSome_none, Bool.or_false]
    exact h
  | some k =>
    obtain ⟨hstop, -, hhover, hvisible⟩ := s.pad.mouseEnter_of_network he
    constructor
    · intro hrunning
      exact absurd (hstop.symm.trans hrunning) (by simp)
    · intro d
      show (s.pad.mouseEnter e).visible d = true ↔ (s.pad.mouseEnter e).knobOnHover = some d
      rw [hvisible, hhover, Option.some_inj, eq_comm]

/-- A tick counts, and the one that completes the count stops the timer and hides what is shown. -/
lemma Inv.timerCallback {s : History} (h : s.Inv) (hrunning : s.pad.timerRunning = true) :
    Inv { s with pad := s.pad.timerCallback, ticks := s.ticks + 1 } := by
  by_cases heq : s.pad.timerCounter + 1 = 80
  · obtain ⟨hstop, hhover, hvisible⟩ := timerCallback_of_eq heq
    constructor
    · intro hagain
      exact absurd (hstop.symm.trans hagain) (by simp)
    · intro k
      show s.pad.timerCallback.visible k = true ↔ s.pad.timerCallback.knobOnHover = some k
      rw [hvisible, hhover]
      by_cases hk : s.pad.knobOnHover = some k
      · rw [if_pos hk]
        simp
      · rw [if_neg hk, h.visible_iff]
        simp [hk]
  · obtain ⟨hexited, hentered, hcount⟩ := h.running hrunning
    rw [timerCallback_of_ne heq]
    refine ⟨fun _ => ⟨hexited, hentered, ?_⟩, h.visible_iff⟩
    show s.pad.timerCounter + 1 = s.found + (s.ticks + 1)
    omega

/-- A tick comes while the timer runs. -/
lemma step_timerCallback {s s' : History} (hs : s.step .timerCallback = some s') :
    s.pad.timerRunning = true ∧
      s' = { s with pad := s.pad.timerCallback, ticks := s.ticks + 1 } := by
  unfold step at hs
  split_ifs at hs with hrunning
  exact ⟨hrunning, (Option.some.inj hs).symm⟩

/-- **Every event keeps the count in step with the ticks.** -/
lemma Inv.step {s s' : History} {e : Event} (h : s.Inv) (hs : s.step e = some s') : s'.Inv := by
  cases e with
  | mouseEnter e =>
    obtain rfl := Option.some.inj hs
    exact h.mouseEnter e
  | mouseExit =>
    obtain rfl := Option.some.inj hs
    exact ⟨fun _ => ⟨rfl, rfl, rfl⟩, h.visible_iff⟩
  | timerCallback =>
    obtain ⟨hrunning, rfl⟩ := step_timerCallback hs
    exact h.timerCallback hrunning

/-- **A tick hides in time exactly if its timer counted from 0.**

**Proof sketch.** Only the tick that brings the counter to 80 hides an arrow, that of the knob last
hovered over. The counter is the ticks since the mouse has left, and what the timer found in it. -/
lemma Inv.hidesInTime_iff {s : History} {e : Event} (h : s.Inv) (hs : s.step e ≠ none) :
    s.HidesInTime e ↔ s.CountsFromZero e := by
  cases e with
  | mouseEnter _ | mouseExit => exact Iff.rfl
  | timerCallback =>
    obtain ⟨s', hs'⟩ := Option.ne_none_iff_exists'.mp hs
    have hrunning := (step_timerCallback hs').1
    obtain ⟨hexited, hentered, hcount⟩ := h.running hrunning
    by_cases heq : s.pad.timerCounter + 1 = 80
    · obtain ⟨-, -, hvisible⟩ := timerCallback_of_eq heq
      constructor
      · intro hhides _ hover
        obtain ⟨k, hk⟩ := Option.ne_none_iff_exists'.mp hover
        have hhidden : s.pad.timerCallback.visible k = false := by rw [hvisible, if_pos hk]
        have hticks := (hhides k ((h.visible_iff k).mpr hk) hhidden).2.1
        omega
      · intro hzero k hshown _
        have hover : s.pad.knobOnHover ≠ none := by
          rw [(h.visible_iff k).mp hshown]
          simp
        have hfound := hzero heq hover
        exact ⟨hexited, by omega, hentered⟩
    · refine iff_of_true (fun k hshown hhidden => ?_) (fun hdone => absurd hdone heq)
      rw [timerCallback_of_ne heq] at hhidden
      exact absurd (hshown.symm.trans hhidden) (by simp)

end History

end Hover

end XYPad

open XYPad.Hover in
/-- **When the arrows are hidden in time.** The mouse enters and leaves components, and the timer
ticks while it runs, in any order. Every tick that hides the arrow and the buttons of a knob is at
least the 80th since the mouse last left a component, with no entering of the group of a knob since,
exactly if every tick that completes the count while a knob is hovered over is of a timer that
counted from 0 when the mouse last left a component.

**Proof sketch.** While the timer runs, `timerCounter` is the count that the last `mouseExit` found
and the ticks since, and the mouse has not entered a group since: that would have stopped the
timer. -/
theorem arrows_hidden_in_time_iff (es : List Event) :
    Transition.StepsMeet History.step History.HidesInTime History.start es ↔
      Transition.StepsMeet History.step History.CountsFromZero History.start es := by
  have hsteps :
      Transition.StepsMeet History.step (fun s e => s.step e ≠ none) History.start es := by
    refine Transition.stepsMeet_of_always (P := fun _ => True) (fun s e s' _ _ hs => ?_)
      (Transition.always_of_invariant (fun _ _ _ _ _ => trivial) es trivial)
    rw [hs]
    simp
  exact Transition.stepsMeet_iff_of_invariant (fun _ _ _ h _ hs => h.step hs)
    (fun _ _ h hs => h.hidesInTime_iff hs) History.inv_start hsteps

open XYPad.Hover in
/-- The mouse leaves the pad and after 2 seconds enters the first knob and leaves it again. After
another 2 seconds the timer hides the arrow of the knob.

**Proof sketch.** The state before the last tick is computed; the last tick hides the arrow 39 ticks
after the mouse has left the knob. -/
theorem arrow_hidden_early :
    ¬ Transition.StepsMeet History.step History.HidesInTime History.start
      (.mouseExit :: List.replicate 40 .timerCallback ++
        .mouseEnter (.knob .network1) :: .mouseExit :: List.replicate 40 .timerCallback) := by
  intro h
  have hstate : (Transition.exec History.step History.start
      (.mouseExit :: List.replicate 40 .timerCallback ++
        .mouseEnter (.knob .network1) :: .mouseExit :: List.replicate 39 .timerCallback)).map
      (fun t => (t.pad.timerRunning, t.pad.timerCounter, t.pad.knobOnHover,
        t.pad.visible .network1, t.ticks)) =
      some (true, 79, some .network1, true, 39) := by decide +kernel
  obtain ⟨t, ht, hfields⟩ := Option.map_eq_some_iff.mp hstate
  simp only [Prod.mk.injEq] at hfields
  obtain ⟨hrunning, hcounter, hover, hshown, hticks⟩ := hfields
  have hstep : t.step .timerCallback =
      some { t with pad := t.pad.timerCallback, ticks := t.ticks + 1 } := if_pos hrunning
  have hrun : Transition.StepsMeet History.step History.HidesInTime History.start
      ((.mouseExit :: List.replicate 40 .timerCallback ++
        .mouseEnter (.knob .network1) :: .mouseExit :: List.replicate 39 .timerCallback) ++
          [.timerCallback]) := h
  have hlast := hrun.middle ht hstep
  have hhidden : t.pad.timerCallback.visible .network1 = false := by
    rw [(timerCallback_of_eq (by omega)).2.2, if_pos hover]
  have hlate := (hlast .network1 hshown hhidden).2.1
  omega
