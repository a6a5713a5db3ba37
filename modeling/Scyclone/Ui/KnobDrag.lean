import Scyclone.Ui.HoverTimer
import Scyclone.Ui.KnobPlacement

set_option relaxedAutoImplicit false
set_option autoImplicit false

/-!
# Dragging a knob

`mouseDown`, `mouseDrag` and `mouseUp` of `source/ui/CustomComponents/XYPad/XYPad.cpp`. While a knob
is dragged its two parameters follow the mouse, as part of a gesture that the host is told about: it
records the values of a parameter between `beginGesture` and `endGesture`. The values are snapped to
thousandths on their way, and `moveButton` turns them back into pixels.

## Main definitions

* `ParameterAttachment` — how JUCE sets a parameter in a gesture.
* `XYPad.pixelToNormWidth`, `XYPad.pixelToNormHeight` — the values.
* `XYPad.Drag` with `mouseDown`, `mouseDrag`, `mouseUp` — the handlers, and what they tell the host.
* `XYPad.Host.step` — a host that refuses a message outside of its gesture.
* `XYPad.Drag.History` — a pad in use.

## Main results

* `XYPad.toInt_snapToLegalValue` — a pixel survives the way through a value.
* `gestures_closed_iff` — when the gestures are begun and ended in turn.
* `knob_follows_mouse` — where a knob is after a drag.
-/

/-! ## Attachments -/

/-- How `juce::ParameterAttachment` sets a parameter in a gesture. -/
structure ParameterAttachment where
  /-- `NormalisableRange::snapToLegalValue`, which a value passes on its way. -/
  snapToLegalValue : NormalisableRange → ℚ → ℚ
  /-- A value within the range is snapped to one at most half an interval away. -/
  abs_snapToLegalValue_sub_le : ∀ (range : NormalisableRange) (v : ℚ), 0 < range.interval →
    range.rangeStart ≤ v → v ≤ range.rangeEnd →
    |snapToLegalValue range v - v| ≤ range.interval / 2
  /-- Whether the host hears about a value, given the current one. -/
  informs : ℚ → ℚ → Bool

/-- The steps of the range are counted from its start, and the host hears about changes. -/
def ParameterAttachment.toSteps : ParameterAttachment where
  snapToLegalValue range v :=
    range.rangeStart +
      range.interval * (⌊(v - range.rangeStart) / range.interval + 1 / 2⌋ : ℚ)
  abs_snapToLegalValue_sub_le range v hinterval hstart hend := by
    set steps := (v - range.rangeStart) / range.interval
    have hsteps : range.interval * steps = v - range.rangeStart := mul_div_cancel₀ _ hinterval.ne'
    have hbelow := mul_le_mul_of_nonneg_left (Int.floor_le (steps + 1 / 2)) hinterval.le
    have habove := mul_le_mul_of_nonneg_left (Int.lt_floor_add_one (steps + 1 / 2)).le hinterval.le
    rw [abs_le]
    constructor <;> linarith
  informs current v := decide (v ≠ current)

namespace XYPad

/-- `pixelToNormWidth`. -/
def pixelToNormWidth (size : Size) (pixelValue : ℤ) : ℚ := pixelValue / size.width

/-- `pixelToNormHeight`. -/
def pixelToNormHeight (size : Size) (pixelValue : ℤ) : ℚ :=
  (size.height - pixelValue) / size.height

/-- **A pixel survives the way through a value** that is snapped to thousandths, on a pad with fewer
than 1000 of them.

**Proof sketch.** Snapping moves the value by at most half a thousandth, which is less than half a
pixel on such a pad, so that rounding finds the pixel again. -/
lemma toInt_snapToLegalValue (j : ParameterAttachment) (r : Rounding) {n size : ℤ} (hn : 0 ≤ n)
    (hle : n ≤ size) (hpos : 0 < size) (hsize : size < 1000) {snapped : ℚ}
    (hsnapped : snapped = j.snapToLegalValue ⟨-1, 1, 1 / 1000⟩ (n / size)) :
    |snapped - n / size| ≤ 1 / 2000 ∧ r.toInt (snapped * size) = n := by
  have hpos' : (0 : ℚ) < size := Int.cast_pos.mpr hpos
  have hn' : (0 : ℚ) ≤ n := Int.cast_nonneg hn
  have hle' : (n : ℚ) ≤ size := Int.cast_le.mpr hle
  have hsize' : (size : ℚ) < 1000 := by exact_mod_cast hsize
  have hnonneg : (0 : ℚ) ≤ n / size := div_nonneg hn' hpos'.le
  have hone : (n : ℚ) / size ≤ 1 := (div_le_one hpos').mpr hle'
  have hsnap : |snapped - n / size| ≤ 1 / 2000 := by
    rw [hsnapped]
    have := j.abs_snapToLegalValue_sub_le ⟨-1, 1, 1 / 1000⟩ (n / size) (by norm_num)
      (by linarith : (-1 : ℚ) ≤ n / size) hone
    linarith
  refine ⟨hsnap, ?_⟩
  obtain ⟨hlow, hhigh⟩ := abs_le.mp hsnap
  have hcancel : (n : ℚ) / size * size = n := div_mul_cancel₀ _ hpos'.ne'
  have hbelow := mul_le_mul_of_nonneg_right hlow hpos'.le
  have habove := mul_le_mul_of_nonneg_right hhigh hpos'.le
  rw [sub_mul, hcancel] at hbelow habove
  apply le_antisymm
  · exact r.toInt_le (by linarith)
  · exact r.le_toInt (by linarith)

/-! ## The handlers -/

/-- The axes of the pad. -/
inductive Axis
  | x
  | y
  deriving DecidableEq

/-- The parameter that an axis shows, as `connectParameters` attaches them. -/
def Axis.parameter : Axis → NetworkId → ParameterId
  | .x, k => .tranShaper k
  | .y, k => .filter k

/-- The value of the parameter of an axis. -/
def norm (p : XYPad) : Axis → NetworkId → ℚ
  | .x => p.xNorm
  | .y => p.yNorm

/-- The pad with another value of the parameter. -/
def setNorm (p : XYPad) (k : NetworkId) (v : ℚ) : Axis → XYPad
  | .x => { p with xNorm := Function.update p.xNorm k v }
  | .y => { p with yNorm := Function.update p.yNorm k v }

/-- What an attachment tells the host. -/
inductive Message
  | beginGesture (p : ParameterId)
  | setValue (p : ParameterId) (v : ℚ)
  | endGesture (p : ParameterId)

/-- The state of the handlers. -/
structure Drag where
  pad : XYPad
  knobOnDrag : Option NetworkId

namespace Drag

/-- `mouseDown`. -/
def mouseDown (d : Drag) (e : Component) : Drag × List Message :=
  match e with
  | .knob k | .label k =>
    ({ d with knobOnDrag := some k },
      [.beginGesture (Axis.x.parameter k), .beginGesture (Axis.y.parameter k)])
  | _ => (d, [])

/-- `setValueAsPartOfGesture`. -/
def setValueAsPartOfGesture (j : ParameterAttachment) (d : Drag) (a : Axis) (k : NetworkId)
    (v : ℚ) : Drag × List Message :=
  let v := j.snapToLegalValue (a.parameter k).range v
  ({ d with pad := d.pad.setNorm k v a },
    if j.informs (d.pad.norm a k) v then [.setValue (a.parameter k) v] else [])

/-- `mouseDrag`, with the position of the mouse on the pad. -/
def mouseDrag (j : ParameterAttachment) (size : Size) (d : Drag) (x y : ℤ) :
    Drag × List Message :=
  match d.knobOnDrag with
  | some k =>
    let (d, messages) := d.setValueAsPartOfGesture j .x k (pixelToNormWidth size x)
    let (d, messages') := d.setValueAsPartOfGesture j .y k (pixelToNormHeight size y)
    (d, messages ++ messages')
  | none => (d, [])

/-- `mouseUp`. -/
def mouseUp (d : Drag) : Drag × List Message :=
  match d.knobOnDrag with
  | some k =>
    ({ d with knobOnDrag := none },
      [.endGesture (Axis.x.parameter k), .endGesture (Axis.y.parameter k)])
  | none => (d, [])

end Drag

/-! ## The host -/

/-- A host with the parameters that are being touched. It refuses a gesture that has begun already
and whatever belongs to one that has not. -/
def Host.step (touched : ParameterId → Bool) : Message → Option (ParameterId → Bool)
  | .beginGesture p => if touched p then none else some (Function.update touched p true)
  | .setValue p _ => if touched p then some touched else none
  | .endGesture p => if touched p then some (Function.update touched p false) else none

/-- The parameters of a knob that is dragged. -/
def touched (knobOnDrag : Option NetworkId) : ParameterId → Bool
  | .tranShaper k | .filter k => knobOnDrag == some k
  | _ => false

namespace Drag

/-! ## A run -/

/-- The mouse, the changes of the parameters by other means, and the calls of `moveButton` that
follow a change or have another reason. -/
inductive Event
  | mouseDown (e : Component)
  | mouseDrag (x y : ℤ)
  | mouseUp
  | parameterChanged (a : Axis) (k : NetworkId) (newValue : ℚ)
  | moveButton (k : NetworkId)

/-- A pad in use. -/
structure History where
  drag : Drag
  /-- What the host was told. -/
  messages : List Message
  /-- Where the mouse has dragged a knob to, unless its parameters have changed by other means. -/
  mouse : NetworkId → Option (ℤ × ℤ)

namespace History

/-- A pad that was constructed. -/
def start (xNorm yNorm : NetworkId → ℚ) : History :=
  ⟨⟨XYPad.construct xNorm yNorm, none⟩, [], fun _ => none⟩

variable (j : ParameterAttachment) (r : Rounding) (size : Size)

/-- One event. -/
def step (s : History) : Event → Option History
  | .mouseDown e => some { s with
      drag := (s.drag.mouseDown e).1
      messages := s.messages ++ (s.drag.mouseDown e).2 }
  | .mouseDrag x y => some {
      drag := (s.drag.mouseDrag j size x y).1
      messages := s.messages ++ (s.drag.mouseDrag j size x y).2
      mouse := match s.drag.knobOnDrag with
        | some k => Function.update s.mouse k (some (x, y))
        | none => s.mouse }
  | .mouseUp => some { s with
      drag := s.drag.mouseUp.1
      messages := s.messages ++ s.drag.mouseUp.2 }
  | .parameterChanged a k newValue => some { s with
      drag := { s.drag with pad := s.drag.pad.setNorm k newValue a }
      mouse := Function.update s.mouse k none }
  | .moveButton k =>
    some { s with drag := { s.drag with pad := (s.drag.pad.moveButton r size k).1 } }

/-- The host has refused nothing, and the parameters being touched are those of the knob that is
dragged: once none is, every gesture has ended. -/
def Closed (s : History) : Prop :=
  Transition.exec Host.step (fun _ => false) s.messages = some (touched s.drag.knobOnDrag)

/-- The mouse goes down on a knob or its label only while no knob is dragged. -/
def OneAtATime (s : History) : Event → Prop
  | .mouseDown (.knob _) | .mouseDown (.label _) => s.drag.knobOnDrag = none
  | _ => True

/-- A call of `moveButton` puts the centre of a knob that the mouse has dragged exactly where the
mouse was, and the values are those of that pixel up to half an interval. -/
def Follows (s : History) : Event → Prop
  | .moveButton k => ∀ x y, s.mouse k = some (x, y) → Inside size.width x → Inside size.height y →
    let knob := (s.drag.pad.moveButton r size k).1.knob k
    knob.x + knob.width / 2 = x ∧ knob.y + knob.height / 2 = y ∧
      |s.drag.pad.xNorm k - pixelToNormWidth size x| ≤ 1 / 2000 ∧
      |s.drag.pad.yNorm k - pixelToNormHeight size y| ≤ 1 / 2000
  | _ => True

end History

/-! ## Gestures -/

/-- The parameters of a knob, touched one after the other. -/
lemma update_touched_none (k : NetworkId) :
    Function.update (Function.update (touched none) (Axis.x.parameter k) true)
      (Axis.y.parameter k) true = touched (some k) := by
  funext p
  cases p with
  | tranShaper d | filter d => cases d <;> cases k <;> rfl
  | _ => rfl

/-- The parameters of a knob, let go one after the other. -/
lemma update_touched_some (k : NetworkId) :
    Function.update (Function.update (touched (some k)) (Axis.x.parameter k) false)
      (Axis.y.parameter k) false = touched none := by
  funext p
  cases p with
  | tranShaper d | filter d => cases d <;> cases k <;> rfl
  | _ => rfl

@[simp] lemma touched_parameter (knobOnDrag : Option NetworkId) (a : Axis) (k : NetworkId) :
    touched knobOnDrag (a.parameter k) = (knobOnDrag == some k) := by
  cases a <;> rfl

/-- The host takes the beginning of both gestures if no knob is dragged. -/
lemma exec_beginGesture (k : NetworkId) :
    Transition.exec Host.step (touched none)
        [.beginGesture (Axis.x.parameter k), .beginGesture (Axis.y.parameter k)] =
      some (touched (some k)) := by
  rw [← update_touched_none k]
  cases k <;> rfl

/-- If a knob is dragged it refuses them, or is left with a gesture of that knob. -/
lemma exec_beginGesture_ne (d k : NetworkId) :
    Transition.exec Host.step (touched (some d))
        [.beginGesture (Axis.x.parameter k), .beginGesture (Axis.y.parameter k)] ≠
      some (touched (some k)) := by
  intro h
  obtain ⟨t, hx, h⟩ := Transition.exec_cons_eq_some.mp h
  obtain ⟨t', hy, h⟩ := Transition.exec_cons_eq_some.mp h
  obtain rfl := Option.some.inj h
  unfold Host.step at hx hy
  dsimp only at hx hy
  split_ifs at hx hy with hx' hy'
  obtain rfl := Option.some.inj hx
  have heq := congrFun (Option.some.inj hy) (Axis.x.parameter d)
  revert heq hx'
  cases d <;> cases k <;> simp [Axis.parameter, touched]

/-- The host takes the end of both gestures. -/
lemma exec_endGesture (k : NetworkId) :
    Transition.exec Host.step (touched (some k))
        [.endGesture (Axis.x.parameter k), .endGesture (Axis.y.parameter k)] =
      some (touched none) := by
  rw [← update_touched_some k]
  cases k <;> rfl

/-- It takes a value of the knob that is dragged. -/
lemma exec_setValueAsPartOfGesture (j : ParameterAttachment) (d : Drag) (a : Axis) (k : NetworkId)
    (v : ℚ) : Transition.exec Host.step (touched (some k)) (d.setValueAsPartOfGesture j a k v).2 =
      some (touched (some k)) := by
  unfold setValueAsPartOfGesture
  dsimp only
  split_ifs
  · exact Transition.exec_cons_of_step (if_pos (by simp)) []
  · rfl

@[simp] lemma setValueAsPartOfGesture_knobOnDrag (j : ParameterAttachment) (d : Drag) (a : Axis)
    (k : NetworkId) (v : ℚ) :
    (d.setValueAsPartOfGesture j a k v).1.knobOnDrag = d.knobOnDrag := rfl

/-- **A drag stays within the gestures.** -/
lemma exec_mouseDrag (j : ParameterAttachment) (size : Size) (d : Drag) (x y : ℤ) :
    Transition.exec Host.step (touched d.knobOnDrag) (d.mouseDrag j size x y).2 =
        some (touched d.knobOnDrag) ∧
      (d.mouseDrag j size x y).1.knobOnDrag = d.knobOnDrag := by
  unfold mouseDrag
  split
  next k hk =>
    rw [hk]
    dsimp only
    rw [Transition.exec_append_of_exec (exec_setValueAsPartOfGesture j d _ k _)]
    exact ⟨exec_setValueAsPartOfGesture j _ _ k _, by simp [hk]⟩
  next hk => exact ⟨by rw [hk]; rfl, rfl⟩

/-- **The end of a drag ends its gestures.** -/
lemma exec_mouseUp (d : Drag) :
    Transition.exec Host.step (touched d.knobOnDrag) d.mouseUp.2 = some (touched none) ∧
      d.mouseUp.1.knobOnDrag = none := by
  unfold mouseUp
  split
  next k hk => exact ⟨by rw [hk]; exact exec_endGesture k, rfl⟩
  next hk => exact ⟨by rw [hk]; rfl, hk⟩

namespace History

variable {j : ParameterAttachment} {r : Rounding} {size : Size}

/-- A handler keeps the gestures closed exactly if the host goes from what was touched before to
what is touched then. -/
lemma Closed.append_iff {s : History} (h : s.Closed) (messages : List Message) (d : Drag)
    (mouse : NetworkId → Option (ℤ × ℤ)) :
    Closed ⟨d, s.messages ++ messages, mouse⟩ ↔
      Transition.exec Host.step (touched s.drag.knobOnDrag) messages =
        some (touched d.knobOnDrag) := by
  unfold Closed
  rw [Transition.exec_append_of_exec h]

/-- **One event keeps the gestures closed exactly if no knob is caught during a drag.**

**Proof sketch.** By the event: what it tells the host is appended to the messages. A drag begins a
gesture, which the host takes exactly if it has none open; all other messages belong to the gesture
that is open. -/
lemma Closed.step_iff {s s' : History} {e : Event} (h : s.Closed)
    (hs : s.step j r size e = some s') : s'.Closed ↔ s.OneAtATime e := by
  cases e with
  | mouseDown e =>
    obtain rfl := Option.some.inj hs
    refine (h.append_iff _ _ _).trans ?_
    cases e with
    | knob k | label k =>
      show Transition.exec Host.step (touched s.drag.knobOnDrag) _ = _ ↔ s.drag.knobOnDrag = none
      cases hdrag : s.drag.knobOnDrag with
      | none => exact iff_of_true (exec_beginGesture k) rfl
      | some d => exact iff_of_false (exec_beginGesture_ne d k) (by simp)
    | arrow k | networkSelectButton k | networkGrainButton k | networkOnOffButton k =>
      exact iff_of_true rfl trivial
    | other => exact iff_of_true rfl trivial
  | mouseDrag x y =>
    obtain rfl := Option.some.inj hs
    refine (h.append_iff _ _ _).trans (iff_of_true ?_ trivial)
    obtain ⟨hexec, hknob⟩ := exec_mouseDrag j size s.drag x y
    rw [hknob]
    exact hexec
  | mouseUp =>
    obtain rfl := Option.some.inj hs
    refine (h.append_iff _ _ _).trans (iff_of_true ?_ trivial)
    obtain ⟨hexec, hknob⟩ := exec_mouseUp s.drag
    rw [hknob]
    exact hexec
  | parameterChanged a k newValue | moveButton k =>
    obtain rfl := Option.some.inj hs
    exact iff_of_true h trivial

lemma closed_start (xNorm yNorm : NetworkId → ℚ) : (start xNorm yNorm).Closed := by
  show some _ = some _
  congr 1
  funext p
  cases p <;> rfl

/-! ## The position of a dragged knob -/

/-- A knob that the mouse has dragged has the values of the mouse. -/
def AtMouse (j : ParameterAttachment) (size : Size) (s : History) : Prop :=
  ∀ k x y, s.mouse k = some (x, y) →
    s.drag.pad.xNorm k =
        j.snapToLegalValue (ParameterId.tranShaper k).range (pixelToNormWidth size x) ∧
      s.drag.pad.yNorm k =
        j.snapToLegalValue (ParameterId.filter k).range (pixelToNormHeight size y)

end History

/-- **The values of a knob that is dragged**, after a drag. -/
lemma mouseDrag_pad (j : ParameterAttachment) (size : Size) {d : Drag} {k : NetworkId}
    (hk : d.knobOnDrag = some k) (x y : ℤ) : (d.mouseDrag j size x y).1.pad =
      { d.pad with
        xNorm := Function.update d.pad.xNorm k
          (j.snapToLegalValue (ParameterId.tranShaper k).range (pixelToNormWidth size x))
        yNorm := Function.update d.pad.yNorm k
          (j.snapToLegalValue (ParameterId.filter k).range (pixelToNormHeight size y)) } := by
  unfold mouseDrag
  rw [hk]
  rfl

/-- A drag without a knob does nothing. -/
lemma mouseDrag_of_none (j : ParameterAttachment) (size : Size) {d : Drag}
    (hk : d.knobOnDrag = none) (x y : ℤ) : (d.mouseDrag j size x y).1 = d := by
  unfold mouseDrag
  rw [hk]

/-- Pressing and releasing the button of the mouse leaves the pad as it is. -/
lemma mouseDown_pad (d : Drag) (e : Component) : (d.mouseDown e).1.pad = d.pad := by
  cases e <;> rfl

lemma mouseUp_pad (d : Drag) : d.mouseUp.1.pad = d.pad := by
  unfold mouseUp
  split <;> rfl

namespace History

variable {j : ParameterAttachment} {r : Rounding} {size : Size}

/-- **One event leaves a dragged knob with the values of the mouse.**

**Proof sketch.** By the event. A drag sets both values of its knob to those of the mouse, a
parameter change forgets the mouse for its knob, and the other events do not touch the values. -/
lemma AtMouse.step {s s' : History} {e : Event} (h : s.AtMouse j size)
    (hs : s.step j r size e = some s') : s'.AtMouse j size := by
  cases e with
  | mouseDown e =>
    obtain rfl := Option.some.inj hs
    unfold AtMouse
    dsimp only
    rw [mouseDown_pad]
    exact h
  | mouseUp =>
    obtain rfl := Option.some.inj hs
    unfold AtMouse
    dsimp only
    rw [mouseUp_pad]
    exact h
  | mouseDrag x y =>
    obtain rfl := Option.some.inj hs
    unfold AtMouse
    dsimp only
    cases hk : s.drag.knobOnDrag with
    | none =>
      rw [mouseDrag_of_none j size hk]
      exact h
    | some d =>
      rw [mouseDrag_pad j size hk]
      intro k px py hmouse
      dsimp only at hmouse ⊢
      by_cases hkd : k = d
      · subst hkd
        rw [Function.update_self] at hmouse
        obtain ⟨rfl, rfl⟩ := Prod.mk.inj (Option.some.inj hmouse)
        exact ⟨Function.update_self .., Function.update_self ..⟩
      · rw [Function.update_of_ne hkd] at hmouse ⊢
        rw [Function.update_of_ne hkd]
        exact h k px py hmouse
  | parameterChanged a d newValue =>
    obtain rfl := Option.some.inj hs
    intro k px py hmouse
    dsimp only at hmouse ⊢
    by_cases hkd : k = d
    · subst hkd
      rw [Function.update_self] at hmouse
      cases hmouse
    · rw [Function.update_of_ne hkd] at hmouse
      have hold := h k px py hmouse
      cases a with
      | x => exact ⟨(Function.update_of_ne hkd _ _).trans hold.1, hold.2⟩
      | y => exact ⟨hold.1, (Function.update_of_ne hkd _ _).trans hold.2⟩
  | moveButton d =>
    obtain rfl := Option.some.inj hs
    unfold AtMouse
    dsimp only
    rw [moveButton_xNorm, moveButton_yNorm]
    exact h

/-- **A knob with the values of the mouse is put where the mouse is.**

**Proof sketch.** The values are those of a pixel after snapping, and a pixel survives that on a pad
of this size; so `moveButton` computes the pixel of the mouse again and puts the knob there. -/
lemma AtMouse.follows {s : History} (h : s.AtMouse j size) (hwidth : size.width < 1000)
    (hheight : size.height < 1000) (e : Event) : s.Follows r size e := by
  cases e with
  | mouseDown _ | mouseDrag _ _ | mouseUp | parameterChanged _ _ _ => trivial
  | moveButton k =>
    intro x y hmouse hx hy
    obtain ⟨hxNorm, hyNorm⟩ := h k x y hmouse
    have hx' := hx
    have hy' := hy
    unfold Inside knobButtonNeutralDiameter at hx' hy'
    obtain ⟨hcloseX, hroundX⟩ :=
      toInt_snapToLegalValue j r (by omega : 0 ≤ x) (by omega) (by omega) hwidth hxNorm
    have hcast : pixelToNormHeight size y = ((size.height - y : ℤ) : ℚ) / size.height := by
      unfold pixelToNormHeight
      push_cast
      rfl
    rw [hcast] at hyNorm ⊢
    obtain ⟨hcloseY, hroundY⟩ :=
      toInt_snapToLegalValue j r (by omega : 0 ≤ size.height - y) (by omega) (by omega) hheight
        hyNorm
    have hxPixel : s.drag.pad.xPixel r size k = x := hroundX
    have hyPixel : s.drag.pad.yPixel r size k = y := by
      unfold XYPad.yPixel normToPixelHeight
      rw [hroundY]
      omega
    obtain ⟨hknobX, hknobY⟩ := moveButton_knob r size s.drag.pad k
    obtain ⟨hknobWidth, hknobHeight, -⟩ :=
      moveButton_of_inside r size s.drag.pad k (Or.inl (hxPixel.symm ▸ hx))
    rw [hxPixel] at hknobX
    rw [hyPixel] at hknobY
    dsimp only
    rw [hknobX, hknobY, hknobWidth, hknobHeight, nextCoordinate, nextCoordinate, if_pos hx,
      if_pos hy]
    exact ⟨Int.sub_add_cancel _ _, Int.sub_add_cancel _ _, hcloseX, hcloseY⟩

lemma atMouse_start (xNorm yNorm : NetworkId → ℚ) : (start xNorm yNorm).AtMouse j size := by
  intro k x y h
  cases h

end History

end Drag

end XYPad

open XYPad XYPad.Drag XYPad.Drag.History in
/-- **When the gestures are closed.** The mouse goes down on any component, moves and is released,
the parameters change by other means and the knobs are moved, in any order. Throughout, the host is
told the beginning of a gesture, the values in it and its end in turn, and touches the parameters of
the knob that is dragged and no others, exactly if the mouse never goes down on a knob while one is
dragged (with a second finger, for example).

**Proof sketch.** The host accepts what a handler tells it, and is left with the parameters of the
knob that is dragged then, unless `mouseDown` takes a knob during a drag: it refuses to begin the
gestures of the same knob again, and those of the other knob are never ended. -/
theorem gestures_closed_iff (j : ParameterAttachment) (r : Rounding) (size : Size)
    (xNorm yNorm : NetworkId → ℚ) (es : List Drag.Event) :
    Transition.Always (step j r size) Closed (start xNorm yNorm) es ↔
      Transition.StepsMeet (step j r size) OneAtATime (start xNorm yNorm) es :=
  Transition.always_iff_stepsMeet (fun _ h => h)
    (fun _ _ _ h hone hs => (h.step_iff hs).mpr hone)
    (fun _ _ _ h hs hclosed => (h.step_iff hs).mp hclosed) es (closed_start xNorm yNorm)

open XYPad XYPad.Drag XYPad.Drag.History in
/-- **A knob follows the mouse.** On a pad with fewer than 1000 pixels on each axis, in any run:
when `moveButton` is called for a knob that the mouse has dragged to a place half a knob inside the
pad, and whose parameters have not changed by other means since, the centre of the knob is that very
pixel, although the values are rounded to thousandths on the way.

**Proof sketch.** The values that a drag sets stay until the next change. They are half an interval
away from those of the pixel, which is less than half a pixel. -/
theorem knob_follows_mouse (j : ParameterAttachment) (r : Rounding) (size : Size)
    (hwidth : size.width < 1000) (hheight : size.height < 1000) (xNorm yNorm : NetworkId → ℚ)
    (es : List Drag.Event) :
    Transition.StepsMeet (step j r size) (Follows r size) (start xNorm yNorm) es :=
  Transition.stepsMeet_of_always (fun _ e _ h _ _ => h.follows hwidth hheight e)
    (Transition.always_of_invariant (fun _ _ _ h hs => h.step hs) es (atMouse_start xNorm yNorm))

open XYPad XYPad.Drag XYPad.Drag.History in
/-- On the pad of the editor, of 500 by 500 pixels, the first knob is dragged to the right. -/
theorem knob_follows_mouse_in_editor :
    Transition.StepsMeet (step .toSteps .up ⟨500, 500, by decide, by decide⟩)
      (Follows .up ⟨500, 500, by decide, by decide⟩)
      (start (fun k => ParameterId.defaultValue (.tranShaper k))
        (fun k => ParameterId.defaultValue (.filter k)))
      [.mouseDown (.knob .network1), .mouseDrag 333 211, .moveButton .network1, .mouseUp] :=
  knob_follows_mouse .toSteps .up ⟨500, 500, by decide, by decide⟩ (by decide) (by decide) _ _ _
