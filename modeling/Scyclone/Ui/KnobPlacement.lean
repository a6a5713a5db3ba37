import Scyclone.Lib.Rounding
import Scyclone.Lib.Transition
import Scyclone.Plugin.PluginParameters
import Mathlib.Logic.Function.Basic

set_option relaxedAutoImplicit false
set_option autoImplicit false

/-!
# The placement of the knobs

`XYPad` of `source/ui/CustomComponents/XYPad/XYPad.cpp`: each network has a knob on the pad, whose
position shows two parameters, and an arrow beside the knob. `moveButton` places them after a change
of a parameter. A knob that would stick out of the pad keeps its old coordinate, so where it ends up
depends on where it has been before.

## Main definitions

* `XYPad`, `XYPad.moveArrow`, `XYPad.moveArrowButton`, `XYPad.moveButton` — the pad.
* `XYPad.Placed` — the knob, the callback and the arrow show the current values.
* `XYPad.Run` — a pad, with the axes on which a knob has been placed before.
* `XYPad.Placeable` — the condition on a move.

## Main results

* `XYPad.moveButton_knob`, `XYPad.moveArrow_placed_iff` — what `moveButton` and `moveArrow` do.
* `knobs_placed_iff` — the runs.
-/

/-- `juce::Rectangle<int>`. -/
structure Bounds where
  x : ℤ
  y : ℤ
  width : ℤ
  height : ℤ
  deriving DecidableEq

/-- The quadrants of the pad, which are also the orientations of an arrow. -/
inductive Quadrant
  | upLeft
  | upRight
  | downLeft
  | downRight
  deriving DecidableEq

/-- `Arrow`. -/
structure Arrow where
  bounds : Bounds
  orientation : Quadrant
  deriving DecidableEq

/-- The three `ArrowButtons` of a network. -/
inductive ButtonType
  | select
  | grain
  | onOff
  deriving DecidableEq

/-- The state of the pad that `moveButton` reads and writes. -/
structure XYPad where
  /-- The value of the shaper parameter of a network. -/
  xNorm : NetworkId → ℚ
  /-- The value of the filter parameter of a network. -/
  yNorm : NetworkId → ℚ
  knob : NetworkId → Bounds
  arrow : NetworkId → Arrow
  arrowButton : NetworkId → ButtonType → Bounds

namespace XYPad

/-! ## The source -/

/-- `knobButtonNeutralDiameter`. -/
def knobButtonNeutralDiameter : ℤ := 108

/-- `arrowWidth`. -/
def arrowWidth : ℤ := 165

/-- `arrowHeight`. -/
def arrowHeight : ℤ := 55

/-- `arrowButtonDiameter`. -/
def arrowButtonDiameter : ℤ := 18

/-- The size of a pad at least as large as a knob. -/
structure Size where
  width : ℤ
  height : ℤ
  knob_le_width : knobButtonNeutralDiameter ≤ width
  knob_le_height : knobButtonNeutralDiameter ≤ height

/-- `normToPixelWidth`. -/
def normToPixelWidth (r : Rounding) (size : Size) (normValue : ℚ) : ℤ :=
  r.toInt (normValue * size.width)

/-- `normToPixelHeight`. -/
def normToPixelHeight (r : Rounding) (size : Size) (normValue : ℚ) : ℤ :=
  size.height - r.toInt (normValue * size.height)

/-- The quadrant and the coordinates that the comparisons of `moveArrow` choose. They leave out the
values with `xNorm > 0.5` and `yNorm = 0.5`, for which the local variables keep their initial
values. -/
def chooseQuadrant (xNorm yNorm : ℚ) (xPixel yPixel xOffset yOffset : ℤ) : Quadrant × ℤ × ℤ :=
  let sloppyDecompensation := 4
  if 1 / 2 < xNorm ∧ 1 / 2 < yNorm then
    (.upRight, xPixel + xOffset, yPixel - yOffset - arrowHeight + sloppyDecompensation)
  else if xNorm ≤ 1 / 2 ∧ 1 / 2 < yNorm then
    (.upLeft, xPixel - xOffset - arrowWidth,
      yPixel - yOffset - arrowHeight + sloppyDecompensation)
  else if 1 / 2 < xNorm ∧ yNorm < 1 / 2 then
    (.downRight, xPixel + xOffset, yPixel + yOffset)
  else if xNorm ≤ 1 / 2 ∧ yNorm ≤ 1 / 2 then
    (.downLeft, xPixel - xOffset - arrowWidth, yPixel + yOffset)
  else (.upLeft, 0, 0)

/-- `moveArrow`. -/
def moveArrow (size : Size) (xNorm yNorm : ℚ) (xPixel yPixel knobButtonDiameter : ℤ) : Arrow :=
  let xOffset := knobButtonDiameter / 2
  let yOffset := knobButtonDiameter / 2
  let (quadrant, newX, newY) := chooseQuadrant xNorm yNorm xPixel yPixel xOffset yOffset
  let newX :=
    if ((xPixel - xOffset - arrowWidth : ℤ) : ℚ) ≤ 1 / 1000 then 0
    else if xPixel + xOffset + arrowWidth ≥ size.width then size.width - arrowWidth
    else newX
  let newY :=
    if ((yPixel - yOffset - arrowHeight : ℤ) : ℚ) ≤ 1 / 1000 then 0
    else if yPixel + yOffset + arrowHeight > size.height then size.height - yOffset
    else newY
  ⟨⟨newX, newY, arrowWidth, arrowHeight⟩, quadrant⟩

/-- `moveArrowButton`: the bounds of a button on the arrow. -/
def moveArrowButton (type : ButtonType) (arrow : Arrow) : Bounds :=
  let xTilt := match type with
    | .select => 0
    | .grain => arrowButtonDiameter + 15
    | .onOff => 2 * arrowButtonDiameter + 2 * 15
  let (x, y) := match arrow.orientation with
    | .upLeft => (arrow.bounds.x + 10 + xTilt, arrow.bounds.y + 8)
    | .upRight => (arrow.bounds.x + 76 + xTilt, arrow.bounds.y + 8)
    | .downLeft =>
      (arrow.bounds.x + 10 + xTilt, arrow.bounds.y + arrowHeight - 8 - arrowButtonDiameter)
    | .downRight =>
      (arrow.bounds.x + 76 + xTilt, arrow.bounds.y + arrowHeight - 8 - arrowButtonDiameter)
  ⟨x, y, arrowButtonDiameter, arrowButtonDiameter⟩

/-- The pixel lies more than half a knob from both edges of an axis of the pad. -/
def Inside (size pixel : ℤ) : Prop :=
  knobButtonNeutralDiameter / 2 < pixel ∧ pixel < size - knobButtonNeutralDiameter / 2

instance (size pixel : ℤ) : Decidable (Inside size pixel) := inferInstanceAs (Decidable (_ ∧ _))

variable (r : Rounding) (size : Size)

/-- The horizontal pixel of the current values. -/
def xPixel (p : XYPad) (k : NetworkId) : ℤ := normToPixelWidth r size (p.xNorm k)

/-- The vertical pixel of the current values. -/
def yPixel (p : XYPad) (k : NetworkId) : ℤ := normToPixelHeight r size (p.yNorm k)

/-- `moveButton`, with the calls of `onButtonMove` that it makes. A coordinate that lies outside is
not changed, and nothing is done where both do. -/
def moveButton (p : XYPad) (k : NetworkId) : XYPad × List (ℚ × ℚ × NetworkId) :=
  let diameter := knobButtonNeutralDiameter
  let xPixel := p.xPixel r size k
  let yPixel := p.yPixel r size k
  let arrow := moveArrow size (p.xNorm k) (p.yNorm k) xPixel yPixel diameter
  let p := { p with
    arrow := Function.update p.arrow k arrow
    arrowButton := Function.update p.arrowButton k fun type => moveArrowButton type arrow }
  let setBounds (x y : ℤ) : XYPad × List (ℚ × ℚ × NetworkId) :=
    ({ p with knob := Function.update p.knob k ⟨x, y, diameter, diameter⟩ },
      [(p.xNorm k, p.yNorm k, k)])
  if Inside size.width xPixel ∧ Inside size.height yPixel then
    setBounds (xPixel - diameter / 2) (yPixel - diameter / 2)
  else if ¬ Inside size.width xPixel ∧ Inside size.height yPixel then
    setBounds (p.knob k).x (yPixel - diameter / 2)
  else if Inside size.width xPixel ∧ ¬ Inside size.height yPixel then
    setBounds (xPixel - diameter / 2) (p.knob k).y
  else (p, [])

/-- `XYPad ()`, with the values of the parameters. No component has bounds yet. -/
def construct (xNorm yNorm : NetworkId → ℚ) : XYPad where
  xNorm := xNorm
  yNorm := yNorm
  knob _ := ⟨0, 0, 0, 0⟩
  arrow
    | .network1 => ⟨⟨0, 0, 0, 0⟩, .downLeft⟩
    | .network2 => ⟨⟨0, 0, 0, 0⟩, .upRight⟩
  arrowButton _ _ := ⟨0, 0, 0, 0⟩

/-! ## What is shown -/

/-- The pixel, kept half a knob away from both edges of an axis of the pad. -/
def clamped (size pixel : ℤ) : ℤ :=
  max (knobButtonNeutralDiameter / 2) (min pixel (size - knobButtonNeutralDiameter / 2))

/-- There is no room for the arrow to the left or to the right of the knob. -/
def ArrowClampedX (size : Size) (xPixel : ℤ) : Prop :=
  xPixel - knobButtonNeutralDiameter / 2 - arrowWidth ≤ 0 ∨
    size.width ≤ xPixel + knobButtonNeutralDiameter / 2 + arrowWidth

/-- There is no room for the arrow above or below the knob. -/
def ArrowClampedY (size : Size) (yPixel : ℤ) : Prop :=
  yPixel - knobButtonNeutralDiameter / 2 - arrowHeight ≤ 0 ∨
    size.height < yPixel + knobButtonNeutralDiameter / 2 + arrowHeight

/-- The quadrant that a pair of values lies in. -/
def quadrant (xNorm yNorm : ℚ) : Quadrant :=
  if 1 / 2 < xNorm then if 1 / 2 < yNorm then .upRight else .downRight
  else if 1 / 2 < yNorm then .upLeft else .downLeft

/-- Knob `k` shows the current values: its centre is their clamped pixel, `onButtonMove` was called
with them, and the arrow is beside the knob in their quadrant, on each axis on which it is not
clamped. Vertically the two overlap by 4 pixels where the arrow is above. -/
structure Placed (k : NetworkId) (p : XYPad) (calls : List (ℚ × ℚ × NetworkId)) : Prop where
  centre_x : (p.knob k).x + (p.knob k).width / 2 = clamped size.width (p.xPixel r size k)
  centre_y : (p.knob k).y + (p.knob k).height / 2 = clamped size.height (p.yPixel r size k)
  called : calls = [(p.xNorm k, p.yNorm k, k)]
  arrow_x : ¬ ArrowClampedX size (p.xPixel r size k) →
    (p.arrow k).bounds.x =
      if 1 / 2 < p.xNorm k then (p.knob k).x + (p.knob k).width else (p.knob k).x - arrowWidth
  arrow_y : ¬ ArrowClampedY size (p.yPixel r size k) →
    (p.arrow k).bounds.y =
      if 1 / 2 < p.yNorm k then (p.knob k).y - arrowHeight + 4
      else (p.knob k).y + (p.knob k).height
  orientation : ¬ (ArrowClampedX size (p.xPixel r size k) ∧
      ArrowClampedY size (p.yPixel r size k)) →
    (p.arrow k).orientation = quadrant (p.xNorm k) (p.yNorm k)

/-! ## A run -/

/-- The changes of the parameters, by any means, and the calls of `moveButton`, by an attachment
after a change or for another reason. -/
inductive Event
  | tranShaperChanged (k : NetworkId) (newValue : ℚ)
  | filterChanged (k : NetworkId) (newValue : ℚ)
  | moveButton (k : NetworkId)

/-- A pad in use, with the axes on which an earlier move of a knob has found it inside. -/
structure Run where
  pad : XYPad
  foundX : NetworkId → Bool
  foundY : NetworkId → Bool

namespace Run

/-- A pad that was constructed. -/
def start (xNorm yNorm : NetworkId → ℚ) : Run :=
  ⟨construct xNorm yNorm, fun _ => false, fun _ => false⟩

/-- One event. -/
def step (s : Run) : Event → Option Run
  | .tranShaperChanged k newValue =>
    some { s with pad := { s.pad with xNorm := Function.update s.pad.xNorm k newValue } }
  | .filterChanged k newValue =>
    some { s with pad := { s.pad with yNorm := Function.update s.pad.yNorm k newValue } }
  | .moveButton k => some
    { pad := (s.pad.moveButton r size k).1
      foundX := Function.update s.foundX k
        (s.foundX k || decide (Inside size.width (s.pad.xPixel r size k)))
      foundY := Function.update s.foundY k
        (s.foundY k || decide (Inside size.height (s.pad.yPixel r size k))) }

/-- After a call of `moveButton` the knob shows the current values. -/
def Shown (s : Run) : Event → Prop
  | .moveButton k =>
    Placed r size k (s.pad.moveButton r size k).1 (s.pad.moveButton r size k).2
  | .tranShaperChanged _ _ | .filterChanged _ _ => True

end Run

/-- A coordinate that a knob can be placed at: inside; or beyond the left or upper edge, as long as
the knob has not been inside on this axis and is where it was constructed. If the pad is as large as
the knob there is one coordinate only. -/
def OnAxis (size pixel : ℤ) (found : Bool) : Prop :=
  Inside size pixel ∨
    found = false ∧ (pixel ≤ knobButtonNeutralDiameter / 2 ∨ size = knobButtonNeutralDiameter)

/-- The condition on a move: both coordinates can be placed, one of them inside, and the values are
not on the line below the upper right quadrant unless the arrow is clamped on both axes. -/
def Run.Placeable (s : Run) : Event → Prop
  | .moveButton k =>
    (Inside size.width (s.pad.xPixel r size k) ∨ Inside size.height (s.pad.yPixel r size k)) ∧
      OnAxis size.width (s.pad.xPixel r size k) (s.foundX k) ∧
      OnAxis size.height (s.pad.yPixel r size k) (s.foundY k) ∧
      (1 / 2 < s.pad.xNorm k → s.pad.yNorm k = 1 / 2 →
        ArrowClampedX size (s.pad.xPixel r size k) ∧ ArrowClampedY size (s.pad.yPixel r size k))
  | .tranShaperChanged _ _ | .filterChanged _ _ => True

/-! ## One axis -/

/-- Where a knob can be on an axis: within the pad if it has been found inside, and where it was
constructed if not. -/
def AxisInv (size : ℤ) (found : Bool) (coordinate : ℤ) : Prop :=
  if found then 0 < coordinate ∧ coordinate < size - knobButtonNeutralDiameter else coordinate = 0

/-- The coordinate after a move. -/
def nextCoordinate (size pixel coordinate : ℤ) : ℤ :=
  if Inside size pixel then pixel - knobButtonNeutralDiameter / 2 else coordinate

/-- A move keeps the knob where it can be. -/
lemma AxisInv.next {size pixel coordinate : ℤ} {found : Bool} (h : AxisInv size found coordinate) :
    AxisInv size (found || decide (Inside size pixel)) (nextCoordinate size pixel coordinate) := by
  unfold AxisInv nextCoordinate
  by_cases hin : Inside size pixel
  · rw [if_pos hin, decide_eq_true hin, Bool.or_true, if_pos rfl]
    unfold Inside knobButtonNeutralDiameter at hin
    unfold knobButtonNeutralDiameter
    omega
  · rw [if_neg hin, decide_eq_false hin, Bool.or_false]
    exact h

/-- **The centre is the clamped pixel** after a move exactly if the knob can be placed there.

**Proof sketch.** Within the pad the knob is placed at the pixel. Outside it stays where it was. A
knob that was placed before is strictly inside, where no clamped pixel is. One that was not is at
the origin, whose centre is the pixel clamped from below, or from above if there is no room. -/
lemma AxisInv.centre_iff {size coordinate : ℤ} {found : Bool} (h : AxisInv size found coordinate)
    (hsize : knobButtonNeutralDiameter ≤ size) (pixel : ℤ) :
    nextCoordinate size pixel coordinate + knobButtonNeutralDiameter / 2 = clamped size pixel ↔
      OnAxis size pixel found := by
  unfold nextCoordinate OnAxis clamped
  by_cases hin : Inside size pixel
  · rw [if_pos hin]
    refine iff_of_true ?_ (Or.inl hin)
    unfold Inside knobButtonNeutralDiameter at hin
    unfold knobButtonNeutralDiameter
    omega
  · rw [if_neg hin, or_iff_right hin]
    unfold Inside knobButtonNeutralDiameter at hin
    unfold knobButtonNeutralDiameter at hsize ⊢
    unfold AxisInv knobButtonNeutralDiameter at h
    cases found with
    | true =>
      rw [if_pos rfl] at h
      refine iff_of_false ?_ (fun hfound => by cases hfound.1)
      omega
    | false =>
      rw [if_neg (by simp)] at h
      rw [h, eq_self_iff_true, true_and]
      omega

/-! ## One move -/

variable (p : XYPad) (k : NetworkId)

@[simp] lemma moveButton_xNorm : (p.moveButton r size k).1.xNorm = p.xNorm := by
  unfold moveButton
  dsimp only
  split_ifs <;> rfl

@[simp] lemma moveButton_yNorm : (p.moveButton r size k).1.yNorm = p.yNorm := by
  unfold moveButton
  dsimp only
  split_ifs <;> rfl

/-- The pixel depends on the values alone. -/
@[simp] lemma moveButton_xPixel (d : NetworkId) :
    (p.moveButton r size k).1.xPixel r size d = p.xPixel r size d := by
  unfold xPixel
  rw [moveButton_xNorm]

@[simp] lemma moveButton_yPixel (d : NetworkId) :
    (p.moveButton r size k).1.yPixel r size d = p.yPixel r size d := by
  unfold yPixel
  rw [moveButton_yNorm]

/-- The arrow is moved in every case. -/
lemma moveButton_arrow :
    (p.moveButton r size k).1.arrow k = moveArrow size (p.xNorm k) (p.yNorm k) (p.xPixel r size k)
      (p.yPixel r size k) knobButtonNeutralDiameter := by
  unfold moveButton
  dsimp only
  split_ifs <;> exact Function.update_self _ _ _

/-- The other knob is left alone. -/
lemma moveButton_knob_of_ne {k d : NetworkId} (h : d ≠ k) :
    (p.moveButton r size k).1.knob d = p.knob d := by
  unfold moveButton
  dsimp only
  split_ifs
  · exact Function.update_of_ne h _ _
  · exact Function.update_of_ne h _ _
  · exact Function.update_of_ne h _ _
  · rfl

/-- **Where the knob is after a move**: on each axis at its pixel if that is inside, and where it
was if not. -/
lemma moveButton_knob :
    ((p.moveButton r size k).1.knob k).x =
        nextCoordinate size.width (p.xPixel r size k) (p.knob k).x ∧
      ((p.moveButton r size k).1.knob k).y =
        nextCoordinate size.height (p.yPixel r size k) (p.knob k).y := by
  unfold moveButton nextCoordinate
  by_cases hx : Inside size.width (p.xPixel r size k) <;>
    by_cases hy : Inside size.height (p.yPixel r size k) <;>
    simp [hx, hy]

/-- The knob has its size and the callback is called if one of the coordinates is inside. -/
lemma moveButton_of_inside (h : Inside size.width (p.xPixel r size k) ∨
      Inside size.height (p.yPixel r size k)) :
    ((p.moveButton r size k).1.knob k).width = knobButtonNeutralDiameter ∧
      ((p.moveButton r size k).1.knob k).height = knobButtonNeutralDiameter ∧
      (p.moveButton r size k).2 = [(p.xNorm k, p.yNorm k, k)] := by
  unfold moveButton
  by_cases hx : Inside size.width (p.xPixel r size k)
  · by_cases hy : Inside size.height (p.yPixel r size k) <;> simp [hx, hy]
  · simp [hx, h.resolve_left hx]

/-- The callback is not called if both coordinates are outside. -/
lemma moveButton_of_outside (hx : ¬ Inside size.width (p.xPixel r size k))
    (hy : ¬ Inside size.height (p.yPixel r size k)) : (p.moveButton r size k).2 = [] := by
  unfold moveButton
  simp [hx, hy]

/-! ## The arrow -/

section MoveArrow

variable {size} {x y : ℚ} {px py : ℤ}

/-- The comparison of a number of pixels with `0.001`. -/
lemma intCast_le_thousandth (n : ℤ) : (n : ℚ) ≤ 1 / 1000 ↔ n ≤ 0 := by
  constructor
  · intro h
    have hlt : (n : ℚ) < ((1 : ℤ) : ℚ) := by
      push_cast
      linarith
    have := Int.cast_lt.mp hlt
    omega
  · intro h
    have hle : (n : ℚ) ≤ ((0 : ℤ) : ℚ) := Int.cast_le.mpr h
    push_cast at hle
    linarith

/-- The coordinates chosen are those beside the knob in the quadrant of the values, unless the
comparisons leave the values out. -/
lemma chooseQuadrant_eq (h : ¬ (1 / 2 < x ∧ y = 1 / 2)) (xOffset yOffset : ℤ) :
    chooseQuadrant x y px py xOffset yOffset =
      (quadrant x y, if 1 / 2 < x then px + xOffset else px - xOffset - arrowWidth,
        if 1 / 2 < y then py - yOffset - arrowHeight + 4 else py + yOffset) := by
  unfold chooseQuadrant quadrant
  rcases lt_or_ge (1 / 2) x with hx | hx
  · rcases lt_trichotomy y (1 / 2) with hy | hy | hy
    · rw [if_neg fun h => hy.not_gt h.2, if_neg fun h => hx.not_ge h.1, if_pos ⟨hx, hy⟩, if_pos hx,
        if_pos hx, if_neg hy.not_gt, if_neg hy.not_gt]
    · exact absurd ⟨hx, hy⟩ h
    · rw [if_pos ⟨hx, hy⟩, if_pos hx, if_pos hx, if_pos hy, if_pos hy]
  · rcases lt_or_ge (1 / 2) y with hy | hy
    · rw [if_neg fun h => hx.not_gt h.1, if_pos ⟨hx, hy⟩, if_neg hx.not_gt, if_neg hx.not_gt,
        if_pos hy, if_pos hy]
    · rw [if_neg fun h => hx.not_gt h.1, if_neg fun h => hy.not_gt h.2,
        if_neg fun h => hx.not_gt h.1, if_pos ⟨hx, hy⟩, if_neg hx.not_gt, if_neg hx.not_gt,
        if_neg hy.not_gt, if_neg hy.not_gt]

/-- The values that the comparisons leave out. -/
lemma chooseQuadrant_half (hx : 1 / 2 < x) (xOffset yOffset : ℤ) :
    chooseQuadrant x (1 / 2) px py xOffset yOffset = (.upLeft, 0, 0) := by
  unfold chooseQuadrant
  rw [if_neg fun h => lt_irrefl _ h.2, if_neg fun h => lt_irrefl _ h.2,
    if_neg fun h => lt_irrefl _ h.2, if_neg fun h => hx.not_ge h.1]

/-- Where the arrow is not clamped it is where the comparisons put it. -/
lemma moveArrow_x (h : ¬ ArrowClampedX size px) :
    (moveArrow size x y px py knobButtonNeutralDiameter).bounds.x =
      (chooseQuadrant x y px py (knobButtonNeutralDiameter / 2)
        (knobButtonNeutralDiameter / 2)).2.1 := by
  unfold ArrowClampedX at h
  have hlow : ¬ ((px - knobButtonNeutralDiameter / 2 - arrowWidth : ℤ) : ℚ) ≤ 1 / 1000 := by
    rw [intCast_le_thousandth]
    omega
  have hhigh : ¬ px + knobButtonNeutralDiameter / 2 + arrowWidth ≥ size.width := by omega
  unfold moveArrow
  dsimp only
  rw [if_neg hlow, if_neg hhigh]

lemma moveArrow_y (h : ¬ ArrowClampedY size py) :
    (moveArrow size x y px py knobButtonNeutralDiameter).bounds.y =
      (chooseQuadrant x y px py (knobButtonNeutralDiameter / 2)
        (knobButtonNeutralDiameter / 2)).2.2 := by
  unfold ArrowClampedY at h
  have hlow : ¬ ((py - knobButtonNeutralDiameter / 2 - arrowHeight : ℤ) : ℚ) ≤ 1 / 1000 := by
    rw [intCast_le_thousandth]
    omega
  have hhigh : ¬ py + knobButtonNeutralDiameter / 2 + arrowHeight > size.height := by omega
  unfold moveArrow
  dsimp only
  rw [if_neg hlow, if_neg hhigh]

lemma moveArrow_orientation :
    (moveArrow size x y px py knobButtonNeutralDiameter).orientation =
      (chooseQuadrant x y px py (knobButtonNeutralDiameter / 2)
        (knobButtonNeutralDiameter / 2)).1 := rfl

/-- A knob beside which there is room for the arrow is inside. -/
lemma inside_of_not_clampedX (h : ¬ ArrowClampedX size px) : Inside size.width px := by
  unfold ArrowClampedX arrowWidth at h
  unfold Inside
  omega

lemma inside_of_not_clampedY (h : ¬ ArrowClampedY size py) : Inside size.height py := by
  unfold ArrowClampedY arrowHeight at h
  unfold Inside
  omega

/-- **The arrow is beside the knob in the quadrant of the values**, on each axis on which it is not
clamped, exactly if the comparisons do not leave the values out or both axes are clamped.

**Proof sketch.** Where the comparisons choose a quadrant, it is that of the values, and the bounds
are computed from the knob. Where they leave the values out the bounds stay at zero, which is beside
no knob, so both axes have to be clamped. -/
lemma moveArrow_placed_iff {b : Bounds}
    (hx : Inside size.width px → b.x = px - knobButtonNeutralDiameter / 2)
    (hy : Inside size.height py → b.y = py - knobButtonNeutralDiameter / 2)
    (hwidth : b.width = knobButtonNeutralDiameter)
    (hheight : b.height = knobButtonNeutralDiameter) :
    ((¬ ArrowClampedX size px → (moveArrow size x y px py knobButtonNeutralDiameter).bounds.x =
          if 1 / 2 < x then b.x + b.width else b.x - arrowWidth) ∧
        (¬ ArrowClampedY size py → (moveArrow size x y px py knobButtonNeutralDiameter).bounds.y =
          if 1 / 2 < y then b.y - arrowHeight + 4 else b.y + b.height) ∧
        (¬ (ArrowClampedX size px ∧ ArrowClampedY size py) →
          (moveArrow size x y px py knobButtonNeutralDiameter).orientation = quadrant x y)) ↔
      (1 / 2 < x → y = 1 / 2 → ArrowClampedX size px ∧ ArrowClampedY size py) := by
  have hpos : 0 < knobButtonNeutralDiameter := by decide
  have hhalf : knobButtonNeutralDiameter = 2 * (knobButtonNeutralDiameter / 2) := rfl
  constructor
  · rintro ⟨harrowX, harrowY, -⟩ hright rfl
    by_contra hclamped
    rw [not_and_or] at hclamped
    rcases hclamped with hfree | hfree
    · have hin := inside_of_not_clampedX hfree
      have hzero := harrowX hfree
      rw [moveArrow_x hfree, chooseQuadrant_half hright, if_pos hright, hx hin, hwidth] at hzero
      unfold Inside at hin
      dsimp only at hzero
      omega
    · have hin := inside_of_not_clampedY hfree
      have hzero := harrowY hfree
      rw [moveArrow_y hfree, chooseQuadrant_half hright, if_neg (lt_irrefl _), hy hin,
        hheight] at hzero
      unfold Inside at hin
      dsimp only at hzero
      omega
  · intro h
    by_cases hline : 1 / 2 < x ∧ y = 1 / 2
    · have hclamped := h hline.1 hline.2
      exact ⟨fun hfree => absurd hclamped.1 hfree, fun hfree => absurd hclamped.2 hfree,
        fun hfree => absurd hclamped hfree⟩
    · refine ⟨fun hfree => ?_, fun hfree => ?_, fun _ => ?_⟩
      · rw [moveArrow_x hfree, chooseQuadrant_eq hline, hx (inside_of_not_clampedX hfree), hwidth]
        dsimp only
        split_ifs
        · omega
        · rfl
      · rw [moveArrow_y hfree, chooseQuadrant_eq hline, hy (inside_of_not_clampedY hfree), hheight]
        dsimp only
        split_ifs
        · rfl
        · omega
      · rw [moveArrow_orientation, chooseQuadrant_eq hline]

end MoveArrow

/-! ## The runs -/

namespace Run

/-- Every knob is where it can be. -/
def Inv (s : Run) : Prop :=
  ∀ k, AxisInv size.width (s.foundX k) (s.pad.knob k).x ∧
    AxisInv size.height (s.foundY k) (s.pad.knob k).y

lemma inv_start (xNorm yNorm : NetworkId → ℚ) : (start xNorm yNorm).Inv size :=
  fun _ => ⟨rfl, rfl⟩

/-- **Every event leaves the knobs where they can be.**

**Proof sketch.** The events that only store a value keep all positions. `moveButton` places one
knob, whose axes advance by `AxisInv.next`, and leaves the other ones where they were. -/
lemma Inv.step {s s' : Run} {e : Event} (h : s.Inv size) (hs : s.step r size e = some s') :
    s'.Inv size := by
  cases e with
  | tranShaperChanged k newValue =>
    obtain rfl := Option.some.inj hs
    exact h
  | filterChanged k newValue =>
    obtain rfl := Option.some.inj hs
    exact h
  | moveButton k =>
    obtain rfl := Option.some.inj hs
    intro d
    by_cases hd : d = k
    · subst hd
      obtain ⟨hx, hy⟩ := moveButton_knob r size s.pad d
      show AxisInv size.width (Function.update s.foundX d _ d) _ ∧
        AxisInv size.height (Function.update s.foundY d _ d) _
      rw [Function.update_self, Function.update_self, hx, hy]
      exact ⟨(h d).1.next, (h d).2.next⟩
    · show AxisInv size.width (Function.update s.foundX k _ d) _ ∧
        AxisInv size.height (Function.update s.foundY k _ d) _
      rw [Function.update_of_ne hd, Function.update_of_ne hd, moveButton_knob_of_ne r size s.pad hd]
      exact h d

/-- **One move shows the current values exactly if the knob can be placed.**

**Proof sketch.** If the knob is inside on one axis at least, its centre and the arrow are placed as
the lemmas about either of them say; otherwise `moveArrow` is not called at all. -/
lemma Inv.shown_iff {s : Run} (h : s.Inv size) (e : Event) :
    s.Shown r size e ↔ s.Placeable r size e := by
  cases e with
  | tranShaperChanged k newValue | filterChanged k newValue => exact Iff.rfl
  | moveButton k =>
    obtain ⟨hx, hy⟩ := moveButton_knob r size s.pad k
    by_cases hin : Inside size.width (s.pad.xPixel r size k) ∨
        Inside size.height (s.pad.yPixel r size k)
    · obtain ⟨hwidth, hheight, hcalls⟩ := moveButton_of_inside r size s.pad k hin
      have hcentreX := (h k).1.centre_iff size.knob_le_width (s.pad.xPixel r size k)
      have hcentreY := (h k).2.centre_iff size.knob_le_height (s.pad.yPixel r size k)
      have harrow := moveArrow_placed_iff (x := s.pad.xNorm k) (y := s.pad.yNorm k)
        (fun hinX => hx.trans (if_pos hinX)) (fun hinY => hy.trans (if_pos hinY)) hwidth hheight
      rw [← hx] at hcentreX
      rw [← hy] at hcentreY
      constructor
      · intro hplaced
        have hcx := hplaced.centre_x
        have hcy := hplaced.centre_y
        rw [hwidth, moveButton_xPixel] at hcx
        rw [hheight, moveButton_yPixel] at hcy
        have harrowX := hplaced.arrow_x
        have harrowY := hplaced.arrow_y
        have horientation := hplaced.orientation
        simp only [moveButton_xPixel, moveButton_yPixel, moveButton_xNorm, moveButton_yNorm,
          moveButton_arrow] at harrowX harrowY horientation
        exact ⟨hin, hcentreX.mp hcx, hcentreY.mp hcy,
          harrow.mp ⟨harrowX, harrowY, horientation⟩⟩
      · rintro ⟨-, hOnX, hOnY, hvalues⟩
        obtain ⟨harrowX, harrowY, horientation⟩ := harrow.mpr hvalues
        constructor
        · rw [hwidth, moveButton_xPixel]
          exact hcentreX.mpr hOnX
        · rw [hheight, moveButton_yPixel]
          exact hcentreY.mpr hOnY
        · rw [hcalls, moveButton_xNorm, moveButton_yNorm]
        · simpa only [moveButton_xPixel, moveButton_xNorm, moveButton_arrow] using harrowX
        · simpa only [moveButton_yPixel, moveButton_yNorm, moveButton_arrow] using harrowY
        · simpa only [moveButton_xPixel, moveButton_yPixel, moveButton_xNorm, moveButton_yNorm,
            moveButton_arrow] using horientation
    · have hout := not_or.mp hin
      refine iff_of_false (fun hplaced => ?_) (fun hplaceable => hin hplaceable.1)
      have hcalled := hplaced.called
      rw [moveButton_of_outside r size s.pad k hout.1 hout.2] at hcalled
      cases hcalled

end Run

end XYPad

open XYPad Run in
/-- **When the knobs show the parameters.** A pad is constructed, and parameters change and
`moveButton` is called in any order. After each call the knob, the callback and the arrow show the
current values, exactly if each call finds both pixels where a knob can be placed, one of them
inside, and no values on the line below the upper right quadrant with an arrow that is not clamped.

A pixel that is not inside can be placed only before the knob has been inside on that axis, and
only at the left or upper edge.

**Proof sketch.** A knob that has been inside on an axis is never at its edge afterwards, since the
pixels outside leave the coordinate as it is. -/
theorem knobs_placed_iff (r : Rounding) (size : Size) (xNorm yNorm : NetworkId → ℚ)
    (es : List Event) :
    Transition.StepsMeet (step r size) (Shown r size) (start xNorm yNorm) es ↔
      Transition.StepsMeet (step r size) (Placeable r size) (start xNorm yNorm) es :=
  Transition.stepsMeet_iff_of_invariant (D := fun _ _ => True)
    (fun _ _ _ h _ hs => h.step r size hs) (fun _ e h _ => h.shown_iff r size e)
    (inv_start size xNorm yNorm) (Transition.stepsMeet_of_forall _ fun _ _ => trivial)

open XYPad Run in
/-- A pad of 500 by 500 pixels. The first knob is moved to the default values of its parameters;
then the shaper parameter becomes 1, and the knob stays where it was. -/
theorem knob_stays_behind :
    ¬ Transition.StepsMeet (step .up ⟨500, 500, by decide, by decide⟩)
      (Shown .up ⟨500, 500, by decide, by decide⟩)
      (start (fun k => ParameterId.defaultValue (.tranShaper k))
        (fun k => ParameterId.defaultValue (.filter k)))
      [.moveButton .network1, .tranShaperChanged .network1 1, .moveButton .network1] := by
  intro h
  have hplaced := (((h _ rfl).2 _ rfl).2 _ rfl).1
  have hcentre := hplaced.centre_x
  revert hcentre
  decide +kernel
