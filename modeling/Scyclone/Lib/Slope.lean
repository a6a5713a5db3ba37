import Mathlib.Algebra.Order.Field.Basic
import Mathlib.Order.Interval.Set.Basic
import Mathlib.Tactic.Linarith
import Mathlib.Tactic.Ring

set_option relaxedAutoImplicit false
set_option autoImplicit false

/-!
# Functions with bounded slope

A function whose increments lie between those of two lines. The rules put such functions together:
side by side, limited from below, and shifted.

## Main definitions

* `Slope.Within` — the slopes between the points of a set lie between two bounds.

## Main results

* `Slope.Within.glue` — the rule for two pieces that share a point.
* `Slope.Within.max_const` — the rule for a lower limit.
* `Slope.Within.abs_sub_le` — how far apart two values are.
-/

namespace Slope

variable {K : Type*} [Field K] [LinearOrder K] {lo hi : K} {s t : Set K} {f g : K → K}

/-- The slopes of `f` between the points of `s` lie between `lo` and `hi`. -/
def Within (lo hi : K) (s : Set K) (f : K → K) : Prop :=
  ∀ x ∈ s, ∀ y ∈ s, x ≤ y → lo * (y - x) ≤ f y - f x ∧ f y - f x ≤ hi * (y - x)

/-- A function that agrees with `f` on the set. -/
lemma Within.congr (h : Within lo hi s f) (hfg : ∀ x ∈ s, g x = f x) : Within lo hi s g := by
  intro x hx y hy hxy
  rw [hfg x hx, hfg y hy]
  exact h x hx y hy hxy

/-- A function shifted by `a`. -/
lemma Within.comp_sub (h : Within lo hi Set.univ f) (a : K) [IsStrictOrderedRing K] :
    Within lo hi Set.univ fun x => f (x - a) := by
  intro x _ y _ hxy
  have := h (x - a) trivial (y - a) trivial (sub_le_sub_right hxy a)
  rwa [sub_sub_sub_cancel_right] at this

variable [IsStrictOrderedRing K]

/-- A constant. -/
lemma within_const (hlo : lo ≤ 0) (hhi : 0 ≤ hi) (c : K) : Within lo hi s fun _ => c := by
  intro x _ y _ hxy
  have hd : 0 ≤ y - x := sub_nonneg.mpr hxy
  rw [sub_self]
  exact ⟨mul_nonpos_of_nonpos_of_nonneg hlo hd, mul_nonneg hhi hd⟩

/-- A line through zero. -/
lemma within_linear {m : K} (hlo : lo ≤ m) (hhi : m ≤ hi) : Within lo hi s fun x => m * x := by
  intro x _ y _ hxy
  have hd : 0 ≤ y - x := sub_nonneg.mpr hxy
  rw [← mul_sub]
  exact ⟨mul_le_mul_of_nonneg_right hlo hd, mul_le_mul_of_nonneg_right hhi hd⟩

/-- **The rule for two pieces**: if the slopes are bounded on both sides of a point of the set, they
are bounded on the set. -/
theorem Within.glue {a : K} (ha : a ∈ s) (hleft : Within lo hi (s ∩ Set.Iic a) f)
    (hright : Within lo hi (s ∩ Set.Ici a) f) : Within lo hi s f := by
  intro x hx y hy hxy
  rcases le_total y a with hya | hay
  · exact hleft x ⟨hx, hxy.trans hya⟩ y ⟨hy, hya⟩ hxy
  · rcases le_total a x with hax | hxa
    · exact hright x ⟨hx, hax⟩ y ⟨hy, hax.trans hxy⟩ hxy
    · obtain ⟨h₁, h₁'⟩ := hleft x ⟨hx, hxa⟩ a ⟨ha, le_refl a⟩ hxa
      obtain ⟨h₂, h₂'⟩ := hright a ⟨ha, le_refl a⟩ y ⟨hy, hay⟩ hay
      constructor
      · calc lo * (y - x) = lo * (a - x) + lo * (y - a) := by ring
          _ ≤ (f a - f x) + (f y - f a) := add_le_add h₁ h₂
          _ = f y - f x := by ring
      · calc f y - f x = (f a - f x) + (f y - f a) := by ring
          _ ≤ hi * (a - x) + hi * (y - a) := add_le_add h₁' h₂'
          _ = hi * (y - x) := by ring

/-- **The rule for a lower limit.** -/
theorem Within.max_const (h : Within lo hi s f) (hlo : lo ≤ 0) (hhi : 0 ≤ hi) (c : K) :
    Within lo hi s fun x => max (f x) c := by
  intro x hx y hy hxy
  obtain ⟨h₁, h₂⟩ := h x hx y hy hxy
  have hd : 0 ≤ y - x := sub_nonneg.mpr hxy
  have hdown : lo * (y - x) ≤ 0 := mul_nonpos_of_nonpos_of_nonneg hlo hd
  have hup : 0 ≤ hi * (y - x) := mul_nonneg hhi hd
  show lo * (y - x) ≤ max (f y) c - max (f x) c ∧ max (f y) c - max (f x) c ≤ hi * (y - x)
  rcases le_total (f x) c with hxc | hcx <;> rcases le_total (f y) c with hyc | hcy
  · rw [max_eq_right hxc, max_eq_right hyc]
    constructor <;> linarith
  · rw [max_eq_right hxc, max_eq_left hcy]
    constructor <;> linarith
  · rw [max_eq_left hcx, max_eq_right hyc]
    constructor <;> linarith
  · rw [max_eq_left hcx, max_eq_left hcy]
    exact ⟨h₁, h₂⟩

/-- **How far apart two values are**, of a function that does not fall. -/
theorem Within.abs_sub_le (h : Within 0 hi Set.univ f) (x y : K) :
    |f x - f y| ≤ hi * |x - y| := by
  have hle : ∀ a b, a ≤ b → |f a - f b| ≤ hi * |a - b| := by
    intro a b hab
    obtain ⟨h₁, h₂⟩ := h a trivial b trivial hab
    rw [zero_mul] at h₁
    rw [abs_sub_comm, abs_of_nonneg h₁, abs_sub_comm a b, abs_of_nonneg (sub_nonneg.mpr hab)]
    exact h₂
  rcases le_total x y with hxy | hyx
  · exact hle x y hxy
  · rw [abs_sub_comm, abs_sub_comm x y]
    exact hle y x hyx

end Slope
