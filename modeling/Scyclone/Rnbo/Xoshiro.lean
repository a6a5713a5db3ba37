import Mathlib.Algebra.Order.Field.Basic
import Mathlib.Algebra.Order.Ring.Rat
import Mathlib.Data.Nat.Cast.Order.Ring
import Mathlib.Logic.Function.Iterate
import Mathlib.Tactic.NormNum
import Mathlib.Tactic.Linarith

set_option relaxedAutoImplicit false
set_option autoImplicit false

/-!
# The noise of the grain delay

`xoshiro_reset` and `xoshiro_next` of `RNBO_AudioSignal.h`, for 64-bit words: a generator of four
words that are only shifted, rotated and combined by exclusive or. Such a generator stays at zero
once all its words are zero.

## Main definitions

* `XoshiroState`, `XoshiroState.reset`, `XoshiroState.next` — the generator.

## Main results

* `XoshiroState.next_injective` — no two states have the same successor.
* `noise_never_stops` — no seed leads to the state of zeros, and every value lies between -1 and 1.
-/

/-- `XoshiroState`. -/
structure XoshiroState where
  word0 : BitVec 64
  word1 : BitVec 64
  word2 : BitVec 64
  word3 : BitVec 64
  deriving DecidableEq

namespace XoshiroState

/-- `xoshiro_splitmix64`. -/
def splitmix64 (seed : BitVec 64) : BitVec 64 :=
  let z := seed + 0x9e3779b97f4a7c15#64
  let z := (z ^^^ (z >>> 30)) * 0xbf58476d1ce4e5b9#64
  let z := (z ^^^ (z >>> 27)) * 0x94d049bb133111eb#64
  z ^^^ (z >>> 31)

/-- `xoshiro_reset`, for the seed as a word. -/
def reset (x : BitVec 64) : XoshiroState :=
  let state0 := splitmix64 x
  let state1 := splitmix64 state0
  let state2 := splitmix64 state1
  let state3 := splitmix64 state2
  ⟨state0, state1, state2, state3⟩

/-- What `xoshiro_next` does to the state. -/
def next (state : XoshiroState) : XoshiroState :=
  let t := state.word1 <<< 17
  let word2 := state.word2 ^^^ state.word0
  let word3 := state.word3 ^^^ state.word1
  let word1 := state.word1 ^^^ word2
  let word0 := state.word0 ^^^ word3
  let word2 := word2 ^^^ t
  let word3 := (word3 <<< 45) ||| (word3 >>> 19)
  ⟨word0, word1, word2, word3⟩

/-- What `xoshiro_next` returns. -/
def value (state : XoshiroState) : ℚ :=
  ((state.word0 + state.word3) >>> 11).toNat * (1 / 2 ^ 52) - 1

/-- The state that the generator cannot leave. -/
def zeros : XoshiroState := ⟨0, 0, 0, 0⟩

lemma next_zeros : zeros.next = zeros := by decide

/-! ## Successors -/

/-- Words that give the same exclusive or with a word are equal. -/
lemma eq_of_xor_eq_xor_right {x y z : BitVec 64} (h : x ^^^ z = y ^^^ z) : x = y := by
  rw [← BitVec.xor_zero (x := x), ← BitVec.xor_self (x := z), ← BitVec.xor_assoc, h,
    BitVec.xor_assoc, BitVec.xor_self, BitVec.xor_zero]

lemma eq_of_xor_eq_xor_left {x y z : BitVec 64} (h : z ^^^ x = z ^^^ y) : x = y :=
  eq_of_xor_eq_xor_right (z := z) (by rwa [BitVec.xor_comm x, BitVec.xor_comm y])

/-- A word that a shift to the left leaves alone is zero.

**Proof sketch.** Its lowest bits are those that were shifted in, and every other bit is a copy of a
lower one. -/
lemma eq_zero_of_shiftLeft_eq {x : BitVec 64} {s : ℕ} (hs : 0 < s) (h : x <<< s = x) : x = 0 := by
  refine BitVec.eq_of_getLsbD_eq fun i hi => ?_
  change x.getLsbD i = (0#64).getLsbD i
  rw [BitVec.getLsbD_zero]
  induction i using Nat.strong_induction_on with
  | _ i ih =>
    have hbit := congrArg (fun y : BitVec 64 => y.getLsbD i) h
    simp only [BitVec.getLsbD_shiftLeft, hi, decide_true, Bool.true_and] at hbit
    rcases Nat.lt_or_ge i s with hlt | hge
    · rw [← hbit, decide_eq_true hlt, Bool.not_true, Bool.false_and]
    · rw [← hbit, ih (i - s) (by omega) (by omega), Bool.and_false]

/-- A word can be told from its exclusive or with itself shifted. -/
lemma xor_shiftLeft_injective {x y : BitVec 64} (h : x ^^^ x <<< 17 = y ^^^ y <<< 17) : x = y := by
  have hzero : x ^^^ y = 0 := by
    refine eq_zero_of_shiftLeft_eq (s := 17) (by omega) ?_
    refine BitVec.eq_of_getLsbD_eq fun i hi => ?_
    have hbit := congrArg (fun z : BitVec 64 => z.getLsbD i) h
    simp only [BitVec.getLsbD_xor, BitVec.getLsbD_shiftLeft, hi, decide_true, Bool.true_and]
      at hbit ⊢
    revert hbit
    cases x.getLsbD i <;> cases y.getLsbD i <;> cases x.getLsbD (i - 17) <;>
      cases y.getLsbD (i - 17) <;> cases decide (i < 17) <;> decide
  exact BitVec.xor_eq_zero_iff.mp hzero

/-- A word can be told from its rotation. -/
lemma rotl_injective {x y : BitVec 64}
    (h : (x <<< 45) ||| (x >>> 19) = (y <<< 45) ||| (y >>> 19)) : x = y := by
  have hrotate : ∀ z : BitVec 64, (z <<< 45) ||| (z >>> 19) = z.rotateLeft 45 := fun z => by
    rw [BitVec.rotateLeft_def]
  rw [hrotate, hrotate] at h
  have hback := congrArg (fun z : BitVec 64 => z.rotateRight 45) h
  refine BitVec.eq_of_getLsbD_eq fun i hi => ?_
  have hbit := congrArg (fun z : BitVec 64 => z.getLsbD ((i + 45) % 64)) h
  simp only [BitVec.getLsbD_rotateLeft] at hbit
  rcases Nat.lt_or_ge i 19 with hlt | hge
  · have hmod : (i + 45) % 64 = i + 45 := Nat.mod_eq_of_lt (by omega)
    rw [hmod] at hbit
    simpa [hi, show ¬ i + 45 < 45 by omega, show i + 45 < 64 by omega] using hbit
  · have hmod : (i + 45) % 64 = i - 19 := by omega
    rw [hmod] at hbit
    simpa [show i - 19 < 45 by omega, show 19 + (i - 19) = i by omega] using hbit

/-- **No two states have the same successor.**

**Proof sketch.** The last word gives the rotated one, and with it the first; the two words in the
middle give the second word up to a shift of itself, which tells it. -/
theorem next_injective : Function.Injective next := by
  rintro ⟨a, b, c, d⟩ ⟨a', b', c', d'⟩ h
  simp only [next, XoshiroState.mk.injEq] at h
  obtain ⟨h0, h1, h2, h3⟩ := h
  have hd := rotl_injective h3
  have ha : a = a' := by
    rw [hd] at h0
    exact eq_of_xor_eq_xor_right h0
  have hb : b = b' := by
    refine xor_shiftLeft_injective ?_
    have hsum := congrArg₂ (· ^^^ ·) h1 h2
    have hcancel : ∀ x y z : BitVec 64, (x ^^^ y) ^^^ (y ^^^ z) = x ^^^ z := by
      intro x y z
      rw [BitVec.xor_assoc, ← BitVec.xor_assoc y y z, BitVec.xor_self, BitVec.zero_xor]
    simpa only [hcancel] using hsum
  rw [ha, hb] at h1
  rw [hb] at hd
  have hc : c = c' := eq_of_xor_eq_xor_right (eq_of_xor_eq_xor_left h1)
  rw [ha, hb, hc, eq_of_xor_eq_xor_right hd]

/-- No seed leads to the state of zeros. -/
lemma reset_ne_zeros (x : BitVec 64) : reset x ≠ zeros := by
  intro h
  have h0 : splitmix64 x = 0 := congrArg word0 h
  have h1 : splitmix64 (splitmix64 x) = 0 := congrArg word1 h
  rw [h0] at h1
  exact absurd h1 (by decide)

/-- The state of zeros is reached from itself alone. -/
lemma next_ne_zeros {state : XoshiroState} (h : state ≠ zeros) : state.next ≠ zeros := by
  intro hnext
  rw [← next_zeros] at hnext
  exact h (next_injective hnext)

/-! ## Values -/

/-- A value lies between -1 and 1. -/
lemma value_bounds (state : XoshiroState) : -1 ≤ state.value ∧ state.value < 1 := by
  set n := ((state.word0 + state.word3) >>> 11).toNat with hn
  have hlt : n < 2 ^ 53 := by
    rw [hn, BitVec.toNat_ushiftRight, Nat.shiftRight_eq_div_pow]
    have := (state.word0 + state.word3).isLt
    omega
  have hcast : (n : ℚ) < 2 ^ 53 := by exact_mod_cast hlt
  have hpos : (0 : ℚ) < 1 / 2 ^ 52 := by positivity
  have hvalue : state.value = n * (1 / 2 ^ 52) - 1 := rfl
  rw [hvalue]
  constructor
  · have := mul_nonneg (Nat.cast_nonneg (α := ℚ) n) hpos.le
    linarith
  · have hscaled := mul_lt_mul_of_pos_right hcast hpos
    have htwo : (2 : ℚ) ^ 53 * (1 / 2 ^ 52) = 2 := by norm_num
    rw [htwo] at hscaled
    linarith

end XoshiroState

/-- **The noise never stops.** From any seed and after any number of values the generator is not in
the state that it could not leave, and each value lies between -1 and 1.

**Proof sketch.** A step can be undone, so only the state of zeros leads to itself; and `splitmix64`
does not map zero to zero, so the words of a seed are not all zero. -/
theorem noise_never_stops (x : BitVec 64) (n : ℕ) :
    XoshiroState.next^[n] (.reset x) ≠ .zeros ∧
      -1 ≤ (XoshiroState.next^[n] (.reset x)).value ∧
      (XoshiroState.next^[n] (.reset x)).value < 1 := by
  refine ⟨?_, XoshiroState.value_bounds _⟩
  induction n with
  | zero => exact XoshiroState.reset_ne_zeros x
  | succ n ih =>
    rw [Function.iterate_succ_apply']
    exact XoshiroState.next_ne_zeros ih
