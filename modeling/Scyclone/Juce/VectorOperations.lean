import Scyclone.Juce.AudioBuffer
import Scyclone.Lib.Traced

set_option relaxedAutoImplicit false
set_option autoImplicit false

/-!
# Operations on channels, with their accesses

`FloatVectorOperations` reads and writes a number of samples through pointers to channels and
knows no bounds. Each operation here logs the samples it touches, with the size that the buffer
has at that time.

## Main definitions

* `FloatArithmetic` — sample types that are added and multiplied.
* `Access`, `Traced.InBounds` — samples that are read or written, and their bounds.
* `FloatVectorOperations.copy`, `add`, `multiply`.
-/

/-- What the mixing code asks of a sample type. -/
class FloatArithmetic (F : Type) extends FloatSample F, Add F, Mul F, One F where
  /-- The literal `0.5f`. -/
  half : F

export FloatArithmetic (half)

/-- The number `x op y`, or NaN if either is NaN. -/
def ExactFloat.lift₂ (op : ℚ → ℚ → ℚ) : ExactFloat → ExactFloat → ExactFloat
  | .number x, .number y => .number (op x y)
  | _, _ => .nan

instance : FloatArithmetic ExactFloat where
  add := ExactFloat.lift₂ (· + ·)
  mul := ExactFloat.lift₂ (· * ·)
  one := .number 1
  half := .number (1 / 2)

/-! ## Accesses -/

/-- A sample that is read or written, in a buffer of the size given. -/
structure Access where
  numChannels : ℕ
  numSamples : ℕ
  channel : ℕ
  sample : ℕ
  deriving DecidableEq, Repr

/-- The sample is one of the buffer's. -/
def Access.InBounds (a : Access) : Prop := a.channel < a.numChannels ∧ a.sample < a.numSamples

/-- Everything that a computation touches lies within its buffer. -/
def Traced.InBounds {α : Type} (x : Traced Access α) : Prop := ∀ a ∈ x.log, a.InBounds

/-- A sequence of two computations stays in bounds if both do. -/
lemma Traced.inBounds_bind {α β : Type} (x : Traced Access α) (f : α → Traced Access β) :
    (x >>= f).InBounds ↔ x.InBounds ∧ (f x.value).InBounds := forall_log_bind x f

variable {F : Type}

namespace AudioBuffer

/-- The first `n` samples behind a pointer to a channel. -/
def touch (b : AudioBuffer F) (channel n : ℕ) : List Access :=
  (List.range n).map fun i => ⟨b.numChannels, b.numSamples, channel, i⟩

/-- All samples of the buffer. -/
def touchAll (b : AudioBuffer F) : List Access :=
  (List.range b.numChannels).flatMap fun c => b.touch c b.numSamples

/-- The first `n` samples of a channel, replaced. -/
def overwrite (b : AudioBuffer F) (channel n : ℕ) (f : ℕ → F) : AudioBuffer F :=
  { b with data := fun c i => if c = channel ∧ i < n then f i else b.data c i }

/-- The buffer with other contents, as processing in place leaves it. -/
def withData (b : AudioBuffer F) (data : ℕ → ℕ → F) : AudioBuffer F := { b with data }

@[simp] lemma withData_numChannels (b : AudioBuffer F) (data : ℕ → ℕ → F) :
    (b.withData data).numChannels = b.numChannels := rfl

@[simp] lemma withData_numSamples (b : AudioBuffer F) (data : ℕ → ℕ → F) :
    (b.withData data).numSamples = b.numSamples := rfl

@[simp] lemma overwrite_numChannels (b : AudioBuffer F) (c n : ℕ) (f : ℕ → F) :
    (b.overwrite c n f).numChannels = b.numChannels := rfl

@[simp] lemma overwrite_numSamples (b : AudioBuffer F) (c n : ℕ) (f : ℕ → F) :
    (b.overwrite c n f).numSamples = b.numSamples := rfl

@[simp] lemma touch_overwrite (b : AudioBuffer F) (c n : ℕ) (f : ℕ → F) :
    (b.overwrite c n f).touch = b.touch := rfl

@[simp] lemma makeCopyOf_numChannels (b other : AudioBuffer F) :
    (b.makeCopyOf other).numChannels = other.numChannels := rfl

@[simp] lemma makeCopyOf_numSamples (b other : AudioBuffer F) :
    (b.makeCopyOf other).numSamples = other.numSamples := rfl

@[simp] lemma clear_numChannels [Zero F] (b : AudioBuffer F) :
    b.clear.numChannels = b.numChannels := rfl

/-- The accesses behind a pointer are in bounds exactly if the channel exists and has so many
samples, or nothing is touched. -/
lemma forall_touch_inBounds {b : AudioBuffer F} {channel n : ℕ} :
    (∀ a ∈ b.touch channel n, a.InBounds) ↔
      n = 0 ∨ channel < b.numChannels ∧ n ≤ b.numSamples := by
  simp only [touch, List.mem_map, List.mem_range, Access.InBounds]
  constructor
  · intro h
    rcases Nat.eq_zero_or_pos n with h0 | hpos
    · exact Or.inl h0
    · obtain ⟨hchannel, hlast⟩ := h _ ⟨n - 1, by omega, rfl⟩
      exact Or.inr ⟨hchannel, by simp only at hlast; omega⟩
  · rintro h a ⟨i, hi, rfl⟩
    rcases h with h0 | ⟨hchannel, hn⟩
    · omega
    · exact ⟨hchannel, by simp only; omega⟩

/-- Touching all samples of a buffer stays within it. -/
lemma touchAll_inBounds (b : AudioBuffer F) : ∀ a ∈ b.touchAll, a.InBounds := by
  intro a ha
  obtain ⟨c, hc, ha⟩ := List.mem_flatMap.mp ha
  exact forall_touch_inBounds.mpr (Or.inr ⟨List.mem_range.mp hc, le_rfl⟩) a ha

/-- A copy has the samples of its original. -/
lemma samples_makeCopyOf (b : AudioBuffer F) {other : AudioBuffer F} {c : ℕ}
    (hc : c < other.numChannels) : (b.makeCopyOf other).samples c = other.samples c := by
  simp only [samples, makeCopyOf_numSamples]
  refine List.map_congr_left fun i hi => ?_
  simp only [makeCopyOf, hc, List.mem_range.mp hi, and_self, if_true]

end AudioBuffer

/-! ## The operations -/

namespace FloatVectorOperations

/-- `copy (dest, src, n)`, the pointers leading to a channel each. -/
def copy (dest : AudioBuffer F) (destChannel : ℕ) (src : AudioBuffer F) (srcChannel n : ℕ) :
    Traced Access (AudioBuffer F) :=
  ⟨dest.overwrite destChannel n (src.data srcChannel),
    src.touch srcChannel n ++ dest.touch destChannel n⟩

/-- `add (dest, src, n)`. -/
def add [Add F] (dest : AudioBuffer F) (destChannel : ℕ) (src : AudioBuffer F)
    (srcChannel n : ℕ) : Traced Access (AudioBuffer F) :=
  ⟨dest.overwrite destChannel n fun i => dest.data destChannel i + src.data srcChannel i,
    src.touch srcChannel n ++ dest.touch destChannel n⟩

/-- `multiply (dest, multiplier, n)`. -/
def multiply [Mul F] (dest : AudioBuffer F) (destChannel : ℕ) (multiplier : F) (n : ℕ) :
    Traced Access (AudioBuffer F) :=
  ⟨dest.overwrite destChannel n fun i => dest.data destChannel i * multiplier,
    dest.touch destChannel n⟩

end FloatVectorOperations

/-- `target.makeCopyOf (source)`: the target has the size of the source when it is written. -/
def AudioBuffer.tracedCopyOf (target source : AudioBuffer F) : Traced Access (AudioBuffer F) :=
  ⟨target.makeCopyOf source, source.touchAll ++ (target.makeCopyOf source).touchAll⟩
