import Mathlib.Algebra.Order.Floor.Ring
import Mathlib.Data.Nat.Bitwise
import Mathlib.Data.Rat.Floor
import Scyclone.Juce.AudioBuffer
import Scyclone.Lib.CyclicStore
import Scyclone.Lib.PowerOfTwo

set_option relaxedAutoImplicit false
set_option autoImplicit false

/-!
# The delay lines of the grain delay

The two delay lines of the exported patch, `gen_01_del_inL` and `gen_01_del_inR`, have the same
code. A line writes at the position where it reads, and its positions are masked with its size less
one, which is a power of two. The samples written since the line was last cleared are the past of
the line, newest first; what the line reads is compared with the past.

## Main definitions

* `DelayLine` — a delay line, with `reset`, `write`, `step` and `read`.
* `DelayLine.Wf` — the sizes of a line that was reset.
* `DelayLine.Tracks` — the cells hold the past, with zeros before it.
* `delayed` — the past, read between two samples.

## Main results

* `nextpoweroftwo_eq` — the least power of two that is not smaller.
* `DelayLine.tracks_reset`, `DelayLine.Tracks.step_write` — the past after a reset and after a
  sample.
* `DelayLine.Tracks.read_write` — a line reads its past, up to one sample less than its size.
-/

/-! ## Sizes -/

/-- `nextpoweroftwo`. -/
def nextpoweroftwo (v : ℕ) : ℕ :=
  let v := v - 1
  let v := v ||| v >>> 1
  let v := v ||| v >>> 2
  let v := v ||| v >>> 4
  let v := v ||| v >>> 8
  let v := v ||| v >>> 16
  let v := v ||| v >>> 32
  v + 1

/-- **The least power of two that is not smaller.** -/
lemma nextpoweroftwo_eq {v : ℕ} (hv : 0 < v) (hlt : v ≤ 2 ^ 64) :
    nextpoweroftwo v = 2 ^ Nat.clog 2 v :=
  BitSmear.smear_pred_add_one (k := 6) hv hlt

/-- `gen_01_del_inL_calcSizeInSamples`, with `gen_01_del_inL_evaluateSizeExpr`: the longest delay
and the size of the buffer. -/
def calcSizeInSamples (samplerate : ℚ) : ℕ × ℕ :=
  let sizeInSamples := (max ⌊samplerate * 2⌋ 2).toNat
  (sizeInSamples, nextpoweroftwo sizeInSamples)

lemma two_le_calcSizeInSamples_fst (samplerate : ℚ) : 2 ≤ (calcSizeInSamples samplerate).1 := by
  have hmax : 2 ≤ max ⌊samplerate * 2⌋ 2 := le_max_right _ _
  show 2 ≤ (max ⌊samplerate * 2⌋ 2).toNat
  omega

/-! ## The line -/

/-- The members `gen_01_del_inL_buffer`, `_maxdelay`, `_wrap`, `_reader` and `_writer`. -/
structure DelayLine where
  buffer : AudioBuffer ℚ
  maxdelay : ℕ := 0
  wrap : ℕ := 0
  reader : ℕ := 0
  writer : ℕ := 0

namespace DelayLine

/-- `gen_01_del_inL_init`. The buffer has the requested size as soon as it is allocated. -/
def init (samplerate : ℚ) : DelayLine :=
  let result := calcSizeInSamples samplerate
  { buffer := ⟨1, result.2, fun _ _ => 0⟩
    maxdelay := result.1
    wrap := result.2 - 1 }

/-- `gen_01_del_inL_reset`, which is all that `gen_01_del_inL_dspsetup` calls. -/
def reset (d : DelayLine) (samplerate : ℚ) : DelayLine :=
  let result := calcSizeInSamples samplerate
  let d := { d with
    maxdelay := result.1
    buffer := (d.buffer.setSize 1 result.2 d.buffer.data).clear
    wrap := result.2 - 1 }
  if d.reader ≥ d.maxdelay ∨ d.writer ≥ d.maxdelay then { d with reader := 0, writer := 0 } else d

/-- `gen_01_del_inL_write`. -/
def write (d : DelayLine) (v : ℚ) : DelayLine :=
  { d with writer := d.reader, buffer := d.buffer.setSample 0 d.reader v }

/-- `gen_01_del_inL_step`. -/
def step (d : DelayLine) : DelayLine :=
  let reader := d.reader + 1
  { d with reader := if reader ≥ d.buffer.numSamples then 0 else reader }

/-- `linearinterp`. -/
def linearinterp (frac x y : ℚ) : ℚ := x + (y - x) * frac

/-- `gen_01_del_inL_read`. -/
def read (d : DelayLine) (size : ℚ) : ℚ :=
  let least : ℚ := if d.reader ≠ d.writer then 1 else 0
  let r : ℚ := d.buffer.numSamples + d.reader -
    (if size > d.maxdelay then (d.maxdelay : ℚ) else if size < least then least else size)
  let index1 := ⌊r⌋
  let frac := r - index1
  let index2 := index1 + 1
  linearinterp frac (d.buffer.getSample 0 (index1.toNat &&& d.wrap))
    (d.buffer.getSample 0 (index2.toNat &&& d.wrap))

/-- The sizes of a line that was reset: the positions are masked by a power of two less one. -/
structure Wf (d : DelayLine) : Prop where
  size_eq : ∃ k, d.buffer.numSamples = 2 ^ k
  wrap_eq : d.wrap = d.buffer.numSamples - 1
  maxdelay_le : d.maxdelay ≤ d.buffer.numSamples
  two_le_maxdelay : 2 ≤ d.maxdelay

lemma Wf.size_pos {d : DelayLine} (h : d.Wf) : 0 < d.buffer.numSamples := by
  have := h.maxdelay_le
  have := h.two_le_maxdelay
  omega

/-- **The mask is the remainder.** -/
lemma Wf.and_wrap {d : DelayLine} (h : d.Wf) (i : ℕ) : i &&& d.wrap = i % d.buffer.numSamples := by
  obtain ⟨k, hk⟩ := h.size_eq
  rw [h.wrap_eq, hk, Nat.and_two_pow_sub_one_eq_mod]

/-- A reset leads to the sizes for the sample rate. -/
lemma wf_reset (d : DelayLine) {samplerate : ℚ} (hrate : samplerate ≤ 2 ^ 62) :
    (d.reset samplerate).Wf := by
  have htwo := two_le_calcSizeInSamples_fst samplerate
  have hfloor : ⌊samplerate * 2⌋ ≤ 2 ^ 63 := by
    refine Int.floor_le_iff.mpr ?_
    push_cast
    linarith
  have hlt : (calcSizeInSamples samplerate).1 ≤ 2 ^ 64 := by
    show (max ⌊samplerate * 2⌋ 2).toNat ≤ 2 ^ 64
    omega
  have hpow : (calcSizeInSamples samplerate).2 = 2 ^ Nat.clog 2 (calcSizeInSamples samplerate).1 :=
    nextpoweroftwo_eq (by omega) hlt
  have hle : (calcSizeInSamples samplerate).1 ≤ (calcSizeInSamples samplerate).2 := by
    rw [hpow]
    exact Nat.le_pow_clog Nat.one_lt_two _
  unfold reset
  simp only [AudioBuffer.setSize_data]
  split_ifs <;> exact ⟨⟨_, hpow⟩, rfl, hle, htwo⟩

lemma Wf.write {d : DelayLine} (h : d.Wf) (v : ℚ) : (d.write v).Wf :=
  ⟨h.size_eq, h.wrap_eq, h.maxdelay_le, h.two_le_maxdelay⟩

lemma Wf.step {d : DelayLine} (h : d.Wf) : d.step.Wf :=
  ⟨h.size_eq, h.wrap_eq, h.maxdelay_le, h.two_le_maxdelay⟩

/-- A line that was initialised is one that was reset. -/
lemma init_eq_reset (samplerate : ℚ) :
    init samplerate = ({ buffer := ⟨0, 0, fun _ _ => 0⟩ } : DelayLine).reset samplerate := by
  have htwo := two_le_calcSizeInSamples_fst samplerate
  have hreader :
      ¬(0 ≥ (calcSizeInSamples samplerate).1 ∨ 0 ≥ (calcSizeInSamples samplerate).1) := by
    omega
  have hempty : ∀ n, (⟨0, 0, fun _ _ => 0⟩ : AudioBuffer ℚ).setSize 1 n (fun _ _ => 0) =
      ⟨1, n, fun _ _ => 0⟩ := fun n => AudioBuffer.setSize_data ⟨0, 0, fun _ _ => 0⟩ 1 n
  unfold reset init
  dsimp only
  rw [if_neg hreader, hempty]
  simp [AudioBuffer.clear]

/-! ## The past -/

/-- The sample of the past that was written `k` samples before the last one; zero before the line
was cleared. -/
def ago (past : List ℚ) (k : ℕ) : ℚ := past.getD k 0

@[simp] lemma ago_nil (k : ℕ) : ago [] k = 0 := by simp [ago]

end DelayLine

open DelayLine

/-- The past `size` samples before the last one, on the line between the two samples next to it. -/
def delayed (past : List ℚ) (size : ℚ) : ℚ :=
  linearinterp (⌈size⌉₊ - size) (ago past ⌈size⌉₊) (ago past (⌈size⌉₊ - 1))

namespace DelayLine

/-- The cells hold the past, after zeros in all of them, and the next sample is written where the
past ends. -/
def Tracks (past : List ℚ) (d : DelayLine) : Prop :=
  ∃ z, d.buffer.numSamples ≤ z ∧
    Cyclic.Holds d.buffer.numSamples (List.replicate z 0 ++ past.reverse) (d.buffer.data 0) ∧
    d.reader = (z + past.length) % d.buffer.numSamples

/-- **A reset forgets the past**, wherever the line was read.

**Proof sketch.** After a reset all cells are zero and the reader is within them. They hold a
history of zeros that fills them once and then goes on up to the reader. -/
lemma tracks_reset (d : DelayLine) {samplerate : ℚ} (hrate : samplerate ≤ 2 ^ 62) :
    Tracks [] (d.reset samplerate) := by
  have hwf := wf_reset d hrate
  set e := d.reset samplerate with he
  have hreader : e.reader < e.buffer.numSamples := by
    refine lt_of_lt_of_le ?_ hwf.maxdelay_le
    have := hwf.two_le_maxdelay
    rw [he] at this ⊢
    unfold reset at this ⊢
    dsimp only at this ⊢
    split_ifs at this ⊢ <;> dsimp only at * <;> omega
  have hzero : ∀ i < e.buffer.numSamples, e.buffer.data 0 i = 0 := by
    intro i hi
    rw [he] at hi ⊢
    unfold reset at hi ⊢
    simp only [AudioBuffer.setSize_data] at hi ⊢
    split_ifs at hi ⊢ <;>
      simpa [AudioBuffer.clear] using fun hge => absurd hge (by
        simpa [AudioBuffer.clear] using hi)
  refine ⟨e.buffer.numSamples + e.reader, Nat.le_add_right _ _, ?_, ?_⟩
  · intro i hi _
    rw [hzero _ (Nat.mod_lt _ hwf.size_pos)]
    simp
  · rw [List.length_nil, Nat.add_zero, Nat.add_mod_left, Nat.mod_eq_of_lt hreader]

/-- An entry of a history that begins with zeros, counted from its end. -/
lemma getElem_replicate_append_reverse (z : ℕ) (past : List ℚ) (k i : ℕ)
    (hi : i < (List.replicate z 0 ++ past.reverse).length) (heq : i + k + 1 = z + past.length) :
    (List.replicate z 0 ++ past.reverse)[i] = ago past k := by
  rcases Nat.lt_or_ge i z with hlt | hge
  · rw [List.getElem_append_left (by simpa using hlt), List.getElem_replicate, ago,
      List.getD_eq_default _ _ (by omega)]
  · have hk : k < past.length := by omega
    have hpos : past.length - 1 - (i - z) = k := by omega
    rw [List.getElem_append_right (by simpa using hge), List.getElem_reverse, ago,
      List.getD_eq_getElem _ _ hk]
    simp only [List.length_replicate, hpos]

/-- The cells right after a sample was written. -/
lemma Tracks.holds_write {past : List ℚ} {d : DelayLine} (h : Tracks past d) (v : ℚ) :
    ∃ z, d.buffer.numSamples ≤ z ∧
      Cyclic.Holds d.buffer.numSamples (List.replicate z 0 ++ (v :: past).reverse)
        ((d.write v).buffer.data 0) ∧
      d.reader = (z + past.length) % d.buffer.numSamples := by
  obtain ⟨z, hz, hholds, hreader⟩ := h
  refine ⟨z, hz, ?_, hreader⟩
  have hwrite := hholds.write v
  rw [List.length_append, List.length_replicate, List.length_reverse, ← hreader,
    List.append_assoc] at hwrite
  rw [List.reverse_cons]
  change Cyclic.Holds d.buffer.numSamples _ ((d.buffer.setSample 0 d.reader v).data 0)
  rwa [AudioBuffer.setSample_data_self]

/-- **A sample extends the past.** -/
lemma Tracks.step_write {past : List ℚ} {d : DelayLine} (hwf : d.Wf) (h : Tracks past d) (v : ℚ) :
    Tracks (v :: past) (d.write v).step := by
  obtain ⟨z, hz, hholds, hreader⟩ := h.holds_write v
  refine ⟨z, hz, hholds, ?_⟩
  have hnext : Cyclic.next d.buffer.numSamples d.reader =
      (z + past.length + 1) % d.buffer.numSamples := by
    rw [hreader]
    exact Cyclic.next_mod hwf.size_pos _
  exact hnext

/-- The cell of a sample of the past, right after the last sample was written.

**Proof sketch.** The line is the past, oldest sample first, behind the zeros of its initialisation.
The sample `k` steps ago stands `k` places before the end of that list, and modulo the length of the
buffer that is the cell in question. -/
lemma Tracks.data_write {past : List ℚ} {d : DelayLine} (h : Tracks past d) (v : ℚ) {k : ℕ}
    (hk : k < d.buffer.numSamples) :
    (d.write v).buffer.data 0 ((d.buffer.numSamples + d.reader - k) % d.buffer.numSamples) =
      ago (v :: past) k := by
  obtain ⟨z, hz, hholds, hreader⟩ := h.holds_write v
  set N := d.buffer.numSamples with hN
  have hlength : (List.replicate z (0 : ℚ) ++ (v :: past).reverse).length =
      z + past.length + 1 := by
    simp [Nat.add_assoc]
  have hcell : (N + d.reader - k) % N = (z + past.length - k) % N := by
    have hdiv := Nat.div_add_mod (z + past.length) N
    rw [← hreader] at hdiv
    have hquot : 0 < (z + past.length) / N := Nat.div_pos (by omega) (by omega)
    have hsplit : z + past.length - k = N + d.reader - k + N * ((z + past.length) / N - 1) := by
      rw [Nat.mul_sub, Nat.mul_one]
      have := Nat.mul_le_mul_left N hquot
      omega
    rw [hsplit, Nat.add_mul_mod_self_left]
  rw [hcell, hholds.read (i := z + past.length - k) (by omega) (by omega)]
  refine getElem_replicate_append_reverse z (v :: past) k _ _ ?_
  rw [List.length_cons]
  omega

/-- **A line reads its past**, up to one sample less than its size.

**Proof sketch.** The position is the size of the buffer and the reader less the delay, so its whole
part lies as many samples before the writer as the delay rounded up. The second sample of the
interpolation is the one after it; for a delay of zero that is an old one, but its weight is
zero. -/
lemma Tracks.read_write {past : List ℚ} {d : DelayLine} (hwf : d.Wf) (h : Tracks past d) (v : ℚ)
    {size : ℚ} (hsize : ⌈min (max size 0) d.maxdelay⌉₊ < d.buffer.numSamples) :
    (d.write v).read size = delayed (v :: past) (min (max size 0) d.maxdelay) := by
  set t := min (max size 0) (d.maxdelay : ℚ) with ht
  set k := ⌈t⌉₊ with hk
  set N := d.buffer.numSamples with hN
  have htpos : 0 ≤ t := le_min (le_max_right _ _) (Nat.cast_nonneg _)
  have hleast : (if (d.write v).reader ≠ (d.write v).writer then (1 : ℚ) else 0) = 0 :=
    if_neg (not_not.mpr rfl)
  have hclamp : (if size > (d.write v).maxdelay then ((d.write v).maxdelay : ℚ)
      else if size < 0 then 0 else size) = t := by
    have hdelay : (0 : ℚ) ≤ d.maxdelay := Nat.cast_nonneg _
    change (if size > d.maxdelay then (d.maxdelay : ℚ) else if size < 0 then 0 else size) = t
    rw [ht]
    split_ifs with hgt hneg
    · rw [max_eq_left (hdelay.trans hgt.le), min_eq_right hgt.le]
    · rw [max_eq_right hneg.le, min_eq_left hdelay]
    · rw [max_eq_left (not_lt.mp hneg), min_eq_left (not_lt.mp hgt)]
  have hceil : (⌈t⌉ : ℤ) = k := (Int.natCast_ceil_eq_ceil htpos).symm
  have hfloor : ⌊(N : ℚ) + d.reader - t⌋ = ((N + d.reader - k : ℕ) : ℤ) := by
    rw [show (N : ℚ) + d.reader - t = ((N + d.reader : ℕ) : ℚ) + -t by push_cast; ring,
      Int.floor_natCast_add, Int.floor_neg, hceil]
    omega
  have hfrac : (N : ℚ) + d.reader - t - ((N + d.reader - k : ℕ) : ℤ) = k - t := by
    rw [Int.cast_natCast, Nat.cast_sub (by omega)]
    push_cast
    ring
  have hread : (d.write v).read size =
      linearinterp (k - t) ((d.write v).buffer.data 0 ((N + d.reader - k) % N))
        ((d.write v).buffer.data 0 ((N + d.reader - k + 1) % N)) := by
    simp only [read, hleast, hclamp]
    change linearinterp ((N : ℚ) + d.reader - t - ⌊(N : ℚ) + d.reader - t⌋)
      ((d.write v).buffer.data 0 (⌊(N : ℚ) + d.reader - t⌋.toNat &&& d.wrap))
      ((d.write v).buffer.data 0 ((⌊(N : ℚ) + d.reader - t⌋ + 1).toNat &&& d.wrap)) = _
    rw [hfloor, hfrac, Int.toNat_natCast, hwf.and_wrap, hwf.and_wrap]
    rfl
  rw [hread, h.data_write v hsize]
  rcases Nat.eq_zero_or_pos k with hzero | hpos
  · have hzt : t = 0 := le_antisymm (Nat.ceil_eq_zero.mp hzero) htpos
    have hweight : (k : ℚ) - t = 0 := by rw [hzero, hzt, Nat.cast_zero, sub_zero]
    rw [delayed, ← hk, hweight, linearinterp, linearinterp, mul_zero, mul_zero]
  · have hnext : N + d.reader - k + 1 = N + d.reader - (k - 1) := by omega
    rw [hnext, h.data_write v (show k - 1 < N by omega)]
    rfl

end DelayLine
