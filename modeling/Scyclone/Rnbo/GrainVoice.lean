import Mathlib.Tactic.IntervalCases
import Scyclone.Rnbo.Granular

set_option relaxedAutoImplicit false
set_option autoImplicit false

/-!
# The grain delay as a single voice

What the grain delay is for, without its tables and rings: one grain at a time, which reads the past
of the two channels through a window. As `peek` reads only the first channel of the table of
grains, the other 99 grains of the patch never sound; they count the triggers between two grains
that do. The patch is shown to refine this voice.

## Main definitions

* `GrainVoice` — a voice, with `trigger`, `sample` and `prepare`.
* `GrainVoice.Controls`, `GrainVoice.Refines` — the patch agrees with the voice.

## Main results

* `GrainSum.foldl_grain` — only the first grain is heard.
* `GrainVoice.Controls.trigger` — a trigger of the patch.
* `GrainVoice.Refines.performSample` — a sample of the patch.
* `GrainVoice.Refines.prepareToProcess` — a preparation of the patch.
-/

/-! ## The table of grains -/

/-- The table has its sizes. -/
def IsGrainTable (b : AudioBuffer ℚ) : Prop := b.numChannels = 100 ∧ b.numSamples = 6

namespace IsGrainTable

variable {b : AudioBuffer ℚ}

lemma peek_zero (h : IsGrainTable b) {j : ℕ} (hj : j < 6) : peek b j 0 = b.data 0 j := by
  have hin : ¬(b.numSamples = 0 ∨ j ≥ b.numSamples) := by rw [h.2]; omega
  rw [peek, if_neg hin]
  rfl

/-- **Only the first grain can be read.** -/
lemma peek_pos (b : AudioBuffer ℚ) (j : ℕ) {c : ℕ} (hc : 1 ≤ c) : peek b j c = 0 := by
  unfold peek
  split_ifs
  · rfl
  · rfl

lemma poke_table (h : IsGrainTable b) (value : ℚ) (j c : ℕ) : IsGrainTable (poke b value j c) := by
  unfold poke
  split_ifs
  · exact h
  · exact h

/-- What the first grain holds after an entry of some grain was set. -/
lemma data_poke (h : IsGrainTable b) (value : ℚ) {j c : ℕ} (hj : j < 6) (hc : c < 100) (i : ℕ) :
    (poke b value j c).data 0 i = if c = 0 ∧ j = i then value else b.data 0 i := by
  have hin : b.numSamples > 0 ∧ j < b.numSamples ∧ c < b.numChannels := by
    rw [h.1, h.2]
    omega
  rw [poke, if_pos hin]
  simp only [AudioBuffer.setSample, Function.update_apply]
  by_cases hc0 : c = 0
  · subst hc0
    by_cases hji : j = i
    · subst hji
      simp
    · simp [hji, Ne.symm hji]
  · simp [hc0, Ne.symm hc0]

end IsGrainTable

/-- A grain that cannot be read adds nothing. -/
lemma GrainSum.grain_of_pos (maps : GranularMaps) (delL delR : DelayLine) (a : GrainSum) {i : ℕ}
    (hi : 1 ≤ i) : a.grain maps delL delR i = a := by
  simp [grain, IsGrainTable.peek_pos _ _ hi]

/-- **Only the first grain is heard.** -/
lemma GrainSum.foldl_grain (maps : GranularMaps) (delL delR : DelayLine) (a : GrainSum) (n : ℕ) :
    (List.range (n + 1)).foldl (GrainSum.grain maps delL delR) a = a.grain maps delL delR 0 := by
  induction n with
  | zero => rfl
  | succ n ih =>
    rw [List.range_succ, List.foldl_append, ih]
    exact grain_of_pos maps delL delR _ (by omega)

/-! ## The voice -/

/-- A voice: its settings, what the grain that plays was started with, and the past of the two
channels. -/
structure GrainVoice where
  sr : ℚ := 44100
  block : ℕ := 0
  gain : ℚ := 0
  /-- The triggers since the one that may start a grain. -/
  index : ℕ := 0
  counter : ℕ := 0
  noise : XoshiroState
  /-- The samples that the grain has played, and one; zero between two grains. -/
  played : ℚ := 0
  size : ℚ := 0
  position : ℚ := 0
  pitch : ℚ := 0
  pastL : List ℚ := []
  pastR : List ℚ := []

namespace GrainVoice

/-- The 100th trigger starts a grain, unless one plays; the one before it draws the position. -/
def trigger (maps : GranularMaps) (r : RnboObject) (v : GrainVoice) : GrainVoice :=
  if v.index = 0 ∧ v.played ≠ 0 then v
  else
    let size := r.grainSize * v.sr * 0.001
    let pitch := maps.pow 2 (r.pitch / 12) - 1
    let position := r.grainPos * v.sr * 0.001 * |v.noise.value| + max (size * pitch) 0
    { v with
      played := if v.index = 0 then 1 else v.played
      size := if v.index = 0 then size else v.size
      pitch := if v.index = 0 then pitch else v.pitch
      position := if v.index = 99 then position else v.position
      index := (v.index + 1) % 100
      noise := v.noise.next }

/-- A trigger comes every `limit` samples. -/
def count (v : GrainVoice) (limit : ℚ) : GrainVoice :=
  { v with counter := if limit ≠ 0 ∧ ((v.counter + 1 : ℕ) : ℚ) ≥ limit then 0 else v.counter + 1 }

/-- The window of a grain. -/
def window (maps : GranularMaps) (v : GrainVoice) : ℚ :=
  0.5 * (maps.sin (4.7123889803847 + v.played / v.size * 6.28318530717958647692) + 1)

/-- The grain sounds. -/
def Sounds (v : GrainVoice) : Prop := v.played ≠ 0 ∧ v.played < v.size

instance (v : GrainVoice) : Decidable v.Sounds := inferInstanceAs (Decidable (_ ∧ _))

/-- How far back the grain reads. -/
def delay (v : GrainVoice) : ℚ :=
  min (max (v.position - v.played * v.pitch) 0) (calcSizeInSamples v.sr).1

/-- How loud the grain is. -/
def level (maps : GranularMaps) (v : GrainVoice) : ℚ :=
  if v.Sounds then v.window maps * v.gain else 0

/-- What the grain plays. -/
def sound (maps : GranularMaps) (v : GrainVoice) : ℚ × ℚ :=
  (delayed v.pastL v.delay * v.level maps, delayed v.pastR v.delay * v.level maps)

/-- The voice takes a sample in. -/
def listen (v : GrainVoice) (inputs : ℚ × ℚ) : GrainVoice :=
  { v with
    gain := (1 - v.gain) * 0.001 + v.gain
    pastL := inputs.1 :: v.pastL
    pastR := inputs.2 :: v.pastR }

/-- The voice before it plays a sample. -/
def cue (maps : GranularMaps) (r : RnboObject) (v : GrainVoice) (inputs : ℚ × ℚ) : GrainVoice :=
  let v := (v.listen inputs).count (r.interval * v.sr * 0.001)
  if v.counter = 1 then v.trigger maps r else v

/-- A sample. -/
def sample (maps : GranularMaps) (r : RnboObject) (v : GrainVoice) (inputs : ℚ × ℚ) :
    GrainVoice × (ℚ × ℚ) :=
  let v := v.cue maps r inputs
  ({ v with played := if v.Sounds then v.played + 1 else 0 }, v.sound maps)

/-- A new sample rate or block size forgets the past. -/
def prepare (v : GrainVoice) (sampleRate : ℚ) (maxBlockSize : ℕ) : GrainVoice :=
  if sampleRate ≠ v.sr ∨ maxBlockSize ≠ v.block then
    { v with sr := sampleRate, block := maxBlockSize, pastL := [], pastR := [] }
  else v

/-! ## Refinement -/

/-- The patch agrees with the voice in all but the delay lines. -/
structure Controls (v : GrainVoice) (g : Granular) : Prop where
  sr_eq : g.sr = v.sr
  block_eq : g.maxvs = v.block
  gain_eq : g.hisGain = v.gain
  index_eq : g.hisIndex = v.index
  index_lt : v.index < 100
  counter_eq : g.counter = v.counter
  noise_eq : g.noise = v.noise
  table : IsGrainTable g.dataParam
  played_eq : g.dataParam.data 0 0 = v.played
  size_eq : g.dataParam.data 0 1 = v.size
  position_eq : g.dataParam.data 0 2 = v.position
  pitch_eq : g.dataParam.data 0 5 = v.pitch

/-- A delay line holds the past, for a sample rate of which twice is not a power of two. -/
structure HoldsPast (sr : ℚ) (past : List ℚ) (d : DelayLine) : Prop where
  wf : d.Wf
  maxdelay_eq : d.maxdelay = (calcSizeInSamples sr).1
  maxdelay_lt : d.maxdelay < d.buffer.numSamples
  tracks : DelayLine.Tracks past d

/-- The patch agrees with the voice. -/
structure Refines (v : GrainVoice) (g : Granular) : Prop where
  controls : Controls v g
  left : HoldsPast v.sr v.pastL g.delL
  right : HoldsPast v.sr v.pastR g.delR
  setup : g.setupDone = false → v.pastL = [] ∧ v.pastR = []

namespace Controls

variable {v : GrainVoice} {g : Granular}

/-- The index of the next grain. -/
lemma wrap_index {i : ℕ} (hi : i < 100) : (wrap (i + 1) 0 100).toNat = (i + 1) % 100 := by
  rcases Nat.lt_or_ge (i + 1) 100 with hlt | hge
  · have hwrap : wrap ((i : ℤ) + 1) 0 100 = i + 1 := by
      unfold wrap
      simp only [show ¬ (0 : ℤ) = 100 by decide, if_false, show ¬ (0 : ℤ) > 100 by decide]
      exact if_pos ⟨by omega, by omega⟩
    rw [hwrap, Nat.mod_eq_of_lt hlt]
    omega
  · obtain rfl : i = 99 := by omega
    decide

/-- **A trigger of the patch.**

**Proof sketch.** Where the index is not zero the entry that is peeked is zero, so the patch pokes;
the channel it pokes the count, the size and the pitch into is the first one only for the index
zero, and the channel it pokes the position into only for the index 99. -/
theorem trigger (h : Controls v g) (maps : GranularMaps) (r : RnboObject) :
    Controls (v.trigger maps r) (g.trigger maps r) := by
  have hindex := h.index_lt
  have hpeek : peek g.dataParam 0 g.hisIndex = 0 ↔ ¬(v.index = 0 ∧ v.played ≠ 0) := by
    rw [h.index_eq]
    rcases Nat.eq_zero_or_pos v.index with h0 | hpos
    · rw [h0, h.table.peek_zero (by omega), h.played_eq]
      simp
    · rw [IsGrainTable.peek_pos _ _ hpos]
      simp [hpos.ne']
  by_cases hbusy : v.index = 0 ∧ v.played ≠ 0
  · rw [Granular.trigger, if_neg (mt hpeek.mp (not_not.mpr hbusy)), GrainVoice.trigger,
      if_pos hbusy]
    exact h
  · rw [Granular.trigger, if_pos (hpeek.mpr hbusy), GrainVoice.trigger, if_neg hbusy]
    have hnext : (wrap (g.hisIndex + 1) 0 100).toNat = (v.index + 1) % 100 := by
      rw [h.index_eq, wrap_index hindex]
    have hnextlt : (v.index + 1) % 100 < 100 := Nat.mod_lt _ (by omega)
    have hlast : (v.index + 1) % 100 = 0 ↔ v.index = 99 := by omega
    have t1 := h.table.poke_table 1 0 g.hisIndex
    have t2 := t1.poke_table (g.mstosamps r.grainSize) 1 g.hisIndex
    have t3 := t2.poke_table (maps.pow 2 (r.pitch / 12) - 1) 5 g.hisIndex
    rw [← h.index_eq] at hindex
    refine ⟨h.sr_eq, h.block_eq, h.gain_eq, hnext, hnextlt, h.counter_eq, ?_,
      t3.poke_table _ _ _, ?_, ?_, ?_, ?_⟩
    · exact congrArg XoshiroState.next h.noise_eq
    all_goals
      dsimp only
      rw [hnext, t3.data_poke _ (by omega) hnextlt, t2.data_poke _ (by omega) hindex,
        t1.data_poke _ (by omega) hindex, h.table.data_poke _ (by omega) hindex, h.index_eq]
    · simp [h.played_eq]
    · simp [h.size_eq, Granular.mstosamps, h.sr_eq]
    · simp [hlast, h.position_eq, Granular.mstosamps, h.sr_eq, h.noise_eq]
    · simp [h.pitch_eq]

/-- The counter of the patch. -/
lemma counterNext (h : Controls v g) (limit : ℚ) :
    Controls (v.count limit) (g.counterNext limit) := by
  have hcounter : (g.counterNext limit).counter = (v.count limit).counter := by
    unfold Granular.counterNext GrainVoice.count
    rw [h.counter_eq]
    dsimp only
    split_ifs
    · rfl
    · rfl
  rw [Granular.counterNext_eq, hcounter]
  exact ⟨h.sr_eq, h.block_eq, h.gain_eq, h.index_eq, h.index_lt, rfl, h.noise_eq, h.table,
    h.played_eq, h.size_eq, h.position_eq, h.pitch_eq⟩

/-- A sample of the patch, up to the loop over the grains. What is heard does not matter.

**Proof sketch.** Listening touches the gain and the lines only, so the controls still agree. The
counters agree, so either both trigger a grain or none does. -/
lemma cue (h : Controls v g) (maps : GranularMaps) (r : RnboObject) (heard inputs : ℚ × ℚ) :
    Controls (v.cue maps r heard) (g.cue maps r inputs) := by
  set g₁ : Granular := { g with
    hisGain := (1 - g.hisGain) * 0.001 + g.hisGain
    delL := g.delL.write inputs.1
    delR := g.delR.write inputs.2 } with hg₁
  have hlisten : Controls (v.listen heard) g₁ :=
    ⟨h.sr_eq, h.block_eq, congrArg (fun x : ℚ => (1 - x) * 0.001 + x) h.gain_eq, h.index_eq,
      h.index_lt, h.counter_eq, h.noise_eq, h.table, h.played_eq, h.size_eq, h.position_eq,
      h.pitch_eq⟩
  have hlimit : g₁.mstosamps r.interval = r.interval * v.sr * 0.001 :=
    congrArg (fun x : ℚ => r.interval * x * 0.001) h.sr_eq
  have hcount := hlisten.counterNext (g₁.mstosamps r.interval)
  have hcue : g.cue maps r inputs =
      if (g₁.counterNext (g₁.mstosamps r.interval)).counter = 1 then
        (g₁.counterNext (g₁.mstosamps r.interval)).trigger maps r
      else g₁.counterNext (g₁.mstosamps r.interval) := rfl
  rw [hcue, hcount.counter_eq, GrainVoice.cue, ← hlimit]
  split_ifs
  · exact hcount.trigger maps r
  · exact hcount

end Controls

/-- The voice takes the inputs in, and keeps its sample rate. -/
lemma cue_pasts (maps : GranularMaps) (r : RnboObject) (v : GrainVoice) (inputs : ℚ × ℚ) :
    (v.cue maps r inputs).pastL = inputs.1 :: v.pastL ∧
      (v.cue maps r inputs).pastR = inputs.2 :: v.pastR ∧ (v.cue maps r inputs).sr = v.sr := by
  unfold cue GrainVoice.trigger
  dsimp only
  split_ifs <;> exact ⟨rfl, rfl, rfl⟩

/-! ## Samples -/

section Sample

variable {v : GrainVoice} {g : Granular} {maps : GranularMaps}

variable (maps) in
/-- What the loop over the grains adds up.

**Proof sketch.** Only grain 0 can be playing, so the loop over the grains is its first turn; the
turn is compared with the voice, case by case. -/
lemma Controls.grains (h : Controls v g) :
    IsGrainTable (g.grains maps).dataParam ∧
      (∀ j, (g.grains maps).dataParam.data 0 j =
        if j = 0 then if v.Sounds then v.played + 1 else 0 else g.dataParam.data 0 j) ∧
      (g.grains maps).outL =
        (if v.Sounds then g.delL.read (v.position - v.played * v.pitch) * v.window maps else 0) ∧
      (g.grains maps).outR =
        (if v.Sounds then g.delR.read (v.position - v.played * v.pitch) * v.window maps else 0) ∧
      (g.grains maps).totalWin = if v.Sounds then v.window maps else 0 := by
  have hplayed : peek g.dataParam 0 0 = v.played := by
    rw [h.table.peek_zero (by omega), h.played_eq]
  have hsize : peek g.dataParam 1 0 = v.size := by
    rw [h.table.peek_zero (by omega), h.size_eq]
  have hposition : peek g.dataParam 2 0 = v.position := by
    rw [h.table.peek_zero (by omega), h.position_eq]
  have hpitch : peek g.dataParam 5 0 = v.pitch := by
    rw [h.table.peek_zero (by omega), h.pitch_eq]
  rw [Granular.grains, GrainSum.foldl_grain, GrainSum.grain]
  simp only [hplayed, hsize, hposition, hpitch]
  by_cases hidle : v.played = 0
  · have hsilent : ¬ v.Sounds := fun hs => hs.1 hidle
    simp only [hidle, ne_eq, not_true, if_false, hsilent]
    refine ⟨h.table, fun j => ?_, trivial, trivial, trivial⟩
    split_ifs with hj
    · rw [hj, h.played_eq, hidle]
    · rfl
  · by_cases hlt : v.played < v.size
    · have hsounds : v.Sounds := ⟨hidle, hlt⟩
      have hscaled : (if v.size = 0 then 0 else v.played / v.size) = v.played / v.size := by
        split_ifs with hzero
        · rw [hzero, div_zero]
        · rfl
      simp only [ne_eq, hidle, not_false_iff, if_true, hlt, hsounds, hscaled, zero_add]
      refine ⟨h.table.poke_table _ _ _, fun j => ?_, rfl, rfl, rfl⟩
      rw [h.table.data_poke _ (by omega) (by omega)]
      simp [eq_comm]
    · have hsilent : ¬ v.Sounds := fun hs => hlt hs.2
      simp only [ne_eq, hidle, not_false_iff, if_true, hlt, hsilent, if_false]
      refine ⟨h.table.poke_table _ _ _, fun j => ?_, trivial, trivial, trivial⟩
      rw [h.table.data_poke _ (by omega) (by omega)]
      simp [eq_comm]

/-- What is read from a delay line that has just taken a sample in. -/
lemma HoldsPast.read_write {sr : ℚ} {past : List ℚ} {d : DelayLine} (h : HoldsPast sr past d)
    (x size : ℚ) :
    (d.write x).read size =
      delayed (x :: past) (min (max size 0) (calcSizeInSamples sr).1) := by
  rw [← h.maxdelay_eq]
  refine h.tracks.read_write h.wf x (lt_of_le_of_lt ?_ h.maxdelay_lt)
  exact Nat.ceil_le.mpr (min_le_right _ _)

/-- A sample extends the past of a delay line. -/
lemma HoldsPast.step_write {sr : ℚ} {past : List ℚ} {d : DelayLine} (h : HoldsPast sr past d)
    (x : ℚ) : HoldsPast sr (x :: past) (d.write x).step :=
  ⟨(h.wf.write x).step, h.maxdelay_eq, h.maxdelay_lt, h.tracks.step_write h.wf x⟩

/-- How loud the patch plays the grain: it scales by a power of the sum of the windows, if that is
more than one. -/
def scaledLevel (maps : GranularMaps) (v : GrainVoice) : ℚ :=
  if v.Sounds then
    v.window maps * (maps.pow (1 / max (v.window maps) 1) 0.3 * v.gain)
  else 0

/-- **The patch never scales a grain**: one window is not more than one. -/
lemma scaledLevel_eq (hsin : ∀ x, maps.sin x ≤ 1) (hpow : maps.pow 1 0.3 = 1) (v : GrainVoice) :
    v.scaledLevel maps = v.level maps := by
  have hwindow : v.window maps ≤ 1 := by
    have := hsin (4.7123889803847 + v.played / v.size * 6.28318530717958647692)
    unfold window
    linarith
  rw [scaledLevel, level, max_eq_right hwindow, div_one, hpow, one_mul]

variable (maps) in
/-- **A sample of the patch, whatever the delay lines hold.** The rest of the patch goes on as the
voice does; the outputs are read from the delay lines at the delay and the level of the voice.

**Proof sketch.** Up to the loop over the grains the controls go on as the voice does; the loop adds
up one grain at most, and the window of that grain is the sum that scales it. -/
theorem Controls.performSample (h : Controls v g) (r : RnboObject) (heard inputs : ℚ × ℚ) :
    Controls (v.sample maps r heard).1 (g.performSample maps r inputs).1 ∧
      (g.performSample maps r inputs).1.delL = (g.delL.write inputs.1).step ∧
      (g.performSample maps r inputs).1.delR = (g.delR.write inputs.2).step ∧
      (g.performSample maps r inputs).1.setupDone = g.setupDone ∧
      (g.performSample maps r inputs).2 =
        let w := v.cue maps r heard
        ((g.delL.write inputs.1).read (w.position - w.played * w.pitch) * w.scaledLevel maps,
          (g.delR.write inputs.2).read (w.position - w.played * w.pitch) * w.scaledLevel maps) := by
  have hcue := h.cue maps r heard inputs
  obtain ⟨hdelL, hdelR, hdone⟩ := g.cue_delays maps r inputs
  obtain ⟨htable, hdata, houtL, houtR, htotal⟩ := hcue.grains maps
  set w := v.cue maps r heard with hw
  set k := g.cue maps r inputs with hk
  have hpos : max (k.grains maps).totalWin 1 ≠ 0 :=
    (lt_of_lt_of_le one_pos (le_max_right _ _)).ne'
  simp only [Granular.performSample, ← hk, if_neg hpos]
  generalize k.grains maps = sum at *
  refine ⟨⟨hcue.sr_eq, hcue.block_eq, hcue.gain_eq, hcue.index_eq, hcue.index_lt,
    hcue.counter_eq, hcue.noise_eq, htable, hdata 0, (hdata 1).trans hcue.size_eq,
    (hdata 2).trans hcue.position_eq, (hdata 5).trans hcue.pitch_eq⟩, ?_, ?_, hdone, ?_⟩
  · rw [hdelL]
  · rw [hdelR]
  · rw [houtL, houtR, hdelL, hdelR, htotal, hcue.gain_eq, scaledLevel]
    split_ifs
    · rw [mul_assoc, mul_assoc]
    · simp

/-- **A sample of the patch.**

**Proof sketch.** The controls refine as before (`Controls.performSample`). The two delay lines have
the new sample in front of their pasts, and what the loop over the grains reads from them after the
write is what the voices read from the pasts. -/
theorem Refines.performSample (hsin : ∀ x, maps.sin x ≤ 1) (hpow : maps.pow 1 0.3 = 1)
    (h : Refines v g) (hsetup : g.setupDone = true) (r : RnboObject) (inputs : ℚ × ℚ) :
    Refines (v.sample maps r inputs).1 (g.performSample maps r inputs).1 ∧
      (g.performSample maps r inputs).2 = (v.sample maps r inputs).2 ∧
      (g.performSample maps r inputs).1.setupDone = true := by
  obtain ⟨hcontrols, hdelL, hdelR, hdone, houtput⟩ :=
    h.controls.performSample maps r inputs inputs
  obtain ⟨hpastL, hpastR, hsr⟩ := cue_pasts maps r v inputs
  refine ⟨⟨hcontrols, ?_, ?_, ?_⟩, ?_, hdone.trans hsetup⟩
  · change HoldsPast (v.cue maps r inputs).sr (v.cue maps r inputs).pastL _
    rw [hdelL, hsr, hpastL]
    exact h.left.step_write _
  · change HoldsPast (v.cue maps r inputs).sr (v.cue maps r inputs).pastR _
    rw [hdelR, hsr, hpastR]
    exact h.right.step_write _
  · exact fun hnot => absurd (hdone.symm.trans hnot) (by rw [hsetup]; decide)
  · rw [houtput]
    change _ = (v.cue maps r inputs).sound maps
    dsimp only
    rw [scaledLevel_eq hsin hpow, h.left.read_write, h.right.read_write, sound, delay, hsr, hpastL,
      hpastR]

end Sample

/-! ## Preparations -/

section Prepare

variable {v : GrainVoice} {g : Granular}

/-- Without the delay lines, a preparation sets the sample rate and the block size. -/
lemma Controls.prepareToProcess (h : Controls v g) (sampleRate : ℚ) (maxBlockSize : ℕ) :
    Controls (v.prepare sampleRate maxBlockSize)
      (g.prepareToProcess sampleRate maxBlockSize false) := by
  have hsame : (v.prepare sampleRate maxBlockSize) =
      { v with
        sr := sampleRate
        block := maxBlockSize
        pastL := (v.prepare sampleRate maxBlockSize).pastL
        pastR := (v.prepare sampleRate maxBlockSize).pastR } := by
    unfold prepare
    split_ifs with hchange
    · rfl
    · push Not at hchange
      rw [hchange.1, hchange.2]
  rw [Granular.prepareToProcess_eq, hsame]
  split_ifs with hkept
  · exact ⟨hkept.2.1.symm, hkept.2.2.symm, h.gain_eq, h.index_eq, h.index_lt, h.counter_eq,
      h.noise_eq, h.table, h.played_eq, h.size_eq, h.position_eq, h.pitch_eq⟩
  · exact ⟨rfl, rfl, h.gain_eq, h.index_eq, h.index_lt, h.counter_eq, h.noise_eq, h.table,
      h.played_eq, h.size_eq, h.position_eq, h.pitch_eq⟩

/-- A sample rate that the delay lines can be set up for: twice the rate is not a power of two, so
that the longest delay is shorter than the buffer. -/
structure UsableRate (sampleRate : ℚ) : Prop where
  le : sampleRate ≤ 2 ^ 62
  lt : (calcSizeInSamples sampleRate).1 < (calcSizeInSamples sampleRate).2

/-- A delay line that was reset holds an empty past. -/
lemma HoldsPast.reset (d : DelayLine) {sampleRate : ℚ} (h : UsableRate sampleRate) :
    HoldsPast sampleRate [] (d.reset sampleRate) := by
  refine ⟨DelayLine.wf_reset d h.le, ?_, ?_, DelayLine.tracks_reset d h.le⟩
  · unfold DelayLine.reset
    dsimp only
    split_ifs <;> rfl
  · unfold DelayLine.reset
    simp only [AudioBuffer.setSize_data]
    split_ifs <;> exact h.lt

/-- **A preparation of the patch.**

**Proof sketch.** Either nothing changes, or both forget what they have heard: the delay lines are
cleared, and the voice has no past. -/
theorem Refines.prepareToProcess (h : Refines v g) {sampleRate : ℚ} (hrate : UsableRate sampleRate)
    (maxBlockSize : ℕ) :
    Refines (v.prepare sampleRate maxBlockSize)
        (g.prepareToProcess sampleRate maxBlockSize false) ∧
      (g.prepareToProcess sampleRate maxBlockSize false).setupDone = true := by
  have hcontrols := h.controls.prepareToProcess sampleRate maxBlockSize
  by_cases hkept : g.setupDone = true ∧ sampleRate = g.sr ∧ maxBlockSize = g.maxvs
  · have hvoice : v.prepare sampleRate maxBlockSize = v := by
      rw [prepare, if_neg]
      rw [← h.controls.sr_eq, ← h.controls.block_eq]
      push Not
      exact hkept.2
    rw [Granular.prepareToProcess_eq, if_pos hkept, hvoice]
    exact ⟨h, hkept.1⟩
  · have hvoice : (v.prepare sampleRate maxBlockSize).sr = sampleRate ∧
        (v.prepare sampleRate maxBlockSize).pastL = [] ∧
        (v.prepare sampleRate maxBlockSize).pastR = [] := by
      unfold prepare
      split_ifs with hchange
      · exact ⟨rfl, rfl, rfl⟩
      · push Not at hchange
        rw [← h.controls.sr_eq, ← h.controls.block_eq] at hchange
        have hfresh : g.setupDone = false := by
          simpa using fun hdone => hkept ⟨hdone, hchange⟩
        exact ⟨(h.controls.sr_eq.symm.trans hchange.1.symm), h.setup hfresh⟩
    obtain ⟨hsr, hpastL, hpastR⟩ := hvoice
    rw [Granular.prepareToProcess_eq, if_neg hkept] at hcontrols ⊢
    refine ⟨⟨hcontrols, ?_, ?_, fun _ => ⟨hpastL, hpastR⟩⟩, rfl⟩
    · rw [hsr, hpastL]
      exact HoldsPast.reset _ hrate
    · rw [hsr, hpastR]
      exact HoldsPast.reset _ hrate

/-- Whole sample rates.

**Proof sketch.** The size in samples is twice the rate, and the buffer the next power of two. They
are equal only if the rate is a power of two itself, which is excluded. -/
lemma usableRate_natCast (rate : ℕ) (hpos : 0 < rate) (hle : rate ≤ 2 ^ 62)
    (hpow : ∀ k, rate ≠ 2 ^ k) : UsableRate rate := by
  have hfirst : (calcSizeInSamples rate).1 = rate * 2 := by
    have hfloor : ⌊(rate : ℚ) * 2⌋ = ((rate * 2 : ℕ) : ℤ) := by
      rw [show (rate : ℚ) * 2 = ((rate * 2 : ℕ) : ℚ) by push_cast; rfl, Int.floor_natCast]
    show (max ⌊(rate : ℚ) * 2⌋ 2).toNat = rate * 2
    rw [hfloor]
    omega
  have hsecond : (calcSizeInSamples rate).2 = 2 ^ Nat.clog 2 (rate * 2) := by
    show nextpoweroftwo (calcSizeInSamples rate).1 = _
    rw [hfirst]
    exact nextpoweroftwo_eq (by omega) (by omega)
  refine ⟨by exact_mod_cast hle, ?_⟩
  rw [hfirst, hsecond]
  refine lt_of_le_of_ne (Nat.le_pow_clog Nat.one_lt_two _) fun heq => ?_
  have hclog : 0 < Nat.clog 2 (rate * 2) := Nat.clog_pos Nat.one_lt_two (by omega)
  refine hpow (Nat.clog 2 (rate * 2) - 1) ?_
  obtain ⟨k, hk⟩ := Nat.exists_eq_add_of_lt hclog
  rw [hk] at heq ⊢
  rw [Nat.zero_add, pow_succ] at heq
  rw [Nat.zero_add, Nat.add_sub_cancel]
  omega

end Prepare

end GrainVoice
