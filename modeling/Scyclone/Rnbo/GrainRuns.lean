import Scyclone.Rnbo.GrainVoice

set_option relaxedAutoImplicit false
set_option autoImplicit false

/-!
# Grains over whole runs

What the grain delay does over any sequence of preparations, samples and changes of its parameters.
Runs of the patch are described by its state at each sample before the loop over the grains, its
*cues*: there the entry for the count of the first grain is one where the grain starts.

## Main definitions

* `Granular.Event`, `Granular.cues` — runs of the patch.
* `GrainVoice.Running` — a grain delay with a voice in place of its patch.

## Main results

* `starts_are_rare` — at least 100 triggers come between two grains.
* `started_grain_plays_out` — a grain that has started plays to its end.
* `grain_delay_is_one_voice` — the grain delay refines the voice.
* `new_block_size_forgets` — a block of another size than the last one does not depend on what was
  heard before it.
-/

/-! ## Runs of the patch -/

namespace Granular

/-- What happens to the patch: a preparation, or a sample with the parameters of its block. -/
inductive Event
  | prepareToProcess (sampleRate : ℚ) (maxBlockSize : ℕ)
  | sample (r : RnboObject) (inputs : ℚ × ℚ)

/-- One event. -/
def next (maps : GranularMaps) (g : Granular) : Event → Granular
  | .prepareToProcess sampleRate maxBlockSize => g.prepareToProcess sampleRate maxBlockSize false
  | .sample r inputs => (g.performSample maps r inputs).1

/-- The cues of a run, one for each sample. -/
def cues (maps : GranularMaps) : Granular → List Event → List Granular
  | _, [] => []
  | g, .sample r inputs :: es =>
    g.cue maps r inputs :: cues maps (g.next maps (.sample r inputs)) es
  | g, .prepareToProcess sampleRate maxBlockSize :: es =>
    cues maps (g.next maps (.prepareToProcess sampleRate maxBlockSize)) es

/-- The counter is at one, so that there is a trigger. -/
def Triggered (cue : Granular) : Prop := cue.counter = 1

/-- The first grain starts. -/
def Started (cue : Granular) : Prop := peek cue.dataParam 0 0 = 1

instance : DecidablePred Triggered := fun cue => inferInstanceAs (Decidable (cue.counter = 1))

instance : DecidablePred Started := fun cue =>
  inferInstanceAs (Decidable (peek cue.dataParam 0 0 = 1))

/-- `RnboGranular`, with the seed of the noise. -/
def construct (seed : BitVec 64) : Granular := { noise := .reset seed }

end Granular

namespace GrainVoice

/-- The voice at first. -/
def construct (seed : BitVec 64) : GrainVoice := { noise := .reset seed }

lemma controls_construct (seed : BitVec 64) :
    Controls (construct seed) (Granular.construct seed) :=
  ⟨rfl, rfl, rfl, rfl, Nat.succ_pos 99, rfl, rfl, ⟨rfl, rfl⟩, rfl, rfl, rfl, rfl⟩

/-- One event of a run of the patch. -/
def next (maps : GranularMaps) (v : GrainVoice) : Granular.Event → GrainVoice
  | .prepareToProcess sampleRate maxBlockSize => v.prepare sampleRate maxBlockSize
  | .sample r inputs => (v.sample maps r inputs).1

variable {v : GrainVoice} {g : Granular} {maps : GranularMaps}

variable (maps) in
lemma Controls.next (h : Controls v g) (e : Granular.Event) :
    Controls (v.next maps e) (g.next maps e) := by
  cases e with
  | prepareToProcess sampleRate maxBlockSize => exact h.prepareToProcess sampleRate maxBlockSize
  | sample r inputs => exact (h.performSample maps r inputs inputs).1

lemma Controls.started_iff (h : Controls v g) : g.Started ↔ v.played = 1 := by
  rw [Granular.Started, h.table.peek_zero (by omega), h.played_eq]

lemma Controls.triggered_iff (h : Controls v g) : g.Triggered ↔ v.counter = 1 := by
  rw [Granular.Triggered, h.counter_eq]

/-- A preparation leaves the grains alone. -/
lemma prepare_grain (v : GrainVoice) (sampleRate : ℚ) (maxBlockSize : ℕ) :
    (v.prepare sampleRate maxBlockSize).index = v.index ∧
      (v.prepare sampleRate maxBlockSize).played = v.played ∧
      (v.prepare sampleRate maxBlockSize).size = v.size ∧
      (v.prepare sampleRate maxBlockSize).pitch = v.pitch := by
  unfold prepare
  split_ifs
  · exact ⟨rfl, rfl, rfl, rfl⟩
  · exact ⟨rfl, rfl, rfl, rfl⟩

/-! ## Starts -/

/-- Between two samples the grain is silent, or it has played. -/
def BetweenSamples (v : GrainVoice) : Prop := v.played = 0 ∨ 2 ≤ v.played

variable (maps) in
/-- What a cue does to the index and to the count of the grain: without a trigger nothing, with one
it either starts a grain or counts on.

**Proof sketch.** The counter has or has not reached 1. If it has, the trigger starts a grain with
index 0 and nothing played, waits with index 0 while one is being played, and counts on otherwise.
-/
lemma cue_cases (r : RnboObject) (inputs : ℚ × ℚ) (v : GrainVoice) :
    let w := v.cue maps r inputs
    (w.index = v.index ∧ w.played = v.played ∧ w.size = v.size ∧ w.pitch = v.pitch) ∨
      (w.counter = 1 ∧ v.index = 0 ∧ v.played = 0 ∧ w.index = 1 ∧ w.played = 1) ∨
      (w.counter = 1 ∧ v.index ≠ 0 ∧ w.index = (v.index + 1) % 100 ∧ w.played = v.played ∧
        w.size = v.size ∧ w.pitch = v.pitch) := by
  intro w
  set u := (v.listen inputs).count (r.interval * v.sr * 0.001) with hu
  have hw : w = if u.counter = 1 then u.trigger maps r else u := rfl
  have hfields : u.index = v.index ∧ u.played = v.played ∧ u.size = v.size ∧ u.pitch = v.pitch :=
    ⟨rfl, rfl, rfl, rfl⟩
  obtain ⟨hindex, hplayed, hsize, hpitch⟩ := hfields
  rw [hw, ← hindex, ← hplayed, ← hsize, ← hpitch]
  by_cases hcounter : u.counter = 1
  · rw [if_pos hcounter]
    by_cases hzero : u.index = 0
    · by_cases hidle : u.played = 0
      · refine Or.inr (Or.inl ⟨?_, hzero, hidle, ?_, ?_⟩)
        all_goals simp [trigger, hzero, hidle, hcounter]
      · refine Or.inl ?_
        simp [trigger, hzero, hidle]
    · refine Or.inr (Or.inr ⟨?_, hzero, ?_, ?_, ?_, ?_⟩)
      all_goals simp [trigger, hzero, hcounter]
  · rw [if_neg hcounter]
    exact Or.inl ⟨rfl, rfl, rfl, rfl⟩

variable (maps) in
/-- A sample leads to a state between two samples. -/
lemma betweenSamples_sample (h : v.BetweenSamples) (r : RnboObject) (inputs : ℚ × ℚ) :
    ((v.sample maps r inputs).1).BetweenSamples := by
  have hone : (v.cue maps r inputs).played = 0 ∨ 1 ≤ (v.cue maps r inputs).played := by
    have hv : v.played = 0 ∨ 1 ≤ v.played := h.imp_right fun h2 => by linarith
    rcases cue_cases maps r inputs v with
      ⟨-, hp, -⟩ | ⟨-, -, -, -, hp⟩ | ⟨-, -, -, hp, -⟩
    · rwa [hp]
    · exact Or.inr hp.ge
    · rwa [hp]
  change (if (v.cue maps r inputs).Sounds then (v.cue maps r inputs).played + 1 else 0) = 0 ∨
    2 ≤ if (v.cue maps r inputs).Sounds then (v.cue maps r inputs).played + 1 else 0
  split_ifs with hs
  · exact Or.inr (by linarith [hone.resolve_left hs.1])
  · exact Or.inl rfl

variable (maps) in
open Granular in
/-- Grains and triggers from any state on. The triggers since the one that may have started a grain
count as triggers of the run.

**Proof sketch.** Induction on the events. A trigger moves the index on by one, around a table of
100, and only the trigger at index 0 starts a grain that is counted. -/
lemma starts_le (hcontrols : Controls v g) (hbetween : v.BetweenSamples)
    (es : List Granular.Event) :
    100 * (cues maps g es).countP (fun c => Started c) + 1 ≤
      (cues maps g es).countP (fun c => Triggered c) + if v.index = 0 then 100 else v.index := by
  induction es generalizing v g with
  | nil =>
    simp only [cues, List.countP_nil]
    split_ifs <;> omega
  | cons e es ih =>
    cases e with
    | prepareToProcess sampleRate maxBlockSize =>
      obtain ⟨hindex, hplayed, -⟩ := prepare_grain v sampleRate maxBlockSize
      have hrest := ih (hcontrols.next maps (.prepareToProcess sampleRate maxBlockSize))
        (show (v.prepare sampleRate maxBlockSize).BetweenSamples by
          rw [BetweenSamples, hplayed]
          exact hbetween)
      change _ ≤ _ + if (v.prepare sampleRate maxBlockSize).index = 0 then 100
        else (v.prepare sampleRate maxBlockSize).index at hrest
      rwa [hindex] at hrest
    | sample r inputs =>
      have hcue := hcontrols.cue maps r inputs inputs
      have hrest := ih (hcontrols.next maps (.sample r inputs))
        (betweenSamples_sample maps hbetween r inputs)
      change _ ≤ _ + if (v.cue maps r inputs).index = 0 then 100
        else (v.cue maps r inputs).index at hrest
      have hkept : ¬ v.played = 1 := by
        rcases hbetween with h0 | h2
        · rw [h0]
          exact zero_ne_one
        · exact fun h1 => by linarith
      simp only [cues, List.countP_cons, decide_eq_true_eq, hcue.started_iff,
        hcue.triggered_iff]
      rcases cue_cases maps r inputs v with
        ⟨hi, hp, -⟩ | ⟨ht, hzero, -, hi, hp⟩ | ⟨ht, hpos, hi, hp, -⟩
      · rw [hi] at hrest
        rw [hp, if_neg hkept]
        split_ifs at hrest ⊢ <;> omega
      · rw [hi] at hrest
        rw [hp, ht, hzero]
        simp only [if_true, one_ne_zero, if_false] at hrest ⊢
        omega
      · have hlt := hcontrols.index_lt
        rw [hi] at hrest
        rw [hp, ht, if_neg hkept, if_neg hpos]
        split_ifs at hrest ⊢ <;> omega

/-- What the next cue of a silent voice holds: no grain, or one that starts. -/
lemma cue_of_silent (hcontrols : Controls v g) (hplayed : v.played = 0)
    (es : List Granular.Event) (h : 0 < (Granular.cues maps g es).length) :
    peek (Granular.cues maps g es)[0].dataParam 0 0 = 0 ∨ (Granular.cues maps g es)[0].Started := by
  induction es generalizing v g with
  | nil => simp [Granular.cues] at h
  | cons e es ih =>
    cases e with
    | prepareToProcess sampleRate maxBlockSize =>
      exact ih (hcontrols.next maps (.prepareToProcess sampleRate maxBlockSize))
        ((prepare_grain v sampleRate maxBlockSize).2.1.trans hplayed) h
    | sample r inputs =>
      have hcue := hcontrols.cue maps r inputs inputs
      change peek (g.cue maps r inputs).dataParam 0 0 = 0 ∨ (g.cue maps r inputs).Started
      rw [hcue.started_iff, hcue.table.peek_zero (by omega), hcue.played_eq]
      rcases cue_cases maps r inputs v with
        ⟨-, hp, -⟩ | ⟨-, -, -, -, hp⟩ | ⟨-, -, -, hp, -⟩
      · exact Or.inl (hp.trans hplayed)
      · exact Or.inr hp
      · exact Or.inl (hp.trans hplayed)

variable (maps) in
/-- A cue leaves a grain that plays alone. -/
lemma cue_kept (hplayed : v.played ≠ 0) (r : RnboObject) (inputs : ℚ × ℚ) :
    (v.cue maps r inputs).played = v.played ∧ (v.cue maps r inputs).size = v.size ∧
      (v.cue maps r inputs).pitch = v.pitch := by
  rcases cue_cases maps r inputs v with ⟨-, h⟩ | ⟨-, -, hidle, -⟩ | ⟨-, -, -, h⟩
  · exact h
  · exact absurd hidle hplayed
  · exact h

/-- A grain that has played `p - 1` samples goes on as long as it is short of its size, and not any
longer.

**Proof sketch.** Induction on the events. Each sample plays the grain on by one while it is short
of its size; the first sample that does not leaves it silent until another grain starts. -/
lemma plays_on (hcontrols : Controls v g) {p : ℕ} (hp : 0 < p) (hplayed : v.played = p)
    (es : List Granular.Event) (m : ℕ) (hm : m < (Granular.cues maps g es).length)
    (hsize : m = 0 ∨ ((p + m - 1 : ℕ) : ℚ) < v.size) :
    let c := (Granular.cues maps g es)[m]
    peek c.dataParam 0 0 = (p + m : ℕ) ∧ peek c.dataParam 1 0 = v.size ∧
      peek c.dataParam 5 0 = v.pitch ∧
      (v.size ≤ (p + m : ℕ) → ∀ hnext : m + 1 < (Granular.cues maps g es).length,
        peek (Granular.cues maps g es)[m + 1].dataParam 0 0 = 0 ∨
          (Granular.cues maps g es)[m + 1].Started) := by
  induction es generalizing v g p m with
  | nil => simp [Granular.cues] at hm
  | cons e es ih =>
    cases e with
    | prepareToProcess sampleRate maxBlockSize =>
      obtain ⟨-, hp', hs', hpitch'⟩ := prepare_grain v sampleRate maxBlockSize
      have hrest := ih (hcontrols.next maps (.prepareToProcess sampleRate maxBlockSize))
        hp (hp'.trans hplayed) m hm (by
          change _ ∨ _ < (v.prepare sampleRate maxBlockSize).size
          rwa [hs'])
      simp only [next, hs', hpitch'] at hrest
      exact hrest
    | sample r inputs =>
      have hcue := hcontrols.cue maps r inputs inputs
      have hnext := hcontrols.next maps (.sample r inputs)
      have hpos : v.played ≠ 0 := by
        rw [hplayed]
        exact_mod_cast hp.ne'
      obtain ⟨hcp, hcs, hcpitch⟩ := cue_kept maps hpos r inputs
      cases m with
      | zero =>
        change peek (g.cue maps r inputs).dataParam 0 0 = _ ∧
          peek (g.cue maps r inputs).dataParam 1 0 = _ ∧
          peek (g.cue maps r inputs).dataParam 5 0 = _ ∧ _
        rw [hcue.table.peek_zero (by omega), hcue.table.peek_zero (by omega),
          hcue.table.peek_zero (by omega), hcue.played_eq, hcue.size_eq, hcue.pitch_eq, hcp, hcs,
          hcpitch]
        refine ⟨hplayed, rfl, rfl, fun hend hlt => ?_⟩
        have hsilent : ¬ (v.cue maps r inputs).Sounds := by
          rintro ⟨-, hshort⟩
          rw [hcp, hcs, hplayed] at hshort
          exact absurd hshort (not_lt.mpr hend)
        exact cue_of_silent hnext (if_neg hsilent) es (Nat.lt_of_succ_lt_succ hlt)
      | succ m =>
        have hlast : ((p + m : ℕ) : ℚ) < v.size := by
          simpa using hsize
        have hsounds : (v.cue maps r inputs).Sounds := by
          refine ⟨by rwa [hcp], ?_⟩
          rw [hcp, hcs, hplayed]
          refine lt_of_le_of_lt ?_ hlast
          exact_mod_cast Nat.le_add_right p m
        have hcount : (v.next maps (.sample r inputs)).played = (p + 1 : ℕ) := by
          change (if (v.cue maps r inputs).Sounds then (v.cue maps r inputs).played + 1 else 0) = _
          rw [if_pos hsounds, hcp, hplayed]
          push_cast
          rfl
        have hnextsize : (v.next maps (.sample r inputs)).size = v.size := hcs
        have hnextpitch : (v.next maps (.sample r inputs)).pitch = v.pitch := hcpitch
        have hrest := ih hnext (Nat.succ_pos p) hcount m (Nat.lt_of_succ_lt_succ hm) (by
          refine Or.inr ?_
          rwa [hnextsize, show p + 1 + m - 1 = p + m by omega])
        rw [hnextsize, hnextpitch, show p + 1 + m = p + (m + 1) by omega] at hrest
        exact ⟨hrest.1, hrest.2.1, hrest.2.2.1, fun hend hlt =>
          hrest.2.2.2 hend (Nat.lt_of_succ_lt_succ hlt)⟩

end GrainVoice

open Granular in
/-- **At least 100 triggers come between two grains.** In any run from the construction on, whatever
the parameters, the preparations and the samples: after `t` triggers at most `(t + 99) / 100` grains
have started.

**Proof sketch.** Each trigger that is not held back by a grain that plays moves the index to the
next of 100 grains, and only the first of these is ever read. -/
theorem starts_are_rare (maps : GranularMaps) (seed : BitVec 64) (es : List Granular.Event) :
    100 * (cues maps (construct seed) es).countP (fun c => Started c) ≤
      (cues maps (construct seed) es).countP (fun c => Triggered c) + 99 := by
  have hstarts := GrainVoice.starts_le maps (GrainVoice.controls_construct seed)
    (Or.inl rfl) es
  have hindex : (GrainVoice.construct seed).index = 0 := rfl
  rw [if_pos hindex] at hstarts
  omega

/-- A grain that the first cue of a run starts.

**Proof sketch.** At that cue it has played one sample. If it is not longer than that, it is silent
at the next one; else it has played two there and goes on by `plays_on`. -/
lemma GrainVoice.first_plays_out {maps : GranularMaps} {v : GrainVoice} {g : Granular}
    (hcontrols : Controls v g) (r : RnboObject) (inputs : ℚ × ℚ) (es : List Granular.Event)
    (m : ℕ) (hm : m < (Granular.cues maps g (.sample r inputs :: es)).length)
    (hstart : (g.cue maps r inputs).Started)
    (hsize : (m : ℚ) < peek (g.cue maps r inputs).dataParam 1 0) :
    let later := (Granular.cues maps g (.sample r inputs :: es))[m]
    peek later.dataParam 0 0 = (m + 1 : ℕ) ∧
      peek later.dataParam 1 0 = peek (g.cue maps r inputs).dataParam 1 0 ∧
      peek later.dataParam 5 0 = peek (g.cue maps r inputs).dataParam 5 0 ∧
      (peek (g.cue maps r inputs).dataParam 1 0 ≤ (m + 1 : ℕ) →
        ∀ hnext : m + 1 < (Granular.cues maps g (.sample r inputs :: es)).length,
          peek (Granular.cues maps g (.sample r inputs :: es))[m + 1].dataParam 0 0 = 0 ∨
            (Granular.cues maps g (.sample r inputs :: es))[m + 1].Started) := by
  have hnext := hcontrols.next maps (.sample r inputs)
  have hcue := hcontrols.cue maps r inputs inputs
  have hone : (v.cue maps r inputs).played = 1 := hcue.started_iff.mp hstart
  have hpeek : peek (g.cue maps r inputs).dataParam 1 0 = (v.cue maps r inputs).size := by
    rw [hcue.table.peek_zero (by omega), hcue.size_eq]
  have hpitch : peek (g.cue maps r inputs).dataParam 5 0 = (v.cue maps r inputs).pitch := by
    rw [hcue.table.peek_zero (by omega), hcue.pitch_eq]
  rw [hpeek] at hsize
  cases m with
  | zero =>
    refine ⟨by simpa [Granular.Started, Granular.cues] using hstart, rfl, rfl, ?_⟩
    intro hend hlt
    have hsilent : ¬ (v.cue maps r inputs).Sounds := by
      rintro ⟨-, hshort⟩
      rw [hone, ← hpeek] at hshort
      push_cast at hend
      linarith
    exact cue_of_silent hnext (if_neg hsilent) es (by simpa [Granular.cues] using hlt)
  | succ m =>
    push_cast at hsize
    have hmpos : (0 : ℚ) ≤ m := Nat.cast_nonneg m
    have hsounds : (v.cue maps r inputs).Sounds := by
      refine ⟨by rw [hone]; exact one_ne_zero, ?_⟩
      rw [hone]
      linarith
    have hcount : (v.next maps (.sample r inputs)).played = (2 : ℕ) := by
      change (if (v.cue maps r inputs).Sounds then (v.cue maps r inputs).played + 1 else 0) = _
      rw [if_pos hsounds, hone]
      norm_num
    have hlength : m < (Granular.cues maps (g.next maps (.sample r inputs)) es).length := by
      simp only [Granular.cues, List.length_cons] at hm
      omega
    have hrest := plays_on hnext Nat.two_pos hcount es m hlength (by
      refine Or.inr ?_
      change _ < (v.cue maps r inputs).size
      rw [show 2 + m - 1 = m + 1 by omega]
      exact_mod_cast hsize)
    change _ ∧ _ = (v.cue maps r inputs).size ∧ _ = (v.cue maps r inputs).pitch ∧
      ((v.cue maps r inputs).size ≤ _ → _) at hrest
    rw [← hpeek, ← hpitch, show 2 + m = m + 1 + 1 by omega] at hrest
    exact ⟨hrest.1, hrest.2.1, hrest.2.2.1, fun hend hlt =>
      hrest.2.2.2 hend (Nat.lt_of_succ_lt_succ hlt)⟩

/-- A grain that starts at cue `k`, from any state on.

**Proof sketch.** Induction on the events up to that cue; the grain that the first cue of the rest
starts plays on for as long as it is short of its size. -/
lemma GrainVoice.started_plays_out {maps : GranularMaps} {v : GrainVoice} {g : Granular}
    (hcontrols : Controls v g) (es : List Granular.Event) (k m : ℕ)
    (hm : k + m < (Granular.cues maps g es).length)
    (hstart : (Granular.cues maps g es)[k].Started)
    (hsize : (m : ℚ) < peek (Granular.cues maps g es)[k].dataParam 1 0) :
    let first := (Granular.cues maps g es)[k]
    let later := (Granular.cues maps g es)[k + m]
    peek later.dataParam 0 0 = (m + 1 : ℕ) ∧
      peek later.dataParam 1 0 = peek first.dataParam 1 0 ∧
      peek later.dataParam 5 0 = peek first.dataParam 5 0 ∧
      (peek first.dataParam 1 0 ≤ (m + 1 : ℕ) →
        ∀ hnext : k + m + 1 < (Granular.cues maps g es).length,
          peek (Granular.cues maps g es)[k + m + 1].dataParam 0 0 = 0 ∨
            (Granular.cues maps g es)[k + m + 1].Started) := by
  induction es generalizing v g k with
  | nil => simp [Granular.cues] at hm
  | cons e es ih =>
    cases e with
    | prepareToProcess sampleRate maxBlockSize =>
      exact ih (hcontrols.next maps (.prepareToProcess sampleRate maxBlockSize)) k hm
        hstart hsize
    | sample r inputs =>
      cases k with
      | succ k =>
        have hnext := hcontrols.next maps (.sample r inputs)
        have hlength : k + m < (Granular.cues maps (g.next maps (.sample r inputs)) es).length := by
          simp only [Granular.cues, List.length_cons] at hm
          omega
        have hrest := ih hnext k hlength hstart hsize
        simp only [Granular.cues, Nat.add_right_comm k 1 m]
        refine ⟨hrest.1, hrest.2.1, hrest.2.2.1, fun hend hlt => ?_⟩
        exact hrest.2.2.2 hend (Nat.lt_of_succ_lt_succ hlt)
      | zero =>
        simp only [Nat.zero_add] at hm ⊢
        exact first_plays_out hcontrols r inputs es m hm hstart hsize

open Granular in
/-- **A grain that has started plays to its end**, and no longer. Whatever happens to the parameters
of the patch, `m` samples after it has started it has its size and its pitch still and plays sample
`m + 1`, as long as that is not past its size; at its end the first grain is free again.

**Proof sketch.** While the grain plays, a trigger at its index is held back, and one at another
index writes the entries of other grains and at most the position of this one. -/
theorem started_grain_plays_out (maps : GranularMaps) (seed : BitVec 64)
    (es : List Granular.Event) (k m : ℕ) (hm : k + m < (cues maps (construct seed) es).length)
    (hstart : (cues maps (construct seed) es)[k].Started)
    (hsize : (m : ℚ) < peek (cues maps (construct seed) es)[k].dataParam 1 0) :
    let first := (cues maps (construct seed) es)[k]
    let later := (cues maps (construct seed) es)[k + m]
    peek later.dataParam 0 0 = (m + 1 : ℕ) ∧
      peek later.dataParam 1 0 = peek first.dataParam 1 0 ∧
      peek later.dataParam 5 0 = peek first.dataParam 5 0 ∧
      (peek first.dataParam 1 0 ≤ (m + 1 : ℕ) →
        ∀ hnext : k + m + 1 < (cues maps (construct seed) es).length,
          peek (cues maps (construct seed) es)[k + m + 1].dataParam 0 0 = 0 ∨
            (cues maps (construct seed) es)[k + m + 1].Started) :=
  GrainVoice.started_plays_out (GrainVoice.controls_construct seed) es k m hm hstart hsize

/-- Two samples, of which the first one starts a grain of ten. -/
def grainOfTen : List Granular.Event :=
  [.prepareToProcess 1000 8, .sample { grainSize := 10, interval := 10 } (1, 1),
    .sample { grainSize := 20, interval := 10 } (1, 1)]

/-- The second sample of a grain, after the size was changed. -/
theorem started_grain_plays_out_grainOfTen :
    ∃ later, (Granular.cues .library (.construct 0) grainOfTen)[1]? = some later ∧
      peek later.dataParam 0 0 = 2 ∧ peek later.dataParam 1 0 = 10 := by
  have hlength : (Granular.cues .library (.construct 0) grainOfTen).length = 2 := rfl
  have hsize : peek (Granular.cues .library (.construct 0) grainOfTen)[0].dataParam 1 0 = 10 := by
    decide +kernel +revert
  have hstart : (Granular.cues .library (.construct 0) grainOfTen)[0].Started := by
    decide +kernel +revert
  have hlater := started_grain_plays_out .library 0 grainOfTen 0 1 (by rw [hlength]; decide) hstart
    (by rw [hsize]; norm_num)
  refine ⟨_, List.getElem?_eq_getElem (by rw [hlength]; decide), ?_, ?_⟩
  · exact_mod_cast hlater.1
  · exact hlater.2.1.trans hsize

/-! ## The processor with a voice -/

open GrainDelay (Event Samples)
open GrainDelay.Running (inputs outputs)

namespace GrainVoice

/-- A `GrainDelay` with a voice in place of its patch. -/
structure Running where
  settings : GrainDelay
  sampleRate : ℕ := 48000
  voice : GrainVoice

namespace Running

/-- The processor at first. -/
def construct (seed : BitVec 64) : Running where
  settings := .construct
  voice := .construct seed

/-- One event, and the samples that a block is left with. -/
def step (maps : GranularMaps) (number : NetworkId) (v : Running) :
    Event Samples → Running × Option Samples
  | .prepare spec =>
    ({ v with
      sampleRate := spec.ringSize
      voice := v.voice.prepare spec.ringSize spec.maximumBlockSize }, none)
  | .parameterChanged parameterID newValue =>
    ({ v with settings := v.settings.parameterChanged number parameterID newValue }, none)
  | .setParameterValue parameterToConnect rnboParameterIdx =>
    ({ v with settings := v.settings.setParameterValue parameterToConnect rnboParameterIdx }, none)
  | .processBlock numChannels numSamples data =>
    if v.settings.isMuted then (v, some data)
    else
      let result := Scan.run (sample maps v.settings.rnboObject)
        (v.voice.prepare v.sampleRate numSamples) (inputs numChannels numSamples data)
      ({ v with voice := result.1 }, some (outputs numChannels numSamples data result.2))

end Running

/-- A preparation is for a sample rate that the delay lines can be set up for. -/
def UsableEvent {D : Type} : Event D → Prop
  | .prepare spec => UsableRate spec.ringSize
  | _ => True

/-- A number between two powers of two is not one. -/
lemma ne_two_pow {n m : ℕ} (hn : n < 2 ^ m) (h : ∀ k < m, n ≠ 2 ^ k) (k : ℕ) : n ≠ 2 ^ k := by
  rcases Nat.lt_or_ge k m with hlt | hge
  · exact h k hlt
  · have := Nat.pow_le_pow_right Nat.two_pos hge
    omega

lemma usableRate_44100 : UsableRate 44100 := by
  have h := usableRate_natCast 44100 (by norm_num) (by norm_num)
    (ne_two_pow (m := 16) (by norm_num) (by decide))
  exact_mod_cast h

lemma usableRate_48000 : UsableRate (48000 : ℕ) :=
  usableRate_natCast 48000 (by norm_num) (by norm_num)
    (ne_two_pow (m := 16) (by norm_num) (by decide))

lemma refines_construct (seed : BitVec 64) :
    Refines (construct seed) (Granular.construct seed) := by
  have hline : HoldsPast 44100 [] (.init 44100) := by
    rw [DelayLine.init_eq_reset]
    exact HoldsPast.reset _ usableRate_44100
  exact ⟨controls_construct seed, hline, hline, fun _ => ⟨rfl, rfl⟩⟩

/-- A processor agrees with the one that has a voice. -/
structure Agrees (v : Running) (g : GrainDelay.Running) : Prop where
  settings_eq : g.settings = v.settings
  rate_eq : g.sampleRate = v.sampleRate
  usable : UsableRate g.sampleRate
  refines : Refines v.voice g.patch

section Agrees

variable {maps : GranularMaps} (hsin : ∀ x, maps.sin x ≤ 1) (hpow : maps.pow 1 0.3 = 1)
include hsin hpow

/-- **The samples of a block.** -/
lemma Refines.process {v : GrainVoice} {g : Granular} (h : Refines v g)
    (hsetup : g.setupDone = true) (r : RnboObject) (xs : List (ℚ × ℚ)) :
    Refines (Scan.run (sample maps r) v xs).1 (g.process maps r xs).1 ∧
      (g.process maps r xs).2 = (Scan.run (sample maps r) v xs).2 := by
  induction xs generalizing v g with
  | nil => exact ⟨h, rfl⟩
  | cons x xs ih =>
    obtain ⟨hnext, houtput, hdone⟩ := h.performSample hsin hpow hsetup r x
    obtain ⟨hlast, houtputs⟩ := ih hnext hdone
    exact ⟨hlast, by rw [Scan.run, ← houtput, ← houtputs]; rfl⟩

/-- **One event.**

**Proof sketch.** By the event: both have the same settings, and a block is played by the patch and
by the voice that it refines. -/
theorem Agrees.step {v : Running} {g : GrainDelay.Running} (h : Agrees v g) (number : NetworkId)
    {e : Event Samples} (he : UsableEvent e) :
    Agrees (v.step maps number e).1 (g.step maps number e).1 ∧
      (g.step maps number e).2 = (v.step maps number e).2 := by
  cases e with
  | prepare spec =>
    exact ⟨⟨h.settings_eq, rfl, he, (h.refines.prepareToProcess he _).1⟩, rfl⟩
  | parameterChanged parameterID newValue =>
    refine ⟨⟨?_, h.rate_eq, h.usable, h.refines⟩, rfl⟩
    exact congrArg (fun s : GrainDelay => s.parameterChanged number parameterID newValue)
      h.settings_eq
  | setParameterValue parameterToConnect rnboParameterIdx =>
    refine ⟨⟨?_, h.rate_eq, h.usable, h.refines⟩, rfl⟩
    exact congrArg (fun s : GrainDelay => s.setParameterValue parameterToConnect rnboParameterIdx)
      h.settings_eq
  | processBlock numChannels numSamples data =>
    rw [GrainDelay.Running.step, GrainDelay.Running.processBlock, Running.step, h.settings_eq,
      ← h.rate_eq]
    cases hmuted : v.settings.isMuted
    · obtain ⟨hprepared, hdone⟩ := h.refines.prepareToProcess h.usable numSamples
      obtain ⟨hlast, houtputs⟩ := hprepared.process hsin hpow hdone v.settings.rnboObject
        (inputs numChannels numSamples data)
      simp only [Bool.not_false, if_true, Bool.false_eq_true, if_false]
      exact ⟨⟨rfl, rfl, h.usable, hlast⟩, by rw [houtputs]⟩
    · simp only [Bool.not_true, Bool.false_eq_true, if_false, if_true]
      exact ⟨h, trivial⟩

/-- **A run.** -/
lemma agrees_run (number : NetworkId) (seed : BitVec 64) {es : List (Event Samples)}
    (hrates : ∀ e ∈ es, UsableEvent e) :
    Agrees (Scan.run (Running.step maps number) (.construct seed) es).1
        (Scan.run (GrainDelay.Running.step maps number) (.construct seed) es).1 ∧
      (Scan.run (GrainDelay.Running.step maps number) (.construct seed) es).2 =
        (Scan.run (Running.step maps number) (.construct seed) es).2 := by
  have hrun := Scan.run_related (R := fun v g => Agrees v g)
    (C := fun e e' => e = e' ∧ UsableEvent e) (S := fun x y => y = x)
    (f := Running.step maps number) (g := GrainDelay.Running.step maps number)
    (fun v g e e' h he => by
      obtain ⟨rfl, he⟩ := he
      exact h.step hsin hpow number he)
    (s := .construct seed) (t := .construct seed)
    ⟨rfl, rfl, usableRate_48000, refines_construct seed⟩
    (List.forall₂_same.mpr fun e he => ⟨rfl, hrates e he⟩)
  refine ⟨hrun.1, ?_⟩
  have houtputs := hrun.2.flip
  rwa [List.forall₂_eq_eq_eq] at houtputs

end Agrees

end GrainVoice

/-- **The grain delay is one voice.** For any seed of the noise and any sequence of preparations,
changes of the parameters and blocks, at sample rates of which twice is not a power of two, the
patch with its table of 100 grains and its two rings leaves every block as a single voice does that
reads the samples heard since the last change of the sample rate or of the block size.

**Proof sketch.** The state of the voice is what the patch holds for its first grain, and the past
that its delay lines hold (`Agrees`). -/
theorem grain_delay_is_one_voice {maps : GranularMaps} (hsin : ∀ x, maps.sin x ≤ 1)
    (hpow : maps.pow 1 0.3 = 1) (number : NetworkId) (seed : BitVec 64)
    (es : List (Event Samples)) (hrates : ∀ e ∈ es, GrainVoice.UsableEvent e) :
    (Scan.run (GrainDelay.Running.step maps number) (.construct seed) es).2 =
      (Scan.run (GrainVoice.Running.step maps number) (.construct seed) es).2 :=
  (GrainVoice.agrees_run hsin hpow number seed hrates).2

/-- A grain delay that is switched on and plays a block of two samples. -/
def shortSession : List (Event Samples) :=
  [.prepare ⟨48000, 2, 1⟩, .parameterChanged (.grainOnOff .network1) 1,
    .processBlock 1 2 fun _ i => i]

/-- A short session. -/
theorem grain_delay_is_one_voice_shortSession :
    (Scan.run (GrainDelay.Running.step .library .network1) (.construct 7) shortSession).2 =
      (Scan.run (GrainVoice.Running.step .library .network1) (.construct 7) shortSession).2 := by
  refine grain_delay_is_one_voice (fun x => (abs_le.mp (GranularMaps.abs_library_sin_le x)).2)
    (GranularMaps.library_pow_one _) .network1 7 shortSession ?_
  simp only [shortSession, List.forall_mem_cons, GrainVoice.UsableEvent]
  refine ⟨?_, trivial, trivial, by simp⟩
  rw [ProcessSpec.ringSize_ofNat]
  exact GrainVoice.usableRate_48000

/-! ## Forgetting -/

namespace GrainVoice

/-- The voice without its past. -/
def forget (v : GrainVoice) : GrainVoice := { v with pastL := [], pastR := [] }

/-- What is heard changes the past of a voice and nothing else. -/
lemma forget_sample {maps : GranularMaps} {v w : GrainVoice} (h : v.forget = w.forget)
    (r : RnboObject) (x y : ℚ × ℚ) :
    (v.sample maps r x).1.forget = (w.sample maps r y).1.forget := by
  have hblank : ∀ (v : GrainVoice) (x : ℚ × ℚ),
      (v.sample maps r x).1.forget = (v.forget.sample maps r (0, 0)).1.forget := by
    intro v x
    unfold sample cue trigger count listen forget Sounds
    dsimp only
    split_ifs <;> rfl
  rw [hblank v x, hblank w y, h]

lemma forget_run {maps : GranularMaps} {v w : GrainVoice} (h : v.forget = w.forget)
    (r : RnboObject) (xs ys : List (ℚ × ℚ)) (hlength : xs.length = ys.length) :
    (Scan.run (sample maps r) v xs).1.forget = (Scan.run (sample maps r) w ys).1.forget := by
  refine (Scan.run_related (R := fun v w => forget v = forget w) (C := fun _ _ => True)
    (S := fun _ _ => True) (fun v w x y hvw _ => ⟨forget_sample hvw r x y, trivial⟩) h ?_).1
  exact List.forall₂_iff_get.mpr ⟨hlength, fun _ _ _ => trivial⟩

/-- A preparation goes by the settings of the voice. -/
lemma forget_prepare {v w : GrainVoice} (h : v.forget = w.forget) (sampleRate : ℚ)
    (maxBlockSize : ℕ) :
    (v.prepare sampleRate maxBlockSize).forget = (w.prepare sampleRate maxBlockSize).forget := by
  have hblank : ∀ v : GrainVoice, (v.prepare sampleRate maxBlockSize).forget =
      (v.forget.prepare sampleRate maxBlockSize).forget := by
    intro v
    unfold prepare forget
    dsimp only
    split_ifs <;> rfl
  rw [hblank v, hblank w, h]

/-- A preparation for a new block size leaves no past. -/
lemma prepare_eq_forget {v : GrainVoice} (sampleRate : ℚ) {maxBlockSize : ℕ}
    (h : v.block ≠ maxBlockSize) :
    v.prepare sampleRate maxBlockSize = (v.prepare sampleRate maxBlockSize).forget := by
  rw [prepare, if_pos (Or.inr h.symm)]
  rfl

/-- Two processors that differ in what was heard only. -/
def Running.Alike (v w : Running) : Prop :=
  v.settings = w.settings ∧ v.sampleRate = w.sampleRate ∧ v.voice.forget = w.voice.forget

/-- An event with other samples. -/
lemma Running.Alike.step {v w : Running} (h : v.Alike w) (maps : GranularMaps)
    (number : NetworkId) (e : Event (Samples × Samples)) :
    (v.step maps number (e.map Prod.fst)).1.Alike (w.step maps number (e.map Prod.snd)).1 := by
  obtain ⟨hsettings, hrate, hvoice⟩ := h
  cases e with
  | prepare spec => exact ⟨hsettings, rfl, forget_prepare hvoice _ _⟩
  | parameterChanged parameterID newValue =>
    refine ⟨?_, hrate, hvoice⟩
    exact congrArg (fun s : GrainDelay => s.parameterChanged number parameterID newValue) hsettings
  | setParameterValue parameterToConnect rnboParameterIdx =>
    refine ⟨?_, hrate, hvoice⟩
    exact congrArg (fun s : GrainDelay => s.setParameterValue parameterToConnect rnboParameterIdx)
      hsettings
  | processBlock numChannels numSamples data =>
    simp only [Event.map, Running.step, hsettings, hrate]
    split_ifs
    · exact ⟨hsettings, hrate, hvoice⟩
    · refine ⟨rfl, rfl, forget_run (forget_prepare hvoice _ _) _ _ _ ?_⟩
      simp [inputs]

end GrainVoice

/-- **A new block size forgets.** Two runs with the same preparations, parameters and block sizes,
in which different samples are heard, are followed by the same block of another size than the last
one: it is left the same in both, whatever was heard before it.

**Proof sketch.** What is heard does not change the course of the grains, and before a block of a
new size the delay lines are cleared. -/
theorem new_block_size_forgets {maps : GranularMaps} (hsin : ∀ x, maps.sin x ≤ 1)
    (hpow : maps.pow 1 0.3 = 1) (number : NetworkId) (seed : BitVec 64)
    (es : List (Event (Samples × Samples))) (hrates : ∀ e ∈ es, GrainVoice.UsableEvent e)
    (numChannels numSamples : ℕ) (data : Samples)
    (hsize : (Scan.run (GrainDelay.Running.step maps number) (.construct seed)
      (es.map (Event.map Prod.fst))).1.patch.maxvs ≠ numSamples) :
    (((Scan.run (GrainDelay.Running.step maps number) (.construct seed)
        (es.map (Event.map Prod.fst))).1).processBlock maps numChannels numSamples data).2 =
      (((Scan.run (GrainDelay.Running.step maps number) (.construct seed)
        (es.map (Event.map Prod.snd))).1).processBlock maps numChannels numSamples data).2 := by
  have husable : ∀ φ : Samples × Samples → Samples, ∀ e ∈ es.map (Event.map φ),
      GrainVoice.UsableEvent e := by
    intro φ e he
    obtain ⟨e', he', rfl⟩ := List.mem_map.mp he
    have := hrates e' he'
    cases e' <;> exact this
  have hfirst := (GrainVoice.agrees_run hsin hpow number seed (husable Prod.fst)).1
  have hsecond := (GrainVoice.agrees_run hsin hpow number seed (husable Prod.snd)).1
  have halike : (Scan.run (GrainVoice.Running.step maps number) (.construct seed)
      (es.map (Event.map Prod.fst))).1.Alike (Scan.run (GrainVoice.Running.step maps number)
        (.construct seed) (es.map (Event.map Prod.snd))).1 := by
    refine (Scan.run_related (R := GrainVoice.Running.Alike) (C := fun e e' =>
      ∃ p : Event (Samples × Samples), e = p.map Prod.fst ∧ e' = p.map Prod.snd)
      (S := fun _ _ => True) (fun v w e e' h he => ?_) ⟨rfl, rfl, rfl⟩ ?_).1
    · obtain ⟨p, rfl, rfl⟩ := he
      exact ⟨h.step maps number p, trivial⟩
    · rw [List.forall₂_map_left_iff, List.forall₂_map_right_iff]
      exact List.forall₂_same.mpr fun p _ => ⟨p, rfl, rfl⟩
  set g₁ := (Scan.run (GrainDelay.Running.step maps number) (.construct seed)
    (es.map (Event.map Prod.fst))).1
  set g₂ := (Scan.run (GrainDelay.Running.step maps number) (.construct seed)
    (es.map (Event.map Prod.snd))).1
  set v₁ := (Scan.run (GrainVoice.Running.step maps number) (.construct seed)
    (es.map (Event.map Prod.fst))).1
  set v₂ := (Scan.run (GrainVoice.Running.step maps number) (.construct seed)
    (es.map (Event.map Prod.snd))).1
  have hprocess₁ := (hfirst.step hsin hpow number (e := .processBlock numChannels numSamples data)
    trivial).2
  have hprocess₂ := (hsecond.step hsin hpow number (e := .processBlock numChannels numSamples data)
    trivial).2
  refine Option.some.inj (hprocess₁.trans (Eq.trans ?_ hprocess₂.symm))
  obtain ⟨hsettings, hrate, hvoice⟩ := halike
  have hblock : v₁.voice.block ≠ numSamples := by
    rw [← hfirst.refines.controls.block_eq]
    exact hsize
  have hvoices : v₁.voice.prepare v₁.sampleRate numSamples =
      v₂.voice.prepare v₂.sampleRate numSamples := by
    have hsame : v₁.voice.forget.block = v₂.voice.forget.block := by rw [hvoice]
    change v₁.voice.block = v₂.voice.block at hsame
    have hblock₂ : v₂.voice.block ≠ numSamples := by rwa [← hsame]
    rw [GrainVoice.prepare_eq_forget _ hblock, GrainVoice.prepare_eq_forget _ hblock₂, ← hrate]
    exact GrainVoice.forget_prepare hvoice v₁.sampleRate numSamples
  simp only [GrainVoice.Running.step, hsettings, ← hvoices]
  split_ifs <;> rfl

/-- A block of three samples after the blocks of two of two short sessions. -/
theorem new_block_size_forgets_shortSession :
    let es : List (Event (Samples × Samples)) := [.parameterChanged (.grainOnOff .network1) 1,
      .processBlock 1 2 (fun _ _ => 1, fun _ _ => 2)]
    (((Scan.run (GrainDelay.Running.step .library .network1) (.construct 7)
        (es.map (Event.map Prod.fst))).1).processBlock .library 1 3 fun _ _ => 0).2 =
      (((Scan.run (GrainDelay.Running.step .library .network1) (.construct 7)
        (es.map (Event.map Prod.snd))).1).processBlock .library 1 3 fun _ _ => 0).2 := by
  intro es
  refine new_block_size_forgets (fun x => (abs_le.mp (GranularMaps.abs_library_sin_le x)).2)
    (GranularMaps.library_pow_one _) .network1 7 es ?_ 1 3 _ ?_
  · simp [es, GrainVoice.UsableEvent]
  · decide +kernel
