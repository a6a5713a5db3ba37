import Scyclone.Dsp.FollowerOrder
import Scyclone.Lib.Slope

set_option relaxedAutoImplicit false
set_option autoImplicit false

/-!
# How the past fades

`prepare` keeps the stored values of the followers. But each pass of a follower brings two stored
values closer, by the share that it keeps of them, so what is left of the past fades with the
samples that are heard.

## Main definitions

* `Envelope.Close`, `Envelope.Fades` — stored values, and how much of them is kept.
* `TransientSplitter.Apart` — splitters that differ in the stored values alone.
* `TransientSplitter.Event.Within` — calls with attack times up to a longest one.

## Main results

* `Envelope.move_contracts` — one pass.
* `Envelope.Close.foldl` — a stream.
* `splitter_forgets` — the followers in every run.
-/

open WithNan

variable {K : Type} [Field K] [LinearOrder K]

/-! ## Followers -/

namespace Envelope

/-- Two numbers that are at most `d` apart. -/
def Close (d : K) (x y : WithNan K) : Prop := ∃ a b, x = number a ∧ y = number b ∧ |a - b| ≤ d

/-- At most the share `q` of a stored value is kept. -/
structure Fades (q : K) (e : Envelope K) : Prop where
  attack_nonneg : 0 ≤ e.attackKept
  attack_le : e.attackKept ≤ q
  release_nonneg : 0 ≤ e.releaseCoefficient
  release_le : e.releaseCoefficient ≤ q

variable [IsStrictOrderedRing K]

/-- **A pass brings two stored values closer.**

**Proof sketch.** As a function of the stored value a pass is a line on either side of the sample,
with a slope between zero and the greater share, and both lines meet there. -/
lemma move_contracts {a r q : K} (ha : 0 ≤ a) (haq : a ≤ q) (hr : 0 ≤ r) (hrq : r ≤ q)
    (x l l' : K) : |move a r l x - move a r l' x| ≤ q * |l - l'| := by
  refine Slope.Within.abs_sub_le (f := fun l => move a r l x) ?_ l l'
  refine Slope.Within.glue (a := x) trivial ?_ ?_
  · refine Slope.Within.congr (f := fun l => a * l + (1 - a) * x) ?_ fun l hl => ?_
    · intro l _ l' _ hle
      have hd : 0 ≤ l' - l := sub_nonneg.mpr hle
      have h₁ := mul_nonneg ha hd
      have h₂ := mul_le_mul_of_nonneg_right haq hd
      constructor <;> linarith
    · unfold move
      rcases lt_or_eq_of_le (Set.mem_Iic.mp hl.2) with hlt | rfl
      · rw [if_pos hlt]
      · rw [if_neg (lt_irrefl l)]
        ring
  · refine Slope.Within.congr (f := fun l => r * l + (1 - r) * x) ?_ fun l hl => ?_
    · intro l _ l' _ hle
      have hd : 0 ≤ l' - l := sub_nonneg.mpr hle
      have h₁ := mul_nonneg hr hd
      have h₂ := mul_le_mul_of_nonneg_right hrq hd
      constructor <;> linarith
    · exact if_neg (not_lt.mpr (Set.mem_Ici.mp hl.2))

/-- A pass of a follower over a number. -/
lemma Close.follow {e : Envelope K} {q d : K} (he : e.Fades q) {x y z : WithNan K}
    (h : Close d x y) (hz : z ≠ nan) : Close (q * d) (e.follow x z) (e.follow y z) := by
  obtain ⟨a, b, rfl, rfl, hab⟩ := h
  obtain ⟨v, rfl⟩ := exists_number_of_ne_nan hz
  have hq : 0 ≤ q := he.attack_nonneg.trans he.attack_le
  rw [follow_eq_move, follow_eq_move]
  exact ⟨_, _, rfl, rfl, (move_contracts he.attack_nonneg he.attack_le he.release_nonneg
    he.release_le v a b).trans (mul_le_mul_of_nonneg_left hab hq)⟩

/-- **A stream brings two stored values closer** with each of its samples. -/
lemma Close.foldl {e : Envelope K} {q d : K} (he : e.Fades q) {xs : List (WithNan K)}
    (hxs : ∀ x ∈ xs, x ≠ nan) {x y : WithNan K} (h : Close d x y) :
    Close (q ^ xs.length * d) (xs.foldl e.follow x) (xs.foldl e.follow y) := by
  induction xs generalizing d x y with
  | nil => rwa [List.length_nil, pow_zero, one_mul]
  | cons z zs ih =>
    obtain ⟨hz, hzs⟩ := List.forall_mem_cons.mp hxs
    rw [List.length_cons, pow_succ, mul_assoc]
    exact ih hzs (h.follow he hz)

/-- Followers that differ in the stored value alone, apart from the cells of past blocks. -/
structure Apart (d : K) (e e' : Envelope K) : Prop where
  attackTime : e.attackTime = e'.attackTime
  releaseTime : e.releaseTime = e'.releaseTime
  attackCoefficient : e.attackCoefficient = e'.attackCoefficient
  releaseCoefficient : e.releaseCoefficient = e'.releaseCoefficient
  sampleRate : e.sampleRate = e'.sampleRate
  close : Close d e.lastValue e'.lastValue

omit [IsStrictOrderedRing K] in
/-- They follow in the same way. -/
lemma Apart.follow_eq {e e' : Envelope K} {d : K} (h : e.Apart d e') : e.follow = e'.follow := by
  funext l x
  simp only [Envelope.follow, Envelope.followBy, h.attackTime, h.attackCoefficient,
    h.releaseCoefficient]

/-- **A block brings followers closer** with each of its samples. -/
lemma Apart.processBlock {e e' : Envelope K} {q d : K} (h : e.Apart d e') (he : e.Fades q)
    {b : AudioBuffer (WithNan K)} (hb : b.AllNumbers) :
    (e.processBlock b).Apart (q ^ (detected b).length * d) (e'.processBlock b) := by
  have hclose := h.close.foldl he fun x hx => hb.detected_ne_nan hx
  rw [processBlock_eq, processBlock_eq]
  refine ⟨h.attackTime, h.releaseTime, h.attackCoefficient, h.releaseCoefficient, h.sampleRate, ?_⟩
  rw [← h.follow_eq]
  exact hclose

end Envelope

/-! ## The splitter -/

namespace TransientSplitter

/-- Splitters with the same settings, whose followers differ in the stored values alone. -/
structure Apart (d : K) (s s' : TransientSplitter K) : Prop where
  parameter : s.parameter = s'.parameter
  detector : s.detector.Apart d s'.detector
  envelope1 : s.envelope1.Apart d s'.envelope1
  envelope2 : s.envelope2.Apart d s'.envelope2

/-- Calls after a `prepare` and before the next one, with attack times up to a longest one. -/
def Event.Within (longest : K) : Event K → Prop
  | .prepare _ => False
  | .setAttackTime newAttackTime => newAttackTime ≤ longest
  | _ => True

/-- The shares that the followers keep at a rate are those of the longest time or less. -/
structure Fading (exp : K → K) (longest sampleRate : K) (s : TransientSplitter K) : Prop where
  ordered : s.Ordered
  rate : s.envelope2.sampleRate = sampleRate
  attack_le : s.envelope2.attackCoefficient ≤ Envelope.coefficient exp longest sampleRate
  release_le : s.detector.releaseCoefficient ≤ Envelope.coefficient exp longest sampleRate

variable [IsStrictOrderedRing K] {exp : K → K} {longest sampleRate : K}

/-- A time that is not longer than another gives a coefficient that is not greater. -/
lemma coefficient_le (hexp : ExpRises exp) (hrate : 0 ≤ sampleRate) {time : K} (htime : 0 ≤ time)
    (hle : time ≤ longest) :
    Envelope.coefficient exp time sampleRate ≤ Envelope.coefficient exp longest sampleRate := by
  rcases htime.eq_or_lt with rfl | hpos
  · have hzero : Envelope.coefficient exp 0 sampleRate = 0 := by simp [Envelope.coefficient]
    rw [hzero]
    exact (Envelope.coefficient_mem hexp hle hrate).1
  · exact Envelope.coefficient_mono hexp hpos hle hrate

/-- The three followers keep at most the share of the longest time. -/
lemma Fading.fades {s : TransientSplitter K} (h : s.Fading exp longest sampleRate) :
    s.detector.Fades (Envelope.coefficient exp longest sampleRate) ∧
      s.envelope1.Fades (Envelope.coefficient exp longest sampleRate) ∧
      s.envelope2.Fades (Envelope.coefficient exp longest sampleRate) := by
  have ho := h.ordered
  have hrelease := ho.release_le.trans h.release_le
  have hq := ho.release_nonneg.trans hrelease
  have hinstant : s.detector.attackKept = 0 ∧ s.envelope1.attackKept = 0 := by
    simp [Envelope.attackKept, ho.detector_attackTime, ho.envelope1_attackTime]
  refine ⟨⟨hinstant.1.ge, hinstant.1.trans_le hq, ho.release_nonneg.trans ho.release_le,
    h.release_le⟩, ⟨hinstant.2.ge, hinstant.2.trans_le hq, ho.release_nonneg, hrelease⟩,
    ⟨?_, ?_, ho.release_eq ▸ ho.release_nonneg, ho.release_eq ▸ hrelease⟩⟩
  · exact ho.moderate.2.2.attack_nonneg
  · unfold Envelope.attackKept
    split_ifs
    · exact hq
    · exact h.attack_le

/-- What `prepare` leaves, if no time is longer than the longest one. -/
lemma Fading.of_prepare (hexp : ExpRises exp) {s : TransientSplitter K} (h : s.Ordered)
    (hrelease : s.detector.releaseTime ≤ longest) (hattack : s.envelope2.attackTime ≤ longest)
    {spec : ProcessSpec} (hrate : 0 < (spec.sampleRate : K)) :
    (s.prepare exp spec).Fading exp longest (spec.sampleRate : K) where
  ordered := h.step hexp (e := .prepare spec) hrate rfl
  rate := rfl
  attack_le := coefficient_le hexp hrate.le h.envelope2_attackTime hattack
  release_le := coefficient_le hexp hrate.le (h.releaseTime_pos.le.trans h.releaseTime_le) hrelease

/-- Every call keeps the shares below that of the longest time.

**Proof sketch.** `prepare` is excluded. A new attack time gives a share that is at most that of the
longest time, for the coefficient rises with the time, and a block changes none of the shares. -/
lemma Fading.step (hexp : ExpRises exp) {s s' : TransientSplitter K} {e : Event K}
    (h : s.Fading exp longest sampleRate) (he : e.Admissible) (hwithin : e.Within longest)
    (hs : s.step exp e = some s') : s'.Fading exp longest sampleRate := by
  have ho := h.ordered.step hexp he hs
  cases e with
  | prepare spec => exact hwithin.elim
  | setAttack newAttack | setSustain newSustain =>
    obtain rfl := Option.some.inj hs
    exact { h with ordered := ho }
  | setAttackTime newAttackTime =>
    obtain rfl := Option.some.inj hs
    refine { h with ordered := ho, attack_le := ?_ }
    have hrate := h.rate ▸ h.ordered.sampleRate_nonneg
    show Envelope.coefficient exp newAttackTime s.envelope2.sampleRate ≤ _
    rw [h.rate]
    exact coefficient_le hexp hrate he hwithin
  | processBlock buffer =>
    obtain rfl := Option.some.inj hs
    simp only [processBlock_fst, followed] at ho ⊢
    rw [s.detector.processBlock_eq, s.envelope1.processBlock_eq, s.envelope2.processBlock_eq]
      at ho ⊢
    exact { h with ordered := ho }

omit [IsStrictOrderedRing K] in
/-- Nothing is heard of a call that is not a block. -/
lemma Apart.quiet {s s' : TransientSplitter K} {d : K} (h : s.Apart d s') {e : Event K}
    (he : e.heard = []) (q : K) : s.Apart (q ^ e.heard.length * d) s' := by
  rwa [he, List.length_nil, pow_zero, one_mul]

/-- **Every call brings two splitters closer** with each sample that is heard.

**Proof sketch.** A setter changes the same parameters of both splitters and no stored value. In a
block each follower comes closer by its own share, which is at most that of the longest time. -/
lemma Apart.step {s s' t t' : TransientSplitter K} {d : K} (h : s.Apart d s')
    (hfading : s.Fading exp longest sampleRate) {e : Event K} (he : e.Admissible)
    (hwithin : e.Within longest) (ht : s.step exp e = some t) (ht' : s'.step exp e = some t') :
    t.Apart (Envelope.coefficient exp longest sampleRate ^ e.heard.length * d) t' := by
  cases e with
  | prepare spec => exact hwithin.elim
  | setAttack newAttack =>
    obtain rfl := Option.some.inj ht
    obtain rfl := Option.some.inj ht'
    refine Apart.quiet ?_ rfl _
    exact { h with parameter := by simp only [setAttack, h.parameter] }
  | setSustain newSustain =>
    obtain rfl := Option.some.inj ht
    obtain rfl := Option.some.inj ht'
    refine Apart.quiet ?_ rfl _
    exact { h with parameter := by simp only [setSustain, h.parameter] }
  | setAttackTime newAttackTime =>
    obtain rfl := Option.some.inj ht
    obtain rfl := Option.some.inj ht'
    refine Apart.quiet ?_ rfl _
    refine { h with
      parameter := by simp only [setAttackTime, h.parameter]
      envelope2 := { h.envelope2 with attackTime := rfl, attackCoefficient := ?_ } }
    show Envelope.coefficient exp newAttackTime s.envelope2.sampleRate =
      Envelope.coefficient exp newAttackTime s'.envelope2.sampleRate
    rw [h.envelope2.sampleRate]
  | processBlock buffer =>
    obtain rfl := Option.some.inj ht
    obtain rfl := Option.some.inj ht'
    obtain ⟨hd, h₁, h₂⟩ := hfading.fades
    exact ⟨h.parameter, h.detector.processBlock hd he, h.envelope1.processBlock h₁ he,
      h.envelope2.processBlock h₂ he⟩

/-- **A run brings two splitters closer** with each sample that is heard.

**Proof sketch.** Induction on the calls, each of which multiplies the distance by a power of the
share, and keeps the shares below it. -/
lemma Apart.exec (hexp : ExpRises exp) {es : List (Event K)} (hes : ∀ e ∈ es, e.Admissible)
    (hwithin : ∀ e ∈ es, e.Within longest) {s s' t t' : TransientSplitter K} {d : K}
    (h : s.Apart d s') (hfading : s.Fading exp longest sampleRate)
    (ht : Transition.exec (TransientSplitter.step exp) s es = some t)
    (ht' : Transition.exec (TransientSplitter.step exp) s' es = some t') :
    t.Apart (Envelope.coefficient exp longest sampleRate ^ (es.flatMap Event.heard).length * d)
      t' := by
  induction es generalizing s s' d with
  | nil =>
    obtain rfl := Option.some.inj ht
    obtain rfl := Option.some.inj ht'
    rwa [List.flatMap_nil, List.length_nil, pow_zero, one_mul]
  | cons e es ih =>
    obtain ⟨u, hu, ht⟩ := Transition.exec_cons_eq_some.mp ht
    obtain ⟨u', hu', ht'⟩ := Transition.exec_cons_eq_some.mp ht'
    obtain ⟨he, hes⟩ := List.forall_mem_cons.mp hes
    obtain ⟨hin, hwithin⟩ := List.forall_mem_cons.mp hwithin
    have hnext := h.step hfading he hin hu hu'
    rw [List.flatMap_cons, List.length_append, Nat.add_comm, pow_add, mul_assoc]
    exact ih hes hwithin hnext (hfading.step hexp he hin hu) ht ht'

end TransientSplitter

/-! ## Whole runs -/

namespace TransientSplitter

/-- The times of the followers: those of the constructor, and the attack time that was set. -/
structure Timed (s : TransientSplitter K) : Prop where
  detector_attackTime : s.detector.attackTime = 0
  detector_releaseTime : s.detector.releaseTime = 10 * (3 / 10)
  envelope1_attackTime : s.envelope1.attackTime = 0
  envelope1_releaseTime : s.envelope1.releaseTime = 3 / 10
  envelope2_attackTime : s.envelope2.attackTime = s.parameter.attackTime
  envelope2_releaseTime : s.envelope2.releaseTime = 3 / 10

omit [LinearOrder K] in
lemma timed_construct : (construct : TransientSplitter K).Timed := ⟨rfl, rfl, rfl, rfl, rfl, rfl⟩

/-- Every call keeps the times. -/
lemma Timed.step {exp : K → K} {s s' : TransientSplitter K} (h : s.Timed) {e : Event K}
    (hs : s.step exp e = some s') : s'.Timed := by
  cases e with
  | setAttackTime newAttackTime =>
    obtain rfl := Option.some.inj hs
    exact { h with envelope2_attackTime := rfl }
  | prepare spec | setAttack newAttack | setSustain newSustain =>
    obtain rfl := Option.some.inj hs
    exact { h with }
  | processBlock buffer =>
    obtain rfl := Option.some.inj hs
    simp only [processBlock_fst, followed]
    rw [s.detector.processBlock_eq, s.envelope1.processBlock_eq, s.envelope2.processBlock_eq]
    exact { h with }

/-- The stored values of all followers are at most `d` apart. -/
structure Close (d : K) (s s' : TransientSplitter K) : Prop where
  detector : Envelope.Close d s.detector.lastValue s'.detector.lastValue
  envelope1 : Envelope.Close d s.envelope1.lastValue s'.envelope1.lastValue
  envelope2 : Envelope.Close d s.envelope2.lastValue s'.envelope2.lastValue

/-- Whatever they have been through, two splitters with the same parameters differ in the stored
values alone after `prepare`. -/
lemma apart_prepare {s s' : TransientSplitter K} (h : s.Timed) (h' : s'.Timed)
    (hparameter : s.parameter = s'.parameter) {d : K} (hclose : s.Close d s') (exp : K → K)
    (spec : ProcessSpec) : (s.prepare exp spec).Apart d (s'.prepare exp spec) := by
  have hapart : ∀ {e e' : Envelope K}, e.attackTime = e'.attackTime →
      e.releaseTime = e'.releaseTime → Envelope.Close d e.lastValue e'.lastValue →
      (e.prepare exp spec).Apart d (e'.prepare exp spec) := by
    intro e e' hattack hrelease hlast
    refine ⟨hattack, hrelease, ?_, ?_, rfl, hlast⟩
    · exact congrArg (fun time => Envelope.coefficient exp time (spec.sampleRate : K)) hattack
    · exact congrArg (fun time => Envelope.coefficient exp time (spec.sampleRate : K)) hrelease
  refine ⟨hparameter, hapart ?_ ?_ hclose.detector, hapart ?_ ?_ hclose.envelope1,
    hapart ?_ ?_ hclose.envelope2⟩
  · rw [h.detector_attackTime, h'.detector_attackTime]
  · rw [h.detector_releaseTime, h'.detector_releaseTime]
  · rw [h.envelope1_attackTime, h'.envelope1_attackTime]
  · rw [h.envelope1_releaseTime, h'.envelope1_releaseTime]
  · rw [h.envelope2_attackTime, h'.envelope2_attackTime, hparameter]
  · rw [h.envelope2_releaseTime, h'.envelope2_releaseTime]

/-- What holds in every reachable state. -/
lemma ordered_timed_of_exec [IsStrictOrderedRing K] {exp : K → K} (hexp : ExpRises exp)
    {es : List (Event K)} (hes : ∀ e ∈ es, e.Admissible) {s : TransientSplitter K}
    (hs : Transition.exec (TransientSplitter.step exp) construct es = some s) :
    s.Ordered ∧ s.Timed := by
  refine (Transition.always_of_stepsMeet (I := fun s => s.Ordered ∧ s.Timed)
    (fun _ _ _ h he hstep => ⟨h.1.step hexp he hstep, h.2.step hstep⟩)
    ⟨ordered_construct, timed_construct⟩ (Transition.stepsMeet_of_forall _ hes)).last hs

/-- A time and a rate that are positive give a share of less than one. -/
lemma coefficient_lt_one [IsStrictOrderedRing K] {exp : K → K} (hlt : ∀ y, y < 0 → exp y < 1)
    {time sampleRate : K} (htime : 0 < time) (hrate : 0 < sampleRate) :
    Envelope.coefficient exp time sampleRate < 1 := by
  have hpos := mul_pos htime hrate
  rw [Envelope.coefficient, if_neg hpos.ne']
  exact hlt _ (div_neg_of_neg_of_pos (by simp) hpos)

end TransientSplitter

/-- **What `prepare` keeps of the past fades.** Two splitters have been through any calls, have the
same parameters, and are prepared for the same rate. Then they are called alike and not prepared
again, with attack times up to a longest time, which is at least the 3 seconds of the detector's
release. With each sample that is heard their stored values come closer, by the share of the longest
time, which is less than one.

**Proof sketch.** After `prepare` both splitters have the same parameters, coefficients of the same
times, and stored values that are as close as before. From there on `Apart.exec` counts the samples
that are heard. -/
theorem splitter_forgets [IsStrictOrderedRing K] {exp : K → K} (hexp : ExpRises exp)
    (hlt : ∀ y, y < 0 → exp y < 1) {longest : K} (hlongest : 3 ≤ longest) {spec : ProcessSpec}
    (hrate : 0 < (spec.sampleRate : K)) {past past' es : List (TransientSplitter.Event K)}
    (hpast : ∀ e ∈ past, e.Admissible) (hpast' : ∀ e ∈ past', e.Admissible)
    (hes : ∀ e ∈ es, e.Admissible) (hwithin : ∀ e ∈ es, e.Within longest)
    {s s' t t' : TransientSplitter K} {d : K}
    (hs : Transition.exec (TransientSplitter.step exp) .construct past = some s)
    (hs' : Transition.exec (TransientSplitter.step exp) .construct past' = some s')
    (hparameter : s.parameter = s'.parameter) (hattack : s.parameter.attackTime ≤ longest)
    (hclose : s.Close d s')
    (ht : Transition.exec (TransientSplitter.step exp) s (.prepare spec :: es) = some t)
    (ht' : Transition.exec (TransientSplitter.step exp) s' (.prepare spec :: es) = some t') :
    Envelope.coefficient exp longest (spec.sampleRate : K) < 1 ∧
      t.Close (Envelope.coefficient exp longest (spec.sampleRate : K) ^
        (es.flatMap TransientSplitter.Event.heard).length * d) t' := by
  obtain ⟨ho, htimed⟩ := TransientSplitter.ordered_timed_of_exec hexp hpast hs
  obtain ⟨-, htimed'⟩ := TransientSplitter.ordered_timed_of_exec hexp hpast' hs'
  refine ⟨TransientSplitter.coefficient_lt_one hlt (by linarith) hrate, ?_⟩
  have hrelease : s.detector.releaseTime ≤ longest := by
    rw [htimed.detector_releaseTime]
    linarith
  have hattack' : s.envelope2.attackTime ≤ longest := htimed.envelope2_attackTime ▸ hattack
  have hfading := TransientSplitter.Fading.of_prepare hexp ho hrelease hattack' hrate
  obtain ⟨u, hu, ht⟩ := Transition.exec_cons_eq_some.mp ht
  obtain ⟨u', hu', ht'⟩ := Transition.exec_cons_eq_some.mp ht'
  obtain rfl := Option.some.inj hu
  obtain rfl := Option.some.inj hu'
  have hapart := (TransientSplitter.apart_prepare htimed htimed' hparameter hclose exp spec).exec
    hexp hes hwithin hfading ht ht'
  exact ⟨hapart.detector.close, hapart.envelope1.close, hapart.envelope2.close⟩

/-- A splitter that has heard a sample of 1. -/
noncomputable def heardOne : TransientSplitter ℝ :=
  ((TransientSplitter.construct.prepare Real.exp ⟨48000, 1, 1⟩).processBlock (.single 1)).1

lemma close_heardOne : heardOne.Close 1 TransientSplitter.construct := by
  have hclose : ∀ e : Envelope ℝ, e.lastValue = number 0 → 0 ≤ e.attackCoefficient →
      e.attackCoefficient ≤ 1 → Envelope.Close 1 (e.processBlock (.single 1)).lastValue 0 := by
    intro e hlast hattack hattack'
    rw [Envelope.lastValue_single, hlast, Envelope.follow_number, if_pos zero_lt_one]
    refine ⟨_, 0, rfl, rfl, ?_⟩
    rw [sub_zero, abs_le]
    split_ifs <;> constructor <;> linarith
  have hcoefficient : ∀ time : ℝ, 0 ≤ time →
      0 ≤ Envelope.coefficient Real.exp time ((48000 : ℚ) : ℝ) ∧
        Envelope.coefficient Real.exp time ((48000 : ℚ) : ℝ) ≤ 1 := by
    intro time htime
    unfold Envelope.coefficient
    split_ifs
    · exact ⟨le_rfl, zero_le_one⟩
    · have hneg : -1 / (time * ((48000 : ℚ) : ℝ)) ≤ 0 :=
        div_nonpos_of_nonpos_of_nonneg (by norm_num) (mul_nonneg htime (by norm_num))
      exact ⟨(Real.exp_pos _).le, Real.exp_le_one_iff.mpr hneg⟩
  have hzero := hcoefficient 0 le_rfl
  have hhalf := hcoefficient (1 / 2) (by norm_num)
  exact ⟨hclose _ rfl hzero.1 hzero.2, hclose _ rfl hzero.1 hzero.2,
    hclose _ rfl hhalf.1 hhalf.2⟩

/-- A sample, another attack time, and another sample. -/
noncomputable def twoSamples : List (TransientSplitter.Event ℝ) :=
  [.processBlock (.single 1), .setAttackTime 2, .processBlock (.single (1 / 2))]

/-- The theorem at work: after another `prepare` and these calls, this splitter and a new one are
at most the square of the share of three seconds apart. -/
theorem splitter_forgets_heardOne :
    Envelope.coefficient Real.exp 3 ((48000 : ℚ) : ℝ) < 1 ∧
      ∃ t t', Transition.exec (TransientSplitter.step Real.exp) heardOne
          (.prepare ⟨48000, 1, 1⟩ :: twoSamples) = some t ∧
        Transition.exec (TransientSplitter.step Real.exp) .construct
          (.prepare ⟨48000, 1, 1⟩ :: twoSamples) = some t' ∧
        t.Close (Envelope.coefficient Real.exp 3 ((48000 : ℚ) : ℝ) ^ 2) t' := by
  have hrate : 0 < (((⟨48000, 1, 1⟩ : ProcessSpec).sampleRate : ℚ) : ℝ) := by norm_num
  have hsingle : ∀ x : ℝ, (TransientSplitter.Event.processBlock (.single x)).Admissible :=
    fun x => ⟨Nat.one_pos, fun _ _ _ _ h => by cases h⟩
  have hpast : ∀ e ∈ [.prepare ⟨48000, 1, 1⟩, .processBlock (.single (1 : ℝ))],
      TransientSplitter.Event.Admissible e := by
    intro e he
    simp only [List.mem_cons, List.not_mem_nil, or_false] at he
    rcases he with rfl | rfl
    · exact hrate
    · exact hsingle 1
  have hs : Transition.exec (TransientSplitter.step Real.exp) .construct
      [.prepare ⟨48000, 1, 1⟩, .processBlock (.single 1)] = some heardOne := rfl
  have hs' : Transition.exec (TransientSplitter.step Real.exp) .construct [] =
      some (.construct : TransientSplitter ℝ) := rfl
  have hlt : ∀ y : ℝ, y < 0 → Real.exp y < 1 := fun _ h => Real.exp_lt_one_iff.mpr h
  have hadmissible : ∀ e ∈ twoSamples, e.Admissible := by
    intro e he
    simp only [twoSamples, List.mem_cons, List.not_mem_nil, or_false] at he
    rcases he with rfl | rfl | rfl
    · exact hsingle 1
    · exact zero_le_two
    · exact hsingle (1 / 2)
  have hwithin : ∀ e ∈ twoSamples, e.Within 3 := by
    intro e he
    simp only [twoSamples, List.mem_cons, List.not_mem_nil, or_false] at he
    rcases he with rfl | rfl | rfl
    · trivial
    · exact (by norm_num : (2 : ℝ) ≤ 3)
    · trivial
  have hforgets := splitter_forgets expRises_real hlt (le_refl 3) hrate hpast
    (fun _ he => absurd he List.not_mem_nil) hadmissible hwithin hs hs' rfl
    (show (1 / 2 : ℝ) ≤ 3 by norm_num) close_heardOne rfl rfl
  rw [mul_one] at hforgets
  exact ⟨hforgets.1, _, _, rfl, rfl, hforgets.2⟩
