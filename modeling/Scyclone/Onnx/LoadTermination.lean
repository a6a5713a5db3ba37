import Scyclone.Onnx.InputIntegrity
import Scyclone.Onnx.Network

set_option relaxedAutoImplicit false
set_option autoImplicit false

/-!
# Loads that hang

A load that finds the inference thread running stops it and then waits in
`while (!isThreadRunning())`. The flag that the load has raised keeps `sendAudio` from starting
the thread, so the loop waits for something that nothing can bring about.

## Main definitions

* `Hung`, `CanComplete` — a load that never leaves the wait loop; a load that can end.
* `FindsThreadStopped` — a load that checks the thread finds it stopped.

## Main results

* `Waiting.hung`, `Stuck.not_canComplete` — a load that has found the thread running.
* `Completable.canComplete` — any other one.
* `loads_complete_iff` — loads can end as long as none finds the inference thread running.
-/

variable {F S File : Type} [FloatSample F]

/-! ## Stuck loads -/

/-- A load, its flag raised, waits for the thread that it has stopped. -/
def Waiting (s : Hosted F S File) : Prop :=
  s.inference.loadingModel = true ∧ s.inference.thread = .stopped ∧
    ∃ source, s.network.loader = some (source, .wait)

/-- A load that has found the inference thread running, and stops it or waits. -/
def Stuck (s : Hosted F S File) : Prop :=
  (s.inference.loadingModel = true ∧ ∃ source, s.network.loader = some (source, .stopThread)) ∨
    Waiting s

/-- The load waits, and nothing that anyone does makes the thread run again. -/
def Hung (ort : Ort F S File) (s : Hosted F S File) : Prop :=
  (∃ source, s.network.loader = some (source, .wait)) ∧
    ∀ es t, Transition.exec (Hosted.step ort) s es = some t →
      t.inference.thread.isThreadRunning = false

/-- Steps of the load and of the inference thread. -/
def HostedEvent.ByLoadOrThread : HostedEvent F File → Prop
  | .own (.audio .deliver) => True
  | .own (.audio .threadEnd) => True
  | .own .loadStep => True
  | _ => False

/-- The load can end, with no other help than that of the inference thread. -/
def CanComplete (ort : Ort F S File) (s : Hosted F S File) : Prop :=
  ∃ es t, (∀ e ∈ es, e.ByLoadOrThread) ∧ Transition.exec (Hosted.step ort) s es = some t ∧
    t.network.loader = none

/-- A load that waits goes on waiting: its flag keeps `sendAudio` from starting the thread. -/
lemma Waiting.step {ort : Ort F S File} {s s' : Hosted F S File} (h : Waiting s)
    {e : HostedEvent F File} (hs : s.step ort e = some s') : Waiting s' := by
  obtain ⟨hflag, ht, source, hload⟩ := h
  rcases Hosted.step_cases hload hs with ⟨rfl, rfl⟩ | ⟨-, hload', hflag', ht'⟩
  · have hthread : s.network.inference.thread = .stopped := ht
    have hwait : (s.network.loadStep ort s.suspended source .wait).1 = s.network := by
      simp [Network.loadStep, hthread]
    unfold Waiting Hosted.inference
    rw [hwait]
    exact ⟨hflag, ht, source, hload⟩
  · exact ⟨hflag'.trans hflag, ht' ht hflag, source, hload'⟩

/-- **A stuck load stays stuck.** -/
lemma Stuck.step {ort : Ort F S File} {s s' : Hosted F S File} (h : Stuck s)
    {e : HostedEvent F File} (hs : s.step ort e = some s') : Stuck s' := by
  rcases h with ⟨hflag, source, hload⟩ | hwait
  · rcases Hosted.step_cases hload hs with ⟨rfl, rfl⟩ | ⟨-, hload', hflag', -⟩
    · exact Or.inr ⟨hflag, rfl, source, rfl⟩
    · exact Or.inl ⟨hflag'.trans hflag, source, hload'⟩
  · exact Or.inr (hwait.step hs)

/-- A stuck load never ends. -/
lemma Stuck.not_canComplete {ort : Ort F S File} {s : Hosted F S File} (h : Stuck s) :
    ¬ CanComplete ort s := by
  rintro ⟨es, t, -, hexec, hnone⟩
  have hstuck := Transition.exec_invariant (fun _ _ _ h hs => Stuck.step h hs) h hexec
  rcases hstuck with ⟨-, source, hload⟩ | ⟨-, -, source, hload⟩
  · rw [hload] at hnone
    cases hnone
  · rw [hload] at hnone
    cases hnone

/-- A load that waits with its flag raised waits forever. -/
lemma Waiting.hung {ort : Ort F S File} {s : Hosted F S File} (h : Waiting s) : Hung ort s := by
  refine ⟨h.2.2, fun es t hexec => ?_⟩
  have hwait := Transition.exec_invariant (fun _ _ _ h hs => Waiting.step h hs) h hexec
  rw [hwait.2.1]
  rfl

/-! ## Loads that end -/

/-- The number of stages to go, at most. -/
def LoadStage.toGo : LoadStage → ℕ
  | .raiseFlag => 9
  | .checkThread => 8
  | .stopThread => 0
  | .wait => 0
  | .construct => 7
  | .prepare => 6
  | .inputShape => 5
  | .resume => 4
  | .resetRing => 3
  | .resetCounter => 2
  | .lowerFlag => 1

/-- A stage that does not find the thread running leads to a later one. -/
lemma LoadStage.toGo_next {stage : LoadStage} {running : Bool} (hstage : 0 < stage.toGo)
    (hrunning : stage = .checkThread → running = false) (hlast : stage ≠ .lowerFlag) :
    0 < (stage.next running).toGo ∧ (stage.next running).toGo < stage.toGo := by
  cases stage with
  | checkThread =>
    rw [hrunning rfl]
    decide
  | stopThread => exact absurd hstage (Nat.lt_irrefl 0)
  | wait => exact absurd hstage (Nat.lt_irrefl 0)
  | lowerFlag => exact absurd rfl hlast
  | raiseFlag | construct | prepare | inputShape | resume | resetRing | resetCounter =>
    simp [next, toGo]

/-- A stage of the load, unless it finds the thread running, ends the load or leads to a later
stage with the flag raised. It leaves the thread alone. -/
lemma Network.loadStep_toGo (ort : Ort F S File) (suspended : Bool) {n : Network F S File}
    {source : ModelSource File} {stage : LoadStage} (hload : n.loader = some (source, stage))
    (hstage : 0 < stage.toGo) (ht : stage = .checkThread → n.inference.thread = .stopped)
    (hflag : stage ≠ .raiseFlag → n.inference.loadingModel = true) :
    (n.loadStep ort suspended source stage).1.inference.thread = n.inference.thread ∧
      ((n.loadStep ort suspended source stage).1.loader = none ∨
        ∃ next, (n.loadStep ort suspended source stage).1.loader = some (source, next) ∧
          (n.loadStep ort suspended source stage).1.inference.loadingModel = true ∧
          0 < next.toGo ∧ next.toGo < stage.toGo) := by
  have heffect := loadStep_effect ort suspended hload
  have hstop : stage ≠ .stopThread := by
    rintro rfl
    exact absurd hstage (Nat.lt_irrefl 0)
  refine ⟨heffect.thread.trans (if_neg hstop), heffect.loader.imp_right ?_⟩
  rintro ⟨hlast, hnext⟩
  refine ⟨_, hnext, ?_, LoadStage.toGo_next hstage (fun hcheck => ?_) hlast⟩
  · by_cases hfirst : stage = .raiseFlag
    · exact heffect.raised hfirst
    · exact (heffect.flag hfirst hlast).trans (hflag hfirst)
  · exact ThreadState.isThreadRunning_eq_false.mpr (ht hcheck)

/-- The condition on a step: a load that checks the inference thread finds it stopped. -/
def FindsThreadStopped (s : Hosted F S File) : HostedEvent F File → Prop
  | .own .loadStep =>
    ∀ source, s.network.loader = some (source, .checkThread) → s.inference.thread = .stopped
  | .own (.prepare _) => True
  | .own (.audio _) => True
  | .own (.beginLoad _) => True
  | .suspendProcessing _ => True

/-- No load hangs, and the one in progress, if any, can end. -/
def LoadsEnd (ort : Ort F S File) (s : Hosted F S File) : Prop :=
  ¬ Hung ort s ∧ ∀ load, s.network.loader = some load → CanComplete ort s

/-- A state in which no load has found the inference thread running. -/
structure Completable (s : Hosted F S File) : Prop where
  toGo : ∀ source stage, s.network.loader = some (source, stage) → 0 < stage.toGo
  flagged : ∀ source stage, s.network.loader = some (source, stage) → stage ≠ .raiseFlag →
    s.inference.loadingModel = true

/-- A step of the load or of the thread before a run that completes. -/
lemma CanComplete.of_step {ort : Ort F S File} {s s' : Hosted F S File}
    {e : HostedEvent F File} (he : e.ByLoadOrThread) (hs : s.step ort e = some s')
    (h : CanComplete ort s') : CanComplete ort s := by
  obtain ⟨es, t, hes, hexec, hnone⟩ := h
  refine ⟨e :: es, t, fun e' he' => ?_, ?_, hnone⟩
  · rcases List.mem_cons.mp he' with rfl | hmem
    · exact he
    · exact hes e' hmem
  · rw [Transition.exec_cons_of_step hs, hexec]

/-- With the thread stopped, the remaining stages of a load end it.

**Proof sketch.** Strong induction on the number of stages to go. -/
lemma canComplete_of_stopped (ort : Ort F S File) {k : ℕ} {s : Hosted F S File}
    {source : ModelSource File} {stage : LoadStage}
    (hload : s.network.loader = some (source, stage)) (hk : stage.toGo = k) (hpos : 0 < k)
    (ht : s.inference.thread = .stopped)
    (hflag : stage ≠ .raiseFlag → s.inference.loadingModel = true) : CanComplete ort s := by
  induction k using Nat.strong_induction_on generalizing s stage with
  | _ k ih =>
    obtain ⟨ht', hnext⟩ := Network.loadStep_toGo ort s.suspended hload (hk ▸ hpos)
      (fun _ => ht) hflag
    refine CanComplete.of_step (e := .own .loadStep) trivial (Hosted.step_loadStep ort hload) ?_
    rcases hnext with hnone | ⟨next, hload', hflag', hpos', hlt⟩
    · exact ⟨[], _, fun _ h => (by cases h), rfl, hnone⟩
    · exact ih next.toGo (hk ▸ hlt) hload' rfl hpos' (ht'.trans ht) fun _ => hflag'

namespace Completable

/-- In such a state the load can end: the thread delivers and ends if it is running, and then the
stages of the load follow each other.

**Proof sketch.** Cases on the thread: a stopped one leaves the stages to follow each other, by
`canComplete_of_stopped`; one that has delivered ends first, and a running one delivers before that.
The flag keeps another inference from starting. -/
lemma canComplete (ort : Ort F S File) {s : Hosted F S File} (h : Completable s)
    {source : ModelSource File} {stage : LoadStage}
    (hload : s.network.loader = some (source, stage)) : CanComplete ort s := by
  have hpos := h.toGo source stage hload
  have hflag := h.flagged source stage hload
  have hdelivered : ∀ s : Hosted F S File, s.network.loader = some (source, stage) →
      (stage ≠ .raiseFlag → s.inference.loadingModel = true) →
      s.inference.thread = .delivered → CanComplete ort s := by
    intro s hload hflag ht
    have hs : s.step ort (.own (.audio .threadEnd)) = some ⟨{ s.network with
        live := { s.network.live with proc := s.network.live.proc.endThread } }, s.suspended⟩ := by
      simp [Hosted.step, Network.step, AudioEvent.allowed, Live.step, ht]
    refine CanComplete.of_step ?_ hs (canComplete_of_stopped ort hload rfl hpos rfl hflag)
    trivial
  cases ht : s.inference.thread with
  | stopped => exact canComplete_of_stopped ort hload rfl hpos ht hflag
  | delivered => exact hdelivered s hload hflag ht
  | running =>
    have hs : s.step ort (.own (.audio .deliver)) =
        some ⟨{ s.network with
          live := { s.network.live with proc := s.network.live.proc.deliver ort } },
          s.suspended⟩ := by
      simp [Hosted.step, Network.step, AudioEvent.allowed, Live.step, ht]
    refine CanComplete.of_step ?_ hs (hdelivered _ hload hflag rfl)
    trivial

/-- **A step whose load finds the thread stopped leads to such a state again.**

**Proof sketch.** A stage of the load brings it closer to its end, since it finds the thread stopped
where it looks; a step beside the load keeps its place and its flag. With no load in progress only
the beginning of one makes one, at the first stage. -/
lemma step {ort : Ort F S File} {s s' : Hosted F S File} (h : Completable s)
    {e : HostedEvent F File} (hc : FindsThreadStopped s e) (hs : s.step ort e = some s') :
    Completable s' := by
  cases hload : s.network.loader with
  | some load =>
    obtain ⟨source, stage⟩ := load
    have hpos := h.toGo source stage hload
    have hflag := h.flagged source stage hload
    rcases Hosted.step_cases hload hs with ⟨rfl, rfl⟩ | ⟨-, hload', hflag', -⟩
    · have hidle : stage = .checkThread → s.network.inference.thread = .stopped := by
        rintro rfl
        exact hc source hload
      obtain ⟨-, hnext⟩ := Network.loadStep_toGo ort s.suspended hload hpos hidle hflag
      rcases hnext with hnone | ⟨next, hload', hflag', hpos', -⟩
      · refine ⟨fun source' stage' h' => ?_, fun source' stage' h' => ?_⟩
        · rw [hnone] at h'
          cases h'
        · rw [hnone] at h'
          cases h'
      · refine ⟨fun source' stage' h' => ?_, fun _ _ _ _ => hflag'⟩
        rw [hload'] at h'
        cases h'
        exact hpos'
    · refine ⟨fun source' stage' h' => ?_, fun source' stage' h' hne => ?_⟩
      · rw [hload'] at h'
        cases h'
        exact hpos
      · rw [hload'] at h'
        cases h'
        exact hflag'.trans (hflag hne)
  | none =>
    -- only the beginning of a load makes one, and that is at its first stage
    have hfirst : ∀ source' stage', s'.network.loader = some (source', stage') →
        stage' = .raiseFlag := by
      intro source' stage' h'
      cases e with
      | own event =>
        simp only [Hosted.step, Option.map_eq_some_iff] at hs
        obtain ⟨r, hr, rfl⟩ := hs
        rcases Network.step_of_no_loader hload hr with ⟨source, -, rfl⟩ | ⟨hnone, -⟩
        · cases h'
          rfl
        · rw [hnone] at h'
          cases h'
      | suspendProcessing shouldBeSuspended =>
        cases hc' : s.network.live.callback with
        | none =>
          simp only [Hosted.step, hc', Option.some.injEq] at hs
          rw [← hs, hload] at h'
          cases h'
        | some b => simp [Hosted.step, hc'] at hs
    refine ⟨fun source' stage' h' => ?_, fun source' stage' h' hne => ?_⟩
    · rw [hfirst source' stage' h']
      decide
    · exact absurd (hfirst source' stage' h') hne

end Completable


/-- **Loads can end as long as none of them finds the inference thread running.** From a state
with no load in progress, no load hangs and every load can end in all states of a run exactly if
each load of the run that checks the thread finds it stopped.

**Proof sketch.** By the exactness rule. A load that finds the thread stopped passes the wait
loop by, and its remaining stages end it. One that does not stops the thread with the flag
raised; then `sendAudio` never starts it again, and the loop waits for just that. -/
theorem loads_complete_iff (ort : Ort F S File) {s : Hosted F S File}
    (hidle : s.network.loader = none) (es : List (HostedEvent F File)) :
    Transition.Always (Hosted.step ort) (LoadsEnd ort) s es ↔
      Transition.StepsMeet (Hosted.step ort) FindsThreadStopped s es := by
  refine Transition.always_iff_stepsMeet (I := Completable) (fun s h => ?_)
    (fun _ _ _ h hc hs => h.step hc hs) (fun s e s' h hs hend => ?_) es
    ⟨fun _ _ h => ?_, fun _ _ h => ?_⟩
  · refine ⟨fun hhung => ?_, fun load hload => h.canComplete ort hload⟩
    obtain ⟨⟨source, hload⟩, -⟩ := hhung
    exact absurd (h.toGo source .wait hload) (Nat.lt_irrefl 0)
  · cases e with
    | suspendProcessing shouldBeSuspended => trivial
    | own event =>
      cases event with
      | prepare spec => trivial
      | audio event => trivial
      | beginLoad source => trivial
      | loadStep =>
        intro source hload
        by_contra ht
        have hrunning : s.network.inference.thread.isThreadRunning = true := by
          rw [← Bool.not_eq_false, ThreadState.isThreadRunning_eq_false]
          exact ht
        have hstop : (s.network.loadStep ort s.suspended source .checkThread).1 =
            s.network.goTo source .stopThread := by
          simp [Network.loadStep, hrunning]
        rw [Hosted.step_loadStep ort hload, hstop, Option.some.injEq] at hs
        subst hs
        have hstuck : Stuck (⟨s.network.goTo source .stopThread, s.suspended⟩ :
            Hosted F S File) :=
          Or.inl ⟨h.flagged source .checkThread hload (by decide), source, rfl⟩
        exact hstuck.not_canComplete (hend.2 _ rfl)
  · rw [hidle] at h
    cases h
  · rw [hidle] at h
    cases h

/-- The theorem at work: an internal model is loaded while the thread is stopped. -/
theorem loads_complete_idle :
    Transition.Always (Hosted.step (Ort.passThrough ExactFloat))
      (LoadsEnd (Ort.passThrough ExactFloat))
      ⟨⟨⟨.passThrough ExactFloat, none⟩, none⟩, false⟩
      [.own (.beginLoad .internal), .own .loadStep, .own .loadStep] := by
  refine (loads_complete_iff _ rfl _).mpr fun s₁ h₁ => ⟨trivial, fun s₂ h₂ =>
    ⟨fun _ _ => ?_, fun s₃ h₃ => ⟨fun _ _ => ?_, trivial⟩⟩⟩
  · obtain rfl := Option.some.inj h₁
    rfl
  · obtain rfl := Option.some.inj h₁
    obtain rfl := Option.some.inj h₂
    rfl

/-- A load that is begun while the thread runs soon waits for it to run. -/
lemma exists_exec_waiting (ort : Ort F S File) {s : Hosted F S File}
    (hidle : s.network.loader = none) (hc : s.network.live.callback = none)
    (ht : s.inference.thread ≠ .stopped) (source : ModelSource File) :
    ∃ t, Transition.exec (Hosted.step ort) s
        [.own (.beginLoad source), .own .loadStep, .own .loadStep, .own .loadStep] = some t ∧
      Waiting t := by
  have hrunning : s.network.inference.thread.isThreadRunning = true := by
    rw [← Bool.not_eq_false, ThreadState.isThreadRunning_eq_false]
    exact ht
  have hbegin : s.step ort (.own (.beginLoad source)) =
      some ⟨s.network.goTo source .raiseFlag, true⟩ := by
    simp only [Hosted.step, Network.step, hidle, hc, Option.map_some]
  rw [Transition.exec_cons_of_step hbegin,
    Transition.exec_cons_of_step (Hosted.step_loadStep ort rfl),
    Transition.exec_cons_of_step (Hosted.step_loadStep ort rfl)]
  have hcheck : (((s.network.goTo source .raiseFlag).mapInference fun t =>
      { t with loadingModel := true }).goTo source .checkThread).inference.thread.isThreadRunning =
        true := hrunning
  simp only [Network.loadStep, hcheck, if_true]
  rw [Transition.exec_cons_of_step (Hosted.step_loadStep ort rfl)]
  exact ⟨_, rfl, rfl, rfl, source, rfl⟩

/-- The host prepares the plugin at 48 kHz and sends one block of 16384 samples, on which the
inference starts. A model is selected before it has ended: the load hangs. -/
theorem load_during_inference_hangs :
    ¬ Transition.Always (Hosted.step (Ort.passThrough ExactFloat))
      (LoadsEnd (Ort.passThrough ExactFloat))
      ⟨⟨⟨.passThrough ExactFloat, none⟩, none⟩, false⟩
      ([.own (.prepare ⟨48000, 16384, 1⟩), .own (.audio (.sendAudio ones)),
          .own (.audio .processOutput)] ++
        [.own (.beginLoad .internal), .own .loadStep, .own .loadStep, .own .loadStep]) := by
  intro halways
  have hexec : Transition.exec (Hosted.step (Ort.passThrough ExactFloat))
      ⟨⟨⟨.passThrough ExactFloat, none⟩, none⟩, false⟩
      [.own (.prepare ⟨48000, 16384, 1⟩), .own (.audio (.sendAudio ones)),
        .own (.audio .processOutput)] =
      some ⟨⟨⟨(inFlight.processOutput ones ones.numSamples).1, none⟩, none⟩, false⟩ := rfl
  obtain ⟨t, ht, hwait⟩ := exists_exec_waiting (Ort.passThrough ExactFloat)
    (s := ⟨⟨⟨(inFlight.processOutput ones ones.numSamples).1, none⟩, none⟩, false⟩) rfl rfl (by
      rw [Hosted.inference, OnnxProcessor.processOutput_eq]
      rw [inFlight_running.1]
      simp) .internal
  refine (halways.last ?_).1 hwait.hung
  rw [Transition.exec_append, hexec, Option.bind_some, ht]
