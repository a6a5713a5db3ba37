import Scyclone.Onnx.LoadAtomicity
import Scyclone.Onnx.LoadTermination
import Scyclone.Plugin.PluginParameters

set_option relaxedAutoImplicit false
set_option autoImplicit false

/-!
# Suspending the host for both networks

The two networks are loaded independently of each other, each of them from any thread, and all
these loads call `suspendProcessing` of the one plugin, which sets a boolean.

## Main definitions

* `Networks`, `Networks.step` — both networks and the flag they share.
* `Networks.Guarded` — processing is suspended while a network is being replaced.
* `Networks.BeginsAlone` — no load begins while another one has to replace its session yet.

## Main results

* `Networks.Sole.step` — loads that begin alone keep processing suspended.
* `Networks.exists_not_guarded` — any other load can be the end of the suspension.
* `suspended_while_replacing` — when processing stays suspended.
-/

variable {F S File : Type} [FloatSample F]

/-! ## One network -/

namespace Network

/-- The load in progress is between `onOnnxModelLoad (true, …)` and `onOnnxModelLoad (false, …)`. -/
def inWindow (n : Network F S File) : Bool :=
  match n.loader with
  | some (_, stage) => stage.suspends
  | none => false

omit [FloatSample F] in
/-- A load that resumes processing has been in the window. -/
lemma inWindow_of_resumes {n : Network F S File} {e : NetworkEvent F File}
    (h : n.resumes e = true) : e = .loadStep ∧ n.inWindow = true := by
  cases e with
  | loadStep =>
    refine ⟨rfl, ?_⟩
    simp only [resumes] at h
    split at h
    · rename_i hload
      simp [inWindow, hload, LoadStage.suspends]
    · cases h
  | prepare spec => cases h
  | audio event => cases h
  | beginLoad source => cases h

/-- The event calls `suspendProcessing`. -/
def callsSuspend (n : Network F S File) : NetworkEvent F File → Bool
  | .beginLoad _ => true
  | e => n.resumes e

/-- A stage of a load: the call of `onOnnxModelLoad (false, …)` ends the window, and no other
stage begins one or touches the flag.

**Proof sketch.** By the stage. None enters the window. `resume` leaves it, and lowers the flag if
the load notifies; the other stages keep the flag. -/
lemma loadStep_window (ort : Ort F S File) (suspended : Bool) {n : Network F S File}
    {source : ModelSource File} {stage : LoadStage} (hload : n.loader = some (source, stage)) :
    ((n.resumes .loadStep = true ∧ (n.loadStep ort suspended source stage).2 = false) ∨
      (n.resumes .loadStep = false ∧ (n.loadStep ort suspended source stage).2 = suspended)) ∧
    ((n.loadStep ort suspended source stage).1.inWindow = true →
      n.inWindow = true ∧ n.resumes .loadStep = false) := by
  cases stage with
  | raiseFlag => simp [loadStep, inWindow, resumes, hload, LoadStage.suspends]
  | checkThread => simp [loadStep, inWindow, resumes, hload, LoadStage.suspends]
  | stopThread => simp [loadStep, inWindow, resumes, hload, LoadStage.suspends]
  | wait => simp [loadStep, inWindow, resumes, hload, LoadStage.suspends]
  | construct =>
    simp only [loadStep]
    split <;> simp [inWindow, resumes, hload, LoadStage.suspends]
  | prepare => simp [loadStep, inWindow, resumes, hload, LoadStage.suspends]
  | inputShape =>
    simp only [loadStep]
    split <;> simp [inWindow, resumes, hload, LoadStage.suspends]
  | resume =>
    cases hn : source.notifies n.inference.startUp <;>
      simp [loadStep, inWindow, resumes, goTo, hload, hn, LoadStage.suspends]
  | resetRing => simp [loadStep, inWindow, resumes, goTo, hload, LoadStage.suspends]
  | resetCounter => simp [loadStep, inWindow, resumes, goTo, hload, LoadStage.suspends]
  | lowerFlag => simp [loadStep, inWindow, resumes, ended, hload]

/-- **What a step does to the flag and to the window**: it ends the window and clears the flag,
or begins a window and sets the flag, or does neither.

**Proof sketch.** A stage of the load has its own lemma. Of the other events only the beginning of a
load sets the flag, and none clears it or begins a window. -/
lemma step_window {ort : Ort F S File} {suspended : Bool} {n : Network F S File}
    {e : NetworkEvent F File} {r : Network F S File × Bool}
    (h : n.step ort suspended e = some r) :
    (n.resumes e = true ∧ r.2 = false ∧ r.1.inWindow = false) ∨
    (n.resumes e = false ∧ n.callsSuspend e = true ∧ r.2 = true) ∨
    (n.resumes e = false ∧ r.2 = suspended ∧ (r.1.inWindow = true → n.inWindow = true)) := by
  by_cases he : e = .loadStep
  · rw [he] at h ⊢
    simp only [step, Option.map_eq_some_iff] at h
    obtain ⟨⟨source, stage⟩, hload, rfl⟩ := h
    obtain ⟨hflag, hwindow⟩ := loadStep_window ort suspended hload
    rcases hflag with ⟨hresumes, hcleared⟩ | ⟨hresumes, hkept⟩
    · refine Or.inl ⟨hresumes, hcleared, ?_⟩
      by_contra hin
      have hnot := (hwindow (Bool.not_eq_false _ ▸ hin)).2
      rw [hresumes] at hnot
      cases hnot
    · exact Or.inr (Or.inr ⟨hresumes, hkept, fun hin => (hwindow hin).1⟩)
  · right
    have hresumes : n.resumes e = false := by cases e <;> first | rfl | exact absurd rfl he
    cases hload : n.loader with
    | some load =>
      obtain ⟨hloader, -, -, -, hkept⟩ := step_other hload h he
      exact Or.inr ⟨hresumes, hkept, fun hin => by rwa [inWindow, hload, ← hloader]⟩
    | none =>
      rcases step_of_no_loader hload h with ⟨source, rfl, rfl⟩ | ⟨hnone, hkept, -⟩
      · exact Or.inl ⟨rfl, rfl, rfl⟩
      · exact Or.inr ⟨hresumes, hkept, fun hin => by simp [inWindow, hnone] at hin⟩

end Network

/-! ## Both networks -/

/-- Both networks and the plugin's flag. -/
structure Networks (F S File ι : Type) where
  network : NetworkId → SharedNetwork F S File ι
  suspended : Bool

namespace Networks

variable {ι : Type}

/-- No callback is in progress. `suspendProcessing` waits for this. -/
def idle (s : Networks F S File ι) : Bool :=
  (s.network .network1).live.callback.isNone && (s.network .network2).live.callback.isNone

/-- The load of a network on a thread is between `onOnnxModelLoad (true, …)` and
`onOnnxModelLoad (false, …)`. -/
def replacing (s : Networks F S File ι) (k : NetworkId) (i : ι) : Bool :=
  ((s.network k).seenBy i).inWindow

/-- Processing is suspended while a network is being replaced. -/
def Guarded (s : Networks F S File ι) : Prop :=
  ∀ k i, s.replacing k i = true → s.suspended = true

/-- The condition on a step: a load begins only if no load of either network is between its two
calls of `onOnnxModelLoad`. -/
def BeginsAlone (s : Networks F S File ι) (e : NetworkId × ι × NetworkEvent F File) : Prop :=
  match e.2.2 with
  | .beginLoad _ => ∀ k i, s.replacing k i = false
  | .loadStep => True
  | .prepare _ => True
  | .audio _ => True

variable [DecidableEq ι]

/-- One step of one of the networks, as one of the threads sees it. -/
def step (ort : Ort F S File) (s : Networks F S File ι)
    (e : NetworkId × ι × NetworkEvent F File) : Option (Networks F S File ι) :=
  if ((s.network e.1).seenBy e.2.1).callsSuspend e.2.2 && !s.idle then none
  else ((s.network e.1).step ort s.suspended e.2.1 e.2.2).map fun r =>
    ⟨Function.update s.network e.1 r.1, r.2⟩

/-- A step is one of the network's, and one that calls `suspendProcessing` finds no callback in
progress. -/
lemma step_eq_some {ort : Ort F S File} {s s' : Networks F S File ι}
    {e : NetworkId × ι × NetworkEvent F File} (h : s.step ort e = some s') :
    ∃ r, ((s.network e.1).seenBy e.2.1).step ort s.suspended e.2.2 = some r ∧
      s' = ⟨Function.update s.network e.1 ((s.network e.1).put e.2.1 r.1), r.2⟩ ∧
      (((s.network e.1).seenBy e.2.1).callsSuspend e.2.2 = true → s.idle = true) := by
  simp only [step, SharedNetwork.step, Option.ite_none_left_eq_some, Option.map_map,
    Option.map_eq_some_iff, Bool.and_eq_true, Bool.not_eq_true', not_and, Bool.not_eq_false] at h
  obtain ⟨hidle, r, hr, rfl⟩ := h
  exact ⟨r, hr, rfl, hidle⟩

omit [FloatSample F] in
/-- The loads after a step: that of the thread which has taken it, and all the others. -/
lemma replacing_put (s : Networks F S File ι) (k : NetworkId) (i : ι) (r : Network F S File)
    (suspended : Bool) (k' : NetworkId) (i' : ι) :
    replacing ⟨Function.update s.network k ((s.network k).put i r), suspended⟩ k' i' =
      if k' = k ∧ i' = i then r.inWindow else s.replacing k' i' := by
  unfold replacing
  by_cases hk : k' = k
  · obtain rfl := hk
    by_cases hi : i' = i
    · obtain rfl := hi
      simp
    · simp [hi, SharedNetwork.seenBy, Network.inWindow]
  · simp [hk]

/-! ### Loads that begin alone -/

/-- At most one load is between its two calls, and processing is suspended during it. -/
structure Sole (s : Networks F S File ι) : Prop where
  guarded : s.Guarded
  unique : ∀ k i k' i', s.replacing k i = true → s.replacing k' i' = true → k' = k ∧ i' = i

/-- **A load that begins alone stays alone.**

**Proof sketch.** By what the step does to the flag and to the window of its load. If it clears
the flag, its load was the one between its two calls and is not any more. If it sets the flag, it
begins a load, and no other one is between its calls. Otherwise the flag stays and no window
begins. -/
lemma Sole.step {ort : Ort F S File} {s s' : Networks F S File ι}
    {e : NetworkId × ι × NetworkEvent F File} (h : s.Sole) (halone : s.BeginsAlone e)
    (hs : s.step ort e = some s') : s'.Sole := by
  obtain ⟨k, i, event⟩ := e
  obtain ⟨r, hr, rfl, -⟩ := step_eq_some hs
  dsimp only at hr ⊢
  -- a load that is in its window afterwards is that of the step, or was in its window before
  have hcases : ∀ k' i',
      replacing ⟨Function.update s.network k ((s.network k).put i r.1), r.2⟩ k' i' = true →
      (k' = k ∧ i' = i ∧ r.1.inWindow = true) ∨
        (¬ (k' = k ∧ i' = i) ∧ s.replacing k' i' = true) := by
    intro k' i' hin
    rw [replacing_put] at hin
    split_ifs at hin with hsame
    · exact Or.inl ⟨hsame.1, hsame.2, hin⟩
    · exact Or.inr ⟨hsame, hin⟩
  rcases Network.step_window hr with ⟨hresumes, hcleared, hout⟩ | ⟨hno, hcalls, hset⟩ |
    ⟨-, hkept, hwindow⟩
  · have hnone : ∀ k' i',
        replacing ⟨Function.update s.network k ((s.network k).put i r.1), r.2⟩ k' i' ≠ true := by
      intro k' i' hin
      rcases hcases k' i' hin with ⟨-, -, hin'⟩ | ⟨hne, hin'⟩
      · rw [hout] at hin'
        cases hin'
      · exact hne (h.unique k i k' i' (Network.inWindow_of_resumes hresumes).2 hin')
    exact ⟨fun k' i' hin => absurd hin (hnone k' i'),
      fun k' i' _ _ hin => absurd hin (hnone k' i')⟩
  · have hnone : ∀ k' i', s.replacing k' i' = false := by
      cases event with
      | beginLoad source => exact halone
      | loadStep => simp [Network.callsSuspend, hno] at hcalls
      | prepare spec => cases hcalls
      | audio event => cases hcalls
    have hthis : ∀ k' i',
        replacing ⟨Function.update s.network k ((s.network k).put i r.1), r.2⟩ k' i' = true →
        k' = k ∧ i' = i := by
      intro k' i' hin
      rcases hcases k' i' hin with ⟨hk, hi, -⟩ | ⟨-, hin'⟩
      · exact ⟨hk, hi⟩
      · rw [hnone] at hin'
        cases hin'
    refine ⟨fun _ _ _ => hset, fun k₁ i₁ k₂ i₂ h₁ h₂ => ?_⟩
    obtain ⟨rfl, rfl⟩ := hthis k₁ i₁ h₁
    exact hthis k₂ i₂ h₂
  · have hbefore : ∀ k' i',
        replacing ⟨Function.update s.network k ((s.network k).put i r.1), r.2⟩ k' i' = true →
        s.replacing k' i' = true := by
      intro k' i' hin
      rcases hcases k' i' hin with ⟨rfl, rfl, hin'⟩ | ⟨-, hin'⟩
      · exact hwindow hin'
      · exact hin'
    exact ⟨fun k' i' hin => hkept.trans (h.guarded k' i' (hbefore k' i' hin)),
      fun k₁ i₁ k₂ i₂ h₁ h₂ => h.unique k₁ i₁ k₂ i₂ (hbefore k₁ i₁ h₁) (hbefore k₂ i₂ h₂)⟩

/-! ### Loads that do not -/

/-- A network as one of the threads sees it, with the plugin's flag. -/
def hostedBy (s : Networks F S File ι) (k : NetworkId) (i : ι) : Hosted F S File :=
  ⟨(s.network k).seenBy i, s.suspended⟩

/-- A step of the load on a thread, or of the inference thread, while no callback is in progress:
it is that of the network which the thread sees, no callback begins, and all other loads stay
where they are.

**Proof sketch.** Such a step begins no callback and leaves the loads of the other threads where
they are, so it can be taken in the plugin too, where it ends in the same state of this network. -/
lemma step_of_hostedBy {ort : Ort F S File} {s : Networks F S File ι} {k : NetworkId} {i : ι}
    (hidle : s.idle = true) {e : NetworkEvent F File} (he : (HostedEvent.own e).ByLoadOrThread)
    {h' : Hosted F S File} (hs : (s.hostedBy k i).step ort (.own e) = some h') :
    ∃ s', s.step ort (k, i, e) = some s' ∧ s'.hostedBy k i = h' ∧ s'.idle = true ∧
      ∀ k' i', ¬ (k' = k ∧ i' = i) → s'.replacing k' i' = s.replacing k' i' := by
  simp only [Hosted.step, Option.map_eq_some_iff] at hs
  obtain ⟨r, hr, rfl⟩ := hs
  replace hr : ((s.network k).seenBy i).step ort s.suspended e = some r := hr
  have hcallback : r.1.live.callback = (s.network k).live.callback := by
    cases e with
    | prepare spec => exact he.elim
    | beginLoad source => exact he.elim
    | loadStep =>
      simp only [Network.step, Option.map_eq_some_iff] at hr
      obtain ⟨⟨source, stage⟩, hload, rfl⟩ := hr
      exact (Network.loadStep_effect ort s.suspended hload).callback
    | audio event =>
      cases event with
      | sendAudio buffer => exact he.elim
      | processOutput => exact he.elim
      | deliver =>
        simp only [Network.step, AudioEvent.allowed, if_true, Live.step,
          Option.map_eq_some_iff, Option.ite_none_right_eq_some, Option.some.injEq] at hr
        obtain ⟨live, ⟨-, rfl⟩, rfl⟩ := hr
        rfl
      | threadEnd =>
        simp only [Network.step, AudioEvent.allowed, if_true, Live.step,
          Option.map_eq_some_iff, Option.ite_none_right_eq_some, Option.some.injEq] at hr
        obtain ⟨live, ⟨-, rfl⟩, rfl⟩ := hr
        rfl
  have hstep : s.step ort (k, i, e) =
      some ⟨Function.update s.network k ((s.network k).put i r.1), r.2⟩ := by
    simp only [step, hidle, Bool.not_true, Bool.and_false, Bool.false_eq_true, if_false,
      SharedNetwork.step, hr, Option.map_some]
  refine ⟨_, hstep, ?_, ?_, fun k' i' hne => ?_⟩
  · simp [hostedBy]
  · cases k <;> simpa [idle, SharedNetwork.put, hcallback] using hidle
  · rw [replacing_put, if_neg hne]

/-- A run of such steps.

**Proof sketch.** Induction on the steps, each of which is one of the plugin. -/
lemma exec_of_hostedBy {ort : Ort F S File} {s : Networks F S File ι} {k : NetworkId} {i : ι}
    (hidle : s.idle = true) {es : List (HostedEvent F File)} (hes : ∀ e ∈ es, e.ByLoadOrThread)
    {h' : Hosted F S File}
    (hrun : Transition.exec (Hosted.step ort) (s.hostedBy k i) es = some h') :
    ∃ es' s', (∀ e ∈ es', e.1 = k ∧ e.2.1 = i ∧ (HostedEvent.own e.2.2).ByLoadOrThread) ∧
      Transition.exec (step ort) s es' = some s' ∧ s'.hostedBy k i = h' ∧
      ∀ k' i', ¬ (k' = k ∧ i' = i) → s'.replacing k' i' = s.replacing k' i' := by
  induction es generalizing s with
  | nil =>
    obtain rfl := Option.some.inj hrun
    exact ⟨[], s, fun e h => (by cases h), rfl, rfl, fun _ _ _ => rfl⟩
  | cons e es ih =>
    obtain ⟨h₁, hstep, hrest⟩ := Transition.exec_cons_eq_some.mp hrun
    have he := hes e (by simp)
    cases e with
    | suspendProcessing shouldBeSuspended => exact he.elim
    | own event =>
      obtain ⟨s₁, hs₁, rfl, hidle₁, hothers₁⟩ := step_of_hostedBy hidle he hstep
      obtain ⟨es', s', hby, hexec, hlast, hothers⟩ :=
        ih hidle₁ (fun e' he' => hes e' (by simp [he'])) hrest
      refine ⟨(k, i, event) :: es', s', ?_, ?_, hlast, fun k' i' hne =>
        (hothers k' i' hne).trans (hothers₁ k' i' hne)⟩
      · intro e' he'
        rcases List.mem_cons.mp he' with rfl | hmem
        · exact ⟨rfl, rfl, he⟩
        · exact hby e' hmem
      · rw [Transition.exec_cons_of_step hs₁, hexec]

/-- **A load that does not begin alone resumes processing for the other one.** The load of a file
that ONNX Runtime accepts begins while another load is between its two calls. Then it can run to
its end, with no other help than that of the inference thread, and processing is not suspended
while the other load still has to replace its session.

**Proof sketch.** The new load is at its first stage, so it can end, and at its end both flags are
down. None of its steps moves the other load. -/
lemma exists_not_guarded {ort : Ort F S File} {s s' : Networks F S File ι} {k : NetworkId} {i : ι}
    {file : File} (haccepts : RuntimeAccepts ort file)
    (hs : s.step ort (k, i, .beginLoad (.external file)) = some s')
    (hnot : ¬ s.BeginsAlone (k, i, .beginLoad (.external file))) :
    ∃ es t, (∀ e ∈ es, e.1 = k ∧ e.2.1 = i ∧ (HostedEvent.own e.2.2).ByLoadOrThread) ∧
      Transition.exec (step ort) s' es = some t ∧ ¬ t.Guarded := by
  obtain ⟨r, hr, rfl, hcalls⟩ := step_eq_some hs
  obtain ⟨k', i', hother⟩ : ∃ k' i', s.replacing k' i' = true := by
    simpa [BeginsAlone] using hnot
  have hidle : s.idle = true := hcalls rfl
  -- the new load has begun, and its thread had none before
  obtain ⟨hfresh, rfl⟩ : (s.network k).loads i = none ∧
      r = (((s.network k).seenBy i).goTo (.external file) .raiseFlag, true) := by
    simp only [Network.step] at hr
    split at hr
    · rename_i hload hcallback
      exact ⟨hload, (Option.some.inj hr).symm⟩
    · cases hr
  have hne : ¬ (k' = k ∧ i' = i) := by
    rintro ⟨rfl, rfl⟩
    simp [replacing, Network.inWindow, SharedNetwork.seenBy, hfresh] at hother
  set s₁ : Networks F S File ι := ⟨Function.update s.network k ((s.network k).put i
    (((s.network k).seenBy i).goTo (.external file) .raiseFlag)), true⟩ with hs₁
  have hidle₁ : s₁.idle = true := by
    cases k <;> simpa [hs₁, idle, SharedNetwork.put, Network.goTo, SharedNetwork.seenBy] using hidle
  have hseen : s₁.hostedBy k i =
      ⟨((s.network k).seenBy i).goTo (.external file) .raiseFlag, true⟩ := by
    simp [hs₁, hostedBy]
  have hloader : (s₁.hostedBy k i).network.loader = some (.external file, .raiseFlag) := by
    rw [hseen]
    rfl
  have hnever : ∀ {q : Prop}, false = true → q := fun h => absurd h Bool.false_ne_true
  have hbegun : LoadRun ort file (s₁.hostedBy k i) :=
    Or.inl ⟨.raiseFlag, hloader, by rw [hseen]; rfl, fun hne => absurd rfl hne, hnever, hnever⟩
  have hcompletable : Completable (s₁.hostedBy k i) := by
    refine ⟨fun source stage h => ?_, fun source stage h hstage => ?_⟩
    · rw [hloader] at h
      cases h
      decide
    · rw [hloader] at h
      cases h
      exact absurd rfl hstage
  obtain ⟨es, h', hes, hexec, hend⟩ := hcompletable.canComplete ort hloader
  have hsteps : ∀ e ∈ es, e.BeginsNoLoad := by
    intro e he
    have hby := hes e he
    cases e with
    | suspendProcessing shouldBeSuspended => exact hby.elim
    | own event =>
      cases event with
      | beginLoad source => exact hby.elim
      | prepare spec => trivial
      | audio event => trivial
      | loadStep => trivial
  have halways : Transition.Always (Hosted.step ort) (LoadRun ort file) (s₁.hostedBy k i) es :=
    Transition.always_of_stepsMeet (fun _ _ _ h hc hs => h.step hc hs) hbegun
      (Transition.stepsMeet_of_forall _ hsteps)
  have hresumed : h'.suspended = false := by
    rcases halways.last hexec with ⟨stage, hprogress⟩ | hended
    · rw [hprogress.loader] at hend
      cases hend
    · rcases hended.flags with ⟨-, hresumed, -⟩ | ⟨hrejects, -⟩
      · exact hresumed
      · exact absurd haccepts hrejects
  obtain ⟨es', t, hby, hexec', hlast, hothers⟩ := exec_of_hostedBy hidle₁ hes hexec
  refine ⟨es', t, hby, hexec', fun hguarded => ?_⟩
  have hin : t.replacing k' i' = true := by
    rw [hothers k' i' hne, hs₁, replacing_put, if_neg hne]
    exact hother
  have hset : (t.hostedBy k i).suspended = true := hguarded k' i' hin
  rw [hlast, hresumed] at hset
  cases hset

end Networks

/-- **When processing stays suspended while a network is being replaced.** If every load of a run
that begins with no load in progress begins while no other one is between its two calls of
`onOnnxModelLoad`, then processing is suspended in every state in which a network is being
replaced. And in any state: if the load of a file that ONNX Runtime accepts begins while another
one is between its two calls, it can run to its end so that processing goes on while the other
network is being replaced.

**Proof sketch.** Each load sets the plugin's flag when it begins and clears it when it has
replaced its session; the flag is a boolean and counts nothing. So a load that is alone takes back
only its own, and one that is not takes back that of the other one as well. -/
theorem suspended_while_replacing {ι : Type} [DecidableEq ι] (ort : Ort F S File)
    (s : Networks F S File ι) :
    ((∀ k i, (s.network k).loads i = none) →
      ∀ es, Transition.StepsMeet (Networks.step ort) Networks.BeginsAlone s es →
        Transition.Always (Networks.step ort) Networks.Guarded s es) ∧
    ∀ k i file s', RuntimeAccepts ort file →
      s.step ort (k, i, .beginLoad (.external file)) = some s' →
      ¬ s.BeginsAlone (k, i, .beginLoad (.external file)) →
      ∃ es t, (∀ e ∈ es, e.1 = k ∧ e.2.1 = i ∧ (HostedEvent.own e.2.2).ByLoadOrThread) ∧
        Transition.exec (Networks.step ort) s' es = some t ∧ ¬ t.Guarded := by
  refine ⟨fun hnone es halone => ?_, fun k i file s' haccepts hs hnot =>
    Networks.exists_not_guarded haccepts hs hnot⟩
  have hstart : s.Sole :=
    ⟨fun k i hin => by
        simp [Networks.replacing, Network.inWindow, SharedNetwork.seenBy, hnone] at hin,
      fun k i _ _ hin => by
        simp [Networks.replacing, Network.inWindow, SharedNetwork.seenBy, hnone] at hin⟩
  exact (Transition.always_of_stepsMeet (fun _ _ _ h hc hs => Networks.Sole.step h hc hs) hstart
    halone).mono fun _ h => h.guarded

/-- Two networks as they are after the plugin was constructed. -/
def Networks.passThrough (F : Type) [FloatSample F] : Networks F Unit Unit LoadingThread :=
  ⟨fun _ => ⟨⟨.passThrough F, none⟩, fun _ => none⟩, false⟩

/-- Whether a load begins alone can be seen from the four loads. -/
instance Networks.BeginsAlone.decidable (s : Networks ExactFloat Unit Unit LoadingThread) :
    ∀ e, Decidable (s.BeginsAlone e)
  | (_, _, .beginLoad _) =>
    decidable_of_iff ((s.replacing .network1 .message = false ∧
        s.replacing .network1 .host = false) ∧
      s.replacing .network2 .message = false ∧ s.replacing .network2 .host = false)
      ⟨fun h k i => by cases k <;> cases i <;> simp [h], fun h => ⟨⟨h _ _, h _ _⟩, h _ _, h _ _⟩⟩
  | (_, _, .loadStep) => .isTrue trivial
  | (_, _, .prepare _) => .isTrue trivial
  | (_, _, .audio _) => .isTrue trivial

/-- A file is loaded into the first network. When its load has resumed processing, the internal
model of the same network is selected; both loads end, and a file is loaded into the second
network. -/
def loadsInTurn : List (NetworkId × LoadingThread × NetworkEvent ExactFloat Unit) :=
  (.network1, .message, .beginLoad (.external ())) ::
      List.replicate 6 (.network1, .message, .loadStep) ++
    (.network1, .host, .beginLoad .internal) ::
      List.replicate 3 (.network1, .message, .loadStep) ++
    List.replicate 9 (.network1, .host, .loadStep) ++
    (.network2, .message, .beginLoad (.external ())) ::
      List.replicate 9 (.network2, .message, .loadStep)

/-- The theorem at work: loads that begin in turn run to their ends, and a load that begins while
another one is in progress resumes processing. -/
theorem suspended_while_replacing_in_turn :
    Transition.Always (Networks.step (Ort.passThrough ExactFloat)) Networks.Guarded
        (.passThrough ExactFloat) loadsInTurn ∧
      (∃ t, Transition.exec (Networks.step (Ort.passThrough ExactFloat)) (.passThrough ExactFloat)
          loadsInTurn = some t ∧ ∀ k i, (t.network k).loads i = none) ∧
      ∃ s', Transition.exec (Networks.step (Ort.passThrough ExactFloat)) (.passThrough ExactFloat)
          [(.network1, .host, .beginLoad .internal),
            (.network2, .message, .beginLoad (.external ()))] = some s' ∧
        ∃ es t, (∀ e ∈ es, e.1 = .network2 ∧ e.2.1 = .message ∧
            (HostedEvent.own e.2.2).ByLoadOrThread) ∧
          Transition.exec (Networks.step (Ort.passThrough ExactFloat)) s' es = some t ∧
            ¬ t.Guarded := by
  refine ⟨(suspended_while_replacing (Ort.passThrough ExactFloat) (.passThrough ExactFloat)).1
    (fun _ _ => rfl) loadsInTurn ?_, ⟨_, rfl, ?_⟩, _, rfl,
    (suspended_while_replacing (Ort.passThrough ExactFloat) ⟨Function.update
      (Networks.passThrough ExactFloat).network .network1
      ⟨⟨.passThrough ExactFloat, none⟩, Function.update (fun _ => none) .host
        (some (.internal, .raiseFlag))⟩, true⟩).2 .network2 .message () _ ⟨(), _, rfl, rfl⟩ rfl ?_⟩
  · decide
  · intro k i
    cases k <;> cases i <;> rfl
  · intro h
    have halone := h .network1 .host
    cases halone

/-- The internal model of the first network is selected, a file is loaded into the second one,
and the first load ends: processing goes on while the second network is being replaced. -/
theorem first_load_resumes_processing :
    ∃ t, Transition.exec (Networks.step (Ort.passThrough ExactFloat)) (.passThrough ExactFloat)
        ([(.network1, .host, .beginLoad .internal),
            (.network2, .message, .beginLoad (.external ()))] ++
          List.replicate 6 (.network1, .host, .loadStep)) = some t ∧
      t.replacing .network2 .message = true ∧ t.suspended = false ∧ ¬ t.Guarded := by
  refine ⟨_, rfl, rfl, rfl, fun h => ?_⟩
  have hset := h .network2 .message rfl
  cases hset
