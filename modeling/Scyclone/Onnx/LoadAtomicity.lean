import Scyclone.Onnx.Network

set_option relaxedAutoImplicit false
set_option autoImplicit false

/-!
# What a load leaves behind

Loading a file suspends processing and raises a flag before it constructs the new session, and
takes both back at its end. The constructor and the call that reads the shape of the input may
throw, and nothing catches the exception on its way out of the load.

## Main definitions

* `LoadAtomic` — what a load should leave behind when it ends.
* `RuntimeAccepts` — neither call of ONNX Runtime throws.

## Main results

* `LoadRun.step` — the flags at every stage of a load, whatever happens in between.
* `external_load_atomic_iff` — a load of a file that ends leaves the network usable exactly if
  neither call of ONNX Runtime threw.
* `failed_load_untouched` — a failed constructor leaves the processor untouched.
-/

variable {F S File : Type} [FloatSample F]

/-- Stages that come after the session has been constructed. -/
def LoadStage.hasSession : LoadStage → Bool
  | .raiseFlag => false
  | .checkThread => false
  | .stopThread => false
  | .wait => false
  | .construct => false
  | _ => true

/-- Stages that come after the shape of the input has been read. -/
def LoadStage.hasShape : LoadStage → Bool
  | .resume => true
  | .resetRing => true
  | .resetCounter => true
  | .lowerFlag => true
  | _ => false

/-- Neither call of ONNX Runtime that loading the file makes throws. -/
def RuntimeAccepts (ort : Ort F S File) (file : File) : Prop :=
  ∃ session dims, ort.sessionFromFile file = .ok session ∧ ort.inputShape session = .ok dims

/-- The session, both rings, `init`, `initSamples` and the counter are the same in two states of
a processor. -/
structure Untouched (p q : OnnxProcessor F S) : Prop where
  session : q.inferenceThread.session = p.inferenceThread.session
  inputRing : q.inferenceThread.receiveRingBuffer = p.inferenceThread.receiveRingBuffer
  outputRing : q.receiveRingBuffer = p.receiveRingBuffer
  init : q.inferenceThread.init = p.inferenceThread.init
  initSamples : q.inferenceThread.initSamples = p.inferenceThread.initSamples
  inferenceCounter : q.inferenceCounter = p.inferenceCounter

/-- What loading a file should leave behind when it ends, from state `s` to state `t`: processing
is not suspended and the flag is lowered; and if the session could not be constructed, the
processor is untouched. -/
structure LoadAtomic (ort : Ort F S File) (file : File) (s t : Hosted F S File) : Prop where
  resumed : t.suspended = false
  lowered : t.inference.loadingModel = false
  untouched : (∃ e, ort.sessionFromFile file = .error e) →
    Untouched s.network.live.proc t.network.live.proc

/-- A load of the file that is about to take `stage`. -/
structure LoadProgress (ort : Ort F S File) (file : File) (s : Hosted F S File)
    (stage : LoadStage) : Prop where
  loader : s.network.loader = some (.external file, stage)
  suspended : s.suspended = stage.suspends
  flagged : stage ≠ .raiseFlag → s.inference.loadingModel = true
  session : stage.hasSession = true →
    ∃ session, ort.sessionFromFile file = .ok session ∧ s.inference.session = some session
  accepted : stage.hasShape = true → RuntimeAccepts ort file

/-- A load of the file that has ended: both flags are down if ONNX Runtime accepted the file, and
up if it did not. -/
structure LoadEnded (ort : Ort F S File) (file : File) (s : Hosted F S File) : Prop where
  loader : s.network.loader = none
  flags : (RuntimeAccepts ort file ∧ s.suspended = false ∧ s.inference.loadingModel = false) ∨
    (¬ RuntimeAccepts ort file ∧ s.suspended = true ∧ s.inference.loadingModel = true)

/-- **A stage of the load leads to the next one or ends the load.**

**Proof sketch.** By the stage. The flags change at `raiseFlag`, `resume` and `lowerFlag` only; the
load ends early at the two stages that call the runtime, if it throws there, and with both flags
still set. -/
lemma LoadProgress.loadStep {ort : Ort F S File} {file : File} {s : Hosted F S File}
    {stage : LoadStage} (h : LoadProgress ort file s stage) :
    (∃ next, LoadProgress ort file
      ⟨(s.network.loadStep ort s.suspended (.external file) stage).1,
        (s.network.loadStep ort s.suspended (.external file) stage).2⟩ next) ∨
    LoadEnded ort file
      ⟨(s.network.loadStep ort s.suspended (.external file) stage).1,
        (s.network.loadStep ort s.suspended (.external file) stage).2⟩ := by
  have hsuspended := h.suspended
  have hnone : ∀ {q : Prop}, false = true → q := fun h => absurd h Bool.false_ne_true
  cases stage with
  | raiseFlag => exact Or.inl ⟨.checkThread, rfl, hsuspended, fun _ => rfl, hnone, hnone⟩
  | checkThread =>
    have hflag := h.flagged (by decide)
    cases ht : s.network.inference.thread.isThreadRunning with
    | true =>
      simp only [Network.loadStep, ht, if_true]
      exact Or.inl ⟨.stopThread, rfl, hsuspended, fun _ => hflag, hnone, hnone⟩
    | false =>
      simp only [Network.loadStep, ht, Bool.false_eq_true, if_false]
      exact Or.inl ⟨.construct, rfl, hsuspended, fun _ => hflag, hnone, hnone⟩
  | stopThread =>
    exact Or.inl ⟨.wait, rfl, hsuspended, fun _ => h.flagged (by decide), hnone, hnone⟩
  | wait =>
    have hflag := h.flagged (by decide)
    cases ht : s.network.inference.thread.isThreadRunning with
    | true =>
      simp only [Network.loadStep, ht, Bool.not_true, Bool.false_eq_true, if_false]
      exact Or.inl ⟨.construct, rfl, hsuspended, fun _ => hflag, hnone, hnone⟩
    | false =>
      simp only [Network.loadStep, ht, Bool.not_false, if_true]
      exact Or.inl ⟨.wait, h.loader, hsuspended, fun _ => hflag, hnone, hnone⟩
  | construct =>
    have hflag := h.flagged (by decide)
    cases hs : ort.sessionFromFile file with
    | ok session =>
      simp only [Network.loadStep, ModelSource.session, hs]
      exact Or.inl ⟨.prepare, rfl, hsuspended, fun _ => hflag, fun _ => ⟨session, hs, rfl⟩, hnone⟩
    | error e =>
      simp only [Network.loadStep, ModelSource.session, hs]
      refine Or.inr ⟨rfl, Or.inr ⟨?_, hsuspended, hflag⟩⟩
      rintro ⟨session, dims, hok, -⟩
      rw [hs] at hok
      cases hok
  | prepare =>
    obtain ⟨session, hok, hsession⟩ := h.session rfl
    exact Or.inl ⟨.inputShape, rfl, hsuspended, fun _ => h.flagged (by decide),
      fun _ => ⟨session, hok, hsession⟩, hnone⟩
  | inputShape =>
    have hflag := h.flagged (by decide)
    obtain ⟨session, hok, hsession⟩ := h.session rfl
    have hsession' : s.network.inference.session = some session := hsession
    cases hshape : ort.inputShape session with
    | ok dims =>
      simp only [Network.loadStep, hsession', Option.map_some, hshape]
      exact Or.inl ⟨.resume, rfl, hsuspended, fun _ => hflag,
        fun _ => ⟨session, hok, hsession⟩, fun _ => ⟨session, dims, hok, hshape⟩⟩
    | error e =>
      simp only [Network.loadStep, hsession', Option.map_some, hshape]
      refine Or.inr ⟨rfl, Or.inr ⟨?_, hsuspended, hflag⟩⟩
      rintro ⟨session', dims, hok', hshape'⟩
      rw [hok, Except.ok.injEq] at hok'
      rw [← hok', hshape] at hshape'
      cases hshape'
  | resume =>
    exact Or.inl ⟨.resetRing, rfl, rfl, fun _ => h.flagged (by decide), h.session, h.accepted⟩
  | resetRing =>
    exact Or.inl ⟨.resetCounter, rfl, hsuspended, fun _ => h.flagged (by decide), h.session,
      h.accepted⟩
  | resetCounter =>
    exact Or.inl ⟨.lowerFlag, rfl, hsuspended, fun _ => h.flagged (by decide), h.session,
      h.accepted⟩
  | lowerFlag => exact Or.inr ⟨rfl, Or.inl ⟨h.accepted rfl, hsuspended, rfl⟩⟩

/-- Where the load of the file is, in a run in which no other load is begun. -/
def LoadRun (ort : Ort F S File) (file : File) (s : Hosted F S File) : Prop :=
  (∃ stage, LoadProgress ort file s stage) ∨ LoadEnded ort file s

/-- The steps of the network itself that begin no load. -/
def HostedEvent.BeginsNoLoad : HostedEvent F File → Prop
  | .own (.beginLoad _) => False
  | .own (.prepare _) => True
  | .own (.audio _) => True
  | .own .loadStep => True
  | .suspendProcessing _ => False

/-- **Every step of the network goes along with the load.**

**Proof sketch.** A stage of the load has its own lemma. Any other step of the network leaves the
place of the load and the flags alone, and once the load has ended only the beginning of another one
would change them. -/
lemma LoadRun.step {ort : Ort F S File} {file : File} {s s' : Hosted F S File}
    (h : LoadRun ort file s) {e : HostedEvent F File} (he : e.BeginsNoLoad)
    (hs : s.step ort e = some s') : LoadRun ort file s' := by
  rcases h with ⟨stage, h⟩ | h
  · by_cases hload : e = .own .loadStep
    · rw [hload, Hosted.step_loadStep ort h.loader, Option.some.injEq] at hs
      rw [← hs]
      exact h.loadStep
    · cases e with
      | suspendProcessing shouldBeSuspended => exact he.elim
      | own event =>
        simp only [Hosted.step, Option.map_eq_some_iff] at hs
        obtain ⟨r, hr, rfl⟩ := hs
        obtain ⟨hloader, hflag, -, hsession, hsuspended⟩ :=
          Network.step_other h.loader hr fun heq => hload (by rw [heq])
        refine Or.inl ⟨stage, hloader, hsuspended.trans h.suspended,
          fun hne => hflag.trans (h.flagged hne), fun hs => ?_, h.accepted⟩
        obtain ⟨session, hok, hsome⟩ := h.session hs
        exact ⟨session, hok, hsession.trans hsome⟩
  · cases e with
    | suspendProcessing shouldBeSuspended => exact he.elim
    | own event =>
      simp only [Hosted.step, Option.map_eq_some_iff] at hs
      obtain ⟨r, hr, rfl⟩ := hs
      rcases Network.step_of_no_loader h.loader hr with ⟨source, rfl, -⟩ | ⟨hnone, hsus, hflag⟩
      · exact he.elim
      · refine Or.inr ⟨hnone, ?_⟩
        simp only [Hosted.inference] at hflag ⊢
        rw [hsus]
        have hflags := h.flags
        simp only [Hosted.inference] at hflags
        rwa [← hflag] at hflags

/-- **When loading a file leaves the network usable.** The load is begun in any state with no load
in progress; callbacks, the inference thread and `prepare` may come between its stages. If its
last stage ends it, it has left behind what it should exactly if neither call of ONNX Runtime
threw.

**Proof sketch.** There is no handler around the constructor of the session, nor around the call
that reads the shape of its input. An exception in either leaves the call after processing has
been suspended and the flag raised, and before either is taken back. -/
theorem external_load_atomic_iff {ort : Ort F S File} {file : File} {s u t : Hosted F S File}
    (hidle : s.network.loader = none) {body : List (NetworkEvent F File)}
    (hbody : ∀ e ∈ body, (HostedEvent.own e).BeginsNoLoad)
    (hrun : Transition.exec (Hosted.step ort) s
      ((.beginLoad (.external file) :: body).map .own) = some u)
    (hlast : u.step ort (.own .loadStep) = some t) (hend : t.network.loader = none) :
    LoadAtomic ort file s t ↔ RuntimeAccepts ort file := by
  obtain ⟨s', hbegin, hexec⟩ := Transition.exec_cons_eq_some.mp hrun
  have hstart : LoadRun ort file s' := by
    have hnever : ∀ {q : Prop}, false = true → q := fun h => absurd h Bool.false_ne_true
    cases hc : s.network.live.callback with
    | none =>
      simp only [Hosted.step, Network.step, hidle, hc, Option.map_some,
        Option.some.injEq] at hbegin
      rw [← hbegin]
      exact Or.inl ⟨.raiseFlag, rfl, rfl, fun hne => absurd rfl hne, hnever, hnever⟩
    | some b => simp [Hosted.step, Network.step, hidle, hc] at hbegin
  have hsteps : ∀ e ∈ body.map HostedEvent.own, HostedEvent.BeginsNoLoad e := by
    intro e he
    obtain ⟨event, hevent, rfl⟩ := List.mem_map.mp he
    exact hbody event hevent
  have halways : Transition.Always (Hosted.step ort) (LoadRun ort file) s'
      (body.map HostedEvent.own) :=
    Transition.always_of_stepsMeet (fun _ _ _ h hc hs => h.step hc hs) hstart
      (Transition.stepsMeet_of_forall _ hsteps)
  have hended : LoadEnded ort file t := by
    rcases (halways.last hexec).step (e := .own .loadStep) trivial hlast with ⟨stage, h⟩ | h
    · rw [h.loader] at hend
      cases hend
    · exact h
  rcases hended.flags with ⟨haccepts, hresumed, hlowered⟩ | ⟨hrejects, hsuspended, -⟩
  · refine ⟨fun _ => haccepts, fun _ => ⟨hresumed, hlowered, ?_⟩⟩
    rintro ⟨e, he⟩
    obtain ⟨session, dims, hok, -⟩ := haccepts
    rw [he] at hok
    cases hok
  · refine ⟨fun h => ?_, fun haccepts => absurd haccepts hrejects⟩
    have hresumed := h.resumed
    rw [hsuspended] at hresumed
    cases hresumed

/-- A stage up to the constructor of the session, which throws, leaves the processor untouched.

**Proof sketch.** By the stage: those before `construct` change the flags and the thread, and
`construct` itself throws. -/
lemma Network.loadStep_untouched {ort : Ort F S File} {file : File} {e : OrtException}
    (herror : ort.sessionFromFile file = .error e) (suspended : Bool) {n : Network F S File}
    {stage : LoadStage} (hload : n.loader = some (.external file, stage))
    (hstage : stage.hasSession = false) :
    Untouched n.live.proc (n.loadStep ort suspended (.external file) stage).1.live.proc ∧
      ((n.loadStep ort suspended (.external file) stage).1.loader = none ∨
        ∃ next, (n.loadStep ort suspended (.external file) stage).1.loader =
          some (.external file, next) ∧ next.hasSession = false) := by
  have hsame : Untouched n.live.proc n.live.proc := ⟨rfl, rfl, rfl, rfl, rfl, rfl⟩
  cases stage with
  | raiseFlag => exact ⟨⟨rfl, rfl, rfl, rfl, rfl, rfl⟩, Or.inr ⟨.checkThread, rfl, rfl⟩⟩
  | checkThread =>
    simp only [loadStep]
    split_ifs
    · exact ⟨hsame, Or.inr ⟨.stopThread, rfl, rfl⟩⟩
    · exact ⟨hsame, Or.inr ⟨.construct, rfl, rfl⟩⟩
  | stopThread => exact ⟨⟨rfl, rfl, rfl, rfl, rfl, rfl⟩, Or.inr ⟨.wait, rfl, rfl⟩⟩
  | wait =>
    simp only [loadStep]
    split_ifs
    · exact ⟨hsame, Or.inr ⟨.wait, hload, rfl⟩⟩
    · exact ⟨hsame, Or.inr ⟨.construct, rfl, rfl⟩⟩
  | construct =>
    simp only [loadStep, ModelSource.session, herror]
    exact ⟨hsame, Or.inl rfl⟩
  | prepare => cases hstage
  | inputShape => cases hstage
  | resume => cases hstage
  | resetRing => cases hstage
  | resetCounter => cases hstage
  | lowerFlag => cases hstage

/-- **A failed constructor leaves the processor untouched**: whatever stages the load of the file
takes, they change no more than the flags and the thread.

**Proof sketch.** Induction on the number of stages; after the one that throws no other can be
taken. -/
theorem failed_load_untouched {ort : Ort F S File} {file : File} {e : OrtException}
    (herror : ort.sessionFromFile file = .error e) {s t : Hosted F S File} {stage : LoadStage}
    (hload : s.network.loader = some (.external file, stage)) (hstage : stage.hasSession = false)
    {k : ℕ} (hrun : Transition.exec (Hosted.step ort) s
      (List.replicate k (.own .loadStep)) = some t) :
    Untouched s.network.live.proc t.network.live.proc := by
  induction k generalizing s stage with
  | zero =>
    obtain rfl := Option.some.inj hrun
    exact ⟨rfl, rfl, rfl, rfl, rfl, rfl⟩
  | succ k ih =>
    obtain ⟨huntouched, hnext⟩ :=
      Network.loadStep_untouched herror s.suspended hload hstage
    rw [List.replicate_succ, Transition.exec_cons_of_step (Hosted.step_loadStep ort hload)] at hrun
    rcases hnext with hnone | ⟨next, hload', hstage'⟩
    · -- the call is over, so no further stage was taken
      cases k with
      | zero =>
        obtain rfl := Option.some.inj hrun
        exact huntouched
      | succ k =>
        rw [List.replicate_succ] at hrun
        simp [Transition.exec, Hosted.step, Network.step, hnone] at hrun
    · have hrest := ih hload' hstage' hrun
      exact ⟨hrest.session.trans huntouched.session,
        hrest.inputRing.trans huntouched.inputRing,
        hrest.outputRing.trans huntouched.outputRing, hrest.init.trans huntouched.init,
        hrest.initSamples.trans huntouched.initSamples,
        hrest.inferenceCounter.trans huntouched.inferenceCounter⟩

/-- The theorem at work: a file is loaded with nothing in between. -/
theorem external_load_atomic_accepted :
    ∃ t : Hosted ExactFloat Unit Unit, LoadAtomic (Ort.passThrough ExactFloat) ()
      ⟨⟨⟨.passThrough ExactFloat, none⟩, none⟩, false⟩ t := by
  have hbody : ∀ e ∈ List.replicate 8 (.loadStep : NetworkEvent ExactFloat Unit),
      (HostedEvent.own e).BeginsNoLoad := by
    intro e he
    rw [List.eq_of_mem_replicate he]
    trivial
  exact ⟨_, (external_load_atomic_iff rfl hbody rfl rfl rfl).mpr ⟨(), _, rfl, rfl⟩⟩

/-- A file that is not a valid model: the session cannot be constructed, and the load is left with
processing suspended and the flag raised. -/
theorem invalid_file_suspends_processing :
    ∃ t, Transition.exec (Hosted.step (Ort.noFiles ExactFloat))
        ⟨⟨⟨.passThrough ExactFloat, none⟩, none⟩, false⟩
        [.own (.beginLoad (.external ())), .own .loadStep, .own .loadStep, .own .loadStep] =
          some t ∧
      t.network.loader = none ∧ t.suspended = true ∧ t.inference.loadingModel = true ∧
      ¬ LoadAtomic (Ort.noFiles ExactFloat) ()
        ⟨⟨⟨.passThrough ExactFloat, none⟩, none⟩, false⟩ t := by
  refine ⟨_, rfl, rfl, rfl, rfl, fun h => ?_⟩
  have hresumed := h.resumed
  cases hresumed
