import Scyclone.Onnx.Latency
import Scyclone.Plugin.BlockPartition

set_option relaxedAutoImplicit false
set_option autoImplicit false

/-!
# The plugin with its inference threads

`processBlock` calls `sendAudio` and `processOutput` of one network and then of the other, while
the two inference threads deliver and end whenever they do. A run of the plugin is any order of
the pieces of its callbacks, cut at these calls, and of the steps of the threads; parameter
changes can come at any point too.

Either network sees of such a run a run of its own.

## Main definitions

* `AudioPluginAudioProcessor.filterNetworks`, `sendAudio`, `processOutput`, `analyseLevels` — the
  pieces of `runNetworks`.
* `PluginRun`, `PluginEvent`, `PluginRun.step` — the plugin in a run, and its steps.
* `PluginRun.observed` — what a network sees.

## Main results

* `AudioPluginAudioProcessor.runNetworks_eq` — the pieces make `runNetworks`.
* `exec_callback` — a callback that nothing comes in between is `processBlock`.
* `PluginRun.observed_step` — a step of the plugin is a step of a network, or leaves it alone.
-/

variable {F S File E : Type} [FloatArithmetic F]

/-! ## The pieces of a callback -/

namespace AudioPluginAudioProcessor

/-- The `OnnxProcessor` of a network. -/
def onnxProcessor (p : AudioPluginAudioProcessor F S E) : NetworkId → OnnxProcessor F S
  | .network1 => p.onnxProcessor1
  | .network2 => p.onnxProcessor2

/-- The plugin with another `OnnxProcessor` for a network. -/
def setOnnxProcessor (p : AudioPluginAudioProcessor F S E) (onnxProcessor : OnnxProcessor F S) :
    NetworkId → AudioPluginAudioProcessor F S E
  | .network1 => { p with onnxProcessor1 := onnxProcessor }
  | .network2 => { p with onnxProcessor2 := onnxProcessor }

/-- The transient splitters, the filters and the visualiser. -/
def filterNetworks (fx : Effects F E) (p : AudioPluginAudioProcessor F S E) :
    AudioPluginAudioProcessor F S E :=
  let split1 := fx.transientSplitter .network1 p.effects p.network1Buffer
  let network1Buffer := p.network1Buffer.withData split1.2
  let split2 := fx.transientSplitter .network2 split1.1 p.network2Buffer
  let network2Buffer := p.network2Buffer.withData split2.2
  let filter1 := fx.iirCutoffFilter .network1 split2.1 network1Buffer
  let network1Buffer := network1Buffer.withData filter1.2
  let filter2 := fx.iirCutoffFilter .network2 filter1.1 network2Buffer
  let network2Buffer := network2Buffer.withData filter2.2
  { p with
    network1Buffer, network2Buffer
    effects := fx.audioVisualiser filter2.1 network1Buffer network2Buffer }

/-- The first half of a network's `processBlock`. -/
def sendAudio (p : AudioPluginAudioProcessor F S E) (k : NetworkId) :
    AudioPluginAudioProcessor F S E :=
  p.setOnnxProcessor ((p.onnxProcessor k).sendAudio (p.networkBuffer k)) k

/-- The second half. -/
def processOutput (p : AudioPluginAudioProcessor F S E) :
    NetworkId → AudioPluginAudioProcessor F S E
  | .network1 =>
    let onnx1 := p.onnxProcessor1.processOutput p.network1Buffer p.network1Buffer.numSamples
    { p with onnxProcessor1 := onnx1.1, network1Buffer := onnx1.2 }
  | .network2 =>
    let onnx2 := p.onnxProcessor2.processOutput p.network2Buffer p.network2Buffer.numSamples
    { p with onnxProcessor2 := onnx2.1, network2Buffer := onnx2.2 }

/-- The level analysers. -/
def analyseLevels (fx : Effects F E) (p : AudioPluginAudioProcessor F S E) :
    AudioPluginAudioProcessor F S E :=
  let effects := fx.levelAnalyser .network1 p.effects p.network1Buffer
  { p with effects := fx.levelAnalyser .network2 effects p.network2Buffer }

/-- The pieces, one after the other. -/
lemma runNetworks_eq (fx : Effects F E) (p : AudioPluginAudioProcessor F S E) :
    p.runNetworks fx =
      (((((p.filterNetworks fx).sendAudio .network1).processOutput .network1).sendAudio
        .network2).processOutput .network2).analyseLevels fx := by
  unfold runNetworks
  rfl

/-- What follows the second network's `processOutput`, without the bookkeeping of accesses. -/
def finish (fx : Effects F E) (onOff : NetworkId → Bool) (buffer : AudioBuffer F)
    (p : AudioPluginAudioProcessor F S E) : AudioPluginAudioProcessor F S E × AudioBuffer F :=
  ((((p.analyseLevels fx).runGrainDelays fx).mixNetworks fx onOff).writeHost fx buffer).value

omit [FloatArithmetic F] in
@[simp] lemma onnxProcessor_setOnnxProcessor_self (p : AudioPluginAudioProcessor F S E)
    (onnxProcessor : OnnxProcessor F S) (k : NetworkId) :
    (p.setOnnxProcessor onnxProcessor k).onnxProcessor k = onnxProcessor := by
  cases k <;> rfl

omit [FloatArithmetic F] in
@[simp] lemma onnxProcessor_setOnnxProcessor_of_ne {p : AudioPluginAudioProcessor F S E}
    {onnxProcessor : OnnxProcessor F S} {k j : NetworkId} (h : j ≠ k) :
    (p.setOnnxProcessor onnxProcessor k).onnxProcessor j = p.onnxProcessor j := by
  cases k <;> cases j <;> first | rfl | exact absurd rfl h

omit [FloatArithmetic F] in
@[simp] lemma networkBuffer_setOnnxProcessor (p : AudioPluginAudioProcessor F S E)
    (onnxProcessor : OnnxProcessor F S) (k j : NetworkId) :
    (p.setOnnxProcessor onnxProcessor k).networkBuffer j = p.networkBuffer j := by
  cases k <;> cases j <;> rfl

@[simp] lemma onnxProcessor_finish (fx : Effects F E) (onOff : NetworkId → Bool)
    (buffer : AudioBuffer F) (p : AudioPluginAudioProcessor F S E) (k : NetworkId) :
    (p.finish fx onOff buffer).1.onnxProcessor k = p.onnxProcessor k := by
  cases k <;> rfl

end AudioPluginAudioProcessor

/-! ## Steps -/

/-- Where a callback is. -/
inductive Stage
  /-- `sendAudio` of the network has returned and `processOutput` has not been called. -/
  | sent (network : NetworkId)
  /-- `processOutput` of the first network has returned, the second one has not been called. -/
  | between
  deriving DecidableEq, Repr

/-- What can happen to the plugin between two calls of `prepareToPlay`, outside model loads. -/
inductive PluginEvent (F E : Type)
  /-- A callback begins, up to `sendAudio` of the first network. -/
  | beginBlock (buffer : AudioBuffer F)
  /-- `processOutput` of the first network. -/
  | output1
  /-- `sendAudio` of the second network. -/
  | send2
  /-- `processOutput` of the second network, and the rest of the callback, which reads the `ON_OFF`
  parameters. -/
  | endBlock (onOff : NetworkId → Bool)
  /-- The inference thread of a network delivers its block. -/
  | deliver (network : NetworkId)
  /-- The inference thread of a network ends. -/
  | threadEnd (network : NetworkId)
  /-- The gain parameters are set. -/
  | setGains (inputGain outputGain : F)
  /-- Other parameters change the processors of the chain. -/
  | setEffects (effects : E)

/-- The plugin in a run, with what has been seen of it. -/
structure PluginRun (F S E : Type) where
  plugin : AudioPluginAudioProcessor F S E
  /-- The callback in progress, with the host's block. -/
  callback : Option (Stage × AudioBuffer F)
  /-- What has been seen of each network. -/
  history : NetworkId → History F
  /-- The host's blocks so far. -/
  inputs : List (AudioBuffer F)
  /-- The blocks given back to the host. -/
  outputs : List (AudioBuffer F)

namespace PluginRun

/-- The buffer a network is to put its output into. -/
def pending (r : PluginRun F S E) (k : NetworkId) : Option (AudioBuffer F) :=
  match r.callback with
  | some (.sent j, _) => if j = k then some (r.plugin.networkBuffer k) else none
  | _ => none

/-- A network in the run. -/
def live (r : PluginRun F S E) (k : NetworkId) : Live F S :=
  ⟨r.plugin.onnxProcessor k, r.pending k⟩

/-- What a network sees of the run. -/
def observed (r : PluginRun F S E) (k : NetworkId) : Observed F S := ⟨r.live k, r.history k⟩

/-- The start of a run: `prepareToPlay` has just returned. -/
def start (fx : Effects F E) (p : AudioPluginAudioProcessor F S E) (totalNumInputChannels : ℕ)
    (sampleRate : ℚ) (samplesPerBlock : ℕ) : PluginRun F S E where
  plugin := p.prepareToPlay fx totalNumInputChannels sampleRate samplesPerBlock
  callback := none
  history _ := {}
  inputs := []
  outputs := []

/-- What an event is for the network that takes part in it. -/
def audioEvent (fx : Effects F E) (r : PluginRun F S E) :
    PluginEvent F E → Option (NetworkId × AudioEvent F)
  | .beginBlock buffer =>
    some (.network1, .sendAudio
      (((r.plugin.feedNetworks fx buffer).value.filterNetworks fx).networkBuffer .network1))
  | .output1 => some (.network1, .processOutput)
  | .send2 => some (.network2, .sendAudio (r.plugin.networkBuffer .network2))
  | .endBlock _ => some (.network2, .processOutput)
  | .deliver k => some (k, .deliver)
  | .threadEnd k => some (k, .threadEnd)
  | .setGains _ _ => none
  | .setEffects _ => none

/-- What an event does to the plugin, and where the callback is afterwards. -/
def advance (fx : Effects F E) (ort : Ort F S File) (r : PluginRun F S E) :
    PluginEvent F E → Option (PluginRun F S E)
  | .beginBlock buffer =>
    match r.callback with
    | none =>
      some { r with
        plugin :=
          ((r.plugin.feedNetworks fx buffer).value.filterNetworks fx).sendAudio .network1
        callback := some (.sent .network1, buffer)
        inputs := r.inputs ++ [buffer] }
    | some _ => none
  | .output1 =>
    match r.callback with
    | some (.sent .network1, buffer) =>
      some { r with
        plugin := r.plugin.processOutput .network1
        callback := some (.between, buffer) }
    | _ => none
  | .send2 =>
    match r.callback with
    | some (.between, buffer) =>
      some { r with
        plugin := r.plugin.sendAudio .network2
        callback := some (.sent .network2, buffer) }
    | _ => none
  | .endBlock onOff =>
    match r.callback with
    | some (.sent .network2, buffer) =>
      let result := (r.plugin.processOutput .network2).finish fx onOff buffer
      some { r with
        plugin := result.1
        callback := none
        outputs := r.outputs ++ [result.2] }
    | _ => none
  | .deliver k =>
    if (r.plugin.onnxProcessor k).inferenceThread.thread = .running then
      some { r with
        plugin := r.plugin.setOnnxProcessor ((r.plugin.onnxProcessor k).deliver ort) k }
    else none
  | .threadEnd k =>
    if (r.plugin.onnxProcessor k).inferenceThread.thread = .delivered then
      some { r with plugin := r.plugin.setOnnxProcessor (r.plugin.onnxProcessor k).endThread k }
    else none
  | .setGains inputGain outputGain =>
    some { r with
      plugin := { r.plugin with
        inputGain := { r.plugin.inputGain with currentGain := inputGain }
        outputGain := { r.plugin.outputGain with currentGain := outputGain } } }
  | .setEffects effects => some { r with plugin := { r.plugin with effects } }

/-- The histories after an event that leads from `r` to `r'`. -/
def record (fx : Effects F E) (r r' : PluginRun F S E) (e : PluginEvent F E) (k : NetworkId) :
    History F :=
  match r.audioEvent fx e with
  | some (j, event) => if j = k then (r.history k).record (r.live k) (r'.live k) event
    else r.history k
  | none => r.history k

/-- One step, recorded. -/
def step (fx : Effects F E) (ort : Ort F S File) (r : PluginRun F S E) (e : PluginEvent F E) :
    Option (PluginRun F S E) :=
  (r.advance fx ort e).map fun r' => { r' with history := r.record fx r' e }

/-- A step is what the event does to the plugin, recorded. -/
lemma step_eq_some {fx : Effects F E} {ort : Ort F S File} {r r' : PluginRun F S E}
    {e : PluginEvent F E} (h : r.step fx ort e = some r') :
    ∃ q, r.advance fx ort e = some q ∧ r' = { q with history := r.record fx q e } := by
  rw [step, Option.map_eq_some_iff] at h
  obtain ⟨q, hq, rfl⟩ := h
  exact ⟨q, hq, rfl⟩

/-! ## What a step can do -/

section Inversion

variable {fx : Effects F E} {ort : Ort F S File} {r q : PluginRun F S E}

/-- The beginning of a callback. -/
lemma advance_beginBlock {buffer : AudioBuffer F}
    (h : r.advance fx ort (.beginBlock buffer) = some q) :
    r.callback = none ∧
      q = { r with
        plugin :=
          ((r.plugin.feedNetworks fx buffer).value.filterNetworks fx).sendAudio .network1
        callback := some (.sent .network1, buffer)
        inputs := r.inputs ++ [buffer] } := by
  cases hc : r.callback with
  | some c => simp [advance, hc] at h
  | none =>
    simp only [advance, hc, Option.some.injEq] at h
    exact ⟨rfl, h.symm⟩

/-- The output of the first network. -/
lemma advance_output1 (h : r.advance fx ort .output1 = some q) :
    ∃ buffer, r.callback = some (.sent .network1, buffer) ∧
      q = { r with
        plugin := r.plugin.processOutput .network1
        callback := some (.between, buffer) } := by
  simp only [advance] at h
  split at h
  · rename_i buffer hc
    exact ⟨buffer, hc, (Option.some.inj h).symm⟩
  · cases h

/-- The input of the second network. -/
lemma advance_send2 (h : r.advance fx ort .send2 = some q) :
    ∃ buffer, r.callback = some (.between, buffer) ∧
      q = { r with
        plugin := r.plugin.sendAudio .network2
        callback := some (.sent .network2, buffer) } := by
  simp only [advance] at h
  split at h
  · rename_i buffer hc
    exact ⟨buffer, hc, (Option.some.inj h).symm⟩
  · cases h

/-- The end of a callback. -/
lemma advance_endBlock {onOff : NetworkId → Bool}
    (h : r.advance fx ort (.endBlock onOff) = some q) :
    ∃ buffer, r.callback = some (.sent .network2, buffer) ∧
      q = { r with
        plugin := ((r.plugin.processOutput .network2).finish fx onOff buffer).1
        callback := none
        outputs :=
          r.outputs ++ [((r.plugin.processOutput .network2).finish fx onOff buffer).2] } := by
  simp only [advance] at h
  split at h
  · rename_i buffer hc
    exact ⟨buffer, hc, (Option.some.inj h).symm⟩
  · cases h

/-- A delivery. -/
lemma advance_deliver {k : NetworkId} (h : r.advance fx ort (.deliver k) = some q) :
    (r.plugin.onnxProcessor k).inferenceThread.thread = .running ∧
      q = { r with
        plugin := r.plugin.setOnnxProcessor ((r.plugin.onnxProcessor k).deliver ort) k } := by
  simp only [advance, Option.ite_none_right_eq_some, Option.some.injEq] at h
  exact ⟨h.1, h.2.symm⟩

/-- The end of a thread. -/
lemma advance_threadEnd {k : NetworkId} (h : r.advance fx ort (.threadEnd k) = some q) :
    (r.plugin.onnxProcessor k).inferenceThread.thread = .delivered ∧
      q = { r with
        plugin := r.plugin.setOnnxProcessor (r.plugin.onnxProcessor k).endThread k } := by
  simp only [advance, Option.ite_none_right_eq_some, Option.some.injEq] at h
  exact ⟨h.1, h.2.symm⟩

end Inversion

/-! ## What a network sees -/

/-- A step of the plugin is a step of the network that takes part in it, and leaves the other
network alone.

**Proof sketch.** By the event. What the first network has pending is its buffer between its
`sendAudio` and its `processOutput`, and nothing in a callback but these two touches an
`OnnxProcessor`. -/
lemma live_advance {fx : Effects F E} {ort : Ort F S File} {r q : PluginRun F S E}
    {e : PluginEvent F E} (h : r.advance fx ort e = some q) :
    match r.audioEvent fx e with
    | some (k, event) =>
      (r.live k).step ort event = some (q.live k) ∧ ∀ j, j ≠ k → q.live j = r.live j
    | none => ∀ k, q.live k = r.live k := by
  cases e with
  | beginBlock buffer =>
    obtain ⟨hc, rfl⟩ := advance_beginBlock h
    refine ⟨?_, fun j hj => ?_⟩
    · simp only [live, pending, Live.step, hc]
      exact rfl
    · cases j with
      | network1 => exact absurd rfl hj
      | network2 =>
        simp only [live, pending, hc, reduceCtorEq, if_false]
        exact rfl
  | output1 =>
    obtain ⟨buffer, hc, rfl⟩ := advance_output1 h
    refine ⟨?_, fun j hj => ?_⟩
    · simp only [live, pending, Live.step, hc, if_true]
      exact rfl
    · cases j with
      | network1 => exact absurd rfl hj
      | network2 =>
        simp only [live, pending, hc, reduceCtorEq, if_false]
        exact rfl
  | send2 =>
    obtain ⟨buffer, hc, rfl⟩ := advance_send2 h
    refine ⟨?_, fun j hj => ?_⟩
    · simp only [live, pending, Live.step, hc, if_true]
      exact rfl
    · cases j with
      | network2 => exact absurd rfl hj
      | network1 =>
        simp only [live, pending, hc, reduceCtorEq, if_false]
        exact rfl
  | endBlock onOff =>
    obtain ⟨buffer, hc, rfl⟩ := advance_endBlock h
    refine ⟨?_, fun j hj => ?_⟩
    · simp only [live, pending, Live.step, hc, if_true]
      exact rfl
    · cases j with
      | network2 => exact absurd rfl hj
      | network1 =>
        simp only [live, pending, hc, reduceCtorEq, if_false]
        exact rfl
  | deliver k =>
    obtain ⟨ht, rfl⟩ := advance_deliver h
    refine ⟨by simp [live, pending, Live.step, ht], fun j hj => ?_⟩
    simp [live, pending, hj]
  | threadEnd k =>
    obtain ⟨ht, rfl⟩ := advance_threadEnd h
    refine ⟨by simp [live, pending, Live.step, ht], fun j hj => ?_⟩
    simp [live, pending, hj]
  | setGains inputGain outputGain =>
    obtain rfl := Option.some.inj h
    intro k
    cases k <;> rfl
  | setEffects effects =>
    obtain rfl := Option.some.inj h
    intro k
    cases k <;> rfl

/-- **A step of the plugin is a step of the network that takes part in it**, also with what has been
seen, and leaves the other network alone.

**Proof sketch.** By the event: either the state of a network takes the step of its own model, and
the history records it, or neither changes. -/
theorem observed_step {fx : Effects F E} {ort : Ort F S File} {r r' : PluginRun F S E}
    {e : PluginEvent F E} (h : r.step fx ort e = some r') :
    match r.audioEvent fx e with
    | some (k, event) =>
      (r.observed k).step ort event = some (r'.observed k) ∧
        ∀ j, j ≠ k → r'.observed j = r.observed j
    | none => ∀ k, r'.observed k = r.observed k := by
  obtain ⟨q, hq, rfl⟩ := step_eq_some h
  have hlive := live_advance hq
  cases he : r.audioEvent fx e with
  | none =>
    rw [he] at hlive
    intro k
    simp only [observed, record, he]
    rw [← hlive k]
    rfl
  | some event =>
    obtain ⟨k, event⟩ := event
    rw [he] at hlive
    obtain ⟨hstep, hother⟩ := hlive
    refine ⟨?_, fun j hj => ?_⟩
    · rw [Observed.step]
      simp only [observed, hstep, Option.map_some, record, he, if_true]
      exact rfl
    · simp only [observed, record, he, if_neg (Ne.symm hj)]
      rw [← hother j hj]
      exact rfl

end PluginRun

/-- **A callback that nothing comes in between is `processBlock`.** -/
theorem exec_callback (fx : Effects F E) (ort : Ort F S File) {r : PluginRun F S E}
    (hidle : r.callback = none) (onOff : NetworkId → Bool) (buffer : AudioBuffer F) :
    ∃ r', Transition.exec (PluginRun.step fx ort) r
        [.beginBlock buffer, .output1, .send2, .endBlock onOff] = some r' ∧
      r'.callback = none ∧ r'.plugin = (r.plugin.processBlock fx onOff buffer).value.1 ∧
      r'.outputs = r.outputs ++ [(r.plugin.processBlock fx onOff buffer).value.2] := by
  obtain ⟨plugin, callback, history, inputs, outputs⟩ := r
  obtain rfl : callback = none := hidle
  exact ⟨_, rfl, rfl, rfl, rfl⟩
