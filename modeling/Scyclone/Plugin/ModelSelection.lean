import Scyclone.Onnx.Network
import Scyclone.Plugin.PluginParameters

set_option relaxedAutoImplicit false
set_option autoImplicit false

/-!
# Which model a network uses

The parameter that selects a network, the session of the network and the stored name of its model
are changed by four components, through listeners of the parameter and callbacks: the processor,
the editor with its file chooser, and the pad with the knobs.

## Main definitions

* `ModelSelection` with `parameterChanged`, `openFileChooser` and `chooserCallback`.
* `ModelSelection.Event`, `ModelSelection.step` — what happens to an instance.
* `ModelSelection.Agrees` — the three say the same.
* `ModelSelection.Orderly` — the condition on a step.
* `ModelSelection.Phase` — what a network is doing between such steps.

## Main results

* `ModelSelection.Phased.step` — an orderly step leaves every network in a phase.
* `agrees_of_orderly` — in a run of such steps the three agree whenever nothing is pending.
-/

/-! ## Files -/

/-- What the plugin asks of a file. -/
structure FileSystem (File : Type) where
  /-- `getSize()`, which is 0 for a file that does not exist. -/
  getSize : File → ℕ
  getFileNameWithoutExtension : File → String

/-- One of the `getURLResults()` of a chooser. -/
inductive URLResult (File : Type)
  | localFile (file : File)
  | url

/-- Whether a model comes from a file. -/
def ModelSource.isExternal {File : Type} : ModelSource File → Bool
  | .internal => false
  | .external _ => true

/-- The name of the internal model of a network. -/
def internalName : NetworkId → String
  | .network1 => "Funk"
  | .network2 => "Djembe"

/-- The name of a model. -/
def modelName {File : Type} (fs : FileSystem File) (k : NetworkId) : ModelSource File → String
  | .internal => internalName k
  | .external file => fs.getFileNameWithoutExtension file

/-! ## State -/

/-- A call that loads a model: before and after its session is constructed. -/
structure ModelLoad (File : Type) where
  source : ModelSource File
  constructed : Bool

/-- What there is for each network. -/
structure NetworkModel (File : Type) where
  /-- The parameter `SELECT_NETWORK`. -/
  select : Bool
  /-- What the session was constructed from. -/
  session : ModelSource File
  /-- The value `network1Name` or `network2Name` of the processor. -/
  name : String
  loads : List (ModelLoad File)

/-- An open editor: the network its file chooser was opened for, as long as that has not come back,
and the names on the knobs. -/
structure EditorState where
  chooser : Option NetworkId
  knob : NetworkId → String

/-- An instance of the plugin, as far as its models are concerned. -/
structure ModelSelection (File : Type) where
  network : NetworkId → NetworkModel File
  editor : Option EditorState

/-- `network1Name` and `network2Name` of `XYPad`, which no constructor initialises. -/
def XYPad.networkName : String := ""

namespace ModelSelection

variable {File : Type}

/-- A fresh instance. -/
def construct : ModelSelection File where
  network k := ⟨false, .internal, internalName k, []⟩
  editor := none

/-- A change to what there is for one network. -/
def modify (s : ModelSelection File) (k : NetworkId)
    (f : NetworkModel File → NetworkModel File) : ModelSelection File :=
  { s with network := Function.update s.network k (f (s.network k)) }

/-- A load begins. -/
def startLoad (s : ModelSelection File) (k : NetworkId) (source : ModelSource File) :
    ModelSelection File :=
  s.modify k fun n => { n with loads := n.loads ++ [⟨source, false⟩] }

/-! ## Callbacks -/

/-- `XYPad::updateKnobName`. -/
def updateKnobName (s : ModelSelection File) (e : EditorState) (k : NetworkId)
    (modelName : String) : ModelSelection File :=
  { s.modify k fun n => { n with name := modelName } with
    editor := some { e with knob := Function.update e.knob k modelName } }

/-- `OnnxProcessor::parameterChanged`. -/
def onnxProcessorParameterChanged (s : ModelSelection File) (k : NetworkId) (newValue : Bool) :
    ModelSelection File :=
  if !newValue then s.startLoad k .internal else s

/-- `XYPad::parameterChanged`. -/
def xyPadParameterChanged (s : ModelSelection File) (k : NetworkId) (newValue : Bool) :
    ModelSelection File :=
  match s.editor with
  | none => s
  | some e => if !newValue then s.updateKnobName e k XYPad.networkName else s

/-- `openFileChooser`. A chooser that has not come back is replaced. -/
def openFileChooser (s : ModelSelection File) (e : EditorState) (k : NetworkId) :
    ModelSelection File :=
  { s with editor := some { e with chooser := some k } }

/-- `AudioPluginAudioProcessorEditor::parameterChanged`. -/
def editorParameterChanged (s : ModelSelection File) (k : NetworkId) (newValue : Bool) :
    ModelSelection File :=
  match s.editor with
  | none => s
  | some e => if newValue then s.openFileChooser e k else s

/-- The listeners of the parameter. -/
def parameterChanged (s : ModelSelection File) (k : NetworkId) (newValue : Bool) :
    ModelSelection File :=
  ((s.onnxProcessorParameterChanged k newValue).xyPadParameterChanged k
    newValue).editorParameterChanged k newValue

/-- The parameter is set. Its listeners are called if it changes. -/
def setSelect (s : ModelSelection File) (k : NetworkId) (newValue : Bool) : ModelSelection File :=
  if (s.network k).select = newValue then s
  else (s.modify k fun n => { n with select := newValue }).parameterChanged k newValue

/-- The loop of the callback: the chosen file, if there is one, or nothing if it returns. -/
def chosenFile : Option File → List (URLResult File) → Option (Option File)
  | chosen, [] => some chosen
  | _, .localFile file :: results => chosenFile (some file) results
  | _, .url :: _ => none

/-- The callback of the chooser of a network. -/
def chooserCallback (fs : FileSystem File) (s : ModelSelection File) (k : NetworkId)
    (results : List (URLResult File)) : ModelSelection File :=
  match chosenFile none results with
  | none => s
  | some none => s.setSelect k false
  | some (some chosen) =>
    if fs.getSize chosen ≠ 0 then s.startLoad k (.external chosen) else s.setSelect k false

/-- `setStateInformation`: the parameters in the order of the state, and then the names. -/
def setStateInformation (s : ModelSelection File) (selects : List (NetworkId × Bool))
    (names : NetworkId → String) : ModelSelection File :=
  let s := selects.foldl (fun s p => s.setSelect p.1 p.2) s
  { s with network := fun k => { s.network k with name := names k } }

/-! ## Steps -/

/-- What happens to an instance. -/
inductive Event (File : Type)
  | openEditor
  | closeEditor
  /-- By a click or by the host. -/
  | setSelect (k : NetworkId) (newValue : Bool)
  | chooser (results : List (URLResult File))
  /-- A load of the network goes on. -/
  | load (k : NetworkId) (i : ℕ)
  | setStateInformation (selects : List (NetworkId × Bool)) (names : NetworkId → String)

/-- A model is loaded from a file. The callback of the chooser does not return before. -/
def LoadsFile (s : ModelSelection File) : Prop :=
  ∃ k, ∃ l ∈ (s.network k).loads, l.source.isExternal = true

instance (s : ModelSelection File) : Decidable s.LoadsFile :=
  decidable_of_iff ((∃ l ∈ (s.network .network1).loads, l.source.isExternal = true) ∨
    ∃ l ∈ (s.network .network2).loads, l.source.isExternal = true) (by
      constructor
      · rintro (h | h)
        · exact ⟨.network1, h⟩
        · exact ⟨.network2, h⟩
      · rintro ⟨k, h⟩
        cases k with
        | network1 => exact Or.inl h
        | network2 => exact Or.inr h)

/-- The end of a load: `onModelLoaded`. The name of a file is sent to the pad of the editor. -/
def modelLoaded (fs : FileSystem File) (s : ModelSelection File) (k : NetworkId) :
    ModelSource File → Option (ModelSelection File)
  | .internal => some s
  | .external file =>
    if fs.getFileNameWithoutExtension file = "" then some s
    else s.editor.map fun e => s.updateKnobName e k (fs.getFileNameWithoutExtension file)

/-- A load goes on: its session is constructed, and then it ends. -/
def loadStep (fs : FileSystem File) (s : ModelSelection File) (k : NetworkId) (i : ℕ) :
    Option (ModelSelection File) :=
  match (s.network k).loads[i]? with
  | none => none
  | some l =>
    if !l.constructed then
      some (s.modify k fun n =>
        { n with session := l.source, loads := n.loads.set i { l with constructed := true } })
    else (s.modify k fun n => { n with loads := n.loads.eraseIdx i }).modelLoaded fs k l.source

/-- One step. -/
def step (fs : FileSystem File) (s : ModelSelection File) :
    Event File → Option (ModelSelection File)
  | .openEditor =>
    match s.editor with
    | none => some { s with editor := some ⟨none, fun k => (s.network k).name⟩ }
    | some _ => none
  | .closeEditor =>
    match s.editor with
    | none => none
    | some _ => if s.LoadsFile then none else some { s with editor := none }
  | .setSelect k newValue => some (s.setSelect k newValue)
  | .chooser results =>
    match s.editor with
    | none => none
    | some e =>
      match e.chooser with
      | none => none
      | some k =>
        if s.LoadsFile then none
        else
          some ({ s with editor := some { e with chooser := none } }.chooserCallback fs k results)
  | .load k i => s.loadStep fs k i
  | .setStateInformation selects names => some (s.setStateInformation selects names)

/-! ## Agreement -/

/-- No load and no chooser is pending. -/
def Quiet (s : ModelSelection File) : Prop :=
  (∀ k, (s.network k).loads = []) ∧ ∀ e, s.editor = some e → e.chooser = none

/-- The name that is stored for a network, and shown on the knob of an open editor, is the one of
the model. -/
def Named (fs : FileSystem File) (editor : Option EditorState) (k : NetworkId) (name : String)
    (model : ModelSource File) : Prop :=
  name = modelName fs k model ∧ ∀ e, editor = some e → e.knob k = name

/-- The parameters, the sessions and the names say the same. -/
def Agrees (fs : FileSystem File) (s : ModelSelection File) : Prop :=
  ∀ k, ((s.network k).select = true ↔ ∃ file, (s.network k).session = .external file) ∧
    Named fs s.editor k (s.network k).name (s.network k).session

/-- The chooser is open for the network. -/
def Choosing (editor : Option EditorState) (k : NetworkId) : Prop :=
  ∃ e, editor = some e ∧ e.chooser = some k

/-- The loads that will still change something: one of the internal model changes nothing once its
session is constructed. -/
def pending (loads : List (ModelLoad File)) : List (ModelLoad File) :=
  loads.filter fun l => l.source.isExternal || !l.constructed

/-- The model that the network will have when its loads have ended. -/
def NetworkModel.target (n : NetworkModel File) : ModelSource File :=
  match (pending n.loads).getLast? with
  | none => n.session
  | some l => l.source

/-- A file is being chosen or loaded for the network, whose name is sent in the end. -/
def AwaitsFile (s : ModelSelection File) (k : NetworkId) : Prop :=
  Choosing s.editor k ∨ ∃ l ∈ (s.network k).loads, l.source.isExternal = true

/-! ## The condition -/

/-- The editor is open, and its chooser is not. -/
def CanChoose (s : ModelSelection File) : Prop := ∃ e, s.editor = some e ∧ e.chooser = none

/-- A change of the parameter in a restore: an external model is selected where a chooser opens
for it, and deselected where there is no pad. -/
def OrderlySelect (s : ModelSelection File) (k : NetworkId) : Bool → Prop
  | true => (s.network k).select = true ∨ s.CanChoose
  | false => (s.network k).select = false ∨ s.editor = none

/-- The changes of the parameters in a restore, and the names restored after them: each is that of
the model, unless one is sent later. -/
def OrderlyRestore (fs : FileSystem File) (names : NetworkId → String) :
    ModelSelection File → List (NetworkId × Bool) → Prop
  | s, [] => ∀ k, s.AwaitsFile k ∨ Named fs s.editor k (names k) (NetworkModel.target (s.network k))
  | s, p :: selects =>
    s.OrderlySelect p.1 p.2 ∧ OrderlyRestore fs names (s.setSelect p.1 p.2) selects

/-- **The condition on a step.** A model is deselected only where no pad is there to store its own
name, and the stored name is that of the internal model already. An external one is selected only
where a chooser opens for it, and that comes back with a file that can be loaded and has a name.
The sessions of a network are constructed in the order in which their loads began. -/
def Orderly (fs : FileSystem File) (s : ModelSelection File) : Event File → Prop
  | .openEditor => True
  | .closeEditor => ∀ e, s.editor = some e → e.chooser = none
  | .setSelect k true => s.OrderlySelect k true
  | .setSelect k false => (s.network k).select = false ∨
    (s.editor = none ∧ (s.network k).name = internalName k)
  | .chooser results => ∃ file, chosenFile none results = some (some file) ∧
    fs.getSize file ≠ 0 ∧ fs.getFileNameWithoutExtension file ≠ ""
  | .load k i => ∀ l, (s.network k).loads[i]? = some l → l.constructed = false →
    ∀ l' ∈ (s.network k).loads.take i, l'.constructed = true
  | .setStateInformation selects names => OrderlyRestore fs names s selects

/-! ## Phases -/

/-- What a network is doing. The names are as they should be if `named`. -/
inductive Phase (fs : FileSystem File) (named : Prop) (editor : Option EditorState)
    (k : NetworkId) (n : NetworkModel File) : Prop
  /-- Nothing. -/
  | settled (hchooser : ¬ Choosing editor k) (hpending : pending n.loads = [])
      (hselect : n.select = n.session.isExternal)
      (hname : named → Named fs editor k n.name n.session)
  /-- The internal model is loaded again. -/
  | returning (hchooser : ¬ Choosing editor k) (hpending : pending n.loads = [⟨.internal, false⟩])
      (hselect : n.select = false) (hname : named → Named fs editor k n.name .internal)
  /-- A file is chosen, while the internal model may still be loaded. -/
  | choosing (hchooser : Choosing editor k)
      (hpending : pending n.loads = [] ∨ pending n.loads = [⟨.internal, false⟩])
      (hselect : n.select = true)
  /-- A file is loaded, while the internal model may still be loaded before it. -/
  | loading (file : File) (b : Bool) (hchooser : ¬ Choosing editor k)
      (hpending : pending n.loads = [⟨.external file, b⟩] ∨
        (b = false ∧ pending n.loads = [⟨.internal, false⟩, ⟨.external file, false⟩]))
      (hsession : b = true → n.session = .external file) (hselect : n.select = true)
      (hfile : fs.getFileNameWithoutExtension file ≠ "") (hopen : editor.isSome = true)

/-- Every network is in a phase. -/
def Phased (fs : FileSystem File) (named : Prop) (s : ModelSelection File) : Prop :=
  ∀ k, Phase fs named s.editor k (s.network k)

@[simp] lemma choosing_some (e : EditorState) (k : NetworkId) :
    Choosing (some e) k ↔ e.chooser = some k := by simp [Choosing]

@[simp] lemma not_choosing_none (k : NetworkId) : ¬ Choosing none k := by simp [Choosing]

variable {fs : FileSystem File} {named : Prop}

/-- **A state in which nothing is pending agrees.**

**Proof sketch.** By the phase of each network: the settled one agrees, and in the other three a
load is pending or a chooser is open, against the quiet. -/
lemma Phased.agrees {s : ModelSelection File} (h : s.Phased fs True) (hquiet : s.Quiet) :
    s.Agrees fs := by
  intro k
  cases h k with
  | settled _ _ hselect hname =>
    refine ⟨?_, hname trivial⟩
    rw [hselect]
    cases (s.network k).session with
    | internal => exact ⟨fun h => (by cases h), fun ⟨_, h⟩ => (by cases h)⟩
    | external file => exact ⟨fun _ => ⟨file, rfl⟩, fun _ => rfl⟩
  | returning _ hpending =>
    rw [hquiet.1 k] at hpending
    cases hpending
  | choosing hchooser =>
    obtain ⟨e, he, hk⟩ := hchooser
    rw [hquiet.2 e he] at hk
    cases hk
  | loading file b _ hpending =>
    rw [hquiet.1 k] at hpending
    rcases hpending with hone | ⟨-, htwo⟩
    · cases hone
    · cases htwo

/-- Without the names. -/
lemma Phase.weaken {editor : Option EditorState} {k : NetworkId} {n : NetworkModel File}
    (h : Phase fs True editor k n) : Phase fs False editor k n := by
  cases h with
  | settled hchooser hpending hselect _ => exact .settled hchooser hpending hselect False.elim
  | returning hchooser hpending hselect _ => exact .returning hchooser hpending hselect False.elim
  | choosing hchooser hpending hselect => exact .choosing hchooser hpending hselect
  | loading file b hchooser hpending hsession hselect hfile hopen =>
    exact .loading file b hchooser hpending hsession hselect hfile hopen

/-- A network sees of the editor whether it is open, whether its chooser is open for the network,
and the knob.

**Proof sketch.** The phases speak of the editor through the chooser and through the name shown by
the knob, and the three hypotheses carry both over. -/
lemma Phase.of_editor {editor editor' : Option EditorState} {k : NetworkId} {n : NetworkModel File}
    (h : Phase fs named editor k n) (hopen : editor'.isSome = editor.isSome)
    (hchooser : Choosing editor' k ↔ Choosing editor k)
    (hknob : ∀ e e', editor = some e → editor' = some e' → e'.knob k = e.knob k) :
    Phase fs named editor' k n := by
  have hnamed : ∀ model, Named fs editor k n.name model → Named fs editor' k n.name model := by
    rintro model ⟨hname, hshown⟩
    refine ⟨hname, fun e' he' => ?_⟩
    cases editor with
    | none =>
      rw [he'] at hopen
      cases hopen
    | some e => rw [hknob e e' rfl he', hshown e rfl]
  cases h with
  | settled hno hpending hselect hname =>
    exact .settled (hchooser.not.mpr hno) hpending hselect fun h => hnamed _ (hname h)
  | returning hno hpending hselect hname =>
    exact .returning (hchooser.not.mpr hno) hpending hselect fun h => hnamed _ (hname h)
  | choosing hyes hpending hselect => exact .choosing (hchooser.mpr hyes) hpending hselect
  | loading file b hno hpending hsession hselect hfile hsome =>
    exact .loading file b (hchooser.not.mpr hno) hpending hsession hselect hfile (hopen.trans hsome)

/-! ## Pending loads -/

lemma pending_append (loads loads' : List (ModelLoad File)) :
    pending (loads ++ loads') = pending loads ++ pending loads' := List.filter_append _ _

lemma pending_cons (l : ModelLoad File) (loads : List (ModelLoad File)) :
    pending (l :: loads) = pending [l] ++ pending loads := pending_append [l] loads

lemma mem_pending {l : ModelLoad File} {loads : List (ModelLoad File)} (hl : l ∈ loads)
    (hexternal : l.source.isExternal = true) : l ∈ pending loads :=
  List.mem_filter.mpr ⟨hl, by simp [hexternal]⟩

/-- A load in a list of loads is replaced. -/
lemma pending_set {loads : List (ModelLoad File)} {i : ℕ} (hi : i < loads.length)
    (l : ModelLoad File) : pending (loads.set i l) =
      pending (loads.take i) ++ (pending [l] ++ pending (loads.drop (i + 1))) := by
  rw [List.set_eq_take_append_cons_drop, if_pos hi, pending_append, pending_cons]

/-- A load is taken out of a list of loads. -/
lemma pending_eraseIdx (loads : List (ModelLoad File)) (i : ℕ) :
    pending (loads.eraseIdx i) = pending (loads.take i) ++ pending (loads.drop (i + 1)) := by
  rw [List.eraseIdx_eq_take_drop_succ, pending_append]

/-- The pending loads before, at and after a load. -/
lemma pending_eq_of_getElem? {loads : List (ModelLoad File)} {i : ℕ} {l : ModelLoad File}
    (hl : loads[i]? = some l) : pending loads =
      pending (loads.take i) ++ (pending [l] ++ pending (loads.drop (i + 1))) := by
  obtain ⟨hi, rfl⟩ := List.getElem?_eq_some_iff.mp hl
  conv_lhs => rw [← List.set_getElem_self hi]
  exact pending_set hi _

/-! ## Steps between phases -/

@[simp] lemma modify_editor (s : ModelSelection File) (k : NetworkId)
    (f : NetworkModel File → NetworkModel File) : (s.modify k f).editor = s.editor := rfl

@[simp] lemma modify_network_self (s : ModelSelection File) (k : NetworkId)
    (f : NetworkModel File → NetworkModel File) :
    (s.modify k f).network k = f (s.network k) := Function.update_self _ _ _

lemma modify_network_of_ne (s : ModelSelection File) {j k : NetworkId} (h : j ≠ k)
    (f : NetworkModel File → NetworkModel File) : (s.modify k f).network j = s.network j :=
  Function.update_of_ne h _ _

/-- A change to one network. -/
lemma Phased.modify {s : ModelSelection File} (h : s.Phased fs named) {k : NetworkId}
    {f : NetworkModel File → NetworkModel File}
    (hk : Phase fs named s.editor k (f (s.network k))) : (s.modify k f).Phased fs named := by
  intro j
  by_cases hj : j = k
  · subst hj
    simpa using hk
  · rw [s.modify_network_of_ne hj]
    exact h j

/-- **A model is selected**: with an open editor the chooser opens for the network. -/
lemma setSelect_true {s : ModelSelection File} {k : NetworkId}
    (hselect : (s.network k).select = false) {e : EditorState} (he : s.editor = some e) :
    s.setSelect k true =
      { s.modify k fun n => { n with select := true } with
        editor := some { e with chooser := some k } } := by
  simp [setSelect, hselect, parameterChanged, onnxProcessorParameterChanged,
    xyPadParameterChanged, editorParameterChanged, openFileChooser, he]

/-- **A model is deselected** without an editor: the internal model is loaded. -/
lemma setSelect_false {s : ModelSelection File} {k : NetworkId}
    (hselect : (s.network k).select = true) (he : s.editor = none) :
    s.setSelect k false =
      s.modify k fun n => { n with select := false, loads := n.loads ++ [⟨.internal, false⟩] } := by
  simp [setSelect, hselect, parameterChanged, onnxProcessorParameterChanged,
    xyPadParameterChanged, editorParameterChanged, startLoad, modify, he]

/-- The chooser opens or comes back for another network. -/
lemma Phase.of_chooser {e : EditorState} {chooser : Option NetworkId} {k : NetworkId}
    {n : NetworkModel File} (h : Phase fs named (some e) k n) (hbefore : e.chooser ≠ some k)
    (hafter : chooser ≠ some k) :
    Phase fs named (some { e with chooser := chooser }) k n := by
  refine h.of_editor rfl ?_ fun e₁ e₂ h₁ h₂ => ?_
  · rw [choosing_some, choosing_some]
    exact iff_of_false hafter hbefore
  · obtain rfl := Option.some.inj h₁
    obtain rfl := Option.some.inj h₂
    rfl

/-- **A model is selected** where the chooser can open for it.

**Proof sketch.** The network was settled or returning, since nothing is selected in it, and now it
is choosing; the other networks do not see the chooser. -/
lemma Phased.select {s : ModelSelection File} (h : s.Phased fs named) {k : NetworkId}
    (hselect : (s.network k).select = false) (hc : s.CanChoose) :
    (s.setSelect k true).Phased fs named := by
  obtain ⟨e, he, hnone⟩ := hc
  rw [setSelect_true hselect he]
  intro j
  have hphase := h j
  rw [he] at hphase
  by_cases hj : j = k
  · subst hj
    refine .choosing (by simp) ?_ (by simp)
    simp only [modify_network_self]
    cases hphase with
    | settled _ hpending => exact Or.inl hpending
    | returning _ hpending => exact Or.inr hpending
    | choosing _ _ htrue =>
      rw [hselect] at htrue
      cases htrue
    | loading _ _ _ _ _ htrue =>
      rw [hselect] at htrue
      cases htrue
  · show Phase fs named (some { e with chooser := some k }) j
      ((s.modify k fun n => { n with select := true }).network j)
    rw [s.modify_network_of_ne hj]
    refine hphase.of_chooser ?_ fun hk => hj (Option.some.inj hk).symm
    rw [hnone]
    exact (Option.some_ne_none j).symm

/-- **A model is deselected** without an editor, and the stored name is the internal one. -/
lemma Phased.deselect {s : ModelSelection File} (h : s.Phased fs named) {k : NetworkId}
    (hselect : (s.network k).select = true) (hclosed : s.editor = none)
    (hname : named → (s.network k).name = internalName k) :
    (s.setSelect k false).Phased fs named := by
  rw [setSelect_false hselect hclosed]
  have hchooser : ¬ Choosing s.editor k := by simp [hclosed]
  have hpending : pending (s.network k).loads = [] := by
    cases h k with
    | settled _ hpending => exact hpending
    | returning _ _ hfalse =>
      rw [hselect] at hfalse
      cases hfalse
    | choosing hyes => exact absurd hyes hchooser
    | loading _ _ _ _ _ _ _ hopen =>
      rw [hclosed] at hopen
      cases hopen
  refine h.modify (.returning hchooser (by rw [pending_append, hpending]; rfl) rfl fun hn => ?_)
  refine ⟨hname hn, fun e he => ?_⟩
  rw [hclosed] at he
  cases he

/-- **A change of the parameter.** -/
lemma Phased.setSelect {s : ModelSelection File} (h : s.Phased fs named) {k : NetworkId}
    {newValue : Bool} (hc : s.OrderlySelect k newValue)
    (hname : newValue = false → (s.network k).select = true → named →
      (s.network k).name = internalName k) : (s.setSelect k newValue).Phased fs named := by
  by_cases hsame : (s.network k).select = newValue
  · rw [ModelSelection.setSelect, if_pos hsame]
    exact h
  · cases newValue with
    | true =>
      rcases hc with htrue | hchoose
      · exact absurd htrue hsame
      · exact h.select (by simpa using hsame) hchoose
    | false =>
      have hselect : (s.network k).select = true := by simpa using hsame
      rcases hc with hfalse | hclosed
      · exact absurd hfalse hsame
      · exact h.deselect hselect hclosed (hname rfl hselect)

/-- A restore, up to its names. -/
lemma Phased.foldl_setSelect {s : ModelSelection File} (h : s.Phased fs False)
    {names : NetworkId → String} {selects : List (NetworkId × Bool)}
    (hc : OrderlyRestore fs names s selects) :
    (selects.foldl (fun s p => s.setSelect p.1 p.2) s).Phased fs False ∧
      ∀ k, (selects.foldl (fun s p => s.setSelect p.1 p.2) s).AwaitsFile k ∨
        Named fs (selects.foldl (fun s p => s.setSelect p.1 p.2) s).editor k (names k)
          (NetworkModel.target
            ((selects.foldl (fun s p => s.setSelect p.1 p.2) s).network k)) := by
  induction selects generalizing s with
  | nil => exact ⟨h, hc⟩
  | cons p selects ih =>
    exact ih (h.setSelect hc.1 fun _ _ hn => hn.elim) hc.2

/-- The names are restored.

**Proof sketch.** A network with a chooser open or a file on its way does not depend on its name,
and by the condition the name fits in the others. -/
lemma Phased.restoreNames {s : ModelSelection File} (h : s.Phased fs False)
    {names : NetworkId → String}
    (hnames : ∀ k, s.AwaitsFile k ∨
      Named fs s.editor k (names k) (NetworkModel.target (s.network k))) :
    Phased fs True { s with network := fun k => { s.network k with name := names k } } := by
  intro k
  have hawaits : (∀ l ∈ pending (s.network k).loads, l.source.isExternal = false) →
      ¬ Choosing s.editor k →
      Named fs s.editor k (names k) (NetworkModel.target (s.network k)) := by
    intro hinternal hchooser
    rcases hnames k with (hyes | ⟨l, hl, hexternal⟩) | hnamed
    · exact absurd hyes hchooser
    · rw [hinternal l (mem_pending hl hexternal)] at hexternal
      cases hexternal
    · exact hnamed
  cases h k with
  | settled hchooser hpending hselect _ =>
    refine .settled hchooser hpending hselect fun _ => ?_
    have hnamed := hawaits (by simp [hpending]) hchooser
    rwa [NetworkModel.target, hpending] at hnamed
  | returning hchooser hpending hselect _ =>
    refine .returning hchooser hpending hselect fun _ => ?_
    have hnamed := hawaits (by simp [hpending, ModelSource.isExternal]) hchooser
    rwa [NetworkModel.target, hpending] at hnamed
  | choosing hchooser hpending hselect => exact .choosing hchooser hpending hselect
  | loading file b hchooser hpending hsession hselect hfile hopen =>
    exact .loading file b hchooser hpending hsession hselect hfile hopen

/-- **A restore.** -/
lemma Phased.setStateInformation {s : ModelSelection File} (h : s.Phased fs True)
    {selects : List (NetworkId × Bool)} {names : NetworkId → String}
    (hc : OrderlyRestore fs names s selects) :
    (s.setStateInformation selects names).Phased fs True := by
  have hweak : s.Phased fs False := fun k => (h k).weaken
  obtain ⟨hphased, hnames⟩ := hweak.foldl_setSelect hc
  exact hphased.restoreNames hnames

/-- **The callback of the chooser.**

**Proof sketch.** The network whose chooser was open was choosing, and now a file is on its way,
after the internal model if that was; the others do not see the chooser. -/
lemma Phased.chooserCallback {s : ModelSelection File} (h : s.Phased fs True) {e : EditorState}
    (he : s.editor = some e) {k : NetworkId} (hk : e.chooser = some k)
    {results : List (URLResult File)} {file : File}
    (hchosen : chosenFile none results = some (some file)) (hsize : fs.getSize file ≠ 0)
    (hname : fs.getFileNameWithoutExtension file ≠ "") :
    ({ s with editor := some { e with chooser := none } }.chooserCallback fs k
      results).Phased fs True := by
  rw [ModelSelection.chooserCallback, hchosen]
  dsimp only
  rw [if_pos hsize]
  intro j
  have hphase := h j
  rw [he] at hphase
  by_cases hj : j = k
  · subst hj
    rw [startLoad, modify_network_self, modify_editor]
    have hyes : Choosing (some e) j := by simpa using hk
    cases hphase with
    | settled hno => exact absurd hyes hno
    | returning hno => exact absurd hyes hno
    | choosing _ hpending hselect =>
      refine .loading file false (by simp) ?_ (fun h => by cases h) hselect hname rfl
      rw [pending_append]
      exact hpending.imp (fun h => by rw [h]; rfl) fun h => ⟨rfl, by rw [h]; rfl⟩
    | loading _ _ hno => exact absurd hyes hno
  · rw [startLoad, modify_network_of_ne _ hj, modify_editor]
    refine hphase.of_chooser ?_ (Option.some_ne_none j).symm
    rw [hk]
    exact fun hsome => hj (Option.some.inj hsome).symm

/-- The editor is opened. -/
lemma Phased.openEditor {s : ModelSelection File} (h : s.Phased fs True) (he : s.editor = none) :
    Phased fs True { s with editor := some ⟨none, fun k => (s.network k).name⟩ } := by
  intro k
  have hchooser : ¬ Choosing (some ⟨none, fun k => (s.network k).name⟩) k := by simp
  have hnamed : ∀ model, Named fs s.editor k (s.network k).name model →
      Named fs (some ⟨none, fun k => (s.network k).name⟩) k (s.network k).name model := by
    refine fun model hname => ⟨hname.1, fun e he => ?_⟩
    obtain rfl := Option.some.inj he
    rfl
  cases h k with
  | settled _ hpending hselect hname =>
    exact .settled hchooser hpending hselect fun h => hnamed _ (hname h)
  | returning _ hpending hselect hname =>
    exact .returning hchooser hpending hselect fun h => hnamed _ (hname h)
  | choosing hyes => simp [he] at hyes
  | loading file b _ _ _ _ _ hopen =>
    rw [he] at hopen
    cases hopen

/-- The editor is closed. -/
lemma Phased.closeEditor {s : ModelSelection File} (h : s.Phased fs True)
    (hc : ∀ e, s.editor = some e → e.chooser = none) (hfree : ¬ s.LoadsFile) :
    Phased fs True { s with editor := none } := by
  intro k
  have hchooser : ¬ Choosing none k := not_choosing_none k
  cases h k with
  | settled _ hpending hselect hname =>
    exact .settled hchooser hpending hselect fun h => ⟨(hname h).1, fun _ he => by cases he⟩
  | returning _ hpending hselect hname =>
    exact .returning hchooser hpending hselect fun h => ⟨(hname h).1, fun _ he => by cases he⟩
  | choosing hyes =>
    obtain ⟨e, he, hsome⟩ := hyes
    rw [hc e he] at hsome
    cases hsome
  | loading file b _ hpending =>
    have hmem : ⟨.external file, b⟩ ∈ pending (s.network k).loads := by
      rcases hpending with hone | ⟨rfl, htwo⟩
      · simp [hone]
      · simp [htwo]
    exact absurd ⟨k, _, List.mem_of_mem_filter hmem, rfl⟩ hfree

/-! ## Steps of a load -/

/-- The internal model is loaded: its session is constructed.

**Proof sketch.** By the phase. An internal load is pending in three of them: as the only one, and
the network settles or keeps its open chooser, or before the load of a file, which is then the only
one left. -/
lemma Phase.constructInternal {editor : Option EditorState} {k : NetworkId} {n : NetworkModel File}
    (h : Phase fs True editor k n) {before after loads : List (ModelLoad File)}
    (hold : pending n.loads = before ++ ⟨.internal, false⟩ :: after)
    (hnew : pending loads = before ++ after) :
    Phase fs True editor k { n with session := .internal, loads := loads } := by
  cases h with
  | settled _ hnone => simp [hold] at hnone
  | returning hchooser hone hselect hname =>
    obtain ⟨rfl, rfl⟩ : before = [] ∧ after = [] := by
      simpa [hold, List.append_eq_cons_iff] using hone
    exact .settled hchooser hnew hselect hname
  | choosing hchooser hpending hselect =>
    rcases hpending with hnone | hone
    · simp [hold] at hnone
    · obtain ⟨rfl, rfl⟩ : before = [] ∧ after = [] := by
        simpa [hold, List.append_eq_cons_iff] using hone
      exact .choosing hchooser (Or.inl hnew) hselect
  | loading file b hchooser hpending _ hselect hfile hopen =>
    rcases hpending with hone | ⟨rfl, htwo⟩
    · simp [hold, List.append_eq_cons_iff] at hone
    · obtain ⟨rfl, rfl⟩ : before = [] ∧ after = [⟨.external file, false⟩] := by
        simpa [hold, List.append_eq_cons_iff, List.cons_eq_append_iff] using htwo
      exact .loading file false hchooser (Or.inl hnew) (fun h => by cases h) hselect hfile hopen

/-- A file is loaded: its session is constructed, and that of the internal model has been.

**Proof sketch.** The load of a file is pending in one phase only. It is either the only one, and
its session is now constructed, or it follows an internal load, which `hbefore` says has been
constructed first, against the phase. -/
lemma Phase.constructExternal {editor : Option EditorState} {k : NetworkId} {n : NetworkModel File}
    (h : Phase fs True editor k n) {file : File} {before after loads : List (ModelLoad File)}
    (hold : pending n.loads = before ++ ⟨.external file, false⟩ :: after)
    (hbefore : ∀ l ∈ before, l.constructed = true)
    (hnew : pending loads = before ++ ⟨.external file, true⟩ :: after) :
    Phase fs True editor k { n with session := .external file, loads := loads } := by
  cases h with
  | settled _ hnone => simp [hold] at hnone
  | returning _ hone => simp [hold, List.append_eq_cons_iff] at hone
  | choosing _ hpending =>
    rcases hpending with hnone | hone
    · simp [hold] at hnone
    · simp [hold, List.append_eq_cons_iff] at hone
  | loading file' b hchooser hpending _ hselect hfile hopen =>
    rcases hpending with hone | ⟨rfl, htwo⟩
    · obtain ⟨rfl, ⟨rfl, -⟩, rfl⟩ : before = [] ∧ (file = file' ∧ false = b) ∧ after = [] := by
        simpa [hold, List.append_eq_cons_iff] using hone
      exact .loading file true hchooser (Or.inl hnew) (fun _ => rfl) hselect hfile hopen
    · -- the internal model would be the last to be constructed
      obtain ⟨rfl, -, -⟩ : before = [⟨.internal, false⟩] ∧ file = file' ∧ after = [] := by
        simpa [hold, List.append_eq_cons_iff, List.cons_eq_append_iff] using htwo
      cases hbefore _ (List.mem_singleton_self _)

/-- A load ends that changes nothing more. -/
lemma Phase.endInternal {editor : Option EditorState} {k : NetworkId} {n : NetworkModel File}
    (h : Phase fs True editor k n) {loads : List (ModelLoad File)}
    (hnew : pending loads = pending n.loads) :
    Phase fs True editor k { n with loads := loads } := by
  cases h with
  | settled hchooser hpending hselect hname =>
    exact .settled hchooser (hnew.trans hpending) hselect hname
  | returning hchooser hpending hselect hname =>
    exact .returning hchooser (hnew.trans hpending) hselect hname
  | choosing hchooser hpending hselect =>
    exact .choosing hchooser (hpending.imp hnew.trans hnew.trans) hselect
  | loading file b hchooser hpending hsession hselect hfile hopen =>
    exact .loading file b hchooser (hpending.imp hnew.trans fun h => ⟨h.1, hnew.trans h.2⟩)
      hsession hselect hfile hopen

/-- The load of a file ends: its name is stored and shown.

**Proof sketch.** By the phase: only a network that is loading has a file to end with, and then it
is the only load left. So the name stored and the session are those of the file. -/
lemma Phase.endExternal {editor : Option EditorState} {k : NetworkId} {n : NetworkModel File}
    (h : Phase fs True editor k n) {file : File} {before after loads : List (ModelLoad File)}
    (hold : pending n.loads = before ++ ⟨.external file, true⟩ :: after)
    (hnew : pending loads = before ++ after) :
    fs.getFileNameWithoutExtension file ≠ "" ∧ ∃ e, editor = some e ∧
      Phase fs True
        (some { e with knob := Function.update e.knob k (fs.getFileNameWithoutExtension file) }) k
        { n with name := fs.getFileNameWithoutExtension file, loads := loads } := by
  cases h with
  | settled _ hnone => simp [hold] at hnone
  | returning _ hone => simp [hold, List.append_eq_cons_iff] at hone
  | choosing _ hpending =>
    rcases hpending with hnone | hone
    · simp [hold] at hnone
    · simp [hold, List.append_eq_cons_iff] at hone
  | loading file' b hchooser hpending hsession hselect hfile hopen =>
    rcases hpending with hone | ⟨-, htwo⟩
    · obtain ⟨rfl, ⟨rfl, rfl⟩, rfl⟩ : before = [] ∧ (file = file' ∧ true = b) ∧ after = [] := by
        simpa [hold, List.append_eq_cons_iff] using hone
      obtain ⟨e, rfl⟩ := Option.isSome_iff_exists.mp hopen
      have hsource : n.session = .external file := hsession rfl
      refine ⟨hfile, e, rfl, .settled ?_ hnew ?_ fun _ => ?_⟩
      · simpa [Choosing] using hchooser
      · rw [hsource]
        exact hselect
      · simp [Named, hsource, modelName]
    · simp [hold, List.append_eq_cons_iff, List.cons_eq_append_iff] at htwo

/-- A file is sent to the pad of the editor. -/
lemma Phased.updateKnobName {s : ModelSelection File} (h : s.Phased fs True) {e : EditorState}
    (he : s.editor = some e) {k : NetworkId} {f : NetworkModel File → NetworkModel File}
    {name : String} (hk : Phase fs True (some { e with knob := Function.update e.knob k name }) k
      { f (s.network k) with name := name }) :
    ((s.modify k f).updateKnobName e k name).Phased fs True := by
  intro j
  dsimp only [ModelSelection.updateKnobName]
  by_cases hj : j = k
  · subst hj
    simpa using hk
  · rw [modify_network_of_ne _ hj, modify_network_of_ne _ hj]
    refine (h j).of_editor (by simp [he]) (by simp [Choosing, he]) fun e₁ e₂ h₁ h₂ => ?_
    rw [he] at h₁
    obtain rfl := Option.some.inj h₁
    obtain rfl := Option.some.inj h₂
    exact Function.update_of_ne hj _ _

/-- **A load goes on.**

**Proof sketch.** By where the load is. A session that is constructed becomes that of the network,
in the order of the loads by the condition; a load that ends is taken off the list, with its name
stored if it was one of a file. -/
lemma Phased.loadStep {s s' : ModelSelection File} (h : s.Phased fs True) {k : NetworkId} {i : ℕ}
    (hc : ∀ l, (s.network k).loads[i]? = some l → l.constructed = false →
      ∀ l' ∈ (s.network k).loads.take i, l'.constructed = true)
    (hs : s.loadStep fs k i = some s') : s'.Phased fs True := by
  cases hl : (s.network k).loads[i]? with
  | none => simp [ModelSelection.loadStep, hl] at hs
  | some l =>
    have hold := pending_eq_of_getElem? hl
    obtain ⟨source, constructed⟩ := l
    cases constructed with
    | false =>
      have hmodify : some (s.modify k fun n =>
          { n with session := source, loads := n.loads.set i ⟨source, true⟩ }) = some s' := by
        simpa [ModelSelection.loadStep, hl] using hs
      obtain rfl := Option.some.inj hmodify
      have hnew := pending_set (List.getElem?_eq_some_iff.mp hl).1 ⟨source, true⟩
      cases source with
      | internal => exact h.modify ((h k).constructInternal hold hnew)
      | external file =>
        have hconstructed : ∀ l ∈ pending ((s.network k).loads.take i), l.constructed = true :=
          fun l hl' => hc _ hl rfl l (List.mem_of_mem_filter hl')
        exact h.modify ((h k).constructExternal hold hconstructed hnew)
    | true =>
      have hend : (s.modify k fun n => { n with loads := n.loads.eraseIdx i }).modelLoaded fs k
          source = some s' := by
        simpa [ModelSelection.loadStep, hl] using hs
      have hnew := pending_eraseIdx (s.network k).loads i
      cases source with
      | internal =>
        obtain rfl := Option.some.inj hend
        exact h.modify ((h k).endInternal (hnew.trans hold.symm))
      | external file =>
        obtain ⟨hstem, e, he, hk⟩ := (h k).endExternal hold hnew
        rw [modelLoaded, if_neg hstem, modify_editor, he] at hend
        obtain rfl := Option.some.inj hend
        exact h.updateKnobName he hk

/-! ## Runs -/

/-- A fresh instance. -/
lemma phased_construct : (construct : ModelSelection File).Phased fs True := by
  intro k
  exact .settled (not_choosing_none k) rfl rfl fun _ => ⟨rfl, fun e he => by cases he⟩

/-- **An orderly step** leaves every network in a phase.

**Proof sketch.** By the event, each of which has its own lemma; the editor is open or closed as the
event needs it. -/
lemma Phased.step {s s' : ModelSelection File} {event : Event File} (h : s.Phased fs True)
    (hc : s.Orderly fs event) (hs : ModelSelection.step fs s event = some s') :
    s'.Phased fs True := by
  cases event with
  | openEditor =>
    cases he : s.editor with
    | some e => simp [ModelSelection.step, he] at hs
    | none =>
      simp only [ModelSelection.step, he] at hs
      obtain rfl := Option.some.inj hs
      exact h.openEditor he
  | closeEditor =>
    cases he : s.editor with
    | none => simp [ModelSelection.step, he] at hs
    | some e =>
      by_cases hfree : s.LoadsFile
      · simp [ModelSelection.step, he, hfree] at hs
      · simp only [ModelSelection.step, he, if_neg hfree] at hs
        obtain rfl := Option.some.inj hs
        exact h.closeEditor hc hfree
  | setSelect k newValue =>
    obtain rfl := Option.some.inj hs
    cases newValue with
    | true => exact h.setSelect hc (by simp)
    | false =>
      rcases hc with hfalse | ⟨hclosed, hname⟩
      · exact h.setSelect (Or.inl hfalse) fun _ htrue => by simp [hfalse] at htrue
      · exact h.setSelect (Or.inr hclosed) fun _ _ _ => hname
  | chooser results =>
    cases he : s.editor with
    | none => simp [ModelSelection.step, he] at hs
    | some e =>
      cases hk : e.chooser with
      | none => simp [ModelSelection.step, he, hk] at hs
      | some k =>
        by_cases hfree : s.LoadsFile
        · simp [ModelSelection.step, he, hk, hfree] at hs
        · simp only [ModelSelection.step, he, hk, if_neg hfree] at hs
          obtain rfl := Option.some.inj hs
          obtain ⟨file, hchosen, hsize, hname⟩ := hc
          exact h.chooserCallback he hk hchosen hsize hname
  | load k i => exact h.loadStep hc hs
  | setStateInformation selects names =>
    obtain rfl := Option.some.inj hs
    exact h.setStateInformation hc

end ModelSelection

open ModelSelection

/-- **In a run of orderly steps the parameter, the session and the name agree whenever nothing is
pending.** -/
theorem agrees_of_orderly {File : Type} {fs : FileSystem File} {es : List (Event File)}
    (h : Transition.StepsMeet (step fs) (Orderly fs) construct es) :
    Transition.Always (step fs) (fun s => s.Quiet → s.Agrees fs) construct es := by
  have hphased : Transition.Always (step fs) (Phased fs True) construct es :=
    Transition.always_of_stepsMeet (fun _ _ _ hs hc hstep => hs.step hc hstep) phased_construct h
  exact hphased.mono fun _ hs => hs.agrees

/-- One file, a model named `Kick`. -/
def FileSystem.kick : FileSystem Unit := ⟨fun _ => 1, fun _ => "Kick"⟩

/-- The first network is selected in an open editor, the file is chosen and loaded. -/
def selectKick : List (Event Unit) :=
  [.openEditor, .setSelect .network1 true, .chooser [.localFile ()], .load .network1 0,
    .load .network1 0]

/-- The theorem at work: the file is chosen and loaded. -/
theorem agrees_of_orderly_kick :
    Transition.Always (step FileSystem.kick) (fun s => s.Quiet → s.Agrees FileSystem.kick) construct
      selectKick := by
  refine agrees_of_orderly fun s₁ h₁ => ⟨trivial, fun s₂ h₂ => ⟨Or.inr ?_, fun s₃ h₃ =>
    ⟨⟨(), rfl, one_ne_zero, by decide⟩, fun s₄ h₄ => ⟨?_, fun s₅ h₅ => ⟨?_, trivial⟩⟩⟩⟩⟩
  · obtain rfl := Option.some.inj h₁
    exact ⟨_, rfl, rfl⟩
  · intro l _ _ l' hl'
    rw [List.take_zero] at hl'
    cases hl'
  · intro l _ _ l' hl'
    rw [List.take_zero] at hl'
    cases hl'

/-- It is deselected again, in the open editor. -/
def deselectKick : List (Event Unit) :=
  selectKick ++ [.setSelect .network1 false, .load .network1 0, .load .network1 0]

lemma exec_deselectKick :
    ∃ t, Transition.exec (step FileSystem.kick) construct deselectKick = some t ∧
      t.Quiet ∧ (t.network .network1).session = .internal ∧ (t.network .network1).name = "" := by
  refine ⟨_, rfl, ⟨fun k => ?_, fun e he => ?_⟩, rfl, rfl⟩
  · cases k <;> rfl
  · obtain rfl := Option.some.inj he
    rfl

/-- The internal model is loaded again, and the stored name is empty. -/
theorem deselected_name_is_lost :
    ¬ Transition.Always (step FileSystem.kick) (fun s => s.Quiet → s.Agrees FileSystem.kick)
      construct deselectKick := by
  intro h
  obtain ⟨t, ht, hquiet, hsession, hname⟩ := exec_deselectKick
  obtain ⟨-, hfunk, -⟩ := h.last ht hquiet .network1
  rw [hsession, hname] at hfunk
  exact absurd hfunk (by decide)
