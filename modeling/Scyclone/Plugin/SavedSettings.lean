import Mathlib.Data.List.Basic
import Scyclone.Juce.Value

set_option relaxedAutoImplicit false
set_option autoImplicit false

/-!
# Saving the settings that are not parameters

`AudioPluginAudioProcessor` keeps three values that are not parameters. They are saved with the
child `Settings` of the state of the parameters, and refer to its properties once a state was
restored.

## Main definitions

* `SettingsProperty`, `createNotAutomatableParameterLayout` — the properties and their defaults.
* `SettingsProcessor` with `construct`, `getStateInformation` and `setStateInformation`.
* `SettingsProcessor.Event`, `SettingsProcessor.step` — what happens to an instance.
* `SettingsProcessor.Linked`, `SettingsProcessor.Detached` — what the values refer to.

## Main results

* `SettingsProcessor.WellFormed.step` — one step.
* `SettingsProcessor.WellFormed.read_setStateInformation` — what an instance holds after a restore.
* `settings_survive_iff` — the round trip succeeds exactly if a state was restored before, or the
  values are the defaults.
-/

/-- The properties of the child `Settings`. -/
inductive SettingsProperty
  | advancedParameterControlVisible
  | network1Name
  | network2Name
  deriving DecidableEq, Repr

/-- What a property is read as. -/
abbrev SettingsProperty.Content : SettingsProperty → Type
  | advancedParameterControlVisible => Bool
  | network1Name => String
  | network2Name => String

/-- What a void value is read as. -/
def SettingsProperty.void : (p : SettingsProperty) → p.Content
  | advancedParameterControlVisible => false
  | network1Name => ""
  | network2Name => ""

/-- The properties of a child `Settings`. -/
abbrev SettingsProperties := (p : SettingsProperty) → Option p.Content

/-- `createNotAutomatableParameterLayout`. -/
def createNotAutomatableParameterLayout : SettingsProperties
  | .advancedParameterControlVisible => some false
  | .network1Name => some "Funk"
  | .network2Name => some "Djembe"

/-- A saved state: its tag, and its child `Settings` if it has one. -/
structure XmlState where
  tag : String
  settings : Option SettingsProperties

/-- The part of `AudioPluginAudioProcessor` that holds the three values. -/
structure SettingsProcessor where
  trees : TreeStore SettingsProperty SettingsProperty.Content
  /-- `parameters.state.getType ()`. -/
  type : String
  /-- `parameters.state.getChildWithName ("Settings")`. -/
  settings : Option ℕ
  value : (p : SettingsProperty) → Value SettingsProperty SettingsProperty.Content p

namespace SettingsProcessor

/-! ## Saving and restoring -/

/-- `AudioPluginAudioProcessor()`: the names are set, and the layout is added to the state. -/
def construct : SettingsProcessor where
  trees := ⟨fun _ => createNotAutomatableParameterLayout, 1⟩
  type := "Scyclone"
  settings := some 0
  value
    | .advancedParameterControlVisible => .own none
    | .network1Name => .own (some "Funk")
    | .network2Name => .own (some "Djembe")

/-- What a value is read as. -/
def read (s : SettingsProcessor) (p : SettingsProperty) : p.Content :=
  ((s.value p).getValue s.trees).getD p.void

/-- A value is assigned, as the callbacks of the editor do. -/
def write (s : SettingsProcessor) (p : SettingsProperty) (newValue : p.Content) :
    SettingsProcessor :=
  let set := (s.value p).setValue s.trees newValue
  { s with trees := set.1, value := Function.update s.value p set.2 }

/-- Assignments one after the other. -/
def writes (s : SettingsProcessor) (ws : List ((p : SettingsProperty) × p.Content)) :
    SettingsProcessor :=
  ws.foldl (fun s w => s.write w.1 w.2) s

/-- `getStateInformation`: a copy of the state. -/
def getStateInformation (s : SettingsProcessor) : XmlState where
  tag := s.type
  settings := s.settings.map s.trees.properties

/-- `parameters.replaceState (ValueTree::fromXml (xmlState))`. -/
def replaceState (s : SettingsProcessor) (xmlState : XmlState) : SettingsProcessor :=
  match xmlState.settings with
  | none => { s with type := xmlState.tag, settings := none }
  | some properties =>
    { s with
      trees := s.trees.create properties
      type := xmlState.tag
      settings := some s.trees.size }

/-- `setStateInformation`, for data without a state or with one. While the state is replaced, the
listeners of its parameters may assign values. -/
def setStateInformation (s : SettingsProcessor) (data : Option XmlState)
    (assigned : List ((p : SettingsProperty) × p.Content)) : SettingsProcessor :=
  match data with
  | none => s
  | some xmlState =>
    if xmlState.tag = s.type then
      let s := (s.replaceState xmlState).writes assigned
      { s with value := fun _ => .property s.settings }
    else s

/-- What happens to an instance. -/
inductive Event
  | write (p : SettingsProperty) (newValue : p.Content)
  | getStateInformation
  | setStateInformation (data : Option XmlState)
      (assigned : List ((p : SettingsProperty) × p.Content))

/-- One step. -/
def step (s : SettingsProcessor) : Event → SettingsProcessor
  | .write p newValue => s.write p newValue
  | .getStateInformation => s
  | .setStateInformation data assigned => s.setStateInformation data assigned

/-- A state of the plugin is restored. -/
def Event.Restores : Event → Prop
  | .setStateInformation (some xmlState) _ => xmlState.tag = "Scyclone"
  | _ => False

/-- A run of a fresh instance. -/
def run (es : List Event) : SettingsProcessor := es.foldl step construct

/-! ## Assignments -/

@[simp] lemma write_type (s : SettingsProcessor) (p : SettingsProperty) (v : p.Content) :
    (s.write p v).type = s.type := rfl

@[simp] lemma write_settings (s : SettingsProcessor) (p : SettingsProperty) (v : p.Content) :
    (s.write p v).settings = s.settings := rfl

@[simp] lemma write_size (s : SettingsProcessor) (p : SettingsProperty) (v : p.Content) :
    (s.write p v).trees.size = s.trees.size := by
  unfold write
  cases s.value p with
  | own _ => rfl
  | property tree => exact s.trees.setProperty_size tree p v

/-- An assignment goes where the value refers to, and does not change what any value refers to. -/
lemma write_value_eq_property (s : SettingsProcessor) (p : SettingsProperty) (v : p.Content)
    (q : SettingsProperty) (tree : Option ℕ) :
    (s.write p v).value q = .property tree ↔ s.value q = .property tree := by
  show Function.update s.value p ((s.value p).setValue s.trees v).2 q = _ ↔ _
  by_cases hq : q = p
  · subst hq
    rw [Function.update_self]
    cases s.value q with
    | own _ => exact ⟨fun h => (by cases h), fun h => (by cases h)⟩
    | property _ => exact Iff.rfl
  · rw [Function.update_of_ne hq]

/-- A tree that no value refers to is left alone by an assignment. -/
lemma write_properties (s : SettingsProcessor) {t : ℕ}
    (h : ∀ q, s.value q ≠ .property (some t)) (p : SettingsProperty) (v : p.Content) :
    (s.write p v).trees.properties t = s.trees.properties t := by
  show ((s.value p).setValue s.trees v).1.properties t = _
  cases hp : s.value p with
  | own _ => rfl
  | property tree =>
    refine s.trees.properties_setProperty_of_ne (fun htree => h p ?_) p v
    rw [hp, htree]

/-- **The frame of assignments**: the state stays, the values refer to what they did, and a tree
that none of them refers to is left alone. -/
lemma writes_frame (s : SettingsProcessor) (ws : List ((p : SettingsProperty) × p.Content)) :
    (s.writes ws).type = s.type ∧ (s.writes ws).settings = s.settings ∧
      (s.writes ws).trees.size = s.trees.size ∧
      (∀ q tree, (s.writes ws).value q = .property tree ↔ s.value q = .property tree) ∧
      ∀ t, (∀ q, s.value q ≠ .property (some t)) →
        (s.writes ws).trees.properties t = s.trees.properties t := by
  induction ws generalizing s with
  | nil => exact ⟨rfl, rfl, rfl, fun _ _ => Iff.rfl, fun _ _ => rfl⟩
  | cons w ws ih =>
    obtain ⟨htype, hsettings, hsize, hvalue, htree⟩ := ih (s.write w.1 w.2)
    refine ⟨htype, hsettings, ?_, fun q tree => ?_, fun t ht => ?_⟩
    · exact hsize.trans (s.write_size w.1 w.2)
    · exact (hvalue q tree).trans (s.write_value_eq_property w.1 w.2 q tree)
    · have ht' : ∀ q, (s.write w.1 w.2).value q ≠ .property (some t) := fun q hq =>
        ht q ((s.write_value_eq_property w.1 w.2 q (some t)).mp hq)
      exact (htree t ht').trans (s.write_properties ht w.1 w.2)

/-! ## What the values refer to -/

/-- In every reachable state: the type is that of the plugin, and trees that do not exist yet are
not referred to. -/
structure WellFormed (s : SettingsProcessor) : Prop where
  type : s.type = "Scyclone"
  value : ∀ p t, s.value p = .property (some t) → t < s.trees.size

/-- The values refer to the properties of the state. -/
def Linked (s : SettingsProcessor) : Prop := ∀ p, s.value p = .property s.settings

/-- The values are variables of their own, and the state has the child it was given. -/
structure Detached (s : SettingsProcessor) : Prop where
  settings : s.settings = some 0
  properties : s.trees.properties 0 = createNotAutomatableParameterLayout
  value : ∀ p tree, s.value p ≠ .property tree

lemma wellFormed_construct : construct.WellFormed where
  type := rfl
  value p t h := by cases p <;> cases h

lemma detached_construct : construct.Detached where
  settings := rfl
  properties := rfl
  value p tree h := by cases p <;> cases h

/-- The state after a restore: the values refer to a new child that the assignments have not
reached.

**Proof sketch.** The state is replaced first, with a new child where it has properties, and the
assignments go to trees that the values referred to before, so the new child keeps its properties.
-/
lemma WellFormed.setStateInformation {s : SettingsProcessor} (h : s.WellFormed)
    {xmlState : XmlState} (htag : xmlState.tag = "Scyclone")
    (assigned : List ((p : SettingsProperty) × p.Content)) :
    (s.setStateInformation (some xmlState) assigned).WellFormed ∧
      (s.setStateInformation (some xmlState) assigned).Linked ∧
      (s.setStateInformation (some xmlState) assigned).getStateInformation = xmlState := by
  obtain ⟨htype, hsettings, hsize, -, htree⟩ := (s.replaceState xmlState).writes_frame assigned
  have haccepted : s.setStateInformation (some xmlState) assigned =
      { (s.replaceState xmlState).writes assigned with
        value := fun _ => .property ((s.replaceState xmlState).writes assigned).settings } := by
    rw [SettingsProcessor.setStateInformation, if_pos (htag.trans h.type.symm)]
  rw [haccepted]
  cases hchild : xmlState.settings with
  | none =>
    have hnone : ((s.replaceState xmlState).writes assigned).settings = none := by
      rw [hsettings, replaceState, hchild]
    have htag' : ((s.replaceState xmlState).writes assigned).type = xmlState.tag := by
      rw [htype, replaceState, hchild]
    refine ⟨⟨htag'.trans htag, fun p t ht => ?_⟩, fun _ => rfl, ?_⟩
    · rw [hnone] at ht
      cases ht
    · simp only [getStateInformation, hnone, htag', Option.map_none, ← hchild]
  | some properties =>
    have hsome : ((s.replaceState xmlState).writes assigned).settings = some s.trees.size := by
      rw [hsettings, replaceState, hchild]
    have htag' : ((s.replaceState xmlState).writes assigned).type = xmlState.tag := by
      rw [htype, replaceState, hchild]
    have hsize' : ((s.replaceState xmlState).writes assigned).trees.size = s.trees.size + 1 := by
      rw [hsize, replaceState, hchild]
      rfl
    have hnew : ((s.replaceState xmlState).writes assigned).trees.properties s.trees.size =
        properties := by
      rw [htree s.trees.size fun q hq => ?_, replaceState, hchild]
      · exact s.trees.properties_create properties
      · rw [replaceState, hchild] at hq
        exact absurd (h.value q _ hq) (Nat.lt_irrefl _)
    refine ⟨⟨htag'.trans htag, fun p t ht => ?_⟩, fun _ => rfl, ?_⟩
    · rw [hsome] at ht
      obtain rfl : s.trees.size = t := by
        injection ht with ht
        exact Option.some.inj ht
      show s.trees.size < _
      rw [hsize']
      exact Nat.lt_succ_self _
    · simp only [getStateInformation, hsome, htag', Option.map_some, hnew, ← hchild]

/-- A write keeps the values linked. -/
lemma Linked.write {s : SettingsProcessor} (h : s.Linked) (p : SettingsProperty) (v : p.Content) :
    (s.write p v).Linked := fun q => (s.write_value_eq_property p v q _).mpr (h q)

lemma WellFormed.write {s : SettingsProcessor} (h : s.WellFormed) (p : SettingsProperty)
    (v : p.Content) : (s.write p v).WellFormed where
  type := h.type
  value q t hq := by
    rw [s.write_size p v]
    exact h.value q t ((s.write_value_eq_property p v q _).mp hq)

lemma Detached.write {s : SettingsProcessor} (h : s.Detached) (p : SettingsProperty)
    (v : p.Content) : (s.write p v).Detached where
  settings := h.settings
  properties := (s.write_properties (fun q => h.value q _) p v).trans h.properties
  value q tree hq := h.value q tree ((s.write_value_eq_property p v q tree).mp hq)

/-- Data that is no state of the plugin is ignored. -/
lemma WellFormed.step_of_not_restores {s : SettingsProcessor} (h : s.WellFormed)
    {data : Option XmlState} {assigned : List ((p : SettingsProperty) × p.Content)}
    (he : ¬ (Event.setStateInformation data assigned).Restores) :
    s.setStateInformation data assigned = s := by
  cases data with
  | none => rfl
  | some xmlState => exact if_neg fun htag => he (htag.trans h.type)

/-- **One step** of a well-formed instance: it links the values if a state is restored, and keeps
what they refer to otherwise.

**Proof sketch.** By the event: a write keeps links and what is detached, saving changes nothing,
and a state either is restored or leaves the instance alone. -/
lemma WellFormed.step {s : SettingsProcessor} (h : s.WellFormed) (e : Event) :
    (s.step e).WellFormed ∧ (e.Restores ∨ s.Linked → (s.step e).Linked) ∧
      (¬ e.Restores → s.Detached → (s.step e).Detached) := by
  cases e with
  | write p v =>
    refine ⟨h.write p v, ?_, fun _ hd => hd.write p v⟩
    rintro (hrestores | hl)
    · exact hrestores.elim
    · exact hl.write p v
  | getStateInformation =>
    refine ⟨h, ?_, fun _ hd => hd⟩
    rintro (hrestores | hl)
    · exact hrestores.elim
    · exact hl
  | setStateInformation data assigned =>
    by_cases hrestores : (Event.setStateInformation data assigned).Restores
    · cases data with
      | none => exact hrestores.elim
      | some xmlState =>
        obtain ⟨hwell, hlinked, -⟩ := h.setStateInformation hrestores assigned
        exact ⟨hwell, fun _ => hlinked, fun hnot => absurd hrestores hnot⟩
    · have hsame : s.step (.setStateInformation data assigned) = s :=
        h.step_of_not_restores hrestores
      rw [hsame]
      refine ⟨h, ?_, fun _ hd => hd⟩
      rintro (hyes | hl)
      · exact absurd hyes hrestores
      · exact hl

/-! ## Runs -/

/-- **A run** links the values exactly if a state is restored in it. -/
lemma WellFormed.foldl {s : SettingsProcessor} (h : s.WellFormed) (es : List Event) :
    (es.foldl SettingsProcessor.step s).WellFormed ∧
      ((∃ e ∈ es, e.Restores) ∨ s.Linked → (es.foldl SettingsProcessor.step s).Linked) ∧
      ((¬ ∃ e ∈ es, e.Restores) → s.Detached → (es.foldl SettingsProcessor.step s).Detached) := by
  induction es generalizing s with
  | nil => simpa using h
  | cons e es ih =>
    obtain ⟨hwell, hlink, hdetach⟩ := h.step e
    obtain ⟨hwell', hlink', hdetach'⟩ := ih hwell
    refine ⟨hwell', fun hes => hlink' ?_, fun hnone hd => hdetach' ?_ ?_⟩
    · rw [List.exists_mem_cons_iff] at hes
      rcases hes with (he | hes) | hl
      · exact Or.inr (hlink (Or.inl he))
      · exact Or.inl hes
      · exact Or.inr (hlink (Or.inr hl))
    · exact fun ⟨e', he', hr⟩ => hnone ⟨e', List.mem_cons_of_mem e he', hr⟩
    · exact hdetach (fun he => hnone ⟨e, List.mem_cons_self, he⟩) hd

/-- What linked values are read as. -/
lemma Linked.read {s : SettingsProcessor} (h : s.Linked) (p : SettingsProperty) :
    s.read p = ((s.getStateInformation.settings.bind fun t => t p).getD p.void) := by
  unfold SettingsProcessor.read
  rw [h p]
  cases hs : s.settings <;> simp [Value.getValue, TreeStore.getProperty, getStateInformation, hs]

/-- **What an instance holds after a restore** is what was saved. -/
lemma WellFormed.read_setStateInformation {s : SettingsProcessor} (h : s.WellFormed)
    {xmlState : XmlState} (htag : xmlState.tag = "Scyclone")
    (assigned : List ((p : SettingsProperty) × p.Content)) (p : SettingsProperty) :
    (s.setStateInformation (some xmlState) assigned).read p =
      (xmlState.settings.bind fun t => t p).getD p.void := by
  obtain ⟨-, hlinked, hsaved⟩ := h.setStateInformation htag assigned
  rw [hlinked.read, hsaved]

end SettingsProcessor

open SettingsProcessor in
/-- **The settings survive a save and a restore** exactly if the instance that is saved has
restored a state before, or holds the defaults.

**Proof sketch.** The first restore links the values to the state that is saved, and every later
one links them to the state that replaces it. Before that the child `Settings` of the state is as
it was made. -/
theorem settings_survive_iff (es es' : List Event)
    (assigned : List ((p : SettingsProperty) × p.Content)) :
    (∀ p, ((run es').setStateInformation (some (run es).getStateInformation) assigned).read p =
        (run es).read p) ↔
      (∃ e ∈ es, e.Restores) ∨ ∀ p, (run es).read p = construct.read p := by
  obtain ⟨hwell, hlink, hdetach⟩ := wellFormed_construct.foldl es
  obtain ⟨hwell', -, -⟩ := wellFormed_construct.foldl es'
  have hread : ∀ p, ((run es').setStateInformation (some (run es).getStateInformation)
      assigned).read p = ((run es).getStateInformation.settings.bind fun t => t p).getD p.void :=
    fun p => hwell'.read_setStateInformation hwell.type assigned p
  simp only [hread]
  by_cases hes : ∃ e ∈ es, e.Restores
  · refine iff_of_true (fun p => ?_) (Or.inl hes)
    exact ((hlink (Or.inl hes)).read p).symm
  · have hd := hdetach hes detached_construct
    have hsaved : ∀ p : SettingsProperty,
        ((run es).getStateInformation.settings.bind fun t => t p).getD p.void =
          construct.read p := by
      intro p
      simp only [run, getStateInformation, hd.settings, Option.map_some, hd.properties,
        Option.bind_some]
      cases p <;> rfl
    simp only [hsaved, hes, false_or]
    exact forall_congr' fun p => eq_comm

open SettingsProcessor in
/-- The view of the advanced parameters is opened in a fresh instance, and its state is restored in
another one. -/
theorem opened_view_is_lost :
    ¬ ∀ p, ((run []).setStateInformation
        (some (run [.write .advancedParameterControlVisible true]).getStateInformation) []).read p =
      (run [.write .advancedParameterControlVisible true]).read p := by
  intro h
  exact Bool.noConfusion (h .advancedParameterControlVisible)
