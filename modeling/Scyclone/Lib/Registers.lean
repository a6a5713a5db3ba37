import Mathlib.Logic.Function.Basic
import Scyclone.Lib.Transition

set_option relaxedAutoImplicit false
set_option autoImplicit false

/-!
# Registers and their mirror

A state is written through named registers: `put i v s` writes the value `v` to register `i`.
Writes are independent if a write to one register does not depend on, or disturb, what is
written to another. A table next to the state keeps the last value delivered for every
register. The state agrees with the table at a register if delivering the value in the table
again changes nothing.

## Main definitions

* `IndependentWrites` — independent writes.
* `Mirrored`, `Mirrored.deliver`, `Mirrored.InSync` — a state with its table.

## Main results

* `IndependentWrites.prod`, `pi`, `of_view` — independent writes of composed states.
* `Mirrored.inSync_exec` — after a run, the state agrees with the table at the registers it
  agreed at before and at those that a value was delivered for.
-/

/-- Writes to different registers commute and can be told apart; repeating a write changes
nothing. -/
structure IndependentWrites {ι V S : Type} (put : ι → V → S → S) : Prop where
  put_put : ∀ i v s, put i v (put i v s) = put i v s
  put_comm : ∀ {i j}, i ≠ j → ∀ v w s, put i v (put j w s) = put j w (put i v s)
  put_cancel : ∀ {i j}, i ≠ j → ∀ v w s, put j w (put i v s) = put j w s → put i v s = s

namespace IndependentWrites

variable {ι V S T : Type}

/-- A state with a single register. -/
lemma single [DecidableEq ι] (i₀ : ι) {write : V → S → S}
    (h : ∀ v s, write v (write v s) = write v s) :
    IndependentWrites fun i v s => if i = i₀ then write v s else s where
  put_put i v s := by
    split_ifs
    · exact h v s
    · rfl
  put_comm hne v w s := by
    split_ifs with hi hj
    · exact absurd (hi.trans hj.symm) hne
    · rfl
    · rfl
    · rfl
  put_cancel hne v w s hcancel := by
    split_ifs with hi
    · rw [if_pos hi, if_neg fun hj => hne (hi.trans hj.symm)] at hcancel
      rwa [if_neg fun hj => hne (hi.trans hj.symm)] at hcancel
    · rfl

/-- A state of two parts. -/
lemma prod {put : ι → V → S → S} {put' : ι → V → T → T} (h : IndependentWrites put)
    (h' : IndependentWrites put') :
    IndependentWrites fun i v (s : S × T) => (put i v s.1, put' i v s.2) where
  put_put i v s := Prod.ext (h.put_put i v s.1) (h'.put_put i v s.2)
  put_comm hne v w s := Prod.ext (h.put_comm hne v w s.1) (h'.put_comm hne v w s.2)
  put_cancel hne v w s hcancel :=
    Prod.ext (h.put_cancel hne v w s.1 (congrArg Prod.fst hcancel))
      (h'.put_cancel hne v w s.2 (congrArg Prod.snd hcancel))

/-- A state with a part for every index. -/
lemma pi {κ : Type} {put : κ → ι → V → S → S} (h : ∀ k, IndependentWrites (put k)) :
    IndependentWrites fun i v (s : κ → S) k => put k i v (s k) where
  put_put i v s := funext fun k => (h k).put_put i v (s k)
  put_comm hne v w s := funext fun k => (h k).put_comm hne v w (s k)
  put_cancel hne v w s hcancel :=
    funext fun k => (h k).put_cancel hne v w (s k) (congrFun hcancel k)

/-- A state seen as another one. -/
lemma of_view {put : ι → V → S → S} {put' : ι → V → T → T} (h : IndependentWrites put')
    (view : S → T) (hinj : Function.Injective view)
    (hview : ∀ i v s, view (put i v s) = put' i v (view s)) : IndependentWrites put where
  put_put i v s := hinj (by simp only [hview, h.put_put])
  put_comm hne v w s := hinj (by simp only [hview, h.put_comm hne])
  put_cancel hne v w s hcancel := by
    apply hinj
    rw [hview]
    refine h.put_cancel hne v w (view s) ?_
    rw [← hview, ← hview, ← hview, hcancel]

end IndependentWrites

/-! ## The mirror -/

/-- A state and the table of the last values delivered. -/
structure Mirrored (ι V S : Type) where
  table : ι → V
  state : S

namespace Mirrored

variable {ι V S : Type} [DecidableEq ι]

/-- A value is delivered: the table keeps it and the state is written. -/
def deliver (put : ι → V → S → S) (m : Mirrored ι V S) (i : ι) (v : V) : Mirrored ι V S :=
  ⟨Function.update m.table i v, put i v m.state⟩

/-- Delivering the value in the table again changes nothing. -/
def InSync (put : ι → V → S → S) (m : Mirrored ι V S) (i : ι) : Prop :=
  put i (m.table i) m.state = m.state

/-- A delivery brings its own register in sync and leaves the others as they were. -/
lemma inSync_deliver {put : ι → V → S → S} (h : IndependentWrites put) (m : Mirrored ι V S)
    (i j : ι) (v : V) : InSync put (m.deliver put j v) i ↔ i = j ∨ InSync put m i := by
  by_cases hij : i = j
  · rw [hij]
    refine iff_of_true ?_ (Or.inl rfl)
    simp only [InSync, deliver, Function.update_self]
    exact h.put_put j v m.state
  · simp only [InSync, deliver, Function.update_of_ne hij]
    constructor
    · intro hsync
      rw [h.put_comm hij] at hsync
      exact Or.inr (h.put_cancel hij _ _ _ hsync)
    · rintro (heq | hsync)
      · exact absurd heq hij
      · rw [h.put_comm hij, hsync]

/-- **After a run of deliveries** the state agrees with the table at the registers it agreed at
before, and at those that a value was delivered for. -/
theorem inSync_exec {put : ι → V → S → S} (h : IndependentWrites put)
    {step : Mirrored ι V S → ι × V → Option (Mirrored ι V S)}
    (hstep : ∀ m e m', step m e = some m' → m' = m.deliver put e.1 e.2)
    {m t : Mirrored ι V S} {es : List (ι × V)} (hrun : Transition.exec step m es = some t)
    (i : ι) : InSync put t i ↔ i ∈ es.map Prod.fst ∨ InSync put m i := by
  induction es generalizing m with
  | nil =>
    obtain rfl := Option.some.inj hrun
    simp
  | cons e es ih =>
    obtain ⟨m', hm, hrest⟩ := Transition.exec_cons_eq_some.mp hrun
    rw [ih hrest, hstep m e m' hm, inSync_deliver h, List.map_cons, List.mem_cons]
    tauto

end Mirrored
