import Mathlib.Data.Nat.Basic
import Mathlib.Tactic.Ring

set_option relaxedAutoImplicit false
set_option autoImplicit false

/-!
# A server of batches

Work arrives in portions of one size. A server takes a batch of it at the arrival that finds it
idle and completes the batch, and is busy with it for a number of arrivals that is bounded but
not fixed. A server that has fallen behind, for whatever reason, catches up: the work that waits
and the batch in service together lose a portion with every arrival, until an arrival can again
be sure that the batch it completes is taken at once.

## Main definitions

* `BatchServer`, `BatchServer.step` — the server and its steps.
* `BatchServer.Prompt` — no arrival finds a batch that was taken more than `c` arrivals before.
* `BatchServer.CaughtUp` — what waits arrived after the batch in service, if there is one, and
  is less than a batch, if there is none.
* `BatchServer.potential` — what waits, together with what a batch in service may still cost.

## Main results

* `BatchServer.caughtUp_step` — a prompt server that has caught up keeps up.
* `BatchServer.potential_step` — the potential of one that has not caught up does not rise.
* `BatchServer.CatchingUp.caughtUp` — it has caught up after as many arrivals as there were
  portions waiting, and `c` more.
-/

/-- The server. -/
@[ext] structure BatchServer where
  /-- The work that has arrived and has not been taken. -/
  backlog : ℕ
  /-- The number of arrivals so far. -/
  arrivals : ℕ
  /-- The arrival that the batch in service was taken at, if there is one. -/
  started : Option ℕ
  deriving DecidableEq, Repr

namespace BatchServer

/-- What can happen to the server. -/
inductive Event
  /-- A portion arrives. An idle server takes a batch if there is one. -/
  | arrive
  /-- The batch in service is done. -/
  | finish
  deriving DecidableEq, Repr

variable {size batch c : ℕ} {s s' : BatchServer}

/-- One step. -/
def step (size batch : ℕ) (s : BatchServer) : Event → Option BatchServer
  | .arrive =>
    if s.started = none ∧ batch ≤ s.backlog + size then
      some ⟨s.backlog + size - batch, s.arrivals + 1, some s.arrivals⟩
    else some ⟨s.backlog + size, s.arrivals + 1, s.started⟩
  | .finish => if s.started = none then none else some { s with started := none }

/-- An arrival finds the server idle or with a batch that was taken at most `c` arrivals before. -/
def Prompt (c : ℕ) (s : BatchServer) (e : Event) : Prop :=
  e = .arrive → ∀ n ∈ s.started, s.arrivals ≤ n + c

/-- The batch in service was taken at an arrival of the past, at most `c` before the last one. -/
def InTime (c : ℕ) (s : BatchServer) : Prop :=
  ∀ n ∈ s.started, n < s.arrivals ∧ s.arrivals ≤ n + c + 1

/-- What waits has arrived since the batch in service was taken, the arrival that completed this
batch included; and an idle server has no batch waiting. -/
def CaughtUp (size batch : ℕ) (s : BatchServer) : Prop :=
  match s.started with
  | none => s.backlog < batch
  | some n => s.backlog < (s.arrivals - n) * size

/-- The arrivals, up to the one after the `c`-th, that the batch in service may still see. -/
def slack (c : ℕ) (s : BatchServer) : ℕ :=
  match s.started with
  | none => 0
  | some n => n + c + 1 - s.arrivals

/-- What waits and all that has arrived, with two portions for every arrival that the batch in
service may still see. -/
def potential (size c : ℕ) (s : BatchServer) : ℕ :=
  s.backlog + s.arrivals * size + 2 * (s.slack c * size)

/-! ## One step -/

/-- An arrival that an idle server takes a batch at. -/
lemma step_arrive_of_taken (h : s.started = none) (hb : batch ≤ s.backlog + size) :
    s.step size batch .arrive =
      some ⟨s.backlog + size - batch, s.arrivals + 1, some s.arrivals⟩ := if_pos ⟨h, hb⟩

/-- An arrival that only adds to what waits. -/
lemma step_arrive_of_waiting (h : ¬ (s.started = none ∧ batch ≤ s.backlog + size)) :
    s.step size batch .arrive = some ⟨s.backlog + size, s.arrivals + 1, s.started⟩ := if_neg h

/-- All that an arrival can do. -/
lemma step_arrive (h : s.step size batch .arrive = some s') :
    (s.started = none ∧ batch ≤ s.backlog + size ∧
        s' = ⟨s.backlog + size - batch, s.arrivals + 1, some s.arrivals⟩) ∨
      ((s.started = none → s.backlog + size < batch) ∧
        s' = ⟨s.backlog + size, s.arrivals + 1, s.started⟩) := by
  by_cases ht : s.started = none ∧ batch ≤ s.backlog + size
  · rw [step_arrive_of_taken ht.1 ht.2, Option.some.injEq] at h
    exact Or.inl ⟨ht.1, ht.2, h.symm⟩
  · rw [step_arrive_of_waiting ht, Option.some.injEq] at h
    refine Or.inr ⟨fun hn => ?_, h.symm⟩
    exact Nat.not_le.mp fun hb => ht ⟨hn, hb⟩

/-- All that the end of a batch can do. -/
lemma step_finish (h : s.step size batch .finish = some s') :
    ∃ n, s.started = some n ∧ s' = { s with started := none } := by
  unfold step at h
  cases hn : s.started with
  | none => simp [hn] at h
  | some n =>
    refine ⟨n, rfl, ?_⟩
    simpa [hn, eq_comm] using h

/-- Every step of a prompt server leaves it in time. -/
lemma InTime.step (h : s.InTime c) {e : Event} (hprompt : s.Prompt c e)
    (hs : s.step size batch e = some s') : s'.InTime c := by
  cases e with
  | arrive =>
    obtain ⟨-, -, rfl⟩ | ⟨-, rfl⟩ := step_arrive hs
    · intro n hn
      obtain rfl := Option.some.inj hn
      exact ⟨Nat.lt_succ_self _, by dsimp only; omega⟩
    · exact fun n hn => ⟨Nat.lt_succ_of_lt (h n hn).1, Nat.succ_le_succ (hprompt rfl n hn)⟩
  | finish =>
    obtain ⟨n, -, rfl⟩ := step_finish hs
    exact fun _ hm => nomatch hm

/-- **A prompt server that has caught up keeps up.**

**Proof sketch.** Where a batch is taken, what is left is less than the portion that has just
arrived; a portion that waits is one more arrival since the batch was taken. A prompt server
finishes within so many arrivals that a batch is not full again. -/
theorem caughtUp_step (hmargin : (c + 1) * size ≤ batch) (htime : s.InTime c)
    (h : s.CaughtUp size batch) {e : Event} (hs : s.step size batch e = some s') :
    s'.CaughtUp size batch := by
  cases e with
  | arrive =>
    obtain ⟨hn, hb, rfl⟩ | ⟨hn, rfl⟩ := step_arrive hs
    · -- what is left is less than the portion that has just arrived
      have hwait : s.backlog < batch := by simpa [CaughtUp, hn] using h
      simp only [CaughtUp, Nat.add_sub_cancel_left, Nat.one_mul]
      omega
    · cases hstart : s.started with
      | none =>
        rw [hstart] at hn
        exact hn rfl
      | some n =>
        have hwait : s.backlog < (s.arrivals - n) * size := by simpa [CaughtUp, hstart] using h
        have hpast := (htime n hstart).1
        have hsucc : s.arrivals + 1 - n = (s.arrivals - n) + 1 := by omega
        simp only [CaughtUp, hsucc, Nat.succ_mul]
        omega
  | finish =>
    obtain ⟨n, hstart, rfl⟩ := step_finish hs
    have hwait : s.backlog < (s.arrivals - n) * size := by simpa [CaughtUp, hstart] using h
    have hfew : s.arrivals - n ≤ c + 1 := by
      have := (htime n hstart).2
      omega
    exact Nat.lt_of_lt_of_le hwait ((Nat.mul_le_mul_right _ hfew).trans hmargin)

/-- **The potential of a server that has not caught up does not rise.**

**Proof sketch.** An arrival at a busy server brings a portion and counts one itself, and the batch
in service has one arrival less to see. An arrival at an idle server takes a batch, which is at
least the two portions of each of the `c` arrivals that the batch may see and of this one. The
end of a batch gives up the arrivals it had left. -/
theorem potential_step (hmargin : 2 * ((c + 1) * size) ≤ batch) (h : ¬ s.CaughtUp size batch)
    {e : Event} (hprompt : s.Prompt c e) (hs : s.step size batch e = some s') :
    s'.potential size c ≤ s.potential size c := by
  cases e with
  | arrive =>
    obtain ⟨hn, hb, rfl⟩ | ⟨hn, rfl⟩ := step_arrive hs
    · have hslack : s.arrivals + c + 1 - (s.arrivals + 1) = c := by omega
      have htwo : 2 * ((c + 1) * size) = 2 * (c * size) + 2 * size := by ring
      simp only [potential, slack, hn, hslack, Nat.succ_mul]
      omega
    · cases hstart : s.started with
      | none =>
        refine absurd ?_ h
        have := hn hstart
        simp only [CaughtUp, hstart]
        omega
      | some n =>
        obtain ⟨d, hd⟩ := Nat.exists_eq_add_of_le (hprompt rfl n hstart)
        have hbefore : n + c + 1 - s.arrivals = d + 1 := by omega
        have hafter : n + c + 1 - (s.arrivals + 1) = d := by omega
        simp only [potential, slack, hstart, hbefore, hafter, Nat.succ_mul]
        omega
  | finish =>
    obtain ⟨n, hstart, rfl⟩ := step_finish hs
    simp only [potential, slack, hstart, Nat.zero_mul]
    omega

/-! ## Catching up -/

/-- The server has caught up, or its potential is still at most `bound`. -/
def CatchingUp (size batch c bound : ℕ) (s : BatchServer) : Prop :=
  s.CaughtUp size batch ∨ s.potential size c ≤ bound

/-- **Every step of a prompt server keeps it catching up.** -/
theorem CatchingUp.step {bound : ℕ} (hmargin : 2 * ((c + 1) * size) ≤ batch)
    (htime : s.InTime c) (h : s.CatchingUp size batch c bound) {e : Event}
    (hprompt : s.Prompt c e) (hs : s.step size batch e = some s') :
    s'.CatchingUp size batch c bound := by
  by_cases hc : s.CaughtUp size batch
  · exact Or.inl (caughtUp_step (by omega) htime hc hs)
  · exact Or.inr ((potential_step hmargin hc hprompt hs).trans (h.resolve_left hc))

/-- The potential at the outset. -/
lemma potential_le (htime : s.InTime c) :
    s.potential size c ≤ s.backlog + (s.arrivals + 2 * c) * size := by
  have hslack : s.slack c ≤ c := by
    unfold slack
    cases hstart : s.started with
    | none => exact Nat.zero_le _
    | some n =>
      have := (htime n hstart).1
      dsimp only
      omega
  have hmul := Nat.mul_le_mul_right size hslack
  have hsplit : (s.arrivals + 2 * c) * size = s.arrivals * size + 2 * (c * size) := by ring
  unfold potential
  omega

/-- The potential of a server that has not caught up is at least what has arrived, and `c + 1`
portions more. -/
lemma le_potential (hmargin : (c + 1) * size ≤ batch) (h : ¬ s.CaughtUp size batch) :
    (s.arrivals + c + 1) * size ≤ s.potential size c := by
  have hsplit : (s.arrivals + c + 1) * size = s.arrivals * size + (c + 1) * size := by ring
  unfold potential slack
  unfold CaughtUp at h
  cases hstart : s.started with
  | none =>
    rw [hstart] at h
    dsimp only at h ⊢
    omega
  | some n =>
    rw [hstart] at h
    dsimp only at h ⊢
    have hsum : c + 1 ≤ (s.arrivals - n) + 2 * (n + c + 1 - s.arrivals) := by omega
    have hmul := Nat.mul_le_mul_right size hsum
    rw [Nat.add_mul (s.arrivals - n), Nat.mul_assoc] at hmul
    omega

/-- **A prompt server has caught up after as many arrivals as there were portions waiting**, and
`c` more. -/
theorem CatchingUp.caughtUp {s₀ : BatchServer} (hmargin : 2 * ((c + 1) * size) ≤ batch)
    (htime : s₀.InTime c) (h : s.CatchingUp size batch c (s₀.potential size c))
    (hlate : s₀.backlog + (s₀.arrivals + c) * size < (s.arrivals + 1) * size) :
    s.CaughtUp size batch := by
  by_contra hc
  have hle := (le_potential (by omega) hc).trans ((h.resolve_left hc).trans (potential_le htime))
  have hleft : (s.arrivals + c + 1) * size = (s.arrivals + 1) * size + c * size := by ring
  have hright : (s₀.arrivals + 2 * c) * size = (s₀.arrivals + c) * size + c * size := by ring
  omega

end BatchServer
