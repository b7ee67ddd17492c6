import Mathlib.Data.Nat.Find
import Mathlib.Order.WellFounded
import RtCore.Foundation.Run

/-!
# Infinite runs

In an infinite run of a machine every moment has a label. What the steps of a stretch emit is
collected in order, and a property of the state and of what was emitted is kept from step to step.
A run is fair when every turn comes up again and again; then a machine does not stay where the turn
it is ready for brings it closer to the end.

## Main definitions

* `stateAt` — the state at a moment of the run
* `emitted` — what the steps of a stretch emit
* `Fair` — every turn comes up again and again

## Main results

* `emitted_invariant` — the induction over a stretch
* `exists_exit` — a fair run leaves a set of states in which every step lowers a rank or leaves the
  machine ready for the turn it was ready for
-/

namespace RtCore.Foundation

variable {σ α β τ : Type*}

/-- The state at a moment. -/
def stateAt (step : σ → α → σ) (s : σ) (labels : ℕ → α) : ℕ → σ
  | 0 => s
  | n + 1 => step (stateAt step s labels n) (labels n)

/-- What `count` steps from the moment `start` emit. -/
def emitted (step : σ → α → σ) (emit : σ → α → List β) (s : σ) (labels : ℕ → α) (start : ℕ) :
    ℕ → List β
  | 0 => []
  | count + 1 =>
    emitted step emit s labels start count ++
      emit (stateAt step s labels (start + count)) (labels (start + count))

/-- Every turn comes up after every moment. -/
def Fair (turn : τ → α → Prop) (labels : ℕ → α) : Prop :=
  ∀ t n, ∃ m, n ≤ m ∧ turn t (labels m)

variable {step : σ → α → σ} {emit : σ → α → List β} {s : σ} {labels : ℕ → α}

/-- What every step preserves holds at every moment. -/
theorem stateAt_invariant {I : σ → Prop} (init : I s) (preserved : ∀ s a, I s → I (step s a))
    (n : ℕ) : I (stateAt step s labels n) := by
  induction n with
  | zero => exact init
  | succ n ih => exact preserved _ _ ih

/-- What each step of a stretch keeps, of the state and of all that was emitted, holds at its
end. -/
theorem emitted_invariant {Q : σ → List β → Prop} {start count : ℕ}
    (init : Q (stateAt step s labels start) [])
    (preserved : ∀ n, start ≤ n → n < start + count → ∀ before,
      Q (stateAt step s labels n) before →
        Q (stateAt step s labels (n + 1)) (before ++ emit (stateAt step s labels n) (labels n))) :
    Q (stateAt step s labels (start + count)) (emitted step emit s labels start count) := by
  induction count with
  | zero => exact init
  | succ count ih =>
    have shorter := ih fun n from_start inside => preserved n from_start (by omega)
    exact preserved (start + count) (by omega) (by omega) _ shorter

/-- A fair run does not stay for ever where each step lowers the rank, or keeps it and leaves the
machine ready for the same turn, which the step was not. -/
theorem exists_exit {ρ : Type*} [LinearOrder ρ] [WellFoundedLT ρ] {turn : τ → α → Prop}
    (fair : Fair turn labels) (stay : σ → Prop) (rank : σ → ρ) (ready : σ → τ) {start : ℕ}
    (advances : ∀ n, start ≤ n → stay (stateAt step s labels n) →
      stay (stateAt step s labels (n + 1)) →
        rank (stateAt step s labels (n + 1)) < rank (stateAt step s labels n) ∨
          rank (stateAt step s labels (n + 1)) = rank (stateAt step s labels n) ∧
            ready (stateAt step s labels (n + 1)) = ready (stateAt step s labels n) ∧
            ¬ turn (ready (stateAt step s labels n)) (labels n)) :
    ∃ m, start ≤ m ∧ ¬ stay (stateAt step s labels m) := by
  by_contra never
  have stays (m : ℕ) (later : start ≤ m) : stay (stateAt step s labels m) :=
    by_contra fun outside => never ⟨m, later, outside⟩
  -- There is a lowest rank among the later states; its turn comes up and lowers it.
  obtain ⟨_, ⟨lowest, from_start, rfl⟩, least⟩ := wellFounded_lt.has_min
    {r : ρ | ∃ m, start ≤ m ∧ rank (stateAt step s labels m) = r} ⟨_, start, le_rfl, rfl⟩
  have advances' (wait : ℕ) := advances (lowest + wait) (by omega) (stays _ (by omega))
    (stays _ (by omega))
  have waits (wait : ℕ) :
      rank (stateAt step s labels (lowest + wait)) = rank (stateAt step s labels lowest) ∧
        ready (stateAt step s labels (lowest + wait)) = ready (stateAt step s labels lowest) := by
    induction wait with
    | zero => exact ⟨rfl, rfl⟩
    | succ wait ih =>
      rcases advances' wait with lower | ⟨same, sameReady, -⟩
      · rw [ih.1] at lower
        exact absurd lower (least _ ⟨lowest + wait + 1, by omega, rfl⟩)
      · exact ⟨same.trans ih.1, sameReady.trans ih.2⟩
  obtain ⟨m, later, isTurn⟩ := fair (ready (stateAt step s labels lowest)) lowest
  obtain ⟨wait, rfl⟩ := Nat.exists_eq_add_of_le later
  obtain ⟨same, sameReady⟩ := waits wait
  rcases advances' wait with lower | ⟨-, -, notTurn⟩
  · rw [same] at lower
    exact least _ ⟨lowest + wait + 1, by omega, rfl⟩ lower
  · rw [sameReady] at notTurn
    exact notTurn isTurn

/-- The last moment inside. -/
theorem exists_last_inside (stay : ℕ → Prop) {start : ℕ} (inside : stay start)
    (leaves : ∃ m, start ≤ m ∧ ¬ stay m) :
    ∃ count, (∀ n, start ≤ n → n ≤ start + count → stay n) ∧ ¬ stay (start + count + 1) := by
  classical
  have some_wait : ∃ wait, ¬ stay (start + wait) := by
    obtain ⟨m, later, outside⟩ := leaves
    obtain ⟨wait, rfl⟩ := Nat.exists_eq_add_of_le later
    exact ⟨wait, outside⟩
  obtain ⟨count, isFirst⟩ : ∃ count, Nat.find some_wait = count + 1 := by
    refine Nat.exists_eq_succ_of_ne_zero fun zero => ?_
    have outside := Nat.find_spec some_wait
    rw [zero] at outside
    exact outside inside
  refine ⟨count, fun n from_start until_count => ?_, ?_⟩
  · obtain ⟨wait, rfl⟩ := Nat.exists_eq_add_of_le from_start
    exact not_not.mp (Nat.find_min some_wait (by omega))
  · have outside := Nat.find_spec some_wait
    rwa [isFirst, ← Nat.add_assoc] at outside

end RtCore.Foundation
