import Mathlib.Data.List.Chain
import Mathlib.Data.List.Infix

/-!
# Runs of a deterministic machine

A machine is a step function `σ → α → σ`: the label carries every choice its
environment makes. `run` follows a list of labels, `Along` says that every step
of a run meets a condition on the state before it, and `Always` that every state
of a run, the first and the last included, has a property. `Path` follows the moves
of a relation instead.

## Main results

* `run_invariant` — what one step preserves, a run preserves
* `Along.always` — an invariant that needs a condition on its steps holds in
  every state of a run that meets the condition
* `always_iff_along` — where the condition decides, step by step, whether the
  property survives, a run keeps the property exactly when it meets the condition
* `along_iff_along` — the same for two conditions on the steps of a run
-/

namespace RtCore.Foundation

variable {σ α : Type*}

/-- The state a run of `labels` from `s` ends in. -/
def run (step : σ → α → σ) (s : σ) (labels : List α) : σ := labels.foldl step s

/-- Every step of the run meets `cond` in the state before it. -/
def Along (step : σ → α → σ) (cond : σ → α → Prop) : σ → List α → Prop
  | _, [] => True
  | s, a :: labels => cond s a ∧ Along step cond (step s a) labels

/-- Every state of the run has the property `P`. -/
def Always (step : σ → α → σ) (P : σ → Prop) : σ → List α → Prop
  | s, [] => P s
  | s, a :: labels => P s ∧ Always step P (step s a) labels

variable {step : σ → α → σ} {cond : σ → α → Prop} {P I : σ → Prop} {s : σ}

@[simp] theorem run_nil (step : σ → α → σ) (s : σ) : run step s [] = s := rfl

@[simp] theorem run_cons (step : σ → α → σ) (s : σ) (a : α) (labels : List α) :
    run step s (a :: labels) = run step (step s a) labels := rfl

theorem run_append (step : σ → α → σ) (s : σ) (first second : List α) :
    run step s (first ++ second) = run step (run step s first) second :=
  List.foldl_append

@[simp] theorem along_nil : Along step cond s [] := trivial

@[simp] theorem along_cons {a : α} {labels : List α} :
    Along step cond s (a :: labels) ↔ cond s a ∧ Along step cond (step s a) labels :=
  Iff.rfl

instance decidableAlong [∀ s a, Decidable (cond s a)] :
    ∀ (s : σ) (labels : List α), Decidable (Along step cond s labels)
  | _, [] => .isTrue trivial
  | s, a :: labels =>
    have := decidableAlong (step s a) labels
    inferInstanceAs (Decidable (cond s a ∧ Along step cond (step s a) labels))

instance decidableAlways [∀ s, Decidable (P s)] :
    ∀ (s : σ) (labels : List α), Decidable (Always step P s labels)
  | s, [] => inferInstanceAs (Decidable (P s))
  | s, a :: labels =>
    have := decidableAlways (step s a) labels
    inferInstanceAs (Decidable (P s ∧ Always step P (step s a) labels))

theorem Along.and {other : σ → α → Prop} {labels : List α} (along : Along step cond s labels)
    (also : Along step other s labels) :
    Along step (fun s a => cond s a ∧ other s a) s labels := by
  induction labels generalizing s with
  | nil => trivial
  | cons a labels ih => exact ⟨⟨along.1, also.1⟩, ih along.2 also.2⟩

/-- A condition on the labels only. -/
theorem along_of_forall_mem {meets : α → Prop} {labels : List α} (all : ∀ a ∈ labels, meets a) :
    Along step (fun _ a => meets a) s labels := by
  induction labels generalizing s with
  | nil => trivial
  | cons a labels ih =>
    exact ⟨all a List.mem_cons_self, ih fun b member => all b (List.mem_cons_of_mem _ member)⟩

theorem along_append {first second : List α} :
    Along step cond s (first ++ second) ↔
      Along step cond s first ∧ Along step cond (run step s first) second := by
  induction first generalizing s with
  | nil => simp
  | cons a first ih => simp [ih, and_assoc]

theorem Always.head {labels : List α} (always : Always step P s labels) : P s := by
  cases labels with
  | nil => exact always
  | cons a labels => exact always.1

/-- `Always` speaks about the end state of every prefix of the run. -/
theorem always_iff_prefixes {labels : List α} :
    Always step P s labels ↔ ∀ first, first <+: labels → P (run step s first) := by
  induction labels generalizing s with
  | nil =>
    constructor
    · intro always first isPrefix
      rw [List.prefix_nil.mp isPrefix]
      exact always
    · intro all
      exact all [] (List.prefix_refl [])
  | cons a labels ih =>
    constructor
    · rintro ⟨here, later⟩ first isPrefix
      cases first with
      | nil => exact here
      | cons b first =>
        obtain ⟨rfl, rest⟩ := List.cons_prefix_cons.mp isPrefix
        exact ih.mp later first rest
    · intro all
      refine ⟨all [] (List.nil_prefix ..), ih.mpr fun first isPrefix => ?_⟩
      exact all (a :: first) (List.cons_prefix_cons.mpr ⟨rfl, isPrefix⟩)

theorem Always.last {labels : List α} (always : Always step P s labels) :
    P (run step s labels) :=
  always_iff_prefixes.mp always labels (List.prefix_refl labels)

theorem Always.concat {labels : List α} {a : α} (always : Always step P s labels)
    (last : P (step (run step s labels) a)) : Always step P s (labels ++ [a]) := by
  induction labels generalizing s with
  | nil => exact ⟨always, last⟩
  | cons b labels ih => exact ⟨always.1, ih always.2 last⟩

theorem Always.imp {Q : σ → Prop} (implies : ∀ s, P s → Q s) {labels : List α}
    (always : Always step P s labels) : Always step Q s labels := by
  rw [always_iff_prefixes] at always ⊢
  exact fun first isPrefix => implies _ (always first isPrefix)

/-- A conditional invariant holds in every state of a run that meets its condition. -/
theorem Along.always (init : I s) (preserved : ∀ s a, I s → cond s a → I (step s a))
    {labels : List α} (along : Along step cond s labels) : Always step I s labels := by
  induction labels generalizing s with
  | nil => exact init
  | cons a labels ih => exact ⟨init, ih (preserved s a init along.1) along.2⟩

/-- What the state before a step gives, every step of the run has. -/
theorem Always.along (implies : ∀ s a, P s → cond s a) {labels : List α}
    (always : Always step P s labels) : Along step cond s labels := by
  induction labels generalizing s with
  | nil => trivial
  | cons a labels ih => exact ⟨implies s a always.1, ih always.2⟩

/-- What every step preserves holds in every state of every run. -/
theorem always_of_preserved (init : I s) (preserved : ∀ s a, I s → I (step s a))
    (labels : List α) : Always step I s labels := by
  induction labels generalizing s with
  | nil => exact init
  | cons a labels ih => exact ⟨init, ih (preserved s a init)⟩

/-- What every step preserves holds at the end of every run. -/
theorem run_invariant (init : I s) (preserved : ∀ s a, I s → I (step s a))
    (labels : List α) : I (run step s labels) :=
  (always_of_preserved init preserved labels).last

/-- What every step from a state of an invariant meets, every step of a run meets. -/
theorem along_of_preserved (init : I s) (preserved : ∀ s a, I s → I (step s a))
    (holds : ∀ s a, I s → cond s a) (labels : List α) : Along step cond s labels := by
  induction labels generalizing s with
  | nil => exact trivial
  | cons a labels ih => exact ⟨holds s a init, ih (preserved s a init)⟩

/-- Where, among the states of an invariant, the condition decides whether a
step keeps the property, a run keeps the property in all its states exactly when
each of its steps meets the condition. -/
theorem always_iff_along (init : I s) (holds : P s)
    (preserved : ∀ s a, I s → P s → cond s a → I (step s a))
    (decides : ∀ s a, I s → P s → (P (step s a) ↔ cond s a)) {labels : List α} :
    Always step P s labels ↔ Along step cond s labels := by
  induction labels generalizing s with
  | nil => exact iff_of_true holds trivial
  | cons a labels ih =>
    constructor
    · rintro ⟨-, later⟩
      have meets := (decides s a init holds).mp later.head
      exact ⟨meets, (ih (preserved s a init holds meets) later.head).mp later⟩
    · rintro ⟨meets, later⟩
      have next := (decides s a init holds).mpr meets
      exact ⟨holds, (ih (preserved s a init holds meets) next).mpr later⟩

/-- Two conditions that agree among the states of an invariant, which the second
keeps, are met by the same runs. -/
theorem along_iff_along {other : σ → α → Prop} (init : I s)
    (preserved : ∀ s a, I s → cond s a → I (step s a))
    (agree : ∀ s a, I s → (other s a ↔ cond s a)) {labels : List α} :
    Along step other s labels ↔ Along step cond s labels := by
  induction labels generalizing s with
  | nil => exact Iff.rfl
  | cons a labels ih =>
    refine (and_congr_left' (agree s a init)).trans (and_congr_right fun meets => ?_)
    exact ih (preserved s a init meets)

/-! ### Labelled moves -/

/-- Moves of a relation one after another, with their labels. -/
inductive Path (move : σ → α → σ → Prop) : σ → List α → σ → Prop
  | nil {s : σ} : Path move s [] s
  | cons {s t u : σ} {a : α} {labels : List α} (first : move s a t)
      (later : Path move t labels u) : Path move s (a :: labels) u

variable {move : σ → α → σ → Prop} {t u : σ}

theorem Path.single {a : α} (first : move s a t) : Path move s [a] t := .cons first .nil

theorem Path.append {first second : List α} (start : Path move s first t)
    (rest : Path move t second u) : Path move s (first ++ second) u := by
  induction start with
  | nil => exact rest
  | cons head _ ih => exact .cons head (ih rest)

/-! ### Timed runs -/

/-- Consecutive times are at most `timeout` apart. -/
def GapsWithin (timeout : ℤ) (times : List ℤ) : Prop :=
  times.IsChain fun earlier later => later - earlier ≤ timeout

instance (timeout : ℤ) (times : List ℤ) : Decidable (GapsWithin timeout times) :=
  inferInstanceAs (Decidable (List.IsChain _ _))

end RtCore.Foundation
