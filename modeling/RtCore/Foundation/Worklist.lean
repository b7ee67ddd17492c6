import Mathlib.Algebra.BigOperators.Group.Finset.Basic
import Mathlib.Algebra.Order.BigOperators.Group.Finset
import Mathlib.Logic.Relation

/-!
# Closing a set under successors with a worklist

The elements a relation leads to are gathered with a stack: the top element is taken
off, and unless it was reached before, it is marked as reached and its successors are
pushed. `reachLoop` takes the turns it may make as an argument; `workLeft` bounds the
turns it needs.

## Main results

* `mem_reachLoop_iff` — with enough turns, the elements reached are those the pending
  ones lead to
-/

namespace RtCore.Foundation

variable {α : Type*} [DecidableEq α] {successors : α → List α}

/-- The loop, with the elements reached so far and the stack of those pending. -/
def reachLoop (successors : α → List α) : ℕ → List α → List α → List α
  | 0, reached, _ => reached
  | _ + 1, reached, [] => reached
  | turns + 1, reached, a :: pending =>
    if a ∈ reached then reachLoop successors turns reached pending
    else reachLoop successors turns (a :: reached) ((successors a).reverse ++ pending)

/-- The successors of an element as a relation. -/
def IsSuccessor (successors : α → List α) (a b : α) : Prop := b ∈ successors a

/-- What is pending and what the elements not reached yet can still push. -/
def workLeft (successors : α → List α) (nodes : Finset α) (reached pending : List α) : ℕ :=
  pending.length + ∑ a ∈ nodes with a ∉ reached, (successors a).length

/-- The loop reaches nothing that the pending elements do not lead to. -/
theorem reachLoop_sound {turns : ℕ} {reached pending : List α} {b : α}
    (mem : b ∈ reachLoop successors turns reached pending) :
    b ∈ reached ∨ ∃ a ∈ pending, Relation.ReflTransGen (IsSuccessor successors) a b := by
  induction turns generalizing reached pending with
  | zero => exact .inl mem
  | succ turns ih =>
    cases pending with
    | nil => exact .inl mem
    | cons a pending =>
      rw [reachLoop] at mem
      split at mem
      · rcases ih mem with mem | ⟨c, pushed, leads⟩
        · exact .inl mem
        · exact .inr ⟨c, List.mem_cons_of_mem a pushed, leads⟩
      · rcases ih mem with mem | ⟨c, pushed, leads⟩
        · rcases List.mem_cons.mp mem with rfl | mem
          · exact .inr ⟨b, List.mem_cons_self, .refl⟩
          · exact .inl mem
        · rcases List.mem_append.mp pushed with pushed | pushed
          · exact .inr ⟨a, List.mem_cons_self, .head (List.mem_reverse.mp pushed) leads⟩
          · exact .inr ⟨c, List.mem_cons_of_mem a pushed, leads⟩

/-- Marking an element takes its successors out of what is left. -/
private theorem workLeft_mark (successors : α → List α) {nodes : Finset α}
    {reached : List α} (pending : List α) {a : α} (node : a ∈ nodes) (fresh : a ∉ reached) :
    workLeft successors nodes (a :: reached) ((successors a).reverse ++ pending) + 1 =
      workLeft successors nodes reached (a :: pending) := by
  have unmarked : a ∈ nodes.filter (· ∉ reached) := Finset.mem_filter.mpr ⟨node, fresh⟩
  have marked : nodes.filter (· ∉ a :: reached) = (nodes.filter (· ∉ reached)).erase a := by
    ext b
    simp only [List.mem_cons, not_or, Finset.mem_filter, Finset.mem_erase]
    tauto
  have total := Finset.add_sum_erase _ (fun a => (successors a).length) unmarked
  rw [workLeft, workLeft, marked, List.length_append, List.length_reverse, List.length_cons,
    ← total]
  omega

/-- With enough turns, the elements reached include the pending ones and are closed under
successors. -/
theorem reachLoop_closed {turns : ℕ} {nodes : Finset α} {reached pending : List α}
    (inside : ∀ a ∈ pending, a ∈ nodes)
    (closed : ∀ a ∈ nodes, ∀ b ∈ successors a, b ∈ nodes)
    (known : ∀ a ∈ reached, ∀ b ∈ successors a, b ∈ reached ∨ b ∈ pending)
    (enough : workLeft successors nodes reached pending ≤ turns) :
    (∀ a ∈ reached, a ∈ reachLoop successors turns reached pending) ∧
      (∀ a ∈ pending, a ∈ reachLoop successors turns reached pending) ∧
      ∀ a ∈ reachLoop successors turns reached pending, ∀ b ∈ successors a,
        b ∈ reachLoop successors turns reached pending := by
  -- On the turns: each takes one pending element, and marking it costs its successors at most once.
  induction turns generalizing reached pending with
  | zero =>
    obtain rfl : pending = [] := by
      rw [← List.length_eq_zero_iff]
      rw [workLeft] at enough
      omega
    refine ⟨fun a mem => mem, fun a mem => absurd mem List.not_mem_nil, fun a mem b next => ?_⟩
    exact (known a mem b next).resolve_right List.not_mem_nil
  | succ turns ih =>
    cases pending with
    | nil =>
      refine ⟨fun a mem => mem, fun a mem => absurd mem List.not_mem_nil, fun a mem b next => ?_⟩
      exact (known a mem b next).resolve_right List.not_mem_nil
    | cons a pending =>
      have insideRest b mem := inside b (List.mem_cons_of_mem a mem)
      have node := inside a List.mem_cons_self
      rw [reachLoop]
      split
      case isTrue marked =>
        have known' : ∀ b ∈ reached, ∀ c ∈ successors b, c ∈ reached ∨ c ∈ pending := by
          intro b mem c next
          rcases known b mem c next with old | pushed
          · exact .inl old
          · rcases List.mem_cons.mp pushed with rfl | pushed
            · exact .inl marked
            · exact .inr pushed
        have enough' : workLeft successors nodes reached pending ≤ turns := by
          rw [workLeft, List.length_cons] at enough
          rw [workLeft]
          omega
        obtain ⟨old, pushed, closes⟩ := ih insideRest known' enough'
        refine ⟨old, fun b mem => ?_, closes⟩
        rcases List.mem_cons.mp mem with rfl | mem
        · exact old b marked
        · exact pushed b mem
      case isFalse fresh =>
        have inside' : ∀ b ∈ (successors a).reverse ++ pending, b ∈ nodes := by
          intro b mem
          rcases List.mem_append.mp mem with mem | mem
          · exact closed a node b (List.mem_reverse.mp mem)
          · exact insideRest b mem
        have known' : ∀ b ∈ a :: reached, ∀ c ∈ successors b,
            c ∈ a :: reached ∨ c ∈ (successors a).reverse ++ pending := by
          intro b mem c next
          rcases List.mem_cons.mp mem with rfl | mem
          · exact .inr (List.mem_append_left _ (List.mem_reverse.mpr next))
          · rcases known b mem c next with old | pushed
            · exact .inl (List.mem_cons_of_mem a old)
            · rcases List.mem_cons.mp pushed with rfl | pushed
              · exact .inl List.mem_cons_self
              · exact .inr (List.mem_append_right _ pushed)
        have enough' := workLeft_mark successors pending node fresh
        obtain ⟨old, pushed, closes⟩ := ih inside' known' (by omega)
        refine ⟨fun b mem => old b (List.mem_cons_of_mem a mem), fun b mem => ?_, closes⟩
        rcases List.mem_cons.mp mem with rfl | mem
        · exact old b List.mem_cons_self
        · exact pushed b (List.mem_append_right _ mem)

/-- With enough turns, the elements reached are those the pending ones lead to. -/
theorem mem_reachLoop_iff {turns : ℕ} {nodes : Finset α} {pending : List α}
    (inside : ∀ a ∈ pending, a ∈ nodes)
    (closed : ∀ a ∈ nodes, ∀ b ∈ successors a, b ∈ nodes)
    (enough : workLeft successors nodes [] pending ≤ turns) {b : α} :
    b ∈ reachLoop successors turns [] pending ↔
      ∃ a ∈ pending, Relation.ReflTransGen (IsSuccessor successors) a b := by
  constructor
  · intro mem
    exact (reachLoop_sound mem).resolve_left List.not_mem_nil
  · rintro ⟨a, pushed, leads⟩
    obtain ⟨-, reaches, closes⟩ := reachLoop_closed inside closed
      (fun a mem => absurd mem List.not_mem_nil) enough
    induction leads with
    | refl => exact reaches a pushed
    | tail _ next ih => exact closes _ ih _ next

end RtCore.Foundation
