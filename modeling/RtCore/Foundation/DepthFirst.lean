import Mathlib.Data.Finset.Card
import Mathlib.Data.List.Infix
import Mathlib.Logic.Relation

/-!
# Depth-first walks that mark what they visit

A walk over a graph with sharing and cycles enters a node, then walks its successors in order, and
skips the nodes that bear a mark. What a mark is and what entering a node does is the visitor's:
a walk may number the nodes, write them or take marks away. `order` is the visitor that only lists
the nodes it enters, and every visitor whose marks agree with that list enters the same nodes in the
same order.

## Main definitions

* `Visitor`, `Visitor.visit` — a visitor and its walk, with a bound on the depth
* `order` — the visitor that lists the nodes

## Main results

* `Visitor.visit_simulates` — visitors with agreeing marks walk alike
* `ends_visit` — a walk that may stop enters the nodes in their order up to where it stops
* `mem_walkOrder_iff` — a walk from nothing visited enters exactly what it can reach
* `walkOrder_nodup` — each node once
-/

namespace RtCore.Foundation

variable {ν σ τ : Type*}

/-- How a walk recognises the nodes it visited and what it does on entering one. -/
structure Visitor (ν σ : Type*) where
  seen : σ → ν → Bool
  enter : σ → ν → σ

namespace Visitor

/-- The walk from a node, at most `depth` calls deep. -/
def visit (V : Visitor ν σ) (successors : ν → List ν) : ℕ → σ → ν → σ
  | 0, s, _ => s
  | depth + 1, s, n =>
    if V.seen s n then s else (successors n).foldl (V.visit successors depth) (V.enter s n)

variable {P : ν → Prop} {successors : ν → List ν}

/-- Two visitors whose marks agree on related states walk from related to related states. It is
enough that they agree on a set of nodes that the walk does not leave. -/
theorem visit_simulates {V : Visitor ν σ} {W : Visitor ν τ} {R : σ → τ → Prop}
    (closed : ∀ n, P n → ∀ child ∈ successors n, P child)
    (sameMarks : ∀ s t n, P n → R s t → V.seen s n = W.seen t n)
    (entered : ∀ s t n, P n → R s t → V.seen s n = false → R (V.enter s n) (W.enter t n))
    (depth : ℕ) {s : σ} {t : τ} (related : R s t) {n : ν} (inside : P n) :
    R (V.visit successors depth s n) (W.visit successors depth t n) := by
  induction depth generalizing s t n with
  | zero => exact related
  | succ depth ih =>
    rw [visit, visit, ← sameMarks s t n inside related]
    cases unseen : V.seen s n with
    | true => exact related
    | false =>
      simp only [Bool.false_eq_true, if_false]
      have start := entered s t n inside related unseen
      have rest_inside := closed n inside
      generalize successors n = rest at rest_inside
      generalize V.enter s n = s at start
      generalize W.enter t n = t at start
      induction rest generalizing s t with
      | nil => exact start
      | cons child rest inner =>
        exact inner (fun other member => rest_inside other (List.mem_cons_of_mem _ member)) _ _
          (ih start (rest_inside child List.mem_cons_self))

/-- What entering an unmarked node keeps, a walk keeps. -/
theorem visit_invariant {V : Visitor ν σ} {I : σ → Prop}
    (closed : ∀ n, P n → ∀ child ∈ successors n, P child)
    (entered : ∀ s n, P n → I s → V.seen s n = false → I (V.enter s n)) (depth : ℕ) {s : σ}
    (holds : I s) {n : ν} (inside : P n) : I (V.visit successors depth s n) := by
  have both := visit_simulates (V := V) (W := V) (R := fun s t => s = t ∧ I s) closed
    (fun _ _ _ _ related => related.1 ▸ rfl)
    (fun s _ n inside related unseen => ⟨related.1 ▸ rfl, entered s n inside related.2 unseen⟩)
    depth ⟨rfl, holds⟩ inside
  exact both.2

end Visitor

section Order

variable [DecidableEq ν]

/-- The visitor that lists the nodes in the order it enters them. -/
def order (ν : Type*) [DecidableEq ν] : Visitor ν (List ν) where
  seen visited n := n ∈ visited
  enter visited n := visited ++ [n]

/-- What the walk from `n` may lead to. -/
def Leads (successors : ν → List ν) : ν → ν → Prop :=
  Relation.ReflTransGen fun a b => b ∈ successors a

/-- The nodes of `nodes` that are not visited yet. -/
def unvisited (nodes : Finset ν) (visited : List ν) : ℕ :=
  (nodes \ visited.toFinset).card

variable {successors : ν → List ν} {nodes : Finset ν} {visited : List ν}

private theorem unvisited_concat_lt {n : ν} (member : n ∈ nodes) (fresh : n ∉ visited) :
    unvisited nodes (visited ++ [n]) < unvisited nodes visited := by
  apply Finset.card_lt_card
  refine ⟨fun m left => ?_, fun subset => ?_⟩
  · simp only [Finset.mem_sdiff, List.mem_toFinset, List.mem_append, not_or] at left ⊢
    exact ⟨left.1, left.2.1⟩
  · have here : n ∈ nodes \ visited.toFinset := by simp [member, fresh]
    simpa using subset here

private theorem unvisited_le_of_subset {more : List ν} (subset : visited ⊆ more) :
    unvisited nodes more ≤ unvisited nodes visited := by
  apply Finset.card_le_card
  intro m left
  simp only [Finset.mem_sdiff, List.mem_toFinset] at left ⊢
  exact ⟨left.1, fun before => left.2 (subset before)⟩

/-- What a walk from a list of visited nodes to a longer one did: it entered new nodes only, each
once, and all successors of a node it entered are visited in the end. -/
structure Walked (successors : ν → List ν) (nodes : Finset ν) (visited after : List ν) : Prop where
  keeps : visited <+: after
  nodup : visited.Nodup → after.Nodup
  within : (∀ m ∈ visited, m ∈ nodes) → ∀ m ∈ after, m ∈ nodes
  closed : ∀ m ∈ after, m ∉ visited → ∀ child ∈ successors m, child ∈ after

namespace Walked

omit [DecidableEq ν] in
protected theorem refl : Walked successors nodes visited visited where
  keeps := List.prefix_refl visited
  nodup := id
  within := id
  closed _ member fresh := absurd member fresh

protected theorem trans {middle after : List ν} (first : Walked successors nodes visited middle)
    (second : Walked successors nodes middle after) : Walked successors nodes visited after where
  keeps := first.keeps.trans second.keeps
  nodup distinct := second.nodup (first.nodup distinct)
  within inside := second.within (first.within inside)
  closed m member fresh child isChild := by
    by_cases early : m ∈ middle
    · exact second.keeps.subset (first.closed m early fresh child isChild)
    · exact second.closed m member early child isChild

end Walked

/-- With a depth above the number of unvisited nodes, a walk from `n` ends with `n` visited and
everything it entered closed under successors. -/
theorem walked_visit (closed : ∀ m ∈ nodes, ∀ child ∈ successors m, child ∈ nodes) (depth : ℕ)
    {n : ν} (member : n ∈ nodes) (inside : ∀ m ∈ visited, m ∈ nodes)
    (enough : unvisited nodes visited < depth) :
    Walked successors nodes visited ((order ν).visit successors depth visited n) ∧
      n ∈ (order ν).visit successors depth visited n := by
  induction depth generalizing visited n with
  | zero => exact absurd enough (Nat.not_lt_zero _)
  | succ depth ih =>
    rw [Visitor.visit]
    by_cases before : n ∈ visited
    · rw [if_pos (by simpa [order] using before)]
      exact ⟨.refl, before⟩
    rw [if_neg (by simpa [order] using before)]
    have here : ∀ m ∈ visited ++ [n], m ∈ nodes := by
      intro m entered
      rcases List.mem_append.mp entered with old | new
      · exact inside m old
      · rw [List.mem_singleton.mp new]
        exact member
    have decreased := unvisited_concat_lt member before
    -- the loop over the successors: every one of them ends up visited
    have loop (rest : List ν) (wanted : ∀ child ∈ rest, child ∈ nodes) (start : List ν)
        (longer : visited ++ [n] ⊆ start) (bound : ∀ m ∈ start, m ∈ nodes) :
        Walked successors nodes start
            (rest.foldl ((order ν).visit successors depth) start) ∧
          ∀ child ∈ rest, child ∈ rest.foldl ((order ν).visit successors depth) start := by
      induction rest generalizing start with
      | nil => exact ⟨.refl, fun _ member => nomatch member⟩
      | cons child rest inner =>
        have small : unvisited nodes start < depth := by
          have fewer : unvisited nodes start ≤ unvisited nodes (visited ++ [n]) :=
            unvisited_le_of_subset longer
          omega
        obtain ⟨first, visitedChild⟩ := ih (wanted child List.mem_cons_self) bound small
        obtain ⟨second, others⟩ := inner
          (fun other member => wanted other (List.mem_cons_of_mem _ member)) _
          (List.Subset.trans longer first.keeps.subset) (first.within bound)
        refine ⟨first.trans second, fun other member => ?_⟩
        rcases List.mem_cons.mp member with rfl | later
        · exact second.keeps.subset visitedChild
        · exact others other later
    obtain ⟨walked, children⟩ :=
      loop (successors n) (closed n member) (visited ++ [n]) (List.Subset.refl _) here
    refine ⟨⟨(List.prefix_append _ _).trans walked.keeps, ?_, ?_, ?_⟩, ?_⟩
    · intro distinct
      apply walked.nodup
      exact List.nodup_append.mpr ⟨distinct, List.nodup_singleton n, by
        rintro m old _ new rfl
        exact before (List.mem_singleton.mp new ▸ old)⟩
    · exact fun _ => walked.within here
    · intro m entered fresh child isChild
      by_cases itself : m = n
      · exact children child (itself ▸ isChild)
      · apply walked.closed m entered _ child isChild
        simp [fresh, itself]
    · exact walked.keeps.subset (by simp)

omit [DecidableEq ν] in
/-- What holds of the nodes that each walk of a series adds holds of those that all of them add. -/
private theorem leads_of_mem_foldl {walk : List ν → ν → List ν} {m : ν} {rest : List ν}
    (each : ∀ visited child, m ∈ walk visited child → m ∈ visited ∨ Leads successors child m)
    {visited : List ν} (member : m ∈ rest.foldl walk visited) :
    m ∈ visited ∨ ∃ child ∈ rest, Leads successors child m := by
  induction rest generalizing visited with
  | nil => exact .inl member
  | cons child rest ih =>
    rcases ih member with early | ⟨other, isOther, leads⟩
    · rcases each visited child early with before | leads
      · exact .inl before
      · exact .inr ⟨child, List.mem_cons_self, leads⟩
    · exact .inr ⟨other, List.mem_cons_of_mem _ isOther, leads⟩

/-- A walk enters only what it can reach. -/
theorem leads_of_mem_visit (depth : ℕ) {n m : ν}
    (member : m ∈ (order ν).visit successors depth visited n) :
    m ∈ visited ∨ Leads successors n m := by
  induction depth generalizing visited n with
  | zero => exact .inl member
  | succ depth ih =>
    rw [Visitor.visit] at member
    split at member
    · exact .inl member
    rcases leads_of_mem_foldl (fun _ _ entered => ih entered) member with
      early | ⟨child, isChild, leads⟩
    · rcases List.mem_append.mp early with before | itself
      · exact .inl before
      · rw [List.mem_singleton.mp itself]
        exact .inr .refl
    · exact .inr (.head isChild leads)

/-- Walks from several nodes in turn enter only what one of them can reach. -/
theorem leads_of_mem_foldl_visit (depth : ℕ) {m : ν} {rest : List ν}
    (member : m ∈ rest.foldl ((order ν).visit successors depth) visited) :
    m ∈ visited ∨ ∃ child ∈ rest, Leads successors child m :=
  leads_of_mem_foldl (fun _ _ entered => leads_of_mem_visit depth entered) member

/-- A walk only adds to the list of the visited nodes. -/
theorem prefix_visit (depth : ℕ) (visited : List ν) (n : ν) :
    visited <+: (order ν).visit successors depth visited n := by
  have closed : ∀ m, True → ∀ child ∈ successors m, True := fun _ _ _ _ => trivial
  apply Visitor.visit_invariant (I := fun after => visited <+: after) closed ?_ depth
    (List.prefix_refl visited) trivial
  intro after m _ extends_ _
  exact extends_.trans (List.prefix_append after [m])

/-- How a walk ends that may stop on the way: it enters the nodes in their order, all of them or up
to one at which it stops. -/
inductive Ends {σ : Type*} (V : Visitor ν σ) (stopped : σ → Prop) (R : σ → List ν → Prop)
    (all : List ν) (s : σ) : Prop where
  | all (going : ¬ stopped s) (related : R s all)
  | early (stop : stopped s) (before : σ) (going : ¬ stopped before) (front : List ν) (n : ν)
      (related : R before front) (order : front ++ [n] <+: all) (here : s = V.enter before n)

/-- A walk that enters nothing once it stopped, and whose marks agree with the visited nodes until
then, enters the nodes in their order, all or up to one at which it stops. -/
theorem ends_visit {V : Visitor ν σ} {P : ν → Prop} {stopped : σ → Prop} {R : σ → List ν → Prop}
    (closed : ∀ n, P n → ∀ child ∈ successors n, P child)
    (stops : ∀ s n, stopped s → V.seen s n = true)
    (sameMarks : ∀ s visited n, P n → ¬ stopped s → R s visited →
      V.seen s n = decide (n ∈ visited))
    (entered : ∀ s visited n, P n → n ∉ visited → ¬ stopped s → R s visited →
      ¬ stopped (V.enter s n) → R (V.enter s n) (visited ++ [n]))
    (depth : ℕ) {s : σ} {visited : List ν} (going : ¬ stopped s) (related : R s visited) {n : ν}
    (inside : P n) :
    Ends V stopped R ((order ν).visit successors depth visited n)
      (V.visit successors depth s n) := by
  induction depth generalizing s visited n with
  | zero => exact .all going related
  | succ depth ih =>
    -- the loop over the successors, from any end of a walk before it
    have loop (rest : List ν) (wanted : ∀ child ∈ rest, P child) (start : List ν) (t : σ)
        (reached : Ends V stopped R start t) :
        Ends V stopped R (rest.foldl ((order ν).visit successors depth) start)
          (rest.foldl (V.visit successors depth) t) := by
      induction rest generalizing start t with
      | nil => exact reached
      | cons child rest inner =>
        have later := fun other member => wanted other (List.mem_cons_of_mem child member)
        rw [List.foldl_cons, List.foldl_cons]
        apply inner later
        cases reached with
        | all going related => exact ih going related (wanted child List.mem_cons_self)
        | early stop before going front m related order here =>
          have stays : V.visit successors depth t child = t := by
            cases depth with
            | zero => rfl
            | succ depth => rw [Visitor.visit, if_pos (stops t child stop)]
          rw [stays]
          exact .early stop before going front m related
            (order.trans (prefix_visit depth start child)) here
    rw [Visitor.visit, Visitor.visit, sameMarks s visited n inside going related]
    by_cases before : n ∈ visited
    · rw [if_pos (by simpa [order] using before), if_pos (by simpa using before)]
      exact .all going related
    rw [if_neg (by simpa [order] using before), if_neg (by simpa using before)]
    apply loop (successors n) (closed n inside)
    by_cases stop : stopped (V.enter s n)
    · exact .early stop s going visited n related (List.prefix_refl _) rfl
    · exact .all stop (entered s visited n inside before going related stop)

/-- The nodes that a walk from `n` enters when nothing is visited yet, in order. -/
def walkOrder (successors : ν → List ν) (depth : ℕ) (n : ν) : List ν :=
  (order ν).visit successors depth [] n

variable (closed : ∀ m ∈ nodes, ∀ child ∈ successors m, child ∈ nodes) {depth : ℕ} {n : ν}
  (member : n ∈ nodes) (enough : nodes.card < depth)

include closed member enough

private theorem walked_walkOrder :
    Walked successors nodes [] (walkOrder successors depth n) ∧
      n ∈ walkOrder successors depth n := by
  have nothing : ∀ m ∈ ([] : List ν), m ∈ nodes := by simp
  apply walked_visit closed depth member nothing
  simpa [unvisited] using enough

theorem walkOrder_nodup : (walkOrder successors depth n).Nodup :=
  (walked_walkOrder closed member enough).1.nodup List.nodup_nil

theorem successors_mem_walkOrder {m child : ν} (entered : m ∈ walkOrder successors depth n)
    (isChild : child ∈ successors m) : child ∈ walkOrder successors depth n :=
  (walked_walkOrder closed member enough).1.closed m entered (List.not_mem_nil) child isChild

/-- A walk from nothing visited enters exactly what it can reach. -/
theorem mem_walkOrder_iff {m : ν} : m ∈ walkOrder successors depth n ↔ Leads successors n m := by
  constructor
  · intro entered
    rcases leads_of_mem_visit depth entered with impossible | leads
    · cases impossible
    · exact leads
  · intro leads
    induction leads with
    | refl => exact (walked_walkOrder closed member enough).2
    | tail _ isChild ih => exact successors_mem_walkOrder closed member enough ih isChild

end Order

end RtCore.Foundation
