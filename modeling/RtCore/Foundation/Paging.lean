import Mathlib.Data.Nat.Notation

/-!
# Lists that are read page by page

A list is asked for from a cursor on. Every answer has some of its items and, unless the list ends
there, the cursor to ask for next. Answers may differ from request to request in how many items they
have.

## Main definitions

* `followPages` — the items received when every cursor is followed, if this ends
* `PageOf` — an answer to a request for what is due from a cursor on

## Main results

* `followPages_eq` — pages of what is due, whose cursors get closer to the end, are all of it
-/

namespace RtCore.Foundation

variable {κ α : Type*}

/-- The items of the answers, from a cursor on, if the last one comes within so many requests; the
requests before were `number`. -/
def followPages (page : ℕ → κ → Option (List α × Option κ)) : ℕ → ℕ → κ → Option (List α)
  | 0, _, _ => none
  | requests + 1, number, cursor =>
    match page number cursor with
    | none => none
    | some (items, none) => some items
    | some (items, some next) =>
      (followPages page requests (number + 1) next).map fun later => items ++ later

/-- The items are what is due from the cursor on, up to what is due from the next one. -/
def PageOf (due : κ → List α) (left : κ → ℕ) (cursor : κ) (items : List α) : Option κ → Prop
  | none => items = due cursor
  | some next => left next < left cursor ∧ items ++ due next = due cursor

theorem followPages_eq {page : ℕ → κ → Option (List α × Option κ)} {due : κ → List α}
    {left : κ → ℕ}
    (pages : ∀ number cursor, ∃ items next, page number cursor = some (items, next) ∧
      PageOf due left cursor items next)
    {requests number : ℕ} {cursor : κ} (enough : left cursor < requests) :
    followPages page requests number cursor = some (due cursor) := by
  induction requests generalizing number cursor with
  | zero => exact absurd enough (Nat.not_lt_zero _)
  | succ requests ih =>
    obtain ⟨items, next, answered, isPage⟩ := pages number cursor
    rw [followPages, answered]
    cases next with
    | none => exact congrArg some isPage
    | some next =>
      obtain ⟨closer, rest⟩ := isPage
      dsimp only
      rw [ih (Nat.lt_of_lt_of_le closer (Nat.le_of_lt_succ enough)), Option.map_some, rest]

/-- Where every answer names a next cursor, following them does not end. -/
theorem followPages_eq_none {page : ℕ → κ → Option (List α × Option κ)}
    (always : ∀ number cursor, ∃ items next, page number cursor = some (items, some next))
    (requests number : ℕ) (cursor : κ) : followPages page requests number cursor = none := by
  induction requests generalizing number cursor with
  | zero => rfl
  | succ requests ih =>
    obtain ⟨items, next, answered⟩ := always number cursor
    rw [followPages, answered]
    dsimp only
    rw [ih, Option.map_none]

end RtCore.Foundation
