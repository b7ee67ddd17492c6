import Mathlib.Data.List.Basic

/-!
# Binary search in sorted tables

The search behind `std::lower_bound` and `std::equal_range`: `partitionPoint`
halves the range that is left until it stands at the first element for which the
predicate fails. It is right for tables the predicate cuts in two, and a table
that is sorted by `lt` is cut in two by every question the searches ask.

The order is a plain relation on the elements, so that tables sorted by a
projection, or by several in turn, need no order on their element type.

## Main definitions

* `partitionPoint` — the halving search
* `Partitioned` — the elements the predicate holds for come first
* `insertAt` — a new element moves the rest of the table up by one

## Main results

* `take_partitionPoint`, `drop_partitionPoint` — the search splits the table into
  the elements that have the property and those that have not
* `drop_take_partitionPoint` — between the two bounds of an equal range stand
  exactly the elements that are neither before nor after
* `pairwise_insertAt` — insertion at the lower bound keeps a table sorted
* `not_key_of_getElem?` — a key the search does not stand at is not in the table
-/

namespace RtCore.Foundation

variable {α : Type*}

/-- The loop of the search: `length` elements from `first` on are left, of which the
middle one is asked next. -/
def partitionPointLoop (holds : α → Bool) (xs : List α) : ℕ → ℕ → ℕ → ℕ
  | 0, first, _ => first
  | fuel + 1, first, length =>
    if length = 0 then first
    else
      let half := length / 2
      match xs[first + half]? with
      | none => first
      | some middle =>
        if holds middle then
          partitionPointLoop holds xs fuel (first + half + 1) (length - half - 1)
        else partitionPointLoop holds xs fuel first half

/-- The index of the first element of `xs` for which `holds` fails, by halving. -/
def partitionPoint (holds : α → Bool) (xs : List α) : ℕ :=
  partitionPointLoop holds xs xs.length 0 xs.length

/-- The elements for which `holds` is true come before those for which it is not. -/
def Partitioned (holds : α → Bool) (xs : List α) : Prop :=
  xs.Pairwise fun a b => holds b → holds a

variable {holds : α → Bool} {xs : List α}

theorem Partitioned.eq_append (parts : Partitioned holds xs) :
    xs = xs.filter holds ++ xs.filter (fun x => !holds x) := by
  induction xs with
  | nil => rfl
  | cons x xs ih =>
    obtain ⟨first, rest⟩ := List.pairwise_cons.mp parts
    cases isFirst : holds x with
    | true => simpa [isFirst] using ih rest
    | false =>
      -- Nothing after an element without the property has it.
      have none : xs.filter holds = [] := by
        rw [List.filter_eq_nil_iff]
        intro y member has
        simp [first y member has] at isFirst
      have all := ih rest
      rw [none, List.nil_append] at all
      simp [isFirst, none, ← all]

theorem Partitioned.holds_getElem_iff (parts : Partitioned holds xs) {i : ℕ}
    (inside : i < xs.length) : holds xs[i] ↔ i < (xs.filter holds).length := by
  have split := parts.eq_append
  constructor
  · intro has
    by_contra beyond
    have getElem : xs[i] ∈ xs.filter (fun x => !holds x) := by
      have : xs[i]? = (xs.filter (fun x => !holds x))[i - (xs.filter holds).length]? := by
        rw [← List.getElem?_append_right (Nat.le_of_not_lt beyond), ← split]
      rw [List.getElem?_eq_getElem inside] at this
      exact List.mem_of_getElem? this.symm
    simp [has] at getElem
  · intro before
    have getElem : xs[i] ∈ xs.filter holds := by
      have : xs[i]? = (xs.filter holds)[i]? := by
        rw [← List.getElem?_append_left before, ← split]
      rw [List.getElem?_eq_getElem inside] at this
      exact List.mem_of_getElem? this.symm
    exact (List.mem_filter.mp getElem).2

/-- The loop invariant: the answer lies in the range that is left. -/
private theorem partitionPointLoop_eq (parts : Partitioned holds xs) (fuel first length : ℕ)
    (enough : length ≤ fuel) (inside : first + length ≤ xs.length)
    (above : first ≤ (xs.filter holds).length)
    (below : (xs.filter holds).length ≤ first + length) :
    partitionPointLoop holds xs fuel first length = (xs.filter holds).length := by
  induction fuel generalizing first length with
  | zero =>
    unfold partitionPointLoop
    omega
  | succ fuel ih =>
    unfold partitionPointLoop
    split_ifs with empty
    · omega
    · have middle : first + length / 2 < xs.length := by omega
      have decides := parts.holds_getElem_iff middle
      simp only [List.getElem?_eq_getElem middle]
      split_ifs with has
      · have := decides.mp has
        apply ih <;> omega
      · have := mt decides.mpr has
        apply ih <;> omega

theorem partitionPoint_eq_length (parts : Partitioned holds xs) :
    partitionPoint holds xs = (xs.filter holds).length :=
  partitionPointLoop_eq parts _ 0 _ (Nat.le_refl _) (by omega) (Nat.zero_le _)
    (by simpa using List.length_filter_le holds xs)

theorem partitionPoint_le_length (parts : Partitioned holds xs) :
    partitionPoint holds xs ≤ xs.length := by
  rw [partitionPoint_eq_length parts]
  exact List.length_filter_le holds xs

theorem take_partitionPoint (parts : Partitioned holds xs) :
    xs.take (partitionPoint holds xs) = xs.filter holds := by
  rw [partitionPoint_eq_length parts]
  nth_rewrite 2 [parts.eq_append]
  rw [List.take_left]

theorem drop_partitionPoint (parts : Partitioned holds xs) :
    xs.drop (partitionPoint holds xs) = xs.filter (fun x => !holds x) := by
  rw [partitionPoint_eq_length parts]
  nth_rewrite 2 [parts.eq_append]
  rw [List.drop_left]

/-- What is neither before the lower nor after the upper bound: `lower` implies `upper`,
as being less implies being at most. -/
theorem drop_take_partitionPoint {lower upper : α → Bool} (lowerParts : Partitioned lower xs)
    (upperParts : Partitioned upper xs) (implies : ∀ x, lower x → upper x) :
    (xs.take (partitionPoint upper xs)).drop (partitionPoint lower xs) =
      xs.filter (fun x => upper x && !lower x) := by
  have narrowed : Partitioned lower (xs.filter upper) := List.Pairwise.filter _ lowerParts
  have same : (xs.filter upper).filter lower = xs.filter lower := by
    rw [List.filter_filter]
    congr 1
    funext x
    cases isLower : lower x with
    | false => rfl
    | true => simp [implies x isLower]
  have point : partitionPoint lower xs = partitionPoint lower (xs.filter upper) := by
    rw [partitionPoint_eq_length lowerParts, partitionPoint_eq_length narrowed, same]
  rw [take_partitionPoint upperParts, point, drop_partitionPoint narrowed, List.filter_filter]
  congr 1
  funext x
  exact Bool.and_comm ..

theorem partitionPoint_mono {lower upper : α → Bool} (lowerParts : Partitioned lower xs)
    (upperParts : Partitioned upper xs) (implies : ∀ x, lower x → upper x) :
    partitionPoint lower xs ≤ partitionPoint upper xs := by
  rw [partitionPoint_eq_length lowerParts, partitionPoint_eq_length upperParts,
    ← List.countP_eq_length_filter, ← List.countP_eq_length_filter]
  exact List.countP_mono_left fun x _ => implies x

/-- A range in the middle of a table, with what is before and after it. -/
theorem take_append_range_append_drop (xs : List α) {first last : ℕ} (ordered : first ≤ last) :
    xs.take first ++ (xs.take last).drop first ++ xs.drop last = xs := by
  have front : (xs.take last).take first = xs.take first := by
    rw [List.take_take, Nat.min_eq_left ordered]
  rw [← front, List.take_append_drop, List.take_append_drop]

/-! ### Insertion -/

/-- Everything from `index` on moves up by one, and `x` takes its place. -/
def insertAt (xs : List α) (index : ℕ) (x : α) : List α :=
  xs.take index ++ x :: xs.drop index

@[simp] theorem mem_insertAt {index : ℕ} {x y : α} :
    y ∈ insertAt xs index x ↔ y = x ∨ y ∈ xs := by
  rw [insertAt, List.mem_append, List.mem_cons, or_left_comm, ← List.mem_append,
    List.take_append_drop]

@[simp] theorem length_insertAt (xs : List α) (index : ℕ) (x : α) :
    (insertAt xs index x).length = xs.length + 1 := by
  have split := congrArg List.length (List.take_append_drop index xs)
  simp only [List.length_append] at split
  simp only [insertAt, List.length_append, List.length_cons]
  omega

theorem pairwise_insertAt {R : α → α → Prop} {x : α} (sorted : xs.Pairwise R)
    (parts : Partitioned holds xs) (before : ∀ y ∈ xs, holds y → R y x)
    (after : ∀ y ∈ xs, holds y = false → R x y) :
    (insertAt xs (partitionPoint holds xs) x).Pairwise R := by
  have split := List.take_append_drop (partitionPoint holds xs) xs
  rw [take_partitionPoint parts, drop_partitionPoint parts] at split
  rw [insertAt, take_partitionPoint parts, drop_partitionPoint parts]
  rw [← split, List.pairwise_append] at sorted
  rw [List.pairwise_append, List.pairwise_cons]
  refine ⟨sorted.1, ⟨fun y member => ?_, sorted.2.1⟩, fun y member z later => ?_⟩
  · rw [List.mem_filter, Bool.not_eq_true'] at member
    exact after y member.1 member.2
  · rcases List.mem_cons.mp later with rfl | later
    · exact before y (List.mem_filter.mp member).1 (List.mem_filter.mp member).2
    · exact sorted.2.2 y member z later

/-! ### Looking up a key -/

/-- The table around the element the search stands at. -/
theorem exists_split_of_getElem? (parts : Partitioned holds xs) {x : α}
    (found : xs[partitionPoint holds xs]? = some x) :
    ∃ front back, xs = front ++ x :: back ∧ front.length = partitionPoint holds xs ∧
      (∀ y ∈ front, holds y) ∧ holds x = false := by
  have front := take_partitionPoint parts
  have back := drop_partitionPoint parts
  generalize partitionPoint holds xs = point at found front back ⊢
  obtain ⟨inside, rfl⟩ := List.getElem?_eq_some_iff.mp found
  rw [List.drop_eq_getElem_cons inside] at back
  refine ⟨xs.take point, xs.drop (point + 1), ?_, List.length_take_of_le (Nat.le_of_lt inside),
    fun y member => ?_, ?_⟩
  · rw [← List.drop_eq_getElem_cons inside, List.take_append_drop]
  · rw [front] at member
    exact (List.mem_filter.mp member).2
  · have member : xs[point] ∈ xs.filter (fun x => !holds x) := back ▸ List.mem_cons_self
    simpa using (List.mem_filter.mp member).2

/-- A key that is not where the search stands is not in the table: before it stand
smaller elements and after it larger ones. -/
theorem not_key_of_getElem? {R : α → α → Prop} {isKey : α → Prop} (sorted : xs.Pairwise R)
    (parts : Partitioned holds xs) (notBefore : ∀ x, isKey x → holds x = false)
    (after : ∀ x y, R x y → holds x = false → ¬ isKey y)
    (absent : ∀ x, xs[partitionPoint holds xs]? = some x → ¬ isKey x) :
    ∀ x ∈ xs, ¬ isKey x := by
  intro x member key
  cases found : xs[partitionPoint holds xs]? with
  | none =>
    have beyond := List.getElem?_eq_none_iff.mp found
    have later : x ∈ xs.filter (fun x => !holds x) := by simpa [notBefore x key] using member
    rw [← drop_partitionPoint parts, List.drop_eq_nil_of_le beyond] at later
    cases later
  | some first =>
    obtain ⟨front, back, rfl, -, before, notHeld⟩ := exists_split_of_getElem? parts found
    rw [List.pairwise_append, List.pairwise_cons] at sorted
    rcases List.mem_append.mp member with inFront | inBack
    · exact Bool.false_ne_true ((notBefore x key).symm.trans (before x inFront))
    · rcases List.mem_cons.mp inBack with rfl | later
      · exact absent x found key
      · exact after first x (sorted.2.1.1 x later) notHeld key

end RtCore.Foundation
