import Mathlib.Data.List.Rotate
import Mathlib.Data.Nat.ModEq

/-!
# Ring buffers

A queue in a fixed number of slots: the elements stand from `head` on and wrap at the end
of the slots. Pushing onto a full ring sheds the oldest element.

## Main definitions

* `RingBuffer.push`, `RingBuffer.pop`
* `RingBuffer.contents` — the queue a ring stands for

## Main results

* `RingBuffer.contents_push` — a push adds at the end while there is room
* `RingBuffer.contents_pop` — a pop takes the oldest
* `RingBuffer.contents_replaceNewest`, `RingBuffer.contents_keepNewest` — the newest element is
  replaced, or kept alone
-/

namespace RtCore.Foundation

variable {α : Type*}

/-- Slots of which `count` from `head` on are in use. -/
structure RingBuffer (α : Type*) where
  slots : List α
  head : ℕ
  count : ℕ
  head_lt : head < slots.length
  count_le : count ≤ slots.length

namespace RingBuffer

variable (ring : RingBuffer α)

/-- How many values fit. -/
abbrev capacity : ℕ := ring.slots.length

theorem capacity_pos : 0 < ring.slots.length := Nat.lt_of_le_of_lt (Nat.zero_le _) ring.head_lt

/-- An empty ring of at least one slot. -/
def create (fill : α) (capacity : ℕ) : RingBuffer α where
  slots := List.replicate (max capacity 1) fill
  head := 0
  count := 0
  head_lt := by
    rw [List.length_replicate]
    exact Nat.lt_of_lt_of_le Nat.one_pos (Nat.le_max_right _ _)
  count_le := Nat.zero_le _

/-- The ring without its oldest element, whose slot keeps it until it is used again. -/
def shed : RingBuffer α where
  slots := ring.slots
  head := (ring.head + 1) % ring.slots.length
  count := ring.count - 1
  head_lt := Nat.mod_lt _ ring.capacity_pos
  count_le := (Nat.sub_le _ _).trans ring.count_le

/-- The ring with `x` in the slot behind the last element. -/
def append (x : α) (room : ring.count < ring.slots.length) : RingBuffer α where
  slots := ring.slots.set ((ring.head + ring.count) % ring.slots.length) x
  head := ring.head
  count := ring.count + 1
  head_lt := by
    rw [List.length_set]
    exact ring.head_lt
  count_le := by
    rw [List.length_set]
    exact room

theorem shed_room (full : ring.count = ring.slots.length) :
    ring.shed.count < ring.shed.slots.length := by
  have := ring.capacity_pos
  simp only [shed]
  omega

/-- Sheds the oldest rather than the newest. -/
def push (x : α) : RingBuffer α :=
  if full : ring.count = ring.slots.length then ring.shed.append x (ring.shed_room full)
  else ring.append x (Nat.lt_of_le_of_ne ring.count_le full)

/-- The oldest element, if there is one, and the ring without it. -/
def pop : Option α × RingBuffer α :=
  if ring.count ≠ 0 then (ring.slots[ring.head]?, ring.shed) else (none, ring)

/-- The slot of the newest element of a ring that has one. -/
def newestSlot : Fin ring.slots.length :=
  ⟨(ring.head + ring.count - 1) % ring.slots.length, Nat.mod_lt _ ring.capacity_pos⟩

/-- The ring with `x` in the place of the newest element. -/
def replaceNewest (x : α) : RingBuffer α where
  slots := ring.slots.set ring.newestSlot x
  head := ring.head
  count := ring.count
  head_lt := by
    rw [List.length_set]
    exact ring.head_lt
  count_le := by
    rw [List.length_set]
    exact ring.count_le

/-- The ring with nothing but its newest element, which goes to the front. -/
def keepNewest : RingBuffer α :=
  if 1 < ring.count then
    { slots := ring.slots.set ring.head (ring.slots.get ring.newestSlot)
      head := ring.head
      count := 1
      head_lt := by
        rw [List.length_set]
        exact ring.head_lt
      count_le := by
        rw [List.length_set]
        exact ring.capacity_pos }
  else ring

/-- The elements from the oldest to the newest. -/
def contents : List α := (ring.slots.rotate ring.head).take ring.count

@[simp] theorem length_contents : ring.contents.length = ring.count := by
  rw [contents, List.length_take, List.length_rotate, Nat.min_eq_left ring.count_le]

/-- The elements stand one after another and wrap at the end of the slots. -/
theorem getElem?_contents {i : ℕ} (inside : i < ring.count) :
    ring.contents[i]? = ring.slots[(i + ring.head) % ring.slots.length]? := by
  rw [contents, List.getElem?_take_of_lt inside, List.getElem?_rotate]
  exact Nat.lt_of_lt_of_le inside ring.count_le

theorem contents_shed : ring.shed.contents = ring.contents.tail := by
  apply List.ext_getElem?
  intro i
  rw [List.getElem?_tail]
  by_cases inside : i < ring.count - 1
  · rw [getElem?_contents _ inside, getElem?_contents _ (Nat.add_lt_of_lt_sub inside)]
    simp only [shed, Nat.add_mod_mod]
    rw [Nat.add_right_comm, Nat.add_assoc]
  · rw [List.getElem?_eq_none (by rw [length_contents]; exact Nat.le_of_not_lt inside),
      List.getElem?_eq_none (by rw [length_contents]; omega)]

theorem contents_append (x : α) (room : ring.count < ring.slots.length) :
    (ring.append x room).contents = ring.contents ++ [x] := by
  apply List.ext_getElem?
  intro i
  rcases Nat.lt_trichotomy i ring.count with before | rfl | behind
  · -- The slots of the elements that are there are not written.
    have other : (ring.head + ring.count) % ring.slots.length ≠
        (i + ring.head) % ring.slots.length := by
      intro same
      rw [Nat.add_comm i] at same
      have := Nat.ModEq.add_left_cancel' ring.head same
      rw [Nat.ModEq, Nat.mod_eq_of_lt room, Nat.mod_eq_of_lt (before.trans room)] at this
      omega
    rw [getElem?_contents _ (before.trans (Nat.lt_succ_self _)),
      List.getElem?_append_left (by rwa [length_contents]), getElem?_contents _ before]
    simp only [append, List.length_set]
    rw [List.getElem?_set_ne other]
  · rw [getElem?_contents _ (Nat.lt_succ_self _), List.getElem?_append_right (by simp)]
    simp only [append, List.length_set, length_contents, Nat.sub_self]
    rw [Nat.add_comm, List.getElem?_set_self (Nat.mod_lt _ ring.capacity_pos)]
    rfl
  · rw [List.getElem?_eq_none, List.getElem?_eq_none]
    · rw [List.length_append, length_contents]
      exact behind
    · rw [length_contents]
      exact behind

/-- A push adds at the end while there is room. -/
theorem contents_push (x : α) (room : ring.count < ring.capacity) :
    (ring.push x).contents = ring.contents ++ [x] := by
  rw [push, dif_neg (Nat.ne_of_lt room), contents_append]

/-- A pop takes the oldest element. -/
theorem contents_pop : ring.pop = (ring.contents.head?, ring.pop.2) ∧
    ring.pop.2.contents = ring.contents.tail := by
  rw [pop]
  split
  case isTrue used =>
    have first := ring.getElem?_contents (Nat.pos_of_ne_zero used)
    rw [Nat.zero_add, Nat.mod_eq_of_lt ring.head_lt] at first
    rw [List.head?_eq_getElem?, first]
    exact ⟨rfl, ring.contents_shed⟩
  case isFalse empty =>
    have none : ring.contents = [] := by
      rw [← List.length_eq_zero_iff, length_contents]
      exact not_not.mp empty
    rw [none]
    exact ⟨rfl, rfl⟩

/-- The newest element stands in the slot behind the others. -/
theorem getLast?_contents (used : 0 < ring.count) :
    ring.contents.getLast? = ring.slots[(ring.head + ring.count - 1) % ring.slots.length]? := by
  rw [List.getLast?_eq_getElem?, length_contents, getElem?_contents _ (by omega)]
  congr 2
  omega

/-- Only the newest element is replaced. -/
theorem contents_replaceNewest (x : α) (used : 0 < ring.count) :
    (ring.replaceNewest x).contents = ring.contents.dropLast ++ [x] := by
  have room : ring.count - 1 < ring.slots.length := by
    have := ring.count_le
    omega
  -- Replacing the newest is taking it away and putting the other in its place.
  let others : RingBuffer α := { ring with count := ring.count - 1, count_le := room.le }
  have same : ring.replaceNewest x = others.append x room := by
    have last : ring.head + ring.count - 1 = ring.head + (ring.count - 1) := by omega
    have count : ring.count = ring.count - 1 + 1 := by omega
    simp only [replaceNewest, append, others, newestSlot, last]
    congr 1
  have shorter : others.contents = ring.contents.dropLast := by
    rw [List.dropLast_eq_take, length_contents, contents, contents, List.take_take,
      Nat.min_eq_left (Nat.sub_le _ _)]
  rw [same, contents_append, shorter]

/-- The newest element is kept alone. -/
theorem contents_keepNewest : ring.keepNewest.contents = ring.contents.getLast?.toList := by
  rw [keepNewest]
  split
  case isTrue several =>
    have used : 0 < ring.count := Nat.zero_lt_of_lt several
    have newest : ring.contents.getLast? = some (ring.slots.get ring.newestSlot) := by
      rw [getLast?_contents _ used]
      exact List.getElem?_eq_getElem ring.newestSlot.2
    rw [newest, Option.toList_some, contents]
    -- One element is left, in the slot at the head.
    apply List.ext_getElem?
    intro i
    cases i with
    | zero =>
      rw [List.getElem?_take_of_lt Nat.one_pos, List.getElem?_rotate, Nat.zero_add,
        List.length_set, Nat.mod_eq_of_lt ring.head_lt, List.getElem?_set_self ring.head_lt]
      · rfl
      · rw [List.length_set]
        exact ring.capacity_pos
    | succ i =>
      rw [List.getElem?_eq_none, List.getElem?_eq_none]
      · simp
      · simp
  case isFalse few =>
    have short : ring.contents.length ≤ 1 := by
      rw [length_contents]
      exact Nat.le_of_not_lt few
    match ring.contents, short with
    | [], _ => rfl
    | [_], _ => rfl

theorem count_push_le (x : α) : (ring.push x).count ≤ ring.count + 1 := by
  rw [push]
  split
  · exact Nat.succ_le_succ (Nat.sub_le _ _)
  · exact Nat.le_refl _

theorem count_pop_le : ring.pop.2.count ≤ ring.count := by
  rw [pop]
  split
  · exact Nat.sub_le _ _
  · exact Nat.le_refl _

@[simp] theorem capacity_push (x : α) : (ring.push x).capacity = ring.capacity := by
  rw [push]
  split <;> simp [capacity, append, shed]

@[simp] theorem capacity_pop : ring.pop.2.capacity = ring.capacity := by
  rw [pop]
  split <;> rfl

end RingBuffer

end RtCore.Foundation
