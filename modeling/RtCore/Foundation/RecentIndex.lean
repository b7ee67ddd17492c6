import Mathlib.Data.List.Nodup

/-!
# An index of the most recent keys

A bounded association list in the order of the last writes: a write moves its key to the end, and
the oldest key leaves once the list is full. After any history of writes it holds exactly the last
`cap` distinct keys, each with the value of its latest write.

## Main definitions

* `RecentIndex.put` — one write
* `RecentIndex.recents` — the latest write of each key of a history, the most recent first

## Main results

* `RecentIndex.foldl_put_eq` — the list after a history of writes
* `RecentIndex.foldl_put_self` — writing the entries of an index again gives the index
-/

namespace RtCore.Foundation.RecentIndex

variable {κ β : Type*} [DecidableEq κ]

/-- Writes `key`: an entry of the key leaves, then the oldest one if the list is full. -/
def put (cap : ℕ) (entries : List (κ × β)) (entry : κ × β) : List (κ × β) :=
  let others := entries.eraseP (·.1 = entry.1)
  (if cap ≤ others.length then others.tail else others) ++ [entry]

/-- The latest write of each key, the most recent first, of a history with its newest write
first. -/
def recents : List (κ × β) → List (κ × β)
  | [] => []
  | entry :: older => entry :: (recents older).filter (·.1 ≠ entry.1)

/-- The value that the index holds for a key. -/
def find (entries : List (κ × β)) (key : κ) : Option β :=
  (entries.find? (·.1 = key)).map (·.2)

theorem mem_of_mem_recents {history : List (κ × β)} {entry : κ × β}
    (member : entry ∈ recents history) : entry ∈ history := by
  induction history with
  | nil => exact member
  | cons newest older ih =>
    rcases List.mem_cons.mp member with rfl | later
    · exact List.mem_cons_self
    · exact List.mem_cons_of_mem _ (ih (List.mem_of_mem_filter later))

theorem nodup_keys_recents (history : List (κ × β)) : ((recents history).map Prod.fst).Nodup := by
  induction history with
  | nil => exact List.nodup_nil
  | cons newest older ih =>
    refine List.nodup_cons.mpr ⟨?_, ?_⟩
    · simp
    · exact ih.sublist (List.filter_sublist.map Prod.fst)

private theorem eraseP_eq_filter {key : κ} {entries : List (κ × β)}
    (distinct : (entries.map Prod.fst).Nodup) :
    entries.eraseP (·.1 = key) = entries.filter (·.1 ≠ key) := by
  induction entries with
  | nil => rfl
  | cons entry entries ih =>
    obtain ⟨fresh, distinct⟩ := List.nodup_cons.mp distinct
    by_cases same : entry.1 = key
    · have absent : ∀ other ∈ entries, other.1 ≠ key := by
        intro other member equal
        exact fresh (List.mem_map.mpr ⟨other, member, equal.trans same.symm⟩)
      have keeps : entries.filter (·.1 ≠ key) = entries :=
        List.filter_eq_self.mpr fun other member => by simpa using absent other member
      rw [List.eraseP_cons_of_pos (by simpa using same),
        List.filter_cons_of_neg (by simpa using same), keeps]
    · rw [List.eraseP_cons_of_neg (by simpa using same),
        List.filter_cons_of_pos (by simpa using same), ih distinct]

/-- Taking the key out of the first `cap + 1` entries, and the last one if there still are as many,
leaves the first `cap` entries of the other keys. -/
private theorem take_filter {key : κ} {entries : List (κ × β)}
    (distinct : (entries.map Prod.fst).Nodup) (cap : ℕ) :
    ((entries.take (cap + 1)).filter (·.1 ≠ key)).take cap =
      (entries.filter (·.1 ≠ key)).take cap := by
  induction entries generalizing cap with
  | nil => simp
  | cons entry entries ih =>
    obtain ⟨fresh, distinct⟩ := List.nodup_cons.mp distinct
    by_cases same : entry.1 = key
    · have absent : ∀ other ∈ entries, other.1 ≠ key := by
        intro other member equal
        exact fresh (List.mem_map.mpr ⟨other, member, equal.trans same.symm⟩)
      have keeps (part : List (κ × β)) (within : part ⊆ entries) :
          part.filter (·.1 ≠ key) = part :=
        List.filter_eq_self.mpr fun other member => by simpa using absent other (within member)
      rw [List.take_succ_cons, List.filter_cons_of_neg (by simpa using same),
        List.filter_cons_of_neg (by simpa using same), keeps entries (List.Subset.refl _),
        keeps (entries.take cap) (List.take_subset cap entries), List.take_take, Nat.min_self]
    · rw [List.take_succ_cons, List.filter_cons_of_pos (by simpa using same),
        List.filter_cons_of_pos (by simpa using same)]
      cases cap with
      | zero => simp
      | succ cap => rw [List.take_succ_cons, List.take_succ_cons, ih distinct cap]

/-- One write to the index of a history. -/
private theorem put_take {entries : List (κ × β)} (distinct : (entries.map Prod.fst).Nodup)
    (cap : ℕ) (entry : κ × β) :
    put (cap + 1) (entries.take (cap + 1)).reverse entry =
      ((entry :: entries.filter (·.1 ≠ entry.1)).take (cap + 1)).reverse := by
  have distinctTaken : ((entries.take (cap + 1)).reverse.map Prod.fst).Nodup := by
    rw [List.map_reverse, List.nodup_reverse]
    exact distinct.sublist ((List.take_sublist _ _).map Prod.fst)
  have bounded : ((entries.take (cap + 1)).filter (·.1 ≠ entry.1)).length ≤ cap + 1 :=
    Nat.le_trans (List.length_filter_le _ _) (List.length_take_le _ _)
  rw [List.take_succ_cons, List.reverse_cons, ← take_filter distinct cap, put,
    eraseP_eq_filter distinctTaken, List.filter_reverse]
  generalize (entries.take (cap + 1)).filter (·.1 ≠ entry.1) = others at bounded
  congr 1
  rw [List.length_reverse]
  split_ifs with full
  · have length : others.length = cap + 1 := by omega
    rw [List.tail_reverse, List.dropLast_eq_take, length, Nat.add_sub_cancel]
  · rw [List.take_of_length_le (by omega)]

/-- After a history of writes, the newest first, the index holds the last `cap` distinct keys, each
with its latest value. -/
theorem foldr_put_eq {cap : ℕ} (positive : 0 < cap) (history : List (κ × β)) :
    history.foldr (fun entry entries => put cap entries entry) [] =
      ((recents history).take cap).reverse := by
  obtain ⟨room, rfl⟩ := Nat.exists_eq_add_one.mpr positive
  induction history with
  | nil => rfl
  | cons newest older ih =>
    rw [List.foldr_cons, ih, put_take (nodup_keys_recents older) room newest]
    rfl

/-- After a history of writes, the oldest first. -/
theorem foldl_put_eq {cap : ℕ} (positive : 0 < cap) (history : List (κ × β)) :
    history.foldl (put cap) [] = ((recents history.reverse).take cap).reverse := by
  rw [← foldr_put_eq positive, List.foldr_reverse]

private theorem recents_of_nodup {history : List (κ × β)}
    (distinct : (history.map Prod.fst).Nodup) : recents history = history := by
  induction history with
  | nil => rfl
  | cons newest older ih =>
    obtain ⟨fresh, distinct⟩ := List.nodup_cons.mp distinct
    rw [recents, ih distinct, List.filter_eq_self.mpr]
    intro other member
    have different : other.1 ≠ newest.1 := fun equal =>
      fresh (List.mem_map.mpr ⟨other, member, equal⟩)
    simpa using different

/-- The entries of an index written again, in their order, give the index. -/
theorem foldl_put_self {cap : ℕ} (positive : 0 < cap) (history : List (κ × β)) :
    (history.foldl (put cap) []).foldl (put cap) [] = history.foldl (put cap) [] := by
  have distinct : (((recents history.reverse).take cap).map Prod.fst).Nodup :=
    (nodup_keys_recents _).sublist ((List.take_sublist _ _).map Prod.fst)
  rw [foldl_put_eq positive history, foldl_put_eq positive, List.reverse_reverse,
    recents_of_nodup distinct, List.take_take, Nat.min_self]

theorem length_foldl_put_le {cap : ℕ} (positive : 0 < cap) (history : List (κ × β)) :
    (history.foldl (put cap) []).length ≤ cap := by
  rw [foldl_put_eq positive, List.length_reverse]
  exact List.length_take_le _ _

theorem mem_of_mem_foldl_put {cap : ℕ} (positive : 0 < cap) {history : List (κ × β)}
    {entry : κ × β} (member : entry ∈ history.foldl (put cap) []) : entry ∈ history := by
  rw [foldl_put_eq positive, List.mem_reverse] at member
  exact List.mem_reverse.mp (mem_of_mem_recents (List.mem_of_mem_take member))

/-- The value found for one of the last `cap` distinct keys is that of its latest write. -/
theorem find_foldl_put {cap : ℕ} (positive : 0 < cap) {history : List (κ × β)} {entry : κ × β}
    (recent : entry ∈ (recents history.reverse).take cap) :
    find (history.foldl (put cap) []) entry.1 = some entry.2 := by
  rw [foldl_put_eq positive]
  have member : entry ∈ ((recents history.reverse).take cap).reverse := List.mem_reverse.mpr recent
  have distinct : ((((recents history.reverse).take cap).reverse).map Prod.fst).Nodup := by
    rw [List.map_reverse, List.nodup_reverse]
    exact (nodup_keys_recents _).sublist ((List.take_sublist _ _).map Prod.fst)
  generalize ((recents history.reverse).take cap).reverse = entries at member distinct
  unfold find
  induction entries with
  | nil => cases member
  | cons first entries ih =>
    obtain ⟨fresh, distinct⟩ := List.nodup_cons.mp distinct
    rcases List.mem_cons.mp member with rfl | later
    · simp
    · have different : first.1 ≠ entry.1 := fun equal =>
        fresh (List.mem_map.mpr ⟨entry, later, equal.symm⟩)
      rw [List.find?_cons_of_neg (by simpa using different)]
      exact ih later distinct

/-- Nothing is found for a key that was never written. -/
theorem find_foldl_put_eq_none {cap : ℕ} (positive : 0 < cap) {history : List (κ × β)} {key : κ}
    (never : ∀ entry ∈ history, entry.1 ≠ key) : find (history.foldl (put cap) []) key = none := by
  unfold find
  rw [Option.map_eq_none_iff, List.find?_eq_none]
  intro entry member
  simpa using never entry (mem_of_mem_foldl_put positive member)

end RtCore.Foundation.RecentIndex
