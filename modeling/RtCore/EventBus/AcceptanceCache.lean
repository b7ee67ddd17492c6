import Mathlib.Data.List.Nodup
import RtCore.Foundation.SortedTable

/-!
# Remembered answers of subscribers

`AcceptanceCache` remembers per key whether the subscribers of a channel accepted an
event, until their subscriptions change. The keys are sorted, and a full cache forgets
every answer before it takes another one.

## Main definitions

* `AcceptanceCache.revalidate`, `AcceptanceCache.find`, `AcceptanceCache.store`

## Main results

* `AcceptanceCache.mem_of_find` — an answer that is found was stored
* `AcceptanceCache.mem_storeEntry` — storing an answer brings no other one
-/

namespace RtCore.EventBus

open RtCore.Foundation

/-- The answer for a key. -/
structure AcceptanceEntry where
  key : UInt32
  isAccepted : Bool
deriving DecidableEq, Repr

/-- The keys are in order, each once. -/
def SortedByKey (entries : List AcceptanceEntry) : Prop :=
  entries.Pairwise fun a b => a.key < b.key

/-- The answers given under one subscription generation. -/
structure AcceptanceCache where
  capacity : ℕ
  entries : List AcceptanceEntry
  subscriptionGeneration : UInt32
  sorted : SortedByKey entries

namespace AcceptanceCache

section Entries

variable {entries : List AcceptanceEntry} {key : UInt32} {isAccepted : Bool}

/-- The index of the key's entry, or of where it would go. -/
def lowerBound (entries : List AcceptanceEntry) (key : UInt32) : ℕ :=
  partitionPoint (fun entry => entry.key < key) entries

/-- The entries after an answer was stored. -/
def storeEntry (capacity : ℕ) (entries : List AcceptanceEntry) (key : UInt32)
    (isAccepted : Bool) : List AcceptanceEntry :=
  let index := lowerBound entries key
  if entries[index]?.any (fun entry => entry.key = key) then entries.set index ⟨key, isAccepted⟩
  -- A full cache forgets every answer first.
  else if entries.length = capacity then [⟨key, isAccepted⟩]
  else insertAt entries index ⟨key, isAccepted⟩

theorem partitioned_lowerBound (sorted : SortedByKey entries) (key : UInt32) :
    Partitioned (fun entry : AcceptanceEntry => entry.key < key) entries :=
  sorted.imp fun below smaller =>
    decide_eq_true (UInt32.lt_trans below (of_decide_eq_true smaller))

/-- A key that is not where the search stands goes in there. -/
theorem sorted_insertAt (sorted : SortedByKey entries)
    (absent : ¬entries[lowerBound entries key]?.any (fun entry => entry.key = key)) :
    SortedByKey (insertAt entries (lowerBound entries key) ⟨key, isAccepted⟩) := by
  have parts := partitioned_lowerBound sorted key
  refine pairwise_insertAt sorted parts (fun other _ => of_decide_eq_true) ?_
  intro other member notBelow
  have notKey : ∀ other ∈ entries, ¬other.key = key := by
    refine not_key_of_getElem? sorted parts ?_ ?_ ?_
    · intro other same
      rw [same]
      exact decide_eq_false (UInt32.lt_irrefl _)
    · intro first other below notBelow same
      exact of_decide_eq_false notBelow (same ▸ below)
    · intro first found same
      refine absent ?_
      rw [lowerBound, found]
      exact decide_eq_true same
  exact UInt32.lt_of_le_of_ne (UInt32.not_lt.mp (of_decide_eq_false notBelow)) 
    (Ne.symm (notKey other member))

theorem sorted_storeEntry (sorted : SortedByKey entries) (capacity : ℕ) :
    SortedByKey (storeEntry capacity entries key isAccepted) := by
  rw [storeEntry]
  split
  case isTrue known =>
    -- The entry that is overwritten has the key already.
    obtain ⟨entry, found, same⟩ := (Option.any_eq_true _ _).mp known
    have keys : (entries.set (lowerBound entries key) ⟨key, isAccepted⟩).map AcceptanceEntry.key =
        entries.map AcceptanceEntry.key := by
      obtain ⟨inside, rfl⟩ := List.getElem?_eq_some_iff.mp found
      have inside' : lowerBound entries key < (entries.map AcceptanceEntry.key).length := by
        rwa [List.length_map]
      have unchanged := List.set_getElem_self inside'
      rw [List.getElem_map, of_decide_eq_true same] at unchanged
      rw [List.map_set, unchanged]
    rw [SortedByKey, ← List.pairwise_map, keys, List.pairwise_map]
    exact sorted
  case isFalse absent =>
    split
    · exact List.pairwise_singleton ..
    · exact sorted_insertAt sorted absent

/-- Storing an answer brings no other one. -/
theorem mem_storeEntry {capacity : ℕ} {entry : AcceptanceEntry}
    (member : entry ∈ storeEntry capacity entries key isAccepted) :
    entry = ⟨key, isAccepted⟩ ∨ entry ∈ entries := by
  rw [storeEntry] at member
  split at member
  · exact (List.mem_or_eq_of_mem_set member).symm
  · split at member
    · exact .inl (List.mem_singleton.mp member)
    · exact mem_insertAt.mp member

end Entries

/-- A cache without answers and without a generation. -/
def create (capacity : ℕ) : AcceptanceCache where
  capacity
  entries := []
  subscriptionGeneration := 0
  sorted := .nil

variable {cache : AcceptanceCache} {key : UInt32} {isAccepted : Bool}

/-- Forgets every answer when the subscriptions changed since they were given. -/
def revalidate (cache : AcceptanceCache) (subscriptionGeneration : UInt32) : AcceptanceCache :=
  if subscriptionGeneration = cache.subscriptionGeneration then cache
  else { cache with subscriptionGeneration, entries := [], sorted := .nil }

/-- The answer kept for a key. -/
def find (cache : AcceptanceCache) (key : UInt32) : Option Bool :=
  match cache.entries[lowerBound cache.entries key]? with
  | none => none
  | some entry => if entry.key ≠ key then none else some entry.isAccepted

/-- Keeps an answer; a full cache gives up another one. -/
def store (cache : AcceptanceCache) (key : UInt32) (isAccepted : Bool) : AcceptanceCache :=
  { cache with
    entries := storeEntry cache.capacity cache.entries key isAccepted
    sorted := sorted_storeEntry cache.sorted cache.capacity }

/-- An answer that is found was stored. -/
theorem mem_of_find (found : cache.find key = some isAccepted) :
    ⟨key, isAccepted⟩ ∈ cache.entries := by
  rw [find] at found
  split at found
  · cases found
  case h_2 entry there =>
    split at found
    · cases found
    case isFalse same =>
      obtain rfl := not_not.mp same
      obtain rfl := Option.some.inj found
      exact List.mem_of_getElem? there

end AcceptanceCache

end RtCore.EventBus
