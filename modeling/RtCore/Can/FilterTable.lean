import Mathlib.Data.Int.Notation
import Mathlib.Data.List.Nodup
import Mathlib.Data.List.ReduceOption
import RtCore.Can.Identifiers

/-!
# The filter table of a CAN bus

Handlers register for filters. Equal filters share an entry; different filters of the
table never overlap, so a frame passes at most one entry and the driver delivers it
once. Exact filters live in a map from the key of the identifier they accept, masked
ones in a few slots.

## Main definitions

* `FilterTable` — the two structures, and the entry helpers of `Canbus` on them
* `FilterTable.WellSorted` — exact filters are in the map, masked ones in the slots

## Main results

* `FilterTable.findMatchingEntry_eq` — the lookup of a frame is a search by matching
* `FilterTable.entries_updateEntry`, `FilterTable.entries_eraseEntry`,
  `FilterTable.entries_createEntry` — the helpers as changes of one list of entries
* `FilterTable.eraseEntry_createEntry` — a created entry can be taken back
-/

namespace RtCore.Can

/-- The handlers of one filter, known by their IDs. -/
structure FilterEntry where
  filter : CanFilter
  /-- -1 while no hardware filter is installed. -/
  filterId : ℤ
  handlers : List ℕ
deriving DecidableEq, Repr

/-- The registered filters of a `Canbus`. -/
structure FilterTable where
  /-- A map from `CanId::Key()` of the filter to the entry. -/
  exactEntries : List FilterEntry
  maskEntries : List (Option FilterEntry)
deriving DecidableEq, Repr

/-- The key of an exact filter in the map. -/
def CanFilter.key (filter : CanFilter) : UInt32 := CanId.key ⟨filter.id, filter.isExtended⟩

/-- Takes the first empty slot. -/
def emplaceMask (entry : FilterEntry) :
    List (Option FilterEntry) → Option (List (Option FilterEntry))
  | [] => none
  | none :: rest => some (some entry :: rest)
  | some other :: rest => (emplaceMask entry rest).map (some other :: ·)

namespace FilterTable

/-- How many mask filters the table has room for. -/
def maxMaskFilters : ℕ := 4

/-- The table of a bus nobody has registered with. -/
def empty : FilterTable := ⟨[], List.replicate maxMaskFilters none⟩

/-- `FindEntry`: the entry of exactly this filter. -/
def findEntry (table : FilterTable) (filter : CanFilter) : Option FilterEntry :=
  if filter.isExact then table.exactEntries.find? fun entry => entry.filter.key = filter.key
  else table.maskEntries.reduceOption.find? fun entry => entry.filter = filter

/-- `FindEntryByHandler`: the entry a handler is registered under, exact filters first. -/
def findEntryByHandler (table : FilterTable) (handlerId : ℕ) : Option FilterEntry :=
  (table.exactEntries.find? fun entry => handlerId ∈ entry.handlers).or
    (table.maskEntries.reduceOption.find? fun entry => handlerId ∈ entry.handlers)

/-- `FindMatchingEntry`: the entry whose filter accepts the ID, exact filters first. -/
def findMatchingEntry (table : FilterTable) (canId : CanId) : Option FilterEntry :=
  (table.exactEntries.find? fun entry => entry.filter.key = canId.key).or
    (table.maskEntries.reduceOption.find? fun entry => entry.filter.accepts canId)

/-- `CreateEntry`: an entry without handlers; none when every mask slot is taken. -/
def createEntry (table : FilterTable) (filter : CanFilter) : Option FilterTable :=
  let entry : FilterEntry := { filter, filterId := -1, handlers := [] }
  if filter.isExact then some { table with exactEntries := table.exactEntries ++ [entry] }
  else (emplaceMask entry table.maskEntries).map fun maskEntries => { table with maskEntries }

/-- `EraseEntry`: the filter's entry is taken out, and a mask filter's slot becomes free. -/
def eraseEntry (table : FilterTable) (filter : CanFilter) : FilterTable :=
  if filter.isExact then
    { table with
      exactEntries := table.exactEntries.filter fun entry => entry.filter.key ≠ filter.key }
  else
    { table with
      maskEntries := table.maskEntries.map (Option.filter fun entry => entry.filter ≠ filter) }

/-- A change through the pointer to the entry of `filter`. -/
def updateEntry (table : FilterTable) (filter : CanFilter)
    (change : FilterEntry → FilterEntry) : FilterTable :=
  if filter.isExact then
    { table with
      exactEntries := table.exactEntries.map fun entry =>
        if entry.filter.key = filter.key then change entry else entry }
  else
    { table with
      maskEntries := table.maskEntries.map (Option.map fun entry =>
        if entry.filter = filter then change entry else entry) }

/-- A change of every entry. -/
def mapEntries (table : FilterTable) (change : FilterEntry → FilterEntry) : FilterTable where
  exactEntries := table.exactEntries.map change
  maskEntries := table.maskEntries.map (Option.map change)

/-- `HasOverlap`: some filter of the table accepts an ID that this filter accepts. -/
def hasOverlap (table : FilterTable) (filter : CanFilter) : Bool :=
  table.exactEntries.any (fun entry => entry.filter.overlaps filter) ||
    table.maskEntries.reduceOption.any fun entry => entry.filter.overlaps filter

end FilterTable

/-! ### The table as one list of entries -/

/-- A filter as `RegisterFrameReceivedHandler` puts it into the table. -/
def CanFilter.IsStored (filter : CanFilter) : Prop :=
  filter.isValid = true ∧ filter.normalized = filter

theorem CanFilter.isStored_normalized {filter : CanFilter} (valid : filter.isValid = true) :
    filter.normalized.IsStored := by
  refine ⟨?_, normalized_normalized⟩
  rw [isValid_iff] at valid ⊢
  obtain ⟨idFits, maskFits⟩ := valid
  refine ⟨?_, maskFits⟩
  change filter.id &&& filter.mask &&& filter.widthMask = filter.id &&& filter.mask
  rw [UInt32.and_assoc, maskFits]

/-- The key of an exact filter determines it. -/
theorem CanFilter.key_inj {filter other : CanFilter} (valid : filter.isValid = true)
    (valid' : other.isValid = true) (exact : filter.isExact = true)
    (exact' : other.isExact = true) : filter.key = other.key ↔ filter = other := by
  rw [isValid_iff] at valid valid'
  have keys : filter.key = other.key ↔
      CanId.mk filter.id filter.isExtended = CanId.mk other.id other.isExtended :=
    CanId.key_inj (CanId.isValid_iff.mpr valid.1) (CanId.isValid_iff.mpr valid'.1)
  refine keys.trans ⟨fun same => ?_, fun same => by rw [same]⟩
  have mask : filter.mask = filter.widthMask := by simpa [isExact] using exact
  have mask' : other.mask = other.widthMask := by simpa [isExact] using exact'
  obtain ⟨sameId, sameFormat⟩ := CanId.mk.inj same
  rw [widthMask, sameFormat] at mask
  cases filter
  cases other
  simp_all [widthMask]

namespace FilterTable

variable {table : FilterTable} {filter : CanFilter} {change : FilterEntry → FilterEntry}

/-- All entries of a table. -/
def entries (table : FilterTable) : List FilterEntry :=
  table.exactEntries ++ table.maskEntries.reduceOption

/-- Every entry has a stored filter and is in the structure of its kind. -/
structure WellSorted (table : FilterTable) : Prop where
  exact : ∀ entry ∈ table.exactEntries, entry.filter.isExact = true
  masked : ∀ entry ∈ table.maskEntries.reduceOption, entry.filter.isExact = false
  stored : ∀ entry ∈ table.entries, entry.filter.IsStored

theorem wellSorted_empty : empty.WellSorted := by
  constructor <;> intro entry mem
  case exact => cases mem
  case masked => cases mem
  case stored => cases mem

theorem mem_entries {entry : FilterEntry} : entry ∈ table.entries ↔
    entry ∈ table.exactEntries ∨ entry ∈ table.maskEntries.reduceOption :=
  List.mem_append

/-- Among entries of the map, keys stand for filters. -/
theorem WellSorted.key_eq_iff (sorted : table.WellSorted) (stored : filter.IsStored)
    (exact : filter.isExact = true) {entry : FilterEntry} (mem : entry ∈ table.exactEntries) :
    entry.filter.key = filter.key ↔ entry.filter = filter :=
  CanFilter.key_inj (sorted.stored entry (mem_entries.mpr (.inl mem))).1 stored.1
    (sorted.exact entry mem) exact

theorem WellSorted.ne_of_exact (sorted : table.WellSorted) (exact : filter.isExact = true)
    {entry : FilterEntry} (mem : entry ∈ table.maskEntries.reduceOption) :
    entry.filter ≠ filter := by
  rintro rfl
  exact Bool.false_ne_true ((sorted.masked entry mem).symm.trans exact)

theorem WellSorted.ne_of_masked (sorted : table.WellSorted) (masked : filter.isExact = false)
    {entry : FilterEntry} (mem : entry ∈ table.exactEntries) : entry.filter ≠ filter := by
  rintro rfl
  exact Bool.false_ne_true (masked.symm.trans (sorted.exact entry mem))

/-! ### Searching -/

private theorem find?_congr {α : Type*} {p q : α → Bool} {l : List α}
    (same : ∀ a ∈ l, p a = q a) : l.find? p = l.find? q := by
  induction l with
  | nil => rfl
  | cons a l ih =>
    rw [List.find?_cons, List.find?_cons, same a List.mem_cons_self,
      ih fun b mem => same b (List.mem_cons_of_mem a mem)]

/-- A search for a filter in the structure of its kind is a search in all entries. -/
theorem WellSorted.findEntry_eq (sorted : table.WellSorted) (stored : filter.IsStored) :
    table.findEntry filter = table.entries.find? fun entry => entry.filter = filter := by
  rw [entries, List.find?_append]
  cases exact : filter.isExact with
  | true =>
    have inMap : table.exactEntries.find? (fun entry => entry.filter.key = filter.key) =
        table.exactEntries.find? fun entry => entry.filter = filter :=
      find?_congr fun entry mem => by simp only [sorted.key_eq_iff stored exact mem]
    have inSlots : table.maskEntries.reduceOption.find? (fun entry => entry.filter = filter) =
        none :=
      List.find?_eq_none.mpr fun entry mem => by simpa using sorted.ne_of_exact exact mem
    rw [findEntry, if_pos exact, inMap, inSlots, Option.or_none]
  | false =>
    have inMap : table.exactEntries.find? (fun entry => entry.filter = filter) = none :=
      List.find?_eq_none.mpr fun entry mem => by simpa using sorted.ne_of_masked exact mem
    rw [findEntry, if_neg (by simp [exact]), inMap, Option.none_or]

theorem findEntryByHandler_eq (handlerId : ℕ) : table.findEntryByHandler handlerId =
    table.entries.find? fun entry => handlerId ∈ entry.handlers := by
  rw [entries, List.find?_append]
  rfl

/-- The lookup of a frame, by key in the map and by matching in the slots, is a search
by matching in all entries. -/
theorem WellSorted.findMatchingEntry_eq (sorted : table.WellSorted) {canId : CanId}
    (valid : canId.isValid = true) : table.findMatchingEntry canId =
      table.entries.find? fun entry => entry.filter.accepts canId := by
  have inMap : table.exactEntries.find? (fun entry => entry.filter.key = canId.key) =
      table.exactEntries.find? fun entry => entry.filter.accepts canId := by
    refine find?_congr fun entry mem => ?_
    have stored := sorted.stored entry (mem_entries.mpr (.inl mem))
    have ownId : CanId.isValid ⟨entry.filter.id, entry.filter.isExtended⟩ = true :=
      CanId.isValid_iff.mpr (CanFilter.isValid_iff.mp stored.1).1
    have exact := CanFilter.accepts_iff_of_exact stored.1 (sorted.exact entry mem) valid
    rw [Bool.eq_iff_iff, exact, decide_eq_true_iff]
    exact (CanId.key_inj ownId valid).trans eq_comm
  rw [entries, List.find?_append, ← inMap]
  rfl

theorem hasOverlap_iff :
    table.hasOverlap filter = true ↔ ∃ entry ∈ table.entries, entry.filter.overlaps filter := by
  rw [hasOverlap, ← List.any_append]
  exact List.any_eq_true

/-! ### Changes -/

private theorem reduceOption_map_filter {α : Type*} (p : α → Bool) (slots : List (Option α)) :
    (slots.map (Option.filter p)).reduceOption = slots.reduceOption.filter p := by
  induction slots with
  | nil => rfl
  | cons slot slots ih =>
    cases slot with
    | none => simpa using ih
    | some a => by_cases keeps : p a <;> simp [keeps, Option.filter, ih]

theorem WellSorted.entries_updateEntry (sorted : table.WellSorted) (stored : filter.IsStored)
    (change : FilterEntry → FilterEntry) :
    (table.updateEntry filter change).entries =
      table.entries.map fun entry => if entry.filter = filter then change entry else entry := by
  rw [entries, entries, List.map_append]
  cases exact : filter.isExact with
  | true =>
    rw [updateEntry, if_pos exact]
    congr 1
    · refine List.map_congr_left fun entry mem => ?_
      simp only [sorted.key_eq_iff stored exact mem]
    · refine ((List.map_congr_left fun entry mem => ?_).trans (List.map_id _)).symm
      exact if_neg (sorted.ne_of_exact exact mem)
  | false =>
    rw [updateEntry, if_neg (by simp [exact]), List.reduceOption_map]
    congr 1
    refine ((List.map_congr_left fun entry mem => ?_).trans (List.map_id _)).symm
    exact if_neg (sorted.ne_of_masked exact mem)

theorem WellSorted.entries_eraseEntry (sorted : table.WellSorted) (stored : filter.IsStored) :
    (table.eraseEntry filter).entries =
      table.entries.filter fun entry => entry.filter ≠ filter := by
  rw [entries, entries, List.filter_append]
  cases exact : filter.isExact with
  | true =>
    rw [eraseEntry, if_pos exact]
    congr 1
    · refine List.filter_congr fun entry mem => ?_
      simp only [ne_eq, sorted.key_eq_iff stored exact mem]
    · refine (List.filter_eq_self.mpr fun entry mem => ?_).symm
      simpa using sorted.ne_of_exact exact mem
  | false =>
    rw [eraseEntry, if_neg (by simp [exact]), reduceOption_map_filter]
    congr 1
    refine (List.filter_eq_self.mpr fun entry mem => ?_).symm
    simpa using sorted.ne_of_masked exact mem

private theorem reduceOption_emplaceMask {entry : FilterEntry} {slots : List (Option FilterEntry)} :
    ∀ {slots'}, emplaceMask entry slots = some slots' →
      slots'.reduceOption.Perm (entry :: slots.reduceOption) := by
  induction slots with
  | nil => exact fun h => nomatch h
  | cons slot slots ih =>
    intro slots' emplaced
    cases slot with
    | none =>
      rw [emplaceMask, Option.some.injEq] at emplaced
      subst emplaced
      simp
    | some other =>
      obtain ⟨rest, emplacedRest, rfl⟩ := Option.map_eq_some_iff.mp emplaced
      rw [List.reduceOption_cons_of_some, List.reduceOption_cons_of_some]
      exact ((ih emplacedRest).cons other).trans (List.Perm.swap ..)

theorem entries_createEntry {created : FilterTable}
    (creates : table.createEntry filter = some created) :
    created.entries.Perm ({ filter, filterId := -1, handlers := [] } :: table.entries) := by
  rw [createEntry] at creates
  split at creates
  · obtain rfl := Option.some.inj creates
    rw [entries, List.append_assoc]
    exact List.perm_middle
  · obtain ⟨maskEntries, emplaced, rfl⟩ := Option.map_eq_some_iff.mp creates
    exact ((reduceOption_emplaceMask emplaced).append_left _).trans List.perm_middle

theorem entries_mapEntries (table : FilterTable) (change : FilterEntry → FilterEntry) :
    (table.mapEntries change).entries = table.entries.map change := by
  rw [entries, entries, List.map_append, mapEntries, List.reduceOption_map]

/-! ### What changes leave -/

section Sorting

variable {table' : FilterTable}

/-- Whether a table is well sorted depends on the filters of its entries only. -/
theorem WellSorted.of_filters (sorted : table.WellSorted)
    (inMap : ∀ entry' ∈ table'.exactEntries, ∃ entry ∈ table.exactEntries,
      entry.filter = entry'.filter)
    (inSlots : ∀ entry' ∈ table'.maskEntries.reduceOption,
      ∃ entry ∈ table.maskEntries.reduceOption, entry.filter = entry'.filter) :
    table'.WellSorted := by
  constructor
  · intro entry' mem
    obtain ⟨entry, mem, same⟩ := inMap entry' mem
    exact same ▸ sorted.exact entry mem
  · intro entry' mem
    obtain ⟨entry, mem, same⟩ := inSlots entry' mem
    exact same ▸ sorted.masked entry mem
  · intro entry' mem
    rcases mem_entries.mp mem with mem | mem
    · obtain ⟨entry, mem, same⟩ := inMap entry' mem
      exact same ▸ sorted.stored entry (mem_entries.mpr (.inl mem))
    · obtain ⟨entry, mem, same⟩ := inSlots entry' mem
      exact same ▸ sorted.stored entry (mem_entries.mpr (.inr mem))

theorem WellSorted.mapEntries (sorted : table.WellSorted)
    (keeps : ∀ entry, (change entry).filter = entry.filter) :
    (table.mapEntries change).WellSorted := by
  apply sorted.of_filters
  · intro entry' mem
    obtain ⟨entry, old, rfl⟩ := List.mem_map.mp mem
    exact ⟨entry, old, (keeps entry).symm⟩
  · intro entry' mem
    rw [FilterTable.mapEntries, List.reduceOption_map] at mem
    obtain ⟨entry, old, rfl⟩ := List.mem_map.mp mem
    exact ⟨entry, old, (keeps entry).symm⟩

theorem WellSorted.updateEntry (sorted : table.WellSorted)
    (keeps : ∀ entry, (change entry).filter = entry.filter) :
    (table.updateEntry filter change).WellSorted := by
  rw [FilterTable.updateEntry]
  split
  · apply sorted.of_filters
    · intro entry' mem
      obtain ⟨entry, old, rfl⟩ := List.mem_map.mp mem
      exact ⟨entry, old, by split <;> simp [keeps]⟩
    · exact fun entry mem => ⟨entry, mem, rfl⟩
  · apply sorted.of_filters
    · exact fun entry mem => ⟨entry, mem, rfl⟩
    · intro entry' mem
      rw [List.reduceOption_map] at mem
      obtain ⟨entry, old, rfl⟩ := List.mem_map.mp mem
      exact ⟨entry, old, by split <;> simp [keeps]⟩

theorem WellSorted.eraseEntry (sorted : table.WellSorted) :
    (table.eraseEntry filter).WellSorted := by
  rw [FilterTable.eraseEntry]
  split
  · apply sorted.of_filters
    · exact fun entry mem => ⟨entry, List.mem_of_mem_filter mem, rfl⟩
    · exact fun entry mem => ⟨entry, mem, rfl⟩
  · apply sorted.of_filters
    · exact fun entry mem => ⟨entry, mem, rfl⟩
    · intro entry mem
      rw [reduceOption_map_filter] at mem
      exact ⟨entry, List.mem_of_mem_filter mem, rfl⟩

theorem WellSorted.createEntry (sorted : table.WellSorted) (stored : filter.IsStored)
    (creates : table.createEntry filter = some table') : table'.WellSorted := by
  have entries := entries_createEntry creates
  have storedNew : ∀ entry ∈ table'.entries, entry.filter.IsStored := by
    intro entry mem
    rcases List.mem_cons.mp (entries.mem_iff.mp mem) with rfl | mem
    · exact stored
    · exact sorted.stored entry mem
  rw [FilterTable.createEntry] at creates
  split at creates
  case isTrue exact =>
    obtain rfl := Option.some.inj creates
    refine ⟨fun entry mem => ?_, sorted.masked, storedNew⟩
    rcases List.mem_append.mp mem with mem | mem
    · exact sorted.exact entry mem
    · rw [List.mem_singleton.mp mem]
      exact exact
  case isFalse masked =>
    obtain ⟨maskEntries, emplaced, rfl⟩ := Option.map_eq_some_iff.mp creates
    refine ⟨sorted.exact, fun entry mem => ?_, storedNew⟩
    rcases List.mem_cons.mp ((reduceOption_emplaceMask emplaced).mem_iff.mp mem) with rfl | mem
    · simpa using masked
    · exact sorted.masked entry mem

end Sorting

/-! ### Taking back a registration -/

theorem updateEntry_updateEntry {change' : FilterEntry → FilterEntry}
    (keeps : ∀ entry, (change entry).filter = entry.filter) :
    (table.updateEntry filter change).updateEntry filter change' =
      table.updateEntry filter fun entry => change' (change entry) := by
  rw [updateEntry, updateEntry, updateEntry]
  split
  · rw [mk.injEq, List.map_map]
    refine ⟨List.map_congr_left fun entry _ => ?_, rfl⟩
    by_cases same : entry.filter.key = filter.key <;> simp [same, keeps]
  · rw [mk.injEq, List.map_map]
    refine ⟨rfl, List.map_congr_left fun slot _ => ?_⟩
    cases slot with
    | none => rfl
    | some entry => by_cases same : entry.filter = filter <;> simp [same, keeps]

theorem WellSorted.updateEntry_eq_self (sorted : table.WellSorted) (stored : filter.IsStored)
    (fixed : ∀ entry ∈ table.entries, entry.filter = filter → change entry = entry) :
    table.updateEntry filter change = table := by
  cases exact : filter.isExact with
  | true =>
    rw [FilterTable.updateEntry, if_pos exact]
    have same : table.exactEntries.map (fun entry =>
        if entry.filter.key = filter.key then change entry else entry) = table.exactEntries := by
      refine (List.map_congr_left fun entry mem => ?_).trans (List.map_id _)
      have fixed := fixed entry (mem_entries.mpr (.inl mem))
      exact ite_eq_right_iff.mpr fun key => fixed ((sorted.key_eq_iff stored exact mem).mp key)
    rw [same]
  | false =>
    rw [FilterTable.updateEntry, if_neg (by simp [exact])]
    have same : table.maskEntries.map (Option.map fun entry =>
        if entry.filter = filter then change entry else entry) = table.maskEntries := by
      refine (List.map_congr_left fun slot mem => ?_).trans (List.map_id _)
      cases slot with
      | none => rfl
      | some entry =>
        have mem : entry ∈ table.entries :=
          mem_entries.mpr (.inr (List.reduceOption_mem_iff.mpr mem))
        exact congrArg some (ite_eq_right_iff.mpr (fixed entry mem))
    rw [same]

private theorem map_filter_emplaceMask {entry : FilterEntry} {slots : List (Option FilterEntry)}
    (absent : ∀ other ∈ slots.reduceOption, other.filter ≠ entry.filter) :
    ∀ {slots'}, emplaceMask entry slots = some slots' →
      slots'.map (Option.filter fun other => other.filter ≠ entry.filter) = slots := by
  have unchanged : ∀ slots : List (Option FilterEntry),
      (∀ other ∈ slots.reduceOption, other.filter ≠ entry.filter) →
      slots.map (Option.filter fun other => other.filter ≠ entry.filter) = slots := by
    intro slots absent
    refine (List.map_congr_left fun slot mem => ?_).trans (List.map_id _)
    cases slot with
    | none => rfl
    | some other =>
      have ne := absent other (List.reduceOption_mem_iff.mpr mem)
      simp [Option.filter, ne]
  induction slots with
  | nil =>
    intro slots' emplaced
    cases emplaced
  | cons slot slots ih =>
    intro slots' emplaced
    cases slot with
    | none =>
      obtain rfl := Option.some.inj emplaced
      rw [List.map_cons, unchanged slots (by simpa using absent)]
      simp [Option.filter]
    | some other =>
      obtain ⟨rest, emplacedRest, rfl⟩ := Option.map_eq_some_iff.mp emplaced
      rw [List.reduceOption_cons_of_some] at absent
      have absentRest other mem := absent other (List.mem_cons_of_mem _ mem)
      rw [List.map_cons, ih absentRest emplacedRest]
      simp [Option.filter, absent other List.mem_cons_self]

/-- Erasing the entry of a filter undoes its creation. -/
theorem WellSorted.eraseEntry_createEntry (sorted : table.WellSorted) (stored : filter.IsStored)
    (absent : ∀ entry ∈ table.entries, entry.filter ≠ filter) {created : FilterTable}
    (creates : table.createEntry filter = some created) : created.eraseEntry filter = table := by
  rw [FilterTable.createEntry] at creates
  split at creates
  case isTrue exact =>
    obtain rfl := Option.some.inj creates
    have kept : table.exactEntries.filter (fun entry => entry.filter.key ≠ filter.key) =
        table.exactEntries := by
      refine List.filter_eq_self.mpr fun entry mem => ?_
      rw [decide_eq_true_iff, ne_eq, sorted.key_eq_iff stored exact mem]
      exact absent entry (mem_entries.mpr (.inl mem))
    rw [FilterTable.eraseEntry, if_pos exact, List.filter_append, kept]
    simp
  case isFalse masked =>
    obtain ⟨maskEntries, emplaced, rfl⟩ := Option.map_eq_some_iff.mp creates
    have kept := map_filter_emplaceMask
      (fun entry mem => absent entry (mem_entries.mpr (.inr mem))) emplaced
    rw [FilterTable.eraseEntry, if_neg masked, kept]

end FilterTable

end RtCore.Can
