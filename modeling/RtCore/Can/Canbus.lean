import RtCore.Foundation.Run
import RtCore.Can.FilterTable

/-!
# Registering frame handlers and dispatching frames

A registration creates the entry of its filter, adds the handler and installs the
hardware filter; each of the three can fail. A received frame is dispatched with the
lock held, to a snapshot of the handlers of the entry it passes, each of which may
register and remove handlers.

## Main definitions

* `Canbus.registerFrameReceivedHandler`, `Canbus.removeFrameReceivedHandler`
* `Canbus.dispatchFrame` — the handlers called for a frame
* `Canbus.TableOk` — the entries are disjoint and hold the handlers that asked for them
* `skipRemoved` — the handlers due for a frame, less those removed before their turn

## Main results

* `Canbus.filterTable_and_dispatch` — what holds in every state of every run
-/

namespace RtCore.Can

open RtCore.Foundation

/-! ### The bus -/

/-- What `RegisterFrameReceivedHandler` fails with. -/
inductive RegisterError
  | notInitialized
  | filterRejected
  | tooManyHandlers
  | invalidArgument
  | filterOverlap
  | tooManyFilters
deriving DecidableEq, Repr

/-- The numbers of `RegisterFrameReceivedHandler`'s errors. -/
def RegisterError.code : RegisterError → ℤ
  | notInitialized => -1
  | filterRejected => -2
  | tooManyHandlers => -3
  | invalidArgument => -4
  | filterOverlap => -5
  | tooManyFilters => -6

/-- The part of a `Canbus` that handlers use. -/
structure Canbus where
  isInitialized : Bool
  table : FilterTable
  /-- An `int`, which is assumed not to come round. -/
  nextHandlerId : ℕ
  /-- History: the handlers registered and not removed, with the filter each asked for. -/
  requested : List (ℕ × CanFilter)
deriving DecidableEq, Repr

/-- A call of `RegisterFrameReceivedHandler` with what it finds: whether the handler is
empty, whether the bitrate is still being detected and what `can_add_rx_filter` answers. -/
structure Registration where
  filter : CanFilter
  isEmpty : Bool
  isDeferred : Bool
  driver : ℤ
deriving DecidableEq, Repr

/-- `InstallFilter`: the entry and whether it has a hardware filter now. -/
def installFilter (driver : ℤ) (entry : FilterEntry) : FilterEntry × Bool :=
  if 0 ≤ entry.filterId then (entry, true)
  else if driver < 0 then (entry, false)
  else ({ entry with filterId := driver }, true)

/-- The entry once a handler is registered under it. -/
def addHandler (handlerId : ℕ) (entry : FilterEntry) : FilterEntry :=
  { entry with handlers := entry.handlers ++ [handlerId] }

/-- The entry once a handler is removed from it. -/
def removeHandler (handlerId : ℕ) (entry : FilterEntry) : FilterEntry :=
  { entry with handlers := entry.handlers.erase handlerId }

namespace Canbus

/-- How many handlers one filter can have. -/
def maxHandlersPerFilter : ℕ := 8

/-- A bus nobody has registered on. -/
def initial (isInitialized : Bool) : Canbus := ⟨isInitialized, .empty, 1, []⟩

/-- The end of a registration, with the entry of its filter in the table. -/
def registerInEntry (bus : Canbus) (registration : Registration) (entry : FilterEntry) :
    Canbus × Except RegisterError ℕ :=
  let filter := registration.filter.normalized
  if maxHandlersPerFilter ≤ entry.handlers.length then (bus, .error .tooManyHandlers)
  else
    let handlerId := bus.nextHandlerId
    let table := bus.table.updateEntry filter (addHandler handlerId)
    let requested := bus.requested ++ [(handlerId, registration.filter)]
    -- Hardware filters are installed once the bitrate is known.
    if registration.isDeferred then
      ({ bus with table, requested, nextHandlerId := handlerId + 1 }, .ok handlerId)
    else if (installFilter registration.driver (addHandler handlerId entry)).2 then
      let table := table.updateEntry filter fun entry => (installFilter registration.driver entry).1
      ({ bus with table, requested, nextHandlerId := handlerId + 1 }, .ok handlerId)
    else
      let table := table.updateEntry filter (removeHandler handlerId)
      let isLast := (removeHandler handlerId (addHandler handlerId entry)).handlers.isEmpty
      let table := if isLast then table.eraseEntry filter else table
      ({ bus with table, nextHandlerId := handlerId + 1 }, .error .filterRejected)

/-- `RegisterFrameReceivedHandler`: the filter's entry is found or made, then the handler is added.
-/
def registerFrameReceivedHandler (bus : Canbus) (registration : Registration) :
    Canbus × Except RegisterError ℕ :=
  if !bus.isInitialized then (bus, .error .notInitialized)
  else if registration.isEmpty then (bus, .error .invalidArgument)
  else if !registration.filter.isValid then (bus, .error .invalidArgument)
  else
    let filter := registration.filter.normalized
    match bus.table.findEntry filter with
    | some entry => bus.registerInEntry registration entry
    | none =>
      -- Registrations never overlap, so a frame comes through at most one filter.
      if bus.table.hasOverlap filter then (bus, .error .filterOverlap)
      else
        match bus.table.createEntry filter with
        | none => (bus, .error .tooManyFilters)
        | some table =>
          registerInEntry { bus with table } registration { filter, filterId := -1, handlers := [] }

/-- `UninstallFilter` changes an entry that is erased right after. -/
def removeFrameReceivedHandler (bus : Canbus) (handlerId : ℕ) : Canbus × Bool :=
  if !bus.isInitialized then (bus, false)
  else
    match bus.table.findEntryByHandler handlerId with
    | none => (bus, false)
    | some entry =>
      let table := bus.table.updateEntry entry.filter (removeHandler handlerId)
      let requested := bus.requested.filter fun handler => handler.1 ≠ handlerId
      if (removeHandler handlerId entry).handlers.isEmpty then
        ({ bus with table := table.eraseEntry entry.filter, requested }, true)
      else ({ bus with table, requested }, true)

/-- `InstallDeferredFilters`, once the bitrate is detected. -/
def installDeferredFilters (bus : Canbus) (driver : CanFilter → ℤ) : Canbus :=
  { bus with
    table := bus.table.mapEntries fun entry => (installFilter (driver entry.filter) entry).1 }

end Canbus

/-! ### Dispatching a frame -/

/-- A call of the bus, from a handler or from elsewhere. -/
inductive CanbusCall
  | register (registration : Registration)
  | remove (handlerId : ℕ)
deriving DecidableEq, Repr

/-- A frame taken from `frame_msgq_`. -/
structure FrameDispatch where
  canId : CanId
  /-- The driver delivers identifiers that fit their format. -/
  valid : canId.isValid = true
  /-- What the handler of an ID does when it is called for the frame. -/
  calls : ℕ → List CanbusCall
  /-- The order in which an unordered map of handlers is traversed. -/
  traverse : List ℕ → List ℕ
  traverse_perm : ∀ handlers, (traverse handlers).Perm handlers

namespace Canbus

/-- A call on the bus, without its result. -/
def perform (bus : Canbus) : CanbusCall → Canbus
  | .register registration => (bus.registerFrameReceivedHandler registration).1
  | .remove handlerId => (bus.removeFrameReceivedHandler handlerId).1

/-- The loop over the snapshot: the bus after it and the handlers called. -/
def dispatchTo (canId : CanId) (calls : ℕ → List CanbusCall) :
    List ℕ → Canbus → Canbus × List ℕ
  | [], bus => (bus, [])
  | handlerId :: rest, bus =>
    match bus.table.findMatchingEntry canId with
    | none => (bus, [])
    | some current =>
      if handlerId ∈ current.handlers then
        let (after, called) := dispatchTo canId calls rest (run perform bus (calls handlerId))
        (after, handlerId :: called)
      else dispatchTo canId calls rest bus

/-- `DispatchFrame`: copies the handlers of the matching entry, then calls one after the other. -/
def dispatchFrame (bus : Canbus) (frame : FrameDispatch) : Canbus × List ℕ :=
  match bus.table.findMatchingEntry frame.canId with
  | none => (bus, [])
  | some entry =>
    let handlerIds := (frame.traverse entry.handlers).take maxHandlersPerFilter
    dispatchTo frame.canId frame.calls handlerIds bus

/-- The calls and the thread of a bus. -/
inductive Event
  | call (call : CanbusCall)
  | frame (frame : FrameDispatch)
  | bitrateDetected (driver : CanFilter → ℤ)

/-- One event of the bus. -/
def step (bus : Canbus) : Event → Canbus
  | .call call => bus.perform call
  | .frame frame => (bus.dispatchFrame frame).1
  | .bitrateDetected driver => bus.installDeferredFilters driver

/-- The handlers whose own filter matches an identifier. -/
def matching (bus : Canbus) (canId : CanId) : List ℕ :=
  (bus.requested.filter fun handler => handler.2.accepts canId).map Prod.fst

end Canbus

/-- The handlers due, in their order, less those that a handler called before them has
removed. -/
def skipRemoved (calls : ℕ → List CanbusCall) (removed : List CanbusCall) : List ℕ → List ℕ
  | [] => []
  | handlerId :: rest =>
    if .remove handlerId ∈ removed then skipRemoved calls removed rest
    else handlerId :: skipRemoved calls (removed ++ calls handlerId) rest

/-! ### The invariant -/

/-- The handlers that asked for a filter, in the order of their registrations. -/
def handlersOf (requested : List (ℕ × CanFilter)) (filter : CanFilter) : List ℕ :=
  (requested.filter fun handler => handler.2.normalized = filter).map Prod.fst

theorem mem_handlersOf {requested : List (ℕ × CanFilter)} {filter : CanFilter} {handlerId : ℕ} :
    handlerId ∈ handlersOf requested filter ↔
      ∃ own, (handlerId, own) ∈ requested ∧ own.normalized = filter := by
  simp [handlersOf]

theorem handlersOf_append {requested : List (ℕ × CanFilter)} {own filter : CanFilter}
    {handlerId : ℕ} : handlersOf (requested ++ [(handlerId, own)]) filter =
      handlersOf requested filter ++ if own.normalized = filter then [handlerId] else [] := by
  rw [handlersOf, handlersOf, List.filter_append, List.map_append, List.filter_singleton]
  by_cases same : own.normalized = filter <;> simp [same]

theorem handlersOf_filter {requested : List (ℕ × CanFilter)} {filter : CanFilter}
    {handlerId : ℕ} : handlersOf (requested.filter fun handler => handler.1 ≠ handlerId) filter =
      (handlersOf requested filter).filter fun other => other ≠ handlerId := by
  rw [handlersOf, handlersOf, List.filter_map, List.filter_filter, List.filter_filter]
  congr 1
  refine List.filter_congr fun handler _ => ?_
  exact Bool.and_comm ..

theorem CanFilter.overlaps_self {filter : CanFilter} : filter.overlaps filter = true :=
  overlaps_iff_bits.mpr ⟨rfl, by simp⟩

/-- Two entries no identifier passes both of. -/
def FilterEntry.IsApart (entry other : FilterEntry) : Prop :=
  ¬entry.filter.overlaps other.filter

instance : Std.Symm FilterEntry.IsApart where
  symm entry other apart := by
    rw [FilterEntry.IsApart, CanFilter.overlaps_comm]
    exact apart

/-- The entries of a table are disjoint and each holds the handlers that asked for its
filter. -/
structure FilterTable.Holds (table : FilterTable) (requested : List (ℕ × CanFilter)) : Prop where
  sorted : table.WellSorted
  disjoint : table.entries.Pairwise FilterEntry.IsApart
  owned : ∀ entry ∈ table.entries, entry.handlers = handlersOf requested entry.filter
  covered : ∀ handler ∈ requested, ∃ entry ∈ table.entries, entry.filter = handler.2.normalized

namespace Canbus

/-- The table of a bus holds its handlers, and no entry is empty or over-full. -/
structure TableOk (bus : Canbus) : Prop extends bus.table.Holds bus.requested where
  bounded : ∀ entry ∈ bus.table.entries,
    entry.handlers ≠ [] ∧ entry.handlers.length ≤ maxHandlersPerFilter
  distinct : (bus.requested.map Prod.fst).Nodup
  fresh : ∀ handler ∈ bus.requested, handler.1 < bus.nextHandlerId
  initialized : bus.requested ≠ [] → bus.isInitialized = true

variable {bus : Canbus} {registration : Registration} {handlerId : ℕ}

theorem tableOk_initial (isInitialized : Bool) : TableOk (initial isInitialized) where
  sorted := FilterTable.wellSorted_empty
  disjoint := List.Pairwise.nil
  bounded := fun _ mem => nomatch mem
  owned := fun _ mem => nomatch mem
  covered := fun _ mem => nomatch mem
  distinct := List.nodup_nil
  fresh := fun _ mem => nomatch mem
  initialized := fun ne => absurd rfl ne

/-- Entries that accept a common identifier are the same. -/
theorem TableOk.entry_unique (ok : TableOk bus) {entry other : FilterEntry}
    (mem : entry ∈ bus.table.entries) (mem' : other ∈ bus.table.entries)
    (overlap : entry.filter.overlaps other.filter = true) : entry = other := by
  by_contra ne
  exact ok.disjoint.forall mem mem' ne overlap

theorem TableOk.fresh_notMem (ok : TableOk bus) {entry : FilterEntry}
    (mem : entry ∈ bus.table.entries) : bus.nextHandlerId ∉ entry.handlers := by
  rw [ok.owned entry mem, mem_handlersOf]
  rintro ⟨own, mem, -⟩
  exact (ok.fresh _ mem).false

/-! ### What a registration does -/

/-- A change of an entry that adds a handler and may install its hardware filter. -/
def Adds (handlerId : ℕ) (change : FilterEntry → FilterEntry) : Prop :=
  ∀ entry, (change entry).filter = entry.filter ∧
    (change entry).handlers = entry.handlers ++ [handlerId]

theorem installFilter_filter (driver : ℤ) (entry : FilterEntry) :
    (installFilter driver entry).1.filter = entry.filter := by
  rw [installFilter]
  split
  · rfl
  · split <;> rfl

theorem installFilter_handlers (driver : ℤ) (entry : FilterEntry) :
    (installFilter driver entry).1.handlers = entry.handlers := by
  rw [installFilter]
  split
  · rfl
  · split <;> rfl

theorem removeHandler_addHandler {entry : FilterEntry} (absent : handlerId ∉ entry.handlers) :
    removeHandler handlerId (addHandler handlerId entry) = entry := by
  rw [removeHandler, addHandler, List.erase_append_right _ absent]
  simp

/-- The bus after a handler was added to the entry of its filter in `table`. -/
def added (bus : Canbus) (registration : Registration) (table : FilterTable)
    (change : FilterEntry → FilterEntry) : Canbus :=
  { bus with
    table := table.updateEntry registration.filter.normalized change
    requested := bus.requested ++ [(bus.nextHandlerId, registration.filter)]
    nextHandlerId := bus.nextHandlerId + 1 }

/-- The end of a registration adds the handler, or leaves the table it found, less an
entry without handlers. -/
theorem registerInEntry_cases (bus : Canbus) {entry : FilterEntry} {bus' : Canbus}
    {result : Except RegisterError ℕ} (sorted : bus.table.WellSorted)
    (stored : registration.filter.normalized.IsStored) (mem : entry ∈ bus.table.entries)
    (own : ∀ other ∈ bus.table.entries, other.filter = registration.filter.normalized →
      bus.nextHandlerId ∉ other.handlers) (named : entry.filter = registration.filter.normalized)
    (registers : bus.registerInEntry registration entry = (bus', result)) :
    (∃ error, result = .error error ∧ bus'.requested = bus.requested ∧
      bus'.isInitialized = bus.isInitialized ∧ bus.nextHandlerId ≤ bus'.nextHandlerId ∧
      bus'.table = if entry.handlers.isEmpty then
        bus.table.eraseEntry registration.filter.normalized else bus.table) ∨
    (result = .ok bus.nextHandlerId ∧ entry.handlers.length < maxHandlersPerFilter ∧
      ∃ change, Adds bus.nextHandlerId change ∧
        bus' = bus.added registration bus.table change) := by
  rw [registerInEntry] at registers
  have keeps : ∀ entry, (addHandler bus.nextHandlerId entry).filter = entry.filter := fun _ => rfl
  split at registers
  case isTrue full =>
    obtain ⟨rfl, rfl⟩ := Prod.mk.inj registers
    refine .inl ⟨_, rfl, rfl, rfl, le_rfl, ?_⟩
    -- A full list of handlers is not an empty one: the entry stays.
    have nonempty : entry.handlers ≠ [] := by
      rintro empty
      rw [empty] at full
      exact absurd full (by decide)
    rw [if_neg (by simpa using nonempty)]
  case isFalse room =>
    have room := Nat.lt_of_not_le room
    dsimp only at registers
    split at registers
    -- The filter is installed already: only the handler is added.
    · obtain ⟨rfl, rfl⟩ := Prod.mk.inj registers
      exact .inr ⟨rfl, room, addHandler bus.nextHandlerId, fun _ => ⟨rfl, rfl⟩, rfl⟩
    · split at registers
      · obtain ⟨rfl, rfl⟩ := Prod.mk.inj registers
        refine .inr ⟨rfl, room, fun entry =>
          (installFilter registration.driver (addHandler bus.nextHandlerId entry)).1, ?_, ?_⟩
        · exact fun entry => ⟨installFilter_filter .., installFilter_handlers ..⟩
        · rw [FilterTable.updateEntry_updateEntry keeps]
          rfl
      · -- The driver rejected the filter: the handler is taken back.
        obtain ⟨rfl, rfl⟩ := Prod.mk.inj registers
        refine .inl ⟨_, rfl, rfl, rfl, Nat.le_succ _, ?_⟩
        have takenBack := sorted.updateEntry_eq_self stored fun other mem same =>
          removeHandler_addHandler (own other mem same)
        rw [removeHandler_addHandler (own entry mem named),
          FilterTable.updateEntry_updateEntry keeps, takenBack]

/-- A registration fails and leaves the table as it was, or adds the handler to the entry
of its filter, or adds an entry that overlaps no other. -/
theorem TableOk.register_cases (ok : TableOk bus) {bus' : Canbus}
    {result : Except RegisterError ℕ}
    (registers : bus.registerFrameReceivedHandler registration = (bus', result)) :
    (∃ error, result = .error error ∧ bus'.requested = bus.requested ∧
      bus'.isInitialized = bus.isInitialized ∧ bus.nextHandlerId ≤ bus'.nextHandlerId ∧
      bus'.table = bus.table) ∨
    (result = .ok bus.nextHandlerId ∧ bus.isInitialized = true ∧
      registration.filter.isValid = true ∧ ∃ change table, Adds bus.nextHandlerId change ∧
        bus' = bus.added registration table change ∧
        ((table = bus.table ∧ ∃ entry ∈ bus.table.entries,
            entry.filter = registration.filter.normalized ∧
            entry.handlers.length < maxHandlersPerFilter) ∨
          (bus.table.createEntry registration.filter.normalized = some table ∧
            ∀ entry ∈ bus.table.entries,
              ¬entry.filter.overlaps registration.filter.normalized))) := by
  rw [registerFrameReceivedHandler] at registers
  -- Not initialized, an invalid filter, no free slot: refused before the table is touched.
  split at registers
  · obtain ⟨rfl, rfl⟩ := Prod.mk.inj registers
    exact .inl ⟨_, rfl, rfl, rfl, le_rfl, rfl⟩
  split at registers
  · obtain ⟨rfl, rfl⟩ := Prod.mk.inj registers
    exact .inl ⟨_, rfl, rfl, rfl, le_rfl, rfl⟩
  split at registers
  · obtain ⟨rfl, rfl⟩ := Prod.mk.inj registers
    exact .inl ⟨_, rfl, rfl, rfl, le_rfl, rfl⟩
  rename_i isInitialized _ isValid
  have isInitialized : bus.isInitialized = true := by simpa using isInitialized
  have isValid : registration.filter.isValid = true := by simpa using isValid
  have stored := CanFilter.isStored_normalized isValid
  dsimp only at registers
  -- The table is sorted, so its binary search finds what a plain search of the list finds.
  rw [ok.sorted.findEntry_eq stored] at registers
  cases found : bus.table.entries.find?
      (fun entry => entry.filter = registration.filter.normalized) with
  | some entry =>
    have mem := List.mem_of_find?_eq_some found
    have named : entry.filter = registration.filter.normalized := by
      simpa using List.find?_some found
    rw [found] at registers
    rcases bus.registerInEntry_cases ok.sorted stored mem (fun _ mem _ => ok.fresh_notMem mem)
      named registers with ⟨error, failed, requested, init, next, table⟩ |
        ⟨rfl, room, change, adds, rfl⟩
    · rw [if_neg (by simpa using (ok.bounded entry mem).1)] at table
      exact .inl ⟨error, failed, requested, init, next, table⟩
    · exact .inr ⟨rfl, isInitialized, isValid, change, _, adds, rfl,
        .inl ⟨rfl, entry, mem, named, room⟩⟩
  | none =>
    rw [found] at registers
    have absent : ∀ entry ∈ bus.table.entries,
        entry.filter ≠ registration.filter.normalized := by
      simpa using List.find?_eq_none.mp found
    dsimp only at registers
    split at registers
    · obtain ⟨rfl, rfl⟩ := Prod.mk.inj registers
      exact .inl ⟨_, rfl, rfl, rfl, le_rfl, rfl⟩
    rename_i noOverlap
    have apart : ∀ entry ∈ bus.table.entries,
        ¬entry.filter.overlaps registration.filter.normalized := by
      intro entry mem overlap
      exact noOverlap (FilterTable.hasOverlap_iff.mpr ⟨entry, mem, overlap⟩)
    cases creates : bus.table.createEntry registration.filter.normalized with
    | none =>
      rw [creates] at registers
      obtain ⟨rfl, rfl⟩ := Prod.mk.inj registers
      exact .inl ⟨_, rfl, rfl, rfl, le_rfl, rfl⟩
    | some table =>
      rw [creates] at registers
      have entries := FilterTable.entries_createEntry creates
      -- The new entry has no handlers, and every other entry has another filter.
      have own : ∀ other ∈ table.entries, other.filter = registration.filter.normalized →
          bus.nextHandlerId ∉ other.handlers := by
        intro other mem same
        rcases List.mem_cons.mp (entries.mem_iff.mp mem) with rfl | mem
        · exact List.not_mem_nil
        · exact absurd same (absent other mem)
      have sorted := ok.sorted.createEntry stored creates
      rcases Canbus.registerInEntry_cases { bus with table } sorted stored
        (entries.mem_iff.mpr List.mem_cons_self) own rfl registers with
        ⟨error, failed, requested, init, next, taken⟩ | ⟨rfl, -, change, adds, rfl⟩
      -- The driver rejected the filter: the entry just created is erased again.
      · refine .inl ⟨error, failed, requested, init, next, ?_⟩
        rw [taken]
        exact ok.sorted.eraseEntry_createEntry stored absent creates
      · exact .inr ⟨rfl, isInitialized, isValid, change, table, adds, rfl, .inr ⟨rfl, apart⟩⟩

/-! ### What every step keeps -/

end Canbus

namespace FilterTable.Holds

variable {table : FilterTable} {requested : List (ℕ × CanFilter)} {filter own : CanFilter}
  {handlerId : ℕ}

/-- Changes that keep the filters of entries keep them apart. -/
private theorem pairwise_map {entries : List FilterEntry} {change : FilterEntry → FilterEntry}
    (disjoint : entries.Pairwise FilterEntry.IsApart)
    (keeps : ∀ entry, (change entry).filter = entry.filter) :
    (entries.map change).Pairwise FilterEntry.IsApart := by
  rw [List.pairwise_map]
  refine disjoint.imp fun {entry other} apart => ?_
  rw [FilterEntry.IsApart, keeps, keeps]
  exact apart

/-- A new entry without handlers, for a filter that overlaps no other. -/
theorem created (holds : table.Holds requested) (stored : filter.IsStored) {table' : FilterTable}
    (creates : table.createEntry filter = some table')
    (apart : ∀ entry ∈ table.entries, ¬entry.filter.overlaps filter) :
    table'.Holds requested := by
  have entries := FilterTable.entries_createEntry creates
  constructor
  case sorted => exact holds.sorted.createEntry stored creates
  case disjoint =>
    rw [entries.pairwise_iff symm, List.pairwise_cons]
    refine ⟨fun entry mem => ?_, holds.disjoint⟩
    exact symm (r := FilterEntry.IsApart) (apart entry mem)
  case owned =>
    intro entry mem
    rcases List.mem_cons.mp (entries.mem_iff.mp mem) with rfl | mem
    · -- A handler of this filter would have an entry already.
      refine (List.eq_nil_iff_forall_not_mem.mpr fun other mem => ?_).symm
      obtain ⟨own, asked, rfl⟩ := mem_handlersOf.mp mem
      obtain ⟨entry, mem, same⟩ := holds.covered _ asked
      exact apart entry mem (same ▸ CanFilter.overlaps_self)
    · exact holds.owned entry mem
  case covered =>
    intro handler mem
    obtain ⟨entry, mem, same⟩ := holds.covered handler mem
    exact ⟨entry, entries.mem_iff.mpr (List.mem_cons_of_mem _ mem), same⟩

/-- An entry that nobody asked for can be erased. -/
theorem erased (holds : table.Holds requested) (stored : filter.IsStored)
    (unused : handlersOf requested filter = []) :
    (table.eraseEntry filter).Holds requested := by
  have entries := holds.sorted.entries_eraseEntry stored
  constructor
  case sorted => exact holds.sorted.eraseEntry
  case disjoint => exact entries ▸ holds.disjoint.filter _
  case owned =>
    intro entry mem
    exact holds.owned entry (List.mem_of_mem_filter (entries ▸ mem))
  case covered =>
    intro handler mem
    obtain ⟨entry, mem', same⟩ := holds.covered handler mem
    refine ⟨entry, ?_, same⟩
    rw [entries, List.mem_filter, decide_eq_true_iff]
    refine ⟨mem', fun named => ?_⟩
    have : handler.1 ∈ handlersOf requested filter :=
      mem_handlersOf.mpr ⟨handler.2, mem, same.symm.trans named⟩
    rw [unused] at this
    exact List.not_mem_nil this

/-- A change of the entry of one filter. -/
theorem updated (holds : table.Holds requested) (stored : filter.IsStored)
    {change : FilterEntry → FilterEntry} (keeps : ∀ entry, (change entry).filter = entry.filter)
    {requested' : List (ℕ × CanFilter)}
    (own : ∀ entry ∈ table.entries, entry.filter = filter →
      (change entry).handlers = handlersOf requested' filter)
    (others : ∀ entry ∈ table.entries, entry.filter ≠ filter →
      entry.handlers = handlersOf requested' entry.filter)
    (covered : ∀ handler ∈ requested', ∃ entry ∈ table.entries,
      entry.filter = handler.2.normalized) :
    (table.updateEntry filter change).Holds requested' := by
  have entries := holds.sorted.entries_updateEntry stored change
  have keeps' (entry : FilterEntry) :
      (if entry.filter = filter then change entry else entry).filter = entry.filter := by
    split
    · exact keeps entry
    · rfl
  constructor
  case sorted => exact holds.sorted.updateEntry keeps
  case disjoint => exact entries ▸ pairwise_map holds.disjoint keeps'
  case owned =>
    intro entry mem
    rw [entries] at mem
    obtain ⟨entry, old, rfl⟩ := List.mem_map.mp mem
    rw [keeps']
    split
    case isTrue named => exact named ▸ own entry old named
    case isFalse named => exact others entry old named
  case covered =>
    intro handler mem
    obtain ⟨entry, mem, same⟩ := covered handler mem
    rw [entries]
    exact ⟨_, List.mem_map_of_mem mem, (keeps' entry).trans same⟩

theorem added (holds : table.Holds requested) (stored : own.normalized.IsStored)
    {change : FilterEntry → FilterEntry} (adds : Canbus.Adds handlerId change)
    (exists_entry : ∃ entry ∈ table.entries, entry.filter = own.normalized) :
    (table.updateEntry own.normalized change).Holds (requested ++ [(handlerId, own)]) := by
  apply holds.updated stored fun entry => (adds entry).1
  · intro entry mem named
    rw [(adds entry).2, handlersOf_append, if_pos rfl, holds.owned entry mem, named]
  · intro entry mem other
    rw [handlersOf_append, if_neg (Ne.symm other), List.append_nil]
    exact holds.owned entry mem
  · intro handler mem
    rcases List.mem_append.mp mem with mem | mem
    · exact holds.covered handler mem
    · rw [List.mem_singleton.mp mem]
      exact exists_entry

theorem removed (holds : table.Holds requested) (distinct : (requested.map Prod.fst).Nodup)
    {entry : FilterEntry} (mem : entry ∈ table.entries) (registered : handlerId ∈ entry.handlers) :
    (table.updateEntry entry.filter (removeHandler handlerId)).Holds
      (requested.filter fun handler => handler.1 ≠ handlerId) := by
  have keeps : ∀ entry, (removeHandler handlerId entry).filter = entry.filter := fun _ => rfl
  apply holds.updated (holds.sorted.stored entry mem) keeps
  · intro other mem' named
    have nodup : (handlersOf requested other.filter).Nodup :=
      distinct.sublist (List.filter_sublist.map _)
    rw [handlersOf_filter, ← named, removeHandler, holds.owned other mem', nodup.erase_eq_filter]
    refine List.filter_congr fun other _ => ?_
    rw [Bool.eq_iff_iff, bne_iff_ne, decide_eq_true_iff]
  · intro other mem' named
    rw [handlersOf_filter, ← holds.owned other mem']
    refine (List.filter_eq_self.mpr fun id mem'' => ?_).symm
    rw [decide_eq_true_iff]
    rintro rfl
    -- The handler asked for one filter only.
    rw [holds.owned entry mem] at registered
    rw [holds.owned other mem'] at mem''
    obtain ⟨own, asked, requestedHere⟩ := mem_handlersOf.mp registered
    obtain ⟨own', asked', requestedThere⟩ := mem_handlersOf.mp mem''
    have same : own = own' :=
      congrArg Prod.snd (List.inj_on_of_nodup_map distinct asked asked' rfl)
    exact named (requestedThere.symm.trans (same ▸ requestedHere))
  · exact fun handler mem => holds.covered handler (List.mem_of_mem_filter mem)

end FilterTable.Holds

namespace Canbus

variable {bus : Canbus} {registration : Registration} {handlerId : ℕ}

theorem TableOk.registered (ok : TableOk bus) :
    TableOk (bus.registerFrameReceivedHandler registration).1 := by
  obtain ⟨⟨bus', result⟩, registers⟩ :
      ∃ outcome, bus.registerFrameReceivedHandler registration = outcome := ⟨_, rfl⟩
  rw [registers]
  rcases ok.register_cases registers with ⟨error, -, requested, init, next, table⟩ |
    ⟨-, init, valid, change, table, adds, rfl, places⟩
  · exact {
      toHolds := by
        rw [table, requested]
        exact ok.toHolds
      bounded := table ▸ ok.bounded
      distinct := requested ▸ ok.distinct
      fresh := fun handler mem => (ok.fresh handler (requested ▸ mem)).trans_le next
      initialized := by
        rw [requested, init]
        exact ok.initialized }
  -- The registration went through. Both ways of finding an entry leave one with room for the
  -- handler, and all others as the invariant has them.
  have stored := CanFilter.isStored_normalized valid
  obtain ⟨holds, exists_entry, bounded⟩ : table.Holds bus.requested ∧
      (∃ entry ∈ table.entries, entry.filter = registration.filter.normalized) ∧
      ∀ entry ∈ table.entries,
        if entry.filter = registration.filter.normalized then
          entry.handlers.length < maxHandlersPerFilter
        else entry.handlers ≠ [] ∧ entry.handlers.length ≤ maxHandlersPerFilter := by
    rcases places with ⟨rfl, entry, mem, named, room⟩ | ⟨creates, apart⟩
    · refine ⟨ok.toHolds, ⟨entry, mem, named⟩, fun other mem' => ?_⟩
      split
      case isTrue named' =>
        have overlap : entry.filter.overlaps other.filter = true := by
          rw [named, named']
          exact CanFilter.overlaps_self
        exact ok.entry_unique mem mem' overlap ▸ room
      case isFalse => exact ok.bounded other mem'
    · have entries := FilterTable.entries_createEntry creates
      refine ⟨ok.toHolds.created stored creates apart,
        ⟨_, entries.mem_iff.mpr List.mem_cons_self, rfl⟩, fun other mem' => ?_⟩
      rcases List.mem_cons.mp (entries.mem_iff.mp mem') with rfl | mem'
      · rw [if_pos rfl]
        exact Nat.zero_lt_succ _
      · have ne : other.filter ≠ registration.filter.normalized := fun named =>
          apart other mem' (named ▸ CanFilter.overlaps_self)
        rw [if_neg ne]
        exact ok.bounded other mem'
  constructor
  case toHolds => exact holds.added stored adds exists_entry
  case bounded =>
    intro entry mem
    rw [added, holds.sorted.entries_updateEntry stored] at mem
    obtain ⟨entry, old, rfl⟩ := List.mem_map.mp mem
    have := bounded entry old
    split
    case isTrue named =>
      rw [if_pos named] at this
      rw [(adds entry).2, List.length_append]
      exact ⟨by simp, this⟩
    case isFalse named =>
      rwa [if_neg named] at this
  -- Handler IDs are handed out upwards, so the next one is new.
  case distinct =>
    rw [added, List.map_append, List.nodup_append]
    refine ⟨ok.distinct, List.nodup_singleton _, fun handlerId mem next mem' => ?_⟩
    obtain ⟨handler, asked, rfl⟩ := List.mem_map.mp mem
    rw [List.mem_singleton.mp mem']
    exact (ok.fresh handler asked).ne
  case fresh =>
    intro handler mem
    rcases List.mem_append.mp mem with mem | mem
    · exact (ok.fresh handler mem).trans (Nat.lt_succ_self _)
    · rw [List.mem_singleton.mp mem]
      exact Nat.lt_succ_self _
  case initialized => exact fun _ => init

/-- The bus after a handler was removed from its entry. -/
def removed (bus : Canbus) (entry : FilterEntry) (handlerId : ℕ) : Canbus :=
  let table := bus.table.updateEntry entry.filter (removeHandler handlerId)
  { bus with
    table :=
      if (removeHandler handlerId entry).handlers.isEmpty then table.eraseEntry entry.filter
      else table
    requested := bus.requested.filter fun handler => handler.1 ≠ handlerId }

/-- Removing finds the handler in the entry of its filter, or does nothing. -/
theorem remove_cases (bus : Canbus) (handlerId : ℕ) :
    ((bus.isInitialized = false ∨ ∀ entry ∈ bus.table.entries, handlerId ∉ entry.handlers) ∧
      bus.removeFrameReceivedHandler handlerId = (bus, false)) ∨
    ∃ entry ∈ bus.table.entries, handlerId ∈ entry.handlers ∧
      bus.removeFrameReceivedHandler handlerId = (bus.removed entry handlerId, true) := by
  rw [removeFrameReceivedHandler, FilterTable.findEntryByHandler_eq]
  by_cases isInitialized : bus.isInitialized
  · rw [if_neg (by simp [isInitialized])]
    cases found : bus.table.entries.find? (fun entry => handlerId ∈ entry.handlers) with
    | none =>
      have absent : ∀ entry ∈ bus.table.entries, handlerId ∉ entry.handlers := by
        simpa using List.find?_eq_none.mp found
      exact .inl ⟨.inr absent, rfl⟩
    | some entry =>
      have registered : handlerId ∈ entry.handlers := by simpa using List.find?_some found
      refine .inr ⟨entry, List.mem_of_find?_eq_some found, registered, ?_⟩
      rw [removed]
      dsimp only
      split <;> rfl
  · rw [if_pos (by simp [isInitialized])]
    exact .inl ⟨.inl (by simpa using isInitialized), rfl⟩

theorem TableOk.removed (ok : TableOk bus) :
    TableOk (bus.removeFrameReceivedHandler handlerId).1 := by
  rcases bus.remove_cases handlerId with ⟨-, removes⟩ | ⟨entry, mem, registered, removes⟩
  · rw [removes]
    exact ok
  rw [removes]
  have stored := ok.sorted.stored entry mem
  have holds := ok.toHolds.removed ok.distinct mem registered
  have entries := ok.sorted.entries_updateEntry stored (removeHandler handlerId)
  -- The entry is the only one of its filter.
  have unique : ∀ other ∈ bus.table.entries, other.filter = entry.filter → other = entry := by
    intro other mem' named
    exact ok.entry_unique mem' mem (named ▸ CanFilter.overlaps_self)
  have bounded : ∀ other ∈ (bus.table.updateEntry entry.filter (removeHandler handlerId)).entries,
      other = removeHandler handlerId entry ∨
        (other.handlers ≠ [] ∧ other.handlers.length ≤ maxHandlersPerFilter) := by
    intro other mem'
    rw [entries] at mem'
    obtain ⟨other, old, rfl⟩ := List.mem_map.mp mem'
    split
    case isTrue named => exact .inl (congrArg _ (unique other old named))
    case isFalse => exact .inr (ok.bounded other old)
  have shorter : (removeHandler handlerId entry).handlers.length ≤ maxHandlersPerFilter :=
    List.erase_sublist.length_le.trans (ok.bounded entry mem).2
  have rest : ((bus.requested.filter fun handler => handler.1 ≠ handlerId).map Prod.fst).Nodup ∧
      (∀ handler ∈ bus.requested.filter fun handler => handler.1 ≠ handlerId,
        handler.1 < bus.nextHandlerId) ∧
      ((bus.requested.filter fun handler => handler.1 ≠ handlerId) ≠ [] →
        bus.isInitialized = true) := by
    refine ⟨ok.distinct.sublist (List.filter_sublist.map _), fun handler mem =>
      ok.fresh handler (List.mem_of_mem_filter mem), fun some => ok.initialized fun none => ?_⟩
    rw [none] at some
    exact some rfl
  rw [Canbus.removed]
  dsimp only
  split
  case isTrue isEmpty =>
    rw [List.isEmpty_iff] at isEmpty
    have unused : handlersOf (bus.requested.filter fun handler => handler.1 ≠ handlerId)
        entry.filter = [] := by
      have own := holds.owned (removeHandler handlerId entry) (by
        rw [entries]
        exact List.mem_map.mpr ⟨entry, mem, if_pos rfl⟩)
      exact own.symm.trans isEmpty
    refine ⟨holds.erased stored unused, fun other mem' => ?_, rest.1, rest.2.1, rest.2.2⟩
    rw [holds.sorted.entries_eraseEntry stored] at mem'
    obtain ⟨mem', named⟩ := List.mem_filter.mp mem'
    refine (bounded other mem').resolve_left ?_
    rintro rfl
    simp [removeHandler] at named
  case isFalse isNotEmpty =>
    rw [List.isEmpty_iff] at isNotEmpty
    refine ⟨holds, fun other mem' => ?_, rest.1, rest.2.1, rest.2.2⟩
    rcases bounded other mem' with rfl | bounded
    · exact ⟨isNotEmpty, shorter⟩
    · exact bounded

theorem TableOk.installed (ok : TableOk bus) (driver : CanFilter → ℤ) :
    TableOk (bus.installDeferredFilters driver) := by
  let install (entry : FilterEntry) := (installFilter (driver entry.filter) entry).1
  have filters : ∀ entry, (install entry).filter = entry.filter := fun entry =>
    installFilter_filter _ entry
  have handlers : ∀ entry, (install entry).handlers = entry.handlers := fun entry =>
    installFilter_handlers _ entry
  have entries := bus.table.entries_mapEntries install
  have mem_old : ∀ entry ∈ (bus.table.mapEntries install).entries, ∃ old ∈ bus.table.entries,
      entry.filter = old.filter ∧ entry.handlers = old.handlers := by
    intro entry mem
    rw [entries] at mem
    obtain ⟨old, mem', rfl⟩ := List.mem_map.mp mem
    exact ⟨old, mem', filters old, handlers old⟩
  constructor
  case bounded =>
    intro entry mem
    obtain ⟨old, mem, -, same⟩ := mem_old entry mem
    exact same ▸ ok.bounded old mem
  case toHolds =>
    constructor
    case sorted => exact ok.sorted.mapEntries filters
    case disjoint => exact entries ▸ FilterTable.Holds.pairwise_map ok.disjoint filters
    case owned =>
      intro entry mem
      obtain ⟨old, mem, named, same⟩ := mem_old entry mem
      rw [same, named]
      exact ok.owned old mem
    case covered =>
      intro handler mem
      obtain ⟨entry, mem, same⟩ := ok.covered handler mem
      refine ⟨install entry, ?_, (filters entry).trans same⟩
      exact entries ▸ List.mem_map_of_mem mem
  case distinct => exact ok.distinct
  case fresh => exact ok.fresh
  case initialized => exact ok.initialized

theorem TableOk.performed (ok : TableOk bus) (call : CanbusCall) : TableOk (bus.perform call) := by
  cases call with
  | register registration => exact ok.registered
  | remove handlerId => exact ok.removed

/-! ### Dispatching -/

variable {canId : CanId} {calls : ℕ → List CanbusCall} {removed : List CanbusCall}

theorem mem_matching : handlerId ∈ bus.matching canId ↔
    ∃ own, (handlerId, own) ∈ bus.requested ∧ own.accepts canId = true := by
  simp [matching]

/-- The entry found for a frame holds the handlers whose own filter matches. -/
theorem TableOk.handlers_eq_matching (ok : TableOk bus) (valid : canId.isValid = true)
    {entry : FilterEntry} (found : bus.table.findMatchingEntry canId = some entry) :
    entry.handlers = bus.matching canId := by
  rw [ok.sorted.findMatchingEntry_eq valid] at found
  have mem := List.mem_of_find?_eq_some found
  have accepts := List.find?_some found
  rw [ok.owned entry mem, handlersOf, matching]
  congr 1
  refine List.filter_congr fun handler asked => ?_
  rw [Bool.eq_iff_iff, decide_eq_true_iff]
  constructor
  · intro named
    rw [← CanFilter.accepts_normalized, named]
    exact accepts
  · intro accepts'
    obtain ⟨other, mem', named⟩ := ok.covered handler asked
    rw [← CanFilter.accepts_normalized, ← named] at accepts'
    have same := ok.entry_unique mem' mem (CanFilter.overlaps_of_accepts accepts' accepts)
    rw [← named, same]

theorem TableOk.matching_eq_nil (ok : TableOk bus) (valid : canId.isValid = true)
    (found : bus.table.findMatchingEntry canId = none) : bus.matching canId = [] := by
  rw [ok.sorted.findMatchingEntry_eq valid, List.find?_eq_none] at found
  refine List.eq_nil_iff_forall_not_mem.mpr fun handlerId mem => ?_
  obtain ⟨own, asked, accepts⟩ := mem_matching.mp mem
  obtain ⟨entry, mem, named⟩ := ok.covered _ asked
  refine found entry mem ?_
  rw [named, CanFilter.accepts_normalized]
  exact accepts

theorem TableOk.nodup_matching (ok : TableOk bus) : (bus.matching canId).Nodup :=
  ok.distinct.sublist (List.filter_sublist.map _)

theorem TableOk.length_matching (ok : TableOk bus) (valid : canId.isValid = true) :
    (bus.matching canId).length ≤ maxHandlersPerFilter := by
  cases found : bus.table.findMatchingEntry canId with
  | none =>
    rw [ok.matching_eq_nil valid found]
    exact Nat.zero_le _
  | some entry =>
    rw [← ok.handlers_eq_matching valid found]
    rw [ok.sorted.findMatchingEntry_eq valid] at found
    exact (ok.bounded entry (List.mem_of_find?_eq_some found)).2

/-- A call takes a handler out of those a frame is for by removing it. -/
theorem TableOk.mem_matching_perform (ok : TableOk bus) (canId : CanId)
    (old : handlerId < bus.nextHandlerId) (call : CanbusCall) :
    bus.nextHandlerId ≤ (bus.perform call).nextHandlerId ∧
      (handlerId ∈ (bus.perform call).matching canId ↔
        handlerId ∈ bus.matching canId ∧ call ≠ .remove handlerId) := by
  cases call with
  | register registration =>
    obtain ⟨⟨bus', result⟩, registers⟩ :
        ∃ outcome, bus.registerFrameReceivedHandler registration = outcome := ⟨_, rfl⟩
    rw [perform, registers]
    rcases ok.register_cases registers with ⟨error, -, requested, -, next, -⟩ |
      ⟨-, -, -, change, table, -, rfl, -⟩
    · refine ⟨next, ?_⟩
      rw [matching, requested]
      simp [matching]
    · refine ⟨Nat.le_succ _, ?_⟩
      rw [mem_matching, mem_matching]
      simp [added, old.ne]
  | remove other =>
    rw [perform]
    rcases bus.remove_cases other with ⟨absent, removes⟩ | ⟨entry, mem, registered, removes⟩
    · rw [removes]
      refine ⟨le_rfl, (and_iff_left_of_imp fun asked same => ?_).symm⟩
      -- Nothing was removed, so the other handler is not registered.
      obtain rfl := CanbusCall.remove.inj same
      obtain ⟨own, asked, -⟩ := mem_matching.mp asked
      rcases absent with notInitialized | absent
      · rw [ok.initialized (List.ne_nil_of_mem asked)] at notInitialized
        exact Bool.noConfusion notInitialized
      · obtain ⟨entry, mem, named⟩ := ok.covered _ asked
        refine absent entry mem ?_
        rw [ok.owned entry mem]
        exact mem_handlersOf.mpr ⟨own, asked, named.symm⟩
    · rw [removes]
      refine ⟨le_rfl, ?_⟩
      rw [mem_matching, mem_matching]
      simp only [Canbus.removed, List.mem_filter, decide_eq_true_eq, ne_eq,
        CanbusCall.remove.injEq, eq_comm (a := other)]
      tauto

theorem TableOk.mem_matching_run (ok : TableOk bus) (canId : CanId)
    (old : handlerId < bus.nextHandlerId) (calls : List CanbusCall) :
    TableOk (run perform bus calls) ∧
      bus.nextHandlerId ≤ (run perform bus calls).nextHandlerId ∧
      (handlerId ∈ (run perform bus calls).matching canId ↔
        handlerId ∈ bus.matching canId ∧ .remove handlerId ∉ calls) := by
  induction calls generalizing bus with
  | nil => exact ⟨ok, le_rfl, by simp⟩
  | cons call calls ih =>
    obtain ⟨next, one⟩ := ok.mem_matching_perform canId old call
    obtain ⟨okAfter, nextAfter, rest⟩ := ih (ok.performed call) (old.trans_le next)
    refine ⟨okAfter, next.trans nextAfter, ?_⟩
    rw [run_cons, rest, one, List.mem_cons, not_or, and_assoc, ne_comm]

theorem skipRemoved_eq_nil {handlerIds : List ℕ}
    (gone : ∀ handlerId ∈ handlerIds, .remove handlerId ∈ removed) :
    skipRemoved calls removed handlerIds = [] := by
  induction handlerIds with
  | nil => rfl
  | cons handlerId rest ih =>
    rw [skipRemoved, if_pos (gone handlerId List.mem_cons_self)]
    exact ih fun other mem => gone other (List.mem_cons_of_mem _ mem)

/-- The loop calls the handlers of its snapshot, less those removed before their turn. -/
theorem TableOk.dispatchTo_eq (ok : TableOk bus) (valid : canId.isValid = true)
    {handlerIds : List ℕ} (old : ∀ handlerId ∈ handlerIds, handlerId < bus.nextHandlerId)
    (due : ∀ handlerId ∈ handlerIds,
      handlerId ∈ bus.matching canId ↔ .remove handlerId ∉ removed) :
    TableOk (dispatchTo canId calls handlerIds bus).1 ∧
      (dispatchTo canId calls handlerIds bus).2 = skipRemoved calls removed handlerIds := by
  induction handlerIds generalizing bus removed with
  | nil => exact ⟨ok, rfl⟩
  | cons handlerId rest ih =>
    have oldRest other mem := old other (List.mem_cons_of_mem handlerId mem)
    have dueRest other mem := due other (List.mem_cons_of_mem handlerId mem)
    have dueHere := due handlerId List.mem_cons_self
    rw [dispatchTo]
    cases found : bus.table.findMatchingEntry canId with
    | none =>
      -- No handler is left for the frame.
      refine ⟨ok, (skipRemoved_eq_nil fun other mem => ?_).symm⟩
      rw [ok.matching_eq_nil valid found] at due
      exact not_not.mp fun kept => List.not_mem_nil ((due other mem).mpr kept)
    | some current =>
      dsimp only
      rw [ok.handlers_eq_matching valid found, skipRemoved]
      by_cases mem : handlerId ∈ bus.matching canId
      · rw [if_pos mem, if_neg (dueHere.mp mem)]
        have okAfter : TableOk (run perform bus (calls handlerId)) :=
          (ok.mem_matching_run canId (old handlerId List.mem_cons_self) _).1
        have oldAfter : ∀ other ∈ rest,
            other < (run perform bus (calls handlerId)).nextHandlerId := fun other mem =>
          (oldRest other mem).trans_le
            (ok.mem_matching_run canId (oldRest other mem) _).2.1
        have dueAfter : ∀ other ∈ rest,
            other ∈ (run perform bus (calls handlerId)).matching canId ↔
              .remove other ∉ removed ++ calls handlerId := by
          intro other mem
          rw [(ok.mem_matching_run canId (oldRest other mem) _).2.2, dueRest other mem,
            List.mem_append, not_or]
        obtain ⟨okEnd, called⟩ := ih okAfter oldAfter dueAfter
        exact ⟨okEnd, congrArg _ called⟩
      · rw [if_neg mem, if_pos (not_not.mp fun kept => mem (dueHere.mpr kept))]
        exact ih ok oldRest dueRest

/-- A frame calls the handlers whose own filter matches its identifier, less those
removed before their turn. -/
theorem TableOk.dispatchFrame_eq (ok : TableOk bus) (frame : FrameDispatch) :
    TableOk (bus.dispatchFrame frame).1 ∧
      (bus.dispatchFrame frame).2 =
        skipRemoved frame.calls [] (frame.traverse (bus.matching frame.canId)) := by
  have valid := frame.valid
  rw [dispatchFrame]
  cases found : bus.table.findMatchingEntry frame.canId with
  | none =>
    rw [ok.matching_eq_nil valid found, (frame.traverse_perm []).eq_nil]
    exact ⟨ok, rfl⟩
  | some entry =>
    have order := frame.traverse_perm (bus.matching frame.canId)
    dsimp only
    rw [ok.handlers_eq_matching valid found,
      List.take_of_length_le (order.length_eq.trans_le (ok.length_matching valid))]
    apply ok.dispatchTo_eq valid
    · intro handlerId mem
      obtain ⟨own, asked, -⟩ := mem_matching.mp (order.mem_iff.mp mem)
      exact ok.fresh _ asked
    · intro handlerId mem
      exact iff_of_true (order.mem_iff.mp mem) List.not_mem_nil

/-! ### Every run -/

theorem TableOk.step (ok : TableOk bus) (event : Event) : TableOk (bus.step event) := by
  cases event with
  | call call => exact ok.performed call
  | frame frame => exact (ok.dispatchFrame_eq frame).1
  | bitrateDetected driver => exact ok.installed driver

/-- What the table promises the handlers: the entries are disjoint as sets of
identifiers, none is empty or over-full, and a failed registration changes nothing. -/
structure KeepsTable (bus : Canbus) : Prop where
  disjoint : bus.table.entries.Pairwise fun entry other =>
    ∀ canId, ¬(entry.filter.accepts canId = true ∧ other.filter.accepts canId = true)
  bounded : ∀ entry ∈ bus.table.entries,
    1 ≤ entry.handlers.length ∧ entry.handlers.length ≤ maxHandlersPerFilter
  failed : ∀ registration error, (bus.registerFrameReceivedHandler registration).2 = .error error →
    (bus.registerFrameReceivedHandler registration).1.table = bus.table

/-- What a frame promises the handlers: those whose own filter matches are due, in some
order and each once, and those due are called unless one called before has removed them. -/
def Dispatches (bus : Canbus) (frame : FrameDispatch) : Prop :=
  ∃ due : List ℕ, due.Nodup ∧
    (∀ handlerId, handlerId ∈ due ↔
      ∃ own, (handlerId, own) ∈ bus.requested ∧ own.accepts frame.canId = true) ∧
    (bus.dispatchFrame frame).2 = skipRemoved frame.calls [] due

theorem TableOk.keepsTable (ok : TableOk bus) : KeepsTable bus where
  disjoint := ok.disjoint.imp fun apart canId both =>
    apart (CanFilter.overlaps_of_accepts both.1 both.2)
  bounded := by
    intro entry mem
    obtain ⟨nonempty, bounded⟩ := ok.bounded entry mem
    exact ⟨List.length_pos_iff.mpr nonempty, bounded⟩
  failed := by
    intro registration error failed
    obtain ⟨⟨bus', result⟩, registers⟩ :
        ∃ outcome, bus.registerFrameReceivedHandler registration = outcome := ⟨_, rfl⟩
    rw [registers] at failed ⊢
    rcases ok.register_cases registers with ⟨_, -, -, -, -, table⟩ | ⟨succeeded, -⟩
    · exact table
    · rw [succeeded] at failed
      cases failed

theorem TableOk.dispatches (ok : TableOk bus) (frame : FrameDispatch) : bus.Dispatches frame := by
  have order := frame.traverse_perm (bus.matching frame.canId)
  refine ⟨_, order.nodup_iff.mpr ok.nodup_matching, fun handlerId => ?_,
    (ok.dispatchFrame_eq frame).2⟩
  exact order.mem_iff.trans mem_matching

/-- In every state of every run of registrations, removals and frames, the table keeps
what it promises and the next frame calls the handlers whose own filter matches it. -/
theorem filterTable_and_dispatch (isInitialized : Bool) (events : List Event) :
    Always step (fun bus => KeepsTable bus ∧ ∀ frame, bus.Dispatches frame)
      (initial isInitialized) events := by
  have ok := always_of_preserved (tableOk_initial isInitialized)
    (fun bus event ok => TableOk.step ok event) events
  exact ok.imp fun bus ok => ⟨ok.keepsTable, ok.dispatches⟩

/-- Two handlers share an entry and remove each other: the first one called stays. -/
example :
    let register (id : UInt32) : CanbusCall := .register ⟨⟨id, 0x7F0, false⟩, false, false, 0⟩
    let bus := run perform (initial true) [register 0x10, register 0x13]
    (bus.dispatchFrame ⟨⟨0x15, false⟩, by decide, fun id => [.remove (3 - id)], List.reverse,
      List.reverse_perm⟩).2 = [2] := by
  decide

end Canbus

end RtCore.Can
