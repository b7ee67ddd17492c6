import RtCore.Foundation.FloatBits
import RtCore.Foundation.RingBuffer
import RtCore.Foundation.Run
import RtCore.Foundation.WorkItem
import RtCore.Logging.TriggerSet

/-!
# The queue of a control sensor

`ControlSensorReader` queues the values its control publishes and processes them in a work item. An
indicator keeps every level while there is room; an analog sensor, and every sensor during a pause,
keeps the newest. The handler of an input, the work item and the thread that pauses and resumes run
at the same time. What each of them does under the lock is one step, and so is what it does between
two of these.

## Main definitions

* `ControlSensorReader` with `onInput`, `processNext`, `pauseLock` and the other steps
* `ReaderStep`, `ControlSensorReader.step` — the interleavings

## Main results

* `ControlSensorReader.queue_guarantees` — what is processed of what was published, what a pause
  keeps from being processed, what is lost, and what the last value is
-/

namespace RtCore.Sensors

open RtCore.Foundation
open RtCore.Logging (EventData)

/-- Numbers as `float`, by their bits. -/
structure FloatCasts where
  ofInt : ℤ → UInt32
  ofUnsigned : UInt32 → UInt32

/-- `1.0F`. -/
def floatOne : UInt32 := 0x3F800000

/-- A bool as 1 or 0 and a number as it is. Text and NaN are no input. -/
def readInput (casts : FloatCasts) : EventData → Option UInt32
  | .flag flag => some (if flag then floatOne else 0)
  | .int number => some (casts.ofInt number)
  | .unsigned number => some (casts.ofUnsigned number)
  | .real bits => if FloatBits.isNan bits then none else some bits
  | .text _ => none

/-- The number that is queued for a value; an indicator takes it as a level. -/
def inputLevel (casts : FloatCasts) (isIndicator : Bool) (value : EventData) : Option UInt32 :=
  (readInput casts value).map fun number =>
    if isIndicator then (if FloatBits.eq number 0 then 0 else floatOne) else number

/-- A readable input, with the number of those published before it. -/
structure ControlInput where
  index : ℕ
  level : UInt32
  deriving DecidableEq, Repr

/-- Where the handler of an input is. -/
inductive InputHandler where
  | idle
  | dropping
  | submitting
  deriving DecidableEq, Repr

/-- Where the thread that pauses and resumes is; `paused` and `running` are between its calls. -/
inductive PauseControl where
  | running
  | pausing
  | cancelling
  | paused
  | resuming (hasValue : Bool)
  deriving DecidableEq, Repr

/-- A reader with its queue, and a record of what became of its inputs. -/
structure ControlSensorReader where
  isIndicator : Bool
  queue : RingBuffer ControlInput
  isPaused : Bool := false
  /-- `dropped_count_`, read as 32 bits. -/
  droppedCount : UInt32 := 0
  work : WorkItem := {}
  /-- The value that the work item has taken and is processing. -/
  inFlight : Option ControlInput := none
  handler : InputHandler := .idle
  control : PauseControl := .running
  /-- The values published so far. -/
  published : List EventData := []
  /-- The readable ones among them, as numbers or levels. -/
  inputs : List UInt32 := []
  processed : List ControlInput := []
  dropped : List ControlInput := []

namespace ControlSensorReader

/-- `QUEUE_CAPACITY`. -/
def queueCapacity : ℕ := 16

/-- A reader that was just built. -/
def create (isIndicator : Bool) : ControlSensorReader where
  isIndicator := isIndicator
  queue := .create ⟨0, 0⟩ queueCapacity

/-! ### Steps -/

section Steps

variable (casts : FloatCasts) (reader : ControlSensorReader)

/-- `QueueInput`, the part under the lock. -/
def queueInput (level : UInt32) : ControlSensorReader :=
  let input : ControlInput := ⟨reader.inputs.length, level⟩
  let handler := if reader.isPaused then InputHandler.idle else InputHandler.submitting
  let reader := { reader with inputs := reader.inputs ++ [level] }
  if 0 < reader.queue.count ∧ (reader.isPaused = true ∨ reader.isIndicator = false) then
    { reader with queue := reader.queue.replaceNewest input, handler }
  else if full : reader.queue.count = reader.queue.slots.length then
    { reader with dropped := reader.dropped ++ [input], handler := .dropping }
  else
    { reader with
      queue := reader.queue.append input (Nat.lt_of_le_of_ne reader.queue.count_le full)
      handler }

/-- `OnInput`; the guard lets one handler in at a time. -/
def onInput (value : EventData) : ControlSensorReader :=
  match reader.handler with
  | .idle =>
    let reader := { reader with published := reader.published ++ [value] }
    match inputLevel casts reader.isIndicator value with
    | none => reader
    | some level => reader.queueInput level
  | _ => reader

/-- `QueueInput`, the part behind the lock: the drop is counted or the work item submitted. -/
def finishInput (accepts : Bool) : ControlSensorReader :=
  match reader.handler with
  | .idle => reader
  | .dropping => { reader with droppedCount := reader.droppedCount + 1, handler := .idle }
  | .submitting => { reader with work := reader.work.submit accepts, handler := .idle }

/-- `ProcessPendingInputs`, the part under the lock: the oldest value is taken, or the run ends. -/
def processNext : ControlSensorReader :=
  if reader.work.isRunning = true ∧ reader.inFlight = none then
    if 0 < reader.queue.count ∧ reader.isPaused = false then
      { reader with inFlight := reader.queue.pop.1, queue := reader.queue.pop.2 }
    else { reader with work := reader.work.finish }
  else reader

/-- `ProcessPendingInputs`, the part behind the lock: the value is processed. A failure is only
logged. -/
def processValue : ControlSensorReader :=
  match reader.inFlight with
  | none => reader
  | some input => { reader with processed := reader.processed ++ [input], inFlight := none }

/-- `Pause`, the part under the lock. -/
def pauseLock : ControlSensorReader :=
  match reader.control with
  | .running | .paused =>
    { reader with isPaused := true, queue := reader.queue.keepNewest, control := .pausing }
  | _ => reader

/-- `Pause`, the work item is cancelled. -/
def pauseCancel : ControlSensorReader :=
  match reader.control with
  | .pausing => { reader with work := reader.work.cancel, control := .cancelling }
  | _ => reader

/-- `Pause` returns once no run is being waited for. -/
def pauseReturn : ControlSensorReader :=
  match reader.control with
  | .cancelling => if reader.work.isCanceling then reader else { reader with control := .paused }
  | _ => reader

/-- `Resume`, the part under the lock. -/
def resumeLock : ControlSensorReader :=
  match reader.control with
  | .running | .paused =>
    { reader with isPaused := false, control := .resuming (0 < reader.queue.count) }
  | _ => reader

/-- `Resume`, the part behind the lock. -/
def resumeReturn (accepts : Bool) : ControlSensorReader :=
  match reader.control with
  | .resuming hasValue =>
    { reader with
      work := if hasValue then reader.work.submit accepts else reader.work
      control := .running }
  | _ => reader

end Steps

end ControlSensorReader

/-- A step of one of the threads; `accepts` is what the work queue does with a submission. -/
inductive ReaderStep where
  | onInput (value : EventData)
  | finishInput (accepts : Bool)
  | startWork
  | processNext
  | processValue
  | pauseLock
  | pauseCancel
  | pauseReturn
  | resumeLock
  | resumeReturn (accepts : Bool)
  deriving DecidableEq, Repr

/-- Whether a step neither publishes an input nor reduces the queue for a pause. -/
def ReaderStep.isSilent : ReaderStep → Bool
  | onInput _ | pauseLock => false
  | _ => true

namespace ControlSensorReader

/-- The reader after a step; a thread that has to wait does nothing. -/
def step (casts : FloatCasts) (reader : ControlSensorReader) : ReaderStep → ControlSensorReader
  | .onInput value => reader.onInput casts value
  | .finishInput accepts => reader.finishInput accepts
  | .startWork => { reader with work := reader.work.start }
  | .processNext => reader.processNext
  | .processValue => reader.processValue
  | .pauseLock => reader.pauseLock
  | .pauseCancel => reader.pauseCancel
  | .pauseReturn => reader.pauseReturn
  | .resumeLock => reader.resumeLock
  | .resumeReturn accepts => reader.resumeReturn accepts

/-- A value that cannot be read only counts as published; else it is queued, if the guard is
free. -/
theorem onInput_cases (casts : FloatCasts) (reader : ControlSensorReader) (value : EventData) :
    reader.onInput casts value = reader ∨
      inputLevel casts reader.isIndicator value = none ∧
        reader.onInput casts value = { reader with published := reader.published ++ [value] } ∨
      reader.handler = .idle ∧ ∃ level, inputLevel casts reader.isIndicator value = some level ∧
        reader.onInput casts value =
          { reader with published := reader.published ++ [value] }.queueInput level := by
  unfold onInput
  split
  case h_1 free =>
    dsimp only
    split
    case h_1 unreadable => exact .inr (.inl ⟨unreadable, rfl⟩)
    case h_2 level readable => exact .inr (.inr ⟨free, level, readable, rfl⟩)
  case h_2 => exact .inl rfl

theorem pauseLock_cases (reader : ControlSensorReader) :
    reader.pauseLock = reader ∨
      reader.pauseLock = { reader with isPaused := true, queue := reader.queue.keepNewest,
                                       control := .pausing } := by
  unfold pauseLock
  split
  · exact .inr rfl
  · exact .inr rfl
  · exact .inl rfl

/-! ### What became of the inputs -/

section Fates

variable (reader : ControlSensorReader)

/-- The readable inputs with their numbers. -/
def numbered : List ControlInput := reader.inputs.mapIdx ControlInput.mk

/-- The values the work item has taken, the last one perhaps still being processed. -/
def taken : List ControlInput := reader.processed ++ reader.inFlight.toList

/-- The values that were processed or will be. -/
def kept : List ControlInput := reader.taken ++ reader.queue.contents

/-- An input that is neither kept nor among those dropped. -/
def Lost (input : ControlInput) : Prop :=
  input ∈ reader.numbered ∧ input ∉ reader.kept ∧ input ∉ reader.dropped

end Fates

variable {casts : FloatCasts} {reader after : ControlSensorReader}

theorem numbered_of_inputs {level : UInt32} (inputs : after.inputs = reader.inputs ++ [level]) :
    after.numbered = reader.numbered ++ [⟨reader.inputs.length, level⟩] := by
  rw [numbered, inputs, List.mapIdx_append]
  simp [numbered]

theorem getElem?_numbered (reader : ControlSensorReader) (index : ℕ) :
    reader.numbered[index]? = reader.inputs[index]?.map (ControlInput.mk index) :=
  List.getElem?_mapIdx

theorem map_level_numbered (reader : ControlSensorReader) :
    reader.numbered.map ControlInput.level = reader.inputs := by
  ext1 index
  rw [List.getElem?_map, getElem?_numbered]
  cases reader.inputs[index]? with
  | none => rfl
  | some level => rfl

/-- An input's number says how many were published before it. -/
theorem index_lt_of_mem {input : ControlInput} (member : input ∈ reader.numbered) :
    input.index < reader.inputs.length := by
  obtain ⟨index, found⟩ := List.mem_iff_getElem?.mp member
  rw [getElem?_numbered] at found
  obtain ⟨level, there, rfl⟩ := Option.map_eq_some_iff.mp found
  exact (List.getElem?_eq_some_iff.mp there).1

theorem index_of_getLast {input : ControlInput} (last : reader.numbered.getLast? = some input) :
    input.index = reader.inputs.length - 1 := by
  rw [List.getLast?_eq_getElem?, getElem?_numbered] at last
  obtain ⟨level, -, rfl⟩ := Option.map_eq_some_iff.mp last
  simp [numbered]

/-- The drops that were counted or are about to be. -/
def dropCount (reader : ControlSensorReader) : UInt32 :=
  reader.droppedCount + if reader.handler = .dropping then 1 else 0

/-- A step at which no input comes, goes or is dropped. -/
structure Carries (reader after : ControlSensorReader) : Prop where
  isIndicator : after.isIndicator = reader.isIndicator
  published : after.published = reader.published
  inputs : after.inputs = reader.inputs
  kept : after.kept = reader.kept
  dropped : after.dropped = reader.dropped
  dropCount : after.dropCount = reader.dropCount

/-- A step at which an input is queued or dropped. -/
structure Queues (reader : ControlSensorReader) (input : ControlInput)
    (after : ControlSensorReader) : Prop where
  isIndicator : after.isIndicator = reader.isIndicator
  isPaused : after.isPaused = reader.isPaused
  published : after.published = reader.published
  inputs : after.inputs = reader.inputs ++ [input.level]
  taken : after.taken = reader.taken
  droppedCount : after.droppedCount = reader.droppedCount
  outcome :
    (reader.isPaused = true ∨ reader.isIndicator = false) ∧ after.dropped = reader.dropped ∧
        after.handler ≠ .dropping ∧
        after.queue.contents = reader.queue.contents.dropLast ++ [input] ∨
      after.dropped = reader.dropped ∧ after.handler ≠ .dropping ∧
        after.queue.contents = reader.queue.contents ++ [input] ∨
      after.dropped = reader.dropped ++ [input] ∧ after.handler = .dropping ∧
        after.queue.contents = reader.queue.contents

theorem queueInput_queues (reader : ControlSensorReader) (level : UInt32) :
    Queues reader ⟨reader.inputs.length, level⟩ (reader.queueInput level) := by
  have waits : (if reader.isPaused then InputHandler.idle else .submitting) ≠ .dropping := by
    split <;> exact nofun
  unfold queueInput
  dsimp only
  split
  case isTrue replaces =>
    have contents := reader.queue.contents_replaceNewest ⟨reader.inputs.length, level⟩ replaces.1
    exact ⟨rfl, rfl, rfl, rfl, rfl, rfl, .inl ⟨replaces.2, rfl, waits, contents⟩⟩
  case isFalse =>
    split
    case isTrue => exact ⟨rfl, rfl, rfl, rfl, rfl, rfl, .inr (.inr ⟨rfl, rfl, rfl⟩)⟩
    case isFalse full =>
      have contents := reader.queue.contents_append ⟨reader.inputs.length, level⟩
        (Nat.lt_of_le_of_ne reader.queue.count_le full)
      exact ⟨rfl, rfl, rfl, rfl, rfl, rfl, .inr (.inl ⟨rfl, waits, contents⟩)⟩

/-- The value that is taken stays among those kept. -/
protected theorem Carries.refl (reader : ControlSensorReader) : Carries reader reader :=
  ⟨rfl, rfl, rfl, rfl, rfl, rfl⟩

theorem processNext_carries (reader : ControlSensorReader) : Carries reader reader.processNext := by
  unfold processNext
  split
  case isTrue free =>
    split
    case isTrue waits =>
      obtain ⟨first, rest⟩ := reader.queue.contents_pop
      refine ⟨rfl, rfl, rfl, ?_, rfl, rfl⟩
      have oldest : reader.queue.pop.1 = reader.queue.contents.head? := congrArg Prod.fst first
      simp only [kept, taken, free.2, oldest, rest, Option.toList_none, List.append_nil,
        List.append_assoc]
      congr 1
      cases contents : reader.queue.contents with
      | nil => rfl
      | cons input inputs => rfl
    case isFalse => exact ⟨rfl, rfl, rfl, rfl, rfl, rfl⟩
  case isFalse => exact .refl reader

theorem processValue_carries (reader : ControlSensorReader) :
    Carries reader reader.processValue := by
  unfold processValue
  split
  case h_1 => exact .refl reader
  case h_2 input inFlight => exact ⟨rfl, rfl, rfl, by simp [kept, taken, inFlight], rfl, rfl⟩

/-! ### The order of the inputs -/

/-- What is kept is kept in the order of publication, and ends with the newest input unless that was
dropped. -/
structure Orderly (casts : FloatCasts) (reader : ControlSensorReader) : Prop where
  readable : reader.inputs = reader.published.filterMap (inputLevel casts reader.isIndicator)
  order : reader.kept.Sublist reader.numbered
  known : reader.dropped ⊆ reader.numbered
  newest : ∀ input, reader.numbered.getLast? = some input →
    reader.kept.getLast? = some input ∨ input ∈ reader.dropped
  counted : UInt32.ofNat reader.dropped.length = reader.dropCount

theorem Orderly.create (isIndicator : Bool) : Orderly casts (create isIndicator) where
  readable := rfl
  order := List.Sublist.refl _
  known := List.Subset.refl _
  newest _ found := nomatch found
  counted := rfl

theorem Orderly.carry (orderly : Orderly casts reader) (carries : Carries reader after) :
    Orderly casts after := by
  obtain ⟨isIndicator, published, inputs, kept, dropped, dropCount⟩ := carries
  have numbered : after.numbered = reader.numbered := by rw [numbered, inputs, ← numbered]
  refine ⟨?_, ?_, ?_, ?_, ?_⟩
  · rw [inputs, published, isIndicator, orderly.readable]
  · rw [kept, numbered]
    exact orderly.order
  · rw [dropped, numbered]
    exact orderly.known
  · rw [kept, numbered, dropped]
    exact orderly.newest
  · rw [dropped, dropCount, orderly.counted]

theorem Orderly.queue {input : ControlInput} (orderly : Orderly casts reader)
    (free : reader.handler = .idle) (number : input.index = reader.inputs.length)
    {value : EventData} (readable : inputLevel casts reader.isIndicator value = some input.level)
    (queues : Queues { reader with published := reader.published ++ [value] } input after) :
    Orderly casts after := by
  obtain ⟨isIndicator, -, published, inputs, taken, droppedCount, outcome⟩ := queues
  have numbered : after.numbered = reader.numbered ++ [input] := by
    rw [numbered_of_inputs inputs, ← number]
    rfl
  have newest : after.numbered.getLast? = some input := by rw [numbered, List.getLast?_concat]
  have counted := orderly.counted
  rw [dropCount, free, if_neg nofun, UInt32.add_zero] at counted
  have all : after.inputs = after.published.filterMap (inputLevel casts after.isIndicator) := by
    rw [inputs, published, isIndicator, List.filterMap_append]
    exact congrArg₂ (· ++ ·) orderly.readable (by simp [readable])
  have order := orderly.order
  -- The input takes the place of the newest one in the queue, finds room behind it, or is dropped
  -- and counted.
  rcases outcome with ⟨-, dropped, handler, contents⟩ | ⟨dropped, handler, contents⟩ |
      ⟨dropped, handler, contents⟩
  · have kept : after.kept = (reader.taken ++ reader.queue.contents.dropLast) ++ [input] := by
      rw [ControlSensorReader.kept, taken, contents, List.append_assoc]
      rfl
    refine ⟨all, ?_, ?_, fun last found => ?_, ?_⟩
    · rw [kept, numbered]
      have shorter := (List.dropLast_sublist reader.queue.contents).append_left reader.taken
      exact (shorter.trans order).append (List.Sublist.refl _)
    · rw [dropped, numbered]
      exact List.subset_append_of_subset_left _ orderly.known
    · obtain rfl := Option.some.inj (newest.symm.trans found)
      exact .inl (by rw [kept, List.getLast?_concat])
    · rw [dropped, dropCount, droppedCount, if_neg handler, UInt32.add_zero]
      exact counted
  · have kept : after.kept = reader.kept ++ [input] := by
      rw [ControlSensorReader.kept, taken, contents, ← List.append_assoc]
      rfl
    refine ⟨all, ?_, ?_, fun last found => ?_, ?_⟩
    · rw [kept, numbered]
      exact order.append (List.Sublist.refl _)
    · rw [dropped, numbered]
      exact List.subset_append_of_subset_left _ orderly.known
    · obtain rfl := Option.some.inj (newest.symm.trans found)
      exact .inl (by rw [kept, List.getLast?_concat])
    · rw [dropped, dropCount, droppedCount, if_neg handler, UInt32.add_zero]
      exact counted
  · have kept : after.kept = reader.kept := by
      rw [ControlSensorReader.kept, taken, contents]
      rfl
    refine ⟨all, ?_, ?_, fun last found => ?_, ?_⟩
    · rw [kept, numbered]
      exact order.trans (List.sublist_append_left _ _)
    · rw [dropped, numbered]
      exact List.append_subset.mpr ⟨List.subset_append_of_subset_left _ orderly.known,
        List.subset_append_right _ _⟩
    · obtain rfl := Option.some.inj (newest.symm.trans found)
      exact .inr (by rw [dropped]; exact List.mem_append_right _ (List.mem_singleton.mpr rfl))
    · rw [dropped, dropCount, droppedCount, if_pos handler, List.length_append,
        List.length_singleton, UInt32.ofNat_add]
      exact congrArg (· + 1) counted

/-- A pause keeps the newest of the inputs that wait. -/
theorem Orderly.pause (orderly : Orderly casts reader) :
    Orderly casts { reader with isPaused := true, queue := reader.queue.keepNewest,
                                control := .pausing } := by
  have contents := reader.queue.contents_keepNewest
  have last : reader.queue.contents.getLast?.toList.Sublist reader.queue.contents := by
    cases found : reader.queue.contents.getLast? with
    | none => exact List.nil_sublist _
    | some input => exact List.singleton_sublist.mpr (List.mem_of_getLast? found)
  refine ⟨orderly.readable, ?_, orderly.known, fun input found => ?_, orderly.counted⟩
  · have kept : (reader.taken ++ reader.queue.keepNewest.contents).Sublist reader.kept := by
      rw [contents]
      exact last.append_left _
    exact kept.trans orderly.order
  · refine (orderly.newest input found).imp_left fun newest => ?_
    have same : (reader.taken ++ reader.queue.keepNewest.contents).getLast? =
        reader.kept.getLast? := by
      rw [contents, kept, List.getLast?_append, List.getLast?_append]
      cases reader.queue.contents.getLast? with
      | none => rfl
      | some input => rfl
    exact same.trans newest

/-- An input and the lock of a pause aside, no step changes what is kept or dropped. -/
theorem step_carries (reader : ControlSensorReader) {step : ReaderStep}
    (silent : step.isSilent = true) : Carries reader (reader.step casts step) := by
  cases step with
  | onInput value => cases silent
  | pauseLock => cases silent
  | finishInput accepts =>
    simp only [ControlSensorReader.step, finishInput]
    split
    case h_1 => exact .refl reader
    case h_2 dropping => exact ⟨rfl, rfl, rfl, rfl, rfl, by simp [dropCount, dropping]⟩
    case h_3 submitting => exact ⟨rfl, rfl, rfl, rfl, rfl, by simp [dropCount, submitting]⟩
  | startWork => exact ⟨rfl, rfl, rfl, rfl, rfl, rfl⟩
  | processNext => exact processNext_carries reader
  | processValue => exact processValue_carries reader
  | pauseCancel =>
    simp only [ControlSensorReader.step, pauseCancel]
    split <;> exact ⟨rfl, rfl, rfl, rfl, rfl, rfl⟩
  | pauseReturn =>
    simp only [ControlSensorReader.step, pauseReturn]
    split
    · split <;> exact ⟨rfl, rfl, rfl, rfl, rfl, rfl⟩
    · exact .refl reader
  | resumeLock =>
    simp only [ControlSensorReader.step, resumeLock]
    split <;> exact ⟨rfl, rfl, rfl, rfl, rfl, rfl⟩
  | resumeReturn accepts =>
    simp only [ControlSensorReader.step, resumeReturn]
    split <;> exact ⟨rfl, rfl, rfl, rfl, rfl, rfl⟩

/-- Every step keeps the order of the inputs. -/
theorem Orderly.step (orderly : Orderly casts reader) (step : ReaderStep) :
    Orderly casts (reader.step casts step) := by
  cases silent : step.isSilent with
  | true => exact orderly.carry (step_carries reader silent)
  | false =>
    cases step with
    | onInput value =>
      rcases onInput_cases casts reader value with same | ⟨unreadable, same⟩ |
          ⟨free, level, readable, same⟩
      · rwa [ControlSensorReader.step, same]
      · rw [ControlSensorReader.step, same]
        refine ⟨?_, orderly.order, orderly.known, orderly.newest, orderly.counted⟩
        simp [List.filterMap_append, unreadable, ← orderly.readable]
      · rw [ControlSensorReader.step, same]
        exact orderly.queue free rfl readable (queueInput_queues _ level)
    | pauseLock =>
      rcases pauseLock_cases reader with same | same
      · rwa [ControlSensorReader.step, same]
      · rw [ControlSensorReader.step, same]
        exact orderly.pause
    | _ => cases silent

/-! ### The pauses -/

/-- A pause that has cancelled the work item waits for the run it found, and nothing is taken from
the queue until the resume. -/
structure Guarded (reader : ControlSensorReader) : Prop where
  busy : reader.inFlight ≠ none → reader.work.isRunning = true
  holds : reader.control = .pausing ∨ reader.control = .cancelling ∨ reader.control = .paused →
    reader.isPaused = true
  waits : reader.control = .cancelling → reader.inFlight ≠ none → reader.work.isCanceling = true
  quiet : reader.control = .paused → reader.inFlight = none

theorem Guarded.create (isIndicator : Bool) : Guarded (create isIndicator) where
  busy taken := absurd rfl taken
  holds control := by rcases control with control | control | control <;> cases control
  waits control := nomatch control
  quiet control := nomatch control

/-- Outside a pause there is nothing to wait for. -/
theorem guarded_of_awake (busy : after.inFlight ≠ none → after.work.isRunning = true)
    (awake : after.control = .running ∨ ∃ hasValue, after.control = .resuming hasValue) :
    Guarded after := by
  have others : after.control ≠ .pausing ∧ after.control ≠ .cancelling ∧
      after.control ≠ .paused := by
    rcases awake with control | ⟨hasValue, control⟩ <;> rw [control] <;> exact ⟨nofun, nofun, nofun⟩
  refine ⟨busy, fun control => ?_, fun control => absurd control others.2.1,
    fun control => absurd control others.2.2⟩
  rcases control with control | control | control
  · exact absurd control others.1
  · exact absurd control others.2.1
  · exact absurd control others.2.2

/-- Steps that leave the pause, the control thread and the value in flight alone. -/
theorem Guarded.carry (guarded : Guarded reader) (isPaused : after.isPaused = reader.isPaused)
    (control : after.control = reader.control) (inFlight : after.inFlight = reader.inFlight)
    (running : reader.work.isRunning = true → after.work.isRunning = true)
    (canceling : after.work.isCanceling = reader.work.isCanceling) : Guarded after where
  busy := by
    rw [inFlight]
    exact fun taken => running (guarded.busy taken)
  holds := by
    rw [control, isPaused]
    exact guarded.holds
  waits := by
    rw [control, inFlight, canceling]
    exact guarded.waits
  quiet := by
    rw [control, inFlight]
    exact guarded.quiet

theorem queueInput_guarded (guarded : Guarded reader) (level : UInt32) :
    Guarded (reader.queueInput level) := by
  unfold queueInput
  dsimp only
  split
  · exact guarded.carry rfl rfl rfl id rfl
  · split <;> exact guarded.carry rfl rfl rfl id rfl

theorem processNext_guarded (guarded : Guarded reader) : Guarded reader.processNext := by
  unfold processNext
  split
  case isTrue free =>
    split
    case isTrue waits =>
      -- A value is taken only outside a pause.
      have awake : ¬ (reader.control = .pausing ∨ reader.control = .cancelling ∨
          reader.control = .paused) := by
        intro control
        have paused := guarded.holds control
        rw [waits.2] at paused
        cases paused
      exact ⟨fun _ => free.1, guarded.holds, fun control => absurd (.inr (.inl control)) awake,
        fun control => absurd (.inr (.inr control)) awake⟩
    case isFalse =>
      exact ⟨fun taken => absurd free.2 taken, guarded.holds,
        fun _ taken => absurd free.2 taken, fun _ => free.2⟩
  case isFalse => exact guarded

theorem Guarded.step (guarded : Guarded reader) (step : ReaderStep) :
    Guarded (reader.step casts step) := by
  -- A paused reader has no value in flight: the pause waits for the handler, and only a resume lets
  -- it take one again.
  cases step with
  | onInput value =>
    rcases onInput_cases casts reader value with same | ⟨-, same⟩ | ⟨-, level, -, same⟩
    · rwa [ControlSensorReader.step, same]
    · rw [ControlSensorReader.step, same]
      exact guarded.carry rfl rfl rfl id rfl
    · rw [ControlSensorReader.step, same]
      apply queueInput_guarded
      exact guarded.carry rfl rfl rfl id rfl
  | finishInput accepts =>
    simp only [ControlSensorReader.step, finishInput]
    split
    · exact guarded
    · exact guarded.carry rfl rfl rfl id rfl
    · exact guarded.carry rfl rfl rfl (fun running => by simpa using running) (by simp)
  | startWork =>
    simp only [ControlSensorReader.step, WorkItem.start]
    split
    · exact guarded.carry rfl rfl rfl (fun _ => rfl) rfl
    · exact guarded
  | processNext => exact processNext_guarded guarded
  | processValue =>
    simp only [ControlSensorReader.step, processValue]
    split
    · exact guarded
    · exact ⟨fun taken => absurd rfl taken, guarded.holds, fun _ taken => absurd rfl taken,
        fun _ => rfl⟩
  | pauseLock =>
    rcases pauseLock_cases reader with same | same
    · rwa [ControlSensorReader.step, same]
    · rw [ControlSensorReader.step, same]
      exact ⟨guarded.busy, fun _ => rfl, nofun, nofun⟩
  | pauseCancel =>
    simp only [ControlSensorReader.step, pauseCancel]
    split
    case h_1 pausing =>
      have paused := guarded.holds (.inl pausing)
      exact ⟨guarded.busy, fun _ => paused, fun _ taken => guarded.busy taken, nofun⟩
    case h_2 => exact guarded
  | pauseReturn =>
    simp only [ControlSensorReader.step, pauseReturn]
    split
    case h_1 cancelling =>
      split
      case isTrue => exact guarded
      case isFalse ended =>
        have paused := guarded.holds (.inr (.inl cancelling))
        refine ⟨guarded.busy, fun _ => paused, nofun, fun _ => ?_⟩
        by_contra taken
        exact ended (guarded.waits cancelling taken)
    case h_2 => exact guarded
  | resumeLock =>
    simp only [ControlSensorReader.step, resumeLock]
    split
    · exact guarded_of_awake guarded.busy (.inr ⟨_, rfl⟩)
    · exact guarded_of_awake guarded.busy (.inr ⟨_, rfl⟩)
    · exact guarded
  | resumeReturn accepts =>
    simp only [ControlSensorReader.step, resumeReturn]
    split
    · refine guarded_of_awake (fun taken => ?_) (.inl rfl)
      have running := guarded.busy taken
      split
      · simpa using running
      · exact running
    · exact guarded

variable (casts) in
/-- Nothing is processed while a reader is paused and no value is in flight. -/
theorem step_held (paused : reader.isPaused = true) (free : reader.inFlight = none)
    {step : ReaderStep} (holds : step ≠ .resumeLock) :
    (reader.step casts step).isPaused = true ∧ (reader.step casts step).inFlight = none ∧
      (reader.step casts step).processed = reader.processed := by
  -- Every step but the resume; the handler takes nothing from the queue while the reader is paused.
  cases step with
  | resumeLock => exact absurd rfl holds
  | onInput value =>
    rcases onInput_cases casts reader value with same | ⟨-, same⟩ | ⟨-, level, -, same⟩
    · rw [ControlSensorReader.step, same]
      exact ⟨paused, free, rfl⟩
    · rw [ControlSensorReader.step, same]
      exact ⟨paused, free, rfl⟩
    · rw [ControlSensorReader.step, same]
      unfold queueInput
      dsimp only
      split
      · exact ⟨paused, free, rfl⟩
      · split <;> exact ⟨paused, free, rfl⟩
  | finishInput accepts =>
    simp only [ControlSensorReader.step, finishInput]
    split <;> exact ⟨paused, free, rfl⟩
  | startWork => exact ⟨paused, free, rfl⟩
  | processNext =>
    simp only [ControlSensorReader.step, processNext]
    split
    · rw [if_neg (by simp [paused])]
      exact ⟨paused, free, rfl⟩
    · exact ⟨paused, free, rfl⟩
  | processValue =>
    have same : reader.processValue = reader := by simp [processValue, free]
    rw [show reader.step casts .processValue = reader from same]
    exact ⟨paused, free, rfl⟩
  | pauseLock =>
    rcases pauseLock_cases reader with same | same
    · rw [ControlSensorReader.step, same]
      exact ⟨paused, free, rfl⟩
    · rw [ControlSensorReader.step, same]
      exact ⟨rfl, free, rfl⟩
  | pauseCancel =>
    simp only [ControlSensorReader.step, pauseCancel]
    split <;> exact ⟨paused, free, rfl⟩
  | pauseReturn =>
    simp only [ControlSensorReader.step, pauseReturn]
    split
    · split <;> exact ⟨paused, free, rfl⟩
    · exact ⟨paused, free, rfl⟩
  | resumeReturn accepts =>
    simp only [ControlSensorReader.step, resumeReturn]
    split <;> exact ⟨paused, free, rfl⟩

/-- Nor is anything processed until the next resume. -/
theorem run_held (paused : reader.isPaused = true) (free : reader.inFlight = none)
    {during : List ReaderStep} (holds : ReaderStep.resumeLock ∉ during) :
    (run (ControlSensorReader.step casts) reader during).inFlight = none ∧
      (run (ControlSensorReader.step casts) reader during).processed = reader.processed := by
  induction during generalizing reader with
  | nil => exact ⟨free, rfl⟩
  | cons step during ih =>
    obtain ⟨here, later⟩ := not_or.mp (mt List.mem_cons.mpr holds)
    obtain ⟨paused', free', same⟩ := step_held casts paused free (Ne.symm here)
    obtain ⟨last, all⟩ := ih paused' free' later
    exact ⟨last, all.trans same⟩

/-! ### Losses -/

theorem Lost.of_same {input : ControlInput} (inputs : after.inputs = reader.inputs)
    (kept : after.kept = reader.kept) (dropped : after.dropped = reader.dropped)
    (lost : after.Lost input) : reader.Lost input := by
  rwa [Lost, numbered, inputs, ← numbered, kept, dropped] at lost

/-- An indicator that is not paused keeps a new level or drops it. -/
theorem Queues.lost {input new : ControlInput} (queues : Queues reader new after)
    (number : new.index = reader.inputs.length) (indicator : reader.isIndicator = true)
    (awake : reader.isPaused = false) (lost : after.Lost input) : reader.Lost input := by
  obtain ⟨published, kept, dropped⟩ := lost
  have numbered : after.numbered = reader.numbered ++ [new] := by
    rw [numbered_of_inputs queues.inputs, ← number]
  rw [ControlSensorReader.kept, queues.taken] at kept
  rw [numbered, List.mem_append, List.mem_singleton] at published
  rcases queues.outcome with ⟨loses, -⟩ | ⟨same, -, contents⟩ | ⟨same, -, contents⟩
  · rw [awake, indicator] at loses
    rcases loses with loses | loses <;> cases loses
  · rw [contents, ← List.append_assoc, List.mem_append, List.mem_singleton, not_or] at kept
    rw [same] at dropped
    exact ⟨published.resolve_right kept.2, kept.1, dropped⟩
  · rw [contents] at kept
    rw [same, List.mem_append, List.mem_singleton, not_or] at dropped
    exact ⟨published.resolve_right dropped.2, kept, dropped.1⟩

theorem step_isIndicator (reader : ControlSensorReader) (step : ReaderStep) :
    (reader.step casts step).isIndicator = reader.isIndicator := by
  cases silent : step.isSilent with
  | true => exact (step_carries reader silent).isIndicator
  | false =>
    cases step with
    | onInput value =>
      rcases onInput_cases casts reader value with same | ⟨-, same⟩ | ⟨-, level, -, same⟩
      · rw [ControlSensorReader.step, same]
      · rw [ControlSensorReader.step, same]
      · rw [ControlSensorReader.step, same]
        exact (queueInput_queues _ level).isIndicator
    | pauseLock =>
      rcases pauseLock_cases reader with same | same <;> rw [ControlSensorReader.step, same]
    | _ => cases silent

/-- Outside a pause no step loses a level of an indicator. -/
theorem step_lost (indicator : reader.isIndicator = true) {step : ReaderStep}
    (awake : (reader.step casts step).isPaused = false) {input : ControlInput}
    (lost : (reader.step casts step).Lost input) : reader.Lost input := by
  cases silent : step.isSilent with
  | true =>
    have carries : Carries reader (reader.step casts step) := step_carries reader silent
    exact lost.of_same carries.inputs carries.kept carries.dropped
  | false =>
    cases step with
    | onInput value =>
      rcases onInput_cases casts reader value with same | ⟨-, same⟩ | ⟨-, level, -, same⟩
      · rwa [ControlSensorReader.step, same] at lost
      · rw [ControlSensorReader.step, same] at lost
        exact lost.of_same rfl rfl rfl
      · have queues := queueInput_queues
          { reader with published := reader.published ++ [value] } level
        rw [ControlSensorReader.step, same] at awake lost
        have before := queues.lost rfl indicator (queues.isPaused.symm.trans awake) lost
        exact before.of_same rfl rfl rfl
    | pauseLock =>
      rcases pauseLock_cases reader with same | same
      · rwa [ControlSensorReader.step, same] at lost
      · rw [ControlSensorReader.step, same] at awake
        cases awake
    | _ => cases silent

/-- Outside a pause no sequence of steps loses a level of an indicator. -/
theorem run_lost (indicator : reader.isIndicator = true) {during : List ReaderStep}
    (awake : Always (ControlSensorReader.step casts) (·.isPaused = false) reader during)
    {input : ControlInput}
    (lost : (run (ControlSensorReader.step casts) reader during).Lost input) :
    reader.Lost input := by
  induction during generalizing reader with
  | nil => exact lost
  | cons step during ih =>
    have indicator' : (reader.step casts step).isIndicator = true :=
      (step_isIndicator reader step).trans indicator
    exact step_lost indicator awake.2.head (ih indicator' awake.2 lost)

/-! ### Whole runs -/

/-- With nothing waiting, the last value taken is the last input, unless an input behind it was
dropped. -/
theorem Orderly.last (orderly : Orderly casts reader) (empty : reader.queue.contents = [])
    (undropped : ∀ drop ∈ reader.dropped, ∃ last, reader.taken.getLast? = some last ∧
      drop.index < last.index) :
    reader.taken.getLast?.map ControlInput.level = reader.inputs.getLast? := by
  have kept : reader.kept = reader.taken := by rw [ControlSensorReader.kept, empty, List.append_nil]
  rw [← map_level_numbered, List.getLast?_map]
  congr 1
  cases newest : reader.numbered.getLast? with
  | none =>
    have nothing := orderly.order
    rw [List.getLast?_eq_none_iff.mp newest, kept] at nothing
    rw [List.sublist_nil.mp nothing]
    rfl
  | some input =>
    rcases orderly.newest input newest with last | drop
    · rwa [kept] at last
    · -- A drop would be behind the last value taken, since it is the newest input.
      obtain ⟨last, found, later⟩ := undropped input drop
      have member : last ∈ reader.kept := by
        rw [kept]
        exact List.mem_of_getLast? found
      have bound := index_lt_of_mem (orderly.order.subset member)
      have number := index_of_getLast newest
      omega

theorem run_sound (casts : FloatCasts) (isIndicator : Bool) (steps : List ReaderStep) :
    let reader := run (ControlSensorReader.step casts) (create isIndicator) steps
    (Orderly casts reader ∧ Guarded reader) ∧ reader.isIndicator = isIndicator := by
  refine ⟨?_, ?_⟩
  · exact run_invariant (I := fun reader => Orderly casts reader ∧ Guarded reader)
      ⟨.create isIndicator, .create isIndicator⟩
      (fun reader step sound => ⟨sound.1.step step, sound.2.step step⟩) steps
  · have start : (create isIndicator).isIndicator = isIndicator := rfl
    exact run_invariant (I := fun reader => reader.isIndicator = isIndicator) start
      (fun reader step same => (step_isIndicator reader step).trans same) steps

/-- What the queue of a control sensor guarantees at every moment of every run: the values processed
are readable inputs in the order of publication; once a pause has returned nothing is processed
until a resume; an indicator that is not paused loses no level but those dropped, which are counted
in 32 bits by the handler that drops them; and outside a pause, with an empty queue, the last value
taken for processing is the last input, unless an input published after that value was dropped. -/
theorem queue_guarantees (casts : FloatCasts) (isIndicator : Bool) (steps : List ReaderStep) :
    let step := ControlSensorReader.step casts
    let reader := run step (create isIndicator) steps
    let readable := reader.published.filterMap (inputLevel casts isIndicator)
    (reader.processed.map ControlInput.level).Sublist readable ∧
      (reader.control = .paused → ∀ during, ReaderStep.resumeLock ∉ during →
        (run step reader during).inFlight = none ∧
          (run step reader during).processed = reader.processed) ∧
      (isIndicator = true → ∀ during, Always step (·.isPaused = false) reader during →
        ∀ input, (run step reader during).Lost input → reader.Lost input) ∧
      UInt32.ofNat reader.dropped.length =
        reader.droppedCount + (if reader.handler = .dropping then 1 else 0) ∧
      (reader.isPaused = false → reader.queue.count = 0 →
        (∀ drop ∈ reader.dropped, ∃ last, reader.taken.getLast? = some last ∧
          drop.index < last.index) →
        reader.taken.getLast?.map ControlInput.level = readable.getLast?) := by
  intro step reader readable
  obtain ⟨⟨orderly, guarded⟩, kind⟩ := run_sound casts isIndicator steps
  have inputs : reader.inputs = readable := by rw [orderly.readable, kind]
  refine ⟨?_, fun paused during holds => ?_, fun indicator during awake input lost => ?_,
    orderly.counted, fun _ empty undropped => ?_⟩
  · rw [← inputs, ← map_level_numbered]
    have some_kept : reader.processed.Sublist reader.kept :=
      (List.sublist_append_left _ _).trans (List.sublist_append_left _ _)
    exact (some_kept.trans orderly.order).map _
  · exact run_held (guarded.holds (.inr (.inr paused))) (guarded.quiet paused) holds
  · exact run_lost (kind.trans indicator) awake lost
  · rw [← inputs]
    have nothing : reader.queue.contents = [] :=
      List.length_eq_zero_iff.mp ((RingBuffer.length_contents _).trans empty)
    exact orderly.last nothing undropped

/-- An input and the end of its handler. -/
def publish (flag : Bool) : List ReaderStep := [.onInput (.flag flag), .finishInput true]

/-- Sixteen levels wait behind one that is being processed, and the seventeenth is dropped. Sixteen
values are processed after the drop, but the last of them is not the last input. -/
theorem last_level_dropped :
    let casts : FloatCasts := ⟨fun _ => 0, fun _ => 0⟩
    let step := ControlSensorReader.step casts
    let filled := run step (create true)
      (publish true ++ [.startWork, .processNext] ++
        (List.replicate 8 (publish false ++ publish true)).flatten ++ publish false)
    let drained := run step filled (List.replicate 16 [.processValue, .processNext]).flatten
    let reader := run step drained [.processValue, .processNext]
    filled.droppedCount = 1 ∧ reader.dropped = drained.dropped ∧
      reader.processed.length = drained.processed.length + 1 ∧
      reader.isPaused = false ∧ reader.queue.count = 0 ∧ reader.inFlight = none ∧
      reader.handler = .idle ∧
      reader.taken.getLast?.map ControlInput.level ≠
        (reader.published.filterMap (inputLevel casts true)).getLast? := by
  decide +kernel

end ControlSensorReader

end RtCore.Sensors
