import RtCore.Sensors.Configuration

/-!
# The readings of sensors

`SensorReadingsFrame` has a slot for each sensor with its latest reading, its latest
processed reading and whether that was taken since it was written, and apart from the
slots the latest value of each sensor, which expressions read.

## Main definitions

* `SensorReadingsFrame.addOrUpdateReading`, `SensorReadingsFrame.updateReadingValue`
* `SensorReadingsFrame.takeProcessedReadings`,
  `SensorReadingsFrame.markProcessedReadingsUpdated`
* `SensorReadingsFrame.SameAt` — a slot and its value are untouched

## Main results

* `SensorReadingsFrame.sameAt_addOrUpdateReading` — a commit touches one slot
-/

namespace RtCore.Sensors

variable {V : Type}

/-- How far a reading is processed. -/
inductive ReadingStatus
  | uninitialized
  | raw
  | interpolated
  | expressionEvaluated
  | processed
  | error
deriving DecidableEq, Repr

/-- The order of the enumeration. -/
def ReadingStatus.rank : ReadingStatus → ℕ
  | uninitialized => 0
  | raw => 1
  | interpolated => 2
  | expressionEvaluated => 3
  | processed => 4
  | error => 5

/-- What went wrong with a reading. -/
inductive ReadingError
  | none
  | readerFailed
  | noValue
  | wrongState
  | inputUnavailable
  | expressionFailed
  | expressionNotANumber
  | scriptFailed
deriving DecidableEq, Repr

/-- Who stored a reading. -/
inductive ReadingSource
  | none
  | isr
  | processing
deriving DecidableEq, Repr

/-- A sample on its way through the pipeline. -/
structure SensorReading (V : Type) where
  sensorIdHash : UInt32
  value : Option V := none
  timestamp : Option ℤ := none
  source : ReadingSource := .none
  status : ReadingStatus := .uninitialized
  error : ReadingError := .none
deriving DecidableEq

namespace SensorReading

/-- The reading is of no use. -/
def hasError (reading : SensorReading V) : Bool := reading.status = .error

/-- The reading with an error. -/
def setError (reading : SensorReading V) (error : ReadingError) : SensorReading V :=
  { reading with status := .error, error }

end SensorReading

/-- A reading without its identity. -/
structure Record (V : Type) where
  value : Option V := none
  timestamp : Option ℤ := none
  status : ReadingStatus := .uninitialized
  error : ReadingError := .none
  source : ReadingSource := .none
deriving DecidableEq

/-- `Pack`: the part of a reading a slot keeps. -/
def Record.pack (reading : SensorReading V) : Record V where
  value := reading.value
  timestamp := reading.timestamp
  status := reading.status
  error := reading.error
  source := reading.source

/-- `Unpack`: the reading a slot stands for. -/
def Record.unpack (record : Record V) (sensorIdHash : UInt32) : SensorReading V where
  sensorIdHash
  value := record.value
  timestamp := record.timestamp
  status := record.status
  error := record.error
  source := record.source

/-- The slot of a sensor: its latest reading and the last one of processing. -/
structure Slot (V : Type) where
  latest : Record V := {}
  processed : Record V := {}
  hasReading : Bool := false
  hasProcessed : Bool := false
  /-- Processed and not yet taken. -/
  isUpdated : Bool := false
deriving DecidableEq

/-- The slots of a configuration, with the ID hash of the sensor of each and its latest
processed value, NaN for none. -/
structure SensorReadingsFrame (V : Type) where
  slots : List (Slot V)
  sensorIdHashes : List UInt32
  values : List V
deriving DecidableEq

namespace SensorReadingsFrame

variable {frame : SensorReadingsFrame V} {reading : SensorReading V} {i : ℕ}

/-- Lays out one slot per sensor, in the given order. -/
def configure [SensorValue V] (sensorIdHashes : List UInt32) : SensorReadingsFrame V where
  slots := List.replicate sensorIdHashes.length {}
  sensorIdHashes
  values := List.replicate sensorIdHashes.length SensorValue.nan

/-- The slot of a sensor, by its hash. -/
def findSlot (frame : SensorReadingsFrame V) (sensorIdHash : UInt32) : Option ℕ :=
  frame.sensorIdHashes.idxOf? sensorIdHash

/-- What the address of a slot's value holds. -/
def valueAt [SensorValue V] (frame : SensorReadingsFrame V) (slot : ℕ) : V :=
  frame.values[slot]?.getD SensorValue.nan

/-- `AreValuesAvailable`: the slots have values. -/
def areValuesAvailable [SensorValue V] (frame : SensorReadingsFrame V) (slots : List ℕ) : Bool :=
  slots.all fun slot => slot < frame.slots.length && !SensorValue.isNan (frame.valueAt slot)

/-- The slot of a sensor after a reading of it was stored. -/
def storeReading (reading : SensorReading V) (slot : Slot V) : Slot V :=
  let slot := { slot with latest := .pack reading, hasReading := true }
  if reading.status ≠ .processed then slot
  else { slot with processed := slot.latest, hasProcessed := true, isUpdated := true }

/-- `AddOrUpdateReading`: the reading is the latest of its slot, if it says who stores it. -/
def addOrUpdateReading (frame : SensorReadingsFrame V) (reading : SensorReading V) :
    SensorReadingsFrame V × Bool :=
  if reading.source = .none then (frame, false)
  else
    match frame.findSlot reading.sensorIdHash with
    | none => (frame, false)
    | some index =>
      let slots := frame.slots.modify index (storeReading reading)
      let values :=
        match reading.value with
        | some value =>
          -- Expressions read processed values only.
          if reading.status ≠ .processed then frame.values else frame.values.set index value
        | none => frame.values
      ({ frame with slots, values }, true)

/-- For scripts that write a sensor; a sensor without a reading stays without one. -/
def updateReadingValue (frame : SensorReadingsFrame V) (sensorIdHash : UInt32) (value : V) :
    SensorReadingsFrame V × Bool :=
  match frame.findSlot sensorIdHash with
  | none => (frame, false)
  | some index =>
    match frame.slots[index]? with
    | none => (frame, false)
    | some slot =>
      if !slot.hasReading then (frame, false)
      else
        let slot := { slot with latest := { slot.latest with value := some value } }
        -- Expressions read the processed value.
        if slot.hasProcessed then
          let slot :=
            { slot with
              processed := { slot.processed with value := some value }
              isUpdated := true }
          ({ frame with
              slots := frame.slots.set index slot
              values := frame.values.set index value }, true)
        else ({ frame with slots := frame.slots.set index slot }, true)

/-- The loop of `TakeProcessedReadings` over the slots, with room for that many readings. -/
def takeLoop : ℕ → List (Slot V) → List UInt32 → List (SensorReading V) × List (Slot V)
  | room + 1, slot :: slots, sensorIdHash :: sensorIdHashes =>
    if !slot.isUpdated then
      let (readings, slots) := takeLoop (room + 1) slots sensorIdHashes
      (readings, slot :: slots)
    else
      let (readings, slots) := takeLoop room slots sensorIdHashes
      (slot.processed.unpack sensorIdHash :: readings, { slot with isUpdated := false } :: slots)
  | _, slots, _ => ([], slots)

/-- Copies at most `size` of the readings processed since they were last taken and marks
them as taken. -/
def takeProcessedReadings (frame : SensorReadingsFrame V) (size : ℕ) :
    List (SensorReading V) × SensorReadingsFrame V :=
  let (readings, slots) := takeLoop size frame.slots frame.sensorIdHashes
  (readings, { frame with slots })

/-- Marks every sensor's latest processed reading as not yet taken. -/
def markProcessedReadingsUpdated (frame : SensorReadingsFrame V) : SensorReadingsFrame V :=
  { frame with
    slots := frame.slots.map fun slot =>
      if slot.hasProcessed then { slot with isUpdated := true } else slot }

/-- With distinct hashes, the slot of a hash is where it stands. -/
theorem findSlot_eq_some (distinct : frame.sensorIdHashes.Nodup) {sensorIdHash : UInt32} :
    frame.findSlot sensorIdHash = some i ↔ frame.sensorIdHashes[i]? = some sensorIdHash := by
  rw [findSlot, List.idxOf?_eq_some_iff, List.getElem?_eq_some_iff]
  constructor
  · rintro ⟨inside, same, -⟩
    exact ⟨inside, same⟩
  · rintro ⟨inside, same⟩
    refine ⟨inside, same, fun j earlier same' => ?_⟩
    exact Nat.ne_of_lt earlier (distinct.getElem_inj_iff.mp (same'.trans same.symm))

/-- The slot and the value of a sensor are the same in two frames. -/
def SameAt (frame other : SensorReadingsFrame V) (i : ℕ) : Prop :=
  frame.slots[i]? = other.slots[i]? ∧ frame.values[i]? = other.values[i]?

theorem SameAt.trans {other third : SensorReadingsFrame V} (first : frame.SameAt other i)
    (second : other.SameAt third i) : frame.SameAt third i :=
  ⟨first.1.trans second.1, first.2.trans second.2⟩

theorem SameAt.valueAt [SensorValue V] {other : SensorReadingsFrame V}
    (same : frame.SameAt other i) :
    frame.valueAt i = other.valueAt i := by
  rw [SensorReadingsFrame.valueAt, same.2]
  rfl

/-- A commit touches the slot of its sensor only. -/
theorem sameAt_addOrUpdateReading (other : frame.findSlot reading.sensorIdHash ≠ some i) :
    (frame.addOrUpdateReading reading).1.SameAt frame i := by
  rw [addOrUpdateReading]
  split
  · exact ⟨rfl, rfl⟩
  · split
    case h_1 => exact ⟨rfl, rfl⟩
    case h_2 index found =>
      have ne : index ≠ i := fun same => other (same ▸ found)
      refine ⟨List.getElem?_modify_ne _ _ ne, ?_⟩
      dsimp only
      split
      · split
        · rfl
        · exact List.getElem?_set_ne ne
      · rfl

/-- A value is what the slot of a sensor and the expressions that read it get. -/
structure Holds (frame : SensorReadingsFrame V) (i : ℕ) (value : V) : Prop where
  shown : frame.values[i]? = some value
  slot : ∃ slot, frame.slots[i]? = some slot ∧ slot.latest.value = some value ∧
    slot.processed.value = some value

theorem Holds.of_sameAt {other : SensorReadingsFrame V} {value : V} (holds : frame.Holds i value)
    (same : other.SameAt frame i) : other.Holds i value :=
  ⟨same.2.trans holds.shown, same.1 ▸ holds.slot⟩

/-- A processed reading with a value becomes the value of its sensor. -/
theorem holds_addOrUpdateReading {value : V} (source : reading.source ≠ .none)
    (found : frame.findSlot reading.sensorIdHash = some i) (slot : i < frame.slots.length)
    (inside : i < frame.values.length) (processed : reading.status = .processed)
    (valued : reading.value = some value) :
    (frame.addOrUpdateReading reading).1.Holds i value := by
  rw [addOrUpdateReading, if_neg source, found, valued]
  dsimp only
  rw [if_neg (not_not.mpr processed)]
  constructor
  · exact List.getElem?_set_self inside
  · refine ⟨storeReading reading frame.slots[i], ?_, ?_, ?_⟩
    · rw [List.getElem?_modify_eq, List.getElem?_eq_getElem slot]
      rfl
    all_goals
      rw [storeReading, if_neg (not_not.mpr processed)]
      exact valued

/-! ### The layout -/

/-- Two frames have the slots of the same sensors. -/
structure SameLayout (frame other : SensorReadingsFrame V) : Prop where
  hashes : frame.sensorIdHashes = other.sensorIdHashes
  slots : frame.slots.length = other.slots.length
  values : frame.values.length = other.values.length

theorem SameLayout.refl (frame : SensorReadingsFrame V) : frame.SameLayout frame := ⟨rfl, rfl, rfl⟩

theorem SameLayout.trans {other third : SensorReadingsFrame V} (first : frame.SameLayout other)
    (second : other.SameLayout third) : frame.SameLayout third :=
  ⟨first.hashes.trans second.hashes, first.slots.trans second.slots,
    first.values.trans second.values⟩

theorem layout_addOrUpdateReading (frame : SensorReadingsFrame V) (reading : SensorReading V) :
    (frame.addOrUpdateReading reading).1.SameLayout frame := by
  rw [addOrUpdateReading]
  split
  · exact .refl frame
  · split
    · exact .refl frame
    · refine ⟨rfl, List.length_modify .., ?_⟩
      dsimp only
      split
      · split
        · rfl
        · exact List.length_set
      · rfl

/-- What a script writes keeps the layout. -/
theorem layout_updateReadingValue (frame : SensorReadingsFrame V) (sensorIdHash : UInt32)
    (value : V) : (frame.updateReadingValue sensorIdHash value).1.SameLayout frame := by
  rw [updateReadingValue]
  cases frame.findSlot sensorIdHash with
  | none => exact .refl frame
  | some index =>
    cases there : frame.slots[index]? with
    | none =>
      simp only [there]
      exact .refl frame
    | some slot =>
      simp only [there]
      split
      · exact .refl frame
      · split
        · exact ⟨rfl, List.length_set, List.length_set⟩
        · exact ⟨rfl, List.length_set, rfl⟩

/-! ### Taking -/

theorem length_takeLoop (room : ℕ) (slots : List (Slot V)) (sensorIdHashes : List UInt32) :
    (takeLoop room slots sensorIdHashes).1.length ≤ room := by
  fun_induction takeLoop room slots sensorIdHashes with
  | case1 room slot slots hash hashes fresh readings rest recursion ih => simpa [recursion] using ih
  | case2 room slot slots hash hashes marked readings rest recursion ih =>
    rw [recursion] at ih
    exact Nat.succ_le_succ ih
  | case3 room slots => exact Nat.zero_le _

/-- A take leaves a slot alone, or it clears the mark of a slot whose reading it took. -/
theorem takeLoop_getElem? (room : ℕ) (slots : List (Slot V)) (sensorIdHashes : List UInt32)
    (i : ℕ) :
    (takeLoop room slots sensorIdHashes).2[i]? = slots[i]? ∨
      ∃ slot hash, slots[i]? = some slot ∧ sensorIdHashes[i]? = some hash ∧
        slot.isUpdated = true ∧
        (takeLoop room slots sensorIdHashes).2[i]? = some { slot with isUpdated := false } ∧
        slot.processed.unpack hash ∈ (takeLoop room slots sensorIdHashes).1 := by
  fun_induction takeLoop room slots sensorIdHashes generalizing i with
  | case1 room slot slots hash hashes fresh readings rest recursion ih =>
    cases i with
    | zero => exact .inl rfl
    | succ i =>
      rw [recursion] at ih
      exact ih i
  | case2 room slot slots hash hashes marked readings rest recursion ih =>
    cases i with
    | zero =>
      refine .inr ⟨slot, hash, rfl, rfl, by simpa using marked, rfl, List.mem_cons_self⟩
    | succ i =>
      rw [recursion] at ih
      rcases ih i with same | ⟨other, otherHash, there, hashed, updated, cleared, taken⟩
      · exact .inl same
      · exact .inr ⟨other, otherHash, there, hashed, updated, cleared,
          List.mem_cons_of_mem _ taken⟩
  | case3 room slots => exact .inl rfl

/-! ### Marks -/

/-- A slot is marked, or its processed reading and its mark are what they were. -/
def MarkedOrKept (frame : SensorReadingsFrame V) (i : ℕ) (slot : Slot V) : Prop :=
  slot.isUpdated = true ∨
    ∃ before, frame.slots[i]? = some before ∧ before.processed = slot.processed ∧
      before.isUpdated = slot.isUpdated ∧ before.hasProcessed = slot.hasProcessed

variable {slot : Slot V}

theorem markedOrKept_addOrUpdateReading
    (found : (frame.addOrUpdateReading reading).1.slots[i]? = some slot) :
    frame.MarkedOrKept i slot := by
  rw [addOrUpdateReading] at found
  split at found
  · exact .inr ⟨slot, found, rfl, rfl, rfl⟩
  · split at found
    · exact .inr ⟨slot, found, rfl, rfl, rfl⟩
    case h_2 index there =>
      dsimp only at found
      rw [List.getElem?_modify] at found
      obtain ⟨before, there, rfl⟩ := Option.map_eq_some_iff.mp found
      split
      case isTrue =>
        rw [storeReading]
        split
        · exact .inr ⟨before, there, rfl, rfl, rfl⟩
        · exact .inl rfl
      case isFalse => exact .inr ⟨before, there, rfl, rfl, rfl⟩

theorem markedOrKept_updateReadingValue {sensorIdHash : UInt32} {value : V}
    (found : (frame.updateReadingValue sensorIdHash value).1.slots[i]? = some slot) :
    frame.MarkedOrKept i slot := by
  rw [updateReadingValue] at found
  split at found
  · exact .inr ⟨slot, found, rfl, rfl, rfl⟩
  case h_2 index there =>
    split at found
    · exact .inr ⟨slot, found, rfl, rfl, rfl⟩
    case h_2 before inSlot =>
      split at found
      · exact .inr ⟨slot, found, rfl, rfl, rfl⟩
      dsimp only at found
      by_cases same : index = i
      · subst same
        have inside := (List.getElem?_eq_some_iff.mp inSlot).1
        split at found
        · rw [List.getElem?_set_self inside] at found
          obtain rfl := Option.some.inj found
          exact .inl rfl
        · rw [List.getElem?_set_self inside] at found
          obtain rfl := Option.some.inj found
          exact .inr ⟨before, inSlot, rfl, rfl, rfl⟩
      · split at found
        all_goals
          rw [List.getElem?_set_ne same] at found
          exact .inr ⟨slot, found, rfl, rfl, rfl⟩

theorem markedOrKept_markProcessedReadingsUpdated
    (found : frame.markProcessedReadingsUpdated.slots[i]? = some slot) :
    frame.MarkedOrKept i slot := by
  rw [markProcessedReadingsUpdated, List.getElem?_map] at found
  obtain ⟨before, there, rfl⟩ := Option.map_eq_some_iff.mp found
  split
  · exact .inl rfl
  · exact .inr ⟨before, there, rfl, rfl, rfl⟩

end SensorReadingsFrame

end RtCore.Sensors
