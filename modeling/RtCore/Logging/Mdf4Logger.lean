import RtCore.Mdf.Records
import RtCore.Sensors.ReadingsFrame

/-!
# The logger for sensor readings

`Mdf4LoggerSensorReading` writes one group of records for each sensor of a logging configuration. It
keeps, for each sensor, the timestamp of the last reading that had one and the time of the last
record, and decides from them whether a reading is written and at which time.

The file and its stream are a parameter: what becomes of a header or of a record there, also whether
it is taken at all, is theirs to say.

## Main definitions

* `LogTarget`, `LogFile`, `Logger` — what the logger knows of a sensor, what it writes to, its state
* `LogTarget.valueRecordTime` — whether and when a reading of a value sensor is recorded
* `Logger.startLogging`, `Logger.logReading`, `Logger.stopLogging` — the logger's calls

## Main results

* `Logger.startLogging_target` — what a sensor's target is in a file that was started
* `Logger.logReading_value`, `Logger.recordValue_spec` — what the reading of a value sensor does
* `Logger.logReading_touches` — a reading concerns no sensor but its own
-/

namespace RtCore.Logging

open RtCore.Mdf RtCore.Sensors

/-- `system_clock`: a record that is moved moves by `MIN_RECORD_TIME_STEP`, a microsecond, which is
some ticks of the clock; the seconds of a duration are given by their bits. Time points are their
ticks, and `NO_TIMESTAMP`, a tick count that no time point has, is `none`. -/
structure SystemClock where
  minRecordTimeStep : ℤ
  forward : 0 < minRecordTimeStep
  toSeconds : ℤ → UInt64

/-- `LogTarget::Kind`. -/
inductive LogTargetKind where
  | value
  | valueWithRaw
  | canFrame
  deriving DecidableEq, Repr

/-- `LogTarget`. -/
structure LogTarget where
  kind : LogTargetKind := .value
  logOnlyNewData : Bool := false
  lastTimestamp : Option ℤ := none
  lastRecordTime : Option ℤ := none
  busChannel : UInt8 := 0
  valueInvalidMask : ℕ := 0
  rawValueInvalidMask : ℕ := 0
  deriving DecidableEq, Repr

/-- A `SensorReading` with the fields that only a logger reads; values are given by their bits. -/
structure LoggerReading extends SensorReading UInt32 where
  rawValue : Option UInt32 := none
  canFrame : Option CanFrame := none

/-- What the writer of a sensor is given. -/
inductive RecordContent where
  | values (values : List MdfValue) (invalidMask : ℕ)
  | canFrame (frame : CanFrame) (timeDelta : UInt64) (busChannel : UInt8)
  deriving DecidableEq, Repr

/-- A record for the group of a sensor. -/
structure LogRecord where
  sensorIdHash : UInt32
  recordTime : ℤ
  content : RecordContent
  deriving DecidableEq, Repr

/-- The file and its stream. A call gives the bytes it wrote, `none` where it throws. -/
structure LogFile (σ : Type) where
  /-- `UpdateCurrentTime` and `WriteHeaderToStream`. -/
  writeHeader : ℤ → σ → Option ℕ × σ
  /-- `pubsync`, whether it answers 0. -/
  sync : σ → Bool × σ
  /-- `Write` of the writer of a sensor. -/
  write : LogRecord → σ → Option ℕ × σ
  /-- `FinalizeToStream`. -/
  finalize : σ → Option ℕ × σ

/-- An `Mdf4LoggerSensorReading`. -/
structure Logger (σ : Type) where
  targets : UInt32 → Option LogTarget
  stream : σ
  /-- `stream_` is not null. -/
  isLogging : Bool := false
  startTime : ℤ := 0
  currentFileSizeBytes : ℕ := 0

/-- How a call of `LogReading` ends: it returns false, it writes a record and returns true, or it
throws, as the writer did not take the record. -/
inductive LogAnswer where
  | rejected
  | logged (record : LogRecord)
  | threw (record : LogRecord)
  deriving DecidableEq, Repr

/-- The record that a call hands to a writer. -/
def LogAnswer.record : LogAnswer → Option LogRecord
  | rejected => none
  | logged record | threw record => some record

/-- The record that a call writes. -/
def LogAnswer.written : LogAnswer → Option LogRecord
  | rejected | threw _ => none
  | logged record => some record

theorem LogAnswer.record_of_written {answer : LogAnswer} {record : LogRecord}
    (written : answer.written = some record) : answer.record = some record := by
  cases answer with
  | logged => exact written
  | rejected | threw => cases written

namespace LogTarget

/-- A target at the start of a file. -/
def reset (target : LogTarget) : LogTarget :=
  { target with lastTimestamp := none, lastRecordTime := none }

/-- The end of `LogReading`, after the record. -/
def noteRecord (timestamp : Option ℤ) (recordTime : ℤ) (target : LogTarget) : LogTarget :=
  { target with
    lastTimestamp := if timestamp ≠ none then timestamp else target.lastTimestamp
    lastRecordTime := some recordTime }

/-- A reading has the timestamp of the last reading that had one. -/
def isRepeat (timestamp : Option ℤ) (target : LogTarget) : Bool :=
  timestamp ≠ none && timestamp = target.lastTimestamp

/-- The part of `LogReading` that decides about the reading of a value sensor: the time of its
record, none when there is to be no record. -/
def valueRecordTime (clock : SystemClock) (startTime time : ℤ) (timestamp : Option ℤ)
    (target : LogTarget) : Option ℤ :=
  let recordTime := max (timestamp.getD time) startTime
  if target.isRepeat timestamp && target.logOnlyNewData then none
  else
    -- sample and hold: a sample already in the file is written again at the caller's time
    let recordTime := if target.isRepeat timestamp then time else recordTime
    match target.lastRecordTime with
    | none => some recordTime
    | some last =>
      if recordTime ≤ last then
        if target.isRepeat timestamp then none else some (last + clock.minRecordTimeStep)
      else some recordTime

/-- What `LogValueReading` gives the writer. -/
def valueContent (timeDelta : UInt64) (reading : LoggerReading) (target : LogTarget) :
    RecordContent :=
  let valid := reading.value.isSome && !reading.hasError
  let value := if valid then reading.value.getD 0 else 0
  let invalidMask := if valid then 0 else target.valueInvalidMask
  if target.kind = .valueWithRaw then
    .values [.float64 timeDelta, .float32 value, .float32 (reading.rawValue.getD 0)]
      (if reading.rawValue = none then invalidMask ||| target.rawValueInvalidMask else invalidMask)
  else .values [.float64 timeDelta, .float32 value] invalidMask

end LogTarget

namespace Logger

variable {σ : Type}

/-- `StartLogging`; none when it throws. -/
def startLogging (file : LogFile σ) (startTime : ℤ) (logger : Logger σ) :
    Option Bool × Logger σ :=
  let targets := fun sensor => (logger.targets sensor).map LogTarget.reset
  match file.writeHeader startTime logger.stream with
  | (none, stream) => (none, { logger with targets, stream, isLogging := false, startTime })
  | (some bytes, stream) =>
    -- until the header is out the writers may not exist
    match file.sync stream with
    | (false, stream) => (some false,
        { targets, stream, isLogging := false, startTime, currentFileSizeBytes := bytes })
    | (true, stream) => (some true,
        { targets, stream, isLogging := true, startTime, currentFileSizeBytes := bytes })

/-- `StopLogging`. -/
def stopLogging (file : LogFile σ) (logger : Logger σ) : Bool × Logger σ :=
  if !logger.isLogging then (false, logger)
  else
    match file.finalize logger.stream with
    | (none, stream) => (false, { logger with stream, isLogging := false })
    | (some bytes, stream) => (true,
        { logger with
          stream, isLogging := false
          currentFileSizeBytes := logger.currentFileSizeBytes + bytes })

/-- A record goes to the writer of its sensor. -/
def write (file : LogFile σ) (record : LogRecord) (logger : Logger σ) : LogAnswer × Logger σ :=
  match file.write record logger.stream with
  | (none, stream) => (.threw record, { logger with stream })
  | (some bytes, stream) => (.logged record,
      { logger with stream, currentFileSizeBytes := logger.currentFileSizeBytes + bytes })

/-- The targets with the one of a sensor replaced. -/
def setTarget (sensor : UInt32) (target : LogTarget) (logger : Logger σ) : Logger σ :=
  { logger with targets := Function.update logger.targets sensor (some target) }

/-- `LogValueReading`, and what is noted of its record. -/
def recordValue (clock : SystemClock) (file : LogFile σ) (reading : LoggerReading)
    (target : LogTarget) (recordTime : ℤ) (logger : Logger σ) : LogAnswer × Logger σ :=
  match logger.write file ⟨reading.sensorIdHash, recordTime,
      target.valueContent (clock.toSeconds (recordTime - logger.startTime)) reading⟩ with
  | (.logged record, logger) => (.logged record,
      logger.setTarget reading.sensorIdHash (target.noteRecord reading.timestamp recordTime))
  | (answer, logger) => (answer, logger)

/-- `LogReading`. -/
def logReading (clock : SystemClock) (file : LogFile σ) (time : ℤ) (reading : LoggerReading)
    (logger : Logger σ) : LogAnswer × Logger σ :=
  if !logger.isLogging then (.rejected, logger)
  else
    match logger.targets reading.sensorIdHash with
    | none => (.rejected, logger)
    | some target =>
      if target.kind = .canFrame then
        let recordTime := max (reading.timestamp.getD time) logger.startTime
        match reading.canFrame with
        | none => (.rejected, logger)
        | some frame => logger.write file ⟨reading.sensorIdHash, recordTime,
            .canFrame frame (clock.toSeconds (recordTime - logger.startTime)) target.busChannel⟩
      else
        match target.valueRecordTime clock logger.startTime time reading.timestamp with
        | none => (.rejected, logger)
        | some recordTime => logger.recordValue clock file reading target recordTime

/-! ### What a call does -/

/-- A file that was started has its targets as at the start of a file. -/
theorem startLogging_target {file : LogFile σ} {startTime : ℤ} {before logger : Logger σ}
    (started : startLogging file startTime before = (some true, logger)) :
    logger.isLogging = true ∧ logger.startTime = startTime ∧
      ∀ sensor, logger.targets sensor = (before.targets sensor).map LogTarget.reset := by
  unfold startLogging at started
  cases header : file.writeHeader startTime before.stream with
  | mk bytes stream =>
    cases bytes with
    | none => simp [header] at started
    | some bytes =>
      cases synced : file.sync stream with
      | mk done stream =>
        cases done with
        | false => simp [header, synced] at started
        | true =>
          simp only [header, synced, Prod.mk.injEq, true_and] at started
          subst started
          exact ⟨rfl, rfl, fun _ => rfl⟩

/-- A writer takes a record or throws; both leave all but the stream and the size. -/
theorem write_cases (file : LogFile σ) (record : LogRecord) (logger : Logger σ) :
    ∃ stream bytes,
      write file record logger = (.threw record, { logger with stream }) ∨
        write file record logger = (.logged record,
          { logger with stream, currentFileSizeBytes := logger.currentFileSizeBytes + bytes }) := by
  unfold write
  cases file.write record logger.stream with
  | mk taken stream =>
    cases taken with
    | none => exact ⟨stream, 0, .inl rfl⟩
    | some bytes => exact ⟨stream, bytes, .inr rfl⟩

section

variable {reading : LoggerReading} {logger : Logger σ} {target : LogTarget}

/-- A call touches at most the target of the reading's sensor, and writes at most for it. -/
structure Touches (sensor : UInt32) (before : Logger σ) (after : LogAnswer × Logger σ) :
    Prop where
  isLogging : after.2.isLogging = before.isLogging
  startTime : after.2.startTime = before.startTime
  record : ∀ record ∈ after.1.record, record.sensorIdHash = sensor
  others : ∀ other ≠ sensor, after.2.targets other = before.targets other

theorem Touches.rejected (sensor : UInt32) (logger : Logger σ) :
    Touches sensor logger (.rejected, logger) :=
  ⟨rfl, rfl, fun _ given => (nomatch given), fun _ _ => rfl⟩

theorem write_touches (file : LogFile σ) (record : LogRecord) (logger : Logger σ) :
    Touches record.sensorIdHash logger (write file record logger) := by
  have only : ∀ given ∈ some record, given.sensorIdHash = record.sensorIdHash := by
    rintro given ⟨⟩
    rfl
  obtain ⟨stream, bytes, wrote | wrote⟩ := write_cases file record logger
  · rw [wrote]
    exact ⟨rfl, rfl, only, fun _ _ => rfl⟩
  · rw [wrote]
    exact ⟨rfl, rfl, only, fun _ _ => rfl⟩

/-- A record for a value sensor has the time that was decided; the target is noted of it exactly
when the writer takes it. -/
theorem recordValue_spec (clock : SystemClock) (file : LogFile σ) (reading : LoggerReading)
    (target : LogTarget) (recordTime : ℤ) (logger : Logger σ) :
    Touches reading.sensorIdHash logger
        (logger.recordValue clock file reading target recordTime) ∧
      ∃ record, record.recordTime = recordTime ∧
        ((logger.recordValue clock file reading target recordTime).1 = .threw record ∧
            (logger.recordValue clock file reading target recordTime).2.targets = logger.targets ∨
          (logger.recordValue clock file reading target recordTime).1 = .logged record ∧
            (logger.recordValue clock file reading target recordTime).2.targets
              reading.sensorIdHash = some (target.noteRecord reading.timestamp recordTime)) := by
  let record : LogRecord := ⟨reading.sensorIdHash, recordTime,
    target.valueContent (clock.toSeconds (recordTime - logger.startTime)) reading⟩
  have only : ∀ given ∈ some record, given.sensorIdHash = reading.sensorIdHash := by
    rintro given ⟨⟩
    rfl
  unfold recordValue
  obtain ⟨stream, bytes, wrote | wrote⟩ := write_cases file record logger
  · rw [wrote]
    exact ⟨⟨rfl, rfl, only, fun _ _ => rfl⟩, record, rfl, .inl ⟨rfl, rfl⟩⟩
  · rw [wrote]
    refine ⟨⟨rfl, rfl, only, fun other different => ?_⟩, record, rfl, .inr ⟨rfl, ?_⟩⟩
    · exact Function.update_of_ne different _ _
    · exact Function.update_self _ _ _

/-- The reading of a value sensor. -/
theorem logReading_value (clock : SystemClock) (file : LogFile σ) (time : ℤ)
    (isLogging : logger.isLogging = true)
    (found : logger.targets reading.sensorIdHash = some target)
    (isValue : target.kind ≠ .canFrame) :
    logReading clock file time reading logger =
      match target.valueRecordTime clock logger.startTime time reading.timestamp with
      | none => (.rejected, logger)
      | some recordTime => logger.recordValue clock file reading target recordTime := by
  rw [logReading, isLogging, found]
  simp only [Bool.not_true, Bool.false_eq_true, if_false, if_neg isValue]

/-- The reading of a sensor for frames. -/
theorem logReading_canFrame (clock : SystemClock) (file : LogFile σ) (time : ℤ)
    (isLogging : logger.isLogging = true)
    (found : logger.targets reading.sensorIdHash = some target)
    (isFrame : target.kind = .canFrame) :
    logReading clock file time reading logger = (.rejected, logger) ∨
      ∃ recordTime content, logReading clock file time reading logger =
        logger.write file ⟨reading.sensorIdHash, recordTime, content⟩ := by
  rw [logReading, isLogging, found]
  simp only [Bool.not_true, Bool.false_eq_true, if_false, if_pos isFrame]
  cases reading.canFrame with
  | none => exact .inl rfl
  | some frame => exact .inr ⟨_, _, rfl⟩

theorem logReading_touches (clock : SystemClock) (file : LogFile σ) (time : ℤ)
    (reading : LoggerReading) (logger : Logger σ) :
    Touches reading.sensorIdHash logger (logReading clock file time reading logger) := by
  have nothing := Touches.rejected reading.sensorIdHash logger
  cases isLogging : logger.isLogging with
  | false =>
    rw [logReading, isLogging]
    exact nothing
  | true =>
    cases found : logger.targets reading.sensorIdHash with
    | none =>
      rw [logReading, isLogging, found]
      exact nothing
    | some target =>
      by_cases isFrame : target.kind = .canFrame
      · obtain ends | ⟨recordTime, content, ends⟩ :=
          logReading_canFrame clock file time isLogging found isFrame
        · rw [ends]
          exact nothing
        · rw [ends]
          exact write_touches file ⟨reading.sensorIdHash, recordTime, content⟩ logger
      · rw [logReading_value clock file time isLogging found isFrame]
        cases target.valueRecordTime clock logger.startTime time reading.timestamp with
        | none => exact nothing
        | some recordTime => exact (recordValue_spec clock file reading target recordTime logger).1

end

end Logger

end RtCore.Logging
