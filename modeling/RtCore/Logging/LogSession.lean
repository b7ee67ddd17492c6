import RtCore.Logging.LoggerTargets
import RtCore.Logging.RecordTimes
import RtCore.Mdf.Finalization

/-!
# The life of a log file

The logger, the file it describes and the buffered stream together: a header, readings and syncs in
any order, and at the end the finalization and the closing of the stream, over a file system whose
writes, seeks and syncs may fail at any time.

## Main definitions

* `LoggerTargets.logFile` — the file of the logger, with the writers that its targets have
* `LogEvent`, `LoggerTargets.session` — a file from its start to its end
* `LogTarget.items` — what the record of a reading is to say

## Main results

* `LoggerTargets.writeRecord_takes` — a record is one sample for its writer
* `LoggerTargets.session_spec` — what goes over the identifier block, and what is finalized
-/

namespace RtCore.Logging

open RtCore.Foundation RtCore.Fs RtCore.Mdf

namespace LoggerTargets

variable {σ : Type}

/-- The end of `StartLogging` gives each target the writer of its group; false when one throws. -/
def bindsWriters (l : LoggerTargets) (r : Mdf4Recorder) : Bool :=
  l.targetChannelGroups.all fun entry =>
    match l.targets entry.1 with
    | none => false
    | some target =>
      if target.kind = .canFrame then (r.getCanRecordWriter entry.2).isSome
      else (r.getRecordWriter entry.2).isSome

/-- A record goes to the writer of its sensor's group. -/
def writeRecord (toFloat : UInt64 → UInt32) (out : OutputStream σ) (l : LoggerTargets)
    (record : LogRecord) (log : σ × Mdf4Recorder) : Option ℕ × σ × Mdf4Recorder :=
  match l.group record.sensorIdHash with
  | none => (none, log)
  | some group =>
    match record.content with
    | .values numbers invalidMask =>
      match log.2.getRecordWriter group with
      | none => (none, log)
      | some place => log.2.writeRecord out place numbers invalidMask log.1
    | .canFrame frame time busChannel =>
      match log.2.getCanRecordWriter group with
      | none => (none, log)
      | some place => log.2.writeCanRecord toFloat out place frame time busChannel log.1

/-- The file of the logger and its stream; `toNs` gives the nanoseconds of a time point. -/
def logFile (toFloat : UInt64 → UInt32) (toNs : ℤ → ℕ) (out : OutputStream σ)
    (l : LoggerTargets) : LogFile (σ × Mdf4Recorder) where
  writeHeader startTime log :=
    let result := log.2.writeHeaderToStream l.file out (toNs startTime) log.1
    (if l.bindsWriters result.2.2 then result.1 else none, result.2)
  sync log :=
    let result := out.sync log.1
    (result.1, result.2, log.2)
  write record log := l.writeRecord toFloat out record log
  finalize log := log.2.finalizeToStream l.file.description out log.1

end LoggerTargets

/-! ### A file from its start to its end -/

/-- What the log writer does with a file that is started. -/
inductive LogEvent where
  | reading (call : LogCall)
  | sync

/-- A log file: the buffer of its stream, the answers of the file system, and the clock. -/
structure LogSetting where
  bufferSize : ℕ
  answers : ℕ → Answer
  clock : SystemClock
  toFloat : UInt64 → UInt32
  toNs : ℤ → ℕ

namespace LoggerTargets

variable (setting : LogSetting) (l : LoggerTargets)

/-- The file of the logger over a buffered stream. -/
def streamFile : LogFile (StreamBuf × Mdf4Recorder) :=
  l.logFile setting.toFloat setting.toNs (streamBuf setting.bufferSize setting.answers)

/-- An event, with the history of the readings. -/
def logEvent (state : Logger (StreamBuf × Mdf4Recorder) × List LogEntry) :
    LogEvent → Logger (StreamBuf × Mdf4Recorder) × List LogEntry
  | .reading call => Logger.logCall setting.clock (l.streamFile setting) state call
  | .sync => ({ state.1 with
      stream := ((StreamBuf.sync setting.answers state.1.stream.1).2, state.1.stream.2) }, state.2)

/-- A new file is opened and started; the logger is one that the constructor built, with the targets
as earlier files left them. -/
def openFile (startTime : ℤ) (logger : Logger (StreamBuf × Mdf4Recorder)) :
    Option Bool × Logger (StreamBuf × Mdf4Recorder) :=
  Logger.startLogging (l.streamFile setting) startTime
    { logger with stream := ({ file := {} }, logger.stream.2) }

/-- `CloseLogFile`: the finalization, and the closing of the stream. -/
def closeFile (logger : Logger (StreamBuf × Mdf4Recorder)) :
    Bool × Logger (StreamBuf × Mdf4Recorder) :=
  let (isFinalized, logger) := logger.stopLogging (l.streamFile setting)
  (isFinalized, { logger with
    stream := ((StreamBuf.close setting.answers logger.stream.1).2, logger.stream.2) })

/-- What became of a file. -/
structure Session where
  /-- What `StartLogging` returned. -/
  started : Option Bool
  history : List LogEntry
  /-- What `StopLogging` returned. -/
  isFinalized : Bool
  logger : Logger (StreamBuf × Mdf4Recorder)

/-- A file from its start to its end; one that is not started is closed at once. -/
def session (startTime : ℤ) (events : List LogEvent)
    (logger : Logger (StreamBuf × Mdf4Recorder)) : Session :=
  match l.openFile setting startTime logger with
  | (some true, logger) =>
    let (logger, history) := run (l.logEvent setting) (logger, []) events
    let (isFinalized, logger) := l.closeFile setting logger
    ⟨some true, history, isFinalized, logger⟩
  | (started, logger) =>
    ⟨started, [], false, { logger with
      stream := ((StreamBuf.close setting.answers logger.stream.1).2, logger.stream.2) }⟩

end LoggerTargets

/-! ### Records and what they say -/

/-- The content of the record of a reading, none where there is no record. -/
def LogTarget.content (timeDelta : UInt64) (reading : LoggerReading) (target : LogTarget) :
    Option RecordContent :=
  if target.kind = .canFrame then
    reading.canFrame.map fun frame => .canFrame frame timeDelta target.busChannel
  else some (target.valueContent timeDelta reading)

/-- What the record of a reading is to say: the time since the start of the file, and the value of
the sensor, invalid where the reading has none or an error, or the frame. -/
def LogTarget.items (timeDelta : UInt64) (reading : LoggerReading) (target : LogTarget) :
    List Item :=
  let isValid := reading.value.isSome && !reading.hasError
  let value := Item.number (if isValid then reading.value.getD 0 else 0).toNat !isValid
  match target.kind with
  | .value => [.number timeDelta.toNat false, value]
  | .valueWithRaw => [.number timeDelta.toNat false, value,
      .number (reading.rawValue.getD 0).toNat reading.rawValue.isNone]
  | .canFrame =>
    match reading.canFrame with
    | none => []
    | some frame => [.number timeDelta.toNat false] ++
        (frame.parts ((toCanDlc frame.data.length).getD 0) target.busChannel).map
          (Item.number · false) ++ [.payload (some frame.data)]

namespace LoggerTargets

variable {l : LoggerTargets} {setting : LogSetting}

/-- The sample that a record is for the file. -/
def sample (l : LoggerTargets) (record : LogRecord) : Option Sample :=
  (l.group record.sensorIdHash).bind fun group =>
    match record.content with
    | .values numbers invalidMask => some (.values group numbers invalidMask)
    | .canFrame frame time busChannel =>
      (l.file.canChannelGroups.find? fun groups => groups.1 = group).map fun groups =>
        .canFrame groups frame time busChannel

/-- The samples of the readings that were logged. -/
def samples (l : LoggerTargets) (history : List LogEntry) : List Sample :=
  history.filterMap fun entry => entry.answer.written.bind l.sample

/-- The group of a sensor is one of the kind of its target. -/
theorem Sound.group_eq (sound : l.Sound) {sensor : UInt32} {target : LogTarget}
    (found : l.targets sensor = some target) :
    ∃ i, l.group sensor = some i ∧ target.Matches l.file i := by
  obtain ⟨i, member⟩ := sound.grouped sensor target found
  have some_ : (l.targetChannelGroups.reverse.find? fun entry => entry.1 = sensor).isSome := by
    rw [List.find?_isSome]
    exact ⟨(sensor, i), List.mem_reverse.mpr member, by simp⟩
  obtain ⟨entry, first⟩ := Option.isSome_iff_exists.mp some_
  have same : entry.1 = sensor := by simpa using List.find?_some first
  obtain ⟨target', found', matched⟩ := sound.matched entry
    (List.mem_reverse.mp (List.mem_of_find?_eq_some first))
  rw [same, found] at found'
  obtain rfl := Option.some.inj found'
  exact ⟨entry.2, by rw [group, first]; rfl, matched⟩

/-- What a value record says is what its reading says. -/
private theorem valueContent_spec {i : ℕ} {g : Group} {hasRawValue : Bool} {s : Mdf4Structure}
    {target : LogTarget} (found : s.description.groups[i]? = some g)
    (group : IsValueGroup hasRawValue g) (listed : i ∈ s.recordChannelGroups)
    (kind : target.kind = if hasRawValue then .valueWithRaw else .value)
    (mask : target.valueInvalidMask = 1)
    (rawMask : hasRawValue = true → target.rawValueInvalidMask = 2)
    (toFloat : UInt64 → UInt32) (timeDelta : UInt64) (reading : LoggerReading) :
    ∃ numbers invalidMask, target.valueContent timeDelta reading = .values numbers invalidMask ∧
      Sample.Accepted s (.values i numbers invalidMask) ∧
      Sample.reading s toFloat (.values i numbers invalidMask) =
        ⟨i, target.items timeDelta reading⟩ := by
  have used := group.usedBits
  have types := group.valueTypes
  -- Every bit position is below 8, so the one invalidation byte of the group has room for it.
  have places : ∀ c ∈ g.channels, c.fields.hasInvalidationBit = true →
      c.fields.invalidationBitPos < g.invalidationBytes * 8 := by
    intro c member _
    have listed : c.fields ∈ valueFields hasRawValue := by
      rw [← group.fields]
      exact List.mem_map_of_mem member
    have small : ∀ fields ∈ valueFields hasRawValue, fields.invalidationBitPos < 8 := by
      cases hasRawValue <;> decide
    rw [group.invalidationBytes]
    exact small c.fields listed
  unfold LogTarget.valueContent LogTarget.items
  generalize (reading.value.isSome && !reading.hasError) = isValid
  -- With the raw value there is one channel and one invalidation bit more.
  obtain ⟨time, value, rfl, given, isTime, isValue⟩ |
    ⟨time, value, raw, rfl, given, isTime, isValue, isRaw⟩ := group.channels
  · rw [if_neg Bool.false_ne_true] at kind
    rw [kind, if_neg (by decide), mask]
    refine ⟨_, _, rfl, .values listed found (by rw [types]; rfl) places ?_, ?_⟩
    · rw [used]
      cases isValid <;> decide
    · simp only [Sample.reading, found, Option.elim_some, given, List.zip_cons_cons,
        List.zip_nil_right, List.map_cons, List.map_nil, isTime, isValue, MdfValue.number]
      cases isValid <;> rfl
  · rw [if_pos rfl] at kind
    rw [kind, if_pos rfl, mask, rawMask rfl]
    refine ⟨_, _, rfl, .values listed found (by rw [types]; rfl) places ?_, ?_⟩
    · rw [used]
      cases reading.rawValue with
      | none => cases isValid <;> decide
      | some bits =>
        simp only [reduceCtorEq, if_false]
        cases isValid <;> decide
    · simp only [Sample.reading, found, Option.elim_some, given, List.zip_cons_cons,
        List.zip_nil_right, List.map_cons, List.map_nil, isTime, isValue, isRaw, MdfValue.number]
      cases reading.rawValue with
      | none => cases isValid <;> rfl
      | some bits =>
        simp only [reduceCtorEq, if_false]
        cases isValid <;> rfl

section Writing

variable {σ : Type} {toFloat : UInt64 → UInt32} {startNs : ℕ} {taken : List Sample}
  {r : Mdf4Recorder}

/-- A group with a writer has a place among the writers. -/
private theorem findIdx?_of_mem {α : Type} {groups : List α} {p : α → Bool} {group : α}
    (member : group ∈ groups) (accepts : p group = true) :
    ∃ place found, groups.findIdx? p = some place ∧ groups[place]? = some found ∧
      p found = true ∧ groups.find? p = some found := by
  have some_ : (groups.find? p).isSome = true :=
    List.find?_isSome.mpr ⟨group, member, accepts⟩
  obtain ⟨found, first⟩ := Option.isSome_iff_exists.mp some_
  have index := first
  rw [List.find?_eq_bind_findIdx?_getElem?] at index
  obtain ⟨place, isPlace, here⟩ := Option.bind_eq_some_iff.mp index
  exact ⟨place, found, isPlace, here, List.find?_some first, first⟩

/-- The sample of a record, which its writer takes while there is room, and what it says. -/
structure Spells (l : LoggerTargets) (toFloat : UInt64 → UInt32) (record : LogRecord)
    (items : List Item) (sample : Sample) : Prop where
  isSample : l.sample record = some sample
  accepted : sample.Accepted l.file
  room : ∀ log, sample.HasRoom l.file log
  reading : ∃ i, l.group record.sensorIdHash = some i ∧
    sample.reading l.file toFloat = ⟨i, items⟩

private theorem writeRecord_takes_values (sound : l.Sound)
    (holds : r.Holds l.file toFloat startNs taken) {sensor : UInt32} {target : LogTarget} {i : ℕ}
    {g : Group} {hasRawValue : Bool} (group : l.group sensor = some i)
    (listed : i ∈ l.file.recordChannelGroups) (here : l.file.description.groups[i]? = some g)
    (isValue : IsValueGroup hasRawValue g)
    (kind : target.kind = if hasRawValue then .valueWithRaw else .value)
    (mask : target.valueInvalidMask = 1)
    (rawMask : hasRawValue = true → target.rawValueInvalidMask = 2) (out : OutputStream σ)
    (stream : σ) (recordTime : ℤ) (timeDelta : UInt64) (reading : LoggerReading) :
    let record : LogRecord := ⟨sensor, recordTime, target.valueContent timeDelta reading⟩
    ∃ sample, l.Spells toFloat record (target.items timeDelta reading) sample ∧
      Mdf4Recorder.Takes l.file toFloat startNs taken out.put stream sample
        (l.writeRecord toFloat out record (stream, r)) := by
  obtain ⟨numbers, invalidMask, content, accepted, items⟩ := valueContent_spec here isValue listed
    kind mask rawMask toFloat timeDelta reading
  have member := listed
  rw [← holds.groups] at member
  obtain ⟨place, found, isPlace, there, isGroup, -⟩ :=
    findIdx?_of_mem (p := fun group => group = i) member (by simp)
  obtain rfl : found = i := by simpa using isGroup
  rw [List.findIdx?_map] at isPlace
  rw [holds.groups] at there
  have writer : r.getRecordWriter found = some place := by
    rw [Mdf4Recorder.getRecordWriter, holds.isHeaderWritten]
    exact isPlace
  dsimp only
  refine ⟨.values found numbers invalidMask, ⟨?_, accepted, fun _ => trivial, found, group,
    items⟩, ?_⟩
  · simp only [sample, group, content, Option.bind_some]
  · simp only [writeRecord, group, content, writer]
    exact Mdf4Recorder.writeRecord_takes sound.file holds out there numbers invalidMask stream

private theorem writeRecord_takes_canFrame (sound : l.Sound)
    (holds : r.Holds l.file toFloat startNs taken) {sensor : UInt32} {target : LogTarget}
    {i j : ℕ} (group : l.group sensor = some i) (listed : (i, j) ∈ l.file.canChannelGroups)
    (kind : target.kind = .canFrame) (out : OutputStream σ) (stream : σ) (recordTime : ℤ)
    (timeDelta : UInt64) {reading : LoggerReading} {frame : CanFrame}
    (given : reading.canFrame = some frame) :
    let record : LogRecord := ⟨sensor, recordTime, .canFrame frame timeDelta target.busChannel⟩
    ∃ sample, l.Spells toFloat record (target.items timeDelta reading) sample ∧
      Mdf4Recorder.Takes l.file toFloat startNs taken out.put stream sample
        (l.writeRecord toFloat out record (stream, r)) := by
  have timeSize : CanRecordWriter.timeSizeOf l.file.options.timeType = some 8 := by
    rw [sound.timeType]
    rfl
  have member := listed
  rw [← holds.canGroups] at member
  obtain ⟨place, found, isPlace, there, isGroup, first⟩ :=
    findIdx?_of_mem (p := fun groups : ℕ × ℕ => groups.1 = i) member (by simp)
  have isGroup : found.1 = i := by simpa using isGroup
  rw [List.findIdx?_map] at isPlace
  rw [holds.canGroups] at there first
  have writer : r.getCanRecordWriter i = some place := by
    rw [Mdf4Recorder.getCanRecordWriter, holds.isHeaderWritten]
    exact isPlace
  dsimp only
  refine ⟨.canFrame found frame timeDelta target.busChannel, ⟨?_,
    .canFrame frame _ _ (List.mem_of_getElem? there) timeSize, fun log small => ?_, i, group, ?_⟩,
    ?_⟩
  · simp only [sample, group, Option.bind_some, first, Option.map_some]
  · rw [sound.vlsdOffsetSize] at small
    exact absurd small (lt_irrefl 8)
  · have bytes : ofLeBytes (l.file.timeBytes toFloat timeDelta) = timeDelta.toNat := by
      rw [Mdf4Structure.timeBytes, timeSize, Option.getD_some, CanRecordWriter.timeBytes,
        if_neg (by decide)]
      exact ofLeBytes_leBytes (show timeDelta.toNat < 256 ^ 8 from timeDelta.toNat_lt)
    simp only [Sample.reading, LogTarget.items, kind, given, bytes, isGroup]
  · simp only [writeRecord, group, writer]
    exact Mdf4Recorder.writeCanRecord_takes sound.file sound.payloads holds out there frame
      timeDelta target.busChannel stream

/-- The record of a reading that the logger hands to a writer: the writer takes it as long as there
is room and the stream takes its bytes, and the record says what the reading says. -/
theorem writeRecord_takes (sound : l.Sound) (holds : r.Holds l.file toFloat startNs taken)
    {sensor : UInt32} {target : LogTarget} (found : l.targets sensor = some target)
    {timeDelta : UInt64} {reading : LoggerReading} {content : RecordContent}
    (given : target.content timeDelta reading = some content) (out : OutputStream σ) (stream : σ)
    (recordTime : ℤ) :
    let record : LogRecord := ⟨sensor, recordTime, content⟩
    ∃ sample, l.Spells toFloat record (target.items timeDelta reading) sample ∧
      Mdf4Recorder.Takes l.file toFloat startNs taken out.put stream sample
        (l.writeRecord toFloat out record (stream, r)) := by
  obtain ⟨i, group, matched⟩ := sound.group_eq found
  unfold LogTarget.content at given
  cases matched with
  | value kind listed here isValue mask =>
    rw [if_neg (by rw [kind]; decide)] at given
    obtain rfl := Option.some.inj given
    exact writeRecord_takes_values sound holds group listed here isValue kind mask (by simp) out
      stream recordTime timeDelta reading
  | valueWithRaw kind listed here isValue mask rawMask =>
    rw [if_neg (by rw [kind]; decide)] at given
    obtain rfl := Option.some.inj given
    exact writeRecord_takes_values sound holds group listed here isValue kind mask
      (fun _ => rawMask) out stream recordTime timeDelta reading
  | canFrame kind listed =>
    rw [if_pos kind] at given
    obtain ⟨frame, isFrame, rfl⟩ := Option.map_eq_some_iff.mp given
    exact writeRecord_takes_canFrame sound holds group listed kind out stream recordTime timeDelta
      isFrame

end Writing

end LoggerTargets

/-! ### The calls of a file -/

/-- What a call of `LogReading` does: it is rejected and changes nothing, or it hands a record to
the writer of the reading's sensor. -/
theorem Logger.logReading_cases {σ : Type} (clock : SystemClock) (file : LogFile σ) (time : ℤ)
    (reading : LoggerReading) (logger : Logger σ) :
    Logger.logReading clock file time reading logger = (.rejected, logger) ∨
    ∃ target recordTime content, logger.isLogging = true ∧
      logger.targets reading.sensorIdHash = some target ∧
      target.content (clock.toSeconds (recordTime - logger.startTime)) reading = some content ∧
      let record : LogRecord := ⟨reading.sensorIdHash, recordTime, content⟩
      let written := file.write record logger.stream
      let after := Logger.logReading clock file time reading logger
      after.1 = (if written.1.isSome then .logged record else .threw record) ∧
      after.2.stream = written.2 ∧ after.2.isLogging = true ∧
      after.2.startTime = logger.startTime ∧
      ∀ sensor, (after.2.targets sensor).map LogTarget.reset =
        (logger.targets sensor).map LogTarget.reset := by
  unfold Logger.logReading
  cases isLogging : logger.isLogging with
  | false => exact .inl rfl
  | true =>
    cases found : logger.targets reading.sensorIdHash with
    | none => exact .inl rfl
    | some target =>
      -- A frame target needs a frame, a value target a time to record it at.
      by_cases isFrame : target.kind = .canFrame
      · cases given : reading.canFrame with
        | none =>
          left
          simp only [Bool.not_true, Bool.false_eq_true, if_false, if_pos isFrame]
        | some frame =>
          right
          refine ⟨target, max (reading.timestamp.getD time) logger.startTime, _, rfl, rfl,
            by rw [LogTarget.content, if_pos isFrame, given]; rfl, ?_⟩
          simp only [Bool.not_true, Bool.false_eq_true, if_false, if_pos isFrame, Logger.write]
          cases file.write _ logger.stream with
          | mk taken stream =>
            cases taken with
            | none => exact ⟨by simp, rfl, isLogging, rfl, fun _ => rfl⟩
            | some bytes => exact ⟨by simp, rfl, isLogging, rfl, fun _ => rfl⟩
      · simp only [Bool.not_true, Bool.false_eq_true, if_false, if_neg isFrame]
        cases target.valueRecordTime clock logger.startTime time reading.timestamp with
        | none => exact .inl rfl
        | some recordTime =>
          right
          refine ⟨target, recordTime, _, trivial, rfl,
            by rw [LogTarget.content, if_neg isFrame], ?_⟩
          simp only [Logger.recordValue, Logger.write]
          cases file.write _ logger.stream with
          | mk taken stream =>
            cases taken with
            | none => exact ⟨by simp, rfl, isLogging, rfl, fun _ => rfl⟩
            | some bytes =>
              refine ⟨by simp, rfl, isLogging, rfl, fun sensor => ?_⟩
              by_cases own : sensor = reading.sensorIdHash
              · rw [own, found]
                simp [Logger.setTarget, LogTarget.noteRecord, LogTarget.reset]
              · simp [Logger.setTarget, Function.update_of_ne own]

namespace LoggerTargets

variable {l : LoggerTargets} {setting : LogSetting}

/-- What the log is to say of a call: nothing, unless its record was taken. -/
def readingOf (l : LoggerTargets) (clock : SystemClock) (startTime : ℤ) (entry : LogEntry) :
    Option Reading :=
  entry.answer.written.bind fun record =>
    (l.targets record.sensorIdHash).bind fun target =>
      (l.group record.sensorIdHash).map fun group =>
        ⟨group, target.items (clock.toSeconds (record.recordTime - startTime)) entry.call.reading⟩

/-- A file that is being written: the stream holds the samples of the history, and they say what the
readings of the history say. -/
structure Underway (setting : LogSetting) (l : LoggerTargets) (startTime : ℤ)
    (state : Logger (StreamBuf × Mdf4Recorder) × List LogEntry) : Prop where
  isLogging : state.1.isLogging = true
  started : state.1.startTime = startTime
  targets : ∀ sensor, (state.1.targets sensor).map LogTarget.reset =
    (l.targets sensor).map LogTarget.reset
  recording : Recording setting.bufferSize l.file setting.toFloat (setting.toNs startTime)
    (l.samples state.2) state.1.stream.2 state.1.stream.1
  items : (l.samples state.2).map (Sample.reading l.file setting.toFloat) =
    state.2.filterMap (l.readingOf setting.clock startTime)

variable {startTime : ℤ} {state : Logger (StreamBuf × Mdf4Recorder) × List LogEntry}

/-- A record that was taken adds its sample, and what its reading says. -/
private theorem samples_concat {entry : LogEntry} {record : LogRecord} {sample : Sample}
    {target : LogTarget} {toFloat : UInt64 → UInt32} (history : List LogEntry)
    (logged : entry.answer = .logged record) (found : l.targets record.sensorIdHash = some target)
    (spells : l.Spells toFloat record (target.items (setting.clock.toSeconds
      (record.recordTime - startTime)) entry.call.reading) sample) :
    l.samples (history ++ [entry]) = l.samples history ++ [sample] ∧
      l.readingOf setting.clock startTime entry = some (sample.reading l.file toFloat) := by
  obtain ⟨i, group, reading⟩ := spells.reading
  constructor
  · rw [samples, List.filterMap_append, List.filterMap_cons_some
      (b := sample) (by simp only [logged, LogAnswer.written, Option.bind_some, spells.isSample])]
    rfl
  · simp only [readingOf, logged, LogAnswer.written, Option.bind_some, found, group,
      Option.map_some, reading]

/-- A call without a record that was taken adds nothing. -/
private theorem samples_concat_of_no_record (l : LoggerTargets) (clock : SystemClock)
    (startTime : ℤ) {entry : LogEntry} (history : List LogEntry)
    (nothing : entry.answer.written = none) : 
    l.samples (history ++ [entry]) = l.samples history ∧
      l.readingOf clock startTime entry = none := by
  constructor
  · rw [samples, List.filterMap_append, List.filterMap_cons_none
      (by simp only [nothing, Option.bind_none])]
    exact List.append_nil _
  · simp only [readingOf, nothing, Option.bind_none]

/-- The writer of a target takes a record as one sample. -/
theorem Underway.takes (sound : l.Sound) (underway : Underway setting l startTime state)
    {sensor : UInt32} {target : LogTarget} (found : state.1.targets sensor = some target)
    {recordTime : ℤ} {reading : LoggerReading} {content : RecordContent}
    (given : target.content (setting.clock.toSeconds (recordTime - state.1.startTime)) reading =
      some content) :
    ∃ made sample, l.targets sensor = some made ∧
      l.Spells setting.toFloat ⟨sensor, recordTime, content⟩
        (made.items (setting.clock.toSeconds (recordTime - startTime)) reading) sample ∧
      Mdf4Recorder.Takes l.file setting.toFloat (setting.toNs startTime) (l.samples state.2)
        (streamBuf setting.bufferSize setting.answers).put state.1.stream.1 sample
        ((l.streamFile setting).write ⟨sensor, recordTime, content⟩ state.1.stream) := by
  -- the target is as the constructor made it, up to what it has noted
  have reset := underway.targets sensor
  rw [found, Option.map_some] at reset
  obtain ⟨made, listed, same⟩ := Option.map_eq_some_iff.mp reset.symm
  have given' : made.content (setting.clock.toSeconds (recordTime - startTime)) reading =
      some content := by
    let timeDelta := setting.clock.toSeconds (recordTime - startTime)
    calc made.content timeDelta reading
      _ = made.reset.content timeDelta reading := rfl
      _ = target.reset.content timeDelta reading := by rw [same]
      _ = target.content timeDelta reading := rfl
      _ = some content := by
        rw [← given, underway.started]
  obtain ⟨sample, spells, takes⟩ := writeRecord_takes sound underway.recording.holds listed given'
    (streamBuf setting.bufferSize setting.answers) state.1.stream.1 recordTime
  exact ⟨made, sample, listed, spells, takes⟩

theorem Underway.logCall (sound : l.Sound) (underway : Underway setting l startTime state)
    (call : LogCall) : Underway setting l startTime
      (Logger.logCall setting.clock (l.streamFile setting) state call) := by
  obtain ⟨logger, history⟩ := state
  unfold Logger.logCall
  have recording := underway.recording
  dsimp only at recording ⊢
  rcases Logger.logReading_cases setting.clock (l.streamFile setting) call.time call.reading logger
    with rejected | ⟨target, recordTime, content, -, found, given, answer, stream, isLogging, start,
      targets⟩
  · rw [rejected]
    obtain ⟨same, nothing⟩ : l.samples (history ++ [⟨call, .rejected⟩]) = l.samples history ∧
        l.readingOf setting.clock startTime ⟨call, .rejected⟩ = none :=
      samples_concat_of_no_record l setting.clock startTime history rfl
    refine ⟨underway.isLogging, underway.started, underway.targets, ?_, ?_⟩
    · rw [same]
      exact recording
    · rw [same, underway.items, List.filterMap_append, List.filterMap_cons_none nothing]
      exact (List.append_nil _).symm
  obtain ⟨made, sample, listed, spells, takes⟩ := underway.takes sound found given
  have next := recording.takes takes
  dsimp only at takes next stream
  generalize (l.streamFile setting).write ⟨call.reading.sensorIdHash, recordTime, content⟩
    logger.stream = written at answer stream next
  generalize Logger.logReading setting.clock (l.streamFile setting) call.time call.reading logger =
    after at answer stream isLogging start targets ⊢
  have sameTargets (sensor : UInt32) : (after.2.targets sensor).map LogTarget.reset =
      (l.targets sensor).map LogTarget.reset := (targets sensor).trans (underway.targets sensor)
  -- The writer took the record or threw; only in the first case the file has a sample more.
  cases taken : written.1 with
  | none =>
    rw [taken] at answer next
    obtain ⟨same, nothing⟩ : l.samples (history ++ [⟨call, after.1⟩]) = l.samples history ∧
        l.readingOf setting.clock startTime ⟨call, after.1⟩ = none :=
      samples_concat_of_no_record l setting.clock startTime history (by rw [answer]; rfl)
    refine ⟨isLogging, start.trans underway.started, sameTargets, ?_, ?_⟩
    · rw [same]
      dsimp only
      rw [stream]
      exact next
    · rw [same, underway.items, List.filterMap_append, List.filterMap_cons_none nothing]
      exact (List.append_nil _).symm
  | some count =>
    rw [taken] at answer next
    obtain ⟨more, reading⟩ : l.samples (history ++ [⟨call, after.1⟩]) =
        l.samples history ++ [sample] ∧
          l.readingOf setting.clock startTime ⟨call, after.1⟩ =
            some (sample.reading l.file setting.toFloat) :=
      samples_concat history answer listed spells
    refine ⟨isLogging, start.trans underway.started, sameTargets, ?_, ?_⟩
    · rw [more]
      dsimp only
      rw [stream]
      exact next
    · rw [more, List.map_append, underway.items, List.filterMap_append,
        List.filterMap_cons_some reading]
      rfl

theorem Underway.logEvent (sound : l.Sound) (underway : Underway setting l startTime state)
    (event : LogEvent) : Underway setting l startTime (l.logEvent setting state event) := by
  cases event with
  | reading call => exact underway.logCall sound call
  | sync => exact ⟨underway.isLogging, underway.started, underway.targets,
      underway.recording.sync setting.answers, underway.items⟩

theorem Underway.run (sound : l.Sound) (underway : Underway setting l startTime state)
    (events : List LogEvent) :
    Underway setting l startTime (run (l.logEvent setting) state events) :=
  run_invariant underway (fun _ event before => before.logEvent sound event) events

/-- A logger between two files. -/
structure Ready (l : LoggerTargets) (logger : Logger (StreamBuf × Mdf4Recorder)) : Prop where
  targets : ∀ sensor, (logger.targets sensor).map LogTarget.reset =
    (l.targets sensor).map LogTarget.reset
  file : Mdf4File.Sound l.file.description logger.stream.2.toMdf4File

/-- A file is started, or nothing of it may become a finalized file. -/
theorem openFile_spec (setting : LogSetting) (sound : l.Sound)
    {logger : Logger (StreamBuf × Mdf4Recorder)} (ready : Ready l logger) (startTime : ℤ) :
    let result := l.openFile setting startTime logger
    (result.1 = some true ∧ Underway setting l startTime (result.2, [])) ∨
      result.1 ≠ some true ∧ Ready l result.2 ∧
        Quiet setting.bufferSize
          (Guarded l.file setting.toFloat (setting.toNs startTime) []) result.2.stream.1 := by
  obtain ⟨file, stays, returned⟩ := Recording.writeHeader setting.bufferSize
    setting.toFloat sound.file ready.file setting.answers (setting.toNs startTime)
  intro result
  have targets (sensor : UInt32) :
      ((logger.targets sensor).map LogTarget.reset).map LogTarget.reset =
        (l.targets sensor).map LogTarget.reset := by
    rw [Option.map_map]
    exact ready.targets sensor
  unfold result openFile Logger.startLogging streamFile logFile
  dsimp only
  generalize header : Mdf4Recorder.writeHeaderToStream _ _ _ _ _ = written at *
  cases bound : (if l.bindsWriters written.2.2 = true then written.1 else none) with
  | none => exact .inr ⟨by simp, ⟨targets, file⟩, stays.quiet⟩
  | some count =>
    have recording := returned count (by
      split_ifs at bound
      exact bound)
    have synced := recording.sync setting.answers
    dsimp only [streamBuf]
    cases done : StreamBuf.sync setting.answers written.2.1 with
    | mk complete stream =>
      rw [done] at synced
      cases complete with
      | false => exact .inr ⟨by simp, ⟨targets, file⟩, synced.atEnd.toStays.quiet⟩
      | true => exact .inl ⟨rfl, rfl, rfl, targets, synced, rfl⟩

/-- The end of a file: what is put over the identifier block goes over a recorded file, and a file
that is finalized is whole. -/
theorem closeFile_spec (underway : Underway setting l startTime state) :
    let result := l.closeFile setting state.1
    let samples := l.samples state.2
    Ready l result.2 ∧
      Quiet setting.bufferSize
        (Guarded l.file setting.toFloat (setting.toNs startTime) samples) result.2.stream.1 ∧
      (result.1 = true → Finalized l.file setting.toFloat (setting.toNs startTime) samples
        result.2.stream.1.calls) := by
  obtain ⟨file, quiet, returned⟩ := finalizeToStream_spec setting.answers underway.recording
  intro result samples
  unfold result closeFile Logger.stopLogging streamFile logFile
  simp only [underway.isLogging, Bool.not_true, Bool.false_eq_true, if_false]
  generalize Mdf4Recorder.finalizeToStream _ _ _ _ = finalized at *
  obtain ⟨answer, stream, recorder⟩ := finalized
  cases answer with
  | none => exact ⟨⟨underway.targets, file⟩, quiet.close setting.answers, by simp⟩
  | some count =>
    obtain ⟨nothing, finalized⟩ := returned count rfl
    exact ⟨⟨underway.targets, file⟩, quiet.close setting.answers,
      fun _ => finalized.close nothing setting.answers⟩

/-- A file from its start to its end. -/
theorem session_spec (setting : LogSetting) (sound : l.Sound)
    {logger : Logger (StreamBuf × Mdf4Recorder)} (ready : Ready l logger) (startTime : ℤ)
    (events : List LogEvent) :
    let result := l.session setting startTime events logger
    let samples := l.samples result.history
    Ready l result.logger ∧
      Quiet setting.bufferSize (Guarded l.file setting.toFloat (setting.toNs startTime) samples)
        result.logger.stream.1 ∧
      (∀ sample ∈ samples, sample.Accepted l.file) ∧
      samples.map (Sample.reading l.file setting.toFloat) =
        result.history.filterMap (l.readingOf setting.clock startTime) ∧
      (result.isFinalized = true → Finalized l.file setting.toFloat (setting.toNs startTime)
        samples result.logger.stream.1.calls) := by
  have opened := openFile_spec setting sound ready startTime
  dsimp only at opened
  intro result samples
  unfold samples result session
  cases open_ : l.openFile setting startTime logger with
  | mk started logger' =>
    rw [open_] at opened
    obtain ⟨isStarted, underway⟩ | ⟨notStarted, ready', quiet⟩ := opened
    · obtain rfl : started = some true := isStarted
      have last := underway.run sound events
      obtain ⟨ready', quiet, finalized⟩ := closeFile_spec last
      exact ⟨ready', quiet, last.recording.holds.accepted, last.items, finalized⟩
    · split
      · rename_i same
        exact absurd (congrArg Prod.fst same) notStarted
      · rename_i _ same
        obtain ⟨rfl, rfl⟩ := Prod.mk.inj same
        exact ⟨⟨ready'.targets, ready'.file⟩, quiet.close setting.answers,
          List.forall_mem_nil _, rfl, by simp⟩

end LoggerTargets

end RtCore.Logging
