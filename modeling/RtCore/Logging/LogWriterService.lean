import RtCore.Logging.LogEndTimes
import RtCore.Logging.LogFileNaming
import RtCore.Logging.LogFiles
import RtCore.Logging.RemoteControl
import RtCore.Sensors.RawFrames

/-!
# The log writer service

`LogWriterService` writes what the readings frame holds to log files. A tick samples the latest
readings and drains the queue of raw CAN frames; it replaces a file that grew too large by a new one
before it does, and a write, a sync or a rotation that fails ends the session, whose file is closed
by the stop that follows.

A tick and a stop do not run at the same time, as a stop waits for the tick. Between two of them
other parts of the unit add and delete files on the volume, but not the file that the writer has
open.

## Main definitions

* `LogPlatform`, `LogWriterService` — what the writer runs on, and its state
* `LogWriterService.openLogFile`, `closeLogFile`, `rotateFile`, `start`, `processTick`, `stop`
* `WriterStep`, `LogWriterService.step` — what happens to a writer
-/

namespace RtCore.Logging

open RtCore.Foundation RtCore.Fs RtCore.Mdf RtCore.Sensors

/-! ### What the writer runs on -/

/-- The configuration of the unit, its clock, and the answers of the file system to the calls on
each file that the writer opens. -/
structure LogPlatform where
  bufferSize : ℕ
  clock : SystemClock
  ticksPerMs : ℕ
  toFloat : UInt64 → UInt32
  toNs : ℤ → ℕ
  answers : ℕ → ℕ → Answer
  filePrefix : List Char
  minFreeSpaceBytes : ℕ
  syncIntervalMs : ℤ
  /-- `k_ms_to_ticks_ceil64`. -/
  msToTicks : ℕ → ℕ
  rawCanQueueSize : ℕ

namespace LogPlatform

variable (platform : LogPlatform)

/-- What the logger needs for a file. -/
def setting (number : ℕ) : LogSetting where
  bufferSize := platform.bufferSize
  answers := platform.answers number
  clock := platform.clock
  toFloat := platform.toFloat
  toNs := platform.toNs

/-- The seconds of a time point. -/
def toTimeT (time : ℤ) : ℤ := LogFileNaming.toTimeT (1000 * platform.ticksPerMs) time

/-- The milliseconds of a time point. -/
def toMs (time : ℤ) : ℤ := time.tdiv platform.ticksPerMs

/-- `HasMinimumFreeSpace`. -/
def hasMinimumFreeSpace (totalBytes usedBytes : ℕ) : Bool :=
  platform.minFreeSpaceBytes = 0 || platform.minFreeSpaceBytes ≤ totalBytes - usedBytes

end LogPlatform

/-- The extension of a log file. -/
def logFileExtension : List Char := ['m', 'f', '4']

/-- The entry of a volume that a path leads to. -/
def entryOf (path : List Char) : List (List Char) := (names path).map (·.map toLowerAscii)

/-- What a file system and a random number generator say when a file is to be opened. -/
structure FileOpening where
  totalBytes : ℕ
  usedBytes : ℕ
  suffixes : List UInt16
  /-- The stream can be opened. -/
  opens : Bool

/-- A `LoggingConfiguration` as the writer and the logger read it. -/
structure WriterConfiguration extends LoggingConfiguration where
  maxLogSizeMb : UInt32 := 0

/-- What a start finds. -/
structure StartRequest extends FileOpening where
  isAvailable : Bool
  /-- The directory is there, or was created. -/
  hasDirectory : Bool
  configuration : Option WriterConfiguration
  /-- What the factory made, none when it threw or had nothing. -/
  logger : Option LoggerTargets
  startTime : ℤ
  uptimeMs : ℤ
  uptimeTicks : ℤ

/-- A reading as `SnapshotLoggableReadings` gives it: without a frame. -/
structure SnapshotReading extends SensorReading UInt32 where
  rawValue : Option UInt32 := none

/-- The reading as the logger is given it. -/
def SnapshotReading.loggerReading (reading : SnapshotReading) : LoggerReading :=
  { reading with canFrame := none }

/-- What a tick finds: the readings of the snapshot, the frames that come in before each time the
queue is drained and afterwards, the time, and the uptime at the sync, at a rotation and at the
end. -/
structure WriterTick extends FileOpening where
  time : ℤ
  readings : List SnapshotReading
  arrivals : List (List RawCanRecord)
  rotationMs : ℤ
  syncMs : ℤ
  endTicks : ℤ
  tickUs : UInt32

/-! ### The state -/

/-- `LogWriterStats`. -/
structure LogWriterStats where
  ticks : UInt32 := 0
  readings : UInt32 := 0
  frames : UInt32 := 0
  framesDropped : UInt32 := 0
  syncs : UInt32 := 0
  rotations : UInt32 := 0
  overruns : UInt32 := 0
  writeErrors : UInt32 := 0
  tickLastUs : UInt32 := 0
  tickMaxUs : UInt32 := 0
  streamWrites : UInt32 := 0
  bytes : ℕ := 0
  deriving DecidableEq, Repr

/-- `LogWriterTask`. -/
structure LogWriterTask where
  isRunning : Bool := false
  intervalTicks : ℤ := 0
  burstIntervalTicks : ℤ := 0
  nextDeadline : ℤ := 0
  maxLogSizeBytes : ℕ := 0
  isRotationDue : Bool := false
  lastTickTime : ℤ := 0
  stats : LogWriterStats := {}
  closedFilesBytes : ℕ := 0
  closedFilesStreamWrites : UInt32 := 0
  lastDroppedCount : UInt32 := 0
  lastSyncMs : ℤ := 0
  deriving DecidableEq, Repr

/-- A file that the writer closed: the logger that wrote it, the calls of the logger with their
answers, what was left on the volume, and whether anybody else changed that since. -/
structure ClosedLog where
  logger : LoggerTargets
  path : List Char
  startTime : ℤ
  history : List LogEntry
  isFinalized : Bool
  content : List UInt8
  isChanged : Bool := false

/-- The service, the volume and the queue of raw frames. What is only there to be spoken about: the
history of the open file, the files that were closed, and the end times and events that went
out. -/
structure LogWriterService where
  isStarted : Bool := false
  /-- A tick is scheduled. -/
  isScheduled : Bool := false
  logger : Option (LoggerTargets × Logger (StreamBuf × Mdf4Recorder)) := none
  /-- `fs_stream_buf_` is not null. -/
  hasStream : Bool := false
  /-- The number of the file last opened. -/
  filesOpened : ℕ := 0
  filePath : List Char := []
  fileStartTime : ℤ := 0
  openFilePath : List Char := []
  openFileBytes : ℕ := 0
  isSessionActive : Bool := false
  sessionSinceMs : ℤ := 0
  hasFailed : Bool := false
  task : LogWriterTask := {}
  frames : RawCanQueue := {}
  sensorIdHashes : List UInt32 := []
  volume : List (List Char) → Option (List UInt8) := fun _ => none
  history : List LogEntry := []
  closed : List ClosedLog := []
  endTimes : List (List Char × ℤ) := []
  published : List LoggingState := []

namespace LogWriterService

variable (platform : LogPlatform) (s : LogWriterService)

/-! ### Files -/

/-- `Exists`. -/
def exists_ (path : List Char) : Bool := (s.volume (entryOf path)).isSome

/-- `IsOpenFile`. -/
def isOpenFile (path : List Char) : Bool := isSameEntryIgnoringCase path s.openFilePath

/-- `ClearOpenFile`. -/
def clearOpenFile : LogWriterService := { s with openFilePath := [], openFileBytes := 0 }

/-- `PublishStatus`. -/
def publishStatus (state : LoggingState) : LogWriterService :=
  { s with published := s.published ++ [state] }

/-- The name that `OpenLogFile` finds: the first of ten that no file has. -/
def freshPath (startTime : ℤ) (opening : FileOpening) : List Char :=
  let candidates := (opening.suffixes.take 10).map fun suffix =>
    (LogFileNaming.getFilePath LogFileNaming.logsDir platform.filePrefix
      (platform.toTimeT startTime) suffix.toNat logFileExtension).chars
  (candidates.find? fun path => !s.exists_ path).getD []

/-- `OpenLogFile`. -/
def openLogFile (startTime : ℤ) (opening : FileOpening) : Bool × LogWriterService :=
  match s.logger with
  | none => (false, s)
  | some (l, logger) =>
    let path := s.freshPath platform startTime opening
    let s := { s with filePath := path }
    if path = [] then (false, s)
    else
      let s := { s with openFilePath := path, fileStartTime := startTime }
      if !opening.opens then (false, s.clearOpenFile)
      else
        let number := s.filesOpened + 1
        let (started, logger) := l.openFile (platform.setting number) startTime logger
        let s := { s with filesOpened := number }
        if started = some true then
          (true, { s with
            logger := some (l, logger)
            hasStream := true
            openFileBytes := logger.currentFileSizeBytes
            volume := Function.update s.volume (entryOf path) (some [])
            history := [] })
        else
          -- the stream is closed, and the file deleted
          let stream := (StreamBuf.close (platform.answers number) logger.stream.1).2
          (false, { s.clearOpenFile with
            logger := some (l, { logger with stream := (stream, logger.stream.2) }) })

/-- The name of a path: what follows its last separator. -/
def nameOf (path : List Char) : List Char := path.rtakeWhile (· ≠ '/')

/-- `RecordEndTime`. -/
def recordEndTime : LogWriterService :=
  let endTime := if s.fileStartTime < s.task.lastTickTime then s.task.lastTickTime
    else s.fileStartTime
  { s with endTimes := s.endTimes ++ [(nameOf s.filePath, platform.toMs endTime)] }

/-- `CloseLogFile`. -/
def closeLogFile : Bool × LogWriterService :=
  match s.hasStream, s.logger with
  | true, some (l, logger) =>
    let bytes := logger.currentFileSizeBytes
    let (isFinalized, logger) := l.closeFile (platform.setting s.filesOpened) logger
    let stream := logger.stream.1
    let s := { s.clearOpenFile with
      logger := some (l, logger)
      hasStream := false
      task := { s.task with
        closedFilesBytes := s.task.closedFilesBytes + bytes
        closedFilesStreamWrites :=
          s.task.closedFilesStreamWrites + UInt32.ofNat stream.getWriteCallCount }
      volume := Function.update s.volume (entryOf s.filePath) (some stream.file.data)
      history := []
      closed := s.closed ++
        [{ logger := l
           path := s.filePath
           startTime := s.fileStartTime
           history := s.history
           isFinalized
           content := stream.file.data }] }
    (isFinalized, if isFinalized then s.recordEndTime platform else s)
  | _, _ => (false, s.clearOpenFile)

/-- `RotateFile`; the reason to end the session comes first. -/
def rotateFile (tick : WriterTick) : Option LoggingStatusReason × LogWriterService :=
  if !platform.hasMinimumFreeSpace tick.totalBytes tick.usedBytes then (some .noSpace, s)
  else
    let (isFinalized, s) := s.closeLogFile platform
    let s := if isFinalized then s
      else { s with task.stats.writeErrors := s.task.stats.writeErrors + 1 }
    let (isOpen, s) := s.openLogFile platform s.task.lastTickTime tick.toFileOpening
    if !isOpen then
      (some .rotationFailed, { s with task.stats.writeErrors := s.task.stats.writeErrors + 1 })
    else (none, { s with
      task.isRotationDue := false
      task.lastSyncMs := tick.rotationMs
      task.stats.rotations := s.task.stats.rotations + 1 })

/-! ### Ticks -/

/-- `EndSession`. -/
def endSession (reason : LoggingStatusReason) : LogWriterService :=
  { s.publishStatus (.inactive reason) with hasFailed := true, isScheduled := false }

/-- What a tick does when a write or a sync failed. -/
def failWrite : LogWriterService :=
  { s with task.stats.writeErrors := s.task.stats.writeErrors + 1 }.endSession .writeFailed

/-- The calls of `LogReading` for readings: whether none threw, and how many returned true. -/
def logReadings (time : ℤ) : List LoggerReading → LogWriterService → Bool × ℕ × LogWriterService
  | [], s => (true, 0, s)
  | reading :: readings, s =>
    match s.logger with
    | none => (false, 0, s)
    | some (l, logger) =>
      let (answer, logger) := Logger.logReading platform.clock
        (l.streamFile (platform.setting s.filesOpened)) time reading logger
      let s := { s with
        logger := some (l, logger)
        history := s.history ++ [⟨⟨time, reading⟩, answer⟩] }
      match answer with
      | .threw _ => (false, 0, s)
      | .rejected => logReadings time readings s
      | .logged _ =>
        let (ok, count, s) := logReadings time readings s
        (ok, count + 1, s)

/-- `PushRawCanFrameLocked` for frames one after the other. -/
def pushFrames (records : List RawCanRecord) : LogWriterService :=
  { s with frames := records.foldl RawCanQueue.push s.frames }

/-- The reading of a frame that was taken from the queue. -/
def frameReading (sensorIdHashes : List UInt32) (record : RawCanRecord) : LoggerReading where
  sensorIdHash := sensorIdHashes.getD record.slot 0
  timestamp := record.timestamp
  source := .isr
  status := .processed
  canFrame := some record.frame

/-- A round of the loop over raw frames: whether no call threw, whether the buffers were full, and
how many frames were logged. -/
def drainRound (time : ℤ) : Bool × Bool × ℕ × LogWriterService :=
  let (records, frames) := s.frames.takeFrames platform.rawCanQueueSize
  let (ok, count, s) := logReadings platform time (records.map (frameReading s.sensorIdHashes))
    { s with frames }
  (ok, records.length = platform.rawCanQueueSize, count, s)

/-- The loop over raw frames, with the frames that come in before each round. The last of them come
in before the last round that finds anything, as full buffers leave the queue empty; what comes in
after the loop waits for the next tick. -/
def drainFrames (time : ℤ) :
    List (List RawCanRecord) → LogWriterService → Bool × Bool × ℕ × LogWriterService
  | [], s => s.drainRound platform time
  | incoming :: arrivals, s =>
    let (ok, isFull, count, s) := (s.pushFrames incoming).drainRound platform time
    if ok && isFull then
      let (ok, _, more, s) := drainFrames time arrivals s
      (ok, true, count + more, s)
    else (ok, isFull, count, s.pushFrames arrivals.flatten)

/-- The sync of a tick, if one is due; false when it fails. -/
def syncIfDue (tick : WriterTick) : Bool × LogWriterService :=
  if 0 < platform.syncIntervalMs ∧
      platform.syncIntervalMs ≤ tick.syncMs - s.task.lastSyncMs then
    match s.logger with
    | none => (false, s)
    | some (l, logger) =>
      let (ok, stream) := StreamBuf.sync (platform.answers s.filesOpened) logger.stream.1
      let s := { s with
        logger := some (l, { logger with stream := (stream, logger.stream.2) })
        task.lastSyncMs := tick.syncMs }
      if ok then (true, { s with task.stats.syncs := s.task.stats.syncs + 1 }) else (false, s)
  else (true, s)

/-- `GetBytesWritten` of the logger. -/
def bytesWritten : ℕ := s.logger.elim 0 fun logger => logger.2.currentFileSizeBytes

/-- `GetWriteCallCount` of the stream. -/
def writeCallCount : UInt32 :=
  s.logger.elim 0 fun logger => UInt32.ofNat logger.2.stream.1.getWriteCallCount

/-- The deadline after a tick: missed periods are skipped, and a drain that filled the buffers is
followed sooner. Second, the missed periods. -/
def nextDeadline (task : LogWriterTask) (nowTicks : ℤ) (isDrainFull : Bool) : ℤ × ℕ :=
  let deadline := task.nextDeadline + task.intervalTicks
  let missed := if deadline ≤ nowTicks then (nowTicks - deadline).tdiv task.intervalTicks + 1 else 0
  let deadline := deadline + missed * task.intervalTicks
  (if isDrainFull then min deadline (nowTicks + task.burstIntervalTicks) else deadline,
    missed.toNat)

/-- The end of a tick in which nothing failed. -/
def finishTick (tick : WriterTick) (isDrainFull : Bool) : LogWriterService :=
  let fileBytes := s.bytesWritten
  let stats := s.task.stats
  let dropped := s.frames.dropped
  let (deadline, missed) := nextDeadline s.task tick.endTicks isDrainFull
  { s with
    openFileBytes := fileBytes
    isScheduled := true
    task := { s.task with
      isRotationDue := 0 < s.task.maxLogSizeBytes && s.task.maxLogSizeBytes ≤ fileBytes
      lastDroppedCount := dropped
      nextDeadline := deadline
      stats := { stats with
        ticks := stats.ticks + 1
        framesDropped := stats.framesDropped +
          -- The count restarts from 0 with the frame processing, under a running writer.
          if s.task.lastDroppedCount ≤ dropped then dropped - s.task.lastDroppedCount else dropped
        bytes := s.task.closedFilesBytes + fileBytes
        streamWrites := s.task.closedFilesStreamWrites + s.writeCallCount
        tickLastUs := tick.tickUs
        tickMaxUs := max stats.tickMaxUs tick.tickUs
        overruns := stats.overruns + UInt32.ofNat missed } } }

/-- The part of `ProcessTick` after the rotation. -/
def writeTick (tick : WriterTick) : LogWriterService :=
  let s := { s with task.lastTickTime := tick.time }
  let (ok, count, s) := logReadings platform tick.time
    (tick.readings.map SnapshotReading.loggerReading) s
  let s := { s with task.stats.readings := s.task.stats.readings + UInt32.ofNat count }
  if !ok then (s.pushFrames tick.arrivals.flatten).failWrite
  else
    let (ok, isDrainFull, count, s) := drainFrames platform tick.time tick.arrivals s
    let s := { s with task.stats.frames := s.task.stats.frames + UInt32.ofNat count }
    if !ok then s.failWrite
    else
      match s.syncIfDue platform tick with
      | (false, s) => s.failWrite
      | (true, s) => s.finishTick tick isDrainFull

/-- `ProcessTick`. -/
def processTick (tick : WriterTick) : LogWriterService :=
  if !s.task.isRunning then { s with isScheduled := false }
  else if s.task.isRotationDue then
    match s.rotateFile platform tick with
    | (some reason, s) => (s.pushFrames tick.arrivals.flatten).endSession reason
    | (none, s) => s.writeTick platform tick
  else s.writeTick platform tick

/-! ### Starts and stops -/

/-- What `DoStart` sets once a file is open. -/
def startTask (request : StartRequest) (configuration : WriterConfiguration) : LogWriterTask :=
  let intervalMs := configuration.loggingIntervalMs.toNat
  { s.task with
    isRunning := true
    intervalTicks := platform.msToTicks intervalMs
    burstIntervalTicks := platform.msToTicks (max (intervalMs / 4) 10)
    nextDeadline := request.uptimeTicks + platform.msToTicks intervalMs
    maxLogSizeBytes := configuration.maxLogSizeMb.toNat * 1024 * 1024
    isRotationDue := false
    stats := {}
    closedFilesBytes := 0
    closedFilesStreamWrites := 0
    lastDroppedCount := s.frames.dropped
    lastSyncMs := request.uptimeMs }

/-- What a start does first: the logger is a new one, and the frames that came before are taken off
the queue. The buffers have the size of the queue, so that they take all of it. -/
def prepare (l : LoggerTargets) : LogWriterService :=
  { s with
    logger := some (l, l.newLogger)
    frames := (s.frames.takeFrames platform.rawCanQueueSize).2 }

/-- `DoStart`. -/
def doStart (request : StartRequest) : Bool × LogWriterService :=
  if !(request.isAvailable && request.hasDirectory) then (false, s)
  else
    match request.configuration with
    | none => (false, s)
    | some configuration =>
      if !platform.hasMinimumFreeSpace request.totalBytes request.usedBytes then (false, s)
      else
        match request.logger with
        -- The logger could not be built: the one of the session before is gone already.
        | none => (false, { s with logger := none })
        | some l =>
          match (s.prepare platform l).openLogFile platform request.startTime
              request.toFileOpening with
          | (false, s) => (false, s)
          | (true, s) => (true, { s.publishStatus .active with
              task := s.startTask platform request configuration
              hasFailed := false
              isSessionActive := true
              sessionSinceMs := platform.toMs request.startTime
              isScheduled := true })

/-- `Start`. -/
def start (request : StartRequest) : LogWriterService :=
  if s.isStarted then s
  else
    match s.doStart platform request with
    | (isStarted, s) => { s with isStarted }

/-- No further tick runs. -/
def halt : LogWriterService := { s with task.isRunning := false, isScheduled := false }

/-- `DoStop`, which publishes a reason. -/
def doStop (reason : LoggingStatusReason) : LogWriterService :=
  let s := (s.halt.closeLogFile platform).2
  { s.publishStatus (.inactive reason) with isSessionActive := false, sessionSinceMs := 0 }

/-- `StopWithReason`. -/
def stop (reason : LoggingStatusReason) : LogWriterService :=
  if s.isStarted then { s.doStop platform reason with isStarted := false } else s

/-! ### What happens -/

/-- What happens to a writer: it is started or stopped, its tick runs, frames come in or are
cleared, the frame is configured, or another part of the unit asks for a file to be written or, with
none, deleted. -/
inductive WriterStep
  | start (request : StartRequest)
  | tick (tick : WriterTick)
  | stop (reason : LoggingStatusReason)
  | frame (record : RawCanRecord)
  | clearReadings
  | configure (sensorIdHashes : List UInt32) (hasFrameSensor : Bool)
  | fileChange (path : List Char) (content : Option (List UInt8))

/-- A file other than the one that the writer has open is changed. -/
def fileChange (path : List Char) (content : Option (List UInt8)) : LogWriterService :=
  if s.isOpenFile path then s
  else { s with
    volume := Function.update s.volume (entryOf path) content
    closed := s.closed.map fun file =>
      { file with isChanged := file.isChanged || entryOf file.path = entryOf path } }

/-- What happens to a writer; a tick runs only when it is scheduled. -/
def step : WriterStep → LogWriterService
  | .start request => s.start platform request
  | .tick tick => if s.isScheduled then s.processTick platform tick else s
  | .stop reason => s.stop platform reason
  | .frame record => s.pushFrames [record]
  | .clearReadings => { s with frames := s.frames.clear }
  | .configure sensorIdHashes hasFrameSensor => { s with
      frames := .configure platform.rawCanQueueSize hasFrameSensor
      sensorIdHashes }
  | .fileChange path content => s.fileChange path content

end LogWriterService

end RtCore.Logging
