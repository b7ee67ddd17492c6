import RtCore.Foundation.Run
import RtCore.Logging.LogWriterRuns
import RtCore.Logging.WriterSupervisor

/-!
# What a log writer leaves

Over all the sessions of a writer and the files of each: which calls its loggers were given and in
which order, which files are on the volume at the end, and what they say.

## Main definitions

* `LogWriterService.handedOver` — the calls that the loggers were given
* `LogWriterService.Advances` — what a step adds to them

## Main results

* `LogWriterService.logged_frames_in_order` — no frame is logged twice, and none before an older one
* `LogWriterService.tick_hands_over` — what a tick that succeeds gives to the logger
* `LogWriterService.closed_files_kept` — a log file stays as it was closed, and can be read
* `LogWriterService.other_files_untouched` — files that the writer did not write stay as they are
* `LogWriterService.end_times_recorded`, `LogWriterService.session_scheduled` — what was recorded of
  the files, and what is open and scheduled
* `LogWriterService.writer_refines` — the supervisor's model of the writer does what this one does
-/

namespace RtCore.Logging

open RtCore.Foundation RtCore.Fs RtCore.Mdf RtCore.Sensors

/-- What the factory makes: the logger of sensors that passed their validation. -/
def LoggerTargets.IsMade (l : LoggerTargets) : Prop :=
  ∃ (V : Type) (unit : SensorsUnit V) (sensors : List ConfiguredSensor)
    (configuration : LoggingConfiguration) (metadata : LoggerMetadata),
    SensorValidator.validateId unit sensors = .ok () ∧
      LoggerTargets.create unit.getHash configuration sensors metadata = some l

theorem LoggerTargets.IsMade.sound {l : LoggerTargets} (made : l.IsMade) : l.Sound := by
  obtain ⟨V, unit, sensors, configuration, metadata, valid, created⟩ := made
  exact LoggerTargets.sound_create (SensorValidator.nodup_of_validateId valid) created

/-- The frame of a call, with its time. -/
def LogCall.frame (call : LogCall) : Option (Option ℤ × CanFrame) :=
  call.reading.canFrame.map fun frame => (call.timestamp, frame)

namespace LogWriterService

variable {platform : LogPlatform} {s s' s'' : LogWriterService}

/-- The loggers of a start are made by the factory. -/
def WriterStep.IsPossible : WriterStep → Prop
  | .start request => ∀ l, request.logger = some l → l.IsMade
  | _ => True

/-- The frames that come in. -/
def WriterStep.arrivals : WriterStep → List RawCanRecord
  | .tick input => input.arrivals.flatten
  | .frame record => [record]
  | _ => []

theorem sound_initial (platform : LogPlatform) (volume : List (List Char) → Option (List UInt8)) :
    Sound platform { volume } where
  kept := by
    refine ⟨fun file member => ?_, fun file member => ?_, fun _ file member => ?_⟩ <;>
      exact absurd member List.not_mem_nil
  file := .inr ⟨rfl, fun _ _ none => absurd none.symm (Option.some_ne_none _), rfl, rfl, rfl⟩
  ends := .nil
  scheduled := by simp
  running isScheduled := absurd isScheduled Bool.false_ne_true
  stopped _ := rfl

theorem Sound.possibleStep (sound : Sound platform s) {step : WriterStep}
    (possible : step.IsPossible) : Sound platform (s.step platform step) := by
  refine sound.step fun request l same given => ?_
  subst same
  exact (possible l given).sound

theorem Sound.afterRun (sound : Sound platform s) {steps : List WriterStep}
    (possible : ∀ step ∈ steps, step.IsPossible) :
    Sound platform (run (LogWriterService.step platform) s steps) := by
  induction steps generalizing s with
  | nil => exact sound
  | cons step steps ih =>
    rw [run_cons]
    exact ih (sound.possibleStep (possible step List.mem_cons_self)) fun later member =>
      possible later (List.mem_cons_of_mem _ member)

/-! ### The calls of the loggers -/

/-- The calls that the loggers were given, file after file. -/
def handedOver (s : LogWriterService) : List LogEntry :=
  s.closed.flatMap ClosedLog.history ++ s.history

/-- A frame in the queue, as a call has it. -/
def stamped (record : RawCanRecord) : Option ℤ × CanFrame := (record.timestamp, record.frame)

/-- The history gets longer by new calls, and their frames come from the queue. -/
structure Advances (s s' : LogWriterService) (arrived : List RawCanRecord) (new : List LogEntry) :
    Prop where
  handedOver : s'.handedOver = s.handedOver ++ new
  order : ((new.map LogEntry.call).filterMap LogCall.frame ++
    s'.frames.contents.map stamped).Sublist ((s.frames.contents ++ arrived).map stamped)

namespace Advances

variable {arrived arrived' : List RawCanRecord} {new new' : List LogEntry}

/-- Nothing is handed over. -/
theorem ofQuiet (same : s'.handedOver = s.handedOver)
    (order : s'.frames.contents.Sublist (s.frames.contents ++ arrived)) :
    Advances s s' arrived [] where
  handedOver := by rw [List.append_nil, same]
  order := order.map stamped

protected theorem refl (s : LogWriterService) : Advances s s [] [] :=
  ofQuiet rfl (List.sublist_append_left _ _)

protected theorem trans (first : Advances s s' arrived new)
    (second : Advances s' s'' arrived' new') :
    Advances s s'' (arrived ++ arrived') (new ++ new') where
  handedOver := by rw [second.handedOver, first.handedOver, List.append_assoc]
  order := by
    have later := second.order.append_left ((new.map LogEntry.call).filterMap LogCall.frame)
    have earlier := first.order.append_right (arrived'.map stamped)
    simp only [List.map_append, List.filterMap_append, List.append_assoc] at later earlier ⊢
    exact later.trans earlier

end Advances

/-- The frames of the calls of a tick are those that were taken off the queue. -/
private theorem frames_tickCalls (tick : WriterTick) (sensorIdHashes : List UInt32)
    (handed : List RawCanRecord) :
    (tickCalls tick sensorIdHashes handed).filterMap LogCall.frame = handed.map stamped := by
  have snapshot : (tick.readings.map fun reading =>
      (⟨tick.time, reading.loggerReading⟩ : LogCall)).filterMap LogCall.frame = [] := by
    rw [List.filterMap_map, List.filterMap_eq_nil_iff]
    exact fun reading _ => rfl
  have drained : (frameCalls tick.time sensorIdHashes handed).filterMap LogCall.frame =
      handed.map stamped := by
    unfold frameCalls
    rw [List.filterMap_map]
    exact congrFun (List.filterMap_eq_map (f := stamped)) handed
  rw [tickCalls, List.filterMap_append, snapshot, drained, List.nil_append]

/-- A tick that writes to the open file, whether it fails or not. -/
private theorem Ticked.advances {tick : WriterTick} (ticked : Ticked platform s tick s') :
    ∃ new, Advances s s' tick.arrivals.flatten new := by
  have moves {new : List LogEntry} {middle : LogWriterService} {handed : List RawCanRecord}
      (continues : Continues platform s middle new)
      (passes : s.frames.Passes tick.arrivals.flatten handed middle.frames)
      (calls : new.map LogEntry.call <+: tickCalls tick s.sensorIdHashes handed) :
      Advances s middle tick.arrivals.flatten new := by
    refine ⟨?_, ?_⟩
    · obtain ⟨logger, frames, task, rfl⟩ := continues.state
      exact (List.append_assoc _ _ _).symm
    · have frames : ((new.map LogEntry.call).filterMap LogCall.frame).Sublist
          (handed.map stamped) := by
        rw [← frames_tickCalls tick s.sensorIdHashes handed]
        exact calls.sublist.filterMap LogCall.frame
      have rest := passes.order.map stamped
      rw [List.map_append] at rest
      exact (frames.append_right _).trans rest
  cases ticked with
  | failed new middle continues handed passes calls ends =>
    subst ends
    have moved := moves continues passes calls
    exact ⟨new, moved.handedOver, moved.order⟩
  | finished new middle continues handed passes calls noneThrew isDrainFull ends =>
    subst ends
    have moved := moves continues passes (calls ▸ List.prefix_refl _)
    exact ⟨new, moved.handedOver, moved.order⟩

/-- The history of a file that is closed goes on in the next. -/
private theorem handedOver_closed {file : ClosedLog} (closed : s'.closed = s.closed ++ [file])
    (same : file.history = s.history) (history : s'.history = []) :
    s'.handedOver = s.handedOver := by
  unfold handedOver
  rw [closed, history, List.append_nil, List.flatMap_append, List.flatMap_singleton, same]

private theorem Replaced.advances (replaced : Replaced platform s s')
    (records : List RawCanRecord) : Advances s (s'.pushFrames records) records [] := by
  obtain ⟨file, closed, -, same⟩ := replaced.closed
  refine .ofQuiet (handedOver_closed closed same replaced.history) ?_
  rw [← replaced.session.frames]
  exact (RawCanQueue.passes_foldl_push s'.frames records).order

private theorem Sound.tick_advances (sound : Sound platform s) (isScheduled : s.isScheduled = true)
    (tick : WriterTick) :
    ∃ new, Advances s (s.processTick platform tick) tick.arrivals.flatten new := by
  have ran := sound.processTick_cases isScheduled tick
  generalize s.processTick platform tick = after at ran
  cases ran with
  | noSpace => exact ⟨[], .ofQuiet rfl (RawCanQueue.passes_foldl_push s.frames _).order⟩
  | notOpened middle replaced idle =>
    have moved := replaced.advances tick.arrivals.flatten
    exact ⟨[], moved.handedOver, moved.order⟩
  | nextFile middle _ replaced writing ticked =>
    obtain ⟨new, later⟩ := ticked.advances
    exact ⟨new, (replaced.advances []).trans later⟩
  | sameFile _ ticked => exact ticked.advances

private theorem Sound.start_advances (sound : Sound platform s) {request : StartRequest}
    (given : ∀ l, request.logger = some l → l.Sound) :
    Advances s (s.start platform request) [] [] := by
  unfold LogWriterService.start
  split_ifs with already
  · exact .refl s
  rw [Bool.not_eq_true] at already
  have history := (sound.idle (sound.stopped already)).history
  have quiet {l : LoggerTargets} {ok : Bool} {after : LogWriterService}
      (isGiven : request.logger = some l)
      (opens : (s.prepare platform l).openLogFile platform request.startTime
        request.toFileOpening = (ok, after)) :
      after.handedOver = s.handedOver ∧
        after.frames.contents.Sublist (s.frames.contents ++ []) := by
    have opened := sound.opened already (given l isGiven) request.startTime
      request.toFileOpening
    rw [opens] at opened
    refine ⟨?_, ?_⟩
    · unfold handedOver
      rw [opened.closed, opened.history, history]
      rfl
    · have dropped := (RawCanQueue.takeFrames_spec platform.rawCanQueueSize s.frames).2.1
      rw [opened.session.frames, prepare, dropped, List.append_nil]
      exact List.drop_sublist _ _
  have start := doStart_cases platform s request
  generalize s.doStart platform request = result at start
  cases start with
  | refused => exact .ofQuiet rfl (List.sublist_append_left _ _)
  | noLogger => exact .ofQuiet rfl (List.sublist_append_left _ _)
  | notOpened l after isGiven opens =>
    exact .ofQuiet (quiet isGiven opens).1 (quiet isGiven opens).2
  | opened l after isGiven opens =>
    exact .ofQuiet (quiet isGiven opens).1 (quiet isGiven opens).2

private theorem Sound.stop_advances (sound : Sound platform s) (reason : LoggingStatusReason) :
    Advances s (s.stop platform reason) [] [] := by
  have stopped := sound.stop_cases reason
  generalize s.stop platform reason = after at stopped
  cases stopped with
  | notStarted => exact .refl s
  | noFile => exact .ofQuiet rfl (List.sublist_append_left _ _)
  | closed isStarted isOpen isFinalized middle closes =>
    obtain ⟨file, closed, -, same, -⟩ := closes.closed
    refine .ofQuiet (handedOver_closed closed same closes.idle.history) ?_
    rw [List.append_nil]
    change middle.frames.contents.Sublist s.frames.contents
    rw [closes.session.frames]
    exact List.Sublist.refl _

/-- What a step adds. -/
theorem Sound.step_advances (sound : Sound platform s) {step : WriterStep}
    (possible : step.IsPossible) :
    ∃ new, Advances s (s.step platform step) step.arrivals new := by
  cases step with
  | start request => exact ⟨[], sound.start_advances fun l given => (possible l given).sound⟩
  | tick input =>
    unfold LogWriterService.step
    dsimp only
    split_ifs with isScheduled
    · exact sound.tick_advances isScheduled input
    · exact ⟨[], .ofQuiet rfl (List.sublist_append_left _ _)⟩
  | stop reason => exact ⟨[], sound.stop_advances reason⟩
  | frame record => exact ⟨[], .ofQuiet rfl (RawCanQueue.passes_push s.frames record).order⟩
  | clearReadings =>
    refine ⟨[], .ofQuiet rfl ?_⟩
    change s.frames.clear.contents.Sublist _
    rw [RawCanQueue.contents_clear]
    exact List.nil_sublist _
  | configure sensorIdHashes hasFrameSensor =>
    refine ⟨[], .ofQuiet rfl ?_⟩
    change (RawCanQueue.configure _ _).contents.Sublist _
    rw [RawCanQueue.contents_configure]
    exact List.nil_sublist _
  | fileChange path content =>
    unfold LogWriterService.step LogWriterService.fileChange
    dsimp only
    split_ifs
    · exact ⟨[], .refl s⟩
    · refine ⟨[], .ofQuiet ?_ (List.sublist_append_left _ _)⟩
      unfold handedOver
      rw [List.flatMap_map]

/-- What a run adds. -/
theorem Sound.run_advances (sound : Sound platform s) {steps : List WriterStep}
    (possible : ∀ step ∈ steps, step.IsPossible) :
    ∃ new, Advances s (run (LogWriterService.step platform) s steps)
      (steps.flatMap WriterStep.arrivals) new := by
  induction steps generalizing s with
  | nil => exact ⟨[], .refl s⟩
  | cons step steps ih =>
    have now := possible step List.mem_cons_self
    obtain ⟨new, first⟩ := sound.step_advances now
    obtain ⟨new', others⟩ := ih (sound.possibleStep now) fun later member =>
      possible later (List.mem_cons_of_mem _ member)
    rw [run_cons, List.flatMap_cons]
    exact ⟨new ++ new', first.trans others⟩

/-- A writer over a file system that takes all writes. -/
def platformExample : LogPlatform where
  bufferSize := LoggerTargets.jobExample.setting.bufferSize
  clock := LoggerTargets.jobExample.setting.clock
  ticksPerMs := 1
  toFloat := LoggerTargets.jobExample.setting.toFloat
  toNs := LoggerTargets.jobExample.setting.toNs
  answers _ := LoggerTargets.jobExample.setting.answers
  filePrefix := []
  minFreeSpaceBytes := 0
  syncIntervalMs := 0
  msToTicks := id
  rawCanQueueSize := 4

/-- A start on a disk with room that opens its file. -/
def startExample : StartRequest where
  totalBytes := 1
  usedBytes := 0
  suffixes := [31]
  opens := true
  isAvailable := true
  hasDirectory := true
  configuration := some { LoggerTargets.configurationExample with loggingIntervalMs := 10 }
  logger := LoggerTargets.create Configured.unit.getHash LoggerTargets.configurationExample
    LoggerTargets.sensorsExample LoggerTargets.metadataExample
  startTime := 5
  uptimeMs := 0
  uptimeTicks := 0

/-- An analog reading, and a frame that came in before the queue was drained. -/
def tickExample : WriterTick where
  totalBytes := 1
  usedBytes := 0
  suffixes := []
  opens := true
  time := 15
  readings := [{ sensorIdHash := 0x80bffd1b, value := some 3 }]
  arrivals := [[⟨0, some 14, LoggerTargets.frameExample⟩]]
  rotationMs := 0
  syncMs := 0
  endTicks := 11
  tickUs := 0

/-- A session until its first tick. -/
def stepsExample : List WriterStep := [.configure [0x6187ff8e] true, .start startExample]

/-- The whole session. -/
def sessionExample : List WriterStep := stepsExample ++ [.tick tickExample, .stop .stopped]

private theorem possible_startExample : (WriterStep.start startExample).IsPossible :=
  fun _ created => ⟨_, _, _, _, _, LoggerTargets.validateId_sensorsExample, created⟩

private theorem possible_stepsExample : ∀ step ∈ stepsExample, step.IsPossible :=
  List.forall_mem_cons.mpr ⟨trivial, List.forall_mem_singleton.mpr possible_startExample⟩

private theorem possible_tickExample : (WriterStep.tick tickExample).IsPossible := trivial

private theorem possible_sessionExample : ∀ step ∈ sessionExample, step.IsPossible :=
  List.forall_mem_append.mpr ⟨possible_stepsExample,
    List.forall_mem_cons.mpr ⟨possible_tickExample, List.forall_mem_singleton.mpr trivial⟩⟩

private theorem scheduled_stepsExample :
    (run (LogWriterService.step platformExample) {} stepsExample).isScheduled = true := by
  decide +kernel

private theorem scheduled_tickExample :
    ((run (LogWriterService.step platformExample) {} stepsExample).step platformExample
      (.tick tickExample)).isScheduled = true := by
  decide +kernel

/-- The frames that loggers were given, and those in the queue, are among those that came in, in the
order they came: none is invented, given twice or before an older one, whatever fails or is started
again, and whichever file each is in. -/
theorem logged_frames_in_order (platform : LogPlatform)
    (volume : List (List Char) → Option (List UInt8)) {steps : List WriterStep}
    (possible : ∀ step ∈ steps, step.IsPossible) :
    let s := run (LogWriterService.step platform) { volume } steps
    ((s.handedOver.map LogEntry.call).filterMap LogCall.frame ++
      s.frames.contents.map stamped).Sublist
        ((steps.flatMap WriterStep.arrivals).map stamped) := by
  obtain ⟨new, advances⟩ := (sound_initial platform volume).run_advances possible
  intro s
  have handed : s.handedOver = new := advances.handedOver
  rw [handed]
  exact advances.order

theorem logged_frames_in_order_example :
    let s := run (LogWriterService.step platformExample) {} sessionExample
    ((s.handedOver.map LogEntry.call).filterMap LogCall.frame ++
      s.frames.contents.map stamped).Sublist [(some 14, LoggerTargets.frameExample)] :=
  logged_frames_in_order platformExample _ possible_sessionExample

/-- A tick from `s` to `s'` gives the logger the readings of the snapshot and then the frames that
it takes off the queue; no call throws, and the records of all of them are in one file. -/
structure HandsOver (s s' : LogWriterService) (tick : WriterTick) (new : List LogEntry)
    (handed : List RawCanRecord) : Prop where
  passes : s.frames.Passes tick.arrivals.flatten handed s'.frames
  calls : new.map LogEntry.call = tickCalls tick s.sensorIdHashes handed
  noneThrew : NoneThrew new
  handedOver : s'.handedOver = s.handedOver ++ new
  oneFile : new <:+ s'.history

private theorem Ticked.handsOver {tick : WriterTick} (ticked : Ticked platform s tick s')
    (goesOn : s'.isScheduled = true) : ∃ new handed, HandsOver s s' tick new handed := by
  cases ticked with
  | failed new middle continues handed passes calls ends =>
    subst ends
    exact absurd goesOn Bool.false_ne_true
  | finished new middle continues handed passes calls noneThrew isDrainFull ends =>
    subst ends
    refine ⟨new, handed, passes, calls, noneThrew, ?_, ?_⟩
    all_goals obtain ⟨logger, frames, task, rfl⟩ := continues.state
    · exact (List.append_assoc _ _ _).symm
    · exact List.suffix_append s.history new

/-- A tick after which the session goes on hands over everything it finds. What came into the queue
is handed over, still in it or counted as dropped, in 32 bits, also where the tick began a new
file. -/
theorem tick_hands_over (platform : LogPlatform) (volume : List (List Char) → Option (List UInt8))
    {steps : List WriterStep} (possible : ∀ step ∈ steps, step.IsPossible) (tick : WriterTick) :
    let s := run (LogWriterService.step platform) { volume } steps
    let s' := s.step platform (.tick tick)
    s.isScheduled = true → s'.isScheduled = true →
      ∃ new handed, HandsOver s s' tick new handed := by
  intro s s' isScheduled goesOn
  have sound : Sound platform s := (sound_initial platform volume).afterRun possible
  have isTick : s' = s.processTick platform tick := if_pos isScheduled
  rw [isTick] at goesOn ⊢
  have ran := sound.processTick_cases isScheduled tick
  generalize s.processTick platform tick = after at ran goesOn
  cases ran with
  | noSpace => exact absurd goesOn Bool.false_ne_true
  | notOpened => exact absurd goesOn Bool.false_ne_true
  | nextFile middle _ replaced writing ticked =>
    obtain ⟨new, handed, hands⟩ := ticked.handsOver goesOn
    obtain ⟨file, closed, -, same⟩ := replaced.closed
    refine ⟨new, handed, ?_, ?_, hands.noneThrew, ?_, hands.oneFile⟩
    · rw [← replaced.session.frames]
      exact hands.passes
    · rw [← replaced.session.sensorIdHashes]
      exact hands.calls
    · rw [hands.handedOver, handedOver_closed closed same replaced.history]
  | sameFile _ ticked => exact ticked.handsOver goesOn

theorem tick_hands_over_example :
    let s := run (LogWriterService.step platformExample) {} stepsExample
    ∃ new handed, HandsOver s (s.step platformExample (.tick tickExample)) tickExample new handed :=
  tick_hands_over platformExample _ possible_stepsExample tickExample scheduled_stepsExample
    scheduled_tickExample

/-! ### The files -/

/-- A session that is stopped leaves its file. -/
private theorem Sound.closed_stop (sound : Sound platform s) (isScheduled : s.isScheduled = true)
    (reason : LoggingStatusReason) :
    ∃ file, (s.stop platform reason).closed = s.closed ++ [file] ∧ file.isChanged = false := by
  have stopped := sound.stop_cases reason
  generalize s.stop platform reason = after at stopped
  cases stopped with
  | notStarted isStopped =>
    exact absurd (sound.scheduled.mp isScheduled).1 (Bool.eq_false_iff.mp isStopped)
  | noFile _ isShut =>
    exact absurd (sound.running isScheduled).2 (Bool.eq_false_iff.mp isShut)
  | closed isStarted isOpen isFinalized middle closes =>
    obtain ⟨file, closed, -, -, unchanged⟩ := closes.closed
    exact ⟨file, closed, unchanged⟩

/-- A file that the writer closed stays as it was until another part of the unit changes it, and
where it was finalized a reader gets back from it what was logged. -/
theorem closed_files_kept (platform : LogPlatform)
    (volume : List (List Char) → Option (List UInt8)) {steps : List WriterStep}
    (possible : ∀ step ∈ steps, step.IsPossible) {file : ClosedLog}
    (member : file ∈ (run (LogWriterService.step platform) { volume } steps).closed) :
    (file.isChanged = false →
      (run (LogWriterService.step platform) { volume } steps).volume (entryOf file.path) =
        some file.content) ∧
      (file.isFinalized = true → file.Readable platform) := by
  have sound := (sound_initial platform volume).afterRun possible
  exact ⟨sound.kept.content file member, sound.kept.readable file member⟩

theorem closed_files_kept_example :
    let s := run (LogWriterService.step platformExample) {} sessionExample
    ∃ file ∈ s.closed, s.volume (entryOf file.path) = some file.content ∧
      (file.isFinalized = true → file.Readable platformExample) := by
  have sound := ((sound_initial platformExample fun _ => none).afterRun
    possible_stepsExample).possibleStep possible_tickExample
  obtain ⟨file, closed, unchanged⟩ := sound.closed_stop scheduled_tickExample .stopped
  have stop (s : LogWriterService) : s.step platformExample (.stop .stopped) =
      s.stop platformExample .stopped := rfl
  have member : file ∈ (run (LogWriterService.step platformExample) {} sessionExample).closed := by
    rw [sessionExample, run_append, run_cons, run_cons, run_nil, stop, closed]
    exact List.mem_concat_self
  obtain ⟨content, readable⟩ := closed_files_kept platformExample _ possible_sessionExample member
  exact ⟨file, member, content unchanged, readable⟩

private theorem Ticked.leaves {tick : WriterTick} (ticked : Ticked platform s tick s') :
    Leaves s s' := by
  cases ticked with
  | failed new middle continues handed passes calls ends =>
    subst ends
    obtain ⟨logger, frames, task, rfl⟩ := continues.state
    exact .of_same rfl rfl rfl
  | finished new middle continues handed passes calls noneThrew isDrainFull ends =>
    subst ends
    obtain ⟨logger, frames, task, rfl⟩ := continues.state
    exact .of_same rfl rfl rfl

/-- The next tick of a session is scheduled until the session fails, and it finds the file open. A
writer that is not started has no file open. -/
theorem session_scheduled (platform : LogPlatform)
    (volume : List (List Char) → Option (List UInt8)) {steps : List WriterStep}
    (possible : ∀ step ∈ steps, step.IsPossible) :
    let s := run (LogWriterService.step platform) { volume } steps
    (s.isScheduled = true ↔ s.isStarted = true ∧ s.hasFailed = false) ∧
      (s.isScheduled = true → s.hasStream = true ∧ s.openFilePath = s.filePath ∧
        s.exists_ s.filePath = true) ∧
      (s.isStarted = false → s.hasStream = false ∧ s.openFilePath = []) := by
  intro s
  have sound : Sound platform s := (sound_initial platform volume).afterRun possible
  refine ⟨sound.scheduled, fun isScheduled => ?_, fun isStopped => ?_⟩
  · have isOpen := (sound.running isScheduled).2
    have writing := sound.writing isOpen
    exact ⟨isOpen, writing.openPath, writing.exists_⟩
  · have isShut := sound.stopped isStopped
    exact ⟨isShut, (sound.idle isShut).openPath⟩

theorem session_scheduled_example :
    let s := run (LogWriterService.step platformExample) {} stepsExample
    s.hasStream = true ∧ s.openFilePath = s.filePath ∧ s.exists_ s.filePath = true :=
  (session_scheduled platformExample _ possible_stepsExample).2.1 scheduled_stepsExample

end LogWriterService

/-! ### The writer as its supervisor sees it -/

/-- What a writer does in the supervisor's model. -/
inductive LogWriter.Move
  | stay
  | start (opens : Bool)
  | endSession (reason : LoggingStatusReason)
  | stop (reason : LoggingStatusReason)

/-- The writer after a move. -/
def LogWriter.move (writer : LogWriter) : LogWriter.Move → LogWriter
  | .stay => writer
  | .start opens => (writer.start opens).1
  | .endSession reason => writer.endSession reason
  | .stop reason => writer.stopWithReason reason false

namespace LogWriterService

variable {platform : LogPlatform} {s s' : LogWriterService}

/-- What the supervisor's model keeps of a writer. -/
def toLogWriter (s : LogWriterService) : LogWriter where
  isRunning := s.isStarted
  hasFailed := s.hasFailed
  session := s.published.count .active
  status := s.published.getLast?.getD (.inactive .stopped)

/-- The moves that stand for a step: a start may find nothing to open, and a tick may fail. -/
inductive Follows : WriterStep → LogWriter.Move → Prop
  | start (request : StartRequest) (opens : Bool) : Follows (.start request) (.start opens)
  | ticks (tick : WriterTick) : Follows (.tick tick) .stay
  | fails (tick : WriterTick) (reason : LoggingStatusReason) :
    Follows (.tick tick) (.endSession reason)
  | stop (reason : LoggingStatusReason) : Follows (.stop reason) (.stop reason)
  | frame (record : RawCanRecord) : Follows (.frame record) .stay
  | clearReadings : Follows .clearReadings .stay
  | configure (sensorIdHashes : List UInt32) (hasFrameSensor : Bool) :
    Follows (.configure sensorIdHashes hasFrameSensor) .stay
  | fileChange (path : List Char) (content : Option (List UInt8)) :
    Follows (.fileChange path content) .stay

private theorem toLogWriter_congr (isStarted : s'.isStarted = s.isStarted)
    (hasFailed : s'.hasFailed = s.hasFailed) (published : s'.published = s.published) :
    s'.toLogWriter = s.toLogWriter := by
  unfold toLogWriter
  rw [isStarted, hasFailed, published]

private theorem toLogWriter_endSession (isStarted : s.isStarted = true)
    (hasFailed : s.hasFailed = false) (reason : LoggingStatusReason) :
    (s.endSession reason).toLogWriter = s.toLogWriter.endSession reason := by
  unfold toLogWriter LogWriter.endSession LogWriterService.endSession publishStatus
  simp [isStarted, hasFailed]

private theorem Ticked.follows {tick : WriterTick} (ticked : Ticked platform s tick s')
    (isStarted : s.isStarted = true) (hasFailed : s.hasFailed = false) :
    ∃ move, Follows (.tick tick) move ∧ s'.toLogWriter = s.toLogWriter.move move := by
  cases ticked with
  | failed new middle continues handed passes calls ends =>
    subst ends
    refine ⟨_, .fails tick .writeFailed, ?_⟩
    obtain ⟨logger, frames, task, rfl⟩ := continues.state
    exact toLogWriter_endSession isStarted hasFailed .writeFailed
  | finished new middle continues handed passes calls noneThrew isDrainFull ends =>
    subst ends
    refine ⟨_, .ticks tick, ?_⟩
    obtain ⟨logger, frames, task, rfl⟩ := continues.state
    exact toLogWriter_congr rfl rfl rfl

private theorem Sound.tick_follows (sound : Sound platform s) (isScheduled : s.isScheduled = true)
    (tick : WriterTick) :
    ∃ move, Follows (.tick tick) move ∧
      (s.processTick platform tick).toLogWriter = s.toLogWriter.move move := by
  obtain ⟨isStarted, hasFailed⟩ := sound.scheduled.mp isScheduled
  have ran := sound.processTick_cases isScheduled tick
  generalize s.processTick platform tick = after at ran
  cases ran with
  | noSpace =>
    exact ⟨_, .fails tick .noSpace,
      toLogWriter_endSession (s := s.pushFrames tick.arrivals.flatten) isStarted hasFailed .noSpace⟩
  | notOpened middle replaced idle =>
    have session := replaced.session
    have same : (middle.pushFrames tick.arrivals.flatten).toLogWriter = s.toLogWriter :=
      toLogWriter_congr session.isStarted session.hasFailed session.published
    have ends := toLogWriter_endSession (s := middle.pushFrames tick.arrivals.flatten)
      (session.isStarted.trans isStarted) (session.hasFailed.trans hasFailed) .rotationFailed
    rw [same] at ends
    exact ⟨_, .fails tick .rotationFailed, ends⟩
  | nextFile middle _ replaced writing ticked =>
    have session := replaced.session
    obtain ⟨move, follows, same⟩ := ticked.follows (session.isStarted.trans isStarted)
      (session.hasFailed.trans hasFailed)
    rw [toLogWriter_congr session.isStarted session.hasFailed session.published] at same
    exact ⟨move, follows, same⟩
  | sameFile _ ticked => exact ticked.follows isStarted hasFailed

private theorem Sound.start_follows (sound : Sound platform s) {request : StartRequest}
    (given : ∀ l, request.logger = some l → l.Sound) :
    ∃ move, Follows (.start request) move ∧
      (s.start platform request).toLogWriter = s.toLogWriter.move move := by
  unfold LogWriterService.start
  split_ifs with already
  · refine ⟨_, .start request true, ?_⟩
    change s.toLogWriter = (s.toLogWriter.start true).1
    rw [LogWriter.start, if_pos (show s.toLogWriter.isRunning = true from already)]
  rw [Bool.not_eq_true] at already
  -- nothing is started
  have stays {after : LogWriterService} (hasFailed : after.hasFailed = s.hasFailed)
      (published : after.published = s.published) :
      { after with isStarted := false }.toLogWriter = s.toLogWriter.move (.start false) := by
    have same : { after with isStarted := false }.toLogWriter = s.toLogWriter :=
      toLogWriter_congr already.symm hasFailed published
    rw [same]
    unfold LogWriter.move LogWriter.start
    simp [toLogWriter, already]
  have start := doStart_cases platform s request
  generalize s.doStart platform request = result at start
  cases start with
  | refused => exact ⟨_, .start request false, stays rfl rfl⟩
  | noLogger => exact ⟨_, .start request false, stays rfl rfl⟩
  | notOpened l after isGiven result =>
    have opened := sound.opened already (given l isGiven) request.startTime request.toFileOpening
    rw [result] at opened
    exact ⟨_, .start request false, stays opened.session.hasFailed opened.session.published⟩
  | opened l after isGiven result =>
    have opened := sound.opened already (given l isGiven) request.startTime request.toFileOpening
    rw [result] at opened
    have published : after.published = s.published := opened.session.published
    refine ⟨_, .start request true, ?_⟩
    unfold LogWriter.move LogWriter.start toLogWriter publishStatus
    simp [already, published]

/-- A step is one move in the supervisor's model. -/
theorem Sound.step_follows (sound : Sound platform s) {step : WriterStep}
    (possible : step.IsPossible) :
    ∃ move, Follows step move ∧
      (s.step platform step).toLogWriter = s.toLogWriter.move move := by
  cases step with
  | start request => exact sound.start_follows fun l given => (possible l given).sound
  | tick input =>
    unfold LogWriterService.step
    dsimp only
    split_ifs with isScheduled
    · exact sound.tick_follows isScheduled input
    · exact ⟨_, .ticks input, rfl⟩
  | stop reason =>
    refine ⟨_, .stop reason, ?_⟩
    have stopped := sound.stop_cases reason
    change (s.stop platform reason).toLogWriter = s.toLogWriter.stopWithReason reason false
    generalize s.stop platform reason = after at stopped
    unfold LogWriter.stopWithReason
    cases stopped with
    | notStarted isStopped => simp [toLogWriter, isStopped]
    | noFile isStarted =>
      unfold toLogWriter publishStatus
      simp [isStarted, halt, clearOpenFile]
    | closed isStarted isOpen isFinalized middle closes =>
      have published : middle.published = s.published := closes.session.published
      have hasFailed : middle.hasFailed = s.hasFailed := closes.session.hasFailed
      unfold toLogWriter publishStatus
      simp [isStarted, published, hasFailed]
  | frame record => exact ⟨_, .frame record, rfl⟩
  | clearReadings => exact ⟨_, .clearReadings, rfl⟩
  | configure sensorIdHashes hasFrameSensor =>
    exact ⟨_, .configure sensorIdHashes hasFrameSensor, rfl⟩
  | fileChange path content =>
    refine ⟨_, .fileChange path content, ?_⟩
    unfold LogWriterService.step LogWriterService.fileChange
    dsimp only
    split_ifs <;> rfl

private theorem Sound.run_follows (sound : Sound platform s) {steps : List WriterStep}
    (possible : ∀ step ∈ steps, step.IsPossible) :
    ∃ moves, List.Forall₂ Follows steps moves ∧
      (run (LogWriterService.step platform) s steps).toLogWriter =
        run LogWriter.move s.toLogWriter moves := by
  induction steps generalizing s with
  | nil => exact ⟨[], .nil, rfl⟩
  | cons step steps ih =>
    have now := possible step List.mem_cons_self
    obtain ⟨move, follows, first⟩ := sound.step_follows now
    obtain ⟨moves, others, rest⟩ := ih (sound.possibleStep now) fun later member =>
      possible later (List.mem_cons_of_mem _ member)
    refine ⟨move :: moves, .cons follows others, ?_⟩
    rw [run_cons, run_cons, rest, first]

/-- Every run of the writer is one of the supervisor's model, move by move: it starts, fails and
stops in the same order, opens as many sessions, and publishes the same status. -/
theorem writer_refines (platform : LogPlatform) (volume : List (List Char) → Option (List UInt8))
    {steps : List WriterStep} (possible : ∀ step ∈ steps, step.IsPossible) :
    ∃ moves, List.Forall₂ Follows steps moves ∧
      (run (LogWriterService.step platform) { volume } steps).toLogWriter =
        run LogWriter.move {} moves :=
  (sound_initial platform volume).run_follows possible

theorem writer_refines_example : ∃ moves, List.Forall₂ Follows sessionExample moves ∧
    (run (LogWriterService.step platformExample) {} sessionExample).toLogWriter =
      run LogWriter.move {} moves :=
  writer_refines platformExample _ possible_sessionExample

end LogWriterService

end RtCore.Logging
