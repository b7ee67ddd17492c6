import RtCore.Logging.LogWriterService

/-!
# Runs of the log writer

What stays true while the writer is started and stopped, ticks, replaces its file and fails, and
while other parts of the unit change the volume.

## Main definitions

* `LogWriterService.Sound` — the file that is written, and the files that were

## Main results

* `LogWriterService.openLogFile_spec`, `closeLogFile_spec`, `rotateFile_spec`, `writeTick_spec`,
  `doStart_cases` — what each operation can do
* `LogWriterService.Sound.step` — what holds at all times, a step preserves
-/

namespace RtCore.Logging

open RtCore.Foundation RtCore.Fs RtCore.Mdf RtCore.Sensors

variable {platform : LogPlatform} {s s' : LogWriterService}

/-- A closed file that was finalized, as long as nobody else changed it: a reader gets back from it
what was logged. -/
def ClosedLog.Readable (platform : LogPlatform) (file : ClosedLog) : Prop :=
  file.content.length < 2 ^ 64 → file.logger.file.readFile file.content =
    some (file.history.filterMap (file.logger.readingOf platform.clock file.startTime))

namespace LogWriterService

/-! ### Invariants -/

/-- The file that is written. -/
structure Writing (platform : LogPlatform) (s : LogWriterService) : Prop where
  hasStream : s.hasStream = true
  logger : ∃ l logger, s.logger = some (l, logger) ∧ l.Sound ∧
    LoggerTargets.Underway (platform.setting s.filesOpened) l s.fileStartTime (logger, s.history)
  openPath : s.openFilePath = s.filePath
  exists_ : s.exists_ s.filePath = true

/-- No file is written, and the logger could write one. -/
structure Idle (s : LogWriterService) : Prop where
  hasStream : s.hasStream = false
  logger : ∀ l logger, s.logger = some (l, logger) → l.Sound ∧ LoggerTargets.Ready l logger
  openPath : s.openFilePath = []
  openBytes : s.openFileBytes = 0
  history : s.history = []

/-- The files that the writer closed. -/
structure Kept (platform : LogPlatform) (s : LogWriterService) : Prop where
  content : ∀ file ∈ s.closed, file.isChanged = false →
    s.volume (entryOf file.path) = some file.content
  readable : ∀ file ∈ s.closed, file.isFinalized = true → file.Readable platform
  /-- The open file is none of them. -/
  fresh : s.hasStream = true → ∀ file ∈ s.closed, file.isChanged = false →
    entryOf file.path ≠ entryOf s.filePath

/-- The ends that were recorded are those of the files that were finalized. -/
def EndsRecorded (platform : LogPlatform) (s : LogWriterService) : Prop :=
  List.Forall₂ (fun end_ file => end_.1 = nameOf file.path ∧ platform.toMs file.startTime ≤ end_.2)
    s.endTimes (s.closed.filter (·.isFinalized))

/-- What an operation on files leaves as it is. -/
structure SameSession (s s' : LogWriterService) : Prop where
  isStarted : s'.isStarted = s.isStarted
  isScheduled : s'.isScheduled = s.isScheduled
  hasFailed : s'.hasFailed = s.hasFailed
  published : s'.published = s.published
  frames : s'.frames = s.frames
  sensorIdHashes : s'.sensorIdHashes = s.sensorIdHashes
  isRunning : s'.task.isRunning = s.task.isRunning

protected theorem SameSession.trans {s'' : LogWriterService} (first : SameSession s s')
    (second : SameSession s' s'') : SameSession s s'' where
  isStarted := second.isStarted.trans first.isStarted
  isScheduled := second.isScheduled.trans first.isScheduled
  hasFailed := second.hasFailed.trans first.hasFailed
  published := second.published.trans first.published
  frames := second.frames.trans first.frames
  sensorIdHashes := second.sensorIdHashes.trans first.sensorIdHashes
  isRunning := second.isRunning.trans first.isRunning

/-- What is on the volume stays there, but for the open file. -/
def Leaves (s s' : LogWriterService) : Prop :=
  ∀ entry content, (s.hasStream = true → entry ≠ entryOf s.filePath) →
    s.volume entry = some content → s'.volume entry = some content ∧
      (s'.hasStream = true → entry ≠ entryOf s'.filePath)

theorem Leaves.of_same (hasStream : s'.hasStream = s.hasStream) (path : s'.filePath = s.filePath)
    (volume : s'.volume = s.volume) : Leaves s s' := by
  intro entry content other there
  rw [hasStream, path, volume]
  exact ⟨there, other⟩

protected theorem Leaves.trans {s'' : LogWriterService} (first : Leaves s s')
    (second : Leaves s' s'') : Leaves s s'' := by
  intro entry content other there
  obtain ⟨there', other'⟩ := first entry content other there
  exact second entry content other' there'

/-! ### Files -/

/-- A name that is found has no file. -/
theorem exists_freshPath {startTime : ℤ} {opening : FileOpening}
    (found : s.freshPath platform startTime opening ≠ []) :
    s.exists_ (s.freshPath platform startTime opening) = false := by
  revert found
  unfold freshPath
  dsimp only
  generalize candidates : (opening.suffixes.take 10).map _ = paths
  cases first : paths.find? fun path => !s.exists_ path with
  | none => exact fun found => absurd rfl found
  | some path =>
    intro _
    simpa using List.find?_some first

/-- A file that is opened is a new one. -/
structure Opened (platform : LogPlatform) (s : LogWriterService)
    (result : Bool × LogWriterService) : Prop where
  writing : result.1 = true → Writing platform result.2
  idle : result.1 = false → Idle result.2
  kept : Kept platform result.2
  history : result.2.history = []
  closed : result.2.closed = s.closed
  endTimes : result.2.endTimes = s.endTimes
  session : SameSession s result.2
  leaves : Leaves s result.2

/-- Where no file could be opened, the files are those that there were. -/
private theorem Opened.failed (kept : Kept platform s) (session : SameSession s s') (idle : Idle s')
    (volume : s'.volume = s.volume) (closed : s'.closed = s.closed)
    (endTimes : s'.endTimes = s.endTimes) : Opened platform s (false, s') where
  writing ok := absurd ok Bool.false_ne_true
  idle _ := idle
  kept := by
    refine ⟨fun file member => ?_, fun file member => ?_, fun isOpen => ?_⟩
    · rw [closed] at member
      rw [volume]
      exact kept.content file member
    · rw [closed] at member
      exact kept.readable file member
    · exact absurd (idle.hasStream.symm.trans isOpen) Bool.false_ne_true
  history := idle.history
  closed := closed
  endTimes := endTimes
  session := session
  leaves entry content _ there :=
    ⟨by rw [volume]; exact there, fun isOpen => absurd (idle.hasStream.symm.trans isOpen) (by simp)⟩

theorem openLogFile_spec (idle : Idle s) (kept : Kept platform s) (startTime : ℤ)
    (opening : FileOpening) : Opened platform s (s.openLogFile platform startTime opening) := by
  have same : SameSession s s := ⟨rfl, rfl, rfl, rfl, rfl, rfl, rfl⟩
  unfold openLogFile
  cases found : s.logger with
  | none =>
    exact Opened.failed kept same idle rfl rfl rfl
  | some both =>
    obtain ⟨l, logger⟩ := both
    have owned := idle.logger
    rw [found] at owned
    obtain ⟨sound, ready⟩ := owned l logger rfl
    dsimp only
    by_cases nameless : s.freshPath platform startTime opening = []
    · rw [if_pos nameless]
      exact Opened.failed kept ⟨rfl, rfl, rfl, rfl, rfl, rfl, rfl⟩ ⟨idle.hasStream, owned,
        idle.openPath, idle.openBytes, idle.history⟩ rfl rfl rfl
    rw [if_neg nameless]
    have unused := exists_freshPath nameless
    by_cases opens : opening.opens = true
    · have spec := LoggerTargets.openFile_spec (platform.setting (s.filesOpened + 1)) sound ready
        startTime
      rw [opens]
      simp only [Bool.not_true, Bool.false_eq_true, if_false]
      generalize l.openFile (platform.setting (s.filesOpened + 1)) startTime logger = result at spec
      obtain ⟨started, logger'⟩ := result
      obtain ⟨isStarted, underway⟩ | ⟨notStarted, ready', -⟩ := spec
      · obtain rfl : started = some true := isStarted
        rw [if_pos rfl]
        have nothing : s.volume (entryOf (s.freshPath platform startTime opening)) = none := by
          simpa [LogWriterService.exists_] using unused
        -- The path is fresh, so the file that is created replaces none.
        have others {entry content} (there : s.volume entry = some content) :
            entry ≠ entryOf (s.freshPath platform startTime opening) := by
          rintro rfl
          rw [nothing] at there
          cases there
        refine ⟨fun _ => ⟨rfl, ⟨l, logger', rfl, sound, underway⟩, rfl, ?_⟩, by simp, ?_, rfl, rfl,
          rfl, ⟨rfl, rfl, rfl, rfl, rfl, rfl, rfl⟩, fun entry content _ there => ?_⟩
        · simp [LogWriterService.exists_]
        · refine ⟨fun file member isKept => ?_, kept.readable, fun _ file member isKept => ?_⟩
          · dsimp only
            rw [Function.update_of_ne (others (kept.content file member isKept))]
            exact kept.content file member isKept
          · exact others (kept.content file member isKept)
        · refine ⟨?_, fun _ => others there⟩
          dsimp only
          rw [Function.update_of_ne (others there)]
          exact there
      · rw [if_neg notStarted]
        exact Opened.failed kept ⟨rfl, rfl, rfl, rfl, rfl, rfl, rfl⟩ ⟨idle.hasStream,
          fun l' logger'' same' => by
            obtain ⟨rfl, rfl⟩ := Prod.mk.inj (Option.some.inj same')
            exact ⟨sound, ready'.targets, ready'.file⟩, rfl, rfl, idle.history⟩ rfl rfl rfl
    · rw [Bool.not_eq_true] at opens
      rw [opens]
      exact Opened.failed kept ⟨rfl, rfl, rfl, rfl, rfl, rfl, rfl⟩ ⟨idle.hasStream, owned, rfl, rfl,
        idle.history⟩ rfl rfl rfl

private theorem toMs_le (platform : LogPlatform) {time time' : ℤ} (before : time ≤ time') :
    platform.toMs time ≤ platform.toMs time' := by
  unfold LogPlatform.toMs
  rcases Nat.eq_zero_or_pos platform.ticksPerMs with zero | positive
  · rw [zero, Nat.cast_zero, Int.tdiv_zero, Int.tdiv_zero]
  · exact Int.tdiv_le_tdiv (by omega) before

private theorem EndsRecorded.concat (ends : EndsRecorded platform s) {file : ClosedLog}
    (end_ : List Char × ℤ) (closed : s'.closed = s.closed ++ [file])
    (endTimes : s'.endTimes = s.endTimes ++ if file.isFinalized then [end_] else [])
    (name : end_.1 = nameOf file.path) (later : platform.toMs file.startTime ≤ end_.2) :
    EndsRecorded platform s' := by
  unfold EndsRecorded
  rw [closed, endTimes, List.filter_append]
  refine List.rel_append ends ?_
  cases isFinalized : file.isFinalized with
  | false =>
    rw [List.filter_cons_of_neg (by simp [isFinalized])]
    exact .nil
  | true =>
    rw [List.filter_cons_of_pos isFinalized]
    exact .cons ⟨name, later⟩ .nil

/-- A file that is closed: whether it was finalized, and what it leaves. -/
structure Closed (platform : LogPlatform) (s : LogWriterService)
    (result : Bool × LogWriterService) : Prop where
  idle : Idle result.2
  kept : Kept platform result.2
  closed : ∃ file, result.2.closed = s.closed ++ [file] ∧ file.path = s.filePath ∧
    file.history = s.history ∧ file.isChanged = false
  ends : EndsRecorded platform s → EndsRecorded platform result.2
  session : SameSession s result.2
  leaves : Leaves s result.2

theorem closeLogFile_spec (writing : Writing platform s) (kept : Kept platform s) :
    Closed platform s (s.closeLogFile platform) := by
  obtain ⟨l, logger, found, sound, underway⟩ := writing.logger
  obtain ⟨ready, -, -⟩ := LoggerTargets.closeFile_spec underway
  have reads := underway.readFile_closeFile sound
  unfold closeLogFile
  rw [writing.hasStream, found]
  dsimp only at ready reads ⊢
  generalize l.closeFile (platform.setting s.filesOpened) logger = result at ready reads
  obtain ⟨isFinalized, logger'⟩ := result
  dsimp only at ready reads ⊢
  have idle (s' : LogWriterService) (hasStream : s'.hasStream = false)
      (logger : s'.logger = some (l, logger')) (path : s'.openFilePath = [])
      (bytes : s'.openFileBytes = 0) (history : s'.history = []) : Idle s' := by
    refine ⟨hasStream, fun l' logger'' same => ?_, path, bytes, history⟩
    rw [logger] at same
    obtain ⟨rfl, rfl⟩ := Prod.mk.inj (Option.some.inj same)
    exact ⟨sound, ready⟩
  have volume (content : List UInt8) (entry : List (List Char))
      (other : entry ≠ entryOf s.filePath) :
      Function.update s.volume (entryOf s.filePath) (some content) entry = s.volume entry :=
    Function.update_of_ne other _ _
  let file : ClosedLog := {
    logger := l
    path := s.filePath
    startTime := s.fileStartTime
    history := s.history
    isFinalized
    content := logger'.stream.1.file.data }
  have keeps (s' : LogWriterService) (closed : s'.closed = s.closed ++ [file])
      (volume' : s'.volume =
        Function.update s.volume (entryOf s.filePath) (some logger'.stream.1.file.data))
      (hasStream : s'.hasStream = false) : Kept platform s' := by
    refine ⟨?_, ?_, fun isOpen => absurd (hasStream.symm.trans isOpen) Bool.false_ne_true⟩
    · rw [closed, volume']
      intro other member isKept
      rcases List.mem_append.mp member with earlier | new
      · rw [volume _ _ (kept.fresh writing.hasStream other earlier isKept)]
        exact kept.content other earlier isKept
      · rw [List.mem_singleton.mp new]
        exact Function.update_self _ _ _
    · rw [closed]
      intro other member finalized
      rcases List.mem_append.mp member with earlier | new
      · exact kept.readable other earlier finalized
      · rw [List.mem_singleton.mp new] at finalized ⊢
        exact reads finalized
  have leaves (s' : LogWriterService) (volume' : s'.volume =
        Function.update s.volume (entryOf s.filePath) (some logger'.stream.1.file.data))
      (hasStream : s'.hasStream = false) : Leaves s s' := by
    intro entry content other there
    rw [volume', volume _ _ (other writing.hasStream)]
    exact ⟨there, fun isOpen => absurd (hasStream.symm.trans isOpen) Bool.false_ne_true⟩
  -- The end time is that of the last tick, but never before the start of the file.
  have later : platform.toMs s.fileStartTime ≤ platform.toMs
      (if s.fileStartTime < s.task.lastTickTime then s.task.lastTickTime else s.fileStartTime) := by
    apply toMs_le
    split_ifs <;> omega
  cases isFinalized with
  | false =>
    exact ⟨idle _ rfl rfl rfl rfl rfl, keeps _ rfl rfl rfl, ⟨file, rfl, rfl, rfl, rfl⟩,
      fun ends => ends.concat (_, _) rfl (List.append_nil _).symm rfl later,
      ⟨rfl, rfl, rfl, rfl, rfl, rfl, rfl⟩, leaves _ rfl rfl⟩
  | true =>
    exact ⟨idle _ rfl rfl rfl rfl rfl, keeps _ rfl rfl rfl, ⟨file, rfl, rfl, rfl, rfl⟩,
      fun ends => ends.concat (_, _) rfl rfl rfl later,
      ⟨rfl, rfl, rfl, rfl, rfl, rfl, rfl⟩, leaves _ rfl rfl⟩

/-! ### The calls of the logger -/

/-- The session goes on in the same file, whose history gets longer. -/
structure Continues (platform : LogPlatform) (s s' : LogWriterService) (new : List LogEntry) :
    Prop where
  state : ∃ logger frames task, s' = { s with logger, frames, task, history := s.history ++ new }
  writing : Writing platform s'
  isRunning : s'.task.isRunning = s.task.isRunning

namespace Continues

variable {s'' : LogWriterService} {new new' : List LogEntry}

/-- Nothing is handed to the logger. -/
theorem ofEntryless {logger : Option (LoggerTargets × Logger (StreamBuf × Mdf4Recorder))}
    {frames : RawCanQueue} {task : LogWriterTask}
    (writing : Writing platform { s with logger, frames, task })
    (isRunning : task.isRunning = s.task.isRunning) :
    Continues platform s { s with logger, frames, task } [] where
  state := ⟨logger, frames, task, by rw [List.append_nil]⟩
  writing := writing
  isRunning := isRunning

protected theorem refl (writing : Writing platform s) : Continues platform s s [] :=
  ofEntryless writing rfl

protected theorem trans (first : Continues platform s s' new)
    (second : Continues platform s' s'' new') : Continues platform s s'' (new ++ new') where
  state := by
    obtain ⟨logger, frames, task, rfl⟩ := first.state
    obtain ⟨logger', frames', task', rfl⟩ := second.state
    exact ⟨logger', frames', task', by rw [List.append_assoc]⟩
  writing := second.writing
  isRunning := second.isRunning.trans first.isRunning

end Continues

/-- No call threw. -/
def NoneThrew (new : List LogEntry) : Prop := ∀ entry ∈ new, ∀ record, entry.answer ≠ .threw record

/-- The calls that were made are the first of those that were to be made, and unless one threw they
are all of them. -/
structure Makes (ok : Bool) (new : List LogEntry) (calls : List LogCall) : Prop where
  order : new.map LogEntry.call <+: calls
  all : ok = true → new.map LogEntry.call = calls
  noneThrew : ok = true → NoneThrew new

namespace Makes

variable {ok : Bool} {new new' : List LogEntry} {calls calls' : List LogCall}

/-- All the calls were made, and then those that follow them. -/
protected theorem trans (first : Makes true new calls) (second : Makes ok new' calls') :
    Makes ok (new ++ new') (calls ++ calls') where
  order := by
    rw [List.map_append, first.all rfl]
    exact (List.prefix_append_right_inj calls).mpr second.order
  all fine := by rw [List.map_append, first.all rfl, second.all fine]
  noneThrew fine := List.forall_mem_append.mpr ⟨first.noneThrew rfl, second.noneThrew fine⟩

/-- After a call that threw no other is made. -/
theorem thrown (first : Makes false new calls) (calls' : List LogCall) :
    Makes false new (calls ++ calls') where
  order := first.order.trans (List.prefix_append calls calls')
  all fine := absurd fine Bool.false_ne_true
  noneThrew fine := absurd fine Bool.false_ne_true

end Makes

/-- The calls of the logger go to the file that is open; unless one throws they are all made. -/
theorem logReadings_spec (writing : Writing platform s) (time : ℤ) (readings : List LoggerReading) :
    let result := logReadings platform time readings s
    ∃ new, Continues platform s result.2.2 new ∧ result.2.2.frames = s.frames ∧
      Makes result.1 new (readings.map (LogCall.mk time)) := by
  induction readings generalizing s with
  | nil =>
    exact ⟨[], .refl writing, rfl, List.prefix_refl [], fun _ => rfl,
      fun _ => List.forall_mem_nil _⟩
  | cons reading readings ih =>
    obtain ⟨l, logger, found, sound, underway⟩ := writing.logger
    have next : LoggerTargets.Underway (platform.setting s.filesOpened) l s.fileStartTime
        (let result := Logger.logReading platform.clock
          (l.streamFile (platform.setting s.filesOpened)) time reading logger
        (result.2, s.history ++ [⟨⟨time, reading⟩, result.1⟩])) :=
      underway.logCall sound ⟨time, reading⟩
    unfold logReadings
    rw [found]
    dsimp only at next ⊢
    generalize Logger.logReading _ _ _ _ _ = result at next
    obtain ⟨answer, logger'⟩ := result
    dsimp only at next ⊢
    let entry : LogEntry := ⟨⟨time, reading⟩, answer⟩
    let after : LogWriterService :=
      { s with logger := some (l, logger'), history := s.history ++ [entry] }
    have writing' : Writing platform after :=
      ⟨writing.hasStream, ⟨l, logger', rfl, sound, next⟩, writing.openPath, writing.exists_⟩
    have step : Continues platform s after [entry] := ⟨⟨_, s.frames, s.task, rfl⟩, writing', rfl⟩
    obtain ⟨new, others, frames, calls⟩ := ih writing'
    have called {ok : Bool} (fine : ok = true → ∀ record, answer ≠ .threw record) :
        Makes ok [entry] [⟨time, reading⟩] :=
      ⟨List.prefix_refl _, fun _ => rfl, fun isFine => List.forall_mem_singleton.mpr (fine isFine)⟩
    cases answer with
    | threw =>
      exact ⟨[entry], step, rfl, (called fun isFine => absurd isFine Bool.false_ne_true).thrown _⟩
    | rejected | logged =>
      refine ⟨entry :: new, step.trans others, frames, (called ?_).trans calls⟩
      rintro - record ⟨⟩

/-- The calls for frames, as they come off the queue. -/
def frameCalls (time : ℤ) (sensorIdHashes : List UInt32) (records : List RawCanRecord) :
    List LogCall :=
  records.map fun record => ⟨time, frameReading sensorIdHashes record⟩

theorem drainRound_spec (writing : Writing platform s) (time : ℤ) :
    let result := s.drainRound platform time
    ∃ new, Continues platform s result.2.2.2 new ∧ ∃ handed,
      s.frames.Passes [] handed result.2.2.2.frames ∧
      Makes result.1 new (frameCalls time s.sensorIdHashes handed) := by
  have passes := RawCanQueue.passes_takeFrames platform.rawCanQueueSize s.frames
  unfold drainRound
  generalize s.frames.takeFrames platform.rawCanQueueSize = taken at passes
  obtain ⟨records, frames⟩ := taken
  have writing' : Writing platform { s with frames } :=
    ⟨writing.hasStream, writing.logger, writing.openPath, writing.exists_⟩
  obtain ⟨new, continues, same, calls⟩ := logReadings_spec writing' time
    (records.map (frameReading s.sensorIdHashes))
  refine ⟨new, ?_, records, ?_, ?_⟩
  · obtain ⟨logger, frames', task, state⟩ := continues.state
    exact ⟨⟨logger, frames', task, state⟩, continues.writing, continues.isRunning⟩
  · rw [same]
    exact passes
  · rw [List.map_map] at calls
    exact calls

/-- The frames that come in during a drain go to the logger or stay in the queue. -/
theorem drainFrames_spec (writing : Writing platform s) (time : ℤ)
    (arrivals : List (List RawCanRecord)) :
    let result := drainFrames platform time arrivals s
    ∃ new, Continues platform s result.2.2.2 new ∧ ∃ handed,
      s.frames.Passes arrivals.flatten handed result.2.2.2.frames ∧
      Makes result.1 new (frameCalls time s.sensorIdHashes handed) := by
  -- On the rounds of the drain, each with the frames that came in before it.
  induction arrivals generalizing s with
  | nil => exact drainRound_spec writing time
  | cons incoming arrivals ih =>
    have writing' : Writing platform (s.pushFrames incoming) :=
      ⟨writing.hasStream, writing.logger, writing.openPath, writing.exists_⟩
    have pushed := RawCanQueue.passes_foldl_push s.frames incoming
    obtain ⟨new, continues, handed, passes, calls⟩ := drainRound_spec writing' time
    unfold drainFrames
    generalize (s.pushFrames incoming).drainRound platform time = round at continues passes calls
    obtain ⟨ok, isFull, count, after⟩ := round
    dsimp only at continues passes calls ⊢
    have started : Continues platform s after new := by
      obtain ⟨logger, frames, task, state⟩ := continues.state
      exact ⟨⟨logger, frames, task, state⟩, continues.writing, continues.isRunning⟩
    have hashes : after.sensorIdHashes = s.sensorIdHashes := by
      obtain ⟨logger, frames, task, rfl⟩ := started.state
      rfl
    by_cases again : (ok && isFull) = true
    · rw [if_pos again]
      obtain ⟨new', more, handed', passes', calls'⟩ := ih started.writing
      refine ⟨new ++ new', started.trans more, handed ++ handed', ?_, ?_⟩
      · rw [List.flatten_cons]
        have all := (pushed.trans passes).trans passes'
        rw [List.append_nil, List.nil_append] at all
        exact all
      · rw [(Bool.and_eq_true_iff.mp again).1] at calls
        rw [hashes] at calls'
        rw [frameCalls, List.map_append]
        exact calls.trans calls'
    · rw [if_neg again]
      refine ⟨new, ?_, handed, ?_, calls⟩
      · obtain ⟨logger, frames, task, state⟩ := started.state
        refine ⟨⟨logger, arrivals.flatten.foldl RawCanQueue.push after.frames, task, ?_⟩,
          ⟨started.writing.hasStream, started.writing.logger, started.writing.openPath,
            started.writing.exists_⟩, started.isRunning⟩
        dsimp only [pushFrames]
        rw [state]
      · rw [List.flatten_cons]
        -- The drain is over: what still comes in stays in the queue.
        have later := RawCanQueue.passes_foldl_push after.frames arrivals.flatten
        have all := (pushed.trans passes).trans later
        rw [List.append_nil, List.append_nil, List.nil_append] at all
        exact all

/-! ### Ticks -/

/-- A session goes on after a change of the task, of the reported size or of the schedule. -/
theorem Writing.of_same (writing : Writing platform s) (hasStream : s'.hasStream = s.hasStream)
    (logger : s'.logger = s.logger) (number : s'.filesOpened = s.filesOpened)
    (start : s'.fileStartTime = s.fileStartTime) (history : s'.history = s.history)
    (openPath : s'.openFilePath = s.openFilePath) (path : s'.filePath = s.filePath)
    (volume : s'.volume = s.volume) : Writing platform s' where
  hasStream := hasStream.trans writing.hasStream
  logger := by
    rw [logger, number, start, history]
    exact writing.logger
  openPath := by rw [openPath, path, writing.openPath]
  exists_ := by
    rw [LogWriterService.exists_, volume, path]
    exact writing.exists_

/-- A sync, successful or not. -/
theorem syncIfDue_spec (writing : Writing platform s) (tick : WriterTick) :
    let result := s.syncIfDue platform tick
    Continues platform s result.2 [] ∧ result.2.frames = s.frames := by
  obtain ⟨l, logger, found, sound, underway⟩ := writing.logger
  have synced : LoggerTargets.Underway (platform.setting s.filesOpened) l s.fileStartTime
      ({ logger with stream := ((StreamBuf.sync (platform.answers s.filesOpened)
        logger.stream.1).2, logger.stream.2) }, s.history) := underway.logEvent sound .sync
  unfold syncIfDue
  split_ifs with due
  · rw [found]
    dsimp only
    generalize StreamBuf.sync (platform.answers s.filesOpened) logger.stream.1 = result at synced
    obtain ⟨ok, stream⟩ := result
    have writing' (task : LogWriterTask) : Writing platform { s with
        logger := some (l, { logger with stream := (stream, logger.stream.2) }), task } :=
      ⟨writing.hasStream, ⟨l, _, rfl, sound, synced⟩, writing.openPath, writing.exists_⟩
    cases ok with
    | false => exact ⟨.ofEntryless (writing' _) rfl, rfl⟩
    | true => exact ⟨.ofEntryless (writing' _) rfl, rfl⟩
  · exact ⟨.refl writing, rfl⟩

/-- The calls of a tick: for the readings of the snapshot, and then for the frames that are taken
off the queue. -/
def tickCalls (tick : WriterTick) (sensorIdHashes : List UInt32) (handed : List RawCanRecord) :
    List LogCall :=
  tick.readings.map (fun reading => ⟨tick.time, reading.loggerReading⟩) ++
    frameCalls tick.time sensorIdHashes handed

/-- How a tick ends that writes to the open file: it failed, or all the readings and the frames that
were drained went to the logger. -/
inductive Ticked (platform : LogPlatform) (s : LogWriterService) (tick : WriterTick)
    (after : LogWriterService) : Prop
  | failed (new : List LogEntry) (middle : LogWriterService)
      (continues : Continues platform s middle new) (handed : List RawCanRecord)
      (passes : s.frames.Passes tick.arrivals.flatten handed middle.frames)
      (calls : new.map LogEntry.call <+: tickCalls tick s.sensorIdHashes handed)
      (ends : after = middle.endSession .writeFailed)
  | finished (new : List LogEntry) (middle : LogWriterService)
      (continues : Continues platform s middle new) (handed : List RawCanRecord)
      (passes : s.frames.Passes tick.arrivals.flatten handed middle.frames)
      (calls : new.map LogEntry.call = tickCalls tick s.sensorIdHashes handed)
      (noneThrew : NoneThrew new) (isDrainFull : Bool)
      (ends : after = middle.finishTick tick isDrainFull)

theorem Continues.withTask {new : List LogEntry} (continues : Continues platform s s' new)
    (task : LogWriterTask) (isRunning : task.isRunning = s'.task.isRunning) :
    Continues platform s { s' with task } new where
  state := by
    obtain ⟨logger, frames, task', rfl⟩ := continues.state
    exact ⟨logger, frames, task, rfl⟩
  writing := continues.writing.of_same rfl rfl rfl rfl rfl rfl rfl rfl
  isRunning := isRunning.trans continues.isRunning

theorem Continues.pushFrames {new : List LogEntry} (continues : Continues platform s s' new)
    (records : List RawCanRecord) : Continues platform s (s'.pushFrames records) new where
  state := by
    obtain ⟨logger, frames, task, rfl⟩ := continues.state
    exact ⟨logger, records.foldl RawCanQueue.push frames, task, rfl⟩
  writing := continues.writing.of_same rfl rfl rfl rfl rfl rfl rfl rfl
  isRunning := continues.isRunning

theorem writeTick_spec (writing : Writing platform s) (tick : WriterTick) :
    Ticked platform s tick (s.writeTick platform tick) := by
  have begun : Continues platform s { s with task.lastTickTime := tick.time } [] :=
    (Continues.refl writing).withTask _ rfl
  obtain ⟨first, readings, frames, calls⟩ := logReadings_spec begun.writing tick.time
    (tick.readings.map SnapshotReading.loggerReading)
  unfold writeTick
  dsimp only
  generalize logReadings platform tick.time _ _ = logged at readings frames calls
  obtain ⟨ok, count, s₁⟩ := logged
  dsimp only at readings frames calls ⊢
  have toReadings : Continues platform s { s₁ with
      task.stats.readings := s₁.task.stats.readings + UInt32.ofNat count } first :=
    (begun.trans readings).withTask _ rfl
  -- A failed write ends the tick; the calls made up to there are in the order of the tick.
  have failWrite {ok : Bool} {new : List LogEntry} {middle : LogWriterService}
      (handed : List RawCanRecord) (continues : Continues platform s middle new)
      (passes : s.frames.Passes tick.arrivals.flatten handed middle.frames)
      (calls : Makes ok new (tickCalls tick s.sensorIdHashes handed)) :
      Ticked platform s tick middle.failWrite :=
    .failed new { middle with task.stats.writeErrors := middle.task.stats.writeErrors + 1 }
      (continues.withTask _ rfl) handed passes calls.order rfl
  have before : s₁.frames = s.frames := frames
  have hashes : s₁.sensorIdHashes = s.sensorIdHashes := by
    obtain ⟨logger, frames', task, same⟩ := readings.state
    rw [same]
  rw [List.map_map] at calls
  cases ok with
  | false =>
    simp only [Bool.not_false, if_true]
    refine failWrite [] (toReadings.pushFrames _) ?_ (calls.thrown _)
    rw [← before]
    exact RawCanQueue.passes_foldl_push s₁.frames tick.arrivals.flatten
  | true =>
    simp only [Bool.not_true, Bool.false_eq_true, if_false]
    obtain ⟨second, drained, handed, passes, frameCalls⟩ :=
      drainFrames_spec toReadings.writing tick.time tick.arrivals
    generalize drainFrames platform tick.time tick.arrivals _ = result at drained passes frameCalls
    obtain ⟨ok, isFull, count', s₂⟩ := result
    dsimp only at drained passes frameCalls ⊢
    rw [before] at passes
    rw [hashes] at frameCalls
    have made : Makes ok (first ++ second) (tickCalls tick s.sensorIdHashes handed) :=
      calls.trans frameCalls
    have toFrames : Continues platform s { s₂ with
        task.stats.frames := s₂.task.stats.frames + UInt32.ofNat count' } (first ++ second) :=
      (toReadings.trans drained).withTask _ rfl
    cases ok with
    | false =>
      simp only [Bool.not_false, if_true]
      exact failWrite handed toFrames passes made
    | true =>
      simp only [Bool.not_true, Bool.false_eq_true, if_false]
      obtain ⟨synced, sameFrames⟩ := syncIfDue_spec toFrames.writing tick
      have toSync := toFrames.trans synced
      generalize syncIfDue platform _ tick = last at synced sameFrames toSync
      obtain ⟨ok, s₃⟩ := last
      dsimp only at synced sameFrames toSync ⊢
      rw [List.append_nil] at toSync
      have passesOn : s.frames.Passes tick.arrivals.flatten handed s₃.frames :=
        sameFrames ▸ passes
      cases ok with
      | false => exact failWrite handed toSync passesOn made
      | true =>
        exact .finished (first ++ second) s₃ toSync handed passesOn (made.all rfl)
          (made.noneThrew rfl) isFull rfl

/-- The open file is closed, and the next one was looked for. -/
structure Replaced (platform : LogPlatform) (s after : LogWriterService) : Prop where
  kept : Kept platform after
  history : after.history = []
  closed : ∃ file, after.closed = s.closed ++ [file] ∧ file.path = s.filePath ∧
    file.history = s.history
  session : SameSession s after
  leaves : Leaves s after
  ends : EndsRecorded platform s → EndsRecorded platform after

/-- How a rotation ends. -/
inductive Rotated (platform : LogPlatform) (s : LogWriterService) :
    Option LoggingStatusReason × LogWriterService → Prop
  | noSpace : Rotated platform s (some .noSpace, s)
  | failed (after : LogWriterService) (replaced : Replaced platform s after) (idle : Idle after) :
    Rotated platform s (some .rotationFailed, after)
  | opened (after : LogWriterService) (replaced : Replaced platform s after)
    (writing : Writing platform after) : Rotated platform s (none, after)

/-- What is counted and planned plays no part. -/
private theorem Closed.withTask {isFinalized : Bool} {after : LogWriterService}
    (closes : Closed platform s (isFinalized, after)) (task : LogWriterTask)
    (isRunning : task.isRunning = after.task.isRunning) :
    Closed platform s (isFinalized, { after with task }) where
  idle := ⟨closes.idle.hasStream, closes.idle.logger, closes.idle.openPath, closes.idle.openBytes,
    closes.idle.history⟩
  kept := ⟨closes.kept.content, closes.kept.readable, closes.kept.fresh⟩
  closed := closes.closed
  ends := closes.ends
  session := ⟨closes.session.isStarted, closes.session.isScheduled, closes.session.hasFailed,
    closes.session.published, closes.session.frames, closes.session.sensorIdHashes,
    isRunning.trans closes.session.isRunning⟩
  leaves := closes.leaves

private theorem Opened.withTask {ok : Bool} {after : LogWriterService}
    (opens : Opened platform s (ok, after)) (task : LogWriterTask)
    (isRunning : task.isRunning = after.task.isRunning) :
    Opened platform s (ok, { after with task }) where
  writing isOpen := (opens.writing isOpen).of_same rfl rfl rfl rfl rfl rfl rfl rfl
  idle isShut :=
    have idle := opens.idle isShut
    ⟨idle.hasStream, idle.logger, idle.openPath, idle.openBytes, idle.history⟩
  kept := ⟨opens.kept.content, opens.kept.readable, opens.kept.fresh⟩
  history := opens.history
  closed := opens.closed
  endTimes := opens.endTimes
  session := ⟨opens.session.isStarted, opens.session.isScheduled, opens.session.hasFailed,
    opens.session.published, opens.session.frames, opens.session.sensorIdHashes,
    isRunning.trans opens.session.isRunning⟩
  leaves := opens.leaves

private theorem Closed.replaced {isFinalized ok : Bool} {middle after : LogWriterService}
    (closes : Closed platform s (isFinalized, middle))
    (opens : Opened platform middle (ok, after)) : Replaced platform s after where
  kept := opens.kept
  history := opens.history
  closed := by
    obtain ⟨file, isLast, path, history, -⟩ := closes.closed
    exact ⟨file, opens.closed.trans isLast, path, history⟩
  session := closes.session.trans opens.session
  leaves := closes.leaves.trans opens.leaves
  ends ends := by
    have recorded := closes.ends ends
    unfold EndsRecorded at recorded ⊢
    rw [opens.closed, opens.endTimes]
    exact recorded

theorem rotateFile_spec (writing : Writing platform s) (kept : Kept platform s)
    (tick : WriterTick) : Rotated platform s (s.rotateFile platform tick) := by
  have closes := closeLogFile_spec writing kept
  unfold rotateFile
  split_ifs with noSpace
  · exact .noSpace
  generalize s.closeLogFile platform = result at closes
  obtain ⟨isFinalized, middle⟩ := result
  dsimp only
  have counts : Closed platform s (isFinalized, if isFinalized = true then middle
      else { middle with task.stats.writeErrors := middle.task.stats.writeErrors + 1 }) := by
    split_ifs
    · exact closes
    · exact closes.withTask _ rfl
  generalize (if isFinalized = true then middle else _) = counted at counts
  have opens := openLogFile_spec counts.idle counts.kept counted.task.lastTickTime
    tick.toFileOpening
  generalize counted.openLogFile platform _ _ = result at opens
  obtain ⟨ok, after⟩ := result
  cases ok with
  | false =>
    have fails := opens.withTask { after.task with
      stats.writeErrors := after.task.stats.writeErrors + 1 } rfl
    exact .failed _ (counts.replaced fails) (fails.idle rfl)
  | true =>
    have succeeds := opens.withTask { after.task with
      isRotationDue := false
      lastSyncMs := tick.rotationMs
      stats.rotations := after.task.stats.rotations + 1 } rfl
    exact .opened _ (counts.replaced succeeds) (succeeds.writing rfl)

/-! ### Runs -/

/-- What holds of the files of a writer at all times. -/
structure FilesSound (platform : LogPlatform) (s : LogWriterService) : Prop where
  kept : Kept platform s
  file : Writing platform s ∨ Idle s
  ends : EndsRecorded platform s

/-- What holds of a writer at all times. -/
structure Sound (platform : LogPlatform) (s : LogWriterService) : Prop
    extends FilesSound platform s where
  /-- A session that did not fail has its next tick scheduled. -/
  scheduled : s.isScheduled = true ↔ s.isStarted = true ∧ s.hasFailed = false
  running : s.isScheduled = true → s.task.isRunning = true ∧ s.hasStream = true
  stopped : s.isStarted = false → s.hasStream = false

theorem FilesSound.writing (sound : FilesSound platform s) (isOpen : s.hasStream = true) :
    Writing platform s := by
  rcases sound.file with writing | idle
  · exact writing
  · exact absurd (idle.hasStream.symm.trans isOpen) Bool.false_ne_true

theorem FilesSound.idle (sound : FilesSound platform s) (isShut : s.hasStream = false) :
    Idle s := by
  rcases sound.file with writing | idle
  · exact absurd (writing.hasStream.symm.trans isShut) (by decide)
  · exact idle

/-- The parts of a state that the files are about. -/
private theorem FilesSound.of_same (sound : FilesSound platform s)
    (file : Writing platform s' ∨ Idle s') (hasStream : s'.hasStream = s.hasStream)
    (path : s'.filePath = s.filePath) (volume : s'.volume = s.volume)
    (closed : s'.closed = s.closed) (ends : s'.endTimes = s.endTimes) :
    FilesSound platform s' where
  kept := by
    refine ⟨?_, ?_, ?_⟩
    · rw [closed, volume]
      exact sound.kept.content
    · rw [closed]
      exact sound.kept.readable
    · rw [closed, hasStream, path]
      exact sound.kept.fresh
  file := file
  ends := by
    unfold EndsRecorded
    rw [closed, ends]
    exact sound.ends

private theorem Idle.of_same (idle : Idle s) (hasStream : s'.hasStream = s.hasStream)
    (logger : s'.logger = s.logger) (openPath : s'.openFilePath = s.openFilePath)
    (openBytes : s'.openFileBytes = s.openFileBytes) (history : s'.history = s.history) :
    Idle s' where
  hasStream := hasStream.trans idle.hasStream
  logger := by
    rw [logger]
    exact idle.logger
  openPath := openPath.trans idle.openPath
  openBytes := openBytes.trans idle.openBytes
  history := history.trans idle.history

private theorem FilesSound.continues {new : List LogEntry} (sound : FilesSound platform s)
    (continues : Continues platform s s' new) : FilesSound platform s' := by
  have writing := continues.writing
  obtain ⟨logger, frames, task, rfl⟩ := continues.state
  exact sound.of_same (.inl writing) rfl rfl rfl rfl rfl

private theorem FilesSound.replaced (sound : FilesSound platform s)
    (replaced : Replaced platform s s') (file : Writing platform s' ∨ Idle s') :
    FilesSound platform s' :=
  ⟨replaced.kept, file, replaced.ends sound.ends⟩

private theorem FilesSound.withFrames (sound : FilesSound platform s) (frames : RawCanQueue)
    (sensorIdHashes : List UInt32) : FilesSound platform { s with frames, sensorIdHashes } := by
  refine sound.of_same ?_ rfl rfl rfl rfl rfl
  exact sound.file.imp (fun writing => writing.of_same rfl rfl rfl rfl rfl rfl rfl rfl)
    fun idle => idle.of_same rfl rfl rfl rfl rfl

private theorem FilesSound.pushFrames (sound : FilesSound platform s)
    (records : List RawCanRecord) : FilesSound platform (s.pushFrames records) :=
  sound.withFrames _ _

/-- A session that ended waits for the stop. -/
private theorem FilesSound.endSession (sound : FilesSound platform s)
    (isStarted : s.isStarted = true) (reason : LoggingStatusReason) :
    Sound platform (s.endSession reason) where
  toFilesSound := by
    refine sound.of_same ?_ rfl rfl rfl rfl rfl
    exact sound.file.imp (fun writing => writing.of_same rfl rfl rfl rfl rfl rfl rfl rfl)
      fun idle => idle.of_same rfl rfl rfl rfl rfl
  scheduled := by simp [LogWriterService.endSession, publishStatus]
  running isScheduled := absurd isScheduled Bool.false_ne_true
  stopped isStopped := absurd (isStopped.symm.trans isStarted) Bool.false_ne_true

/-- A tick that writes to the open file. -/
private theorem FilesSound.ticked (sound : FilesSound platform s) (isStarted : s.isStarted = true)
    (hasFailed : s.hasFailed = false) (isRunning : s.task.isRunning = true) {tick : WriterTick}
    (ticked : Ticked platform s tick s') : Sound platform s' := by
  cases ticked with
  | failed new middle continues handed passes calls ends =>
    subst ends
    refine (sound.continues continues).endSession ?_ _
    obtain ⟨logger, frames, task, rfl⟩ := continues.state
    exact isStarted
  | finished new middle continues handed passes calls noneThrew isDrainFull ends =>
    subst ends
    have files := sound.continues continues
    have running := continues.isRunning.trans isRunning
    have writing := continues.writing
    obtain ⟨logger, frames, task, rfl⟩ := continues.state
    exact {
      toFilesSound := files.of_same (.inl (writing.of_same rfl rfl rfl rfl rfl rfl rfl rfl)) rfl rfl
        rfl rfl rfl
      scheduled := iff_of_true rfl ⟨isStarted, hasFailed⟩
      running := fun _ => ⟨running, writing.hasStream⟩
      stopped := fun isStopped => absurd (isStopped.symm.trans isStarted) Bool.false_ne_true }

/-- What a tick does: it cannot replace the file, or it writes to the next file or to the one that
is open. -/
inductive TickRun (platform : LogPlatform) (s : LogWriterService) (tick : WriterTick) :
    LogWriterService → Prop
  | noSpace : TickRun platform s tick ((s.pushFrames tick.arrivals.flatten).endSession .noSpace)
  | notOpened (middle : LogWriterService) (replaced : Replaced platform s middle)
      (idle : Idle middle) :
    TickRun platform s tick
      ((middle.pushFrames tick.arrivals.flatten).endSession .rotationFailed)
  | nextFile (middle after : LogWriterService) (replaced : Replaced platform s middle)
      (writing : Writing platform middle) (ticked : Ticked platform middle tick after) :
    TickRun platform s tick after
  | sameFile (after : LogWriterService) (ticked : Ticked platform s tick after) :
    TickRun platform s tick after

theorem Sound.processTick_cases (sound : Sound platform s) (isScheduled : s.isScheduled = true)
    (tick : WriterTick) : TickRun platform s tick (s.processTick platform tick) := by
  obtain ⟨isRunning, isOpen⟩ := sound.running isScheduled
  have writing := sound.writing isOpen
  unfold LogWriterService.processTick
  rw [isRunning]
  simp only [Bool.not_true, Bool.false_eq_true, if_false]
  split_ifs with due
  · have rotates := rotateFile_spec writing sound.kept tick
    generalize s.rotateFile platform tick = result at rotates
    cases rotates with
    | noSpace => exact .noSpace
    | failed middle replaced idle => exact .notOpened middle replaced idle
    | opened middle replaced writing' =>
      exact .nextFile middle _ replaced writing' (writeTick_spec writing' tick)
  · exact .sameFile _ (writeTick_spec writing tick)

theorem Sound.processTick (sound : Sound platform s) (isScheduled : s.isScheduled = true)
    (tick : WriterTick) : Sound platform (s.processTick platform tick) := by
  obtain ⟨isStarted, hasFailed⟩ := sound.scheduled.mp isScheduled
  have isRunning := (sound.running isScheduled).1
  have ran := sound.processTick_cases isScheduled tick
  generalize s.processTick platform tick = after at ran
  cases ran with
  | noSpace => exact (sound.pushFrames _).endSession isStarted _
  | notOpened middle replaced idle =>
    exact ((sound.replaced replaced (.inr idle)).pushFrames _).endSession
      (replaced.session.isStarted.trans isStarted) _
  | nextFile middle _ replaced writing ticked =>
    exact (sound.replaced replaced (.inl writing)).ticked
      (replaced.session.isStarted.trans isStarted) (replaced.session.hasFailed.trans hasFailed)
      (replaced.session.isRunning.trans isRunning) ticked
  | sameFile _ ticked => exact sound.ticked isStarted hasFailed isRunning ticked

/-- What a start does: it is refused, no file can be opened, or a session begins. -/
inductive Started (platform : LogPlatform) (s : LogWriterService) (request : StartRequest) :
    Bool × LogWriterService → Prop
  | refused : Started platform s request (false, s)
  | noLogger : Started platform s request (false, { s with logger := none })
  | notOpened (l : LoggerTargets) (after : LogWriterService) (given : request.logger = some l)
      (opens : (s.prepare platform l).openLogFile platform request.startTime
        request.toFileOpening = (false, after)) :
    Started platform s request (false, after)
  | opened (l : LoggerTargets) (after : LogWriterService) (given : request.logger = some l)
      (opens : (s.prepare platform l).openLogFile platform request.startTime
        request.toFileOpening = (true, after))
      (configuration : WriterConfiguration) :
    Started platform s request (true, { after.publishStatus .active with
      task := after.startTask platform request configuration
      hasFailed := false
      isSessionActive := true
      sessionSinceMs := platform.toMs request.startTime
      isScheduled := true })

theorem doStart_cases (platform : LogPlatform) (s : LogWriterService) (request : StartRequest) :
    Started platform s request (s.doStart platform request) := by
  unfold doStart
  by_cases unavailable : (!(request.isAvailable && request.hasDirectory)) = true
  · rw [if_pos unavailable]
    exact .refused
  rw [if_neg unavailable]
  cases request.configuration with
  | none => exact .refused
  | some configuration =>
    dsimp only
    by_cases noSpace : (!platform.hasMinimumFreeSpace request.totalBytes request.usedBytes) = true
    · rw [if_pos noSpace]
      exact .refused
    rw [if_neg noSpace]
    cases given : request.logger with
    | none => exact .noLogger
    | some l =>
      dsimp only
      generalize opens : (s.prepare platform l).openLogFile platform _ _ = result
      obtain ⟨ok, after⟩ := result
      cases ok with
      | false => exact .notOpened l after given opens
      | true => exact .opened l after given opens configuration

/-- What the opening of the first file finds is a logger that writes nothing yet. -/
theorem Sound.opened (sound : Sound platform s) (isStopped : s.isStarted = false)
    {l : LoggerTargets} (made : l.Sound) (startTime : ℤ) (opening : FileOpening) :
    Opened platform (s.prepare platform l)
      ((s.prepare platform l).openLogFile platform startTime opening) := by
  have idle := sound.idle (sound.stopped isStopped)
  have prepared : Idle (s.prepare platform l) := by
    refine ⟨idle.hasStream, fun l' logger same => ?_, idle.openPath, idle.openBytes, idle.history⟩
    obtain ⟨rfl, rfl⟩ := Prod.mk.inj (Option.some.inj same)
    exact ⟨made, LoggerTargets.ready_newLogger l⟩
  exact openLogFile_spec prepared ⟨sound.kept.content, sound.kept.readable, sound.kept.fresh⟩ _ _

theorem Sound.start (sound : Sound platform s) {request : StartRequest}
    (given : ∀ l, request.logger = some l → l.Sound) :
    Sound platform (s.start platform request) := by
  unfold LogWriterService.start
  split_ifs with already
  · exact sound
  rw [Bool.not_eq_true] at already
  have idle := sound.idle (sound.stopped already)
  have notScheduled : s.isScheduled = false := by
    rw [Bool.eq_false_iff]
    exact fun isScheduled => absurd (sound.scheduled.mp isScheduled).1 (by rw [already]; decide)
  -- what a refused start leaves
  have stays {after : LogWriterService} (files : FilesSound platform after)
      (isShut : after.hasStream = false) (isScheduled : after.isScheduled = false) :
      Sound platform { after with isStarted := false } := by
    refine ⟨files.of_same ?_ rfl rfl rfl rfl rfl, ?_, ?_, fun _ => isShut⟩
    · exact .inr ((files.idle isShut).of_same rfl rfl rfl rfl rfl)
    · rw [isScheduled]
      simp
    · rw [isScheduled]
      simp
  have opens (l : LoggerTargets) (isGiven : request.logger = some l) :=
    sound.opened already (given l isGiven) request.startTime request.toFileOpening
  have ends {after : LogWriterService} {ok : Bool} {middle : LogWriterService}
      (opened : Opened platform middle (ok, after)) (closed : middle.closed = s.closed)
      (endTimes : middle.endTimes = s.endTimes) : EndsRecorded platform after := by
    unfold EndsRecorded
    rw [opened.closed, opened.endTimes, closed, endTimes]
    exact sound.ends
  have start := doStart_cases platform s request
  generalize s.doStart platform request = result at start
  cases start with
  | refused => exact stays sound.toFilesSound idle.hasStream notScheduled
  | noLogger =>
    refine stays (sound.of_same (.inr ⟨idle.hasStream, fun _ _ none => ?_, idle.openPath,
      idle.openBytes, idle.history⟩) rfl rfl rfl rfl rfl) idle.hasStream notScheduled
    cases none
  | notOpened l after isGiven result =>
    have opened := opens l isGiven
    rw [result] at opened
    have shut := opened.idle rfl
    exact stays ⟨opened.kept, .inr shut, ends opened rfl rfl⟩ shut.hasStream
      (opened.session.isScheduled.trans notScheduled)
  | opened l after isGiven result configuration =>
    have opened := opens l isGiven
    rw [result] at opened
    have writing := opened.writing rfl
    have files : FilesSound platform after := ⟨opened.kept, .inl writing, ends opened rfl rfl⟩
    exact {
      toFilesSound := files.of_same (.inl (writing.of_same rfl rfl rfl rfl rfl rfl rfl rfl)) rfl rfl
        rfl rfl rfl
      scheduled := iff_of_true rfl ⟨rfl, rfl⟩
      running := fun _ => ⟨rfl, writing.hasStream⟩
      stopped := fun isStopped => absurd isStopped.symm Bool.false_ne_true }

/-- Without a stream there is nothing to close. -/
theorem closeLogFile_of_idle (isShut : s.hasStream = false) :
    s.closeLogFile platform = (false, s.clearOpenFile) := by
  unfold closeLogFile
  rw [isShut]

theorem FilesSound.halt (sound : FilesSound platform s) : FilesSound platform s.halt := by
  refine sound.of_same ?_ rfl rfl rfl rfl rfl
  exact sound.file.imp (fun writing => writing.of_same rfl rfl rfl rfl rfl rfl rfl rfl)
    fun idle => idle.of_same rfl rfl rfl rfl rfl

/-- What a stop does: there is no session, it has no file, or its file is closed. -/
inductive Stopped (platform : LogPlatform) (s : LogWriterService) (reason : LoggingStatusReason) :
    LogWriterService → Prop
  | notStarted (isStopped : s.isStarted = false) : Stopped platform s reason s
  | noFile (isStarted : s.isStarted = true) (isShut : s.hasStream = false) :
    Stopped platform s reason { s.halt.clearOpenFile.publishStatus (.inactive reason) with
      isSessionActive := false
      sessionSinceMs := 0
      isStarted := false }
  | closed (isStarted : s.isStarted = true) (isOpen : s.hasStream = true) (isFinalized : Bool)
      (middle : LogWriterService) (closes : Closed platform s.halt (isFinalized, middle)) :
    Stopped platform s reason { middle.publishStatus (.inactive reason) with
      isSessionActive := false
      sessionSinceMs := 0
      isStarted := false }

theorem Sound.stop_cases (sound : Sound platform s) (reason : LoggingStatusReason) :
    Stopped platform s reason (s.stop platform reason) := by
  unfold LogWriterService.stop
  split_ifs with isStarted
  · unfold doStop
    cases isOpen : s.hasStream with
    | false =>
      rw [closeLogFile_of_idle (s := s.halt) isOpen]
      exact .noFile isStarted isOpen
    | true =>
      exact .closed isStarted isOpen _ _
        (closeLogFile_spec (sound.halt.writing isOpen) sound.halt.kept)
  · exact .notStarted (Bool.eq_false_iff.mpr isStarted)

theorem Sound.stop (sound : Sound platform s) (reason : LoggingStatusReason) :
    Sound platform (s.stop platform reason) := by
  have files := sound.halt
  have ends (after : LogWriterService) (files : FilesSound platform after)
      (isShut : after.hasStream = false) (isScheduled : after.isScheduled = false) :
      Sound platform { after.publishStatus (.inactive reason) with
        isSessionActive := false
        sessionSinceMs := 0
        isStarted := false } := by
    refine ⟨files.of_same ?_ rfl rfl rfl rfl rfl, ?_, ?_, fun _ => isShut⟩
    · exact .inr ((files.idle isShut).of_same rfl rfl rfl rfl rfl)
    · change after.isScheduled = true ↔ _
      rw [isScheduled]
      simp
    · change after.isScheduled = true → _
      rw [isScheduled]
      simp
  have stopped := sound.stop_cases reason
  generalize s.stop platform reason = after at stopped
  cases stopped with
  | notStarted => exact sound
  | noFile isStarted isShut =>
    have idle := files.idle isShut
    exact ends s.halt.clearOpenFile (files.of_same (.inr ⟨isShut, idle.logger, rfl, rfl,
      idle.history⟩) rfl rfl rfl rfl rfl) isShut rfl
  | closed isStarted isOpen isFinalized middle closes =>
    exact ends middle ⟨closes.kept, .inr closes.idle, closes.ends files.ends⟩ closes.idle.hasStream
      closes.session.isScheduled

theorem Sound.fileChange (sound : Sound platform s) (path : List Char)
    (content : Option (List UInt8)) : Sound platform (s.fileChange path content) := by
  unfold LogWriterService.fileChange
  split_ifs with isOpen
  · exact sound
  have other : entryOf s.openFilePath ≠ entryOf path := by
    intro same
    refine isOpen ((isSameEntryIgnoringCase_iff _ _).mpr ?_)
    exact same.symm
  refine ⟨⟨⟨?_, ?_, ?_⟩, ?_, ?_⟩, sound.scheduled, sound.running, sound.stopped⟩
  · intro file member isKept
    obtain ⟨before, earlier, rfl⟩ := List.mem_map.mp member
    simp only [Bool.or_eq_false_iff, decide_eq_false_iff_not] at isKept
    dsimp only
    rw [Function.update_of_ne isKept.2]
    exact sound.kept.content before earlier isKept.1
  · intro file member isFinalized
    obtain ⟨before, earlier, rfl⟩ := List.mem_map.mp member
    exact sound.kept.readable before earlier isFinalized
  · intro hasStream file member isKept
    obtain ⟨before, earlier, rfl⟩ := List.mem_map.mp member
    simp only [Bool.or_eq_false_iff] at isKept
    exact sound.kept.fresh hasStream before earlier isKept.1
  · rcases sound.file with writing | idle
    · refine .inl ⟨writing.hasStream, writing.logger, writing.openPath, ?_⟩
      unfold LogWriterService.exists_
      dsimp only
      rw [Function.update_of_ne (by rw [← writing.openPath]; exact other)]
      exact writing.exists_
    · exact .inr (idle.of_same rfl rfl rfl rfl rfl)
  · unfold EndsRecorded
    dsimp only
    rw [List.filter_map, List.forall₂_map_right_iff]
    exact sound.ends

theorem Sound.step (sound : Sound platform s) {step : WriterStep}
    (given : ∀ request l, step = .start request → request.logger = some l → l.Sound) :
    Sound platform (s.step platform step) := by
  cases step with
  | start request => exact sound.start fun l => given request l rfl
  | tick tick =>
    unfold LogWriterService.step
    dsimp only
    split_ifs with isScheduled
    · exact sound.processTick isScheduled tick
    · exact sound
  | stop reason => exact sound.stop reason
  | frame record =>
    exact ⟨sound.pushFrames [record], sound.scheduled, sound.running, sound.stopped⟩
  | clearReadings =>
    exact ⟨sound.withFrames _ _, sound.scheduled, sound.running, sound.stopped⟩
  | configure sensorIdHashes hasFrameSensor =>
    exact ⟨sound.withFrames _ _, sound.scheduled, sound.running, sound.stopped⟩
  | fileChange path content => exact sound.fileChange path content

end LogWriterService

end RtCore.Logging
