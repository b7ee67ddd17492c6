import Mathlib.Data.List.Chain
import Mathlib.Data.List.ReduceOption
import RtCore.Foundation.Run
import RtCore.Logging.Mdf4Logger

/-!
# The times of records

The master time of a group of records strictly increases, whatever the order in which readings come
and whatever timestamps they carry. A reading is new when it has no timestamp of its own, or another
one than the last reading that had one; a new reading is always recorded. A held reading is recorded
again only where that is asked for and only at a tick after the last record.

## Main definitions

* `LogEntry`, `Logger.logCall` — the calls of a file and how they ended
* `recordTimes`, `timestamps` — the records of a sensor and the timestamps of its readings
* `TimedBy` — the time that one call gives its reading

## Main results

* `Logger.timed_logCall` — the times of a sensor's records, in every run of calls
-/

namespace RtCore.Logging

open RtCore.Foundation

/-- A call of `LogReading`. -/
structure LogCall where
  time : ℤ
  reading : LoggerReading

/-- A call and how it ended. -/
structure LogEntry where
  call : LogCall
  answer : LogAnswer

namespace LogCall

/-- The time the reading was taken, if it has one. -/
def timestamp (call : LogCall) : Option ℤ := call.reading.timestamp

/-- The time of a reading, the tick's when it has none. -/
def ownTime (call : LogCall) : ℤ := call.timestamp.getD call.time

end LogCall

/-- The times of the records in the group of a sensor. -/
def recordTimes (sensor : UInt32) (history : List LogEntry) : List ℤ :=
  history.filterMap fun entry => (entry.answer.written.filter fun record =>
    record.sensorIdHash = sensor).map LogRecord.recordTime

/-- The call did not throw. -/
def LogEntry.returned (entry : LogEntry) : Bool :=
  match entry.answer with
  | .threw _ => false
  | _ => true

/-- The timestamps of the readings of a sensor, without those whose record was not taken. -/
def timestamps (sensor : UInt32) (history : List LogEntry) : List (Option ℤ) :=
  (history.filter fun entry => entry.call.reading.sensorIdHash = sensor && entry.returned).map
    fun entry => entry.call.timestamp

/-- The time of a new sample after the record before it. -/
def nextTime (clock : SystemClock) (last : Option ℤ) (ownTime : ℤ) : ℤ :=
  match last with
  | none => ownTime
  | some last => if last < ownTime then ownTime else last + clock.minRecordTimeStep

/-- A call for a value sensor, given the timestamp that marks a repeat, the time of the sensor's
last record and the time of the reading: a new sample goes to the writer, a repeat when
`logOnlyNewData` is not set and its tick is after the last record. -/
structure TimedBy (clock : SystemClock) (logOnlyNewData : Bool) (previous last : Option ℤ)
    (ownTime : ℤ) (entry : LogEntry) : Prop where
  new : entry.call.timestamp = none ∨ entry.call.timestamp ≠ previous →
    entry.answer.record.map LogRecord.recordTime = some (nextTime clock last ownTime)
  held : entry.call.timestamp ≠ none → entry.call.timestamp = previous → logOnlyNewData = true →
    entry.answer = .rejected
  repeated : entry.call.timestamp ≠ none → entry.call.timestamp = previous →
    logOnlyNewData = false → entry.answer.record.map LogRecord.recordTime =
      last.bind fun last => if last < entry.call.time then some entry.call.time else none

/-- The records of a value sensor in a file: their times strictly increase, and each call for the
sensor follows `TimedBy`. -/
structure Timed (clock : SystemClock) (sensor : UInt32) (logOnlyNewData : Bool)
    (previous : List (Option ℤ) → Option ℤ) (ownTime : LogCall → ℤ) (history : List LogEntry) :
    Prop where
  increasing : (recordTimes sensor history).Pairwise (· < ·)
  calls : ∀ earlier entry later, history = earlier ++ entry :: later →
    entry.call.reading.sensorIdHash = sensor →
      TimedBy clock logOnlyNewData (previous (timestamps sensor earlier))
        (recordTimes sensor earlier).getLast? (ownTime entry.call) entry

/-- The timestamp of the last reading, none when it had none. -/
def ofLast (timestamps : List (Option ℤ)) : Option ℤ := timestamps.getLast?.join

/-- The timestamp of the last reading that had one. -/
def lastOwn (timestamps : List (Option ℤ)) : Option ℤ := timestamps.reduceOption.getLast?

namespace Logger

variable {σ : Type}

/-- A call, with the history of the calls. -/
def logCall (clock : SystemClock) (file : LogFile σ) (state : Logger σ × List LogEntry)
    (call : LogCall) : Logger σ × List LogEntry :=
  let (answer, logger) := logReading clock file call.time call.reading state.1
  (logger, state.2 ++ [⟨call, answer⟩])

/-- The calls of a file after `StartLogging`, and how they ended. -/
def logCalls (clock : SystemClock) (file : LogFile σ) (logger : Logger σ) (calls : List LogCall) :
    List LogEntry :=
  (run (logCall clock file) (logger, []) calls).2

end Logger

/-! ### One call -/

section

theorem lt_nextTime (clock : SystemClock) {last : Option ℤ} (ownTime : ℤ) :
    ∀ time ∈ last, time < nextTime clock last ownTime := by
  rintro time ⟨⟩
  have forward := clock.forward
  simp only [nextTime]
  split_ifs <;> omega

variable {clock : SystemClock} {startTime time : ℤ} {timestamp : Option ℤ} {target : LogTarget}

theorem LogTarget.isRepeat_eq_true :
    target.isRepeat timestamp = true ↔ timestamp ≠ none ∧ timestamp = target.lastTimestamp := by
  simp [isRepeat]

/-- A new sample is recorded. -/
theorem LogTarget.valueRecordTime_of_new (new : target.isRepeat timestamp = false) :
    target.valueRecordTime clock startTime time timestamp =
      some (nextTime clock target.lastRecordTime (max (timestamp.getD time) startTime)) := by
  unfold valueRecordTime
  simp only [new, Bool.false_and, Bool.false_eq_true, if_false]
  cases target.lastRecordTime with
  | none => rfl
  | some last =>
    simp only [nextTime]
    split_ifs <;> first | rfl | omega

/-- A repeat is recorded at its tick, where repeats are recorded and the tick is after the last
record. -/
theorem LogTarget.valueRecordTime_of_repeat (same : target.isRepeat timestamp = true) {last : ℤ}
    (recorded : target.lastRecordTime = some last) :
    target.valueRecordTime clock startTime time timestamp =
      if target.logOnlyNewData = false ∧ last < time then some time else none := by
  unfold valueRecordTime
  simp only [same, Bool.true_and, if_true, recorded]
  cases target.logOnlyNewData <;> simp only [Bool.false_eq_true, if_false, if_true, true_and]
  · split_ifs <;> first | rfl | omega
  · simp

end

/-! ### Histories -/

theorem lastOwn_concat (timestamps : List (Option ℤ)) (timestamp : Option ℤ) :
    lastOwn (timestamps ++ [timestamp]) =
      if timestamp ≠ none then timestamp else lastOwn timestamps := by
  cases timestamp <;> simp [lastOwn, List.reduceOption_append]

section

variable {sensor : UInt32} {history : List LogEntry} {entry : LogEntry}

theorem recordTimes_concat (sensor : UInt32) (history : List LogEntry) (entry : LogEntry) :
    recordTimes sensor (history ++ [entry]) =
      recordTimes sensor history ++ recordTimes sensor [entry] :=
  List.filterMap_append

theorem timestamps_concat (sensor : UInt32) (history : List LogEntry) (entry : LogEntry) :
    timestamps sensor (history ++ [entry]) =
      timestamps sensor history ++ timestamps sensor [entry] := by
  simp only [timestamps, List.filter_append, List.map_append]

/-- A call that writes nothing for a sensor. -/
theorem recordTimes_of_no_record
    (foreign : ∀ record ∈ entry.answer.written, record.sensorIdHash ≠ sensor) :
    recordTimes sensor [entry] = [] := by
  cases written : entry.answer.written with
  | none => simp [recordTimes, written]
  | some record => simp [recordTimes, written, foreign record written]

theorem recordTimes_of_logged {record : LogRecord} (logged : entry.answer = .logged record)
    (own : record.sensorIdHash = sensor) : recordTimes sensor [entry] = [record.recordTime] := by
  simp [recordTimes, LogAnswer.written, logged, own]

theorem timestamps_of_returned (own : entry.call.reading.sensorIdHash = sensor)
    (returned : entry.returned = true) : timestamps sensor [entry] = [entry.call.timestamp] := by
  simp [timestamps, own, returned]

theorem timestamps_of_threw (threw : entry.returned = false) : timestamps sensor [entry] = [] := by
  simp [timestamps, threw]

theorem timestamps_of_other (other : entry.call.reading.sensorIdHash ≠ sensor) :
    timestamps sensor [entry] = [] := by
  simp [timestamps, other]

/-- One more time after the last keeps times increasing. -/
theorem pairwise_lt_concat {times : List ℤ} {time : ℤ} (increasing : times.Pairwise (· < ·))
    (after : ∀ last ∈ times.getLast?, last < time) : (times ++ [time]).Pairwise (· < ·) := by
  rw [← List.isChain_iff_pairwise] at increasing ⊢
  refine List.isChain_append.mpr ⟨increasing, .singleton _, ?_⟩
  rintro last isLast next ⟨⟩
  exact after last isLast

/-- One more call that follows the rule keeps a history timed. -/
theorem Timed.concat {clock : SystemClock} {logOnlyNewData : Bool}
    {previous : List (Option ℤ) → Option ℤ} {ownTime : LogCall → ℤ}
    (timed : Timed clock sensor logOnlyNewData previous ownTime history)
    (increasing : (recordTimes sensor (history ++ [entry])).Pairwise (· < ·))
    (follows : entry.call.reading.sensorIdHash = sensor →
      TimedBy clock logOnlyNewData (previous (timestamps sensor history))
        (recordTimes sensor history).getLast? (ownTime entry.call) entry) :
    Timed clock sensor logOnlyNewData previous ownTime (history ++ [entry]) := by
  refine ⟨increasing, fun earlier other later split own => ?_⟩
  rcases List.eq_nil_or_concat later with rfl | ⟨later, final, rfl⟩
  · obtain ⟨rfl, same⟩ := List.append_inj' split rfl
    obtain rfl : entry = other := List.head_eq_of_cons_eq same
    exact follows own
  · rw [List.concat_eq_append, ← List.cons_append, ← List.append_assoc] at split
    obtain ⟨rfl, -⟩ := List.append_inj' split rfl
    exact timed.calls earlier other later rfl own

end

/-- A target of a file, after the calls of a history. -/
def LogTarget.after (sensor : UInt32) (history : List LogEntry) (target : LogTarget) : LogTarget :=
  { target with
    lastTimestamp := lastOwn (timestamps sensor history)
    lastRecordTime := (recordTimes sensor history).getLast? }

namespace Logger

variable {σ : Type} {clock : SystemClock} {file : LogFile σ} {start : ℤ} {sensor : UInt32}
  {target : LogTarget} {logger : Logger σ} {history : List LogEntry} {call : LogCall}

/-- What the logger keeps of a value sensor is what the calls of the file say. -/
structure Follows (clock : SystemClock) (start : ℤ) (sensor : UInt32) (target : LogTarget)
    (state : Logger σ × List LogEntry) : Prop where
  isLogging : state.1.isLogging = true
  startTime : state.1.startTime = start
  kept : state.1.targets sensor = some (target.after sensor state.2)
  recorded : lastOwn (timestamps sensor state.2) ≠ none → recordTimes sensor state.2 ≠ []
  timed : Timed clock sensor target.logOnlyNewData lastOwn (max ·.ownTime start) state.2

/-- The call of another sensor. -/
theorem Follows.other (follows : Follows clock start sensor target (logger, history))
    (foreign : call.reading.sensorIdHash ≠ sensor) :
    Follows clock start sensor target (logCall clock file (logger, history) call) := by
  have touches := logReading_touches clock file call.time call.reading logger
  unfold logCall
  cases called : logReading clock file call.time call.reading logger with
  | mk answer after =>
    rw [called] at touches
    have noTime : recordTimes sensor [⟨call, answer⟩] = [] := by
      refine recordTimes_of_no_record fun record written => ?_
      rw [touches.record record (LogAnswer.record_of_written written)]
      exact foreign
    have sameTimes :
        recordTimes sensor (history ++ [⟨call, answer⟩]) = recordTimes sensor history := by
      rw [recordTimes_concat, noTime, List.append_nil]
    have sameStamps :
        timestamps sensor (history ++ [⟨call, answer⟩]) = timestamps sensor history := by
      rw [timestamps_concat, timestamps_of_other foreign, List.append_nil]
    refine ⟨touches.isLogging.trans follows.isLogging, touches.startTime.trans follows.startTime,
      ?_, ?_, ?_⟩
    · rw [touches.others sensor (Ne.symm foreign), follows.kept]
      simp only [LogTarget.after, sameTimes, sameStamps]
    · rw [sameTimes, sameStamps]
      exact follows.recorded
    · refine follows.timed.concat ?_ (absurd · foreign)
      rw [sameTimes]
      exact follows.timed.increasing

/-- A repeat that is not recorded. -/
theorem Follows.rejected (follows : Follows clock start sensor target (logger, history))
    (own : call.reading.sensorIdHash = sensor)
    (same : (target.after sensor history).isRepeat call.timestamp = true)
    (rule : TimedBy clock target.logOnlyNewData (lastOwn (timestamps sensor history))
      (recordTimes sensor history).getLast? (max call.ownTime start) ⟨call, .rejected⟩) :
    Follows clock start sensor target (logger, history ++ [⟨call, .rejected⟩]) := by
  have sameTimes :
      recordTimes sensor (history ++ [⟨call, .rejected⟩]) = recordTimes sensor history := by
    rw [recordTimes_concat, recordTimes_of_no_record (by rintro _ ⟨⟩), List.append_nil]
  obtain ⟨present, equal⟩ := LogTarget.isRepeat_eq_true.mp same
  have sameOwn : lastOwn (timestamps sensor (history ++ [⟨call, .rejected⟩])) =
      lastOwn (timestamps sensor history) := by
    rw [timestamps_concat, timestamps_of_returned own rfl, lastOwn_concat, if_pos present]
    exact equal
  refine ⟨follows.isLogging, follows.startTime, ?_, ?_, ?_⟩
  · rw [follows.kept]
    simp only [LogTarget.after, sameTimes, sameOwn]
  · rw [sameTimes, sameOwn]
    exact follows.recorded
  · refine follows.timed.concat ?_ fun _ => rule
    rw [sameTimes]
    exact follows.timed.increasing

/-- A record after the last one, whether the writer takes it or throws. -/
theorem Follows.record (follows : Follows clock start sensor target (logger, history))
    (own : call.reading.sensorIdHash = sensor) {recordTime : ℤ}
    (later : ∀ last ∈ (recordTimes sensor history).getLast?, last < recordTime)
    (rule : ∀ answer : LogAnswer, answer.record.map LogRecord.recordTime = some recordTime →
      TimedBy clock target.logOnlyNewData (lastOwn (timestamps sensor history))
        (recordTimes sensor history).getLast? (max call.ownTime start) ⟨call, answer⟩) :
    Follows clock start sensor target
      ((logger.recordValue clock file call.reading (target.after sensor history) recordTime).2,
        history ++ [⟨call, (logger.recordValue clock file call.reading
          (target.after sensor history) recordTime).1⟩]) := by
  obtain ⟨touches, record, time, ends⟩ := recordValue_spec clock file call.reading
    (target.after sensor history) recordTime logger
  cases called : logger.recordValue clock file call.reading (target.after sensor history)
      recordTime with
  | mk answer after =>
    rw [called] at touches ends
    have isLogging := touches.isLogging.trans follows.isLogging
    have startTime := touches.startTime.trans follows.startTime
    have ruled : answer.record.map LogRecord.recordTime = some recordTime := by
      obtain ⟨rfl, -⟩ | ⟨rfl, -⟩ := ends <;> exact congrArg some time
    -- Only a record that was taken is noted in the target.
    obtain ⟨rfl, kept⟩ | ⟨rfl, kept⟩ := ends
    · have sameTimes : recordTimes sensor (history ++ [⟨call, .threw record⟩]) =
          recordTimes sensor history := by
        rw [recordTimes_concat, recordTimes_of_no_record (by rintro _ ⟨⟩), List.append_nil]
      have sameStamps : timestamps sensor (history ++ [⟨call, .threw record⟩]) =
          timestamps sensor history := by
        rw [timestamps_concat, timestamps_of_threw rfl, List.append_nil]
      refine ⟨isLogging, startTime, ?_, ?_, follows.timed.concat ?_ fun _ => rule _ ruled⟩
      · rw [kept, follows.kept]
        simp only [LogTarget.after, sameTimes, sameStamps]
      · rw [sameTimes, sameStamps]
        exact follows.recorded
      · rw [sameTimes]
        exact follows.timed.increasing
    · have newTimes : recordTimes sensor (history ++ [⟨call, .logged record⟩]) =
          recordTimes sensor history ++ [recordTime] := by
        rw [recordTimes_concat, recordTimes_of_logged rfl ((touches.record record rfl).trans own),
          time]
      have newStamps : timestamps sensor (history ++ [⟨call, .logged record⟩]) =
          timestamps sensor history ++ [call.timestamp] := by
        rw [timestamps_concat, timestamps_of_returned own rfl]
      refine ⟨isLogging, startTime, ?_, ?_, follows.timed.concat ?_ fun _ => rule _ ruled⟩
      · rw [own] at kept
        rw [kept]
        simp only [LogTarget.noteRecord, LogTarget.after, newTimes, newStamps, lastOwn_concat,
          List.getLast?_concat]
        rfl
      · rw [newTimes]
        exact fun _ => List.append_ne_nil_of_right_ne_nil _ (List.cons_ne_nil _ _)
      · rw [newTimes]
        exact pairwise_lt_concat follows.timed.increasing later

/-- A call keeps what the logger knows of a value sensor in step with the calls. -/
theorem Follows.logCall (isValue : target.kind ≠ .canFrame)
    (follows : Follows clock start sensor target (logger, history)) (call : LogCall) :
    Follows clock start sensor target (logCall clock file (logger, history) call) := by
  by_cases own : call.reading.sensorIdHash = sensor
  swap
  · exact follows.other own
  have kept := follows.kept
  rw [← own] at kept
  unfold Logger.logCall
  dsimp only
  rw [logReading_value clock file call.time follows.isLogging kept isValue, own, follows.startTime]
  cases same : (target.after sensor history).isRepeat call.timestamp with
  | false =>
    rw [show call.reading.timestamp = call.timestamp from rfl,
      LogTarget.valueRecordTime_of_new same]
    refine follows.record own (lt_nextTime clock _) fun answer recorded => ?_
    have differs (present : call.timestamp ≠ none)
        (equal : call.timestamp = lastOwn (timestamps sensor history)) : False :=
      Bool.false_ne_true (same.symm.trans (LogTarget.isRepeat_eq_true.mpr ⟨present, equal⟩))
    exact ⟨fun _ => recorded, fun present equal => absurd equal (differs present),
      fun present equal => absurd equal (differs present)⟩
  | true =>
    obtain ⟨present, equal⟩ := LogTarget.isRepeat_eq_true.mp same
    -- a repeat follows a record, that of the first reading with its timestamp
    obtain ⟨last, isLast⟩ : ∃ last, (recordTimes sensor history).getLast? = some last :=
      Option.ne_none_iff_exists'.mp
        (List.getLast?_eq_none_iff.not.mpr
          (follows.recorded fun missing => present (equal.trans missing)))
    have new : ¬ (call.timestamp = none ∨ call.timestamp ≠ lastOwn (timestamps sensor history)) :=
      fun either => either.elim present (· equal)
    rw [show call.reading.timestamp = call.timestamp from rfl,
      LogTarget.valueRecordTime_of_repeat same isLast]
    by_cases again : (target.after sensor history).logOnlyNewData = false ∧ last < call.time
    · rw [if_pos again]
      have later : ∀ time ∈ (recordTimes sensor history).getLast?, time < call.time := by
        rw [isLast]
        rintro _ ⟨⟩
        exact again.2
      refine follows.record own later fun answer recorded => ⟨(absurd · new), ?_, ?_⟩
      · exact fun _ _ only => absurd (again.1.symm.trans only) Bool.false_ne_true
      · intro _ _ _
        rw [isLast, Option.bind_some, if_pos again.2]
        exact recorded
    · rw [if_neg again]
      refine follows.rejected own same ⟨(absurd · new), fun _ _ _ => rfl, fun _ _ every => ?_⟩
      rw [isLast, Option.bind_some, if_neg fun after => again ⟨every, after⟩]
      rfl

/-- A started file has no calls yet. -/
theorem follows_startLogging {before : Logger σ}
    (started : startLogging file start before = (some true, logger))
    (found : logger.targets sensor = some target) :
    Follows clock start sensor target (logger, []) := by
  obtain ⟨isLogging, startTime, targets⟩ := startLogging_target started
  rw [targets sensor] at found
  obtain ⟨first, -, rfl⟩ := Option.map_eq_some_iff.mp found
  refine ⟨isLogging, startTime, ?_, fun some => absurd rfl some, .nil,
    fun earlier entry later split => ?_⟩
  · rw [targets sensor, found]
    rfl
  · cases earlier <;> cases split

theorem map_call_run (clock : SystemClock) (file : LogFile σ) (calls : List LogCall)
    (state : Logger σ × List LogEntry) :
    (run (logCall clock file) state calls).2.map LogEntry.call =
      state.2.map LogEntry.call ++ calls := by
  induction calls generalizing state with
  | nil => exact (List.append_nil _).symm
  | cons call calls ih =>
    rw [run_cons, ih, logCall, List.map_append, List.append_assoc]
    rfl

/-- In every run of calls after a start, the times of a value sensor's records strictly increase. A
reading without a timestamp, or with another one than the last reading that had one, goes to the
writer at its own time, the file's start at the earliest, or just after the last record where that
is later. A reading with the timestamp of the last one is recorded at most at a tick after the last
record, and not where only new data is logged. -/
theorem timed_logCalls {before : Logger σ}
    (started : startLogging file start before = (some true, logger))
    (found : logger.targets sensor = some target) (isValue : target.kind ≠ .canFrame)
    (calls : List LogCall) :
    (logCalls clock file logger calls).map LogEntry.call = calls ∧
      Timed clock sensor target.logOnlyNewData lastOwn (max ·.ownTime start)
        (logCalls clock file logger calls) := by
  refine ⟨map_call_run clock file calls (logger, []), ?_⟩
  have follows : Follows clock start sensor target (run (logCall clock file) (logger, []) calls) :=
    run_invariant (follows_startLogging started found)
      (fun state call kept => Follows.logCall isValue kept call) calls
  exact follows.timed

/-! ### Two runs -/

/-- A file that takes every record. -/
def sampleFile : LogFile Unit where
  writeHeader _ _ := (some 0, ())
  sync _ := (true, ())
  write _ _ := (some 0, ())
  finalize _ := (some 0, ())

/-- A clock that was never set again. -/
def sampleClock : SystemClock := ⟨1000, by decide, fun _ => 0⟩

/-- A logger with one value sensor, for new data only. -/
def sampleLogger : Logger Unit where
  targets sensor := if sensor = 1 then some { logOnlyNewData := true } else none
  stream := ()
  isLogging := true

/-- A call at a time, with a reading that may have a time of its own. -/
def sampleCall (time : ℤ) (timestamp : Option ℤ) : LogCall :=
  ⟨time, { sensorIdHash := 1, value := some 0, timestamp, status := .processed }⟩

theorem startLogging_sample :
    startLogging sampleFile 0 sampleLogger = (some true, sampleLogger) := by
  have same : (fun sensor => (sampleLogger.targets sensor).map LogTarget.reset) =
      sampleLogger.targets := by
    funext sensor
    by_cases own : sensor = 1 <;> simp [sampleLogger, own, LogTarget.reset]
  simp only [startLogging, sampleFile, same]
  rfl

theorem timed_logCalls_sample :
    startLogging sampleFile 0 sampleLogger = (some true, sampleLogger) ∧
      Timed sampleClock 1 true lastOwn (max ·.ownTime 0)
        (logCalls sampleClock sampleFile sampleLogger
          [sampleCall 10 (some 5), sampleCall 20 none]) := by
  have found : sampleLogger.targets 1 = some { logOnlyNewData := true } := rfl
  exact ⟨startLogging_sample, (timed_logCalls startLogging_sample found (by decide) _).2⟩

/-- Compared with the timestamp of the previous reading, also when it has none, a reading is lost
that comes again after one without a timestamp; and a reading older than the file is not recorded at
its own time. -/
theorem not_timed_by_previous :
    ¬ Timed sampleClock 1 true ofLast (max ·.ownTime 0)
        (logCalls sampleClock sampleFile sampleLogger
          [sampleCall 10 (some 5), sampleCall 20 none, sampleCall 30 (some 5)]) ∧
      ¬ Timed sampleClock 1 true ofLast (·.ownTime) (logCalls sampleClock sampleFile sampleLogger
        [sampleCall 10 (some (-5))]) := by
  constructor
  · intro timed
    have third := (timed.calls [_, _] _ [] rfl rfl).new
    revert third
    decide
  · intro timed
    have first := (timed.calls [] _ [] rfl rfl).new
    revert first
    decide

end Logger

end RtCore.Logging
