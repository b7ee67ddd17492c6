import RtCore.Logging.LogSession
import RtCore.Mdf.Completion
import RtCore.Sensors.SensorsCborParser

/-!
# The files that a logger leaves

One logger writes one file after the other, each over a stream of its own, and a file may end in any
way before the next one is started.

## Main definitions

* `LogJob`, `LoggerTargets.sessions` — files, one after the other

## Main results

* `LoggerTargets.session_guarded` — the identifier block is written over whole files only
* `LoggerTargets.session_completes` — a file is finalized unless the file system fails a call
* `LoggerTargets.session_decodes` — a file that was finalized says what was logged
-/

namespace RtCore.Logging

open RtCore.Foundation RtCore.Fs RtCore.Mdf RtCore.Sensors

/-- A file that is to be logged. -/
structure LogJob where
  setting : LogSetting
  startTime : ℤ
  events : List LogEvent

namespace LoggerTargets

/-- The logger that the constructor builds. -/
def newLogger (l : LoggerTargets) : Logger (StreamBuf × Mdf4Recorder) where
  targets := l.targets
  stream := ({ file := {} }, { toMdf4File := .fresh })

/-- Files, one after the other. -/
def sessions (l : LoggerTargets) :
    List LogJob → Logger (StreamBuf × Mdf4Recorder) → List (LogJob × Session)
  | [], _ => []
  | job :: jobs, logger =>
    let session := l.session job.setting job.startTime job.events logger
    (job, session) :: l.sessions jobs session.logger

variable {l : LoggerTargets} {setting : LogSetting}

/-! ### When nothing fails -/

section Completing

variable {startTime : ℤ} {state : Logger (StreamBuf × Mdf4Recorder) × List LogEntry}

/-- The groups of a logger have writers. -/
private theorem isSome_buildRecordWriters (sound : l.Sound) :
    (Mdf4Recorder.buildRecordWriters l.file).isSome = true := by
  apply Mdf4Recorder.isSome_buildRecordWriters sound.file
  · intro i listed g found
    obtain ⟨hasRawValue, g', found', group⟩ := sound.values i listed
    obtain rfl := Option.some.inj (found.symm.trans found')
    exact group.isSome_create (sound.recordIdSize.trans (by decide))
  · intro groups listed g vlsd found vlsdFound
    obtain ⟨g', vlsd', found', isCan, vlsdFound', isVlsdGroup⟩ := sound.file.can groups listed
    obtain rfl := Option.some.inj (found.symm.trans found')
    obtain rfl := Option.some.inj (vlsdFound.symm.trans vlsdFound')
    exact CanRecordWriter.isSome_create isCan isVlsdGroup (by rw [sound.timeType]; rfl)
      (.inr sound.vlsdOffsetSize)

/-- The targets get the writers of their groups. -/
private theorem bindsWriters_of_holds (sound : l.Sound) {r : Mdf4Recorder}
    {toFloat : UInt64 → UInt32} {startTimeNs : ℕ} {samples : List Sample}
    (holds : r.Holds l.file toFloat startTimeNs samples) : l.bindsWriters r = true := by
  have plain {i : ℕ} (listed : i ∈ l.file.recordChannelGroups) :
      (r.getRecordWriter i).isSome = true := by
    rw [← holds.groups] at listed
    obtain ⟨entry, member, rfl⟩ := List.mem_map.mp listed
    rw [Mdf4Recorder.getRecordWriter, holds.isHeaderWritten, if_neg (by decide),
      List.findIdx?_isSome, List.any_eq_true]
    exact ⟨entry, member, decide_eq_true rfl⟩
  have can {i j : ℕ} (listed : (i, j) ∈ l.file.canChannelGroups) :
      (r.getCanRecordWriter i).isSome = true := by
    rw [← holds.canGroups] at listed
    obtain ⟨entry, member, same⟩ := List.mem_map.mp listed
    rw [Mdf4Recorder.getCanRecordWriter, holds.isHeaderWritten, if_neg (by decide),
      List.findIdx?_isSome, List.any_eq_true]
    exact ⟨entry, member, decide_eq_true (congrArg Prod.fst same)⟩
  rw [bindsWriters, List.all_eq_true]
  intro entry listed
  obtain ⟨target, found, matched⟩ := sound.matched entry listed
  rw [found]
  dsimp only
  cases matched with
  | value kind listed =>
    rw [if_neg (by rw [kind]; decide)]
    exact plain listed
  | valueWithRaw kind listed =>
    rw [if_neg (by rw [kind]; decide)]
    exact plain listed
  | canFrame kind listed =>
    rw [if_pos kind]
    exact can listed

variable {Fits : List UInt8 → Prop} {Good Fine : StreamBuf → Prop}

/-- A file is started unless something goes wrong. -/
private theorem openFile_tells (sound : l.Sound)
    (honest : (streamBuf setting.bufferSize setting.answers).Honest Fits Good Fine)
    (fitting : l.file.Fitting setting.toFloat Fits) (fresh : Good { file := {} })
    {logger : Logger (StreamBuf × Mdf4Recorder)} (ready : Ready l logger) (startTime : ℤ) :
    let result := l.openFile setting startTime logger
    Good result.2.stream.1 ∧ (Fine result.2.stream.1 → result.1 = some true) := by
  have header := Mdf4Recorder.writeHeaderToStream_tells honest fitting ready.file
    (isSome_buildRecordWriters sound) fresh (setting.toNs startTime)
  obtain ⟨-, -, returned⟩ := Recording.writeHeader setting.bufferSize setting.toFloat sound.file
    ready.file setting.answers (setting.toNs startTime)
  intro result
  unfold result openFile Logger.startLogging streamFile logFile
  dsimp only at header ⊢
  generalize Mdf4Recorder.writeHeaderToStream _ _ _ _ _ = written at *
  obtain ⟨answer, stream, recorder⟩ := written
  cases answer with
  | none =>
    rw [ite_self]
    exact ⟨header.good, fun fine => absurd (header.answers fine).2 Bool.false_ne_true⟩
  | some count =>
    rw [if_pos (bindsWriters_of_holds sound (returned count rfl).holds)]
    have synced := honest.sync stream header.good
    dsimp only [streamBuf] at synced ⊢
    generalize StreamBuf.sync setting.answers stream = answer at *
    obtain ⟨done, stream'⟩ := answer
    cases done with
    | false =>
      exact ⟨synced.good, fun fine => absurd (synced.answers fine).2 Bool.false_ne_true⟩
    | true => exact ⟨synced.good, fun _ => rfl⟩

/-- An event throws nothing unless something goes wrong. -/
private theorem Underway.logEvent_tells (sound : l.Sound)
    (honest : (streamBuf setting.bufferSize setting.answers).Honest Fits Good Fine)
    (fitting : l.file.Fitting setting.toFloat Fits) (underway : Underway setting l startTime state)
    (good : Good state.1.stream.1) (event : LogEvent) :
    let after := l.logEvent setting state event
    Good after.1.stream.1 ∧ (Fine after.1.stream.1 → Fine state.1.stream.1 ∧
      ((∀ entry ∈ state.2, ∀ record, entry.answer ≠ .threw record) →
        ∀ entry ∈ after.2, ∀ record, entry.answer ≠ .threw record)) := by
  cases event with
  | sync =>
    have synced := honest.sync _ good
    exact ⟨synced.good, fun fine => ⟨(synced.answers fine).1, fun kept => kept⟩⟩
  | reading call =>
    obtain ⟨logger, history⟩ := state
    have concat (answer : LogAnswer) (quiet : ∀ record, answer ≠ .threw record)
        (kept : ∀ entry ∈ history, ∀ record, entry.answer ≠ .threw record) :
        ∀ entry ∈ history ++ [⟨call, answer⟩], ∀ record, entry.answer ≠ .threw record := by
      intro entry member
      rcases List.mem_append.mp member with earlier | new
      · exact kept entry earlier
      · rw [List.mem_singleton.mp new]
        exact quiet
    intro after
    unfold after LoggerTargets.logEvent Logger.logCall
    dsimp only at good ⊢
    rcases Logger.logReading_cases setting.clock (l.streamFile setting) call.time call.reading
      logger with rejected | ⟨target, recordTime, content, -, found, given, answer, stream, -⟩
    · rw [rejected]
      exact ⟨good, fun fine => ⟨fine, concat _ fun record => by simp⟩⟩
    obtain ⟨made, sample, -, spells, takes⟩ := underway.takes sound found given
    have tells := takes.tells honest fitting good spells.accepted (spells.room _)
    rw [stream]
    refine ⟨tells.good, fun fine => ?_⟩
    obtain ⟨before, taken⟩ := tells.answers fine
    refine ⟨before, concat _ fun record => ?_⟩
    rw [answer, if_pos taken]
    simp

/-- A file is finalized unless something goes wrong. -/
private theorem closeFile_tells
    (honest : (streamBuf setting.bufferSize setting.answers).Honest Fits Good Fine)
    (fitting : l.file.Fitting setting.toFloat Fits) (underway : Underway setting l startTime state)
    (good : Good state.1.stream.1) : ∃ stream,
    (l.closeFile setting state.1).2.stream.1 = (StreamBuf.close setting.answers stream).2 ∧
      Tells Good Fine state.1.stream.1 ((l.closeFile setting state.1).1, stream) := by
  have finalized := Mdf4Recorder.finalizeToStream_tells honest fitting good underway.recording.holds
  unfold closeFile Logger.stopLogging streamFile logFile
  simp only [underway.isLogging, Bool.not_true, Bool.false_eq_true, if_false]
  dsimp only at finalized
  generalize Mdf4Recorder.finalizeToStream _ _ _ _ = result at *
  obtain ⟨answer, stream, recorder⟩ := result
  cases answer with
  | none => exact ⟨stream, rfl, finalized⟩
  | some count => exact ⟨stream, rfl, finalized⟩

/-- A file from its start to its end, up to the closing of the stream. -/
private theorem session_tells (sound : l.Sound)
    (honest : (streamBuf setting.bufferSize setting.answers).Honest Fits Good Fine)
    (fitting : l.file.Fitting setting.toFloat Fits) (fresh : Good { file := {} })
    {logger : Logger (StreamBuf × Mdf4Recorder)} (ready : Ready l logger) (startTime : ℤ)
    (events : List LogEvent) :
    let session := l.session setting startTime events logger
    ∃ stream, session.logger.stream.1 = (StreamBuf.close setting.answers stream).2 ∧
      Good stream ∧ (Fine stream → session.started = some true ∧
        (∀ entry ∈ session.history, ∀ record, entry.answer ≠ .threw record) ∧
        session.isFinalized = true) := by
  have opened := openFile_spec setting sound ready startTime
  have starts := openFile_tells sound honest fitting fresh ready startTime
  dsimp only at opened starts
  unfold LoggerTargets.session
  cases open_ : l.openFile setting startTime logger with
  | mk started logger' =>
    rw [open_] at opened starts
    by_cases isStarted : started = some true
    · subst isStarted
      obtain ⟨-, underway⟩ | ⟨notStarted, -⟩ := opened
      -- What one call keeps, carried over the calls of the session.
      · let Kept (state : Logger (StreamBuf × Mdf4Recorder) × List LogEntry) : Prop :=
          Underway setting l startTime state ∧ Good state.1.stream.1 ∧
            (Fine state.1.stream.1 → ∀ entry ∈ state.2, ∀ record, entry.answer ≠ .threw record)
        have kept : Kept (run (l.logEvent setting) (logger', []) events) := by
          refine run_invariant ⟨underway, starts.1, fun _ => List.forall_mem_nil _⟩ ?_ events
          rintro state event ⟨underway, good, quiet⟩
          obtain ⟨good', tells⟩ := underway.logEvent_tells sound honest fitting good event
          refine ⟨underway.logEvent sound event, good', fun fine => ?_⟩
          exact (tells fine).2 (quiet (tells fine).1)
        obtain ⟨underway', good, quiet⟩ := kept
        obtain ⟨stream, closed, tells⟩ := closeFile_tells honest fitting underway' good
        refine ⟨stream, closed, tells.good, fun fine => ?_⟩
        obtain ⟨before, isFinalized⟩ := tells.answers fine
        exact ⟨rfl, quiet before, isFinalized⟩
      · exact absurd rfl notStarted
    · refine ⟨logger'.stream.1, ?_, starts.1, fun fine => absurd (starts.2 fine) isStarted⟩
      split
      · rename_i same
        exact absurd (congrArg Prod.fst same) isStarted
      · rename_i _ same
        obtain ⟨rfl, rfl⟩ := Prod.mk.inj same
        rfl

/-- A file over a file system that fails no call. -/
private theorem session_of_faultless (sound : l.Sound)
    {logger : Logger (StreamBuf × Mdf4Recorder)} (ready : Ready l logger) (startTime : ℤ)
    (events : List LogEvent) :
    let session := l.session setting startTime events logger
    session.logger.stream.1.Faultless → session.started = some true ∧
      (∀ entry ∈ session.history, ∀ record, entry.answer ≠ .threw record) ∧
      session.isFinalized = true := by
  intro session faultless
  obtain ⟨stream, closed, -, fine⟩ := session_tells sound
    (streamBuf_honest setting.bufferSize setting.answers) (.unlimited _ _)
    ⟨.opened setting.bufferSize {}, rfl⟩ ready startTime events
  rw [closed] at faultless
  exact fine faultless.before_close

/-- A file over a file system that takes all writes. -/
private theorem session_of_generous (sound : l.Sound) {most : ℕ}
    (generous : StreamBuf.Generous setting.answers most) (bufferSmall : setting.bufferSize ≤ most)
    (fitting : l.file.Fitting setting.toFloat fun bytes => bytes.length ≤ most)
    {logger : Logger (StreamBuf × Mdf4Recorder)} (ready : Ready l logger) (startTime : ℤ)
    (events : List LogEvent) :
    let session := l.session setting startTime events logger
    session.logger.stream.1.Faultless ∧ session.isFinalized = true := by
  intro session
  obtain ⟨stream, closed, ⟨inUse, faultless⟩, fine⟩ := session_tells sound
    (streamBuf_generous setting.bufferSize setting.answers generous bufferSmall) fitting
    ⟨⟨.opened setting.bufferSize {}, rfl⟩, List.forall_mem_nil _⟩ ready startTime events
  refine ⟨?_, (fine trivial).2.2⟩
  rw [closed]
  exact faultless.close generous (inUse.sound.room.trans bufferSmall)

end Completing

/-! ### Sizes -/

/-- The most bytes that the records of a sample take. -/
def maxSampleBytes : ℕ := 95

private theorem length_records_le (sound : l.Sound) {sample : Sample}
    (accepted : sample.Accepted l.file) (toFloat : UInt64 → UInt32) (log : Log) :
    (Log.bytes l.file.options.recordIdSizeBytes
      (sample.records l.file toFloat log)).length ≤ maxSampleBytes := by
  have fits := accepted.fits sound.file toFloat log
  have idSize := sound.recordIdSize
  unfold maxSampleBytes
  cases accepted with
  | @values i g numbers invalidMask member found types places mask =>
    obtain ⟨hasRawValue, g', found', group⟩ := sound.values i member
    obtain rfl := Option.some.inj (found.symm.trans found')
    simp only [Sample.records, found, List.mem_singleton, forall_eq] at fits
    obtain ⟨data, invalidation⟩ := fits.plain group.plain
    have size : g.dataBytes ≤ 16 := by
      rw [group.dataBytes]
      split_ifs <;> omega
    have flags := group.invalidationBytes
    simp only [Sample.records, found, Log.bytes, List.flatMap_cons, List.flatMap_nil,
      List.append_nil, DataRecord.bytes, group.plain, Bool.false_eq_true, if_false,
      List.length_append, length_leBytes] at data invalidation ⊢
    omega
  | @canFrame groups timeSize frame time busChannel member size =>
    obtain ⟨i, j⟩ := groups
    obtain ⟨g, vlsd, found, isCan, vlsdFound, isVlsdGroup⟩ := sound.file.can (i, j) member
    simp only [Sample.records, found, vlsdFound, List.mem_cons, List.not_mem_nil, or_false,
      forall_eq_or_imp, forall_eq] at fits
    obtain ⟨data, invalidation⟩ := fits.2.plain isCan.plain
    have total : g.dataBytes = 23 := by
      rw [isCan.dataBytes, sound.timeType, sound.vlsdOffsetSize]
      rfl
    have capacity : frame.data.length ≤ 64 := frame.capacity
    simp only [Sample.records, found, vlsdFound, Log.bytes, List.flatMap_cons, List.flatMap_nil,
      List.append_nil, DataRecord.bytes, isCan.plain, isVlsdGroup, if_true, Bool.false_eq_true,
      if_false, List.length_append, length_leBytes, CanRecordWriter.vlsdBytes,
      CanRecordWriter.vlsdLengthBytes] at data ⊢
    omega

private theorem fitting_of_sizes (sound : l.Sound) (toFloat : UInt64 → UInt32) {most : ℕ}
    (blocks : ∀ b ∈ blockOrder l.file.description, l.file.description.serializedSize b ≤ most)
    (records : maxSampleBytes ≤ most) :
    l.file.Fitting toFloat fun bytes => bytes.length ≤ most where
  identifier isFinalized flags := by
    rw [length_idBlockBytes]
    exact le_trans (by decide) records
  block contents b inside := by
    rw [Description.length_bytes]
    exact blocks b inside
  records sample log accepted := (length_records_le sound accepted toFloat log).trans records

/-- The records of samples take a bounded room each. -/
private theorem length_bytes_ofSamples_le (sound : l.Sound) (toFloat : UInt64 → UInt32)
    {samples : List Sample} (accepted : ∀ sample ∈ samples, sample.Accepted l.file) :
    ((Log.ofSamples l.file toFloat samples).bytes l.file.options.recordIdSizeBytes).length ≤
      maxSampleBytes * samples.length := by
  induction samples using List.reverseRecOn with
  | nil => exact Nat.zero_le _
  | append_singleton samples sample ih =>
    have earlier := ih fun other member => accepted other (List.mem_append_left _ member)
    have new := length_records_le sound (accepted sample (by simp)) toFloat
      (Log.ofSamples l.file toFloat samples)
    rw [Log.ofSamples_concat, Log.bytes_append, List.length_append, List.length_append,
      List.length_singleton, Nat.mul_succ]
    exact Nat.add_le_add earlier new

private theorem length_history_le (l : LoggerTargets) (setting : LogSetting)
    (state : Logger (StreamBuf × Mdf4Recorder) × List LogEntry) (events : List LogEvent) :
    (run (l.logEvent setting) state events).2.length ≤ state.2.length + events.length := by
  induction events generalizing state with
  | nil => exact Nat.le_refl _
  | cons event events ih =>
    have step : (l.logEvent setting state event).2.length ≤ state.2.length + 1 := by
      cases event with
      | sync => exact Nat.le_succ _
      | reading call => exact (List.length_append).le
    have others := ih (l.logEvent setting state event)
    rw [run_cons, List.length_cons]
    omega

/-- A finalized file is no larger than its header and its records. -/
private theorem length_session_le (setting : LogSetting) (sound : l.Sound)
    {logger : Logger (StreamBuf × Mdf4Recorder)} (ready : Ready l logger) (startTime : ℤ)
    (events : List LogEvent) :
    let session := l.session setting startTime events logger
    session.isFinalized = true → (replay {} session.logger.stream.1.calls).data.length ≤
      idBlockSize + ((blockOrder l.file.description).map l.file.description.serializedSize).sum +
        maxSampleBytes * events.length := by
  intro session isFinalized
  obtain ⟨-, -, accepted, -, finalized⟩ := session_spec setting sound ready startTime
    events
  have data := length_bytes_ofSamples_le sound setting.toFloat accepted
  have count : (l.samples session.history).length ≤ events.length := by
    refine (List.length_filterMap_le _ _).trans ?_
    unfold session LoggerTargets.session
    split
    · rename_i logger' _
      have history := length_history_le l setting (logger', []) events
      rwa [List.length_nil, Nat.zero_add] at history
    · exact Nat.zero_le _
  rw [(finalized isFinalized).data, length_wholeImage]
  exact Nat.add_le_add_left (data.trans (Nat.mul_le_mul_left _ count)) _

/-! ### What becomes of the files -/

/-- A reader gets back from a finalized file what was logged. -/
private theorem readFile_of_finalized (sound : l.Sound) {toFloat : UInt64 → UInt32} {startNs : ℕ}
    {samples : List Sample} (accepted : ∀ sample ∈ samples, sample.Accepted l.file)
    {readings : List Reading} (items : samples.map (Sample.reading l.file toFloat) = readings)
    {calls : List FsCall} (whole : Finalized l.file toFloat startNs samples calls)
    (small : (replay {} calls).data.length < 2 ^ 64) :
    l.file.readFile (replay {} calls).data = some readings := by
  rw [whole.data] at small ⊢
  rw [readFile_wholeImage sound.file accepted small, items]
  intro groups member
  obtain ⟨-, vlsd, -, -, found, isVlsdGroup⟩ := sound.file.can groups member
  rw [sound.vlsdOffsetSize]
  refine lt_of_le_of_lt (Log.length_payloads_le _ groups.2 fun entry inside own => ?_)
    (length_bytes_lt_of_wholeImage small)
  have fits := (fits_ofSamples sound.file accepted entry inside).group
  rw [own, found] at fits
  rw [← Option.some.inj fits]
  exact isVlsdGroup

/-- A file that is finalized when it is closed can be read. -/
theorem Underway.readFile_closeFile (sound : l.Sound) {startTime : ℤ}
    {state : Logger (StreamBuf × Mdf4Recorder) × List LogEntry}
    (underway : Underway setting l startTime state)
    (isFinalized : (l.closeFile setting state.1).1 = true)
    (small : (l.closeFile setting state.1).2.stream.1.file.data.length < 2 ^ 64) :
    l.file.readFile (l.closeFile setting state.1).2.stream.1.file.data =
      some (state.2.filterMap (l.readingOf setting.clock startTime)) := by
  obtain ⟨-, quiet, finalized⟩ := closeFile_spec underway
  rw [quiet.traced.file] at small ⊢
  exact readFile_of_finalized sound underway.recording.holds.accepted underway.items
    (finalized isFinalized) small

/-- Every one of several files. -/
theorem sessions_spec (sound : l.Sound) {logger : Logger (StreamBuf × Mdf4Recorder)}
    (ready : Ready l logger) {jobs : List LogJob} {job : LogJob} {session : Session}
    (listed : (job, session) ∈ l.sessions jobs logger) :
    ∃ logger', Ready l logger' ∧
      session = l.session job.setting job.startTime job.events logger' := by
  induction jobs generalizing logger with
  | nil => cases listed
  | cons first jobs ih =>
    rcases List.mem_cons.mp listed with same | later
    · obtain ⟨rfl, rfl⟩ := Prod.mk.inj same
      exact ⟨logger, ready, rfl⟩
    · exact ih (session_spec first.setting sound ready first.startTime first.events).1 later

theorem ready_newLogger (l : LoggerTargets) : Ready l l.newLogger where
  targets _ := rfl
  file := .fresh

/-- While a file is recorded nothing goes over its identifier block, and what goes there at its end
finds the file whole: no write was incomplete, and the lengths and counts lie behind a sync. -/
theorem session_guarded {V : Type} {unit : SensorsUnit V} {sensors : List ConfiguredSensor}
    (valid : SensorValidator.validateId unit sensors = .ok ())
    {configuration : LoggingConfiguration} {metadata : LoggerMetadata}
    (created : create unit.getHash configuration sensors metadata = some l) (jobs : List LogJob)
    {job : LogJob} {session : Session} (listed : (job, session) ∈ l.sessions jobs l.newLogger) :
    StreamBuf.Traced (Guarded l.file job.setting.toFloat (job.setting.toNs job.startTime)
      (l.samples session.history)) {} session.logger.stream.1 := by
  have sound := sound_create (SensorValidator.nodup_of_validateId valid) created
  obtain ⟨logger, ready, rfl⟩ := sessions_spec sound (ready_newLogger l) listed
  exact (session_spec job.setting sound ready job.startTime job.events).2.1.traced

/-- The logger of an analog sensor and a CAN bus. -/
def configurationExample : LoggingConfiguration where
  sensorConfigurations sensor :=
    if sensor = 0x80bffd1b ∨ sensor = 0x6187ff8e then some { isEnabled := true } else none

/-- A sensor with a pressure and a CAN bus. -/
def sensorsExample : List ConfiguredSensor :=
  [Configured.pressure 0, { Configured.speed with
    configuration := { Configured.speed.configuration with type := 5 } }]

/-- A device, and the tool that writes its logs. -/
def metadataExample : LoggerMetadata where
  deviceName := text "bench"
  toolId := text "rt_core"
  toolVersion := text "1.0.0"

/-- A frame of two bytes. -/
def frameExample : CanFrame where
  id := 256
  data := [1, 2]
  capacity := by decide

/-- A reading and a frame over a file system that takes what it is given. -/
def jobExample : LogJob where
  setting :=
    { bufferSize := 512
      answers := fun _ => ⟨4096, false⟩
      clock := ⟨1, by decide, fun ticks => ticks.toNat.toUInt64⟩
      toFloat := fun time => time.toUInt32
      toNs := Int.toNat }
  startTime := 5
  events := [.reading ⟨7, { sensorIdHash := 0x80bffd1b, value := some 3 }⟩, .sync,
    .reading ⟨8, { sensorIdHash := 0x6187ff8e, canFrame := some frameExample }⟩]

theorem validateId_sensorsExample :
    SensorValidator.validateId Configured.unit sensorsExample = .ok () := by decide +kernel

private theorem created_example : ∃ l,
    create Configured.unit.getHash configurationExample sensorsExample metadataExample = some l ∧
      (∀ b ∈ blockOrder l.file.description, l.file.description.serializedSize b ≤ 4096) ∧
      ((blockOrder l.file.description).map l.file.description.serializedSize).sum ≤ 2 ^ 16 := by
  have checked : (create Configured.unit.getHash configurationExample sensorsExample
      metadataExample).any (fun l =>
        ((blockOrder l.file.description).map l.file.description.serializedSize).all (· ≤ 4096) &&
          ((blockOrder l.file.description).map l.file.description.serializedSize).sum ≤ 2 ^ 16) =
      true := by decide +kernel
  obtain ⟨l, created, sizes⟩ := (Option.any_eq_true _ _).mp checked
  rw [Bool.and_eq_true, List.all_eq_true, decide_eq_true_iff] at sizes
  exact ⟨l, created, fun b inside => of_decide_eq_true (sizes.1 _ (List.mem_map_of_mem inside)),
    sizes.2⟩

theorem session_guarded_example : ∃ l, ∃ session,
    create Configured.unit.getHash configurationExample sensorsExample metadataExample = some l ∧
      (jobExample, session) ∈ l.sessions [jobExample] l.newLogger ∧
      StreamBuf.Traced (Guarded l.file jobExample.setting.toFloat 5 (l.samples session.history)) {}
        session.logger.stream.1 := by
  obtain ⟨l, created, -⟩ := created_example
  exact ⟨l, _, created, List.mem_singleton_self _,
    session_guarded validateId_sensorsExample created [jobExample] (List.mem_singleton_self _)⟩

/-- When the file system fails no call on a file, the file is started, no reading is lost to an
exception, and the file is finalized. -/
theorem session_completes {V : Type} {unit : SensorsUnit V} {sensors : List ConfiguredSensor}
    (valid : SensorValidator.validateId unit sensors = .ok ())
    {configuration : LoggingConfiguration} {metadata : LoggerMetadata}
    (created : create unit.getHash configuration sensors metadata = some l) (jobs : List LogJob)
    {job : LogJob} {session : Session} (listed : (job, session) ∈ l.sessions jobs l.newLogger)
    (faultless : ∀ call ∈ session.logger.stream.1.calls, call.succeeds = true) :
    session.started = some true ∧
      (∀ entry ∈ session.history, ∀ record, entry.answer ≠ .threw record) ∧
      session.isFinalized = true := by
  have sound := sound_create (SensorValidator.nodup_of_validateId valid) created
  obtain ⟨logger, ready, rfl⟩ := sessions_spec sound (ready_newLogger l) listed
  exact session_of_faultless sound ready job.startTime job.events faultless

/-- The file of the example: nothing fails, and it is finalized. -/
private theorem session_example {l : LoggerTargets} (created : create Configured.unit.getHash
      configurationExample sensorsExample metadataExample = some l)
    (blocks : ∀ b ∈ blockOrder l.file.description, l.file.description.serializedSize b ≤ 4096) :
    let session := l.session jobExample.setting 5 jobExample.events l.newLogger
    session.logger.stream.1.Faultless ∧ session.isFinalized = true := by
  have sound := sound_create (SensorValidator.nodup_of_validateId validateId_sensorsExample) created
  exact session_of_generous sound (fun _ => ⟨rfl, le_rfl⟩) (by decide)
    (fitting_of_sizes sound _ blocks (by decide)) (ready_newLogger l) 5 jobExample.events

theorem session_completes_example : ∃ l, ∃ session,
    create Configured.unit.getHash configurationExample sensorsExample metadataExample = some l ∧
      (jobExample, session) ∈ l.sessions [jobExample] l.newLogger ∧
      (∀ call ∈ session.logger.stream.1.calls, call.succeeds = true) ∧
      session.started = some true ∧
      (∀ entry ∈ session.history, ∀ record, entry.answer ≠ .threw record) ∧
      session.isFinalized = true := by
  obtain ⟨l, created, blocks, -⟩ := created_example
  obtain ⟨faultless, -⟩ := session_example created blocks
  exact ⟨l, _, created, List.mem_singleton_self _, faultless,
    session_completes validateId_sensorsExample created [jobExample] (List.mem_singleton_self _)
      faultless⟩

/-- A file that was finalized is marked so, lies behind a sync, and says what was logged. -/
theorem session_decodes {V : Type} {unit : SensorsUnit V} {sensors : List ConfiguredSensor}
    (valid : SensorValidator.validateId unit sensors = .ok ())
    {configuration : LoggingConfiguration} {metadata : LoggerMetadata}
    (created : create unit.getHash configuration sensors metadata = some l) (jobs : List LogJob)
    {job : LogJob} {session : Session} (listed : (job, session) ∈ l.sessions jobs l.newLogger)
    (isFinalized : session.isFinalized = true)
    (small : (replay {} session.logger.stream.1.calls).data.length < 2 ^ 64) :
    Finalized l.file job.setting.toFloat (job.setting.toNs job.startTime)
        (l.samples session.history) session.logger.stream.1.calls ∧
      l.file.readFile (replay {} session.logger.stream.1.calls).data =
        some (session.history.filterMap (l.readingOf job.setting.clock job.startTime)) := by
  have sound := sound_create (SensorValidator.nodup_of_validateId valid) created
  obtain ⟨logger, ready, rfl⟩ := sessions_spec sound (ready_newLogger l) listed
  obtain ⟨-, -, accepted, items, finalized⟩ := session_spec job.setting sound ready
    job.startTime job.events
  have whole := finalized isFinalized
  exact ⟨whole, readFile_of_finalized sound accepted items whole small⟩

theorem session_decodes_example : ∃ l, ∃ session,
    create Configured.unit.getHash configurationExample sensorsExample metadataExample = some l ∧
      (jobExample, session) ∈ l.sessions [jobExample] l.newLogger ∧ session.isFinalized = true ∧
      l.file.readFile (replay {} session.logger.stream.1.calls).data =
        some (session.history.filterMap (l.readingOf jobExample.setting.clock 5)) := by
  obtain ⟨l, created, blocks, sum⟩ := created_example
  have sound := sound_create (SensorValidator.nodup_of_validateId validateId_sensorsExample) created
  obtain ⟨-, isFinalized⟩ := session_example created blocks
  have size := length_session_le jobExample.setting sound (ready_newLogger l) 5
    jobExample.events isFinalized
  refine ⟨l, _, created, List.mem_singleton_self _, isFinalized,
    (session_decodes validateId_sensorsExample created [jobExample] (List.mem_singleton_self _)
      isFinalized (lt_of_le_of_lt size ?_)).2⟩
  have few : jobExample.events.length = 3 := rfl
  rw [few]
  unfold idBlockSize maxSampleBytes
  omega

end LoggerTargets

end RtCore.Logging
