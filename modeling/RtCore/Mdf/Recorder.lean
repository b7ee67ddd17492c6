import RtCore.Foundation.Checks
import RtCore.Mdf.HeaderLayout
import RtCore.Mdf.Log

/-!
# Writing a log file from its header to its end

An `Mdf4File` whose structure is complete writes a header, then records through the writers that the
header built, and at the end patches the counters into the blocks that the header left at zero. The
identifier block, which tells a reader that the counters can be trusted, comes last, behind a sync.

## Main definitions

* `OutputStream` — what the file asks of its stream
* `Mdf4Recorder` with `writeHeaderToStream`, `writeRecord`, `writeCanRecord` and `finalizeToStream`
* `Mdf4Recorder.Holds` — the counters and the writers are those of the samples so far
* `Mdf4Recorder.Takes` — what the call of a writer does with a sample

## Main results

* `Mdf4Recorder.writeHeaderToStream_spec`, `Mdf4Recorder.writeRecord_takes`,
  `Mdf4Recorder.writeCanRecord_takes` — what the calls hand to the stream and what they count
-/

namespace RtCore.Mdf

open RtCore.Foundation Description

/-! ### The file with its writers -/

/-- What a file asks of its stream: `sputn`, `pubseekpos`, `pubseekoff` to the end and `pubsync`,
each with its success. -/
structure OutputStream (σ : Type) where
  put : Put σ
  seekpos : ℕ → σ → Bool × σ
  seekEnd : σ → Bool × σ
  sync : σ → Bool × σ

/-- An `Mdf4File` with the writers that its last header built, in the order of the groups they were
built for: those of plain groups with the index of the group, those of CAN groups with the index of
the group and of the group for its payloads. -/
structure Mdf4Recorder extends Mdf4File where
  recordWriters : List (ℕ × RecordWriter) := []
  canRecordWriters : List ((ℕ × ℕ) × CanRecordWriter) := []

/-- `IncrementCycleCount` of a group. -/
def Description.Contents.incrementCycleCount (i : ℕ) (contents : Contents) : Contents :=
  { contents with
    counters := Function.update contents.counters i
      { contents.counters i with cycleCount := (contents.counters i).cycleCount + 1 } }

/-- `AddVlsdDataBytes` of a group. -/
def Description.Contents.addVlsdDataBytes (i count : ℕ) (contents : Contents) : Contents :=
  { contents with
    counters := Function.update contents.counters i
      { contents.counters i with
        vlsdDataBytes := (contents.counters i).vlsdDataBytes + count } }

namespace Mdf4Recorder

variable {σ : Type}

/-- `BuildRecordWriters`, none when a writer refuses the layout of its group. -/
def buildRecordWriters (s : Mdf4Structure) :
    Option (List (ℕ × RecordWriter) × List ((ℕ × ℕ) × CanRecordWriter)) := do
  let plain ← s.recordChannelGroups.mapM fun i => do
    let g ← s.description.groups[i]?
    let writer ← RecordWriter.create s.description.recordIdSizeBytes g
    return (i, writer)
  let can ← s.canChannelGroups.mapM fun groups => do
    let g ← s.description.groups[groups.1]?
    let vlsd ← s.description.groups[groups.2]?
    let writer ← CanRecordWriter.create s.description.recordIdSizeBytes g vlsd s.options.timeType
      s.options.vlsdOffsetSizeBytes
    return (groups, writer)
  return (plain, can)

/-- `UpdateCurrentTime` and `WriteHeaderToStream`, with the bytes of the header. -/
def writeHeaderToStream (s : Mdf4Structure) (out : OutputStream σ) (startTimeNs : ℕ) (stream : σ)
    (r : Mdf4Recorder) : Option ℕ × σ × Mdf4Recorder :=
  let built := buildRecordWriters s
  let result := r.toMdf4File.writeHeaderToStream s.description out.put
    { startTimeNs, writersAccept := built.isSome } stream
  (result.returned, result.stream,
    { toMdf4File := result.file
      recordWriters := (built.map Prod.fst).getD []
      canRecordWriters := (built.map Prod.snd).getD [] })

/-- `GetRecordWriter`: the place of the writer of a group. -/
def getRecordWriter (i : ℕ) (r : Mdf4Recorder) : Option ℕ :=
  if !r.isHeaderWritten then none else r.recordWriters.findIdx? fun entry => entry.1 = i

/-- `GetCanRecordWriter`. -/
def getCanRecordWriter (i : ℕ) (r : Mdf4Recorder) : Option ℕ :=
  if !r.isHeaderWritten then none else r.canRecordWriters.findIdx? fun entry => entry.1.1 = i

/-- `RecordWriter::Write` of the writer at a place, with the bytes of the record. -/
def writeRecord (out : OutputStream σ) (place : ℕ) (values : List MdfValue) (invalidMask : ℕ)
    (stream : σ) (r : Mdf4Recorder) : Option ℕ × σ × Mdf4Recorder :=
  match r.recordWriters[place]? with
  | none => (none, stream, r)
  | some (i, writer) =>
    match writer.write values invalidMask with
    -- The buffer of the writer keeps the values that were patched in.
    | (none, writer) =>
      (none, stream, { r with recordWriters := r.recordWriters.set place (i, writer) })
    | (some bytes, writer) =>
      match out.put stream bytes with
      | (false, stream) =>
        (none, stream, { r with recordWriters := r.recordWriters.set place (i, writer) })
      | (true, stream) => (some writer.recordSize, stream, { r with
          recordWriters := r.recordWriters.set place (i, writer.count)
          contents := r.contents.incrementCycleCount i })

/-- `CanRecordWriter::Write` of the writer at a place, with the bytes of the records. -/
def writeCanRecord (toFloat : UInt64 → UInt32) (out : OutputStream σ) (place : ℕ)
    (frame : CanFrame) (time : UInt64) (busChannel : UInt8) (stream : σ) (r : Mdf4Recorder) :
    Option ℕ × σ × Mdf4Recorder :=
  match r.canRecordWriters[place]? with
  | none => (none, stream, r)
  | some ((i, j), writer) =>
    match writer.write toFloat frame time busChannel with
    | none => (none, stream, r)
    | some bytes =>
      match out.put stream bytes with
      | (false, stream) => (none, stream, r)
      | (true, stream) => (some bytes.length, stream, { r with
          canRecordWriters := r.canRecordWriters.set place ((i, j), writer.count frame)
          contents := ((r.contents.incrementCycleCount j).addVlsdDataBytes j
            frame.data.length).incrementCycleCount i })

/-- `RewriteToStream` of a block, with its bytes. -/
def rewriteToStream (f : Description) (out : OutputStream σ) (b : Block) (stream : σ)
    (r : Mdf4Recorder) : Option ℕ × σ :=
  if !r.marks.isSerialized b then (none, stream)
  else
    match out.seekpos (r.marks.address b) stream with
    | (false, stream) => (none, stream)
    | (true, stream) =>
      match f.serialize r.contents r.marks.address b with
      | none => (none, stream)
      | some data =>
        match out.put stream data with
        | (false, stream) => (none, stream)
        | (true, stream) => (some data.length, stream)

/-- `RewriteToStream` of blocks, up to the first that throws. -/
def rewriteAll (f : Description) (out : OutputStream σ) (r : Mdf4Recorder) :
    List Block → σ → Option ℕ × σ
  | [], stream => (some 0, stream)
  | b :: blocks, stream =>
    match r.rewriteToStream f out b stream with
    | (none, stream) => (none, stream)
    | (some count, stream) =>
      match rewriteAll f out r blocks stream with
      | (none, stream) => (none, stream)
      | (some rest, stream) => (some (count + rest), stream)

/-- `RewriteToStream` of the identifier block, which every header writes at address 0. -/
def rewriteId (out : OutputStream σ) (stream : σ) (r : Mdf4Recorder) : Option ℕ × σ :=
  match out.seekpos 0 stream with
  | (false, stream) => (none, stream)
  | (true, stream) =>
    let data := idBlockBytes r.isIdFinalized r.standardFlags
    match out.put stream data with
    | (false, stream) => (none, stream)
    | (true, stream) => (some data.length, stream)

/-- The bytes that the writers wrote since the header. -/
def dataBytesWritten (r : Mdf4Recorder) : ℕ :=
  (r.recordWriters.map (·.2.bytesWritten)).sum + (r.canRecordWriters.map (·.2.bytesWritten)).sum

/-- `SetDataSizeBytes` of the data block. -/
def setDataSize (r : Mdf4Recorder) : Mdf4Recorder :=
  { r with contents := { r.contents with dataSizeBytes := r.dataBytesWritten } }

/-- `SetFinalized(true)` of the identifier block. -/
def setIdFinalized (r : Mdf4Recorder) : Mdf4Recorder :=
  { r with isIdFinalized := true, standardFlags := 0 }

/-- `FinalizeToStream`, with the bytes that it wrote. -/
def finalizeToStream (f : Description) (out : OutputStream σ) (stream : σ) (r : Mdf4Recorder) :
    Option ℕ × σ × Mdf4Recorder :=
  if !r.isHeaderWritten then (none, stream, r)
  else
    match r.setDataSize.rewriteAll f out (.data :: (List.range f.groups.length).map .group)
      stream with
    | (none, stream) => (none, stream, r.setDataSize)
    | (some rewritten, stream) =>
      -- the lengths and counts have to be on the medium before the identifier says so
      match out.sync stream with
      | (false, stream) => (none, stream, r.setDataSize)
      | (true, stream) =>
        match r.setDataSize.setIdFinalized.rewriteId out stream with
        | (none, stream) => (none, stream, r.setDataSize.setIdFinalized)
        | (some identifier, stream) =>
          match out.seekEnd stream with
          | (false, stream) => (none, stream, r.setDataSize.setIdFinalized)
          | (true, stream) =>
            match out.sync stream with
            | (false, stream) => (none, stream, r.setDataSize.setIdFinalized)
            | (true, stream) => (some (rewritten + identifier), stream,
                { r.setDataSize.setIdFinalized with isFinalized := true })

end Mdf4Recorder

/-! ### Writers of groups -/

section Writers

variable {s : Mdf4Structure} {toFloat : UInt64 → UInt32} {g vlsd : Group}

/-- The invalidation bits of the channels are in the invalidation bytes. -/
theorem RecordWriter.For.places {recordIdSize : ℕ} {w : RecordWriter}
    (writer : For recordIdSize g w) : ∀ c ∈ g.channels, c.fields.hasInvalidationBit = true →
      c.fields.invalidationBitPos < g.invalidationBytes * 8 := by
  intro c member marked
  obtain ⟨field, -, found⟩ := exists_left_of_forall₂ (mapM_eq_some.mp writer.fields).flip member
  unfold fieldOf at found
  dsimp only at found
  split_ifs at found with outside past
  by_contra far
  exact past (by simp [marked, Nat.le_of_not_lt far])

theorem RecordWriter.For.count {recordIdSize : ℕ} {w : RecordWriter}
    (writer : For recordIdSize g w) : For recordIdSize g w.count :=
  ⟨writer.fields, writer.recordSize, writer.fits, writer.invalidationOffset,
    writer.invalidationBytes, writer.invalidationBits, writer.length, writer.recordId⟩

/-- A writer of the frames of a group, whatever it has written. -/
structure CanRecordWriter.For (s : Mdf4Structure) (g vlsd : Group) (w : CanRecordWriter) :
    Prop where
  recordId : w.recordId = leBytes s.options.recordIdSizeBytes g.recordId
  vlsdRecordId : w.vlsdRecordId = leBytes s.options.recordIdSizeBytes vlsd.recordId
  timeSize : CanRecordWriter.timeSizeOf s.options.timeType = some w.timeSize
  vlsdOffsetSize : w.vlsdOffsetSize = s.options.vlsdOffsetSizeBytes
  recordSize : w.recordSize = s.options.recordIdSizeBytes + g.dataBytes

theorem CanRecordWriter.For.create {w : CanRecordWriter}
    (created : create s.options.recordIdSizeBytes g vlsd s.options.timeType
      s.options.vlsdOffsetSizeBytes = some w) :
    For s g vlsd w ∧ w.vlsdOffset = 0 ∧ w.bytesWritten = 0 := by
  unfold CanRecordWriter.create at created
  split at created
  · cases created
  obtain ⟨timeSize, size, created⟩ := Option.bind_eq_some_iff.mp created
  split_ifs at created
  split at created
  · split_ifs at created
    obtain rfl := Option.some.inj created
    exact ⟨⟨rfl, rfl, size, rfl, rfl⟩, rfl, rfl⟩
  · cases created

/-- A group of CAN data frames has a writer. -/
theorem CanRecordWriter.isSome_create {j timeSize : ℕ}
    (isCan : Mdf4Structure.IsCanGroup s.options j g) (vlsdGroup : isVlsd vlsd = true)
    (timed : timeSizeOf s.options.timeType = some timeSize)
    (offset : s.options.vlsdOffsetSizeBytes = 4 ∨ s.options.vlsdOffsetSizeBytes = 8) :
    (create s.options.recordIdSizeBytes g vlsd s.options.timeType
      s.options.vlsdOffsetSizeBytes).isSome = true := by
  obtain ⟨frame, channels, -, bitCount⟩ := isCan.channels
  have time : (Mdf4Structure.timeChannel s.options.timeType).fields.dataType = .floatLe ∧
      (Mdf4Structure.timeChannel s.options.timeType).fields.bitCount = timeSize * 8 ∧
      (Mdf4Structure.timeChannel s.options.timeType).fields.dataSizeBytes = timeSize := by
    cases type : s.options.timeType <;> rw [type] at timed <;> cases timed <;>
      exact ⟨rfl, rfl, rfl⟩
  obtain ⟨dataType, timeBits, dataSize⟩ := time
  unfold create
  rw [vlsdGroup, timed, if_neg (by decide), Option.bind_some, if_neg (by omega),
    isCan.dataBytes, dataSize, if_neg (not_not.mpr rfl), isCan.invalidationBytes,
    if_neg (not_not.mpr rfl), channels]
  dsimp only
  rw [if_neg (by simp [dataType, timeBits, bitCount])]
  rfl

/-- The payloads of a group of a log are within the reach of an offset, one more included. -/
def Sample.HasRoom (s : Mdf4Structure) (log : Log) : Sample → Prop
  | .values _ _ _ => True
  | .canFrame groups frame _ _ => s.options.vlsdOffsetSizeBytes < 8 →
      (log.payloads groups.2).length + CanRecordWriter.vlsdLengthBytes + frame.data.length <
        2 ^ (s.options.vlsdOffsetSizeBytes * 8)

/-- A writer hands the records of a frame on if there is room for the payload. -/
theorem CanRecordWriter.write_eq {w : CanRecordWriter} {log : Log} {i j : ℕ}
    (toFloat : UInt64 → UInt32) (writer : For s g vlsd w)
    (found : s.description.groups[i]? = some g)
    (vlsdFound : s.description.groups[j]? = some vlsd) (plain : isVlsd g = false)
    (vlsdGroup : isVlsd vlsd = true) (place : w.vlsdOffset = (log.payloads j).length)
    (frame : CanFrame) (time : UInt64) (busChannel : UInt8) :
    let sample := Sample.canFrame (i, j) frame time busChannel
    (write toFloat frame time busChannel w = none ∧ ¬sample.HasRoom s log) ∨
      (write toFloat frame time busChannel w =
        some (Log.bytes s.options.recordIdSizeBytes (sample.records s toFloat log)) ∧
          sample.HasRoom s log) := by
  intro sample
  obtain ⟨dlc, -, code⟩ := toCanDlc_eq frame
  unfold CanRecordWriter.write
  rw [if_neg (Nat.not_lt.mpr frame.capacity), writer.vlsdOffsetSize, nextVlsdOffset, place]
  by_cases full : s.options.vlsdOffsetSizeBytes < 8 ∧ 2 ^ (s.options.vlsdOffsetSizeBytes * 8) ≤
      (log.payloads j).length + vlsdLengthBytes + frame.data.length
  · rw [if_pos full]
    exact .inl ⟨rfl, fun room => absurd (room full.1) (Nat.not_lt.mpr full.2)⟩
  · rw [if_neg full, code]
    refine .inr ⟨?_, fun small => Nat.lt_of_not_le fun past => full ⟨small, past⟩⟩
    simp only [sample, Sample.records, found, vlsdFound, code, Log.bytes, List.flatMap_cons,
      List.flatMap_nil, List.append_nil, DataRecord.bytes, vlsdGroup, plain, if_true,
      Bool.false_eq_true, if_false, Option.map_some, Option.getD_some, Mdf4Structure.timeBytes,
      writer.timeSize, writer.recordId, writer.vlsdRecordId]

end Writers

/-! ### What a file holds -/

namespace Mdf4Recorder

section Holding

variable {σ : Type} {s : Mdf4Structure} {toFloat : UInt64 → UInt32} {startTimeNs : ℕ}
  {samples : List Sample} {r : Mdf4Recorder}

/-- A file whose header is written and whose writers took the samples. -/
structure Holds (s : Mdf4Structure) (toFloat : UInt64 → UInt32) (startTimeNs : ℕ)
    (samples : List Sample) (r : Mdf4Recorder) : Prop where
  sound : Mdf4File.Sound s.description r.toMdf4File
  isHeaderWritten : r.isHeaderWritten = true
  address : r.marks.address = addressIn s.description.serializedSize (blockOrder s.description)
  serialized : ∀ b ∈ blockOrder s.description, r.marks.isSerialized b = true
  contents : r.contents =
    { startTimeNs := startTimeNs, counters := (Log.ofSamples s toFloat samples).counters }
  groups : r.recordWriters.map Prod.fst = s.recordChannelGroups
  plain : ∀ entry ∈ r.recordWriters, ∃ g, s.description.groups[entry.1]? = some g ∧
    RecordWriter.For s.options.recordIdSizeBytes g entry.2
  canGroups : r.canRecordWriters.map Prod.fst = s.canChannelGroups
  can : ∀ entry ∈ r.canRecordWriters, ∃ g vlsd, s.description.groups[entry.1.1]? = some g ∧
    s.description.groups[entry.1.2]? = some vlsd ∧ CanRecordWriter.For s g vlsd entry.2
  places : ∀ entry ∈ r.canRecordWriters,
    entry.2.vlsdOffset = ((Log.ofSamples s toFloat samples).payloads entry.1.2).length
  accepted : ∀ sample ∈ samples, sample.Accepted s
  bytesWritten : r.dataBytesWritten =
    ((Log.ofSamples s toFloat samples).bytes s.options.recordIdSizeBytes).length

/-- What the call of a writer does with a sample: it rejects it, or hands its records to the stream
and counts them when the stream takes them. -/
inductive Takes (s : Mdf4Structure) (toFloat : UInt64 → UInt32) (startTimeNs : ℕ)
    (samples : List Sample) (put : Put σ) (stream : σ) (sample : Sample) :
    Option ℕ × σ × Mdf4Recorder → Prop where
  | rejected {after : Mdf4Recorder} (holds : Holds s toFloat startTimeNs samples after)
      (reason : ¬(sample.Accepted s ∧ sample.HasRoom s (Log.ofSamples s toFloat samples))) :
      Takes s toFloat startTimeNs samples put stream sample (none, stream, after)
  | refused {stream' : σ} {after : Mdf4Recorder} (holds : Holds s toFloat startTimeNs samples after)
      (refuses : put stream (Log.bytes s.options.recordIdSizeBytes
        (sample.records s toFloat (Log.ofSamples s toFloat samples))) = (false, stream')) :
      Takes s toFloat startTimeNs samples put stream sample (none, stream', after)
  | taken {count : ℕ} {stream' : σ} {after : Mdf4Recorder}
      (holds : Holds s toFloat startTimeNs (samples ++ [sample]) after)
      (takes : put stream (Log.bytes s.options.recordIdSizeBytes
        (sample.records s toFloat (Log.ofSamples s toFloat samples))) = (true, stream')) :
      Takes s toFloat startTimeNs samples put stream sample (some count, stream', after)

private theorem sum_set {α : Type} (f : α → ℕ) {l : List α} {n : ℕ} {old : α} (new : α) (more : ℕ)
    (found : l[n]? = some old) (grows : f new = f old + more) :
    ((l.set n new).map f).sum = (l.map f).sum + more := by
  induction l generalizing n with
  | nil => cases found
  | cons head tail ih =>
    cases n with
    | zero =>
      obtain rfl := Option.some.inj found
      simp only [List.set_cons_zero, List.map_cons, List.sum_cons, grows]
      omega
    | succ n =>
      simp only [List.set_cons_succ, List.map_cons, List.sum_cons, ih found]
      omega

private theorem map_set {α β : Type} (f : α → β) {l : List α} {n : ℕ} {old new : α}
    (found : l[n]? = some old) (same : f new = f old) : (l.set n new).map f = l.map f := by
  induction l generalizing n with
  | nil => rfl
  | cons head tail ih =>
    cases n with
    | zero =>
      obtain rfl := Option.some.inj found
      simp only [List.set_cons_zero, List.map_cons, same]
    | succ n => simp only [List.set_cons_succ, List.map_cons, ih found]

private theorem mem_set_cases {α : Type} {l : List α} {n : ℕ} {old new entry : α}
    (found : l[n]? = some old) (member : entry ∈ l.set n new) :
    entry = new ∨ ∃ m, m ≠ n ∧ l[m]? = some entry := by
  obtain ⟨m, here⟩ := List.mem_iff_getElem?.mp member
  by_cases same : m = n
  · subst same
    have bound := (List.getElem?_eq_some_iff.mp found).1
    rw [List.getElem?_set_self bound] at here
    exact .inl (Option.some.inj here).symm
  · rw [List.getElem?_set_ne (Ne.symm same)] at here
    exact .inr ⟨m, same, here⟩

/-- The counters with one record more. -/
private theorem counters_concat (log : Log) (entry : Group × DataRecord) :
    Log.counters (log ++ [entry]) = Function.update log.counters entry.2.group
      { cycleCount := (log.counters entry.2.group).cycleCount + 1
        vlsdDataBytes := (log.counters entry.2.group).vlsdDataBytes +
          if isVlsd entry.1 then entry.2.data.length else 0 } := by
  funext i
  by_cases same : i = entry.2.group
  · subst same
    rw [Function.update_self]
    cases vlsd : isVlsd entry.1 <;> simp [Log.counters, Log.ofGroup, vlsd]
  · rw [Function.update_of_ne same]
    have other : ¬entry.2.group = i := fun equal => same equal.symm
    simp [Log.counters, Log.ofGroup, other]

/-- The payloads of a group for variable length values, with one record more. -/
private theorem payloads_concat (log : Log) (entry : Group × DataRecord) (j : ℕ) :
    Log.payloads (log ++ [entry]) j = log.payloads j ++
      if entry.2.group = j then CanRecordWriter.vlsdBytes entry.2.data else [] := by
  rw [Log.payloads_append]
  by_cases same : entry.2.group = j
  · simp [Log.payloads, Log.ofGroup, same]
  · simp [Log.payloads, Log.ofGroup, same]

private theorem write_bytesWritten (values : List MdfValue) (invalidMask : ℕ) (w : RecordWriter) :
    (w.write values invalidMask).2.bytesWritten = w.bytesWritten := by
  unfold RecordWriter.write
  split_ifs
  · rfl
  · rfl
  all_goals
    cases RecordWriter.fill w.fields values w.record with
    | mk record complete =>
      cases complete with
      | false => rfl
      | true => rfl

/-- A plain writer that took nothing may have another buffer. -/
private theorem Holds.replace (holds : Holds s toFloat startTimeNs samples r) {place i : ℕ}
    {g : Group} {w w' : RecordWriter} (here : r.recordWriters[place]? = some (i, w))
    (found : s.description.groups[i]? = some g)
    (writer : RecordWriter.For s.options.recordIdSizeBytes g w')
    (same : w'.bytesWritten = w.bytesWritten) :
    Holds s toFloat startTimeNs samples
      { r with recordWriters := r.recordWriters.set place (i, w') } := by
  refine ⟨holds.sound, holds.isHeaderWritten, holds.address, holds.serialized, holds.contents,
    ?_, ?_, holds.canGroups, holds.can, holds.places, holds.accepted, ?_⟩
  · rw [← holds.groups]
    exact map_set Prod.fst here rfl
  · intro entry member
    rcases mem_set_cases here member with rfl | ⟨m, -, there⟩
    · exact ⟨g, found, writer⟩
    · exact holds.plain entry (List.mem_of_getElem? there)
  · rw [← holds.bytesWritten, dataBytesWritten, dataBytesWritten]
    have total := sum_set (fun entry : ℕ × RecordWriter => entry.2.bytesWritten) (i, w') 0 here same
    exact congrArg (· + _) total

/-- A header that is out starts with the counters at zero. -/
private theorem header_contents {f : Description} {put : Put σ} {call : HeaderCall} {stream : σ}
    {file : Mdf4File} {count : ℕ}
    (returned : (file.writeHeaderToStream f put call stream).returned = some count) :
    (file.writeHeaderToStream f put call stream).file.contents = call.contents ∧
      (file.writeHeaderToStream f put call stream).file.isHeaderWritten = true := by
  unfold Mdf4File.writeHeaderToStream at returned ⊢
  dsimp only at returned ⊢
  cases accepts : call.writersAccept with
  | false =>
    simp only [accepts, Bool.not_false, if_true] at returned
    cases returned
  | true =>
    simp only [accepts, Bool.not_true, Bool.false_eq_true, if_false] at returned ⊢
    split at returned
    · cases returned
    · split_ifs at returned ⊢
      exact ⟨rfl, rfl⟩

private theorem buildRecordWriters_eq (structure_ : s.Sound)
    {built : List (ℕ × RecordWriter) × List ((ℕ × ℕ) × CanRecordWriter)}
    (accepted : buildRecordWriters s = some built) :
    built.1.map Prod.fst = s.recordChannelGroups ∧ built.2.map Prod.fst = s.canChannelGroups ∧
      (∀ entry ∈ built.1, entry.2.bytesWritten = 0 ∧
        ∃ g, s.description.groups[entry.1]? = some g ∧
          RecordWriter.For s.options.recordIdSizeBytes g entry.2) ∧
      ∀ entry ∈ built.2, entry.2.vlsdOffset = 0 ∧ entry.2.bytesWritten = 0 ∧
        ∃ g vlsd, s.description.groups[entry.1.1]? = some g ∧
          s.description.groups[entry.1.2]? = some vlsd ∧ CanRecordWriter.For s g vlsd entry.2 := by
  unfold buildRecordWriters at accepted
  rw [structure_.recordIdSize] at accepted
  obtain ⟨plain, plainBuilt, accepted⟩ := Option.bind_eq_some_iff.mp accepted
  obtain ⟨can, canBuilt, accepted⟩ := Option.bind_eq_some_iff.mp accepted
  obtain rfl := Option.some.inj accepted
  -- Each writer is built under the groups that it is listed for, so the lists agree entry by entry.
  have firsts {α β : Type} {convert : α → Option (α × β)} {items : List α} {results : List (α × β)}
      (keeps : ∀ item result, convert item = some result → result.1 = item)
      (related : List.Forall₂ (fun item result => convert item = some result) items results) :
      results.map Prod.fst = items := by
    induction related with
    | nil => rfl
    | cons here _ ih => rw [List.map_cons, ih, keeps _ _ here]
  refine ⟨firsts ?_ (mapM_eq_some.mp plainBuilt), firsts ?_ (mapM_eq_some.mp canBuilt), ?_, ?_⟩
  · intro i result made
    obtain ⟨g, -, made⟩ := Option.bind_eq_some_iff.mp made
    obtain ⟨w, -, made⟩ := Option.bind_eq_some_iff.mp made
    rw [← Option.some.inj made]
  · intro groups result made
    obtain ⟨g, -, made⟩ := Option.bind_eq_some_iff.mp made
    obtain ⟨vlsd, -, made⟩ := Option.bind_eq_some_iff.mp made
    obtain ⟨w, -, made⟩ := Option.bind_eq_some_iff.mp made
    rw [← Option.some.inj made]
  · intro entry member
    obtain ⟨i, -, made⟩ := exists_left_of_forall₂ (mapM_eq_some.mp plainBuilt) member
    obtain ⟨g, found, made⟩ := Option.bind_eq_some_iff.mp made
    obtain ⟨w, created, made⟩ := Option.bind_eq_some_iff.mp made
    obtain rfl := Option.some.inj made
    refine ⟨?_, g, found, .create created⟩
    unfold RecordWriter.create at created
    dsimp only at created
    split_ifs at created
    obtain ⟨fields, -, rfl⟩ := Option.map_eq_some_iff.mp created
    rfl
  · intro entry member
    obtain ⟨groups, -, made⟩ := exists_left_of_forall₂ (mapM_eq_some.mp canBuilt) member
    obtain ⟨g, found, made⟩ := Option.bind_eq_some_iff.mp made
    obtain ⟨vlsd, vlsdFound, made⟩ := Option.bind_eq_some_iff.mp made
    obtain ⟨w, created, made⟩ := Option.bind_eq_some_iff.mp made
    obtain rfl := Option.some.inj made
    obtain ⟨writer, offset, bytes⟩ := CanRecordWriter.For.create created
    exact ⟨offset, bytes, g, vlsd, found, vlsdFound, writer⟩

/-- A structure whose groups all have writers. -/
theorem isSome_buildRecordWriters (structure_ : s.Sound)
    (plain : ∀ i ∈ s.recordChannelGroups, ∀ g, s.description.groups[i]? = some g →
      (RecordWriter.create s.options.recordIdSizeBytes g).isSome = true)
    (can : ∀ groups ∈ s.canChannelGroups, ∀ g vlsd, s.description.groups[groups.1]? = some g →
      s.description.groups[groups.2]? = some vlsd →
      (CanRecordWriter.create s.options.recordIdSizeBytes g vlsd s.options.timeType
        s.options.vlsdOffsetSizeBytes).isSome = true) :
    (buildRecordWriters s).isSome = true := by
  have someOf {α β : Type} {x : Option α} {next : α → Option β} (given : x.isSome = true)
      (each : ∀ a, x = some a → (next a).isSome = true) : (x.bind next).isSome = true := by
    obtain ⟨a, rfl⟩ := Option.isSome_iff_exists.mp given
    exact each a rfl
  unfold buildRecordWriters
  rw [structure_.recordIdSize]
  refine someOf (isSome_mapM fun i listed => ?_) fun writers _ =>
    someOf (isSome_mapM fun groups listed => ?_) fun _ _ => rfl
  · obtain ⟨g, found, -⟩ := structure_.plain i listed
    exact someOf (Option.isSome_of_eq_some found) fun g found =>
      someOf (plain i listed g found) fun _ _ => rfl
  · obtain ⟨g, vlsd, found, -, vlsdFound, -⟩ := structure_.can groups listed
    exact someOf (Option.isSome_of_eq_some found) fun g found =>
      someOf (Option.isSome_of_eq_some vlsdFound) fun vlsd vlsdFound =>
        someOf (can groups listed g vlsd found vlsdFound) fun _ _ => rfl

/-- A header hands its pieces to the stream, if the writers accept the layout; when it returns, the
file holds no samples yet. -/
theorem writeHeaderToStream_spec (toFloat : UInt64 → UInt32) (structure_ : s.Sound)
    (sound : Mdf4File.Sound s.description r.toMdf4File) (out : OutputStream σ) (startTimeNs : ℕ)
    (stream : σ) :
    let pieces := Mdf4File.headerPieces s.description { startTimeNs := startTimeNs }
    let result := r.writeHeaderToStream s out startTimeNs stream
    Mdf4File.Sound s.description result.2.2.toMdf4File ∧
      (result.1 = none ∧ result.2.1 = stream ∨
        result.2.1 = (putAll out.put stream pieces).2) ∧
      ∀ count, result.1 = some count → (putAll out.put stream pieces).1 = true ∧
        Holds s toFloat startTimeNs [] result.2.2 := by
  intro pieces result
  obtain ⟨sound', completes, returns⟩ := Mdf4File.writeHeaderToStream_spec sound out.put
    { startTimeNs := startTimeNs, writersAccept := (buildRecordWriters s).isSome } stream
  refine ⟨sound', ?_, fun count returned => ?_⟩
  · cases built : buildRecordWriters s with
    | none =>
      left
      simp only [result, writeHeaderToStream, built, Option.isSome_none,
        Mdf4File.writeHeaderToStream, Bool.not_false, if_true, and_self]
    | some writers =>
      right
      rw [built] at completes
      simp only [result, writeHeaderToStream, built]
      exact (completes rfl).2
  · obtain ⟨put, -, address⟩ := returns count returned
    obtain ⟨contents, isHeaderWritten⟩ := header_contents returned
    have serialized := Mdf4File.isSerialized_of_returned sound returned
    refine ⟨congrArg Prod.fst put, ?_⟩
    cases built : buildRecordWriters s with
    | none =>
      simp only [result, writeHeaderToStream, built, Option.isSome_none,
        Mdf4File.writeHeaderToStream, Bool.not_false, if_true] at returned
      cases returned
    | some writers =>
      obtain ⟨groups, canGroups, plain, can⟩ := buildRecordWriters_eq structure_ built
      have record : result.2.2.recordWriters = writers.1 := by
        simp only [result, writeHeaderToStream, built, Option.map_some, Option.getD_some]
      have canRecord : result.2.2.canRecordWriters = writers.2 := by
        simp only [result, writeHeaderToStream, built, Option.map_some, Option.getD_some]
      -- Fresh writers have written nothing.
      have zero {α : Type} {l : List α} {f : α → ℕ} (all : ∀ a ∈ l, f a = 0) :
          (l.map f).sum = 0 := by
        apply List.sum_eq_zero
        intro n member
        obtain ⟨a, listed, rfl⟩ := List.mem_map.mp member
        exact all a listed
      refine ⟨sound', isHeaderWritten, address, serialized, contents, ?_, ?_, ?_, ?_, ?_,
        List.forall_mem_nil _, ?_⟩
      · rw [record, groups]
      · rw [record]
        exact fun entry member => (plain entry member).2
      · rw [canRecord, canGroups]
      · rw [canRecord]
        exact fun entry member => (can entry member).2.2
      · rw [canRecord]
        exact fun entry member => (can entry member).1
      · rw [dataBytesWritten, record, canRecord,
          zero (fun entry member => (plain entry member).1),
          zero (fun entry member => (can entry member).2.1)]
        rfl

/-- The call of a plain writer. -/
theorem writeRecord_takes (structure_ : s.Sound) (holds : Holds s toFloat startTimeNs samples r)
    (out : OutputStream σ) {place i : ℕ} (listed : s.recordChannelGroups[place]? = some i)
    (numbers : List MdfValue) (invalidMask : ℕ) (stream : σ) :
    Takes s toFloat startTimeNs samples out.put stream (.values i numbers invalidMask)
      (r.writeRecord out place numbers invalidMask stream) := by
  rw [← holds.groups, List.getElem?_map] at listed
  obtain ⟨⟨index, w⟩, here, equal⟩ := Option.map_eq_some_iff.mp listed
  obtain rfl : i = index := equal.symm
  obtain ⟨g, found, writer⟩ : ∃ g, s.description.groups[i]? = some g ∧
      RecordWriter.For s.options.recordIdSizeBytes g w :=
    holds.plain _ (List.mem_of_getElem? here)
  have member : i ∈ s.recordChannelGroups := by
    rw [← holds.groups]
    exact List.mem_map_of_mem (List.mem_of_getElem? here)
  obtain ⟨g', found', isPlain⟩ := structure_.plain i member
  obtain rfl : g = g' := Option.some.inj (found.symm.trans found')
  have writer' := writer.write isPlain.tiled numbers invalidMask
  have same := write_bytesWritten numbers invalidMask w
  unfold writeRecord
  rw [here]
  dsimp only
  cases written : w.write numbers invalidMask with
  | mk answer w' =>
    rw [written] at writer' same
    dsimp only at writer' same
    have kept := holds.replace here found writer' same
    cases answer with
    | none =>
      refine .rejected kept fun takes => ?_
      cases takes.1 with
      | @values _ g' _ _ _ found' types _ mask =>
        obtain rfl : g = g' := Option.some.inj (found.symm.trans found')
        obtain ⟨bytes, taken⟩ := RecordWriter.write_isSome writer isPlain.tiled types mask
        rw [written] at taken
        cases taken
    | some bytes =>
      obtain ⟨spelled, types, mask⟩ := RecordWriter.write_eq writer isPlain.tiled
        (show (w.write numbers invalidMask).1 = some bytes by rw [written])
      have bytes_eq : bytes = Log.bytes s.options.recordIdSizeBytes
          (Sample.records s toFloat (Log.ofSamples s toFloat samples)
            (.values i numbers invalidMask)) := by
        simp only [Sample.records, found, Log.bytes, List.flatMap_cons, List.flatMap_nil,
          List.append_nil, DataRecord.bytes, isPlain.plain, Bool.false_eq_true, if_false]
        rw [spelled, List.append_assoc]
      dsimp only
      rw [bytes_eq]
      cases put : out.put stream (Log.bytes s.options.recordIdSizeBytes
          (Sample.records s toFloat (Log.ofSamples s toFloat samples)
            (.values i numbers invalidMask))) with
      | mk taken stream' =>
        cases taken with
        | false => exact .refused kept put
        | true =>
          refine .taken ?_ put
          have accepted : Sample.Accepted s (.values i numbers invalidMask) :=
            .values member found types writer.places mask
          have length : bytes.length = w'.recordSize := by
            rw [bytes_eq]
            have fits := accepted.fits structure_ toFloat
              (Log.ofSamples s toFloat samples)
            simp only [Sample.records, found, List.mem_singleton, forall_eq] at fits
            obtain ⟨data, invalidation⟩ := fits.plain isPlain.plain
            dsimp only at data invalidation
            simp only [Sample.records, found, Log.bytes, List.flatMap_cons, List.flatMap_nil,
              List.append_nil, DataRecord.bytes, isPlain.plain, Bool.false_eq_true, if_false,
              List.length_append, length_leBytes, writer'.recordSize]
            omega
          refine ⟨⟨holds.sound.marks, holds.sound.flags⟩, holds.isHeaderWritten, holds.address,
            holds.serialized, ?_, ?_, ?_, holds.canGroups, holds.can, ?_, ?_, ?_⟩
          · rw [Log.ofSamples_concat]
            simp only [Sample.records, found, counters_concat, isPlain.plain, Bool.false_eq_true,
              if_false, Nat.add_zero, Contents.incrementCycleCount, holds.contents]
          · rw [← holds.groups]
            exact map_set Prod.fst here rfl
          · intro entry listed
            rcases mem_set_cases here listed with rfl | ⟨m, -, there⟩
            · exact ⟨g, found, writer'.count⟩
            · exact holds.plain entry (List.mem_of_getElem? there)
          · intro entry listed
            rw [holds.places entry listed, Log.ofSamples_concat]
            simp only [Sample.records, found]
            rw [payloads_concat, if_neg, List.append_nil]
            -- a plain group is not one for payloads
            rintro rfl
            have groups : entry.1 ∈ s.canChannelGroups := by
              rw [← holds.canGroups]
              exact List.mem_map_of_mem listed
            obtain ⟨-, vlsd, -, -, vlsdFound, isVlsd⟩ := structure_.can _ groups
            obtain rfl : g = vlsd := Option.some.inj (found.symm.trans vlsdFound)
            rw [isPlain.plain] at isVlsd
            cases isVlsd
          · intro sample listed
            rcases List.mem_append.mp listed with earlier | new
            · exact holds.accepted sample earlier
            · rw [List.mem_singleton.mp new]
              exact accepted
          · rw [Log.ofSamples_concat, Log.bytes_append, List.length_append, ← holds.bytesWritten,
              ← bytes_eq, length, dataBytesWritten, dataBytesWritten]
            have total := sum_set (fun entry : ℕ × RecordWriter => entry.2.bytesWritten)
              (i, w'.count) w'.recordSize here (by simp only [RecordWriter.count, same])
            dsimp only at total ⊢
            rw [total]
            omega

/-- The call of a writer of frames; no two groups have the same group for payloads. -/
theorem writeCanRecord_takes (structure_ : s.Sound)
    (distinct : (s.canChannelGroups.map Prod.snd).Nodup)
    (holds : Holds s toFloat startTimeNs samples r) (out : OutputStream σ) {place : ℕ}
    {groups : ℕ × ℕ} (listed : s.canChannelGroups[place]? = some groups) (frame : CanFrame)
    (time : UInt64) (busChannel : UInt8) (stream : σ) :
    Takes s toFloat startTimeNs samples out.put stream (.canFrame groups frame time busChannel)
      (r.writeCanRecord toFloat out place frame time busChannel stream) := by
  obtain ⟨i, j⟩ := groups
  have member : (i, j) ∈ s.canChannelGroups := List.mem_of_getElem? listed
  rw [← holds.canGroups, List.getElem?_map] at listed
  obtain ⟨⟨index, w⟩, here, equal⟩ := Option.map_eq_some_iff.mp listed
  obtain rfl : index = (i, j) := equal
  have inside := List.mem_of_getElem? here
  obtain ⟨g, vlsd, found, vlsdFound, writer⟩ : ∃ g vlsd, s.description.groups[i]? = some g ∧
      s.description.groups[j]? = some vlsd ∧ CanRecordWriter.For s g vlsd w :=
    holds.can _ inside
  obtain ⟨g', vlsd', found', isCan, vlsdFound', isVlsd⟩ := structure_.can (i, j) member
  obtain rfl : g = g' := Option.some.inj (found.symm.trans found')
  obtain rfl : vlsd = vlsd' := Option.some.inj (vlsdFound.symm.trans vlsdFound')
  have place' : w.vlsdOffset = ((Log.ofSamples s toFloat samples).payloads j).length :=
    holds.places _ inside
  have accepted : Sample.Accepted s (.canFrame (i, j) frame time busChannel) :=
    .canFrame frame time busChannel member writer.timeSize
  unfold writeCanRecord
  rw [here]
  dsimp only
  obtain ⟨written, full⟩ | ⟨written, -⟩ := CanRecordWriter.write_eq toFloat writer
    found vlsdFound isCan.plain isVlsd place' frame time busChannel
  · rw [written]
    exact .rejected holds fun takes => full takes.2
  rw [written]
  dsimp only
  cases put : out.put stream (Log.bytes s.options.recordIdSizeBytes
      (Sample.records s toFloat (Log.ofSamples s toFloat samples)
        (.canFrame (i, j) frame time busChannel))) with
  | mk taken stream' =>
    cases taken with
    | false => exact .refused holds put
    | true =>
      refine .taken ?_ put
      have length : (Log.bytes s.options.recordIdSizeBytes
          (Sample.records s toFloat (Log.ofSamples s toFloat samples)
            (.canFrame (i, j) frame time busChannel))).length =
          w.vlsdRecordId.length + CanRecordWriter.vlsdLengthBytes + frame.data.length +
            w.recordSize := by
        have fits := accepted.fits structure_ toFloat
          (Log.ofSamples s toFloat samples)
        simp only [Sample.records, found, vlsdFound, List.mem_cons, List.not_mem_nil, or_false,
          forall_eq_or_imp, forall_eq] at fits
        obtain ⟨data, invalidation⟩ := fits.2.plain isCan.plain
        dsimp only at data invalidation
        simp only [Sample.records, found, vlsdFound, Log.bytes, List.flatMap_cons,
          List.flatMap_nil, List.append_nil, DataRecord.bytes, isCan.plain, isVlsd, if_true,
          Bool.false_eq_true, if_false, List.length_append, length_leBytes,
          CanRecordWriter.vlsdBytes, writer.vlsdRecordId, writer.recordSize] at data ⊢
        omega
      -- frames are in another group than payloads
      have apart {j' : ℕ} (other : ∃ i', (i', j') ∈ s.canChannelGroups) : i ≠ j' := by
        rintro rfl
        obtain ⟨i', listed'⟩ := other
        obtain ⟨-, vlsd', -, -, found', isVlsd'⟩ := structure_.can _ listed'
        obtain rfl : g = vlsd' := Option.some.inj (found.symm.trans found')
        rw [isCan.plain] at isVlsd'
        cases isVlsd'
      have payloads (j' : ℕ) (other : ∃ i', (i', j') ∈ s.canChannelGroups) :
          (Log.ofSamples s toFloat (samples ++ [.canFrame (i, j) frame time busChannel])).payloads
              j' = (Log.ofSamples s toFloat samples).payloads j' ++
            if j = j' then CanRecordWriter.vlsdBytes frame.data else [] := by
        rw [Log.ofSamples_concat]
        simp only [Sample.records, found, vlsdFound]
        rw [← List.singleton_append, ← List.append_assoc, payloads_concat, payloads_concat,
          if_neg (apart other), List.append_nil]
      refine ⟨⟨holds.sound.marks, holds.sound.flags⟩, holds.isHeaderWritten, holds.address,
        holds.serialized, ?_, holds.groups, holds.plain, ?_, ?_, ?_, ?_, ?_⟩
      · rw [Log.ofSamples_concat]
        simp only [Sample.records, found, vlsdFound]
        rw [← List.singleton_append, ← List.append_assoc, counters_concat, counters_concat]
        simp only [isCan.plain, isVlsd, Bool.false_eq_true, if_false, if_true, Nat.add_zero,
          Contents.incrementCycleCount, Contents.addVlsdDataBytes, holds.contents,
          Function.update_self, Function.update_idem]
      · rw [← holds.canGroups]
        exact map_set Prod.fst here rfl
      · intro entry listed'
        rcases mem_set_cases here listed' with rfl | ⟨m, -, there⟩
        · exact ⟨g, vlsd, found, vlsdFound, writer.recordId, writer.vlsdRecordId, writer.timeSize,
            writer.vlsdOffsetSize, writer.recordSize⟩
        · exact holds.can entry (List.mem_of_getElem? there)
      · intro entry listed'
        rcases mem_set_cases here listed' with rfl | ⟨m, different, there⟩
        · rw [payloads j ⟨i, member⟩, if_pos rfl, List.length_append, ← place']
          simp [CanRecordWriter.count, CanRecordWriter.nextVlsdOffset, CanRecordWriter.vlsdBytes,
            Nat.add_assoc]
        · have inside' : entry.1 ∈ s.canChannelGroups := by
            rw [← holds.canGroups]
            exact List.mem_map_of_mem (List.mem_of_getElem? there)
          rw [payloads entry.1.2 ⟨entry.1.1, inside'⟩, if_neg, List.append_nil]
          · exact holds.places entry (List.mem_of_getElem? there)
          · -- another place has another group for payloads
            intro same
            apply different
            have left : (s.canChannelGroups.map Prod.snd)[m]? = some entry.1.2 := by
              rw [← holds.canGroups, List.getElem?_map, List.getElem?_map, there]
              rfl
            have right : (s.canChannelGroups.map Prod.snd)[place]? = some entry.1.2 := by
              rw [← holds.canGroups, List.getElem?_map, List.getElem?_map, here, ← same]
              rfl
            exact (List.getElem?_inj (List.getElem?_eq_some_iff.mp left).1 distinct).mp
              (left.trans right.symm)
      · intro sample listed'
        rcases List.mem_append.mp listed' with earlier | new
        · exact holds.accepted sample earlier
        · rw [List.mem_singleton.mp new]
          exact accepted
      · rw [Log.ofSamples_concat, Log.bytes_append, List.length_append, ← holds.bytesWritten,
          length, dataBytesWritten, dataBytesWritten]
        have total := sum_set
          (fun entry : (ℕ × ℕ) × CanRecordWriter => entry.2.bytesWritten) ((i, j), w.count frame)
          (w.vlsdRecordId.length + CanRecordWriter.vlsdLengthBytes + frame.data.length +
            w.recordSize) here rfl
        dsimp only at total ⊢
        rw [total]
        omega

end Holding

end Mdf4Recorder

end RtCore.Mdf
