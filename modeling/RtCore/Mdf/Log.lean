import RtCore.Mdf.Structure

/-!
# What a log says

The samples that are handed to the writers of a file become records with their groups. A reader has
the blocks of the file only: from each record it takes what the channels of the record's group
declare, and it finds the payload of a frame by its offset among the payloads of the group that the
channel refers to.

## Main definitions

* `Sample` — what is handed to a writer
* `Log`, `Log.ofSamples` — the records of a file with their groups, and those of samples
* `Reading`, `readings` — what a reader makes of the records of a file
* `Sample.Accepted`, `Sample.reading` — the samples that a writer takes, and what they say

## Main results

* `fits_ofSamples` — records have the sizes that their groups declare
* `readings_ofSamples` — a reader gets back what the samples say, in their order
-/

namespace RtCore.Mdf

open RtCore.Foundation Description

/-! ### Samples and their records -/

/-- What is handed to a writer: values for the channels of a plain group with the mask of those that
are invalid, or a frame for a CAN group and its group for payloads. -/
inductive Sample where
  | values (group : ℕ) (numbers : List MdfValue) (invalidMask : ℕ)
  | canFrame (groups : ℕ × ℕ) (frame : CanFrame) (time : UInt64) (busChannel : UInt8)
  deriving DecidableEq, Repr

/-- The records of a file with their groups, the oldest first. -/
abbrev Log := List (Group × DataRecord)

namespace Log

/-- The records as the data of the file has them. -/
def bytes (recordIdSize : ℕ) (log : Log) : List UInt8 :=
  log.flatMap fun entry => entry.2.bytes recordIdSize entry.1

/-- The records of a group. -/
def ofGroup (i : ℕ) (log : Log) : Log := log.filter fun entry => entry.2.group = i

/-- The payloads of a group, each behind its length. -/
def payloads (log : Log) (i : ℕ) : List UInt8 :=
  (log.ofGroup i).flatMap fun entry => CanRecordWriter.vlsdBytes entry.2.data

/-- The counters of the groups. -/
def counters (log : Log) (i : ℕ) : Counters where
  cycleCount := (log.ofGroup i).length
  vlsdDataBytes := (((log.ofGroup i).filter fun entry => isVlsd entry.1).map
    fun entry => entry.2.data.length).sum

end Log

/-- The bytes of the time of a frame. -/
def Mdf4Structure.timeBytes (s : Mdf4Structure) (toFloat : UInt64 → UInt32) (time : UInt64) :
    List UInt8 :=
  CanRecordWriter.timeBytes toFloat ((CanRecordWriter.timeSizeOf s.options.timeType).getD 8) time

/-- The records of a sample behind those of a log: a frame has a record for its payload and one that
says where the payload is. -/
def Sample.records (s : Mdf4Structure) (toFloat : UInt64 → UInt32) (log : Log) : Sample → Log
  | .values i numbers invalidMask =>
    match s.description.groups[i]? with
    | none => []
    | some g => [(g, ⟨i, numbers.flatMap MdfValue.bytes, leBytes g.invalidationBytes invalidMask⟩)]
  | .canFrame (i, j) frame time busChannel =>
    match s.description.groups[i]?, s.description.groups[j]? with
    | some g, some vlsd =>
      [(vlsd, ⟨j, frame.data, []⟩),
        (g, ⟨i, s.timeBytes toFloat time ++
          CanRecordWriter.frameBytes ((toCanDlc frame.data.length).getD 0) frame busChannel
            s.options.vlsdOffsetSizeBytes (log.payloads j).length, []⟩)]
    | _, _ => []

/-- The records of samples. -/
def Log.ofSamples (s : Mdf4Structure) (toFloat : UInt64 → UInt32) (samples : List Sample) : Log :=
  samples.foldl (fun log sample => log ++ sample.records s toFloat log) []

/-! ### Reading -/

/-- What a channel says: a number and whether it is marked invalid, or a payload. -/
inductive Item where
  | number (value : ℕ) (isInvalid : Bool)
  | payload (data : Option (List UInt8))
  deriving DecidableEq, Repr

/-- What a record says. -/
structure Reading where
  group : ℕ
  items : List Item
  deriving DecidableEq, Repr

/-- The payload at an offset. -/
def readPayload (stream : List UInt8) (offset : ℕ) : Option (List UInt8) :=
  let rest := stream.drop offset
  let length := ofLeBytes (rest.take CanRecordWriter.vlsdLengthBytes)
  if rest.length < CanRecordWriter.vlsdLengthBytes + length then none
  else some ((rest.drop CanRecordWriter.vlsdLengthBytes).take length)

section Items

variable (payloads : ℕ → List UInt8) (record : DataRecord)

/-- What the member of a composite channel says, a number or where a payload is. -/
def Member.item (m : Member) : Item :=
  match m.signalData with
  | none => .number (readField m.fields record.data) (isInvalid m.fields record.invalidation)
  | some j => .payload (readPayload (payloads j) (readField m.fields record.data))

/-- What a channel says, for a composite channel its members. -/
def Channel.items (c : Channel) : List Item :=
  if c.members = [] then
    [.number (readField c.fields record.data) (isInvalid c.fields record.invalidation)]
  else c.members.map (Member.item payloads record)

end Items

/-- What a reader makes of records when it has the payloads of each group; the groups for payloads
say nothing on their own. -/
def readingsWith (groups : List Group) (payloads : ℕ → List UInt8) (records : List DataRecord) :
    List Reading :=
  records.filterMap fun record => groups[record.group]?.bind fun g =>
    if isVlsd g then none
    else some ⟨record.group, g.channels.flatMap (Channel.items payloads record)⟩

/-- The payloads of a group as a reader collects them. -/
def payloadsOf (records : List DataRecord) (j : ℕ) : List UInt8 :=
  (records.filter fun record => record.group = j).flatMap fun record =>
    CanRecordWriter.vlsdBytes record.data

/-- What a reader makes of the records of a file. -/
def readings (groups : List Group) (records : List DataRecord) : List Reading :=
  readingsWith groups (payloadsOf records) records

/-! ### What samples say -/

/-- The number of a value, given by its bits. -/
def MdfValue.number : MdfValue → ℕ
  | int32 bits | uint32 bits | float32 bits => bits.toNat
  | int64 bits | uint64 bits | float64 bits => bits.toNat

/-- The samples that the writers of a file take. -/
inductive Sample.Accepted (s : Mdf4Structure) : Sample → Prop where
  | values {i : ℕ} {g : Group} {numbers : List MdfValue} {invalidMask : ℕ}
      (member : i ∈ s.recordChannelGroups) (found : s.description.groups[i]? = some g)
      (types : g.channels.map (·.fields.valueType) = numbers.map (fun value => some value.type))
      (places : ∀ c ∈ g.channels, c.fields.hasInvalidationBit = true →
        c.fields.invalidationBitPos < g.invalidationBytes * 8)
      (mask : invalidMask &&& RecordWriter.usedBits g.channels = invalidMask) :
      Accepted s (.values i numbers invalidMask)
  | canFrame {groups : ℕ × ℕ} {timeSize : ℕ} (frame : CanFrame) (time : UInt64)
      (busChannel : UInt8) (member : groups ∈ s.canChannelGroups)
      (timeSize : CanRecordWriter.timeSizeOf s.options.timeType = some timeSize) :
      Accepted s (.canFrame groups frame time busChannel)

/-- What a sample says: the values with those that are marked invalid, or the time of a frame, its
parts and its payload. -/
def Sample.reading (s : Mdf4Structure) (toFloat : UInt64 → UInt32) : Sample → Reading
  | .values i numbers invalidMask => ⟨i, (numbers.zip
      ((s.description.groups[i]?).elim [] Group.channels)).map fun entry =>
        .number entry.1.number (entry.2.fields.hasInvalidationBit &&
          invalidMask.testBit entry.2.fields.invalidationBitPos)⟩
  | .canFrame groups frame time busChannel => ⟨groups.1,
      [.number (ofLeBytes (s.timeBytes toFloat time)) false] ++
        (frame.parts ((toCanDlc frame.data.length).getD 0) busChannel).map (Item.number · false) ++
          [.payload (some frame.data)]⟩

/-! ### Values in a record -/

theorem MdfValue.ofLeBytes_bytes (value : MdfValue) : ofLeBytes value.bytes = value.number := by
  have word (bits : UInt32) : bits.toNat < 256 ^ 4 := bits.toNat_lt
  have long (bits : UInt64) : bits.toNat < 256 ^ 8 := bits.toNat_lt
  cases value with
  | int32 bits | uint32 bits | float32 bits => exact ofLeBytes_leBytes (word bits)
  | int64 bits | uint64 bits | float64 bits => exact ofLeBytes_leBytes (long bits)

/-- A channel of the type of a value has the bits of the value and no others. -/
private theorem field_of_valueType {c : ChannelFields} {value : MdfValue}
    (fits : c.valueType = some value.type) :
    value.bytes.length = c.dataSizeBytes ∧
      ofLeBytes value.bytes / 2 ^ c.bitOffset % 2 ^ c.bitCount = value.number := by
  have size := ChannelFields.dataSizeBytes_of_valueType fits
  have whole : c.dataSizeBytes * 8 = c.bitCount := by
    unfold ChannelFields.valueType at fits
    split at fits
    · cases fits
    · rename_i whole
      exact not_not.mp whole
  have aligned : c.bitOffset = 0 := by
    rw [ChannelFields.dataSizeBytes] at whole
    omega
  have length := value.length_bytes.trans size.symm
  refine ⟨length, ?_⟩
  rw [aligned, Nat.pow_zero, Nat.div_one, Nat.mod_eq_of_lt, value.ofLeBytes_bytes]
  have bound := ofLeBytes_lt value.bytes
  rwa [length, show (256 : ℕ) = 2 ^ 8 by rfl, ← Nat.pow_mul, Nat.mul_comm, whole] at bound

/-- Channels one after the other read the values back. -/
private theorem readField_values {channels : List Channel} {numbers : List MdfValue} {offset : ℕ}
    (front : List UInt8) (placed : RecordWriter.Placed offset channels)
    (types : channels.map (·.fields.valueType) = numbers.map (fun value => some value.type))
    (place : front.length = offset) :
    channels.map (fun c => readField c.fields (front ++ numbers.flatMap MdfValue.bytes)) =
        numbers.map MdfValue.number ∧
      (numbers.flatMap MdfValue.bytes).length =
        (channels.map (·.fields.dataSizeBytes)).sum := by
  induction channels generalizing numbers offset front with
  | nil =>
    obtain rfl : numbers = [] := List.map_eq_nil_iff.mp types.symm
    exact ⟨rfl, rfl⟩
  | cons c channels ih =>
    cases numbers with
    | nil => cases types
    | cons value numbers =>
      obtain ⟨first, types⟩ := List.cons.inj types
      obtain ⟨here, placed⟩ := placed
      obtain ⟨length, number⟩ := field_of_valueType first
      obtain ⟨others, total⟩ := ih (front ++ value.bytes) placed types
        (by rw [List.length_append, place, length])
      rw [List.append_assoc] at others
      simp only [List.flatMap_cons, List.map_cons, List.length_append, List.sum_cons, total, length,
        and_true]
      rw [others, readField_eq (place.trans here.symm) length, number]

private theorem isInvalid_leBytes {c : ChannelFields} {width : ℕ} (mask : ℕ)
    (place : c.hasInvalidationBit = true → c.invalidationBitPos < width * 8) :
    isInvalid c (leBytes width mask) =
      (c.hasInvalidationBit && mask.testBit c.invalidationBitPos) := by
  unfold isInvalid
  cases marked : c.hasInvalidationBit with
  | false => rfl
  | true =>
    have inside := place marked
    rw [ofLeBytes_leBytes_mod, show (256 : ℕ) = 2 ^ 8 by rfl, ← Nat.pow_mul,
      Nat.testBit_mod_two_pow, decide_eq_true (by omega), Bool.true_and]

/-! ### The records of samples -/

section

variable {s : Mdf4Structure} {toFloat : UInt64 → UInt32}

theorem Log.ofSamples_concat (samples : List Sample) (sample : Sample) :
    Log.ofSamples s toFloat (samples ++ [sample]) = Log.ofSamples s toFloat samples ++
      sample.records s toFloat (Log.ofSamples s toFloat samples) := by
  simp [Log.ofSamples]

theorem Log.payloads_append (first second : Log) (i : ℕ) :
    Log.payloads (first ++ second) i = first.payloads i ++ second.payloads i := by
  simp [Log.payloads, Log.ofGroup]

theorem Log.bytes_append (recordIdSize : ℕ) (first second : Log) :
    Log.bytes recordIdSize (first ++ second) =
      first.bytes recordIdSize ++ second.bytes recordIdSize :=
  List.flatMap_append

/-- Every frame has a data length code. -/
theorem toCanDlc_eq (frame : CanFrame) :
    ∃ dlc < 16, toCanDlc frame.data.length = some dlc := by
  have codes : ∀ length < 65, ∃ dlc < 16, toCanDlc length = some dlc := by decide
  exact codes _ (Nat.lt_succ_of_le frame.capacity)

private theorem length_timeBytes (toFloat : UInt64 → UInt32) (time : UInt64) {timeSize : ℕ}
    (size : CanRecordWriter.timeSizeOf s.options.timeType = some timeSize) :
    (s.timeBytes toFloat time).length = timeSize ∧
      (Mdf4Structure.timeChannel s.options.timeType).fields.dataSizeBytes = timeSize ∧
      (Mdf4Structure.timeChannel s.options.timeType).fields.bitCount = timeSize * 8 := by
  unfold Mdf4Structure.timeBytes
  rw [size, Option.getD_some]
  cases type : s.options.timeType <;> rw [type] at size <;> cases size
  · exact ⟨length_leBytes _ _, rfl, rfl⟩
  · exact ⟨length_leBytes _ _, rfl, rfl⟩

private theorem length_frameBytes (dlc : ℕ) (frame : CanFrame) (busChannel : UInt8)
    (size offset : ℕ) : (CanRecordWriter.frameBytes dlc frame busChannel size offset).length =
      CanRecordWriter.frameSizeBytes size := by
  simp only [CanRecordWriter.frameBytes, List.length_append, List.length_cons, List.length_nil,
    length_leBytes, CanRecordWriter.frameSizeBytes, CanRecordWriter.dataBytesOffset]

/-- The records of a sample that a writer takes have the sizes that their groups declare. -/
theorem Sample.Accepted.fits {sample : Sample} (sound : s.Sound) (accepted : sample.Accepted s)
    (toFloat : UInt64 → UInt32) (log : Log) : ∀ entry ∈ sample.records s toFloat log,
      entry.2.Fits s.options.recordIdSizeBytes s.description.groups entry.1 := by
  have recordId {i : ℕ} {g : Group} (found : s.description.groups[i]? = some g) :=
    sound.recordIds g (List.mem_of_getElem? found)
  intro entry listed
  cases accepted with
  | @values i g numbers invalidMask member found types places mask =>
    obtain ⟨g', found', isPlain⟩ := sound.plain i member
    obtain rfl := Option.some.inj (found.symm.trans found')
    simp only [Sample.records, found, List.mem_singleton] at listed
    rw [listed]
    refine ⟨found, recordId found, fun vlsd => ?_, fun _ => ⟨?_, length_leBytes _ _⟩⟩
    · rw [isPlain.plain] at vlsd
      cases vlsd
    · rw [isPlain.tiled.total]
      exact (readField_values [] isPlain.tiled.placed types rfl).2
  | @canFrame groups timeSize frame time busChannel member size =>
    obtain ⟨i, j⟩ := groups
    obtain ⟨g, vlsd, found, isCan, vlsdFound, isVlsd⟩ := sound.can (i, j) member
    simp only [Sample.records, found, vlsdFound, List.mem_cons, List.not_mem_nil,
      or_false] at listed
    rcases listed with rfl | rfl
    · refine ⟨vlsdFound, recordId vlsdFound, fun _ => ⟨?_, rfl⟩, fun plain => ?_⟩
      · have short := frame.capacity
        unfold canFrameMaxDataLength at short
        dsimp only
        omega
      · rw [isVlsd] at plain
        cases plain
    · refine ⟨found, recordId found, fun vlsd => ?_, fun _ => ⟨?_, ?_⟩⟩
      · rw [isCan.plain] at vlsd
        cases vlsd
      · obtain ⟨time, dataSize, -⟩ := length_timeBytes toFloat time size
        rw [isCan.dataBytes, dataSize, List.length_append, time, length_frameBytes]
      · exact isCan.invalidationBytes.symm

/-- Records have the sizes that their groups declare. -/
theorem fits_ofSamples (sound : s.Sound) {samples : List Sample}
    (accepted : ∀ sample ∈ samples, sample.Accepted s) :
    ∀ entry ∈ Log.ofSamples s toFloat samples,
      entry.2.Fits s.options.recordIdSizeBytes s.description.groups entry.1 := by
  induction samples using List.reverseRecOn with
  | nil => exact List.forall_mem_nil _
  | append_singleton samples sample ih =>
    rw [Log.ofSamples_concat]
    intro entry listed
    rcases List.mem_append.mp listed with earlier | new
    · exact ih (fun other member => accepted other (List.mem_append_left _ member)) entry earlier
    · exact (accepted sample (by simp)).fits sound _ _ entry new

/-! ### Reading the samples back -/

private theorem readPayload_eq {before data after : List UInt8} {offset : ℕ}
    (place : before.length = offset) (short : data.length < 256 ^ 4) :
    readPayload (before ++ (CanRecordWriter.vlsdBytes data ++ after)) offset = some data := by
  have front (rest : List UInt8) :
      (leBytes CanRecordWriter.vlsdLengthBytes data.length ++ rest).take
        CanRecordWriter.vlsdLengthBytes = leBytes CanRecordWriter.vlsdLengthBytes data.length :=
    List.take_left' (length_leBytes _ _)
  have behind (rest : List UInt8) :
      (leBytes CanRecordWriter.vlsdLengthBytes data.length ++ rest).drop
        CanRecordWriter.vlsdLengthBytes = rest :=
    List.drop_left' (length_leBytes _ _)
  have short : data.length < 256 ^ CanRecordWriter.vlsdLengthBytes := short
  unfold readPayload
  rw [List.drop_left' place, CanRecordWriter.vlsdBytes, List.append_assoc]
  simp only [front, behind, ofLeBytes_leBytes short, List.take_left]
  rw [if_neg]
  simp only [List.length_append, length_leBytes]
  omega

private theorem map_number_eq {channels : List Channel} {numbers : List MdfValue}
    {number : Channel → ℕ} (invalid : Channel → Bool)
    (same : channels.map number = numbers.map MdfValue.number) :
    channels.map (fun c => Item.number (number c) (invalid c)) =
      (numbers.zip channels).map fun entry => Item.number entry.1.number (invalid entry.2) := by
  induction channels generalizing numbers with
  | nil => simp
  | cons c channels ih =>
    cases numbers with
    | nil => cases same
    | cons value numbers =>
      obtain ⟨first, others⟩ := List.cons.inj same
      simp only [List.map_cons, List.zip_cons_cons, ih others, first]

/-- The record of values says the values. -/
private theorem items_values {g : Group} {numbers : List MdfValue} {invalidMask i : ℕ}
    (payloads : ℕ → List UInt8) (isPlain : Mdf4Structure.IsPlainGroup g)
    (types : g.channels.map (·.fields.valueType) = numbers.map (fun value => some value.type))
    (places : ∀ c ∈ g.channels, c.fields.hasInvalidationBit = true →
      c.fields.invalidationBitPos < g.invalidationBytes * 8) :
    g.channels.flatMap (Channel.items payloads
        ⟨i, numbers.flatMap MdfValue.bytes, leBytes g.invalidationBytes invalidMask⟩) =
      (numbers.zip g.channels).map fun entry => Item.number entry.1.number
        (entry.2.fields.hasInvalidationBit &&
          invalidMask.testBit entry.2.fields.invalidationBitPos) := by
  have each : ∀ c ∈ g.channels, Channel.items payloads
      ⟨i, numbers.flatMap MdfValue.bytes, leBytes g.invalidationBytes invalidMask⟩ c =
        [.number (readField c.fields (numbers.flatMap MdfValue.bytes))
          (c.fields.hasInvalidationBit && invalidMask.testBit c.fields.invalidationBitPos)] := by
    intro c member
    rw [Channel.items, if_pos (isPlain.flat c member), isInvalid_leBytes _ (places c member)]
  rw [List.flatMap_congr each, ← List.map_eq_flatMap]
  exact map_number_eq _ (readField_values [] isPlain.tiled.placed types rfl).1

/-- The record of a frame says the frame, given a reader that finds its payload. -/
private theorem items_canFrame {g : Group} {frame : CanFrame} {time : UInt64} {busChannel : UInt8}
    {i j timeSize offset : ℕ} {payloads : ℕ → List UInt8}
    (isCan : Mdf4Structure.IsCanGroup s.options j g)
    (size : CanRecordWriter.timeSizeOf s.options.timeType = some timeSize)
    (fits : offset < 256 ^ s.options.vlsdOffsetSizeBytes)
    (found : readPayload (payloads j) offset = some frame.data) :
    g.channels.flatMap (Channel.items payloads ⟨i, s.timeBytes toFloat time ++
        CanRecordWriter.frameBytes ((toCanDlc frame.data.length).getD 0) frame busChannel
          s.options.vlsdOffsetSizeBytes offset, []⟩) =
      [.number (ofLeBytes (s.timeBytes toFloat time)) false] ++
        (frame.parts ((toCanDlc frame.data.length).getD 0) busChannel).map (Item.number · false) ++
          [.payload (some frame.data)] := by
  obtain ⟨composite, channels, members, -⟩ := isCan.channels
  obtain ⟨timeLength, dataSize, bits⟩ := length_timeBytes toFloat time size
  obtain ⟨dlc, code, coded⟩ := toCanDlc_eq frame
  rw [coded, Option.getD_some, channels]
  generalize spelled : CanRecordWriter.frameBytes dlc frame busChannel
    s.options.vlsdOffsetSizeBytes offset = bytes
  have parts := readField_canMembers frame busChannel (s.timeBytes toFloat time) j rfl code fits
  rw [spelled, timeLength, Mdf4Structure.canMembers] at parts
  have nothing (c : ChannelFields) : isInvalid c [] = false := by simp [isInvalid, ofLeBytes]
  -- The time is read first, whole; the members of the frame follow at their bits.
  have timeRead : readField (Mdf4Structure.timeChannel s.options.timeType).fields
      (s.timeBytes toFloat time ++ bytes) = ofLeBytes (s.timeBytes toFloat time) := by
    have bound := ofLeBytes_lt (s.timeBytes toFloat time)
    rw [timeLength, show (256 : ℕ) = 2 ^ 8 by rfl, ← Nat.pow_mul, Nat.mul_comm, ← bits] at bound
    have read := @readField_eq (Mdf4Structure.timeChannel s.options.timeType).fields [] _ bytes rfl
      (timeLength.trans dataSize.symm)
    rw [List.nil_append] at read
    rw [read, show (Mdf4Structure.timeChannel s.options.timeType).fields.bitOffset = 0 by rfl,
      Nat.pow_zero, Nat.div_one, Nat.mod_eq_of_lt bound]
  have timeItems : Channel.items payloads ⟨i, s.timeBytes toFloat time ++ bytes, []⟩
      (Mdf4Structure.timeChannel s.options.timeType) =
        [.number (ofLeBytes (s.timeBytes toFloat time)) false] := by
    rw [Channel.items, if_pos (by rfl), timeRead, nothing]
  have frameItems : Channel.items payloads ⟨i, s.timeBytes toFloat time ++ bytes, []⟩ composite =
      (frame.parts dlc busChannel).map (Item.number · false) ++ [.payload (some frame.data)] := by
    rw [Channel.items, members, dataSize, if_neg (by simp [Mdf4Structure.canMembers])]
    simp only [List.map_cons, List.map_nil, CanFrame.parts, List.cons_append, List.nil_append,
      List.cons.injEq, and_true, Mdf4Structure.canMember] at parts
    obtain ⟨bus, identifier, extended, dlc', direction, fd, brs, esi, length, place⟩ := parts
    simp only [Mdf4Structure.canMembers, Mdf4Structure.canMember, List.map_cons, List.map_nil,
      Member.item, nothing, CanFrame.parts, List.cons_append, List.nil_append]
    rw [bus, identifier, extended, dlc', direction, fd, brs, esi, length, place, found]
  rw [List.flatMap_cons, List.flatMap_singleton, timeItems, frameItems, List.append_assoc]

/-- What one sample adds to what a reader makes of the records. -/
private theorem readingsWith_records {sample : Sample} (sound : s.Sound)
    (accepted : sample.Accepted s) {log : Log} {payloads : ℕ → List UInt8}
    (known : ∀ i, (log ++ sample.records s toFloat log).payloads i <+: payloads i)
    (fits : ∀ groups ∈ s.canChannelGroups,
      (payloads groups.2).length < 256 ^ s.options.vlsdOffsetSizeBytes) :
    readingsWith s.description.groups payloads
        ((sample.records s toFloat log).map Prod.snd) = [sample.reading s toFloat] := by
  cases accepted with
  | @values i g numbers invalidMask member found types places mask =>
    obtain ⟨g', found', isPlain⟩ := sound.plain i member
    obtain rfl := Option.some.inj (found.symm.trans found')
    simp only [readingsWith, Sample.records, found, List.map_cons, List.map_nil,
      List.filterMap_cons, List.filterMap_nil, Option.bind_some, isPlain.plain,
      Bool.false_eq_true, if_false, Sample.reading, Option.elim_some]
    rw [items_values payloads isPlain types places]
  | @canFrame groups timeSize frame time busChannel member size =>
    obtain ⟨i, j⟩ := groups
    obtain ⟨g, vlsd, found, isCan, vlsdFound, isVlsd⟩ := sound.can (i, j) member
    have short : frame.data.length < 256 ^ 4 := by
      have capacity := frame.capacity
      unfold canFrameMaxDataLength at capacity
      omega
    -- the payload lies behind those of the log
    obtain ⟨after, here⟩ : ∃ after, payloads j =
        log.payloads j ++ (CanRecordWriter.vlsdBytes frame.data ++ after) := by
      obtain ⟨rest, all⟩ := known j
      rw [Log.payloads_append] at all
      simp only [Sample.records, found, vlsdFound, Log.payloads, Log.ofGroup,
        List.filter_cons, decide_true, if_true, List.flatMap_cons, List.append_assoc] at all
      exact ⟨_, all.symm⟩
    have payload : readPayload (payloads j) (log.payloads j).length = some frame.data := by
      rw [here]
      exact readPayload_eq rfl short
    have room : (log.payloads j).length < 256 ^ s.options.vlsdOffsetSizeBytes := by
      refine lt_of_le_of_lt ?_ (fits (i, j) member)
      rw [here, List.length_append]
      exact Nat.le_add_right _ _
    simp only [readingsWith, Sample.records, found, vlsdFound, List.map_cons, List.map_nil,
      List.filterMap_cons, List.filterMap_nil, Option.bind_some, isVlsd, isCan.plain,
      Bool.false_eq_true, if_false, if_true, Sample.reading]
    rw [items_canFrame isCan size room payload]

/-- The same with the payloads of a longer log. -/
private theorem readingsWith_ofSamples (sound : s.Sound) {samples : List Sample}
    {payloads : ℕ → List UInt8} (accepted : ∀ sample ∈ samples, sample.Accepted s)
    (known : ∀ i, (Log.ofSamples s toFloat samples).payloads i <+: payloads i)
    (fits : ∀ groups ∈ s.canChannelGroups,
      (payloads groups.2).length < 256 ^ s.options.vlsdOffsetSizeBytes) :
    readingsWith s.description.groups payloads
        ((Log.ofSamples s toFloat samples).map Prod.snd) =
      samples.map (Sample.reading s toFloat) := by
  induction samples using List.reverseRecOn with
  | nil => rfl
  | append_singleton samples sample ih =>
    rw [Log.ofSamples_concat] at known ⊢
    have earlier := ih (fun other member => accepted other (List.mem_append_left _ member))
      fun i => by
        have more := known i
        rw [Log.payloads_append] at more
        exact (List.prefix_append _ _).trans more
    have new := readingsWith_records sound (accepted sample (by simp)) known fits
    simp only [readingsWith, List.map_append, List.filterMap_append] at earlier new ⊢
    rw [earlier, new, List.map_singleton]

/-- A reader gets back what the samples say, in their order. -/
theorem readings_ofSamples (sound : s.Sound) {samples : List Sample}
    (accepted : ∀ sample ∈ samples, sample.Accepted s)
    (fits : ∀ groups ∈ s.canChannelGroups,
      ((Log.ofSamples s toFloat samples).payloads groups.2).length <
        256 ^ s.options.vlsdOffsetSizeBytes) :
    readings s.description.groups ((Log.ofSamples s toFloat samples).map Prod.snd) =
      samples.map (Sample.reading s toFloat) := by
  have same : payloadsOf ((Log.ofSamples s toFloat samples).map Prod.snd) =
      (Log.ofSamples s toFloat samples).payloads := by
    funext j
    simp only [payloadsOf, Log.payloads, Log.ofGroup, List.filter_map, List.flatMap_map]
    rfl
  rw [readings, same]
  exact readingsWith_ofSamples sound accepted (fun _ => List.prefix_refl _) fits

end

end RtCore.Mdf
