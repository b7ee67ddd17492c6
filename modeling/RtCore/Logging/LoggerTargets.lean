import Mathlib.Data.List.Nodup
import RtCore.Logging.Mdf4Logger
import RtCore.Logging.MdfFormula
import RtCore.Mdf.Log
import RtCore.Sensors.SensorValidator

/-!
# The channels of a log

The constructor of `Mdf4LoggerSensorReading` makes a channel group for each sensor that is logged: a
plain group with the value and, where asked for, the raw value it was computed from, or a group of
CAN data frames with a group for the payloads. What it needs later it keeps in a target under the
hash of the sensor's ID; the writers of the targets are found in the order of the groups.

## Main definitions

* `LoggingConfiguration`, `LoggerMetadata` — what a log is configured with
* `LoggerTargets.create` — the constructor
* `LoggerTargets.group` — the group whose writer the target of a sensor gets
* `IsValueGroup` — the group of a value sensor
* `LoggerTargets.Sound` — the groups are those that the targets are for

## Main results

* `LoggerTargets.sound_create` — what the constructor builds is sound
* `LoggerTargets.create_isSome` — it builds something for every configuration of sensors whose
  record IDs fit into two bytes
-/

namespace RtCore.Logging

open RtCore.Mdf RtCore.Mdf.Description RtCore.Sensors

/-! ### Configurations -/

/-- `SensorLoggingConfiguration`. -/
structure SensorLoggingConfiguration where
  isEnabled : Bool := false
  logRawValue : Bool := false
  logOnlyNewData : Bool := false
  deriving DecidableEq, Repr

/-- A `LoggingConfiguration` as the logger reads it; sensors are found by the hash of their ID. -/
structure LoggingConfiguration where
  loggingIntervalMs : UInt32 := 100
  sensorConfigurations : UInt32 → Option SensorLoggingConfiguration

/-- `LoggerMetadata`. -/
structure LoggerMetadata where
  deviceName : Mdf.Text
  toolId : Mdf.Text
  toolVersion : Mdf.Text
  productId : UInt32 := 0
  deviceId : UInt8 := 0
  hwVersion : UInt32 := 0
  swVersion : UInt32 := 0
  sensorsConfigurationHash : UInt32 := 0
  deriving DecidableEq, Repr

/-- The vendor a file names as its tool's. -/
def toolVendor : Mdf.Text := text "Eerie Leap"
/-- The comment of a file. -/
def headerComment : Mdf.Text := text "Eerie Leap sensor log"
/-- The largest record ID of one byte. -/
def maxOneByteRecordId : ℕ := 255

/-- `std::to_string`. -/
def decimalText (number : ℕ) : Mdf.Text := text (toString number)

/-- `GetRecordIdSizeBytes`. -/
def getRecordIdSizeBytes (enabledSensorCount : ℕ) : ℕ :=
  if 2 * enabledSensorCount + 1 ≤ maxOneByteRecordId then 1 else 2

/-- `GetSensorComment`. -/
def getSensorComment (sensor : ConfiguredSensor) : Mdf.Text :=
  let name := sensor.metadata.name.bytes
  let description := sensor.metadata.description.bytes
  if description = [] then name
  else (if name = [] then name else name ++ text ": ") ++ description

/-- `ToMdfFormula` of the bytes of an expression. -/
def formulaText (expression : Mdf.Text) : Option Mdf.Text :=
  (toMdfFormula (expression.map fun byte => Char.ofNat byte.toNat)).map
    (·.map fun character => UInt8.ofNat character.toNat)

/-! ### The constructor -/

/-- What the constructor builds: the structure of the file, `targets_`, `target_channel_groups_` by
the indices of the groups, and `next_record_id_`. -/
structure LoggerTargets where
  file : Mdf4Structure
  targets : UInt32 → Option LogTarget := fun _ => none
  targetChannelGroups : List (UInt32 × ℕ) := []
  nextRecordId : ℕ := 1

namespace LoggerTargets

/-- `SetFileMetadata`, and the source that the value groups share. -/
def setFileMetadata (configuration : LoggingConfiguration) (metadata : LoggerMetadata)
    (file : Mdf4Structure) : Mdf4Structure :=
  { file with description := { file.description with
      fileHistoryComment := setTool metadata.toolId toolVendor metadata.toolVersion
      headerComment := some (setComment (text "HD") headerComment [
        (text "device_name", metadata.deviceName),
        (text "product_id", decimalText metadata.productId.toNat),
        (text "device_id", decimalText metadata.deviceId.toNat),
        (text "hw_version", decimalText metadata.hwVersion.toNat),
        (text "sw_version", decimalText metadata.swVersion.toNat),
        (text "sensors_configuration_hash",
          decimalText metadata.sensorsConfigurationHash.toNat),
        (text "logging_interval_ms", decimalText configuration.loggingIntervalMs.toNat)])
      sources := [{
        sourceType := 3
        busType := 0
        name := some (text "Eerie Leap Sensor") }] } }

/-- `find_enabled`. -/
def findEnabled (hash : Foundation.Text → UInt32) (configuration : LoggingConfiguration)
    (sensor : ConfiguredSensor) : Option SensorLoggingConfiguration :=
  if !sensor.isEnabled then none
  else (configuration.sensorConfigurations (hash sensor.id)).filter (·.isEnabled)

/-- `targets_.emplace`, which keeps what is there already, and the group of the target. -/
def addTarget (sensor : UInt32) (target : LogTarget) (group : ℕ) (l : LoggerTargets) :
    LoggerTargets :=
  { l with
    targets := Function.update l.targets sensor ((l.targets sensor).or (some target))
    targetChannelGroups := l.targetChannelGroups ++ [(sensor, group)] }

/-- A change of a channel that leaves its data where it is. -/
def changeChannel (j : ℕ) (change : Channel → Channel) (g : Group) : Option (Unit × Group) :=
  some ((), { g with channels := g.channels.modify j change })

/-- `SetChannelComment`. -/
def setChannelComment (j : ℕ) (comment : Mdf.Text) : Group → Option (Unit × Group) :=
  changeChannel j fun c => { c with comment := some (setComment (text "CN") comment []) }

/-- The comment of a value's channel, where the sensor has one. -/
def addChannelComment (group : ℕ) (sensor : ConfiguredSensor) (file : Mdf4Structure) :
    Option (Unit × Mdf4Structure) :=
  let comment := getSensorComment sensor
  if comment = [] then some ((), file) else file.updateGroup group (setChannelComment 1 comment)

/-- The comment of a group of frames, where the sensor has one. -/
def addGroupComment (group : ℕ) (sensor : ConfiguredSensor) (file : Mdf4Structure) :
    Option (Unit × Mdf4Structure) :=
  let comment := getSensorComment sensor
  if comment = [] then some ((), file)
  else file.updateGroup group fun g =>
    some ((), { g with comment := some (setComment (text "CG") comment []) })

/-- Whether the raw value of a sensor has a channel. -/
def hasRawValueChannel (sensor : ConfiguredSensor) (configuration : SensorLoggingConfiguration) :
    Bool :=
  sensor.configuration.hasExpression && configuration.logRawValue &&
    (SensorType.ofId sensor.configuration.type = some .physicalAnalog ||
      SensorType.ofId sensor.configuration.type = some .physicalIndicator)

/-- The channel for the raw value, the third of its group, with a formula that a reader can evaluate
or the expression as a comment. -/
def addRawValueChannel (group : ℕ) (sensor : ConfiguredSensor) (file : Mdf4Structure) :
    Option (ChannelFields × Mdf4Structure) := do
  let (raw, file) ← file.updateGroup group (Mdf4Structure.createDataChannel
    file.options.recordIdSizeBytes .float32 (sensor.id.bytes ++ text ".raw") [] true)
  match formulaText sensor.configuration.expression.bytes with
  | some formula =>
    let (_, file) ← file.updateGroup group (changeChannel 2 fun c =>
      { c with conversion := some file.description.conversions.length })
    return (raw, { file with description := { file.description with
      conversions := file.description.conversions ++ [formula] } })
  | none =>
    let (_, file) ← file.updateGroup group (setChannelComment 2
      (text "expression: " ++ sensor.configuration.expression.bytes))
    return (raw, file)

/-- `AddValueTarget`. -/
def addValueTarget (hash : Foundation.Text → UInt32) (sensor : ConfiguredSensor)
    (configuration : SensorLoggingConfiguration) (l : LoggerTargets) : Option LoggerTargets := do
  let (group, file) ← l.file.createChannelGroup l.nextRecordId sensor.id.bytes
  -- The sensors of the unit share the first source block.
  let (_, file) ← file.updateGroup group fun g => some ((), { g with source := some 0 })
  let (value, file) ← file.updateGroup group (Mdf4Structure.createDataChannel
    file.options.recordIdSizeBytes .float32 sensor.id.bytes sensor.metadata.unit.bytes true)
  let (_, file) ← addChannelComment group sensor file
  let target : LogTarget := {
    kind := if hasRawValueChannel sensor configuration then .valueWithRaw else .value
    logOnlyNewData := configuration.logOnlyNewData
    valueInvalidMask := 2 ^ value.invalidationBitPos }
  let l := { l with nextRecordId := l.nextRecordId + 1 }
  if hasRawValueChannel sensor configuration then
    let (raw, file) ← addRawValueChannel group sensor file
    return { l with file }.addTarget (hash sensor.id)
      { target with rawValueInvalidMask := 2 ^ raw.invalidationBitPos } group
  else return { l with file }.addTarget (hash sensor.id) target group

/-- `AddCanFrameTarget`. -/
def addCanFrameTarget (hash : Foundation.Text → UInt32) (sensor : ConfiguredSensor)
    (l : LoggerTargets) : Option LoggerTargets := do
  let (vlsd, file) ← l.file.createVLSDChannelGroup l.nextRecordId
  let (group, file) ← file.createCanDataFrameChannelGroup vlsd (l.nextRecordId + 1) sensor.id.bytes
  let (_, file) ← addGroupComment group sensor file
  -- interfaces are numbered from 1, and 0 is an unknown one
  let busChannel := match sensor.configuration.canbusSource with
    | some source => if source.busChannel < 255 then source.busChannel + 1 else 0
    | none => 0
  return { l with file, nextRecordId := l.nextRecordId + 2 }.addTarget (hash sensor.id)
    { kind := .canFrame, busChannel } group

/-- A sensor of the loop. -/
def addSensor (hash : Foundation.Text → UInt32) (configuration : LoggingConfiguration)
    (l : LoggerTargets) (sensor : ConfiguredSensor) : Option LoggerTargets :=
  match findEnabled hash configuration sensor with
  | none => some l
  | some sensorConfiguration =>
    if SensorType.ofId sensor.configuration.type = some .canbusRaw then
      l.addCanFrameTarget hash sensor
    else l.addValueTarget hash sensor sensorConfiguration

/-- The constructor, none when it throws. -/
def create (hash : Foundation.Text → UInt32) (configuration : LoggingConfiguration)
    (sensors : List ConfiguredSensor) (metadata : LoggerMetadata) : Option LoggerTargets := do
  let enabledSensorCount :=
    sensors.countP fun sensor => (findEnabled hash configuration sensor).isSome
  let file ← Mdf4Structure.create {
    recordIdSizeBytes := getRecordIdSizeBytes enabledSensorCount }
  sensors.foldlM (addSensor hash configuration)
    { file := setFileMetadata configuration metadata file }

/-- The group whose writer `StartLogging` gives the target of a sensor: the last one under its
hash. -/
def group (l : LoggerTargets) (sensor : UInt32) : Option ℕ :=
  (l.targetChannelGroups.reverse.find? fun entry => entry.1 = sensor).map Prod.snd

end LoggerTargets

/-! ### What the groups are -/

/-- The fields of the channels of a value group: the time, the value and, where it is logged, the
raw value. -/
def valueFields (hasRawValue : Bool) : List ChannelFields :=
  [(Mdf4Structure.timeChannel .float64).fields, (Mdf4Structure.floatChannel [] [] 8 0).fields] ++
    if hasRawValue then [(Mdf4Structure.floatChannel [] [] 12 1).fields] else []

/-- The group of a value sensor, whatever it is called. -/
structure IsValueGroup (hasRawValue : Bool) (g : Group) : Prop where
  plain : isVlsd g = false
  fields : g.channels.map Channel.fields = valueFields hasRawValue
  flat : ∀ c ∈ g.channels, c.members = []
  dataBytes : g.dataBytes = if hasRawValue then 16 else 12
  invalidationBytes : g.invalidationBytes = 1

namespace IsValueGroup

variable {hasRawValue : Bool} {g : Group}

/-- The channels of a value group. -/
theorem channels (group : IsValueGroup hasRawValue g) :
    (∃ time value, hasRawValue = false ∧ g.channels = [time, value] ∧
      time.fields = (Mdf4Structure.timeChannel .float64).fields ∧
      value.fields = (Mdf4Structure.floatChannel [] [] 8 0).fields) ∨
    ∃ time value raw, hasRawValue = true ∧ g.channels = [time, value, raw] ∧
      time.fields = (Mdf4Structure.timeChannel .float64).fields ∧
      value.fields = (Mdf4Structure.floatChannel [] [] 8 0).fields ∧
      raw.fields = (Mdf4Structure.floatChannel [] [] 12 1).fields := by
  have fields := group.fields
  cases hasRawValue with
  | false =>
    simp only [valueFields, Bool.false_eq_true, if_false, List.append_nil,
      List.map_eq_cons_iff, List.map_eq_nil_iff] at fields
    obtain ⟨time, _, given, isTime, value, _, rfl, isValue, rfl⟩ := fields
    exact .inl ⟨time, value, rfl, given, isTime, isValue⟩
  | true =>
    simp only [valueFields, if_true, List.cons_append, List.nil_append, List.map_eq_cons_iff,
      List.map_eq_nil_iff] at fields
    obtain ⟨time, _, given, isTime, value, _, rfl, isValue, raw, _, rfl, isRaw, rfl⟩ := fields
    exact .inr ⟨time, value, raw, rfl, given, isTime, isValue, isRaw⟩

theorem isPlainGroup (group : IsValueGroup hasRawValue g) : Mdf4Structure.IsPlainGroup g := by
  refine ⟨group.plain, ⟨?_, ?_⟩, group.flat⟩
  · obtain ⟨time, value, -, given, isTime, isValue⟩ |
      ⟨time, value, raw, -, given, isTime, isValue, isRaw⟩ := group.channels
    · rw [given]
      simp only [RecordWriter.Placed, isTime, isValue]
      exact ⟨rfl, rfl, trivial⟩
    · rw [given]
      simp only [RecordWriter.Placed, isTime, isValue, isRaw]
      exact ⟨rfl, rfl, rfl, trivial⟩
  · rw [group.dataBytes]
    obtain ⟨time, value, rfl, given, isTime, isValue⟩ |
      ⟨time, value, raw, rfl, given, isTime, isValue, isRaw⟩ := group.channels
    · rw [given]
      simp only [List.map_cons, isTime, isValue]
      rfl
    · rw [given]
      simp only [List.map_cons, isTime, isValue, isRaw]
      rfl

/-- The values that a value group takes. -/
theorem valueTypes (group : IsValueGroup hasRawValue g) :
    g.channels.map (·.fields.valueType) =
      some .float64 :: some .float32 :: if hasRawValue then [some .float32] else [] := by
  have types : g.channels.map (·.fields.valueType) =
      (g.channels.map Channel.fields).map ChannelFields.valueType := by
    rw [List.map_map]
    rfl
  rw [types, group.fields]
  cases hasRawValue <;> decide

/-- The invalidation bits of a value group. -/
theorem usedBits (group : IsValueGroup hasRawValue g) :
    RecordWriter.usedBits g.channels = if hasRawValue then 3 else 1 := by
  obtain ⟨time, value, rfl, given, isTime, isValue⟩ |
    ⟨time, value, raw, rfl, given, isTime, isValue, isRaw⟩ := group.channels
  · rw [given]
    simp only [RecordWriter.usedBits, List.foldl_cons, List.foldl_nil, isTime, isValue]
    rfl
  · rw [given]
    simp only [RecordWriter.usedBits, List.foldl_cons, List.foldl_nil, isTime, isValue, isRaw]
    rfl

/-- A value group has a record writer. -/
theorem isSome_create {recordIdSize : ℕ} (group : IsValueGroup hasRawValue g)
    (small : recordIdSize ≤ 8) : (RecordWriter.create recordIdSize g).isSome = true := by
  have size := group.dataBytes
  have bytes : g.dataBytes ≤ 16 := by split_ifs at size <;> omega
  have fields : g.channels.length ≤ RecordWriter.maxFields ∧
      (g.channels.mapM fun c => RecordWriter.fieldOf recordIdSize (recordIdSize + g.dataBytes)
        g.invalidationBytes c.fields).isSome = true := by
    rw [size, group.invalidationBytes]
    have inside {a b c : ℕ} (fits : b + c ≤ a) : ¬recordIdSize + a < recordIdSize + b + c := by
      omega
    obtain ⟨time, value, rfl, given, isTime, isValue⟩ |
      ⟨time, value, raw, rfl, given, isTime, isValue, isRaw⟩ := group.channels
    · rw [given]
      refine ⟨by simp [RecordWriter.maxFields], ?_⟩
      simp only [List.mapM_cons, List.mapM_nil, isTime, isValue, RecordWriter.fieldOf]
      rw [if_neg (inside (by decide)), if_neg (inside (by decide))]
      rfl
    · rw [given]
      refine ⟨by simp [RecordWriter.maxFields], ?_⟩
      simp only [List.mapM_cons, List.mapM_nil, isTime, isValue, isRaw, RecordWriter.fieldOf]
      rw [if_neg (inside (by decide)), if_neg (inside (by decide)), if_neg (inside (by decide))]
      rfl
  unfold RecordWriter.create
  dsimp only
  rw [group.plain, group.invalidationBytes, if_neg Bool.false_ne_true, if_neg (by decide),
    if_neg (by simp only [RecordWriter.maxRecordBytes]; omega), if_neg (Nat.not_lt.mpr fields.1),
    Option.isSome_map]
  rw [group.invalidationBytes] at fields
  exact fields.2

end IsValueGroup

/-- The group that a target writes to is one of its kind. -/
inductive LogTarget.Matches (s : Mdf4Structure) (target : LogTarget) (i : ℕ) : Prop where
  | value {g : Group} (kind : target.kind = .value) (listed : i ∈ s.recordChannelGroups)
      (found : s.description.groups[i]? = some g) (group : IsValueGroup false g)
      (mask : target.valueInvalidMask = 1)
  | valueWithRaw {g : Group} (kind : target.kind = .valueWithRaw)
      (listed : i ∈ s.recordChannelGroups) (found : s.description.groups[i]? = some g)
      (group : IsValueGroup true g) (mask : target.valueInvalidMask = 1)
      (rawMask : target.rawValueInvalidMask = 2)
  | canFrame {j : ℕ} (kind : target.kind = .canFrame) (listed : (i, j) ∈ s.canChannelGroups)

/-- A target keeps its group while the file grows. -/
theorem LogTarget.Matches.mono {s after : Mdf4Structure} {target : LogTarget} {i : ℕ}
    (matched : target.Matches s i)
    (groups : ∃ new, after.description.groups = s.description.groups ++ new)
    (record : ∃ new, after.recordChannelGroups = s.recordChannelGroups ++ new)
    (can : ∃ new, after.canChannelGroups = s.canChannelGroups ++ new) :
    target.Matches after i := by
  obtain ⟨newGroups, groups⟩ := groups
  obtain ⟨newRecord, record⟩ := record
  obtain ⟨newCan, can⟩ := can
  have kept {g : Group} (found : s.description.groups[i]? = some g) :
      after.description.groups[i]? = some g := by
    rw [groups, List.getElem?_append_left (List.getElem?_eq_some_iff.mp found).1, found]
  cases matched with
  | value kind listed found group mask =>
    exact .value kind (by rw [record]; exact List.mem_append_left _ listed) (kept found) group mask
  | valueWithRaw kind listed found group mask rawMask =>
    exact .valueWithRaw kind (by rw [record]; exact List.mem_append_left _ listed) (kept found)
      group mask rawMask
  | canFrame kind listed =>
    exact .canFrame kind (by rw [can]; exact List.mem_append_left _ listed)

namespace LoggerTargets

/-- The groups of the file are those that the targets are for. -/
structure Sound (l : LoggerTargets) : Prop where
  file : l.file.Sound
  recordIdSize : l.file.options.recordIdSizeBytes ≤ 2
  timeType : l.file.options.timeType = .float64
  vlsdOffsetSize : l.file.options.vlsdOffsetSizeBytes = 8
  values : ∀ i ∈ l.file.recordChannelGroups, ∃ hasRawValue g,
    l.file.description.groups[i]? = some g ∧ IsValueGroup hasRawValue g
  payloads : (l.file.canChannelGroups.map Prod.snd).Nodup
  matched : ∀ entry ∈ l.targetChannelGroups, ∃ target, l.targets entry.1 = some target ∧
    target.Matches l.file entry.2
  grouped : ∀ sensor target, l.targets sensor = some target →
    ∃ i, (sensor, i) ∈ l.targetChannelGroups
  recordIds : ∀ g ∈ l.file.description.groups, g.recordId < l.nextRecordId

/-- What the target of a new sensor adds: its groups, with the next record IDs. -/
structure Adds (sensor : UInt32) (l after : LoggerTargets) : Prop where
  options : after.file.options = l.file.options
  file : l.file.Sound → after.file.Sound
  groups : ∃ new, after.file.description.groups = l.file.description.groups ++ new ∧
    new.map Group.recordId = List.range' l.nextRecordId new.length ∧
    after.nextRecordId = l.nextRecordId + new.length ∧ new.length ≤ 2
  record : ∃ new, after.file.recordChannelGroups = l.file.recordChannelGroups ++ new ∧
    ∀ i ∈ new, ∃ hasRawValue g, after.file.description.groups[i]? = some g ∧
      IsValueGroup hasRawValue g
  can : ∃ new, after.file.canChannelGroups = l.file.canChannelGroups ++ new ∧
    (new.map Prod.snd).Nodup ∧ ∀ groups ∈ new, l.file.description.groups.length ≤ groups.2
  target : ∃ target group, after.targets = Function.update l.targets sensor
      ((l.targets sensor).or (some target)) ∧
    after.targetChannelGroups = l.targetChannelGroups ++ [(sensor, group)] ∧
    target.Matches after.file group

variable {l after : LoggerTargets} {hash : Foundation.Text → UInt32}

/-- A block for the next record ID is refused only for want of room. -/
private theorem createChannelGroupBlock_eq_some {s : Mdf4Structure} {g : Group}
    (earlier : ∀ other ∈ s.description.groups, other.recordId < g.recordId)
    (room : g.recordId < 256 ^ s.options.recordIdSizeBytes) :
    s.createChannelGroupBlock g = some (s.withGroup g) := by
  unfold Mdf4Structure.createChannelGroupBlock
  rw [if_neg, if_neg]
  · rfl
  · rw [Nat.mul_comm, Nat.pow_mul]
    exact fun full => absurd room (Nat.not_lt.mpr full.2)
  · intro taken
    obtain ⟨other, member, same⟩ := List.mem_map.mp taken
    exact absurd (earlier other member) (Nat.not_lt.mpr same.ge)

/-- The group of a value sensor before its channels. -/
private def startedGroup (recordId : ℕ) (name : Mdf.Text) : Group where
  recordId := recordId
  name := some name
  channels := [Mdf4Structure.timeChannel .float64]
  dataBytes := 8

private theorem createChannelGroup_eq (timeType : l.file.options.timeType = .float64)
    (name : Mdf.Text) : l.file.createChannelGroup l.nextRecordId name =
      (l.file.createChannelGroupBlock (startedGroup l.nextRecordId name)).map fun _ =>
        (l.file.description.groups.length, { l.file with recordChannelGroups :=
          l.file.recordChannelGroups ++ [l.file.description.groups.length] }.withGroup
            (startedGroup l.nextRecordId name)) := by
  have time : l.file.timeChannelGroup l.nextRecordId name =
      some (startedGroup l.nextRecordId name) := by
    rw [Mdf4Structure.timeChannelGroup, timeType]
    rfl
  rw [Mdf4Structure.createChannelGroup, time]
  cases block : l.file.createChannelGroupBlock (startedGroup l.nextRecordId name) with
  | none => simp [block]
  | some added =>
    obtain ⟨rfl, -, -⟩ := Mdf4Structure.createChannelGroupBlock_eq block
    simp [block, Mdf4Structure.withGroup]

/-- A change that keeps a part of every entry keeps it in the whole list. -/
private theorem map_modify_of_keeps {α β : Type} {part : α → β} {change : α → α}
    (keeps : ∀ a, part (change a) = part a) (l : List α) (j : ℕ) :
    (l.modify j change).map part = l.map part := by
  apply List.ext_getElem?
  intro k
  rw [List.getElem?_map, List.getElem?_modify, List.getElem?_map]
  cases l[k]? with
  | none => rfl
  | some a =>
    by_cases here : j = k
    · simp [here, keeps]
    · simp [here]

private theorem changeChannel_spec {hasRawValue : Bool} {g : Group}
    (group : IsValueGroup hasRawValue g) (j : ℕ) (change : Channel → Channel)
    (fields : ∀ c, (change c).fields = c.fields) (members : ∀ c, (change c).members = c.members) :
    ∃ after, changeChannel j change g = some ((), after) ∧ IsValueGroup hasRawValue after ∧
      after.recordId = g.recordId := by
  refine ⟨_, rfl, ⟨group.plain, ?_, ?_, group.dataBytes, group.invalidationBytes⟩, rfl⟩
  · exact (map_modify_of_keeps fields _ _).trans group.fields
  · intro c member
    have listed := List.mem_map_of_mem (f := Channel.members) member
    rw [map_modify_of_keeps members] at listed
    obtain ⟨old, there, same⟩ := List.mem_map.mp listed
    rw [← same]
    exact group.flat old there

/-- The value's channel is the second of its group. -/
private theorem createDataChannel_started {recordIdSize : ℕ} (small : recordIdSize ≤ 2)
    (recordId : ℕ) (name id unit : Mdf.Text) :
    ∃ fields g, Mdf4Structure.createDataChannel recordIdSize .float32 id unit true
        { startedGroup recordId name with source := some 0 } = some (fields, g) ∧
      fields.invalidationBitPos = 0 ∧ IsValueGroup false g ∧ g.recordId = recordId := by
  have created := @Mdf4Structure.createDataChannel_float32
    { startedGroup recordId name with source := some 0 } recordIdSize id unit
    (by simp [startedGroup, RecordWriter.maxFields])
    (by simp [startedGroup, Mdf4Structure.timeChannel, toMdf4ChannelDataType,
      ChannelFields.hasInvalidationBit, Mdf4Structure.maxInvalidationBits,
      Mdf4Structure.invalidationBytes])
    (by
      simp only [startedGroup, Mdf4Structure.invalidationBytes, RecordWriter.maxRecordBytes]
      omega)
  refine ⟨_, _, created, rfl, ⟨rfl, rfl, ?_, rfl, rfl⟩, rfl⟩
  intro c member
  rcases List.mem_append.mp member with old | new
  · rw [List.mem_singleton.mp old]
    rfl
  · rw [List.mem_singleton.mp new]
    rfl

/-- The raw value's channel is the third. -/
private theorem createDataChannel_raw {recordIdSize : ℕ} {g : Group}
    (small : recordIdSize ≤ 2) (group : IsValueGroup false g) (id unit : Mdf.Text) :
    ∃ fields after, Mdf4Structure.createDataChannel recordIdSize .float32 id unit true g =
        some (fields, after) ∧
      fields.invalidationBitPos = 1 ∧ IsValueGroup true after ∧ after.recordId = g.recordId := by
  have length : g.channels.length = 2 := by
    rw [← List.length_map Channel.fields, group.fields]
    rfl
  have bits : (g.channels.filter (·.fields.hasInvalidationBit)).length = 1 := by
    have marked : (g.channels.filter (·.fields.hasInvalidationBit)).map Channel.fields =
        (g.channels.map Channel.fields).filter ChannelFields.hasInvalidationBit := by
      rw [List.filter_map]
      rfl
    rw [← List.length_map Channel.fields, marked, group.fields]
    rfl
  have created := @Mdf4Structure.createDataChannel_float32 g recordIdSize id unit
    (by rw [length]; decide) (by rw [bits]; decide)
    (by
      rw [group.dataBytes, group.invalidationBytes, if_neg Bool.false_ne_true]
      simp only [Mdf4Structure.invalidationBytes, RecordWriter.maxRecordBytes]
      omega)
  rw [bits, group.dataBytes, group.invalidationBytes] at created
  refine ⟨_, _, created, rfl, ⟨group.plain, ?_, ?_, rfl, rfl⟩, rfl⟩
  · rw [List.map_append, group.fields]
    rfl
  · intro c member
    rcases List.mem_append.mp member with old | new
    · exact group.flat c old
    · rw [List.mem_singleton.mp new]
      rfl

private theorem addRawValueChannel_spec {s : Mdf4Structure} {g : Group}
    (small : s.options.recordIdSizeBytes ≤ 2) (group : IsValueGroup false g)
    (sensor : ConfiguredSensor) :
    ∃ fields after conversions,
      addRawValueChannel s.description.groups.length sensor (s.withGroup g) = some (fields,
        { s with description := { s.description with conversions := conversions } }.withGroup
          after) ∧
      fields.invalidationBitPos = 1 ∧ IsValueGroup true after ∧ after.recordId = g.recordId := by
  obtain ⟨fields, raw, created, position, isValue, sameId⟩ :=
    createDataChannel_raw small group (sensor.id.bytes ++ text ".raw") []
  have size : (s.withGroup g).options.recordIdSizeBytes = s.options.recordIdSizeBytes := rfl
  unfold addRawValueChannel
  rw [Mdf4Structure.updateGroup_withGroup, size, created]
  simp only [Option.map_some, Option.bind_some, Option.pure_def, Option.bind_eq_bind]
  cases formulaText sensor.configuration.expression.bytes with
  | some formula =>
    obtain ⟨after, changed, isValue', sameId'⟩ := changeChannel_spec isValue 2
      (fun c => { c with conversion := some (s.withGroup raw).description.conversions.length })
      (fun _ => rfl) (fun _ => rfl)
    refine ⟨fields, after, s.description.conversions ++ [formula], ?_, position, isValue',
      sameId'.trans sameId⟩
    dsimp only
    rw [Mdf4Structure.updateGroup_withGroup, changed]
    rfl
  | none =>
    obtain ⟨after, changed, isValue', sameId'⟩ := changeChannel_spec isValue 2
      (fun c => { c with comment := some (setComment (text "CN")
        (text "expression: " ++ sensor.configuration.expression.bytes) []) })
      (fun _ => rfl) (fun _ => rfl)
    refine ⟨fields, after, s.description.conversions, ?_, position, isValue',
      sameId'.trans sameId⟩
    dsimp only
    rw [Mdf4Structure.updateGroup_withGroup, setChannelComment, changed]
    rfl

/-- What `AddValueTarget` adds to a file that has room for its group. -/
private theorem addValueTarget_eq (hash : Foundation.Text → UInt32)
    (timeType : l.file.options.timeType = .float64)
    (small : l.file.options.recordIdSizeBytes ≤ 2) (sensor : ConfiguredSensor)
    (configuration : SensorLoggingConfiguration) {added : Mdf4Structure}
    (block : l.file.createChannelGroupBlock (startedGroup l.nextRecordId sensor.id.bytes) =
      some added) :
    ∃ g conversions target, IsValueGroup (hasRawValueChannel sensor configuration) g ∧
      g.recordId = l.nextRecordId ∧
      target.kind = (if hasRawValueChannel sensor configuration then .valueWithRaw else .value) ∧
      target.valueInvalidMask = 1 ∧
      (hasRawValueChannel sensor configuration = true → target.rawValueInvalidMask = 2) ∧
      l.addValueTarget hash sensor configuration = some ({ l with
            file := { l.file with
              description := { l.file.description with
                groups := l.file.description.groups ++ [g]
                conversions := conversions }
              recordChannelGroups :=
                l.file.recordChannelGroups ++ [l.file.description.groups.length] }
            nextRecordId := l.nextRecordId + 1 }.addTarget (hash sensor.id) target
              l.file.description.groups.length) := by
  obtain ⟨base, same⟩ : ∃ base : Mdf4Structure, base = { l.file with recordChannelGroups :=
    l.file.recordChannelGroups ++ [l.file.description.groups.length] } := ⟨_, rfl⟩
  have place : l.file.description.groups.length = base.description.groups.length := by rw [same]
  have small' : base.options.recordIdSizeBytes ≤ 2 := by rw [same]; exact small
  have size (g : Group) : (base.withGroup g).options.recordIdSizeBytes =
    base.options.recordIdSizeBytes := rfl
  obtain ⟨fields, valued, created, position, isValue, recordId⟩ := createDataChannel_started small'
    l.nextRecordId sensor.id.bytes sensor.id.bytes sensor.metadata.unit.bytes
  -- the comment, if there is one, leaves a value group
  obtain ⟨g, commented, isValue', recordId'⟩ : ∃ g,
      addChannelComment base.description.groups.length sensor (base.withGroup valued) =
        some ((), base.withGroup g) ∧ IsValueGroup false g ∧ g.recordId = l.nextRecordId := by
    unfold addChannelComment
    dsimp only
    split_ifs with silent
    · exact ⟨valued, rfl, isValue, recordId⟩
    · obtain ⟨after, changed, isValue', sameId⟩ := changeChannel_spec isValue 1
        (fun c => { c with comment := some (setComment (text "CN")
          (getSensorComment sensor) []) }) (fun _ => rfl) (fun _ => rfl)
      refine ⟨after, ?_, isValue', sameId.trans recordId⟩
      rw [Mdf4Structure.updateGroup_withGroup, setChannelComment, changed]
      rfl
  unfold addValueTarget
  rw [createChannelGroup_eq timeType, block, ← same, place]
  simp only [Option.map_some, Option.bind_some, Option.pure_def, Option.bind_eq_bind,
    Mdf4Structure.updateGroup_withGroup, size, created]
  simp only [Option.bind_some, commented]
  cases hasRaw : hasRawValueChannel sensor configuration with
  | false =>
    refine ⟨g, base.description.conversions, {
      kind := .value
      logOnlyNewData := configuration.logOnlyNewData
      valueInvalidMask := 2 ^ fields.invalidationBitPos }, isValue', recordId', rfl, ?_,
      by simp, ?_⟩
    · simp only [position, Nat.pow_zero]
    · simp only [if_neg Bool.false_ne_true, same]
      rfl
  | true =>
    obtain ⟨rawFields, after, conversions, added, rawPosition, isValue'', sameId⟩ :=
      addRawValueChannel_spec small' isValue' sensor
    refine ⟨after, conversions, {
      kind := .valueWithRaw
      logOnlyNewData := configuration.logOnlyNewData
      valueInvalidMask := 2 ^ fields.invalidationBitPos
      rawValueInvalidMask := 2 ^ rawFields.invalidationBitPos }, isValue'', sameId.trans recordId',
      rfl, ?_, fun _ => ?_, ?_⟩
    · simp only [position, Nat.pow_zero]
    · simp only [rawPosition, Nat.pow_one]
    · rw [if_pos rfl, added, same]
      rfl

/-- Whether a block is refused depends on its record ID only. -/
private theorem createChannelGroupBlock_congr {s added : Mdf4Structure} {g other : Group}
    (same : other.recordId = g.recordId) (created : s.createChannelGroupBlock g = some added) :
    s.createChannelGroupBlock other = some (s.withGroup other) := by
  unfold Mdf4Structure.createChannelGroupBlock at created ⊢
  rw [same]
  split_ifs at created ⊢
  rfl

/-- The record IDs of a file of the logger are small. -/
private theorem recordId_lt {s added : Mdf4Structure} {g : Group}
    (small : s.options.recordIdSizeBytes ≤ 2) (created : s.createChannelGroupBlock g = some added) :
    g.recordId < 2 ^ 64 := by
  obtain ⟨-, -, fits⟩ := Mdf4Structure.createChannelGroupBlock_eq created
  calc g.recordId < 2 ^ (s.options.recordIdSizeBytes * 8) := fits (by omega)
    _ ≤ 2 ^ 64 := Nat.pow_le_pow_right (by omega) (by omega)

theorem addValueTarget_spec (hash : Foundation.Text → UInt32) (sound : Sound l)
    (sensor : ConfiguredSensor) (configuration : SensorLoggingConfiguration) :
    (l.nextRecordId < 256 ^ l.file.options.recordIdSizeBytes →
      (l.addValueTarget hash sensor configuration).isSome = true) ∧
    ∀ after, l.addValueTarget hash sensor configuration = some after →
      Adds (hash sensor.id) l after := by
  refine ⟨fun room => ?_, fun after added => ?_⟩
  · have block : l.file.createChannelGroupBlock (startedGroup l.nextRecordId sensor.id.bytes) =
        some _ := createChannelGroupBlock_eq_some sound.recordIds room
    obtain ⟨g, conversions, target, -, -, -, -, -, built⟩ := addValueTarget_eq hash sound.timeType
      sound.recordIdSize sensor configuration block
    rw [built]
    rfl
  · obtain ⟨created, block⟩ : ∃ created, l.file.createChannelGroupBlock
        (startedGroup l.nextRecordId sensor.id.bytes) = some created := by
      rw [← Option.isSome_iff_exists]
      by_contra refused
      rw [Option.not_isSome_iff_eq_none] at refused
      rw [addValueTarget, createChannelGroup_eq sound.timeType, refused] at added
      cases added
    obtain ⟨g, conversions, target, isValue, recordId, kind, mask, rawMask, built⟩ :=
      addValueTarget_eq hash sound.timeType sound.recordIdSize sensor configuration block
    obtain rfl := Option.some.inj (built.symm.trans added)
    -- The channels were filled in after the group was created; its record ID stayed.
    have block' : l.file.createChannelGroupBlock g = some (l.file.withGroup g) :=
      createChannelGroupBlock_congr recordId block
    have here : (l.file.description.groups ++ [g])[l.file.description.groups.length]? =
      some g := by simp
    refine ⟨rfl, fun file => ?_, ⟨[g], rfl, ?_, rfl, by simp⟩, ⟨[_], rfl, ?_⟩,
      ⟨[], (List.append_nil _).symm, List.nodup_nil, List.forall_mem_nil _⟩,
      target, _, rfl, rfl, ?_⟩
    · have more := file.addRecordGroup (recordId_lt sound.recordIdSize block') isValue.isPlainGroup
        block'
      exact ⟨more.recordIdSize, more.someId, more.distinct, more.recordIds, more.plain, more.can,
        more.apart⟩
    · rw [List.map_singleton, recordId]
      rfl
    · intro i member
      rw [List.mem_singleton.mp member]
      exact ⟨_, g, here, isValue⟩
    · cases hasRaw : hasRawValueChannel sensor configuration with
      | false =>
        rw [hasRaw] at isValue kind
        exact .value kind (List.mem_append_right _ (List.mem_singleton_self _)) here isValue mask
      | true =>
        rw [hasRaw] at isValue kind
        exact .valueWithRaw kind (List.mem_append_right _ (List.mem_singleton_self _)) here isValue
          mask (rawMask hasRaw)

/-- A group of CAN data frames is refused only where its block is. -/
private theorem isSome_createCanDataFrameChannelGroup {s : Mdf4Structure} {j : ℕ} {vlsd : Group}
    (timeType : s.options.timeType = .float64) (vlsdOffsetSize : s.options.vlsdOffsetSizeBytes = 8)
    (found : s.description.groups[j]? = some vlsd) (isVlsd_ : isVlsd vlsd = true) (recordId : ℕ)
    (name : Mdf.Text) : ∃ g : Group, g.recordId = recordId ∧
      (s.createCanDataFrameChannelGroup j recordId name).isSome =
        (s.createChannelGroupBlock g).isSome := by
  have time : s.timeChannelGroup recordId name = some (startedGroup recordId name) := by
    rw [Mdf4Structure.timeChannelGroup, timeType]
    rfl
  obtain ⟨frame, framed⟩ : ∃ frame : Channel, frame = { Mdf4Structure.createChannelBlock .byteArray
      (text "CAN_DataFrame") [] with
    fields := { (Mdf4Structure.createChannelBlock .byteArray (text "CAN_DataFrame") []).fields with
      flags := Mdf4Structure.busEventFlag
      bitCount := CanRecordWriter.frameSizeBytes 8 * 8 }
    members := Mdf4Structure.canMembers 8 8 j } := ⟨_, rfl⟩
  have size : frame.fields.dataSizeBytes = CanRecordWriter.frameSizeBytes 8 := by
    rw [framed]
    simp [ChannelFields.dataSizeBytes, Mdf4Structure.createChannelBlock, toMdf4ChannelDataType,
      CanRecordWriter.frameSizeBytes, CanRecordWriter.dataBytesOffset]
  obtain ⟨g, added, sameId, dataBytes⟩ : ∃ g,
      addChannel frame (startedGroup recordId name) = some g ∧ g.recordId = recordId ∧
        g.dataBytes = 8 + CanRecordWriter.frameSizeBytes 8 := by
    rw [addChannel, size, if_neg (by decide)]
    exact ⟨_, rfl, rfl, rfl⟩
  refine ⟨{ g with
    flags := Mdf4Structure.canGroupFlags
    pathSeparator := 46
    source := some s.description.sources.length }, sameId, ?_⟩
  unfold Mdf4Structure.createCanDataFrameChannelGroup
  rw [found, time, vlsdOffsetSize]
  simp only [Option.bind_eq_bind, Option.bind_some, Option.pure_def, isVlsd_, Bool.not_true,
    Bool.false_eq_true, if_false]
  rw [show (startedGroup recordId name).dataBytes = 8 from rfl, ← framed, added]
  simp only [Option.bind_some, if_neg (not_not.mpr dataBytes)]
  cases s.createChannelGroupBlock { g with
    flags := Mdf4Structure.canGroupFlags
    pathSeparator := 46
    source := some s.description.sources.length } <;> rfl

private theorem addGroupComment_eq (base : Mdf4Structure) (g : Group)
    (sensor : ConfiguredSensor) :
    ∃ comment, addGroupComment base.description.groups.length sensor (base.withGroup g) =
      some ((), base.withGroup { g with comment := comment }) := by
  unfold addGroupComment
  dsimp only
  split_ifs
  · exact ⟨g.comment, rfl⟩
  · rw [Mdf4Structure.updateGroup_withGroup]
    exact ⟨_, rfl⟩

/-- The group for payloads of a sensor with frames. -/
private def payloadGroup (recordId : ℕ) : Group where
  recordId := recordId
  flags := vlsdChannelFlag

private theorem createVLSDChannelGroup_eq : l.file.createVLSDChannelGroup l.nextRecordId =
    (l.file.createChannelGroupBlock (payloadGroup l.nextRecordId)).map fun _ =>
      (l.file.description.groups.length, l.file.withGroup (payloadGroup l.nextRecordId)) := by
  rw [Mdf4Structure.createVLSDChannelGroup]
  cases block : l.file.createChannelGroupBlock (payloadGroup l.nextRecordId) with
  | none =>
    rw [payloadGroup] at block
    simp [block]
  | some added =>
    obtain ⟨rfl, -, -⟩ := Mdf4Structure.createChannelGroupBlock_eq block
    rw [payloadGroup] at block
    simp [block, Mdf4Structure.withGroup, payloadGroup]

/-- A group of CAN data frames is the last of the file it is created in. -/
private theorem createCanDataFrameChannelGroup_last {s after : Mdf4Structure} {j recordId i : ℕ}
    {name : Mdf.Text}
    (created : s.createCanDataFrameChannelGroup j recordId name = some (i, after)) :
    ∃ (g : Group) (base : Mdf4Structure), g.recordId = recordId ∧
      i = s.description.groups.length ∧
      after = base.withGroup g ∧ base.options = s.options ∧
      base.description.groups = s.description.groups ∧
      base.recordChannelGroups = s.recordChannelGroups ∧
      base.canChannelGroups = s.canChannelGroups ++ [(i, j)] := by
  obtain ⟨g, added, -, recordId', -, -, -, place, block, options, -, groups, record, can⟩ :=
    Mdf4Structure.createCanDataFrameChannelGroup_eq created
  obtain ⟨rfl, -, -⟩ := Mdf4Structure.createChannelGroupBlock_eq block
  refine ⟨g, { after with description := { after.description with
    groups := s.description.groups } }, recordId', place, ?_, options, rfl, record, can⟩
  dsimp only at groups
  simp only [Mdf4Structure.withGroup, ← groups]

private theorem sound_addGroupComment {s after : Mdf4Structure} {i : ℕ} {sensor : ConfiguredSensor}
    (sound : s.Sound) (commented : addGroupComment i sensor s = some ((), after)) :
    after.Sound := by
  unfold addGroupComment at commented
  dsimp only at commented
  split_ifs at commented
  · obtain rfl := (Prod.mk.inj (Option.some.inj commented)).2
    exact sound
  · let change (g : Group) : Group :=
      { g with comment := some (setComment (text "CG") (getSensorComment sensor) []) }
    have keeps (g : Group) : (change g).recordId = g.recordId ∧ (change g).flags = g.flags ∧
        (change g).dataBytes = g.dataBytes ∧
        (change g).invalidationBytes = g.invalidationBytes ∧
        (change g).channels = g.channels := ⟨rfl, rfl, rfl, rfl, rfl⟩
    exact sound.relabelGroup keeps commented

theorem addCanFrameTarget_spec (sound : Sound l) (sensor : ConfiguredSensor) :
    (l.nextRecordId + 1 < 256 ^ l.file.options.recordIdSizeBytes →
      (l.addCanFrameTarget hash sensor).isSome = true) ∧
    ∀ after, l.addCanFrameTarget hash sensor = some after → Adds (hash sensor.id) l after := by
  let withPayloads := l.file.withGroup (payloadGroup l.nextRecordId)
  have payload : withPayloads.description.groups[l.file.description.groups.length]? =
      some (payloadGroup l.nextRecordId) := by
    simp [withPayloads, Mdf4Structure.withGroup]
  unfold addCanFrameTarget
  rw [createVLSDChannelGroup_eq]
  refine ⟨fun room => ?_, fun after added => ?_⟩
  · have block : l.file.createChannelGroupBlock (payloadGroup l.nextRecordId) = some _ :=
      createChannelGroupBlock_eq_some sound.recordIds (Nat.lt_of_succ_lt room)
    obtain ⟨g, sameId, same⟩ := isSome_createCanDataFrameChannelGroup (s := withPayloads)
      sound.timeType sound.vlsdOffsetSize payload rfl (l.nextRecordId + 1) sensor.id.bytes
    -- The frames take the next record ID after the payloads.
    have block' : withPayloads.createChannelGroupBlock g = some (withPayloads.withGroup g) := by
      refine createChannelGroupBlock_eq_some (fun other member => ?_) (by rw [sameId]; exact room)
      rw [sameId]
      rcases List.mem_append.mp member with old | new
      · exact Nat.lt_succ_of_lt (sound.recordIds other old)
      · rw [List.mem_singleton.mp new]
        exact Nat.lt_succ_self _
    rw [block', Option.isSome_some] at same
    obtain ⟨⟨i, framed⟩, created⟩ := Option.isSome_iff_exists.mp same
    obtain ⟨g', base, -, place, rfl, -, groups, -, -⟩ := createCanDataFrameChannelGroup_last created
    obtain ⟨comment, commented⟩ := addGroupComment_eq base g' sensor
    rw [groups, ← place] at commented
    rw [block]
    simp only [Option.map_some, Option.bind_some, Option.pure_def, Option.bind_eq_bind]
    rw [show Mdf4Structure.createCanDataFrameChannelGroup l.file.description.groups.length
      (l.nextRecordId + 1) sensor.id.bytes (l.file.withGroup (payloadGroup l.nextRecordId)) =
        some (i, base.withGroup g') from created]
    simp only [Option.bind_some, commented, Option.isSome_some]
  · cases block : l.file.createChannelGroupBlock (payloadGroup l.nextRecordId) with
    | none =>
      rw [block] at added
      cases added
    | some blocked =>
      rw [block] at added
      simp only [Option.map_some, Option.bind_some, Option.pure_def, Option.bind_eq_bind] at added
      -- Three steps that can fail: the payload group, the frame group, and its comment.
      obtain ⟨⟨i, framed⟩, created, added⟩ := Option.bind_eq_some_iff.mp added
      obtain ⟨⟨⟨⟩, commented⟩, comment, added⟩ := Option.bind_eq_some_iff.mp added
      obtain rfl := Option.some.inj added
      change withPayloads.createCanDataFrameChannelGroup l.file.description.groups.length
        (l.nextRecordId + 1) sensor.id.bytes = some (i, framed) at created
      dsimp only at comment
      have file (file : l.file.Sound) : commented.Sound := by
        have small : l.nextRecordId < 2 ^ 64 := recordId_lt sound.recordIdSize block
        have built : l.file.createVLSDChannelGroup l.nextRecordId =
            some (l.file.description.groups.length, withPayloads) := by
          rw [createVLSDChannelGroup_eq, block]
          rfl
        have vlsd := file.createVLSDChannelGroup small built
        obtain ⟨g, added, -, recordId, -, -, -, -, block', -⟩ :=
          Mdf4Structure.createCanDataFrameChannelGroup_eq created
        have word : l.nextRecordId + 1 < 2 ^ 64 := by
          rw [← recordId]
          exact recordId_lt (s := withPayloads) sound.recordIdSize block'
        exact sound_addGroupComment (vlsd.createCanDataFrameChannelGroup word created) comment
      obtain ⟨g, base, recordId, place, rfl, options, groups, record, can⟩ :=
        createCanDataFrameChannelGroup_last created
      obtain ⟨text, commented'⟩ := addGroupComment_eq base g sensor
      rw [groups, ← place, comment] at commented'
      obtain ⟨-, rfl⟩ := Prod.mk.inj (Option.some.inj commented')
      refine ⟨options, file, ⟨[payloadGroup l.nextRecordId, { g with comment := text }], ?_, ?_,
        rfl, by simp⟩, ⟨[], ?_, List.forall_mem_nil _⟩,
        ⟨[(i, l.file.description.groups.length)], can, by simp, ?_⟩, _, i, rfl, rfl,
        .canFrame (j := l.file.description.groups.length) rfl ?_⟩
      · simp [addTarget, Mdf4Structure.withGroup, groups, withPayloads]
      · simp [List.range', payloadGroup, recordId]
      · simp only [addTarget, List.append_nil]
        exact record
      · intro entry member
        rw [List.mem_singleton.mp member]
      · change (i, l.file.description.groups.length) ∈ base.canChannelGroups
        rw [can]
        simp

/-! ### The whole constructor -/

theorem Sound.adds {sensor : UInt32} (sound : Sound l) (fresh : l.targets sensor = none)
    (adds : Adds sensor l after) : Sound after := by
  obtain ⟨newGroups, groups, recordIds, next, -⟩ := adds.groups
  obtain ⟨newRecord, record, values⟩ := adds.record
  obtain ⟨newCan, can, distinct, behind⟩ := adds.can
  obtain ⟨target, group, targets, targetGroups, matched⟩ := adds.target
  rw [fresh, Option.none_or] at targets
  -- Everything is appended, so what the old targets point at stays where it is.
  refine ⟨adds.file sound.file, ?_, ?_, ?_, ?_, ?_, ?_, ?_, ?_⟩
  · rw [adds.options]
    exact sound.recordIdSize
  · rw [adds.options]
    exact sound.timeType
  · rw [adds.options]
    exact sound.vlsdOffsetSize
  · intro i member
    rw [record] at member
    rcases List.mem_append.mp member with old | new
    · obtain ⟨hasRawValue, g, found, isValue⟩ := sound.values i old
      refine ⟨hasRawValue, g, ?_, isValue⟩
      rw [groups, List.getElem?_append_left (List.getElem?_eq_some_iff.mp found).1, found]
    · exact values i new
  · rw [can, List.map_append]
    refine List.nodup_append.mpr ⟨sound.payloads, distinct, ?_⟩
    rintro a old b new rfl
    obtain ⟨entry, listed, rfl⟩ := List.mem_map.mp old
    obtain ⟨entry', listed', same⟩ := List.mem_map.mp new
    obtain ⟨-, vlsd, -, -, found, -⟩ := sound.file.can entry listed
    have inside := (List.getElem?_eq_some_iff.mp found).1
    have outside := behind entry' listed'
    omega
  · intro entry member
    rw [targetGroups] at member
    rw [targets]
    rcases List.mem_append.mp member with old | new
    · obtain ⟨target', found, matched'⟩ := sound.matched entry old
      have other : entry.1 ≠ sensor := by
        rintro same
        rw [same, fresh] at found
        cases found
      refine ⟨target', ?_, matched'.mono ⟨_, groups⟩ ⟨_, record⟩ ⟨_, can⟩⟩
      rw [Function.update_of_ne other, found]
    · rw [List.mem_singleton.mp new]
      exact ⟨target, Function.update_self _ _ _, matched⟩
  · intro other target' found
    rw [targets] at found
    rw [targetGroups]
    by_cases same : other = sensor
    · exact ⟨group, List.mem_append_right _ (by rw [same]; exact List.mem_singleton_self _)⟩
    · rw [Function.update_of_ne same] at found
      obtain ⟨i, member⟩ := sound.grouped other target' found
      exact ⟨i, List.mem_append_left _ member⟩
  · intro g member
    rw [groups] at member
    rcases List.mem_append.mp member with old | new
    · have earlier := sound.recordIds g old
      omega
    · have listed : g.recordId ∈ newGroups.map Group.recordId := List.mem_map_of_mem new
      rw [recordIds, List.mem_range'_1] at listed
      omega

/-- A sensor of the loop adds its groups, or nothing when it is not logged. -/
theorem addSensor_spec (sound : Sound l) (configuration : LoggingConfiguration)
    (sensor : ConfiguredSensor) :
    (findEnabled hash configuration sensor = none ∧
      addSensor hash configuration l sensor = some l) ∨
    (findEnabled hash configuration sensor).isSome = true ∧
      (l.nextRecordId + 1 < 256 ^ l.file.options.recordIdSizeBytes →
        (addSensor hash configuration l sensor).isSome = true) ∧
      ∀ after, addSensor hash configuration l sensor = some after →
        Adds (hash sensor.id) l after := by
  unfold addSensor
  cases findEnabled hash configuration sensor with
  | none => exact .inl ⟨rfl, rfl⟩
  | some sensorConfiguration =>
    right
    dsimp only
    split_ifs with raw
    · exact ⟨rfl, addCanFrameTarget_spec sound sensor⟩
    · obtain ⟨room, adds⟩ := addValueTarget_spec hash sound sensor sensorConfiguration
      exact ⟨rfl, fun more => room (Nat.lt_of_succ_lt more), adds⟩

/-- The loop keeps the targets sound, and comes to its end while the record IDs fit. -/
private theorem addSensors_spec {configuration : LoggingConfiguration}
    {sensors : List ConfiguredSensor} (sound : Sound l)
    (distinct : (sensors.map fun sensor => hash sensor.id).Nodup)
    (fresh : ∀ sensor ∈ sensors, l.targets (hash sensor.id) = none) :
    (∀ after, sensors.foldlM (addSensor hash configuration) l = some after → Sound after) ∧
    (l.nextRecordId + 2 * sensors.countP (fun sensor =>
        (findEnabled hash configuration sensor).isSome) ≤
          256 ^ l.file.options.recordIdSizeBytes →
      (sensors.foldlM (addSensor hash configuration) l).isSome = true) := by
  -- On the sensors; a sensor takes at most two record IDs.
  induction sensors generalizing l with
  | nil =>
    refine ⟨fun after same => ?_, fun _ => rfl⟩
    obtain rfl := Option.some.inj same
    exact sound
  | cons sensor sensors ih =>
    obtain ⟨apart, distinct⟩ := List.nodup_cons.mp distinct
    rw [List.foldlM_cons]
    have later : ∀ other ∈ sensors, l.targets (hash other.id) = none :=
      fun other member => fresh other (List.mem_cons_of_mem _ member)
    obtain ⟨disabled, same⟩ | ⟨enabled, room, adds⟩ := addSensor_spec sound configuration sensor
    · rw [same]
      have rest := ih sound distinct later
      refine ⟨rest.1, fun fits => rest.2 ?_⟩
      simpa [List.countP_cons, disabled] using fits
    · have step {after : LoggerTargets}
          (added : addSensor hash configuration l sensor = some after) :
          Sound after ∧ ∀ other ∈ sensors, after.targets (hash other.id) = none := by
        have adds := adds after added
        refine ⟨sound.adds (fresh sensor List.mem_cons_self) adds, fun other member => ?_⟩
        obtain ⟨target, group, targets, -, -⟩ := adds.target
        -- The hashes are distinct, so the sensors still to come have no target yet.
        have different : hash other.id ≠ hash sensor.id := fun same =>
          apart (by
            dsimp only
            rw [← same]
            exact List.mem_map_of_mem (f := fun sensor : ConfiguredSensor => hash sensor.id) member)
        rw [targets, Function.update_of_ne different]
        exact later other member
      constructor
      · intro after built
        obtain ⟨middle, added, built⟩ := Option.bind_eq_some_iff.mp built
        obtain ⟨sound', fresh'⟩ := step added
        exact (ih sound' distinct fresh').1 after built
      · intro fits
        rw [List.countP_cons, if_pos enabled] at fits
        obtain ⟨middle, added⟩ := Option.isSome_iff_exists.mp (room (by omega))
        obtain ⟨sound', fresh'⟩ := step added
        have adds := adds middle added
        obtain ⟨new, -, -, next, few⟩ := adds.groups
        rw [added]
        refine (ih sound' distinct fresh').2 ?_
        rw [adds.options, next]
        omega

private theorem getRecordIdSizeBytes_eq (enabledSensorCount : ℕ) :
    getRecordIdSizeBytes enabledSensorCount = 1 ∧ 2 * enabledSensorCount + 1 ≤ 255 ∨
      getRecordIdSizeBytes enabledSensorCount = 2 := by
  unfold getRecordIdSizeBytes maxOneByteRecordId
  split_ifs with small
  · exact .inl ⟨rfl, small⟩
  · exact .inr rfl

/-- What the loop starts from. -/
private theorem create_start (enabledSensorCount : ℕ) : ∃ file,
    Mdf4Structure.create { recordIdSizeBytes := getRecordIdSizeBytes enabledSensorCount } =
      some file ∧
    ∀ configuration metadata, Sound { file := setFileMetadata configuration metadata file } := by
  have sizes := getRecordIdSizeBytes_eq enabledSensorCount
  have known : getRecordIdSizeBytes enabledSensorCount ∈ [1, 2, 4, 8] := by
    rcases sizes with ⟨size, -⟩ | size <;> simp [size]
  refine ⟨_, by
    rw [Mdf4Structure.create, if_neg (not_not.mpr known), if_neg (by simp), if_neg (by simp)], ?_⟩
  intro configuration metadata
  refine ⟨⟨rfl, known, List.nodup_nil, by simp [setFileMetadata], by simp [setFileMetadata],
    by simp [setFileMetadata], by simp [setFileMetadata]⟩, ?_, rfl, rfl, by simp [setFileMetadata],
    List.nodup_nil, List.forall_mem_nil _, by simp, by simp [setFileMetadata]⟩
  simp only [setFileMetadata]
  omega

variable {configuration : LoggingConfiguration} {sensors : List ConfiguredSensor}

/-- The constructor gives each sensor that is logged a group of its kind; no two sensors have IDs
with one hash. -/
theorem sound_create {metadata : LoggerMetadata}
    (distinct : (sensors.map fun sensor => hash sensor.id).Nodup)
    (created : create hash configuration sensors metadata = some l) : Sound l := by
  obtain ⟨file, started, sound⟩ := create_start
    (sensors.countP fun sensor => (findEnabled hash configuration sensor).isSome)
  unfold create at created
  dsimp only at created
  rw [started] at created
  exact (addSensors_spec (sound configuration metadata) distinct fun _ _ => rfl).1 l created

/-- The constructor does not throw while the record IDs fit into two bytes. -/
theorem create_isSome (distinct : (sensors.map fun sensor => hash sensor.id).Nodup)
    (metadata : LoggerMetadata)
    (few : 2 * sensors.countP (fun sensor => (findEnabled hash configuration sensor).isSome) + 1 ≤
      256 ^ 2) : (create hash configuration sensors metadata).isSome = true := by
  obtain ⟨file, started, sound⟩ := create_start
    (sensors.countP fun sensor => (findEnabled hash configuration sensor).isSome)
  unfold create
  dsimp only
  rw [started]
  refine (addSensors_spec (sound configuration metadata) distinct fun _ _ => rfl).2 ?_
  have size : (setFileMetadata configuration metadata file).options.recordIdSizeBytes =
      getRecordIdSizeBytes (sensors.countP fun sensor =>
        (findEnabled hash configuration sensor).isSome) := by
    unfold Mdf4Structure.create at started
    split_ifs at started
    rw [← Option.some.inj started]
    rfl
  rw [size]
  rcases getRecordIdSizeBytes_eq (sensors.countP fun sensor =>
    (findEnabled hash configuration sensor).isSome) with ⟨one, small⟩ | two
  · rw [one]
    dsimp only
    omega
  · rw [two]
    dsimp only
    omega

end LoggerTargets

end RtCore.Logging
