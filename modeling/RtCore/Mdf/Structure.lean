import RtCore.Mdf.Records

/-!
# Building the structure of an MDF 4 file

`Mdf4File` describes the groups of a file before its header is written: plain channel groups with a
master time channel and one channel for each value, groups for variable length values, and groups of
CAN data frames, whose composite channel has a member for each part of a frame.

## Main definitions

* `Mdf4Structure` — the description of a file with the groups that have record writers
* `Mdf4Structure.createChannelGroup`, `Mdf4Structure.createDataChannel`,
  `Mdf4Structure.createVLSDChannelGroup`, `Mdf4Structure.createCanDataFrameChannelGroup`

## Main results

* `Mdf4Structure.Sound` with `Sound.addRecordGroup`, `Sound.createVLSDChannelGroup` and
  `Sound.createCanDataFrameChannelGroup` — the groups stay as their record writers need them
* `readField_canMembers` — the members of a CAN data frame read the parts of the frame back
-/

namespace RtCore.Mdf

open RtCore.Foundation Description

/-! ### Texts -/

/-- The bytes of a literal. -/
def text (literal : String) : Text := literal.toUTF8.data.toList

/-- `EscapeXml`. -/
def escapeXml (content : Text) : Text :=
  content.flatMap fun character =>
    if character = 38 then text "&amp;"
    else if character = 60 then text "&lt;"
    else if character = 62 then text "&gt;"
    else if character = 34 then text "&quot;"
    else if character = 39 then text "&apos;"
    else if character = 9 ∨ character = 10 ∨ character = 13 then [character]
    else if character < 32 then [0xEF, 0xBF, 0xBD]
    else [character]

/-- `MetadataBlock::SetComment`. -/
def setComment (blockId : Text) (content : Text) (properties : List (Text × Text)) : Text :=
  let entries :=
    if properties = [] then []
    else text "<common_properties>" ++ (properties.flatMap fun property =>
        text "<e name=\"" ++ escapeXml property.1 ++ text "\">" ++ escapeXml property.2 ++
          text "</e>") ++
      text "</common_properties>"
  text "<" ++ blockId ++ text "comment>" ++
    (text "<TX>" ++ escapeXml content ++ text "</TX>" ++ entries) ++
    text "</" ++ blockId ++ text "comment>"

/-- `FileHistoryBlock::SetTool`. -/
def setTool (toolId toolVendor toolVersion : Text) : Text :=
  text "<?xml version=\"1.0\" encoding=\"UTF-8\"?>" ++ text "<FHcomment>" ++
    (text "<TX>created</TX><tool_id>" ++ escapeXml toolId ++ text "</tool_id><tool_vendor>" ++
      escapeXml toolVendor ++ text "</tool_vendor><tool_version>" ++ escapeXml toolVersion ++
      text "</tool_version>") ++
    text "</FHcomment>"

/-! ### Channels -/

/-- `AddChannel`, none when it throws: the channel goes behind the data so far. -/
def addChannel (c : Channel) (g : Group) : Option Group :=
  if c.fields.dataSizeBytes = 0 then none
  else some { g with
    channels := g.channels ++
      [{ c with fields := { c.fields with byteOffset := g.dataBytes } }]
    dataBytes := g.dataBytes + c.fields.dataSizeBytes }

/-! ### Groups -/

/-- `Mdf4FileOptions`. -/
structure Mdf4FileOptions where
  recordIdSizeBytes : ℕ := 1
  timeType : MdfDataType := .float64
  vlsdOffsetSizeBytes : ℕ := 8
  deriving DecidableEq, Repr

/-- An `Mdf4File` while it is described: `recordChannelGroups` and `canChannelGroups` are the
indices of the groups with record writers, the latter with those of their groups for payloads. -/
structure Mdf4Structure where
  options : Mdf4FileOptions
  description : Description
  recordChannelGroups : List ℕ := []
  canChannelGroups : List (ℕ × ℕ) := []
  deriving DecidableEq, Repr

namespace Mdf4Structure

/-- The constructor, none when it throws. -/
def create (options : Mdf4FileOptions) : Option Mdf4Structure :=
  if options.recordIdSizeBytes ∉ [1, 2, 4, 8] then none
  else if options.timeType ≠ .float32 ∧ options.timeType ≠ .float64 then none
  else if options.vlsdOffsetSizeBytes ≠ 4 ∧ options.vlsdOffsetSizeBytes ≠ 8 then none
  else some {
    options := options
    description := {
      recordIdSizeBytes := options.recordIdSizeBytes
      fileHistoryComment := setTool (text "none") (text "Eerie Leap") (text "0.0.0") } }

/-- `CreateChannelGroupBlock` for a group whose record ID is free and fits. -/
def createChannelGroupBlock (g : Group) (s : Mdf4Structure) : Option Mdf4Structure :=
  if g.recordId ∈ s.description.groups.map Group.recordId then none
  else if s.options.recordIdSizeBytes < 8 ∧ 2 ^ (s.options.recordIdSizeBytes * 8) ≤ g.recordId then
    none
  else some { s with description := { s.description with groups := s.description.groups ++ [g] } }

/-- `CreateChannelBlock`. -/
def createChannelBlock (dataType : MdfDataType) (name unit : Text) : Channel :=
  let (type, bitCount) := toMdf4ChannelDataType dataType
  { name := if name = [] then none else some name
    unit := if unit = [] then none else some unit
    fields := { dataType := type, bitCount := bitCount } }

/-- The master channel of a group. -/
def timeChannel (timeType : MdfDataType) : Channel :=
  let (type, bitCount) := toMdf4ChannelDataType timeType
  { name := some (text "Timestamp")
    unit := some (text "s")
    fields := { type := .master, syncType := .time, dataType := type, bitCount := bitCount } }

/-- `CreateTimeChannelGroup`, up to its place in the file. -/
def timeChannelGroup (recordId : ℕ) (name : Text) (s : Mdf4Structure) : Option Group :=
  addChannel (timeChannel s.options.timeType) { recordId := recordId, name := some name }

/-- `CreateChannelGroup`, with the index of the group. -/
def createChannelGroup (recordId : ℕ) (name : Text) (s : Mdf4Structure) :
    Option (ℕ × Mdf4Structure) := do
  let g ← s.timeChannelGroup recordId name
  let i := s.description.groups.length
  let s ← s.createChannelGroupBlock g
  return (i, { s with recordChannelGroups := s.recordChannelGroups ++ [i] })

/-- `CreateVLSDChannelGroup`. -/
def createVLSDChannelGroup (recordId : ℕ) (s : Mdf4Structure) : Option (ℕ × Mdf4Structure) := do
  let i := s.description.groups.length
  let s ← s.createChannelGroupBlock { recordId := recordId, flags := vlsdChannelFlag }
  return (i, s)

/-- `BusEvent` of a channel. -/
def busEventFlag : ℕ := 0x0400

/-- A member of the composite channel of CAN data frames. -/
def canMember (frameOffset : ℕ) (name : String) (byteOffset bitOffset bitCount : ℕ) : Member where
  name := text name
  fields := {
    dataType := .unsignedIntegerLe
    flags := busEventFlag
    byteOffset := frameOffset + byteOffset
    bitOffset := bitOffset
    bitCount := bitCount }

/-- The members of the composite channel, in their order. -/
def canMembers (frameOffset vlsdOffsetSizeBytes vlsdGroup : ℕ) : List Member :=
  [canMember frameOffset "CAN_DataFrame.BusChannel" CanRecordWriter.busChannelOffset 0 8,
    canMember frameOffset "CAN_DataFrame.ID" CanRecordWriter.idOffset 0 29,
    canMember frameOffset "CAN_DataFrame.IDE"
      (CanRecordWriter.idOffset + CanRecordWriter.ideBit / 8) (CanRecordWriter.ideBit % 8) 1,
    canMember frameOffset "CAN_DataFrame.DLC" CanRecordWriter.flagsOffset CanRecordWriter.dlcBit 4,
    canMember frameOffset "CAN_DataFrame.Dir" CanRecordWriter.flagsOffset CanRecordWriter.dirBit 1,
    canMember frameOffset "CAN_DataFrame.EDL" CanRecordWriter.flagsOffset CanRecordWriter.edlBit 1,
    canMember frameOffset "CAN_DataFrame.BRS" CanRecordWriter.flagsOffset CanRecordWriter.brsBit 1,
    canMember frameOffset "CAN_DataFrame.ESI" CanRecordWriter.flagsOffset CanRecordWriter.esiBit 1,
    canMember frameOffset "CAN_DataFrame.DataLength" CanRecordWriter.dataLengthOffset 0 8,
    { name := text "CAN_DataFrame.DataBytes"
      fields := {
        type := .variableLength
        dataType := .byteArray
        flags := busEventFlag
        byteOffset := frameOffset + CanRecordWriter.dataBytesOffset
        bitCount := vlsdOffsetSizeBytes * 8 }
      signalData := some vlsdGroup }]

/-- `BusEvent` and `PlainBusEvent` of a group. -/
def canGroupFlags : ℕ := 0x0002 ||| 0x0004

/-- `CreateCanDataFrameChannelGroup`. -/
def createCanDataFrameChannelGroup (vlsdGroup recordId : ℕ) (name : Text) (s : Mdf4Structure) :
    Option (ℕ × Mdf4Structure) := do
  let vlsd ← s.description.groups[vlsdGroup]?
  if !isVlsd vlsd then none
  let g ← s.timeChannelGroup recordId name
  let frameOffset := g.dataBytes
  let frameSize := CanRecordWriter.frameSizeBytes s.options.vlsdOffsetSizeBytes
  let frame := createChannelBlock .byteArray (text "CAN_DataFrame") []
  let g ← addChannel { frame with
    fields := { frame.fields with flags := busEventFlag, bitCount := frameSize * 8 }
    members := canMembers frameOffset s.options.vlsdOffsetSizeBytes vlsdGroup } g
  if g.dataBytes ≠ frameOffset + frameSize then none
  let i := s.description.groups.length
  let s ← s.createChannelGroupBlock { g with
    flags := canGroupFlags
    pathSeparator := 46
    source := some s.description.sources.length }
  return (i, { s with
    description := { s.description with
      sources := s.description.sources ++ [{
        sourceType := 2
        busType := 2
        name := some (text "CAN")
        path := some (text "CAN") }] }
    canChannelGroups := s.canChannelGroups ++ [(i, vlsdGroup)] })

/-- The bytes after the data of a record that hold its invalidation bits, and how many bits. -/
def invalidationBytes : ℕ := 1
/-- How many channels of a group can have an invalidation bit. -/
def maxInvalidationBits : ℕ := invalidationBytes * 8

/-- `CreateDataChannel` for a group of the file: the channel's index and the group. -/
def createDataChannel (recordIdSize : ℕ) (dataType : MdfDataType) (name unit : Text)
    (withInvalidationBit : Bool) (g : Group) : Option (ChannelFields × Group) :=
  if RecordWriter.maxFields < g.channels.length + 1 then none
  else
    let bitCount := (g.channels.filter (·.fields.hasInvalidationBit)).length
    if withInvalidationBit && maxInvalidationBits ≤ bitCount then none
    else
      -- The first channel with an invalidation bit gives the group its invalidation bytes.
      let bytes :=
        if withInvalidationBit then max g.invalidationBytes invalidationBytes
        else g.invalidationBytes
      let recordSize := recordIdSize + g.dataBytes + (toMdf4ChannelDataType dataType).2 / 8 + bytes
      if RecordWriter.maxRecordBytes < recordSize then none
      else
        let c := createChannelBlock dataType name unit
        let c := if withInvalidationBit then { c with fields := { c.fields with
            invalidationBitPos := bitCount
            flags := c.fields.flags ||| ChannelFields.invalidValidFlag } }
          else c
        (addChannel c { g with invalidationBytes := bytes }).map fun after =>
          ({ c.fields with byteOffset := g.dataBytes }, after)

/-- A call that changes a group of the file. -/
def updateGroup {α : Type} (i : ℕ) (change : Group → Option (α × Group)) (s : Mdf4Structure) :
    Option (α × Mdf4Structure) := do
  let g ← s.description.groups[i]?
  let (result, g) ← change g
  return (result, { s with
    description := { s.description with groups := s.description.groups.set i g } })

/-! ### What the calls keep -/

/-- A group of plain records: its channels follow each other, and none is composite. -/
structure IsPlainGroup (g : Group) : Prop where
  plain : isVlsd g = false
  tiled : RecordWriter.Tiled g
  flat : ∀ c ∈ g.channels, c.members = []

/-- A group of CAN data frames: the time and the composite channel, which refers to the group for
the payloads. -/
structure IsCanGroup (options : Mdf4FileOptions) (vlsdGroup : ℕ) (g : Group) : Prop where
  plain : isVlsd g = false
  invalidationBytes : g.invalidationBytes = 0
  dataBytes : g.dataBytes = (timeChannel options.timeType).fields.dataSizeBytes +
    CanRecordWriter.frameSizeBytes options.vlsdOffsetSizeBytes
  channels : ∃ frame, g.channels = [timeChannel options.timeType, frame] ∧
    frame.members = canMembers (timeChannel options.timeType).fields.dataSizeBytes
      options.vlsdOffsetSizeBytes vlsdGroup ∧
    frame.fields.bitCount = CanRecordWriter.frameSizeBytes options.vlsdOffsetSizeBytes * 8

/-- What holds of a structure after any of its calls. -/
structure Sound (s : Mdf4Structure) : Prop where
  recordIdSize : s.description.recordIdSizeBytes = s.options.recordIdSizeBytes
  someId : s.options.recordIdSizeBytes ∈ [1, 2, 4, 8]
  distinct : (s.description.groups.map Group.recordId).Nodup
  recordIds : ∀ g ∈ s.description.groups, g.recordId < 256 ^ s.options.recordIdSizeBytes
  plain : ∀ i ∈ s.recordChannelGroups, ∃ g, s.description.groups[i]? = some g ∧ IsPlainGroup g
  can : ∀ groups ∈ s.canChannelGroups, ∃ g vlsd, s.description.groups[groups.1]? = some g ∧
    IsCanGroup s.options groups.2 g ∧ s.description.groups[groups.2]? = some vlsd ∧
    isVlsd vlsd = true
  apart : ∀ groups ∈ s.canChannelGroups, groups.1 ∉ s.recordChannelGroups

variable {s after : Mdf4Structure} {g : Group}

theorem createChannelGroupBlock_eq (created : createChannelGroupBlock g s = some after) :
    after = { s with description :=
        { s.description with groups := s.description.groups ++ [g] } } ∧
      g.recordId ∉ s.description.groups.map Group.recordId ∧
      (s.options.recordIdSizeBytes < 8 → g.recordId < 2 ^ (s.options.recordIdSizeBytes * 8)) := by
  unfold createChannelGroupBlock at created
  split_ifs at created with taken large
  exact ⟨(Option.some.inj created).symm, taken, fun small =>
    Nat.lt_of_not_le fun outside => large ⟨small, outside⟩⟩

/-- A record ID is a `uint64_t`. -/
private theorem recordId_lt {width recordId : ℕ} (widths : width ∈ [1, 2, 4, 8])
    (word : recordId < 2 ^ 64) (fits : width < 8 → recordId < 2 ^ (width * 8)) :
    recordId < 256 ^ width := by
  simp only [List.mem_cons, List.not_mem_nil, or_false] at widths
  rcases widths with rfl | rfl | rfl | rfl
  all_goals omega

/-- A group that is added leaves the others where they are. -/
theorem Sound.createChannelGroupBlock (sound : Sound s) (word : g.recordId < 2 ^ 64)
    (created : createChannelGroupBlock g s = some after) : Sound after := by
  obtain ⟨rfl, fresh, fits⟩ := createChannelGroupBlock_eq created
  have kept {i : ℕ} {other : Group} (found : s.description.groups[i]? = some other) :
      (s.description.groups ++ [g])[i]? = some other := by
    rw [List.getElem?_append_left (List.getElem?_eq_some_iff.mp found).1, found]
  refine ⟨sound.recordIdSize, sound.someId, ?_, ?_, ?_, ?_, sound.apart⟩
  · rw [List.map_append, List.map_singleton]
    exact List.nodup_append.mpr ⟨sound.distinct, List.nodup_singleton _,
      fun a old b new same => fresh (List.mem_singleton.mp new ▸ same ▸ old)⟩
  · intro other member
    rcases List.mem_append.mp member with old | new
    · exact sound.recordIds other old
    · rw [List.mem_singleton.mp new]
      exact recordId_lt sound.someId word fits
  · intro i member
    obtain ⟨other, found, isPlain⟩ := sound.plain i member
    exact ⟨other, kept found, isPlain⟩
  · intro groups member
    obtain ⟨other, vlsd, found, isCan, vlsdFound, isVlsd⟩ := sound.can groups member
    exact ⟨other, vlsd, kept found, isCan, kept vlsdFound, isVlsd⟩

/-- The groups with writers are groups of the file, so the next group is none of them. -/
private theorem Sound.next_notMem (sound : Sound s) :
    s.description.groups.length ∉ s.recordChannelGroups ∧
      ∀ groups ∈ s.canChannelGroups, groups.1 ≠ s.description.groups.length := by
  constructor
  · intro member
    obtain ⟨g, found, -⟩ := sound.plain _ member
    simp at found
  · intro groups member same
    obtain ⟨g, vlsd, found, -⟩ := sound.can groups member
    rw [same] at found
    simp at found

theorem timeChannelGroup_eq {recordId : ℕ} {name : Text}
    (created : s.timeChannelGroup recordId name = some g) :
    g.recordId = recordId ∧ g.flags = 0 ∧ g.invalidationBytes = 0 ∧
      g.dataBytes = (timeChannel s.options.timeType).fields.dataSizeBytes ∧
      g.channels = [timeChannel s.options.timeType] := by
  unfold timeChannelGroup addChannel at created
  split_ifs at created
  obtain rfl := Option.some.inj created
  refine ⟨rfl, rfl, rfl, Nat.zero_add _, ?_⟩
  unfold timeChannel
  rfl

/-- A plain group that is added with a writer. -/
theorem Sound.addRecordGroup (sound : Sound s) (word : g.recordId < 2 ^ 64)
    (isPlain : IsPlainGroup g) (created : s.createChannelGroupBlock g = some after) :
    Sound { after with
      recordChannelGroups := after.recordChannelGroups ++ [s.description.groups.length] } := by
  have more := sound.createChannelGroupBlock word created
  obtain ⟨rfl, -, -⟩ := createChannelGroupBlock_eq created
  refine ⟨more.recordIdSize, more.someId, more.distinct, more.recordIds, ?_, more.can, ?_⟩
  · intro i member
    rcases List.mem_append.mp member with old | new
    · exact more.plain i old
    · rw [List.mem_singleton.mp new]
      exact ⟨g, by simp, isPlain⟩
  · intro groups member listed
    rcases List.mem_append.mp listed with old | new
    · exact sound.apart groups member old
    · exact sound.next_notMem.2 groups member (List.mem_singleton.mp new)

theorem Sound.createVLSDChannelGroup {recordId i : ℕ} (sound : Sound s)
    (word : recordId < 2 ^ 64) (created : s.createVLSDChannelGroup recordId = some (i, after)) :
    Sound after := by
  unfold Mdf4Structure.createVLSDChannelGroup at created
  obtain ⟨added, block, created⟩ := Option.bind_eq_some_iff.mp created
  obtain ⟨rfl, rfl⟩ := Prod.mk.inj (Option.some.inj created)
  exact sound.createChannelGroupBlock (by exact word) block

/-- What a group of CAN data frames is when it is complete. -/
theorem createCanDataFrameChannelGroup_eq {vlsdGroup recordId i : ℕ} {name : Text}
    (created : s.createCanDataFrameChannelGroup vlsdGroup recordId name = some (i, after)) :
    ∃ g added vlsd, g.recordId = recordId ∧ IsCanGroup s.options vlsdGroup g ∧
      s.description.groups[vlsdGroup]? = some vlsd ∧ isVlsd vlsd = true ∧
      i = s.description.groups.length ∧
      Mdf4Structure.createChannelGroupBlock g s = some added ∧
      after.options = added.options ∧
      after.description.recordIdSizeBytes = added.description.recordIdSizeBytes ∧
      after.description.groups = added.description.groups ∧
      after.recordChannelGroups = added.recordChannelGroups ∧
      after.canChannelGroups = s.canChannelGroups ++ [(i, vlsdGroup)] := by
  unfold Mdf4Structure.createCanDataFrameChannelGroup at created
  obtain ⟨vlsd, found, created⟩ := Option.bind_eq_some_iff.mp created
  split_ifs at created with refused
  · cases created
  obtain ⟨timed, time, created⟩ := Option.bind_eq_some_iff.mp created
  obtain ⟨framed, frame, created⟩ := Option.bind_eq_some_iff.mp created
  split_ifs at created with size
  · cases created
  obtain ⟨added, block, created⟩ := Option.bind_eq_some_iff.mp created
  obtain ⟨rfl, rfl⟩ := Prod.mk.inj (Option.some.inj created)
  obtain ⟨recordId', -, invalidation, dataBytes, channels⟩ := timeChannelGroup_eq time
  unfold addChannel at frame
  split_ifs at frame
  obtain rfl := Option.some.inj frame
  refine ⟨_, added, vlsd, ?_, ⟨?_, ?_, ?_, ?_⟩, found, by simpa using refused, rfl, block, rfl,
    rfl, ?_, ?_, ?_⟩
  · exact recordId'
  · simp [isVlsd, canGroupFlags]
  · exact invalidation
  · rw [← dataBytes]
    exact not_not.mp size
  · refine ⟨_, congrArg (· ++ _) channels, ?_, rfl⟩
    rw [dataBytes]
  all_goals
    rw [(createChannelGroupBlock_eq block).1]

theorem Sound.createCanDataFrameChannelGroup {vlsdGroup recordId i : ℕ} {name : Text}
    (sound : Sound s) (word : recordId < 2 ^ 64)
    (created : s.createCanDataFrameChannelGroup vlsdGroup recordId name = some (i, after)) :
    Sound after := by
  obtain ⟨g, added, vlsd, recordId', isCan, found, isVlsd, rfl, block, options, recordIdSize,
    groups, record, can⟩ := createCanDataFrameChannelGroup_eq created
  have more := sound.createChannelGroupBlock (by rw [recordId']; exact word) block
  obtain ⟨rfl, -, -⟩ := createChannelGroupBlock_eq block
  have here : after.description.groups[s.description.groups.length]? = some g := by
    rw [groups]
    simp
  have kept : after.description.groups[vlsdGroup]? = some vlsd := by
    rw [groups, List.getElem?_append_left (List.getElem?_eq_some_iff.mp found).1, found]
  refine ⟨?_, ?_, ?_, ?_, ?_, ?_, ?_⟩
  · rw [recordIdSize, options]
    exact more.recordIdSize
  · rw [options]
    exact more.someId
  · rw [groups]
    exact more.distinct
  · rw [groups, options]
    exact more.recordIds
  · rw [groups, record]
    exact more.plain
  · intro entry member
    rw [can] at member
    rw [options]
    rcases List.mem_append.mp member with old | new
    · rw [groups]
      exact more.can entry old
    · rw [List.mem_singleton.mp new]
      exact ⟨g, vlsd, here, isCan, kept, isVlsd⟩
  · intro entry member
    rw [can] at member
    rw [record]
    rcases List.mem_append.mp member with old | new
    · exact sound.apart entry old
    · rw [List.mem_singleton.mp new]
      exact sound.next_notMem.1

/-- A group may change as long as it is what its writer needs. -/
private theorem Sound.setGroup {i : ℕ} {changed : Group} (sound : Sound s)
    (found : s.description.groups[i]? = some g) (sameId : changed.recordId = g.recordId)
    (sameKind : isVlsd changed = isVlsd g)
    (plain : i ∈ s.recordChannelGroups → IsPlainGroup changed)
    (can : ∀ j, (i, j) ∈ s.canChannelGroups → IsCanGroup s.options j changed) :
    Sound { s with description :=
      { s.description with groups := s.description.groups.set i changed } } := by
  obtain ⟨bound, here⟩ := List.getElem?_eq_some_iff.mp found
  have sameIds : (s.description.groups.set i changed).map Group.recordId =
      s.description.groups.map Group.recordId := by
    rw [List.map_set, sameId, ← here]
    have inside : i < (s.description.groups.map Group.recordId).length := by simpa using bound
    rw [show (s.description.groups[i]).recordId =
      (s.description.groups.map Group.recordId)[i] by simp]
    exact List.set_getElem_self inside
  have self : (s.description.groups.set i changed)[i]? = some changed := by simp [bound]
  have other {j : ℕ} (different : j ≠ i) :
      (s.description.groups.set i changed)[j]? = s.description.groups[j]? :=
    List.getElem?_set_ne different.symm
  refine ⟨sound.recordIdSize, sound.someId, ?_, ?_, ?_, ?_, sound.apart⟩
  · rw [sameIds]
    exact sound.distinct
  · intro entry member
    have listed : entry.recordId ∈ (s.description.groups.set i changed).map Group.recordId :=
      List.mem_map_of_mem member
    rw [sameIds] at listed
    obtain ⟨original, member', same⟩ := List.mem_map.mp listed
    rw [← same]
    exact sound.recordIds original member'
  · intro j member
    by_cases same : j = i
    · subst same
      exact ⟨changed, self, plain member⟩
    · obtain ⟨old, there, isPlain⟩ := sound.plain j member
      exact ⟨old, (other same).trans there, isPlain⟩
  · intro entry member
    obtain ⟨old, vlsd, there, isCan, vlsdFound, isVlsd⟩ := sound.can entry member
    -- The payload group of another may be the changed one: it is still a VLSD group.
    have vlsdKept : ∃ vlsd, (s.description.groups.set i changed)[entry.2]? = some vlsd ∧
        Description.isVlsd vlsd = true := by
      by_cases same : entry.2 = i
      · rw [same] at vlsdFound ⊢
        obtain rfl := Option.some.inj (found.symm.trans vlsdFound)
        exact ⟨changed, self, sameKind.trans isVlsd⟩
      · exact ⟨vlsd, (other same).trans vlsdFound, isVlsd⟩
    obtain ⟨vlsd, vlsdFound, isVlsd⟩ := vlsdKept
    by_cases same : entry.1 = i
    · refine ⟨changed, vlsd, ?_, can entry.2 (by rw [← same]; exact member), vlsdFound, isVlsd⟩
      rw [same]
      exact self
    · exact ⟨old, vlsd, (other same).trans there, isCan, vlsdFound, isVlsd⟩

/-- A call that leaves the records of a group as they are. -/
theorem Sound.relabelGroup {i : ℕ} {change : Group → Group} (sound : Sound s)
    (keeps : ∀ g, (change g).recordId = g.recordId ∧ (change g).flags = g.flags ∧
      (change g).dataBytes = g.dataBytes ∧ (change g).invalidationBytes = g.invalidationBytes ∧
      (change g).channels = g.channels)
    (updated : s.updateGroup i (fun g => some ((), change g)) = some ((), after)) :
    Sound after := by
  unfold Mdf4Structure.updateGroup at updated
  obtain ⟨g, found, updated⟩ := Option.bind_eq_some_iff.mp updated
  obtain ⟨-, rfl⟩ := Prod.mk.inj (Option.some.inj updated)
  obtain ⟨sameId, flags, dataBytes, invalidationBytes, channels⟩ := keeps g
  have sameKind : isVlsd (change g) = isVlsd g := by rw [isVlsd, isVlsd, flags]
  refine sound.setGroup found sameId sameKind (fun listed => ?_) fun j listed => ?_
  · obtain ⟨g', found', group⟩ := sound.plain i listed
    obtain rfl : g = g' := Option.some.inj (found.symm.trans found')
    refine ⟨sameKind.trans group.plain, ⟨?_, ?_⟩, ?_⟩
    · rw [channels]
      exact group.tiled.placed
    · rw [channels, dataBytes]
      exact group.tiled.total
    · rw [channels]
      exact group.flat
  · obtain ⟨g', -, found', group, -⟩ := sound.can (i, j) listed
    obtain rfl : g = g' := Option.some.inj (found.symm.trans found')
    refine ⟨sameKind.trans group.plain, invalidationBytes.trans group.invalidationBytes,
      dataBytes.trans group.dataBytes, ?_⟩
    rw [channels]
    exact group.channels

/-! ### A group that is being built -/

/-- A structure with one more group. -/
def withGroup (g : Group) (s : Mdf4Structure) : Mdf4Structure :=
  { s with description := { s.description with groups := s.description.groups ++ [g] } }

theorem updateGroup_withGroup {α : Type} (change : Group → Option (α × Group)) :
    (s.withGroup g).updateGroup s.description.groups.length change =
      (change g).map fun result => (result.1, s.withGroup result.2) := by
  unfold updateGroup withGroup
  rw [List.getElem?_append_right le_rfl, Nat.sub_self]
  cases changed : change g with
  | none => simp [changed]
  | some result =>
    obtain ⟨answer, g'⟩ := result
    simp [changed, List.set_append_right]

/-- A channel for a `float` with an invalidation bit. -/
def floatChannel (name unit : Text) (byteOffset invalidationBitPos : ℕ) : Channel :=
  { createChannelBlock .float32 name unit with
    fields := {
      dataType := .floatLe
      byteOffset := byteOffset
      bitCount := 32
      flags := ChannelFields.invalidValidFlag
      invalidationBitPos := invalidationBitPos } }

theorem createDataChannel_float32 {recordIdSize : ℕ} (name unit : Text)
    (few : g.channels.length < RecordWriter.maxFields)
    (bits : (g.channels.filter (·.fields.hasInvalidationBit)).length < maxInvalidationBits)
    (small : recordIdSize + g.dataBytes + 4 + max g.invalidationBytes invalidationBytes ≤
      RecordWriter.maxRecordBytes) :
    let c := floatChannel name unit g.dataBytes
      (g.channels.filter (·.fields.hasInvalidationBit)).length
    createDataChannel recordIdSize .float32 name unit true g = some (c.fields,
      { g with
        channels := g.channels ++ [c]
        dataBytes := g.dataBytes + 4
        invalidationBytes := max g.invalidationBytes invalidationBytes }) := by
  intro c
  unfold createDataChannel
  rw [if_neg (by omega)]
  dsimp only
  rw [if_neg (by simpa using bits)]
  rw [if_pos rfl, if_neg (by simp only [toMdf4ChannelDataType]; omega), if_pos rfl]
  have fields : (createChannelBlock .float32 name unit).fields =
      { dataType := .floatLe, bitCount := 32 } := rfl
  simp [addChannel, fields, ChannelFields.dataSizeBytes, c, floatChannel]

end Mdf4Structure

/-! ### The parts of a CAN data frame -/

private theorem toNat_idPack (frame : CanFrame) :
    (CanRecordWriter.idPack frame).toNat =
      frame.id.toNat % (if frame.isExtended then 2 ^ 29 else 2 ^ 11) +
        frame.isExtended.toNat * 2 ^ 31 := by
  unfold CanRecordWriter.idPack
  cases frame.isExtended with
  | true =>
    have mask : (frame.id &&& CanRecordWriter.canIdExtendedMask).toNat =
        frame.id.toNat % 2 ^ 29 := by
      rw [UInt32.toNat_and]
      exact Nat.and_two_pow_sub_one_eq_mod frame.id.toNat 29
    have small : frame.id.toNat % 2 ^ 29 < 2 ^ 31 := by omega
    simp only [if_true, UInt32.toNat_or, mask]
    rw [Nat.lor_comm, Nat.add_comm]
    exact (Nat.two_pow_add_eq_or_of_lt small 1).symm
  | false =>
    simp only [Bool.false_eq_true, if_false, UInt32.toNat_or, UInt32.toNat_and, Bool.toNat_false,
      Nat.zero_mul, Nat.add_zero]
    exact (Nat.or_zero _).trans (Nat.and_two_pow_sub_one_eq_mod frame.id.toNat 11)

/-- The flags of a frame are in disjoint bits. -/
private theorem flagsByte_fields (dlc : Fin 16) (frame : CanFrame) :
    let flags := (CanRecordWriter.flagsByte dlc frame).toNat
    flags % 16 = dlc ∧ flags / 2 ^ 4 % 2 = frame.isTransmit.toNat ∧
      flags / 2 ^ 5 % 2 = frame.isCanFd.toNat ∧ flags / 2 ^ 6 % 2 = frame.isBitrateSwitch.toNat ∧
      flags / 2 ^ 7 % 2 = 0 := by
  unfold CanRecordWriter.flagsByte
  generalize frame.isTransmit = transmit
  generalize frame.isCanFd = fd
  generalize frame.isBitrateSwitch = brs
  revert dlc transmit fd brs
  decide

/-- The parts of a frame as its record has them: the channel of the bus, the identifier cut to the
width of its format, the flags and the length of the payload. -/
def CanFrame.parts (frame : CanFrame) (dlc : ℕ) (busChannel : UInt8) : List ℕ :=
  [busChannel.toNat, frame.id.toNat % (if frame.isExtended then 2 ^ 29 else 2 ^ 11),
    frame.isExtended.toNat, dlc, frame.isTransmit.toNat, frame.isCanFd.toNat,
    frame.isBitrateSwitch.toNat, 0, frame.data.length]

/-- The members of a CAN data frame read the parts of the frame and the place of the payload
back. -/
theorem readField_canMembers {dlc vlsdOffset vlsdOffsetSize frameOffset : ℕ} (frame : CanFrame)
    (busChannel : UInt8) (front : List UInt8) (vlsdGroup : ℕ) (place : front.length = frameOffset)
    (code : dlc < 16) (fits : vlsdOffset < 256 ^ vlsdOffsetSize) :
    (Mdf4Structure.canMembers frameOffset vlsdOffsetSize vlsdGroup).map (fun m =>
        readField m.fields (front ++
          CanRecordWriter.frameBytes dlc frame busChannel vlsdOffsetSize vlsdOffset)) =
      frame.parts dlc busChannel ++ [vlsdOffset] := by
  have size := frame.capacity
  obtain ⟨low, dir, edl, brs, esi⟩ := flagsByte_fields ⟨dlc, code⟩ frame
  dsimp only at low dir edl brs esi
  have pack := toNat_idPack frame
  have masked : frame.id.toNat % (if frame.isExtended then 2 ^ 29 else 2 ^ 11) < 2 ^ 29 := by
    split_ifs <;> omega
  have bit : frame.isExtended.toNat < 2 := Bool.toNat_lt _
  obtain ⟨b0, b1, b2, b3, bytes, high⟩ : ∃ b0 b1 b2 b3 : UInt8,
      leBytes 4 (CanRecordWriter.idPack frame).toNat = [b0, b1, b2, b3] ∧
        b3.toNat = (CanRecordWriter.idPack frame).toNat / 2 ^ 24 % 256 := by
    refine ⟨_, _, _, _, rfl, ?_⟩
    rw [UInt8.toNat_ofNat']
    omega
  have word := ofLeBytes_leBytes_mod 4 (CanRecordWriter.idPack frame).toNat
  rw [bytes] at word
  have identifier : ofLeBytes [b0, b1, b2, b3] % 2 ^ 29 =
      frame.id.toNat % (if frame.isExtended then 2 ^ 29 else 2 ^ 11) := by
    rw [word, pack]
    omega
  have extension : b3.toNat / 2 ^ 7 % 2 = frame.isExtended.toNat := by
    rw [high, pack]
    omega
  -- each member is a field between what is in front of it and what follows
  have read (c : ChannelFields) (before field rest : List UInt8)
      (spelled : CanRecordWriter.frameBytes dlc frame busChannel vlsdOffsetSize vlsdOffset =
        before ++ (field ++ rest)) (offset : c.byteOffset = frameOffset + before.length)
      (width : field.length = c.dataSizeBytes) :
      readField c (front ++
          CanRecordWriter.frameBytes dlc frame busChannel vlsdOffsetSize vlsdOffset) =
        ofLeBytes field / 2 ^ c.bitOffset % 2 ^ c.bitCount := by
    rw [spelled, ← List.append_assoc]
    exact readField_eq (by rw [List.length_append, place, offset]) width
  have spelled : CanRecordWriter.frameBytes dlc frame busChannel vlsdOffsetSize vlsdOffset =
      [busChannel, b0, b1, b2, b3, CanRecordWriter.flagsByte dlc frame,
        UInt8.ofNat frame.data.length] ++ leBytes vlsdOffsetSize vlsdOffset := by
    rw [CanRecordWriter.frameBytes, bytes]
    rfl
  have member (name : String) (offset bitOffset bitCount : ℕ) (before field rest : List UInt8)
      (spelled : CanRecordWriter.frameBytes dlc frame busChannel vlsdOffsetSize vlsdOffset =
        before ++ (field ++ rest)) (start : offset = before.length)
      (width : field.length = (bitCount + bitOffset + 7) / 8) :
      readField (Mdf4Structure.canMember frameOffset name offset bitOffset bitCount).fields
          (front ++ CanRecordWriter.frameBytes dlc frame busChannel vlsdOffsetSize vlsdOffset) =
        ofLeBytes field / 2 ^ bitOffset % 2 ^ bitCount :=
    read _ before field rest spelled (congrArg (frameOffset + ·) start) width
  have flags (name : String) (bitOffset bitCount : ℕ)
      (width : 1 = (bitCount + bitOffset + 7) / 8) :
      readField (Mdf4Structure.canMember frameOffset name CanRecordWriter.flagsOffset bitOffset
          bitCount).fields (front ++
            CanRecordWriter.frameBytes dlc frame busChannel vlsdOffsetSize vlsdOffset) =
        (CanRecordWriter.flagsByte dlc frame).toNat / 2 ^ bitOffset % 2 ^ bitCount := by
    refine (member name CanRecordWriter.flagsOffset bitOffset bitCount
      [busChannel, b0, b1, b2, b3] [CanRecordWriter.flagsByte dlc frame] _
      (by rw [spelled]; rfl) rfl width).trans ?_
    simp [ofLeBytes]
  have payload : ofLeBytes (leBytes vlsdOffsetSize vlsdOffset) = vlsdOffset :=
    ofLeBytes_leBytes fits
  unfold canFrameMaxDataLength at size
  simp only [Mdf4Structure.canMembers, List.map_cons, List.map_nil, CanFrame.parts,
    List.cons_append, List.nil_append, List.cons.injEq, and_true]
  refine ⟨?_, ?_, ?_, ?_, ?_, ?_, ?_, ?_, ?_, ?_⟩
  · refine (member _ CanRecordWriter.busChannelOffset 0 8 [] [busChannel] _
      (by rw [spelled]; rfl) rfl (by simp)).trans ?_
    have small := busChannel.toNat_lt
    simp only [ofLeBytes]
    omega
  · refine (member _ CanRecordWriter.idOffset 0 29 [busChannel] [b0, b1, b2, b3] _
      (by rw [spelled]; rfl) rfl (by simp)).trans ?_
    rw [Nat.pow_zero, Nat.div_one]
    exact identifier
  · refine (member _ (CanRecordWriter.idOffset + CanRecordWriter.ideBit / 8)
      (CanRecordWriter.ideBit % 8) 1 [busChannel, b0, b1, b2] [b3] _ (by rw [spelled]; rfl) rfl
      (by simp [CanRecordWriter.ideBit])).trans ?_
    rw [show ofLeBytes [b3] = b3.toNat by simp [ofLeBytes]]
    exact extension
  · rw [flags _ CanRecordWriter.dlcBit 4 (by simp [CanRecordWriter.dlcBit])]
    exact (congrArg (· % 2 ^ 4) (Nat.div_one _)).trans low
  · rw [flags _ CanRecordWriter.dirBit 1 (by simp [CanRecordWriter.dirBit])]
    exact dir
  · rw [flags _ CanRecordWriter.edlBit 1 (by simp [CanRecordWriter.edlBit])]
    exact edl
  · rw [flags _ CanRecordWriter.brsBit 1 (by simp [CanRecordWriter.brsBit])]
    exact brs
  · rw [flags _ CanRecordWriter.esiBit 1 (by simp [CanRecordWriter.esiBit])]
    exact esi
  · refine (member _ CanRecordWriter.dataLengthOffset 0 8
      [busChannel, b0, b1, b2, b3, CanRecordWriter.flagsByte dlc frame]
      [UInt8.ofNat frame.data.length] _ (by rw [spelled]; rfl) rfl (by simp)).trans ?_
    simp only [ofLeBytes, UInt8.toNat_ofNat']
    omega
  · refine (read _ [busChannel, b0, b1, b2, b3, CanRecordWriter.flagsByte dlc frame,
      UInt8.ofNat frame.data.length] (leBytes vlsdOffsetSize vlsdOffset) []
      (by rw [spelled, List.append_nil]) rfl ?_).trans ?_
    · rw [length_leBytes, ChannelFields.dataSizeBytes]
      dsimp only
      omega
    · rw [payload]
      dsimp only
      rw [Nat.pow_zero, Nat.div_one, Nat.mod_eq_of_lt]
      rwa [Nat.mul_comm, Nat.pow_mul]

end RtCore.Mdf
