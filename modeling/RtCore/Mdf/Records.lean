import Mathlib.Algebra.BigOperators.Group.List.Basic
import RtCore.Mdf.Blocks

/-!
# The records of an MDF 4 file

`RecordWriter` writes the records of a plain channel group: the record ID, one value for each
channel and the invalidation bytes, put together in a buffer that the writer keeps from record to
record. `CanRecordWriter` writes a CAN frame as two records: the payload to the group for variable
length values, then the frame with the offset of its payload among the values.

A reader knows of this only what the blocks declare: the size of a record ID, and for each group its
ID, its flags and the sizes of its records.

## Main definitions

* `MdfValue`, `RecordWriter`, `CanFrame`, `CanRecordWriter` — values, frames and the writers
* `readRecords` — the data cut into records as the groups declare
* `readField` — a field of a record as its channel declares

## Main results

* `RecordWriter.write_eq` — the record that a writer makes of values, whatever its buffer held
* `readRecords_flatMap` — cutting the data gives the records that were put together
-/

namespace RtCore.Mdf

open RtCore.Foundation Description

/-! ### Values -/

/-- `MdfDataType`. -/
inductive MdfDataType where
  | int32
  | int64
  | uint32
  | uint64
  | float32
  | float64
  | byteArray
  deriving DecidableEq, Repr

/-- `ToMdf4ChannelDataType`: the data type and the bits of a channel. -/
def toMdf4ChannelDataType : MdfDataType → DataType × ℕ
  | .int32 => (.signedIntegerLe, 32)
  | .int64 => (.signedIntegerLe, 64)
  | .uint32 => (.unsignedIntegerLe, 32)
  | .uint64 => (.unsignedIntegerLe, 64)
  | .float32 => (.floatLe, 32)
  | .float64 => (.floatLe, 64)
  | .byteArray => (.byteArray, 0)

/-- The bytes of a number of a type. -/
def MdfDataType.sizeBytes : MdfDataType → ℕ
  | .int32 | .uint32 | .float32 => 4
  | .int64 | .uint64 | .float64 => 8
  | .byteArray => 0

/-- `MdfValue`; signed and floating point numbers are given by their bits. -/
inductive MdfValue where
  | int32 (bits : UInt32)
  | int64 (bits : UInt64)
  | uint32 (bits : UInt32)
  | uint64 (bits : UInt64)
  | float32 (bits : UInt32)
  | float64 (bits : UInt64)
  deriving DecidableEq, Repr

namespace MdfValue

/-- `GetMdfDataType`. -/
def type : MdfValue → MdfDataType
  | int32 _ => .int32
  | int64 _ => .int64
  | uint32 _ => .uint32
  | uint64 _ => .uint64
  | float32 _ => .float32
  | float64 _ => .float64

/-- The bytes of a value in memory. -/
def bytes : MdfValue → List UInt8
  | int32 bits | uint32 bits | float32 bits => leBytes 4 bits.toNat
  | int64 bits | uint64 bits | float64 bits => leBytes 8 bits.toNat

theorem length_bytes (value : MdfValue) : value.bytes.length = value.type.sizeBytes := by
  cases value <;> exact length_leBytes _ _

end MdfValue

/-! ### Fields of a record -/

namespace ChannelFields

/-- `GetDataSizeBytes`. -/
def dataSizeBytes (c : ChannelFields) : ℕ := (c.bitCount + c.bitOffset + 7) / 8

/-- `InvalidValid`. -/
def invalidValidFlag : ℕ := 0x0002

/-- `HasInvalidationBit`. -/
def hasInvalidationBit (c : ChannelFields) : Bool := c.flags &&& invalidValidFlag ≠ 0

/-- `GetVariantIndex`: the values that a channel takes. -/
def valueType (c : ChannelFields) : Option MdfDataType :=
  if c.dataSizeBytes * 8 ≠ c.bitCount then none
  else
    match c.dataType with
    | .signedIntegerLe =>
      if c.bitCount = 32 then some .int32 else if c.bitCount = 64 then some .int64 else none
    | .unsignedIntegerLe =>
      if c.bitCount = 32 then some .uint32 else if c.bitCount = 64 then some .uint64 else none
    | .floatLe =>
      if c.bitCount = 32 then some .float32 else if c.bitCount = 64 then some .float64 else none
    | .byteArray => none

theorem dataSizeBytes_of_valueType {c : ChannelFields} {type : MdfDataType}
    (fits : c.valueType = some type) : c.dataSizeBytes = type.sizeBytes := by
  unfold valueType at fits
  split at fits
  · cases fits
  rename_i whole
  have whole : c.dataSizeBytes * 8 = c.bitCount := not_not.mp whole
  cases dataType : c.dataType <;> simp only [dataType] at fits
  case byteArray => cases fits
  all_goals
    split_ifs at fits with small large
    · cases fits
      simp only [MdfDataType.sizeBytes]
      omega
    · cases fits
      simp only [MdfDataType.sizeBytes]
      omega

end ChannelFields

/-- The number that a channel declares in the data of a record. -/
def readField (c : ChannelFields) (data : List UInt8) : ℕ :=
  ofLeBytes ((data.drop c.byteOffset).take c.dataSizeBytes) / 2 ^ c.bitOffset % 2 ^ c.bitCount

/-- A field between other data. -/
theorem readField_eq {c : ChannelFields} {front field rest : List UInt8}
    (place : front.length = c.byteOffset) (size : field.length = c.dataSizeBytes) :
    readField c (front ++ (field ++ rest)) =
      ofLeBytes field / 2 ^ c.bitOffset % 2 ^ c.bitCount := by
  rw [readField, List.drop_left' place, List.take_left' size]

/-- Whether the invalidation bytes of a record mark the value of a channel. -/
def isInvalid (c : ChannelFields) (invalidation : List UInt8) : Bool :=
  c.hasInvalidationBit && (ofLeBytes invalidation).testBit c.invalidationBitPos

/-! ### Plain records -/

/-- A field of the record of a `RecordWriter`. -/
structure Field where
  offset : ℕ
  size : ℕ
  type : MdfDataType
  deriving DecidableEq, Repr

/-- A `RecordWriter`. -/
structure RecordWriter where
  record : List UInt8
  fields : List Field
  recordSize : ℕ
  invalidationOffset : ℕ
  invalidationBytes : ℕ
  /-- The bits that the channels use. -/
  invalidationBits : ℕ
  bytesWritten : ℕ := 0
  deriving DecidableEq, Repr

/-- `memcpy` into a buffer. -/
def patch (buffer : List UInt8) (offset : ℕ) (bytes : List UInt8) : List UInt8 :=
  buffer.take offset ++ bytes ++ buffer.drop (offset + bytes.length)

namespace RecordWriter

/-- The most fields a record has. -/
def maxFields : ℕ := 8
/-- The longest record, in bytes. -/
def maxRecordBytes : ℕ := 64
/-- The most bytes of invalidation bits. -/
def maxInvalidationBytes : ℕ := 4

/-- The field of a channel, none when it does not fit the record or has no value type. -/
def fieldOf (recordIdSize dataEnd invalidationBytes : ℕ) (c : ChannelFields) : Option Field :=
  let offset := recordIdSize + c.byteOffset
  if dataEnd < offset + c.dataSizeBytes then none
  else if c.hasInvalidationBit && invalidationBytes * 8 ≤ c.invalidationBitPos then none
  else c.valueType.map fun type => { offset := offset, size := c.dataSizeBytes, type := type }

/-- The mask of the invalidation bits that channels use. -/
def usedBits (channels : List Channel) : ℕ :=
  channels.foldl (fun bits c =>
    if c.fields.hasInvalidationBit then bits ||| 2 ^ c.fields.invalidationBitPos else bits) 0

/-- The constructor, none when it throws. -/
def create (recordIdSize : ℕ) (g : Group) : Option RecordWriter :=
  if isVlsd g then none
  else if maxInvalidationBytes < g.invalidationBytes then none
  else
    let dataEnd := recordIdSize + g.dataBytes
    let recordSize := dataEnd + g.invalidationBytes
    if maxRecordBytes < recordSize then none
    else if maxFields < g.channels.length then none
    else
      (g.channels.mapM fun c => fieldOf recordIdSize dataEnd g.invalidationBytes c.fields).map
        fun fields => {
          record := leBytes recordIdSize g.recordId ++
            List.replicate (maxRecordBytes - recordIdSize) 0
          fields := fields
          recordSize := recordSize
          invalidationOffset := dataEnd
          invalidationBytes := g.invalidationBytes
          invalidationBits := usedBits g.channels }

/-- The loop of `Write` that copies the values, and whether it came to its end. -/
def fill : List Field → List MdfValue → List UInt8 → List UInt8 × Bool
  | field :: fields, value :: values, record =>
    if value.type ≠ field.type then (record, false)
    else fill fields values (patch record field.offset value.bytes)
  | _, _, record => (record, true)

/-- `Write` up to the stream: the record, none when the values are rejected. -/
def write (values : List MdfValue) (invalidMask : ℕ) (w : RecordWriter) :
    Option (List UInt8) × RecordWriter :=
  if values.length ≠ w.fields.length then (none, w)
  else if invalidMask &&& w.invalidationBits ≠ invalidMask then (none, w)
  else
    match fill w.fields values w.record with
    | (record, false) => (none, { w with record := record })
    | (record, true) =>
      let record :=
        if 0 < w.invalidationBytes then
          patch record w.invalidationOffset (leBytes w.invalidationBytes invalidMask)
        else record
      (some (record.take w.recordSize), { w with record := record })

/-- The end of `Write`, after the stream took the record. -/
def count (w : RecordWriter) : RecordWriter :=
  { w with bytesWritten := w.bytesWritten + w.recordSize }

/-! The buffer between records -/

private theorem length_patch {buffer bytes : List UInt8} {offset : ℕ}
    (inside : offset + bytes.length ≤ buffer.length) :
    (patch buffer offset bytes).length = buffer.length := by
  simp only [patch, List.length_append, List.length_take, List.length_drop]
  omega

private theorem take_patch {buffer bytes : List UInt8} {offset count : ℕ}
    (before : count ≤ offset) (inside : offset ≤ buffer.length) :
    (patch buffer offset bytes).take count = buffer.take count := by
  rw [patch, List.append_assoc, List.take_append_of_le_length (by simp; omega), List.take_take,
    Nat.min_eq_left before]

/-- Fields one after the other from an offset. -/
def Consecutive : ℕ → List Field → Prop
  | _, [] => True
  | offset, field :: fields => field.offset = offset ∧ Consecutive (offset + field.size) fields

/-- Consecutive fields are filled with the bytes of the values. -/
private theorem fill_eq {fields : List Field} {values : List MdfValue} {record after : List UInt8}
    {offset : ℕ} (consecutive : Consecutive offset fields)
    (sizes : ∀ field ∈ fields, field.size = field.type.sizeBytes)
    (inside : offset + (fields.map Field.size).sum ≤ record.length)
    (same : values.length = fields.length) (filled : fill fields values record = (after, true)) :
    after = record.take offset ++ values.flatMap MdfValue.bytes ++
        record.drop (offset + (fields.map Field.size).sum) ∧
      values.map MdfValue.type = fields.map Field.type := by
  -- On the fields; `record` is the buffer with the values before the field patched in.
  induction fields generalizing values record offset with
  | nil =>
    obtain rfl : values = [] := List.length_eq_zero_iff.mp same
    obtain rfl := (Prod.mk.inj filled).1
    simp
  | cons field fields ih =>
    cases values with
    | nil => cases same
    | cons value values =>
      obtain ⟨place, consecutive⟩ := consecutive
      rw [fill] at filled
      by_cases match_ : value.type = field.type
      · rw [if_neg (not_not.mpr match_)] at filled
        have size : value.bytes.length = field.size := by
          rw [value.length_bytes, match_, sizes field List.mem_cons_self]
        simp only [List.map_cons, List.sum_cons] at inside ⊢
        have room : field.offset + value.bytes.length ≤ record.length := by omega
        have length := length_patch room
        obtain ⟨rfl, types⟩ := ih consecutive
          (fun other member => sizes other (List.mem_cons_of_mem _ member))
          (by rw [length]; omega) (by simpa using same) filled
        have front : (record.take offset ++ value.bytes).length = offset + field.size := by
          rw [List.length_append, List.length_take, size]
          omega
        have takes : (patch record field.offset value.bytes).take (offset + field.size) =
            record.take offset ++ value.bytes := by
          rw [patch, place, List.take_left' front]
        have drops : (patch record field.offset value.bytes).drop
            (offset + field.size + (fields.map Field.size).sum) =
              record.drop (offset + (field.size + (fields.map Field.size).sum)) := by
          rw [patch, place, ← List.drop_drop, List.drop_left' front, List.drop_drop, size,
            Nat.add_assoc]
        refine ⟨?_, by simp [match_, types]⟩
        rw [takes, drops]
        simp
      · rw [if_pos match_] at filled
        cases filled

/-- Filling consecutive fields, also in part, keeps the buffer's length and what is before them. -/
private theorem fill_keeps {fields : List Field} {record : List UInt8} {offset start : ℕ}
    (values : List MdfValue) (consecutive : Consecutive offset fields)
    (sizes : ∀ field ∈ fields, field.size = field.type.sizeBytes) (before : start ≤ offset)
    (inside : offset + (fields.map Field.size).sum ≤ record.length) :
    (fill fields values record).1.length = record.length ∧
      (fill fields values record).1.take start = record.take start := by
  induction fields generalizing values record offset with
  | nil => cases values <;> exact ⟨rfl, rfl⟩
  | cons field fields ih =>
    cases values with
    | nil => exact ⟨rfl, rfl⟩
    | cons value values =>
      obtain ⟨place, consecutive⟩ := consecutive
      rw [fill]
      by_cases match_ : value.type = field.type
      · rw [if_neg (not_not.mpr match_)]
        have size : value.bytes.length = field.size := by
          rw [value.length_bytes, match_, sizes field List.mem_cons_self]
        simp only [List.map_cons, List.sum_cons] at inside
        have room : field.offset + value.bytes.length ≤ record.length := by omega
        have length := length_patch room
        obtain ⟨sameLength, sameStart⟩ := ih values consecutive
          (fun other member => sizes other (List.mem_cons_of_mem _ member))
          (before.trans (Nat.le_add_right _ _)) (by rw [length]; omega)
        refine ⟨sameLength.trans length, sameStart.trans ?_⟩
        exact take_patch (by omega) (by omega)
      · rw [if_pos match_]
        exact ⟨rfl, rfl⟩

/-- Channels one after the other from an offset. -/
def Placed : ℕ → List Channel → Prop
  | _, [] => True
  | offset, c :: channels =>
    c.fields.byteOffset = offset ∧ Placed (offset + c.fields.dataSizeBytes) channels

/-- A group as `AddChannel` builds it: its channels follow each other and fill the data bytes. -/
structure Tiled (g : Group) : Prop where
  placed : Placed 0 g.channels
  total : g.dataBytes = (g.channels.map (·.fields.dataSizeBytes)).sum

variable {recordIdSize : ℕ} {g : Group}

private theorem fieldOf_eq {dataEnd invalidationBytes : ℕ} {c : ChannelFields} {field : Field}
    (found : fieldOf recordIdSize dataEnd invalidationBytes c = some field) :
    field.offset = recordIdSize + c.byteOffset ∧ field.size = c.dataSizeBytes ∧
      c.valueType = some field.type := by
  unfold fieldOf at found
  dsimp only at found
  split_ifs at found
  obtain ⟨type, fits, rfl⟩ := Option.map_eq_some_iff.mp found
  exact ⟨rfl, rfl, fits⟩

private theorem fields_of_channels {dataEnd invalidationBytes : ℕ} {channels : List Channel}
    {fields : List Field} {offset : ℕ}
    (found : (channels.mapM fun c => fieldOf recordIdSize dataEnd invalidationBytes c.fields) =
      some fields) (placed : Placed offset channels) :
    Consecutive (recordIdSize + offset) fields ∧
      (∀ field ∈ fields, field.size = field.type.sizeBytes) ∧
      fields.map Field.size = channels.map (·.fields.dataSizeBytes) ∧
      channels.map (·.fields.valueType) = fields.map fun field => some field.type := by
  induction channels generalizing fields offset with
  | nil =>
    obtain rfl : fields = [] := by simpa using found.symm
    exact ⟨trivial, nofun, rfl, rfl⟩
  | cons c channels ih =>
    rw [List.mapM_cons] at found
    obtain ⟨field, first, others⟩ := Option.bind_eq_some_iff.mp found
    obtain ⟨rest, foundRest, equal⟩ := Option.bind_eq_some_iff.mp others
    obtain rfl := Option.some.inj equal
    obtain ⟨place, placed⟩ := placed
    obtain ⟨fieldOffset, fieldSize, fieldType⟩ := fieldOf_eq first
    obtain ⟨consecutive, sizes, sameSizes, sameTypes⟩ := ih foundRest placed
    refine ⟨⟨by rw [fieldOffset, place], ?_⟩, fun other member => ?_, ?_, ?_⟩
    · rwa [fieldSize, Nat.add_assoc]
    · rcases List.mem_cons.mp member with rfl | later
      · rw [fieldSize]
        exact ChannelFields.dataSizeBytes_of_valueType fieldType
      · exact sizes other later
    · rw [List.map_cons, List.map_cons, fieldSize, sameSizes]
    · rw [List.map_cons, List.map_cons, fieldType, sameTypes]

/-- A writer of the records of a group, with the record ID at the start of its buffer. -/
structure For (recordIdSize : ℕ) (g : Group) (w : RecordWriter) : Prop where
  fields : (g.channels.mapM fun c =>
    fieldOf recordIdSize (recordIdSize + g.dataBytes) g.invalidationBytes c.fields) =
      some w.fields
  recordSize : w.recordSize = recordIdSize + g.dataBytes + g.invalidationBytes
  fits : w.recordSize ≤ maxRecordBytes
  invalidationOffset : w.invalidationOffset = recordIdSize + g.dataBytes
  invalidationBytes : w.invalidationBytes = g.invalidationBytes
  invalidationBits : w.invalidationBits = usedBits g.channels
  length : w.record.length = maxRecordBytes
  recordId : w.record.take recordIdSize = leBytes recordIdSize g.recordId

theorem For.create {w : RecordWriter} (created : create recordIdSize g = some w) :
    For recordIdSize g w := by
  unfold RecordWriter.create at created
  dsimp only at created
  split_ifs at created with vlsd invalidation size channels
  obtain ⟨fields, found, rfl⟩ := Option.map_eq_some_iff.mp created
  refine ⟨found, rfl, Nat.le_of_not_lt size, rfl, rfl, rfl, ?_, ?_⟩
  · have bound := Nat.le_of_not_lt size
    simp only [List.length_append, length_leBytes, List.length_replicate]
    omega
  · exact List.take_left' (length_leBytes _ _)

/-- The record that a writer makes of values is the record ID, the values in the order of the
channels and the mask, whatever the buffer held before. -/
theorem write_eq {w : RecordWriter} (writer : For recordIdSize g w) (tiled : Tiled g)
    {values : List MdfValue} {invalidMask : ℕ} {bytes : List UInt8}
    (written : (write values invalidMask w).1 = some bytes) :
    bytes = leBytes recordIdSize g.recordId ++ values.flatMap MdfValue.bytes ++
        leBytes g.invalidationBytes invalidMask ∧
      g.channels.map (·.fields.valueType) = values.map (fun value => some value.type) ∧
      invalidMask &&& usedBits g.channels = invalidMask := by
  obtain ⟨consecutive, sizes, sameSizes, sameTypes⟩ :=
    fields_of_channels writer.fields tiled.placed
  have total : (w.fields.map Field.size).sum = g.dataBytes := by rw [sameSizes, ← tiled.total]
  have fits := writer.fits
  rw [writer.recordSize] at fits
  unfold write at written
  by_cases count : values.length = w.fields.length
  swap
  · rw [if_pos count] at written
    cases written
  by_cases mask : invalidMask &&& w.invalidationBits = invalidMask
  swap
  · rw [if_neg (not_not.mpr count), if_pos mask] at written
    cases written
  rw [if_neg (not_not.mpr count), if_neg (not_not.mpr mask)] at written
  rw [writer.invalidationBits] at mask
  cases filled : fill w.fields values w.record with
  | mk record complete =>
    rw [filled] at written
    cases complete with
    | false => cases written
    | true =>
      obtain ⟨rfl, types⟩ := fill_eq consecutive sizes
        (by rw [total, writer.length]; omega) count filled
      rw [Nat.add_zero, writer.recordId, total, writer.invalidationBytes,
        writer.invalidationOffset, writer.recordSize] at written
      -- The values are patched into a buffer with the bytes of an earlier record; the lengths tell
      -- what is taken of it.
      have length : (values.flatMap MdfValue.bytes).length = g.dataBytes := by
        calc (values.flatMap MdfValue.bytes).length
            = ((values.map MdfValue.type).map MdfDataType.sizeBytes).sum := by
              simp [List.length_flatMap, MdfValue.length_bytes, Function.comp_def]
          _ = (w.fields.map Field.size).sum := by
              rw [types, List.map_map]
              congr 1
              exact List.map_congr_left fun field member => (sizes field member).symm
          _ = g.dataBytes := total
      have front : (leBytes recordIdSize g.recordId ++ values.flatMap MdfValue.bytes).length =
          recordIdSize + g.dataBytes := by
        rw [List.length_append, length_leBytes, length]
      obtain rfl := Option.some.inj written
      refine ⟨?_, ?_, mask⟩
      · split_ifs with some_bytes
        · rw [patch, List.take_left' front]
          exact List.take_left' (by rw [List.length_append, front, length_leBytes])
        · have none : g.invalidationBytes = 0 := by omega
          rw [none, Nat.add_zero, List.take_left' front]
          simp [leBytes]
      · rw [sameTypes]
        have both := congrArg (List.map some) types
        rw [List.map_map, List.map_map] at both
        exact both.symm

private theorem fill_complete {fields : List Field} {values : List MdfValue}
    (same : values.map MdfValue.type = fields.map Field.type) (record : List UInt8) :
    (fill fields values record).2 = true := by
  induction fields generalizing values record with
  | nil => cases values <;> rfl
  | cons field fields ih =>
    cases values with
    | nil => rfl
    | cons value values =>
      obtain ⟨first, others⟩ := List.cons.inj same
      rw [fill, if_neg (not_not.mpr first)]
      exact ih others _

/-- A writer takes values of the types of the channels with a mask of bits that channels use. -/
theorem write_isSome {w : RecordWriter} (writer : For recordIdSize g w) (tiled : Tiled g)
    {values : List MdfValue} {invalidMask : ℕ}
    (types : g.channels.map (·.fields.valueType) = values.map (fun value => some value.type))
    (mask : invalidMask &&& usedBits g.channels = invalidMask) :
    ∃ bytes, (write values invalidMask w).1 = some bytes := by
  obtain ⟨-, -, -, sameTypes⟩ := fields_of_channels writer.fields tiled.placed
  have same : values.map MdfValue.type = w.fields.map Field.type := by
    rw [sameTypes] at types
    apply List.map_injective_iff.mpr (Option.some_injective _)
    rw [List.map_map, List.map_map]
    exact types.symm
  have count : values.length = w.fields.length := by
    simpa using congrArg List.length same
  rw [write, if_neg (not_not.mpr count), writer.invalidationBits, if_neg (not_not.mpr mask)]
  cases filled : fill w.fields values w.record with
  | mk record complete =>
    have all := fill_complete same w.record
    rw [filled] at all
    obtain rfl : complete = true := all
    exact ⟨_, rfl⟩

/-- A writer stays one for its group, also after values that it rejected. -/
theorem For.write {w : RecordWriter} (writer : For recordIdSize g w) (tiled : Tiled g)
    (values : List MdfValue) (invalidMask : ℕ) :
    For recordIdSize g (write values invalidMask w).2 := by
  obtain ⟨consecutive, sizes, sameSizes, -⟩ := fields_of_channels writer.fields tiled.placed
  have total : (w.fields.map Field.size).sum = g.dataBytes := by rw [sameSizes, ← tiled.total]
  have fits := writer.fits
  rw [writer.recordSize] at fits
  -- only the buffer changes, and it keeps its length and the record ID
  have other (record : List UInt8) (length : record.length = maxRecordBytes)
      (recordId : record.take recordIdSize = leBytes recordIdSize g.recordId) :
      For recordIdSize g { w with record := record } :=
    ⟨writer.fields, writer.recordSize, writer.fits, writer.invalidationOffset,
      writer.invalidationBytes, writer.invalidationBits, length, recordId⟩
  obtain ⟨length, recordId⟩ := fill_keeps values consecutive sizes
    (Nat.le_add_right recordIdSize 0) (by rw [total, writer.length]; omega)
  rw [writer.length] at length
  rw [writer.recordId] at recordId
  unfold RecordWriter.write
  split_ifs with count mask
  · exact writer
  · exact writer
  all_goals
    cases filled : fill w.fields values w.record with
    | mk record complete =>
      rw [filled] at length recordId
      cases complete with
      | false => exact other record length recordId
      | true =>
        first
        | exact other record length recordId
        | apply other
          · rw [length_patch, length]
            rw [length_leBytes, writer.invalidationOffset, writer.invalidationBytes]
            exact fits.trans length.ge
          · rw [take_patch, recordId]
            · rw [writer.invalidationOffset]
              exact Nat.le_add_right _ _
            · rw [writer.invalidationOffset]
              exact (Nat.le_add_right _ _).trans (fits.trans length.ge)

end RecordWriter

/-! ### CAN records -/

/-- `CAN_FRAME_MAX_DATA_LENGTH`. -/
def canFrameMaxDataLength : ℕ := 64

/-- `CanFrame`; its payload has a fixed capacity. -/
structure CanFrame where
  id : UInt32
  isExtended : Bool := false
  isTransmit : Bool := false
  isCanFd : Bool := false
  isBitrateSwitch : Bool := false
  isRemoteRequest : Bool := false
  data : List UInt8
  capacity : data.length ≤ canFrameMaxDataLength
  deriving DecidableEq, Repr

/-- The payload lengths of the data length codes from 9 on. -/
def fdLengths : List ℕ := [12, 16, 20, 24, 32, 48, 64]

/-- `ToCanDlc`. -/
def toCanDlc (dataLength : ℕ) : Option ℕ :=
  if dataLength ≤ 8 then some dataLength
  else (fdLengths.findIdx? fun length => dataLength ≤ length).map (9 + ·)

/-- A `CanRecordWriter`. -/
structure CanRecordWriter where
  recordId : List UInt8
  vlsdRecordId : List UInt8
  timeSize : ℕ
  vlsdOffsetSize : ℕ
  recordSize : ℕ
  vlsdOffset : ℕ := 0
  bytesWritten : ℕ := 0
  deriving DecidableEq, Repr

namespace CanRecordWriter

/-- Where a frame's record has the bus channel. -/
def busChannelOffset : ℕ := 0
/-- Where it has the identifier. -/
def idOffset : ℕ := 1
/-- Where it has the flags. -/
def flagsOffset : ℕ := 5
/-- Where it has the length of the data. -/
def dataLengthOffset : ℕ := 6
/-- Where it has the data, or the offset of them. -/
def dataBytesOffset : ℕ := 7
/-- The bit of the identifier that says it is an extended one. -/
def ideBit : ℕ := 31
/-- The first bit of the data length code. -/
def dlcBit : ℕ := 0
/-- The bit for the direction. -/
def dirBit : ℕ := 4
/-- The bit for an extended data length. -/
def edlBit : ℕ := 5
/-- The bit for a bit rate switch. -/
def brsBit : ℕ := 6
/-- The bit for the error state. -/
def esiBit : ℕ := 7
/-- The bytes of the length in front of data of variable length. -/
def vlsdLengthBytes : ℕ := 4

/-- `FrameSizeBytes`. -/
def frameSizeBytes (vlsdOffsetSizeBytes : ℕ) : ℕ := dataBytesOffset + vlsdOffsetSizeBytes

/-- The bytes of the master time channel, none for a type it cannot have. -/
def timeSizeOf : MdfDataType → Option ℕ
  | .float32 => some 4
  | .float64 => some 8
  | _ => none

/-- The constructor, none when it throws. -/
def create (recordIdSize : ℕ) (g vlsd : Group) (timeType : MdfDataType)
    (vlsdOffsetSizeBytes : ℕ) : Option CanRecordWriter :=
  if !isVlsd vlsd then none
  else (timeSizeOf timeType).bind fun timeSize =>
    if vlsdOffsetSizeBytes ≠ 4 ∧ vlsdOffsetSizeBytes ≠ 8 then none
    else if g.dataBytes ≠ timeSize + frameSizeBytes vlsdOffsetSizeBytes then none
    else if g.invalidationBytes ≠ 0 then none
    else
      match g.channels with
      | time :: frame :: _ =>
        if time.fields.dataType ≠ .floatLe ∨ time.fields.bitCount ≠ timeSize * 8 ∨
            frame.fields.bitCount ≠ frameSizeBytes vlsdOffsetSizeBytes * 8 then none
        else some {
          recordId := leBytes recordIdSize g.recordId
          vlsdRecordId := leBytes recordIdSize vlsd.recordId
          timeSize := timeSize
          vlsdOffsetSize := vlsdOffsetSizeBytes
          recordSize := recordIdSize + g.dataBytes }
      | _ => none

/-- The bits of a standard identifier. -/
def canIdStandardMask : UInt32 := 0x7FF
/-- The bits of an extended identifier. -/
def canIdExtendedMask : UInt32 := 0x1FFFFFFF

/-- The identifier and the IDE bit. -/
def idPack (frame : CanFrame) : UInt32 :=
  frame.id &&& (if frame.isExtended then canIdExtendedMask else canIdStandardMask) |||
    (if frame.isExtended then 1 else 0 : UInt32) <<< 31

/-- The data length code and the flags of a frame. -/
def flagsByte (dlc : ℕ) (frame : CanFrame) : UInt8 :=
  UInt8.ofNat ((dlc &&& 0xF) <<< dlcBit ||| frame.isTransmit.toNat <<< dirBit |||
    frame.isCanFd.toNat <<< edlBit ||| frame.isBitrateSwitch.toNat <<< brsBit ||| 0 <<< esiBit)

/-- The bytes of the time, which a small master channel narrows. -/
def timeBytes (toFloat : UInt64 → UInt32) (timeSize : ℕ) (time : UInt64) : List UInt8 :=
  if timeSize = 4 then leBytes 4 (toFloat time).toNat else leBytes 8 time.toNat

/-- The data of a frame record after its time. -/
def frameBytes (dlc : ℕ) (frame : CanFrame) (busChannel : UInt8) (vlsdOffsetSize vlsdOffset : ℕ) :
    List UInt8 :=
  [busChannel] ++ leBytes 4 (idPack frame).toNat ++ [flagsByte dlc frame] ++
    [UInt8.ofNat frame.data.length] ++ leBytes vlsdOffsetSize vlsdOffset

/-- The payload record, without its ID. -/
def vlsdBytes (data : List UInt8) : List UInt8 := leBytes vlsdLengthBytes data.length ++ data

/-- The offset among the payloads after a frame. -/
def nextVlsdOffset (frame : CanFrame) (w : CanRecordWriter) : ℕ :=
  w.vlsdOffset + vlsdLengthBytes + frame.data.length

/-- `Write` up to the stream: the payload record and the frame record, none when it throws. -/
def write (toFloat : UInt64 → UInt32) (frame : CanFrame) (time : UInt64) (busChannel : UInt8)
    (w : CanRecordWriter) : Option (List UInt8) :=
  if canFrameMaxDataLength < frame.data.length then none
  else if w.vlsdOffsetSize < 8 ∧ 2 ^ (w.vlsdOffsetSize * 8) ≤ w.nextVlsdOffset frame then none
  else (toCanDlc frame.data.length).map fun dlc =>
    w.vlsdRecordId ++ vlsdBytes frame.data ++ (w.recordId ++
      (timeBytes toFloat w.timeSize time ++
        frameBytes dlc frame busChannel w.vlsdOffsetSize w.vlsdOffset))

/-- The end of `Write`, after the stream took the records. -/
def count (frame : CanFrame) (w : CanRecordWriter) : CanRecordWriter :=
  { w with
    vlsdOffset := w.nextVlsdOffset frame
    bytesWritten := w.bytesWritten +
      (w.vlsdRecordId.length + vlsdLengthBytes + frame.data.length + w.recordSize) }

end CanRecordWriter

/-! ### Reading records -/

/-- A record as a reader sees it: the index of its group, its data and its invalidation bytes. -/
structure DataRecord where
  group : ℕ
  data : List UInt8
  invalidation : List UInt8 := []
  deriving DecidableEq, Repr

/-- The first record of the data and what follows it: the group is found by the record ID, and the
length is what the group declares, or what a record for a variable length value has before it. -/
def readRecord (recordIdSize : ℕ) (groups : List Group) (bytes : List UInt8) :
    Option (DataRecord × List UInt8) :=
  let recordId := ofLeBytes (bytes.take recordIdSize)
  let rest := bytes.drop recordIdSize
  (groups.findIdx? (·.recordId = recordId)).bind fun i => groups[i]?.bind fun g =>
    if isVlsd g then
      let length := ofLeBytes (rest.take 4)
      if rest.length < 4 + length then none
      else some (⟨i, (rest.drop 4).take length, []⟩, rest.drop (4 + length))
    else if rest.length < g.dataBytes + g.invalidationBytes then none
    else some (⟨i, rest.take g.dataBytes, (rest.drop g.dataBytes).take g.invalidationBytes⟩,
      rest.drop (g.dataBytes + g.invalidationBytes))

/-- The records of the data, none when the data is not made of records. -/
def readRecords (recordIdSize : ℕ) (groups : List Group) :
    ℕ → List UInt8 → Option (List DataRecord)
  | _, [] => some []
  | 0, _ :: _ => none
  | rounds + 1, byte :: bytes =>
    (readRecord recordIdSize groups (byte :: bytes)).bind fun (record, rest) =>
      (readRecords recordIdSize groups rounds rest).map (record :: ·)

/-- The bytes of a record as its group declares it. -/
def DataRecord.bytes (recordIdSize : ℕ) (g : Group) (record : DataRecord) : List UInt8 :=
  leBytes recordIdSize g.recordId ++
    if isVlsd g then CanRecordWriter.vlsdBytes record.data else record.data ++ record.invalidation

/-- A record that has the sizes its group declares. -/
structure DataRecord.Fits (recordIdSize : ℕ) (groups : List Group) (g : Group)
    (record : DataRecord) : Prop where
  group : groups[record.group]? = some g
  recordId : g.recordId < 256 ^ recordIdSize
  vlsd : isVlsd g = true → record.data.length < 256 ^ 4 ∧ record.invalidation = []
  plain : isVlsd g = false → record.data.length = g.dataBytes ∧
    record.invalidation.length = g.invalidationBytes

section Reading

variable {recordIdSize : ℕ} {groups : List Group}

private theorem findIdx?_recordId (distinct : (groups.map Group.recordId).Nodup) {i : ℕ} {g : Group}
    (found : groups[i]? = some g) :
    groups.findIdx? (fun other => decide (other.recordId = g.recordId)) = some i := by
  obtain ⟨bound, rfl⟩ := List.getElem?_eq_some_iff.mp found
  rw [List.findIdx?_eq_some_iff_getElem]
  refine ⟨bound, by simp, fun j before same => ?_⟩
  have same : groups[j].recordId = groups[i].recordId := by simpa using same
  have bound' : j < groups.length := before.trans bound
  have equal : (groups.map Group.recordId)[j]? = (groups.map Group.recordId)[i]? := by
    simp [bound, bound', same]
  have index := (List.getElem?_inj (by simpa using bound') distinct).mp equal
  omega

/-- A reader finds the record that the data starts with. -/
theorem readRecord_append (distinct : (groups.map Group.recordId).Nodup) {g : Group}
    {record : DataRecord} (fits : record.Fits recordIdSize groups g) (rest : List UInt8) :
    readRecord recordIdSize groups (record.bytes recordIdSize g ++ rest) =
      some (record, rest) := by
  have idTake (bytes : List UInt8) : (leBytes recordIdSize g.recordId ++ bytes).take recordIdSize =
      leBytes recordIdSize g.recordId := List.take_left' (length_leBytes _ _)
  have idDrop (bytes : List UInt8) :
      (leBytes recordIdSize g.recordId ++ bytes).drop recordIdSize = bytes :=
    List.drop_left' (length_leBytes _ _)
  rw [readRecord, DataRecord.bytes, List.append_assoc]
  simp only [idTake, idDrop, ofLeBytes_leBytes fits.recordId,
    findIdx?_recordId distinct fits.group, fits.group, Option.bind_some]
  cases vlsd : isVlsd g with
  | true =>
    obtain ⟨short, nothing⟩ := fits.vlsd vlsd
    have front (bytes : List UInt8) : (leBytes CanRecordWriter.vlsdLengthBytes
        record.data.length ++ bytes).take 4 = leBytes 4 record.data.length :=
      List.take_left' (length_leBytes _ _)
    have after (bytes : List UInt8) : (leBytes CanRecordWriter.vlsdLengthBytes
        record.data.length ++ bytes).drop 4 = bytes :=
      List.drop_left' (length_leBytes _ _)
    simp only [if_true, CanRecordWriter.vlsdBytes, List.append_assoc, front,
      ofLeBytes_leBytes short, ← List.drop_drop, after, List.take_left, List.drop_left]
    rw [if_neg (by
      simp only [List.length_append, length_leBytes, CanRecordWriter.vlsdLengthBytes]
      omega)]
    rw [← nothing]
  | false =>
    obtain ⟨dataLength, invalidationLength⟩ := fits.plain vlsd
    simp only [Bool.false_eq_true, if_false, List.append_assoc, ← dataLength,
      ← invalidationLength, ← List.drop_drop, List.take_left, List.drop_left]
    rw [if_neg (by
      simp only [List.length_append]
      omega)]

/-- Cutting the data of records, each with the sizes that its group declares, gives the records. -/
theorem readRecords_flatMap (distinct : (groups.map Group.recordId).Nodup)
    (someId : 0 < recordIdSize) {records : List (Group × DataRecord)}
    (fits : ∀ entry ∈ records, entry.2.Fits recordIdSize groups entry.1) {rounds : ℕ}
    (enough : records.length ≤ rounds) :
    readRecords recordIdSize groups rounds
        (records.flatMap fun entry => entry.2.bytes recordIdSize entry.1) =
      some (records.map Prod.snd) := by
  induction records generalizing rounds with
  | nil => cases rounds <;> rfl
  | cons entry records ih =>
    have first := readRecord_append distinct (fits entry List.mem_cons_self)
      (records.flatMap fun entry => entry.2.bytes recordIdSize entry.1)
    have others := fun other member => fits other (List.mem_cons_of_mem entry member)
    cases rounds with
    | zero => cases enough
    | succ rounds =>
      rw [List.flatMap_cons]
      obtain ⟨byte, bytes, spelled⟩ : ∃ byte bytes,
          entry.2.bytes recordIdSize entry.1 ++
            (records.flatMap fun entry => entry.2.bytes recordIdSize entry.1) = byte :: bytes := by
        apply List.exists_cons_of_length_pos
        simp only [DataRecord.bytes, List.length_append, length_leBytes]
        omega
      rw [spelled] at first ⊢
      rw [readRecords, first, Option.bind_some]
      dsimp only
      rw [ih others (Nat.le_of_succ_le_succ enough)]
      rfl

end Reading

end RtCore.Mdf
