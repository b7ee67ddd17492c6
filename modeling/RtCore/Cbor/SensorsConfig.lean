import RtCore.Cbor.Serializer

/-!
# The sensors configuration in CBOR

The size, the encoder and the decoder are three walks over the same nested lists. Three fields
may be missing, and nothing marks that: the decoder tries to read the field, and it is missing
when the next item has another type. A calibration table of fewer than two points is not
encoded.

## Main definitions

* `CborSensorsConfig` and its parts
* `Zcbor.encodeCborSensorsConfig`, `Zcbor.decodeCborSensorsConfig`
* `cborGetSizeCborSensorsConfig`

## Main results

* `CborSensorsConfig.roundTrips`
-/

namespace RtCore.Cbor

open RtCore.Foundation CborSizeCalc

/-- `CborSensorMetadataConfig`: a sensor's metadata as it is stored. -/
structure CborSensorMetadataConfig where
  name : Text
  unit : Text
  description : Text
deriving DecidableEq

/-- A point of a calibration table: its floats by their bits. -/
structure CborSensorCalibrationDataMapFloat32float where
  float32floatKey : UInt32
  float32float : UInt32
deriving DecidableEq, Repr

/-- `CborSensorConfigurationConfig`: a sensor's configuration as it is stored. -/
structure CborSensorConfigurationConfig where
  type : UInt32
  samplingRateMs : Int32
  interpolationMethod : UInt32
  channel : Option UInt32
  connectionString : Text
  scriptPath : Text
  calibrationTable : Option (List CborSensorCalibrationDataMapFloat32float)
  expression : Option Text
  debounceMs : UInt32
  inputMode : UInt32
deriving DecidableEq

/-- `CborSensorConfig`: a sensor as it is stored. -/
structure CborSensorConfig where
  id : Text
  isEnabled : Bool
  metadata : CborSensorMetadataConfig
  configuration : CborSensorConfigurationConfig
deriving DecidableEq

/-- `CborSensorsConfig`: the whole document. -/
structure CborSensorsConfig where
  sensors : List CborSensorConfig
deriving DecidableEq

/-! ### Size -/

/-- How many bytes a sensor's configuration takes. -/
def CborSensorConfigurationConfig.size (configuration : CborSensorConfigurationConfig) : ℕ :=
  sizeOfIndefiniteArrayStart
    + sizeOfUint configuration.type.toNat
    + sizeOfInt configuration.samplingRateMs.toInt
    + sizeOfUint configuration.interpolationMethod.toNat
    + sizeOfOptional configuration.channel (fun channel => sizeOfUint channel.toNat)
    + sizeOfTstr configuration.connectionString
    + sizeOfTstr configuration.scriptPath
    + sizeOfOptional configuration.calibrationTable (fun table =>
        sizeOfIndefiniteArrayStart + (table.map fun point =>
          sizeOfFloat point.float32floatKey + sizeOfFloat point.float32float).sum)
    + sizeOfOptional configuration.expression sizeOfTstr
    + sizeOfUint configuration.debounceMs.toNat
    + sizeOfUint configuration.inputMode.toNat

/-- What one round of the loop adds. -/
def CborSensorConfig.size (sensor : CborSensorConfig) : ℕ :=
  sizeOfIndefiniteArrayStart
    + sizeOfTstr sensor.id
    + sizeOfBool sensor.isEnabled
    + sizeOfIndefiniteArrayStart
    + sizeOfTstr sensor.metadata.name
    + sizeOfTstr sensor.metadata.unit
    + sizeOfTstr sensor.metadata.description
    + sensor.configuration.size

/-- `cbor_get_size_CborSensorsConfig`: the size of the buffer to encode into. -/
def cborGetSizeCborSensorsConfig (config : CborSensorsConfig) : ℕ :=
  sizeOfIndefiniteArrayStart + sizeOfIndefiniteArrayStart
    + (config.sensors.map CborSensorConfig.size).sum

/-! ### Encoder and decoder -/

namespace Zcbor

variable (zcbor : Zcbor)

/-- The generated encoder of a sensor's metadata. -/
def encodeCborSensorMetadataConfig (input : CborSensorMetadataConfig) :
    Walk zcbor.EncodeState Unit :=
  zcbor.listEncode 3 do
    zcbor.tstrEncode input.name
    zcbor.tstrEncode input.unit
    zcbor.tstrEncode input.description

/-- The generated encoder of one point of a calibration table. -/
def encodeRepeatedCborSensorCalibrationDataMapFloat32float
    (input : CborSensorCalibrationDataMapFloat32float) : Walk zcbor.EncodeState Unit := do
  zcbor.float32Encode input.float32floatKey
  zcbor.float32Encode input.float32float

/-- The generated encoder of a calibration table, of two points at least. -/
def encodeCborSensorCalibrationDataMap (input : List CborSensorCalibrationDataMapFloat32float) :
    Walk zcbor.EncodeState Unit :=
  zcbor.mapEncode input.length
    (Walk.multiEncodeMinmax 2 input.length
      zcbor.encodeRepeatedCborSensorCalibrationDataMapFloat32float input)

/-- The generated encoder of a sensor's configuration. -/
def encodeCborSensorConfigurationConfig (input : CborSensorConfigurationConfig) :
    Walk zcbor.EncodeState Unit :=
  zcbor.listEncode 10 do
    zcbor.uint32Encode input.type
    zcbor.int32Encode input.samplingRateMs
    zcbor.uint32Encode input.interpolationMethod
    Walk.whenSome input.channel zcbor.uint32Encode
    zcbor.tstrEncode input.connectionString
    zcbor.tstrEncode input.scriptPath
    Walk.whenSome input.calibrationTable zcbor.encodeCborSensorCalibrationDataMap
    Walk.whenSome input.expression zcbor.tstrEncode
    zcbor.uint32Encode input.debounceMs
    zcbor.uint32Encode input.inputMode

/-- The generated encoder of a sensor. -/
def encodeCborSensorConfig (input : CborSensorConfig) : Walk zcbor.EncodeState Unit :=
  zcbor.listEncode 4 do
    zcbor.tstrEncode input.id
    zcbor.boolEncode input.isEnabled
    zcbor.encodeCborSensorMetadataConfig input.metadata
    zcbor.encodeCborSensorConfigurationConfig input.configuration

/-- The generated encoder of the document. -/
def encodeCborSensorsConfig (input : CborSensorsConfig) : Walk zcbor.EncodeState Unit :=
  zcbor.listEncode 1 (zcbor.listEncode input.sensors.length
    (Walk.multiEncodeMinmax 0 input.sensors.length zcbor.encodeCborSensorConfig input.sensors))

/-- The generated decoder of a sensor's metadata. -/
def decodeCborSensorMetadataConfig : Walk zcbor.DecodeState CborSensorMetadataConfig :=
  zcbor.listDecode do
    let name ← zcbor.tstrDecode
    let unit ← zcbor.tstrDecode
    let description ← zcbor.tstrDecode
    return { name, unit, description }

/-- The generated decoder of one point of a calibration table. -/
def decodeRepeatedCborSensorCalibrationDataMapFloat32float :
    Walk zcbor.DecodeState CborSensorCalibrationDataMapFloat32float := do
  let float32floatKey ← zcbor.float32Decode
  let float32float ← zcbor.float32Decode
  return { float32floatKey, float32float }

/-- The generated decoder of a calibration table. -/
def decodeCborSensorCalibrationDataMap (rounds : ℕ) :
    Walk zcbor.DecodeState (List CborSensorCalibrationDataMapFloat32float) := do
  zcbor.mapStartDecode
  let table ← Walk.many zcbor.arrayAtEnd
    (fun _ => zcbor.decodeRepeatedCborSensorCalibrationDataMapFloat32float.cleanUp do
      zcbor.listMapEndForceDecode.ignore
      zcbor.mapEndDecode)
    rounds []
  zcbor.mapEndDecode
  return table

/-- The generated decoder of a sensor's configuration. -/
def decodeCborSensorConfigurationConfig (rounds : ℕ) :
    Walk zcbor.DecodeState CborSensorConfigurationConfig :=
  zcbor.listDecode do
    let type ← zcbor.uint32Decode
    let samplingRateMs ← zcbor.int32Decode
    let interpolationMethod ← zcbor.uint32Decode
    let channel ← zcbor.uint32Decode.whenPresent
    let connectionString ← zcbor.tstrDecode
    let scriptPath ← zcbor.tstrDecode
    let calibrationTable ← (zcbor.decodeCborSensorCalibrationDataMap rounds).whenPresent
    let expression ← zcbor.tstrDecode.whenPresent
    let debounceMs ← zcbor.uint32Decode
    let inputMode ← zcbor.uint32Decode
    return { type, samplingRateMs, interpolationMethod, channel, connectionString, scriptPath,
             calibrationTable, expression, debounceMs, inputMode }

/-- The generated decoder of a sensor. -/
def decodeCborSensorConfig (rounds : ℕ) : Walk zcbor.DecodeState CborSensorConfig :=
  zcbor.listDecode do
    let id ← zcbor.tstrDecode
    let isEnabled ← zcbor.boolDecode
    let metadata ← zcbor.decodeCborSensorMetadataConfig
    let configuration ← zcbor.decodeCborSensorConfigurationConfig rounds
    return { id, isEnabled, metadata, configuration }

/-- The generated decoder of the document. -/
def decodeCborSensorsConfig (rounds : ℕ) : Walk zcbor.DecodeState CborSensorsConfig := do
  zcbor.listStartDecode
  zcbor.listStartDecode.cleanUp zcbor.listEndDecode
  let sensors ← zcbor.decodeElements (zcbor.decodeCborSensorConfig rounds) rounds
  zcbor.listEndDecode.cleanUp zcbor.listEndDecode
  zcbor.listEndDecode
  return { sensors }

/-- `states[7]`. -/
def cborSensorsConfigTrait : CborTrait CborSensorsConfig :=
  zcbor.trait 7 zcbor.encodeCborSensorsConfig zcbor.decodeCborSensorsConfig
    cborGetSizeCborSensorsConfig

end Zcbor

/-! ### The bytes of a configuration -/

/-- The encoding of a sensor's metadata. -/
def CborSensorMetadataConfig.bytes (metadata : CborSensorMetadataConfig) : List UInt8 :=
  containerBytes listStart
    (tstrBytes metadata.name ++ (tstrBytes metadata.unit ++ (tstrBytes metadata.description ++ [])))

/-- The encoding of one point of a calibration table. -/
def CborSensorCalibrationDataMapFloat32float.bytes
    (point : CborSensorCalibrationDataMapFloat32float) : List UInt8 :=
  floatBytes point.float32floatKey ++ (floatBytes point.float32float ++ [])

/-- The encoding of a calibration table. -/
def calibrationTableBytes (table : List CborSensorCalibrationDataMapFloat32float) : List UInt8 :=
  containerBytes mapStart (table.flatMap CborSensorCalibrationDataMapFloat32float.bytes)

/-- The encoding of a sensor's configuration. -/
def CborSensorConfigurationConfig.bytes (configuration : CborSensorConfigurationConfig) :
    List UInt8 :=
  containerBytes listStart
    (uintBytes configuration.type ++ (intBytes configuration.samplingRateMs ++
      (uintBytes configuration.interpolationMethod ++
        (bytesWhenPresent configuration.channel uintBytes ++
          (tstrBytes configuration.connectionString ++ (tstrBytes configuration.scriptPath ++
            (bytesWhenPresent configuration.calibrationTable calibrationTableBytes ++
              (bytesWhenPresent configuration.expression tstrBytes ++
                (uintBytes configuration.debounceMs ++
                  (uintBytes configuration.inputMode ++ []))))))))))

/-- The encoding of a sensor. -/
def CborSensorConfig.bytes (sensor : CborSensorConfig) : List UInt8 :=
  containerBytes listStart
    (tstrBytes sensor.id ++ (boolBytes sensor.isEnabled ++
      (sensor.metadata.bytes ++ (sensor.configuration.bytes ++ []))))

/-- The encoding of the document. -/
def CborSensorsConfig.bytes (config : CborSensorsConfig) : List UInt8 :=
  containerBytes listStart
    (containerBytes listStart (config.sensors.flatMap CborSensorConfig.bytes))

/-- Every calibration table that is present has the points the encoder asks for. -/
def CborSensorsConfig.Encodable (config : CborSensorsConfig) : Prop :=
  ∀ sensor ∈ config.sensors, ∀ table ∈ sensor.configuration.calibrationTable, 2 ≤ table.length

theorem length_bytesWhenPresent {α : Type} {encoding : α → List UInt8} {sizeFunc : α → ℕ}
    (sizes : ∀ value, (encoding value).length = sizeFunc value) (value : Option α) :
    (bytesWhenPresent value encoding).length = sizeOfOptional value sizeFunc := by
  cases value with
  | none => rfl
  | some value => exact sizes value

theorem length_calibrationTableBytes (table : List CborSensorCalibrationDataMapFloat32float) :
    (calibrationTableBytes table).length = sizeOfIndefiniteArrayStart + (table.map fun point =>
      sizeOfFloat point.float32floatKey + sizeOfFloat point.float32float).sum := by
  rw [calibrationTableBytes, length_containerBytes, List.length_flatMap]
  congr 3

theorem CborSensorConfigurationConfig.length_bytes
    (configuration : CborSensorConfigurationConfig) :
    configuration.bytes.length = configuration.size := by
  rw [bytes, size]
  simp only [length_containerBytes, List.length_append, List.length_nil, length_uintBytes,
    length_intBytes, length_tstrBytes, length_bytesWhenPresent length_calibrationTableBytes,
    length_bytesWhenPresent length_tstrBytes, length_bytesWhenPresent length_uintBytes]
  omega

theorem CborSensorConfig.length_bytes (sensor : CborSensorConfig) :
    sensor.bytes.length = sensor.size := by
  rw [bytes, size]
  simp only [CborSensorMetadataConfig.bytes, length_containerBytes, List.length_append,
    List.length_nil, length_tstrBytes, length_boolBytes,
    CborSensorConfigurationConfig.length_bytes]
  omega

/-- The computed size is the size of the encoding. -/
theorem CborSensorsConfig.length_bytes (config : CborSensorsConfig) :
    config.bytes.length = cborGetSizeCborSensorsConfig config := by
  have each : (fun sensor : CborSensorConfig => sensor.bytes.length) = CborSensorConfig.size :=
    funext CborSensorConfig.length_bytes
  rw [bytes, cborGetSizeCborSensorsConfig, length_containerBytes, length_containerBytes,
    List.length_flatMap, each]
  omega

/-! ### Round trip -/

section RoundTrip

variable {zcbor : Zcbor} (laws : zcbor.Laws)

theorem writes_cborSensorMetadataConfig (input : CborSensorMetadataConfig) :
    Writes laws.Room (zcbor.encodeCborSensorMetadataConfig input) input.bytes := by
  apply laws.listEncode
  apply (laws.tstrEncode input.name).bind
  apply (laws.tstrEncode input.unit).bind
  exact (laws.tstrEncode input.description).last

theorem writes_cborSensorCalibrationDataMap
    {input : List CborSensorCalibrationDataMapFloat32float} (enough : 2 ≤ input.length) :
    Writes laws.Room (zcbor.encodeCborSensorCalibrationDataMap input)
      (calibrationTableBytes input) := by
  apply laws.mapEncode
  apply Writes.multi enough le_rfl
  intro point _
  exact (laws.float32Encode _).bind (laws.float32Encode _).last

theorem writes_cborSensorConfigurationConfig {input : CborSensorConfigurationConfig}
    (encodable : ∀ table ∈ input.calibrationTable, 2 ≤ table.length) :
    Writes laws.Room (zcbor.encodeCborSensorConfigurationConfig input) input.bytes := by
  apply laws.listEncode
  apply (laws.uint32Encode input.type).bind
  apply (laws.int32Encode input.samplingRateMs).bind
  apply (laws.uint32Encode input.interpolationMethod).bind
  apply (Writes.whenSome input.channel fun channel _ => laws.uint32Encode channel).bind
  apply (laws.tstrEncode input.connectionString).bind
  apply (laws.tstrEncode input.scriptPath).bind
  apply (Writes.whenSome input.calibrationTable fun table present =>
    writes_cborSensorCalibrationDataMap laws (encodable table present)).bind
  apply (Writes.whenSome input.expression fun expression _ => laws.tstrEncode expression).bind
  apply (laws.uint32Encode input.debounceMs).bind
  exact (laws.uint32Encode input.inputMode).last

theorem writes_cborSensorConfig {input : CborSensorConfig}
    (encodable : ∀ table ∈ input.configuration.calibrationTable, 2 ≤ table.length) :
    Writes laws.Room (zcbor.encodeCborSensorConfig input) input.bytes := by
  apply laws.listEncode
  apply (laws.tstrEncode input.id).bind
  apply (laws.boolEncode input.isEnabled).bind
  apply (writes_cborSensorMetadataConfig laws input.metadata).bind
  exact (writes_cborSensorConfigurationConfig laws encodable).last

theorem writes_cborSensorsConfig {input : CborSensorsConfig} (encodable : input.Encodable) :
    Writes laws.Room (zcbor.encodeCborSensorsConfig input) input.bytes := by
  apply laws.listEncode
  apply laws.listEncode
  apply Writes.multi (Nat.zero_le _) le_rfl
  intro sensor member
  exact writes_cborSensorConfig laws (encodable sensor member)

theorem reads_cborSensorMetadataConfig (input : CborSensorMetadataConfig) :
    Reads laws.At zcbor.decodeCborSensorMetadataConfig input.bytes input 1 := by
  apply laws.listDecode
  apply (laws.tstrDecode input.name).andThen
  apply (laws.tstrDecode input.unit).andThen
  apply (laws.tstrDecode input.description).andThen
  exact ReadsBefore.nothing input

theorem reads_cborSensorCalibrationDataMap
    (input : List CborSensorCalibrationDataMapFloat32float) {rounds : ℕ}
    (enough : (calibrationTableBytes input).length ≤ rounds) :
    Reads laws.At (zcbor.decodeCborSensorCalibrationDataMap rounds) (calibrationTableBytes input)
      input 1 := by
  rw [calibrationTableBytes, length_containerBytes, sizeOfIndefiniteArrayStart] at enough
  intro before rest depth free _ inside free_enough
  apply laws.container laws.mapStartDecode laws.mapEndDecode ?_ (Or.inl inside) free_enough
    (Runs.pure input _)
  apply laws.many
  · intro seen _ point _
    apply ReadsBefore.cleanUp
    apply (laws.float32Decode point.float32floatKey).andThen
    apply (laws.float32Decode point.float32float).andThen
    exact ReadsBefore.nothing point
  · intro point _
    exact ⟨0xFA, _, rfl, by decide⟩
  · omega

/-- A table is found missing where something else than a map comes. -/
theorem refuses_cborSensorCalibrationDataMap {bytes : List UInt8} (rounds : ℕ)
    (refuses : Refuses laws.At zcbor.mapStartDecode bytes) :
    Refuses laws.At (zcbor.decodeCborSensorCalibrationDataMap rounds) bytes :=
  refuses.bind _

theorem reads_cborSensorConfigurationConfig (input : CborSensorConfigurationConfig) {rounds : ℕ}
    (enough : input.bytes.length ≤ rounds) :
    Reads laws.At (zcbor.decodeCborSensorConfigurationConfig rounds) input.bytes input 2 := by
  have tableRounds (table) (present : table ∈ input.calibrationTable) :
      (calibrationTableBytes table).length ≤ rounds := by
    rw [CborSensorConfigurationConfig.bytes, Option.mem_def.mp present] at enough
    simp only [length_containerBytes, List.length_append, bytesWhenPresent] at enough
    omega
  apply laws.listDecode
  apply (laws.uint32Decode input.type).andThen
  apply (laws.int32Decode input.samplingRateMs).andThen
  apply (laws.uint32Decode input.interpolationMethod).andThen
  apply (ReadsBefore.whenPresent input.channel fun channel _ => laws.uint32Decode channel).bind ?_
    fun rest _ _ => (laws.uint32Decode_tstr input.connectionString).refusedAt _ rest
  apply (laws.tstrDecode input.connectionString).andThen
  apply (laws.tstrDecode input.scriptPath).andThen
  apply (ReadsBefore.whenPresent input.calibrationTable fun table present =>
    reads_cborSensorCalibrationDataMap laws table (tableRounds table present)).bind
  · apply (ReadsBefore.whenPresent input.expression fun expression _ =>
      laws.tstrDecode expression).bind ?_
      fun rest _ _ => (laws.tstrDecode_uint input.debounceMs).refusedAt _ rest
    apply (laws.uint32Decode input.debounceMs).andThen
    apply (laws.uint32Decode input.inputMode).andThen
    exact ReadsBefore.nothing input
  · -- Behind a missing table comes the expression, or the debounce if that is missing too.
    intro rest _ _
    cases input.expression with
    | some expression =>
      apply Refuses.refusedAt
      exact refuses_cborSensorCalibrationDataMap laws rounds (laws.mapStartDecode_tstr expression)
    | none =>
      rw [bytesWhenPresent, List.nil_append]
      apply Refuses.refusedAt
      exact refuses_cborSensorCalibrationDataMap laws rounds
        (laws.mapStartDecode_uint input.debounceMs)

theorem reads_cborSensorConfig (input : CborSensorConfig) {rounds : ℕ}
    (enough : input.bytes.length ≤ rounds) :
    Reads laws.At (zcbor.decodeCborSensorConfig rounds) input.bytes input 3 := by
  have configurationRounds : input.configuration.bytes.length ≤ rounds := by
    simp only [CborSensorConfig.bytes, length_containerBytes, List.length_append] at enough
    omega
  apply laws.listDecode
  apply (laws.tstrDecode input.id).andThen
  apply (laws.boolDecode input.isEnabled).andThen
  apply ((reads_cborSensorMetadataConfig laws input.metadata).weaken (by decide)).andThen
  apply (reads_cborSensorConfigurationConfig laws input.configuration configurationRounds).andThen
  exact ReadsBefore.nothing input

/-- The decoder takes the whole encoding, within the five containers it can keep open. -/
theorem runs_cborSensorsConfig (input : CborSensorsConfig) {rounds : ℕ}
    (enough : input.bytes.length < rounds) :
    Runs laws.At (zcbor.decodeCborSensorsConfig rounds) input ⟨[], input.bytes, 0, 5⟩
      ⟨input.bytes, [], 0, 5⟩ := by
  simp only [CborSensorsConfig.bytes, length_containerBytes] at enough
  apply laws.listInList ?_ _ _ CborSensorsConfig.mk 5 (by decide : 3 + 2 ≤ 5)
  apply laws.elements
  · intro sensor member
    apply reads_cborSensorConfig
    exact (length_le_flatMap member).trans (by omega)
  · intro sensor _
    exact containerBytes_start (by decide) _
  · omega

/-- Every configuration whose tables can be encoded fits its computed size and is read back. -/
theorem CborSensorsConfig.roundTrips (laws : zcbor.Laws) {config : CborSensorsConfig}
    (encodable : config.Encodable) : RoundTrips zcbor.cborSensorsConfigTrait config :=
  RoundTrips.of_runs laws (List.cons_ne_nil _ _) config.length_bytes.le
    (writes_cborSensorsConfig laws encodable)
    (runs_cborSensorsConfig laws config (Nat.lt_succ_self _))

end RoundTrip

end RtCore.Cbor
