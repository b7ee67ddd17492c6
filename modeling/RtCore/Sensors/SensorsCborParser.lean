import Mathlib.Data.List.Sort
import RtCore.Cbor.SensorsConfig
import RtCore.Sensors.SensorValidator

/-!
# The parser of the sensors configuration

Serializing writes the connection strings, validates, and converts; deserializing converts,
validates, sorts the calibration tables, reads the connection strings and puts the sensors into
processing order. Absent values have their own spelling: a sampling rate of -1, no calibration
table without a method, no expression when its text is empty.

## Main definitions

* `SensorsCborParser.serialize`, `SensorsCborParser.deserialize`

## Main results

* `SensorsCborParser.encodable_of_serialize` — what is serialized can be encoded
-/

namespace RtCore.Sensors

open RtCore.Foundation RtCore.Cbor

/-! ### Values rewritten on the way -/

namespace SensorConfiguration

variable (configuration : SensorConfiguration)

/-- None for a text that is too long. -/
def updateConnectionString : Option SensorConfiguration :=
  match configuration.getTraits.usesCanbus, configuration.canbusSource with
  | true, some source =>
    source.toConnectionString.map fun connectionString => { configuration with connectionString }
  | _, _ => some { configuration with connectionString := Text.empty }

/-- The connection string of a CAN sensor becomes its CAN source. -/
def unwrapConnectionString : Except String SensorConfiguration :=
  if configuration.getTraits.usesCanbus = true then
    match CanbusSource.fromConnectionString configuration.connectionString with
    | .ok source => .ok { configuration with canbusSource := some source }
    | .error error => .error error
  else .ok configuration

end SensorConfiguration

/-- Not behind another point, by voltage. -/
def CalibrationData.NotAfter (a b : CalibrationData) : Prop :=
  FloatBits.lt b.voltage a.voltage = false

instance : DecidableRel CalibrationData.NotAfter := fun a b =>
  inferInstanceAs (Decidable (FloatBits.lt b.voltage a.voltage = false))

/-- `std::ranges::sort` by voltage; voltages that were validated differ, so there is one order. -/
def sortByVoltage (table : List CalibrationData) : List CalibrationData :=
  table.insertionSort CalibrationData.NotAfter

/-! ### Conversion -/

/-- The configuration as it is stored: -1 stands for no sampling rate. -/
def SensorConfiguration.toCbor (configuration : SensorConfiguration) :
    CborSensorConfigurationConfig where
  type := configuration.type
  samplingRateMs :=
    match configuration.samplingRateMs with
    | some rate => if 0 < rate.toInt then rate else -1
    | none => -1
  interpolationMethod := configuration.interpolationMethod.toUInt32
  channel := configuration.channel
  connectionString := configuration.connectionString
  scriptPath := configuration.scriptPath
  calibrationTable :=
    if configuration.hasInterpolation then
      some ((sortByVoltage configuration.calibrationTable).map fun point =>
        ⟨point.voltage, point.value⟩)
    else none
  expression := if configuration.hasExpression then some configuration.expression else none
  debounceMs := configuration.debounceMs
  inputMode := configuration.inputMode

/-- The sensor as it is stored. -/
def ConfiguredSensor.toCbor (sensor : ConfiguredSensor) : CborSensorConfig where
  id := sensor.id
  isEnabled := sensor.isEnabled
  metadata := ⟨sensor.metadata.name, sensor.metadata.unit, sensor.metadata.description⟩
  configuration := sensor.configuration.toCbor

/-- The method of interpolation a stored number stands for, cut to its byte, is kept only with a
table. -/
def SensorConfiguration.ofCbor (config : CborSensorConfigurationConfig) : SensorConfiguration :=
  let interpolationMethod := config.interpolationMethod.toUInt8
  let (interpolationMethod, calibrationTable) :=
    match config.calibrationTable with
    | some table =>
      if interpolationMethod ≠ 0 then
        (interpolationMethod, table.map fun point =>
          (⟨point.float32floatKey, point.float32float⟩ : CalibrationData))
      else (0, [])
    | none => (0, [])
  { type := config.type
    channel := config.channel
    connectionString := config.connectionString
    scriptPath := config.scriptPath
    samplingRateMs := if 0 < config.samplingRateMs.toInt then some config.samplingRateMs else none
    interpolationMethod
    calibrationTable
    expression := config.expression.getD Text.empty
    debounceMs := config.debounceMs
    inputMode := config.inputMode
    canbusSource := none }

theorem SensorConfiguration.interpolationMethod_ofCbor (config : CborSensorConfigurationConfig) :
    (SensorConfiguration.ofCbor config).interpolationMethod =
      if config.calibrationTable.isSome = true then config.interpolationMethod.toUInt8 else 0 := by
  unfold SensorConfiguration.ofCbor
  cases config.calibrationTable with
  | none => rfl
  | some table =>
    by_cases cut : config.interpolationMethod.toUInt8 = 0
    · simp [cut]
    · simp [cut]

/-- The sensor as it is read back. -/
def ConfiguredSensor.ofCbor (config : CborSensorConfig) : ConfiguredSensor where
  id := config.id
  isEnabled := config.isEnabled
  metadata := ⟨config.metadata.name, config.metadata.unit, config.metadata.description⟩
  configuration := .ofCbor config.configuration

/-! ### Compiled sensors -/

/-- The expression as the pipeline evaluates it. -/
def CompiledExpression.toExpression {V : Type} (evaluator : CompiledExpression V) :
    Expression V where
  variableNames := evaluator.variableNames.map Text.string
  evaluate := evaluator.evaluate

/-- The sensor with its expression compiled and its script loaded. -/
def ConfiguredSensor.toSensor {V : Type} (sensor : ConfiguredSensor)
    (expression : Option (Expression V)) (postProcess : Option (PostProcess V)) : Sensor V where
  id := sensor.id.string
  isEnabled := sensor.isEnabled
  type := (SensorType.ofId sensor.configuration.type).getD .none
  samplingRateMs := sensor.configuration.samplingRateMs.map Int32.toInt
  expression
  postProcess
  debounceMs := sensor.configuration.debounceMs.toNat
  inputMode := (IndicatorInputMode.ofId sensor.configuration.inputMode).getD .level

/-! ### The parser -/

namespace SensorsCborParser

variable {V : Type} (unit : SensorsUnit V)

/-- The sensor as the order resolver sees it, its expression compiled for its variable names. -/
def resolverSensor (sensor : ConfiguredSensor) : Except SensorError (Sensor V) :=
  if sensor.configuration.hasExpression then
    match unit.createEvaluator sensor.configuration.expression with
    | .error error => .error (.expression sensor.id error)
    | .ok evaluator => .ok (sensor.toSensor (some evaluator.toExpression) none)
  else .ok (sensor.toSensor none none)

/-- The sensors in processing order; the resolver hands back the sensors it was given. -/
def processingOrder (sensors : List ConfiguredSensor) :
    Except SensorError (List ConfiguredSensor) := do
  let added ← sensors.mapM (resolverSensor unit)
  match (unit.addSensors added).getProcessingOrder with
  | .error error => .error (.order error)
  | .ok order =>
    .ok (order.filterMap fun resolved => sensors.find? fun sensor => sensor.id.string = resolved.id)

/-- The connection strings of the given sensors are written first. -/
def updateConnectionStrings (sensors : List ConfiguredSensor) :
    Except SensorError (List ConfiguredSensor) :=
  sensors.mapM fun sensor =>
    match sensor.configuration.updateConnectionString with
    | some configuration => .ok { sensor with configuration }
    | none => .error .tooLong

/-- `Serialize`: what the validator refuses, or has a cycle, is not stored. -/
def serialize (sensors : List ConfiguredSensor) : Except SensorError CborSensorsConfig := do
  let sensors ← updateConnectionStrings sensors
  SensorValidator.validate unit sensors
  let _ ← processingOrder unit sensors
  .ok { sensors := sensors.map ConfiguredSensor.toCbor }

/-- A validated sensor, its table sorted and its connection string read. -/
def finish (sensor : ConfiguredSensor) : Except SensorError ConfiguredSensor :=
  let configuration := { sensor.configuration with
    calibrationTable := sortByVoltage sensor.configuration.calibrationTable }
  match configuration.unwrapConnectionString with
  | .ok configuration => .ok { sensor with configuration }
  | .error error => .error (.invalidSensor sensor.id error)

/-- `Deserialize`: the stored sensors are checked, finished and ordered. -/
def deserialize (config : CborSensorsConfig) : Except SensorError (List ConfiguredSensor) := do
  let stored := config.sensors.map ConfiguredSensor.ofCbor
  SensorValidator.validate unit stored
  let sensors ← stored.mapM finish
  processingOrder unit sensors

variable {unit}

/-- What a successful `Serialize` did. -/
theorem serialize_eq_ok {sensors : List ConfiguredSensor} {config : CborSensorsConfig} :
    serialize unit sensors = .ok config ↔ ∃ updated order,
      updateConnectionStrings sensors = .ok updated ∧
        SensorValidator.validate unit updated = .ok () ∧
        processingOrder unit updated = .ok order ∧
          config = { sensors := updated.map ConfiguredSensor.toCbor } := by
  unfold serialize
  simp only [bind_eq_ok, Except.ok.injEq]
  constructor
  · rintro ⟨updated, writes, _, validates, order, orders, rfl⟩
    exact ⟨updated, order, writes, validates, orders, rfl⟩
  · rintro ⟨updated, order, writes, validates, orders, rfl⟩
    exact ⟨updated, writes, (), validates, order, orders, rfl⟩

/-- A calibration table that is stored has at least two points. -/
theorem encodable_of_serialize {sensors : List ConfiguredSensor} {config : CborSensorsConfig}
    (serializes : serialize unit sensors = .ok config) : config.Encodable := by
  obtain ⟨updated, _, -, validates, -, rfl⟩ := serialize_eq_ok.mp serializes
  obtain ⟨-, -, -, passes⟩ := SensorValidator.validate_eq_ok.mp validates
  intro cbor member table present
  obtain ⟨sensor, given, rfl⟩ := List.mem_map.mp member
  have interpolates := SensorValidator.validateInterpolationMethod_eq_ok.mp
    (passes sensor given).interpolationMethod
  simp only [ConfiguredSensor.toCbor, SensorConfiguration.toCbor, Option.mem_def] at present
  split_ifs at present with method
  cases present
  split_ifs at interpolates with never
  · rw [interpolates.1] at method
    exact nomatch method
  · have enough := interpolates.2.enough
    rw [List.length_map, sortByVoltage, List.length_insertionSort]
    exact enough

end SensorsCborParser

/-! ### A unit and a few sensors -/

namespace Configured

/-- A unit without a card; `StringHelpers::GetHash` of the IDs used here, and expressions over
whole numbers. -/
def unit : SensorsUnit (Option ℤ) where
  maxCount := 64
  gpioChannelCount := 2
  adcChannelCount := 4
  card := none
  getHash sensorId :=
    if sensorId = .ofString "speed" then 0x6187ff8e
    else if sensorId = .ofString "pressure" then 0x80bffd1b
    else if sensorId = .ofString "load" then 0x52b6ac66
    else 0
  createEvaluator expression :=
    if expression = .ofString "x" then .ok ⟨true, [], fun _ x => x⟩
    else if expression = .ofString "speed + pressure" then
      .ok ⟨false, [.ofString "speed", .ofString "pressure"], fun values _ =>
        (values.mapM fun value => value).map fun values => some values.sum⟩
    else .error "Syntax error."
  addSensors sensors := sensors.foldl SensorsOrderResolver.addSensor ⟨[]⟩
  added _ distinct := SensorsOrderResolver.added_addSensors distinct

/-- A sensor of an ID and a type. -/
def sensor (id : String) (type : UInt32) : ConfiguredSensor where
  id := .ofString id
  isEnabled := true
  metadata := ⟨.ofString id, .empty, .empty⟩
  configuration :=
    { type
      channel := none
      connectionString := .empty
      scriptPath := .empty
      samplingRateMs := none
      interpolationMethod := 0
      calibrationTable := []
      expression := .empty
      debounceMs := 0
      inputMode := 0
      canbusSource := none }

/-- A CAN signal whose name has a slash. -/
def speed : ConfiguredSensor :=
  let speed := sensor "speed" 6
  { speed with configuration := { speed.configuration with
    canbusSource := some ⟨0, 256, .ofString "wheel/front"⟩ } }

/-- An ADC channel, with the points (2, 100) and (1, 0) of its table. -/
def pressure (interpolationMethod : UInt8) : ConfiguredSensor :=
  let pressure := sensor "pressure" 1
  { pressure with configuration := { pressure.configuration with
    channel := some 0
    samplingRateMs := some 100
    interpolationMethod
    calibrationTable := [⟨0x40000000, 0x42c80000⟩, ⟨0x3f800000, 0⟩]
    expression := .ofString "x" } }

/-- A sensor computed from the other two. -/
def load : ConfiguredSensor :=
  let load := sensor "load" 2
  { load with configuration := { load.configuration with
    expression := .ofString "speed + pressure" } }

end Configured

end RtCore.Sensors
