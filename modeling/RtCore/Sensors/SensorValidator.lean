import RtCore.Foundation.Checks
import RtCore.Foundation.FloatBits
import RtCore.Sensors.CanbusSource
import RtCore.Sensors.ProcessingOrder

/-!
# Validation of a sensors configuration

A sensor as it is configured: plain data, its expression a text and its enumerations numbers that
may name nothing. The validator refuses what the pipeline cannot be built from; it reads what a
type needs and allows from one table.

The expression engine, the hash of a text and the card with the scripts belong to the unit.

## Main definitions

* `ConfiguredSensor`, `SensorConfiguration`, `SensorTypeRequirements`
* `SensorsUnit` — what the unit gives to the validator
* `SensorValidator.validate`

## Main results

* `SensorValidator.validate_eq_ok` — what every accepted sensor satisfies, check by check
-/

namespace RtCore.Sensors

open RtCore.Foundation

/-! ### Sensors as configured -/

/-- What a sensor is called, measured in and described as. -/
structure SensorMetadata where
  name : Text
  unit : Text
  description : Text
deriving DecidableEq

/-- A point of a calibration table: its floats by their bits. -/
structure CalibrationData where
  voltage : UInt32
  value : UInt32
deriving DecidableEq, Repr

/-- `type` and `inputMode` are stored IDs, `interpolationMethod` is one of a byte. -/
structure SensorConfiguration where
  type : UInt32
  channel : Option UInt32
  connectionString : Text
  scriptPath : Text
  samplingRateMs : Option Int32
  interpolationMethod : UInt8
  calibrationTable : List CalibrationData
  /-- Empty for none. -/
  expression : Text
  debounceMs : UInt32
  inputMode : UInt32
  /-- What the connection string names. -/
  canbusSource : Option CanbusSource
deriving DecidableEq

/-- A sensor as it is configured. -/
structure ConfiguredSensor where
  id : Text
  isEnabled : Bool
  metadata : SensorMetadata
  configuration : SensorConfiguration
deriving DecidableEq

/-- The type with a stored ID. -/
def SensorType.ofId (id : UInt32) : Option SensorType :=
  match id.toNat with
  | 0 => some .none
  | 1 => some .physicalAnalog
  | 2 => some .virtualAnalog
  | 3 => some .physicalIndicator
  | 4 => some .virtualIndicator
  | 5 => some .canbusRaw
  | 6 => some .canbusAnalog
  | 7 => some .canbusIndicator
  | 8 => some .userAnalog
  | 9 => some .userIndicator
  | 10 => some .controlIndicator
  | 11 => some .controlAnalog
  | _ => Option.none

/-- The mode with a stored ID. -/
def IndicatorInputMode.ofId (id : UInt32) : Option IndicatorInputMode :=
  match id.toNat with
  | 0 => some .level
  | 1 => some .toggle
  | _ => none

/-- What a sensor type needs and allows. -/
structure SensorTypeRequirements extends SensorTypeTraits where
  requiresChannel : Bool := false
  usesCanbus : Bool := false
  requiresSignalName : Bool := false
  requiresInterpolation : Bool := false
  requiresExpression : Bool := false
  requiresSamplingRate : Bool := false
  allowsSamplingRate : Bool := true
  /-- The expression receives the reading as `x`. -/
  hasInput : Bool := false
deriving DecidableEq

/-- What the validator asks of each type. -/
def SensorTypeRequirements.of (type : SensorType) : SensorTypeRequirements :=
  match type with
  | .none => { toSensorTypeTraits := .of type }
  | .physicalAnalog =>
    { toSensorTypeTraits := .of type, requiresChannel := true, requiresInterpolation := true,
      requiresSamplingRate := true, hasInput := true }
  | .physicalIndicator =>
    { toSensorTypeTraits := .of type, requiresChannel := true, hasInput := true }
  | .virtualAnalog | .virtualIndicator =>
    { toSensorTypeTraits := .of type, requiresExpression := true }
  | .canbusRaw =>
    { toSensorTypeTraits := .of type, usesCanbus := true, allowsSamplingRate := false }
  | .canbusAnalog | .canbusIndicator =>
    { toSensorTypeTraits := .of type, usesCanbus := true, requiresSignalName := true,
      allowsSamplingRate := false, hasInput := true }
  | .userAnalog | .userIndicator =>
    { toSensorTypeTraits := .of type, requiresSamplingRate := true, hasInput := true }
  | .controlIndicator | .controlAnalog =>
    { toSensorTypeTraits := .of type, allowsSamplingRate := false, hasInput := true }

namespace SensorConfiguration

variable (configuration : SensorConfiguration)

/-- An ID that names no type needs nothing and allows what most types do. -/
def getTraits : SensorTypeRequirements :=
  match SensorType.ofId configuration.type with
  | some type => .of type
  | none => { toSensorTypeTraits := {} }

/-- The configuration has an expression. -/
def hasExpression : Bool := !configuration.expression.isEmpty

/-- The configuration has an interpolation method. -/
def hasInterpolation : Bool := configuration.interpolationMethod ≠ 0

end SensorConfiguration

/-! ### The unit -/

/-- An expression as the engine compiled it. -/
structure CompiledExpression (V : Type) where
  usesInput : Bool
  variableNames : List Text
  evaluate : List V → Option V → Option V

/-- The card that scripts are looked for on. -/
structure Card where
  isAvailable : Bool
  exists_ : Text → Bool

/-- What the unit gives to the validator and the parser: how many sensors and channels it has,
the card, if there is a service for it, the hash, the expression engine, and the maps of the order
resolver after all sensors were added, in whatever order these are enumerated. -/
structure SensorsUnit (V : Type) where
  maxCount : ℕ
  gpioChannelCount : UInt32
  adcChannelCount : UInt32
  card : Option Card
  getHash : Text → UInt32
  createEvaluator : Text → Except String (CompiledExpression V)
  addSensors : List (Sensor V) → SensorsOrderResolver V
  added : ∀ sensors : List (Sensor V), (sensors.map Sensor.id).Nodup →
    (addSensors sensors).Added sensors

/-- The scripts of a unit that has a card. -/
def SensorsUnit.scripts? {V : Type} (unit : SensorsUnit V) : Option (Text → Bool) :=
  match unit.card with
  | some card => if card.isAvailable then some card.exists_ else none
  | none => none

/-- What the parser throws. -/
inductive SensorError
  | tooManySensors (count most : ℕ)
  | invalidSensor (sensorId : Text) (message : String)
  | invalidMetadata (sensorId : Text) (message : String)
  /-- The resolver could not compile an expression. -/
  | expression (sensorId : Text) (message : String)
  | order (error : OrderError)
  /-- `std::length_error`. -/
  | tooLong
deriving DecidableEq

/-- The message of a `SensorError`. -/
def SensorError.what : SensorError → String
  | .tooManySensors count most =>
    s!"Invalid Sensors configuration. {count} sensors configured, at most {most} are supported."
  | .invalidSensor sensorId message =>
    "Invalid Sensor configuration. Sensor ID: " ++ sensorId.string ++ ". " ++ message
  | .invalidMetadata sensorId message =>
    "Invalid Sensor metadata configuration. Sensor ID: " ++ sensorId.string ++ ". " ++ message
  | .expression sensorId message => "Sensor " ++ sensorId.string ++ ": " ++ message
  | .order (.nonExistentSensor sensorId dependency) =>
    "Sensor " ++ sensorId ++ " depends on non-existent sensor " ++ dependency ++ "."
  | .order (.cyclicDependency sensorId) =>
    "Cyclic dependency detected in sensor " ++ sensorId ++ "."
  | .order _ => "unordered_map::at"
  | .tooLong => "basic_string::append"

/-! ### The validator -/

namespace SensorValidator

variable {V : Type} (unit : SensorsUnit V) (sensorId : Text) (configuration : SensorConfiguration)

/-- The most points of a calibration table. -/
def maxCalibrationPoints : ℕ := 50

/-- The longest debounce, in milliseconds. -/
def maxDebounceMs : ℕ := 60000

/-- Which IDs were seen, in order; two with one hash cannot be told apart later. -/
def validateIdLoop : List Text → List Text → Except SensorError Unit
  | _, [] => .ok ()
  | seen, sensorId :: later => do
    refuseIf (sensorId.isEmpty = true) (.invalidSensor sensorId "Sensor ID cannot be empty.")
    refuseIf (sensorId.bytes.head?.any (fun byte => isAlpha byte || byte = underscore) = false)
      (.invalidSensor sensorId "Sensor ID must start with a letter or an underscore.")
    refuseIf (sensorId.bytes.all (fun byte => isAlnum byte || byte = underscore) = false)
      (.invalidSensor sensorId "Sensor ID must contain only letters, digits, and underscores.")
    refuseIf (sensorId ∈ seen) (.invalidSensor sensorId "Duplicate sensor ID.")
    match seen.find? fun other => unit.getHash other = unit.getHash sensorId with
    | some other =>
      .error (.invalidSensor sensorId
        ("Sensor ID hash collides with sensor " ++ other.string ++ ", rename one of them."))
    | none => validateIdLoop (seen ++ [sensorId]) later

/-- `ValidateId`: every ID is an identifier, and no other sensor has it or its hash. -/
def validateId (sensors : List ConfiguredSensor) : Except SensorError Unit :=
  validateIdLoop unit [] (sensors.map ConfiguredSensor.id)

/-- A text of the metadata has a largest size. -/
def validateSize (text : Text) (most : ℕ) (message : String) : Except SensorError Unit :=
  refuseIf (most < text.size) (.invalidMetadata sensorId message)

/-- `ValidateName`: 32 bytes at most. -/
def validateName (name : Text) : Except SensorError Unit :=
  validateSize sensorId name 32 "Sensor name must be at most 32 bytes."

/-- `ValidateUnit`: 32 bytes at most. -/
def validateUnit (unit : Text) : Except SensorError Unit :=
  validateSize sensorId unit 32 "Sensor unit must be at most 32 bytes."

/-- `ValidateDescription`: 128 bytes at most. -/
def validateDescription (description : Text) : Except SensorError Unit :=
  validateSize sensorId description 128 "Sensor description must be at most 128 bytes."

/-- The checks of a sensor's metadata. -/
def validateMetadata (sensor : ConfiguredSensor) : Except SensorError Unit := do
  validateName sensor.id sensor.metadata.name
  validateUnit sensor.id sensor.metadata.unit
  validateDescription sensor.id sensor.metadata.description

/-- `NONE`, and what names no type. -/
def validateType : Except SensorError Unit :=
  refuseIf (configuration.type = 0 ∨ 12 ≤ configuration.type)
    (.invalidSensor sensorId "Invalid sensor type.")

/-- The channels a unit has, as errors tell them. -/
def channelRangeText (kind : String) (channelCount : UInt32) : String :=
  if channelCount = 0 then "This unit has no " ++ kind ++ " channels."
  else if channelCount = 1 then "This unit has only " ++ kind ++ " channel 0."
  else "This unit has " ++ kind ++ " channels 0 to " ++ toString (channelCount.toNat - 1) ++ "."

/-- `ValidateChannel`: a channel of the unit where the type needs one, and none elsewhere. -/
def validateChannel : Except SensorError Unit :=
  let traits := configuration.getTraits
  if traits.requiresChannel = false then
    refuseIf (configuration.channel.isSome = true)
      (.invalidSensor sensorId "Channel value is not supported for this sensor type.")
  else
    match configuration.channel with
    | none => .error (.invalidSensor sensorId "Sensor channel is not set.")
    | some channel =>
      let isGpio := traits.source = .gpio
      let channelCount := if isGpio then unit.gpioChannelCount else unit.adcChannelCount
      refuseIf (channelCount ≤ channel) (.invalidSensor sensorId
        ("Channel value is out of range. " ++
          channelRangeText (if isGpio then "GPIO" else "ADC") channelCount))

/-- The text is read: a stored configuration is parsed after it was validated. -/
def validateConnectionString : Except SensorError Unit :=
  let traits := configuration.getTraits
  if traits.usesCanbus = false then
    refuseIf (configuration.connectionString.isEmpty = false)
      (.invalidSensor sensorId "Connection string is not supported for this sensor type.")
  else
    match CanbusSource.parse configuration.connectionString.bytes with
    | .error error => .error (.invalidSensor sensorId error)
    | .ok source =>
      refuseIf (traits.requiresSignalName = true ∧ source.signalName = [])
        (.invalidSensor sensorId "Sensor must have CAN bus signal name.")

/-- Only against a mounted card. -/
def validateScriptPath : Except SensorError Unit :=
  match unit.scripts? with
  | none => .ok ()
  | some exists_ =>
    refuseIf (configuration.scriptPath.isEmpty = false ∧ exists_ configuration.scriptPath = false)
      (.invalidSensor sensorId "Invalid sensor script path.")

/-- `ValidateSamplingRateMs`: a positive rate, where the type takes or needs one. -/
def validateSamplingRateMs : Except SensorError Unit := do
  let traits := configuration.getTraits
  refuseIf (configuration.samplingRateMs.any (fun rate => rate.toInt ≤ 0) = true)
    (.invalidSensor sensorId "Invalid sampling rate value.")
  refuseIf (traits.allowsSamplingRate = false ∧ configuration.samplingRateMs.isSome = true)
    (.invalidSensor sensorId
      "CAN bus and control sensors are updated by their source and do not support a sampling rate.")
  refuseIf (traits.requiresSamplingRate = true ∧ configuration.samplingRateMs.isSome = false)
    (.invalidSensor sensorId "Sensor must have a sampling rate.")

/-- The voltages are finite and distinct; the table is not ordered yet. -/
def validateCalibrationTable : Except SensorError Unit := do
  refuseIf (maxCalibrationPoints < configuration.calibrationTable.length)
    (.invalidSensor sensorId
      s!"Calibration table must have at most {maxCalibrationPoints} points.")
  refuseIf (configuration.calibrationTable.all (fun point =>
      FloatBits.isFinite point.voltage && FloatBits.isFinite point.value) = false)
    (.invalidSensor sensorId "Calibration table must hold finite numbers.")
  refuseIf (¬configuration.calibrationTable.Pairwise fun earlier point =>
      FloatBits.eq point.voltage earlier.voltage = false)
    (.invalidSensor sensorId "Calibration voltages must be unique.")

/-- The method itself is not looked at. -/
def validateInterpolationMethod : Except SensorError Unit :=
  if configuration.getTraits.requiresInterpolation = false then
    refuseIf (configuration.hasInterpolation = true ∨ configuration.calibrationTable ≠ [])
      (.invalidSensor sensorId "Sensor does not support interpolation.")
  else do
    refuseIf (configuration.hasInterpolation = false)
      (.invalidSensor sensorId "Sensor must have interpolation method.")
    refuseIf (configuration.calibrationTable.length < 2)
      (.invalidSensor sensorId "Calibration table must have at least 2 points.")
    validateCalibrationTable sensorId configuration

/-- `ValidateConditioning`: debounce and input mode are for indicators. -/
def validateConditioning : Except SensorError Unit := do
  refuseIf (2 ≤ configuration.inputMode) (.invalidSensor sensorId "Invalid indicator input mode.")
  refuseIf (configuration.getTraits.valueKind ≠ .indicator ∧ configuration.debounceMs ≠ 0)
    (.invalidSensor sensorId "Debounce is only supported for indicator sensors.")
  refuseIf (configuration.getTraits.valueKind ≠ .indicator ∧ configuration.inputMode ≠ 0)
    (.invalidSensor sensorId "Input mode is only supported for indicator sensors.")
  refuseIf (maxDebounceMs < configuration.debounceMs.toNat)
    (.invalidSensor sensorId s!"Debounce must be at most {maxDebounceMs} ms.")

/-- An input that an expression names: a sensor, and one that gets values. -/
def validateInput (sensor : ConfiguredSensor) (sensors : List ConfiguredSensor) (name : Text) :
    Except SensorError Unit :=
  match sensors.find? fun candidate => candidate.id = name with
  | none =>
    .error (.invalidSensor sensor.id
      ("Expression references unknown sensor " ++ name.string ++ "."))
  | some input =>
    refuseIf (sensor.isEnabled = true ∧ input.isEnabled = false) (.invalidSensor sensor.id
      ("Expression references disabled sensor " ++ name.string ++ "."))

/-- `ValidateExpression`: an expression that compiles over known sensors, where the type takes one.
-/
def validateExpression (sensor : ConfiguredSensor) (sensors : List ConfiguredSensor) :
    Except SensorError Unit := do
  let configuration := sensor.configuration
  let traits := configuration.getTraits
  refuseIf (traits.allowsExpression = false ∧ configuration.hasExpression = true)
    (.invalidSensor sensor.id "Sensor does not support expression evaluator.")
  refuseIf (traits.requiresExpression = true ∧ configuration.hasExpression = false)
    (.invalidSensor sensor.id "Sensor must have expression evaluator.")
  if configuration.hasExpression = false then
    .ok ()
  else
    match unit.createEvaluator configuration.expression with
    | .error error => .error (.invalidSensor sensor.id error)
    | .ok evaluator =>
      refuseIf (traits.hasInput = false ∧ evaluator.usesInput = true)
        (.invalidSensor sensor.id "Sensor has no input value, the expression cannot use x.")
      evaluator.variableNames.forM (validateInput sensor sensors)
      refuseIf (traits.source = .expression ∧ configuration.samplingRateMs.isSome = false ∧
          evaluator.variableNames = [])
        (.invalidSensor sensor.id "Sensor must have a sampling rate or depend on another sensor.")

/-- The checks of a sensor's configuration, one after the other. -/
def validateSensorConfiguration (sensor : ConfiguredSensor) (sensors : List ConfiguredSensor) :
    Except SensorError Unit := do
  validateType sensor.id sensor.configuration
  validateChannel unit sensor.id sensor.configuration
  validateConnectionString sensor.id sensor.configuration
  validateScriptPath unit sensor.id sensor.configuration
  validateSamplingRateMs sensor.id sensor.configuration
  validateInterpolationMethod sensor.id sensor.configuration
  validateConditioning sensor.id sensor.configuration
  validateExpression unit sensor sensors

/-- `Validate`: every check of the sensors, in the order they are made. -/
def validate (sensors : List ConfiguredSensor) : Except SensorError Unit := do
  refuseIf (unit.maxCount < sensors.length) (.tooManySensors sensors.length unit.maxCount)
  validateId unit sensors
  sensors.forM validateMetadata
  sensors.forM fun sensor => validateSensorConfiguration unit sensor sensors

/-! ### What accepted sensors satisfy -/

/-- A calibration table the interpolators can use, in whatever order. -/
structure UsableTable (table : List CalibrationData) : Prop where
  enough : 2 ≤ table.length
  few : table.length ≤ maxCalibrationPoints
  finite : ∀ point ∈ table,
    FloatBits.isFinite point.voltage = true ∧ FloatBits.isFinite point.value = true
  distinct : table.Pairwise fun earlier point =>
    FloatBits.key earlier.voltage ≠ FloatBits.key point.voltage

/-- The checks a sensor passed. -/
structure Passes (sensor : ConfiguredSensor) (sensors : List ConfiguredSensor) : Prop where
  type : validateType sensor.id sensor.configuration = .ok ()
  channel : validateChannel unit sensor.id sensor.configuration = .ok ()
  connectionString : validateConnectionString sensor.id sensor.configuration = .ok ()
  scriptPath : validateScriptPath unit sensor.id sensor.configuration = .ok ()
  samplingRateMs : validateSamplingRateMs sensor.id sensor.configuration = .ok ()
  interpolationMethod : validateInterpolationMethod sensor.id sensor.configuration = .ok ()
  conditioning : validateConditioning sensor.id sensor.configuration = .ok ()
  expression : validateExpression unit sensor sensors = .ok ()

variable {unit sensorId configuration}

theorem passes_iff {sensor : ConfiguredSensor} {sensors : List ConfiguredSensor} :
    validateSensorConfiguration unit sensor sensors = .ok () ↔ Passes unit sensor sensors := by
  unfold validateSensorConfiguration
  simp only [andThen_eq_ok]
  constructor
  · rintro ⟨type, channel, connectionString, scriptPath, rate, interpolation, conditioning,
      expression⟩
    exact ⟨type, channel, connectionString, scriptPath, rate, interpolation, conditioning,
      expression⟩
  · intro passes
    exact ⟨passes.type, passes.channel, passes.connectionString, passes.scriptPath,
      passes.samplingRateMs, passes.interpolationMethod, passes.conditioning, passes.expression⟩

/-- A configuration is accepted when the sensors together and each of them pass the checks. -/
theorem validate_eq_ok {sensors : List ConfiguredSensor} : validate unit sensors = .ok () ↔
    sensors.length ≤ unit.maxCount ∧ validateId unit sensors = .ok () ∧
      (∀ sensor ∈ sensors, validateMetadata sensor = .ok ()) ∧
        ∀ sensor ∈ sensors, Passes unit sensor sensors := by
  unfold validate
  simp only [andThen_eq_ok, refuseIf_eq_ok, forM_eq_ok, passes_iff, Nat.not_lt]

private theorem distinct_of_validateIdLoop {seen sensorIds : List Text}
    (accepted : validateIdLoop unit seen sensorIds = .ok ()) :
    (sensorIds.map unit.getHash).Nodup ∧
      ∀ sensorId ∈ sensorIds, ∀ other ∈ seen, unit.getHash other ≠ unit.getHash sensorId := by
  induction sensorIds generalizing seen with
  | nil => exact ⟨List.nodup_nil, nofun⟩
  | cons sensorId later ih =>
    simp only [validateIdLoop, andThen_eq_ok] at accepted
    obtain ⟨-, -, -, -, accepted⟩ := accepted
    split at accepted
    · exact nomatch accepted
    · rename_i fresh
      obtain ⟨distinct, apart⟩ := ih accepted
      have here (other) (member : other ∈ seen) : unit.getHash other ≠ unit.getHash sensorId := by
        simpa using List.find?_eq_none.mp fresh other member
      constructor
      · rw [List.map_cons, List.nodup_cons]
        refine ⟨?_, distinct⟩
        rw [List.mem_map]
        rintro ⟨other, member, same⟩
        exact apart other member sensorId (List.mem_append_right _ List.mem_cons_self) same.symm
      · intro other member
        rcases List.mem_cons.mp member with rfl | member
        · exact here
        · exact fun earlier mem => apart other member earlier (List.mem_append_left _ mem)

/-- No two sensors have one hash, and so no two have one ID. -/
theorem nodup_of_validateId {sensors : List ConfiguredSensor}
    (accepted : validateId unit sensors = .ok ()) :
    (sensors.map fun sensor => unit.getHash sensor.id).Nodup := by
  have distinct := (distinct_of_validateIdLoop accepted).1
  rwa [List.map_map] at distinct

theorem validateCalibrationTable_eq_ok :
    validateCalibrationTable sensorId configuration = .ok () ↔
      configuration.calibrationTable.length ≤ maxCalibrationPoints ∧
        (∀ point ∈ configuration.calibrationTable,
          FloatBits.isFinite point.voltage = true ∧ FloatBits.isFinite point.value = true) ∧
        configuration.calibrationTable.Pairwise fun earlier point =>
          FloatBits.key earlier.voltage ≠ FloatBits.key point.voltage := by
  unfold validateCalibrationTable
  simp only [andThen_eq_ok, refuseIf_eq_ok, Nat.not_lt, not_not, Bool.not_eq_false,
    List.all_eq_true, Bool.and_eq_true]
  refine and_congr_right fun _ => and_congr_right fun finite => ?_
  -- The floats of the table are numbers, so that `==` compares their places.
  apply List.Pairwise.iff_of_mem
  intro earlier point earlierMem pointMem
  rw [Bool.eq_false_iff, ne_eq, FloatBits.eq_iff (finite point pointMem).1
    (finite earlier earlierMem).1]
  exact not_congr eq_comm

/-- Only a type that interpolates has a method and a table, and it has both. -/
theorem validateInterpolationMethod_eq_ok :
    validateInterpolationMethod sensorId configuration = .ok () ↔
      if configuration.getTraits.requiresInterpolation = false then
        configuration.hasInterpolation = false ∧ configuration.calibrationTable = []
      else configuration.hasInterpolation = true ∧ UsableTable configuration.calibrationTable := by
  unfold validateInterpolationMethod
  split_ifs with interpolates
  · rw [refuseIf_eq_ok, not_or, not_not, Bool.not_eq_true]
  · simp only [andThen_eq_ok, refuseIf_eq_ok, Nat.not_lt, Bool.not_eq_false,
      validateCalibrationTable_eq_ok]
    refine and_congr_right fun _ => ?_
    constructor
    · rintro ⟨enough, few, finite, distinct⟩
      exact ⟨enough, few, finite, distinct⟩
    · intro usable
      exact ⟨usable.enough, usable.few, usable.finite, usable.distinct⟩

/-- An accepted type is a type, and not `NONE`. -/
theorem exists_type_of_validateType (accepted : validateType sensorId configuration = .ok ()) :
    ∃ type, SensorType.ofId configuration.type = some type ∧ type ≠ .none := by
  have given := refuseIf_eq_ok.mp accepted
  rw [not_or, UInt32.not_le, UInt32.lt_iff_toNat_lt, ← UInt32.toNat_inj] at given
  obtain ⟨positive, small⟩ := given
  unfold SensorType.ofId
  generalize configuration.type.toNat = id at positive small
  change ¬id = 0 at positive
  change id < 12 at small
  interval_cases id
  · exact absurd rfl positive
  all_goals exact ⟨_, rfl, nofun⟩

/-- What an accepted expression satisfies. -/
structure UsableExpression (unit : SensorsUnit V) (sensor : ConfiguredSensor)
    (sensors : List ConfiguredSensor) (evaluator : CompiledExpression V) : Prop where
  compiles : unit.createEvaluator sensor.configuration.expression = .ok evaluator
  inputs : ∀ name ∈ evaluator.variableNames, ∃ input,
    sensors.find? (fun candidate => candidate.id = name) = some input ∧
      (sensor.isEnabled = true → input.isEnabled = true)
  /-- A sensor computed from others has a sampling rate or depends on one. -/
  updates : sensor.configuration.getTraits.source = .expression →
    sensor.configuration.samplingRateMs.isSome = false → evaluator.variableNames ≠ []

private theorem validateInput_eq_ok {sensor : ConfiguredSensor} {sensors : List ConfiguredSensor}
    {name : Text} (accepted : validateInput sensor sensors name = .ok ()) :
    ∃ input, sensors.find? (fun candidate => candidate.id = name) = some input ∧
      (sensor.isEnabled = true → input.isEnabled = true) := by
  unfold validateInput at accepted
  split at accepted
  · exact nomatch accepted
  · rename_i input found
    refine ⟨input, found, fun enabled => ?_⟩
    have given := refuseIf_eq_ok.mp accepted
    simpa [enabled] using given

theorem usableExpression_of_validateExpression {sensor : ConfiguredSensor}
    {sensors : List ConfiguredSensor} (accepted : validateExpression unit sensor sensors = .ok ())
    (computes : sensor.configuration.hasExpression = true) :
    ∃ evaluator, UsableExpression unit sensor sensors evaluator := by
  simp only [validateExpression, andThen_eq_ok, computes, Bool.true_eq_false, if_false] at accepted
  obtain ⟨-, -, accepted⟩ := accepted
  split at accepted
  · exact nomatch accepted
  · rename_i evaluator compiles
    simp only [andThen_eq_ok, forM_eq_ok, refuseIf_eq_ok] at accepted
    obtain ⟨-, inputs, updates⟩ := accepted
    refine ⟨evaluator, compiles, fun name member => validateInput_eq_ok (inputs name member), ?_⟩
    intro source unscheduled none
    exact updates ⟨source, unscheduled, none⟩

theorem hasExpression_of_validateExpression {sensor : ConfiguredSensor}
    {sensors : List ConfiguredSensor} (accepted : validateExpression unit sensor sensors = .ok ())
    (required : sensor.configuration.getTraits.requiresExpression = true) :
    sensor.configuration.hasExpression = true := by
  simp only [validateExpression, andThen_eq_ok, refuseIf_eq_ok] at accepted
  obtain ⟨-, given, -⟩ := accepted
  simpa [required] using given

/-- The order of the points does not matter. -/
theorem UsableTable.perm {table other : List CalibrationData} (usable : UsableTable table)
    (perm : table.Perm other) : UsableTable other where
  enough := perm.length_eq ▸ usable.enough
  few := perm.length_eq ▸ usable.few
  finite point member := usable.finite point (perm.mem_iff.mpr member)
  distinct := usable.distinct.perm perm Ne.symm

end SensorValidator

end RtCore.Sensors
