import RtCore.Sensors.Generation
import RtCore.Sensors.RestoredSensors

/-!
# Building the pipeline of a validated configuration

`SensorPipelineBuilder` makes everything executable that the sensors of a configuration need. Of
what it asks for, the validator has seen to all but one thing: that the builder knows the method of
interpolation.

## Main definitions

* `SensorPipelineBuilder.build`
* `SensorPipelineBuilder.Updatable` — what a pipeline needs for its sensors to update

## Main results

* `SensorPipelineBuilder.generation_of_accepted` — the runtimes built from validated sensors are a
  generation
* `SensorPipelineBuilder.build_deserialized` — exactly when a validated configuration builds
-/

namespace RtCore.Sensors

open RtCore.Foundation RtCore.Cbor

/-! ### The builder -/

/-- `InterpolationMethod::LINEAR`. -/
def linear : UInt8 := 1

/-- `InterpolationMethod::CUBIC_SPLINE`. -/
def cubicSpline : UInt8 := 2

/-- An interpolator with its calibration table. -/
inductive VoltageInterpolator
  | linear (table : List CalibrationData)
  | cubicSpline (table : List CalibrationData)
deriving DecidableEq

/-- What `Build` throws. -/
inductive PipelineError
  | noSlot (sensorId : Text)
  | unsupportedInterpolationMethod (sensorId : Text)
  | invalidCalibrationData
  | expression (sensorId : Text) (message : String)
  | nonExistentSensor (sensorId name : Text)
deriving DecidableEq

/-- The message of a `PipelineError`. -/
def PipelineError.what : PipelineError → String
  | .noSlot sensorId => "Sensor " ++ sensorId.string ++ " has no slot in the readings frame."
  | .unsupportedInterpolationMethod sensorId =>
    "Sensor " ++ sensorId.string ++ " uses an unsupported interpolation method."
  | .invalidCalibrationData => "Calibration data is missing or invalid."
  | .expression sensorId message => "Sensor " ++ sensorId.string ++ ": " ++ message
  | .nonExistentSensor sensorId name =>
    "Sensor " ++ sensorId.string ++ " depends on non-existent sensor " ++ name.string ++ "."

/-- A runtime with the interpolator of its sensor. -/
structure BuiltRuntime (V : Type) extends SensorRuntime V where
  voltageInterpolator : Option VoltageInterpolator := none

/-- What makes the sensor's reading anew, by its configuration. -/
def SensorConfiguration.getReadingUpdateMethod (configuration : SensorConfiguration) :
    SensorReadingUpdateMethod :=
  if configuration.samplingRateMs.isSome then .scheduler
  else if configuration.getTraits.source = .expression then .dependent
  else if configuration.getTraits.isIsrDriven then .isr
  else .none

namespace SensorPipelineBuilder

variable {V : Type}

/-- The interpolator of a sensor, none for a sensor without a method. -/
def buildInterpolator (sensor : ConfiguredSensor) :
    Except PipelineError (Option VoltageInterpolator) :=
  let configuration := sensor.configuration
  let create (interpolator : List CalibrationData → VoltageInterpolator) :=
    if configuration.calibrationTable.length < 2 then .error .invalidCalibrationData
    else .ok (some (interpolator configuration.calibrationTable))
  if configuration.hasInterpolation = false then .ok none
  else if configuration.interpolationMethod = linear then create .linear
  else if configuration.interpolationMethod = cubicSpline then create .cubicSpline
  else .error (.unsupportedInterpolationMethod sensor.id)

section Unit

variable (unit : SensorsUnit V)

/-- The slots of the sensors an expression reads. -/
def bindVariables (frame : SensorReadingsFrame V) (sensorId : Text) (names : List Text) :
    Except PipelineError (List ℕ) :=
  names.mapM fun name =>
    match frame.findSlot (unit.getHash name) with
    | some slot => .ok slot
    | none => .error (.nonExistentSensor sensorId name)

/-- The evaluator, and the slots its variables are bound to. -/
def buildExpression (frame : SensorReadingsFrame V) (sensor : ConfiguredSensor) :
    Except PipelineError (Option (Expression V) × List ℕ) :=
  if sensor.configuration.hasExpression = false then .ok (none, [])
  else
    match unit.createEvaluator sensor.configuration.expression with
    | .error error => .error (.expression sensor.id error)
    | .ok evaluator => do
      let inputSlots ← bindVariables unit frame sensor.id evaluator.variableNames
      .ok (some evaluator.toExpression, inputSlots)

/-- The sensor with what its expression compiles to and the script that was loaded for it. -/
def compiled (loadScript : ConfiguredSensor → Option (PostProcess V)) (sensor : ConfiguredSensor) :
    Sensor V :=
  let expression :=
    if sensor.configuration.hasExpression = false then none
    else (unit.createEvaluator sensor.configuration.expression).toOption.map
      CompiledExpression.toExpression
  sensor.toSensor expression (loadScript sensor)

/-- The body of the loop of `Build`. A script that cannot be loaded is only logged; `loadScript`
is what loading gives. -/
def buildRuntime (loadScript : ConfiguredSensor → Option (PostProcess V))
    (frame : SensorReadingsFrame V) (sensor : ConfiguredSensor) :
    Except PipelineError (BuiltRuntime V) :=
  match frame.findSlot (unit.getHash sensor.id) with
  | none => .error (.noSlot sensor.id)
  | some slot =>
    if !sensor.isEnabled then .ok { sensor := compiled unit loadScript sensor, slot }
    else do
      let voltageInterpolator ← buildInterpolator sensor
      let (expressionEvaluator, inputSlots) ← buildExpression unit frame sensor
      .ok {
        sensor := compiled unit loadScript sensor
        slot
        updateMethod := sensor.configuration.getReadingUpdateMethod
        expressionEvaluator
        postProcess := loadScript sensor
        inputSlots
        voltageInterpolator }

/-- Every runtime gets those that are evaluated after it. -/
def linkDependents (runtimes : List (BuiltRuntime V)) : List (BuiltRuntime V) :=
  runtimes.mapIdx fun i runtime => { runtime with
    dependents := SensorGeneration.closure (runtimes.map BuiltRuntime.toSensorRuntime) i }

/-- `Build`: the runtimes of the sensors, each with those that follow it. -/
def build [SensorValue V] (loadScript : ConfiguredSensor → Option (PostProcess V))
    (sensors : List ConfiguredSensor) : Except PipelineError (List (BuiltRuntime V)) := do
  let frame := SensorReadingsFrame.configure (sensors.map fun sensor => unit.getHash sensor.id)
  let runtimes ← sensors.mapM (buildRuntime unit loadScript frame)
  .ok (linkDependents runtimes)

/-- What the sensors of a pipeline need to update: a way to be read, inputs that are bound to the
sensors of those names, enabled and earlier, and, for a sensor that waits for its inputs, one that
it waits for. -/
structure Updatable (sensors : List ConfiguredSensor) (runtimes : List (BuiltRuntime V)) :
    Prop where
  length : runtimes.length = sensors.length
  updates : ∀ (i : ℕ) (sensor : ConfiguredSensor) (runtime : BuiltRuntime V),
    sensors[i]? = some sensor → runtimes[i]? = some runtime → sensor.isEnabled = true →
    runtime.updateMethod ≠ .none
  bound : ∀ (i : ℕ) (sensor : ConfiguredSensor) (runtime : BuiltRuntime V),
    sensors[i]? = some sensor → runtimes[i]? = some runtime → sensor.isEnabled = true →
    sensor.configuration.hasExpression = true →
    ∃ evaluator, unit.createEvaluator sensor.configuration.expression = .ok evaluator ∧
      runtime.expressionEvaluator = some evaluator.toExpression ∧
      List.Forall₂ (fun name slot => slot < i ∧ ∃ input, sensors[slot]? = some input ∧
        input.id = name ∧ input.isEnabled = true) evaluator.variableNames runtime.inputSlots
  waits : ∀ (j : ℕ) (runtime : BuiltRuntime V), runtimes[j]? = some runtime →
    runtime.updateMethod = .dependent →
    ∃ (i : ℕ) (input : BuiltRuntime V), runtimes[i]? = some input ∧ j ∈ input.dependents

end Unit

variable {unit : SensorsUnit V} {stored sensors : List ConfiguredSensor} {i : ℕ}
  {sensor : ConfiguredSensor}

open SensorValidator SensorsCborParser

/-! ### Validated sensors -/

/-- Every sensor that passed the validator has a way to be read. -/
theorem getReadingUpdateMethod_ne_none (passes : Passes unit sensor stored) :
    sensor.configuration.getReadingUpdateMethod ≠ .none := by
  obtain ⟨type, known, real⟩ := exists_type_of_validateType passes.type
  have rates := passes.samplingRateMs
  simp only [validateSamplingRateMs, andThen_eq_ok, refuseIf_eq_ok] at rates
  obtain ⟨-, -, required⟩ := rates
  have traits : sensor.configuration.getTraits = .of type := by
    rw [SensorConfiguration.getTraits, known]
  rw [traits] at required
  unfold SensorConfiguration.getReadingUpdateMethod
  rw [traits]
  by_cases scheduled : sensor.configuration.samplingRateMs.isSome = true
  · rw [if_pos scheduled]
    rintro ⟨⟩
  · rw [if_neg scheduled]
    rw [Bool.not_eq_true] at scheduled
    -- Without a rate, a sensor has a source that drives it, or an expression.
    cases type with
    | none => exact absurd rfl real
    | physicalAnalog | userAnalog | userIndicator => exact absurd ⟨rfl, scheduled⟩ required
    | _ => decide

private theorem source_of_dependent {configuration : SensorConfiguration}
    (dependent : configuration.getReadingUpdateMethod = .dependent) :
    configuration.samplingRateMs.isSome = false ∧
      configuration.getTraits.source = .expression := by
  unfold SensorConfiguration.getReadingUpdateMethod at dependent
  split_ifs at dependent with scheduled source
  exact ⟨Bool.not_eq_true _ ▸ scheduled, source⟩

/-- The sensors that an expression names are earlier and enabled. -/
theorem exists_input (accepted : Accepted unit stored sensors)
    (there : sensors[i]? = some sensor) (enabled : sensor.isEnabled = true)
    (computes : sensor.configuration.hasExpression = true) :
    ∃ evaluator, unit.createEvaluator sensor.configuration.expression = .ok evaluator ∧
      (∀ name ∈ evaluator.variableNames, ∃ (j : ℕ) (input : ConfiguredSensor), j < i ∧
        sensors[j]? = some input ∧ input.id = name ∧ input.isEnabled = true) ∧
      (sensor.configuration.getReadingUpdateMethod = .dependent →
        evaluator.variableNames ≠ []) := by
  obtain ⟨given, member, _, rfl⟩ := accepted.origin sensor (List.mem_of_getElem? there)
  obtain ⟨evaluator, usable⟩ :=
    usableExpression_of_validateExpression (accepted.passes given member).expression computes
  refine ⟨evaluator, usable.compiles, ?_, ?_⟩
  · intro name reads
    obtain ⟨j, input, earlier, place, same⟩ :=
      accepted.behind i _ there computes evaluator usable.compiles name reads
    refine ⟨j, input, earlier, place, same, ?_⟩
    -- It is the sensor that the validator found under that name.
    obtain ⟨other, member', _, rfl⟩ := accepted.origin input (List.mem_of_getElem? place)
    obtain ⟨named, found, enables⟩ := usable.inputs name reads
    have id : named.id = name := by simpa using List.find?_some found
    obtain rfl : named = other :=
      List.inj_on_of_nodup_map accepted.storedDistinct (List.mem_of_find?_eq_some found) member'
        (congrArg unit.getHash (id.trans same.symm))
    exact enables enabled
  · intro dependent
    obtain ⟨unscheduled, source⟩ := source_of_dependent dependent
    exact usable.updates source unscheduled

/-- A sensor that waits for its inputs has an expression. -/
theorem hasExpression_of_dependent (passes : Passes unit sensor stored)
    (dependent : sensor.configuration.getReadingUpdateMethod = .dependent) :
    sensor.configuration.hasExpression = true := by
  obtain ⟨-, source⟩ := source_of_dependent dependent
  apply hasExpression_of_validateExpression passes.expression
  obtain ⟨type, known, -⟩ := exists_type_of_validateType passes.type
  rw [SensorConfiguration.getTraits, known] at source ⊢
  cases type with
  | virtualAnalog | virtualIndicator => rfl
  | _ => exact nomatch source

/-! ### Interpolators -/

private theorem method_le_two_iff {method : UInt8} (some : method ≠ 0) :
    method ≤ 2 ↔ method = linear ∨ method = cubicSpline := by
  have one : (1 : UInt8).toNat = 1 := rfl
  have two : (2 : UInt8).toNat = 2 := rfl
  have zero : (0 : UInt8).toNat = 0 := rfl
  rw [ne_eq, ← UInt8.toNat_inj, zero] at some
  rw [linear, cubicSpline, UInt8.le_iff_toNat_le, ← UInt8.toNat_inj, ← UInt8.toNat_inj, one, two]
  omega

private theorem buildInterpolator_of_hasInterpolation
    (interpolates : sensor.configuration.hasInterpolation = true)
    (enough : 2 ≤ sensor.configuration.calibrationTable.length) :
    (∃ interpolator, buildInterpolator sensor = .ok interpolator) ↔
      sensor.configuration.interpolationMethod = linear ∨
        sensor.configuration.interpolationMethod = cubicSpline := by
  simp only [buildInterpolator, interpolates, Bool.true_eq_false, if_false,
    if_neg (Nat.not_lt.mpr enough)]
  by_cases isLinear : sensor.configuration.interpolationMethod = linear
  · rw [if_pos isLinear]
    exact iff_of_true ⟨_, rfl⟩ (.inl isLinear)
  · rw [if_neg isLinear]
    by_cases isCubic : sensor.configuration.interpolationMethod = cubicSpline
    · rw [if_pos isCubic]
      exact iff_of_true ⟨_, rfl⟩ (.inr isCubic)
    · rw [if_neg isCubic]
      refine iff_of_false nofun ?_
      rintro (same | same)
      · exact isLinear same
      · exact isCubic same

/-- A validated sensor gets its interpolator exactly if the builder knows the method. -/
theorem buildInterpolator_eq_ok_iff {given : ConfiguredSensor} (passes : Passes unit given stored)
    (finished : Finished given sensor) :
    (∃ interpolator, buildInterpolator sensor = .ok interpolator) ↔
      sensor.configuration.interpolationMethod ≤ 2 := by
  obtain ⟨_, rfl⟩ := finished
  rcases usable_or_empty passes.interpolationMethod with ⟨never, -⟩ | ⟨interpolates, usable⟩
  · have zero : given.configuration.interpolationMethod = 0 := by
      simpa [SensorConfiguration.hasInterpolation] using never
    refine iff_of_true ⟨none, if_pos never⟩ ?_
    rw [zero]
    decide
  · have nonzero : given.configuration.interpolationMethod ≠ 0 := by
      simpa [SensorConfiguration.hasInterpolation] using interpolates
    rw [method_le_two_iff nonzero]
    apply buildInterpolator_of_hasInterpolation
    · exact interpolates
    · exact (usable.perm (sortByVoltage_perm _).symm).enough

/-! ### Runtimes -/

variable {loadScript : ConfiguredSensor → Option (PostProcess V)} {frame : SensorReadingsFrame V}

/-- What the loop of `Build` made for a sensor. -/
structure BuiltOf (unit : SensorsUnit V) (frame : SensorReadingsFrame V)
    (sensor : ConfiguredSensor) (runtime : BuiltRuntime V) : Prop where
  updateMethod : runtime.updateMethod =
    if sensor.isEnabled then sensor.configuration.getReadingUpdateMethod else .none
  interpolator : sensor.isEnabled = true →
    buildInterpolator sensor = .ok runtime.voltageInterpolator
  expression : sensor.isEnabled = true →
    buildExpression unit frame sensor = .ok (runtime.expressionEvaluator, runtime.inputSlots)

theorem builtOf_of_buildRuntime {runtime : BuiltRuntime V}
    (builds : buildRuntime unit loadScript frame sensor = .ok runtime) :
    BuiltOf unit frame sensor runtime := by
  unfold buildRuntime at builds
  split at builds
  · exact nomatch builds
  · by_cases enabled : sensor.isEnabled = true
    · rw [if_neg (by simp [enabled])] at builds
      obtain ⟨interpolator, interpolates, builds⟩ := bind_eq_ok.mp builds
      obtain ⟨⟨evaluator, inputSlots⟩, computes, builds⟩ := bind_eq_ok.mp builds
      cases builds
      exact ⟨(if_pos enabled).symm, fun _ => interpolates, fun _ => computes⟩
    · rw [if_pos (by simp [enabled])] at builds
      cases builds
      exact ⟨(if_neg enabled).symm, fun now => absurd now enabled, fun now => absurd now enabled⟩

/-- The names of an expression are bound to the slots of the sensors that have them. -/
theorem bindVariables_eq_ok (accepted : Accepted unit stored sensors)
    (hashes : frame.sensorIdHashes = sensors.map fun sensor => unit.getHash sensor.id)
    (sensorId : Text) {names : List Text}
    (inputs : ∀ name ∈ names, ∃ (j : ℕ) (input : ConfiguredSensor), j < i ∧
      sensors[j]? = some input ∧ input.id = name ∧ input.isEnabled = true) :
    ∃ slots, bindVariables unit frame sensorId names = .ok slots ∧
      List.Forall₂ (fun name slot => slot < i ∧ ∃ input, sensors[slot]? = some input ∧
        input.id = name ∧ input.isEnabled = true) names slots := by
  have found (name) (member : name ∈ names) : ∃ slot,
      frame.findSlot (unit.getHash name) = some slot ∧ slot < i ∧ ∃ input,
        sensors[slot]? = some input ∧ input.id = name ∧ input.isEnabled = true := by
    obtain ⟨j, input, earlier, there, rfl, enabled⟩ := inputs name member
    refine ⟨j, ?_, earlier, input, there, rfl, enabled⟩
    rw [SensorReadingsFrame.findSlot_eq_some (hashes ▸ accepted.distinct), hashes,
      List.getElem?_map, there]
    rfl
  have binds : ∃ slots, bindVariables unit frame sensorId names = .ok slots := by
    apply exists_mapM_eq_ok
    intro name member
    obtain ⟨slot, here, -⟩ := found name member
    exact ⟨slot, by rw [here]⟩
  obtain ⟨slots, binds⟩ := binds
  refine ⟨slots, binds, ?_⟩
  apply ((List.forall₂_and_left names slots).mpr ⟨found, mapM_eq_ok.mp binds⟩).imp
  rintro name slot ⟨⟨place, here, bound⟩, binds⟩
  rw [here] at binds
  cases binds
  exact bound

/-- The expression of an enabled sensor is built, its variables bound. -/
theorem buildExpression_eq_ok (accepted : Accepted unit stored sensors)
    (hashes : frame.sensorIdHashes = sensors.map fun sensor => unit.getHash sensor.id)
    (there : sensors[i]? = some sensor) (enabled : sensor.isEnabled = true)
    (computes : sensor.configuration.hasExpression = true) :
    ∃ evaluator slots, unit.createEvaluator sensor.configuration.expression = .ok evaluator ∧
      buildExpression unit frame sensor = .ok (some evaluator.toExpression, slots) ∧
      List.Forall₂ (fun name slot => slot < i ∧ ∃ input, sensors[slot]? = some input ∧
        input.id = name ∧ input.isEnabled = true) evaluator.variableNames slots ∧
      (sensor.configuration.getReadingUpdateMethod = .dependent →
        evaluator.variableNames ≠ []) := by
  obtain ⟨evaluator, compiles, inputs, depends⟩ := exists_input accepted there enabled computes
  obtain ⟨slots, binds, bound⟩ := bindVariables_eq_ok accepted hashes sensor.id inputs
  refine ⟨evaluator, slots, compiles, ?_, bound, depends⟩
  unfold buildExpression
  rw [if_neg (by simp [computes]), compiles]
  exact bind_eq_ok.mpr ⟨slots, binds, rfl⟩

theorem exists_buildRuntime (accepted : Accepted unit stored sensors)
    (hashes : frame.sensorIdHashes = sensors.map fun sensor => unit.getHash sensor.id)
    (there : sensors[i]? = some sensor)
    (interpolates : sensor.isEnabled = true →
      ∃ interpolator, buildInterpolator sensor = .ok interpolator) :
    ∃ runtime, buildRuntime unit loadScript frame sensor = .ok runtime := by
  have slot : frame.findSlot (unit.getHash sensor.id) = some i := by
    rw [SensorReadingsFrame.findSlot_eq_some (hashes ▸ accepted.distinct), hashes,
      List.getElem?_map, there]
    rfl
  unfold buildRuntime
  simp only [slot]
  by_cases enabled : sensor.isEnabled = true
  · obtain ⟨interpolator, built⟩ := interpolates enabled
    have computes : ∃ result, buildExpression unit frame sensor = .ok result := by
      by_cases computes : sensor.configuration.hasExpression = true
      · obtain ⟨_, _, -, built, -⟩ := buildExpression_eq_ok accepted hashes there enabled computes
        exact ⟨_, built⟩
      · exact ⟨(none, []), if_pos (by simpa using computes)⟩
    obtain ⟨⟨evaluator, inputSlots⟩, computes⟩ := computes
    rw [if_neg (by simp [enabled]), built]
    exact ⟨_, bind_eq_ok.mpr ⟨_, rfl, bind_eq_ok.mpr ⟨_, computes, rfl⟩⟩⟩
  · rw [if_pos (by simp [enabled])]
    exact ⟨_, rfl⟩

/-! ### Runtimes of compiled sensors -/

/-- The traits of a type are those the pipeline asks for. -/
private theorem toSensorTypeTraits_getTraits (configuration : SensorConfiguration) :
    configuration.getTraits.toSensorTypeTraits =
      .of ((SensorType.ofId configuration.type).getD .none) := by
  unfold SensorConfiguration.getTraits
  cases SensorType.ofId configuration.type with
  | none => rfl
  | some type => cases type <;> rfl

private theorem getReadingUpdateMethod_compiled (sensor : ConfiguredSensor) :
    (compiled unit loadScript sensor).getReadingUpdateMethod =
      sensor.configuration.getReadingUpdateMethod := by
  have traits : (compiled unit loadScript sensor).getTraits =
      sensor.configuration.getTraits.toSensorTypeTraits :=
    (toSensorTypeTraits_getTraits sensor.configuration).symm
  have scheduled : (compiled unit loadScript sensor).samplingRateMs.isSome =
      sensor.configuration.samplingRateMs.isSome := Option.isSome_map
  unfold Sensor.getReadingUpdateMethod SensorConfiguration.getReadingUpdateMethod
  rw [traits, scheduled]

/-- The hash of an ID that is given as characters. -/
def hashOf (unit : SensorsUnit V) (characters : String) : UInt32 :=
  unit.getHash (.ofString characters)

private theorem bindVariables_compiled {sensorId : Text} {names : List Text} {slots : List ℕ}
    (binds : bindVariables unit frame sensorId names = .ok slots) (id : String) :
    SensorGeneration.bindVariables (hashOf unit) frame id (names.map Text.string) = .ok slots := by
  apply mapM_eq_ok.mpr
  apply List.forall₂_map_left_iff.mpr
  apply (mapM_eq_ok.mp binds).imp
  intro name slot bound
  rw [hashOf, Text.ofString_string]
  cases found : frame.findSlot (unit.getHash name) with
  | none =>
    rw [found] at bound
    exact nomatch bound
  | some place =>
    rw [found] at bound
    cases bound
    rfl

/-- What is built of an expression is what its sensor has, compiled. -/
private theorem buildExpression_compiled {result : Option (Expression V) × List ℕ}
    (builds : buildExpression unit frame sensor = .ok result) :
    (compiled unit loadScript sensor).expression = result.1 ∧
      SensorGeneration.bindVariables (hashOf unit) frame (compiled unit loadScript sensor).id
        (compiled unit loadScript sensor).variableNames = .ok result.2 := by
  unfold buildExpression at builds
  by_cases plain : sensor.configuration.hasExpression = false
  · rw [if_pos plain] at builds
    cases builds
    have none : (compiled unit loadScript sensor).expression = none := if_pos plain
    rw [Sensor.variableNames, none]
    exact ⟨rfl, rfl⟩
  · rw [if_neg plain] at builds
    split at builds
    · exact nomatch builds
    · rename_i evaluator compiles
      obtain ⟨slots, binds, builds⟩ := bind_eq_ok.mp builds
      cases builds
      have expression : (compiled unit loadScript sensor).expression =
          some evaluator.toExpression := by
        simp only [compiled, ConfiguredSensor.toSensor, if_neg plain, compiles]
        rfl
      rw [Sensor.variableNames, expression]
      exact ⟨rfl, bindVariables_compiled binds _⟩

private theorem exists_variable_of_compiled {name : String}
    (reads : name ∈ (compiled unit loadScript sensor).variableNames) :
    ∃ evaluator, sensor.configuration.hasExpression = true ∧
      unit.createEvaluator sensor.configuration.expression = .ok evaluator ∧
      ∃ text ∈ evaluator.variableNames, text.string = name := by
  simp only [compiled, ConfiguredSensor.toSensor, Sensor.variableNames] at reads
  by_cases plain : sensor.configuration.hasExpression = false
  · rw [if_pos plain] at reads
    exact absurd reads List.not_mem_nil
  · rw [if_neg plain] at reads
    cases compiles : unit.createEvaluator sensor.configuration.expression with
    | error error =>
      rw [compiles] at reads
      exact absurd reads List.not_mem_nil
    | ok evaluator =>
      rw [compiles] at reads
      exact ⟨evaluator, Bool.not_eq_false _ ▸ plain, rfl, List.mem_map.mp reads⟩

/-- The runtime of a sensor is the one of the sensor with its expression compiled. -/
theorem buildRuntime_compiled {runtime : BuiltRuntime V}
    (builds : buildRuntime unit loadScript frame sensor = .ok runtime) :
    SensorGeneration.buildRuntime (hashOf unit) frame (compiled unit loadScript sensor) =
      .ok runtime.toSensorRuntime := by
  have hash : hashOf unit (compiled unit loadScript sensor).id = unit.getHash sensor.id :=
    congrArg unit.getHash (Text.ofString_string sensor.id)
  unfold buildRuntime at builds
  unfold SensorGeneration.buildRuntime
  rw [hash]
  cases found : frame.findSlot (unit.getHash sensor.id) with
  | none =>
    rw [found] at builds
    exact nomatch builds
  | some slot =>
    rw [found] at builds
    by_cases enabled : sensor.isEnabled = true
    · have enabled' : (compiled unit loadScript sensor).isEnabled = true := enabled
      dsimp only at builds ⊢
      rw [if_neg (by simp [enabled])] at builds
      rw [if_neg (by simp [enabled'])]
      obtain ⟨interpolator, -, builds⟩ := bind_eq_ok.mp builds
      obtain ⟨⟨evaluator, inputSlots⟩, computes, builds⟩ := bind_eq_ok.mp builds
      cases builds
      obtain ⟨expression, binds⟩ := buildExpression_compiled computes
      rw [binds, expression, getReadingUpdateMethod_compiled]
      rfl
    · have disabled : ¬(compiled unit loadScript sensor).isEnabled = true := enabled
      dsimp only at builds ⊢
      rw [if_pos (by simp [enabled])] at builds
      rw [if_pos (by simp [disabled])]
      cases builds
      rfl

/-! ### Pipelines -/

private theorem getElem?_linkDependents {unlinked : List (BuiltRuntime V)} {i : ℕ}
    {runtime : BuiltRuntime V} (there : (linkDependents unlinked)[i]? = some runtime) :
    ∃ base, unlinked[i]? = some base ∧ runtime = { base with
      dependents := SensorGeneration.closure (unlinked.map BuiltRuntime.toSensorRuntime) i } := by
  rw [linkDependents, List.getElem?_mapIdx] at there
  obtain ⟨base, place, rfl⟩ := Option.map_eq_some_iff.mp there
  exact ⟨base, place, rfl⟩

/-- A sensor that waits for its inputs is among the dependents of each. -/
private theorem mem_dependents_of_reads {unlinked : List (BuiltRuntime V)} {i j : ℕ}
    {runtime : BuiltRuntime V} (there : (linkDependents unlinked)[j]? = some runtime)
    (dependent : runtime.updateMethod = .dependent) (reads : i ∈ runtime.inputSlots)
    (inside : i < unlinked.length) :
    ∃ input, (linkDependents unlinked)[i]? = some input ∧ j ∈ input.dependents := by
  obtain ⟨base, place, rfl⟩ := getElem?_linkDependents there
  have input : (linkDependents unlinked)[i]? = some { unlinked[i] with
      dependents := SensorGeneration.closure (unlinked.map BuiltRuntime.toSensorRuntime) i } := by
    rw [linkDependents, List.getElem?_mapIdx, List.getElem?_eq_getElem inside]
    rfl
  refine ⟨_, input, ?_⟩
  apply SensorGeneration.mem_closure.mpr
  apply Relation.TransGen.single
  apply SensorGeneration.mem_direct.mpr
  refine ⟨base.toSensorRuntime, ?_, dependent, reads⟩
  rw [List.getElem?_map, place]
  rfl

section Build

variable [SensorValue V] {runtimes : List (BuiltRuntime V)} {runtime : BuiltRuntime V}

/-- What `Build` made for the sensor at a place. -/
theorem builtOf_of_build (builds : build unit loadScript sensors = .ok runtimes)
    (there : runtimes[i]? = some runtime) :
    ∃ sensor, sensors[i]? = some sensor ∧ BuiltOf unit
      (.configure (sensors.map fun sensor => unit.getHash sensor.id)) sensor runtime := by
  obtain ⟨unlinked, maps, builds⟩ := bind_eq_ok.mp builds
  cases builds
  obtain ⟨base, place, rfl⟩ := getElem?_linkDependents there
  obtain ⟨sensor, given, builds⟩ := convert_of_getElem? maps place
  have built := builtOf_of_buildRuntime builds
  exact ⟨sensor, given, built.updateMethod, built.interpolator, built.expression⟩

/-- The sensors of a pipeline that was built from validated sensors can update. -/
theorem updatable_of_build (accepted : Accepted unit stored sensors)
    (builds : build unit loadScript sensors = .ok runtimes) : Updatable unit sensors runtimes := by
  have length : runtimes.length = sensors.length := by
    obtain ⟨unlinked, maps, builds⟩ := bind_eq_ok.mp builds
    cases builds
    rw [linkDependents, List.length_mapIdx, (mapM_eq_ok.mp maps).length_eq]
  have bound : ∀ (i : ℕ) (sensor : ConfiguredSensor) (runtime : BuiltRuntime V),
      sensors[i]? = some sensor → runtimes[i]? = some runtime → sensor.isEnabled = true →
      sensor.configuration.hasExpression = true →
      ∃ evaluator, unit.createEvaluator sensor.configuration.expression = .ok evaluator ∧
        runtime.expressionEvaluator = some evaluator.toExpression ∧
        List.Forall₂ (fun name slot => slot < i ∧ ∃ input, sensors[slot]? = some input ∧
          input.id = name ∧ input.isEnabled = true) evaluator.variableNames runtime.inputSlots ∧
        (sensor.configuration.getReadingUpdateMethod = .dependent →
          evaluator.variableNames ≠ []) := by
    intro i sensor runtime place there enabled computes
    obtain ⟨sensor', place', built⟩ := builtOf_of_build builds there
    obtain rfl : sensor' = sensor := Option.some.inj (place'.symm.trans place)
    have hashes : (SensorReadingsFrame.configure (V := V)
        (sensors.map fun sensor => unit.getHash sensor.id)).sensorIdHashes =
          sensors.map fun sensor => unit.getHash sensor.id := rfl
    obtain ⟨evaluator, slots, compiles, expression, bound, depends⟩ :=
      buildExpression_eq_ok accepted hashes place enabled computes
    have same := Except.ok.inj ((built.expression enabled).symm.trans expression)
    rw [Prod.mk.injEq] at same
    exact ⟨evaluator, compiles, same.1, same.2 ▸ bound, depends⟩
  constructor
  case length => exact length
  case updates =>
    intro i sensor runtime place there enabled
    obtain ⟨sensor', place', built⟩ := builtOf_of_build builds there
    obtain rfl : sensor' = sensor := Option.some.inj (place'.symm.trans place)
    obtain ⟨given, member, _, rfl⟩ := accepted.origin sensor' (List.mem_of_getElem? place)
    rw [built.updateMethod, if_pos enabled]
    have reads := getReadingUpdateMethod_ne_none (accepted.passes given member)
    exact reads
  case bound =>
    intro i sensor runtime place there enabled computes
    obtain ⟨evaluator, compiles, expression, inputs, -⟩ :=
      bound i sensor runtime place there enabled computes
    exact ⟨evaluator, compiles, expression, inputs⟩
  case waits =>
    intro j runtime there dependent
    obtain ⟨sensor, place, built⟩ := builtOf_of_build builds there
    have method := built.updateMethod
    rw [dependent] at method
    split_ifs at method with enabled
    obtain ⟨given, member, _, rfl⟩ := accepted.origin sensor (List.mem_of_getElem? place)
    have computes := hasExpression_of_dependent (accepted.passes given member) method.symm
    obtain ⟨evaluator, -, -, inputs, depends⟩ := bound j _ runtime place there enabled computes
    -- The first variable is bound to a sensor in front.
    obtain ⟨name, names, shape⟩ := List.exists_cons_of_ne_nil (depends method.symm)
    rw [shape, List.forall₂_cons_left_iff] at inputs
    obtain ⟨slot, slots, ⟨earlier, -⟩, -, reads⟩ := inputs
    obtain ⟨unlinked, maps, builds⟩ := bind_eq_ok.mp builds
    cases builds
    have inside : slot < unlinked.length := by
      have last := (List.getElem?_eq_some_iff.mp there).1
      rw [linkDependents, List.length_mapIdx] at last
      omega
    obtain ⟨input, place', depends⟩ := mem_dependents_of_reads there dependent
      (reads ▸ List.mem_cons_self) inside
    exact ⟨slot, input, place', depends⟩

/-- The pipeline is the one of the sensors with their expressions compiled. -/
theorem build_compiled (builds : build unit loadScript sensors = .ok runtimes) :
    SensorGeneration.build (hashOf unit)
      (.configure (sensors.map fun sensor => unit.getHash sensor.id))
      (sensors.map (compiled unit loadScript)) =
        .ok (runtimes.map BuiltRuntime.toSensorRuntime) := by
  obtain ⟨unlinked, maps, builds⟩ := bind_eq_ok.mp builds
  cases builds
  apply bind_eq_ok.mpr
  refine ⟨unlinked.map BuiltRuntime.toSensorRuntime, ?_, ?_⟩
  · apply mapM_eq_ok.mpr
    apply List.forall₂_map_left_iff.mpr
    apply List.forall₂_map_right_iff.mpr
    exact (mapM_eq_ok.mp maps).imp fun _ _ builds => buildRuntime_compiled builds
  · apply congrArg Except.ok
    ext1 i
    rw [List.getElem?_map, linkDependents, SensorGeneration.linkDependents, List.getElem?_mapIdx,
      List.getElem?_mapIdx, List.getElem?_map]
    cases unlinked[i]? with
    | none => rfl
    | some runtime => rfl

/-- The runtimes built from validated sensors are a generation. -/
theorem generation_of_accepted (accepted : Accepted unit stored sensors)
    (builds : build unit loadScript sensors = .ok runtimes) :
    Generation (hashOf unit) (sensors.map (compiled unit loadScript))
      (runtimes.map BuiltRuntime.toSensorRuntime) := by
  have hashes : idHashes (hashOf unit) (sensors.map (compiled unit loadScript)) =
      sensors.map fun sensor => unit.getHash sensor.id := by
    rw [idHashes, List.map_map]
    apply List.map_congr_left
    intro sensor _
    exact congrArg unit.getHash (Text.ofString_string sensor.id)
  have inputsFirst : InputsFirst (sensors.map (compiled unit loadScript)) := by
    intro i resolved there name reads
    rw [List.getElem?_map] at there
    obtain ⟨sensor, place, rfl⟩ := Option.map_eq_some_iff.mp there
    obtain ⟨evaluator, computes, compiles, text, member, rfl⟩ := exists_variable_of_compiled reads
    obtain ⟨j, input, earlier, place', rfl⟩ :=
      accepted.behind i sensor place computes evaluator compiles text member
    refine ⟨j, compiled unit loadScript input, earlier, ?_, rfl⟩
    rw [List.getElem?_map, place']
    rfl
  exact generation_of_build hashes.symm inputsFirst (hashes ▸ accepted.distinct)
    (build_compiled builds)

/-- A validated configuration builds exactly if the builder knows the method of every enabled
sensor. -/
theorem exists_build_iff (accepted : Accepted unit stored sensors) :
    (∃ runtimes, build unit loadScript sensors = .ok runtimes) ↔
      ∀ given ∈ stored, given.isEnabled = true → given.configuration.interpolationMethod ≤ 2 := by
  constructor
  · rintro ⟨runtimes, builds⟩ given member enabled
    obtain ⟨sensor, there, finished⟩ := accepted.kept given member
    obtain ⟨i, inside, rfl⟩ := List.getElem_of_mem there
    have place : i < runtimes.length := (updatable_of_build accepted builds).length ▸ inside
    obtain ⟨sensor, given', built⟩ := builtOf_of_build builds (List.getElem?_eq_getElem place)
    obtain rfl := Option.some.inj ((List.getElem?_eq_getElem inside).symm.trans given')
    have known := buildInterpolator_eq_ok_iff (accepted.passes given member) finished
    obtain ⟨_, same⟩ := finished
    have method := known.mp ⟨_, built.interpolator (by rw [same]; exact enabled)⟩
    rwa [same] at method
  · intro known
    have runtimes : ∃ unlinked, sensors.mapM (buildRuntime unit loadScript
        (.configure (sensors.map fun sensor => unit.getHash sensor.id))) = .ok unlinked := by
      apply exists_mapM_eq_ok
      intro sensor member
      obtain ⟨i, inside, rfl⟩ := List.getElem_of_mem member
      apply exists_buildRuntime accepted rfl (List.getElem?_eq_getElem inside)
      intro enabled
      obtain ⟨given, there, finished⟩ := accepted.origin _ member
      apply (buildInterpolator_eq_ok_iff (accepted.passes given there) finished).mpr
      obtain ⟨_, same⟩ := finished
      rw [same] at enabled ⊢
      exact known given there enabled
    obtain ⟨unlinked, maps⟩ := runtimes
    exact ⟨linkDependents unlinked, bind_eq_ok.mpr ⟨unlinked, maps, rfl⟩⟩

/-- A validated configuration builds, into a pipeline whose sensors can update, exactly if every
enabled sensor that is stored with a table has a method of interpolation that the builder knows. -/
theorem build_deserialized (unit : SensorsUnit V)
    (loadScript : ConfiguredSensor → Option (PostProcess V)) {config : CborSensorsConfig}
    (deserializes : deserialize unit config = .ok sensors) :
    (∃ runtimes, build unit loadScript sensors = .ok runtimes ∧ Updatable unit sensors runtimes) ↔
      ∀ stored ∈ config.sensors, stored.isEnabled = true →
        stored.configuration.calibrationTable.isSome = true →
        stored.configuration.interpolationMethod.toUInt8 ≤ 2 := by
  have accepted := accepted_of_deserialize deserializes
  have builds : (∃ runtimes, build unit loadScript sensors = .ok runtimes ∧
      Updatable unit sensors runtimes) ↔ ∃ runtimes, build unit loadScript sensors = .ok runtimes :=
    exists_congr fun runtimes => and_iff_left_of_imp (updatable_of_build accepted)
  rw [builds, exists_build_iff accepted, List.forall_mem_map]
  refine forall₂_congr fun stored _ => imp_congr_right fun _ => ?_
  change (SensorConfiguration.ofCbor stored.configuration).interpolationMethod ≤ 2 ↔ _
  rw [SensorConfiguration.interpolationMethod_ofCbor]
  by_cases present : stored.configuration.calibrationTable.isSome = true
  · rw [if_pos present]
    exact ⟨fun known _ => known, fun known => known present⟩
  · rw [if_neg present]
    exact iff_of_true (by decide) fun now => absurd now present

end Build

end SensorPipelineBuilder

open SensorPipelineBuilder SensorsCborParser Configured in
/-- A sensor computed from a CAN signal and an ADC channel. -/
theorem build_deserialized_unit :
    let speed := { speed with configuration := { speed.configuration with
      connectionString := .ofString "0/256/wheel/front" } }
    let config : CborSensorsConfig :=
      { sensors := [load.toCbor, (pressure 1).toCbor, speed.toCbor] }
    ∃ sensors, deserialize unit config = .ok sensors ∧
      ∃ runtimes, build unit (fun _ => none) sensors = .ok runtimes ∧
        Updatable unit sensors runtimes := by
  intro speed config
  have accepted : (deserialize unit config).isOk = true := by decide +kernel
  cases deserializes : deserialize unit config with
  | error error =>
    rw [deserializes] at accepted
    exact nomatch accepted
  | ok sensors =>
    refine ⟨sensors, rfl, ?_⟩
    apply (build_deserialized unit (fun _ => none) deserializes).mpr
    decide +kernel

open SensorPipelineBuilder SensorsCborParser Configured in
/-- The validator accepts a method of interpolation that the builder refuses. -/
theorem not_build_deserialized :
    let config : CborSensorsConfig := { sensors := [(pressure 3).toCbor] }
    let sensors := [{ pressure 3 with configuration := { (pressure 3).configuration with
      calibrationTable := [⟨0x3f800000, 0⟩, ⟨0x40000000, 0x42c80000⟩] } }]
    deserialize unit config = .ok sensors ∧
      build unit (fun _ => none) sensors =
        .error (.unsupportedInterpolationMethod (.ofString "pressure")) := by
  constructor
  · decide +kernel
  · rfl

end RtCore.Sensors
