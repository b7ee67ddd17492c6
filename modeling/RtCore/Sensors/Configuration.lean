import Mathlib.Data.Int.Notation
import Mathlib.Data.List.Nodup

/-!
# Sensors

A sensor is read by polling, by its source or, when it is computed from other sensors,
whenever one of these is committed. Its value is a `float`, of which the pipeline uses
little: whether it is 0 and whether it is a number.

## Main definitions

* `SensorValue` — the operations on values
* `Sensor` — the part of a sensor's configuration the pipeline is built from
* `Sensor.getReadingUpdateMethod`
-/

namespace RtCore.Sensors

/-- What the pipeline does with a `float`. -/
class SensorValue (V : Type) where
  zero : V
  one : V
  /-- `K_NO_VALUE`. -/
  nan : V
  /-- Compares equal to `0.0F`. -/
  isZero : V → Bool
  isNan : V → Bool
  isNan_nan : isNan nan = true
  isZero_zero : isZero zero = true
  isZero_one : isZero one = false

/-- Whole numbers among the floats, `none` for NaN. -/
instance : SensorValue (Option ℤ) where
  zero := some 0
  one := some 1
  nan := none
  isZero value := value = some 0
  isNan value := value.isNone
  isNan_nan := rfl
  isZero_zero := rfl
  isZero_one := rfl

/-- An expression as the engine compiled it. -/
structure Expression (V : Type) where
  /-- The sensor IDs the expression reads, in program order; `x` is excluded. -/
  variableNames : List String
  /-- The result on the values of these sensors and the sensor's own input, if any. -/
  evaluate : List V → Option V → Option V

/-- What a call of `post_process_sensor_value` came to. -/
inductive ScriptResult (V : Type)
  | failed
  | value (v : V)
  /-- The script returned no number. -/
  | nothing

/-- A script's function: from the values of the frame and that of the reading to its
result and the sensors it wrote with `update_sensor_value`. -/
abbrev PostProcess (V : Type) := List V → Option V → ScriptResult V × List (String × V)

/-- The type of a sensor. -/
inductive SensorType
  | none
  | physicalAnalog
  | virtualAnalog
  | physicalIndicator
  | virtualIndicator
  | canbusRaw
  | canbusAnalog
  | canbusIndicator
  | userAnalog
  | userIndicator
  | controlIndicator
  | controlAnalog
deriving DecidableEq, Repr

/-- Where a sensor's values come from. -/
inductive SensorSourceKind
  | none
  | adc
  | gpio
  | canSignal
  | canFrame
  | expression
  | script
  | control
deriving DecidableEq, Repr

/-- What a sensor's values are. -/
inductive SensorValueKind
  | none
  | analog
  /-- Stored as 0 or 1. -/
  | indicator
deriving DecidableEq, Repr

/-- What the pipeline asks of a sensor type. -/
structure SensorTypeTraits where
  source : SensorSourceKind := .none
  valueKind : SensorValueKind := .none
  allowsExpression : Bool := true
  /-- Updated by its source without a sampling rate. -/
  isIsrDriven : Bool := false
deriving DecidableEq, Repr

/-- What the pipeline asks of each type. -/
def SensorTypeTraits.of : SensorType → SensorTypeTraits
  | .none => {}
  | .physicalAnalog => { source := .adc, valueKind := .analog }
  | .physicalIndicator => { source := .gpio, valueKind := .indicator, isIsrDriven := true }
  | .virtualAnalog => { source := .expression, valueKind := .analog }
  | .virtualIndicator => { source := .expression, valueKind := .indicator }
  | .canbusRaw => { source := .canFrame, allowsExpression := false, isIsrDriven := true }
  | .canbusAnalog => { source := .canSignal, valueKind := .analog, isIsrDriven := true }
  | .canbusIndicator => { source := .canSignal, valueKind := .indicator, isIsrDriven := true }
  | .userAnalog => { source := .script, valueKind := .analog }
  | .userIndicator => { source := .script, valueKind := .indicator }
  | .controlIndicator => { source := .control, valueKind := .indicator, isIsrDriven := true }
  | .controlAnalog => { source := .control, valueKind := .analog, isIsrDriven := true }

/-- What makes a sensor's reading anew. -/
inductive SensorReadingUpdateMethod
  | none
  /-- Updated by its source. -/
  | isr
  /-- Polled at its sampling rate. -/
  | scheduler
  /-- Evaluated right after one of the sensors its expression reads commits. -/
  | dependent
deriving DecidableEq, Repr

/-- What the input of an indicator does: it is the state, or it switches it. -/
inductive IndicatorInputMode
  | level
  | toggle
deriving DecidableEq, Repr

/-- A sensor, with its expression compiled and its script loaded. -/
structure Sensor (V : Type) where
  id : String
  isEnabled : Bool
  type : SensorType
  samplingRateMs : Option ℤ
  expression : Option (Expression V)
  postProcess : Option (PostProcess V)
  debounceMs : ℕ
  inputMode : IndicatorInputMode

namespace Sensor

variable {V : Type}

/-- The traits of the sensor's type. -/
def getTraits (sensor : Sensor V) : SensorTypeTraits := .of sensor.type

/-- An indicator with a debounce or Toggle. -/
def hasConditioning (sensor : Sensor V) : Bool :=
  sensor.debounceMs ≠ 0 || sensor.inputMode ≠ .level

/-- `GetReadingUpdateMethod`: a sampling rate comes first, then the type. -/
def getReadingUpdateMethod (sensor : Sensor V) : SensorReadingUpdateMethod :=
  if sensor.samplingRateMs.isSome then .scheduler
  else if sensor.getTraits.source = .expression then .dependent
  else if sensor.getTraits.isIsrDriven then .isr
  else .none

/-- The sensors the expression reads; none without an expression. -/
def variableNames (sensor : Sensor V) : List String :=
  match sensor.expression with
  | some expression => expression.variableNames
  | none => []

/-- The sensor is evaluated when one of its inputs commits: it is not disabled. -/
def isDependent (sensor : Sensor V) : Bool :=
  sensor.isEnabled && sensor.getReadingUpdateMethod = .dependent

theorem isDependent_iff {sensor : Sensor V} : sensor.isDependent = true ↔
    sensor.isEnabled = true ∧ sensor.getReadingUpdateMethod = .dependent := by
  simp [isDependent]

/-- A dependent sensor is one computed from others, without a sampling rate. -/
theorem source_of_isDependent {sensor : Sensor V} (dependent : sensor.isDependent = true) :
    sensor.getTraits.source = .expression := by
  obtain ⟨-, method⟩ := isDependent_iff.mp dependent
  rw [getReadingUpdateMethod] at method
  split at method
  · cases method
  · split at method
    · assumption
    · split at method <;> cases method

/-- Sensors computed from others allow an expression. -/
theorem allowsExpression_of_source {sensor : Sensor V}
    (source : sensor.getTraits.source = .expression) :
    sensor.getTraits.allowsExpression = true := by
  revert source
  rw [getTraits]
  cases sensor.type <;> simp [SensorTypeTraits.of]

end Sensor

end RtCore.Sensors
