import RtCore.Foundation.Worklist
import RtCore.Sensors.ReadingsFrame

/-!
# From a reading to the frame

A generation is built from the sensors in processing order: the slots their expressions
read, and for each sensor the dependent sensors to evaluate after it.
`ReadingPipeline::Process` runs the stages on a reading, lets the indicator's
conditioner have a look, commits the reading and evaluates the dependents.

## Main definitions

* `IndicatorConditioner.offer` — debouncing and the Toggle switch of an indicator
* `SensorGeneration.build`, `SensorGeneration.linkDependents`
* `ReadingPipeline.process`

The interpolation of voltages and the raw CAN frames of a reading are left to the
readers and the log writer.
-/

namespace RtCore.Sensors

open RtCore.Foundation

variable {V : Type}

/-! ### Conditioning an indicator -/

/-- The state of a conditioner. The work item that settles a held change is outside. -/
structure IndicatorConditioner (V : Type) where
  debounceTicks : ℤ
  inputMode : IndicatorInputMode
  /-- A first value arrived in this generation. -/
  hasInput : Bool
  /-- The conditioned input. -/
  input : Bool
  /-- Toggle only. -/
  isSwitchOn : Bool
  /-- The raw input differs from `input` and its window runs. -/
  hasPending : Bool
  /-- Uptime ticks at which it settles. -/
  deadline : ℤ
  /-- The latest reading carrying the pending value. -/
  held : Option (SensorReading V)

namespace IndicatorConditioner

/-- A conditioner without an input, whose switch is on or off. -/
def create (debounceTicks : ℤ) (inputMode : IndicatorInputMode) (isSwitchOn : Bool) :
    IndicatorConditioner V where
  debounceTicks
  inputMode
  hasInput := false
  input := false
  isSwitchOn
  hasPending := false
  deadline := 0
  held := none

/-- The conditioner switches its value instead of following its input. -/
def isSwitch (conditioner : IndicatorConditioner V) : Bool := conditioner.inputMode = .toggle

/-- `Accept`: a change of the conditioned input. -/
def acceptInput (conditioner : IndicatorConditioner V) (input : Bool) : IndicatorConditioner V :=
  { conditioner with
    isSwitchOn :=
      if conditioner.isSwitch && input && !conditioner.input then !conditioner.isSwitchOn
      else conditioner.isSwitchOn
    input }

variable [SensorValue V]

/-- `Apply`: the value the indicator is committed with. -/
def applyTo (conditioner : IndicatorConditioner V) (reading : SensorReading V) :
    SensorReading V :=
  let isOn := if conditioner.isSwitch then conditioner.isSwitchOn else conditioner.input
  { reading with value := some (if isOn then SensorValue.one else SensorValue.zero) }

/-- Conditions a processed reading at uptime `now`: the reading to commit, or none when
the change is held. -/
def offer (conditioner : IndicatorConditioner V) (now : ℤ) (reading : SensorReading V) :
    IndicatorConditioner V × Option (SensorReading V) :=
  match reading.value with
  | none => (conditioner, some reading)
  | some value =>
    if reading.hasError then (conditioner, some reading)
    else
      -- Any number but 0 is on.
      let input := !SensorValue.isZero value
      if !conditioner.hasInput then
        let conditioner := { conditioner with hasInput := true, input }
        (conditioner, some (conditioner.applyTo reading))
      else if input = conditioner.input then
        let conditioner := { conditioner with hasPending := false }
        (conditioner, some (conditioner.applyTo reading))
      else
        let deadline :=
          if conditioner.hasPending then conditioner.deadline else now + conditioner.debounceTicks
        if deadline ≤ now then
          let conditioner := acceptInput { conditioner with hasPending := false, deadline } input
          (conditioner, some (conditioner.applyTo reading))
        else
          ({ conditioner with hasPending := true, deadline, held := some reading }, none)

end IndicatorConditioner

/-! ### A generation -/

/-- Everything executable that a sensor needs. -/
structure SensorRuntime (V : Type) where
  sensor : Sensor V
  slot : ℕ
  updateMethod : SensorReadingUpdateMethod := .none
  expressionEvaluator : Option (Expression V) := none
  postProcess : Option (PostProcess V) := none
  /-- Slots of the sensors the expression reads. -/
  inputSlots : List ℕ := []
  /-- The runtimes to evaluate after a reading of this one is committed. -/
  dependents : List ℕ := []

/-- What `Build` throws. -/
inductive BuildError
  | noSlot (sensorId : String)
  | nonExistentSensor (sensorId name : String)
deriving DecidableEq, Repr

namespace SensorGeneration

/-- The slots of the sensors an expression reads. -/
def bindVariables (getHash : String → UInt32) (frame : SensorReadingsFrame V)
    (sensorId : String) (names : List String) : Except BuildError (List ℕ) :=
  names.mapM fun name =>
    match frame.findSlot (getHash name) with
    | some slot => .ok slot
    | none => .error (.nonExistentSensor sensorId name)

/-- The body of the loop of `Build`. A disabled sensor keeps its slot, but nothing
executable is built for it. -/
def buildRuntime (getHash : String → UInt32) (frame : SensorReadingsFrame V) (sensor : Sensor V) :
    Except BuildError (SensorRuntime V) :=
  match frame.findSlot (getHash sensor.id) with
  | none => .error (.noSlot sensor.id)
  | some slot =>
    if !sensor.isEnabled then .ok { sensor, slot }
    else do
      let inputSlots ← bindVariables getHash frame sensor.id sensor.variableNames
      .ok {
        sensor
        slot
        updateMethod := sensor.getReadingUpdateMethod
        expressionEvaluator := sensor.expression
        postProcess := sensor.postProcess
        inputSlots }

/-- The runtimes that are to be evaluated after `index` is committed, once for each time
they read it. -/
def direct (runtimes : List (SensorRuntime V)) (index : ℕ) : List ℕ :=
  (runtimes.zipIdx).flatMap fun (runtime, i) =>
    if runtime.updateMethod ≠ .dependent then []
    else (runtime.inputSlots.filter (· = index)).map fun _ => i

/-- The transitive closure in processing order evaluates every dependent once, after its
inputs. -/
def closure (runtimes : List (SensorRuntime V)) (index : ℕ) : List ℕ :=
  let pending := (direct runtimes index).reverse
  let turns := workLeft (direct runtimes) (Finset.range runtimes.length) [] pending
  let reached := reachLoop (direct runtimes) turns [] pending
  (List.range runtimes.length).filter (· ∈ reached)

/-- Every runtime gets those that are evaluated after it. -/
def linkDependents (runtimes : List (SensorRuntime V)) : List (SensorRuntime V) :=
  runtimes.mapIdx fun i runtime => { runtime with dependents := closure runtimes i }

/-- `BuildConditioner`, with what is left of a Toggle switch from before a restart. -/
def buildConditioner (ticksOf : ℕ → ℤ) (wasOn : Sensor V → Bool) (sensor : Sensor V) :
    Option (IndicatorConditioner V) :=
  if !sensor.isEnabled || sensor.getTraits.valueKind ≠ .indicator || !sensor.hasConditioning then
    none
  else
    some (.create (ticksOf sensor.debounceMs) sensor.inputMode
      (sensor.inputMode = .toggle && wasOn sensor))

/-- `Build`: the runtimes of the sensors, each with those that follow it. -/
def build (getHash : String → UInt32) (frame : SensorReadingsFrame V)
    (sensors : List (Sensor V)) : Except BuildError (List (SensorRuntime V)) := do
  let runtimes ← sensors.mapM (buildRuntime getHash frame)
  .ok (linkDependents runtimes)

end SensorGeneration

/-! ### Processing -/

section Stages

variable [SensorValue V]

/-- A stage changes the reading it is given; a script may write the frame as well. -/
abbrev Stage (V : Type) := SensorReadingsFrame V → SensorRuntime V → SensorReading V →
  SensorReading V × SensorReadingsFrame V

/-- Indicators are stored as 0 or 1. -/
def indicatorValue (kind : SensorValueKind) (value : V) : V :=
  if kind = .indicator then
    if SensorValue.isZero value then SensorValue.zero else SensorValue.one
  else value

namespace ExpressionProcessor

/-- `Evaluate`: the result, or the reading with the failure recorded. -/
def evaluate (frame : SensorReadingsFrame V) (runtime : SensorRuntime V)
    (expression : Expression V) (x : Option V) : Except ReadingError V :=
  if !frame.areValuesAvailable runtime.inputSlots then .error .inputUnavailable
  else
    match expression.evaluate (runtime.inputSlots.map frame.valueAt) x with
    | none => .error .expressionFailed
    | some value =>
      if SensorValue.isNan value then .error .expressionNotANumber else .ok value

/-- The reading after its value was replaced by the expression's, or as it was. -/
def finish (kind : SensorValueKind) (reading : SensorReading V) : SensorReading V :=
  { reading with
    value := reading.value.map (indicatorValue kind)
    status := .expressionEvaluated }

/-- `Process`: the sensor's expression over the frame. -/
def process (frame : SensorReadingsFrame V) (runtime : SensorRuntime V)
    (reading : SensorReading V) : SensorReading V :=
  let traits := runtime.sensor.getTraits
  if !traits.allowsExpression then reading
  else if ReadingStatus.interpolated.rank < reading.status.rank then reading.setError .wrongState
  else
    match runtime.expressionEvaluator with
    | none =>
      if traits.source = .expression then reading.setError .expressionFailed
      else finish traits.valueKind reading
    | some expression =>
      if traits.source = .expression then
        match evaluate frame runtime expression none with
        | .error error => reading.setError error
        | .ok value => finish traits.valueKind { reading with value := some value }
      -- Sources other than a script always have a value to feed in.
      else if reading.value.isNone && traits.source ≠ .script then reading.setError .noValue
      else
        let x := reading.value.map (indicatorValue traits.valueKind)
        match evaluate frame runtime expression x with
        | .error error => reading.setError error
        | .ok value => finish traits.valueKind { reading with value := some value }

end ExpressionProcessor

namespace ScriptProcessor

/-- `Process`: the script's result, after what it wrote to other sensors. -/
def process (getHash : String → UInt32) : Stage V := fun frame runtime reading =>
  match runtime.postProcess with
  | none => (reading, frame)
  | some postProcess =>
    let (result, writes) := postProcess frame.values reading.value
    let frame := writes.foldl
      (fun frame (sensorId, value) => (frame.updateReadingValue (getHash sensorId) value).1) frame
    match result with
    | .failed => (reading.setError .scriptFailed, frame)
    | .value value => ({ reading with value := some value }, frame)
    | .nothing => (reading, frame)

end ScriptProcessor

/-- Where a call finds its times: those of the commit and of the conditioner of the
sensor at an index. -/
structure Clock where
  currentTime : ℕ → ℤ
  uptimeTicks : ℕ → ℤ

/-- The frame and the conditioners, by the index of the runtime. -/
structure ReadingPipeline (V : Type) where
  frame : SensorReadingsFrame V
  conditioners : List (Option (IndicatorConditioner V))

/-- A sensor evaluated in a call: the reading its stages made and whether its
conditioner held it. -/
structure Evaluation (V : Type) where
  index : ℕ
  reading : SensorReading V
  isHeld : Bool

namespace ReadingPipeline

/-- The pipeline of a generation before its first reading. -/
def configure (getHash : String → UInt32) (ticksOf : ℕ → ℤ) (wasOn : Sensor V → Bool)
    (sensors : List (Sensor V)) : ReadingPipeline V where
  frame := .configure (sensors.map fun sensor => getHash sensor.id)
  conditioners := sensors.map (SensorGeneration.buildConditioner ticksOf wasOn)

/-- The stages of `SensorsProcessingService`. -/
def processors (getHash : String → UInt32) : List (Stage V) :=
  [fun frame runtime reading => (ExpressionProcessor.process frame runtime reading, frame),
    ScriptProcessor.process getHash]

/-- Runs the stages, stopping at the first failure. -/
def run (frame : SensorReadingsFrame V) (runtime : SensorRuntime V) :
    List (Stage V) → SensorReading V → SensorReading V × SensorReadingsFrame V
  | [], reading =>
    ({ reading with
        status := if reading.status = .error then .error else .processed }, frame)
  | stage :: stages, reading =>
    if reading.hasError then (reading, frame)
    else
      let (reading, frame) := stage frame runtime reading
      run frame runtime stages reading

/-- Offers a reading to the conditioner of its sensor, if it has one. -/
def offer (pipeline : ReadingPipeline V) (clock : Clock) (index : ℕ)
    (reading : SensorReading V) : ReadingPipeline V × Option (SensorReading V) :=
  match pipeline.conditioners[index]?.join with
  | none => (pipeline, some reading)
  | some conditioner =>
    let (conditioner, committed) := conditioner.offer (clock.uptimeTicks index) reading
    ({ pipeline with conditioners := pipeline.conditioners.set index (some conditioner) },
      committed)

/-- The body of the loop of `EvaluateDependents`. -/
def evaluateDependent (getHash : String → UInt32) (clock : Clock) (timestamp : Option ℤ)
    (pipeline : ReadingPipeline V) (index : ℕ) (dependent : SensorRuntime V) :
    ReadingPipeline V × Evaluation V :=
  let derived : SensorReading V :=
    { sensorIdHash := getHash dependent.sensor.id
      source := .processing
      timestamp := some (timestamp.getD (clock.currentTime index)) }
  let (derived, frame) := run pipeline.frame dependent (processors getHash) derived
  match ({ pipeline with frame } : ReadingPipeline V).offer clock index derived with
  | (pipeline, none) => (pipeline, ⟨index, derived, true⟩)
  | (pipeline, some committed) =>
    ({ pipeline with frame := (pipeline.frame.addOrUpdateReading committed).1 },
      ⟨index, derived, false⟩)

/-- The dependents one after the other, at the time of the reading. -/
def evaluateDependents (getHash : String → UInt32) (clock : Clock)
    (runtimes : List (SensorRuntime V)) (timestamp : Option ℤ) :
    List ℕ → ReadingPipeline V → ReadingPipeline V × List (Evaluation V)
  | [], pipeline => (pipeline, [])
  | index :: rest, pipeline =>
    match runtimes[index]? with
    | none => evaluateDependents getHash clock runtimes timestamp rest pipeline
    | some dependent =>
      let (pipeline, evaluation) :=
        evaluateDependent getHash clock timestamp pipeline index dependent
      let (pipeline, evaluations) :=
        evaluateDependents getHash clock runtimes timestamp rest pipeline
      (pipeline, evaluation :: evaluations)

/-- The reading is stored, and its dependents are evaluated unless it has an error. -/
def commit (getHash : String → UInt32) (clock : Clock) (runtimes : List (SensorRuntime V))
    (runtime : SensorRuntime V) (pipeline : ReadingPipeline V) (reading : SensorReading V) :
    ReadingPipeline V × List (Evaluation V) :=
  let pipeline := { pipeline with frame := (pipeline.frame.addOrUpdateReading reading).1 }
  if reading.hasError then (pipeline, [])
  else
    evaluateDependents getHash clock runtimes reading.timestamp runtime.dependents pipeline

/-- `Process` of a reading of the sensor at `index`: the pipeline after it, what became
of the reading and the dependents evaluated. -/
def process (getHash : String → UInt32) (clock : Clock) (runtimes : List (SensorRuntime V))
    (index : ℕ) (runtime : SensorRuntime V) (pipeline : ReadingPipeline V)
    (reading : SensorReading V) : ReadingPipeline V × Evaluation V × List (Evaluation V) :=
  -- Written past the stages and the conditioner, by a script.
  if reading.status = .processed then
    let (pipeline, evaluations) := commit getHash clock runtimes runtime pipeline reading
    (pipeline, ⟨index, reading, false⟩, evaluations)
  else
    let (reading, frame) := run pipeline.frame runtime (processors getHash) reading
    match ({ pipeline with frame } : ReadingPipeline V).offer clock index reading with
    | (pipeline, none) => (pipeline, ⟨index, reading, true⟩, [])
    | (pipeline, some committed) =>
      let (pipeline, evaluations) := commit getHash clock runtimes runtime pipeline committed
      (pipeline, ⟨index, reading, false⟩, evaluations)

end ReadingPipeline

end Stages

end RtCore.Sensors
