import RtCore.Sensors.Generation
import Mathlib.Algebra.Order.Ring.Int

/-!
# Derived sensors without glitches

After a reading of a sensor is committed, the sensors derived from it are evaluated in
one pass over its dependents. Each is evaluated behind those it reads, so it sees the
values they have at the end of the pass.

## Main definitions

* `ReadingPipeline.Fits` — the frame and the conditioners are those of a generation
* `expressionValue` — the value of a sensor's expression over a frame

## Main results

* `ReadingPipeline.Fits.process` — every reading leaves a pipeline that fits its generation
* `ReadingPipeline.process_evaluates_derived` — which sensors a reading evaluates and
  what the frame holds afterwards
-/

namespace RtCore.Sensors

variable {V : Type} [SensorValue V] {getHash : String → UInt32} {sensors : List (Sensor V)}
  {runtimes : List (SensorRuntime V)}

/-! ### A pipeline of a generation -/

/-- The frame and the conditioners of a pipeline are laid out for `sensors`. -/
structure ReadingPipeline.Fits (getHash : String → UInt32) (sensors : List (Sensor V))
    (pipeline : ReadingPipeline V) : Prop where
  hashes : pipeline.frame.sensorIdHashes = idHashes getHash sensors
  slots : pipeline.frame.slots.length = sensors.length
  values : pipeline.frame.values.length = sensors.length
  /-- Only indicators have a conditioner, in the mode they are configured with. -/
  conditioners : ∀ (i : ℕ) (conditioner : IndicatorConditioner V),
    pipeline.conditioners[i]?.join = some conditioner →
    ∃ sensor, sensors[i]? = some sensor ∧ sensor.getTraits.valueKind = .indicator ∧
      conditioner.inputMode = sensor.inputMode

/-- The value of a sensor's expression over the values of a frame. -/
def SensorReadingsFrame.valueOf (frame : SensorReadingsFrame V) (sensorIdHash : UInt32) : V :=
  match frame.findSlot sensorIdHash with
  | some slot => frame.valueAt slot
  | none => SensorValue.nan

/-- The value of a sensor's expression over a frame, an indicator's as 0 or 1. -/
def expressionValue (getHash : String → UInt32) (frame : SensorReadingsFrame V)
    (sensor : Sensor V) : Option V :=
  sensor.expression.bind fun expression =>
    (expression.evaluate
      (expression.variableNames.map fun name => frame.valueOf (getHash name)) none).map
        (indicatorValue sensor.getTraits.valueKind)

/-- The sensor's script writes no other sensor. -/
def Sensor.WritesNothing (sensor : Sensor V) : Prop :=
  ∀ postProcess, sensor.postProcess = some postProcess →
    ∀ values value, (postProcess values value).2 = []

/-- What the sensor is committed with is the value of its expression: no script replaces
it and no switch stands for it. -/
structure Sensor.ShowsExpression (sensor : Sensor V) : Prop where
  noScript : sensor.postProcess = none
  noSwitch : sensor.getTraits.valueKind = .indicator → sensor.inputMode = .level

theorem ReadingPipeline.fits_configure (ticksOf : ℕ → ℤ) (wasOn : Sensor V → Bool) :
    (configure getHash ticksOf wasOn sensors).Fits getHash sensors where
  hashes := rfl
  slots := by simp [configure, SensorReadingsFrame.configure]
  values := by simp [configure, SensorReadingsFrame.configure]
  conditioners := by
    intro i conditioner found
    rw [configure, List.getElem?_map] at found
    cases there : sensors[i]? with
    | none => simp [there] at found
    | some sensor =>
      rw [there, Option.map_some, Option.join_some, SensorGeneration.buildConditioner] at found
      split at found
      · cases found
      · rename_i indicator
        obtain rfl := Option.some.inj found
        refine ⟨sensor, rfl, ?_, rfl⟩
        simp only [Bool.or_eq_true, decide_eq_true_eq, not_or, not_not] at indicator
        exact indicator.1.2

/-! ### The stages -/

section Stages

variable {frame : SensorReadingsFrame V} {runtime : SensorRuntime V} {reading : SensorReading V}

omit [SensorValue V] in
/-- A script that writes nothing leaves the frame. -/
theorem scriptProcessor_frame
    (writes : ∀ postProcess, runtime.postProcess = some postProcess →
      ∀ values value, (postProcess values value).2 = []) :
    (ScriptProcessor.process getHash frame runtime reading).2 = frame := by
  rw [ScriptProcessor.process]
  cases script : runtime.postProcess with
  | none => rfl
  | some postProcess =>
    have nothing := writes postProcess script frame.values reading.value
    dsimp only
    rw [nothing]
    generalize (postProcess frame.values reading.value).1 = result
    cases result <;> rfl

theorem run_frame (getHash : String → UInt32) (frame : SensorReadingsFrame V)
    (reading : SensorReading V)
    (writes : ∀ postProcess, runtime.postProcess = some postProcess →
      ∀ values value, (postProcess values value).2 = []) :
    (ReadingPipeline.run frame runtime (ReadingPipeline.processors getHash) reading).2 = frame := by
  simp only [ReadingPipeline.processors, ReadingPipeline.run]
  split
  · rfl
  · split
    · rfl
    · exact scriptProcessor_frame writes

omit [SensorValue V] in
/-- Whatever a script writes, the frame keeps its layout. -/
theorem layout_scriptProcessor (getHash : String → UInt32) (frame : SensorReadingsFrame V)
    (runtime : SensorRuntime V) (reading : SensorReading V) :
    (ScriptProcessor.process getHash frame runtime reading).2.SameLayout frame := by
  have written : ∀ (writes : List (String × V)) (frame : SensorReadingsFrame V),
      (writes.foldl (fun frame write =>
        (frame.updateReadingValue (getHash write.1) write.2).1) frame).SameLayout frame := by
    intro writes
    induction writes with
    | nil => exact .refl
    | cons write writes ih =>
      intro frame
      exact (ih _).trans (frame.layout_updateReadingValue (getHash write.1) write.2)
  rw [ScriptProcessor.process]
  cases runtime.postProcess with
  | none => exact .refl frame
  | some postProcess =>
    dsimp only
    generalize (postProcess frame.values reading.value).1 = result
    cases result <;> exact written _ frame

theorem layout_run (getHash : String → UInt32) (frame : SensorReadingsFrame V)
    (runtime : SensorRuntime V) (reading : SensorReading V) :
    (ReadingPipeline.run frame runtime (ReadingPipeline.processors getHash)
      reading).2.SameLayout frame := by
  simp only [ReadingPipeline.processors, ReadingPipeline.run]
  split
  · exact .refl frame
  · split
    · exact .refl frame
    · exact layout_scriptProcessor getHash frame runtime _

omit [SensorValue V] in
/-- The script keeps the identity of a reading, and without a script its value. -/
theorem scriptProcessor_reading (getHash : String → UInt32) (frame : SensorReadingsFrame V)
    (runtime : SensorRuntime V) (reading : SensorReading V) :
    (ScriptProcessor.process getHash frame runtime reading).1.sensorIdHash = reading.sensorIdHash ∧
      (ScriptProcessor.process getHash frame runtime reading).1.source = reading.source ∧
      (runtime.postProcess = none →
        (ScriptProcessor.process getHash frame runtime reading).1 = reading) := by
  rw [ScriptProcessor.process]
  cases script : runtime.postProcess with
  | none => exact ⟨rfl, rfl, fun _ => rfl⟩
  | some postProcess =>
    dsimp only
    generalize (postProcess frame.values reading.value).1 = result
    cases result <;> exact ⟨rfl, rfl, nofun⟩

/-- The stages keep the identity of a reading. -/
theorem sensorIdHash_run (getHash : String → UInt32) (frame : SensorReadingsFrame V)
    (runtime : SensorRuntime V) (reading : SensorReading V) :
    (ReadingPipeline.run frame runtime (ReadingPipeline.processors getHash)
      reading).1.sensorIdHash = reading.sensorIdHash := by
  have expression : (ExpressionProcessor.process frame runtime reading).sensorIdHash =
      reading.sensorIdHash := by
    rw [ExpressionProcessor.process]
    dsimp only
    repeat' split
    all_goals rfl
  simp only [ReadingPipeline.processors, ReadingPipeline.run]
  split
  · rfl
  · split
    · exact expression
    · exact (scriptProcessor_reading getHash frame runtime _).1.trans expression

/-- Where a sensor computed from others ends up after the expression. -/
theorem expressionProcessor_derived (source : runtime.sensor.getTraits.source = .expression)
    (fresh : reading.status = .uninitialized) :
    (∃ error, ExpressionProcessor.process frame runtime reading = reading.setError error) ∨
    ∃ expression value, runtime.expressionEvaluator = some expression ∧
      ExpressionProcessor.evaluate frame runtime expression none = .ok value ∧
      ExpressionProcessor.process frame runtime reading =
        ExpressionProcessor.finish runtime.sensor.getTraits.valueKind
          { reading with value := some value } := by
  rw [ExpressionProcessor.process]
  dsimp only
  rw [Sensor.allowsExpression_of_source source, fresh, if_neg (by decide), if_neg (by decide)]
  cases runtime.expressionEvaluator with
  | none =>
    dsimp only
    rw [if_pos source]
    exact .inl ⟨_, rfl⟩
  | some expression =>
    dsimp only
    rw [if_pos source]
    cases result : ExpressionProcessor.evaluate frame runtime expression none with
    | error error => exact .inl ⟨error, rfl⟩
    | ok value => exact .inr ⟨expression, value, rfl, result, rfl⟩

/-- A sensor computed from others that went through the stages has the value of its
expression, unless a script replaced it. -/
theorem run_derived (source : runtime.sensor.getTraits.source = .expression)
    (fresh : reading.status = .uninitialized) {derived : SensorReading V}
    (runs : (ReadingPipeline.run frame runtime (ReadingPipeline.processors getHash) reading).1 =
      derived) (good : derived.hasError = false) :
    derived.sensorIdHash = reading.sensorIdHash ∧ derived.source = reading.source ∧
      derived.status = .processed ∧
      (runtime.postProcess = none → ∃ expression value,
        runtime.expressionEvaluator = some expression ∧
        ExpressionProcessor.evaluate frame runtime expression none = .ok value ∧
        derived.value = some (indicatorValue runtime.sensor.getTraits.valueKind value)) := by
  simp only [ReadingPipeline.processors, ReadingPipeline.run] at runs
  rw [if_neg (by simp [SensorReading.hasError, fresh])] at runs
  rcases expressionProcessor_derived source fresh with ⟨error, processed⟩ |
    ⟨expression, value, evaluator, evaluates, processed⟩
  · -- The failure stops the stages.
    rw [processed, if_pos (by simp [SensorReading.hasError, SensorReading.setError])] at runs
    rw [← runs] at good
    simp [SensorReading.hasError, SensorReading.setError] at good
  · rw [processed, if_neg (by simp [SensorReading.hasError, ExpressionProcessor.finish])] at runs
    have script := scriptProcessor_reading getHash frame runtime
      (ExpressionProcessor.finish runtime.sensor.getTraits.valueKind
        { reading with value := some value })
    generalize (ScriptProcessor.process getHash frame runtime _).1 = scripted at runs script
    obtain ⟨hash, origin, kept⟩ := script
    have notError : scripted.status ≠ .error := by
      intro failed
      rw [← runs] at good
      simp [SensorReading.hasError, failed] at good
    subst runs
    refine ⟨hash, origin, if_neg notError, fun noScript => ?_⟩
    refine ⟨expression, value, evaluator, evaluates, ?_⟩
    rw [kept noScript]
    rfl

end Stages

/-! ### The conditioner -/

section Conditioner

variable {conditioner after : IndicatorConditioner V} {now : ℤ}
  {reading committed : SensorReading V}

/-- A reading is committed as it is, when it says nothing about the input, or with the
value of a conditioner that has taken its input. -/
theorem offer_cases (offers : conditioner.offer now reading = (after, some committed)) :
    after.inputMode = conditioner.inputMode ∧
      (committed = reading ∧ (reading.value = none ∨ reading.hasError = true) ∨
        ∃ value, reading.value = some value ∧ after.input = !SensorValue.isZero value ∧
          committed = after.applyTo reading) := by
  rw [IndicatorConditioner.offer] at offers
  cases valued : reading.value with
  | none =>
    rw [valued] at offers
    obtain ⟨rfl, same⟩ := Prod.mk.inj offers
    exact ⟨rfl, .inl ⟨(Option.some.inj same).symm, .inl rfl⟩⟩
  | some value =>
    rw [valued] at offers
    dsimp only at offers
    split at offers
    case isTrue error =>
      obtain ⟨rfl, same⟩ := Prod.mk.inj offers
      exact ⟨rfl, .inl ⟨(Option.some.inj same).symm, .inr error⟩⟩
    split at offers
    · obtain ⟨rfl, same⟩ := Prod.mk.inj offers
      exact ⟨rfl, .inr ⟨value, rfl, rfl, (Option.some.inj same).symm⟩⟩
    split at offers
    case isTrue unchanged =>
      obtain ⟨rfl, same⟩ := Prod.mk.inj offers
      exact ⟨rfl, .inr ⟨value, rfl, unchanged.symm, (Option.some.inj same).symm⟩⟩
    generalize (if conditioner.hasPending = true then conditioner.deadline
      else now + conditioner.debounceTicks) = deadline at offers
    split at offers
    · obtain ⟨rfl, same⟩ := Prod.mk.inj offers
      exact ⟨rfl, .inr ⟨value, rfl, rfl, (Option.some.inj same).symm⟩⟩
    · cases offers

theorem offer_inputMode :
    (conditioner.offer now reading).1.inputMode = conditioner.inputMode := by
  rw [IndicatorConditioner.offer]
  split
  · rfl
  split
  · rfl
  dsimp only
  split
  · rfl
  split
  · rfl
  split <;> split <;> rfl

/-- Apart from the value, a reading is committed as it was offered. -/
theorem offer_committed (offers : conditioner.offer now reading = (after, some committed)) :
    ∃ value, committed = { reading with value } := by
  rcases (offer_cases offers).2 with ⟨rfl, -⟩ | ⟨-, -, -, rfl⟩
  · exact ⟨committed.value, rfl⟩
  · exact ⟨_, rfl⟩

/-- Without a switch, an indicator's value passes the conditioner. -/
theorem offer_of_level (level : conditioner.inputMode = .level) {value : V}
    (valued : reading.value = some (indicatorValue .indicator value))
    (offers : conditioner.offer now reading = (after, some committed)) : committed = reading := by
  obtain ⟨mode, ⟨rfl, -⟩ | ⟨other, valued', input, rfl⟩⟩ := offer_cases offers
  · rfl
  · have noSwitch : after.isSwitch = false := by
      rw [IndicatorConditioner.isSwitch, mode, level]
      rfl
    obtain rfl := Option.some.inj (valued'.symm.trans valued)
    have same : (if after.input then SensorValue.one else SensorValue.zero) =
        indicatorValue .indicator value := by
      rw [input, indicatorValue, if_pos rfl]
      cases SensorValue.isZero value with
      | true => simp [SensorValue.isZero_zero]
      | false => simp [SensorValue.isZero_one]
    rw [IndicatorConditioner.applyTo, noSwitch]
    simp only [Bool.false_eq_true, if_false, same, ← valued]

end Conditioner

/-! ### Keeping the layout -/

namespace ReadingPipeline

variable {pipeline after : ReadingPipeline V} {clock : Clock} {timestamp : Option ℤ} {index : ℕ}
  {runtime : SensorRuntime V} {reading : SensorReading V}

omit [SensorValue V] in
/-- A frame laid out alike can take the place of a pipeline's frame. -/
theorem Fits.withFrame (fits : pipeline.Fits getHash sensors) {frame : SensorReadingsFrame V}
    (layout : frame.SameLayout pipeline.frame) :
    ({ pipeline with frame } : ReadingPipeline V).Fits getHash sensors :=
  ⟨layout.hashes.trans fits.hashes, layout.slots.trans fits.slots,
    layout.values.trans fits.values, fits.conditioners⟩

/-- The conditioner that took a reading stays in its mode. -/
theorem Fits.offer (fits : pipeline.Fits getHash sensors) (clock : Clock) (index : ℕ)
    (reading : SensorReading V) : (pipeline.offer clock index reading).1.Fits getHash sensors := by
  rw [ReadingPipeline.offer]
  cases found : pipeline.conditioners[index]?.join with
  | none => exact fits
  | some conditioner =>
    refine ⟨fits.hashes, fits.slots, fits.values, fun i other there => ?_⟩
    dsimp only at there
    by_cases same : index = i
    · subst same
      rw [List.getElem?_set] at there
      split at there
      case isTrue =>
        split at there
        case isTrue =>
          obtain rfl := Option.some.inj there
          rw [offer_inputMode]
          exact fits.conditioners index conditioner found
        case isFalse => cases there
      case isFalse different => exact absurd rfl different
    · rw [List.getElem?_set_ne same] at there
      exact fits.conditioners i other there

/-- Offering a reading leaves the frame. -/
@[simp] theorem frame_offer : (pipeline.offer clock index reading).1.frame = pipeline.frame := by
  rw [ReadingPipeline.offer]
  split <;> rfl

/-- A reading that is not held is committed under its own identity. -/
theorem offer_identity {committed : SensorReading V}
    (offers : pipeline.offer clock index reading = (after, some committed)) :
    ∃ value, committed = { reading with value } := by
  rw [ReadingPipeline.offer] at offers
  cases found : pipeline.conditioners[index]?.join with
  | none =>
    rw [found] at offers
    obtain rfl := Option.some.inj (Prod.mk.inj offers).2
    exact ⟨reading.value, rfl⟩
  | some conditioner =>
    rw [found] at offers
    exact offer_committed (Prod.ext rfl (Prod.mk.inj offers).2)

/-- A value that stands for itself passes the conditioner. -/
theorem offer_of_showsExpression (fits : pipeline.Fits getHash sensors) {sensor : Sensor V}
    (there : sensors[index]? = some sensor) (shows : sensor.ShowsExpression) {value : V}
    (valued : reading.value = some (indicatorValue sensor.getTraits.valueKind value))
    {committed : SensorReading V}
    (offers : pipeline.offer clock index reading = (after, some committed)) :
    committed = reading := by
  rw [ReadingPipeline.offer] at offers
  cases found : pipeline.conditioners[index]?.join with
  | none =>
    rw [found] at offers
    exact (Option.some.inj (Prod.mk.inj offers).2).symm
  | some conditioner =>
    rw [found] at offers
    obtain ⟨other, there', indicator, mode⟩ := fits.conditioners index conditioner found
    obtain rfl := Option.some.inj (there'.symm.trans there)
    rw [indicator] at valued
    exact offer_of_level (mode.trans (shows.noSwitch indicator)) valued
      (Prod.ext rfl (Prod.mk.inj offers).2)

/-! ### One dependent -/

/-- The result of an evaluation that went well. -/
theorem evaluate_eq_ok {frame : SensorReadingsFrame V} {expression : Expression V} {x : Option V}
    {value : V} (evaluated : ExpressionProcessor.evaluate frame runtime expression x = .ok value) :
    expression.evaluate (runtime.inputSlots.map frame.valueAt) x = some value := by
  rw [ExpressionProcessor.evaluate] at evaluated
  split at evaluated
  · cases evaluated
  · split at evaluated
    · cases evaluated
    case h_2 result found =>
      split at evaluated
      · cases evaluated
      · rw [found, Except.ok.inj evaluated]

/-- The slots an expression reads hold the values of the sensors it names. -/
theorem expressionValue_eq (generation : Generation getHash sensors runtimes)
    (found : runtimes[index]? = some runtime) (enabled : runtime.sensor.isEnabled = true)
    {frame : SensorReadingsFrame V} (hashes : frame.sensorIdHashes = idHashes getHash sensors) :
    expressionValue getHash frame runtime.sensor =
      runtime.expressionEvaluator.bind fun expression =>
        (expression.evaluate (runtime.inputSlots.map frame.valueAt) none).map
          (indicatorValue runtime.sensor.getTraits.valueKind) := by
  have built := generation.runtimeOf index runtime found
  rw [expressionValue, built.expressionEvaluator, if_pos enabled]
  cases compiled : runtime.sensor.expression with
  | none => rfl
  | some expression =>
    have inputs := built.inputs
    rw [if_pos enabled, Sensor.variableNames, compiled] at inputs
    have same : expression.variableNames.map (fun name => frame.valueOf (getHash name)) =
        runtime.inputSlots.map frame.valueAt := by
      dsimp only at inputs
      generalize expression.variableNames = names at inputs ⊢
      generalize runtime.inputSlots = slots at inputs ⊢
      induction inputs with
      | nil => rfl
      | cons here _ ih =>
        rw [List.map_cons, List.map_cons, ih, SensorReadingsFrame.valueOf,
          (SensorReadingsFrame.findSlot_eq_some (hashes ▸ generation.distinct)).mpr (hashes ▸ here)]
    rw [Option.bind_some, Option.bind_some, same]

/-- An expression depends on the values of the sensors it reads only. -/
theorem expressionValue_congr (generation : Generation getHash sensors runtimes)
    (found : runtimes[index]? = some runtime) (enabled : runtime.sensor.isEnabled = true)
    {frame other : SensorReadingsFrame V}
    (hashes : frame.sensorIdHashes = idHashes getHash sensors)
    (hashes' : other.sensorIdHashes = idHashes getHash sensors)
    (same : ∀ i ∈ runtime.inputSlots, frame.SameAt other i) :
    expressionValue getHash frame runtime.sensor =
      expressionValue getHash other runtime.sensor := by
  have values : runtime.inputSlots.map frame.valueAt = runtime.inputSlots.map other.valueAt :=
    List.map_congr_left fun i reads => (same i reads).valueAt
  rw [expressionValue_eq generation found enabled hashes,
    expressionValue_eq generation found enabled hashes', values]

omit [SensorValue V] in
/-- A sensor's script that writes nothing is the script of its runtime. -/
private theorem writes_nothing (generation : Generation getHash sensors runtimes)
    (found : runtimes[index]? = some runtime) (silent : runtime.sensor.WritesNothing) :
    ∀ postProcess, runtime.postProcess = some postProcess →
      ∀ values value, (postProcess values value).2 = [] := by
  intro postProcess script
  rw [(generation.runtimeOf index runtime found).postProcess] at script
  split at script
  · exact silent postProcess script
  · cases script

/-- What evaluating a dependent can do. -/
theorem evaluateDependent_cases {evaluation : Evaluation V}
    (evaluates : evaluateDependent getHash clock timestamp pipeline index runtime =
      (after, evaluation)) :
    evaluation.index = index ∧ ∃ fresh : SensorReading V, ∃ frame : SensorReadingsFrame V,
      fresh.sensorIdHash = getHash runtime.sensor.id ∧ fresh.source = .processing ∧
      fresh.status = .uninitialized ∧
      ReadingPipeline.run pipeline.frame runtime (processors getHash) fresh =
        (evaluation.reading, frame) ∧
      ((evaluation.isHeld = true ∧
          ({ pipeline with frame } : ReadingPipeline V).offer clock index evaluation.reading =
            (after, none)) ∨
        (evaluation.isHeld = false ∧ ∃ middle committed,
          ({ pipeline with frame } : ReadingPipeline V).offer clock index evaluation.reading =
            (middle, some committed) ∧
          after = { middle with frame := (middle.frame.addOrUpdateReading committed).1 })) := by
  rw [evaluateDependent] at evaluates
  let fresh : SensorReading V :=
    { sensorIdHash := getHash runtime.sensor.id
      source := .processing
      timestamp := some (timestamp.getD (clock.currentTime index)) }
  dsimp only at evaluates
  split at evaluates
  case h_1 held offers =>
    obtain ⟨rfl, rfl⟩ := Prod.mk.inj evaluates
    exact ⟨rfl, fresh, _, rfl, rfl, rfl, rfl, .inl ⟨rfl, offers⟩⟩
  case h_2 middle committed offers =>
    obtain ⟨rfl, rfl⟩ := Prod.mk.inj evaluates
    exact ⟨rfl, fresh, _, rfl, rfl, rfl, rfl, .inr ⟨rfl, middle, committed, offers, rfl⟩⟩

/-- Evaluating a dependent keeps the layout, whatever its script writes. -/
theorem Fits.evaluateDependent (fits : pipeline.Fits getHash sensors) {evaluation : Evaluation V}
    (evaluates : ReadingPipeline.evaluateDependent getHash clock timestamp pipeline index runtime =
      (after, evaluation)) : after.Fits getHash sensors := by
  obtain ⟨-, fresh, frame, -, -, -, runs, outcome⟩ := evaluateDependent_cases evaluates
  have layout := layout_run getHash pipeline.frame runtime fresh
  rw [runs] at layout
  have offered := (fits.withFrame layout).offer clock index evaluation.reading
  obtain ⟨-, offers⟩ | ⟨-, middle, committed, offers, rfl⟩ := outcome
  · rw [offers] at offered
    exact offered
  · rw [offers] at offered
    exact offered.withFrame (SensorReadingsFrame.layout_addOrUpdateReading _ _)

omit [SensorValue V] in
/-- A sensor's slot is its index. -/
private theorem findSlot_runtime (generation : Generation getHash sensors runtimes)
    (found : runtimes[index]? = some runtime) {frame : SensorReadingsFrame V}
    (hashes : frame.sensorIdHashes = idHashes getHash sensors) :
    frame.findSlot (getHash runtime.sensor.id) = some index := by
  rw [SensorReadingsFrame.findSlot_eq_some (hashes ▸ generation.distinct), hashes,
    idHashes_getElem?, (generation.runtimeOf index runtime found).sensor]
  rfl

/-- A dependent is committed to its own slot: another sensor is touched by a script only. -/
theorem sameAt_evaluateDependent (generation : Generation getHash sensors runtimes)
    (fits : pipeline.Fits getHash sensors) (found : runtimes[index]? = some runtime)
    (silent : runtime.sensor.WritesNothing) {evaluation : Evaluation V}
    (evaluates : ReadingPipeline.evaluateDependent getHash clock timestamp pipeline index runtime =
      (after, evaluation)) {i : ℕ} (other : i ≠ index) : after.frame.SameAt pipeline.frame i := by
  obtain ⟨-, fresh, frame, hash, -, -, runs, outcome⟩ := evaluateDependent_cases evaluates
  obtain rfl : frame = pipeline.frame := by
    rw [← run_frame getHash pipeline.frame fresh (writes_nothing generation found silent), runs]
  have unchanged : (pipeline.offer clock index evaluation.reading).1.frame = pipeline.frame :=
    frame_offer
  obtain ⟨-, offers⟩ | ⟨-, middle, committed, offers, rfl⟩ := outcome
  · rw [offers] at unchanged
    rw [unchanged]
    exact ⟨rfl, rfl⟩
  · rw [offers] at unchanged
    obtain ⟨value, rfl⟩ := offer_identity offers
    have identity := sensorIdHash_run getHash pipeline.frame runtime fresh
    rw [runs, hash] at identity
    have slot : middle.frame.findSlot evaluation.reading.sensorIdHash ≠ some i := by
      rw [identity, unchanged, findSlot_runtime generation found fits.hashes]
      exact fun same => other (Option.some.inj same).symm
    rw [← unchanged]
    exact SensorReadingsFrame.sameAt_addOrUpdateReading slot

/-- An error-free evaluation that is not held leaves the value of the expression. -/
theorem holds_evaluateDependent (generation : Generation getHash sensors runtimes)
    (fits : pipeline.Fits getHash sensors) (found : runtimes[index]? = some runtime)
    (dependent : runtime.sensor.isDependent = true) (shows : runtime.sensor.ShowsExpression)
    {evaluation : Evaluation V}
    (evaluates : ReadingPipeline.evaluateDependent getHash clock timestamp pipeline index runtime =
      (after, evaluation))
    (unheld : evaluation.isHeld = false) (good : evaluation.reading.hasError = false) :
    ∃ value, expressionValue getHash pipeline.frame runtime.sensor = some value ∧
      after.frame.Holds index value := by
  have built := generation.runtimeOf index runtime found
  have enabled := (Sensor.isDependent_iff.mp dependent).1
  have noScript : runtime.postProcess = none := by
    rw [built.postProcess, if_pos enabled, shows.noScript]
  obtain ⟨-, fresh, frame, hash, source, status, runs, outcome⟩ :=
    evaluateDependent_cases evaluates
  obtain rfl : frame = pipeline.frame := by
    rw [← run_frame getHash pipeline.frame fresh (fun postProcess script => ?_), runs]
    rw [noScript] at script
    cases script
  obtain ⟨hash', source', processed, valued⟩ :=
    run_derived (Sensor.source_of_isDependent dependent) status (congrArg Prod.fst runs) good
  obtain ⟨expression, value, evaluator, evaluated, valued⟩ := valued noScript
  have inside : index < sensors.length := (List.getElem?_eq_some_iff.mp built.sensor).1
  obtain ⟨held, -⟩ | ⟨-, middle, committed, offers, rfl⟩ := outcome
  · rw [unheld] at held
    cases held
  have unchanged : (pipeline.offer clock index evaluation.reading).1.frame = pipeline.frame :=
    frame_offer
  -- The conditioner lets the reading through as it is, since the sensor shows its expression.
  have same : committed = evaluation.reading :=
    offer_of_showsExpression fits built.sensor shows valued offers
  rw [offers] at unchanged
  subst same
  refine ⟨indicatorValue runtime.sensor.getTraits.valueKind value, ?_, ?_⟩
  · rw [expressionValue_eq generation found enabled fits.hashes, evaluator, Option.bind_some,
      evaluate_eq_ok evaluated, Option.map_some]
  · rw [unchanged]
    apply SensorReadingsFrame.holds_addOrUpdateReading
    · rw [source', source]
      exact ReadingSource.noConfusion
    · rw [hash', hash]
      exact findSlot_runtime generation found fits.hashes
    · exact fits.slots ▸ inside
    · exact fits.values ▸ inside
    · exact processed
    · exact valued

/-! ### The pass over the dependents -/

/-- The pass evaluates the listed sensors one after another, each once. -/
theorem index_evaluateDependents (getHash : String → UInt32) (clock : Clock)
    (timestamp : Option ℤ) {dependents : List ℕ}
    (there : ∀ d ∈ dependents, ∃ runtime, runtimes[d]? = some runtime)
    (pipeline : ReadingPipeline V) :
    (evaluateDependents getHash clock runtimes timestamp dependents pipeline).2.map
      Evaluation.index = dependents := by
  induction dependents generalizing pipeline with
  | nil => rfl
  | cons d rest ih =>
    obtain ⟨runtime, found⟩ := there d List.mem_cons_self
    simp only [evaluateDependents, found, List.map_cons]
    rw [ih fun d' mem => there d' (List.mem_cons_of_mem _ mem)]
    congr 1
    exact (evaluateDependent_cases (Prod.ext rfl rfl)).1

/-- What the pass leaves in the frame. The dependents are listed in processing order, so
what a sensor reads is touched no more once the sensor is evaluated. -/
theorem evaluateDependents_spec (generation : Generation getHash sensors runtimes)
    {dependents : List ℕ} (sorted : dependents.Pairwise (· < ·))
    (there : ∀ d ∈ dependents, ∃ runtime, runtimes[d]? = some runtime ∧
      runtime.sensor.isDependent = true ∧ runtime.sensor.WritesNothing)
    (fits : pipeline.Fits getHash sensors) {evaluations : List (Evaluation V)}
    (evaluates : evaluateDependents getHash clock runtimes timestamp dependents pipeline =
      (after, evaluations)) :
    after.Fits getHash sensors ∧
      (∀ i ∉ dependents, after.frame.SameAt pipeline.frame i) ∧
      ((∀ evaluation ∈ evaluations,
          evaluation.isHeld = false ∧ evaluation.reading.hasError = false) →
        ∀ d ∈ dependents, ∀ runtime, runtimes[d]? = some runtime →
          runtime.sensor.ShowsExpression →
          ∃ value, expressionValue getHash after.frame runtime.sensor = some value ∧
            after.frame.Holds d value) := by
  -- On the dependents still to evaluate; `others` is what the first one and those behind it leave
  -- alone.
  induction dependents generalizing pipeline evaluations with
  | nil =>
    obtain ⟨rfl, rfl⟩ := Prod.mk.inj evaluates
    exact ⟨fits, fun i _ => ⟨rfl, rfl⟩, fun _ d mem => by cases mem⟩
  | cons d rest ih =>
    obtain ⟨runtime, found, dependent, silent⟩ := there d List.mem_cons_self
    obtain ⟨below, sorted⟩ := List.pairwise_cons.mp sorted
    simp only [evaluateDependents, found] at evaluates
    generalize first : evaluateDependent getHash clock timestamp pipeline d runtime = step
      at evaluates
    obtain ⟨middle, evaluation⟩ := step
    generalize remaining : evaluateDependents getHash clock runtimes timestamp rest middle = tail
      at evaluates
    obtain ⟨last, evaluations'⟩ := tail
    obtain ⟨rfl, rfl⟩ := Prod.mk.inj evaluates
    have fits' := fits.evaluateDependent first
    obtain ⟨fitsLast, untouched, shown⟩ :=
      ih sorted (fun d' mem => there d' (List.mem_cons_of_mem _ mem)) fits' remaining
    have others : ∀ i ∉ d :: rest, last.frame.SameAt pipeline.frame i := by
      intro i notMem
      rw [List.mem_cons, not_or] at notMem
      obtain ⟨ne, notMem⟩ := notMem
      exact (untouched i notMem).trans
        (sameAt_evaluateDependent generation fits found silent first ne)
    refine ⟨fitsLast, others, fun good d' mem runtime' found' shows => ?_⟩
    have goodRest := fun evaluation mem => good evaluation (List.mem_cons_of_mem _ mem)
    rcases List.mem_cons.mp mem with rfl | mem
    · obtain rfl := Option.some.inj (found.symm.trans found')
      obtain ⟨unheld, noError⟩ := good evaluation List.mem_cons_self
      obtain ⟨value, evaluated, holds⟩ :=
        holds_evaluateDependent generation fits found dependent shows first unheld noError
      -- The inputs stand before the sensor, so nothing behind it changes what its expression saw.
      have inputs : ∀ i ∈ runtime.inputSlots, last.frame.SameAt pipeline.frame i := by
        intro i reads
        have earlier : i < d' := generation.lt_of_reads found reads
        refine others i fun mem => ?_
        rcases List.mem_cons.mp mem with rfl | mem
        · exact Nat.lt_irrefl i earlier
        · exact Nat.lt_asymm earlier (below i mem)
      have last' : d' ∉ rest := fun mem => Nat.lt_irrefl d' (below d' mem)
      refine ⟨value, ?_, holds.of_sameAt (untouched d' last')⟩
      rw [← evaluated]
      exact expressionValue_congr generation found (Sensor.isDependent_iff.mp dependent).1
        fitsLast.hashes fits.hashes inputs
    · exact shown goodRest d' mem runtime' found' shows

/-! ### A reading -/

private theorem commit_of_good (good : reading.hasError = false) :
    commit getHash clock runtimes runtime pipeline reading =
      evaluateDependents getHash clock runtimes reading.timestamp runtime.dependents
        { pipeline with frame := (pipeline.frame.addOrUpdateReading reading).1 } := by
  rw [commit, good]
  rfl

/-- A reading that its own stages did not fail and its conditioner does not hold is
committed, and the pass over the dependents follows. -/
theorem process_cases {own : Evaluation V} {evaluations : List (Evaluation V)}
    (processes : process getHash clock runtimes index runtime pipeline reading =
      (after, own, evaluations))
    (good : own.reading.hasError = false) (unheld : own.isHeld = false) :
    ∃ (middle : ReadingPipeline V) (committed : SensorReading V),
      (pipeline.Fits getHash sensors → middle.Fits getHash sensors) ∧
      committed.sensorIdHash = reading.sensorIdHash ∧
      ((∀ postProcess, runtime.postProcess = some postProcess →
        ∀ values value, (postProcess values value).2 = []) → middle.frame = pipeline.frame) ∧
      evaluateDependents getHash clock runtimes committed.timestamp runtime.dependents
        { middle with frame := (middle.frame.addOrUpdateReading committed).1 } =
          (after, evaluations) := by
  rw [process] at processes
  split at processes
  -- What a script wrote is committed as it is; any other reading goes through the stages and the
  -- conditioner.
  case isTrue =>
    obtain ⟨first, processes⟩ := Prod.mk.inj processes
    obtain ⟨rfl, second⟩ := Prod.mk.inj processes
    refine ⟨pipeline, reading, id, rfl, fun _ => rfl, ?_⟩
    rw [← commit_of_good good]
    exact Prod.ext first second
  case isFalse =>
    dsimp only at processes
    split at processes
    case h_1 held offers =>
      obtain ⟨-, processes⟩ := Prod.mk.inj processes
      obtain ⟨rfl, -⟩ := Prod.mk.inj processes
      cases unheld
    case h_2 middle committed offers =>
      obtain ⟨first, processes⟩ := Prod.mk.inj processes
      obtain ⟨rfl, second⟩ := Prod.mk.inj processes
      obtain ⟨value, same⟩ := offer_identity offers
      have good' : committed.hasError = false := by
        rw [same]
        exact good
      have unchanged := congrArg (fun outcome => outcome.1.frame) offers
      simp only [frame_offer] at unchanged
      refine ⟨middle, committed, fun fits => ?_, ?_, fun writes => ?_, ?_⟩
      · have offered := (fits.withFrame (layout_run getHash pipeline.frame runtime reading)).offer
          clock index (ReadingPipeline.run pipeline.frame runtime (processors getHash) reading).1
        rw [offers] at offered
        exact offered
      · rw [same]
        exact sensorIdHash_run getHash pipeline.frame runtime reading
      · rw [← unchanged]
        exact run_frame getHash pipeline.frame reading writes
      · rw [← commit_of_good good']
        exact Prod.ext first second

/-- In a generation, an error-free reading that is not held evaluates the sensors derived
from its sensor, each once and behind those it reads. Afterwards they hold the values of
their expressions over the frame, and the sensors that were not evaluated are untouched. -/
theorem process_generation (generation : Generation getHash sensors runtimes)
    (fits : pipeline.Fits getHash sensors) (found : runtimes[index]? = some runtime)
    (identity : reading.sensorIdHash = getHash runtime.sensor.id)
    {own : Evaluation V} {evaluations : List (Evaluation V)}
    (processes : process getHash clock runtimes index runtime pipeline reading =
      (after, own, evaluations))
    (good : own.reading.hasError = false) (unheld : own.isHeld = false) :
    evaluations.map Evaluation.index = runtime.dependents ∧
      ((∀ evaluation ∈ evaluations,
          evaluation.isHeld = false ∧ evaluation.reading.hasError = false) →
        (∀ i, i = index ∨ i ∈ runtime.dependents → ∀ sensor, sensors[i]? = some sensor →
          sensor.WritesNothing) →
        (∀ d ∈ runtime.dependents, ∀ sensor, sensors[d]? = some sensor →
          sensor.ShowsExpression →
          ∃ value, expressionValue getHash after.frame sensor = some value ∧
            after.frame.Holds d value) ∧
        ∀ i, i ≠ index → i ∉ runtime.dependents → after.frame.SameAt pipeline.frame i) := by
  have built := generation.runtimeOf index runtime found
  have reached := generation.mem_dependents index runtime found
  -- What is reached through dependents is a dependent itself.
  have dependents : ∀ d ∈ runtime.dependents, ∃ runtime', runtimes[d]? = some runtime' ∧
      runtime'.sensor.isDependent = true := by
    intro d mem
    obtain ⟨k, -, -, sensor, -, there, dependent, -⟩ :=
      Relation.TransGen.tail'_iff.mp ((reached d).mp mem)
    have inside : d < runtimes.length :=
      generation.length ▸ (List.getElem?_eq_some_iff.mp there).1
    have found' : runtimes[d]? = some runtimes[d] := List.getElem?_eq_getElem inside
    have same := (generation.runtimeOf d _ found').sensor
    exact ⟨_, found', Option.some.inj (same.symm.trans there) ▸ dependent⟩
  obtain ⟨middle, committed, fitting, hash, unwritten, evaluates⟩ :=
    process_cases processes good unheld
  constructor
  · have indices := index_evaluateDependents getHash clock committed.timestamp
      (fun d mem => (dependents d mem).imp fun _ => And.left)
      { middle with frame := (middle.frame.addOrUpdateReading committed).1 }
    rw [evaluates] at indices
    exact indices
  · intro allGood silent
    have silent' : ∀ i, i = index ∨ i ∈ runtime.dependents → ∀ runtime' : SensorRuntime V,
        runtimes[i]? = some runtime' → runtime'.sensor.WritesNothing :=
      fun i evaluated runtime' found' =>
        silent i evaluated _ (generation.runtimeOf i runtime' found').sensor
    have start := unwritten (writes_nothing generation found (silent' index (.inl rfl) _ found))
    have fits' : ({ middle with frame := (middle.frame.addOrUpdateReading committed).1 } :
        ReadingPipeline V).Fits getHash sensors :=
      (fitting fits).withFrame (SensorReadingsFrame.layout_addOrUpdateReading _ _)
    obtain ⟨-, untouched, shown⟩ := evaluateDependents_spec generation
      (generation.sorted index runtime found)
      (fun d mem => (dependents d mem).imp fun runtime' ⟨found', dependent⟩ =>
        ⟨found', dependent, silent' d (.inr mem) runtime' found'⟩) fits' evaluates
    constructor
    · intro d mem sensor there shows
      obtain ⟨runtime', found', -⟩ := dependents d mem
      have same := (generation.runtimeOf d runtime' found').sensor
      obtain rfl := Option.some.inj (there.symm.trans same)
      exact shown allGood d mem runtime' found' shows
    · intro i other notMem
      have own : pipeline.frame.findSlot committed.sensorIdHash ≠ some i := by
        rw [hash, identity, findSlot_runtime generation found fits.hashes]
        exact fun same => other (Option.some.inj same).symm
      -- The reading is committed to the slot of its own sensor.
      have committing : (middle.frame.addOrUpdateReading committed).1.SameAt pipeline.frame i := by
        rw [start]
        exact SensorReadingsFrame.sameAt_addOrUpdateReading own
      exact (untouched i notMem).trans committing

/-- The pass keeps the layout, whatever the scripts write. -/
theorem Fits.evaluateDependents (fits : pipeline.Fits getHash sensors) (clock : Clock)
    (timestamp : Option ℤ) (dependents : List ℕ) :
    (ReadingPipeline.evaluateDependents getHash clock runtimes timestamp dependents
      pipeline).1.Fits getHash sensors := by
  induction dependents generalizing pipeline with
  | nil => exact fits
  | cons d rest ih =>
    rw [ReadingPipeline.evaluateDependents]
    split
    · exact ih fits
    · exact ih (fits.evaluateDependent (Prod.ext rfl rfl))

theorem Fits.commit (fits : pipeline.Fits getHash sensors) (clock : Clock)
    (runtime : SensorRuntime V) (reading : SensorReading V) :
    (ReadingPipeline.commit getHash clock runtimes runtime pipeline reading).1.Fits
      getHash sensors := by
  have committed := fits.withFrame
    (SensorReadingsFrame.layout_addOrUpdateReading pipeline.frame reading)
  rw [ReadingPipeline.commit]
  split
  · exact committed
  · exact committed.evaluateDependents clock reading.timestamp runtime.dependents

/-- Every reading leaves a pipeline that fits the generation. -/
theorem Fits.process (fits : pipeline.Fits getHash sensors) (clock : Clock) (index : ℕ)
    (runtime : SensorRuntime V) (reading : SensorReading V) :
    (ReadingPipeline.process getHash clock runtimes index runtime pipeline reading).1.Fits
      getHash sensors := by
  rw [ReadingPipeline.process]
  split
  · exact fits.commit clock runtime reading
  · have offered := (fits.withFrame (layout_run getHash pipeline.frame runtime reading)).offer
      clock index (ReadingPipeline.run pipeline.frame runtime (processors getHash) reading).1
    dsimp only
    split
    case h_1 offers =>
      rw [offers] at offered
      exact offered
    case h_2 offers =>
      rw [offers] at offered
      exact offered.commit clock runtime _

/-- Take an acyclic configuration in the order `GetProcessingOrder` returns and a reading
of one of its sensors that comes through its stages without an error and is not held.
`Process` evaluates the dependent sensors reached from that sensor through dependent
sensors, each once and behind those it reads. When none of them fails or is held, and no
script of the sensor or of one of them writes a sensor, each that shows its expression
holds the expression's value over the frame afterwards, and all others are untouched. -/
theorem process_evaluates_derived {resolver : SensorsOrderResolver V}
    {configured ordered : List (Sensor V)} (added : resolver.Added configured)
    (distinct : (idHashes getHash configured).Nodup) (acyclic : resolver.Acyclic)
    (orders : resolver.getProcessingOrder = .ok ordered)
    (builds : SensorGeneration.build getHash (.configure (idHashes getHash ordered)) ordered =
      .ok runtimes)
    (fits : pipeline.Fits getHash ordered) (found : runtimes[index]? = some runtime)
    (identity : reading.sensorIdHash = getHash runtime.sensor.id)
    {own : Evaluation V} {evaluations : List (Evaluation V)}
    (processes : process getHash clock runtimes index runtime pipeline reading =
      (after, own, evaluations))
    (good : own.reading.hasError = false) (unheld : own.isHeld = false) :
    (∀ d, d ∈ evaluations.map Evaluation.index ↔ Relation.TransGen (Derives ordered) index d) ∧
      (evaluations.map Evaluation.index).Nodup ∧
      (evaluations.map Evaluation.index).Pairwise (fun d e => ¬Derives ordered e d) ∧
      ((∀ evaluation ∈ evaluations,
          evaluation.isHeld = false ∧ evaluation.reading.hasError = false) →
        (∀ i, i = index ∨ i ∈ evaluations.map Evaluation.index → ∀ sensor,
          ordered[i]? = some sensor → sensor.WritesNothing) →
        (∀ d ∈ evaluations.map Evaluation.index, ∀ sensor, ordered[d]? = some sensor →
          sensor.ShowsExpression →
          ∃ value, expressionValue getHash after.frame sensor = some value ∧
            after.frame.Holds d value) ∧
        ∀ i, i ≠ index → i ∉ evaluations.map Evaluation.index →
          after.frame.SameAt pipeline.frame i) := by
  have distinctIds : (configured.map Sensor.id).Nodup := by
    refine List.Nodup.of_map getHash ?_
    rw [List.map_map]
    exact distinct
  obtain ⟨perm, inputsFirst⟩ :=
    SensorsOrderResolver.getProcessingOrder_spec added distinctIds acyclic orders
  have distinct' : (idHashes getHash ordered).Nodup := (perm.map _).nodup_iff.mpr distinct
  -- The order that was resolved puts inputs first, which is all that the build asks for.
  have generation := generation_of_build rfl inputsFirst distinct' builds
  obtain ⟨indices, frame⟩ :=
    process_generation generation fits found identity processes good unheld
  have sorted := generation.sorted index runtime found
  rw [indices]
  refine ⟨generation.mem_dependents index runtime found, sorted.imp Nat.ne_of_lt, ?_, frame⟩
  exact sorted.imp fun earlier derives =>
    Nat.lt_asymm earlier (generation.lt_of_derives derives)

end ReadingPipeline

/-! ### Configurations of a few sensors -/

namespace Configurations

/-- `StringHelpers::GetHash` of the IDs used here. -/
def hashOf : String → UInt32
  | "speed" => 0x6187ff8e
  | "left" => 0x48e69bc8
  | "right" => 0xbeb33e92
  | "sum" => 0x2fb753a8
  | "door" => 0x5f5f7673
  | "alarm" => 0xedb99817
  | "trip" => 0x7362810e
  | "moving" => 0x1a46d585
  | "scaled" => 0x83e4f5a0
  | _ => 0

/-- An enabled sensor without a sampling rate, an expression or a script. -/
def sensor (id : String) (type : SensorType) : Sensor (Option ℤ) where
  id
  isEnabled := true
  type
  samplingRateMs := none
  expression := none
  postProcess := none
  debounceMs := 0
  inputMode := .level

/-- An expression over whole numbers. -/
def expression (variableNames : List String) (f : List ℤ → ℤ) : Expression (Option ℤ) where
  variableNames
  evaluate values _ := (values.mapM id).map fun values => some (f values)

/-- The sensors as the resolver gets them, one after the other. -/
def resolver (sensors : List (Sensor (Option ℤ))) : SensorsOrderResolver (Option ℤ) :=
  sensors.foldl SensorsOrderResolver.addSensor ⟨[]⟩

/-- What is built for the sensors; nothing for sensors that are refused. -/
def runtimesOf (sensors : List (Sensor (Option ℤ))) : List (SensorRuntime (Option ℤ)) :=
  match SensorGeneration.build hashOf (.configure (idHashes hashOf sensors)) sensors with
  | .ok runtimes => runtimes
  | .error _ => []

/-- Ticks are milliseconds, and readings of one call are made at one time. -/
def clock (now : ℤ) : Clock := ⟨fun _ => now, fun _ => now⟩

/-- A pipeline that is configured for the sensors. -/
def pipeline (sensors : List (Sensor (Option ℤ))) : ReadingPipeline (Option ℤ) :=
  .configure hashOf Int.ofNat (fun _ => false) sensors

/-- A raw reading with a value. -/
def reading (id : String) (value : ℤ) : SensorReading (Option ℤ) where
  sensorIdHash := hashOf id
  value := some (some value)
  source := .isr
  status := .raw

/-- `Process` of a reading of the sensor at `index`, at time `now`. -/
def process (sensors : List (Sensor (Option ℤ))) (now : ℤ) (index : ℕ)
    (pipeline : ReadingPipeline (Option ℤ)) (reading : SensorReading (Option ℤ)) :
    ReadingPipeline (Option ℤ) × Evaluation (Option ℤ) × List (Evaluation (Option ℤ)) :=
  match (runtimesOf sensors)[index]? with
  | some runtime => pipeline.process hashOf (clock now) (runtimesOf sensors) index runtime reading
  | none => (pipeline, ⟨index, reading, false⟩, [])

/-- Two sensors read one source, and a third reads both. -/
def diamond : List (Sensor (Option ℤ)) :=
  [sensor "speed" .canbusAnalog,
    { sensor "left" .virtualAnalog with
      expression := some (expression ["speed"] fun values => values.sum * 2) },
    { sensor "right" .virtualAnalog with
      expression := some (expression ["speed"] fun values => values.sum + 1) },
    { sensor "sum" .virtualAnalog with expression := some (expression ["left", "right"] List.sum) }]

/-- A debounced indicator and a sensor that reads it. -/
def debounced : List (Sensor (Option ℤ)) :=
  [{ sensor "door" .physicalIndicator with debounceMs := 50 },
    { sensor "alarm" .virtualAnalog with expression := some (expression ["door"] List.sum) }]

/-- A Toggle indicator that reads another sensor, and a script that multiplies by ten and
writes a user sensor. -/
def scripted : List (Sensor (Option ℤ)) :=
  [sensor "speed" .canbusAnalog,
    sensor "trip" .userAnalog,
    { sensor "moving" .virtualIndicator with
      expression := some (expression ["speed"] List.sum)
      inputMode := .toggle },
    { sensor "scaled" .virtualAnalog with
      expression := some (expression ["speed"] List.sum)
      postProcess := some fun _ value =>
        (.value (value.join.map (· * 10)), [("trip", some 5)]) }]

theorem acyclic_diamond : (resolver diamond.reverse).Acyclic := by
  -- What a sensor reads is earlier in the list.
  have earlier : ∀ sensorId dependency,
      (resolver diamond.reverse).DependsOn sensorId dependency →
        (diamond.map Sensor.id).idxOf dependency < (diamond.map Sensor.id).idxOf sensorId := by
    rintro sensorId dependency ⟨entry, mem, rfl, reads⟩
    have all : ∀ entry ∈ (resolver diamond.reverse).entries, ∀ name ∈ entry.dependencies,
        (diamond.map Sensor.id).idxOf name < (diamond.map Sensor.id).idxOf entry.id := by
      decide +kernel
    exact all entry mem dependency reads
  intro sensorId cyclic
  have : ∀ other, Relation.TransGen (resolver diamond.reverse).DependsOn sensorId other →
      (diamond.map Sensor.id).idxOf other < (diamond.map Sensor.id).idxOf sensorId := by
    intro other leads
    induction leads with
    | single reads => exact earlier _ _ reads
    | tail _ reads ih => exact (earlier _ _ reads).trans ih
  exact Nat.lt_irrefl _ (this sensorId cyclic)

end Configurations

open Configurations in
/-- A reading of the speed evaluates both sides and then their sum. -/
theorem process_evaluates_derived_diamond :
    let speed := process diamond 0 0 (pipeline diamond) (reading "speed" 7)
    speed.2.2.map Evaluation.index = [1, 2, 3] ∧
      speed.1.frame.values = [some 7, some 14, some 8, some 22] ∧
      (∀ d, d ∈ speed.2.2.map Evaluation.index ↔ Relation.TransGen (Derives diamond) 0 d) ∧
      ∃ value, expressionValue hashOf speed.1.frame
          { sensor "sum" .virtualAnalog with
            expression := some (expression ["left", "right"] List.sum) } = some value ∧
        speed.1.frame.Holds 3 value := by
  intro speed
  have distinct : (idHashes hashOf diamond.reverse).Nodup := by decide +kernel
  have added : (resolver diamond.reverse).Added diamond.reverse :=
    SensorsOrderResolver.added_addSensors (by decide +kernel)
  have orders : (resolver diamond.reverse).getProcessingOrder = .ok diamond := rfl
  have builds : SensorGeneration.build hashOf (.configure (idHashes hashOf diamond)) diamond =
      .ok (runtimesOf diamond) := rfl
  have fits : (pipeline diamond).Fits hashOf diamond :=
    ReadingPipeline.fits_configure Int.ofNat fun _ => false
  have found : (runtimesOf diamond)[0]? = some ((runtimesOf diamond).get ⟨0, by decide⟩) := rfl
  have processes : (pipeline diamond).process hashOf (clock 0) (runtimesOf diamond) 0
      ((runtimesOf diamond).get ⟨0, by decide⟩) (reading "speed" 7) =
        (speed.1, speed.2.1, speed.2.2) := rfl
  have good : speed.2.1.reading.hasError = false := by decide +kernel
  have unheld : speed.2.1.isHeld = false := by decide +kernel
  obtain ⟨reached, -, -, frame⟩ := ReadingPipeline.process_evaluates_derived added distinct
    acyclic_diamond orders builds fits found rfl processes good unheld
  have silent : ∀ (i : ℕ) (sensor : Sensor (Option ℤ)), diamond[i]? = some sensor →
      sensor.WritesNothing := by
    intro i sensor there postProcess script
    have none : ∀ sensor ∈ diamond, sensor.postProcess.isNone = true := by decide
    have := none sensor (List.mem_of_getElem? there)
    rw [script] at this
    cases this
  have indices : speed.2.2.map Evaluation.index = [1, 2, 3] := by decide +kernel
  obtain ⟨shown, -⟩ := frame (by decide +kernel) fun i _ => silent i
  refine ⟨indices, by decide +kernel, reached, ?_⟩
  exact shown 3 (by decide +kernel) _ rfl ⟨rfl, nofun⟩

open Configurations in
/-- A held reading evaluates nothing, though the alarm reads the door. The switch of a
Toggle indicator and the result of a script stand in the frame in place of the value of
the expression, and a script writes the slot of a sensor that was not evaluated. -/
theorem not_process_evaluates_derived :
    -- The door opens within its debounce window.
    ((resolver debounced).getProcessingOrder = .ok debounced ∧ Derives debounced 0 1 ∧
      let closed := (process debounced 0 0 (pipeline debounced) (reading "door" 0)).1
      let opened := process debounced 10 0 closed (reading "door" 1)
      opened.2.1.reading.hasError = false ∧ opened.2.2.map Evaluation.index = []) ∧
    -- The speed changes, and nothing fails or is held.
    ((resolver scripted).getProcessingOrder = .ok scripted ∧
      let written := (process scripted 0 1 (pipeline scripted)
        { reading "trip" 1 with status := .processed }).1
      let moved := process scripted 10 0 written (reading "speed" 7)
      moved.2.1.reading.hasError = false ∧
      moved.2.2.map (fun evaluation =>
        (evaluation.index, evaluation.isHeld, evaluation.reading.hasError)) =
          [(2, false, false), (3, false, false)] ∧
      scripted.map (expressionValue hashOf moved.1.frame) =
        [none, none, some (some 1), some (some 7)] ∧
      written.frame.values = [none, some 1, none, none] ∧
      moved.1.frame.values = [some 7, some 5, some 0, some 70]) := by
  refine ⟨⟨rfl, ⟨_, _, rfl, rfl, rfl, by decide⟩, ?_⟩, rfl, ?_⟩
  all_goals decide +kernel

end RtCore.Sensors
