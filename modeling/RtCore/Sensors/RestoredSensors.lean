import RtCore.Sensors.SensorsCborParser

/-!
# Sensors that were stored and read back

What `Serialize` accepts and converts, `Deserialize` accepts and converts back. In between a
calibration table gets sorted, a connection string is written and read, and the sensors come back
in processing order.

## Main definitions

* `ConfiguredSensor.Restores` — a sensor is read back as another
* `ReadsBehind` — every sensor of a list is behind the sensors its expression reads

## Main results

* `SensorsCborParser.processingOrder_spec` — the order has every sensor once, behind the sensors
  it reads
* `SensorsCborParser.deserialize_of_serialize` — what is serialized is deserialized
-/

namespace RtCore.Sensors

open RtCore.Foundation RtCore.Cbor

/-! ### Sorted tables -/

/-- By the places of the voltages. -/
def CalibrationData.AtMost (a b : CalibrationData) : Prop :=
  FloatBits.key a.voltage ≤ FloatBits.key b.voltage

instance : DecidableRel CalibrationData.AtMost := fun a b =>
  inferInstanceAs (Decidable (FloatBits.key a.voltage ≤ FloatBits.key b.voltage))

instance : Std.Total CalibrationData.AtMost := ⟨fun a b =>
  le_total (FloatBits.key a.voltage) (FloatBits.key b.voltage)⟩

instance : IsTrans CalibrationData CalibrationData.AtMost := ⟨fun _ _ _ => le_trans⟩

theorem sortByVoltage_perm (table : List CalibrationData) : (sortByVoltage table).Perm table :=
  List.perm_insertionSort ..

section Usable

variable {table : List CalibrationData} (usable : SensorValidator.UsableTable table)

include usable

private theorem sortByVoltage_eq :
    sortByVoltage table = table.insertionSort CalibrationData.AtMost := by
  have same := List.map_insertionSort CalibrationData.NotAfter CalibrationData.AtMost id table
    (fun a memberA b memberB => by
      rw [CalibrationData.NotAfter, CalibrationData.AtMost, Bool.eq_false_iff, ne_eq,
        FloatBits.lt_iff (usable.finite b memberB).1 (usable.finite a memberA).1, not_lt]
      rfl)
  rwa [List.map_id, List.map_id] at same

/-- A validated table is sorted strictly. -/
theorem sortByVoltage_sorted : (sortByVoltage table).Pairwise fun a b =>
    FloatBits.key a.voltage < FloatBits.key b.voltage := by
  have ordered : (sortByVoltage table).Pairwise CalibrationData.AtMost := by
    rw [sortByVoltage_eq usable]
    exact List.pairwise_insertionSort ..
  have distinct := (usable.perm (sortByVoltage_perm table).symm).distinct
  apply (ordered.and distinct).imp
  rintro a b ⟨atMost, different⟩
  exact lt_of_le_of_ne atMost different

/-- Sorting again changes nothing. -/
theorem sortByVoltage_sortByVoltage :
    sortByVoltage (sortByVoltage table) = sortByVoltage table := by
  have usable' := usable.perm (sortByVoltage_perm table).symm
  rw [sortByVoltage_eq usable']
  apply List.Pairwise.insertionSort_eq
  exact (sortByVoltage_sorted usable).imp fun less => le_of_lt less

end Usable

/-! ### Restored sensors -/

/-- A sensor is read back as another: only its connection string is the one that was written for
it, its calibration table is sorted, and it has its CAN source exactly if its type uses one. -/
structure ConfiguredSensor.Restores (given restored : ConfiguredSensor) : Prop where
  same : restored = { given with configuration := { given.configuration with
    connectionString := restored.configuration.connectionString
    calibrationTable := restored.configuration.calibrationTable
    canbusSource := restored.configuration.canbusSource } }
  connectionString : given.configuration.updateConnectionString = some
    { given.configuration with connectionString := restored.configuration.connectionString }
  calibrationTable : restored.configuration.calibrationTable.Perm
    given.configuration.calibrationTable
  sorted : restored.configuration.calibrationTable.Pairwise fun a b =>
    FloatBits.lt a.voltage b.voltage = true
  canbusSource : restored.configuration.canbusSource =
    if given.configuration.getTraits.usesCanbus = true then given.configuration.canbusSource
    else none

/-- Every sensor of a list is behind the sensors its expression reads. -/
def ReadsBehind {V : Type} (unit : SensorsUnit V) (sensors : List ConfiguredSensor) : Prop :=
  ∀ (i : ℕ) (sensor : ConfiguredSensor), sensors[i]? = some sensor →
    sensor.configuration.hasExpression = true →
    ∀ evaluator, unit.createEvaluator sensor.configuration.expression = .ok evaluator →
    ∀ name ∈ evaluator.variableNames,
      ∃ (j : ℕ) (input : ConfiguredSensor), j < i ∧ sensors[j]? = some input ∧ input.id = name

/-! ### The order -/

private theorem find?_of_nodup {α β : Type} [DecidableEq β] {key : α → β} {items : List α}
    (distinct : (items.map key).Nodup) {item : α} (member : item ∈ items) :
    items.find? (fun other => key other = key item) = some item := by
  cases found : items.find? fun other => key other = key item with
  | none => simpa using List.find?_eq_none.mp found item member
  | some other =>
    have same : key other = key item := by simpa using List.find?_some found
    rw [List.inj_on_of_nodup_map distinct (List.mem_of_find?_eq_some found) member same]

private theorem getElem?_filterMap {α β : Type} {f : α → Option β} {items : List α}
    (found : ∀ item ∈ items, (f item).isSome = true) (i : ℕ) :
    (items.filterMap f)[i]? = items[i]?.bind f := by
  induction items generalizing i with
  | nil => rfl
  | cons item items ih =>
    obtain ⟨result, here⟩ := Option.isSome_iff_exists.mp (found item List.mem_cons_self)
    rw [List.filterMap_cons_some here]
    cases i with
    | zero => exact here.symm
    | succ i =>
      rw [List.getElem?_cons_succ, List.getElem?_cons_succ]
      exact ih (fun other member => found other (List.mem_cons_of_mem _ member)) i

private theorem filterMap_of_forall₂ {α β : Type} {f : β → Option α} {R : α → β → Prop}
    {items : List α} {results : List β} (pairs : List.Forall₂ R items results)
    (back : ∀ item ∈ items, ∀ result, R item result → f result = some item) :
    results.filterMap f = items := by
  induction pairs with
  | nil => rfl
  | cons here _ ih =>
    rw [List.filterMap_cons_some (back _ List.mem_cons_self _ here)]
    rw [ih fun item member => back item (List.mem_cons_of_mem _ member)]

namespace SensorsCborParser

variable {V : Type} {unit : SensorsUnit V}

theorem resolverSensor_id {sensor : ConfiguredSensor} {resolved : Sensor V}
    (resolves : resolverSensor unit sensor = .ok resolved) : resolved.id = sensor.id.string := by
  unfold resolverSensor at resolves
  split_ifs at resolves
  · split at resolves
    · exact nomatch resolves
    · cases resolves
      rfl
  · cases resolves
    rfl

/-- The names of the variables of the expression a sensor has. -/
theorem resolverSensor_variableNames {sensor : ConfiguredSensor} {resolved : Sensor V}
    {evaluator : CompiledExpression V} (resolves : resolverSensor unit sensor = .ok resolved)
    (computes : sensor.configuration.hasExpression = true)
    (compiles : unit.createEvaluator sensor.configuration.expression = .ok evaluator) :
    resolved.variableNames = evaluator.variableNames.map Text.string := by
  simp only [resolverSensor, computes, compiles, if_true] at resolves
  cases resolves
  rfl

theorem nodup_strings {sensors : List ConfiguredSensor}
    (distinct : (sensors.map fun sensor => unit.getHash sensor.id).Nodup) :
    (sensors.map fun sensor => sensor.id.string).Nodup := by
  have ids : (sensors.map ConfiguredSensor.id).Nodup := by
    apply List.Nodup.of_map unit.getHash
    rwa [List.map_map]
  have strings := ids.map Text.string_injective
  rwa [List.map_map] at strings

/-- The order of sensors with distinct hashes has every sensor once, behind the sensors it
reads. -/
theorem processingOrder_spec {sensors ordered : List ConfiguredSensor}
    (distinct : (sensors.map fun sensor => unit.getHash sensor.id).Nodup)
    (orders : processingOrder unit sensors = .ok ordered) :
    ordered.Perm sensors ∧ ReadsBehind unit ordered := by
  obtain ⟨added, resolves, orders⟩ := bind_eq_ok.mp orders
  split at orders
  · exact nomatch orders
  rename_i order resolved
  cases orders
  have pairs := mapM_eq_ok.mp resolves
  have strings := nodup_strings distinct
  have ids : added.map Sensor.id = sensors.map fun sensor => sensor.id.string := by
    apply List.forall₂_eq_eq_eq ▸ List.forall₂_map_left_iff.mpr (List.forall₂_map_right_iff.mpr _)
    exact pairs.flip.imp fun _ _ resolves => resolverSensor_id resolves
  have distinctIds : (added.map Sensor.id).Nodup := ids ▸ strings
  have acyclic := SensorsOrderResolver.acyclic_of_getProcessingOrder
    ((unit.added added distinctIds).nodup_ids distinctIds) resolved
  obtain ⟨perm, inputsFirst⟩ := SensorsOrderResolver.getProcessingOrder_spec
    (unit.added added distinctIds) distinctIds acyclic resolved
  -- Every resolved sensor leads back to the sensor it was made of.
  have back : ∀ sensor ∈ sensors, ∀ resolved, resolverSensor unit sensor = .ok resolved →
      sensors.find? (fun sensor => sensor.id.string = resolved.id) = some sensor := by
    intro sensor member resolved resolves
    rw [resolverSensor_id resolves]
    exact find?_of_nodup strings member
  have origin : ∀ resolved ∈ order, ∃ sensor, resolverSensor unit sensor = .ok resolved ∧
      sensors.find? (fun sensor => sensor.id.string = resolved.id) = some sensor := by
    intro resolved member
    obtain ⟨sensor, given, resolves⟩ := mem_of_mapM_eq_ok resolves (perm.mem_iff.mp member)
    exact ⟨sensor, resolves, back sensor given resolved resolves⟩
  constructor
  · have sensors' := perm.filterMap fun resolved =>
      sensors.find? fun sensor => sensor.id.string = resolved.id
    rwa [filterMap_of_forall₂ pairs back] at sensors'
  · have places (i : ℕ) := getElem?_filterMap (f := fun resolved : Sensor V =>
      sensors.find? fun sensor => sensor.id.string = resolved.id) (fun resolved member => by
        obtain ⟨sensor, -, found⟩ := origin resolved member
        rw [found]
        rfl) i
    intro i sensor there computes evaluator compiles name reads
    rw [places i, Option.bind_eq_some_iff] at there
    obtain ⟨resolved, place, found⟩ := there
    obtain ⟨sensor', resolves, found'⟩ := origin resolved (List.mem_of_getElem? place)
    obtain rfl : sensor' = sensor := Option.some.inj (found'.symm.trans found)
    have reads' : name.string ∈ resolved.variableNames := by
      rw [resolverSensor_variableNames resolves computes compiles]
      exact List.mem_map_of_mem reads
    obtain ⟨j, input, earlier, place', names⟩ := inputsFirst i resolved place _ reads'
    obtain ⟨sensor, -, found⟩ := origin input (List.mem_of_getElem? place')
    refine ⟨j, sensor, earlier, ?_, Text.string_injective ?_⟩
    · rw [places j, place', Option.bind_some, found]
    · rw [← names]
      simpa using List.find?_some found

/-! ### Converted sensors -/

/-- A sensor as it comes out of its stored form. -/
def converted (sensor : ConfiguredSensor) : ConfiguredSensor :=
  { sensor with configuration := { sensor.configuration with
    calibrationTable := sortByVoltage sensor.configuration.calibrationTable
    canbusSource := none } }

variable {sensor : ConfiguredSensor} {sensors : List ConfiguredSensor}

open SensorValidator

theorem usable_or_empty {configuration : SensorConfiguration} {sensorId : Text}
    (accepted : validateInterpolationMethod sensorId configuration = .ok ()) :
    configuration.hasInterpolation = false ∧ configuration.calibrationTable = [] ∨
      configuration.hasInterpolation = true ∧ UsableTable configuration.calibrationTable := by
  rw [validateInterpolationMethod_eq_ok] at accepted
  split_ifs at accepted
  · exact .inl accepted
  · exact .inr accepted

/-- Absent values come back as absent. -/
theorem ofCbor_toCbor (passes : Passes unit sensor sensors) :
    ConfiguredSensor.ofCbor sensor.toCbor = converted sensor := by
  obtain ⟨id, isEnabled, metadata, configuration⟩ := sensor
  have rates := passes.samplingRateMs
  simp only [validateSamplingRateMs, andThen_eq_ok, refuseIf_eq_ok] at rates
  have rate : (if 0 < configuration.toCbor.samplingRateMs.toInt then
      some configuration.toCbor.samplingRateMs else none) = configuration.samplingRateMs := by
    cases given : configuration.samplingRateMs with
    | none => simp [SensorConfiguration.toCbor, given]
    | some value =>
      have positive : 0 < value.toInt := by simpa [given] using rates.1
      simp [SensorConfiguration.toCbor, given, positive]
  have expression : configuration.toCbor.expression.getD Text.empty = configuration.expression := by
    by_cases computes : configuration.hasExpression = true
    · simp [SensorConfiguration.toCbor, computes]
    · have empty : configuration.expression = Text.empty := by
        apply Text.ext
        change configuration.expression.bytes = []
        simpa [SensorConfiguration.hasExpression, Text.isEmpty] using computes
      simp [SensorConfiguration.toCbor, computes, empty]
  -- The table is stored with the method only; without a method there are no points to lose.
  have table : SensorConfiguration.ofCbor configuration.toCbor =
      { configuration with
        calibrationTable := sortByVoltage configuration.calibrationTable
        canbusSource := none } := by
    rcases usable_or_empty passes.interpolationMethod with ⟨never, empty⟩ | ⟨interpolates, -⟩
    · have zero : configuration.interpolationMethod = 0 := by
        simpa [SensorConfiguration.hasInterpolation] using never
      have absent : configuration.toCbor.calibrationTable = none := by
        simp [SensorConfiguration.toCbor, never]
      dsimp only at empty
      simp only [SensorConfiguration.ofCbor, absent, rate, expression, empty, zero]
      rfl
    · have nonzero : configuration.interpolationMethod ≠ 0 := by
        simpa [SensorConfiguration.hasInterpolation] using interpolates
      have present : configuration.toCbor.calibrationTable =
          some ((sortByVoltage configuration.calibrationTable).map fun point =>
            ⟨point.voltage, point.value⟩) := by
        simp only [SensorConfiguration.toCbor, interpolates, if_true]
      have method : configuration.toCbor.interpolationMethod.toUInt8 =
          configuration.interpolationMethod := UInt8.toUInt8_toUInt32 _
      have points : ((sortByVoltage configuration.calibrationTable).map fun point =>
          (⟨point.voltage, point.value⟩ : CborSensorCalibrationDataMapFloat32float)).map
            (fun point => (⟨point.float32floatKey, point.float32float⟩ : CalibrationData)) =
          sortByVoltage configuration.calibrationTable := by
        rw [List.map_map]
        exact List.map_id _
      simp only [SensorConfiguration.ofCbor, present, rate, expression, method, points,
        if_pos nonzero]
      rfl
  rw [converted, ← table]
  rfl

/-- Converting changes neither the IDs that an expression can name nor which sensors are
enabled. -/
private theorem validateInput_converted (sensor : ConfiguredSensor)
    (sensors : List ConfiguredSensor) :
    validateInput (converted sensor) (sensors.map converted) = validateInput sensor sensors := by
  funext name
  have found : (sensors.map converted).find? (fun candidate => candidate.id = name) =
      (sensors.find? fun candidate => candidate.id = name).map converted := List.find?_map ..
  unfold validateInput
  rw [found]
  cases sensors.find? fun candidate => candidate.id = name with
  | none => rfl
  | some input => rfl

/-- A converted sensor passes the checks the given one passed. -/
theorem passes_converted (passes : Passes unit sensor sensors) :
    Passes unit (converted sensor) (sensors.map converted) where
  type := passes.type
  channel := passes.channel
  connectionString := passes.connectionString
  scriptPath := passes.scriptPath
  samplingRateMs := passes.samplingRateMs
  interpolationMethod := by
    have given := validateInterpolationMethod_eq_ok.mp passes.interpolationMethod
    apply validateInterpolationMethod_eq_ok.mpr
    change if sensor.configuration.getTraits.requiresInterpolation = false then _ else _
    split_ifs at given ⊢
    · refine ⟨given.1, ?_⟩
      change sortByVoltage sensor.configuration.calibrationTable = []
      rw [given.2]
      rfl
    · exact ⟨given.1, given.2.perm (sortByVoltage_perm _).symm⟩
  conditioning := passes.conditioning
  expression := by
    have given := passes.expression
    unfold validateExpression at given ⊢
    rw [validateInput_converted]
    exact given

/-- What is accepted before it is converted is accepted after it was converted back. -/
theorem validate_converted (validates : validate unit sensors = .ok ()) :
    validate unit (sensors.map converted) = .ok () := by
  obtain ⟨few, ids, metadata, passes⟩ := validate_eq_ok.mp validates
  apply validate_eq_ok.mpr
  refine ⟨?_, ?_, ?_, ?_⟩
  · rwa [List.length_map]
  · rw [validateId, List.map_map]
    exact ids
  · intro sensor member
    obtain ⟨given, there, rfl⟩ := List.mem_map.mp member
    exact metadata given there
  · intro sensor member
    obtain ⟨given, there, rfl⟩ := List.mem_map.mp member
    exact passes_converted (passes given there)

/-! ### Restored sensors -/

/-- A sensor as it is read back. -/
def restored (sensor : ConfiguredSensor) : ConfiguredSensor :=
  { sensor with configuration := { sensor.configuration with
    calibrationTable := sortByVoltage sensor.configuration.calibrationTable
    canbusSource :=
      if sensor.configuration.getTraits.usesCanbus = true then sensor.configuration.canbusSource
      else none } }

/-- The connection string of a CAN sensor was written for its source, which it is read as. -/
theorem fromConnectionString_of_update {given configuration : SensorConfiguration}
    {sensorId : Text} (writes : given.updateConnectionString = some configuration)
    (accepted : validateConnectionString sensorId configuration = .ok ())
    (usesCanbus : configuration.getTraits.usesCanbus = true) :
    ∃ source, configuration.canbusSource = some source ∧
      CanbusSource.fromConnectionString configuration.connectionString = .ok source := by
  unfold SensorConfiguration.updateConnectionString at writes
  simp only [validateConnectionString, usesCanbus, Bool.true_eq_false, if_false] at accepted
  split at accepted
  · cases accepted
  · rename_i parts parses
    split at writes
    · rename_i source uses present
      obtain ⟨text, written, rfl⟩ := Option.map_eq_some_iff.mp writes
      exact ⟨source, present,
        (CanbusSource.fromConnectionString_toConnectionString written parses).1⟩
    · -- Without a source the text is empty, and an empty text is refused.
      cases writes
      cases parses

private theorem unwrapConnectionString_of_update {given configuration : SensorConfiguration}
    {sensorId : Text} (writes : given.updateConnectionString = some configuration)
    (accepted : validateConnectionString sensorId configuration = .ok ())
    (calibrationTable : List CalibrationData) :
    { configuration with calibrationTable, canbusSource := none }.unwrapConnectionString =
      .ok { configuration with
        calibrationTable
        canbusSource :=
          if configuration.getTraits.usesCanbus = true then configuration.canbusSource
          else none } := by
  have traits : { configuration with calibrationTable, canbusSource := none }.getTraits =
      configuration.getTraits := rfl
  unfold SensorConfiguration.unwrapConnectionString
  rw [traits]
  by_cases usesCanbus : configuration.getTraits.usesCanbus = true
  · obtain ⟨source, present, reads⟩ := fromConnectionString_of_update writes accepted usesCanbus
    simp only [usesCanbus, if_true, reads, present]
  · simp only [if_neg usesCanbus]

/-- Reading a stored sensor back cannot fail. -/
theorem finish_converted {given : SensorConfiguration}
    (writes : given.updateConnectionString = some sensor.configuration)
    (passes : Passes unit sensor sensors) : finish (converted sensor) = .ok (restored sensor) := by
  have twice : sortByVoltage (sortByVoltage sensor.configuration.calibrationTable) =
      sortByVoltage sensor.configuration.calibrationTable := by
    rcases usable_or_empty passes.interpolationMethod with ⟨-, empty⟩ | ⟨-, usable⟩
    · rw [empty]
      rfl
    · exact sortByVoltage_sortByVoltage usable
  unfold finish converted
  dsimp only
  rw [twice, unwrapConnectionString_of_update writes passes.connectionString]
  rfl

/-- Only the connection string is written. -/
theorem updateConnectionString_eq {given configuration : SensorConfiguration}
    (writes : given.updateConnectionString = some configuration) :
    ∃ connectionString, configuration = { given with connectionString } := by
  unfold SensorConfiguration.updateConnectionString at writes
  split at writes
  · obtain ⟨text, -, rfl⟩ := Option.map_eq_some_iff.mp writes
    exact ⟨text, rfl⟩
  · cases writes
    exact ⟨Text.empty, rfl⟩

theorem restores_restored {given : ConfiguredSensor} {configuration : SensorConfiguration}
    (writes : given.configuration.updateConnectionString = some configuration)
    (passes : Passes unit { given with configuration } sensors) :
    given.Restores (restored { given with configuration }) := by
  obtain ⟨connectionString, rfl⟩ := updateConnectionString_eq writes
  constructor
  case same => rfl
  case connectionString => exact writes
  case calibrationTable => exact sortByVoltage_perm given.configuration.calibrationTable
  case canbusSource => rfl
  case sorted =>
    change (sortByVoltage given.configuration.calibrationTable).Pairwise _
    rcases usable_or_empty passes.interpolationMethod with ⟨-, empty⟩ | ⟨-, usable⟩
    · rw [show given.configuration.calibrationTable = [] from empty]
      exact List.Pairwise.nil
    · have usable' := usable.perm (sortByVoltage_perm _).symm
      apply (sortByVoltage_sorted usable).imp_of_mem
      intro a b memberA memberB less
      rwa [FloatBits.lt_iff (usable'.finite a memberA).1 (usable'.finite b memberB).1]

/-- What has an order has one after it was read back. -/
theorem processingOrder_restored {ordered : List ConfiguredSensor}
    (orders : processingOrder unit sensors = .ok ordered) :
    ∃ ordered', processingOrder unit (sensors.map restored) = .ok ordered' := by
  obtain ⟨added, resolves, orders⟩ := bind_eq_ok.mp orders
  have resolves' : (sensors.map restored).mapM (resolverSensor unit) = .ok added := by
    rw [mapM_eq_ok] at resolves ⊢
    exact List.forall₂_map_left_iff.mpr resolves
  unfold processingOrder
  rw [resolves']
  split at orders
  · exact nomatch orders
  · rename_i order resolved
    refine ⟨order.filterMap fun resolved => (sensors.map restored).find? fun sensor =>
      sensor.id.string = resolved.id, bind_eq_ok.mpr ⟨added, rfl, ?_⟩⟩
    rw [resolved]

/-- The sensors that were validated are the given ones, with their connection strings. -/
private theorem updated_of_updateConnectionStrings {updated : List ConfiguredSensor}
    (updates : updateConnectionStrings sensors = .ok updated)
    (passes : ∀ sensor ∈ updated, Passes unit sensor updated) :
    List.Forall₂ (fun given sensor => ∃ configuration,
      given.configuration.updateConnectionString = some configuration ∧
        sensor = { given with configuration } ∧ Passes unit sensor updated) sensors updated := by
  have pairs := mapM_eq_ok.mp updates
  have passing := (List.forall₂_and_left updated sensors).mpr ⟨passes, pairs.flip⟩
  apply passing.flip.imp
  rintro given sensor ⟨passes, writes⟩
  split at writes
  · rename_i configuration written
    cases writes
    exact ⟨configuration, written, rfl, passes⟩
  · exact nomatch writes

/-- What is serialized is deserialized: every sensor comes back once, behind the sensors it
reads. -/
theorem deserialize_of_serialize {config : CborSensorsConfig}
    (serializes : serialize unit sensors = .ok config) :
    ∃ result, deserialize unit config = .ok result ∧
      (∃ matched, result.Perm matched ∧ List.Forall₂ ConfiguredSensor.Restores sensors matched) ∧
      ReadsBehind unit result := by
  obtain ⟨updated, _, updates, validates, orders, rfl⟩ := serialize_eq_ok.mp serializes
  obtain ⟨-, ids, -, passes⟩ := validate_eq_ok.mp validates
  have pairs := updated_of_updateConnectionStrings updates passes
  have stored : (updated.map ConfiguredSensor.toCbor).map ConfiguredSensor.ofCbor =
      updated.map converted := by
    rw [List.map_map]
    exact List.map_congr_left fun sensor member => ofCbor_toCbor (passes sensor member)
  have finishes : (updated.map converted).mapM finish = .ok (updated.map restored) := by
    rw [mapM_eq_ok, List.forall₂_map_left_iff, List.forall₂_map_right_iff, List.forall₂_same]
    intro sensor member
    obtain ⟨given, -, writes⟩ := mem_of_mapM_eq_ok updates member
    split at writes
    · rename_i configuration written
      cases writes
      exact finish_converted written (passes _ member)
    · exact nomatch writes
  obtain ⟨result, orders'⟩ := processingOrder_restored orders
  have distinct : ((updated.map restored).map fun sensor => unit.getHash sensor.id).Nodup := by
    rw [List.map_map]
    exact nodup_of_validateId ids
  obtain ⟨perm, behind⟩ := processingOrder_spec distinct orders'
  refine ⟨result, ?_, ⟨updated.map restored, perm, ?_⟩, behind⟩
  · unfold deserialize
    simp only [stored, validate_converted validates, finishes]
    exact orders'
  · apply List.forall₂_map_right_iff.mpr
    apply pairs.imp
    rintro given sensor ⟨configuration, writes, rfl, passes⟩
    exact restores_restored writes passes

/-! ### What is deserialized -/

/-- A stored sensor after its table was sorted and its connection string read. -/
def Finished (stored result : ConfiguredSensor) : Prop :=
  ∃ canbusSource, result = { stored with configuration := { stored.configuration with
    calibrationTable := sortByVoltage stored.configuration.calibrationTable
    canbusSource } }

private theorem unwrapConnectionString_eq_ok {configuration result : SensorConfiguration}
    (unwraps : configuration.unwrapConnectionString = .ok result) :
    ∃ canbusSource, result = { configuration with canbusSource } := by
  unfold SensorConfiguration.unwrapConnectionString at unwraps
  split_ifs at unwraps
  · split at unwraps
    · rename_i source _
      cases unwraps
      exact ⟨some source, rfl⟩
    · exact nomatch unwraps
  · cases unwraps
    exact ⟨configuration.canbusSource, rfl⟩

theorem finished_of_finish {stored result : ConfiguredSensor}
    (finishes : finish stored = .ok result) : Finished stored result := by
  unfold finish at finishes
  dsimp only at finishes
  split at finishes
  · rename_i configuration unwraps
    cases finishes
    obtain ⟨canbusSource, rfl⟩ := unwrapConnectionString_eq_ok unwraps
    exact ⟨canbusSource, rfl⟩
  · exact nomatch finishes

/-- Finished sensors have the hashes they had. -/
theorem hashes_of_finishes {stored finished : List ConfiguredSensor}
    (finishes : stored.mapM finish = .ok finished) :
    (finished.map fun sensor => unit.getHash sensor.id) =
      stored.map fun sensor => unit.getHash sensor.id := by
  apply List.forall₂_eq_eq_eq ▸ List.forall₂_map_left_iff.mpr (List.forall₂_map_right_iff.mpr _)
  apply (mapM_eq_ok.mp finishes).flip.imp
  intro result given done
  obtain ⟨_, rfl⟩ := finished_of_finish done
  rfl

/-- The deserialized sensors are the stored ones, each of which passed the validator, behind the
sensors they read. -/
structure Accepted (unit : SensorsUnit V) (stored sensors : List ConfiguredSensor) : Prop where
  passes : ∀ sensor ∈ stored, Passes unit sensor stored
  storedDistinct : (stored.map fun sensor => unit.getHash sensor.id).Nodup
  distinct : (sensors.map fun sensor => unit.getHash sensor.id).Nodup
  behind : ReadsBehind unit sensors
  origin : ∀ sensor ∈ sensors, ∃ given ∈ stored, Finished given sensor
  kept : ∀ given ∈ stored, ∃ sensor ∈ sensors, Finished given sensor

theorem accepted_of_deserialize {config : CborSensorsConfig}
    (deserializes : deserialize unit config = .ok sensors) :
    Accepted unit (config.sensors.map ConfiguredSensor.ofCbor) sensors := by
  obtain ⟨_, validates, deserializes⟩ := bind_eq_ok.mp deserializes
  obtain ⟨finished, finishes, orders⟩ := bind_eq_ok.mp deserializes
  obtain ⟨-, ids, -, passes⟩ := validate_eq_ok.mp validates
  have storedDistinct := nodup_of_validateId ids
  have distinct : (finished.map fun sensor => unit.getHash sensor.id).Nodup := by
    rwa [hashes_of_finishes finishes]
  obtain ⟨perm, behind⟩ := processingOrder_spec distinct orders
  refine ⟨passes, storedDistinct, ?_, behind, ?_, ?_⟩
  · exact (perm.map _).nodup_iff.mpr distinct
  · intro sensor member
    obtain ⟨given, there, finishes⟩ := mem_of_mapM_eq_ok finishes (perm.mem_iff.mp member)
    exact ⟨given, there, finished_of_finish finishes⟩
  · intro given member
    obtain ⟨sensor, there, finishes⟩ := mem_mapM_of_mem finishes member
    exact ⟨sensor, perm.mem_iff.mpr there, finished_of_finish finishes⟩

end SensorsCborParser

end RtCore.Sensors
