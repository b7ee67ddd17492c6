import Mathlib.Data.List.Forall2
import RtCore.Foundation.Checks
import RtCore.Sensors.Pipeline
import RtCore.Sensors.ProcessingOrder

/-!
# The dependents of a sensor

In a generation built from sensors in processing order, the slot of a sensor is its
index, the slots an expression reads are the indices of the sensors it names, and the
dependents of a sensor are the dependent sensors it reaches through dependent sensors,
in processing order.

## Main definitions

* `Derives` — one sensor is evaluated when the other commits
* `Generation` — runtimes built from sensors in processing order

## Main results

* `generation_of_build` — building makes a generation: the dependents of a sensor are those
  it reaches by `Derives`, in processing order
-/

namespace RtCore.Sensors

open RtCore.Foundation

variable {V : Type} {getHash : String → UInt32} {sensors : List (Sensor V)}
  {runtimes : List (SensorRuntime V)} {i j : ℕ}

/-- The ID hashes of sensors, by slot. -/
def idHashes (getHash : String → UInt32) (sensors : List (Sensor V)) : List UInt32 :=
  sensors.map fun sensor => getHash sensor.id

/-- The sensor at `j` is dependent and its expression reads the sensor at `i`. -/
def Derives (sensors : List (Sensor V)) (i j : ℕ) : Prop :=
  ∃ input sensor, sensors[i]? = some input ∧ sensors[j]? = some sensor ∧
    sensor.isDependent = true ∧ input.id ∈ sensor.variableNames

/-- What `Build` makes of a sensor, before the dependents are linked. -/
structure RuntimeOf (getHash : String → UInt32) (sensors : List (Sensor V)) (i : ℕ)
    (runtime : SensorRuntime V) : Prop where
  sensor : sensors[i]? = some runtime.sensor
  updateMethod : runtime.updateMethod =
    if runtime.sensor.isEnabled then runtime.sensor.getReadingUpdateMethod else .none
  expressionEvaluator : runtime.expressionEvaluator =
    if runtime.sensor.isEnabled then runtime.sensor.expression else none
  postProcess : runtime.postProcess =
    if runtime.sensor.isEnabled then runtime.sensor.postProcess else none
  inputs : List.Forall₂ (fun name slot => (idHashes getHash sensors)[slot]? = some (getHash name))
    (if runtime.sensor.isEnabled then runtime.sensor.variableNames else []) runtime.inputSlots

/-- Runtimes built from sensors in processing order, all with distinct ID hashes. -/
structure Generation (getHash : String → UInt32) (sensors : List (Sensor V))
    (runtimes : List (SensorRuntime V)) : Prop where
  inputsFirst : InputsFirst sensors
  distinct : (idHashes getHash sensors).Nodup
  length : runtimes.length = sensors.length
  runtimeOf : ∀ i runtime, runtimes[i]? = some runtime → RuntimeOf getHash sensors i runtime
  /-- The dependents are listed in processing order. -/
  sorted : ∀ (i : ℕ) (runtime : SensorRuntime V), runtimes[i]? = some runtime →
    runtime.dependents.Pairwise (· < ·)
  /-- They are the sensors reached through dependent sensors. -/
  mem_dependents : ∀ (i : ℕ) (runtime : SensorRuntime V), runtimes[i]? = some runtime → ∀ j,
    j ∈ runtime.dependents ↔ Relation.TransGen (Derives sensors) i j

/-! ### Building -/

/-- The hash of a sensor's ID stands at its index. -/
theorem idHashes_getElem? : (idHashes getHash sensors)[i]? =
    sensors[i]?.map fun sensor => getHash sensor.id :=
  List.getElem?_map

variable {frame : SensorReadingsFrame V} {sensor : Sensor V} {runtime : SensorRuntime V}

private theorem runtimeOf_buildRuntime (hashes : frame.sensorIdHashes = idHashes getHash sensors)
    (distinct : (idHashes getHash sensors).Nodup) (there : sensors[i]? = some sensor)
    (builds : SensorGeneration.buildRuntime getHash frame sensor = .ok runtime) :
    RuntimeOf getHash sensors i runtime := by
  have distinct' : frame.sensorIdHashes.Nodup := hashes ▸ distinct
  rw [SensorGeneration.buildRuntime] at builds
  split at builds
  · cases builds
  split at builds
  case isTrue disabled =>
    obtain rfl := Except.ok.inj builds
    have disabled : sensor.isEnabled = false := by simpa using disabled
    exact ⟨there, by simp [disabled], by simp [disabled], by simp [disabled], by simp [disabled]⟩
  case isFalse enabled =>
    have enabled : sensor.isEnabled = true := by simpa using enabled
    cases binds : SensorGeneration.bindVariables getHash frame sensor.id sensor.variableNames with
    | error error =>
      rw [binds] at builds
      cases builds
    | ok inputSlots =>
      rw [binds] at builds
      obtain rfl := Except.ok.inj builds
      refine ⟨there, by simp [enabled], by simp [enabled], by simp [enabled], ?_⟩
      rw [if_pos enabled]
      refine (mapM_eq_ok.mp binds).imp fun name slot bound => ?_
      rw [← hashes, ← SensorReadingsFrame.findSlot_eq_some distinct']
      split at bound
      case h_1 found =>
        obtain rfl := Except.ok.inj bound
        exact found
      case h_2 => cases bound

/-! ### Linking -/

namespace SensorGeneration

theorem mem_direct : j ∈ direct runtimes i ↔
    ∃ runtime, runtimes[j]? = some runtime ∧ runtime.updateMethod = .dependent ∧
      i ∈ runtime.inputSlots := by
  rw [direct, List.mem_flatMap]
  constructor
  · rintro ⟨⟨runtime, index⟩, mem, pushed⟩
    rw [List.mem_zipIdx_iff_getElem?] at mem
    dsimp only at mem pushed
    split at pushed
    · cases pushed
    · rename_i dependent
      obtain ⟨slot, reads, rfl⟩ := List.mem_map.mp pushed
      obtain ⟨reads, same⟩ := List.mem_filter.mp reads
      exact ⟨runtime, mem, not_not.mp dependent, of_decide_eq_true same ▸ reads⟩
  · rintro ⟨runtime, found, dependent, reads⟩
    refine ⟨(runtime, j), List.mem_zipIdx_iff_getElem?.mpr found, ?_⟩
    dsimp only
    rw [if_neg (not_not.mpr dependent)]
    exact List.mem_map.mpr ⟨i, List.mem_filter.mpr ⟨reads, decide_eq_true rfl⟩, rfl⟩

/-- The worklist gathers what the direct dependents lead to. -/
theorem mem_closure : j ∈ closure runtimes i ↔
    Relation.TransGen (IsSuccessor (direct runtimes)) i j := by
  have bounded : ∀ k, ∀ l ∈ direct runtimes k, l ∈ Finset.range runtimes.length := by
    intro k l pushed
    obtain ⟨runtime, found, -⟩ := mem_direct.mp pushed
    exact Finset.mem_range.mpr (List.getElem?_eq_some_iff.mp found).1
  have reached := mem_reachLoop_iff (b := j)
    (fun k pushed => bounded i k (List.mem_reverse.mp pushed)) (fun k _ => bounded k) le_rfl
  rw [closure, List.mem_filter, decide_eq_true_iff, reached]
  have step : (∃ k ∈ (direct runtimes i).reverse,
      Relation.ReflTransGen (IsSuccessor (direct runtimes)) k j) ↔
      Relation.TransGen (IsSuccessor (direct runtimes)) i j := by
    rw [Relation.TransGen.head'_iff]
    simp only [List.mem_reverse, IsSuccessor]
  rw [step]
  refine and_iff_right_of_imp fun leads => ?_
  obtain ⟨k, -, pushed⟩ := Relation.TransGen.tail'_iff.mp leads
  exact List.mem_range.mpr (Finset.mem_range.mp (bounded k j pushed))

theorem closure_sorted : (closure runtimes i).Pairwise (· < ·) :=
  List.pairwise_lt_range.filter _

end SensorGeneration

/-- In a list with distinct hashes, a hash stands at one index. -/
theorem index_unique (distinct : (idHashes getHash sensors).Nodup) {hash : UInt32}
    (here : (idHashes getHash sensors)[i]? = some hash)
    (there : (idHashes getHash sensors)[j]? = some hash) : i = j :=
  (List.getElem?_inj (List.getElem?_eq_some_iff.mp here).1 distinct).mp (here.trans there.symm)

/-- The slots an expression reads are the indices of the sensors it names. -/
theorem RuntimeOf.mem_inputSlots_iff (runtimeOf : RuntimeOf getHash sensors j runtime)
    (inputsFirst : InputsFirst sensors) (distinct : (idHashes getHash sensors).Nodup) :
    i ∈ runtime.inputSlots ↔ runtime.sensor.isEnabled = true ∧ ∃ input,
      sensors[i]? = some input ∧ input.id ∈ runtime.sensor.variableNames := by
  have inputs := runtimeOf.inputs
  constructor
  · intro reads
    obtain ⟨name, mem, hash⟩ := exists_left_of_forall₂ inputs reads
    split at mem
    case isFalse => cases mem
    case isTrue enabled =>
      obtain ⟨k, input, -, there, rfl⟩ := inputsFirst j _ runtimeOf.sensor name mem
      have hash' : (idHashes getHash sensors)[k]? = some (getHash input.id) := by
        rw [idHashes_getElem?, there]
        rfl
      obtain rfl := index_unique distinct hash hash'
      exact ⟨enabled, input, there, mem⟩
  · rintro ⟨enabled, input, there, mem⟩
    rw [if_pos enabled] at inputs
    obtain ⟨slot, reads, hash⟩ := exists_left_of_forall₂ inputs.flip mem
    have hash' : (idHashes getHash sensors)[i]? = some (getHash input.id) := by
      rw [idHashes_getElem?, there]
      rfl
    exact index_unique distinct hash hash' ▸ reads

/-- A sensor is direct to those it is derived from. -/
private theorem mem_direct_iff {runtimes : List (SensorRuntime V)}
    (inputsFirst : InputsFirst sensors) (distinct : (idHashes getHash sensors).Nodup)
    (length : runtimes.length = sensors.length)
    (runtimeOf : ∀ i runtime, runtimes[i]? = some runtime → RuntimeOf getHash sensors i runtime) :
    j ∈ SensorGeneration.direct runtimes i ↔ Derives sensors i j := by
  rw [SensorGeneration.mem_direct]
  constructor
  · rintro ⟨runtime, found, dependent, reads⟩
    have built := runtimeOf j runtime found
    obtain ⟨enabled, input, there, mem⟩ := (built.mem_inputSlots_iff inputsFirst distinct).mp reads
    rw [built.updateMethod, if_pos enabled] at dependent
    exact ⟨input, _, there, built.sensor, Sensor.isDependent_iff.mpr ⟨enabled, dependent⟩, mem⟩
  · rintro ⟨input, sensor, there, found, dependent, mem⟩
    obtain ⟨enabled, method⟩ := Sensor.isDependent_iff.mp dependent
    have inside : j < runtimes.length := length ▸ (List.getElem?_eq_some_iff.mp found).1
    have built := runtimeOf j _ (List.getElem?_eq_getElem inside)
    obtain rfl := Option.some.inj (found.symm.trans built.sensor)
    refine ⟨_, List.getElem?_eq_getElem inside, ?_, ?_⟩
    · rw [built.updateMethod, if_pos enabled, method]
    · exact (built.mem_inputSlots_iff inputsFirst distinct).mpr ⟨enabled, input, there, mem⟩

/-- Building from sensors in processing order makes a generation. -/
theorem generation_of_build (hashes : frame.sensorIdHashes = idHashes getHash sensors)
    (inputsFirst : InputsFirst sensors) (distinct : (idHashes getHash sensors).Nodup)
    (builds : SensorGeneration.build getHash frame sensors = .ok runtimes) :
    Generation getHash sensors runtimes := by
  rw [SensorGeneration.build] at builds
  cases maps : sensors.mapM (SensorGeneration.buildRuntime getHash frame) with
  | error error =>
    rw [maps] at builds
    cases builds
  | ok unlinked =>
    rw [maps] at builds
    obtain rfl := Except.ok.inj builds
    have each := mapM_eq_ok.mp maps
    have length := each.length_eq.symm
    have runtimeOf : ∀ i runtime, unlinked[i]? = some runtime →
        RuntimeOf getHash sensors i runtime := by
      intro i runtime found
      obtain ⟨inside, rfl⟩ := List.getElem?_eq_some_iff.mp found
      have inside' : i < sensors.length := length ▸ inside
      exact runtimeOf_buildRuntime hashes distinct (List.getElem?_eq_getElem inside')
        ((List.forall₂_iff_get.mp each).2 i inside' inside)
    -- Linking the dependents changes nothing else of a runtime.
    have linked : ∀ i runtime, (SensorGeneration.linkDependents unlinked)[i]? = some runtime →
        ∃ base : SensorRuntime V, unlinked[i]? = some base ∧
          runtime = { base with dependents := SensorGeneration.closure unlinked i } := by
      intro i runtime found
      rw [SensorGeneration.linkDependents, List.getElem?_mapIdx] at found
      obtain ⟨base, there, rfl⟩ := Option.map_eq_some_iff.mp found
      exact ⟨base, there, rfl⟩
    have derives : IsSuccessor (SensorGeneration.direct unlinked) = Derives sensors := by
      funext i j
      exact propext (mem_direct_iff inputsFirst distinct length runtimeOf)
    refine ⟨inputsFirst, distinct, ?_, ?_, ?_, ?_⟩
    · rw [SensorGeneration.linkDependents, List.length_mapIdx, length]
    · intro i runtime found
      obtain ⟨base, there, rfl⟩ := linked i runtime found
      obtain ⟨sensor, method, evaluator, script, inputs⟩ := runtimeOf i base there
      exact ⟨sensor, method, evaluator, script, inputs⟩
    · intro i runtime found
      obtain ⟨base, there, rfl⟩ := linked i runtime found
      exact SensorGeneration.closure_sorted
    · intro i runtime found j
      obtain ⟨base, there, rfl⟩ := linked i runtime found
      rw [← derives]
      exact SensorGeneration.mem_closure

/-- In processing order, the sensors an expression names are in front. -/
theorem lt_of_names (inputsFirst : InputsFirst sensors)
    (distinct : (idHashes getHash sensors).Nodup) {input sensor : Sensor V}
    (there : sensors[i]? = some input) (found : sensors[j]? = some sensor)
    (reads : input.id ∈ sensor.variableNames) : i < j := by
  obtain ⟨k, other, earlier, there', same⟩ := inputsFirst j sensor found input.id reads
  have hash : (idHashes getHash sensors)[i]? = some (getHash input.id) := by
    rw [idHashes_getElem?, there]
    rfl
  have hash' : (idHashes getHash sensors)[k]? = some (getHash input.id) := by
    rw [idHashes_getElem?, there', ← same]
    rfl
  exact index_unique distinct hash hash' ▸ earlier

namespace Generation

/-- A sensor is behind those its expression reads. -/
theorem lt_of_reads (generation : Generation getHash sensors runtimes)
    (found : runtimes[j]? = some runtime) (reads : i ∈ runtime.inputSlots) : i < j := by
  have built := generation.runtimeOf j runtime found
  obtain ⟨-, input, there, mem⟩ :=
    (built.mem_inputSlots_iff generation.inputsFirst generation.distinct).mp reads
  exact lt_of_names generation.inputsFirst generation.distinct there built.sensor mem

/-- A sensor is behind those it is derived from. -/
theorem lt_of_derives (generation : Generation getHash sensors runtimes)
    (derives : Derives sensors i j) : i < j := by
  obtain ⟨input, sensor, there, found, -, reads⟩ := derives
  exact lt_of_names generation.inputsFirst generation.distinct there found reads

end Generation

end RtCore.Sensors
