import RtCore.Can.SignalCodec
import RtCore.Mdf.Records
import RtCore.Sensors.ReadingsFrame
import RtCore.Sensors.SensorValidator

/-!
# The CAN routes of a generation

The sensors that CAN frames update are grouped by bus and frame ID. A frame of a route makes one
reading for each of its sensors: the decoded signal, or the frame itself for a sensor without a
signal.

## Main definitions

* `CanRouteTable.build` — the routes of a generation
* `CanRouteTable.dispatch` — the readings that a frame makes

## Main results

* `CanRouteTable.build_routes` — there is one route for each bus and frame ID that a sensor reads,
  and it has the sensors of its own bus and frame ID
-/

namespace RtCore.Sensors

open RtCore.Can RtCore.Foundation
open RtCore.Mdf (CanFrame)

/-- A runtime of a generation, as far as the route table reads it. -/
structure CanRuntime where
  sensor : ConfiguredSensor
  updateMethod : SensorReadingUpdateMethod
  deriving DecidableEq

/-- A sensor fed by one CAN frame; a raw frame sensor has no signal. The runtime is known by its
position in the generation. -/
structure CanSignalBinding where
  runtime : ℕ
  sensor : ConfiguredSensor
  signal : Option CanSignalConfiguration
  deriving DecidableEq

/-- Every sensor fed by one CAN ID on one bus. -/
structure CanRoute where
  busChannel : UInt8
  frameId : UInt32
  bindings : List CanSignalBinding
  deriving DecidableEq

/-- What a route is found by. -/
def CanRoute.key (route : CanRoute) : UInt8 × UInt32 := (route.busChannel, route.frameId)

/-- Looks a signal up by bus, frame ID and name hash. -/
abbrev SignalResolver := UInt8 → UInt32 → UInt32 → Option CanSignalConfiguration

/-- The signal of an enabled message, as `CanFrameRouter` looks it up. -/
def resolveSignal (getHash : Text → UInt32) (configuration : CanbusConfiguration) :
    SignalResolver := fun busChannel frameId signalNameHash => do
  let (_, channel) ← configuration.channelConfigurations.find? (·.1 = busChannel)
  let message ← channel.messageConfigurations.find? (·.frameId = frameId)
  if !message.isEnabled then none
  else message.signalConfigurations.find? fun signal => getHash signal.name = signalNameHash

namespace CanRouteTable

section Build

variable (getHash : Text → UInt32) (resolveSignal : SignalResolver)

/-- The binding of a runtime and the route it belongs to; none for a sensor that no CAN frame
updates and for one whose signal is not found. -/
def binding? (runtime : CanRuntime) (index : ℕ) : Option ((UInt8 × UInt32) × CanSignalBinding) :=
  let configuration := runtime.sensor.configuration
  let traits := configuration.getTraits
  if !traits.usesCanbus || runtime.updateMethod ≠ .isr then none
  else
    match configuration.canbusSource with
    | none => none
    | some source =>
      let key := (source.busChannel, source.frameId)
      if traits.source = .canSignal then
        match resolveSignal source.busChannel source.frameId (getHash source.signalName) with
        | none => none
        | some signal => some (key, ⟨index, runtime.sensor, some signal⟩)
      else some (key, ⟨index, runtime.sensor, none⟩)

/-- `GetOrAddRoute`, and the binding behind those of the route. -/
def pushBinding (key : UInt8 × UInt32) (binding : CanSignalBinding) : List CanRoute → List CanRoute
  | [] => [⟨key.1, key.2, [binding]⟩]
  | route :: routes =>
    if route.busChannel = key.1 ∧ route.frameId = key.2 then
      { route with bindings := route.bindings ++ [binding] } :: routes
    else route :: pushBinding key binding routes

/-- The body of the loop of `Build`. -/
def addRuntime (routes : List CanRoute) (entry : CanRuntime × ℕ) : List CanRoute :=
  match binding? getHash resolveSignal entry.1 entry.2 with
  | none => routes
  | some (key, binding) => pushBinding key binding routes

/-- `Build`. -/
def build (generation : List CanRuntime) : List CanRoute :=
  generation.zipIdx.foldl (addRuntime getHash resolveSignal) []

end Build

/-! ### What a frame makes -/

/-- A reading with the frame it refers to, if it does. -/
structure CanReading where
  runtime : ℕ
  reading : SensorReading UInt32
  rawValue : Option UInt32 := none
  canFrame : Option CanFrame := none
  deriving DecidableEq

section Dispatch

variable (getHash : Text → UInt32) (physical : CanSignalConfiguration → ℤ → UInt32)

/-- The reading of one sensor. -/
def readFrame (frame : CanFrame) (currentTime : ℤ) (binding : CanSignalBinding) : CanReading :=
  let reading : SensorReading UInt32 :=
    { sensorIdHash := getHash binding.sensor.id
      source := .isr
      timestamp := some currentTime
      status := .raw }
  match binding.signal with
  -- A sensor of the whole frame has no value, its reading carries the frame.
  | none => { runtime := binding.runtime, reading, canFrame := some frame }
  | some signal =>
    match CanSignalCodec.decode physical signal frame.data with
    | some value =>
      { runtime := binding.runtime
        reading := { reading with value := some value }
        rawValue := some value }
    | none => { runtime := binding.runtime, reading := reading.setError .readerFailed }

/-- `Dispatch`: the readings in the order in which the callback is handed them. The callback records
failures on the reading. -/
def dispatch (route : CanRoute) (frame : CanFrame) (currentTime : ℕ → ℤ) : List CanReading :=
  if frame.data = [] then []
  else route.bindings.mapIdx fun i binding =>
    readFrame getHash physical frame (currentTime i) binding

theorem runtime_readFrame (frame : CanFrame) (currentTime : ℤ) (binding : CanSignalBinding) :
    (readFrame getHash physical frame currentTime binding).runtime = binding.runtime := by
  unfold readFrame
  dsimp only
  split
  · rfl
  · split <;> rfl

/-- A frame makes one reading for each sensor of its route. -/
theorem map_runtime_dispatch (route : CanRoute) {frame : CanFrame} (some_data : frame.data ≠ [])
    (currentTime : ℕ → ℤ) :
    (dispatch getHash physical route frame currentTime).map CanReading.runtime =
      route.bindings.map CanSignalBinding.runtime := by
  rw [dispatch, if_neg some_data]
  ext1 i
  rw [List.getElem?_map, List.getElem?_mapIdx, List.getElem?_map, Option.map_map]
  congr 1
  ext1 binding
  exact runtime_readFrame getHash physical frame _ binding

end Dispatch

/-! ### The routes -/

/-- Routes with different keys that have the bindings wanted at their keys, and are not missing
where some are. -/
structure Holds (routes : List CanRoute) (wanted : UInt8 × UInt32 → List CanSignalBinding) :
    Prop where
  nodup : (routes.map CanRoute.key).Nodup
  bindings : ∀ route ∈ routes, route.bindings = wanted route.key
  present : ∀ key, wanted key ≠ [] → key ∈ routes.map CanRoute.key
  used : ∀ route ∈ routes, route.bindings ≠ []

variable {routes : List CanRoute} {wanted : UInt8 × UInt32 → List CanSignalBinding}
  {key : UInt8 × UInt32} {binding : CanSignalBinding}

private theorem matches_iff {route : CanRoute} :
    (route.busChannel = key.1 ∧ route.frameId = key.2) ↔ route.key = key := by
  rw [CanRoute.key, Prod.ext_iff]

/-- A push changes the route with its key only, or adds it. -/
theorem mem_pushBinding {route : CanRoute} (nodup : (routes.map CanRoute.key).Nodup) :
    route ∈ pushBinding key binding routes →
      route ∈ routes ∧ route.key ≠ key ∨
        route.key = key ∧ ((∃ before ∈ routes, before.key = key ∧
          route.bindings = before.bindings ++ [binding]) ∨
          key ∉ routes.map CanRoute.key ∧ route.bindings = [binding]) := by
  induction routes with
  | nil =>
    intro member
    rw [pushBinding, List.mem_singleton] at member
    rw [member]
    exact .inr ⟨rfl, .inr ⟨List.not_mem_nil, rfl⟩⟩
  | cons first routes ih =>
    intro member
    obtain ⟨fresh, nodup'⟩ := List.nodup_cons.mp nodup
    rw [pushBinding] at member
    split at member
    case isTrue found =>
      have same := matches_iff.mp found
      rcases List.mem_cons.mp member with rfl | later
      · exact .inr ⟨same, .inl ⟨first, List.mem_cons_self, same, rfl⟩⟩
      · refine .inl ⟨List.mem_cons_of_mem _ later, fun clash => fresh ?_⟩
        rw [same, ← clash]
        exact List.mem_map_of_mem later
    case isFalse other =>
      have different : first.key ≠ key := fun same => other (matches_iff.mpr same)
      rcases List.mem_cons.mp member with rfl | later
      · exact .inl ⟨List.mem_cons_self, different⟩
      · rcases ih nodup' later with ⟨there, unlike⟩ | ⟨same, ⟨before, there, key', extended⟩ |
          ⟨absent, alone⟩⟩
        · exact .inl ⟨List.mem_cons_of_mem _ there, unlike⟩
        · exact .inr ⟨same, .inl ⟨before, List.mem_cons_of_mem _ there, key', extended⟩⟩
        · refine .inr ⟨same, .inr ⟨?_, alone⟩⟩
          rw [List.map_cons, List.mem_cons, not_or]
          exact ⟨different.symm, absent⟩

theorem map_key_pushBinding (routes : List CanRoute) :
    (pushBinding key binding routes).map CanRoute.key =
      if key ∈ routes.map CanRoute.key then routes.map CanRoute.key
      else routes.map CanRoute.key ++ [key] := by
  induction routes with
  | nil => rfl
  | cons first routes ih =>
    rw [pushBinding]
    split
    case isTrue found =>
      have same := matches_iff.mp found
      rw [if_pos (by rw [List.map_cons, same]; exact List.mem_cons_self)]
      rfl
    case isFalse other =>
      have different : first.key ≠ key := fun same => other (matches_iff.mpr same)
      have tail : key ∈ (first :: routes).map CanRoute.key ↔ key ∈ routes.map CanRoute.key := by
        rw [List.map_cons, List.mem_cons, or_iff_right different.symm]
      rw [List.map_cons, ih]
      by_cases there : key ∈ routes.map CanRoute.key
      · rw [if_pos there, if_pos (tail.mpr there), List.map_cons]
      · rw [if_neg there, if_neg (mt tail.mp there), List.map_cons, List.cons_append]

/-- A push adds the binding to those wanted at its key. -/
theorem Holds.push (holds : Holds routes wanted) (key : UInt8 × UInt32)
    (binding : CanSignalBinding) :
    Holds (pushBinding key binding routes)
      fun other => wanted other ++ if other = key then [binding] else [] := by
  have keys : (pushBinding key binding routes).map CanRoute.key = _ :=
    map_key_pushBinding routes
  have absent_wanted : key ∉ routes.map CanRoute.key → wanted key = [] := fun absent =>
    not_not.mp fun some_wanted => absent (holds.present key some_wanted)
  refine ⟨?_, fun route member => ?_, fun other some_wanted => ?_, fun route member => ?_⟩
  · rw [keys]
    split
    case isTrue => exact holds.nodup
    case isFalse absent =>
      rw [List.nodup_append_comm, List.singleton_append, List.nodup_cons]
      exact ⟨absent, holds.nodup⟩
  · rcases mem_pushBinding holds.nodup member with ⟨there, different⟩ | ⟨same, outcome⟩
    · rw [if_neg different, List.append_nil, holds.bindings route there]
    · rw [if_pos same, same]
      rcases outcome with ⟨before, there, key', extended⟩ | ⟨absent, alone⟩
      · rw [extended, holds.bindings before there, key']
      · rw [alone, absent_wanted absent, List.nil_append]
  · rw [keys]
    by_cases same : other = key
    · rw [same]
      split
      · assumption
      · exact List.mem_append_right _ (List.mem_singleton.mpr rfl)
    · rw [if_neg same, List.append_nil] at some_wanted
      have there := holds.present other some_wanted
      split
      · exact there
      · exact List.mem_append_left _ there
  · rcases mem_pushBinding holds.nodup member with ⟨there, -⟩ | ⟨-, outcome⟩
    · exact holds.used route there
    · rcases outcome with ⟨before, -, -, extended⟩ | ⟨-, alone⟩
      · rw [extended]
        exact List.append_ne_nil_of_right_ne_nil _ (List.cons_ne_nil _ _)
      · rw [alone]
        exact List.cons_ne_nil _ _

section Build

variable (getHash : Text → UInt32) (resolveSignal : SignalResolver)

/-- The binding of a runtime, if it belongs to this bus and frame ID. -/
def bindingAt (key : UInt8 × UInt32) (entry : CanRuntime × ℕ) : Option CanSignalBinding :=
  match binding? getHash resolveSignal entry.1 entry.2 with
  | none => none
  | some (own, binding) => if key = own then some binding else none

/-- The loop of `Build`, from routes that hold the bindings of the runtimes before. -/
theorem holds_foldl (entries before : List (CanRuntime × ℕ))
    (holds : Holds routes fun key => before.filterMap (bindingAt getHash resolveSignal key)) :
    Holds (entries.foldl (addRuntime getHash resolveSignal) routes)
      fun key => (before ++ entries).filterMap (bindingAt getHash resolveSignal key) := by
  induction entries generalizing routes before with
  | nil =>
    rw [List.append_nil]
    exact holds
  | cons entry entries ih =>
    rw [List.foldl_cons, List.append_cons]
    apply ih
    simp only [List.filterMap_append]
    cases found : binding? getHash resolveSignal entry.1 entry.2 with
    | none =>
      have nothing : ∀ key, [entry].filterMap (bindingAt getHash resolveSignal key) = [] := by
        intro key
        simp [bindingAt, found]
      have same : addRuntime getHash resolveSignal routes entry = routes := by
        simp [addRuntime, found]
      simp only [nothing, List.append_nil, same]
      exact holds
    | some target =>
      obtain ⟨own, binding⟩ := target
      have one : ∀ key, [entry].filterMap (bindingAt getHash resolveSignal key) =
          if key = own then [binding] else [] := by
        intro key
        by_cases same : key = own <;> simp [bindingAt, found, same]
      have same : addRuntime getHash resolveSignal routes entry =
          pushBinding own binding routes := by
        simp [addRuntime, found]
      simp only [one, same]
      exact holds.push own binding

/-- There is one route for each bus and frame ID. It has a sensor, and its sensors are those of its
own bus and frame ID, each once and in the order of the generation. A sensor that CAN frames update
and whose signal is found is on a route. -/
theorem build_routes (generation : List CanRuntime) :
    let routes := build getHash resolveSignal generation
    (routes.map CanRoute.key).Nodup ∧
      (∀ route ∈ routes, route.bindings ≠ [] ∧
        route.bindings = generation.zipIdx.filterMap
          (bindingAt getHash resolveSignal route.key)) ∧
      ∀ entry ∈ generation.zipIdx, ∀ key binding,
        binding? getHash resolveSignal entry.1 entry.2 = some (key, binding) →
          ∃ route ∈ routes, route.key = key ∧ binding ∈ route.bindings := by
  intro routes
  have none_held : Holds [] fun key =>
      ([] : List (CanRuntime × ℕ)).filterMap (bindingAt getHash resolveSignal key) :=
    ⟨List.nodup_nil, nofun, fun _ wanted => absurd rfl wanted, nofun⟩
  have holds := holds_foldl getHash resolveSignal generation.zipIdx [] none_held
  refine ⟨holds.nodup, fun route member => ⟨holds.used route member, holds.bindings route member⟩,
    fun entry member key binding found => ?_⟩
  have wanted : binding ∈ generation.zipIdx.filterMap (bindingAt getHash resolveSignal key) :=
    List.mem_filterMap.mpr ⟨entry, member, by simp [bindingAt, found]⟩
  obtain ⟨route, there, same⟩ :=
    List.mem_map.mp (holds.present key (List.ne_nil_of_mem wanted))
  refine ⟨route, there, same, ?_⟩
  rw [holds.bindings route there, same]
  exact wanted

end Build

end CanRouteTable

end RtCore.Sensors
