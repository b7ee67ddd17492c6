import RtCore.Foundation.Checks
import RtCore.Sensors.ProcessingOrder

/-!
# When there is a processing order

`GetProcessingOrder` walks the sensors twice: a first search looks for a sensor that was not added
and for cycles, a second one relies on the first and puts the order together. Both recurse over the
sensors they have opened, which are distinct, so neither goes deeper than there are sensors.

## Main definitions

* `ReadsMissing`, `ReadsInCircle` — what a list of sensors must not do
* `SensorsOrderResolver.CheckOutcome` — what the check of one sensor can come to

## Main results

* `SensorsOrderResolver.getProcessingOrder_decides` — the resolver throws exactly for sensors that
  read a missing one or each other in a circle, and orders all others
-/

namespace RtCore.Sensors

open RtCore.Foundation

variable {V : Type}

/-- A sensor of the list reads one that is not in it. -/
def ReadsMissing (sensors : List (Sensor V)) : Prop :=
  ∃ sensor ∈ sensors, ∃ name ∈ sensor.variableNames, name ∉ sensors.map Sensor.id

/-- One sensor's expression reads another; both are known by their IDs. -/
def Reads (sensors : List (Sensor V)) (reader input : String) : Prop :=
  ∃ sensor ∈ sensors, sensor.id = reader ∧ input ∈ sensor.variableNames

/-- A sensor reads itself, directly or through others. -/
def ReadsInCircle (sensors : List (Sensor V)) : Prop :=
  ∃ sensorId, Relation.TransGen (Reads sensors) sensorId sensorId

namespace SensorsOrderResolver

variable {resolver : SensorsOrderResolver V}

/-- The keys of both maps. -/
def ids (resolver : SensorsOrderResolver V) : List String := resolver.entries.map ResolverEntry.id

theorem mem_ids {sensorId : String} :
    sensorId ∈ resolver.ids ↔ ∃ entry ∈ resolver.entries, entry.id = sensorId :=
  List.mem_map

theorem find?_eq_none {sensorId : String} :
    resolver.find? sensorId = none ↔ sensorId ∉ resolver.ids := by
  rw [find?, List.find?_eq_none, mem_ids]
  simp

theorem exists_lookup {sensorId : String} (member : sensorId ∈ resolver.ids) :
    ∃ entry, resolver.lookup sensorId = .ok entry := by
  rw [lookup]
  cases found : resolver.find? sensorId with
  | none => exact absurd member (find?_eq_none.mp found)
  | some entry => exact ⟨entry, rfl⟩

theorem dependsOn_of_mem {entry : ResolverEntry V} (member : entry ∈ resolver.entries)
    {dependency : String} (reads : dependency ∈ entry.dependencies) :
    resolver.DependsOn entry.id dependency :=
  ⟨entry, member, rfl, reads⟩

/-- Distinct sensors are no more than there are. -/
theorem length_le_of_nodup {opened : List String} (distinct : opened.Nodup)
    (added : ∀ sensorId ∈ opened, sensorId ∈ resolver.ids) :
    opened.length ≤ resolver.ids.length :=
  (List.subperm_of_subset distinct added).length_le

/-! ### The search for cycles -/

/-- What the check of a sensor can come to: no cycle, with the sensors in progress as they were; a
cycle that exists; a dependency that is missing. -/
def CheckOutcome (resolver : SensorsOrderResolver V) (marks : Marks) :
    Except OrderError (Bool × Marks) → Prop
  | .ok (false, after) => after.temp = marks.temp ∧
      ((∀ sensorId ∈ marks.visited, sensorId ∈ resolver.ids) →
        ∀ sensorId ∈ after.visited, sensorId ∈ resolver.ids)
  | .ok (true, _) => ∃ sensorId, Relation.TransGen resolver.DependsOn sensorId sensorId
  | .error (.nonExistentSensor sensorId dependency) =>
    resolver.DependsOn sensorId dependency ∧ dependency ∉ resolver.ids
  | .error _ => False

/-- An error says the same wherever it comes up. -/
private theorem CheckOutcome.of_error {marks : Marks} {error : OrderError}
    (outcome : resolver.CheckOutcome marks (.error error)) (start : Marks) :
    resolver.CheckOutcome start (.error error) := by
  cases error with
  | nonExistentSensor sensorId dependency => exact outcome
  | cyclicDependency sensorId => exact outcome
  | outOfRange sensorId => exact outcome
  | tooDeep => exact outcome

/-- The sensors in progress are distinct and were added, each depends on the sensor that is checked,
and the depth that is left covers all others. -/
structure InProgress (resolver : SensorsOrderResolver V) (depth : ℕ) (sensorId : String)
    (temp : List String) : Prop where
  distinct : temp.Nodup
  added : ∀ other ∈ temp, other ∈ resolver.ids
  leads : ∀ other ∈ temp, Relation.TransGen resolver.DependsOn other sensorId
  deep : resolver.ids.length < depth + temp.length

/-- Once a cycle is found, the loop over the dependencies does nothing more. -/
private theorem foldlM_of_cyclic {check : Bool × Marks → String → Except OrderError (Bool × Marks)}
    (stops : ∀ marks dependency, check (true, marks) dependency = .ok (true, marks))
    (dependencies : List String) (marks : Marks) :
    dependencies.foldlM check (true, marks) = .ok (true, marks) := by
  induction dependencies with
  | nil => rfl
  | cons dependency dependencies ih =>
    rw [List.foldlM_cons, stops]
    exact ih

/-- The loop over the dependencies comes to what the checks of them come to. -/
private theorem foldlM_outcome {check : Bool × Marks → String → Except OrderError (Bool × Marks)}
    (stops : ∀ marks dependency, check (true, marks) dependency = .ok (true, marks))
    {dependencies : List String} {start marks : Marks} (same : marks.temp = start.temp)
    (inside : (∀ sensorId ∈ start.visited, sensorId ∈ resolver.ids) →
      ∀ sensorId ∈ marks.visited, sensorId ∈ resolver.ids)
    (outcome : ∀ dependency ∈ dependencies, ∀ marks : Marks, marks.temp = start.temp →
      resolver.CheckOutcome marks (check (false, marks) dependency)) :
    resolver.CheckOutcome start (dependencies.foldlM check (false, marks)) := by
  induction dependencies generalizing marks with
  | nil => exact ⟨same, inside⟩
  | cons dependency dependencies ih =>
    have first := outcome dependency List.mem_cons_self marks same
    have others := fun other member => outcome other (List.mem_cons_of_mem dependency member)
    rw [List.foldlM_cons]
    cases result : check (false, marks) dependency with
    | error error =>
      rw [result] at first
      exact first.of_error start
    | ok found =>
      obtain ⟨isCyclic, after⟩ := found
      rw [result] at first
      cases isCyclic with
      | true =>
        show resolver.CheckOutcome start (dependencies.foldlM check (true, after))
        rw [foldlM_of_cyclic stops]
        exact first
      | false =>
        obtain ⟨restored, added⟩ := first
        exact ih (restored.trans same) (fun all => added (inside all)) others

/-- The check of a sensor that was added, with enough depth. -/
theorem hasCyclicDependency_outcome (depth : ℕ) : ∀ (sensorId : String) (marks : Marks),
    sensorId ∈ resolver.ids → resolver.InProgress depth sensorId marks.temp →
    resolver.CheckOutcome marks (resolver.hasCyclicDependency depth sensorId marks) := by
  -- On the depth that is left: the sensors in progress are distinct and were added, so there are
  -- never more of them than sensors.
  induction depth with
  | zero =>
    intro sensorId marks _ progress
    have bound := length_le_of_nodup progress.distinct progress.added
    have deep := progress.deep
    omega
  | succ depth ih =>
    intro sensorId marks member progress
    rw [hasCyclicDependency]
    by_cases isOpen : sensorId ∈ marks.temp
    · rw [if_pos isOpen]
      exact ⟨sensorId, progress.leads sensorId isOpen⟩
    by_cases visited : sensorId ∈ marks.visited
    · rw [if_neg isOpen, if_pos visited]
      exact ⟨rfl, fun added => added⟩
    rw [if_neg isOpen, if_neg visited]
    obtain ⟨entry, found⟩ := exists_lookup member
    obtain ⟨mem, rfl⟩ := lookup_eq_ok found
    rw [found]
    let opened : Marks := { marks with temp := entry.id :: marks.temp }
    let check : Bool × Marks → String → Except OrderError (Bool × Marks) :=
      fun state dependency =>
        if state.1 then .ok (true, state.2)
        else if (resolver.find? dependency).isNone then
          .error (.nonExistentSensor entry.id dependency)
        else resolver.hasCyclicDependency depth dependency state.2
    have loop : resolver.CheckOutcome opened (entry.dependencies.foldlM check (false, opened)) := by
      apply foldlM_outcome (fun _ _ => rfl) rfl fun added => added
      intro dependency reads inside same
      have edge := dependsOn_of_mem mem reads
      simp only [check, Bool.false_eq_true, if_false, Option.isNone_iff_eq_none]
      by_cases missing : resolver.find? dependency = none
      · rw [if_pos missing]
        exact ⟨edge, find?_eq_none.mp missing⟩
      · rw [if_neg missing]
        apply ih dependency inside (not_not.mp fun absent => missing (find?_eq_none.mpr absent))
        rw [same]
        refine ⟨List.nodup_cons.mpr ⟨isOpen, progress.distinct⟩, ?_, ?_, ?_⟩
        · intro other opened
          rcases List.mem_cons.mp opened with rfl | opened
          · exact member
          · exact progress.added other opened
        · intro other opened
          rcases List.mem_cons.mp opened with rfl | opened
          · exact .single edge
          · exact (progress.leads other opened).tail edge
        · have deep := progress.deep
          rw [List.length_cons]
          omega
    show resolver.CheckOutcome marks ((entry.dependencies.foldlM check (false, opened)) >>= _)
    cases result : entry.dependencies.foldlM check (false, opened) with
    | error error =>
      rw [result] at loop
      exact loop.of_error marks
    | ok found =>
      obtain ⟨isCyclic, after⟩ := found
      rw [result] at loop
      cases isCyclic with
      | true => exact loop
      | false =>
        obtain ⟨restored, added⟩ := loop
        constructor
        · show after.temp.erase entry.id = marks.temp
          rw [restored, List.erase_cons_head]
        · intro all other checked
          rcases List.mem_cons.mp checked with rfl | checked
          · exact member
          · exact added all other checked

/-- What the first loop of `GetProcessingOrder` comes to. -/
private theorem checkCycles_outcome {sensorIds : List String}
    (added : ∀ sensorId ∈ sensorIds, sensorId ∈ resolver.ids) {marks : Marks}
    (idle : marks.temp = []) (inside : ∀ sensorId ∈ marks.visited, sensorId ∈ resolver.ids) :
    match resolver.checkCycles resolver.maxDepth marks sensorIds with
    | .ok after => ∀ sensorId ∈ after.visited, sensorId ∈ resolver.ids
    | .error error => error ≠ .tooDeep ∧
        ((∃ sensorId dependency, resolver.DependsOn sensorId dependency ∧
          dependency ∉ resolver.ids) ∨
          ∃ sensorId, Relation.TransGen resolver.DependsOn sensorId sensorId) := by
  unfold checkCycles
  -- On the sensors of the loop: between two checks no sensor is in progress.
  induction sensorIds generalizing marks with
  | nil => exact inside
  | cons sensorId sensorIds ih =>
    have others := fun other member => added other (List.mem_cons_of_mem sensorId member)
    rw [List.foldlM_cons]
    by_cases visited : sensorId ∈ marks.visited
    · rw [if_pos visited]
      exact ih others idle inside
    rw [if_neg visited]
    have progress : resolver.InProgress resolver.maxDepth sensorId marks.temp := by
      rw [idle]
      refine ⟨List.nodup_nil, nofun, nofun, ?_⟩
      rw [maxDepth, ids, List.length_map]
      exact Nat.lt_succ_self _
    have outcome := hasCyclicDependency_outcome resolver.maxDepth sensorId marks
      (added sensorId List.mem_cons_self) progress
    cases result : resolver.hasCyclicDependency resolver.maxDepth sensorId marks with
    | error error =>
      rw [result] at outcome
      cases error with
      | nonExistentSensor sensorId dependency =>
        exact ⟨nofun, .inl ⟨sensorId, dependency, outcome⟩⟩
      | cyclicDependency sensorId => exact outcome.elim
      | outOfRange sensorId => exact outcome.elim
      | tooDeep => exact outcome.elim
    | ok found =>
      obtain ⟨isCyclic, after⟩ := found
      rw [result] at outcome
      cases isCyclic with
      | true => exact ⟨nofun, .inr outcome⟩
      | false => exact ih others (outcome.1.trans idle) (outcome.2 inside)

/-- The first loop of `GetProcessingOrder` starts with nothing visited. -/
private theorem checkCycles_idle (resolver : SensorsOrderResolver V) :
    match resolver.checkCycles resolver.maxDepth ⟨[], []⟩ resolver.ids with
    | .ok after => ∀ sensorId ∈ after.visited, sensorId ∈ resolver.ids
    | .error error => error ≠ .tooDeep ∧
        ((∃ sensorId dependency, resolver.DependsOn sensorId dependency ∧
          dependency ∉ resolver.ids) ∨
          ∃ sensorId, Relation.TransGen resolver.DependsOn sensorId sensorId) :=
  checkCycles_outcome (fun _ member => member) rfl nofun

/-! ### Putting the order together -/

/-- The sensors a walk has visited are distinct and were added. -/
structure Visits (resolver : SensorsOrderResolver V) (resolution : Resolution V) : Prop where
  distinct : resolution.visited.Nodup
  added : ∀ sensorId ∈ resolution.visited, sensorId ∈ resolver.ids

/-- A walk over a list gets through when it gets through each element. -/
private theorem foldlM_completes {depth : ℕ}
    {walk : Resolution V → String → Except OrderError (Resolution V)} {sensorIds : List String}
    (each : ∀ sensorId ∈ sensorIds, ∀ resolution, resolver.Visits resolution →
      resolver.ids.length < depth + resolution.visited.length →
      ∃ after, walk resolution sensorId = .ok after ∧ resolver.Visits after ∧
        resolution.visited.length ≤ after.visited.length)
    {resolution : Resolution V} (visits : resolver.Visits resolution)
    (deep : resolver.ids.length < depth + resolution.visited.length) :
    ∃ after, sensorIds.foldlM walk resolution = .ok after ∧ resolver.Visits after ∧
      resolution.visited.length ≤ after.visited.length := by
  induction sensorIds generalizing resolution with
  | nil => exact ⟨resolution, rfl, visits, Nat.le_refl _⟩
  | cons sensorId sensorIds ih =>
    have others := fun other member => each other (List.mem_cons_of_mem sensorId member)
    obtain ⟨middle, first, visits', grows⟩ := each sensorId List.mem_cons_self _ visits deep
    obtain ⟨after, rest, visits'', grows'⟩ := ih others visits' (by omega)
    refine ⟨after, ?_, visits'', Nat.le_trans grows grows'⟩
    rw [List.foldlM_cons, first]
    exact rest

/-- Where every dependency was added, the second search gets through: the depth that is left covers
the sensors it has not visited. -/
private theorem resolveDependencies_completes
    (closed : ∀ sensorId dependency, resolver.DependsOn sensorId dependency →
      dependency ∈ resolver.ids) (depth : ℕ) :
    ∀ sensorId ∈ resolver.ids, ∀ resolution : Resolution V, resolver.Visits resolution →
      resolver.ids.length < depth + resolution.visited.length →
      ∃ after, resolver.resolveDependencies depth sensorId resolution = .ok after ∧
        resolver.Visits after ∧ resolution.visited.length ≤ after.visited.length := by
  induction depth with
  | zero =>
    intro sensorId _ resolution visits deep
    have bound := length_le_of_nodup visits.distinct visits.added
    omega
  | succ depth ih =>
    intro sensorId member resolution visits deep
    rw [resolveDependencies]
    by_cases visited : sensorId ∈ resolution.visited
    · rw [if_pos visited]
      exact ⟨resolution, rfl, visits, Nat.le_refl _⟩
    rw [if_neg visited]
    obtain ⟨entry, found⟩ := exists_lookup member
    obtain ⟨mem, rfl⟩ := lookup_eq_ok found
    rw [found]
    have opened : resolver.Visits
        { resolution with visited := entry.id :: resolution.visited } := by
      refine ⟨List.nodup_cons.mpr ⟨visited, visits.distinct⟩, ?_⟩
      intro other opened
      rcases List.mem_cons.mp opened with rfl | opened
      · exact member
      · exact visits.added other opened
    have dependencies := fun dependency (reads : dependency ∈ entry.dependencies) =>
      ih dependency (closed entry.id dependency (dependsOn_of_mem mem reads))
    obtain ⟨after, walks, visits', grows⟩ := foldlM_completes dependencies opened
      (by rw [List.length_cons]; omega)
    refine ⟨{ after with ordered := after.ordered ++ [entry] }, ?_, ⟨visits'.1, visits'.2⟩, ?_⟩
    · exact bind_eq_ok.mpr ⟨entry, rfl, bind_eq_ok.mpr ⟨after, walks, rfl⟩⟩
    · exact Nat.le_trans (Nat.le_succ _) grows

/-! ### The decision -/

/-- A check that gets through leaves no dependency missing: all it has visited was added. -/
private theorem closed_of_checkCycles (distinct : resolver.ids.Nodup) {after : Marks}
    (checks : resolver.checkCycles resolver.maxDepth ⟨[], []⟩ resolver.ids = .ok after)
    {sensorId dependency : String} (reads : resolver.DependsOn sensorId dependency) :
    dependency ∈ resolver.ids := by
  have inside := checkCycles_idle resolver
  rw [checks] at inside
  have settles := checkCycles_spec distinct checks
  have checked : sensorId ∈ after.visited := by
    obtain ⟨entry, member, same, -⟩ := reads
    exact settles.done sensorId (mem_ids.mpr ⟨entry, member, same⟩)
  exact inside dependency ((settles.settled trivial).closed checked (.single reads))

/-- The resolver gives an order exactly where no dependency is missing and none is circular. -/
private theorem exists_getProcessingOrder_iff (distinct : resolver.ids.Nodup) :
    (∃ ordered, resolver.getProcessingOrder = .ok ordered) ↔
      (∀ sensorId dependency, resolver.DependsOn sensorId dependency →
        dependency ∈ resolver.ids) ∧ resolver.Acyclic := by
  constructor
  · rintro ⟨ordered, resolves⟩
    obtain ⟨marks, checks, -⟩ := bind_eq_ok.mp resolves
    exact ⟨fun _ _ reads => closed_of_checkCycles distinct checks reads,
      acyclic_of_getProcessingOrder distinct resolves⟩
  · rintro ⟨closed, acyclic⟩
    have outcome := checkCycles_idle resolver
    cases checks : resolver.checkCycles resolver.maxDepth ⟨[], []⟩ resolver.ids with
    | error error =>
      rw [checks] at outcome
      rcases outcome.2 with ⟨sensorId, dependency, reads, missing⟩ | ⟨sensorId, cyclic⟩
      · exact absurd (closed sensorId dependency reads) missing
      · exact absurd cyclic (acyclic sensorId)
    | ok marks =>
      have idle : resolver.Visits (⟨[], []⟩ : Resolution V) := ⟨List.nodup_nil, nofun⟩
      have deep : resolver.ids.length < resolver.maxDepth + 0 := by
        rw [maxDepth, ids, List.length_map]
        exact Nat.lt_succ_self _
      obtain ⟨resolution, walks, -, -⟩ :=
        foldlM_completes (resolveDependencies_completes closed resolver.maxDepth) idle deep
      refine ⟨resolution.ordered.map ResolverEntry.sensor, ?_⟩
      exact bind_eq_ok.mpr ⟨marks, checks, bind_eq_ok.mpr ⟨resolution, walks, rfl⟩⟩

/-- No search goes deeper than the model. -/
private theorem getProcessingOrder_ne_tooDeep (distinct : resolver.ids.Nodup) :
    resolver.getProcessingOrder ≠ .error .tooDeep := by
  intro tooDeep
  have outcome := checkCycles_idle resolver
  cases checks : resolver.checkCycles resolver.maxDepth ⟨[], []⟩ resolver.ids with
  | error error =>
    rw [checks] at outcome
    have same : resolver.getProcessingOrder = .error error := by
      show (resolver.checkCycles resolver.maxDepth ⟨[], []⟩ resolver.ids >>= _) = _
      rw [checks]
      rfl
    rw [same] at tooDeep
    exact outcome.1 (Except.error.inj tooDeep)
  | ok marks =>
    -- The check got through, and with it the second search does.
    have settles := checkCycles_spec distinct checks
    have acyclic : resolver.Acyclic := by
      intro sensorId cyclic
      rcases Relation.TransGen.head'_iff.mp cyclic with ⟨_, ⟨entry, member, same, -⟩, -⟩
      exact (settles.settled trivial).acyclic
        (settles.done sensorId (mem_ids.mpr ⟨entry, member, same⟩)) cyclic
    obtain ⟨ordered, resolves⟩ := (exists_getProcessingOrder_iff distinct).mpr
      ⟨fun _ _ reads => closed_of_checkCycles distinct checks reads, acyclic⟩
    rw [resolves] at tooDeep
    cases tooDeep

namespace Added

variable {sensors : List (Sensor V)}

/-- The resolver's keys are the sensors' IDs. -/
theorem mem_ids (added : resolver.Added sensors) {sensorId : String} :
    sensorId ∈ resolver.ids ↔ sensorId ∈ sensors.map Sensor.id := by
  have keys : resolver.ids = (resolver.entries.map ResolverEntry.sensor).map Sensor.id :=
    (List.map_map ..).symm
  rw [keys]
  exact (added.perm.map Sensor.id).mem_iff

/-- The resolver's dependencies are what the sensors' expressions read. -/
theorem dependsOn_eq (added : resolver.Added sensors) : resolver.DependsOn = Reads sensors := by
  funext reader input
  apply propext
  constructor
  · rintro ⟨entry, member, same, reads⟩
    exact ⟨entry.sensor, added.perm.mem_iff.mp (List.mem_map_of_mem member), same,
      (added.dependencies entry member input).mp reads⟩
  · rintro ⟨sensor, member, same, reads⟩
    obtain ⟨entry, there, rfl⟩ := List.mem_map.mp (added.perm.mem_iff.mpr member)
    exact ⟨entry, there, same, (added.dependencies entry there input).mpr reads⟩

theorem closed_iff (added : resolver.Added sensors) :
    (∀ sensorId dependency, resolver.DependsOn sensorId dependency → dependency ∈ resolver.ids) ↔
      ¬ReadsMissing sensors := by
  rw [added.dependsOn_eq]
  constructor
  · rintro closed ⟨sensor, member, name, reads, missing⟩
    exact missing (added.mem_ids.mp (closed sensor.id name ⟨sensor, member, rfl, reads⟩))
  · rintro complete sensorId dependency ⟨sensor, member, -, reads⟩
    by_contra missing
    exact complete ⟨sensor, member, dependency, reads, fun there =>
      missing (added.mem_ids.mpr there)⟩

theorem acyclic_iff (added : resolver.Added sensors) :
    resolver.Acyclic ↔ ¬ReadsInCircle sensors := by
  rw [Acyclic, added.dependsOn_eq, ReadsInCircle]
  exact not_exists.symm

end Added

/-- The resolver throws exactly where a sensor reads one that was not added or sensors read each
other in a circle. Otherwise its order has every sensor once, behind the sensors it reads, whatever
order its maps and sets are enumerated in. -/
theorem getProcessingOrder_decides {sensors : List (Sensor V)} (added : resolver.Added sensors)
    (distinct : (sensors.map Sensor.id).Nodup) :
    ((∃ error, resolver.getProcessingOrder = .error error) ↔
      ReadsMissing sensors ∨ ReadsInCircle sensors) ∧
    resolver.getProcessingOrder ≠ .error .tooDeep ∧
    ∀ ordered, resolver.getProcessingOrder = .ok ordered →
      ordered.Perm sensors ∧ InputsFirst ordered := by
  have distinctIds := added.nodup_ids distinct
  refine ⟨?_, getProcessingOrder_ne_tooDeep distinctIds, fun ordered resolves =>
    getProcessingOrder_spec added distinct (acyclic_of_getProcessingOrder distinctIds resolves)
      resolves⟩
  have orders := exists_getProcessingOrder_iff distinctIds
  rw [added.closed_iff, added.acyclic_iff, ← not_or] at orders
  rw [← not_iff_not, ← orders]
  cases resolver.getProcessingOrder with
  | error error => simp
  | ok ordered => simp

/-- A sensor whose expression reads the named ones. -/
private def reader (id : String) (variableNames : List String) : Sensor Bool where
  id
  isEnabled := true
  type := .virtualIndicator
  samplingRateMs := none
  expression := some { variableNames, evaluate := fun _ input => input }
  postProcess := none
  debounceMs := 0
  inputMode := .level

/-- Two sensors that read each other have no order. -/
theorem getProcessingOrder_decides_circle :
    let sensors := [reader "left" ["right"], reader "right" ["left"]]
    ∃ error, (sensors.foldl addSensor ⟨[]⟩).getProcessingOrder = .error error := by
  intro sensors
  have distinct : (sensors.map Sensor.id).Nodup := by decide
  have decides := getProcessingOrder_decides (added_addSensors distinct) distinct
  have leftReads : Reads sensors "left" "right" :=
    ⟨reader "left" ["right"], List.mem_cons_self, rfl, List.mem_cons_self⟩
  have rightReads : Reads sensors "right" "left" :=
    ⟨reader "right" ["left"], List.mem_cons_of_mem _ List.mem_cons_self, rfl, List.mem_cons_self⟩
  exact decides.1.mpr (.inr ⟨"left", (Relation.TransGen.single leftReads).tail rightReads⟩)

end SensorsOrderResolver

end RtCore.Sensors
