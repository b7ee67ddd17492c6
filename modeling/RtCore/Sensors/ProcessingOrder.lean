import Mathlib.Data.List.Dedup
import Mathlib.Data.List.Induction
import Mathlib.Data.List.Perm.Basic
import Mathlib.Logic.Relation
import RtCore.Foundation.Checks
import RtCore.Sensors.Configuration

/-!
# The processing order of sensors

`SensorsOrderResolver` puts sensors behind those their expressions read, by a
depth-first walk that appends a sensor once its dependencies are done. The recursion is
over a depth that the number of sensors bounds.

## Main definitions

* `SensorsOrderResolver.getProcessingOrder`
* `InputsFirst` — every sensor of a list is behind the sensors it reads

## Main results

* `SensorsOrderResolver.added_addSensors` — what adding the sensors leaves
* `SensorsOrderResolver.acyclic_of_getProcessingOrder` — sensors that have an order have no cycle
* `SensorsOrderResolver.getProcessingOrder_spec` — without cycles, the order has every
  sensor once, behind the sensors it reads
-/

namespace RtCore.Sensors

variable {V : Type}

/-- A sensor with the set of sensors its expression reads, in the order the set is
enumerated. -/
structure ResolverEntry (V : Type) where
  sensor : Sensor V
  dependencies : List String

/-- The ID of the entry's sensor. -/
def ResolverEntry.id (entry : ResolverEntry V) : String := entry.sensor.id

/-- The maps `sensors_` and `dependencies_`, which have the same keys, in the order
`sensors_` is enumerated. -/
structure SensorsOrderResolver (V : Type) where
  entries : List (ResolverEntry V)

/-- What `GetProcessingOrder` throws. -/
inductive OrderError
  | nonExistentSensor (sensorId dependency : String)
  | cyclicDependency (sensorId : String)
  /-- `at()` of an ID that was not added. -/
  | outOfRange (sensorId : String)
  /-- The recursion is deeper than the model goes. -/
  | tooDeep
deriving DecidableEq, Repr

/-- The sets of `HasCyclicDependency`. -/
structure Marks where
  visited : List String
  temp : List String

/-- The set and the list of `ResolveDependencies`. -/
structure Resolution (V : Type) where
  visited : List String
  ordered : List (ResolverEntry V)

namespace SensorsOrderResolver

/-- `AddSensor`: a sensor of an ID that is there already is ignored. -/
def addSensor (resolver : SensorsOrderResolver V) (sensor : Sensor V) : SensorsOrderResolver V :=
  if resolver.entries.any fun entry => entry.id = sensor.id then resolver
  else ⟨resolver.entries ++ [⟨sensor, sensor.variableNames.dedup⟩]⟩

/-- The entry of a sensor ID. -/
def find? (resolver : SensorsOrderResolver V) (sensorId : String) : Option (ResolverEntry V) :=
  resolver.entries.find? fun entry => entry.id = sensorId

/-- `dependencies_.at` and `sensors_.at`. -/
def lookup (resolver : SensorsOrderResolver V) (sensorId : String) :
    Except OrderError (ResolverEntry V) :=
  match resolver.find? sensorId with
  | some entry => .ok entry
  | none => .error (.outOfRange sensorId)

/-- `HasCyclicDependency`: a cycle is reached from the sensor, with the marks after the search. -/
def hasCyclicDependency (resolver : SensorsOrderResolver V) :
    ℕ → String → Marks → Except OrderError (Bool × Marks)
  | 0, _, _ => .error .tooDeep
  | depth + 1, sensorId, marks =>
    if sensorId ∈ marks.temp then .ok (true, marks)
    else if sensorId ∈ marks.visited then .ok (false, marks)
    else do
      let entry ← resolver.lookup sensorId
      -- The loop returns at the first dependency that closes a cycle.
      let (isCyclic, marks) ← entry.dependencies.foldlM
        (fun (isCyclic, marks) dependency =>
          if isCyclic then .ok (true, marks)
          else if (resolver.find? dependency).isNone then
            .error (.nonExistentSensor sensorId dependency)
          else resolver.hasCyclicDependency depth dependency marks)
        (false, { marks with temp := sensorId :: marks.temp })
      if isCyclic then .ok (true, marks)
      else
        .ok (false, ⟨sensorId :: marks.visited, marks.temp.erase sensorId⟩)

/-- `ResolveDependencies`: a sensor comes after those it depends on. -/
def resolveDependencies (resolver : SensorsOrderResolver V) :
    ℕ → String → Resolution V → Except OrderError (Resolution V)
  | 0, _, _ => .error .tooDeep
  | depth + 1, sensorId, resolution =>
    if sensorId ∈ resolution.visited then .ok resolution
    else do
      let entry ← resolver.lookup sensorId
      let resolution ← entry.dependencies.foldlM
        (fun resolution dependency => resolver.resolveDependencies depth dependency resolution)
        { resolution with visited := sensorId :: resolution.visited }
      .ok { resolution with ordered := resolution.ordered ++ [entry] }

/-- The first loop of `GetProcessingOrder`. -/
def checkCycles (resolver : SensorsOrderResolver V) (depth : ℕ) (marks : Marks)
    (sensorIds : List String) : Except OrderError Marks :=
  sensorIds.foldlM
    (fun marks sensorId =>
      if sensorId ∈ marks.visited then .ok marks
      else do
        let (isCyclic, marks) ← resolver.hasCyclicDependency depth sensorId marks
        if isCyclic then .error (.cyclicDependency sensorId) else .ok marks)
    marks

/-- No path of dependencies is longer than there are sensors. -/
def maxDepth (resolver : SensorsOrderResolver V) : ℕ := resolver.entries.length + 1

/-- `GetProcessingOrder`: the order, or the error of a cycle. -/
def getProcessingOrder (resolver : SensorsOrderResolver V) :
    Except OrderError (List (Sensor V)) := do
  let sensorIds := resolver.entries.map ResolverEntry.id
  let _ ← resolver.checkCycles resolver.maxDepth ⟨[], []⟩ sensorIds
  let resolution ← sensorIds.foldlM
    (fun resolution sensorId =>
      resolver.resolveDependencies resolver.maxDepth sensorId resolution)
    (⟨[], []⟩ : Resolution V)
  .ok (resolution.ordered.map ResolverEntry.sensor)

/-- A sensor's expression reads another. -/
def DependsOn (resolver : SensorsOrderResolver V) (sensorId dependency : String) : Prop :=
  ∃ entry ∈ resolver.entries, entry.id = sensorId ∧ dependency ∈ entry.dependencies

/-- No sensor depends on itself, directly or through others. -/
def Acyclic (resolver : SensorsOrderResolver V) : Prop :=
  ∀ sensorId, ¬Relation.TransGen resolver.DependsOn sensorId sensorId

/-- The resolver after `AddSensor` of every sensor, whatever order its hash map and its
sets are enumerated in. -/
structure Added (resolver : SensorsOrderResolver V) (sensors : List (Sensor V)) : Prop where
  perm : (resolver.entries.map ResolverEntry.sensor).Perm sensors
  dependencies : ∀ entry ∈ resolver.entries, ∀ name,
    name ∈ entry.dependencies ↔ name ∈ entry.sensor.variableNames

end SensorsOrderResolver

/-- Every sensor of a list is behind the sensors it reads. -/
def InputsFirst (sensors : List (Sensor V)) : Prop :=
  ∀ (i : ℕ) (sensor : Sensor V), sensors[i]? = some sensor → ∀ name ∈ sensor.variableNames,
    ∃ (j : ℕ) (input : Sensor V), j < i ∧ sensors[j]? = some input ∧ input.id = name

/-! ### The walk -/

namespace Resolution

variable {resolution after : Resolution V}

/-- The IDs ordered so far. -/
def orderedIds (resolution : Resolution V) : List String :=
  resolution.ordered.map ResolverEntry.id

/-- What holds of the list between two steps of the walk. -/
structure Sound (resolver : SensorsOrderResolver V) (resolution : Resolution V) : Prop where
  added : ∀ entry ∈ resolution.ordered, entry ∈ resolver.entries
  visited : ∀ sensorId ∈ resolution.orderedIds, sensorId ∈ resolution.visited
  nodup : resolution.orderedIds.Nodup
  /-- The dependencies of a sensor are before it. -/
  before : ∀ (i : ℕ) (entry : ResolverEntry V), resolution.ordered[i]? = some entry →
    ∀ dependency ∈ entry.dependencies,
      ∃ j, j < i ∧ resolution.orderedIds[j]? = some dependency

/-- The sensors whose dependencies are being walked. -/
def IsOpen (resolution : Resolution V) (sensorId : String) : Prop :=
  sensorId ∈ resolution.visited ∧ sensorId ∉ resolution.orderedIds

/-- A part of the walk leaves the open sensors and keeps what is ordered. -/
structure Extends (resolution after : Resolution V) : Prop where
  ordered : ∀ sensorId ∈ resolution.orderedIds, sensorId ∈ after.orderedIds
  isOpen : ∀ sensorId, after.IsOpen sensorId ↔ resolution.IsOpen sensorId

theorem Extends.refl (resolution : Resolution V) : resolution.Extends resolution :=
  ⟨fun _ mem => mem, fun _ => Iff.rfl⟩

theorem Extends.trans {last : Resolution V} (first : resolution.Extends after)
    (second : after.Extends last) : resolution.Extends last where
  ordered sensorId mem := second.ordered sensorId (first.ordered sensorId mem)
  isOpen sensorId := (second.isOpen sensorId).trans (first.isOpen sensorId)

/-- A sensor is appended once its dependencies are in the list. -/
theorem Sound.append {resolver : SensorsOrderResolver V} (sound : resolution.Sound resolver)
    {entry : ResolverEntry V} (mem : entry ∈ resolver.entries)
    (isOpen : resolution.IsOpen entry.id)
    (done : ∀ dependency ∈ entry.dependencies, dependency ∈ resolution.orderedIds) :
    Sound resolver { resolution with ordered := resolution.ordered ++ [entry] } := by
  have ids : orderedIds { resolution with ordered := resolution.ordered ++ [entry] } =
      resolution.orderedIds ++ [entry.id] := List.map_append ..
  constructor
  case added =>
    intro other mem'
    rcases List.mem_append.mp mem' with mem' | mem'
    · exact sound.added other mem'
    · rw [List.mem_singleton.mp mem']
      exact mem
  case visited =>
    intro sensorId mem'
    rw [ids] at mem'
    rcases List.mem_append.mp mem' with mem' | mem'
    · exact sound.visited sensorId mem'
    · rw [List.mem_singleton.mp mem']
      exact isOpen.1
  case nodup =>
    rw [ids, ← List.concat_eq_append, List.nodup_concat]
    exact ⟨isOpen.2, sound.nodup⟩
  -- The new last one has its dependencies in front of it; the others keep theirs.
  case before =>
    intro i other found dependency mem'
    rw [ids]
    by_cases inside : i < resolution.ordered.length
    · rw [List.getElem?_append_left inside] at found
      obtain ⟨j, earlier, there⟩ := sound.before i other found dependency mem'
      refine ⟨j, earlier, ?_⟩
      rw [List.getElem?_append_left]
      · exact there
      · rw [orderedIds, List.length_map]
        omega
    · rw [List.getElem?_append_right (Nat.le_of_not_lt inside), List.getElem?_singleton] at found
      split at found
      case isFalse => cases found
      case isTrue last =>
        obtain rfl := Option.some.inj found
        obtain ⟨j, inside', there⟩ := List.getElem_of_mem (done dependency mem')
        have length : resolution.orderedIds.length = resolution.ordered.length := List.length_map ..
        refine ⟨j, by omega, ?_⟩
        rw [List.getElem?_append_left inside', ← there]
        exact List.getElem?_eq_getElem inside'

/-- Walking each element of a list in turn, when walking one puts it into the list. -/
theorem foldlM_spec {resolver : SensorsOrderResolver V}
    {walk : Resolution V → String → Except OrderError (Resolution V)}
    (spec : ∀ resolution sensorId after, walk resolution sensorId = .ok after →
      resolution.Sound resolver →
      (∀ other, resolution.IsOpen other →
        Relation.TransGen resolver.DependsOn other sensorId) →
      after.Sound resolver ∧ sensorId ∈ after.orderedIds ∧ resolution.Extends after)
    {sensorIds : List String} (walks : sensorIds.foldlM walk resolution = .ok after)
    (sound : resolution.Sound resolver)
    (leads : ∀ sensorId ∈ sensorIds, ∀ other, resolution.IsOpen other →
      Relation.TransGen resolver.DependsOn other sensorId) :
    after.Sound resolver ∧ (∀ sensorId ∈ sensorIds, sensorId ∈ after.orderedIds) ∧
      resolution.Extends after := by
  induction sensorIds generalizing resolution with
  | nil =>
    obtain rfl := Except.ok.inj walks
    exact ⟨sound, nofun, .refl _⟩
  | cons sensorId sensorIds ih =>
    rw [List.foldlM_cons, Foundation.bind_eq_ok] at walks
    obtain ⟨next, first, rest⟩ := walks
    obtain ⟨sound', ordered, extends₁⟩ :=
      spec resolution sensorId next first sound (leads sensorId List.mem_cons_self)
    have leads' : ∀ other ∈ sensorIds, ∀ third, next.IsOpen third →
        Relation.TransGen resolver.DependsOn third other := fun other mem third isOpen =>
      leads other (List.mem_cons_of_mem _ mem) third ((extends₁.isOpen third).mp isOpen)
    obtain ⟨sound'', others, extends₂⟩ := ih rest sound' leads'
    refine ⟨sound'', fun other mem => ?_, extends₁.trans extends₂⟩
    rcases List.mem_cons.mp mem with rfl | mem
    · exact extends₂.ordered _ ordered
    · exact others other mem

end Resolution

namespace SensorsOrderResolver

variable {resolver : SensorsOrderResolver V} {resolution after : Resolution V}

theorem lookup_eq_ok {sensorId : String} {entry : ResolverEntry V}
    (found : resolver.lookup sensorId = .ok entry) :
    entry ∈ resolver.entries ∧ entry.id = sensorId := by
  rw [lookup] at found
  cases entries : resolver.find? sensorId with
  | none =>
    rw [entries] at found
    cases found
  | some other =>
    rw [entries] at found
    obtain rfl := Except.ok.inj found
    exact ⟨List.mem_of_find?_eq_some entries, by simpa using List.find?_some entries⟩

/-- The walk puts a sensor into the list behind everything it reads. Every open sensor
depends on it, so in a graph without cycles none of its dependencies is open. -/
theorem resolveDependencies_spec (acyclic : resolver.Acyclic) (depth : ℕ) :
    ∀ (resolution : Resolution V) (sensorId : String) (after : Resolution V),
      resolver.resolveDependencies depth sensorId resolution = .ok after →
      resolution.Sound resolver →
      (∀ other, resolution.IsOpen other →
        Relation.TransGen resolver.DependsOn other sensorId) →
      after.Sound resolver ∧ sensorId ∈ after.orderedIds ∧ resolution.Extends after := by
  induction depth with
  | zero => exact fun _ _ _ walks => nomatch walks
  | succ depth ih =>
    intro resolution sensorId after walks sound leads
    rw [resolveDependencies] at walks
    split at walks
    case isTrue visited =>
      obtain rfl := Except.ok.inj walks
      refine ⟨sound, ?_, .refl _⟩
      by_contra missing
      exact acyclic sensorId (leads sensorId ⟨visited, missing⟩)
    case isFalse fresh =>
      obtain ⟨entry, found, walks⟩ := Foundation.bind_eq_ok.mp walks
      obtain ⟨inside, walk, walks⟩ := Foundation.bind_eq_ok.mp walks
      obtain rfl := Except.ok.inj walks
      obtain ⟨mem, rfl⟩ := lookup_eq_ok found
      -- The sensor itself is open while its dependencies are walked.
      have opens : ∀ other, Resolution.IsOpen
          { resolution with visited := entry.id :: resolution.visited } other ↔
          other = entry.id ∨ resolution.IsOpen other := by
        intro other
        constructor
        · rintro ⟨visited, missing⟩
          rcases List.mem_cons.mp visited with same | visited
          · exact .inl same
          · exact .inr ⟨visited, missing⟩
        · rintro (rfl | isOpen)
          · exact ⟨List.mem_cons_self, fun ordered => fresh (sound.visited _ ordered)⟩
          · exact ⟨List.mem_cons_of_mem _ isOpen.1, isOpen.2⟩
      have sound₁ : Resolution.Sound resolver
          { resolution with visited := entry.id :: resolution.visited } :=
        ⟨sound.added, fun other mem => List.mem_cons_of_mem _ (sound.visited other mem),
          sound.nodup, sound.before⟩
      obtain ⟨sound₂, done, extended⟩ := Resolution.foldlM_spec
        (fun resolution sensorId after => ih resolution sensorId after) walk sound₁
        (fun dependency reads other isOpen => by
          have edge : resolver.DependsOn entry.id dependency := ⟨entry, mem, rfl, reads⟩
          rcases (opens other).mp isOpen with rfl | isOpen
          · exact .single edge
          · exact (leads other isOpen).tail edge)
      have isOpen : inside.IsOpen entry.id :=
        (extended.isOpen entry.id).mpr ((opens entry.id).mpr (.inl rfl))
      have ids : Resolution.orderedIds { inside with ordered := inside.ordered ++ [entry] } =
          inside.orderedIds ++ [entry.id] := List.map_append ..
      refine ⟨sound₂.append mem isOpen done, ?_, ?_, fun other => ?_⟩
      · rw [ids]
        exact List.mem_append_right _ List.mem_cons_self
      · intro other ordered
        rw [ids]
        exact List.mem_append_left _ (extended.ordered other ordered)
      · -- The sensor is no longer open, the others are as before.
        have closed : Resolution.IsOpen { inside with ordered := inside.ordered ++ [entry] } other ↔
            inside.IsOpen other ∧ other ≠ entry.id := by
          rw [Resolution.IsOpen, Resolution.IsOpen, ids, List.mem_append, List.mem_singleton]
          tauto
        rw [closed, extended.isOpen other, opens other]
        constructor
        · rintro ⟨same | isOpen, different⟩
          · exact absurd same different
          · exact isOpen
        · intro isOpen
          refine ⟨.inr isOpen, ?_⟩
          rintro rfl
          exact fresh isOpen.1

/-! ### The check for cycles -/

/-- The dependencies of every sensor of the list are behind it. The check puts a sensor in front
of the list when it is done with it. -/
def Settled (resolver : SensorsOrderResolver V) : List String → Prop
  | [] => True
  | sensorId :: visited =>
    (∀ dependency, resolver.DependsOn sensorId dependency → dependency ∈ visited) ∧
      resolver.Settled visited

theorem Settled.closed {visited : List String} (settled : resolver.Settled visited)
    {sensorId : String} (member : sensorId ∈ visited) {other : String}
    (leads : Relation.TransGen resolver.DependsOn sensorId other) : other ∈ visited := by
  induction visited generalizing sensorId with
  | nil => exact absurd member List.not_mem_nil
  | cons first visited ih =>
    apply List.mem_cons_of_mem
    rcases List.mem_cons.mp member with rfl | later
    · -- The first step leads into the rest of the list, which is left no more.
      rcases Relation.TransGen.head'_iff.mp leads with ⟨next, reads, rest⟩
      have next' := settled.1 next reads
      rcases Relation.reflTransGen_iff_eq_or_transGen.mp rest with rfl | rest
      · exact next'
      · exact ih settled.2 next' rest
    · exact ih settled.2 later leads

/-- No sensor of such a list is on a cycle: take its last place in the list. -/
theorem Settled.acyclic {visited : List String} (settled : resolver.Settled visited)
    {sensorId : String} (member : sensorId ∈ visited) :
    ¬Relation.TransGen resolver.DependsOn sensorId sensorId := by
  induction visited with
  | nil => exact absurd member List.not_mem_nil
  | cons first visited ih =>
    by_cases later : sensorId ∈ visited
    · exact ih settled.2 later
    · obtain rfl : sensorId = first := by
        rcases List.mem_cons.mp member with same | later'
        · exact same
        · exact absurd later' later
      intro cyclic
      rcases Relation.TransGen.head'_iff.mp cyclic with ⟨next, reads, rest⟩
      have next' := settled.1 next reads
      rcases Relation.reflTransGen_iff_eq_or_transGen.mp rest with rfl | rest
      · exact later next'
      · exact later (settled.2.closed next' rest)

/-- A part of the check that found no cycle: the sensors stay settled, and `done` are among them. -/
structure Marks.Settles (resolver : SensorsOrderResolver V) (marks after : Marks)
    (done : List String) : Prop where
  settled : resolver.Settled marks.visited → resolver.Settled after.visited
  kept : ∀ sensorId ∈ marks.visited, sensorId ∈ after.visited
  done : ∀ sensorId ∈ done, sensorId ∈ after.visited

/-- Checking each element of a list in turn, when checking one settles it. -/
private theorem settles_foldlM (resolver : SensorsOrderResolver V)
    {check : Bool × Marks → String → Except OrderError (Bool × Marks)}
    (cyclic : ∀ marks sensorId after, check (true, marks) sensorId = .ok after → after.1 = true)
    (spec : ∀ marks sensorId after, check (false, marks) sensorId = .ok (false, after) →
      Marks.Settles resolver marks after [sensorId])
    {sensorIds : List String} {found : Bool} {marks after : Marks}
    (checks : sensorIds.foldlM check (found, marks) = .ok (false, after)) :
    found = false ∧ Marks.Settles resolver marks after sensorIds := by
  induction sensorIds generalizing found marks with
  | nil =>
    cases checks
    exact ⟨rfl, fun settled => settled, fun _ member => member, nofun⟩
  | cons sensorId sensorIds ih =>
    rw [List.foldlM_cons, Foundation.bind_eq_ok] at checks
    obtain ⟨⟨next, marks'⟩, first, rest⟩ := checks
    obtain ⟨rfl, settles⟩ := ih rest
    cases found with
    | true => exact nomatch cyclic marks sensorId _ first
    | false =>
      have here := spec marks sensorId marks' first
      refine ⟨rfl, fun settled => settles.settled (here.settled settled),
        fun other member => settles.kept other (here.kept other member), ?_⟩
      intro other member
      rcases List.mem_cons.mp member with rfl | member
      · exact settles.kept _ (here.done _ List.mem_cons_self)
      · exact settles.done other member

/-- When no cycle is found from a sensor, it is settled with all it depends on. -/
theorem hasCyclicDependency_spec (distinct : (resolver.entries.map ResolverEntry.id).Nodup)
    (depth : ℕ) : ∀ (sensorId : String) (marks after : Marks),
      resolver.hasCyclicDependency depth sensorId marks = .ok (false, after) →
      Marks.Settles resolver marks after [sensorId] := by
  -- On the depth: the checks of the dependencies settle them, so the sensor is settled behind them.
  induction depth with
  | zero => exact fun _ _ _ checks => nomatch checks
  | succ depth ih =>
    intro sensorId marks after checks
    rw [hasCyclicDependency] at checks
    split_ifs at checks with isOpen visited
    · exact nomatch checks
    · cases checks
      refine ⟨fun settled => settled, fun _ member => member, ?_⟩
      intro other member
      rw [List.mem_singleton.mp member]
      exact visited
    · obtain ⟨entry, found, checks⟩ := Foundation.bind_eq_ok.mp checks
      obtain ⟨⟨isCyclic, inside⟩, walk, checks⟩ := Foundation.bind_eq_ok.mp checks
      cases isCyclic with
      | true => exact nomatch checks
      | false =>
        cases checks
        obtain ⟨mem, rfl⟩ := lookup_eq_ok found
        obtain ⟨-, settles⟩ := settles_foldlM resolver
          (fun marks other after stops => by
            dsimp only at stops
            rw [if_pos rfl] at stops
            cases stops
            rfl)
          (fun marks other after checks => by
            dsimp only at checks
            rw [if_neg Bool.false_ne_true] at checks
            split_ifs at checks
            exact ih other marks after checks)
          walk
        constructor
        · intro settled
          refine ⟨fun dependency reads => ?_, settles.settled settled⟩
          obtain ⟨other, mem', same, reads⟩ := reads
          obtain rfl := List.inj_on_of_nodup_map distinct mem' mem same
          exact settles.done dependency reads
        · intro other member
          exact List.mem_cons_of_mem _ (settles.kept other member)
        · intro other member
          rw [List.mem_singleton.mp member]
          exact List.mem_cons_self

theorem checkCycles_spec (distinct : (resolver.entries.map ResolverEntry.id).Nodup)
    {depth : ℕ} {sensorIds : List String} {marks after : Marks}
    (checks : resolver.checkCycles depth marks sensorIds = .ok after) :
    Marks.Settles resolver marks after sensorIds := by
  unfold checkCycles at checks
  induction sensorIds generalizing marks with
  | nil =>
    cases checks
    exact ⟨fun settled => settled, fun _ member => member, nofun⟩
  | cons sensorId sensorIds ih =>
    rw [List.foldlM_cons, Foundation.bind_eq_ok] at checks
    obtain ⟨next, first, rest⟩ := checks
    have settles := ih rest
    have here : Marks.Settles resolver marks next [sensorId] := by
      split_ifs at first with visited
      · cases first
        refine ⟨fun settled => settled, fun _ member => member, ?_⟩
        intro other member
        rw [List.mem_singleton.mp member]
        exact visited
      · obtain ⟨⟨isCyclic, inside⟩, checks, first⟩ := Foundation.bind_eq_ok.mp first
        cases isCyclic with
        | true => exact nomatch first
        | false =>
          cases first
          exact hasCyclicDependency_spec distinct depth sensorId marks _ checks
    refine ⟨fun settled => settles.settled (here.settled settled),
      fun other member => settles.kept other (here.kept other member), ?_⟩
    intro other member
    rcases List.mem_cons.mp member with rfl | member
    · exact settles.kept _ (here.done _ List.mem_cons_self)
    · exact settles.done other member

/-- Sensors that have a processing order do not depend on each other in a circle. -/
theorem acyclic_of_getProcessingOrder (distinct : (resolver.entries.map ResolverEntry.id).Nodup)
    {ordered : List (Sensor V)} (resolves : resolver.getProcessingOrder = .ok ordered) :
    resolver.Acyclic := by
  rw [getProcessingOrder] at resolves
  obtain ⟨marks, checks, -⟩ := Foundation.bind_eq_ok.mp resolves
  have settles := checkCycles_spec distinct checks
  intro sensorId cyclic
  -- A sensor that depends on anything was added, and so it was checked.
  have added : sensorId ∈ resolver.entries.map ResolverEntry.id := by
    rcases Relation.TransGen.head'_iff.mp cyclic with ⟨_, ⟨entry, mem, same, -⟩, -⟩
    exact List.mem_map.mpr ⟨entry, mem, same⟩
  exact (settles.settled trivial).acyclic (settles.done sensorId added) cyclic

/-! ### The order -/

theorem Added.nodup_ids {sensors : List (Sensor V)} (added : resolver.Added sensors)
    (distinct : (sensors.map Sensor.id).Nodup) :
    (resolver.entries.map ResolverEntry.id).Nodup := by
  have ids : resolver.entries.map ResolverEntry.id =
      (resolver.entries.map ResolverEntry.sensor).map Sensor.id := (List.map_map ..).symm
  rw [ids]
  exact (added.perm.map Sensor.id).nodup_iff.mpr distinct

/-- Without cycles, the order has every sensor once, behind the sensors it reads. -/
theorem getProcessingOrder_spec {sensors ordered : List (Sensor V)}
    (added : resolver.Added sensors) (distinct : (sensors.map Sensor.id).Nodup)
    (acyclic : resolver.Acyclic) (resolves : resolver.getProcessingOrder = .ok ordered) :
    ordered.Perm sensors ∧ InputsFirst ordered := by
  rw [getProcessingOrder] at resolves
  obtain ⟨_, -, resolves⟩ := Foundation.bind_eq_ok.mp resolves
  obtain ⟨resolution, walks, resolves⟩ := Foundation.bind_eq_ok.mp resolves
  obtain rfl := Except.ok.inj resolves
  have empty : Resolution.Sound resolver ⟨[], []⟩ :=
    ⟨nofun, nofun, List.nodup_nil, fun i entry found => by simp at found⟩
  obtain ⟨sound, done, -⟩ := Resolution.foldlM_spec
    (fun resolution sensorId after => resolveDependencies_spec acyclic _ resolution sensorId after)
    walks empty (fun _ _ _ isOpen => absurd isOpen.1 List.not_mem_nil)
  have distinctIds := added.nodup_ids distinct
  constructor
  · refine (List.Perm.map _ ?_).trans added.perm
    refine (List.perm_ext_iff_of_nodup sound.nodup.of_map distinctIds.of_map).mpr fun entry => ?_
    refine ⟨sound.added entry, fun mem => ?_⟩
    obtain ⟨other, mem', same⟩ := List.mem_map.mp (done entry.id (List.mem_map_of_mem mem))
    have := List.inj_on_of_nodup_map distinctIds (sound.added other mem') mem same
    exact this ▸ mem'
  · intro i sensor found name reads
    rw [List.getElem?_map] at found
    obtain ⟨entry, there, rfl⟩ := Option.map_eq_some_iff.mp found
    have mem := sound.added entry (List.mem_of_getElem? there)
    obtain ⟨j, earlier, input⟩ :=
      sound.before i entry there name ((added.dependencies entry mem name).mpr reads)
    rw [Resolution.orderedIds, List.getElem?_map] at input
    obtain ⟨other, found', rfl⟩ := Option.map_eq_some_iff.mp input
    exact ⟨j, other.sensor, earlier, by rw [List.getElem?_map, found']; rfl, rfl⟩

/-- Adding sensors with distinct IDs leaves a resolver that has them. -/
theorem added_addSensors {sensors : List (Sensor V)} (distinct : (sensors.map Sensor.id).Nodup) :
    (sensors.foldl addSensor ⟨[]⟩).Added sensors := by
  induction sensors using List.reverseRecOn with
  | nil => exact ⟨List.Perm.nil, nofun⟩
  | append_singleton sensors sensor ih =>
    rw [List.map_append, List.map_singleton, ← List.concat_eq_append, List.nodup_concat] at distinct
    obtain ⟨perm, dependencies⟩ := ih distinct.2
    rw [List.foldl_append, List.foldl_cons, List.foldl_nil, addSensor]
    generalize sensors.foldl addSensor ⟨[]⟩ = resolver at perm dependencies
    have fresh : ¬resolver.entries.any (fun entry => entry.id = sensor.id) = true := by
      rw [List.any_eq_true]
      rintro ⟨entry, mem, same⟩
      refine distinct.1 ?_
      have mem : entry.sensor ∈ sensors := perm.mem_iff.mp (List.mem_map_of_mem mem)
      exact List.mem_map.mpr ⟨entry.sensor, mem, of_decide_eq_true same⟩
    rw [if_neg fresh]
    constructor
    · rw [List.map_append]
      exact perm.append_right _
    · intro entry mem name
      rcases List.mem_append.mp mem with mem | mem
      · exact dependencies entry mem name
      · rw [List.mem_singleton.mp mem]
        exact List.mem_dedup

end SensorsOrderResolver

end RtCore.Sensors
