import Mathlib.Data.Finset.Basic
import Mathlib.Data.Finset.SDiff
import Mathlib.Data.Finset.Lattice.Lemmas
import RtCore.Foundation.Run
import RtCore.Logging.RemoteControl

/-!
# The restart monitor

`CanbusComLoggingRestartMonitor` reports a logging unit that came back idle to the remote
control, which also follows the combined logging status and sends a start when that goes
from Unavailable to Stopped. The monitor leaves a unit to this status rule when its copy
ends a spell without any copy.

`RestartSystem` puts the monitor beside the status importer and the control. Its steps are
the device events, the heartbeats, changes of the copies, and the state handler calls, in
any order. `ReturnHistory` keeps what the signals mean for a unit's return: which units
are armed for a report, and which have got a report, or the transition of the status with
their copy, since they came back.

## Main results

* `RestartSystem.one_start_per_return` — every report uses up an arming and finds the
  unit's copy fresh and Stopped; and if no unit gains LOGGING after its copy came with the
  transition in the same return, no unit gets a report and the transition for one return
-/

namespace RtCore.Logging

open RtCore.Cdmp RtCore.Foundation

/-! ### The model -/

/-- Whether the reason ends a session that the unit did not stop. -/
def isFailure : LoggingStatusReason → Bool
  | .writeFailed | .noSpace | .rotationFailed => true
  | _ => false

/-- Another unit's copy of the `LOGGING_STATUS` record. -/
structure LoggingCopy where
  deviceId : UInt8
  state : LoggingState
  isStale : Bool
deriving DecidableEq, Repr

/-- The devices that copies are held of. -/
def deviceIdsOf (copies : List LoggingCopy) : Finset UInt8 := (copies.map (·.deviceId)).toFinset

/-- The status of all units: `LoggingNetworkState::Combine`. -/
def combine (copies : List LoggingCopy) : LoggingState :=
  if copies = [] then .inactive .unavailable
  else if copies.any (·.state.isActive) then .active
  else
    match copies.find? fun copy => isFailure copy.state.reason with
    | some copy => .inactive copy.state.reason
    | none => .inactive .stopped

/-- The `LOGGING` bit of a feature mask. -/
def hasLoggingFeature (features : UInt16) : Bool := features &&& 0x08 != 0

/-- `CanbusComLoggingRestartMonitor`: the units that returned and those known to log. -/
structure RestartMonitor where
  hasStatusRule : Bool := true
  restarted : Finset UInt8 := ∅
  hasLogging : Finset UInt8 := ∅
  isStatusEmpty : Bool := false

namespace RestartMonitor

variable (monitor : RestartMonitor) (copies : List LoggingCopy)

/-- A logger, or a unit this one holds a copy of. -/
def isLoggingUnit (device : CdmpDeviceInfo) : Bool :=
  hasLoggingFeature device.features || copies.any (·.deviceId = device.deviceId)

/-- Notes whether a unit has the LOGGING feature. -/
def setHasLogging (deviceId : UInt8) (hasLogging : Bool) : RestartMonitor :=
  { monitor with
    hasLogging :=
      if hasLogging then insert deviceId monitor.hasLogging
      else monitor.hasLogging.erase deviceId }

/-- A unit that logs is armed when it joins or restarts, and forgotten when it leaves. -/
def onDeviceEvent (event : CdmpDeviceEvent) (device : CdmpDeviceInfo) : RestartMonitor :=
  match event with
  | .joined | .restarted =>
    let monitor := monitor.setHasLogging device.deviceId (hasLoggingFeature device.features)
    if isLoggingUnit copies device then
      { monitor with restarted := insert device.deviceId monitor.restarted }
    else monitor
  | .left =>
    { monitor with
      restarted := monitor.restarted.erase device.deviceId
      hasLogging := monitor.hasLogging.erase device.deviceId }

/-- The copies combine to the status of a unit that was stopped. -/
def isCombinedStatusStopped : Bool :=
  !copies.any (fun copy => copy.state.isActive || isFailure copy.state.reason) &&
    !copies.isEmpty

/-- One turn of the loop of `Resolve`, with the reports made so far. -/
def resolveCopy (deviceId : Option UInt8) (isLeftToStatusRule : Bool)
    (resolved : RestartMonitor × List UInt8) (copy : LoggingCopy) :
    RestartMonitor × List UInt8 :=
  let (monitor, reports) := resolved
  let cleared := { monitor with restarted := monitor.restarted.erase copy.deviceId }
  if copy.deviceId ∉ monitor.restarted then (monitor, reports)
  else if deviceId.any (· ≠ copy.deviceId) then (monitor, reports)
  else if isLeftToStatusRule then (cleared, reports)
  else if copy.isStale then (monitor, reports)
  else if copy.state = .inactive .stopped then (cleared, reports ++ [copy.deviceId])
  else (cleared, reports)

/-- `Resolve`: armed units, one or all, are reported or disarmed by their copies. -/
def resolve (deviceId : Option UInt8) (isStatusReturning : Bool) :
    RestartMonitor × List UInt8 :=
  let isLeftToStatusRule :=
    monitor.hasStatusRule && isStatusReturning && isCombinedStatusStopped copies
  copies.foldl (resolveCopy deviceId isLeftToStatusRule) (monitor, [])

/-- A heartbeat that shows a LOGGING bit the unit did not have arms it. -/
def noteFeatures (deviceId : UInt8) (features : UInt16) : RestartMonitor :=
  let hasLogging := hasLoggingFeature features
  let armed :=
    if hasLogging ∧ deviceId ∉ monitor.hasLogging then
      { monitor with restarted := insert deviceId monitor.restarted }
    else monitor
  armed.setHasLogging deviceId hasLogging

/-- A heartbeat may arm a unit, and resolves an armed one. -/
def onHeartbeat (deviceId : UInt8) (features : UInt16) : RestartMonitor × List UInt8 :=
  let monitor := monitor.noteFeatures deviceId features
  if deviceId ∉ monitor.restarted ∨ (monitor.hasStatusRule && monitor.isStatusEmpty) = true then
    (monitor, [])
  else monitor.resolve copies (some deviceId) false

/-- The copies changed: armed units are resolved, in step with the combined status. -/
def onStatesChanged : RestartMonitor × List UInt8 :=
  if copies = [] then ({ monitor with isStatusEmpty := true }, [])
  else
    let isStatusReturning := monitor.isStatusEmpty
    let monitor := { monitor with isStatusEmpty := false }
    if monitor.restarted ≠ ∅ then monitor.resolve copies none isStatusReturning
    else (monitor, [])

end RestartMonitor

/-- The monitor with what it reads and whom it signals: the copies, the state the importer
published last, and the remote control. -/
structure RestartSystem where
  monitor : RestartMonitor
  copies : List LoggingCopy := []
  published : Option LoggingState := none
  control : RemoteLoggingControl

/-- A record applied, withdrawn or marked stale is a change of the copies; `statesChanged`
is a state handler call. -/
inductive RestartStep
  | deviceEvent (event : CdmpDeviceEvent) (device : CdmpDeviceInfo)
  | heartbeat (deviceId : UInt8) (features : UInt16)
  | copiesChanged (copies : List LoggingCopy)
  | statesChanged
deriving DecidableEq

/-- What the control gets in one step: the restart reports, and whether the status went
from Unavailable to Stopped. -/
structure Signals where
  reports : List UInt8 := []
  isStatusBack : Bool := false
deriving DecidableEq, Repr

namespace RestartSystem

variable (system : RestartSystem)

/-- The importer publishes the combined state when it changed, and a control that follows
the status takes it. -/
def publishCombined : RestartSystem × Bool :=
  let combined := combine system.copies
  if system.published = some combined then (system, false)
  else
    let isStatusBack := system.control.mode = .remote && combined = .inactive .stopped &&
      system.control.isUnavailable
    ({ system with
        published := some combined
        control :=
          if system.control.mode = .remote then
            system.control.onStatusUpdated (some combined.isActive) (some combined.reason)
          else system.control },
      isStatusBack)

/-- The control is told of the restarted units. -/
def report (reports : List UInt8) : RestartSystem :=
  { system with
    control := reports.foldl RemoteLoggingControl.onLoggingUnitRestarted system.control }

/-- One event of the monitor, with what it signals. -/
def step : RestartStep → RestartSystem × Signals
  | .deviceEvent event device =>
    ({ system with monitor := system.monitor.onDeviceEvent system.copies event device }, {})
  | .heartbeat deviceId features =>
    let (monitor, reports) := system.monitor.onHeartbeat system.copies deviceId features
    (({ system with monitor } : RestartSystem).report reports, { reports })
  | .copiesChanged copies => ({ system with copies }, {})
  | .statesChanged =>
    let (monitor, reports) := system.monitor.onStatesChanged system.copies
    let (system, isStatusBack) :=
      (({ system with monitor } : RestartSystem).report reports).publishCombined
    (system, { reports, isStatusBack })

/-- The system as the controller builds it: the status rule goes with the remote mode, and
the units already online are the baseline of the LOGGING bit. -/
def initial (mode : Mode) (hasLogging : Finset UInt8) (copies : List LoggingCopy) :
    RestartSystem where
  monitor := { hasStatusRule := mode = .remote, hasLogging }
  copies
  control := { mode }

end RestartSystem

/-! ### What a return of a unit is owed -/

/-- `owed`: the units armed for a report, and since then neither reported, nor left, nor
left to the status rule. `reported` and `covered`: the units that got a report, or the
transition of the status with their copy, in their current return. A unit's return ends
when it joins, restarts or leaves, when its copy goes, and when a heartbeat shows that it
lost the LOGGING feature. -/
structure ReturnHistory where
  owed : Finset UInt8 := ∅
  reported : Finset UInt8 := ∅
  covered : Finset UInt8 := ∅

namespace ReturnHistory

variable (history : ReturnHistory)

/-- The unit is owed a report. -/
def arm (deviceId : UInt8) : ReturnHistory :=
  { history with owed := insert deviceId history.owed }

/-- The unit's return is over. -/
def endReturn (deviceId : UInt8) : ReturnHistory :=
  { history with
    reported := history.reported.erase deviceId
    covered := history.covered.erase deviceId }

/-- What a step means before its signals: armings, and returns that end. -/
def note (system : RestartSystem) : RestartStep → ReturnHistory
  | .deviceEvent .left device =>
    { history.endReturn device.deviceId with owed := history.owed.erase device.deviceId }
  | .deviceEvent _ device =>
    if RestartMonitor.isLoggingUnit system.copies device then
      (history.endReturn device.deviceId).arm device.deviceId
    else history.endReturn device.deviceId
  | .heartbeat deviceId features =>
    if hasLoggingFeature features then
      if deviceId ∈ system.monitor.hasLogging then history else history.arm deviceId
    else if deviceId ∈ system.monitor.hasLogging then history.endReturn deviceId
    else history
  | .copiesChanged copies =>
    { history with
      reported := history.reported ∩ deviceIdsOf copies
      covered := history.covered ∩ deviceIdsOf copies }
  | .statesChanged => history

/-- A report uses up its arming; so does the transition, for the units with a copy. -/
def take (copies : List LoggingCopy) (signals : Signals) : ReturnHistory :=
  let back := if signals.isStatusBack then deviceIdsOf copies else ∅
  { owed := (history.owed \ signals.reports.toFinset) \ back
    reported := history.reported ∪ signals.reports.toFinset
    covered := history.covered ∪ back }

end ReturnHistory

/-- The system beside the history of its units. -/
structure FollowedSystem where
  system : RestartSystem
  history : ReturnHistory := {}

namespace FollowedSystem

variable (followed : FollowedSystem) (step : RestartStep)

/-- The history before the signals of the step. -/
def noted : ReturnHistory := followed.history.note followed.system step

/-- What the step signals. -/
def signals : Signals := (followed.system.step step).2

/-- The system and the history after a step. -/
def next : FollowedSystem where
  system := (followed.system.step step).1
  history := (followed.noted step).take (followed.system.step step).1.copies (followed.signals step)

/-- Each report of a step uses up an arming of its unit, is the only one of the step for
it, and finds its copy fresh, inactive and Stopped. An arming ends when the unit leaves,
and when its copy comes with the transition. -/
def ReportsOwed : Prop :=
  (followed.signals step).reports.Nodup ∧
    ∀ deviceId ∈ (followed.signals step).reports,
      deviceId ∈ (followed.noted step).owed ∧
        ∃ copy ∈ followed.system.copies, copy.deviceId = deviceId ∧ copy.isStale = false ∧
          copy.state = .inactive .stopped

/-- No unit gets a report and the transition for the same return. -/
def OneStart : Prop :=
  (∀ deviceId ∈ (followed.signals step).reports, deviceId ∉ (followed.noted step).covered) ∧
    ((followed.signals step).isStatusBack = true →
      ∀ copy ∈ followed.system.copies, copy.deviceId ∉ (followed.noted step).reported ∧
        copy.deviceId ∉ (followed.signals step).reports)

/-- No unit gains LOGGING in a return in which the transition came with its copy. -/
def GainsBeforeTransition : RestartStep → Prop
  | .heartbeat deviceId features =>
    hasLoggingFeature features = true → deviceId ∉ followed.system.monitor.hasLogging →
      deviceId ∉ followed.history.covered
  | _ => True

instance : ∀ step, Decidable (followed.GainsBeforeTransition step)
  | .heartbeat _ _ => inferInstanceAs (Decidable (_ → _))
  | .deviceEvent _ _ | .copiesChanged _ | .statesChanged => .isTrue trivial

end FollowedSystem

/-! ### Resolving armed units -/

theorem mem_deviceIdsOf {copies : List LoggingCopy} {deviceId : UInt8} :
    deviceId ∈ deviceIdsOf copies ↔ ∃ copy ∈ copies, copy.deviceId = deviceId := by
  simp [deviceIdsOf]

/-- The reports of a pass over `copies`: armed units that are not armed afterwards, with a
copy that is fresh, inactive and Stopped. -/
structure Resolves (copies : List LoggingCopy) (monitor : RestartMonitor)
    (resolved : RestartMonitor × List UInt8) : Prop where
  rest : resolved.1 = { monitor with restarted := resolved.1.restarted }
  subset : resolved.1.restarted ⊆ monitor.restarted
  nodup : resolved.2.Nodup
  armed : ∀ deviceId ∈ resolved.2, deviceId ∈ monitor.restarted ∧ deviceId ∉ resolved.1.restarted
  stopped : ∀ deviceId ∈ resolved.2, ∃ copy ∈ copies, copy.deviceId = deviceId ∧
    copy.isStale = false ∧ copy.state = .inactive .stopped

namespace Resolves

variable {copies : List LoggingCopy} {monitor : RestartMonitor}
  {resolved : RestartMonitor × List UInt8}

theorem refl (copies : List LoggingCopy) (monitor : RestartMonitor) :
    Resolves copies monitor (monitor, []) := by
  constructor <;> simp

/-- A unit cleared, without a report. -/
theorem clear (before : Resolves copies monitor resolved) (deviceId : UInt8) :
    Resolves copies monitor
      ({ resolved.1 with restarted := resolved.1.restarted.erase deviceId }, resolved.2) where
  rest := by rw [before.rest]
  subset := (Finset.erase_subset _ _).trans before.subset
  nodup := before.nodup
  armed := fun other member => ⟨(before.armed other member).1, fun inside =>
    (before.armed other member).2 (Finset.mem_of_mem_erase inside)⟩
  stopped := before.stopped

/-- A unit cleared with a report. -/
theorem report (before : Resolves copies monitor resolved) {copy : LoggingCopy}
    (member : copy ∈ copies) (armed : copy.deviceId ∈ resolved.1.restarted)
    (fresh : copy.isStale = false) (stopped : copy.state = .inactive .stopped) :
    Resolves copies monitor
      ({ resolved.1 with restarted := resolved.1.restarted.erase copy.deviceId },
        resolved.2 ++ [copy.deviceId]) where
  rest := by rw [before.rest]
  subset := (Finset.erase_subset _ _).trans before.subset
  nodup := by
    refine before.nodup.append (List.nodup_singleton _) ?_
    rw [List.disjoint_singleton]
    exact fun earlier => (before.armed _ earlier).2 armed
  armed := by
    intro other reported
    rcases List.mem_append.mp reported with earlier | last
    · exact ⟨(before.armed other earlier).1, fun inside =>
        (before.armed other earlier).2 (Finset.mem_of_mem_erase inside)⟩
    · rw [List.mem_singleton.mp last]
      exact ⟨before.subset armed, Finset.notMem_erase _ _⟩
  stopped := by
    intro other reported
    rcases List.mem_append.mp reported with earlier | last
    · exact before.stopped other earlier
    · exact ⟨copy, member, (List.mem_singleton.mp last).symm, fresh, stopped⟩

theorem resolveCopy (before : Resolves copies monitor resolved) (deviceId : Option UInt8)
    (isLeftToStatusRule : Bool) {copy : LoggingCopy} (member : copy ∈ copies) :
    Resolves copies monitor
      (RestartMonitor.resolveCopy deviceId isLeftToStatusRule resolved copy) := by
  unfold RestartMonitor.resolveCopy
  dsimp only
  split_ifs with armed other left stale stopped
  · exact before
  · exact before.clear copy.deviceId
  · exact before
  · exact before.report member armed (by simpa using stale) stopped
  · exact before.clear copy.deviceId
  · exact before

theorem owed_subset (resolves : Resolves copies monitor resolved) {owed : Finset UInt8}
    (armed : monitor.restarted ⊆ owed) :
    resolved.1.restarted ⊆ owed \ resolved.2.toFinset := by
  intro deviceId inside
  rw [Finset.mem_sdiff, List.mem_toFinset]
  exact ⟨armed (resolves.subset inside), fun reported => (resolves.armed _ reported).2 inside⟩

theorem reports_present (resolves : Resolves copies monitor resolved) :
    resolved.2.toFinset ⊆ deviceIdsOf copies := by
  intro deviceId reported
  obtain ⟨copy, member, same, -⟩ := resolves.stopped deviceId (List.mem_toFinset.mp reported)
  exact mem_deviceIdsOf.mpr ⟨copy, member, same⟩

end Resolves

namespace RestartMonitor

variable (monitor : RestartMonitor) (copies : List LoggingCopy)

theorem resolves_resolve (deviceId : Option UInt8) (isStatusReturning : Bool) :
    Resolves copies monitor (monitor.resolve copies deviceId isStatusReturning) :=
  List.foldlRecOn copies _ (Resolves.refl copies monitor)
    fun _ before _ member => before.resolveCopy deviceId _ member

/-- A pass that leaves the units to the status rule clears every unit with a copy and
reports none. -/
theorem foldl_resolveCopy_left (resolved : RestartMonitor × List UInt8) :
    (copies.foldl (resolveCopy none true) resolved).2 = resolved.2 ∧
      (copies.foldl (resolveCopy none true) resolved).1.restarted =
        resolved.1.restarted \ deviceIdsOf copies := by
  induction copies generalizing resolved with
  | nil => simp [deviceIdsOf]
  | cons copy copies ih =>
    have first : (resolveCopy none true resolved copy).2 = resolved.2 ∧
        (resolveCopy none true resolved copy).1.restarted =
          resolved.1.restarted.erase copy.deviceId := by
      by_cases armed : copy.deviceId ∈ resolved.1.restarted
      · simp [resolveCopy, armed]
      · simp [resolveCopy, armed]
    rw [List.foldl_cons, (ih _).1, (ih _).2, first.1, first.2]
    refine ⟨rfl, ?_⟩
    ext deviceId
    simp only [Finset.mem_sdiff, Finset.mem_erase, mem_deviceIdsOf, List.mem_cons,
      exists_eq_or_imp, not_or, ne_comm (a := deviceId)]
    grind

theorem resolve_left (rule : monitor.hasStatusRule = true)
    (stopped : isCombinedStatusStopped copies = true) :
    (monitor.resolve copies none true).2 = [] ∧
      (monitor.resolve copies none true).1.restarted = monitor.restarted \ deviceIdsOf copies := by
  simpa [resolve, rule, stopped] using foldl_resolveCopy_left copies (monitor, [])

theorem resolves_onHeartbeat (deviceId : UInt8) (features : UInt16) :
    Resolves copies (monitor.noteFeatures deviceId features)
      (monitor.onHeartbeat copies deviceId features) := by
  unfold onHeartbeat
  dsimp only
  split_ifs
  · exact .refl _ _
  · exact resolves_resolve _ _ _ _

theorem resolves_onStatesChanged :
    Resolves copies { monitor with isStatusEmpty := copies = [] }
      (monitor.onStatesChanged copies) := by
  unfold onStatesChanged
  dsimp only
  split_ifs with empty armed
  · simpa [empty] using Resolves.refl copies { monitor with isStatusEmpty := true }
  · simpa [empty] using resolves_resolve { monitor with isStatusEmpty := false } copies none _
  · simpa [empty] using Resolves.refl copies { monitor with isStatusEmpty := false }

/-- The call that ends a spell with a combined status of Stopped leaves every unit with a
copy to the status rule. -/
theorem onStatesChanged_left (rule : monitor.hasStatusRule = true)
    (returning : monitor.isStatusEmpty = true)
    (stopped : isCombinedStatusStopped copies = true) :
    (monitor.onStatesChanged copies).2 = [] ∧
      (monitor.onStatesChanged copies).1.restarted = monitor.restarted \ deviceIdsOf copies := by
  have some : copies ≠ [] := by
    rintro rfl
    simp [isCombinedStatusStopped] at stopped
  unfold onStatesChanged
  dsimp only
  rw [if_neg some]
  split_ifs with armed
  · rw [returning]
    exact resolve_left { monitor with isStatusEmpty := false } copies rule stopped
  · have none : monitor.restarted = ∅ := not_not.mp armed
    simp [none]

end RestartMonitor

theorem combine_cases {copies : List LoggingCopy} (some : copies ≠ []) :
    combine copies = .active ∧ RestartMonitor.isCombinedStatusStopped copies = false ∨
    (∃ reason, isFailure reason = true ∧ combine copies = .inactive reason ∧
      RestartMonitor.isCombinedStatusStopped copies = false) ∨
    combine copies = .inactive .stopped ∧ RestartMonitor.isCombinedStatusStopped copies = true := by
  rw [combine, if_neg some]
  split_ifs with active
  · obtain ⟨copy, member, isActive⟩ := List.any_eq_true.mp active
    refine Or.inl ⟨rfl, ?_⟩
    have found : copies.any (fun copy => copy.state.isActive || isFailure copy.state.reason) =
        true := List.any_eq_true.mpr ⟨copy, member, by simp [isActive]⟩
    simp [RestartMonitor.isCombinedStatusStopped, found]
  · split
    · next copy first =>
      have failed := List.find?_some first
      have found : copies.any (fun copy => copy.state.isActive || isFailure copy.state.reason) =
          true := List.any_eq_true.mpr ⟨copy, List.mem_of_find?_eq_some first, by simp [failed]⟩
      exact Or.inr (Or.inl ⟨_, failed, rfl, by
        simp [RestartMonitor.isCombinedStatusStopped, found]⟩)
    · next none =>
      refine Or.inr (Or.inr ⟨rfl, ?_⟩)
      have idle := List.find?_eq_none.mp none
      simp_all [RestartMonitor.isCombinedStatusStopped]

theorem combine_eq_stopped_iff {copies : List LoggingCopy} :
    combine copies = .inactive .stopped ↔
      RestartMonitor.isCombinedStatusStopped copies = true := by
  by_cases empty : copies = []
  · simp [empty, combine, RestartMonitor.isCombinedStatusStopped]
  · rcases combine_cases empty with ⟨active, running⟩ | ⟨reason, failed, inactive, running⟩ |
      ⟨inactive, stopped⟩
    · simp [active, running]
    · have failure : reason ≠ .stopped := by
        rintro rfl
        exact nomatch failed
      simp [inactive, running, failure]
    · simp [inactive, stopped]

theorem combine_eq_unavailable_iff {copies : List LoggingCopy} :
    combine copies = .inactive .unavailable ↔ copies = [] := by
  by_cases empty : copies = []
  · simp [empty, combine]
  · rcases combine_cases empty with ⟨active, -⟩ | ⟨reason, failed, inactive, -⟩ | ⟨inactive, -⟩
    · simp [active, empty]
    · have failure : reason ≠ .unavailable := by
        rintro rfl
        exact nomatch failed
      simp [inactive, failure, empty]
    · simp [inactive, empty]

/-! ### The invariant of a run -/

theorem control_report (reports : List UInt8) (control : RemoteLoggingControl) :
    (reports.foldl RemoteLoggingControl.onLoggingUnitRestarted control).mode = control.mode ∧
      (reports.foldl RemoteLoggingControl.onLoggingUnitRestarted control).isUnavailable =
        control.isUnavailable := by
  induction reports generalizing control with
  | nil => exact ⟨rfl, rfl⟩
  | cons deviceId reports ih => exact ih _

namespace RestartSystem

/-- The monitor's view of the status agrees with the control's. -/
structure StatusAgrees (system : RestartSystem) : Prop where
  rule : system.monitor.hasStatusRule = decide (system.control.mode = .remote)
  empty : system.control.mode = .remote →
    system.monitor.isStatusEmpty = system.control.isUnavailable
  published : system.control.mode = .remote →
    (system.published = some (.inactive .unavailable) ↔ system.control.isUnavailable = true)

variable {system : RestartSystem}

theorem StatusAgrees.initial (mode : Mode) (hasLogging : Finset UInt8)
    (copies : List LoggingCopy) : (initial mode hasLogging copies).StatusAgrees := by
  refine ⟨rfl, fun _ => rfl, fun _ => ?_⟩
  simp [RestartSystem.initial]

/-- What a publication leaves: the control is told of Unavailable exactly when there is no
copy, and gets the transition only from Unavailable to Stopped. -/
theorem publishCombined_spec (mode : system.control.mode = .remote)
    (published : system.published = some (.inactive .unavailable) ↔
      system.control.isUnavailable = true) :
    (system.publishCombined.1.published = some (.inactive .unavailable) ↔ system.copies = []) ∧
      (system.publishCombined.1.control.isUnavailable = true ↔ system.copies = []) ∧
      (system.publishCombined.2 = true ↔
        system.control.isUnavailable = true ∧ combine system.copies = .inactive .stopped) := by
  unfold publishCombined
  dsimp only
  split_ifs with same
  · have unavailable := published
    rw [same, Option.some.injEq, combine_eq_unavailable_iff] at unavailable
    refine ⟨by rw [same, Option.some.injEq, combine_eq_unavailable_iff], unavailable.symm, ?_⟩
    constructor
    · exact fun back => nomatch back
    · rintro ⟨isUnavailable, stopped⟩
      rw [unavailable.mpr isUnavailable] at stopped
      exact nomatch stopped
  · refine ⟨by rw [Option.some.injEq, combine_eq_unavailable_iff], ?_, ?_⟩
    · rw [← combine_eq_unavailable_iff]
      cases combined : combine system.copies <;>
        simp [RemoteLoggingControl.onStatusUpdated, LoggingState.isActive, LoggingState.reason]
    · simp [mode, and_comm]

@[simp] theorem publishCombined_monitor :
    system.publishCombined.1.monitor = system.monitor := by
  unfold publishCombined
  dsimp only
  split_ifs <;> rfl

@[simp] theorem publishCombined_copies :
    system.publishCombined.1.copies = system.copies := by
  unfold publishCombined
  dsimp only
  split_ifs <;> rfl

@[simp] theorem publishCombined_mode :
    system.publishCombined.1.control.mode = system.control.mode := by
  unfold publishCombined
  dsimp only
  split_ifs <;> rfl

theorem publishCombined_peer (peer : system.control.mode ≠ .remote) :
    system.publishCombined.2 = false := by
  unfold publishCombined
  dsimp only
  split_ifs
  · rfl
  · simp [peer]

end RestartSystem

namespace FollowedSystem

/-- Armed units are owed a report; reported units have a copy, and there are none while no
unit had a copy at the last call. -/
structure Sound (followed : FollowedSystem) : Prop where
  status : followed.system.StatusAgrees
  armed : followed.system.monitor.restarted ⊆ followed.history.owed
  present : followed.history.reported ⊆ deviceIdsOf followed.system.copies
  silent : followed.system.control.mode = .remote →
    followed.system.monitor.isStatusEmpty = true → followed.history.reported = ∅

/-- No unit whose copy came with the transition is armed in that return. -/
def Uncovered (followed : FollowedSystem) : Prop :=
  Disjoint followed.system.monitor.restarted followed.history.covered

variable {followed : FollowedSystem}

theorem take_nothing (history : ReturnHistory) (copies : List LoggingCopy) :
    history.take copies {} = history := by
  simp [ReturnHistory.take]

/-! #### Device events -/

theorem restarted_onDeviceEvent_subset (sound : followed.Sound) (event : CdmpDeviceEvent)
    (device : CdmpDeviceInfo) :
    (followed.system.monitor.onDeviceEvent followed.system.copies event device).restarted ⊆
      (followed.noted (.deviceEvent event device)).owed := by
  cases event with
  | left => exact Finset.erase_subset_erase _ sound.armed
  | joined | restarted =>
    simp only [RestartMonitor.onDeviceEvent, noted, ReturnHistory.note]
    split_ifs
    · exact Finset.insert_subset_insert _ sound.armed
    · exact sound.armed

theorem reported_noted_subset (step : RestartStep) :
    (followed.noted step).reported ⊆ followed.history.reported := by
  cases step with
  | deviceEvent event device =>
    cases event with
    | left => exact Finset.erase_subset _ _
    | joined | restarted =>
      simp only [noted, ReturnHistory.note]
      split_ifs <;> exact Finset.erase_subset _ _
  | heartbeat deviceId features =>
    simp only [noted, ReturnHistory.note]
    split_ifs
    · exact Finset.Subset.refl _
    · exact Finset.Subset.refl _
    · exact Finset.erase_subset _ _
    · exact Finset.Subset.refl _
  | copiesChanged copies => exact Finset.inter_subset_left
  | statesChanged => exact Finset.Subset.refl _

theorem Sound.deviceEvent (sound : followed.Sound) (event : CdmpDeviceEvent)
    (device : CdmpDeviceInfo) : (followed.next (.deviceEvent event device)).Sound := by
  have history : (followed.next (.deviceEvent event device)).history =
      followed.noted (.deviceEvent event device) := take_nothing _ _
  have kept : (followed.system.monitor.onDeviceEvent followed.system.copies event
        device).hasStatusRule = followed.system.monitor.hasStatusRule ∧
      (followed.system.monitor.onDeviceEvent followed.system.copies event
        device).isStatusEmpty = followed.system.monitor.isStatusEmpty := by
    cases event with
    | left => exact ⟨rfl, rfl⟩
    | joined | restarted =>
      simp only [RestartMonitor.onDeviceEvent]
      split_ifs <;> exact ⟨rfl, rfl⟩
  constructor
  case status =>
    exact ⟨kept.1.trans sound.status.rule, fun remote => kept.2.trans (sound.status.empty remote),
      sound.status.published⟩
  case armed =>
    rw [history]
    exact restarted_onDeviceEvent_subset sound event device
  case present =>
    rw [history]
    exact (reported_noted_subset _).trans sound.present
  case silent =>
    intro remote empty
    rw [history, ← Finset.subset_empty, ← sound.silent remote (kept.2.symm.trans empty)]
    exact reported_noted_subset _

/-! #### Heartbeats -/

theorem noteFeatures_fields (monitor : RestartMonitor) (deviceId : UInt8) (features : UInt16) :
    (monitor.noteFeatures deviceId features).hasStatusRule = monitor.hasStatusRule ∧
      (monitor.noteFeatures deviceId features).isStatusEmpty = monitor.isStatusEmpty := by
  simp only [RestartMonitor.noteFeatures]
  split_ifs <;> exact ⟨rfl, rfl⟩

theorem restarted_noteFeatures_subset (sound : followed.Sound) (deviceId : UInt8)
    (features : UInt16) :
    (followed.system.monitor.noteFeatures deviceId features).restarted ⊆
      (followed.noted (.heartbeat deviceId features)).owed := by
  simp only [RestartMonitor.noteFeatures, noted, ReturnHistory.note]
  by_cases logs : hasLoggingFeature features = true <;>
    by_cases known : deviceId ∈ followed.system.monitor.hasLogging
  · simp only [logs, known, not_true, and_false, if_true, if_false]
    exact sound.armed
  · simp only [logs, known, not_false_eq_true, and_true, if_true, if_false]
    exact Finset.insert_subset_insert _ sound.armed
  · simp only [logs, known, if_true]
    exact sound.armed
  · simp only [logs, known, if_false]
    exact sound.armed

theorem onHeartbeat_silent {monitor : RestartMonitor} (rule : monitor.hasStatusRule = true)
    (empty : monitor.isStatusEmpty = true) (copies : List LoggingCopy) (deviceId : UInt8)
    (features : UInt16) : (monitor.onHeartbeat copies deviceId features).2 = [] := by
  have kept := noteFeatures_fields monitor deviceId features
  unfold RestartMonitor.onHeartbeat
  dsimp only
  rw [if_pos (Or.inr (by simp [kept.1, kept.2, rule, empty]))]

/-- The reports of a pass are owed, where the armed units before it were. -/
theorem reportsOwed_of_resolves {step : RestartStep} {monitor : RestartMonitor}
    {resolved : RestartMonitor × List UInt8}
    (resolves : Resolves followed.system.copies monitor resolved)
    (armed : monitor.restarted ⊆ (followed.noted step).owed)
    (same : (followed.signals step).reports = resolved.2) : followed.ReportsOwed step := by
  rw [ReportsOwed, same]
  refine ⟨resolves.nodup, fun deviceId reported => ⟨?_, resolves.stopped deviceId reported⟩⟩
  exact armed (resolves.armed deviceId reported).1

theorem Sound.heartbeat (sound : followed.Sound) (deviceId : UInt8) (features : UInt16) :
    (followed.next (.heartbeat deviceId features)).Sound := by
  have resolves := followed.system.monitor.resolves_onHeartbeat followed.system.copies deviceId
    features
  have told := control_report
    (followed.system.monitor.onHeartbeat followed.system.copies deviceId features).2
    followed.system.control
  have kept := noteFeatures_fields followed.system.monitor deviceId features
  have rule := congrArg RestartMonitor.hasStatusRule resolves.rest
  have empty := congrArg RestartMonitor.isStatusEmpty resolves.rest
  dsimp only at rule empty
  rw [kept.1] at rule
  rw [kept.2] at empty
  constructor
  case status =>
    refine ⟨?_, fun remote => ?_, fun remote => ?_⟩
    · exact rule.trans (sound.status.rule.trans (by rw [← told.1]; rfl))
    · exact empty.trans ((sound.status.empty (told.1.symm.trans remote)).trans told.2.symm)
    · exact (sound.status.published (told.1.symm.trans remote)).trans (by rw [← told.2]; rfl)
  case armed =>
    have owed := resolves.owed_subset (restarted_noteFeatures_subset sound deviceId features)
    exact owed.trans (by simp [next, ReturnHistory.take, signals, RestartSystem.step])
  case present =>
    exact Finset.union_subset ((reported_noted_subset _).trans sound.present)
      resolves.reports_present
  case silent =>
    intro remote isEmpty
    have before := empty.symm.trans isEmpty
    have following : followed.system.monitor.hasStatusRule = true := by
      rw [sound.status.rule]
      exact decide_eq_true (told.1.symm.trans remote)
    have none : (followed.noted (.heartbeat deviceId features)).reported = ∅ := by
      rw [← Finset.subset_empty, ← sound.silent (told.1.symm.trans remote) before]
      exact reported_noted_subset _
    have quiet := onHeartbeat_silent following before followed.system.copies deviceId features
    simp [next, ReturnHistory.take, signals, RestartSystem.step, none, quiet]

/-! #### The copies and the state handler calls -/

theorem Sound.copiesChanged (sound : followed.Sound) (copies : List LoggingCopy) :
    (followed.next (.copiesChanged copies)).Sound := by
  have history : (followed.next (.copiesChanged copies)).history =
      followed.noted (.copiesChanged copies) := take_nothing _ _
  constructor
  case status => exact ⟨sound.status.rule, sound.status.empty, sound.status.published⟩
  case armed =>
    rw [history]
    exact sound.armed
  case present =>
    rw [history]
    exact Finset.inter_subset_right
  case silent =>
    intro remote empty
    rw [history, ← Finset.subset_empty, ← sound.silent remote empty]
    exact reported_noted_subset _

/-- What a state handler call does, beside the reports. -/
theorem statesChanged_spec (sound : followed.Sound) :
    let system := (followed.system.step .statesChanged).1
    system.monitor = (followed.system.monitor.onStatesChanged followed.system.copies).1 ∧
      system.copies = followed.system.copies ∧
      system.control.mode = followed.system.control.mode ∧
      system.StatusAgrees ∧
      ((followed.signals .statesChanged).isStatusBack = true →
        followed.system.control.mode = .remote ∧
        followed.system.monitor.isStatusEmpty = true ∧
        RestartMonitor.isCombinedStatusStopped followed.system.copies = true) := by
  intro system
  have resolves := followed.system.monitor.resolves_onStatesChanged followed.system.copies
  let told : RestartSystem :=
    ({ followed.system with
      monitor := (followed.system.monitor.onStatesChanged followed.system.copies).1 } :
        RestartSystem).report (followed.system.monitor.onStatesChanged followed.system.copies).2
  have control := control_report
    (followed.system.monitor.onStatesChanged followed.system.copies).2 followed.system.control
  have monitor : system.monitor =
      (followed.system.monitor.onStatesChanged followed.system.copies).1 :=
    RestartSystem.publishCombined_monitor
  have mode : system.control.mode = followed.system.control.mode :=
    RestartSystem.publishCombined_mode.trans control.1
  -- Reporting and publishing touch neither the rule nor the flag of the monitor.
  have rule := congrArg RestartMonitor.hasStatusRule resolves.rest
  have empty := congrArg RestartMonitor.isStatusEmpty resolves.rest
  have published (remote : followed.system.control.mode = .remote) :=
    told.publishCombined_spec (control.1.trans remote)
      ((sound.status.published remote).trans (by rw [← control.2]; rfl))
  refine ⟨monitor, RestartSystem.publishCombined_copies, mode, ⟨?_, ?_, ?_⟩, ?_⟩
  · rw [monitor, mode]
    exact rule.trans sound.status.rule
  · intro remote
    rw [monitor, empty, Bool.eq_iff_iff, decide_eq_true_iff]
    exact (published (mode.symm.trans remote)).2.1.symm
  · intro remote
    obtain ⟨same, unavailable, -⟩ := published (mode.symm.trans remote)
    exact same.trans unavailable.symm
  · intro back
    by_cases remote : followed.system.control.mode = .remote
    · obtain ⟨unavailable, stopped⟩ := (published remote).2.2.mp back
      refine ⟨remote, ?_, combine_eq_stopped_iff.mp stopped⟩
      rw [sound.status.empty remote, ← control.2]
      exact unavailable
    · have peer : told.control.mode ≠ .remote := by
        rw [show told.control.mode = followed.system.control.mode from control.1]
        exact remote
      have missed : (followed.signals .statesChanged).isStatusBack = false :=
        RestartSystem.publishCombined_peer peer
      exact absurd back (by simp [missed])

/-- The call that brings the transition reports no unit and clears those with a copy. -/
theorem statesChanged_back (sound : followed.Sound)
    (back : (followed.signals .statesChanged).isStatusBack = true) :
    (followed.signals .statesChanged).reports = [] ∧
      (followed.next .statesChanged).system.monitor.restarted =
        followed.system.monitor.restarted \ deviceIdsOf followed.system.copies := by
  obtain ⟨monitor, -, -, -, transition⟩ := statesChanged_spec sound
  obtain ⟨remote, empty, stopped⟩ := transition back
  have rule : followed.system.monitor.hasStatusRule = true := by simp [sound.status.rule, remote]
  have left := followed.system.monitor.onStatesChanged_left followed.system.copies rule empty
    stopped
  exact ⟨left.1, (congrArg RestartMonitor.restarted monitor).trans left.2⟩

theorem Sound.statesChanged (sound : followed.Sound) : (followed.next .statesChanged).Sound := by
  obtain ⟨monitor, copies, mode, status, -⟩ := statesChanged_spec sound
  have resolves := followed.system.monitor.resolves_onStatesChanged followed.system.copies
  have owed := resolves.owed_subset sound.armed
  constructor
  case status => exact status
  case armed =>
    intro deviceId inside
    cases back : (followed.signals .statesChanged).isStatusBack with
    | false =>
      have member : deviceId ∈ followed.history.owed \
          (followed.signals .statesChanged).reports.toFinset := owed (monitor ▸ inside)
      simpa [next, ReturnHistory.take, back, noted, ReturnHistory.note] using member
    | true =>
      -- The return of the status covers every unit that is there: none of them stays armed.
      obtain ⟨none, cleared⟩ := statesChanged_back sound back
      rw [cleared, Finset.mem_sdiff] at inside
      have member := sound.armed inside.1
      have absent := inside.2
      rw [← copies] at absent
      simp [next, ReturnHistory.take, back, noted, ReturnHistory.note, none, member, absent]
  case present =>
    have reports : (followed.signals .statesChanged).reports.toFinset ⊆
        deviceIdsOf (followed.next .statesChanged).system.copies := by
      rw [show (followed.next .statesChanged).system.copies = followed.system.copies from copies]
      exact resolves.reports_present
    refine Finset.union_subset ?_ reports
    rw [show (followed.next .statesChanged).system.copies = followed.system.copies from copies]
    exact sound.present
  case silent =>
    intro remote isEmpty
    have empty := congrArg RestartMonitor.isStatusEmpty resolves.rest
    -- An empty status means that no copies are left, so nobody can be reported.
    have none : followed.system.copies = [] := by
      have now : (followed.next .statesChanged).system.monitor.isStatusEmpty = _ :=
        (congrArg RestartMonitor.isStatusEmpty monitor).trans empty
      rw [isEmpty] at now
      simpa using now.symm
    have unreported : followed.history.reported = ∅ := by
      have present := sound.present
      rw [none] at present
      exact Finset.subset_empty.mp present
    have quiet : (followed.signals .statesChanged).reports = [] := by
      change (followed.system.monitor.onStatesChanged followed.system.copies).2 = []
      simp [RestartMonitor.onStatesChanged, none]
    simp [next, ReturnHistory.take, noted, ReturnHistory.note, unreported, quiet]

/-! #### Every run -/

theorem Sound.next (sound : followed.Sound) (step : RestartStep) : (followed.next step).Sound := by
  cases step with
  | deviceEvent event device => exact sound.deviceEvent event device
  | heartbeat deviceId features => exact sound.heartbeat deviceId features
  | copiesChanged copies => exact sound.copiesChanged copies
  | statesChanged => exact sound.statesChanged

theorem Sound.reportsOwed (sound : followed.Sound) (step : RestartStep) :
    followed.ReportsOwed step := by
  cases step with
  | deviceEvent | copiesChanged => exact ⟨List.nodup_nil, fun _ absent => nomatch absent⟩
  | heartbeat deviceId features =>
    exact reportsOwed_of_resolves
      (followed.system.monitor.resolves_onHeartbeat followed.system.copies deviceId features)
      (restarted_noteFeatures_subset sound deviceId features) rfl
  | statesChanged =>
    exact reportsOwed_of_resolves
      (followed.system.monitor.resolves_onStatesChanged followed.system.copies) sound.armed rfl

/-- The units armed after a device event or the features of a heartbeat are not covered in
their return. -/
theorem Uncovered.noteFeatures (uncovered : followed.Uncovered) {deviceId : UInt8}
    {features : UInt16} (gains : followed.GainsBeforeTransition (.heartbeat deviceId features)) :
    Disjoint (followed.system.monitor.noteFeatures deviceId features).restarted
      (followed.noted (.heartbeat deviceId features)).covered := by
  simp only [RestartMonitor.noteFeatures, noted, ReturnHistory.note]
  by_cases logs : hasLoggingFeature features = true <;>
    by_cases known : deviceId ∈ followed.system.monitor.hasLogging
  · simp only [logs, known, not_true, and_false, if_true, if_false]
    exact uncovered
  · simp only [logs, known, not_false_eq_true, and_true, if_true, if_false]
    exact Finset.disjoint_insert_left.mpr ⟨gains logs known, uncovered⟩
  · simp only [logs, known, if_true]
    exact uncovered.mono_right (Finset.erase_subset _ _)
  · simp only [logs, known, if_false]
    exact uncovered

theorem Uncovered.onDeviceEvent (uncovered : followed.Uncovered) (event : CdmpDeviceEvent)
    (device : CdmpDeviceInfo) :
    Disjoint (followed.system.monitor.onDeviceEvent followed.system.copies event device).restarted
      (followed.noted (.deviceEvent event device)).covered := by
  cases event with
  | left =>
    exact uncovered.mono (Finset.erase_subset _ _) (Finset.erase_subset _ _)
  | joined | restarted =>
    simp only [RestartMonitor.onDeviceEvent, noted, ReturnHistory.note]
    split_ifs
    · exact Finset.disjoint_insert_left.mpr
        ⟨Finset.notMem_erase _ _, uncovered.mono_right (Finset.erase_subset _ _)⟩
    · exact uncovered.mono_right (Finset.erase_subset _ _)

theorem Uncovered.next (uncovered : followed.Uncovered) (sound : followed.Sound)
    {step : RestartStep} (gains : followed.GainsBeforeTransition step) :
    (followed.next step).Uncovered := by
  -- Only the return of the status adds to the covered units, and it clears the armed ones that it
  -- covers.
  cases step with
  | deviceEvent event device =>
    rw [Uncovered, show (followed.next (.deviceEvent event device)).history =
      followed.noted (.deviceEvent event device) from take_nothing _ _]
    exact uncovered.onDeviceEvent event device
  | heartbeat deviceId features =>
    have resolves := followed.system.monitor.resolves_onHeartbeat followed.system.copies deviceId
      features
    have before := (uncovered.noteFeatures gains).mono_left resolves.subset
    have covered : (followed.next (.heartbeat deviceId features)).history.covered =
        (followed.noted (.heartbeat deviceId features)).covered := by
      simp [FollowedSystem.next, ReturnHistory.take, signals, RestartSystem.step]
    rw [Uncovered, covered]
    exact before
  | copiesChanged copies =>
    rw [Uncovered, show (followed.next (.copiesChanged copies)).history =
      followed.noted (.copiesChanged copies) from take_nothing _ _]
    exact uncovered.mono_right Finset.inter_subset_left
  | statesChanged =>
    obtain ⟨monitor, copies, -, -, -⟩ := statesChanged_spec sound
    cases back : (followed.signals .statesChanged).isStatusBack with
    | false =>
      have resolves := followed.system.monitor.resolves_onStatesChanged followed.system.copies
      have before : Disjoint (followed.next .statesChanged).system.monitor.restarted
          followed.history.covered := by
        refine uncovered.mono_left ?_
        rw [show (followed.next .statesChanged).system.monitor = _ from monitor]
        exact resolves.subset
      simpa [Uncovered, FollowedSystem.next, ReturnHistory.take, back, noted, ReturnHistory.note]
        using before
    | true =>
      obtain ⟨-, cleared⟩ := statesChanged_back sound back
      have covered : (followed.next .statesChanged).history.covered =
          followed.history.covered ∪ deviceIdsOf followed.system.copies := by
        simp [FollowedSystem.next, ReturnHistory.take, back, noted, ReturnHistory.note, copies]
      rw [Uncovered, cleared, covered, Finset.disjoint_union_right]
      exact ⟨uncovered.mono_left Finset.sdiff_subset, Finset.sdiff_disjoint⟩

theorem oneStart (sound : followed.Sound) (uncovered : followed.Uncovered) {step : RestartStep}
    (gains : followed.GainsBeforeTransition step) : followed.OneStart step := by
  cases step with
  | deviceEvent | copiesChanged =>
    exact ⟨fun _ absent => (nomatch absent), fun back => (nomatch back)⟩
  | heartbeat deviceId features =>
    have resolves := followed.system.monitor.resolves_onHeartbeat followed.system.copies deviceId
      features
    refine ⟨fun other reported => ?_, fun back => nomatch back⟩
    exact Finset.disjoint_left.mp (uncovered.noteFeatures gains)
      (resolves.armed other reported).1
  | statesChanged =>
    have resolves := followed.system.monitor.resolves_onStatesChanged followed.system.copies
    refine ⟨fun other reported => ?_, fun back copy member => ?_⟩
    · exact Finset.disjoint_left.mp uncovered (resolves.armed other reported).1
    · obtain ⟨-, -, -, -, transition⟩ := statesChanged_spec sound
      obtain ⟨remote, empty, -⟩ := transition back
      have unreported : (followed.noted .statesChanged).reported = ∅ := sound.silent remote empty
      rw [(statesChanged_back sound back).1, unreported]
      exact ⟨Finset.notMem_empty _, List.not_mem_nil⟩

/-- The system at the start of a run, with no return yet. -/
def initial (mode : Mode) (hasLogging : Finset UInt8) (copies : List LoggingCopy) :
    FollowedSystem where
  system := .initial mode hasLogging copies

theorem sound_initial (mode : Mode) (hasLogging : Finset UInt8) (copies : List LoggingCopy) :
    (initial mode hasLogging copies).Sound where
  status := .initial mode hasLogging copies
  armed := Finset.empty_subset _
  present := Finset.empty_subset _
  silent := fun _ _ => rfl

/-- In every run of device events, heartbeats, changes of the copies and state handler
calls, each report is owed; and if no unit gains LOGGING in a return in which the
transition came with its copy, no unit gets both for one return. -/
theorem one_start_per_return (mode : Mode) (hasLogging : Finset UInt8)
    (copies : List LoggingCopy) (steps : List RestartStep) :
    Along next ReportsOwed (initial mode hasLogging copies) steps ∧
      (Along next GainsBeforeTransition (initial mode hasLogging copies) steps →
        Along next OneStart (initial mode hasLogging copies) steps) := by
  have sound := sound_initial mode hasLogging copies
  have uncovered : (initial mode hasLogging copies).Uncovered := Finset.disjoint_empty_right _
  generalize initial mode hasLogging copies = followed at sound uncovered ⊢
  constructor
  · exact along_of_preserved sound (fun _ step before => before.next step)
      (fun _ step before => before.reportsOwed step) steps
  · intro gains
    induction steps generalizing followed with
    | nil => trivial
    | cons step steps ih =>
      exact ⟨oneStart sound uncovered gains.1,
        ih _ (sound.next step) (uncovered.next sound gains.1) gains.2⟩

/-- A logging unit joins while no unit has a copy, and its record ends the spell: the
transition comes with it, and its next heartbeat reports nothing. -/
theorem one_start_per_return_join :
    Along next OneStart (initial .remote ∅ [])
      [.statesChanged, .deviceEvent .joined ⟨5, 10, 8, .online⟩,
        .copiesChanged [⟨5, .inactive .stopped, false⟩], .statesChanged, .heartbeat 5 8] :=
  (one_start_per_return .remote ∅ [] _).2 (by decide +kernel)

/-- The unit joins before its writer has set the LOGGING bit. Its record ends the spell,
then a heartbeat carries the bit: the control gets the transition and a report. -/
theorem not_one_start_per_return :
    ¬Along next OneStart (initial .remote ∅ [])
      [.statesChanged, .deviceEvent .joined ⟨5, 10, 0, .online⟩,
        .copiesChanged [⟨5, .inactive .stopped, false⟩], .statesChanged, .heartbeat 5 8] := by
  rintro ⟨-, -, -, -, oneStart, -⟩
  exact oneStart.1 5 (by decide +kernel) (by decide +kernel)

end FollowedSystem

end RtCore.Logging
