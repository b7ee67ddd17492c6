import RtCore.Cdmp.DeviceTable
import RtCore.Cdmp.Unit

/-!
# Sessions

The network service of a unit runs from the start of the unit to its stop, or to the error
or version mismatch that stops it: a session. Work queued in a session is dropped once the
session is over, so nothing but the start of the unit wakes a stopped service up.

## Main definitions

* `CdmpNetworkService.Idle`, `CdmpNetworkService.Settled` — a service outside its sessions
  has nothing scheduled, an empty table and is not ONLINE
* `CdmpNetworkService.Reports` — a status change is reported once, and work is queued for
  the session that goes on
* `CdmpUnit.StepCase` — the steps of a unit, by what they do to its network service
* `CdmpUnit.Sessional` — what holds of a unit between its steps

## Main results

* `CdmpUnit.sessional_step` — every step keeps it
-/

namespace RtCore.Cdmp

open RtCore.Foundation

/-! ### Effects -/

/-- The status changes among the effects. -/
def statusChanges (effects : List NetworkEffect) : List CdmpStatusChange :=
  effects.filterMap fun
    | .statusChanged change => some change
    | _ => none

/-- An effect that is neither a status change nor work for the queue. -/
def NetworkEffect.isAboutPeers : NetworkEffect → Bool
  | .statusChanged _ => false
  | .runInSession _ _ => false
  | _ => true

/-- The work that the effects put into the queue. -/
def queuedWork (effects : List NetworkEffect) : List UnitWork :=
  effects.filterMap fun
    | .runInSession session work => some (.network session work)
    | _ => none

@[simp] theorem statusChanges_append (first second : List NetworkEffect) :
    statusChanges (first ++ second) = statusChanges first ++ statusChanges second :=
  List.filterMap_append

@[simp] theorem queuedWork_append (first second : List NetworkEffect) :
    queuedWork (first ++ second) = queuedWork first ++ queuedWork second :=
  List.filterMap_append

theorem mem_queuedWork {effects : List NetworkEffect} {work : UnitWork} :
    work ∈ queuedWork effects ↔
      ∃ session networkWork, .runInSession session networkWork ∈ effects ∧
        work = .network session networkWork := by
  simp only [queuedWork, List.mem_filterMap]
  constructor
  · rintro ⟨effect, member, isWork⟩
    cases effect with
    | runInSession session networkWork =>
      exact ⟨session, networkWork, member, (Option.some.inj isWork).symm⟩
    | _ => cases isWork
  · rintro ⟨session, networkWork, member, rfl⟩
    exact ⟨_, member, rfl⟩

namespace CdmpNetworkService

variable {service before after : CdmpNetworkService}

/-! ### Reports of a step -/

/-- A move of the own status says which status it left and which it reached. -/
def ReportsStatus (move : CdmpDevice → CdmpDevice × Option CdmpStatusChange) : Prop :=
  ∀ device, (move device).1.deviceId = device.deviceId ∧
    (move device).2 =
      if (move device).1.status = device.status then none
      else some ⟨device.status, (move device).1.status⟩

theorem reportsStatus_setStatus (newStatus : CdmpDeviceStatus) (force : Bool) :
    ReportsStatus (·.setStatus newStatus force) := by
  intro device
  rcases device.setStatus_cases newStatus force with same | ⟨other, -, moved⟩
  · simp [same]
  · simp [moved, other]

theorem reportsStatus_reset : ReportsStatus (·.reset) := by
  intro device
  have reports := reportsStatus_setStatus .offline false device
  exact reports

/-- Outside a session nothing is scheduled, nothing is known, and the unit is not ONLINE. -/
structure Idle (service : CdmpNetworkService) : Prop where
  isRunning : service.isRunning = false
  isDiscoveryTaskScheduled : service.isDiscoveryTaskScheduled = false
  isIdClaimTaskScheduled : service.isIdClaimTaskScheduled = false
  offline : service.device.status ≠ .online
  networkDevices : service.networkDevices = .empty
  pendingIdClaims : ∀ claim ∈ service.pendingIdClaims, claim.deviceId = deviceIdUnassigned

/-- In a session, or idle. -/
def Settled (service : CdmpNetworkService) : Prop := service.isRunning = true ∨ service.Idle

/-- The status is reported where it changed, work is queued for the running session, and the
session goes on or is over. -/
structure Reports (service : CdmpNetworkService)
    (result : CdmpNetworkService × List NetworkEffect) : Prop where
  statusChanges : statusChanges result.2 =
    if result.1.device.status = service.device.status then []
    else [⟨service.device.status, result.1.device.status⟩]
  work : ∀ session work, .runInSession session work ∈ result.2 → session = service.session
  session :
    (result.1.isRunning = service.isRunning ∧ result.1.session = service.session) ∨
      (service.isRunning = true ∧ result.1.Idle ∧ result.1.session = service.session + 1)

theorem Reports.congr {result : CdmpNetworkService × List NetworkEffect}
    (reports : Reports before result) (status : before.device.status = service.device.status)
    (running : before.isRunning = service.isRunning) (session : before.session = service.session) :
    Reports service result := by
  obtain ⟨changes, work, goesOn⟩ := reports
  rw [status] at changes
  rw [session] at work
  rw [running, session] at goesOn
  exact ⟨changes, work, goesOn⟩

/-- A step that has nothing to do with the own status. -/
theorem reports_of_same {result : CdmpNetworkService × List NetworkEffect}
    (status : result.1.device.status = service.device.status)
    (running : result.1.isRunning = service.isRunning)
    (session : result.1.session = service.session)
    (silent : Cdmp.statusChanges result.2 = [])
    (work : ∀ session work, .runInSession session work ∈ result.2 → session = service.session) :
    Reports service result :=
  ⟨by rw [silent, if_pos status], work, Or.inl ⟨running, session⟩⟩

/-- A step that changes the table only. -/
theorem reports_of_tableUpdate {result : CdmpNetworkService × List NetworkEffect}
    (update : TableUpdate service result.1) (peers : ∀ effect ∈ result.2, effect.isAboutPeers) :
    Reports service result := by
  obtain ⟨_, _, _, _, _, same⟩ := update
  have silent : Cdmp.statusChanges result.2 = [] := by
    refine List.filterMap_eq_nil_iff.mpr fun effect member => ?_
    -- Neither of the two other kinds of effect is about the peers.
    have about := peers effect member
    cases effect <;> first | rfl | cases about
  refine reports_of_same ?_ ?_ ?_ silent fun _ _ queued => ?_
  · rw [same]
    rfl
  · rw [same]
    rfl
  · rw [same]
    rfl
  · cases peers _ queued

/-- A stopped service is idle unless its unit is ONLINE. -/
theorem idle_stop (running : service.isRunning = true) (offline : service.device.status ≠ .online) :
    service.stop.Idle ∧ service.stop.session = service.session + 1 := by
  unfold stop
  rw [if_pos running]
  exact ⟨⟨rfl, rfl, rfl, offline, rfl, fun claim free => by simp_all [clearAllDevices]⟩, rfl⟩

/-- A start from outside a session begins with an empty table. -/
theorem start_of_stopped (stopped : service.isRunning = false) :
    ∃ isValidationTaskRunning, service.start =
      { service.clearAllDevices with isRunning := true, isValidationTaskRunning } := by
  have notRunning : ¬ service.isRunning = true := by simp [stopped]
  rw [start, if_neg notRunning, startValidationTask]
  split_ifs
  · exact ⟨_, rfl⟩
  · exact ⟨_, rfl⟩

/-- The work a status starts. -/
def statusWork : CdmpDeviceStatus → List NetworkWork
  | .init => [.startInitialization]
  | .claiming => [.startIdClaim]
  | _ => []

/-- The statuses that stop the service. -/
def stopsService : CdmpDeviceStatus → Bool
  | .versionMismatch => true
  | .error => true
  | _ => false

/-- A transition does nothing, stops the service, or starts the work of the new status. -/
theorem transition_cases (service : CdmpNetworkService)
    {move : CdmpDevice → CdmpDevice × Option CdmpStatusChange} (reported : ReportsStatus move) :
    let moved := (move service.device).1
    let change : CdmpStatusChange := ⟨service.device.status, moved.status⟩
    (moved.status = service.device.status ∧
      service.transition move = ({ service with device := moved }, [])) ∨
    (moved.status ≠ service.device.status ∧
      ((stopsService moved.status = true ∧ service.transition move =
        (stop { service with device := moved }, [.statusChanged change])) ∨
      stopsService moved.status = false ∧ ∃ isValidationTaskRunning, service.transition move =
        ({ service with device := moved, isValidationTaskRunning },
          .statusChanged change ::
            (statusWork moved.status).map (.runInSession service.session)))) := by
  obtain ⟨-, change⟩ := reported service.device
  unfold transition
  -- Only the reported change matters, not how the device came to it.
  generalize move service.device = moved at change
  obtain ⟨device, reportedChange⟩ := moved
  dsimp only at change
  split_ifs at change with same
  · subst change
    exact Or.inl ⟨same, rfl⟩
  · subst change
    refine Or.inr ⟨same, ?_⟩
    dsimp only
    cases device.status with
    | init => exact Or.inr ⟨rfl, _, rfl⟩
    | claiming => exact Or.inr ⟨rfl, _, rfl⟩
    | offline => exact Or.inr ⟨rfl, _, rfl⟩
    | versionMismatch => exact Or.inl ⟨rfl, rfl⟩
    | error => exact Or.inl ⟨rfl, rfl⟩
    | online =>
      simp only [onDeviceStatusChanged, startValidationTask]
      split_ifs <;> exact Or.inr ⟨rfl, _, rfl⟩

theorem ne_online_of_stopsService {status : CdmpDeviceStatus}
    (stops : stopsService status = true) : status ≠ .online := by
  rintro rfl
  cases stops

@[simp] theorem stop_device (service : CdmpNetworkService) :
    service.stop.device = service.device := by
  unfold stop
  split_ifs <;> rfl

theorem reports_transition (service : CdmpNetworkService)
    {move : CdmpDevice → CdmpDevice × Option CdmpStatusChange} (reported : ReportsStatus move) :
    Reports service (service.transition move) := by
  obtain ⟨same, moved⟩ | ⟨other, ⟨stops, moved⟩ | ⟨-, validation, moved⟩⟩ :=
    service.transition_cases reported
  · rw [moved]
    exact reports_of_same same rfl rfl rfl (by simp)
  · rw [moved]
    refine ⟨?_, by simp, ?_⟩
    · rw [stop_device, if_neg other]
      rfl
    · by_cases running : service.isRunning = true
      · exact Or.inr ⟨running, idle_stop running (ne_online_of_stopsService stops)⟩
      · exact Or.inl (by simp [stop, running])
  · rw [moved]
    refine ⟨?_, ?_, Or.inl ⟨rfl, rfl⟩⟩
    · rw [if_neg other]
      cases (move service.device).1.status <;> rfl
    · intro session work queued
      simp only [List.mem_cons, reduceCtorEq, List.mem_map, false_or] at queued
      obtain ⟨_, -, same⟩ := queued
      exact (NetworkEffect.runInSession.inj same).1.symm

/-! ### The functions of the service -/

theorem reports_runDiscoveryAttempt (service : CdmpNetworkService) :
    Reports service service.runDiscoveryAttempt := by
  have claims (done : CdmpNetworkService) : Reports done (done.transition (·.claimId)) :=
    reports_transition done (reportsStatus_setStatus .claiming false)
  unfold runDiscoveryAttempt
  dsimp only
  split
  · exact reports_of_same rfl rfl rfl rfl (by simp)
  split
  · exact (claims _).congr rfl rfl rfl
  have waits : service.waitForLowerUid.device = service.device ∧
      service.waitForLowerUid.isRunning = service.isRunning ∧
      service.waitForLowerUid.session = service.session := by
    unfold waitForLowerUid
    split <;> exact ⟨rfl, rfl, rfl⟩
  obtain ⟨device, running, session⟩ := waits
  split
  · exact (claims _).congr (congrArg (·.status) device) running session
  · refine reports_of_same (congrArg (·.status) device) running session ?_ ?_
    · dsimp only [sendFrame]
      split <;> rfl
    · dsimp only [sendFrame]
      split <;> simp

theorem reports_completeIdClaim (service : CdmpNetworkService) :
    Reports service service.completeIdClaim :=
  (reports_transition _ (reportsStatus_setStatus .online false)).congr rfl rfl rfl

theorem reports_runIdClaimAttempt (service : CdmpNetworkService) (now : ℕ) :
    Reports service (service.runIdClaimAttempt now) := by
  have completes := reports_completeIdClaim { service with isIdClaimTaskScheduled := false }
  unfold runIdClaimAttempt
  dsimp only
  split
  · exact reports_of_same rfl rfl rfl rfl (by simp)
  split
  · exact reports_of_same rfl rfl rfl rfl (by simp [runInSession])
  split
  · exact completes.congr rfl rfl rfl
  split
  -- The search drops claims that are too old, which is a write to the table.
  · have search := tableUpdate_firstAvailableId service now
    unfold getLowestAvailableId
    generalize (List.map UInt8.ofNat _) = candidates
    obtain ⟨⟨_, _, _, _, _, update⟩, -⟩ := search candidates
    split
    · rename_i found
      rw [found] at update
      dsimp only at update
      subst update
      exact reports_of_same rfl rfl rfl rfl (by simp [runInSession, withTable])
    · rename_i found
      rw [found] at update
      dsimp only at update
      subst update
      exact reports_of_same rfl rfl rfl rfl (by simp [sendIdClaim])
  split
  · exact completes.congr rfl rfl rfl
  · exact reports_of_same rfl rfl rfl rfl (by simp [sendIdClaim])

/-- A claim writes to the table and the claims, and what it did is reported. -/
theorem recordIdClaim_spec (service : CdmpNetworkService) (claim : CdmpIdClaimRequestMessage)
    (now : ℕ) :
    TableUpdate service (service.recordIdClaim claim now).1 ∧
      ∀ effect ∈ (service.recordIdClaim claim now).2, ∃ event info,
        effect = .deviceEvent event info := by
  obtain ⟨update, ⟨-, effects, -⟩ | ⟨_, -, -, effects, -⟩ | ⟨_, _, -, -, effects, -⟩⟩ :=
    service.recordIdClaim_cases claim now
  · exact ⟨update, by simp [effects]⟩
  · exact ⟨update, by simp [effects]⟩
  · exact ⟨update, by simp [effects]⟩

/-- So does a discovery response. -/
theorem updateDeviceFromDiscovery_spec (service : CdmpNetworkService)
    (discovery : CdmpDiscoveryResponseMessage) (now : ℕ) :
    TableUpdate service (service.updateDeviceFromDiscovery discovery now).1 ∧
      ∀ effect ∈ (service.updateDeviceFromDiscovery discovery now).2, ∃ event info,
        effect = .deviceEvent event info := by
  have left : TableUpdate service (service.removePreviousDevice discovery).1 ∧
      ∀ effect ∈ (service.removePreviousDevice discovery).2, ∃ event info,
        effect = .deviceEvent event info := by
    obtain ⟨update, ⟨effects, -⟩ | ⟨_, _, -, -, -, effects, -⟩⟩ :=
      service.removePreviousDevice_cases discovery
    · exact ⟨update, by simp [effects]⟩
    · exact ⟨update, by simp [effects]⟩
  obtain same | ⟨update, ⟨effects, -⟩ | ⟨_, -, -, effects, -⟩⟩ :=
    service.updateDeviceFromDiscovery_cases discovery now
  · rw [same]
    exact ⟨.refl service, by simp⟩
  · refine ⟨left.1.trans update, ?_⟩
    rw [effects]
    exact left.2
  · refine ⟨left.1.trans update, fun effect member => ?_⟩
    rw [effects] at member
    rcases List.mem_append.mp member with before | joined
    · exact left.2 effect before
    · exact ⟨_, _, List.mem_singleton.mp joined⟩

/-- A step that changes the table and reports it. -/
theorem reports_of_events {result : CdmpNetworkService × List NetworkEffect}
    (spec : TableUpdate service result.1 ∧
      ∀ effect ∈ result.2, ∃ event info, effect = .deviceEvent event info) :
    Reports service result := by
  refine reports_of_tableUpdate spec.1 fun effect member => ?_
  obtain ⟨_, _, rfl⟩ := spec.2 effect member
  rfl

theorem reports_updateDeviceFromHeartbeat (service : CdmpNetworkService)
    (heartbeat : CdmpHeartbeatMessage) (now : ℕ) :
    Reports service (service.updateDeviceFromHeartbeat heartbeat now) := by
  obtain ⟨update, ⟨-, frames | ⟨effects, -⟩, -⟩ | ⟨-, -, -, -, _, -, effects, -⟩⟩ :=
    service.updateDeviceFromHeartbeat_cases heartbeat now
  · refine reports_of_tableUpdate update fun effect member => ?_
    obtain ⟨frame, rfl⟩ := frames effect member
    rfl
  all_goals
    refine reports_of_tableUpdate update ?_
    rw [effects]
    simp [NetworkEffect.isAboutPeers]

/-- So do removals. -/
theorem removeDevices_spec (service : CdmpNetworkService) (deviceIds : List UInt8) :
    TableUpdate service (service.removeDevices deviceIds).1 ∧
      ∀ effect ∈ (service.removeDevices deviceIds).2, ∃ event info,
        effect = .deviceEvent event info := by
  induction deviceIds generalizing service with
  | nil => exact ⟨.refl service, by simp [removeDevices]⟩
  | cons deviceId deviceIds ih =>
    obtain ⟨update, told⟩ := ih (service.removeDevice deviceId).1
    refine ⟨(tableUpdate_removeDevice ..).trans update, fun effect member => ?_⟩
    rw [removeDevices] at member
    rcases List.mem_append.mp member with left | later
    -- A removal reports LEFT, or finds nothing to remove.
    · revert left
      unfold removeDevice
      cases service.networkDevices.find? deviceId <;> simp +contextual
    · exact told effect later

theorem reports_processPeriodicValidation (service : CdmpNetworkService) (now : ℕ) :
    Reports service (service.processPeriodicValidation now) := by
  unfold processPeriodicValidation
  split
  · obtain ⟨update, told⟩ := service.removeDevices_spec _
    exact reports_of_events ⟨update.trans ⟨_, _, _, _, _, rfl⟩, told⟩
  · exact reports_of_same rfl rfl rfl rfl (by simp)

theorem reports_processMessage (service : CdmpNetworkService) (message : CdmpManagementMessage)
    (now : ℕ) : Reports service (service.processMessage message now) := by
  cases message with
  | discoveryRequest message =>
    exact reports_of_same rfl rfl rfl rfl
      (by simp [processMessage, processDiscoveryRequest, runInSession])
  | discoveryResponse message =>
    simp only [processMessage, processDiscoveryResponse]
    split
    · exact (reports_transition _ (reportsStatus_setStatus .error false)).congr rfl rfl rfl
    · exact (reports_of_events (updateDeviceFromDiscovery_spec ..)).congr rfl rfl rfl
  | idClaim claim =>
    obtain ⟨changes, work, session⟩ := reports_of_events (service.recordIdClaim_spec claim now)
    simp only [processMessage, processIdClaimRequest]
    split
    · exact ⟨changes, work, session⟩
    split
    · exact ⟨changes, work, session⟩
    · refine ⟨?_, fun session networkWork queued => work session networkWork ?_, session⟩
      · rw [← changes, statusChanges_append]
        exact List.append_nil _
      · simpa using queued
  | idClaimResponse response =>
    simp only [processMessage, processIdClaimResponse]
    split_ifs <;> exact reports_of_same rfl rfl rfl rfl (by simp)

theorem reports_runWork (service : CdmpNetworkService) (work : NetworkWork) (now : ℕ) :
    Reports service (service.runWork work now) := by
  cases work with
  | processMessage message => exact service.reports_processMessage message now
  | startInitialization => exact reports_of_same rfl rfl rfl rfl (by simp [runWork])
  | startIdClaim => exact reports_of_same rfl rfl rfl rfl (by simp [runWork])
  | sendDiscoveryResponse =>
    simp only [runWork, sendDiscoveryResponse, sendFrame]
    split_ifs <;> exact reports_of_same rfl rfl rfl rfl (by simp)
  | enterVersionMismatch =>
    exact reports_transition _ (reportsStatus_setStatus .versionMismatch false)
  | enterError => exact reports_transition _ (reportsStatus_setStatus .error false)

/-! ### Outside a session -/

/-- A heartbeat that is still in the queue when the session is over has no effect. -/
theorem Idle.updateDeviceFromHeartbeat (idle : service.Idle) (heartbeat : CdmpHeartbeatMessage)
    (now : ℕ) :
    (service.updateDeviceFromHeartbeat heartbeat now).1.Idle ∧
      (service.updateDeviceFromHeartbeat heartbeat now).2 = [] := by
  -- A free slot stays free.
  have expired : ∀ claim ∈ (service.expirePendingIdClaims now).pendingIdClaims,
      claim.deviceId = deviceIdUnassigned := by
    intro claim member
    obtain ⟨before, isBefore, rfl⟩ := List.mem_map.mp member
    split_ifs
    · rfl
    · exact idle.pendingIdClaims before isBefore
  unfold CdmpNetworkService.updateDeviceFromHeartbeat
  dsimp only
  split_ifs with notPeer
  · exact ⟨idle, rfl⟩
  have assigned : heartbeat.deviceId ≠ deviceIdUnassigned := by
    intro unassigned
    simp [isPeerDeviceId, unassigned] at notPeer
  -- So the heartbeat is from a device that is neither pending nor known.
  have unclaimed : (service.findPendingIdClaim heartbeat.deviceId now).2 = none := by
    refine List.findIdx?_eq_none_iff.mpr fun claim member => ?_
    rw [expired claim member]
    simpa using assigned.symm
  have unknown : service.networkDevices.find? heartbeat.deviceId = none := by
    rw [idle.networkDevices]
    rfl
  rw [unclaimed, Option.bind_none]
  dsimp only [findPendingIdClaim, expirePendingIdClaims]
  rw [unknown]
  dsimp only [requestRediscovery]
  rw [if_pos (by simp [idle.isRunning])]
  exact ⟨{ idle with pendingIdClaims := expired }, rfl⟩

theorem Idle.processPeriodicValidation (idle : service.Idle) (now : ℕ) :
    (service.processPeriodicValidation now).1.Idle ∧
      (service.processPeriodicValidation now).2 = [] := by
  unfold CdmpNetworkService.processPeriodicValidation
  split_ifs
  · have none : service.iterated = [] := by
      refine List.eq_nil_iff_forall_not_mem.mpr fun device => ?_
      rw [mem_iterated, idle.networkDevices]
      exact List.not_mem_nil
    simp only [processPeriodicTasks, removeOfflineDevices, none]
    refine ⟨{ idle with offline := idle.offline, networkDevices := ?_ }, rfl⟩
    simp [removeDevices, updateNetworkDevices, updateLowestIdOnNetwork, updateStaggeredMessageDelay,
      CdmpDeviceTable.update, CdmpDeviceTable.empty, idle.networkDevices]
  · exact ⟨idle, rfl⟩

/-- The tasks of the service. -/
def isTask : NetworkLabel → Bool
  | .discoveryTask => true
  | .idClaimTask _ => true
  | .validationTask _ => true
  | _ => false

theorem Idle.task (idle : service.Idle) {label : NetworkLabel} (task : isTask label = true) :
    (service.step label).1.Idle ∧ (service.step label).2 = [] := by
  cases label with
  | discoveryTask => simpa [step, idle.isDiscoveryTaskScheduled] using idle
  | idClaimTask now => simpa [step, idle.isIdClaimTaskScheduled] using idle
  | validationTask now => exact idle.processPeriodicValidation now
  | _ => cases task

theorem reports_task (service : CdmpNetworkService) {label : NetworkLabel}
    (task : isTask label = true) : Reports service (service.step label) := by
  have still : Reports service (service, []) := reports_of_same rfl rfl rfl rfl (by simp)
  cases label with
  | discoveryTask =>
    simp only [step]
    split
    · exact service.reports_runDiscoveryAttempt
    · exact still
  | idClaimTask now =>
    simp only [step]
    split
    · exact service.reports_runIdClaimAttempt now
    · exact still
  | validationTask now => exact service.reports_processPeriodicValidation now
  | _ => cases task

theorem reset_status (device : CdmpDevice) :
    device.reset.1.status = .offline ∨
      device.reset.1.status = device.status ∧ device.status ≠ .online := by
  rcases device.setStatus_cases .offline false with same | ⟨-, -, moved⟩
  · refine Or.inr ⟨by simp [CdmpDevice.reset, same], fun online => ?_⟩
    have moves : device.setStatus .offline false ≠ (device, none) := by
      simp [CdmpDevice.setStatus, online, CdmpDeviceStatus.isValidTransition]
    exact moves same
  · exact Or.inl (by simp [CdmpDevice.reset, moved])

/-- Stopping the unit ends the session, and the reset leaves ONLINE. -/
theorem idle_reset_stop (service : CdmpNetworkService) (settled : service.Settled) :
    let result := service.stop.transition (·.reset)
    result.1.Idle ∧ Cdmp.queuedWork result.2 = [] ∧
      (service.isRunning = true ∧ result.1.session = service.session + 1 ∨
        service.isRunning = false ∧ result.1.session = service.session) := by
  intro result
  have stopped : service.stop.isRunning = false ∧
      (∀ device : CdmpDevice, device.status ≠ .online → Idle { service.stop with device }) ∧
      (service.isRunning = true ∧ service.stop.session = service.session + 1 ∨
        service.isRunning = false ∧ service.stop.session = service.session) := by
    rcases settled with running | idle
    · rw [stop, if_pos running]
      refine ⟨rfl, fun device offline => ⟨rfl, rfl, rfl, offline, rfl, ?_⟩, Or.inl ⟨running, rfl⟩⟩
      exact fun claim free => by simp_all [clearAllDevices]
    · have notRunning : ¬ service.isRunning = true := by simp [idle.isRunning]
      rw [stop, if_neg notRunning]
      exact ⟨idle.isRunning, fun device offline => { idle with offline },
        Or.inr ⟨idle.isRunning, rfl⟩⟩
  -- Whatever the reset leaves of the status, the unit is not ONLINE with it.
  obtain ⟨notRunning, idle, session⟩ := stopped
  have offline : service.stop.device.reset.1.status ≠ .online := by
    rcases reset_status service.stop.device with offline | ⟨same, offline⟩
    · rw [offline]
      simp
    · rwa [same]
  obtain ⟨-, moved⟩ | ⟨other, ⟨-, moved⟩ | ⟨-, validation, moved⟩⟩ :=
    service.stop.transition_cases reportsStatus_reset
  · simp only [result, moved]
    exact ⟨idle _ offline, rfl, session⟩
  · simp only [result, moved]
    rw [stop, if_neg (by simp [notRunning])]
    exact ⟨idle _ offline, rfl, session⟩
  · simp only [result, moved]
    have status := (reset_status service.stop.device).resolve_right fun same => other same.1
    rw [status]
    exact ⟨{ idle _ offline with }, rfl, session⟩

end CdmpNetworkService

/-- A frame on a CAN ID other than the one of the network service. -/
def UnitOutput.isServiceFrame : UnitOutput → Bool
  | .frame canId _ => canId ≠ .management
  | .deviceEvent _ _ => false

namespace CdmpUnit

variable (parameters : CdmpUnitParameters) (unit : CdmpUnit)

/-! ### What a step of the unit does to its network service -/

theorem sendCommand_fst (targetDeviceId commandCode : UInt8) (data : List UInt8)
    (callback : Option ℕ) (now : ℕ) :
    ∃ transactions, (unit.sendCommand parameters targetDeviceId commandCode data callback now).1 =
      { unit with transactions } := by
  unfold sendCommand
  split_ifs
  · exact ⟨_, rfl⟩
  · exact ⟨_, rfl⟩

/-- Handlers of the other services leave the network service alone, and no work is lost. -/
theorem applyEffect_frame (now : ℕ) (effect : NetworkEffect) :
    let after := (unit.applyEffect parameters now effect).1
    after.network = unit.network ∧ after.isStarted = unit.isStarted ∧
      after.workQueue = unit.workQueue ++ queuedWork [effect] := by
  intro after
  cases effect with
  -- A heartbeat may send a command, which touches the transactions only.
  | heartbeat message =>
    simp only [after, applyEffect, onHeartbeat]
    split_ifs
    · obtain ⟨_, same⟩ := sendCommand_fst parameters
        { unit with state := (unit.state.onHeartbeat parameters.state unit.network.device message
            (UInt32.ofNat now)).1 }
        message.deviceId CdmpServiceCommandCode.stateSyncRequest [] none now
      rw [same]
      exact ⟨rfl, rfl, (List.append_nil _).symm⟩
    · exact ⟨rfl, rfl, (List.append_nil _).symm⟩
  | runInSession session work => exact ⟨rfl, rfl, rfl⟩
  | _ => exact ⟨rfl, rfl, (List.append_nil _).symm⟩

theorem applyEffects_frame (now : ℕ) (effects : List NetworkEffect) :
    let after := (applyEffects parameters now unit effects).1
    after.network = unit.network ∧ after.isStarted = unit.isStarted ∧
      after.workQueue = unit.workQueue ++ queuedWork effects := by
  induction effects generalizing unit with
  | nil => exact ⟨rfl, rfl, (List.append_nil _).symm⟩
  | cons effect effects ih =>
    obtain ⟨network, started, queue⟩ := unit.applyEffect_frame parameters now effect
    obtain ⟨networks, starteds, queues⟩ := ih (unit.applyEffect parameters now effect).1
    refine ⟨networks.trans network, starteds.trans started, queues.trans ?_⟩
    rw [queue, List.append_assoc, ← queuedWork_append]
    rfl

theorem runNetwork_frame (now : ℕ) (result : CdmpNetworkService × List NetworkEffect) :
    let after := (unit.runNetwork parameters now result).1
    after.network = result.1 ∧ after.isStarted = unit.isStarted ∧
      after.workQueue = unit.workQueue ++ queuedWork result.2 :=
  applyEffects_frame parameters { unit with network := result.1 } now result.2

/-- The unit whose services started and which goes on to discovery. -/
theorem threadEntry_eq (now : ℕ) :
    ∃ started : CdmpUnit,
      unit.threadEntry parameters now =
        started.runNetwork parameters now (unit.network.start.transition (·.startDiscovery)) ∧
      started.isStarted = true ∧ started.network = unit.network.start ∧
      started.workQueue = unit.workQueue ∧
      started.state = if unit.state.isStarted then unit.state
        else unit.state.doStart unit.network.device :=
  ⟨_, rfl, rfl, rfl, rfl, rfl⟩

/-- The unit whose services stopped and whose device is then reset. -/
theorem doStop_eq (now : ℕ) :
    ∃ stopped : CdmpUnit,
      unit.doStop parameters now =
        stopped.runNetwork parameters now (unit.network.stop.transition (·.reset)) ∧
      stopped.network = unit.network.stop ∧ stopped.workQueue = unit.workQueue ∧
      stopped.state = if unit.state.isStarted then unit.state.doStop parameters.state
        else unit.state :=
  ⟨_, rfl, rfl, rfl, rfl⟩

/-- What is left of the network service after a step that is not about it. -/
structure Quiet (result : CdmpUnit × List UnitOutput) : Prop where
  network : result.1.network = unit.network
  isStarted : result.1.isStarted = unit.isStarted
  workQueue : ∀ session work,
    .network session work ∈ result.1.workQueue ↔ .network session work ∈ unit.workQueue
  frames : ∀ data, .frame .management data ∉ result.2
  events : ∀ event deviceId, .deviceEvent event deviceId ∉ result.2

/-- The steps that go to the state service without the network service. -/
def isStateLabel : UnitLabel → Bool
  | .stateFrame _ _ _ => true
  | .transmitTask _ => true
  | .notifyTask => true
  | .setLocalState _ _ => true
  | .clearLocalState _ => true
  | _ => false

/-- A step that a unit takes on its own, not because of its CAN bus. -/
def isLocal : UnitLabel → Bool
  | .receiveManagement _ => false
  | .receiveHeartbeat _ => false
  | .receiveCommandRequest _ => false
  | .receiveCommandResponse _ => false
  | .canbus _ => false
  | _ => true

/-- The steps of a unit, by what they do to its network service. -/
inductive StepCase (label : UnitLabel) : Prop
  | quiet (quiet : unit.Quiet (unit.step parameters label))
      (state : (unit.step parameters label).1.state = unit.state ∨ isStateLabel label = true)
  | received (work : UnitWork) (external : isLocal label = false)
      (fresh : ∀ session networkWork, work = .network session networkWork →
        session = unit.network.session)
      (result : unit.step parameters label = (unit.receive work, []))
  | dropped (session : ℕ) (work : NetworkWork) (rest : List UnitWork)
      (queue : unit.workQueue = .network session work :: rest)
      (old : unit.network.session ≠ session)
      (result : unit.step parameters label = ({ unit with workQueue := rest }, []))
  | work (work : NetworkWork) (now : ℕ) (rest : List UnitWork) (isLabel : label = .runWork now)
      (queue : unit.workQueue = .network unit.network.session work :: rest)
      (result : unit.step parameters label =
        { unit with workQueue := rest }.runNetwork parameters now (unit.network.runWork work now))
  | heartbeat (message : CdmpHeartbeatMessage) (now : ℕ) (rest : List UnitWork)
      (queue : unit.workQueue = .heartbeat message :: rest)
      (result : unit.step parameters label = { unit with workQueue := rest }.runNetwork parameters
        now (unit.network.updateDeviceFromHeartbeat message now))
  | task (networkLabel : NetworkLabel) (now : ℕ)
      (isTask : CdmpNetworkService.isTask networkLabel = true)
      (claims : ∀ time, networkLabel = .idClaimTask time → label = .idClaimTask time)
      (result : unit.step parameters label =
        unit.runNetwork parameters now (unit.network.step networkLabel))
  | start (now : ℕ) (stopped : unit.isStarted = false)
      (result : unit.step parameters label = unit.threadEntry parameters now)
  | stop (now : ℕ) (started : unit.isStarted = true)
      (result : unit.step parameters label = unit.doStop parameters now)
  | canbus (isValid : Bool) (external : isLocal label = false)
      (result : unit.step parameters label =
        ({ unit with network := { unit.network with isCanbusValid := isValid } }, []))
  | iterate (order : List UInt8)
      (result : unit.step parameters label =
        ({ unit with network := unit.network.iterate order }, []))

variable {parameters unit}

theorem mem_sendFrame {canId : CdmpCanId} {data : List UInt8} {output : UnitOutput}
    (sent : output ∈ unit.sendFrame canId data) : output = .frame canId data := by
  unfold sendFrame at sent
  split_ifs at sent
  · exact List.mem_singleton.mp sent
  · cases sent

theorem mem_sendCommand {targetDeviceId commandCode : UInt8} {data : List UInt8}
    {callback : Option ℕ} {now : ℕ} {output : UnitOutput}
    (sent : output ∈ (unit.sendCommand parameters targetDeviceId commandCode data callback now).2) :
    ∃ data, output = .frame .commandRequest data := by
  unfold sendCommand at sent
  split_ifs at sent
  · cases sent
  · exact ⟨_, List.mem_singleton.mp sent⟩

theorem isServiceFrame_of_sendFrame {canId : CdmpCanId} (other : canId ≠ .management)
    {data : List UInt8} {output : UnitOutput} (sent : output ∈ unit.sendFrame canId data) :
    output.isServiceFrame = true := by
  rw [mem_sendFrame sent]
  exact decide_eq_true other

theorem isServiceFrame_of_sendCommand {targetDeviceId commandCode : UInt8} {data : List UInt8}
    {callback : Option ℕ} {now : ℕ} {output : UnitOutput}
    (sent : output ∈ (unit.sendCommand parameters targetDeviceId commandCode data callback now).2) :
    output.isServiceFrame = true := by
  obtain ⟨_, rfl⟩ := mem_sendCommand sent
  rfl

theorem isServiceFrame_of_sendNotifications {messages : List CdmpStateChangeMessage}
    {output : UnitOutput} (sent : output ∈ unit.sendNotifications messages) :
    output.isServiceFrame = true := by
  obtain ⟨message, -, sent⟩ := List.mem_flatMap.mp sent
  exact isServiceFrame_of_sendFrame (by simp) sent

theorem isServiceFrame_of_processServiceRequest {command : CdmpCommandRequestMessage}
    {output : UnitOutput} (sent : output ∈ unit.processServiceRequest command) :
    output.isServiceFrame = true := by
  unfold processServiceRequest at sent
  dsimp only at sent
  split_ifs at sent
  · exact isServiceFrame_of_sendFrame (by simp) sent
  · unfold processSyncRequest at sent
    split at sent
    · cases sent
    split at sent
    · cases sent
    -- The replayed records, then the response.
    rcases List.mem_append.mp sent with replayed | response
    · exact isServiceFrame_of_sendNotifications replayed
    · split at response
      · exact isServiceFrame_of_sendFrame (by simp) response
      · cases response
  · cases sent

theorem isServiceFrame_of_processRequest {command : CdmpCommandRequestMessage}
    {output : UnitOutput} (sent : output ∈ unit.processRequest parameters command) :
    output.isServiceFrame = true := by
  unfold processRequest at sent
  dsimp only at sent
  split_ifs at sent
  · cases sent
  · exact isServiceFrame_of_processServiceRequest sent
  · cases sent
  · split at sent
    · exact isServiceFrame_of_sendFrame (by simp) sent
    · exact isServiceFrame_of_sendFrame (by simp) sent
  · split at sent
    · exact isServiceFrame_of_sendFrame (by simp) sent
    · cases sent

/-- A step that leaves the network service alone and sends nothing on its CAN ID. -/
theorem quiet_of_same {result : CdmpUnit × List UnitOutput}
    (network : result.1.network = unit.network) (isStarted : result.1.isStarted = unit.isStarted)
    (workQueue : ∀ session work,
      .network session work ∈ result.1.workQueue ↔ .network session work ∈ unit.workQueue)
    (outputs : ∀ output ∈ result.2, output.isServiceFrame = true) : unit.Quiet result := by
  refine ⟨network, isStarted, workQueue, fun data sent => ?_, fun event deviceId told => ?_⟩
  · cases outputs _ sent
  · cases outputs _ told

variable (parameters unit)

theorem quiet_transmit (now : ℕ) : unit.Quiet (unit.transmit parameters now) := by
  unfold transmit
  dsimp only
  split_ifs
  · obtain ⟨_, same⟩ := sendCommand_fst parameters
      { unit with
        state := (unit.state.transmit unit.network.device unit.statePeers now).1 }
      deviceIdBroadcast CdmpServiceCommandCode.stateSyncRequest [] none now
    refine quiet_of_same ?_ ?_ ?_ fun output sent => ?_
    · rw [same]
    · rw [same]
    · simp [same]
    · rcases List.mem_append.mp sent with notified | requested
      · exact isServiceFrame_of_sendNotifications notified
      · exact isServiceFrame_of_sendCommand requested
  · exact quiet_of_same rfl rfl (fun _ _ => Iff.rfl)
      fun _ => isServiceFrame_of_sendNotifications

theorem quiet_processStateFrame (isResponse : Bool) (frame : List UInt8) (now : ℕ) :
    unit.Quiet (unit.processStateFrame parameters isResponse frame now) := by
  unfold processStateFrame
  split_ifs
  · exact quiet_of_same rfl rfl (fun _ _ => Iff.rfl) (by simp)
  · exact quiet_of_same rfl rfl (fun _ _ => Iff.rfl) (by simp)
  · refine quiet_of_same rfl rfl (fun _ _ => Iff.rfl) fun output sent => ?_
    obtain ⟨_, -, sent⟩ := List.mem_flatMap.mp sent
    exact isServiceFrame_of_sendFrame (by simp) sent

theorem stepCase_runWork (now : ℕ) : unit.StepCase parameters (.runWork now) := by
  have stepped : unit.step parameters (.runWork now) = unit.runWork parameters now := rfl
  unfold runWork at stepped
  split at stepped
  · refine .quiet ?_ (Or.inl (by rw [stepped]))
    rw [stepped]
    exact quiet_of_same rfl rfl (fun _ _ => Iff.rfl) (by simp)
  · rename_i work rest queue
    cases work with
    | network session work =>
      -- The session decides whether the work runs or is dropped.
      by_cases current : unit.network.session = session
      · subst current
        exact .work work now rest rfl queue (stepped.trans (if_pos rfl))
      · exact .dropped session work rest queue current (stepped.trans (if_neg current))
    | heartbeat message => exact .heartbeat message now rest queue stepped
    | commandRequest command =>
      refine .quiet ?_ (Or.inl (by rw [stepped]; rfl))
      rw [stepped]
      exact quiet_of_same rfl rfl (by simp [runUnitWork, queue])
        fun _ => isServiceFrame_of_processRequest
    | commandResponse response =>
      refine .quiet ?_ (Or.inl (by rw [stepped]; rfl))
      rw [stepped]
      exact quiet_of_same rfl rfl (by simp [runUnitWork, processCommandResponse, queue])
        (by simp [runUnitWork])

theorem stepCase (label : UnitLabel) : unit.StepCase parameters label := by
  -- Calls that keep the network service and the queue: at most the state service changes.
  have still (after : CdmpUnit) (result : unit.step parameters label = (after, []))
      (network : after.network = unit.network) (isStarted : after.isStarted = unit.isStarted)
      (workQueue : after.workQueue = unit.workQueue)
      (state : after.state = unit.state ∨ isStateLabel label = true) :
      unit.StepCase parameters label := by
    refine .quiet ?_ (by rwa [result])
    rw [result]
    exact quiet_of_same network isStarted (by simp [workQueue]) (by simp)
  cases label with
  | receiveManagement message =>
    refine .received _ rfl ?_ rfl
    rintro session networkWork ⟨⟩
    rfl
  | receiveHeartbeat message => exact .received _ rfl (by simp) rfl
  | receiveCommandRequest command => exact .received _ rfl (by simp) rfl
  | receiveCommandResponse response => exact .received _ rfl (by simp) rfl
  | stateFrame isResponse frame now =>
    exact .quiet (unit.quiet_processStateFrame parameters isResponse frame now) (Or.inr rfl)
  | runWork now => exact unit.stepCase_runWork parameters now
  | discoveryTask now => exact .task .discoveryTask now rfl (by simp) rfl
  | idClaimTask now => exact .task (.idClaimTask now) now rfl (by simp) rfl
  | validationTask now => exact .task (.validationTask now) now rfl (by simp) rfl
  | heartbeatTask =>
    have heartbeat : unit.Quiet unit.processPeriodicHeartbeat ∧
        unit.processPeriodicHeartbeat.1.state = unit.state := by
      unfold processPeriodicHeartbeat
      split
      · refine ⟨quiet_of_same rfl rfl (fun _ _ => Iff.rfl) ?_, rfl⟩
        simp [UnitOutput.isServiceFrame]
      · exact ⟨quiet_of_same rfl rfl (fun _ _ => Iff.rfl) (by simp), rfl⟩
    exact .quiet heartbeat.1 (Or.inl heartbeat.2)
  | transmitTask now => exact .quiet (unit.quiet_transmit parameters now) (Or.inr rfl)
  | replayTask =>
    exact .quiet (quiet_of_same rfl rfl (fun _ _ => Iff.rfl)
      fun _ => isServiceFrame_of_sendNotifications) (Or.inl rfl)
  | notifyTask => exact still _ rfl rfl rfl rfl (Or.inr rfl)
  | expireTransaction first now => exact still _ rfl rfl rfl rfl (Or.inl rfl)
  | setLocalState stateType data => exact still _ rfl rfl rfl rfl (Or.inr rfl)
  | clearLocalState stateType => exact still _ rfl rfl rfl rfl (Or.inr rfl)
  | sendCommand targetDeviceId commandCode data callback now =>
    obtain ⟨_, same⟩ := sendCommand_fst parameters unit targetDeviceId commandCode data callback now
    refine .quiet (quiet_of_same ?_ ?_ ?_ fun _ => isServiceFrame_of_sendCommand) (Or.inl ?_)
    · simp [step, same]
    · simp [step, same]
    · simp [step, same]
    · simp [step, same]
  | start now =>
    by_cases started : unit.isStarted = true
    · exact still unit (if_pos started) rfl rfl rfl (Or.inl rfl)
    · exact .start now (by simpa using started) (if_neg started)
  | stop now =>
    by_cases started : unit.isStarted = true
    · exact .stop now started (if_pos started)
    · exact still unit (if_neg started) rfl rfl rfl (Or.inl rfl)
  | canbus isValid => exact .canbus isValid rfl rfl
  | iterate order => exact .iterate order rfl

/-! ### Between the steps of a unit -/

/-- The network service runs only in a started unit, outside its sessions it is idle, and the
work in the queue is of this session or of an earlier one. -/
structure Sessional (unit : CdmpUnit) : Prop where
  settled : unit.network.Settled
  started : unit.network.isRunning = true → unit.isStarted = true
  queue : ∀ session work, .network session work ∈ unit.workQueue →
    session ≤ unit.network.session ∧
      (unit.network.isRunning = false → session < unit.network.session)

theorem sessional_create (uid : { uid : UInt32 // uid ≠ 0 }) (features : UInt16) (now : ℕ) :
    (create parameters uid features now).Sessional where
  settled := Or.inr ⟨rfl, rfl, rfl, by simp [create, initial], rfl, fun _ member => by
    rw [List.eq_of_mem_replicate member]⟩
  started := by simp [create, initial]
  queue := by simp [create, initial]

variable {parameters unit}

theorem Sessional.not_running (sessional : unit.Sessional) (stopped : unit.isStarted = false) :
    unit.network.isRunning = false := by
  by_contra running
  rw [sessional.started (by simpa using running)] at stopped
  cases stopped

/-- Work that runs belongs to the session that runs. -/
theorem Sessional.running (sessional : unit.Sessional) {work : NetworkWork}
    (queued : .network unit.network.session work ∈ unit.workQueue) :
    unit.network.isRunning = true := by
  by_contra stopped
  -- All work of a stopped service is of an earlier session.
  have earlier := (sessional.queue _ _ queued).2 (by simpa using stopped)
  exact lt_irrefl _ earlier

/-- A step of a running network service, with what is left of the queue. -/
theorem Sessional.runNetwork (sessional : unit.Sessional)
    (running : unit.network.isRunning = true) {rest : List UnitWork}
    (fewer : ∀ work ∈ rest, work ∈ unit.workQueue) (now : ℕ)
    {result : CdmpNetworkService × List NetworkEffect} (reports : unit.network.Reports result) :
    ({ unit with workQueue := rest }.runNetwork parameters now result).1.Sessional := by
  obtain ⟨network, started, queue⟩ :=
    runNetwork_frame parameters { unit with workQueue := rest } now result
  have wasStarted := sessional.started running
  -- Old work and new work are both of the session before the step.
  have old (session : ℕ) (work : NetworkWork)
      (queued : .network session work ∈ rest ++ queuedWork result.2) :
      session ≤ unit.network.session := by
    rcases List.mem_append.mp queued with kept | fresh
    · exact (sessional.queue _ _ (fewer _ kept)).1
    · obtain ⟨_, _, member, same⟩ := mem_queuedWork.mp fresh
      obtain ⟨rfl, rfl⟩ := UnitWork.network.inj same
      exact (reports.work _ _ member).le
  rcases reports.session with ⟨goesOn, same⟩ | ⟨-, idle, next⟩
  · refine ⟨?_, fun _ => started.trans wasStarted, fun session work queued => ?_⟩
    · rw [network]
      exact Or.inl (goesOn.trans running)
    · rw [queue] at queued
      rw [network, same, goesOn, running]
      exact ⟨old session work queued, by simp⟩
  -- The step ended the session, so the queue holds work of earlier sessions only.
  · refine ⟨?_, fun _ => started.trans wasStarted, fun session work queued => ?_⟩
    · rw [network]
      exact Or.inr idle
    · rw [queue] at queued
      rw [network, next]
      have le := old session work queued
      exact ⟨by omega, fun _ => by omega⟩

/-- A step outside a session, which does nothing but age. -/
theorem Sessional.idle (sessional : unit.Sessional) (stopped : unit.network.isRunning = false)
    {rest : List UnitWork} (fewer : ∀ work ∈ rest, work ∈ unit.workQueue) (now : ℕ)
    {result : CdmpNetworkService × List NetworkEffect} (reports : unit.network.Reports result)
    (idle : result.1.Idle ∧ result.2 = []) :
    ({ unit with workQueue := rest }.runNetwork parameters now result).1.Sessional := by
  obtain ⟨network, started, queue⟩ :=
    runNetwork_frame parameters { unit with workQueue := rest } now result
  have same : result.1.session = unit.network.session := by
    rcases reports.session with ⟨-, same⟩ | ⟨running, -⟩
    · exact same
    · rw [stopped] at running
      cases running
  refine ⟨?_, ?_, fun session work queued => ?_⟩
  · rw [network]
    exact Or.inr idle.1
  · rw [network, idle.1.isRunning]
    simp
  · rw [queue, idle.2] at queued
    rw [network, same]
    have before := sessional.queue session work (fewer _ (by simpa [queuedWork] using queued))
    exact ⟨before.1, fun _ => before.2 stopped⟩

theorem Sessional.threadEntry (sessional : unit.Sessional) (stopped : unit.isStarted = false)
    (now : ℕ) : (unit.threadEntry parameters now).1.Sessional := by
  obtain ⟨_, start⟩ := CdmpNetworkService.start_of_stopped (sessional.not_running stopped)
  obtain ⟨started, entered, isStarted, network, queue, -⟩ := unit.threadEntry_eq parameters now
  have running : started.network.isRunning = true := by rw [network, start]
  have session : started.network.session = unit.network.session := by
    rw [network, start]
    rfl
  have begun : started.Sessional := by
    refine ⟨Or.inl running, fun _ => isStarted, fun session' work queued => ?_⟩
    rw [queue] at queued
    rw [session, running]
    exact ⟨(sessional.queue session' work queued).1, by simp⟩
  rw [entered, ← network]
  exact begun.runNetwork running (fun _ => id) now
    (CdmpNetworkService.reports_transition _
      (CdmpNetworkService.reportsStatus_setStatus .init false))

theorem Sessional.doStop (sessional : unit.Sessional) (now : ℕ) :
    (unit.doStop parameters now).1.Sessional := by
  obtain ⟨idle, silent, ended⟩ := unit.network.idle_reset_stop sessional.settled
  obtain ⟨stopped, stops, -, sameQueue, -⟩ := unit.doStop_eq parameters now
  obtain ⟨network, -, queue⟩ := runNetwork_frame parameters stopped now
    (unit.network.stop.transition (·.reset))
  rw [sameQueue, silent, List.append_nil] at queue
  rw [stops]
  refine ⟨?_, ?_, fun session work queued => ?_⟩
  · rw [network]
    exact Or.inr idle
  · rw [network, idle.isRunning]
    simp
  · rw [queue] at queued
    rw [network]
    have before := sessional.queue session work queued
    rcases ended with ⟨-, next⟩ | ⟨stopped, same⟩
    · rw [next]
      exact ⟨by omega, fun _ => by omega⟩
    · rw [same]
      exact ⟨before.1, fun _ => before.2 stopped⟩

/-- What comes in is work of the running session. -/
theorem Sessional.receive (sessional : unit.Sessional) {work : UnitWork}
    (fresh : ∀ session networkWork, work = .network session networkWork →
      session = unit.network.session) : (unit.receive work).Sessional := by
  unfold CdmpUnit.receive
  dsimp only
  split_ifs with registered
  · refine ⟨sessional.settled, sessional.started, fun session networkWork queued => ?_⟩
    rcases List.mem_append.mp queued with before | added
    · exact sessional.queue session networkWork before
    · have same := (List.mem_singleton.mp added).symm
      rw [same] at registered
      refine ⟨(fresh session networkWork same).le, fun stopped => ?_⟩
      rw [show unit.network.isRunning = true from registered] at stopped
      cases stopped
  · exact sessional

/-- Sessions over whole runs: every step keeps to them. -/
theorem sessional_step (parameters : CdmpUnitParameters) (sessional : unit.Sessional)
    (label : UnitLabel) : (unit.step parameters label).1.Sessional := by
  -- A step of the running service, or of an idle one that it leaves idle.
  have driven (rest : List UnitWork) (fewer : ∀ work ∈ rest, work ∈ unit.workQueue) (now : ℕ)
      (result : CdmpNetworkService × List NetworkEffect) (reports : unit.network.Reports result)
      (idles : unit.network.Idle → result.1.Idle ∧ result.2 = []) :
      ({ unit with workQueue := rest }.runNetwork parameters now result).1.Sessional := by
    rcases sessional.settled with running | idle
    · exact sessional.runNetwork running fewer now reports
    · exact sessional.idle idle.isRunning fewer now reports (idles idle)
  cases unit.stepCase parameters label with
  | quiet quiet state =>
    refine ⟨?_, ?_, fun session work queued => ?_⟩
    · rw [quiet.network]
      exact sessional.settled
    · rw [quiet.network, quiet.isStarted]
      exact sessional.started
    · rw [quiet.network]
      exact sessional.queue session work ((quiet.workQueue session work).mp queued)
  | received work external fresh result =>
    rw [result]
    exact sessional.receive fresh
  | dropped session work rest queue old result =>
    rw [result]
    refine ⟨sessional.settled, sessional.started, fun session work queued => ?_⟩
    exact sessional.queue session work (queue ▸ List.mem_cons_of_mem _ queued)
  | work work now rest isLabel queue result =>
    rw [result]
    refine sessional.runNetwork (sessional.running (queue ▸ List.mem_cons_self)) ?_ now
      (unit.network.reports_runWork work now)
    exact fun work member => queue ▸ List.mem_cons_of_mem _ member
  | heartbeat message now rest queue result =>
    rw [result]
    exact driven rest (fun work member => queue ▸ List.mem_cons_of_mem _ member) now _
      (unit.network.reports_updateDeviceFromHeartbeat message now)
      fun idle => idle.updateDeviceFromHeartbeat message now
  | task networkLabel now isTask claims result =>
    rw [result]
    exact driven unit.workQueue (fun _ => id) now _ (unit.network.reports_task isTask)
      fun idle => idle.task isTask
  | start now stopped result =>
    rw [result]
    exact sessional.threadEntry stopped now
  | stop now started result =>
    rw [result]
    exact sessional.doStop now
  | canbus isValid external result =>
    rw [result]
    refine ⟨?_, sessional.started, sessional.queue⟩
    rcases sessional.settled with running | idle
    · exact Or.inl running
    · exact Or.inr { idle with }
  | iterate order result =>
    rw [result]
    refine ⟨?_, sessional.started, sessional.queue⟩
    rcases sessional.settled with running | idle
    · exact Or.inl running
    · exact Or.inr { idle with }

end CdmpUnit

end RtCore.Cdmp
