import RtCore.Foundation.Run
import RtCore.Cdmp.StateTables

/-!
# State handlers

Operations on the copies of other units' records mark the types they change and schedule the
notify task. The task takes the marks in one critical section and calls the handlers in another;
between the two, and between a registration and the schedule that follows it, anything may happen.

## Main definitions

* `heldStates` — the sources and data of the copies of a type
* `schedulesStateHandlers` — the operations that schedule the notify task
* `NotifyingService.step` — the service with its notify task and its handlers

## Main results

* `nothingLost_run` — a type whose copies differ from those of the last pass is marked and a pass
  is due; the next pass calls its handlers; once no pass is due, every handler has been called
-/

namespace RtCore.Cdmp

open RtCore.Foundation

/-- The sources and data of the copies of a type. -/
def heldStates (records : List RemoteRecord) (stateType : UInt8) :
    Finset (UInt8 × CdmpStateData) :=
  ((records.filter (·.stateType = stateType)).map fun copy => (copy.source, copy.data)).toFinset

namespace CdmpStateService

variable (parameters : CdmpStateParameters) (service : CdmpStateService)

/-! ### When the task is scheduled -/

/-- `RemoveRemoteRecords` schedules it unless it removes nothing. -/
def removalSchedules (predicate : RemoteRecord → Bool) : Bool := service.remoteRecords.any predicate

/-- `ApplyRecord` schedules it for a new copy, for other data and for a withdrawal. -/
def applyRecordSchedules (message : CdmpStateChangeMessage) : Bool :=
  let source := message.sourceDeviceId
  match service.findRemoteRecord source message.stateType with
  | (_, some record) =>
    if !record.isStale && !isNewer message.version record.version then false
    else if message.data.isEmpty then
      service.removalSchedules fun record =>
        record.source = source ∧ record.stateType = message.stateType
    else record.data ≠ message.data
  | (_, none) =>
    if message.data.isEmpty then false
    else service.remoteRecords.length ≠ parameters.maxRemoteRecords

/-- Whether an operation calls `ScheduleStateHandlers`. -/
def schedulesStateHandlers : StateLabel → Bool
  | .stateChangeFrame device isDeviceOnline frame _ =>
    match CdmpStateChangeMessage.tryFromCanFrame frame with
    | .ok (some message) =>
      device.isOnline && message.stateType ≠ 0 && message.sourceDeviceId ≠ device.deviceId &&
        isDeviceOnline message.sourceDeviceId && service.applyRecordSchedules parameters message
    | _ => false
  | .heartbeat device heartbeat _ =>
    let source := heartbeat.deviceId
    let isOverflowed := (service.findSourceState source).any fun index =>
      service.sources[index]?.any (·.isOverflowed)
    let records := service.sourceRecords source
    let fresh := records.filter (!·.isStale)
    device.isOnline && !isOverflowed &&
      remoteDigest parameters records ≠ heartbeat.stateDigest && records.any (·.isStale) &&
      remoteDigest parameters fresh = heartbeat.stateDigest &&
      service.removalSchedules fun record => record.source = source ∧ record.isStale
  | .deviceEvent .left device => service.removalSchedules (·.source = device.deviceId)
  | .deviceStatusChanged change =>
    change.newStatus ≠ .online && change.oldStatus = .online &&
      service.removalSchedules fun _ => true
  | .stop => service.removalSchedules fun _ => true
  | _ => false

end CdmpStateService

/-! ### What an operation reports -/

theorem mem_heldStates {records : List RemoteRecord} {stateType : UInt8}
    {state : UInt8 × CdmpStateData} :
    state ∈ heldStates records stateType ↔
      ∃ copy ∈ records, copy.stateType = stateType ∧ (copy.source, copy.data) = state := by
  simp [heldStates, and_assoc]

theorem heldStates_append (front back : List RemoteRecord) (stateType : UInt8) :
    heldStates (front ++ back) stateType =
      heldStates front stateType ∪ heldStates back stateType := by
  simp [heldStates]

/-- A copy of another type does not show. -/
theorem heldStates_cons_of_ne {copy : RemoteRecord} {stateType : UInt8}
    (other : copy.stateType ≠ stateType) (records : List RemoteRecord) :
    heldStates (copy :: records) stateType = heldStates records stateType := by
  simp [heldStates, other]

/-- Only type, source and data show. -/
theorem heldStates_map {f : RemoteRecord → RemoteRecord}
    (keeps : ∀ copy, (f copy).stateType = copy.stateType ∧ (f copy).source = copy.source ∧
      (f copy).data = copy.data) (records : List RemoteRecord) (stateType : UInt8) :
    heldStates (records.map f) stateType = heldStates records stateType := by
  ext state
  rw [mem_heldStates, mem_heldStates]
  constructor
  · rintro ⟨_, member, sameType, rfl⟩
    obtain ⟨copy, isCopy, rfl⟩ := List.mem_map.mp member
    obtain ⟨types, sources, data⟩ := keeps copy
    exact ⟨copy, isCopy, types ▸ sameType, by rw [sources, data]⟩
  · rintro ⟨copy, isCopy, sameType, rfl⟩
    obtain ⟨types, sources, data⟩ := keeps copy
    exact ⟨f copy, List.mem_map_of_mem isCopy, types.trans sameType, by rw [sources, data]⟩

/-- What an operation owes the handlers: marks stay, a type without a mark holds what it held,
and a new mark comes with a schedule. -/
structure Reports (before after : CdmpStateService) (schedules : Bool) : Prop where
  kept : before.changedTypes ⊆ after.changedTypes
  told : ∀ stateType ∉ after.changedTypes,
    heldStates after.remoteRecords stateType = heldStates before.remoteRecords stateType
  silent : schedules = false → after.changedTypes = before.changedTypes

namespace Reports

variable {parameters : CdmpStateParameters} {service before after : CdmpStateService}
  {schedules : Bool}

theorem of_same (records : after.remoteRecords = before.remoteRecords)
    (marks : after.changedTypes = before.changedTypes) : Reports before after schedules :=
  ⟨marks.symm.subset, fun _ _ => by rw [records], fun _ => marks⟩

/-- Operations on local records and sources are not seen. -/
theorem congr {changed : CdmpStateService} (reports : Reports before after schedules)
    (records : changed.remoteRecords = after.remoteRecords)
    (marks : changed.changedTypes = after.changedTypes) : Reports before changed schedules := by
  obtain ⟨kept, told, silent⟩ := reports
  refine ⟨marks ▸ kept, fun stateType unmarked => ?_, fun no => marks.trans (silent no)⟩
  rw [records]
  exact told stateType (marks ▸ unmarked)

theorem removeRemoteRecords (service : CdmpStateService) (predicate : RemoteRecord → Bool) :
    Reports service (service.removeRemoteRecords predicate)
      (service.removalSchedules predicate) := by
  unfold CdmpStateService.removeRemoteRecords
  dsimp only
  split_ifs with none
  · exact of_same rfl rfl
  · refine ⟨Finset.subset_union_left, fun stateType unmarked => ?_, fun no => ?_⟩
    · simp only [Finset.mem_union, List.mem_toFinset, not_or] at unmarked
      ext state
      rw [mem_heldStates, mem_heldStates]
      constructor
      · rintro ⟨copy, member, own⟩
        exact ⟨copy, (List.mem_filter.mp member).1, own⟩
      · rintro ⟨copy, member, sameType, same⟩
        refine ⟨copy, List.mem_filter.mpr ⟨member, ?_⟩, sameType, same⟩
        -- A removed copy would have marked its type.
        by_contra selected
        refine unmarked.2 (List.mem_map.mpr ⟨copy, List.mem_filter.mpr ⟨member, ?_⟩, sameType⟩)
        simpa using selected
    · simp only [CdmpStateService.removalSchedules, List.any_eq_false] at no
      refine absurd ?_ none
      rw [List.isEmpty_iff, List.filter_eq_nil_iff]
      exact no

theorem applyRecord (sorted : RemoteSorted service.remoteRecords)
    (message : CdmpStateChangeMessage) (now : UInt32) :
    Reports service (service.applyRecord parameters message now)
      (service.applyRecordSchedules parameters message) := by
  unfold CdmpStateService.applyRecord CdmpStateService.applyRecordSchedules
  rcases found : service.findRemoteRecord message.sourceDeviceId message.stateType with
    ⟨index, _ | record⟩
  · -- Unknown to the receiver: a withdrawal or a full table changes nothing, else the copy is
    -- inserted and its type marked.
    simp only [found]
    by_cases withdrawal : message.data.isEmpty = true
    · rw [if_pos withdrawal, if_pos withdrawal]
      exact of_same rfl rfl
    rw [if_neg withdrawal, if_neg withdrawal]
    by_cases full : service.remoteRecords.length = parameters.maxRemoteRecords
    · rw [if_pos full]
      unfold CdmpStateService.markOverflowed
      split <;> exact of_same rfl rfl
    · rw [if_neg full]
      refine ⟨Finset.subset_insert _ _, fun stateType unmarked => ?_, fun no => ?_⟩
      · have other : message.stateType ≠ stateType := by
          rintro rfl
          exact unmarked (Finset.mem_insert_self _ _)
        dsimp only
        rw [insertAt, heldStates_append, heldStates_cons_of_ne other, ← heldStates_append,
          List.take_append_drop]
      · simp [full] at no
  · -- Known: the types other than that of the copy hold what they held.
    obtain ⟨-, sameType, front, back, records, rfl⟩ :=
      CdmpStateService.findRemoteRecord_some sorted found
    simp only [found]
    by_cases old : (!record.isStale && !isNewer message.version record.version) = true
    · rw [if_pos old, if_pos old]
      exact of_same rfl rfl
    rw [if_neg old, if_neg old]
    by_cases withdrawal : message.data.isEmpty = true
    · rw [if_pos withdrawal, if_pos withdrawal]
      exact removeRemoteRecords service _
    rw [if_neg withdrawal, if_neg withdrawal]
    by_cases same : record.data = message.data
    · refine ⟨by simp [same], fun stateType _ => ?_, fun _ => by simp [same]⟩
      dsimp only
      rw [records, List.set_append_right _ _ le_rfl, Nat.sub_self, List.set_cons_zero,
        heldStates_append, heldStates_append, ← same]
      by_cases own : record.stateType = stateType <;> simp [heldStates, own]
    · refine ⟨by simp [same], fun stateType unmarked => ?_, fun no => by simp [same] at no⟩
      simp only [ne_eq, same, not_false_eq_true, if_true] at unmarked
      have other : record.stateType ≠ stateType := by
        rintro rfl
        exact unmarked (sameType ▸ Finset.mem_insert_self _ _)
      dsimp only
      rw [records, List.set_append_right _ _ le_rfl, Nat.sub_self, List.set_cons_zero,
        heldStates_append, heldStates_append, heldStates_cons_of_ne other, heldStates_cons_of_ne]
      exact other

theorem mapSourceRecords (sorted : RemoteSorted service.remoteRecords) (source : UInt8)
    {f : RemoteRecord → RemoteRecord}
    (keeps : ∀ copy, (f copy).stateType = copy.stateType ∧ (f copy).source = copy.source ∧
      (f copy).data = copy.data) :
    Reports service (service.mapSourceRecords source f) schedules := by
  refine ⟨Finset.Subset.refl _, fun stateType _ => ?_, fun _ => rfl⟩
  rw [CdmpStateService.remoteRecords_mapSourceRecords sorted]
  apply heldStates_map
  intro copy
  split_ifs
  · exact keeps copy
  · exact ⟨rfl, rfl, rfl⟩

theorem stateChangeFrame (sorted : RemoteSorted service.remoteRecords) (device : CdmpDevice)
    (isDeviceOnline : UInt8 → Bool) (frame : List UInt8) (now : UInt32) :
    Reports service
      (service.step parameters (.stateChangeFrame device isDeviceOnline frame now))
      (service.schedulesStateHandlers parameters
        (.stateChangeFrame device isDeviceOnline frame now)) := by
  simp only [CdmpStateService.step, CdmpStateService.processStateChangeFrame,
    CdmpStateService.schedulesStateHandlers]
  by_cases online : device.isOnline = true
  · simp only [online, Bool.not_true, Bool.false_eq_true, if_false, Bool.true_and]
    rcases decoded : CdmpStateChangeMessage.tryFromCanFrame frame with _ | _ | message
    · exact of_same rfl rfl
    · exact of_same rfl rfl
    dsimp only
    by_cases reserved : message.stateType = 0
    · rw [if_pos reserved]
      exact of_same rfl rfl
    rw [if_neg reserved]
    by_cases own : message.sourceDeviceId = device.deviceId
    · rw [if_pos own]
      exact of_same rfl rfl
    rw [if_neg own]
    by_cases peer : isDeviceOnline message.sourceDeviceId = true
    · simp only [peer, Bool.not_true, Bool.false_eq_true, if_false, reserved, own, ne_eq,
        not_false_eq_true, decide_true, Bool.and_true, Bool.true_and]
      exact applyRecord sorted message now
    · simp only [peer, Bool.not_false, if_true]
      exact of_same rfl rfl
  · simp only [online, Bool.not_false, if_true]
    exact of_same rfl rfl

theorem heartbeat (sorted : RemoteSorted service.remoteRecords) (device : CdmpDevice)
    (heartbeat : CdmpHeartbeatMessage) (now : UInt32) :
    Reports service (service.step parameters (.heartbeat device heartbeat now))
      (service.schedulesStateHandlers parameters (.heartbeat device heartbeat now)) := by
  simp only [CdmpStateService.step, CdmpStateService.onHeartbeat,
    CdmpStateService.schedulesStateHandlers]
  by_cases checked : (!device.isOnline || (service.findSourceState heartbeat.deviceId).any
      fun index => service.sources[index]?.any (·.isOverflowed)) = true
  · rw [if_pos checked]
    exact of_same rfl rfl
  rw [if_neg checked]
  by_cases complete : remoteDigest parameters (service.sourceRecords heartbeat.deviceId) =
      heartbeat.stateDigest
  · rw [if_pos complete]
    exact mapSourceRecords sorted _ fun _ => ⟨rfl, rfl, rfl⟩
  rw [if_neg complete]
  by_cases withdrawn : ((service.sourceRecords heartbeat.deviceId).any (·.isStale) &&
      remoteDigest parameters ((service.sourceRecords heartbeat.deviceId).filter (!·.isStale)) =
        heartbeat.stateDigest) = true
  · rw [if_pos withdrawn]
    simp only [Bool.not_eq_true, Bool.or_eq_false_iff, Bool.not_eq_false'] at checked
    rw [Bool.and_eq_true] at withdrawn
    simp only [checked.1, checked.2, withdrawn.1, withdrawn.2, complete, ne_eq, not_false_eq_true,
      decide_true, Bool.not_false, Bool.and_true, Bool.true_and]
    exact removeRemoteRecords service _
  · rw [if_neg withdrawn]
    have marked : Reports service
        (service.mapSourceRecords heartbeat.deviceId ({ · with isStale := true }))
        (service.schedulesStateHandlers parameters (.heartbeat device heartbeat now)) :=
      mapSourceRecords sorted heartbeat.deviceId fun _ => ⟨rfl, rfl, rfl⟩
    unfold CdmpStateService.startSyncRequest
    split
    · exact marked
    · dsimp only
      split <;> exact marked.congr rfl rfl

theorem clearLocalState (stateType : UInt8) :
    Reports service (service.clearLocalState parameters stateType) schedules := by
  unfold CdmpStateService.clearLocalState
  split
  · exact of_same rfl rfl
  split
  · exact of_same rfl rfl
  split
  · exact of_same rfl rfl
  · exact of_same rfl rfl

theorem setLocalState (stateType : UInt8) (data : List UInt8) :
    Reports service (service.setLocalState parameters stateType data).1 schedules := by
  unfold CdmpStateService.setLocalState
  split
  · exact clearLocalState stateType
  split
  · exact of_same rfl rfl
  split
  · exact of_same rfl rfl
  dsimp only
  split
  · split
    · exact of_same rfl rfl
    · exact of_same rfl rfl
  · split
    · exact of_same rfl rfl
    · exact of_same rfl rfl

theorem forgetNetwork (service : CdmpStateService) :
    Reports service (service.forgetNetwork parameters)
      (service.removalSchedules fun _ => true) :=
  (removeRemoteRecords service fun _ => true).congr rfl rfl

/-- Every operation but the pass itself keeps what the handlers are owed. -/
theorem step (sorted : RemoteSorted service.remoteRecords) {label : StateLabel}
    (operation : label ≠ .notifyStateHandlers) :
    Reports service (service.step parameters label)
      (service.schedulesStateHandlers parameters label) := by
  -- One lemma for each operation; those that do not touch the copies report nothing.
  cases label with
  | setLocalState stateType data => exact setLocalState stateType data
  | clearLocalState stateType => exact clearLocalState stateType
  | stateChangeFrame device isDeviceOnline frame now =>
    exact stateChangeFrame sorted device isDeviceOnline frame now
  | stateChangeResponseFrame device frame =>
    simp only [CdmpStateService.step, CdmpStateService.processStateChangeResponseFrame]
    split
    · exact of_same rfl rfl
    split
    · split
      · exact of_same rfl rfl
      · exact of_same rfl rfl
    · exact of_same rfl rfl
  | heartbeat device message now => exact heartbeat sorted device message now
  | deviceEvent event device =>
    cases event with
    | joined => exact of_same rfl rfl
    | restarted => exact mapSourceRecords sorted device.deviceId fun _ => ⟨rfl, rfl, rfl⟩
    | left =>
      have dropped := removeRemoteRecords service (·.source = device.deviceId)
      simp only [CdmpStateService.step, CdmpStateService.onDeviceEvent,
        CdmpStateService.dropSource]
      split <;> exact dropped.congr rfl rfl
  | deviceStatusChanged change =>
    simp only [CdmpStateService.step, CdmpStateService.onDeviceStatusChanged,
      CdmpStateService.schedulesStateHandlers]
    by_cases online : change.newStatus = .online
    · rw [if_pos online]
      exact of_same rfl rfl
    rw [if_neg online]
    by_cases left : change.oldStatus = .online
    · rw [if_pos left]
      simp only [online, left, ne_eq, not_false_eq_true, decide_true, Bool.true_and]
      exact forgetNetwork service
    · rw [if_neg left]
      exact of_same rfl rfl
  | transmit device peers now =>
    simp only [CdmpStateService.step, CdmpStateService.transmit]
    split
    · exact of_same rfl rfl
    · exact of_same rfl rfl
  | notifyStateHandlers => exact absurd rfl operation
  | start device => exact of_same rfl rfl
  | stop =>
    have forgot : Reports { service with isStarted := false }
        ({ service with isStarted := false }.forgetNetwork parameters)
        ({ service with isStarted := false }.removalSchedules fun _ => true) :=
      forgetNetwork _
    exact ⟨forgot.kept, forgot.told, forgot.silent⟩

end Reports

/-! ### The notify task -/

/-- A registered handler, and whether it is still to be told what there is. -/
structure StateHandlerEntry where
  handlerId : ℕ
  stateType : UInt8
  isFirstCallPending : Bool := true
deriving DecidableEq, Repr

/-- How far `NotifyStateHandlers` is. -/
inductive NotifyPass
  | idle
  | started
  /-- The marks are taken, the handlers not called yet. -/
  | taken (changedTypes : Finset UInt8)
deriving DecidableEq

/-- The service with its notify task and its handlers, and what happened to them. -/
structure NotifyingService where
  service : CdmpStateService
  /-- `DoInitialize` has created the task. -/
  isNotifyTaskCreated : Bool := false
  isNotifyTaskScheduled : Bool := false
  pass : NotifyPass := .idle
  /-- An `int`, which is assumed not to come round. -/
  nextHandlerId : ℕ := 0
  stateHandlers : List StateHandlerEntry := []
  /-- Registrations that have not come to the schedule at their end. -/
  registering : List ℕ := []
  /-- The copies when the last pass took the marks. -/
  recordsAtPass : List RemoteRecord := []
  /-- The handlers called so far, by their IDs. -/
  calls : List ℕ := []

/-- What can happen to the service, its handlers and the task that notifies them. -/
inductive NotifyLabel
  | operation (label : StateLabel)
  | doInitialize
  | registerStateHandler (stateType : UInt8)
  /-- The end of a registration, under the other lock. -/
  | scheduleFirstCall (handlerId : ℕ)
  | unregisterStateHandler (handlerId : ℕ)
  /-- The work queue runs the task. -/
  | startPass
  | takeChangedTypes
  | callHandlers

namespace NotifyingService

/-- A service without handlers. -/
def initial (parameters : CdmpStateParameters) : NotifyingService where
  service := .initial parameters

variable (parameters : CdmpStateParameters) (notifying : NotifyingService)

/-- The task is asked for another pass, once it exists. -/
def scheduleStateHandlers : NotifyingService :=
  { notifying with
    isNotifyTaskScheduled := notifying.isNotifyTaskScheduled || notifying.isNotifyTaskCreated }

/-- The handlers of the changed types, and those that were never called. -/
def isCalled (changedTypes : Finset UInt8) (entry : StateHandlerEntry) : Bool :=
  entry.isFirstCallPending || entry.stateType ∈ changedTypes

/-- The handlers that the pass calls once it gets to them. -/
def passCalls : List ℕ :=
  match notifying.pass with
  | .taken changedTypes =>
    (notifying.stateHandlers.filter (isCalled changedTypes)).map (·.handlerId)
  | _ => []

/-- One step of the service, a registration or the task. -/
def step (notifying : NotifyingService) : NotifyLabel → NotifyingService
  -- The pass has labels of its own.
  | .operation .notifyStateHandlers => notifying
  | .operation label =>
    let changed := { notifying with service := notifying.service.step parameters label }
    if notifying.service.schedulesStateHandlers parameters label then changed.scheduleStateHandlers
    else changed
  | .doInitialize => { notifying with isNotifyTaskCreated := true, isNotifyTaskScheduled := true }
  | .registerStateHandler stateType =>
    let handlerId := notifying.nextHandlerId
    { notifying with
      nextHandlerId := handlerId + 1
      stateHandlers := notifying.stateHandlers ++ [{ handlerId, stateType }]
      registering := handlerId :: notifying.registering }
  | .scheduleFirstCall handlerId =>
    if handlerId ∈ notifying.registering then
      { notifying with
        registering := notifying.registering.filter (· ≠ handlerId) }.scheduleStateHandlers
    else notifying
  | .unregisterStateHandler handlerId =>
    { notifying with stateHandlers := notifying.stateHandlers.filter (·.handlerId ≠ handlerId) }
  | .startPass =>
    -- One pass at a time, since they all run on the same queue.
    if notifying.isNotifyTaskScheduled ∧ notifying.pass = .idle then
      { notifying with isNotifyTaskScheduled := false, pass := .started }
    else notifying
  | .takeChangedTypes =>
    if notifying.pass = .started then
      let (service, changedTypes) := notifying.service.notifyStateHandlers
      { notifying with
        service
        pass := .taken changedTypes
        recordsAtPass := service.remoteRecords }
    else notifying
  | .callHandlers =>
    match notifying.pass with
    | .taken changedTypes =>
      { notifying with
        pass := .idle
        stateHandlers := notifying.stateHandlers.map fun entry =>
          if isCalled changedTypes entry then { entry with isFirstCallPending := false } else entry
        calls := notifying.calls ++ notifying.passCalls }
    | _ => notifying

/-- What the handlers are owed in a state of a run. -/
structure NothingLost (notifying : NotifyingService) : Prop where
  /-- A type whose copies differ from those of the last pass is marked. -/
  marked : ∀ stateType,
    heldStates notifying.service.remoteRecords stateType ≠
      heldStates notifying.recordsAtPass stateType →
    stateType ∈ notifying.service.changedTypes
  /-- A pass that takes the marks is due. -/
  due : notifying.isNotifyTaskCreated = true → notifying.service.changedTypes.Nonempty →
    notifying.isNotifyTaskScheduled = true ∨ notifying.pass = .started
  /-- The pass that takes a mark calls every handler of its type, whatever happens in between. -/
  passCalls : notifying.pass = .started → ∀ stateType ∈ notifying.service.changedTypes,
    ∀ others, NotifyLabel.callHandlers ∉ others →
      let later := run (step parameters) (notifying.step parameters .takeChangedTypes) others
      ∀ entry ∈ later.stateHandlers, entry.stateType = stateType →
        entry.handlerId ∈ later.passCalls
  /-- Once nothing is scheduled or running, every handler has been called. -/
  firstCalls : notifying.isNotifyTaskCreated = true → notifying.registering = [] →
    notifying.isNotifyTaskScheduled = false → notifying.pass = .idle →
      ∀ entry ∈ notifying.stateHandlers, entry.handlerId ∈ notifying.calls
  /-- No call names an ID that is still to be given out. -/
  fresh : ∀ handlerId ∈ notifying.calls, handlerId < notifying.nextHandlerId

/-- What makes it so. -/
structure Owed (notifying : NotifyingService) : Prop where
  sorted : StateTables parameters notifying.service
  told : ∀ stateType ∉ notifying.service.changedTypes,
    heldStates notifying.service.remoteRecords stateType =
      heldStates notifying.recordsAtPass stateType
  due : notifying.isNotifyTaskCreated = true → notifying.service.changedTypes.Nonempty →
    notifying.isNotifyTaskScheduled = true ∨ notifying.pass = .started
  pending : notifying.isNotifyTaskCreated = true → ∀ entry ∈ notifying.stateHandlers,
    entry.isFirstCallPending = true → entry.handlerId ∈ notifying.registering ∨
      notifying.isNotifyTaskScheduled = true ∨ notifying.pass ≠ .idle
  called : ∀ entry ∈ notifying.stateHandlers, entry.isFirstCallPending = false →
    entry.handlerId ∈ notifying.calls
  given : ∀ entry ∈ notifying.stateHandlers, entry.handlerId < notifying.nextHandlerId
  fresh : ∀ handlerId ∈ notifying.calls, handlerId < notifying.nextHandlerId

variable {parameters} {notifying}

theorem Owed.initial (parameters : CdmpStateParameters) :
    Owed parameters (NotifyingService.initial parameters) where
  sorted := StateTables.initial parameters
  told _ _ := rfl
  due _ marked := by
    obtain ⟨_, member⟩ := marked
    cases member
  pending _ := nofun
  called := nofun
  given := nofun
  fresh := nofun

/-- An operation marks what it changes, and schedules the task with every new mark. -/
theorem Owed.operation (owed : Owed parameters notifying) {label : StateLabel}
    (isOperation : label ≠ .notifyStateHandlers) :
    Owed parameters (notifying.step parameters (.operation label)) := by
  obtain ⟨tables, told, due, pending, called, given, fresh⟩ := owed
  have reports : Reports notifying.service (notifying.service.step parameters label)
      (notifying.service.schedulesStateHandlers parameters label) :=
    Reports.step tables.remoteTable.sorted isOperation
  have tables := tables.step label
  -- What the operation leaves unmarked is as it was at the last pass.
  have stillTold : ∀ stateType ∉ (notifying.service.step parameters label).changedTypes,
      heldStates (notifying.service.step parameters label).remoteRecords stateType =
        heldStates notifying.recordsAtPass stateType := fun stateType unmarked =>
    (reports.told stateType unmarked).trans (told stateType fun was => unmarked (reports.kept was))
  rw [step.eq_2 _ _ _ isOperation]
  split
  · refine ⟨tables, stillTold, fun created _ => Or.inl ?_, fun created entry member _ => ?_, called,
      given, fresh⟩
    · simp [scheduleStateHandlers, show notifying.isNotifyTaskCreated = true from created]
    · exact Or.inr (Or.inl (by
        simp [scheduleStateHandlers, show notifying.isNotifyTaskCreated = true from created]))
  · rename_i silent
    refine ⟨tables, stillTold, fun created marked => due created ?_, pending, called, given, fresh⟩
    rw [← reports.silent (Bool.eq_false_iff.mpr silent)]
    exact marked

theorem Owed.step (owed : Owed parameters notifying) (label : NotifyLabel) :
    Owed parameters (notifying.step parameters label) := by
  -- The seven parts of the invariant are opened only where the step changes one of them.
  cases label with
  | operation label =>
    by_cases isOperation : label = .notifyStateHandlers
    · rw [isOperation]
      exact owed
    · exact owed.operation isOperation
  | doInitialize =>
    obtain ⟨tables, told, due, pending, called, given, fresh⟩ := owed
    exact ⟨tables, told, fun _ _ => Or.inl rfl, fun _ _ _ _ => Or.inr (Or.inl rfl), called, given,
      fresh⟩
  | registerStateHandler stateType =>
    obtain ⟨tables, told, due, pending, called, given, fresh⟩ := owed
    refine ⟨tables, told, due, fun created entry member isPending => ?_,
      fun entry member isCalled => ?_, fun entry member => ?_,
      fun handlerId isCall => Nat.lt_succ_of_lt (fresh handlerId isCall)⟩
    · rcases List.mem_append.mp member with known | new
      · rcases pending created entry known isPending with registering | dueOrRunning
        · exact Or.inl (List.mem_cons_of_mem _ registering)
        · exact Or.inr dueOrRunning
      · obtain rfl := List.mem_singleton.mp new
        exact Or.inl List.mem_cons_self
    · rcases List.mem_append.mp member with known | new
      · exact called entry known isCalled
      · obtain rfl := List.mem_singleton.mp new
        cases isCalled
    · rcases List.mem_append.mp member with known | new
      · exact Nat.lt_succ_of_lt (given entry known)
      · obtain rfl := List.mem_singleton.mp new
        exact Nat.lt_succ_self _
  | scheduleFirstCall handlerId =>
    simp only [NotifyingService.step]
    split
    · obtain ⟨tables, told, due, pending, called, given, fresh⟩ := owed
      refine ⟨tables, told, fun created _ => Or.inl ?_, fun created _ _ _ => Or.inr (Or.inl ?_),
        called, given, fresh⟩
      · simp [scheduleStateHandlers, show notifying.isNotifyTaskCreated = true from created]
      · simp [scheduleStateHandlers, show notifying.isNotifyTaskCreated = true from created]
    · exact owed
  | unregisterStateHandler handlerId =>
    obtain ⟨tables, told, due, pending, called, given, fresh⟩ := owed
    exact ⟨tables, told, due,
      fun created entry member => pending created entry (List.mem_filter.mp member).1,
      fun entry member => called entry (List.mem_filter.mp member).1,
      fun entry member => given entry (List.mem_filter.mp member).1, fresh⟩
  | startPass =>
    simp only [NotifyingService.step]
    split
    · obtain ⟨tables, told, due, pending, called, given, fresh⟩ := owed
      exact ⟨tables, told, fun _ _ => Or.inr rfl, fun _ _ _ _ => Or.inr (Or.inr nofun), called,
        given, fresh⟩
    · exact owed
  | takeChangedTypes =>
    simp only [NotifyingService.step]
    split
    · obtain ⟨tables, told, due, pending, called, given, fresh⟩ := owed
      refine ⟨tables.step .notifyStateHandlers, fun _ _ => rfl, fun _ marked => ?_,
        fun _ _ _ _ => Or.inr (Or.inr nofun), called, given, fresh⟩
      obtain ⟨_, member⟩ := marked
      cases member
    · exact owed
  | callHandlers =>
    simp only [NotifyingService.step]
    split
    · rename_i changedTypes taken
      obtain ⟨tables, told, due, pending, called, given, fresh⟩ := owed
      have passes : notifying.passCalls =
          (notifying.stateHandlers.filter (isCalled changedTypes)).map (·.handlerId) := by
        rw [passCalls, taken]
      refine ⟨tables, told, fun created marked => ?_, fun _ entry member isPending => ?_,
        fun entry member isDone => ?_, fun entry member => ?_, fun handlerId isCall => ?_⟩
      · rcases due created marked with scheduled | started
        · exact Or.inl scheduled
        · rw [taken] at started
          cases started
      · -- A handler that was never called is called by every pass.
        obtain ⟨before, isBefore, rfl⟩ := List.mem_map.mp member
        split at isPending
        · cases isPending
        · rename_i notCalled
          simp [isCalled, isPending] at notCalled
      · obtain ⟨before, isBefore, rfl⟩ := List.mem_map.mp member
        rw [List.mem_append, passes]
        by_cases calls : isCalled changedTypes before = true
        · rw [if_pos calls]
          exact Or.inr (List.mem_map.mpr ⟨before, List.mem_filter.mpr ⟨isBefore, calls⟩, rfl⟩)
        · rw [if_neg calls] at isDone ⊢
          exact Or.inl (called before isBefore isDone)
      · obtain ⟨before, isBefore, rfl⟩ := List.mem_map.mp member
        split <;> exact given before isBefore
      · rcases List.mem_append.mp isCall with earlier | now
        · exact fresh handlerId earlier
        · rw [passes] at now
          obtain ⟨entry, isEntry, rfl⟩ := List.mem_map.mp now
          exact given entry (List.mem_filter.mp isEntry).1
    · exact owed

/-- A pass that has taken the marks keeps them until it calls the handlers. -/
theorem pass_run {changedTypes : Finset UInt8} (taken : notifying.pass = .taken changedTypes)
    {others : List NotifyLabel} (notYet : NotifyLabel.callHandlers ∉ others) :
    (run (step parameters) notifying others).pass = .taken changedTypes := by
  induction others generalizing notifying with
  | nil => exact taken
  | cons label others ih =>
    rw [List.mem_cons, not_or] at notYet
    apply ih _ notYet.2
    cases label with
    | operation label =>
      by_cases isOperation : label = .notifyStateHandlers
      · rw [isOperation]
        exact taken
      · rw [step.eq_2 _ _ _ isOperation]
        split <;> exact taken
    | doInitialize => exact taken
    | registerStateHandler stateType => exact taken
    | scheduleFirstCall handlerId =>
      simp only [step]
      split <;> exact taken
    | unregisterStateHandler handlerId => exact taken
    | startPass => simp [step, taken]
    | takeChangedTypes => simp [step, taken]
    | callHandlers => exact absurd rfl notYet.1

theorem Owed.nothingLost (owed : Owed parameters notifying) : NothingLost parameters notifying where
  marked stateType differs := by
    by_contra unmarked
    exact differs (owed.told stateType unmarked)
  due := owed.due
  passCalls started stateType marked others notYet := by
    intro later entry member ofType
    have taken : (notifying.step parameters .takeChangedTypes).pass =
        .taken notifying.service.changedTypes := by
      simp [NotifyingService.step, started, CdmpStateService.notifyStateHandlers]
    have atCalls : later.pass = .taken notifying.service.changedTypes := pass_run taken notYet
    rw [NotifyingService.passCalls, atCalls]
    refine List.mem_map.mpr ⟨entry, List.mem_filter.mpr ⟨member, ?_⟩, rfl⟩
    simp [isCalled, ofType, marked]
  firstCalls created none notScheduled idle entry member := by
    cases isPending : entry.isFirstCallPending with
    | false => exact owed.called entry member isPending
    | true =>
      rcases owed.pending created entry member isPending with registering | scheduled | running
      · rw [none] at registering
        cases registering
      · rw [notScheduled] at scheduled
        cases scheduled
      · exact absurd idle running
  fresh := owed.fresh

/-- No operation changes the copies of a type without a mark, no mark is without a pass to come
that calls the type's handlers, and no registered handler stays without its first call. -/
theorem nothingLost_run (parameters : CdmpStateParameters) (labels : List NotifyLabel) :
    Always (step parameters) (NothingLost parameters) (initial parameters) labels :=
  (always_of_preserved (Owed.initial parameters) (fun _ label owed => owed.step label) labels).imp
    fun _ owed => owed.nothingLost

end NotifyingService

end RtCore.Cdmp
