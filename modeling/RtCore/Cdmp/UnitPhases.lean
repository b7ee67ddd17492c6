import RtCore.Cdmp.Phases

/-!
# The phases of a unit

What the steps of a unit do to the phase of its network service: most of them leave it alone, at
most adding other work to the queue. The others are the turns of the control work and of the two
tasks, and the start and the stop of the unit.

## Main definitions

* `CdmpUnit.Turn` — what is run next: the work queue or one of the two tasks
* `CdmpUnit.UnitTurn` — the steps of a unit, by what they do to its phase
* `CdmpUnit.GoesOnline` — what holds of a unit between its steps

## Main results

* `CdmpUnit.unitTurn` — every step is one of them
* `CdmpUnit.GoesOnline.step` — every step keeps the phase
-/

namespace RtCore.Cdmp

open RtCore.Foundation
open CdmpNetworkService

/-! ### What a unit sends -/

/-- The frames on the management CAN ID. -/
def managementFrames (outputs : List UnitOutput) : List (List UInt8) :=
  outputs.filterMap fun
    | .frame .management data => some data
    | _ => none

/-- The management messages, as other units decode them. -/
def managementMessages (outputs : List UnitOutput) : List CdmpManagementMessage :=
  (managementFrames outputs).filterMap fun data =>
    match CdmpManagementMessage.fromCanFrame data with
    | .ok message => message
    | .error _ => none

/-- The discovery requests that are sent. -/
def discoveryRequests (outputs : List UnitOutput) : List CdmpDiscoveryRequestMessage :=
  (managementMessages outputs).filterMap fun
    | .discoveryRequest message => some message
    | _ => none

/-- The IDs of the claims that are sent. -/
def claimedIds (outputs : List UnitOutput) : List UInt8 :=
  (managementMessages outputs).filterMap fun
    | .idClaim claim => some claim.claimingDeviceId
    | _ => none

theorem managementFrames_append (first second : List UnitOutput) :
    managementFrames (first ++ second) = managementFrames first ++ managementFrames second :=
  List.filterMap_append

theorem discoveryRequests_append (first second : List UnitOutput) :
    discoveryRequests (first ++ second) = discoveryRequests first ++ discoveryRequests second := by
  simp only [discoveryRequests, managementMessages, managementFrames_append, List.filterMap_append]

theorem claimedIds_append (first second : List UnitOutput) :
    claimedIds (first ++ second) = claimedIds first ++ claimedIds second := by
  simp only [claimedIds, managementMessages, managementFrames_append, List.filterMap_append]

theorem length_discoveryRequests_le (outputs : List UnitOutput) :
    (discoveryRequests outputs).length ≤ (managementFrames outputs).length :=
  (List.length_filterMap_le _ _).trans (List.length_filterMap_le _ _)

theorem discoveryRequests_of_silent {outputs : List UnitOutput}
    (silent : managementFrames outputs = []) : discoveryRequests outputs = [] := by
  rw [discoveryRequests, managementMessages, silent]
  rfl

theorem claimedIds_of_silent {outputs : List UnitOutput}
    (silent : managementFrames outputs = []) : claimedIds outputs = [] := by
  rw [claimedIds, managementMessages, silent]
  rfl

theorem claimedIds_of_claim {outputs : List UnitOutput} {claim : CdmpIdClaimRequestMessage}
    (sent : managementFrames outputs = [claim.toCanFrame]) :
    claimedIds outputs = [claim.claimingDeviceId] := by
  simp only [claimedIds, managementMessages, sent, List.filterMap_cons,
    CdmpManagementMessage.fromCanFrame_idClaim, List.filterMap_nil]

/-! ### Control work in the queue -/

/-- The control work of a session in the queue. -/
def controlIn (session : ℕ) (queue : List UnitWork) : List NetworkWork :=
  queue.filterMap fun
    | .network queued work => if queued = session ∧ work.isControl then some work else none
    | _ => none

@[simp] theorem controlIn_append (session : ℕ) (first second : List UnitWork) :
    controlIn session (first ++ second) = controlIn session first ++ controlIn session second :=
  List.filterMap_append

theorem controlIn_queuedWork {session : ℕ} {effects : List NetworkEffect}
    (current : ∀ queued work, .runInSession queued work ∈ effects → queued = session) :
    controlIn session (queuedWork effects) = controlWork effects := by
  induction effects with
  | nil => rfl
  | cons effect effects ih =>
    have later := ih fun queued work member => current queued work (List.mem_cons_of_mem _ member)
    cases effect with
    | runInSession queued work =>
      obtain rfl := current queued work List.mem_cons_self
      cases isControl : work.isControl <;>
        simpa [controlIn, queuedWork, controlWork, isControl] using later
    | _ => exact later

/-- Work of an earlier session is not control work of this one. -/
theorem controlIn_of_old {session : ℕ} {queue : List UnitWork}
    (old : ∀ queued work, .network queued work ∈ queue → queued < session) :
    controlIn session queue = [] := by
  refine List.filterMap_eq_nil_iff.mpr fun work member => ?_
  cases work with
  | network queued networkWork => exact if_neg fun own => absurd own.1 (old _ _ member).ne
  | _ => rfl

namespace CdmpUnit

variable {parameters : CdmpUnitParameters} {unit : CdmpUnit}

/-- The frames of a step of the network service. -/
theorem managementFrames_applyEffects (now : ℕ) (effects : List NetworkEffect) :
    managementFrames (applyEffects parameters now unit effects).2 = sentFrames effects := by
  induction effects generalizing unit with
  | nil => rfl
  | cons effect effects ih =>
    have first : managementFrames (unit.applyEffect parameters now effect).2 =
        sentFrames [effect] := by
      cases effect with
      | heartbeat message =>
        -- A heartbeat may send a command, on another CAN ID.
        refine List.filterMap_eq_nil_iff.mpr fun output sent => ?_
        simp only [applyEffect, onHeartbeat] at sent
        split_ifs at sent
        · obtain ⟨_, rfl⟩ := mem_sendCommand sent
          rfl
        · cases sent
      | _ => rfl
    rw [applyEffects, managementFrames_append, first, ih, ← sentFrames_append]
    rfl

theorem managementFrames_of_quiet {result : CdmpUnit × List UnitOutput}
    (quiet : unit.Quiet result) : managementFrames result.2 = [] := by
  refine List.filterMap_eq_nil_iff.mpr fun output sent => ?_
  cases output with
  | deviceEvent event deviceId => rfl
  | frame canId data =>
    cases canId with
    | management => exact absurd sent (quiet.frames data)
    | _ => rfl

/-! ### The steps of a unit, by what they do to its phase -/

/-- What is run next. -/
inductive Turn
  | workQueue
  | discoveryTask
  | idClaimTask
deriving DecidableEq, Repr

/-- The step is a run of the work queue or the task. -/
def takesTurn : Turn → UnitLabel → Prop
  | .workQueue, .runWork _ => True
  | .discoveryTask, .discoveryTask _ => True
  | .idClaimTask, .idClaimTask _ => True
  | _, _ => False

/-- The control work of the session that waits in the queue. -/
def control (unit : CdmpUnit) : List NetworkWork :=
  controlIn unit.network.session unit.workQueue

/-- A step that leaves the phase alone: its work is added behind what is left of the queue. -/
structure Stays (unit : CdmpUnit) (left : List UnitWork) (result : CdmpUnit × List UnitOutput) :
    Prop where
  neutral : Neutral unit.network (result.1.network, [])
  queue : ∃ added, result.1.workQueue = left ++ added ∧ controlIn unit.network.session added = []
  silent : unit.network.device.status ≠ .online → managementFrames result.2 = []

/-- The steps of a unit, by what they do to its phase. -/
inductive UnitTurn (parameters : CdmpUnitParameters) (unit : CdmpUnit) (label : UnitLabel) : Prop
  /-- No turn, or the turn of an empty queue or of a task that is not scheduled. -/
  | waits (stays : unit.Stays unit.workQueue (unit.step parameters label))
      (notQueue : unit.workQueue ≠ [] → ¬ takesTurn .workQueue label)
      (notDiscovery : unit.network.isDiscoveryTaskScheduled = true →
        ¬ takesTurn .discoveryTask label)
      (notClaim : unit.network.isIdClaimTaskScheduled = true → ¬ takesTurn .idClaimTask label)
  /-- The turn of work that is no control work of this session. -/
  | pops (head : UnitWork) (rest : List UnitWork) (queue : unit.workQueue = head :: rest)
      (other : controlIn unit.network.session [head] = [])
      (isTurn : takesTurn .workQueue label)
      (stays : unit.Stays rest (unit.step parameters label))
  /-- The turn of control work. -/
  | works (work : NetworkWork) (rest : List UnitWork) (now : ℕ)
      (queue : unit.workQueue = .network unit.network.session work :: rest)
      (isControl : work.isControl = true)
      (result : unit.step parameters label =
        { unit with workQueue := rest }.runNetwork parameters now (unit.network.runWork work now))
  /-- Another unit has the own UID. -/
  | conflict (work : NetworkWork) (rest : List UnitWork) (now : ℕ)
      (queue : unit.workQueue = .network unit.network.session work :: rest)
      (other : work.isControl = false)
      (result : unit.step parameters label = { unit with workQueue := rest }.runNetwork parameters
        now ({ unit.network with discoveryResponseReceived := true }.transition (·.enterError)))
  | discovers (now : ℕ) (scheduled : unit.network.isDiscoveryTaskScheduled = true)
      (result : unit.step parameters label =
        unit.runNetwork parameters now unit.network.runDiscoveryAttempt)
  | claims (time : ℕ) (isLabel : label = .idClaimTask time)
      (scheduled : unit.network.isIdClaimTaskScheduled = true)
      (result : unit.step parameters label =
        unit.runNetwork parameters time (unit.network.runIdClaimAttempt time))
  | starts (now : ℕ) (stopped : unit.isStarted = false)
      (result : unit.step parameters label = unit.threadEntry parameters now)
  | stops (now : ℕ) (isLabel : label = .stop now)
      (result : unit.step parameters label = unit.doStop parameters now)

theorem neutral_refl (service : CdmpNetworkService) : Neutral service (service, []) := by
  constructor <;> intros <;> rfl

/-- A step that leaves the network service and the queue alone. -/
theorem stays_of_same {result : CdmpUnit × List UnitOutput}
    (network : result.1.network = unit.network) (queue : result.1.workQueue = unit.workQueue)
    (silent : managementFrames result.2 = []) : unit.Stays unit.workQueue result := by
  refine ⟨?_, ⟨[], by rw [queue, List.append_nil], rfl⟩, fun _ => silent⟩
  rw [network]
  exact neutral_refl _

/-- A neutral step of the network service. -/
theorem stays_runNetwork {left : List UnitWork} {now : ℕ}
    {result : CdmpNetworkService × List NetworkEffect} (neutral : Neutral unit.network result)
    (reports : unit.network.Reports result) :
    unit.Stays left ({ unit with workQueue := left }.runNetwork parameters now result) := by
  obtain ⟨network, -, queue⟩ :=
    runNetwork_frame parameters { unit with workQueue := left } now result
  refine ⟨?_, ⟨queuedWork result.2, queue, ?_⟩, fun offline => ?_⟩
  · rw [network]
    exact { neutral with work := rfl, frames := fun _ => rfl }
  · rw [controlIn_queuedWork reports.work, neutral.work]
  · exact (managementFrames_applyEffects ..).trans (neutral.frames offline)

/-- Work of this session that is no control work. -/
theorem controlIn_singleton {session : ℕ} {work : NetworkWork} (other : work.isControl = false) :
    controlIn session [.network session work] = [] := by
  simp [controlIn, other]

theorem unitTurn_runWork (now : ℕ) : UnitTurn parameters unit (.runWork now) := by
  have stepped : unit.step parameters (.runWork now) = unit.runWork parameters now := rfl
  unfold runWork at stepped
  cases queue : unit.workQueue with
  | nil =>
    rw [queue] at stepped
    refine .waits (stays_of_same ?_ ?_ ?_) (fun some_work => absurd queue some_work) ?_ ?_
    · rw [stepped]
    · rw [stepped]
    · rw [stepped]
      rfl
    · exact fun _ => id
    · exact fun _ => id
  | cons head rest =>
    rw [queue] at stepped
    -- What the work does without the network service.
    have popped {result : CdmpUnit × List UnitOutput}
        (value : unit.step parameters (.runWork now) = result)
        (other : controlIn unit.network.session [head] = [])
        (network : result.1.network = unit.network) (left : result.1.workQueue = rest)
        (silent : managementFrames result.2 = []) :
        UnitTurn parameters unit (.runWork now) := by
      refine .pops head rest queue other trivial ?_
      rw [value]
      have stays : Stays { unit with workQueue := rest } rest result :=
        stays_of_same network left silent
      exact ⟨stays.neutral, stays.queue, stays.silent⟩
    cases head with
    | network session work =>
      by_cases current : unit.network.session = session
      · subst current
        have ran : unit.step parameters (.runWork now) = _ := stepped.trans (if_pos rfl)
        cases isControl : work.isControl with
        | true => exact .works work rest now queue isControl ran
        | false =>
          have reports := unit.network.reports_runWork work now
          have neutral : Neutral unit.network (unit.network.runWork work now) ∨
              unit.network.runWork work now =
                { unit.network with discoveryResponseReceived := true }.transition
                  (·.enterError) := by
            cases work with
            | processMessage message => exact unit.network.processMessage_neutral message now
            | sendDiscoveryResponse => exact Or.inl (neutral_sendDiscoveryResponse unit.network)
            | _ => cases isControl
          rcases neutral with neutral | conflict
          · refine .pops _ rest queue (controlIn_singleton isControl) trivial ?_
            rw [ran]
            exact stays_runNetwork neutral reports
          · exact .conflict work rest now queue isControl (by rw [ran, conflict])
      · exact popped (stepped.trans (if_neg current)) (by simp [controlIn, Ne.symm current])
          rfl rfl rfl
    | heartbeat message =>
      refine .pops _ rest queue rfl trivial ?_
      rw [stepped]
      exact stays_runNetwork (neutral_updateDeviceFromHeartbeat _ message now)
        (unit.network.reports_updateDeviceFromHeartbeat message now)
    | commandRequest command =>
      refine popped stepped rfl rfl rfl ?_
      refine List.filterMap_eq_nil_iff.mpr fun output sent => ?_
      have isService := isServiceFrame_of_processRequest sent
      cases output with
      | deviceEvent event deviceId => rfl
      | frame canId data => cases canId <;> first | rfl | cases isService
    | commandResponse response => exact popped stepped rfl rfl rfl rfl

theorem stays_receive {work : UnitWork} (other : controlIn unit.network.session [work] = []) :
    unit.Stays unit.workQueue (unit.receive work, []) := by
  unfold CdmpUnit.receive
  dsimp only
  split_ifs
  · exact ⟨neutral_refl _, ⟨[work], rfl, other⟩, fun _ => rfl⟩
  · exact stays_of_same rfl rfl rfl

/-- Every step. -/
theorem unitTurn (parameters : CdmpUnitParameters) (unit : CdmpUnit) (label : UnitLabel) :
    UnitTurn parameters unit label := by
  -- A step that is none of the three turns.
  have other (stays : unit.Stays unit.workQueue (unit.step parameters label))
      (noTurn : ∀ turn, ¬ takesTurn turn label) : UnitTurn parameters unit label :=
    .waits stays (fun _ => noTurn _) (fun _ => noTurn _) (fun _ => noTurn _)
  have quiet (quiet : unit.Quiet (unit.step parameters label))
      (queue : (unit.step parameters label).1.workQueue = unit.workQueue)
      (noTurn : ∀ turn, ¬ takesTurn turn label) : UnitTurn parameters unit label :=
    other (stays_of_same quiet.network queue (managementFrames_of_quiet quiet)) noTurn
  have silentFrames (outputs : List UnitOutput)
      (service : ∀ output ∈ outputs, output.isServiceFrame = true) :
      managementFrames outputs = [] := by
    refine List.filterMap_eq_nil_iff.mpr fun output sent => ?_
    have isService := service output sent
    cases output with
    | deviceEvent event deviceId => rfl
    | frame canId data => cases canId <;> first | rfl | cases isService
  cases label with
  | receiveManagement message =>
    exact other (stays_receive (controlIn_singleton rfl)) (by rintro ⟨⟩ <;> exact id)
  | receiveHeartbeat message => exact other (stays_receive rfl) (by rintro ⟨⟩ <;> exact id)
  | receiveCommandRequest command => exact other (stays_receive rfl) (by rintro ⟨⟩ <;> exact id)
  | receiveCommandResponse response => exact other (stays_receive rfl) (by rintro ⟨⟩ <;> exact id)
  | stateFrame isResponse frame now =>
    refine quiet (unit.quiet_processStateFrame parameters isResponse frame now) ?_
      (by rintro ⟨⟩ <;> exact id)
    simp only [step, processStateFrame]
    split_ifs <;> rfl
  | runWork now => exact unitTurn_runWork now
  | discoveryTask now =>
    by_cases scheduled : unit.network.isDiscoveryTaskScheduled = true
    · refine .discovers now scheduled ?_
      simp only [step, CdmpNetworkService.step, if_pos scheduled]
    · refine .waits ?_ (fun _ => id) (fun isScheduled => absurd isScheduled scheduled) fun _ => id
      simp only [step, CdmpNetworkService.step, if_neg scheduled]
      exact stays_of_same rfl rfl rfl
  | idClaimTask now =>
    by_cases scheduled : unit.network.isIdClaimTaskScheduled = true
    · exact .claims now rfl scheduled
        (by simp only [step, CdmpNetworkService.step, if_pos scheduled])
    · refine .waits ?_ (fun _ => id) (fun _ => id) fun isScheduled => absurd isScheduled scheduled
      simp only [step, CdmpNetworkService.step, if_neg scheduled]
      exact stays_of_same rfl rfl rfl
  | validationTask now =>
    exact other (stays_runNetwork (neutral_processPeriodicValidation _ now)
      (unit.network.reports_processPeriodicValidation now)) (by rintro ⟨⟩ <;> exact id)
  | heartbeatTask =>
    refine other (stays_of_same ?_ ?_ ?_) (by rintro ⟨⟩ <;> exact id)
    all_goals
      simp only [step, processPeriodicHeartbeat]
      split_ifs <;> rfl
  | transmitTask now =>
    refine quiet (unit.quiet_transmit parameters now) ?_ (by rintro ⟨⟩ <;> exact id)
    simp only [step, transmit]
    split_ifs
    · obtain ⟨_, same⟩ := sendCommand_fst parameters
        { unit with state := (unit.state.transmit unit.network.device unit.statePeers now).1 }
        deviceIdBroadcast CdmpServiceCommandCode.stateSyncRequest [] none now
      rw [same]
    · rfl
  | replayTask =>
    exact other
      (stays_of_same rfl rfl (silentFrames _ fun _ => isServiceFrame_of_sendNotifications))
      (by rintro ⟨⟩ <;> exact id)
  | notifyTask => exact other (stays_of_same rfl rfl rfl) (by rintro ⟨⟩ <;> exact id)
  | expireTransaction first now =>
    exact other (stays_of_same rfl rfl rfl) (by rintro ⟨⟩ <;> exact id)
  | setLocalState stateType data =>
    exact other (stays_of_same rfl rfl rfl) (by rintro ⟨⟩ <;> exact id)
  | clearLocalState stateType =>
    exact other (stays_of_same rfl rfl rfl) (by rintro ⟨⟩ <;> exact id)
  | sendCommand targetDeviceId commandCode data callback now =>
    obtain ⟨_, same⟩ := sendCommand_fst parameters unit targetDeviceId commandCode data callback now
    refine other (stays_of_same ?_ ?_ (silentFrames _ fun _ => isServiceFrame_of_sendCommand))
      (by rintro ⟨⟩ <;> exact id)
    · simp only [step, same]
    · simp only [step, same]
  | start now =>
    by_cases started : unit.isStarted = true
    · refine other ?_ (by rintro ⟨⟩ <;> exact id)
      simp only [step, start, if_pos started]
      exact stays_of_same rfl rfl rfl
    · exact .starts now (by simpa using started) (if_neg started)
  | stop now =>
    by_cases started : unit.isStarted = true
    · exact .stops now rfl (if_pos started)
    · refine other ?_ (by rintro ⟨⟩ <;> exact id)
      simp only [step, stop, if_neg started]
      exact stays_of_same rfl rfl rfl
  | canbus isValid =>
    refine other ⟨?_, ⟨[], (List.append_nil _).symm, rfl⟩, fun _ => rfl⟩
      (by rintro ⟨⟩ <;> exact id)
    constructor <;> intros <;> rfl
  | iterate order =>
    refine other ⟨?_, ⟨[], (List.append_nil _).symm, rfl⟩, fun _ => rfl⟩
      (by rintro ⟨⟩ <;> exact id)
    constructor <;> intros <;> rfl

/-! ### Between the steps of a unit -/

/-- The phase of the unit, with the control work that waits in its queue. -/
structure GoesOnline (busLost : Prop) (unit : CdmpUnit) : Prop where
  sessional : unit.Sessional
  phase : Phase busLost unit.network unit.control

variable {busLost : Prop}

theorem goesOnline_create (uid : { uid : UInt32 // uid ≠ 0 }) (features : UInt16) (now : ℕ) :
    (create parameters uid features now).GoesOnline busLost where
  sessional := sessional_create parameters uid features now
  phase := .stopped rfl (by simp [create, initial])

/-- Outside its sessions a unit has no control work. -/
theorem goesOnline_of_stopped (sessional : unit.Sessional)
    (stopped : unit.network.isRunning = false) (status : unit.network.device.status ≠ .init) :
    unit.GoesOnline busLost := by
  refine ⟨sessional, ?_⟩
  rw [control, controlIn_of_old fun session work queued => (sessional.queue session work queued).2
    stopped]
  exact .stopped stopped status

/-- The control work after a step of the network service in the same session. -/
theorem control_runNetwork {left : List UnitWork} {now : ℕ}
    {result : CdmpNetworkService × List NetworkEffect} (reports : unit.network.Reports result)
    (session : result.1.session = unit.network.session) :
    ({ unit with workQueue := left }.runNetwork parameters now result).1.control =
      controlIn unit.network.session left ++ controlWork result.2 := by
  obtain ⟨network, -, queue⟩ :=
    runNetwork_frame parameters { unit with workQueue := left } now result
  rw [control, network, queue, session, controlIn_append, controlIn_queuedWork reports.work]

/-- A task that is scheduled says that there is a session. -/
theorem Sessional.running_of_task (sessional : unit.Sessional)
    (scheduled : unit.network.isDiscoveryTaskScheduled = true ∨
      unit.network.isIdClaimTaskScheduled = true) : unit.network.isRunning = true := by
  rcases sessional.settled with running | idle
  · exact running
  · rw [idle.isDiscoveryTaskScheduled, idle.isIdClaimTaskScheduled] at scheduled
    rcases scheduled with absurd | absurd <;> cases absurd

/-- What a stay leaves of the control work. -/
theorem Stays.control {left : List UnitWork} {result : CdmpUnit × List UnitOutput}
    (stays : unit.Stays left result) :
    result.1.control = controlIn unit.network.session left := by
  obtain ⟨added, queue, other⟩ := stays.queue
  rw [CdmpUnit.control, stays.neutral.session, queue, controlIn_append, other, List.append_nil]

theorem control_cons {work : NetworkWork} {rest : List UnitWork}
    (queue : unit.workQueue = .network unit.network.session work :: rest)
    (isControl : work.isControl = true) :
    unit.control = work :: controlIn unit.network.session rest := by
  simp [control, queue, controlIn, isControl]

theorem control_of_other {head : UnitWork} {rest : List UnitWork}
    (queue : unit.workQueue = head :: rest) (other : controlIn unit.network.session [head] = []) :
    controlIn unit.network.session rest = unit.control := by
  rw [control, queue, ← List.singleton_append, controlIn_append, other, List.nil_append]

/-- The phase after a step of the network service in the same session. -/
theorem goesOnline_runNetwork {left : List UnitWork} {now : ℕ}
    {result : CdmpNetworkService × List NetworkEffect} (reports : unit.network.Reports result)
    (session : result.1.session = unit.network.session)
    (sessional : ({ unit with workQueue := left }.runNetwork parameters now result).1.Sessional)
    (phase : Phase busLost result.1 (controlIn unit.network.session left ++ controlWork result.2)) :
    ({ unit with workQueue := left }.runNetwork parameters now result).1.GoesOnline busLost := by
  refine ⟨sessional, ?_⟩
  rw [control_runNetwork reports session, (runNetwork_frame ..).1]
  exact phase

/-- The session is over after a step of the network service. -/
theorem goesOnline_of_idle {left : List UnitWork} {now : ℕ}
    {result : CdmpNetworkService × List NetworkEffect}
    (sessional : ({ unit with workQueue := left }.runNetwork parameters now result).1.Sessional)
    (idle : result.1.Idle) (status : result.1.device.status ≠ .init) :
    ({ unit with workQueue := left }.runNetwork parameters now result).1.GoesOnline busLost := by
  have network := (runNetwork_frame parameters { unit with workQueue := left } now result).1
  exact goesOnline_of_stopped sessional (by rw [network]; exact idle.isRunning)
    (by rw [network]; exact status)

theorem GoesOnline.works (goes : unit.GoesOnline busLost) {work : NetworkWork}
    {rest : List UnitWork} {now : ℕ}
    (queue : unit.workQueue = .network unit.network.session work :: rest)
    (isControl : work.isControl = true)
    (sessional : ({ unit with workQueue := rest }.runNetwork parameters now
      (unit.network.runWork work now)).1.Sessional) :
    ({ unit with workQueue := rest }.runNetwork parameters now
      (unit.network.runWork work now)).1.GoesOnline busLost := by
  have reports := unit.network.reports_runWork work now
  have phase := goes.phase
  rw [control_cons queue isControl] at phase
  -- Only one piece of control work waits, and the phase says which.
  generalize waiting : controlIn unit.network.session rest = others at phase
  have ends (status : CdmpDeviceStatus) (stops : stopsService status = true)
      (notInit : status ≠ .init) (isRunning : unit.network.isRunning = true)
      (claiming : unit.network.device.status = .claiming)
      (valid : CdmpDeviceStatus.claiming.isValidTransition status = true)
      (other : status ≠ .claiming) :
      let result := unit.network.transition (·.setStatus status false)
      result.1.Idle ∧ result.1.device.status ≠ .init := by
    obtain ⟨idle, isStatus, -⟩ | ⟨-, same | refused⟩ := stops_or_same _ isRunning stops
    · exact ⟨idle, fun isInit => notInit (isStatus.symm.trans isInit)⟩
    · exact absurd (same.trans claiming) other
    · rw [claiming, valid] at refused
      cases refused
  cases phase with
  | entering isRunning status discovery claim =>
    refine goesOnline_runNetwork reports rfl sessional ?_
    rw [waiting]
    exact .discovering isRunning status rfl claim (Nat.zero_le _) (Nat.zero_le _)
  | starting isRunning status discovery claim =>
    refine goesOnline_runNetwork reports rfl sessional ?_
    rw [waiting]
    exact .claiming isRunning status discovery rfl
      ⟨unassigned_ne_broadcast, Nat.zero_le _, fun _ => rfl⟩
  | failed isRunning status discovery claim isEnd =>
    rcases isEnd with rfl | rfl
    · obtain ⟨idle, notInit⟩ :=
        ends .versionMismatch rfl (by decide) isRunning status rfl (by decide)
      exact goesOnline_of_idle sessional idle notInit
    · obtain ⟨idle, notInit⟩ := ends .error rfl (by decide) isRunning status rfl (by decide)
      exact goesOnline_of_idle sessional idle notInit

/-- Another unit with the own UID ends the session, unless the unit is in ERROR or
VERSION_MISMATCH already. -/
theorem conflict_cases (isRunning : unit.network.isRunning = true) :
    let result :=
      { unit.network with discoveryResponseReceived := true }.transition (·.enterError)
    (result.1.Idle ∧ result.1.device.status = .error ∧ sentFrames result.2 = []) ∨
      Neutral unit.network result ∧ unit.network.device.status ≠ .init ∧
        unit.network.device.status ≠ .claiming := by
  obtain ⟨idle, isError, silent, -⟩ | ⟨same, stuck⟩ := stops_or_same
    { unit.network with discoveryResponseReceived := true } isRunning
    (show stopsService .error = true from rfl)
  · exact Or.inl ⟨idle, isError, silent⟩
  · refine Or.inr ⟨?_, ?_, ?_⟩
    · have value : { unit.network with discoveryResponseReceived := true }.transition
          (·.enterError) = ({ unit.network with discoveryResponseReceived := true }, []) := same
      rw [value]
      constructor <;> intros <;> rfl
    all_goals
      intro status
      dsimp only at stuck
      rw [status] at stuck
      exact absurd stuck (by decide)

theorem GoesOnline.discovers (goes : unit.GoesOnline busLost) {now : ℕ}
    (scheduled : unit.network.isDiscoveryTaskScheduled = true)
    (sessional : (unit.runNetwork parameters now
      unit.network.runDiscoveryAttempt).1.Sessional) :
    (unit.runNetwork parameters now unit.network.runDiscoveryAttempt).1.GoesOnline busLost := by
  have reports := unit.network.reports_runDiscoveryAttempt
  have running := goes.sessional.running_of_task (Or.inl scheduled)
  obtain ⟨waiting, status, claim, attempts, resets⟩ := goes.phase.of_discoveryTask running scheduled
  have nothing : controlIn unit.network.session unit.workQueue = [] := waiting
  obtain ⟨isRunning, session, claim', ⟨claiming, unscheduled, work, -⟩ |
    ⟨device, discovery, attempts', resets', -, sent⟩⟩ :=
    runDiscoveryAttempt_spec status attempts resets
  · refine goesOnline_runNetwork reports session sessional ?_
    rw [work, nothing]
    exact .starting (isRunning.trans running) claiming unscheduled (claim'.trans claim)
  · refine goesOnline_runNetwork reports session sessional ?_
    have noWork : controlWork unit.network.runDiscoveryAttempt.2 = [] := by
      rw [sent]
      unfold CdmpNetworkService.sendFrame
      split_ifs <;> rfl
    rw [noWork, nothing]
    exact .discovering (isRunning.trans running) ((congrArg (·.status) device).trans status)
      (discovery.trans scheduled) (claim'.trans claim) attempts' resets'

theorem GoesOnline.claims (goes : unit.GoesOnline busLost)
    (lost : unit.network.isCanbusValid = false → busLost) {now : ℕ}
    (scheduled : unit.network.isIdClaimTaskScheduled = true)
    (sessional : (unit.runNetwork parameters now
      (unit.network.runIdClaimAttempt now)).1.Sessional) :
    (unit.runNetwork parameters now (unit.network.runIdClaimAttempt now)).1.GoesOnline busLost := by
  have reports := unit.network.reports_runIdClaimAttempt now
  have running := goes.sessional.running_of_task (Or.inr scheduled)
  obtain ⟨waiting, status, discovery, position⟩ := goes.phase.of_idClaimTask running scheduled
  have nothing : controlIn unit.network.session unit.workQueue = [] := waiting
  obtain ⟨isRunning, session, discovery', ⟨noBus, device, unscheduled, silent⟩ |
    ⟨claiming, unscheduled, work, ends, sent⟩ | ⟨online, unscheduled, noWork, -⟩ |
    ⟨next, sent⟩⟩ := runIdClaimAttempt_spec status position now
  -- The task holds no work in the queue, so the phase after it reads only what this run queues.
  all_goals
    refine goesOnline_runNetwork reports session sessional ?_
    rw [nothing]
  · rw [silent]
    exact .abandoned (lost noBus) (isRunning.trans running)
      ((congrArg (·.status) device).trans status) (discovery'.trans discovery) unscheduled
  · have isWork : controlWork (unit.network.runIdClaimAttempt now).2 = [work] := by
      rw [sent]
      rcases ends with rfl | rfl <;> rfl
    rw [isWork]
    exact .failed (isRunning.trans running) claiming (discovery'.trans discovery) unscheduled ends
  · rw [noWork]
    exact .settled (isRunning.trans running) (by simp [online]) (by simp [online])
      (discovery'.trans discovery) unscheduled
  · rw [sent]
    exact .claiming (isRunning.trans running) (next.status.trans status)
      (discovery'.trans discovery) (next.isIdClaimTaskScheduled.trans scheduled) next.position

/-- A started unit enters INIT, where the status machine allows it. -/
theorem GoesOnline.starts (goes : unit.GoesOnline busLost) (stopped : unit.isStarted = false)
    (now : ℕ) (sessional : (unit.threadEntry parameters now).1.Sessional) :
    (unit.threadEntry parameters now).1.GoesOnline busLost := by
  have notRunning := goes.sessional.not_running stopped
  have idle : unit.network.Idle := goes.sessional.settled.resolve_left (by simp [notRunning])
  have notInit : unit.network.device.status ≠ .init := fun status => by
    have running := (goes.phase.of_init status).1
    rw [notRunning] at running
    cases running
  obtain ⟨validation, start⟩ := start_of_stopped notRunning
  obtain ⟨started, entered, -, network, queue, -⟩ := unit.threadEntry_eq parameters now
  have nothing : controlIn started.network.session started.workQueue = [] := by
    rw [network, queue, start]
    exact controlIn_of_old fun session work queued =>
      (goes.sessional.queue session work queued).2 notRunning
  have status : started.network.device.status = unit.network.device.status := by
    rw [network, start]
    rfl
  have running : started.network.isRunning = true := by rw [network, start]
  have discovery : started.network.isDiscoveryTaskScheduled = false := by
    rw [network, start]
    exact idle.isDiscoveryTaskScheduled
  have claim : started.network.isIdClaimTaskScheduled = false := by
    rw [network, start]
    exact idle.isIdClaimTaskScheduled
  have reports := reports_transition started.network (reportsStatus_setStatus .init false)
  rw [entered, ← network] at sessional ⊢
  have other : CdmpDeviceStatus.init ≠ started.network.device.status := by
    rw [status]
    exact notInit.symm
  -- Where the status machine does not allow INIT, the unit runs on with the status it has.
  cases valid : started.network.device.status.isValidTransition .init with
  | true =>
    obtain ⟨absurd, -⟩ | ⟨-, validating, moved⟩ :=
      started.network.transition_setStatus other valid
    · cases absurd
    have value : started.network.transition (·.startDiscovery) = _ := moved
    rw [value] at sessional ⊢
    refine goesOnline_runNetwork (value ▸ reports) rfl sessional ?_
    rw [nothing]
    exact .entering running rfl discovery claim
  | false =>
    have value : started.network.transition (·.startDiscovery) = (started.network, []) := by
      simp only [transition, CdmpDevice.startDiscovery, CdmpDevice.setStatus, if_neg other, valid]
      rfl
    rw [value] at sessional ⊢
    refine goesOnline_runNetwork (value ▸ reports) rfl sessional ?_
    rw [nothing]
    refine .settled running other.symm (fun claiming => ?_) discovery claim
    rw [claiming] at valid
    cases valid

/-- The reset leaves INIT. -/
theorem reset_ne_init (device : CdmpDevice) : device.reset.1.status ≠ .init := by
  intro isInit
  rcases device.setStatus_cases .offline false with same | ⟨-, -, moved⟩
  · have fromInit : device.status = .init := by simpa [CdmpDevice.reset, same] using isInit
    simp [CdmpDevice.setStatus, fromInit, CdmpDeviceStatus.isValidTransition] at same
  · simp [CdmpDevice.reset, moved] at isInit

/-- A stopped unit is in no session, and the stop sends nothing. -/
theorem doStop_spec (parameters : CdmpUnitParameters) (sessional : unit.Sessional) (now : ℕ) :
    (unit.doStop parameters now).1.network.Idle ∧
      (unit.doStop parameters now).1.network.device.status ≠ .init ∧
      managementFrames (unit.doStop parameters now).2 = [] := by
  obtain ⟨idle, -, -⟩ := unit.network.idle_reset_stop sessional.settled
  obtain ⟨stopped, stops, -, -, -⟩ := unit.doStop_eq parameters now
  have device : (unit.network.stop.transition (·.reset)).1.device =
      unit.network.stop.device.reset.1 := by
    obtain ⟨-, moved⟩ | ⟨-, ⟨-, moved⟩ | ⟨-, validation, moved⟩⟩ :=
      unit.network.stop.transition_cases reportsStatus_reset
    · rw [moved]
    · rw [moved, stop_device]
    · rw [moved]
  rw [stops, (runNetwork_frame ..).1]
  refine ⟨idle, ?_, (managementFrames_applyEffects ..).trans (sentFrames_transition ..)⟩
  rw [device]
  exact reset_ne_init _

/-- Every step keeps it. -/
theorem GoesOnline.step (parameters : CdmpUnitParameters) (goes : unit.GoesOnline busLost)
    (lost : unit.network.isCanbusValid = false → busLost) (label : UnitLabel) :
    (unit.step parameters label).1.GoesOnline busLost := by
  have sessional := sessional_step parameters goes.sessional label
  -- A step that neither runs control work nor a task: the phase reads nothing that it changes.
  have stays (left : List UnitWork) (stays : unit.Stays left (unit.step parameters label))
      (same : controlIn unit.network.session left = unit.control) :
      (unit.step parameters label).1.GoesOnline busLost := by
    refine ⟨sessional, ?_⟩
    rw [stays.control, same]
    exact goes.phase.neutral stays.neutral
  cases unit.unitTurn parameters label with
  | waits leaves => exact stays _ leaves rfl
  | pops head rest queue other isTurn leaves =>
    exact stays rest leaves (control_of_other queue other)
  | works work rest now queue isControl result =>
    rw [result] at sessional ⊢
    exact goes.works queue isControl sessional
  | conflict work rest now queue other result =>
    have running := goes.sessional.running (queue ▸ List.mem_cons_self)
    obtain ⟨idle, isError, -⟩ | ⟨neutral, -⟩ := conflict_cases running
    · rw [result] at sessional ⊢
      exact goesOnline_of_idle sessional idle (by simp [isError])
    · have reports : unit.network.Reports
          ({ unit.network with discoveryResponseReceived := true }.transition (·.enterError)) :=
        (reports_transition _ (reportsStatus_setStatus .error false)).congr rfl rfl rfl
      refine stays rest ?_ (control_of_other queue (controlIn_singleton other))
      rw [result]
      exact stays_runNetwork neutral reports
  | discovers now scheduled result =>
    rw [result] at sessional ⊢
    exact goes.discovers scheduled sessional
  | claims time isLabel scheduled result =>
    rw [result] at sessional ⊢
    exact goes.claims lost scheduled sessional
  | starts now stopped result =>
    rw [result] at sessional ⊢
    exact goes.starts stopped now sessional
  | stops now isLabel result =>
    obtain ⟨idle, notInit, -⟩ := doStop_spec parameters goes.sessional now
    rw [result] at sessional ⊢
    exact goesOnline_of_stopped sessional idle.isRunning notInit

end CdmpUnit

end RtCore.Cdmp
