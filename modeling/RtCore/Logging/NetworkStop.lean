import RtCore.Foundation.Run
import RtCore.Logging.RemoteControl

/-!
# A stop from another unit against a run in progress

`ControlSystem` interleaves the entry points of one `RemoteLoggingControl` with the single
steps of the runs of `Process`: the locked snapshot, the read of the device table, each
send, and the locked write-back. Runs of `Process` do not overlap, since they are one task
of one work queue.

A stop handled while a run is between its snapshot and a start it still has to send does
not reach that start. `network_stop_stands` shows that this is the only way a start can
follow a handled stop without a new request for one.

## Main results

* `Snapshot.owesStart_of_mem_plan` — a run sends a start only for a start its snapshot owes
* `ControlSystem.network_stop_stands` — if no stop is handled while the run in progress
  owes a start, no start is sent between a handled stop and the next `RequestStart`
* `ControlSystem.sends_whole_process` — a run that nothing interrupts is the control's `process`
-/

namespace RtCore.Logging

open RtCore.Cdmp RtCore.Foundation

/-! ### What a run can send -/

namespace Snapshot

variable (snapshot : Snapshot) (devices : List CdmpDeviceInfo)

/-- Some target wants a start, and a request, the status or a restart report calls for it
to be sent. -/
def OwesStart : Prop :=
  ∃ slot, (snapshot.targets slot).wanted = .start ∧
    ((snapshot.targets slot).isSendDue = true ∨ snapshot.isStatusReassertDue = true ∨
      snapshot.restarted ≠ ∅)

instance : Decidable snapshot.OwesStart :=
  inferInstanceAs (Decidable (∃ _ : Fin maxTargets, _))

variable {snapshot devices}

/-- The starts among the sends so far are owed by the snapshot. -/
private def StartsOwed (snapshot : Snapshot) (progress : Progress) : Prop :=
  ∀ send ∈ progress.sends, send.isStart = true → snapshot.OwesStart

private theorem StartsOwed.concat {progress : Progress} {send : Send}
    (owed : StartsOwed snapshot progress)
    (last : send.isStart = true → snapshot.OwesStart) :
    ∀ other ∈ progress.sends ++ [send], other.isStart = true → snapshot.OwesStart := by
  intro other member isStart
  rcases List.mem_append.mp member with earlier | added
  · exact owed other earlier isStart
  · rw [List.mem_singleton.mp added] at isStart
    exact last isStart

private theorem StartsOwed.reassert {progress : Progress} (owed : StartsOwed snapshot progress)
    (owes : snapshot.OwesStart) (deviceId : UInt8) :
    StartsOwed snapshot (progress.reassert deviceId) :=
  owed.concat fun _ => owes

private theorem StartsOwed.sendRequest {progress : Progress} (owed : StartsOwed snapshot progress)
    (slot : Slot) : StartsOwed snapshot (snapshot.sendRequest devices progress slot) := by
  rw [Snapshot.sendRequest]
  split_ifs with idle first
  · exact owed
  · refine owed.concat fun isStart => ⟨slot, ?_, Or.inl ?_⟩ <;> simp_all
  · split
    · refine owed.concat fun isStart => ⟨slot, ?_, Or.inl ?_⟩ <;> simp_all
    · exact owed

private theorem StartsOwed.reassertDevice {progress : Progress}
    (owed : StartsOwed snapshot progress) (owes : snapshot.OwesStart) (device : CdmpDeviceInfo) :
    StartsOwed snapshot (snapshot.reassertDevice devices progress device) := by
  rw [Snapshot.reassertDevice]
  split_ifs
  · exact owed
  · exact owed.reassert owes _

private theorem StartsOwed.reassertTarget {progress : Progress}
    (owed : StartsOwed snapshot progress) (due : snapshot.isStatusReassertDue = true)
    (slot : Slot) : StartsOwed snapshot (snapshot.reassertTarget devices progress slot) := by
  rw [Snapshot.reassertTarget]
  split_ifs with wanted
  · exact owed
  · split
    · exact owed
    · split_ifs
      · exact owed
      · exact owed.reassert ⟨slot, not_not.mp wanted, Or.inr (Or.inl due)⟩ _

private theorem StartsOwed.reassertStatus {progress : Progress}
    (owed : StartsOwed snapshot progress) :
    StartsOwed snapshot (snapshot.reassertStatus devices progress) := by
  rw [Snapshot.reassertStatus]
  split_ifs with notDue wanted sent none
  · exact owed
  · exact owed
  · exact owed.concat fun _ => ⟨0, wanted, Or.inr (Or.inl (by simpa using notDue))⟩
  · have owes : snapshot.OwesStart := ⟨0, wanted, Or.inr (Or.inl (by simpa using notDue))⟩
    exact List.foldlRecOn devices _ owed fun _ before device _ => before.reassertDevice owes device
  · exact List.foldlRecOn unitSlots _ owed fun _ before slot _ =>
      before.reassertTarget (by simpa using notDue) slot

private theorem StartsOwed.reassertRestarted {progress : Progress}
    (owed : StartsOwed snapshot progress) (deviceId : UInt8) :
    StartsOwed snapshot (snapshot.reassertRestarted devices progress deviceId) := by
  rw [Snapshot.reassertRestarted]
  split_ifs with skipped forAll
  · exact owed
  · have reported := Finset.ne_empty_of_mem (not_not.mp (not_or.mp skipped).1)
    exact owed.reassert ⟨0, forAll.1, Or.inr (Or.inr reported)⟩ _
  · have reported := Finset.ne_empty_of_mem (not_not.mp (not_or.mp skipped).1)
    split
    · exact owed
    · next slot found =>
      have wanted := List.find?_some found
      simp only [Bool.and_eq_true, decide_eq_true_eq] at wanted
      exact owed.reassert ⟨slot, wanted.1, Or.inr (Or.inr reported)⟩ _

/-- A run sends a start only for a start its snapshot owes. -/
theorem owesStart_of_mem_plan {send : Send} (member : send ∈ (snapshot.plan devices).sends)
    (isStart : send.isStart = true) : snapshot.OwesStart := by
  have requests : StartsOwed snapshot (snapshot.sendRequests devices) :=
    List.foldlRecOn _ _ (by simp [StartsOwed, initialProgress])
      fun _ before slot _ => before.sendRequest slot
  have status : StartsOwed snapshot
      (snapshot.reassertStatus devices (snapshot.sendRequests devices)) :=
    requests.reassertStatus
  have restarts : StartsOwed snapshot (snapshot.plan devices) := by
    rw [plan, reassertRestarts]
    split_ifs
    · exact status
    · exact List.foldlRecOn _ _ status fun _ before deviceId _ => before.reassertRestarted deviceId
  exact restarts send member isStart

end Snapshot

/-! ### The interleaving -/

/-- How far the run of `Process` in progress has come. -/
inductive ProcessPhase
  | idle
  | snapshotTaken (snapshot : Snapshot)
  | sending (snapshot : Snapshot) (isHeld : Slot → Bool) (pending : List Send)

/-- The run in progress still has a start to send. -/
def ProcessPhase.OwesStart : ProcessPhase → Prop
  | .idle => False
  | .snapshotTaken snapshot => snapshot.OwesStart
  | .sending _ _ pending => ∃ send ∈ pending, send.isStart = true

instance : ∀ phase : ProcessPhase, Decidable phase.OwesStart
  | .idle => .isFalse id
  | .snapshotTaken snapshot => inferInstanceAs (Decidable snapshot.OwesStart)
  | .sending _ _ pending => inferInstanceAs (Decidable (∃ send ∈ pending, send.isStart = true))

/-- The control, with how far a run of `Process` is. -/
structure ControlSystem where
  control : RemoteLoggingControl
  phase : ProcessPhase := .idle

/-- One step of any thread. `send` is one call of `SendLoggingCommand`. -/
inductive ControlStep
  | requestStart (targetUid : UInt32)
  | requestStop (targetUid : UInt32)
  | handleLoggingCommand (isStart : Bool)
  | statusUpdated (isActive : Option Bool) (reason : Option LoggingStatusReason)
  | loggingUnitRestarted (deviceId : UInt8)
  | takeSnapshot
  | readDevices (devices : List CdmpDeviceInfo)
  | send
  | writeBack
deriving DecidableEq

namespace ControlSystem

variable (system : ControlSystem)

/-- The state after a step, and what the step sent. A step of `Process` that is not the
next one of the run in progress does nothing. -/
def step : ControlStep → ControlSystem × Option Send
  | .requestStart targetUid =>
    ({ system with control := system.control.requestStart targetUid }, none)
  | .requestStop targetUid =>
    ({ system with control := system.control.requestStop targetUid }, none)
  | .handleLoggingCommand isStart =>
    ({ system with control := (system.control.handleLoggingCommand isStart).1 }, none)
  | .statusUpdated isActive reason =>
    ({ system with control := system.control.onStatusUpdated isActive reason }, none)
  | .loggingUnitRestarted deviceId =>
    ({ system with control := system.control.onLoggingUnitRestarted deviceId }, none)
  | .takeSnapshot =>
    match system.phase with
    | .idle =>
      let (control, snapshot) := system.control.takeSnapshot
      ({ control, phase := .snapshotTaken snapshot }, none)
    | _ => (system, none)
  | .readDevices devices =>
    match system.phase with
    | .snapshotTaken snapshot =>
      let progress := snapshot.plan (system.control.readDevices snapshot devices)
      ({ system with phase := .sending snapshot progress.isHeld progress.sends }, none)
    | _ => (system, none)
  | .send =>
    match system.phase with
    | .sending snapshot isHeld (next :: pending) =>
      ({ system with phase := .sending snapshot isHeld pending }, some next)
    | _ => (system, none)
  | .writeBack =>
    match system.phase with
    | .sending snapshot isHeld [] =>
      ({ control := system.control.writeBack snapshot isHeld, phase := .idle }, none)
    | _ => (system, none)

/-- The state after a step. -/
def next (step : ControlStep) : ControlSystem := (system.step step).1

/-- What a run sends, in order. -/
def sends : ControlSystem → List ControlStep → List Send
  | _, [] => []
  | system, step :: steps => (system.step step).2.toList ++ sends (system.next step) steps

/-- A run of `Process` that nothing interrupts is the whole run the control has. -/
theorem sends_whole_process (control : RemoteLoggingControl) (devices : List CdmpDeviceInfo) :
    let steps := [.takeSnapshot, .readDevices devices] ++
      List.replicate (control.process devices).2.length .send ++ [.writeBack]
    (ControlSystem.mk control .idle).sends steps = (control.process devices).2 ∧
      run next ⟨control, .idle⟩ steps = ⟨(control.process devices).1, .idle⟩ := by
  have sending (pending : List Send) (after : RemoteLoggingControl) (snapshot : Snapshot)
      (isHeld : Slot → Bool) :
      (ControlSystem.mk after (.sending snapshot isHeld pending)).sends
          (List.replicate pending.length .send ++ [.writeBack]) = pending ∧
        run next ⟨after, .sending snapshot isHeld pending⟩
          (List.replicate pending.length .send ++ [.writeBack]) =
            ⟨after.writeBack snapshot isHeld, .idle⟩ := by
    induction pending with
    | nil => exact ⟨rfl, rfl⟩
    | cons first pending ih =>
      refine ⟨?_, ih.2⟩
      exact congrArg (first :: ·) ih.1
  exact sending _ _ _ _

/-- No target wants a start and the run in progress owes none. -/
private def Quiet : Prop :=
  (∀ slot, (system.control.targets slot).wanted ≠ .start) ∧ ¬system.phase.OwesStart

variable {system}

private theorem quiet_requestStop (quiet : system.Quiet) (targetUid : UInt32) :
    (system.next (.requestStop targetUid)).Quiet := by
  refine ⟨fun slot => ?_, quiet.2⟩
  change ((system.control.submit targetUid .stop).targets slot).wanted ≠ .start
  rcases system.control.submit_cases targetUid .stop with
    ⟨same, -⟩ | ⟨-, replaced⟩ | ⟨-, -, taken, -, placed⟩
  · rw [same]
    exact quiet.1 slot
  · simp only [replaced, Function.update_apply]
    split_ifs <;> simp
  · simp only [placed, Function.update_apply]
    split_ifs
    · simp
    · exact quiet.1 slot

/-- A handled stop leaves no start wanted. -/
private theorem quiet_handleLoggingCommand (settled : ¬system.phase.OwesStart) :
    (system.next (.handleLoggingCommand false)).Quiet := by
  refine ⟨fun slot => ?_, settled⟩
  change (RemoteLoggingControl.dropStart (system.control.targets slot)).wanted ≠ .start
  rw [RemoteLoggingControl.dropStart]
  split_ifs with wanted
  · simp
  · exact wanted

private theorem quiet_takeSnapshot (quiet : system.Quiet) : (system.next .takeSnapshot).Quiet := by
  obtain ⟨control, phase⟩ := system
  cases phase with
  | idle =>
    refine ⟨quiet.1, ?_⟩
    rintro ⟨slot, wanted, -⟩
    exact quiet.1 slot wanted
  | snapshotTaken | sending => exact quiet

private theorem quiet_readDevices (quiet : system.Quiet) (devices : List CdmpDeviceInfo) :
    (system.next (.readDevices devices)).Quiet := by
  obtain ⟨control, phase⟩ := system
  cases phase with
  | snapshotTaken snapshot =>
    refine ⟨quiet.1, ?_⟩
    rintro ⟨send, member, isStart⟩
    exact quiet.2 (Snapshot.owesStart_of_mem_plan member isStart)
  | idle | sending => exact quiet

private theorem quiet_send (quiet : system.Quiet) :
    (system.next .send).Quiet ∧ ∀ send ∈ (system.step .send).2, send.isStart = false := by
  obtain ⟨control, phase⟩ := system
  cases phase with
  | sending snapshot isHeld pending =>
    cases pending with
    | nil => exact ⟨quiet, by simp [step]⟩
    | cons first pending =>
      obtain ⟨wanted, settled⟩ := quiet
      simp only [ProcessPhase.OwesStart, List.mem_cons, exists_eq_or_imp, not_or] at settled
      exact ⟨⟨wanted, settled.2⟩, by simpa [step] using settled.1⟩
  | idle | snapshotTaken => exact ⟨quiet, by simp [step]⟩

private theorem quiet_writeBack (quiet : system.Quiet) : (system.next .writeBack).Quiet := by
  obtain ⟨control, phase⟩ := system
  cases phase with
  | sending snapshot isHeld pending =>
    cases pending with
    | nil =>
      refine ⟨fun slot => ?_, id⟩
      change ((control.writeBack snapshot isHeld).targets slot).wanted ≠ .start
      simp only [RemoteLoggingControl.writeBack]
      split_ifs <;> exact quiet.1 slot
    | cons => exact quiet
  | idle | snapshotTaken => exact quiet

/-- Every step but a request to start keeps the control quiet and sends no start. -/
private theorem Quiet.step (quiet : system.Quiet) {step : ControlStep}
    (noRequest : ∀ targetUid, step ≠ .requestStart targetUid) :
    (system.next step).Quiet ∧ ∀ send ∈ (system.step step).2, send.isStart = false := by
  cases step with
  | requestStart targetUid => exact absurd rfl (noRequest targetUid)
  | requestStop targetUid =>
    exact ⟨quiet_requestStop quiet targetUid, by simp [ControlSystem.step]⟩
  | handleLoggingCommand isStart =>
    refine ⟨?_, by simp [ControlSystem.step]⟩
    cases isStart with
    | true => exact quiet
    | false => exact quiet_handleLoggingCommand quiet.2
  | statusUpdated isActive reason =>
    refine ⟨?_, by simp [ControlSystem.step]⟩
    cases isActive <;> exact quiet
  | loggingUnitRestarted deviceId => exact ⟨quiet, by simp [ControlSystem.step]⟩
  | takeSnapshot =>
    refine ⟨quiet_takeSnapshot quiet, ?_⟩
    rw [ControlSystem.step]
    split <;> simp
  | readDevices devices =>
    refine ⟨quiet_readDevices quiet devices, ?_⟩
    rw [ControlSystem.step]
    split <;> simp
  | send => exact quiet_send quiet
  | writeBack =>
    refine ⟨quiet_writeBack quiet, ?_⟩
    rw [ControlSystem.step]
    split <;> simp

/-- A quiet control sends no start until one is requested. -/
private theorem Quiet.sends {steps : List ControlStep}
    (noRequest : ∀ targetUid, .requestStart targetUid ∉ steps) (quiet : system.Quiet) :
    ∀ send ∈ system.sends steps, send.isStart = false := by
  induction steps generalizing system with
  | nil => simp [ControlSystem.sends]
  | cons first steps ih =>
    have stepped := quiet.step fun targetUid same =>
      noRequest targetUid (same ▸ List.mem_cons_self)
    intro send member
    rcases List.mem_append.mp member with now | later
    · exact stepped.2 send (Option.mem_toList.mp now)
    · exact ih (fun targetUid inside => noRequest targetUid (List.mem_cons_of_mem _ inside))
        stepped.1 send later

variable (system)

/-- After each handled stop of the run, no start is sent before the next `RequestStart`. -/
def StopsStand (steps : List ControlStep) : Prop :=
  ∀ before between after,
    steps = before ++ .handleLoggingCommand false :: (between ++ after) →
    (∀ targetUid, .requestStart targetUid ∉ between) →
    ∀ send ∈ (run next system (before ++ [.handleLoggingCommand false])).sends between,
      send.isStart = false

/-- No stop is handled while the run of `Process` in progress owes a start. -/
def StopMeetsNoStart (step : ControlStep) : Prop :=
  step = .handleLoggingCommand false → ¬system.phase.OwesStart

instance (step : ControlStep) : Decidable (system.StopMeetsNoStart step) :=
  inferInstanceAs (Decidable (_ → _))

variable {system}

/-- A run in which no stop is handled while the run of `Process` in progress, past its
snapshot, still owes a start: every handled stop stands until the next `RequestStart`. -/
theorem network_stop_stands {steps : List ControlStep}
    (along : Along next StopMeetsNoStart system steps) : system.StopsStand steps := by
  intro before between after split noRequest
  subst split
  rw [along_append, along_cons] at along
  have settled : ¬(run next system before).phase.OwesStart := along.2.1 rfl
  have quiet : (run next system (before ++ [.handleLoggingCommand false])).Quiet := by
    rw [run_append]
    exact quiet_handleLoggingCommand settled
  exact quiet.sends noRequest

/-- A start for all units is sent, and dropped by a stop before the logging unit restarts. -/
theorem network_stop_stands_restart :
    (ControlSystem.mk {} .idle).StopsStand
      [.requestStart allUnits, .takeSnapshot, .readDevices [], .send, .writeBack,
        .handleLoggingCommand false, .loggingUnitRestarted 5, .takeSnapshot, .readDevices [],
        .send, .writeBack] :=
  network_stop_stands (by decide +kernel)

/-- The stop is handled between the read of the device table and the broadcast: the start
goes out after it. -/
theorem not_network_stop_stands :
    ¬(ControlSystem.mk {} .idle).StopsStand
      [.requestStart allUnits, .takeSnapshot, .readDevices [], .handleLoggingCommand false,
        .send] := by
  intro stands
  have refuted := stands [.requestStart allUnits, .takeSnapshot, .readDevices []] [.send] [] rfl
    (by simp) ⟨true, broadcastId, false⟩ (by decide +kernel)
  exact absurd refuted (by decide)

end ControlSystem

end RtCore.Logging
