import RtCore.Cdmp.Claims
import Mathlib.Data.UInt

/-!
# Units on one bus

Any number of units share a CAN bus that loses nothing: a frame that a unit sends is
received at once by every other unit and waits in its work queue. The units take their
steps in any order and start at any time.

A unit that is ONLINE with an ID objects to a claim on it, and a claimant that was refused
tries another ID. What the protocol misses is a claim on an ID that another unit is
claiming at the same time: neither objects.

## Main definitions

* `Bus`, `BusLabel`, `Bus.step` — the units and their steps
* `Bus.IdsUnique` — no two units are ONLINE with the same ID
* `Bus.ClaimSettled` — the answers to a claim are in, and whoever else claims the ID will be
  refused

## Main results

* `Bus.idsUnique_of_run` — IDs are unique in every state of a run whose claims complete
  settled
-/

namespace RtCore.Cdmp

open RtCore.Foundation
open CdmpManagementMessage (WellSent IsSent)
open CdmpNetworkService (isClaimOn isObjectionTo)

namespace CdmpUnit

variable {parameters : CdmpUnitParameters} {unit : CdmpUnit}

/-- What a unit does with what another unit sends. State frames wait in a queue of their own,
whose handler takes any frame at any time. -/
def deliver (unit : CdmpUnit) : UnitOutput → CdmpUnit
  | .frame .management data =>
    match CdmpManagementMessage.fromCanFrame data with
    | .ok (some message) => unit.receiveManagement message
    | _ => unit
  | .frame .heartbeat data =>
    match CdmpHeartbeatMessage.fromCanFrame data with
    | .ok message => unit.receive (.heartbeat message)
    | .error _ => unit
  | .frame .commandRequest data =>
    match CdmpCommandRequestMessage.fromCanFrame data with
    | .ok command => unit.receive (.commandRequest command)
    | .error _ => unit
  | .frame .commandResponse data =>
    match CdmpCommandResponseMessage.fromCanFrame data with
    | .ok response => unit.receive (.commandResponse response)
    | .error _ => unit
  | .frame .stateChangeRequest _ => unit
  | .frame .stateChangeResponse _ => unit
  | .deviceEvent _ _ => unit

/-! ### Messages that wait -/

/-- The work in the queue that this session will run. -/
def pendingWork (unit : CdmpUnit) : List NetworkWork :=
  unit.workQueue.filterMap fun
    | .network session work => if session = unit.network.session then some work else none
    | _ => none

theorem mem_pendingWork {work : NetworkWork} :
    work ∈ unit.pendingWork ↔ .network unit.network.session work ∈ unit.workQueue := by
  simp only [pendingWork, List.mem_filterMap]
  constructor
  · rintro ⟨queued, member, isWork⟩
    cases queued with
    | network session other =>
      dsimp only at isWork
      split_ifs at isWork with current
      rw [← current, ← Option.some.inj isWork]
      exact member
    | _ => cases isWork
  · exact fun member => ⟨_, member, if_pos rfl⟩

/-- A claim on the ID waits in the queue of the unit. -/
def ClaimWaits (unit : CdmpUnit) (deviceId : UInt8) : Prop :=
  ∃ work, .network unit.network.session work ∈ unit.workQueue ∧ isClaimOn deviceId work = true

/-- An objection to a claim on the ID waits in the queue of the unit. -/
def ObjectionWaits (unit : CdmpUnit) (deviceId : UInt8) : Prop :=
  ∃ work, .network unit.network.session work ∈ unit.workQueue ∧ isObjectionTo deviceId work = true

instance (unit : CdmpUnit) (deviceId : UInt8) : Decidable (unit.ClaimWaits deviceId) :=
  decidable_of_iff (∃ work ∈ unit.pendingWork, isClaimOn deviceId work = true)
    (by simp [ClaimWaits, mem_pendingWork])

instance (unit : CdmpUnit) (deviceId : UInt8) : Decidable (unit.ObjectionWaits deviceId) :=
  decidable_of_iff (∃ work ∈ unit.pendingWork, isObjectionTo deviceId work = true)
    (by simp [ObjectionWaits, mem_pendingWork])

/-- What holds of a unit on the bus between steps. -/
structure OnBus (unit : CdmpUnit) : Prop where
  sessional : unit.Sessional
  sound : unit.network.ClaimSound
  messages : ∀ session message, .network session (.processMessage message) ∈ unit.workQueue →
    message.WellSent

/-- The label is the ID claim task of a unit. -/
def isIdClaimTask : UnitLabel → Bool
  | .idClaimTask _ => true
  | _ => false

/-- The part of the bus in a step: everything sent is well formed, the own claim goes out when it
is made and its objections are not forgotten, and a unit that holds an ID objects to claims. -/
structure BusStep (unit : CdmpUnit) (label : UnitLabel) (result : CdmpUnit × List UnitOutput) :
    Prop where
  onBus : result.1.OnBus
  sent : ∀ data, .frame .management data ∈ result.2 → IsSent data
  claimant : ∀ deviceId, result.1.network.Claims deviceId →
    (∃ claim : CdmpIdClaimRequestMessage, claim.claimingDeviceId = deviceId ∧
      .frame .management claim.toCanFrame ∈ result.2) ∨
    unit.network.Claims deviceId ∧ (unit.network.Objected → result.1.network.Objected) ∧
      (unit.ObjectionWaits deviceId →
        result.1.ObjectionWaits deviceId ∨ result.1.network.Objected)
  owner : ∀ deviceId, result.1.network.OnlineAs deviceId →
    (isIdClaimTask label = true ∧ unit.network.CompletesClaim ∧
      unit.network.claimingDeviceId = deviceId ∧
      (unit.ClaimWaits deviceId → result.1.ClaimWaits deviceId)) ∨
    unit.network.OnlineAs deviceId ∧
      (unit.ClaimWaits deviceId → result.1.ClaimWaits deviceId ∨
        ∃ response : CdmpIdClaimResponseMessage, response.claimingDeviceId = deviceId ∧
          response.result.IsObjection ∧ .frame .management response.toCanFrame ∈ result.2)

/-! ### A step of one unit -/

theorem mem_applyEffects {now : ℕ} {effects : List NetworkEffect} {data : List UInt8} :
    .frame .management data ∈ (applyEffects parameters now unit effects).2 ↔
      .sendFrame data ∈ effects := by
  induction effects generalizing unit with
  | nil => simp [applyEffects]
  | cons effect effects ih =>
    have first : .frame .management data ∈ (unit.applyEffect parameters now effect).2 ↔
        .sendFrame data = effect := by
      cases effect with
      | sendFrame frame => simp [applyEffect]
      | runInSession session work => simp [applyEffect]
      | statusChanged change => simp [applyEffect]
      | deviceEvent event device => simp [applyEffect]
      | heartbeat message =>
        refine iff_of_false ?_ (by simp)
        simp only [applyEffect, onHeartbeat]
        split_ifs
        · intro sent
          obtain ⟨_, same⟩ := mem_sendCommand sent
          cases same
        · simp
    rw [applyEffects, List.mem_append, first, ih, List.mem_cons]

/-- A step of the network service of the unit. -/
theorem busStep_runNetwork (onBus : unit.OnBus) {label : UnitLabel} {rest : List UnitWork}
    {now : ℕ} {result : CdmpNetworkService × List NetworkEffect}
    {cause : CdmpNetworkService.StepCause}
    (stepped : unit.step parameters label =
      { unit with workQueue := rest }.runNetwork parameters now result)
    (reports : unit.network.Reports result) (role : unit.network.RoleStep cause result)
    (fewer : ∀ work ∈ rest, work ∈ unit.workQueue)
    (others : ∀ work, .network unit.network.session work ∈ unit.workQueue →
      .network unit.network.session work ∈ rest ∨ cause = .work work)
    (task : cause = .idClaimTask → isIdClaimTask label = true) :
    unit.BusStep label (unit.step parameters label) := by
  have sessional := sessional_step parameters onBus.sessional label
  obtain ⟨network, -, queue⟩ :=
    runNetwork_frame parameters { unit with workQueue := rest } now result
  rw [stepped] at sessional ⊢
  have sends (data : List UInt8) : .sendFrame data ∈ result.2 ↔ .frame .management data ∈
      ({ unit with workQueue := rest }.runNetwork parameters now result).2 := mem_applyEffects.symm
  -- A unit that claims or holds an ID after the step is in the session it was in before.
  have goesOn (active : ¬ result.1.Idle) : result.1.session = unit.network.session := by
    rcases reports.session with ⟨-, same⟩ | ⟨-, idle, -⟩
    · exact same
    · exact absurd idle active
  have waits (active : ¬ result.1.Idle) {work : NetworkWork}
      (waiting : .network unit.network.session work ∈ unit.workQueue) :
      .network ({ unit with workQueue := rest }.runNetwork parameters now result).1.network.session
          work ∈ ({ unit with workQueue := rest }.runNetwork parameters now result).1.workQueue ∨
        cause = .work work := by
    rw [network, queue, goesOn active]
    exact (others work waiting).imp_left fun kept => List.mem_append_left _ kept
  refine ⟨⟨sessional, by rw [network]; exact role.sound, fun session message queued => ?_⟩,
    fun data sent => role.effects _ ((sends data).mpr sent), fun deviceId claims => ?_,
    fun deviceId online => ?_⟩
  -- A step puts no message into the queue of its own unit.
  · rw [queue] at queued
    rcases List.mem_append.mp queued with kept | fresh
    · exact onBus.messages session message (fewer _ kept)
    · obtain ⟨_, _, member, same⟩ := mem_queuedWork.mp fresh
      obtain ⟨rfl, rfl⟩ := UnitWork.network.inj same
      exact (role.effects _ member).elim
  · rw [network] at claims ⊢
    have active : ¬ result.1.Idle := by
      intro idle
      have scheduled := claims.2.1
      rw [idle.isIdClaimTaskScheduled] at scheduled
      cases scheduled
    rcases role.claimant deviceId claims with ⟨claim, own, member⟩ | ⟨claimed, kept, handled⟩
    · exact Or.inl ⟨claim, own, (sends _).mp member⟩
    · refine Or.inr ⟨claimed, kept, ?_⟩
      rintro ⟨work, waiting, objection⟩
      rcases waits active waiting with still | isCause
      · exact Or.inl ⟨work, still, objection⟩
      · exact Or.inr (handled work isCause objection)
  · rw [network] at online
    have active : ¬ result.1.Idle := fun idle => idle.offline online.1
    rcases role.owner deviceId online with ⟨isTask, completes, own⟩ | ⟨held, answers⟩
    · refine Or.inl ⟨task isTask, completes, own, ?_⟩
      rintro ⟨work, waiting, claim⟩
      rcases waits active waiting with still | isCause
      · exact ⟨work, still, claim⟩
      · rw [isTask] at isCause
        cases isCause
    · refine Or.inr ⟨held, ?_⟩
      rintro ⟨work, waiting, claim⟩
      rcases waits active waiting with still | isCause
      · exact Or.inl ⟨work, still, claim⟩
      · obtain ⟨response, isId, objection, member⟩ := answers work isCause claim
        exact Or.inr ⟨response, isId, objection, (sends _).mp member⟩

/-- A step that leaves the network service, but for the order of its map, and its work alone. -/
theorem busStep_of_same (onBus : unit.OnBus) {label : UnitLabel} (order : List UInt8)
    (network : (unit.step parameters label).1.network = unit.network.iterate order)
    (fewer : ∀ session work, .network session work ∈ (unit.step parameters label).1.workQueue →
      .network session work ∈ unit.workQueue)
    (others : ∀ work, .network unit.network.session work ∈ unit.workQueue →
      .network unit.network.session work ∈ (unit.step parameters label).1.workQueue)
    (silent : ∀ data, .frame .management data ∉ (unit.step parameters label).2) :
    unit.BusStep label (unit.step parameters label) := by
  refine ⟨⟨sessional_step parameters onBus.sessional label, ?_,
    fun session message queued => onBus.messages session message (fewer session _ queued)⟩,
    fun data sent => absurd sent (silent data), fun deviceId claims => ?_,
    fun deviceId online => ?_⟩
  · rw [network]
    exact { onBus.sound with }
  · rw [network] at claims ⊢
    refine Or.inr ⟨claims, id, ?_⟩
    rintro ⟨work, waiting, objection⟩
    exact Or.inl ⟨work, by rw [network]; exact others work waiting, objection⟩
  · rw [network] at online
    refine Or.inr ⟨online, ?_⟩
    rintro ⟨work, waiting, claim⟩
    exact Or.inl ⟨work, by rw [network]; exact others work waiting, claim⟩

/-- A start or a stop, after which the unit neither claims nor holds an ID. -/
theorem busStep_of_inactive (onBus : unit.OnBus) {label : UnitLabel} {started : CdmpUnit} {now : ℕ}
    {result : CdmpNetworkService × List NetworkEffect}
    (stepped : unit.step parameters label = started.runNetwork parameters now result)
    (queue : started.workQueue = unit.workQueue)
    (valid : result.1.isCanbusValid = unit.network.isCanbusValid)
    (claiming : result.1.claimingDeviceId = unit.network.claimingDeviceId)
    (unscheduled : result.1.isIdClaimTaskScheduled = false)
    (offline : result.1.device.status ≠ .online)
    (effects : ∀ effect ∈ result.2, effect.WellSent) :
    unit.BusStep label (unit.step parameters label) := by
  have sessional := sessional_step parameters onBus.sessional label
  obtain ⟨network, -, queues⟩ := runNetwork_frame parameters started now result
  rw [stepped] at sessional ⊢
  refine ⟨⟨sessional, ?_, fun session message member => ?_⟩, fun data sent => ?_,
    fun deviceId claims => ?_, fun deviceId online => ?_⟩
  · rw [network]
    exact ⟨valid.trans onBus.sound.isCanbusValid, claiming ▸ onBus.sound.claimable,
      by simp [unscheduled], by simp [unscheduled]⟩
  · rw [queues, queue] at member
    rcases List.mem_append.mp member with kept | fresh
    · exact onBus.messages session message kept
    -- Only messages of other units are processed, and the effects queue none.
    · obtain ⟨_, _, isEffect, same⟩ := mem_queuedWork.mp fresh
      obtain ⟨rfl, rfl⟩ := UnitWork.network.inj same
      exact (effects _ isEffect).elim
  · exact effects _ (mem_applyEffects.mp sent)
  · rw [network] at claims
    have scheduled := claims.2.1
    rw [unscheduled] at scheduled
    cases scheduled
  · rw [network] at online
    exact absurd online.1 offline

/-- A transition sends nothing, and schedules no claim. -/
theorem transition_spec (service : CdmpNetworkService)
    {move : CdmpDevice → CdmpDevice × Option CdmpStatusChange}
    (reported : CdmpNetworkService.ReportsStatus move) :
    let result := service.transition move
    result.1.device = (move service.device).1 ∧
      result.1.isCanbusValid = service.isCanbusValid ∧
      result.1.claimingDeviceId = service.claimingDeviceId ∧
      (service.isIdClaimTaskScheduled = false → result.1.isIdClaimTaskScheduled = false) ∧
      ∀ effect ∈ result.2, effect.WellSent := by
  intro result
  -- No change, a stop, or the work of the new status.
  obtain ⟨-, moved⟩ | ⟨-, ⟨-, moved⟩ | ⟨-, _, moved⟩⟩ := service.transition_cases reported
  · rw [show result = _ from moved]
    exact ⟨rfl, rfl, rfl, id, by simp⟩
  · rw [show result = _ from moved]
    unfold CdmpNetworkService.stop
    split_ifs
    · exact ⟨rfl, rfl, rfl, fun _ => rfl, by simp [NetworkEffect.WellSent]⟩
    · exact ⟨rfl, rfl, rfl, id, by simp [NetworkEffect.WellSent]⟩
  · rw [show result = _ from moved]
    refine ⟨rfl, rfl, rfl, id, ?_⟩
    cases (move service.device).1.status <;>
      simp [CdmpNetworkService.statusWork, NetworkEffect.WellSent]

theorem busStep_threadEntry (onBus : unit.OnBus) {label : UnitLabel} {now : ℕ}
    (stopped : unit.isStarted = false)
    (stepped : unit.step parameters label = unit.threadEntry parameters now) :
    unit.BusStep label (unit.step parameters label) := by
  have notRunning := onBus.sessional.not_running stopped
  have idle := onBus.sessional.settled.resolve_left (by simp [notRunning])
  obtain ⟨_, start⟩ := CdmpNetworkService.start_of_stopped notRunning
  obtain ⟨started, entered, -, -, queue, -⟩ := unit.threadEntry_eq parameters now
  obtain ⟨moved, valid, claiming, unscheduled, effects⟩ :=
    transition_spec unit.network.start (CdmpNetworkService.reportsStatus_setStatus .init false)
  have offline : (unit.network.start.device.setStatus .init false).1.status ≠ .online := by
    rcases unit.network.start.device.setStatus_cases .init false with still | ⟨-, -, begins⟩
    · rw [still, start]
      exact idle.offline
    · simp [begins]
  rw [← moved] at offline
  refine busStep_of_inactive onBus (stepped.trans entered) queue (valid.trans ?_)
    (claiming.trans ?_) (unscheduled ?_) offline effects
  · rw [start]
    rfl
  · rw [start]
    rfl
  · rw [start]
    exact idle.isIdClaimTaskScheduled

theorem busStep_doStop (onBus : unit.OnBus) {label : UnitLabel} {now : ℕ}
    (stepped : unit.step parameters label = unit.doStop parameters now) :
    unit.BusStep label (unit.step parameters label) := by
  obtain ⟨idle, -, -⟩ := unit.network.idle_reset_stop onBus.sessional.settled
  obtain ⟨-, valid, claiming, -, effects⟩ :=
    transition_spec unit.network.stop CdmpNetworkService.reportsStatus_reset
  have stopped : unit.network.stop.isCanbusValid = unit.network.isCanbusValid ∧
      unit.network.stop.claimingDeviceId = unit.network.claimingDeviceId := by
    unfold CdmpNetworkService.stop
    split_ifs <;> exact ⟨rfl, rfl⟩
  exact busStep_of_inactive onBus stepped rfl (valid.trans stopped.1) (claiming.trans stopped.2)
    idle.isIdClaimTaskScheduled idle.offline effects

/-- Every step that a unit takes on its own. -/
theorem busStep (parameters : CdmpUnitParameters) (onBus : unit.OnBus) {label : UnitLabel}
    (isOwn : isLocal label = true) :
    unit.BusStep label (unit.step parameters label) := by
  cases unit.stepCase parameters label with
  | quiet quiet state =>
    exact busStep_of_same onBus unit.network.iterationOrder quiet.network
      (fun session work => (quiet.workQueue session work).mp)
      (fun work => (quiet.workQueue _ work).mpr) quiet.frames
  | received work external fresh result =>
    rw [external] at isOwn
    cases isOwn
  | dropped session work rest queue old result =>
    refine busStep_of_same onBus unit.network.iterationOrder (by rw [result]; rfl) ?_ ?_
      (by simp [result])
    · rw [result, queue]
      exact fun _ _ => List.mem_cons_of_mem _
    · rw [result, queue]
      intro other member
      rcases List.mem_cons.mp member with same | later
      · exact absurd (UnitWork.network.inj same).1 old
      · exact later
  | work work now rest isLabel queue result =>
    -- Work of this session runs while the session does.
    have running := onBus.sessional.running (queue ▸ List.mem_cons_self)
    have wellSent (message : CdmpManagementMessage) (isMessage : work = .processMessage message) :
        message.WellSent := by
      refine onBus.messages unit.network.session message ?_
      rw [queue, isMessage]
      exact List.mem_cons_self
    refine busStep_runNetwork onBus result (unit.network.reports_runWork work now)
      (CdmpNetworkService.roleStep_runWork onBus.sound running wellSent now) ?_ ?_ (by simp)
    · rw [queue]
      exact fun _ => List.mem_cons_of_mem _
    · rw [queue]
      intro other member
      rcases List.mem_cons.mp member with same | later
      · exact Or.inr (congrArg _ (UnitWork.network.inj same).2.symm)
      · exact Or.inl later
  | heartbeat message now rest queue result =>
    refine busStep_runNetwork onBus result
      (unit.network.reports_updateDeviceFromHeartbeat message now)
      (CdmpNetworkService.roleStep_updateDeviceFromHeartbeat onBus.sound message now) ?_ ?_
      (by simp)
    · rw [queue]
      exact fun _ => List.mem_cons_of_mem _
    · rw [queue]
      intro other member
      exact Or.inl ((List.mem_cons.mp member).resolve_left (by simp))
  | task networkLabel now isTask claims result =>
    refine busStep_runNetwork onBus result (unit.network.reports_task isTask)
      (CdmpNetworkService.roleStep_task onBus.sound onBus.sessional.settled isTask) (fun _ => id)
      (fun _ => Or.inl) ?_
    -- Only the claim task completes a claim.
    intro isClaimTask
    cases networkLabel with
    | idClaimTask time =>
      rw [claims time rfl]
      rfl
    | _ => cases isClaimTask
  | start now stopped result => exact busStep_threadEntry onBus stopped result
  | stop now started result => exact busStep_doStop onBus result
  | canbus isValid external result =>
    rw [external] at isOwn
    cases isOwn
  | iterate order result =>
    refine busStep_of_same onBus order (by rw [result]) ?_ ?_ (by simp [result])
    · rw [result]
      exact fun _ _ => id
    · rw [result]
      exact fun _ => id

/-! ### What a unit receives -/

/-- What comes in waits behind what is there, and a message that units send keeps the unit well. -/
theorem receive_spec (onBus : unit.OnBus) (work : UnitWork)
    (fresh : ∀ session networkWork, work = .network session networkWork →
      session = unit.network.session)
    (wellSent : ∀ session message, work = .network session (.processMessage message) →
      message.WellSent) :
    (unit.receive work).network = unit.network ∧ (unit.receive work).OnBus ∧
      ∀ other ∈ unit.workQueue, other ∈ (unit.receive work).workQueue := by
  have sessional := onBus.sessional.receive fresh
  unfold receive at sessional ⊢
  dsimp only at sessional ⊢
  split_ifs at sessional ⊢ with registered
  · refine ⟨rfl, ⟨sessional, onBus.sound, ?_⟩, fun other => List.mem_append_left _⟩
    · intro session message queued
      rcases List.mem_append.mp queued with before | added
      · exact onBus.messages session message before
      · exact wellSent session message (List.mem_singleton.mp added).symm
  · exact ⟨rfl, onBus, fun _ => id⟩

theorem deliver_spec (onBus : unit.OnBus) (output : UnitOutput)
    (sent : ∀ data, output = .frame .management data → IsSent data) :
    (unit.deliver output).network = unit.network ∧ (unit.deliver output).OnBus ∧
      (∀ work ∈ unit.workQueue, work ∈ (unit.deliver output).workQueue) ∧
      ∀ data message, output = .frame .management data →
        CdmpManagementMessage.fromCanFrame data = .ok (some message) →
        unit.network.isRunning = true →
        .network unit.network.session (.processMessage message) ∈
          (unit.deliver output).workQueue := by
  cases output with
  | deviceEvent event deviceId => exact ⟨rfl, onBus, fun _ => id, by simp⟩
  | frame canId data =>
    cases canId with
    | management =>
      -- Units send only frames that decode, so the callback queues the message itself.
      obtain ⟨message, decoded, wellSent⟩ := sent data rfl
      have delivered : unit.deliver (.frame .management data) = unit.receiveManagement message := by
        simp [deliver, decoded]
      rw [delivered]
      obtain ⟨network, stays, grows⟩ := receive_spec onBus
        (.network unit.network.session (.processMessage message))
        (by simp +contextual) (by simpa using wellSent)
      refine ⟨network, stays, grows, ?_⟩
      rintro other received ⟨⟩ isMessage running
      rw [decoded] at isMessage
      cases isMessage
      simp [receiveManagement, receive, running]
    | heartbeat =>
      simp only [deliver]
      split
      · obtain ⟨network, stays, grows⟩ := receive_spec onBus (.heartbeat _) (by simp) (by simp)
        exact ⟨network, stays, grows, by simp⟩
      · exact ⟨rfl, onBus, fun _ => id, by simp⟩
    | commandRequest =>
      simp only [deliver]
      split
      · obtain ⟨network, stays, grows⟩ := receive_spec onBus (.commandRequest _) (by simp) (by simp)
        exact ⟨network, stays, grows, by simp⟩
      · exact ⟨rfl, onBus, fun _ => id, by simp⟩
    | commandResponse =>
      simp only [deliver]
      split
      · obtain ⟨network, stays, grows⟩ :=
          receive_spec onBus (.commandResponse _) (by simp) (by simp)
        exact ⟨network, stays, grows, by simp⟩
      · exact ⟨rfl, onBus, fun _ => id, by simp⟩
    | stateChangeRequest => exact ⟨rfl, onBus, fun _ => id, by simp⟩
    | stateChangeResponse => exact ⟨rfl, onBus, fun _ => id, by simp⟩

/-- All that another unit sends in a step. -/
theorem deliverAll_spec (onBus : unit.OnBus) {outputs : List UnitOutput}
    (sent : ∀ data, .frame .management data ∈ outputs → IsSent data) :
    (outputs.foldl deliver unit).network = unit.network ∧ (outputs.foldl deliver unit).OnBus ∧
      (∀ work ∈ unit.workQueue, work ∈ (outputs.foldl deliver unit).workQueue) ∧
      ∀ data message, .frame .management data ∈ outputs →
        CdmpManagementMessage.fromCanFrame data = .ok (some message) →
        unit.network.isRunning = true →
        .network unit.network.session (.processMessage message) ∈
          (outputs.foldl deliver unit).workQueue := by
  induction outputs generalizing unit with
  | nil => exact ⟨rfl, onBus, fun _ => id, by simp⟩
  | cons output outputs ih =>
    obtain ⟨network, stays, grows, arrives⟩ := deliver_spec onBus output
      fun data isOutput => sent data (isOutput ▸ List.mem_cons_self)
    obtain ⟨networks, staysAll, growsAll, arrivesAll⟩ := ih stays
      fun data later => sent data (List.mem_cons_of_mem _ later)
    refine ⟨networks.trans network, staysAll, fun work member => growsAll work (grows work member),
      fun data message member decoded running => ?_⟩
    -- What the first output put into the queue is still there after the others.
    rcases List.mem_cons.mp member with first | later
    · exact growsAll _ (arrives data message first.symm decoded running)
    · have arrived := arrivesAll data message later decoded
      rw [network] at arrived
      exact arrived running

end CdmpUnit

/-! ### The bus -/

/-- The units on the bus. -/
abbrev Bus (ι : Type) : Type := ι → CdmpUnit

/-- A step that one of the units takes on its own. -/
structure BusLabel (ι : Type) where
  unit : ι
  label : UnitLabel
  isLocal : CdmpUnit.isLocal label = true

namespace Bus

variable {ι : Type}

/-- The unit takes its step, and every other unit receives what it sends, in order. -/
def step [DecidableEq ι] (parameters : ι → CdmpUnitParameters) (bus : Bus ι)
    (label : BusLabel ι) : Bus ι :=
  let result := (bus label.unit).step (parameters label.unit) label.label
  fun i => if i = label.unit then result.1 else result.2.foldl CdmpUnit.deliver (bus i)

/-- Units that were never started. -/
def initial (parameters : ι → CdmpUnitParameters) (uids : ι → { uid : UInt32 // uid ≠ 0 })
    (features : ι → UInt16) : Bus ι :=
  fun i => .create (parameters i) (uids i) (features i) 0

/-- No two units are ONLINE with the same ID. -/
def IdsUnique (bus : Bus ι) : Prop :=
  ∀ i j deviceId, (bus i).network.OnlineAs deviceId → (bus j).network.OnlineAs deviceId → i = j

/-- The claim on the ID is settled: no claim on it waits at a unit that is ONLINE with it, and no
objection at the claimant; and of the others that claim the ID, each will have its claim refused:
a claim on the ID waits at the claimant, or an objection at the other, or it has one. -/
def ClaimSettled (bus : Bus ι) (claimant : ι) (deviceId : UInt8) : Prop :=
  (∀ other, (bus other).network.OnlineAs deviceId → ¬ (bus other).ClaimWaits deviceId) ∧
    ¬ (bus claimant).ObjectionWaits deviceId ∧
    ∀ other, other ≠ claimant → (bus other).network.Claims deviceId →
      (bus claimant).ClaimWaits deviceId ∨ (bus other).ObjectionWaits deviceId ∨
        (bus other).network.Objected

/-- A step that completes a claim completes one that is settled. -/
def CompletesSettled (bus : Bus ι) (label : BusLabel ι) : Prop :=
  CdmpUnit.isIdClaimTask label.label = true → (bus label.unit).network.CompletesClaim →
    bus.ClaimSettled label.unit (bus label.unit).network.claimingDeviceId

instance [Fintype ι] [DecidableEq ι] (bus : Bus ι) (claimant : ι) (deviceId : UInt8) :
    Decidable (bus.ClaimSettled claimant deviceId) :=
  inferInstanceAs (Decidable (
    (∀ other, (bus other).network.OnlineAs deviceId → ¬ (bus other).ClaimWaits deviceId) ∧
      ¬ (bus claimant).ObjectionWaits deviceId ∧
      ∀ other, other ≠ claimant → (bus other).network.Claims deviceId →
        (bus claimant).ClaimWaits deviceId ∨ (bus other).ObjectionWaits deviceId ∨
          (bus other).network.Objected))

instance [Fintype ι] [DecidableEq ι] (bus : Bus ι) (label : BusLabel ι) :
    Decidable (bus.CompletesSettled label) :=
  inferInstanceAs (Decidable (CdmpUnit.isIdClaimTask label.label = true →
    (bus label.unit).network.CompletesClaim →
      bus.ClaimSettled label.unit (bus label.unit).network.claimingDeviceId))

/-- What carries uniqueness from step to step: whoever claims an ID that is taken will be told. -/
structure Agreed (bus : Bus ι) : Prop where
  onBus : ∀ i, (bus i).OnBus
  unique : bus.IdsUnique
  told : ∀ i j deviceId, i ≠ j → (bus i).network.Claims deviceId →
    (bus j).network.OnlineAs deviceId →
    (bus j).ClaimWaits deviceId ∨ (bus i).ObjectionWaits deviceId ∨ (bus i).network.Objected

variable {parameters : ι → CdmpUnitParameters} {bus : Bus ι}

theorem agreed_initial (parameters : ι → CdmpUnitParameters)
    (uids : ι → { uid : UInt32 // uid ≠ 0 }) (features : ι → UInt16) :
    (initial parameters uids features).Agreed where
  onBus i :=
    { sessional := CdmpUnit.sessional_create (parameters i) (uids i) (features i) 0
      sound := ⟨rfl, CdmpNetworkService.unassigned_ne_broadcast, nofun, nofun⟩
      messages := fun _ _ member => by cases member }
  unique i j deviceId online := by cases online.1
  told i j deviceId _ claims := by cases claims.1

/-- What a unit knows after another one sent the outputs. -/
structure Heard (before : CdmpUnit) (outputs : List UnitOutput) (after : CdmpUnit) : Prop where
  network : after.network = before.network
  onBus : after.OnBus
  claimWaits : ∀ deviceId, before.ClaimWaits deviceId → after.ClaimWaits deviceId
  objectionWaits : ∀ deviceId, before.ObjectionWaits deviceId → after.ObjectionWaits deviceId
  hearsClaim : before.network.isRunning = true → ∀ claim : CdmpIdClaimRequestMessage,
    .frame .management claim.toCanFrame ∈ outputs → after.ClaimWaits claim.claimingDeviceId
  hearsObjection : before.network.isRunning = true → ∀ response : CdmpIdClaimResponseMessage,
    .frame .management response.toCanFrame ∈ outputs → response.result.IsObjection →
    after.ObjectionWaits response.claimingDeviceId

theorem heard {unit : CdmpUnit} (onBus : unit.OnBus) {outputs : List UnitOutput}
    (sent : ∀ data, .frame .management data ∈ outputs → IsSent data) :
    Heard unit outputs (outputs.foldl CdmpUnit.deliver unit) := by
  obtain ⟨network, onBus, grows, arrives⟩ := CdmpUnit.deliverAll_spec onBus sent
  refine ⟨network, onBus, ?_, ?_, ?_, ?_⟩
  · rintro deviceId ⟨work, waiting, claim⟩
    exact ⟨work, by rw [network]; exact grows _ waiting, claim⟩
  · rintro deviceId ⟨work, waiting, objection⟩
    exact ⟨work, by rw [network]; exact grows _ waiting, objection⟩
  · intro running claim sent
    have arrived := arrives _ _ sent (CdmpManagementMessage.fromCanFrame_idClaim claim) running
    exact ⟨_, by rw [network]; exact arrived, by simp [isClaimOn]⟩
  · intro running response sent objection
    have arrived := arrives _ _ sent
      (CdmpManagementMessage.fromCanFrame_idClaimResponse response) running
    exact ⟨_, by rw [network]; exact arrived, by simpa [isObjectionTo] using objection⟩

theorem running_of_onlineAs {unit : CdmpUnit} (onBus : unit.OnBus) {deviceId : UInt8}
    (online : unit.network.OnlineAs deviceId) : unit.network.isRunning = true :=
  onBus.sessional.settled.resolve_right fun idle => idle.offline online.1

theorem running_of_claims {unit : CdmpUnit} (onBus : unit.OnBus) {deviceId : UInt8}
    (claims : unit.network.Claims deviceId) : unit.network.isRunning = true := by
  refine onBus.sessional.settled.resolve_right fun idle => ?_
  have scheduled := claims.2.1
  rw [idle.isIdClaimTaskScheduled] at scheduled
  cases scheduled

/-- A unit that completes a claim settled finds nobody ONLINE with the ID. -/
theorem Agreed.not_onlineAs (agreed : bus.Agreed) {label : BusLabel ι}
    (settled : bus.CompletesSettled label) (task : CdmpUnit.isIdClaimTask label.label = true)
    (completes : (bus label.unit).network.CompletesClaim) {j : ι} (other : j ≠ label.unit) :
    ¬ (bus j).network.OnlineAs (bus label.unit).network.claimingDeviceId := by
  intro online
  obtain ⟨noClaim, noObjection, -⟩ := settled task completes
  have claims := completes.claims (agreed.onBus label.unit).sound
  rcases agreed.told label.unit j _ other.symm claims online with waits | waits | objected
  · exact noClaim j online waits
  · exact noObjection waits
  · exact completes.not_objected objected

section Step

variable {label : BusLabel ι} {result : CdmpUnit × List UnitOutput} {after : Bus ι}

/-- The three parts of a step: the unit that takes it, the others, and the condition. -/
theorem Agreed.of_step (agreed : bus.Agreed) (settled : bus.CompletesSettled label)
    (sender : (bus label.unit).BusStep label.label result) (own : after label.unit = result.1)
    (others : ∀ i, i ≠ label.unit → Heard (bus i) result.2 (after i)) : after.Agreed := by
  have network {i : ι} (other : i ≠ label.unit) : (after i).network = (bus i).network :=
    (others i other).network
  -- A unit that is ONLINE after the step was so before, or completes its claim in it.
  have wasOnline {i : ι} {deviceId : UInt8} (online : (after i).network.OnlineAs deviceId) :
      (bus i).network.OnlineAs deviceId ∨
        i = label.unit ∧ CdmpUnit.isIdClaimTask label.label = true ∧
          (bus label.unit).network.CompletesClaim ∧
          (bus label.unit).network.claimingDeviceId = deviceId := by
    by_cases sends : i = label.unit
    · subst sends
      rw [own] at online
      rcases sender.owner deviceId online with ⟨task, completes, claimed, -⟩ | ⟨held, -⟩
      · exact Or.inr ⟨rfl, task, completes, claimed⟩
      · exact Or.inl held
    · rw [network sends] at online
      exact Or.inl online
  refine ⟨fun i => ?_, fun i j deviceId first second => ?_,
    fun i j deviceId apart claims online => ?_⟩
  · by_cases sends : i = label.unit
    · rw [sends, own]
      exact sender.onBus
    · exact (others i sends).onBus
  · by_contra apart
    rcases wasOnline first with before | ⟨rfl, task, completes, rfl⟩
    · rcases wasOnline second with alsoBefore | ⟨rfl, task, completes, rfl⟩
      · exact apart (agreed.unique i j deviceId before alsoBefore)
      · exact agreed.not_onlineAs settled task completes apart before
    · rcases wasOnline second with before | ⟨rfl, -⟩
      · exact agreed.not_onlineAs settled task completes (Ne.symm apart) before
      · exact apart rfl
  · by_cases claimant : i = label.unit
    · -- The claimant takes the step: its claim goes out, or it was told already.
      subst claimant
      have heard := others j apart.symm
      rw [network apart.symm] at online
      rw [own] at claims ⊢
      rcases sender.claimant deviceId claims with ⟨claim, rfl, sent⟩ | ⟨claimed, kept, handled⟩
      · exact Or.inl (heard.hearsClaim (running_of_onlineAs (agreed.onBus j) online) claim sent)
      · rcases agreed.told _ j deviceId apart claimed online with waits | waits | objected
        · exact Or.inl (heard.claimWaits deviceId waits)
        · exact Or.inr (handled waits)
        · exact Or.inr (Or.inr (kept objected))
    · have heard := others i claimant
      rw [heard.network] at claims ⊢
      by_cases owner : j = label.unit
      · -- The owner takes the step: it goes ONLINE settled, or objects to the claim it handles.
        subst owner
        rw [own] at online ⊢
        rcases sender.owner deviceId online with
          ⟨task, completes, rfl, waiting⟩ | ⟨held, waiting⟩
        · rcases (settled task completes).2.2 i claimant claims with waits | waits | objected
          · exact Or.inl (waiting waits)
          · exact Or.inr (Or.inl (heard.objectionWaits _ waits))
          · exact Or.inr (Or.inr objected)
        · rcases agreed.told i _ deviceId apart claims held with waits | waits | objected
          · rcases waiting waits with still | ⟨response, rfl, objection, sent⟩
            · exact Or.inl still
            · exact Or.inr (Or.inl (heard.hearsObjection
                (running_of_claims (agreed.onBus i) claims) response sent objection))
          · exact Or.inr (Or.inl (heard.objectionWaits deviceId waits))
          · exact Or.inr (Or.inr objected)
      · rw [network owner] at online
        rcases agreed.told i j deviceId apart claims online with waits | waits | objected
        · exact Or.inl ((others j owner).claimWaits deviceId waits)
        · exact Or.inr (Or.inl (heard.objectionWaits deviceId waits))
        · exact Or.inr (Or.inr objected)

end Step

section

variable [DecidableEq ι]

theorem Agreed.step (parameters : ι → CdmpUnitParameters) (agreed : bus.Agreed)
    {label : BusLabel ι} (settled : bus.CompletesSettled label) :
    (Bus.step parameters bus label).Agreed := by
  have sender := CdmpUnit.busStep (parameters label.unit) (agreed.onBus label.unit) label.isLocal
  refine agreed.of_step settled sender (if_pos rfl) fun i other => ?_
  simp only [Bus.step, if_neg other]
  exact heard (agreed.onBus i) sender.sent

end

/-- IDs are unique in every state of a run whose claims complete settled. -/
theorem idsUnique_of_run [DecidableEq ι] (parameters : ι → CdmpUnitParameters)
    (uids : ι → { uid : UInt32 // uid ≠ 0 }) (features : ι → UInt16) (labels : List (BusLabel ι))
    (settled : Along (step parameters) CompletesSettled (initial parameters uids features) labels) :
    Always (step parameters) IdsUnique (initial parameters uids features) labels :=
  (settled.always (agreed_initial parameters uids features)
    fun _ _ agreed => agreed.step parameters).imp fun _ agreed => agreed.unique

/-! ### Two runs -/

/-- The unit finds nobody, claims ID 1 and completes the claim unanswered. -/
def goesOnline (i : ι) : List (BusLabel ι) :=
  [⟨i, .start 0, rfl⟩, ⟨i, .runWork 0, rfl⟩] ++ List.replicate 4 ⟨i, .discoveryTask 0, rfl⟩ ++
    [⟨i, .runWork 1000, rfl⟩] ++ List.replicate 11 ⟨i, .idClaimTask 1000, rfl⟩

/-- Unit 1 starts when unit 0 is ONLINE, which answers its discovery and accepts its claim. -/
def startsLater : List (BusLabel (Fin 3)) :=
  [⟨1, .start 5000, rfl⟩, ⟨1, .runWork 5000, rfl⟩, ⟨1, .discoveryTask 5000, rfl⟩,
    -- The request, and the answer that it queues.
    ⟨0, .runWork 5001, rfl⟩, ⟨0, .runWork 5002, rfl⟩, ⟨1, .runWork 5003, rfl⟩,
    ⟨1, .discoveryTask 5100, rfl⟩, ⟨1, .runWork 5101, rfl⟩, ⟨1, .idClaimTask 5102, rfl⟩,
    ⟨0, .runWork 5103, rfl⟩, ⟨1, .runWork 5104, rfl⟩, ⟨1, .idClaimTask 5202, rfl⟩]

/-- Units 1 and 2 start at the same moment next to unit 0 and claim ID 2 before either has heard
the claim of the other. Every queue is empty before a task runs. -/
def startTogether : List (BusLabel (Fin 3)) :=
  let both (label : UnitLabel) (isLocal : CdmpUnit.isLocal label = true) :
      List (BusLabel (Fin 3)) := [⟨1, label, isLocal⟩, ⟨2, label, isLocal⟩]
  both (.start 5000) rfl ++ both (.runWork 5000) rfl ++ both (.discoveryTask 5000) rfl ++
    -- Unit 0 handles both requests and answers each.
    List.replicate 4 ⟨0, .runWork 5001, rfl⟩ ++
    both (.runWork 5002) rfl ++ both (.runWork 5003) rfl ++ both (.runWork 5004) rfl ++
    both (.runWork 5005) rfl ++ both (.discoveryTask 5100) rfl ++ both (.runWork 5101) rfl ++
    both (.idClaimTask 5102) rfl ++
    -- Unit 0 has the lowest ID and accepts both claims; the answers name the ID only.
    List.replicate 2 ⟨0, .runWork 5103, rfl⟩ ++
    both (.runWork 5104) rfl ++ both (.runWork 5105) rfl ++ both (.runWork 5106) rfl ++
    both (.idClaimTask 5202) rfl

/-- Units without command handlers. -/
def bareParameters : Fin 3 → CdmpUnitParameters := fun _ => ⟨.default, 1000, fun _ => none⟩

/-- Three units of different UIDs. -/
def distinctUids : Fin 3 → { uid : UInt32 // uid ≠ 0 }
  | 0 => ⟨0xA, by decide⟩
  | 1 => ⟨0xB, by decide⟩
  | 2 => ⟨0xC, by decide⟩

theorem idsUnique_startsLater :
    (run (step bareParameters) (initial bareParameters distinctUids 0)
        (goesOnline 0 ++ startsLater) 1).network.OnlineAs 2 ∧
      Always (step bareParameters) IdsUnique (initial bareParameters distinctUids 0)
        (goesOnline 0 ++ startsLater) :=
  ⟨by decide +kernel, idsUnique_of_run _ _ _ _ (by decide +kernel)⟩

/-- Two units end up ONLINE with ID 2. -/
theorem not_idsUnique_startTogether :
    Function.Injective distinctUids ∧
      ¬ Always (step bareParameters) IdsUnique (initial bareParameters distinctUids 0)
        (goesOnline 0 ++ startTogether) := by
  refine ⟨by decide +kernel, fun always => ?_⟩
  have first : (run (step bareParameters) (initial bareParameters distinctUids 0)
      (goesOnline 0 ++ startTogether) 1).network.OnlineAs 2 := by decide +kernel
  have second : (run (step bareParameters) (initial bareParameters distinctUids 0)
      (goesOnline 0 ++ startTogether) 2).network.OnlineAs 2 := by decide +kernel
  exact absurd (always.last 1 2 2 first second) (by decide)

end Bus

end RtCore.Cdmp
