import RtCore.Cdmp.Sessions

/-!
# The claim of a unit

What a step of the network service means for the claim of its unit on a device ID, and for
the claims that other units make on the ID it holds: a claim is sent when it is made, an
objection to it is not forgotten, and a unit that is ONLINE with an ID objects to every
claim on it.

## Main definitions

* `Claims`, `OnlineAs`, `Objected` — a claim on an ID, the hold on one, a refused claim
* `CompletesClaim` — the claim task is about to go ONLINE
* `WellSent` — the messages that units send
* `RoleStep` — a step as seen from the claims

## Main results

* `roleStep_runWork`, `roleStep_task`, `roleStep_updateDeviceFromHeartbeat` — the steps of the
  service as seen from the claims
-/

namespace RtCore.Cdmp

open RtCore.Foundation

/-- A result that refuses the claim. -/
def CdmpIdClaimResult.IsObjection (result : CdmpIdClaimResult) : Prop :=
  result = .reject ∨ result = .versionIncompatible

instance (result : CdmpIdClaimResult) : Decidable result.IsObjection :=
  inferInstanceAs (Decidable (result = .reject ∨ result = .versionIncompatible))

namespace CdmpManagementMessage

/-- A claim names an ID, and an answer repeats it with one of the known results. -/
def WellSent : CdmpManagementMessage → Prop
  | .discoveryRequest _ => True
  | .discoveryResponse _ => True
  | .idClaim claim => claim.claimingDeviceId ≠ deviceIdUnassigned
  | .idClaimResponse response =>
    response.claimingDeviceId ≠ deviceIdUnassigned ∧
      (response.result = .accept ∨ response.result.IsObjection)

theorem fromCanFrame_discoveryRequest (message : CdmpDiscoveryRequestMessage) :
    fromCanFrame message.toCanFrame = .ok (some (.discoveryRequest message)) := by
  have type : readByte message.toCanFrame 0 = .ok 0x03 := rfl
  have known : CdmpManagementMessageType.ofUnderlying? 0x03 = some .discoveryRequest := by decide
  simp [fromCanFrame, type, known]

theorem fromCanFrame_discoveryResponse (message : CdmpDiscoveryResponseMessage) :
    fromCanFrame message.toCanFrame = .ok (some (.discoveryResponse message)) := by
  have type : readByte message.toCanFrame 0 = .ok 0x04 := rfl
  have known : CdmpManagementMessageType.ofUnderlying? 0x04 = some .discoveryResponse := by decide
  simp [fromCanFrame, type, known]

theorem fromCanFrame_idClaim (message : CdmpIdClaimRequestMessage) :
    fromCanFrame message.toCanFrame = .ok (some (.idClaim message)) := by
  have type : readByte message.toCanFrame 0 = .ok 0x01 := rfl
  have known : CdmpManagementMessageType.ofUnderlying? 0x01 = some .idClaim := by decide
  simp [fromCanFrame, type, known]

/-- The UID of the claimant is not in the frame. -/
theorem fromCanFrame_idClaimResponse (message : CdmpIdClaimResponseMessage) :
    fromCanFrame message.toCanFrame =
      .ok (some (.idClaimResponse { message with claimingDeviceUid := 0 })) := by
  have type : readByte message.toCanFrame 0 = .ok 0x02 := rfl
  have known : CdmpManagementMessageType.ofUnderlying? 0x02 = some .idClaimResponse := by decide
  simp [fromCanFrame, type, known]

/-- A frame that others decode to a message of this kind. -/
def IsSent (frame : List UInt8) : Prop := ∃ message, fromCanFrame frame = .ok (some message) ∧
  message.WellSent

end CdmpManagementMessage

open CdmpManagementMessage (WellSent IsSent)

/-- A frame for the bus is one that others decode; received messages come from the bus only. -/
def NetworkEffect.WellSent : NetworkEffect → Prop
  | .sendFrame frame => IsSent frame
  | .runInSession _ (.processMessage _) => False
  | _ => True

namespace CdmpNetworkService

variable {service before after : CdmpNetworkService}

/-- The unit claims the ID, and its claim task will run. -/
def Claims (service : CdmpNetworkService) (deviceId : UInt8) : Prop :=
  service.device.status = .claiming ∧ service.isIdClaimTaskScheduled = true ∧
    service.claimingDeviceId = deviceId ∧ deviceId ≠ deviceIdUnassigned

/-- The unit is ONLINE with the ID. -/
def OnlineAs (service : CdmpNetworkService) (deviceId : UInt8) : Prop :=
  service.device.status = .online ∧ service.device.deviceId = deviceId

/-- The claim of the unit was refused. -/
def Objected (service : CdmpNetworkService) : Prop :=
  ∃ result, service.idClaimResult = some result ∧ result.IsObjection

/-- The next run of the claim task completes the claim: it was accepted, or every attempt went by
without an answer. -/
def CompletesClaim (service : CdmpNetworkService) : Prop :=
  service.isIdClaimTaskScheduled = true ∧ service.device.status = .claiming ∧
    service.isCanbusValid = true ∧ service.idClaimResult ≠ some .versionIncompatible ∧
    (service.idClaimResult = some .accept ∨
      service.claimingDeviceId ≠ deviceIdUnassigned ∧ service.idClaimResult ≠ some .reject ∧
        service.idClaimAttempt = CdmpConstants.idClaimMaxAttempts)

section Decidable

variable (service : CdmpNetworkService) (deviceId : UInt8)

instance : Decidable (service.Claims deviceId) :=
  inferInstanceAs (Decidable (service.device.status = .claiming ∧
    service.isIdClaimTaskScheduled = true ∧ service.claimingDeviceId = deviceId ∧
    deviceId ≠ deviceIdUnassigned))

instance : Decidable (service.OnlineAs deviceId) :=
  inferInstanceAs (Decidable (service.device.status = .online ∧
    service.device.deviceId = deviceId))

instance : Decidable service.Objected :=
  decidable_of_iff (service.idClaimResult.any (decide ·.IsObjection) = true)
    (by simp [Objected, Option.any_eq_true])

instance : Decidable service.CompletesClaim :=
  inferInstanceAs (Decidable (service.isIdClaimTaskScheduled = true ∧
    service.device.status = .claiming ∧ service.isCanbusValid = true ∧
    service.idClaimResult ≠ some .versionIncompatible ∧
    (service.idClaimResult = some .accept ∨
      service.claimingDeviceId ≠ deviceIdUnassigned ∧ service.idClaimResult ≠ some .reject ∧
        service.idClaimAttempt = CdmpConstants.idClaimMaxAttempts)))

end Decidable

/-- What holds of the claim between steps: an answer was to a claim, a claim that was given up
with the status names no ID, and none is on the broadcast ID, after which the search for a free ID
would start over. -/
structure ClaimSound (service : CdmpNetworkService) : Prop where
  isCanbusValid : service.isCanbusValid = true
  claimable : service.claimingDeviceId ≠ deviceIdBroadcast
  accepted : service.isIdClaimTaskScheduled = true → service.idClaimResult = some .accept →
    service.claimingDeviceId ≠ deviceIdUnassigned
  givenUp : service.device.status ≠ .claiming → service.isIdClaimTaskScheduled = true →
    service.claimingDeviceId = deviceIdUnassigned

theorem unassigned_ne_broadcast : deviceIdUnassigned ≠ deviceIdBroadcast := by decide

theorem CompletesClaim.claims (completes : service.CompletesClaim) (sound : service.ClaimSound) :
    service.Claims service.claimingDeviceId := by
  -- Accepted, or unanswered to the end.
  obtain ⟨scheduled, status, -, -, accepted | ⟨assigned, -⟩⟩ := completes
  · exact ⟨status, scheduled, rfl, sound.accepted scheduled accepted⟩
  · exact ⟨status, scheduled, rfl, assigned⟩

theorem CompletesClaim.not_objected (completes : service.CompletesClaim) : ¬ service.Objected := by
  rintro ⟨result, isResult, objection⟩
  obtain ⟨-, -, -, compatible, answered⟩ := completes
  rcases objection with rfl | rfl
  · rcases answered with accepted | ⟨-, notRejected, -⟩
    · rw [isResult] at accepted
      exact absurd (Option.some.inj accepted) (by decide)
    · exact notRejected isResult
  · exact compatible isResult

/-! ### Steps as seen from the claims -/

/-- A piece of work that is a claim on the ID. -/
def isClaimOn (deviceId : UInt8) : NetworkWork → Bool
  | .processMessage (.idClaim claim) => claim.claimingDeviceId = deviceId
  | _ => false

/-- A piece of work that is an objection to a claim on the ID. -/
def isObjectionTo (deviceId : UInt8) : NetworkWork → Bool
  | .processMessage (.idClaimResponse response) =>
    response.claimingDeviceId = deviceId ∧ response.result.IsObjection
  | _ => false

/-- What made the service take a step. -/
inductive StepCause
  | work (work : NetworkWork)
  | idClaimTask
  | other

/-- The step handles neither a claim nor an answer to one. -/
def StepCause.isNeutral : StepCause → Bool
  | .work (.processMessage (.idClaim _)) => false
  | .work (.processMessage (.idClaimResponse _)) => false
  | _ => true

theorem StepCause.not_isClaimOn {work : NetworkWork} {deviceId : UInt8}
    (neutral : (StepCause.work work).isNeutral = true) : ¬ isClaimOn deviceId work = true := by
  unfold isClaimOn
  split
  · cases neutral
  · exact Bool.false_ne_true

theorem StepCause.not_isObjectionTo {work : NetworkWork} {deviceId : UInt8}
    (neutral : (StepCause.work work).isNeutral = true) :
    ¬ isObjectionTo deviceId work = true := by
  unfold isObjectionTo
  split
  · cases neutral
  · exact Bool.false_ne_true

/-- What a step means for the own claim and for the claims of others. -/
structure RoleStep (service : CdmpNetworkService) (cause : StepCause)
    (result : CdmpNetworkService × List NetworkEffect) : Prop where
  sound : result.1.ClaimSound
  effects : ∀ effect ∈ result.2, effect.WellSent
  claimant : ∀ deviceId, result.1.Claims deviceId →
    (∃ claim : CdmpIdClaimRequestMessage, claim.claimingDeviceId = deviceId ∧
      .sendFrame claim.toCanFrame ∈ result.2) ∨
    service.Claims deviceId ∧ (service.Objected → result.1.Objected) ∧
      (∀ work, cause = .work work → isObjectionTo deviceId work = true → result.1.Objected)
  owner : ∀ deviceId, result.1.OnlineAs deviceId →
    (cause = .idClaimTask ∧ service.CompletesClaim ∧ service.claimingDeviceId = deviceId) ∨
    service.OnlineAs deviceId ∧
      (∀ work, cause = .work work → isClaimOn deviceId work = true →
        ∃ response : CdmpIdClaimResponseMessage, response.claimingDeviceId = deviceId ∧
          response.result.IsObjection ∧ .sendFrame response.toCanFrame ∈ result.2)

/-- The fields that claims are about. -/
structure SameRole (before after : CdmpNetworkService) : Prop where
  status : after.device.status = before.device.status
  deviceId : after.device.deviceId = before.device.deviceId
  isCanbusValid : after.isCanbusValid = before.isCanbusValid
  isIdClaimTaskScheduled : after.isIdClaimTaskScheduled = before.isIdClaimTaskScheduled
  claimingDeviceId : after.claimingDeviceId = before.claimingDeviceId
  idClaimResult : after.idClaimResult = before.idClaimResult
  idClaimAttempt : after.idClaimAttempt = before.idClaimAttempt

theorem TableUpdate.sameRole (update : TableUpdate before after) : SameRole before after := by
  obtain ⟨_, _, _, _, _, rfl⟩ := update
  exact ⟨rfl, rfl, rfl, rfl, rfl, rfl, rfl⟩

theorem SameRole.sound (same : SameRole before after) (sound : before.ClaimSound) :
    after.ClaimSound := by
  obtain ⟨valid, claimable, accepted, givenUp⟩ := sound
  obtain ⟨status, -, canbus, scheduled, claiming, result, -⟩ := same
  refine ⟨canbus.trans valid, claiming ▸ claimable, ?_, ?_⟩
  · rwa [scheduled, result, claiming]
  · rwa [status, scheduled, claiming]

theorem SameRole.claims_iff (same : SameRole before after) {deviceId : UInt8} :
    after.Claims deviceId ↔ before.Claims deviceId := by
  rw [Claims, Claims, same.status, same.isIdClaimTaskScheduled, same.claimingDeviceId]

theorem SameRole.onlineAs_iff (same : SameRole before after) {deviceId : UInt8} :
    after.OnlineAs deviceId ↔ before.OnlineAs deviceId := by
  rw [OnlineAs, OnlineAs, same.status, same.deviceId]

theorem SameRole.objected_iff (same : SameRole before after) :
    after.Objected ↔ before.Objected := by
  rw [Objected, Objected, same.idClaimResult]

theorem SameRole.completesClaim_iff (same : SameRole before after) :
    after.CompletesClaim ↔ before.CompletesClaim := by
  rw [CompletesClaim, CompletesClaim, same.isIdClaimTaskScheduled, same.status,
    same.isCanbusValid, same.idClaimResult, same.claimingDeviceId, same.idClaimAttempt]

theorem RoleStep.congr {cause : StepCause}
    {result : CdmpNetworkService × List NetworkEffect} (step : RoleStep after cause result)
    (same : SameRole before after) : RoleStep before cause result where
  sound := step.sound
  effects := step.effects
  claimant deviceId claims := by
    have claimant := step.claimant deviceId claims
    rwa [same.claims_iff, same.objected_iff] at claimant
  owner deviceId online := by
    have owner := step.owner deviceId online
    rwa [same.completesClaim_iff, same.onlineAs_iff, same.claimingDeviceId] at owner

/-- A step that handles neither a claim nor an answer and leaves the role alone. -/
theorem roleStep_of_sameRole {result : CdmpNetworkService × List NetworkEffect}
    {cause : StepCause} (neutral : cause.isNeutral = true) (sound : service.ClaimSound)
    (same : SameRole service result.1) (effects : ∀ effect ∈ result.2, effect.WellSent) :
    RoleStep service cause result where
  sound := same.sound sound
  effects := effects
  claimant deviceId claims := by
    refine Or.inr ⟨same.claims_iff.mp claims, same.objected_iff.mpr, ?_⟩
    rintro work rfl objection
    exact absurd objection (StepCause.not_isObjectionTo neutral)
  owner deviceId online := by
    refine Or.inr ⟨same.onlineAs_iff.mp online, ?_⟩
    rintro work rfl claim
    exact absurd claim (StepCause.not_isClaimOn neutral)

/-- A unit whose service just stopped neither claims nor holds an ID. -/
theorem roleStep_of_stopped {result : CdmpNetworkService × List NetworkEffect}
    {cause : StepCause} (valid : result.1.isCanbusValid = true)
    (claimable : result.1.claimingDeviceId ≠ deviceIdBroadcast)
    (unscheduled : result.1.isIdClaimTaskScheduled = false)
    (offline : result.1.device.status ≠ .online)
    (effects : ∀ effect ∈ result.2, effect.WellSent) :
    RoleStep service cause result where
  sound := ⟨valid, claimable, by simp [unscheduled], by simp [unscheduled]⟩
  effects := effects
  claimant deviceId claims := by
    rw [Claims, unscheduled] at claims
    cases claims.2.1
  owner deviceId online := absurd online.1 offline

/-- A transition that stops the service or begins a claim. -/
theorem roleStep_transition {cause : StepCause} (neutral : cause.isNeutral = true)
    (sound : service.ClaimSound) (running : service.isRunning = true)
    {move : CdmpDevice → CdmpDevice × Option CdmpStatusChange} (reported : ReportsStatus move)
    (goes : (move service.device).1.status ≠ service.device.status →
      stopsService (move service.device).1.status = true ∨
        (move service.device).1.status = .claiming) :
    RoleStep service cause (service.transition move) := by
  obtain ⟨same, moved⟩ | ⟨other, ⟨stops, moved⟩ | ⟨goesOn, validation, moved⟩⟩ :=
    service.transition_cases reported
  · rw [moved]
    exact roleStep_of_sameRole neutral sound
      ⟨same, (reported service.device).1, rfl, rfl, rfl, rfl, rfl⟩ (by simp)
  -- The service stops, which takes the claim task off the schedule.
  · rw [moved]
    have offline := ne_online_of_stopsService stops
    rw [stop, if_pos running]
    exact roleStep_of_stopped sound.isCanbusValid sound.claimable rfl offline
      (by simp [NetworkEffect.WellSent])
  · -- The claim begins: what an earlier claim left behind names no ID.
    have claiming : (move service.device).1.status = .claiming :=
      (goes other).resolve_left (by simp [goesOn])
    have notClaiming : service.device.status ≠ .claiming := by
      rw [← claiming]
      exact other.symm
    rw [moved, claiming]
    refine ⟨⟨sound.isCanbusValid, sound.claimable, sound.accepted, ?_⟩,
      by simp [statusWork, NetworkEffect.WellSent], ?_, ?_⟩
    · exact fun notYet => absurd claiming notYet
    · rintro deviceId ⟨-, scheduled, own, assigned⟩
      exact absurd (own.symm.trans (sound.givenUp notClaiming scheduled)) assigned
    · rintro deviceId ⟨online, -⟩
      rw [claiming] at online
      cases online

/-! ### The functions of the service -/

/-- What is sent over a valid bus is well sent. -/
theorem wellSent_sendFrame {frame : List UInt8} (sent : IsSent frame) :
    ∀ effect ∈ service.sendFrame frame, effect.WellSent := by
  intro effect member
  unfold sendFrame at member
  split_ifs at member
  · rw [List.mem_singleton.mp member]
    exact sent
  · cases member

theorem isSent_discoveryRequest (message : CdmpDiscoveryRequestMessage) :
    IsSent message.toCanFrame :=
  ⟨_, CdmpManagementMessage.fromCanFrame_discoveryRequest message, trivial⟩

theorem isSent_discoveryResponse (message : CdmpDiscoveryResponseMessage) :
    IsSent message.toCanFrame :=
  ⟨_, CdmpManagementMessage.fromCanFrame_discoveryResponse message, trivial⟩

/-- Device events go to the services of the unit. -/
theorem wellSent_of_events {effects : List NetworkEffect}
    (events : ∀ effect ∈ effects, ∃ event device, effect = .deviceEvent event device) :
    ∀ effect ∈ effects, effect.WellSent := by
  intro effect member
  obtain ⟨event, device, rfl⟩ := events effect member
  trivial

theorem roleStep_updateDeviceFromHeartbeat (sound : service.ClaimSound)
    (heartbeat : CdmpHeartbeatMessage) (now : ℕ) :
    RoleStep service .other (service.updateDeviceFromHeartbeat heartbeat now) := by
  obtain ⟨update, ⟨-, requests | ⟨effects, -⟩, -⟩ | ⟨-, -, -, -, _, -, effects, -⟩⟩ :=
    service.updateDeviceFromHeartbeat_cases heartbeat now
  · refine roleStep_of_sameRole rfl sound update.sameRole fun effect member => ?_
    obtain ⟨request, rfl⟩ := requests effect member
    exact isSent_discoveryRequest request
  all_goals
    refine roleStep_of_sameRole rfl sound update.sameRole ?_
    rw [effects]
    simp [NetworkEffect.WellSent]

theorem roleStep_processPeriodicValidation (sound : service.ClaimSound) (now : ℕ) :
    RoleStep service .other (service.processPeriodicValidation now) := by
  unfold processPeriodicValidation
  split
  · obtain ⟨update, told⟩ := service.removeDevices_spec _
    exact roleStep_of_sameRole rfl sound (update.trans ⟨_, _, _, _, _, rfl⟩).sameRole
      (wellSent_of_events told)
  · exact roleStep_of_sameRole rfl sound ⟨rfl, rfl, rfl, rfl, rfl, rfl, rfl⟩ (by simp)

theorem roleStep_runDiscoveryAttempt (sound : service.ClaimSound)
    (running : service.isRunning = true) :
    RoleStep service .other service.runDiscoveryAttempt := by
  -- A transition from the service as the task leaves it.
  have claims (done : CdmpNetworkService) (same : SameRole service done)
      (runs : done.isRunning = service.isRunning) :
      RoleStep service .other (done.transition (·.claimId)) := by
    refine (roleStep_transition rfl (same.sound sound) (runs.trans running)
      (reportsStatus_setStatus .claiming false) ?_).congr same
    intro moved
    rcases done.device.setStatus_cases .claiming false with still | ⟨-, -, claimed⟩
    · exact absurd (by simp [still]) moved
    · exact Or.inr (by simp [claimed])
  unfold runDiscoveryAttempt
  dsimp only
  split
  · exact roleStep_of_sameRole rfl sound ⟨rfl, rfl, rfl, rfl, rfl, rfl, rfl⟩ (by simp)
  split
  · exact claims _ ⟨rfl, rfl, rfl, rfl, rfl, rfl, rfl⟩ rfl
  have waits : SameRole service service.waitForLowerUid ∧
      service.waitForLowerUid.isRunning = service.isRunning := by
    unfold waitForLowerUid
    split <;> exact ⟨⟨rfl, rfl, rfl, rfl, rfl, rfl, rfl⟩, rfl⟩
  obtain ⟨same, runs⟩ := waits
  split
  · exact claims _ { same with } runs
  · exact roleStep_of_sameRole rfl sound { same with }
      (wellSent_sendFrame (isSent_discoveryRequest _))

/-- Going ONLINE: the ID is the claimed one, and nothing is sent. -/
theorem completeIdClaim_spec (service : CdmpNetworkService) :
    let result := service.completeIdClaim
    result.1.device.deviceId = service.claimingDeviceId ∧
      result.1.claimingDeviceId = deviceIdUnassigned ∧
      result.1.isIdClaimTaskScheduled = service.isIdClaimTaskScheduled ∧
      result.1.isCanbusValid = service.isCanbusValid ∧
      ∀ effect ∈ result.2, effect.WellSent := by
  intro result
  let named : CdmpNetworkService :=
    { service with
      device := { service.device with deviceId := service.claimingDeviceId }
      claimingDeviceId := deviceIdUnassigned }.updateNetworkDevices
  have reported := reportsStatus_setStatus .online false
  have own : (named.device.goOnline false).1.deviceId = service.claimingDeviceId :=
    (reported named.device).1
  -- The transition is refused, or it reaches ONLINE.
  obtain ⟨-, moved⟩ | ⟨other, moves⟩ := named.transition_cases reported
  · have isResult : result = _ := moved
    rw [isResult]
    exact ⟨own, rfl, rfl, rfl, by simp⟩
  · have online : (named.device.setStatus .online false).1.status = .online := by
      rcases named.device.setStatus_cases .online false with still | ⟨-, -, goes⟩
      · exact absurd (by rw [still]) other
      · rw [goes]
    rw [online] at moves
    obtain ⟨stops, -⟩ | ⟨-, validation, moved⟩ := moves
    · cases stops
    · have isResult : result = _ := moved
      rw [isResult]
      exact ⟨own, rfl, rfl, rfl, by simp [statusWork, NetworkEffect.WellSent]⟩

/-- The claim task completes the claim. -/
theorem roleStep_completeIdClaim (sound : service.ClaimSound) (completes : service.CompletesClaim) :
    RoleStep service .idClaimTask
      (completeIdClaim { service with isIdClaimTaskScheduled := false }) := by
  obtain ⟨own, unassigned, unscheduled, valid, effects⟩ :=
    completeIdClaim_spec { service with isIdClaimTaskScheduled := false }
  refine ⟨⟨valid.trans sound.isCanbusValid, ?_, ?_, ?_⟩, effects, ?_, ?_⟩
  · rw [unassigned]
    exact unassigned_ne_broadcast
  · simp [unscheduled]
  · simp [unscheduled]
  · rintro deviceId ⟨-, scheduled, -⟩
    rw [unscheduled] at scheduled
    cases scheduled
  · rintro deviceId ⟨-, isId⟩
    exact Or.inl ⟨rfl, completes, own.symm.trans isId⟩

/-- The search finds no ID but the ones it goes through. -/
theorem mem_of_firstAvailableId {now : ℕ} {candidates : List UInt8} {deviceId : UInt8}
    (found : (service.firstAvailableId now candidates).2 = some deviceId) :
    deviceId ∈ candidates := by
  induction candidates generalizing service with
  | nil => cases found
  | cons id ids ih =>
    unfold firstAvailableId at found
    split_ifs at found
    · exact List.mem_cons_of_mem _ (ih found)
    · split at found
      · exact List.mem_cons.mpr (Or.inl (Option.some.inj found).symm)
      · exact List.mem_cons_of_mem _ (ih found)

/-- The IDs above the last one, where that is not the broadcast ID. -/
theorem getLowestAvailableId_spec {last : UInt8} (claimable : last ≠ deviceIdBroadcast) {now : ℕ}
    {deviceId : UInt8} (found : (service.getLowestAvailableId last now).2 = some deviceId) :
    last < deviceId ∧ deviceId < deviceIdBroadcast := by
  obtain ⟨id, member, rfl⟩ := List.mem_map.mp (mem_of_firstAvailableId found)
  -- The next ID does not wrap around to the unassigned one.
  have next : (last + 1).toNat = last.toNat + 1 := by
    have small : last.toNat < 255 := by
      refine lt_of_le_of_ne (Nat.le_of_lt_succ last.toNat_lt) fun isLast => claimable ?_
      exact UInt8.toNat_inj.mp isLast
    rw [UInt8.toNat_add]
    exact Nat.mod_eq_of_lt (Nat.succ_lt_succ small)
  have above : last.toNat < id ∧ id < deviceIdBroadcast.toNat := by
    obtain ⟨position, isPosition⟩ := List.mem_iff_getElem?.mp member
    rw [List.getElem?_drop, next] at isPosition
    obtain ⟨bound, same⟩ := List.getElem?_eq_some_iff.mp isPosition
    rw [List.length_range] at bound
    rw [List.getElem_range] at same
    omega
  have small : id < UInt8.size := lt_trans above.2 (by decide)
  rw [UInt8.lt_iff_toNat_lt, UInt8.lt_iff_toNat_lt, UInt8.toNat_ofNat_of_lt' small]
  exact above

/-- The claim task makes or repeats a claim. -/
theorem roleStep_sendIdClaim (valid : after.isCanbusValid = true)
    (claiming : after.device.status = .claiming) (unanswered : after.idClaimResult ≠ some .accept)
    (assigned : after.claimingDeviceId ≠ deviceIdUnassigned)
    (claimable : after.claimingDeviceId ≠ deviceIdBroadcast) :
    RoleStep service .idClaimTask (after, after.sendIdClaim) where
  sound := ⟨valid, claimable, fun _ accepted => absurd accepted unanswered,
    fun notClaiming => absurd claiming notClaiming⟩
  effects effect member := by
    rw [List.mem_singleton.mp member]
    exact ⟨_, CdmpManagementMessage.fromCanFrame_idClaim _, assigned⟩
  claimant deviceId claims := Or.inl ⟨_, claims.2.2.1, List.mem_singleton.mpr rfl⟩
  owner deviceId online := by
    have status := claiming.symm.trans online.1
    cases status

theorem roleStep_runIdClaimAttempt (sound : service.ClaimSound)
    (scheduled : service.isIdClaimTaskScheduled = true) (now : ℕ) :
    RoleStep service .idClaimTask (service.runIdClaimAttempt now) := by
  -- A claim that is given up leaves a unit that neither claims nor went ONLINE.
  have givesUp (later : CdmpNetworkService) (same : SameRole service later) (work : NetworkWork)
      (isMessage : ∀ message, work ≠ .processMessage message)
      (claiming : service.device.status = .claiming) :
      RoleStep service .idClaimTask
        ({ later with isIdClaimTaskScheduled := false, claimingDeviceId := deviceIdUnassigned },
          [later.runInSession work]) := by
    refine roleStep_of_stopped (same.isCanbusValid.trans sound.isCanbusValid)
      unassigned_ne_broadcast rfl ?_ ?_
    · simp [same.status, claiming]
    · intro effect member
      rw [List.mem_singleton.mp member]
      cases work with
      | processMessage message => exact isMessage message rfl
      | _ => trivial
  unfold runIdClaimAttempt
  dsimp only
  split
  · rename_i stale
    have notClaiming : service.device.status ≠ .claiming := by
      simpa [sound.isCanbusValid] using stale
    refine ⟨⟨sound.isCanbusValid, unassigned_ne_broadcast, by simp, by simp⟩, by simp, ?_, ?_⟩
    · rintro deviceId ⟨-, isScheduled, -⟩
      cases isScheduled
    · exact fun deviceId online => Or.inr ⟨online, by simp⟩
  rename_i current
  have claiming : service.device.status = .claiming := by
    simpa [sound.isCanbusValid] using current
  split
  · exact givesUp service ⟨rfl, rfl, rfl, rfl, rfl, rfl, rfl⟩ _ (by simp) claiming
  rename_i compatible
  split
  · rename_i accepted
    exact roleStep_completeIdClaim sound
      ⟨scheduled, claiming, sound.isCanbusValid, compatible, Or.inl accepted⟩
  rename_i notAccepted
  split
  · have update := (tableUpdate_firstAvailableId service now
      (((List.range deviceIdBroadcast.toNat).drop (service.claimingDeviceId + 1).toNat).map
        UInt8.ofNat)).1
    split
    · rename_i later found
      rw [show service.firstAvailableId now _ = (later, none) from found] at update
      exact givesUp later update.sameRole _ (by simp) claiming
    · rename_i later deviceId found
      obtain ⟨above, below⟩ :=
        getLowestAvailableId_spec sound.claimable (congrArg Prod.snd found)
      have assigned : deviceId ≠ deviceIdUnassigned := by
        rintro rfl
        exact UInt8.not_lt_zero above
      rw [show service.firstAvailableId now _ = (later, some deviceId) from found] at update
      exact roleStep_sendIdClaim (update.sameRole.isCanbusValid.trans sound.isCanbusValid)
        (update.sameRole.status.trans claiming) (by simp) assigned (UInt8.ne_of_lt below)
  rename_i pending
  rw [not_or] at pending
  split
  · rename_i last
    exact roleStep_completeIdClaim sound
      ⟨scheduled, claiming, sound.isCanbusValid, compatible, Or.inr ⟨pending.1, pending.2, last⟩⟩
  · exact roleStep_sendIdClaim sound.isCanbusValid claiming notAccepted pending.1 sound.claimable

/-- The unit that holds the ID objects to a claim on it. -/
theorem answerIdClaim_owner {claim : CdmpIdClaimRequestMessage}
    (own : service.device.deviceId = claim.claimingDeviceId) :
    ∃ result, service.answerIdClaim claim = some result ∧ result.IsObjection := by
  unfold answerIdClaim
  split_ifs
  · exact ⟨_, rfl, Or.inr rfl⟩
  · exact ⟨_, rfl, Or.inl rfl⟩

theorem answerIdClaim_known {claim : CdmpIdClaimRequestMessage} {result : CdmpIdClaimResult}
    (answered : service.answerIdClaim claim = some result) :
    result = .accept ∨ result.IsObjection := by
  unfold answerIdClaim at answered
  split_ifs at answered
  · exact Or.inr (Or.inr (Option.some.inj answered).symm)
  · exact Or.inr (Or.inl (Option.some.inj answered).symm)
  · exact Or.inl (Option.some.inj answered).symm

theorem roleStep_processIdClaimRequest (sound : service.ClaimSound)
    {claim : CdmpIdClaimRequestMessage} (wellSent : WellSent (.idClaim claim)) (now : ℕ) :
    RoleStep service (.work (.processMessage (.idClaim claim)))
      (service.processIdClaimRequest claim now) := by
  obtain ⟨update, events⟩ := service.recordIdClaim_spec claim now
  have same := update.sameRole
  have claimant (deviceId : UInt8) (claims : (service.recordIdClaim claim now).1.Claims deviceId) :
      service.Claims deviceId ∧ (service.Objected → (service.recordIdClaim claim now).1.Objected) ∧
        ∀ work, StepCause.work (.processMessage (.idClaim claim)) = .work work →
          isObjectionTo deviceId work = true → (service.recordIdClaim claim now).1.Objected := by
    refine ⟨same.claims_iff.mp claims, same.objected_iff.mpr, ?_⟩
    rintro work ⟨⟩ ⟨⟩
  unfold processIdClaimRequest
  dsimp only
  split
  · rename_i offline
    refine ⟨same.sound sound, wellSent_of_events events,
      fun deviceId claims => Or.inr (claimant deviceId claims), fun deviceId online => ?_⟩
    simp only [same.isCanbusValid, sound.isCanbusValid, CdmpDevice.isOnline, Bool.not_true,
      Bool.false_or, Bool.not_eq_true', decide_eq_false_iff_not] at offline
    exact absurd online.1 offline
  split
  -- A unit that holds the ID would have answered.
  · rename_i unanswered
    refine ⟨same.sound sound, wellSent_of_events events,
      fun deviceId claims => Or.inr (claimant deviceId claims),
      fun deviceId online => Or.inr ⟨same.onlineAs_iff.mp online, ?_⟩⟩
    rintro work ⟨⟩ isClaim
    have own : claim.claimingDeviceId = deviceId := of_decide_eq_true isClaim
    obtain ⟨_, answered, -⟩ := answerIdClaim_owner (online.2.trans own.symm)
    rw [answered] at unanswered
    cases unanswered
  · rename_i result answered
    refine ⟨same.sound sound, fun effect member => ?_,
      fun deviceId claims => Or.inr (claimant deviceId claims),
      fun deviceId online => Or.inr ⟨same.onlineAs_iff.mp online, ?_⟩⟩
    · rcases List.mem_append.mp member with event | response
      · exact wellSent_of_events events effect event
      · rw [List.mem_singleton.mp response]
        exact ⟨_, CdmpManagementMessage.fromCanFrame_idClaimResponse _, wellSent,
          answerIdClaim_known answered⟩
    · rintro work ⟨⟩ isClaim
      have own : claim.claimingDeviceId = deviceId := of_decide_eq_true isClaim
      obtain ⟨answer, isAnswer, objection⟩ := answerIdClaim_owner (online.2.trans own.symm)
      rw [answered] at isAnswer
      obtain rfl := Option.some.inj isAnswer
      exact ⟨_, own, objection, List.mem_append_right _ (List.mem_singleton.mpr rfl)⟩

theorem roleStep_processIdClaimResponse (sound : service.ClaimSound)
    {response : CdmpIdClaimResponseMessage} (wellSent : WellSent (.idClaimResponse response)) :
    RoleStep service (.work (.processMessage (.idClaimResponse response)))
      (service.processIdClaimResponse response, []) := by
  -- The answer leaves everything but the result alone.
  have kept (result : Option CdmpIdClaimResult)
      (accepted : service.isIdClaimTaskScheduled = true → result = some .accept →
        service.claimingDeviceId ≠ deviceIdUnassigned)
      (objected : ∀ deviceId, service.Claims deviceId → response.claimingDeviceId = deviceId →
        response.result.IsObjection → Objected { service with idClaimResult := result })
      (keeps : service.Objected → Objected { service with idClaimResult := result }) :
      RoleStep service (.work (.processMessage (.idClaimResponse response)))
        ({ service with idClaimResult := result }, []) := by
    refine ⟨⟨sound.isCanbusValid, sound.claimable, accepted, sound.givenUp⟩, by simp, ?_, ?_⟩
    · refine fun deviceId claims => Or.inr ⟨claims, keeps, ?_⟩
      rintro work ⟨⟩ isObjection
      obtain ⟨own, objection⟩ := of_decide_eq_true isObjection
      exact objected deviceId claims own objection
    · refine fun deviceId online => Or.inr ⟨online, ?_⟩
      rintro work ⟨⟩ ⟨⟩
  unfold processIdClaimResponse
  split_ifs with notClaiming other decides
  · exact kept service.idClaimResult sound.accepted
      (fun deviceId claims => absurd claims.1 notClaiming) id
  · exact kept service.idClaimResult sound.accepted
      (fun deviceId claims own => absurd (own.trans claims.2.2.1.symm) other) id
  -- An objection is recorded, and replaced by another objection only.
  · rw [not_not] at other
    refine kept (some response.result) (fun _ _ => other ▸ wellSent.1)
      (fun _ _ _ objection => ⟨_, rfl, objection⟩) ?_
    rintro ⟨earlier, isEarlier, -⟩
    have notAccepted : response.result ≠ .accept := by
      rcases decides with notAccepted | unanswered
      · exact notAccepted
      · rw [isEarlier] at unanswered
        cases unanswered
    exact ⟨_, rfl, wellSent.2.resolve_left notAccepted⟩
  · refine kept service.idClaimResult sound.accepted (fun _ _ _ objection => ?_) id
    have accepted := not_not.mp (not_or.mp decides).1
    rw [accepted] at objection
    exact absurd objection (by unfold CdmpIdClaimResult.IsObjection; decide)

/-- A message of another kind is neither a claim nor an objection. -/
theorem roleStep_processMessage (sound : service.ClaimSound) (running : service.isRunning = true)
    {message : CdmpManagementMessage} (wellSent : message.WellSent) (now : ℕ) :
    RoleStep service (.work (.processMessage message)) (service.processMessage message now) := by
  cases message with
  | discoveryRequest request =>
    exact roleStep_of_sameRole rfl sound ⟨rfl, rfl, rfl, rfl, rfl, rfl, rfl⟩
      (by simp [processMessage, processDiscoveryRequest, runInSession, NetworkEffect.WellSent])
  | discoveryResponse response =>
    have heard : SameRole service { service with discoveryResponseReceived := true } :=
      ⟨rfl, rfl, rfl, rfl, rfl, rfl, rfl⟩
    simp only [processMessage, processDiscoveryResponse]
    split
    · refine (roleStep_transition rfl (heard.sound sound) running
        (reportsStatus_setStatus .error false) ?_).congr heard
      intro moved
      rcases service.device.setStatus_cases .error false with still | ⟨-, -, failed⟩
      · exact absurd (by simp [still]) moved
      · exact Or.inl (by simp [failed, stopsService])
    · obtain ⟨update, events⟩ := updateDeviceFromDiscovery_spec
        { service with discoveryResponseReceived := true } response now
      exact (roleStep_of_sameRole rfl (heard.sound sound) update.sameRole
        (wellSent_of_events events)).congr heard
  | idClaim claim => exact roleStep_processIdClaimRequest sound wellSent now
  | idClaimResponse response => exact roleStep_processIdClaimResponse sound wellSent

/-- Every piece of work of the queue. -/
theorem roleStep_runWork (sound : service.ClaimSound) (running : service.isRunning = true)
    {work : NetworkWork} (wellSent : ∀ message, work = .processMessage message → message.WellSent)
    (now : ℕ) : RoleStep service (.work work) (service.runWork work now) := by
  -- A transition into a status that stops the service.
  have fails (status : CdmpDeviceStatus) (stops : stopsService status = true)
      (neutral : (StepCause.work work).isNeutral = true) :
      RoleStep service (.work work) (service.transition (·.setStatus status false)) := by
    refine roleStep_transition neutral sound running (reportsStatus_setStatus status false) ?_
    intro moved
    rcases service.device.setStatus_cases status false with still | ⟨-, -, failed⟩
    · exact absurd (by simp [still]) moved
    · exact Or.inl (by simpa [failed] using stops)
  cases work with
  | processMessage message => exact roleStep_processMessage sound running (wellSent message rfl) now
  | startInitialization =>
    exact roleStep_of_sameRole rfl sound ⟨rfl, rfl, rfl, rfl, rfl, rfl, rfl⟩ (by simp [runWork])
  | startIdClaim =>
    refine ⟨⟨sound.isCanbusValid, unassigned_ne_broadcast, ?_, fun _ _ => rfl⟩,
      by simp [runWork], ?_, ?_⟩
    · simp [runWork, startIdClaim]
    · rintro deviceId ⟨-, -, own, assigned⟩
      exact absurd own.symm assigned
    · refine fun deviceId online => Or.inr ⟨online, ?_⟩
      rintro work ⟨⟩ ⟨⟩
  | sendDiscoveryResponse =>
    refine roleStep_of_sameRole rfl sound ⟨rfl, rfl, rfl, rfl, rfl, rfl, rfl⟩ ?_
    simp only [runWork, sendDiscoveryResponse]
    split_ifs
    · exact wellSent_sendFrame (isSent_discoveryResponse _)
    · simp
  | enterVersionMismatch => exact fails .versionMismatch rfl rfl
  | enterError => exact fails .error rfl rfl

/-- The cause of a task. -/
def causeOf : NetworkLabel → StepCause
  | .idClaimTask _ => .idClaimTask
  | _ => .other

/-- Every task, where it is scheduled. -/
theorem roleStep_task (sound : service.ClaimSound) (settled : service.Settled)
    {label : NetworkLabel} (task : isTask label = true) :
    RoleStep service (causeOf label) (service.step label) := by
  have still {cause : StepCause} (neutral : cause.isNeutral = true) :
      RoleStep service cause (service, []) :=
    roleStep_of_sameRole neutral sound ⟨rfl, rfl, rfl, rfl, rfl, rfl, rfl⟩ (by simp)
  cases label with
  | discoveryTask =>
    simp only [step]
    split
    · rename_i scheduled
      refine roleStep_runDiscoveryAttempt sound (settled.resolve_right fun idle => ?_)
      rw [idle.isDiscoveryTaskScheduled] at scheduled
      cases scheduled
    · exact still rfl
  | idClaimTask now =>
    simp only [step]
    split
    · rename_i scheduled
      exact roleStep_runIdClaimAttempt sound scheduled now
    · exact still rfl
  | validationTask now => exact roleStep_processPeriodicValidation sound now
  | _ => cases task

end CdmpNetworkService

end RtCore.Cdmp
