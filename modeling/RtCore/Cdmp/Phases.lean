import RtCore.Cdmp.Claims

/-!
# The phases of a unit that goes online

Entering INIT queues the start of the discovery, which schedules the discovery task; entering
CLAIMING queues the start of the claim, which schedules the claim task. A claim task that gives up
queues what ends the session. So in every state of a session that is not over, exactly one of these
is waiting, and the status says which.

## Main definitions

* `NetworkWork.isControl` — the work by which a unit goes online
* `CdmpNetworkService.Phase` — the status, the tasks that are scheduled and the control work that
  waits
* `CdmpNetworkService.Neutral` — a step that has nothing to do with them
* `CdmpNetworkService.Chosen` — an ID that may be claimed next

## Main results

* `runDiscoveryAttempt_spec`, `runIdClaimAttempt_spec` — what the two tasks do
* `runWork_neutral`, `task_neutral` — the other steps of the service
-/

namespace RtCore.Cdmp

open RtCore.Foundation

/-- The work by which a unit goes online. -/
def NetworkWork.isControl : NetworkWork → Bool
  | .processMessage _ => false
  | .startInitialization => true
  | .startIdClaim => true
  | .sendDiscoveryResponse => false
  | .enterVersionMismatch => true
  | .enterError => true

/-- The control work that the effects put into the queue. -/
def controlWork (effects : List NetworkEffect) : List NetworkWork :=
  effects.filterMap fun
    | .runInSession _ work => if work.isControl then some work else none
    | _ => none

/-- The frames on the management CAN ID. -/
def sentFrames (effects : List NetworkEffect) : List (List UInt8) :=
  effects.filterMap fun
    | .sendFrame frame => some frame
    | _ => none

@[simp] theorem controlWork_append (first second : List NetworkEffect) :
    controlWork (first ++ second) = controlWork first ++ controlWork second :=
  List.filterMap_append

@[simp] theorem sentFrames_append (first second : List NetworkEffect) :
    sentFrames (first ++ second) = sentFrames first ++ sentFrames second :=
  List.filterMap_append

/-- An effect about the peers is no work. -/
theorem controlWork_of_peers {effects : List NetworkEffect}
    (peers : ∀ effect ∈ effects, effect.isAboutPeers) : controlWork effects = [] := by
  refine List.filterMap_eq_nil_iff.mpr fun effect member => ?_
  have about := peers effect member
  cases effect <;> first | rfl | cases about

theorem effects_of_events {effects : List NetworkEffect}
    (events : ∀ effect ∈ effects, ∃ event info, effect = .deviceEvent event info) :
    controlWork effects = [] ∧ sentFrames effects = [] := by
  constructor
  all_goals
    refine List.filterMap_eq_nil_iff.mpr fun effect member => ?_
    obtain ⟨event, info, rfl⟩ := events effect member
    rfl

namespace CdmpNetworkService

variable {service before after : CdmpNetworkService}

/-! ### Transitions of the own status -/

/-- A transition that the status machine has. -/
theorem transition_setStatus (service : CdmpNetworkService) {status : CdmpDeviceStatus}
    (other : status ≠ service.device.status)
    (valid : service.device.status.isValidTransition status = true) :
    let moved : CdmpNetworkService := { service with device := { service.device with status } }
    let change : CdmpStatusChange := ⟨service.device.status, status⟩
    (stopsService status = true ∧ service.transition (·.setStatus status false) =
      (moved.stop, [.statusChanged change])) ∨
    stopsService status = false ∧ ∃ isValidationTaskRunning,
      service.transition (·.setStatus status false) =
        ({ moved with isValidationTaskRunning },
          .statusChanged change :: (statusWork status).map (.runInSession service.session)) := by
  have moves : service.device.setStatus status false =
      ({ service.device with status }, some ⟨service.device.status, status⟩) := by
    rw [CdmpDevice.setStatus, if_neg other, valid]
    rfl
  obtain ⟨same, -⟩ | ⟨-, moved⟩ :=
    service.transition_cases (reportsStatus_setStatus status false)
  · rw [moves] at same
    exact absurd same other
  · simpa only [moves] using moved

/-- No transition sends a frame. -/
theorem sentFrames_transition (service : CdmpNetworkService)
    (move : CdmpDevice → CdmpDevice × Option CdmpStatusChange) :
    sentFrames (service.transition move).2 = [] := by
  unfold transition
  split
  · rfl
  · dsimp only
    unfold onDeviceStatusChanged
    split <;> rfl

/-- Entering a status that stops the service ends the session, where the status machine allows
it. -/
theorem stops_or_same (service : CdmpNetworkService) (running : service.isRunning = true)
    {status : CdmpDeviceStatus} (stops : stopsService status = true) :
    let result := service.transition (·.setStatus status false)
    (result.1.Idle ∧ result.1.device.status = status ∧ sentFrames result.2 = [] ∧
        controlWork result.2 = []) ∨
      result = (service, []) ∧ (status = service.device.status ∨
        service.device.status.isValidTransition status = false) := by
  intro result
  by_cases same : status = service.device.status
  · refine Or.inr ⟨?_, Or.inl same⟩
    simp only [result, transition, CdmpDevice.setStatus, if_pos same]
  cases valid : service.device.status.isValidTransition status with
  | false =>
    refine Or.inr ⟨?_, Or.inr rfl⟩
    simp only [result, transition, CdmpDevice.setStatus, if_neg same, valid]
    rfl
  | true =>
    obtain ⟨-, moved⟩ | ⟨goesOn, -⟩ := service.transition_setStatus same valid
    · refine Or.inl ?_
      rw [show result = _ from moved]
      refine ⟨(idle_stop ?_ ?_).1, by rw [stop_device], rfl, rfl⟩
      · exact running
      · exact ne_online_of_stopsService stops
    · rw [stops] at goesOn
      cases goesOn

/-! ### Steps that have nothing to do with going online -/

/-- The step leaves the status, the tasks and the claim alone, queues no control work and sends
nothing unless the unit is ONLINE. -/
structure Neutral (service : CdmpNetworkService)
    (result : CdmpNetworkService × List NetworkEffect) : Prop where
  isRunning : result.1.isRunning = service.isRunning
  session : result.1.session = service.session
  status : result.1.device.status = service.device.status
  isDiscoveryTaskScheduled :
    result.1.isDiscoveryTaskScheduled = service.isDiscoveryTaskScheduled
  isIdClaimTaskScheduled : result.1.isIdClaimTaskScheduled = service.isIdClaimTaskScheduled
  discoveryAttempt : result.1.discoveryAttempt = service.discoveryAttempt
  discoveryBackoffResets : result.1.discoveryBackoffResets = service.discoveryBackoffResets
  claimingDeviceId : result.1.claimingDeviceId = service.claimingDeviceId
  idClaimAttempt : result.1.idClaimAttempt = service.idClaimAttempt
  work : controlWork result.2 = []
  frames : service.device.status ≠ .online → sentFrames result.2 = []

theorem neutral_of_tableUpdate {result : CdmpNetworkService × List NetworkEffect}
    (update : TableUpdate service result.1) (work : controlWork result.2 = [])
    (frames : service.device.status ≠ .online → sentFrames result.2 = []) :
    Neutral service result := by
  obtain ⟨_, _, _, _, _, same⟩ := update
  constructor <;> first | exact work | exact frames | rw [same]; rfl

theorem neutral_of_events {result : CdmpNetworkService × List NetworkEffect}
    (spec : TableUpdate service result.1 ∧
      ∀ effect ∈ result.2, ∃ event info, effect = .deviceEvent event info) :
    Neutral service result :=
  neutral_of_tableUpdate spec.1 (effects_of_events spec.2).1 fun _ => (effects_of_events spec.2).2

theorem neutral_updateDeviceFromHeartbeat (service : CdmpNetworkService)
    (heartbeat : CdmpHeartbeatMessage) (now : ℕ) :
    Neutral service (service.updateDeviceFromHeartbeat heartbeat now) := by
  have silent : service.device.status ≠ .online →
      sentFrames (service.updateDeviceFromHeartbeat heartbeat now).2 = [] := by
    intro offline
    unfold updateDeviceFromHeartbeat
    dsimp only
    split
    · rfl
    split
    · split
      · rfl
      · rw [sentFrames_append, (effects_of_events ?_).2]
        · rfl
        · intro effect member
          split_ifs at member
          · simp only [joinedEvent, Option.mem_toList, Option.map_eq_some_iff] at member
            obtain ⟨device, -, rfl⟩ := member
            exact ⟨_, _, rfl⟩
          · cases member
    · split
      -- An unknown device is asked for by an ONLINE unit only.
      · rw [requestRediscovery, if_pos]
        · rfl
        · simpa [CdmpDevice.isOnline, findPendingIdClaim, expirePendingIdClaims] using
            Or.inl offline
      · split <;> rfl
  obtain ⟨update, ⟨-, frames | ⟨effects, -⟩, -⟩ | ⟨-, -, -, -, _, -, effects, -⟩⟩ :=
    service.updateDeviceFromHeartbeat_cases heartbeat now
  · refine neutral_of_tableUpdate update (controlWork_of_peers fun effect member => ?_) silent
    obtain ⟨frame, rfl⟩ := frames effect member
    rfl
  all_goals
    refine neutral_of_tableUpdate update ?_ silent
    rw [effects]
    rfl

theorem neutral_processPeriodicValidation (service : CdmpNetworkService) (now : ℕ) :
    Neutral service (service.processPeriodicValidation now) := by
  unfold processPeriodicValidation
  split
  · obtain ⟨update, told⟩ := service.removeDevices_spec _
    exact neutral_of_events ⟨update.trans ⟨_, _, _, _, _, rfl⟩, told⟩
  · constructor <;> intros <;> rfl

/-- An answer with the own UID ends the session; the other messages are neutral. -/
theorem processMessage_neutral (service : CdmpNetworkService) (message : CdmpManagementMessage)
    (now : ℕ) :
    Neutral service (service.processMessage message now) ∨
      service.processMessage message now =
        { service with discoveryResponseReceived := true }.transition (·.enterError) := by
  cases message with
  | discoveryRequest request =>
    refine Or.inl ?_
    constructor <;> intros <;> rfl
  | discoveryResponse response =>
    by_cases own : response.uid = service.device.uid
    · exact Or.inr (if_pos own)
    · have neutral := neutral_of_events (updateDeviceFromDiscovery_spec
        { service with discoveryResponseReceived := true } response now)
      have value : service.processMessage (.discoveryResponse response) now = _ := if_neg own
      rw [value]
      exact Or.inl { neutral with }
  | idClaim claim =>
    obtain ⟨update, told⟩ := service.recordIdClaim_spec claim now
    have recorded := neutral_of_events ⟨update, told⟩
    refine Or.inl ?_
    simp only [processMessage, processIdClaimRequest]
    split
    · exact recorded
    rename_i online
    split
    · exact recorded
    -- Only a unit that is ONLINE answers a claim.
    · refine { recorded with work := ?_, frames := fun offline => absurd ?_ offline }
      · rw [controlWork_append, recorded.work]
        rfl
      · have isOnline : (service.recordIdClaim claim now).1.device.status = .online := by
          simp only [CdmpDevice.isOnline, Bool.or_eq_true, Bool.not_eq_true', not_or,
            Bool.not_eq_false, decide_eq_true_eq] at online
          exact online.2
        exact recorded.status ▸ isOnline
  | idClaimResponse response =>
    refine Or.inl ?_
    simp only [processMessage, processIdClaimResponse]
    split_ifs
    all_goals constructor <;> intros <;> rfl

theorem neutral_sendDiscoveryResponse (service : CdmpNetworkService) :
    Neutral service (service, service.sendDiscoveryResponse) := by
  have notOnline : service.device.status ≠ .online → service.sendDiscoveryResponse = [] := by
    intro offline
    exact if_neg (by simpa [CdmpDevice.isOnline] using offline)
  have work : controlWork service.sendDiscoveryResponse = [] := by
    simp only [sendDiscoveryResponse, sendFrame]
    split_ifs <;> rfl
  constructor <;> try rfl
  · exact work
  · exact fun offline => by rw [notOnline offline]; rfl

/-! ### The discovery task -/

/-- The requests of a discovery, its restarts included. -/
def requestsMade (service : CdmpNetworkService) : ℕ :=
  CdmpTimeouts.retryBackoffsMs.length * service.discoveryBackoffResets + service.discoveryAttempt

theorem Neutral.requestsMade_eq {result : CdmpNetworkService × List NetworkEffect}
    (neutral : Neutral service result) : result.1.requestsMade = service.requestsMade := by
  rw [requestsMade, requestsMade, neutral.discoveryAttempt, neutral.discoveryBackoffResets]

/-- What bounds the requests of a discovery. -/
def discoveryRequestsMax : ℕ :=
  CdmpTimeouts.retryBackoffsMs.length * (CdmpConstants.discoveryMaxBackoffResets + 1)

/-- From INIT the claim of an ID begins. -/
theorem transition_claimId (service : CdmpNetworkService)
    (status : service.device.status = .init) :
    ∃ isValidationTaskRunning, service.transition (·.claimId) =
      ({ service with
          device := { service.device with status := .claiming }, isValidationTaskRunning },
        [.statusChanged ⟨.init, .claiming⟩, service.runInSession .startIdClaim]) := by
  have other : CdmpDeviceStatus.claiming ≠ service.device.status := by simp [status]
  have valid : service.device.status.isValidTransition .claiming = true := by
    simp [status, CdmpDeviceStatus.isValidTransition]
  obtain ⟨stops, -⟩ | ⟨-, validation, moved⟩ := service.transition_setStatus other valid
  · cases stops
  · rw [status] at moved
    exact ⟨validation, moved⟩

/-- Waiting for a lower UID starts the attempts over, which is counted. -/
theorem waitForLowerUid_spec
    (attempts : service.discoveryAttempt ≤ CdmpTimeouts.retryBackoffsMs.length)
    (resets : service.discoveryBackoffResets ≤ CdmpConstants.discoveryMaxBackoffResets) :
    ∃ discoveryAttempt discoveryBackoffResets,
      service.waitForLowerUid = { service with discoveryAttempt, discoveryBackoffResets } ∧
        discoveryAttempt ≤ CdmpTimeouts.retryBackoffsMs.length ∧
        discoveryBackoffResets ≤ CdmpConstants.discoveryMaxBackoffResets ∧
        service.requestsMade ≤
          CdmpTimeouts.retryBackoffsMs.length * discoveryBackoffResets + discoveryAttempt := by
  unfold waitForLowerUid
  split
  · rename_i waits
    simp only [Bool.and_eq_true, decide_eq_true_eq] at waits
    refine ⟨0, _, rfl, Nat.zero_le _, waits.2, ?_⟩
    rw [requestsMade, Nat.mul_succ]
    omega
  · exact ⟨_, _, rfl, attempts, resets, le_rfl⟩

/-- A run of the discovery task claims an ID or makes one more request. -/
theorem runDiscoveryAttempt_spec (status : service.device.status = .init)
    (attempts : service.discoveryAttempt ≤ CdmpTimeouts.retryBackoffsMs.length)
    (resets : service.discoveryBackoffResets ≤ CdmpConstants.discoveryMaxBackoffResets) :
    let result := service.runDiscoveryAttempt
    result.1.isRunning = service.isRunning ∧ result.1.session = service.session ∧
      result.1.isIdClaimTaskScheduled = service.isIdClaimTaskScheduled ∧
      ((result.1.device.status = .claiming ∧ result.1.isDiscoveryTaskScheduled = false ∧
        controlWork result.2 = [.startIdClaim] ∧ sentFrames result.2 = []) ∨
      (result.1.device = service.device ∧
        result.1.isDiscoveryTaskScheduled = service.isDiscoveryTaskScheduled ∧
        result.1.discoveryAttempt ≤ CdmpTimeouts.retryBackoffsMs.length ∧
        result.1.discoveryBackoffResets ≤ CdmpConstants.discoveryMaxBackoffResets ∧
        service.requestsMade < result.1.requestsMade ∧
        result.2 = service.sendFrame
          (CdmpDiscoveryRequestMessage.toCanFrame ⟨service.device.uid⟩))) := by
  intro result
  obtain ⟨attempt, reset, waited, attempts', resets', made⟩ :=
    service.waitForLowerUid_spec attempts resets
  simp only [result, runDiscoveryAttempt, waited]
  rw [if_neg (not_not.mpr status)]
  split
  -- Another unit has answered.
  · obtain ⟨validation, moved⟩ :=
      transition_claimId { service with isDiscoveryTaskScheduled := false } status
    rw [moved]
    exact ⟨rfl, rfl, rfl, Or.inl ⟨rfl, rfl, rfl, rfl⟩⟩
  split
  -- Nobody has, in the attempts that there are.
  · obtain ⟨validation, moved⟩ := transition_claimId
      { service with
        discoveryAttempt := attempt
        discoveryBackoffResets := reset
        isDiscoveryTaskScheduled := false } status
    rw [moved]
    exact ⟨rfl, rfl, rfl, Or.inl ⟨rfl, rfl, rfl, rfl⟩⟩
  · rename_i notLast
    refine ⟨rfl, rfl, rfl, Or.inr ⟨rfl, rfl, ?_, resets', ?_, rfl⟩⟩
    · exact lt_of_le_of_ne attempts' notLast
    · exact Nat.lt_of_le_of_lt made (Nat.lt_succ_self _)

/-! ### The claim task -/

/-- A claim on the ID that is not too old waits for its first heartbeat. -/
def IsPending (service : CdmpNetworkService) (deviceId : UInt8) (now : ℕ) : Prop :=
  ∃ claim ∈ service.pendingIdClaims, claim.deviceId = deviceId ∧
    (now : ℤ) - claim.claimedAtMs ≤ CdmpConstants.heartbeatTimeoutMs

/-- The ID is above the last one claimed, below the broadcast ID, and free: it is neither in the
table nor pending. -/
structure Chosen (service : CdmpNetworkService) (deviceId : UInt8) (now : ℕ) : Prop where
  above : service.claimingDeviceId < deviceId
  below : deviceId < deviceIdBroadcast
  unlisted : service.networkDevices.contains deviceId = false
  unclaimed : ¬ service.IsPending deviceId now

/-- The search skips the IDs that are in the table or pending. -/
theorem firstAvailableId_free {now : ℕ} {candidates : List UInt8} {deviceId : UInt8}
    (assigned : deviceId ≠ deviceIdUnassigned)
    (found : (service.firstAvailableId now candidates).2 = some deviceId) :
    service.networkDevices.contains deviceId = false ∧ ¬ service.IsPending deviceId now := by
  induction candidates generalizing service with
  | nil => cases found
  | cons id ids ih =>
    -- A claim that is pending is still there after those that are too old are dropped.
    have keeps : service.IsPending deviceId now →
        ∃ claim ∈ (service.expirePendingIdClaims now).pendingIdClaims, claim.deviceId = deviceId ∧
          (now : ℤ) - claim.claimedAtMs ≤ CdmpConstants.heartbeatTimeoutMs := by
      rintro ⟨claim, member, own, young⟩
      refine ⟨claim, List.mem_map.mpr ⟨claim, member, if_neg ?_⟩, own, young⟩
      exact fun old => absurd old.2 (not_lt.mpr young)
    unfold firstAvailableId at found
    split_ifs at found with listed
    · exact ih found
    cases slot : service.findPendingIdClaim id now with
    | mk later result =>
      have isLater : service.expirePendingIdClaims now = later := congrArg Prod.fst slot
      rw [slot] at found
      cases result with
      | none =>
        obtain rfl := Option.some.inj found
        refine ⟨by simpa using listed, fun pending => ?_⟩
        obtain ⟨claim, member, own, -⟩ := keeps pending
        have absent := List.findIdx?_eq_none_iff.mp (congrArg Prod.snd slot) claim member
        simp [own] at absent
      | some position =>
        obtain ⟨unlisted, unclaimed⟩ := ih found
        rw [← isLater] at unlisted unclaimed
        exact ⟨unlisted, fun pending => unclaimed (keeps pending)⟩

/-- The claims of a session up to the last one. -/
def claimsMade (service : CdmpNetworkService) : ℕ :=
  CdmpConstants.idClaimMaxAttempts * (service.claimingDeviceId.toNat - 1) + service.idClaimAttempt

theorem Neutral.claimsMade_eq {result : CdmpNetworkService × List NetworkEffect}
    (neutral : Neutral service result) : result.1.claimsMade = service.claimsMade := by
  rw [claimsMade, claimsMade, neutral.claimingDeviceId, neutral.idClaimAttempt]

/-- What bounds the claims of a session. -/
def idClaimsMax : ℕ := 254 * CdmpConstants.idClaimMaxAttempts

/-- The attempts at the ID being claimed, which is not the broadcast ID. -/
structure ClaimPosition (service : CdmpNetworkService) : Prop where
  claimable : service.claimingDeviceId ≠ deviceIdBroadcast
  attempts : service.idClaimAttempt ≤ CdmpConstants.idClaimMaxAttempts
  unassigned : service.claimingDeviceId = deviceIdUnassigned → service.idClaimAttempt = 0

theorem ClaimPosition.claimsMade_le (position : service.ClaimPosition) :
    service.claimsMade ≤ idClaimsMax := by
  have claimable : service.claimingDeviceId.toNat ≠ 255 := fun isLast =>
    position.claimable (UInt8.toNat_inj.mp isLast)
  have small := service.claimingDeviceId.toNat_lt
  have attempts := position.attempts
  simp only [claimsMade, idClaimsMax, CdmpConstants.idClaimMaxAttempts] at *
  omega

/-- A claim is the next attempt at the same ID or the first at a chosen one. -/
structure ClaimsNext (service after : CdmpNetworkService) (now : ℕ) : Prop where
  status : after.device.status = service.device.status
  isIdClaimTaskScheduled : after.isIdClaimTaskScheduled = service.isIdClaimTaskScheduled
  position : after.ClaimPosition
  advances :
    (after.claimingDeviceId = service.claimingDeviceId ∧
      service.claimingDeviceId ≠ deviceIdUnassigned ∧
      after.idClaimAttempt = service.idClaimAttempt + 1) ∨
    service.Chosen after.claimingDeviceId now ∧ after.idClaimAttempt = 1

theorem ClaimsNext.claimsMade_lt {now : ℕ} (next : service.ClaimsNext after now)
    (position : service.ClaimPosition) : service.claimsMade < after.claimsMade := by
  have attempts := position.attempts
  obtain ⟨same, -, again⟩ | ⟨chosen, first⟩ := next.advances
  · rw [claimsMade, claimsMade, same, again]
    omega
  · have above := UInt8.lt_iff_toNat_lt.mp chosen.above
    rw [claimsMade, claimsMade, first]
    -- An ID that was not claimed at all counts for nothing.
    by_cases assigned : service.claimingDeviceId = deviceIdUnassigned
    · rw [position.unassigned assigned, assigned]
      simp [deviceIdUnassigned]
    · have positive : 0 < service.claimingDeviceId.toNat :=
        Nat.pos_of_ne_zero fun zero => assigned (UInt8.toNat_inj.mp zero)
      simp only [CdmpConstants.idClaimMaxAttempts] at *
      omega

/-- What is claimed is a device ID. -/
theorem ClaimsNext.inRange {now : ℕ} (next : service.ClaimsNext after now) :
    1 ≤ after.claimingDeviceId ∧ after.claimingDeviceId ≤ 254 := by
  have claimable : after.claimingDeviceId.toNat ≠ 255 := fun isLast =>
    next.position.claimable (UInt8.toNat_inj.mp isLast)
  have small := after.claimingDeviceId.toNat_lt
  have positive : after.claimingDeviceId.toNat ≠ 0 := by
    obtain ⟨same, assigned, -⟩ | ⟨chosen, -⟩ := next.advances
    · rw [same]
      exact fun zero => assigned (UInt8.toNat_inj.mp zero)
    · have above := UInt8.lt_iff_toNat_lt.mp chosen.above
      omega
  constructor
  · rw [UInt8.le_iff_toNat_le]
    exact Nat.pos_of_ne_zero positive
  · rw [UInt8.le_iff_toNat_le]
    change after.claimingDeviceId.toNat ≤ 254
    omega

/-- From CLAIMING the unit goes ONLINE. -/
theorem completeIdClaim_online (service : CdmpNetworkService)
    (status : service.device.status = .claiming) :
    let result := service.completeIdClaim
    result.1.isRunning = service.isRunning ∧ result.1.session = service.session ∧
      result.1.isDiscoveryTaskScheduled = service.isDiscoveryTaskScheduled ∧
      result.1.device.status = .online ∧
      result.1.isIdClaimTaskScheduled = service.isIdClaimTaskScheduled ∧
      controlWork result.2 = [] ∧ sentFrames result.2 = [] := by
  intro result
  let named : CdmpNetworkService :=
    { service with
      device := { service.device with deviceId := service.claimingDeviceId }
      claimingDeviceId := deviceIdUnassigned }.updateNetworkDevices
  have claiming : named.device.status = .claiming := status
  have other : CdmpDeviceStatus.online ≠ named.device.status := by simp [claiming]
  have valid : named.device.status.isValidTransition .online = true := by
    simp [claiming, CdmpDeviceStatus.isValidTransition]
  obtain ⟨stops, -⟩ | ⟨-, validation, moved⟩ := named.transition_setStatus other valid
  · cases stops
  · rw [show result = _ from moved]
    exact ⟨rfl, rfl, rfl, rfl, rfl, rfl, rfl⟩

/-- A run of the claim task gives up without a bus, gives up for good, goes ONLINE or claims. -/
theorem runIdClaimAttempt_spec (status : service.device.status = .claiming)
    (position : service.ClaimPosition) (now : ℕ) :
    let result := service.runIdClaimAttempt now
    result.1.isRunning = service.isRunning ∧ result.1.session = service.session ∧
      result.1.isDiscoveryTaskScheduled = service.isDiscoveryTaskScheduled ∧
      ((service.isCanbusValid = false ∧ result.1.device = service.device ∧
        result.1.isIdClaimTaskScheduled = false ∧ result.2 = []) ∨
      (result.1.device.status = .claiming ∧ result.1.isIdClaimTaskScheduled = false ∧
        ∃ work, (work = .enterVersionMismatch ∨ work = .enterError) ∧
          result.2 = [service.runInSession work]) ∨
      (result.1.device.status = .online ∧ result.1.isIdClaimTaskScheduled = false ∧
        controlWork result.2 = [] ∧ sentFrames result.2 = []) ∨
      (service.ClaimsNext result.1 now ∧ result.2 = result.1.sendIdClaim)) := by
  intro result
  obtain ⟨running, session, discovery, online, unscheduled, work, frames⟩ := completeIdClaim_online
    { service with isIdClaimTaskScheduled := false } status
  simp only [result, runIdClaimAttempt]
  split
  -- The branches in the order of the source: no bus, an incompatible version, accepted, the
  -- first attempt or a refusal, all attempts made, and one attempt more.
  · rename_i stale
    have invalid : service.isCanbusValid = false := by simpa [status] using stale
    exact ⟨rfl, rfl, rfl, Or.inl ⟨invalid, rfl, rfl, rfl⟩⟩
  split
  · exact ⟨rfl, rfl, rfl, Or.inr (Or.inl ⟨status, rfl, _, Or.inl rfl, rfl⟩)⟩
  split
  · exact ⟨running, session, discovery,
      Or.inr (Or.inr (Or.inl ⟨online, unscheduled, work, frames⟩))⟩
  split
  -- The next free ID is claimed, if one is left.
  · have update := (tableUpdate_firstAvailableId service now
      (((List.range deviceIdBroadcast.toNat).drop (service.claimingDeviceId + 1).toNat).map
        UInt8.ofNat)).1
    cases found : service.getLowestAvailableId service.claimingDeviceId now with
    | mk later id =>
      rw [show service.firstAvailableId now _ = (later, id) from found] at update
      have same : Neutral service (later, []) := neutral_of_tableUpdate update rfl fun _ => rfl
      cases id with
      | none =>
        refine ⟨same.isRunning, same.session, same.isDiscoveryTaskScheduled,
          Or.inr (Or.inl ⟨same.status.trans status, rfl, _, Or.inr rfl, ?_⟩)⟩
        exact congrArg (fun session => [NetworkEffect.runInSession session .enterError])
          same.session
      | some id =>
        have isFound := congrArg Prod.snd found
        obtain ⟨above, below⟩ := getLowestAvailableId_spec position.claimable isFound
        have assigned : id ≠ deviceIdUnassigned := by
          rintro rfl
          exact UInt8.not_lt_zero above
        obtain ⟨unlisted, unclaimed⟩ := firstAvailableId_free assigned isFound
        refine ⟨same.isRunning, same.session, same.isDiscoveryTaskScheduled,
          Or.inr (Or.inr (Or.inr ⟨?_, rfl⟩))⟩
        exact
          { status := same.status
            isIdClaimTaskScheduled := same.isIdClaimTaskScheduled
            position := ⟨UInt8.ne_of_lt below, Nat.succ_le_of_lt (Nat.zero_lt_succ _),
              fun free => absurd free assigned⟩
            advances := Or.inr ⟨⟨above, below, unlisted, unclaimed⟩, rfl⟩ }
  rename_i pending
  rw [not_or] at pending
  split
  · exact ⟨running, session, discovery,
      Or.inr (Or.inr (Or.inl ⟨online, unscheduled, work, frames⟩))⟩
  · rename_i notLast
    refine ⟨rfl, rfl, rfl, Or.inr (Or.inr (Or.inr ⟨?_, rfl⟩))⟩
    exact
      { status := rfl
        isIdClaimTaskScheduled := rfl
        position := ⟨position.claimable, lt_of_le_of_ne position.attempts notLast,
          fun free => absurd free pending.1⟩
        advances := Or.inl ⟨rfl, pending.1, rfl⟩ }

/-! ### Phases -/

/-- The status, the tasks that are scheduled and the control work that waits. The claim task leaves
a unit in CLAIMING behind only when the bus was lost. -/
inductive Phase (busLost : Prop) (service : CdmpNetworkService) : List NetworkWork → Prop
  /-- No session. -/
  | stopped (isRunning : service.isRunning = false) (status : service.device.status ≠ .init) :
    Phase busLost service []
  /-- INIT, before the discovery starts. -/
  | entering (isRunning : service.isRunning = true) (status : service.device.status = .init)
      (discovery : service.isDiscoveryTaskScheduled = false)
      (claim : service.isIdClaimTaskScheduled = false) :
      Phase busLost service [.startInitialization]
  | discovering (isRunning : service.isRunning = true) (status : service.device.status = .init)
      (discovery : service.isDiscoveryTaskScheduled = true)
      (claim : service.isIdClaimTaskScheduled = false)
      (attempts : service.discoveryAttempt ≤ CdmpTimeouts.retryBackoffsMs.length)
      (resets : service.discoveryBackoffResets ≤ CdmpConstants.discoveryMaxBackoffResets) :
    Phase busLost service []
  /-- CLAIMING, before the claim starts. -/
  | starting (isRunning : service.isRunning = true) (status : service.device.status = .claiming)
      (discovery : service.isDiscoveryTaskScheduled = false)
      (claim : service.isIdClaimTaskScheduled = false) : Phase busLost service [.startIdClaim]
  | claiming (isRunning : service.isRunning = true) (status : service.device.status = .claiming)
      (discovery : service.isDiscoveryTaskScheduled = false)
      (claim : service.isIdClaimTaskScheduled = true) (position : service.ClaimPosition) :
    Phase busLost service []
  /-- The claim failed, and the work that ends the session waits. -/
  | failed (isRunning : service.isRunning = true) (status : service.device.status = .claiming)
      (discovery : service.isDiscoveryTaskScheduled = false)
      (claim : service.isIdClaimTaskScheduled = false) {work : NetworkWork}
      (ends : work = .enterVersionMismatch ∨ work = .enterError) : Phase busLost service [work]
  /-- The claim task found no bus. -/
  | abandoned (lost : busLost) (isRunning : service.isRunning = true)
      (status : service.device.status = .claiming)
      (discovery : service.isDiscoveryTaskScheduled = false)
      (claim : service.isIdClaimTaskScheduled = false) : Phase busLost service []
  /-- Neither INIT nor CLAIMING. -/
  | settled (isRunning : service.isRunning = true) (notInit : service.device.status ≠ .init)
      (notClaiming : service.device.status ≠ .claiming)
      (discovery : service.isDiscoveryTaskScheduled = false)
      (claim : service.isIdClaimTaskScheduled = false) : Phase busLost service []

variable {busLost : Prop} {control : List NetworkWork}

/-- A neutral step keeps the phase. -/
theorem Phase.neutral {result : CdmpNetworkService × List NetworkEffect}
    (phase : Phase busLost service control) (neutral : Neutral service result) :
    Phase busLost result.1 control := by
  obtain ⟨running, -, status', discovery', claim', attempt, resets', claiming', attempt', -, -⟩ :=
    neutral
  cases phase with
  | stopped isRunning status => exact .stopped (running.trans isRunning) (status' ▸ status)
  | entering isRunning status discovery claim =>
    exact .entering (running.trans isRunning) (status'.trans status) (discovery'.trans discovery)
      (claim'.trans claim)
  | discovering isRunning status discovery claim attempts resets =>
    exact .discovering (running.trans isRunning) (status'.trans status)
      (discovery'.trans discovery) (claim'.trans claim) (attempt ▸ attempts) (resets' ▸ resets)
  | starting isRunning status discovery claim =>
    exact .starting (running.trans isRunning) (status'.trans status) (discovery'.trans discovery)
      (claim'.trans claim)
  | claiming isRunning status discovery claim position =>
    obtain ⟨claimable, attempts, unassigned⟩ := position
    exact .claiming (running.trans isRunning) (status'.trans status) (discovery'.trans discovery)
      (claim'.trans claim)
      ⟨claiming' ▸ claimable, attempt' ▸ attempts, by rwa [claiming', attempt']⟩
  | failed isRunning status discovery claim ends =>
    exact .failed (running.trans isRunning) (status'.trans status) (discovery'.trans discovery)
      (claim'.trans claim) ends
  | abandoned lost isRunning status discovery claim =>
    exact .abandoned lost (running.trans isRunning) (status'.trans status)
      (discovery'.trans discovery) (claim'.trans claim)
  | settled isRunning notInit notClaiming discovery claim =>
    exact .settled (running.trans isRunning) (status' ▸ notInit) (status' ▸ notClaiming)
      (discovery'.trans discovery) (claim'.trans claim)

/-- The discovery task is scheduled in INIT only, where nothing else waits. -/
theorem Phase.of_discoveryTask (phase : Phase busLost service control)
    (running : service.isRunning = true) (scheduled : service.isDiscoveryTaskScheduled = true) :
    control = [] ∧ service.device.status = .init ∧ service.isIdClaimTaskScheduled = false ∧
      service.discoveryAttempt ≤ CdmpTimeouts.retryBackoffsMs.length ∧
      service.discoveryBackoffResets ≤ CdmpConstants.discoveryMaxBackoffResets := by
  cases phase with
  | stopped isRunning => simp [running] at isRunning
  | discovering _ status _ claim attempts resets => exact ⟨rfl, status, claim, attempts, resets⟩
  | entering _ _ discovery => simp [scheduled] at discovery
  | starting _ _ discovery => simp [scheduled] at discovery
  | claiming _ _ discovery => simp [scheduled] at discovery
  | failed _ _ discovery => simp [scheduled] at discovery
  | abandoned _ _ _ discovery => simp [scheduled] at discovery
  | settled _ _ _ discovery => simp [scheduled] at discovery

/-- The claim task is scheduled in CLAIMING only, where nothing else waits. -/
theorem Phase.of_idClaimTask (phase : Phase busLost service control)
    (running : service.isRunning = true) (scheduled : service.isIdClaimTaskScheduled = true) :
    control = [] ∧ service.device.status = .claiming ∧
      service.isDiscoveryTaskScheduled = false ∧ service.ClaimPosition := by
  cases phase with
  | stopped isRunning => simp [running] at isRunning
  | claiming _ status discovery _ position => exact ⟨rfl, status, discovery, position⟩
  | entering _ _ _ claim => simp [scheduled] at claim
  | discovering _ _ _ claim => simp [scheduled] at claim
  | starting _ _ _ claim => simp [scheduled] at claim
  | failed _ _ _ claim => simp [scheduled] at claim
  | abandoned _ _ _ _ claim => simp [scheduled] at claim
  | settled _ _ _ _ claim => simp [scheduled] at claim

/-- A unit in INIT is about to discover or discovers. -/
theorem Phase.of_init (phase : Phase busLost service control)
    (status : service.device.status = .init) :
    service.isRunning = true ∧ service.isIdClaimTaskScheduled = false ∧
      ((service.isDiscoveryTaskScheduled = false ∧ control = [.startInitialization]) ∨
        service.isDiscoveryTaskScheduled = true ∧ control = []) := by
  cases phase with
  | entering isRunning _ discovery claim => exact ⟨isRunning, claim, Or.inl ⟨discovery, rfl⟩⟩
  | discovering isRunning _ discovery claim => exact ⟨isRunning, claim, Or.inr ⟨discovery, rfl⟩⟩
  | stopped _ notInit => exact absurd status notInit
  | settled _ notInit => exact absurd status notInit
  | starting _ claiming => simp [status] at claiming
  | claiming _ claiming => simp [status] at claiming
  | failed _ claiming => simp [status] at claiming
  | abandoned _ _ claiming => simp [status] at claiming

/-- A unit in INIT was not left without a bus. -/
theorem Phase.not_lost (phase : Phase busLost service control)
    (status : service.device.status = .init) : Phase False service control := by
  cases phase with
  | entering isRunning status discovery claim => exact .entering isRunning status discovery claim
  | discovering isRunning status discovery claim attempts resets =>
    exact .discovering isRunning status discovery claim attempts resets
  | stopped _ notInit => exact absurd status notInit
  | settled _ notInit => exact absurd status notInit
  | starting _ claiming => simp [status] at claiming
  | claiming _ claiming => simp [status] at claiming
  | failed _ claiming => simp [status] at claiming
  | abandoned _ _ claiming => simp [status] at claiming

/-- A unit in CLAIMING is about to claim, claims, has failed, or was left without a bus. -/
theorem Phase.of_claiming (phase : Phase busLost service control)
    (running : service.isRunning = true) (status : service.device.status = .claiming) :
    service.isDiscoveryTaskScheduled = false ∧
      ((service.isIdClaimTaskScheduled = true ∧ control = [] ∧ service.ClaimPosition) ∨
      service.isIdClaimTaskScheduled = false ∧
        (control = [.startIdClaim] ∨
          (∃ work, (work = .enterVersionMismatch ∨ work = .enterError) ∧ control = [work]) ∨
          busLost ∧ control = [])) := by
  cases phase with
  | starting _ _ discovery claim => exact ⟨discovery, Or.inr ⟨claim, Or.inl rfl⟩⟩
  | claiming _ _ discovery claim position => exact ⟨discovery, Or.inl ⟨claim, rfl, position⟩⟩
  | failed _ _ discovery claim ends =>
    exact ⟨discovery, Or.inr ⟨claim, Or.inr (Or.inl ⟨_, ends, rfl⟩)⟩⟩
  | abandoned lost _ _ discovery claim =>
    exact ⟨discovery, Or.inr ⟨claim, Or.inr (Or.inr ⟨lost, rfl⟩)⟩⟩
  | stopped isRunning => simp [running] at isRunning
  | settled _ _ notClaiming => exact absurd status notClaiming
  | entering _ isInit => simp [status] at isInit
  | discovering _ isInit => simp [status] at isInit

end CdmpNetworkService

end RtCore.Cdmp
