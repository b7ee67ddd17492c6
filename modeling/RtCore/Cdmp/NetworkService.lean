import Mathlib.Data.List.Dedup
import RtCore.Cdmp.Device
import RtCore.Cdmp.Wire

/-!
# Discovery, ID claims and the device table

`CdmpNetworkService` finds the other devices, claims an ID for this unit and keeps the
table of the others. A claim of another unit is pending until its first heartbeat, which
proves that it went through.

A function returns what it does to the service and, in order, what it does to the rest of
the unit: frames, events, status changes, and work for the queue. Handlers of status
changes run at the end of the function that changes the status, where the source changes
it last. Delays are left to the environment, which may run a scheduled task at any time.

The table is a hash map from IDs. The order in which the source iterates over it is not
specified and may change with any insertion or removal; here it is a part of the state that
the environment sets at any time.

## Main definitions

* `CdmpDeviceTable`, `PendingIdClaim`, `CdmpNetworkService` — the state
* `recordIdClaim`, `updateDeviceFromDiscovery`, `updateDeviceFromHeartbeat` — the paths
  into the table
* `runDiscoveryAttempt`, `runIdClaimAttempt` — how this unit goes online
* `processFrame` — management frames

## Main results

* `CdmpDeviceTable.inOrder_of_perm` — the table can be iterated in every order of its devices
-/

namespace RtCore.Cdmp

/-! ### The device table -/

/-- The other devices, at most one under an ID. -/
structure CdmpDeviceTable where
  devices : List CdmpDevice
  nodup : (devices.map (·.deviceId)).Nodup
deriving DecidableEq

namespace CdmpDeviceTable

/-- No devices. -/
def empty : CdmpDeviceTable := ⟨[], List.nodup_nil⟩

variable (table : CdmpDeviceTable)

/-- The device listed under an ID. -/
def find? (deviceId : UInt8) : Option CdmpDevice := table.devices.find? (·.deviceId = deviceId)

/-- A device is listed under an ID. -/
def contains (deviceId : UInt8) : Bool := table.devices.any (·.deviceId = deviceId)

/-- The IDs of the listed devices. -/
def deviceIds : List UInt8 := table.devices.map (·.deviceId)

/-- The devices in the order of their IDs in `order`, those that it does not name last. -/
def inOrder (order : List UInt8) : List CdmpDevice :=
  order.dedup.filterMap table.find? ++ table.devices.filter (·.deviceId ∉ order)

/-- `emplace`, which keeps a device that is there. -/
def insert (device : CdmpDevice) : CdmpDeviceTable :=
  -- A key that is taken keeps its value.
  if absent : device.deviceId ∈ table.devices.map (·.deviceId) then table
  else
    { devices := table.devices ++ [device]
      nodup := by
        rw [List.map_append]
        exact List.nodup_append'.mpr ⟨table.nodup, List.nodup_singleton _, by simpa using absent⟩ }

/-- The table without the device of an ID. -/
def erase (deviceId : UInt8) : CdmpDeviceTable where
  devices := table.devices.filter (·.deviceId ≠ deviceId)
  nodup := table.nodup.sublist (List.filter_sublist.map _)

/-- Writes to the devices, which stay under their IDs. -/
def update (f : CdmpDevice → CdmpDevice) : CdmpDeviceTable where
  devices := table.devices.map fun device => { f device with deviceId := device.deviceId }
  nodup := by
    rw [List.map_map]
    exact table.nodup

end CdmpDeviceTable

namespace CdmpDeviceTable

variable {table : CdmpDeviceTable}

theorem find?_of_mem {device : CdmpDevice} (member : device ∈ table.devices) :
    table.find? device.deviceId = some device := by
  obtain ⟨other, found⟩ : ∃ other, table.find? device.deviceId = some other := by
    rw [← Option.isSome_iff_exists, find?, List.find?_isSome]
    exact ⟨device, member, by simp⟩
  have same : other.deviceId = device.deviceId := by simpa using List.find?_some found
  rw [found, List.inj_on_of_nodup_map table.nodup (List.mem_of_find?_eq_some found) member same]

theorem mem_inOrder {device : CdmpDevice} {order : List UInt8} :
    device ∈ table.inOrder order ↔ device ∈ table.devices := by
  rw [inOrder, List.mem_append, List.mem_filterMap, List.mem_filter]
  constructor
  · rintro (⟨deviceId, -, found⟩ | ⟨member, -⟩)
    · exact List.mem_of_find?_eq_some found
    · exact member
  · intro member
    by_cases named : device.deviceId ∈ order
    · exact Or.inl ⟨device.deviceId, List.mem_dedup.mpr named, find?_of_mem member⟩
    · exact Or.inr ⟨member, decide_eq_true named⟩

theorem nodup_inOrder (order : List UInt8) : (table.inOrder order).Nodup := by
  refine List.nodup_append'.mpr ⟨?_, table.nodup.of_map.filter _, ?_⟩
  · refine order.nodup_dedup.filterMap fun a b device isA isB => ?_
    have onA : device.deviceId = a := by simpa using List.find?_some isA
    have onB : device.deviceId = b := by simpa using List.find?_some isB
    exact onA.symm.trans onB
  · intro device named unnamed
    obtain ⟨deviceId, isNamed, found⟩ := List.mem_filterMap.mp named
    obtain rfl : device.deviceId = deviceId := by simpa using List.find?_some found
    exact of_decide_eq_true (List.mem_filter.mp unnamed).2 (List.mem_dedup.mp isNamed)

/-- The iteration neither loses a device nor meets one twice. -/
theorem perm_inOrder (order : List UInt8) : (table.inOrder order).Perm table.devices :=
  (List.perm_ext_iff_of_nodup (nodup_inOrder order) table.nodup.of_map).mpr fun _ => mem_inOrder

/-- Every order of the devices is one that the iteration may have. -/
theorem inOrder_of_perm {devices : List CdmpDevice} (perm : devices.Perm table.devices) :
    table.inOrder (devices.map (·.deviceId)) = devices := by
  have distinct : (devices.map (·.deviceId)).Nodup := (perm.map _).nodup_iff.mpr table.nodup
  have named : (devices.map (·.deviceId)).filterMap table.find? = devices := by
    have found : ∀ device ∈ devices, (table.find? ∘ (·.deviceId)) device = some device :=
      fun device member => find?_of_mem (perm.mem_iff.mp member)
    rw [List.filterMap_map, List.filterMap_congr found, List.filterMap_some]
  have rest : table.devices.filter (·.deviceId ∉ devices.map (·.deviceId)) = [] := by
    rw [List.filter_eq_nil_iff]
    intro device member
    simpa using ⟨device, perm.mem_iff.mpr member, rfl⟩
  rw [inOrder, distinct.dedup, named, rest, List.append_nil]

end CdmpDeviceTable

/-- A claim waiting for the first heartbeat of its device. -/
structure PendingIdClaim where
  /-- `deviceIdUnassigned` marks a free slot. -/
  deviceId : UInt8 := deviceIdUnassigned
  uid : UInt32 := 0
  claimedAtMs : ℤ := 0
deriving DecidableEq, Repr

/-- `CdmpNetworkService`: the unit's own device, the others it knows of and its tasks. -/
structure CdmpNetworkService where
  /-- This unit itself, which all services share. -/
  device : CdmpDevice
  isRunning : Bool := false
  isCanbusValid : Bool := true
  /-- Incremented by every stop, so work queued for an earlier session is dropped. An `atomic_t`,
  which is assumed not to come round. -/
  session : ℕ := 0
  networkDevices : CdmpDeviceTable := .empty
  /-- The order in which the hash map of the devices is iterated at present. -/
  iterationOrder : List UInt8 := []
  pendingIdClaims : List PendingIdClaim := List.replicate CdmpConstants.pendingIdClaimsMax {}
  isValidationTaskRunning : Bool := false
  isDiscoveryTaskScheduled : Bool := false
  isIdClaimTaskScheduled : Bool := false
  discoveryAttempt : ℕ := 0
  discoveryBackoffResets : ℕ := 0
  discoveryResponseReceived : Bool := false
  lowerUidDiscovering : Bool := false
  claimingDeviceId : UInt8 := deviceIdUnassigned
  idClaimAttempt : ℕ := 0
  idClaimResult : Option CdmpIdClaimResult := none
  rediscoveryRequestedAtMs : Option ℤ := none
deriving DecidableEq

/-- The messages on the management CAN ID that the service handles. -/
inductive CdmpManagementMessage
  | discoveryRequest (message : CdmpDiscoveryRequestMessage)
  | discoveryResponse (message : CdmpDiscoveryResponseMessage)
  | idClaim (message : CdmpIdClaimRequestMessage)
  | idClaimResponse (message : CdmpIdClaimResponseMessage)
deriving DecidableEq, Repr

namespace CdmpManagementMessage

/-- The type byte is read first and selects the decoder; other types are ignored. -/
def fromCanFrame (frame : List UInt8) : Except DecodeError (Option CdmpManagementMessage) := do
  match CdmpManagementMessageType.ofUnderlying? (← readByte frame 0) with
  | some .discoveryRequest =>
    return some (.discoveryRequest (← CdmpDiscoveryRequestMessage.fromCanFrame frame))
  | some .discoveryResponse =>
    return some (.discoveryResponse (← CdmpDiscoveryResponseMessage.fromCanFrame frame))
  | some .idClaim => return some (.idClaim (← CdmpIdClaimRequestMessage.fromCanFrame frame))
  | some .idClaimResponse =>
    return some (.idClaimResponse (← CdmpIdClaimResponseMessage.fromCanFrame frame))
  | some .heartbeat => return none
  | none => return none

end CdmpManagementMessage

/-- Work for the CDMP work queue. -/
inductive NetworkWork
  | processMessage (message : CdmpManagementMessage)
  | startInitialization
  | startIdClaim
  | sendDiscoveryResponse
  | enterVersionMismatch
  | enterError
deriving DecidableEq, Repr

/-- What the service does to the rest of the unit. -/
inductive NetworkEffect
  /-- A frame on the management CAN ID. -/
  | sendFrame (frame : List UInt8)
  /-- Work for the queue, dropped when the service stops before it gets there. -/
  | runInSession (session : ℕ) (work : NetworkWork)
  | statusChanged (change : CdmpStatusChange)
  | deviceEvent (event : CdmpDeviceEvent) (device : CdmpDeviceInfo)
  /-- A heartbeat of a device in the table. -/
  | heartbeat (message : CdmpHeartbeatMessage)
deriving DecidableEq, Repr

/-- What is told of a device to those who ask for the devices or follow their events. -/
def toDeviceInfo (device : CdmpDevice) : CdmpDeviceInfo where
  deviceId := device.deviceId
  uid := device.uid
  features := device.features
  status := device.status

/-- `CdmpHelpers::CalculateStaggeredMessageTimeOffset`: the place of the ID among all. -/
def calculateStaggeredMessageTimeOffset (deviceIds : List UInt8) (deviceId : UInt8) : UInt32 :=
  UInt32.ofNat ((deviceIds.dedup.filter (· < deviceId)).length *
    CdmpConstants.staggeredMessageTimeOffsetMs)

namespace CdmpNetworkService

variable (service : CdmpNetworkService)

/-- The devices as an iteration over the map meets them. -/
def iterated : List CdmpDevice := service.networkDevices.inOrder service.iterationOrder

variable {service} in
@[simp] theorem mem_iterated {device : CdmpDevice} :
    device ∈ service.iterated ↔ device ∈ service.networkDevices.devices :=
  CdmpDeviceTable.mem_inOrder

/-- The map is iterated in another order from now on. -/
def iterate (iterationOrder : List UInt8) : CdmpNetworkService := { service with iterationOrder }

/-! ### Lifecycle -/

/-- `ClearAllDevices`: neither devices nor claims are left. -/
def clearAllDevices : CdmpNetworkService :=
  { service with
    networkDevices := .empty
    pendingIdClaims := List.replicate CdmpConstants.pendingIdClaimsMax {} }

/-- `StartValidationTask`: only an ONLINE unit validates, with one task. -/
def startValidationTask : CdmpNetworkService :=
  if !service.isValidationTaskRunning && service.device.status = .online then
    { service with isValidationTaskRunning := true }
  else service

/-- `Start`, which does nothing while the service runs. -/
def start : CdmpNetworkService :=
  if service.isRunning then service
  else { service.clearAllDevices.startValidationTask with isRunning := true }

/-- `Stop`, which does nothing while the service is stopped. -/
def stop : CdmpNetworkService :=
  if service.isRunning then
    { service with
      session := service.session + 1
      isDiscoveryTaskScheduled := false
      isIdClaimTaskScheduled := false
      isValidationTaskRunning := false
      isRunning := false }.clearAllDevices
  else service

/-- Queues work for the session that is on now. -/
def runInSession (work : NetworkWork) : NetworkEffect := .runInSession service.session work

/-- `OnDeviceStatusChanged`: what each new status of the own device sets off. -/
def onDeviceStatusChanged (newStatus : CdmpDeviceStatus) :
    CdmpNetworkService × List NetworkEffect :=
  match newStatus with
  | .init => (service, [service.runInSession .startInitialization])
  | .claiming => (service, [service.runInSession .startIdClaim])
  | .online => (service.startValidationTask, [])
  | .versionMismatch => (service.stop, [])
  | .error => (service.stop, [])
  | .offline => (service, [])

/-- A status transition of this unit, which the handlers of the services are told. -/
def transition (move : CdmpDevice → CdmpDevice × Option CdmpStatusChange) :
    CdmpNetworkService × List NetworkEffect :=
  match move service.device with
  | (device, none) => ({ service with device }, [])
  | (device, some change) =>
    let (service, effects) := { service with device }.onDeviceStatusChanged change.newStatus
    (service, .statusChanged change :: effects)

/-- `SendFrame`: nothing is sent while the bus is not valid. -/
def sendFrame (frame : List UInt8) : List NetworkEffect :=
  if service.isCanbusValid then [.sendFrame frame] else []

/-! ### The table and the pending claims -/

/-- A valid device ID other than this unit's own while it is online. -/
def isPeerDeviceId (deviceId : UInt8) : Bool :=
  deviceId ≠ deviceIdUnassigned ∧ deviceId ≠ deviceIdBroadcast ∧
    ¬ (service.device.isOnline ∧ deviceId = service.device.deviceId)

/-- The lowest of the own ID and the listed ones. -/
def lowestIdOnNetwork : UInt8 :=
  service.networkDevices.deviceIds.foldl (fun lowest id => if id < lowest then id else lowest)
    service.device.deviceId

/-- `UpdateLowestIdOnNetwork`: every device is marked as the lowest or not. -/
def updateLowestIdOnNetwork : CdmpNetworkService :=
  -- The own ID takes part, also while it is unassigned.
  let lowest := service.lowestIdOnNetwork
  { service with
    device := { service.device with isLowestIdOnNetwork := service.device.deviceId = lowest }
    networkDevices := service.networkDevices.update fun device =>
      { device with isLowestIdOnNetwork := device.deviceId = lowest } }

/-- `UpdateStaggeredMessageDelay`: every device has its turn after those of lower IDs. -/
def updateStaggeredMessageDelay : CdmpNetworkService :=
  let delay := calculateStaggeredMessageTimeOffset service.networkDevices.deviceIds
  { service with
    device := { service.device with staggeredMessageDelay := delay service.device.deviceId }
    networkDevices := service.networkDevices.update fun device =>
      { device with staggeredMessageDelay := delay device.deviceId } }

/-- `UpdateNetworkDevices`: what the devices' marks depend on has changed. -/
def updateNetworkDevices : CdmpNetworkService :=
  service.updateLowestIdOnNetwork.updateStaggeredMessageDelay

/-- `ExpirePendingIdClaims`: a claim whose device was not heard of in time is forgotten. -/
def expirePendingIdClaims (now : ℕ) : CdmpNetworkService :=
  { service with
    pendingIdClaims := service.pendingIdClaims.map fun claim =>
      if claim.deviceId ≠ deviceIdUnassigned ∧
          CdmpConstants.heartbeatTimeoutMs < (now : ℤ) - claim.claimedAtMs then {}
      else claim }

/-- The slot of the claim on an ID, after the claims that are too old are dropped. -/
def findPendingIdClaim (deviceId : UInt8) (now : ℕ) : CdmpNetworkService × Option ℕ :=
  let service := service.expirePendingIdClaims now
  (service, service.pendingIdClaims.findIdx? (·.deviceId = deviceId))

/-- The slot of the oldest claim, the first of them. -/
def oldestPendingIdClaim : ℕ :=
  service.pendingIdClaims.findIdx fun claim =>
    service.pendingIdClaims.all (claim.claimedAtMs ≤ ·.claimedAtMs)

/-- Writes a claim into its slot. -/
def writePendingIdClaim (slot : ℕ) (claim : PendingIdClaim) : CdmpNetworkService :=
  { service with pendingIdClaims := service.pendingIdClaims.set slot claim }

/-- `StorePendingIdClaim`: the claim takes its ID's slot, a free one or that of the oldest claim. -/
def storePendingIdClaim (claim : CdmpIdClaimRequestMessage) (now : ℕ) : CdmpNetworkService :=
  -- A device claims one ID at a time; after a reject it moves on to the next.
  let service : CdmpNetworkService :=
    { service with
      pendingIdClaims := service.pendingIdClaims.map fun pending =>
        if pending.uid = claim.uid ∧ pending.deviceId ≠ claim.claimingDeviceId then {}
        else pending }
  let (service, own) := service.findPendingIdClaim claim.claimingDeviceId now
  -- Otherwise a free slot, or else the oldest claim's.
  let slot := own.getD ((service.findPendingIdClaim deviceIdUnassigned now).2.getD
    service.oldestPendingIdClaim)
  service.writePendingIdClaim slot
    { deviceId := claim.claimingDeviceId, uid := claim.uid, claimedAtMs := now }

/-- `FindDeviceIdByUid`: the first device with the UID that the iteration over the map meets. -/
def findDeviceIdByUid (uid : UInt32) : Option UInt8 :=
  (service.iterated.find? (·.uid = uid)).map (·.deviceId)

/-- The lowest of the candidate IDs that is neither in the table nor claimed by a pending claim. -/
def firstAvailableId (now : ℕ) : CdmpNetworkService → List UInt8 → CdmpNetworkService × Option UInt8
  | service, [] => (service, none)
  | service, id :: ids =>
    if service.networkDevices.contains id then firstAvailableId now service ids
    else
      match service.findPendingIdClaim id now with
      | (service, none) => (service, some id)
      | (service, some _) => firstAvailableId now service ids

/-- The lowest available ID above `after`, or nothing where the source throws. -/
def getLowestAvailableId (after : UInt8) (now : ℕ) : CdmpNetworkService × Option UInt8 :=
  service.firstAvailableId now
    (((List.range deviceIdBroadcast.toNat).drop (after + 1).toNat).map UInt8.ofNat)

/-- Adds the device or marks it alive, and says whether it was added; nothing is left of a device
with UID 0, whose constructor throws. -/
def addOrUpdateDevice (deviceId : UInt8) (uid : UInt32) (features : UInt16) (now : ℕ) :
    Option (CdmpNetworkService × Bool) :=
  if service.networkDevices.contains deviceId then
    some
      ({ service with
          networkDevices := service.networkDevices.update fun device =>
            if device.deviceId = deviceId then
              -- A device that is heard of is ONLINE, whatever status it had.
              { ((device.updateHeartbeat (UInt64.ofNat now)).goOnline true).1 with features }
            else device },
        false)
  else
    (CdmpDevice.create? uid features .online (UInt64.ofNat now)).map fun device =>
      ({ service with
          networkDevices := service.networkDevices.insert { device with deviceId }
          }.updateNetworkDevices, true)

/-- `RemoveDevice`: the device leaves the table, which is reported. -/
def removeDevice (deviceId : UInt8) : CdmpNetworkService × List NetworkEffect :=
  match service.networkDevices.find? deviceId with
  | none => (service, [])
  | some device =>
    ({ service with networkDevices := service.networkDevices.erase deviceId }.updateNetworkDevices,
      [.deviceEvent .left (toDeviceInfo device)])

/-- JOINED of a listed device. -/
def joinedEvent (deviceId : UInt8) : List NetworkEffect :=
  ((service.networkDevices.find? deviceId).map fun device =>
    .deviceEvent .joined (toDeviceInfo device)).toList

/-- `RecordIdClaim`: the claim is remembered, and a device that claims its own ID has restarted. -/
def recordIdClaim (claim : CdmpIdClaimRequestMessage) (now : ℕ) :
    CdmpNetworkService × List NetworkEffect :=
  let deviceId := claim.claimingDeviceId
  -- This unit's own claim, a claim on its ID that it rejects, or one refused for its protocol
  -- version never becomes a device.
  if !service.isPeerDeviceId deviceId || claim.uid = service.device.uid ||
      !service.device.isProtocolCompatible claim.protocolVersion then (service, [])
  else
    match service.networkDevices.find? deviceId with
    | some device =>
      -- Another UID on a known ID is a conflicting claim, which the owner rejects.
      if device.uid ≠ claim.uid then (service, [])
      else
        -- A claimant repeats its claim until it is answered; the restart is reported once.
        let (service, slot) := service.findPendingIdClaim deviceId now
        let isRepeated := (slot.bind (service.pendingIdClaims[·]?)).any (·.uid = claim.uid)
        let service :=
          { service with
            networkDevices := service.networkDevices.update fun device =>
              if device.deviceId = deviceId then device.updateHeartbeat (UInt64.ofNat now)
              else device }
        (service.storePendingIdClaim claim now,
          if isRepeated then [] else [.deviceEvent .restarted (toDeviceInfo device)])
    | none =>
      -- The same unit claiming another ID has given up its old one.
      let previous := service.findDeviceIdByUid claim.uid
      let service := service.storePendingIdClaim claim now
      match previous with
      | some previous => service.removeDevice previous
      | none => (service, [])

/-- The ID the UID had before is given up: the device restarted under another ID, and this unit
missed its claim. -/
def removePreviousDevice (discovery : CdmpDiscoveryResponseMessage) :
    CdmpNetworkService × List NetworkEffect :=
  match service.findDeviceIdByUid discovery.uid with
  | some previous =>
    if previous ≠ discovery.deviceId then service.removeDevice previous else (service, [])
  | none => (service, [])

/-- `UpdateDeviceFromDiscovery`: the device is listed, in place of what its UID or its ID was. -/
def updateDeviceFromDiscovery (discovery : CdmpDiscoveryResponseMessage) (now : ℕ) :
    CdmpNetworkService × List NetworkEffect :=
  if !service.isPeerDeviceId discovery.deviceId then (service, [])
  else
    -- The removal comes first, so LEFT is reported before JOINED.
    let (service, left) := service.removePreviousDevice discovery
    match service.addOrUpdateDevice discovery.deviceId discovery.uid discovery.features now with
    | none => (service, left)
    | some (service, isAdded) =>
      let joined := if isAdded then service.joinedEvent discovery.deviceId else []
      -- Only an online device answers discovery, so its claim, if any, is complete.
      let (service, slot) := service.findPendingIdClaim discovery.deviceId now
      (slot.elim service (service.writePendingIdClaim · {}), left ++ joined)

/-- Asks every device for its identity, at most once per heartbeat interval. -/
def requestRediscovery (now : ℕ) : CdmpNetworkService × List NetworkEffect :=
  if !service.device.isOnline || !service.isRunning then (service, [])
  else if service.rediscoveryRequestedAtMs.any
      fun requested => (now : ℤ) - requested < CdmpConstants.heartbeatIntervalMs then (service, [])
  else
    ({ service with rediscoveryRequestedAtMs := some now },
      service.sendFrame (CdmpDiscoveryRequestMessage.toCanFrame ⟨service.device.uid⟩))

/-- `UpdateDeviceFromHeartbeat`: a listed device is alive; a claim's device is listed by its first
one. -/
def updateDeviceFromHeartbeat (heartbeat : CdmpHeartbeatMessage) (now : ℕ) :
    CdmpNetworkService × List NetworkEffect :=
  let deviceId := heartbeat.deviceId
  if !service.isPeerDeviceId deviceId then (service, [])
  else
    let (service, slot) := service.findPendingIdClaim deviceId now
    match slot.bind fun slot => (service.pendingIdClaims[slot]?).map (slot, ·) with
    -- The first heartbeat proves that the claim went through.
    | some (slot, claim) =>
      match service.addOrUpdateDevice deviceId claim.uid heartbeat.features now with
      | none => (service, [])
      | some (service, isAdded) =>
        let joined := if isAdded then service.joinedEvent deviceId else []
        (service.writePendingIdClaim slot {}, joined ++ [.heartbeat heartbeat])
    | none =>
      match service.networkDevices.find? deviceId with
      -- Neither known nor pending: its claim was missed, or it timed out.
      | none => service.requestRediscovery now
      | some device =>
        match service.addOrUpdateDevice deviceId device.uid heartbeat.features now with
        | none => (service, [])
        | some (service, _) => (service, [.heartbeat heartbeat])

/-- Removes devices one after the other. -/
def removeDevices : CdmpNetworkService → List UInt8 → CdmpNetworkService × List NetworkEffect
  | service, [] => (service, [])
  | service, id :: ids =>
    let (service, left) := service.removeDevice id
    let (service, later) := removeDevices service ids
    (service, left ++ later)

/-- `RemoveOfflineDevices`: removes who was not heard of for longer than the timeout. -/
def removeOfflineDevices (now : ℕ) : CdmpNetworkService × List NetworkEffect :=
  service.removeDevices ((service.iterated.filter fun device =>
    CdmpConstants.heartbeatTimeoutMs <
      ((device.getLastHeartbeatDeltaMs (UInt64.ofNat now)).toNat : ℤ)).map (·.deviceId))

/-- `ProcessPeriodicTasks`: offline devices are removed, and the marks of the others follow. -/
def processPeriodicTasks (now : ℕ) : CdmpNetworkService × List NetworkEffect :=
  let (service, left) := service.removeOfflineDevices now
  (service.updateNetworkDevices, left)

/-- `ProcessPeriodicValidation`: the periodic tasks, while the validation task runs. -/
def processPeriodicValidation (now : ℕ) : CdmpNetworkService × List NetworkEffect :=
  if service.isValidationTaskRunning then service.processPeriodicTasks now else (service, [])

/-! ### Discovery -/

/-- `StartInitialization`: discovery begins with its first attempt. -/
def startInitialization : CdmpNetworkService :=
  { service with
    discoveryAttempt := 0
    discoveryBackoffResets := 0
    discoveryResponseReceived := false
    lowerUidDiscovering := false
    isDiscoveryTaskScheduled := true }

/-- A device with a lower UID discovering at the same time claims first, and answers this unit
once online. -/
def waitForLowerUid : CdmpNetworkService :=
  if 0 < service.discoveryAttempt && service.lowerUidDiscovering &&
      service.discoveryBackoffResets < CdmpConstants.discoveryMaxBackoffResets then
    { service with
      discoveryBackoffResets := service.discoveryBackoffResets + 1
      discoveryAttempt := 0 }
  else service

/-- One run of the discovery task, which ends it unless it schedules itself again. -/
def runDiscoveryAttempt : CdmpNetworkService × List NetworkEffect :=
  let done := { service with isDiscoveryTaskScheduled := false }
  if service.device.status ≠ .init then (done, [])
  else if 0 < service.discoveryAttempt && service.discoveryResponseReceived then
    done.transition (·.claimId)
  else
    -- Nobody answered so far.
    let service := service.waitForLowerUid
    if service.discoveryAttempt = CdmpTimeouts.retryBackoffsMs.length then
      { service with isDiscoveryTaskScheduled := false }.transition (·.claimId)
    else
      ({ service with
          discoveryAttempt := service.discoveryAttempt + 1
          lowerUidDiscovering := false },
        service.sendFrame (CdmpDiscoveryRequestMessage.toCanFrame ⟨service.device.uid⟩))

/-- `ProcessDiscoveryRequest`: the answer is queued; of two that discover the lower UID goes first.
-/
def processDiscoveryRequest (message : CdmpDiscoveryRequestMessage) :
    CdmpNetworkService × List NetworkEffect :=
  ({ service with
      lowerUidDiscovering := service.lowerUidDiscovering ||
        service.device.status = .init && message.uid < service.device.uid },
    [service.runInSession .sendDiscoveryResponse])

/-- `ProcessDiscoveryResponse`: the device that answers is listed. -/
def processDiscoveryResponse (message : CdmpDiscoveryResponseMessage) (now : ℕ) :
    CdmpNetworkService × List NetworkEffect :=
  -- A unit that answers with the own UID makes this one unusable.
  let service := { service with discoveryResponseReceived := true }
  if message.uid = service.device.uid then service.transition (·.enterError)
  else service.updateDeviceFromDiscovery message now

/-- `SendDiscoveryResponse`: only an ONLINE unit answers. -/
def sendDiscoveryResponse : List NetworkEffect :=
  if service.device.isOnline then
    service.sendFrame (CdmpDiscoveryResponseMessage.toCanFrame
      { deviceId := service.device.deviceId, uid := service.device.uid,
        features := service.device.features })
  else []

/-! ### ID claims -/

/-- `StartIdClaim`: claiming begins with no ID chosen. -/
def startIdClaim : CdmpNetworkService :=
  { service with
    claimingDeviceId := deviceIdUnassigned
    idClaimAttempt := 0
    idClaimResult := none
    isIdClaimTaskScheduled := true }

/-- `CompleteIdClaim`: the claimed ID is the own one and the unit goes ONLINE. -/
def completeIdClaim : CdmpNetworkService × List NetworkEffect :=
  { service with
    device := { service.device with deviceId := service.claimingDeviceId }
    claimingDeviceId := deviceIdUnassigned }.updateNetworkDevices.transition (·.goOnline false)

/-- `SendIdClaim`: the claim of the chosen ID. -/
def sendIdClaim : List NetworkEffect :=
  [.sendFrame (CdmpIdClaimRequestMessage.toCanFrame
    { claimingDeviceId := service.claimingDeviceId, uid := service.device.uid,
      protocolVersion := service.device.protocolVersion })]

/-- One run of the claim task. A claim that is refused for its version, or finds no ID, leaves the
transition to work of its own, because the stop it causes waits for this task. -/
def runIdClaimAttempt (now : ℕ) : CdmpNetworkService × List NetworkEffect :=
  let done := { service with isIdClaimTaskScheduled := false }
  let gaveUp := { done with claimingDeviceId := deviceIdUnassigned }
  if service.device.status ≠ .claiming || !service.isCanbusValid then (gaveUp, [])
  else if service.idClaimResult = some .versionIncompatible then
    (gaveUp, [service.runInSession .enterVersionMismatch])
  else if service.idClaimResult = some .accept then done.completeIdClaim
  else if service.claimingDeviceId = deviceIdUnassigned ∨ service.idClaimResult = some .reject then
    -- The first attempt, or the next ID after a refusal.
    match service.getLowestAvailableId service.claimingDeviceId now with
    | (service, none) =>
      ({ service with isIdClaimTaskScheduled := false, claimingDeviceId := deviceIdUnassigned },
        [service.runInSession .enterError])
    | (service, some claimingDeviceId) =>
      let service := { service with claimingDeviceId, idClaimAttempt := 1, idClaimResult := none }
      (service, service.sendIdClaim)
  -- Nobody objected: the first or only device on the network.
  else if service.idClaimAttempt = CdmpConstants.idClaimMaxAttempts then done.completeIdClaim
  else
    let service := { service with idClaimAttempt := service.idClaimAttempt + 1 }
    (service, service.sendIdClaim)

/-- The answer to a claim: the lowest ID refuses an incompatible version and accepts, the owner of
the ID rejects. -/
def answerIdClaim (claim : CdmpIdClaimRequestMessage) : Option CdmpIdClaimResult :=
  if service.device.isLowestIdOnNetwork &&
      !service.device.isProtocolCompatible claim.protocolVersion then some .versionIncompatible
  else if service.device.deviceId = claim.claimingDeviceId then some .reject
  else if service.device.isLowestIdOnNetwork then some .accept
  else none

/-- `ProcessIdClaimRequest`: the claim is recorded, then answered by those who have to. -/
def processIdClaimRequest (claim : CdmpIdClaimRequestMessage) (now : ℕ) :
    CdmpNetworkService × List NetworkEffect :=
  let (service, events) := service.recordIdClaim claim now
  if !service.isCanbusValid || !service.device.isOnline then (service, events)
  else
    match service.answerIdClaim claim with
    | none => (service, events)
    | some result =>
      (service, events ++ [.sendFrame (CdmpIdClaimResponseMessage.toCanFrame
        { respondingDeviceId := service.device.deviceId,
          claimingDeviceId := claim.claimingDeviceId, claimingDeviceUid := claim.uid, result })])

/-- `ProcessIdClaimResponse`: the answer to the own claim is kept, an objection before an ACCEPT. -/
def processIdClaimResponse (response : CdmpIdClaimResponseMessage) : CdmpNetworkService :=
  if service.device.status ≠ .claiming then service
  else if response.claimingDeviceId ≠ service.claimingDeviceId then service
  -- The lowest ID accepts any claim, so the owner's objection to the same claim outweighs it.
  else if response.result ≠ .accept ∨ service.idClaimResult = none then
    { service with idClaimResult := some response.result }
  else service

/-! ### Frames, work and tasks -/

/-- `ProcessMessage`: what each management message does. -/
def processMessage (message : CdmpManagementMessage) (now : ℕ) :
    CdmpNetworkService × List NetworkEffect :=
  match message with
  | .discoveryRequest message => service.processDiscoveryRequest message
  | .discoveryResponse message => service.processDiscoveryResponse message now
  | .idClaim claim => service.processIdClaimRequest claim now
  | .idClaimResponse response => (service.processIdClaimResponse response, [])

/-- `ProcessFrame`; an error is an exception, which is caught and logged, or a read outside the
frame. -/
def processFrame (frame : List UInt8) (now : ℕ) :
    Except DecodeError (CdmpNetworkService × List NetworkEffect) := do
  match ← CdmpManagementMessage.fromCanFrame frame with
  | some message => return service.processMessage message now
  | none => return (service, [])

/-- What a piece of queued work does. -/
def runWork (work : NetworkWork) (now : ℕ) : CdmpNetworkService × List NetworkEffect :=
  match work with
  | .processMessage message => service.processMessage message now
  | .startInitialization => (service.startInitialization, [])
  | .startIdClaim => (service.startIdClaim, [])
  | .sendDiscoveryResponse => (service, service.sendDiscoveryResponse)
  | .enterVersionMismatch => service.transition (·.enterVersionMismatch)
  | .enterError => service.transition (·.enterError)

/-- `GetNetworkDevices`: the listed devices by ID, as many of the first met as there is room for. -/
def getNetworkDevices (capacity : ℕ) : List CdmpDeviceInfo :=
  ((service.iterated.take capacity).map toDeviceInfo).mergeSort
    (fun a b => a.deviceId ≤ b.deviceId)

/-- `IsDeviceOnline`: the device is listed as ONLINE. -/
def isDeviceOnline (deviceId : UInt8) : Bool :=
  (service.networkDevices.find? deviceId).any (·.status = .online)

end CdmpNetworkService

/-! ### Runs -/

/-- A step of the service, with the uptime it happens at. -/
inductive NetworkLabel
  | work (work : NetworkWork) (now : ℕ)
  | heartbeat (message : CdmpHeartbeatMessage) (now : ℕ)
  | discoveryTask
  | idClaimTask (now : ℕ)
  | validationTask (now : ℕ)
  | start
  | stop
  | startDiscovery
  | reset
  | canbus (isValid : Bool)
  | iterate (order : List UInt8)

namespace CdmpNetworkService

/-- What a step does; a task that is not scheduled does not run. -/
def step (service : CdmpNetworkService) : NetworkLabel → CdmpNetworkService × List NetworkEffect
  | .work work now => service.runWork work now
  | .heartbeat message now => service.updateDeviceFromHeartbeat message now
  | .discoveryTask =>
    if service.isDiscoveryTaskScheduled then service.runDiscoveryAttempt else (service, [])
  | .idClaimTask now =>
    if service.isIdClaimTaskScheduled then service.runIdClaimAttempt now else (service, [])
  | .validationTask now => service.processPeriodicValidation now
  | .start => (service.start, [])
  | .stop => (service.stop, [])
  | .startDiscovery => service.transition (·.startDiscovery)
  | .reset => service.transition (·.reset)
  | .canbus isValid => ({ service with isCanbusValid := isValid }, [])
  | .iterate order => (service.iterate order, [])

end CdmpNetworkService

end RtCore.Cdmp
