import RtCore.Cdmp.Protocol

/-!
# Devices

`CdmpDevice` holds what is known about a device: this unit itself, or a peer in the
device table. Its status follows the state machine of `CdmpDeviceStatus`; a transition
that took place is returned, for the services that listen to it.
-/

namespace RtCore.Cdmp

/-- A device; the constructor of the class refuses UID 0. -/
structure CdmpDevice where
  deviceId : UInt8 := deviceIdUnassigned
  uid : UInt32
  uid_ne_zero : uid ≠ 0
  protocolVersion : UInt8 := 0x10
  features : UInt16
  healthStatus : CdmpHealthStatus := .ok
  lastHeartbeat : UInt64
  uptimeCounter : UInt8 := 0
  isLowestIdOnNetwork : Bool := false
  staggeredMessageDelay : UInt32 := 0
  status : CdmpDeviceStatus := .offline
deriving DecidableEq, Repr

/-- A status transition, as the status change handlers are told. -/
structure CdmpStatusChange where
  oldStatus : CdmpDeviceStatus
  newStatus : CdmpDeviceStatus
deriving DecidableEq, Repr

namespace CdmpDevice

/-- The constructor, which throws for UID 0. -/
def create? (uid : UInt32) (features : UInt16) (status : CdmpDeviceStatus) (now : UInt64) :
    Option CdmpDevice :=
  if uid_ne_zero : uid ≠ 0 then
    some { uid, uid_ne_zero, features, status, lastHeartbeat := now }
  else none

/-- `IsOnline`: the unit has an ID and takes part in the network. -/
def isOnline (device : CdmpDevice) : Bool := device.status = .online

/-- `CdmpStatusMachine::SetStatus`: a transition the machine does not have is ignored. -/
def setStatus (device : CdmpDevice) (newStatus : CdmpDeviceStatus) (force : Bool) :
    CdmpDevice × Option CdmpStatusChange :=
  if newStatus = device.status then (device, none)
  else if !force && !device.status.isValidTransition newStatus then (device, none)
  else ({ device with status := newStatus }, some ⟨device.status, newStatus⟩)

/-- A transition takes place and is reported, or nothing happens. -/
theorem setStatus_cases (device : CdmpDevice) (newStatus : CdmpDeviceStatus) (force : Bool) :
    device.setStatus newStatus force = (device, none) ∨
      newStatus ≠ device.status ∧
        (force = true ∨ device.status.isValidTransition newStatus = true) ∧
        device.setStatus newStatus force =
          ({ device with status := newStatus }, some ⟨device.status, newStatus⟩) := by
  unfold setStatus
  split_ifs with same refused
  · exact Or.inl rfl
  · exact Or.inl rfl
  · refine Or.inr ⟨same, ?_, rfl⟩
    cases force <;> simp_all

@[simp] theorem setStatus_uid (device : CdmpDevice) (newStatus : CdmpDeviceStatus) (force : Bool) :
    (device.setStatus newStatus force).1.uid = device.uid := by
  rcases device.setStatus_cases newStatus force with same | ⟨-, -, moved⟩
  · rw [same]
  · rw [moved]

/-- `StartDiscovery`: the unit looks who is on the network. -/
def startDiscovery (device : CdmpDevice) : CdmpDevice × Option CdmpStatusChange :=
  device.setStatus .init false

/-- `ClaimId`: the unit claims an ID. -/
def claimId (device : CdmpDevice) : CdmpDevice × Option CdmpStatusChange :=
  device.setStatus .claiming false

/-- `GoOnline`: the unit has its ID; `force` allows any status before. -/
def goOnline (device : CdmpDevice) (force : Bool) : CdmpDevice × Option CdmpStatusChange :=
  device.setStatus .online force

/-- `EnterVersionMismatch`: the ID was refused for the protocol version. -/
def enterVersionMismatch (device : CdmpDevice) : CdmpDevice × Option CdmpStatusChange :=
  device.setStatus .versionMismatch false

/-- `EnterError`: the unit gives up until it is reset. -/
def enterError (device : CdmpDevice) : CdmpDevice × Option CdmpStatusChange :=
  device.setStatus .error false

/-- `Reset`: the unit is OFFLINE again, and healthy. -/
def reset (device : CdmpDevice) : CdmpDevice × Option CdmpStatusChange :=
  let (device, change) := device.setStatus .offline false
  ({ device with healthStatus := .ok }, change)

/-- `UpdateHeartbeat`: the device was heard of now. -/
def updateHeartbeat (device : CdmpDevice) (now : UInt64) : CdmpDevice :=
  { device with lastHeartbeat := now }

/-- `GetLastHeartbeatDeltaMs`: how long the device was not heard of, in 64 bits. -/
def getLastHeartbeatDeltaMs (device : CdmpDevice) (now : UInt64) : UInt64 :=
  now - device.lastHeartbeat

/-- The major versions, in the high four bits, must match. -/
def isProtocolCompatible (device : CdmpDevice) (otherVersion : UInt8) : Bool :=
  let myMajor : UInt8 := (device.protocolVersion >>> 4) &&& 0x0F
  let otherMajor : UInt8 := (otherVersion >>> 4) &&& 0x0F
  myMajor = otherMajor

end CdmpDevice

/-- What the network reports about a device of its table. -/
inductive CdmpDeviceEvent
  | joined
  | restarted
  | left
deriving DecidableEq, Repr

/-- A copy of what the network knows about a device. -/
structure CdmpDeviceInfo where
  deviceId : UInt8
  uid : UInt32
  features : UInt16
  status : CdmpDeviceStatus
deriving DecidableEq, Repr

end RtCore.Cdmp
