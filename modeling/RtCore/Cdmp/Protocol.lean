import Mathlib.Data.List.Basic
import RtCore.Foundation.Bytes

/-!
# CDMP: identifiers, enumerations and messages

The data model of the CAN Device Management Protocol: device IDs, the status of
a unit, the enumerations that travel on the bus and the nine message structures.

An `enum class` with an underlying `uint8_t` holds any byte, and the decoders
cast received bytes without a check. Enumerations read from frames are therefore
wrapped bytes with named values; those that never leave the unit are inductive
types.
-/

namespace RtCore.Cdmp

open RtCore.Foundation

/-! ### Constants -/

namespace CdmpConstants

/-- Restarts of the discovery's backoff before the unit gives up. -/
def discoveryMaxBackoffResets : ℕ := 10
/-- How often one ID is claimed; then nobody objects to it. -/
def idClaimMaxAttempts : ℕ := 10
/-- Claims a unit tracks until their first heartbeat; a full table replaces the oldest. -/
def pendingIdClaimsMax : ℕ := 8
/-- The period of heartbeats, in milliseconds. -/
def heartbeatIntervalMs : ℤ := 3000
/-- A device that is silent for longer is gone. -/
def heartbeatTimeoutMs : ℤ := heartbeatIntervalMs * 3
/-- The time between the turns of two devices. -/
def staggeredMessageTimeOffsetMs : ℕ := 5
/-- The first command code that is not the service's own. -/
def userCommandCodeMin : UInt8 := 0x20
/-- Peers a shared state change waits for; the heartbeat digest covers any others. -/
def stateAckPeersMax : ℕ := 8
/-- A record that other changes leave this far behind the counter is stamped again. -/
def stateVersionRefreshLag : ℕ := 64
/-- The least time between two sync requests to one device. -/
def stateSyncRequestMinIntervalMs : ℕ := 1500

end CdmpConstants

namespace CdmpTimeouts

/-- The waiting times between attempts of a claim or a discovery. -/
def retryBackoffsMs : List ℕ := [100, 200, 500]
/-- The waiting times between the sendings of a change. -/
def stateRetransmitBackoffsMs : List ℤ := [50, 100, 200]

end CdmpTimeouts

/-- `CdmpDevice::DEVICE_ID_UNASSIGNED`. -/
def deviceIdUnassigned : UInt8 := 0x00

/-- `CdmpDevice::DEVICE_ID_BROADCAST`. -/
def deviceIdBroadcast : UInt8 := 0xFF

/-! ### Enumerations -/

/-- The status of a unit. -/
inductive CdmpDeviceStatus
  | offline
  | init
  | claiming
  | online
  | versionMismatch
  | error
deriving DecidableEq, Repr

namespace CdmpDeviceStatus

/-- The number of a status on the wire. -/
def toUnderlying : CdmpDeviceStatus → UInt8
  | offline => 0x00
  | init => 0x01
  | claiming => 0x02
  | online => 0x03
  | versionMismatch => 0x04
  | error => 0x05

/-- `CdmpStatusMachine::IsValidTransition`. -/
def isValidTransition : CdmpDeviceStatus → CdmpDeviceStatus → Bool
  | offline, target => target = init ∨ target = error
  | init, target => target = claiming ∨ target = offline ∨ target = error
  | claiming, target => target = init ∨ target = online ∨ target = versionMismatch ∨ target = error
  | online, target => target = versionMismatch ∨ target = offline ∨ target = error
  | versionMismatch, target => target = offline
  | error, target => target = init ∨ target = offline

end CdmpDeviceStatus

/-- A health status, with any number the wire can carry. -/
structure CdmpHealthStatus where
  toUnderlying : UInt8
deriving DecidableEq, Repr

namespace CdmpHealthStatus

/-- The health of a unit without faults. -/
def ok : CdmpHealthStatus := ⟨0x00⟩

end CdmpHealthStatus

/-- Result codes of command responses (Base + 3) and state change responses (Base + 5). -/
structure CdmpResultCode where
  toUnderlying : UInt8
deriving DecidableEq, Repr

namespace CdmpResultCode

/-- The command was carried out. -/
def success : CdmpResultCode := ⟨0x00⟩
/-- Nobody handles the command. -/
def unsupportedCommand : CdmpResultCode := ⟨0x03⟩
/-- The transaction was cancelled by a stop. -/
def cancelled : CdmpResultCode := ⟨0x04⟩
/-- Nobody answered in time. -/
def timeout : CdmpResultCode := ⟨0x05⟩

end CdmpResultCode

/-- The answer to a claim, with any number the wire can carry. -/
structure CdmpIdClaimResult where
  toUnderlying : UInt8
deriving DecidableEq, Repr

namespace CdmpIdClaimResult

/-- Nobody objects to the claim. -/
def accept : CdmpIdClaimResult := ⟨0x00⟩
/-- The ID is another device's. -/
def reject : CdmpIdClaimResult := ⟨0x01⟩
/-- The protocol version does not fit. -/
def versionIncompatible : CdmpIdClaimResult := ⟨0x02⟩

end CdmpIdClaimResult

/-- Message types of the management messages (Base + 0). -/
inductive CdmpManagementMessageType
  | idClaim
  | idClaimResponse
  | discoveryRequest
  | discoveryResponse
  | heartbeat
deriving DecidableEq, Repr

namespace CdmpManagementMessageType

/-- The number of a management message on the wire. -/
def toUnderlying : CdmpManagementMessageType → UInt8
  | idClaim => 0x01
  | idClaimResponse => 0x02
  | discoveryRequest => 0x03
  | discoveryResponse => 0x04
  | heartbeat => 0x05

/-- The enumerator a byte stands for; the `switch` over the type has no case for any other byte. -/
def ofUnderlying? (byte : UInt8) : Option CdmpManagementMessageType :=
  [idClaim, idClaimResponse, discoveryRequest, discoveryResponse, heartbeat].find?
    fun type => type.toUnderlying = byte

end CdmpManagementMessageType

namespace CdmpServiceCommandCode

/-- Asks for status, version and health. -/
def statusRequest : UInt8 := 0x10
/-- Resets the device. -/
def resetDevice : UInt8 := 0x11
/-- Asks for every state record. -/
def stateSyncRequest : UInt8 := 0x12

end CdmpServiceCommandCode

/-! ### Messages -/

/-- The data bytes of a shared state record: at most five. -/
structure CdmpStateData where
  bytes : List UInt8
  size_le : bytes.length ≤ 5
deriving DecidableEq, Repr

namespace CdmpStateData

/-- `CdmpStateData::MAX_SIZE`. -/
def maxSize : ℕ := 5

/-- The data of no bytes, which withdraws a record. -/
def empty : CdmpStateData := ⟨[], by decide⟩

instance : Inhabited CdmpStateData := ⟨empty⟩

/-- The data is that of a withdrawn record. -/
def isEmpty (data : CdmpStateData) : Bool := data.bytes.isEmpty

/-- The constructor, which throws for more than `maxSize` bytes. -/
def ofBytes? (bytes : List UInt8) : Option CdmpStateData :=
  if size_le : bytes.length ≤ 5 then some ⟨bytes, size_le⟩ else none

theorem ext_bytes {data other : CdmpStateData} (same : data.bytes = other.bytes) :
    data = other := by
  cases data
  cases other
  simpa using same

@[simp] theorem isEmpty_eq_false {data : CdmpStateData} :
    data.isEmpty = false ↔ data.bytes ≠ [] := by
  simp [isEmpty]

@[simp] theorem ofBytes?_bytes (data : CdmpStateData) : ofBytes? data.bytes = some data := by
  simp [ofBytes?, data.size_le]

end CdmpStateData

/-- Asks who is on the network. -/
structure CdmpDiscoveryRequestMessage where
  uid : UInt32
deriving DecidableEq, Repr

/-- Who is on the network, in answer to a request. -/
structure CdmpDiscoveryResponseMessage where
  deviceId : UInt8
  uid : UInt32
  features : UInt16
deriving DecidableEq, Repr

/-- The claim of an ID by a device that has none. -/
structure CdmpIdClaimRequestMessage where
  claimingDeviceId : UInt8
  uid : UInt32
  protocolVersion : UInt8
deriving DecidableEq, Repr

/-- An answer to a claim, from the ID's owner or the lowest ID. -/
structure CdmpIdClaimResponseMessage where
  respondingDeviceId : UInt8
  claimingDeviceId : UInt8
  claimingDeviceUid : UInt32
  result : CdmpIdClaimResult
deriving DecidableEq, Repr

/-- A device is alive, with what it knows of its state records. -/
structure CdmpHeartbeatMessage where
  deviceId : UInt8
  healthStatus : CdmpHealthStatus
  sequenceNumber : UInt8
  features : UInt16
  /-- CRC-8 over the sender's shared state records, 0 without records. -/
  stateDigest : UInt8
deriving DecidableEq, Repr

/-- A command to one device or to all. -/
structure CdmpCommandRequestMessage where
  targetDeviceId : UInt8
  commandCode : UInt8
  transactionId : UInt8
  data : List UInt8
deriving DecidableEq, Repr

/-- The answer to a command. -/
structure CdmpCommandResponseMessage where
  sourceDeviceId : UInt8
  commandCode : UInt8
  transactionId : UInt8
  resultCode : CdmpResultCode
  data : List UInt8
deriving DecidableEq, Repr

/-- A state record of a device, new or sent again. -/
structure CdmpStateChangeMessage where
  sourceDeviceId : UInt8
  version : UInt8
  stateType : UInt8
  /-- Empty withdraws the record. -/
  data : CdmpStateData
deriving DecidableEq, Repr

/-- The answer to a state record. -/
structure CdmpStateChangeResponseMessage where
  respondingDeviceId : UInt8
  sourceDeviceId : UInt8
  version : UInt8
  resultCode : CdmpResultCode
deriving DecidableEq, Repr

end RtCore.Cdmp
