import Mathlib.Data.Finset.Lattice.Lemmas
import RtCore.Foundation.SortedTable
import RtCore.Cdmp.Device
import RtCore.Cdmp.Wire

/-!
# Shared state

`CdmpStateService` keeps this unit's records, which it numbers with one wrapping
version counter, announces, resends and frees, and its copies of the records of
other units, which it checks against the digest in their heartbeats.

The arrays with their counts are lists: nothing reads an array past its count. What a
function of the source writes into a record through a pointer or an iterator is an
update at the index the pointer stands for. Tasks are left to the environment: any of
them may run at any time, scheduled or not.

## Main definitions

* `LocalRecord`, `RemoteRecord`, `SourceState`, `CdmpStateService` — the state
* `stampChange`, `refreshLaggingVersions` — the versions of this unit's records
* `applyRecord`, `onHeartbeat` — the copies of the records of other units
* `transmit`, `replayRecords` — the notifications the unit sends
-/

namespace RtCore.Cdmp

open RtCore.Foundation

/-- The build configuration of the service, and the CRC of the platform. -/
structure CdmpStateParameters where
  maxLocalRecords : ℕ
  maxLocalRecords_pos : 1 ≤ maxLocalRecords
  maxLocalRecords_le : maxLocalRecords ≤ 32
  maxRemoteRecords : ℕ
  maxRemoteRecords_pos : 1 ≤ maxRemoteRecords
  maxRemoteRecords_le : maxRemoteRecords ≤ 1024
  /-- `crc8_ccitt` of the platform: initial value and data. -/
  crc8Ccitt : UInt8 → List UInt8 → UInt8

/-- CRC-8 with polynomial 0x07, most significant bit first. -/
def crc8 (initial : UInt8) (data : List UInt8) : UInt8 :=
  let shift (crc : UInt8) : UInt8 :=
    if crc &&& 0x80 = 0 then crc <<< 1 else (crc <<< 1) ^^^ 0x07
  data.foldl (fun crc byte => Nat.iterate shift 8 (crc ^^^ byte)) initial

/-- The defaults of the build configuration. -/
def CdmpStateParameters.default : CdmpStateParameters where
  maxLocalRecords := 8
  maxLocalRecords_pos := by decide
  maxLocalRecords_le := by decide
  maxRemoteRecords := 32
  maxRemoteRecords_pos := by decide
  maxRemoteRecords_le := by decide
  crc8Ccitt := crc8

/-! ### Records -/

/-- A record of this unit. -/
structure LocalRecord where
  stateType : UInt8
  version : UInt8 := 0
  /-- Keeps its slot until the withdrawal is sent and acknowledged. -/
  isWithdrawn : Bool := false
  isAnnouncePending : Bool := false
  data : CdmpStateData := .empty
  /-- Peers that have not acknowledged the current version yet. -/
  unacknowledged : List UInt8 := []
  retransmitCount : ℕ := 0
  nextRetransmitMs : ℤ := 0
deriving DecidableEq, Repr

/-- The copy of a record of another unit. -/
structure RemoteRecord where
  source : UInt8
  stateType : UInt8
  version : UInt8
  /-- Accepts the next record whatever its version. -/
  isStale : Bool := false
  data : CdmpStateData
deriving DecidableEq, Repr

/-- What is kept of a source beside the copies of its records. -/
structure SourceState where
  /-- `deviceIdUnassigned` marks a free slot. -/
  deviceId : UInt8 := deviceIdUnassigned
  /-- Some of its records did not fit, so its copies never match its digest. -/
  isOverflowed : Bool := false
  hasRequestedSync : Bool := false
  syncRequestedAtMs : UInt32 := 0
deriving DecidableEq, Repr

/-- `CdmpStateService`: the own records, the copies of others' and what is due to be sent. -/
structure CdmpStateService where
  isStarted : Bool := false
  versionCounter : UInt8 := 0
  isAnnounceAllPending : Bool := false
  localRecords : List LocalRecord := []
  remoteRecords : List RemoteRecord := []
  sources : List SourceState
  changedTypes : Finset UInt8 := ∅
  /-- Frames dropped as malformed or for want of room. -/
  rxDropped : UInt32 := 0
  /-- The digest last given to the device with `SetStateDigest`. -/
  stateDigest : UInt8 := 0
deriving DecidableEq

/-- The peers of one transmission: what `GetNetworkDevices` copies into a buffer of
`stateAckPeersMax` devices. -/
structure CdmpStatePeers where
  devices : List CdmpDeviceInfo
  length_le : devices.length ≤ CdmpConstants.stateAckPeersMax
  nodup : (devices.map (·.deviceId)).Nodup

/-- Serial number comparison, so that the 8-bit version may wrap. -/
def isNewer (version current : UInt8) : Bool := 0 < (version - current).toInt8

/-- The order of `std::pair(source, state_type)`. -/
def RemoteRecord.isBefore (record : RemoteRecord) (source stateType : UInt8) : Bool :=
  record.source < source ∨ record.source = source ∧ record.stateType < stateType

section Digest

variable (parameters : CdmpStateParameters)

/-- Each record adds type, version, length and data. -/
def addToDigest (digest stateType version : UInt8) (data : CdmpStateData) : UInt8 :=
  let digest := parameters.crc8Ccitt digest [stateType, version, UInt8.ofNat data.bytes.length]
  parameters.crc8Ccitt digest data.bytes

/-- The digest over local records, withdrawn ones left out. -/
def localDigest (records : List LocalRecord) : UInt8 :=
  records.foldl
    (fun digest record =>
      if record.isWithdrawn then digest
      else addToDigest parameters digest record.stateType record.version record.data) 0

/-- The digest over copies. -/
def remoteDigest (records : List RemoteRecord) : UInt8 :=
  records.foldl
    (fun digest record =>
      addToDigest parameters digest record.stateType record.version record.data) 0

end Digest

namespace LocalRecord

/-- The message that announces a record. -/
def notification (record : LocalRecord) (device : CdmpDevice) : CdmpStateChangeMessage where
  sourceDeviceId := device.deviceId
  version := record.version
  stateType := record.stateType
  data := record.data

/-- A new version: a newer change replaces the acknowledgement set of the previous one. -/
def stamp (record : LocalRecord) (version : UInt8) : LocalRecord :=
  { record with version, unacknowledged := [], isAnnouncePending := true }

/-- The first entry of the peer is overwritten by the last entry, which is dropped. -/
def removePeer (peers : List UInt8) (peerId : UInt8) : List UInt8 :=
  match peers.idxOf? peerId, peers.getLast? with
  | some index, some last => (peers.set index last).dropLast
  | _, _ => peers

/-- What `RemoveFromAcknowledgementSets` does to one record. -/
def acknowledge (record : LocalRecord) (peerId : UInt8) (version : Option UInt8) : LocalRecord :=
  if version.all (· = record.version) then
    { record with unacknowledged := removePeer record.unacknowledged peerId }
  else record

/-- The withdrawal is sent and acknowledged. -/
def isAcknowledgedWithdrawal (record : LocalRecord) : Bool :=
  record.isWithdrawn && !record.isAnnouncePending && record.unacknowledged.isEmpty

/-- What `Transmit` does to one record, and whether it sends it. -/
def transmit (record : LocalRecord) (peers : CdmpStatePeers) (now : ℤ) : LocalRecord × Bool :=
  let backoffs := CdmpTimeouts.stateRetransmitBackoffsMs
  if record.isAnnouncePending then
    ({ record with
        isAnnouncePending := false
        retransmitCount := 0
        unacknowledged :=
          (peers.devices.filter fun peer => peer.status = .online).map (·.deviceId)
        nextRetransmitMs := now + backoffs.getD 0 0 }, true)
  else if !record.unacknowledged.isEmpty && record.nextRetransmitMs ≤ now then
    let record := { record with retransmitCount := record.retransmitCount + 1 }
    -- After the last resend the heartbeat digest takes over.
    if record.retransmitCount = backoffs.length then
      ({ record with unacknowledged := [] }, true)
    else
      ({ record with nextRetransmitMs := now + backoffs.getD record.retransmitCount 0 }, true)
  else (record, false)

end LocalRecord

/-- Stamps again every record that other changes left `stateVersionRefreshLag` behind, in
order, each with the next version. -/
def refreshLaggingVersions : UInt8 → List LocalRecord → UInt8 × List LocalRecord
  | versionCounter, [] => (versionCounter, [])
  | versionCounter, record :: records =>
    let lag := versionCounter - record.version
    if record.isWithdrawn ∨ lag.toNat < CdmpConstants.stateVersionRefreshLag then
      let rest := refreshLaggingVersions versionCounter records
      (rest.1, record :: rest.2)
    else
      let rest := refreshLaggingVersions (versionCounter + 1) records
      (rest.1, record.stamp (versionCounter + 1) :: rest.2)

namespace CdmpStateService

variable (parameters : CdmpStateParameters) (service : CdmpStateService)

/-- A service before its first start. -/
def initial : CdmpStateService where
  sources := List.replicate parameters.maxRemoteRecords {}

/-! ### This unit's records -/

/-- The index of the record of `stateType`. -/
def findLocalRecord (stateType : UInt8) : Option ℕ :=
  let index := partitionPoint (fun record => record.stateType < stateType) service.localRecords
  match service.localRecords[index]? with
  | some record => if record.stateType = stateType then some index else none
  | none => none

/-- `UpdateDigest`: the digest of the own records, which heartbeats carry. -/
def updateDigest : CdmpStateService :=
  { service with stateDigest := localDigest parameters service.localRecords }

/-- Stamps the record at `index` and refreshes the records it leaves behind. -/
def stampChange (index : ℕ) : CdmpStateService :=
  let versionCounter := service.versionCounter + 1
  let records := service.localRecords.modify index (·.stamp versionCounter)
  let (versionCounter, records) := refreshLaggingVersions versionCounter records
  { service with versionCounter, localRecords := records }.updateDigest parameters

/-- The records after `AddLocalRecord` and the index of the new one, or nothing when every
slot holds a record that is not withdrawn. -/
def addLocalRecord (stateType : UInt8) : Option (List LocalRecord × ℕ) :=
  let add (records : List LocalRecord) :=
    let index := partitionPoint (fun record => record.stateType < stateType) records
    (insertAt records index { stateType }, index)
  if service.localRecords.length = parameters.maxLocalRecords then
    -- A withdrawal still waiting for acknowledgements gives way; the digest covers it.
    match service.localRecords.findIdx? (·.isWithdrawn) with
    | none => none
    | some withdrawn => some (add (service.localRecords.eraseIdx withdrawn))
  else some (add service.localRecords)

/-- `ClearLocalState`: the record is withdrawn, which is a change of its own. -/
def clearLocalState (stateType : UInt8) : CdmpStateService :=
  match service.findLocalRecord stateType with
  | none => service
  | some index =>
    match service.localRecords[index]? with
    | none => service
    | some record =>
      if record.isWithdrawn then service
      else
        { service with
          localRecords := service.localRecords.set index
            { record with isWithdrawn := true, data := .empty } }.stampChange parameters index

/-- `SetLocalState`, and whether it was possible; empty data withdraws the record. -/
def setLocalState (stateType : UInt8) (data : List UInt8) : CdmpStateService × Bool :=
  if data.isEmpty then (service.clearLocalState parameters stateType, stateType ≠ 0)
  else if stateType = 0 then (service, false)
  else
    match CdmpStateData.ofBytes? data with
    | none => (service, false)
    | some data =>
      let change (records : List LocalRecord) (index : ℕ) :=
        ({ service with
            localRecords := records.modify index
              ({ · with isWithdrawn := false, data }) }.stampChange parameters index, true)
      match service.findLocalRecord stateType with
      | some index =>
        -- The same data again is no change and gets no version.
        if service.localRecords[index]?.any
            fun record => !record.isWithdrawn && record.data = data then (service, true)
        else change service.localRecords index
      | none =>
        match service.addLocalRecord parameters stateType with
        | none => (service, false)
        | some (records, index) => change records index

/-- Withdrawn records that everybody has acknowledged are dropped. -/
def freeAcknowledgedWithdrawals : CdmpStateService :=
  { service with
    localRecords := service.localRecords.filter fun record => !record.isAcknowledgedWithdrawal }

/-- `RemoveFromAcknowledgementSets`: the peer is no longer waited for, in one version or in any. -/
def removeFromAcknowledgementSets (peerId : UInt8) (version : Option UInt8) : CdmpStateService :=
  let records := service.localRecords.map (·.acknowledge peerId version)
  { service with localRecords := records }.freeAcknowledgedWithdrawals

/-! ### Copies of other units' records -/

/-- The bounds of the copies of `source`. -/
def sourceRange (source : UInt8) : ℕ × ℕ :=
  (partitionPoint (fun record => record.source < source) service.remoteRecords,
    partitionPoint (fun record => ¬ source < record.source) service.remoteRecords)

/-- The copies of a source. -/
def sourceRecords (source : UInt8) : List RemoteRecord :=
  let (first, last) := service.sourceRange source
  (service.remoteRecords.take last).drop first

/-- The copies of `source` are written through the range that found them. -/
def mapSourceRecords (source : UInt8) (f : RemoteRecord → RemoteRecord) : CdmpStateService :=
  let (first, last) := service.sourceRange source
  { service with
    remoteRecords := service.remoteRecords.take first ++
      ((service.remoteRecords.take last).drop first).map f ++ service.remoteRecords.drop last }

/-- Removes the copies the predicate selects and reports their types to the state handlers. -/
def removeRemoteRecords (predicate : RemoteRecord → Bool) : CdmpStateService :=
  let removed := service.remoteRecords.filter predicate
  if removed.isEmpty then service
  else
    { service with
      remoteRecords := service.remoteRecords.filter (!predicate ·)
      changedTypes := service.changedTypes ∪ (removed.map (·.stateType)).toFinset
      -- A source that did not fit may fit now; its next digest mismatch fills it in.
      sources := service.sources.map ({ · with isOverflowed := false }) }

/-- `FindSourceState`: the slot of a source. -/
def findSourceState (source : UInt8) : Option ℕ :=
  service.sources.findIdx? (·.deviceId = source)

/-- `FindSourceState` with `add`: a free slot, or one that holds no more than an expired rate
limit, is given to a source that has none. -/
def addSourceState (source : UInt8) (now : UInt32) : Option (ℕ × List SourceState) :=
  match service.findSourceState source with
  | some index => some (index, service.sources)
  | none =>
    let free (state : SourceState) : Bool :=
      state.deviceId = deviceIdUnassigned ∨
        !state.isOverflowed ∧
          (!state.hasRequestedSync ∨
            CdmpConstants.stateSyncRequestMinIntervalMs ≤ (now - state.syncRequestedAtMs).toNat)
    match service.sources.findIdx? free with
    | none => none
    | some index => some (index, service.sources.set index { deviceId := source })

/-- `MarkOverflowed`: a record of the source had no room. -/
def markOverflowed (source : UInt8) (now : UInt32) : CdmpStateService :=
  match service.addSourceState source now with
  | none => service
  | some (index, sources) =>
    { service with sources := sources.modify index ({ · with isOverflowed := true }) }

/-- Whether a sync request to `source` is due: at most one per heartbeat of the source. -/
def startSyncRequest (source : UInt8) (now : UInt32) : CdmpStateService × Bool :=
  match service.addSourceState source now with
  | none => (service, false)
  | some (index, sources) =>
    let isEarly := sources[index]?.any fun state => state.hasRequestedSync ∧
      (now - state.syncRequestedAtMs).toNat < CdmpConstants.stateSyncRequestMinIntervalMs
    if isEarly then ({ service with sources }, false)
    else
      ({ service with
          sources := sources.modify index
            ({ · with hasRequestedSync := true, syncRequestedAtMs := now }) }, true)

/-- Where a record of `(source, stateType)` is or belongs, and whether it is there. -/
def findRemoteRecord (source stateType : UInt8) : ℕ × Option RemoteRecord :=
  let index := partitionPoint (fun record => record.isBefore source stateType) service.remoteRecords
  (index, service.remoteRecords[index]?.filter fun record =>
    record.source = source ∧ record.stateType = stateType)

/-- `ApplyRecord`: a newer record replaces the copy, and a new one is added where it fits. -/
def applyRecord (message : CdmpStateChangeMessage) (now : UInt32) : CdmpStateService :=
  let source := message.sourceDeviceId
  match service.findRemoteRecord source message.stateType with
  | (index, some record) =>
    -- A duplicate, or a resend overtaken by a newer change.
    if !record.isStale && !isNewer message.version record.version then service
    else if message.data.isEmpty then
      service.removeRemoteRecords fun record =>
        record.source = source ∧ record.stateType = message.stateType
    else
      { service with
        changedTypes :=
          if record.data ≠ message.data then insert message.stateType service.changedTypes
          else service.changedTypes
        remoteRecords := service.remoteRecords.set index
          { record with version := message.version, data := message.data, isStale := false } }
  | (index, none) =>
    if message.data.isEmpty then service
    else if service.remoteRecords.length = parameters.maxRemoteRecords then
      service.markOverflowed source now
    else
      { service with
        changedTypes := insert message.stateType service.changedTypes
        remoteRecords := insertAt service.remoteRecords index
          { source, stateType := message.stateType, version := message.version,
            data := message.data } }

/-- `DropSource`: the copies of a source go, with all that was kept of it. -/
def dropSource (source : UInt8) : CdmpStateService :=
  let service := service.removeRemoteRecords fun record => record.source = source
  let service := service.removeFromAcknowledgementSets source none
  match service.findSourceState source with
  | none => service
  | some index => { service with sources := service.sources.set index {} }

/-- Drops every copy and stops retransmitting; this unit's records stay. -/
def forgetNetwork : CdmpStateService :=
  let service := service.removeRemoteRecords fun _ => true
  { service with
    sources := List.replicate parameters.maxRemoteRecords {}
    isAnnounceAllPending := false
    localRecords := service.localRecords.map ({ · with unacknowledged := [] }) }

/-! ### Handlers and tasks -/

/-- `OnDeviceStatusChanged`: going ONLINE announces the records, leaving it forgets the network. -/
def onDeviceStatusChanged (change : CdmpStatusChange) : CdmpStateService :=
  if change.newStatus = .online then { service with isAnnounceAllPending := true }
  else if change.oldStatus = .online then service.forgetNetwork parameters
  else service

/-- `OnDeviceEvent`: a restart makes copies stale, and LEFT drops them. -/
def onDeviceEvent (event : CdmpDeviceEvent) (device : CdmpDeviceInfo) : CdmpStateService :=
  match event with
  -- Its version counter started again, so a lower version is not an older record.
  | .restarted => service.mapSourceRecords device.deviceId ({ · with isStale := true })
  | .left => service.dropSource device.deviceId
  | .joined => service

/-- The copies of the source against its digest; the result says whether a sync request is sent. -/
def onHeartbeat (device : CdmpDevice) (heartbeat : CdmpHeartbeatMessage) (now : UInt32) :
    CdmpStateService × Bool :=
  let source := heartbeat.deviceId
  let isOverflowed := (service.findSourceState source).any fun index =>
    service.sources[index]?.any (·.isOverflowed)
  if !device.isOnline || isOverflowed then (service, false)
  else
    let records := service.sourceRecords source
    let fresh := records.filter (!·.isStale)
    if remoteDigest parameters records = heartbeat.stateDigest then
      (service.mapSourceRecords source ({ · with isStale := false }), false)
    else if records.any (·.isStale) && remoteDigest parameters fresh = heartbeat.stateDigest then
      -- The replay brought back every record the source still has; it withdrew the others.
      (service.removeRemoteRecords fun record => record.source = source ∧ record.isStale, false)
    else
      (service.mapSourceRecords source ({ · with isStale := true })).startSyncRequest source now

/-- `ProcessStateChangeFrame`: a record of an ONLINE device is applied, and answered. -/
def processStateChangeFrame (device : CdmpDevice) (isDeviceOnline : UInt8 → Bool)
    (frame : List UInt8) (now : UInt32) :
    CdmpStateService × Option CdmpStateChangeResponseMessage :=
  if !device.isOnline then (service, none)
  else
    match CdmpStateChangeMessage.tryFromCanFrame frame with
    | .ok (some message) =>
      if message.stateType = 0 then ({ service with rxDropped := service.rxDropped + 1 }, none)
      -- Only a loopback controller hands a unit its own frames.
      else if message.sourceDeviceId = device.deviceId then (service, none)
      else if !isDeviceOnline message.sourceDeviceId then (service, none)
      else
        (service.applyRecord parameters message now,
          some
            { respondingDeviceId := device.deviceId, sourceDeviceId := message.sourceDeviceId,
              version := message.version, resultCode := .success })
    | _ => ({ service with rxDropped := service.rxDropped + 1 }, none)

/-- `ProcessStateChangeResponseFrame`: the answer counts for the own record of its version. -/
def processStateChangeResponseFrame (device : CdmpDevice) (frame : List UInt8) :
    CdmpStateService :=
  if !device.isOnline then service
  else
    match CdmpStateChangeResponseMessage.tryFromCanFrame frame with
    | .ok (some response) =>
      if response.respondingDeviceId = device.deviceId ∨
          response.sourceDeviceId ≠ device.deviceId then service
      else
        service.removeFromAcknowledgementSets response.respondingDeviceId (some response.version)
    | _ => { service with rxDropped := service.rxDropped + 1 }

/-- The notifications sent, and whether a broadcast sync request follows them. -/
def transmit (device : CdmpDevice) (peers : CdmpStatePeers) (now : ℤ) :
    CdmpStateService × List CdmpStateChangeMessage × Bool :=
  if !service.isStarted || !device.isOnline then (service, [], false)
  else
    let announced :=
      if service.isAnnounceAllPending then
        service.localRecords.map ({ · with isAnnouncePending := true })
      else service.localRecords
    let sent := announced.map (·.transmit peers now)
    let records := sent.map (·.1)
    ({ service with isAnnounceAllPending := false, localRecords := records
        }.freeAcknowledgedWithdrawals,
      (sent.filter (·.2)).map fun (record, _) => record.notification device,
      service.isAnnounceAllPending)

/-- The records sent, or nothing when the service is stopped or not ONLINE. -/
def replayRecords (device : CdmpDevice) : Option (List CdmpStateChangeMessage) :=
  if !service.isStarted || !device.isOnline then none
  else some ((service.localRecords.filter (!·.isWithdrawn)).map (·.notification device))

/-- The changed types are taken, and the handlers registered for them are called. -/
def notifyStateHandlers : CdmpStateService × Finset UInt8 :=
  ({ service with changedTypes := ∅ }, service.changedTypes)

/-- `DoStart`: the service starts, and announces its records if the unit is ONLINE. -/
def doStart (device : CdmpDevice) : CdmpStateService :=
  { service with
    isStarted := true
    -- Already ONLINE, so the transition that announces the records has passed.
    isAnnounceAllPending := service.isAnnounceAllPending || device.isOnline }

/-- `DoStop`: the service stops and forgets the network. -/
def doStop : CdmpStateService :=
  { service with isStarted := false }.forgetNetwork parameters

end CdmpStateService

/-! ### Runs -/

/-- An operation of the service, with everything it is given: what the device and the device
table say at that moment, the peers, the time. -/
inductive StateLabel
  | setLocalState (stateType : UInt8) (data : List UInt8)
  | clearLocalState (stateType : UInt8)
  | stateChangeFrame (device : CdmpDevice) (isDeviceOnline : UInt8 → Bool) (frame : List UInt8)
      (now : UInt32)
  | stateChangeResponseFrame (device : CdmpDevice) (frame : List UInt8)
  | heartbeat (device : CdmpDevice) (heartbeat : CdmpHeartbeatMessage) (now : UInt32)
  | deviceEvent (event : CdmpDeviceEvent) (device : CdmpDeviceInfo)
  | deviceStatusChanged (change : CdmpStatusChange)
  | transmit (device : CdmpDevice) (peers : CdmpStatePeers) (now : ℤ)
  | notifyStateHandlers
  | start (device : CdmpDevice)
  | stop

namespace CdmpStateService

/-- One step of the service. -/
def step (parameters : CdmpStateParameters) (service : CdmpStateService) :
    StateLabel → CdmpStateService
  | .setLocalState stateType data => (service.setLocalState parameters stateType data).1
  | .clearLocalState stateType => service.clearLocalState parameters stateType
  | .stateChangeFrame device isDeviceOnline frame now =>
    (service.processStateChangeFrame parameters device isDeviceOnline frame now).1
  | .stateChangeResponseFrame device frame => service.processStateChangeResponseFrame device frame
  | .heartbeat device heartbeat now => (service.onHeartbeat parameters device heartbeat now).1
  | .deviceEvent event device => service.onDeviceEvent event device
  | .deviceStatusChanged change => service.onDeviceStatusChanged parameters change
  | .transmit device peers now => (service.transmit device peers now).1
  | .notifyStateHandlers => service.notifyStateHandlers.1
  | .start device => service.doStart device
  | .stop => service.doStop parameters

end CdmpStateService

end RtCore.Cdmp
