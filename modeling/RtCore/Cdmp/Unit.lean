import RtCore.Foundation.Run
import RtCore.Cdmp.NetworkService
import RtCore.Cdmp.StateService
import RtCore.Cdmp.Transactions

/-!
# A unit

`CdmpUnit` puts the services of a unit together: network, heartbeats, commands and shared
state, which share the unit's device, its CAN bus and one work queue. What the network
service reports reaches the others in the order it reports it.

The frames of the management, heartbeat and command CAN IDs become work of the queue. State
frames wait in a queue of their own; here their handler runs at any time.

## Main definitions

* `CdmpUnit`, `UnitWork` — the services and the work queue
* `CdmpUnit.applyEffects` — what the other services do with the effects of the network
* `CdmpUnit.dispatch` — a received payload handed to the handler of its CAN ID
* `UnitLabel`, `CdmpUnit.step` — the steps of a unit
-/

namespace RtCore.Cdmp

/-- The CAN IDs of the protocol, Base + 0 to Base + 5. -/
inductive CdmpCanId
  | management
  | heartbeat
  | commandRequest
  | commandResponse
  | stateChangeRequest
  | stateChangeResponse
deriving DecidableEq, Repr

/-- What a command handler answers. -/
structure CdmpCommandResult where
  resultCode : CdmpResultCode
  data : List UInt8
deriving DecidableEq, Repr

/-- The build configuration, and the command handlers of the application. -/
structure CdmpUnitParameters where
  state : CdmpStateParameters
  transactionTimeoutMs : Int32
  commandHandler : UInt8 → Option (UInt8 → List UInt8 → CdmpCommandResult)

/-- `CdmpHeartbeatService`: whether heartbeats are sent, and their number. -/
structure CdmpHeartbeatService where
  isRunning : Bool := false
  heartbeatEnabled : Bool := true
  isHeartbeatTaskRunning : Bool := false
  heartbeatSequenceNumber : UInt8 := 0
deriving DecidableEq, Repr

/-- A piece of work in the queue. -/
inductive UnitWork
  /-- Dropped when the network service has been stopped since. -/
  | network (session : ℕ) (work : NetworkWork)
  | heartbeat (message : CdmpHeartbeatMessage)
  | commandRequest (command : CdmpCommandRequestMessage)
  | commandResponse (response : CdmpCommandResponseMessage)
deriving DecidableEq, Repr

/-- `CdmpUnit`: one device with its services and the work that is queued for them. -/
structure CdmpUnit where
  /-- `CdmpService` was started and not stopped since. -/
  isStarted : Bool := false
  network : CdmpNetworkService
  heartbeat : CdmpHeartbeatService := {}
  isCommandRunning : Bool := false
  transactions : CdmpTransactionService ℕ := {}
  state : CdmpStateService
  workQueue : List UnitWork := []

/-- What leaves the unit, and the device events its services were told. -/
inductive UnitOutput
  | frame (canId : CdmpCanId) (data : List UInt8)
  | deviceEvent (event : CdmpDeviceEvent) (deviceId : UInt8)
deriving DecidableEq, Repr

namespace CdmpHeartbeatService

variable (service : CdmpHeartbeatService)

/-- The heartbeat task starts on an ONLINE unit, unless it runs or is switched off. -/
def startHeartbeatTask (device : CdmpDevice) : CdmpHeartbeatService :=
  if service.heartbeatEnabled && !service.isHeartbeatTaskRunning && device.status = .online then
    { service with isHeartbeatTaskRunning := true }
  else service

/-- `Start`: the heartbeats of a unit that is ONLINE already start at once. -/
def start (device : CdmpDevice) : CdmpHeartbeatService :=
  if service.isRunning then service
  else { service.startHeartbeatTask device with isRunning := true }

/-- `Stop`: no more heartbeats. -/
def stop : CdmpHeartbeatService :=
  { service with isRunning := false, isHeartbeatTaskRunning := false }

/-- `OnDeviceStatusChanged`: heartbeats start with ONLINE and end with a status that has none. -/
def onDeviceStatusChanged (device : CdmpDevice) (newStatus : CdmpDeviceStatus) :
    CdmpHeartbeatService :=
  match newStatus with
  | .online => service.startHeartbeatTask device
  | .offline => service.stop
  | .versionMismatch => service.stop
  | .error => service.stop
  | .init => service
  | .claiming => service

end CdmpHeartbeatService

namespace CdmpUnit

variable (parameters : CdmpUnitParameters) (unit : CdmpUnit)

/-- A unit that was never started. -/
def initial (device : CdmpDevice) : CdmpUnit where
  network := { device }
  state := .initial parameters.state

/-- `CdmpService::CdmpService`, for a UID that the device accepts. -/
def create (uid : { uid : UInt32 // uid ≠ 0 }) (features : UInt16) (now : ℕ) : CdmpUnit :=
  initial parameters
    { uid := uid.1, uid_ne_zero := uid.2, features, lastHeartbeat := UInt64.ofNat now }

/-- Sends a frame, unless the bus is not valid. -/
def sendFrame (canId : CdmpCanId) (data : List UInt8) : List UnitOutput :=
  if unit.network.isCanbusValid then [.frame canId data] else []

/-! ### Commands -/

/-- `SendCommand`: a transaction starts and its request is sent. -/
def sendCommand (targetDeviceId commandCode : UInt8) (data : List UInt8) (callback : Option ℕ)
    (now : ℕ) : CdmpUnit × List UnitOutput :=
  if !unit.network.isCanbusValid || commandCode = 0 then (unit, [])
  else
    -- The transaction is pending before the request is on the bus.
    let (transactionId, transactions) := unit.transactions.startTransaction (UInt64.ofNat now)
      targetDeviceId commandCode parameters.transactionTimeoutMs callback
    ({ unit with transactions },
      [.frame .commandRequest (CdmpCommandRequestMessage.toCanFrame
        { targetDeviceId, commandCode, transactionId, data })])

/-- `IsValidServiceCommandCode`: a command of the service itself. -/
def isValidServiceCommandCode (commandCode : UInt8) : Bool :=
  commandCode = CdmpServiceCommandCode.statusRequest ∨
    commandCode = CdmpServiceCommandCode.resetDevice ∨
    commandCode = CdmpServiceCommandCode.stateSyncRequest

/-- `IsValidUserCommandCode`: a command that handlers are registered for. -/
def isValidUserCommandCode (commandCode : UInt8) : Bool :=
  CdmpConstants.userCommandCodeMin ≤ commandCode

/-- The handler's answer to a command, if there is a handler. -/
def notifyCommandHandler (command : CdmpCommandRequestMessage) : Option CdmpCommandResult :=
  (parameters.commandHandler command.commandCode).map fun handler =>
    handler command.transactionId command.data

/-- `SendCommandResponse`: the answer of this unit. -/
def sendCommandResponse (command : CdmpCommandRequestMessage) (result : CdmpCommandResult) :
    List UnitOutput :=
  unit.sendFrame .commandResponse (CdmpCommandResponseMessage.toCanFrame
    { sourceDeviceId := unit.network.device.deviceId, commandCode := command.commandCode,
      transactionId := command.transactionId, resultCode := result.resultCode,
      data := result.data })

/-- Sends changes of state records. -/
def sendNotifications (messages : List CdmpStateChangeMessage) : List UnitOutput :=
  messages.flatMap fun message => unit.sendFrame .stateChangeRequest message.toCanFrame

/-- The handler of the one service command that has one. A broadcast is answered by the replay
task, and by no response. -/
def processSyncRequest (command : CdmpCommandRequestMessage) : List UnitOutput :=
  if command.targetDeviceId = deviceIdBroadcast then []
  else
    match unit.state.replayRecords unit.network.device with
    | none => []
    | some messages =>
      unit.sendNotifications messages ++
        if command.targetDeviceId = unit.network.device.deviceId then
          unit.sendCommandResponse command ⟨.success, [UInt8.ofNat messages.length]⟩
        else []

/-- `ProcessServiceRequest`: the service's own commands. -/
def processServiceRequest (command : CdmpCommandRequestMessage) : List UnitOutput :=
  let device := unit.network.device
  -- A status request is answered even when the unit is not online.
  if command.commandCode = CdmpServiceCommandCode.statusRequest then
    unit.sendCommandResponse command
      ⟨.success, [device.status.toUnderlying, device.protocolVersion,
        device.healthStatus.toUnderlying]⟩
  else if device.status = .online ∧ command.commandCode = CdmpServiceCommandCode.stateSyncRequest
  then unit.processSyncRequest command
  else []

/-- `ProcessRequest`: commands to this unit or to all are carried out. -/
def processRequest (command : CdmpCommandRequestMessage) : List UnitOutput :=
  let device := unit.network.device
  if command.targetDeviceId ≠ device.deviceId ∧ command.targetDeviceId ≠ deviceIdBroadcast then []
  else if isValidServiceCommandCode command.commandCode then unit.processServiceRequest command
  else if device.status ≠ .online ∨ !isValidUserCommandCode command.commandCode then []
  else
    match notifyCommandHandler parameters command with
    | some result => unit.sendCommandResponse command result
    | none =>
      if command.targetDeviceId = device.deviceId then
        unit.sendCommandResponse command ⟨.unsupportedCommand, []⟩
      else []

/-! ### What the other services are told -/

/-- The handlers of the heartbeat, command and state services. -/
def onDeviceStatusChanged (change : CdmpStatusChange) : CdmpUnit :=
  { unit with
    heartbeat := unit.heartbeat.onDeviceStatusChanged unit.network.device change.newStatus
    -- Leaving ONLINE cancels what is pending.
    transactions := if change.newStatus = .online then unit.transactions.start
      else unit.transactions.stop.1
    state := unit.state.onDeviceStatusChanged parameters.state change }

/-- A heartbeat reaches the state service, which may ask its sender for all records. -/
def onHeartbeat (message : CdmpHeartbeatMessage) (now : ℕ) : CdmpUnit × List UnitOutput :=
  let (state, requestSync) := unit.state.onHeartbeat parameters.state unit.network.device message
    (UInt32.ofNat now)
  let unit := { unit with state }
  -- The copies of this device are not what it announces: ask it for all of them.
  if requestSync then
    unit.sendCommand parameters message.deviceId CdmpServiceCommandCode.stateSyncRequest [] none now
  else (unit, [])

/-- What an effect of the network service does to the other services. -/
def applyEffect (now : ℕ) (effect : NetworkEffect) : CdmpUnit × List UnitOutput :=
  match effect with
  | .sendFrame frame => (unit, [.frame .management frame])
  | .runInSession session work =>
    ({ unit with workQueue := unit.workQueue ++ [.network session work] }, [])
  | .statusChanged change => (unit.onDeviceStatusChanged parameters change, [])
  | .deviceEvent event device =>
    ({ unit with state := unit.state.onDeviceEvent event device },
      [.deviceEvent event device.deviceId])
  | .heartbeat message => unit.onHeartbeat parameters message now

/-- Effects one after the other. -/
def applyEffects (now : ℕ) : CdmpUnit → List NetworkEffect → CdmpUnit × List UnitOutput
  | unit, [] => (unit, [])
  | unit, effect :: effects =>
    let (unit, first) := unit.applyEffect parameters now effect
    let (unit, later) := applyEffects now unit effects
    (unit, first ++ later)

/-- A step of the network service, and what the other services make of it. -/
def runNetwork (now : ℕ) (result : CdmpNetworkService × List NetworkEffect) :
    CdmpUnit × List UnitOutput :=
  applyEffects parameters now { unit with network := result.1 } result.2

/-! ### Work, tasks and the application -/

/-- A response reaches the transactions. -/
def processCommandResponse (response : CdmpCommandResponseMessage) : CdmpUnit :=
  { unit with transactions := (unit.transactions.completeTransaction response).1 }

/-- Runs one piece of the unit's queued work. -/
def runUnitWork (work : UnitWork) (now : ℕ) : CdmpUnit × List UnitOutput :=
  match work with
  | .network session work =>
    -- Work of a session that is over is dropped.
    if unit.network.session = session then
      unit.runNetwork parameters now (unit.network.runWork work now)
    else (unit, [])
  | .heartbeat message =>
    unit.runNetwork parameters now (unit.network.updateDeviceFromHeartbeat message now)
  | .commandRequest command => (unit, unit.processRequest parameters command)
  | .commandResponse response => (unit.processCommandResponse response, [])

/-- The first piece of work in the queue. -/
def runWork (now : ℕ) : CdmpUnit × List UnitOutput :=
  match unit.workQueue with
  | [] => (unit, [])
  | work :: workQueue => { unit with workQueue }.runUnitWork parameters work now

/-- `QueueFrame` and its handler: a frame longer than a classic one is dropped. -/
def processStateFrame (isResponse : Bool) (frame : List UInt8) (now : ℕ) :
    CdmpUnit × List UnitOutput :=
  if 8 < frame.length then
    ({ unit with state := { unit.state with rxDropped := unit.state.rxDropped + 1 } }, [])
  else if isResponse then
    ({ unit with
        state := unit.state.processStateChangeResponseFrame unit.network.device frame }, [])
  else
    let (state, response) := unit.state.processStateChangeFrame parameters.state
      unit.network.device unit.network.isDeviceOnline frame (UInt32.ofNat now)
    ({ unit with state },
      response.toList.flatMap fun response =>
        unit.sendFrame .stateChangeResponse response.toCanFrame)

/-- `ProcessPeriodicHeartbeat`: a heartbeat with the next number. -/
def processPeriodicHeartbeat : CdmpUnit × List UnitOutput :=
  if unit.heartbeat.isHeartbeatTaskRunning && unit.heartbeat.heartbeatEnabled &&
      unit.network.isCanbusValid then
    ({ unit with
        heartbeat :=
          { unit.heartbeat with
            heartbeatSequenceNumber := unit.heartbeat.heartbeatSequenceNumber + 1 } },
      [.frame .heartbeat (CdmpHeartbeatMessage.toCanFrame
        { deviceId := unit.network.device.deviceId,
          healthStatus := unit.network.device.healthStatus,
          sequenceNumber := unit.heartbeat.heartbeatSequenceNumber,
          features := unit.network.device.features, stateDigest := unit.state.stateDigest })])
  else (unit, [])

theorem length_getNetworkDevices_le (service : CdmpNetworkService) (capacity : ℕ) :
    (service.getNetworkDevices capacity).length ≤ capacity := by
  simp [CdmpNetworkService.getNetworkDevices]

theorem nodup_getNetworkDevices (service : CdmpNetworkService) (capacity : ℕ) :
    ((service.getNetworkDevices capacity).map (·.deviceId)).Nodup := by
  rw [CdmpNetworkService.getNetworkDevices, ((List.mergeSort_perm _ _).map _).nodup_iff,
    List.map_map]
  have distinct : (service.iterated.map (·.deviceId)).Nodup :=
    ((CdmpDeviceTable.perm_inOrder _).map _).nodup_iff.mpr service.networkDevices.nodup
  exact distinct.sublist ((List.take_sublist ..).map _)

/-- The peers of one transmission. -/
def statePeers : CdmpStatePeers where
  devices := unit.network.getNetworkDevices CdmpConstants.stateAckPeersMax
  length_le := length_getNetworkDevices_le ..
  nodup := nodup_getNetworkDevices ..

/-- A pass of the transmit task: changes that are due, and sync requests. -/
def transmit (now : ℕ) : CdmpUnit × List UnitOutput :=
  let (state, messages, requestSync) :=
    unit.state.transmit unit.network.device unit.statePeers now
  let unit := { unit with state }
  -- After going ONLINE every device is asked for its records, once.
  let notifications := unit.sendNotifications messages
  if requestSync then
    let (unit, request) := unit.sendCommand parameters deviceIdBroadcast
      CdmpServiceCommandCode.stateSyncRequest [] none now
    (unit, notifications ++ request)
  else (unit, notifications)

/-- `CdmpService::ThreadEntry`: the services start, then discovery. -/
def threadEntry (now : ℕ) : CdmpUnit × List UnitOutput :=
  let started :=
    { unit with
      isStarted := true
      network := unit.network.start
      heartbeat := unit.heartbeat.start unit.network.device
      isCommandRunning := true
      state := if unit.state.isStarted then unit.state
        else unit.state.doStart unit.network.device }
  -- Entering INIT queues the discovery.
  started.runNetwork parameters now (started.network.transition (·.startDiscovery))

/-- `CdmpService::DoStop`: the services stop, then the device is reset. -/
def doStop (now : ℕ) : CdmpUnit × List UnitOutput :=
  let stopped :=
    { unit with
      isStarted := false
      network := unit.network.stop
      heartbeat := unit.heartbeat.stop
      isCommandRunning := false
      state := if unit.state.isStarted then unit.state.doStop parameters.state else unit.state }
  stopped.runNetwork parameters now (stopped.network.transition (·.reset))

/-- `Start`, which does nothing while the unit is started. -/
def start (now : ℕ) : CdmpUnit × List UnitOutput :=
  if unit.isStarted then (unit, []) else unit.threadEntry parameters now

/-- `Stop`, which does nothing while the unit is stopped. -/
def stop (now : ℕ) : CdmpUnit × List UnitOutput :=
  if unit.isStarted then unit.doStop parameters now else (unit, [])

/-- A message that came in on one of the first four CAN IDs waits in the queue while the handler
of the CAN ID is registered. -/
def receive (work : UnitWork) : CdmpUnit :=
  let isRegistered :=
    match work with
    | .network _ _ => unit.network.isRunning
    | .heartbeat _ => unit.heartbeat.isRunning
    | .commandRequest _ => unit.isCommandRunning
    | .commandResponse _ => unit.isCommandRunning
  if isRegistered then { unit with workQueue := unit.workQueue ++ [work] } else unit

/-- A management frame is queued for the network service. -/
def receiveManagement (message : CdmpManagementMessage) : CdmpUnit :=
  unit.receive (.network unit.network.session (.processMessage message))

/-! ### Payloads -/

/-- A decoder that throws has its exception caught and logged; a read outside the payload is
passed on. -/
def catchDecodeError (handled : Except DecodeError (CdmpUnit × List UnitOutput)) :
    Except DecodeError (CdmpUnit × List UnitOutput) :=
  match handled with
  | .error (.invalidArgument _) => .ok (unit, [])
  | handled => handled

/-- The reads of a state frame handler, which decodes nothing while the unit is not online. -/
def readStateFrame (isResponse : Bool) (payload : List UInt8) : Except DecodeError Unit :=
  if 8 < payload.length || !unit.network.device.isOnline then .ok ()
  else if isResponse then do
    let _ ← CdmpStateChangeResponseMessage.tryFromCanFrame payload
    return ()
  else do
    let _ ← CdmpStateChangeMessage.tryFromCanFrame payload
    return ()

/-- The handler of the CAN ID, run on a payload as it was received. -/
def dispatch (canId : CdmpCanId) (payload : List UInt8) (now : ℕ) :
    Except DecodeError (CdmpUnit × List UnitOutput) :=
  match canId with
  | .management => unit.catchDecodeError do
    return unit.runNetwork parameters now (← unit.network.processFrame payload now)
  | .heartbeat => unit.catchDecodeError do
    let message ← CdmpHeartbeatMessage.fromCanFrame payload
    return unit.runUnitWork parameters (.heartbeat message) now
  | .commandRequest => unit.catchDecodeError do
    let command ← CdmpCommandRequestMessage.fromCanFrame payload
    return unit.runUnitWork parameters (.commandRequest command) now
  | .commandResponse => unit.catchDecodeError do
    let response ← CdmpCommandResponseMessage.fromCanFrame payload
    return unit.runUnitWork parameters (.commandResponse response) now
  | .stateChangeRequest => do
    unit.readStateFrame false payload
    return unit.processStateFrame parameters false payload now
  | .stateChangeResponse => do
    unit.readStateFrame true payload
    return unit.processStateFrame parameters true payload now

end CdmpUnit

/-! ### Steps -/

/-- A step of a unit, with the uptime it happens at where it matters. -/
inductive UnitLabel
  | receiveManagement (message : CdmpManagementMessage)
  | receiveHeartbeat (message : CdmpHeartbeatMessage)
  | receiveCommandRequest (command : CdmpCommandRequestMessage)
  | receiveCommandResponse (response : CdmpCommandResponseMessage)
  | stateFrame (isResponse : Bool) (frame : List UInt8) (now : ℕ)
  | runWork (now : ℕ)
  | discoveryTask (now : ℕ)
  | idClaimTask (now : ℕ)
  | validationTask (now : ℕ)
  | heartbeatTask
  | transmitTask (now : ℕ)
  | replayTask
  | notifyTask
  | expireTransaction (first : UInt8) (now : ℕ)
  | setLocalState (stateType : UInt8) (data : List UInt8)
  | clearLocalState (stateType : UInt8)
  | sendCommand (targetDeviceId commandCode : UInt8) (data : List UInt8) (callback : Option ℕ)
      (now : ℕ)
  | start (now : ℕ)
  | stop (now : ℕ)
  | canbus (isValid : Bool)
  | iterate (order : List UInt8)

namespace CdmpUnit

/-- One step of the unit, with what it sends and reports. -/
def step (parameters : CdmpUnitParameters) (unit : CdmpUnit) :
    UnitLabel → CdmpUnit × List UnitOutput
  | .receiveManagement message => (unit.receiveManagement message, [])
  | .receiveHeartbeat message => (unit.receive (.heartbeat message), [])
  | .receiveCommandRequest command => (unit.receive (.commandRequest command), [])
  | .receiveCommandResponse response => (unit.receive (.commandResponse response), [])
  | .stateFrame isResponse frame now => unit.processStateFrame parameters isResponse frame now
  | .runWork now => unit.runWork parameters now
  | .discoveryTask now => unit.runNetwork parameters now (unit.network.step .discoveryTask)
  | .idClaimTask now => unit.runNetwork parameters now (unit.network.step (.idClaimTask now))
  | .validationTask now => unit.runNetwork parameters now (unit.network.step (.validationTask now))
  | .heartbeatTask => unit.processPeriodicHeartbeat
  | .transmitTask now => unit.transmit parameters now
  | .replayTask =>
    (unit, unit.sendNotifications ((unit.state.replayRecords unit.network.device).getD []))
  | .notifyTask => ({ unit with state := unit.state.notifyStateHandlers.1 }, [])
  | .expireTransaction first now =>
    ({ unit with
        transactions := (unit.transactions.expireTransaction (UInt64.ofNat now) first).1 }, [])
  | .setLocalState stateType data =>
    ({ unit with state := (unit.state.setLocalState parameters.state stateType data).1 }, [])
  | .clearLocalState stateType =>
    ({ unit with state := unit.state.clearLocalState parameters.state stateType }, [])
  | .sendCommand targetDeviceId commandCode data callback now =>
    unit.sendCommand parameters targetDeviceId commandCode data callback now
  | .start now => unit.start parameters now
  | .stop now => unit.stop parameters now
  | .canbus isValid =>
    ({ unit with network := { unit.network with isCanbusValid := isValid } }, [])
  | .iterate order => ({ unit with network := unit.network.iterate order }, [])

end CdmpUnit

end RtCore.Cdmp
