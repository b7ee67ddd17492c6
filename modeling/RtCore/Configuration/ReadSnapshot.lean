import Mathlib.Logic.Function.Basic
import RtCore.Configuration.ConfigMgmtGroup

/-!
# Configuration downloads

The SMP `config` group hands a configuration out in chunks. A READ at offset 0 has a job of the
configuration work queue take a snapshot of what is stored, and announces its length and CRC; a
later chunk comes from the snapshot there is, which is known by its type alone. There is one
snapshot for all clients. It is released behind its last byte, and by the idle task after it was
left alone.

As for uploads, one request is handled at a time and a step of the model is one critical section.
What is stored may change between any two steps, by an upload or on the unit. The response has
whatever room it has, and its answer may get lost.

## Main definitions

* `ReadRequest`, `ReadAnswer` — what a client asks for and what it is told
* `ReadStep` — where `HandleRead` is
* `ConfigMgmtReads.step` — one step of anybody
-/

namespace RtCore.Configuration

/-- The keys of a READ request. -/
structure ReadRequest where
  type : UInt32
  offset : UInt32
deriving DecidableEq, Repr

/-- The type that a request of a known type is for. -/
def ReadRequest.configType (request : ReadRequest) : UInt8 := request.type.toUInt8

/-- A request of a client, and whether the client gets its answer. -/
structure ReadCall where
  client : ℕ
  request : ReadRequest
  isReceived : Bool
deriving DecidableEq, Repr

/-- What a READ is answered with. -/
inductive ReadAnswer
  | fail (error : ConfigError)
  /-- `MGMT_ERR_EMSGSIZE`. -/
  | messageSize
  /-- The length and the CRC are announced with the first chunk. -/
  | chunk (offset : UInt32) (announced : Option (UInt32 × UInt32)) (data : List UInt8)
deriving DecidableEq, Repr

/-- The snapshot that chunks are served from. -/
structure ReadSnapshot where
  type : UInt8 := 1
  isValid : Bool := false
  crc : UInt32 := 0
  data : List UInt8 := []
  lastActivityMs : ℕ := 0
deriving DecidableEq, Repr

/-- What the clients see. -/
inductive ReadEvent
  /-- A request that does not decode or misses a key gets `MGMT_ERR_EINVAL`. -/
  | refused (client : ℕ)
  /-- An answer, and the bytes of the snapshot it was made from. -/
  | answered (call : ReadCall) (answer : ReadAnswer) (snapshot : List UInt8)
deriving DecidableEq, Repr

/-- What the handler does next. -/
inductive ReadStep
  | idle
  /-- The SNAPSHOT job reads what is stored. -/
  | fetch (call : ReadCall)
  /-- The job has read it and takes the lock. -/
  | snapshot (call : ReadCall) (data : List UInt8)
  | respond (call : ReadCall)
deriving DecidableEq, Repr

/-- What the group is configured with. -/
structure ReadConfig where
  isRegistered : UInt8 → Bool
  crc32 : List UInt8 → UInt32
  sessionTimeoutMs : ℕ
  /-- `Initialize` created the tasks. -/
  hasTasks : Bool := true

/-- The read side of a `ConfigMgmtGroup`. -/
structure ConfigMgmtReads where
  clock : ℕ
  /-- What `GetCborConfiguration` gives for a type. -/
  stored : UInt8 → List UInt8
  snapshot : ReadSnapshot := {}
  handler : ReadStep := .idle
  /-- The newest event is first. -/
  log : List ReadEvent := []

/-- What can happen to a download. -/
inductive ReadLabel
  | advance (milliseconds : ℕ)
  /-- A configuration is applied, or changes locally. -/
  | store (type : UInt8) (data : List UInt8)
  | request (client : ℕ) (request : Option ReadRequest) (isReceived : Bool)
  /-- With the error of what `GetCborConfiguration` throws. -/
  | fetch (thrown : Option ConfigError)
  | snapshot
  /-- With the room of the response, and whether its keys could be encoded. -/
  | respond (available : ℕ) (encodes : Bool)
  | processIdle
deriving DecidableEq

/-- Room kept in a read response for the keys around the data. -/
def readResponseOverhead : ℕ := 48

namespace ConfigMgmtReads

variable (config : ReadConfig) (group : ConfigMgmtReads)

/-- `ReleaseSnapshotLocked`. -/
def releaseSnapshotLocked : ConfigMgmtReads :=
  { group with snapshot := { group.snapshot with isValid := false, data := [] } }

/-- The request is answered. -/
def answer (call : ReadCall) (answer : ReadAnswer) : ConfigMgmtReads :=
  { group with
    handler := .idle
    log := .answered call answer group.snapshot.data :: group.log }

/-- The type is registered. -/
def isKnownType (type : UInt32) : Bool := type.toNat ≤ 255 && config.isRegistered type.toUInt8

/-- `HandleRead` up to its job or its critical section. -/
def handleRead (client : ℕ) (request : Option ReadRequest) (isReceived : Bool) : ConfigMgmtReads :=
  match request with
  | none => { group with log := .refused client :: group.log }
  | some request =>
    let call : ReadCall := { client, request, isReceived }
    if !isKnownType config request.type then group.answer call (.fail .unknownType)
    else if request.offset = 0 then { group with handler := .fetch call }
    else { group with handler := .respond call }

/-- The SNAPSHOT job up to its critical section. -/
def fetch (call : ReadCall) (thrown : Option ConfigError) : ConfigMgmtReads :=
  if !config.hasTasks then group.answer call (.fail .unknown)
  else
    match thrown with
    | some error => group.answer call (.fail error)
    | none => { group with handler := .snapshot call (group.stored call.request.configType) }

/-- The critical section of the SNAPSHOT job. -/
def takeSnapshot (call : ReadCall) (data : List UInt8) : ConfigMgmtReads :=
  { group with
    snapshot :=
      { type := call.request.configType
        isValid := true
        crc := config.crc32 data
        data
        lastActivityMs := group.clock }
    handler := .respond call }

/-- How many bytes a response takes. -/
def chunkSize (remaining available : ℕ) : ℕ :=
  if readResponseOverhead < available then min remaining (available - readResponseOverhead) else 0

/-- The snapshot behind a chunk. -/
def afterChunk (last : ℕ) : ConfigMgmtReads :=
  if last = group.snapshot.data.length then group.releaseSnapshotLocked
  else { group with snapshot := { group.snapshot with lastActivityMs := group.clock } }

/-- The answer of a chunk; the keys of a response that is too small are not encoded. -/
def chunkAnswer (offset : UInt32) (size : ℕ) (encodes : Bool) : ReadAnswer :=
  if encodes then
    .chunk offset
      (if offset = 0 then
        some (UInt32.ofNat group.snapshot.data.length, group.snapshot.crc)
      else none)
      ((group.snapshot.data.drop offset.toNat).take size)
  else .messageSize

/-- The critical section of `HandleRead`. -/
def respond (call : ReadCall) (available : ℕ) (encodes : Bool) : ConfigMgmtReads :=
  let snapshot := group.snapshot
  let offset := call.request.offset
  if !snapshot.isValid || snapshot.type ≠ call.request.configType ||
      snapshot.data.length < offset.toNat then
    group.answer call (.fail .badOffset)
  else
    let remaining := snapshot.data.length - offset.toNat
    let size := chunkSize remaining available
    if size = 0 && 0 < remaining then group.answer call .messageSize
    else
      let answered := group.answer call (group.chunkAnswer offset size encodes)
      answered.afterChunk (offset.toNat + size)

/-- `ProcessIdle`, as far as the snapshot goes. -/
def processIdle : ConfigMgmtReads :=
  if group.snapshot.isValid &&
      config.sessionTimeoutMs ≤ group.clock - group.snapshot.lastActivityMs then
    group.releaseSnapshotLocked
  else group

/-- A step that is not due does nothing. -/
def step (group : ConfigMgmtReads) : ReadLabel → ConfigMgmtReads
  | .advance milliseconds => { group with clock := group.clock + milliseconds }
  | .store type data => { group with stored := Function.update group.stored type data }
  | .request client request isReceived =>
    match group.handler with
    | .idle => group.handleRead config client request isReceived
    | _ => group
  | .fetch thrown =>
    match group.handler with
    | .fetch call => group.fetch config call thrown
    | _ => group
  | .snapshot =>
    match group.handler with
    | .snapshot call data => group.takeSnapshot config call data
    | _ => group
  | .respond available encodes =>
    match group.handler with
    | .respond call => group.respond call available encodes
    | _ => group
  | .processIdle => group.processIdle config

end ConfigMgmtReads

end RtCore.Configuration
