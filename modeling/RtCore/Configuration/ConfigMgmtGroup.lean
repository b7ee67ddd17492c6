import RtCore.Foundation.Run

/-!
# Configuration uploads

The SMP `config` group takes a configuration in chunks: the first opens a session, each later one
names the session's token and the next offset, and the last has the received bytes applied. A
request runs on the MCUmgr thread, in part under the lock and in part as jobs of the configuration
work queue for which it waits; the idle task closes a session that was left alone. One request is
handled at a time, and between any two of its critical sections the idle task may run.

A step of the model is one critical section. Beside what the code keeps, the state numbers the
sessions and logs what happened to them.

## Main definitions

* `WriteRequest`, `Answer` — a chunk and what its client is told
* `HandlerStep` — where `HandleWrite` is
* `UploadEvent` — what happens to sessions
* `ConfigMgmtGroup.step` — one step of anybody
-/

namespace RtCore.Configuration

/-- Group error codes. -/
inductive ConfigError
  | ok
  | unknown
  | unknownType
  | tooLarge
  | badOffset
  | badToken
  | busy
  | crcMismatch
  | applyFailed
  | noMemory
deriving DecidableEq, Repr

/-- The keys of a WRITE request; `len`, `crc` and `tok` may be missing. -/
structure WriteRequest where
  type : UInt32
  offset : UInt32
  data : List UInt8
  length : Option UInt32 := none
  crc : Option UInt32 := none
  token : Option UInt32 := none
deriving DecidableEq, Repr

/-- The type that a request of a known type is for. -/
def WriteRequest.configType (request : WriteRequest) : UInt8 := request.type.toUInt8

/-- What an upload request is answered with. -/
inductive Answer
  /-- `MGMT_ERR_EINVAL`. -/
  | invalid
  /-- `Fail`, with a message unless it is empty. -/
  | fail (error : ConfigError) (message : List UInt8)
  /-- BAD_OFFSET with the offset to resume at. -/
  | badOffset (received : ℕ)
  /-- `RespondToWrite`; the token 0 is left out. -/
  | written (received : ℕ) (token : UInt32)
deriving DecidableEq, Repr

/-- The upload that is open. -/
structure WriteSession where
  type : UInt8 := 1
  /-- Zero while no session is open. -/
  token : UInt32 := 0
  crc : UInt32 := 0
  received : ℕ := 0
  data : List UInt8 := []
  lastActivityMs : ℕ := 0
deriving DecidableEq, Repr

/-- What `ApplyCborConfiguration` does. -/
inductive ApplyOutcome
  | applied
  | refused (reason : List UInt8)
  | threwBadAlloc
  | threw (what : List UInt8)
  | threwOther
deriving DecidableEq, Repr

/-! ### Reasons -/

/-- The longest reason a response carries, in bytes. -/
def maxReasonLength : ℕ := 191

/-- How much of a message is kept: the cut is moved back to the start of a character. -/
def reasonLength (message : List UInt8) : ℕ → ℕ
  | 0 => 0
  | length + 1 =>
    if length + 1 < message.length && message.getD (length + 1) 0 &&& 0xC0 = 0x80 then
      reasonLength message length
    else length + 1

/-- The reason as it is kept, cut at its longest. -/
def setReason (message : List UInt8) : List UInt8 :=
  message.take (reasonLength message (min message.length maxReasonLength))

/-- The error of an apply, and the reason it leaves. -/
def ApplyOutcome.result : ApplyOutcome → ConfigError × List UInt8
  | .applied => (.ok, [])
  | .refused reason => (.applyFailed, reason)
  | .threwBadAlloc => (.noMemory, [])
  | .threw what => (.applyFailed, setReason what)
  | .threwOther =>
    (.applyFailed, setReason "The configuration could not be applied".toUTF8.toList)

/-! ### The group -/

/-- What happens to the session of a number. -/
inductive UploadEvent
  | opened (number : ℕ) (type : UInt8) (length crc token : UInt32)
  | accepted (number : ℕ) (request : WriteRequest)
  | closed (number : ℕ)
  /-- A call of `ApplyCborConfiguration`. -/
  | applied (number : ℕ) (type : UInt8) (bytes : List UInt8) (outcome : ApplyOutcome)
  /-- An answer while the session is the last one. -/
  | answered (number : ℕ) (answer : Answer)
deriving DecidableEq, Repr

/-- What the handler does next. -/
inductive HandlerStep
  | idle
  | check (request : WriteRequest)
  | stage (request : WriteRequest)
  | fill (request : WriteRequest)
  | apply (request : WriteRequest) (token : UInt32) (received : ℕ)
deriving DecidableEq, Repr

/-- What the group is configured with. -/
structure UploadConfig where
  /-- The cap of a registered type. -/
  maxCborSize : UInt8 → Option ℕ
  crc32 : List UInt8 → UInt32
  sessionTimeoutMs : ℕ
  /-- `Initialize` created the tasks. -/
  hasTasks : Bool := true

/-- The upload half of `ConfigMgmtGroup`, with the clock and the number of sessions. -/
structure ConfigMgmtGroup where
  clock : ℕ
  session : WriteSession := {}
  handler : HandlerStep := .idle
  /-- How many sessions were opened. -/
  number : ℕ := 0
  /-- The newest event is first. -/
  log : List UploadEvent := []
deriving DecidableEq

/-- What can happen to an upload. -/
inductive UploadLabel
  | advance (milliseconds : ℕ)
  /-- A request arrives, or one that does not decode or misses a key. -/
  | request (request : Option WriteRequest)
  | check
  /-- The STAGE job, with the error of what the allocation throws and the number it draws. -/
  | stage (thrown : Option ConfigError) (token : UInt32)
  | fill
  /-- The APPLY job. -/
  | apply (outcome : ApplyOutcome)
  | processIdle
deriving DecidableEq

namespace ConfigMgmtGroup

variable (config : UploadConfig) (group : ConfigMgmtGroup)

/-- The session is open and was left alone for too long. -/
def isTimedOut : Bool :=
  group.session.token != 0 &&
    config.sessionTimeoutMs ≤ group.clock - group.session.lastActivityMs

/-- The session is open and in use. -/
def isOpen : Bool :=
  group.session.token != 0 &&
    group.clock - group.session.lastActivityMs < config.sessionTimeoutMs

/-- `CloseSessionLocked`. -/
def closeSessionLocked : ConfigMgmtGroup :=
  { group with
    session := { group.session with token := 0, received := 0, data := [] }
    log := if group.session.token = 0 then group.log else .closed group.number :: group.log }

/-- The request is answered. -/
def respond (answer : Answer) : ConfigMgmtGroup :=
  { group with handler := .idle, log := .answered group.number answer :: group.log }

/-- Answers a request with an error and no message. -/
def fail (error : ConfigError) : ConfigMgmtGroup := group.respond (.fail error [])

/-- `HandleWrite` up to its first critical section. -/
def handleWrite : Option WriteRequest → ConfigMgmtGroup
  | none => group.respond .invalid
  | some request =>
    if request.offset = 0 && (request.length.isNone || request.crc.isNone) then
      group.respond .invalid
    else
      match if request.type ≤ 255 then config.maxCborSize request.configType else none with
      | none => group.fail .unknownType
      | some maxCborSize =>
        if request.offset = 0 then
          if maxCborSize < (request.length.getD 0).toNat then group.fail .tooLarge
          else { group with handler := .check request }
        else { group with handler := .fill request }

/-- The request is the one that opened the session, whose answer got lost. -/
def isRepeat (request : WriteRequest) : Bool :=
  group.session.type = request.configType &&
    group.session.data.length = (request.length.getD 0).toNat &&
    group.session.crc = request.crc.getD 0 &&
    group.session.received = request.data.length &&
    request.data = group.session.data.take request.data.length

/-- The session's owner may restart its transfer by presenting its token. -/
def check (request : WriteRequest) : ConfigMgmtGroup :=
  if group.isOpen config && request.token ≠ some group.session.token then
    if !group.isRepeat request then group.fail .busy
    else
      { group with
        session := { group.session with lastActivityMs := group.clock } }.respond
          (.written group.session.received group.session.token)
  else { group with handler := .stage request }

/-- The STAGE job. -/
def stage (request : WriteRequest) (thrown : Option ConfigError) (token : UInt32) :
    ConfigMgmtGroup :=
  if !config.hasTasks then group.fail .unknown
  else
    match thrown with
    | some error => group.closeSessionLocked.fail error
    | none =>
      -- A zero is drawn again.
      if token = 0 then group
      else
        let group := group.closeSessionLocked
        let length := request.length.getD 0
        let crc := request.crc.getD 0
        { group with
          session :=
            { type := request.configType
              token
              crc
              received := 0
              data := List.replicate length.toNat 0
              lastActivityMs := group.clock }
          handler := .fill request
          number := group.number + 1
          log := .opened (group.number + 1) request.configType length crc token :: group.log }

/-- The chunk is copied behind what was received. -/
def copyChunk (request : WriteRequest) : ConfigMgmtGroup :=
  let session := group.session
  { group with
    session :=
      { session with
        data := session.data.take session.received ++ request.data ++
          session.data.drop (session.received + request.data.length)
        received := session.received + request.data.length
        lastActivityMs := group.clock }
    log := .accepted group.number request :: group.log }

/-- The chunk is taken for the session, or the request fails. -/
def takeChunk (request : WriteRequest) : ConfigMgmtGroup :=
  if group.session.token = 0 || group.session.type ≠ request.configType ||
      (request.offset ≠ 0 && request.token ≠ some group.session.token) then
    group.fail .badToken
  -- A client whose response got lost learns where to resume.
  else if request.offset.toNat ≠ group.session.received then
    group.respond (.badOffset group.session.received)
  else if group.session.data.length - group.session.received < request.data.length then
    group.closeSessionLocked.fail .tooLarge
  else
    let group := group.copyChunk request
    if group.session.received = group.session.data.length then
      { group with handler := .apply request group.session.token group.session.received }
    else
      group.respond (.written group.session.received
        (if request.offset = 0 then group.session.token else 0))

/-- The critical section that takes the chunk. -/
def fill (request : WriteRequest) : ConfigMgmtGroup :=
  if group.isTimedOut config then group.closeSessionLocked.takeChunk request
  else group.takeChunk request

/-- The APPLY job; its outcome is that of a call it makes. -/
def apply (request : WriteRequest) (token : UInt32) (received : ℕ) (outcome : ApplyOutcome) :
    ConfigMgmtGroup :=
  let session := group.session
  if !config.hasTasks then group.fail .unknown
  -- The session may have timed out while the request was queued.
  else if session.token = 0 || session.received ≠ session.data.length then group.fail .badToken
  else if config.crc32 session.data ≠ session.crc then
    group.closeSessionLocked.fail .crcMismatch
  else
    let group :=
      { group with log := .applied group.number session.type session.data outcome :: group.log }
    match outcome.result with
    | (.ok, _) =>
      group.closeSessionLocked.respond (.written received (if request.offset = 0 then token else 0))
    | (error, reason) =>
      group.closeSessionLocked.respond (.fail error (reason.takeWhile (· ≠ 0)))

/-- `ProcessIdle`. -/
def processIdle : ConfigMgmtGroup :=
  if group.isTimedOut config then group.closeSessionLocked else group

/-- A step that is not due does nothing. -/
def step (group : ConfigMgmtGroup) : UploadLabel → ConfigMgmtGroup
  | .advance milliseconds => { group with clock := group.clock + milliseconds }
  | .request request =>
    match group.handler with
    | .idle => group.handleWrite config request
    | _ => group
  | .check =>
    match group.handler with
    | .check request => group.check config request
    | _ => group
  | .stage thrown token =>
    match group.handler with
    | .stage request => group.stage config request thrown token
    | _ => group
  | .fill =>
    match group.handler with
    | .fill request => group.fill config request
    | _ => group
  | .apply outcome =>
    match group.handler with
    | .apply request token received => group.apply config request token received outcome
    | _ => group
  | .processIdle => group.processIdle config

end ConfigMgmtGroup

end RtCore.Configuration
