import RtCore.Cdmp.Protocol

/-!
# CDMP on the wire

The nine encoders (`ToCanFrame`) and decoders (`FromCanFrame`, `TryFromCanFrame`),
with every index into the received payload made explicit: `frame_data[i]` on a
`std::span` is not checked, so an index past the payload is an error of its own,
apart from the exceptions the decoders throw themselves.

Beside them stands the layout of the protocol specification, as offsets and bytes,
which the encoders are compared with.

## Main definitions

* `readByte`, `DecodeError` — an unchecked index into the payload, and what a
  decoder can fail with
* `InBounds` — a decoder stayed inside the payload
* `CdmpMessage` — a message of any of the nine types
* `CdmpMessage.specFields` — the fields of a frame as the specification lays them out

## Main results

* `inBounds_fromCanFrame` for each message — the payloads its decoder reads safely
* `roundTrips_and_hasSpecLayout_iff` — every message but an ID claim response
  survives the wire and has the specified layout
-/

namespace RtCore.Cdmp

open RtCore.Foundation

/-- Why a decoder returns no message. -/
inductive DecodeError
  /-- An index past the end of the payload: undefined behaviour in the source. -/
  | outOfBounds (index : ℕ)
  /-- The decoder throws `std::invalid_argument`. -/
  | invalidArgument (what : String)
deriving DecidableEq, Repr

/-- `frame_data[index]`. -/
def readByte (frame : List UInt8) (index : ℕ) : Except DecodeError UInt8 :=
  match frame[index]? with
  | some byte => .ok byte
  | none => .error (.outOfBounds index)

/-- The message type check the management decoders begin with. -/
def checkMessageType (frame : List UInt8) (type : CdmpManagementMessageType) :
    Except DecodeError Unit := do
  let byte ← readByte frame 0
  if byte = type.toUnderlying then .ok () else .error (.invalidArgument "Incorrect message type")

/-- Four bytes from `index` on as a 32-bit word, least significant first. -/
def readUInt32 (frame : List UInt8) (index : ℕ) : Except DecodeError UInt32 := do
  let b₃ ← readByte frame (index + 3)
  let b₂ ← readByte frame (index + 2)
  let b₁ ← readByte frame (index + 1)
  let b₀ ← readByte frame index
  return uint32OfBytes b₀ b₁ b₂ b₃

/-- Two bytes from `index` on as a 16-bit word, least significant first. -/
def readUInt16 (frame : List UInt8) (index : ℕ) : Except DecodeError UInt16 := do
  let b₁ ← readByte frame (index + 1)
  let b₀ ← readByte frame index
  return uint16OfBytes b₀ b₁

/-! ### Reads inside the payload -/

/-- No index was past the payload; the decoder may still have thrown. -/
def InBounds {α : Type} (result : Except DecodeError α) : Prop :=
  ∀ index, result ≠ .error (.outOfBounds index)

@[simp] theorem except_ok_bind {ε α β : Type} (a : α) (f : α → Except ε β) :
    (Except.ok a >>= f) = f a := rfl

@[simp] theorem except_error_bind {ε α β : Type} (e : ε) (f : α → Except ε β) :
    ((Except.error e : Except ε α) >>= f) = .error e := rfl

@[simp] theorem except_pure {ε α : Type} (a : α) : (pure a : Except ε α) = .ok a := rfl

@[simp] theorem inBounds_ok {α : Type} (a : α) : InBounds (.ok a) := by
  simp [InBounds]

@[simp] theorem inBounds_invalidArgument {α : Type} (what : String) :
    InBounds (.error (.invalidArgument what) : Except DecodeError α) := by
  simp [InBounds]

theorem readByte_eq_ok {frame : List UInt8} {index : ℕ} (inside : index < frame.length) :
    readByte frame index = .ok frame[index] := by
  simp [readByte, inside]

theorem inBounds_readByte_bind {α : Type} {frame : List UInt8} {index : ℕ}
    {next : UInt8 → Except DecodeError α} :
    InBounds (readByte frame index >>= next) ↔
      ∃ _ : index < frame.length, InBounds (next frame[index]) := by
  by_cases inside : index < frame.length
  · simp [readByte_eq_ok, inside]
  · simp [readByte, inside, InBounds]

theorem inBounds_readUInt32_bind {α : Type} {frame : List UInt8} {index : ℕ}
    {next : UInt32 → Except DecodeError α} :
    InBounds (readUInt32 frame index >>= next) ↔
      ∃ _ : index + 3 < frame.length, InBounds
        (next (uint32OfBytes frame[index] frame[index + 1] frame[index + 2] frame[index + 3])) := by
  by_cases inside : index + 3 < frame.length
  · simp [readUInt32, readByte_eq_ok, inside, show index + 2 < frame.length by omega,
      show index + 1 < frame.length by omega, show index < frame.length by omega]
  · simp [readUInt32, readByte, inside, InBounds]

theorem inBounds_readUInt16_bind {α : Type} {frame : List UInt8} {index : ℕ}
    {next : UInt16 → Except DecodeError α} :
    InBounds (readUInt16 frame index >>= next) ↔
      ∃ _ : index + 1 < frame.length, InBounds
        (next (uint16OfBytes frame[index] frame[index + 1])) := by
  by_cases inside : index + 1 < frame.length
  · simp [readUInt16, readByte_eq_ok, inside, show index < frame.length by omega]
  · simp [readUInt16, readByte, inside, InBounds]

/-- A decoder that begins with the type check reads `frame_data[0]`, and goes on
only for its own type. -/
theorem inBounds_checkMessageType_bind {α : Type} {frame : List UInt8}
    {type : CdmpManagementMessageType} {next : Unit → Except DecodeError α} :
    InBounds (checkMessageType frame type >>= next) ↔
      frame ≠ [] ∧ (frame[0]? = some type.toUnderlying → InBounds (next ())) := by
  cases frame with
  | nil => simp [checkMessageType, readByte, InBounds]
  | cons byte rest =>
    by_cases same : byte = type.toUnderlying <;> simp [checkMessageType, readByte, same]

/-! ### Management messages (Base + 0) -/

namespace CdmpDiscoveryRequestMessage

/-- `FromCanFrame` of a discovery request. -/
def fromCanFrame (frame : List UInt8) : Except DecodeError CdmpDiscoveryRequestMessage := do
  checkMessageType frame .discoveryRequest
  let uid ← readUInt32 frame 1
  return { uid }

/-- `ToCanFrame` of a discovery request. -/
def toCanFrame (message : CdmpDiscoveryRequestMessage) : List UInt8 :=
  [CdmpManagementMessageType.discoveryRequest.toUnderlying] ++ uint32Bytes message.uid

@[simp] theorem fromCanFrame_toCanFrame (message : CdmpDiscoveryRequestMessage) :
    fromCanFrame message.toCanFrame = .ok message := by
  simp [fromCanFrame, toCanFrame, checkMessageType, readUInt32, readByte, uint32Bytes]

theorem inBounds_fromCanFrame {frame : List UInt8} :
    InBounds (fromCanFrame frame) ↔
      frame ≠ [] ∧
        (frame[0]? = some CdmpManagementMessageType.discoveryRequest.toUnderlying →
          5 ≤ frame.length) := by
  simp only [fromCanFrame, inBounds_checkMessageType_bind, inBounds_readUInt32_bind, except_pure,
    inBounds_ok, exists_prop, and_true, Nat.succ_le_iff]

end CdmpDiscoveryRequestMessage

namespace CdmpDiscoveryResponseMessage

/-- Every unit sends all 8 bytes, so a shorter frame is malformed. -/
def frameSize : ℕ := 8

/-- `FromCanFrame` of a discovery response. -/
def fromCanFrame (frame : List UInt8) : Except DecodeError CdmpDiscoveryResponseMessage := do
  if frame.length < frameSize then
    throw (.invalidArgument "Discovery response frame is shorter than 8 bytes")
  checkMessageType frame .discoveryResponse
  let deviceId ← readByte frame 1
  let uid ← readUInt32 frame 2
  let features ← readUInt16 frame 6
  return { deviceId, uid, features }

/-- `ToCanFrame` of a discovery response. -/
def toCanFrame (message : CdmpDiscoveryResponseMessage) : List UInt8 :=
  [CdmpManagementMessageType.discoveryResponse.toUnderlying, message.deviceId] ++
    uint32Bytes message.uid ++ uint16Bytes message.features

@[simp] theorem fromCanFrame_toCanFrame (message : CdmpDiscoveryResponseMessage) :
    fromCanFrame message.toCanFrame = .ok message := by
  simp [fromCanFrame, toCanFrame, frameSize, checkMessageType, readUInt32, readUInt16, readByte,
    uint32Bytes, uint16Bytes]

theorem inBounds_fromCanFrame (frame : List UInt8) : InBounds (fromCanFrame frame) := by
  unfold fromCanFrame
  split_ifs with short
  · exact inBounds_invalidArgument _
  · have size : 8 ≤ frame.length := not_lt.mp short
    simp only [inBounds_checkMessageType_bind, inBounds_readByte_bind, inBounds_readUInt32_bind,
      inBounds_readUInt16_bind, except_pure, inBounds_ok, exists_prop, and_true]
    exact ⟨List.ne_nil_of_length_pos (by omega), fun _ => ⟨by omega, by omega, by omega⟩⟩

/-- A short discovery response is refused before anything is read. -/
theorem fromCanFrame_of_short {frame : List UInt8} (short : frame.length < 8) :
    fromCanFrame frame =
      .error (.invalidArgument "Discovery response frame is shorter than 8 bytes") := by
  simp [fromCanFrame, frameSize, short, throw, throwThe, MonadExceptOf.throw]

end CdmpDiscoveryResponseMessage

namespace CdmpIdClaimRequestMessage

/-- `FromCanFrame` of an ID claim. -/
def fromCanFrame (frame : List UInt8) : Except DecodeError CdmpIdClaimRequestMessage := do
  checkMessageType frame .idClaim
  let claimingDeviceId ← readByte frame 1
  let uid ← readUInt32 frame 2
  -- Byte 6 is reserved: sent 0, ignored on receipt.
  let protocolVersion ← readByte frame 7
  return { claimingDeviceId, uid, protocolVersion }

/-- `ToCanFrame` of an ID claim. -/
def toCanFrame (message : CdmpIdClaimRequestMessage) : List UInt8 :=
  [CdmpManagementMessageType.idClaim.toUnderlying, message.claimingDeviceId] ++
    uint32Bytes message.uid ++ [0, message.protocolVersion]

@[simp] theorem fromCanFrame_toCanFrame (message : CdmpIdClaimRequestMessage) :
    fromCanFrame message.toCanFrame = .ok message := by
  simp [fromCanFrame, toCanFrame, checkMessageType, readUInt32, readByte, uint32Bytes]

theorem inBounds_fromCanFrame {frame : List UInt8} :
    InBounds (fromCanFrame frame) ↔
      frame ≠ [] ∧
        (frame[0]? = some CdmpManagementMessageType.idClaim.toUnderlying → 8 ≤ frame.length) := by
  simp only [fromCanFrame, inBounds_checkMessageType_bind, inBounds_readByte_bind,
    inBounds_readUInt32_bind, except_pure, inBounds_ok, exists_prop, and_true]
  exact and_congr_right fun _ => imp_congr_right fun _ => by omega

end CdmpIdClaimRequestMessage

namespace CdmpIdClaimResponseMessage

/-- Only bytes 0 to 3 are read: the UID of the claiming device keeps its default. -/
def fromCanFrame (frame : List UInt8) : Except DecodeError CdmpIdClaimResponseMessage := do
  checkMessageType frame .idClaimResponse
  let respondingDeviceId ← readByte frame 1
  let claimingDeviceId ← readByte frame 2
  let result ← readByte frame 3
  return { respondingDeviceId, claimingDeviceId, claimingDeviceUid := 0, result := ⟨result⟩ }

/-- `ToCanFrame` of the answer to an ID claim; it has no UID. -/
def toCanFrame (message : CdmpIdClaimResponseMessage) : List UInt8 :=
  [CdmpManagementMessageType.idClaimResponse.toUnderlying, message.respondingDeviceId,
    message.claimingDeviceId, message.result.toUnderlying]

@[simp] theorem fromCanFrame_toCanFrame (message : CdmpIdClaimResponseMessage) :
    fromCanFrame message.toCanFrame = .ok { message with claimingDeviceUid := 0 } := by
  simp [fromCanFrame, toCanFrame, checkMessageType, readByte]

theorem inBounds_fromCanFrame {frame : List UInt8} :
    InBounds (fromCanFrame frame) ↔
      frame ≠ [] ∧
        (frame[0]? = some CdmpManagementMessageType.idClaimResponse.toUnderlying →
          4 ≤ frame.length) := by
  simp only [fromCanFrame, inBounds_checkMessageType_bind, inBounds_readByte_bind, except_pure,
    inBounds_ok, exists_prop, and_true]
  exact and_congr_right fun _ => imp_congr_right fun _ => by omega

end CdmpIdClaimResponseMessage

/-! ### Heartbeat (Base + 1) -/

namespace CdmpHeartbeatMessage

/-- Every unit sends all 8 bytes, so a shorter frame is malformed. -/
def frameSize : ℕ := 8

/-- `FromCanFrame` of a heartbeat. -/
def fromCanFrame (frame : List UInt8) : Except DecodeError CdmpHeartbeatMessage := do
  if frame.length < frameSize then
    throw (.invalidArgument "Heartbeat frame is shorter than 8 bytes")
  let deviceId ← readByte frame 0
  let healthStatus ← readByte frame 1
  let sequenceNumber ← readByte frame 2
  let features ← readUInt16 frame 3
  let stateDigest ← readByte frame 7
  return { deviceId, healthStatus := ⟨healthStatus⟩, sequenceNumber, features, stateDigest }

/-- `ToCanFrame` of a heartbeat. -/
def toCanFrame (message : CdmpHeartbeatMessage) : List UInt8 :=
  [message.deviceId, message.healthStatus.toUnderlying, message.sequenceNumber] ++
    uint16Bytes message.features ++ [0, 0, message.stateDigest]

@[simp] theorem fromCanFrame_toCanFrame (message : CdmpHeartbeatMessage) :
    fromCanFrame message.toCanFrame = .ok message := by
  simp [fromCanFrame, toCanFrame, frameSize, readUInt16, readByte, uint16Bytes]

theorem inBounds_fromCanFrame (frame : List UInt8) : InBounds (fromCanFrame frame) := by
  unfold fromCanFrame
  split_ifs with short
  · exact inBounds_invalidArgument _
  · have size : 8 ≤ frame.length := not_lt.mp short
    simp only [inBounds_readByte_bind, inBounds_readUInt16_bind, except_pure, inBounds_ok,
      exists_prop, and_true]
    omega

/-- A short heartbeat is refused before anything is read. -/
theorem fromCanFrame_of_short {frame : List UInt8} (short : frame.length < 8) :
    fromCanFrame frame = .error (.invalidArgument "Heartbeat frame is shorter than 8 bytes") := by
  simp [fromCanFrame, frameSize, short, throw, throwThe, MonadExceptOf.throw]

end CdmpHeartbeatMessage

/-! ### Commands (Base + 2 and Base + 3) -/

namespace CdmpCommandRequestMessage

/-- `FromCanFrame` of a command. -/
def fromCanFrame (frame : List UInt8) : Except DecodeError CdmpCommandRequestMessage := do
  let targetDeviceId ← readByte frame 0
  let commandCode ← readByte frame 1
  let transactionId ← readByte frame 2
  return { targetDeviceId, commandCode, transactionId, data := frame.drop 3 }

/-- `ToCanFrame` of a command. -/
def toCanFrame (message : CdmpCommandRequestMessage) : List UInt8 :=
  [message.targetDeviceId, message.commandCode, message.transactionId] ++ message.data

@[simp] theorem fromCanFrame_toCanFrame (message : CdmpCommandRequestMessage) :
    fromCanFrame message.toCanFrame = .ok message := by
  simp [fromCanFrame, toCanFrame, readByte]

theorem inBounds_fromCanFrame {frame : List UInt8} :
    InBounds (fromCanFrame frame) ↔ 3 ≤ frame.length := by
  simp only [fromCanFrame, inBounds_readByte_bind, except_pure, inBounds_ok, exists_prop, and_true]
  omega

end CdmpCommandRequestMessage

namespace CdmpCommandResponseMessage

/-- `FromCanFrame` of the answer to a command. -/
def fromCanFrame (frame : List UInt8) : Except DecodeError CdmpCommandResponseMessage := do
  let sourceDeviceId ← readByte frame 0
  let commandCode ← readByte frame 1
  let transactionId ← readByte frame 2
  let resultCode ← readByte frame 3
  return { sourceDeviceId, commandCode, transactionId, resultCode := ⟨resultCode⟩,
           data := frame.drop 4 }

/-- `ToCanFrame` of the answer to a command. -/
def toCanFrame (message : CdmpCommandResponseMessage) : List UInt8 :=
  [message.sourceDeviceId, message.commandCode, message.transactionId,
    message.resultCode.toUnderlying] ++ message.data

@[simp] theorem fromCanFrame_toCanFrame (message : CdmpCommandResponseMessage) :
    fromCanFrame message.toCanFrame = .ok message := by
  simp [fromCanFrame, toCanFrame, readByte]

theorem inBounds_fromCanFrame {frame : List UInt8} :
    InBounds (fromCanFrame frame) ↔ 4 ≤ frame.length := by
  simp only [fromCanFrame, inBounds_readByte_bind, except_pure, inBounds_ok, exists_prop, and_true]
  omega

end CdmpCommandResponseMessage

/-! ### Shared state (Base + 4 and Base + 5) -/

namespace CdmpStateChangeMessage

/-- Source, version and type. -/
def headerSize : ℕ := 3

/-- The header with the most data a record has. -/
def maxFrameSize : ℕ := headerSize + CdmpStateData.maxSize

/-- Nothing for a frame shorter than 3 or longer than 8 bytes. -/
def tryFromCanFrame (frame : List UInt8) :
    Except DecodeError (Option CdmpStateChangeMessage) := do
  if frame.length < headerSize ∨ frame.length > maxFrameSize then
    return none
  let sourceDeviceId ← readByte frame 0
  let version ← readByte frame 1
  let stateType ← readByte frame 2
  match CdmpStateData.ofBytes? (frame.drop headerSize) with
  | some data => return some { sourceDeviceId, version, stateType, data }
  | none => throw (.invalidArgument "State data is longer than 5 bytes")

/-- `FromCanFrame` of a state change. -/
def fromCanFrame (frame : List UInt8) : Except DecodeError CdmpStateChangeMessage := do
  match ← tryFromCanFrame frame with
  | some message => return message
  | none => throw (.invalidArgument "State change frame is not 3 to 8 bytes long")

/-- The first 3 to 8 bytes of the frame buffer, as many as `ToCanFrame` returns. -/
def toCanFrame (message : CdmpStateChangeMessage) : List UInt8 :=
  [message.sourceDeviceId, message.version, message.stateType] ++ message.data.bytes

@[simp] theorem tryFromCanFrame_toCanFrame (message : CdmpStateChangeMessage) :
    tryFromCanFrame message.toCanFrame = .ok (some message) := by
  have size := message.data.size_le
  simp [tryFromCanFrame, toCanFrame, headerSize, maxFrameSize, CdmpStateData.maxSize, readByte,
    show ¬ 8 < message.data.bytes.length + 3 by omega]

theorem inBounds_tryFromCanFrame (frame : List UInt8) : InBounds (tryFromCanFrame frame) := by
  unfold tryFromCanFrame
  split_ifs with outside
  · exact inBounds_ok _
  · have size : 3 ≤ frame.length := by simp only [headerSize] at outside; omega
    simp only [inBounds_readByte_bind]
    refine ⟨by omega, by omega, by omega, ?_⟩
    split
    · exact inBounds_ok _
    · exact inBounds_invalidArgument _

theorem tryFromCanFrame_of_short {frame : List UInt8} (short : frame.length < 3) :
    tryFromCanFrame frame = .ok none := by
  simp [tryFromCanFrame, headerSize, short]

end CdmpStateChangeMessage

namespace CdmpStateChangeResponseMessage

/-- Responder, source, version and result. -/
def frameSize : ℕ := 4

/-- Nothing for a frame shorter than 4 bytes. -/
def tryFromCanFrame (frame : List UInt8) :
    Except DecodeError (Option CdmpStateChangeResponseMessage) := do
  if frame.length < frameSize then
    return none
  let respondingDeviceId ← readByte frame 0
  let sourceDeviceId ← readByte frame 1
  let version ← readByte frame 2
  let resultCode ← readByte frame 3
  return some { respondingDeviceId, sourceDeviceId, version, resultCode := ⟨resultCode⟩ }

/-- `FromCanFrame` of the answer to a state change. -/
def fromCanFrame (frame : List UInt8) : Except DecodeError CdmpStateChangeResponseMessage := do
  match ← tryFromCanFrame frame with
  | some message => return message
  | none => throw (.invalidArgument "State change response is shorter than 4 bytes")

/-- `ToCanFrame` of the answer to a state change. -/
def toCanFrame (message : CdmpStateChangeResponseMessage) : List UInt8 :=
  [message.respondingDeviceId, message.sourceDeviceId, message.version,
    message.resultCode.toUnderlying]

@[simp] theorem tryFromCanFrame_toCanFrame (message : CdmpStateChangeResponseMessage) :
    tryFromCanFrame message.toCanFrame = .ok (some message) := by
  simp [tryFromCanFrame, toCanFrame, frameSize, readByte]

theorem inBounds_tryFromCanFrame (frame : List UInt8) : InBounds (tryFromCanFrame frame) := by
  unfold tryFromCanFrame
  split_ifs with short
  · exact inBounds_ok _
  · have size : 4 ≤ frame.length := not_lt.mp short
    simp only [inBounds_readByte_bind, except_pure, inBounds_ok, exists_prop, and_true]
    omega

theorem tryFromCanFrame_of_short {frame : List UInt8} (short : frame.length < 4) :
    tryFromCanFrame frame = .ok none := by
  simp [tryFromCanFrame, frameSize, short]

end CdmpStateChangeResponseMessage

/-! ### Round trip and specified layout -/

/-- A message of any of the nine types. -/
inductive CdmpMessage
  | discoveryRequest (message : CdmpDiscoveryRequestMessage)
  | discoveryResponse (message : CdmpDiscoveryResponseMessage)
  | idClaim (message : CdmpIdClaimRequestMessage)
  | idClaimResponse (message : CdmpIdClaimResponseMessage)
  | heartbeat (message : CdmpHeartbeatMessage)
  | commandRequest (message : CdmpCommandRequestMessage)
  | commandResponse (message : CdmpCommandResponseMessage)
  | stateChange (message : CdmpStateChangeMessage)
  | stateChangeResponse (message : CdmpStateChangeResponseMessage)
deriving DecidableEq, Repr

namespace CdmpMessage

/-- `ToCanFrame` of any message. -/
def toCanFrame : CdmpMessage → List UInt8
  | discoveryRequest message => message.toCanFrame
  | discoveryResponse message => message.toCanFrame
  | idClaim message => message.toCanFrame
  | idClaimResponse message => message.toCanFrame
  | heartbeat message => message.toCanFrame
  | commandRequest message => message.toCanFrame
  | commandResponse message => message.toCanFrame
  | stateChange message => message.toCanFrame
  | stateChangeResponse message => message.toCanFrame

/-- Decoding the encoded message gives the message back. -/
def RoundTrips : CdmpMessage → Prop
  | discoveryRequest message =>
    CdmpDiscoveryRequestMessage.fromCanFrame message.toCanFrame = .ok message
  | discoveryResponse message =>
    CdmpDiscoveryResponseMessage.fromCanFrame message.toCanFrame = .ok message
  | idClaim message => CdmpIdClaimRequestMessage.fromCanFrame message.toCanFrame = .ok message
  | idClaimResponse message =>
    CdmpIdClaimResponseMessage.fromCanFrame message.toCanFrame = .ok message
  | heartbeat message => CdmpHeartbeatMessage.fromCanFrame message.toCanFrame = .ok message
  | commandRequest message =>
    CdmpCommandRequestMessage.fromCanFrame message.toCanFrame = .ok message
  | commandResponse message =>
    CdmpCommandResponseMessage.fromCanFrame message.toCanFrame = .ok message
  | stateChange message =>
    CdmpStateChangeMessage.tryFromCanFrame message.toCanFrame = .ok (some message) ∧
      CdmpStateChangeMessage.fromCanFrame message.toCanFrame = .ok message
  | stateChangeResponse message =>
    CdmpStateChangeResponseMessage.tryFromCanFrame message.toCanFrame = .ok (some message) ∧
      CdmpStateChangeResponseMessage.fromCanFrame message.toCanFrame = .ok message

/-- A field of a frame: the offset of its first byte, and its bytes. -/
structure SpecField where
  offset : ℕ
  bytes : List UInt8
deriving DecidableEq, Repr

/-- The fields in the byte tables of the protocol specification, reserved bytes
it says are sent as 0 included: §3.3 for discovery, §3.2.2 and §3.2.4 for the ID
claim and its response, §4.1 for the heartbeat, §4.2 for commands and §4.3 for
shared state. -/
def specFields : CdmpMessage → List SpecField
  | discoveryRequest message => [⟨0, [0x03]⟩, ⟨1, uint32Bytes message.uid⟩]
  | discoveryResponse message =>
    [⟨0, [0x04]⟩, ⟨1, [message.deviceId]⟩, ⟨2, uint32Bytes message.uid⟩,
      ⟨6, uint16Bytes message.features⟩]
  | idClaim message =>
    [⟨0, [0x01]⟩, ⟨1, [message.claimingDeviceId]⟩, ⟨2, uint32Bytes message.uid⟩, ⟨6, [0]⟩,
      ⟨7, [message.protocolVersion]⟩]
  | idClaimResponse message =>
    [⟨0, [0x02]⟩, ⟨1, [message.respondingDeviceId]⟩, ⟨2, [message.claimingDeviceId]⟩,
      ⟨3, uint32Bytes message.claimingDeviceUid⟩, ⟨7, [message.result.toUnderlying]⟩]
  | heartbeat message =>
    [⟨0, [message.deviceId]⟩, ⟨1, [message.healthStatus.toUnderlying]⟩,
      ⟨2, [message.sequenceNumber]⟩, ⟨3, uint16Bytes message.features⟩, ⟨5, [0, 0]⟩,
      ⟨7, [message.stateDigest]⟩]
  | commandRequest message =>
    [⟨0, [message.targetDeviceId]⟩, ⟨1, [message.commandCode]⟩, ⟨2, [message.transactionId]⟩,
      ⟨3, message.data⟩]
  | commandResponse message =>
    [⟨0, [message.sourceDeviceId]⟩, ⟨1, [message.commandCode]⟩, ⟨2, [message.transactionId]⟩,
      ⟨3, [message.resultCode.toUnderlying]⟩, ⟨4, message.data⟩]
  | stateChange message =>
    [⟨0, [message.sourceDeviceId]⟩, ⟨1, [message.version]⟩, ⟨2, [message.stateType]⟩,
      ⟨3, message.data.bytes⟩]
  | stateChangeResponse message =>
    [⟨0, [message.respondingDeviceId]⟩, ⟨1, [message.sourceDeviceId]⟩, ⟨2, [message.version]⟩,
      ⟨3, [message.resultCode.toUnderlying]⟩]

/-- Every field stands at its offset, and nothing follows the last one. -/
def HasSpecLayout (message : CdmpMessage) : Prop :=
  (∀ field ∈ message.specFields,
    (message.toCanFrame.drop field.offset).take field.bytes.length = field.bytes) ∧
  ∃ field ∈ message.specFields, message.toCanFrame.length = field.offset + field.bytes.length

/-- The message is the answer to an ID claim. -/
def IsIdClaimResponse : CdmpMessage → Prop
  | idClaimResponse _ => True
  | _ => False

/-- The frame of an ID claim response has 4 bytes, where the specification has
the claiming device's UID in bytes 3 to 6 and the result in byte 7. -/
theorem not_hasSpecLayout_idClaimResponse (message : CdmpIdClaimResponseMessage) :
    ¬ (idClaimResponse message).HasSpecLayout := by
  rintro ⟨fields, -⟩
  have result := fields ⟨7, [message.result.toUnderlying]⟩ (by simp [specFields])
  simp [toCanFrame, CdmpIdClaimResponseMessage.toCanFrame] at result

theorem roundTrips_of_not_isIdClaimResponse {message : CdmpMessage}
    (other : ¬ message.IsIdClaimResponse) : message.RoundTrips := by
  cases message with
  | idClaimResponse message => exact absurd trivial other
  | stateChange message => simp [RoundTrips, CdmpStateChangeMessage.fromCanFrame]
  | stateChangeResponse message => simp [RoundTrips, CdmpStateChangeResponseMessage.fromCanFrame]
  | _ => simp [RoundTrips]

theorem hasSpecLayout_of_not_isIdClaimResponse {message : CdmpMessage}
    (other : ¬ message.IsIdClaimResponse) : message.HasSpecLayout := by
  cases message with
  | idClaimResponse message => exact absurd trivial other
  | discoveryRequest message =>
    simp [HasSpecLayout, specFields, toCanFrame, CdmpDiscoveryRequestMessage.toCanFrame,
      uint32Bytes, CdmpManagementMessageType.toUnderlying]
  | discoveryResponse message =>
    simp [HasSpecLayout, specFields, toCanFrame, CdmpDiscoveryResponseMessage.toCanFrame,
      uint32Bytes, uint16Bytes, CdmpManagementMessageType.toUnderlying]
  | idClaim message =>
    simp [HasSpecLayout, specFields, toCanFrame, CdmpIdClaimRequestMessage.toCanFrame,
      uint32Bytes, CdmpManagementMessageType.toUnderlying]
  | heartbeat message =>
    simp [HasSpecLayout, specFields, toCanFrame, CdmpHeartbeatMessage.toCanFrame, uint16Bytes]
  | commandRequest message =>
    simp [HasSpecLayout, specFields, toCanFrame, CdmpCommandRequestMessage.toCanFrame]
    omega
  | commandResponse message =>
    simp [HasSpecLayout, specFields, toCanFrame, CdmpCommandResponseMessage.toCanFrame]
    omega
  | stateChange message =>
    simp [HasSpecLayout, specFields, toCanFrame, CdmpStateChangeMessage.toCanFrame]
    omega
  | stateChangeResponse message =>
    simp [HasSpecLayout, specFields, toCanFrame, CdmpStateChangeResponseMessage.toCanFrame]

/-- A message survives the wire in the specified layout exactly when it is no ID
claim response. -/
theorem roundTrips_and_hasSpecLayout_iff (message : CdmpMessage) :
    message.RoundTrips ∧ message.HasSpecLayout ↔ ¬ message.IsIdClaimResponse := by
  constructor
  · rintro ⟨-, layout⟩ isResponse
    cases message with
    | idClaimResponse message => exact not_hasSpecLayout_idClaimResponse message layout
    | _ => exact isResponse
  · intro other
    exact ⟨roundTrips_of_not_isIdClaimResponse other, hasSpecLayout_of_not_isIdClaimResponse other⟩

/-- Device 1 accepts the claim of UID 0x33333333 on ID 2: the claimant reads UID 0
from the answer. -/
theorem not_roundTrips_accepted_claim :
    ¬ (idClaimResponse ⟨1, 2, 0x33333333, .accept⟩).RoundTrips := by
  simp [RoundTrips]

end CdmpMessage

end RtCore.Cdmp
