import RtCore.Cdmp.Unit

/-!
# Malformed frames

Each decoder reads its bytes by index. The decoders of discovery responses, heartbeats and
state frames look at the length first; the others read past a payload that is too short.

## Main definitions

* `requiredLength` — the bytes the message type of a payload takes
* `SafelyDispatched` — no read outside the payload, and a payload that is too short leaves
  the tables as they are
* `ChecksLength` — the decoder of the payload looks at the length first

## Main results

* `safelyDispatched_iff` — exactly the payloads that are long enough, or whose decoder
  checks, are dispatched safely
-/

namespace RtCore.Cdmp

open RtCore.Foundation

namespace CdmpManagementMessageType

/-- The type a management payload announces in its first byte. -/
def announcedBy (payload : List UInt8) : Option CdmpManagementMessageType :=
  payload.head?.bind ofUnderlying?

theorem toUnderlying_of_ofUnderlying? {byte : UInt8} {type : CdmpManagementMessageType}
    (isType : ofUnderlying? byte = some type) : type.toUnderlying = byte := by
  simpa using List.find?_some isType

end CdmpManagementMessageType

/-- The number of bytes the decoder of the payload reads; the type byte where it is ignored. -/
def requiredLength (canId : CdmpCanId) (payload : List UInt8) : ℕ :=
  match canId with
  | .management =>
    match CdmpManagementMessageType.announcedBy payload with
    | some .discoveryRequest => 5
    | some .discoveryResponse => 8
    | some .idClaim => 8
    | some .idClaimResponse => 4
    | some .heartbeat => 1
    | none => 1
  | .heartbeat => 8
  | .commandRequest => 3
  | .commandResponse => 4
  | .stateChangeRequest => 3
  | .stateChangeResponse => 4

/-- The decoder of the payload looks at the length before it reads. -/
def ChecksLength (canId : CdmpCanId) (payload : List UInt8) : Prop :=
  match canId with
  | .management => CdmpManagementMessageType.announcedBy payload = some .discoveryResponse
  | .heartbeat => True
  | .commandRequest => False
  | .commandResponse => False
  | .stateChangeRequest => True
  | .stateChangeResponse => True

/-- The device table, the pending claims, the transactions and the records are as they were. -/
structure SameTables (before after : CdmpUnit) : Prop where
  networkDevices : after.network.networkDevices = before.network.networkDevices
  pendingIdClaims : after.network.pendingIdClaims = before.network.pendingIdClaims
  transactions : after.transactions = before.transactions
  localRecords : after.state.localRecords = before.state.localRecords
  remoteRecords : after.state.remoteRecords = before.state.remoteRecords

/-- No byte outside the payload is read, and a payload too short for its type changes no table. -/
def SafelyDispatched (parameters : CdmpUnitParameters) (unit : CdmpUnit) (canId : CdmpCanId)
    (payload : List UInt8) (now : ℕ) : Prop :=
  InBounds (unit.dispatch parameters canId payload now) ∧
    (payload.length < requiredLength canId payload →
      ∀ after outputs, unit.dispatch parameters canId payload now = .ok (after, outputs) →
        SameTables unit after)

theorem SameTables.refl (unit : CdmpUnit) : SameTables unit unit := ⟨rfl, rfl, rfl, rfl, rfl⟩

/-! ### Reads -/

theorem inBounds_bind_ok {α β : Type} {read : Except DecodeError α} {f : α → β} :
    InBounds (read >>= fun a => .ok (f a)) ↔ InBounds read := by
  cases read <;> simp [InBounds]

theorem inBounds_catchDecodeError {unit : CdmpUnit}
    {handled : Except DecodeError (CdmpUnit × List UnitOutput)} :
    InBounds (unit.catchDecodeError handled) ↔ InBounds handled := by
  cases handled with
  | ok result => simp [CdmpUnit.catchDecodeError]
  | error error => cases error <;> simp [CdmpUnit.catchDecodeError, InBounds]

/-- The reads of a management frame: the type byte and what its decoder reads. -/
theorem inBounds_management (payload : List UInt8) :
    InBounds (CdmpManagementMessage.fromCanFrame payload) ↔
      requiredLength .management payload ≤ payload.length ∨ ChecksLength .management payload := by
  cases payload with
  | nil => simp [CdmpManagementMessage.fromCanFrame, readByte, InBounds, requiredLength,
      ChecksLength, CdmpManagementMessageType.announcedBy]
  | cons byte rest =>
    have announced : CdmpManagementMessageType.announcedBy (byte :: rest) =
      CdmpManagementMessageType.ofUnderlying? byte := rfl
    simp only [CdmpManagementMessage.fromCanFrame, inBounds_readByte_bind, requiredLength,
      ChecksLength, announced]
    cases isType : CdmpManagementMessageType.ofUnderlying? byte with
    | none => simp [isType]
    | some type =>
      have own := CdmpManagementMessageType.toUnderlying_of_ofUnderlying? isType
      cases type <;>
        simp [isType, inBounds_bind_ok, CdmpDiscoveryRequestMessage.inBounds_fromCanFrame,
          CdmpDiscoveryResponseMessage.inBounds_fromCanFrame,
          CdmpIdClaimRequestMessage.inBounds_fromCanFrame,
          CdmpIdClaimResponseMessage.inBounds_fromCanFrame, own]

section

variable (parameters : CdmpUnitParameters) (unit : CdmpUnit) (payload : List UInt8) (now : ℕ)

theorem inBounds_readStateFrame (isResponse : Bool) :
    InBounds (unit.readStateFrame isResponse payload) := by
  unfold CdmpUnit.readStateFrame
  simp only [except_pure]
  split_ifs
  · exact inBounds_ok _
  · exact inBounds_bind_ok.mpr (CdmpStateChangeResponseMessage.inBounds_tryFromCanFrame payload)
  · exact inBounds_bind_ok.mpr (CdmpStateChangeMessage.inBounds_tryFromCanFrame payload)

theorem inBounds_processFrame :
    InBounds (unit.network.processFrame payload now) ↔
      InBounds (CdmpManagementMessage.fromCanFrame payload) := by
  unfold CdmpNetworkService.processFrame
  cases CdmpManagementMessage.fromCanFrame payload with
  | error error => simp [InBounds]
  | ok message => cases message <;> simp

/-- The payload is read within its bounds exactly when it is long enough or its decoder checks. -/
theorem inBounds_dispatch (canId : CdmpCanId) :
    InBounds (unit.dispatch parameters canId payload now) ↔
      requiredLength canId payload ≤ payload.length ∨ ChecksLength canId payload := by
  -- Each handler decodes first; the bytes it reads are those of its decoder.
  cases canId with
  | management =>
    rw [CdmpUnit.dispatch, inBounds_catchDecodeError]
    simp only [except_pure]
    rw [inBounds_bind_ok, inBounds_processFrame, inBounds_management]
  | heartbeat =>
    rw [CdmpUnit.dispatch, inBounds_catchDecodeError]
    simp only [except_pure]
    rw [inBounds_bind_ok]
    exact iff_of_true (CdmpHeartbeatMessage.inBounds_fromCanFrame payload) (Or.inr trivial)
  | commandRequest =>
    rw [CdmpUnit.dispatch, inBounds_catchDecodeError]
    simp only [except_pure]
    rw [inBounds_bind_ok, CdmpCommandRequestMessage.inBounds_fromCanFrame]
    simp [requiredLength, ChecksLength]
  | commandResponse =>
    rw [CdmpUnit.dispatch, inBounds_catchDecodeError]
    simp only [except_pure]
    rw [inBounds_bind_ok, CdmpCommandResponseMessage.inBounds_fromCanFrame]
    simp [requiredLength, ChecksLength]
  | stateChangeRequest =>
    simp only [CdmpUnit.dispatch, except_pure]
    rw [inBounds_bind_ok]
    exact iff_of_true (inBounds_readStateFrame unit payload false) (Or.inr trivial)
  | stateChangeResponse =>
    simp only [CdmpUnit.dispatch, except_pure]
    rw [inBounds_bind_ok]
    exact iff_of_true (inBounds_readStateFrame unit payload true) (Or.inr trivial)

/-! ### Payloads that are too short -/

theorem sameTables_of_short_stateFrame (isResponse : Bool)
    (short : payload.length < if isResponse then 4 else 3) :
    SameTables unit (unit.processStateFrame parameters isResponse payload now).1 := by
  unfold CdmpUnit.processStateFrame
  cases isResponse with
  | true =>
    have refused := CdmpStateChangeResponseMessage.tryFromCanFrame_of_short short
    have classic : ¬ 8 < payload.length := by
      simp only [if_true] at short
      omega
    simp only [classic, if_false, if_true, CdmpStateService.processStateChangeResponseFrame,
      refused]
    split_ifs <;> exact ⟨rfl, rfl, rfl, rfl, rfl⟩
  | false =>
    have refused := CdmpStateChangeMessage.tryFromCanFrame_of_short short
    have classic : ¬ 8 < payload.length := by
      simp only [Bool.false_eq_true, if_false] at short
      omega
    simp only [classic, Bool.false_eq_true, if_false, CdmpStateService.processStateChangeFrame,
      refused]
    split_ifs <;> exact ⟨rfl, rfl, rfl, rfl, rfl⟩

/-- A decoder that checks the length refuses a short payload before anything happens. -/
theorem sameTables_of_short {canId : CdmpCanId} (checks : ChecksLength canId payload)
    (short : payload.length < requiredLength canId payload) {after : CdmpUnit}
    {outputs : List UnitOutput}
    (handled : unit.dispatch parameters canId payload now = .ok (after, outputs)) :
    SameTables unit after := by
  -- The state handlers do what the frame makes them do, once its bytes are read.
  have stateFrame (isResponse : Bool)
      (result : (do
        unit.readStateFrame isResponse payload
        return unit.processStateFrame parameters isResponse payload now) = .ok (after, outputs)) :
      after = (unit.processStateFrame parameters isResponse payload now).1 := by
    cases read : unit.readStateFrame isResponse payload with
    | error error => simp [read] at result
    | ok _ =>
      simp only [read, except_ok_bind, except_pure, Except.ok.injEq] at result
      rw [result]
  cases canId with
  | management =>
    have refused : ∃ what, unit.network.processFrame payload now =
        .error (.invalidArgument what) := by
      have announced : CdmpManagementMessageType.announcedBy payload = some .discoveryResponse :=
        checks
      have eight : payload.length < 8 := by
        simpa only [requiredLength, announced] using short
      cases payload with
      | nil => cases announced
      | cons byte rest =>
        have isType : CdmpManagementMessageType.ofUnderlying? byte = some .discoveryResponse :=
          announced
        refine ⟨"Discovery response frame is shorter than 8 bytes", ?_⟩
        simp [CdmpNetworkService.processFrame, CdmpManagementMessage.fromCanFrame, readByte, isType,
          CdmpDiscoveryResponseMessage.fromCanFrame_of_short eight]
    obtain ⟨what, refused⟩ := refused
    rw [CdmpUnit.dispatch, refused] at handled
    obtain ⟨rfl, -⟩ := Prod.mk.inj (Except.ok.inj handled)
    exact .refl unit
  | heartbeat =>
    rw [CdmpUnit.dispatch, CdmpHeartbeatMessage.fromCanFrame_of_short short] at handled
    obtain ⟨rfl, -⟩ := Prod.mk.inj (Except.ok.inj handled)
    exact .refl unit
  | commandRequest => cases checks
  | commandResponse => cases checks
  | stateChangeRequest =>
    rw [stateFrame false handled]
    exact sameTables_of_short_stateFrame parameters unit payload now false short
  | stateChangeResponse =>
    rw [stateFrame true handled]
    exact sameTables_of_short_stateFrame parameters unit payload now true short

/-- Exactly the payloads that are long enough for their type, or whose decoder checks the length,
are dispatched without a read outside the payload and without harm. -/
theorem safelyDispatched_iff (canId : CdmpCanId) :
    SafelyDispatched parameters unit canId payload now ↔
      requiredLength canId payload ≤ payload.length ∨ ChecksLength canId payload := by
  refine ⟨fun safe => (inBounds_dispatch ..).mp safe.1, fun condition => ?_⟩
  refine ⟨(inBounds_dispatch ..).mpr condition, fun short after outputs handled => ?_⟩
  have checks := condition.resolve_left (not_le.mpr short)
  exact sameTables_of_short parameters unit payload now checks short handled

end

/-- An ID claim cut after its third byte. -/
def shortIdClaim : List UInt8 := [0x01, 0x02, 0xAA]

theorem not_safelyDispatched_shortIdClaim :
    ¬ SafelyDispatched ⟨.default, 1000, fun _ => none⟩
        (.initial ⟨.default, 1000, fun _ => none⟩
          { uid := 1, uid_ne_zero := by decide, features := 0, lastHeartbeat := 0 })
        .management shortIdClaim 0 := by
  intro safe
  refine safe.1 5 ?_
  rfl

end RtCore.Cdmp
