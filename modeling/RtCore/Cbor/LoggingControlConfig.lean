import RtCore.Cbor.Serializer

/-!
# The logging control configuration in CBOR

A trigger names a value of an event and, as its selector, an integer, a text or a bool, of which
the decoder tries one after the other from the same position. An integer may be written up to
`2^32 - 1` and is kept as the `int32_t` of the same bits. Both walks allow 16 triggers.

## Main definitions

* `CborLoggingControlConfig` and its parts
* `Zcbor.encodeCborLoggingControlConfig`, `Zcbor.decodeCborLoggingControlConfig`
* `cborGetSizeCborLoggingControlConfig`

## Main results

* `CborLoggingControlConfig.roundTrips`
-/

namespace RtCore.Cbor

open RtCore.Foundation CborSizeCalc

/-- The value a selector compares with, in one of the three types CBOR has for it. -/
inductive CborLoggingTriggerSelectorValue
  | number (value : Int32)
  | text (value : Text)
  | flag (value : Bool)
deriving DecidableEq

/-- `CborLoggingControlBindingConfig`: a trigger as it is stored. -/
structure CborLoggingControlBindingConfig where
  channel : UInt32
  eventType : UInt32
  payloadKey : UInt32
  hasSelector : Bool
  selectorKey : UInt32
  /-- Integer 0 when there is no selector. -/
  selectorValue : CborLoggingTriggerSelectorValue
  targetUid : UInt32
deriving DecidableEq

/-- `CborLoggingControlConfig`: the whole document. -/
structure CborLoggingControlConfig where
  triggers : List CborLoggingControlBindingConfig
deriving DecidableEq

/-! ### Size -/

/-- How many bytes a selector's value takes. -/
def CborLoggingTriggerSelectorValue.size : CborLoggingTriggerSelectorValue → ℕ
  | .number value => sizeOfInt value.toInt
  | .text value => sizeOfTstr value
  | .flag value => sizeOfBool value

/-- How many bytes a trigger takes. -/
def CborLoggingControlBindingConfig.size (trigger : CborLoggingControlBindingConfig) : ℕ :=
  sizeOfIndefiniteArrayStart
    + sizeOfUint trigger.channel.toNat
    + sizeOfUint trigger.eventType.toNat
    + sizeOfUint trigger.payloadKey.toNat
    + sizeOfBool trigger.hasSelector
    + sizeOfUint trigger.selectorKey.toNat
    + trigger.selectorValue.size
    + sizeOfUint trigger.targetUid.toNat

/-- `cbor_get_size_CborLoggingControlConfig`: the size of the buffer to encode into. -/
def cborGetSizeCborLoggingControlConfig (config : CborLoggingControlConfig) : ℕ :=
  sizeOfIndefiniteArrayStart + sizeOfIndefiniteArrayStart
    + (config.triggers.map CborLoggingControlBindingConfig.size).sum

/-! ### Encoder and decoder -/

namespace Zcbor

/-- `k_max_triggers`. -/
def maxTriggers : ℕ := 16

variable (zcbor : Zcbor)

/-- The generated encoder of a selector's value. -/
def encodeCborSelectorValueType : CborLoggingTriggerSelectorValue → Walk zcbor.EncodeState Unit
  | .number value => zcbor.int32Encode value
  | .text value => zcbor.tstrEncode value
  | .flag value => zcbor.boolEncode value

/-- The generated encoder of a trigger. -/
def encodeCborLoggingControlBindingConfig (input : CborLoggingControlBindingConfig) :
    Walk zcbor.EncodeState Unit :=
  zcbor.listEncode 7 do
    zcbor.uint32Encode input.channel
    zcbor.uint32Encode input.eventType
    zcbor.uint32Encode input.payloadKey
    zcbor.boolEncode input.hasSelector
    zcbor.uint32Encode input.selectorKey
    zcbor.encodeCborSelectorValueType input.selectorValue
    zcbor.uint32Encode input.targetUid

/-- The generated encoder of the document, of 16 triggers at most. -/
def encodeCborLoggingControlConfig (input : CborLoggingControlConfig) :
    Walk zcbor.EncodeState Unit :=
  zcbor.listEncode 1 (zcbor.listEncode 16
    (Walk.multiEncodeMinmax 0 16 zcbor.encodeCborLoggingControlBindingConfig input.triggers))

/-- An integer outside the range fails the decode and is not tried as text. -/
def decodeCborSelectorValueType : Walk zcbor.DecodeState CborLoggingTriggerSelectorValue := do
  let backup ← get
  let number ← zcbor.int64Decode.whenPresent
  match number with
  | some value =>
    if value < -2 ^ 31 ∨ 2 ^ 32 - 1 < value then
      set backup
      failure
    else
      return .number (Int32.ofInt value)
  | none =>
    set backup
    (CborLoggingTriggerSelectorValue.text <$> zcbor.tstrDecode) <|> do
      set backup
      (CborLoggingTriggerSelectorValue.flag <$> zcbor.boolDecode) <|> do
        set backup
        failure

/-- The generated decoder of a trigger. -/
def decodeCborLoggingControlBindingConfig :
    Walk zcbor.DecodeState CborLoggingControlBindingConfig :=
  zcbor.listDecode do
    let channel ← zcbor.uint32Decode
    let eventType ← zcbor.uint32Decode
    let payloadKey ← zcbor.uint32Decode
    let hasSelector ← zcbor.boolDecode
    let selectorKey ← zcbor.uint32Decode
    let selectorValue ← zcbor.decodeCborSelectorValueType
    let targetUid ← zcbor.uint32Decode
    return { channel, eventType, payloadKey, hasSelector, selectorKey, selectorValue, targetUid }

/-- The number of triggers is checked before each. -/
def decodeCborLoggingControlConfig (rounds : ℕ) :
    Walk zcbor.DecodeState CborLoggingControlConfig := do
  zcbor.listStartDecode
  zcbor.listStartDecode.cleanUp zcbor.listEndDecode
  let triggers ← Walk.many zcbor.arrayAtEnd
    (fun triggers =>
      (if triggers.length ≥ maxTriggers then failure
        else zcbor.decodeCborLoggingControlBindingConfig).cleanUp do
          zcbor.listMapEndForceDecode.ignore
          zcbor.listEndDecode.ignore
          zcbor.listEndDecode)
    rounds []
  zcbor.listEndDecode.cleanUp zcbor.listEndDecode
  zcbor.listEndDecode
  return { triggers }

/-- `states[5]`. -/
def cborLoggingControlConfigTrait : CborTrait CborLoggingControlConfig :=
  zcbor.trait 5 zcbor.encodeCborLoggingControlConfig zcbor.decodeCborLoggingControlConfig
    cborGetSizeCborLoggingControlConfig

end Zcbor

/-! ### The bytes of a configuration -/

/-- The encoding of a selector's value. -/
def CborLoggingTriggerSelectorValue.bytes : CborLoggingTriggerSelectorValue → List UInt8
  | .number value => intBytes value
  | .text value => tstrBytes value
  | .flag value => boolBytes value

/-- The encoding of a trigger. -/
def CborLoggingControlBindingConfig.bytes (trigger : CborLoggingControlBindingConfig) :
    List UInt8 :=
  containerBytes listStart
    (uintBytes trigger.channel ++ (uintBytes trigger.eventType ++ (uintBytes trigger.payloadKey ++
      (boolBytes trigger.hasSelector ++ (uintBytes trigger.selectorKey ++
        (trigger.selectorValue.bytes ++ (uintBytes trigger.targetUid ++ [])))))))

/-- The encoding of the document. -/
def CborLoggingControlConfig.bytes (config : CborLoggingControlConfig) : List UInt8 :=
  containerBytes listStart
    (containerBytes listStart (config.triggers.flatMap CborLoggingControlBindingConfig.bytes))

theorem CborLoggingTriggerSelectorValue.length_bytes (value : CborLoggingTriggerSelectorValue) :
    value.bytes.length = value.size := by
  cases value with
  | number value => exact length_intBytes value
  | text value => exact length_tstrBytes value
  | flag value => exact length_boolBytes value

theorem CborLoggingControlBindingConfig.length_bytes (trigger : CborLoggingControlBindingConfig) :
    trigger.bytes.length = trigger.size := by
  rw [bytes, size]
  simp only [length_containerBytes, List.length_append, List.length_nil, length_uintBytes,
    length_boolBytes, CborLoggingTriggerSelectorValue.length_bytes]
  omega

/-- The computed size is the size of the encoding. -/
theorem CborLoggingControlConfig.length_bytes (config : CborLoggingControlConfig) :
    config.bytes.length = cborGetSizeCborLoggingControlConfig config := by
  have each : (fun trigger : CborLoggingControlBindingConfig => trigger.bytes.length) =
      CborLoggingControlBindingConfig.size := funext CborLoggingControlBindingConfig.length_bytes
  rw [bytes, cborGetSizeCborLoggingControlConfig, length_containerBytes, length_containerBytes,
    List.length_flatMap, each]
  omega

/-! ### Round trip -/

section RoundTrip

variable {zcbor : Zcbor} (laws : zcbor.Laws)

theorem writes_cborSelectorValueType (input : CborLoggingTriggerSelectorValue) :
    Writes laws.Room (zcbor.encodeCborSelectorValueType input) input.bytes := by
  cases input with
  | number value => exact laws.int32Encode value
  | text value => exact laws.tstrEncode value
  | flag value => exact laws.boolEncode value

theorem writes_cborLoggingControlBindingConfig (input : CborLoggingControlBindingConfig) :
    Writes laws.Room (zcbor.encodeCborLoggingControlBindingConfig input) input.bytes := by
  apply laws.listEncode
  apply (laws.uint32Encode input.channel).bind
  apply (laws.uint32Encode input.eventType).bind
  apply (laws.uint32Encode input.payloadKey).bind
  apply (laws.boolEncode input.hasSelector).bind
  apply (laws.uint32Encode input.selectorKey).bind
  apply (writes_cborSelectorValueType laws input.selectorValue).bind
  exact (laws.uint32Encode input.targetUid).last

theorem writes_cborLoggingControlConfig {input : CborLoggingControlConfig}
    (few : input.triggers.length ≤ Zcbor.maxTriggers) :
    Writes laws.Room (zcbor.encodeCborLoggingControlConfig input) input.bytes := by
  apply laws.listEncode
  apply laws.listEncode
  apply Writes.multi (Nat.zero_le _) few
  intro trigger _
  exact writes_cborLoggingControlBindingConfig laws trigger

theorem reads_cborSelectorValueType (input : CborLoggingTriggerSelectorValue) {needs : ℕ} :
    Reads laws.At zcbor.decodeCborSelectorValueType input.bytes input needs := by
  intro before rest depth free _ inside _ state here
  rw [Zcbor.decodeCborSelectorValueType, Walk.step_bind_some (Walk.step_get state)]
  -- The types are tried in this order; a refusal restores the state that it started from.
  cases input with
  | number value =>
    obtain ⟨next, step, there⟩ := laws.int64Decode value before rest depth free trivial inside
      (Nat.zero_le _) state here
    refine ⟨next, ?_, there⟩
    have low := value.le_toInt
    have high := value.toInt_lt
    rw [Walk.step_bind_some (Walk.step_whenPresent_some step)]
    dsimp only
    rw [if_neg (by omega), Int32.ofInt_toInt]
    rfl
  | text value =>
    obtain ⟨refused, refusal, -⟩ := laws.int64Decode_tstr value state before rest depth free inside
      here
    obtain ⟨next, step, there⟩ := laws.tstrDecode value before rest depth free trivial inside
      (Nat.zero_le _) state here
    refine ⟨next, ?_, there⟩
    rw [Walk.step_bind_some (Walk.step_whenPresent_none refusal)]
    dsimp only
    rw [Walk.step_bind_some (Walk.step_set refused state)]
    exact Walk.step_orElse_some (Walk.step_map_some step)
  | flag value =>
    obtain ⟨refused, refusal, -⟩ := laws.int64Decode_bool value state before rest depth free inside
      here
    obtain ⟨refused', refusal', -⟩ := laws.tstrDecode_bool value state before rest depth free inside
      here
    obtain ⟨next, step, there⟩ := laws.boolDecode value before rest depth free trivial inside
      (Nat.zero_le _) state here
    refine ⟨next, ?_, there⟩
    rw [Walk.step_bind_some (Walk.step_whenPresent_none refusal)]
    dsimp only
    rw [Walk.step_bind_some (Walk.step_set refused state),
      Walk.step_orElse_none (Walk.step_map_none refusal'),
      Walk.step_bind_some (Walk.step_set refused' state)]
    exact Walk.step_orElse_some (Walk.step_map_some step)

theorem reads_cborLoggingControlBindingConfig (input : CborLoggingControlBindingConfig) :
    Reads laws.At zcbor.decodeCborLoggingControlBindingConfig input.bytes input 1 := by
  apply laws.listDecode
  apply (laws.uint32Decode input.channel).andThen
  apply (laws.uint32Decode input.eventType).andThen
  apply (laws.uint32Decode input.payloadKey).andThen
  apply (laws.boolDecode input.hasSelector).andThen
  apply (laws.uint32Decode input.selectorKey).andThen
  apply (reads_cborSelectorValueType laws input.selectorValue).andThen
  apply (laws.uint32Decode input.targetUid).andThen
  exact ReadsBefore.nothing input

/-- The decoder takes the whole encoding, within the three containers it can keep open. -/
theorem runs_cborLoggingControlConfig {input : CborLoggingControlConfig} {rounds : ℕ}
    (few : input.triggers.length ≤ Zcbor.maxTriggers) (enough : input.bytes.length < rounds) :
    Runs laws.At (zcbor.decodeCborLoggingControlConfig rounds) input ⟨[], input.bytes, 0, 3⟩
      ⟨input.bytes, [], 0, 3⟩ := by
  simp only [CborLoggingControlConfig.bytes, length_containerBytes] at enough
  apply laws.listInList ?_ _ _ CborLoggingControlConfig.mk 3 (by decide : 1 + 2 ≤ 3)
  apply laws.many
  · intro seen fewer trigger _
    apply ReadsBefore.cleanUp
    rw [if_neg (by omega)]
    exact reads_cborLoggingControlBindingConfig laws trigger
  · intro trigger _
    exact containerBytes_start (by decide) _
  · omega

/-- Every configuration of at most 16 triggers fits its computed size and is read back. -/
theorem CborLoggingControlConfig.roundTrips (laws : zcbor.Laws) {config : CborLoggingControlConfig}
    (few : config.triggers.length ≤ Zcbor.maxTriggers) :
    RoundTrips zcbor.cborLoggingControlConfigTrait config :=
  RoundTrips.of_runs laws (List.cons_ne_nil _ _) config.length_bytes.le
    (writes_cborLoggingControlConfig laws few)
    (runs_cborLoggingControlConfig laws few (Nat.lt_succ_self _))

end RoundTrip

end RtCore.Cbor
