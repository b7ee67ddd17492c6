import RtCore.Cbor.Serializer

/-!
# The CAN bus configuration in CBOR

Channels hold messages and messages hold signals, each as a list behind the other fields of its
owner. Behind the channels stand the settings of the channel that carries management traffic.

## Main definitions

* `CborCanbusConfig` and its parts
* `Zcbor.encodeCborCanbusConfig`, `Zcbor.decodeCborCanbusConfig`
* `cborGetSizeCborCanbusConfig`

## Main results

* `CborCanbusConfig.roundTrips`
-/

namespace RtCore.Cbor

open RtCore.Foundation CborSizeCalc

/-- The floats are known by their bits. -/
structure CborCanSignalConfig where
  startBit : UInt32
  sizeBits : UInt32
  factor : UInt32
  offset : UInt32
  byteOrder : UInt32
  isSigned : Bool
  name : Text
  unit : Text
deriving DecidableEq

/-- `CborCanMessageConfig`: a message as it is stored. -/
structure CborCanMessageConfig where
  frameId : UInt32
  isEnabled : Bool
  sendIntervalMs : Int32
  scriptPath : Text
  name : Text
  messageSize : UInt32
  signals : List CborCanSignalConfig
deriving DecidableEq

/-- `CborCanChannelConfig`: a channel as it is stored, its bus channel inside it. -/
structure CborCanChannelConfig where
  type : UInt32
  isExtendedId : Bool
  busChannel : UInt32
  bitrate : UInt32
  dataBitrate : UInt32
  messages : List CborCanMessageConfig
deriving DecidableEq

/-- `busChannel` is -1 when unset. -/
structure CborCanbusComConfig where
  busChannel : Int32
  cdmpBaseCanId : UInt32
  smpCanIdBase : UInt32
  smpBusSharePercent : UInt32
deriving DecidableEq

/-- `CborCanbusConfig`: the whole document. -/
structure CborCanbusConfig where
  channels : List CborCanChannelConfig
  comConfig : CborCanbusComConfig
deriving DecidableEq

/-! ### Size -/

/-- How many bytes a signal takes. -/
def CborCanSignalConfig.size (signal : CborCanSignalConfig) : ℕ :=
  sizeOfIndefiniteArrayStart
    + sizeOfUint signal.startBit.toNat
    + sizeOfUint signal.sizeBits.toNat
    + sizeOfFloat signal.factor
    + sizeOfFloat signal.offset
    + sizeOfUint signal.byteOrder.toNat
    + sizeOfBool signal.isSigned
    + sizeOfTstr signal.name
    + sizeOfTstr signal.unit

/-- How many bytes a message takes. -/
def CborCanMessageConfig.size (message : CborCanMessageConfig) : ℕ :=
  sizeOfIndefiniteArrayStart
    + sizeOfUint message.frameId.toNat
    + sizeOfBool message.isEnabled
    + sizeOfInt message.sendIntervalMs.toInt
    + sizeOfTstr message.scriptPath
    + sizeOfTstr message.name
    + sizeOfUint message.messageSize.toNat
    + sizeOfIndefiniteArrayStart
    + (message.signals.map CborCanSignalConfig.size).sum

/-- How many bytes a channel takes. -/
def CborCanChannelConfig.size (channel : CborCanChannelConfig) : ℕ :=
  sizeOfIndefiniteArrayStart
    + sizeOfUint channel.type.toNat
    + sizeOfBool channel.isExtendedId
    + sizeOfUint channel.busChannel.toNat
    + sizeOfUint channel.bitrate.toNat
    + sizeOfUint channel.dataBitrate.toNat
    + sizeOfIndefiniteArrayStart
    + (channel.messages.map CborCanMessageConfig.size).sum

/-- `cbor_get_size_CborCanbusConfig`: the size of the buffer to encode into. -/
def cborGetSizeCborCanbusConfig (config : CborCanbusConfig) : ℕ :=
  sizeOfIndefiniteArrayStart + sizeOfIndefiniteArrayStart
    + (config.channels.map CborCanChannelConfig.size).sum
    + sizeOfIndefiniteArrayStart
    + sizeOfInt config.comConfig.busChannel.toInt
    + sizeOfUint config.comConfig.cdmpBaseCanId.toNat
    + sizeOfUint config.comConfig.smpCanIdBase.toNat
    + sizeOfUint config.comConfig.smpBusSharePercent.toNat

/-! ### Encoder and decoder -/

namespace Zcbor

variable (zcbor : Zcbor)

/-- The generated encoder of a signal. -/
def encodeCborCanSignalConfig (input : CborCanSignalConfig) : Walk zcbor.EncodeState Unit :=
  zcbor.listEncode 8 do
    zcbor.uint32Encode input.startBit
    zcbor.uint32Encode input.sizeBits
    zcbor.float32Encode input.factor
    zcbor.float32Encode input.offset
    zcbor.uint32Encode input.byteOrder
    zcbor.boolEncode input.isSigned
    zcbor.tstrEncode input.name
    zcbor.tstrEncode input.unit

/-- The generated encoder of a message. -/
def encodeCborCanMessageConfig (input : CborCanMessageConfig) : Walk zcbor.EncodeState Unit :=
  zcbor.listEncode 7 do
    zcbor.uint32Encode input.frameId
    zcbor.boolEncode input.isEnabled
    zcbor.int32Encode input.sendIntervalMs
    zcbor.tstrEncode input.scriptPath
    zcbor.tstrEncode input.name
    zcbor.uint32Encode input.messageSize
    zcbor.listEncode input.signals.length
      (Walk.multiEncodeMinmax 0 input.signals.length zcbor.encodeCborCanSignalConfig input.signals)

/-- The generated encoder of a channel. -/
def encodeCborCanChannelConfig (input : CborCanChannelConfig) : Walk zcbor.EncodeState Unit :=
  zcbor.listEncode 6 do
    zcbor.uint32Encode input.type
    zcbor.boolEncode input.isExtendedId
    zcbor.uint32Encode input.busChannel
    zcbor.uint32Encode input.bitrate
    zcbor.uint32Encode input.dataBitrate
    zcbor.listEncode input.messages.length
      (Walk.multiEncodeMinmax 0 input.messages.length zcbor.encodeCborCanMessageConfig
        input.messages)

/-- The generated encoder of the COM configuration. -/
def encodeCborCanbusComConfig (input : CborCanbusComConfig) : Walk zcbor.EncodeState Unit :=
  zcbor.listEncode 4 do
    zcbor.int32Encode input.busChannel
    zcbor.uint32Encode input.cdmpBaseCanId
    zcbor.uint32Encode input.smpCanIdBase
    zcbor.uint32Encode input.smpBusSharePercent

/-- The generated encoder of the document. -/
def encodeCborCanbusConfig (input : CborCanbusConfig) : Walk zcbor.EncodeState Unit :=
  zcbor.listEncode 2 do
    zcbor.listEncode input.channels.length
      (Walk.multiEncodeMinmax 0 input.channels.length zcbor.encodeCborCanChannelConfig
        input.channels)
    zcbor.encodeCborCanbusComConfig input.comConfig

/-- The generated decoder of a signal. -/
def decodeCborCanSignalConfig : Walk zcbor.DecodeState CborCanSignalConfig :=
  zcbor.listDecode do
    let startBit ← zcbor.uint32Decode
    let sizeBits ← zcbor.uint32Decode
    let factor ← zcbor.float32Decode
    let offset ← zcbor.float32Decode
    let byteOrder ← zcbor.uint32Decode
    let isSigned ← zcbor.boolDecode
    let name ← zcbor.tstrDecode
    let unit ← zcbor.tstrDecode
    return { startBit, sizeBits, factor, offset, byteOrder, isSigned, name, unit }

/-- The generated decoder of a message. -/
def decodeCborCanMessageConfig (rounds : ℕ) : Walk zcbor.DecodeState CborCanMessageConfig := do
  zcbor.listStartDecode
  let frameId ← zcbor.uint32Decode.cleanUp zcbor.listEndDecode
  let isEnabled ← zcbor.boolDecode.cleanUp zcbor.listEndDecode
  let sendIntervalMs ← zcbor.int32Decode.cleanUp zcbor.listEndDecode
  let scriptPath ← zcbor.tstrDecode.cleanUp zcbor.listEndDecode
  let name ← zcbor.tstrDecode.cleanUp zcbor.listEndDecode
  let messageSize ← zcbor.uint32Decode.cleanUp zcbor.listEndDecode
  zcbor.listStartDecode.cleanUp zcbor.listEndDecode
  let signals ← zcbor.decodeElements zcbor.decodeCborCanSignalConfig rounds
  zcbor.listEndDecode.cleanUp zcbor.listEndDecode
  zcbor.listEndDecode
  return { frameId, isEnabled, sendIntervalMs, scriptPath, name, messageSize, signals }

/-- The generated decoder of a channel. -/
def decodeCborCanChannelConfig (rounds : ℕ) : Walk zcbor.DecodeState CborCanChannelConfig := do
  zcbor.listStartDecode
  let type ← zcbor.uint32Decode.cleanUp zcbor.listEndDecode
  let isExtendedId ← zcbor.boolDecode.cleanUp zcbor.listEndDecode
  let busChannel ← zcbor.uint32Decode.cleanUp zcbor.listEndDecode
  let bitrate ← zcbor.uint32Decode.cleanUp zcbor.listEndDecode
  let dataBitrate ← zcbor.uint32Decode.cleanUp zcbor.listEndDecode
  zcbor.listStartDecode.cleanUp zcbor.listEndDecode
  let messages ← zcbor.decodeElements (zcbor.decodeCborCanMessageConfig rounds) rounds
  zcbor.listEndDecode.cleanUp zcbor.listEndDecode
  zcbor.listEndDecode
  return { type, isExtendedId, busChannel, bitrate, dataBitrate, messages }

/-- The generated decoder of the COM configuration. -/
def decodeCborCanbusComConfig : Walk zcbor.DecodeState CborCanbusComConfig :=
  zcbor.listDecode do
    let busChannel ← zcbor.int32Decode
    let cdmpBaseCanId ← zcbor.uint32Decode
    let smpCanIdBase ← zcbor.uint32Decode
    let smpBusSharePercent ← zcbor.uint32Decode
    return { busChannel, cdmpBaseCanId, smpCanIdBase, smpBusSharePercent }

/-- The generated decoder of the document. -/
def decodeCborCanbusConfig (rounds : ℕ) : Walk zcbor.DecodeState CborCanbusConfig := do
  zcbor.listStartDecode
  zcbor.listStartDecode.cleanUp zcbor.listEndDecode
  let channels ← zcbor.decodeElements (zcbor.decodeCborCanChannelConfig rounds) rounds
  zcbor.listEndDecode
  let comConfig ← zcbor.decodeCborCanbusComConfig
  zcbor.listEndDecode
  return { channels, comConfig }

/-- `states[9]`. -/
def cborCanbusConfigTrait : CborTrait CborCanbusConfig :=
  zcbor.trait 9 zcbor.encodeCborCanbusConfig zcbor.decodeCborCanbusConfig
    cborGetSizeCborCanbusConfig

end Zcbor

/-! ### The bytes of a configuration -/

/-- The encoding of a signal. -/
def CborCanSignalConfig.bytes (signal : CborCanSignalConfig) : List UInt8 :=
  containerBytes listStart
    (uintBytes signal.startBit ++ (uintBytes signal.sizeBits ++ (floatBytes signal.factor ++
      (floatBytes signal.offset ++ (uintBytes signal.byteOrder ++ (boolBytes signal.isSigned ++
        (tstrBytes signal.name ++ (tstrBytes signal.unit ++ []))))))))

/-- The encoding of a message. -/
def CborCanMessageConfig.bytes (message : CborCanMessageConfig) : List UInt8 :=
  containerBytes listStart
    (uintBytes message.frameId ++ (boolBytes message.isEnabled ++
      (intBytes message.sendIntervalMs ++ (tstrBytes message.scriptPath ++
        (tstrBytes message.name ++ (uintBytes message.messageSize ++
          (containerBytes listStart (message.signals.flatMap CborCanSignalConfig.bytes) ++ [])))))))

/-- The encoding of a channel. -/
def CborCanChannelConfig.bytes (channel : CborCanChannelConfig) : List UInt8 :=
  containerBytes listStart
    (uintBytes channel.type ++ (boolBytes channel.isExtendedId ++ (uintBytes channel.busChannel ++
      (uintBytes channel.bitrate ++ (uintBytes channel.dataBitrate ++
        (containerBytes listStart (channel.messages.flatMap CborCanMessageConfig.bytes) ++ []))))))

/-- The encoding of the COM configuration. -/
def CborCanbusComConfig.bytes (com : CborCanbusComConfig) : List UInt8 :=
  containerBytes listStart
    (intBytes com.busChannel ++ (uintBytes com.cdmpBaseCanId ++ (uintBytes com.smpCanIdBase ++
      (uintBytes com.smpBusSharePercent ++ []))))

/-- The encoding of the document. -/
def CborCanbusConfig.bytes (config : CborCanbusConfig) : List UInt8 :=
  containerBytes listStart
    (containerBytes listStart (config.channels.flatMap CborCanChannelConfig.bytes) ++
      (config.comConfig.bytes ++ []))

theorem CborCanSignalConfig.length_bytes (signal : CborCanSignalConfig) :
    signal.bytes.length = signal.size := by
  rw [bytes, size]
  simp only [length_containerBytes, List.length_append, List.length_nil, length_uintBytes,
    length_floatBytes, length_boolBytes, length_tstrBytes]
  omega

theorem CborCanMessageConfig.length_bytes (message : CborCanMessageConfig) :
    message.bytes.length = message.size := by
  have each : (fun signal : CborCanSignalConfig => signal.bytes.length) =
      CborCanSignalConfig.size := funext CborCanSignalConfig.length_bytes
  rw [bytes, size]
  simp only [length_containerBytes, List.length_append, List.length_nil, length_uintBytes,
    length_intBytes, length_boolBytes, length_tstrBytes, List.length_flatMap, each]
  omega

theorem CborCanChannelConfig.length_bytes (channel : CborCanChannelConfig) :
    channel.bytes.length = channel.size := by
  have each : (fun message : CborCanMessageConfig => message.bytes.length) =
      CborCanMessageConfig.size := funext CborCanMessageConfig.length_bytes
  rw [bytes, size]
  simp only [length_containerBytes, List.length_append, List.length_nil, length_uintBytes,
    length_boolBytes, List.length_flatMap, each]
  omega

/-- The computed size is the size of the encoding. -/
theorem CborCanbusConfig.length_bytes (config : CborCanbusConfig) :
    config.bytes.length = cborGetSizeCborCanbusConfig config := by
  have each : (fun channel : CborCanChannelConfig => channel.bytes.length) =
      CborCanChannelConfig.size := funext CborCanChannelConfig.length_bytes
  rw [bytes, cborGetSizeCborCanbusConfig]
  simp only [CborCanbusComConfig.bytes, length_containerBytes, List.length_append,
    List.length_nil, length_uintBytes, length_intBytes, List.length_flatMap, each]
  omega

/-! ### Round trip -/

section RoundTrip

variable {zcbor : Zcbor} (laws : zcbor.Laws)

theorem writes_cborCanSignalConfig (input : CborCanSignalConfig) :
    Writes laws.Room (zcbor.encodeCborCanSignalConfig input) input.bytes := by
  apply laws.listEncode
  apply (laws.uint32Encode input.startBit).bind
  apply (laws.uint32Encode input.sizeBits).bind
  apply (laws.float32Encode input.factor).bind
  apply (laws.float32Encode input.offset).bind
  apply (laws.uint32Encode input.byteOrder).bind
  apply (laws.boolEncode input.isSigned).bind
  apply (laws.tstrEncode input.name).bind
  exact (laws.tstrEncode input.unit).last

theorem writes_cborCanMessageConfig (input : CborCanMessageConfig) :
    Writes laws.Room (zcbor.encodeCborCanMessageConfig input) input.bytes := by
  apply laws.listEncode
  apply (laws.uint32Encode input.frameId).bind
  apply (laws.boolEncode input.isEnabled).bind
  apply (laws.int32Encode input.sendIntervalMs).bind
  apply (laws.tstrEncode input.scriptPath).bind
  apply (laws.tstrEncode input.name).bind
  apply (laws.uint32Encode input.messageSize).bind
  apply Writes.last
  apply laws.listEncode
  apply Writes.multi (Nat.zero_le _) le_rfl
  intro signal _
  exact writes_cborCanSignalConfig laws signal

theorem writes_cborCanChannelConfig (input : CborCanChannelConfig) :
    Writes laws.Room (zcbor.encodeCborCanChannelConfig input) input.bytes := by
  apply laws.listEncode
  apply (laws.uint32Encode input.type).bind
  apply (laws.boolEncode input.isExtendedId).bind
  apply (laws.uint32Encode input.busChannel).bind
  apply (laws.uint32Encode input.bitrate).bind
  apply (laws.uint32Encode input.dataBitrate).bind
  apply Writes.last
  apply laws.listEncode
  apply Writes.multi (Nat.zero_le _) le_rfl
  intro message _
  exact writes_cborCanMessageConfig laws message

theorem writes_cborCanbusComConfig (input : CborCanbusComConfig) :
    Writes laws.Room (zcbor.encodeCborCanbusComConfig input) input.bytes := by
  apply laws.listEncode
  apply (laws.int32Encode input.busChannel).bind
  apply (laws.uint32Encode input.cdmpBaseCanId).bind
  apply (laws.uint32Encode input.smpCanIdBase).bind
  exact (laws.uint32Encode input.smpBusSharePercent).last

theorem writes_cborCanbusConfig (input : CborCanbusConfig) :
    Writes laws.Room (zcbor.encodeCborCanbusConfig input) input.bytes := by
  apply laws.listEncode
  apply Writes.bind ?_ (writes_cborCanbusComConfig laws input.comConfig).last
  apply laws.listEncode
  apply Writes.multi (Nat.zero_le _) le_rfl
  intro channel _
  exact writes_cborCanChannelConfig laws channel

theorem reads_cborCanSignalConfig (input : CborCanSignalConfig) :
    Reads laws.At zcbor.decodeCborCanSignalConfig input.bytes input 1 := by
  apply laws.listDecode
  apply (laws.uint32Decode input.startBit).andThen
  apply (laws.uint32Decode input.sizeBits).andThen
  apply (laws.float32Decode input.factor).andThen
  apply (laws.float32Decode input.offset).andThen
  apply (laws.uint32Decode input.byteOrder).andThen
  apply (laws.boolDecode input.isSigned).andThen
  apply (laws.tstrDecode input.name).andThen
  apply (laws.tstrDecode input.unit).andThen
  exact ReadsBefore.nothing input

/-- The message as a list whose last field is a list. -/
private theorem decodeCborCanMessageConfig_eq (rounds : ℕ) :
    zcbor.decodeCborCanMessageConfig rounds = (do
      zcbor.listStartDecode
      let message ← (do
        let frameId ← zcbor.uint32Decode.cleanUp zcbor.listEndDecode
        let isEnabled ← zcbor.boolDecode.cleanUp zcbor.listEndDecode
        let sendIntervalMs ← zcbor.int32Decode.cleanUp zcbor.listEndDecode
        let scriptPath ← zcbor.tstrDecode.cleanUp zcbor.listEndDecode
        let name ← zcbor.tstrDecode.cleanUp zcbor.listEndDecode
        let messageSize ← zcbor.uint32Decode.cleanUp zcbor.listEndDecode
        zcbor.listStartDecode.cleanUp zcbor.listEndDecode
        let signals ← zcbor.decodeElements zcbor.decodeCborCanSignalConfig rounds
        zcbor.listEndDecode.cleanUp zcbor.listEndDecode
        return { frameId, isEnabled, sendIntervalMs, scriptPath, name, messageSize, signals })
      zcbor.listEndDecode
      return message) := by
  simp only [Zcbor.decodeCborCanMessageConfig, bind_assoc, pure_bind]

theorem reads_cborCanMessageConfig (input : CborCanMessageConfig) {rounds : ℕ}
    (enough : input.bytes.length ≤ rounds) :
    Reads laws.At (zcbor.decodeCborCanMessageConfig rounds) input.bytes input 3 := by
  simp only [CborCanMessageConfig.bytes, length_containerBytes, List.length_append,
    sizeOfIndefiniteArrayStart] at enough
  have signals : ReadsBefore laws.At AtBreak
      (zcbor.decodeElements zcbor.decodeCborCanSignalConfig rounds)
      (input.signals.flatMap CborCanSignalConfig.bytes) input.signals 1 := by
    apply laws.elements
    · intro signal _
      exact reads_cborCanSignalConfig laws signal
    · intro signal _
      exact containerBytes_start (by decide) _
    · omega
  rw [decodeCborCanMessageConfig_eq]
  apply laws.list
  apply ((laws.uint32Decode input.frameId).cleanUp zcbor.listEndDecode).andThen
  apply ((laws.boolDecode input.isEnabled).cleanUp zcbor.listEndDecode).andThen
  apply ((laws.int32Decode input.sendIntervalMs).cleanUp zcbor.listEndDecode).andThen
  apply ((laws.tstrDecode input.scriptPath).cleanUp zcbor.listEndDecode).andThen
  apply ((laws.tstrDecode input.name).cleanUp zcbor.listEndDecode).andThen
  apply ((laws.uint32Decode input.messageSize).cleanUp zcbor.listEndDecode).andThen
  exact laws.lastList signals _ _ fun signals => { input with signals }

/-- The channel as a list whose last field is a list. -/
private theorem decodeCborCanChannelConfig_eq (rounds : ℕ) :
    zcbor.decodeCborCanChannelConfig rounds = (do
      zcbor.listStartDecode
      let channel ← (do
        let type ← zcbor.uint32Decode.cleanUp zcbor.listEndDecode
        let isExtendedId ← zcbor.boolDecode.cleanUp zcbor.listEndDecode
        let busChannel ← zcbor.uint32Decode.cleanUp zcbor.listEndDecode
        let bitrate ← zcbor.uint32Decode.cleanUp zcbor.listEndDecode
        let dataBitrate ← zcbor.uint32Decode.cleanUp zcbor.listEndDecode
        zcbor.listStartDecode.cleanUp zcbor.listEndDecode
        let messages ← zcbor.decodeElements (zcbor.decodeCborCanMessageConfig rounds) rounds
        zcbor.listEndDecode.cleanUp zcbor.listEndDecode
        return { type, isExtendedId, busChannel, bitrate, dataBitrate, messages })
      zcbor.listEndDecode
      return channel) := by
  simp only [Zcbor.decodeCborCanChannelConfig, bind_assoc, pure_bind]

theorem reads_cborCanChannelConfig (input : CborCanChannelConfig) {rounds : ℕ}
    (enough : input.bytes.length ≤ rounds) :
    Reads laws.At (zcbor.decodeCborCanChannelConfig rounds) input.bytes input 5 := by
  simp only [CborCanChannelConfig.bytes, length_containerBytes, List.length_append,
    sizeOfIndefiniteArrayStart] at enough
  have messages : ReadsBefore laws.At AtBreak
      (zcbor.decodeElements (zcbor.decodeCborCanMessageConfig rounds) rounds)
      (input.messages.flatMap CborCanMessageConfig.bytes) input.messages 3 := by
    apply laws.elements
    · intro message member
      apply reads_cborCanMessageConfig
      exact (length_le_flatMap member).trans (by omega)
    · intro message _
      exact containerBytes_start (by decide) _
    · omega
  rw [decodeCborCanChannelConfig_eq]
  apply laws.list
  apply ((laws.uint32Decode input.type).cleanUp zcbor.listEndDecode).andThen
  apply ((laws.boolDecode input.isExtendedId).cleanUp zcbor.listEndDecode).andThen
  apply ((laws.uint32Decode input.busChannel).cleanUp zcbor.listEndDecode).andThen
  apply ((laws.uint32Decode input.bitrate).cleanUp zcbor.listEndDecode).andThen
  apply ((laws.uint32Decode input.dataBitrate).cleanUp zcbor.listEndDecode).andThen
  exact laws.lastList messages _ _ fun messages => { input with messages }

theorem reads_cborCanbusComConfig (input : CborCanbusComConfig) :
    Reads laws.At zcbor.decodeCborCanbusComConfig input.bytes input 1 := by
  apply laws.listDecode
  apply (laws.int32Decode input.busChannel).andThen
  apply (laws.uint32Decode input.cdmpBaseCanId).andThen
  apply (laws.uint32Decode input.smpCanIdBase).andThen
  apply (laws.uint32Decode input.smpBusSharePercent).andThen
  exact ReadsBefore.nothing input

/-- The decoder takes the whole encoding, within the seven containers it can keep open. -/
theorem runs_cborCanbusConfig (input : CborCanbusConfig) {rounds : ℕ}
    (enough : input.bytes.length < rounds) :
    Runs laws.At (zcbor.decodeCborCanbusConfig rounds) input ⟨[], input.bytes, 0, 7⟩
      ⟨input.bytes, [], 0, 7⟩ := by
  simp only [CborCanbusConfig.bytes, length_containerBytes, List.length_append] at enough
  have channels : ReadsBefore laws.At AtBreak
      (zcbor.decodeElements (zcbor.decodeCborCanChannelConfig rounds) rounds)
      (input.channels.flatMap CborCanChannelConfig.bytes) input.channels 5 := by
    apply laws.elements
    · intro channel member
      apply reads_cborCanChannelConfig
      exact (length_le_flatMap member).trans (by omega)
    · intro channel _
      exact containerBytes_start (by decide) _
    · omega
  let list := containerBytes listStart (input.channels.flatMap CborCanChannelConfig.bytes)
  -- The outer list by hand, as the channels inside are a list of their own with no fixed length.
  have entered := laws.listStartDecode [] (list ++ (input.comConfig.bytes ++ [breakByte])) 0 6
    (Or.inr rfl)
  have com := (reads_cborCanbusComConfig laws input.comConfig) ([listStart] ++ list) [breakByte] 1 6
    trivial Nat.one_pos (by decide)
  have left := laws.listEndDecode ([listStart] ++ list ++ input.comConfig.bytes) [] 0 6
  have ahead : input.bytes = listStart :: (list ++ (input.comConfig.bytes ++ [breakByte])) := by
    simp [CborCanbusConfig.bytes, list, containerBytes]
  have behind : input.bytes = [listStart] ++ list ++ input.comConfig.bytes ++ [breakByte] := by
    simp [CborCanbusConfig.bytes, list, containerBytes]
  have afterwards : Runs laws.At (do
        let comConfig ← zcbor.decodeCborCanbusComConfig
        zcbor.listEndDecode
        return ({ channels := input.channels, comConfig } : CborCanbusConfig))
      input ⟨[listStart] ++ list, input.comConfig.bytes ++ [breakByte], 1, 6⟩
      ⟨input.bytes, [], 0, 7⟩ := by
    rw [behind]
    exact com.bind (left.bind (Runs.pure input _))
  conv in (Cursor.mk [] _ _ _) => rw [ahead]
  exact entered.bind (laws.container
    (fun before rest depth free mayRead =>
      (laws.listStartDecode before rest depth free mayRead).cleanUp zcbor.listEndDecode)
    laws.listEndDecode channels (Or.inl Nat.one_pos) (by decide) afterwards)

/-- Every configuration fits its computed size and is read back. -/
theorem CborCanbusConfig.roundTrips (laws : zcbor.Laws) (config : CborCanbusConfig) :
    RoundTrips zcbor.cborCanbusConfigTrait config :=
  RoundTrips.of_runs laws (List.cons_ne_nil _ _) config.length_bytes.le
    (writes_cborCanbusConfig laws config)
    (runs_cborCanbusConfig laws config (Nat.lt_succ_self _))

end RoundTrip

end RtCore.Cbor
