import RtCore.Can.Identifiers
import RtCore.Cbor.CanbusConfig
import RtCore.Foundation.Checks
import RtCore.Foundation.FloatBits

/-!
# The CAN bus configuration

The channels with their messages and signals, and the settings of the channel that carries
management traffic. The configuration is validated before it is converted to its stored form and
after it was converted back. Stored numbers are wider than the fields: a channel beyond 255 is
refused, a type and a byte order are cut to their byte, a share beyond 255 is clamped.

The Lua script of a message is loaded from the card when the configuration is; it is no part of
what is stored.

## Main definitions

* `CanbusConfiguration`, `CanbusConfigurationValidator.validate`
* `CanbusConfigurationCborParser.serialize`, `CanbusConfigurationCborParser.deserialize`

## Main results

* `CanbusConfigurationCborParser.deserialize_of_serialize` — what is serialized is deserialized
-/

namespace RtCore.Can

open RtCore.Foundation RtCore.Cbor

/-! ### Configuration -/

/-- The floats are known by their bits; the byte order is one of a byte. -/
structure CanSignalConfiguration where
  startBit : UInt32
  sizeBits : UInt32
  factor : UInt32
  offset : UInt32
  byteOrder : UInt8
  isSigned : Bool
  name : Text
  unit : Text
deriving DecidableEq

/-- A message of a channel, with the signals in it. -/
structure CanMessageConfiguration where
  frameId : UInt32
  isEnabled : Bool
  sendIntervalMs : Option Int32
  scriptPath : Text
  name : Text
  messageSize : UInt32
  signalConfigurations : List CanSignalConfiguration
deriving DecidableEq

/-- The type is one of a byte. -/
structure CanChannelConfiguration where
  type : UInt8
  isExtendedId : Bool
  busChannel : UInt8
  bitrate : UInt32
  dataBitrate : UInt32
  messageConfigurations : List CanMessageConfiguration
deriving DecidableEq

/-- The bus that carries the device network and management traffic. -/
structure CanbusComConfiguration where
  /-- None disables management traffic. -/
  busChannel : Option UInt8
  cdmpBaseCanId : UInt32
  smpCanIdBase : UInt32
  smpBusSharePercent : UInt8
deriving DecidableEq

/-- A map from bus channels to their configurations, in the order it is enumerated. -/
structure CanbusConfiguration where
  channelConfigurations : List (UInt8 × CanChannelConfiguration)
  comConfiguration : CanbusComConfiguration
  nodup : (channelConfigurations.map Prod.fst).Nodup
deriving DecidableEq

/-- The channels of a configuration are under their own numbers. -/
def CanbusConfiguration.KeysMatch (configuration : CanbusConfiguration) : Prop :=
  ∀ entry ∈ configuration.channelConfigurations, entry.2.busChannel = entry.1

instance (configuration : CanbusConfiguration) : Decidable configuration.KeysMatch :=
  inferInstanceAs (Decidable (∀ entry ∈ configuration.channelConfigurations,
    entry.2.busChannel = entry.1))

/-- What the parser throws. -/
inductive CanbusError
  | bus (busChannel : UInt8) (message : String)
  | com (message : String)
  | message (busChannel : UInt8) (frameId : UInt32) (message : String)
  | signal (busChannel : UInt8) (frameId : UInt32) (name : Text) (message : String)
  | busChannelOutOfRange (busChannel : UInt32)
  | duplicateBusChannel (busChannel : UInt8)
deriving DecidableEq

/-! ### Validator -/

/-- The bitrates of a classical bus, in the order of auto-detection. -/
def classicalCanSupportedBitrates : List UInt32 :=
  [500000, 1000000, 250000, 125000, 100000, 83333, 50000, 20000, 10000]

/-- The bitrates of a CAN FD bus, in the order of auto-detection. -/
def canfdSupportedBitrates : List UInt32 :=
  [500000, 1000000, 250000, 125000, 100000, 83333, 50000, 20000, 10000, 2000000, 4000000, 5000000,
    8000000]

/-- `CanbusType::CLASSICAL_CAN`. -/
def classicalCan : UInt8 := 1

/-- `CanbusType::CANFD`. -/
def canfd : UInt8 := 2

/-- 0 is a bitrate to be detected. -/
def isBitrateSupported (type : UInt8) (bitrate : UInt32) : Bool :=
  bitrate = 0 ||
    (if type = canfd then canfdSupportedBitrates
      else classicalCanSupportedBitrates).contains bitrate

/-- `Base + 99` is an 11-bit identifier. -/
def isValidBaseCanId (baseCanId : UInt32) : Bool := baseCanId ≤ CanId.widthMask false - 99

/-- A 29-bit base with the address bits clear. -/
def isValidBase (base : UInt32) : Bool :=
  base &&& ~~~CanId.widthMask true = 0 && base &&& 0x0000FFFF = 0

namespace CanSignalCodec

/-- The widest signal a payload can hold. -/
def maxSignalSizeBits : UInt32 := 64

/-- The byte of the last bit that a signal has. -/
def getLastByteIndex (signal : CanSignalConfiguration) : ℕ :=
  if signal.byteOrder = 0 then ((signal.startBit + signal.sizeBits - 1) / 8).toNat
  else
    let bitsInStartByte := signal.startBit % 8 + 1
    if signal.sizeBits ≤ bitsInStartByte then (signal.startBit / 8).toNat
    else (signal.startBit / 8 + (signal.sizeBits - bitsInStartByte + 7) / 8).toNat

/-- The signal's bits are in a payload of `dataSize` bytes. -/
def isLayoutValid (signal : CanSignalConfiguration) (dataSize : ℕ) : Bool :=
  !(signal.sizeBits = 0 || maxSignalSizeBits < signal.sizeBits) &&
    !(dataSize * 8 ≤ signal.startBit.toNat) && getLastByteIndex signal < dataSize

end CanSignalCodec

namespace CanbusConfigurationValidator

/-- A check of the validator: nothing, or the error it throws. -/
abbrev Check := Except CanbusError Unit

/-- The rules of names: `fail` is the error with a message. -/
def validateIdentifier (name : Text) (fail : String → CanbusError) : Check := do
  refuseIf (name.isEmpty = true) (fail "Name cannot be empty.")
  refuseIf (32 < name.size) (fail "Name cannot be longer than 32 characters.")
  refuseIf (name.bytes.head?.any (fun byte => isAlpha byte || byte = underscore) = false)
    (fail "Name must start with a letter or an underscore.")
  refuseIf (name.bytes.all (fun byte => isAlnum byte || byte = underscore) = false)
    (fail "Name must contain only letters, digits, and underscores.")

/-- `ValidateChannelType`: classical CAN or CAN FD. -/
def validateChannelType (channel : CanChannelConfiguration) : Check :=
  refuseIf (channel.type = 0 ∨ 3 ≤ channel.type) (.bus channel.busChannel "Invalid CAN bus type")

/-- `ValidateIsExtendedId`: every frame ID is within the channel's identifier width. -/
def validateIsExtendedId (channel : CanChannelConfiguration) : Check :=
  channel.messageConfigurations.forM fun message =>
    refuseIf (message.frameId &&& ~~~CanId.widthMask channel.isExtendedId ≠ 0)
      (.bus channel.busChannel "CAN frame ID exceeds the configured identifier width")

/-- `ValidateBitrate`: the bitrate is one that the channel's type supports. -/
def validateBitrate (channel : CanChannelConfiguration) : Check :=
  refuseIf (isBitrateSupported channel.type channel.bitrate = false)
    (.bus channel.busChannel "Invalid CAN bus bitrate")

/-- `ValidateDataBitrate`: only CAN FD has one, no lower than the bitrate and supported. -/
def validateDataBitrate (channel : CanChannelConfiguration) : Check := do
  refuseIf (0 < channel.dataBitrate ∧ channel.type = classicalCan)
    (.bus channel.busChannel "Classical CAN does not support data bitrate")
  refuseIf (0 < channel.dataBitrate ∧ channel.dataBitrate < channel.bitrate)
    (.bus channel.busChannel
      "Invalid CAN bus data bitrate. Data bitrate must be greater than or equal to bitrate")
  refuseIf (0 < channel.dataBitrate ∧ isBitrateSupported channel.type channel.dataBitrate = false)
    (.bus channel.busChannel "CAN bus data bitrate is not supported")

/-- `ValidateComConfiguration`: the COM bus is configured, and its ID ranges fit and do not meet. -/
def validateComConfiguration (configuration : CanbusConfiguration) : Check := do
  let com := configuration.comConfiguration
  refuseIf (com.busChannel.any (fun busChannel =>
      !(configuration.channelConfigurations.map Prod.fst).contains busChannel) = true)
    (.com "COM bus channel is not configured")
  refuseIf (isValidBaseCanId com.cdmpBaseCanId = false)
    (.com "CDMP base CAN ID leaves no room for the CDMP ID range")
  refuseIf (isValidBase com.smpCanIdBase = false)
    (.com "SMP CAN ID base must be a 29-bit ID with the address bits clear")
  refuseIf (com.smpBusSharePercent = 0 ∨ 100 < com.smpBusSharePercent)
    (.com "SMP bus share must be between 1 and 100 %")

/-- Which frame IDs were seen. -/
def validateMessageFrameId (channel : CanChannelConfiguration) : Check :=
  channel.messageConfigurations.zipIdx.forM fun (message, index) =>
    refuseIf (message.frameId ∈
        (channel.messageConfigurations.take index).map CanMessageConfiguration.frameId)
      (.message channel.busChannel message.frameId
        "CAN channel cannot contain duplicate Frame IDs.")

/-- `ValidateMessageSendIntervalMs`: an interval is positive where there is one. -/
def validateMessageSendIntervalMs (channel : CanChannelConfiguration) : Check :=
  channel.messageConfigurations.forM fun message =>
    refuseIf (message.sendIntervalMs.any (fun interval => interval.toInt ≤ 0) = true)
      (.message channel.busChannel message.frameId "Invalid send interval.")

/-- Only against a mounted card; `scripts` is what it has. -/
def validateMessageScriptPath (scripts : Option (Text → Bool)) (channel : CanChannelConfiguration) :
    Check :=
  match scripts with
  | none => .ok ()
  | some exists_ =>
    channel.messageConfigurations.forM fun message =>
      refuseIf (message.scriptPath.isEmpty = false ∧ exists_ message.scriptPath = false)
        (.message channel.busChannel message.frameId "Invalid script path.")

/-- `ValidateMessageName`: every name is an identifier. -/
def validateMessageName (channel : CanChannelConfiguration) : Check :=
  channel.messageConfigurations.forM fun message =>
    validateIdentifier message.name (.message channel.busChannel message.frameId)

/-- `ValidateMessageSize`: one byte at least, and at most what the channel's type carries. -/
def validateMessageSize (channel : CanChannelConfiguration) : Check :=
  channel.messageConfigurations.forM fun message => do
    refuseIf (message.messageSize < 1)
      (.message channel.busChannel message.frameId "Message size cannot be less than 1 byte.")
    refuseIf (channel.type = classicalCan ∧ 8 < message.messageSize)
      (.message channel.busChannel message.frameId
        "Message size cannot be greater than 8 bytes for Classical CAN.")
    refuseIf (channel.type = canfd ∧ 64 < message.messageSize)
      (.message channel.busChannel message.frameId
        "Message size cannot be greater than 64 bytes for CAN FD.")

section Signals

variable (message : CanMessageConfiguration) (busChannel : UInt8)

/-- `ValidateSignalStartBit`: the first bit is in the message. -/
def validateSignalStartBit : Check :=
  message.signalConfigurations.forM fun signal =>
    refuseIf (message.messageSize * 8 ≤ signal.startBit)
      (.signal busChannel message.frameId signal.name
        "Start bit cannot be greater than (message size * 8).")

/-- `ValidateSignalSizeBits`: one bit at least, and at most the message's. -/
def validateSignalSizeBits : Check :=
  message.signalConfigurations.forM fun signal => do
    refuseIf (signal.sizeBits < 1)
      (.signal busChannel message.frameId signal.name "Size bits cannot be less than 1.")
    refuseIf (message.messageSize * 8 < signal.sizeBits)
      (.signal busChannel message.frameId signal.name
        "Size bits cannot be greater than (message size * 8).")

/-- `ValidateSignalLayout`: a known byte order, and every bit in the message. -/
def validateSignalLayout : Check :=
  message.signalConfigurations.forM fun signal => do
    refuseIf (2 ≤ signal.byteOrder)
      (.signal busChannel message.frameId signal.name "Invalid byte order.")
    refuseIf (CanSignalCodec.isLayoutValid signal message.messageSize.toNat = false)
      (.signal busChannel message.frameId signal.name "Signal does not fit into the message.")

/-- `ValidateSignalFactor`: no factor is zero, of either sign. -/
def validateSignalFactor : Check :=
  message.signalConfigurations.forM fun signal =>
    refuseIf (FloatBits.eq signal.factor 0 = true)
      (.signal busChannel message.frameId signal.name "Factor cannot be zero.")

/-- Which names were seen. -/
def validateSignalName : Check :=
  message.signalConfigurations.zipIdx.forM fun (signal, index) => do
    refuseIf
      (signal.name ∈ (message.signalConfigurations.take index).map CanSignalConfiguration.name)
      (.signal busChannel message.frameId signal.name
        ("Cannot contain duplicate signal names. " ++ signal.name.string))
    validateIdentifier signal.name (.signal busChannel message.frameId signal.name)

/-- `ValidateSignalUnit`: 32 characters at most. -/
def validateSignalUnit : Check :=
  message.signalConfigurations.forM fun signal =>
    refuseIf (32 < signal.unit.size)
      (.signal busChannel message.frameId signal.name "Unit cannot be longer than 32 characters.")

end Signals

/-- `ValidateSignals`: the checks of a channel's signals, message by message. -/
def validateSignals (channel : CanChannelConfiguration) : Check :=
  channel.messageConfigurations.forM fun message => do
    validateSignalStartBit message channel.busChannel
    validateSignalSizeBits message channel.busChannel
    validateSignalLayout message channel.busChannel
    validateSignalFactor message channel.busChannel
    validateSignalName message channel.busChannel
    validateSignalUnit message channel.busChannel

/-- `ValidateMessages`: the checks of a channel's messages, one after the other. -/
def validateMessages (scripts : Option (Text → Bool)) (channel : CanChannelConfiguration) :
    Check := do
  validateMessageFrameId channel
  validateMessageSendIntervalMs channel
  validateMessageScriptPath scripts channel
  validateMessageName channel
  validateMessageSize channel
  validateSignals channel

/-- `Validate`: every check of the configuration, in the order they are made. -/
def validate (scripts : Option (Text → Bool)) (configuration : CanbusConfiguration) : Check := do
  let channels := configuration.channelConfigurations.map Prod.snd
  channels.forM validateChannelType
  channels.forM validateIsExtendedId
  channels.forM validateBitrate
  channels.forM validateDataBitrate
  validateComConfiguration configuration
  channels.forM (validateMessages scripts)

end CanbusConfigurationValidator

/-! ### Conversion -/

/-- The signal as it is stored. -/
def CanSignalConfiguration.toCbor (signal : CanSignalConfiguration) : CborCanSignalConfig where
  startBit := signal.startBit
  sizeBits := signal.sizeBits
  factor := signal.factor
  offset := signal.offset
  byteOrder := signal.byteOrder.toUInt32
  isSigned := signal.isSigned
  name := signal.name
  unit := signal.unit

/-- The signal as it is read back. -/
def CanSignalConfiguration.ofCbor (config : CborCanSignalConfig) : CanSignalConfiguration where
  startBit := config.startBit
  sizeBits := config.sizeBits
  factor := config.factor
  offset := config.offset
  byteOrder := config.byteOrder.toUInt8
  isSigned := config.isSigned
  name := config.name
  unit := config.unit

/-- -1 for no interval. -/
def CanMessageConfiguration.toCbor (message : CanMessageConfiguration) : CborCanMessageConfig where
  frameId := message.frameId
  isEnabled := message.isEnabled
  sendIntervalMs :=
    match message.sendIntervalMs with
    | some interval => if 0 < interval.toInt then interval else -1
    | none => -1
  scriptPath := message.scriptPath
  name := message.name
  messageSize := message.messageSize
  signals := message.signalConfigurations.map CanSignalConfiguration.toCbor

/-- The message as it is read back: an interval that is not positive is none. -/
def CanMessageConfiguration.ofCbor (config : CborCanMessageConfig) : CanMessageConfiguration where
  frameId := config.frameId
  isEnabled := config.isEnabled
  sendIntervalMs := if 0 < config.sendIntervalMs.toInt then some config.sendIntervalMs else none
  scriptPath := config.scriptPath
  name := config.name
  messageSize := config.messageSize
  signalConfigurations := config.signals.map CanSignalConfiguration.ofCbor

/-- The channel is stored under the number it has in the map. -/
def CanChannelConfiguration.toCbor (busChannel : UInt8) (channel : CanChannelConfiguration) :
    CborCanChannelConfig where
  type := channel.type.toUInt32
  isExtendedId := channel.isExtendedId
  busChannel := busChannel.toUInt32
  bitrate := channel.bitrate
  dataBitrate := channel.dataBitrate
  messages := channel.messageConfigurations.map CanMessageConfiguration.toCbor

/-- The channel as it is read back, its fields cut to their own widths. -/
def CanChannelConfiguration.ofCbor (config : CborCanChannelConfig) : CanChannelConfiguration where
  type := config.type.toUInt8
  isExtendedId := config.isExtendedId
  busChannel := config.busChannel.toUInt8
  bitrate := config.bitrate
  dataBitrate := config.dataBitrate
  messageConfigurations := config.messages.map CanMessageConfiguration.ofCbor

/-- The COM configuration as it is stored: -1 stands for no bus. -/
def CanbusComConfiguration.toCbor (com : CanbusComConfiguration) : CborCanbusComConfig where
  busChannel :=
    match com.busChannel with
    | some busChannel => Int32.ofNat busChannel.toNat
    | none => -1
  cdmpBaseCanId := com.cdmpBaseCanId
  smpCanIdBase := com.smpCanIdBase
  smpBusSharePercent := com.smpBusSharePercent.toUInt32

/-- The share is clamped. -/
def CanbusComConfiguration.ofCbor (config : CborCanbusComConfig) : CanbusComConfiguration where
  busChannel :=
    if 0 ≤ config.busChannel.toInt then some (UInt8.ofNat config.busChannel.toInt.toNat) else none
  cdmpBaseCanId := config.cdmpBaseCanId
  smpCanIdBase := config.smpCanIdBase
  smpBusSharePercent := (min config.smpBusSharePercent 255).toUInt8

/-! ### The parser -/

namespace CanbusConfigurationCborParser

variable (scripts : Option (Text → Bool))

/-- `Serialize`: what the validator refuses is not stored. -/
def serialize (configuration : CanbusConfiguration) : Except CanbusError CborCanbusConfig := do
  CanbusConfigurationValidator.validate scripts configuration
  .ok
    { channels := configuration.channelConfigurations.map fun (busChannel, channel) =>
        channel.toCbor busChannel
      comConfig := configuration.comConfiguration.toCbor }

/-- The loop over the stored channels: each is put into the map, which has those before it. -/
def readChannels : List (UInt8 × CanChannelConfiguration) → List CborCanChannelConfig →
    Except CanbusError (List (UInt8 × CanChannelConfiguration))
  | channels, [] => .ok channels
  | channels, config :: later =>
    if 255 < config.busChannel then .error (.busChannelOutOfRange config.busChannel)
    else
      let channel := CanChannelConfiguration.ofCbor config
      if channel.busChannel ∈ channels.map Prod.fst then
        .error (.duplicateBusChannel channel.busChannel)
      else readChannels (channels ++ [(channel.busChannel, channel)]) later

theorem nodup_readChannels {channels result : List (UInt8 × CanChannelConfiguration)}
    {configs : List CborCanChannelConfig} (distinct : (channels.map Prod.fst).Nodup)
    (reads : readChannels channels configs = .ok result) : (result.map Prod.fst).Nodup := by
  induction configs generalizing channels with
  | nil =>
    cases reads
    exact distinct
  | cons config later ih =>
    rw [readChannels] at reads
    split_ifs at reads with outside
    dsimp only at reads
    split_ifs at reads with present
    apply ih _ reads
    rw [List.map_append, List.map_singleton, ← List.concat_eq_append, List.nodup_concat]
    exact ⟨present, distinct⟩

/-- `Deserialize`: the channels, then the COM configuration, then the validator. -/
def deserialize (config : CborCanbusConfig) : Except CanbusError CanbusConfiguration :=
  match reads : readChannels [] config.channels with
  | .error error => .error error
  | .ok channels =>
    if 255 < config.comConfig.busChannel.toInt then
      .error (.com "COM bus channel out of range")
    else do
      let configuration : CanbusConfiguration :=
        { channelConfigurations := channels
          comConfiguration := .ofCbor config.comConfig
          nodup := nodup_readChannels (by exact List.nodup_nil) reads }
      CanbusConfigurationValidator.validate scripts configuration
      .ok configuration

/-! ### What is serialized is deserialized -/

theorem ofCbor_toCbor_signal (signal : CanSignalConfiguration) :
    CanSignalConfiguration.ofCbor signal.toCbor = signal := by
  simp [CanSignalConfiguration.ofCbor, CanSignalConfiguration.toCbor]

theorem ofCbor_toCbor_message {message : CanMessageConfiguration}
    (positive : ∀ interval ∈ message.sendIntervalMs, 0 < interval.toInt) :
    CanMessageConfiguration.ofCbor message.toCbor = message := by
  have signals : (message.signalConfigurations.map CanSignalConfiguration.toCbor).map
      CanSignalConfiguration.ofCbor = message.signalConfigurations := by
    rw [List.map_map]
    exact List.map_id'' ofCbor_toCbor_signal _
  obtain ⟨frameId, isEnabled, sendIntervalMs, scriptPath, name, messageSize, configurations⟩ :=
    message
  simp only [CanMessageConfiguration.ofCbor, CanMessageConfiguration.toCbor,
    CanMessageConfiguration.mk.injEq, true_and]
  refine ⟨?_, signals⟩
  cases sendIntervalMs with
  | none => rfl
  | some interval =>
    have now : 0 < interval.toInt := positive interval rfl
    simp only [if_pos now]

theorem ofCbor_toCbor_channel {channel : CanChannelConfiguration} {busChannel : UInt8}
    (own : channel.busChannel = busChannel)
    (positive : ∀ message ∈ channel.messageConfigurations, ∀ interval ∈ message.sendIntervalMs,
      0 < interval.toInt) :
    CanChannelConfiguration.ofCbor (channel.toCbor busChannel) = channel := by
  have messages : (channel.messageConfigurations.map CanMessageConfiguration.toCbor).map
      CanMessageConfiguration.ofCbor = channel.messageConfigurations := by
    rw [List.map_map]
    conv_rhs => rw [← List.map_id channel.messageConfigurations]
    apply List.map_congr_left
    intro message member
    exact ofCbor_toCbor_message (positive message member)
  simp [CanChannelConfiguration.ofCbor, CanChannelConfiguration.toCbor, messages, ← own]

private theorem toInt_busChannel (busChannel : UInt8) :
    (Int32.ofNat busChannel.toNat).toInt = busChannel.toNat := by
  have small := busChannel.toNat_lt
  exact Int32.toInt_ofNat_of_lt (by omega)

theorem ofCbor_toCbor_com (com : CanbusComConfiguration) :
    CanbusComConfiguration.ofCbor com.toCbor = com := by
  obtain ⟨busChannel, cdmpBaseCanId, smpCanIdBase, smpBusSharePercent⟩ := com
  have share : min smpBusSharePercent.toUInt32 255 = smpBusSharePercent.toUInt32 := by
    apply if_pos
    rw [UInt32.le_iff_toNat_le, UInt8.toNat_toUInt32]
    have small := smpBusSharePercent.toNat_lt
    have bound : (255 : UInt32).toNat = 255 := rfl
    omega
  simp only [CanbusComConfiguration.ofCbor, CanbusComConfiguration.toCbor, share,
    UInt8.toUInt8_toUInt32, CanbusComConfiguration.mk.injEq, and_true]
  cases busChannel with
  | none => rfl
  | some busChannel =>
    simp only [toInt_busChannel, Int.natCast_nonneg, if_true, Int.toNat_natCast, UInt8.ofNat_toNat]

/-- A COM channel that was serialized is in range. -/
private theorem toInt_toCbor_com_le (com : CanbusComConfiguration) :
    ¬255 < com.toCbor.busChannel.toInt := by
  cases busChannel : com.busChannel with
  | none =>
    simp only [CanbusComConfiguration.toCbor, busChannel]
    decide
  | some busChannel' =>
    simp only [CanbusComConfiguration.toCbor, busChannel, toInt_busChannel]
    have small := busChannel'.toNat_lt
    omega

/-- Channels under their own distinct numbers are all read. -/
theorem readChannels_toCbor {channels entries : List (UInt8 × CanChannelConfiguration)}
    (restored : ∀ entry ∈ entries,
      CanChannelConfiguration.ofCbor (entry.2.toCbor entry.1) = entry.2 ∧
        entry.2.busChannel = entry.1)
    (distinct : ((channels ++ entries).map Prod.fst).Nodup) :
    readChannels channels (entries.map fun (busChannel, channel) => channel.toCbor busChannel) =
      .ok (channels ++ entries) := by
  induction entries generalizing channels with
  | nil => rw [List.map_nil, readChannels, List.append_nil]
  | cons entry entries ih =>
    obtain ⟨same, own⟩ := restored entry List.mem_cons_self
    have inRange : ¬255 < (entry.2.toCbor entry.1).busChannel := by
      have small := entry.1.toNat_lt
      rw [UInt32.lt_iff_toNat_lt, CanChannelConfiguration.toCbor, UInt8.toNat_toUInt32]
      have bound : (255 : UInt32).toNat = 255 := rfl
      omega
    have fresh : entry.1 ∉ channels.map Prod.fst := by
      rw [List.map_append, List.map_cons, List.nodup_append] at distinct
      intro present
      exact distinct.2.2 _ present _ List.mem_cons_self rfl
    rw [List.map_cons, readChannels, if_neg inRange]
    dsimp only
    rw [same, own, if_neg fresh]
    have step := @ih (channels ++ [entry])
      (fun other member => restored other (List.mem_cons_of_mem _ member)) (by simpa using distinct)
    simpa using step

/-- Accepted messages that are sent at an interval have a positive one. -/
theorem sendIntervalMs_pos {configuration : CanbusConfiguration}
    (validates : CanbusConfigurationValidator.validate scripts configuration = .ok ())
    {entry : UInt8 × CanChannelConfiguration} (member : entry ∈ configuration.channelConfigurations)
    {message : CanMessageConfiguration} (within : message ∈ entry.2.messageConfigurations)
    {interval : Int32} (present : interval ∈ message.sendIntervalMs) : 0 < interval.toInt := by
  unfold CanbusConfigurationValidator.validate
    CanbusConfigurationValidator.validateMessages at validates
  simp only [andThen_eq_ok, forM_eq_ok] at validates
  obtain ⟨-, intervals, -⟩ := validates.2.2.2.2.2 entry.2 (List.mem_map.mpr ⟨entry, member, rfl⟩)
  rw [CanbusConfigurationValidator.validateMessageSendIntervalMs, forM_eq_ok] at intervals
  have accepted := refuseIf_eq_ok.mp (intervals message within)
  rw [Option.mem_def.mp present] at accepted
  simpa using accepted

variable {scripts}

/-- What is serialized is deserialized, to the configuration it came from. -/
theorem deserialize_of_serialize {configuration : CanbusConfiguration} {config : CborCanbusConfig}
    (keys : configuration.KeysMatch) (serializes : serialize scripts configuration = .ok config) :
    deserialize scripts config = .ok configuration := by
  obtain ⟨_, validates, converts⟩ := bind_eq_ok.mp serializes
  cases converts
  have reads : readChannels [] (configuration.channelConfigurations.map fun (busChannel, channel) =>
      channel.toCbor busChannel) = .ok configuration.channelConfigurations := by
    refine readChannels_toCbor ?_ (by exact configuration.nodup)
    intro entry member
    refine ⟨ofCbor_toCbor_channel (keys entry member) ?_, keys entry member⟩
    intro message within interval present
    exact sendIntervalMs_pos scripts validates member within present
  unfold deserialize
  split
  · next error failed =>
    rw [reads] at failed
    exact nomatch failed
  · next channels done =>
    have same : channels = configuration.channelConfigurations := by
      rw [reads] at done
      exact (Except.ok.inj done).symm
    subst same
    rw [if_neg (toInt_toCbor_com_le configuration.comConfiguration)]
    have whole : (⟨configuration.channelConfigurations,
        .ofCbor configuration.comConfiguration.toCbor, configuration.nodup⟩ : CanbusConfiguration) =
        configuration := by
      simp only [ofCbor_toCbor_com]
    simp only [whole, validates]
    rfl

end CanbusConfigurationCborParser

end RtCore.Can
