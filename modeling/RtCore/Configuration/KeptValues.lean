import RtCore.Configuration.StoredConfigurations

/-!
# Values of deserialized configurations

Stored integers are wider than some of the fields they are read into. A bus channel beyond its
byte is refused, a share is clamped to a value the validator refuses, and the enumerations of 32
bits are validated as they were stored. The type of a channel, the byte order of a signal and the
method of interpolation are cut to a byte first, and the validator sees what is left of them. It
does not look at the method of interpolation at all.

## Main definitions

* `CanbusConfiguration.Keeps`, `ConfiguredSensor.Keeps` — every integer has the value of the field
  it was read from, every enumeration is one of its members

## Main results

* `deserialized_values_kept_iff` — which accepted configurations keep their values
-/

namespace RtCore.Configuration

/-- Only a positive interval is one. -/
theorem interval_eq_some (stored interval : Int32) :
    (if 0 < stored.toInt then some stored else none) = some interval ↔
      stored = interval ∧ 0 < interval.toInt := by
  split_ifs with positive
  · rw [Option.some.injEq]
    exact ⟨fun same => ⟨same, same ▸ positive⟩, And.left⟩
  · refine ⟨nofun, ?_⟩
    rintro ⟨rfl, now⟩
    exact absurd now positive

end RtCore.Configuration

namespace RtCore.Can

open RtCore.Foundation RtCore.Cbor

/-- `CanSignalByteOrder`. -/
def canSignalByteOrders : List UInt8 := [0, 1]

/-- `CanbusType`, its sentinel apart. -/
def canbusTypes : List UInt8 := [0, classicalCan, canfd]

/-- The signal has the values of the stored one. -/
structure CanSignalConfiguration.Keeps (config : CborCanSignalConfig)
    (signal : CanSignalConfiguration) : Prop where
  startBit : signal.startBit = config.startBit
  sizeBits : signal.sizeBits = config.sizeBits
  byteOrder : signal.byteOrder.toNat = config.byteOrder.toNat
  byteOrder_mem : signal.byteOrder ∈ canSignalByteOrders

/-- An interval that is not positive is none. -/
structure CanMessageConfiguration.Keeps (config : CborCanMessageConfig)
    (message : CanMessageConfiguration) : Prop where
  frameId : message.frameId = config.frameId
  sendIntervalMs : ∀ interval : Int32, message.sendIntervalMs = some interval ↔
    config.sendIntervalMs = interval ∧ 0 < interval.toInt
  messageSize : message.messageSize = config.messageSize
  signals : List.Forall₂ CanSignalConfiguration.Keeps config.signals message.signalConfigurations

/-- The channel has the values of the stored one. -/
structure CanChannelConfiguration.Keeps (config : CborCanChannelConfig)
    (channel : CanChannelConfiguration) : Prop where
  type : channel.type.toNat = config.type.toNat
  type_mem : channel.type ∈ canbusTypes
  busChannel : channel.busChannel.toNat = config.busChannel.toNat
  bitrate : channel.bitrate = config.bitrate
  dataBitrate : channel.dataBitrate = config.dataBitrate
  messages :
    List.Forall₂ CanMessageConfiguration.Keeps config.messages channel.messageConfigurations

/-- A negative channel is none. -/
structure CanbusComConfiguration.Keeps (config : CborCanbusComConfig)
    (com : CanbusComConfiguration) : Prop where
  busChannel : ∀ busChannel : UInt8, com.busChannel = some busChannel ↔
    config.busChannel.toInt = busChannel.toNat
  unset : com.busChannel = none ↔ config.busChannel.toInt < 0
  cdmpBaseCanId : com.cdmpBaseCanId = config.cdmpBaseCanId
  smpCanIdBase : com.smpCanIdBase = config.smpCanIdBase
  smpBusSharePercent : com.smpBusSharePercent.toNat = config.smpBusSharePercent.toNat

/-- Every channel is under the number it has. -/
structure CanbusConfiguration.Keeps (config : CborCanbusConfig)
    (configuration : CanbusConfiguration) : Prop where
  channels : List.Forall₂
    (fun config entry =>
      entry.2.busChannel = entry.1 ∧ CanChannelConfiguration.Keeps config entry.2)
    config.channels configuration.channelConfigurations
  comConfig : configuration.comConfiguration.Keeps config.comConfig

/-- What is cut to a byte has not more than a byte. -/
structure BytesSuffice (config : CborCanbusConfig) : Prop where
  types : ∀ channel ∈ config.channels, channel.type.toNat < 256
  byteOrders : ∀ channel ∈ config.channels, ∀ message ∈ channel.messages,
    ∀ signal ∈ message.signals, signal.byteOrder.toNat < 256

/-! ### What the validator leaves -/

namespace CanbusConfigurationValidator

variable {scripts : Option (Text → Bool)} {configuration : CanbusConfiguration}

/-- The values of an accepted configuration that were cut or clamped. -/
structure Narrow (configuration : CanbusConfiguration) : Prop where
  types : ∀ entry ∈ configuration.channelConfigurations, entry.2.type ∈ canbusTypes
  byteOrders : ∀ entry ∈ configuration.channelConfigurations,
    ∀ message ∈ entry.2.messageConfigurations, ∀ signal ∈ message.signalConfigurations,
      signal.byteOrder ∈ canSignalByteOrders
  smpBusSharePercent : configuration.comConfiguration.smpBusSharePercent.toNat ≤ 100

theorem narrow_of_validate (validates : validate scripts configuration = .ok ()) :
    Narrow configuration := by
  simp only [validate, andThen_eq_ok, forM_eq_ok, List.forall_mem_map] at validates
  obtain ⟨types, -, -, -, com, messages⟩ := validates
  -- The three enumerations that are stored as numbers: types, byte orders, and the rate of the bus.
  constructor
  · intro entry member
    have inRange := refuseIf_eq_ok.mp (types entry member)
    rw [not_or, UInt8.not_le] at inRange
    generalize entry.2.type = type at inRange
    have small : type.toNat < 3 := UInt8.lt_iff_toNat_lt.mp inRange.2
    simp only [canbusTypes, classicalCan, canfd, List.mem_cons, List.not_mem_nil, or_false,
      ← UInt8.toNat_inj]
    change type.toNat = 0 ∨ type.toNat = 1 ∨ type.toNat = 2
    omega
  · intro entry member message within signal among
    simp only [validateMessages, validateSignals, andThen_eq_ok, forM_eq_ok] at messages
    obtain ⟨-, -, -, -, -, signals⟩ := messages entry member
    obtain ⟨-, -, layouts, -⟩ := signals message within
    simp only [validateSignalLayout, forM_eq_ok, andThen_eq_ok] at layouts
    have inRange := refuseIf_eq_ok.mp (layouts signal among).1
    rw [UInt8.not_le, UInt8.lt_iff_toNat_lt] at inRange
    simp only [canSignalByteOrders, List.mem_cons, List.not_mem_nil, or_false, ← UInt8.toNat_inj]
    change signal.byteOrder.toNat < 2 at inRange
    change signal.byteOrder.toNat = 0 ∨ signal.byteOrder.toNat = 1
    omega
  · simp only [validateComConfiguration, andThen_eq_ok] at com
    have inRange := refuseIf_eq_ok.mp com.2.2.2
    rw [not_or, UInt8.not_lt, UInt8.le_iff_toNat_le] at inRange
    exact inRange.2

end CanbusConfigurationValidator

/-! ### What is read -/

namespace CanbusConfigurationCborParser

variable {scripts : Option (Text → Bool)} {config : CborCanbusConfig}
  {configuration : CanbusConfiguration}

/-- A channel as it was put into the map. -/
def ReadAs (config : CborCanChannelConfig) (entry : UInt8 × CanChannelConfiguration) : Prop :=
  config.busChannel.toNat < 256 ∧ entry = (config.busChannel.toUInt8, .ofCbor config)

theorem readChannels_eq_ok {channels result : List (UInt8 × CanChannelConfiguration)}
    {configs : List CborCanChannelConfig} (reads : readChannels channels configs = .ok result) :
    ∃ later, result = channels ++ later ∧ List.Forall₂ ReadAs configs later := by
  induction configs generalizing channels with
  | nil =>
    cases reads
    exact ⟨[], (List.append_nil _).symm, .nil⟩
  | cons config configs ih =>
    rw [readChannels] at reads
    split_ifs at reads with outside
    dsimp only at reads
    split_ifs at reads
    obtain ⟨later, rfl, pairs⟩ := ih reads
    have inRange : config.busChannel.toNat < 256 := by
      rw [UInt32.not_lt, UInt32.le_iff_toNat_le] at outside
      exact Nat.lt_succ_of_le outside
    exact ⟨_ :: later, List.append_assoc .., .cons ⟨inRange, rfl⟩ pairs⟩

/-- What a successful `Deserialize` did. -/
structure Deserialized (config : CborCanbusConfig) (configuration : CanbusConfiguration) :
    Prop where
  channels : List.Forall₂ ReadAs config.channels configuration.channelConfigurations
  busChannel : config.comConfig.busChannel.toInt ≤ 255
  comConfig : configuration.comConfiguration = .ofCbor config.comConfig
  narrow : CanbusConfigurationValidator.Narrow configuration

theorem deserialized_of_deserialize
    (deserializes : deserialize scripts config = .ok configuration) :
    Deserialized config configuration := by
  unfold deserialize at deserializes
  split at deserializes
  · exact nomatch deserializes
  · next channels reads =>
    split_ifs at deserializes with outside
    obtain ⟨_, validates, done⟩ := bind_eq_ok.mp deserializes
    cases done
    obtain ⟨later, rfl, pairs⟩ := readChannels_eq_ok reads
    exact
      { channels := pairs
        busChannel := Int.not_lt.mp outside
        comConfig := rfl
        narrow := CanbusConfigurationValidator.narrow_of_validate validates }

theorem keeps_signal {config : CborCanSignalConfig} (suffices_ : config.byteOrder.toNat < 256)
    (member : (CanSignalConfiguration.ofCbor config).byteOrder ∈ canSignalByteOrders) :
    (CanSignalConfiguration.ofCbor config).Keeps config where
  startBit := rfl
  sizeBits := rfl
  byteOrder := (UInt32.toNat_toUInt8 _).trans (Nat.mod_eq_of_lt suffices_)
  byteOrder_mem := member

theorem keeps_message {config : CborCanMessageConfig}
    (suffices_ : ∀ signal ∈ config.signals, signal.byteOrder.toNat < 256)
    (members : ∀ signal ∈ (CanMessageConfiguration.ofCbor config).signalConfigurations,
      signal.byteOrder ∈ canSignalByteOrders) :
    (CanMessageConfiguration.ofCbor config).Keeps config where
  frameId := rfl
  sendIntervalMs interval := Configuration.interval_eq_some config.sendIntervalMs interval
  messageSize := rfl
  signals := by
    refine List.forall₂_map_right_iff.mpr (List.forall₂_same.mpr fun signal member => ?_)
    exact keeps_signal (suffices_ signal member) (members _ (List.mem_map_of_mem member))

theorem keeps_channel {config : CborCanChannelConfig} (type : config.type.toNat < 256)
    (busChannel : config.busChannel.toNat < 256)
    (byteOrders : ∀ message ∈ config.messages, ∀ signal ∈ message.signals,
      signal.byteOrder.toNat < 256)
    (type_mem : (CanChannelConfiguration.ofCbor config).type ∈ canbusTypes)
    (members : ∀ message ∈ (CanChannelConfiguration.ofCbor config).messageConfigurations,
      ∀ signal ∈ message.signalConfigurations, signal.byteOrder ∈ canSignalByteOrders) :
    (CanChannelConfiguration.ofCbor config).Keeps config where
  type := (UInt32.toNat_toUInt8 _).trans (Nat.mod_eq_of_lt type)
  type_mem := type_mem
  busChannel := (UInt32.toNat_toUInt8 _).trans (Nat.mod_eq_of_lt busChannel)
  bitrate := rfl
  dataBitrate := rfl
  messages := by
    refine List.forall₂_map_right_iff.mpr (List.forall₂_same.mpr fun message member => ?_)
    exact keeps_message (byteOrders message member) (members _ (List.mem_map_of_mem member))

theorem keeps_com {config : CborCanbusComConfig} (inRange : config.busChannel.toInt ≤ 255)
    (share : (CanbusComConfiguration.ofCbor config).smpBusSharePercent.toNat ≤ 100) :
    (CanbusComConfiguration.ofCbor config).Keeps config where
  busChannel busChannel := by
    have small := busChannel.toNat_lt
    simp only [CanbusComConfiguration.ofCbor]
    split_ifs with set
    · rw [Option.some.injEq, ← UInt8.toNat_inj, UInt8.toNat_ofNat']
      omega
    · exact ⟨by rintro ⟨⟩, fun same => absurd (same ▸ Int.natCast_nonneg _) set⟩
  unset := by
    simp only [CanbusComConfiguration.ofCbor]
    split_ifs with set
    · exact ⟨by rintro ⟨⟩, fun negative => absurd set (Int.not_le.mpr negative)⟩
    · exact ⟨fun _ => Int.not_le.mp set, fun _ => rfl⟩
  cdmpBaseCanId := rfl
  smpCanIdBase := rfl
  smpBusSharePercent := by
    simp only [CanbusComConfiguration.ofCbor, UInt32.toNat_toUInt8] at share ⊢
    -- A share beyond 255 is clamped to 255, which was refused.
    by_cases small : config.smpBusSharePercent ≤ 255
    · rw [show min config.smpBusSharePercent 255 = _ from if_pos small]
      rw [UInt32.le_iff_toNat_le] at small
      exact Nat.mod_eq_of_lt (Nat.lt_succ_of_le small)
    · rw [show min config.smpBusSharePercent 255 = 255 from if_neg small] at share
      exact absurd share (by decide)

/-- An accepted configuration keeps its values when what is cut to a byte has not more. -/
theorem keeps_iff (deserializes : deserialize scripts config = .ok configuration) :
    configuration.Keeps config ↔ BytesSuffice config := by
  have deserialized := deserialized_of_deserialize deserializes
  constructor
  · intro keeps
    constructor
    · intro channel member
      obtain ⟨entry, -, -, kept⟩ := exists_left_of_forall₂ keeps.channels.flip member
      exact kept.type ▸ entry.2.type.toNat_lt
    · intro channel member message within signal among
      obtain ⟨entry, -, -, kept⟩ := exists_left_of_forall₂ keeps.channels.flip member
      obtain ⟨message', -, messageKept⟩ := exists_left_of_forall₂ kept.messages.flip within
      obtain ⟨signal', -, signalKept⟩ := exists_left_of_forall₂ messageKept.signals.flip among
      exact signalKept.byteOrder ▸ signal'.byteOrder.toNat_lt
  · intro bytes
    constructor
    · apply forall₂_imp_of_mem deserialized.channels
      rintro channel member entry within ⟨busChannel, rfl⟩
      exact ⟨rfl, keeps_channel (bytes.types channel member) busChannel
        (bytes.byteOrders channel member) (deserialized.narrow.types _ within)
        (deserialized.narrow.byteOrders _ within)⟩
    · have share := deserialized.narrow.smpBusSharePercent
      rw [deserialized.comConfig] at share ⊢
      exact keeps_com deserialized.busChannel share

end CanbusConfigurationCborParser

end RtCore.Can

namespace RtCore.Sensors

open RtCore.Foundation RtCore.Cbor

/-- `InterpolationMethod`. -/
def interpolationMethods : List UInt8 := [0, 1, 2]

/-- A sampling rate that is not positive is none, and so is a method without a table. -/
structure SensorConfiguration.Keeps (config : CborSensorConfigurationConfig)
    (configuration : SensorConfiguration) : Prop where
  type : configuration.type = config.type
  type_mem : (SensorType.ofId configuration.type).isSome = true
  channel : configuration.channel = config.channel
  samplingRateMs : ∀ rate : Int32, configuration.samplingRateMs = some rate ↔
    config.samplingRateMs = rate ∧ 0 < rate.toInt
  interpolationMethod : configuration.interpolationMethod.toNat =
    if config.calibrationTable.isSome = true then config.interpolationMethod.toNat else 0
  interpolationMethod_mem : configuration.interpolationMethod ∈ interpolationMethods
  debounceMs : configuration.debounceMs = config.debounceMs
  inputMode : configuration.inputMode = config.inputMode
  inputMode_mem : (IndicatorInputMode.ofId configuration.inputMode).isSome = true

/-- The sensor has the values of the stored one. -/
structure ConfiguredSensor.Keeps (config : CborSensorConfig) (sensor : ConfiguredSensor) :
    Prop where
  id : sensor.id = config.id
  configuration : sensor.configuration.Keeps config.configuration

/-- Every stored sensor is there once, with its values, whatever the order. -/
def KeepsSensors (config : CborSensorsConfig) (sensors : List ConfiguredSensor) : Prop :=
  ∃ matched, sensors.Perm matched ∧ List.Forall₂ ConfiguredSensor.Keeps config.sensors matched

/-- Every method of interpolation that comes with a table is a method. -/
def MethodsKnown (config : CborSensorsConfig) : Prop :=
  ∀ sensor ∈ config.sensors, sensor.configuration.calibrationTable.isSome = true →
    sensor.configuration.interpolationMethod.toNat ≤ 2

namespace SensorsCborParser

variable {V : Type} {unit : SensorsUnit V} {config : CborSensorsConfig}
  {sensors : List ConfiguredSensor}

theorem mode_isSome_of_validateConditioning {sensorId : Text} {configuration : SensorConfiguration}
    (conditioning : SensorValidator.validateConditioning sensorId configuration = .ok ()) :
    (IndicatorInputMode.ofId configuration.inputMode).isSome = true := by
  have inRange := refuseIf_eq_ok.mp (andThen_eq_ok.mp conditioning).1
  rw [UInt32.not_le, UInt32.lt_iff_toNat_lt] at inRange
  unfold IndicatorInputMode.ofId
  generalize configuration.inputMode.toNat = id at inRange
  change id < 2 at inRange
  interval_cases id
  · rfl
  · rfl

theorem keeps_configuration {config : CborSensorConfigurationConfig}
    {configuration : SensorConfiguration} {sensorId : Text}
    (type : SensorValidator.validateType sensorId (.ofCbor config) = .ok ())
    (conditioning : SensorValidator.validateConditioning sensorId (.ofCbor config) = .ok ())
    (known : config.calibrationTable.isSome = true → config.interpolationMethod.toNat ≤ 2)
    (finished : ∃ canbusSource calibrationTable, configuration =
      { SensorConfiguration.ofCbor config with calibrationTable, canbusSource }) :
    configuration.Keeps config := by
  obtain ⟨canbusSource, calibrationTable, rfl⟩ := finished
  obtain ⟨member, isMember, -⟩ := SensorValidator.exists_type_of_validateType type
  -- The cast to a byte keeps the method, which is one of the three known ones.
  have method : (SensorConfiguration.ofCbor config).interpolationMethod.toNat =
      if config.calibrationTable.isSome = true then config.interpolationMethod.toNat else 0 := by
    rw [SensorConfiguration.interpolationMethod_ofCbor]
    split_ifs with table
    · rw [UInt32.toNat_toUInt8]
      exact Nat.mod_eq_of_lt (by have := known table; omega)
    · rfl
  exact
    { type := rfl
      type_mem := Option.isSome_iff_exists.mpr ⟨member, isMember⟩
      channel := rfl
      samplingRateMs := Configuration.interval_eq_some config.samplingRateMs
      interpolationMethod := method
      interpolationMethod_mem := by
        have small : (SensorConfiguration.ofCbor config).interpolationMethod.toNat ≤ 2 := by
          rw [method]
          split_ifs with table
          · exact known table
          · exact Nat.zero_le _
        simp only [interpolationMethods, List.mem_cons, List.not_mem_nil, or_false,
          ← UInt8.toNat_inj]
        generalize (SensorConfiguration.ofCbor config).interpolationMethod.toNat = n at small
        change n = 0 ∨ n = 1 ∨ n = 2
        omega
      debounceMs := rfl
      inputMode := rfl
      inputMode_mem := mode_isSome_of_validateConditioning conditioning }

theorem toNat_le_two_of_mem {method : UInt8} (known : method ∈ interpolationMethods) :
    method.toNat ≤ 2 := by
  simp only [interpolationMethods, List.mem_cons, List.not_mem_nil, or_false] at known
  obtain rfl | rfl | rfl := known
  · exact Nat.zero_le 2
  · exact Nat.le_succ 1
  · exact le_rfl

theorem keeps_iff (deserializes : deserialize unit config = .ok sensors) :
    KeepsSensors config sensors ↔ MethodsKnown config := by
  constructor
  · rintro ⟨matched, -, pairs⟩ sensor member table
    obtain ⟨kept, -, keeps⟩ := exists_left_of_forall₂ pairs.flip member
    have method := keeps.configuration.interpolationMethod
    rw [if_pos table] at method
    rw [← method]
    exact toNat_le_two_of_mem keeps.configuration.interpolationMethod_mem
  · intro known
    obtain ⟨_, validates, deserializes⟩ := bind_eq_ok.mp deserializes
    obtain ⟨finished, finishes, orders⟩ := bind_eq_ok.mp deserializes
    obtain ⟨-, ids, -, passes⟩ := SensorValidator.validate_eq_ok.mp validates
    have pairs := (mapM_eq_ok.mp finishes).imp fun _ _ => finished_of_finish
    have distinct : (finished.map fun sensor => unit.getHash sensor.id).Nodup := by
      rw [hashes_of_finishes finishes]
      exact SensorValidator.nodup_of_validateId ids
    refine ⟨finished, (processingOrder_spec distinct orders).1, ?_⟩
    apply forall₂_imp_of_mem (List.forall₂_map_left_iff.mp pairs)
    rintro stored member sensor - ⟨canbusSource, rfl⟩
    have passed := passes _ (List.mem_map_of_mem member)
    exact ⟨rfl, keeps_configuration passed.type passed.conditioning (known stored member)
      ⟨canbusSource, _, rfl⟩⟩

end SensorsCborParser

end RtCore.Sensors

namespace RtCore.Configuration

open RtCore.Foundation RtCore.Cbor RtCore.Sensors RtCore.Can

/-- An accepted configuration of the CAN bus keeps its values exactly when its channel types and
byte orders have not more than a byte, and accepted sensors exactly when every method of
interpolation that comes with a table is a method. -/
theorem deserialized_values_kept_iff {V : Type} (unit : SensorsUnit V)
    (scripts : Option (Text → Bool)) :
    (∀ config configuration,
      CanbusConfigurationCborParser.deserialize scripts config = .ok configuration →
        (configuration.Keeps config ↔ BytesSuffice config)) ∧
    ∀ config sensors, SensorsCborParser.deserialize unit config = .ok sensors →
      (KeepsSensors config sensors ↔ MethodsKnown config) := by
  constructor
  · intro config configuration deserializes
    exact CanbusConfigurationCborParser.keeps_iff deserializes
  · intro config sensors deserializes
    exact SensorsCborParser.keeps_iff deserializes

namespace Configured

/-- The stored channel of `canbus`, with another type and another byte order of its signal. -/
def storedCanbus (type byteOrder : UInt32) : CborCanbusConfig where
  channels := canbus.channelConfigurations.map fun (busChannel, channel) =>
    let stored := channel.toCbor busChannel
    { stored with
      type
      messages := stored.messages.map fun message =>
        { message with signals := message.signals.map fun signal => { signal with byteOrder } } }
  comConfig := canbus.comConfiguration.toCbor

open Sensors.Configured in
/-- A stored ADC channel with a table of two points. -/
def storedPressure (interpolationMethod : UInt32) : CborSensorsConfig where
  sensors :=
    let stored := (pressure 1).toCbor
    [{ stored with configuration := { stored.configuration with interpolationMethod } }]

end Configured

open Sensors.Configured Configured in
theorem deserialized_values_kept_iff_unit :
    (∃ configuration, CanbusConfigurationCborParser.deserialize none (storedCanbus 1 0) =
        .ok configuration ∧ configuration.Keeps (storedCanbus 1 0)) ∧
      ∃ sensors, SensorsCborParser.deserialize unit (storedPressure 2) = .ok sensors ∧
        KeepsSensors (storedPressure 2) sensors := by
  obtain ⟨canbus, sensors⟩ := deserialized_values_kept_iff unit none
  constructor
  · refine exists_ok_and (by decide +kernel) fun configuration deserializes => ?_
    exact (canbus _ _ deserializes).mpr ⟨by decide +kernel, by decide +kernel⟩
  · refine exists_ok_and (by decide +kernel) fun restored deserializes => ?_
    exact (sensors _ _ deserializes).mpr (by unfold MethodsKnown; decide +kernel)

open Sensors.Configured Configured in
/-- Type 257 is read as a classical bus, byte order 256 as that of Intel and method 257 as the
linear one; method 7 is kept, which is none. -/
theorem narrowed_values_accepted :
    (∃ configuration, CanbusConfigurationCborParser.deserialize none (storedCanbus 257 0) =
        .ok configuration ∧ ¬configuration.Keeps (storedCanbus 257 0)) ∧
    (∃ configuration, CanbusConfigurationCborParser.deserialize none (storedCanbus 1 256) =
        .ok configuration ∧ ¬configuration.Keeps (storedCanbus 1 256)) ∧
    (∃ sensors, SensorsCborParser.deserialize unit (storedPressure 257) = .ok sensors ∧
        ¬KeepsSensors (storedPressure 257) sensors) ∧
      ∃ sensors, SensorsCborParser.deserialize unit (storedPressure 7) = .ok sensors ∧
        ¬KeepsSensors (storedPressure 7) sensors := by
  refine ⟨?_, ?_, ?_, ?_⟩
  · refine exists_ok_and (by decide +kernel) fun configuration deserializes => ?_
    rw [CanbusConfigurationCborParser.keeps_iff deserializes]
    exact fun bytes => absurd bytes.types (by decide +kernel)
  · refine exists_ok_and (by decide +kernel) fun configuration deserializes => ?_
    rw [CanbusConfigurationCborParser.keeps_iff deserializes]
    exact fun bytes => absurd bytes.byteOrders (by decide +kernel)
  · refine exists_ok_and (by decide +kernel) fun sensors deserializes => ?_
    rw [SensorsCborParser.keeps_iff deserializes]
    unfold MethodsKnown
    decide +kernel
  · refine exists_ok_and (by decide +kernel) fun sensors deserializes => ?_
    rw [SensorsCborParser.keeps_iff deserializes]
    unfold MethodsKnown
    decide +kernel

end RtCore.Configuration
