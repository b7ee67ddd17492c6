import RtCore.Can.CanbusConfiguration
import RtCore.Cbor.Reference
import RtCore.Logging.ControlConfiguration
import RtCore.Sensors.RestoredSensors

/-!
# Configurations that are stored

What the parsers of the sensors, the CAN bus and the logging control serialize is encoded into a
buffer of the computed size and decoded again, and what is decoded is deserialized again. The
primitives of CBOR are a library's; what is assumed of them is `Zcbor.Laws`.

## Main results

* `serialized_configurations_roundTrip` — encodings fit their computed size and decode to what was
  encoded
* `serialized_configurations_deserialize` — what is serialized is deserialized to what it came from
-/

namespace RtCore.Configuration

open RtCore.Foundation RtCore.Cbor RtCore.Sensors RtCore.Can RtCore.Logging

/-- Every configuration the parsers produce has an encoding that fits its computed size, so that
serializing it succeeds, and that decodes to the same value with no byte left. -/
theorem serialized_configurations_roundTrip {zcbor : Zcbor} (laws : zcbor.Laws) {V : Type}
    (unit : SensorsUnit V) (scripts : Option (Text → Bool)) :
    (∀ sensors config, SensorsCborParser.serialize unit sensors = .ok config →
      RoundTrips zcbor.cborSensorsConfigTrait config) ∧
    (∀ configuration config,
      CanbusConfigurationCborParser.serialize scripts configuration = .ok config →
        RoundTrips zcbor.cborCanbusConfigTrait config) ∧
    ∀ configuration config,
      LoggingControlConfigurationCborParser.serialize configuration = .ok config →
        RoundTrips zcbor.cborLoggingControlConfigTrait config := by
  refine ⟨?_, ?_, ?_⟩
  · intro sensors config serializes
    exact CborSensorsConfig.roundTrips laws (SensorsCborParser.encodable_of_serialize serializes)
  · intro configuration config _
    exact CborCanbusConfig.roundTrips laws config
  · intro configuration config serializes
    exact CborLoggingControlConfig.roundTrips laws
      (LoggingControlConfigurationCborParser.few_of_serialize serializes)

/-! ### Configurations of a unit -/

namespace Configured

/-- A channel with one message of one signal, which carries management traffic too. -/
def canbus : CanbusConfiguration where
  channelConfigurations :=
    [(0,
      { type := 1
        isExtendedId := false
        busChannel := 0
        bitrate := 500000
        dataBitrate := 0
        messageConfigurations :=
          [{ frameId := 256
             isEnabled := true
             sendIntervalMs := some 20
             scriptPath := .empty
             name := .ofString "wheel"
             messageSize := 8
             signalConfigurations :=
               [{ startBit := 0
                  sizeBits := 16
                  factor := 0x3f800000
                  offset := 0
                  byteOrder := 0
                  isSigned := false
                  name := .ofString "front"
                  unit := .ofString "km/h" }] }] })]
  comConfiguration :=
    { busChannel := some 0
      cdmpBaseCanId := 0x600
      smpCanIdBase := 0x18f00000
      smpBusSharePercent := 30 }
  nodup := by decide

/-- A trigger on the values of one sensor. -/
def logging : LoggingControlConfiguration where
  triggers :=
    [{ event :=
         { channel := sensorsChannel
           eventType := 0
           payloadKey := 1
           selectorKey := sensorIdKey
           selectorValue := .text (.ofString "load") }
       targetUid := 0 }]

end Configured

theorem exists_ok_and {ε α : Type} {result : Except ε α} {P : α → Prop}
    (succeeds : result.isOk = true) (holds : ∀ value, result = .ok value → P value) :
    ∃ value, result = .ok value ∧ P value := by
  cases result with
  | error error => exact nomatch succeeds
  | ok value => exact ⟨value, rfl, holds value rfl⟩

open Sensors.Configured Configured in
theorem serialized_configurations_roundTrip_unit :
    (∃ config, SensorsCborParser.serialize unit [load, pressure 1, speed] = .ok config ∧
      RoundTrips Reference.zcbor.cborSensorsConfigTrait config) ∧
    (∃ config, CanbusConfigurationCborParser.serialize none canbus = .ok config ∧
      RoundTrips Reference.zcbor.cborCanbusConfigTrait config) ∧
    ∃ config, LoggingControlConfigurationCborParser.serialize logging = .ok config ∧
      RoundTrips Reference.zcbor.cborLoggingControlConfigTrait config := by
  obtain ⟨sensors, channels, triggers⟩ :=
    serialized_configurations_roundTrip Reference.laws unit none
  refine ⟨exists_ok_and ?_ (sensors _), exists_ok_and ?_ (channels _),
    exists_ok_and ?_ (triggers _)⟩
  · decide +kernel
  · decide +kernel
  · decide +kernel

/-- What the parsers of the sensors and the CAN bus serialize is deserialized. Every sensor comes
back once, behind the sensors it reads and as `Restores` says; the CAN bus configuration comes
back as it was. -/
theorem serialized_configurations_deserialize {V : Type} (unit : SensorsUnit V)
    (scripts : Option (Text → Bool)) :
    (∀ sensors config, SensorsCborParser.serialize unit sensors = .ok config →
      ∃ result, SensorsCborParser.deserialize unit config = .ok result ∧
        (∃ matched, result.Perm matched ∧
          List.Forall₂ ConfiguredSensor.Restores sensors matched) ∧
        ReadsBehind unit result) ∧
    ∀ configuration config, configuration.KeysMatch →
      CanbusConfigurationCborParser.serialize scripts configuration = .ok config →
      CanbusConfigurationCborParser.deserialize scripts config = .ok configuration := by
  constructor
  · intro sensors config serializes
    exact SensorsCborParser.deserialize_of_serialize serializes
  · intro configuration config keys serializes
    exact CanbusConfigurationCborParser.deserialize_of_serialize keys serializes

open Sensors.Configured Configured in
theorem serialized_configurations_deserialize_unit :
    (∃ config, SensorsCborParser.serialize unit [load, pressure 1, speed] = .ok config ∧
      ∃ result, SensorsCborParser.deserialize unit config = .ok result ∧
        (∃ matched, result.Perm matched ∧
          List.Forall₂ ConfiguredSensor.Restores [load, pressure 1, speed] matched) ∧
        ReadsBehind unit result) ∧
    ∃ config, CanbusConfigurationCborParser.serialize none canbus = .ok config ∧
      CanbusConfigurationCborParser.deserialize none config = .ok canbus := by
  obtain ⟨sensors, channels⟩ := serialized_configurations_deserialize unit none
  refine ⟨exists_ok_and ?_ (sensors _), exists_ok_and ?_ fun config => channels _ config ?_⟩
  · decide +kernel
  · decide +kernel
  · decide +kernel

open Sensors.Configured in
/-- A sensor whose type does not use the CAN bus loses a CAN source it was given. -/
theorem not_serialized_canbusSource_deserialize :
    let given : ConfiguredSensor := { pressure 1 with
      configuration := { (pressure 1).configuration with
        canbusSource := some ⟨0, 256, .ofString "wheel"⟩ } }
    (SensorsCborParser.serialize unit [given] >>= SensorsCborParser.deserialize unit).toOption.map
      (List.map fun sensor => (sensor.id, sensor.configuration.canbusSource)) =
        some [(given.id, none)] := by
  decide +kernel

end RtCore.Configuration
