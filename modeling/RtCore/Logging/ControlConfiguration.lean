import RtCore.Cbor.LoggingControlConfig
import RtCore.Foundation.Checks

/-!
# The logging control configuration

The triggers that start and stop logging, each bound to a value of an event. A selector narrows
the event; it is absent, or text, an integer or a bool.

## Main definitions

* `LoggingControlConfiguration`, `LoggingControlConfigurationValidator.validate`
* `LoggingControlConfigurationCborParser.serialize`,
  `LoggingControlConfigurationCborParser.deserialize`

## Main results

* `LoggingControlConfigurationCborParser.few_of_serialize` — what is serialized has at most 16
  triggers
* `LoggingControlConfigurationCborParser.deserialize_of_serialize` — what is serialized is
  deserialized
-/

namespace RtCore.Logging

open RtCore.Foundation RtCore.Cbor

/-! ### Configuration -/

/-- A loosely typed value of a configuration. A `double` is known by its bits. -/
inductive ConfigValue
  | none
  | int (value : Int32)
  | real (bits : UInt64)
  | text (value : Text)
  | flag (value : Bool)
  | ints (values : List Int32)
  | texts (values : List Text)
  | map (entries : List (Text × Text))
deriving DecidableEq

/-- A value on the event bus, by a channel and numbers of its enumerations. -/
structure EventBinding where
  channel : UInt32
  eventType : UInt32
  payloadKey : UInt32
  selectorKey : UInt32
  selectorValue : ConfigValue
deriving DecidableEq

/-- The binding looks at a selector before it counts an event. -/
def EventBinding.hasSelector (binding : EventBinding) : Bool := binding.selectorValue ≠ .none

/-- A trigger: the value that starts or stops logging, and on which unit. -/
structure LoggingControlBinding where
  event : EventBinding
  /-- 0 for every unit that can log. -/
  targetUid : UInt32
deriving DecidableEq

/-- The configuration of logging control. -/
structure LoggingControlConfiguration where
  triggers : List LoggingControlBinding
deriving DecidableEq

/-- The most triggers a configuration has. -/
def LoggingControlConfiguration.maxTriggers : ℕ := 16

/-! ### Validator -/

/-- A value of a type that selectors can have. -/
def isSelectorValue : ConfigValue → Bool
  | .text _ => true
  | .int _ => true
  | .flag _ => true
  | _ => false

/-- `None` is 0 and `Settings` the last. -/
def isValidEventChannelId (channel : UInt32) : Bool := channel ≠ 0 && channel ≤ 4

/-- `EventChannelId::Sensors`. -/
def sensorsChannel : UInt32 := 1

/-- `SensorPayloadType::SensorId`. -/
def sensorIdKey : UInt32 := 0

/-- The selector picks a sensor by its ID. -/
def selectsSensor (binding : EventBinding) : Bool :=
  binding.hasSelector && binding.selectorKey = sensorIdKey

namespace LoggingControlConfigurationValidator

/-- The error is its text. -/
def invalidLoggingControlConfiguration (message : String) : String :=
  "Invalid logging control configuration. " ++ message

/-- The checks of one trigger, which errors name by its index. -/
def validateTrigger (trigger : LoggingControlBinding) (index : ℕ) : Except String Unit := do
  let binding := trigger.event
  refuseIf (isValidEventChannelId binding.channel = false)
    (invalidLoggingControlConfiguration s!"Trigger {index} names an unknown event channel.")
  refuseIf (binding.channel = sensorsChannel ∧ selectsSensor binding = false)
    (invalidLoggingControlConfiguration
      s!"Trigger {index} on the Sensors channel must select a sensor by its SensorId.")
  refuseIf (binding.hasSelector = true ∧ isSelectorValue binding.selectorValue = false)
    (invalidLoggingControlConfiguration
      s!"Trigger {index} selector value must be text, an integer or a bool.")

/-- `Validate`: the number of triggers, then each of them. -/
def validate (configuration : LoggingControlConfiguration) : Except String Unit := do
  refuseIf (LoggingControlConfiguration.maxTriggers < configuration.triggers.length)
    (invalidLoggingControlConfiguration
      s!"At most {LoggingControlConfiguration.maxTriggers} triggers.")
  configuration.triggers.zipIdx.forM fun (trigger, index) => validateTrigger trigger index

end LoggingControlConfigurationValidator

/-! ### The parser -/

namespace LoggingControlConfigurationCborParser

/-- Without a selector the stored value is integer 0. -/
def selectorToCbor : ConfigValue → CborLoggingTriggerSelectorValue
  | .text value => .text value
  | .int value => .number value
  | .flag value => .flag value
  | _ => .number 0

/-- The trigger as it is stored. -/
def bindingToCbor (trigger : LoggingControlBinding) : CborLoggingControlBindingConfig where
  channel := trigger.event.channel
  eventType := trigger.event.eventType
  payloadKey := trigger.event.payloadKey
  hasSelector := trigger.event.hasSelector
  selectorKey := trigger.event.selectorKey
  selectorValue := selectorToCbor trigger.event.selectorValue
  targetUid := trigger.targetUid

/-- `Serialize`: what the validator refuses is not stored. -/
def serialize (configuration : LoggingControlConfiguration) :
    Except String CborLoggingControlConfig := do
  LoggingControlConfigurationValidator.validate configuration
  .ok { triggers := configuration.triggers.map bindingToCbor }

/-- The selector's value as it is read back. -/
def selectorOfCbor : CborLoggingTriggerSelectorValue → ConfigValue
  | .text value => .text value
  | .number value => .int value
  | .flag value => .flag value

/-- Whatever is stored without a selector is dropped. -/
def bindingOfCbor (config : CborLoggingControlBindingConfig) : LoggingControlBinding where
  event :=
    { channel := config.channel
      eventType := config.eventType
      payloadKey := config.payloadKey
      selectorKey := config.selectorKey
      selectorValue :=
        if config.hasSelector then selectorOfCbor config.selectorValue else .none }
  targetUid := config.targetUid

/-- `Deserialize`: the triggers are read back, then checked. -/
def deserialize (config : CborLoggingControlConfig) :
    Except String LoggingControlConfiguration := do
  let configuration : LoggingControlConfiguration :=
    { triggers := config.triggers.map bindingOfCbor }
  LoggingControlConfigurationValidator.validate configuration
  .ok configuration

theorem few_of_serialize {configuration : LoggingControlConfiguration}
    {config : CborLoggingControlConfig} (serializes : serialize configuration = .ok config) :
    config.triggers.length ≤ Zcbor.maxTriggers := by
  obtain ⟨_, validates, converts⟩ := bind_eq_ok.mp serializes
  cases converts
  obtain ⟨few, -⟩ := andThen_eq_ok.mp validates
  rw [List.length_map]
  exact Nat.le_of_not_lt (refuseIf_eq_ok.mp few)

/-- An accepted selector is read back; it is absent exactly when it was. -/
theorem bindingOfCbor_bindingToCbor {trigger : LoggingControlBinding} {index : ℕ}
    (accepted : LoggingControlConfigurationValidator.validateTrigger trigger index = .ok ()) :
    bindingOfCbor (bindingToCbor trigger) = trigger := by
  obtain ⟨⟨channel, eventType, payloadKey, selectorKey, selectorValue⟩, targetUid⟩ := trigger
  simp only [LoggingControlConfigurationValidator.validateTrigger, andThen_eq_ok,
    refuseIf_eq_ok] at accepted
  obtain ⟨-, -, selector⟩ := accepted
  cases selectorValue with
  | none => rfl
  | int value => rfl
  | text value => rfl
  | flag value => rfl
  | real bits => exact absurd ⟨rfl, rfl⟩ selector
  | ints values => exact absurd ⟨rfl, rfl⟩ selector
  | texts values => exact absurd ⟨rfl, rfl⟩ selector
  | map entries => exact absurd ⟨rfl, rfl⟩ selector

/-- What is serialized is deserialized, to the configuration it came from. -/
theorem deserialize_of_serialize {configuration : LoggingControlConfiguration}
    {config : CborLoggingControlConfig} (serializes : serialize configuration = .ok config) :
    deserialize config = .ok configuration := by
  obtain ⟨_, validates, converts⟩ := bind_eq_ok.mp serializes
  cases converts
  obtain ⟨-, accepted⟩ := andThen_eq_ok.mp validates
  rw [forM_eq_ok] at accepted
  have triggers : (configuration.triggers.map bindingToCbor).map bindingOfCbor =
      configuration.triggers := by
    rw [List.map_map]
    conv_rhs => rw [← List.map_id configuration.triggers]
    apply List.map_congr_left
    intro trigger member
    obtain ⟨index, inside, rfl⟩ := List.getElem_of_mem member
    apply bindingOfCbor_bindingToCbor
    exact accepted (configuration.triggers[index], index) (List.mk_mem_zipIdx_iff_getElem?.mpr
      (List.getElem?_eq_getElem inside))
  simp only [deserialize, triggers, validates]
  rfl

end LoggingControlConfigurationCborParser

end RtCore.Logging
