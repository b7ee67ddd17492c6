import RtCore.Foundation.XxHash64
import RtCore.Sensors.CanRouteTable

/-!
# The signals that CAN sensors name

A sensor names a signal of a CAN message. Names are compared as texts when the CAN configuration is
validated, but the signal of a sensor is looked up by a hash of 32 bits: the lookup gives the first
signal of the message with the hash of the name.

## Main definitions

* `nameHash`, `tryGetSignal`, `lookUpSignal` — the lookup of a signal
* `validateCanbusSources` — the check of a sensor list against a CAN configuration
* `NoTwinBefore` — no other name with the same hash comes first

## Main results

* `readsNamed_iff` — a list that is accepted reads the signals it names exactly when no sensor's
  name has a twin before it
* `twins_accepted` — two signals of one message whose names have the same hash
-/

namespace RtCore.Sensors

open RtCore.Can RtCore.Foundation

/-! ### Looking a signal up -/

/-- The hash of a signal name, 0 for none. -/
def nameHash (name : Text) : UInt32 := if name.isEmpty then 0 else XxHash64.getHash name.bytes

/-- `TryGetSignal`. -/
def tryGetSignal (message : CanMessageConfiguration) (signalNameHash : UInt32) :
    Option CanSignalConfiguration :=
  message.signalConfigurations.find? fun signal => nameHash signal.name = signalNameHash

/-- The channel of a bus. -/
def channelOf (canbus : CanbusConfiguration) (busChannel : UInt8) :
    Option CanChannelConfiguration :=
  (canbus.channelConfigurations.find? (·.1 = busChannel)).map Prod.snd

/-- The first message of a channel with a frame ID. -/
def messageOf (channel : CanChannelConfiguration) (frameId : UInt32) :
    Option CanMessageConfiguration :=
  channel.messageConfigurations.find? (·.frameId = frameId)

/-- The message that a source reads. -/
def messageOfSource (canbus : CanbusConfiguration) (source : CanbusSource) :
    Option CanMessageConfiguration :=
  (channelOf canbus source.busChannel).bind (messageOf · source.frameId)

/-- The signal that a source reads, by bus, frame ID and hash of the name. -/
def lookUpSignal (canbus : CanbusConfiguration) (source : CanbusSource) :
    Option CanSignalConfiguration :=
  (messageOfSource canbus source).bind (tryGetSignal · (nameHash source.signalName))

/-! ### The check of a sensor list -/

/-- `FrameIdText`. -/
def frameIdText (frameId : UInt32) : String :=
  "0x" ++ String.ofList ((Nat.toDigits 16 frameId.toNat).map Char.toUpper)

/-- `ValidateCanbusSources` for one sensor. -/
def validateCanbusSource (canbus : CanbusConfiguration) (sensor : ConfiguredSensor) :
    Except SensorError Unit :=
  let traits := sensor.configuration.getTraits
  match if traits.usesCanbus then sensor.configuration.canbusSource else none with
  | none => .ok ()
  | some source =>
    let bus := toString source.busChannel.toNat
    match channelOf canbus source.busChannel with
    | none => .error (.invalidSensor sensor.id ("CAN bus " ++ bus ++ " is not configured."))
    | some channel =>
      if traits.source ≠ .canSignal then .ok ()
      else
        match messageOf channel source.frameId with
        | none => .error (.invalidSensor sensor.id ("CAN bus " ++ bus ++
            " has no message with frame ID " ++ frameIdText source.frameId ++ "."))
        | some message => do
          refuseIf (sensor.isEnabled = true ∧ message.isEnabled = false)
            (.invalidSensor sensor.id ("CAN message " ++ frameIdText source.frameId ++ " on bus " ++
              bus ++ " is disabled."))
          refuseIf (tryGetSignal message (nameHash source.signalName) = none)
            (.invalidSensor sensor.id ("CAN message " ++ frameIdText source.frameId ++ " on bus " ++
              bus ++ " has no signal " ++ source.signalName.string ++ "."))

/-- `ValidateCanbusSources`. -/
def validateCanbusSources (sensors : List ConfiguredSensor) (canbus : CanbusConfiguration) :
    Except SensorError Unit :=
  sensors.forM (validateCanbusSource canbus)

/-- A sensor names a signal. -/
def namesSignal (sensor : ConfiguredSensor) (source : CanbusSource) : Prop :=
  sensor.configuration.getTraits.usesCanbus = true ∧
    sensor.configuration.getTraits.source = .canSignal ∧
    sensor.configuration.canbusSource = some source

/-- In an accepted list, a sensor that names a signal reads some signal. -/
theorem lookUpSignal_of_accepted {sensors : List ConfiguredSensor} {canbus : CanbusConfiguration}
    (accepted : validateCanbusSources sensors canbus = .ok ()) {sensor : ConfiguredSensor}
    (member : sensor ∈ sensors) {source : CanbusSource} (names : namesSignal sensor source) :
    ∃ message signal, messageOfSource canbus source = some message ∧
      tryGetSignal message (nameHash source.signalName) = some signal := by
  have checked := forM_eq_ok.mp accepted sensor member
  obtain ⟨usesCanbus, isSignal, there⟩ := names
  unfold validateCanbusSource at checked
  simp only [usesCanbus, there, if_true] at checked
  cases bus : channelOf canbus source.busChannel with
  | none => simp [bus] at checked
  | some channel =>
    simp only [bus, isSignal, ne_eq, not_true_eq_false, if_false] at checked
    cases found : messageOf channel source.frameId with
    | none => simp [found] at checked
    | some message =>
      simp only [found] at checked
      obtain ⟨-, -, checked⟩ := bind_eq_ok.mp checked
      obtain ⟨signal, read⟩ := Option.ne_none_iff_exists'.mp (refuseIf_eq_ok.mp checked)
      exact ⟨message, signal, by rw [messageOfSource, bus, Option.bind_some, found], read⟩

/-! ### Names with one hash -/

/-- The first entry with the hash of a name has the name exactly when no other name before the
first such entry has the hash. -/
theorem key_eq_iff_of_find {α β γ : Type} [DecidableEq β] [DecidableEq γ] {key : α → β}
    {hash : β → γ} {name : β} {entries : List α} {entry : α}
    (found : entries.find? (fun other => hash (key other) = hash name) = some entry) :
    key entry = name ↔
      ∀ other ∈ entries.takeWhile (key · ≠ name), hash (key other) ≠ hash name := by
  induction entries with
  | nil => cases found
  | cons first entries ih =>
    by_cases twin : hash (key first) = hash name
    · rw [List.find?_cons_of_pos (by simpa using twin)] at found
      obtain rfl := Option.some.inj found
      by_cases same : key first = name
      · rw [List.takeWhile_cons_of_neg (by simpa using same)]
        exact iff_of_true same nofun
      · rw [List.takeWhile_cons_of_pos (by simpa using same)]
        exact iff_of_false same fun none => none first List.mem_cons_self twin
    · have other : key first ≠ name := fun same => twin (congrArg hash same)
      rw [List.find?_cons_of_neg (by simpa using twin)] at found
      rw [List.takeWhile_cons_of_pos (by simpa using other), ih found]
      exact ⟨fun none => List.forall_mem_cons.mpr ⟨twin, none⟩,
        fun none => (List.forall_mem_cons.mp none).2⟩

/-- The lookup gives the signal that the source names. -/
def ReadsNamed (canbus : CanbusConfiguration) (source : CanbusSource) : Prop :=
  ∃ signal, lookUpSignal canbus source = some signal ∧ signal.name = source.signalName

/-- In the message of a source, no other name before the named signal, or at all where there is
none, has the hash of the name. -/
def NoTwinBefore (canbus : CanbusConfiguration) (source : CanbusSource) : Prop :=
  ∀ message, messageOfSource canbus source = some message →
    ∀ signal ∈ message.signalConfigurations.takeWhile (·.name ≠ source.signalName),
      nameHash signal.name ≠ nameHash source.signalName

/-- A sensor list that is accepted reads the signals it names exactly when no name has a twin before
it, also for names that the message does not have. -/
theorem readsNamed_iff {sensors : List ConfiguredSensor} {canbus : CanbusConfiguration}
    (accepted : validateCanbusSources sensors canbus = .ok ()) :
    (∀ sensor ∈ sensors, ∀ source, namesSignal sensor source → ReadsNamed canbus source) ↔
      ∀ sensor ∈ sensors, ∀ source, namesSignal sensor source → NoTwinBefore canbus source := by
  have each (sensor : ConfiguredSensor) (member : sensor ∈ sensors) (source : CanbusSource)
      (names : namesSignal sensor source) :
      ReadsNamed canbus source ↔ NoTwinBefore canbus source := by
    obtain ⟨message, signal, found, read⟩ := lookUpSignal_of_accepted accepted member names
    have first := key_eq_iff_of_find read
    have looked : lookUpSignal canbus source = some signal := by
      rw [lookUpSignal, found, Option.bind_some, read]
    constructor
    · rintro ⟨other, same, named⟩
      obtain rfl := Option.some.inj (looked.symm.trans same)
      intro other there
      obtain rfl := Option.some.inj (found.symm.trans there)
      exact first.mp named
    · intro none
      exact ⟨signal, looked, first.mpr (none message found)⟩
  exact forall₂_congr fun sensor member => forall₂_congr (each sensor member)

/-! ### Twins -/

/-- A signal of one byte. -/
def sampleSignal (name : String) (startBit : UInt32) : CanSignalConfiguration :=
  ⟨startBit, 8, 0x3F800000, 0, 0, false, .ofString name, .empty⟩

/-- A bus with one message of two signals, whose names have the same hash. -/
def twinCanbus : CanbusConfiguration where
  channelConfigurations := [(0, ⟨classicalCan, false, 0, 500000, 0,
    [⟨0x100, true, none, .empty, .ofString "engine", 8,
      [sampleSignal "bsrc" 0, sampleSignal "lhrk" 8]⟩]⟩)]
  comConfiguration := ⟨none, 0x700, 0, 10⟩
  nodup := by decide

/-- A sensor of a signal whose name has the hash of another one. -/
def twinSensor : ConfiguredSensor where
  id := .ofString "pressure"
  isEnabled := true
  metadata := ⟨.empty, .empty, .empty⟩
  configuration := ⟨6, none, .ofString "0/256/lhrk", .empty, none, 0, [], .empty, 0, 0,
    some ⟨0, 0x100, .ofString "lhrk"⟩⟩

theorem readsNamed_iff_twins :
    (∀ sensor ∈ [twinSensor], ∀ source, namesSignal sensor source → ReadsNamed twinCanbus source) ↔
      ∀ sensor ∈ [twinSensor], ∀ source, namesSignal sensor source →
        NoTwinBefore twinCanbus source := by
  have accepted : validateCanbusSources [twinSensor] twinCanbus = .ok () := by decide
  exact readsNamed_iff accepted

/-- Both validators accept a sensor that reads another signal than it names. -/
theorem twins_accepted :
    CanbusConfigurationValidator.validate none twinCanbus = .ok () ∧
      validateCanbusSources [twinSensor] twinCanbus = .ok () ∧
      ∃ source, namesSignal twinSensor source ∧ ¬ ReadsNamed twinCanbus source := by
  refine ⟨by decide, by decide, _, ⟨by decide, by decide, rfl⟩, ?_⟩
  rintro ⟨signal, read, named⟩
  have first :
      lookUpSignal twinCanbus ⟨0, 0x100, .ofString "lhrk"⟩ = some (sampleSignal "bsrc" 0) := by
    decide
  obtain rfl := Option.some.inj (first.symm.trans read)
  revert named
  decide

end RtCore.Sensors
