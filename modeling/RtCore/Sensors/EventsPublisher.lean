import RtCore.EventBus.AcceptanceCache
import RtCore.EventBus.EventChannel
import RtCore.Foundation.Run
import RtCore.Sensors.ReadingsFrame

/-!
# Publishing sensor values

A tick of `SensorEventsPublisher` finds the channel empty, takes the readings processed
since the last take, reads the generation of the subscriptions, forgets answers of another
generation and then asks for each reading whether a subscriber accepts it and publishes it.
Commits, subscriptions, the bus and other publishers come in between any two of these steps.

## Main definitions

* `SensorEventsPublisher.advance` — the next step of the publisher's thread
* `PublishingSystem.step` — a step of the publisher or of what runs beside it
* `PublishingSystem.PublishesAccepted`, `PublishingSystem.KeepsNewest`,
  `PublishingSystem.PushesNothingOut` — what is asked of a run
* `PublishingSystem.Unsurprising` — the generation does not come round between two looks at
  it, and other publishers leave room for a tick's readings
-/

namespace RtCore.Sensors

open RtCore.EventBus RtCore.Foundation

variable {V : Type}

/-- What an event is about. -/
inductive SensorEventType
  | dataUpdated
  | inputRequested
deriving DecidableEq, Repr

/-- The sensor of an event and its value. -/
structure SensorPayload (V : Type) where
  sensorId : UInt32
  value : V
deriving DecidableEq

/-- An event of a sensor. -/
abbrev SensorEvent (V : Type) := Event SensorEventType (SensorPayload V)

/-- The channel that events of sensors go through. -/
abbrev SensorEventsChannel (V : Type) := EventChannel SensorEventType (SensorPayload V)

/-- A subscription to events of sensors. -/
abbrev SensorSubscription (V : Type) := Subscription SensorEventType (SensorPayload V)

/-- `K_MAX_QUEUED_EVENTS` of the channel. -/
def maxQueuedEvents : ℕ := 128

/-- The channel is deeper than the events of one take, which is asserted at build time. -/
structure SensorLimits where
  maxCount : ℕ
  pos : 0 < maxCount
  below : maxCount < maxQueuedEvents

/-! ### The publisher -/

/-- Where the publisher's thread stands. -/
inductive PublisherPhase (V : Type)
  /-- Between two ticks. -/
  | idle
  /-- About to look at the queue. -/
  | checking
  /-- The queue was empty. -/
  | taking
  | taken (readings : List (SensorReading V))
  | generationRead (readings : List (SensorReading V)) (subscriptionGeneration : UInt32)
  /-- Of `count` readings taken these are left. -/
  | publishing (count : ℕ) (readings : List (SensorReading V))
  /-- A subscriber accepts the event. -/
  | accepted (count : ℕ) (event : SensorEvent V) (readings : List (SensorReading V))
deriving DecidableEq

/-- `SensorEventsPublisher`: how far it is, and which events nobody takes. -/
structure SensorEventsPublisher (V : Type) where
  phase : PublisherPhase V
  acceptanceCache : AcceptanceCache

namespace SensorEventsPublisher

/-- A publisher that has published nothing. -/
def create (limits : SensorLimits) : SensorEventsPublisher V where
  phase := .idle
  acceptanceCache := .create limits.maxCount

/-- The event of a reading; `source` is the hash of the publisher's name. -/
def eventOf (source : UInt32) (reading : SensorReading V) (value : V) : SensorEvent V where
  sourceId := source
  type := .dataUpdated
  payload := ⟨reading.sensorIdHash, value⟩

/-- The remembered answer, or the channel's, which is remembered. A filter that throws
counts as a rejection. -/
def isAccepted (cache : AcceptanceCache) (channel : SensorEventsChannel V)
    (event : SensorEvent V) (sensorIdHash : UInt32) : Bool × AcceptanceCache :=
  match cache.find sensorIdHash with
  | some answer => (answer, cache)
  | none =>
    let answer := (channel.accepts event).getD false
    (answer, cache.store sensorIdHash answer)

end SensorEventsPublisher

/-! ### The publisher and what runs beside it -/

/-- The last three fields are a record of what happened and decide nothing. -/
structure PublishingSystem (V : Type) where
  frame : SensorReadingsFrame V
  channel : SensorEventsChannel V
  publisher : SensorEventsPublisher V
  /-- The events of readings that were published. -/
  published : List (SensorEvent V)
  /-- The subscription changes at the latest look at the generation. -/
  judgedChanges : ℕ
  /-- How many of the oldest events in the queue were there at the latest take. -/
  older : ℕ

/-- What readings, the publisher, handlers and subscriptions do to the system. -/
inductive PublishingAction (V : Type)
  /-- `AddOrUpdateReading`. -/
  | commit (reading : SensorReading V)
  /-- `UpdateReadingValue`. -/
  | write (sensorIdHash : UInt32) (value : V)
  | replay
  | subscribe (type : SensorEventType) (filter : SensorEvent V → FilterAnswer)
  | unsubscribe (type : SensorEventType) (id : ℕ)
  /-- The bus takes an event off the queue. -/
  | drain
  /-- Another publisher queues an event. -/
  | publish (event : SensorEvent V)
  /-- The next step of the publisher's thread. -/
  | advance

namespace PublishingSystem

variable [SensorValue V]

/-- Nothing is configured, committed or subscribed yet but the sensors. -/
def start (limits : SensorLimits) (sensorIdHashes : List UInt32) : PublishingSystem V where
  frame := .configure sensorIdHashes
  channel := .create maxQueuedEvents ⟨0, .dataUpdated, ⟨0, SensorValue.nan⟩⟩
  publisher := .create limits
  published := []
  judgedChanges := 0
  older := 0

omit [SensorValue V]

/-- The publisher is at another place of its loop. -/
def setPhase (system : PublishingSystem V) (phase : PublisherPhase V) : PublishingSystem V :=
  { system with publisher := { system.publisher with phase } }

/-- An event joins the queue; with a full queue the oldest one goes. -/
def queue (system : PublishingSystem V) (event : SensorEvent V) : PublishingSystem V :=
  { system with
    channel := system.channel.publishAsync event
    older :=
      if system.channel.isRegistered ∧
          system.channel.getQueuedCount = system.channel.eventQueue.capacity then system.older - 1
      else system.older }

/-- The next step of `PublishProcessedReadings`, which a tick calls. -/
def advance (limits : SensorLimits) (source : UInt32) (system : PublishingSystem V) :
    PublishingSystem V :=
  match system.publisher.phase with
  | .idle => system.setPhase .checking
  | .checking =>
    if system.channel.getQueuedCount ≠ 0 then system.setPhase .idle else system.setPhase .taking
  | .taking =>
    let (readings, frame) := system.frame.takeProcessedReadings limits.maxCount
    { system.setPhase (.taken readings) with frame, older := system.channel.getQueuedCount }
  | .taken readings =>
    { system.setPhase (.generationRead readings system.channel.getSubscriptionGeneration) with
      judgedChanges := system.channel.subscriptionChanges }
  | .generationRead readings subscriptionGeneration =>
    { system with
      publisher :=
        { phase := .publishing readings.length readings
          acceptanceCache := system.publisher.acceptanceCache.revalidate subscriptionGeneration } }
  | .publishing count [] =>
    -- A full take may have left readings behind.
    if count = limits.maxCount then system.setPhase .checking else system.setPhase .idle
  | .publishing count (reading :: readings) =>
    match reading.value with
    | none => system.setPhase (.publishing count readings)
    | some value =>
      let event := SensorEventsPublisher.eventOf source reading value
      let (isAccepted, acceptanceCache) := SensorEventsPublisher.isAccepted
        system.publisher.acceptanceCache system.channel event reading.sensorIdHash
      { system with
        publisher :=
          { phase :=
              if isAccepted then .accepted count event readings else .publishing count readings
            acceptanceCache } }
  | .accepted count event readings =>
    let published :=
      if system.channel.isRegistered then event :: system.published else system.published
    { (system.queue event).setPhase (.publishing count readings) with published }

/-- What an action does to the system. -/
def step (limits : SensorLimits) (source : UInt32) (system : PublishingSystem V) :
    PublishingAction V → PublishingSystem V
  | .commit reading => { system with frame := (system.frame.addOrUpdateReading reading).1 }
  | .write sensorIdHash value =>
    { system with frame := (system.frame.updateReadingValue sensorIdHash value).1 }
  | .replay => { system with frame := system.frame.markProcessedReadingsUpdated }
  | .subscribe type filter => { system with channel := system.channel.subscribe type filter }
  | .unsubscribe type id => { system with channel := system.channel.unsubscribe type id }
  | .drain =>
    { system with channel := system.channel.drainOne.2, older := system.older - 1 }
  | .publish event => system.queue event
  | .advance => system.advance limits source

/-! ### What is asked of a run -/

section Properties

variable (limits : SensorLimits) (source : UInt32) (system : PublishingSystem V)
  (actions : List (PublishingAction V))

/-- The publisher stands by an event that it accepted, whatever else runs, and its next step queues
the event and publishes it once more than before. -/
structure PublishesNext (count : ℕ) (event : SensorEvent V) (readings : List (SensorReading V)) :
    Prop where
  waits : ∀ others, others <+: actions → .advance ∉ others →
    (run (step limits source) system others).publisher.phase = .accepted count event readings ∧
      (run (step limits source) system others).published = system.published
  publishes : ∀ others rest, actions = others ++ .advance :: rest → .advance ∉ others →
    (run (step limits source) system (others ++ [.advance])).published =
        event :: system.published ∧
      (run (step limits source) system (others ++ [.advance])).channel =
        (run (step limits source) system others).channel.publishAsync event

/-- Suppose a subscription was there at a take, as one is that was there before a reading
was marked, and stayed until the acceptance of that reading was decided. Then the reading
is accepted if the subscription accepts it, and publishing it is the next thing the publisher
does. -/
def PublishesAccepted : Prop :=
  ∀ first middle last, actions = first ++ middle ++ .advance :: last →
    (run (step limits source) system first).publisher.phase = .taking →
    ∀ subscription : SensorSubscription V, subscription.type = .dataUpdated →
    Always (step limits source) (fun state => subscription ∈ state.channel.subscribers)
      (run (step limits source) system first) middle →
    ∀ count reading readings value,
    (run (step limits source) system (first ++ middle)).publisher.phase =
      .publishing count (reading :: readings) → reading.value = some value →
    subscription.filter (SensorEventsPublisher.eventOf source reading value) = .accepts →
    let deciding := run (step limits source) system (first ++ middle)
    let decided := deciding.step limits source .advance
    decided.published = deciding.published ∧
      decided.PublishesNext limits source last count
        (SensorEventsPublisher.eventOf source reading value) readings

/-- The take that comes next takes the processed reading of slot `i`. -/
def Takes (i : ℕ) (record : Record V) : Prop :=
  system.publisher.phase = .taking ∧
    ∃ hash, system.frame.sensorIdHashes[i]? = some hash ∧
      record.unpack hash ∈ (system.frame.takeProcessedReadings limits.maxCount).1

/-- The processed reading of slot `i` is not marked. -/
def Unmarked (i : ℕ) (record : Record V) : Prop :=
  ∃ slot, system.frame.slots[i]? = some slot ∧ slot.processed = record ∧ slot.isUpdated = false

/-- The newest processed reading of a sensor is marked, or it was taken and neither written
nor marked again since. -/
def KeepsNewest : Prop :=
  ∀ (i : ℕ) (slot : Slot V), (run (step limits source) system actions).frame.slots[i]? = some slot →
    slot.hasProcessed = true → slot.isUpdated = true ∨
    ∃ first last, actions = first ++ .advance :: last ∧
      (run (step limits source) system first).Takes limits i slot.processed ∧
      Always (step limits source) (fun state => state.Unmarked i slot.processed)
        (run (step limits source) system (first ++ [.advance])) last

/-- A reading that is published pushes no event out of the queue, or only one that was
queued after the take. -/
def PushesNothingOut : Prop :=
  ∀ first last, actions = first ++ .advance :: last → ∀ count event readings,
    (run (step limits source) system first).publisher.phase = .accepted count event readings →
    (run (step limits source) system first).older = 0 ∨
      (run (step limits source) system (first ++ [.advance])).channel.eventQueue.contents =
        (run (step limits source) system first).channel.eventQueue.contents ++ [event]

end Properties

/-- A filter that selects on the sensor ID only. -/
structure SelectsSensor (filter : SensorEvent V → FilterAnswer) : Prop where
  answers : ∀ event, filter event ≠ .throws
  byId : ∀ event other : SensorEvent V, event.type = other.type →
    event.payload.sensorId = other.payload.sensorId → filter event = filter other

end PublishingSystem

/-- How many readings the tick in progress may still publish. -/
def PublisherPhase.remaining (limits : SensorLimits) : PublisherPhase V → ℕ
  | .idle | .checking => 0
  | .taking => limits.maxCount
  | .taken readings | .generationRead readings _ | .publishing _ readings => readings.length
  | .accepted _ _ readings => readings.length + 1

namespace PublishingSystem

/-- The generation is looked at before it comes round to the value it had at the last look,
and another publisher that queues an event during a tick leaves room for the readings this
tick may still publish, as long as events from before the take are queued. -/
def Unsurprising (limits : SensorLimits) (system : PublishingSystem V) :
    PublishingAction V → Prop
  | .advance => ∀ readings, system.publisher.phase = .taken readings →
      ∀ k, system.channel.subscriptionChanges = system.judgedChanges + k * 2 ^ 32 → k = 0
  | .publish _ => 0 < system.publisher.phase.remaining limits →
      system.publisher.phase = .taking ∨ 0 < system.older →
      system.channel.getQueuedCount + system.publisher.phase.remaining limits < maxQueuedEvents
  | _ => True

end PublishingSystem

end RtCore.Sensors
