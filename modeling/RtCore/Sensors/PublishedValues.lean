import RtCore.Sensors.EventsPublisher

/-!
# Published sensor values

Between any two steps, what the publisher remembers of the subscribers' answers is what
they would answer as long as the subscriptions have not changed since its latest look at
the generation. A subscription that was there at the look is therefore heeded until it
goes. The readings and the queue have invariants of their own.

## Main definitions

* `PublishingSystem.CacheSound`, `PublishingSystem.Heeds` — the remembered answers
* `PublishingSystem.HasRoom` — the queue has room for the readings of a tick

## Main results

* `PublishingSystem.publishing_spec` — what is asked holds of every run without surprises
* `PublishingSystem.along_unsurprising` — short runs without other publishers have none
* `PublishingSystem.not_publishing_spec` — what happens otherwise
-/

namespace RtCore.Sensors

open RtCore.EventBus RtCore.Foundation

variable {V : Type}

namespace PublishingSystem

/-! ### The channel -/

section Channel

variable {limits : SensorLimits} {source : UInt32} {system : PublishingSystem V}
  {action : PublishingAction V}

/-- The channel is registered and as deep as it was made, and all filters select on the
sensor ID. -/
structure Wired (system : PublishingSystem V) : Prop where
  registered : system.channel.isRegistered = true
  capacity : system.channel.eventQueue.capacity = maxQueuedEvents
  filters : ∀ subscription ∈ system.channel.subscribers, SelectsSensor subscription.filter

theorem wired_start [SensorValue V] (limits : SensorLimits) (sensorIdHashes : List UInt32) :
    (start limits sensorIdHashes : PublishingSystem V).Wired where
  registered := rfl
  capacity := rfl
  filters := nofun

/-- What a step of the publisher does beside its own state: nothing, a take or a publish. -/
theorem advance_effects (limits : SensorLimits) (source : UInt32) (system : PublishingSystem V) :
    ((system.advance limits source).channel = system.channel ∧
      (system.advance limits source).published = system.published ∧
      ((system.advance limits source).frame = system.frame ∨
        system.publisher.phase = .taking ∧ (system.advance limits source).frame =
          (system.frame.takeProcessedReadings limits.maxCount).2)) ∨
    ∃ count event readings, system.publisher.phase = .accepted count event readings ∧
      (system.advance limits source).channel = system.channel.publishAsync event ∧
      (system.advance limits source).published =
        (if system.channel.isRegistered then event :: system.published else system.published) ∧
      (system.advance limits source).frame = system.frame := by
  rw [advance]
  cases system.publisher.phase with
  | idle => exact .inl ⟨rfl, rfl, .inl rfl⟩
  | checking =>
    dsimp only
    split <;> exact .inl ⟨rfl, rfl, .inl rfl⟩
  | taking => exact .inl ⟨rfl, rfl, .inr ⟨rfl, rfl⟩⟩
  | taken readings => exact .inl ⟨rfl, rfl, .inl rfl⟩
  | generationRead readings generation => exact .inl ⟨rfl, rfl, .inl rfl⟩
  | publishing count readings =>
    cases readings with
    | nil =>
      dsimp only
      split <;> exact .inl ⟨rfl, rfl, .inl rfl⟩
    | cons reading readings =>
      dsimp only
      split <;> exact .inl ⟨rfl, rfl, .inl rfl⟩
  | accepted count event readings => exact .inr ⟨count, event, readings, rfl, rfl, rfl, rfl⟩

theorem Wired.publishAsync (wired : system.Wired) (event : SensorEvent V) :
    (system.channel.publishAsync event).isRegistered = true ∧
      (system.channel.publishAsync event).eventQueue.capacity = maxQueuedEvents ∧
      (system.channel.publishAsync event).subscribers = system.channel.subscribers := by
  rw [EventChannel.publishAsync_of_registered wired.registered]
  exact ⟨wired.registered, (RingBuffer.capacity_push ..).trans wired.capacity, rfl⟩

theorem Wired.step (wired : system.Wired)
    (selects : ∀ type filter, action = .subscribe type filter → SelectsSensor filter) :
    (system.step limits source action).Wired := by
  cases action with
  | commit reading => exact ⟨wired.registered, wired.capacity, wired.filters⟩
  | write hash value => exact ⟨wired.registered, wired.capacity, wired.filters⟩
  | replay => exact ⟨wired.registered, wired.capacity, wired.filters⟩
  | subscribe type filter =>
    refine ⟨wired.registered, wired.capacity, fun subscription mem => ?_⟩
    rcases List.mem_append.mp mem with mem | mem
    · exact wired.filters subscription mem
    · rw [List.mem_singleton.mp mem]
      exact selects type filter rfl
  | unsubscribe type id =>
    rw [PublishingSystem.step, EventChannel.unsubscribe]
    split
    · exact ⟨wired.registered, wired.capacity, fun subscription mem =>
        wired.filters subscription (List.mem_of_mem_eraseP mem)⟩
    · exact wired
  | drain =>
    exact ⟨wired.registered, (RingBuffer.capacity_pop ..).trans wired.capacity, wired.filters⟩
  | publish event =>
    obtain ⟨registered, capacity, same⟩ := wired.publishAsync event
    exact ⟨registered, capacity, same ▸ wired.filters⟩
  | advance =>
    rcases advance_effects limits source system with
      ⟨same, -⟩ | ⟨count, event, readings, -, publishes, -⟩
    · exact ⟨same ▸ wired.registered, same ▸ wired.capacity, same ▸ wired.filters⟩
    · obtain ⟨registered, capacity, same⟩ := wired.publishAsync event
      rw [← publishes] at registered capacity same
      exact ⟨registered, capacity, same ▸ wired.filters⟩

end Channel

/-! ### The remembered answers -/

/-- The generation that the answers remembered are to be of. -/
def generationInUse (system : PublishingSystem V) : UInt32 :=
  match system.publisher.phase with
  | .generationRead _ subscriptionGeneration => subscriptionGeneration
  | _ => system.publisher.acceptanceCache.subscriptionGeneration

/-- An answer is the channel's. -/
def IsAnswer (channel : SensorEventsChannel V) (entry : AcceptanceEntry) : Prop :=
  ∀ event : SensorEvent V, event.type = .dataUpdated → event.payload.sensorId = entry.key →
    (channel.accepts event).getD false = entry.isAccepted

/-- The answers are of the generation at the latest look, and they are what the channel
would answer as long as the subscriptions have not changed since then. -/
structure CacheSound (channel : SensorEventsChannel V) (cache : AcceptanceCache)
    (inUse : UInt32) (judgedChanges : ℕ) : Prop where
  judged_le : judgedChanges ≤ channel.subscriptionChanges
  inUse_eq : inUse = .ofNat judgedChanges
  answers : inUse = cache.subscriptionGeneration → channel.subscriptionChanges = judgedChanges →
    ∀ entry ∈ cache.entries, IsAnswer channel entry

/-- The answers that are kept were given for the subscriptions there are. -/
def Remembers (system : PublishingSystem V) : Prop :=
  CacheSound system.channel system.publisher.acceptanceCache system.generationInUse
    system.judgedChanges

section Answers

variable {channel : SensorEventsChannel V} {cache : AcceptanceCache} {inUse : UInt32}
  {judgedChanges : ℕ}

/-- Other events in the queue change no answer. -/
theorem CacheSound.withQueue (sound : CacheSound channel cache inUse judgedChanges)
    (eventQueue : RingBuffer (SensorEvent V)) :
    CacheSound { channel with eventQueue } cache inUse judgedChanges :=
  ⟨sound.judged_le, sound.inUse_eq, sound.answers⟩

theorem CacheSound.publishAsync (sound : CacheSound channel cache inUse judgedChanges)
    (event : SensorEvent V) :
    CacheSound (channel.publishAsync event) cache inUse judgedChanges := by
  rw [EventChannel.publishAsync]
  split
  · exact sound
  · exact sound.withQueue _

/-- A change of the subscriptions leaves the answers to the next look at the generation. -/
theorem CacheSound.changed (sound : CacheSound channel cache inUse judgedChanges)
    {other : SensorEventsChannel V}
    (changes : other.subscriptionChanges = channel.subscriptionChanges + 1) :
    CacheSound other cache inUse judgedChanges where
  judged_le := changes ▸ Nat.le_succ_of_le sound.judged_le
  inUse_eq := sound.inUse_eq
  answers := by
    intro _ same
    have := sound.judged_le
    omega

/-- At a look at the generation, an unchanged one means unchanged subscriptions. -/
theorem CacheSound.look
    (sound : CacheSound channel cache cache.subscriptionGeneration judgedChanges)
    (once : ∀ k, channel.subscriptionChanges = judgedChanges + k * 2 ^ 32 → k = 0) :
    CacheSound channel cache channel.getSubscriptionGeneration channel.subscriptionChanges where
  judged_le := Nat.le_refl _
  inUse_eq := rfl
  answers := by
    intro same _
    rw [sound.inUse_eq, EventChannel.getSubscriptionGeneration] at same
    have mod : channel.subscriptionChanges % 2 ^ 32 = judgedChanges % 2 ^ 32 := by
      simpa using congrArg UInt32.toNat same
    have unchanged : channel.subscriptionChanges = judgedChanges := by
      have := sound.judged_le
      have := once ((channel.subscriptionChanges - judgedChanges) / 2 ^ 32) (by omega)
      omega
    exact sound.answers rfl unchanged

/-- Answers of another generation are forgotten. -/
theorem CacheSound.revalidate (sound : CacheSound channel cache inUse judgedChanges) :
    CacheSound channel (cache.revalidate inUse) (cache.revalidate inUse).subscriptionGeneration
      judgedChanges := by
  rw [AcceptanceCache.revalidate]
  split
  case isTrue same => exact ⟨sound.judged_le, same ▸ sound.inUse_eq, fun _ => sound.answers same⟩
  case isFalse => exact ⟨sound.judged_le, sound.inUse_eq, fun _ _ => nofun⟩

/-- The answer that is stored is the channel's for every event of the sensor. -/
theorem isAnswer_accepts
    (filters : ∀ subscription ∈ channel.subscribers, SelectsSensor subscription.filter)
    {event : SensorEvent V} (type : event.type = .dataUpdated) {key : UInt32}
    (sensor : event.payload.sensorId = key) :
    IsAnswer channel ⟨key, (channel.accepts event).getD false⟩ := by
  intro other type' sensor'
  congr 1
  refine EventChannel.accepts_congr (type'.trans type.symm) fun subscription mem => ?_
  exact (filters subscription mem).byId other event (type'.trans type.symm)
    (sensor'.trans sensor.symm)

theorem CacheSound.isAccepted
    (sound : CacheSound channel cache cache.subscriptionGeneration judgedChanges)
    (filters : ∀ subscription ∈ channel.subscribers, SelectsSensor subscription.filter)
    (event : SensorEvent V) (type : event.type = .dataUpdated) {key : UInt32}
    (sensor : event.payload.sensorId = key) :
    CacheSound channel (SensorEventsPublisher.isAccepted cache channel event key).2
      (SensorEventsPublisher.isAccepted cache channel event key).2.subscriptionGeneration
      judgedChanges := by
  rw [SensorEventsPublisher.isAccepted]
  split
  · exact sound
  · refine ⟨sound.judged_le, sound.inUse_eq, fun _ unchanged entry mem => ?_⟩
    rcases AcceptanceCache.mem_storeEntry mem with rfl | mem
    · exact isAnswer_accepts filters type sensor
    · exact sound.answers rfl unchanged entry mem

end Answers

section Steps

variable {limits : SensorLimits} {source : UInt32} {system : PublishingSystem V}
  {action : PublishingAction V}

theorem remembers_start [SensorValue V] (limits : SensorLimits) (sensorIdHashes : List UInt32) :
    (start limits sensorIdHashes : PublishingSystem V).Remembers where
  judged_le := Nat.le_refl _
  inUse_eq := rfl
  answers := fun _ _ => nofun

theorem Remembers.advance (remembers : system.Remembers) (wired : system.Wired)
    (unsurprising : system.Unsurprising limits .advance) :
    (system.advance limits source).Remembers := by
  obtain ⟨frame, channel, ⟨phase, cache⟩, published, judgedChanges, older⟩ := system
  rw [PublishingSystem.advance]
  cases phase with
  | idle => exact remembers
  | checking =>
    dsimp only
    split <;> exact remembers
  | taking => exact remembers
  | taken readings => exact CacheSound.look remembers (unsurprising readings rfl)
  | generationRead readings generation => exact CacheSound.revalidate remembers
  | publishing count readings =>
    cases readings with
    | nil =>
      dsimp only
      split <;> exact remembers
    | cons reading readings =>
      dsimp only
      split
      · exact remembers
      · rename_i value valued
        have answered := CacheSound.isAccepted remembers wired.filters
          (SensorEventsPublisher.eventOf source reading value) rfl rfl
        split <;> exact answered
  | accepted count event readings => exact CacheSound.publishAsync remembers event

theorem Remembers.step (remembers : system.Remembers) (wired : system.Wired)
    (unsurprising : system.Unsurprising limits action) :
    (system.step limits source action).Remembers := by
  cases action with
  | commit reading => exact remembers
  | write hash value => exact remembers
  | replay => exact remembers
  | subscribe type filter => exact CacheSound.changed remembers rfl
  | unsubscribe type id =>
    rw [PublishingSystem.step, EventChannel.unsubscribe]
    split
    · exact CacheSound.changed remembers rfl
    · exact remembers
  | drain => exact CacheSound.withQueue remembers _
  | publish event => exact CacheSound.publishAsync remembers event
  | advance => exact remembers.advance wired unsurprising

/-- A subscription for sensor values accepts those of a sensor. -/
def AcceptsKey (subscription : SensorSubscription V) (key : UInt32) : Prop :=
  ∃ event, event.type = .dataUpdated ∧ event.payload.sensorId = key ∧
    subscription.filter event = .accepts

/-- From the look at the generation on, no remembered answer turns down what the
subscription accepts. -/
def Heeds (system : PublishingSystem V) (subscription : SensorSubscription V) : Prop :=
  match system.publisher.phase with
  | .generationRead _ subscriptionGeneration =>
    subscriptionGeneration = system.publisher.acceptanceCache.subscriptionGeneration →
      ∀ entry ∈ system.publisher.acceptanceCache.entries, AcceptsKey subscription entry.key →
        entry.isAccepted = true
  | .publishing .. | .accepted .. =>
    ∀ entry ∈ system.publisher.acceptanceCache.entries, AcceptsKey subscription entry.key →
      entry.isAccepted = true
  | _ => True

variable {subscription : SensorSubscription V}

/-- The channel accepts what one of its subscriptions accepts. -/
theorem Wired.accepts (wired : system.Wired) (mem : subscription ∈ system.channel.subscribers)
    (type : subscription.type = .dataUpdated) {event : SensorEvent V}
    (updated : event.type = .dataUpdated)
    (accepts : AcceptsKey subscription event.payload.sensorId) :
    system.channel.accepts event = some true := by
  obtain ⟨other, updated', sensor, accepts⟩ := accepts
  refine EventChannel.accepts_of_mem (fun subscription mem => ?_) mem (type.trans updated.symm) ?_
  · exact (wired.filters subscription mem).answers event
  · rw [← accepts]
    exact (wired.filters subscription mem).byId event other (updated.trans updated'.symm)
      sensor.symm

/-- Asking about an event keeps heeding the subscription, and the answer does so as well. -/
theorem Heeds.isAccepted (wired : system.Wired)
    (mem : subscription ∈ system.channel.subscribers) (type : subscription.type = .dataUpdated)
    {cache : AcceptanceCache}
    (heeds : ∀ entry ∈ cache.entries, AcceptsKey subscription entry.key → entry.isAccepted = true)
    (event : SensorEvent V) (updated : event.type = .dataUpdated) :
    (AcceptsKey subscription event.payload.sensorId →
      (SensorEventsPublisher.isAccepted cache system.channel event
        event.payload.sensorId).1 = true) ∧
    ∀ entry ∈ (SensorEventsPublisher.isAccepted cache system.channel event
        event.payload.sensorId).2.entries,
      AcceptsKey subscription entry.key → entry.isAccepted = true := by
  rw [SensorEventsPublisher.isAccepted]
  split
  case h_1 answer found =>
    exact ⟨fun accepts => heeds _ (AcceptanceCache.mem_of_find found) accepts, heeds⟩
  case h_2 =>
    have answered : AcceptsKey subscription event.payload.sensorId →
        (system.channel.accepts event).getD false = true := by
      intro accepts
      rw [wired.accepts mem type updated accepts]
      rfl
    refine ⟨answered, fun entry member accepts => ?_⟩
    rcases AcceptanceCache.mem_storeEntry member with rfl | member
    · exact answered accepts
    · exact heeds entry member accepts

theorem Heeds.advance (heeds : system.Heeds subscription) (remembers : system.Remembers)
    (wired : system.Wired) (unsurprising : system.Unsurprising limits .advance)
    (mem : subscription ∈ system.channel.subscribers) (type : subscription.type = .dataUpdated) :
    (system.advance limits source).Heeds subscription := by
  obtain ⟨frame, channel, ⟨phase, cache⟩, published, judgedChanges, older⟩ := system
  rw [PublishingSystem.advance]
  cases phase with
  | idle => trivial
  | checking =>
    dsimp only
    split <;> trivial
  | taking => trivial
  | taken readings =>
    -- The answers kept are of the subscriptions as they are.
    rintro same entry member ⟨event, updated, sensor, accepts⟩
    have kept := CacheSound.look remembers (unsurprising readings rfl)
    have answer := kept.answers same rfl entry member event updated sensor
    have accepted : channel.accepts event = some true :=
      wired.accepts mem type updated ⟨event, updated, rfl, accepts⟩
    rw [accepted] at answer
    exact answer.symm
  | generationRead readings generation =>
    intro entry member accepts
    dsimp only at member
    rw [AcceptanceCache.revalidate] at member
    split at member
    case isTrue same => exact heeds same entry member accepts
    case isFalse => cases member
  | publishing count readings =>
    cases readings with
    | nil =>
      dsimp only
      split <;> trivial
    | cons reading readings =>
      dsimp only
      split
      · exact heeds
      · rename_i value valued
        obtain ⟨-, heeds⟩ := Heeds.isAccepted wired mem type heeds
          (SensorEventsPublisher.eventOf source reading value) rfl
        split <;> exact heeds
  | accepted count event readings => exact heeds

theorem Heeds.step (heeds : system.Heeds subscription) (remembers : system.Remembers)
    (wired : system.Wired) (unsurprising : system.Unsurprising limits action)
    (mem : subscription ∈ system.channel.subscribers) (type : subscription.type = .dataUpdated) :
    (system.step limits source action).Heeds subscription := by
  cases action with
  | advance => exact heeds.advance remembers wired unsurprising mem type
  | commit reading => exact heeds
  | write hash value => exact heeds
  | replay => exact heeds
  | subscribe type filter => exact heeds
  | unsubscribe type id => exact heeds
  | drain => exact heeds
  | publish event => exact heeds

end Steps

/-! ### Room in the queue -/

section Room

variable {limits : SensorLimits} {source : UInt32} {system : PublishingSystem V}
  {action : PublishingAction V}

/-- As long as an event from before the take may be queued, the queue has room for the
readings that the tick may still publish. -/
def HasRoom (limits : SensorLimits) (system : PublishingSystem V) : Prop :=
  0 < system.publisher.phase.remaining limits →
    system.publisher.phase = .taking ∨ 0 < system.older →
    system.channel.getQueuedCount + system.publisher.phase.remaining limits ≤ maxQueuedEvents

theorem hasRoom_start [SensorValue V] (limits : SensorLimits) (sensorIdHashes : List UInt32) :
    (start limits sensorIdHashes : PublishingSystem V).HasRoom limits :=
  fun remaining => absurd remaining (Nat.lt_irrefl 0)

/-- An event that joins the queue moves no other one behind an older one. -/
theorem older_queue_le (event : SensorEvent V) : (system.queue event).older ≤ system.older := by
  rw [queue]
  dsimp only
  split
  · exact Nat.sub_le _ _
  · exact Nat.le_refl _

theorem getQueuedCount_publishAsync_le (channel : SensorEventsChannel V) (event : SensorEvent V) :
    (channel.publishAsync event).getQueuedCount ≤ channel.getQueuedCount + 1 := by
  rw [EventChannel.publishAsync]
  split
  · exact Nat.le_succ _
  · exact RingBuffer.count_push_le ..

theorem HasRoom.advance (room : system.HasRoom limits) :
    (system.advance limits source).HasRoom limits := by
  obtain ⟨frame, channel, ⟨phase, cache⟩, published, judgedChanges, older⟩ := system
  rw [PublishingSystem.advance]
  -- The queue is empty when the readings are taken, and each publication uses up one of the places
  -- that were left.
  cases phase with
  | idle => exact fun remaining => absurd remaining (Nat.lt_irrefl 0)
  | checking =>
    dsimp only
    split
    · exact fun remaining => absurd remaining (Nat.lt_irrefl 0)
    case isFalse empty =>
      intro _ _
      have empty : channel.getQueuedCount = 0 := not_not.mp empty
      have below := limits.below
      simp only [setPhase, empty, PublisherPhase.remaining]
      omega
  | taking =>
    intro _ _
    have enough := room limits.pos (.inl rfl)
    have taken := SensorReadingsFrame.length_takeLoop limits.maxCount frame.slots
      frame.sensorIdHashes
    exact (Nat.add_le_add_left taken _).trans enough
  | taken readings => exact fun remaining older => room remaining (.inr (older.resolve_left nofun))
  | generationRead readings generation =>
    exact fun remaining older => room remaining (.inr (older.resolve_left nofun))
  | publishing count readings =>
    cases readings with
    | nil =>
      dsimp only
      split <;> exact fun remaining => absurd remaining (Nat.lt_irrefl 0)
    | cons reading readings =>
      have before : 0 < older →
          channel.getQueuedCount + (readings.length + 1) ≤ maxQueuedEvents :=
        fun positive => room (Nat.succ_pos _) (.inr positive)
      dsimp only
      split
      · intro _ positive
        have := before (positive.resolve_left nofun)
        exact (Nat.le_succ _).trans this
      · split
        · exact fun _ positive => before (positive.resolve_left nofun)
        · intro _ positive
          have := before (positive.resolve_left nofun)
          exact (Nat.le_succ _).trans this
  | accepted count event readings =>
    intro _ positive
    have positive : 0 < older :=
      Nat.lt_of_lt_of_le (positive.resolve_left nofun) (older_queue_le event)
    have before := room (Nat.succ_pos _) (.inr positive)
    have queued := getQueuedCount_publishAsync_le channel event
    simp only [PublisherPhase.remaining] at before
    simp only [setPhase, queue, PublisherPhase.remaining]
    omega

theorem HasRoom.step (room : system.HasRoom limits)
    (unsurprising : system.Unsurprising limits action) :
    (system.step limits source action).HasRoom limits := by
  cases action with
  | commit reading => exact room
  | write hash value => exact room
  | replay => exact room
  | subscribe type filter => exact room
  | unsubscribe type id =>
    intro remaining older
    have : (system.channel.unsubscribe type id).getQueuedCount = system.channel.getQueuedCount := by
      rw [EventChannel.unsubscribe]
      split <;> rfl
    exact this ▸ room remaining older
  | drain =>
    intro remaining older
    have fewer := system.channel.eventQueue.count_pop_le
    have before := room remaining (older.imp_right fun positive => by
      simp only [PublishingSystem.step] at positive
      omega)
    exact (Nat.add_le_add_right fewer _).trans before
  | publish event =>
    intro remaining older
    have fits := unsurprising remaining
      (older.imp_right fun positive => Nat.lt_of_lt_of_le positive (older_queue_le event))
    have queued := getQueuedCount_publishAsync_le system.channel event
    simp only [PublishingSystem.step, queue]
    omega
  | advance => exact room.advance

/-- With room in the queue an accepted event joins it, and nothing else changes there. -/
theorem contents_advance (room : system.HasRoom limits) (wired : system.Wired) {count : ℕ}
    {event : SensorEvent V} {readings : List (SensorReading V)}
    (accepted : system.publisher.phase = .accepted count event readings) :
    system.older = 0 ∨ (system.advance limits source).channel.eventQueue.contents =
      system.channel.eventQueue.contents ++ [event] := by
  rcases Nat.eq_zero_or_pos system.older with none | positive
  · exact .inl none
  · right
    have enough := room (by rw [accepted]; exact Nat.succ_pos _) (.inr positive)
    rw [accepted] at enough
    have below : system.channel.eventQueue.count < system.channel.eventQueue.capacity := by
      rw [wired.capacity]
      exact Nat.lt_of_lt_of_le (Nat.lt_add_of_pos_right (Nat.succ_pos _)) enough
    rw [PublishingSystem.advance, accepted]
    simp only [setPhase, queue, EventChannel.publishAsync_of_registered wired.registered]
    exact RingBuffer.contents_push _ event below

end Room

/-! ### Marks -/

section Marks

variable {limits : SensorLimits} {source : UInt32} {system : PublishingSystem V}
  {action : PublishingAction V} {i : ℕ} {slot : Slot V}

/-- After a step a slot is marked, or it is as it was, or the step took its reading. -/
theorem slot_step (found : (system.step limits source action).frame.slots[i]? = some slot) :
    system.frame.MarkedOrKept i slot ∨
      action = .advance ∧ slot.isUpdated = false ∧ system.Takes limits i slot.processed := by
  cases action with
  | commit reading => exact .inl (SensorReadingsFrame.markedOrKept_addOrUpdateReading found)
  | write hash value => exact .inl (SensorReadingsFrame.markedOrKept_updateReadingValue found)
  | replay => exact .inl (SensorReadingsFrame.markedOrKept_markProcessedReadingsUpdated found)
  | subscribe type filter => exact .inl (.inr ⟨slot, found, rfl, rfl, rfl⟩)
  | unsubscribe type id => exact .inl (.inr ⟨slot, found, rfl, rfl, rfl⟩)
  | drain => exact .inl (.inr ⟨slot, found, rfl, rfl, rfl⟩)
  | publish event => exact .inl (.inr ⟨slot, found, rfl, rfl, rfl⟩)
  | advance =>
    rw [PublishingSystem.step] at found
    rcases advance_effects limits source system with
      ⟨-, -, same | ⟨taking, takes⟩⟩ | ⟨count, event, readings, -, -, -, same⟩
    · rw [same] at found
      exact .inl (.inr ⟨slot, found, rfl, rfl, rfl⟩)
    · rw [takes] at found
      rcases SensorReadingsFrame.takeLoop_getElem? limits.maxCount system.frame.slots
        system.frame.sensorIdHashes i with same | ⟨before, hash, -, hashed, -, cleared, taken⟩
      · exact .inl (.inr ⟨slot, same ▸ found, rfl, rfl, rfl⟩)
      · obtain rfl := Option.some.inj (cleared.symm.trans found)
        exact .inr ⟨rfl, rfl, taking, hash, hashed, taken⟩
    · rw [same] at found
      exact .inl (.inr ⟨slot, found, rfl, rfl, rfl⟩)

/-- In every run from the start the newest processed reading of a sensor is marked or was
taken after it was written. -/
theorem keepsNewest [SensorValue V] (limits : SensorLimits) (source : UInt32)
    (sensorIdHashes : List UInt32) (actions : List (PublishingAction V)) :
    KeepsNewest limits source (start limits sensorIdHashes) actions := by
  induction actions using List.reverseRecOn with
  | nil =>
    intro i slot found processed
    have fresh : slot = {} := by
      rw [run_nil, start, SensorReadingsFrame.configure, List.getElem?_replicate] at found
      split at found
      · exact (Option.some.inj found).symm
      · cases found
    rw [fresh] at processed
    cases processed
  | append_singleton actions action ih =>
    intro i slot found processed
    rw [run_append, run_cons, run_nil] at found
    rcases slot_step found with (marked | ⟨before, there, same, mark, wasProcessed⟩) |
      ⟨rfl, unmarked, takes⟩
    · exact .inl marked
    · rcases ih i before there (wasProcessed.trans processed) with marked |
        ⟨first, last, split, takes, always⟩
      · exact .inl (mark ▸ marked)
      · cases updated : slot.isUpdated with
        | true => exact .inl rfl
        | false =>
          refine .inr ⟨first, last ++ [action], by rw [split]; simp, same ▸ takes, ?_⟩
          rw [same] at always
          refine always.concat ?_
          rw [← run_append, List.append_assoc, List.singleton_append, ← split]
          exact ⟨slot, found, rfl, updated⟩
    · refine .inr ⟨actions, [], rfl, takes, ?_⟩
      rw [run_append]
      exact ⟨slot, found, rfl, unmarked⟩

end Marks

/-! ### Runs -/

section Runs

variable {limits : SensorLimits} {source : UInt32} {system : PublishingSystem V}
  {action : PublishingAction V} {actions : List (PublishingAction V)}

/-- The state of the system between any two steps. -/
structure Sound (limits : SensorLimits) (system : PublishingSystem V) : Prop where
  wired : system.Wired
  remembers : system.Remembers
  room : system.HasRoom limits

/-- The step is unsurprising, and a filter that comes with it selects on the sensor ID. -/
def Allowed (limits : SensorLimits) (system : PublishingSystem V)
    (action : PublishingAction V) : Prop :=
  system.Unsurprising limits action ∧
    ∀ type filter, action = .subscribe type filter → SelectsSensor filter

theorem sound_start [SensorValue V] (limits : SensorLimits) (sensorIdHashes : List UInt32) :
    (start limits sensorIdHashes : PublishingSystem V).Sound limits :=
  ⟨wired_start limits sensorIdHashes, remembers_start limits sensorIdHashes,
    hasRoom_start limits sensorIdHashes⟩

theorem Sound.step (sound : system.Sound limits) (allowed : system.Allowed limits action) :
    (system.step limits source action).Sound limits :=
  ⟨sound.wired.step allowed.2, sound.remembers.step sound.wired allowed.1,
    sound.room.step allowed.1⟩

theorem Sound.run (sound : system.Sound limits)
    (along : Along (PublishingSystem.step limits source) (Allowed limits) system actions) :
    (Foundation.run (PublishingSystem.step limits source) system actions).Sound limits :=
  (along.always sound fun _ _ => Sound.step).last

/-- While a subscription stays, what it accepts is heeded. -/
theorem Heeds.run {subscription : SensorSubscription V} (heeds : system.Heeds subscription)
    (sound : system.Sound limits) (type : subscription.type = .dataUpdated)
    (along : Along (PublishingSystem.step limits source) (Allowed limits) system actions)
    (stays : Always (PublishingSystem.step limits source)
      (fun state => subscription ∈ state.channel.subscribers) system actions) :
    (Foundation.run (PublishingSystem.step limits source) system actions).Heeds subscription := by
  induction actions generalizing system with
  | nil => exact heeds
  | cons action actions ih =>
    refine ih ?_ (sound.step along.1) along.2 stays.2
    exact heeds.step sound.remembers sound.wired along.1.1 stays.1 type

/-- A reading that a heeded subscription accepts is accepted. -/
theorem phase_advance_of_accepts (limits : SensorLimits) {subscription : SensorSubscription V}
    (heeds : system.Heeds subscription) (wired : system.Wired)
    (mem : subscription ∈ system.channel.subscribers) (type : subscription.type = .dataUpdated)
    {count : ℕ} {reading : SensorReading V} {readings : List (SensorReading V)} {value : V}
    (publishing : system.publisher.phase = .publishing count (reading :: readings))
    (valued : reading.value = some value)
    (accepts : subscription.filter (SensorEventsPublisher.eventOf source reading value) =
      .accepts) :
    (system.advance limits source).publisher.phase =
      .accepted count (SensorEventsPublisher.eventOf source reading value) readings := by
  rw [Heeds, publishing] at heeds
  obtain ⟨answer, -⟩ := Heeds.isAccepted wired mem type heeds
    (SensorEventsPublisher.eventOf source reading value) rfl
  rw [advance, publishing]
  dsimp only
  rw [valued]
  exact if_pos (answer ⟨_, rfl, rfl, accepts⟩)

/-- Only the publisher's own steps move it. -/
theorem step_of_ne_advance (limits : SensorLimits) (source : UInt32) (system : PublishingSystem V)
    (other : action ≠ .advance) :
    (system.step limits source action).publisher = system.publisher ∧
      (system.step limits source action).published = system.published := by
  cases action with
  | advance => exact absurd rfl other
  | _ => exact ⟨rfl, rfl⟩

theorem run_of_ne_advance (limits : SensorLimits) (source : UInt32) (system : PublishingSystem V)
    {others : List (PublishingAction V)} (other : .advance ∉ others) :
    (run (PublishingSystem.step limits source) system others).publisher = system.publisher ∧
      (run (PublishingSystem.step limits source) system others).published = system.published := by
  induction others generalizing system with
  | nil => exact ⟨rfl, rfl⟩
  | cons action others ih =>
    obtain ⟨here, later⟩ := not_or.mp (mt List.mem_cons.mpr other)
    obtain ⟨publisher, published⟩ := step_of_ne_advance limits source system (Ne.symm here)
    obtain ⟨publisher', published'⟩ := ih (system.step limits source action) later
    exact ⟨publisher'.trans publisher, published'.trans published⟩

/-- An accepted event waits for the publisher's next step, which publishes it. -/
theorem publishesNext (sound : system.Sound limits)
    (along : Along (PublishingSystem.step limits source) (Allowed limits) system actions)
    {count : ℕ} {event : SensorEvent V} {readings : List (SensorReading V)}
    (accepted : system.publisher.phase = .accepted count event readings) :
    PublishesNext limits source system actions count event readings := by
  have waits {others : List (PublishingAction V)} (other : .advance ∉ others) :
      (run (PublishingSystem.step limits source) system others).publisher.phase =
          .accepted count event readings ∧
        (run (PublishingSystem.step limits source) system others).published =
          system.published := by
    obtain ⟨publisher, published⟩ := run_of_ne_advance limits source system other
    exact ⟨by rw [publisher, accepted], published⟩
  refine ⟨fun others _ other => waits other, fun others rest split other => ?_⟩
  rw [split, along_append] at along
  have wired := (sound.run along.1).wired
  obtain ⟨phase, published⟩ := waits other
  rw [run_append, run_cons, run_nil, PublishingSystem.step, advance, phase]
  dsimp only
  rw [wired.registered, if_pos rfl, published]
  exact ⟨rfl, rfl⟩

theorem publishesAccepted (sound : system.Sound limits)
    (along : Along (PublishingSystem.step limits source) (Allowed limits) system actions) :
    PublishesAccepted limits source system actions := by
  intro first middle last split taking subscription type stays count reading readings value
    publishing valued accepts deciding decided
  rw [split, along_append, along_append] at along
  obtain ⟨⟨before, during⟩, decides, after⟩ := along
  have atTake := sound.run before
  have heeds : (run (step limits source) system first).Heeds subscription := by
    rw [Heeds, taking]
    trivial
  have heeds := heeds.run atTake type during stays
  have atDecision := atTake.run during
  have mem := stays.last
  rw [← run_append] at heeds atDecision mem
  have accepted : decided.publisher.phase = .accepted count
      (SensorEventsPublisher.eventOf source reading value) readings :=
    phase_advance_of_accepts limits heeds atDecision.wired mem type publishing valued accepts
  refine ⟨?_, publishesNext (atDecision.step decides) after accepted⟩
  rcases advance_effects limits source deciding with ⟨-, same, -⟩ | ⟨_, _, _, other, -⟩
  · exact same
  · rw [publishing] at other
    cases other

theorem pushesNothingOut (sound : system.Sound limits)
    (along : Along (PublishingSystem.step limits source) (Allowed limits) system actions) :
    PushesNothingOut limits source system actions := by
  intro first last split count event readings accepted
  rw [split, along_append] at along
  have sound := sound.run along.1
  rw [run_append, run_cons, run_nil]
  exact contents_advance sound.room sound.wired accepted

theorem subscriptionChanges_step_le (limits : SensorLimits) (source : UInt32)
    (system : PublishingSystem V) (action : PublishingAction V) :
    (system.step limits source action).channel.subscriptionChanges ≤
      system.channel.subscriptionChanges + 1 := by
  have publishes : ∀ event, (system.channel.publishAsync event).subscriptionChanges =
      system.channel.subscriptionChanges := by
    intro event
    rw [EventChannel.publishAsync]
    split <;> rfl
  cases action with
  | commit reading => exact Nat.le_succ _
  | write hash value => exact Nat.le_succ _
  | replay => exact Nat.le_succ _
  | subscribe type filter => exact Nat.le_refl _
  | unsubscribe type id =>
    rw [step, EventChannel.unsubscribe]
    split
    · exact Nat.le_refl _
    · exact Nat.le_succ _
  | drain => exact Nat.le_succ _
  | publish event => exact (publishes event).le.trans (Nat.le_succ _)
  | advance =>
    rw [step]
    rcases advance_effects limits source system with ⟨same, -⟩ | ⟨-, event, -, -, same, -⟩
    · rw [same]
      exact Nat.le_succ _
    · rw [same, publishes]
      exact Nat.le_succ _

/-- Without other publishers, a run of fewer than `2 ^ 32` steps has no surprises. -/
theorem along_unsurprising
    (few : system.channel.subscriptionChanges + actions.length < 2 ^ 32)
    (alone : ∀ event, .publish event ∉ actions) :
    Along (step limits source) (Unsurprising limits) system actions := by
  induction actions generalizing system with
  | nil => trivial
  | cons action actions ih =>
    rw [List.length_cons] at few
    have alone' : ∀ event, .publish event ∉ actions :=
      fun event mem => alone event (List.mem_cons_of_mem _ mem)
    refine ⟨?_, ih ?_ alone'⟩
    · cases action with
      | publish event => exact absurd List.mem_cons_self (alone event)
      | advance =>
        intro readings _ k round
        rw [round] at few
        by_contra positive
        have := Nat.le_mul_of_pos_left (2 ^ 32) (Nat.pos_of_ne_zero positive)
        omega
      | _ => trivial
    · have := subscriptionChanges_step_le limits source system action
      omega

/-- Every run, with filters that select on the sensor ID, whose steps are unsurprising:
readings are published as long as a subscription accepts them, the newest processed
reading of a sensor is marked or was taken, and no published reading pushes out an event
that was queued before the take. -/
theorem publishing_spec [SensorValue V] (limits : SensorLimits) (source : UInt32)
    (sensorIdHashes : List UInt32) (actions : List (PublishingAction V))
    (selects : ∀ type filter, .subscribe type filter ∈ actions → SelectsSensor filter)
    (unsurprising : Along (step limits source) (Unsurprising limits)
      (start limits sensorIdHashes) actions) :
    PublishesAccepted limits source (start limits sensorIdHashes) actions ∧
      KeepsNewest limits source (start limits sensorIdHashes) actions ∧
      PushesNothingOut limits source (start limits sensorIdHashes) actions := by
  have selecting : ∀ action ∈ actions, ∀ type filter, action = .subscribe type filter →
      SelectsSensor filter := fun action mem type filter same => selects type filter (same ▸ mem)
  have along := unsurprising.and (along_of_forall_mem selecting)
  have sound := sound_start (V := V) limits sensorIdHashes
  exact ⟨publishesAccepted sound along, keepsNewest limits source sensorIdHashes actions,
    pushesNothingOut sound along⟩

/-- The default number of sensors. -/
def defaultLimits : SensorLimits := ⟨64, by decide, by decide⟩

/-- A processed reading of the sensor with hash 7. -/
def processedReading (value : ℤ) : SensorReading (Option ℤ) where
  sensorIdHash := 7
  value := some (some value)
  source := .isr
  status := .processed

/-- A subscription to every sensor value, the first of its channel. -/
def toEverySensor : SensorSubscription (Option ℤ) := ⟨1, .dataUpdated, fun _ => .accepts⟩

/-- A value that is committed after someone subscribed is published within a tick. -/
theorem publishing_spec_subscribed :
    let actions : List (PublishingAction (Option ℤ)) :=
      .subscribe .dataUpdated toEverySensor.filter :: .commit (processedReading 1) ::
        List.replicate 7 .advance
    let state := run (step defaultLimits 0) (start defaultLimits [7]) actions
    SensorEventsPublisher.eventOf 0 (processedReading 1) (some 1) ∈ state.published ∧
      PublishesAccepted defaultLimits 0 (start defaultLimits [7]) actions ∧
      KeepsNewest defaultLimits 0 (start defaultLimits [7]) actions ∧
      PushesNothingOut defaultLimits 0 (start defaultLimits [7]) actions := by
  intro actions state
  refine ⟨by decide +kernel, publishing_spec defaultLimits 0 [7] actions ?_ ?_⟩
  · intro type filter mem
    simp only [actions, List.mem_cons, List.mem_replicate, PublishingAction.subscribe.injEq,
      reduceCtorEq, and_false, or_false] at mem
    rw [mem.2]
    exact ⟨fun _ => nofun, fun _ _ _ _ => rfl⟩
  · refine along_unsurprising (by decide +kernel) fun event mem => ?_
    simp [actions] at mem

end Runs

/-! ### A generation that comes round -/

/-- Subscriptions that come and go, the first with the given ID. -/
def churn : ℕ → ℕ → List (PublishingAction V)
  | 0, _ => []
  | n + 1, id =>
    .subscribe .inputRequested (fun _ => .rejects) :: .unsubscribe .inputRequested id ::
      churn n (id + 1)

/-- Of subscriptions that come and go the counters remain. -/
theorem run_churn (limits : SensorLimits) (source : UInt32) (n : ℕ)
    {system : PublishingSystem V}
    (below : ∀ subscription ∈ system.channel.subscribers,
      subscription.id < system.channel.nextId) :
    run (step limits source) system (churn n system.channel.nextId) =
      { system with
        channel :=
          { system.channel with
            nextId := system.channel.nextId + n
            subscriptionChanges := system.channel.subscriptionChanges + 2 * n } } := by
  induction n generalizing system with
  | zero => rfl
  | succ n ih =>
    have pair : step limits source (step limits source system
        (.subscribe .inputRequested fun _ => .rejects))
        (.unsubscribe .inputRequested system.channel.nextId) =
        { system with
          channel :=
            { system.channel with
              nextId := system.channel.nextId + 1
              subscriptionChanges := system.channel.subscriptionChanges + 2 } } := by
      simp only [step]
      rw [EventChannel.unsubscribe_subscribe _ _ below]
    rw [churn, run_cons, run_cons, pair]
    refine (ih ?_).trans ?_
    · exact fun subscription mem => Nat.lt_succ_of_lt (below subscription mem)
    · have ids : system.channel.nextId + 1 + n = system.channel.nextId + (n + 1) := by omega
      have changes : system.channel.subscriptionChanges + 2 + 2 * n =
          system.channel.subscriptionChanges + 2 * (n + 1) := by omega
      simp only [ids, changes]

theorem selects_churn {type : SensorEventType} {filter : SensorEvent V → FilterAnswer}
    (n id : ℕ) (mem : .subscribe type filter ∈ churn n id) : SelectsSensor filter := by
  induction n generalizing id with
  | zero => cases mem
  | succ n ih =>
    rw [churn, List.mem_cons, List.mem_cons] at mem
    rcases mem with same | same | mem
    · cases same
      exact ⟨fun _ => nofun, fun _ _ _ _ => rfl⟩
    · cases same
    · exact ih (id + 1) mem

/-- A tick finds no subscriber for a reading and remembers that. Then someone subscribes to
every sensor, and someone else to nothing that is published here. -/
def turnedDown : List (PublishingAction (Option ℤ)) :=
  .commit (processedReading 1) :: List.replicate 7 .advance ++
    [.subscribe .dataUpdated toEverySensor.filter, .subscribe .inputRequested fun _ => .rejects]

/-- Others come and go until the generation has come round. -/
def comeRound : List (PublishingAction (Option ℤ)) := turnedDown ++ churn (2 ^ 31 - 1) 3

/-- A reading is marked, and a tick takes it and looks at the generation. -/
def marking : List (PublishingAction (Option ℤ)) :=
  .commit (processedReading 2) :: List.replicate 5 .advance

private theorem run_comeRound :
    run (step defaultLimits 0) (start defaultLimits [7]) comeRound =
      { run (step defaultLimits 0) (start defaultLimits [7]) turnedDown with
        channel :=
          { (run (step defaultLimits 0) (start defaultLimits [7]) turnedDown).channel with
            nextId := 3 + (2 ^ 31 - 1)
            subscriptionChanges := 2 + 2 * (2 ^ 31 - 1) } } := by
  have before : (run (step defaultLimits 0) (start defaultLimits [7]) turnedDown).channel.nextId =
      3 := by decide +kernel
  have changes : (run (step defaultLimits 0) (start defaultLimits [7])
      turnedDown).channel.subscriptionChanges = 2 := by decide +kernel
  have below : ∀ subscription ∈ (run (step defaultLimits 0) (start defaultLimits [7])
      turnedDown).channel.subscribers, subscription.id < 3 := by decide +kernel
  have churned := run_churn defaultLimits 0 (2 ^ 31 - 1) (before ▸ below)
  rw [before, changes] at churned
  rw [comeRound, run_append]
  exact churned

/-- A tick finds the queue empty, another publisher fills it, and the tick takes a reading
that is accepted. -/
def flooding : List (PublishingAction (Option ℤ)) :=
  .subscribe .dataUpdated toEverySensor.filter :: .commit (processedReading 1) ::
    List.replicate 2 .advance ++
    List.replicate maxQueuedEvents (.publish ⟨0, .inputRequested, ⟨7, some 0⟩⟩) ++
    List.replicate 4 .advance

/-- A reading that a subscription accepts, which was there before the reading was marked,
is turned down by an answer given before that subscription. And a reading pushes out an
event that was queued before the take. -/
theorem not_publishing_spec :
    ((∀ type filter, .subscribe type filter ∈ comeRound → SelectsSensor filter) ∧
      let rounded := run (step defaultLimits 0) (start defaultLimits [7]) comeRound
      Always (step defaultLimits 0) (fun state => toEverySensor ∈ state.channel.subscribers)
        rounded marking ∧
      toEverySensor.filter (SensorEventsPublisher.eventOf 0 (processedReading 2) (some 2)) =
        .accepts ∧
      (run (step defaultLimits 0) rounded marking).publisher.phase =
        .publishing 1 [processedReading 2] ∧
      (run (step defaultLimits 0) rounded (marking ++ [.advance])).publisher.phase =
        .publishing 1 [] ∧
      (run (step defaultLimits 0) rounded (marking ++ [.advance])).published = []) ∧
    let flooded := run (step defaultLimits 0) (start defaultLimits [7]) flooding
    flooded.publisher.phase =
        .accepted 1 (SensorEventsPublisher.eventOf 0 (processedReading 1) (some 1)) [] ∧
      flooded.older = maxQueuedEvents ∧
      (flooded.step defaultLimits 0 .advance).channel.eventQueue.contents =
        flooded.channel.eventQueue.contents.tail ++
          [SensorEventsPublisher.eventOf 0 (processedReading 1) (some 1)] := by
  refine ⟨⟨fun type filter mem => ?_, ?_⟩, ?_⟩
  · rw [comeRound, List.mem_append] at mem
    rcases mem with mem | mem
    · simp only [turnedDown, List.cons_append, List.mem_cons, List.mem_append, List.mem_replicate,
        reduceCtorEq, and_false, false_or, PublishingAction.subscribe.injEq, List.not_mem_nil,
        or_false] at mem
      rcases mem with ⟨-, rfl⟩ | ⟨-, rfl⟩
      all_goals exact ⟨fun _ => nofun, fun _ _ _ _ => rfl⟩
    · exact selects_churn _ _ mem
  · intro rounded
    have there : toEverySensor ∈ [toEverySensor, ⟨2, .inputRequested, fun _ => .rejects⟩] :=
      List.mem_cons_self
    rw [show rounded = _ from run_comeRound]
    refine ⟨⟨there, there, there, there, there, there, there⟩, rfl, ?_, ?_, ?_⟩
    all_goals decide +kernel
  · decide +kernel

end PublishingSystem

end RtCore.Sensors
