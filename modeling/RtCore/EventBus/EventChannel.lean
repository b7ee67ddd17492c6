import RtCore.Foundation.RingBuffer

/-!
# Event channels

An `EventChannel` has the subscriptions of one family of events and a ring of events that
wait for the bus. Publishing onto a full ring sheds the oldest event.

## Main definitions

* `EventChannel.subscribe`, `EventChannel.unsubscribe` — each change of the subscriptions
  bumps their generation, a 32-bit counter
* `EventChannel.accepts` — whether a subscriber's filter accepts an event
* `EventChannel.publishAsync`, `EventChannel.drainOne`

## Main results

* `EventChannel.accepts_of_mem` — one subscriber that accepts is enough, unless a filter
  throws
* `EventChannel.accepts_congr` — events the filters do not tell apart are accepted alike
-/

namespace RtCore.EventBus

open RtCore.Foundation

/-- An event: who published it, what it is about and what it says. -/
structure Event (T P : Type) where
  sourceId : UInt32
  type : T
  payload : P
deriving DecidableEq

/-- What running a filter comes to. -/
inductive FilterAnswer
  | accepts
  | rejects
  | throws
deriving DecidableEq, Repr

/-- A subscription; what its handler does is not the channel's concern. -/
structure Subscription (T P : Type) where
  id : ℕ
  type : T
  filter : Event T P → FilterAnswer

/-- `EventChannel`: its subscribers, its queue and how often subscriptions changed. -/
structure EventChannel (T P : Type) where
  /-- All of them; those of a type are in the order of their subscription. -/
  subscribers : List (Subscription T P)
  /-- A `size_t`, which is assumed not to come round. -/
  nextId : ℕ
  /-- How often a subscription was added or removed, of which the generation is the low
  32 bits. -/
  subscriptionChanges : ℕ
  /-- A bus registered the channel. -/
  isRegistered : Bool
  eventQueue : RingBuffer (Event T P)

namespace EventChannel

variable {T P : Type} [DecidableEq T] {channel : EventChannel T P} {event : Event T P}

/-- A channel that a bus has registered, with nothing on it. -/
def create (maxQueuedEvents : ℕ) (empty : Event T P) : EventChannel T P where
  subscribers := []
  nextId := 1
  subscriptionChanges := 0
  isRegistered := true
  eventQueue := .create empty maxQueuedEvents

/-- `GetSubscriptionGeneration`: the changes of subscriptions so far, in 32 bits. -/
def getSubscriptionGeneration (channel : EventChannel T P) : UInt32 :=
  .ofNat channel.subscriptionChanges

/-- `Subscribe`: the subscription is the last of its type. -/
def subscribe (channel : EventChannel T P) (type : T) (filter : Event T P → FilterAnswer) :
    EventChannel T P :=
  { channel with
    subscribers := channel.subscribers ++ [⟨channel.nextId, type, filter⟩]
    nextId := channel.nextId + 1
    subscriptionChanges := channel.subscriptionChanges + 1 }

/-- `Unsubscribe`: takes the subscription out, if there is one. -/
def unsubscribe (channel : EventChannel T P) (type : T) (id : ℕ) : EventChannel T P :=
  if channel.subscribers.any (fun subscription => subscription.type = type ∧ subscription.id = id)
  then
    { channel with
      subscribers := channel.subscribers.eraseP
        (fun subscription => subscription.type = type ∧ subscription.id = id)
      subscriptionChanges := channel.subscriptionChanges + 1 }
  else channel

/-- The filters in turn, up to the first that accepts; none when one throws. -/
def anyAccepts (event : Event T P) : List (Subscription T P) → Option Bool
  | [] => some false
  | subscription :: rest =>
    match subscription.filter event with
    | .accepts => some true
    | .rejects => anyAccepts event rest
    | .throws => none

/-- `Accepts`: some subscriber of the event's type takes it; none if a filter throws. -/
def accepts (channel : EventChannel T P) (event : Event T P) : Option Bool :=
  anyAccepts event (channel.subscribers.filter fun subscription => subscription.type = event.type)

/-- `GetQueuedCount`: the events that wait to be delivered. -/
def getQueuedCount (channel : EventChannel T P) : ℕ := channel.eventQueue.count

/-- `PublishAsync`: the event waits behind the others; a full queue loses its oldest. -/
def publishAsync (channel : EventChannel T P) (event : Event T P) : EventChannel T P :=
  if !channel.isRegistered then channel
  else { channel with eventQueue := channel.eventQueue.push event }

/-- The event to dispatch, and the channel without it. -/
def drainOne (channel : EventChannel T P) : Option (Event T P) × EventChannel T P :=
  let (event, eventQueue) := channel.eventQueue.pop
  (event, { channel with eventQueue })

omit [DecidableEq T] in
theorem publishAsync_of_registered (registered : channel.isRegistered = true) :
    channel.publishAsync event =
      { channel with eventQueue := channel.eventQueue.push event } := by
  rw [publishAsync, registered]
  rfl

/-! ### Acceptance -/

omit [DecidableEq T] in
private theorem anyAccepts_of_mem {subscriptions : List (Subscription T P)}
    (answers : ∀ subscription ∈ subscriptions, subscription.filter event ≠ .throws)
    {subscription : Subscription T P} (mem : subscription ∈ subscriptions)
    (accepts : subscription.filter event = .accepts) :
    anyAccepts event subscriptions = some true := by
  induction subscriptions with
  | nil => cases mem
  | cons first rest ih =>
    rw [anyAccepts]
    cases answer : first.filter event with
    | accepts => rfl
    | throws => exact absurd answer (answers first List.mem_cons_self)
    | rejects =>
      rcases List.mem_cons.mp mem with rfl | mem
      · rw [accepts] at answer
        cases answer
      · exact ih (fun other mem => answers other (List.mem_cons_of_mem _ mem)) mem

/-- One subscriber that accepts an event is enough when no filter throws. -/
theorem accepts_of_mem
    (answers : ∀ subscription ∈ channel.subscribers, subscription.filter event ≠ .throws)
    {subscription : Subscription T P} (mem : subscription ∈ channel.subscribers)
    (type : subscription.type = event.type) (accepts : subscription.filter event = .accepts) :
    channel.accepts event = some true := by
  refine anyAccepts_of_mem (fun other mem => answers other (List.mem_of_mem_filter mem)) ?_ accepts
  exact List.mem_filter.mpr ⟨mem, decide_eq_true type⟩

omit [DecidableEq T] in
private theorem anyAccepts_congr {other : Event T P} {subscriptions : List (Subscription T P)}
    (alike : ∀ subscription ∈ subscriptions,
      subscription.filter event = subscription.filter other) :
    anyAccepts event subscriptions = anyAccepts other subscriptions := by
  induction subscriptions with
  | nil => rfl
  | cons first rest ih =>
    rw [anyAccepts, anyAccepts, alike first List.mem_cons_self,
      ih fun subscription mem => alike subscription (List.mem_cons_of_mem _ mem)]

/-- Events of one type that no filter tells apart are accepted alike. -/
theorem accepts_congr {other : Event T P} (type : event.type = other.type)
    (alike : ∀ subscription ∈ channel.subscribers,
      subscription.filter event = subscription.filter other) :
    channel.accepts event = channel.accepts other := by
  rw [accepts, accepts, type]
  exact anyAccepts_congr fun subscription mem => alike subscription (List.mem_of_mem_filter mem)

/-- Of a subscription that comes and goes the counters remain. -/
theorem unsubscribe_subscribe (type : T) (filter : Event T P → FilterAnswer)
    (below : ∀ subscription ∈ channel.subscribers, subscription.id < channel.nextId) :
    (channel.subscribe type filter).unsubscribe type channel.nextId =
      { channel with
        nextId := channel.nextId + 1
        subscriptionChanges := channel.subscriptionChanges + 2 } := by
  have others : ∀ subscription ∈ channel.subscribers,
      ¬(decide (subscription.type = type ∧ subscription.id = channel.nextId)) = true := by
    intro subscription mem same
    exact Nat.ne_of_lt (below subscription mem) (of_decide_eq_true same).2
  have found : (channel.subscribe type filter).subscribers.any
      (fun subscription => subscription.type = type ∧ subscription.id = channel.nextId) =
        true := by
    rw [subscribe, List.any_append, List.any_cons, decide_eq_true ⟨rfl, rfl⟩, Bool.true_or,
      Bool.or_true]
  have removed : (channel.subscribe type filter).subscribers.eraseP
      (fun subscription => subscription.type = type ∧ subscription.id = channel.nextId) =
        channel.subscribers := by
    rw [subscribe, List.eraseP_append_right _ others]
    simp
  rw [unsubscribe, if_pos found, removed]
  rfl

end EventChannel

end RtCore.EventBus
