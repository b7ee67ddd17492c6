import Mathlib.Logic.Function.Basic
import Mathlib.Data.Finset.Insert
import RtCore.Foundation.Run
import RtCore.Logging.RemoteControl

/-!
# Logging triggers and configuration updates

A trigger requests a logging start when its value goes from 0 to 1, and a stop when it
goes from 1 to 0. The first value it reads counts at boot when it is 1; after a
configuration update it is only a baseline. A set of triggers is replaced whole: the old
set is destroyed and the new one subscribes its triggers one by one.

`TriggerSystem` interleaves, step by step, any number of threads that store a
configuration (the flag, the lock, the resolver outside the guard, the switch under the
guard, the stop for all units), the rebuild task (the lock, the reset, the read of the
flag, each subscription, the end or the failure of the build, the replay), and deliveries
to any set, which hold the set's guard from the value to the request it makes.

## Main results

* `TriggerSystem.update_stop_stands` — after a store's stop, a trigger requests a start
  only at a 1 that follows a 0 it was delivered; a set that was reset requests nothing
-/

namespace RtCore.Logging

open RtCore.Foundation

/-! ### One trigger -/

/-- A value of an event. A `float` is known by its bits. -/
inductive EventData
  | int (value : ℤ)
  | unsigned (value : UInt32)
  | real (bits : UInt32)
  | text (value : String)
  | flag (value : Bool)
deriving DecidableEq, Repr

/-- A bool, or a number that is exactly 0 or 1; a `float` has two zeros. -/
def readState : EventData → Option Bool
  | .flag value => some value
  | .int value => if value = 0 ∨ value = 1 then some (value = 1) else none
  | .unsigned value => if value = 0 ∨ value = 1 then some (value = 1) else none
  | .real bits =>
    if bits = 0 ∨ bits = 0x80000000 ∨ bits = 0x3F800000 then some (bits = 0x3F800000) else none
  | .text _ => none

/-- What a trigger makes of its first value. -/
inductive FirstValue
  | oneStarts
  | isBaseline
deriving DecidableEq, Repr

/-- A trigger with the state its last value left. -/
structure Trigger where
  targetUid : UInt32
  lastState : Option Bool := none
  firstValue : FirstValue
  isWithdrawn : Bool := false
deriving DecidableEq, Repr

namespace Trigger

variable (trigger : Trigger)

/-- The trigger after a value, and whether it requests a start or a stop. -/
def onValue (value : EventData) : Trigger × Option Bool :=
  if trigger.isWithdrawn then (trigger, none)
  else
    match readState value with
    | none => (trigger, none)
    | some state =>
      let previous := trigger.lastState
      let trigger := { trigger with lastState := some state }
      if previous = some state then (trigger, none)
      else if previous = none ∧ (trigger.firstValue = .isBaseline ∨ state = false) then
        (trigger, none)
      else (trigger, some state)

/-- A configuration update; `isKnown` is the resolver's answer where it was asked and did
not fail. -/
def onConfigurationUpdated (isKnown : Option Bool) : Trigger :=
  let trigger := { trigger with firstValue := .isBaseline }
  match isKnown with
  | none => trigger
  | some isKnown =>
    if !isKnown && !trigger.isWithdrawn then
      { trigger with isWithdrawn := true, lastState := none }
    else if isKnown && trigger.isWithdrawn then { trigger with isWithdrawn := false }
    else trigger

variable {trigger}

/-- A trigger requests a start at a 1 after a 0, or at a first 1 that is no baseline. -/
theorem onValue_start {value : EventData} (start : (trigger.onValue value).2 = some true) :
    readState value = some true ∧
      (trigger.lastState = some false ∨
        trigger.lastState = none ∧ trigger.firstValue = .oneStarts) := by
  unfold onValue at start
  dsimp only at start
  split_ifs at start
  split at start
  · exact nomatch start
  · next state read =>
    split_ifs at start with same first
    cases state with
    | false => exact nomatch start
    | true =>
      refine ⟨read, ?_⟩
      cases last : trigger.lastState with
      | none =>
        simp only [last, true_and, reduceCtorEq, or_false] at first
        cases kind : trigger.firstValue with
        | oneStarts => exact Or.inr ⟨rfl, rfl⟩
        | isBaseline => exact absurd kind first
      | some before =>
        cases before with
        | false => exact Or.inl rfl
        | true => exact absurd last same

theorem onValue_firstValue (value : EventData) :
    (trigger.onValue value).1.firstValue = trigger.firstValue := by
  unfold onValue
  dsimp only
  split_ifs
  · rfl
  · split
    · rfl
    · split_ifs <;> rfl

theorem onConfigurationUpdated_firstValue (isKnown : Option Bool) :
    (trigger.onConfigurationUpdated isKnown).firstValue = .isBaseline := by
  unfold onConfigurationUpdated
  dsimp only
  split
  · rfl
  · split_ifs <;> rfl

end Trigger

/-! ### The interleaving -/

/-- A delivery inside the guard: the trigger, its value, the readable value delivered to
the trigger before since it was built or last withdrawn, and the request it makes. -/
structure TriggerDelivery where
  index : ℕ
  value : EventData
  previous : Option Bool
  request : Option Bool
deriving DecidableEq, Repr

/-- A set of triggers, with the state of its guard: whether it is attached, and the delivery
that holds it. `previous` follows the readable values delivered to each trigger. -/
structure TriggerSet where
  triggers : List Trigger := []
  isAttached : Bool := false
  inFlight : Option TriggerDelivery := none
  previous : ℕ → Option Bool := fun _ => none

namespace TriggerSet

variable (set : TriggerSet)

/-- The guard lets a delivery in; a detached one lets it do nothing. -/
def deliver (index : ℕ) (value : EventData) : TriggerSet :=
  if set.isAttached = true ∧ set.inFlight = none then
    match set.triggers[index]? with
    | none => set
    | some trigger =>
      let (after, request) := trigger.onValue value
      { set with
        triggers := set.triggers.set index after
        inFlight := some { index, value, previous := set.previous index, request }
        previous := Function.update set.previous index
          ((readState value).or (set.previous index)) }
  else set

/-- The switch under the guard, with the resolver's answers where it gave them. -/
def onConfigurationUpdated (answers : Option (ℕ → Bool)) : TriggerSet :=
  { set with
    triggers := set.triggers.mapIdx fun index trigger =>
      trigger.onConfigurationUpdated (answers.map (· index))
    previous := fun index =>
      if answers.any (fun isKnown => !isKnown index &&
          set.triggers[index]?.any (!·.isWithdrawn)) then none
      else set.previous index }

end TriggerSet

/-- How far a thread has come in `OnStored`. -/
inductive StorePhase
  | idle
  | flagged (isSensors : Bool)
  | locked (isSensors : Bool)
  | resolved (answers : Option (ℕ → Bool))
  | handled

/-- How far the rebuild task has come. -/
inductive RebuildPhase
  | idle
  | locked
  | reset
  | building (firstValue : FirstValue) (id : ℕ)
  | replaying
deriving DecidableEq, Repr

/-- Who holds the lock of the triggers. -/
inductive LockOwner
  | store (thread : ℕ)
  | rebuild
deriving DecidableEq, Repr

/-- `isStopped` holds once a store's stop for all units was requested; `destroyed` are the
sets a rebuild's reset destroyed. -/
structure TriggerSystem where
  isConfigurationUpdated : Bool := false
  lock : Option LockOwner := none
  sets : ℕ → TriggerSet := fun _ => {}
  nextId : ℕ := 0
  current : Option ℕ := none
  stores : ℕ → StorePhase := fun _ => .idle
  rebuild : RebuildPhase := .idle
  isStopped : Bool := false
  destroyed : Finset ℕ := ∅

/-- A request a trigger made. -/
structure TriggerRequest where
  set : ℕ
  index : ℕ
  isStart : Bool
  value : EventData
  previous : Option Bool
deriving DecidableEq, Repr

/-- A part of a store or of the rebuild, or a value that reaches a set. -/
inductive TriggerStep
  | store (thread : ℕ) (isSensors : Bool)
  | storeLock (thread : ℕ)
  | storeResolve (thread : ℕ) (answers : Option (ℕ → Bool))
  | storeSwitch (thread : ℕ)
  | storeStop (thread : ℕ)
  | rebuildLock
  | rebuildReset
  | rebuildReadFlag
  | subscribe (targetUid : UInt32)
  | rebuildFail
  | rebuildFinish
  | rebuildReplay
  | deliver (set : ℕ) (index : ℕ) (value : EventData)
  | finish (set : ℕ)

namespace TriggerSystem

variable (system : TriggerSystem)

/-- A thread's store is in a phase. -/
def setStore (thread : ℕ) (phase : StorePhase) : TriggerSystem :=
  { system with stores := Function.update system.stores thread phase }

/-- The set of an ID is another one. -/
def updateSet (id : ℕ) (set : TriggerSet) : TriggerSystem :=
  { system with sets := Function.update system.sets id set }

@[simp] theorem sets_updateSet_self (id : ℕ) (set : TriggerSet) :
    (system.updateSet id set).sets id = set := Function.update_self ..

theorem sets_updateSet_of_ne {id other : ℕ} (different : other ≠ id) (set : TriggerSet) :
    (system.updateSet id set).sets other = system.sets other := Function.update_of_ne different ..

/-- `OnStored` on one thread: `LoggingController::OnConfigurationUpdated`, then the stop. A
step that cannot be taken, such as one that waits for the lock or the guard, does nothing. -/
def storeStep (thread : ℕ) : TriggerStep → TriggerSystem
  | .store _ isSensors =>
    match system.stores thread with
    | .idle =>
      { system.setStore thread (.flagged isSensors) with isConfigurationUpdated := true }
    | _ => system
  | .storeLock _ =>
    match system.stores thread, system.lock, system.current with
    | .flagged _, none, none => system.setStore thread .handled
    | .flagged isSensors, none, some _ =>
      { system.setStore thread (.locked isSensors) with lock := some (.store thread) }
    | _, _, _ => system
  | .storeResolve _ answers =>
    match system.stores thread with
    -- Only a sensors update asks the resolver; one that fails withdraws nothing.
    | .locked isSensors => system.setStore thread (.resolved (if isSensors then answers else none))
    | _ => system
  | .storeSwitch _ =>
    match system.stores thread, system.current with
    | .resolved answers, some id =>
      if (system.sets id).inFlight = none then
        { (system.updateSet id ((system.sets id).onConfigurationUpdated answers)).setStore
            thread .handled with lock := none }
      else system
    | _, _ => system
  | .storeStop _ =>
    match system.stores thread with
    | .handled => { system.setStore thread .idle with isStopped := true }
    | _ => system
  | _ => system

/-- The rebuild task. -/
def rebuildStep : TriggerStep → TriggerSystem
  | .rebuildLock =>
    match system.rebuild, system.lock with
    | .idle, none => { system with rebuild := .locked, lock := some .rebuild }
    | _, _ => system
  | .rebuildReset =>
    match system.rebuild, system.current with
    | .locked, none => { system with rebuild := .reset }
    | .locked, some id =>
      -- The destructor of the old set waits for a handler in progress.
      if (system.sets id).inFlight = none then
        { system.updateSet id { system.sets id with isAttached := false } with
          rebuild := .reset, current := none, destroyed := insert id system.destroyed }
      else system
    | _, _ => system
  | .rebuildReadFlag =>
    match system.rebuild with
    | .reset =>
      -- The flag is read after the reset, so an update of the configuration in between is seen.
      let firstValue :=
        if system.isConfigurationUpdated then FirstValue.isBaseline else FirstValue.oneStarts
      { system.updateSet system.nextId { isAttached := true } with
        rebuild := .building firstValue system.nextId, nextId := system.nextId + 1 }
    | _ => system
  | .subscribe targetUid =>
    match system.rebuild with
    | .building firstValue id =>
      let set := system.sets id
      system.updateSet id { set with triggers := set.triggers ++ [{ targetUid, firstValue }] }
    | _ => system
  | .rebuildFail =>
    match system.rebuild with
    | .building _ id =>
      if (system.sets id).inFlight = none then
        { system.updateSet id { system.sets id with isAttached := false } with
          rebuild := .idle, lock := none }
      else system
    | _ => system
  | .rebuildFinish =>
    match system.rebuild with
    | .building _ id => { system with rebuild := .replaying, current := some id }
    | _ => system
  | .rebuildReplay =>
    match system.rebuild with
    | .replaying => { system with rebuild := .idle, lock := none }
    | _ => system
  | _ => system

/-- The state after a step, and the request a trigger made in it. -/
def step : TriggerStep → TriggerSystem × Option TriggerRequest
  | .deliver id index value => (system.updateSet id ((system.sets id).deliver index value), none)
  | .finish id =>
    match (system.sets id).inFlight with
    | none => (system, none)
    | some delivery =>
      (system.updateSet id { system.sets id with inFlight := none },
        delivery.request.map fun isStart =>
          { set := id, index := delivery.index, isStart, value := delivery.value,
            previous := delivery.previous })
  | .store thread isSensors => (system.storeStep thread (.store thread isSensors), none)
  | .storeLock thread => (system.storeStep thread (.storeLock thread), none)
  | .storeResolve thread answers => (system.storeStep thread (.storeResolve thread answers), none)
  | .storeSwitch thread => (system.storeStep thread (.storeSwitch thread), none)
  | .storeStop thread => (system.storeStep thread (.storeStop thread), none)
  | step => (system.rebuildStep step, none)

/-- The system after a step. -/
def next (step : TriggerStep) : TriggerSystem := (system.step step).1

/-- The unit after its boot: one set, whose triggers know no value yet and count a first 1. -/
def initial (targets : List UInt32) : TriggerSystem where
  sets := Function.update (fun _ => {}) 0
    { triggers := targets.map fun targetUid => { targetUid, firstValue := .oneStarts }
      isAttached := true }
  nextId := 1
  current := some 0

/-- A start requested after a store's stop is requested at a readable 1 after a readable 0,
and no request comes from a set a rebuild destroyed. -/
def Obeys (step : TriggerStep) : Prop :=
  ∀ request ∈ (system.step step).2,
    (request.isStart = true → system.isStopped = true →
      readState request.value = some true ∧ request.previous = some false) ∧
    request.set ∉ system.destroyed

end TriggerSystem

/-! ### One set -/

namespace TriggerSet

/-- What a trigger remembers was delivered to it, a withdrawn one remembers nothing, only
an attached set has a delivery inside its guard, and a delivery requests a start only at a
readable 1. -/
structure Sound (set : TriggerSet) : Prop where
  known : ∀ {index : ℕ} {trigger : Trigger} {state : Bool},
    set.triggers[index]? = some trigger → trigger.lastState = some state →
      set.previous index = some state
  withdrawn : ∀ trigger ∈ set.triggers, trigger.isWithdrawn = true → trigger.lastState = none
  detached : set.isAttached = false → set.inFlight = none
  readable : ∀ delivery ∈ set.inFlight, delivery.request = some true →
    readState delivery.value = some true

/-- Every trigger takes its first value as a baseline, and the delivery inside the guard
requests a start only after a 0. -/
structure Calm (set : TriggerSet) : Prop where
  baseline : ∀ trigger ∈ set.triggers, trigger.firstValue = .isBaseline
  after_zero : ∀ delivery ∈ set.inFlight, delivery.request = some true →
    delivery.previous = some false

variable {set : TriggerSet}

theorem deliver_cases (set : TriggerSet) (index : ℕ) (value : EventData) :
    set.deliver index value = set ∨
      set.isAttached = true ∧ set.inFlight = none ∧ ∃ trigger, set.triggers[index]? = some trigger ∧
        set.deliver index value =
          { set with
            triggers := set.triggers.set index (trigger.onValue value).1
            inFlight := some { index, value, previous := set.previous index,
                               request := (trigger.onValue value).2 }
            previous := Function.update set.previous index
              ((readState value).or (set.previous index)) } := by
  unfold deliver
  split_ifs with free
  · cases found : set.triggers[index]? with
    | none => exact Or.inl rfl
    | some trigger => exact Or.inr ⟨free.1, free.2, trigger, rfl, rfl⟩
  · exact Or.inl rfl

/-- A trigger that is not withdrawn remembers the last readable value. -/
theorem onValue_lastState {trigger : Trigger} (value : EventData)
    (withdrawn : trigger.isWithdrawn = true → trigger.lastState = none) {state : Bool}
    (last : (trigger.onValue value).1.lastState = some state) :
    readState value = some state ∨ readState value = none ∧ trigger.lastState = some state := by
  unfold Trigger.onValue at last
  dsimp only at last
  split_ifs at last with gone
  · rw [withdrawn gone] at last
    exact nomatch last
  · split at last
    · next unread => exact Or.inr ⟨unread, last⟩
    · next read =>
      rw [read]
      split_ifs at last <;> exact Or.inl last

theorem onValue_withdrawn {trigger : Trigger} (value : EventData)
    (withdrawn : trigger.isWithdrawn = true → trigger.lastState = none)
    (gone : (trigger.onValue value).1.isWithdrawn = true) :
    (trigger.onValue value).1.lastState = none := by
  unfold Trigger.onValue at gone ⊢
  dsimp only at gone ⊢
  split_ifs at gone ⊢ with before
  · exact withdrawn before
  · split at gone
    · exact absurd gone before
    · split_ifs at gone <;> exact absurd gone before

theorem Sound.deliver (sound : set.Sound) (index : ℕ) (value : EventData) :
    (set.deliver index value).Sound := by
  rcases set.deliver_cases index value with same | ⟨attached, -, trigger, found, delivered⟩
  · rw [same]
    exact sound
  rw [delivered]
  have member := List.mem_of_getElem? found
  constructor
  case known =>
    intro other changed state at_other last
    dsimp only at at_other ⊢
    by_cases same : other = index
    · subst same
      rw [List.getElem?_set_self (List.getElem?_eq_some_iff.mp found).1, Option.some.injEq]
        at at_other
      subst at_other
      rw [Function.update_self]
      rcases onValue_lastState value (sound.withdrawn trigger member) last with
        read | ⟨unread, before⟩
      · rw [read]
        rfl
      · rw [unread]
        exact sound.known found before
    · rw [List.getElem?_set_ne (Ne.symm same)] at at_other
      rw [Function.update_of_ne same]
      exact sound.known at_other last
  case withdrawn =>
    intro changed inside gone
    rcases List.mem_or_eq_of_mem_set inside with before | rfl
    · exact sound.withdrawn changed before gone
    · exact onValue_withdrawn value (sound.withdrawn trigger member) gone
  case detached =>
    intro gone
    exact absurd (gone.symm.trans attached) (by simp)
  case readable =>
    rintro delivery ⟨rfl⟩ start
    exact (Trigger.onValue_start start).1

theorem Calm.deliver (calm : set.Calm) (sound : set.Sound) (index : ℕ) (value : EventData) :
    (set.deliver index value).Calm := by
  rcases set.deliver_cases index value with same | ⟨-, -, trigger, found, delivered⟩
  · rw [same]
    exact calm
  rw [delivered]
  have member := List.mem_of_getElem? found
  constructor
  case baseline =>
    intro changed inside
    rcases List.mem_or_eq_of_mem_set inside with before | rfl
    · exact calm.baseline changed before
    · rw [Trigger.onValue_firstValue]
      exact calm.baseline trigger member
  case after_zero =>
    rintro delivery ⟨rfl⟩ start
    rcases (Trigger.onValue_start start).2 with zero | ⟨-, boots⟩
    · exact sound.known found zero
    · rw [calm.baseline trigger member] at boots
      exact nomatch boots

/-- An update keeps what a trigger remembers, or withdraws it. -/
theorem onConfigurationUpdated_lastState {trigger : Trigger} {isKnown : Option Bool} {state : Bool}
    (last : (trigger.onConfigurationUpdated isKnown).lastState = some state) :
    trigger.lastState = some state ∧ (isKnown = some false → trigger.isWithdrawn = true) := by
  unfold Trigger.onConfigurationUpdated at last
  dsimp only at last
  split at last
  · exact ⟨last, fun absent => nomatch absent⟩
  · next answer =>
    split_ifs at last with withdraws restores
    · exact ⟨last, by simp_all⟩
    · exact ⟨last, by simp_all⟩

theorem onConfigurationUpdated_withdrawn {trigger : Trigger} {isKnown : Option Bool}
    (withdrawn : trigger.isWithdrawn = true → trigger.lastState = none)
    (gone : (trigger.onConfigurationUpdated isKnown).isWithdrawn = true) :
    (trigger.onConfigurationUpdated isKnown).lastState = none := by
  unfold Trigger.onConfigurationUpdated at gone ⊢
  dsimp only at gone ⊢
  split at gone
  · exact withdrawn gone
  · split_ifs at gone ⊢
    · rfl
    · exact withdrawn gone

theorem Sound.onConfigurationUpdated (sound : set.Sound) (answers : Option (ℕ → Bool)) :
    (set.onConfigurationUpdated answers).Sound := by
  constructor
  case known =>
    intro index changed state at_index last
    simp only [TriggerSet.onConfigurationUpdated, List.getElem?_mapIdx, Option.map_eq_some_iff]
      at at_index ⊢
    obtain ⟨trigger, found, rfl⟩ := at_index
    obtain ⟨before, stays⟩ := onConfigurationUpdated_lastState last
    rw [if_neg, sound.known found before]
    cases answers with
    | none => simp
    | some isKnown =>
      simp only [Option.map_some, Option.some.injEq] at stays
      simp only [found, Option.any_some, Bool.and_eq_true, Bool.not_eq_true', not_and]
      intro unknown
      simp [stays unknown]
  case withdrawn =>
    intro changed inside gone
    obtain ⟨index, bound, rfl⟩ := List.mem_mapIdx.mp inside
    exact onConfigurationUpdated_withdrawn
      (sound.withdrawn _ (List.getElem_mem bound)) gone
  case detached => exact sound.detached
  case readable => exact sound.readable

theorem calm_onConfigurationUpdated (free : set.inFlight = none) (answers : Option (ℕ → Bool)) :
    (set.onConfigurationUpdated answers).Calm := by
  constructor
  case baseline =>
    intro changed inside
    obtain ⟨index, bound, rfl⟩ := List.mem_mapIdx.mp inside
    exact Trigger.onConfigurationUpdated_firstValue _
  case after_zero =>
    intro delivery held
    rw [show (set.onConfigurationUpdated answers).inFlight = set.inFlight from rfl, free] at held
    exact nomatch held

/-- The guard is released. -/
theorem Sound.finish (sound : set.Sound) : Sound { set with inFlight := none } where
  known := sound.known
  withdrawn := sound.withdrawn
  detached := fun _ => rfl
  readable := fun _ held => nomatch held

theorem Sound.detach (sound : set.Sound) (free : set.inFlight = none) :
    Sound { set with isAttached := false } where
  known := sound.known
  withdrawn := sound.withdrawn
  detached := fun _ => free
  readable := sound.readable

theorem sound_new (isAttached : Bool) : Sound { isAttached } where
  known := fun found => by simp at found
  withdrawn := fun _ absent => nomatch absent
  detached := fun _ => rfl
  readable := fun _ held => nomatch held

theorem Sound.subscribe (sound : set.Sound) (targetUid : UInt32) (firstValue : FirstValue) :
    Sound { set with triggers := set.triggers ++ [{ targetUid, firstValue }] } where
  known := by
    intro index trigger state found last
    dsimp only at found
    rw [List.getElem?_append] at found
    split_ifs at found with inside
    · exact sound.known found last
    · rw [List.mem_singleton.mp (List.mem_of_getElem? found)] at last
      exact nomatch last
  withdrawn := by
    intro trigger inside gone
    rcases List.mem_append.mp inside with before | added
    · exact sound.withdrawn trigger before gone
    · rw [List.mem_singleton.mp added]
  detached := sound.detached
  readable := sound.readable

theorem Calm.subscribe (calm : set.Calm) (targetUid : UInt32) :
    Calm { set with triggers := set.triggers ++ [{ targetUid, firstValue := .isBaseline }] } where
  baseline := by
    intro trigger inside
    rcases List.mem_append.mp inside with before | added
    · exact calm.baseline trigger before
    · rw [List.mem_singleton.mp added]
  after_zero := calm.after_zero

theorem Calm.finish (calm : set.Calm) : Calm { set with inFlight := none } where
  baseline := calm.baseline
  after_zero := fun _ held => nomatch held

theorem calm_new (isAttached : Bool) : Calm { isAttached } where
  baseline := fun _ absent => nomatch absent
  after_zero := fun _ held => nomatch held

end TriggerSet

/-! ### The invariant of a run -/

/-- A store holds the lock from its lock to its switch. -/
def StorePhase.holdsLock : StorePhase → Bool
  | .locked _ | .resolved _ => true
  | _ => false

namespace TriggerSystem

/-- A store has switched the triggers: its stop is requested, or is what it does next. -/
def IsSwitched (system : TriggerSystem) : Prop :=
  system.isStopped = true ∨ ∃ thread, system.stores thread = .handled

/-- Who holds the lock. -/
structure Locked (system : TriggerSystem) : Prop where
  rebuild : system.rebuild ≠ .idle → system.lock = some .rebuild
  store : ∀ thread, (system.stores thread).holdsLock = true → system.lock = some (.store thread)

/-- The invariant of every run. -/
structure Sound (system : TriggerSystem) : Prop where
  sets : ∀ id, (system.sets id).Sound
  locked : system.Locked
  /-- A set that is attached is the current one, or the one being built. -/
  owned : ∀ id, (system.sets id).isAttached = true → system.current = some id ∨
    ∃ firstValue, system.rebuild = .building firstValue id
  /-- The rebuild builds without a current set. -/
  without : system.rebuild = .reset ∨ (∃ firstValue id, system.rebuild = .building firstValue id) →
    system.current = none
  destroyed : ∀ id ∈ system.destroyed, (system.sets id).isAttached = false ∧ id < system.nextId
  ids : ∀ id, system.nextId ≤ id → (system.sets id).isAttached = false ∧
    system.current ≠ some id
  buildingId : ∀ firstValue id, system.rebuild = .building firstValue id → id < system.nextId
  /-- A store in progress, or one whose stop was requested, has set the flag. -/
  flagged : (∃ thread, system.stores thread ≠ .idle) ∨ system.isStopped = true →
    system.isConfigurationUpdated = true
  calm : system.IsSwitched → ∀ id, (system.sets id).isAttached = true → (system.sets id).Calm
  building : system.IsSwitched → ∀ firstValue id, system.rebuild = .building firstValue id →
    firstValue = .isBaseline

variable {system : TriggerSystem}

theorem Sound.rebuild_idle (sound : system.Sound) (free : system.lock ≠ some .rebuild) :
    system.rebuild = .idle := by
  by_contra busy
  exact free (sound.locked.rebuild busy)

/-- One set changes; it is attached only if it was before. -/
theorem Sound.updateSet (sound : system.Sound) (id : ℕ) {set : TriggerSet} (setSound : set.Sound)
    (attached : set.isAttached = true → (system.sets id).isAttached = true)
    (calm : system.IsSwitched → set.isAttached = true → set.Calm) :
    (system.updateSet id set).Sound := by
  have attached_of {other : ℕ} (now : ((system.updateSet id set).sets other).isAttached = true) :
      (system.sets other).isAttached = true := by
    by_cases same : other = id
    · subst same
      rw [sets_updateSet_self] at now
      exact attached now
    · rwa [sets_updateSet_of_ne system same] at now
  have detached_of {other : ℕ} (before : (system.sets other).isAttached = false) :
      ((system.updateSet id set).sets other).isAttached = false := by
    by_contra now
    exact absurd before (by simp [attached_of (by simpa using now)])
  refine { sound with
    sets := ?_, locked := ⟨sound.locked.rebuild, sound.locked.store⟩, owned := ?_,
    destroyed := ?_, ids := ?_, calm := ?_ }
  · intro other
    by_cases same : other = id
    · rw [same, sets_updateSet_self]
      exact setSound
    · rw [sets_updateSet_of_ne system same]
      exact sound.sets other
  · exact fun other now => sound.owned other (attached_of now)
  · intro other gone
    obtain ⟨detached, old⟩ := sound.destroyed other gone
    exact ⟨detached_of detached, old⟩
  · exact fun other new => ⟨detached_of (sound.ids other new).1, (sound.ids other new).2⟩
  · intro switched other now
    by_cases same : other = id
    · subst same
      rw [sets_updateSet_self] at now ⊢
      exact calm switched now
    · rw [sets_updateSet_of_ne system same] at now ⊢
      exact sound.calm switched other now

theorem deliver_isAttached (set : TriggerSet) (index : ℕ) (value : EventData) :
    (set.deliver index value).isAttached = set.isAttached := by
  rcases set.deliver_cases index value with same | ⟨-, -, trigger, -, delivered⟩
  · rw [same]
  · rw [delivered]

theorem Sound.deliver (sound : system.Sound) (id index : ℕ) (value : EventData) :
    (system.updateSet id ((system.sets id).deliver index value)).Sound := by
  refine sound.updateSet id ((sound.sets id).deliver index value) ?_ ?_
  · rw [deliver_isAttached]
    exact fun attached => attached
  · rw [deliver_isAttached]
    exact fun switched attached =>
      (sound.calm switched id attached).deliver (sound.sets id) index value

theorem Sound.finish (sound : system.Sound) (id : ℕ) :
    (system.updateSet id { system.sets id with inFlight := none }).Sound :=
  sound.updateSet id (sound.sets id).finish (fun attached => attached)
    fun switched attached => (sound.calm switched id attached).finish

/-! #### The stores -/

theorem Locked.setStore (locked : system.Locked) {thread : ℕ} {phase : StorePhase}
    (releases : phase.holdsLock = false) : (system.setStore thread phase).Locked := by
  refine ⟨locked.rebuild, fun other holds => ?_⟩
  by_cases same : other = thread
  · subst same
    simp [TriggerSystem.setStore, releases] at holds
  · exact locked.store other (by simpa [TriggerSystem.setStore, same] using holds)

/-- Nobody holds a lock that is free. -/
theorem Locked.take (locked : system.Locked) (free : system.lock = none) {thread : ℕ}
    (phase : StorePhase) :
    Locked { system.setStore thread phase with lock := some (.store thread) } := by
  refine ⟨fun busy => ?_, fun other holds => ?_⟩
  · exact absurd (free.symm.trans (locked.rebuild busy)) (by simp)
  · by_cases same : other = thread
    · rw [same]
    · have before : (system.stores other).holdsLock = true := by
        simpa [TriggerSystem.setStore, same] using holds
      exact absurd (free.symm.trans (locked.store other before)) (by simp)

/-- A store that does not reach its switch leaves the others where they are. -/
theorem isSwitched_of_setStore {thread : ℕ} {phase : StorePhase} (notDone : phase ≠ .handled)
    (now : (system.setStore thread phase).IsSwitched) : system.IsSwitched := by
  rcases now with stopped | ⟨other, done⟩
  · exact Or.inl stopped
  · refine Or.inr ⟨other, ?_⟩
    by_cases same : other = thread
    · subst same
      simp [setStore, notDone] at done
    · simpa [setStore, same] using done

theorem Sound.store (sound : system.Sound) (thread : ℕ) (isSensors : Bool) :
    (system.storeStep thread (.store thread isSensors)).Sound := by
  unfold storeStep
  dsimp only
  split
  · have locked : (system.setStore thread (.flagged isSensors)).Locked :=
      sound.locked.setStore rfl
    have switched_of (now : (system.setStore thread (.flagged isSensors)).IsSwitched) :
        system.IsSwitched := isSwitched_of_setStore (by simp) now
    exact { sound with
      locked := ⟨locked.rebuild, locked.store⟩
      flagged := fun _ => rfl
      calm := fun now => sound.calm (switched_of now)
      building := fun now => sound.building (switched_of now) }
  · exact sound

theorem Sound.storeLock (sound : system.Sound) (thread : ℕ) :
    (system.storeStep thread (.storeLock thread)).Sound := by
  unfold storeStep
  dsimp only
  split
  · next isSensors flagged free none =>
    -- There is no set, and none is being built: whoever builds one holds the lock.
    have idle := sound.rebuild_idle (by simp [free])
    have detached (id : ℕ) : ¬(system.sets id).isAttached = true := by
      intro attached
      rcases sound.owned id attached with current | ⟨firstValue, building⟩
      · exact absurd (none.symm.trans current) (by simp)
      · exact absurd (idle.symm.trans building) (by simp)
    exact { sound with
      locked := sound.locked.setStore rfl
      flagged := fun _ => sound.flagged (Or.inl ⟨thread, by simp [flagged]⟩)
      calm := fun _ id attached => absurd attached (detached id)
      building := fun _ firstValue id building => absurd (idle.symm.trans building) (by simp) }
  · next isSensors id flagged free current =>
    have switched_of (now : (system.setStore thread (.locked isSensors)).IsSwitched) :
        system.IsSwitched := isSwitched_of_setStore (by simp) now
    exact { sound with
      locked := sound.locked.take free _
      flagged := fun _ => sound.flagged (Or.inl ⟨thread, by simp [flagged]⟩)
      calm := fun now => sound.calm (switched_of now)
      building := fun now => sound.building (switched_of now) }
  · exact sound

theorem Sound.storeResolve (sound : system.Sound) (thread : ℕ) (answers : Option (ℕ → Bool)) :
    (system.storeStep thread (.storeResolve thread answers)).Sound := by
  unfold storeStep
  dsimp only
  split
  · next isSensors holding =>
    have owner := sound.locked.store thread (by simp [holding, StorePhase.holdsLock])
    have switched_of (now : (system.setStore thread
        (.resolved (if isSensors = true then answers else none))).IsSwitched) :
        system.IsSwitched := isSwitched_of_setStore (by simp) now
    refine { sound with
      locked := ⟨sound.locked.rebuild, fun other holds => ?_⟩
      flagged := fun _ => sound.flagged (Or.inl ⟨thread, by simp [holding]⟩)
      calm := fun now => sound.calm (switched_of now)
      building := fun now => sound.building (switched_of now) }
    by_cases same : other = thread
    · rw [same]
      exact owner
    · exact sound.locked.store other (by simpa [setStore, same] using holds)
  · exact sound

/-- The switch, inside the lock and the guard: the only set attached is the current one, and
it is calm from here on. -/
theorem Sound.storeSwitch (sound : system.Sound) (thread : ℕ) :
    (system.storeStep thread (.storeSwitch thread)).Sound := by
  unfold storeStep
  dsimp only
  split
  · next answers id holding current =>
    split_ifs with free
    · have owner := sound.locked.store thread (by simp [holding, StorePhase.holdsLock])
      have idle := sound.rebuild_idle (by simp [owner])
      have switched := sound.updateSet id ((sound.sets id).onConfigurationUpdated answers)
        (fun attached => attached)
        (fun _ _ => TriggerSet.calm_onConfigurationUpdated free answers)
      have calm (other : ℕ) (attached : (Function.update system.sets id
          ((system.sets id).onConfigurationUpdated answers) other).isAttached = true) :
          (Function.update system.sets id
            ((system.sets id).onConfigurationUpdated answers) other).Calm := by
        have same : other = id := by
          rcases switched.owned other attached with now | ⟨firstValue, building⟩
          · exact Option.some.inj (now.symm.trans current)
          · exact absurd (idle.symm.trans building) (by simp)
        rw [same, Function.update_self]
        exact TriggerSet.calm_onConfigurationUpdated free answers
      refine { switched with
        locked := ⟨fun busy => absurd idle busy, fun other holds => ?_⟩
        flagged := fun _ => sound.flagged (Or.inl ⟨thread, by simp [holding]⟩)
        calm := fun _ => calm
        building := fun _ firstValue other building => absurd (idle.symm.trans building) (by simp) }
      by_cases same : other = thread
      · simp [setStore, same, StorePhase.holdsLock] at holds
      · have other_owns := sound.locked.store other
          (by simpa [setStore, TriggerSystem.updateSet, same] using holds)
        rw [owner, Option.some.injEq, LockOwner.store.injEq] at other_owns
        exact absurd other_owns.symm same
    · exact sound
  · exact sound

theorem Sound.storeStop (sound : system.Sound) (thread : ℕ) :
    (system.storeStep thread (.storeStop thread)).Sound := by
  unfold storeStep
  dsimp only
  split
  · next done =>
    have locked : (system.setStore thread .idle).Locked := sound.locked.setStore rfl
    have switched : system.IsSwitched := Or.inr ⟨thread, done⟩
    exact { sound with
      locked := ⟨locked.rebuild, locked.store⟩
      flagged := fun _ => sound.flagged (Or.inl ⟨thread, by simp [done]⟩)
      calm := fun _ => sound.calm switched
      building := fun _ => sound.building switched }
  · exact sound

/-! #### The rebuild -/

theorem Sound.rebuildLock (sound : system.Sound) : (system.rebuildStep .rebuildLock).Sound := by
  unfold rebuildStep
  dsimp only
  split
  · next idle free =>
    refine { sound with
      locked := ⟨fun _ => rfl, fun thread holds => ?_⟩
      owned := fun id attached => ?_
      without := fun building => by simp at building
      buildingId := fun _ _ building => by simp at building
      building := fun _ _ _ building => by simp at building }
    · exact absurd (free.symm.trans (sound.locked.store thread holds)) (by simp)
    · rcases sound.owned id attached with current | ⟨firstValue, building⟩
      · exact Or.inl current
      · exact absurd (idle.symm.trans building) (by simp)
  · exact sound

theorem Sound.rebuildReset (sound : system.Sound) : (system.rebuildStep .rebuildReset).Sound := by
  unfold rebuildStep
  dsimp only
  split
  · next locked none =>
    -- The set is detached before it is given up, and nobody is in one of its handlers.
    have owner := sound.locked.rebuild (by simp [locked])
    refine { sound with
      locked := ⟨fun _ => owner, sound.locked.store⟩
      owned := fun id attached => ?_
      without := fun _ => none
      buildingId := fun _ _ building => by simp at building
      building := fun _ _ _ building => by simp at building }
    rcases sound.owned id attached with current | ⟨firstValue, building⟩
    · exact Or.inl current
    · exact absurd (locked.symm.trans building) (by simp)
  · next id locked current =>
    split_ifs with free
    · have owner := sound.locked.rebuild (by simp [locked])
      have reset := sound.updateSet id ((sound.sets id).detach free)
        (fun attached => nomatch attached) (fun _ attached => nomatch attached)
      have detached : ((system.updateSet id { system.sets id with
          isAttached := false }).sets id).isAttached = false := by simp
      refine { reset with
        locked := ⟨fun _ => owner, sound.locked.store⟩
        owned := fun other attached => ?_
        without := fun _ => rfl
        destroyed := fun other gone => ?_
        ids := fun other new => ⟨(reset.ids other new).1, by simp⟩
        buildingId := fun _ _ building => by simp at building
        building := fun _ _ _ building => by simp at building }
      · rcases reset.owned other attached with still | ⟨firstValue, building⟩
        · have same : other = id := Option.some.inj (still.symm.trans current)
          subst same
          exact absurd (detached.symm.trans attached) (by simp)
        · exact absurd (locked.symm.trans building) (by simp)
      · rcases Finset.mem_insert.mp gone with rfl | before
        · refine ⟨detached, ?_⟩
          by_contra new
          exact (sound.ids other (Nat.le_of_not_lt new)).2 current
        · exact reset.destroyed other before
    · exact sound
  · exact sound

theorem Sound.rebuildReadFlag (sound : system.Sound) :
    (system.rebuildStep .rebuildReadFlag).Sound := by
  unfold rebuildStep
  dsimp only
  split
  · next reset =>
    have owner := sound.locked.rebuild (by simp [reset])
    have none := sound.without (Or.inl reset)
    constructor
    case sets =>
      intro id
      by_cases same : id = system.nextId
      · simpa [same] using TriggerSet.sound_new true
      · simpa [sets_updateSet_of_ne system same] using sound.sets id
    case locked => exact ⟨fun _ => owner, sound.locked.store⟩
    case owned =>
      intro id attached
      by_cases same : id = system.nextId
      · exact Or.inr ⟨_, by rw [same]⟩
      · rcases sound.owned id (by simpa [sets_updateSet_of_ne system same] using attached) with
          current | ⟨firstValue, building⟩
        · exact Or.inl current
        · exact absurd (reset.symm.trans building) (by simp)
    case without => exact fun _ => none
    case destroyed =>
      intro id gone
      obtain ⟨detached, old⟩ := sound.destroyed id gone
      have different : id ≠ system.nextId := Nat.ne_of_lt old
      refine ⟨?_, Nat.lt_succ_of_lt old⟩
      simpa [sets_updateSet_of_ne system different] using detached
    case ids =>
      intro id new
      have different : id ≠ system.nextId := Nat.ne_of_gt new
      have before := sound.ids id (Nat.le_of_lt new)
      refine ⟨?_, before.2⟩
      simpa [sets_updateSet_of_ne system different] using before.1
    case buildingId =>
      intro firstValue id building
      rw [← (RebuildPhase.building.inj building).2]
      exact Nat.lt_succ_self _
    case flagged => exact sound.flagged
    case calm =>
      intro switched id attached
      by_cases same : id = system.nextId
      · simpa [same] using TriggerSet.calm_new true
      · simp only [sets_updateSet_of_ne system same] at attached ⊢
        exact sound.calm switched id attached
    case building =>
      -- Whoever switched the triggers set the flag before it took the lock.
      intro switched firstValue id building
      have flag : system.isConfigurationUpdated = true := by
        rcases switched with stopped | ⟨thread, done⟩
        · exact sound.flagged (Or.inr stopped)
        · exact sound.flagged (Or.inl ⟨thread, fun idle => by
            rw [show system.stores thread = .handled from done] at idle; exact nomatch idle⟩)
      simp only [flag, if_true, RebuildPhase.building.injEq] at building
      exact building.1.symm
  · exact sound

theorem Sound.subscribe (sound : system.Sound) (targetUid : UInt32) :
    (system.rebuildStep (.subscribe targetUid)).Sound := by
  unfold rebuildStep
  dsimp only
  split
  · next firstValue id building =>
    refine sound.updateSet id ((sound.sets id).subscribe targetUid firstValue)
      (fun attached => attached) fun switched attached => ?_
    rw [sound.building switched firstValue id building]
    exact (sound.calm switched id attached).subscribe targetUid
  · exact sound

theorem Sound.rebuildFail (sound : system.Sound) : (system.rebuildStep .rebuildFail).Sound := by
  unfold rebuildStep
  dsimp only
  split
  · next firstValue id building =>
    split_ifs with free
    · have owner := sound.locked.rebuild (by simp [building])
      have failed := sound.updateSet id ((sound.sets id).detach free)
        (fun attached => nomatch attached) (fun _ attached => nomatch attached)
      refine { failed with
        locked := ⟨fun busy => absurd rfl busy, fun thread holds => ?_⟩
        owned := fun other attached => ?_
        without := fun still => by simp at still
        buildingId := fun _ _ still => by simp at still
        building := fun _ _ _ still => by simp at still }
      · exact absurd (owner.symm.trans (sound.locked.store thread holds)) (by simp)
      · rcases failed.owned other attached with current | ⟨other_first, still⟩
        · exact Or.inl current
        · have same : id = other := (RebuildPhase.building.inj (building.symm.trans still)).2
          simp [same] at attached
    · exact sound
  · exact sound

theorem Sound.rebuildFinish (sound : system.Sound) :
    (system.rebuildStep .rebuildFinish).Sound := by
  unfold rebuildStep
  dsimp only
  split
  · next firstValue id building =>
    have owner := sound.locked.rebuild (by simp [building])
    have none := sound.without (Or.inr ⟨firstValue, id, building⟩)
    refine { sound with
      locked := ⟨fun _ => owner, sound.locked.store⟩
      owned := fun other attached => ?_
      without := fun still => by simp at still
      ids := fun other new => ⟨(sound.ids other new).1, ?_⟩
      buildingId := fun _ _ still => by simp at still
      building := fun _ _ _ still => by simp at still }
    · rcases sound.owned other attached with current | ⟨other_first, still⟩
      · exact absurd (none.symm.trans current) (by simp)
      · rw [(RebuildPhase.building.inj (building.symm.trans still)).2]
        exact Or.inl rfl
    · intro same
      have old := sound.buildingId firstValue id building
      rw [Option.some.inj same] at old
      exact absurd old (Nat.not_lt.mpr new)
  · exact sound

theorem Sound.rebuildReplay (sound : system.Sound) :
    (system.rebuildStep .rebuildReplay).Sound := by
  unfold rebuildStep
  dsimp only
  split
  · next replaying =>
    have owner := sound.locked.rebuild (by simp [replaying])
    refine { sound with
      locked := ⟨fun busy => absurd rfl busy, fun thread holds => ?_⟩
      owned := fun id attached => ?_
      without := fun still => by simp at still
      buildingId := fun _ _ still => by simp at still
      building := fun _ _ _ still => by simp at still }
    · exact absurd (owner.symm.trans (sound.locked.store thread holds)) (by simp)
    · rcases sound.owned id attached with current | ⟨firstValue, building⟩
      · exact Or.inl current
      · exact absurd (replaying.symm.trans building) (by simp)
  · exact sound

/-! #### Every run -/

theorem sound_initial (targets : List UInt32) : (initial targets).Sound := by
  -- At boot there is one set, attached, and its triggers have seen nothing.
  have booted : TriggerSet.Sound
      { triggers := targets.map fun targetUid => { targetUid, firstValue := .oneStarts }
        isAttached := true } := by
    constructor
    case known =>
      intro index trigger state found last
      obtain ⟨targetUid, -, rfl⟩ := List.mem_map.mp (List.mem_of_getElem? found)
      exact nomatch last
    case withdrawn =>
      intro trigger inside
      obtain ⟨targetUid, -, rfl⟩ := List.mem_map.mp inside
      exact fun gone => nomatch gone
    case detached => exact fun _ => rfl
    case readable => exact fun _ held => nomatch held
  constructor
  case sets =>
    intro id
    by_cases first : id = 0
    · simpa [initial, first] using booted
    · simpa [initial, first] using TriggerSet.sound_new false
  case locked => exact ⟨fun busy => absurd rfl busy, fun _ holds => nomatch holds⟩
  case owned =>
    intro id attached
    by_cases first : id = 0
    · rw [first]
      exact Or.inl rfl
    · simp [initial, first] at attached
  case without => simp [initial]
  case destroyed => simp [initial]
  case ids =>
    intro id new
    have first : id ≠ 0 := Nat.ne_of_gt new
    simp [initial, first, first.symm]
  case buildingId => simp [initial]
  case flagged => simp [initial]
  case calm =>
    rintro (stopped | ⟨thread, done⟩)
    · exact nomatch stopped
    · exact nomatch done
  case building => simp [initial]

theorem Sound.next (sound : system.Sound) (step : TriggerStep) : (system.next step).Sound := by
  cases step with
  | store thread isSensors => exact sound.store thread isSensors
  | storeLock thread => exact sound.storeLock thread
  | storeResolve thread answers => exact sound.storeResolve thread answers
  | storeSwitch thread => exact sound.storeSwitch thread
  | storeStop thread => exact sound.storeStop thread
  | rebuildLock => exact sound.rebuildLock
  | rebuildReset => exact sound.rebuildReset
  | rebuildReadFlag => exact sound.rebuildReadFlag
  | subscribe targetUid => exact sound.subscribe targetUid
  | rebuildFail => exact sound.rebuildFail
  | rebuildFinish => exact sound.rebuildFinish
  | rebuildReplay => exact sound.rebuildReplay
  | deliver id index value => exact sound.deliver id index value
  | finish id =>
    cases held : (system.sets id).inFlight with
    | none => simpa [TriggerSystem.next, step, held] using sound
    | some delivery => simpa [TriggerSystem.next, step, held] using sound.finish id

/-- A request is made when a delivery leaves the guard of a set that is still attached. -/
theorem Sound.obeys (sound : system.Sound) (step : TriggerStep) : system.Obeys step := by
  intro request made
  cases step with
  | finish id =>
    cases held : (system.sets id).inFlight with
    | none => simp [TriggerSystem.step, held] at made
    | some delivery =>
      have attached : (system.sets id).isAttached = true := by
        by_contra gone
        have free := (sound.sets id).detached (by simpa using gone)
        exact absurd (free.symm.trans held) (by simp)
      simp only [TriggerSystem.step, held, Option.mem_def, Option.map_eq_some_iff] at made
      obtain ⟨isStart, asked, rfl⟩ := made
      constructor
      · intro start stopped
        have asked : delivery.request = some true := by rw [asked, ← start]
        exact ⟨(sound.sets id).readable delivery held asked,
          (sound.calm (Or.inl stopped) id attached).after_zero delivery held asked⟩
      · intro gone
        exact absurd (sound.destroyed id gone).1 (by simp [attached])
  | store | storeLock | storeResolve | storeSwitch | storeStop | rebuildLock | rebuildReset
  | rebuildReadFlag | subscribe | rebuildFail | rebuildFinish | rebuildReplay | deliver =>
    exact nomatch made

/-- In every interleaving of stores on any threads, rebuilds and deliveries: once a store's
stop was requested, a trigger requests a start only at a readable 1 delivered after a
readable 0, its previous readable value since it was built or last withdrawn; and a set
that a rebuild destroyed makes no request after its reset. -/
theorem update_stop_stands (targets : List UInt32) (steps : List TriggerStep) :
    Along next Obeys (initial targets) steps :=
  along_of_preserved (sound_initial targets) (fun _ step before => before.next step)
    (fun _ step before => before.obeys step) steps

/-- A trigger that read a 0 before the store starts logging again at its next 1. -/
example :
    ((run next (initial [0]) [.deliver 0 0 (.flag false), .finish 0, .store 7 false, .storeLock 7,
      .storeResolve 7 none, .storeSwitch 7, .storeStop 7, .deliver 0 0 (.flag true)]).step
        (.finish 0)).2 = some ⟨0, 0, true, .flag true, some false⟩ := by
  decide +kernel

end TriggerSystem

end RtCore.Logging
