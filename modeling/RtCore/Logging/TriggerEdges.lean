import RtCore.Logging.TriggerSet

/-!
# The edges of logging triggers

A set of triggers is handed values and configuration updates in any order. What a trigger requests
is a matter of its history alone: of the last readable value since it last was withdrawn, of the
last answer of a resolver, and at boot of whether there was an update at all.

## Main definitions

* `LoggingTriggerSet.step` — a value or an update reaches the set
* `Withdrawn`, `LastSeen` — a trigger's past, in terms of what was delivered

## Main results

* `LoggingTriggerSet.triggers_deliver`, `LoggingTriggerSet.triggers_onConfigurationUpdated` — what
  a set does under its guard is one of these steps
* `LoggingTriggerSet.requestAt_edges` — the values at which a trigger requests a start and a stop
-/

namespace RtCore.Logging

open RtCore.Foundation

/-- What a resolver says of the trigger at an index; `none` where it throws. -/
abbrev SelectorResolver := ℕ → Option Bool

/-- What reaches a set of triggers. -/
inductive TriggerEvent
  | value (index : ℕ) (value : EventData)
  | configurationUpdated (isSelectorKnown : Option SelectorResolver)

/-- What a trigger asks of the logging control: `RequestStart` or `RequestStop` of its target. -/
structure ControlRequest where
  index : ℕ
  targetUid : UInt32
  isStart : Bool
deriving DecidableEq, Repr

namespace LoggingTriggerSet

/-- The triggers a constructor leaves. -/
def create (targets : List UInt32) (firstValue : FirstValue) : List Trigger :=
  targets.map fun targetUid => { targetUid, firstValue }

/-- The answers of a resolver that is there and throws for none of the triggers. -/
def isKnown (count : ℕ) (isSelectorKnown : Option SelectorResolver) : Option (ℕ → Bool) :=
  match isSelectorKnown with
  | none => none
  | some ask =>
    if ∀ index < count, ask index ≠ none then some fun index => ask index = some true else none

/-- The handler of the trigger at an index. -/
def onValue (triggers : List Trigger) (index : ℕ) (value : EventData) :
    List Trigger × Option ControlRequest :=
  match triggers[index]? with
  | none => (triggers, none)
  | some trigger =>
    let (after, request) := trigger.onValue value
    (triggers.set index after,
      request.map fun isStart => { index, targetUid := trigger.targetUid, isStart })

/-- An update of the configuration reaches every trigger. -/
def onConfigurationUpdated (triggers : List Trigger)
    (isSelectorKnown : Option SelectorResolver) : List Trigger :=
  let isKnown := isKnown triggers.length isSelectorKnown
  triggers.mapIdx fun index trigger => trigger.onConfigurationUpdated (isKnown.map (· index))

/-- The triggers after a value or an update, and what they request. -/
def step (triggers : List Trigger) : TriggerEvent → List Trigger × Option ControlRequest
  | .value index value => onValue triggers index value
  | .configurationUpdated isSelectorKnown => (onConfigurationUpdated triggers isSelectorKnown, none)

/-- A delivery that the guard of a set lets in does to its triggers what `onValue` does. -/
theorem triggers_deliver {set : TriggerSet} (attached : set.isAttached = true)
    (idle : set.inFlight = none) (index : ℕ) (value : EventData) :
    (set.deliver index value).triggers = (onValue set.triggers index value).1 := by
  rw [TriggerSet.deliver, if_pos ⟨attached, idle⟩, onValue]
  cases set.triggers[index]? with
  | none => rfl
  | some trigger => rfl

/-- So does the switch of an update under the guard. -/
theorem triggers_onConfigurationUpdated (set : TriggerSet)
    (isSelectorKnown : Option SelectorResolver) :
    (set.onConfigurationUpdated (isKnown set.triggers.length isSelectorKnown)).triggers =
      onConfigurationUpdated set.triggers isSelectorKnown := rfl

/-- The triggers after all that reached a new set. -/
def after (targets : List UInt32) (firstValue : FirstValue) (history : List TriggerEvent) :
    List Trigger :=
  run (fun triggers event => (step triggers event).1) (create targets firstValue) history

/-- The request made at an event that follows a history. -/
def requestAt (targets : List UInt32) (firstValue : FirstValue) (history : List TriggerEvent)
    (event : TriggerEvent) : Option ControlRequest :=
  (step (after targets firstValue history) event).2

end LoggingTriggerSet

/-! ### A trigger's past -/

namespace TriggerEvent

/-- The state a trigger reads at an event. -/
def stateFor (index : ℕ) : TriggerEvent → Option Bool
  | .value other data => if other = index then readState data else none
  | .configurationUpdated _ => none

/-- What an update says of a trigger's selector, where it says anything. -/
def answerFor (index count : ℕ) : TriggerEvent → Option Bool
  | .value _ _ => none
  | .configurationUpdated isSelectorKnown =>
    (LoggingTriggerSet.isKnown count isSelectorKnown).map (· index)

/-- The event is an update of the configuration. -/
def IsUpdate : TriggerEvent → Prop
  | .value _ _ => False
  | .configurationUpdated _ => True

end TriggerEvent

section Past

variable (index count : ℕ)

/-- The last answer about a trigger is that it selects nothing. -/
def Withdrawn (history : List TriggerEvent) : Prop :=
  (history.filterMap (TriggerEvent.answerFor index count)).getLast? = some false

/-- The last readable value of a trigger, since it last was withdrawn. -/
def LastSeen (history : List TriggerEvent) (state : Bool) : Prop :=
  ∃ before event later, history = before ++ event :: later ∧
    event.stateFor index = some state ∧ (∀ other ∈ later, other.stateFor index = none) ∧
    ∀ first, first <+: later → ¬Withdrawn index count (before ++ event :: first)

variable {index count} {history : List TriggerEvent}

theorem not_withdrawn_nil : ¬Withdrawn index count [] := nofun

theorem withdrawn_concat {event : TriggerEvent} : Withdrawn index count (history ++ [event]) ↔
    event.answerFor index count = some false ∨
      event.answerFor index count = none ∧ Withdrawn index count history := by
  rw [Withdrawn, Withdrawn, List.filterMap_append]
  cases answer : event.answerFor index count with
  | none => simp [List.filterMap, answer]
  | some isKnown => simp [List.filterMap, answer]

theorem not_lastSeen_nil {state : Bool} : ¬LastSeen index count [] state := by
  rintro ⟨before, event, later, same, -⟩
  simp at same

/-- A trigger that has seen a value is not withdrawn. -/
theorem LastSeen.not_withdrawn {state : Bool} (seen : LastSeen index count history state) :
    ¬Withdrawn index count history := by
  obtain ⟨before, event, later, rfl, -, -, kept⟩ := seen
  exact kept later (List.prefix_refl later)

theorem lastSeen_concat {event : TriggerEvent} {state : Bool} :
    LastSeen index count (history ++ [event]) state ↔
      ¬Withdrawn index count (history ++ [event]) ∧
        (event.stateFor index = some state ∨
          event.stateFor index = none ∧ LastSeen index count history state) := by
  constructor
  · intro seen
    refine ⟨seen.not_withdrawn, ?_⟩
    obtain ⟨before, read, later, same, reads, nothing, kept⟩ := seen
    rcases List.eq_nil_or_concat later with rfl | ⟨later, last, rfl⟩
    · obtain ⟨rfl, only⟩ := List.append_inj' same rfl
      obtain rfl := List.singleton_inj.mp only
      exact .inl reads
    · rw [List.concat_eq_append] at same nothing kept
      obtain ⟨rfl, only⟩ := List.append_inj' (same.trans (List.append_assoc before (read :: later)
        [last]).symm) rfl
      obtain rfl := List.singleton_inj.mp only
      refine .inr ⟨nothing event (List.mem_append_right later List.mem_cons_self), ?_⟩
      exact ⟨before, read, later, rfl, reads,
        fun other member => nothing other (List.mem_append_left [event] member),
        fun first isPrefix => kept first (isPrefix.trans (List.prefix_append later [event]))⟩
  · rintro ⟨unwithdrawn, reads | ⟨unread, before, read, later, rfl, reads, nothing, kept⟩⟩
    · refine ⟨history, event, [], rfl, reads, nofun, fun first isPrefix => ?_⟩
      rw [List.prefix_nil.mp isPrefix]
      exact unwithdrawn
    · refine ⟨before, read, later ++ [event], ?_, reads, ?_, ?_⟩
      · rw [List.append_assoc, List.cons_append]
      · intro other member
        rcases List.mem_append.mp member with member | member
        · exact nothing other member
        · rw [List.mem_singleton.mp member]
          exact unread
      · intro first isPrefix
        rcases List.prefix_concat_iff.mp isPrefix with rfl | isPrefix
        · rw [← List.cons_append, ← List.append_assoc]
          exact unwithdrawn
        · exact kept first isPrefix

end Past

/-! ### One trigger -/

namespace Trigger

variable {trigger : Trigger} {value : EventData}

theorem onValue_of_withdrawn (withdrawn : trigger.isWithdrawn = true) :
    trigger.onValue value = (trigger, none) :=
  if_pos withdrawn

theorem onValue_of_unreadable (unreadable : readState value = none) :
    trigger.onValue value = (trigger, none) := by
  rw [onValue, unreadable]
  exact ite_self _

theorem onValue_of_readable (unwithdrawn : ¬trigger.isWithdrawn = true) {state : Bool}
    (reads : readState value = some state) :
    (trigger.onValue value).1 = { trigger with lastState := some state } ∧
      ∀ isStart, (trigger.onValue value).2 = some isStart ↔ isStart = state ∧
        (trigger.lastState = some (!state) ∨
          state = true ∧ trigger.lastState = none ∧ trigger.firstValue = .oneStarts) := by
  obtain ⟨targetUid, lastState, firstValue, isWithdrawn⟩ := trigger
  rw [onValue, if_neg unwithdrawn, reads]
  cases lastState with
  | none => cases firstValue <;> cases state <;> simp [eq_comm]
  | some last => cases last <;> cases state <;> simp [eq_comm]

variable {isKnown : Option Bool}

theorem targetUid_onConfigurationUpdated :
    (trigger.onConfigurationUpdated isKnown).targetUid = trigger.targetUid := by
  cases isKnown with
  | none => rfl
  | some isKnown => cases isKnown <;> cases withdrawn : trigger.isWithdrawn <;>
      simp [onConfigurationUpdated, withdrawn]

theorem isWithdrawn_onConfigurationUpdated :
    (trigger.onConfigurationUpdated isKnown).isWithdrawn = true ↔
      isKnown = some false ∨ isKnown = none ∧ trigger.isWithdrawn = true := by
  cases isKnown with
  | none => simp [onConfigurationUpdated]
  | some isKnown => cases isKnown <;> cases withdrawn : trigger.isWithdrawn <;>
      simp [onConfigurationUpdated, withdrawn]

theorem lastState_onConfigurationUpdated :
    (trigger.onConfigurationUpdated isKnown).lastState =
      if isKnown = some false ∧ ¬trigger.isWithdrawn = true then none else trigger.lastState := by
  cases isKnown with
  | none => simp [onConfigurationUpdated]
  | some isKnown => cases isKnown <;> cases withdrawn : trigger.isWithdrawn <;>
      simp [onConfigurationUpdated, withdrawn]

end Trigger

/-- One trigger's part of a step. -/
def triggerStep (index count : ℕ) (trigger : Trigger) : TriggerEvent → Trigger × Option Bool
  | .value other value => if other = index then trigger.onValue value else (trigger, none)
  | .configurationUpdated isSelectorKnown =>
    (trigger.onConfigurationUpdated
      ((LoggingTriggerSet.isKnown count isSelectorKnown).map (· index)), none)

/-- What a trigger's fields say of its past. -/
structure Reflects (index count : ℕ) (targetUid : UInt32) (firstValue : FirstValue)
    (history : List TriggerEvent) (trigger : Trigger) : Prop where
  target : trigger.targetUid = targetUid
  withdrawn : trigger.isWithdrawn = true ↔ Withdrawn index count history
  seen : ∀ state, trigger.lastState = some state ↔ LastSeen index count history state
  first : trigger.firstValue = .oneStarts ↔
    firstValue = .oneStarts ∧ ∀ event ∈ history, ¬event.IsUpdate

namespace Reflects

variable {index count : ℕ} {targetUid : UInt32} {firstValue : FirstValue}
  {history : List TriggerEvent} {trigger : Trigger}

theorem nil : Reflects index count targetUid firstValue [] { targetUid, firstValue } where
  target := rfl
  withdrawn := iff_of_false Bool.false_ne_true not_withdrawn_nil
  seen _ := iff_of_false nofun not_lastSeen_nil
  first := ⟨fun first => ⟨first, nofun⟩, And.left⟩

/-- The request of a trigger at an event, in terms of its past. -/
theorem triggerStep_request
    (reflects : Reflects index count targetUid firstValue history trigger) {event : TriggerEvent}
    {isStart : Bool} :
    (triggerStep index count trigger event).2 = some isStart ↔
      ¬Withdrawn index count history ∧ event.stateFor index = some isStart ∧
        (LastSeen index count history (!isStart) ∨
          isStart = true ∧ (firstValue = .oneStarts ∧ ∀ event ∈ history, ¬event.IsUpdate) ∧
            ∀ state, ¬LastSeen index count history state) := by
  have nothing : trigger.lastState = none ↔ ∀ state, ¬LastSeen index count history state := by
    rw [Option.eq_none_iff_forall_ne_some]
    exact forall_congr' fun state => not_congr (reflects.seen state)
  rw [← reflects.withdrawn, ← reflects.seen, ← reflects.first, ← nothing]
  cases event with
  | configurationUpdated isSelectorKnown =>
    exact iff_of_false nofun fun request => nomatch request.2.1
  | value other value =>
    by_cases mine : other = index
    · rw [triggerStep, if_pos mine, TriggerEvent.stateFor, if_pos mine]
      by_cases withdrawn : trigger.isWithdrawn = true
      · rw [Trigger.onValue_of_withdrawn withdrawn]
        exact iff_of_false nofun fun request => request.1 withdrawn
      · cases reads : readState value with
        | none =>
          rw [Trigger.onValue_of_unreadable reads]
          exact iff_of_false nofun fun request => nomatch request.2.1
        | some state =>
          rw [(Trigger.onValue_of_readable withdrawn reads).2 isStart, Option.some.injEq]
          constructor
          · rintro ⟨rfl, last | ⟨one, nothing, first⟩⟩
            · exact ⟨withdrawn, rfl, .inl last⟩
            · exact ⟨withdrawn, rfl, .inr ⟨one, first, nothing⟩⟩
          · rintro ⟨-, rfl, last | ⟨one, first, nothing⟩⟩
            · exact ⟨rfl, .inl last⟩
            · exact ⟨rfl, .inr ⟨one, nothing, first⟩⟩
    · rw [triggerStep, if_neg mine, TriggerEvent.stateFor, if_neg mine]
      exact iff_of_false nofun fun request => nomatch request.2.1

/-- An event that the trigger does not read, and that says nothing of its selector. -/
private theorem unread (reflects : Reflects index count targetUid firstValue history trigger)
    {event : TriggerEvent} (value : ¬event.IsUpdate) (silent : event.answerFor index count = none)
    (ignored : Withdrawn index count history ∨ event.stateFor index = none) :
    Reflects index count targetUid firstValue (history ++ [event]) trigger := by
  have withdrawn : Withdrawn index count (history ++ [event]) ↔ Withdrawn index count history := by
    rw [withdrawn_concat, silent]
    simp
  refine ⟨reflects.target, reflects.withdrawn.trans withdrawn.symm, fun state => ?_, ?_⟩
  · rw [reflects.seen, lastSeen_concat, withdrawn]
    constructor
    · intro seen
      have unread := ignored.resolve_left seen.not_withdrawn
      exact ⟨seen.not_withdrawn, .inr ⟨unread, seen⟩⟩
    · rintro ⟨unwithdrawn, reads | ⟨-, seen⟩⟩
      · rw [ignored.resolve_left unwithdrawn] at reads
        cases reads
      · exact seen
  · rw [reflects.first]
    simp [or_imp, forall_and, value]

/-- A step keeps what the fields say. -/
theorem concat (reflects : Reflects index count targetUid firstValue history trigger)
    (event : TriggerEvent) :
    Reflects index count targetUid firstValue (history ++ [event])
      (triggerStep index count trigger event).1 := by
  -- A value moves the last state on if it is readable and the trigger not withdrawn; an update
  -- withdraws or restores it.
  cases event with
  | value other value =>
    by_cases mine : other = index
    · rw [triggerStep, if_pos mine]
      by_cases withdrawn : trigger.isWithdrawn = true
      · rw [Trigger.onValue_of_withdrawn withdrawn]
        exact reflects.unread not_false rfl (.inl (reflects.withdrawn.mp withdrawn))
      · cases reads : readState value with
        | none =>
          rw [Trigger.onValue_of_unreadable reads]
          exact reflects.unread not_false rfl (.inr ((if_pos mine).trans reads))
        | some read =>
          rw [(Trigger.onValue_of_readable withdrawn reads).1]
          have same : Withdrawn index count (history ++ [.value other value]) ↔
              Withdrawn index count history := by
            rw [withdrawn_concat, TriggerEvent.answerFor]
            simp
          refine ⟨reflects.target, reflects.withdrawn.trans same.symm, fun state => ?_, ?_⟩
          · rw [lastSeen_concat, same, ← reflects.withdrawn, TriggerEvent.stateFor, if_pos mine,
              reads]
            simp [withdrawn]
          · refine reflects.first.trans ?_
            simp [or_imp, forall_and, TriggerEvent.IsUpdate]
    · rw [triggerStep, if_neg mine]
      exact reflects.unread not_false rfl (.inr (if_neg mine))
  | configurationUpdated isSelectorKnown =>
    let answer := (LoggingTriggerSet.isKnown count isSelectorKnown).map (· index)
    have withdrawn : (trigger.onConfigurationUpdated answer).isWithdrawn = true ↔
        Withdrawn index count (history ++ [.configurationUpdated isSelectorKnown]) := by
      rw [withdrawn_concat, TriggerEvent.answerFor, Trigger.isWithdrawn_onConfigurationUpdated,
        reflects.withdrawn]
    refine ⟨Trigger.targetUid_onConfigurationUpdated.trans reflects.target, withdrawn,
      fun state => ?_, ?_⟩
    · show (trigger.onConfigurationUpdated answer).lastState = some state ↔ _
      rw [lastSeen_concat, ← withdrawn, Trigger.isWithdrawn_onConfigurationUpdated]
      by_cases withdraws : answer = some false ∧ ¬trigger.isWithdrawn = true
      · rw [Trigger.lastState_onConfigurationUpdated, if_pos withdraws]
        exact iff_of_false nofun fun seen => seen.1 (.inl withdraws.1)
      · rw [Trigger.lastState_onConfigurationUpdated, if_neg withdraws, reflects.seen]
        constructor
        · intro seen
          have unwithdrawn := seen.not_withdrawn
          rw [← reflects.withdrawn] at unwithdrawn
          refine ⟨?_, .inr ⟨rfl, seen⟩⟩
          rintro (gone | ⟨-, already⟩)
          · exact withdraws ⟨gone, unwithdrawn⟩
          · exact unwithdrawn already
        · rintro ⟨-, reads | ⟨-, seen⟩⟩
          · exact nomatch reads
          · exact seen
    · show (trigger.onConfigurationUpdated answer).firstValue = .oneStarts ↔ _
      rw [Trigger.onConfigurationUpdated_firstValue]
      exact iff_of_false nofun fun boot =>
        boot.2 _ (List.mem_append_right history List.mem_cons_self) trivial

end Reflects

/-! ### The set -/

namespace LoggingTriggerSet

variable {targets : List UInt32} {firstValue : FirstValue} {history : List TriggerEvent}
  {index : ℕ} {targetUid : UInt32} {triggers : List Trigger} {trigger : Trigger}

theorem length_step (event : TriggerEvent) : (step triggers event).1.length = triggers.length := by
  cases event with
  | configurationUpdated isSelectorKnown => exact List.length_mapIdx
  | value other value =>
    rw [step, onValue]
    cases triggers[other]? with
    | none => rfl
    | some trigger => exact List.length_set

/-- A step takes every trigger along. -/
theorem getElem?_step (there : triggers[index]? = some trigger) (event : TriggerEvent) :
    (step triggers event).1[index]? =
      some (triggerStep index triggers.length trigger event).1 := by
  cases event with
  | configurationUpdated isSelectorKnown =>
    rw [step, onConfigurationUpdated, List.getElem?_mapIdx, there]
    rfl
  | value other value =>
    rw [step, onValue, triggerStep]
    by_cases mine : other = index
    · rw [mine, there, if_pos rfl]
      have inside := (List.getElem?_eq_some_iff.mp there).1
      exact List.getElem?_set_self inside
    · rw [if_neg mine]
      cases triggers[other]? with
      | none => exact there
      | some _ => exact (List.getElem?_set_ne mine).trans there

/-- The request of a step, by its trigger. -/
theorem step_request (there : triggers[index]? = some trigger) {event : TriggerEvent}
    {isStart : Bool} :
    (step triggers event).2 = some ⟨index, trigger.targetUid, isStart⟩ ↔
      (triggerStep index triggers.length trigger event).2 = some isStart := by
  cases event with
  | configurationUpdated isSelectorKnown => exact iff_of_false nofun nofun
  | value other value =>
    rw [step, onValue, triggerStep]
    by_cases mine : other = index
    · rw [mine, there, if_pos rfl]
      simp
    · rw [if_neg mine]
      refine iff_of_false ?_ nofun
      cases triggers[other]? with
      | none => exact nofun
      | some _ =>
        rw [Option.map_eq_some_iff]
        rintro ⟨_, -, same⟩
        exact mine (congrArg ControlRequest.index same)

theorem after_concat (event : TriggerEvent) : after targets firstValue (history ++ [event]) =
    (step (after targets firstValue history) event).1 :=
  run_append ..

theorem length_after : (after targets firstValue history).length = targets.length := by
  refine run_invariant (I := fun triggers : List Trigger => triggers.length = targets.length)
    ?_ ?_ history
  · exact List.length_map _
  · exact fun triggers event same => (length_step event).trans same

/-- A trigger of the set, after any history. -/
theorem exists_reflects (firstValue : FirstValue) (there : targets[index]? = some targetUid)
    (history : List TriggerEvent) :
    ∃ trigger, (after targets firstValue history)[index]? = some trigger ∧
      Reflects index targets.length targetUid firstValue history trigger := by
  induction history using List.reverseRecOn with
  | nil =>
    refine ⟨{ targetUid, firstValue }, ?_, .nil⟩
    rw [after, run_nil, create, List.getElem?_map, there]
    rfl
  | append_singleton history event ih =>
    obtain ⟨trigger, there, reflects⟩ := ih
    refine ⟨_, ?_, reflects.concat event⟩
    rw [after_concat, getElem?_step there, length_after]

/-- A trigger requests a start or a stop where its past says so. -/
private theorem requestAt_iff (there : targets[index]? = some targetUid)
    (history : List TriggerEvent) (event : TriggerEvent) (isStart : Bool) :
    requestAt targets firstValue history event = some ⟨index, targetUid, isStart⟩ ↔
      ¬Withdrawn index targets.length history ∧ event.stateFor index = some isStart ∧
        (LastSeen index targets.length history (!isStart) ∨
          isStart = true ∧ (firstValue = .oneStarts ∧ ∀ event ∈ history, ¬event.IsUpdate) ∧
            ∀ state, ¬LastSeen index targets.length history state) := by
  obtain ⟨trigger, there, reflects⟩ := exists_reflects firstValue there history
  rw [requestAt, ← reflects.target, step_request there, length_after]
  exact reflects.triggerStep_request

/-- The last value seen stays what it is while nothing is requested and nothing withdrawn: a value
that differs from it would be an edge. -/
private theorem lastSeen_of_requestAt (there : targets[index]? = some targetUid)
    {first : TriggerEvent} {isStart : Bool}
    (request : requestAt targets firstValue history first = some ⟨index, targetUid, isStart⟩)
    {between : List TriggerEvent}
    (quiet : ∀ middle event, middle ++ [event] <+: between → ∀ other,
      requestAt targets firstValue (history ++ first :: middle) event ≠
        some ⟨index, targetUid, other⟩)
    (kept : ∀ middle, middle <+: between →
      ¬Withdrawn index targets.length (history ++ first :: middle)) :
    LastSeen index targets.length (history ++ first :: between) isStart := by
  induction between using List.reverseRecOn with
  | nil =>
    have reads := ((requestAt_iff there history first isStart).mp request).2.1
    exact lastSeen_concat.mpr ⟨kept [] (List.prefix_refl []), .inl reads⟩
  | append_singleton between event ih =>
    have inside := List.prefix_append between [event]
    have seen := ih (fun middle other isPrefix => quiet middle other (isPrefix.trans inside))
      (fun middle isPrefix => kept middle (isPrefix.trans inside))
    have unwithdrawn := kept (between ++ [event]) (List.prefix_refl _)
    have silent := quiet between event (List.prefix_refl _)
    rw [← List.cons_append, ← List.append_assoc] at unwithdrawn ⊢
    refine lastSeen_concat.mpr ⟨unwithdrawn, ?_⟩
    cases reads : event.stateFor index with
    | none => exact .inr ⟨rfl, seen⟩
    | some state =>
      by_cases same : state = isStart
      · exact .inl (congrArg some same)
      · refine absurd ?_ (silent state)
        have opposite : (!state) = isStart := by
          cases state <;> cases isStart <;> simp_all
        exact (requestAt_iff there _ event state).mpr
          ⟨seen.not_withdrawn, reads, .inl (opposite ▸ seen)⟩

/-- A trigger requests a start exactly at a readable 1 whose last readable value, since the trigger
last was withdrawn, is 0, or at boot is absent, and a stop exactly at a readable 0 after a 1. While
it is withdrawn it requests nothing. So its requests alternate unless it was withdrawn between them,
and after an update only a 1 that follows a 0 starts logging. -/
theorem requestAt_edges (there : targets[index]? = some targetUid) :
    (∀ history event,
      requestAt targets firstValue history event = some ⟨index, targetUid, true⟩ ↔
        ¬Withdrawn index targets.length history ∧ event.stateFor index = some true ∧
          (LastSeen index targets.length history false ∨
            (firstValue = .oneStarts ∧ ∀ event ∈ history, ¬event.IsUpdate) ∧
              ∀ state, ¬LastSeen index targets.length history state)) ∧
    (∀ history event,
      requestAt targets firstValue history event = some ⟨index, targetUid, false⟩ ↔
        ¬Withdrawn index targets.length history ∧ event.stateFor index = some false ∧
          LastSeen index targets.length history true) ∧
    (∀ history, Withdrawn index targets.length history → ∀ event isStart,
      requestAt targets firstValue history event ≠ some ⟨index, targetUid, isStart⟩) ∧
    (∀ history first between last isStart isStart',
      requestAt targets firstValue history first = some ⟨index, targetUid, isStart⟩ →
      requestAt targets firstValue (history ++ first :: between) last =
        some ⟨index, targetUid, isStart'⟩ →
      (∀ middle event, middle ++ [event] <+: between → ∀ other,
        requestAt targets firstValue (history ++ first :: middle) event ≠
          some ⟨index, targetUid, other⟩) →
      (∀ middle, middle <+: between →
        ¬Withdrawn index targets.length (history ++ first :: middle)) →
      isStart' = !isStart) ∧
    ∀ history event, (∃ update ∈ history, update.IsUpdate) →
      requestAt targets firstValue history event = some ⟨index, targetUid, true⟩ →
      LastSeen index targets.length history false := by
  refine ⟨fun history event => ?_, fun history event => ?_, ?_, ?_, ?_⟩
  · rw [requestAt_iff there]
    simp
  · rw [requestAt_iff there]
    simp
  · intro history withdrawn event isStart request
    exact ((requestAt_iff there history event isStart).mp request).1 withdrawn
  · intro history first between last isStart isStart' request request' quiet kept
    have seen := lastSeen_of_requestAt there request quiet kept
    obtain ⟨-, -, last' | ⟨-, -, nothing⟩⟩ := (requestAt_iff there _ last isStart').mp request'
    · -- There is one value that was seen last.
      obtain ⟨trigger, -, reflects⟩ :=
        exists_reflects firstValue there (history ++ first :: between)
      have same := (reflects.seen isStart).mpr seen
      rw [(reflects.seen (!isStart')).mpr last'] at same
      rw [← Option.some.inj same, Bool.not_not]
    · exact absurd seen (nothing isStart)
  · rintro history event ⟨update, member, isUpdate⟩ request
    obtain ⟨-, -, seen | ⟨-, boot, -⟩⟩ := (requestAt_iff there history event true).mp request
    · exact seen
    · exact absurd isUpdate (boot.2 update member)

/-- A switch that is on at boot starts logging, one that is on after an update does not. -/
theorem requestAt_edges_first_value :
    requestAt [7] .oneStarts [] (.value 0 (.flag true)) = some ⟨0, 7, true⟩ ∧
      requestAt [7] .oneStarts [.configurationUpdated none] (.value 0 (.flag true)) ≠
        some ⟨0, 7, true⟩ := by
  have there : [(7 : UInt32)][0]? = some 7 := rfl
  obtain ⟨starts, -, -, -, update⟩ := @requestAt_edges [7] .oneStarts 0 7 there
  constructor
  · exact (starts [] _).mpr
      ⟨not_withdrawn_nil, rfl, .inr ⟨⟨rfl, nofun⟩, fun _ => not_lastSeen_nil⟩⟩
  · intro request
    have seen : LastSeen 0 1 ([] ++ [.configurationUpdated none]) false :=
      update [.configurationUpdated none] _ ⟨_, List.mem_singleton_self _, trivial⟩ request
    rcases lastSeen_concat.mp seen with ⟨-, reads | ⟨-, seen⟩⟩
    · exact nomatch reads
    · exact not_lastSeen_nil seen

end LoggingTriggerSet

end RtCore.Logging
