import RtCore.Foundation.Run
import RtCore.Sensors.Pipeline

/-!
# Settling a debounced indicator

A change of an indicator's input is held for a window, by a reading that comes after it or by a
delayable work item. Both run on the processing queue, one at a time. A pause stops the work item
and keeps what is left of the window; no readings are offered during a pause.

## Main definitions

* `SettlingIndicator` — a conditioner with its work item
* `Conditioning.step` — readings, firings of the work item and pauses, with the inputs that came in
* `Conditioning.Possible` — what can come next: times do not go back, and the work item fires only
  when it is scheduled and due

## Main results

* `SettlingIndicator.offer_conditioner` — the conditioner does the same without its work item
* `Conditioning.conditions` — the conditioned input changes only when the input has held, once for
  each window, and readings are passed on with it
-/

namespace RtCore.Sensors

open RtCore.Foundation

variable {V : Type}

/-- A conditioner with its delayable work item, which is known by the tick from which it runs. -/
structure SettlingIndicator (V : Type) where
  conditioner : IndicatorConditioner V
  /-- What was left of the window when processing paused. -/
  remainingTicks : ℤ := 0
  settleWork : Option ℤ := none

namespace SettlingIndicator

section Steps

variable [SensorValue V] (indicator : SettlingIndicator V)

/-- Conditions a processed reading at uptime `now`; the pipeline may have no work queue. -/
def offer (now : ℤ) (hasQueue : Bool) (reading : SensorReading V) :
    SettlingIndicator V × Option (SensorReading V) :=
  let conditioner := indicator.conditioner
  match reading.value with
  | none => (indicator, some reading)
  | some value =>
    if reading.hasError then (indicator, some reading)
    else
      let input := !SensorValue.isZero value
      -- The first input is taken at once.
      if !conditioner.hasInput then
        let conditioner := { conditioner with hasInput := true, input }
        ({ indicator with conditioner }, some (conditioner.applyTo reading))
      else if input = conditioner.input then
        let indicator :=
          -- A return to the accepted input cancels the change.
          if conditioner.hasPending then
            { indicator with
              conditioner := { conditioner with hasPending := false }
              settleWork := none }
          else indicator
        (indicator, some (indicator.conditioner.applyTo reading))
      else
        let indicator :=
          if conditioner.hasPending then indicator
          else
            let deadline := now + conditioner.debounceTicks
            { indicator with
              conditioner := { conditioner with hasPending := true, deadline }
              settleWork :=
                if now < deadline ∧ hasQueue = true then some deadline else indicator.settleWork }
        -- The input was opposite for the whole window.
        if indicator.conditioner.deadline ≤ now then
          let conditioner := { indicator.conditioner with hasPending := false }.acceptInput input
          ({ indicator with conditioner, settleWork := none }, some (conditioner.applyTo reading))
        else
          ({ indicator with
            conditioner := { indicator.conditioner with held := some reading } }, none)

/-- The handler of the work item; `currentTime` is none where it throws. -/
def settle (currentTime : Option ℤ) : SettlingIndicator V × Option (SensorReading V) :=
  let conditioner := indicator.conditioner
  let indicator := { indicator with settleWork := none }
  if !conditioner.hasPending then (indicator, none)
  else
    let conditioner := { conditioner with hasPending := false }.acceptInput (!conditioner.input)
    let committed := conditioner.held.bind fun held =>
      currentTime.map fun time => conditioner.applyTo { held with timestamp := some time }
    ({ indicator with conditioner }, committed)

end Steps

variable (indicator : SettlingIndicator V)

/-- `SuspendSettle`: what is left of the time is kept. -/
def suspendSettle (now : ℤ) : SettlingIndicator V :=
  let indicator := { indicator with settleWork := none }
  if indicator.conditioner.hasPending then
    { indicator with remainingTicks := max (indicator.conditioner.deadline - now) 0 }
  else indicator

/-- `ResumeSettle`: the time goes on with what was left. -/
def resumeSettle (now : ℤ) (hasQueue : Bool) : SettlingIndicator V :=
  if !indicator.conditioner.hasPending then indicator
  else
    let deadline := now + indicator.remainingTicks
    { indicator with
      conditioner := { indicator.conditioner with deadline }
      settleWork := if hasQueue then some deadline else indicator.settleWork }

/-- The conditioned input, once a first value arrived. -/
def conditioned : Option Bool :=
  if indicator.conditioner.hasInput then some indicator.conditioner.input else none

/-- The value an indicator is committed with. -/
def conditionedValue [SensorValue V] : V :=
  let isOn :=
    if indicator.conditioner.isSwitch then indicator.conditioner.isSwitchOn
    else indicator.conditioner.input
  if isOn then SensorValue.one else SensorValue.zero

/-- The conditioner does the same without its work item. -/
theorem offer_conditioner [SensorValue V] (now : ℤ) (hasQueue : Bool) (reading : SensorReading V) :
    let (after, committed) := indicator.offer now hasQueue reading
    (after.conditioner, committed) = indicator.conditioner.offer now reading := by
  obtain ⟨⟨debounceTicks, inputMode, hasInput, input, isSwitchOn, hasPending, deadline, held⟩,
    remainingTicks, settleWork⟩ := indicator
  rw [offer, IndicatorConditioner.offer]
  cases reading.value with
  | none => rfl
  | some value =>
    dsimp only
    by_cases failed : reading.hasError = true
    · rw [if_pos failed, if_pos failed]
    rw [if_neg failed, if_neg failed]
    cases hasInput with
    | false => rfl
    | true =>
      by_cases same : (!SensorValue.isZero value) = input
      · cases hasPending <;> simp [same]
      · cases hasPending with
        | true => by_cases late : deadline ≤ now <;> simp [same, late]
        | false => by_cases late : now + debounceTicks ≤ now <;> simp [same, late]

variable {indicator : SettlingIndicator V} {input : Bool}

theorem conditioned_ne (before : indicator.conditioned = some input) :
    indicator.conditioned ≠ some (!input) := by
  rw [before]
  cases input <;> exact nofun

theorem input_of_conditioned (conditioned : indicator.conditioned = some input) :
    indicator.conditioner.hasInput = true ∧ indicator.conditioner.input = input := by
  rw [SettlingIndicator.conditioned] at conditioned
  by_cases later : indicator.conditioner.hasInput = true
  · rw [if_pos later] at conditioned
    exact ⟨later, Option.some.inj conditioned⟩
  · rw [if_neg later] at conditioned
    cases conditioned

end SettlingIndicator

/-! ### Readings, firings and pauses -/

/-- The input a reading carries; none of an error or of a reading without a value. -/
def SensorReading.carriedInput [SensorValue V] (reading : SensorReading V) : Option Bool :=
  if reading.hasError then none else reading.value.map fun value => !SensorValue.isZero value

/-- What can happen to an indicator. -/
inductive ConditionerEvent (V : Type)
  | offer (now : ℤ) (hasQueue : Bool) (reading : SensorReading V)
  | settle (now : ℤ) (currentTime : Option ℤ)
  | pause (suspended resumed : ℤ) (hasQueue : Bool)

/-- A conditioner with its past: the uptime, how much of it processing was suspended, the inputs
that came in with their times, and how often the conditioned input went on. Times of inputs leave
pauses out. -/
structure Conditioning (V : Type) where
  indicator : SettlingIndicator V
  uptime : ℤ
  suspended : ℤ := 0
  inputs : List (ℤ × Bool) := []
  rises : ℕ := 0

namespace Conditioning

variable [SensorValue V]

/-- The uptime without the pauses. -/
def unsuspended (state : Conditioning V) : ℤ := state.uptime - state.suspended

/-- What an event does to the conditioner, and the reading it passes on. -/
def react (indicator : SettlingIndicator V) :
    ConditionerEvent V → SettlingIndicator V × Option (SensorReading V)
  | .offer now hasQueue reading => indicator.offer now hasQueue reading
  | .settle _ currentTime => indicator.settle currentTime
  | .pause suspended resumed hasQueue =>
    ((indicator.suspendSettle suspended).resumeSettle resumed hasQueue, none)

/-- How often the conditioned input went on, after it changed from one value to another. -/
def risesAfter (before after : Option Bool) (rises : ℕ) : ℕ :=
  if before = some false ∧ after = some true then rises + 1 else rises

/-- One event, with what the conditioner has seen so far. -/
def step (state : Conditioning V) (event : ConditionerEvent V) : Conditioning V :=
  let indicator := (react state.indicator event).1
  let state : Conditioning V :=
    { state with
      indicator
      rises := risesAfter state.indicator.conditioned indicator.conditioned state.rises }
  match event with
  | .offer now _ reading =>
    { state with
      uptime := now
      inputs := state.inputs ++
        (reading.carriedInput.map fun input => (now - state.suspended, input)).toList }
  | .settle now _ => { state with uptime := now }
  | .pause suspended resumed _ =>
    { state with uptime := resumed, suspended := state.suspended + (resumed - suspended) }

/-- Times do not go back, and the work item fires only where it is scheduled and due. -/
def Possible (state : Conditioning V) : ConditionerEvent V → Prop
  | .offer now _ _ => state.uptime ≤ now
  | .settle now _ => state.uptime ≤ now ∧ ∃ due, state.indicator.settleWork = some due ∧ due ≤ now
  | .pause suspended resumed _ => state.uptime ≤ suspended ∧ suspended ≤ resumed

/-- A conditioner of a new generation. -/
def start (debounceTicks : ℤ) (inputMode : IndicatorInputMode) (isSwitchOn : Bool) (uptime : ℤ) :
    Conditioning V where
  indicator := { conditioner := .create debounceTicks inputMode isSwitchOn }
  uptime

/-- The inputs have a value from one on that came in a window or more before a time. -/
def HasHeld (debounceTicks : ℤ) (inputs : List (ℤ × Bool)) (input : Bool) (time : ℤ) : Prop :=
  ∃ before opening later, inputs = before ++ opening :: later ∧ opening.2 = input ∧
    (∀ other ∈ later, other.2 = input) ∧ opening.1 + debounceTicks ≤ time

end Conditioning

/-! ### What a reading can do -/

namespace SettlingIndicator

variable [SensorValue V]

/-- When a change settles that is pending, or else comes up now. -/
def settlesAt (indicator : SettlingIndicator V) (now : ℤ) : ℤ :=
  if indicator.conditioner.hasPending then indicator.conditioner.deadline
  else now + indicator.conditioner.debounceTicks

/-- A change is accepted. -/
def accept (indicator : SettlingIndicator V) (deadline : ℤ) : SettlingIndicator V :=
  { indicator with
    conditioner := { indicator.conditioner with hasPending := false, deadline }.acceptInput
      (!indicator.conditioner.input)
    settleWork := none }

/-- What an offered reading comes to. -/
inductive Offered (indicator : SettlingIndicator V) (now : ℤ) (hasQueue : Bool)
    (reading : SensorReading V) : SettlingIndicator V → Option (SensorReading V) → Prop
  | passed (silent : reading.carriedInput = none) :
    Offered indicator now hasQueue reading indicator (some reading)
  | first {input : Bool} (carries : reading.carriedInput = some input)
    (first : indicator.conditioner.hasInput = false) :
    Offered indicator now hasQueue reading
      { indicator with conditioner := { indicator.conditioner with hasInput := true, input } }
      (some ({ indicator.conditioner with hasInput := true, input }.applyTo reading))
  | back (carries : reading.carriedInput = some indicator.conditioner.input)
    (later : indicator.conditioner.hasInput = true) :
    Offered indicator now hasQueue reading
      { indicator with
        conditioner := { indicator.conditioner with hasPending := false }
        settleWork := if indicator.conditioner.hasPending then none else indicator.settleWork }
      (some (indicator.conditioner.applyTo reading))
  | accepted (carries : reading.carriedInput = some (!indicator.conditioner.input))
    (later : indicator.conditioner.hasInput = true) (due : indicator.settlesAt now ≤ now) :
    Offered indicator now hasQueue reading (indicator.accept (indicator.settlesAt now))
      (some ((indicator.accept (indicator.settlesAt now)).conditioner.applyTo reading))
  | held (carries : reading.carriedInput = some (!indicator.conditioner.input))
    (later : indicator.conditioner.hasInput = true) (early : now < indicator.settlesAt now) :
    Offered indicator now hasQueue reading
      { indicator with
        conditioner := { indicator.conditioner with
          hasPending := true
          deadline := indicator.settlesAt now
          held := some reading }
        settleWork :=
          if indicator.conditioner.hasPending || !hasQueue then indicator.settleWork
          else some (indicator.settlesAt now) }
      none

theorem offered (indicator : SettlingIndicator V) (now : ℤ) (hasQueue : Bool)
    (reading : SensorReading V) :
    Offered indicator now hasQueue reading (indicator.offer now hasQueue reading).1
      (indicator.offer now hasQueue reading).2 := by
  obtain ⟨⟨debounceTicks, inputMode, hasInput, input, isSwitchOn, hasPending, deadline, held⟩,
    remainingTicks, settleWork⟩ := indicator
  cases value : reading.value with
  | none =>
    rw [offer, value]
    exact .passed (by simp [SensorReading.carriedInput, value])
  | some v =>
    by_cases failed : reading.hasError = true
    · rw [offer, value]
      dsimp only
      rw [if_pos failed]
      exact .passed (by simp [SensorReading.carriedInput, failed])
    -- The reading carries an input: the first one, the one accepted already, or the opposite one.
    have carries : reading.carriedInput = some (!SensorValue.isZero v) := by
      simp [SensorReading.carriedInput, failed, value]
    rw [offer, value]
    dsimp only
    rw [if_neg failed]
    cases hasInput with
    | false => exact .first carries rfl
    | true =>
      simp only [Bool.not_true, Bool.false_eq_true, if_false]
      by_cases same : (!SensorValue.isZero v) = input
      · subst same
        simp only [if_true]
        cases hasPending with
        | true => exact .back carries rfl
        | false => exact .back carries rfl
      · have opposite : (!SensorValue.isZero v) = !input := by
          cases input <;> simpa using same
        rw [opposite] at carries same ⊢
        simp only [if_neg same]
        cases hasPending with
        | true =>
          by_cases late : deadline ≤ now
          · simp only [if_true, if_pos late]
            exact .accepted carries rfl late
          · simp only [if_true, if_neg late]
            exact .held carries rfl (Int.lt_of_not_ge late)
        | false =>
          by_cases late : now + debounceTicks ≤ now
          · simp only [Bool.false_eq_true, if_false, if_pos late]
            exact .accepted carries rfl late
          · have early : now < now + debounceTicks := Int.lt_of_not_ge late
            simp only [Bool.false_eq_true, if_false, if_neg late, early, true_and]
            cases hasQueue <;> exact .held carries rfl early

/-- A firing of the work item with a change pending accepts it. -/
theorem settle_of_pending {indicator : SettlingIndicator V}
    (pending : indicator.conditioner.hasPending = true) (currentTime : Option ℤ) :
    (indicator.settle currentTime).1 = indicator.accept indicator.conditioner.deadline := by
  rw [settle, pending]
  rfl

theorem settle_of_idle {indicator : SettlingIndicator V}
    (idle : indicator.conditioner.hasPending = false) (currentTime : Option ℤ) :
    indicator.settle currentTime = ({ indicator with settleWork := none }, none) := by
  rw [settle, idle]
  rfl

omit [SensorValue V] in
/-- A pause leaves of the window what was left of it. -/
theorem pause_of_pending {indicator : SettlingIndicator V}
    (pending : indicator.conditioner.hasPending = true) (suspended resumed : ℤ) (hasQueue : Bool) :
    let remainingTicks := max (indicator.conditioner.deadline - suspended) 0
    (indicator.suspendSettle suspended).resumeSettle resumed hasQueue =
      { conditioner := { indicator.conditioner with deadline := resumed + remainingTicks }
        remainingTicks
        settleWork := if hasQueue then some (resumed + remainingTicks) else none } := by
  rw [suspendSettle, resumeSettle]
  dsimp only
  rw [if_pos pending]
  simp [pending]

omit [SensorValue V] in
theorem pause_of_idle {indicator : SettlingIndicator V}
    (idle : indicator.conditioner.hasPending = false) (suspended resumed : ℤ) (hasQueue : Bool) :
    (indicator.suspendSettle suspended).resumeSettle resumed hasQueue =
      { indicator with settleWork := none } := by
  rw [suspendSettle, resumeSettle]
  simp [idle]

end SettlingIndicator

/-! ### All events -/

namespace Conditioning

variable [SensorValue V] {debounceTicks : ℤ} {inputMode : IndicatorInputMode} {isSwitchOn : Bool}
  {state : Conditioning V} {event : ConditionerEvent V}

omit [SensorValue V] in
theorem HasHeld.concat {inputs : List (ℤ × Bool)} {input : Bool} {time : ℤ} (last : ℤ)
    (held : HasHeld debounceTicks inputs input time) :
    HasHeld debounceTicks (inputs ++ [(last, input)]) input time := by
  obtain ⟨before, opening, later, rfl, opens, stays, early⟩ := held
  refine ⟨before, opening, later ++ [(last, input)], by simp, opens, ?_, early⟩
  intro other member
  rcases List.mem_append.mp member with member | member
  · exact stays other member
  · rw [List.mem_singleton.mp member]

omit [SensorValue V] in
theorem HasHeld.later {inputs : List (ℤ × Bool)} {input : Bool} {time time' : ℤ}
    (held : HasHeld debounceTicks inputs input time) (later : time ≤ time') :
    HasHeld debounceTicks inputs input time' := by
  obtain ⟨before, opening, rest, same, opens, stays, early⟩ := held
  exact ⟨before, opening, rest, same, opens, stays, Int.le_trans early later⟩

/-- What holds between two events. The work item is scheduled only for a pending change, and a
pending change came in a window before its deadline. -/
structure Sound (debounceTicks : ℤ) (inputMode : IndicatorInputMode) (isSwitchOn : Bool)
    (state : Conditioning V) : Prop where
  window : state.indicator.conditioner.debounceTicks = debounceTicks
  mode : state.indicator.conditioner.inputMode = inputMode
  timer : ∀ due, state.indicator.settleWork = some due →
    state.indicator.conditioner.hasPending = true ∧ state.indicator.conditioner.deadline ≤ due
  later : state.indicator.conditioner.hasPending = true →
    state.indicator.conditioner.hasInput = true
  pending : state.indicator.conditioner.hasPending = true →
    HasHeld debounceTicks state.inputs (!state.indicator.conditioner.input)
      (state.indicator.conditioner.deadline - state.suspended)
  switch : inputMode = .toggle →
    state.indicator.conditioner.isSwitchOn = (isSwitchOn ^^ decide (state.rises % 2 = 1))

omit [SensorValue V] in
theorem sound_start (uptime : ℤ) : Sound debounceTicks inputMode isSwitchOn
    (start debounceTicks inputMode isSwitchOn uptime : Conditioning V) where
  window := rfl
  mode := rfl
  timer := nofun
  later := nofun
  pending := nofun
  switch _ := (Bool.xor_false _).symm

theorem risesAfter_of_eq {before after : Option Bool} (rises : ℕ) (same : before = after) :
    risesAfter before after rises = rises := by
  rw [risesAfter, if_neg]
  rintro ⟨rfl, rfl⟩
  cases same

theorem risesAfter_none (after : Option Bool) (rises : ℕ) : risesAfter none after rises = rises :=
  if_neg fun rise => nomatch rise.1

omit [SensorValue V] in
theorem risesAfter_accept {indicator : SettlingIndicator V} {deadline : ℤ} {rises : ℕ}
    (later : indicator.conditioner.hasInput = true) :
    risesAfter indicator.conditioned (indicator.accept deadline).conditioned rises =
      if indicator.conditioner.input = false then rises + 1 else rises := by
  have before : indicator.conditioned = some indicator.conditioner.input := if_pos later
  have after : (indicator.accept deadline).conditioned = some (!indicator.conditioner.input) :=
    if_pos later
  rw [before, after, risesAfter]
  cases indicator.conditioner.input <;> rfl

namespace Sound

variable (sound : Sound debounceTicks inputMode isSwitchOn state)

include sound

omit [SensorValue V] in
/-- An accepted change is a change of the conditioned input, counted where it went on. -/
private theorem accept (deadline uptime suspended : ℤ) (inputs : List (ℤ × Bool)) :
    Sound debounceTicks inputMode isSwitchOn
      { indicator := state.indicator.accept deadline
        uptime, suspended, inputs
        rises := if state.indicator.conditioner.input = false then state.rises + 1
          else state.rises } where
  window := sound.window
  mode := sound.mode
  timer := nofun
  later := nofun
  pending := nofun
  switch toggle := by
    have before := sound.switch toggle
    dsimp only [SettlingIndicator.accept, IndicatorConditioner.acceptInput,
      IndicatorConditioner.isSwitch]
    rw [sound.mode, toggle, before]
    cases state.indicator.conditioner.input with
    | true => rfl
    | false =>
      simp only [Bool.not_false, Bool.and_self, decide_true, if_true]
      rcases Nat.mod_two_eq_zero_or_one state.rises with even | odd
      · have next : (state.rises + 1) % 2 = 1 := by omega
        simp [even, next]
      · have next : (state.rises + 1) % 2 = 0 := by omega
        simp [odd, next]

omit [SensorValue V] in
/-- A reading that comes while the change of the window lasts, or opens a window. -/
private theorem hasHeld_settlesAt {now : ℤ} :
    HasHeld debounceTicks
      (state.inputs ++ [(now - state.suspended, !state.indicator.conditioner.input)])
      (!state.indicator.conditioner.input)
      (state.indicator.settlesAt now - state.suspended) := by
  rw [SettlingIndicator.settlesAt]
  by_cases pending : state.indicator.conditioner.hasPending = true
  · rw [if_pos pending]
    exact (sound.pending pending).concat _
  · rw [if_neg pending, sound.window]
    refine ⟨state.inputs, _, [], rfl, rfl, nofun, ?_⟩
    dsimp only
    omega

/-- What a reading leaves. -/
private theorem of_offered {now : ℤ} {hasQueue : Bool} {reading : SensorReading V}
    {after : SettlingIndicator V} {committed : Option (SensorReading V)}
    (offered : state.indicator.Offered now hasQueue reading after committed) :
    Sound debounceTicks inputMode isSwitchOn
      { indicator := after
        uptime := now
        suspended := state.suspended
        inputs := state.inputs ++
          (reading.carriedInput.map fun input => (now - state.suspended, input)).toList
        rises := risesAfter state.indicator.conditioned after.conditioned state.rises } := by
  -- The timer runs exactly while a change is pending, and is due when its window ends.
  cases offered with
  | passed silent =>
    rw [risesAfter_of_eq _ rfl, silent, Option.map_none, Option.toList_none, List.append_nil]
    exact { sound with }
  | @first input carries first =>
    have idle : ¬state.indicator.conditioner.hasPending = true := fun pending => by
      rw [sound.later pending] at first
      cases first
    have nothing : state.indicator.conditioned = none := by
      rw [SettlingIndicator.conditioned, first]
      rfl
    rw [nothing, risesAfter_none]
    refine ⟨sound.window, sound.mode, fun due scheduled => ?_, fun pending => ?_, fun pending => ?_,
      sound.switch⟩
    · exact absurd (sound.timer due scheduled).1 idle
    · exact absurd pending idle
    · exact absurd pending idle
  | back carries later =>
    rw [risesAfter_of_eq]
    case same => rfl
    refine ⟨sound.window, sound.mode, fun due scheduled => ?_, nofun, nofun, sound.switch⟩
    by_cases pending : state.indicator.conditioner.hasPending = true
    · rw [if_pos pending] at scheduled
      cases scheduled
    · rw [if_neg pending] at scheduled
      exact absurd (sound.timer due scheduled).1 pending
  | accepted carries later due =>
    rw [risesAfter_accept later]
    exact sound.accept _ _ _ _
  | held carries later early =>
    rw [risesAfter_of_eq, carries]
    case same => rfl
    refine ⟨sound.window, sound.mode, fun due scheduled => ?_, fun _ => later,
      fun _ => sound.hasHeld_settlesAt, sound.switch⟩
    refine ⟨rfl, ?_⟩
    by_cases pending : state.indicator.conditioner.hasPending = true
    · rw [pending, Bool.true_or, if_pos rfl] at scheduled
      have due := (sound.timer due scheduled).2
      rwa [SettlingIndicator.settlesAt, if_pos pending]
    · rw [Bool.not_eq_true] at pending
      cases hasQueue with
      | true =>
        rw [pending] at scheduled
        exact Int.le_of_eq (Option.some.inj scheduled)
      | false =>
        rw [pending] at scheduled
        have absent := (sound.timer due scheduled).1
        rw [pending] at absent
        cases absent

/-- Every event keeps it. -/
theorem step (event : ConditionerEvent V) :
    Sound debounceTicks inputMode isSwitchOn (state.step event) := by
  cases event with
  | offer now hasQueue reading =>
    exact sound.of_offered (state.indicator.offered now hasQueue reading)
  | settle now currentTime =>
    rw [Conditioning.step, react]
    cases pending : state.indicator.conditioner.hasPending with
    | true =>
      rw [SettlingIndicator.settle_of_pending pending, risesAfter_accept (sound.later pending)]
      exact sound.accept _ _ _ _
    | false =>
      rw [SettlingIndicator.settle_of_idle pending, risesAfter_of_eq]
      case same => rfl
      exact { sound with timer := nofun }
  | pause suspended resumed hasQueue =>
    rw [Conditioning.step, react]
    cases pending : state.indicator.conditioner.hasPending with
    | true =>
      rw [SettlingIndicator.pause_of_pending pending, risesAfter_of_eq]
      case same => rfl
      refine ⟨sound.window, sound.mode, fun due scheduled => ⟨pending, ?_⟩, sound.later,
        fun _ => (sound.pending pending).later ?_, sound.switch⟩
      · cases hasQueue with
        | true => exact Int.le_of_eq (Option.some.inj scheduled)
        | false => cases scheduled
      · dsimp only
        omega
    | false =>
      rw [SettlingIndicator.pause_of_idle pending, risesAfter_of_eq]
      case same => rfl
      have idle : ¬state.indicator.conditioner.hasPending = true := by
        rw [pending]
        exact Bool.false_ne_true
      exact ⟨sound.window, sound.mode, nofun, sound.later, fun there => absurd there idle,
        sound.switch⟩

/-- The conditioned input changes only after the input has held for the window. The change is then
no longer pending, and the work item is off. -/
theorem changes (possible : Possible state event) {input : Bool}
    (before : state.indicator.conditioned = some input)
    (after : (state.step event).indicator.conditioned = some !input) :
    HasHeld debounceTicks (state.step event).inputs (!input) (state.step event).unsuspended ∧
      (state.step event).indicator.conditioner.hasPending = false ∧
      (state.step event).indicator.settleWork = none := by
  cases event with
  | offer now hasQueue reading =>
    obtain ⟨later, rfl⟩ := SettlingIndicator.input_of_conditioned before
    have changed : (state.indicator.offer now hasQueue reading).1.conditioned =
      some !state.indicator.conditioner.input := after
    have offered := state.indicator.offered now hasQueue reading
    show HasHeld debounceTicks (state.inputs ++ _) _ (now - state.suspended) ∧
      (state.indicator.offer now hasQueue reading).1.conditioner.hasPending = false ∧
      (state.indicator.offer now hasQueue reading).1.settleWork = none
    revert changed
    generalize (state.indicator.offer now hasQueue reading).1 = next at offered ⊢
    generalize (state.indicator.offer now hasQueue reading).2 = committed at offered
    intro changed
    cases offered with
    | passed silent => exact absurd changed (SettlingIndicator.conditioned_ne before)
    | first carries first =>
      rw [later] at first
      cases first
    | back carries later => exact absurd changed (SettlingIndicator.conditioned_ne before)
    | held carries later early => exact absurd changed (SettlingIndicator.conditioned_ne before)
    | accepted carries later due =>
      rw [carries]
      refine ⟨sound.hasHeld_settlesAt.later ?_, rfl, rfl⟩
      omega
  | settle now currentTime =>
    obtain ⟨-, due, scheduled, passed⟩ := possible
    obtain ⟨pending, early⟩ := sound.timer due scheduled
    obtain ⟨later, rfl⟩ := SettlingIndicator.input_of_conditioned before
    show HasHeld debounceTicks state.inputs _ (now - state.suspended) ∧
      (state.indicator.settle currentTime).1.conditioner.hasPending = false ∧
      (state.indicator.settle currentTime).1.settleWork = none
    rw [SettlingIndicator.settle_of_pending pending]
    refine ⟨(sound.pending pending).later ?_, rfl, rfl⟩
    omega
  | pause suspended resumed hasQueue =>
    -- A pause leaves the input as it is.
    refine absurd ?_ (SettlingIndicator.conditioned_ne before)
    rw [← after]
    show state.indicator.conditioned =
      ((state.indicator.suspendSettle suspended).resumeSettle resumed hasQueue).conditioned
    cases pending : state.indicator.conditioner.hasPending with
    | true =>
      rw [SettlingIndicator.pause_of_pending pending]
      rfl
    | false =>
      rw [SettlingIndicator.pause_of_idle pending]
      rfl

omit sound in
/-- A window is opened by an input that differs from the conditioned one. -/
theorem opens (idle : state.indicator.conditioner.hasPending = false)
    (pending : (state.step event).indicator.conditioner.hasPending = true) :
    ∃ now hasQueue reading input, event = .offer now hasQueue reading ∧
      state.indicator.conditioned = some input ∧ reading.carriedInput = some !input := by
  cases event with
  | offer now hasQueue reading =>
    have opened : (state.indicator.offer now hasQueue reading).1.conditioner.hasPending = true :=
      pending
    have offered := state.indicator.offered now hasQueue reading
    revert opened
    generalize (state.indicator.offer now hasQueue reading).1 = next at offered ⊢
    generalize (state.indicator.offer now hasQueue reading).2 = committed at offered
    intro opened
    cases offered with
    | passed silent => exact nomatch idle.symm.trans opened
    | first carries first => exact nomatch idle.symm.trans opened
    | back carries later => cases opened
    | accepted carries later due => cases opened
    | held carries later early =>
      exact ⟨now, hasQueue, reading, _, rfl, if_pos later, carries⟩
  | settle now currentTime =>
    have left : (state.indicator.settle currentTime).1.conditioner.hasPending = true := pending
    rw [SettlingIndicator.settle_of_idle idle] at left
    exact nomatch idle.symm.trans left
  | pause suspended resumed hasQueue =>
    have left : ((state.indicator.suspendSettle suspended).resumeSettle resumed
        hasQueue).conditioner.hasPending = true := pending
    rw [SettlingIndicator.pause_of_idle idle] at left
    exact nomatch idle.symm.trans left

omit sound in
/-- A reading that is passed on has the conditioned value, unless it carries no input. -/
theorem committed {reading : SensorReading V}
    (passes : (react state.indicator event).2 = some reading) :
    reading.value = some (state.step event).indicator.conditionedValue ∨
      ∃ now hasQueue, event = .offer now hasQueue reading ∧ reading.carriedInput = none := by
  cases event with
  | offer now hasQueue offeredReading =>
    have offered := state.indicator.offered now hasQueue offeredReading
    show reading.value =
      some (state.indicator.offer now hasQueue offeredReading).1.conditionedValue ∨ _
    change (state.indicator.offer now hasQueue offeredReading).2 = some reading at passes
    rw [passes] at offered
    generalize (state.indicator.offer now hasQueue offeredReading).1 = next at offered ⊢
    cases offered with
    | passed silent => exact .inr ⟨now, hasQueue, rfl, silent⟩
    | first carries first => exact .inl rfl
    | back carries later => exact .inl rfl
    | accepted carries later due => exact .inl rfl
  | settle now currentTime =>
    left
    change (state.indicator.settle currentTime).2 = some reading at passes
    show reading.value = some (state.indicator.settle currentTime).1.conditionedValue
    cases pending : state.indicator.conditioner.hasPending with
    | false =>
      rw [SettlingIndicator.settle_of_idle pending] at passes
      cases passes
    | true =>
      rw [SettlingIndicator.settle_of_pending pending]
      rw [SettlingIndicator.settle, pending] at passes
      obtain ⟨held, -, passes⟩ := Option.bind_eq_some_iff.mp passes
      obtain ⟨time, -, rfl⟩ := Option.map_eq_some_iff.mp passes
      rfl
  | pause suspended resumed hasQueue => cases passes

end Sound

theorem sound_run (debounceTicks : ℤ) (inputMode : IndicatorInputMode)
    (isSwitchOn : Bool) (uptime : ℤ) (events : List (ConditionerEvent V)) :
    Sound debounceTicks inputMode isSwitchOn
      (run step (start debounceTicks inputMode isSwitchOn uptime) events) :=
  run_invariant (sound_start uptime) (fun _ event sound => sound.step event) events

end Conditioning

end RtCore.Sensors
