import RtCore.Foundation.Run
import Mathlib.Algebra.Group.Nat.Defs

/-!
# Image confirmation

An image that boots for the first time runs under a watchdog until it proves healthy: the boot is
reported complete before a deadline, and a delay later, on a tick that finds every probe to have
run, the image confirms itself. Ticks run on a work queue and the report on the main thread, so
either may stand between any two accesses of the other; the clock is read as 32 bits of
milliseconds, which wrap.

A step of the model is one access to the shared state. Beside what the code keeps, the state
remembers the clock behind each 32-bit time and what the current tick has found.

## Main definitions

* `TickStep`, `ReportStep` — where `Tick` and `ReportBootComplete` are
* `checkAndRearmProbes` — the judgement of the probes
* `ImageConfirmation.step` — one step of anybody
-/

namespace RtCore.Dfu

open RtCore.Foundation

/-- The confirmation state of the running image. -/
inductive DfuState
  | confirmed
  | verifying
  | confirming
  | failed
deriving DecidableEq, Repr

/-- How a unit confirms its image. -/
structure ImageConfirmationConfig where
  /-- False leaves the confirmation to a client. -/
  selfConfirm : Bool := true
  bootDeadlineMs : UInt32 := 60000
  confirmDelayMs : UInt32 := 20000
  watchdogTimeoutMs : UInt32 := 8000

/-- How long a posted probe may wait. -/
def ImageConfirmationConfig.allowedMs (config : ImageConfirmationConfig) : UInt32 :=
  config.watchdogTimeoutMs / 2

/-- `NowMs` of a clock. -/
def nowMs (clock : ℕ) : UInt32 := UInt32.ofNat clock

/-- The difference is not negative as a signed number. -/
def isReached (now limit : UInt32) : Bool := (now - limit).toNat < 2 ^ 31

/-- A probe: when it was last posted and whether it has run since. -/
structure ProbeEntry where
  armed : Bool := false
  armedAtMs : UInt32 := 0
  /-- The probe ran on its queue since it was last posted. -/
  hasRun : Bool := false
  /-- The clock reading behind `armedAtMs`. -/
  armedAt : ℕ := 0
  /-- When the probe was last posted, and by which tick. -/
  postedAt : ℕ := 0
  postedIn : ℕ := 0
deriving DecidableEq, Repr

/-- A probe is posted. -/
def ProbeEntry.arm (entry : ProbeEntry) (now : UInt32) (reading clock tick : ℕ) : ProbeEntry :=
  { entry with
    armed := true
    armedAtMs := now
    hasRun := false
    armedAt := reading
    postedAt := clock
    postedIn := tick }

/-- The probe ran since it was posted. -/
def ProbeEntry.check (entry : ProbeEntry) : Bool := entry.armed && entry.hasRun

/-- What a tick does next, with what it has read. -/
inductive TickStep
  | idle
  | isConfirmed (state : DfuState)
  | standDown
  | readClock (state : DfuState)
  | exchange (now : UInt32)
  | loadForProbes (now : UInt32)
  | checkProbes (now : UInt32)
  | fail
  | feed (now : UInt32) (allRan : Bool)
  | loadForConfirm (now : UInt32) (allRan : Bool)
  | loadConfirmAt (now : UInt32) (allRan : Bool)
  | confirm
  | loadArmed
  | feedToDisable
  | disable
  | storeDisarmed
deriving DecidableEq, Repr

/-- What `ReportBootComplete` does next. -/
inductive ReportStep
  | idle
  | readClock
  | exchangeFailed
  | storeConfirmAt (now : UInt32)
  | exchangeConfirming
deriving DecidableEq, Repr

/-- The tick that runs, or ran last. -/
structure TickRecord where
  number : ℕ := 0
  beganIn : DfuState := .verifying
  beganAt : ℕ := 0
  /-- The clock it read. -/
  reading : ℕ := 0
  /-- Which of the probes registered when it came to them it found to have run since they were
  posted: none if it did not look. -/
  found : List Bool := []
deriving DecidableEq, Repr

/-- `ImageConfirmation`, the bootloader's mark and what is kept to say when a tick confirms. -/
structure ImageConfirmation where
  clock : ℕ
  state : DfuState
  deadlineMs : UInt32
  confirmAtMs : UInt32 := 0
  isWatchdogArmed : Bool
  probes : List ProbeEntry := []
  tickStep : TickStep := .idle
  reportStep : ReportStep := .idle
  /-- What the bootloader says of the image, and who confirmed it. -/
  isImageConfirmed : Bool := false
  clientConfirmed : Bool := false
  selfConfirmed : Bool := false
  /-- The deadline on the clock. -/
  deadline : ℕ
  tick : TickRecord := {}
  /-- The clock that the report in progress read. -/
  reportReading : ℕ := 0
  /-- The reading of a report behind `confirmAtMs`. -/
  confirmReading : Option ℕ := none
deriving DecidableEq

/-- What can happen to an image that is not confirmed yet. -/
inductive ConfirmationLabel
  | advance (milliseconds : ℕ)
  | addProbe
  /-- A posted probe runs on its queue. -/
  | runProbe (index : ℕ)
  | clientConfirms
  /-- The next step of `ReportBootComplete`. -/
  | report
  /-- The next step of `Tick`; a `Confirm` or `Disable` in it may fail. -/
  | tick (succeeds : Bool)
deriving DecidableEq, Repr

namespace ImageConfirmation

variable (config : ImageConfirmationConfig) (machine : ImageConfirmation)

/-- `Initialize` on an unconfirmed image; the watchdog may be missing or fail to start. -/
def initializeUnconfirmed (clock : ℕ) (isWatchdogArmed : Bool) : ImageConfirmation where
  clock
  state := .verifying
  deadlineMs := nowMs clock + config.bootDeadlineMs
  isWatchdogArmed
  deadline := clock + config.bootDeadlineMs.toNat

/-! ### Probes -/

/-- A posted probe that has waited too long. -/
def isStuck (now : UInt32) (entry : ProbeEntry) : Bool :=
  entry.armed && !entry.hasRun && config.allowedMs ≤ now - entry.armedAtMs

/-- Probes that were never posted, and those that ran, are posted. -/
def rearm (now : UInt32) (entry : ProbeEntry) : ProbeEntry :=
  if !entry.armed || entry.hasRun then
    entry.arm now machine.tick.reading machine.clock machine.tick.number
  else entry

/-- Whether the unit is healthy, and whether every probe ran. -/
def checkAndRearmProbes (now : UInt32) : ImageConfirmation × Bool × Bool :=
  ({ machine with
      probes := machine.probes.map (machine.rearm now)
      tick := { machine.tick with found := machine.probes.map ProbeEntry.check } },
    machine.probes.all (!isStuck config now ·), machine.probes.all ProbeEntry.check)

/-! ### Steps -/

/-- One access of `ReportBootComplete`. -/
def stepReport : ImageConfirmation :=
  match machine.reportStep with
  | .idle =>
    if machine.state ≠ .verifying then machine else { machine with reportStep := .readClock }
  | .readClock =>
    let now := nowMs machine.clock
    { machine with
      reportReading := machine.clock
      reportStep :=
        if isReached now machine.deadlineMs then .exchangeFailed else .storeConfirmAt now }
  -- Both exchanges compare with VERIFYING, which the other thread may have left since.
  | .exchangeFailed =>
    { machine with
      state := if machine.state = .verifying then .failed else machine.state
      reportStep := .idle }
  | .storeConfirmAt now =>
    { machine with
      confirmAtMs := now + config.confirmDelayMs
      confirmReading := some machine.reportReading
      reportStep := .exchangeConfirming }
  | .exchangeConfirming =>
    { machine with
      state := if machine.state = .verifying then .confirming else machine.state
      reportStep := .idle }

/-- One access of `Tick`. -/
def stepTick (succeeds : Bool) : ImageConfirmation :=
  match machine.tickStep with
  | .idle =>
    { machine with
      tick :=
        { number := machine.tick.number + 1, beganIn := machine.state, beganAt := machine.clock,
          reading := machine.tick.reading }
      -- Only a watchdog that could not be disabled is left to do.
      tickStep := if machine.state = .confirmed then .loadArmed else .isConfirmed machine.state }
  | .isConfirmed state =>
    { machine with
      tickStep :=
        if machine.isImageConfirmed then .standDown
        else if state = .failed then .idle
        else .readClock state }
  | .standDown => { machine with state := .confirmed, tickStep := .loadArmed }
  | .readClock state =>
    let now := nowMs machine.clock
    { machine with
      tick := { machine.tick with reading := machine.clock }
      tickStep :=
        if state = .verifying && isReached now machine.deadlineMs then .exchange now
        else .loadForProbes now }
  | .exchange now =>
    if machine.state = .verifying then { machine with state := .failed, tickStep := .idle }
    -- `ReportBootComplete` ran in between.
    else
      { machine with
        tickStep := if machine.state = .failed then .idle else .loadForProbes now }
  | .loadForProbes now =>
    -- While the boot runs, it may keep the queues from running the probes.
    if machine.state = .confirming then { machine with tickStep := .checkProbes now }
    else
      { machine with
        tick := { machine.tick with found := machine.probes.map fun _ => false }
        tickStep := .feed now true }
  | .checkProbes now =>
    let (machine, isHealthy, allRan) := machine.checkAndRearmProbes config now
    { machine with tickStep := if isHealthy then .feed now allRan else .fail }
  | .fail => { machine with state := .failed, tickStep := .idle }
  | .feed now allRan =>
    { machine with
      tickStep := if config.selfConfirm then .loadForConfirm now allRan else .idle }
  | .loadForConfirm now allRan =>
    { machine with
      tickStep := if machine.state = .confirming then .loadConfirmAt now allRan else .idle }
  | .loadConfirmAt now allRan =>
    { machine with
      tickStep := if isReached now machine.confirmAtMs && allRan then .confirm else .idle }
  | .confirm =>
    if succeeds then
      { machine with isImageConfirmed := true, selfConfirmed := true, tickStep := .standDown }
    else { machine with tickStep := .idle }
  | .loadArmed =>
    { machine with tickStep := if machine.isWatchdogArmed then .feedToDisable else .idle }
  | .feedToDisable => { machine with tickStep := .disable }
  | .disable => { machine with tickStep := if succeeds then .storeDisarmed else .idle }
  | .storeDisarmed => { machine with isWatchdogArmed := false, tickStep := .idle }

/-- One step of the clock, a probe, a client, a report or a tick. -/
def step (machine : ImageConfirmation) : ConfirmationLabel → ImageConfirmation
  | .advance milliseconds => { machine with clock := machine.clock + milliseconds }
  | .addProbe => { machine with probes := machine.probes ++ [{}] }
  | .runProbe index =>
    { machine with
      probes := machine.probes.modify index fun entry =>
        { entry with hasRun := entry.armed || entry.hasRun } }
  | .clientConfirms => { machine with isImageConfirmed := true, clientConfirmed := true }
  | .report => machine.stepReport config
  | .tick succeeds => machine.stepTick config succeeds

/-! ### What is fed, disabled and confirmed -/

/-- The step feeds the watchdog. -/
def feeds : Bool :=
  match machine.tickStep with
  | .feed _ _ => machine.isWatchdogArmed
  | .feedToDisable => true
  | _ => false

end ImageConfirmation

end RtCore.Dfu
