import RtCore.Foundation.Run
import RtCore.Logging.RemoteControl

/-!
# The log writer's supervisor

`LogWriterSupervisor` runs the log writer of a unit from one work queue: each run of its
task closes a session that failed, then serves the latest request, then restarts a running
writer for a stored configuration. A sensors restart stops the writer and starts it again
on the same queue, through the supervisor's dependent. Requests, stored configurations,
failing ticks of the writer and status events come from other threads, between any two
parts of a run.

A stop waits for a tick in progress, which may fail inside it: the steps that stop the
writer say whether that happened.

`RequestHistory` keeps what the requests and the failures were: the latest request, whether
its writer start and every later start succeeded without a failure, and whether a start was
requested since the last failure.

## Main results

* `Supervised.latest_request_decides` — the writer is stopped after a stop was served, runs
  after a start that nothing broke, runs a failed session only until the next run or
  restart, and opens a session after a failed one only when a run serves a `RequestStart`
-/

namespace RtCore.Logging

open RtCore.Foundation

/-! ### The writer -/

/-- The log writer service: whether it runs, whether its session failed, how many sessions
it opened, and the status it published last. -/
structure LogWriter where
  isRunning : Bool := false
  hasFailed : Bool := false
  session : ℕ := 0
  status : LoggingState := .inactive .stopped
deriving DecidableEq, Repr

namespace LogWriter

variable (writer : LogWriter)

/-- `Start`: `opens` says whether a session can be opened. -/
def start (opens : Bool) : LogWriter × Bool :=
  if writer.isRunning then (writer, true)
  else if opens then
    ({ isRunning := true, hasFailed := false, session := writer.session + 1, status := .active },
      true)
  else (writer, false)

/-- `EndSession`, in a tick of a session that did not fail before. -/
def endSession (reason : LoggingStatusReason) : LogWriter :=
  if writer.isRunning && !writer.hasFailed then
    { writer with hasFailed := true, status := .inactive reason }
  else writer

/-- `StopWithReason`; `tickFails` when the tick it waits for fails. -/
def stopWithReason (reason : LoggingStatusReason) (tickFails : Bool) : LogWriter :=
  if writer.isRunning then
    { writer with
      isRunning := false
      hasFailed := writer.hasFailed || tickFails
      status := .inactive reason }
  else writer

end LogWriter

/-! ### The supervisor -/

/-- How far the work queue has come: a run of the task, with whether a restart is due, or a
sensors restart between the dependent's stop and its start. -/
inductive WorkPhase
  | idle
  | begun (isRestartDue : Bool)
  | checked (isRestartDue : Bool)
  | served (isRestartDue : Bool)
  | dependentStopped
deriving DecidableEq, Repr

/-- `LogWriterSupervisor`, with its writer and how far its run is. -/
structure LogWriterSupervisor where
  writer : LogWriter := {}
  pendingRequest : Request := .none
  stopReason : LoggingStatusReason := .stopped
  isLoggingRequested : Bool := false
  isRestartDue : Bool := false
  isScheduled : Bool := false
  isActive : Bool := false
  reason : LoggingStatusReason := .stopped
  phase : WorkPhase := .idle
deriving DecidableEq, Repr

/-- A request, a part of a run, or what happens to the writer beside it. -/
inductive SupervisorStep
  | requestStart
  | requestStopWithReason (reason : LoggingStatusReason)
  | configurationStored
  | tickFails (reason : LoggingStatusReason)
  | statusUpdated (isActive : Option Bool) (reason : Option LoggingStatusReason)
  | beginRun
  | stopIfFailed
  | serve (opens tickFails : Bool)
  | restartIfRunning (opens tickFails : Bool)
  | dependentStop (tickFails : Bool)
  | dependentStart (opens : Bool)
deriving DecidableEq, Repr

namespace LogWriterSupervisor

variable (supervisor : LogWriterSupervisor)

/-- `RequestStart`: the next run starts the writer. -/
def requestStart : LogWriterSupervisor :=
  { supervisor with pendingRequest := .start, isScheduled := true }

/-- `RequestStopWithReason`: the next run stops the writer. -/
def requestStopWithReason (reason : LoggingStatusReason) : LogWriterSupervisor :=
  { supervisor with stopReason := reason, pendingRequest := .stop, isScheduled := true }

/-- The updated handler of the logging configuration. -/
def onConfigurationStored : LogWriterSupervisor :=
  { supervisor with isRestartDue := true, isScheduled := true }

/-- The status of the writer, as others are told it; a failure asks for a run. -/
def onStatusUpdated (isActive : Option Bool) (reasonEntry : Option LoggingStatusReason) :
    LogWriterSupervisor :=
  match isActive with
  | none => supervisor
  | some true => { supervisor with isActive := true, reason := .stopped }
  | some false =>
    let reason := reasonEntry.getD .stopped
    { supervisor with
      isActive := false
      reason
      isScheduled := supervisor.isScheduled ||
        (reason ≠ .stopped && reason ≠ .firmwareUpdate) }

/-- A session that failed is stopped by the run that finds it. -/
def stopIfFailed : LogWriterSupervisor :=
  if supervisor.writer.hasFailed && supervisor.writer.isRunning then
    { supervisor with
      isLoggingRequested := false
      writer := supervisor.writer.stopWithReason .stopped false }
  else supervisor

/-- Whether it opened a new session comes second. -/
def applyStart (opens : Bool) : LogWriterSupervisor × Bool :=
  if supervisor.writer.isRunning && !supervisor.writer.hasFailed then
    ({ supervisor with isLoggingRequested := true }, false)
  else
    -- A session that failed since the check is closed before the next one opens.
    let (writer, isStarted) := (supervisor.writer.stopWithReason .stopped false).start opens
    ({ supervisor with writer, isLoggingRequested := isStarted }, isStarted)

/-- The writer is stopped for a reason. -/
def applyStop (reason : LoggingStatusReason) (tickFails : Bool) : LogWriterSupervisor :=
  { supervisor with
    isLoggingRequested := false
    writer := supervisor.writer.stopWithReason reason tickFails }

/-- The part of a run that takes the pending request. -/
def serve (opens tickFails : Bool) : LogWriterSupervisor × Bool :=
  let taken := { supervisor with pendingRequest := .none }
  match supervisor.pendingRequest with
  | .start => taken.applyStart opens
  | .stop =>
    ({ taken with stopReason := .stopped }.applyStop supervisor.stopReason tickFails, false)
  | .none => (taken, false)

/-- A stored logging configuration takes effect at the next start. -/
def restartIfRunning (opens tickFails : Bool) : LogWriterSupervisor :=
  if supervisor.writer.isRunning && !supervisor.writer.hasFailed then
    let (writer, isStarted) :=
      (supervisor.writer.stopWithReason .stopped tickFails).start opens
    { supervisor with writer, isLoggingRequested := isStarted }
  else supervisor

/-- The dependent's `Start`, after a sensors restart. -/
def dependentStart (opens : Bool) : LogWriterSupervisor :=
  if !supervisor.isLoggingRequested || supervisor.pendingRequest = .stop then supervisor
  else if supervisor.writer.hasFailed then { supervisor with isLoggingRequested := false }
  else
    let (writer, isStarted) := supervisor.writer.start opens
    { supervisor with writer, isLoggingRequested := isStarted }

/-- One step of any thread. A step of the work queue that is not its next one does nothing. -/
def step : SupervisorStep → LogWriterSupervisor
  | .requestStart => supervisor.requestStart
  | .requestStopWithReason reason => supervisor.requestStopWithReason reason
  | .configurationStored => supervisor.onConfigurationStored
  | .tickFails reason => { supervisor with writer := supervisor.writer.endSession reason }
  | .statusUpdated isActive reason => supervisor.onStatusUpdated isActive reason
  | .beginRun =>
    match supervisor.phase, supervisor.isScheduled with
    | .idle, true =>
      { supervisor with
        isScheduled := false, isRestartDue := false, phase := .begun supervisor.isRestartDue }
    | _, _ => supervisor
  | .stopIfFailed =>
    match supervisor.phase with
    | .begun isRestartDue => { supervisor.stopIfFailed with phase := .checked isRestartDue }
    | _ => supervisor
  | .serve opens tickFails =>
    match supervisor.phase with
    | .checked isRestartDue =>
      let (served, isNewSession) := supervisor.serve opens tickFails
      { served with phase := .served (isRestartDue && !isNewSession) }
    | _ => supervisor
  | .restartIfRunning opens tickFails =>
    match supervisor.phase with
    | .served true => { supervisor.restartIfRunning opens tickFails with phase := .idle }
    | .served false => { supervisor with phase := .idle }
    | _ => supervisor
  | .dependentStop tickFails =>
    match supervisor.phase with
    | .idle =>
      { supervisor with
        writer := supervisor.writer.stopWithReason .stopped tickFails
        phase := .dependentStopped }
    | _ => supervisor
  | .dependentStart opens =>
    match supervisor.phase with
    | .dependentStopped => { supervisor.dependentStart opens with phase := .idle }
    | _ => supervisor

/-- No request and no run is pending, and none is in progress. -/
def IsQuiet : Prop :=
  supervisor.pendingRequest = .none ∧ supervisor.isScheduled = false ∧ supervisor.phase = .idle

end LogWriterSupervisor

/-! ### What was requested -/

/-- `latest`: the latest request. `isUnbroken`: since it was made, no start of the writer
failed and no session did. `isAsked`: a start was requested since the last failure.
`isFailureUnseen`: no run checked for a failure, and no restart stopped the writer, since the
last failure. -/
structure RequestHistory where
  latest : Request := .none
  isUnbroken : Bool := false
  isAsked : Bool := false
  isFailureUnseen : Bool := false
deriving DecidableEq, Repr

/-- The supervisor beside the history of its requests. -/
structure Supervised where
  supervisor : LogWriterSupervisor := {}
  history : RequestHistory := {}
deriving DecidableEq, Repr

namespace Supervised

variable (supervised : Supervised)

/-- A session failed in the step. -/
def failsIn (step : SupervisorStep) : Bool :=
  supervised.supervisor.writer.isRunning && !supervised.supervisor.writer.hasFailed &&
    match step, supervised.supervisor.phase, supervised.supervisor.pendingRequest with
    | .tickFails _, _, _ => true
    | .serve _ tickFails, .checked _, .stop => tickFails
    | .restartIfRunning _ tickFails, .served true, _ => tickFails
    | .dependentStop tickFails, .idle, _ => tickFails
    | _, _, _ => false

/-- The step tries to start a writer that does not run, and fails. -/
def startFailsIn (step : SupervisorStep) : Bool :=
  let supervisor := supervised.supervisor
  let isHealthy := supervisor.writer.isRunning && !supervisor.writer.hasFailed
  match step, supervisor.phase with
  | .serve opens _, .checked _ => supervisor.pendingRequest = .start && !isHealthy && !opens
  | .restartIfRunning opens _, .served true => isHealthy && !opens
  | .dependentStart opens, .dependentStopped =>
    supervisor.isLoggingRequested && supervisor.pendingRequest ≠ .stop &&
      !supervisor.writer.hasFailed && !supervisor.writer.isRunning && !opens
  | _, _ => false

/-- What a step means for the requests and the sessions. -/
def record (step : SupervisorStep) : RequestHistory :=
  let history := supervised.history
  match step with
  | .requestStart => { history with latest := .start, isUnbroken := true, isAsked := true }
  | .requestStopWithReason _ => { history with latest := .stop }
  | _ =>
    let isFailing := supervised.failsIn step
    { latest := history.latest
      isUnbroken := history.isUnbroken && !isFailing && !supervised.startFailsIn step
      isAsked := history.isAsked && !isFailing
      isFailureUnseen :=
        match step, supervised.supervisor.phase with
        | .stopIfFailed, .begun _ | .dependentStop _, .idle => false
        | _, _ => history.isFailureUnseen || isFailing }

/-- The supervisor and its history after a step. -/
def next (step : SupervisorStep) : Supervised where
  supervisor := supervised.supervisor.step step
  history := supervised.record step

/-- The writer is as the latest request wants it. A stop that was served leaves it stopped,
whatever restarts follow; with nothing pending, an unbroken start has it running; and a
failed session runs only until the next run or restart. -/
structure LatestDecides : Prop where
  stopped : supervised.history.latest = .stop →
    supervised.supervisor.pendingRequest = .none → supervised.supervisor.writer.isRunning = false
  runs : supervised.supervisor.IsQuiet → supervised.history.latest = .start →
    supervised.history.isUnbroken = true →
    supervised.supervisor.writer.isRunning = true ∧ supervised.supervisor.writer.hasFailed = false
  ends : supervised.supervisor.writer.isRunning = true →
    supervised.supervisor.writer.hasFailed = true → supervised.history.isFailureUnseen = true

/-- The step opens a session. -/
def Opens (step : SupervisorStep) : Prop :=
  (supervised.supervisor.step step).writer.session ≠ supervised.supervisor.writer.session

/-- A session is opened after a failed one only when a start was requested since. -/
def OpensWhenAsked (step : SupervisorStep) : Prop :=
  supervised.Opens step → supervised.supervisor.writer.hasFailed = true →
    supervised.history.isAsked = true

/-- A session is opened after a failed one only by a run that serves a requested start. The one that
`restartIfRunning` opens after a session that fails inside its own stop is left out: that session
is not marked as failed before the step. -/
def OpensForRequest (step : SupervisorStep) : Prop :=
  supervised.Opens step → supervised.supervisor.writer.hasFailed = true →
    supervised.supervisor.pendingRequest = .start ∧ ∃ opens tickFails, step = .serve opens tickFails

end Supervised

/-! ### The invariant of a run -/

namespace LogWriter

variable (writer : LogWriter)

@[simp] theorem stopWithReason_isRunning (reason : LoggingStatusReason) (tickFails : Bool) :
    (writer.stopWithReason reason tickFails).isRunning = false := by
  cases running : writer.isRunning <;> simp [stopWithReason, running]

@[simp] theorem stopWithReason_session (reason : LoggingStatusReason) (tickFails : Bool) :
    (writer.stopWithReason reason tickFails).session = writer.session := by
  cases running : writer.isRunning <;> simp [stopWithReason, running]

variable {writer}

/-- A stopped writer runs after a start that could open a session. -/
theorem start_of_stopped (stopped : writer.isRunning = false) (opens : Bool) :
    (writer.start opens).2 = opens ∧ (writer.start opens).1.isRunning = opens ∧
      (opens = true → (writer.start opens).1.hasFailed = false) := by
  cases opens <;> simp [start, stopped]

@[simp] theorem endSession_isRunning (reason : LoggingStatusReason) :
    (writer.endSession reason).isRunning = writer.isRunning := by
  unfold endSession
  split_ifs <;> rfl

@[simp] theorem endSession_session (reason : LoggingStatusReason) :
    (writer.endSession reason).session = writer.session := by
  unfold endSession
  split_ifs <;> rfl

end LogWriter

namespace Supervised

variable {supervised : Supervised}

/-- What is pending follows from the latest request; a stop that was served left nothing
wanted; an unbroken start that was served has the writer running, a sensors restart apart;
and a failed session runs only while its failure is unseen. -/
structure Sound (supervised : Supervised) : Prop where
  pending : supervised.supervisor.pendingRequest = .none ∨
    supervised.supervisor.pendingRequest = supervised.history.latest
  stopped : supervised.history.latest = .stop → supervised.supervisor.pendingRequest = .none →
    supervised.supervisor.writer.isRunning = false ∧
      supervised.supervisor.isLoggingRequested = false
  wanted : supervised.history.latest = .start → supervised.supervisor.pendingRequest = .none →
    supervised.history.isUnbroken = true →
    supervised.supervisor.isLoggingRequested = true ∧
      supervised.supervisor.writer.hasFailed = false ∧
      (supervised.supervisor.writer.isRunning = true ∨
        supervised.supervisor.phase = .dependentStopped)
  ends : supervised.supervisor.writer.isRunning = true →
    supervised.supervisor.writer.hasFailed = true → supervised.history.isFailureUnseen = true

theorem sound_initial : Sound {} := by
  constructor <;> simp

theorem Sound.requestStart (sound : supervised.Sound) : (supervised.next .requestStart).Sound where
  pending := Or.inr rfl
  stopped := fun latest => nomatch latest
  wanted := fun _ none => nomatch none
  ends := sound.ends

theorem Sound.requestStopWithReason (sound : supervised.Sound) (reason : LoggingStatusReason) :
    (supervised.next (.requestStopWithReason reason)).Sound where
  pending := Or.inr rfl
  stopped := fun _ none => nomatch none
  wanted := fun latest => nomatch latest
  ends := sound.ends

/-- A step that neither touches the writer nor what is wanted. -/
theorem Sound.of_same (sound : supervised.Sound) {step : SupervisorStep}
    (writer : (supervised.next step).supervisor.writer = supervised.supervisor.writer)
    (requested : (supervised.next step).supervisor.isLoggingRequested =
      supervised.supervisor.isLoggingRequested)
    (pending : (supervised.next step).supervisor.pendingRequest =
      supervised.supervisor.pendingRequest)
    (phase : supervised.supervisor.phase = .dependentStopped →
      (supervised.next step).supervisor.phase = .dependentStopped)
    (latest : (supervised.next step).history.latest = supervised.history.latest)
    (unbroken : (supervised.next step).history.isUnbroken = true →
      supervised.history.isUnbroken = true)
    (unseen : supervised.history.isFailureUnseen = true →
      (supervised.next step).history.isFailureUnseen = true) :
    (supervised.next step).Sound where
  pending := by
    rw [pending, latest]
    exact sound.pending
  stopped := by
    rw [pending, latest, writer, requested]
    exact sound.stopped
  wanted := by
    rw [pending, latest, writer, requested]
    intro start none whole
    obtain ⟨wants, healthy, runs⟩ := sound.wanted start none (unbroken whole)
    exact ⟨wants, healthy, runs.imp_right phase⟩
  ends := by
    rw [writer]
    exact fun running failed => unseen (sound.ends running failed)

/-- A step that is not a request: it may break a start, and never asks. -/
def IsWork : SupervisorStep → Prop
  | .requestStart | .requestStopWithReason _ => False
  | _ => True

theorem latest_next {step : SupervisorStep} (work : IsWork step) :
    (supervised.next step).history.latest = supervised.history.latest := by
  cases step <;> first | exact work.elim | rfl

theorem unbroken_of_next (step : SupervisorStep) (work : IsWork step)
    (whole : (supervised.next step).history.isUnbroken = true) :
    supervised.history.isUnbroken = true ∧ supervised.failsIn step = false ∧
      supervised.startFailsIn step = false := by
  cases step <;>
    first
    | exact work.elim
    | simpa [Supervised.next, record, and_assoc] using whole

/-- A step of the work queue that is not its next one changes nothing. -/
theorem Sound.of_idle (sound : supervised.Sound) {step : SupervisorStep} (work : IsWork step)
    (idle : supervised.supervisor.step step = supervised.supervisor)
    (unseen : supervised.history.isFailureUnseen = true →
      (supervised.next step).history.isFailureUnseen = true) :
    (supervised.next step).Sound :=
  sound.of_same (congrArg _ idle) (congrArg _ idle) (congrArg _ idle)
    (fun stopped => (congrArg LogWriterSupervisor.phase idle).trans stopped) (latest_next work)
    (fun whole => (unbroken_of_next step work whole).1) unseen

theorem Sound.configurationStored (sound : supervised.Sound) :
    (supervised.next .configurationStored).Sound :=
  sound.of_same rfl rfl rfl (fun stopped => stopped) rfl
    (fun whole => (unbroken_of_next .configurationStored trivial whole).1)
    (by simp +contextual [next, record])

theorem Sound.statusUpdated (sound : supervised.Sound) (isActive : Option Bool)
    (reason : Option LoggingStatusReason) :
    (supervised.next (.statusUpdated isActive reason)).Sound := by
  have unseen : supervised.history.isFailureUnseen = true →
      (supervised.next (.statusUpdated isActive reason)).history.isFailureUnseen = true := by
    simp +contextual [next, record]
  cases isActive with
  | none => exact sound.of_idle trivial rfl unseen
  | some isActive =>
    cases isActive <;> exact sound.of_same rfl rfl rfl (fun stopped => stopped) rfl
      (fun whole => (unbroken_of_next (.statusUpdated _ reason) trivial whole).1) unseen

theorem Sound.tickFails (sound : supervised.Sound) (reason : LoggingStatusReason) :
    (supervised.next (.tickFails reason)).Sound := by
  by_cases healthy : (supervised.supervisor.writer.isRunning &&
      !supervised.supervisor.writer.hasFailed) = true
  · have failing : supervised.failsIn (.tickFails reason) = true := by simpa [failsIn] using healthy
    constructor
    case pending => exact sound.pending
    case stopped =>
      intro latest none
      simpa [next, LogWriterSupervisor.step] using sound.stopped latest none
    case wanted =>
      intro _ _ whole
      exact absurd (unbroken_of_next (.tickFails reason) trivial whole).2.1 (by simp [failing])
    case ends =>
      intro _ _
      simp [next, record, failing]
  · have same : supervised.supervisor.writer.endSession reason = supervised.supervisor.writer := by
      rw [LogWriter.endSession, if_neg healthy]
    exact sound.of_idle trivial (by simp [LogWriterSupervisor.step, same])
      (by simp +contextual [next, record])

theorem Sound.beginRun (sound : supervised.Sound) : (supervised.next .beginRun).Sound := by
  have unseen : supervised.history.isFailureUnseen = true →
      (supervised.next .beginRun).history.isFailureUnseen = true := by
    simp +contextual [next, record]
  obtain ⟨⟨writer, pending, stopReason, requested, due, scheduled, active, reason, phase⟩,
    history⟩ := supervised
  cases phase with
  | idle =>
    cases scheduled with
    | true =>
      exact sound.of_same rfl rfl rfl (fun stopped => nomatch stopped) rfl
        (fun whole => (unbroken_of_next .beginRun trivial whole).1) unseen
    | false => exact sound.of_idle trivial rfl unseen
  | begun | checked | served | dependentStopped => exact sound.of_idle trivial rfl unseen

/-- A step of the work queue keeps the invariant when the supervisor after it does. -/
theorem Sound.of_work (sound : supervised.Sound) {step : SupervisorStep} (work : IsWork step)
    {after : LogWriterSupervisor} (stepped : supervised.supervisor.step step = after)
    (pending : after.pendingRequest = .none ∨
      after.pendingRequest = supervised.supervisor.pendingRequest)
    (stopped : supervised.history.latest = .stop → after.pendingRequest = .none →
      after.writer.isRunning = false ∧ after.isLoggingRequested = false)
    (wanted : supervised.history.latest = .start → after.pendingRequest = .none →
      supervised.history.isUnbroken = true → supervised.failsIn step = false →
      supervised.startFailsIn step = false →
      after.isLoggingRequested = true ∧ after.writer.hasFailed = false ∧
        (after.writer.isRunning = true ∨ after.phase = .dependentStopped))
    (ends : after.writer.isRunning = true → after.writer.hasFailed = true →
      (supervised.record step).isFailureUnseen = true) :
    (supervised.next step).Sound := by
  have latest : (supervised.next step).history.latest = supervised.history.latest :=
    latest_next work
  subst stepped
  constructor
  case pending =>
    rw [latest]
    rcases pending with none | same
    · exact Or.inl none
    · exact sound.pending.imp same.trans same.trans
  case stopped =>
    rw [latest]
    exact stopped
  case wanted =>
    rw [latest]
    intro start none whole
    obtain ⟨whole, healthy, starts⟩ := unbroken_of_next step work whole
    exact wanted start none whole healthy starts
  case ends => exact ends

theorem Sound.stopIfFailed (sound : supervised.Sound) :
    (supervised.next .stopIfFailed).Sound := by
  cases phase : supervised.supervisor.phase with
  | begun isRestartDue =>
    have stepped : supervised.supervisor.step .stopIfFailed =
        { supervised.supervisor.stopIfFailed with phase := .checked isRestartDue } := by
      simp [LogWriterSupervisor.step, phase]
    by_cases failed : (supervised.supervisor.writer.hasFailed &&
        supervised.supervisor.writer.isRunning) = true
    · simp only [LogWriterSupervisor.stopIfFailed, failed, if_true] at stepped
      refine sound.of_work trivial stepped (Or.inr rfl) ?_ ?_ ?_
      · exact fun _ _ => ⟨LogWriter.stopWithReason_isRunning .., rfl⟩
      · intro start none whole _ _
        have healthy := (sound.wanted start none whole).2.1
        simp [healthy] at failed
      · exact fun running => absurd running (by simp)
    · rw [show supervised.supervisor.stopIfFailed = supervised.supervisor from if_neg failed]
        at stepped
      refine sound.of_work trivial stepped (Or.inr rfl) sound.stopped ?_ ?_
      · intro start none whole _ _
        obtain ⟨wants, healthy, runs⟩ := sound.wanted start none whole
        refine ⟨wants, healthy, Or.inl ?_⟩
        simpa [phase] using runs
      · intro running isFailed
        exact absurd (Bool.and_eq_true_iff.mpr ⟨isFailed, running⟩) failed
  | idle | checked | served | dependentStopped =>
    exact sound.of_idle trivial (by simp [LogWriterSupervisor.step, phase])
      (by simp +contextual [next, record, phase])

/-- A run that serves a start leaves the writer running, or a start that failed. -/
theorem Sound.serve (sound : supervised.Sound) (opens tickFails : Bool) :
    (supervised.next (.serve opens tickFails)).Sound := by
  cases phase : supervised.supervisor.phase with
  | checked isRestartDue =>
    have stepped : supervised.supervisor.step (.serve opens tickFails) =
        { (supervised.supervisor.serve opens tickFails).1 with
          phase :=
            .served (isRestartDue && !(supervised.supervisor.serve opens tickFails).2) } := by
      simp [LogWriterSupervisor.step, phase]
    cases pending : supervised.supervisor.pendingRequest with
    | none =>
      simp only [LogWriterSupervisor.serve, pending] at stepped
      refine sound.of_work trivial stepped (Or.inl rfl) ?_ ?_ ?_
      · exact fun stop _ => sound.stopped stop pending
      · intro start _ whole _ _
        obtain ⟨wants, healthy, runs⟩ := sound.wanted start pending whole
        refine ⟨wants, healthy, Or.inl ?_⟩
        simpa [phase] using runs
      · intro running failed
        simpa [record, failsIn, phase, pending] using sound.ends running failed
    | stop =>
      -- A request still pending is the last one that was made.
      have latest : supervised.history.latest = .stop := by
        simpa [pending, eq_comm] using sound.pending
      simp only [LogWriterSupervisor.serve, pending] at stepped
      refine sound.of_work trivial stepped (Or.inl rfl) ?_ ?_ ?_
      · exact fun _ _ => ⟨LogWriter.stopWithReason_isRunning .., rfl⟩
      · exact fun start => absurd (latest.symm.trans start) (by simp)
      · exact fun running => absurd running (by simp [LogWriterSupervisor.applyStop])
    | start =>
      have latest : supervised.history.latest = .start := by
        simpa [pending, eq_comm] using sound.pending
      -- A writer that runs well is left alone; one that failed is stopped and started again.
      by_cases healthy : (supervised.supervisor.writer.isRunning &&
          !supervised.supervisor.writer.hasFailed) = true
      · simp only [LogWriterSupervisor.serve, pending, LogWriterSupervisor.applyStart, healthy,
          if_true] at stepped
        simp only [Bool.and_eq_true, Bool.not_eq_true'] at healthy
        refine sound.of_work trivial stepped (Or.inl rfl) ?_ ?_ ?_
        · exact fun stop => absurd (latest.symm.trans stop) (by simp)
        · exact fun _ _ _ _ _ => ⟨rfl, healthy.2, Or.inl healthy.1⟩
        · exact fun _ failed => absurd failed (by simp [healthy.2])
      · have served : supervised.supervisor.serve opens tickFails =
            ({ supervised.supervisor with
                pendingRequest := .none
                writer :=
                  ((supervised.supervisor.writer.stopWithReason .stopped false).start opens).1
                isLoggingRequested :=
                  ((supervised.supervisor.writer.stopWithReason .stopped false).start opens).2 },
              ((supervised.supervisor.writer.stopWithReason .stopped false).start opens).2) := by
          simp [LogWriterSupervisor.serve, pending, LogWriterSupervisor.applyStart, healthy]
        rw [served] at stepped
        obtain ⟨started, running, fresh⟩ := LogWriter.start_of_stopped
          (supervised.supervisor.writer.stopWithReason_isRunning .stopped false) opens
        refine sound.of_work trivial stepped (Or.inl rfl) ?_ ?_ ?_
        · exact fun stop => absurd (latest.symm.trans stop) (by simp)
        · intro _ _ _ _ starts
          have opened : opens = true := by
            simpa [startFailsIn, phase, pending, healthy] using starts
          exact ⟨started.trans opened, fresh opened, Or.inl (running.trans opened)⟩
        · intro runs failed
          have opened : opens = true := running.symm.trans runs
          exact absurd (failed.symm.trans (fresh opened)) (by simp)
  | idle | begun | served | dependentStopped =>
    exact sound.of_idle trivial (by simp [LogWriterSupervisor.step, phase])
      (by simp +contextual [next, record])

theorem Sound.restartIfRunning (sound : supervised.Sound) (opens tickFails : Bool) :
    (supervised.next (.restartIfRunning opens tickFails)).Sound := by
  -- Nothing is restarted: the step only ends the run.
  have idle (same : supervised.supervisor.step (.restartIfRunning opens tickFails) =
      { supervised.supervisor with phase := .idle })
      (phase : supervised.supervisor.phase ≠ .dependentStopped) :
      (supervised.next (.restartIfRunning opens tickFails)).Sound := by
    refine sound.of_work trivial same (Or.inr rfl) sound.stopped ?_ ?_
    · intro start none whole _ _
      obtain ⟨wants, healthy, runs⟩ := sound.wanted start none whole
      exact ⟨wants, healthy, Or.inl (runs.resolve_right phase)⟩
    · intro running failed
      simp [record, sound.ends running failed]
  cases phase : supervised.supervisor.phase with
  | served isDue =>
    cases isDue with
    | false => exact idle (by simp [LogWriterSupervisor.step, phase]) (by simp [phase])
    | true =>
      by_cases healthy : (supervised.supervisor.writer.isRunning &&
          !supervised.supervisor.writer.hasFailed) = true
      · have stepped : supervised.supervisor.step (.restartIfRunning opens tickFails) =
            { supervised.supervisor with
              writer :=
                ((supervised.supervisor.writer.stopWithReason .stopped tickFails).start opens).1
              isLoggingRequested :=
                ((supervised.supervisor.writer.stopWithReason .stopped tickFails).start opens).2
              phase := .idle } := by
          simp [LogWriterSupervisor.step, phase, LogWriterSupervisor.restartIfRunning, healthy]
        obtain ⟨started, running, fresh⟩ := LogWriter.start_of_stopped
          (supervised.supervisor.writer.stopWithReason_isRunning .stopped tickFails) opens
        refine sound.of_work trivial stepped (Or.inr rfl) ?_ ?_ ?_
        · intro stop none
          have stopped := (sound.stopped stop none).1
          simp [stopped] at healthy
        · intro _ _ _ _ starts
          have opened : opens = true := by simpa [startFailsIn, phase, healthy] using starts
          exact ⟨started.trans opened, fresh opened, Or.inl (running.trans opened)⟩
        · intro runs failed
          have opened : opens = true := running.symm.trans runs
          exact absurd (failed.symm.trans (fresh opened)) (by simp)
      · refine idle ?_ (by simp [phase])
        simp [LogWriterSupervisor.step, phase, LogWriterSupervisor.restartIfRunning, healthy]
  | idle | begun | checked | dependentStopped =>
    exact sound.of_idle trivial (by simp [LogWriterSupervisor.step, phase])
      (by simp +contextual [next, record])

theorem Sound.dependentStop (sound : supervised.Sound) (tickFails : Bool) :
    (supervised.next (.dependentStop tickFails)).Sound := by
  cases phase : supervised.supervisor.phase with
  | idle =>
    have stepped : supervised.supervisor.step (.dependentStop tickFails) =
        { supervised.supervisor with
          writer := supervised.supervisor.writer.stopWithReason .stopped tickFails
          phase := .dependentStopped } := by
      simp [LogWriterSupervisor.step, phase]
    refine sound.of_work trivial stepped (Or.inr rfl) ?_ ?_ ?_
    · exact fun stop none => ⟨LogWriter.stopWithReason_isRunning .., (sound.stopped stop none).2⟩
    · intro start none whole survives _
      obtain ⟨wants, healthy, runs⟩ := sound.wanted start none whole
      refine ⟨wants, ?_, Or.inr rfl⟩
      have running : supervised.supervisor.writer.isRunning = true := by simpa [phase] using runs
      simpa [LogWriter.stopWithReason, failsIn, phase, running, healthy] using survives
    · exact fun running => absurd running (by simp)
  | begun | checked | served | dependentStopped =>
    exact sound.of_idle trivial (by simp [LogWriterSupervisor.step, phase])
      (by simp +contextual [next, record, phase])

/-- The dependent starts what is still wanted and did not fail. -/
theorem Sound.dependentStart (sound : supervised.Sound) (opens : Bool) :
    (supervised.next (.dependentStart opens)).Sound := by
  cases phase : supervised.supervisor.phase with
  | dependentStopped =>
    have stepped : supervised.supervisor.step (.dependentStart opens) =
        { supervised.supervisor.dependentStart opens with phase := .idle } := by
      simp [LogWriterSupervisor.step, phase]
    -- A stop came in between, the session failed, or the writer is started again.
    by_cases unwanted : (!supervised.supervisor.isLoggingRequested ||
        supervised.supervisor.pendingRequest = .stop) = true
    · rw [show supervised.supervisor.dependentStart opens = supervised.supervisor from
        if_pos unwanted] at stepped
      refine sound.of_work trivial stepped (Or.inr rfl) sound.stopped ?_ ?_
      · intro start none whole _ _
        have wants := (sound.wanted start none whole).1
        simp only [wants, Bool.not_true, Bool.false_or, decide_eq_true_eq] at unwanted
        exact absurd (unwanted.symm.trans none) (by simp)
      · intro running failed
        simp [record, sound.ends running failed]
    by_cases failed : supervised.supervisor.writer.hasFailed = true
    · rw [show supervised.supervisor.dependentStart opens =
          { supervised.supervisor with isLoggingRequested := false } by
        rw [LogWriterSupervisor.dependentStart, if_neg unwanted, if_pos failed]] at stepped
      refine sound.of_work trivial stepped (Or.inr rfl) ?_ ?_ ?_
      · exact fun stop none => ⟨(sound.stopped stop none).1, rfl⟩
      · exact fun start none whole => absurd failed (by simp [(sound.wanted start none whole).2.1])
      · intro running _
        simp [record, sound.ends running failed]
    · rw [show supervised.supervisor.dependentStart opens =
          { supervised.supervisor with
            writer := (supervised.supervisor.writer.start opens).1
            isLoggingRequested := (supervised.supervisor.writer.start opens).2 } by
        rw [LogWriterSupervisor.dependentStart, if_neg unwanted, if_neg failed]] at stepped
      simp only [Bool.or_eq_true, Bool.not_eq_true', decide_eq_true_eq, not_or,
        Bool.not_eq_false] at unwanted
      have healthy : supervised.supervisor.writer.hasFailed = false := by simpa using failed
      cases running : supervised.supervisor.writer.isRunning with
      | true =>
        have same : supervised.supervisor.writer.start opens =
            (supervised.supervisor.writer, true) := by simp [LogWriter.start, running]
        rw [same] at stepped
        refine sound.of_work trivial stepped (Or.inr rfl) ?_ ?_ ?_
        · exact fun stop none => absurd unwanted.1 (by simp [(sound.stopped stop none).2])
        · exact fun _ _ _ _ _ => ⟨rfl, healthy, Or.inl running⟩
        · exact fun _ isFailed => absurd isFailed failed
      | false =>
        obtain ⟨started, runs, fresh⟩ := LogWriter.start_of_stopped running opens
        refine sound.of_work trivial stepped (Or.inr rfl) ?_ ?_ ?_
        · exact fun stop none => absurd unwanted.1 (by simp [(sound.stopped stop none).2])
        · intro _ _ _ _ starts
          have opened : opens = true := by
            simpa [startFailsIn, phase, unwanted, healthy, running] using starts
          exact ⟨started.trans opened, fresh opened, Or.inl (runs.trans opened)⟩
        · intro now isFailed
          have opened : opens = true := runs.symm.trans now
          exact absurd (isFailed.symm.trans (fresh opened)) (by simp)
  | idle | begun | checked | served =>
    exact sound.of_idle trivial (by simp [LogWriterSupervisor.step, phase])
      (by simp +contextual [next, record])

theorem Sound.next (sound : supervised.Sound) (step : SupervisorStep) :
    (supervised.next step).Sound := by
  cases step with
  | requestStart => exact sound.requestStart
  | requestStopWithReason reason => exact sound.requestStopWithReason reason
  | configurationStored => exact sound.configurationStored
  | tickFails reason => exact sound.tickFails reason
  | statusUpdated isActive reason => exact sound.statusUpdated isActive reason
  | beginRun => exact sound.beginRun
  | stopIfFailed => exact sound.stopIfFailed
  | serve opens tickFails => exact sound.serve opens tickFails
  | restartIfRunning opens tickFails => exact sound.restartIfRunning opens tickFails
  | dependentStop tickFails => exact sound.dependentStop tickFails
  | dependentStart opens => exact sound.dependentStart opens

theorem Sound.latestDecides (sound : supervised.Sound) : supervised.LatestDecides where
  stopped := fun stop none => (sound.stopped stop none).1
  runs := by
    rintro ⟨none, -, idle⟩ start whole
    obtain ⟨-, healthy, runs⟩ := sound.wanted start none whole
    exact ⟨by simpa [idle] using runs, healthy⟩
  ends := sound.ends

/-- Only a run that serves a start opens a session while the last one is marked failed. -/
theorem opensForRequest (supervised : Supervised) (step : SupervisorStep) :
    supervised.OpensForRequest step := by
  intro opened failed
  rw [Opens] at opened
  obtain ⟨supervisor, history⟩ := supervised
  dsimp only at opened failed ⊢
  -- The restarts skip a failed session, so the start that was requested is the only one left.
  cases step with
  | requestStart | requestStopWithReason | configurationStored => exact absurd rfl opened
  | tickFails reason => exact absurd (LogWriter.endSession_session reason) opened
  | statusUpdated isActive reason =>
    rcases isActive with _ | _ | _ <;> exact absurd rfl opened
  | beginRun =>
    simp only [LogWriterSupervisor.step] at opened
    split at opened <;> exact absurd rfl opened
  | stopIfFailed =>
    simp only [LogWriterSupervisor.step, LogWriterSupervisor.stopIfFailed] at opened
    split at opened
    · split_ifs at opened <;> simp at opened
    · exact absurd rfl opened
  | dependentStop tickFails =>
    simp only [LogWriterSupervisor.step] at opened
    split at opened
    · simp at opened
    · exact absurd rfl opened
  | serve opens tickFails =>
    refine ⟨?_, opens, tickFails, rfl⟩
    simp only [LogWriterSupervisor.step] at opened
    split at opened
    · cases pending : supervisor.pendingRequest with
      | start => rfl
      | none => simp [LogWriterSupervisor.serve, pending] at opened
      | stop => simp [LogWriterSupervisor.serve, pending, LogWriterSupervisor.applyStop] at opened
    · exact absurd rfl opened
  | restartIfRunning opens tickFails =>
    have kept : supervisor.restartIfRunning opens tickFails = supervisor := by
      simp [LogWriterSupervisor.restartIfRunning, failed]
    simp only [LogWriterSupervisor.step, kept] at opened
    split at opened <;> exact absurd rfl opened
  | dependentStart opens =>
    have kept : (supervisor.dependentStart opens).writer = supervisor.writer := by
      simp only [LogWriterSupervisor.dependentStart, failed, if_true]
      split_ifs <;> rfl
    simp only [LogWriterSupervisor.step] at opened
    split at opened
    · exact absurd (congrArg LogWriter.session kept) opened
    · exact absurd rfl opened

/-- In every interleaving of requests, stored configurations, failing ticks, status events,
runs of the task and sensors restarts: the latest request decides the writer, a failed
session runs only until the next run or restart, and after it only a run that serves a
`RequestStart` opens a session. Left out is the session that `restartIfRunning` opens after one
that it found healthy and that fails inside its own stop. -/
theorem latest_request_decides (steps : List SupervisorStep) :
    Always next LatestDecides {} steps ∧ Along next OpensForRequest {} steps := by
  constructor
  · have always : Always next Sound {} steps :=
      always_of_preserved sound_initial (fun _ step before => before.next step) steps
    exact always.imp fun _ sound => sound.latestDecides
  · exact along_of_preserved (I := fun _ => True) trivial (fun _ _ _ => trivial)
      (fun supervised step _ => opensForRequest supervised step) steps

/-- A start is requested while a session runs, which fails before a run takes the request:
the run closes the failed session and opens the next one, though no start was requested
since the failure. -/
theorem not_opens_when_asked :
    ¬∀ steps, Always next LatestDecides {} steps ∧ Along next OpensWhenAsked {} steps := by
  intro claimed
  have opens := (claimed [.requestStart, .beginRun, .stopIfFailed, .serve true false,
    .restartIfRunning true false, .requestStart, .tickFails .writeFailed, .beginRun,
    .stopIfFailed, .serve true false]).2
  obtain ⟨-, -, -, -, -, -, -, -, -, asked, -⟩ := opens
  exact absurd (asked (by unfold Opens; decide) (by decide)) (by decide)

end Supervised

end RtCore.Logging
