import Mathlib.Data.Prod.Lex
import RtCore.Foundation.FairRun
import RtCore.Cdmp.UnitPhases

/-!
# How a unit goes online

A unit in INIT makes a bounded number of discovery requests, whatever it receives: every request is
one more attempt or one more restart, and both are bounded. A unit in CLAIMING makes a bounded
number of claims: it repeats a claim a bounded number of times, and a refused one is followed by a
claim on a higher ID. When the work queue and the two tasks get their turns, the unit leaves INIT,
and it leaves CLAIMING for ONLINE, VERSION_MISMATCH or ERROR.

## Main definitions

* `CdmpUnit.IsClaiming` — a claim session
* `ClaimsInOrder` — the IDs claimed in a session

## Main results

* `CdmpUnit.GoesOnline.step_init`, `CdmpUnit.GoesOnline.step_claiming` — a step in INIT and one in
  CLAIMING
* `CdmpUnit.goingOnline_ends` — discovery and claiming end
-/

namespace RtCore.Cdmp

open RtCore.Foundation
open CdmpNetworkService

/-! ### The place of control work in the queue -/

/-- A piece of control work of the session. -/
def isControlOf (session : ℕ) : UnitWork → Bool
  | .network queued work => queued = session ∧ work.isControl
  | _ => false

theorem controlIn_eq_nil {session : ℕ} {queue : List UnitWork} :
    controlIn session queue = [] ↔ ∀ work ∈ queue, isControlOf session work = false := by
  rw [controlIn, List.filterMap_eq_nil_iff]
  refine forall₂_congr fun work _ => ?_
  cases work with
  | network queued work => simp [isControlOf]
  | _ => simp [isControlOf]

/-- Work that is added behind does not move the control work. -/
theorem findIdx_append_control {session : ℕ} {queue added : List UnitWork}
    (waits : controlIn session queue ≠ []) :
    (queue ++ added).findIdx (isControlOf session) = queue.findIdx (isControlOf session) := by
  have inside : queue.findIdx (isControlOf session) < queue.length := by
    rw [List.findIdx_lt_length]
    by_contra absent
    refine waits (controlIn_eq_nil.mpr fun work member => ?_)
    exact Bool.eq_false_iff.mpr fun isControl => absent ⟨work, member, isControl⟩
  rw [List.findIdx_append, if_pos inside]

/-- Other work in front of it is taken first. -/
theorem findIdx_cons_other {session : ℕ} {head : UnitWork} {rest : List UnitWork}
    (other : controlIn session [head] = []) :
    (head :: rest).findIdx (isControlOf session) = rest.findIdx (isControlOf session) + 1 := by
  have isOther := controlIn_eq_nil.mp other head (List.mem_singleton_self head)
  rw [List.findIdx_cons, isOther, cond_false]

namespace CdmpUnit

variable {parameters : CdmpUnitParameters} {unit : CdmpUnit} {busLost : Prop}

/-- How much other work the control work waits for. -/
def position (unit : CdmpUnit) : ℕ :=
  unit.workQueue.findIdx (isControlOf unit.network.session)

theorem Stays.position_append {result : CdmpUnit × List UnitOutput}
    (stays : unit.Stays unit.workQueue result) (waits : unit.control ≠ []) :
    result.1.position = unit.position := by
  obtain ⟨added, queue, -⟩ := stays.queue
  rw [position, stays.neutral.session, queue]
  exact findIdx_append_control waits

theorem Stays.position_cons {result : CdmpUnit × List UnitOutput} {head : UnitWork}
    {rest : List UnitWork} (stays : unit.Stays rest result) (queue : unit.workQueue = head :: rest)
    (other : controlIn unit.network.session [head] = []) (waits : unit.control ≠ []) :
    result.1.position + 1 = unit.position := by
  obtain ⟨added, left, -⟩ := stays.queue
  have waitsInRest : controlIn unit.network.session rest ≠ [] := by
    rwa [control_of_other queue other]
  rw [position, position, stays.neutral.session, left, queue, findIdx_cons_other other]
  exact congrArg (· + 1) (findIdx_append_control waitsInRest)

/-! ### A step in INIT -/

/-- The discovery comes before its requests, and each of them takes away one that is left. -/
def discoveryRank (unit : CdmpUnit) : ℕ ×ₗ ℕ :=
  if unit.network.isDiscoveryTaskScheduled then
    toLex (0, discoveryRequestsMax - unit.network.requestsMade)
  else toLex (1, unit.position)

/-- What a unit in INIT is ready for. -/
def discoveryTurn (unit : CdmpUnit) : Turn :=
  if unit.network.isDiscoveryTaskScheduled then .discoveryTask else .workQueue

/-- The requests since the discovery started. -/
def requestsSoFar (unit : CdmpUnit) : ℕ :=
  if unit.network.isDiscoveryTaskScheduled then unit.network.requestsMade else 0

/-- A claim session. -/
def IsClaiming (unit : CdmpUnit) : Prop :=
  unit.network.isRunning = true ∧ unit.network.device.status = .claiming

instance (unit : CdmpUnit) : Decidable unit.IsClaiming :=
  inferInstanceAs (Decidable (_ ∧ _))

/-- The unit leaves INIT to claim an ID, for ERROR or with a stop. -/
def LeavesInit (label : UnitLabel) (after : CdmpUnit) : Prop :=
  after.IsClaiming ∨ after.network.device.status = .error ∨ ∃ now, label = .stop now

/-- A step in INIT leaves it without a request, or stays and comes closer to the end: by a request,
by the start of the discovery or in the queue. -/
structure StaysInInit (unit : CdmpUnit) (label : UnitLabel) (result : CdmpUnit × List UnitOutput) :
    Prop where
  status : result.1.network.device.status = .init
  requests :
    (discoveryRequests result.2).length + unit.requestsSoFar ≤ result.1.requestsSoFar
  advances : result.1.discoveryRank < unit.discoveryRank ∨
    result.1.discoveryRank = unit.discoveryRank ∧ result.1.discoveryTurn = unit.discoveryTurn ∧
      ¬ takesTurn unit.discoveryTurn label

theorem requestsMade_le {service : CdmpNetworkService}
    (attempts : service.discoveryAttempt ≤ CdmpTimeouts.retryBackoffsMs.length)
    (resets : service.discoveryBackoffResets ≤ CdmpConstants.discoveryMaxBackoffResets) :
    service.requestsMade ≤ discoveryRequestsMax := by
  rw [requestsMade, discoveryRequestsMax, Nat.mul_succ]
  exact Nat.add_le_add (Nat.mul_le_mul_left _ resets) attempts

theorem GoesOnline.requestsSoFar_le (goes : unit.GoesOnline busLost) :
    unit.requestsSoFar ≤ discoveryRequestsMax := by
  unfold requestsSoFar
  split_ifs with scheduled
  · obtain ⟨-, -, -, attempts, resets⟩ :=
      goes.phase.of_discoveryTask (goes.sessional.running_of_task (Or.inl scheduled)) scheduled
    exact requestsMade_le attempts resets
  · exact Nat.zero_le _

/-- A neutral step in INIT. -/
theorem Stays.staysInInit {left : List UnitWork} {label : UnitLabel}
    {result : CdmpUnit × List UnitOutput} (stays : unit.Stays left result)
    (status : unit.network.device.status = .init)
    (advances : unit.network.isDiscoveryTaskScheduled = true →
      ¬ takesTurn .discoveryTask label)
    (moves : unit.network.isDiscoveryTaskScheduled = false →
      result.1.position < unit.position ∨
        result.1.position = unit.position ∧ ¬ takesTurn .workQueue label) :
    unit.StaysInInit label result := by
  have silent := stays.silent (by simp [status])
  have scheduled := stays.neutral.isDiscoveryTaskScheduled
  have made := stays.neutral.requestsMade_eq
  dsimp only at scheduled made
  refine ⟨stays.neutral.status.trans status, ?_, ?_⟩
  · rw [discoveryRequests_of_silent silent, requestsSoFar, requestsSoFar, scheduled, made]
    exact (Nat.zero_add _).le
  · rw [discoveryRank, discoveryRank, discoveryTurn, discoveryTurn, scheduled, made]
    cases isScheduled : unit.network.isDiscoveryTaskScheduled with
    | true => exact Or.inr ⟨rfl, rfl, advances isScheduled⟩
    | false =>
      rcases moves isScheduled with closer | ⟨same, notTurn⟩
      · exact Or.inl (Prod.Lex.toLex_lt_toLex.mpr (Or.inr ⟨rfl, closer⟩))
      · exact Or.inr ⟨by simp [same], rfl, notTurn⟩

/-- What happens in INIT. -/
theorem GoesOnline.step_init (parameters : CdmpUnitParameters) (goes : unit.GoesOnline busLost)
    (status : unit.network.device.status = .init) (label : UnitLabel) :
    let result := unit.step parameters label
    (LeavesInit label result.1 ∧ result.1.network.device.status ≠ .init ∧
        managementFrames result.2 = []) ∨
      unit.StaysInInit label result := by
  intro result
  obtain ⟨running, claim, phase⟩ := goes.phase.of_init status
  -- Until the discovery task is scheduled the start of the initialization waits in the queue.
  have entering (discovery : unit.network.isDiscoveryTaskScheduled = false) :
      unit.control = [.startInitialization] := by
    rcases phase with ⟨-, waiting⟩ | ⟨scheduled, -⟩
    · exact waiting
    · rw [discovery] at scheduled
      cases scheduled
  have waits (discovery : unit.network.isDiscoveryTaskScheduled = false) : unit.control ≠ [] := by
    rw [entering discovery]
    exact List.cons_ne_nil _ _
  -- A turn of the unit lowers the pair of the discovery rank and the place in the queue, unless
  -- INIT is left.
  cases unit.unitTurn parameters label with
  | waits stays notQueue notDiscovery notClaim =>
    refine Or.inr (stays.staysInInit status notDiscovery fun discovery => Or.inr ?_)
    refine ⟨stays.position_append (waits discovery), notQueue fun empty => waits discovery ?_⟩
    rw [control, empty]
    rfl
  | pops head rest queue other isTurn stays =>
    refine Or.inr (stays.staysInInit status (fun _ => ?_) fun discovery => Or.inl ?_)
    · -- The step is a run of the queue.
      cases label <;> first | exact id | cases isTurn
    · have before := stays.position_cons queue other (waits discovery)
      omega
  | works work rest now queue isControl result' =>
    have one := control_cons queue isControl
    rcases phase with ⟨discovery, waiting⟩ | ⟨-, waiting⟩
    · rw [waiting] at one
      obtain ⟨rfl, nothing⟩ := List.cons_eq_cons.mp one
      obtain ⟨network, -, -⟩ := runNetwork_frame parameters { unit with workQueue := rest } now
        (unit.network.runWork .startInitialization now)
      have value : result = _ := result'
      refine Or.inr ⟨?_, ?_, Or.inl ?_⟩
      · rw [value, network]
        exact status
      · rw [value, discoveryRequests_of_silent (managementFrames_applyEffects ..), requestsSoFar,
          discovery]
        exact Nat.zero_le _
      · rw [value, discoveryRank, discoveryRank, network, discovery]
        exact Prod.Lex.toLex_lt_toLex.mpr (Or.inl Nat.zero_lt_one)
    · rw [waiting] at one
      cases one
  | conflict work rest now queue other result' =>
    obtain ⟨-, isError, silent⟩ | ⟨-, notInit, -⟩ := conflict_cases running
    · have value : result = _ := result'
      rw [value]
      have network := (runNetwork_frame parameters { unit with workQueue := rest } now
        ({ unit.network with discoveryResponseReceived := true }.transition (·.enterError))).1
      refine Or.inl ⟨Or.inr (Or.inl ?_), ?_, (managementFrames_applyEffects ..).trans silent⟩
      · rw [network, isError]
      · rw [network, isError]
        decide
    · exact absurd status notInit
  | discovers now scheduled result' =>
    obtain ⟨-, -, -, attempts, resets⟩ := goes.phase.of_discoveryTask running scheduled
    have network := (runNetwork_frame parameters unit now unit.network.runDiscoveryAttempt).1
    have value : result = _ := result'
    rw [value]
    obtain ⟨isRunning, -, -, ⟨claiming, -, -, silent⟩ |
      ⟨device, discovery, attempts', resets', more, sent⟩⟩ :=
      runDiscoveryAttempt_spec status attempts resets
    · refine Or.inl ⟨Or.inl ?_, ?_, (managementFrames_applyEffects ..).trans silent⟩
      · rw [IsClaiming, network]
        exact ⟨isRunning.trans running, claiming⟩
      · rw [network, claiming]
        decide
    · refine Or.inr ⟨?_, ?_, Or.inl ?_⟩
      · rw [network, device]
        exact status
      · -- At most one frame, and one request more is made.
        have frames : managementFrames
            (unit.runNetwork parameters now unit.network.runDiscoveryAttempt).2 = _ :=
          managementFrames_applyEffects now unit.network.runDiscoveryAttempt.2
        have one : (sentFrames unit.network.runDiscoveryAttempt.2).length ≤ 1 := by
          rw [sent]
          unfold CdmpNetworkService.sendFrame
          split_ifs
          · exact le_rfl
          · exact Nat.zero_le _
        have few := length_discoveryRequests_le
          (unit.runNetwork parameters now unit.network.runDiscoveryAttempt).2
        rw [frames] at few
        rw [requestsSoFar, requestsSoFar, network, discovery, if_pos scheduled, if_pos scheduled]
        omega
      · have bound := requestsMade_le attempts' resets'
        rw [discoveryRank, discoveryRank, network, discovery, scheduled]
        refine Prod.Lex.toLex_lt_toLex.mpr (Or.inr ⟨rfl, ?_⟩)
        dsimp only
        omega
  | claims time isLabel scheduled result' =>
    rw [claim] at scheduled
    cases scheduled
  | starts now stopped result' =>
    rw [goes.sessional.not_running stopped] at running
    cases running
  | stops now isLabel result' =>
    obtain ⟨-, notInit, silent⟩ := doStop_spec parameters goes.sessional now
    have value : result = _ := result'
    rw [value]
    exact Or.inl ⟨Or.inr (Or.inr ⟨now, isLabel⟩), notInit, silent⟩

/-! ### A step in CLAIMING -/

/-- The claim comes before its attempts, each attempt takes away one that is left, and what ends the
session comes last. -/
def claimRank (unit : CdmpUnit) : ℕ ×ₗ ℕ :=
  if unit.network.isIdClaimTaskScheduled then toLex (1, idClaimsMax - unit.network.claimsMade)
  else if unit.control = [.startIdClaim] then toLex (2, unit.position)
  else toLex (0, unit.position)

/-- What a unit in CLAIMING is ready for. -/
def claimTurn (unit : CdmpUnit) : Turn :=
  if unit.network.isIdClaimTaskScheduled then .idClaimTask else .workQueue

/-- The session ends ONLINE, in VERSION_MISMATCH or in ERROR, or with a stop. -/
def EndsSession (label : UnitLabel) (after : CdmpUnit) : Prop :=
  after.network.device.status = .online ∨ after.network.device.status = .versionMismatch ∨
    after.network.device.status = .error ∨ ∃ now, label = .stop now

/-- What a step in CLAIMING does to the claims. -/
inductive ClaimMove (unit : CdmpUnit) (label : UnitLabel) (result : CdmpUnit × List UnitOutput) :
    Prop
  | rests (silent : managementFrames result.2 = [])
      (scheduled :
        result.1.network.isIdClaimTaskScheduled = unit.network.isIdClaimTaskScheduled)
      (control : result.1.control = unit.control)
      (claimingDeviceId : result.1.network.claimingDeviceId = unit.network.claimingDeviceId)
      (idClaimAttempt : result.1.network.idClaimAttempt = unit.network.idClaimAttempt)
  | begins (silent : managementFrames result.2 = []) (control : unit.control = [.startIdClaim])
      (before : unit.network.isIdClaimTaskScheduled = false)
      (scheduled : result.1.network.isIdClaimTaskScheduled = true)
  | claims (now : ℕ) (isLabel : label = .idClaimTask now)
      (scheduled : unit.network.isIdClaimTaskScheduled = true)
      (next : ClaimsNext unit.network result.1.network now)
      (sent : ∃ claim : CdmpIdClaimRequestMessage,
        claim.claimingDeviceId = result.1.network.claimingDeviceId ∧
          managementFrames result.2 = [claim.toCanFrame])
  | fails (silent : managementFrames result.2 = [])
      (scheduled : result.1.network.isIdClaimTaskScheduled = false)
      (control : result.1.control ≠ [.startIdClaim])
  | ends (silent : managementFrames result.2 = []) (isEnd : EndsSession label result.1)
      (ended : ¬ result.1.IsClaiming)

/-- The step comes closer to the end of the session, or leaves the unit ready for the same turn. -/
def ClaimAdvances (unit : CdmpUnit) (label : UnitLabel) (after : CdmpUnit) : Prop :=
  after.claimRank < unit.claimRank ∨
    after.claimRank = unit.claimRank ∧ after.claimTurn = unit.claimTurn ∧
      ¬ takesTurn unit.claimTurn label

/-- A step in CLAIMING ends the session or stays, and then comes closer to the end unless the bus
was lost. -/
structure ClaimStep (busLost : Prop) (unit : CdmpUnit) (label : UnitLabel)
    (result : CdmpUnit × List UnitOutput) : Prop where
  move : unit.ClaimMove label result
  inSession : EndsSession label result.1 ∨ result.1.IsClaiming
  advances : ¬ busLost → result.1.IsClaiming → unit.ClaimAdvances label result.1

/-- A neutral step in CLAIMING. -/
theorem Stays.isClaiming {left : List UnitWork} {result : CdmpUnit × List UnitOutput}
    (stays : unit.Stays left result) (isClaiming : unit.IsClaiming) : result.1.IsClaiming :=
  ⟨stays.neutral.isRunning.trans isClaiming.1, stays.neutral.status.trans isClaiming.2⟩

theorem Stays.rests {left : List UnitWork} {label : UnitLabel}
    {result : CdmpUnit × List UnitOutput} (stays : unit.Stays left result)
    (status : unit.network.device.status = .claiming) (same : result.1.control = unit.control) :
    unit.ClaimMove label result :=
  .rests (stays.silent (by simp [status])) stays.neutral.isIdClaimTaskScheduled same
    stays.neutral.claimingDeviceId stays.neutral.idClaimAttempt

theorem Stays.claimAdvances {left : List UnitWork} {label : UnitLabel}
    {result : CdmpUnit × List UnitOutput} (stays : unit.Stays left result)
    (same : result.1.control = unit.control)
    (notClaim : unit.network.isIdClaimTaskScheduled = true → ¬ takesTurn .idClaimTask label)
    (moves : unit.network.isIdClaimTaskScheduled = false →
      result.1.position < unit.position ∨
        result.1.position = unit.position ∧ ¬ takesTurn .workQueue label) :
    unit.ClaimAdvances label result.1 := by
  have scheduled := stays.neutral.isIdClaimTaskScheduled
  have made := stays.neutral.claimsMade_eq
  dsimp only at scheduled made
  rw [ClaimAdvances, claimRank, claimRank, claimTurn, claimTurn, scheduled, made, same]
  cases isScheduled : unit.network.isIdClaimTaskScheduled with
  | true => exact Or.inr ⟨rfl, rfl, notClaim isScheduled⟩
  | false =>
    rcases moves isScheduled with closer | ⟨still, notTurn⟩
    · refine Or.inl ?_
      simp only [Bool.false_eq_true, if_false]
      split_ifs
      · exact Prod.Lex.toLex_lt_toLex.mpr (Or.inr ⟨rfl, closer⟩)
      · exact Prod.Lex.toLex_lt_toLex.mpr (Or.inr ⟨rfl, closer⟩)
    · exact Or.inr ⟨by rw [still], rfl, notTurn⟩

/-- The claim task in CLAIMING. -/
theorem GoesOnline.claimMove (goes : unit.GoesOnline busLost) (isClaiming : unit.IsClaiming)
    (lost : unit.network.isCanbusValid = false → busLost) {now : ℕ}
    (scheduled : unit.network.isIdClaimTaskScheduled = true) :
    unit.ClaimStep busLost (.idClaimTask now)
      (unit.runNetwork parameters now (unit.network.runIdClaimAttempt now)) := by
  let result := unit.runNetwork parameters now (unit.network.runIdClaimAttempt now)
  change unit.ClaimStep busLost (.idClaimTask now) result
  obtain ⟨running, status⟩ := isClaiming
  have reports := unit.network.reports_runIdClaimAttempt now
  obtain ⟨waiting, -, -, position⟩ := goes.phase.of_idClaimTask running scheduled
  have network : result.1.network = _ :=
    (runNetwork_frame parameters unit now (unit.network.runIdClaimAttempt now)).1
  have frames : managementFrames result.2 = _ :=
    managementFrames_applyEffects now (unit.network.runIdClaimAttempt now).2
  have before : unit.claimRank = toLex (1, idClaimsMax - unit.network.claimsMade) :=
    if_pos scheduled
  obtain ⟨isRunning, session, -, ⟨noBus, device, unscheduled, silent⟩ |
    ⟨claiming, unscheduled, work, ends, sent⟩ | ⟨online, unscheduled, -, silent⟩ |
    ⟨next, sent⟩⟩ := runIdClaimAttempt_spec status position now
  -- The task waits for no work of its own, so the queue then holds just what this run adds.
  all_goals
    have control : result.1.control =
        unit.control ++ controlWork (unit.network.runIdClaimAttempt now).2 :=
      control_runNetwork reports session
    rw [waiting, List.nil_append] at control
  · -- Without a bus the session is stuck, which `busLost` allows.
    rw [silent] at frames control
    refine ⟨.fails frames ?_ ?_, Or.inr ?_, fun notLost => absurd (lost noBus) notLost⟩
    · rw [network, unscheduled]
    · rw [control]
      exact List.cons_ne_nil _ _ ∘ Eq.symm
    · rw [IsClaiming, network, device]
      exact ⟨isRunning.trans running, status⟩
  · have isWork : result.1.control = [work] := by
      rw [control, sent]
      rcases ends with rfl | rfl <;> rfl
    have notStart : result.1.control ≠ [.startIdClaim] := by
      rw [isWork]
      rcases ends with rfl | rfl <;> decide
    have isUnscheduled : result.1.network.isIdClaimTaskScheduled = false := by
      rw [network, unscheduled]
    refine ⟨.fails ?_ isUnscheduled notStart, Or.inr ?_, fun _ _ => Or.inl ?_⟩
    · rw [frames, sent]
      rfl
    · rw [IsClaiming, network]
      exact ⟨isRunning.trans running, claiming⟩
    · rw [before, claimRank, isUnscheduled, if_neg Bool.false_ne_true, if_neg notStart]
      exact Prod.Lex.toLex_lt_toLex.mpr (Or.inl Nat.zero_lt_one)
  · have isOnline : result.1.network.device.status = .online := by rw [network, online]
    have ended : ¬ result.1.IsClaiming := by
      rintro ⟨-, claiming⟩
      rw [isOnline] at claiming
      cases claiming
    exact ⟨.ends (frames.trans silent) (Or.inl isOnline) ended, Or.inl (Or.inl isOnline),
      fun _ claiming => absurd claiming ended⟩
  · rw [← network] at next
    -- One more claim: the unit stays in CLAIMING and fewer claims are left.
    let claim : CdmpIdClaimRequestMessage :=
      { claimingDeviceId := result.1.network.claimingDeviceId
        uid := result.1.network.device.uid
        protocolVersion := result.1.network.device.protocolVersion }
    have isSent : managementFrames result.2 = [claim.toCanFrame] := by
      rw [frames, sent, ← network]
      rfl
    refine ⟨.claims now rfl scheduled next ⟨claim, rfl, isSent⟩, Or.inr ⟨?_, ?_⟩,
      fun _ _ => Or.inl ?_⟩
    · rw [network]
      exact isRunning.trans running
    · exact next.status.trans status
    · have more := next.claimsMade_lt position
      have bound := next.position.claimsMade_le
      rw [before, claimRank, if_pos (next.isIdClaimTaskScheduled.trans scheduled)]
      refine Prod.Lex.toLex_lt_toLex.mpr (Or.inr ⟨rfl, ?_⟩)
      dsimp only
      omega

/-- What happens in CLAIMING. -/
theorem GoesOnline.step_claiming (parameters : CdmpUnitParameters)
    (goes : unit.GoesOnline busLost) (isClaiming : unit.IsClaiming)
    (lost : unit.network.isCanbusValid = false → busLost) (label : UnitLabel) :
    unit.ClaimStep busLost label (unit.step parameters label) := by
  let result := unit.step parameters label
  change unit.ClaimStep busLost label result
  obtain ⟨running, status⟩ := isClaiming
  obtain ⟨discovery, phase⟩ := goes.phase.of_claiming running status
  have waits (notLost : ¬ busLost) (unscheduled : unit.network.isIdClaimTaskScheduled = false) :
      unit.control ≠ [] := by
    rcases phase with ⟨scheduled, -⟩ | ⟨-, waiting | ⟨work, -, waiting⟩ | ⟨isLost, -⟩⟩
    · rw [unscheduled] at scheduled
      cases scheduled
    · rw [waiting]
      exact List.cons_ne_nil _ _
    · rw [waiting]
      exact List.cons_ne_nil _ _
    · exact absurd isLost notLost
  -- A step after which there is no session.
  have ends (stopped : result.1.network.isRunning = false) (silent : managementFrames result.2 = [])
      (isEnd : EndsSession label result.1) : unit.ClaimStep busLost label result := by
    have notClaiming : ¬ result.1.IsClaiming := by
      rintro ⟨isRunning, -⟩
      rw [stopped] at isRunning
      cases isRunning
    exact ⟨.ends silent isEnd notClaiming, Or.inl isEnd,
      fun _ claiming => absurd claiming notClaiming⟩
  cases unit.unitTurn parameters label with
  | waits stays notQueue notDiscovery notClaim =>
    have same : result.1.control = unit.control := stays.control
    refine ⟨stays.rests status same, Or.inr (stays.isClaiming ⟨running, status⟩), fun notLost _ =>
      stays.claimAdvances same notClaim fun unscheduled => Or.inr ?_⟩
    have some_work := waits notLost unscheduled
    refine ⟨stays.position_append some_work, notQueue fun empty => some_work ?_⟩
    rw [control, empty]
    rfl
  | pops head rest queue other isTurn stays =>
    have same : result.1.control = unit.control :=
      stays.control.trans (control_of_other queue other)
    refine ⟨stays.rests status same, Or.inr (stays.isClaiming ⟨running, status⟩), fun notLost _ =>
      stays.claimAdvances same (fun _ => ?_) fun unscheduled => Or.inl ?_⟩
    · -- The step is a run of the queue.
      cases label <;> first | exact id | cases isTurn
    · have before := stays.position_cons queue other (waits notLost unscheduled)
      omega
  | works work rest now queue isControl isResult =>
    have network := (runNetwork_frame parameters { unit with workQueue := rest } now
      (unit.network.runWork work now)).1
    have frames : managementFrames
        ({ unit with workQueue := rest }.runNetwork parameters now
          (unit.network.runWork work now)).2 = _ := managementFrames_applyEffects ..
    rw [← isResult] at network frames
    have one := control_cons queue isControl
    -- A status that ends the session.
    have fails (ended : CdmpDeviceStatus) (stops : stopsService ended = true)
        (other : ended ≠ .claiming)
        (valid : CdmpDeviceStatus.claiming.isValidTransition ended = true)
        (moves : unit.network.runWork work now = unit.network.transition (·.setStatus ended false))
        (isEnd : ended = .versionMismatch ∨ ended = .error) :
        unit.ClaimStep busLost label result := by
      obtain ⟨idle, isEnded, silent, -⟩ | ⟨-, same | refused⟩ := stops_or_same _ running stops
      · rw [← moves] at idle isEnded silent
        rw [← network] at idle isEnded
        refine ends idle.isRunning (frames.trans silent) ?_
        rcases isEnd with rfl | rfl
        · exact Or.inr (Or.inl isEnded)
        · exact Or.inr (Or.inr (Or.inl isEnded))
      · exact absurd (same.trans status) other
      · rw [status, valid] at refused
        cases refused
    rcases phase with ⟨-, waiting, -⟩ | ⟨unscheduled, waiting | ⟨other, isEnd, waiting⟩ |
      ⟨-, waiting⟩⟩
    all_goals rw [waiting] at one
    · cases one
    · obtain ⟨rfl, -⟩ := List.cons_eq_cons.mp one
      have scheduled : result.1.network.isIdClaimTaskScheduled = true := by rw [network]; rfl
      have claiming : result.1.IsClaiming := by
        rw [IsClaiming, network]
        exact ⟨running, status⟩
      refine ⟨.begins frames waiting unscheduled scheduled, Or.inr claiming, fun _ _ => Or.inl ?_⟩
      rw [claimRank, claimRank, if_pos scheduled, unscheduled, if_neg Bool.false_ne_true,
        if_pos waiting]
      exact Prod.Lex.toLex_lt_toLex.mpr (Or.inl Nat.one_lt_two)
    · obtain ⟨rfl, -⟩ := List.cons_eq_cons.mp one
      rcases isEnd with rfl | rfl
      · exact fails .versionMismatch rfl (by decide) rfl rfl (Or.inl rfl)
      · exact fails .error rfl (by decide) rfl rfl (Or.inr rfl)
    · cases one
  | conflict work rest now queue other isResult =>
    obtain ⟨idle, isError, silent⟩ | ⟨-, -, notClaiming⟩ := conflict_cases running
    · have network := (runNetwork_frame parameters { unit with workQueue := rest } now
        ({ unit.network with discoveryResponseReceived := true }.transition (·.enterError))).1
      have value : result = _ := isResult
      rw [← isResult] at network
      refine ends ?_ ?_ (Or.inr (Or.inr (Or.inl ?_)))
      · exact (congrArg (·.isRunning) network).trans idle.isRunning
      · rw [value]
        exact (managementFrames_applyEffects ..).trans silent
      · exact (congrArg (·.device.status) network).trans isError
    · exact absurd status notClaiming
  | discovers now scheduled isResult =>
    rw [discovery] at scheduled
    cases scheduled
  | claims time isLabel scheduled isResult =>
    subst isLabel
    have value : result = _ := isResult
    rw [value]
    exact goes.claimMove ⟨running, status⟩ lost scheduled
  | starts now stopped isResult =>
    rw [goes.sessional.not_running stopped] at running
    cases running
  | stops now isLabel isResult =>
    obtain ⟨idle, -, silent⟩ := doStop_spec parameters goes.sessional now
    have value : result = _ := isResult
    rw [← value] at idle silent
    exact ends idle.isRunning silent (Or.inr (Or.inr (Or.inr ⟨now, isLabel⟩)))

/-! ### The IDs claimed in a session -/

/-- The IDs only go up, each is claimed a bounded number of times, and so are all together. -/
structure ClaimsInOrder (ids : List UInt8) : Prop where
  ascending : ids.Pairwise (· ≤ ·)
  inRange : ∀ id ∈ ids, 1 ≤ id ∧ id ≤ 254
  attempts : ∀ id, ids.count id ≤ CdmpConstants.idClaimMaxAttempts
  total : ids.length ≤ 254 * CdmpConstants.idClaimMaxAttempts

/-- Without the repetitions the IDs strictly increase. -/
theorem ClaimsInOrder.increasing {ids : List UInt8} (inOrder : ClaimsInOrder ids) :
    ids.dedup.Pairwise (· < ·) := by
  have ascending := inOrder.ascending.sublist ids.dedup_sublist
  exact (ascending.and (List.nodup_dedup ids)).imp fun both =>
    UInt8.lt_of_le_of_ne both.1 both.2

/-- The IDs claimed in a session up to a state of it: the last one is the ID being claimed. -/
structure ClaimedSoFar (unit : CdmpUnit) (ids : List UInt8) : Prop where
  inOrder : ClaimsInOrder ids
  last : unit.IsClaiming → unit.network.isIdClaimTaskScheduled = true →
    (∀ id ∈ ids, id ≤ unit.network.claimingDeviceId) ∧
      ids.count unit.network.claimingDeviceId ≤ unit.network.idClaimAttempt ∧
      ids.length ≤ unit.network.claimsMade
  none : unit.IsClaiming → unit.network.isIdClaimTaskScheduled = false →
    unit.control = [.startIdClaim] → ids = []

theorem claimsInOrder_nil : ClaimsInOrder [] :=
  ⟨.nil, nofun, fun _ => Nat.zero_le _, Nat.zero_le _⟩

theorem claimedSoFar_nil (unit : CdmpUnit) : unit.ClaimedSoFar [] :=
  ⟨claimsInOrder_nil, fun _ _ => ⟨nofun, Nat.zero_le _, Nat.zero_le _⟩, fun _ _ _ => rfl⟩

/-- One more claim. -/
theorem ClaimedSoFar.concat {ids : List UInt8} {after : CdmpUnit} {now : ℕ}
    (soFar : unit.ClaimedSoFar ids) (isClaiming : unit.IsClaiming)
    (scheduled : unit.network.isIdClaimTaskScheduled = true)
    (position : unit.network.ClaimPosition)
    (next : ClaimsNext unit.network after.network now) :
    after.ClaimedSoFar (ids ++ [after.network.claimingDeviceId]) := by
  obtain ⟨below, count, made⟩ := soFar.last isClaiming scheduled
  have scheduled' := next.isIdClaimTaskScheduled.trans scheduled
  have more := next.claimsMade_lt position
  have bound := next.position.claimsMade_le
  -- The ID stays or goes up; on the same ID the attempts count up, on a higher one they start at 1.
  have goesUp : unit.network.claimingDeviceId ≤ after.network.claimingDeviceId := by
    obtain ⟨same, -, -⟩ | ⟨chosen, -⟩ := next.advances
    · rw [same]
      exact UInt8.le_refl _
    · exact UInt8.le_of_lt chosen.above
  have attempts : ids.count after.network.claimingDeviceId + 1 ≤ after.network.idClaimAttempt := by
    obtain ⟨same, -, again⟩ | ⟨chosen, first⟩ := next.advances
    · rw [same, again]
      omega
    · -- No earlier claim was on an ID this high.
      have fresh : after.network.claimingDeviceId ∉ ids := fun member =>
        UInt8.not_le.mpr chosen.above (below _ member)
      rw [List.count_eq_zero_of_not_mem fresh, first]
  have total : (ids ++ [after.network.claimingDeviceId]).length ≤ after.network.claimsMade := by
    rw [List.length_append, List.length_singleton]
    omega
  refine ⟨⟨?_, fun id member => ?_, fun id => ?_, total.trans bound⟩,
    fun _ _ => ⟨?_, ?_, total⟩, ?_⟩
  · refine List.pairwise_append.mpr ⟨soFar.inOrder.ascending, List.pairwise_singleton _ _, ?_⟩
    intro id member last isLast
    rw [List.mem_singleton.mp isLast]
    exact UInt8.le_trans (below id member) goesUp
  · rcases List.mem_append.mp member with before | isLast
    · exact soFar.inOrder.inRange id before
    · rw [List.mem_singleton.mp isLast]
      exact next.inRange
  · have limit := next.position.attempts
    have before := soFar.inOrder.attempts id
    rw [List.count_append, List.count_singleton]
    split_ifs with own
    · rw [beq_iff_eq.mp own] at attempts
      omega
    · exact before
  · intro id member
    rcases List.mem_append.mp member with before | isLast
    · exact UInt8.le_trans (below id before) goesUp
    · rw [List.mem_singleton.mp isLast]
      exact UInt8.le_refl _
  · rw [List.count_append, List.count_singleton_self]
    exact attempts
  · intro _ unscheduled
    rw [scheduled'] at unscheduled
    cases unscheduled

/-- A step in CLAIMING. -/
theorem ClaimedSoFar.step (parameters : CdmpUnitParameters) {ids : List UInt8}
    (soFar : unit.ClaimedSoFar ids) (goes : unit.GoesOnline True) (isClaiming : unit.IsClaiming)
    (label : UnitLabel) :
    (unit.step parameters label).1.ClaimedSoFar
      (ids ++ claimedIds (unit.step parameters label).2) := by
  have move := (goes.step_claiming parameters isClaiming (fun _ => trivial) label).move
  generalize unit.step parameters label = result at move
  -- Only a claim adds an ID; the first run of the session starts from none.
  cases move with
  | rests silent scheduled control claimingDeviceId idClaimAttempt =>
    rw [claimedIds_of_silent silent, List.append_nil]
    refine ⟨soFar.inOrder, fun _ isScheduled => ?_, fun _ unscheduled waiting => ?_⟩
    · have last := soFar.last isClaiming (scheduled ▸ isScheduled)
      rwa [claimingDeviceId, idClaimAttempt, claimsMade, claimingDeviceId, idClaimAttempt]
    · exact soFar.none isClaiming (scheduled ▸ unscheduled) (control ▸ waiting)
  | begins silent control before scheduled =>
    rw [claimedIds_of_silent silent, List.append_nil, soFar.none isClaiming before control]
    exact claimedSoFar_nil _
  | claims now isLabel scheduled next sent =>
    obtain ⟨claim, own, frames⟩ := sent
    obtain ⟨-, -, -, position⟩ := goes.phase.of_idClaimTask isClaiming.1 scheduled
    rw [claimedIds_of_claim frames, own]
    exact soFar.concat isClaiming scheduled position next
  | fails silent scheduled control =>
    rw [claimedIds_of_silent silent, List.append_nil]
    refine ⟨soFar.inOrder, fun _ isScheduled => ?_, fun _ _ waiting => absurd waiting control⟩
    rw [scheduled] at isScheduled
    cases isScheduled
  | ends silent isEnd ended =>
    rw [claimedIds_of_silent silent, List.append_nil]
    exact ⟨soFar.inOrder, fun isClaiming => absurd isClaiming ended,
      fun isClaiming => absurd isClaiming ended⟩

/-! ### Runs -/

/-- The unit at a moment of an infinite run. -/
def unitAt (parameters : CdmpUnitParameters) (unit : CdmpUnit) (labels : ℕ → UnitLabel) (n : ℕ) :
    CdmpUnit :=
  stateAt (fun unit label => (unit.step parameters label).1) unit labels n

/-- What the unit sends in the `count` steps from the moment `start`. -/
def sentFrom (parameters : CdmpUnitParameters) (unit : CdmpUnit) (labels : ℕ → UnitLabel)
    (start count : ℕ) : List UnitOutput :=
  emitted (fun unit label => (unit.step parameters label).1)
    (fun unit label => (unit.step parameters label).2) unit labels start count

variable {labels : ℕ → UnitLabel} {start count : ℕ}

variable (parameters labels) in
theorem goesOnline_unitAt (goes : unit.GoesOnline True) (n : ℕ) :
    (unit.unitAt parameters labels n).GoesOnline True :=
  stateAt_invariant goes (fun _ label goes => goes.step parameters (fun _ => trivial) label) n

/-- The requests of a stay in INIT: a bounded number, and in INIT as many as the service counts. -/
structure RequestedSoFar (unit : CdmpUnit) (requests : ℕ) : Prop where
  limit : requests ≤ discoveryRequestsMax
  counted : unit.network.device.status = .init → requests ≤ unit.requestsSoFar

theorem RequestedSoFar.step (parameters : CdmpUnitParameters) {requests : ℕ}
    (soFar : unit.RequestedSoFar requests) (goes : unit.GoesOnline True)
    (status : unit.network.device.status = .init) (label : UnitLabel) :
    (unit.step parameters label).1.RequestedSoFar
      (requests + (discoveryRequests (unit.step parameters label).2).length) := by
  have next := goes.step parameters (fun _ => trivial) label
  obtain ⟨-, notInit, silent⟩ | stays := goes.step_init parameters status label
  · rw [discoveryRequests_of_silent silent]
    exact ⟨soFar.limit, fun isInit => absurd isInit notInit⟩
  · have more := stays.requests
    have counted := soFar.counted status
    have bound := next.requestsSoFar_le
    exact ⟨by omega, fun _ => by omega⟩

/-- A stay in INIT. -/
theorem requestedSoFar_sentFrom (goes : unit.GoesOnline True)
    (inInit : ∀ n, start ≤ n → n < start + count →
      (unit.unitAt parameters labels n).network.device.status = .init) :
    (unit.unitAt parameters labels (start + count)).RequestedSoFar
      (discoveryRequests (unit.sentFrom parameters labels start count)).length := by
  refine emitted_invariant (Q := fun (unit : CdmpUnit) outputs =>
    unit.RequestedSoFar (discoveryRequests outputs).length)
    ⟨Nat.zero_le _, fun _ => Nat.zero_le _⟩ ?_
  intro n from_start inside before soFar
  rw [discoveryRequests_append, List.length_append]
  exact soFar.step parameters (goesOnline_unitAt parameters labels goes n)
    (inInit n from_start inside) (labels n)

/-- The claims of a session. -/
theorem claimsInOrder_sentFrom (goes : unit.GoesOnline True)
    (inSession : ∀ n, start ≤ n → n < start + count →
      (unit.unitAt parameters labels n).IsClaiming) :
    ClaimsInOrder (claimedIds (unit.sentFrom parameters labels start count)) := by
  have soFar : (unit.unitAt parameters labels (start + count)).ClaimedSoFar
      (claimedIds (unit.sentFrom parameters labels start count)) := by
    refine emitted_invariant (Q := fun (unit : CdmpUnit) outputs =>
      unit.ClaimedSoFar (claimedIds outputs)) (claimedSoFar_nil _) ?_
    intro n from_start inside before soFar
    rw [claimedIds_append]
    exact soFar.step parameters (goesOnline_unitAt parameters labels goes n)
      (inSession n from_start inside) (labels n)
  exact soFar.inOrder

/-- A fair run leaves INIT. -/
theorem exists_leavesInit (goes : unit.GoesOnline True) (fair : Fair takesTurn labels)
    (isInit : (unit.unitAt parameters labels start).network.device.status = .init) :
    ∃ count, (∀ n, start ≤ n → n ≤ start + count →
        (unit.unitAt parameters labels n).network.device.status = .init) ∧
      LeavesInit (labels (start + count)) (unit.unitAt parameters labels (start + count + 1)) := by
  have leaves : ∃ m, start ≤ m ∧
      ¬ (unit.unitAt parameters labels m).network.device.status = .init :=
    exists_exit fair (fun unit => unit.network.device.status = .init) discoveryRank discoveryTurn
      fun n _ status status' => by
        obtain ⟨-, notInit, -⟩ | stays :=
          (goesOnline_unitAt parameters labels goes n).step_init parameters status (labels n)
        · exact absurd status' notInit
        · exact stays.advances
  obtain ⟨count, inside, outside⟩ := exists_last_inside
    (fun n => (unit.unitAt parameters labels n).network.device.status = .init) isInit leaves
  have status := inside (start + count) (Nat.le_add_right _ _) le_rfl
  obtain ⟨left, -, -⟩ | stays := (goesOnline_unitAt parameters labels goes
    (start + count)).step_init parameters status (labels (start + count))
  · exact ⟨count, inside, left⟩
  · exact absurd stays.status outside

variable (parameters labels) in
/-- While the bus is there, no unit is left in CLAIMING. -/
theorem goesOnline_from (goes : (unit.unitAt parameters labels start).GoesOnline False)
    (valid : ∀ n, start ≤ n → (unit.unitAt parameters labels n).network.isCanbusValid = true)
    {n : ℕ} (later : start ≤ n) : (unit.unitAt parameters labels n).GoesOnline False := by
  induction n, later using Nat.le_induction with
  | base => exact goes
  | succ n later ih =>
    refine ih.step parameters (fun lost => ?_) (labels n)
    rw [valid n later] at lost
    cases lost

/-- A fair run ends a claim session, while the bus is there. -/
theorem exists_endsSession (fair : Fair takesTurn labels)
    (goes : (unit.unitAt parameters labels start).GoesOnline False)
    (valid : ∀ n, start ≤ n → (unit.unitAt parameters labels n).network.isCanbusValid = true)
    (isClaiming : (unit.unitAt parameters labels start).IsClaiming) :
    ∃ count, (∀ n, start ≤ n → n ≤ start + count →
        (unit.unitAt parameters labels n).IsClaiming) ∧
      EndsSession (labels (start + count)) (unit.unitAt parameters labels (start + count + 1)) := by
  have step (n : ℕ) (later : start ≤ n) (claiming : (unit.unitAt parameters labels n).IsClaiming) :=
    (goesOnline_from parameters labels goes valid later).step_claiming parameters claiming
      (fun lost => by simp [valid n later] at lost) (labels n)
  have leaves : ∃ m, start ≤ m ∧ ¬ (unit.unitAt parameters labels m).IsClaiming :=
    exists_exit fair IsClaiming claimRank claimTurn fun n later claiming claiming' =>
      (step n later claiming).advances id claiming'
  obtain ⟨count, inside, outside⟩ := exists_last_inside
    (fun n => (unit.unitAt parameters labels n).IsClaiming) isClaiming leaves
  have last := inside (start + count) (Nat.le_add_right _ _) le_rfl
  exact ⟨count, inside, (step _ (Nat.le_add_right _ _) last).inSession.resolve_right outside⟩

/-- Discovery and claiming end. In INIT a bounded number of discovery requests is sent, and a fair
run leaves INIT: for CLAIMING, for ERROR or with a stop. In a claim session the IDs claimed go up in
1..254, each is claimed a bounded number of times, and an ID is free when it is claimed first; a
fair run ends the session ONLINE, in VERSION_MISMATCH or in ERROR, or with a stop, while the bus is
there. -/
theorem goingOnline_ends (parameters : CdmpUnitParameters) (uid : { uid : UInt32 // uid ≠ 0 })
    (features : UInt16) (created : ℕ) (labels : ℕ → UnitLabel) :
    let unit := (create parameters uid features created).unitAt parameters labels
    let sent := (create parameters uid features created).sentFrom parameters labels
    (∀ start count,
      (∀ n, start ≤ n → n < start + count → (unit n).network.device.status = .init) →
        (discoveryRequests (sent start count)).length ≤
          3 * (CdmpConstants.discoveryMaxBackoffResets + 1)) ∧
    (∀ start count, (∀ n, start ≤ n → n < start + count → (unit n).IsClaiming) →
      ClaimsInOrder (claimedIds (sent start count)) ∧
        (claimedIds (sent start count)).dedup.Pairwise (· < ·)) ∧
    (∀ n, (unit n).IsClaiming → ∀ id ∈ claimedIds ((unit n).step parameters (labels n)).2,
      ∃ now, labels n = .idClaimTask now ∧
        (id = (unit n).network.claimingDeviceId ∨ (unit n).network.Chosen id now)) ∧
    (Fair takesTurn labels → ∀ start, (unit start).network.device.status = .init →
      ∃ count, (∀ n, start ≤ n → n ≤ start + count → (unit n).network.device.status = .init) ∧
        LeavesInit (labels (start + count)) (unit (start + count + 1)) ∧
        ((∀ n, start ≤ n → (unit n).network.isCanbusValid = true) →
          let claimStart := start + count + 1
          (unit claimStart).IsClaiming →
            ∃ claims, (∀ n, claimStart ≤ n → n ≤ claimStart + claims → (unit n).IsClaiming) ∧
              EndsSession (labels (claimStart + claims)) (unit (claimStart + claims + 1)))) := by
  intro unit sent
  have goes : (create parameters uid features created).GoesOnline True :=
    goesOnline_create uid features created
  refine ⟨fun start count inInit => ?_, fun start count inSession => ?_,
    fun n isClaiming id member => ?_, fun fair start isInit => ?_⟩
  · exact (requestedSoFar_sentFrom goes inInit).limit
  · have inOrder := claimsInOrder_sentFrom goes inSession
    exact ⟨inOrder, inOrder.increasing⟩
  · have move := ((goesOnline_unitAt parameters labels goes n).step_claiming parameters isClaiming
      (fun _ => trivial) (labels n)).move
    generalize (unit n).step parameters (labels n) = result at move member
    -- Only a claim sends a claim frame.
    cases move with
    | claims now isLabel scheduled next sent =>
      obtain ⟨claim, own, frames⟩ := sent
      rw [claimedIds_of_claim frames, own, List.mem_singleton] at member
      subst member
      refine ⟨now, isLabel, ?_⟩
      obtain ⟨same, -⟩ | ⟨chosen, -⟩ := next.advances
      · exact Or.inl same
      · exact Or.inr chosen
    | rests silent => simp [claimedIds_of_silent silent] at member
    | begins silent => simp [claimedIds_of_silent silent] at member
    | fails silent => simp [claimedIds_of_silent silent] at member
    | ends silent => simp [claimedIds_of_silent silent] at member
  · obtain ⟨count, inside, leaves⟩ := exists_leavesInit goes fair isInit
    refine ⟨count, inside, leaves, ?_⟩
    intro valid claimStart isClaiming
    -- Before CLAIMING the bus cannot have been lost, and from here on it is there.
    have atStart := goesOnline_unitAt parameters labels goes start
    have known : (unit start).GoesOnline False :=
      ⟨atStart.sessional, atStart.phase.not_lost isInit⟩
    exact exists_endsSession fair (goesOnline_from parameters labels known valid (by omega))
      (fun n later => valid n (by omega)) isClaiming

end CdmpUnit

end RtCore.Cdmp
