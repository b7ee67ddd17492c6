import Mathlib.Data.List.Basic
import Mathlib.Tactic.Ring
import RtCore.Foundation.Run

/-!
# Rate groups

The sensors with one sampling rate are a group, which runs at deadlines one period apart. A tick
runs every group whose deadline has come. The deadline is advanced before the group runs, and once
more after a run that took longer than the time to the next deadline; the periods this skips are
counted.

How long a run takes is open, and so is whether an exception escapes it: a tick is given the clock
after the run of each group, or none. Times are in system ticks.

## Main definitions

* `RateGroup.run` — a due group runs
* `RateGroupScheduler.start`, `RateGroupScheduler.tick`

## Main results

* `RateGroupScheduler.tick_accounts` — deadlines stay on their grid and every period is accounted
  for
-/

namespace RtCore.Sensors

open RtCore.Foundation

/-- The statistics have 32 bits. -/
structure RateGroup where
  periodTicks : ℤ
  nextDeadline : ℤ
  ticks : UInt32 := 0
  overruns : UInt32 := 0
deriving DecidableEq, Repr

/-- The clock after the run of a group; `none` where an exception escapes it. -/
abbrev RunEnd := Option ℤ

/-- What a due group does in a tick. -/
def RateGroup.run (group : RateGroup) (runEnd : RunEnd) : RateGroup :=
  -- A retry after an exception finds the group not due.
  let group := { group with nextDeadline := group.nextDeadline + group.periodTicks }
  match runEnd with
  | none => group
  | some after =>
    let group := { group with ticks := group.ticks + 1 }
    if group.nextDeadline ≤ after then
      let missed := (after - group.nextDeadline) / group.periodTicks + 1
      { group with
        nextDeadline := group.nextDeadline + missed * group.periodTicks
        overruns := group.overruns + UInt32.ofNat missed.toNat }
    else group

/-- A run of a group: its deadline, the clock at the start of the tick and after the run. -/
structure GroupRun where
  index : ℕ
  deadline : ℤ
  now : ℤ
  runEnd : RunEnd
deriving DecidableEq, Repr

/-- What a tick reads: whether the scheduler is running, before and after the groups, the clock,
and the clock after the run of each group. -/
structure TickInput where
  isRunning : Bool
  now : ℤ
  runEnd : ℕ → RunEnd
  isStillRunning : Bool

/-- What a run of the scheduler's work comes to. -/
inductive TickResult
  | threw
  | stopped
  | rescheduled (delay : ℤ)
deriving DecidableEq, Repr

/-- The groups, with the runs since the start. -/
structure RateGroupScheduler where
  groups : List RateGroup
  runs : List GroupRun := []
deriving DecidableEq, Repr

namespace RateGroupScheduler

/-- The greatest 64-bit time. -/
def maxTicks : ℤ := 2 ^ 63 - 1

/-- `GetEarliestDeadline`: the first deadline of any group. -/
def getEarliestDeadline (groups : List RateGroup) : ℤ :=
  groups.foldl (fun earliest group => min earliest group.nextDeadline) maxTicks

/-- Every deadline is one period from now. -/
def start (groups : List RateGroup) (now : ℤ) : RateGroupScheduler where
  groups := groups.map fun group => { group with nextDeadline := now + group.periodTicks }

/-- The loop of a tick over the groups from an index on: the groups after it, their runs, and
whether an exception ended it. -/
def runDue (now : ℤ) (runEnd : ℕ → RunEnd) :
    ℕ → List RateGroup → List RateGroup × List GroupRun × Bool
  | _, [] => ([], [], false)
  | index, group :: groups =>
    if now < group.nextDeadline then
      let (groups, runs, threw) := runDue now runEnd (index + 1) groups
      (group :: groups, runs, threw)
    else
      let run : GroupRun := ⟨index, group.nextDeadline, now, runEnd index⟩
      match runEnd index with
      | none => (group.run none :: groups, [run], true)
      | some after =>
        let (groups, runs, threw) := runDue now runEnd (index + 1) groups
        (group.run (some after) :: groups, run :: runs, threw)

/-- A tick, and what it returns. -/
def tickResult (scheduler : RateGroupScheduler) (input : TickInput) :
    RateGroupScheduler × TickResult :=
  if !input.isRunning then (scheduler, .stopped)
  else
    let (groups, runs, threw) := runDue input.now input.runEnd 0 scheduler.groups
    let scheduler := { groups, runs := scheduler.runs ++ runs }
    if threw then (scheduler, .threw)
    else if !input.isStillRunning then (scheduler, .stopped)
    else (scheduler, .rescheduled (getEarliestDeadline groups))

/-- The scheduler after a run of its work. -/
def tick (scheduler : RateGroupScheduler) (input : TickInput) : RateGroupScheduler :=
  (scheduler.tickResult input).1

/-- The runs of one group. -/
def runsOf (index : ℕ) (runs : List GroupRun) : List GroupRun :=
  runs.filter fun run => run.index = index

end RateGroupScheduler

/-! ### One run -/

namespace RateGroup

variable {group : RateGroup}

/-- A run passes some grid points: the one it is for, and those it overruns. -/
theorem run_spec (positive : 0 < group.periodTicks) (runEnd : RunEnd) :
    (group.run runEnd).periodTicks = group.periodTicks ∧
      ∃ missed : ℕ,
        (group.run runEnd).nextDeadline = group.nextDeadline + (missed + 1) * group.periodTicks ∧
        (group.run runEnd).overruns = group.overruns + UInt32.ofNat missed ∧
        ∀ after, runEnd = some after → after < (group.run runEnd).nextDeadline := by
  cases runEnd with
  | none => exact ⟨rfl, 0, by simp [run], by simp [run], nofun⟩
  | some after =>
    rw [run]
    dsimp only
    by_cases late : group.nextDeadline + group.periodTicks ≤ after
    · rw [if_pos late]
      have skips : 0 ≤ (after - (group.nextDeadline + group.periodTicks)) / group.periodTicks :=
        Int.ediv_nonneg (by omega) (Int.le_of_lt positive)
      refine ⟨rfl, ((after - (group.nextDeadline + group.periodTicks)) /
        group.periodTicks + 1).toNat, ?_, rfl, ?_⟩
      · rw [Int.toNat_of_nonneg (by omega)]
        ring
      · rintro _ ⟨⟩
        have past := Int.lt_ediv_add_one_mul_self
          (after - (group.nextDeadline + group.periodTicks)) positive
        show after < group.nextDeadline + group.periodTicks + _
        omega
    · rw [if_neg late]
      refine ⟨rfl, 0, by simp, by simp, ?_⟩
      rintro _ ⟨⟩
      exact Int.lt_of_not_ge late

end RateGroup

/-! ### One tick -/

namespace RateGroupScheduler

variable {now : ℤ} {runEnd : ℕ → RunEnd} {group : RateGroup} {groups : List RateGroup}
  {index : ℕ} {scheduler : RateGroupScheduler} {input : TickInput}

private theorem le_of_mem_runDue {run : GroupRun}
    (member : run ∈ (runDue now runEnd index groups).2.1) : index ≤ run.index := by
  induction groups generalizing index with
  | nil => exact absurd member List.not_mem_nil
  | cons group groups ih =>
    rw [runDue] at member
    by_cases early : now < group.nextDeadline
    · rw [if_pos early] at member
      exact Nat.le_of_succ_le (ih member)
    · rw [if_neg early] at member
      cases ended : runEnd index with
      | none =>
        rw [ended] at member
        rw [List.mem_singleton.mp member]
      | some after =>
        rw [ended] at member
        rcases List.mem_cons.mp member with rfl | member
        · exact Nat.le_refl index
        · exact Nat.le_of_succ_le (ih member)

/-- In a tick a group is either left alone, or it is due and runs once. -/
inductive Visited (now : ℤ) (runEnd : RunEnd) (index : ℕ) (group : RateGroup) :
    RateGroup → List GroupRun → Prop
  | left : Visited now runEnd index group group []
  | ran (due : group.nextDeadline ≤ now) :
    Visited now runEnd index group (group.run runEnd) [⟨index, group.nextDeadline, now, runEnd⟩]

private theorem runsOf_eq_nil {runs : List GroupRun} (later : ∀ run ∈ runs, index < run.index) :
    runsOf index runs = [] := by
  rw [runsOf, List.filter_eq_nil_iff]
  intro run member
  have := later run member
  simp
  omega

private theorem runsOf_cons_self (run : GroupRun) {runs : List GroupRun}
    (same : run.index = index) : runsOf index (run :: runs) = run :: runsOf index runs :=
  List.filter_cons_of_pos (decide_eq_true same)

private theorem runsOf_cons_of_ne {run : GroupRun} {runs : List GroupRun}
    (different : run.index ≠ index) : runsOf index (run :: runs) = runsOf index runs :=
  List.filter_cons_of_neg (by simpa using different)

/-- The loop visits every group. -/
theorem visited_runDue (index : ℕ) {i : ℕ} (there : groups[i]? = some group) :
    ∃ after, (runDue now runEnd index groups).1[i]? = some after ∧
      Visited now (runEnd (index + i)) (index + i) group after
        (runsOf (index + i) (runDue now runEnd index groups).2.1) := by
  -- On the groups, each with its index; the loop ends early when an exception escapes a run.
  induction groups generalizing index i with
  | nil => exact absurd there (by simp)
  | cons first groups ih =>
    have others : runsOf index (runDue now runEnd (index + 1) groups).2.1 = [] :=
      runsOf_eq_nil fun run member => le_of_mem_runDue member
    rw [runDue]
    by_cases early : now < first.nextDeadline
    · rw [if_pos early]
      cases i with
      | zero =>
        obtain rfl := Option.some.inj there
        refine ⟨first, rfl, ?_⟩
        show Visited now _ index first first (runsOf index _)
        rw [others]
        exact .left
      | succ i =>
        obtain ⟨after, found, visited⟩ := @ih (index + 1) i there
        rw [Nat.add_right_comm] at visited
        exact ⟨after, found, visited⟩
    · rw [if_neg early]
      have due : first.nextDeadline ≤ now := Int.le_of_not_gt early
      cases ended : runEnd index with
      | none =>
        cases i with
        | zero =>
          obtain rfl := Option.some.inj there
          refine ⟨first.run none, rfl, ?_⟩
          show Visited now (runEnd index) index first _
            (runsOf index [⟨index, first.nextDeadline, now, none⟩])
          rw [runsOf_cons_self ⟨index, first.nextDeadline, now, none⟩ rfl, ended]
          exact .ran due
        | succ i =>
          refine ⟨group, there, ?_⟩
          rw [runsOf_cons_of_ne (by simp)]
          exact .left
      | some clock =>
        cases i with
        | zero =>
          obtain rfl := Option.some.inj there
          refine ⟨first.run (some clock), rfl, ?_⟩
          show Visited now (runEnd index) index first _
            (runsOf index (⟨index, first.nextDeadline, now, some clock⟩ :: _))
          rw [runsOf_cons_self ⟨index, first.nextDeadline, now, some clock⟩ rfl, others, ended]
          exact .ran due
        | succ i =>
          obtain ⟨after, found, visited⟩ := @ih (index + 1) i there
          rw [Nat.add_right_comm] at visited
          refine ⟨after, found, ?_⟩
          rw [runsOf_cons_of_ne (by simp)]
          exact visited

/-- A tick of a scheduler that is running has gone through its groups, whatever it returns. -/
private theorem tick_of_running (running : input.isRunning = true) :
    scheduler.tick input =
      { groups := (runDue input.now input.runEnd 0 scheduler.groups).1
        runs := scheduler.runs ++ (runDue input.now input.runEnd 0 scheduler.groups).2.1 } := by
  rw [tick, tickResult, running]
  dsimp only
  generalize runDue input.now input.runEnd 0 scheduler.groups = visited
  obtain ⟨groups, runs, threw⟩ := visited
  cases threw with
  | true => rfl
  | false => cases input.isStillRunning <;> rfl

/-- What a tick does to one group. -/
theorem visited_tick (there : scheduler.groups[index]? = some group) (input : TickInput) :
    ∃ after runs, (scheduler.tick input).groups[index]? = some after ∧
      runsOf index (scheduler.tick input).runs = runsOf index scheduler.runs ++ runs ∧
      Visited input.now (input.runEnd index) index group after runs := by
  by_cases running : input.isRunning = true
  · obtain ⟨after, found, visited⟩ :=
      @visited_runDue input.now input.runEnd _ _ 0 index there
    rw [Nat.zero_add] at visited
    rw [tick_of_running running]
    exact ⟨after, _, found, List.filter_append .., visited⟩
  · rw [Bool.not_eq_true] at running
    rw [tick, tickResult, running]
    exact ⟨group, [], there, (List.append_nil _).symm, .left⟩

/-- The earliest deadline is before no other. -/
private theorem getEarliestDeadline_le (member : group ∈ groups) :
    getEarliestDeadline groups ≤ group.nextDeadline := by
  have fold : ∀ (groups : List RateGroup) (earliest : ℤ),
      groups.foldl (fun earliest group => min earliest group.nextDeadline) earliest ≤ earliest ∧
        ∀ group ∈ groups, groups.foldl (fun earliest group => min earliest group.nextDeadline)
          earliest ≤ group.nextDeadline := by
    intro groups
    induction groups with
    | nil => exact fun _ => ⟨Int.le_refl _, nofun⟩
    | cons first groups ih =>
      intro earliest
      obtain ⟨least, others⟩ := ih (min earliest first.nextDeadline)
      refine ⟨Int.le_trans least (Int.min_le_left ..), fun group member => ?_⟩
      rcases List.mem_cons.mp member with rfl | member
      · exact Int.le_trans least (Int.min_le_right ..)
      · exact others group member
  exact (fold groups maxTicks).2 group member

/-- A tick that returns has a delay that no deadline is before. -/
theorem delay_le {delay : ℤ} (returns : (scheduler.tickResult input).2 = .rescheduled delay)
    (member : group ∈ (scheduler.tick input).groups) : delay ≤ group.nextDeadline := by
  have earliest : delay = getEarliestDeadline (scheduler.tick input).groups := by
    rw [tick]
    unfold tickResult at returns ⊢
    cases running : input.isRunning with
    | false =>
      rw [running] at returns
      cases returns
    | true =>
      rw [running] at returns
      dsimp only at returns ⊢
      generalize runDue input.now input.runEnd 0 scheduler.groups = visited at returns ⊢
      obtain ⟨groups, runs, threw⟩ := visited
      cases threw with
      | true => cases returns
      | false =>
        cases still : input.isStillRunning with
        | false =>
          rw [still] at returns
          cases returns
        | true =>
          rw [still] at returns
          exact (TickResult.rescheduled.inj returns).symm
  rw [earliest]
  exact getEarliestDeadline_le member

/-! ### All ticks -/

/-- The account of one group, `passed` grid points after the first deadline. -/
structure Account (start : ℤ) (group : RateGroup) (passed : ℕ) (after : RateGroup)
    (runs : List GroupRun) : Prop where
  period : after.periodTicks = group.periodTicks
  deadline : after.nextDeadline = start + (passed + 1) * group.periodTicks
  runs_le : runs.length ≤ passed
  overruns : after.overruns = group.overruns + UInt32.ofNat (passed - runs.length)
  /-- The runs are for different deadlines, one after another. -/
  increasing : (runs.map GroupRun.deadline).Pairwise (· < ·)
  onGrid : ∀ run ∈ runs, ∃ k < passed, run.deadline = start + (k + 1) * group.periodTicks
  due : ∀ run ∈ runs, run.deadline ≤ run.now

theorem Account.step {start now : ℤ} {runEnd : RunEnd} {group before after : RateGroup}
    {passed : ℕ} {runs more : List GroupRun} (positive : 0 < group.periodTicks)
    (account : Account start group passed before runs)
    (visited : Visited now runEnd index before after more) :
    ∃ passed', Account start group passed' after (runs ++ more) := by
  cases visited with
  | left =>
    rw [List.append_nil]
    exact ⟨passed, account⟩
  | ran due =>
    obtain ⟨period, missed, deadline, overruns, -⟩ :=
      before.run_spec (account.period.symm ▸ positive) runEnd
    have length : (runs ++ [(⟨index, before.nextDeadline, now, runEnd⟩ : GroupRun)]).length =
        runs.length + 1 := List.length_append
    have fewer := account.runs_le
    -- The run takes its own deadline and the missed ones off the grid.
    refine ⟨passed + missed + 1, period.trans account.period, ?_, by omega, ?_, ?_, ?_, ?_⟩
    · rw [deadline, account.deadline, account.period]
      push_cast
      ring
    · rw [overruns, account.overruns, length, UInt32.add_assoc, ← UInt32.ofNat_add]
      congr 2
      omega
    · rw [List.map_append, List.pairwise_append]
      refine ⟨account.increasing, List.pairwise_singleton .., ?_⟩
      intro earlier member last only
      rw [List.mem_singleton.mp only]
      obtain ⟨run, ran, rfl⟩ := List.mem_map.mp member
      obtain ⟨k, below, same⟩ := account.onGrid run ran
      rw [same, account.deadline]
      have past := Int.mul_lt_mul_of_pos_right (show (k + 1 : ℤ) < passed + 1 by omega) positive
      exact Int.add_lt_add_left past start
    · intro run member
      rcases List.mem_append.mp member with member | member
      · obtain ⟨k, below, same⟩ := account.onGrid run member
        exact ⟨k, by omega, same⟩
      · rw [List.mem_singleton.mp member]
        exact ⟨passed, by omega, account.deadline⟩
    · intro run member
      rcases List.mem_append.mp member with member | member
      · exact account.due run member
      · rw [List.mem_singleton.mp member]
        exact due

/-- Every group of a started scheduler has an account, after any ticks. -/
theorem exists_account {groups : List RateGroup}
    (positive : ∀ group ∈ groups, 0 < group.periodTicks) (now : ℤ)
    (there : groups[index]? = some group) (inputs : List TickInput) :
    ∃ passed after, (run tick (start groups now) inputs).groups[index]? = some after ∧
      Account now group passed after (runsOf index (run tick (start groups now) inputs).runs) := by
  induction inputs using List.reverseRecOn with
  | nil =>
    refine ⟨0, { group with nextDeadline := now + group.periodTicks }, ?_, ?_⟩
    · rw [run_nil, start, List.getElem?_map, there]
      rfl
    · constructor
      case period => rfl
      case deadline => simp
      case runs_le => exact Nat.le_refl 0
      case overruns => exact (UInt32.add_zero _).symm
      case increasing => exact List.Pairwise.nil
      case onGrid => exact nofun
      case due => exact nofun
  | append_singleton inputs input ih =>
    obtain ⟨passed, before, found, account⟩ := ih
    obtain ⟨after, more, found', runs, visited⟩ := visited_tick found input
    obtain ⟨passed', account'⟩ := account.step (positive group (List.mem_of_getElem? there)) visited
    refine ⟨passed', after, ?_, ?_⟩
    · rw [run_append]
      exact found'
    · rw [run_append]
      exact runs ▸ account'

/-- Every group runs at deadlines of its grid, one after another and none early, and the grid points
its deadline has passed are its runs and its overruns, which are counted with 32 bits. After a run
that returned, the next deadline is in the future, and the delay of a tick is after no deadline. -/
theorem tick_accounts {groups : List RateGroup} (positive : ∀ group ∈ groups, 0 < group.periodTicks)
    (now : ℤ) (inputs : List TickInput) :
    let scheduler := run tick (start groups now) inputs
    (∀ index group, groups[index]? = some group →
      ∃ passed after, scheduler.groups[index]? = some after ∧
        Account now group passed after (runsOf index scheduler.runs)) ∧
    ∀ input : TickInput,
      (∀ index group, groups[index]? = some group →
        ∃ after runs, (scheduler.tick input).groups[index]? = some after ∧
          runsOf index (scheduler.tick input).runs = runsOf index scheduler.runs ++ runs ∧
          ∀ run ∈ runs, ∀ clock, run.runEnd = some clock → clock < after.nextDeadline) ∧
      ∀ delay, (scheduler.tickResult input).2 = .rescheduled delay →
        ∀ group ∈ (scheduler.tick input).groups, delay ≤ group.nextDeadline := by
  intro scheduler
  refine ⟨fun index group there => exists_account positive now there inputs, fun input =>
    ⟨fun index group there => ?_, fun delay returns group member => delay_le returns member⟩⟩
  obtain ⟨passed, before, found, account⟩ := exists_account positive now there inputs
  obtain ⟨after, runs, found', same, visited⟩ := visited_tick found input
  refine ⟨after, runs, found', same, fun run member clock returned => ?_⟩
  cases visited with
  | left => exact absurd member List.not_mem_nil
  | ran due =>
    rw [List.mem_singleton.mp member] at returned
    have positive := positive group (List.mem_of_getElem? there)
    obtain ⟨-, -, -, -, future⟩ := before.run_spec (account.period.symm ▸ positive) _
    exact future clock returned

/-- A group of one tick whose run takes two ticks. -/
theorem tick_accounts_overrun :
    let scheduler := run tick (start [{ periodTicks := 1, nextDeadline := 0 }] 0)
      [⟨true, 1, fun _ => some 3, true⟩]
    ∃ passed after, scheduler.groups[0]? = some after ∧
      Account 0 { periodTicks := 1, nextDeadline := 0 } passed after (runsOf 0 scheduler.runs) :=
  (tick_accounts (by decide) 0 [⟨true, 1, fun _ => some 3, true⟩]).1 0 _ rfl

/-- A run that takes `2 ^ 32` periods longer than it may is counted as if it were in time. -/
theorem overruns_wrap :
    let scheduler := run tick (start [{ periodTicks := 1, nextDeadline := 0 }] 0)
      [⟨true, 1, fun _ => some (1 + 2 ^ 32), true⟩]
    ∃ passed : ℕ, ∃ after, scheduler.groups[0]? = some after ∧
      after.nextDeadline = (0 : ℤ) + (passed + 1) * 1 ∧
      (runsOf 0 scheduler.runs).length + after.overruns.toNat ≠ passed :=
  ⟨2 ^ 32 + 1, ⟨1, 2 ^ 32 + 2, 1, 0⟩, by decide +kernel, by decide +kernel, by decide +kernel⟩

end RateGroupScheduler

end RtCore.Sensors
