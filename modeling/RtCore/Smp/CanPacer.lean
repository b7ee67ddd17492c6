import Mathlib.Tactic.Linarith
import RtCore.Foundation.Run

/-!
# Pacing of SMP frames on the CAN bus

`SmpCanPacer` is a token bucket: time earns credit up to a capacity, a frame costs its worst-case
duration, and a frame may be sent while the credit covers it. Credit is bus time in nanoseconds
scaled by 100, so that a microsecond adds the share in percent times 1000.

## Main definitions

* `SmpCanPacer` with `reset`, `update`, `canSend`, `onSent` and `getWaitUs`
* `framesSent` — the frames of a run that asks `canSend` before each of them
* `latestUs` — the latest time that a run has given since its last reset

## Main results

* `SmpCanPacer.pacing` — the credit stays in its bounds, nothing overflows, any stretch of a run
  without a reset keeps the rate, and the wait is exact
-/

namespace RtCore.Smp

open RtCore.Foundation

/-- `SmpCanPacer`; times are in microseconds. -/
structure SmpCanPacer where
  rate : ℤ := 0
  frameCost : ℤ := 0
  capacity : ℤ := 0
  credit : ℤ := 0
  lastUpdateUs : ℤ := 0
  deriving DecidableEq, Repr

namespace SmpCanPacer

/-- The constructor, none when it throws. -/
def create (frameTimeNs : UInt32) (sharePercent : UInt8) (burstFrames : UInt32) :
    Option SmpCanPacer :=
  if frameTimeNs = 0 ∨ sharePercent = 0 ∨ 100 < sharePercent ∨ burstFrames = 0 then none
  else
    let frameCost : ℤ := frameTimeNs.toNat * 100
    some {
      rate := sharePercent.toNat * 1000
      frameCost := frameCost
      capacity := burstFrames.toNat * frameCost }

/-- `Reset`. -/
def reset (nowUs : ℤ) (p : SmpCanPacer) : SmpCanPacer :=
  { p with credit := p.capacity, lastUpdateUs := nowUs }

/-- The time that `Update` counts, at most what fills the bucket. The difference of the times is an
`int64_t`; that of times too far apart wraps. -/
def elapsedUs (nowUs : ℤ) (p : SmpCanPacer) : ℤ :=
  min (Int.bmod (nowUs - p.lastUpdateUs) (2 ^ 64)) (p.capacity / p.rate + 1)

/-- `Update`. -/
def update (nowUs : ℤ) (p : SmpCanPacer) : SmpCanPacer :=
  if p.rate = 0 ∨ nowUs ≤ p.lastUpdateUs then p
  else { p with
    credit := min p.capacity (p.credit + p.elapsedUs nowUs * p.rate)
    lastUpdateUs := nowUs }

/-- `CanSend`. -/
def canSend (p : SmpCanPacer) : Bool := 0 < p.rate && p.frameCost ≤ p.credit

/-- `OnSent`. -/
def onSent (p : SmpCanPacer) : SmpCanPacer := { p with credit := p.credit - p.frameCost }

/-- `max(frames, 1) * frame_cost_`. -/
def framesCost (frames : UInt32) (p : SmpCanPacer) : ℤ := max frames.toNat 1 * p.frameCost

/-- `GetWaitUs`. -/
def getWaitUs (frames : UInt32) (p : SmpCanPacer) : ℤ :=
  if p.rate = 0 then 2 ^ 63 - 1
  else
    let needed := min p.capacity (p.framesCost frames)
    if needed ≤ p.credit then 0 else (needed - p.credit + p.rate - 1) / p.rate

/-! ### Runs -/

/-- What a sender does with its pacer. -/
inductive Event where
  | reset (nowUs : ℤ)
  | update (nowUs : ℤ)
  /-- A frame, sent if `CanSend` allows it. -/
  | send
  deriving DecidableEq, Repr

/-- The pacer after an event. -/
def step (p : SmpCanPacer) : Event → SmpCanPacer
  | .reset nowUs => p.reset nowUs
  | .update nowUs => p.update nowUs
  | .send => if p.canSend then p.onSent else p

/-- An update comes so soon after the last one that the difference of the times fits `int64_t`. -/
def TimeFits (p : SmpCanPacer) : Event → Prop
  | .reset _ => True
  | .update nowUs => nowUs - p.lastUpdateUs < 2 ^ 63
  | .send => True

instance (p : SmpCanPacer) : ∀ event, Decidable (p.TimeFits event)
  | .reset _ => .isTrue trivial
  | .update nowUs => inferInstanceAs (Decidable (nowUs - p.lastUpdateUs < 2 ^ 63))
  | .send => .isTrue trivial

/-- The frames that a run sends. -/
def framesSent : SmpCanPacer → List Event → ℕ
  | _, [] => 0
  | p, event :: events =>
    (if event = .send ∧ p.canSend = true then 1 else 0) + framesSent (p.step event) events

/-- The latest time that a run has given since its last reset. -/
def latestUs (start : ℤ) : List Event → ℤ
  | [] => start
  | .reset nowUs :: events => latestUs nowUs events
  | .update nowUs :: events => latestUs (max start nowUs) events
  | .send :: events => latestUs start events

/-- Whether frames may be sent back to back. -/
def allows : ℕ → SmpCanPacer → Bool
  | 0, _ => true
  | frames + 1, p => p.canSend && allows frames p.onSent

/-- A number that fits `int64_t`. -/
def FitsInt64 (number : ℤ) : Prop := -2 ^ 63 ≤ number ∧ number < 2 ^ 63

/-- The rate that a share of the bus allows, in the units of the pacer. -/
def WithinRate (frameTimeNs : UInt32) (sharePercent : UInt8) (burstFrames : UInt32) (frames : ℕ)
    (elapsedUs : ℤ) : Prop :=
  (frames * frameTimeNs.toNat * 100 : ℤ) ≤
    burstFrames.toNat * frameTimeNs.toNat * 100 + sharePercent.toNat * 1000 * elapsedUs

/-! ### Credit -/

/-- A pacer with its parameters and the credit in its bounds. -/
structure Sound (frameTimeNs : UInt32) (sharePercent : UInt8) (burstFrames : UInt32)
    (p : SmpCanPacer) : Prop where
  rate : p.rate = sharePercent.toNat * 1000
  frameCost : p.frameCost = frameTimeNs.toNat * 100
  capacity : p.capacity = burstFrames.toNat * p.frameCost
  rate_pos : 0 < p.rate
  rate_le : p.rate ≤ 100000
  frameCost_pos : 0 < p.frameCost
  credit_nonneg : 0 ≤ p.credit
  credit_le : p.credit ≤ p.capacity

variable {frameTimeNs : UInt32} {sharePercent : UInt8} {burstFrames : UInt32} {p : SmpCanPacer}

theorem Sound.create (created : create frameTimeNs sharePercent burstFrames = some p) :
    Sound frameTimeNs sharePercent burstFrames p := by
  unfold SmpCanPacer.create at created
  split_ifs at created with invalid
  obtain rfl := Option.some.inj created
  simp only [not_or] at invalid
  obtain ⟨someTime, someShare, share, someBurst⟩ := invalid
  have time_pos : 0 < frameTimeNs.toNat := by
    apply Nat.pos_of_ne_zero
    intro zero
    exact someTime (UInt32.toNat_inj.mp zero)
  have share_pos : 0 < sharePercent.toNat := by
    apply Nat.pos_of_ne_zero
    intro zero
    exact someShare (UInt8.toNat_inj.mp zero)
  have share_le : sharePercent.toNat ≤ 100 := UInt8.le_iff_toNat_le.mp (UInt8.not_lt.mp share)
  refine ⟨rfl, rfl, rfl, ?_, ?_, ?_, le_refl _, ?_⟩
  · dsimp only
    omega
  · dsimp only
    omega
  · dsimp only
    omega
  · dsimp only
    positivity

theorem Sound.reset (sound : Sound frameTimeNs sharePercent burstFrames p) (nowUs : ℤ) :
    Sound frameTimeNs sharePercent burstFrames (p.reset nowUs) :=
  { sound with
    credit_nonneg := sound.credit_nonneg.trans sound.credit_le
    credit_le := le_refl _ }

/-- A difference that fits is the time that passed. -/
private theorem elapsedUs_of_fits {nowUs : ℤ} (later : p.lastUpdateUs < nowUs)
    (fits : nowUs - p.lastUpdateUs < 2 ^ 63) :
    p.elapsedUs nowUs = min (nowUs - p.lastUpdateUs) (p.capacity / p.rate + 1) := by
  rw [elapsedUs, Int.bmod_eq_of_le (by omega) (by omega)]

/-- What an update adds to the credit. -/
private theorem credit_update (sound : Sound frameTimeNs sharePercent burstFrames p) {nowUs : ℤ}
    (later : p.lastUpdateUs < nowUs) (fits : nowUs - p.lastUpdateUs < 2 ^ 63) :
    (p.update nowUs).credit = min p.capacity (p.credit + p.elapsedUs nowUs * p.rate) ∧
      (p.update nowUs).lastUpdateUs = nowUs ∧ 0 < p.elapsedUs nowUs := by
  have going : ¬ (p.rate = 0 ∨ nowUs ≤ p.lastUpdateUs) := by
    rintro (zero | before)
    · exact sound.rate_pos.ne' zero
    · omega
  have filling : 0 ≤ p.capacity / p.rate :=
    Int.ediv_nonneg (sound.credit_nonneg.trans sound.credit_le) sound.rate_pos.le
  have elapsed_pos : 0 < p.elapsedUs nowUs := by
    rw [elapsedUs_of_fits later fits]
    exact lt_min (by omega) (by omega)
  rw [update, if_neg going]
  exact ⟨rfl, rfl, elapsed_pos⟩

theorem Sound.update (sound : Sound frameTimeNs sharePercent burstFrames p) {nowUs : ℤ}
    (fits : nowUs - p.lastUpdateUs < 2 ^ 63) :
    Sound frameTimeNs sharePercent burstFrames (p.update nowUs) := by
  by_cases later : p.lastUpdateUs < nowUs
  · obtain ⟨credit, -, elapsed_pos⟩ := credit_update sound later fits
    have earned : 0 ≤ p.elapsedUs nowUs * p.rate := mul_nonneg elapsed_pos.le sound.rate_pos.le
    have cap_nonneg := sound.credit_nonneg.trans sound.credit_le
    have fields : (p.update nowUs).rate = p.rate ∧ (p.update nowUs).frameCost = p.frameCost ∧
        (p.update nowUs).capacity = p.capacity := by
      unfold SmpCanPacer.update
      split_ifs <;> exact ⟨rfl, rfl, rfl⟩
    obtain ⟨rate, cost, capacity⟩ := fields
    refine ⟨rate.trans sound.rate, cost.trans sound.frameCost, ?_, rate ▸ sound.rate_pos,
      rate ▸ sound.rate_le, cost ▸ sound.frameCost_pos, ?_, ?_⟩
    · rw [capacity, cost, sound.capacity]
    · rw [credit]
      exact le_min cap_nonneg (add_nonneg sound.credit_nonneg earned)
    · rw [credit, capacity]
      exact min_le_left _ _
  · have same : p.update nowUs = p := if_pos (.inr (not_lt.mp later))
    rwa [same]

private theorem canSend_iff (sound : Sound frameTimeNs sharePercent burstFrames p) :
    p.canSend = true ↔ p.frameCost ≤ p.credit := by
  simp [canSend, sound.rate_pos]

theorem Sound.onSent (sound : Sound frameTimeNs sharePercent burstFrames p)
    (allowed : p.canSend = true) : Sound frameTimeNs sharePercent burstFrames p.onSent := by
  have covered := (canSend_iff sound).mp allowed
  have cost := sound.frameCost_pos
  have below := sound.credit_le
  refine { sound with credit_nonneg := ?_, credit_le := ?_ }
  · change 0 ≤ p.credit - p.frameCost
    omega
  · change p.credit - p.frameCost ≤ p.capacity
    omega

theorem Sound.step (sound : Sound frameTimeNs sharePercent burstFrames p) {event : Event}
    (fits : p.TimeFits event) : Sound frameTimeNs sharePercent burstFrames (p.step event) := by
  cases event with
  | reset nowUs => exact sound.reset nowUs
  | update nowUs => exact sound.update fits
  | send =>
    unfold SmpCanPacer.step
    by_cases allowed : p.canSend = true
    · rw [if_pos allowed]
      exact sound.onSent allowed
    · rw [if_neg allowed]
      exact sound

theorem Sound.run (sound : Sound frameTimeNs sharePercent burstFrames p) {events : List Event}
    (fits : Along SmpCanPacer.step TimeFits p events) :
    Sound frameTimeNs sharePercent burstFrames (run SmpCanPacer.step p events) :=
  (fits.always sound fun _ _ holds timeFits => holds.step timeFits).last

/-! ### The rate -/

/-- The latest time of a run is what the pacer keeps. -/
theorem lastUpdateUs_run (sound : Sound frameTimeNs sharePercent burstFrames p)
    {events : List Event} (fits : Along step TimeFits p events) :
    (RtCore.Foundation.run step p events).lastUpdateUs = latestUs p.lastUpdateUs events := by
  induction events generalizing p with
  | nil => rfl
  | cons event events ih =>
    rw [run_cons, ih (sound.step fits.1) fits.2]
    cases event with
    | reset nowUs => rfl
    | update nowUs =>
      have kept : (p.update nowUs).lastUpdateUs = max p.lastUpdateUs nowUs := by
        by_cases later : p.lastUpdateUs < nowUs
        · rw [(credit_update sound later fits.1).2.1, max_eq_right later.le]
        · have same : p.update nowUs = p := if_pos (.inr (not_lt.mp later))
          rw [same, max_eq_left (not_lt.mp later)]
      change latestUs (p.update nowUs).lastUpdateUs events = latestUs _ events
      rw [kept]
    | send =>
      have kept : (p.step .send).lastUpdateUs = p.lastUpdateUs := by
        unfold SmpCanPacer.step
        split_ifs <;> rfl
      change latestUs (p.step .send).lastUpdateUs events = latestUs p.lastUpdateUs events
      rw [kept]

/-- An update earns at most the rate times the time that passed. -/
private theorem credit_update_le (sound : Sound frameTimeNs sharePercent burstFrames p)
    {nowUs : ℤ} (fits : nowUs - p.lastUpdateUs < 2 ^ 63) :
    (p.update nowUs).credit ≤
        p.credit + p.rate * ((p.update nowUs).lastUpdateUs - p.lastUpdateUs) := by
  by_cases later : p.lastUpdateUs < nowUs
  · obtain ⟨credit, last, -⟩ := credit_update sound later fits
    have elapsed : p.elapsedUs nowUs ≤ nowUs - p.lastUpdateUs :=
      (elapsedUs_of_fits later fits).trans_le (min_le_left _ _)
    have earned : p.elapsedUs nowUs * p.rate ≤ (nowUs - p.lastUpdateUs) * p.rate :=
      mul_le_mul_of_nonneg_right elapsed sound.rate_pos.le
    rw [credit, last, mul_comm p.rate]
    exact (min_le_right _ _).trans (by omega)
  · have same : p.update nowUs = p := if_pos (.inr (not_lt.mp later))
    rw [same]
    simp

/-- What is spent and left is at most what was there and what the time earned. -/
private theorem spent_le (sound : Sound frameTimeNs sharePercent burstFrames p)
    {window : List Event} (fits : Along step TimeFits p window)
    (noReset : ∀ nowUs, .reset nowUs ∉ window) :
    framesSent p window * p.frameCost + (RtCore.Foundation.run step p window).credit ≤
      p.credit + p.rate *
        ((RtCore.Foundation.run step p window).lastUpdateUs - p.lastUpdateUs) := by
  induction window generalizing p with
  | nil => simp [framesSent]
  | cons event window ih =>
    have later := ih (sound.step fits.1) fits.2 fun nowUs member =>
      noReset nowUs (List.mem_cons_of_mem _ member)
    rw [run_cons, framesSent]
    cases event with
    | reset nowUs => exact absurd List.mem_cons_self (noReset nowUs)
    | update nowUs =>
      have rate : (p.step (.update nowUs)).rate = p.rate := by
        rw [(sound.step fits.1).rate, sound.rate]
      have cost : (p.step (.update nowUs)).frameCost = p.frameCost := by
        rw [(sound.step fits.1).frameCost, sound.frameCost]
      rw [rate, cost] at later
      have earned : (p.step (.update nowUs)).credit ≤ p.credit +
          p.rate * ((p.step (.update nowUs)).lastUpdateUs - p.lastUpdateUs) :=
        credit_update_le sound fits.1
      simp only [reduceCtorEq, false_and, if_false, Nat.zero_add]
      linarith
    | send =>
      unfold SmpCanPacer.step at later ⊢
      by_cases allowed : p.canSend = true
      · simp only [if_pos allowed] at later ⊢
        simp only [allowed, and_self, if_true]
        have left : p.onSent.credit = p.credit - p.frameCost := rfl
        have same : p.onSent.frameCost = p.frameCost ∧ p.onSent.rate = p.rate ∧
            p.onSent.lastUpdateUs = p.lastUpdateUs := ⟨rfl, rfl, rfl⟩
        rw [left, same.1, same.2.1, same.2.2] at later
        push_cast
        linarith
      · simp only [if_neg allowed] at later ⊢
        simpa [allowed] using later

/-! ### The wait -/

/-- Frames may be sent back to back while the credit covers them. -/
private theorem allows_iff (sound : Sound frameTimeNs sharePercent burstFrames p) (frames : ℕ) :
    allows frames p = true ↔ frames * p.frameCost ≤ p.credit := by
  induction frames generalizing p with
  | zero => simpa [allows] using sound.credit_nonneg
  | succ frames ih =>
    rw [allows, Bool.and_eq_true, canSend_iff sound]
    have cost := sound.frameCost_pos
    have others : 0 ≤ frames * p.frameCost := mul_nonneg (Int.natCast_nonneg _) cost.le
    have split : ((frames + 1 : ℕ) : ℤ) * p.frameCost = frames * p.frameCost + p.frameCost := by
      push_cast
      rw [add_mul, one_mul]
    rw [split]
    constructor
    · rintro ⟨covered, rest⟩
      have rest := (ih (sound.onSent ((canSend_iff sound).mpr covered))).mp rest
      change frames * p.frameCost ≤ p.credit - p.frameCost at rest
      omega
    · intro covered
      have first : p.frameCost ≤ p.credit := by omega
      refine ⟨first, (ih (sound.onSent ((canSend_iff sound).mpr first))).mpr ?_⟩
      change frames * p.frameCost ≤ p.credit - p.frameCost
      omega

/-- An update after some time covers an amount up to the capacity exactly when the time earns what
is missing. -/
private theorem covers_iff (sound : Sound frameTimeNs sharePercent burstFrames p) {needed : ℤ}
    (within : needed ≤ p.capacity) {waitUs : ℤ} (forward : 0 ≤ waitUs) (short : waitUs < 2 ^ 63) :
    needed ≤ (p.update (p.lastUpdateUs + waitUs)).credit ↔
      needed ≤ p.credit + waitUs * p.rate := by
  have rate_pos := sound.rate_pos
  rcases forward.eq_or_lt with rfl | positive
  · have same : p.update (p.lastUpdateUs + 0) = p := if_pos (.inr (by omega))
    rw [same, zero_mul, add_zero]
  · have later : p.lastUpdateUs < p.lastUpdateUs + waitUs := by omega
    have fits : p.lastUpdateUs + waitUs - p.lastUpdateUs < 2 ^ 63 := by omega
    obtain ⟨credit, -, -⟩ := credit_update sound later fits
    rw [credit, le_min_iff, elapsedUs_of_fits later fits, add_sub_cancel_left]
    rcases le_total waitUs (p.capacity / p.rate + 1) with short | long
    · rw [min_eq_left short]
      exact ⟨And.right, fun covered => ⟨within, covered⟩⟩
    · -- the bucket is full by then
      rw [min_eq_right long]
      have full : p.capacity < (p.capacity / p.rate + 1) * p.rate := by
        have below := Int.lt_ediv_add_one_mul_self p.capacity rate_pos
        exact below
      have more : (p.capacity / p.rate + 1) * p.rate ≤ waitUs * p.rate :=
        mul_le_mul_of_nonneg_right long rate_pos.le
      have credit_nonneg := sound.credit_nonneg
      constructor
      · intro _
        omega
      · intro _
        exact ⟨within, by omega⟩

/-- The wait is the least time that earns what is missing. -/
private theorem getWaitUs_le_iff (sound : Sound frameTimeNs sharePercent burstFrames p)
    (frames : UInt32) {waitUs : ℤ} (forward : 0 ≤ waitUs) :
    p.getWaitUs frames ≤ waitUs ↔
      min p.capacity (p.framesCost frames) ≤ p.credit + waitUs * p.rate := by
  have rate_pos := sound.rate_pos
  have earned : 0 ≤ waitUs * p.rate := mul_nonneg forward rate_pos.le
  rw [getWaitUs, if_neg rate_pos.ne']
  dsimp only
  split_ifs with now
  · constructor
    · intro _
      omega
    · intro _
      exact forward
  · rw [← Int.lt_add_one_iff, Int.ediv_lt_iff_lt_mul rate_pos, add_mul, one_mul]
    constructor
    · intro less
      omega
    · intro covered
      omega

/-! ### The pacer -/

private theorem bounds (sound : Sound frameTimeNs sharePercent burstFrames p)
    (small : burstFrames.toNat ≤ 64) : p.frameCost < 2 ^ 39 ∧ p.capacity < 2 ^ 45 := by
  have time := frameTimeNs.toNat_lt
  have cost : p.frameCost < 2 ^ 39 := by
    rw [sound.frameCost]
    omega
  have burst : (burstFrames.toNat : ℤ) * p.frameCost ≤ 64 * p.frameCost :=
    mul_le_mul_of_nonneg_right (by exact_mod_cast small) sound.frameCost_pos.le
  refine ⟨cost, ?_⟩
  rw [sound.capacity]
  omega

/-- The time counted by an update earns at most the capacity and one step of the rate. -/
private theorem earned_le (sound : Sound frameTimeNs sharePercent burstFrames p) (nowUs : ℤ) :
    p.elapsedUs nowUs * p.rate ≤ p.capacity + p.rate := by
  have bound : p.elapsedUs nowUs ≤ p.capacity / p.rate + 1 := min_le_right _ _
  have product : p.elapsedUs nowUs * p.rate ≤ (p.capacity / p.rate + 1) * p.rate :=
    mul_le_mul_of_nonneg_right bound sound.rate_pos.le
  have quotient : p.capacity / p.rate * p.rate ≤ p.capacity :=
    Int.ediv_mul_le p.capacity sound.rate_pos.ne'
  rw [add_mul, one_mul] at product
  omega

/-- The frames that the capacity holds cost what is needed. -/
private theorem min_frames_mul (sound : Sound frameTimeNs sharePercent burstFrames p)
    (frames : UInt32) :
    ((min (max frames.toNat 1) burstFrames.toNat : ℕ) : ℤ) * p.frameCost =
      min p.capacity (p.framesCost frames) := by
  have cost := sound.frameCost_pos
  rw [sound.capacity, framesCost]
  rcases le_total (max frames.toNat 1) burstFrames.toNat with few | many
  · have cheaper : ((max frames.toNat 1 : ℕ) : ℤ) * p.frameCost ≤
        burstFrames.toNat * p.frameCost :=
      mul_le_mul_of_nonneg_right (by exact_mod_cast few) cost.le
    rw [min_eq_left few, min_eq_right cheaper]
  · have dearer : (burstFrames.toNat : ℤ) * p.frameCost ≤
        ((max frames.toNat 1 : ℕ) : ℤ) * p.frameCost :=
      mul_le_mul_of_nonneg_right (by exact_mod_cast many) cost.le
    rw [min_eq_right many, min_eq_left dearer]

/-- In every run of a pacer whose updates come no further apart than the difference of two `int64_t`
times can say, the credit stays in its bounds and what the constructor and `Update` compute fits. A
stretch without a reset keeps the rate, with the times that the run has come to, and a wait whose
product fits is exact: it is the least time after which that many frames, or as many as the bucket
holds, may follow each other. -/
theorem pacing (frameTimeNs : UInt32) (sharePercent : UInt8) (burstFrames : UInt32)
    (p : SmpCanPacer) (created : SmpCanPacer.create frameTimeNs sharePercent burstFrames = some p)
    (small : burstFrames.toNat ≤ 64) (events : List Event)
    (timesFit : Along SmpCanPacer.step TimeFits p events) :
    let q := RtCore.Foundation.run SmpCanPacer.step p events
    (0 ≤ q.credit ∧ q.credit ≤ q.capacity) ∧
    (FitsInt64 q.rate ∧ FitsInt64 q.frameCost ∧ FitsInt64 q.capacity ∧
      ∀ nowUs, q.lastUpdateUs < nowUs → nowUs - q.lastUpdateUs < 2 ^ 63 →
        FitsInt64 (q.elapsedUs nowUs * q.rate) ∧
          FitsInt64 (q.credit + q.elapsedUs nowUs * q.rate)) ∧
    (∀ window, Along SmpCanPacer.step TimeFits q window → (∀ nowUs, .reset nowUs ∉ window) →
      WithinRate frameTimeNs sharePercent burstFrames (framesSent q window)
        (latestUs 0 (events ++ window) - latestUs 0 events)) ∧
    (∀ frames : UInt32, FitsInt64 (q.framesCost frames) →
      FitsInt64 (min q.capacity (q.framesCost frames) - q.credit + q.rate - 1) ∧
      ∀ waitUs, 0 ≤ waitUs → waitUs < 2 ^ 63 →
        (allows (min (max frames.toNat 1) burstFrames.toNat)
            (q.update (q.lastUpdateUs + waitUs)) = true ↔ q.getWaitUs frames ≤ waitUs)) := by
  intro q
  have start := Sound.create created
  have sound : Sound frameTimeNs sharePercent burstFrames q := start.run timesFit
  obtain ⟨cost, capacity⟩ := bounds sound small
  have rate_pos := sound.rate_pos
  have rate_le := sound.rate_le
  have cost_pos := sound.frameCost_pos
  have credit_nonneg := sound.credit_nonneg
  have credit_le := sound.credit_le
  refine ⟨⟨credit_nonneg, credit_le⟩, ⟨⟨by omega, by omega⟩, ⟨by omega, by omega⟩,
    ⟨by omega, by omega⟩, fun nowUs later fits => ?_⟩, fun window windowFits noReset => ?_,
    fun frames fits => ⟨?_, fun waitUs forward short => ?_⟩⟩
  · have earned := earned_le sound nowUs
    have nonneg : 0 ≤ q.elapsedUs nowUs * q.rate :=
      mul_nonneg (credit_update sound later fits).2.2.le rate_pos.le
    exact ⟨⟨by omega, by omega⟩, ⟨by omega, by omega⟩⟩
  -- What was sent in the window was earned in it or was there before.
  · have spent := spent_le sound windowFits noReset
    have left := (sound.run windowFits).credit_nonneg
    have begins : p.lastUpdateUs = 0 := by
      unfold SmpCanPacer.create at created
      split_ifs at created
      obtain rfl := Option.some.inj created
      rfl
    have first : q.lastUpdateUs = latestUs 0 events := by
      rw [← begins]
      exact lastUpdateUs_run start timesFit
    have last : (RtCore.Foundation.run SmpCanPacer.step q window).lastUpdateUs =
        latestUs 0 (events ++ window) := by
      rw [← begins, ← lastUpdateUs_run start (along_append.mpr ⟨timesFit, windowFits⟩), run_append]
    rw [first, last, sound.frameCost, sound.rate] at spent
    rw [sound.capacity, sound.frameCost] at credit_le
    unfold WithinRate
    linarith
  · have needed : min q.capacity (q.framesCost frames) ≤ q.capacity := min_le_left _ _
    have frames_nonneg : 0 ≤ q.framesCost frames := mul_nonneg (by positivity) cost_pos.le
    have needed_nonneg : 0 ≤ min q.capacity (q.framesCost frames) :=
      le_min (credit_nonneg.trans credit_le) frames_nonneg
    exact ⟨by omega, by omega⟩
  · have updated := sound.update (show q.lastUpdateUs + waitUs - q.lastUpdateUs < 2 ^ 63 by omega)
    have same : (q.update (q.lastUpdateUs + waitUs)).frameCost = q.frameCost := by
      rw [updated.frameCost, sound.frameCost]
    rw [allows_iff updated, same, min_frames_mul sound frames,
      covers_iff sound (min_le_left _ _) forward short, getWaitUs_le_iff sound frames forward]

/-- A pacer of eight frames at half of the bus. -/
def eightFrames : SmpCanPacer where
  rate := 50000
  frameCost := 25600000
  capacity := 204800000

/-- After a burst of eight frames, two more leave within 1024 microseconds, and not earlier. -/
theorem pacing_eightFrames :
    let events : List Event := .reset 0 :: List.replicate 8 .send
    let window : List Event := [.update 1024, .send, .send, .send]
    let q := RtCore.Foundation.run SmpCanPacer.step eightFrames events
    WithinRate 256000 50 8 (framesSent q window)
        (latestUs 0 (events ++ window) - latestUs 0 events) ∧
      (allows (min (max (2 : UInt32).toNat 1) (8 : UInt32).toNat)
        (q.update (q.lastUpdateUs + 1024)) = true ↔ q.getWaitUs 2 ≤ 1024) ∧
      framesSent q window = 2 ∧ q.getWaitUs 2 = 1024 := by
  intro events window q
  obtain ⟨-, -, rate, wait⟩ :=
    pacing 256000 50 8 eightFrames (by decide) (by decide) events (by decide +kernel)
  have noReset : ∀ nowUs, Event.reset nowUs ∉ window := by
    intro nowUs
    simp [window]
  have exactWait := (wait 2 (by unfold FitsInt64; decide +kernel)).2 1024 (by decide) (by decide)
  exact ⟨rate window (by decide +kernel) noReset, exactWait, by decide +kernel, by decide +kernel⟩

/-- A reset in the middle fills the bucket again, so that twice the burst leaves at once; the
product of a wait for very many frames does not fit; and times too far apart leave less credit than
none. -/
theorem not_pacing_across_reset :
    SmpCanPacer.create 4294967295 50 1 =
        some { rate := 50000, frameCost := 429496729500, capacity := 429496729500 } ∧
      (let p : SmpCanPacer :=
        { rate := 50000, frameCost := 429496729500, capacity := 429496729500 }
      let q := RtCore.Foundation.run SmpCanPacer.step p [.reset 0]
      latestUs 0 [.reset 0] = 0 ∧ latestUs 0 [.reset 0, .send, .reset 0, .send] = 0 ∧
        ¬ WithinRate 4294967295 50 1 (framesSent q [.send, .reset 0, .send]) 0 ∧
        ¬ FitsInt64 (q.framesCost 4294967295) ∧
        (RtCore.Foundation.run SmpCanPacer.step p
          [.reset (-2 ^ 63), .send, .update (2 ^ 63 - 1)]).credit = -50000) := by
  unfold WithinRate FitsInt64
  decide +kernel

end SmpCanPacer

end RtCore.Smp
