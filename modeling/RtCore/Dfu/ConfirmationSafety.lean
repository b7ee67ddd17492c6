import RtCore.Dfu.ImageConfirmation
import Mathlib.Algebra.Group.Nat.Defs
import Mathlib.Tactic.Tauto

/-!
# When an image confirms itself

Over every interleaving of ticks, reports, probes and clients: the image confirms itself a delay
after a report in time, FAILED is left only for a client, the watchdog is disabled only for a
confirmed image, and a probe that does not run fails the image. That every probe ran is checked
early in a tick and used late; a report whose exchange comes in between, with a clock reading that
is old enough, has its image confirmed without a look at the probes.

## Main definitions

* `ClockClose` — the times that a step compares are less than 2^31 ms apart
* `ReportsInOrder` — no exchange of a report finds a tick past its probes with the delay over
* `Meets` — what a step owes

## Main results

* `meets_run` — every step of a run in order meets it
-/

namespace RtCore.Dfu

open RtCore.Foundation

/-! ### Times -/

/-- Less than 2^31 ms apart. -/
def Close (a b : ℕ) : Prop := a < b + 2 ^ 31 ∧ b < a + 2 ^ 31
deriving Decidable

theorem isReached_iff {a b : ℕ} (close : Close a b) :
    isReached (nowMs a) (nowMs b) = true ↔ b ≤ a := by
  obtain ⟨ahead, behind⟩ := close
  simp only [isReached, nowMs, decide_eq_true_eq, UInt32.toNat_sub, UInt32.toNat_ofNat']
  omega

theorem toNat_sub_nowMs {a b : ℕ} (close : Close a b) (later : b ≤ a) :
    (nowMs a - nowMs b).toNat = a - b := by
  obtain ⟨ahead, behind⟩ := close
  simp only [nowMs, UInt32.toNat_sub, UInt32.toNat_ofNat']
  omega

theorem nowMs_add (a : ℕ) (b : UInt32) : nowMs a + b = nowMs (a + b.toNat) := by
  apply UInt32.toNat_inj.mp
  simp only [nowMs, UInt32.toNat_add, UInt32.toNat_ofNat']
  omega

namespace ImageConfirmation

variable (config : ImageConfirmationConfig) (machine : ImageConfirmation)

/-! ### What is assumed and what is owed -/

/-- The tick is about to look at the probes. -/
def isAtProbes : Bool :=
  match machine.tickStep with
  | .checkProbes _ => true
  | _ => false

/-- The tick is about to compare its clock reading with the end of the delay. -/
def isAtConfirmAt : Bool :=
  match machine.tickStep with
  | .loadConfirmAt _ _ => true
  | _ => false

/-- The clock advances by less than 2^31 ms between the times that a step compares. -/
def ClockClose : ConfirmationLabel → Prop
  | .report => machine.reportStep = .readClock → Close machine.clock machine.deadline
  | .tick _ =>
    (machine.isAtProbes = true → ∀ entry ∈ machine.probes, entry.armed = true →
      Close machine.tick.reading entry.armedAt) ∧
    (machine.isAtConfirmAt = true → ∀ reading ∈ machine.confirmReading,
      Close machine.tick.reading (reading + config.confirmDelayMs.toNat))
  | _ => True

instance (label : ConfirmationLabel) : Decidable (machine.ClockClose config label) := by
  unfold ClockClose
  split <;> infer_instance

/-- A tick has passed the probes and may still confirm the image. -/
def isPastProbes : Bool :=
  match machine.tickStep with
  | .feed _ _ => true
  | .loadForConfirm _ _ => true
  | _ => false

/-- No exchange of a report makes the image CONFIRMING for a tick that has passed registered probes
without a look at them and read the clock a delay after the report did; and no tick begins on an
image that has confirmed itself when a probe posted half a watchdog timeout ago has not run. -/
def ReportsInOrder : ConfirmationLabel → Prop
  | .report => machine.reportStep = .exchangeConfirming → machine.state = .verifying →
    config.selfConfirm = true → machine.isPastProbes = true → machine.tick.found ≠ [] →
      ∀ reading ∈ machine.confirmReading,
        machine.tick.reading < reading + config.confirmDelayMs.toNat
  | .tick _ => machine.tickStep = .idle → machine.selfConfirmed = true →
    ∀ entry ∈ machine.probes, entry.armed = true →
      entry.hasRun = true ∨ machine.clock < entry.postedAt + config.allowedMs.toNat
  | _ => True

instance (label : ConfirmationLabel) : Decidable (machine.ReportsInOrder config label) := by
  unfold ReportsInOrder
  split <;> infer_instance

/-- What a step owes. -/
structure Meets (label : ConfirmationLabel) : Prop where
  /-- The image confirms itself a delay after a report that read the clock before the deadline, on
  a tick that found every probe to have run since it was posted. -/
  confirmsItself : machine.tickStep = .confirm → label = .tick true →
    (∃ reading, machine.confirmReading = some reading ∧ reading < machine.deadline ∧
      reading + config.confirmDelayMs.toNat ≤ machine.tick.reading ∧
      machine.tick.reading ≤ machine.clock) ∧
    ∀ found ∈ machine.tick.found, found = true
  leavesFailed : machine.state = .failed → (machine.step config label).state = .failed ∨
    (machine.step config label).state = .confirmed ∧ machine.clientConfirmed = true
  /-- A tick that begins in FAILED feeds the watchdog only after a client's confirmation. -/
  feeds : ∀ succeeds, label = .tick succeeds → machine.feeds = true →
    machine.tick.beganIn = .failed → machine.clientConfirmed = true
  disables : ∀ succeeds, label = .tick succeeds → machine.tickStep = .disable →
    machine.isImageConfirmed = true
  /-- A tick that begins when a posted probe has waited half the watchdog timeout ends in FAILED if
  the probe has not run then. -/
  stuck : ∀ succeeds, label = .tick succeeds → machine.tickStep ≠ .idle →
    (machine.step config label).tickStep = .idle →
      ∀ entry ∈ (machine.step config label).probes, entry.armed = true → entry.hasRun = false →
        entry.postedIn < machine.tick.number →
        entry.postedAt + config.allowedMs.toNat ≤ machine.tick.beganAt →
          (machine.step config label).state = .failed ∨
            (machine.step config label).clientConfirmed = true

/-! ### The invariant -/

/-- Every posted probe has a property. -/
def Posted (P : ProbeEntry → Prop) : Prop :=
  ∀ entry ∈ machine.probes, entry.armed = true → P entry

/-- No posted probe has waited too long when the tick came to it. -/
def Judged : Prop :=
  machine.Posted fun entry => entry.postedIn = machine.tick.number ∨
    machine.tick.reading < entry.armedAt + config.allowedMs.toNat

/-- No probe that the tick has to fail for. -/
def InTime : Prop :=
  machine.Posted fun entry => entry.hasRun = true ∨ entry.postedIn = machine.tick.number ∨
    machine.tick.beganAt < entry.postedAt + config.allowedMs.toNat

/-- The tick in progress found the image unconfirmed and not FAILED. -/
structure Running : Prop where
  ordered : machine.tick.beganAt ≤ machine.tick.reading
  healthy : machine.tick.beganIn ≠ .failed
  unconfirmed : machine.state ≠ .confirmed
  notSelf : machine.selfConfirmed = false

/-- The delay of the report is not over for the tick. -/
def TooEarly : Prop :=
  ∃ reading, machine.confirmReading = some reading ∧
    machine.tick.reading < reading + config.confirmDelayMs.toNat

/-- The image is confirmed, by a client or with no probe in the way. -/
def StandsDown : Prop :=
  machine.isImageConfirmed = true ∧
    (machine.clientConfirmed = true ∨
      machine.tick.beganIn ≠ .failed ∧ machine.InTime config)

/-- What holds where the tick is. -/
def TickSound : Prop :=
  match machine.tickStep with
  | .idle => True
  | .isConfirmed state =>
    machine.tick.beganIn = state ∧ machine.tick.beganAt ≤ machine.clock ∧
      machine.state ≠ .confirmed ∧ machine.selfConfirmed = false ∧
      (state = .failed → machine.state = .failed) ∧
      (state ≠ .failed → state ≠ .verifying → machine.state = .confirming) ∧
      (state = .verifying → machine.Posted fun _ => False) ∧
      machine.Posted fun entry => entry.postedIn < machine.tick.number
  | .readClock state =>
    machine.tick.beganIn = state ∧ machine.tick.beganAt ≤ machine.clock ∧ state ≠ .failed ∧
      machine.state ≠ .confirmed ∧ machine.selfConfirmed = false ∧
      (state ≠ .verifying → machine.state = .confirming) ∧
      (state = .verifying → machine.Posted fun _ => False) ∧
      machine.Posted fun entry => entry.postedIn < machine.tick.number
  | .exchange now =>
    machine.Running ∧ now = nowMs machine.tick.reading ∧ machine.Posted fun _ => False
  | .loadForProbes now =>
    machine.Running ∧ now = nowMs machine.tick.reading ∧
      (machine.state ≠ .confirming → machine.Posted fun _ => False) ∧
      machine.Posted fun entry => entry.postedIn < machine.tick.number ∧
        entry.armedAt ≤ machine.tick.reading
  | .checkProbes now =>
    machine.Running ∧ now = nowMs machine.tick.reading ∧ machine.state = .confirming ∧
      machine.Posted fun entry => entry.postedIn < machine.tick.number ∧
        entry.armedAt ≤ machine.tick.reading
  | .fail => machine.Running
  | .feed now allRan =>
    machine.Running ∧ now = nowMs machine.tick.reading ∧ machine.Judged config ∧
      (config.selfConfirm = true → allRan = true →
        (∀ found ∈ machine.tick.found, found = true) ∨ machine.state ≠ .confirming ∨
          machine.TooEarly config)
  | .loadForConfirm now allRan =>
    machine.Running ∧ now = nowMs machine.tick.reading ∧ machine.Judged config ∧
      config.selfConfirm = true ∧
      (allRan = true →
        (∀ found ∈ machine.tick.found, found = true) ∨ machine.state ≠ .confirming ∨
          machine.TooEarly config)
  | .loadConfirmAt now allRan =>
    machine.Running ∧ now = nowMs machine.tick.reading ∧ machine.Judged config ∧
      machine.state = .confirming ∧
      (allRan = true →
        (∀ found ∈ machine.tick.found, found = true) ∨ machine.TooEarly config)
  | .confirm =>
    machine.Running ∧ machine.Judged config ∧ machine.state = .confirming ∧
      (∀ found ∈ machine.tick.found, found = true) ∧
      ∃ reading, machine.confirmReading = some reading ∧
        reading + config.confirmDelayMs.toNat ≤ machine.tick.reading
  | .standDown =>
    machine.StandsDown config ∧ (machine.clientConfirmed = true ∨ machine.state = .confirming)
  | .loadArmed | .feedToDisable | .disable | .storeDisarmed => machine.StandsDown config

/-- What holds where the report is. -/
def ReportSound : Prop :=
  match machine.reportStep with
  | .idle => True
  | .readClock => machine.state ≠ .confirming
  | .exchangeFailed => machine.state ≠ .confirming
  | .storeConfirmAt now =>
    machine.state ≠ .confirming ∧ now = nowMs machine.reportReading ∧
      machine.reportReading < machine.deadline
  | .exchangeConfirming =>
    machine.state ≠ .confirming ∧ ∃ reading, machine.confirmReading = some reading ∧
      reading < machine.deadline ∧
      machine.confirmAtMs = nowMs (reading + config.confirmDelayMs.toNat)

/-- What holds in every state of a run in order. -/
structure Sound : Prop where
  deadline : machine.deadlineMs = nowMs machine.deadline
  reading : machine.tick.reading ≤ machine.clock
  posted : machine.Posted fun entry => entry.armedAtMs = nowMs entry.armedAt ∧
    entry.armedAt ≤ entry.postedAt ∧ entry.postedAt ≤ machine.clock ∧
    entry.postedIn ≤ machine.tick.number
  unposted : machine.state = .verifying → machine.Posted fun _ => False
  confirmed : machine.state = .confirmed → machine.isImageConfirmed = true
  who : machine.isImageConfirmed = true →
    machine.clientConfirmed = true ∨ machine.selfConfirmed = true
  self : machine.selfConfirmed = true →
    machine.state = .confirmed ∨ machine.tickStep = .standDown
  confirming : machine.state = .confirming → machine.reportStep = .idle ∧
    ∃ reading, machine.confirmReading = some reading ∧ reading < machine.deadline ∧
      machine.confirmAtMs = nowMs (reading + config.confirmDelayMs.toNat)
  report : machine.ReportSound config
  tick : machine.TickSound config

/-! ### What others do during a tick -/

/-- The probe was posted at the same time. -/
structure SamePost (entry other : ProbeEntry) : Prop where
  armedAtMs : other.armedAtMs = entry.armedAtMs
  armedAt : other.armedAt = entry.armedAt
  postedAt : other.postedAt = entry.postedAt
  postedIn : other.postedIn = entry.postedIn
  hasRun : entry.hasRun = true → other.hasRun = true

theorem SamePost.refl (entry : ProbeEntry) : SamePost entry entry := ⟨rfl, rfl, rfl, rfl, id⟩

variable {config machine} {after : ImageConfirmation}

/-- A step that is not the tick's. -/
structure Elsewhere (config : ImageConfirmationConfig) (machine after : ImageConfirmation) :
    Prop where
  tickStep : after.tickStep = machine.tickStep
  tick : after.tick = machine.tick
  selfConfirmed : after.selfConfirmed = machine.selfConfirmed
  clock : machine.clock ≤ after.clock
  posted : ∀ entry ∈ after.probes, entry.armed = true →
    ∃ before ∈ machine.probes, before.armed = true ∧ SamePost before entry
  image : machine.isImageConfirmed = true → after.isImageConfirmed = true
  client : machine.clientConfirmed = true → after.clientConfirmed = true
  state : after.state = machine.state ∨
    machine.state = .verifying ∧ (after.state = .failed ∨ after.state = .confirming)
  reading : machine.state = .confirming → after.confirmReading = machine.confirmReading
  inOrder : machine.state ≠ .confirming → after.state = .confirming → config.selfConfirm = true →
    machine.isPastProbes = true → machine.tick.found ≠ [] → after.TooEarly config

namespace Elsewhere

variable (elsewhere : Elsewhere config machine after)
include elsewhere

theorem posted_of {P Q : ProbeEntry → Prop} (posted : machine.Posted P)
    (implies : ∀ entry other, SamePost entry other → P entry → Q other) : after.Posted Q := by
  intro entry member armed
  obtain ⟨before, isBefore, wasArmed, same⟩ := elsewhere.posted entry member armed
  exact implies before entry same (posted before isBefore wasArmed)

theorem unposted (posted : machine.Posted fun _ => False) : after.Posted fun _ => False :=
  elsewhere.posted_of posted fun _ _ _ => id

theorem postedEarlier (posted : machine.Posted fun entry => entry.postedIn < machine.tick.number) :
    after.Posted fun entry => entry.postedIn < after.tick.number := by
  refine elsewhere.posted_of posted fun entry other same earlier => ?_
  rw [same.postedIn, elsewhere.tick]
  exact earlier

theorem postedBefore (posted : machine.Posted fun entry =>
      entry.postedIn < machine.tick.number ∧ entry.armedAt ≤ machine.tick.reading) :
    after.Posted fun entry =>
      entry.postedIn < after.tick.number ∧ entry.armedAt ≤ after.tick.reading := by
  refine elsewhere.posted_of posted fun entry other same earlier => ?_
  rw [same.postedIn, same.armedAt, elsewhere.tick]
  exact earlier

theorem judged (judged : machine.Judged config) : after.Judged config := by
  refine elsewhere.posted_of judged fun entry other same inTime => ?_
  rw [same.postedIn, same.armedAt, elsewhere.tick]
  exact inTime

theorem inTime (inTime : machine.InTime config) : after.InTime config := by
  refine elsewhere.posted_of inTime fun entry other same inTime => ?_
  rw [same.postedIn, same.postedAt, elsewhere.tick]
  exact inTime.imp_left same.hasRun

theorem confirming_of_confirming (confirming : machine.state = .confirming) :
    after.state = .confirming := by
  rcases elsewhere.state with same | ⟨verifying, -⟩
  · rw [same]
    exact confirming
  · rw [confirming] at verifying
    cases verifying

theorem unconfirmed (unconfirmed : machine.state ≠ .confirmed) : after.state ≠ .confirmed := by
  rcases elsewhere.state with same | ⟨-, failed | confirming⟩
  · rw [same]
    exact unconfirmed
  · rw [failed]
    nofun
  · rw [confirming]
    nofun

theorem running (running : machine.Running) : after.Running where
  ordered := by
    rw [elsewhere.tick]
    exact running.ordered
  healthy := by
    rw [elsewhere.tick]
    exact running.healthy
  unconfirmed := elsewhere.unconfirmed running.unconfirmed
  notSelf := elsewhere.selfConfirmed.trans running.notSelf

theorem tooEarly (confirming : machine.state = .confirming) (early : machine.TooEarly config) :
    after.TooEarly config := by
  obtain ⟨reading, isReading, early⟩ := early
  refine ⟨reading, (elsewhere.reading confirming).trans isReading, ?_⟩
  rw [elsewhere.tick]
  exact early

theorem standsDown (standsDown : machine.StandsDown config) : after.StandsDown config := by
  obtain ⟨image, who⟩ := standsDown
  refine ⟨elsewhere.image image, ?_⟩
  rcases who with client | ⟨healthy, inTime⟩
  · exact Or.inl (elsewhere.client client)
  · rw [elsewhere.tick]
    exact Or.inr ⟨healthy, elsewhere.inTime inTime⟩

/-- A report that makes the image CONFIRMING behind a tick's back comes too late for the tick. -/
theorem allRan (past : machine.isPastProbes = true) (selfConfirm : config.selfConfirm = true)
    (ran : (∀ found ∈ machine.tick.found, found = true) ∨ machine.state ≠ .confirming ∨
      machine.TooEarly config) :
    (∀ found ∈ after.tick.found, found = true) ∨ after.state ≠ .confirming ∨
      after.TooEarly config := by
  by_cases confirming : machine.state = .confirming
  · rcases ran with all | other | early
    · rw [elsewhere.tick]
      exact Or.inl all
    · exact absurd confirming other
    · exact Or.inr (Or.inr (elsewhere.tooEarly confirming early))
  · by_cases becomes : after.state = .confirming
    · by_cases none : machine.tick.found = []
      · rw [elsewhere.tick, none]
        exact Or.inl nofun
      · exact Or.inr (Or.inr (elsewhere.inOrder confirming becomes selfConfirm past none))
    · exact Or.inr (Or.inl becomes)

theorem tickSound (sound : machine.TickSound config) : after.TickSound config := by
  have tickStep := elsewhere.tickStep
  unfold TickSound at sound ⊢
  rw [tickStep]
  -- What the tick knows at its step survives a step elsewhere: a state other than VERIFYING stays,
  -- the clock only goes up, and probes are posted only by the tick.
  cases atStep : machine.tickStep with
  | idle => trivial
  | isConfirmed state =>
    rw [atStep] at sound
    obtain ⟨began, ordered, unconfirmed, notSelf, failed, confirming, unposted, posted⟩ := sound
    refine ⟨by rw [elsewhere.tick]; exact began, ?_, elsewhere.unconfirmed unconfirmed,
      elsewhere.selfConfirmed.trans notSelf, fun isFailed => ?_,
      fun a b => elsewhere.confirming_of_confirming (confirming a b),
      fun verifying => elsewhere.unposted (unposted verifying), elsewhere.postedEarlier posted⟩
    · rw [elsewhere.tick]
      exact le_trans ordered elsewhere.clock
    · rcases elsewhere.state with same | ⟨verifying, -⟩
      · rw [same]
        exact failed isFailed
      · rw [failed isFailed] at verifying
        cases verifying
  | readClock state =>
    rw [atStep] at sound
    obtain ⟨began, ordered, healthy, unconfirmed, notSelf, confirming, unposted, posted⟩ := sound
    refine ⟨by rw [elsewhere.tick]; exact began, ?_, healthy, elsewhere.unconfirmed unconfirmed,
      elsewhere.selfConfirmed.trans notSelf,
      fun a => elsewhere.confirming_of_confirming (confirming a),
      fun verifying => elsewhere.unposted (unposted verifying), elsewhere.postedEarlier posted⟩
    rw [elsewhere.tick]
    exact le_trans ordered elsewhere.clock
  | exchange now =>
    rw [atStep] at sound
    obtain ⟨running, isNow, unposted⟩ := sound
    exact ⟨elsewhere.running running, by rw [elsewhere.tick]; exact isNow,
      elsewhere.unposted unposted⟩
  | loadForProbes now =>
    rw [atStep] at sound
    obtain ⟨running, isNow, unposted, posted⟩ := sound
    refine ⟨elsewhere.running running, by rw [elsewhere.tick]; exact isNow, fun other => ?_,
      elsewhere.postedBefore posted⟩
    exact elsewhere.unposted (unposted fun confirming =>
      other (elsewhere.confirming_of_confirming confirming))
  | checkProbes now =>
    rw [atStep] at sound
    obtain ⟨running, isNow, confirming, posted⟩ := sound
    exact ⟨elsewhere.running running, by rw [elsewhere.tick]; exact isNow,
      elsewhere.confirming_of_confirming confirming, elsewhere.postedBefore posted⟩
  | fail =>
    rw [atStep] at sound
    exact elsewhere.running sound
  | feed now allRan =>
    rw [atStep] at sound
    obtain ⟨running, isNow, judged, ran⟩ := sound
    exact ⟨elsewhere.running running, by rw [elsewhere.tick]; exact isNow, elsewhere.judged judged,
      fun selfConfirm all => elsewhere.allRan (by rw [isPastProbes, atStep]) selfConfirm
        (ran selfConfirm all)⟩
  | loadForConfirm now allRan =>
    rw [atStep] at sound
    obtain ⟨running, isNow, judged, selfConfirm, ran⟩ := sound
    exact ⟨elsewhere.running running, by rw [elsewhere.tick]; exact isNow, elsewhere.judged judged,
      selfConfirm, fun all => elsewhere.allRan (by rw [isPastProbes, atStep]) selfConfirm
        (ran all)⟩
  | loadConfirmAt now allRan =>
    rw [atStep] at sound
    obtain ⟨running, isNow, judged, confirming, ran⟩ := sound
    refine ⟨elsewhere.running running, by rw [elsewhere.tick]; exact isNow,
      elsewhere.judged judged, elsewhere.confirming_of_confirming confirming, fun all => ?_⟩
    rcases ran all with found | early
    · rw [elsewhere.tick]
      exact Or.inl found
    · exact Or.inr (elsewhere.tooEarly confirming early)
  | confirm =>
    rw [atStep] at sound
    obtain ⟨running, judged, confirming, found, reading, isReading, isOver⟩ := sound
    rw [elsewhere.tick]
    exact ⟨elsewhere.running running, elsewhere.judged judged,
      elsewhere.confirming_of_confirming confirming, found, reading,
      (elsewhere.reading confirming).trans isReading, isOver⟩
  | standDown =>
    rw [atStep] at sound
    refine ⟨elsewhere.standsDown sound.1, ?_⟩
    rcases sound.2 with client | confirming
    · exact Or.inl (elsewhere.client client)
    · exact Or.inr (elsewhere.confirming_of_confirming confirming)
  | loadArmed =>
    rw [atStep] at sound
    exact elsewhere.standsDown sound
  | feedToDisable =>
    rw [atStep] at sound
    exact elsewhere.standsDown sound
  | disable =>
    rw [atStep] at sound
    exact elsewhere.standsDown sound
  | storeDisarmed =>
    rw [atStep] at sound
    exact elsewhere.standsDown sound

/-- The invariant but for what the step itself changes. -/
theorem sound (sound : machine.Sound config) (deadline : after.deadline = machine.deadline)
    (deadlineMs : after.deadlineMs = machine.deadlineMs)
    (who : after.isImageConfirmed = true →
      after.clientConfirmed = true ∨ after.selfConfirmed = true)
    (confirming : after.state = .confirming → after.reportStep = .idle ∧
      ∃ reading, after.confirmReading = some reading ∧ reading < after.deadline ∧
        after.confirmAtMs = nowMs (reading + config.confirmDelayMs.toNat))
    (report : after.ReportSound config) : after.Sound config where
  deadline := by
    rw [deadline, deadlineMs]
    exact sound.deadline
  reading := by
    rw [elsewhere.tick]
    exact le_trans sound.reading elsewhere.clock
  posted := by
    refine elsewhere.posted_of sound.posted fun entry other same times => ?_
    rw [same.armedAtMs, same.armedAt, same.postedAt, same.postedIn, elsewhere.tick]
    exact ⟨times.1, times.2.1, le_trans times.2.2.1 elsewhere.clock, times.2.2.2⟩
  unposted verifying := by
    -- Elsewhere the state leaves VERIFYING only for FAILED or CONFIRMING.
    rcases elsewhere.state with same | ⟨-, failed | becomes⟩
    · exact elsewhere.unposted (sound.unposted (same ▸ verifying))
    · rw [failed] at verifying
      cases verifying
    · rw [becomes] at verifying
      cases verifying
  confirmed confirmed := by
    rcases elsewhere.state with same | ⟨-, failed | becomes⟩
    · exact elsewhere.image (sound.confirmed (same ▸ confirmed))
    · rw [failed] at confirmed
      cases confirmed
    · rw [becomes] at confirmed
      cases confirmed
  who := who
  self self := by
    rw [elsewhere.selfConfirmed] at self
    rw [elsewhere.tickStep]
    rcases sound.self self with confirmed | standsDown
    · rcases elsewhere.state with same | ⟨verifying, -⟩
      · exact Or.inl (same.trans confirmed)
      · rw [confirmed] at verifying
        cases verifying
    · exact Or.inr standsDown
  confirming := confirming
  report := report
  tick := elsewhere.tickSound sound.tick

end Elsewhere

/-! ### The steps of others -/

theorem Sound.stepAdvance (sound : machine.Sound config) (milliseconds : ℕ) :
    (machine.step config (.advance milliseconds)).Sound config := by
  have elsewhere : Elsewhere config machine (machine.step config (.advance milliseconds)) :=
    { tickStep := rfl
      tick := rfl
      selfConfirmed := rfl
      clock := Nat.le_add_right _ _
      posted := fun entry member armed => ⟨entry, member, armed, SamePost.refl entry⟩
      image := id
      client := id
      state := Or.inl rfl
      reading := fun _ => rfl
      inOrder := fun other becomes => absurd becomes other }
  exact elsewhere.sound sound rfl rfl sound.who sound.confirming sound.report

theorem Sound.stepAddProbe (sound : machine.Sound config) :
    (machine.step config .addProbe).Sound config := by
  have elsewhere : Elsewhere config machine (machine.step config .addProbe) :=
    { tickStep := rfl
      tick := rfl
      selfConfirmed := rfl
      clock := le_rfl
      posted := fun entry member armed => by
        rcases List.mem_append.mp member with known | new
        · exact ⟨entry, known, armed, SamePost.refl entry⟩
        · rw [List.mem_singleton.mp new] at armed
          cases armed
      image := id
      client := id
      state := Or.inl rfl
      reading := fun _ => rfl
      inOrder := fun other becomes => absurd becomes other }
  exact elsewhere.sound sound rfl rfl sound.who sound.confirming sound.report

theorem Sound.stepRunProbe (sound : machine.Sound config) (index : ℕ) :
    (machine.step config (.runProbe index)).Sound config := by
  have elsewhere : Elsewhere config machine (machine.step config (.runProbe index)) :=
    { tickStep := rfl
      tick := rfl
      selfConfirmed := rfl
      clock := le_rfl
      posted := fun entry member armed => by
        obtain ⟨i, atI⟩ := List.getElem?_of_mem member
        change (machine.probes.modify index _)[i]? = _ at atI
        rw [List.getElem?_modify, Option.map_eq_map, Option.map_eq_some_iff] at atI
        obtain ⟨before, isBefore, rfl⟩ := atI
        refine ⟨before, List.mem_of_getElem? isBefore, ?_⟩
        by_cases here : index = i
        · rw [if_pos here] at armed ⊢
          exact ⟨armed, rfl, rfl, rfl, rfl, fun ran => by simp [ran]⟩
        · rw [if_neg here] at armed ⊢
          exact ⟨armed, SamePost.refl before⟩
      image := id
      client := id
      state := Or.inl rfl
      reading := fun _ => rfl
      inOrder := fun other becomes => absurd becomes other }
  exact elsewhere.sound sound rfl rfl sound.who sound.confirming sound.report

theorem Sound.stepClientConfirms (sound : machine.Sound config) :
    (machine.step config .clientConfirms).Sound config := by
  have elsewhere : Elsewhere config machine (machine.step config .clientConfirms) :=
    { tickStep := rfl
      tick := rfl
      selfConfirmed := rfl
      clock := le_rfl
      posted := fun entry member armed => ⟨entry, member, armed, SamePost.refl entry⟩
      image := fun _ => rfl
      client := fun _ => rfl
      state := Or.inl rfl
      reading := fun _ => rfl
      inOrder := fun other becomes => absurd becomes other }
  exact elsewhere.sound sound rfl rfl (fun _ => Or.inl rfl) sound.confirming sound.report

/-- A step of the report is not the tick's. -/
theorem elsewhere_report (report : machine.ReportSound config)
    (inOrder : machine.ReportsInOrder config .report) :
    Elsewhere config machine (machine.step config .report) := by
  change Elsewhere config machine (machine.stepReport config)
  have probes : ∀ entry ∈ machine.probes, entry.armed = true →
      ∃ before ∈ machine.probes, before.armed = true ∧ SamePost before entry :=
    fun entry member armed => ⟨entry, member, armed, SamePost.refl entry⟩
  unfold ReportSound at report
  unfold stepReport
  -- Both exchanges start from VERIFYING, so a state that has moved on is left alone.
  cases atStep : machine.reportStep with
  | idle =>
    dsimp only
    split_ifs with other
    · exact ⟨rfl, rfl, rfl, le_rfl, probes, id, id, Or.inl rfl, fun _ => rfl,
        fun unlike becomes => absurd becomes unlike⟩
    · exact ⟨rfl, rfl, rfl, le_rfl, probes, id, id, Or.inl rfl, fun _ => rfl,
        fun unlike becomes => absurd becomes unlike⟩
  | readClock =>
    exact ⟨rfl, rfl, rfl, le_rfl, probes, id, id, Or.inl rfl, fun _ => rfl,
      fun unlike becomes => absurd becomes unlike⟩
  | exchangeFailed =>
    refine ⟨rfl, rfl, rfl, le_rfl, probes, id, id, ?_, fun _ => rfl, fun unlike becomes => ?_⟩
    · by_cases verifying : machine.state = .verifying
      · exact Or.inr ⟨verifying, Or.inl (if_pos verifying)⟩
      · exact Or.inl (if_neg verifying)
    · dsimp only at becomes
      split_ifs at becomes
      exact absurd becomes unlike
  | storeConfirmAt now =>
    rw [atStep] at report
    exact ⟨rfl, rfl, rfl, le_rfl, probes, id, id, Or.inl rfl,
      fun confirming => absurd confirming report.1, fun unlike becomes => absurd becomes unlike⟩
  | exchangeConfirming =>
    rw [atStep] at report
    obtain ⟨unlike, reading, isReading, -⟩ := report
    refine ⟨rfl, rfl, rfl, le_rfl, probes, id, id, ?_, fun _ => rfl,
      fun _ becomes selfConfirm past looked => ⟨reading, isReading, ?_⟩⟩
    · by_cases verifying : machine.state = .verifying
      · exact Or.inr ⟨verifying, Or.inr (if_pos verifying)⟩
      · exact Or.inl (if_neg verifying)
    · by_cases verifying : machine.state = .verifying
      · exact inOrder atStep verifying selfConfirm past looked reading isReading
      · dsimp only at becomes
        rw [if_neg verifying] at becomes
        exact absurd becomes unlike

theorem Sound.stepReport (sound : machine.Sound config) (close : machine.ClockClose config .report)
    (inOrder : machine.ReportsInOrder config .report) :
    (machine.step config .report).Sound config := by
  have elsewhere := elsewhere_report sound.report inOrder
  have report := sound.report
  have confirming := sound.confirming
  change Elsewhere config machine (machine.stepReport config) at elsewhere
  change (machine.stepReport config).Sound config
  unfold ReportSound at report
  unfold ImageConfirmation.stepReport at elsewhere ⊢
  cases atStep : machine.reportStep with
  | idle =>
    dsimp only
    split_ifs with other
    · exact sound
    · rw [atStep] at elsewhere
      dsimp only at elsewhere
      rw [if_neg other] at elsewhere
      have verifying : machine.state = .verifying := not_not.mp other
      have unlike : machine.state ≠ .confirming := by
        rw [verifying]
        nofun
      exact elsewhere.sound sound rfl rfl sound.who (fun becomes => absurd becomes unlike) unlike
  | readClock =>
    rw [atStep] at elsewhere report
    refine elsewhere.sound sound rfl rfl sound.who (fun becomes => absurd becomes report) ?_
    dsimp only [ReportSound]
    -- The stored deadline is cut to 32 bits; as long as the clock is close, the comparison is the
    -- one of the full times.
    rw [sound.deadline]
    by_cases reached : machine.deadline ≤ machine.clock
    · rw [if_pos ((isReached_iff (close atStep)).mpr reached)]
      exact report
    · rw [if_neg fun is => reached ((isReached_iff (close atStep)).mp is)]
      exact ⟨report, rfl, not_le.mp reached⟩
  | exchangeFailed =>
    rw [atStep] at elsewhere report
    refine elsewhere.sound sound rfl rfl sound.who (fun becomes => ?_) trivial
    dsimp only at becomes
    split_ifs at becomes
    exact absurd becomes report
  | storeConfirmAt now =>
    rw [atStep] at elsewhere report
    obtain ⟨unlike, isNow, before⟩ := report
    refine elsewhere.sound sound rfl rfl sound.who (fun becomes => absurd becomes unlike) ?_
    refine ⟨unlike, machine.reportReading, rfl, before, ?_⟩
    dsimp only
    rw [isNow, nowMs_add]
  | exchangeConfirming =>
    rw [atStep] at elsewhere report
    obtain ⟨unlike, reading, isReading, before, at_⟩ := report
    exact elsewhere.sound sound rfl rfl sound.who
      (fun _ => ⟨rfl, reading, isReading, before, at_⟩) trivial

/-! ### The steps of the tick -/

theorem Sound.confirmed_of_self (sound : machine.Sound config)
    (other : machine.tickStep ≠ .standDown) (self : machine.selfConfirmed = true) :
    machine.state = .confirmed :=
  (sound.self self).resolve_right other

theorem Sound.inTime (sound : machine.Sound config) (judged : machine.Judged config)
    (ordered : machine.tick.beganAt ≤ machine.tick.reading) : machine.InTime config := by
  intro entry member armed
  obtain ⟨-, read, -, -⟩ := sound.posted entry member armed
  rcases judged entry member armed with here | early
  · exact Or.inr (Or.inl here)
  · exact Or.inr (Or.inr (by omega))

/-- What a report relies on survives where the image is not CONFIRMING afterwards. -/
theorem ReportSound.of_state (report : machine.ReportSound config) {state : DfuState}
    (unlike : state ≠ .confirming) (next : TickStep) :
    ({ machine with state, tickStep := next }).ReportSound config := by
  unfold ReportSound at report ⊢
  dsimp only
  cases atStep : machine.reportStep with
  | idle => trivial
  | readClock => exact unlike
  | exchangeFailed => exact unlike
  | storeConfirmAt now =>
    rw [atStep] at report
    exact ⟨unlike, report.2⟩
  | exchangeConfirming =>
    rw [atStep] at report
    exact ⟨unlike, report.2⟩

/-- A step that only moves the tick. -/
theorem Sound.goto (sound : machine.Sound config) (other : machine.tickStep ≠ .standDown)
    {next : TickStep} (tick : ({ machine with tickStep := next }).TickSound config) :
    ({ machine with tickStep := next }).Sound config :=
  { sound with
    self := fun self => Or.inl (sound.confirmed_of_self other self)
    tick }

/-- A step that moves the image to FAILED, or to CONFIRMED for a confirmed image. -/
theorem Sound.moveTo (sound : machine.Sound config) {state : DfuState} {next : TickStep}
    (moved : state = .failed ∧ machine.selfConfirmed = false ∨
      state = .confirmed ∧ machine.isImageConfirmed = true)
    (tick : ({ machine with state, tickStep := next }).TickSound config) :
    ({ machine with state, tickStep := next }).Sound config := by
  rcases moved with ⟨rfl, notSelf⟩ | ⟨rfl, image⟩
  · exact
      { sound with
        unposted := nofun
        confirmed := nofun
        self := fun self => absurd self (by simp [notSelf])
        confirming := nofun
        report := sound.report.of_state (by decide) next
        tick }
  · exact
      { sound with
        unposted := nofun
        confirmed := fun _ => image
        self := fun _ => Or.inl rfl
        confirming := nofun
        report := sound.report.of_state (by decide) next
        tick }

theorem Sound.begin (sound : machine.Sound config) (succeeds : Bool)
    (inOrder : machine.ReportsInOrder config (.tick succeeds)) (atStep : machine.tickStep = .idle) :
    (machine.stepTick config succeeds).Sound config := by
  have other : machine.tickStep ≠ .standDown := by
    rw [atStep]
    nofun
  have earlier : machine.Posted fun entry => entry.postedIn < machine.tick.number + 1 :=
    fun entry member armed => Nat.lt_succ_of_le (sound.posted entry member armed).2.2.2
  unfold stepTick
  rw [atStep]
  dsimp only
  refine
    { sound with
      posted := fun entry member armed => ?_
      self := fun self => Or.inl (sound.confirmed_of_self other self)
      tick := ?_ }
  · obtain ⟨same, read, past, number⟩ := sound.posted entry member armed
    exact ⟨same, read, past, Nat.le_succ_of_le number⟩
  · by_cases confirmed : machine.state = .confirmed
    · rw [if_pos confirmed]
      refine ⟨sound.confirmed confirmed, ?_⟩
      rcases sound.who (sound.confirmed confirmed) with client | self
      · exact Or.inl client
      · refine Or.inr ⟨?_, fun entry member armed => ?_⟩
        · dsimp only
          rw [confirmed]
          nofun
        -- The machine confirmed itself: by the order of the steps every probe has run by now or is
        -- not yet due.
        · rcases inOrder atStep self entry member armed with ran | recent
          · exact Or.inl ran
          · exact Or.inr (Or.inr recent)
    · rw [if_neg confirmed]
      refine ⟨rfl, le_rfl, confirmed, ?_, id, ?_, sound.unposted, earlier⟩
      · by_contra self
        exact confirmed (sound.confirmed_of_self other (by simpa using self))
      · intro healthy running
        dsimp only at healthy running ⊢
        cases state : machine.state with
        | confirmed => exact absurd state confirmed
        | verifying => exact absurd state running
        | confirming => rfl
        | failed => exact absurd state healthy

theorem Sound.tickIsConfirmed (sound : machine.Sound config) (succeeds : Bool) {state : DfuState}
    (atStep : machine.tickStep = .isConfirmed state) :
    (machine.stepTick config succeeds).Sound config := by
  have tick := sound.tick
  unfold TickSound at tick
  rw [atStep] at tick
  obtain ⟨began, ordered, unconfirmed, notSelf, failed, confirming, unposted, posted⟩ := tick
  unfold stepTick
  rw [atStep]
  dsimp only
  refine sound.goto (by rw [atStep]; nofun) ?_
  by_cases image : machine.isImageConfirmed = true
  · rw [if_pos image]
    have client : machine.clientConfirmed = true :=
      (sound.who image).resolve_right (by simp [notSelf])
    exact ⟨⟨image, Or.inl client⟩, Or.inl client⟩
  · rw [if_neg image]
    by_cases isFailed : state = .failed
    · rw [if_pos isFailed]
      trivial
    · rw [if_neg isFailed]
      exact ⟨began, ordered, isFailed, unconfirmed, notSelf, confirming isFailed, unposted, posted⟩

theorem Sound.tickReadClock (sound : machine.Sound config) (succeeds : Bool) {state : DfuState}
    (atStep : machine.tickStep = .readClock state) :
    (machine.stepTick config succeeds).Sound config := by
  have tick := sound.tick
  unfold TickSound at tick
  rw [atStep] at tick
  obtain ⟨began, ordered, healthy, unconfirmed, notSelf, confirming, unposted, posted⟩ := tick
  unfold stepTick
  rw [atStep]
  dsimp only
  refine
    { sound with
      reading := le_rfl
      self := fun self => absurd self (by simp [notSelf])
      tick := ?_ }
  have running : Running
      { machine with tick := { machine.tick with reading := machine.clock } } :=
    ⟨ordered, began ▸ healthy, unconfirmed, notSelf⟩
  -- The deadline has passed in VERIFYING, where no probe was posted yet.
  by_cases late : (state = .verifying && isReached (nowMs machine.clock) machine.deadlineMs) = true
  · rw [if_pos late]
    simp only [Bool.and_eq_true, decide_eq_true_eq] at late
    exact ⟨⟨ordered, running.healthy, unconfirmed, notSelf⟩, rfl, unposted late.1⟩
  · rw [if_neg late]
    refine ⟨⟨ordered, running.healthy, unconfirmed, notSelf⟩, rfl, fun unlike => ?_,
      fun entry member armed => ⟨posted entry member armed, ?_⟩⟩
    · refine unposted (by_contra fun notVerifying => ?_)
      exact unlike (confirming notVerifying)
    · obtain ⟨-, read, past, -⟩ := sound.posted entry member armed
      exact le_trans read past

theorem Sound.tickExchange (sound : machine.Sound config) (succeeds : Bool) {now : UInt32}
    (atStep : machine.tickStep = .exchange now) :
    (machine.stepTick config succeeds).Sound config := by
  have tick := sound.tick
  unfold TickSound at tick
  rw [atStep] at tick
  obtain ⟨running, isNow, unposted⟩ := tick
  unfold stepTick
  rw [atStep]
  dsimp only
  by_cases verifying : machine.state = .verifying
  · rw [if_pos verifying]
    exact sound.moveTo (Or.inl ⟨rfl, running.notSelf⟩) trivial
  · rw [if_neg verifying]
    refine sound.goto (by rw [atStep]; nofun) ?_
    by_cases failed : machine.state = .failed
    · rw [if_pos failed]
      trivial
    · rw [if_neg failed]
      exact ⟨⟨running.1, running.2, running.3, running.4⟩, isNow, fun _ => unposted,
        fun entry member armed => (unposted entry member armed).elim⟩

theorem Sound.tickLoadForProbes (sound : machine.Sound config) (succeeds : Bool) {now : UInt32}
    (atStep : machine.tickStep = .loadForProbes now) :
    (machine.stepTick config succeeds).Sound config := by
  have tick := sound.tick
  unfold TickSound at tick
  rw [atStep] at tick
  obtain ⟨running, isNow, unposted, posted⟩ := tick
  unfold stepTick
  rw [atStep]
  dsimp only
  by_cases confirming : machine.state = .confirming
  · rw [if_pos confirming]
    exact sound.goto (by rw [atStep]; nofun)
      ⟨⟨running.1, running.2, running.3, running.4⟩, isNow, confirming, posted⟩
  · rw [if_neg confirming]
    exact
      { sound with
        self := fun self => absurd self (by simp [running.notSelf])
        tick := ⟨⟨running.1, running.2, running.3, running.4⟩, isNow,
          fun entry member armed => (unposted confirming entry member armed).elim,
          fun _ _ => Or.inr (Or.inl confirming)⟩ }

/-- A probe that the tick leaves as it was has not waited too long. -/
theorem not_isStuck {entry : ProbeEntry} {reading : ℕ} (armed : entry.armed = true)
    (waits : entry.hasRun = false) (same : entry.armedAtMs = nowMs entry.armedAt)
    (past : entry.armedAt ≤ reading) (close : Close reading entry.armedAt)
    (well : isStuck config (nowMs reading) entry = false) :
    reading < entry.armedAt + config.allowedMs.toNat := by
  simp only [isStuck, armed, waits, same, Bool.not_false, Bool.and_self, Bool.true_and,
    decide_eq_false_iff_not, UInt32.le_iff_toNat_le, toNat_sub_nowMs close past] at well
  omega

theorem rearm_cases (machine : ImageConfirmation) (now : UInt32) (entry : ProbeEntry) :
    machine.rearm now entry =
        entry.arm now machine.tick.reading machine.clock machine.tick.number ∨
      machine.rearm now entry = entry ∧ entry.armed = true ∧ entry.hasRun = false := by
  unfold rearm
  by_cases posts : (!entry.armed || entry.hasRun) = true
  · rw [if_pos posts]
    exact Or.inl rfl
  · rw [if_neg posts]
    simp only [Bool.or_eq_true, Bool.not_eq_true', not_or, Bool.not_eq_false,
      Bool.not_eq_true] at posts
    exact Or.inr ⟨rfl, posts⟩

theorem Sound.tickCheckProbes (sound : machine.Sound config) (succeeds : Bool) {now : UInt32}
    (close : machine.ClockClose config (.tick succeeds))
    (atStep : machine.tickStep = .checkProbes now) :
    (machine.stepTick config succeeds).Sound config := by
  have tick := sound.tick
  unfold TickSound at tick
  rw [atStep] at tick
  obtain ⟨running, isNow, confirming, posted⟩ := tick
  have close := close.1 (by rw [isAtProbes, atStep])
  unfold stepTick
  rw [atStep]
  dsimp only [checkAndRearmProbes]
  refine
    { sound with
      posted := ?_
      unposted := fun verifying => absurd (confirming.symm.trans verifying) (by decide)
      self := fun self => absurd self (by simp [running.notSelf])
      tick := ?_ }
  · intro entry member armed
    obtain ⟨before, isBefore, rfl⟩ := List.mem_map.mp member
    -- A probe that has run is posted again, one that still waits keeps its times.
    rcases rearm_cases machine now before with new | ⟨old, was, -⟩
    · rw [new]
      exact ⟨isNow, sound.reading, le_rfl, le_rfl⟩
    · rw [old]
      exact sound.posted before isBefore was
  · by_cases healthy : machine.probes.all (!isStuck config now ·) = true
    · rw [if_pos healthy]
      refine ⟨⟨running.1, running.2, running.3, running.4⟩, isNow, fun entry member armed => ?_,
        fun _ all => Or.inl ?_⟩
      · obtain ⟨before, isBefore, rfl⟩ := List.mem_map.mp member
        rcases rearm_cases machine now before with new | ⟨old, was, waits⟩
        · rw [new]
          exact Or.inl rfl
        · rw [old]
          -- It still waits, and the tick did not find it stuck.
          have well := List.all_eq_true.mp healthy before isBefore
          rw [isNow, Bool.not_eq_true'] at well
          exact Or.inr (not_isStuck was waits (sound.posted before isBefore was).1
            (posted before isBefore was).2 (close before isBefore was) well)
      · intro found member
        obtain ⟨before, isBefore, rfl⟩ := List.mem_map.mp member
        exact List.all_eq_true.mp all before isBefore
    · rw [if_neg healthy]
      exact ⟨running.1, running.2, running.3, running.4⟩

theorem Sound.tickLoadConfirmAt (sound : machine.Sound config) (succeeds : Bool) {now : UInt32}
    {allRan : Bool} (close : machine.ClockClose config (.tick succeeds))
    (atStep : machine.tickStep = .loadConfirmAt now allRan) :
    (machine.stepTick config succeeds).Sound config := by
  have tick := sound.tick
  unfold TickSound at tick
  rw [atStep] at tick
  obtain ⟨running, isNow, judged, confirming, ran⟩ := tick
  obtain ⟨-, reading, isReading, -, isConfirmAt⟩ := sound.confirming confirming
  have close := close.2 (by rw [isAtConfirmAt, atStep]) reading isReading
  unfold stepTick
  rw [atStep]
  dsimp only
  refine sound.goto (by rw [atStep]; nofun) ?_
  by_cases confirms : (isReached now machine.confirmAtMs && allRan) = true
  · rw [if_pos confirms]
    obtain ⟨reached, all⟩ := Bool.and_eq_true_iff.mp confirms
    rw [isNow, isConfirmAt, isReached_iff close] at reached
    refine ⟨⟨running.1, running.2, running.3, running.4⟩, judged, confirming, ?_, reading,
      isReading, reached⟩
    rcases ran all with found | ⟨other, isOther, early⟩
    · exact found
    · cases isReading.symm.trans isOther
      omega
  · rw [if_neg confirms]
    trivial

theorem Sound.tickConfirm (sound : machine.Sound config) (succeeds : Bool)
    (atStep : machine.tickStep = .confirm) :
    (machine.stepTick config succeeds).Sound config := by
  have tick := sound.tick
  unfold TickSound at tick
  rw [atStep] at tick
  obtain ⟨running, judged, confirming, -⟩ := tick
  unfold stepTick
  rw [atStep]
  dsimp only
  by_cases confirms : succeeds = true
  · rw [if_pos confirms]
    exact
      { sound with
        confirmed := fun _ => rfl
        who := fun _ => Or.inr rfl
        self := fun _ => Or.inr rfl
        tick := ⟨⟨rfl, Or.inr ⟨running.healthy, sound.inTime judged running.ordered⟩⟩,
          Or.inr confirming⟩ }
  · rw [if_neg confirms]
    exact sound.goto (by rw [atStep]; nofun) trivial

theorem Sound.stepTick (sound : machine.Sound config) (succeeds : Bool)
    (close : machine.ClockClose config (.tick succeeds))
    (inOrder : machine.ReportsInOrder config (.tick succeeds)) :
    (machine.step config (.tick succeeds)).Sound config := by
  change (machine.stepTick config succeeds).Sound config
  have tick := sound.tick
  unfold TickSound at tick
  -- The steps that decide something have lemmas of their own; the others hand on what the tick
  -- knows.
  cases atStep : machine.tickStep with
  | idle => exact sound.begin succeeds inOrder atStep
  | isConfirmed state => exact sound.tickIsConfirmed succeeds atStep
  | readClock state => exact sound.tickReadClock succeeds atStep
  | exchange now => exact sound.tickExchange succeeds atStep
  | loadForProbes now => exact sound.tickLoadForProbes succeeds atStep
  | checkProbes now => exact sound.tickCheckProbes succeeds close atStep
  | loadConfirmAt now allRan => exact sound.tickLoadConfirmAt succeeds close atStep
  | confirm => exact sound.tickConfirm succeeds atStep
  | standDown =>
    rw [atStep] at tick
    unfold ImageConfirmation.stepTick
    rw [atStep]
    exact sound.moveTo (Or.inr ⟨rfl, tick.1.1⟩) tick.1
  | fail =>
    rw [atStep] at tick
    unfold ImageConfirmation.stepTick
    rw [atStep]
    exact sound.moveTo (Or.inl ⟨rfl, tick.notSelf⟩) trivial
  | feed now allRan =>
    rw [atStep] at tick
    obtain ⟨running, isNow, judged, ran⟩ := tick
    unfold ImageConfirmation.stepTick
    rw [atStep]
    refine sound.goto (by rw [atStep]; nofun) ?_
    by_cases selfConfirm : config.selfConfirm = true
    · rw [if_pos selfConfirm]
      exact ⟨⟨running.1, running.2, running.3, running.4⟩, isNow, judged, selfConfirm,
        ran selfConfirm⟩
    · rw [if_neg selfConfirm]
      trivial
  | loadForConfirm now allRan =>
    rw [atStep] at tick
    obtain ⟨running, isNow, judged, -, ran⟩ := tick
    unfold ImageConfirmation.stepTick
    rw [atStep]
    refine sound.goto (by rw [atStep]; nofun) ?_
    by_cases confirming : machine.state = .confirming
    · rw [if_pos confirming]
      refine ⟨⟨running.1, running.2, running.3, running.4⟩, isNow, judged, confirming,
        fun all => ?_⟩
      exact (ran all).imp_right fun late => late.resolve_left (absurd confirming)
    · rw [if_neg confirming]
      trivial
  | loadArmed =>
    rw [atStep] at tick
    unfold ImageConfirmation.stepTick
    rw [atStep]
    refine sound.goto (by rw [atStep]; nofun) ?_
    by_cases armed : machine.isWatchdogArmed = true
    · rw [if_pos armed]
      exact tick
    · rw [if_neg armed]
      trivial
  | feedToDisable =>
    rw [atStep] at tick
    unfold ImageConfirmation.stepTick
    rw [atStep]
    exact sound.goto (by rw [atStep]; nofun) tick
  | disable =>
    rw [atStep] at tick
    unfold ImageConfirmation.stepTick
    rw [atStep]
    refine sound.goto (by rw [atStep]; nofun) ?_
    by_cases disabled : succeeds = true
    · rw [if_pos disabled]
      exact tick
    · rw [if_neg disabled]
      trivial
  | storeDisarmed =>
    unfold ImageConfirmation.stepTick
    rw [atStep]
    exact
      { sound with
        self := fun self => Or.inl (sound.confirmed_of_self (by rw [atStep]; nofun) self)
        tick := trivial }

/-- A step in order keeps the invariant. -/
theorem Sound.step (sound : machine.Sound config) (label : ConfirmationLabel)
    (close : machine.ClockClose config label) (inOrder : machine.ReportsInOrder config label) :
    (machine.step config label).Sound config := by
  cases label with
  | advance milliseconds => exact sound.stepAdvance milliseconds
  | addProbe => exact sound.stepAddProbe
  | runProbe index => exact sound.stepRunProbe index
  | clientConfirms => exact sound.stepClientConfirms
  | report => exact sound.stepReport close inOrder
  | tick succeeds => exact sound.stepTick succeeds close inOrder

theorem sound_initializeUnconfirmed (config : ImageConfirmationConfig) (clock : ℕ)
    (isWatchdogArmed : Bool) :
    (initializeUnconfirmed config clock isWatchdogArmed).Sound config where
  deadline := nowMs_add clock config.bootDeadlineMs
  reading := Nat.zero_le _
  posted := nofun
  unposted _ := nofun
  confirmed := nofun
  who := nofun
  self := nofun
  confirming := nofun
  report := trivial
  tick := trivial

/-! ### What a step owes -/

theorem Sound.leavesFailed (sound : machine.Sound config) (label : ConfirmationLabel)
    (failed : machine.state = .failed) : (machine.step config label).state = .failed ∨
      (machine.step config label).state = .confirmed ∧ machine.clientConfirmed = true := by
  have unverifying : machine.state ≠ .verifying := by
    rw [failed]
    nofun
  cases label with
  | advance milliseconds => exact Or.inl failed
  | addProbe => exact Or.inl failed
  | runProbe index => exact Or.inl failed
  | clientConfirms => exact Or.inl failed
  | report =>
    left
    change (machine.stepReport config).state = .failed
    unfold ImageConfirmation.stepReport
    cases machine.reportStep with
    | idle => simp [failed]
    | readClock => exact failed
    | exchangeFailed => simp [failed]
    | storeConfirmAt now => exact failed
    | exchangeConfirming => simp [failed]
  | tick succeeds =>
    have tick := sound.tick
    unfold TickSound at tick
    change (machine.stepTick config succeeds).state = .failed ∨
      (machine.stepTick config succeeds).state = .confirmed ∧ machine.clientConfirmed = true
    unfold ImageConfirmation.stepTick
    -- Only standing down changes FAILED, and from there it follows a confirmation by a client.
    cases atStep : machine.tickStep with
    | standDown =>
      rw [atStep] at tick
      refine Or.inr ⟨rfl, tick.2.resolve_right ?_⟩
      rw [failed]
      nofun
    | exchange now =>
      left
      dsimp only
      rw [if_neg unverifying]
      exact failed
    | loadForProbes now =>
      left
      dsimp only
      split_ifs <;> exact failed
    | confirm =>
      left
      dsimp only
      split_ifs <;> exact failed
    | fail => exact Or.inl rfl
    | checkProbes now => exact Or.inl failed
    | _ => exact Or.inl failed

theorem Sound.feeds (sound : machine.Sound config) (feeds : machine.feeds = true)
    (began : machine.tick.beganIn = .failed) : machine.clientConfirmed = true := by
  have tick := sound.tick
  unfold TickSound at tick
  unfold ImageConfirmation.feeds at feeds
  cases atStep : machine.tickStep with
  | feed now allRan =>
    rw [atStep] at tick
    exact absurd began tick.1.healthy
  | feedToDisable =>
    rw [atStep] at tick
    exact tick.2.resolve_right fun other => other.1 began
  | _ =>
    rw [atStep] at feeds
    cases feeds

/-- A tick ends in FAILED, with a confirmation by a client, or with no probe to fail for. -/
theorem Sound.ends (sound : machine.Sound config) (succeeds : Bool)
    (runs : machine.tickStep ≠ .idle)
    (ends : (machine.stepTick config succeeds).tickStep = .idle) :
    (machine.stepTick config succeeds).state = .failed ∨ machine.clientConfirmed = true ∨
      (machine.stepTick config succeeds).probes = machine.probes ∧ machine.InTime config := by
  have tick := sound.tick
  unfold TickSound at tick
  have running : machine.Running → machine.Judged config → machine.InTime config :=
    fun running judged => sound.inTime judged running.ordered
  unfold ImageConfirmation.stepTick at ends ⊢
  -- A tick that ends here has failed, follows a client, or knows from its probes that they are in
  -- time.
  cases atStep : machine.tickStep with
  | idle => exact absurd atStep runs
  | isConfirmed state =>
    rw [atStep] at tick ends
    dsimp only at ends ⊢
    split_ifs at ends with image failed
    exact Or.inl (tick.2.2.2.2.1 failed)
  | readClock state =>
    rw [atStep] at ends
    dsimp only at ends
    split_ifs at ends
  | exchange now =>
    rw [atStep] at ends
    dsimp only at ends ⊢
    by_cases verifying : machine.state = .verifying
    · rw [if_pos verifying]
      exact Or.inl rfl
    · rw [if_neg verifying] at ends ⊢
      dsimp only at ends ⊢
      split_ifs at ends with failed
      exact Or.inl failed
  | loadForProbes now =>
    rw [atStep] at ends
    dsimp only at ends
    split_ifs at ends
  | checkProbes now =>
    rw [atStep] at ends
    dsimp only [checkAndRearmProbes] at ends
    split_ifs at ends
  | fail => exact Or.inl rfl
  | feed now allRan =>
    rw [atStep] at tick
    exact Or.inr (Or.inr ⟨rfl, running tick.1 tick.2.2.1⟩)
  | loadForConfirm now allRan =>
    rw [atStep] at tick
    exact Or.inr (Or.inr ⟨rfl, running tick.1 tick.2.2.1⟩)
  | loadConfirmAt now allRan =>
    rw [atStep] at tick
    exact Or.inr (Or.inr ⟨rfl, running tick.1 tick.2.2.1⟩)
  | confirm =>
    rw [atStep] at tick ends
    dsimp only at ends ⊢
    split_ifs at ends ⊢
    exact Or.inr (Or.inr ⟨rfl, running tick.1 tick.2.1⟩)
  | standDown =>
    rw [atStep] at ends
    cases ends
  | loadArmed =>
    rw [atStep] at tick
    exact Or.inr (tick.2.imp_right fun other => ⟨rfl, other.2⟩)
  | feedToDisable =>
    rw [atStep] at tick
    exact Or.inr (tick.2.imp_right fun other => ⟨rfl, other.2⟩)
  | disable =>
    rw [atStep] at tick
    exact Or.inr (tick.2.imp_right fun other => ⟨rfl, other.2⟩)
  | storeDisarmed =>
    rw [atStep] at tick
    exact Or.inr (tick.2.imp_right fun other => ⟨rfl, other.2⟩)

theorem clientConfirmed_stepTick (config : ImageConfirmationConfig) (machine : ImageConfirmation)
    (succeeds : Bool) :
    (machine.stepTick config succeeds).clientConfirmed = machine.clientConfirmed := by
  unfold stepTick
  cases machine.tickStep with
  | exchange now =>
    dsimp only
    split_ifs <;> rfl
  | loadForProbes now =>
    dsimp only
    split_ifs <;> rfl
  | confirm =>
    dsimp only
    split_ifs <;> rfl
  | _ => rfl

/-- In a sound state every step meets what it owes. -/
theorem Sound.meets (sound : machine.Sound config) (label : ConfirmationLabel) :
    machine.Meets config label where
  confirmsItself atStep _ := by
    have tick := sound.tick
    unfold TickSound at tick
    rw [atStep] at tick
    obtain ⟨-, -, confirming, found, reading, isReading, isOver⟩ := tick
    obtain ⟨-, other, isOther, before, -⟩ := sound.confirming confirming
    cases isReading.symm.trans isOther
    exact ⟨⟨reading, isReading, before, isOver, sound.reading⟩, found⟩
  leavesFailed := sound.leavesFailed label
  feeds _ _ := sound.feeds
  disables succeeds _ atStep := by
    have tick := sound.tick
    unfold TickSound at tick
    rw [atStep] at tick
    exact tick.1
  stuck succeeds isTick runs ends entry member armed waits earlier old := by
    subst isTick
    -- A probe that waits too long was seen as stuck by the tick that ended.
    rcases sound.ends succeeds runs ends with failed | client | ⟨same, inTime⟩
    · exact Or.inl failed
    · exact Or.inr ((clientConfirmed_stepTick config machine succeeds).trans client)
    · change entry ∈ (machine.stepTick config succeeds).probes at member
      rw [same] at member
      rcases inTime entry member armed with ran | here | early
      · rw [ran] at waits
        cases waits
      · omega
      · omega

/-- Every step of a run in order meets what it owes. -/
theorem meets_run (config : ImageConfirmationConfig) (clock : ℕ) (isWatchdogArmed : Bool)
    (labels : List ConfirmationLabel)
    (inOrder : Along (step config)
      (fun machine label => machine.ClockClose config label ∧ machine.ReportsInOrder config label)
      (initializeUnconfirmed config clock isWatchdogArmed) labels) :
    Along (step config) (fun machine label => machine.Meets config label)
      (initializeUnconfirmed config clock isWatchdogArmed) labels := by
  have sound := inOrder.always (sound_initializeUnconfirmed config clock isWatchdogArmed)
    fun machine label sound also => sound.step label also.1 also.2
  exact sound.along fun machine label sound => sound.meets label

/-- A probe is registered, the boot is reported, and ticks a delay later find the probe to have run:
one posts it, the next confirms the image. -/
def confirmingLabels : List ConfirmationLabel :=
  [.addProbe] ++ List.replicate 4 .report ++ [.advance 1000] ++ List.replicate 8 (.tick true) ++
    [.runProbe 0, .advance 20000] ++ List.replicate 14 (.tick true)

/-- The clock wraps in the run. -/
theorem meets_confirmingLabels :
    Along (step {}) (fun machine label => machine.Meets {} label)
        (initializeUnconfirmed {} (2 ^ 32 - 500) true) confirmingLabels ∧
      (run (step {}) (initializeUnconfirmed {} (2 ^ 32 - 500) true)
        confirmingLabels).selfConfirmed = true ∧
      (run (step {}) (initializeUnconfirmed {} (2 ^ 32 - 500) true)
        confirmingLabels).isWatchdogArmed = false :=
  ⟨meets_run {} (2 ^ 32 - 500) true confirmingLabels (by decide +kernel), by decide +kernel,
    by decide +kernel⟩

/-- A report reads the clock; a tick that begins a delay later passes the probe while the boot still
runs; the report makes the image CONFIRMING; the tick goes on. -/
def overtakenLabels : List ConfirmationLabel :=
  [.addProbe] ++ List.replicate 3 .report ++ [.advance 20000] ++ List.replicate 4 (.tick true) ++
    [.report] ++ List.replicate 3 (.tick true)

/-- The image confirms itself with a probe that was never posted. -/
theorem not_meets_overtakenLabels :
    1 ≤ ({} : ImageConfirmationConfig).confirmDelayMs ∧
      Along (step {}) (fun machine label => machine.ClockClose {} label)
        (initializeUnconfirmed {} 0 true) (overtakenLabels ++ [.tick true]) ∧
      ¬ Along (step {}) (fun machine label => machine.Meets {} label)
        (initializeUnconfirmed {} 0 true) (overtakenLabels ++ [.tick true]) := by
  refine ⟨by decide, by decide +kernel, fun meets => ?_⟩
  obtain ⟨-, last, -⟩ := along_append.mp meets
  obtain ⟨-, found⟩ := last.confirmsItself (by decide +kernel) rfl
  exact absurd (found false (by decide +kernel)) (by decide)

end ImageConfirmation

end RtCore.Dfu
