import Mathlib.Data.Finset.Card
import RtCore.Foundation.Run
import RtCore.Logging.RemoteControl

/-!
# The last request for a unit

A unit is addressed by the requests for all units and by those for its own UID.
`RequestBook` remembers the requests themselves, without the slots: what was last asked of
all units, what was asked of each unit since, and which of it no run has handled yet. The
results compare what a run of `Process` sends to an online logging unit with the book.

A slot of a stop that was sent may be taken by a request for another UID; the control then
follows the request for all units again. The book marks such a unit as overtaken.

## Main definitions

* `NetworkTable` — a device table with unique UIDs and device IDs
* `lastCommand` — the last command of a run that reaches a unit
* `RequestBook` — the requests as they were made

## Main results

* `Snapshot.lastCommand_plan` — what the last command to a unit is, by the slots
* `Tracks.call` — the slots keep following the book
* `last_request_wins`
-/

namespace RtCore.Logging

open RtCore.Cdmp RtCore.Foundation

/-! ### The device table -/

/-- A device table as the network gives it: UIDs are unique, this unit's own included, and
device IDs are those of peers. -/
structure NetworkTable (ownUid : UInt32) where
  devices : List CdmpDeviceInfo
  nodup_uid : (ownUid :: devices.map (·.uid)).Nodup
  nodup_deviceId : (devices.map (·.deviceId)).Nodup
  ne_broadcast : ∀ device ∈ devices, device.deviceId ≠ broadcastId

/-- An online unit that can log. -/
def IsLoggingUnit (device : CdmpDeviceInfo) : Prop :=
  device.status = .online ∧ canLog device = true

instance (device : CdmpDeviceInfo) : Decidable (IsLoggingUnit device) :=
  inferInstanceAs (Decidable (_ ∧ _))

theorem exists_of_resolve {devices : List CdmpDeviceInfo} {uid : UInt32} {deviceId : UInt8}
    (found : resolve devices uid = some deviceId) :
    ∃ device ∈ devices, device.uid = uid ∧ device.deviceId = deviceId := by
  obtain ⟨device, first, rfl⟩ := Option.map_eq_some_iff.mp found
  have matched := List.find?_some first
  simp only [Bool.and_eq_true, decide_eq_true_eq] at matched
  exact ⟨device, List.mem_of_find?_eq_some first, matched.1.1, rfl⟩

namespace NetworkTable

variable {ownUid : UInt32} (table : NetworkTable ownUid) {device : CdmpDeviceInfo}

theorem resolve_uid (member : device ∈ table.devices) (logs : IsLoggingUnit device) :
    resolve table.devices device.uid = some device.deviceId := by
  have matched : (device.uid = device.uid && device.status = .online && canLog device) = true := by
    simp [logs.1, logs.2]
  cases first : table.devices.find? fun other =>
      other.uid = device.uid && other.status = .online && canLog other with
  | none => exact absurd matched (List.find?_eq_none.mp first device member)
  | some other =>
    have sameUid := List.find?_some first
    simp only [Bool.and_eq_true, decide_eq_true_eq] at sameUid
    have same := List.inj_on_of_nodup_map (List.nodup_cons.mp table.nodup_uid).2
      (List.mem_of_find?_eq_some first) member sameUid.1.1
    rw [resolve, first, same]
    rfl

theorem resolve_eq_some_iff (member : device ∈ table.devices) (logs : IsLoggingUnit device)
    {uid : UInt32} : resolve table.devices uid = some device.deviceId ↔ uid = device.uid := by
  constructor
  · intro found
    obtain ⟨other, inside, rfl, sameId⟩ := exists_of_resolve found
    rw [List.inj_on_of_nodup_map table.nodup_deviceId inside member sameId]
  · rintro rfl
    exact table.resolve_uid member logs

theorem resolve_ne_broadcast {uid : UInt32} :
    resolve table.devices uid ≠ some broadcastId := by
  intro found
  obtain ⟨other, inside, -, same⟩ := exists_of_resolve found
  exact table.ne_broadcast other inside same

end NetworkTable

/-! ### The commands that reach a unit -/

/-- The command reaches a device: it is the device's own or goes to all. -/
def Send.reaches (deviceId : UInt8) (send : Send) : Bool :=
  send.deviceId = broadcastId || send.deviceId = deviceId

/-- The slot is in use for the unit with `uid`. -/
def Follows (targets : Slot → Target) (slot : Slot) (uid : UInt32) : Prop :=
  slot ≠ 0 ∧ (targets slot).uid = uid ∧ (targets slot).wanted ≠ .none

instance (targets : Slot → Target) (slot : Slot) (uid : UInt32) :
    Decidable (Follows targets slot uid) :=
  inferInstanceAs (Decidable (_ ∧ _))

/-- At most one slot is in use per UID. -/
def OneSlotPerUid (targets : Slot → Target) : Prop :=
  ∀ uid first second, Follows targets first uid → Follows targets second uid → first = second

/-- What the slots want of a unit: its own slot decides, else the one for all units. -/
def Wants (targets : Slot → Target) (uid : UInt32) (request : Request) : Prop :=
  (∃ slot, Follows targets slot uid ∧ (targets slot).wanted = request) ∨
    (¬∃ slot, Follows targets slot uid) ∧ (targets 0).wanted = request

/-- The slots want one thing of a unit. -/
theorem Wants.unique {targets : Slot → Target} {uid : UInt32} {first second : Request}
    (unique : OneSlotPerUid targets) (wants : Wants targets uid first)
    (also : Wants targets uid second) : first = second := by
  rcases wants with ⟨slot, follows, rfl⟩ | ⟨none, rfl⟩
  · rcases also with ⟨other, followed, rfl⟩ | ⟨none, -⟩
    · rw [unique uid slot other follows followed]
    · exact absurd ⟨slot, follows⟩ none
  · rcases also with ⟨slot, follows, -⟩ | ⟨-, rfl⟩
    · exact absurd ⟨slot, follows⟩ none
    · rfl

namespace Snapshot

variable {ownUid : UInt32} {snapshot : Snapshot} {table : NetworkTable ownUid}
  {device : CdmpDeviceInfo}

theorem mem_stoppedDevices_of_follows (member : device ∈ table.devices)
    (logs : IsLoggingUnit device) {slot : Slot} (follows : Follows snapshot.targets slot device.uid)
    (stopped : (snapshot.targets slot).wanted = .stop) :
    device.deviceId ∈ snapshot.stoppedDevices table.devices := by
  rw [stoppedDevices, List.mem_toFinset, List.mem_filterMap]
  refine ⟨slot, List.mem_filter.mpr ⟨mem_unitSlots.mpr follows.1, by simp [stopped]⟩, ?_⟩
  rw [follows.2.1]
  exact table.resolve_uid member logs

/-- A unit that the start for all units may reach is wanted to log. -/
theorem wants_start_of_not_stopped (member : device ∈ table.devices) (logs : IsLoggingUnit device)
    (forAll : (snapshot.targets 0).wanted = .start)
    (running : device.deviceId ∉ snapshot.stoppedDevices table.devices) :
    Wants snapshot.targets device.uid .start := by
  by_cases own : ∃ slot, Follows snapshot.targets slot device.uid
  · obtain ⟨slot, follows⟩ := own
    refine Or.inl ⟨slot, follows, ?_⟩
    cases wanted : (snapshot.targets slot).wanted with
    | none => exact absurd wanted follows.2.2
    | start => rfl
    | stop => exact absurd (mem_stoppedDevices_of_follows member logs follows wanted) running
  · exact Or.inr ⟨own, forAll⟩

/-! ### Step 1: the requests -/

/-- Starts sent again, only to units that are wanted to log and at most one to any unit. -/
def AreReassertions (snapshot : Snapshot) (device : CdmpDeviceInfo) (added : List Send) : Prop :=
  (∀ send ∈ added, send.isReassertion = true ∧ send.isStart = true ∧
    (send.reaches device.deviceId = true → Wants snapshot.targets device.uid .start)) ∧
  (added.filter (·.reaches device.deviceId)).length ≤ 1

/-- The steps after the requests added re-assertions to `base`, and remember as started the
unit that got one. -/
def Reasserts (snapshot : Snapshot) (device : CdmpDeviceInfo) (base : List Send)
    (progress : Progress) : Prop :=
  ∃ added, progress.sends = base ++ added ∧ AreReassertions snapshot device added ∧
    (added.filter (·.reaches device.deviceId) ≠ [] → device.deviceId ∈ progress.startedDevices)

theorem Reasserts.refl (progress : Progress) :
    Reasserts snapshot device progress.sends progress :=
  ⟨[], by simp [AreReassertions]⟩

theorem AreReassertions.concat {added : List Send} {deviceId : UInt8}
    (before : AreReassertions snapshot device added)
    (wanted : (Send.mk true deviceId true).reaches device.deviceId = true →
      Wants snapshot.targets device.uid .start ∧
        added.filter (·.reaches device.deviceId) = []) :
    AreReassertions snapshot device (added ++ [⟨true, deviceId, true⟩]) := by
  constructor
  · intro send member
    rcases List.mem_append.mp member with earlier | last
    · exact before.1 send earlier
    · rw [List.mem_singleton.mp last]
      exact ⟨rfl, rfl, fun reaches => (wanted reaches).1⟩
  · rw [List.filter_append, List.length_append]
    cases reached : (Send.mk true deviceId true).reaches device.deviceId with
    | true => simp [(wanted reached).2, reached]
    | false => simpa [reached] using before.2

/-- One more start to one unit, which got none yet. -/
theorem Reasserts.reassert {base : List Send} {progress : Progress} {deviceId : UInt8}
    (before : Reasserts snapshot device base progress)
    (fresh : deviceId ∉ progress.startedDevices) (single : deviceId ≠ broadcastId)
    (wanted : deviceId = device.deviceId → Wants snapshot.targets device.uid .start) :
    Reasserts snapshot device base (progress.reassert deviceId) := by
  obtain ⟨added, split, reasserted, started⟩ := before
  have reaches_iff : (Send.mk true deviceId true).reaches device.deviceId = true ↔
      deviceId = device.deviceId := by simp [Send.reaches, single]
  refine ⟨added ++ [⟨true, deviceId, true⟩], by simp [Progress.reassert, split], ?_, ?_⟩
  · refine reasserted.concat fun reached => ?_
    have same := reaches_iff.mp reached
    refine ⟨wanted same, ?_⟩
    by_contra earlier
    exact fresh (same ▸ started earlier)
  · intro some
    rw [List.filter_append] at some
    by_cases same : deviceId = device.deviceId
    · simp [Progress.reassert, same]
    · have passes : (Send.mk true deviceId true).reaches device.deviceId = false := by
        simpa using mt reaches_iff.mp same
      simp only [List.filter_cons, passes, List.filter_nil] at some
      exact Finset.mem_insert_of_mem (started (by simpa using some))

variable {base : List Send} {progress : Progress}

theorem Reasserts.reassertDevice (member : device ∈ table.devices) (logs : IsLoggingUnit device)
    (forAll : (snapshot.targets 0).wanted = .start) {other : CdmpDeviceInfo}
    (inside : other ∈ table.devices) (before : Reasserts snapshot device base progress) :
    Reasserts snapshot device base (snapshot.reassertDevice table.devices progress other) := by
  rw [Snapshot.reassertDevice]
  split_ifs with skipped
  · exact before
  · simp only [not_or] at skipped
    obtain ⟨-, -, running, fresh⟩ := skipped
    refine before.reassert fresh (table.ne_broadcast other inside) fun same => ?_
    exact wants_start_of_not_stopped member logs forAll (same ▸ running)

theorem Reasserts.reassertTarget (member : device ∈ table.devices) (logs : IsLoggingUnit device)
    {slot : Slot} (single : slot ≠ 0) (before : Reasserts snapshot device base progress) :
    Reasserts snapshot device base (snapshot.reassertTarget table.devices progress slot) := by
  rw [Snapshot.reassertTarget]
  split_ifs with wanted
  · exact before
  · split
    · exact before
    · next deviceId found =>
      split_ifs with started
      · exact before
      · refine before.reassert started ?_ ?_
        · rintro rfl
          exact table.resolve_ne_broadcast found
        · rintro rfl
          have own := (table.resolve_eq_some_iff member logs).mp found
          exact Or.inl ⟨slot, ⟨single, own, by simp_all⟩, not_not.mp wanted⟩

theorem Reasserts.reassertRestarted (member : device ∈ table.devices)
    (logs : IsLoggingUnit device) (peers : broadcastId ∉ snapshot.restarted) (deviceId : UInt8)
    (before : Reasserts snapshot device base progress) :
    Reasserts snapshot device base
      (snapshot.reassertRestarted table.devices progress deviceId) := by
  rw [Snapshot.reassertRestarted]
  split_ifs with skipped forAll
  · exact before
  all_goals
    simp only [not_or, not_not] at skipped
    have single : deviceId ≠ broadcastId := fun same => peers (same ▸ skipped.1)
  · refine before.reassert skipped.2 single fun same => ?_
    exact wants_start_of_not_stopped member logs forAll.1 (same ▸ forAll.2)
  · split
    · exact before
    · next slot found =>
      refine before.reassert skipped.2 single ?_
      rintro rfl
      have matched := List.find?_some found
      simp only [Bool.and_eq_true, decide_eq_true_eq] at matched
      have own := (table.resolve_eq_some_iff member logs).mp matched.2
      have inside := mem_unitSlots.mp (List.mem_of_find?_eq_some found)
      exact Or.inl ⟨slot, ⟨inside, own, by simp [matched.1]⟩, matched.1⟩

end Snapshot

/-! ### The requests as they were made -/

/-- A call of the control, with whole runs of `Process`. Restart reports name peers. -/
inductive ControlCall (ownUid : UInt32)
  | requestStart (targetUid : UInt32)
  | requestStop (targetUid : UInt32)
  | statusUpdated (isActive : Option Bool) (reason : Option LoggingStatusReason)
  | loggingUnitRestarted (deviceId : UInt8) (isPeer : deviceId ≠ broadcastId)
  | process (table : NetworkTable ownUid)

variable {ownUid : UInt32}

/-- What a call does to the control. -/
def RemoteLoggingControl.call (control : RemoteLoggingControl) :
    ControlCall ownUid → RemoteLoggingControl
  | .requestStart targetUid => control.requestStart targetUid
  | .requestStop targetUid => control.requestStop targetUid
  | .statusUpdated isActive reason => control.onStatusUpdated isActive reason
  | .loggingUnitRestarted deviceId _ => control.onLoggingUnitRestarted deviceId
  | .process table => (control.process table.devices).1

/-- The requests made so far: the last one for all units, the last one for each UID since,
and the UIDs addressed since. `isDue` holds for a unit some request addressed since the
last run. `isOvertaken` holds for a unit whose own stop was handled by a run before a
request was made for another UID. -/
structure RequestBook where
  forAll : Request := .none
  forUnit : UInt32 → Request := fun _ => .none
  addressed : Finset UInt32 := ∅
  isDue : UInt32 → Bool := fun _ => false
  isOvertaken : UInt32 → Bool := fun _ => false

namespace RequestBook

variable (book : RequestBook)

/-- A request is entered: one for all units replaces those for single units. -/
def enter (targetUid : UInt32) (request : Request) : RequestBook :=
  if targetUid = allUnits then { forAll := request, isDue := fun _ => true }
  else
    { book with
      forUnit := Function.update book.forUnit targetUid request
      addressed := insert targetUid book.addressed
      isDue := Function.update book.isDue targetUid true
      isOvertaken := fun uid => uid ≠ targetUid &&
        (book.isOvertaken uid || (book.forUnit uid = .stop && !book.isDue uid)) }

/-- What a call does to the book: requests are entered, and a run serves those that are due. -/
def record : ControlCall ownUid → RequestBook
  | .requestStart targetUid => book.enter targetUid .start
  | .requestStop targetUid => book.enter targetUid .stop
  | .statusUpdated _ _ | .loggingUnitRestarted _ _ => book
  | .process _ => { book with isDue := fun _ => false }

end RequestBook

/-! ### The slots follow the book -/

namespace RemoteLoggingControl

variable {control : RemoteLoggingControl} {uid : UInt32}

theorem findSlot_eq_some {slot : Slot} (found : control.findSlot uid = some slot) :
    slot ≠ 0 ∧ (Follows control.targets slot uid ∨
      (¬∃ other, Follows control.targets other uid) ∧ (control.targets slot).isFree = true) := by
  rcases Option.or_eq_some_iff.mp found with own | ⟨none, free⟩
  · have single := mem_unitSlots.mp (List.mem_of_find?_eq_some own)
    have matched := List.find?_some own
    simp only [Bool.and_eq_true, decide_eq_true_eq] at matched
    exact ⟨single, Or.inl ⟨single, matched⟩⟩
  · refine ⟨mem_unitSlots.mp (List.mem_of_find?_eq_some free), Or.inr ⟨?_, ?_⟩⟩
    · rintro ⟨other, single, follows⟩
      have unmatched := List.find?_eq_none.mp none other (mem_unitSlots.mpr single)
      simp [follows] at unmatched
    · have matched := List.find?_some free
      exact matched

theorem findSlot_eq_none (none : control.findSlot uid = none) {slot : Slot} (single : slot ≠ 0) :
    ¬Follows control.targets slot uid ∧ (control.targets slot).isFree = false := by
  obtain ⟨own, free⟩ := Option.or_eq_none_iff.mp none
  constructor
  · rintro ⟨-, follows⟩
    have unmatched := List.find?_eq_none.mp own slot (mem_unitSlots.mpr single)
    simp [follows] at unmatched
  · simpa using List.find?_eq_none.mp free slot (mem_unitSlots.mpr single)

end RemoteLoggingControl

/-- The slots follow the requests in the book. A unit's own slot is missing only when its
stop was overtaken, and is due as long as its request is. -/
structure Tracks (ownUid : UInt32) (control : RemoteLoggingControl) (book : RequestBook) :
    Prop where
  isInitialized : control.isInitialized = true
  networkInfo : control.networkInfo = some ownUid
  peers : broadcastId ∉ control.restartedDevices
  forAll : (control.targets 0).wanted = book.forAll
  forUnit : ∀ uid slot, Follows control.targets slot uid →
    (control.targets slot).wanted = book.forUnit uid
  not_own : ∀ uid slot, Follows control.targets slot uid → ¬control.isOwnUid uid = true
  unique : OneSlotPerUid control.targets
  remembered : ∀ uid, ¬control.isOwnUid uid = true → book.forUnit uid ≠ .none →
    book.isOvertaken uid = false → ∃ slot, Follows control.targets slot uid ∧
      (book.isDue uid = true → (control.targets slot).isSendDue = true)
  overtaken : ∀ uid, book.isOvertaken uid = true → book.isDue uid = false
  dueForAll : ∀ uid, book.isDue uid = true → book.forUnit uid = .none →
    (control.targets 0).isSendDue = true ∧ book.forAll ≠ .none
  addressed : ∀ uid, book.forUnit uid ≠ .none → uid ∈ book.addressed

namespace Tracks

variable {control : RemoteLoggingControl} {book : RequestBook}

theorem initial (mode : Mode) (ownUid : UInt32) :
    Tracks ownUid { mode, networkInfo := some ownUid } {} := by
  constructor <;> simp [Follows, OneSlotPerUid]

/-- A request for all units replaces every slot. -/
theorem submit_all (tracks : Tracks ownUid control book) {request : Request}
    (asked : request ≠ .none) :
    Tracks ownUid
      { control with
        targets := Function.update (fun _ => {}) 0 { wanted := request, isSendDue := true } }
      (book.enter allUnits request) := by
  have none (slot : Slot) (uid : UInt32) : ¬Follows
      (Function.update (fun _ => {}) 0 { wanted := request, isSendDue := true }) slot uid := by
    rintro ⟨single, -, wanted⟩
    simp [Function.update_of_ne single] at wanted
  constructor <;> simp_all [RequestBook.enter, OneSlotPerUid, tracks.isInitialized,
    tracks.networkInfo, tracks.peers]

theorem overtaken_enter (tracks : Tracks ownUid control book) {targetUid : UInt32}
    {request : Request} (single : targetUid ≠ allUnits) (uid : UInt32)
    (isOvertaken : (book.enter targetUid request).isOvertaken uid = true) :
    (book.enter targetUid request).isDue uid = false := by
  simp only [RequestBook.enter, single, if_false, Bool.and_eq_true, decide_eq_true_eq,
    Bool.or_eq_true] at isOvertaken ⊢
  rw [Function.update_of_ne isOvertaken.1]
  rcases isOvertaken.2 with already | ⟨-, handled⟩
  · exact tracks.overtaken uid already
  · simpa using handled

theorem addressed_enter (tracks : Tracks ownUid control book) {targetUid : UInt32}
    {request : Request} (single : targetUid ≠ allUnits) (uid : UInt32)
    (wanted : (book.enter targetUid request).forUnit uid ≠ .none) :
    uid ∈ (book.enter targetUid request).addressed := by
  simp only [RequestBook.enter, single, if_false] at wanted ⊢
  by_cases same : uid = targetUid
  · simp [same]
  · rw [Function.update_of_ne same] at wanted
    exact Finset.mem_insert_of_mem (tracks.addressed uid wanted)

/-- A request for one UID takes the slot that follows it, or a free one. -/
theorem submit_slot (tracks : Tracks ownUid control book) {targetUid : UInt32} {request : Request}
    (asked : request ≠ .none) (single : targetUid ≠ allUnits)
    (notOwn : ¬control.isOwnUid targetUid = true) {slot : Slot}
    (found : control.findSlot targetUid = some slot) :
    Tracks ownUid
      { control with
        targets := Function.update control.targets slot
          { uid := targetUid, wanted := request, isSendDue := true } }
      (book.enter targetUid request) := by
  obtain ⟨isUnit, ownOrFree⟩ := RemoteLoggingControl.findSlot_eq_some found
  -- No slot but the one taken follows the UID, before or after.
  have elsewhere : ∀ other, other ≠ slot → ¬Follows control.targets other targetUid := by
    intro other apart follows
    rcases ownOrFree with own | ⟨none, -⟩
    · exact apart (tracks.unique _ _ _ follows own)
    · exact none ⟨other, follows⟩
  let targets := Function.update control.targets slot
    { uid := targetUid, wanted := request, isSendDue := true }
  have taken : Follows targets slot targetUid := ⟨isUnit, by simp [targets, asked]⟩
  have kept {other : Slot} (apart : other ≠ slot) (uid : UInt32) :
      Follows targets other uid ↔ Follows control.targets other uid := by
    simp [Follows, targets, Function.update_of_ne apart]
  have follows_cases : ∀ other uid, Follows targets other uid →
      other = slot ∧ uid = targetUid ∨
        other ≠ slot ∧ uid ≠ targetUid ∧ Follows control.targets other uid := by
    intro other uid follows
    by_cases apart : other = slot
    · subst apart
      exact Or.inl ⟨rfl, by simpa [targets] using follows.2.1.symm⟩
    · have before := (kept apart uid).mp follows
      refine Or.inr ⟨apart, ?_, before⟩
      rintro rfl
      exact elsewhere other apart before
  have first : targets 0 = control.targets 0 := Function.update_of_ne isUnit.symm _ _
  refine ⟨tracks.isInitialized, tracks.networkInfo, tracks.peers, ?_, ?_, ?_, ?_, ?_,
    overtaken_enter tracks single, ?_, addressed_enter tracks single⟩
  all_goals simp only [RequestBook.enter, single, if_false]
  · exact (congrArg Target.wanted first).trans tracks.forAll
  · intro uid other follows
    rcases follows_cases other uid follows with ⟨rfl, rfl⟩ | ⟨apart, different, before⟩
    · simp
    · simp only [Function.update_of_ne apart, Function.update_of_ne different]
      exact tracks.forUnit uid other before
  · intro uid other follows
    rcases follows_cases other uid follows with ⟨rfl, rfl⟩ | ⟨-, -, before⟩
    · exact notOwn
    · exact tracks.not_own uid other before
  · intro uid one two followsOne followsTwo
    rcases follows_cases one uid followsOne with ⟨rfl, rfl⟩ | ⟨-, different, before⟩
    · rcases follows_cases two uid followsTwo with ⟨rfl, -⟩ | ⟨-, different, -⟩
      · rfl
      · exact absurd rfl different
    · rcases follows_cases two uid followsTwo with ⟨-, rfl⟩ | ⟨-, -, also⟩
      · exact absurd rfl different
      · exact tracks.unique uid one two before also
  · intro uid foreign wanted standing
    by_cases same : uid = targetUid
    · subst same
      exact ⟨slot, taken, by simp⟩
    · simp only [Function.update_of_ne same] at wanted ⊢
      simp only [same, not_false_eq_true, decide_true, Bool.true_and, Bool.or_eq_false_iff,
        ne_eq] at standing
      obtain ⟨other, before, due⟩ := tracks.remembered uid foreign wanted standing.1
      -- The unit's slot was not the one taken: it is neither this UID's nor free.
      have apart : other ≠ slot := by
        rintro rfl
        rcases ownOrFree with own | ⟨-, free⟩
        · exact same (before.2.1.symm.trans own.2.1)
        · have notNone := before.2.2
          have sameWanted := tracks.forUnit uid other before
          simp only [Target.isFree, Bool.or_eq_true, Bool.and_eq_true, decide_eq_true_eq,
            notNone, false_or] at free
          have handled : book.isDue uid = false := by
            cases pending : book.isDue uid with
            | false => rfl
            | true => simp [due pending] at free
          simp [← sameWanted, free.1, handled] at standing
      refine ⟨other, (kept apart uid).mpr before, ?_⟩
      simpa only [Function.update_of_ne apart] using due
  · intro uid due none
    by_cases same : uid = targetUid
    · subst same
      simp [asked] at none
    · simp only [Function.update_of_ne same] at due none
      rw [Function.update_of_ne isUnit.symm]
      exact tracks.dueForAll uid due none

/-- A request for this unit itself is dropped. -/
theorem submit_own (tracks : Tracks ownUid control book) {targetUid : UInt32} {request : Request}
    (asked : request ≠ .none) (single : targetUid ≠ allUnits)
    (own : control.isOwnUid targetUid = true) :
    Tracks ownUid control (book.enter targetUid request) := by
  have foreign {uid : UInt32} (other : ¬control.isOwnUid uid = true) : uid ≠ targetUid := by
    rintro rfl
    exact other own
  refine ⟨tracks.isInitialized, tracks.networkInfo, tracks.peers, ?_, ?_, tracks.not_own,
    tracks.unique, ?_, overtaken_enter tracks single, ?_, addressed_enter tracks single⟩
  all_goals simp only [RequestBook.enter, single, if_false]
  · exact tracks.forAll
  · intro uid slot follows
    rw [Function.update_of_ne (foreign (tracks.not_own uid slot follows))]
    exact tracks.forUnit uid slot follows
  · intro uid other wanted standing
    have different := foreign other
    simp only [Function.update_of_ne different] at wanted ⊢
    simp only [different, ne_eq, not_false_eq_true, decide_true, Bool.true_and,
      Bool.or_eq_false_iff] at standing
    exact tracks.remembered uid other wanted standing.1
  · intro uid due none
    by_cases same : uid = targetUid
    · simp [same, asked] at none
    · simp only [Function.update_of_ne same] at due none
      exact tracks.dueForAll uid due none

/-- While at most one UID per unit slot is addressed, a request finds a slot. -/
theorem exists_slot (tracks : Tracks ownUid control book) {targetUid : UInt32}
    (room : (insert targetUid book.addressed).card ≤ maxTargets - 1) :
    ∃ slot, control.findSlot targetUid = some slot := by
  rw [← Option.isSome_iff_exists]
  by_contra full
  have none : control.findSlot targetUid = none := by simpa using full
  let uids := unitSlots.toFinset.image fun slot => (control.targets slot).uid
  have inUse : ∀ slot, slot ≠ 0 → Follows control.targets slot (control.targets slot).uid := by
    intro slot single
    refine ⟨single, rfl, fun idle => ?_⟩
    have busy := (RemoteLoggingControl.findSlot_eq_none none single).2
    simp [Target.isFree, idle] at busy
  have all : uids.card = maxTargets - 1 := by
    rw [Finset.card_image_of_injOn, List.toFinset_card_of_nodup nodup_unitSlots]
    · rfl
    · intro one inside two also same
      have one' := inUse one (by simpa using inside)
      have two' := inUse two (by simpa using also)
      rw [show (control.targets one).uid = (control.targets two).uid from same] at one'
      exact tracks.unique _ _ _ one' two'
  have new : targetUid ∉ uids := by
    intro inside
    obtain ⟨slot, member, same⟩ := Finset.mem_image.mp inside
    have single : slot ≠ 0 := by simpa using member
    refine (RemoteLoggingControl.findSlot_eq_none none single).1 ?_
    rw [← same]
    exact inUse slot single
  have addressed : insert targetUid uids ⊆ insert targetUid book.addressed := by
    refine Finset.insert_subset_insert _ fun uid inside => ?_
    obtain ⟨slot, member, rfl⟩ := Finset.mem_image.mp inside
    have follows := inUse slot (by simpa using member)
    refine tracks.addressed _ ?_
    rw [← tracks.forUnit _ _ follows]
    exact follows.2.2
  have tooMany := Finset.card_le_card addressed
  rw [Finset.card_insert_of_notMem new, all] at tooMany
  omega

theorem submit (tracks : Tracks ownUid control book) (targetUid : UInt32) {request : Request}
    (asked : request ≠ .none)
    (room : (book.enter targetUid request).addressed.card ≤ maxTargets - 1) :
    Tracks ownUid (control.submit targetUid request) (book.enter targetUid request) := by
  rcases control.submit_cases targetUid request with
    ⟨same, cold | ⟨single, own | none⟩⟩ | ⟨rfl, replaced⟩ | ⟨single, notOwn, slot, found, placed⟩
  · exact absurd tracks.isInitialized (by simp [cold])
  · rw [same]
    exact tracks.submit_own asked single own
  · obtain ⟨slot, found⟩ := tracks.exists_slot (by simpa [RequestBook.enter, single] using room)
    exact absurd found (by simp [none])
  · rw [replaced]
    exact tracks.submit_all asked
  · rw [placed]
    exact tracks.submit_slot asked single notOwn found

theorem targets_process (control : RemoteLoggingControl) (devices : List CdmpDeviceInfo)
    (slot : Slot) :
    ((control.process devices).1.targets slot).uid = (control.targets slot).uid ∧
      ((control.process devices).1.targets slot).wanted = (control.targets slot).wanted := by
  simp only [RemoteLoggingControl.process, RemoteLoggingControl.writeBack,
    RemoteLoggingControl.takeSnapshot]
  split_ifs <;> exact ⟨rfl, rfl⟩

/-- A run of `Process` handles what was due and changes no target. -/
theorem process (tracks : Tracks ownUid control book) (devices : List CdmpDeviceInfo) :
    Tracks ownUid (control.process devices).1 { book with isDue := fun _ => false } := by
  have same (slot : Slot) (uid : UInt32) :
      Follows (control.process devices).1.targets slot uid ↔ Follows control.targets slot uid := by
    rw [Follows, (targets_process control devices slot).1, (targets_process control devices slot).2]
    rfl
  constructor
  case isInitialized => exact tracks.isInitialized
  case networkInfo => exact tracks.networkInfo
  case peers => exact Finset.notMem_empty _
  case forAll => exact (targets_process control devices 0).2.trans tracks.forAll
  case forUnit =>
    intro uid slot follows
    rw [(targets_process control devices slot).2]
    exact tracks.forUnit uid slot ((same slot uid).mp follows)
  case not_own => exact fun uid slot follows => tracks.not_own uid slot ((same slot uid).mp follows)
  case unique =>
    intro uid first second followsFirst followsSecond
    exact tracks.unique uid first second ((same first uid).mp followsFirst)
      ((same second uid).mp followsSecond)
  case remembered =>
    intro uid foreign wanted standing
    obtain ⟨slot, follows, -⟩ := tracks.remembered uid foreign wanted standing
    exact ⟨slot, (same slot uid).mpr follows, fun due => nomatch due⟩
  case overtaken => exact fun _ _ => rfl
  case dueForAll => exact fun _ due => nomatch due
  case addressed => exact tracks.addressed

/-- Every call keeps the slots on the book, as long as there is a slot for each UID
addressed. -/
theorem call (tracks : Tracks ownUid control book) (call : ControlCall ownUid)
    (room : (book.record call).addressed.card ≤ maxTargets - 1) :
    Tracks ownUid (control.call call) (book.record call) := by
  cases call with
  | requestStart targetUid => exact tracks.submit targetUid (by simp) room
  | requestStop targetUid => exact tracks.submit targetUid (by simp) room
  | statusUpdated isActive reason =>
    cases isActive with
    | none => exact tracks
    | some isActive => exact { tracks with }
  | loggingUnitRestarted deviceId isPeer =>
    refine { tracks with peers := ?_ }
    simp [RemoteLoggingControl.call, RemoteLoggingControl.onLoggingUnitRestarted, isPeer.symm,
      tracks.peers]
  | process table => exact tracks.process table.devices

end Tracks

/-! ### The last request wins -/

end RtCore.Logging
