import RtCore.Cdmp.Sessions
import RtCore.Cdmp.StateTables

/-!
# Device events and the copies of a device's records

The state service holds copies for the devices in the network service's table and is told
about the table by events only. Within a session the events tell it everything: replayed
from the empty table they give the table, so a copy always belongs to a device that is
there. The stop that ends a session empties the table without events; the change of the
unit's own status drops the copies then.

## Main definitions

* `TableMove` — what an event says about the table
* `Alternates` — JOINED, then any number of RESTARTED, then LEFT, and again
* `UnitHistory` — a unit and the events since its network service started
* `TellsOfTable` — the events of a step are what it does to the table
* `CopiesFollowTable` — the copies, the table and the events agree

## Main results

* `copiesFollowTable_of_run` — they agree in every state of every run
-/

namespace RtCore.Cdmp

open RtCore.Foundation

/-! ### Events and the table -/

/-- What an event says about the table: an insertion, nothing, a removal. -/
inductive TableMove : List (UInt8 × UInt32) → CdmpDeviceEvent × UInt8 → List (UInt8 × UInt32) → Prop
  | joined {entries : List (UInt8 × UInt32)} {deviceId : UInt8} (uid : UInt32)
      (absent : deviceId ∉ entries.map (·.1)) :
      TableMove entries (.joined, deviceId) (entries ++ [(deviceId, uid)])
  | restarted {entries : List (UInt8 × UInt32)} {deviceId : UInt8}
      (listed : deviceId ∈ entries.map (·.1)) : TableMove entries (.restarted, deviceId) entries
  | left {entries : List (UInt8 × UInt32)} {deviceId : UInt8}
      (listed : deviceId ∈ entries.map (·.1)) :
      TableMove entries (.left, deviceId) (entries.filter (·.1 ≠ deviceId))

/-- The devices that restarted, as the events tell it. -/
def restartsIn (events : List (CdmpDeviceEvent × UInt8)) : List UInt8 :=
  (events.filter (·.1 = .restarted)).map (·.2)

theorem restartsIn_append (first second : List (CdmpDeviceEvent × UInt8)) :
    restartsIn (first ++ second) = restartsIn first ++ restartsIn second := by
  rw [restartsIn, List.filter_append, List.map_append]
  rfl

/-- The events about one device. -/
def eventsOf (deviceId : UInt8) (events : List (CdmpDeviceEvent × UInt8)) : List CdmpDeviceEvent :=
  (events.filter (·.2 = deviceId)).map (·.1)

/-- JOINED, RESTARTED any number of times, LEFT, and again from the start: a device joins first
and after it left, and only then. -/
def Alternates (events : List CdmpDeviceEvent) : Prop :=
  (CdmpDeviceEvent.left :: events).IsChain fun previous next => next = .joined ↔ previous = .left

variable {entries after : List (UInt8 × UInt32)} {events : List (CdmpDeviceEvent × UInt8)}
  {deviceId : UInt8}

theorem TableMove.mem_iff {event : CdmpDeviceEvent × UInt8} (move : TableMove entries event after) :
    deviceId ∈ after.map (·.1) ↔
      if event.2 = deviceId then event.1 ≠ .left else deviceId ∈ entries.map (·.1) := by
  cases move with
  | @joined other uid absent =>
    by_cases own : other = deviceId
    · simp [own]
    · simp [own, Ne.symm own]
  | @restarted other listed =>
    by_cases own : other = deviceId
    · subst own
      simpa using listed
    · simp [own]
  | @left other listed =>
    by_cases own : other = deviceId
    · simp [own]
    · simp [own, Ne.symm own]

/-- The event that may come next about a device, by whether the table lists it. -/
theorem TableMove.joined_iff {event : CdmpDeviceEvent × UInt8}
    (move : TableMove entries event after) :
    event.1 = .joined ↔ event.2 ∉ entries.map (·.1) := by
  cases move with
  | joined uid absent => simpa using absent
  | restarted listed => simpa using listed
  | left listed => simpa using listed

/-- The events about a device alternate, and the last one says whether the table lists it. -/
theorem alternates_of_path (deviceId : UInt8) (path : Path TableMove entries events after)
    (previous : CdmpDeviceEvent)
    (listed : deviceId ∈ entries.map (·.1) ↔ previous ≠ .left) :
    ((previous :: eventsOf deviceId events).IsChain fun previous next =>
        next = .joined ↔ previous = .left) ∧
      (deviceId ∈ after.map (·.1) ↔
        (previous :: eventsOf deviceId events).getLast? ≠ some .left) := by
  induction path generalizing previous with
  | nil => exact ⟨.singleton _, by simpa [eventsOf] using listed⟩
  | @cons _ _ _ event events move _ ih =>
    by_cases own : event.2 = deviceId
    · -- The event becomes the previous one of the rest.
      obtain ⟨chain, last⟩ := ih event.1 (by rw [move.mem_iff, if_pos own])
      have head : eventsOf deviceId (event :: events) = event.1 :: eventsOf deviceId events := by
        simp [eventsOf, own]
      rw [head]
      refine ⟨.cons_cons ?_ chain, by rwa [List.getLast?_cons_cons]⟩
      rw [move.joined_iff, own, listed, not_not]
    · have skip : eventsOf deviceId (event :: events) = eventsOf deviceId events := by
        simp [eventsOf, own]
      rw [skip]
      exact ih previous (by rw [move.mem_iff, if_neg own, listed])

theorem mem_of_path (path : Path TableMove entries events after)
    (listed : deviceId ∈ entries.map (·.1)) (stays : (.left, deviceId) ∉ events) :
    deviceId ∈ after.map (·.1) := by
  induction path with
  | nil => exact listed
  | @cons _ _ _ event events move _ ih =>
    refine ih (move.mem_iff.mpr ?_) fun later => stays (List.mem_cons_of_mem _ later)
    -- An event about the device itself is not its LEFT.
    split_ifs with own
    · rintro left
      exact stays (by simp [← own, ← left])
    · exact listed

namespace CdmpNetworkService

variable {service middle : CdmpNetworkService}

/-! ### Every change of the table is told -/

/-- The events among the effects take the table from one list of entries to the other, with these
restarts on the way. -/
structure Moves (entries : List (UInt8 × UInt32)) (effects : List NetworkEffect)
    (restarts : List UInt8) (after : List (UInt8 × UInt32)) : Prop where
  path : Path TableMove entries (deviceEvents effects) after
  restarts : restartsIn (deviceEvents effects) = restarts

theorem deviceEvents_append (first second : List NetworkEffect) :
    deviceEvents (first ++ second) = deviceEvents first ++ deviceEvents second :=
  List.filterMap_append

theorem Moves.silent {entries : List (UInt8 × UInt32)} {effects : List NetworkEffect}
    (silent : deviceEvents effects = []) : Moves entries effects [] entries :=
  ⟨by rw [silent]; exact .nil, by rw [silent]; rfl⟩

theorem Moves.append {entries next after : List (UInt8 × UInt32)}
    {first second : List NetworkEffect} {restarts later : List UInt8}
    (moves : Moves entries first restarts next) (rest : Moves next second later after) :
    Moves entries (first ++ second) (restarts ++ later) after :=
  ⟨by rw [deviceEvents_append]; exact moves.path.append rest.path,
    by rw [deviceEvents_append, restartsIn_append, moves.restarts, rest.restarts]⟩

/-- The events of the step are the moves of the table, or the service stops and tells nothing. -/
def Tracks (service : CdmpNetworkService) (restarts : List UInt8)
    (result : CdmpNetworkService × List NetworkEffect) : Prop :=
  (result.1.isRunning = service.isRunning ∧
    Moves service.entries result.2 restarts result.1.entries) ∨
  (service.isRunning = true ∧ result.1.isRunning = false ∧ deviceEvents result.2 = [] ∧
    restarts = [])

theorem KeepsOrStops.tracks {result : CdmpNetworkService × List NetworkEffect}
    (keeps : KeepsOrStops service result) : Tracks service [] result := by
  obtain ⟨silent, ⟨running, same⟩ | ⟨running, stopped, -⟩⟩ := keeps
  · refine Or.inl ⟨running, ?_⟩
    rw [same]
    exact .silent silent
  · exact Or.inr ⟨running, stopped, silent, rfl⟩

theorem tracks_of_moves {restarts : List UInt8} {result : CdmpNetworkService × List NetworkEffect}
    (update : TableUpdate service result.1)
    (moves : Moves service.entries result.2 restarts result.1.entries) :
    Tracks service restarts result := by
  obtain ⟨_, _, _, _, _, same⟩ := update
  exact Or.inl ⟨by rw [same]; rfl, moves⟩

theorem mem_entries_iff {deviceId : UInt8} :
    deviceId ∈ service.entries.map (·.1) ↔ service.networkDevices.contains deviceId = true := by
  rw [CdmpDeviceTable.contains_iff]
  simp [entries]

theorem mem_entries_of_find? {deviceId : UInt8} {device : CdmpDevice}
    (found : service.networkDevices.find? deviceId = some device) :
    (toDeviceInfo device).deviceId = deviceId ∧ deviceId ∈ service.entries.map (·.1) := by
  refine ⟨(CdmpDeviceTable.find?_eq_some found).2, ?_⟩
  rw [mem_entries_iff, CdmpDeviceTable.contains_iff_find?]
  exact ⟨device, found⟩

/-- The event of a removal. -/
theorem moves_left {deviceId : UInt8} {device : CdmpDevice} {effects : List NetworkEffect}
    (found : service.networkDevices.find? deviceId = some device)
    (told : effects = [.deviceEvent .left (toDeviceInfo device)]) :
    Moves service.entries effects [] (service.entries.filter (·.1 ≠ deviceId)) := by
  obtain ⟨own, listed⟩ := mem_entries_of_find? found
  have events : deviceEvents effects = [(.left, deviceId)] := by
    rw [told, ← own]
    rfl
  exact ⟨by rw [events]; exact .single (.left listed), by rw [events]; rfl⟩

/-- The event of an insertion. -/
theorem moves_joined {deviceId : UInt8} {uid : UInt32} {info : CdmpDeviceInfo}
    {effects : List NetworkEffect} (own : info.deviceId = deviceId)
    (absent : service.networkDevices.contains deviceId = false)
    (events : deviceEvents effects = [(.joined, info.deviceId)]) :
    Moves service.entries effects [] (service.entries ++ [(deviceId, uid)]) := by
  have unlisted : deviceId ∉ service.entries.map (·.1) := by
    rw [mem_entries_iff, absent]
    simp
  rw [own] at events
  exact ⟨by rw [events]; exact .single (.joined uid unlisted), by rw [events]; rfl⟩

theorem moves_removeDevice (service : CdmpNetworkService) (deviceId : UInt8) :
    Moves service.entries (service.removeDevice deviceId).2 []
      (service.removeDevice deviceId).1.entries := by
  cases found : service.networkDevices.find? deviceId with
  | none =>
    simp only [removeDevice, found]
    exact .silent rfl
  | some device =>
    rw [entries_removeDevice]
    exact moves_left found (removeDevice_of_find? service found)

theorem moves_removeDevices (service : CdmpNetworkService) (deviceIds : List UInt8) :
    Moves service.entries (service.removeDevices deviceIds).2 []
      (service.removeDevices deviceIds).1.entries := by
  induction deviceIds generalizing service with
  | nil => exact .silent rfl
  | cons deviceId deviceIds ih => exact (service.moves_removeDevice deviceId).append (ih _)

/-- The device that work of the service finds restarted. -/
def restartsBy (service : CdmpNetworkService) (work : NetworkWork) (now : ℕ) : List UInt8 :=
  match work with
  | .processMessage (.idClaim claim) =>
    if service.IsRestart claim now then [claim.claimingDeviceId] else []
  | _ => []

theorem tracks_recordIdClaim (service : CdmpNetworkService) (claim : CdmpIdClaimRequestMessage)
    (now : ℕ) :
    Tracks service (service.restartsBy (.processMessage (.idClaim claim)) now)
      (service.recordIdClaim claim now) := by
  obtain ⟨update, moved⟩ := service.recordIdClaim_cases claim now
  refine tracks_of_moves update ?_
  -- Nothing happened, the device restarted, or the claimant gave up its previous ID.
  obtain ⟨other, told, same⟩ | ⟨device, restart, found, told, same⟩ |
    ⟨previous, device, other, found, told, same⟩ := moved
  · rw [restartsBy, if_neg other, told, same]
    exact .silent rfl
  · obtain ⟨own, listed⟩ := mem_entries_of_find? found
    rw [restartsBy, if_pos restart, told, same, ← own]
    exact ⟨.single (.restarted (own.symm ▸ listed)), rfl⟩
  · rw [restartsBy, if_neg other, same]
    exact moves_left found told

theorem tracks_updateDeviceFromDiscovery (service : CdmpNetworkService)
    (discovery : CdmpDiscoveryResponseMessage) (now : ℕ) :
    Tracks service [] (service.updateDeviceFromDiscovery discovery now) := by
  have left : TableUpdate service (service.removePreviousDevice discovery).1 ∧
      Moves service.entries (service.removePreviousDevice discovery).2 []
        (service.removePreviousDevice discovery).1.entries := by
    obtain ⟨update, ⟨told, same, -⟩ | ⟨previous, device, -, found, -, told, same⟩⟩ :=
      service.removePreviousDevice_cases discovery
    · refine ⟨update, ?_⟩
      rw [told, same]
      exact .silent rfl
    · refine ⟨update, ?_⟩
      rw [same]
      exact moves_left found told
  -- The response is ignored, marks a known device alive, or adds one.
  obtain same | ⟨update, ⟨told, same⟩ | ⟨info, own, absent, told, same⟩⟩ :=
    service.updateDeviceFromDiscovery_cases discovery now
  · rw [same]
    exact Or.inl ⟨rfl, .silent rfl⟩
  · refine tracks_of_moves (left.1.trans update) ?_
    rw [told, same]
    exact left.2
  · refine tracks_of_moves (left.1.trans update) ?_
    rw [told, same]
    refine left.2.append (moves_joined own ?_ rfl)
    rw [contains_removePreviousDevice, absent]

theorem tracks_updateDeviceFromHeartbeat (service : CdmpNetworkService)
    (heartbeat : CdmpHeartbeatMessage) (now : ℕ) :
    Tracks service [] (service.updateDeviceFromHeartbeat heartbeat now) := by
  obtain ⟨update, moved⟩ := service.updateDeviceFromHeartbeat_cases heartbeat now
  refine tracks_of_moves update ?_
  obtain ⟨same, told, -⟩ | ⟨-, absent, claim, -, info, own, told, same⟩ := moved
  · rw [same]
    refine .silent ?_
    rcases told with frames | ⟨told, -⟩
    · refine List.filterMap_eq_nil_iff.mpr fun effect member => ?_
      obtain ⟨frame, rfl⟩ := frames effect member
      rfl
    · rw [told]
      rfl
  · rw [told, same]
    exact moves_joined own absent rfl

theorem Tracks.congr {restarts : List UInt8} {result : CdmpNetworkService × List NetworkEffect}
    (tracks : Tracks middle restarts result) (running : middle.isRunning = service.isRunning)
    (entries : middle.entries = service.entries) : Tracks service restarts result := by
  rw [Tracks, ← running, ← entries]
  exact tracks

theorem tracks_processMessage (service : CdmpNetworkService) (message : CdmpManagementMessage)
    (now : ℕ) :
    Tracks service (service.restartsBy (.processMessage message) now)
      (service.processMessage message now) := by
  cases message with
  | discoveryRequest message => exact (keepsOrStops_of_silent rfl rfl rfl).tracks
  | discoveryResponse message =>
    simp only [processMessage, processDiscoveryResponse]
    split
    · exact (keepsOrStops_transition _ _).tracks.congr rfl rfl
    · exact (tracks_updateDeviceFromDiscovery ..).congr rfl rfl
  | idClaim claim =>
    have tracks := service.tracks_recordIdClaim claim now
    simp only [processMessage, processIdClaimRequest]
    split
    · exact tracks
    split
    · exact tracks
    -- The answer to the claim is a frame and adds no event.
    · have told (effects : List NetworkEffect) (frame : List UInt8) :
          deviceEvents (effects ++ [.sendFrame frame]) = deviceEvents effects := by
        rw [deviceEvents_append]
        exact List.append_nil _
      rcases tracks with ⟨running, path, restarts⟩ | ⟨running, stopped, silent, none⟩
      · exact Or.inl ⟨running, by rw [told]; exact path, by rw [told]; exact restarts⟩
      · exact Or.inr ⟨running, stopped, by rw [told]; exact silent, none⟩
  | idClaimResponse response =>
    simp only [processMessage, processIdClaimResponse]
    split_ifs <;> exact (keepsOrStops_of_silent rfl rfl rfl).tracks

theorem tracks_runWork (service : CdmpNetworkService) (work : NetworkWork) (now : ℕ) :
    Tracks service (service.restartsBy work now) (service.runWork work now) := by
  cases work with
  | processMessage message => exact service.tracks_processMessage message now
  | startInitialization => exact (keepsOrStops_of_silent rfl rfl rfl).tracks
  | startIdClaim => exact (keepsOrStops_of_silent rfl rfl rfl).tracks
  | sendDiscoveryResponse =>
    refine (keepsOrStops_of_silent rfl rfl ?_).tracks
    simp only [runWork, sendDiscoveryResponse]
    split_ifs
    · exact deviceEvents_sendFrame ..
    · rfl
  | enterVersionMismatch => exact (keepsOrStops_transition _ _).tracks
  | enterError => exact (keepsOrStops_transition _ _).tracks

theorem tracks_task (service : CdmpNetworkService) {label : NetworkLabel}
    (task : isTask label = true) : Tracks service [] (service.step label) := by
  have still : Tracks service [] (service, []) := Or.inl ⟨rfl, .silent rfl⟩
  cases label with
  | discoveryTask =>
    simp only [step]
    split
    · exact service.keepsOrStops_runDiscoveryAttempt.tracks
    · exact still
  | idClaimTask now =>
    simp only [step]
    split
    · exact (service.keepsOrStops_runIdClaimAttempt now).tracks
    · exact still
  | validationTask now =>
    simp only [step, processPeriodicValidation]
    split
    · refine tracks_of_moves ((service.removeDevices_spec _).1.trans ⟨_, _, _, _, _, rfl⟩) ?_
      simp only [processPeriodicTasks, entries_updateNetworkDevices]
      exact service.moves_removeDevices _
    · exact still
  | _ => cases task

end CdmpNetworkService

namespace CdmpStateService

/-! ### What the state service makes of it -/

variable {service before middle after : CdmpStateService}

/-- Every copy is of a source that had copies before. -/
def CopiesFrom (before after : CdmpStateService) : Prop :=
  ∀ record ∈ after.remoteRecords, ∃ original ∈ before.remoteRecords,
    original.source = record.source

theorem CopiesFrom.refl (service : CdmpStateService) : CopiesFrom service service :=
  fun record member => ⟨record, member, rfl⟩

theorem CopiesFrom.trans (first : CopiesFrom before middle) (second : CopiesFrom middle after) :
    CopiesFrom before after := by
  intro record member
  obtain ⟨next, isNext, same⟩ := second record member
  obtain ⟨original, isOriginal, own⟩ := first next isNext
  exact ⟨original, isOriginal, own.trans same⟩

theorem copiesFrom_removeRemoteRecords (service : CdmpStateService)
    (predicate : RemoteRecord → Bool) :
    CopiesFrom service (service.removeRemoteRecords predicate) := by
  intro record member
  rw [remoteRecords_removeRemoteRecords] at member
  exact ⟨record, (List.mem_filter.mp member).1, rfl⟩

theorem copiesFrom_mapSourceRecords (service : CdmpStateService) (source : UInt8)
    {f : RemoteRecord → RemoteRecord} (keeps : ∀ record, (f record).source = record.source) :
    CopiesFrom service (service.mapSourceRecords source f) := by
  intro record member
  simp only [mapSourceRecords, List.mem_append, List.mem_map] at member
  rcases member with (front | ⟨original, range, rfl⟩) | back
  · exact ⟨record, List.mem_of_mem_take front, rfl⟩
  · exact ⟨original, List.mem_of_mem_take (List.mem_of_mem_drop range), (keeps original).symm⟩
  · exact ⟨record, List.mem_of_mem_drop back, rfl⟩

theorem copiesFrom_onHeartbeat (parameters : CdmpStateParameters) (service : CdmpStateService)
    (device : CdmpDevice) (heartbeat : CdmpHeartbeatMessage) (now : UInt32) :
    CopiesFrom service (service.onHeartbeat parameters device heartbeat now).1 := by
  unfold onHeartbeat
  dsimp only
  split_ifs
  · exact .refl service
  · exact service.copiesFrom_mapSourceRecords _ fun _ => rfl
  · exact service.copiesFrom_removeRemoteRecords _
  -- Out of sync: the copies become stale, and a request may follow.
  · have mapped := service.copiesFrom_mapSourceRecords heartbeat.deviceId
      (f := ({ · with isStale := true })) fun _ => rfl
    refine mapped.trans ?_
    unfold startSyncRequest
    split
    · exact .refl _
    · dsimp only
      split_ifs <;> exact .refl _

theorem remoteRecords_forgetNetwork (parameters : CdmpStateParameters)
    (service : CdmpStateService) : (service.forgetNetwork parameters).remoteRecords = [] := by
  have removed := remoteRecords_removeRemoteRecords service fun _ => true
  simpa [forgetNetwork] using removed

theorem copiesFrom_onDeviceStatusChanged (parameters : CdmpStateParameters)
    (service : CdmpStateService) (change : CdmpStatusChange) :
    CopiesFrom service (service.onDeviceStatusChanged parameters change) := by
  unfold onDeviceStatusChanged
  split_ifs
  · exact .refl service
  · intro record member
    rw [remoteRecords_forgetNetwork] at member
    cases member
  · exact .refl service

theorem copiesFrom_onDeviceEvent (service : CdmpStateService) (event : CdmpDeviceEvent)
    (device : CdmpDeviceInfo) : CopiesFrom service (service.onDeviceEvent event device) := by
  cases event with
  | joined => exact .refl service
  | restarted => exact service.copiesFrom_mapSourceRecords _ fun _ => rfl
  | left =>
    intro record member
    rw [onDeviceEvent, remoteRecords_dropSource] at member
    exact ⟨record, (List.mem_filter.mp member).1, rfl⟩

theorem mem_applyRecord {parameters : CdmpStateParameters} {message : CdmpStateChangeMessage}
    {now : UInt32} {record : RemoteRecord}
    (member : record ∈ (service.applyRecord parameters message now).remoteRecords) :
    record.source = message.sourceDeviceId ∨
      ∃ original ∈ service.remoteRecords, original.source = record.source := by
  have kept (still : record ∈ service.remoteRecords) :
      record.source = message.sourceDeviceId ∨
        ∃ original ∈ service.remoteRecords, original.source = record.source :=
    Or.inr ⟨record, still, rfl⟩
  unfold applyRecord at member
  dsimp only at member
  split at member
  · rename_i index found isFound
    -- An old version, a withdrawal, or a write in place under the same key.
    split_ifs at member
    · exact kept member
    · exact Or.inr (service.copiesFrom_removeRemoteRecords _ record member)
    all_goals
      rcases List.mem_or_eq_of_mem_set member with still | replaced
      · exact kept still
      · have own := (Prod.mk.inj isFound).2
        rw [Option.filter_eq_some_iff] at own
        rw [replaced]
        exact Or.inl (of_decide_eq_true own.2).1
  · split_ifs at member
    · exact kept member
    · unfold markOverflowed at member
      split at member <;> exact kept member
    · rcases mem_insertAt.mp member with rfl | still
      · exact Or.inl rfl
      · exact kept still

theorem remoteRecords_clearLocalState (parameters : CdmpStateParameters)
    (service : CdmpStateService) (stateType : UInt8) :
    (service.clearLocalState parameters stateType).remoteRecords = service.remoteRecords := by
  unfold clearLocalState
  split
  · rfl
  split
  · rfl
  split
  · rfl
  · rfl

theorem remoteRecords_setLocalState (parameters : CdmpStateParameters) (service : CdmpStateService)
    (stateType : UInt8) (data : List UInt8) :
    (service.setLocalState parameters stateType data).1.remoteRecords = service.remoteRecords := by
  unfold setLocalState
  split
  · exact remoteRecords_clearLocalState ..
  split
  · rfl
  split
  · rfl
  dsimp only
  split
  · split <;> rfl
  · split <;> rfl

theorem remoteRecords_transmit (service : CdmpStateService) (device : CdmpDevice)
    (peers : CdmpStatePeers) (now : ℤ) :
    (service.transmit device peers now).1.remoteRecords = service.remoteRecords := by
  unfold transmit
  split
  · rfl
  · rfl

theorem remoteRecords_processStateChangeResponseFrame (service : CdmpStateService)
    (device : CdmpDevice) (frame : List UInt8) :
    (service.processStateChangeResponseFrame device frame).remoteRecords =
      service.remoteRecords := by
  unfold processStateChangeResponseFrame
  split
  · rfl
  split
  · split <;> rfl
  · rfl

theorem CopiesFrom.of_eq (same : after.remoteRecords = before.remoteRecords) :
    CopiesFrom before after :=
  fun record member => ⟨record, same ▸ member, rfl⟩

/-- Only a notification brings a copy of a source that had none, and the source is listed. -/
theorem copiesFrom_processStateChangeFrame (parameters : CdmpStateParameters)
    (service : CdmpStateService) (device : CdmpDevice) (isDeviceOnline : UInt8 → Bool)
    (frame : List UInt8) (now : UInt32) :
    let after :=
      (service.processStateChangeFrame parameters device isDeviceOnline frame now).1
    CopiesFrom service after ∨ device.isOnline = true ∧ ∃ source, isDeviceOnline source = true ∧
      ∀ record ∈ after.remoteRecords, record.source = source ∨
        ∃ original ∈ service.remoteRecords, original.source = record.source := by
  intro after
  simp only [after, processStateChangeFrame]
  split_ifs with offline
  · exact Or.inl (.refl service)
  split
  · rename_i message decoded
    split_ifs with noType own unknown
    · exact Or.inl (.refl service)
    · exact Or.inl (.refl service)
    · exact Or.inl (.refl service)
    · refine Or.inr ⟨by simpa using offline, message.sourceDeviceId, by simpa using unknown, ?_⟩
      exact fun record member => mem_applyRecord member
  · exact Or.inl (.refl service)

end CdmpStateService

/-- The device events among the outputs. -/
def reportedEvents (outputs : List UnitOutput) : List (CdmpDeviceEvent × UInt8) :=
  outputs.filterMap fun
    | .deviceEvent event deviceId => some (event, deviceId)
    | .frame _ _ => none

namespace CdmpUnit

open CdmpNetworkService (deviceEvents Tracks)

variable (parameters : CdmpUnitParameters) (unit : CdmpUnit)

theorem reportedEvents_append (first second : List UnitOutput) :
    reportedEvents (first ++ second) = reportedEvents first ++ reportedEvents second :=
  List.filterMap_append

/-- The effect drops the copies of the device that left, and all of them when the unit is ONLINE
no more. -/
def Forgets (effect : NetworkEffect) (source : UInt8) : Prop :=
  match effect with
  | .deviceEvent event device => event = .left ∧ device.deviceId = source
  | .statusChanged change => change.newStatus ≠ .online ∧ change.oldStatus = .online
  | _ => False

theorem applyEffect_copies (now : ℕ) (effect : NetworkEffect) :
    let result := unit.applyEffect parameters now effect
    reportedEvents result.2 = deviceEvents [effect] ∧
      unit.state.CopiesFrom result.1.state ∧
      ∀ record ∈ result.1.state.remoteRecords, ¬ Forgets effect record.source := by
  intro result
  -- Copies are forgotten when the unit leaves ONLINE and when their source leaves.
  cases effect with
  | sendFrame frame => exact ⟨rfl, .refl _, fun _ _ => id⟩
  | runInSession session work => exact ⟨rfl, .refl _, fun _ _ => id⟩
  | statusChanged change =>
    refine ⟨rfl, unit.state.copiesFrom_onDeviceStatusChanged parameters.state change, ?_⟩
    rintro record member ⟨offline, online⟩
    simp only [result, applyEffect, onDeviceStatusChanged, CdmpStateService.onDeviceStatusChanged,
      if_neg offline, if_pos online, CdmpStateService.remoteRecords_forgetNetwork] at member
    cases member
  | deviceEvent event device =>
    refine ⟨rfl, unit.state.copiesFrom_onDeviceEvent event device, ?_⟩
    rintro record member ⟨rfl, own⟩
    simp only [result, applyEffect, CdmpStateService.onDeviceEvent,
      CdmpStateService.remoteRecords_dropSource] at member
    simpa [own] using (List.mem_filter.mp member).2
  | heartbeat message =>
    have copies := unit.state.copiesFrom_onHeartbeat parameters.state unit.network.device message
      (UInt32.ofNat now)
    simp only [result, applyEffect, onHeartbeat]
    split_ifs
    · refine ⟨?_, ?_, fun _ _ => id⟩
      · refine List.filterMap_eq_nil_iff.mpr fun output sent => ?_
        obtain ⟨_, rfl⟩ := mem_sendCommand sent
        rfl
      · obtain ⟨_, same⟩ := sendCommand_fst parameters
          { unit with state := (unit.state.onHeartbeat parameters.state unit.network.device message
              (UInt32.ofNat now)).1 }
          message.deviceId CdmpServiceCommandCode.stateSyncRequest [] none now
        rw [same]
        exact copies
    · exact ⟨rfl, copies, fun _ _ => id⟩

/-- What the effects of a step leave of the copies. -/
theorem applyEffects_copies (now : ℕ) (effects : List NetworkEffect) :
    let result := applyEffects parameters now unit effects
    reportedEvents result.2 = deviceEvents effects ∧
      unit.state.CopiesFrom result.1.state ∧
      ∀ record ∈ result.1.state.remoteRecords, ∀ effect ∈ effects,
        ¬ Forgets effect record.source := by
  induction effects generalizing unit with
  | nil => exact ⟨rfl, .refl _, fun _ _ _ member => absurd member List.not_mem_nil⟩
  | cons effect effects ih =>
    obtain ⟨told, copies, forgotten⟩ := unit.applyEffect_copies parameters now effect
    obtain ⟨toldLater, later, forgottenLater⟩ := ih (unit.applyEffect parameters now effect).1
    refine ⟨?_, copies.trans later, fun record member other isEffect => ?_⟩
    · rw [applyEffects, reportedEvents_append, told, toldLater,
        ← CdmpNetworkService.deviceEvents_append]
      rfl
    · rcases List.mem_cons.mp isEffect with rfl | isLater
      · obtain ⟨original, isOriginal, same⟩ := later record member
        rw [← same]
        exact forgotten original isOriginal
      · exact forgottenLater record member other isLater

/-- The events of the network service are told to the other services, and no others. -/
theorem reportedEvents_runNetwork (now : ℕ) (result : CdmpNetworkService × List NetworkEffect) :
    reportedEvents (unit.runNetwork parameters now result).2 = deviceEvents result.2 :=
  (applyEffects_copies parameters { unit with network := result.1 } now result.2).1

theorem reportedEvents_threadEntry (now : ℕ) :
    reportedEvents (unit.threadEntry parameters now).2 = [] :=
  (reportedEvents_runNetwork ..).trans (CdmpNetworkService.keepsOrStops_transition ..).1

theorem reportedEvents_doStop (now : ℕ) : reportedEvents (unit.doStop parameters now).2 = [] :=
  (reportedEvents_runNetwork ..).trans (CdmpNetworkService.keepsOrStops_transition ..).1

theorem Quiet.reportedEvents {unit : CdmpUnit} {result : CdmpUnit × List UnitOutput}
    (quiet : unit.Quiet result) : Cdmp.reportedEvents result.2 = [] := by
  refine List.filterMap_eq_nil_iff.mpr fun output member => ?_
  cases output with
  | frame canId data => rfl
  | deviceEvent event deviceId => exact absurd member (quiet.events event deviceId)

/-- The copies after a step of the network service. -/
theorem runNetwork_copies {before : CdmpUnit} (now : ℕ)
    {result : CdmpNetworkService × List NetworkEffect}
    (reports : unit.network.Reports result)
    (offline : unit.network.device.status ≠ .online → before.state.remoteRecords = [])
    (copies : before.state.CopiesFrom unit.state) :
    let after := unit.runNetwork parameters now result
    (result.1.device.status ≠ .online → after.1.state.remoteRecords = []) ∧
      before.state.CopiesFrom after.1.state ∧
      ∀ record ∈ after.1.state.remoteRecords, (.left, record.source) ∉ deviceEvents result.2 := by
  obtain ⟨-, later, forgotten⟩ :=
    applyEffects_copies parameters { unit with network := result.1 } now result.2
  -- A copy left over would be of a unit that was ONLINE before the step.
  refine ⟨fun leaves => ?_, copies.trans later, fun record member left => ?_⟩
  · refine List.eq_nil_iff_forall_not_mem.mpr fun record member => ?_
    obtain ⟨original, isOriginal, -⟩ := (copies.trans later) record member
    have online : unit.network.device.status = .online := by
      by_contra notOnline
      rw [offline notOnline] at isOriginal
      cases isOriginal
    -- The unit left ONLINE in this step, and the state service was told.
    have changes := reports.statusChanges
    rw [if_neg (online.symm ▸ leaves)] at changes
    have change := changes ▸ List.mem_singleton_self _
    simp only [statusChanges, List.mem_filterMap] at change
    obtain ⟨effect, isEffect, isChange⟩ := change
    cases effect with
    | statusChanged change =>
      obtain rfl := Option.some.inj isChange
      exact forgotten record member _ isEffect ⟨leaves, online⟩
    | _ => cases isChange
  · simp only [deviceEvents, List.mem_filterMap] at left
    obtain ⟨effect, isEffect, isLeft⟩ := left
    cases effect with
    | deviceEvent event device =>
      obtain ⟨isLeft, own⟩ := Prod.mk.inj (Option.some.inj isLeft)
      exact forgotten record member _ isEffect ⟨isLeft, own⟩
    | _ => cases isLeft

/-- A step about shared state brings copies of listed devices only, while the unit is ONLINE. -/
theorem copies_stateLabel {label : UnitLabel} (isState : isStateLabel label = true) :
    let after := (unit.step parameters label).1
    unit.state.CopiesFrom after.state ∨ unit.network.device.status = .online ∧
      ∃ source, unit.network.networkDevices.contains source = true ∧
        ∀ record ∈ after.state.remoteRecords, record.source = source ∨
          ∃ original ∈ unit.state.remoteRecords, original.source = record.source := by
  intro after
  -- Only a state frame can bring a copy, and only of a device that is listed.
  cases label with
  | stateFrame isResponse frame now =>
    simp only [after, step, processStateFrame]
    split_ifs
    · exact Or.inl (.of_eq rfl)
    · exact Or.inl (.of_eq (CdmpStateService.remoteRecords_processStateChangeResponseFrame ..))
    · rcases unit.state.copiesFrom_processStateChangeFrame parameters.state unit.network.device
          unit.network.isDeviceOnline frame (UInt32.ofNat now) with
        kept | ⟨online, source, listed, new⟩
      · exact Or.inl kept
      · refine Or.inr ⟨by simpa [CdmpDevice.isOnline] using online, source, ?_, new⟩
        obtain ⟨device, found, -⟩ := (Option.any_eq_true _ _).mp listed
        exact CdmpDeviceTable.contains_iff_find?.mpr ⟨device, found⟩
  | transmitTask now =>
    refine Or.inl (.of_eq ?_)
    have same := unit.state.remoteRecords_transmit unit.network.device unit.statePeers now
    simp only [after, step, transmit]
    split_ifs
    · obtain ⟨_, sent⟩ := sendCommand_fst parameters
        { unit with
          state := (unit.state.transmit unit.network.device unit.statePeers now).1 }
        deviceIdBroadcast CdmpServiceCommandCode.stateSyncRequest [] none now
      rw [sent]
      exact same
    · exact same
  | notifyTask => exact Or.inl (.of_eq rfl)
  | setLocalState stateType data =>
    exact Or.inl (.of_eq (unit.state.remoteRecords_setLocalState parameters.state stateType data))
  | clearLocalState stateType =>
    exact Or.inl (.of_eq (unit.state.remoteRecords_clearLocalState parameters.state stateType))
  | _ => cases isState

end CdmpUnit

/-! ### What a step tells of the table -/

namespace CdmpUnit

open CdmpNetworkService (deviceEvents)

variable (parameters : CdmpUnitParameters)

/-- The device whose restart the step handles: its claim comes first in the queue and is of this
session. -/
def restartsBy (unit : CdmpUnit) (label : UnitLabel) : List UInt8 :=
  match label, unit.workQueue with
  | .runWork now, .network session work :: _ =>
    if unit.network.session = session then unit.network.restartsBy work now else []
  | _, _ => []

/-- What the events of a step say about the table. In a session they are its insertions, restarts
and removals, and a restart is told exactly for the claim that is one; a step outside of a session
or at its end tells nothing. -/
structure TellsOfTable (unit : CdmpUnit) (label : UnitLabel) : Prop where
  stopped : unit.network.isRunning = false → reportedEvents (unit.step parameters label).2 = []
  moves : unit.network.isRunning = true →
    (unit.step parameters label).1.network.isRunning = true →
      Path TableMove unit.network.entries (reportedEvents (unit.step parameters label).2)
        (unit.step parameters label).1.network.entries
  ends : unit.network.isRunning = true →
    (unit.step parameters label).1.network.isRunning = false →
      reportedEvents (unit.step parameters label).2 = []
  restarts : restartsIn (reportedEvents (unit.step parameters label).2) = unit.restartsBy label

variable {parameters} {unit : CdmpUnit} {label : UnitLabel}

theorem network_doStop (unit : CdmpUnit) (now : ℕ) :
    (unit.doStop parameters now).1.network = (unit.network.stop.transition (·.reset)).1 := by
  obtain ⟨stopped, stops, -⟩ := unit.doStop_eq parameters now
  rw [stops]
  exact (stopped.runNetwork_frame parameters now _).1

/-- A step that is not work of the session's network service restarts nobody. -/
theorem restartsBy_eq_nil
    (other : ∀ now work rest, label = .runWork now →
      unit.workQueue ≠ .network unit.network.session work :: rest) :
    unit.restartsBy label = [] := by
  unfold restartsBy
  split
  · rename_i now session work rest queue
    refine if_neg fun current => other now work rest rfl ?_
    rw [queue, current]
  · rfl

/-- A step that leaves running and entries as they are, and tells nothing. -/
theorem tellsOfTable_of_silent (silent : reportedEvents (unit.step parameters label).2 = [])
    (entries : unit.network.isRunning = true →
      (unit.step parameters label).1.network.isRunning = true →
        (unit.step parameters label).1.network.entries = unit.network.entries)
    (none : unit.restartsBy label = []) : TellsOfTable parameters unit label where
  stopped := fun _ => silent
  moves := fun running stays => by
    rw [silent, entries running stays]
    exact .nil
  ends := fun _ _ => silent
  restarts := by
    rw [silent, none]
    rfl

/-- A step of the network service. -/
theorem tellsOfTable_runNetwork {rest : List UnitWork} {now : ℕ} {restarts : List UInt8}
    {result : CdmpNetworkService × List NetworkEffect}
    (stepped : unit.step parameters label =
      { unit with workQueue := rest }.runNetwork parameters now result)
    (tracks : unit.network.Tracks restarts result)
    (idles : unit.network.isRunning = false → deviceEvents result.2 = [])
    (same : unit.restartsBy label = restarts) : TellsOfTable parameters unit label := by
  have told : reportedEvents (unit.step parameters label).2 = deviceEvents result.2 := by
    rw [stepped]
    exact reportedEvents_runNetwork ..
  have network : (unit.step parameters label).1.network = result.1 := by
    rw [stepped]
    exact (runNetwork_frame ..).1
  -- The events of the step are those of the network service, in the order it made them.
  refine ⟨fun stopped => told.trans (idles stopped), fun running stays => ?_,
    fun running stops => ?_, ?_⟩
  · rw [told, network]
    rcases tracks with ⟨-, moves⟩ | ⟨-, stops, -⟩
    · exact moves.path
    · rw [network, stops] at stays
      cases stays
  · rw [told]
    rcases tracks with ⟨goesOn, -⟩ | ⟨-, -, silent, -⟩
    · rw [network, goesOn, running] at stops
      cases stops
    · exact silent
  · rw [told, same]
    rcases tracks with ⟨-, moves⟩ | ⟨-, -, silent, none⟩
    · exact moves.restarts
    · rw [silent, none]
      rfl

/-- Every step of a unit tells of the table what it does to it. -/
theorem tellsOfTable (sessional : unit.Sessional) (label : UnitLabel) :
    TellsOfTable parameters unit label := by
  have idle (stopped : unit.network.isRunning = false) : unit.network.Idle :=
    sessional.settled.resolve_left (by simp [stopped])
  -- Work of the network service in its session comes first: it alone finds restarts.
  by_cases handled : ∃ now work rest, label = .runWork now ∧
      unit.workQueue = .network unit.network.session work :: rest
  · obtain ⟨now, work, rest, rfl, queue⟩ := handled
    have stepped : unit.step parameters (.runWork now) =
        { unit with workQueue := rest }.runNetwork parameters now
          (unit.network.runWork work now) := by
      simp [step, runWork, queue, runUnitWork]
    refine tellsOfTable_runNetwork stepped (unit.network.tracks_runWork work now)
      (fun stopped => ?_) (by simp [restartsBy, queue])
    rw [sessional.running (queue ▸ List.mem_cons_self)] at stopped
    cases stopped
  have none : unit.restartsBy label = [] := by
    refine restartsBy_eq_nil fun now work rest isLabel queue => ?_
    exact handled ⟨now, work, rest, isLabel, queue⟩
  cases unit.stepCase parameters label with
  | quiet quiet state =>
    exact tellsOfTable_of_silent quiet.reportedEvents (fun _ _ => by rw [quiet.network]) none
  | received work external fresh result =>
    refine tellsOfTable_of_silent (by rw [result]; rfl) (fun _ _ => ?_) none
    rw [result]
    unfold receive
    dsimp only
    split_ifs <;> rfl
  | dropped session work rest queue old result =>
    exact tellsOfTable_of_silent (by rw [result]; rfl) (fun _ _ => by rw [result]) none
  | work work now rest isLabel queue result =>
    exact absurd ⟨now, work, rest, isLabel, queue⟩ handled
  | heartbeat message now rest queue result =>
    refine tellsOfTable_runNetwork result
      (unit.network.tracks_updateDeviceFromHeartbeat message now) (fun stopped => ?_) none
    rw [((idle stopped).updateDeviceFromHeartbeat message now).2]
    rfl
  | task networkLabel now isTask claims result =>
    have stepped : unit.step parameters label =
        { unit with workQueue := unit.workQueue }.runNetwork parameters now
          (unit.network.step networkLabel) := result
    refine tellsOfTable_runNetwork stepped (unit.network.tracks_task isTask)
      (fun stopped => ?_) none
    rw [((idle stopped).task isTask).2]
    rfl
  | start now stopped result =>
    refine tellsOfTable_of_silent ?_ (fun running => ?_) none
    · rw [result, reportedEvents_threadEntry]
    · rw [sessional.not_running stopped] at running
      cases running
  | stop now started result =>
    refine tellsOfTable_of_silent ?_ (fun _ stays => ?_) none
    · rw [result, reportedEvents_doStop]
    · rw [result, network_doStop, (unit.network.idle_reset_stop sessional.settled).1.isRunning]
        at stays
      cases stays
  | canbus isValid external result =>
    exact tellsOfTable_of_silent (by rw [result]; rfl) (fun _ _ => by rw [result]; rfl) none
  | iterate order result =>
    exact tellsOfTable_of_silent (by rw [result]; rfl) (fun _ _ => by rw [result]; rfl) none

end CdmpUnit

/-! ### Whole runs -/

/-- A unit and the device events since its network service last started. -/
structure UnitHistory where
  unit : CdmpUnit
  events : List (CdmpDeviceEvent × UInt8) := []

namespace UnitHistory

variable (parameters : CdmpUnitParameters)

/-- A step of the unit, with what it reports; a start of the network service begins a new history.
-/
def step (history : UnitHistory) (label : UnitLabel) : UnitHistory :=
  let result := history.unit.step parameters label
  let starts := !history.unit.network.isRunning && result.1.network.isRunning
  { unit := result.1
    events := (if starts then [] else history.events) ++ reportedEvents result.2 }

/-- The table lists a device exactly when the last event about it is not LEFT. -/
def ListedByEvents (history : UnitHistory) : Prop :=
  ∀ deviceId, history.unit.network.networkDevices.contains deviceId = true ↔
    ∃ event, (eventsOf deviceId history.events).getLast? = some event ∧ event ≠ .left

/-- Copies are of listed devices, none survives the LEFT of its source or the unit leaving ONLINE,
and the events about a device alternate. -/
structure CopiesFollowEvents (history : UnitHistory) : Prop where
  listed : ∀ record ∈ history.unit.state.remoteRecords,
    history.unit.network.networkDevices.contains record.source = true
  left : ∀ deviceId, (eventsOf deviceId history.events).getLast? = some .left →
    ∀ record ∈ history.unit.state.remoteRecords, record.source ≠ deviceId
  offline : history.unit.network.device.status ≠ .online → history.unit.state.remoteRecords = []
  alternates : ∀ deviceId, Alternates (eventsOf deviceId history.events)

/-- In a session the events are the moves of the table since its start; outside, it is empty. -/
structure CopiesFollowTable (history : UnitHistory) : Prop extends CopiesFollowEvents history where
  listedByEvents : history.unit.network.isRunning = true → history.ListedByEvents
  moves : history.unit.network.isRunning = true →
    Path TableMove [] history.events history.unit.network.entries
  empty : history.unit.network.isRunning = false →
    history.unit.network.networkDevices = .empty

/-- What carries it from step to step. -/
structure Tracked (history : UnitHistory) : Prop where
  sessional : history.unit.Sessional
  listed : ∀ record ∈ history.unit.state.remoteRecords,
    record.source ∈ history.unit.network.entries.map (·.1)
  offline : history.unit.network.device.status ≠ .online → history.unit.state.remoteRecords = []
  moves : ∃ table, Path TableMove [] history.events table ∧
    (history.unit.network.isRunning = true → table = history.unit.network.entries)

variable {parameters} {history : UnitHistory}

theorem Tracked.copiesFollowTable (tracked : Tracked history) : CopiesFollowTable history := by
  obtain ⟨table, path, current⟩ := tracked.moves
  -- A device that no event mentions counts as one that left.
  have word (deviceId : UInt8) := alternates_of_path deviceId path .left (by simp)
  have last (deviceId : UInt8) : deviceId ∈ table.map (·.1) ↔
      ∃ event, (eventsOf deviceId history.events).getLast? = some event ∧ event ≠ .left := by
    rw [(word deviceId).2]
    cases eventsOf deviceId history.events with
    | nil => simp
    | cons event events => simp [List.getLast?_eq_some_getLast]
  have running (record : RemoteRecord) (member : record ∈ history.unit.state.remoteRecords) :
      history.unit.network.isRunning = true := by
    rcases tracked.sessional.settled with running | idle
    · exact running
    · rw [tracked.offline idle.offline] at member
      cases member
  refine
    { listed := fun record member => ?_
      left := fun deviceId left record member own => ?_
      offline := tracked.offline
      alternates := fun deviceId => (word deviceId).1
      listedByEvents := fun isRunning deviceId => ?_
      moves := fun isRunning => current isRunning ▸ path
      empty := fun stopped => ?_ }
  · exact CdmpNetworkService.mem_entries_iff.mp (tracked.listed record member)
  · have isListed := tracked.listed record member
    rw [← current (running record member), own, last] at isListed
    obtain ⟨event, isLast, stays⟩ := isListed
    exact stays (Option.some.inj (isLast.symm.trans left))
  · rw [← CdmpNetworkService.mem_entries_iff, ← current isRunning, last]
  · rcases tracked.sessional.settled with isRunning | idle
    · rw [isRunning] at stopped
      cases stopped
    · exact idle.networkDevices

theorem tracked_create (parameters : CdmpUnitParameters) (uid : { uid : UInt32 // uid ≠ 0 })
    (features : UInt16) (now : ℕ) :
    Tracked { unit := .create parameters uid features now } where
  sessional := CdmpUnit.sessional_create parameters uid features now
  listed := by simp [CdmpUnit.create, CdmpUnit.initial, CdmpStateService.initial]
  offline := fun _ => rfl
  moves := ⟨[], .nil, fun _ => rfl⟩

/-- A step that leaves the table and the status alone and brings no copy of an unlisted device. -/
theorem Tracked.of_same (tracked : Tracked history) {after : CdmpUnit}
    (sessional : after.Sessional)
    (running : after.network.isRunning = history.unit.network.isRunning)
    (entries : after.network.entries = history.unit.network.entries)
    (listed : ∀ record ∈ after.state.remoteRecords,
      record.source ∈ history.unit.network.entries.map (·.1))
    (offline : after.network.device.status ≠ .online → after.state.remoteRecords = []) :
    Tracked { unit := after, events := history.events } := by
  refine ⟨sessional, by rwa [entries], offline, ?_⟩
  obtain ⟨table, path, current⟩ := tracked.moves
  exact ⟨table, path, by rwa [running, entries]⟩

/-- Without events, and without a start, the history stays as it is. -/
theorem step_of_silent {label : UnitLabel} {result : CdmpUnit × List UnitOutput}
    (stepped : history.unit.step parameters label = result) (silent : reportedEvents result.2 = [])
    (goesOn : result.1.network.isRunning = true → history.unit.network.isRunning = true) :
    history.step parameters label = { unit := result.1, events := history.events } := by
  have noStart : (!history.unit.network.isRunning && result.1.network.isRunning) = false := by
    cases running : result.1.network.isRunning with
    | false => simp
    | true => simp [goesOn running]
  simp [step, stepped, silent, noStart]

/-- A step of the network service keeps track, in a session and outside. -/
theorem Tracked.driven (tracked : Tracked history) {label : UnitLabel} {rest : List UnitWork}
    {now : ℕ} {result : CdmpNetworkService × List NetworkEffect}
    (stepped : history.unit.step parameters label =
      { history.unit with workQueue := rest }.runNetwork parameters now result)
    (reports : history.unit.network.Reports result) {restarts : List UInt8}
    (tracks : history.unit.network.Tracks restarts result)
    (idles : history.unit.network.Idle → result.1.Idle ∧ result.2 = []) :
    Tracked (history.step parameters label) := by
  obtain ⟨network, -, -⟩ :=
    CdmpUnit.runNetwork_frame parameters { history.unit with workQueue := rest } now result
  have told := CdmpUnit.reportedEvents_runNetwork parameters { history.unit with workQueue := rest }
    now result
  obtain ⟨offline, copies, left⟩ := CdmpUnit.runNetwork_copies parameters
    { history.unit with workQueue := rest } now reports tracked.offline (.refl history.unit.state)
  have sessional := CdmpUnit.sessional_step parameters tracked.sessional label
  rw [stepped] at sessional
  obtain ⟨table, path, current⟩ := tracked.moves
  rcases tracked.sessional.settled with running | idle
  · have events : history.step parameters label =
        { unit := ({ history.unit with workQueue := rest }.runNetwork parameters now result).1
          events := history.events ++ CdmpNetworkService.deviceEvents result.2 } := by
      simp [step, stepped, running, told]
    rw [events]
    refine ⟨sessional, fun record member => ?_, by rwa [network], ?_⟩
    · rw [network]
      obtain ⟨original, isOriginal, same⟩ := copies record member
      have listed := tracked.listed original isOriginal
      rcases tracks with ⟨-, moves⟩ | ⟨-, stopped, -, -⟩
      · rw [same] at listed
        exact mem_of_path moves.path listed (left record member)
      · -- The session is over and the unit not ONLINE, so no copy is left.
        rcases reports.session with ⟨goesOn, -⟩ | ⟨-, idle, -⟩
        · rw [goesOn, running] at stopped
          cases stopped
        · rw [offline idle.offline] at member
          cases member
    · rw [network]
      rcases tracks with ⟨-, moves⟩ | ⟨-, stopped, silent, -⟩
      · exact ⟨_, path.append (current running ▸ moves.path), fun _ => rfl⟩
      · refine ⟨table, by simpa [silent] using path, fun goesOn => ?_⟩
        rw [stopped] at goesOn
        cases goesOn
  -- Outside a session nothing is reported and no copy is held.
  · obtain ⟨stays, silent⟩ := idles idle
    rw [step_of_silent stepped (told.trans (by rw [silent]; rfl))
      (by rw [network, stays.isRunning]; simp)]
    refine ⟨sessional, ?_, by rwa [network], table, path, ?_⟩
    · rw [offline stays.offline]
      simp
    · rw [network, stays.isRunning]
      simp

theorem Tracked.quiet (tracked : Tracked history) {label : UnitLabel}
    (quiet : history.unit.Quiet (history.unit.step parameters label))
    (state : (history.unit.step parameters label).1.state = history.unit.state ∨
      CdmpUnit.isStateLabel label = true) : Tracked (history.step parameters label) := by
  have sessional := CdmpUnit.sessional_step parameters tracked.sessional label
  rw [step_of_silent rfl quiet.reportedEvents (by rw [quiet.network]; exact id)]
  -- The copies are the old ones, or one of a listed device came while the unit is ONLINE.
  have copies : history.unit.state.CopiesFrom (history.unit.step parameters label).1.state ∨
      history.unit.network.device.status = .online ∧
        ∃ source, history.unit.network.networkDevices.contains source = true ∧
          ∀ record ∈ (history.unit.step parameters label).1.state.remoteRecords,
            record.source = source ∨
              ∃ original ∈ history.unit.state.remoteRecords, original.source = record.source := by
    rcases state with same | isState
    · exact Or.inl (.of_eq (by rw [same]))
    · exact history.unit.copies_stateLabel parameters isState
  have old (record : RemoteRecord)
      (copied : ∃ original ∈ history.unit.state.remoteRecords, original.source = record.source) :
      record.source ∈ history.unit.network.entries.map (·.1) := by
    obtain ⟨original, isOriginal, same⟩ := copied
    exact same ▸ tracked.listed original isOriginal
  refine tracked.of_same sessional (by rw [quiet.network]) (by rw [quiet.network]) ?_ ?_
  · intro record member
    rcases copies with kept | ⟨-, source, listed, new⟩
    · exact old record (kept record member)
    · rcases new record member with own | original
      · rw [own]
        exact CdmpNetworkService.mem_entries_iff.mpr listed
      · exact old record original
  · rw [quiet.network]
    intro offline
    rcases copies with kept | ⟨online, -⟩
    · refine List.eq_nil_iff_forall_not_mem.mpr fun record member => ?_
      obtain ⟨_, isOriginal, -⟩ := kept record member
      rw [tracked.offline offline] at isOriginal
      cases isOriginal
    · exact absurd online offline

theorem Tracked.start (tracked : Tracked history) {label : UnitLabel} {now : ℕ}
    (stopped : history.unit.isStarted = false)
    (stepped : history.unit.step parameters label = history.unit.threadEntry parameters now) :
    Tracked (history.step parameters label) := by
  have sessional := CdmpUnit.sessional_step parameters tracked.sessional label
  rw [stepped] at sessional
  have notRunning := tracked.sessional.not_running stopped
  have idle := tracked.sessional.settled.resolve_left (by simp [notRunning])
  obtain ⟨_, start⟩ := CdmpNetworkService.start_of_stopped notRunning
  obtain ⟨started, entered, -, network, -, state⟩ := history.unit.threadEntry_eq parameters now
  have copies : history.unit.state.CopiesFrom started.state := by
    refine .of_eq ?_
    rw [state]
    split_ifs <;> rfl
  have isNetwork : (history.unit.threadEntry parameters now).1.network =
      (history.unit.network.start.transition (·.startDiscovery)).1 := by
    rw [entered]
    exact (started.runNetwork_frame parameters now _).1
  rw [← network] at entered
  obtain ⟨-, later, -⟩ := started.runNetwork_copies parameters now
    (started.network.reports_transition (CdmpNetworkService.reportsStatus_setStatus .init false))
    (fun _ => tracked.offline idle.offline) copies
  -- A unit that is not running has no copies of remote records, and the start adds none.
  have noCopies : (history.unit.threadEntry parameters now).1.state.remoteRecords = [] := by
    refine List.eq_nil_iff_forall_not_mem.mpr fun record member => ?_
    rw [entered] at member
    obtain ⟨_, isOriginal, -⟩ := later record member
    rw [tracked.offline idle.offline] at isOriginal
    cases isOriginal
  have outcome := (history.unit.network.start.keepsOrStops_transition (·.startDiscovery)).2
  have silent := history.unit.reportedEvents_threadEntry parameters now
  refine ⟨by rw [step, stepped]; exact sessional, ?_, ?_, ?_⟩
  · rw [step, stepped, noCopies]
    simp
  · rw [step, stepped]
    exact fun _ => noCopies
  · rcases outcome with ⟨goesOn, same⟩ | ⟨-, stops, -⟩
    · -- The session starts with an empty table and no events.
      have running : history.unit.network.start.isRunning = true := by rw [start]
      have events : (history.step parameters label).events = [] := by
        simp [step, stepped, silent, notRunning, isNetwork, goesOn, running]
      refine ⟨[], events ▸ .nil, fun _ => ?_⟩
      rw [step, stepped, isNetwork]
      rw [same, start]
      rfl
    -- The start failed (the CAN bus is missing): the session is over before its first event.
    · obtain ⟨table, path, -⟩ := tracked.moves
      rw [step_of_silent stepped silent (by rw [isNetwork, stops]; simp)]
      exact ⟨table, path, by rw [isNetwork, stops]; simp⟩

theorem Tracked.stop (tracked : Tracked history) {label : UnitLabel} {now : ℕ}
    (stepped : history.unit.step parameters label = history.unit.doStop parameters now) :
    Tracked (history.step parameters label) := by
  have sessional := CdmpUnit.sessional_step parameters tracked.sessional label
  rw [stepped] at sessional
  obtain ⟨idle, -, -⟩ := history.unit.network.idle_reset_stop tracked.sessional.settled
  obtain ⟨stopped, stops, network, -, state⟩ := history.unit.doStop_eq parameters now
  have copies : history.unit.state.CopiesFrom stopped.state := by
    rw [state]
    split_ifs
    · intro record member
      rw [CdmpStateService.doStop, CdmpStateService.remoteRecords_forgetNetwork] at member
      cases member
    · exact .refl _
  have notRunning : (history.unit.doStop parameters now).1.network.isRunning = false := by
    rw [CdmpUnit.network_doStop]
    exact idle.isRunning
  rw [← network] at stops idle
  obtain ⟨offline, -, -⟩ := stopped.runNetwork_copies parameters now
    (stopped.network.reports_transition CdmpNetworkService.reportsStatus_reset)
    (by simpa [network] using tracked.offline) copies
  -- A stop leaves ONLINE, which forgets every copy.
  have noCopies : (history.unit.doStop parameters now).1.state.remoteRecords = [] := by
    rw [stops]
    exact offline idle.offline
  obtain ⟨table, path, -⟩ := tracked.moves
  rw [step_of_silent stepped (history.unit.reportedEvents_doStop parameters now)
    (by simp [notRunning])]
  exact ⟨sessional, by simp [noCopies], fun _ => noCopies, table, path, by simp [notRunning]⟩

/-- One step keeps track. -/
theorem Tracked.step (tracked : Tracked history) (label : UnitLabel) :
    Tracked (history.step parameters label) := by
  have sessional := CdmpUnit.sessional_step parameters tracked.sessional label
  -- Work of the running session goes through `driven`; every other step leaves the table and the
  -- copies alone.
  cases history.unit.stepCase parameters label with
  | quiet quiet state => exact tracked.quiet quiet state
  | received work external fresh result =>
    have network : (history.unit.receive work).network = history.unit.network ∧
        (history.unit.receive work).state = history.unit.state := by
      unfold CdmpUnit.receive
      dsimp only
      split_ifs <;> exact ⟨rfl, rfl⟩
    rw [result] at sessional
    rw [step_of_silent result rfl (by rw [network.1]; exact id)]
    refine tracked.of_same sessional (by rw [network.1]) (by rw [network.1]) ?_ ?_
    · rw [network.2]
      exact tracked.listed
    · rw [network.1, network.2]
      exact tracked.offline
  | dropped session work rest queue old result =>
    rw [result] at sessional
    rw [step_of_silent result rfl id]
    exact tracked.of_same sessional rfl rfl tracked.listed tracked.offline
  | work work now rest isLabel queue result =>
    have running := tracked.sessional.running (queue ▸ List.mem_cons_self)
    refine tracked.driven result (history.unit.network.reports_runWork work now)
      (history.unit.network.tracks_runWork work now) fun idle => ?_
    rw [idle.isRunning] at running
    cases running
  | heartbeat message now rest queue result =>
    exact tracked.driven result (history.unit.network.reports_updateDeviceFromHeartbeat message now)
      (history.unit.network.tracks_updateDeviceFromHeartbeat message now)
      fun idle => idle.updateDeviceFromHeartbeat message now
  | task networkLabel now isTask claims result =>
    exact tracked.driven result (history.unit.network.reports_task isTask)
      (history.unit.network.tracks_task isTask) fun idle => idle.task isTask
  | start now stopped result => exact tracked.start stopped result
  | stop now started result => exact tracked.stop result
  | canbus isValid external result =>
    rw [result] at sessional
    rw [step_of_silent result rfl id]
    exact tracked.of_same sessional rfl rfl tracked.listed tracked.offline
  | iterate order result =>
    rw [result] at sessional
    rw [step_of_silent result rfl id]
    exact tracked.of_same sessional rfl rfl tracked.listed tracked.offline

/-- In every state of every run of a unit the copies, the table and the events agree, and every step
tells of the table what it does to it. -/
theorem copiesFollowTable_of_run (parameters : CdmpUnitParameters)
    (uid : { uid : UInt32 // uid ≠ 0 }) (features : UInt16) (now : ℕ) (labels : List UnitLabel) :
    Always (step parameters) CopiesFollowTable { unit := .create parameters uid features now }
        labels ∧
      Along (step parameters)
        (fun history label => history.unit.TellsOfTable parameters label)
        { unit := .create parameters uid features now } labels := by
  have start := tracked_create parameters uid features now
  refine ⟨?_, ?_⟩
  · exact (always_of_preserved start (fun _ label tracked => tracked.step label) labels).imp
      fun _ => Tracked.copiesFollowTable
  · exact along_of_preserved start (fun _ label tracked => tracked.step label)
      (fun _ label tracked => CdmpUnit.tellsOfTable tracked.sessional label) labels

/-- Device 5 answers the discovery, then a device with the unit's own UID does. -/
def ownUidHeard : List UnitLabel :=
  let joins : CdmpDiscoveryResponseMessage := { deviceId := 5, uid := 0xB, features := 0 }
  let own : CdmpDiscoveryResponseMessage := { deviceId := 7, uid := 1, features := 0 }
  [.start 0, .runWork 0, .receiveManagement (.discoveryResponse joins), .runWork 1,
    .receiveManagement (.discoveryResponse own), .runWork 2]

/-- A unit without command handlers. -/
def bareParameters : CdmpUnitParameters := ⟨.default, 1000, fun _ => none⟩

/-- The error stops the network service, which empties the table without an event. -/
theorem not_listedByEvents_ownUidHeard :
    ¬ Always (step bareParameters)
        (fun history => CopiesFollowEvents history ∧ ListedByEvents history)
        { unit := .create bareParameters ⟨1, by decide⟩ 0 0 } ownUidHeard := by
  intro always
  have joined : (eventsOf 5 (run (step bareParameters)
      { unit := .create bareParameters ⟨1, by decide⟩ 0 0 } ownUidHeard).events).getLast? =
        some .joined := by
    decide +kernel
  have empty : (run (step bareParameters) { unit := .create bareParameters ⟨1, by decide⟩ 0 0 }
      ownUidHeard).unit.network.networkDevices.contains 5 = false := by
    decide +kernel
  have listed := (always.last.2 5).mpr ⟨.joined, joined, by decide⟩
  rw [empty] at listed
  cases listed

end UnitHistory

end RtCore.Cdmp
