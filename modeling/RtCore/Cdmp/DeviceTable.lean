import RtCore.Foundation.Run
import RtCore.Cdmp.NetworkService

/-!
# The device table over whole runs

A UID enters the table with a discovery response, which removes it from any other ID
first, or with the first heartbeat after a pending claim, which does not look whether the
table lists the UID already.

## Main definitions

* `entries` — the IDs of the table with their UIDs
* `IsRestart` — a claim that says that a device of the table restarted
* `ConfirmsFreeUid` — the claim a heartbeat confirms has a UID the table does not list

## Main results

* `uidsDistinct_iff` — no two entries hold the same UID in every state of exactly the runs
  whose heartbeats confirm claims of unlisted UIDs only
-/

namespace RtCore.Cdmp

open RtCore.Foundation

namespace CdmpDeviceTable

variable {table : CdmpDeviceTable} {deviceId : UInt8}

/-- IDs and UIDs. -/
def entries (table : CdmpDeviceTable) : List (UInt8 × UInt32) :=
  table.devices.map fun device => (device.deviceId, device.uid)

theorem contains_iff : table.contains deviceId = true ↔ ∃ uid, (deviceId, uid) ∈ table.entries := by
  simp [contains, entries]

theorem contains_iff_find? :
    table.contains deviceId = true ↔ ∃ device, table.find? deviceId = some device := by
  rw [← Option.isSome_iff_exists, find?, List.find?_isSome]
  simp [contains]

theorem find?_eq_some {device : CdmpDevice} (found : table.find? deviceId = some device) :
    device ∈ table.devices ∧ device.deviceId = deviceId :=
  ⟨List.mem_of_find?_eq_some found, by simpa using List.find?_some found⟩

theorem contains_eq_false (absent : table.find? deviceId = none) :
    table.contains deviceId = false := by
  rw [← Bool.not_eq_true, contains_iff_find?]
  simp [absent]

/-- A write that leaves the UIDs alone leaves the entries alone. -/
theorem entries_update {f : CdmpDevice → CdmpDevice}
    (keeps : ∀ device, (f device).uid = device.uid) :
    (table.update f).entries = table.entries := by
  rw [entries, update, List.map_map]
  exact List.map_congr_left fun device _ => Prod.ext rfl (keeps device)

@[simp] theorem entries_erase :
    (table.erase deviceId).entries = table.entries.filter (·.1 ≠ deviceId) := by
  rw [entries, erase, entries, List.filter_map]
  rfl

theorem entries_insert {device : CdmpDevice} (absent : table.contains device.deviceId = false) :
    (table.insert device).entries = table.entries ++ [(device.deviceId, device.uid)] := by
  have new : device.deviceId ∉ table.devices.map (·.deviceId) := by
    simpa [contains] using absent
  simp only [insert, dif_neg new, entries, List.map_append, List.map_cons, List.map_nil]

end CdmpDeviceTable

namespace CdmpNetworkService

variable {service : CdmpNetworkService}

/-- The IDs of the table with their UIDs. -/
def entries (service : CdmpNetworkService) : List (UInt8 × UInt32) := service.networkDevices.entries

/-! ### What operations do to the entries -/

@[simp] theorem entries_updateNetworkDevices :
    service.updateNetworkDevices.entries = service.entries := by
  have lowest : service.updateLowestIdOnNetwork.entries = service.entries :=
    CdmpDeviceTable.entries_update fun _ => rfl
  rw [← lowest]
  exact CdmpDeviceTable.entries_update fun _ => rfl

@[simp] theorem entries_removeDevice (service : CdmpNetworkService) (deviceId : UInt8) :
    (service.removeDevice deviceId).1.entries = service.entries.filter (·.1 ≠ deviceId) := by
  unfold removeDevice
  cases found : service.networkDevices.find? deviceId with
  | none =>
    have absent := CdmpDeviceTable.contains_eq_false found
    refine (List.filter_eq_self.mpr fun entry member => ?_).symm
    rw [decide_eq_true_eq]
    rintro rfl
    rw [CdmpDeviceTable.contains_iff.mpr ⟨entry.2, member⟩] at absent
    cases absent
  | some device =>
    dsimp only
    rw [entries_updateNetworkDevices]
    exact CdmpDeviceTable.entries_erase

/-- A known ID keeps its UID; a new one is added unless its UID is 0. -/
theorem addOrUpdateDevice_cases (service : CdmpNetworkService) (deviceId : UInt8) (uid : UInt32)
    (features : UInt16) (now : ℕ) :
    (service.networkDevices.contains deviceId = true ∧
      ∃ after, service.addOrUpdateDevice deviceId uid features now = some (after, false) ∧
        after.entries = service.entries) ∨
    (service.networkDevices.contains deviceId = false ∧ uid = 0 ∧
      service.addOrUpdateDevice deviceId uid features now = none) ∨
    (service.networkDevices.contains deviceId = false ∧ uid ≠ 0 ∧
      ∃ after, service.addOrUpdateDevice deviceId uid features now = some (after, true) ∧
        after.entries = service.entries ++ [(deviceId, uid)]) := by
  unfold addOrUpdateDevice
  cases known : service.networkDevices.contains deviceId with
  | true =>
    refine Or.inl ⟨rfl, _, by rw [if_pos rfl], ?_⟩
    refine CdmpDeviceTable.entries_update fun device => ?_
    split_ifs
    · exact CdmpDevice.setStatus_uid ..
    · rfl
  | false =>
    rw [if_neg (by simp)]
    by_cases zero : uid = 0
    · exact Or.inr (Or.inl ⟨rfl, zero, by simp [CdmpDevice.create?, zero]⟩)
    · refine Or.inr (Or.inr ⟨rfl, zero, _, by rw [CdmpDevice.create?, dif_pos zero]; rfl, ?_⟩)
      rw [entries_updateNetworkDevices]
      exact CdmpDeviceTable.entries_insert known

/-! ### The three paths into the table -/

/-- What table and claim operations write: the table, the claims, what the device derives from
the table, and the time of the last rediscovery. -/
def withTable (service : CdmpNetworkService) (networkDevices : CdmpDeviceTable)
    (pendingIdClaims : List PendingIdClaim) (isLowestIdOnNetwork : Bool)
    (staggeredMessageDelay : UInt32) (rediscoveryRequestedAtMs : Option ℤ) : CdmpNetworkService :=
  { service with
    device := { service.device with isLowestIdOnNetwork, staggeredMessageDelay }
    networkDevices, pendingIdClaims, rediscoveryRequestedAtMs }

/-- Nothing but the table and what hangs on it changed. -/
def TableUpdate (before after : CdmpNetworkService) : Prop :=
  ∃ table claims lowest delay rediscovery,
    after = before.withTable table claims lowest delay rediscovery

variable {before middle after : CdmpNetworkService}

theorem TableUpdate.refl (service : CdmpNetworkService) : TableUpdate service service :=
  ⟨_, _, _, _, _, rfl⟩

theorem TableUpdate.trans (first : TableUpdate before middle) (second : TableUpdate middle after) :
    TableUpdate before after := by
  obtain ⟨_, _, _, _, _, rfl⟩ := first
  obtain ⟨table, claims, lowest, delay, rediscovery, rfl⟩ := second
  exact ⟨table, claims, lowest, delay, rediscovery, rfl⟩

theorem tableUpdate_findPendingIdClaim (service : CdmpNetworkService) (deviceId : UInt8)
    (now : ℕ) : TableUpdate service (service.findPendingIdClaim deviceId now).1 :=
  ⟨_, _, _, _, _, rfl⟩

theorem tableUpdate_storePendingIdClaim (service : CdmpNetworkService)
    (claim : CdmpIdClaimRequestMessage) (now : ℕ) :
    TableUpdate service (service.storePendingIdClaim claim now) :=
  ⟨_, _, _, _, _, rfl⟩

theorem tableUpdate_removeDevice (service : CdmpNetworkService) (deviceId : UInt8) :
    TableUpdate service (service.removeDevice deviceId).1 := by
  unfold removeDevice
  split
  · exact .refl service
  · exact ⟨_, _, _, _, _, rfl⟩

theorem tableUpdate_addOrUpdateDevice {deviceId : UInt8} {uid : UInt32} {features : UInt16}
    {now : ℕ} {isAdded : Bool}
    (added : service.addOrUpdateDevice deviceId uid features now = some (after, isAdded)) :
    TableUpdate service after := by
  unfold addOrUpdateDevice at added
  split_ifs at added
  · obtain ⟨rfl, -⟩ := Prod.mk.inj (Option.some.inj added)
    exact ⟨_, _, _, _, _, rfl⟩
  · obtain ⟨device, -, same⟩ := Option.map_eq_some_iff.mp added
    obtain ⟨rfl, -⟩ := Prod.mk.inj same
    exact ⟨_, _, _, _, _, rfl⟩

/-- The event of a removal names the device that was in the table. -/
theorem removeDevice_of_find? (service : CdmpNetworkService) {deviceId : UInt8}
    {device : CdmpDevice}
    (found : service.networkDevices.find? deviceId = some device) :
    (service.removeDevice deviceId).2 = [.deviceEvent .left (toDeviceInfo device)] := by
  simp [removeDevice, found]

theorem findDeviceIdByUid_eq_some {uid : UInt32} {deviceId : UInt8}
    (found : service.findDeviceIdByUid uid = some deviceId) :
    ∃ device, service.networkDevices.find? deviceId = some device ∧ device.uid = uid := by
  obtain ⟨device, isDevice, rfl⟩ := Option.map_eq_some_iff.mp found
  have member := mem_iterated.mp (List.mem_of_find?_eq_some isDevice)
  have own : device.uid = uid := by simpa using List.find?_some isDevice
  have contained : service.networkDevices.contains device.deviceId = true :=
    CdmpDeviceTable.contains_iff.mpr ⟨uid, own ▸ List.mem_map_of_mem member⟩
  obtain ⟨other, isOther⟩ := CdmpDeviceTable.contains_iff_find?.mp contained
  have same : other = device := List.inj_on_of_nodup_map service.networkDevices.nodup
    (CdmpDeviceTable.find?_eq_some isOther).1 member (CdmpDeviceTable.find?_eq_some isOther).2
  exact ⟨other, isOther, same ▸ own⟩

theorem findDeviceIdByUid_eq_none {uid : UInt32} (absent : service.findDeviceIdByUid uid = none) :
    uid ∉ service.entries.map (·.2) := by
  have none := Option.map_eq_none_iff.mp absent
  rw [List.find?_eq_none] at none
  simpa [entries, CdmpDeviceTable.entries, mem_iterated] using none

/-- The claim that waits for the first heartbeat from an ID and is not too old. -/
def waitingClaim (service : CdmpNetworkService) (deviceId : UInt8) (now : ℕ) :
    Option PendingIdClaim :=
  service.pendingIdClaims.find? fun claim =>
    claim.deviceId = deviceId ∧ (now : ℤ) - claim.claimedAtMs ≤ CdmpConstants.heartbeatTimeoutMs

/-- A device of the table claims the ID that it has in the table, under its own UID and for the
first time: the claim of a peer, in a protocol that this unit speaks, that does not wait already. -/
def IsRestart (service : CdmpNetworkService) (claim : CdmpIdClaimRequestMessage) (now : ℕ) : Prop :=
  service.isPeerDeviceId claim.claimingDeviceId = true ∧ claim.uid ≠ service.device.uid ∧
    service.device.isProtocolCompatible claim.protocolVersion = true ∧
    (∃ device ∈ service.networkDevices.find? claim.claimingDeviceId, device.uid = claim.uid) ∧
    ∀ waiting ∈ service.waitingClaim claim.claimingDeviceId now, waiting.uid ≠ claim.uid

instance (claim : CdmpIdClaimRequestMessage) (now : ℕ) : Decidable (service.IsRestart claim now) :=
  inferInstanceAs (Decidable (_ ∧ _ ∧ _ ∧ _ ∧ _))

theorem findPendingIdClaim_waiting (service : CdmpNetworkService) {deviceId : UInt8}
    (assigned : deviceId ≠ deviceIdUnassigned) (now : ℕ) :
    let found := service.findPendingIdClaim deviceId now
    found.2.bind (found.1.pendingIdClaims[·]?) = service.waitingClaim deviceId now := by
  intro found
  -- The search first frees the slots that are too old, so it finds young claims only.
  let expire (claim : PendingIdClaim) : PendingIdClaim :=
    if claim.deviceId ≠ deviceIdUnassigned ∧
        CdmpConstants.heartbeatTimeoutMs < (now : ℤ) - claim.claimedAtMs then {}
    else claim
  have young (claim : PendingIdClaim) : (expire claim).deviceId = deviceId ↔
      claim.deviceId = deviceId ∧
        (now : ℤ) - claim.claimedAtMs ≤ CdmpConstants.heartbeatTimeoutMs := by
    simp only [expire]
    split_ifs with old
    · refine iff_of_false assigned.symm fun waits => ?_
      exact absurd old.2 (Int.not_lt.mpr waits.2)
    · rw [not_and, Int.not_lt] at old
      exact ⟨fun own => ⟨own, old (own ▸ assigned)⟩, And.left⟩
  calc found.2.bind (found.1.pendingIdClaims[·]?)
    _ = (service.pendingIdClaims.map expire).find? (·.deviceId = deviceId) :=
      List.find?_eq_bind_findIdx?_getElem?.symm
    _ = (service.waitingClaim deviceId now).map expire := by
      rw [List.find?_map, waitingClaim]
      simp only [Function.comp_def, young]
    _ = service.waitingClaim deviceId now := by
      cases waiting : service.waitingClaim deviceId now with
      | none => rfl
      | some claim =>
        have isYoung : (now : ℤ) - claim.claimedAtMs ≤ CdmpConstants.heartbeatTimeoutMs := by
          have waits := List.find?_some waiting
          exact (of_decide_eq_true waits).2
        exact congrArg some (if_neg fun old => absurd old.2 (Int.not_lt.mpr isYoung))

/-- A claim reports a restart, removes the unit from the ID it had before, or only waits. -/
theorem recordIdClaim_cases (service : CdmpNetworkService) (claim : CdmpIdClaimRequestMessage)
    (now : ℕ) :
    let result := service.recordIdClaim claim now
    TableUpdate service result.1 ∧
      ((¬ service.IsRestart claim now ∧ result.2 = [] ∧ result.1.entries = service.entries) ∨
      (∃ device, service.IsRestart claim now ∧
        service.networkDevices.find? claim.claimingDeviceId = some device ∧
        result.2 = [.deviceEvent .restarted (toDeviceInfo device)] ∧
        result.1.entries = service.entries) ∨
      (∃ previous device, ¬ service.IsRestart claim now ∧
        service.networkDevices.find? previous = some device ∧
        result.2 = [.deviceEvent .left (toDeviceInfo device)] ∧
        result.1.entries = service.entries.filter (·.1 ≠ previous))) := by
  intro result
  simp only [result, recordIdClaim]
  split
  · rename_i ignored
    refine ⟨.refl service, Or.inl ⟨fun restart => ?_, rfl, rfl⟩⟩
    obtain ⟨peer, other, compatible, -, -⟩ := restart
    simp [peer, other, compatible] at ignored
  rename_i heeded
  simp only [Bool.or_eq_true, Bool.not_eq_true', decide_eq_true_eq, not_or, Bool.not_eq_false]
    at heeded
  obtain ⟨⟨peer, other⟩, compatible⟩ := heeded
  have assigned : claim.claimingDeviceId ≠ deviceIdUnassigned := by
    simp only [isPeerDeviceId, decide_eq_true_eq] at peer
    exact peer.1
  have waiting := service.findPendingIdClaim_waiting assigned now
  cases found : service.networkDevices.find? claim.claimingDeviceId with
  | some device =>
    dsimp only at waiting ⊢
    rw [waiting]
    split_ifs with foreign isRepeated
    · refine ⟨.refl service, Or.inl ⟨?_, rfl, rfl⟩⟩
      rintro ⟨-, -, -, ⟨owner, isOwner, own⟩, -⟩
      rw [found] at isOwner
      exact foreign (Option.some.inj isOwner ▸ own)
    -- The claim proves the device alive, which the entries do not show.
    all_goals
      refine ⟨⟨_, _, _, _, _, rfl⟩, ?_⟩
      have same : (service.networkDevices.update fun device =>
          if device.deviceId = claim.claimingDeviceId then device.updateHeartbeat (UInt64.ofNat now)
          else device).entries = service.entries :=
        CdmpDeviceTable.entries_update fun device => by split_ifs <;> rfl
    · refine Or.inl ⟨?_, rfl, same⟩
      rintro ⟨-, -, -, -, new⟩
      obtain ⟨waits, isWaiting, own⟩ := (Option.any_eq_true _ _).mp isRepeated
      exact new waits isWaiting (of_decide_eq_true own)
    · refine Or.inr (Or.inl ⟨device, ?_, rfl, rfl, same⟩)
      refine ⟨peer, other, compatible, ⟨device, found, not_not.mp foreign⟩, ?_⟩
      intro waits isWaiting own
      exact isRepeated ((Option.any_eq_true _ _).mpr ⟨waits, isWaiting, decide_eq_true own⟩)
  | none =>
    have unlisted : ¬ service.IsRestart claim now := by
      rintro ⟨-, -, -, ⟨device, isDevice, -⟩, -⟩
      rw [found] at isDevice
      cases isDevice
    dsimp only
    cases previous : service.findDeviceIdByUid claim.uid with
    | none => exact ⟨tableUpdate_storePendingIdClaim .., Or.inl ⟨unlisted, rfl, rfl⟩⟩
    | some previous =>
      dsimp only
      obtain ⟨device, isDevice, -⟩ := findDeviceIdByUid_eq_some previous
      refine ⟨(tableUpdate_storePendingIdClaim ..).trans (tableUpdate_removeDevice ..), ?_⟩
      refine Or.inr (Or.inr ⟨_, device, unlisted, isDevice, ?_, entries_removeDevice ..⟩)
      exact removeDevice_of_find? (service.storePendingIdClaim claim now) isDevice

theorem joinedEvent_of_contains {deviceId : UInt8}
    (known : service.networkDevices.contains deviceId = true) :
    ∃ info : CdmpDeviceInfo, info.deviceId = deviceId ∧
      service.joinedEvent deviceId = [.deviceEvent .joined info] := by
  obtain ⟨device, found⟩ := CdmpDeviceTable.contains_iff_find?.mp known
  exact ⟨toDeviceInfo device, (CdmpDeviceTable.find?_eq_some found).2, by simp [joinedEvent, found]⟩

theorem contains_of_append {deviceId : UInt8} {uid : UInt32} {entries : List (UInt8 × UInt32)}
    (added : service.entries = entries ++ [(deviceId, uid)]) :
    service.networkDevices.contains deviceId = true := by
  refine CdmpDeviceTable.contains_iff.mpr ⟨uid, ?_⟩
  change _ ∈ service.entries
  simp [added]

/-- A discovery response gives up the ID its UID had before. -/
theorem removePreviousDevice_cases (service : CdmpNetworkService)
    (discovery : CdmpDiscoveryResponseMessage) :
    let result := service.removePreviousDevice discovery
    TableUpdate service result.1 ∧
      ((result.2 = [] ∧ result.1.entries = service.entries ∧
        (service.networkDevices.contains discovery.deviceId = false →
          service.findDeviceIdByUid discovery.uid = none)) ∨
      (∃ previous device, previous ≠ discovery.deviceId ∧
        service.networkDevices.find? previous = some device ∧ device.uid = discovery.uid ∧
        result.2 = [.deviceEvent .left (toDeviceInfo device)] ∧
        result.1.entries = service.entries.filter (·.1 ≠ previous))) := by
  intro result
  simp only [result, removePreviousDevice]
  cases found : service.findDeviceIdByUid discovery.uid with
  | none => exact ⟨.refl service, Or.inl ⟨rfl, rfl, fun _ => rfl⟩⟩
  | some previous =>
    obtain ⟨device, isDevice, own⟩ := findDeviceIdByUid_eq_some found
    dsimp only
    split_ifs with other
    · exact ⟨tableUpdate_removeDevice .., Or.inr ⟨previous, device, other, isDevice, own,
        removeDevice_of_find? service isDevice, entries_removeDevice ..⟩⟩
    · refine ⟨.refl service, Or.inl ⟨rfl, rfl, fun absent => ?_⟩⟩
      rw [← not_not.mp other, CdmpDeviceTable.contains_iff_find?.mpr ⟨device, isDevice⟩] at absent
      cases absent

theorem contains_removePreviousDevice (service : CdmpNetworkService)
    (discovery : CdmpDiscoveryResponseMessage) :
    (service.removePreviousDevice discovery).1.networkDevices.contains discovery.deviceId =
      service.networkDevices.contains discovery.deviceId := by
  obtain ⟨-, ⟨-, same, -⟩ | ⟨previous, -, other, -, -, -, same⟩⟩ :=
    service.removePreviousDevice_cases discovery
  · rw [Bool.eq_iff_iff, CdmpDeviceTable.contains_iff, CdmpDeviceTable.contains_iff]
    change (∃ uid, _ ∈ (service.removePreviousDevice discovery).1.entries) ↔ _
    rw [same]
    rfl
  · rw [Bool.eq_iff_iff, CdmpDeviceTable.contains_iff, CdmpDeviceTable.contains_iff]
    change (∃ uid, _ ∈ (service.removePreviousDevice discovery).1.entries) ↔ _
    rw [same]
    simp [entries, other.symm]

/-- Then it adds its device unless the ID is known. -/
theorem updateDeviceFromDiscovery_cases (service : CdmpNetworkService)
    (discovery : CdmpDiscoveryResponseMessage) (now : ℕ) :
    let result := service.updateDeviceFromDiscovery discovery now
    let cleared := service.removePreviousDevice discovery
    result = (service, []) ∨ TableUpdate cleared.1 result.1 ∧
      ((result.2 = cleared.2 ∧ result.1.entries = cleared.1.entries) ∨
      (∃ info : CdmpDeviceInfo, info.deviceId = discovery.deviceId ∧
        service.networkDevices.contains discovery.deviceId = false ∧
        result.2 = cleared.2 ++ [.deviceEvent .joined info] ∧
        result.1.entries = cleared.1.entries ++ [(discovery.deviceId, discovery.uid)])) := by
  intro result cleared
  simp only [result, updateDeviceFromDiscovery]
  split
  · exact Or.inl rfl
  refine Or.inr ?_
  -- Completing the claim writes to the claims only.
  have completes (added : CdmpNetworkService) :
      TableUpdate added ((added.findPendingIdClaim discovery.deviceId now).2.elim
        (added.findPendingIdClaim discovery.deviceId now).1
        ((added.findPendingIdClaim discovery.deviceId now).1.writePendingIdClaim · {})) ∧
      ((added.findPendingIdClaim discovery.deviceId now).2.elim
        (added.findPendingIdClaim discovery.deviceId now).1
        ((added.findPendingIdClaim discovery.deviceId now).1.writePendingIdClaim · {})).entries =
          added.entries := by
    cases (added.findPendingIdClaim discovery.deviceId now).2 with
    | none => exact ⟨⟨_, _, _, _, _, rfl⟩, rfl⟩
    | some slot => exact ⟨⟨_, _, _, _, _, rfl⟩, rfl⟩
  obtain ⟨-, added, isAdded, entries⟩ | ⟨-, -, refused⟩ | ⟨absent, -, added, isAdded, entries⟩ :=
    cleared.1.addOrUpdateDevice_cases discovery.deviceId discovery.uid discovery.features now
  · simp only [cleared] at isAdded
    simp only [isAdded]
    refine ⟨(tableUpdate_addOrUpdateDevice isAdded).trans (completes added).1, Or.inl ⟨?_, ?_⟩⟩
    · simp [cleared]
    · exact (completes added).2.trans entries
  · simp only [cleared] at refused
    simp only [refused]
    exact ⟨.refl _, Or.inl ⟨rfl, rfl⟩⟩
  · obtain ⟨info, own, event⟩ := joinedEvent_of_contains (contains_of_append entries)
    simp only [cleared] at isAdded absent
    simp only [isAdded]
    refine ⟨(tableUpdate_addOrUpdateDevice isAdded).trans (completes added).1,
      Or.inr ⟨info, own, ?_, ?_, ?_⟩⟩
    · rw [← contains_removePreviousDevice]
      exact absent
    · simp [cleared, event]
    · exact (completes added).2.trans entries

/-- The claim on an ID that has not expired. -/
def pendingClaim (service : CdmpNetworkService) (deviceId : UInt8) (now : ℕ) :
    Option PendingIdClaim :=
  (service.expirePendingIdClaims now).pendingIdClaims.find? (·.deviceId = deviceId)

/-- The slot that is found holds the claim. -/
theorem bind_findPendingIdClaim (service : CdmpNetworkService) (deviceId : UInt8) (now : ℕ) :
    let found := service.findPendingIdClaim deviceId now
    (found.2.bind fun slot => (found.1.pendingIdClaims[slot]?).map (slot, ·)).map (·.2) =
      service.pendingClaim deviceId now := by
  simp only [findPendingIdClaim, pendingClaim]
  generalize (service.expirePendingIdClaims now).pendingIdClaims = claims
  induction claims with
  | nil => rfl
  | cons claim claims ih =>
    rw [List.findIdx?_cons, List.find?_cons]
    by_cases own : claim.deviceId = deviceId
    · simp [own]
    · simp only [own, decide_false, Bool.false_eq_true, if_false]
      rw [← ih]
      cases claims.findIdx? (·.deviceId = deviceId) <;> simp

/-- A heartbeat confirms a pending claim on an unknown ID, or leaves the entries as they are. -/
theorem updateDeviceFromHeartbeat_cases (service : CdmpNetworkService)
    (heartbeat : CdmpHeartbeatMessage) (now : ℕ) :
    let result := service.updateDeviceFromHeartbeat heartbeat now
    TableUpdate service result.1 ∧
      ((result.1.entries = service.entries ∧
        ((∀ effect ∈ result.2, ∃ request : CdmpDiscoveryRequestMessage,
            effect = .sendFrame request.toCanFrame) ∨
          result.2 = [.heartbeat heartbeat] ∧
            service.networkDevices.contains heartbeat.deviceId = true) ∧
        (service.isPeerDeviceId heartbeat.deviceId = true →
          service.networkDevices.contains heartbeat.deviceId = false →
            ∀ claim, service.pendingClaim heartbeat.deviceId now = some claim → claim.uid = 0)) ∨
      (service.isPeerDeviceId heartbeat.deviceId = true ∧
        service.networkDevices.contains heartbeat.deviceId = false ∧
        ∃ claim, service.pendingClaim heartbeat.deviceId now = some claim ∧
          ∃ info : CdmpDeviceInfo, info.deviceId = heartbeat.deviceId ∧
            result.2 = [.deviceEvent .joined info, .heartbeat heartbeat] ∧
            result.1.entries = service.entries ++ [(heartbeat.deviceId, claim.uid)])) := by
  intro result
  simp only [result, updateDeviceFromHeartbeat]
  split
  -- Own heartbeats and those without an ID are ignored.
  · rename_i notPeer
    refine ⟨.refl service, Or.inl ⟨rfl, Or.inl (by simp), fun peer => ?_⟩⟩
    simp [peer] at notPeer
  rename_i isPeer
  rw [Bool.not_eq_true', Bool.not_eq_false] at isPeer
  have claimed := service.bind_findPendingIdClaim heartbeat.deviceId now
  have expires := service.tableUpdate_findPendingIdClaim heartbeat.deviceId now
  have same : (service.findPendingIdClaim heartbeat.deviceId now).1.networkDevices =
      service.networkDevices := rfl
  dsimp only at claimed
  split
  · rename_i slot claim found
    rw [found, Option.map_some] at claimed
    -- The sender claimed its ID before: known already, refused for the UID 0, or added with the UID
    -- of the claim.
    obtain ⟨known, after, isAdded, entries⟩ | ⟨absent, zero, refused⟩ |
        ⟨absent, -, after, isAdded, entries⟩ :=
      (service.findPendingIdClaim heartbeat.deviceId now).1.addOrUpdateDevice_cases
        heartbeat.deviceId claim.uid heartbeat.features now
    · simp only [isAdded]
      refine ⟨(expires.trans (tableUpdate_addOrUpdateDevice isAdded)).trans ⟨_, _, _, _, _, rfl⟩,
        Or.inl ⟨entries, Or.inr ⟨rfl, known⟩, fun _ absent => ?_⟩⟩
      rw [same, absent] at known
      cases known
    · simp only [refused]
      refine ⟨expires, Or.inl ⟨rfl, Or.inl (by simp), fun _ _ other isOther => ?_⟩⟩
      rw [← claimed] at isOther
      obtain rfl := Option.some.inj isOther
      exact zero
    · simp only [isAdded]
      obtain ⟨info, own, event⟩ := joinedEvent_of_contains (contains_of_append entries)
      refine ⟨(expires.trans (tableUpdate_addOrUpdateDevice isAdded)).trans ⟨_, _, _, _, _, rfl⟩,
        Or.inr ⟨isPeer, absent, claim, claimed.symm, info, own, by simp [event], entries⟩⟩
  · rename_i found
    rw [found, Option.map_none] at claimed
    -- No claim is pending: an unknown sender is asked to introduce itself, a known one keeps the
    -- UID that it is listed with.
    have unclaimed (claim : PendingIdClaim)
        (isClaim : service.pendingClaim heartbeat.deviceId now = some claim) : claim.uid = 0 := by
      rw [← claimed] at isClaim
      cases isClaim
    split
    · simp only [requestRediscovery]
      split_ifs
      · exact ⟨expires, Or.inl ⟨rfl, Or.inl (by simp), fun _ _ => unclaimed⟩⟩
      · exact ⟨expires, Or.inl ⟨rfl, Or.inl (by simp), fun _ _ => unclaimed⟩⟩
      · refine ⟨⟨_, _, _, _, _, rfl⟩,
          Or.inl ⟨rfl, Or.inl fun effect sent => ?_, fun _ _ => unclaimed⟩⟩
        simp only [sendFrame] at sent
        split_ifs at sent
        · exact ⟨_, List.mem_singleton.mp sent⟩
        · cases sent
    · rename_i device isDevice
      have known : service.networkDevices.contains heartbeat.deviceId = true :=
        CdmpDeviceTable.contains_iff_find?.mpr ⟨device, isDevice⟩
      obtain ⟨-, after, isAdded, entries⟩ | ⟨absent, -⟩ | ⟨absent, -⟩ :=
        (service.findPendingIdClaim heartbeat.deviceId now).1.addOrUpdateDevice_cases
          heartbeat.deviceId device.uid heartbeat.features now
      · simp only [isAdded]
        exact ⟨expires.trans (tableUpdate_addOrUpdateDevice isAdded),
          Or.inl ⟨entries, Or.inr ⟨trivial, known⟩, fun _ _ => unclaimed⟩⟩
      · rw [same, known] at absent
        cases absent
      · rw [same, known] at absent
        cases absent

/-! ### The rest of the service -/

/-- The events about devices, with their IDs. -/
def deviceEvents (effects : List NetworkEffect) : List (CdmpDeviceEvent × UInt8) :=
  effects.filterMap fun
    | .deviceEvent event device => some (event, device.deviceId)
    | _ => none

/-- Nothing happens to the table, or it is emptied because the service stops. -/
def KeepsOrStops (service : CdmpNetworkService) (result : CdmpNetworkService × List NetworkEffect) :
    Prop :=
  deviceEvents result.2 = [] ∧
    (result.1.isRunning = service.isRunning ∧ result.1.entries = service.entries ∨
      service.isRunning = true ∧ result.1.isRunning = false ∧ result.1.entries = [])

theorem KeepsOrStops.congr {result : CdmpNetworkService × List NetworkEffect}
    (keeps : KeepsOrStops middle result) (running : middle.isRunning = service.isRunning)
    (entries : middle.entries = service.entries) : KeepsOrStops service result := by
  rw [KeepsOrStops, ← running, ← entries]
  exact keeps

theorem keepsOrStops_of_silent {result : CdmpNetworkService × List NetworkEffect}
    (running : result.1.isRunning = service.isRunning)
    (entries : result.1.entries = service.entries)
    (silent : deviceEvents result.2 = []) : KeepsOrStops service result :=
  ⟨silent, Or.inl ⟨running, entries⟩⟩

@[simp] theorem deviceEvents_sendFrame (service : CdmpNetworkService) (frame : List UInt8) :
    deviceEvents (service.sendFrame frame) = [] := by
  unfold sendFrame
  split_ifs <;> rfl

theorem keepsOrStops_stop (service : CdmpNetworkService) (effects : List NetworkEffect)
    (silent : deviceEvents effects = []) : KeepsOrStops service (service.stop, effects) := by
  unfold stop
  split_ifs with running
  · exact ⟨silent, Or.inr ⟨running, rfl, rfl⟩⟩
  · exact ⟨silent, Or.inl ⟨rfl, rfl⟩⟩

/-- A transition of this unit leaves the table alone or stops the service. -/
theorem keepsOrStops_transition (service : CdmpNetworkService)
    (move : CdmpDevice → CdmpDevice × Option CdmpStatusChange) :
    KeepsOrStops service (service.transition move) := by
  unfold transition
  split
  · exact keepsOrStops_of_silent rfl rfl rfl
  · rename_i device change moved
    have stopped := keepsOrStops_stop { service with device } [.statusChanged change] rfl
    cases status : change.newStatus with
    | init => exact keepsOrStops_of_silent rfl rfl rfl
    | claiming => exact keepsOrStops_of_silent rfl rfl rfl
    | offline => exact keepsOrStops_of_silent rfl rfl rfl
    | versionMismatch => exact stopped.congr rfl rfl
    | error => exact stopped.congr rfl rfl
    | online =>
      simp only [onDeviceStatusChanged, startValidationTask]
      split_ifs <;> exact keepsOrStops_of_silent rfl rfl rfl

/-- The search for an ID only drops claims that are too old. -/
theorem tableUpdate_firstAvailableId (service : CdmpNetworkService) (now : ℕ)
    (candidates : List UInt8) :
    TableUpdate service (service.firstAvailableId now candidates).1 ∧
      (service.firstAvailableId now candidates).1.entries = service.entries := by
  induction candidates generalizing service with
  | nil => exact ⟨.refl service, rfl⟩
  | cons id ids ih =>
    have expires := tableUpdate_findPendingIdClaim service id now
    unfold firstAvailableId
    split_ifs
    · exact ih service
    · split
      · rename_i found
        rw [found] at expires
        exact ⟨expires, by rw [← (Prod.mk.inj found).1]; rfl⟩
      · rename_i later slot found
        rw [found] at expires
        refine ⟨expires.trans (ih later).1, (ih later).2.trans ?_⟩
        rw [← (Prod.mk.inj found).1]
        rfl

theorem keepsOrStops_runDiscoveryAttempt (service : CdmpNetworkService) :
    KeepsOrStops service service.runDiscoveryAttempt := by
  unfold runDiscoveryAttempt
  dsimp only
  split
  · exact keepsOrStops_of_silent rfl rfl rfl
  split
  · exact (keepsOrStops_transition _ _).congr rfl rfl
  have waits : service.waitForLowerUid.isRunning = service.isRunning ∧
      service.waitForLowerUid.entries = service.entries := by
    unfold waitForLowerUid
    split <;> exact ⟨rfl, rfl⟩
  split
  · exact (keepsOrStops_transition _ _).congr waits.1 waits.2
  · exact keepsOrStops_of_silent waits.1 waits.2 (deviceEvents_sendFrame ..)

theorem keepsOrStops_completeIdClaim (service : CdmpNetworkService) :
    KeepsOrStops service service.completeIdClaim :=
  (keepsOrStops_transition _ _).congr rfl entries_updateNetworkDevices

theorem keepsOrStops_runIdClaimAttempt (service : CdmpNetworkService) (now : ℕ) :
    KeepsOrStops service (service.runIdClaimAttempt now) := by
  have completes := keepsOrStops_completeIdClaim { service with isIdClaimTaskScheduled := false }
  unfold runIdClaimAttempt
  dsimp only
  split
  · exact keepsOrStops_of_silent rfl rfl rfl
  split
  · exact keepsOrStops_of_silent rfl rfl rfl
  split
  · exact completes.congr rfl rfl
  split
  -- The search for a free ID expires claims and touches nothing else.
  · have search := tableUpdate_firstAvailableId service now
    unfold getLowestAvailableId
    generalize (List.map UInt8.ofNat _) = candidates
    obtain ⟨⟨_, _, _, _, _, update⟩, entries⟩ := search candidates
    split
    · rename_i found
      rw [found] at update entries
      have running := congrArg CdmpNetworkService.isRunning update
      exact keepsOrStops_of_silent running entries rfl
    · rename_i found
      rw [found] at update entries
      have running := congrArg CdmpNetworkService.isRunning update
      exact keepsOrStops_of_silent running entries rfl
  split
  · exact completes.congr rfl rfl
  · exact keepsOrStops_of_silent rfl rfl rfl

theorem entries_sublist_removeDevices (service : CdmpNetworkService) (deviceIds : List UInt8) :
    (service.removeDevices deviceIds).1.entries.Sublist service.entries := by
  induction deviceIds generalizing service with
  | nil => exact List.Sublist.refl _
  | cons deviceId deviceIds ih =>
    refine (ih (service.removeDevice deviceId).1).trans ?_
    rw [entries_removeDevice]
    exact List.filter_sublist

/-! ### UIDs -/

/-- No two entries hold the same UID. -/
def UidsDistinct (service : CdmpNetworkService) : Prop := (service.entries.map (·.2)).Nodup

theorem UidsDistinct.of_sublist (distinct : service.UidsDistinct)
    (fewer : after.entries.Sublist service.entries) : after.UidsDistinct :=
  List.Nodup.sublist (fewer.map _) distinct

theorem uidsDistinct_append_iff {deviceId : UInt8} {uid : UInt32} (distinct : service.UidsDistinct)
    (added : after.entries = service.entries ++ [(deviceId, uid)]) :
    after.UidsDistinct ↔ uid ∉ service.entries.map (·.2) := by
  have apart : (service.entries.map (·.2)).Nodup := distinct
  rw [UidsDistinct, added, List.map_append, List.nodup_append']
  simp [apart]

theorem uid_ne_zero_of_mem {uid : UInt32} (listed : uid ∈ service.entries.map (·.2)) : uid ≠ 0 := by
  simp only [entries, CdmpDeviceTable.entries, List.map_map, List.mem_map] at listed
  obtain ⟨device, -, rfl⟩ := listed
  exact device.uid_ne_zero

/-- The UID found under another ID is removed before the device is added. -/
theorem UidsDistinct.updateDeviceFromDiscovery (distinct : service.UidsDistinct)
    (discovery : CdmpDiscoveryResponseMessage) (now : ℕ) :
    (service.updateDeviceFromDiscovery discovery now).1.UidsDistinct := by
  obtain same | ⟨-, ⟨-, entries⟩ | ⟨-, -, absent, -, entries⟩⟩ :=
    service.updateDeviceFromDiscovery_cases discovery now
  · rw [same]
    exact distinct
  · refine distinct.of_sublist ?_
    rw [entries]
    obtain ⟨-, ⟨-, same, -⟩ | ⟨_, _, -, -, -, -, same⟩⟩ :=
      service.removePreviousDevice_cases discovery
    · rw [same]
    · rw [same]
      exact List.filter_sublist
  · obtain ⟨-, ⟨-, same, unlisted⟩ | ⟨previous, device, -, found, own, -, same⟩⟩ :=
      service.removePreviousDevice_cases discovery
    · rw [same] at entries
      exact (uidsDistinct_append_iff distinct entries).mpr
        (findDeviceIdByUid_eq_none (unlisted absent))
    · have cleared : (service.removePreviousDevice discovery).1.UidsDistinct := by
        refine distinct.of_sublist ?_
        rw [same]
        exact List.filter_sublist
      refine (uidsDistinct_append_iff cleared entries).mpr fun listed => ?_
      -- Only the removed entry held the UID.
      rw [same] at listed
      obtain ⟨entry, isEntry, uid⟩ := List.mem_map.mp listed
      obtain ⟨isListed, other⟩ := List.mem_filter.mp isEntry
      have removed : (previous, discovery.uid) ∈ service.entries := by
        obtain ⟨member, ownId⟩ := CdmpDeviceTable.find?_eq_some found
        exact List.mem_map.mpr ⟨device, member, Prod.ext ownId own⟩
      have one := List.inj_on_of_nodup_map distinct isListed removed uid
      rw [one] at other
      simp at other

/-- The claim that a heartbeat confirms has a UID the table does not list. -/
def ConfirmsFreeUid (service : CdmpNetworkService) : NetworkLabel → Prop
  | .heartbeat message now =>
    service.isPeerDeviceId message.deviceId = true →
      service.networkDevices.contains message.deviceId = false →
        ∀ claim, service.pendingClaim message.deviceId now = some claim →
          claim.uid ∉ service.entries.map (·.2)
  | _ => True

theorem UidsDistinct.of_keepsOrStops {result : CdmpNetworkService × List NetworkEffect}
    (distinct : service.UidsDistinct) (keeps : KeepsOrStops service result) :
    result.1.UidsDistinct := by
  rcases keeps.2 with ⟨-, same⟩ | ⟨-, -, empty⟩
  · exact distinct.of_sublist (same ▸ List.Sublist.refl _)
  · exact distinct.of_sublist (empty ▸ List.nil_sublist _)

theorem UidsDistinct.recordIdClaim (distinct : service.UidsDistinct)
    (claim : CdmpIdClaimRequestMessage) (now : ℕ) :
    (service.recordIdClaim claim now).1.UidsDistinct := by
  obtain ⟨-, ⟨-, -, same⟩ | ⟨_, -, -, -, same⟩ | ⟨_, _, -, -, -, same⟩⟩ :=
    service.recordIdClaim_cases claim now
  · exact distinct.of_sublist (same ▸ List.Sublist.refl _)
  · exact distinct.of_sublist (same ▸ List.Sublist.refl _)
  · refine distinct.of_sublist ?_
    rw [same]
    exact List.filter_sublist

theorem UidsDistinct.processMessage (distinct : service.UidsDistinct)
    (message : CdmpManagementMessage) (now : ℕ) :
    (service.processMessage message now).1.UidsDistinct := by
  cases message with
  | discoveryRequest message => exact distinct
  | discoveryResponse message =>
    simp only [CdmpNetworkService.processMessage, processDiscoveryResponse]
    split
    · exact distinct.of_keepsOrStops ((keepsOrStops_transition _ _).congr rfl rfl)
    · have marked : UidsDistinct { service with discoveryResponseReceived := true } := distinct
      exact marked.updateDeviceFromDiscovery message now
  | idClaim claim =>
    have recorded := distinct.recordIdClaim claim now
    simp only [CdmpNetworkService.processMessage, processIdClaimRequest]
    split
    · exact recorded
    split
    · exact recorded
    · exact recorded
  | idClaimResponse response =>
    simp only [CdmpNetworkService.processMessage, processIdClaimResponse]
    split_ifs <;> exact distinct

theorem uidsDistinct_step_iff (distinct : service.UidsDistinct) (label : NetworkLabel) :
    (service.step label).1.UidsDistinct ↔ service.ConfirmsFreeUid label := by
  -- Only a heartbeat that completes a claim adds a device; every other step keeps the table or
  -- takes entries out of it.
  cases label with
  | heartbeat message now =>
    obtain ⟨-, ⟨same, -, zero⟩ | ⟨peer, absent, claim, found, -, -, -, entries⟩⟩ :=
      service.updateDeviceFromHeartbeat_cases message now
    · refine iff_of_true (distinct.of_sublist (same ▸ List.Sublist.refl _)) ?_
      intro peer absent claim found listed
      exact uid_ne_zero_of_mem listed (zero peer absent claim found)
    · refine (uidsDistinct_append_iff distinct entries).trans ?_
      simp [ConfirmsFreeUid, peer, absent, found]
  | work work now =>
    refine iff_of_true ?_ trivial
    cases work with
    | processMessage message => exact distinct.processMessage message now
    | startInitialization => exact distinct
    | startIdClaim => exact distinct
    | sendDiscoveryResponse => exact distinct
    | enterVersionMismatch => exact distinct.of_keepsOrStops (keepsOrStops_transition _ _)
    | enterError => exact distinct.of_keepsOrStops (keepsOrStops_transition _ _)
  | discoveryTask =>
    refine iff_of_true ?_ trivial
    simp only [step]
    split
    · exact distinct.of_keepsOrStops (keepsOrStops_runDiscoveryAttempt _)
    · exact distinct
  | idClaimTask now =>
    refine iff_of_true ?_ trivial
    simp only [step]
    split
    · exact distinct.of_keepsOrStops (keepsOrStops_runIdClaimAttempt _ _)
    · exact distinct
  | validationTask now =>
    refine iff_of_true (distinct.of_sublist ?_) trivial
    simp only [step, processPeriodicValidation]
    split
    · simp only [processPeriodicTasks, removeOfflineDevices, entries_updateNetworkDevices]
      exact entries_sublist_removeDevices ..
    · exact List.Sublist.refl _
  | start =>
    refine iff_of_true ?_ trivial
    simp only [step, start]
    split
    · exact distinct
    · simp only [startValidationTask]
      split <;> exact List.nodup_nil
  | stop =>
    exact iff_of_true (distinct.of_keepsOrStops (keepsOrStops_stop _ [] rfl)) trivial
  | startDiscovery =>
    exact iff_of_true (distinct.of_keepsOrStops (keepsOrStops_transition _ _)) trivial
  | reset => exact iff_of_true (distinct.of_keepsOrStops (keepsOrStops_transition _ _)) trivial
  | canbus isValid => exact iff_of_true distinct trivial
  | iterate order => exact iff_of_true distinct trivial

/-- A service that was never started. -/
def initial (device : CdmpDevice) : CdmpNetworkService where
  device := device

/-- The table holds every UID once in every state of exactly the runs whose heartbeats confirm
claims of unlisted UIDs only. -/
theorem uidsDistinct_iff (device : CdmpDevice) (labels : List NetworkLabel) :
    Always (fun service label => (step service label).1) UidsDistinct (initial device) labels ↔
      Along (fun service label => (step service label).1) ConfirmsFreeUid (initial device)
        labels := by
  have start : (initial device).UidsDistinct := List.nodup_nil
  exact always_iff_along (I := fun _ => True) trivial start (fun _ _ _ _ _ => trivial)
    (fun _ label _ distinct => uidsDistinct_step_iff distinct label)

/-- A unit claims ID 5, is heard of under ID 7, and then somebody sends a heartbeat as 5. -/
def movedClaimant : List NetworkLabel :=
  let claim : CdmpIdClaimRequestMessage :=
    { claimingDeviceId := 5, uid := 0xA, protocolVersion := 0x10 }
  let response : CdmpDiscoveryResponseMessage := { deviceId := 7, uid := 0xA, features := 0 }
  let heartbeat : CdmpHeartbeatMessage :=
    { deviceId := 5, healthStatus := .ok, sequenceNumber := 0, features := 0, stateDigest := 0 }
  [.start, .startDiscovery, .work (.processMessage (.idClaim claim)) 0,
    .work (.processMessage (.discoveryResponse response)) 100, .heartbeat heartbeat 200]

theorem not_uidsDistinct_movedClaimant :
    ¬ Always (fun service label => (step service label).1) UidsDistinct
        (initial { uid := 1, uid_ne_zero := by decide, features := 0, lastHeartbeat := 0 })
        movedClaimant := by
  intro always
  have uids : ((run (fun service label => (step service label).1)
      (initial { uid := 1, uid_ne_zero := by decide, features := 0, lastHeartbeat := 0 })
      movedClaimant).entries.map (·.2)) = [0xA, 0xA] := by decide +kernel
  have distinct := always.last
  rw [UidsDistinct, uids] at distinct
  exact absurd distinct (by decide)

end CdmpNetworkService

end RtCore.Cdmp
