import RtCore.Foundation.Run
import RtCore.Cdmp.DeviceTable

/-!
# What a discovery response settles

A discovery response names a device ID with its UID and features. The table drops the UID from
the ID it was known under, adds or updates the entry of the named ID, and ends the claim that
waits on it. The update of a known ID writes its features and leaves its UID alone.

## Main definitions

* `OneClaimPerId` — no two slots hold claims on the same ID
* `Settles` — the table and the claims say what the response says
* `AgreesWith` — the table holds nothing that the response leaves standing against it
* `AgreesInEveryOrder` — in whatever order the map of devices is iterated

## Main results

* `oneClaimPerId_run` — claims are on distinct IDs in every state of a run
* `agreesInEveryOrder_iff` — the order decides only where two IDs hold the UID
* `settles_iff` — a response settles its identity exactly when the table agrees with it before
-/

namespace RtCore.Cdmp

open RtCore.Foundation

namespace CdmpDeviceTable

variable {table : CdmpDeviceTable} {deviceId : UInt8}

theorem find?_update (f : CdmpDevice → CdmpDevice) :
    (table.update f).find? deviceId =
      (table.find? deviceId).map fun device => { f device with deviceId := device.deviceId } := by
  rw [find?, update, List.find?_map]
  rfl

theorem find?_insert {device : CdmpDevice} (absent : table.contains device.deviceId = false) :
    (table.insert device).find? device.deviceId = some device := by
  have new : device.deviceId ∉ table.devices.map (·.deviceId) := by
    simpa [contains] using absent
  have unknown : table.devices.find? (·.deviceId = device.deviceId) = none := by
    simpa [contains] using absent
  rw [find?, insert, dif_neg new, List.find?_append, unknown]
  simp

/-- The UID found under an ID is the one of its only entry. -/
theorem mem_entries_iff {uid : UInt32} :
    (deviceId, uid) ∈ table.entries ↔
      ∃ device, table.find? deviceId = some device ∧ device.uid = uid := by
  constructor
  · intro listed
    obtain ⟨device, isFound⟩ := contains_iff_find?.mp (contains_iff.mpr ⟨uid, listed⟩)
    obtain ⟨member, own⟩ := find?_eq_some isFound
    obtain ⟨other, isOther, same⟩ := List.mem_map.mp listed
    obtain ⟨rfl, rfl⟩ := Prod.mk.inj same
    obtain rfl := List.inj_on_of_nodup_map table.nodup member isOther own
    exact ⟨device, isFound, rfl⟩
  · rintro ⟨device, isFound, rfl⟩
    obtain ⟨member, rfl⟩ := find?_eq_some isFound
    exact List.mem_map.mpr ⟨device, member, rfl⟩

end CdmpDeviceTable

/-! ### Pending claims -/

/-- No two slots hold claims on the same ID. -/
def OneClaimPerId (claims : List PendingIdClaim) : Prop :=
  ∀ (i j : ℕ) (a b : PendingIdClaim), claims[i]? = some a → claims[j]? = some b →
    a.deviceId = b.deviceId → a.deviceId ≠ deviceIdUnassigned → i = j

namespace OneClaimPerId

variable {claims : List PendingIdClaim}

theorem free (slots : ℕ) : OneClaimPerId (List.replicate slots {}) := by
  intro i j a b isA _ _ claimed
  have isFree : a = {} := List.eq_of_mem_replicate (List.mem_of_getElem? isA)
  rw [isFree] at claimed
  exact absurd rfl claimed

/-- Freeing slots leaves the rest on distinct IDs. -/
theorem map (one : OneClaimPerId claims) {f : PendingIdClaim → PendingIdClaim}
    (frees : ∀ claim, f claim = claim ∨ f claim = {}) : OneClaimPerId (claims.map f) := by
  intro i j a b isA isB same claimed
  obtain ⟨a, atI, rfl⟩ := Option.map_eq_some_iff.mp (List.getElem?_map ▸ isA)
  obtain ⟨b, atJ, rfl⟩ := Option.map_eq_some_iff.mp (List.getElem?_map ▸ isB)
  rcases frees a with keptA | freedA
  · rcases frees b with keptB | freedB
    · rw [keptA, keptB] at same
      rw [keptA] at claimed
      exact one i j a b atI atJ same claimed
    · rw [same, freedB] at claimed
      exact absurd rfl claimed
  · rw [freedA] at claimed
    exact absurd rfl claimed

theorem set (one : OneClaimPerId claims) {slot : ℕ} {claim : PendingIdClaim}
    (apart : claim.deviceId ≠ deviceIdUnassigned → ∀ i other, i ≠ slot →
      claims[i]? = some other → other.deviceId ≠ claim.deviceId) :
    OneClaimPerId (claims.set slot claim) := by
  intro i j a b isA isB same claimed
  rw [List.getElem?_set] at isA isB
  by_cases atI : slot = i
  · by_cases atJ : slot = j
    · exact atI.symm.trans atJ
    · rw [if_pos atI] at isA
      rw [if_neg atJ] at isB
      split_ifs at isA
      obtain rfl := Option.some.inj isA
      exact absurd same.symm (apart claimed j b (Ne.symm atJ) isB)
  · rw [if_neg atI] at isA
    by_cases atJ : slot = j
    · rw [if_pos atJ] at isB
      split_ifs at isB
      obtain rfl := Option.some.inj isB
      exact absurd same (apart (same ▸ claimed) i a (Ne.symm atI) isA)
    · rw [if_neg atJ] at isB
      exact one i j a b isA isB same claimed

theorem free_slot (one : OneClaimPerId claims) (slot : ℕ) : OneClaimPerId (claims.set slot {}) :=
  one.set fun claimed => absurd rfl claimed

end OneClaimPerId

namespace CdmpNetworkService

variable {service after : CdmpNetworkService}

theorem oneClaimPerId_expirePendingIdClaims (one : OneClaimPerId service.pendingIdClaims)
    (now : ℕ) : OneClaimPerId (service.expirePendingIdClaims now).pendingIdClaims := by
  refine one.map fun claim => ?_
  split_ifs
  · exact Or.inr rfl
  · exact Or.inl rfl

/-- A claim replaces the one on its own ID, and is stored elsewhere only where there is none. -/
theorem oneClaimPerId_storePendingIdClaim (one : OneClaimPerId service.pendingIdClaims)
    (claim : CdmpIdClaimRequestMessage) (now : ℕ) :
    OneClaimPerId (service.storePendingIdClaim claim now).pendingIdClaims := by
  let moved : CdmpNetworkService :=
    { service with
      pendingIdClaims := service.pendingIdClaims.map fun pending =>
        if pending.uid = claim.uid ∧ pending.deviceId ≠ claim.claimingDeviceId then {}
        else pending }
  have dropped : OneClaimPerId moved.pendingIdClaims := by
    refine one.map fun pending => ?_
    split_ifs
    · exact Or.inr rfl
    · exact Or.inl rfl
  have current := oneClaimPerId_expirePendingIdClaims dropped now
  let claims := (moved.expirePendingIdClaims now).pendingIdClaims
  change OneClaimPerId (claims.set
    ((claims.findIdx? (·.deviceId = claim.claimingDeviceId)).getD _) _)
  -- The slot of the ID is written if there is one, so no second slot can hold it.
  apply current.set
  intro claimed i other elsewhere isOther onSame
  cases own : claims.findIdx? (·.deviceId = claim.claimingDeviceId) with
  | none =>
    rw [List.findIdx?_eq_none_iff] at own
    simpa [onSame] using own other (List.mem_of_getElem? isOther)
  | some slot =>
    rw [own, Option.getD_some] at elsewhere
    obtain ⟨inRange, onClaimed, -⟩ := List.findIdx?_eq_some_iff_getElem.mp own
    have sameId : other.deviceId = claims[slot].deviceId := by
      rw [onSame]
      exact (of_decide_eq_true onClaimed).symm
    exact elsewhere (current i slot other claims[slot] isOther
      (List.getElem?_eq_getElem inRange) sameId (onSame ▸ claimed))

@[simp] theorem pendingIdClaims_removeDevice (deviceId : UInt8) :
    (service.removeDevice deviceId).1.pendingIdClaims = service.pendingIdClaims := by
  unfold removeDevice
  split <;> rfl

theorem pendingIdClaims_addOrUpdateDevice {deviceId : UInt8} {uid : UInt32} {features : UInt16}
    {now : ℕ} {isAdded : Bool}
    (added : service.addOrUpdateDevice deviceId uid features now = some (after, isAdded)) :
    after.pendingIdClaims = service.pendingIdClaims := by
  unfold addOrUpdateDevice at added
  split_ifs at added
  · obtain ⟨rfl, -⟩ := Prod.mk.inj (Option.some.inj added)
    rfl
  · obtain ⟨device, -, same⟩ := Option.map_eq_some_iff.mp added
    obtain ⟨rfl, -⟩ := Prod.mk.inj same
    rfl

@[simp] theorem pendingIdClaims_removePreviousDevice (discovery : CdmpDiscoveryResponseMessage) :
    (service.removePreviousDevice discovery).1.pendingIdClaims = service.pendingIdClaims := by
  unfold removePreviousDevice
  split
  · split_ifs
    · exact pendingIdClaims_removeDevice _
    · rfl
  · rfl

/-! ### Claims over runs -/

theorem oneClaimPerId_stop (one : OneClaimPerId service.pendingIdClaims) :
    OneClaimPerId service.stop.pendingIdClaims := by
  unfold stop
  split_ifs
  · exact OneClaimPerId.free _
  · exact one

/-- A transition of this unit frees all slots where it stops the service. -/
theorem oneClaimPerId_transition (one : OneClaimPerId service.pendingIdClaims)
    (move : CdmpDevice → CdmpDevice × Option CdmpStatusChange) :
    OneClaimPerId (service.transition move).1.pendingIdClaims := by
  unfold transition
  split
  · exact one
  · rename_i device change moved
    have stopped : OneClaimPerId { service with device }.stop.pendingIdClaims := by
      apply oneClaimPerId_stop
      exact one
    cases status : change.newStatus with
    | init => exact one
    | claiming => exact one
    | offline => exact one
    | versionMismatch => exact stopped
    | error => exact stopped
    | online =>
      simp only [onDeviceStatusChanged, startValidationTask]
      split_ifs <;> exact one

theorem oneClaimPerId_recordIdClaim (one : OneClaimPerId service.pendingIdClaims)
    (claim : CdmpIdClaimRequestMessage) (now : ℕ) :
    OneClaimPerId (service.recordIdClaim claim now).1.pendingIdClaims := by
  unfold recordIdClaim
  dsimp only
  split
  · exact one
  split
  · split
    · exact one
    · exact oneClaimPerId_storePendingIdClaim (oneClaimPerId_expirePendingIdClaims one now) _ _
  · split
    · rw [pendingIdClaims_removeDevice]
      exact oneClaimPerId_storePendingIdClaim one claim now
    · exact oneClaimPerId_storePendingIdClaim one claim now

theorem oneClaimPerId_updateDeviceFromDiscovery (one : OneClaimPerId service.pendingIdClaims)
    (discovery : CdmpDiscoveryResponseMessage) (now : ℕ) :
    OneClaimPerId (service.updateDeviceFromDiscovery discovery now).1.pendingIdClaims := by
  have cleared : OneClaimPerId (service.removePreviousDevice discovery).1.pendingIdClaims := by
    rw [pendingIdClaims_removePreviousDevice]
    exact one
  unfold updateDeviceFromDiscovery
  split
  · exact one
  dsimp only
  split
  · exact cleared
  · rename_i added isAdded isUpdated
    have current : OneClaimPerId
        (added.findPendingIdClaim discovery.deviceId now).1.pendingIdClaims := by
      apply oneClaimPerId_expirePendingIdClaims
      rw [pendingIdClaims_addOrUpdateDevice isUpdated]
      exact cleared
    cases (added.findPendingIdClaim discovery.deviceId now).2 with
    | none => exact current
    | some slot => exact current.free_slot slot

theorem oneClaimPerId_processMessage (one : OneClaimPerId service.pendingIdClaims)
    (message : CdmpManagementMessage) (now : ℕ) :
    OneClaimPerId (service.processMessage message now).1.pendingIdClaims := by
  cases message with
  | discoveryRequest message => exact one
  | discoveryResponse message =>
    simp only [processMessage, processDiscoveryResponse]
    split
    · apply oneClaimPerId_transition
      exact one
    · apply oneClaimPerId_updateDeviceFromDiscovery
      exact one
  | idClaim claim =>
    have recorded := oneClaimPerId_recordIdClaim one claim now
    simp only [processMessage, processIdClaimRequest]
    split
    · exact recorded
    split
    · exact recorded
    · exact recorded
  | idClaimResponse response =>
    simp only [processMessage, processIdClaimResponse]
    split_ifs <;> exact one

theorem oneClaimPerId_updateDeviceFromHeartbeat (one : OneClaimPerId service.pendingIdClaims)
    (heartbeat : CdmpHeartbeatMessage) (now : ℕ) :
    OneClaimPerId (service.updateDeviceFromHeartbeat heartbeat now).1.pendingIdClaims := by
  have current := oneClaimPerId_expirePendingIdClaims one now
  unfold updateDeviceFromHeartbeat
  dsimp only
  split
  · exact one
  split
  · split
    · exact current
    · rename_i isUpdated
      apply OneClaimPerId.free_slot
      rw [pendingIdClaims_addOrUpdateDevice isUpdated]
      exact current
  · split
    · simp only [requestRediscovery]
      split_ifs <;> exact current
    · split
      · exact current
      · rename_i isUpdated
        rw [pendingIdClaims_addOrUpdateDevice isUpdated]
        exact current

theorem oneClaimPerId_firstAvailableId (now : ℕ) (candidates : List UInt8)
    (one : OneClaimPerId service.pendingIdClaims) :
    OneClaimPerId (service.firstAvailableId now candidates).1.pendingIdClaims := by
  induction candidates generalizing service with
  | nil => exact one
  | cons id ids ih =>
    have current := oneClaimPerId_expirePendingIdClaims one now
    unfold firstAvailableId
    split_ifs
    · exact ih one
    · split
      · rename_i found
        rw [← (Prod.mk.inj found).1]
        exact current
      · rename_i found
        apply ih
        rw [← (Prod.mk.inj found).1]
        exact current

theorem oneClaimPerId_runIdClaimAttempt (one : OneClaimPerId service.pendingIdClaims) (now : ℕ) :
    OneClaimPerId (service.runIdClaimAttempt now).1.pendingIdClaims := by
  have completes : OneClaimPerId
      { service with isIdClaimTaskScheduled := false }.completeIdClaim.1.pendingIdClaims := by
    apply oneClaimPerId_transition
    exact one
  unfold runIdClaimAttempt
  dsimp only
  split
  · exact one
  split
  · exact one
  split
  · exact completes
  split
  · have search := oneClaimPerId_firstAvailableId now
      (((List.range deviceIdBroadcast.toNat).drop (service.claimingDeviceId + 1).toNat).map
        UInt8.ofNat) one
    unfold getLowestAvailableId
    split
    · rename_i found
      rw [found] at search
      exact search
    · rename_i found
      rw [found] at search
      exact search
  split
  · exact completes
  · exact one

theorem pendingIdClaims_removeDevices (service : CdmpNetworkService) (deviceIds : List UInt8) :
    (service.removeDevices deviceIds).1.pendingIdClaims = service.pendingIdClaims := by
  induction deviceIds generalizing service with
  | nil => rfl
  | cons deviceId deviceIds ih =>
    exact (ih _).trans (pendingIdClaims_removeDevice deviceId)

theorem oneClaimPerId_step (one : OneClaimPerId service.pendingIdClaims) (label : NetworkLabel) :
    OneClaimPerId (service.step label).1.pendingIdClaims := by
  -- Claims are entered by messages and by the own claim task; a start frees every slot.
  cases label with
  | heartbeat message now => exact oneClaimPerId_updateDeviceFromHeartbeat one message now
  | work work now =>
    cases work with
    | processMessage message => exact oneClaimPerId_processMessage one message now
    | startInitialization => exact one
    | startIdClaim => exact one
    | sendDiscoveryResponse => exact one
    | enterVersionMismatch => exact oneClaimPerId_transition one _
    | enterError => exact oneClaimPerId_transition one _
  | discoveryTask =>
    simp only [step, runDiscoveryAttempt]
    split
    · have waits : OneClaimPerId service.waitForLowerUid.pendingIdClaims := by
        unfold waitForLowerUid
        split_ifs <;> exact one
      split
      · exact one
      split
      · apply oneClaimPerId_transition
        exact one
      split
      · apply oneClaimPerId_transition
        exact waits
      · exact waits
    · exact one
  | idClaimTask now =>
    simp only [step]
    split
    · exact oneClaimPerId_runIdClaimAttempt one now
    · exact one
  | validationTask now =>
    simp only [step, processPeriodicValidation]
    split
    · change OneClaimPerId (service.removeDevices _).1.pendingIdClaims
      rw [pendingIdClaims_removeDevices]
      exact one
    · exact one
  | start =>
    simp only [step, start, startValidationTask]
    split
    · exact one
    · split_ifs <;> exact OneClaimPerId.free _
  | stop => exact oneClaimPerId_stop one
  | startDiscovery => exact oneClaimPerId_transition one _
  | reset => exact oneClaimPerId_transition one _
  | canbus isValid => exact one
  | iterate order => exact one

/-- Claims are on distinct IDs in every state of a run. -/
theorem oneClaimPerId_run (device : CdmpDevice) (labels : List NetworkLabel) :
    OneClaimPerId (run (fun service label => (step service label).1) (initial device)
      labels).pendingIdClaims :=
  run_invariant (I := fun service : CdmpNetworkService => OneClaimPerId service.pendingIdClaims)
    (OneClaimPerId.free _) (fun _ label one => oneClaimPerId_step one label) labels

/-! ### The response -/

/-- What a response should leave behind: its ID with its UID and features, the UID under no other
ID, and no claim on the ID. -/
structure Settles (service : CdmpNetworkService) (discovery : CdmpDiscoveryResponseMessage) :
    Prop where
  identity : (service.networkDevices.find? discovery.deviceId).map
    (fun device => (device.uid, device.features)) = some (discovery.uid, discovery.features)
  only : ∀ other, other ≠ discovery.deviceId → (other, discovery.uid) ∉ service.entries
  unclaimed : ∀ claim ∈ service.pendingIdClaims, claim.deviceId ≠ discovery.deviceId

/-- The ID is not known under another UID, and the UID under no other ID than the first that the
iteration over the map meets. -/
structure AgreesWith (service : CdmpNetworkService) (discovery : CdmpDiscoveryResponseMessage) :
    Prop where
  owner : ∀ device, service.networkDevices.find? discovery.deviceId = some device →
    device.uid = discovery.uid
  previous : ∀ other, other ≠ discovery.deviceId → (other, discovery.uid) ∈ service.entries →
    service.findDeviceIdByUid discovery.uid = some other

/-- The ID is not known under another UID, and the UID not under two IDs. -/
structure AgreesInEveryOrder (service : CdmpNetworkService)
    (discovery : CdmpDiscoveryResponseMessage) : Prop where
  owner : ∀ device, service.networkDevices.find? discovery.deviceId = some device →
    device.uid = discovery.uid
  once : ∀ first second, (first, discovery.uid) ∈ service.entries →
    (second, discovery.uid) ∈ service.entries → first = second

/-- An iteration that meets the ID first finds the UID there. -/
theorem findDeviceIdByUid_iterate {deviceId : UInt8} {uid : UInt32}
    (listed : (deviceId, uid) ∈ service.entries) :
    (service.iterate [deviceId]).findDeviceIdByUid uid = some deviceId := by
  obtain ⟨device, found, own⟩ := CdmpDeviceTable.mem_entries_iff.mp listed
  obtain ⟨-, onId⟩ := CdmpDeviceTable.find?_eq_some found
  have first : (service.iterate [deviceId]).iterated =
      device :: service.networkDevices.devices.filter (·.deviceId ∉ [deviceId]) := by
    simp [iterated, iterate, CdmpDeviceTable.inOrder, found]
  rw [findDeviceIdByUid, first, List.find?_cons_of_pos (by simpa using own), Option.map_some, onId]

/-- The order of the iteration decides nothing unless two IDs hold the UID; then an order that
meets the wrong one first leaves the other in the table. -/
theorem agreesInEveryOrder_iff {discovery : CdmpDiscoveryResponseMessage} :
    service.AgreesInEveryOrder discovery ↔
      ∀ order, (service.iterate order).AgreesWith discovery := by
  constructor
  · rintro ⟨owner, once⟩ order
    refine ⟨owner, fun other elsewhere listed => ?_⟩
    cases found : (service.iterate order).findDeviceIdByUid discovery.uid with
    | none => exact absurd (List.mem_map_of_mem listed) (findDeviceIdByUid_eq_none found)
    | some first =>
      obtain ⟨device, isDevice, own⟩ := findDeviceIdByUid_eq_some found
      have isListed : (first, discovery.uid) ∈ service.entries :=
        CdmpDeviceTable.mem_entries_iff.mpr ⟨device, isDevice, own⟩
      rw [once first other isListed listed]
  · intro agrees
    -- The UID's ID other than the one that answers is the one found, also where another is first.
    have only (other other' : UInt8) (listed : (other, discovery.uid) ∈ service.entries)
        (listed' : (other', discovery.uid) ∈ service.entries)
        (elsewhere : other ≠ discovery.deviceId) : other = other' := by
      have found := (agrees [other']).previous other elsewhere listed
      rw [findDeviceIdByUid_iterate listed'] at found
      exact (Option.some.inj found).symm
    refine ⟨(agrees []).owner, fun first second listed listed' => ?_⟩
    by_cases answers : first = discovery.deviceId
    · by_cases answers' : second = discovery.deviceId
      · exact answers.trans answers'.symm
      · exact (only second first listed' listed answers').symm
    · exact only first second listed listed' answers

theorem mem_entries_removePreviousDevice {discovery : CdmpDiscoveryResponseMessage}
    {deviceId : UInt8} {uid : UInt32} :
    (deviceId, uid) ∈ (service.removePreviousDevice discovery).1.entries ↔
      (deviceId, uid) ∈ service.entries ∧
        (deviceId ≠ discovery.deviceId →
          service.findDeviceIdByUid discovery.uid ≠ some deviceId) := by
  unfold removePreviousDevice
  cases found : service.findDeviceIdByUid discovery.uid with
  | none => simp
  | some previous =>
    dsimp only
    split_ifs with other
    · rw [entries_removeDevice, List.mem_filter]
      refine and_congr_right fun _ => ?_
      rw [decide_eq_true_eq]
      constructor
      · intro kept _ same
        exact kept (Option.some.inj same).symm
      · rintro kept rfl
        exact kept other rfl
    · simp only [ne_eq, not_not] at other
      refine (and_iff_left fun elsewhere same => ?_).symm
      exact elsewhere (Option.some.inj same ▸ other)

theorem features_updateNetworkDevices (deviceId : UInt8) :
    (service.updateNetworkDevices.networkDevices.find? deviceId).map (·.features) =
      (service.networkDevices.find? deviceId).map (·.features) := by
  unfold updateNetworkDevices updateStaggeredMessageDelay updateLowestIdOnNetwork
  dsimp only
  rw [CdmpDeviceTable.find?_update, CdmpDeviceTable.find?_update, Option.map_map, Option.map_map]
  rfl

/-- The entry of the ID has the features it was given, whether it is new or not. -/
theorem features_addOrUpdateDevice {deviceId : UInt8} {uid : UInt32} {features : UInt16} {now : ℕ}
    {isAdded : Bool}
    (added : service.addOrUpdateDevice deviceId uid features now = some (after, isAdded)) :
    (after.networkDevices.find? deviceId).map (·.features) = some features := by
  unfold addOrUpdateDevice at added
  split_ifs at added with known
  · obtain ⟨rfl, -⟩ := Prod.mk.inj (Option.some.inj added)
    obtain ⟨device, found⟩ := CdmpDeviceTable.contains_iff_find?.mp known
    rw [CdmpDeviceTable.find?_update, found, Option.map_some, Option.map_some]
    dsimp only
    rw [if_pos (CdmpDeviceTable.find?_eq_some found).2]
  · obtain ⟨created, isCreated, same⟩ := Option.map_eq_some_iff.mp added
    obtain ⟨rfl, -⟩ := Prod.mk.inj same
    have hasFeatures : created.features = features := by
      unfold CdmpDevice.create? at isCreated
      by_cases nonzero : uid ≠ 0
      · rw [dif_pos nonzero] at isCreated
        rw [← Option.some.inj isCreated]
      · rw [dif_neg nonzero] at isCreated
        cases isCreated
    rw [features_updateNetworkDevices]
    have found : (service.networkDevices.insert { created with deviceId }).find? deviceId =
        some { created with deviceId } :=
      CdmpDeviceTable.find?_insert (Bool.eq_false_iff.mpr known)
    rw [found, Option.map_some, hasFeatures]

/-- The table is what the update makes of the cleared one, and the claim on the ID is over. -/
theorem updateDeviceFromDiscovery_table (one : OneClaimPerId service.pendingIdClaims)
    {discovery : CdmpDiscoveryResponseMessage}
    (peer : service.isPeerDeviceId discovery.deviceId = true) (nonzero : discovery.uid ≠ 0)
    (now : ℕ) :
    let result := (service.updateDeviceFromDiscovery discovery now).1
    ∃ added isAdded, (service.removePreviousDevice discovery).1.addOrUpdateDevice
        discovery.deviceId discovery.uid discovery.features now = some (added, isAdded) ∧
      result.networkDevices = added.networkDevices ∧
      ∀ claim ∈ result.pendingIdClaims, claim.deviceId ≠ discovery.deviceId := by
  intro result
  have assigned : discovery.deviceId ≠ deviceIdUnassigned := by
    simp only [isPeerDeviceId, decide_eq_true_eq] at peer
    exact peer.1
  obtain ⟨added, isAdded, isUpdated⟩ : ∃ added isAdded,
      (service.removePreviousDevice discovery).1.addOrUpdateDevice discovery.deviceId
        discovery.uid discovery.features now = some (added, isAdded) := by
    obtain ⟨-, added, isUpdated, -⟩ | ⟨-, zero, -⟩ | ⟨-, -, added, isUpdated, -⟩ :=
      (service.removePreviousDevice discovery).1.addOrUpdateDevice_cases discovery.deviceId
        discovery.uid discovery.features now
    · exact ⟨added, false, isUpdated⟩
    · exact absurd zero nonzero
    · exact ⟨added, true, isUpdated⟩
  -- At most one claim is held for the ID, so freeing the slot that is found leaves none.
  have current : OneClaimPerId
      (added.findPendingIdClaim discovery.deviceId now).1.pendingIdClaims := by
    apply oneClaimPerId_expirePendingIdClaims
    rw [pendingIdClaims_addOrUpdateDevice isUpdated, pendingIdClaims_removePreviousDevice]
    exact one
  refine ⟨added, isAdded, isUpdated, ?_⟩
  simp only [result, updateDeviceFromDiscovery, peer, isUpdated, Bool.not_true,
    Bool.false_eq_true, if_false]
  cases slot : (added.findPendingIdClaim discovery.deviceId now).2 with
  | none =>
    refine ⟨rfl, fun claim pending onId => ?_⟩
    have unclaimed := List.findIdx?_eq_none_iff.mp slot claim pending
    simp [onId] at unclaimed
  | some slot =>
    refine ⟨rfl, fun claim pending onId => ?_⟩
    obtain ⟨inRange, onClaimed, -⟩ := List.findIdx?_eq_some_iff_getElem.mp slot
    obtain ⟨i, atI⟩ := List.getElem?_of_mem pending
    change ((added.findPendingIdClaim discovery.deviceId now).1.pendingIdClaims.set _ {})[i]? = _
      at atI
    rw [List.getElem?_set] at atI
    split_ifs at atI with own inside
    · obtain rfl := Option.some.inj atI
      exact assigned onId.symm
    · exact own (current _ _ _ _ (List.getElem?_eq_getElem inRange) atI
        ((of_decide_eq_true onClaimed).trans onId.symm)
        (by rw [of_decide_eq_true onClaimed]; exact assigned))

/-- Once the features and the claims are right, the entries decide. -/
theorem settles_iff_entries {discovery : CdmpDiscoveryResponseMessage}
    (features : (service.networkDevices.find? discovery.deviceId).map (·.features) =
      some discovery.features)
    (unclaimed : ∀ claim ∈ service.pendingIdClaims, claim.deviceId ≠ discovery.deviceId) :
    service.Settles discovery ↔
      (discovery.deviceId, discovery.uid) ∈ service.entries ∧
        ∀ other, other ≠ discovery.deviceId → (other, discovery.uid) ∉ service.entries := by
  obtain ⟨device, found, hasFeatures⟩ := Option.map_eq_some_iff.mp features
  have identity : (service.networkDevices.find? discovery.deviceId).map
      (fun device => (device.uid, device.features)) = some (discovery.uid, discovery.features) ↔
        (discovery.deviceId, discovery.uid) ∈ service.entries := by
    rw [entries, CdmpDeviceTable.mem_entries_iff, found]
    simp [hasFeatures]
  constructor
  · intro settles
    exact ⟨identity.mp settles.identity, settles.only⟩
  · rintro ⟨listed, only⟩
    exact ⟨identity.mpr listed, only, unclaimed⟩

theorem settles_updateDeviceFromDiscovery_iff (one : OneClaimPerId service.pendingIdClaims)
    {discovery : CdmpDiscoveryResponseMessage}
    (peer : service.isPeerDeviceId discovery.deviceId = true) (nonzero : discovery.uid ≠ 0)
    (now : ℕ) :
    (service.updateDeviceFromDiscovery discovery now).1.Settles discovery ↔
      service.AgreesWith discovery := by
  obtain ⟨added, isAdded, isUpdated, table, unclaimed⟩ :=
    updateDeviceFromDiscovery_table one peer nonzero now
  have features := features_addOrUpdateDevice isUpdated
  rw [← table] at features
  rw [settles_iff_entries features unclaimed]
  -- What the removal leaves of the UID's other IDs stays.
  have cleared (other : UInt8) (elsewhere : other ≠ discovery.deviceId) :
      (other, discovery.uid) ∉ (service.removePreviousDevice discovery).1.entries ↔
        ((other, discovery.uid) ∈ service.entries →
          service.findDeviceIdByUid discovery.uid = some other) := by
    rw [mem_entries_removePreviousDevice]
    tauto
  have agrees : service.AgreesWith discovery ↔
      (∀ device, service.networkDevices.find? discovery.deviceId = some device →
        device.uid = discovery.uid) ∧
      ∀ other, other ≠ discovery.deviceId →
        (other, discovery.uid) ∉ (service.removePreviousDevice discovery).1.entries := by
    constructor
    · rintro ⟨owner, previous⟩
      exact ⟨owner, fun other elsewhere => (cleared other elsewhere).mpr (previous other elsewhere)⟩
    · rintro ⟨owner, previous⟩
      exact ⟨owner, fun other elsewhere => (cleared other elsewhere).mp (previous other elsewhere)⟩
  have entries : (service.updateDeviceFromDiscovery discovery now).1.entries = added.entries :=
    congrArg CdmpDeviceTable.entries table
  rw [agrees, entries]
  obtain ⟨known, after, isAfter, same⟩ | ⟨-, zero, -⟩ | ⟨absent, -, after, isAfter, same⟩ :=
    (service.removePreviousDevice discovery).1.addOrUpdateDevice_cases discovery.deviceId
      discovery.uid discovery.features now
  · obtain ⟨rfl, -⟩ := Prod.mk.inj (Option.some.inj (isUpdated.symm.trans isAfter))
    rw [same]
    refine and_congr_left fun _ => ?_
    -- A known ID keeps its UID.
    rw [contains_removePreviousDevice] at known
    obtain ⟨device, found⟩ := CdmpDeviceTable.contains_iff_find?.mp known
    rw [mem_entries_removePreviousDevice, CdmpNetworkService.entries,
      CdmpDeviceTable.mem_entries_iff, found]
    simp
  · exact absurd zero nonzero
  · obtain ⟨rfl, -⟩ := Prod.mk.inj (Option.some.inj (isUpdated.symm.trans isAfter))
    rw [contains_removePreviousDevice] at absent
    have unknown : service.networkDevices.find? discovery.deviceId = none := by
      rw [← Option.not_isSome_iff_eq_none, Option.isSome_iff_exists,
        ← CdmpDeviceTable.contains_iff_find?, absent]
      simp
    rw [same, unknown]
    constructor
    · rintro ⟨-, only⟩
      exact ⟨by rintro _ ⟨⟩, fun other elsewhere listed =>
        only other elsewhere (List.mem_append_left _ listed)⟩
    · rintro ⟨-, only⟩
      refine ⟨List.mem_append_right _ (List.mem_singleton_self _), fun other elsewhere listed => ?_⟩
      rcases List.mem_append.mp listed with before | new
      · exact only other elsewhere before
      · exact elsewhere (Prod.mk.inj (List.mem_singleton.mp new)).1

/-- In every state of a run, a response from a peer settles its identity exactly when the table
agrees with it: the ID is not known under another UID, and no ID but the first that the iteration
meets holds the UID beside it. It does so in whatever order the map is iterated exactly when no
second ID holds the UID. -/
theorem settles_iff (device : CdmpDevice) (labels : List NetworkLabel)
    (discovery : CdmpDiscoveryResponseMessage) (now : ℕ) :
    let service := run (fun service label => (step service label).1) (initial device) labels
    let answered := fun service : CdmpNetworkService =>
      (service.step (.work (.processMessage (.discoveryResponse discovery)) now)).1
    service.isPeerDeviceId discovery.deviceId = true → discovery.uid ≠ 0 →
      discovery.uid ≠ service.device.uid →
        ((answered service).Settles discovery ↔ service.AgreesWith discovery) ∧
        ((∀ order, (answered (service.iterate order)).Settles discovery) ↔
          service.AgreesInEveryOrder discovery) := by
  intro service answered peer nonzero other
  have one : OneClaimPerId service.pendingIdClaims := oneClaimPerId_run device labels
  -- The order of the iteration is part of the state, and the claims are the same in every order.
  have decides (order : List UInt8) :
      (answered (service.iterate order)).Settles discovery ↔
        (service.iterate order).AgreesWith discovery := by
    have processed : answered (service.iterate order) =
        ({ service.iterate order with discoveryResponseReceived := true }.updateDeviceFromDiscovery
          discovery now).1 := by
      simp only [answered, iterate, step, runWork, processMessage, processDiscoveryResponse,
        if_neg other]
    have marked :
        { service.iterate order with discoveryResponseReceived := true }.AgreesWith discovery ↔
          (service.iterate order).AgreesWith discovery :=
      ⟨fun agrees => ⟨agrees.owner, agrees.previous⟩,
        fun agrees => ⟨agrees.owner, agrees.previous⟩⟩
    rw [processed, ← marked]
    apply settles_updateDeviceFromDiscovery_iff
    · exact one
    · exact peer
    · exact nonzero
  refine ⟨decides service.iterationOrder, ?_⟩
  rw [agreesInEveryOrder_iff]
  exact forall_congr' decides

/-- The IDs 5 and 7 hold UID 0xA; its answer under 7 clears 5 where the iteration meets 5 first. -/
example :
    let service := run (fun service label => (step service label).1)
      (initial { uid := 1, uid_ne_zero := by decide, features := 0, lastHeartbeat := 0 })
      movedClaimant
    let answered := fun order => ((service.iterate order).step
      (.work (.processMessage (.discoveryResponse ⟨7, 0xA, 0⟩)) 300)).1.entries
    answered [5, 7] = [(7, 0xA)] ∧ answered [7, 5] = [(7, 0xA), (5, 0xA)] := by
  decide +kernel

/-- The unit that listens. -/
def listener : CdmpDevice :=
  { uid := 1, uid_ne_zero := by decide, features := 0, lastHeartbeat := 0 }

/-- UID 0xA is heard of under ID 5. -/
def heardOf : List NetworkLabel :=
  [.start, .work (.processMessage (.discoveryResponse ⟨5, 0xA, 0⟩)) 0]

/-- The device answers again under ID 7. -/
theorem settles_iff_moved :
    let service := run (fun service label => (step service label).1) (initial listener) heardOf
    service.isPeerDeviceId 7 = true ∧ (0xA : UInt32) ≠ 0 ∧ 0xA ≠ service.device.uid ∧
      ((service.step (.work (.processMessage (.discoveryResponse ⟨7, 0xA, 3⟩)) 100)).1.Settles
        ⟨7, 0xA, 3⟩ ↔ service.AgreesWith ⟨7, 0xA, 3⟩) ∧
      ((∀ order, ((service.iterate order).step
          (.work (.processMessage (.discoveryResponse ⟨7, 0xA, 3⟩)) 100)).1.Settles
        ⟨7, 0xA, 3⟩) ↔ service.AgreesInEveryOrder ⟨7, 0xA, 3⟩) :=
  ⟨by decide +kernel, by decide, by decide +kernel,
    settles_iff listener heardOf ⟨7, 0xA, 3⟩ 100 (by decide +kernel) (by decide)
      (by decide +kernel)⟩

/-- Its owner is gone and another unit answers under ID 5, which stays under the old UID. -/
theorem not_settles_newOwner :
    let service := run (fun service label => (step service label).1) (initial listener) heardOf
    service.isPeerDeviceId 5 = true ∧ (0xB : UInt32) ≠ 0 ∧ 0xB ≠ service.device.uid ∧
      ¬ (service.step (.work (.processMessage (.discoveryResponse ⟨5, 0xB, 0⟩)) 100)).1.Settles
        ⟨5, 0xB, 0⟩ := by
  refine ⟨by decide +kernel, by decide, by decide +kernel, fun settles => ?_⟩
  have identity := settles.identity
  revert identity
  decide +kernel

end CdmpNetworkService

end RtCore.Cdmp
