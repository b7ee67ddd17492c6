import Mathlib.Data.Finset.Card
import Mathlib.Data.List.Sort
import RtCore.Cdmp.StateTables

/-!
# Copies converge to their source

A receiver compares its copies of a source with the digest in the source's heartbeat.
A mismatch marks every copy stale, so that it takes the next record whatever its
version, and the source replays its records. Whatever the receiver held before, the
next heartbeat leaves it with exactly the records of the source.

During the exchange every copy is stale or one of the source's records, which
`Resyncing` says; each notification of the replay brings its record back.

## Main definitions

* `RoomFor` — the copies held and the records to come fit together
* `DigestsTell` — the digests compared at a heartbeat tell record lists apart
* `Resyncing` — copies that are not stale are records of the source

## Main results

* `Resyncing.applyRecord` — a notification of the replay brings its record back
* `copies_converge` — after a heartbeat, the replay in any order and one more
  heartbeat, the copies are the source's records and none is stale
-/

namespace RtCore.Cdmp

open RtCore.Foundation

/-! ### Keys of copies -/

/-- What the copies are sorted by. -/
def RemoteRecord.key (copy : RemoteRecord) : UInt8 × UInt8 := (copy.source, copy.stateType)

theorem RemoteSorted.nodup_key {copies : List RemoteRecord} (sorted : RemoteSorted copies) :
    (copies.map (·.key)).Nodup := by
  refine List.pairwise_map.mpr (List.Pairwise.imp (fun {a b} precedes same => ?_) sorted)
  rw [RemoteRecord.Precedes, RemoteRecord.isBefore_iff] at precedes
  obtain ⟨sameSource, sameType⟩ := Prod.mk.inj same
  rw [sameSource, sameType] at precedes
  omega

/-- The copies held and copies of `records` of `source` fit together. -/
def RoomFor (parameters : CdmpStateParameters) (service : CdmpStateService) (source : UInt8)
    (records : List StateRecord) : Prop :=
  ((service.remoteRecords.map (·.key)).toFinset ∪
    (records.map fun record => (source, record.stateType)).toFinset).card ≤
      parameters.maxRemoteRecords

variable {parameters : CdmpStateParameters} {service after : CdmpStateService} {source : UInt8}
  {records : List StateRecord}

theorem RoomFor.of_keys (room : RoomFor parameters service source records)
    (keys : ∀ copy ∈ after.remoteRecords, copy.key ∈ service.remoteRecords.map (·.key) ∨
      copy.key ∈ records.map fun record => (source, record.stateType)) :
    RoomFor parameters after source records := by
  refine (Finset.card_le_card fun key member => ?_).trans room
  simp only [Finset.mem_union, List.mem_toFinset] at member ⊢
  rcases member with held | coming
  · obtain ⟨copy, isCopy, rfl⟩ := List.mem_map.mp held
    exact keys copy isCopy
  · exact Or.inr coming

/-- A record without a copy finds a free slot. -/
theorem RoomFor.length_ne (room : RoomFor parameters service source records)
    (sorted : RemoteSorted service.remoteRecords) {record : StateRecord} (member : record ∈ records)
    (absent : ∀ copy ∈ service.remoteRecords,
      ¬ (copy.source = source ∧ copy.stateType = record.stateType)) :
    service.remoteRecords.length ≠ parameters.maxRemoteRecords := by
  have keys : (service.remoteRecords.map (·.key)).toFinset.card = service.remoteRecords.length := by
    rw [List.toFinset_card_of_nodup sorted.nodup_key, List.length_map]
  have more : (service.remoteRecords.map (·.key)).toFinset.card <
      ((service.remoteRecords.map (·.key)).toFinset ∪
        (records.map fun record => (source, record.stateType)).toFinset).card := by
    refine Finset.card_lt_card (Finset.ssubset_iff_subset_ne.mpr
      ⟨Finset.subset_union_left, fun same => ?_⟩)
    have coming : (source, record.stateType) ∈ (service.remoteRecords.map (·.key)).toFinset := by
      rw [same]
      refine Finset.mem_union_right _ (List.mem_toFinset.mpr ?_)
      exact List.mem_map.mpr ⟨record, member, rfl⟩
    obtain ⟨copy, isCopy, sameKey⟩ := List.mem_map.mp (List.mem_toFinset.mp coming)
    exact absent copy isCopy (Prod.mk.inj sameKey)
  have := room
  rw [RoomFor] at this
  omega

/-! ### The exchange -/

/-- The records a source replays: strictly ascending by type, each with a type and data. -/
structure Replayable (records : List StateRecord) : Prop where
  sorted : records.Pairwise fun a b => a.stateType < b.stateType
  wellFormed : ∀ record ∈ records, record.stateType ≠ 0 ∧ record.data.isEmpty = false

theorem Replayable.eq_of_mem (replayable : Replayable records) {record other : StateRecord}
    (member : record ∈ records) (otherMember : other ∈ records)
    (same : record.stateType = other.stateType) : record = other := by
  have nodup : (records.map (·.stateType)).Nodup :=
    List.pairwise_map.mpr (replayable.sorted.imp UInt8.ne_of_lt)
  exact List.inj_on_of_nodup_map nodup member otherMember same

theorem LocalTable.replayable {service : CdmpStateService} (table : LocalTable parameters service) :
    Replayable service.liveRecords where
  sorted := List.pairwise_map.mpr (table.sorted.sublist List.filter_sublist)
  wellFormed := by
    intro record member
    obtain ⟨original, isLive, rfl⟩ := List.mem_map.mp member
    obtain ⟨isOriginal, live⟩ := List.mem_filter.mp isLive
    exact table.wellFormed original isOriginal (by simpa using live)

/-- The source is not marked as one whose records did not fit. -/
def NotOverflowed (service : CdmpStateService) (source : UInt8) : Prop :=
  ∀ state ∈ service.sources, state.deviceId = source → state.isOverflowed = false

/-- Every copy of the source is stale or one of its records. -/
structure Resyncing (parameters : CdmpStateParameters) (service : CdmpStateService)
    (source : UInt8) (records : List StateRecord) : Prop where
  table : RemoteTable parameters service
  room : RoomFor parameters service source records
  notOverflowed : NotOverflowed service source
  fresh : ∀ copy ∈ service.remoteRecords, copy.source = source → copy.isStale = false →
    copy.content ∈ records

/-- A copy of the record that is not stale. -/
def Holds (service : CdmpStateService) (source : UInt8) (record : StateRecord) : Prop :=
  ∃ copy ∈ service.remoteRecords,
    copy.source = source ∧ copy.isStale = false ∧ copy.content = record

/-- What a notification of the replay does: its record has a copy, the only one of its type, and
the other copies stay. -/
theorem Resyncing.applyRecord_mem (resyncing : Resyncing parameters service source records)
    (replayable : Replayable records) {message : CdmpStateChangeMessage}
    (fromSource : message.sourceDeviceId = source)
    (isRecord : ⟨message.stateType, message.version, message.data⟩ ∈ records) (now : UInt32) :
    ∃ copy : RemoteRecord, copy.source = source ∧ copy.isStale = false ∧
      copy.content = ⟨message.stateType, message.version, message.data⟩ ∧
      (∀ other, other ∈ (service.applyRecord parameters message now).remoteRecords ↔
        other = copy ∨ other ∈ service.remoteRecords ∧ other.key ≠ copy.key) ∧
      (service.applyRecord parameters message now).sources = service.sources := by
  subst fromSource
  have sorted := resyncing.table.sorted
  obtain ⟨typed, hasData⟩ := replayable.wellFormed _ isRecord
  unfold CdmpStateService.applyRecord
  dsimp only
  split
  · rename_i index record found
    obtain ⟨own, ownType, front, back, whole, rfl⟩ :=
      CdmpStateService.findRemoteRecord_some sorted found
    have isHeld : record ∈ service.remoteRecords := by simp [whole]
    have others (other : RemoteRecord) : other ∈ front ++ back ↔
        other ∈ service.remoteRecords ∧ other.key ≠ record.key := by
      have nodup := sorted.nodup_key
      rw [whole, List.map_append, List.map_cons, List.nodup_middle, List.nodup_cons,
        ← List.map_append] at nodup
      rw [whole]
      constructor
      · intro member
        refine ⟨by simp at member ⊢; tauto, fun same => nodup.1 ?_⟩
        rw [← same]
        exact List.mem_map_of_mem member
      · rintro ⟨member, otherKey⟩
        simp only [List.mem_append, List.mem_cons] at member ⊢
        rcases member with before | rfl | after
        · exact Or.inl before
        · exact absurd rfl otherKey
        · exact Or.inr after
    cases stale : record.isStale with
    | false =>
      -- A fresh copy is the record itself, so the notification is a duplicate.
      have same := replayable.eq_of_mem (resyncing.fresh record isHeld own stale) isRecord ownType
      have notNewer : isNewer message.version record.version = false := by
        have : record.version = message.version := congrArg StateRecord.version same
        simp [this, isNewer]
      refine ⟨record, own, stale, same, fun other => ?_, ?_⟩
      · rw [← others]
        simp [notNewer, whole, or_left_comm]
      · simp [notNewer]
    | true =>
      refine ⟨{ record with version := message.version, data := message.data, isStale := false },
        own, rfl, by simp [RemoteRecord.content, ownType], fun other => ?_, ?_⟩
      · simp only [Bool.not_true, Bool.false_and, Bool.false_eq_true, if_false, hasData]
        change _ ↔ _ ∨ other ∈ service.remoteRecords ∧ other.key ≠ record.key
        rw [← others, whole]
        simp [or_left_comm]
      · simp [hasData]
  · rename_i index found
    obtain ⟨rfl, absent⟩ := CdmpStateService.findRemoteRecord_none sorted found
    have free := resyncing.room.length_ne sorted isRecord absent
    simp only [hasData, Bool.false_eq_true, if_false, free]
    refine ⟨
      { source := message.sourceDeviceId, stateType := message.stateType,
        version := message.version, data := message.data },
      rfl, rfl, rfl, fun other => ?_, trivial⟩
    rw [mem_insertAt]
    refine or_congr_right ⟨fun member => ⟨member, fun same => ?_⟩, And.left⟩
    exact absent other member (Prod.mk.inj same)

/-- A notification of the replay brings its record back and loses none brought back before. -/
theorem Resyncing.applyRecord (resyncing : Resyncing parameters service source records)
    (replayable : Replayable records) {message : CdmpStateChangeMessage}
    (fromSource : message.sourceDeviceId = source)
    (isRecord : ⟨message.stateType, message.version, message.data⟩ ∈ records) (now : UInt32) :
    Resyncing parameters (service.applyRecord parameters message now) source records ∧
      Holds (service.applyRecord parameters message now) source
        ⟨message.stateType, message.version, message.data⟩ ∧
      ∀ record, Holds service source record →
        Holds (service.applyRecord parameters message now) source record := by
  obtain ⟨copy, own, fresh, content, members, sources⟩ :=
    resyncing.applyRecord_mem replayable fromSource isRecord now
  have isCopy := (members copy).mpr (Or.inl rfl)
  refine ⟨⟨?_, ?_, ?_, ?_⟩, ⟨copy, isCopy, own, fresh, content⟩, ?_⟩
  · exact resyncing.table.applyRecord (replayable.wellFormed _ isRecord).1 now
  · refine resyncing.room.of_keys fun other member => ?_
    rcases (members other).mp member with rfl | ⟨member, -⟩
    · refine Or.inr (List.mem_map.mpr ⟨_, isRecord, ?_⟩)
      exact Prod.ext own.symm (congrArg StateRecord.stateType content).symm
    · exact Or.inl (List.mem_map_of_mem member)
  · rw [NotOverflowed, sources]
    exact resyncing.notOverflowed
  · intro other member otherOwn otherFresh
    rcases (members other).mp member with rfl | ⟨member, -⟩
    · rw [content]
      exact isRecord
    · exact resyncing.fresh other member otherOwn otherFresh
  · rintro record ⟨other, member, otherOwn, otherFresh, rfl⟩
    by_cases same : other.key = copy.key
    · -- The copy of this type was fresh already, so it was this record.
      refine ⟨copy, isCopy, own, fresh, ?_⟩
      rw [content]
      have otherIs := resyncing.fresh other member otherOwn otherFresh
      refine replayable.eq_of_mem isRecord otherIs ?_
      have sameType : other.stateType = copy.stateType := (Prod.mk.inj same).2
      exact (congrArg StateRecord.stateType content).symm.trans sameType.symm
    · exact ⟨other, (members other).mpr (Or.inr ⟨member, same⟩), otherOwn, otherFresh, rfl⟩

/-- The copies of the source that are not stale, once every record has one. -/
theorem Resyncing.freshRecords_eq (resyncing : Resyncing parameters service source records)
    (replayable : Replayable records) (complete : ∀ record ∈ records, Holds service source record) :
    (service.remoteRecords.filter fun copy => copy.source = source ∧ copy.isStale = false).map
      (·.content) = records := by
  have sorted : ((service.remoteRecords.filter fun copy =>
      copy.source = source ∧ copy.isStale = false).map (·.content)).Pairwise
        fun a b => a.stateType < b.stateType := by
    rw [List.pairwise_map]
    refine (resyncing.table.sorted.sublist List.filter_sublist).imp_of_mem ?_
    intro a b isFirst isSecond precedes
    have first := (List.mem_filter.mp isFirst).2
    have second := (List.mem_filter.mp isSecond).2
    simp only [decide_eq_true_eq] at first second
    rw [RemoteRecord.Precedes, RemoteRecord.isBefore_iff, first.1, second.1] at precedes
    change a.stateType < b.stateType
    rw [UInt8.lt_iff_toNat_lt]
    omega
  have nodup {list : List StateRecord} (ascending : list.Pairwise fun a b =>
      a.stateType < b.stateType) : list.Nodup := by
    refine List.Pairwise.imp ?_ ascending
    rintro a b below rfl
    exact UInt8.lt_irrefl _ below
  -- Both lists ascend by type, so it is enough that they have the same records.
  refine List.Perm.eq_of_pairwise (fun a b _ _ below above => ?_) sorted replayable.sorted
    ((List.perm_ext_iff_of_nodup (nodup sorted) (nodup replayable.sorted)).mpr fun record => ?_)
  · exact absurd (UInt8.lt_trans below above) (UInt8.lt_irrefl _)
  · simp only [List.mem_map, List.mem_filter, decide_eq_true_eq]
    constructor
    · rintro ⟨copy, ⟨member, own, fresh⟩, rfl⟩
      exact resyncing.fresh copy member own fresh
    · intro member
      obtain ⟨copy, isCopy, own, fresh, content⟩ := complete record member
      exact ⟨copy, ⟨isCopy, own, fresh⟩, content⟩

/-! ### Heartbeats -/

/-- The digests a receiver compares at a heartbeat tell its copies and the records apart. -/
def DigestsTell (parameters : CdmpStateParameters) (service : CdmpStateService) (source : UInt8)
    (records : List StateRecord) : Prop :=
  let copies := service.sourceRecords source
  let fresh := copies.filter (!·.isStale)
  (digestOf parameters (copies.map (·.content)) = digestOf parameters records →
    copies.map (·.content) = records) ∧
  (digestOf parameters (fresh.map (·.content)) = digestOf parameters records →
    fresh.map (·.content) = records)

section Sources

open CdmpStateService

theorem NotOverflowed.removeRemoteRecords (notOverflowed : NotOverflowed service source)
    (predicate : RemoteRecord → Bool) :
    NotOverflowed (service.removeRemoteRecords predicate) source := by
  unfold CdmpStateService.removeRemoteRecords
  dsimp only
  split_ifs
  · exact notOverflowed
  · intro state member _
    obtain ⟨original, -, rfl⟩ := List.mem_map.mp member
    rfl

/-- A slot given to the source starts without the mark. -/
theorem NotOverflowed.addSourceState (notOverflowed : NotOverflowed service source) {now : UInt32}
    {index : ℕ} {sources : List SourceState}
    (added : service.addSourceState source now = some (index, sources)) :
    ∀ state ∈ sources, state.deviceId = source → state.isOverflowed = false := by
  unfold CdmpStateService.addSourceState at added
  dsimp only at added
  split at added
  · obtain ⟨-, rfl⟩ := Prod.mk.inj (Option.some.inj added)
    exact notOverflowed
  · split at added
    · cases added
    · obtain ⟨-, rfl⟩ := Prod.mk.inj (Option.some.inj added)
      intro state member own
      rcases List.mem_or_eq_of_mem_set member with original | rfl
      · exact notOverflowed state original own
      · rfl

theorem NotOverflowed.startSyncRequest (notOverflowed : NotOverflowed service source)
    (now : UInt32) : NotOverflowed (service.startSyncRequest source now).1 source := by
  unfold CdmpStateService.startSyncRequest
  split
  · exact notOverflowed
  · rename_i index sources added
    have clear := notOverflowed.addSourceState added
    dsimp only
    split_ifs
    · exact clear
    · intro state member own
      obtain ⟨position, atPosition⟩ := List.mem_iff_getElem?.mp member
      rw [List.getElem?_modify] at atPosition
      obtain ⟨original, isOriginal, rfl⟩ := Option.map_eq_some_iff.mp atPosition
      have isState := List.mem_of_getElem? isOriginal
      split_ifs at own ⊢
      · exact clear original isState own
      · exact clear original isState own

@[simp] theorem remoteRecords_startSyncRequest (service : CdmpStateService) (source : UInt8)
    (now : UInt32) : (service.startSyncRequest source now).1.remoteRecords =
      service.remoteRecords := by
  unfold CdmpStateService.startSyncRequest
  split
  · rfl
  · dsimp only
    split_ifs <;> rfl

end Sources

section Heartbeat

variable {device : CdmpDevice} {heartbeat : CdmpHeartbeatMessage} (now : UInt32)

/-- What a heartbeat does to the copies of a source that is not marked overflowed. -/
theorem onHeartbeat_cases (sorted : RemoteSorted service.remoteRecords)
    (notOverflowed : NotOverflowed service heartbeat.deviceId) (online : device.isOnline = true)
    (tells : DigestsTell parameters service heartbeat.deviceId records)
    (digest : heartbeat.stateDigest = digestOf parameters records) :
    let copies := service.remoteRecords.filter (·.source = heartbeat.deviceId)
    let fresh := copies.filter (!·.isStale)
    let after := (service.onHeartbeat parameters device heartbeat now).1
    (copies.map (·.content) = records ∧
      after = service.mapSourceRecords heartbeat.deviceId ({ · with isStale := false })) ∨
    (fresh.map (·.content) = records ∧
      after = service.removeRemoteRecords fun copy =>
        copy.source = heartbeat.deviceId ∧ copy.isStale) ∨
    (fresh.map (·.content) ≠ records ∧
      after = ((service.mapSourceRecords heartbeat.deviceId
        ({ · with isStale := true })).startSyncRequest heartbeat.deviceId now).1) := by
  intro copies fresh after
  have isOverflowed : ((service.findSourceState heartbeat.deviceId).any fun index =>
      service.sources[index]?.any (·.isOverflowed)) = false := by
    rw [Option.any_eq_false]
    intro index found
    obtain ⟨inside, own, -⟩ := List.findIdx?_eq_some_iff_getElem.mp found
    rw [List.getElem?_eq_getElem inside]
    simpa using notOverflowed _ (List.getElem_mem inside) (of_decide_eq_true own)
  have held : service.sourceRecords heartbeat.deviceId = copies :=
    CdmpStateService.sourceRecords_eq_filter sorted heartbeat.deviceId
  simp only [DigestsTell, held] at tells
  simp only [after, CdmpStateService.onHeartbeat, online, isOverflowed, held, remoteDigest_eq,
    digest, Bool.not_true, Bool.or_self, Bool.false_eq_true, if_false]
  split_ifs with all someStale
  · exact Or.inl ⟨tells.1 all, rfl⟩
  · rw [Bool.and_eq_true, decide_eq_true_eq] at someStale
    exact Or.inr (Or.inl ⟨tells.2 someStale.2, rfl⟩)
  · refine Or.inr (Or.inr ⟨fun same => ?_, rfl⟩)
    -- Without a stale copy the fresh ones are all, and their digest would have matched.
    rw [Bool.and_eq_true, decide_eq_true_eq, not_and_or] at someStale
    rcases someStale with noneStale | differs
    · have allFresh : fresh = copies := by
        refine List.filter_eq_self.mpr fun copy member => ?_
        simp only [Bool.not_eq_true, List.any_eq_false] at noneStale
        simpa using noneStale copy member
      exact all (by rw [← allFresh, same])
    · exact differs (by rw [same])

/-- After a heartbeat every copy of the source is stale or one of its records. -/
theorem Resyncing.of_onHeartbeat (table : RemoteTable parameters service)
    (room : RoomFor parameters service heartbeat.deviceId records)
    (notOverflowed : NotOverflowed service heartbeat.deviceId) (online : device.isOnline = true)
    (tells : DigestsTell parameters service heartbeat.deviceId records)
    (digest : heartbeat.stateDigest = digestOf parameters records) :
    Resyncing parameters (service.onHeartbeat parameters device heartbeat now).1
      heartbeat.deviceId records := by
  have nextTable := table.onHeartbeat device heartbeat now
  -- Updates that only mark copies leave their keys alone.
  have sameKeys (isStale : Bool) (copy : RemoteRecord)
      (member : copy ∈ service.remoteRecords.map fun copy =>
        if copy.source = heartbeat.deviceId then { copy with isStale } else copy) :
      ∃ original ∈ service.remoteRecords, copy.key = original.key ∧
        copy.content = original.content ∧
        (copy.source = heartbeat.deviceId → copy.isStale = isStale) := by
    obtain ⟨original, isOriginal, rfl⟩ := List.mem_map.mp member
    refine ⟨original, isOriginal, ?_⟩
    split_ifs with own
    · exact ⟨rfl, rfl, fun _ => rfl⟩
    · exact ⟨rfl, rfl, fun isOwn => absurd isOwn own⟩
  obtain ⟨same, after⟩ | ⟨same, after⟩ | ⟨-, after⟩ :=
    onHeartbeat_cases now table.sorted notOverflowed online tells digest
  · rw [after] at nextTable ⊢
    have copies := CdmpStateService.remoteRecords_mapSourceRecords table.sorted heartbeat.deviceId
      ({ · with isStale := false })
    refine ⟨nextTable, room.of_keys fun copy member => ?_, notOverflowed,
      fun copy member own _ => ?_⟩
    · rw [copies] at member
      obtain ⟨original, isOriginal, sameKey, -⟩ := sameKeys false copy member
      rw [sameKey]
      exact Or.inl (List.mem_map_of_mem isOriginal)
    · rw [copies] at member
      obtain ⟨original, isOriginal, sameKey, sameContent, -⟩ := sameKeys false copy member
      have originalOwn : original.source = heartbeat.deviceId :=
        (Prod.mk.inj sameKey).1.symm.trans own
      rw [sameContent, ← same]
      exact List.mem_map_of_mem (List.mem_filter.mpr ⟨isOriginal, decide_eq_true originalOwn⟩)
  · rw [after] at nextTable ⊢
    have copies := CdmpStateService.remoteRecords_removeRemoteRecords service fun copy =>
      copy.source = heartbeat.deviceId ∧ copy.isStale
    refine ⟨nextTable, room.of_keys fun copy member => ?_, notOverflowed.removeRemoteRecords _,
      fun copy member own fresh => ?_⟩
    · rw [copies] at member
      exact Or.inl (List.mem_map_of_mem (List.mem_filter.mp member).1)
    · rw [copies] at member
      rw [← same]
      refine List.mem_map_of_mem (List.mem_filter.mpr ⟨List.mem_filter.mpr ⟨?_, ?_⟩, ?_⟩)
      · exact (List.mem_filter.mp member).1
      · exact decide_eq_true own
      · simp [fresh]
  · rw [after] at nextTable ⊢
    have copies := CdmpStateService.remoteRecords_mapSourceRecords table.sorted heartbeat.deviceId
      ({ · with isStale := true })
    rw [← remoteRecords_startSyncRequest _ heartbeat.deviceId now] at copies
    refine ⟨nextTable, room.of_keys fun copy member => ?_, ?_, fun copy member own fresh => ?_⟩
    · rw [copies] at member
      obtain ⟨original, isOriginal, sameKey, -⟩ := sameKeys true copy member
      rw [sameKey]
      exact Or.inl (List.mem_map_of_mem isOriginal)
    · have unmarked : NotOverflowed (service.mapSourceRecords heartbeat.deviceId
          ({ · with isStale := true })) heartbeat.deviceId := notOverflowed
      exact unmarked.startSyncRequest now
    · rw [copies] at member
      obtain ⟨-, -, -, -, stale⟩ := sameKeys true copy member
      rw [stale own] at fresh
      cases fresh

/-- The next heartbeat accepts the copies, or drops those the replay did not bring back. -/
theorem Resyncing.onHeartbeat_complete
    (resyncing : Resyncing parameters service heartbeat.deviceId records)
    (replayable : Replayable records)
    (complete : ∀ record ∈ records, Holds service heartbeat.deviceId record)
    (online : device.isOnline = true)
    (tells : DigestsTell parameters service heartbeat.deviceId records)
    (digest : heartbeat.stateDigest = digestOf parameters records) :
    let copies := (service.onHeartbeat parameters device heartbeat now).1.remoteRecords.filter
      (·.source = heartbeat.deviceId)
    copies.map (·.content) = records ∧ ∀ copy ∈ copies, copy.isStale = false := by
  have fresh := resyncing.freshRecords_eq replayable complete
  have sorted := resyncing.table.sorted
  -- The digest tells the copies from all others, so it decides: all copies are the records and
  -- become current, the fresh ones are and the stale ones go, or neither, which `fresh` rules out.
  obtain ⟨same, after⟩ | ⟨same, after⟩ | ⟨differs, -⟩ :=
    onHeartbeat_cases now sorted resyncing.notOverflowed online tells digest
  · rw [after, CdmpStateService.remoteRecords_mapSourceRecords sorted, List.filter_map]
    have sameSource : (service.remoteRecords.filter ((fun copy : RemoteRecord =>
        decide (copy.source = heartbeat.deviceId)) ∘ fun copy =>
          if copy.source = heartbeat.deviceId then { copy with isStale := false } else copy)) =
        service.remoteRecords.filter (·.source = heartbeat.deviceId) := by
      refine List.filter_congr fun copy _ => ?_
      rw [Function.comp_apply]
      split_ifs <;> rfl
    rw [sameSource]
    refine ⟨?_, fun copy member => ?_⟩
    · rw [List.map_map]
      refine (List.map_congr_left fun copy _ => ?_).trans same
      rw [Function.comp_apply]
      split_ifs <;> rfl
    · obtain ⟨original, isOwn, rfl⟩ := List.mem_map.mp member
      rw [if_pos (of_decide_eq_true (List.mem_filter.mp isOwn).2)]
  · have kept : ((service.onHeartbeat parameters device heartbeat now).1.remoteRecords.filter
        (·.source = heartbeat.deviceId)) = service.remoteRecords.filter fun copy =>
          copy.source = heartbeat.deviceId ∧ copy.isStale = false := by
      rw [after, CdmpStateService.remoteRecords_removeRemoteRecords, List.filter_filter]
      refine List.filter_congr fun copy _ => ?_
      cases copy.isStale <;> simp
    rw [kept]
    refine ⟨fresh, fun copy member => ?_⟩
    exact (of_decide_eq_true (List.mem_filter.mp member).2).2
  · refine absurd ?_ differs
    rw [List.filter_filter]
    rw [← fresh]
    congr 1
    refine List.filter_congr fun copy _ => ?_
    cases copy.isStale <;> simp

end Heartbeat

/-! ### The whole exchange -/

/-- A notification that reaches the receiver as a frame at some time. -/
def deliver (device : CdmpDevice) (isDeviceOnline : UInt8 → Bool)
    (delivery : CdmpStateChangeMessage × UInt32) : StateLabel :=
  .stateChangeFrame device isDeviceOnline delivery.1.toCanFrame delivery.2

section Exchange

variable {device : CdmpDevice} {isDeviceOnline : UInt8 → Bool}

theorem step_deliver (parameters : CdmpStateParameters) (service : CdmpStateService)
    {message : CdmpStateChangeMessage} (online : device.isOnline = true)
    (typed : message.stateType ≠ 0) (foreign : message.sourceDeviceId ≠ device.deviceId)
    (known : isDeviceOnline message.sourceDeviceId = true) (now : UInt32) :
    service.step parameters (deliver device isDeviceOnline (message, now)) =
      service.applyRecord parameters message now := by
  simp [deliver, CdmpStateService.step, CdmpStateService.processStateChangeFrame, online, typed,
    foreign, known]

/-- The replay, in any order and with repetitions, brings back what it contains. -/
theorem Resyncing.run_deliver (resyncing : Resyncing parameters service source records)
    (replayable : Replayable records) (online : device.isOnline = true)
    (foreign : source ≠ device.deviceId) (known : isDeviceOnline source = true)
    (deliveries : List (CdmpStateChangeMessage × UInt32))
    (fromReplay : ∀ delivery ∈ deliveries, delivery.1.sourceDeviceId = source ∧
      ⟨delivery.1.stateType, delivery.1.version, delivery.1.data⟩ ∈ records) :
    let after := run (CdmpStateService.step parameters) service
      (deliveries.map (deliver device isDeviceOnline))
    Resyncing parameters after source records ∧
      (∀ record, Holds service source record → Holds after source record) ∧
      ∀ delivery ∈ deliveries, Holds after source
        ⟨delivery.1.stateType, delivery.1.version, delivery.1.data⟩ := by
  induction deliveries generalizing service with
  | nil => exact ⟨resyncing, fun _ held => held, by simp⟩
  | cons delivery deliveries ih =>
    obtain ⟨message, now⟩ := delivery
    obtain ⟨fromSource, isRecord⟩ := fromReplay _ List.mem_cons_self
    obtain ⟨next, brought, keeps⟩ := resyncing.applyRecord replayable fromSource isRecord now
    have step := step_deliver parameters service online (replayable.wellFormed _ isRecord).1
      (fromSource ▸ foreign) (fromSource ▸ known) now
    rw [List.map_cons, run_cons, step]
    obtain ⟨last, keepsLater, broughtLater⟩ := ih next fun delivery member =>
      fromReplay delivery (List.mem_cons_of_mem _ member)
    refine ⟨last, fun record held => keepsLater record (keeps record held), ?_⟩
    intro delivery member
    rcases List.mem_cons.mp member with rfl | later
    · exact keepsLater _ brought
    · exact broughtLater delivery later

end Exchange

/-- The heartbeat of a unit, with the digest its state service published. -/
structure IsHeartbeatOf (service : CdmpStateService) (sender : CdmpDevice)
    (heartbeat : CdmpHeartbeatMessage) : Prop where
  deviceId : heartbeat.deviceId = sender.deviceId
  stateDigest : heartbeat.stateDigest = service.stateDigest

/-- The replay holds the live records, under the ID of their unit. -/
theorem mem_replayRecords {sender : CdmpDevice} {replay : List CdmpStateChangeMessage}
    (replays : service.replayRecords sender = some replay) (message : CdmpStateChangeMessage) :
    message ∈ replay ↔ message.sourceDeviceId = sender.deviceId ∧
      ⟨message.stateType, message.version, message.data⟩ ∈ service.liveRecords := by
  unfold CdmpStateService.replayRecords at replays
  split_ifs at replays
  obtain rfl := Option.some.inj replays
  simp only [CdmpStateService.liveRecords, List.mem_map]
  constructor
  · rintro ⟨record, member, rfl⟩
    exact ⟨rfl, record, member, rfl⟩
  · rintro ⟨own, record, member, content⟩
    refine ⟨record, member, ?_⟩
    obtain ⟨sameType, sameVersion, sameData⟩ := StateRecord.mk.inj content
    cases message
    simp_all [LocalRecord.notification]

theorem digestOf_congr {parameters other : CdmpStateParameters}
    (sameCrc : other.crc8Ccitt = parameters.crc8Ccitt) (records : List StateRecord) :
    digestOf other records = digestOf parameters records := by
  unfold digestOf addToDigest
  rw [sameCrc]

/-- Whatever copies a receiver holds of a source, after a heartbeat of the source, its replay in
any order and with any duplicates, and one more heartbeat they are the live records of the source
and none is stale. -/
theorem copies_converge {parameters sourceParameters : CdmpStateParameters}
    (sameCrc : sourceParameters.crc8Ccitt = parameters.crc8Ccitt)
    {source receiver : CdmpStateService} (sourceTables : StateTables sourceParameters source)
    (receiverTables : StateTables parameters receiver) {sender unit : CdmpDevice}
    {isDeviceOnline : UInt8 → Bool} (online : unit.isOnline = true)
    (foreign : sender.deviceId ≠ unit.deviceId) (known : isDeviceOnline sender.deviceId = true)
    (notOverflowed : NotOverflowed receiver sender.deviceId)
    (room : RoomFor parameters receiver sender.deviceId source.liveRecords)
    {replay : List CdmpStateChangeMessage} (replays : source.replayRecords sender = some replay)
    {deliveries : List (CdmpStateChangeMessage × UInt32)}
    (delivered : ∀ message, message ∈ deliveries.map (·.1) ↔ message ∈ replay)
    {first second : CdmpHeartbeatMessage} (isFirst : IsHeartbeatOf source sender first)
    (isSecond : IsHeartbeatOf source sender second) (firstTime secondTime : UInt32) :
    let heard := (receiver.onHeartbeat parameters unit first firstTime).1
    let replayed := run (CdmpStateService.step parameters) heard
      (deliveries.map (deliver unit isDeviceOnline))
    let converged := (replayed.onHeartbeat parameters unit second secondTime).1
    DigestsTell parameters receiver sender.deviceId source.liveRecords →
    DigestsTell parameters replayed sender.deviceId source.liveRecords →
      let copies := converged.remoteRecords.filter (·.source = sender.deviceId)
      copies.map (·.content) = source.liveRecords ∧ ∀ copy ∈ copies, copy.isStale = false := by
  intro heard replayed converged tellsFirst tellsSecond
  have replayable := sourceTables.localTable.replayable
  have published : source.stateDigest = digestOf parameters source.liveRecords := by
    rw [sourceTables.localTable.published, digestOf_congr sameCrc]
  have mem_replay := mem_replayRecords replays
  rw [← isFirst.deviceId] at notOverflowed room tellsFirst
  -- First heartbeat: the copies are accepted or the resynchronization begins.
  have resyncing := Resyncing.of_onHeartbeat firstTime receiverTables.remoteTable room notOverflowed
    online tellsFirst (isFirst.stateDigest.trans published)
  rw [isFirst.deviceId] at resyncing
  -- The replay in any order: what a delivery brings stays until the end.
  obtain ⟨last, -, brought⟩ := resyncing.run_deliver replayable online foreign known deliveries
    fun delivery member =>
      (mem_replay delivery.1).mp ((delivered _).mp (List.mem_map_of_mem member))
  rw [← isSecond.deviceId] at last tellsSecond ⊢
  refine last.onHeartbeat_complete secondTime replayable (fun record member => ?_) online
    tellsSecond (isSecond.stateDigest.trans published)
  -- Every live record was replayed and every replayed message delivered.
  have replayedRecord : (⟨sender.deviceId, record.version, record.stateType, record.data⟩ :
      CdmpStateChangeMessage) ∈ replay := (mem_replay _).mpr ⟨rfl, member⟩
  obtain ⟨delivery, isDelivery, same⟩ := List.mem_map.mp ((delivered _).mpr replayedRecord)
  have held := brought delivery isDelivery
  rw [same] at held
  rw [isSecond.deviceId]
  exact held

/-! A source with a withdrawn record, and a receiver with an outdated, a stale, a surplus and a
missing copy. -/

/-- A unit that went ONLINE under an ID. -/
def onlineDevice (deviceId : UInt8) : CdmpDevice where
  deviceId
  uid := 7
  uid_ne_zero := by decide
  features := 0
  lastHeartbeat := 0
  status := .online

/-- A source of three records, one of them withdrawn. -/
def exampleSource : CdmpStateService :=
  run (CdmpStateService.step .default) (.initial .default)
    [.start (onlineDevice 5), .setLocalState 1 [7], .setLocalState 3 [9], .setLocalState 4 [1],
      .clearLocalState 4]

/-- A receiver with copies that are newer, stale and of no record. -/
def exampleReceiver : CdmpStateService :=
  let notify (stateType version value : UInt8) : StateLabel :=
    .stateChangeFrame (onlineDevice 2) (· = 5) [5, version, stateType, value] 0
  run (CdmpStateService.step .default) (.initial .default)
    [.start (onlineDevice 2), notify 3 200 8, notify 4 3 1,
      .deviceEvent .restarted ⟨5, 9, 0, .online⟩, notify 8 4 2]

/-- The heartbeat of the source. -/
def exampleHeartbeat : CdmpHeartbeatMessage where
  deviceId := 5
  healthStatus := .ok
  sequenceNumber := 0
  features := 0
  stateDigest := exampleSource.stateDigest

/-- The replay of the source, out of order and with a duplicate. -/
def exampleDeliveries : List (CdmpStateChangeMessage × UInt32) :=
  let first : CdmpStateChangeMessage := ⟨5, 1, 1, ⟨[7], by decide⟩⟩
  let second : CdmpStateChangeMessage := ⟨5, 2, 3, ⟨[9], by decide⟩⟩
  [(second, 2000), (first, 2001), (second, 2002)]

theorem copies_converge_out_of_order :
    let heard := (exampleReceiver.onHeartbeat .default (onlineDevice 2) exampleHeartbeat 1000).1
    let replayed := run (CdmpStateService.step .default) heard
      (exampleDeliveries.map (deliver (onlineDevice 2) (· = 5)))
    let converged := (replayed.onHeartbeat .default (onlineDevice 2) exampleHeartbeat 3000).1
    let copies := converged.remoteRecords.filter (·.source = (onlineDevice 5).deviceId)
    copies.map (·.content) = exampleSource.liveRecords ∧ ∀ copy ∈ copies, copy.isStale = false := by
  have sourceTables : StateTables .default exampleSource :=
    run_invariant (StateTables.initial .default) (fun _ label tables => tables.step label) _
  have receiverTables : StateTables .default exampleReceiver :=
    run_invariant (StateTables.initial .default) (fun _ label tables => tables.step label) _
  have isHeartbeat : IsHeartbeatOf exampleSource (onlineDevice 5) exampleHeartbeat :=
    ⟨by decide, by simp only [exampleHeartbeat]⟩
  have replays : exampleSource.replayRecords (onlineDevice 5) =
      some [⟨5, 1, 1, ⟨[7], by decide⟩⟩, ⟨5, 2, 3, ⟨[9], by decide⟩⟩] := by decide +kernel
  refine copies_converge rfl sourceTables receiverTables (by decide) (by decide) (by decide)
    ?_ ?_ replays (fun message => ?_) isHeartbeat isHeartbeat 1000 3000 ?_ ?_
  · unfold NotOverflowed
    decide +kernel
  · unfold RoomFor
    decide +kernel
  · simp only [exampleDeliveries, List.map_cons, List.map_nil, List.mem_cons, List.not_mem_nil]
    tauto
  · unfold DigestsTell
    decide +kernel
  · unfold DigestsTell
    decide +kernel

end RtCore.Cdmp
