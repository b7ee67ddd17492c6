import Mathlib.Data.List.Perm.Basic
import RtCore.Foundation.Run
import RtCore.Cdmp.StateService

/-!
# The tables of the shared state

The binary searches of `CdmpStateService` are right only on sorted tables, so
everything said about its records rests on the tables staying sorted.

What an operation does to this unit's records is said once. Either it is quiet: no
record gets a new version and only withdrawn records leave the table. Or it changes
the record of one type: `keptRecords` are the records beside which the new version
is put, and the refresh loop then runs over them.

## Main definitions

* `StateRecord`, `digestOf` — what of a record travels, and the digest over it
* `keptRecords` — the records that stay beside a changed one
* `LocalQuiet`, `LocalChange` — what an operation does to this unit's records
* `TablesConsistent` — the tables are sorted, within their capacities and published

## Main results

* `step_of_changedType_eq_none`, `step_of_changedType_eq_some` — every operation is
  quiet or a change of the record of one type
* `tablesConsistent_of_run` — the tables are consistent in every state of every run
-/

namespace RtCore.Cdmp

open RtCore.Foundation

/-! ### Byte order -/

theorem UInt8.lt_of_not_lt_of_ne {a b : UInt8} (notBelow : ¬ a < b) (other : a ≠ b) : b < a := by
  rw [UInt8.lt_iff_toNat_lt] at notBelow ⊢
  have : a.toNat ≠ b.toNat := fun same => other (UInt8.toNat_inj.mp same)
  omega

/-! ### What of a record travels -/

/-- Type, version and data of a record, at the unit that owns it and in every copy. -/
structure StateRecord where
  stateType : UInt8
  version : UInt8
  data : CdmpStateData
deriving DecidableEq, Repr

/-- What a record of this unit tells others. -/
def LocalRecord.content (record : LocalRecord) : StateRecord :=
  ⟨record.stateType, record.version, record.data⟩

/-- What a copy tells of the source's record. -/
def RemoteRecord.content (record : RemoteRecord) : StateRecord :=
  ⟨record.stateType, record.version, record.data⟩

/-- The CRC over the records, in their order. -/
def digestOf (parameters : CdmpStateParameters) (records : List StateRecord) : UInt8 :=
  records.foldl
    (fun digest record =>
      addToDigest parameters digest record.stateType record.version record.data) 0

namespace CdmpStateService

/-- The records of this unit that are not withdrawn. -/
def liveRecords (service : CdmpStateService) : List StateRecord :=
  (service.localRecords.filter (!·.isWithdrawn)).map (·.content)

end CdmpStateService

theorem localDigest_eq (parameters : CdmpStateParameters) (records : List LocalRecord) :
    localDigest parameters records =
      digestOf parameters ((records.filter (!·.isWithdrawn)).map (·.content)) := by
  rw [localDigest, digestOf, List.foldl_map, List.foldl_filter]
  congr 1
  funext digest record
  cases record.isWithdrawn <;> simp [LocalRecord.content]

theorem remoteDigest_eq (parameters : CdmpStateParameters) (records : List RemoteRecord) :
    remoteDigest parameters records = digestOf parameters (records.map (·.content)) := by
  rw [remoteDigest, digestOf, List.foldl_map]
  rfl

/-! ### Acknowledgement sets -/

namespace LocalRecord

/-- Overwriting by the last entry removes the peer, whatever it does to the order. -/
theorem removePeer_perm (peers : List UInt8) (peerId : UInt8) :
    (removePeer peers peerId).Perm (peers.erase peerId) := by
  by_cases member : peerId ∈ peers
  · obtain ⟨before, after, rfl, first⟩ := List.eq_append_cons_of_mem member
    have index : (before ++ peerId :: after).idxOf? peerId = some before.length := by
      have absent : before.findIdx? (· == peerId) = none := List.idxOf?_eq_none_iff.mpr first
      simp [List.idxOf?, List.findIdx?_append, List.findIdx?_cons, absent]
    rw [removePeer, index, List.erase_append_right _ first, List.erase_cons_head]
    rcases List.eq_nil_or_concat after with rfl | ⟨middle, last, rfl⟩
    · simp
    · -- The last entry takes the place of the peer.
      have whole : before ++ peerId :: middle.concat last =
          (before ++ peerId :: middle) ++ [last] := by simp
      rw [whole, List.getLast?_concat]
      have written : ((before ++ peerId :: middle) ++ [last]).set before.length last =
          (before ++ last :: middle) ++ [last] := by simp
      change (((before ++ peerId :: middle) ++ [last]).set before.length last).dropLast.Perm _
      rw [written, List.dropLast_concat]
      refine List.Perm.append_left before ?_
      simpa using (List.perm_append_singleton last middle).symm
  · rw [removePeer, List.idxOf?_eq_none_iff.mpr member, List.erase_of_not_mem member]

/-- At most `stateAckPeersMax` distinct peers. -/
def AcknowledgementsBounded (record : LocalRecord) : Prop :=
  record.unacknowledged.length ≤ CdmpConstants.stateAckPeersMax ∧ record.unacknowledged.Nodup

theorem acknowledgementsBounded_of_nil {record : LocalRecord}
    (empty : record.unacknowledged = []) : record.AcknowledgementsBounded := by
  simp [AcknowledgementsBounded, empty]

theorem AcknowledgementsBounded.acknowledge {record : LocalRecord}
    (bounded : record.AcknowledgementsBounded) (peerId : UInt8) (version : Option UInt8) :
    (record.acknowledge peerId version).AcknowledgementsBounded := by
  unfold LocalRecord.acknowledge
  split_ifs
  · have perm := removePeer_perm record.unacknowledged peerId
    refine ⟨?_, perm.nodup_iff.mpr (bounded.2.erase peerId)⟩
    change (removePeer record.unacknowledged peerId).length ≤ _
    rw [perm.length_eq]
    exact (List.length_erase_le ..).trans bounded.1
  · exact bounded

theorem AcknowledgementsBounded.transmit {record : LocalRecord}
    (bounded : record.AcknowledgementsBounded) (peers : CdmpStatePeers) (now : ℤ) :
    (record.transmit peers now).1.AcknowledgementsBounded := by
  unfold LocalRecord.transmit
  dsimp only
  split_ifs
  · refine ⟨?_, ?_⟩
    · simpa using (List.length_filter_le ..).trans peers.length_le
    · exact peers.nodup.sublist (List.filter_sublist.map _)
  · exact acknowledgementsBounded_of_nil rfl
  · exact bounded
  · exact bounded

end LocalRecord

/-! ### This unit's records -/

/-- Strictly ascending by type. -/
def LocalSorted (records : List LocalRecord) : Prop :=
  records.Pairwise fun a b => a.stateType < b.stateType

/-- The records that stay beside a changed record of `stateType`: a record of that type is
replaced, and one of a new type takes the slot of the first withdrawn record when all are taken. -/
def keptRecords (capacity : ℕ) (stateType : UInt8) (records : List LocalRecord) :
    List LocalRecord :=
  if records.any (·.stateType = stateType) then records.filter (·.stateType ≠ stateType)
  else if records.length = capacity then records.eraseIdx (records.findIdx (·.isWithdrawn))
  else records

variable {records : List LocalRecord}

theorem LocalSorted.eq_of_mem (sorted : LocalSorted records)
    {record other : LocalRecord} (member : record ∈ records) (otherMember : other ∈ records)
    (same : record.stateType = other.stateType) : record = other := by
  have nodup : (records.map (·.stateType)).Nodup :=
    List.pairwise_map.mpr (sorted.imp UInt8.ne_of_lt)
  exact List.inj_on_of_nodup_map nodup member otherMember same

theorem LocalSorted.partitioned (sorted : LocalSorted records) (stateType : UInt8) :
    Partitioned (fun record : LocalRecord => record.stateType < stateType) records := by
  refine List.Pairwise.imp (fun {a b} below => ?_) sorted
  simp only [decide_eq_true_eq]
  exact UInt8.lt_trans below

/-- A sorted table split around the place of `stateType`. -/
structure SplitsAt (records : List LocalRecord) (stateType : UInt8)
    (front back : List LocalRecord) : Prop where
  below : ∀ record ∈ front, record.stateType < stateType
  above : ∀ record ∈ back, stateType < record.stateType
  append : front ++ back = records

/-- The place a record of a new type is inserted at. -/
theorem LocalSorted.splitsAt (sorted : LocalSorted records) {stateType : UInt8}
    (absent : ∀ record ∈ records, record.stateType ≠ stateType) :
    let index := partitionPoint (fun record : LocalRecord => record.stateType < stateType) records
    SplitsAt records stateType (records.take index) (records.drop index) := by
  have parts := sorted.partitioned stateType
  refine ⟨fun record member => ?_, fun record member => ?_, List.take_append_drop ..⟩
  · rw [take_partitionPoint parts, List.mem_filter, decide_eq_true_eq] at member
    exact member.2
  · rw [drop_partitionPoint parts, List.mem_filter, Bool.not_eq_true', decide_eq_false_iff_not]
      at member
    exact UInt8.lt_of_not_lt_of_ne member.2 (absent record member.1)

theorem SplitsAt.sorted_cons {front back : List LocalRecord} {stateType : UInt8}
    (splits : SplitsAt records stateType front back) (sorted : LocalSorted records)
    {record : LocalRecord} (own : record.stateType = stateType) :
    LocalSorted (front ++ record :: back) := by
  rw [LocalSorted, ← splits.append, List.pairwise_append] at sorted
  rw [LocalSorted, List.pairwise_append, List.pairwise_cons, own]
  refine ⟨sorted.1, ⟨splits.above, sorted.2.1⟩, fun a member b later => ?_⟩
  rcases List.mem_cons.mp later with rfl | later
  · rw [own]
    exact splits.below a member
  · exact sorted.2.2 a member b later

namespace CdmpStateService

variable {service : CdmpStateService} {stateType : UInt8}

/-- The search finds the record of the type, with smaller types before it and larger after it. -/
theorem findLocalRecord_eq_some {index : ℕ} (sorted : LocalSorted service.localRecords)
    (found : service.findLocalRecord stateType = some index) :
    ∃ front record back, service.localRecords = front ++ record :: back ∧ front.length = index ∧
      record.stateType = stateType ∧
      (∀ other ∈ front, other.stateType < stateType) ∧
      (∀ other ∈ back, stateType < other.stateType) := by
  simp only [findLocalRecord] at found
  split at found
  · rename_i record atPoint
    split_ifs at found with own
    obtain ⟨front, back, whole, length, below, -⟩ :=
      exists_split_of_getElem? (sorted.partitioned stateType) atPoint
    refine ⟨front, record, back, whole, length.trans (Option.some.inj found), own,
      fun other member => of_decide_eq_true (below other member), fun other member => ?_⟩
    rw [LocalSorted, whole, List.pairwise_append, List.pairwise_cons] at sorted
    exact own ▸ sorted.2.1.1 other member
  · cases found

theorem findLocalRecord_eq_none (sorted : LocalSorted service.localRecords)
    (found : service.findLocalRecord stateType = none) :
    ∀ record ∈ service.localRecords, record.stateType ≠ stateType := by
  apply not_key_of_getElem? sorted (sorted.partitioned stateType)
  · rintro record rfl
    exact decide_eq_false (UInt8.lt_irrefl _)
  · rintro first record below notBefore rfl
    exact of_decide_eq_false notBefore below
  · intro record atPoint own
    simp [findLocalRecord, atPoint, own] at found

end CdmpStateService

/-! ### Operations on this unit's records -/

/-- A record that is not withdrawn has a type and data. -/
def LocalRecord.WellFormed (record : LocalRecord) : Prop :=
  record.isWithdrawn = false → record.stateType ≠ 0 ∧ record.data.isEmpty = false

/-- The record of `stateType` got the next version and stands between the kept records, over
which the refresh loop then ran. -/
structure LocalChange (parameters : CdmpStateParameters) (stateType : UInt8)
    (before after : CdmpStateService) (front back : List LocalRecord) (record : LocalRecord) :
    Prop where
  splits : SplitsAt (keptRecords parameters.maxLocalRecords stateType before.localRecords)
    stateType front back
  room : front.length + back.length < parameters.maxLocalRecords
  own : record.stateType = stateType
  stamped : record.version = before.versionCounter + 1
  unacknowledged : record.unacknowledged = []
  wellFormed : record.WellFormed
  counter : after.versionCounter =
    (refreshLaggingVersions (before.versionCounter + 1) (front ++ record :: back)).1
  records : after.localRecords =
    (refreshLaggingVersions (before.versionCounter + 1) (front ++ record :: back)).2
  published : after.stateDigest = localDigest parameters after.localRecords
  others : after.remoteRecords = before.remoteRecords

/-- No record got a new version, and only withdrawn records left the table. -/
structure LocalQuiet (before after : CdmpStateService) : Prop where
  counter : after.versionCounter = before.versionCounter
  digest : after.stateDigest = before.stateDigest
  records : ∃ (update : LocalRecord → LocalRecord) (keeps : LocalRecord → Bool),
    after.localRecords = (before.localRecords.map update).filter keeps ∧
    ∀ record, (update record).content = record.content ∧
      (update record).isWithdrawn = record.isWithdrawn ∧
      (record.AcknowledgementsBounded → (update record).AcknowledgementsBounded) ∧
      (keeps (update record) = false → record.isWithdrawn = true)

private theorem modify_append_cons {α : Type} (front back : List α) (x : α) (f : α → α) :
    (front ++ x :: back).modify front.length f = front ++ f x :: back := by
  induction front with
  | nil => rfl
  | cons y front ih => simpa using ih

private theorem set_append_cons {α : Type} (front back : List α) (x y : α) :
    (front ++ x :: back).set front.length y = front ++ y :: back := by
  simp

/-- A table that holds the type keeps all its other records. -/
theorem splitsAt_keptRecords {front back : List LocalRecord} {record : LocalRecord}
    {stateType : UInt8} (capacity : ℕ) (own : record.stateType = stateType)
    (below : ∀ other ∈ front, other.stateType < stateType)
    (above : ∀ other ∈ back, stateType < other.stateType) :
    SplitsAt (keptRecords capacity stateType (front ++ record :: back)) stateType front back := by
  refine ⟨below, above, ?_⟩
  have frontKept : front.filter (·.stateType ≠ stateType) = front :=
    List.filter_eq_self.mpr fun other member => by
      simpa using UInt8.ne_of_lt (below other member)
  have backKept : back.filter (·.stateType ≠ stateType) = back :=
    List.filter_eq_self.mpr fun other member => by
      simpa using (UInt8.ne_of_lt (above other member)).symm
  have holds : (front ++ record :: back).any (·.stateType = stateType) = true := by
    simp [own]
  rw [keptRecords, if_pos holds, List.filter_append, frontKept,
    List.filter_cons_of_neg (by simp [own]), backKept]

namespace CdmpStateService

variable {parameters : CdmpStateParameters} {service : CdmpStateService} {stateType : UInt8}

theorem localChange_stampChange {front back : List LocalRecord} {record : LocalRecord}
    (splits : SplitsAt (keptRecords parameters.maxLocalRecords stateType service.localRecords)
      stateType front back)
    (room : front.length + back.length < parameters.maxLocalRecords)
    (own : record.stateType = stateType) (wellFormed : record.WellFormed) :
    LocalChange parameters stateType service
      (stampChange parameters { service with localRecords := front ++ record :: back }
        front.length)
      front back (record.stamp (service.versionCounter + 1)) where
  splits := splits
  room := room
  own := own
  stamped := rfl
  unacknowledged := rfl
  wellFormed := wellFormed
  counter := by simp only [stampChange, modify_append_cons, updateDigest]
  records := by simp only [stampChange, modify_append_cons, updateDigest]
  published := rfl
  others := rfl

/-- The type of the record a withdrawal of `stateType` changes: one that is not withdrawn yet. -/
def withdrawnType (service : CdmpStateService) (stateType : UInt8) : Option UInt8 :=
  if service.localRecords.any fun record =>
      record.stateType = stateType ∧ !record.isWithdrawn then some stateType
  else none

/-- The type whose record the operation changes, if it changes one. -/
def changedType (parameters : CdmpStateParameters) (service : CdmpStateService) :
    StateLabel → Option UInt8
  | .setLocalState stateType data =>
    if data = [] then service.withdrawnType stateType
    else if stateType = 0 ∨ CdmpStateData.maxSize < data.length then none
    else if service.localRecords.any fun record =>
        record.stateType = stateType ∧ !record.isWithdrawn ∧ record.data.bytes = data then none
    else if service.localRecords.all (·.stateType ≠ stateType) ∧
        service.localRecords.length = parameters.maxLocalRecords ∧
        service.localRecords.all (!·.isWithdrawn) then none
    else some stateType
  | .clearLocalState stateType => service.withdrawnType stateType
  | _ => none

theorem clearLocalState_cases (sorted : LocalSorted service.localRecords)
    (capacity : service.localRecords.length ≤ parameters.maxLocalRecords) (stateType : UInt8) :
    (service.withdrawnType stateType = none ∧
      service.clearLocalState parameters stateType = service) ∨
    (service.withdrawnType stateType = some stateType ∧
      ∃ front back record, LocalChange parameters stateType service
        (service.clearLocalState parameters stateType) front back record) := by
  unfold clearLocalState
  cases found : service.findLocalRecord stateType with
  | none =>
    have absent := findLocalRecord_eq_none sorted found
    refine Or.inl ⟨if_neg ?_, rfl⟩
    simpa using fun record member own => absurd own (absent record member)
  | some index =>
    obtain ⟨front, record, back, whole, rfl, own, below, above⟩ :=
      findLocalRecord_eq_some sorted found
    have atIndex : service.localRecords[front.length]? = some record := by simp [whole]
    simp only [atIndex]
    cases withdrawn : record.isWithdrawn with
    | true =>
      refine Or.inl ⟨if_neg ?_, by simp⟩
      -- The other records are of other types.
      simp only [whole, List.any_append, List.any_cons, withdrawn]
      simpa using ⟨fun other member same => absurd same (UInt8.ne_of_lt (below other member)),
        fun other member same => absurd same.symm (UInt8.ne_of_lt (above other member))⟩
    | false =>
      refine Or.inr ⟨if_pos ?_, front, back,
        { record with isWithdrawn := true, data := .empty }.stamp (service.versionCounter + 1), ?_⟩
      · simp [whole, own, withdrawn]
      · simp only [Bool.false_eq_true, if_false]
        rw [whole, set_append_cons]
        refine localChange_stampChange ?_ ?_ own fun live => ?_
        · rw [whole]
          exact splitsAt_keptRecords _ own below above
        · rw [whole, List.length_append, List.length_cons] at capacity
          omega
        · cases live

/-- A new record finds room unless every slot holds a record that is not withdrawn. -/
theorem addLocalRecord_cases (sorted : LocalSorted service.localRecords)
    (capacity : service.localRecords.length ≤ parameters.maxLocalRecords)
    (absent : ∀ record ∈ service.localRecords, record.stateType ≠ stateType) :
    (service.addLocalRecord parameters stateType = none ∧
      service.localRecords.length = parameters.maxLocalRecords ∧
      service.localRecords.all (!·.isWithdrawn)) ∨
    (¬ (service.localRecords.length = parameters.maxLocalRecords ∧
        service.localRecords.all (!·.isWithdrawn)) ∧
      ∃ front back,
        service.addLocalRecord parameters stateType =
          some (front ++ { stateType } :: back, front.length) ∧
        SplitsAt (keptRecords parameters.maxLocalRecords stateType service.localRecords)
          stateType front back ∧
        front.length + back.length < parameters.maxLocalRecords) := by
  have other : service.localRecords.any (·.stateType = stateType) = false := by
    simpa using absent
  -- The insertion splits whatever records are kept.
  have inserts (kept : List LocalRecord) (isKept : kept.Sublist service.localRecords) :
      let index := partitionPoint (fun record : LocalRecord => record.stateType < stateType) kept
      ∃ front back, SplitsAt kept stateType front back ∧
        insertAt kept index { stateType } = front ++ { stateType } :: back ∧
        index = front.length := by
    have keptSorted : LocalSorted kept := sorted.sublist isKept
    have inside := partitionPoint_le_length (keptSorted.partitioned stateType)
    exact ⟨_, _, keptSorted.splitsAt fun record member => absent record (isKept.subset member),
      rfl, (List.length_take_of_le inside).symm⟩
  have lengths {kept front back : List LocalRecord} (splits : SplitsAt kept stateType front back) :
      front.length + back.length = kept.length := by
    rw [← splits.append, List.length_append]
  by_cases full : service.localRecords.length = parameters.maxLocalRecords
  · cases found : service.localRecords.findIdx? (·.isWithdrawn) with
    | none =>
      refine Or.inl ⟨by simp [addLocalRecord, full, found], full, ?_⟩
      simpa using found
    | some index =>
      obtain ⟨inside, rfl⟩ := List.findIdx?_eq_some_iff_findIdx_eq.mp found
      have withdrawn := List.findIdx_getElem (w := inside)
      have kept := List.eraseIdx_sublist service.localRecords
        (service.localRecords.findIdx (·.isWithdrawn))
      obtain ⟨front, back, splits, inserted, length⟩ := inserts _ kept
      refine Or.inr ⟨fun none => ?_, front, back, ?_, ?_, ?_⟩
      · have := List.all_eq_true.mp none.2 _ (List.getElem_mem inside)
        simp [withdrawn] at this
      · rw [← length, ← inserted]
        simp only [addLocalRecord, full, if_true, found]
      · rw [keptRecords, other, if_neg (by simp), if_pos full]
        exact splits
      · rw [lengths splits, List.length_eraseIdx_of_lt inside]
        omega
  · obtain ⟨front, back, splits, inserted, length⟩ := inserts _ (List.Sublist.refl _)
    refine Or.inr ⟨fun none => full none.1, front, back, ?_, ?_, ?_⟩
    · rw [← length, ← inserted]
      simp only [addLocalRecord, full, if_false]
    · rw [keptRecords, other, if_neg (by simp), if_neg full]
      exact splits
    · rw [lengths splits]
      omega

/-- A value that is set already, or finds no room, changes nothing. -/
theorem setLocalState_cases (sorted : LocalSorted service.localRecords)
    (capacity : service.localRecords.length ≤ parameters.maxLocalRecords) (stateType : UInt8)
    (data : List UInt8) :
    (service.changedType parameters (.setLocalState stateType data) = none ∧
      (service.setLocalState parameters stateType data).1 = service) ∨
    (service.changedType parameters (.setLocalState stateType data) = some stateType ∧
      ∃ front back record, LocalChange parameters stateType service
        (service.setLocalState parameters stateType data).1 front back record) := by
  by_cases withdraws : data = []
  · simpa [changedType, setLocalState, withdraws] using
      clearLocalState_cases sorted capacity stateType
  by_cases refused : stateType = 0 ∨ CdmpStateData.maxSize < data.length
  · refine Or.inl ⟨by simp [changedType, withdraws, refused], ?_⟩
    rcases refused with rfl | long
    · simp [setLocalState, withdraws]
    · have none : CdmpStateData.ofBytes? data = none := dif_neg (not_le.mpr long)
      simp only [setLocalState, none]
      split_ifs <;> simp_all
  obtain ⟨nonzero, short⟩ := not_or.mp refused
  have fits : CdmpStateData.ofBytes? data = some ⟨data, not_lt.mp short⟩ :=
    dif_pos (not_lt.mp short)
  have hasData : CdmpStateData.isEmpty ⟨data, not_lt.mp short⟩ = false :=
    CdmpStateData.isEmpty_eq_false.mpr withdraws
  simp only [changedType, if_neg withdraws, if_neg refused]
  simp only [setLocalState, List.isEmpty_iff, if_neg withdraws, if_neg nonzero, fits]
  cases found : service.findLocalRecord stateType with
  | some index =>
    obtain ⟨front, record, back, whole, rfl, own, below, above⟩ :=
      findLocalRecord_eq_some sorted found
    have atIndex : service.localRecords[front.length]? = some record := by simp [whole]
    -- No other record is of the type.
    have same_iff : (service.localRecords.any fun other => other.stateType = stateType ∧
        !other.isWithdrawn ∧ other.data.bytes = data) = true ↔
        (!record.isWithdrawn && record.data = ⟨data, not_lt.mp short⟩) = true := by
      have frontNone : (front.any fun other => other.stateType = stateType ∧
          !other.isWithdrawn ∧ other.data.bytes = data) = false := by
        simpa using fun other member same => absurd same (UInt8.ne_of_lt (below other member))
      have backNone : (back.any fun other => other.stateType = stateType ∧
          !other.isWithdrawn ∧ other.data.bytes = data) = false := by
        simpa using fun other member same =>
          absurd same.symm (UInt8.ne_of_lt (above other member))
      have data_iff : record.data = ⟨data, not_lt.mp short⟩ ↔ record.data.bytes = data :=
        ⟨fun same => by rw [same], fun same => CdmpStateData.ext_bytes same⟩
      rw [whole, List.any_append, List.any_cons, frontNone, backNone]
      simp [own, data_iff]
    have present : ¬ (service.localRecords.all (·.stateType ≠ stateType) ∧
        service.localRecords.length = parameters.maxLocalRecords ∧
        service.localRecords.all (!·.isWithdrawn)) := by
      simp [whole, own]
    simp only [atIndex, Option.any_some, if_neg present]
    by_cases same : (!record.isWithdrawn && record.data = ⟨data, not_lt.mp short⟩) = true
    · exact Or.inl ⟨if_pos (same_iff.mpr same), by rw [if_pos same]⟩
    · refine Or.inr ⟨if_neg (mt same_iff.mp same), front, back,
        { record with isWithdrawn := false, data := ⟨data, not_lt.mp short⟩ }.stamp
          (service.versionCounter + 1), ?_⟩
      rw [if_neg same, whole, modify_append_cons]
      refine localChange_stampChange ?_ ?_ own fun _ => ⟨?_, hasData⟩
      · rw [whole]
        exact splitsAt_keptRecords _ own below above
      · rw [whole, List.length_append, List.length_cons] at capacity
        omega
      · rw [own]
        exact nonzero
  | none =>
    have absent := findLocalRecord_eq_none sorted found
    have unset : (service.localRecords.any fun other => other.stateType = stateType ∧
        !other.isWithdrawn ∧ other.data.bytes = data) = false := by
      simpa using fun other member same => absurd same (absent other member)
    have allOther : service.localRecords.all (·.stateType ≠ stateType) = true := by
      simpa using absent
    simp only [unset, allOther, Bool.false_eq_true, if_false, true_and]
    obtain ⟨refusedRoom, full⟩ | ⟨room, front, back, added, splits, fewer⟩ :=
      addLocalRecord_cases sorted capacity absent
    · exact Or.inl ⟨if_pos full, by rw [refusedRoom]⟩
    · refine Or.inr ⟨if_neg room, front, back,
        ({ stateType, data := ⟨data, not_lt.mp short⟩ } : LocalRecord).stamp
          (service.versionCounter + 1), ?_⟩
      simp only [added, modify_append_cons]
      exact localChange_stampChange splits fewer rfl fun _ => ⟨nonzero, hasData⟩

end CdmpStateService

namespace LocalRecord

variable (record : LocalRecord)

@[simp] theorem content_acknowledge (peerId : UInt8) (version : Option UInt8) :
    (record.acknowledge peerId version).content = record.content := by
  unfold acknowledge
  split_ifs <;> rfl

@[simp] theorem isWithdrawn_acknowledge (peerId : UInt8) (version : Option UInt8) :
    (record.acknowledge peerId version).isWithdrawn = record.isWithdrawn := by
  unfold acknowledge
  split_ifs <;> rfl

@[simp] theorem content_transmit (peers : CdmpStatePeers) (now : ℤ) :
    (record.transmit peers now).1.content = record.content := by
  unfold transmit
  dsimp only
  split_ifs <;> rfl

@[simp] theorem isWithdrawn_transmit (peers : CdmpStatePeers) (now : ℤ) :
    (record.transmit peers now).1.isWithdrawn = record.isWithdrawn := by
  unfold transmit
  dsimp only
  split_ifs <;> rfl

/-- Only withdrawn records are freed. -/
theorem isWithdrawn_of_freed {record : LocalRecord}
    (freed : (!record.isAcknowledgedWithdrawal) = false) : record.isWithdrawn = true := by
  rw [Bool.not_eq_false', isAcknowledgedWithdrawal, Bool.and_eq_true, Bool.and_eq_true] at freed
  exact freed.1.1

end LocalRecord

/-- This unit's records, their counter and their digest are untouched. -/
structure SameLocal (before after : CdmpStateService) : Prop where
  counter : after.versionCounter = before.versionCounter
  digest : after.stateDigest = before.stateDigest
  records : after.localRecords = before.localRecords

theorem SameLocal.quiet {before after : CdmpStateService} (same : SameLocal before after) :
    LocalQuiet before after :=
  ⟨same.counter, same.digest, id, fun _ => true, by simp [same.records], by simp⟩

theorem SameLocal.trans_quiet {before middle after : CdmpStateService}
    (same : SameLocal before middle) (quiet : LocalQuiet middle after) :
    LocalQuiet before after :=
  ⟨quiet.counter.trans same.counter, quiet.digest.trans same.digest, same.records ▸ quiet.records⟩

namespace CdmpStateService

variable (parameters : CdmpStateParameters) (service : CdmpStateService)

theorem sameLocal_removeRemoteRecords (predicate : RemoteRecord → Bool) :
    SameLocal service (service.removeRemoteRecords predicate) := by
  unfold removeRemoteRecords
  dsimp only
  split_ifs
  · exact ⟨rfl, rfl, rfl⟩
  · exact ⟨rfl, rfl, rfl⟩

theorem sameLocal_startSyncRequest (source : UInt8) (now : UInt32) :
    SameLocal service (service.startSyncRequest source now).1 := by
  unfold startSyncRequest
  cases service.addSourceState source now with
  | none => exact ⟨rfl, rfl, rfl⟩
  | some found =>
    dsimp only
    split_ifs
    · exact ⟨rfl, rfl, rfl⟩
    · exact ⟨rfl, rfl, rfl⟩

theorem sameLocal_applyRecord (message : CdmpStateChangeMessage) (now : UInt32) :
    SameLocal service (service.applyRecord parameters message now) := by
  unfold applyRecord
  dsimp only
  split
  · split_ifs
    · exact ⟨rfl, rfl, rfl⟩
    · exact sameLocal_removeRemoteRecords service _
    · exact ⟨rfl, rfl, rfl⟩
    · exact ⟨rfl, rfl, rfl⟩
  · split_ifs
    · exact ⟨rfl, rfl, rfl⟩
    · unfold markOverflowed
      cases service.addSourceState message.sourceDeviceId now with
      | none => exact ⟨rfl, rfl, rfl⟩
      | some found => exact ⟨rfl, rfl, rfl⟩
    · exact ⟨rfl, rfl, rfl⟩

theorem sameLocal_processStateChangeFrame (device : CdmpDevice) (isDeviceOnline : UInt8 → Bool)
    (frame : List UInt8) (now : UInt32) :
    SameLocal service
      (service.processStateChangeFrame parameters device isDeviceOnline frame now).1 := by
  unfold processStateChangeFrame
  split_ifs
  · exact ⟨rfl, rfl, rfl⟩
  split
  · split_ifs
    · exact ⟨rfl, rfl, rfl⟩
    · exact ⟨rfl, rfl, rfl⟩
    · exact ⟨rfl, rfl, rfl⟩
    · exact sameLocal_applyRecord ..
  · exact ⟨rfl, rfl, rfl⟩

theorem sameLocal_onHeartbeat (device : CdmpDevice) (heartbeat : CdmpHeartbeatMessage)
    (now : UInt32) : SameLocal service (service.onHeartbeat parameters device heartbeat now).1 := by
  unfold onHeartbeat
  dsimp only
  split_ifs
  · exact ⟨rfl, rfl, rfl⟩
  · exact ⟨rfl, rfl, rfl⟩
  · exact sameLocal_removeRemoteRecords service _
  · have same := sameLocal_startSyncRequest
      (service.mapSourceRecords heartbeat.deviceId ({ · with isStale := true }))
      heartbeat.deviceId now
    exact ⟨same.counter, same.digest, same.records⟩

theorem localQuiet_removeFromAcknowledgementSets (peerId : UInt8) (version : Option UInt8) :
    LocalQuiet service (service.removeFromAcknowledgementSets peerId version) where
  counter := rfl
  digest := rfl
  records := by
    refine ⟨(·.acknowledge peerId version), (!·.isAcknowledgedWithdrawal), rfl, fun record => ?_⟩
    refine ⟨record.content_acknowledge .., record.isWithdrawn_acknowledge ..,
      fun bounded => bounded.acknowledge peerId version, fun freed => ?_⟩
    rw [← record.isWithdrawn_acknowledge peerId version]
    exact LocalRecord.isWithdrawn_of_freed freed

theorem localQuiet_dropSource (source : UInt8) :
    LocalQuiet service (service.dropSource source) := by
  have quiet := (sameLocal_removeRemoteRecords service (·.source = source)).trans_quiet
    (localQuiet_removeFromAcknowledgementSets _ source none)
  unfold dropSource
  dsimp only
  split
  · exact quiet
  · exact ⟨quiet.counter, quiet.digest, quiet.records⟩

theorem localQuiet_forgetNetwork : LocalQuiet service (service.forgetNetwork parameters) := by
  have same := sameLocal_removeRemoteRecords service fun _ => true
  refine ⟨same.counter, same.digest, ({ · with unacknowledged := [] }), fun _ => true, ?_,
    fun record => ⟨rfl, rfl, fun _ => LocalRecord.acknowledgementsBounded_of_nil rfl, by simp⟩⟩
  simp only [forgetNetwork, same.records, List.filter_true]

theorem localQuiet_transmit (device : CdmpDevice) (peers : CdmpStatePeers) (now : ℤ) :
    LocalQuiet service (service.transmit device peers now).1 := by
  by_cases idle : (!service.isStarted || !device.isOnline) = true
  · simp only [transmit, if_pos idle]
    exact SameLocal.quiet ⟨rfl, rfl, rfl⟩
  · let announce (record : LocalRecord) : LocalRecord :=
      { record with
        isAnnouncePending := service.isAnnounceAllPending || record.isAnnouncePending }
    simp only [transmit, if_neg idle]
    refine ⟨rfl, rfl, fun record => ((announce record).transmit peers now).1,
      (!·.isAcknowledgedWithdrawal), ?_, fun record => ?_⟩
    · have announced : (if service.isAnnounceAllPending then
          service.localRecords.map ({ · with isAnnouncePending := true })
          else service.localRecords) = service.localRecords.map announce := by
        cases pending : service.isAnnounceAllPending <;> simp [announce, pending]
      simp only [announced, freeAcknowledgedWithdrawals, List.map_map]
      rfl
    · refine ⟨(announce record).content_transmit .., (announce record).isWithdrawn_transmit ..,
        fun bounded => ?_, fun freed => ?_⟩
      · have announced : (announce record).AcknowledgementsBounded := bounded
        exact announced.transmit peers now
      · rw [← (announce record).isWithdrawn_transmit peers now]
        exact LocalRecord.isWithdrawn_of_freed freed

variable {parameters service}

theorem step_of_changedType_eq_none (sorted : LocalSorted service.localRecords)
    (capacity : service.localRecords.length ≤ parameters.maxLocalRecords) {label : StateLabel}
    (unchanged : service.changedType parameters label = none) :
    LocalQuiet service (step parameters service label) := by
  -- A call that changes a local record names its type; the network side only removes
  -- acknowledgements.
  cases label with
  | setLocalState stateType data =>
    obtain ⟨-, same⟩ | ⟨changes, -⟩ :=
      setLocalState_cases sorted capacity stateType data
    · exact SameLocal.quiet (by rw [step, same]; exact ⟨rfl, rfl, rfl⟩)
    · rw [changes] at unchanged
      cases unchanged
  | clearLocalState stateType =>
    obtain ⟨-, same⟩ | ⟨changes, -⟩ := clearLocalState_cases sorted capacity stateType
    · exact SameLocal.quiet (by rw [step, same]; exact ⟨rfl, rfl, rfl⟩)
    · rw [changedType, changes] at unchanged
      cases unchanged
  | stateChangeFrame device isDeviceOnline frame now =>
    exact (sameLocal_processStateChangeFrame ..).quiet
  | stateChangeResponseFrame device frame =>
    simp only [step, processStateChangeResponseFrame]
    split_ifs
    · exact SameLocal.quiet ⟨rfl, rfl, rfl⟩
    split
    · split_ifs
      · exact SameLocal.quiet ⟨rfl, rfl, rfl⟩
      · exact localQuiet_removeFromAcknowledgementSets ..
    · exact SameLocal.quiet ⟨rfl, rfl, rfl⟩
  | heartbeat device heartbeat now => exact (sameLocal_onHeartbeat ..).quiet
  | deviceEvent event device =>
    cases event with
    | joined => exact SameLocal.quiet ⟨rfl, rfl, rfl⟩
    | restarted => exact SameLocal.quiet ⟨rfl, rfl, rfl⟩
    | left => exact localQuiet_dropSource ..
  | deviceStatusChanged change =>
    simp only [step, onDeviceStatusChanged]
    split_ifs
    · exact SameLocal.quiet ⟨rfl, rfl, rfl⟩
    · exact localQuiet_forgetNetwork ..
    · exact SameLocal.quiet ⟨rfl, rfl, rfl⟩
  | transmit device peers now => exact localQuiet_transmit ..
  | notifyStateHandlers => exact SameLocal.quiet ⟨rfl, rfl, rfl⟩
  | start device => exact SameLocal.quiet ⟨rfl, rfl, rfl⟩
  | stop =>
    have quiet := localQuiet_forgetNetwork parameters { service with isStarted := false }
    exact ⟨quiet.counter, quiet.digest, quiet.records⟩

theorem step_of_changedType_eq_some (sorted : LocalSorted service.localRecords)
    (capacity : service.localRecords.length ≤ parameters.maxLocalRecords) {label : StateLabel}
    {stateType : UInt8} (changed : service.changedType parameters label = some stateType) :
    ∃ front back record,
      LocalChange parameters stateType service (step parameters service label) front back
        record := by
  cases label with
  | setLocalState changing data =>
    obtain ⟨unchanged, -⟩ | ⟨changes, change⟩ := setLocalState_cases sorted capacity changing data
    · rw [unchanged] at changed
      cases changed
    · obtain rfl : changing = stateType := Option.some.inj (changes.symm.trans changed)
      exact change
  | clearLocalState changing =>
    obtain ⟨unchanged, -⟩ | ⟨changes, change⟩ := clearLocalState_cases sorted capacity changing
    · rw [changedType, unchanged] at changed
      cases changed
    · obtain rfl : changing = stateType := Option.some.inj (changes.symm.trans changed)
      exact change
  | _ => cases changed

end CdmpStateService

/-! ### The refresh loop -/

theorem map_stateType_refreshLaggingVersions (versionCounter : UInt8)
    (records : List LocalRecord) :
    (refreshLaggingVersions versionCounter records).2.map (·.stateType) =
      records.map (·.stateType) := by
  induction records generalizing versionCounter with
  | nil => rfl
  | cons record records ih =>
    simp only [refreshLaggingVersions]
    split_ifs
    · simp [ih]
    · simp [ih, LocalRecord.stamp]

theorem length_refreshLaggingVersions (versionCounter : UInt8) (records : List LocalRecord) :
    (refreshLaggingVersions versionCounter records).2.length = records.length := by
  simpa using congrArg List.length (map_stateType_refreshLaggingVersions versionCounter records)

/-- Each record is left as it is, or stamped if it is not withdrawn. -/
theorem mem_refreshLaggingVersions {versionCounter : UInt8} {records : List LocalRecord}
    {refreshed : LocalRecord}
    (member : refreshed ∈ (refreshLaggingVersions versionCounter records).2) :
    refreshed ∈ records ∨ ∃ record ∈ records, record.isWithdrawn = false ∧
      ∃ version, refreshed = record.stamp version := by
  induction records generalizing versionCounter with
  | nil => cases member
  | cons record records ih =>
    simp only [refreshLaggingVersions] at member
    split_ifs at member with skipped
    · rcases List.mem_cons.mp member with rfl | later
      · exact Or.inl List.mem_cons_self
      · exact (ih later).imp (List.mem_cons_of_mem _) fun ⟨original, isOriginal, rest⟩ =>
          ⟨original, List.mem_cons_of_mem _ isOriginal, rest⟩
    · rcases List.mem_cons.mp member with rfl | later
      · rw [not_or, Bool.not_eq_true] at skipped
        exact Or.inr ⟨record, List.mem_cons_self, skipped.1, _, rfl⟩
      · exact (ih later).imp (List.mem_cons_of_mem _) fun ⟨original, isOriginal, rest⟩ =>
          ⟨original, List.mem_cons_of_mem _ isOriginal, rest⟩

theorem keptRecords_sublist (capacity : ℕ) (stateType : UInt8) (records : List LocalRecord) :
    (keptRecords capacity stateType records).Sublist records := by
  unfold keptRecords
  split_ifs
  · exact List.filter_sublist
  · exact List.eraseIdx_sublist ..
  · exact List.Sublist.refl records

/-- A live record of another type keeps its slot. -/
theorem mem_keptRecords {capacity : ℕ} {stateType : UInt8} {records : List LocalRecord}
    {record : LocalRecord} (member : record ∈ records) (other : record.stateType ≠ stateType)
    (live : record.isWithdrawn = false) : record ∈ keptRecords capacity stateType records := by
  unfold keptRecords
  split_ifs
  · simpa using ⟨member, other⟩
  · obtain ⟨index, inside, rfl⟩ := List.mem_iff_getElem.mp member
    refine List.mem_eraseIdx_iff_getElem?.mpr ⟨index, ?_, List.getElem?_eq_getElem inside⟩
    rintro rfl
    have withdrawn := List.findIdx_getElem (w := inside)
    simp [live] at withdrawn
  · exact member

/-- This unit's table: sorted, within its capacity, acknowledgement sets within theirs, and the
digest published. -/
structure LocalTable (parameters : CdmpStateParameters) (service : CdmpStateService) : Prop where
  sorted : LocalSorted service.localRecords
  length_le : service.localRecords.length ≤ parameters.maxLocalRecords
  bounded : ∀ record ∈ service.localRecords, record.AcknowledgementsBounded
  wellFormed : ∀ record ∈ service.localRecords, record.WellFormed
  published : service.stateDigest = digestOf parameters service.liveRecords

variable {parameters : CdmpStateParameters} {before after : CdmpStateService}

theorem LocalQuiet.liveRecords_eq (quiet : LocalQuiet before after) :
    after.liveRecords = before.liveRecords := by
  obtain ⟨update, keeps, records, updates⟩ := quiet.records
  have live : (before.localRecords.map update |>.filter keeps).filter (!·.isWithdrawn) =
      (before.localRecords.filter (!·.isWithdrawn)).map update := by
    rw [List.filter_filter, List.filter_map]
    congr 1
    refine List.filter_congr fun record _ => ?_
    obtain ⟨-, sameWithdrawn, -, freed⟩ := updates record
    simp only [Function.comp_apply, sameWithdrawn]
    cases kept : keeps (update record) with
    | true => simp
    | false => simp [freed kept]
  rw [CdmpStateService.liveRecords, records, live, List.map_map]
  exact List.map_congr_left fun record _ => (updates record).1

theorem LocalTable.of_quiet (table : LocalTable parameters before)
    (quiet : LocalQuiet before after) : LocalTable parameters after := by
  obtain ⟨update, keeps, records, updates⟩ := quiet.records
  have sameType (record : LocalRecord) : (update record).stateType = record.stateType :=
    congrArg StateRecord.stateType (updates record).1
  constructor
  · rw [LocalSorted, records]
    refine List.Pairwise.filter _ (List.pairwise_map.mpr ?_)
    simp only [sameType]
    exact table.sorted
  · rw [records]
    exact ((List.length_filter_le ..).trans_eq (List.length_map ..)).trans table.length_le
  · intro record member
    rw [records] at member
    obtain ⟨original, isOriginal, rfl⟩ := List.mem_map.mp (List.mem_filter.mp member).1
    exact (updates original).2.2.1 (table.bounded original isOriginal)
  · intro record member live
    rw [records] at member
    obtain ⟨original, isOriginal, rfl⟩ := List.mem_map.mp (List.mem_filter.mp member).1
    have sameData : (update original).data = original.data :=
      congrArg StateRecord.data (updates original).1
    rw [(updates original).2.1] at live
    rw [sameType, sameData]
    exact table.wellFormed original isOriginal live
  · rw [quiet.digest, quiet.liveRecords_eq]
    exact table.published

/-- The records the loop runs over: the changed one, and kept ones. -/
theorem LocalChange.mem_iff {stateType : UInt8} {front back : List LocalRecord}
    {record : LocalRecord}
    (change : LocalChange parameters stateType before after front back record)
    {other : LocalRecord} :
    other ∈ front ++ record :: back ↔ other = record ∨
      other ∈ keptRecords parameters.maxLocalRecords stateType before.localRecords := by
  rw [← change.splits.append]
  simp [or_left_comm]

theorem LocalTable.of_change {stateType : UInt8} {front back : List LocalRecord}
    {record : LocalRecord} (table : LocalTable parameters before)
    (change : LocalChange parameters stateType before after front back record) :
    LocalTable parameters after := by
  have kept := keptRecords_sublist parameters.maxLocalRecords stateType before.localRecords
  constructor
  · have sorted := change.splits.sorted_cons (table.sorted.sublist kept) change.own
    have sameTypes := map_stateType_refreshLaggingVersions (before.versionCounter + 1)
      (front ++ record :: back)
    rw [LocalSorted, ← List.pairwise_map (R := (· < ·))] at sorted ⊢
    rwa [change.records, sameTypes]
  · have room := change.room
    rw [change.records, length_refreshLaggingVersions, List.length_append, List.length_cons]
    omega
  · intro refreshed member
    rw [change.records] at member
    obtain isKept | ⟨original, -, -, version, rfl⟩ := mem_refreshLaggingVersions member
    · rcases change.mem_iff.mp isKept with rfl | isKept
      · exact LocalRecord.acknowledgementsBounded_of_nil change.unacknowledged
      · exact table.bounded refreshed (kept.subset isKept)
    · exact LocalRecord.acknowledgementsBounded_of_nil rfl
  · -- A refresh leaves type and data alone.
    have wellFormed (other : LocalRecord) (isOther : other ∈ front ++ record :: back) :
        other.WellFormed := by
      rcases change.mem_iff.mp isOther with rfl | isKept
      · exact change.wellFormed
      · exact table.wellFormed other (kept.subset isKept)
    intro refreshed member
    rw [change.records] at member
    obtain isKept | ⟨original, isOriginal, -, version, rfl⟩ := mem_refreshLaggingVersions member
    · exact wellFormed refreshed isKept
    · exact wellFormed original isOriginal
  · rw [change.published, localDigest_eq]
    rfl

theorem LocalTable.step {service : CdmpStateService} (table : LocalTable parameters service)
    (label : StateLabel) : LocalTable parameters (service.step parameters label) := by
  cases changed : service.changedType parameters label with
  | none =>
    have quiet :=
      CdmpStateService.step_of_changedType_eq_none table.sorted table.length_le changed
    exact table.of_quiet quiet
  | some stateType =>
    obtain ⟨front, back, record, change⟩ :=
      CdmpStateService.step_of_changedType_eq_some table.sorted table.length_le changed
    exact table.of_change change

/-! ### Copies of other units' records -/

namespace RemoteRecord

/-- The record comes before the other by source, then type. -/
def Precedes (record other : RemoteRecord) : Prop :=
  record.isBefore other.source other.stateType

theorem isBefore_iff {record : RemoteRecord} {source stateType : UInt8} :
    record.isBefore source stateType = true ↔
      record.source.toNat < source.toNat ∨
        record.source.toNat = source.toNat ∧ record.stateType.toNat < stateType.toNat := by
  simp [isBefore, UInt8.lt_iff_toNat_lt, UInt8.toNat_inj]

end RemoteRecord

/-- The copies are in the order of source and type. -/
def RemoteSorted (records : List RemoteRecord) : Prop := records.Pairwise RemoteRecord.Precedes

variable {copies : List RemoteRecord}

theorem RemoteSorted.partitioned (sorted : RemoteSorted copies) (source stateType : UInt8) :
    Partitioned (·.isBefore source stateType) copies := by
  refine List.Pairwise.imp (fun {a b} precedes => ?_) sorted
  rw [RemoteRecord.Precedes] at precedes
  simp only [RemoteRecord.isBefore_iff] at precedes ⊢
  omega

theorem RemoteSorted.source_le (sorted : RemoteSorted copies) :
    copies.Pairwise fun a b => a.source.toNat ≤ b.source.toNat := by
  refine List.Pairwise.imp (fun {a b} precedes => ?_) sorted
  rw [RemoteRecord.Precedes, RemoteRecord.isBefore_iff] at precedes
  omega

theorem RemoteSorted.partitioned_below (sorted : RemoteSorted copies) (source : UInt8) :
    Partitioned (fun copy : RemoteRecord => copy.source < source) copies := by
  refine List.Pairwise.imp (fun {a b} le => ?_) sorted.source_le
  simp only [decide_eq_true_eq, UInt8.lt_iff_toNat_lt]
  omega

theorem RemoteSorted.partitioned_notAbove (sorted : RemoteSorted copies) (source : UInt8) :
    Partitioned (fun copy : RemoteRecord => ¬ source < copy.source) copies := by
  refine List.Pairwise.imp (fun {a b} le => ?_) sorted.source_le
  simp only [decide_eq_true_eq, UInt8.lt_iff_toNat_lt]
  omega

private theorem below_implies_notAbove (source : UInt8) (copy : RemoteRecord)
    (below : decide (copy.source < source) = true) : decide (¬ source < copy.source) = true := by
  simp only [decide_eq_true_eq, UInt8.lt_iff_toNat_lt] at below ⊢
  omega

namespace CdmpStateService

variable {service : CdmpStateService}

/-- Between the bounds the search finds stand exactly the copies of the source. -/
theorem sourceRecords_eq_filter (sorted : RemoteSorted service.remoteRecords) (source : UInt8) :
    service.sourceRecords source = service.remoteRecords.filter (·.source = source) := by
  simp only [sourceRecords, sourceRange]
  rw [drop_take_partitionPoint (sorted.partitioned_below source)
    (sorted.partitioned_notAbove source) (below_implies_notAbove source)]
  refine List.filter_congr fun copy _ => ?_
  rw [Bool.eq_iff_iff]
  simp only [Bool.and_eq_true, Bool.not_eq_true', decide_eq_true_eq, decide_eq_false_iff_not,
    UInt8.lt_iff_toNat_lt, ← UInt8.toNat_inj]
  omega

theorem remoteRecords_mapSourceRecords (sorted : RemoteSorted service.remoteRecords)
    (source : UInt8) (f : RemoteRecord → RemoteRecord) :
    (service.mapSourceRecords source f).remoteRecords =
      service.remoteRecords.map fun copy => if copy.source = source then f copy else copy := by
  have below := take_partitionPoint (sorted.partitioned_below source)
  have above := drop_partitionPoint (sorted.partitioned_notAbove source)
  have own := sourceRecords_eq_filter sorted source
  have ordered := partitionPoint_mono (sorted.partitioned_below source)
    (sorted.partitioned_notAbove source) (below_implies_notAbove source)
  simp only [sourceRecords, sourceRange] at own
  simp only [mapSourceRecords, sourceRange]
  have whole := take_append_range_append_drop service.remoteRecords ordered
  rw [own, below, above] at whole ⊢
  nth_rewrite 4 [← whole]
  rw [List.map_append, List.map_append]
  congr 1
  · congr 1
    · refine ((List.map_congr_left fun copy member => if_neg ?_).trans (List.map_id _)).symm
      rintro rfl
      exact UInt8.lt_irrefl _ (of_decide_eq_true (List.mem_filter.mp member).2)
    · refine List.map_congr_left fun copy member => (if_pos ?_).symm
      exact of_decide_eq_true (List.mem_filter.mp member).2
  · refine ((List.map_congr_left fun copy member => if_neg ?_).trans (List.map_id _)).symm
    rintro rfl
    simpa using (List.mem_filter.mp member).2

theorem remoteRecords_removeRemoteRecords (service : CdmpStateService)
    (predicate : RemoteRecord → Bool) :
    (service.removeRemoteRecords predicate).remoteRecords =
      service.remoteRecords.filter (!predicate ·) := by
  unfold removeRemoteRecords
  dsimp only
  split_ifs with none
  · rw [List.isEmpty_iff, List.filter_eq_nil_iff] at none
    exact (List.filter_eq_self.mpr fun copy member => by simpa using none copy member).symm
  · rfl

theorem remoteRecords_dropSource (service : CdmpStateService) (source : UInt8) :
    (service.dropSource source).remoteRecords =
      service.remoteRecords.filter (fun copy => !decide (copy.source = source)) := by
  have removed := remoteRecords_removeRemoteRecords service (·.source = source)
  unfold dropSource
  dsimp only
  split
  · exact removed
  · exact removed

theorem findRemoteRecord_some {source stateType : UInt8} {index : ℕ} {record : RemoteRecord}
    (sorted : RemoteSorted service.remoteRecords)
    (found : service.findRemoteRecord source stateType = (index, some record)) :
    record.source = source ∧ record.stateType = stateType ∧
      ∃ front back, service.remoteRecords = front ++ record :: back ∧ front.length = index := by
  simp only [findRemoteRecord, Prod.mk.injEq, Option.filter_eq_some_iff, decide_eq_true_eq] at found
  obtain ⟨rfl, atPoint, own⟩ := found
  obtain ⟨front, back, whole, length, -⟩ :=
    exists_split_of_getElem? (sorted.partitioned source stateType) atPoint
  exact ⟨own.1, own.2, front, back, whole, length⟩

theorem findRemoteRecord_none {source stateType : UInt8} {index : ℕ}
    (sorted : RemoteSorted service.remoteRecords)
    (found : service.findRemoteRecord source stateType = (index, none)) :
    index = partitionPoint (·.isBefore source stateType) service.remoteRecords ∧
      ∀ copy ∈ service.remoteRecords, ¬ (copy.source = source ∧ copy.stateType = stateType) := by
  simp only [findRemoteRecord, Prod.mk.injEq, Option.filter_eq_none_iff, decide_eq_true_eq] at found
  refine ⟨found.1.symm, ?_⟩
  apply not_key_of_getElem? sorted (sorted.partitioned source stateType)
  · rintro copy ⟨rfl, rfl⟩
    rw [← Bool.not_eq_true, RemoteRecord.isBefore_iff]
    omega
  · rintro first copy precedes notBefore ⟨rfl, rfl⟩
    rw [RemoteRecord.Precedes, notBefore] at precedes
    cases precedes
  · exact found.2

end CdmpStateService

/-- The copies are sorted, within their capacity, of a non-zero type, and hold data. -/
structure RemoteTable (parameters : CdmpStateParameters) (service : CdmpStateService) : Prop where
  sorted : RemoteSorted service.remoteRecords
  length_le : service.remoteRecords.length ≤ parameters.maxRemoteRecords
  wellFormed : ∀ copy ∈ service.remoteRecords,
    copy.stateType ≠ 0 ∧ 1 ≤ copy.data.bytes.length ∧ copy.data.bytes.length ≤ 5

section

open CdmpStateService

variable {parameters : CdmpStateParameters} {service : CdmpStateService}

theorem RemoteTable.of_sublist {after : CdmpStateService} (table : RemoteTable parameters service)
    (fewer : after.remoteRecords.Sublist service.remoteRecords) : RemoteTable parameters after where
  sorted := table.sorted.sublist fewer
  length_le := fewer.length_le.trans table.length_le
  wellFormed copy member := table.wellFormed copy (fewer.subset member)

/-- Updates that leave source, type and data alone. -/
theorem RemoteTable.of_map {after : CdmpStateService} {update : RemoteRecord → RemoteRecord}
    (table : RemoteTable parameters service)
    (mapped : after.remoteRecords = service.remoteRecords.map update)
    (same : ∀ copy, (update copy).source = copy.source ∧
      (update copy).stateType = copy.stateType ∧ (update copy).data = copy.data) :
    RemoteTable parameters after where
  sorted := by
    rw [RemoteSorted, mapped, List.pairwise_map]
    refine List.Pairwise.imp (fun {a b} precedes => ?_) table.sorted
    rw [RemoteRecord.Precedes, RemoteRecord.isBefore_iff, (same a).1, (same a).2.1, (same b).1,
      (same b).2.1]
    exact RemoteRecord.isBefore_iff.mp precedes
  length_le := by
    rw [mapped, List.length_map]
    exact table.length_le
  wellFormed := by
    intro copy member
    rw [mapped] at member
    obtain ⟨original, isOriginal, rfl⟩ := List.mem_map.mp member
    rw [(same original).2.1, (same original).2.2]
    exact table.wellFormed original isOriginal

theorem RemoteTable.mapSourceRecords (table : RemoteTable parameters service) (source : UInt8)
    (isStale : Bool) :
    RemoteTable parameters (service.mapSourceRecords source ({ · with isStale })) := by
  refine table.of_map (remoteRecords_mapSourceRecords table.sorted source _) fun copy => ?_
  split_ifs <;> exact ⟨rfl, rfl, rfl⟩

theorem RemoteTable.removeRemoteRecords (table : RemoteTable parameters service)
    (predicate : RemoteRecord → Bool) :
    RemoteTable parameters (service.removeRemoteRecords predicate) := by
  refine table.of_sublist ?_
  rw [remoteRecords_removeRemoteRecords]
  exact List.filter_sublist

/-- A copy takes the place of another of the same source and type. -/
theorem RemoteTable.replace {after : CdmpStateService} (table : RemoteTable parameters service)
    {front back : List RemoteRecord} {replaced : RemoteRecord} (copy : RemoteRecord)
    (whole : service.remoteRecords = front ++ replaced :: back)
    (written : after.remoteRecords = front ++ copy :: back)
    (sameSource : copy.source = replaced.source) (sameType : copy.stateType = replaced.stateType)
    (data : copy.data.isEmpty = false) : RemoteTable parameters after := by
  constructor
  · have sorted := table.sorted
    rw [RemoteSorted, whole, List.pairwise_append, List.pairwise_cons] at sorted
    rw [RemoteSorted, written, List.pairwise_append, List.pairwise_cons]
    simp only [List.forall_mem_cons, RemoteRecord.Precedes, RemoteRecord.isBefore, sameSource,
      sameType] at sorted ⊢
    exact sorted
  · have length_le := table.length_le
    rw [whole] at length_le
    rw [written]
    simpa using length_le
  · have wellFormed := table.wellFormed
    rw [whole] at wellFormed
    rw [written]
    simp only [List.forall_mem_append, List.forall_mem_cons] at wellFormed ⊢
    rw [CdmpStateData.isEmpty_eq_false] at data
    refine ⟨wellFormed.1, ⟨?_, List.length_pos_of_ne_nil data, copy.data.size_le⟩, wellFormed.2.2⟩
    rw [sameType]
    exact wellFormed.2.1.1

/-- A copy is put where no other of its source and type is. -/
theorem RemoteTable.insert {after : CdmpStateService} (table : RemoteTable parameters service)
    (copy : RemoteRecord) (room : service.remoteRecords.length ≠ parameters.maxRemoteRecords)
    (absent : ∀ other ∈ service.remoteRecords,
      ¬ (other.source = copy.source ∧ other.stateType = copy.stateType))
    (written : after.remoteRecords = insertAt service.remoteRecords
      (partitionPoint (·.isBefore copy.source copy.stateType) service.remoteRecords) copy)
    (typed : copy.stateType ≠ 0) (data : copy.data.isEmpty = false) :
    RemoteTable parameters after := by
  constructor
  · rw [RemoteSorted, written]
    refine pairwise_insertAt table.sorted (table.sorted.partitioned _ _)
      (fun other _ before => before) fun other member notBefore => ?_
    have other_ne := absent other member
    rw [← Bool.not_eq_true, RemoteRecord.isBefore_iff] at notBefore
    rw [← UInt8.toNat_inj, ← UInt8.toNat_inj] at other_ne
    rw [RemoteRecord.Precedes, RemoteRecord.isBefore_iff]
    omega
  · have length_le := table.length_le
    rw [written, length_insertAt]
    omega
  · intro other member
    rw [written, mem_insertAt] at member
    rcases member with rfl | member
    · rw [CdmpStateData.isEmpty_eq_false] at data
      exact ⟨typed, List.length_pos_of_ne_nil data, other.data.size_le⟩
    · exact table.wellFormed other member

theorem RemoteTable.applyRecord (table : RemoteTable parameters service)
    {message : CdmpStateChangeMessage} (typed : message.stateType ≠ 0) (now : UInt32) :
    RemoteTable parameters (service.applyRecord parameters message now) := by
  unfold CdmpStateService.applyRecord
  dsimp only
  split
  · rename_i index record found
    obtain ⟨own, ownType, front, back, whole, rfl⟩ := findRemoteRecord_some table.sorted found
    split_ifs with duplicate withdrawal
    · exact table
    · exact table.removeRemoteRecords _
    -- Whether the data changed only matters to the state handlers.
    all_goals
      exact table.replace
        { record with version := message.version, data := message.data, isStale := false } whole
        (by simp [whole]) rfl rfl (Bool.eq_false_of_not_eq_true withdrawal)
  · rename_i index found
    obtain ⟨rfl, absent⟩ := findRemoteRecord_none table.sorted found
    split_ifs with withdrawal full
    · exact table
    · refine table.of_sublist ?_
      unfold markOverflowed
      split <;> exact List.Sublist.refl _
    · exact table.insert
        { source := message.sourceDeviceId, stateType := message.stateType,
          version := message.version, data := message.data }
        full absent rfl typed (Bool.eq_false_of_not_eq_true withdrawal)

theorem RemoteTable.forgetNetwork (table : RemoteTable parameters service) :
    RemoteTable parameters (service.forgetNetwork parameters) :=
  (table.removeRemoteRecords fun _ => true).of_sublist (List.Sublist.refl _)

theorem RemoteTable.onHeartbeat (table : RemoteTable parameters service) (device : CdmpDevice)
    (heartbeat : CdmpHeartbeatMessage) (now : UInt32) :
    RemoteTable parameters (service.onHeartbeat parameters device heartbeat now).1 := by
  unfold CdmpStateService.onHeartbeat
  dsimp only
  split_ifs
  · exact table
  · exact table.mapSourceRecords _ false
  · exact table.removeRemoteRecords _
  · refine (table.mapSourceRecords heartbeat.deviceId true).of_sublist ?_
    unfold startSyncRequest
    split
    · exact List.Sublist.refl _
    · dsimp only
      split_ifs <;> exact List.Sublist.refl _

theorem RemoteTable.processStateChangeFrame (table : RemoteTable parameters service)
    (device : CdmpDevice) (isDeviceOnline : UInt8 → Bool) (frame : List UInt8) (now : UInt32) :
    RemoteTable parameters
      (service.processStateChangeFrame parameters device isDeviceOnline frame now).1 := by
  unfold CdmpStateService.processStateChangeFrame
  split_ifs
  · exact table
  split
  · split_ifs with untyped
    · exact table.of_sublist (List.Sublist.refl _)
    · exact table
    · exact table
    · exact table.applyRecord untyped now
  · exact table.of_sublist (List.Sublist.refl _)

theorem RemoteTable.step (table : RemoteTable parameters service)
    (localTable : LocalTable parameters service) (label : StateLabel) :
    RemoteTable parameters (service.step parameters label) := by
  -- Records are inserted by a state frame only; the other steps drop or mark some.
  cases label with
  | setLocalState stateType data =>
    obtain ⟨-, same⟩ | ⟨-, front, back, record, change⟩ :=
      setLocalState_cases localTable.sorted localTable.length_le stateType data
    · rw [CdmpStateService.step, same]
      exact table
    · exact table.of_sublist (by rw [CdmpStateService.step, change.others])
  | clearLocalState stateType =>
    obtain ⟨-, same⟩ | ⟨-, front, back, record, change⟩ :=
      clearLocalState_cases localTable.sorted localTable.length_le stateType
    · rw [CdmpStateService.step, same]
      exact table
    · exact table.of_sublist (by rw [CdmpStateService.step, change.others])
  | stateChangeFrame device isDeviceOnline frame now =>
    exact table.processStateChangeFrame device isDeviceOnline frame now
  | stateChangeResponseFrame device frame =>
    refine table.of_sublist ?_
    simp only [CdmpStateService.step, processStateChangeResponseFrame]
    split_ifs
    · exact List.Sublist.refl _
    split
    · split_ifs <;> exact List.Sublist.refl _
    · exact List.Sublist.refl _
  | heartbeat device heartbeat now => exact table.onHeartbeat device heartbeat now
  | deviceEvent event device =>
    cases event with
    | joined => exact table
    | restarted => exact table.mapSourceRecords _ true
    | left =>
      refine table.of_sublist ?_
      simp only [CdmpStateService.step, onDeviceEvent, remoteRecords_dropSource]
      exact List.filter_sublist
  | deviceStatusChanged change =>
    simp only [CdmpStateService.step, onDeviceStatusChanged]
    split_ifs
    · exact table.of_sublist (List.Sublist.refl _)
    · exact table.forgetNetwork
    · exact table
  | transmit device peers now =>
    refine table.of_sublist ?_
    simp only [CdmpStateService.step, CdmpStateService.transmit]
    split_ifs <;> exact List.Sublist.refl _
  | notifyStateHandlers => exact table.of_sublist (List.Sublist.refl _)
  | start device => exact table.of_sublist (List.Sublist.refl _)
  | stop =>
    have stopped : RemoteTable parameters { service with isStarted := false } :=
      table.of_sublist (List.Sublist.refl _)
    exact stopped.forgetNetwork

end

/-! ### Whole runs -/

/-- What is asked of the tables: both sorted within their capacities, copies with a type and
data, the search for a source's copies exact, acknowledgement sets of at most
`stateAckPeersMax` distinct peers, and the digest of the live records published. -/
structure TablesConsistent (parameters : CdmpStateParameters) (service : CdmpStateService) :
    Prop where
  localSorted : service.localRecords.Pairwise fun a b => a.stateType < b.stateType
  localLength : service.localRecords.length ≤ parameters.maxLocalRecords
  remoteSorted : service.remoteRecords.Pairwise fun a b =>
    a.source < b.source ∨ a.source = b.source ∧ a.stateType < b.stateType
  remoteLength : service.remoteRecords.length ≤ parameters.maxRemoteRecords
  remoteWellFormed : ∀ copy ∈ service.remoteRecords,
    copy.stateType ≠ 0 ∧ 1 ≤ copy.data.bytes.length ∧ copy.data.bytes.length ≤ 5
  sourceRecords : ∀ source,
    service.sourceRecords source = service.remoteRecords.filter (·.source = source)
  acknowledgements : ∀ record ∈ service.localRecords,
    record.unacknowledged.length ≤ CdmpConstants.stateAckPeersMax ∧ record.unacknowledged.Nodup
  digest : service.stateDigest = digestOf parameters service.liveRecords

variable {parameters : CdmpStateParameters} {service : CdmpStateService}

/-- The invariant of the service: both its tables. -/
structure StateTables (parameters : CdmpStateParameters) (service : CdmpStateService) : Prop where
  localTable : LocalTable parameters service
  remoteTable : RemoteTable parameters service

theorem StateTables.initial (parameters : CdmpStateParameters) :
    StateTables parameters (.initial parameters) where
  localTable := ⟨.nil, Nat.zero_le _, by simp [CdmpStateService.initial],
    by simp [CdmpStateService.initial], rfl⟩
  remoteTable := ⟨.nil, Nat.zero_le _, by simp [CdmpStateService.initial]⟩

theorem StateTables.step (tables : StateTables parameters service) (label : StateLabel) :
    StateTables parameters (service.step parameters label) where
  localTable := tables.localTable.step label
  remoteTable := tables.remoteTable.step tables.localTable label

theorem StateTables.consistent (tables : StateTables parameters service) :
    TablesConsistent parameters service where
  localSorted := tables.localTable.sorted
  localLength := tables.localTable.length_le
  remoteSorted := tables.remoteTable.sorted.imp fun precedes => of_decide_eq_true precedes
  remoteLength := tables.remoteTable.length_le
  remoteWellFormed := tables.remoteTable.wellFormed
  sourceRecords := CdmpStateService.sourceRecords_eq_filter tables.remoteTable.sorted
  acknowledgements := tables.localTable.bounded
  digest := tables.localTable.published

/-- The tables are consistent after every operation of every run. -/
theorem tablesConsistent_of_run (parameters : CdmpStateParameters) (labels : List StateLabel) :
    Always (CdmpStateService.step parameters) (TablesConsistent parameters)
      (.initial parameters) labels :=
  (always_of_preserved (StateTables.initial parameters)
    (fun _ label tables => tables.step label) labels).imp fun _ tables => tables.consistent

end RtCore.Cdmp
