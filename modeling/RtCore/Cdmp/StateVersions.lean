import RtCore.Cdmp.StateTables

/-!
# Versions of the shared state

All records of a unit take their versions from one 8-bit counter, and receivers
order two versions of a record only within a window of 127. What is said here is
said in lags: how far a version is behind the counter, modulo 256.

A change pushes every other record one version back, and each refresh of the loop
that follows pushes the rest back once more; a record that is not withdrawn is
therefore never more than `62 + maxLocalRecords` behind after an operation. A
withdrawn record is not refreshed, and while nothing is acknowledged it falls back
until the counter comes round to its version again.

## Main definitions

* `lag` — how far a version is behind the counter
* `VersionsAdvance` — a live record that gets a new version gets a newer one
* `laggingCount` — how many records a change refreshes
* `WithdrawalsInWindow` — a change does not bring the counter round to a withdrawal

## Main results

* `versionsAdvance_of_run` — new versions of live records are newer, in every run
* `acknowledgementsAttributed_iff` — no two records share a version in exactly the
  runs in which no change brings the counter round to a withdrawn record
-/

namespace RtCore.Cdmp

open RtCore.Foundation

/-! ### Lags -/

/-- How far `version` is behind `counter`. -/
def lag (counter version : UInt8) : ℕ := (counter - version).toNat

theorem lag_eq (counter version : UInt8) :
    lag counter version = (256 - version.toNat + counter.toNat) % 256 := by
  rw [lag, UInt8.toNat_sub]

@[simp] theorem lag_self (counter : UInt8) : lag counter counter = 0 := by
  simp [lag]

theorem lag_lt (counter version : UInt8) : lag counter version < 256 := UInt8.toNat_lt _

/-- One more version leaves a record one further behind, until the counter has come round. -/
theorem lag_succ {counter version : UInt8} (inside : lag counter version < 255) :
    lag (counter + 1) version = lag counter version + 1 := by
  rw [lag_eq] at inside ⊢
  rw [lag_eq, UInt8.toNat_add]
  have := version.toNat_lt
  have := counter.toNat_lt
  simp only [UInt8.reduceToNat]
  omega

/-- Lags add up along the counter. -/
theorem lag_trans (counter middle version : UInt8)
    (inside : lag counter middle + lag middle version < 256) :
    lag counter version = lag counter middle + lag middle version := by
  simp only [lag_eq] at inside ⊢
  have := version.toNat_lt
  have := counter.toNat_lt
  have := middle.toNat_lt
  omega

theorem lag_le_add (counter middle version : UInt8) :
    lag counter version ≤ lag counter middle + lag middle version := by
  simp only [lag_eq]
  have := version.toNat_lt
  have := counter.toNat_lt
  have := middle.toNat_lt
  omega

@[simp] theorem lag_succ_self (counter : UInt8) : lag (counter + 1) counter = 1 := by
  rw [lag_succ (by simp), lag_self]

/-- Newer is 1 to 127 ahead, modulo 256. -/
theorem isNewer_iff {version current : UInt8} :
    isNewer version current = true ↔ 1 ≤ lag version current ∧ lag version current ≤ 127 := by
  have signed (byte : UInt8) : byte.toInt8.toInt = (byte.toNat : ℤ).bmod 256 := by
    simp [← Int8.toInt_toBitVec, BitVec.toInt_eq_toNat_bmod]
  have bound := (version - current).toNat_lt
  rw [isNewer, decide_eq_true_eq, Int8.lt_iff_toInt_lt, signed, Int.bmod_def, lag]
  simp only [Int8.toInt_zero]
  split_ifs <;> omega

/-! ### The refresh loop -/

section Refresh

variable {versionCounter : UInt8} {records : List LocalRecord}

/-- Nothing in the table is so far behind that the loop brings the counter round to it. -/
def InWindow (versionCounter : UInt8) (records : List LocalRecord) : Prop :=
  ∀ record ∈ records, record.isWithdrawn = false →
    lag versionCounter record.version + records.length < 256

theorem InWindow.tail {record : LocalRecord}
    (window : InWindow versionCounter (record :: records)) :
    InWindow versionCounter records := by
  intro other member live
  have := window other (List.mem_cons_of_mem _ member) live
  rw [List.length_cons] at this
  omega

theorem InWindow.tail_succ {record : LocalRecord}
    (window : InWindow versionCounter (record :: records)) :
    InWindow (versionCounter + 1) records := by
  intro other member live
  have := window other (List.mem_cons_of_mem _ member) live
  rw [List.length_cons] at this
  rw [lag_succ (by omega)]
  omega

theorem refreshLaggingVersions_of_skipped {record : LocalRecord}
    (skipped : record.isWithdrawn = true ∨ lag versionCounter record.version < 64) :
    refreshLaggingVersions versionCounter (record :: records) =
      ((refreshLaggingVersions versionCounter records).1,
        record :: (refreshLaggingVersions versionCounter records).2) := by
  simp only [refreshLaggingVersions]
  exact if_pos skipped

theorem refreshLaggingVersions_of_lagging {record : LocalRecord}
    (live : record.isWithdrawn = false) (lagging : 64 ≤ lag versionCounter record.version) :
    refreshLaggingVersions versionCounter (record :: records) =
      ((refreshLaggingVersions (versionCounter + 1) records).1,
        record.stamp (versionCounter + 1) ::
          (refreshLaggingVersions (versionCounter + 1) records).2) := by
  simp only [refreshLaggingVersions]
  refine if_neg (not_or.mpr ⟨by simp [live], ?_⟩)
  exact not_lt.mpr lagging

/-- What the loop does with the record it comes to. -/
theorem skipped_or_lagging (versionCounter : UInt8) (record : LocalRecord) :
    (record.isWithdrawn = true ∨ lag versionCounter record.version < 64) ∨
      record.isWithdrawn = false ∧ 64 ≤ lag versionCounter record.version := by
  cases record.isWithdrawn with
  | true => exact Or.inl (Or.inl rfl)
  | false => exact (Nat.lt_or_ge _ 64).imp Or.inr fun lagging => ⟨rfl, lagging⟩

/-- The loop advances the counter at most once for each record. -/
theorem lag_refreshLaggingVersions_le (versionCounter : UInt8) (records : List LocalRecord) :
    lag (refreshLaggingVersions versionCounter records).1 versionCounter ≤ records.length := by
  induction records generalizing versionCounter with
  | nil => simp [refreshLaggingVersions]
  | cons record records ih =>
    obtain skipped | ⟨live, lagging⟩ := skipped_or_lagging versionCounter record
    · rw [refreshLaggingVersions_of_skipped skipped]
      exact (ih versionCounter).trans (Nat.le_succ _)
    · rw [refreshLaggingVersions_of_lagging live lagging]
      calc lag (refreshLaggingVersions (versionCounter + 1) records).1 versionCounter
          ≤ lag (refreshLaggingVersions (versionCounter + 1) records).1 (versionCounter + 1) +
              lag (versionCounter + 1) versionCounter := lag_le_add ..
        _ ≤ records.length + 1 := by
            rw [lag_succ_self]
            exact Nat.succ_le_succ (ih (versionCounter + 1))

/-- A refreshed record was at least 64 versions behind when its turn came, and its new version
is that much and one more ahead of its old one. -/
theorem exists_mem_refreshLaggingVersions (window : InWindow versionCounter records)
    {record : LocalRecord} (member : record ∈ records) :
    ∃ refreshed ∈ (refreshLaggingVersions versionCounter records).2,
      refreshed.stateType = record.stateType ∧
      (refreshed = record ∨ record.isWithdrawn = false ∧
        64 < lag refreshed.version record.version ∧
        lag refreshed.version record.version ≤
          lag versionCounter record.version + records.length) := by
  -- On the records in the order of the loop; each refresh moves the counter up by one.
  induction records generalizing versionCounter with
  | nil => cases member
  | cons first records ih =>
    obtain skipped | ⟨live, lagging⟩ := skipped_or_lagging versionCounter first
    · rw [refreshLaggingVersions_of_skipped skipped]
      rcases List.mem_cons.mp member with rfl | later
      · exact ⟨record, List.mem_cons_self, rfl, Or.inl rfl⟩
      · obtain ⟨refreshed, isRefreshed, sameType, outcome⟩ := ih window.tail later
        refine ⟨refreshed, List.mem_cons_of_mem _ isRefreshed, sameType, outcome.imp_right ?_⟩
        rintro ⟨recordLive, above, below⟩
        exact ⟨recordLive, above, below.trans (Nat.add_le_add_left (Nat.le_succ _) _)⟩
    · rw [refreshLaggingVersions_of_lagging live lagging]
      rcases List.mem_cons.mp member with rfl | later
      · have inside := window record List.mem_cons_self live
        rw [List.length_cons] at inside
        have ahead : lag (versionCounter + 1) record.version =
            lag versionCounter record.version + 1 := lag_succ (by omega)
        refine ⟨_, List.mem_cons_self, rfl, Or.inr ⟨live, ?_, ?_⟩⟩
        · change 64 < lag (versionCounter + 1) record.version
          omega
        · change lag (versionCounter + 1) record.version ≤ _
          rw [List.length_cons]
          omega
      · obtain ⟨refreshed, isRefreshed, sameType, outcome⟩ := ih window.tail_succ later
        refine ⟨refreshed, List.mem_cons_of_mem _ isRefreshed, sameType, outcome.imp_right ?_⟩
        rintro ⟨recordLive, above, below⟩
        have inside := window record (List.mem_cons_of_mem _ later) recordLive
        rw [List.length_cons] at inside ⊢
        rw [lag_succ (by omega)] at below
        exact ⟨recordLive, above, by omega⟩

/-- After the loop, no live record is more than 63 and the records after it behind. -/
theorem lag_le_of_mem_refreshLaggingVersions (window : InWindow versionCounter records)
    {refreshed : LocalRecord}
    (member : refreshed ∈ (refreshLaggingVersions versionCounter records).2)
    (live : refreshed.isWithdrawn = false) :
    lag (refreshLaggingVersions versionCounter records).1 refreshed.version ≤
      62 + records.length := by
  -- On the records; what was near when the loop passed it is not left far behind by the rest.
  induction records generalizing versionCounter with
  | nil => cases member
  | cons first records ih =>
    obtain skipped | ⟨firstLive, lagging⟩ := skipped_or_lagging versionCounter first
    · rw [refreshLaggingVersions_of_skipped skipped] at member ⊢
      rcases List.mem_cons.mp member with rfl | later
      · have advanced := lag_refreshLaggingVersions_le versionCounter records
        have near := skipped.resolve_left (by simp [live])
        have total := lag_le_add (refreshLaggingVersions versionCounter records).1 versionCounter
          refreshed.version
        rw [List.length_cons]
        exact total.trans (by omega)
      · have := ih window.tail later
        rw [List.length_cons]
        exact this.trans (by omega)
    · rw [refreshLaggingVersions_of_lagging firstLive lagging] at member ⊢
      rcases List.mem_cons.mp member with rfl | later
      · have advanced := lag_refreshLaggingVersions_le (versionCounter + 1) records
        change lag _ (versionCounter + 1) ≤ _
        rw [List.length_cons]
        exact advanced.trans (by omega)
      · have := ih window.tail_succ later
        rw [List.length_cons]
        exact this.trans (by omega)

end Refresh

/-! ### New versions are newer -/

variable {parameters : CdmpStateParameters} {service before after : CdmpStateService}

/-- How far live records may be behind between operations. -/
def LagBounded (parameters : CdmpStateParameters) (service : CdmpStateService) : Prop :=
  ∀ record ∈ service.localRecords, record.isWithdrawn = false →
    lag service.versionCounter record.version ≤ 62 + parameters.maxLocalRecords

/-- A live record is as it was, or has a newer version. Only an operation that leaves the
counter alone may touch the record otherwise. -/
def VersionsAdvance (before after : CdmpStateService) : Prop :=
  ∀ record ∈ before.localRecords, record.isWithdrawn = false →
    ∀ changed ∈ after.localRecords, changed.stateType = record.stateType →
      isNewer changed.version record.version = true ∨
        changed.version = record.version ∧
          (after.versionCounter = before.versionCounter ∨ changed = record)

theorem LagBounded.of_quiet (bounded : LagBounded parameters before)
    (quiet : LocalQuiet before after) : LagBounded parameters after := by
  obtain ⟨update, keeps, records, updates⟩ := quiet.records
  intro record member live
  rw [records] at member
  obtain ⟨original, isOriginal, rfl⟩ := List.mem_map.mp (List.mem_filter.mp member).1
  have sameVersion : (update original).version = original.version :=
    congrArg StateRecord.version (updates original).1
  rw [(updates original).2.1] at live
  rw [quiet.counter, sameVersion]
  exact bounded original isOriginal live

theorem versionsAdvance_of_quiet (sorted : LocalSorted before.localRecords)
    (quiet : LocalQuiet before after) : VersionsAdvance before after := by
  obtain ⟨update, keeps, records, updates⟩ := quiet.records
  intro record member _ changed changedMember sameType
  rw [records] at changedMember
  obtain ⟨original, isOriginal, rfl⟩ := List.mem_map.mp (List.mem_filter.mp changedMember).1
  have ownType := congrArg StateRecord.stateType (updates original).1
  obtain rfl := sorted.eq_of_mem isOriginal member (ownType.symm.trans sameType)
  exact Or.inr ⟨congrArg StateRecord.version (updates original).1, Or.inl quiet.counter⟩

section Change

variable {stateType : UInt8} {front back : List LocalRecord} {record : LocalRecord}
  (change : LocalChange parameters stateType before after front back record)
  (bounded : LagBounded parameters before)

include change

theorem LocalChange.length_le : (front ++ record :: back).length ≤ parameters.maxLocalRecords := by
  have room := change.room
  rw [List.length_append, List.length_cons]
  omega

include bounded

theorem LocalChange.inWindow :
    InWindow (before.versionCounter + 1) (front ++ record :: back) := by
  have capacity := parameters.maxLocalRecords_le
  have length := change.length_le
  intro other member live
  rcases change.mem_iff.mp member with rfl | kept
  · rw [change.stamped, lag_self]
    omega
  · have := bounded other ((keptRecords_sublist ..).subset kept) live
    rw [lag_succ (by omega)]
    omega

theorem LagBounded.of_change : LagBounded parameters after := by
  have length := change.length_le
  intro refreshed member live
  rw [change.records] at member
  rw [change.counter]
  have := lag_le_of_mem_refreshLaggingVersions (change.inWindow bounded) member live
  omega

theorem versionsAdvance_of_change (sorted : LocalSorted after.localRecords) :
    VersionsAdvance before after := by
  have capacity := parameters.maxLocalRecords_le
  have length := change.length_le
  have window := change.inWindow bounded
  intro original member live changed changedMember sameType
  have behind := bounded original member live
  have behindNext : lag (before.versionCounter + 1) original.version =
      lag before.versionCounter original.version + 1 := lag_succ (by omega)
  -- The loop takes one record of the list to the changed one.
  have outcome {other : LocalRecord} (isOther : other ∈ front ++ record :: back)
      (otherType : other.stateType = original.stateType) :
      changed = other ∨ other.isWithdrawn = false ∧
        64 < lag changed.version other.version ∧
        lag changed.version other.version ≤ lag (before.versionCounter + 1) other.version +
          (front ++ record :: back).length := by
    obtain ⟨refreshed, isRefreshed, refreshedType, outcome⟩ :=
      exists_mem_refreshLaggingVersions window isOther
    rw [← change.records] at isRefreshed
    obtain rfl : changed = refreshed := sorted.eq_of_mem changedMember isRefreshed
      (sameType.trans (otherType.symm.trans refreshedType.symm))
    exact outcome
  by_cases own : original.stateType = stateType
  · obtain rfl | ⟨-, above, below⟩ :=
      outcome (change.mem_iff.mpr (Or.inl rfl)) (change.own.trans own.symm)
    · refine Or.inl (isNewer_iff.mpr ?_)
      rw [change.stamped, behindNext]
      omega
    · -- The changed record is too close behind the counter to be refreshed.
      rw [change.stamped] at above
      rw [change.stamped, lag_self] at below
      omega
  · obtain rfl | ⟨-, above, below⟩ :=
      outcome (change.mem_iff.mpr (Or.inr (mem_keptRecords member own live))) rfl
    · exact Or.inr ⟨rfl, Or.inr rfl⟩
    · refine Or.inl (isNewer_iff.mpr ?_)
      omega

end Change

/-- The tables, and how far live records are behind. -/
structure VersionInvariant (parameters : CdmpStateParameters) (service : CdmpStateService) :
    Prop where
  tables : StateTables parameters service
  lags : LagBounded parameters service

theorem VersionInvariant.initial (parameters : CdmpStateParameters) :
    VersionInvariant parameters (.initial parameters) where
  tables := .initial parameters
  lags := by simp [LagBounded, CdmpStateService.initial]

theorem VersionInvariant.step_and_versionsAdvance
    (invariant : VersionInvariant parameters service) (label : StateLabel) :
    VersionInvariant parameters (service.step parameters label) ∧
      VersionsAdvance service (service.step parameters label) := by
  have localTable := invariant.tables.localTable
  have next := invariant.tables.step label
  cases changed : service.changedType parameters label with
  | none =>
    have quiet := CdmpStateService.step_of_changedType_eq_none localTable.sorted
      localTable.length_le changed
    exact ⟨⟨next, invariant.lags.of_quiet quiet⟩, versionsAdvance_of_quiet localTable.sorted quiet⟩
  | some stateType =>
    obtain ⟨front, back, record, change⟩ := CdmpStateService.step_of_changedType_eq_some
      localTable.sorted localTable.length_le changed
    exact ⟨⟨next, .of_change change invariant.lags⟩,
      versionsAdvance_of_change change invariant.lags next.localTable.sorted⟩

/-- In every run, a live record that gets a new version gets a newer one. -/
theorem versionsAdvance_of_run (parameters : CdmpStateParameters) (labels : List StateLabel) :
    Along (CdmpStateService.step parameters)
      (fun service label => VersionsAdvance service (service.step parameters label))
      (.initial parameters) labels :=
  along_of_preserved (VersionInvariant.initial parameters)
    (fun _ label invariant => (invariant.step_and_versionsAdvance label).1)
    (fun _ label invariant => (invariant.step_and_versionsAdvance label).2) labels

/-! ### Versions in one table -/

/-- The version itself is determined by its lag. -/
theorem eq_of_lag_eq {first second base : UInt8} (same : lag first base = lag second base) :
    first = second := by
  rw [lag_eq, lag_eq] at same
  rw [← UInt8.toNat_inj]
  have := first.toNat_lt
  have := second.toNat_lt
  have := base.toNat_lt
  omega

/-- The version furthest behind is the next one. -/
theorem eq_succ_of_lag_eq {counter version : UInt8} (last : lag counter version = 255) :
    version = counter + 1 := by
  rw [lag_eq] at last
  rw [← UInt8.toNat_inj, UInt8.toNat_add]
  simp only [UInt8.reduceToNat]
  have := counter.toNat_lt
  have := version.toNat_lt
  omega

/-- Ahead one way is behind the other. -/
theorem lag_add_lag (first second : UInt8) (apart : 1 ≤ lag first second) :
    lag first second + lag second first = 256 := by
  rw [lag_eq] at apart ⊢
  rw [lag_eq]
  have := first.toNat_lt
  have := second.toNat_lt
  omega

section Refresh

variable {versionCounter : UInt8} {records : List LocalRecord}

/-- A refresh adds one to what the rest of the loop advances the counter by. -/
private theorem lag_refresh_succ (short : records.length < 255) :
    lag (refreshLaggingVersions (versionCounter + 1) records).1 versionCounter =
      lag (refreshLaggingVersions (versionCounter + 1) records).1 (versionCounter + 1) + 1 := by
  have rest := lag_refreshLaggingVersions_le (versionCounter + 1) records
  have sum := lag_trans (refreshLaggingVersions (versionCounter + 1) records).1
    (versionCounter + 1) versionCounter
  rw [lag_succ_self] at sum
  exact sum (by omega)

/-- The loop hands out every version up to the counter it ends with. -/
theorem exists_version_refreshLaggingVersions (short : records.length < 256) {ahead : ℕ}
    (positive : 1 ≤ ahead)
    (reached : ahead ≤ lag (refreshLaggingVersions versionCounter records).1 versionCounter) :
    ∃ refreshed ∈ (refreshLaggingVersions versionCounter records).2,
      refreshed.isWithdrawn = false ∧ lag refreshed.version versionCounter = ahead := by
  induction records generalizing versionCounter ahead with
  | nil =>
    simp only [refreshLaggingVersions, lag_self] at reached
    omega
  | cons first records ih =>
    rw [List.length_cons] at short
    obtain skipped | ⟨live, lagging⟩ := skipped_or_lagging versionCounter first
    · rw [refreshLaggingVersions_of_skipped skipped] at reached ⊢
      obtain ⟨refreshed, isRefreshed, outcome⟩ := ih (by omega) positive reached
      exact ⟨refreshed, List.mem_cons_of_mem _ isRefreshed, outcome⟩
    · rw [refreshLaggingVersions_of_lagging live lagging] at reached ⊢
      dsimp only at reached
      rw [lag_refresh_succ (by omega)] at reached
      rcases positive.eq_or_lt with rfl | more
      · exact ⟨_, List.mem_cons_self, live, lag_succ_self versionCounter⟩
      · have rest := lag_refreshLaggingVersions_le (versionCounter + 1) records
        obtain ⟨refreshed, isRefreshed, refreshedLive, version⟩ :=
          @ih (versionCounter + 1) (by omega) (ahead - 1) (by omega) (by omega)
        refine ⟨refreshed, List.mem_cons_of_mem _ isRefreshed, refreshedLive, ?_⟩
        have step := lag_succ_self versionCounter
        rw [lag_trans _ (versionCounter + 1) _ (by omega)]
        omega

/-- Versions stay distinct when the loop does not bring the counter round to a record. -/
theorem nodup_refreshLaggingVersions (short : records.length < 256)
    (distinct : (records.map (·.version)).Nodup)
    (clear : ∀ record ∈ records, lag versionCounter record.version +
      lag (refreshLaggingVersions versionCounter records).1 versionCounter < 256) :
    ((refreshLaggingVersions versionCounter records).2.map (·.version)).Nodup ∧
      ∀ refreshed ∈ (refreshLaggingVersions versionCounter records).2,
        refreshed.version ∈ records.map (·.version) ∨
          1 ≤ lag refreshed.version versionCounter ∧ lag refreshed.version versionCounter ≤
            lag (refreshLaggingVersions versionCounter records).1 versionCounter := by
  -- On the records in the order of the loop: a skipped one keeps its version, a lagging one takes
  -- the next of the counter.
  induction records generalizing versionCounter with
  | nil => simp [refreshLaggingVersions]
  | cons first records ih =>
    rw [List.length_cons] at short
    obtain ⟨firstNew, distinct⟩ := List.nodup_cons.mp distinct
    obtain skipped | ⟨live, lagging⟩ := skipped_or_lagging versionCounter first
    · rw [refreshLaggingVersions_of_skipped skipped] at clear ⊢
      dsimp only at clear ⊢
      obtain ⟨nodup, versions⟩ := ih (by omega) distinct fun record member =>
        clear record (List.mem_cons_of_mem _ member)
      refine ⟨List.nodup_cons.mpr ⟨fun member => ?_, nodup⟩, fun refreshed member => ?_⟩
      · obtain ⟨refreshed, isRefreshed, same⟩ := List.mem_map.mp member
        change refreshed.version = first.version at same
        rcases versions refreshed isRefreshed with old | ⟨above, below⟩
        · rw [same] at old
          exact firstNew old
        · -- The counter would have come round to the first record.
          have round := lag_add_lag _ _ above
          have := clear first List.mem_cons_self
          rw [← same] at this
          omega
      · rcases List.mem_cons.mp member with rfl | later
        · exact Or.inl List.mem_cons_self
        · exact (versions refreshed later).imp_left (List.mem_cons_of_mem _)
    · rw [refreshLaggingVersions_of_lagging live lagging] at clear ⊢
      dsimp only at clear ⊢
      rw [lag_refresh_succ (by omega)] at clear ⊢
      -- The counter moved up by one, and `clear` keeps every later record within its reach.
      have behind (record : LocalRecord) (member : record ∈ records) :
          lag (versionCounter + 1) record.version = lag versionCounter record.version + 1 := by
        have := clear record (List.mem_cons_of_mem _ member)
        exact lag_succ (by omega)
      obtain ⟨nodup, versions⟩ := @ih (versionCounter + 1) (by omega) distinct
        fun record member => by
          have := clear record (List.mem_cons_of_mem _ member)
          have := behind record member
          omega
      refine ⟨List.nodup_cons.mpr ⟨fun member => ?_, nodup⟩, fun refreshed member => ?_⟩
      · obtain ⟨refreshed, isRefreshed, same⟩ := List.mem_map.mp member
        change refreshed.version = versionCounter + 1 at same
        rcases versions refreshed isRefreshed with old | ⟨above, below⟩
        · obtain ⟨record, isRecord, sameOld⟩ := List.mem_map.mp old
          have next := behind record isRecord
          rw [sameOld, same, lag_self] at next
          omega
        · rw [same, lag_self] at above
          omega
      · rcases List.mem_cons.mp member with rfl | later
        · refine Or.inr ?_
          change 1 ≤ lag (versionCounter + 1) versionCounter ∧ lag (versionCounter + 1) _ ≤ _
          rw [lag_succ_self]
          omega
        · refine (versions refreshed later).imp (List.mem_cons_of_mem _) fun bounds => ?_
          obtain ⟨above, below⟩ := bounds
          have rest := lag_refreshLaggingVersions_le (versionCounter + 1) records
          have step := lag_succ_self versionCounter
          rw [lag_trans _ (versionCounter + 1) _ (by omega)]
          omega

end Refresh

/-! ### How many records a change refreshes -/

/-- How many of the records so far behind, in order, a refresh loop reaches when `passed` others
were refreshed before them: each refresh pushes the rest one further back. -/
def laggingCount : ℕ → List ℕ → ℕ
  | passed, [] => passed
  | passed, behind :: rest =>
    if behind + passed < CdmpConstants.stateVersionRefreshLag then laggingCount passed rest
    else laggingCount (passed + 1) rest

theorem laggingCount_le (passed : ℕ) (lags : List ℕ) :
    laggingCount passed lags ≤ passed + lags.length := by
  induction lags generalizing passed with
  | nil => exact Nat.le_refl _
  | cons behind rest ih =>
    rw [laggingCount, List.length_cons]
    split_ifs
    · exact (ih passed).trans (by omega)
    · exact (ih (passed + 1)).trans (by omega)

/-- A record that was just stamped is not refreshed. -/
theorem laggingCount_append_zero (passed : ℕ) (front back : List ℕ)
    (few : passed + front.length < 64) :
    laggingCount passed (front ++ 0 :: back) = laggingCount passed (front ++ back) := by
  induction front generalizing passed with
  | nil =>
    have near : 0 + passed < CdmpConstants.stateVersionRefreshLag := by
      change 0 + passed < 64
      omega
    exact if_pos near
  | cons behind front ih =>
    rw [List.length_cons] at few
    simp only [List.cons_append, laggingCount]
    rw [ih passed (by omega), ih (passed + 1) (by omega)]

/-- How far the live ones of the records are behind, in order. -/
def liveLags (counter : UInt8) (records : List LocalRecord) : List ℕ :=
  (records.filter (!·.isWithdrawn)).map fun record => lag counter record.version

theorem length_liveLags_le (counter : UInt8) (records : List LocalRecord) :
    (liveLags counter records).length ≤ records.length := by
  rw [liveLags, List.length_map]
  exact List.length_filter_le ..

theorem lag_add (counter version : UInt8) (n : ℕ) (inside : lag counter version + n < 256) :
    lag (counter + UInt8.ofNat n) version = lag counter version + n := by
  rw [lag_eq] at inside ⊢
  rw [lag_eq, UInt8.toNat_add, UInt8.toNat_ofNat']
  have := counter.toNat_lt
  have := version.toNat_lt
  omega

/-- The loop ends as many versions further as it refreshes records. -/
theorem refreshLaggingVersions_fst (base : UInt8) (passed : ℕ) (records : List LocalRecord)
    (window : ∀ record ∈ records, record.isWithdrawn = false →
      lag base record.version + passed + records.length < 256) :
    (refreshLaggingVersions (base + UInt8.ofNat passed) records).1 =
      base + UInt8.ofNat (laggingCount passed (liveLags base records)) := by
  -- On the records; `passed` counts the versions given out before, by which all lags have grown.
  induction records generalizing passed with
  | nil => rfl
  | cons first records ih =>
    have rest (record : LocalRecord) (member : record ∈ records)
        (live : record.isWithdrawn = false) :
        lag base record.version + (passed + 1) + records.length < 256 := by
      have := window record (List.mem_cons_of_mem _ member) live
      rw [List.length_cons] at this
      omega
    have skip := ih passed fun record member live => by
      have := rest record member live
      omega
    cases withdrawn : first.isWithdrawn with
    | true =>
      rw [refreshLaggingVersions_of_skipped (Or.inl withdrawn)]
      simpa [liveLags, withdrawn] using skip
    | false =>
      have inside := window first List.mem_cons_self withdrawn
      rw [List.length_cons] at inside
      have behind := lag_add base first.version passed (by omega)
      have lags : liveLags base (first :: records) =
          lag base first.version :: liveLags base records := by simp [liveLags, withdrawn]
      rw [lags, laggingCount]
      split_ifs with near
      · rw [refreshLaggingVersions_of_skipped (Or.inr (behind ▸ near))]
        exact skip
      · rw [refreshLaggingVersions_of_lagging withdrawn (behind ▸ not_lt.mp near)]
        have next : base + UInt8.ofNat passed + 1 = base + UInt8.ofNat (passed + 1) := by
          rw [UInt8.ofNat_add, ← UInt8.add_assoc]
          rfl
        rw [next]
        exact ih (passed + 1) rest

/-! ### Acknowledgements and withdrawals -/

/-- None of the records the changed one is put between is of its type. -/
theorem SplitsAt.ne_of_mem {records front back : List LocalRecord} {stateType : UInt8}
    (splits : SplitsAt records stateType front back) {record : LocalRecord}
    (member : record ∈ records) : record.stateType ≠ stateType := by
  rw [← splits.append, List.mem_append] at member
  rcases member with before | after
  · exact UInt8.ne_of_lt (splits.below record before)
  · exact (UInt8.ne_of_lt (splits.above record after)).symm

/-- How many records a change of the record of `stateType` refreshes. -/
def CdmpStateService.refreshCount (parameters : CdmpStateParameters) (service : CdmpStateService)
    (stateType : UInt8) : ℕ :=
  laggingCount 0 (liveLags (service.versionCounter + 1)
    (keptRecords parameters.maxLocalRecords stateType service.localRecords))

/-- A change does not bring the counter round to a withdrawn record that stays in the table. -/
def WithdrawalsInWindow (parameters : CdmpStateParameters) (service : CdmpStateService)
    (label : StateLabel) : Prop :=
  ∀ stateType, service.changedType parameters label = some stateType →
    ∀ record ∈ keptRecords parameters.maxLocalRecords stateType service.localRecords,
      record.isWithdrawn = true →
        lag service.versionCounter record.version + 1 +
          service.refreshCount parameters stateType < 256

/-- No two records carry one version, so a response takes the peer out of the acknowledgement
set of at most one record, whose version it carries. -/
def AcknowledgementsAttributed (service : CdmpStateService) : Prop :=
  (service.localRecords.map (·.version)).Nodup ∧
    ∀ (peerId version : UInt8), ∀ record ∈ service.localRecords,
      record.acknowledge peerId (some version) ≠ record →
        record.version = version ∧
          ∀ other ∈ service.localRecords,
            other.acknowledge peerId (some version) ≠ other → other = record

theorem LocalRecord.version_eq_of_acknowledge_ne {record : LocalRecord} {peerId version : UInt8}
    (changed : record.acknowledge peerId (some version) ≠ record) : record.version = version := by
  by_contra other
  refine changed (if_neg ?_)
  simpa using Ne.symm other

theorem acknowledgementsAttributed_iff_nodup :
    AcknowledgementsAttributed service ↔ (service.localRecords.map (·.version)).Nodup := by
  refine ⟨And.left, fun distinct => ⟨distinct, fun peerId version record member changed => ?_⟩⟩
  have own := LocalRecord.version_eq_of_acknowledge_ne changed
  refine ⟨own, fun other otherMember otherChanged => ?_⟩
  have otherOwn := LocalRecord.version_eq_of_acknowledge_ne otherChanged
  exact List.inj_on_of_nodup_map distinct otherMember member (otherOwn.trans own.symm)

theorem nodup_of_quiet (quiet : LocalQuiet before after)
    (distinct : (before.localRecords.map (·.version)).Nodup) :
    (after.localRecords.map (·.version)).Nodup := by
  obtain ⟨update, keeps, records, updates⟩ := quiet.records
  have same : (before.localRecords.map update).map (·.version) =
      before.localRecords.map (·.version) := by
    rw [List.map_map]
    exact List.map_congr_left fun record _ => congrArg StateRecord.version (updates record).1
  rw [records]
  exact (same.symm ▸ distinct).sublist (List.filter_sublist.map _)

section Change

variable {stateType : UInt8} {front back : List LocalRecord} {record : LocalRecord}
  (change : LocalChange parameters stateType before after front back record)
  (bounded : LagBounded parameters before)

include change bounded

/-- The change and the refreshes it leads to take the next versions in turn. -/
theorem LocalChange.counter_eq :
    after.versionCounter = before.versionCounter + 1 +
      UInt8.ofNat (before.refreshCount parameters stateType) := by
  have capacity := parameters.maxLocalRecords_le
  have room := change.room
  have window := change.inWindow bounded
  have loop := refreshLaggingVersions_fst (before.versionCounter + 1) 0 (front ++ record :: back)
    fun other member live => by simpa using window other member live
  have start : before.versionCounter + 1 + UInt8.ofNat 0 = before.versionCounter + 1 :=
    UInt8.add_zero _
  rw [start] at loop
  rw [change.counter, loop, CdmpStateService.refreshCount, ← change.splits.append]
  -- The changed record itself is not refreshed, whether it was set or withdrawn.
  congr 2
  have frontFew := length_liveLags_le (before.versionCounter + 1) front
  cases withdrawn : record.isWithdrawn with
  | true => simp [liveLags, withdrawn]
  | false =>
    have parts : liveLags (before.versionCounter + 1) (front ++ record :: back) =
        liveLags (before.versionCounter + 1) front ++
          0 :: liveLags (before.versionCounter + 1) back := by
      simp [liveLags, withdrawn, change.stamped]
    rw [parts, laggingCount_append_zero 0 _ _ (by omega)]
    simp [liveLags]

theorem LocalChange.lag_counter :
    lag after.versionCounter (before.versionCounter + 1) =
      before.refreshCount parameters stateType := by
  have capacity := parameters.maxLocalRecords_le
  have room := change.room
  have few : before.refreshCount parameters stateType ≤ front.length + back.length := by
    refine (laggingCount_le ..).trans ?_
    rw [Nat.zero_add]
    refine (length_liveLags_le ..).trans_eq ?_
    rw [← change.splits.append, List.length_append]
  rw [change.counter_eq bounded, lag_add _ _ _ (by rw [lag_self]; omega), lag_self, Nat.zero_add]

theorem LocalChange.nodup_iff (distinct : (before.localRecords.map (·.version)).Nodup) :
    (after.localRecords.map (·.version)).Nodup ↔
      ∀ other ∈ keptRecords parameters.maxLocalRecords stateType before.localRecords,
        other.isWithdrawn = true →
          lag before.versionCounter other.version + 1 +
            before.refreshCount parameters stateType < 256 := by
  have capacity := parameters.maxLocalRecords_le
  have length := change.length_le
  have advanced := change.lag_counter bounded
  have kept_before := (keptRecords_sublist parameters.maxLocalRecords stateType
    before.localRecords)
  have keptDistinct : ((front ++ back).map (·.version)).Nodup := by
    rw [change.splits.append]
    exact distinct.sublist (kept_before.map _)
  have few := lag_refreshLaggingVersions_le (before.versionCounter + 1) (front ++ record :: back)
  rw [change.counter] at advanced
  constructor
  · intro nodup other kept withdrawn
    by_contra reached
    have isOther : other ∈ front ++ record :: back := change.mem_iff.mpr (Or.inr kept)
    have window := change.inWindow bounded
    have stays : other ∈ after.localRecords := by
      obtain ⟨refreshed, isRefreshed, -, rfl | ⟨live, -⟩⟩ :=
        exists_mem_refreshLaggingVersions window isOther
      · exact change.records ▸ isRefreshed
      · simp [withdrawn] at live
    -- Some other record took the version of the withdrawn one: the changed record or a
    -- refreshed one.
    rcases (Nat.le_of_lt_succ (lag_lt before.versionCounter other.version)).eq_or_lt with
      last | inside
    · have same : other.version = record.version := by
        rw [change.stamped]
        exact eq_succ_of_lag_eq last
      obtain ⟨refreshed, isRefreshed, -, rfl | ⟨-, above, below⟩⟩ :=
        exists_mem_refreshLaggingVersions window (change.mem_iff.mpr (Or.inl rfl))
      · obtain rfl := List.inj_on_of_nodup_map nodup stays (change.records ▸ isRefreshed) same
        exact change.splits.ne_of_mem kept change.own
      · rw [change.stamped, lag_self] at below
        rw [change.stamped] at above
        omega
    · have ahead := lag_succ inside
      have round := lag_add_lag (before.versionCounter + 1) other.version (by omega)
      obtain ⟨refreshed, isRefreshed, live, version⟩ :=
        exists_version_refreshLaggingVersions (by omega)
          (show 1 ≤ 255 - lag before.versionCounter other.version by omega)
          (show _ ≤ lag (refreshLaggingVersions (before.versionCounter + 1)
            (front ++ record :: back)).1 (before.versionCounter + 1) by omega)
      have same : refreshed.version = other.version :=
        eq_of_lag_eq (version.trans (by omega))
      obtain rfl := List.inj_on_of_nodup_map nodup (change.records ▸ isRefreshed) stays same
      simp [withdrawn] at live
  · intro clear
    have behind (other : LocalRecord) (kept : other ∈ keptRecords parameters.maxLocalRecords
        stateType before.localRecords) :
        lag (before.versionCounter + 1) other.version =
          lag before.versionCounter other.version + 1 ∧
        lag before.versionCounter other.version + 1 +
          before.refreshCount parameters stateType < 256 := by
      have inside : lag before.versionCounter other.version + 1 +
          before.refreshCount parameters stateType < 256 := by
        cases withdrawn : other.isWithdrawn with
        | true => exact clear other kept withdrawn
        | false =>
          have := bounded other (kept_before.subset kept) withdrawn
          omega
      exact ⟨lag_succ (by omega), inside⟩
    rw [change.records]
    refine (nodup_refreshLaggingVersions (by omega) ?_ fun other member => ?_).1
    · have perm : (front ++ record :: back).Perm (record :: (front ++ back)) :=
        List.perm_middle
      rw [(perm.map _).nodup_iff, List.map_cons, List.nodup_cons]
      refine ⟨fun member => ?_, keptDistinct⟩
      obtain ⟨other, isOther, same⟩ := List.mem_map.mp member
      rw [change.splits.append] at isOther
      have := (behind other isOther).1
      rw [same, change.stamped, lag_self] at this
      omega
    · rcases change.mem_iff.mp member with rfl | kept
      · rw [change.stamped, lag_self]
        omega
      · have := behind other kept
        omega

end Change

theorem CdmpStateService.nodup_step_iff (invariant : VersionInvariant parameters service)
    (distinct : (service.localRecords.map (·.version)).Nodup) (label : StateLabel) :
    ((service.step parameters label).localRecords.map (·.version)).Nodup ↔
      WithdrawalsInWindow parameters service label := by
  have localTable := invariant.tables.localTable
  cases changed : service.changedType parameters label with
  | none =>
    have quiet := CdmpStateService.step_of_changedType_eq_none localTable.sorted
      localTable.length_le changed
    refine iff_of_true (nodup_of_quiet quiet distinct) fun stateType isChanged => ?_
    simp [changed] at isChanged
  | some stateType =>
    obtain ⟨front, back, record, change⟩ := CdmpStateService.step_of_changedType_eq_some
      localTable.sorted localTable.length_le changed
    rw [change.nodup_iff invariant.lags distinct]
    simp [WithdrawalsInWindow, changed]

/-- Acknowledgements are attributed to one record in every state of exactly the runs in which
no change brings the counter round to a withdrawn record. -/
theorem acknowledgementsAttributed_iff (parameters : CdmpStateParameters)
    (labels : List StateLabel) :
    Always (CdmpStateService.step parameters) AcknowledgementsAttributed (.initial parameters)
        labels ↔
      Along (CdmpStateService.step parameters) (WithdrawalsInWindow parameters)
        (.initial parameters) labels := by
  refine always_iff_along (VersionInvariant.initial parameters) ?_
    (fun _ label invariant _ _ => (invariant.step_and_versionsAdvance label).1)
    (fun service label invariant attributed => ?_)
  · rw [acknowledgementsAttributed_iff_nodup]
    exact List.nodup_nil
  · rw [acknowledgementsAttributed_iff_nodup] at attributed ⊢
    exact service.nodup_step_iff invariant attributed label

/-- A withdrawal that nobody is told about, and 256 changes of another record. -/
def changesPastWithdrawal : List StateLabel :=
  .setLocalState 1 [0] :: .clearLocalState 1 ::
    (List.range 256).map fun n => .setLocalState 2 [UInt8.ofNat (n % 2)]

theorem not_acknowledgementsAttributed_past_withdrawal :
    ¬ Always (CdmpStateService.step .default) AcknowledgementsAttributed (.initial .default)
        changesPastWithdrawal := by
  intro always
  have versions : ((run (CdmpStateService.step .default) (.initial .default)
      changesPastWithdrawal).localRecords.map (·.version)) = [2, 2] := by decide +kernel
  have distinct := always.last.1
  rw [versions] at distinct
  exact absurd distinct (by decide)

end RtCore.Cdmp
