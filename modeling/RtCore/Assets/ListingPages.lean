import Mathlib.Data.List.Basic
import RtCore.Assets.AssetListing
import RtCore.Foundation.Paging

/-!
# A listing is complete

What is due from a position on are the built-ins from there and the assets among the entries of the
directory from there. Every page of a listing is what is due up to the position it names, so that
following these positions gives all assets once and in order. Positions are counted in 32 bits: a
listing goes round in circles when there are more.

## Main definitions

* `AssetProvider.due` — what is to be listed from a position on
* `RoomFits` — a response has room for the entry that is due first
* `followList` — the entries received when every `next` is followed

## Main results

* `AssetProvider.page_listFrom` — an answer is a page of what is due
* `listing_complete` — a listing ends and has all assets, each once and in order
-/

namespace RtCore.Assets

open RtCore.Foundation

/-! ### A page of the directory -/

theorem readEntries_eq (first maxEntries : ℕ) (entries kept : List DirectoryEntry) (count : ℕ)
    (before : kept.length = min (count - first) maxEntries) :
    readEntries first maxEntries entries kept count =
      (kept ++ ((entries.drop (first - count)).take (maxEntries - kept.length)).map
        DirectoryEntry.read, count + entries.length) := by
  induction entries generalizing kept count with
  | nil => simp [readEntries]
  | cons entry later ih =>
    have total : count + 1 + later.length = count + (entry :: later).length := by
      rw [List.length_cons]
      omega
    rw [readEntries]
    by_cases taken : first ≤ count ∧ kept.length < maxEntries
    · rw [if_pos (by simpa using taken),
        ih _ _ (by rw [List.length_append, List.length_singleton]; omega),
        total, List.length_append, List.length_singleton]
      rw [show first - (count + 1) = 0 by omega, show first - count = 0 by omega, List.drop_zero,
        List.drop_zero, show maxEntries - kept.length = maxEntries - (kept.length + 1) + 1 by omega,
        List.take_succ_cons, List.map_cons, List.append_assoc, List.singleton_append]
    · rw [if_neg (by simpa using taken), ih _ _ (by omega), total]
      by_cases early : count < first
      · rw [show first - count = first - (count + 1) + 1 by omega, List.drop_succ_cons]
      · rw [show maxEntries - kept.length = 0 by omega, List.take_zero, List.take_zero]

namespace AssetStore

variable (maxNameLength : ℕ) (extensions : List Text)

theorem keepFiles_cons (first : ℕ) (entry : DirectoryEntry) (later : List DirectoryEntry) :
    keepFiles maxNameLength extensions first (entry :: later) =
      if entry.isDirectory || !isValidName maxNameLength extensions entry.name then
        keepFiles maxNameLength extensions (first + 1) later
      else
        { name := entry.name, size := entry.size, index := first } ::
          keepFiles maxNameLength extensions (first + 1) later := by
  simp only [keepFiles, List.zipIdx_cons, List.filterMap_cons]
  split_ifs
  · rfl
  · rfl

/-- A file that is kept has its size. -/
theorem keepFiles_map_read (first : ℕ) (entries : List DirectoryEntry) :
    keepFiles maxNameLength extensions first (entries.map DirectoryEntry.read) =
      keepFiles maxNameLength extensions first entries := by
  induction entries generalizing first with
  | nil => rfl
  | cons entry later ih =>
    rw [List.map_cons, keepFiles_cons, keepFiles_cons, ih]
    cases directory : entry.isDirectory with
    | true => simp [DirectoryEntry.read, directory]
    | false => simp [DirectoryEntry.read, directory]

end AssetStore

/-- What a store holds, as far as it can be read. -/
def AssetStore.contents (store : AssetStore) : Option (List DirectoryEntry) :=
  if store.isAvailable then
    match store.directory with
    | .error .noEntry => some []
    | .error _ => none
    | .ok directory => some directory
  else none

theorem AssetStore.list_eq {store : AssetStore} {directory : List DirectoryEntry}
    (contents : store.contents = some directory) (maxNameLength first maxEntries : ℕ)
    (extensions : List Text) :
    store.list maxNameLength first maxEntries extensions = .ok
      { entries := keepFiles maxNameLength extensions first ((directory.drop first).take maxEntries)
        scanned := ((directory.drop first).take maxEntries).length
        count := directory.length } := by
  unfold AssetStore.contents at contents
  cases available : store.isAvailable with
  | false =>
    rw [available] at contents
    cases contents
  | true =>
    simp only [available, if_true] at contents
    unfold AssetStore.list
    simp only [available, Bool.not_true, Bool.false_eq_true, if_false]
    -- A directory that is missing counts as an empty one.
    cases there : store.directory with
    | error error =>
      rw [there] at contents
      cases error with
      | noEntry =>
        cases contents
        simp [keepFiles]
      | noDevice | noMemory | other => cases contents
    | ok directory' =>
      rw [there] at contents
      cases contents
      have read := readEntries_eq first maxEntries directory [] 0 (by simp)
      simp only [List.nil_append, List.length_nil, Nat.sub_zero, Nat.zero_add] at read
      simp only [read, keepFiles_map_read, List.length_map]

/-! ### Assets of a directory -/

namespace AssetProvider

variable (unit : AssetsUnit) (provider : AssetProvider)

/-- A file with a valid name that is no built-in's. -/
def isListed (entry : DirectoryEntry) : Bool :=
  !entry.isDirectory && AssetStore.isValidName unit.maxNameLength provider.extensions entry.name &&
    (findBuiltIn provider entry.name).isNone

/-- The assets among the entries of a directory from a place on. -/
def assets (first : ℕ) (entries : List DirectoryEntry) : List AssetEntry :=
  (AssetStore.keepFiles unit.maxNameLength provider.extensions first entries).filter fun entry =>
    (findBuiltIn provider entry.name).isNone

/-- The assets of a kind: its built-ins and the stored files that are listed. -/
def listing (directory : List DirectoryEntry) : List ListEntry :=
  provider.builtIns.map .ofBuiltIn ++
    (directory.filter (provider.isListed unit)).map fun entry =>
      .ofStored provider entry.name entry.size

/-- What is to be listed from a position on. -/
def due (directory : List DirectoryEntry) (offset : ℕ) : List ListEntry :=
  (provider.builtIns.drop offset).map .ofBuiltIn ++
    (provider.assets unit (offset - provider.builtIns.length)
      (directory.drop (offset - provider.builtIns.length))).map fun entry =>
        .ofStored provider entry.name entry.size

variable {unit provider}

theorem assets_cons (first : ℕ) (entry : DirectoryEntry) (later : List DirectoryEntry) :
    provider.assets unit first (entry :: later) =
      if provider.isListed unit entry then
        { name := entry.name, size := entry.size, index := first } ::
          provider.assets unit (first + 1) later
      else provider.assets unit (first + 1) later := by
  unfold assets isListed
  rw [AssetStore.keepFiles_cons]
  cases entry.isDirectory <;>
    cases AssetStore.isValidName unit.maxNameLength provider.extensions entry.name <;>
    cases found : (findBuiltIn provider entry.name).isNone <;> simp [found]

theorem assets_append (first : ℕ) (entries later : List DirectoryEntry) :
    provider.assets unit first (entries ++ later) =
      provider.assets unit first entries ++
        provider.assets unit (first + entries.length) later := by
  induction entries generalizing first with
  | nil => rfl
  | cons entry entries ih =>
    rw [List.cons_append, assets_cons, assets_cons, ih, List.length_cons,
      show first + 1 + entries.length = first + (entries.length + 1) by omega]
    split_ifs
    · rfl
    · rfl

/-- From an asset on, the assets of a directory are those of the directory from its place on. -/
theorem assets_from {first k : ℕ} {entries : List DirectoryEntry} {entry : AssetEntry}
    (there : (provider.assets unit first entries)[k]? = some entry) :
    first + k ≤ entry.index ∧ entry.index < first + entries.length ∧
      (provider.assets unit first entries).drop k =
        provider.assets unit entry.index (entries.drop (entry.index - first)) := by
  induction entries generalizing first k with
  | nil => exact nomatch there
  | cons other later ih =>
    rw [assets_cons] at there ⊢
    rw [List.length_cons]
    split_ifs at there ⊢ with listed
    · cases k with
      | zero =>
        cases there
        refine ⟨le_rfl, by simp, ?_⟩
        rw [List.drop_zero, Nat.sub_self, List.drop_zero, assets_cons, if_pos listed]
      | succ k =>
        obtain ⟨after, inside, rest⟩ := ih there
        refine ⟨by omega, by omega, ?_⟩
        rw [List.drop_succ_cons, rest,
          show entry.index - first = entry.index - (first + 1) + 1 by omega, List.drop_succ_cons]
    · obtain ⟨after, inside, rest⟩ := ih there
      refine ⟨by omega, by omega, ?_⟩
      rw [rest, show entry.index - first = entry.index - (first + 1) + 1 by omega,
        List.drop_succ_cons]

theorem due_zero (directory : List DirectoryEntry) :
    provider.due unit directory 0 = provider.listing unit directory := by
  unfold due listing
  rw [List.drop_zero, Nat.zero_sub, List.drop_zero]
  congr 1
  generalize 0 = first
  induction directory generalizing first with
  | nil => rfl
  | cons entry later ih =>
    rw [assets_cons, List.filter_cons]
    split_ifs
    · rw [List.map_cons, List.map_cons, ih]
    · exact ih _

end AssetProvider

/-! ### Responses -/

/-- There is room for an entry. -/
def Fits (room : ℕ) (entry : ListEntry) : Prop :=
  listEntryOverhead + entry.name.size + listTailSize ≤ room

instance (room : ℕ) (entry : ListEntry) : Decidable (Fits room entry) :=
  inferInstanceAs (Decidable (_ ≤ _))

/-- As many entries as fit are listed, the first one if there is room for it. -/
theorem encodeEntries_spec (encoder : ListEncoder) {room : ℕ} (tail : listTailSize ≤ room)
    (entries : List ListEntry) :
    ∃ listed left, encodeEntries encoder room entries = some (listed, left) ∧
      listTailSize ≤ left ∧ listed <+: entries ∧
        ((∀ entry ∈ entries.head?, Fits room entry) → listed = [] → entries = []) := by
  induction entries generalizing room with
  | nil => exact ⟨[], room, rfl, tail, List.prefix_refl _, fun _ _ => rfl⟩
  | cons entry later ih =>
    have size := encoder.entrySize_le entry
    by_cases small : room < listEntryOverhead + entry.name.size + listTailSize
    · refine ⟨[], room, by rw [encodeEntries, if_pos small], tail, List.nil_prefix, ?_⟩
      intro fits
      exact absurd (fits entry rfl) (Nat.not_le.mpr small)
    · obtain ⟨listed, left, encodes, tail', isPrefix, -⟩ :=
        @ih (room - encoder.entrySize entry) (by omega)
      refine ⟨entry :: listed, left, ?_, tail', List.cons_prefix_cons.mpr ⟨rfl, isPrefix⟩, nofun⟩
      rw [encodeEntries, if_neg small, if_neg (by omega), encodes, Option.map_some]

theorem finishPage_eq (encoder : ListEncoder) {remaining : ℕ} (tail : listTailSize ≤ remaining)
    (entries : List ListEntry) (next : Option ℕ) :
    finishPage encoder entries remaining next = .page entries (next.map UInt32.ofNat) := by
  have size := encoder.tailSize_le (next.map UInt32.ofNat)
  exact if_neg (by omega)

namespace AssetProvider

variable (unit : AssetsUnit) (provider : AssetProvider) (directory : List DirectoryEntry)

/-- How many positions a kind has. -/
def positions : ℕ := provider.builtIns.length + directory.length

/-- There is room for an entry, and for the one that is due first. -/
structure RoomFits (offset room : ℕ) : Prop where
  any : listEntryOverhead + listTailSize ≤ room
  first : ∀ entry ∈ (provider.due unit directory offset).head?, Fits room entry

/-- The entries are what is due up to the next position. -/
structure IsPage (offset : ℕ) (entries : List ListEntry) (next : Option ℕ) : Prop where
  last : next = none → entries = provider.due unit directory offset
  more : ∀ position, next = some position → offset < position ∧
    position < provider.positions directory ∧
      entries ++ provider.due unit directory position = provider.due unit directory offset

variable {unit provider directory}

/-- The assets of a page of the directory, and those behind it. -/
theorem assets_take_append (unit : AssetsUnit) (provider : AssetProvider) (first pageSize : ℕ)
    (entries : List DirectoryEntry) :
    provider.assets unit first (entries.take pageSize) ++
        provider.assets unit (first + (entries.take pageSize).length) (entries.drop pageSize) =
      provider.assets unit first entries := by
  rw [← assets_append, List.take_append_drop]

/-- What is due from a place of the directory on. -/
theorem due_stored (place : ℕ) :
    provider.due unit directory (provider.builtIns.length + place) =
      (provider.assets unit place (directory.drop place)).map fun entry =>
        .ofStored provider entry.name entry.size := by
  rw [due, Nat.add_sub_cancel_left, List.drop_eq_nil_of_le (Nat.le_add_right _ _)]
  rfl

section Stored

variable {offset place pageSize : ℕ} {builtIns : List ListEntry} {stored : List AssetEntry}

/-- The stored files of a page, up to the first that was not listed. -/
theorem isPage_of_unlisted (isPlace : place = offset - provider.builtIns.length)
    (all : builtIns = (provider.builtIns.drop offset).map .ofBuiltIn) {entry : AssetEntry}
    (progress : stored = [] → builtIns ≠ [])
    (isPrefix : stored <+: provider.assets unit place ((directory.drop place).take pageSize))
    (unlisted : (provider.assets unit place
      ((directory.drop place).take pageSize))[stored.length]? = some entry) :
    provider.IsPage unit directory offset
      (builtIns ++ stored.map fun entry => .ofStored provider entry.name entry.size)
      (some (provider.builtIns.length + entry.index)) where
  last := nofun
  more position same := by
    cases same
    -- The assets of the page are the first ones of all that the directory still has to list, so the
    -- one that did not fit is the next asset of the whole listing.
    have whole := assets_take_append unit provider place pageSize (directory.drop place)
    have there : (provider.assets unit place (directory.drop place))[stored.length]? =
        some entry := by
      rw [← whole, List.getElem?_append_left (List.getElem?_eq_some_iff.mp unlisted).1, unlisted]
    have taken :
        (provider.assets unit place (directory.drop place)).take stored.length = stored := by
      rw [← whole]
      exact (List.prefix_iff_eq_take.mp (isPrefix.trans (List.prefix_append ..))).symm
    obtain ⟨after, inside, rest⟩ := assets_from there
    rw [List.length_drop] at inside
    refine ⟨?_, ?_, ?_⟩
    · -- The page makes progress: a page without stored assets has a built-in one.
      by_cases none : stored = []
      · have left : offset < provider.builtIns.length := by
          by_contra past
          apply progress none
          rw [all, List.drop_eq_nil_of_le (Nat.not_lt.mp past), List.map_nil]
        omega
      · have some_ := List.length_pos_of_ne_nil none
        omega
    · unfold positions
      omega
    · rw [List.drop_drop, show place + (entry.index - place) = entry.index by omega] at rest
      have split : stored ++ provider.assets unit entry.index (directory.drop entry.index) =
          provider.assets unit place (directory.drop place) := by
        rw [← rest]
        nth_rewrite 1 [← taken]
        exact List.take_append_drop ..
      rw [due_stored, due, ← isPlace, ← all, List.append_assoc, ← List.map_append, split]

/-- All stored files of a page, up to its end or the end of the directory. -/
theorem isPage_of_scanned (isPlace : place = offset - provider.builtIns.length)
    (all : builtIns = (provider.builtIns.drop offset).map .ofBuiltIn) (page : 0 < pageSize)
    (listed : stored = provider.assets unit place ((directory.drop place).take pageSize)) :
    provider.IsPage unit directory offset
      (builtIns ++ stored.map fun entry => .ofStored provider entry.name entry.size)
      (if 0 < ((directory.drop place).take pageSize).length &&
          place + ((directory.drop place).take pageSize).length < directory.length then
        some (provider.builtIns.length + place + ((directory.drop place).take pageSize).length)
      else none) := by
  -- Everything on the page was listed, so what is left are the positions behind it.
  have whole := assets_take_append unit provider place pageSize (directory.drop place)
  have scanned : ((directory.drop place).take pageSize).length =
      min pageSize (directory.length - place) := by
    rw [List.length_take, List.length_drop]
  rw [List.drop_drop] at whole
  split_ifs with more
  · rw [Bool.and_eq_true, decide_eq_true_eq, decide_eq_true_eq] at more
    refine ⟨nofun, ?_⟩
    rintro position ⟨⟩
    refine ⟨by omega, ?_, ?_⟩
    · unfold positions
      omega
    · have full : ((directory.drop place).take pageSize).length = pageSize := by omega
      rw [full] at whole ⊢
      rw [Nat.add_assoc, due_stored, due, ← isPlace, ← all, listed, List.append_assoc,
        ← List.map_append, whole]
  · rw [Bool.and_eq_true, decide_eq_true_eq, decide_eq_true_eq] at more
    refine ⟨fun _ => ?_, nofun⟩
    have nothing : directory.drop (place + pageSize) = [] := by
      apply List.drop_eq_nil_of_le
      omega
    rw [nothing] at whole
    rw [due, ← isPlace, ← all, listed, ← whole]
    exact congrArg (builtIns ++ ·) (congrArg _ (List.append_nil _).symm)

end Stored

/-- The first of some entries that are due first is due first. -/
private theorem mem_head?_of_prefix {α : Type} {front whole : List α} (isPrefix : front <+: whole)
    {first : α} (head : first ∈ front.head?) : first ∈ whole.head? := by
  obtain ⟨later, rfl⟩ := isPrefix
  cases front with
  | nil => exact nomatch head
  | cons other front => exact head

section Answers

variable {offset room builtInPage : ℕ} {builtIns : List ListEntry} {remaining : ℕ}

/-- A response that stops among the built-ins. -/
theorem isPage_of_builtIns
    (isPrefix : builtIns <+: (provider.builtIns.drop offset).map ListEntry.ofBuiltIn)
    (some_ : builtIns ≠ []) (within : offset + builtIns.length < provider.builtIns.length) :
    provider.IsPage unit directory offset builtIns (some (offset + builtIns.length)) where
  last := nofun
  more position same := by
    cases same
    have progress := List.length_pos_of_ne_nil some_
    refine ⟨by omega, ?_, ?_⟩
    · unfold positions
      omega
    · have taken : ((provider.builtIns.drop offset).map ListEntry.ofBuiltIn).take builtIns.length =
          builtIns := (List.prefix_iff_eq_take.mp isPrefix).symm
      unfold due
      rw [show offset + builtIns.length - provider.builtIns.length = 0 by omega,
        show offset - provider.builtIns.length = 0 by omega, ← List.append_assoc]
      have rest : (provider.builtIns.drop (offset + builtIns.length)).map ListEntry.ofBuiltIn =
          ((provider.builtIns.drop offset).map ListEntry.ofBuiltIn).drop builtIns.length := by
        rw [← List.map_drop, List.drop_drop]
      congr 1
      rw [rest]
      nth_rewrite 1 [← taken]
      exact List.take_append_drop ..

/-- The built-ins of a response, when there is no other left. -/
theorem eq_of_done
    (isPrefix : builtIns <+: (provider.builtIns.drop offset).map ListEntry.ofBuiltIn)
    (done : min offset provider.builtIns.length + builtIns.length = provider.builtIns.length) :
    builtIns = (provider.builtIns.drop offset).map ListEntry.ofBuiltIn := by
  apply isPrefix.eq_of_length
  rw [List.length_map, List.length_drop]
  omega

end Answers

/-- An answer is a page of what is due. -/
theorem page_listFrom {offset room : ℕ} (contents : provider.store.contents = some directory)
    (fits : provider.RoomFits unit directory offset room) :
    ∃ entries next, provider.listFrom unit offset room = .page entries (next.map UInt32.ofNat) ∧
      provider.IsPage unit directory offset entries next := by
  have place :
      (if provider.builtIns.length < offset then offset - provider.builtIns.length else 0) =
        offset - provider.builtIns.length := by
    split_ifs
    · rfl
    · omega
  have dropped : provider.builtIns.drop (min offset provider.builtIns.length) =
      provider.builtIns.drop offset := by
    rcases Nat.le_total offset provider.builtIns.length with inside | past
    · rw [Nat.min_eq_left inside]
    · rw [Nat.min_eq_right past, List.drop_length, List.drop_eq_nil_of_le past]
  have tail : listTailSize ≤ room := le_trans (Nat.le_add_left _ _) fits.any
  unfold listFrom
  dsimp only
  rw [AssetStore.list_eq contents, place]
  dsimp only
  generalize pageEq : min (provider.builtIns.length - min offset provider.builtIns.length)
    (maxPageEntries - 1) = builtInPage
  have page : 0 < maxPageEntries - builtInPage := by
    unfold maxPageEntries at pageEq ⊢
    omega
  generalize maxPageEntries - builtInPage = pageSize at page ⊢
  unfold respond
  dsimp only
  have entries : (if 0 < provider.builtIns.length then
      (AssetStore.keepFiles unit.maxNameLength provider.extensions
        (offset - provider.builtIns.length)
        ((directory.drop (offset - provider.builtIns.length)).take pageSize)).filter fun entry =>
          (findBuiltIn provider entry.name).isNone
      else AssetStore.keepFiles unit.maxNameLength provider.extensions
        (offset - provider.builtIns.length)
          ((directory.drop (offset - provider.builtIns.length)).take pageSize)) =
      provider.assets unit (offset - provider.builtIns.length)
        ((directory.drop (offset - provider.builtIns.length)).take pageSize) := by
    split_ifs with some_
    · rfl
    · have none : provider.builtIns = [] :=
        List.length_eq_zero_iff.mp (Nat.eq_zero_of_not_pos some_)
      simp [assets, findBuiltIn, none]
  rw [entries, dropped]
  have candidatesPrefix : ((provider.builtIns.drop offset).take builtInPage).map
      ListEntry.ofBuiltIn <+: (provider.builtIns.drop offset).map ListEntry.ofBuiltIn :=
    (List.take_prefix _ _).map _
  obtain ⟨builtIns, left, encodes, tail', isPrefix, progress⟩ :=
    encodeEntries_spec unit.encoder tail
      (((provider.builtIns.drop offset).take builtInPage).map .ofBuiltIn)
  have progress' : builtIns = [] → ((provider.builtIns.drop offset).take builtInPage).map
      ListEntry.ofBuiltIn = [] := by
    apply progress
    intro entry head
    apply fits.first
    exact mem_head?_of_prefix (candidatesPrefix.trans (List.prefix_append _ _)) head
  rw [encodes]
  dsimp only
  have isPrefix' := isPrefix.trans candidatesPrefix
  by_cases done : min offset provider.builtIns.length + builtIns.length = provider.builtIns.length
  · have all := eq_of_done isPrefix' done
    rw [if_neg (not_not.mpr done)]
    generalize placeEq : offset - provider.builtIns.length = first
    generalize frontEq : provider.assets unit first ((directory.drop first).take pageSize) = front
    obtain ⟨listed, left', encodes', tail', isPrefix, progress⟩ := encodeEntries_spec unit.encoder
      tail' (front.map fun entry => .ofStored provider entry.name entry.size)
    have taken : (front.take listed.length).map
        (fun entry => ListEntry.ofStored provider entry.name entry.size) = listed := by
      rw [List.map_take]
      exact (List.prefix_iff_eq_take.mp isPrefix).symm
    have few := isPrefix.length_le
    rw [List.length_map] at few
    have stored : front.take listed.length = [] → builtIns = [] → front = [] := by
      intro none noBuiltIns
      rw [none, List.map_nil] at taken
      -- Without built-ins all the room is left.
      have whole : left = room := by
        rw [progress' noBuiltIns, encodeEntries] at encodes
        cases encodes
        rfl
      apply List.map_eq_nil_iff.mp (progress ?_ taken.symm)
      intro entry head
      rw [whole]
      apply fits.first
      rw [due, ← all, noBuiltIns, List.nil_append, placeEq]
      refine mem_head?_of_prefix (List.IsPrefix.map _ ?_) head
      rw [← frontEq, ← assets_take_append unit provider first pageSize (directory.drop first)]
      exact List.prefix_append _ _
    rw [encodes']
    dsimp only
    have length : listed.length = (front.take listed.length).length :=
      (List.length_take_of_le few).symm
    generalize storedEq : front.take listed.length = stored' at taken stored length
    have isFront : stored' <+: front := storedEq ▸ List.take_prefix _ _
    cases taken
    rw [length]
    cases unlisted : front[stored'.length]? with
    | some entry =>
      have some_ : front ≠ [] := by
        rintro rfl
        exact nomatch unlisted
      have progress : stored' = [] → builtIns ≠ [] :=
        fun none noBuiltIns => some_ (stored none noBuiltIns)
      dsimp only
      rw [if_neg, finishPage_eq _ tail']
      · exact ⟨_, some _, rfl, isPage_of_unlisted placeEq.symm all progress (frontEq ▸ isFront)
          (frontEq ▸ unlisted)⟩
      · intro neither
        rw [Bool.and_eq_true, decide_eq_true_eq, decide_eq_true_eq] at neither
        exact progress (List.length_eq_zero_iff.mp (length ▸ neither.1))
          (List.length_eq_zero_iff.mp neither.2)
    | none =>
      dsimp only
      rw [finishPage_eq _ tail']
      refine ⟨_, _, rfl, isPage_of_scanned placeEq.symm all page ?_⟩
      rw [frontEq]
      exact isFront.eq_of_length_le (List.getElem?_eq_none_iff.mp unlisted)
  · have few := isPrefix'.length_le
    rw [List.length_map, List.length_drop] at few
    have some_ : builtIns ≠ [] := by
      intro none
      have nothing := congrArg List.length (progress' none)
      rw [none, List.length_nil] at done
      rw [List.length_map, List.length_take, List.length_drop, List.length_nil] at nothing
      unfold maxPageEntries at pageEq
      omega
    rw [if_pos done, if_neg (mt List.length_eq_zero_iff.mp some_), finishPage_eq _ tail']
    have inside : min offset provider.builtIns.length = offset := by
      have := List.length_pos_of_ne_nil some_
      omega
    rw [inside] at done ⊢
    exact ⟨_, some _, rfl, isPage_of_builtIns isPrefix' some_ (by omega)⟩

end AssetProvider

/-! ### Listings -/

/-- The entries of an answer and the offset it names; the room of a response may be another for
every request. -/
def listPage (unit : AssetsUnit) (kind : UInt32) (room : ℕ → UInt32 → ℕ) (number : ℕ)
    (offset : UInt32) : Option (List ListEntry × Option UInt32) :=
  match executeList unit (some { kind, offset }) (room number offset) with
  | .page entries next => some (entries, next)
  | _ => none

/-- The entries received when every `next` is followed from offset 0 on, if the listing ends within
so many requests. -/
def followList (unit : AssetsUnit) (kind : UInt32) (room : ℕ → UInt32 → ℕ) (requests : ℕ) :
    Option (List ListEntry) :=
  followPages (listPage unit kind room) requests 0 0

section Listing

variable {unit : AssetsUnit} {kind : UInt32} {provider : AssetProvider}
  {directory : List DirectoryEntry}

theorem listPage_eq (found : unit.findProvider kind = some provider) {room : ℕ → UInt32 → ℕ}
    {number : ℕ} {offset : UInt32} {entries : List ListEntry} {next : Option UInt32}
    (answers : provider.listFrom unit offset.toNat (room number offset) = .page entries next) :
    listPage unit kind room number offset = some (entries, next) := by
  simp only [listPage, executeList, found, answers]

theorem page_executeList (found : unit.findProvider kind = some provider)
    (contents : provider.store.contents = some directory)
    (few : provider.positions directory ≤ 2 ^ 32) {offset : UInt32} {room : ℕ}
    (fits : provider.RoomFits unit directory offset.toNat room) :
    ∃ entries next, executeList unit (some { kind, offset }) room = .page entries next ∧
      PageOf (fun offset : UInt32 => provider.due unit directory offset.toNat)
        (fun offset : UInt32 => provider.positions directory - offset.toNat) offset entries next ∧
          ∀ position, next = some position → offset < position := by
  obtain ⟨entries, next, answers, isPage⟩ := AssetProvider.page_listFrom contents fits
  refine ⟨entries, next.map UInt32.ofNat, ?_, ?_⟩
  · simp only [executeList, found]
    exact answers
  · cases next with
    | none => exact ⟨isPage.last rfl, nofun⟩
    | some position =>
      obtain ⟨later, inside, rest⟩ := isPage.more position rfl
      -- The position fits the field of the response.
      have value : (UInt32.ofNat position).toNat = position := by
        rw [UInt32.toNat_ofNat']
        exact Nat.mod_eq_of_lt (by omega)
      refine ⟨⟨?_, ?_⟩, ?_⟩
      · dsimp only
        rw [value]
        omega
      · dsimp only
        rw [value]
        exact rest
      · rintro _ ⟨⟩
        rw [UInt32.lt_iff_toNat_lt, value]
        exact later

end Listing

/-- A listing of at most 2 ^ 32 positions ends, whatever room its responses have, with all assets of
the kind, each once and in order; every `next` is behind the offset that got it. The number of
positions is a `size_t`, so that where this has 32 bits there are fewer than 2 ^ 32. -/
theorem listing_complete (unit : AssetsUnit) (kind : UInt32) (provider : AssetProvider)
    (directory : List DirectoryEntry) (found : unit.findProvider kind = some provider)
    (contents : provider.store.contents = some directory)
    (few : provider.positions directory ≤ 2 ^ 32) (room : ℕ → UInt32 → ℕ)
    (fits : ∀ number offset,
      provider.RoomFits unit directory (UInt32.toNat offset) (room number offset)) :
    (∃ requests, followList unit kind room requests = some (provider.listing unit directory)) ∧
      ∀ number offset entries next,
        executeList unit (some { kind, offset }) (room number offset) = .page entries (some next) →
          offset < next := by
  constructor
  · have pages : ∀ number offset, ∃ entries next,
        listPage unit kind room number offset = some (entries, next) ∧
          PageOf (fun offset : UInt32 => provider.due unit directory offset.toNat)
            (fun offset : UInt32 => provider.positions directory - offset.toNat) offset entries
              next := by
      intro number offset
      obtain ⟨entries, next, answers, isPage, -⟩ :=
        page_executeList found contents few (fits number offset)
      refine ⟨entries, next, ?_, isPage⟩
      unfold listPage
      rw [answers]
    rw [← AssetProvider.due_zero]
    exact ⟨_, followPages_eq pages (Nat.lt_succ_of_le (Nat.sub_le ..))⟩
  · intro number offset entries next answers
    obtain ⟨_, _, answers', -, later⟩ := page_executeList found contents few (fits number offset)
    cases answers.symm.trans answers'
    exact later next rfl

/-! ### A few assets, and too many entries -/

/-- A built-in `a.png`. -/
def sampleProvider (directory : List DirectoryEntry) : AssetProvider where
  store := { isAvailable := true, directory := .ok directory }
  extensions := [.ofString ".png"]
  builtIns := [{ name := .ofString "a.png", data := [1, 2] }]
  getEndMs := none

/-- A unit with one provider, for kind 0, and names of 64 bytes at most. -/
def sampleUnit (provider : AssetProvider) : AssetsUnit where
  maxNameLength := 64
  findProvider kind := if kind = 0 then some provider else none
  encoder :=
    { entrySize := fun entry => 25 + entry.name.size
      tailSize := fun _ => 12
      entrySize_le := fun entry => by unfold listEntryOverhead; omega
      tailSize_le := fun _ => by decide }

/-- A directory, a file and a file that the built-in shadows. -/
def sampleDirectory : List DirectoryEntry :=
  [{ name := .ofString "sub", size := 0, isDirectory := true },
    { name := .ofString "b.png", size := 5, isDirectory := false },
    { name := .ofString "A.PNG", size := 1, isDirectory := false }]

/-- Every response has room for one entry. -/
theorem listing_complete_sample :
    ∃ requests,
      followList (sampleUnit (sampleProvider sampleDirectory)) 0 (fun _ _ => 61) requests =
        some ((sampleProvider sampleDirectory).listing (sampleUnit (sampleProvider sampleDirectory))
        sampleDirectory) := by
  refine (listing_complete _ 0 (sampleProvider sampleDirectory) sampleDirectory rfl rfl (by decide)
    (fun _ _ => 61) fun _ offset => ⟨by decide, ?_⟩).1
  generalize offset.toNat = position
  match position with
  | 0 | 1 | 2 | 3 => decide +kernel
  | position + 4 =>
    have nothing : (sampleProvider sampleDirectory).due
        (sampleUnit (sampleProvider sampleDirectory)) sampleDirectory (position + 4) = [] := by
      unfold AssetProvider.due
      rw [List.drop_eq_nil_of_le (Nat.le_add_left 1 (position + 3)), List.drop_eq_nil_of_le]
      · rfl
      · exact Nat.le_add_left 3 position
    rw [nothing]
    exact nofun

/-- A directory of subdirectories, with more entries than there are positions. -/
def crowded : List DirectoryEntry :=
  List.replicate (2 ^ 32 + 48) { name := .ofString "sub", size := 0, isDirectory := true }

/-- More assets than a page holds. -/
def crowdedProvider : AssetProvider := { sampleProvider crowded with builtIns := [] }

theorem keepFiles_replicate (maxNameLength : ℕ) (extensions : List Text) (first count : ℕ)
    (name : Text) :
    AssetStore.keepFiles maxNameLength extensions first
      (List.replicate count { name, size := 0, isDirectory := true }) = [] := by
  induction count generalizing first with
  | zero => rfl
  | succ count ih =>
    rw [List.replicate_succ, AssetStore.keepFiles_cons]
    exact ih _

/-- A page without an asset, of a kind without built-ins, that does not reach the end. -/
theorem listFrom_of_nothing {unit : AssetsUnit} {provider : AssetProvider}
    {offset room scanned count : ℕ} (noBuiltIns : provider.builtIns = [])
    (listed : provider.store.list unit.maxNameLength offset maxPageEntries provider.extensions =
      .ok { entries := [], scanned, count })
    (some_ : 0 < scanned) (more : offset + scanned < count) (tail : listTailSize ≤ room) :
    provider.listFrom unit offset room = .page [] (some (UInt32.ofNat (offset + scanned))) := by
  have place : (if 0 < offset then offset else 0) = offset := by
    split_ifs
    · rfl
    · omega
  unfold AssetProvider.listFrom
  simp only [noBuiltIns, List.length_nil, Nat.min_zero, Nat.sub_zero, place, Nat.zero_min]
  rw [listed]
  have finish := finishPage_eq unit.encoder tail [] (some (offset + scanned))
  simp only [AssetProvider.respond, noBuiltIns, List.length_nil, Nat.lt_irrefl, if_false,
    List.drop_nil, List.take_nil, List.map_nil, encodeEntries, Nat.add_zero, ne_eq,
    not_true_eq_false, List.getElem?_nil, List.append_nil, some_, more, decide_true, Bool.and_self,
    if_true, Nat.zero_add]
  exact finish

/-- Every answer is empty and names another position. -/
theorem listPage_crowded (number : ℕ) (offset : UInt32) :
    listPage (sampleUnit crowdedProvider) 0 (fun _ _ => 61) number offset =
      some ([], some (UInt32.ofNat (offset.toNat + 48))) := by
  have small := offset.toNat_lt
  have page : (crowded.drop offset.toNat).take 48 =
      List.replicate 48 { name := .ofString "sub", size := 0, isDirectory := true } := by
    rw [crowded, List.drop_replicate, List.take_replicate, Nat.min_eq_left (by omega)]
  have listed : crowdedProvider.store.list 64 offset.toNat 48 crowdedProvider.extensions =
      .ok { entries := [], scanned := 48, count := 2 ^ 32 + 48 } := by
    rw [AssetStore.list_eq (show crowdedProvider.store.contents = some crowded from rfl), page,
      keepFiles_replicate, List.length_replicate, crowded, List.length_replicate]
  have answers : crowdedProvider.listFrom (sampleUnit crowdedProvider) offset.toNat 61 =
      .page [] (some (UInt32.ofNat (offset.toNat + 48))) :=
    @listFrom_of_nothing (sampleUnit crowdedProvider) crowdedProvider offset.toNat 61 48
      (2 ^ 32 + 48) rfl listed (by decide) (Nat.add_lt_add_right small 48) (by decide)
  have found : (sampleUnit crowdedProvider).findProvider 0 = some crowdedProvider := rfl
  exact listPage_eq found answers

/-- The listing of a directory with more entries than there are positions does not end. -/
theorem not_listing_complete_crowded :
    crowdedProvider.store.contents = some crowded ∧
      (∀ offset : UInt32,
        crowdedProvider.RoomFits (sampleUnit crowdedProvider) crowded offset.toNat 61) ∧
        ¬∃ requests entries,
          followList (sampleUnit crowdedProvider) 0 (fun _ _ => 61) requests = some entries := by
  refine ⟨rfl, fun offset => ⟨by decide, ?_⟩, ?_⟩
  · have nothing : crowdedProvider.due (sampleUnit crowdedProvider) crowded offset.toNat = [] := by
      unfold AssetProvider.due crowded
      rw [List.drop_replicate, AssetProvider.assets, keepFiles_replicate]
      exact congrArg (· ++ []) (congrArg (List.map _) List.drop_nil)
    rw [nothing]
    exact nofun
  · rintro ⟨requests, entries, ends⟩
    rw [followList, followPages_eq_none fun number offset => ⟨_, _, listPage_crowded number offset⟩]
      at ends
    exact nomatch ends

end RtCore.Assets
