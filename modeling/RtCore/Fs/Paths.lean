import Mathlib.Data.List.Infix
import Mathlib.Data.List.DropRight
import Mathlib.Data.List.TakeWhile

/-!
# Paths on a volume

`FsService` joins relative paths onto its mount point and refuses those that could leave it. Before
a rename it compares source and target name by name, as a volume that folds case would take them for
one file, delete the target and find no source.

A volume resolves a path name by name: it ignores empty names and `.`, goes up at `..`, and enters
the entry of any other name. Of the names it is only assumed that plain ones, which end in no dot
and hold only letters, digits, `.`, `_` and `-`, are taken as written up to the case of their
letters.

## Main definitions

* `Volume`, `Volume.resolve` — a volume and the entry that a path leads to
* `StaticString`, `FilesystemPath.append` — the path buffer
* `FsService.tryBuildPath`, `FsService.rename` — the checks of the service

## Main results

* `isSameEntryIgnoringCase_iff` — the walk over two paths compares their names
* `FsService.paths_stay_inside` — paths stay inside the volume, and a rename has two entries
-/

namespace RtCore.Fs

/-! ### Volumes -/

/-- `std::tolower` of one character in the C locale. -/
def toLowerAscii (c : Char) : Char :=
  if 'A' ≤ c ∧ c ≤ 'Z' then Char.ofNat (c.toNat - 'A'.toNat + 'a'.toNat) else c

/-- A character that a name on any volume can have. -/
def isPlainCharacter (c : Char) : Bool :=
  ('a' ≤ c && c ≤ 'z') || ('A' ≤ c && c ≤ 'Z') || ('0' ≤ c && c ≤ '9') ||
    c = '.' || c = '_' || c = '-'

/-- A name that every volume takes as it is written. -/
def isPlainName (name : List Char) : Bool :=
  name.getLast? ≠ some '.' && name.all isPlainCharacter

/-- A volume, by the name under which it keeps the entry of a name. -/
structure Volume where
  entryName : List Char → List Char
  plain : ∀ name, isPlainName name = true → entryName name = name.map toLowerAscii

/-- A name that leads nowhere. -/
def isIgnored (name : List Char) : Bool := name = [] || name = ['.']

/-- The name of the directory above. -/
def parentName : List Char := ['.', '.']

namespace Volume

/-- The entry that a name leads to from a directory. -/
def enter (volume : Volume) (directory : List (List Char)) (name : List Char) : List (List Char) :=
  if isIgnored name then directory
  else if name = parentName then directory.dropLast
  else directory ++ [volume.entryName name]

/-- The entry that a path leads to from a directory. -/
def resolve (volume : Volume) (directory : List (List Char)) (path : List Char) :
    List (List Char) :=
  (path.splitOn '/').foldl volume.enter directory

variable (volume : Volume) (directory : List (List Char))

@[simp] theorem resolve_nil : volume.resolve directory [] = directory := rfl

theorem resolve_append_slash (path rest : List Char) :
    volume.resolve directory (path ++ '/' :: rest) =
      volume.resolve (volume.resolve directory path) rest := by
  rw [resolve, List.splitOn_append_cons_self, List.foldl_append]
  rfl

/-- A separator at the end of a path changes nothing. -/
theorem resolve_concat_slash (path : List Char) :
    volume.resolve directory (path ++ ['/']) = volume.resolve directory path := by
  rw [resolve_append_slash, resolve_nil]

/-- Names without `..` never leave the directory they start in. -/
theorem prefix_foldl_enter {names : List (List Char)} (below : parentName ∉ names) :
    directory <+: names.foldl volume.enter directory := by
  induction names generalizing directory with
  | nil => exact List.prefix_refl _
  | cons name names ih =>
    have here : name ≠ parentName := fun same => below (same ▸ List.mem_cons_self)
    have later :=
      ih (volume.enter directory name) fun inside => below (List.mem_cons_of_mem _ inside)
    refine List.IsPrefix.trans ?_ later
    rw [enter, if_neg here]
    split
    · exact List.prefix_refl _
    · exact List.prefix_append _ _

/-- Without `..`, a path leads to the entries of its names one below the other. -/
theorem foldl_enter_eq {names : List (List Char)} (below : parentName ∉ names) :
    names.foldl volume.enter directory =
      directory ++ (names.filter fun name => !isIgnored name).map volume.entryName := by
  induction names generalizing directory with
  | nil => simp
  | cons name names ih =>
    have here : name ≠ parentName := fun same => below (same ▸ List.mem_cons_self)
    rw [List.foldl_cons, ih _ fun inside => below (List.mem_cons_of_mem _ inside), enter,
      if_neg here]
    cases ignored : isIgnored name <;> simp [ignored]

end Volume

/-- A path without the separators at its end. -/
def trimSeparators (path : List Char) : List Char := path.rdropWhile (· = '/')

theorem Volume.resolve_trimSeparators (volume : Volume) (directory : List (List Char))
    (path : List Char) :
    volume.resolve directory (trimSeparators path) = volume.resolve directory path := by
  induction path using List.reverseRecOn with
  | nil => rfl
  | append_singleton path last ih =>
    rw [trimSeparators, List.rdropWhile_concat]
    split_ifs with separator
    · obtain rfl : last = '/' := by simpa using separator
      rw [resolve_concat_slash]
      exact ih
    · rfl

/-! ### The names of a path -/

/-- The names of a path that lead somewhere. -/
def names (path : List Char) : List (List Char) :=
  (path.splitOn '/').filter fun name => !isIgnored name

/-- The text up to the first separator. -/
def firstName (path : List Char) : List Char := path.takeWhile (· ≠ '/')

theorem separator_not_mem_firstName (path : List Char) : '/' ∉ firstName path := by
  intro inside
  simpa using List.mem_takeWhile_imp inside

/-- What is left after the first name and its separator. -/
def afterFirstName (path : List Char) : List Char := path.drop ((firstName path).length + 1)

/-- A path is its first name alone, or that name, a separator and the rest. -/
theorem firstName_cases (path : List Char) :
    path = firstName path ∧ path.splitOn '/' = [firstName path] ∨
      path = firstName path ++ '/' :: afterFirstName path ∧
        path.splitOn '/' = firstName path :: (afterFirstName path).splitOn '/' := by
  have free := separator_not_mem_firstName path
  have cut : path = firstName path ++ path.dropWhile (· ≠ '/') :=
    (List.takeWhile_append_dropWhile).symm
  cases after : path.dropWhile (· ≠ '/') with
  | nil =>
    rw [after, List.append_nil] at cut
    refine .inl ⟨cut, ?_⟩
    rw [← cut] at free ⊢
    exact List.splitOn_eq_singleton free
  | cons separator rest =>
    obtain rfl : separator = '/' := by
      have stops := List.head?_dropWhile_not (· ≠ '/') path
      rw [after] at stops
      simpa using stops
    have left : afterFirstName path = rest := by
      rw [afterFirstName, ← List.drop_drop]
      nth_rewrite 2 [cut]
      rw [List.drop_left, after]
      rfl
    rw [after] at cut
    refine .inr ⟨left ▸ cut, ?_⟩
    rw [left]
    nth_rewrite 1 [cut]
    exact List.splitOn_append_cons_self_of_not_mem free _

theorem length_afterFirstName (path : List Char) :
    (afterFirstName path).length = path.length - ((firstName path).length + 1) :=
  List.length_drop

@[simp] theorem names_nil : names [] = [] := rfl

/-- The names of a path are its first, unless that is ignored, and those of the rest. -/
theorem names_eq (path : List Char) :
    names path = (if isIgnored (firstName path) then [] else [firstName path]) ++
      names (afterFirstName path) := by
  obtain ⟨alone, split⟩ | ⟨-, split⟩ := firstName_cases path
  · have nothing : afterFirstName path = [] := by
      rw [← List.length_eq_zero_iff, length_afterFirstName, ← alone]
      omega
    rw [nothing, names, split]
    cases ignored : isIgnored (firstName path) <;> simp [ignored]
  · rw [names, split, names]
    cases ignored : isIgnored (firstName path) <;> simp [ignored]

/-! ### The path buffer -/

/-- `StaticString`, by the characters it holds. -/
structure StaticString (capacity : ℕ) where
  chars : List Char := []
  fits : chars.length ≤ capacity := by decide

namespace StaticString

variable {capacity : ℕ}

/-- The constructor, which cuts what does not fit. -/
def ofText (text : List Char) : StaticString capacity where
  chars := text.take capacity
  fits := List.length_take_le _ _

/-- `Append`. -/
def append (s : StaticString capacity) (text : List Char) : StaticString capacity :=
  if room : text.length ≤ capacity - s.chars.length then
    ⟨s.chars ++ text, by have := s.fits; rw [List.length_append]; omega⟩
  else s

/-- `Truncate`. -/
def truncate (s : StaticString capacity) (size : ℕ) : StaticString capacity :=
  ⟨s.chars.take size, (List.length_take_le' _ _).trans s.fits⟩

theorem chars_append {s : StaticString capacity} {text : List Char}
    (room : s.chars.length + text.length ≤ capacity) :
    (s.append text).chars = s.chars ++ text := by
  rw [append, dif_pos (by omega)]

end StaticString

/-- `operator/=` of `FilesystemPath`. -/
def FilesystemPath.append {capacity : ℕ} (path : StaticString capacity) (rhs : List Char) :
    StaticString capacity :=
  if rhs = [] then path
  else
    let path := if rhs.head? = some '/' then { fits := Nat.zero_le _ } else path
    let path :=
      if path.chars = [] then path
      else (path.truncate (trimSeparators path.chars).length).append ['/']
    path.append rhs

theorem FilesystemPath.chars_append {capacity : ℕ} {path : StaticString capacity}
    {rhs : List Char} (nonempty : rhs ≠ []) (relative : rhs.head? ≠ some '/')
    (room : path.chars.length + 1 + rhs.length ≤ capacity) :
    (FilesystemPath.append path rhs).chars =
      if path.chars = [] then rhs else trimSeparators path.chars ++ '/' :: rhs := by
  have isPrefix : trimSeparators path.chars <+: path.chars := List.rdropWhile_prefix _ _
  have short := isPrefix.length_le
  have cut : (path.truncate (trimSeparators path.chars).length).chars = trimSeparators path.chars :=
    (List.prefix_iff_eq_take.mp isPrefix).symm
  rw [FilesystemPath.append, if_neg nonempty, if_neg relative]
  dsimp only
  split_ifs with empty
  · rw [StaticString.chars_append (by omega), empty, List.nil_append]
  · have joined : ((path.truncate (trimSeparators path.chars).length).append ['/']).chars =
        trimSeparators path.chars ++ ['/'] := by
      rw [StaticString.chars_append (by rw [cut, List.length_singleton]; omega), cut]
    rw [StaticString.chars_append (by
      rw [joined, List.length_append, List.length_singleton]
      omega), joined, List.append_assoc]
    rfl

/-! ### The checks -/

/-- The loop of `TryBuildPath` over the names of a path. -/
def hasParentName (path : List Char) : Bool :=
  if firstName path = parentName then true
  else if (firstName path).length < path.length then hasParentName (afterFirstName path)
  else false
termination_by path.length
decreasing_by
  rw [length_afterFirstName]
  omega

/-- `NextName`: the next name of a path, empty when it is used up, and the rest of the path. -/
def nextName (path : List Char) : List Char × List Char :=
  if path = [] then ([], [])
  else if !isIgnored (firstName path) then (firstName path, afterFirstName path)
  else nextName (afterFirstName path)
termination_by path.length
decreasing_by
  have := List.length_pos_iff.mpr ‹path ≠ []›
  rw [length_afterFirstName]
  omega

/-- The loop finds `..` exactly when it is a name of the path. -/
theorem hasParentName_iff (path : List Char) :
    hasParentName path = true ↔ parentName ∈ path.splitOn '/' := by
  induction path using hasParentName.induct with
  | case1 path found =>
    rw [hasParentName, if_pos found]
    obtain ⟨-, split⟩ | ⟨-, split⟩ := firstName_cases path <;> simp [split, found]
  | case2 path other more ih =>
    rw [hasParentName, if_neg other, if_pos more, ih]
    obtain ⟨alone, -⟩ | ⟨-, split⟩ := firstName_cases path
    · exact absurd more (by rw [← alone]; exact lt_irrefl _)
    · simp [split, Ne.symm other]
  | case3 path other done =>
    rw [hasParentName, if_neg other, if_neg done]
    obtain ⟨-, split⟩ | ⟨cut, -⟩ := firstName_cases path
    · simp [split, Ne.symm other]
    · refine absurd ?_ done
      nth_rewrite 2 [cut]
      simp

/-- The names of a path are what `NextName` gives one after another. -/
theorem nextName_spec (path : List Char) :
    names path = (if (nextName path).1 = [] then [] else [(nextName path).1]) ++
        names (nextName path).2 ∧
      ((nextName path).1 ≠ [] → (nextName path).2.length < path.length) ∧
      ((nextName path).1 = [] → names path = []) := by
  induction path using nextName.induct with
  | case1 => simp [nextName]
  | case2 path some own =>
    have isName : isIgnored (firstName path) = false := by simpa using own
    have present : firstName path ≠ [] := by
      intro empty
      simp [isIgnored, empty] at isName
    rw [nextName, if_neg some, if_pos own]
    refine ⟨?_, fun _ => ?_, (absurd · present)⟩
    · rw [names_eq, isName, if_neg present]
      rfl
    · rw [length_afterFirstName]
      have := List.length_pos_iff.mpr some
      omega
  | case3 path some ignored ih =>
    have skipped : isIgnored (firstName path) = true := by simpa using ignored
    have same : names path = names (afterFirstName path) := by
      rw [names_eq, skipped]
      rfl
    rw [nextName, if_neg some, if_neg ignored, same]
    refine ⟨ih.1, fun present => (ih.2.1 present).trans ?_, ih.2.2⟩
    rw [length_afterFirstName]
    have := List.length_pos_iff.mpr some
    omega

theorem names_of_nextName_nil {path : List Char} (done : (nextName path).1 = []) :
    names path = [] :=
  (nextName_spec path).2.2 done

theorem names_of_nextName {path : List Char} (more : (nextName path).1 ≠ []) :
    names path = (nextName path).1 :: names (nextName path).2 := by
  rw [(nextName_spec path).1, if_neg more]
  rfl

/-- `IsSameEntryIgnoringCase`. -/
def isSameEntryIgnoringCase (a b : List Char) : Bool :=
  if (nextName a).1.map toLowerAscii ≠ (nextName b).1.map toLowerAscii then false
  else if (nextName a).1 = [] then true
  else isSameEntryIgnoringCase (nextName a).2 (nextName b).2
termination_by a.length
decreasing_by exact (nextName_spec a).2.1 ‹_›

/-- `IsPlainPath`. -/
def isPlainPath (path : List Char) : Bool :=
  if (nextName path).1 = [] then true
  else if !isPlainName (nextName path).1 then false
  else isPlainPath (nextName path).2
termination_by path.length
decreasing_by exact (nextName_spec path).2.1 ‹_›

/-- The walk over two paths compares their names, without the case of letters. -/
theorem isSameEntryIgnoringCase_iff (a b : List Char) :
    isSameEntryIgnoringCase a b = true ↔
      (names a).map (·.map toLowerAscii) = (names b).map (·.map toLowerAscii) := by
  induction a, b using isSameEntryIgnoringCase.induct with
  | case1 a b differ =>
    rw [isSameEntryIgnoringCase, if_pos differ]
    refine iff_of_false Bool.false_ne_true fun same => differ ?_
    by_cases doneA : (nextName a).1 = [] <;> by_cases doneB : (nextName b).1 = []
    · rw [doneA, doneB]
    · rw [names_of_nextName_nil doneA, names_of_nextName doneB] at same
      cases same
    · rw [names_of_nextName doneA, names_of_nextName_nil doneB] at same
      cases same
    · rw [names_of_nextName doneA, names_of_nextName doneB] at same
      exact List.head_eq_of_cons_eq same
  | case2 a b same done =>
    have same := not_not.mp same
    have doneB : (nextName b).1 = [] := by
      rw [done] at same
      exact List.map_eq_nil_iff.mp same.symm
    rw [isSameEntryIgnoringCase, if_neg (not_not.mpr same), if_pos done,
      names_of_nextName_nil done, names_of_nextName_nil doneB]
    exact iff_of_true rfl rfl
  | case3 a b same more ih =>
    have same := not_not.mp same
    have moreB : (nextName b).1 ≠ [] := by
      intro done
      rw [done] at same
      exact more (List.map_eq_nil_iff.mp same)
    rw [isSameEntryIgnoringCase, if_neg (not_not.mpr same), if_neg more, ih,
      names_of_nextName more, names_of_nextName moreB, List.map_cons, List.map_cons, same,
      List.cons_inj_right]

/-- The names of a plain path are plain. -/
theorem isPlainPath_iff (path : List Char) :
    isPlainPath path = true ↔ ∀ name ∈ names path, isPlainName name = true := by
  induction path using isPlainPath.induct with
  | case1 path done =>
    rw [isPlainPath, if_pos done, names_of_nextName_nil done]
    simp
  | case2 path more odd =>
    rw [isPlainPath, if_neg more, if_pos odd, names_of_nextName more]
    have odd : isPlainName (nextName path).1 = false := by simpa using odd
    simp [odd]
  | case3 path more plain ih =>
    rw [isPlainPath, if_neg more, if_neg plain, ih, names_of_nextName more]
    have plain : isPlainName (nextName path).1 = true := by simpa using plain
    simp [plain]

/-! ### The service -/

namespace FsService

/-- The size of the buffer a path is built in. -/
def pathBufferSize : ℕ := 256

/-- `TryBuildPath`, for the path of the mount point. -/
def tryBuildPath (mountPoint : Option (List Char)) (relativePath : List Char) :
    Option (StaticString pathBufferSize) :=
  mountPoint.bind fun mountPoint =>
    if relativePath.head? = some '/' then none
    else if hasParentName relativePath then none
    else if pathBufferSize < mountPoint.length + 1 + relativePath.length then none
    else some (FilesystemPath.append (.ofText mountPoint) relativePath)

/-- What `Rename` needs of the file system: the mount point, whether it is mounted, what `fs_stat`
answers for a path and `fs_rename` for two. -/
structure Disk where
  mountPoint : Option (List Char)
  isMounted : Bool
  stat : List Char → ℤ
  rename : List Char → List Char → ℤ

/-- The error of a disk that has no volume. -/
def enodev : ℤ := 19
/-- The error of a path that is refused. -/
def einval : ℤ := 22

/-- `Rename`: its answer and the paths that it passes to `fs_rename`. -/
def rename (disk : Disk) (source target : List Char) : ℤ × Option (List Char × List Char) :=
  if !disk.isMounted then (-enodev, none)
  else if source = [] || target = [] then (-einval, none)
  else
    match tryBuildPath disk.mountPoint source, tryBuildPath disk.mountPoint target with
    | some sourcePath, some targetPath =>
      if !isPlainPath source || !isPlainPath target then (-einval, none)
      else if isSameEntryIgnoringCase source target then (-einval, none)
      else if disk.stat sourcePath.chars < 0 then (disk.stat sourcePath.chars, none)
      else (disk.rename sourcePath.chars targetPath.chars,
        some (sourcePath.chars, targetPath.chars))
    | _, _ => (-einval, none)

/-- The path that is built: the mount point without its last separators, one separator, the text. -/
theorem chars_of_tryBuildPath {mountPoint relativePath : List Char}
    {fullPath : StaticString pathBufferSize}
    (built : tryBuildPath (some mountPoint) relativePath = some fullPath) :
    hasParentName relativePath = false ∧
      fullPath.chars =
        if relativePath = [] then mountPoint
        else if mountPoint = [] then relativePath
        else trimSeparators mountPoint ++ '/' :: relativePath := by
  rw [tryBuildPath, Option.bind_some] at built
  split_ifs at built with absolute parent long
  obtain rfl := Option.some.inj built
  refine ⟨by simpa using parent, ?_⟩
  have room := not_lt.mp long
  have whole : (StaticString.ofText mountPoint : StaticString pathBufferSize).chars = mountPoint :=
    List.take_of_length_le (by omega)
  split_ifs with empty bare
  · rw [FilesystemPath.append, if_pos empty, whole]
  · rw [FilesystemPath.chars_append empty absolute (by rw [whole]; exact room), whole, if_pos bare]
  · rw [FilesystemPath.chars_append empty absolute (by rw [whole]; exact room), whole, if_neg bare]

/-- The path that is built leads from the root over the mount point to what the text names there. -/
theorem resolve_of_tryBuildPath (volume : Volume) {mountPoint relativePath : List Char}
    {fullPath : StaticString pathBufferSize}
    (built : tryBuildPath (some mountPoint) relativePath = some fullPath) :
    volume.resolve [] fullPath.chars =
      volume.resolve (volume.resolve [] mountPoint) relativePath := by
  rw [(chars_of_tryBuildPath built).2]
  split_ifs with empty bare
  · rw [empty, Volume.resolve_nil]
  · rw [bare, Volume.resolve_nil]
  · rw [Volume.resolve_append_slash, Volume.resolve_trimSeparators]

/-- Names of a path that was built do not go up. -/
theorem parentName_not_mem {mountPoint relativePath : List Char}
    {fullPath : StaticString pathBufferSize}
    (built : tryBuildPath (some mountPoint) relativePath = some fullPath) :
    parentName ∉ relativePath.splitOn '/' := by
  rw [← hasParentName_iff, (chars_of_tryBuildPath built).1]
  exact Bool.false_ne_true

/-- What a rename passes on. -/
theorem of_rename {disk : Disk} {source target : List Char} {passed : List Char × List Char}
    (renamed : (rename disk source target).2 = some passed) :
    ∃ mountPoint sourcePath targetPath,
      tryBuildPath (some mountPoint) source = some sourcePath ∧
        tryBuildPath (some mountPoint) target = some targetPath ∧
        passed = (sourcePath.chars, targetPath.chars) ∧
        isPlainPath source = true ∧ isPlainPath target = true ∧
        isSameEntryIgnoringCase source target = false := by
  have mounted : ¬ (!disk.isMounted) = true := by
    intro unmounted
    rw [rename, if_pos unmounted] at renamed
    cases renamed
  have named : ¬ (source = [] || target = []) = true := by
    intro empty
    rw [rename, if_neg mounted, if_pos empty] at renamed
    cases renamed
  rw [rename, if_neg mounted, if_neg named] at renamed
  cases sourceBuilt : tryBuildPath disk.mountPoint source with
  | none => simp [sourceBuilt] at renamed
  | some sourcePath =>
    cases targetBuilt : tryBuildPath disk.mountPoint target with
    | none => simp [sourceBuilt, targetBuilt] at renamed
    | some targetPath =>
      obtain ⟨mountPoint, there, -⟩ := Option.bind_eq_some_iff.mp sourceBuilt
      rw [sourceBuilt, targetBuilt] at renamed
      rw [there] at sourceBuilt targetBuilt
      dsimp only at renamed
      split_ifs at renamed with odd same missing
      have plain : isPlainPath source = true ∧ isPlainPath target = true := by simpa using odd
      exact ⟨mountPoint, sourcePath, targetPath, sourceBuilt, targetBuilt,
        (Option.some.inj renamed).symm, plain.1, plain.2, by simpa using same⟩

/-- A plain path that was built leads below the mount point to its names in lower case. -/
theorem resolve_plain (volume : Volume) (directory : List (List Char)) {path : List Char}
    (plain : isPlainPath path = true) (below : parentName ∉ path.splitOn '/') :
    volume.resolve directory path = directory ++ (names path).map (·.map toLowerAscii) := by
  rw [Volume.resolve, Volume.foldl_enter_eq volume directory below, ← names]
  congr 1
  exact List.map_congr_left fun name member =>
    volume.plain name ((isPlainPath_iff path).mp plain name member)

/-- On every volume that takes plain names as written up to the case of their letters, a rename that
goes on has two different entries; and a path that is built fits its buffer, leads to what the text
names from the mount point, and stays there or below at each of its names. -/
theorem paths_stay_inside (volume : Volume) (disk : Disk) (source target : List Char) :
    (∀ passed, (rename disk source target).2 = some passed →
      volume.resolve [] passed.1 ≠ volume.resolve [] passed.2) ∧
    ∀ mountPoint relativePath fullPath,
      tryBuildPath (some mountPoint) relativePath = some fullPath →
        fullPath.chars.length ≤ pathBufferSize ∧
        volume.resolve [] fullPath.chars =
          volume.resolve (volume.resolve [] mountPoint) relativePath ∧
        ∀ count, volume.resolve [] mountPoint <+:
          ((relativePath.splitOn '/').take count).foldl volume.enter
            (volume.resolve [] mountPoint) := by
  refine ⟨fun passed renamed same => ?_, fun mountPoint relativePath fullPath built =>
    ⟨fullPath.fits, resolve_of_tryBuildPath volume built, fun count => ?_⟩⟩
  · obtain ⟨mountPoint, sourcePath, targetPath, sourceBuilt, targetBuilt, rfl, sourcePlain,
      targetPlain, differ⟩ := of_rename renamed
    rw [resolve_of_tryBuildPath volume sourceBuilt, resolve_of_tryBuildPath volume targetBuilt,
      resolve_plain volume _ sourcePlain (parentName_not_mem sourceBuilt),
      resolve_plain volume _ targetPlain (parentName_not_mem targetBuilt)] at same
    have equal := (isSameEntryIgnoringCase_iff source target).mpr (List.append_cancel_left same)
    exact Bool.false_ne_true (differ.symm.trans equal)
  · refine volume.prefix_foldl_enter _ fun inside => ?_
    exact parentName_not_mem built (List.mem_of_mem_take inside)

/-- A volume that tells no upper case from lower. -/
def sampleVolume : Volume := ⟨List.map toLowerAscii, fun _ _ => rfl⟩

/-- A mounted disk on which every call succeeds. -/
def sampleDisk : Disk := ⟨some "/SD:".toList, true, fun _ => 0, fun _ _ => 0⟩

theorem paths_stay_inside_sample :
    (rename sampleDisk "logs/a.tmp".toList "logs//./a.mf4".toList).2 =
        some ("/SD:/logs/a.tmp".toList, "/SD:/logs//./a.mf4".toList) ∧
      sampleVolume.resolve [] "/SD:/logs/a.tmp".toList ≠
        sampleVolume.resolve [] "/SD:/logs//./a.mf4".toList := by
  have renamed : (rename sampleDisk "logs/a.tmp".toList "logs//./a.mf4".toList).2 =
      some ("/SD:/logs/a.tmp".toList, "/SD:/logs//./a.mf4".toList) := by
    have source : hasParentName "logs/a.tmp".toList = false := by
      rw [← Bool.not_eq_true, hasParentName_iff]
      decide
    have target : hasParentName "logs//./a.mf4".toList = false := by
      rw [← Bool.not_eq_true, hasParentName_iff]
      decide
    have plainSource : isPlainPath "logs/a.tmp".toList = true := by
      rw [isPlainPath_iff]
      decide
    have plainTarget : isPlainPath "logs//./a.mf4".toList = true := by
      rw [isPlainPath_iff]
      decide
    have differ : isSameEntryIgnoringCase "logs/a.tmp".toList "logs//./a.mf4".toList = false := by
      rw [← Bool.not_eq_true, isSameEntryIgnoringCase_iff]
      decide
    simp only [rename, sampleDisk, tryBuildPath, source, target, plainSource, plainTarget, differ]
    rfl
  exact ⟨renamed, (paths_stay_inside sampleVolume sampleDisk _ _).1 _ renamed⟩

end FsService

end RtCore.Fs
