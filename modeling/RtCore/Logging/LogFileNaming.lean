import RtCore.Foundation.CivilTime
import RtCore.Fs.Paths

/-!
# The names of log files

A log file is named by the second in which it started and four random digits, so that names sort by
the start and files of one second differ.

## Main definitions

* `LogFileNaming.getFilePath` — the path of a log file

## Main results

* `LogFileNaming.chars_getFilePath` — a path that fits into its buffer
* `LogFileNaming.paths_sort_by_start` — paths are in the order of the starts of the files
-/

namespace RtCore.Logging

open RtCore.Foundation RtCore.Fs

namespace LogFileNaming

/-- The directory of the log files. -/
def logsDir : List Char := ['l', 'o', 'g', 's']
/-- The size of the buffer a path is built in. -/
def pathMaxLength : ℕ := 128
/-- The bound of the random number in a file's name. -/
def randomSuffixModulo : ℕ := 10000

/-- `system_clock::to_time_t`: the seconds of a time point, without what is left of the last one. -/
def toTimeT (ticksPerSecond : ℕ) (time : ℤ) : ℤ := time.tdiv ticksPerSecond

/-- `"%04d%02d%02dT%02d%02d%02dZ_%04u"`. -/
def stamp (time : CivilTime) (randomValue : ℕ) : List Char :=
  padded 4 time.year ++ padded 2 time.month ++ padded 2 time.day ++ ['T'] ++ padded 2 time.hour ++
    padded 2 time.minute ++ padded 2 time.second ++ ['Z', '_'] ++
    padded 4 (randomValue % randomSuffixModulo)

/-- `GetFilePath`, for the seconds of the time point. -/
def getFilePath (directory filePrefix : List Char) (time : ℤ) (randomValue : ℕ)
    (extension : List Char) : StaticString pathMaxLength :=
  let path : StaticString pathMaxLength := { fits := Nat.zero_le _ }
  let path := (path.append directory).append ['/']
  let path := if filePrefix = [] then path else (path.append filePrefix).append ['_']
  ((path.append (stamp (.ofSeconds time) randomValue)).append ['.']).append extension

example : (getFilePath logsDir ['c', 'a', 'r'] 1709210096 31 ['m', 'f', '4']).chars =
    "logs/car_20240229T123456Z_0031.mf4".toList := by decide +kernel

/-- The name of a file without its directory. -/
def fileName (filePrefix : List Char) (time : ℤ) (randomValue : ℕ) (extension : List Char) :
    List Char :=
  (if filePrefix = [] then [] else filePrefix ++ ['_']) ++
    stamp (.ofSeconds time) randomValue ++ '.' :: extension

/-- The characters of a prefix and of the underscore behind it; without a prefix there is none. -/
def prefixedLength (filePrefix : List Char) : ℕ :=
  if filePrefix = [] then 0 else filePrefix.length + 1

variable {directory filePrefix extension extension' : List Char} {time time' : ℤ}
  {randomValue randomValue' : ℕ}

/-- A year of four digits makes a stamp of 21 characters. -/
theorem length_stamp (year : (CivilTime.ofSeconds time).year < 10000) (randomValue : ℕ) :
    (stamp (.ofSeconds time) randomValue).length = 21 := by
  have bounds := CivilTime.fields_bounds (time + epochDay * 86400).toNat
  have suffix : randomValue % randomSuffixModulo < 10 ^ 4 := Nat.mod_lt _ (by decide)
  unfold CivilTime.ofSeconds at year ⊢
  dsimp only at bounds
  rw [stamp]
  simp only [List.length_append, List.length_cons, List.length_nil]
  rw [length_padded (by decide) year, length_padded (by decide) (by omega),
    length_padded (by decide) (by omega), length_padded (by decide) (by omega),
    length_padded (by decide) (by omega), length_padded (by decide) (by omega),
    length_padded (by decide) suffix]

/-- Pieces that fit are put one behind the other. -/
private theorem chars_foldl_append {capacity : ℕ} (pieces : List (List Char))
    (s : StaticString capacity) (room : s.chars.length + pieces.flatten.length ≤ capacity) :
    (pieces.foldl StaticString.append s).chars = s.chars ++ pieces.flatten := by
  induction pieces generalizing s with
  | nil => exact (List.append_nil _).symm
  | cons piece pieces ih =>
    rw [List.flatten_cons, List.length_append] at room
    have here : (s.append piece).chars = s.chars ++ piece := StaticString.chars_append (by omega)
    rw [List.foldl_cons, ih (s.append piece) (by rw [here, List.length_append]; omega), here,
      List.flatten_cons, List.append_assoc]

/-- A path that fits is the name in its directory. -/
theorem chars_getFilePath (year : (CivilTime.ofSeconds time).year < 10000) (randomValue : ℕ)
    (room : directory.length + prefixedLength filePrefix + extension.length + 23 ≤ pathMaxLength) :
    (getFilePath directory filePrefix time randomValue extension).chars =
      directory ++ '/' :: fileName filePrefix time randomValue extension := by
  have stamped := length_stamp year randomValue
  let named : List (List Char) := if filePrefix = [] then [] else [filePrefix, ['_']]
  let pieces : List (List Char) := [directory, ['/']] ++ named ++
    [stamp (.ofSeconds time) randomValue, ['.'], extension]
  have path : getFilePath directory filePrefix time randomValue extension =
      pieces.foldl StaticString.append { fits := Nat.zero_le _ } := by
    unfold getFilePath pieces named
    split_ifs <;> rfl
  have whole : pieces.flatten =
      directory ++ '/' :: fileName filePrefix time randomValue extension := by
    unfold pieces named fileName
    split_ifs <;> simp
  rw [path, chars_foldl_append, whole, List.nil_append]
  rw [whole, fileName]
  unfold prefixedLength at room
  split_ifs at room ⊢ <;> simp [stamped] <;> omega

/-- Stamps are in the order of the times. -/
theorem stamp_append_lt (since : -(epochDay * 86400) ≤ time) (later : time < time')
    (year : (CivilTime.ofSeconds time').year < 10000) (randomValue randomValue' : ℕ)
    (rest rest' : List Char) :
    stamp (.ofSeconds time) randomValue ++ rest <
      stamp (.ofSeconds time') randomValue' ++ rest' := by
  have fields := CivilTime.fields_lt since later
  have bounds := CivilTime.fields_bounds (time' + epochDay * 86400).toNat
  change let time := CivilTime.ofSeconds time'
    time.month ≤ 12 ∧ time.day ≤ 31 ∧ time.hour < 24 ∧ time.minute < 60 ∧ time.second < 60
    at bounds
  dsimp only at bounds
  generalize CivilTime.ofSeconds time = civil at *
  generalize CivilTime.ofSeconds time' = civil' at *
  simp only [CivilTime.fields, List.cons_lt_cons_iff, List.not_lt_nil, and_false, or_false]
    at fields
  simp only [stamp, List.append_assoc]
  refine padded_append_lt (by decide) year (fields.imp_right fun others => ⟨others.1, ?_⟩)
  have fields := others.2
  refine padded_append_lt (by decide) (by omega) (fields.imp_right fun others => ⟨others.1, ?_⟩)
  have fields := others.2
  refine padded_append_lt (by decide) (by omega) (fields.imp_right fun others => ⟨others.1, ?_⟩)
  have fields := others.2
  apply append_left_lt
  refine padded_append_lt (by decide) (by omega) (fields.imp_right fun others => ⟨others.1, ?_⟩)
  have fields := others.2
  refine padded_append_lt (by decide) (by omega) (fields.imp_right fun others => ⟨others.1, ?_⟩)
  have fields := others.2
  exact padded_append_lt (by decide) (by omega) (.inl fields)

/-- A file that starts in a later second has the later path. -/
theorem paths_sort_by_start (since : -(epochDay * 86400) ≤ time) (later : time < time')
    (year : (CivilTime.ofSeconds time').year < 10000)
    (room : directory.length + prefixedLength filePrefix + extension.length + 23 ≤ pathMaxLength)
    (room' : directory.length + prefixedLength filePrefix + extension'.length + 23 ≤ pathMaxLength)
    (randomValue randomValue' : ℕ) :
    (getFilePath directory filePrefix time randomValue extension).chars <
      (getFilePath directory filePrefix time' randomValue' extension').chars := by
  have yearBefore : (CivilTime.ofSeconds time).year < 10000 := by
    have fields := CivilTime.fields_lt since later
    simp only [CivilTime.fields, List.cons_lt_cons_iff] at fields
    omega
  rw [chars_getFilePath yearBefore randomValue room, chars_getFilePath year randomValue' room']
  have stamps := stamp_append_lt since later year randomValue randomValue' ('.' :: extension)
    ('.' :: extension')
  unfold fileName
  rw [List.append_assoc, List.append_assoc]
  exact append_left_lt directory (List.cons_lt_cons_iff.mpr (.inr ⟨rfl, append_left_lt _ stamps⟩))

theorem paths_sort_by_start_example :
    (getFilePath logsDir ['c', 'a', 'r'] 1709164799 31 ['m', 'f', '4']).chars <
      (getFilePath logsDir ['c', 'a', 'r'] 1709164800 7 ['m', 'f', '4']).chars :=
  paths_sort_by_start (by decide) (by decide) (by decide +kernel) (by decide) (by decide) 31 7

end LogFileNaming

end RtCore.Logging
