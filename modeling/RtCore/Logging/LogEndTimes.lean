import Mathlib.Data.Int.Notation
import RtCore.Foundation.RecentIndex
import RtCore.Foundation.Run
import RtCore.Foundation.Text

/-!
# The index of log end times

`LogEndTimes` remembers where each finished log ended. The index lives in memory and in a text file
with one line for each end: `Record` appends a line, and the file is rewritten in the order of the
entries when a load dropped anything or the lines outnumber the cap twice. A power loss may cut the
append, and the next load drops what is left of the line, unless it still reads as an entry of an
existing log: then the line stays in the file without its line break, and the next append is written
onto it.

## Main definitions

* `LogEndTimes.load`, `LogEndTimes.record` — the operations on the index and its file
* `EndTimesSystem` — the index, its volume and the history of the completed records
* `EndTimesSystem.Survives` — what every load has to find

## Main results

* `EndTimesSystem.end_times_survive` — the index survives every run whose torn lines are dropped
* `EndTimesSystem.not_end_times_survive` — a torn line that is taken as an entry costs the next one
-/

namespace RtCore.Logging

open RtCore.Foundation

/-- `Entry`: the name of a log and its end in milliseconds since the epoch. -/
abbrev LogEnd := List UInt8 × Int64

/-! ### The text of an entry -/

/-- `std::to_string` of an `int64_t`. -/
def int64Text (value : Int64) : List UInt8 :=
  if value.toInt < 0 then 45 :: decimal value.toInt.natAbs else decimal value.toInt.natAbs

/-- `std::from_chars` for an `int64_t`: the value and the text after it, none on an error. -/
def fromChars (text : List UInt8) : Option (Int64 × List UInt8) :=
  let isNegative := text.head? = some 45
  let digits := if isNegative then text.tail else text
  let magnitude : ℤ := numeral (digits.takeWhile isDigit)
  let value := if isNegative then -magnitude else magnitude
  if digits.takeWhile isDigit = [] then none
  else if value < -(2 ^ 63) ∨ 2 ^ 63 ≤ value then none
  else some (Int64.ofInt value, digits.dropWhile isDigit)

/-- A line without its line break. -/
def lineText (entry : LogEnd) : List UInt8 :=
  int64Text entry.2 ++ 32 :: entry.1

/-- A line of the file. -/
def endLine (entry : LogEnd) : List UInt8 :=
  lineText entry ++ [lineBreak]

namespace LogEndTimes

/-- The most end times that are kept. -/
def maxEntries : ℕ := 256
/-- The longest file name that is kept. -/
def maxNameLength : ℕ := 63
/-- The largest file that is loaded. -/
def maxFileSize : ℕ := 64 * 1024

end LogEndTimes

open LogEndTimes

/-- The entry that `Load` reads from a line, none when it is unreadable. -/
def parseLine (line : List UInt8) : Option LogEnd :=
  match fromChars line with
  | none => none
  | some (endMs, rest) =>
    match rest with
    | [] => none
    | separator :: name =>
      if separator ≠ 32 ∨ name = [] ∨ maxNameLength < name.length then none
      else some (name, endMs)

/-! ### The index and its file -/

/-- The log volume: the index file, the mount generation and the files in the logs directory. -/
structure LogVolume where
  file : Option (List UInt8)
  generation : UInt32
  present : List UInt8 → Bool

/-- `LogEndTimes`. -/
structure LogEndTimes where
  entries : List LogEnd := []
  fileLines : ℕ := 0
  loadedGeneration : Option UInt32 := none

namespace LogEndTimes

/-- `Put`. -/
def put (entries : List LogEnd) (entry : LogEnd) : List LogEnd :=
  RecentIndex.put maxEntries entries entry

/-- `Rewrite`. -/
def rewrite (volume : LogVolume) (times : LogEndTimes) : LogVolume × LogEndTimes :=
  ({ volume with file := some (times.entries.flatMap endLine) },
    { times with fileLines := times.entries.length })

/-- The variables of the loop of `Load`. -/
structure Scan where
  entries : List LogEnd := []
  lines : ℕ := 0
  kept : ℕ := 0
  isDirty : Bool := false

/-- One line of the loop of `Load`. -/
def scanLine (present : List UInt8 → Bool) (scan : Scan) (line : List UInt8) : Scan :=
  let scan := { scan with lines := scan.lines + 1 }
  match parseLine line with
  | none => { scan with isDirty := true }
  | some entry =>
    if !present entry.1 then { scan with isDirty := true }
    else { scan with entries := put scan.entries entry, kept := scan.kept + 1 }

/-- `Load` on an available volume. -/
def load (volume : LogVolume) (times : LogEndTimes) : LogVolume × LogEndTimes :=
  if times.loadedGeneration = some volume.generation then (volume, times)
  else
    let times := { loadedGeneration := some volume.generation }
    match volume.file with
    | none => (volume, times)
    | some content =>
      if maxFileSize < content.length then rewrite volume times
      else
        let scan := (splitLines [] content).foldl (scanLine volume.present) {}
        let times := { times with entries := scan.entries }
        -- Unreadable lines, those of deleted logs and those beyond the cap stay out of the new
        -- file.
        if scan.isDirty ∨ scan.kept ≠ scan.entries.length ∨ maxEntries < scan.lines then
          rewrite volume times
        else (volume, { times with fileLines := scan.lines })

/-- `Record`, of whose append only `cut` bytes reach the file when the power fails. -/
def recordCut (cut : Option ℕ) (entry : LogEnd) (volume : LogVolume) (times : LogEndTimes) :
    LogVolume × LogEndTimes :=
  if entry.1 = [] ∨ maxNameLength < entry.1.length then (volume, times)
  else
    let times := { times with
      entries := put times.entries entry
      fileLines := times.fileLines + 1 }
    if 2 * maxEntries < times.fileLines then rewrite volume times
    else
      let line := endLine entry
      let appended := line.take (cut.getD line.length)
      ({ volume with file := some (volume.file.getD [] ++ appended) }, times)

/-- `Record`. -/
def record (entry : LogEnd) (volume : LogVolume) (times : LogEndTimes) :
    LogVolume × LogEndTimes :=
  recordCut none entry volume times

/-- `Find`. -/
def find (times : LogEndTimes) (name : List UInt8) : Option Int64 :=
  RecentIndex.find times.entries name

end LogEndTimes

/-! ### Runs -/

/-- The index with its volume, and the records that were completed, the oldest first. -/
structure EndTimesSystem where
  volume : LogVolume
  times : LogEndTimes
  completed : List LogEnd

/-- What happens to the index. -/
inductive EndTimesEvent where
  | record (entry : LogEnd)
  /-- `Record` whose append the power loss cuts after `count` bytes; the next boot loads. -/
  | powerLoss (entry : LogEnd) (count : ℕ)
  | reboot
  | remount
  | load
  /-- Files come to or leave the logs directory. -/
  | files (present : List UInt8 → Bool)

namespace EndTimesSystem

/-- A new volume and a new index. -/
def initial (present : List UInt8 → Bool) : EndTimesSystem where
  volume := { file := none, generation := 1, present := present }
  times := {}
  completed := []

/-- `Load` on the current volume. -/
def reload (s : EndTimesSystem) : EndTimesSystem :=
  let (volume, times) := s.times.load s.volume
  { s with volume := volume, times := times }

/-- A boot mounts the volume, builds a new index and loads it. -/
def boot (s : EndTimesSystem) : EndTimesSystem :=
  reload { s with volume := { s.volume with generation := 1 }, times := {} }

/-- Whether the next record rewrites the file instead of appending to it. -/
def rewritesNext (s : EndTimesSystem) : Bool :=
  2 * maxEntries < s.times.fileLines + 1

/-- One event of the system. -/
def step (s : EndTimesSystem) : EndTimesEvent → EndTimesSystem
  | .record entry =>
    let (volume, times) := s.times.record entry s.volume
    { volume := volume, times := times, completed := s.completed ++ [entry] }
  | .powerLoss entry count =>
    let (volume, times) := s.times.recordCut (some count) entry s.volume
    -- a rewrite is no append, so nothing of it is cut
    let completed := if s.rewritesNext then s.completed ++ [entry] else s.completed
    boot { volume := volume, times := times, completed := completed }
  | .reboot => boot s
  | .remount => { s with volume := { s.volume with generation := s.volume.generation + 1 } }
  | .load => reload s
  | .files present => { s with volume := { s.volume with present := present } }

/-- A name that fits the index: not empty, without a space or a line break. -/
def ValidName (name : List UInt8) : Prop :=
  name ≠ [] ∧ name.length ≤ maxNameLength ∧ (32 : UInt8) ∉ name ∧ lineBreak ∉ name

instance (name : List UInt8) : Decidable (ValidName name) :=
  inferInstanceAs (Decidable (_ ∧ _ ∧ _ ∧ _))

/-- The runs considered: valid names of existing logs, which stay, and a cut takes at least the
line break. -/
def Allowed (s : EndTimesSystem) : EndTimesEvent → Prop
  | .record entry => ValidName entry.1 ∧ s.volume.present entry.1 = true
  | .powerLoss entry count => ValidName entry.1 ∧ s.volume.present entry.1 = true ∧
      count < (endLine entry).length
  | .files present => ∀ entry ∈ s.completed, present entry.1 = true
  | .reboot | .remount | .load => True

/-- Whether `Load` takes a torn line for an entry of an existing log. -/
def acceptsTorn (present : List UInt8 → Bool) (torn : List UInt8) : Bool :=
  (parseLine torn).any fun entry => present entry.1

/-- What a power loss leaves of a line is not taken for an entry. -/
def TornLineDropped (s : EndTimesSystem) : EndTimesEvent → Prop
  | .powerLoss entry count =>
    s.rewritesNext = false → acceptsTorn s.volume.present ((endLine entry).take count) = false
  | _ => True

/-- The last `maxEntries` distinct names are found with their latest end, nothing else is found
that was never recorded, and the file stays within its limit. -/
structure Survives (s : EndTimesSystem) : Prop where
  found : ∀ entry ∈ (RecentIndex.recents s.completed.reverse).take maxEntries,
    s.times.find entry.1 = some entry.2
  nothing : ∀ name, (∀ entry ∈ s.completed, entry.1 ≠ name) → s.times.find name = none
  bounded : (s.volume.file.getD []).length ≤ maxFileSize

/-! ### Reading back what was written -/

private theorem takeWhile_digits {number : ℕ} {rest : List UInt8} (separator : UInt8)
    (stops : isDigit separator = false) :
    (decimal number ++ separator :: rest).takeWhile isDigit = decimal number := by
  rw [List.takeWhile_append_of_pos fun byte member => isDigit_of_mem_decimal member]
  simp [stops]

private theorem dropWhile_digits {number : ℕ} {rest : List UInt8} (separator : UInt8)
    (stops : isDigit separator = false) :
    (decimal number ++ separator :: rest).dropWhile isDigit = separator :: rest := by
  rw [List.dropWhile_append_of_pos fun byte member => isDigit_of_mem_decimal member]
  simp [stops]

private theorem head_decimal_ne_minus (number : ℕ) (rest : List UInt8) :
    (decimal number ++ rest).head? ≠ some 45 := by
  obtain ⟨first, digits, shape⟩ := List.exists_cons_of_ne_nil (decimal_ne_nil number)
  have member : first ∈ decimal number := by
    rw [shape]
    exact List.mem_cons_self
  have digit : isDigit first = true := isDigit_of_mem_decimal member
  rw [shape]
  intro minus
  have equal : first = 45 := by simpa using minus
  rw [equal] at digit
  exact absurd digit (by decide)

/-- `from_chars` reads back what `to_string` wrote. -/
theorem fromChars_int64Text (value : Int64) (rest : List UInt8) :
    fromChars (int64Text value ++ 32 :: rest) = some (value, 32 :: rest) := by
  have lower := value.le_toInt
  have upper := value.toInt_lt
  have stops : isDigit 32 = false := by decide
  unfold int64Text
  split_ifs with negative
  · have magnitude : -(value.toInt.natAbs : ℤ) = value.toInt := by omega
    simp only [fromChars, List.cons_append, List.head?_cons, List.tail_cons, if_true,
      takeWhile_digits 32 stops, dropWhile_digits 32 stops, numeral_decimal, magnitude,
      if_neg (decimal_ne_nil _)]
    rw [if_neg (by omega), Int64.ofInt_toInt]
  · have magnitude : (value.toInt.natAbs : ℤ) = value.toInt := by omega
    simp only [fromChars, head_decimal_ne_minus, if_false, takeWhile_digits 32 stops,
      dropWhile_digits 32 stops, numeral_decimal, magnitude, if_neg (decimal_ne_nil _)]
    rw [if_neg (by omega), Int64.ofInt_toInt]

theorem parseLine_lineText {entry : LogEnd} (valid : ValidName entry.1) :
    parseLine (lineText entry) = some entry := by
  obtain ⟨nonempty, fits, -, -⟩ := valid
  rw [parseLine, lineText, fromChars_int64Text]
  have fails : ¬ ((32 : UInt8) ≠ 32 ∨ entry.1 = [] ∨ maxNameLength < entry.1.length) := by
    rintro (different | empty | long)
    · exact different rfl
    · exact nonempty empty
    · omega
  exact if_neg fails

private theorem lineBreak_not_mem_int64Text (value : Int64) : lineBreak ∉ int64Text value := by
  have noBreak (number : ℕ) : lineBreak ∉ decimal number := fun member =>
    absurd (isDigit_of_mem_decimal member) (by decide)
  unfold int64Text
  split_ifs
  · intro member
    rcases List.mem_cons.mp member with minus | digit
    · exact absurd minus (by decide)
    · exact noBreak _ digit
  · exact noBreak _

theorem lineBreak_not_mem_lineText {entry : LogEnd} (valid : ValidName entry.1) :
    lineBreak ∉ lineText entry := by
  intro member
  rcases List.mem_append.mp member with number | rest
  · exact lineBreak_not_mem_int64Text entry.2 number
  · rcases List.mem_cons.mp rest with separator | name
    · exact absurd separator (by decide)
    · exact valid.2.2.2 name

private theorem lineText_ne_nil (entry : LogEnd) : lineText entry ≠ [] := by
  simp [lineText]

/-- The lines of a file of whole lines and what is left of a torn one. -/
theorem splitLines_entries {entries : List LogEnd} (valid : ∀ entry ∈ entries, ValidName entry.1)
    {torn : List UInt8} (oneLine : lineBreak ∉ torn) :
    splitLines [] (entries.flatMap endLine ++ torn) =
      entries.map lineText ++ if torn = [] then [] else [torn] := by
  induction entries with
  | nil => simpa using splitLines_partial oneLine []
  | cons entry entries ih =>
    have rest := ih fun other member => valid other (List.mem_cons_of_mem _ member)
    have here := valid entry List.mem_cons_self
    have split := splitLines_line (lineBreak_not_mem_lineText here) []
      (by simpa using lineText_ne_nil entry) (entries.flatMap endLine ++ torn)
    rw [List.flatMap_cons, endLine, List.append_assoc, List.append_assoc]
    simpa [rest] using split

/-- Lines of existing logs are all kept. -/
theorem foldl_scanLine {present : List UInt8 → Bool} {entries : List LogEnd}
    (valid : ∀ entry ∈ entries, ValidName entry.1)
    (exist : ∀ entry ∈ entries, present entry.1 = true) (scan : Scan) :
    (entries.map lineText).foldl (scanLine present) scan =
      { scan with
        entries := entries.foldl put scan.entries
        lines := scan.lines + entries.length
        kept := scan.kept + entries.length } := by
  induction entries generalizing scan with
  | nil => rfl
  | cons entry entries ih =>
    have here : scanLine present scan (lineText entry) =
        { scan with
          entries := put scan.entries entry
          lines := scan.lines + 1
          kept := scan.kept + 1 } := by
      simp [scanLine, parseLine_lineText (valid entry List.mem_cons_self),
        exist entry List.mem_cons_self]
    rw [List.map_cons, List.foldl_cons, here,
      ih (fun other member => valid other (List.mem_cons_of_mem _ member))
        (fun other member => exist other (List.mem_cons_of_mem _ member))]
    simp only [List.length_cons, List.foldl_cons, Scan.mk.injEq, true_and, and_true]
    omega

/-- A line that is not taken for an entry of an existing log is dropped. -/
theorem scanLine_dropped {present : List UInt8 → Bool} {torn : List UInt8}
    (dropped : acceptsTorn present torn = false) (scan : Scan) :
    scanLine present scan torn = { scan with lines := scan.lines + 1, isDirty := true } := by
  unfold scanLine
  unfold acceptsTorn at dropped
  cases parsed : parseLine torn with
  | none => rfl
  | some entry =>
    have absent : present entry.1 = false := by simpa [parsed] using dropped
    simp [absent]

/-! ### The size of the file -/

private theorem length_int64Text_le (value : Int64) : (int64Text value).length ≤ 20 := by
  have lower := value.le_toInt
  have upper := value.toInt_lt
  have small : value.toInt.natAbs < 10 ^ 19 := by
    have bound : value.toInt.natAbs ≤ 2 ^ 63 := by omega
    omega
  have digits := length_decimal_le (by decide) small
  unfold int64Text
  split_ifs
  · rw [List.length_cons]
    omega
  · omega

/-- The longest line: an `int64_t`, a space, a name and the line break. -/
def maxLineLength : ℕ := 20 + 1 + maxNameLength + 1

private theorem length_endLine_le {entry : LogEnd} (valid : ValidName entry.1) :
    (endLine entry).length ≤ maxLineLength := by
  have number := length_int64Text_le entry.2
  have name := valid.2.1
  simp only [endLine, lineText, List.length_append, List.length_cons, List.length_nil,
    maxLineLength]
  omega

private theorem length_flatMap_endLine_le {entries : List LogEnd}
    (valid : ∀ entry ∈ entries, ValidName entry.1) :
    (entries.flatMap endLine).length ≤ maxLineLength * entries.length := by
  induction entries with
  | nil => simp
  | cons entry entries ih =>
    have rest := ih fun other member => valid other (List.mem_cons_of_mem _ member)
    have here := length_endLine_le (valid entry List.mem_cons_self)
    rw [List.flatMap_cons, List.length_append, List.length_cons, Nat.mul_add]
    omega

/-! ### The invariant -/

/-- The index after a history of records. -/
def index (history : List LogEnd) : List LogEnd :=
  history.foldl put []

private theorem maxEntries_pos : 0 < maxEntries := by decide

/-- The index file holds whole lines of completed records that give the index of all of them. -/
structure Stored (volume : LogVolume) (completed lines : List LogEnd) : Prop where
  valid : ∀ entry ∈ lines, ValidName entry.1
  member : ∀ entry ∈ lines, entry ∈ completed
  present : ∀ entry ∈ completed, volume.present entry.1 = true
  indexed : index lines = index completed

/-- The file, the counted lines and the entries in memory agree with the completed records. -/
structure Consistent (s : EndTimesSystem) (lines : List LogEnd) : Prop
    extends Stored s.volume s.completed lines where
  few : lines.length ≤ 2 * maxEntries
  content : s.volume.file.getD [] = lines.flatMap endLine
  counted : s.times.fileLines = lines.length
  memory : s.times.entries = index s.completed

namespace Stored

variable {volume : LogVolume} {completed lines : List LogEnd}

/-- The entries of the index are lines of their own right: what a rewrite writes. -/
theorem rewritten (stored : Stored volume completed lines) :
    Stored volume completed (index completed) where
  valid entry member := by
    rw [← stored.indexed] at member
    exact stored.valid entry (RecentIndex.mem_of_mem_foldl_put maxEntries_pos member)
  member _ member := RecentIndex.mem_of_mem_foldl_put maxEntries_pos member
  present := stored.present
  indexed := RecentIndex.foldl_put_self maxEntries_pos completed

/-- One more completed record. -/
theorem recorded (stored : Stored volume completed lines) {entry : LogEnd}
    (valid : ValidName entry.1) (isPresent : volume.present entry.1 = true) :
    Stored volume (completed ++ [entry]) (lines ++ [entry]) where
  valid other member := by
    rcases List.mem_append.mp member with old | new
    · exact stored.valid other old
    · rw [List.mem_singleton.mp new]
      exact valid
  member other member := by
    rcases List.mem_append.mp member with old | new
    · exact List.mem_append_left _ (stored.member other old)
    · exact List.mem_append_right _ new
  present other member := by
    rcases List.mem_append.mp member with old | new
    · exact stored.present other old
    · rw [List.mem_singleton.mp new]
      exact isPresent
  indexed := by
    have before : lines.foldl put [] = completed.foldl put [] := stored.indexed
    rw [index, index, List.foldl_append, List.foldl_append, before]

end Stored

private theorem Consistent.file_bounded {s : EndTimesSystem} {lines : List LogEnd}
    (consistent : Consistent s lines) :
    (s.volume.file.getD []).length ≤ maxLineLength * (2 * maxEntries) := by
  rw [consistent.content]
  exact (length_flatMap_endLine_le consistent.valid).trans
    (Nat.mul_le_mul_left _ consistent.few)

theorem Consistent.survives {s : EndTimesSystem} {lines : List LogEnd}
    (consistent : Consistent s lines) : Survives s where
  found entry recent := by
    rw [find, consistent.memory]
    exact RecentIndex.find_foldl_put maxEntries_pos recent
  nothing name never := by
    rw [find, consistent.memory]
    exact RecentIndex.find_foldl_put_eq_none maxEntries_pos never
  bounded := consistent.file_bounded.trans (by decide)

/-- A rewrite makes the file agree with the entries in memory. -/
private theorem Stored.consistent_rewrite {volume : LogVolume} {completed lines : List LogEnd}
    {times : LogEndTimes} (stored : Stored volume completed lines)
    (memory : times.entries = index completed) :
    Consistent ⟨(rewrite volume times).1, (rewrite volume times).2, completed⟩
      (index completed) where
  toStored := ⟨stored.rewritten.valid, stored.rewritten.member, stored.present,
    stored.rewritten.indexed⟩
  few := by
    have bound : (index completed).length ≤ maxEntries :=
      RecentIndex.length_foldl_put_le maxEntries_pos completed
    omega
  content := by simp [rewrite, memory]
  counted := by simp [rewrite, memory]
  memory := memory

/-- What the loop of `Load` makes of whole lines and a torn one. -/
private theorem scan_content {volume : LogVolume} {completed lines : List LogEnd}
    (stored : Stored volume completed lines) {torn : List UInt8} (oneLine : lineBreak ∉ torn)
    (dropped : acceptsTorn volume.present torn = false) :
    ∃ scan : Scan, (splitLines [] (lines.flatMap endLine ++ torn)).foldl
        (scanLine volume.present) {} = scan ∧
      scan.entries = index completed ∧
      (scan.isDirty = false → torn = [] ∧ scan.lines = lines.length) := by
  have isPresent (entry) (member : entry ∈ lines) : volume.present entry.1 = true :=
    stored.present entry (stored.member entry member)
  refine ⟨_, rfl, ?_⟩
  rw [splitLines_entries stored.valid oneLine, List.foldl_append,
    foldl_scanLine stored.valid isPresent]
  by_cases whole : torn = []
  · rw [if_pos whole]
    refine ⟨stored.indexed, fun _ => ⟨whole, ?_⟩⟩
    simp
  · rw [if_neg whole, List.foldl_cons, List.foldl_nil, scanLine_dropped dropped]
    exact ⟨stored.indexed, fun clean => nomatch clean⟩

/-- Loading a file of whole lines, and of a torn one that is dropped, brings the file, the counted
lines and the memory together. -/
theorem reload_consistent {s : EndTimesSystem} {lines : List LogEnd}
    (stored : Stored s.volume s.completed lines) (few : lines.length ≤ 2 * maxEntries)
    {torn : List UInt8} (oneLine : lineBreak ∉ torn)
    (dropped : acceptsTorn s.volume.present torn = false)
    (content : s.volume.file.getD [] = lines.flatMap endLine ++ torn)
    (bounded : (s.volume.file.getD []).length ≤ maxFileSize)
    (stale : s.times.loadedGeneration ≠ some s.volume.generation) :
    ∃ lines', Consistent (reload s) lines' := by
  unfold reload load
  rw [if_neg stale]
  cases file : s.volume.file with
  | none =>
    rw [file] at content
    have empty : lines = [] := by
      cases lines with
      | nil => rfl
      | cons entry lines => simp [endLine] at content
    subst empty
    refine ⟨[], ⟨stored, few, ?_, rfl, stored.indexed⟩⟩
    simp [file]
  | some text =>
    have text_eq : text = lines.flatMap endLine ++ torn := by simpa [file] using content
    have fits : ¬ maxFileSize < text.length := by simpa [file] using bounded
    obtain ⟨scan, scanned, entries, clean⟩ := scan_content stored oneLine dropped
    rw [← text_eq] at scanned
    dsimp only
    rw [if_neg fits, scanned]
    split_ifs with rewrites
    · exact ⟨index s.completed, stored.consistent_rewrite entries⟩
    · have notDirty : scan.isDirty = false := by
        simpa using fun dirty => rewrites (Or.inl dirty)
      obtain ⟨whole, counted⟩ := clean notDirty
      refine ⟨lines, ⟨stored, few, ?_, counted, entries⟩⟩
      rw [content, whole, List.append_nil]

/-! ### The steps -/

variable {s : EndTimesSystem} {lines : List LogEnd}

private theorem index_concat (completed : List LogEnd) (entry : LogEnd) :
    index (completed ++ [entry]) = put (index completed) entry := by
  rw [index, List.foldl_append]
  rfl

private theorem recordCut_of_valid {entry : LogEnd} (valid : ValidName entry.1) (cut : Option ℕ)
    (volume : LogVolume) (times : LogEndTimes) :
    times.recordCut cut entry volume =
      if 2 * maxEntries < times.fileLines + 1 then
        rewrite volume { times with
          entries := put times.entries entry, fileLines := times.fileLines + 1 }
      else
        ({ volume with file := some (volume.file.getD [] ++
            (endLine entry).take (cut.getD (endLine entry).length)) },
          { times with entries := put times.entries entry, fileLines := times.fileLines + 1 }) := by
  have accepted : ¬ (entry.1 = [] ∨ maxNameLength < entry.1.length) := by
    rintro (empty | long)
    · exact valid.1 empty
    · exact absurd valid.2.1 (by omega)
  rw [recordCut, if_neg accepted]

/-- A record that rewrites the file. -/
private theorem Consistent.rewritten {entry : LogEnd} (consistent : Consistent s lines)
    (valid : ValidName entry.1) (isPresent : s.volume.present entry.1 = true) (cut : Option ℕ)
    (rewrites : 2 * maxEntries < s.times.fileLines + 1) :
    Consistent ⟨(s.times.recordCut cut entry s.volume).1, (s.times.recordCut cut entry s.volume).2,
      s.completed ++ [entry]⟩ (index (s.completed ++ [entry])) := by
  rw [recordCut_of_valid valid, if_pos rewrites]
  apply (consistent.toStored.recorded valid isPresent).consistent_rewrite
  rw [index_concat, consistent.memory]

/-- A record that appends its line. -/
private theorem Consistent.appended {entry : LogEnd} (consistent : Consistent s lines)
    (valid : ValidName entry.1) (isPresent : s.volume.present entry.1 = true)
    (appends : ¬ 2 * maxEntries < s.times.fileLines + 1) :
    Consistent ⟨(s.times.record entry s.volume).1, (s.times.record entry s.volume).2,
      s.completed ++ [entry]⟩ (lines ++ [entry]) := by
  have stored := consistent.toStored.recorded valid isPresent
  have counted := consistent.counted
  rw [record, recordCut_of_valid valid, if_neg appends]
  refine ⟨⟨stored.valid, stored.member, stored.present, stored.indexed⟩, ?_, ?_, ?_, ?_⟩
  · rw [List.length_append, List.length_singleton]
    omega
  · simp [consistent.content]
  · simp [counted]
  · rw [index_concat, consistent.memory]

/-- A boot after a record whose append was cut. -/
private theorem Consistent.torn {entry : LogEnd} {count : ℕ} (consistent : Consistent s lines)
    (valid : ValidName entry.1) (short : count < (endLine entry).length)
    (dropped : acceptsTorn s.volume.present ((endLine entry).take count) = false)
    (appends : ¬ 2 * maxEntries < s.times.fileLines + 1) :
    ∃ lines', Consistent (boot ⟨(s.times.recordCut (some count) entry s.volume).1,
      (s.times.recordCut (some count) entry s.volume).2, s.completed⟩) lines' := by
  have counted := consistent.counted
  have oneLine : lineBreak ∉ (endLine entry).take count := by
    have within : (endLine entry).take count = (lineText entry).take count := by
      rw [endLine, List.length_append, List.length_singleton] at short
      rw [endLine, List.take_append_of_le_length (by omega)]
    rw [within]
    exact fun member => lineBreak_not_mem_lineText valid (List.mem_of_mem_take member)
  rw [recordCut_of_valid valid, if_neg appends]
  refine reload_consistent ⟨consistent.valid, consistent.member, consistent.present,
    consistent.indexed⟩ consistent.few oneLine dropped ?_ ?_ ?_
  · simp [consistent.content]
  · have whole := length_flatMap_endLine_le consistent.valid
    have part : ((endLine entry).take count).length ≤ maxLineLength :=
      (List.length_take_le' _ _).trans (length_endLine_le valid)
    have few : lines.length + 1 ≤ 2 * maxEntries := by omega
    have room : maxLineLength * (lines.length + 1) ≤ maxFileSize :=
      (Nat.mul_le_mul_left maxLineLength few).trans (by decide)
    simp only [consistent.content, Option.getD_some, List.length_append]
    rw [Nat.mul_add, Nat.mul_one] at room
    omega
  · simp

private theorem Consistent.reload {generation : UInt32} (consistent : Consistent s lines)
    (times : LogEndTimes) (stale : times.loadedGeneration ≠ some generation) :
    ∃ lines', Consistent (EndTimesSystem.reload
      ⟨{ s.volume with generation := generation }, times, s.completed⟩) lines' := by
  have whole : lineBreak ∉ ([] : List UInt8) := List.not_mem_nil
  refine reload_consistent ⟨consistent.valid, consistent.member, consistent.present,
    consistent.indexed⟩ consistent.few whole (by rfl) ?_ ?_ stale
  · simpa using consistent.content
  · exact consistent.file_bounded.trans (by decide)

/-- Every step keeps the file, the counted lines and the memory in agreement with the completed
records, provided that a torn line is dropped. -/
theorem step_consistent (consistent : Consistent s lines) {event : EndTimesEvent}
    (allowed : Allowed s event) (dropped : TornLineDropped s event) :
    ∃ lines', Consistent (step s event) lines' := by
  cases event with
  | record entry =>
    obtain ⟨valid, isPresent⟩ := allowed
    by_cases rewrites : 2 * maxEntries < s.times.fileLines + 1
    · exact ⟨_, consistent.rewritten valid isPresent none rewrites⟩
    · exact ⟨_, consistent.appended valid isPresent rewrites⟩
  | powerLoss entry count =>
    obtain ⟨valid, isPresent, short⟩ := allowed
    by_cases rewrites : 2 * maxEntries < s.times.fileLines + 1
    · have next : s.rewritesNext = true := by simpa [rewritesNext] using rewrites
      have after := consistent.rewritten valid isPresent (some count) rewrites
      simp only [step, next, if_true]
      exact after.reload {} (by simp)
    · have next : s.rewritesNext = false := by simpa [rewritesNext] using rewrites
      simp only [step, next]
      exact consistent.torn valid short (dropped next) rewrites
  | reboot => exact consistent.reload {} (by simp)
  | remount =>
    exact ⟨lines, ⟨consistent.valid, consistent.member, consistent.present, consistent.indexed⟩,
      consistent.few, consistent.content, consistent.counted, consistent.memory⟩
  | load =>
    by_cases current : s.times.loadedGeneration = some s.volume.generation
    · refine ⟨lines, ?_⟩
      have same : step s .load = s := by simp [step, EndTimesSystem.reload, load, current]
      rw [same]
      exact consistent
    · exact consistent.reload s.times current
  | files present =>
    exact ⟨lines, ⟨consistent.valid, consistent.member, allowed, consistent.indexed⟩,
      consistent.few, consistent.content, consistent.counted, consistent.memory⟩

private theorem initial_consistent (present : List UInt8 → Bool) :
    Consistent (initial present) [] where
  valid _ member := nomatch member
  member _ member := nomatch member
  present _ member := nomatch member
  indexed := rfl
  few := by decide
  content := rfl
  counted := rfl
  memory := rfl

/-- In every state of every run in which what a power loss leaves of a line is never taken for an
entry, the last 256 distinct names are found with their latest completed end, nothing is found for
other names that were never recorded, and the file keeps to its limit. -/
theorem end_times_survive (present : List UInt8 → Bool) (events : List EndTimesEvent)
    (allowed : Along step Allowed (initial present) events)
    (dropped : Along step TornLineDropped (initial present) events) :
    Always step Survives (initial present) events := by
  have consistent : Always step (fun s => ∃ lines, Consistent s lines) (initial present) events :=
    (allowed.and dropped).always ⟨[], initial_consistent present⟩
      fun _ _ ⟨_, consistent⟩ meets => step_consistent consistent meets.1 meets.2
  exact consistent.imp fun _ ⟨_, consistent⟩ => consistent.survives

/-- The logs `a`, `b` and `c`. -/
def threeLogs (name : List UInt8) : Bool := name = [97] ∨ name = [98] ∨ name = [99]

instance (s : EndTimesSystem) : ∀ event, Decidable (Allowed s event)
  | .record _ => inferInstanceAs (Decidable (_ ∧ _))
  | .powerLoss _ _ => inferInstanceAs (Decidable (_ ∧ _ ∧ _))
  | .files present => inferInstanceAs (Decidable (∀ entry ∈ s.completed, present entry.1 = true))
  | .reboot | .remount | .load => .isTrue trivial

instance (s : EndTimesSystem) : ∀ event, Decidable (TornLineDropped s event)
  | .powerLoss _ _ => inferInstanceAs (Decidable (_ → _))
  | .record _ | .files _ | .reboot | .remount | .load => .isTrue trivial

/-- A run with a line cut inside its number, a remount and a second end of one log. -/
theorem end_times_survive_cut_number :
    Always step Survives (initial threeLogs)
      [.record ([97], 5), .powerLoss ([98], 17) 2, .remount, .load, .record ([97], 9),
        .record ([99], -3), .reboot] :=
  end_times_survive threeLogs _ (by decide +kernel) (by decide +kernel)

/-- The power loss cuts only the line break of `b`, so its line is taken for an entry and the line
of `c` is written onto it: after the next boot the completed end of `c` is lost. -/
theorem not_end_times_survive :
    Along step Allowed (initial threeLogs)
        [.record ([97], 1), .powerLoss ([98], 2) 3, .record ([99], 3), .reboot] ∧
      ¬ Survives (run step (initial threeLogs)
        [.record ([97], 1), .powerLoss ([98], 2) 3, .record ([99], 3), .reboot]) := by
  refine ⟨by decide +kernel, fun survives => ?_⟩
  have found := survives.found ([99], 3) (by decide +kernel)
  exact absurd found (by decide +kernel)

end EndTimesSystem

end RtCore.Logging
