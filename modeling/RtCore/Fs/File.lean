import Mathlib.Data.List.Infix
import RtCore.Foundation.Bytes

/-!
# A file open for writing

A file as the file system keeps it: what it held when it was opened, the offset of the next write
and the bytes written since. A write of several bytes is their writes one after another, which is
why a writer may choose how it cuts them into calls.

## Main definitions

* `File` with `put`, `write` and `seek`
* `File.data` — the contents of the file

## Main results

* `File.write_append` — a write may be cut in two
* `File.cells_write_take` — a write that falls short is the beginning of the whole one
* `File.data_write_end`, `File.data_write_middle` — a write behind the data and over a part of it
-/

namespace RtCore.Fs

open RtCore.Foundation

/-- Where the offset of a seek counts from. -/
inductive SeekDir where
  | beginning
  | current
  | ending
  deriving DecidableEq, Repr

/-- A file open for writing. -/
structure File where
  /-- What the file holds when it is opened. -/
  initial : List UInt8 := []
  /-- `FS_O_APPEND`: every write goes to the end of the file. -/
  append : Bool := false
  /-- The offset that `fs_tell` reports. -/
  position : ℕ := 0
  /-- The bytes written so far, each with its offset, the oldest first. -/
  cells : List (UInt8 × ℕ) := []
  deriving DecidableEq, Repr

namespace File

/-- The contents of the file. -/
def data (f : File) : List UInt8 := writeCells f.initial f.cells

/-- Writes one byte. -/
def put (f : File) (byte : UInt8) : File :=
  let offset := if f.append then f.data.length else f.position
  { f with
    position := offset + 1
    cells := f.cells ++ [(byte, offset)] }

/-- Writes bytes one after another. -/
def write (f : File) (bytes : List UInt8) : File := bytes.foldl put f

/-- The offset that a seek asks for. -/
def place (f : File) (offset : ℤ) (way : SeekDir) : ℤ :=
  match way with
  | .beginning => offset
  | .current => f.position + offset
  | .ending => f.data.length + offset

/-- A seek; no file has a negative offset. -/
def seek (f : File) (offset : ℤ) (way : SeekDir) : Option File :=
  if f.place offset way < 0 then none
  else some { f with position := (f.place offset way).toNat }

variable (f : File)

@[simp] theorem write_nil : f.write [] = f := rfl

/-- A write may be cut in two. -/
@[simp] theorem write_append (first second : List UInt8) :
    f.write (first ++ second) = (f.write first).write second :=
  List.foldl_append

/-- What is in the file stays in the order it was written. -/
theorem cells_write (bytes : List UInt8) : f.cells <+: (f.write bytes).cells := by
  induction bytes generalizing f with
  | nil => exact List.prefix_refl _
  | cons byte bytes ih =>
    have first : f.cells <+: (f.put byte).cells := List.prefix_append _ _
    exact first.trans (ih (f.put byte))

/-- A write that falls short is the beginning of the whole one. -/
theorem cells_write_take (bytes : List UInt8) (count : ℕ) :
    (f.write (bytes.take count)).cells <+: (f.write bytes).cells := by
  have whole : f.write bytes = (f.write (bytes.take count)).write (bytes.drop count) := by
    rw [← write_append, List.take_append_drop]
  rw [whole]
  exact cells_write _ _

variable {f}

/-- Bytes go to the file one behind the other, from its offset on. -/
theorem write_eq (placed : f.append = false) (bytes : List UInt8) :
    f.write bytes = { f with
      position := f.position + bytes.length
      cells := f.cells ++ bytes.zipIdx f.position } := by
  induction bytes generalizing f with
  | nil => simp
  | cons byte bytes ih =>
    have first : f.put byte = { f with
        position := f.position + 1
        cells := f.cells ++ [(byte, f.position)] } := by
      rw [put, if_neg (by simp [placed])]
    have rest := ih (f := f.put byte) (by rw [first]; exact placed)
    rw [show f.write (byte :: bytes) = (f.put byte).write bytes from rfl, rest, first]
    simp [List.zipIdx_cons, Nat.add_assoc, Nat.add_comm 1]

@[simp] theorem append_write (bytes : List UInt8) : (f.write bytes).append = f.append := by
  induction bytes generalizing f with
  | nil => rfl
  | cons byte bytes ih => exact ih

theorem position_write (placed : f.append = false) (bytes : List UInt8) :
    (f.write bytes).position = f.position + bytes.length := by
  rw [write_eq placed]

/-- A write at the end of the file. -/
theorem data_write_end (placed : f.append = false) (atEnd : f.position = f.data.length)
    (bytes : List UInt8) : (f.write bytes).data = f.data ++ bytes := by
  have extended := writeCells_zipIdx f.data [] bytes (Nat.zero_le _)
  rw [List.append_nil] at extended
  rw [write_eq placed]
  change writeCells f.initial (f.cells ++ bytes.zipIdx f.position) = f.data ++ bytes
  rw [writeCells_append, atEnd]
  exact extended

/-- A write over as many bytes of the file. -/
theorem data_write_middle (placed : f.append = false) {before new after : List UInt8}
    (old : List UInt8) (data : f.data = before ++ old ++ after) (place : f.position = before.length)
    (same : old.length = new.length) : (f.write new).data = before ++ new ++ after := by
  rw [write_eq placed]
  change writeCells f.initial (f.cells ++ new.zipIdx f.position) = before ++ new ++ after
  rw [writeCells_append, place, show writeCells f.initial f.cells = f.data from rfl, data]
  exact writeCells_middle before old new after same

private theorem length_setByte (data : List UInt8) (cell : UInt8 × ℕ) :
    (setByte data cell).length = max data.length (cell.2 + 1) := by
  unfold setByte
  split_ifs with inside
  · rw [List.length_set]
    omega
  · simp only [List.length_append, List.length_replicate, List.length_singleton]
    omega

private theorem put_spec (placed : f.append = false) (byte : UInt8) :
    (f.put byte).data.length = max f.data.length (f.position + 1) ∧
      (f.put byte).position = f.position + 1 := by
  have put : f.put byte = { f with
      position := f.position + 1
      cells := f.cells ++ [(byte, f.position)] } := by
    rw [File.put, if_neg (by simp [placed])]
  refine ⟨?_, by rw [put]⟩
  rw [put]
  change (writeCells f.initial (f.cells ++ [(byte, f.position)])).length = _
  rw [writeCells_append]
  exact length_setByte _ _

/-- A write from the end of the file or from behind it ends there again. -/
theorem length_data_write_le (placed : f.append = false) (behind : f.data.length ≤ f.position)
    (bytes : List UInt8) : (f.write bytes).data.length ≤ (f.write bytes).position := by
  induction bytes generalizing f with
  | nil => exact behind
  | cons byte bytes ih =>
    obtain ⟨length, position⟩ := put_spec placed byte
    have first : (f.put byte).append = false := placed
    exact ih first (by omega)

/-- A seek forwards from a place in the file succeeds. -/
theorem isSome_seek (offset : ℕ) (way : SeekDir) : (f.seek offset way).isSome = true := by
  have inside : ¬f.place offset way < 0 := by
    cases way <;> simp only [place] <;> omega
  rw [seek, if_neg inside]
  rfl

theorem seek_cells {offset : ℤ} {way : SeekDir} {moved : File}
    (found : f.seek offset way = some moved) : moved.cells = f.cells := by
  unfold seek at found
  split at found
  · cases found
  · rw [← Option.some.inj found]

end File

end RtCore.Fs
