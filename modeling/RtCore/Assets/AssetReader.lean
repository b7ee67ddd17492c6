import Mathlib.Data.List.Basic
import RtCore.Fs.StreamBuf

/-!
# Reading an asset

`AssetReader` serves reads at any offset from a buffer that it fills with aligned blocks of the
file. It seeks only where the file position, as far as it knows it, is not at the block; a call that
fails leaves the position unknown.

What the file system answers to each call is a parameter: a seek or a read may fail and leave the
position anywhere, and a read may return fewer bytes than asked, none only at the end.

## Main definitions

* `ReadAnswer`, `ReadHandle` — the answers of the file system and an open file
* `AssetReader` with `fill` and `read`
* `AssetReader.Consistent` — what is buffered is in the file, and a known position is right

## Main results

* `AssetReader.fill_spec`, `AssetReader.read_spec` — what a fill and a read do
* `AssetReader.readAll_transparent` — reads that report no error give the file's bytes
-/

namespace RtCore.Assets

/-- What the file system does with a seek or a read: whether it fails, with which error and with the
position left where, and the bytes that a read returns at most, without the first. -/
structure ReadAnswer where
  fails : Bool
  error : ℤ
  isError : error < 0
  position : ℕ
  more : ℕ

/-- A file open for reading. -/
structure ReadHandle where
  content : List UInt8
  position : ℕ := 0
  /-- The calls so far. -/
  calls : ℕ := 0

namespace ReadHandle

variable (answers : ℕ → ReadAnswer)

/-- `fs_seek` from the start: its error, if any. -/
def seek (offset : ℕ) (file : ReadHandle) : Option ℤ × ReadHandle :=
  let answer := answers file.calls
  let file := { file with calls := file.calls + 1 }
  if answer.fails then (some answer.error, { file with position := answer.position })
  else (none, { file with position := offset })

/-- `fs_read`: its error or the bytes it returns. -/
def read (count : ℕ) (file : ReadHandle) : Except ℤ (List UInt8) × ReadHandle :=
  let answer := answers file.calls
  let file := { file with calls := file.calls + 1 }
  if answer.fails then (.error answer.error, { file with position := answer.position })
  else
    let bytes := (file.content.drop file.position).take (min (answer.more + 1) count)
    (.ok bytes, { file with position := file.position + bytes.length })

end ReadHandle

/-- An `AssetReader`. The file position is none where it is `UNKNOWN_POSITION`. -/
structure AssetReader where
  file : ReadHandle
  isOpen : Bool := false
  size : ℕ := 0
  buffer : ℕ → UInt8 := fun _ => 0
  bufferOffset : ℕ := 0
  bufferLength : ℕ := 0
  filePosition : Option ℕ := some 0

namespace AssetReader

/-- The size of the reader's buffer, from its configuration option. -/
def bufferSize : ℕ := 4096

/-- What a successful `OpenRead` leaves. -/
def opened (content : List UInt8) : AssetReader where
  file := { content }
  isOpen := true
  size := content.length

/-- A buffer with bytes copied into it from an index on. -/
def store (buffer : ℕ → UInt8) (start : ℕ) (bytes : List UInt8) : ℕ → UInt8 := fun i =>
  if start ≤ i then (bytes[i - start]?).getD (buffer i) else buffer i

section Operations

variable (answers : ℕ → ReadAnswer)

/-- The loop of `Fill`: its error, if any. -/
def fillLoop (expected filled : ℕ) (reader : AssetReader) : Option ℤ × AssetReader :=
  if filled < expected then
    match reader.file.read answers (expected - filled) with
    | (.error rc, file) => (some rc, { reader with file, filePosition := none })
    -- The file got shorter since it was opened.
    | (.ok [], file) => (none, { reader with file, bufferLength := filled })
    | (.ok (byte :: bytes), file) =>
      fillLoop expected (filled + (byte :: bytes).length) { reader with
        file
        buffer := store reader.buffer filled (byte :: bytes)
        filePosition := reader.filePosition.map (· + (byte :: bytes).length) }
  else (none, { reader with bufferLength := filled })
termination_by expected - filled
decreasing_by
  simp only [List.length_cons]
  omega

/-- `Fill`. -/
def fill (blockOffset : ℕ) (reader : AssetReader) : Option ℤ × AssetReader :=
  let reader := { reader with bufferOffset := blockOffset, bufferLength := 0 }
  let expected := min bufferSize (reader.size - blockOffset)
  if reader.filePosition = some blockOffset then fillLoop answers expected 0 reader
  else
    match reader.file.seek answers blockOffset with
    | (some rc, file) => (some rc, { reader with file, filePosition := none })
    | (none, file) =>
      fillLoop answers expected 0 { reader with file, filePosition := some blockOffset }

/-- A position is in the buffer. -/
def holds (position : ℕ) (reader : AssetReader) : Bool :=
  reader.bufferOffset ≤ position && position < reader.bufferOffset + reader.bufferLength

/-- The first part of the loop of `Read`: the buffer is filled unless it has the position. -/
def provide (position : ℕ) (reader : AssetReader) : Option ℤ × AssetReader :=
  if reader.holds position then (none, reader)
  else reader.fill answers (position - position % bufferSize)

/-- The loop of `Read`: its error, or the bytes copied. -/
def readLoop (offset length copied : ℕ) (bytes : List UInt8) (reader : AssetReader) :
    Except ℤ (List UInt8) × AssetReader :=
  if copied < length then
    match reader.provide answers (offset + copied) with
    | (some rc, reader) => (.error rc, reader)
    | (none, reader) =>
      if _inside : reader.holds (offset + copied) then
        let inBuffer := offset + copied - reader.bufferOffset
        let chunk := min (length - copied) (reader.bufferLength - inBuffer)
        readLoop offset length (copied + chunk)
          (bytes ++ (List.range chunk).map fun i => reader.buffer (inBuffer + i)) reader
      -- the file is shorter than when it was opened
      else (.ok bytes, reader)
  else (.ok bytes, reader)
termination_by length - copied
decreasing_by
  simp only [holds, Bool.and_eq_true, decide_eq_true_eq] at _inside
  omega

/-- The error of a call on a file that is not open. -/
def ebadf : ℤ := 9

/-- `Read`. -/
def read (offset count : ℕ) (reader : AssetReader) : Except ℤ (List UInt8) × AssetReader :=
  if !reader.isOpen then (.error (-ebadf), reader)
  else if count = 0 ∨ reader.size ≤ offset then (.ok [], reader)
  else readLoop answers offset (min count (reader.size - offset)) 0 [] reader

end Operations

/-! ### What is buffered -/

/-- What is buffered is in the file, and the position, where it is known, is that of the file. -/
structure Consistent (content : List UInt8) (reader : AssetReader) : Prop where
  isOpen : reader.isOpen = true
  unchanged : reader.file.content = content
  size : reader.size = content.length
  known : ∀ position ∈ reader.filePosition, reader.file.position = position
  buffered : ∀ i < reader.bufferLength,
    content[reader.bufferOffset + i]? = some (reader.buffer i)

theorem consistent_opened (content : List UInt8) : Consistent content (opened content) where
  isOpen := rfl
  unchanged := rfl
  size := rfl
  known := by rintro _ ⟨⟩; rfl
  buffered _ none := absurd none (Nat.not_lt_zero _)

section Store

variable {buffer : ℕ → UInt8} {start i : ℕ} {bytes : List UInt8}

theorem store_of_lt (before : i < start) : store buffer start bytes i = buffer i := by
  rw [store, if_neg (not_le.mpr before)]

theorem store_of_mem (after : start ≤ i) {byte : UInt8} (inside : bytes[i - start]? = some byte) :
    store buffer start bytes i = byte := by
  rw [store, if_pos after, inside, Option.getD_some]

end Store

section Answers

variable {answers : ℕ → ReadAnswer}

/-- A read returns bytes of the file where its position is, and none only at the end. -/
theorem read_ok {file after : ReadHandle} {count : ℕ} {bytes : List UInt8}
    (returned : file.read answers count = (.ok bytes, after)) :
    after.content = file.content ∧ after.position = file.position + bytes.length ∧
      bytes.length ≤ count ∧
      (∀ i < bytes.length, bytes[i]? = file.content[file.position + i]?) ∧
      (bytes = [] → count = 0 ∨ file.content.length ≤ file.position) := by
  unfold ReadHandle.read at returned
  dsimp only at returned
  split_ifs at returned with fails
  · cases returned
  obtain ⟨same, rfl⟩ := Prod.mk.inj returned
  obtain rfl := Except.ok.inj same
  refine ⟨rfl, rfl, ?_, fun i inside => ?_, fun none => ?_⟩
  · rw [List.length_take]
    omega
  · have bound : i < min ((answers file.calls).more + 1) count := by
      rw [List.length_take] at inside
      omega
    rw [List.getElem?_take_of_lt bound, List.getElem?_drop]
  · have length := congrArg List.length none
    rw [List.length_take, List.length_drop, List.length_nil] at length
    omega

/-- A read or a seek that fails. -/
theorem read_error {file after : ReadHandle} {count : ℕ} {rc : ℤ}
    (returned : file.read answers count = (.error rc, after)) :
    after.content = file.content ∧ rc < 0 := by
  unfold ReadHandle.read at returned
  dsimp only at returned
  split_ifs at returned with fails
  · obtain ⟨same, rfl⟩ := Prod.mk.inj returned
    obtain rfl := Except.error.inj same
    exact ⟨rfl, (answers file.calls).isError⟩
  · cases returned

end Answers

section Specs

variable (answers : ℕ → ReadAnswer) {content : List UInt8}

/-- What a fill ends in: an error, or a block of the expected length from its offset. -/
structure Filled (content : List UInt8) (blockOffset expected : ℕ)
    (result : Option ℤ × AssetReader) : Prop where
  consistent : Consistent content result.2
  error : ∀ rc ∈ result.1, rc < 0
  block : result.1 = none → result.2.bufferOffset = blockOffset ∧ result.2.bufferLength = expected

/-- The reader within the loop of `Fill`: nothing is buffered yet, and the file position is after
the bytes that the block has. -/
structure Filling (content : List UInt8) (expected filled : ℕ) (reader : AssetReader) : Prop where
  isOpen : reader.isOpen = true
  unchanged : reader.file.content = content
  size : reader.size = content.length
  known : reader.filePosition = some (reader.bufferOffset + filled)
  position : reader.file.position = reader.bufferOffset + filled
  empty : reader.bufferLength = 0
  within : filled ≤ expected
  inFile : reader.bufferOffset + expected ≤ content.length
  filled : ∀ i < filled, content[reader.bufferOffset + i]? = some (reader.buffer i)

/-- The loop goes on from the bytes that it has, up to the expected ones. -/
theorem fillLoop_spec {expected filled : ℕ} {reader : AssetReader}
    (filling : Filling content expected filled reader) :
    Filled content reader.bufferOffset expected (fillLoop answers expected filled reader) := by
  -- On the passes of the loop; `Filling` is its invariant: the first `filled` bytes of the buffer
  -- are those of the file from the buffer's offset on.
  induction filled, reader using fillLoop.induct answers expected with
  | case1 filled reader more rc file returned =>
    obtain ⟨unchanged, negative⟩ := read_error returned
    rw [fillLoop, if_pos more, returned]
    refine ⟨⟨filling.isOpen, unchanged.trans filling.unchanged, filling.size, nofun, ?_⟩, ?_, nofun⟩
    · intro i inside
      exact absurd (filling.empty ▸ inside) (Nat.not_lt_zero i)
    · rintro _ ⟨⟩
      exact negative
  | case2 filled reader more file returned =>
    -- A read of no bytes means the end of the file, which the announced size puts further on.
    obtain ⟨-, -, -, -, none⟩ := read_ok returned
    have inFile := filling.inFile
    rw [filling.unchanged, filling.position] at none
    have := none rfl
    omega
  | case3 filled reader more byte bytes file returned ih =>
    obtain ⟨unchanged, position, short, same, -⟩ := read_ok returned
    rw [fillLoop, if_pos more, returned]
    have next : Filling content expected (filled + (byte :: bytes).length) { reader with
        file
        buffer := store reader.buffer filled (byte :: bytes)
        filePosition := reader.filePosition.map (· + (byte :: bytes).length) } := by
      refine ⟨filling.isOpen, unchanged.trans filling.unchanged, filling.size, ?_, ?_,
        filling.empty, ?_, filling.inFile, ?_⟩
      · dsimp only
        rw [filling.known, Option.map_some, Nat.add_assoc]
      · dsimp only
        rw [position, filling.position, Nat.add_assoc]
      · omega
      · intro i inside
        dsimp only
        -- Bytes below `filled` were there before the read, the others are the ones it brought.
        by_cases old : i < filled
        · rw [store_of_lt old]
          exact filling.filled i old
        · have old := not_lt.mp old
          have new : i - filled < (byte :: bytes).length := by omega
          have there := same (i - filled) new
          rw [List.getElem?_eq_getElem new] at there
          rw [store_of_mem old (List.getElem?_eq_getElem new), there, filling.unchanged,
            filling.position]
          congr 1
          omega
    exact ih next
  | case4 filled reader done =>
    rw [fillLoop, if_neg done]
    have all : filled = expected := le_antisymm filling.within (not_lt.mp done)
    refine ⟨⟨filling.isOpen, filling.unchanged, filling.size, ?_, filling.filled⟩, nofun,
      fun _ => ⟨rfl, all⟩⟩
    intro position known
    rw [filling.known] at known
    cases known
    exact filling.position

/-- A fill from an offset in the file. -/
theorem fill_spec {reader : AssetReader} (consistent : Consistent content reader)
    {blockOffset : ℕ} (inFile : blockOffset ≤ content.length) :
    Filled content blockOffset (min bufferSize (content.length - blockOffset))
      (fill answers blockOffset reader) := by
  -- The loop starts with an empty buffer, at the place that the file is at or is moved to.
  have filling (file : ReadHandle) (same : file.content = content)
      (position : file.position = blockOffset) :
      Filling content (min bufferSize (reader.size - blockOffset)) 0 { reader with
        file, bufferOffset := blockOffset, bufferLength := 0,
        filePosition := some blockOffset } := by
    refine ⟨consistent.isOpen, same, consistent.size, rfl, position, rfl, Nat.zero_le _, ?_,
      fun i none => absurd none (Nat.not_lt_zero i)⟩
    have := consistent.size
    dsimp only
    omega
  rw [← consistent.size, fill]
  dsimp only
  split_ifs with known
  · have there := filling reader.file consistent.unchanged (consistent.known _ known)
    rw [← known] at there
    exact fillLoop_spec answers there
  · cases sought : reader.file.seek answers blockOffset with
    | mk error file =>
      unfold ReadHandle.seek at sought
      dsimp only at sought
      split_ifs at sought with fails
      · obtain ⟨rfl, rfl⟩ := Prod.mk.inj sought
        refine ⟨⟨consistent.isOpen, consistent.unchanged, consistent.size, nofun, ?_⟩, ?_, nofun⟩
        · exact fun i none => absurd none (Nat.not_lt_zero i)
        · rintro _ ⟨⟩
          exact (answers reader.file.calls).isError
      · obtain ⟨rfl, rfl⟩ := Prod.mk.inj sought
        exact fillLoop_spec answers (filling
          { reader.file with position := blockOffset, calls := reader.file.calls + 1 }
          consistent.unchanged rfl)

/-- After `provide`, a position in the file is in the buffer, or there was an error. -/
theorem provide_spec {reader : AssetReader} (consistent : Consistent content reader)
    {position : ℕ} (inFile : position < content.length) :
    Consistent content (provide answers position reader).2 ∧
      (∀ rc ∈ (provide answers position reader).1, rc < 0) ∧
      ((provide answers position reader).1 = none →
        (provide answers position reader).2.holds position = true) := by
  rw [provide]
  split_ifs with already
  · exact ⟨consistent, nofun, fun _ => already⟩
  · have start : position - position % bufferSize ≤ content.length := by omega
    have filled := fill_spec answers consistent start
    refine ⟨filled.consistent, filled.error, fun done => ?_⟩
    obtain ⟨offset, length⟩ := filled.block done
    have inBlock : position % bufferSize < bufferSize := Nat.mod_lt _ (by decide)
    have below := Nat.mod_le position bufferSize
    simp only [holds, offset, length, Bool.and_eq_true, decide_eq_true_eq]
    omega

/-- What is copied from the buffer are the file's bytes at the position. -/
theorem chunk_eq {reader : AssetReader} (consistent : Consistent content reader) {start chunk : ℕ}
    (inside : start + chunk ≤ reader.bufferLength) :
    (List.range chunk).map (fun i => reader.buffer (start + i)) =
      (content.drop (reader.bufferOffset + start)).take chunk := by
  apply List.ext_getElem?
  intro i
  by_cases within : i < chunk
  · rw [List.getElem?_map, List.getElem?_range within, Option.map_some,
      List.getElem?_take_of_lt within, List.getElem?_drop, Nat.add_assoc]
    exact (consistent.buffered (start + i) (by omega)).symm
  · rw [List.getElem?_eq_none (by simpa using within), List.getElem?_eq_none]
    rw [List.length_take]
    omega

/-- The loop of `Read` ends with an error, or with the file's bytes. -/
theorem readLoop_spec {offset length copied : ℕ} {bytes : List UInt8} {reader : AssetReader}
    (consistent : Consistent content reader) (inFile : offset + length ≤ content.length)
    (within : copied ≤ length) (soFar : bytes = (content.drop offset).take copied) :
    Consistent content (readLoop answers offset length copied bytes reader).2 ∧
      match (readLoop answers offset length copied bytes reader).1 with
      | .error rc => rc < 0
      | .ok bytes => bytes = (content.drop offset).take length := by
  -- On the passes of the loop: each copies what the buffer holds of the rest of the read.
  induction copied, bytes, reader using readLoop.induct answers offset length with
  | case1 copied bytes reader more rc after failed =>
    obtain ⟨kept, negative, -⟩ :=
      provide_spec answers consistent (by omega : offset + copied < content.length)
    rw [failed] at kept negative
    rw [readLoop, if_pos more, failed]
    exact ⟨kept, negative rc rfl⟩
  | case2 copied bytes reader more after done inside inBuffer chunk ih =>
    obtain ⟨kept, -, -⟩ :=
      provide_spec answers consistent (by omega : offset + copied < content.length)
    rw [done] at kept
    rw [readLoop, if_pos more, done]
    dsimp only at kept ⊢
    rw [dif_pos inside]
    simp only [holds, Bool.and_eq_true, decide_eq_true_eq] at inside
    refine ih kept (by omega) ?_
    rw [chunk_eq kept (by omega), soFar, List.take_add, List.drop_drop]
    congr 3
    omega
  | case3 copied bytes reader more after done outside =>
    obtain ⟨-, -, there⟩ :=
      provide_spec answers consistent (by omega : offset + copied < content.length)
    rw [done] at there
    -- A block that was provided holds its own first byte.
    exact absurd (there rfl) outside
  | case4 copied bytes reader done =>
    rw [readLoop, if_neg done]
    have all : copied = length := le_antisymm within (not_lt.mp done)
    exact ⟨consistent, all ▸ soFar⟩

/-- A read of a consistent reader leaves it consistent, and gives an error or the file's bytes. -/
theorem read_spec {reader : AssetReader} (consistent : Consistent content reader)
    (offset count : ℕ) :
    Consistent content (read answers offset count reader).2 ∧
      match (read answers offset count reader).1 with
      | .error rc => rc < 0
      | .ok bytes => bytes = (content.drop offset).take count := by
  rw [read, if_neg (by rw [consistent.isOpen]; decide)]
  split_ifs with nothing
  · refine ⟨consistent, ?_⟩
    rw [consistent.size] at nothing
    rcases nothing with rfl | past
    · rfl
    · dsimp only
      rw [List.drop_eq_nil_of_le past, List.take_nil]
  · have size := consistent.size
    -- The count is cut to the end of the file, as `take` cuts it.
    have inFile : offset + min count (reader.size - offset) ≤ content.length := by omega
    have start : [] = (content.drop offset).take 0 := rfl
    obtain ⟨kept, result⟩ := readLoop_spec answers consistent inFile (Nat.zero_le _) start
    refine ⟨kept, ?_⟩
    cases ends : (readLoop answers offset (min count (reader.size - offset)) 0 [] reader).1 with
    | error rc =>
      rw [ends] at result
      exact result
    | ok bytes =>
      rw [ends] at result
      dsimp only at result ⊢
      rw [result, size, List.take_eq_take_iff, List.length_drop]
      omega

end Specs

/-- Reads one after another, with their results. -/
def readAll (answers : ℕ → ReadAnswer) :
    List (ℕ × ℕ) → AssetReader → List (Except ℤ (List UInt8))
  | [], _ => []
  | (offset, count) :: reads, reader =>
    let (result, reader) := reader.read answers offset count
    result :: readAll answers reads reader

/-- Whatever the file system answers, a read of an open asset that reports no error gives the file's
bytes from the offset, as many as were asked for or as are left. -/
theorem readAll_transparent (answers : ℕ → ReadAnswer) (content : List UInt8)
    (reads : List (ℕ × ℕ)) :
    List.Forall₂ (fun read result => ∀ bytes, result = .ok bytes →
      bytes = (content.drop read.1).take read.2) reads
        (readAll answers reads (opened content)) := by
  have all (reader : AssetReader) (consistent : Consistent content reader) :
      List.Forall₂ (fun read result => ∀ bytes, result = .ok bytes →
        bytes = (content.drop read.1).take read.2) reads (readAll answers reads reader) := by
    induction reads generalizing reader with
    | nil => exact .nil
    | cons read reads ih =>
      obtain ⟨kept, result⟩ := read_spec answers consistent read.1 read.2
      cases ends : reader.read answers read.1 read.2 with
      | mk returned after =>
        rw [ends] at kept result
        simp only [readAll, ends]
        refine .cons (fun bytes ok => ?_) (ih after kept)
        rw [ok] at result
        exact result
  exact all _ (consistent_opened content)

end AssetReader

end RtCore.Assets
