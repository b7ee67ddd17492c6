import RtCore.Fs.File

/-!
# A buffered stream over a file

`FsServiceStreamBuf` collects what is written to it in a put area and hands it to `fs_write` when
the area is full, before a seek and at a sync or a close. The file system may take a part of a
write, report a failure, and fail a sync, a seek or a close; what it answers to each call is a
parameter. The first write that is not complete latches the stream: it drops what is pending and
refuses everything later.

## Main definitions

* `FsCall` — a call of the file system with its answer
* `StreamBuf` with `writeToFile`, `flushPutArea`, `xsputn`, `overflow`, `sputc`, `sync`, `seekoff`,
  `close` and `getBytesWritten`
* `StreamBuf.intended` — the file as it is once the put area is written

## Main results

* `StreamBuf.xsputn_spec`, `StreamBuf.sputc_spec`, `StreamBuf.sync_spec`, `StreamBuf.seekoff_spec`,
  `StreamBuf.close_spec` — what each operation adds to the file and what its success means
-/

namespace RtCore.Fs

/-- What the file system does with a call: the bytes of a write that it takes, and whether it
reports a failure. -/
structure Answer where
  taken : ℕ
  fails : Bool
  deriving DecidableEq, Repr

/-- The bytes that `fs_write` reports as written, none when it returns an error. -/
def Answer.written (answer : Answer) (bytes : List UInt8) : ℕ :=
  if answer.fails then 0 else min answer.taken bytes.length

/-- A call of the file system. -/
inductive FsCall where
  | write (bytes : List UInt8) (answer : Answer)
  | sync (answer : Answer)
  | seek (offset : ℤ) (way : SeekDir) (answer : Answer)
  | tell (answer : Answer)
  | close (answer : Answer)
  deriving DecidableEq, Repr

namespace FsCall

/-- Whether a call is a write. -/
def isWrite : FsCall → Bool
  | write _ _ => true
  | _ => false

/-- Whether a call is a write that failed or fell short. -/
def isIncomplete : FsCall → Bool
  | write bytes answer => answer.written bytes != bytes.length
  | _ => false

/-- Whether the file system carried a call out. -/
def succeeds : FsCall → Bool
  | write bytes answer => answer.written bytes == bytes.length
  | sync answer => !answer.fails
  | seek _ _ answer => !answer.fails
  | tell answer => !answer.fails
  | close answer => !answer.fails

theorem isIncomplete_eq_false {call : FsCall} (done : call.succeeds = true) :
    call.isIncomplete = false := by
  cases call with
  | write bytes answer => simpa [succeeds, isIncomplete] using done
  | sync | seek | tell | close => rfl

theorem isIncomplete_of_not_isWrite {call : FsCall} (other : call.isWrite = false) :
    call.isIncomplete = false := by
  cases call with
  | write => cases other
  | sync | seek | tell | close => rfl

end FsCall

/-- The areas of a stream that a seek is for. -/
structure Areas where
  input : Bool := true
  output : Bool := true
  deriving DecidableEq, Repr

/-- A stream opened for writing. Its put area is set unless the stream is closed or latched. -/
structure StreamBuf where
  file : File
  /-- The bytes of the put area that are not in the file yet. -/
  pending : List UInt8 := []
  writeFailed : Bool := false
  isOpen : Bool := true
  bytesWritten : ℕ := 0
  /-- The calls so far, the oldest first. -/
  calls : List FsCall := []
  deriving DecidableEq, Repr

namespace StreamBuf

/-- The file as it is once the put area is written. -/
def intended (s : StreamBuf) : File := s.file.write s.pending

/-- `GetBytesWritten`. -/
def getBytesWritten (s : StreamBuf) : ℕ := s.bytesWritten + s.pending.length

/-- `GetWriteCallCount`. -/
def getWriteCallCount (s : StreamBuf) : ℕ := s.calls.countP FsCall.isWrite

/-! ### Operations -/

section Operations

variable (bufferSize : ℕ) (answers : ℕ → Answer)

/-- `MarkWriteFailed`. -/
def markWriteFailed (s : StreamBuf) : StreamBuf :=
  { s with writeFailed := true, pending := [] }

/-- `WriteToFile`: the bytes that `fs_write` reports as written. -/
def writeToFile (bytes : List UInt8) (s : StreamBuf) : ℕ × StreamBuf :=
  let answer := answers s.calls.length
  let written := answer.written bytes
  let s := { s with
    file := s.file.write (bytes.take answer.taken)
    bytesWritten := s.bytesWritten + written
    calls := s.calls ++ [.write bytes answer] }
  (written, if written = bytes.length then s else s.markWriteFailed)

/-- `FlushPutArea`. -/
def flushPutArea (s : StreamBuf) : Bool × StreamBuf :=
  if s.pending = [] then (true, s)
  else
    let cleared := { s with pending := [] }
    if !s.isOpen then (false, cleared.markWriteFailed)
    else
      let (written, after) := writeToFile answers s.pending cleared
      (written = s.pending.length, after)

/-- The loop of `xsputn` that fills the put area and flushes it when it is full. -/
def fillPutArea : ℕ → List UInt8 → StreamBuf → Bool × StreamBuf
  | 0, _, s => (false, s)
  | rounds + 1, remaining, s =>
    if remaining = [] then (true, s)
    else
      let chunk := min remaining.length (bufferSize - s.pending.length)
      let s := { s with pending := s.pending ++ remaining.take chunk }
      if s.pending.length = bufferSize then
        match flushPutArea answers s with
        | (false, s) => (false, s)
        | (true, s) => fillPutArea rounds (remaining.drop chunk) s
      else fillPutArea rounds (remaining.drop chunk) s

/-- `xsputn`: the bytes that were accepted. -/
def xsputn (bytes : List UInt8) (s : StreamBuf) : ℕ × StreamBuf :=
  if !s.isOpen || s.writeFailed || bytes = [] then (0, s)
  else if bufferSize = 0 then writeToFile answers bytes s
  -- A request that would fill the whole buffer goes straight to the file, behind what is pending.
  else if bufferSize ≤ bytes.length then
    match flushPutArea answers s with
    | (false, s) => (0, s)
    | (true, s) => writeToFile answers bytes s
  else
    -- One round may only flush a put area that `sputc` left full.
    match fillPutArea bufferSize answers (bytes.length + 2) bytes s with
    | (false, s) => (0, s)
    | (true, s) => (bytes.length, s)

/-- `overflow`: whether the byte was accepted, `none` standing for the end of file. -/
def overflow (byte : Option UInt8) (s : StreamBuf) : Bool × StreamBuf :=
  match byte with
  | none => (false, s)
  | some byte =>
    if !s.isOpen || s.writeFailed then (false, s)
    else if bufferSize = 0 then
      let (written, s) := writeToFile answers [byte] s
      (written = 1, s)
    else if s.pending.length = bufferSize then
      match flushPutArea answers s with
      | (false, s) => (false, s)
      | (true, s) => (true, { s with pending := s.pending ++ [byte] })
    else (true, { s with pending := s.pending ++ [byte] })

/-- `sputc` of the base class: a put area with room takes the byte, else `overflow` is called. -/
def sputc (byte : UInt8) (s : StreamBuf) : Bool × StreamBuf :=
  if s.isOpen && !s.writeFailed && s.pending.length < bufferSize then
    (true, { s with pending := s.pending ++ [byte] })
  else overflow bufferSize answers (some byte) s

/-- `sync`. -/
def sync (s : StreamBuf) : Bool × StreamBuf :=
  if !s.isOpen || s.writeFailed then (false, s)
  else
    match flushPutArea answers s with
    | (false, s) => (false, s)
    | (true, s) =>
      let answer := answers s.calls.length
      (!answer.fails, { s with calls := s.calls ++ [.sync answer] })

/-- `seekoff`: the position after the seek. A failure may be that of `fs_tell`, after the position
moved. -/
def seekoff (offset : ℤ) (way : SeekDir) (which : Areas) (s : StreamBuf) :
    Option ℕ × StreamBuf :=
  if !s.isOpen then (none, s)
  else if !(which.input || which.output) then (none, s)
  else
    match flushPutArea answers s with
    | (false, s) => (none, s)
    | (true, s) =>
      let answer := answers s.calls.length
      let asked := { s with calls := s.calls ++ [.seek offset way answer] }
      match answer.fails, s.file.seek offset way with
      | false, some file =>
        let told := answers asked.calls.length
        (if told.fails then none else some file.position,
          { asked with file := file, calls := asked.calls ++ [.tell told] })
      | _, _ => (none, asked)

/-- `seekpos`. -/
def seekpos (offset : ℤ) (which : Areas) (s : StreamBuf) : Option ℕ × StreamBuf :=
  seekoff answers offset .beginning which s

/-- `close`. -/
def close (s : StreamBuf) : Bool × StreamBuf :=
  if !s.isOpen then (true, s)
  else
    let (flushed, s) := flushPutArea answers s
    let answer := answers s.calls.length
    (flushed && !answer.fails, { s with
      isOpen := false
      pending := []
      calls := s.calls ++ [.close answer] })

end Operations

/-! ### What the operations do -/

/-- What holds of a stream, also in the middle of an operation. -/
structure Consistent (s : StreamBuf) : Prop where
  /-- A latched stream has dropped what was pending. -/
  latched : s.writeFailed = true → s.pending = []
  closed : s.isOpen = false → s.pending = []
  /-- The incomplete writes are what latches a stream. -/
  complete : s.writeFailed = s.calls.any FsCall.isIncomplete
  /-- No write follows an incomplete one. -/
  stops : ∀ before call after, s.calls = before ++ call :: after → call.isIncomplete = true →
    ∀ later ∈ after, later.isWrite = false

/-- What holds of a stream between its operations. -/
structure Sound (bufferSize : ℕ) (s : StreamBuf) : Prop extends Consistent s where
  room : s.pending.length ≤ bufferSize

/-- From one stream to another, `bytes` were put, and all of them are in the file or pending, unless
a write was incomplete; then a part of what was intended is in the file. -/
structure Puts (s : StreamBuf) (bytes : List UInt8) (after : StreamBuf) : Prop where
  isOpen : after.isOpen = s.isOpen
  history : s.calls <+: after.calls
  all : after.writeFailed = false → after.intended = s.intended.write bytes
  counted : after.writeFailed = false →
    after.getBytesWritten = s.getBytesWritten + bytes.length
  part : after.file.cells <+: (s.intended.write bytes).cells
  sticky : s.writeFailed = true → after.writeFailed = true ∧ after.file.cells = s.file.cells

variable {bufferSize : ℕ} {s : StreamBuf}

/-- With an empty put area the file is what is intended. -/
@[simp] theorem intended_of_pending (empty : s.pending = []) : s.intended = s.file := by
  rw [intended, empty, File.write_nil]

theorem Consistent.going (consistent : Consistent s) (some_pending : s.pending ≠ []) :
    s.writeFailed = false ∧ s.isOpen = true := by
  constructor
  · cases failed : s.writeFailed with
    | false => rfl
    | true => exact absurd (consistent.latched failed) some_pending
  · cases isOpen : s.isOpen with
    | true => rfl
    | false => exact absurd (consistent.closed isOpen) some_pending

theorem Consistent.sound (consistent : Consistent s) (empty : s.pending = []) :
    Sound bufferSize s where
  toConsistent := consistent
  room := by simp [empty]

/-- A stream whose calls all succeed is not latched. -/
theorem Consistent.not_failed (consistent : Consistent s)
    (succeeds : ∀ call ∈ s.calls, call.succeeds = true) : s.writeFailed = false := by
  rw [consistent.complete, List.any_eq_false]
  intro call member
  rw [FsCall.isIncomplete_eq_false (succeeds call member)]
  exact Bool.false_ne_true

theorem Sound.opened (bufferSize : ℕ) (file : File) : Sound bufferSize { file := file } where
  room := Nat.zero_le _
  latched _ := rfl
  closed _ := rfl
  complete := rfl
  stops before call after split := by cases before <;> cases split

namespace Puts

protected theorem refl (s : StreamBuf) : Puts s [] s where
  isOpen := rfl
  history := List.prefix_refl _
  all _ := rfl
  counted _ := rfl
  part := File.cells_write s.file s.pending
  sticky failed := ⟨failed, rfl⟩

/-- Nothing happens to a stream that refuses bytes. -/
theorem refuse (failed : s.writeFailed = true) (bytes : List UInt8) : Puts s bytes s where
  isOpen := rfl
  history := List.prefix_refl _
  all intact := by
    rw [failed] at intact
    cases intact
  counted intact := by
    rw [failed] at intact
    cases intact
  part := (File.cells_write s.file s.pending).trans (File.cells_write _ _)
  sticky failed := ⟨failed, rfl⟩

protected theorem trans {middle after : StreamBuf} {first second : List UInt8}
    (puts : Puts s first middle) (more : Puts middle second after) :
    Puts s (first ++ second) after := by
  have going : after.writeFailed = false → middle.writeFailed = false := by
    intro intact
    cases failed : middle.writeFailed with
    | false => rfl
    | true =>
      rw [(more.sticky failed).1] at intact
      cases intact
  refine ⟨more.isOpen.trans puts.isOpen, puts.history.trans more.history, fun intact => ?_,
    fun intact => ?_, ?_, fun failed => ?_⟩
  · rw [more.all intact, puts.all (going intact), File.write_append]
  · rw [more.counted intact, puts.counted (going intact), List.length_append, Nat.add_assoc]
  · rw [File.write_append]
    cases failed : middle.writeFailed with
    | false =>
      rw [← puts.all failed]
      exact more.part
    | true =>
      rw [(more.sticky failed).2]
      exact puts.part.trans (File.cells_write _ _)
  · obtain ⟨failed', same⟩ := puts.sticky failed
    obtain ⟨failed'', same'⟩ := more.sticky failed'
    exact ⟨failed'', same'.trans same⟩

end Puts

/-- A call may follow when it is no write, or when no write was incomplete. -/
private theorem stops_concat {calls : List FsCall} (call : FsCall)
    (stops : ∀ before c after, calls = before ++ c :: after → c.isIncomplete = true →
      ∀ later ∈ after, later.isWrite = false)
    (fine : call.isWrite = false ∨ calls.any FsCall.isIncomplete = false) :
    ∀ before c after, calls ++ [call] = before ++ c :: after → c.isIncomplete = true →
      ∀ later ∈ after, later.isWrite = false := by
  intro before c after split incomplete later member
  rcases List.eq_nil_or_concat' after with rfl | ⟨init, last, rfl⟩
  · cases member
  · have split' : calls ++ [call] = (before ++ c :: init) ++ [last] := by simpa using split
    obtain ⟨same, lastSame⟩ := List.append_inj' split' rfl
    obtain rfl := (List.cons.inj lastSame).1
    rcases fine with other | complete
    · rcases List.mem_append.mp member with early | here
      · exact stops before c init same incomplete later early
      · rw [List.mem_singleton.mp here]
        exact other
    · have intact := List.any_eq_false.mp complete c (by rw [same]; simp)
      exact absurd incomplete intact

/-- A write on a stream with nothing pending. -/
theorem writeToFile_spec (answers : ℕ → Answer) (consistent : Consistent s)
    (going : s.writeFailed = false) (empty : s.pending = []) (bytes : List UInt8) :
    let result := writeToFile answers bytes s
    Consistent result.2 ∧ Puts s bytes result.2 ∧ result.2.pending = [] ∧
      (result.1 = bytes.length ↔ result.2.writeFailed = false) := by
  intro result
  let answer := answers s.calls.length
  let call := FsCall.write bytes answer
  let landed := s.file.write (bytes.take answer.taken)
  -- A short write latches the stream, so the latch tells whether a write was incomplete.
  have before := consistent.complete
  rw [going] at before
  have stops := stops_concat call consistent.stops (.inr before.symm)
  have part : landed.cells <+: (s.intended.write bytes).cells := by
    rw [intended_of_pending empty]
    exact File.cells_write_take _ _ _
  by_cases complete : answer.written bytes = bytes.length
  · have value : result = (bytes.length, { s with
        file := landed
        bytesWritten := s.bytesWritten + answer.written bytes
        calls := s.calls ++ [call] }) := by
      simp only [result, writeToFile]
      rw [if_pos complete, complete]
    have enough : bytes.take answer.taken = bytes := by
      apply List.take_of_length_le
      unfold Answer.written at complete
      split at complete <;> omega
    rw [value]
    refine ⟨⟨fun _ => empty, fun _ => empty, ?_, stops⟩,
      ⟨rfl, List.prefix_append _ _, fun _ => ?_, fun _ => ?_, part, fun failed => ?_⟩, empty,
      fun _ => going, fun _ => rfl⟩
    · simp [going, ← before, call, FsCall.isIncomplete, complete]
    · simp [intended, empty, landed, enough]
    · simp [getBytesWritten, empty, complete]
    · rw [going] at failed
      cases failed
  · have value : result = (answer.written bytes, markWriteFailed { s with
        file := landed
        bytesWritten := s.bytesWritten + answer.written bytes
        calls := s.calls ++ [call] }) := by
      simp only [result, writeToFile]
      rw [if_neg complete]
    rw [value]
    refine ⟨⟨fun _ => rfl, fun _ => rfl, ?_, stops⟩,
      ⟨rfl, List.prefix_append _ _, nofun, nofun, part, fun failed => ?_⟩, rfl,
      fun same => absurd same complete, nofun⟩
    · simp [markWriteFailed, call, FsCall.isIncomplete, complete]
    · rw [going] at failed
      cases failed

/-- A flush leaves nothing pending, and succeeds unless it latches the stream. -/
theorem flushPutArea_spec (answers : ℕ → Answer) (consistent : Consistent s) :
    let result := flushPutArea answers s
    Consistent result.2 ∧ Puts s [] result.2 ∧ result.2.pending = [] ∧
      (result.1 = true → result.2.writeFailed = s.writeFailed) ∧
      (result.1 = false → result.2.writeFailed = true) := by
  intro result
  by_cases empty : s.pending = []
  · have value : result = (true, s) := if_pos empty
    rw [value]
    exact ⟨consistent, .refl s, empty, fun _ => rfl, nofun⟩
  obtain ⟨going, opened⟩ := consistent.going empty
  let cleared : StreamBuf := { s with pending := [] }
  have clearedConsistent : Consistent cleared :=
    ⟨fun _ => rfl, fun _ => rfl, consistent.complete, consistent.stops⟩
  obtain ⟨after, puts, nothing, success⟩ :=
    writeToFile_spec answers clearedConsistent going rfl s.pending
  have value : result = (decide ((writeToFile answers s.pending cleared).1 = s.pending.length),
      (writeToFile answers s.pending cleared).2) := by
    simp only [result, flushPutArea]
    rw [if_neg empty, if_neg (by simp [opened])]
  rw [value]
  refine ⟨after, ⟨puts.isOpen, puts.history, puts.all, fun intact => ?_, puts.part,
    fun failed => ?_⟩, nothing, fun ok => ?_, fun refused => ?_⟩
  · rw [puts.counted intact]
    rfl
  · rw [going] at failed
    cases failed
  · rw [going]
    exact success.mp (of_decide_eq_true ok)
  · cases failed : (writeToFile answers s.pending cleared).2.writeFailed with
    | true => rfl
    | false => exact absurd (success.mpr failed) (of_decide_eq_false refused)

/-- Bytes that go to the put area. -/
theorem append_spec (consistent : Consistent s) (going : s.writeFailed = false)
    (opened : s.isOpen = true) (bytes : List UInt8) :
    let after : StreamBuf := { s with pending := s.pending ++ bytes }
    Consistent after ∧ Puts s bytes after := by
  intro after
  refine ⟨⟨fun failed => ?_, fun shut => ?_, consistent.complete, consistent.stops⟩,
    ⟨rfl, List.prefix_refl _, fun _ => ?_, fun _ => ?_, ?_, fun failed => ⟨failed, rfl⟩⟩⟩
  · rw [show s.writeFailed = true from failed] at going
    cases going
  · rw [show s.isOpen = false from shut] at opened
    cases opened
  · exact File.write_append _ _ _
  · simp [after, getBytesWritten, Nat.add_assoc]
  · exact (File.cells_write s.file s.pending).trans (File.cells_write _ _)

/-- The loop that fills the put area puts all bytes, unless a flush latches the stream. -/
theorem fillPutArea_spec (answers : ℕ → Answer) (positive : 0 < bufferSize) (rounds : ℕ)
    (remaining : List UInt8) (sound : Sound bufferSize s) (going : s.writeFailed = false)
    (opened : s.isOpen = true)
    (enough : remaining.length + 1 < rounds ∨
      s.pending.length < bufferSize ∧ remaining.length < rounds) :
    let result := fillPutArea bufferSize answers rounds remaining s
    Sound bufferSize result.2 ∧ Puts s remaining result.2 ∧
      (result.1 = true ↔ result.2.writeFailed = false) := by
  induction rounds generalizing s remaining with
  | zero => rcases enough with absurd | ⟨-, absurd⟩ <;> cases absurd
  | succ rounds ih =>
    intro result
    by_cases done : remaining = []
    · have value : result = (true, s) := if_pos done
      rw [value, done]
      exact ⟨sound, .refl s, fun _ => going, fun _ => rfl⟩
    have room := sound.room
    have some_remaining : 0 < remaining.length := List.length_pos_iff.mpr done
    let chunk := min remaining.length (bufferSize - s.pending.length)
    let filled : StreamBuf := { s with pending := s.pending ++ remaining.take chunk }
    obtain ⟨filledConsistent, puts⟩ :=
      append_spec sound.toConsistent going opened (remaining.take chunk)
    have filledLength : filled.pending.length = s.pending.length + chunk := by
      simp [filled, chunk]
    have restLength : (remaining.drop chunk).length = remaining.length - chunk :=
      List.length_drop
    have whole : ∀ {after : StreamBuf},
        Puts s (remaining.take chunk ++ remaining.drop chunk) after → Puts s remaining after := by
      intro after both
      rwa [List.take_append_drop] at both
    by_cases full : filled.pending.length = bufferSize
    · obtain ⟨after, flushed, nothing, succeeded, refused⟩ :=
        flushPutArea_spec answers filledConsistent
      cases answer : flushPutArea answers filled with
      | mk ok flushedStream =>
        rw [answer] at after flushed nothing succeeded refused
        have both := puts.trans flushed
        rw [List.append_nil] at both
        have value : result = if ok then
            fillPutArea bufferSize answers rounds (remaining.drop chunk) flushedStream
            else (false, flushedStream) := by
          simp only [result, fillPutArea]
          rw [if_neg done, if_pos full]
          simp only [filled, chunk] at answer
          rw [answer]
          cases ok <;> rfl
        rw [value]
        cases ok with
        | false =>
          have failed := refused rfl
          refine ⟨after.sound nothing, whole (both.trans (.refuse failed _)), nofun,
            fun intact => ?_⟩
          rw [show flushedStream.writeFailed = false from intact] at failed
          cases failed
        | true =>
          -- The flush makes room, so from here on every round takes at least one byte.
          have emptied : flushedStream.pending.length < bufferSize := by
            rw [show flushedStream.pending = [] from nothing]
            exact positive
          obtain ⟨sound', more, success⟩ := ih (remaining.drop chunk)
            (after.sound nothing) ((succeeded rfl).trans going)
            (both.isOpen.trans opened) (.inr ⟨emptied, by omega⟩)
          exact ⟨sound', whole (both.trans more), success⟩
    · have value : result =
          fillPutArea bufferSize answers rounds (remaining.drop chunk) filled := by
        simp only [result, fillPutArea]
        rw [if_neg done, if_neg full]
      have below : filled.pending.length < bufferSize := by omega
      obtain ⟨sound', more, success⟩ := ih (remaining.drop chunk)
        (s := filled) ⟨filledConsistent, below.le⟩ going opened
        (.inr ⟨below, by omega⟩)
      rw [value]
      exact ⟨sound', whole (puts.trans more), success⟩

/-- What a put does to a stream that takes bytes. -/
theorem xsputn_spec (answers : ℕ → Answer) (sound : Sound bufferSize s) (opened : s.isOpen = true)
    (bytes : List UInt8) :
    let result := xsputn bufferSize answers bytes s
    Sound bufferSize result.2 ∧ Puts s bytes result.2 ∧
      (s.writeFailed = false → (result.1 = bytes.length ↔ result.2.writeFailed = false)) := by
  intro result
  cases failed : s.writeFailed with
  | true =>
    have value : result = (0, s) := by
      simp only [result, xsputn]
      rw [if_pos (by simp [failed])]
    rw [value]
    exact ⟨sound, .refuse failed _, nofun⟩
  | false =>
    by_cases nothing : bytes = []
    · have value : result = (0, s) := by
        simp only [result, xsputn]
        rw [if_pos (by simp [nothing])]
      rw [value, nothing]
      exact ⟨sound, .refl s, fun _ => ⟨fun _ => failed, fun _ => rfl⟩⟩
    have some_bytes : 0 < bytes.length := List.length_pos_iff.mpr nothing
    -- The paths of the source: unbuffered, at least a buffer full, and piece by piece into the put
    -- area.
    have started : ¬ ((!s.isOpen || s.writeFailed || decide (bytes = [])) = true) := by
      simp [opened, failed, nothing]
    by_cases unbuffered : bufferSize = 0
    · have empty : s.pending = [] := by
        have room := sound.room
        exact List.length_eq_zero_iff.mp (by omega)
      have value : result = writeToFile answers bytes s := by
        simp only [result, xsputn]
        rw [if_neg started, if_pos unbuffered]
      obtain ⟨after, puts, nothing', success⟩ :=
        writeToFile_spec answers sound.toConsistent failed empty bytes
      rw [value]
      exact ⟨after.sound nothing', puts, fun _ => success⟩
    by_cases large : bufferSize ≤ bytes.length
    · obtain ⟨after, flushed, nothing', succeeded, refused⟩ :=
        flushPutArea_spec answers sound.toConsistent
      cases answer : flushPutArea answers s with
      | mk ok flushedStream =>
        rw [answer] at after flushed nothing' succeeded refused
        have value : result = if ok then writeToFile answers bytes flushedStream
            else (0, flushedStream) := by
          simp only [result, xsputn]
          rw [if_neg started, if_neg unbuffered, if_pos large, answer]
          cases ok <;> rfl
        rw [value]
        cases ok with
        | false =>
          have failed' := refused rfl
          refine ⟨after.sound nothing', flushed.trans (.refuse failed' bytes), fun _ => ?_⟩
          refine ⟨fun none_written => ?_, fun intact => ?_⟩
          · exact absurd none_written some_bytes.ne
          · rw [show flushedStream.writeFailed = false from intact] at failed'
            cases failed'
        | true =>
          obtain ⟨after', puts, nothing'', success⟩ :=
            writeToFile_spec answers after ((succeeded rfl).trans failed) nothing' bytes
          exact ⟨after'.sound nothing'', flushed.trans puts, fun _ => success⟩
    · obtain ⟨after, puts, success⟩ :=
        fillPutArea_spec answers (Nat.pos_of_ne_zero unbuffered) (bytes.length + 2)
          bytes sound failed opened (.inl (by omega))
      cases answer : fillPutArea bufferSize answers (bytes.length + 2) bytes s with
      | mk ok filled =>
        rw [answer] at after puts success
        have value : result = (if ok then bytes.length else 0, filled) := by
          simp only [result, xsputn]
          rw [if_neg started, if_neg unbuffered, if_neg large, answer]
          cases ok <;> rfl
        rw [value]
        refine ⟨after, puts, fun _ => Iff.trans ?_ success⟩
        cases ok with
        | false => exact ⟨fun none_written => absurd none_written some_bytes.ne, nofun⟩
        | true => exact ⟨fun _ => rfl, fun _ => rfl⟩

/-- What `sputc` does to an open stream: it puts the byte, unless a flush latches the stream. -/
theorem sputc_spec (answers : ℕ → Answer) (sound : Sound bufferSize s) (opened : s.isOpen = true)
    (byte : UInt8) :
    let result := sputc bufferSize answers byte s
    Sound bufferSize result.2 ∧ Puts s [byte] result.2 ∧
      (result.1 = true ↔ result.2.writeFailed = false) := by
  intro result
  have room := sound.room
  cases failed : s.writeFailed with
  | true =>
    have value : result = (false, s) := by
      simp only [result, sputc, overflow]
      rw [if_neg (by simp [failed]), if_pos (by simp [failed])]
    rw [value]
    refine ⟨sound, .refuse failed _, nofun, fun intact => ?_⟩
    rw [show s.writeFailed = false from intact] at failed
    cases failed
  | false =>
    have started : ¬ ((!s.isOpen || s.writeFailed) = true) := by simp [opened, failed]
    obtain ⟨stored, puts⟩ := append_spec sound.toConsistent failed opened [byte]
    by_cases space : s.pending.length < bufferSize
    · have value : result = (true, { s with pending := s.pending ++ [byte] }) := by
        simp only [result, sputc]
        rw [if_pos (by simp [opened, failed, space])]
      rw [value]
      refine ⟨⟨stored, ?_⟩, puts, fun _ => failed, fun _ => rfl⟩
      rw [List.length_append, List.length_singleton]
      omega
    -- The put area takes no further byte, so the byte goes through `overflow`.
    have direct : result = overflow bufferSize answers (some byte) s := by
      simp only [result, sputc]
      rw [if_neg (by simp [space])]
    by_cases unbuffered : bufferSize = 0
    · have empty : s.pending = [] := List.length_eq_zero_iff.mp (by omega)
      obtain ⟨after, puts, nothing, success⟩ :=
        writeToFile_spec answers sound.toConsistent failed empty [byte]
      have value : result = (decide ((writeToFile answers [byte] s).1 = 1),
          (writeToFile answers [byte] s).2) := by
        rw [direct]
        simp only [overflow]
        rw [if_neg started, if_pos unbuffered]
      rw [value]
      exact ⟨after.sound nothing, puts, decide_eq_true_iff.trans success⟩
    · -- Without room the put area is full, and it is flushed before the byte is stored.
      have full : s.pending.length = bufferSize := by omega
      obtain ⟨after, flushed, nothing, succeeded, refused⟩ :=
        flushPutArea_spec answers sound.toConsistent
      cases answer : flushPutArea answers s with
      | mk ok flushedStream =>
        rw [answer] at after flushed nothing succeeded refused
        have value : result = if ok then
            (true, { flushedStream with pending := flushedStream.pending ++ [byte] })
            else (false, flushedStream) := by
          rw [direct]
          simp only [overflow]
          rw [if_neg started, if_neg unbuffered, if_pos full, answer]
          cases ok <;> rfl
        rw [value]
        cases ok with
        | false =>
          have failed' := refused rfl
          refine ⟨after.sound nothing, flushed.trans (.refuse failed' _), nofun,
            fun intact => ?_⟩
          rw [show flushedStream.writeFailed = false from intact] at failed'
          cases failed'
        | true =>
          have going := (succeeded rfl).trans failed
          obtain ⟨stored', puts'⟩ :=
            append_spec after going (flushed.isOpen.trans opened) [byte]
          refine ⟨⟨stored', ?_⟩, flushed.trans puts', fun _ => going, fun _ => rfl⟩
          simp only [show flushedStream.pending = [] from nothing, List.nil_append,
            List.length_singleton, if_true]
          omega

/-- A call other than a write does not change what is in the file. -/
private theorem Consistent.concat (consistent : Consistent s) (empty : s.pending = [])
    {call : FsCall} (other : call.isWrite = false) (file : File) (isOpen : Bool) :
    Consistent { s with file := file, isOpen := isOpen, calls := s.calls ++ [call] } := by
  refine ⟨fun _ => empty, fun _ => empty, ?_, stops_concat call consistent.stops (.inl other)⟩
  simp [consistent.complete, FsCall.isIncomplete_of_not_isWrite other]

/-- A sync that succeeds leaves everything in the file and is the last call. -/
theorem sync_spec (answers : ℕ → Answer) (sound : Sound bufferSize s) :
    let result := sync answers s
    Sound bufferSize result.2 ∧ Puts s [] result.2 ∧
      (s.isOpen = true → result.2.writeFailed = false → result.2.pending = [] ∧
        ∃ before answer, result.2.calls = before ++ [.sync answer] ∧ result.1 = !answer.fails) ∧
      (result.1 = true → s.isOpen = true ∧ result.2.writeFailed = false) := by
  intro result
  cases opened : s.isOpen with
  | false =>
    have value : result = (false, s) := if_pos (by simp [opened])
    rw [value]
    exact ⟨sound, .refl s, nofun, nofun⟩
  | true =>
    cases failed : s.writeFailed with
    | true =>
      have value : result = (false, s) := if_pos (by simp [failed])
      rw [value]
      refine ⟨sound, .refl s, fun _ intact => ?_, nofun⟩
      rw [show s.writeFailed = false from intact] at failed
      cases failed
    | false =>
      obtain ⟨after, flushed, nothing, succeeded, refused⟩ :=
        flushPutArea_spec answers sound.toConsistent
      cases answer : flushPutArea answers s with
      | mk ok flushedStream =>
        rw [answer] at after flushed nothing succeeded refused
        let given := answers flushedStream.calls.length
        have value : result = if ok then (!given.fails, { flushedStream with
            calls := flushedStream.calls ++ [.sync given] }) else (false, flushedStream) := by
          simp only [result, sync]
          rw [if_neg (by simp [opened, failed]), answer]
          cases ok <;> rfl
        rw [value]
        cases ok with
        | false =>
          refine ⟨after.sound nothing, flushed, fun _ intact => ?_, nofun⟩
          rw [show flushedStream.writeFailed = false from intact] at refused
          exact absurd (refused rfl) Bool.false_ne_true
        | true =>
          have other : (FsCall.sync given).isWrite = false := rfl
          have consistent :=
            after.concat nothing other flushedStream.file flushedStream.isOpen
          -- The sync itself writes nothing.
          have puts : Puts s [] { flushedStream with
              calls := flushedStream.calls ++ [.sync given] } :=
            ⟨flushed.isOpen, flushed.history.trans (List.prefix_append _ _), flushed.all,
              flushed.counted, flushed.part, flushed.sticky⟩
          exact ⟨consistent.sound nothing, puts,
            fun _ _ => ⟨nothing, flushedStream.calls, given, rfl, rfl⟩,
            fun _ => ⟨rfl, (succeeded rfl).trans failed⟩⟩

/-- What a seek of an open stream does: nothing is pending after it, nothing but the bytes that were
pending is written, and if the file system carries its calls out, the file is where the offset
leads. -/
theorem seekoff_spec (answers : ℕ → Answer) (sound : Sound bufferSize s) (opened : s.isOpen = true)
    (offset : ℤ) (way : SeekDir) {which : Areas}
    (chosen : (which.input || which.output) = true) :
    let result := seekoff answers offset way which s
    Sound bufferSize result.2 ∧ result.2.isOpen = true ∧ result.2.pending = [] ∧
      s.calls <+: result.2.calls ∧ result.2.file.cells <+: s.intended.cells ∧
      (result.2.writeFailed = false → result.2.getBytesWritten = s.getBytesWritten ∧
        result.2.file.cells = s.intended.cells) ∧
      ((∀ call ∈ result.2.calls, call.succeeds = true) →
        result.1 = (s.intended.seek offset way).map File.position ∧
        result.2.file = (s.intended.seek offset way).getD s.intended) := by
  intro result
  obtain ⟨after, flushed, nothing, succeeded, refused⟩ :=
    flushPutArea_spec answers sound.toConsistent
  have isOpen := flushed.isOpen.trans opened
  cases flushes : flushPutArea answers s with
  | mk ok flushedStream =>
    rw [flushes] at after flushed nothing succeeded refused isOpen
    -- After a flush that went through, the file is what the unbuffered stream would have.
    have intact_file : flushedStream.writeFailed = false → flushedStream.file = s.intended := by
      intro intact
      have same := flushed.all intact
      rwa [intended_of_pending nothing, File.write_nil] at same
    have part := flushed.part
    rw [File.write_nil] at part
    cases ok with
    | false =>
      have value : result = (none, flushedStream) := by
        simp only [result, seekoff]
        rw [if_neg (by simp [opened]), if_neg (by simp [chosen]), flushes]
      have failed : flushedStream.writeFailed = true := refused rfl
      rw [value]
      refine ⟨after.sound nothing, isOpen, nothing, flushed.history, part, fun intact => ?_,
        fun succeeds => ?_⟩
      · rw [show flushedStream.writeFailed = false from intact] at failed
        cases failed
      · rw [after.not_failed succeeds] at failed
        cases failed
    | true =>
      let given := answers flushedStream.calls.length
      let asked : StreamBuf := { flushedStream with
        calls := flushedStream.calls ++ [.seek offset way given] }
      have askedConsistent : Consistent asked := by
        have other : (FsCall.seek offset way given).isWrite = false := rfl
        exact after.concat nothing other flushedStream.file flushedStream.isOpen
      have history : s.calls <+: asked.calls :=
        flushed.history.trans (List.prefix_append _ _)
      have counted : flushedStream.writeFailed = false →
          flushedStream.getBytesWritten = s.getBytesWritten := flushed.counted
      -- The file system can refuse the seek, or the offset can lead out of the file.
      by_cases moves : given.fails = false ∧ (flushedStream.file.seek offset way).isSome
      · obtain ⟨file, found⟩ := Option.isSome_iff_exists.mp moves.2
        let told := answers asked.calls.length
        let moved : StreamBuf := { asked with file := file, calls := asked.calls ++ [.tell told] }
        have value : result = (if told.fails then none else some file.position, moved) := by
          simp only [result, seekoff]
          rw [if_neg (by simp [opened]), if_neg (by simp [chosen]), flushes]
          simp only [show (answers flushedStream.calls.length).fails = false from moves.1, found]
          rfl
        have other : (FsCall.tell told).isWrite = false := rfl
        have consistent : Consistent moved :=
          askedConsistent.concat nothing other file asked.isOpen
        have same : file.cells = flushedStream.file.cells := File.seek_cells found
        rw [value]
        refine ⟨consistent.sound nothing, isOpen, nothing,
          history.trans (List.prefix_append _ _), same ▸ part,
          fun intact => ⟨counted intact, ?_⟩, fun succeeds => ?_⟩
        · rw [show moved.file.cells = file.cells from rfl, same, intact_file intact]
        · have intact : flushedStream.writeFailed = false := consistent.not_failed succeeds
          have answered : told.fails = false := by
            have done := succeeds (.tell told)
              (List.mem_append_right _ (List.mem_singleton.mpr rfl))
            simpa [FsCall.succeeds] using done
          rw [← intact_file intact, found, answered]
          exact ⟨rfl, rfl⟩
      · have value : result = (none, asked) := by
          simp only [result, seekoff]
          rw [if_neg (by simp [opened]), if_neg (by simp [chosen]), flushes]
          cases failure : (answers flushedStream.calls.length).fails with
          | true =>
            simp only [failure]
            rfl
          | false =>
            have missing : flushedStream.file.seek offset way = none := by
              have nowhere := fun found => moves ⟨failure, found⟩
              exact Option.not_isSome_iff_eq_none.mp nowhere
            simp only [missing, failure]
            rfl
        rw [value]
        refine ⟨askedConsistent.sound nothing, isOpen, nothing, history, part,
          fun intact => ⟨counted intact, ?_⟩, fun succeeds => ?_⟩
        · rw [show asked.file = flushedStream.file from rfl, intact_file intact]
        · have intact : flushedStream.writeFailed = false := askedConsistent.not_failed succeeds
          have done : given.fails = false := by
            have done := succeeds (.seek offset way given)
              (List.mem_append_right _ (List.mem_singleton.mpr rfl))
            simpa [FsCall.succeeds] using done
          have missing : flushedStream.file.seek offset way = none := by
            have nowhere := fun found => moves ⟨done, found⟩
            exact Option.not_isSome_iff_eq_none.mp nowhere
          rw [← intact_file intact, missing]
          exact ⟨rfl, rfl⟩

/-- A close writes what is pending. -/
theorem close_spec (answers : ℕ → Answer) (sound : Sound bufferSize s) (opened : s.isOpen = true) :
    let result := close answers s
    Sound bufferSize result.2 ∧ result.2.isOpen = false ∧ result.2.pending = [] ∧
      s.calls <+: result.2.calls ∧ result.2.file.cells <+: s.intended.cells ∧
      (result.2.writeFailed = false → result.2.getBytesWritten = s.getBytesWritten ∧
        result.2.file = s.intended) ∧
      ((∀ call ∈ result.2.calls, call.succeeds = true) → result.1 = true) := by
  intro result
  obtain ⟨after, flushed, nothing, -, refused⟩ := flushPutArea_spec answers sound.toConsistent
  let flushedStream := (flushPutArea answers s).2
  let given := answers flushedStream.calls.length
  have cleared : flushedStream.pending = [] := nothing
  have value : result = ((flushPutArea answers s).1 && !given.fails, { flushedStream with
      isOpen := false
      calls := flushedStream.calls ++ [.close given] }) := by
    simp only [result, close]
    rw [if_neg (by simp [opened])]
    rw [← cleared]
  have other : (FsCall.close given).isWrite = false := rfl
  have consistent := after.concat nothing other flushedStream.file false
  have part := flushed.part
  rw [File.write_nil] at part
  rw [value]
  refine ⟨consistent.sound nothing, rfl, nothing,
    flushed.history.trans (List.prefix_append _ _), part,
    fun intact => ⟨flushed.counted intact, ?_⟩, fun succeeds => ?_⟩
  · have same := flushed.all intact
    rwa [intended_of_pending nothing, File.write_nil] at same
  · have intact : flushedStream.writeFailed = false := consistent.not_failed succeeds
    have done : given.fails = false := by
      have done := succeeds (.close given) (List.mem_append_right _ (List.mem_singleton.mpr rfl))
      simpa [FsCall.succeeds] using done
    have wrote : (flushPutArea answers s).1 = true := by
      cases ok : (flushPutArea answers s).1 with
      | true => rfl
      | false =>
        rw [show flushedStream.writeFailed = true from refused ok] at intact
        cases intact
    simp [wrote, done]

end StreamBuf

end RtCore.Fs
