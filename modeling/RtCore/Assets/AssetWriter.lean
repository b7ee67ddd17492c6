import RtCore.Assets.AssetReader

/-!
# Writing an asset

`AssetWriter` collects appended data in a buffer and writes the buffer to a staged file when it is
full. A write that fails or falls short is kept as the writer's error: later calls return it, and
`Commit` publishes nothing.

What the file system takes of each write and what it answers is a parameter.

## Main definitions

* `WriteAnswer`, `StagedFile` — the answers of the file system and the staged file
* `AssetWriter` with `append`, `flush` and `commit`
* `AssetWriter.Holds` — what was appended is in the staged file and the buffer, unless a write
  failed

## Main results

* `AssetWriter.holds_append` — an `Append` keeps `Holds`
* `AssetWriter.commit_transparent` — exactly complete writes are published, with all that was
  appended
* `bufferedIo_transparent` — the same for reads and appends
-/

namespace RtCore.Assets

open RtCore.Fs

/-- What the file system does with a write, and the error it returns where it fails. -/
structure WriteAnswer extends Answer where
  error : ℤ
  isError : error < 0

/-- The staged file: opened empty, and written one call after another. -/
structure StagedFile where
  data : List UInt8 := []
  calls : List FsCall := []
  deriving DecidableEq, Repr

/-- `fs_write`: what it returns. -/
def StagedFile.write (answers : ℕ → WriteAnswer) (bytes : List UInt8) (file : StagedFile) :
    ℤ × StagedFile :=
  let answer := answers file.calls.length
  (if answer.fails then answer.error else (answer.written bytes : ℕ),
    { data := file.data ++ bytes.take answer.taken
      calls := file.calls ++ [.write bytes answer.toAnswer] })

namespace AssetWriter

/-- The size of the writer's buffer, from its configuration option. -/
def bufferSize : ℕ := 4096

end AssetWriter

/-- An `AssetWriter`. There is room in the buffer unless a write failed. -/
structure AssetWriter where
  file : StagedFile := {}
  isOpen : Bool := true
  error : ℤ := 0
  buffered : List UInt8 := []
  written : ℕ := 0
  room : error = 0 → buffered.length < AssetWriter.bufferSize := by decide

namespace AssetWriter

/-- The error of a call on a file that is not open. -/
def ebadf : ℤ := 9
/-- The error of a write that no space is left for. -/
def enospc : ℤ := 28
/-- The error of a failed read or write. -/
def eio : ℤ := 5

section Operations

variable (answers : ℕ → WriteAnswer)

/-- `Flush`, of a buffer that may be full. -/
def flush (buffered : List UInt8) (writer : AssetWriter) : AssetWriter :=
  if buffered = [] then { writer with buffered := [], room := fun _ => by decide }
  else
    let rc := (writer.file.write answers buffered).1
    let file := (writer.file.write answers buffered).2
    if negative : rc < 0 then
      { writer with
        file, error := rc, buffered, room := fun none => absurd none (Int.ne_of_lt negative) }
    -- FAT reports a full volume as a short write
    else if rc ≠ buffered.length then
      { writer with file, error := -enospc, buffered, room := fun none => absurd none (by decide) }
    else { writer with file, buffered := [], room := fun _ => by decide }

theorem chunk_pos {data : List UInt8} {writer : AssetWriter} (healthy : writer.error = 0)
    (some : data ≠ []) : 0 < min data.length (bufferSize - writer.buffered.length) := by
  have := List.length_pos_iff.mpr some
  have := writer.room healthy
  omega

/-- The loop of `Append`. -/
def appendLoop (data : List UInt8) (writer : AssetWriter) (healthy : writer.error = 0) :
    AssetWriter :=
  if empty : data = [] then writer
  else
    let length := min data.length (bufferSize - writer.buffered.length)
    let buffered := writer.buffered ++ data.take length
    let written := writer.written + length
    if full : buffered.length = bufferSize then
      let flushed := flush answers buffered { writer with written }
      if failed : flushed.error ≠ 0 then flushed
      else appendLoop (data.drop length) flushed (not_not.mp failed)
    else
      have room : buffered.length < bufferSize := by
        have := writer.room healthy
        have : buffered.length ≤ bufferSize := by
          simp only [buffered, length, List.length_append, List.length_take]
          omega
        omega
      appendLoop (data.drop length) { writer with buffered, written, room := fun _ => room } healthy
termination_by data.length
decreasing_by
  all_goals
    have := chunk_pos healthy empty
    have := List.length_pos_iff.mpr empty
    rw [List.length_drop]
    omega

/-- `Append`: its answer, which is the writer's error, and the writer. -/
def append (data : List UInt8) (writer : AssetWriter) : ℤ × AssetWriter :=
  if !writer.isOpen then (-ebadf, writer)
  else if failed : writer.error ≠ 0 then (writer.error, writer)
  else
    let writer := appendLoop answers data writer (not_not.mp failed)
    (writer.error, writer)

/-- What is outside the writer when it commits: the results of the close and of the rename, and
whether the directory is there or is created. -/
structure CommitAnswers where
  close : ℤ
  isEnsured : Bool
  rename : ℤ

/-- `Commit`: its answer and the file that it publishes, if any. -/
def commit (outside : CommitAnswers) (writer : AssetWriter) : ℤ × Option (List UInt8) :=
  if !writer.isOpen then (-ebadf, none)
  else
    let flushed := if writer.error ≠ 0 then writer else flush answers writer.buffered writer
    let rc := if flushed.error = 0 then outside.close else flushed.error
    let rc := if rc = 0 ∧ !outside.isEnsured then -eio else rc
    if rc = 0 then (outside.rename, if outside.rename = 0 then some flushed.file.data else none)
    else (rc, none)

/-- The calls of the file system once `Commit` is through. -/
def commitCalls (writer : AssetWriter) : List FsCall :=
  if writer.error ≠ 0 then writer.file.calls
  else (flush answers writer.buffered writer).file.calls

/-- Pieces of data appended one after another to a fresh writer. -/
def appendAll (pieces : List (List UInt8)) : AssetWriter :=
  pieces.foldl (fun writer data => (writer.append answers data).2) {}

end Operations

/-! ### What was appended -/

/-- Unless a write failed or fell short, all that was appended is in the staged file and the
buffer. -/
structure Holds (appended : List UInt8) (writer : AssetWriter) : Prop where
  isOpen : writer.isOpen = true
  complete : writer.error = 0 → ∀ call ∈ writer.file.calls, call.isIncomplete = false
  content : writer.error = 0 → writer.file.data ++ writer.buffered = appended
  failed : writer.error ≠ 0 → ∃ call ∈ writer.file.calls, call.isIncomplete = true

theorem holds_begun : Holds [] {} where
  isOpen := rfl
  complete _ := nofun
  content _ := rfl
  failed error := absurd rfl error

variable (answers : ℕ → WriteAnswer)

/-- What a write returns tells whether it is complete. -/
theorem write_complete_iff {bytes : List UInt8} (some : bytes ≠ []) (file : StagedFile) :
    (file.write answers bytes).1 = bytes.length ↔
      (FsCall.write bytes (answers file.calls.length).toAnswer).isIncomplete = false := by
  have length := List.length_pos_iff.mpr some
  have negative := (answers file.calls.length).isError
  simp only [StagedFile.write, FsCall.isIncomplete, bne_eq_false_iff_eq]
  cases fails : (answers file.calls.length).fails with
  | true =>
    simp only [Answer.written, fails, if_true]
    omega
  | false =>
    simp only [Bool.false_eq_true, if_false]
    omega

/-- A complete write adds all its bytes. -/
theorem data_write_of_complete {bytes : List UInt8} {file : StagedFile}
    (complete : (file.write answers bytes).1 = bytes.length) :
    (file.write answers bytes).2.data = file.data ++ bytes := by
  have negative := (answers file.calls.length).isError
  simp only [StagedFile.write] at complete ⊢
  rw [List.take_of_length_le]
  split_ifs at complete with fails
  · omega
  · simp only [Answer.written, if_neg fails] at complete
    omega

/-- A flush of what was appended since the last one. -/
theorem holds_flush {appended buffered : List UInt8} {writer : AssetWriter}
    (isOpen : writer.isOpen = true) (healthy : writer.error = 0)
    (complete : ∀ call ∈ writer.file.calls, call.isIncomplete = false)
    (content : writer.file.data ++ buffered = appended) :
    Holds appended (flush answers buffered writer) := by
  by_cases empty : buffered = []
  · rw [flush, if_pos empty]
    exact ⟨isOpen, fun _ => complete, fun _ => empty ▸ content, (absurd healthy ·)⟩
  have calls : (writer.file.write answers buffered).2.calls = writer.file.calls ++
      [.write buffered (answers writer.file.calls.length).toAnswer] := rfl
  have whole := write_complete_iff answers empty writer.file
  have incomplete (short : (writer.file.write answers buffered).1 ≠ buffered.length) :
      ∃ call ∈ (writer.file.write answers buffered).2.calls, call.isIncomplete = true := by
    refine ⟨_, calls ▸ List.mem_append_right _ List.mem_cons_self, ?_⟩
    exact Bool.not_eq_false _ ▸ fun all => short (whole.mpr all)
  rw [flush, if_neg empty]
  dsimp only
  -- A write that failed, one that was cut short, and a whole one.
  split_ifs with negative short
  · exact ⟨isOpen, (absurd · (Int.ne_of_lt negative)), (absurd · (Int.ne_of_lt negative)),
      fun _ => incomplete (by omega)⟩
  · exact ⟨isOpen, nofun, nofun, fun _ => incomplete short⟩
  · have all := not_not.mp short
    refine ⟨isOpen, fun _ call member => ?_, fun _ => ?_, (absurd healthy ·)⟩
    · rw [calls] at member
      rcases List.mem_append.mp member with old | new
      · exact complete call old
      · rw [List.mem_singleton.mp new]
        exact whole.mp all
    · dsimp only
      rw [data_write_of_complete answers all, List.append_nil]
      exact content

/-- A flush that does not fail empties the buffer. -/
theorem buffered_flush {buffered : List UInt8} {writer : AssetWriter}
    (done : (flush answers buffered writer).error = 0) :
    (flush answers buffered writer).buffered = [] := by
  unfold flush at done ⊢
  dsimp only at done ⊢
  split_ifs at done ⊢ with empty negative short
  · rfl
  · exact absurd done (Int.ne_of_lt negative)
  · exact absurd done (by decide : (-enospc : ℤ) ≠ 0)
  · rfl

/-- A writer that failed does not care what else is appended. -/
theorem Holds.of_failed {appended other : List UInt8} {writer : AssetWriter}
    (holds : Holds appended writer) (failed : writer.error ≠ 0) : Holds other writer :=
  ⟨holds.isOpen, (absurd · failed), (absurd · failed), holds.failed⟩

/-- The loop of `Append` adds its data, or ends at a write that failed. -/
theorem holds_appendLoop {appended data : List UInt8} {writer : AssetWriter}
    (holds : Holds appended writer) (healthy : writer.error = 0) :
    Holds (appended ++ data) (appendLoop answers data writer healthy) := by
  -- On the passes of the loop: a full buffer is flushed (and a failed flush ends the loop), one
  -- with room left takes the whole rest.
  induction data, writer, healthy using appendLoop.induct answers generalizing appended with
  | case1 writer healthy =>
    rw [appendLoop, dif_pos rfl, List.append_nil]
    exact holds
  | case2 data writer healthy some length buffered written full flushed =>
    rename_i failed
    have content : writer.file.data ++ buffered = appended ++ data.take length := by
      rw [← holds.content healthy, List.append_assoc]
    rw [appendLoop, dif_neg some]
    dsimp only
    rw [dif_pos full, dif_pos failed]
    have kept : Holds (appended ++ data.take length) flushed :=
      holds_flush answers holds.isOpen healthy (holds.complete healthy) content
    -- After the failure nothing is promised of the buffer, so the rest of the data is not asked
    -- about.
    exact kept.of_failed failed
  | case3 data writer healthy some length buffered written full flushed =>
    rename_i going ih
    have content : writer.file.data ++ buffered = appended ++ data.take length := by
      rw [← holds.content healthy, List.append_assoc]
    rw [appendLoop, dif_neg some]
    dsimp only
    rw [dif_pos full, dif_neg going]
    have flush : Holds (appended ++ data.take length) flushed :=
      holds_flush answers holds.isOpen healthy (holds.complete healthy) content
    have kept := ih flush
    rwa [List.append_assoc, List.take_append_drop] at kept
  | case4 data writer healthy some length buffered written =>
    rename_i notFull room ih
    have content : writer.file.data ++ buffered = appended ++ data.take length := by
      rw [← holds.content healthy, List.append_assoc]
    rw [appendLoop, dif_neg some]
    dsimp only
    rw [dif_neg notFull]
    have buffer : Holds (appended ++ data.take length) { writer with
        buffered, written, room := fun _ => room } :=
      ⟨holds.isOpen, fun _ => holds.complete healthy, fun _ => content, (absurd healthy ·)⟩
    have kept := ih buffer
    rwa [List.append_assoc, List.take_append_drop] at kept

/-- `Append` adds its data, or the writer failed. -/
theorem holds_append {appended : List UInt8} {writer : AssetWriter}
    (holds : Holds appended writer) (data : List UInt8) :
    Holds (appended ++ data) (writer.append answers data).2 := by
  rw [append, if_neg (by rw [holds.isOpen]; decide)]
  split_ifs with failed
  · exact holds.of_failed failed
  · exact holds_appendLoop answers holds (not_not.mp failed)

theorem holds_appendAll (pieces : List (List UInt8)) :
    Holds pieces.flatten (appendAll answers pieces) := by
  induction pieces using List.reverseRecOn with
  | nil => exact holds_begun
  | append_singleton pieces data ih =>
    rw [appendAll, List.foldl_append, List.flatten_append, List.flatten_singleton]
    exact holds_append answers ih data

/-- Where the close, the directory and the rename succeed, `Commit` publishes a file exactly when no
write failed or fell short, and the file is all that was appended. -/
theorem commit_transparent (pieces : List (List UInt8)) :
    let writer := appendAll answers pieces
    let published := (writer.commit answers ⟨0, true, 0⟩).2
    (published ≠ none ↔ ∀ call ∈ writer.commitCalls answers, call.isIncomplete = false) ∧
      ∀ content, published = some content → content = pieces.flatten := by
  intro writer published
  have holds : Holds pieces.flatten writer := holds_appendAll answers pieces
  have isOpen : ¬ (!writer.isOpen) = true := by rw [holds.isOpen]; decide
  -- The writer failed before, fails at the last flush, or publishes all that was appended.
  by_cases failed : writer.error ≠ 0
  · have nothing : published = none := by
      simp only [published, commit, if_neg isOpen, if_pos failed]
      simp [failed]
    obtain ⟨call, member, short⟩ := holds.failed failed
    rw [nothing, commitCalls, if_pos failed]
    refine ⟨iff_of_false (absurd rfl) fun complete => ?_, nofun⟩
    rw [complete call member] at short
    cases short
  · have healthy := not_not.mp failed
    have flushed : Holds pieces.flatten (flush answers writer.buffered writer) :=
      holds_flush answers holds.isOpen healthy (holds.complete healthy) (holds.content healthy)
    rw [commitCalls, if_neg failed]
    by_cases done : (flush answers writer.buffered writer).error = 0
    · have there : published = some (flush answers writer.buffered writer).file.data := by
        simp only [published, commit, if_neg isOpen, if_neg failed]
        simp [done]
      have content := flushed.content done
      rw [buffered_flush answers done, List.append_nil] at content
      rw [there]
      refine ⟨iff_of_true nofun (flushed.complete done), ?_⟩
      rintro _ ⟨⟩
      exact content
    · have nothing : published = none := by
        simp only [published, commit, if_neg isOpen, if_neg failed]
        simp [done]
      obtain ⟨call, member, short⟩ := flushed.failed done
      rw [nothing]
      refine ⟨iff_of_false (absurd rfl) fun complete => ?_, nofun⟩
      rw [complete call member] at short
      cases short

end AssetWriter

/-- Buffered reads that report no error give the file's bytes, and buffered appends publish all that
was appended exactly when every write was complete, whatever the file system answers. -/
theorem bufferedIo_transparent :
    (∀ (answers : ℕ → ReadAnswer) (content : List UInt8) (reads : List (ℕ × ℕ)),
      List.Forall₂ (fun read result => ∀ bytes, result = .ok bytes →
        bytes = (content.drop read.1).take read.2) reads
          ((AssetReader.opened content).readAll answers reads)) ∧
    ∀ (answers : ℕ → WriteAnswer) (pieces : List (List UInt8)),
      let writer := AssetWriter.appendAll answers pieces
      let published := (writer.commit answers ⟨0, true, 0⟩).2
      (published ≠ none ↔ ∀ call ∈ writer.commitCalls answers, call.isIncomplete = false) ∧
        ∀ content, published = some content → content = pieces.flatten :=
  ⟨AssetReader.readAll_transparent, AssetWriter.commit_transparent⟩

end RtCore.Assets
