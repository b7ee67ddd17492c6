import RtCore.Fs.StreamBuf

/-!
# What the calls of a stream leave in its file

The calls of a stream, with what the file system answered to each, determine its file: playing them
again on the file that was opened gives it back. This tells apart what was in the file at any moment
of the past, whatever the put area held then.

An operation flushes the put area at most once before it seeks or syncs, so a stream with nothing
pending writes nothing but what is put to it.

## Main definitions

* `replay` — the file after calls
* `StreamBuf.Extends` — a stream that made more calls
* `StreamBuf.Faultless`, `StreamBuf.Generous` — streams all of whose calls succeeded, and answers
  that fail no call
* `StreamBuf.Traced` — the calls made the file, and each write came after calls with a property

## Main results

* `StreamBuf.xsputn_extends`, `StreamBuf.sync_extends`, `StreamBuf.seekoff_extends`,
  `StreamBuf.close_extends` — the calls that each operation makes
* `StreamBuf.seekoff_eq_some` — what a seek that succeeds leaves
-/

namespace RtCore.Fs

/-- The file after a call. -/
def FsCall.apply (file : File) : FsCall → File
  | .write bytes answer => file.write (bytes.take answer.taken)
  | .seek offset way answer => if answer.fails then file else (file.seek offset way).getD file
  | .sync _ | .tell _ | .close _ => file

/-- The file after calls. -/
def replay (file : File) (calls : List FsCall) : File := calls.foldl FsCall.apply file

@[simp] theorem replay_nil (file : File) : replay file [] = file := rfl

@[simp] theorem replay_cons (file : File) (call : FsCall) (calls : List FsCall) :
    replay file (call :: calls) = replay (call.apply file) calls := rfl

theorem replay_append (file : File) (first second : List FsCall) :
    replay file (first ++ second) = replay (replay file first) second :=
  List.foldl_append

/-- What writes keep, calls other than seeks keep. -/
theorem replay_induction {P : File → Prop} (writes : ∀ file bytes, P file → P (file.write bytes))
    {calls : List FsCall} (still : ∀ offset way answer, FsCall.seek offset way answer ∉ calls)
    {file : File} (start : P file) : P (replay file calls) := by
  induction calls generalizing file with
  | nil => exact start
  | cons call calls ih =>
    have others := fun offset way answer member =>
      still offset way answer (List.mem_cons_of_mem call member)
    cases call with
    | write bytes answer => exact ih others (writes _ _ start)
    | seek offset way answer => exact absurd List.mem_cons_self (still offset way answer)
    | sync | tell | close => exact ih others start

/-- Only writes change what is in a file. -/
theorem data_replay {calls : List FsCall} (others : ∀ call ∈ calls, call.isWrite = false)
    (file : File) : (replay file calls).data = file.data := by
  induction calls generalizing file with
  | nil => rfl
  | cons call calls ih =>
    rw [replay_cons, ih fun other member => others other (List.mem_cons_of_mem call member)]
    cases call with
    | write bytes answer => cases others _ List.mem_cons_self
    | seek offset way answer =>
      rw [FsCall.apply]
      split_ifs
      · rfl
      · unfold File.seek
        split_ifs
        · rfl
        · rfl
    | sync | tell | close => rfl

/-! ### The calls of an operation -/

namespace StreamBuf

/-- A stream after more calls. -/
structure Extends (s : StreamBuf) (made : List FsCall) (after : StreamBuf) : Prop where
  calls : after.calls = s.calls ++ made
  file : after.file = replay s.file made

variable {bufferSize : ℕ} {s middle after : StreamBuf} {calls first second : List FsCall}

protected theorem Extends.refl (s : StreamBuf) : Extends s [] s :=
  ⟨(List.append_nil _).symm, rfl⟩

protected theorem Extends.trans (more : Extends s first middle)
    (evenMore : Extends middle second after) : Extends s (first ++ second) after where
  calls := by rw [evenMore.calls, more.calls, List.append_assoc]
  file := by rw [evenMore.file, more.file, replay_append]

/-- The calls of an operation that flushes the put area, if anything is pending, and then does not
write. -/
structure FlushesFirst (s : StreamBuf) (flushed rest : List FsCall) : Prop where
  flushed : flushed = [] ∨ s.pending ≠ [] ∧ ∃ answer, flushed = [.write s.pending answer]
  rest : ∀ call ∈ rest, call.isWrite = false

/-- With nothing pending such an operation does not write at all. -/
theorem FlushesFirst.quiet (flushes : FlushesFirst s first second) (nothing : s.pending = []) :
    first = [] := by
  rcases flushes.flushed with empty | ⟨pending, -⟩
  · exact empty
  · exact absurd nothing pending

theorem writeToFile_extends (answers : ℕ → Answer) (bytes : List UInt8) (s : StreamBuf) :
    Extends s [.write bytes (answers s.calls.length)] (writeToFile answers bytes s).2 := by
  unfold writeToFile
  dsimp only
  split_ifs
  · exact ⟨rfl, rfl⟩
  · exact ⟨rfl, rfl⟩

theorem flushPutArea_extends (answers : ℕ → Answer) (s : StreamBuf) :
    ∃ flushed, Extends s flushed (flushPutArea answers s).2 ∧ FlushesFirst s flushed [] := by
  unfold flushPutArea
  by_cases nothing : s.pending = []
  · rw [if_pos nothing]
    exact ⟨[], .refl s, .inl rfl, List.forall_mem_nil _⟩
  rw [if_neg nothing]
  cases opened : s.isOpen with
  | false =>
    refine ⟨[], ?_, .inl rfl, List.forall_mem_nil _⟩
    simp only [Bool.not_false, if_true]
    exact ⟨(List.append_nil _).symm, rfl⟩
  | true =>
    refine ⟨[.write s.pending (answers s.calls.length)], ?_, .inr ⟨nothing, _, rfl⟩,
      List.forall_mem_nil _⟩
    have cleared : { s with pending := [], isOpen := true } = { s with pending := [] } := by
      rw [← opened]
    obtain ⟨made, file⟩ := writeToFile_extends answers s.pending { s with pending := [] }
    simp only [Bool.not_true, Bool.false_eq_true, if_false]
    rw [cleared]
    exact ⟨made, file⟩

private theorem fillPutArea_extends (bufferSize : ℕ) (answers : ℕ → Answer) (rounds : ℕ)
    (remaining : List UInt8) (s : StreamBuf) :
    ∃ made, Extends s made (fillPutArea bufferSize answers rounds remaining s).2 ∧
      ∀ call ∈ made, call.isWrite = true := by
  -- On the rounds: each stores a piece, and flushes if that filled the put area.
  induction rounds generalizing remaining s with
  | zero => exact ⟨[], .refl s, List.forall_mem_nil _⟩
  | succ rounds ih =>
    rw [fillPutArea]
    by_cases done : remaining = []
    · rw [if_pos done]
      exact ⟨[], .refl s, List.forall_mem_nil _⟩
    rw [if_neg done]
    dsimp only
    generalize chunk : min remaining.length (bufferSize - s.pending.length) = count
    let filled : StreamBuf := { s with pending := s.pending ++ remaining.take count }
    have toFilled : Extends s [] filled := ⟨(List.append_nil _).symm, rfl⟩
    split_ifs with full
    · obtain ⟨flushed, made, flushes⟩ := flushPutArea_extends answers filled
      have onlyWrites : ∀ call ∈ flushed, call.isWrite = true := by
        rcases flushes.flushed with rfl | ⟨-, answer, rfl⟩
        · exact List.forall_mem_nil _
        · intro call member
          rw [List.mem_singleton.mp member]
          rfl
      cases answered : flushPutArea answers filled with
      | mk ok flushedStream =>
        rw [answered] at made
        cases ok with
        | false => exact ⟨flushed, toFilled.trans made, onlyWrites⟩
        | true =>
          obtain ⟨later, more, laterWrites⟩ := ih (remaining.drop count) flushedStream
          refine ⟨flushed ++ later, toFilled.trans (made.trans more), fun call member => ?_⟩
          exact (List.mem_append.mp member).elim (onlyWrites call) (laterWrites call)
    · obtain ⟨made, more, onlyWrites⟩ := ih (remaining.drop count) filled
      exact ⟨made, toFilled.trans more, onlyWrites⟩

/-- Putting bytes makes no calls but writes. -/
theorem xsputn_extends (bufferSize : ℕ) (answers : ℕ → Answer) (bytes : List UInt8)
    (s : StreamBuf) :
    ∃ made, Extends s made (xsputn bufferSize answers bytes s).2 ∧
      ∀ call ∈ made, call.isWrite = true := by
  have one (answer : Answer) : ∀ call ∈ [FsCall.write bytes answer], call.isWrite = true := by
    intro call member
    rw [List.mem_singleton.mp member]
    rfl
  unfold xsputn
  -- The paths of the source: nothing to do, unbuffered, a buffer full, and piece by piece.
  split_ifs with refused unbuffered large
  · exact ⟨[], .refl s, List.forall_mem_nil _⟩
  · exact ⟨_, writeToFile_extends answers bytes s, one _⟩
  · obtain ⟨flushed, made, flushes⟩ := flushPutArea_extends answers s
    have onlyWrites : ∀ call ∈ flushed, call.isWrite = true := by
      rcases flushes.flushed with rfl | ⟨-, answer, rfl⟩
      · exact List.forall_mem_nil _
      · intro call member
        rw [List.mem_singleton.mp member]
        rfl
    cases answered : flushPutArea answers s with
    | mk ok flushedStream =>
      rw [answered] at made
      cases ok with
      | false => exact ⟨flushed, made, onlyWrites⟩
      | true =>
        refine ⟨_, made.trans (writeToFile_extends answers bytes flushedStream),
          fun call member => ?_⟩
        exact (List.mem_append.mp member).elim (onlyWrites call) (one _ call)
  · obtain ⟨made, more, onlyWrites⟩ :=
      fillPutArea_extends bufferSize answers (bytes.length + 2) bytes s
    refine ⟨made, ?_, onlyWrites⟩
    cases answered : fillPutArea bufferSize answers (bytes.length + 2) bytes s with
    | mk ok filled =>
      rw [answered] at more
      cases ok <;> exact more

/-- Bytes put to a stream with nothing pending are written at once, alone, or stay pending. -/
theorem xsputn_of_pending_eq_nil (bufferSize : ℕ) (answers : ℕ → Answer) (bytes : List UInt8)
    (nothing : s.pending = []) :
    let after := (xsputn bufferSize answers bytes s).2
    Extends s [] after ∧ (after.pending = [] ∨ after.pending = bytes) ∨
      after.pending = [] ∧ ∃ answer, Extends s [.write bytes answer] after := by
  intro after
  have written : (writeToFile answers bytes s).2.pending = [] := by
    unfold writeToFile
    dsimp only
    split_ifs
    · exact nothing
    · rfl
  by_cases refused : (!s.isOpen || s.writeFailed || decide (bytes = [])) = true
  · have value : after = s := by
      simp only [after, xsputn]
      rw [if_pos refused]
    rw [value]
    exact .inl ⟨.refl s, .inl nothing⟩
  -- Bytes that fill the put area go straight to the file.
  by_cases direct : bufferSize ≤ bytes.length
  · have value : after = (writeToFile answers bytes s).2 := by
      simp only [after, xsputn]
      rw [if_neg refused]
      by_cases unbuffered : bufferSize = 0
      · rw [if_pos unbuffered]
      · rw [if_neg unbuffered, if_pos direct, flushPutArea, if_pos nothing]
    rw [value]
    exact .inr ⟨written, _, writeToFile_extends answers bytes s⟩
  · -- everything fits, so the first round stores it and the second finds nothing left
    have some_bytes : bytes ≠ [] := by
      rintro rfl
      simp at refused
    have value : after = { s with pending := bytes } := by
      have count : min bytes.length (bufferSize - s.pending.length) = bytes.length := by
        rw [nothing, List.length_nil]
        omega
      have notFull : ¬(s.pending ++ bytes.take bytes.length).length = bufferSize := by
        rw [nothing, List.take_length, List.nil_append]
        omega
      have filled : fillPutArea bufferSize answers (bytes.length + 2) bytes s =
          (true, { s with pending := bytes }) := by
        rw [fillPutArea, if_neg some_bytes, count]
        dsimp only
        rw [if_neg notFull, fillPutArea, List.drop_length, if_pos rfl, List.take_length, nothing,
          List.nil_append]
      simp only [after, xsputn]
      rw [if_neg refused, if_neg (by omega), if_neg direct, filled]
    rw [value]
    exact .inl ⟨⟨(List.append_nil _).symm, rfl⟩, .inr rfl⟩

theorem sync_extends (answers : ℕ → Answer) (s : StreamBuf) :
    ∃ flushed rest, Extends s (flushed ++ rest) (sync answers s).2 ∧
      FlushesFirst s flushed rest ∧ ∀ call ∈ rest, ∃ answer, call = .sync answer := by
  unfold sync
  split_ifs with refused
  · exact ⟨[], [], .refl s, ⟨.inl rfl, List.forall_mem_nil _⟩, List.forall_mem_nil _⟩
  obtain ⟨flushed, made, flushes⟩ := flushPutArea_extends answers s
  cases answered : flushPutArea answers s with
  | mk ok flushedStream =>
    rw [answered] at made
    cases ok with
    | false =>
      refine ⟨flushed, [], ?_, ⟨flushes.flushed, List.forall_mem_nil _⟩, List.forall_mem_nil _⟩
      rw [List.append_nil]
      exact made
    | true =>
      refine ⟨flushed, [.sync (answers flushedStream.calls.length)], made.trans ⟨rfl, rfl⟩,
        ⟨flushes.flushed, fun call member => ?_⟩, fun call member => ?_⟩
      · rw [List.mem_singleton.mp member]
        rfl
      · exact ⟨_, List.mem_singleton.mp member⟩

theorem close_extends (answers : ℕ → Answer) (s : StreamBuf) :
    ∃ flushed rest, Extends s (flushed ++ rest) (close answers s).2 ∧
      FlushesFirst s flushed rest ∧ ∀ call ∈ rest, ∃ answer, call = .close answer := by
  unfold close
  split_ifs with shut
  · exact ⟨[], [], .refl s, ⟨.inl rfl, List.forall_mem_nil _⟩, List.forall_mem_nil _⟩
  obtain ⟨flushed, made, flushes⟩ := flushPutArea_extends answers s
  cases answered : flushPutArea answers s with
  | mk ok flushedStream =>
    rw [answered] at made
    refine ⟨flushed, [.close (answers flushedStream.calls.length)], made.trans ⟨rfl, rfl⟩,
      ⟨flushes.flushed, fun call member => ?_⟩, fun call member => ?_⟩
    · rw [List.mem_singleton.mp member]
      rfl
    · exact ⟨_, List.mem_singleton.mp member⟩

/-- A seek flushes, and then asks for the seek and, if the file system can carry it out, for the
position. -/
theorem seekoff_extends (answers : ℕ → Answer) (offset : ℤ) (way : SeekDir) (which : Areas)
    (s : StreamBuf) :
    ∃ flushed rest, Extends s (flushed ++ rest) (seekoff answers offset way which s).2 ∧
      FlushesFirst s flushed rest ∧
      ∀ call ∈ rest, ∃ answer, call = .seek offset way answer ∨ call = .tell answer := by
  unfold seekoff
  split_ifs with shut areas
  · exact ⟨[], [], .refl s, ⟨.inl rfl, List.forall_mem_nil _⟩, List.forall_mem_nil _⟩
  · exact ⟨[], [], .refl s, ⟨.inl rfl, List.forall_mem_nil _⟩, List.forall_mem_nil _⟩
  obtain ⟨flushed, made, flushes⟩ := flushPutArea_extends answers s
  cases answered : flushPutArea answers s with
  | mk ok flushedStream =>
    rw [answered] at made
    have finish (rest : List FsCall)
        (kinds : ∀ call ∈ rest, ∃ answer, call = .seek offset way answer ∨ call = .tell answer) :
        FlushesFirst s flushed rest ∧
          ∀ call ∈ rest, ∃ answer, call = .seek offset way answer ∨ call = .tell answer := by
      refine ⟨⟨flushes.flushed, fun call member => ?_⟩, kinds⟩
      obtain ⟨answer, rfl | rfl⟩ := kinds call member
      · rfl
      · rfl
    -- The flush, the seek and the question for the position: each is made only after the one before
    -- succeeded.
    cases ok with
    | false =>
      refine ⟨flushed, [], ?_, finish [] (List.forall_mem_nil _)⟩
      rw [List.append_nil]
      exact made
    | true =>
      let given := answers flushedStream.calls.length
      let asked : StreamBuf := { flushedStream with
        calls := flushedStream.calls ++ [.seek offset way given] }
      have single : ∀ call ∈ [FsCall.seek offset way given], ∃ answer,
          call = .seek offset way answer ∨ call = .tell answer := by
        intro call member
        exact ⟨given, .inl (List.mem_singleton.mp member)⟩
      cases fails : given.fails with
      | true =>
        refine ⟨flushed, [.seek offset way given], ?_, finish _ single⟩
        simp only [given] at fails
        simp only [fails]
        refine made.trans ⟨rfl, ?_⟩
        simp [FsCall.apply, given, fails]
      | false =>
        cases moved : flushedStream.file.seek offset way with
        | none =>
          refine ⟨flushed, [.seek offset way given], ?_, finish _ single⟩
          simp only [given] at fails
          simp only [fails, moved]
          refine made.trans ⟨rfl, ?_⟩
          simp [FsCall.apply, moved]
        | some file =>
          refine ⟨flushed, [.seek offset way given, .tell (answers asked.calls.length)], ?_,
            finish _ fun call member => ?_⟩
          · simp only [given] at fails
            simp only [fails, moved]
            refine made.trans ⟨?_, ?_⟩
            · simp [asked, given]
            · simp [FsCall.apply, given, fails, moved]
          · rcases List.mem_cons.mp member with rfl | later
            · exact ⟨given, .inl rfl⟩
            · exact ⟨_, .inr (List.mem_singleton.mp later)⟩

/-- A seek that succeeds: the file is where the offset leads, with everything that was put. -/
theorem seekoff_eq_some {answers : ℕ → Answer} (sound : Sound bufferSize s) {offset : ℤ}
    {way : SeekDir} {which : Areas} {position : ℕ}
    (moved : seekoff answers offset way which s = (some position, after)) :
    s.intended.seek offset way = some after.file ∧ after.pending = [] ∧
      after.writeFailed = s.writeFailed ∧ after.isOpen = true := by
  unfold seekoff at moved
  by_cases shut : (!s.isOpen) = true
  · rw [if_pos shut] at moved
    cases moved
  rw [if_neg shut] at moved
  by_cases areas : (!(which.input || which.output)) = true
  · rw [if_pos areas] at moved
    cases moved
  rw [if_neg areas] at moved
  obtain ⟨-, flushed, nothing, succeeded, -⟩ := flushPutArea_spec answers sound.toConsistent
  cases answered : flushPutArea answers s with
  | mk ok flushedStream =>
    rw [answered] at moved flushed nothing succeeded
    cases ok with
    | false => cases moved
    | true =>
      have same : flushedStream.file = s.intended := by
        cases failed : s.writeFailed with
        | false =>
          have all := flushed.all ((succeeded rfl).trans failed)
          rwa [intended_of_pending nothing, File.write_nil] at all
        | true =>
          -- a latched stream has nothing pending
          have empty := sound.latched failed
          rw [flushPutArea, if_pos empty] at answered
          rw [intended_of_pending empty, (Prod.mk.inj answered).2]
      dsimp only at moved
      split at moved
      · rename_i file fails there
        obtain ⟨told, rfl⟩ := Prod.mk.inj moved
        rw [← same]
        refine ⟨there, nothing, succeeded rfl, ?_⟩
        rw [Bool.not_eq_true, Bool.not_eq_false'] at shut
        exact flushed.isOpen.trans shut
      · cases moved

/-! ### A file system that fails no call -/

/-- A stream all of whose calls succeeded. -/
def Faultless (s : StreamBuf) : Prop := ∀ call ∈ s.calls, call.succeeds = true

theorem Faultless.before (faultless : Faultless after) (history : s.calls <+: after.calls) :
    Faultless s :=
  fun call member => faultless call (history.subset member)

/-- A stream that was closed had the same calls before. -/
theorem Faultless.before_close {answers : ℕ → Answer}
    (faultless : Faultless (close answers s).2) : Faultless s := by
  obtain ⟨flushed, rest, made, -, -⟩ := close_extends answers s
  apply faultless.before
  rw [made.calls]
  exact List.prefix_append _ _

section Generous

variable {answers : ℕ → Answer} {most : ℕ}

/-- A file system that fails no call and takes writes up to a size. -/
def Generous (answers : ℕ → Answer) (most : ℕ) : Prop :=
  ∀ i, (answers i).fails = false ∧ most ≤ (answers i).taken

private theorem Faultless.concat (faultless : Faultless s) {calls : List FsCall}
    (extends_ : after.calls = s.calls ++ calls) (succeed : ∀ call ∈ calls, call.succeeds = true) :
    Faultless after := by
  intro call member
  rw [extends_] at member
  exact (List.mem_append.mp member).elim (faultless call) (succeed call)

private theorem Faultless.writeToFile (faultless : Faultless s) (generous : Generous answers most)
    {bytes : List UInt8} (small : bytes.length ≤ most) :
    Faultless (writeToFile answers bytes s).2 := by
  refine faultless.concat (writeToFile_extends answers bytes s).calls fun call member => ?_
  obtain ⟨accepts, takes⟩ := generous s.calls.length
  rw [List.mem_singleton.mp member, FsCall.succeeds, Answer.written, accepts,
    if_neg Bool.false_ne_true, min_eq_right (small.trans takes), beq_self_eq_true]

private theorem Faultless.flushPutArea (faultless : Faultless s)
    (generous : Generous answers most) (small : s.pending.length ≤ most) :
    Faultless (flushPutArea answers s).2 ∧ (flushPutArea answers s).2.pending = [] := by
  unfold StreamBuf.flushPutArea
  split_ifs with nothing
  · exact ⟨faultless, nothing⟩
  · exact ⟨faultless, rfl⟩
  · refine ⟨Faultless.writeToFile (s := { s with pending := [] }) faultless generous small, ?_⟩
    unfold StreamBuf.writeToFile
    dsimp only
    split_ifs
    · rfl
    · rfl

private theorem Faultless.fillPutArea (generous : Generous answers most)
    (bufferSmall : bufferSize ≤ most) (rounds : ℕ) (remaining : List UInt8) {s : StreamBuf}
    (faultless : Faultless s) (room : s.pending.length ≤ bufferSize) :
    Faultless (fillPutArea bufferSize answers rounds remaining s).2 := by
  -- On the rounds; what is flushed is never more than the put area holds.
  induction rounds generalizing remaining s with
  | zero => exact faultless
  | succ rounds ih =>
    rw [StreamBuf.fillPutArea]
    by_cases done : remaining = []
    · rw [if_pos done]
      exact faultless
    rw [if_neg done]
    dsimp only
    generalize chunk : min remaining.length (bufferSize - s.pending.length) = count
    have filledRoom : (s.pending ++ remaining.take count).length ≤ bufferSize := by
      rw [List.length_append, List.length_take]
      omega
    split_ifs with full
    · have flushed := Faultless.flushPutArea
        (s := { s with pending := s.pending ++ remaining.take count }) faultless generous
        (filledRoom.trans bufferSmall)
      generalize StreamBuf.flushPutArea answers _ = answer at flushed
      obtain ⟨ok, flushedStream⟩ := answer
      cases ok with
      | false => exact flushed.1
      | true =>
        refine ih (remaining.drop count) flushed.1 ?_
        rw [flushed.2]
        exact Nat.zero_le _
    · exact ih (remaining.drop count)
        (s := { s with pending := s.pending ++ remaining.take count }) faultless filledRoom

/-- Bytes that are not too many are put without a failure. -/
theorem Faultless.xsputn (faultless : Faultless s) (generous : Generous answers most)
    (bufferSmall : bufferSize ≤ most) (room : s.pending.length ≤ bufferSize) {bytes : List UInt8}
    (small : bytes.length ≤ most) : Faultless (xsputn bufferSize answers bytes s).2 := by
  unfold StreamBuf.xsputn
  split_ifs with refused unbuffered large
  · exact faultless
  · exact faultless.writeToFile generous small
  · have flushed := (faultless.flushPutArea generous (room.trans bufferSmall)).1
    generalize StreamBuf.flushPutArea answers s = answer at flushed
    obtain ⟨ok, flushedStream⟩ := answer
    cases ok with
    | false => exact flushed
    | true => exact flushed.writeToFile generous small
  · have filled := fillPutArea generous bufferSmall (bytes.length + 2) bytes faultless room
    generalize StreamBuf.fillPutArea bufferSize answers _ bytes s = answer at filled
    obtain ⟨ok, filledStream⟩ := answer
    cases ok with
    | false => exact filled
    | true => exact filled

theorem Faultless.sync (faultless : Faultless s) (generous : Generous answers most)
    (small : s.pending.length ≤ most) : Faultless (sync answers s).2 := by
  unfold StreamBuf.sync
  split_ifs
  · exact faultless
  have flushed := (faultless.flushPutArea generous small).1
  generalize StreamBuf.flushPutArea answers s = answer at flushed
  obtain ⟨ok, flushedStream⟩ := answer
  cases ok with
  | false => exact flushed
  | true =>
    refine flushed.concat rfl fun call member => ?_
    rw [List.mem_singleton.mp member, FsCall.succeeds, (generous _).1]
    rfl

theorem Faultless.seekoff (faultless : Faultless s) (generous : Generous answers most)
    (small : s.pending.length ≤ most) (offset : ℤ) (way : SeekDir) (which : Areas) :
    Faultless (seekoff answers offset way which s).2 := by
  unfold StreamBuf.seekoff
  split_ifs
  · exact faultless
  · exact faultless
  have flushed := (faultless.flushPutArea generous small).1
  generalize StreamBuf.flushPutArea answers s = answer at flushed
  obtain ⟨ok, flushedStream⟩ := answer
  cases ok with
  | false => exact flushed
  | true =>
    have sought :
        (FsCall.seek offset way (answers flushedStream.calls.length)).succeeds = true := by
      rw [FsCall.succeeds, (generous _).1]
      rfl
    dsimp only
    split
    · refine flushed.concat (List.append_assoc _ _ _) fun call member => ?_
      rcases List.mem_append.mp member with first | second
      · rw [List.mem_singleton.mp first]
        exact sought
      · rw [List.mem_singleton.mp second, FsCall.succeeds, (generous _).1]
        rfl
    · refine flushed.concat rfl fun call member => ?_
      rw [List.mem_singleton.mp member]
      exact sought

theorem Faultless.close (faultless : Faultless s) (generous : Generous answers most)
    (small : s.pending.length ≤ most) : Faultless (close answers s).2 := by
  unfold StreamBuf.close
  split_ifs
  · exact faultless
  have flushed := (faultless.flushPutArea generous small).1
  generalize StreamBuf.flushPutArea answers s = answer at flushed
  refine flushed.concat rfl fun call member => ?_
  rw [List.mem_singleton.mp member, FsCall.succeeds, (generous _).1]
  rfl

end Generous

/-! ### Histories -/

/-- The calls of a stream made its file of the one that was opened, and each write came after calls
with a property. -/
structure Traced (Start : List FsCall → Prop) (base : File) (s : StreamBuf) : Prop where
  file : s.file = replay base s.calls
  starts : ∀ earlier bytes answer later, s.calls = earlier ++ .write bytes answer :: later →
    Start earlier

variable {Start : List FsCall → Prop} {base : File}

theorem Traced.fresh (Start : List FsCall → Prop) (base : File) :
    Traced Start base { file := base } where
  file := rfl
  starts earlier bytes answer later split := by cases earlier <;> cases split

/-- More calls, each write of which comes after calls with the property. -/
theorem Traced.extends (traced : Traced Start base s) (made : Extends s calls after)
    (starts : ∀ earlier bytes answer later, calls = earlier ++ .write bytes answer :: later →
      Start (s.calls ++ earlier)) : Traced Start base after where
  file := by rw [made.file, made.calls, replay_append, ← traced.file]
  starts earlier bytes answer later split := by
    rw [made.calls] at split
    rcases List.append_eq_append_iff.mp split with ⟨between, rfl, new⟩ | ⟨between, old, new⟩
    · exact starts between bytes answer later new
    · cases between with
      | nil =>
        rw [List.append_nil] at old
        rw [← old]
        have first := starts [] bytes answer later new.symm
        rwa [List.append_nil] at first
      | cons call between =>
        obtain ⟨rfl, -⟩ := List.cons.inj new
        exact traced.starts earlier bytes answer between old

/-- A property of the file that writes keep holds before each write of calls without seeks. -/
theorem Traced.extends_still {Keeps : File → Prop}
    (traced : Traced (fun earlier => Keeps (replay base earlier)) base s)
    (made : Extends s calls after) (writes : ∀ file bytes, Keeps file → Keeps (file.write bytes))
    (still : ∀ offset way answer, FsCall.seek offset way answer ∉ calls) (start : Keeps s.file) :
    Traced (fun earlier => Keeps (replay base earlier)) base after ∧ Keeps after.file := by
  constructor
  · refine traced.extends made fun earlier bytes answer later split => ?_
    rw [replay_append, ← traced.file]
    apply replay_induction writes _ start
    intro offset way given member
    exact still offset way given (by rw [split]; exact List.mem_append_left _ member)
  · rw [made.file]
    exact replay_induction writes still start

/-- Calls that write nothing after the flush start only the flush. -/
theorem Traced.flushesFirst (traced : Traced Start base s)
    (made : Extends s (first ++ second) after) (flushes : FlushesFirst s first second)
    (start : s.pending ≠ [] → Start s.calls) : Traced Start base after := by
  refine traced.extends made fun earlier bytes answer later split => ?_
  rcases flushes.flushed with rfl | ⟨pending, given, rfl⟩
  · have member : FsCall.write bytes answer ∈ second := by
      rw [show second = earlier ++ .write bytes answer :: later from split]
      exact List.mem_append_right _ List.mem_cons_self
    cases flushes.rest _ member
  · cases earlier with
    | nil =>
      rw [List.append_nil]
      exact start pending
    | cons call earlier =>
      have member : FsCall.write bytes answer ∈ second := by
        rw [show second = earlier ++ .write bytes answer :: later from (List.cons.inj split).2]
        exact List.mem_append_right _ List.mem_cons_self
      cases flushes.rest _ member

/-- The property may be weakened. -/
theorem Traced.mono {Start' : List FsCall → Prop} (traced : Traced Start base s)
    (weaker : ∀ earlier, Start earlier → Start' earlier) : Traced Start' base s where
  file := traced.file
  starts earlier bytes answer later split :=
    weaker earlier (traced.starts earlier bytes answer later split)

end StreamBuf

end RtCore.Fs
