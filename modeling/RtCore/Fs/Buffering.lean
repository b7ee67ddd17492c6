import RtCore.Fs.StreamBuf

/-!
# Buffering is invisible

What is written through `FsServiceStreamBuf` is compared with a stream that has no buffer: every
byte goes to the file at once. The bytes of the put area belong to the position at which the
unbuffered stream has already written them, so the two agree as soon as the put area is empty, and a
seek, a sync and a close empty it.

## Main definitions

* `StreamOp`, `Reply` — the operations of a stream and what they return
* `DirectStream.perform` — a stream that writes every byte at once
* `Follows` — a buffered stream that has accepted what an unbuffered one has written

## Main results

* `perform_follows` — what one operation preserves
* `run_follows` — what a sequence of operations preserves
* `buffering_invisible` — the two streams return the same and leave the same file
-/

namespace RtCore.Fs

/-- The areas that a seek is for, at least one. -/
abbrev SeekAreas := { which : Areas // (which.input || which.output) = true }

/-- An operation of a stream opened for writing. -/
inductive StreamOp where
  | sputc (byte : UInt8)
  | sputn (bytes : List UInt8)
  | seekoff (offset : ℤ) (way : SeekDir) (which : SeekAreas)
  | seekpos (offset : ℤ) (which : SeekAreas)
  | sync
  | close
  deriving DecidableEq, Repr

/-- Whether an operation leaves nothing in the put area. -/
def StreamOp.flushes : StreamOp → Bool
  | sputc _ | sputn _ => false
  | seekoff _ _ _ | seekpos _ _ | sync | close => true

/-- What an operation returns. -/
inductive Reply where
  | character (accepted : Bool)
  | count (accepted : ℕ)
  | position (place : Option ℕ)
  | status (ok : Bool)
  deriving DecidableEq, Repr

/-- The bytes that an operation accepted. -/
def Reply.accepted : Reply → ℕ
  | character accepted => if accepted then 1 else 0
  | count accepted => accepted
  | position _ | status _ => 0

/-- The operations in their order, with what they return. -/
def runOps {σ : Type*} (perform : StreamOp → σ → Reply × σ) : List StreamOp → σ → List Reply × σ
  | [], s => ([], s)
  | op :: ops, s =>
    let (reply, s) := perform op s
    let (replies, s) := runOps perform ops s
    (reply :: replies, s)

theorem runOps_cons {σ : Type*} (perform : StreamOp → σ → Reply × σ) (op : StreamOp)
    (ops : List StreamOp) (s : σ) :
    runOps perform (op :: ops) s =
      ((perform op s).1 :: (runOps perform ops (perform op s).2).1,
        (runOps perform ops (perform op s).2).2) := rfl

/-- An operation of `FsServiceStreamBuf`. -/
def StreamBuf.perform (bufferSize : ℕ) (answers : ℕ → Answer) (op : StreamOp) (s : StreamBuf) :
    Reply × StreamBuf :=
  match op with
  | .sputc byte =>
    let (accepted, s) := StreamBuf.sputc bufferSize answers byte s
    (.character accepted, s)
  | .sputn bytes =>
    let (accepted, s) := StreamBuf.xsputn bufferSize answers bytes s
    (.count accepted, s)
  | .seekoff offset way which =>
    let (place, s) := StreamBuf.seekoff answers offset way which s
    (.position place, s)
  | .seekpos offset which =>
    let (place, s) := StreamBuf.seekpos answers offset which s
    (.position place, s)
  | .sync =>
    let (ok, s) := StreamBuf.sync answers s
    (.status ok, s)
  | .close =>
    let (ok, s) := StreamBuf.close answers s
    (.status ok, s)

/-- A stream without a buffer. -/
structure DirectStream where
  file : File
  isOpen : Bool := true
  deriving DecidableEq, Repr

/-- A seek of a stream without a buffer. -/
def DirectStream.seek (offset : ℤ) (way : SeekDir) (s : DirectStream) : Reply × DirectStream :=
  if !s.isOpen then (.position none, s)
  else
    match s.file.seek offset way with
    | none => (.position none, s)
    | some file => (.position file.position, { s with file := file })

/-- An operation of a stream without a buffer: what is written is in the file at once. -/
def DirectStream.perform (op : StreamOp) (s : DirectStream) : Reply × DirectStream :=
  match op with
  | .sputc byte =>
    if s.isOpen then (.character true, { s with file := s.file.put byte })
    else (.character false, s)
  | .sputn bytes =>
    if s.isOpen then (.count bytes.length, { s with file := s.file.write bytes })
    else (.count 0, s)
  | .seekoff offset way _ => s.seek offset way
  | .seekpos offset _ => s.seek offset .beginning
  | .sync => (.status s.isOpen, s)
  | .close => (.status true, { s with isOpen := false })

/-- The buffered stream has accepted what the unbuffered one has written. -/
structure Follows (bufferSize : ℕ) (s : StreamBuf) (d : DirectStream) : Prop where
  sound : s.Sound bufferSize
  intended : s.intended = d.file
  isOpen : s.isOpen = d.isOpen

namespace Follows

variable {bufferSize : ℕ} {s after : StreamBuf} {d : DirectStream}

theorem opened (bufferSize : ℕ) (file : File) :
    Follows bufferSize { file := file } { file := file } where
  sound := .opened bufferSize file
  intended := rfl
  isOpen := rfl

/-- The file of a stream with an empty put area is that of the unbuffered stream. -/
theorem file_eq (follows : Follows bufferSize s d) (empty : s.pending = []) :
    s.file = d.file := by
  rw [← follows.intended, StreamBuf.intended_of_pending empty]

/-- A closed stream stays as it is. -/
theorem pending_eq_nil (follows : Follows bufferSize s d) (shut : d.isOpen = false) :
    s.pending = [] :=
  follows.sound.closed (follows.isOpen.trans shut)

/-- Bytes accepted by one stream and written by the other. -/
theorem puts (follows : Follows bufferSize s d) {bytes : List UInt8}
    (sound : after.Sound bufferSize) (puts : s.Puts bytes after)
    (going : after.writeFailed = false) :
    Follows bufferSize after { d with file := d.file.write bytes } where
  sound := sound
  intended := by rw [puts.all going, follows.intended]
  isOpen := puts.isOpen.trans follows.isOpen

end Follows

/-! ### One operation -/

/-- The streams agree after an operation: they return the same, the bytes accepted are counted, and
the put area is empty if the operation flushes it. -/
structure Agrees (bufferSize : ℕ) (op : StreamOp) (s : StreamBuf) (result : Reply × StreamBuf)
    (expected : Reply × DirectStream) : Prop where
  reply : result.1 = expected.1
  follows : Follows bufferSize result.2 expected.2
  counted : result.2.getBytesWritten = s.getBytesWritten + result.1.accepted
  flushed : op.flushes = true → result.2.pending = []

section Operations

variable {bufferSize : ℕ} {s : StreamBuf} {d : DirectStream} (answers : ℕ → Answer)

/-- Every operation keeps a stream sound and adds to the calls made so far. -/
theorem perform_sound (sound : s.Sound bufferSize) (op : StreamOp) :
    (StreamBuf.perform bufferSize answers op s).2.Sound bufferSize ∧
      s.calls <+: (StreamBuf.perform bufferSize answers op s).2.calls := by
  cases opened : s.isOpen with
  | false =>
    -- A closed stream does nothing.
    have same : (StreamBuf.perform bufferSize answers op s).2 = s := by
      cases op with
      | sputc byte =>
        simp [StreamBuf.perform, StreamBuf.sputc, StreamBuf.overflow, opened]
      | sputn bytes => simp [StreamBuf.perform, StreamBuf.xsputn, opened]
      | seekoff offset way which => simp [StreamBuf.perform, StreamBuf.seekoff, opened]
      | seekpos offset which =>
        simp [StreamBuf.perform, StreamBuf.seekpos, StreamBuf.seekoff, opened]
      | sync => simp [StreamBuf.perform, StreamBuf.sync, opened]
      | close => simp [StreamBuf.perform, StreamBuf.close, opened]
    rw [same]
    exact ⟨sound, List.prefix_refl _⟩
  | true =>
    cases op with
    | sputc byte =>
      obtain ⟨after, puts, -⟩ := StreamBuf.sputc_spec answers sound opened byte
      exact ⟨after, puts.history⟩
    | sputn bytes =>
      obtain ⟨after, puts, -⟩ := StreamBuf.xsputn_spec answers sound opened bytes
      exact ⟨after, puts.history⟩
    | seekoff offset way which =>
      obtain ⟨after, -, -, history, -⟩ :=
        StreamBuf.seekoff_spec answers sound opened offset way which.2
      exact ⟨after, history⟩
    | seekpos offset which =>
      obtain ⟨after, -, -, history, -⟩ :=
        StreamBuf.seekoff_spec answers sound opened offset .beginning which.2
      exact ⟨after, history⟩
    | sync =>
      obtain ⟨after, puts, -⟩ := StreamBuf.sync_spec answers sound
      exact ⟨after, puts.history⟩
    | close =>
      obtain ⟨after, -, -, history, -⟩ := StreamBuf.close_spec answers sound opened
      exact ⟨after, history⟩

/-- A closed stream answers every operation as the unbuffered one does. -/
private theorem closed_agrees (follows : Follows bufferSize s d) (shut : d.isOpen = false)
    (op : StreamOp) :
    Agrees bufferSize op s (StreamBuf.perform bufferSize answers op s) (d.perform op) := by
  have shut' : s.isOpen = false := follows.isOpen.trans shut
  have nothing : op.flushes = true → s.pending = [] := fun _ => follows.pending_eq_nil shut
  have result : StreamBuf.perform bufferSize answers op s = ((d.perform op).1, s) ∧
      (d.perform op).2 = d ∧ (d.perform op).1.accepted = 0 := by
    cases op with
    | sputc byte =>
      simp [StreamBuf.perform, StreamBuf.sputc, StreamBuf.overflow, DirectStream.perform,
        Reply.accepted, shut, shut']
    | sputn bytes =>
      simp [StreamBuf.perform, StreamBuf.xsputn, DirectStream.perform, Reply.accepted, shut, shut']
    | seekoff offset way which =>
      simp [StreamBuf.perform, StreamBuf.seekoff, DirectStream.perform, DirectStream.seek,
        Reply.accepted, shut, shut']
    | seekpos offset which =>
      simp [StreamBuf.perform, StreamBuf.seekpos, StreamBuf.seekoff, DirectStream.perform,
        DirectStream.seek, Reply.accepted, shut, shut']
    | sync =>
      simp [StreamBuf.perform, StreamBuf.sync, DirectStream.perform, Reply.accepted, shut, shut']
    | close =>
      have same : { d with isOpen := false } = d := by rw [← shut]
      simp [StreamBuf.perform, StreamBuf.close, DirectStream.perform, Reply.accepted, shut', same]
  obtain ⟨value, same, none_accepted⟩ := result
  refine ⟨by rw [value], ?_, ?_, ?_⟩
  · rw [value, same]
    exact follows
  · rw [value, none_accepted]
    rfl
  · rw [value]
    exact nothing

/-- A seek leads an open stream to where it leads the unbuffered one. -/
private theorem seek_agrees (follows : Follows bufferSize s d) (opened : d.isOpen = true)
    (offset : ℤ) (way : SeekDir) (which : SeekAreas)
    (succeeds : ∀ call ∈ (StreamBuf.seekoff answers offset way which s).2.calls,
      call.succeeds = true) :
    let result := StreamBuf.seekoff answers offset way which s
    Reply.position result.1 = (d.seek offset way).1 ∧
      Follows bufferSize result.2 (d.seek offset way).2 ∧
      result.2.getBytesWritten = s.getBytesWritten ∧ result.2.pending = [] := by
  intro result
  obtain ⟨sound, isOpen, nothing, -, -, counted, moved⟩ :=
    StreamBuf.seekoff_spec answers follows.sound (follows.isOpen.trans opened) offset way which.2
  obtain ⟨place, file⟩ := moved succeeds
  have going := sound.not_failed succeeds
  rw [follows.intended] at place file
  have expected : d.seek offset way =
      (.position ((d.file.seek offset way).map File.position),
        { d with file := (d.file.seek offset way).getD d.file }) := by
    rw [DirectStream.seek, if_neg (by simp [opened])]
    cases d.file.seek offset way with
    | none => rfl
    | some file => rfl
  rw [expected]
  refine ⟨congrArg Reply.position place, ⟨sound, ?_, isOpen.trans opened.symm⟩,
    (counted going).1, nothing⟩
  rw [StreamBuf.intended_of_pending nothing, file]

/-- Where the file system carries out every call, an operation does what the unbuffered stream
does. -/
theorem perform_follows (follows : Follows bufferSize s d) (op : StreamOp)
    (succeeds : ∀ call ∈ (StreamBuf.perform bufferSize answers op s).2.calls,
      call.succeeds = true) :
    Agrees bufferSize op s (StreamBuf.perform bufferSize answers op s) (d.perform op) := by
  cases shut : d.isOpen with
  | false => exact closed_agrees answers follows shut op
  | true =>
    have opened : s.isOpen = true := follows.isOpen.trans shut
    -- No call failed so far, so the stream is not latched; each operation keeps it so.
    have going : s.writeFailed = false := by
      apply follows.sound.not_failed
      intro call member
      exact succeeds call ((perform_sound answers follows.sound op).2.subset member)
    cases op with
    | sputc byte =>
      obtain ⟨sound, puts, success⟩ := StreamBuf.sputc_spec answers follows.sound opened byte
      have going' := sound.not_failed succeeds
      have accepted := success.mpr going'
      have expected : d.perform (.sputc byte) =
          (.character true, { d with file := d.file.write [byte] }) := if_pos shut
      rw [expected]
      refine ⟨congrArg Reply.character accepted, follows.puts sound puts going', ?_, nofun⟩
      rw [show (StreamBuf.perform bufferSize answers (.sputc byte) s).1 = .character true from
        congrArg Reply.character accepted]
      exact puts.counted going'
    | sputn bytes =>
      obtain ⟨sound, puts, success⟩ := StreamBuf.xsputn_spec answers follows.sound opened bytes
      have going' := sound.not_failed succeeds
      have accepted := (success going).mpr going'
      have expected : d.perform (.sputn bytes) =
          (.count bytes.length, { d with file := d.file.write bytes }) := if_pos shut
      rw [expected]
      refine ⟨congrArg Reply.count accepted, follows.puts sound puts going', ?_, nofun⟩
      rw [show (StreamBuf.perform bufferSize answers (.sputn bytes) s).1 = .count bytes.length from
        congrArg Reply.count accepted]
      exact puts.counted going'
    | seekoff offset way which =>
      obtain ⟨reply, follows', counted, nothing⟩ :=
        seek_agrees answers follows shut offset way which succeeds
      exact ⟨reply, follows', counted, fun _ => nothing⟩
    | seekpos offset which =>
      obtain ⟨reply, follows', counted, nothing⟩ :=
        seek_agrees answers follows shut offset .beginning which succeeds
      exact ⟨reply, follows', counted, fun _ => nothing⟩
    | sync =>
      obtain ⟨sound, puts, flushed, -⟩ := StreamBuf.sync_spec answers follows.sound
      have going' := sound.not_failed succeeds
      obtain ⟨nothing, before, answer, calls, ok⟩ := flushed opened going'
      have done : answer.fails = false := by
        have last := succeeds (.sync answer)
          (calls ▸ List.mem_append_right _ (List.mem_singleton.mpr rfl))
        simpa [FsCall.succeeds] using last
      have synced : (StreamBuf.sync answers s).1 = d.isOpen := by rw [ok, done, shut]; rfl
      refine ⟨congrArg Reply.status synced, ?_, puts.counted going', fun _ => nothing⟩
      exact follows.puts sound puts going'
    | close =>
      obtain ⟨sound, isOpen, nothing, -, -, same, success⟩ :=
        StreamBuf.close_spec answers follows.sound opened
      have going' := sound.not_failed succeeds
      obtain ⟨counted, file⟩ := same going'
      refine ⟨congrArg Reply.status (success succeeds), ⟨sound, ?_, isOpen⟩, counted,
        fun _ => nothing⟩
      exact (StreamBuf.intended_of_pending nothing).trans (file.trans follows.intended)

end Operations

/-! ### Sequences of operations -/

section Runs

variable {bufferSize : ℕ} {s : StreamBuf} {d : DirectStream} (answers : ℕ → Answer)

/-- A sequence adds to the calls made so far. -/
theorem run_history (sound : s.Sound bufferSize) (ops : List StreamOp) :
    s.calls <+: (runOps (StreamBuf.perform bufferSize answers) ops s).2.calls := by
  induction ops generalizing s with
  | nil => exact List.prefix_refl _
  | cons op ops ih =>
    obtain ⟨after, history⟩ := perform_sound answers sound op
    exact history.trans (ih after)

/-- Where the file system carries out every call, a sequence of operations does what it does to the
unbuffered stream. -/
theorem run_follows (follows : Follows bufferSize s d) (ops : List StreamOp)
    (succeeds : ∀ call ∈ (runOps (StreamBuf.perform bufferSize answers) ops s).2.calls,
      call.succeeds = true) :
    let result := runOps (StreamBuf.perform bufferSize answers) ops s
    let expected := runOps DirectStream.perform ops d
    result.1 = expected.1 ∧ Follows bufferSize result.2 expected.2 ∧
      result.2.getBytesWritten = s.getBytesWritten + (result.1.map Reply.accepted).sum ∧
      ∀ op, ops.getLast? = some op → op.flushes = true → result.2.pending = [] := by
  induction ops generalizing s d with
  | nil => exact ⟨rfl, follows, rfl, nofun⟩
  | cons op ops ih =>
    rw [runOps_cons] at succeeds
    rw [runOps_cons, runOps_cons]
    let middle := StreamBuf.perform bufferSize answers op s
    obtain ⟨sound, -⟩ := perform_sound answers follows.sound op
    -- The calls of the first operation are among those of the whole sequence.
    have first : ∀ call ∈ middle.2.calls, call.succeeds = true := fun call member =>
      succeeds call ((run_history answers sound ops).subset member)
    have step := perform_follows answers follows op first
    obtain ⟨replies, follows', counted, flushed⟩ := ih step.follows succeeds
    refine ⟨?_, follows', ?_, ?_⟩
    · exact congrArg₂ List.cons step.reply replies
    · rw [List.map_cons, List.sum_cons, counted, step.counted, Nat.add_assoc]
    · intro last found flushes
      cases ops with
      | nil =>
        obtain rfl : op = last := Option.some.inj found
        exact step.flushed flushes
      | cons next ops => exact flushed last (by simpa using found) flushes

/-- Stream buffering is invisible, on a file that is empty or one whose writes go to its end: where
the file system carries out every call, each operation returns what it returns without a buffer, the
bytes counted are the bytes accepted, and after a seek, a sync or a close the file is the one that
is written without a buffer. -/
theorem buffering_invisible (bufferSize : ℕ) (file : File) (ops : List StreamOp)
    (succeeds : ∀ call ∈
      (runOps (StreamBuf.perform bufferSize answers) ops { file := file }).2.calls,
      call.succeeds = true) :
    let buffered := runOps (StreamBuf.perform bufferSize answers) ops { file := file }
    let direct := runOps DirectStream.perform ops { file := file }
    buffered.1 = direct.1 ∧
      buffered.2.getBytesWritten = (buffered.1.map Reply.accepted).sum ∧
      ∀ op, ops.getLast? = some op → op.flushes = true →
        buffered.2.file.data = direct.2.file.data ∧
          buffered.2.file.position = direct.2.file.position := by
  intro buffered direct
  obtain ⟨replies, follows, counted, flushed⟩ :=
    run_follows answers (.opened bufferSize file) ops succeeds
  refine ⟨replies, counted.trans (Nat.zero_add _), fun op last flushes => ?_⟩
  rw [follows.file_eq (flushed op last flushes)]
  exact ⟨rfl, rfl⟩

/-- Five bytes through a buffer of four, one of them overwritten, and one put between the end and a
gap. -/
theorem buffering_invisible_session :
    let answers : ℕ → Answer := fun _ => ⟨100, false⟩
    let anywhere : SeekAreas := ⟨{}, rfl⟩
    let ops : List StreamOp := [.sputn [1, 2, 3], .sputc 4, .sputc 5,
      .seekoff 1 .beginning anywhere, .sputc 9, .seekoff 2 .ending anywhere,
      .sputn [7, 7, 7, 7, 7], .sync]
    let buffered := runOps (StreamBuf.perform 4 answers) ops { file := {} }
    buffered.1 = (runOps DirectStream.perform ops { file := {} }).1 ∧
      buffered.2.getBytesWritten = 11 ∧
      buffered.2.file.data = [1, 9, 3, 4, 5, 0, 0, 7, 7, 7, 7, 7] := by
  intro answers anywhere ops buffered
  obtain ⟨replies, counted, same⟩ :=
    buffering_invisible answers 4 {} ops (by decide)
  refine ⟨replies, counted.trans (by decide), ?_⟩
  rw [(same .sync rfl rfl).1]
  decide

end Runs

end RtCore.Fs
