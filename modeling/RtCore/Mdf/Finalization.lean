import RtCore.Fs.CallHistory
import RtCore.Mdf.Recorder

/-!
# A log file on a file system that may fail

The recorder writes through a buffered stream, whose writes may fail or fall short long after the
bytes were accepted. While the file is recorded nothing goes over the identifier block; only the
last step of a finalization does, and what it rewrites is covered by everything before: the lengths
and counts are in the file, behind a sync, and no write was incomplete.

## Main definitions

* `streamBuf` — a buffered stream as the stream of a file
* `image` — the contents of a file from its identifier, its blocks and its data
* `Recorded` — a history of calls that left a whole file, still marked as unfinalized
* `Recording`, `Quiet` — the stream while samples are taken, and when nothing more is put
* `Mdf4Structure.readFile` — what a reader makes of a finalized file

## Main results

* `Recording.writeHeader`, `Recording.takes` — a header starts the recording, a writer continues it
* `finalizeToStream_spec` — a finalization puts the identifier over a recorded file, and when it
  returns the file is whole and marked as finalized
* `readFile_wholeImage` — a whole file says what its samples say
-/

namespace RtCore.Mdf

open RtCore.Foundation RtCore.Fs Description

/-- A `FsServiceStreamBuf` as the stream of a file. -/
def streamBuf (bufferSize : ℕ) (answers : ℕ → Answer) : OutputStream StreamBuf where
  put stream bytes :=
    let result := StreamBuf.xsputn bufferSize answers bytes stream
    (result.1 = bytes.length, result.2)
  seekpos address stream :=
    let result := StreamBuf.seekpos answers address { input := false } stream
    (result.1.isSome, result.2)
  seekEnd stream :=
    let result := StreamBuf.seekoff answers 0 .ending { input := false } stream
    (result.1.isSome, result.2)
  sync stream := StreamBuf.sync answers stream

/-! ### The contents of a file -/

section Image

variable (f : Description)

/-- The blocks of a header, each with contents of its own. -/
def headerWith (contents : Block → Contents) : List UInt8 :=
  (blockOrder f).flatMap fun b =>
    f.bytes (contents b) (addressIn f.serializedSize (blockOrder f)) b

/-- A file with an identifier, blocks and data. -/
def image (identifier : List UInt8) (contents : Block → Contents) (data : List UInt8) :
    List UInt8 :=
  identifier ++ headerWith f contents ++ data

variable {f}

/-- A block is at its address, and another version of it may take its place. -/
private theorem image_split {b : Block} (inside : b ∈ blockOrder f) (contents : Block → Contents)
    {identifier : List UInt8} (size : identifier.length = idBlockSize) (data : List UInt8) :
    ∃ before after, before.length = addressIn f.serializedSize (blockOrder f) b ∧
      ∀ version, image f identifier (Function.update contents b version) data =
        before ++ f.bytes version (addressIn f.serializedSize (blockOrder f)) b ++ after := by
  obtain ⟨front, rest, split⟩ := List.append_of_mem inside
  have place := (layout_blockOrder (f := f) { startTimeNs := 0 }).contiguous front b rest split
  have distinct := blockOrder_nodup (f := f)
  rw [split] at distinct
  obtain ⟨frontDistinct, restDistinct, apart⟩ := List.nodup_append.mp distinct
  generalize address_eq : addressIn f.serializedSize (blockOrder f) = address at place ⊢
  -- the other blocks do not see the change
  have same (version : Contents) {blocks : List Block} (fresh : b ∉ blocks) :
      blocks.flatMap (fun other => f.bytes (Function.update contents b version other) address
        other) = blocks.flatMap fun other => f.bytes (contents other) address other := by
    apply List.flatMap_congr
    intro other member
    have different : other ≠ b := fun equal => fresh (equal ▸ member)
    rw [Function.update_of_ne different]
  have freshFront : b ∉ front := fun member => apart b member b List.mem_cons_self rfl
  refine ⟨identifier ++ front.flatMap fun other => f.bytes (contents other) address other,
    (rest.flatMap fun other => f.bytes (contents other) address other) ++ data, ?_,
    fun version => ?_⟩
  · rw [List.length_append, size, place, List.length_flatMap]
    simp only [length_bytes]
  · rw [image, headerWith, address_eq, split, List.flatMap_append, List.flatMap_cons,
      same version freshFront, same version (List.nodup_cons.mp restDistinct).1,
      Function.update_self]
    simp only [List.append_assoc]

private theorem linkBytes_of_serializeLinks {address : Block → ℕ} {links : List (Option Block)}
    {bytes : List UInt8} (serialized : serializeLinks address links = some bytes) :
    bytes = linkBytes address links := by
  induction links generalizing bytes with
  | nil => exact (Option.some.inj serialized).symm
  | cons link links ih =>
    cases link with
    | none =>
      obtain ⟨rest, others, rfl⟩ := Option.map_eq_some_iff.mp serialized
      rw [ih others]
      rfl
    | some b =>
      rw [serializeLinks] at serialized
      split_ifs at serialized
      obtain ⟨rest, others, rfl⟩ := Option.map_eq_some_iff.mp serialized
      rw [ih others]
      rfl

private theorem eq_bytes_of_serialize {contents : Contents} {address : Block → ℕ} {b : Block}
    {data : List UInt8} (serialized : f.serialize contents address b = some data) :
    data = f.bytes contents address b := by
  obtain ⟨links, linked, rfl⟩ := Option.map_eq_some_iff.mp serialized
  rw [linkBytes_of_serializeLinks linked, Description.bytes]

/-- The blocks that change after the header. -/
def counted (f : Description) : List Block := .data :: (List.range f.groups.length).map .group

/-- Once the blocks with counters are rewritten, all blocks have their last contents. -/
private theorem headerWith_counted (f : Description) {before after : Contents}
    (sameStart : before.startTimeNs = after.startTimeNs) :
    headerWith f (fun b => if b ∈ counted f then after else before) =
      headerWith f fun _ => after := by
  apply List.flatMap_congr
  intro b _
  dsimp only
  by_cases member : b ∈ counted f
  · rw [if_pos member]
  rw [if_neg member]
  -- the others have the start time only
  have bytes (payload : f.payload before b = f.payload after b) (other : b ≠ .data) :
      f.bytes before (addressIn f.serializedSize (blockOrder f)) b =
        f.bytes after (addressIn f.serializedSize (blockOrder f)) b := by
    rw [Description.bytes, Description.bytes, blockSize, blockSize, if_neg other, if_neg other,
      payload]
  cases b with
  | data => exact absurd List.mem_cons_self member
  | group i =>
    refine bytes ?_ (by simp)
    have outside : f.groups[i]? = none := by
      apply List.getElem?_eq_none
      by_contra inside
      apply member
      apply List.mem_cons_of_mem
      exact List.mem_map_of_mem (List.mem_range.mpr (Nat.lt_of_not_le inside))
    simp [payload, outside]
  | header | fileHistory =>
    refine bytes ?_ (by simp)
    simp only [payload, sameStart]
  | _ => exact bytes rfl (by simp)

end Image

/-! ### Histories of a file -/

section Recording

variable {bufferSize : ℕ} {answers : ℕ → Answer} {s : Mdf4Structure} {toFloat : UInt64 → UInt32}
  {startTimeNs : ℕ} {samples : List Sample} {r : Mdf4Recorder} {stream : StreamBuf}

/-- The last contents of a file with samples. -/
def finalContents (s : Mdf4Structure) (toFloat : UInt64 → UInt32) (startTimeNs : ℕ)
    (samples : List Sample) : Contents where
  startTimeNs := startTimeNs
  counters := (Log.ofSamples s toFloat samples).counters
  dataSizeBytes := ((Log.ofSamples s toFloat samples).bytes s.options.recordIdSizeBytes).length

/-- A file with samples, whole but for its identifier. -/
def wholeImage (s : Mdf4Structure) (toFloat : UInt64 → UInt32) (startTimeNs : ℕ)
    (samples : List Sample) (identifier : List UInt8) : List UInt8 :=
  image s.description identifier (fun _ => finalContents s toFloat startTimeNs samples)
    ((Log.ofSamples s toFloat samples).bytes s.options.recordIdSizeBytes)

/-- Calls on a new file that left it whole and marked as unfinalized: no write was incomplete, and
the last one lies behind a sync. -/
structure Recorded (s : Mdf4Structure) (toFloat : UInt64 → UInt32) (startTimeNs : ℕ)
    (samples : List Sample) (calls : List FsCall) : Prop where
  complete : ∀ call ∈ calls, call.isIncomplete = false
  synced : ∃ before answer after, calls = before ++ .sync answer :: after ∧
    answer.fails = false ∧ ∀ call ∈ after, call.isWrite = false
  data : (replay {} calls).data =
    wholeImage s toFloat startTimeNs samples (idBlockBytes false unfinalizedFlags)

/-- Calls on a new file that left it whole and marked as finalized, behind a sync. -/
structure Finalized (s : Mdf4Structure) (toFloat : UInt64 → UInt32) (startTimeNs : ℕ)
    (samples : List Sample) (calls : List FsCall) : Prop where
  complete : ∀ call ∈ calls, call.isIncomplete = false
  synced : ∃ before answer after, calls = before ++ .sync answer :: after ∧
    answer.fails = false ∧ ∀ call ∈ after, call.isWrite = false
  data : (replay {} calls).data =
    wholeImage s toFloat startTimeNs samples (idBlockBytes true 0)

/-- The next write goes over the identifier block. -/
def OverIdentifier (calls : List FsCall) : Prop :=
  (replay {} calls).position < idBlockSize ∧ idBlockSize ≤ (replay {} calls).data.length

/-- What must hold before a write: one over the identifier block finds a recorded file. -/
def Guarded (s : Mdf4Structure) (toFloat : UInt64 → UInt32) (startTimeNs : ℕ)
    (samples : List Sample) (calls : List FsCall) : Prop :=
  OverIdentifier calls → Recorded s toFloat startTimeNs samples calls

/-- A file whose next write does not go over the identifier block. -/
structure Clear (file : File) : Prop where
  placed : file.append = false
  place : file.data.length ≤ file.position ∨ idBlockSize ≤ file.position

private theorem Clear.write {file : File} (clear : Clear file) (bytes : List UInt8) :
    Clear (file.write bytes) where
  placed := (File.append_write bytes).trans clear.placed
  place := by
    rcases clear.place with behind | past
    · exact .inl (File.length_data_write_le clear.placed behind bytes)
    · right
      rw [File.position_write clear.placed]
      exact past.trans (Nat.le_add_right _ _)

private theorem Clear.guarded {calls : List FsCall} (clear : Clear (replay {} calls)) :
    Guarded s toFloat startTimeNs samples calls := by
  rintro ⟨before, after⟩
  rcases clear.place with behind | past
  · omega
  · omega

/-- A stream that takes samples: it holds a file that grows at its end, unless a write was
incomplete. -/
structure Stays (bufferSize : ℕ) (data : List UInt8) (stream : StreamBuf) : Prop where
  sound : StreamBuf.Sound bufferSize stream
  isOpen : stream.isOpen = true
  traced : StreamBuf.Traced (fun earlier => Clear (replay {} earlier)) {} stream
  clear : Clear stream.file
  intended : stream.writeFailed = false → stream.intended.data = data

/-- A stream to which nothing more is put. -/
structure Quiet (bufferSize : ℕ) (Start : List FsCall → Prop) (stream : StreamBuf) : Prop where
  sound : StreamBuf.Sound bufferSize stream
  traced : StreamBuf.Traced Start {} stream
  pending : stream.pending ≠ [] → Start stream.calls

private theorem isWrite_ne_seek {calls : List FsCall}
    (onlyWrites : ∀ call ∈ calls, call.isWrite = true) :
    ∀ offset way answer, FsCall.seek offset way answer ∉ calls := by
  intro offset way answer member
  cases onlyWrites _ member

/-- Putting bytes. -/
private theorem Stays.put (answers : ℕ → Answer) {data : List UInt8}
    (stays : Stays bufferSize data stream) (bytes after : List UInt8)
    (lands : stream.writeFailed = false → (stream.intended.write bytes).data = after) :
    Stays bufferSize after ((streamBuf bufferSize answers).put stream bytes).2 ∧
      (((streamBuf bufferSize answers).put stream bytes).2.writeFailed = false →
        stream.writeFailed = false ∧ ((streamBuf bufferSize answers).put stream bytes).2.intended =
          stream.intended.write bytes) ∧
      (((streamBuf bufferSize answers).put stream bytes).1 = false →
        ((streamBuf bufferSize answers).put stream bytes).2.writeFailed = true) := by
  obtain ⟨sound, puts, success⟩ := StreamBuf.xsputn_spec answers stays.sound stays.isOpen bytes
  obtain ⟨made, more, onlyWrites⟩ :=
    StreamBuf.xsputn_extends bufferSize answers bytes stream
  obtain ⟨traced, clear⟩ := stays.traced.extends_still more (fun _ bytes clear => clear.write bytes)
    (isWrite_ne_seek onlyWrites) stays.clear
  have intact (still : (StreamBuf.xsputn bufferSize answers bytes stream).2.writeFailed = false) :
      stream.writeFailed = false := by
    cases failed : stream.writeFailed with
    | false => rfl
    | true =>
      rw [(puts.sticky failed).1] at still
      cases still
  refine ⟨⟨sound, puts.isOpen.trans stays.isOpen, traced, clear, fun still => ?_⟩,
    fun still => ⟨intact still, puts.all still⟩, fun refused => ?_⟩
  · exact (congrArg File.data (puts.all still)).trans (lands (intact still))
  · cases failed : stream.writeFailed with
    | true => exact (puts.sticky failed).1
    | false =>
      have short := decide_eq_false_iff_not.mp refused
      exact (Bool.not_eq_false _).mp fun still => short ((success failed).mpr still)

/-- A stream that is latched holds any file, as far as its promises go. -/
private theorem Stays.latched {data : List UInt8} (stays : Stays bufferSize data stream)
    (failed : stream.writeFailed = true) (other : List UInt8) : Stays bufferSize other stream where
  sound := stays.sound
  isOpen := stays.isOpen
  traced := stays.traced
  clear := stays.clear
  intended still := by
    rw [failed] at still
    cases still

/-- A stream that only grows the file at its end. -/
structure AtEnd (bufferSize : ℕ) (data : List UInt8) (stream : StreamBuf) : Prop
    extends Stays bufferSize data stream where
  atEnd : stream.writeFailed = false → stream.intended.position = data.length

private theorem AtEnd.put (answers : ℕ → Answer) {data : List UInt8}
    (atEnd : AtEnd bufferSize data stream) (bytes : List UInt8) :
    AtEnd bufferSize (data ++ bytes) ((streamBuf bufferSize answers).put stream bytes).2 ∧
      (((streamBuf bufferSize answers).put stream bytes).1 = false →
        ((streamBuf bufferSize answers).put stream bytes).2.writeFailed = true) := by
  have placed : stream.intended.append = false :=
    (File.append_write _).trans atEnd.clear.placed
  obtain ⟨stays, puts, refused⟩ := atEnd.toStays.put answers bytes
    (data ++ bytes) fun still => by
      rw [File.data_write_end placed, atEnd.intended still]
      rw [atEnd.atEnd still, atEnd.intended still]
  refine ⟨⟨stays, fun still => ?_⟩, refused⟩
  obtain ⟨intact, intended⟩ := puts still
  rw [intended, File.position_write placed, atEnd.atEnd intact, List.length_append]

private theorem AtEnd.latched {data : List UInt8} (atEnd : AtEnd bufferSize data stream)
    (failed : stream.writeFailed = true) (other : List UInt8) :
    AtEnd bufferSize other stream where
  toStays := atEnd.toStays.latched failed other
  atEnd still := by
    rw [failed] at still
    cases still

/-- Pieces one after the other. -/
private theorem AtEnd.putAll (answers : ℕ → Answer) {data : List UInt8}
    (atEnd : AtEnd bufferSize data stream) (pieces : List (List UInt8)) :
    AtEnd bufferSize (data ++ pieces.flatten)
      (putAll (streamBuf bufferSize answers).put stream pieces).2 := by
  induction pieces generalizing stream data with
  | nil =>
    rw [List.flatten_nil, List.append_nil]
    exact atEnd
  | cons piece pieces ih =>
    obtain ⟨next, refused⟩ := atEnd.put answers piece
    rw [Mdf.putAll, List.flatten_cons, ← List.append_assoc]
    cases put : (streamBuf bufferSize answers).put stream piece with
    | mk taken stream' =>
      rw [put] at next refused
      cases taken with
      | true => exact ih next
      | false => exact next.latched (refused rfl) _

theorem AtEnd.opened (bufferSize : ℕ) : AtEnd bufferSize [] { file := {} } where
  sound := .opened bufferSize {}
  isOpen := rfl
  traced := .fresh _ _
  clear := ⟨rfl, .inl le_rfl⟩
  intended _ := rfl
  atEnd _ := rfl

/-- A file that takes samples over a stream. -/
structure Recording (bufferSize : ℕ) (s : Mdf4Structure) (toFloat : UInt64 → UInt32)
    (startTimeNs : ℕ) (samples : List Sample) (r : Mdf4Recorder) (stream : StreamBuf) : Prop where
  holds : r.Holds s toFloat startTimeNs samples
  atEnd : AtEnd bufferSize (image s.description (idBlockBytes false unfinalizedFlags)
    (fun _ => { startTimeNs := startTimeNs })
    ((Log.ofSamples s toFloat samples).bytes s.options.recordIdSizeBytes)) stream

theorem Stays.quiet {data : List UInt8} (stays : Stays bufferSize data stream) :
    Quiet bufferSize (Guarded s toFloat startTimeNs samples) stream where
  sound := stays.sound
  traced := stays.traced.mono fun _ clear => clear.guarded
  pending _ := by
    apply Clear.guarded
    rw [← stays.traced.file]
    exact stays.clear

/-- A header that gets to its end starts the recording of a file. -/
theorem Recording.writeHeader (bufferSize : ℕ) (toFloat : UInt64 → UInt32) (structure_ : s.Sound)
    (sound : Mdf4File.Sound s.description r.toMdf4File) (answers : ℕ → Answer) (startTimeNs : ℕ) :
    let result := r.writeHeaderToStream s (streamBuf bufferSize answers) startTimeNs { file := {} }
    Mdf4File.Sound s.description result.2.2.toMdf4File ∧
      Stays bufferSize result.2.1.intended.data result.2.1 ∧
      ∀ count, result.1 = some count →
        Recording bufferSize s toFloat startTimeNs [] result.2.2 result.2.1 := by
  intro result
  obtain ⟨sound', hands, returns⟩ := Mdf4Recorder.writeHeaderToStream_spec toFloat structure_ sound
    (streamBuf bufferSize answers) startTimeNs { file := {} }
  have written := (AtEnd.opened bufferSize).putAll answers
    (Mdf4File.headerPieces s.description { startTimeNs := startTimeNs })
  have stays {data : List UInt8} {stream : StreamBuf} (stays : Stays bufferSize data stream) :
      Stays bufferSize stream.intended.data stream :=
    ⟨stays.sound, stays.isOpen, stays.traced, stays.clear, fun _ => rfl⟩
  refine ⟨sound', ?_, fun count returned => ?_⟩
  · rcases hands with ⟨-, nothing⟩ | all
    · rw [nothing]
      exact stays (AtEnd.opened bufferSize).toStays
    · rw [all]
      exact stays written.toStays
  · obtain ⟨accepted, holds⟩ := returns count returned
    refine ⟨holds, ?_⟩
    have all : result.2.1 = (Mdf.putAll (streamBuf bufferSize answers).put { file := {} }
        (Mdf4File.headerPieces s.description { startTimeNs := startTimeNs })).2 := by
      rcases hands with ⟨nothing, -⟩ | all
      · rw [nothing] at returned
        cases returned
      · exact all
    have same : image s.description (idBlockBytes false unfinalizedFlags)
        (fun _ => { startTimeNs := startTimeNs })
        ((Log.ofSamples s toFloat []).bytes s.options.recordIdSizeBytes) =
        [] ++ (Mdf4File.headerPieces s.description { startTimeNs := startTimeNs }).flatten := by
      rw [image, headerWith, Mdf4File.headerPieces, List.flatten_cons, ← List.flatMap_def,
        List.nil_append]
      exact List.append_nil _
    rw [all, same]
    exact written

/-- What the call of a writer leaves of the recording. -/
theorem Recording.takes (recording : Recording bufferSize s toFloat startTimeNs samples r stream)
    {sample : Sample} {result : Option ℕ × StreamBuf × Mdf4Recorder}
    (takes : Mdf4Recorder.Takes s toFloat startTimeNs samples (streamBuf bufferSize answers).put
      stream sample result) :
    Recording bufferSize s toFloat startTimeNs
      (if result.1.isSome then samples ++ [sample] else samples) result.2.2 result.2.1 := by
  cases takes with
  | rejected holds reason => exact ⟨holds, recording.atEnd⟩
  | @refused stream' after holds refuses =>
    obtain ⟨next, refused⟩ := recording.atEnd.put answers (Log.bytes s.options.recordIdSizeBytes
      (sample.records s toFloat (Log.ofSamples s toFloat samples)))
    rw [refuses] at next refused
    exact ⟨holds, next.latched (refused rfl) _⟩
  | @taken count stream' after holds takes =>
    obtain ⟨next, -⟩ := recording.atEnd.put answers (Log.bytes s.options.recordIdSizeBytes
      (sample.records s toFloat (Log.ofSamples s toFloat samples)))
    rw [takes] at next
    refine ⟨holds, ?_⟩
    have same : image s.description (idBlockBytes false unfinalizedFlags)
        (fun _ => { startTimeNs := startTimeNs })
        ((Log.ofSamples s toFloat (samples ++ [sample])).bytes s.options.recordIdSizeBytes) =
        image s.description (idBlockBytes false unfinalizedFlags)
          (fun _ => { startTimeNs := startTimeNs })
          ((Log.ofSamples s toFloat samples).bytes s.options.recordIdSizeBytes) ++
        Log.bytes s.options.recordIdSizeBytes
          (sample.records s toFloat (Log.ofSamples s toFloat samples)) := by
      rw [Log.ofSamples_concat, Log.bytes_append]
      simp only [image, List.append_assoc]
    rw [Option.isSome_some, if_pos rfl, same]
    exact next

/-! ### Syncing and closing -/

private theorem isSync_ne_seek {first second : List FsCall}
    (flushes : StreamBuf.FlushesFirst stream first second)
    (syncs : ∀ call ∈ second, ∃ answer, call = .sync answer) :
    ∀ offset way answer, FsCall.seek offset way answer ∉ first ++ second := by
  intro offset way answer member
  rcases List.mem_append.mp member with flushed | later
  · rcases flushes.flushed with rfl | ⟨-, given, rfl⟩
    · cases flushed
    · cases List.mem_singleton.mp flushed
  · obtain ⟨given, same⟩ := syncs _ later
    cases same

private theorem Stays.sync (answers : ℕ → Answer) {data : List UInt8}
    (stays : Stays bufferSize data stream) :
    Stays bufferSize data (StreamBuf.sync answers stream).2 ∧
      ((StreamBuf.sync answers stream).2.writeFailed = false →
        stream.writeFailed = false ∧
          (StreamBuf.sync answers stream).2.intended = stream.intended) := by
  obtain ⟨sound, puts, -, -⟩ := StreamBuf.sync_spec answers stays.sound
  obtain ⟨flushed, rest, more, flushes, syncs⟩ := StreamBuf.sync_extends answers stream
  obtain ⟨traced, clear⟩ := stays.traced.extends_still more (fun _ bytes clear => clear.write bytes)
    (isSync_ne_seek flushes syncs) stays.clear
  have kept (still : (StreamBuf.sync answers stream).2.writeFailed = false) :
      stream.writeFailed = false ∧
        (StreamBuf.sync answers stream).2.intended = stream.intended := by
    refine ⟨?_, (puts.all still).trans (File.write_nil _)⟩
    cases failed : stream.writeFailed with
    | false => rfl
    | true =>
      rw [(puts.sticky failed).1] at still
      cases still
  refine ⟨⟨sound, puts.isOpen.trans stays.isOpen, traced, clear, fun still => ?_⟩, kept⟩
  rw [(kept still).2]
  exact stays.intended (kept still).1

/-- A sync does not disturb the recording. -/
theorem Recording.sync (answers : ℕ → Answer)
    (recording : Recording bufferSize s toFloat startTimeNs samples r stream) :
    Recording bufferSize s toFloat startTimeNs samples r (StreamBuf.sync answers stream).2 := by
  obtain ⟨stays, kept⟩ := recording.atEnd.toStays.sync answers
  refine ⟨recording.holds, stays, fun still => ?_⟩
  obtain ⟨intact, intended⟩ := kept still
  rw [intended]
  exact recording.atEnd.atEnd intact

private theorem Quiet.flushes {Start : List FsCall → Prop} (quiet : Quiet bufferSize Start stream)
    {after : StreamBuf} {flushed rest : List FsCall} (sound : StreamBuf.Sound bufferSize after)
    (more : StreamBuf.Extends stream (flushed ++ rest) after)
    (flushes : StreamBuf.FlushesFirst stream flushed rest)
    (pending : after.pending = [] ∨ after = stream) : Quiet bufferSize Start after := by
  refine ⟨sound, quiet.traced.flushesFirst more flushes quiet.pending, fun some_pending => ?_⟩
  rcases pending with nothing | same
  · exact absurd nothing some_pending
  · rw [same] at some_pending ⊢
    exact quiet.pending some_pending

theorem Quiet.sync {Start : List FsCall → Prop} (quiet : Quiet bufferSize Start stream)
    (answers : ℕ → Answer) : Quiet bufferSize Start (StreamBuf.sync answers stream).2 := by
  obtain ⟨sound, -, done, -⟩ := StreamBuf.sync_spec answers quiet.sound
  obtain ⟨flushed, rest, more, flushes, -⟩ := StreamBuf.sync_extends answers stream
  refine quiet.flushes sound more flushes ?_
  cases isOpen : stream.isOpen with
  | false =>
    right
    rw [StreamBuf.sync, if_pos (by simp [isOpen])]
  | true =>
    left
    cases failed : (StreamBuf.sync answers stream).2.writeFailed with
    | true => exact sound.latched failed
    | false => exact (done isOpen failed).1

theorem Quiet.close {Start : List FsCall → Prop} (quiet : Quiet bufferSize Start stream)
    (answers : ℕ → Answer) : Quiet bufferSize Start (StreamBuf.close answers stream).2 := by
  obtain ⟨flushed, rest, more, flushes, -⟩ := StreamBuf.close_extends answers stream
  cases isOpen : stream.isOpen with
  | false =>
    have same : (StreamBuf.close answers stream).2 = stream := by
      rw [StreamBuf.close, if_pos (by simp [isOpen])]
    rw [same]
    exact quiet
  | true =>
    obtain ⟨sound, -, nothing, -⟩ := StreamBuf.close_spec answers quiet.sound isOpen
    exact quiet.flushes sound more flushes (.inl nothing)

/-- Closing a stream with nothing pending leaves a finalized file so. -/
theorem Finalized.close (finalized : Finalized s toFloat startTimeNs samples stream.calls)
    (nothing : stream.pending = []) (answers : ℕ → Answer) :
    Finalized s toFloat startTimeNs samples (StreamBuf.close answers stream).2.calls := by
  obtain ⟨flushed, rest, more, flushes, -⟩ := StreamBuf.close_extends answers stream
  obtain rfl := flushes.quiet nothing
  rw [more.calls, List.nil_append]
  obtain ⟨before, answer, after, calls, ok, still⟩ := finalized.synced
  refine ⟨fun call member => ?_, ⟨before, answer, after ++ rest, by rw [calls]; simp, ok,
    fun call member => ?_⟩, ?_⟩
  · rcases List.mem_append.mp member with old | new
    · exact finalized.complete call old
    · exact FsCall.isIncomplete_of_not_isWrite (flushes.rest call new)
  · exact (List.mem_append.mp member).elim (still call) (flushes.rest call)
  · rw [replay_append, data_replay flushes.rest]
    exact finalized.data

/-! ### Rewriting -/

private theorem seek_beginning {file moved : File} {address : ℕ}
    (found : file.seek address .beginning = some moved) :
    moved = { file with position := address } := by
  unfold File.seek at found
  split at found
  · cases found
  · rw [← Option.some.inj found]
    simp [File.place]

/-- A seek to an address: it fails and leaves nothing pending, or the file is there. -/
private theorem Stays.seek (answers : ℕ → Answer) {data : List UInt8}
    (stays : Stays bufferSize data stream) (address : ℕ) :
    let result := (streamBuf bufferSize answers).seekpos address stream
    Quiet bufferSize (fun earlier => Clear (replay {} earlier)) result.2 ∧
      result.2.pending = [] ∧
      (result.1 = true → result.2.writeFailed = stream.writeFailed ∧ result.2.isOpen = true ∧
        result.2.file = { stream.intended with position := address }) := by
  intro result
  obtain ⟨sound, -, nothing, -⟩ := StreamBuf.seekoff_spec answers stays.sound stays.isOpen address
    .beginning (show (({ input := false } : Areas).input || true) = true from rfl)
  obtain ⟨flushed, rest, more, flushes, -⟩ := StreamBuf.seekoff_extends answers address .beginning
    { input := false } stream
  have start : Clear (replay {} stream.calls) := by
    rw [← stays.traced.file]
    exact stays.clear
  refine ⟨⟨sound, stays.traced.flushesFirst more flushes fun _ => start, fun some_pending =>
    absurd nothing some_pending⟩, nothing, fun succeeded => ?_⟩
  obtain ⟨position, answered⟩ := Option.isSome_iff_exists.mp succeeded
  obtain ⟨moved, -, failed, isOpen⟩ := StreamBuf.seekoff_eq_some stays.sound
    (show StreamBuf.seekoff answers address .beginning { input := false } stream =
      (some position, result.2) from Prod.ext answered rfl)
  exact ⟨failed, isOpen, seek_beginning moved⟩

private theorem Quiet.mono {Start Start' : List FsCall → Prop}
    (quiet : Quiet bufferSize Start stream) (weaker : ∀ earlier, Start earlier → Start' earlier) :
    Quiet bufferSize Start' stream where
  sound := quiet.sound
  traced := quiet.traced.mono weaker
  pending some_pending := weaker _ (quiet.pending some_pending)

private theorem idBlockSize_le_addressIn {f : Description} {b : Block} (inside : b ∈ blockOrder f) :
    idBlockSize ≤ addressIn f.serializedSize (blockOrder f) b := by
  rw [addressIn, if_pos inside]
  exact Nat.le_add_right _ _

/-- A block that is rewritten takes the place of its earlier version. -/
private theorem Stays.rewrite (answers : ℕ → Answer) {f : Description}
    {identifier data : List UInt8} {contents : Block → Contents}
    (size : identifier.length = idBlockSize) (sound : Mdf4File.Sound f r.toMdf4File)
    (address : r.marks.address = addressIn f.serializedSize (blockOrder f))
    (stays : Stays bufferSize (image f identifier contents data) stream) (b : Block) :
    let result := r.rewriteToStream f (streamBuf bufferSize answers) b stream
    (∀ count, result.1 = some count →
      Stays bufferSize (image f identifier (Function.update contents b r.contents) data)
        result.2) ∧
      Quiet bufferSize (fun earlier => Clear (replay {} earlier)) result.2 := by
  intro result
  have asQuiet {data : List UInt8} {stream : StreamBuf} (stays : Stays bufferSize data stream) :
      Quiet bufferSize (fun earlier => Clear (replay {} earlier)) stream := by
    refine ⟨stays.sound, stays.traced, fun _ => ?_⟩
    rw [← stays.traced.file]
    exact stays.clear
  unfold result Mdf4Recorder.rewriteToStream
  cases serialized : r.marks.isSerialized b with
  | false => exact ⟨by simp, asQuiet stays⟩
  | true =>
    have inside : b ∈ blockOrder f := by
      by_contra outside
      rcases sound.marks with clean | ⟨-, others⟩
      · rw [clean] at serialized
        cases serialized
      · have clean := others b outside
        simp [Marks.isClean, serialized] at clean
    obtain ⟨quiet, nothing, moved⟩ := stays.seek answers (r.marks.address b)
    simp only [Bool.not_true, Bool.false_eq_true, if_false]
    cases sought : (streamBuf bufferSize answers).seekpos (r.marks.address b) stream with
    | mk succeeded there =>
      rw [sought] at quiet nothing moved
      cases succeeded with
      | false => exact ⟨by simp, quiet⟩
      | true =>
        obtain ⟨failed, isOpen, file⟩ := moved rfl
        dsimp only at quiet nothing failed isOpen file ⊢
        -- The file is not in append mode, so the block goes to where the seek leads.
        have placed : stream.intended.append = false :=
          (File.append_write _).trans stays.clear.placed
        have clear : Clear there.file := by
          rw [file, address]
          exact ⟨placed, .inr (idBlockSize_le_addressIn inside)⟩
        have here : Stays bufferSize (image f identifier contents data) there := by
          refine ⟨quiet.sound, isOpen, quiet.traced, clear, fun still => ?_⟩
          rw [StreamBuf.intended_of_pending nothing, file]
          exact stays.intended (failed ▸ still)
        cases block : f.serialize r.contents r.marks.address b with
        | none => exact ⟨by simp, asQuiet here⟩
        | some bytes =>
          obtain rfl := eq_bytes_of_serialize block
          -- Both versions of the block have one size, and the bytes around it are the same.
          obtain ⟨before, after, length, versions⟩ := image_split inside contents size data
          obtain ⟨written, -, -⟩ := here.put answers
            (f.bytes r.contents r.marks.address b)
            (image f identifier (Function.update contents b r.contents) data)
            fun still => by
              have old := versions (contents b)
              rw [Function.update_eq_self] at old
              rw [versions, StreamBuf.intended_of_pending nothing, address]
              refine File.data_write_middle clear.placed
                (f.bytes (contents b) (addressIn f.serializedSize (blockOrder f)) b) ?_ ?_
                (by rw [length_bytes, length_bytes])
              · rw [file]
                exact (stays.intended (failed ▸ still)).trans old
              · rw [file, length, address]
          dsimp only
          cases put : (streamBuf bufferSize answers).put there
              (f.bytes r.contents r.marks.address b) with
          | mk taken there' =>
            rw [put] at written
            cases taken with
            | false => exact ⟨by simp, asQuiet written⟩
            | true => exact ⟨fun _ _ => written, asQuiet written⟩

private theorem foldl_update {contents : Block → Contents} (version : Contents)
    (blocks : List Block) :
    blocks.foldl (fun contents b => Function.update contents b version) contents =
      fun b => if b ∈ blocks then version else contents b := by
  induction blocks using List.reverseRecOn with
  | nil => simp
  | append_singleton blocks last ih =>
    rw [List.foldl_append, ih, List.foldl_cons, List.foldl_nil]
    funext b
    by_cases same : b = last
    · simp [same]
    · simp [same, Function.update_of_ne]

private theorem Stays.rewriteAll (answers : ℕ → Answer) {f : Description}
    {identifier data : List UInt8} {contents : Block → Contents}
    (size : identifier.length = idBlockSize) (sound : Mdf4File.Sound f r.toMdf4File)
    (address : r.marks.address = addressIn f.serializedSize (blockOrder f)) (blocks : List Block)
    (stays : Stays bufferSize (image f identifier contents data) stream) :
    let result := r.rewriteAll f (streamBuf bufferSize answers) blocks stream
    (∀ count, result.1 = some count → Stays bufferSize (image f identifier
      (blocks.foldl (fun contents b => Function.update contents b r.contents) contents) data)
        result.2) ∧
      Quiet bufferSize (fun earlier => Clear (replay {} earlier)) result.2 := by
  induction blocks generalizing contents stream with
  | nil =>
    refine ⟨fun _ _ => stays, stays.sound, stays.traced, fun _ => ?_⟩
    change Clear (replay {} stream.calls)
    rw [← stays.traced.file]
    exact stays.clear
  | cons b blocks ih =>
    obtain ⟨next, quiet⟩ := stays.rewrite answers size sound address b
    intro result
    unfold result Mdf4Recorder.rewriteAll
    cases rewritten : r.rewriteToStream f (streamBuf bufferSize answers) b stream with
    | mk returned stream' =>
      rw [rewritten] at next quiet
      cases returned with
      | none => exact ⟨by simp, quiet⟩
      | some count =>
        obtain ⟨all, quiet'⟩ := ih (next count rfl)
        dsimp only
        cases others : r.rewriteAll f (streamBuf bufferSize answers) blocks stream' with
        | mk returned' stream'' =>
          rw [others] at all quiet'
          cases returned' with
          | none => exact ⟨by simp, quiet'⟩
          | some rest => exact ⟨fun _ _ => all rest rfl, quiet'⟩

/-! ### Finalizing -/

/-- Calls that write nothing leave a recorded file recorded. -/
private theorem Recorded.extends {calls more : List FsCall}
    (recorded : Recorded s toFloat startTimeNs samples calls)
    (others : ∀ call ∈ more, call.isWrite = false) :
    Recorded s toFloat startTimeNs samples (calls ++ more) where
  complete call member := by
    rcases List.mem_append.mp member with earlier | later
    · exact recorded.complete call earlier
    · exact FsCall.isIncomplete_of_not_isWrite (others call later)
  synced := by
    obtain ⟨before, answer, after, rfl, done, quiet⟩ := recorded.synced
    refine ⟨before, answer, after ++ more, by simp, done, fun call member => ?_⟩
    exact (List.mem_append.mp member).elim (quiet call) (others call)
  data := by
    rw [replay_append, data_replay others]
    exact recorded.data

/-- With the blocks rewritten, a sync that succeeds makes a recorded file. -/
private theorem Stays.recorded (answers : ℕ → Answer)
    (stays : Stays bufferSize
      (wholeImage s toFloat startTimeNs samples (idBlockBytes false unfinalizedFlags)) stream)
    (synced : (StreamBuf.sync answers stream).1 = true) :
    Recorded s toFloat startTimeNs samples (StreamBuf.sync answers stream).2.calls ∧
      (StreamBuf.sync answers stream).2.pending = [] := by
  obtain ⟨sound, -, done, success⟩ := StreamBuf.sync_spec answers stays.sound
  obtain ⟨isOpen, still⟩ := success synced
  obtain ⟨nothing, before, answer, calls, answered⟩ := done isOpen still
  obtain ⟨after, kept⟩ := stays.sync answers
  have data := after.intended still
  rw [StreamBuf.intended_of_pending nothing, after.traced.file] at data
  refine ⟨⟨?_, ⟨before, answer, [], calls, ?_, List.forall_mem_nil _⟩, data⟩, nothing⟩
  · have complete := sound.complete
    rw [still] at complete
    intro call member
    exact Bool.eq_false_iff.mpr (List.any_eq_false.mp complete.symm call member)
  · rw [synced] at answered
    simpa using answered.symm

private theorem wholeImage_split (s : Mdf4Structure) (toFloat : UInt64 → UInt32)
    (startTimeNs : ℕ) (samples : List Sample) : ∃ rest, ∀ identifier,
    wholeImage s toFloat startTimeNs samples identifier = [] ++ identifier ++ rest := by
  refine ⟨headerWith s.description (fun _ => finalContents s toFloat startTimeNs samples) ++
    (Log.ofSamples s toFloat samples).bytes s.options.recordIdSizeBytes, fun identifier => ?_⟩
  simp only [wholeImage, image, List.append_assoc, List.nil_append]

/-- The identifier goes over a recorded file: if its bytes are taken, the file is whole. -/
private theorem Recorded.put_identifier (answers : ℕ → Answer)
    (recorded : Recorded s toFloat startTimeNs samples stream.calls)
    (sound : StreamBuf.Sound bufferSize stream)
    (traced : StreamBuf.Traced (Guarded s toFloat startTimeNs samples) {} stream)
    (nothing : stream.pending = []) (isOpen : stream.isOpen = true)
    (place : stream.file.position = 0) (placed : stream.file.append = false) :
    let result := (streamBuf bufferSize answers).put stream (idBlockBytes true 0)
    Quiet bufferSize (Guarded s toFloat startTimeNs samples) result.2 ∧
      result.2.isOpen = true ∧ (result.2.writeFailed = false → result.2.intended.data =
        wholeImage s toFloat startTimeNs samples (idBlockBytes true 0)) := by
  intro result
  obtain ⟨sound', puts, -⟩ := StreamBuf.xsputn_spec answers sound isOpen (idBlockBytes true 0)
  have start : Guarded s toFloat startTimeNs samples stream.calls := fun _ => recorded
  refine ⟨?_, puts.isOpen.trans isOpen, fun still => ?_⟩
  -- One write at most, so every state of the file is the one before it or the one after.
  · have once := StreamBuf.xsputn_of_pending_eq_nil bufferSize answers
      (idBlockBytes true 0) nothing
    dsimp only at once
    rcases once with ⟨more, left⟩ | ⟨left, answer, more⟩
    · refine ⟨sound', traced.extends more fun earlier _ _ _ split => ?_, fun _ => ?_⟩
      · cases earlier <;> cases split
      · have same : result.2.calls = stream.calls := by
          rw [← List.append_nil stream.calls]
          exact more.calls
        rw [same]
        exact start
    · refine ⟨sound', traced.extends more fun earlier bytes given later split => ?_,
        fun some_pending => absurd left some_pending⟩
      cases earlier with
      | nil =>
        rw [List.append_nil]
        exact start
      | cons call earlier =>
        have tail := (List.cons.inj split).2
        cases earlier <;> cases tail
  · obtain ⟨rest, whole⟩ := wholeImage_split s toFloat startTimeNs samples
    have before := recorded.data
    rw [← traced.file, whole] at before
    rw [whole]
    refine (congrArg File.data (puts.all still)).trans ?_
    rw [StreamBuf.intended_of_pending nothing]
    exact File.data_write_middle placed _ before place
      (by rw [length_idBlockBytes, length_idBlockBytes])

/-- The rewriting of the identifier block of a recorded file. -/
private theorem Recorded.rewriteId (answers : ℕ → Answer)
    (recorded : Recorded s toFloat startTimeNs samples stream.calls) {data : List UInt8}
    (stays : Stays bufferSize data stream) (nothing : stream.pending = [])
    {answer : Option ℕ × StreamBuf}
    (rewritten : r.setIdFinalized.rewriteId (streamBuf bufferSize answers) stream = answer) :
    Quiet bufferSize (Guarded s toFloat startTimeNs samples) answer.2 ∧ answer.2.isOpen = true ∧
      (answer.1.isSome = true → answer.2.writeFailed = false → answer.2.intended.data =
        wholeImage s toFloat startTimeNs samples (idBlockBytes true 0)) := by
  obtain ⟨quiet, left, moved⟩ := stays.seek answers 0
  obtain ⟨-, isOpen, -⟩ := StreamBuf.seekoff_spec answers stays.sound stays.isOpen 0 .beginning
    (show (({ input := false } : Areas).input || true) = true from rfl)
  obtain ⟨flushed, rest, more, flushes, -⟩ := StreamBuf.seekoff_extends answers 0 .beginning
    { input := false } stream
  -- Nothing was pending, so the seek writes nothing.
  obtain rfl := flushes.quiet nothing
  have recorded' := recorded.extends flushes.rest
  rw [← List.nil_append rest, ← more.calls] at recorded'
  have traced : StreamBuf.Traced (Guarded s toFloat startTimeNs samples) {} _ :=
    quiet.traced.mono fun _ clear => clear.guarded
  unfold Mdf4Recorder.rewriteId at rewritten
  generalize sought : (streamBuf bufferSize answers).seekpos 0 stream = there at rewritten
  change Recorded s toFloat startTimeNs samples
    ((streamBuf bufferSize answers).seekpos 0 stream).2.calls at recorded'
  change ((streamBuf bufferSize answers).seekpos 0 stream).2.isOpen = true at isOpen
  rw [sought] at quiet left moved traced recorded' isOpen
  obtain ⟨succeeded, there⟩ := there
  cases succeeded with
  | false =>
    rw [← rewritten]
    exact ⟨quiet.mono fun _ clear => clear.guarded, isOpen, by simp⟩
  | true =>
    obtain ⟨-, -, file⟩ := moved rfl
    obtain ⟨put, opened, taken⟩ := recorded'.put_identifier answers quiet.sound traced left isOpen
      (by rw [file]) (by rw [file]; exact (File.append_write _).trans stays.clear.placed)
    dsimp only at rewritten put opened taken
    rw [show idBlockBytes r.setIdFinalized.isIdFinalized r.setIdFinalized.standardFlags =
      idBlockBytes true 0 from rfl] at rewritten
    generalize (streamBuf bufferSize answers).put there (idBlockBytes true 0) = result at *
    obtain ⟨accepted, after⟩ := result
    cases accepted with
    | false =>
      rw [← rewritten]
      exact ⟨put, opened, by simp⟩
    | true =>
      rw [← rewritten]
      exact ⟨put, opened, fun _ => taken⟩

/-- Seeking to the end of a stream to which nothing more is put. -/
private theorem Quiet.seekEnd {Start : List FsCall → Prop} (quiet : Quiet bufferSize Start stream)
    (isOpen : stream.isOpen = true) {answer : Bool × StreamBuf}
    (sought : (streamBuf bufferSize answers).seekEnd stream = answer) :
    Quiet bufferSize Start answer.2 ∧ (answer.1 = true →
      answer.2.writeFailed = stream.writeFailed ∧ answer.2.isOpen = true ∧
        answer.2.intended.data = stream.intended.data) := by
  obtain ⟨sound, -, nothing, -⟩ := StreamBuf.seekoff_spec answers quiet.sound isOpen 0 .ending
    (show (({ input := false } : Areas).input || true) = true from rfl)
  obtain ⟨flushed, rest, more, flushes, -⟩ := StreamBuf.seekoff_extends answers 0 .ending
    { input := false } stream
  subst sought
  refine ⟨quiet.flushes sound more flushes (.inl nothing), fun succeeded => ?_⟩
  obtain ⟨position, answered⟩ := Option.isSome_iff_exists.mp succeeded
  obtain ⟨moved, left, failed, opened⟩ := StreamBuf.seekoff_eq_some quiet.sound
    (show StreamBuf.seekoff answers 0 .ending { input := false } stream =
      (some position, ((streamBuf bufferSize answers).seekEnd stream).2) from
        Prod.ext answered rfl)
  refine ⟨failed, opened, ?_⟩
  rw [StreamBuf.intended_of_pending left]
  unfold File.seek at moved
  split_ifs at moved
  rw [← Option.some.inj moved]
  rfl

/-- A finalization of a recorded file. When it returns, the file is whole, marked as finalized and
synced. -/
theorem finalizeToStream_spec (answers : ℕ → Answer)
    (recording : Recording bufferSize s toFloat startTimeNs samples r stream) :
    let result := r.finalizeToStream s.description (streamBuf bufferSize answers) stream
    Mdf4File.Sound s.description result.2.2.toMdf4File ∧
      Quiet bufferSize (Guarded s toFloat startTimeNs samples) result.2.1 ∧
      ∀ count, result.1 = some count → result.2.1.pending = [] ∧
        Finalized s toFloat startTimeNs samples result.2.1.calls := by
  have holds := recording.holds
  have contents : r.setDataSize.contents = finalContents s toFloat startTimeNs samples := by
    simp only [Mdf4Recorder.setDataSize, holds.contents, holds.bytesWritten, finalContents]
  have sound : Mdf4File.Sound s.description r.setDataSize.toMdf4File :=
    ⟨holds.sound.marks, holds.sound.flags⟩
  obtain ⟨all, quiet⟩ := recording.atEnd.toStays.rewriteAll answers (length_idBlockBytes _ _)
    sound holds.address (counted s.description)
  rw [foldl_update, contents] at all
  have whole : image s.description (idBlockBytes false unfinalizedFlags)
      (fun b => if b ∈ counted s.description then finalContents s toFloat startTimeNs samples
        else { startTimeNs := startTimeNs })
      ((Log.ofSamples s toFloat samples).bytes s.options.recordIdSizeBytes) =
      wholeImage s toFloat startTimeNs samples (idBlockBytes false unfinalizedFlags) := by
    have same := headerWith_counted s.description
      (show ({ startTimeNs := startTimeNs } : Contents).startTimeNs =
        (finalContents s toFloat startTimeNs samples).startTimeNs from rfl)
    rw [wholeImage, image, image, same]
  rw [whole] at all
  have asGuarded {stream : StreamBuf}
      (quiet : Quiet bufferSize (fun earlier => Clear (replay {} earlier)) stream) :
      Quiet bufferSize (Guarded s toFloat startTimeNs samples) stream :=
    quiet.mono fun _ clear => clear.guarded
  intro result
  unfold result Mdf4Recorder.finalizeToStream
  rw [if_neg (by simp [holds.isHeaderWritten])]
  generalize rewritten : Mdf4Recorder.rewriteAll _ _ _ _ _ = answer
  rw [show r.setDataSize.rewriteAll s.description (streamBuf bufferSize answers)
    (counted s.description) stream = answer from rewritten] at all quiet
  obtain ⟨returned, stream⟩ := answer
  cases returned with
  | none => exact ⟨sound, asGuarded quiet, by simp⟩
  | some count =>
    -- the lengths and counts are handed over, and a sync brings them into the file
    have stays := all count rfl
    obtain ⟨synced, -⟩ := stays.sync answers
    dsimp only
    generalize answered : (streamBuf bufferSize answers).sync stream = answer
    obtain ⟨done, syncedStream⟩ := answer
    have value : StreamBuf.sync answers stream = (done, syncedStream) := answered
    rw [value] at synced
    cases done with
    | false => exact ⟨sound, synced.quiet, by simp⟩
    | true =>
      obtain ⟨recorded, nothing⟩ := stays.recorded answers (by rw [value])
      rw [value] at recorded nothing
      have sound' : Mdf4File.Sound s.description r.setDataSize.setIdFinalized.toMdf4File :=
        ⟨holds.sound.marks, .inl rfl⟩
      dsimp only
      generalize answered' : Mdf4Recorder.rewriteId _ _ _ = answer
      obtain ⟨quiet, isOpen, taken⟩ := recorded.rewriteId answers synced nothing answered'
      obtain ⟨returned, identified⟩ := answer
      cases returned with
      | none => exact ⟨sound', quiet, by simp⟩
      | some identifier =>
        dsimp only
        generalize sought : (streamBuf bufferSize answers).seekEnd identified = answer
        obtain ⟨quiet', ends⟩ := quiet.seekEnd isOpen sought
        obtain ⟨succeeded, ended⟩ := answer
        cases succeeded with
        | false => exact ⟨sound', quiet', by simp⟩
        | true =>
          obtain ⟨failed, isOpen', data⟩ := ends rfl
          have quiet'' := quiet'.sync answers
          obtain ⟨-, puts, done, success⟩ := StreamBuf.sync_spec answers quiet'.sound
          dsimp only
          generalize answered'' : (streamBuf bufferSize answers).sync ended = answer
          have value : StreamBuf.sync answers ended = answer := answered''
          rw [value] at quiet'' puts done success
          obtain ⟨complete, final⟩ := answer
          cases complete with
          | false => exact ⟨sound', quiet'', by simp⟩
          | true =>
            refine ⟨⟨sound'.marks, sound'.flags⟩, quiet'', fun _ _ => ?_⟩
            obtain ⟨-, still⟩ := success rfl
            obtain ⟨left, before, answer, calls, ok⟩ := done isOpen' still
            have intact : ended.writeFailed = false := by
              cases broken : ended.writeFailed with
              | false => rfl
              | true =>
                rw [(puts.sticky broken).1] at still
                cases still
            refine ⟨left, ?_, ⟨before, answer, [], calls, by simpa using ok.symm,
              List.forall_mem_nil _⟩, ?_⟩
            · have all := quiet''.sound.complete
              rw [still] at all
              intro call member
              exact Bool.eq_false_iff.mpr (List.any_eq_false.mp all.symm call member)
            · have same := puts.all still
              rw [StreamBuf.intended_of_pending left, File.write_nil] at same
              rw [← quiet''.traced.file, same, data]
              exact taken rfl (failed ▸ intact)

end Recording

/-! ### Reading a file -/

/-- What a reader makes of a file that is marked as finalized: it takes the data block for as long
as the block says. -/
def Mdf4Structure.readFile (s : Mdf4Structure) (file : List UInt8) : Option (List Reading) :=
  if file.take idBlockSize = idBlockBytes true 0 then
    let block := file.drop (addressIn s.description.serializedSize (blockOrder s.description) .data)
    let length := ofLeBytes ((block.drop 8).take 8)
    let data := (block.take length).drop 24
    (readRecords s.options.recordIdSizeBytes s.description.groups data.length data).map
      (readings s.description.groups)
  else none

section Reading

variable {s : Mdf4Structure} {toFloat : UInt64 → UInt32} {startTimeNs : ℕ} {samples : List Sample}

/-- A log has no more records than bytes. -/
private theorem Log.length_le_length_bytes {recordIdSize : ℕ} (someId : 0 < recordIdSize)
    (log : Log) : log.length ≤ (log.bytes recordIdSize).length := by
  induction log with
  | nil => exact Nat.zero_le _
  | cons entry log ih =>
    have size : 0 < (entry.2.bytes recordIdSize entry.1).length := by
      simp only [DataRecord.bytes, List.length_append, length_leBytes]
      omega
    rw [Log.bytes] at ih ⊢
    simp only [List.flatMap_cons, List.length_append, List.length_cons]
    omega

/-- The payloads of a group are in the records of a log. -/
theorem Log.length_payloads_le {recordIdSize : ℕ} (log : Log) (j : ℕ)
    (isVlsdGroup : ∀ entry ∈ log, entry.2.group = j → isVlsd entry.1 = true) :
    (log.payloads j).length ≤ (log.bytes recordIdSize).length := by
  induction log with
  | nil => exact Nat.le_refl _
  | cons entry log ih =>
    have rest := ih fun other member => isVlsdGroup other (List.mem_cons_of_mem _ member)
    rw [Log.payloads, Log.ofGroup, Log.bytes] at rest ⊢
    rw [List.flatMap_cons, List.length_append]
    by_cases own : entry.2.group = j
    · rw [List.filter_cons_of_pos (by simpa using own), List.flatMap_cons, List.length_append,
        DataRecord.bytes, if_pos (isVlsdGroup entry List.mem_cons_self own), List.length_append]
      omega
    · rw [List.filter_cons_of_neg (by simpa using own)]
      omega

/-- The size of a file. -/
theorem length_wholeImage (s : Mdf4Structure) (toFloat : UInt64 → UInt32) (startTimeNs : ℕ)
    (samples : List Sample) (isFinalized : Bool) (standardFlags : ℕ) :
    (wholeImage s toFloat startTimeNs samples (idBlockBytes isFinalized standardFlags)).length =
      idBlockSize + ((blockOrder s.description).map s.description.serializedSize).sum +
        ((Log.ofSamples s toFloat samples).bytes s.options.recordIdSizeBytes).length := by
  rw [wholeImage, image, List.length_append, List.length_append, length_idBlockBytes, headerWith,
    List.length_flatMap]
  simp only [length_bytes]

/-- The records of a file are a part of it. -/
theorem length_bytes_lt_of_wholeImage {identifier : List UInt8} {limit : ℕ}
    (small : (wholeImage s toFloat startTimeNs samples identifier).length < limit) :
    ((Log.ofSamples s toFloat samples).bytes s.options.recordIdSizeBytes).length < limit := by
  refine lt_of_le_of_lt ?_ small
  rw [wholeImage, image, List.length_append]
  exact Nat.le_add_left _ _

/-- A file with samples that is marked as finalized says what its samples say. -/
theorem readFile_wholeImage (sound : s.Sound) (accepted : ∀ sample ∈ samples, sample.Accepted s)
    (small : (wholeImage s toFloat startTimeNs samples (idBlockBytes true 0)).length < 2 ^ 64)
    (fits : ∀ groups ∈ s.canChannelGroups,
      ((Log.ofSamples s toFloat samples).payloads groups.2).length <
        256 ^ s.options.vlsdOffsetSizeBytes) :
    s.readFile (wholeImage s toFloat startTimeNs samples (idBlockBytes true 0)) =
      some (samples.map (Sample.reading s toFloat)) := by
  obtain ⟨front, order⟩ := blockOrder_eq_concat_data (f := s.description)
  have place := (layout_blockOrder (f := s.description) { startTimeNs := 0 }).contiguous front .data
    [] order
  generalize address_eq : addressIn s.description.serializedSize (blockOrder s.description) =
    address at place
  generalize data_eq : (Log.ofSamples s toFloat samples).bytes s.options.recordIdSizeBytes = data
  set contents := finalContents s toFloat startTimeNs samples with contents_eq
  -- the data block is the last one, and the data is behind it
  have whole : wholeImage s toFloat startTimeNs samples (idBlockBytes true 0) =
      idBlockBytes true 0 ++ (front.flatMap (s.description.bytes contents address) ++
        (s.description.bytes contents address .data ++ data)) := by
    rw [wholeImage, image, headerWith, address_eq, order, List.flatMap_append,
      List.flatMap_singleton, data_eq]
    simp only [List.append_assoc, contents_eq]
  have before : (idBlockBytes true 0 ++
      front.flatMap (s.description.bytes contents address)).length = address .data := by
    rw [List.length_append, length_idBlockBytes, place, List.length_flatMap]
    simp only [length_bytes]
  have block : (wholeImage s toFloat startTimeNs samples (idBlockBytes true 0)).drop
      (address .data) = s.description.bytes contents address .data ++ data := by
    rw [whole, ← List.append_assoc]
    exact List.drop_left' before
  have size : s.description.blockSize contents .data = 24 + data.length := by
    rw [blockSize, if_pos rfl, contents_eq, finalContents, data_eq]
    rfl
  have header : s.description.bytes contents address .data =
      [35, 35, 68, 84, 0, 0, 0, 0] ++ (leBytes 8 (24 + data.length) ++ leBytes 8 0) := by
    rw [Description.bytes, size]
    rfl
  rw [Mdf4Structure.readFile, address_eq, block, if_pos (by
    rw [whole]
    exact List.take_left' (length_idBlockBytes _ _))]
  have bound : 24 + data.length < 256 ^ 8 := by
    refine lt_of_le_of_lt ?_ small
    rw [whole, header]
    simp only [List.length_append, length_leBytes, List.length_cons, List.length_nil]
    omega
  have length : ofLeBytes (((s.description.bytes contents address .data ++ data).drop 8).take 8) =
      24 + data.length := by
    rw [header, List.append_assoc, List.append_assoc, List.drop_left' (by rfl),
      List.take_left' (length_leBytes _ _), ofLeBytes_leBytes bound]
  have taken : ((s.description.bytes contents address .data ++ data).take (24 + data.length)).drop
      24 = data := by
    rw [header, List.take_of_length_le (by
      simp only [List.length_append, length_leBytes, List.length_cons, List.length_nil]
      omega)]
    exact List.drop_left' (by simp)
  have someId : 0 < s.options.recordIdSizeBytes := by
    rcases List.mem_cons.mp sound.someId with one | others
    · omega
    · simp only [List.mem_cons, List.not_mem_nil, or_false] at others
      omega
  have records := readRecords_flatMap sound.distinct someId (fits_ofSamples sound accepted)
    (Log.length_le_length_bytes someId (Log.ofSamples s toFloat samples))
  rw [← Log.bytes, data_eq] at records
  dsimp only
  rw [length, taken, records, Option.map_some, readings_ofSamples sound accepted fits]

end Reading

end RtCore.Mdf
