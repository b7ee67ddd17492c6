import RtCore.Mdf.Finalization

/-!
# What succeeds when nothing fails below

A header, a record or a finalization throws when the stream refuses bytes or a seek or sync fails.
Nothing else makes them throw: over a stream that answers truthfully, a call ends well unless a call
of the file system went wrong before its end.

## Main definitions

* `Tells` — an answer that is true unless something went wrong
* `OutputStream.Honest` — a stream with such answers
* `Mdf4Structure.Fitting` — what a file hands to its stream, as far as its size may matter

## Main results

* `Mdf4Recorder.writeHeaderToStream_tells`, `Mdf4Recorder.Takes.tells`,
  `Mdf4Recorder.finalizeToStream_tells` — the calls of a file over an honest stream
* `streamBuf_honest`, `streamBuf_generous` — a buffered stream is honest, and over a file system
  that fails no call nothing goes wrong
-/

namespace RtCore.Mdf

open RtCore.Foundation RtCore.Fs Description

section Answers

variable {σ : Type} {Fits : List UInt8 → Prop} {Good Faultless : σ → Prop} {stream : σ}

/-- An answer that is true unless something went wrong: the stream stays good, and where nothing has
gone wrong after the call, nothing had before it and the answer is true. -/
structure Tells (Good Faultless : σ → Prop) (stream : σ) (result : Bool × σ) : Prop where
  good : Good result.2
  answers : Faultless result.2 → Faultless stream ∧ result.1 = true

/-- A stream that answers so to all that is asked of it, bytes that fit included. -/
structure OutputStream.Honest (out : OutputStream σ) (Fits : List UInt8 → Prop)
    (Good Faultless : σ → Prop) : Prop where
  put : ∀ stream bytes, Fits bytes → Good stream →
    Tells Good Faultless stream (out.put stream bytes)
  seekpos : ∀ address stream, Good stream → Tells Good Faultless stream (out.seekpos address stream)
  seekEnd : ∀ stream, Good stream → Tells Good Faultless stream (out.seekEnd stream)
  sync : ∀ stream, Good stream → Tells Good Faultless stream (out.sync stream)

theorem Tells.done (good : Good stream) : Tells Good Faultless stream (true, stream) :=
  ⟨good, fun faultless => ⟨faultless, rfl⟩⟩

theorem Tells.trans {answer : Bool} {stream' : σ} {result : Bool × σ}
    (first : Tells Good Faultless stream (answer, stream'))
    (second : Tells Good Faultless stream' result) : Tells Good Faultless stream result where
  good := second.good
  answers faultless := by
    obtain ⟨before, succeeded⟩ := second.answers faultless
    exact ⟨(first.answers before).1, succeeded⟩

variable {out : OutputStream σ}

theorem OutputStream.Honest.putAll (honest : out.Honest Fits Good Faultless) (good : Good stream)
    (pieces : List (List UInt8)) (fits : ∀ piece ∈ pieces, Fits piece) :
    Tells Good Faultless stream (putAll out.put stream pieces) := by
  induction pieces generalizing stream with
  | nil => exact .done good
  | cons piece pieces ih =>
    have first := honest.put stream piece (fits piece List.mem_cons_self) good
    rw [Mdf.putAll]
    cases put : out.put stream piece with
    | mk taken stream' =>
      rw [put] at first
      cases taken with
      | false => exact first
      | true => exact first.trans (ih first.good fun other member =>
        fits other (List.mem_cons_of_mem piece member))

end Answers

/-! ### The blocks that are rewritten -/

section Blocks

variable {f : Description}

/-- The groups and the data block are among the blocks of the header. -/
theorem counted_subset_blockOrder : ∀ b ∈ counted f, b ∈ blockOrder f := by
  have dataGroup : Block.dataGroup ∈ blockOrder f :=
    successors_mem_blockOrder .header header_mem_blockOrder .dataGroup
      (link_mem_successors (by simp [links]))
  have group (i : ℕ) (inside : i < f.groups.length) : Block.group i ∈ blockOrder f := by
    induction i with
    | zero =>
      refine successors_mem_blockOrder .dataGroup dataGroup _ (link_mem_successors ?_)
      simp [links, groupLink, inside]
    | succ i ih =>
      have before : i < f.groups.length := Nat.lt_of_succ_lt inside
      refine successors_mem_blockOrder _ (ih before) _ (link_mem_successors ?_)
      simp [links, groupLink, before, inside]
  intro b member
  rcases List.mem_cons.mp member with rfl | member
  · exact successors_mem_blockOrder .dataGroup dataGroup _ (link_mem_successors (by simp [links]))
  · obtain ⟨i, inside, rfl⟩ := List.mem_map.mp member
    exact group i (List.mem_range.mp inside)

end Blocks

/-! ### The calls of a file -/

/-- All that a file hands to its stream fits. -/
structure Mdf4Structure.Fitting (s : Mdf4Structure) (toFloat : UInt64 → UInt32)
    (Fits : List UInt8 → Prop) : Prop where
  identifier : ∀ isFinalized standardFlags, Fits (idBlockBytes isFinalized standardFlags)
  block : ∀ contents, ∀ b ∈ blockOrder s.description, Fits (s.description.bytes contents
    (addressIn s.description.serializedSize (blockOrder s.description)) b)
  records : ∀ (sample : Sample) log, sample.Accepted s →
    Fits (Log.bytes s.options.recordIdSizeBytes (sample.records s toFloat log))

namespace Mdf4Recorder

variable {σ : Type} {out : OutputStream σ} {Fits : List UInt8 → Prop}
  {Good Faultless : σ → Prop} {stream : σ} {s : Mdf4Structure} {toFloat : UInt64 → UInt32}
  {startTimeNs : ℕ} {samples : List Sample} {r : Mdf4Recorder}

/-- A header of a structure whose groups have writers is written unless something goes wrong. -/
theorem writeHeaderToStream_tells (honest : out.Honest Fits Good Faultless)
    (fitting : s.Fitting toFloat Fits)
    (sound : Mdf4File.Sound s.description r.toMdf4File)
    (accepts : (buildRecordWriters s).isSome = true) (good : Good stream) (startTimeNs : ℕ) :
    let result := r.writeHeaderToStream s out startTimeNs stream
    Tells Good Faultless stream (result.1.isSome, result.2.1) := by
  intro result
  obtain ⟨-, completes, -⟩ := Mdf4File.writeHeaderToStream_spec sound out.put
    { startTimeNs := startTimeNs, writersAccept := (buildRecordWriters s).isSome } stream
  obtain ⟨returns, final⟩ := completes accepts
  have pieces := honest.putAll good (Mdf4File.headerPieces s.description
    { startTimeNs := startTimeNs, writersAccept := (buildRecordWriters s).isSome }) <| by
      intro piece member
      rcases List.mem_cons.mp member with rfl | block
      · exact fitting.identifier _ _
      · obtain ⟨b, inside, rfl⟩ := List.mem_map.mp block
        exact fitting.block _ b inside
  have same : result.2.1 = (putAll out.put stream (Mdf4File.headerPieces s.description
      { startTimeNs := startTimeNs, writersAccept := (buildRecordWriters s).isSome })).2 := final
  refine ⟨same ▸ pieces.good, fun faultless => ?_⟩
  obtain ⟨before, put⟩ := pieces.answers (same ▸ faultless)
  refine ⟨before, ?_⟩
  exact Option.isSome_of_eq_some (returns put)

/-- A sample that its writer accepts is taken unless something goes wrong. -/
theorem Takes.tells (honest : out.Honest Fits Good Faultless) (fitting : s.Fitting toFloat Fits)
    (good : Good stream) {sample : Sample}
    {result : Option ℕ × σ × Mdf4Recorder} (accepted : sample.Accepted s)
    (room : sample.HasRoom s (Log.ofSamples s toFloat samples))
    (takes : Takes s toFloat startTimeNs samples out.put stream sample result) :
    Tells Good Faultless stream (result.1.isSome, result.2.1) := by
  have put := honest.put stream (Log.bytes s.options.recordIdSizeBytes
    (sample.records s toFloat (Log.ofSamples s toFloat samples)))
    (fitting.records sample _ accepted) good
  cases takes with
  | rejected _ reason => exact absurd ⟨accepted, room⟩ reason
  | refused _ refuses =>
    rw [refuses] at put
    exact put
  | taken _ taken =>
    rw [taken] at put
    exact put

/-- A block of the header is rewritten unless something goes wrong. -/
private theorem rewriteToStream_tells (honest : out.Honest Fits Good Faultless)
    (fitting : s.Fitting toFloat Fits) (good : Good stream) {b : Block}
    (inside : b ∈ blockOrder s.description) (serialized : r.marks.isSerialized b = true)
    (address : r.marks.address =
      addressIn s.description.serializedSize (blockOrder s.description)) :
    let result := r.rewriteToStream s.description out b stream
    Tells Good Faultless stream (result.1.isSome, result.2) := by
  have complete : s.description.serialize r.contents r.marks.address b =
      some (s.description.bytes r.contents r.marks.address b) := by
    apply serialize_eq
    intro target linked
    rw [address]
    exact addressIn_ne_zero.mpr
      (successors_mem_blockOrder b inside target (link_mem_successors linked))
  have moved := honest.seekpos (r.marks.address b) stream good
  intro result
  unfold result rewriteToStream
  rw [if_neg (by simp [serialized]), complete]
  cases sought : out.seekpos (r.marks.address b) stream with
  | mk reached there =>
    rw [sought] at moved
    cases reached with
    | false => exact moved
    | true =>
      have written := honest.put there (s.description.bytes r.contents r.marks.address b)
        (by rw [address]; exact fitting.block _ b inside) moved.good
      dsimp only
      cases put : out.put there (s.description.bytes r.contents r.marks.address b) with
      | mk taken after =>
        rw [put] at written
        cases taken with
        | false => exact moved.trans written
        | true => exact moved.trans written

private theorem rewriteAll_tells (honest : out.Honest Fits Good Faultless)
    (fitting : s.Fitting toFloat Fits) (good : Good stream) {blocks : List Block}
    (inside : ∀ b ∈ blocks, b ∈ blockOrder s.description)
    (serialized : ∀ b ∈ blockOrder s.description, r.marks.isSerialized b = true)
    (address : r.marks.address =
      addressIn s.description.serializedSize (blockOrder s.description)) :
    let result := r.rewriteAll s.description out blocks stream
    Tells Good Faultless stream (result.1.isSome, result.2) := by
  induction blocks generalizing stream with
  | nil => exact .done good
  | cons b blocks ih =>
    have here := inside b List.mem_cons_self
    have first := rewriteToStream_tells honest fitting good here (serialized b here) address
    intro result
    unfold result rewriteAll
    cases rewritten : r.rewriteToStream s.description out b stream with
    | mk returned stream' =>
      rw [rewritten] at first
      cases returned with
      | none => exact first
      | some count =>
        have others := ih first.good fun other member =>
          inside other (List.mem_cons_of_mem b member)
        dsimp only
        cases rest : r.rewriteAll s.description out blocks stream' with
        | mk returned' stream'' =>
          rw [rest] at others
          cases returned' with
          | none => exact first.trans others
          | some more => exact first.trans others

private theorem rewriteId_tells (honest : out.Honest Fits Good Faultless)
    (fits : Fits (idBlockBytes r.isIdFinalized r.standardFlags)) (good : Good stream) :
    let result := r.rewriteId out stream
    Tells Good Faultless stream (result.1.isSome, result.2) := by
  have moved := honest.seekpos 0 stream good
  intro result
  unfold result rewriteId
  cases sought : out.seekpos 0 stream with
  | mk reached there =>
    rw [sought] at moved
    cases reached with
    | false => exact moved
    | true =>
      have written := honest.put there _ fits moved.good
      dsimp only
      cases put : out.put there (idBlockBytes r.isIdFinalized r.standardFlags) with
      | mk taken after =>
        rw [put] at written
        cases taken with
        | false => exact moved.trans written
        | true => exact moved.trans written

/-- A file that took samples is finalized unless something goes wrong. -/
theorem finalizeToStream_tells (honest : out.Honest Fits Good Faultless)
    (fitting : s.Fitting toFloat Fits) (good : Good stream)
    (holds : Holds s toFloat startTimeNs samples r) :
    let result := r.finalizeToStream s.description out stream
    Tells Good Faultless stream (result.1.isSome, result.2.1) := by
  have blocks : Tells Good Faultless stream _ := rewriteAll_tells (r := r.setDataSize) honest
    fitting good counted_subset_blockOrder holds.serialized holds.address
  intro result
  unfold result finalizeToStream
  rw [if_neg (by simp [holds.isHeaderWritten])]
  generalize rewritten : r.setDataSize.rewriteAll _ _ _ _ = answer
  rw [show r.setDataSize.rewriteAll s.description out (counted s.description) stream = answer
    from rewritten] at blocks
  obtain ⟨returned, stream₁⟩ := answer
  cases returned with
  | none => exact blocks
  | some count =>
    -- The calls of the finalization in their order; each tells whether it failed, and a failure
    -- ends them.
    have synced := blocks.trans (honest.sync stream₁ blocks.good)
    dsimp only
    generalize out.sync stream₁ = answer at synced
    obtain ⟨done, stream₂⟩ := answer
    cases done with
    | false => exact synced
    | true =>
      have identified := synced.trans
        (rewriteId_tells (r := r.setDataSize.setIdFinalized) honest (fitting.identifier _ _)
          synced.good)
      dsimp only at identified ⊢
      generalize r.setDataSize.setIdFinalized.rewriteId out stream₂ = answer at identified
      obtain ⟨returned, stream₃⟩ := answer
      cases returned with
      | none => exact identified
      | some identifier =>
        have ended := identified.trans (honest.seekEnd stream₃ identified.good)
        dsimp only
        generalize out.seekEnd stream₃ = answer at ended
        obtain ⟨reached, stream₄⟩ := answer
        cases reached with
        | false => exact ended
        | true =>
          have last := ended.trans (honest.sync stream₄ ended.good)
          dsimp only
          generalize out.sync stream₄ = answer at last
          obtain ⟨done, stream₅⟩ := answer
          cases done with
          | false => exact last
          | true => exact last

end Mdf4Recorder

/-! ### Buffered streams -/

theorem Mdf4Structure.Fitting.unlimited (s : Mdf4Structure) (toFloat : UInt64 → UInt32) :
    s.Fitting toFloat fun _ => True :=
  ⟨fun _ _ => trivial, fun _ _ _ => trivial, fun _ _ _ => trivial⟩

/-- A stream that is in use. -/
structure InUse (bufferSize : ℕ) (stream : StreamBuf) : Prop where
  sound : StreamBuf.Sound bufferSize stream
  isOpen : stream.isOpen = true

section Streams

variable (bufferSize : ℕ) (answers : ℕ → Answer)

private theorem seekoff_tells (offset : ℕ) (way : SeekDir) {stream : StreamBuf}
    (inUse : InUse bufferSize stream) :
    let result := StreamBuf.seekoff answers offset way { input := false } stream
    Tells (InUse bufferSize) StreamBuf.Faultless stream (result.1.isSome, result.2) := by
  obtain ⟨sound, isOpen, -, history, -, -, all⟩ := StreamBuf.seekoff_spec answers inUse.sound
    inUse.isOpen offset way (show (({ input := false } : Areas).input || true) = true from rfl)
  refine ⟨⟨sound, isOpen⟩, fun faultless => ⟨faultless.before history, ?_⟩⟩
  rw [(all faultless).1, Option.isSome_map]
  exact File.isSome_seek offset way

/-- A buffered stream is honest. -/
theorem streamBuf_honest :
    (streamBuf bufferSize answers).Honest (fun _ => True) (InUse bufferSize)
      StreamBuf.Faultless where
  put stream bytes _ inUse := by
    obtain ⟨sound, puts, success⟩ := StreamBuf.xsputn_spec answers inUse.sound inUse.isOpen bytes
    refine ⟨⟨sound, puts.isOpen.trans inUse.isOpen⟩, fun faultless => ?_⟩
    have before := faultless.before puts.history
    refine ⟨before, decide_eq_true ?_⟩
    exact (success (inUse.sound.not_failed before)).mpr (sound.not_failed faultless)
  seekpos address _ inUse := seekoff_tells bufferSize answers address .beginning inUse
  seekEnd _ inUse := seekoff_tells bufferSize answers 0 .ending inUse
  sync stream inUse := by
    obtain ⟨sound, puts, done, -⟩ := StreamBuf.sync_spec answers inUse.sound
    refine ⟨⟨sound, puts.isOpen.trans inUse.isOpen⟩, fun faultless => ?_⟩
    refine ⟨faultless.before puts.history, ?_⟩
    obtain ⟨-, before, answer, calls, succeeded⟩ := done inUse.isOpen (sound.not_failed faultless)
    have answered := faultless (.sync answer) (by
      change FsCall.sync answer ∈ (StreamBuf.sync answers stream).2.calls
      rw [calls]
      simp)
    exact succeeded.trans answered

/-- Over a file system that fails no call, nothing goes wrong on a buffered stream. -/
theorem streamBuf_generous {most : ℕ} (generous : StreamBuf.Generous answers most)
    (bufferSmall : bufferSize ≤ most) :
    (streamBuf bufferSize answers).Honest (fun bytes => bytes.length ≤ most)
      (fun stream => InUse bufferSize stream ∧ StreamBuf.Faultless stream) fun _ => True := by
  have honest := streamBuf_honest bufferSize answers
  have small {stream : StreamBuf} (inUse : InUse bufferSize stream) :
      stream.pending.length ≤ most := inUse.sound.room.trans bufferSmall
  have known {stream : StreamBuf} {result : Bool × StreamBuf}
      (tells : Tells (InUse bufferSize) StreamBuf.Faultless stream result)
      (faultless : StreamBuf.Faultless result.2) :
      Tells (fun stream => InUse bufferSize stream ∧ StreamBuf.Faultless stream) (fun _ => True)
        stream result :=
    ⟨⟨tells.good, faultless⟩, fun _ => ⟨trivial, (tells.answers faultless).2⟩⟩
  refine ⟨fun stream bytes fits good => ?_, fun address stream good => ?_, fun stream good => ?_,
    fun stream good => ?_⟩
  · exact known (honest.put stream bytes trivial good.1)
      (good.2.xsputn generous bufferSmall good.1.sound.room fits)
  · exact known (honest.seekpos address stream good.1)
      (good.2.seekoff generous (small good.1) _ _ _)
  · exact known (honest.seekEnd stream good.1) (good.2.seekoff generous (small good.1) _ _ _)
  · exact known (honest.sync stream good.1) (good.2.sync generous (small good.1))

end Streams

end RtCore.Mdf
