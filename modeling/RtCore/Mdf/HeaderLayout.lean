import Mathlib.Algebra.BigOperators.Group.List.Basic
import RtCore.Foundation.Run
import RtCore.Mdf.Blocks

/-!
# Writing the header of an MDF 4 file

`WriteHeaderToStream` lays the blocks of a file out with three walks from the header block: the
first takes the marks of an earlier header away, the second gives every block its address, the third
writes the blocks. Each walk goes depth first and knows the blocks it visited by a mark of its own:
a block is clean without an address and unwritten, resolved with an address other than zero, and
written once its flag is set. The identifier block comes first and is linked by nothing.

The same object writes the header of each file of a log rotation, so the marks that a call finds are
those of the calls before it, of which any may have failed.

## Main definitions

* `Marks`, `resetVisitor`, `resolveVisitor`, `writeVisitor` — the three walks
* `Mdf4File`, `Mdf4File.writeHeaderToStream` — the object and a header call
* `Layout` — what the bytes of a header have to be

## Main results

* `Mdf4File.header_layout` — every header call that gets to its end lays the reachable blocks out
  as `Layout` says, whatever happened to the object before, with the bytes of a fresh file
-/

namespace RtCore.Mdf

open RtCore.Foundation Description

/-! ### Marks and walks -/

/-- `address_` and `is_serialized_` of the blocks. -/
@[ext] structure Marks where
  address : Block → ℕ
  isSerialized : Block → Bool

/-- The marks of blocks that no header call has seen. -/
def Marks.clean : Marks where
  address _ := 0
  isSerialized _ := false

/-- Whether `Reset` has nothing to do for a block. -/
def Marks.isClean (m : Marks) (b : Block) : Bool :=
  m.address b = 0 && !m.isSerialized b

/-- `Reset` and `ResetBlock`. -/
def resetVisitor : Visitor Block Marks where
  seen := Marks.isClean
  enter m b := {
    address := Function.update m.address b 0
    isSerialized := Function.update m.isSerialized b false }

/-- `ResolveAddress` and `ResolveBlockAddress`, with the address of the next block. -/
def resolveVisitor (f : Description) (contents : Contents) : Visitor Block (Marks × ℕ) where
  seen s b := s.1.address b ≠ 0
  enter s b := ({ s.1 with address := Function.update s.1.address b s.2 },
    s.2 + f.blockSize contents b)

/-- A stream takes the bytes it is handed, or refuses them. -/
abbrev Put (σ : Type*) := σ → List UInt8 → Bool × σ

/-- Pieces handed to a stream one after the other, up to the first that it refuses. -/
def putAll {σ : Type*} (put : Put σ) (stream : σ) : List (List UInt8) → Bool × σ
  | [] => (true, stream)
  | piece :: pieces =>
    match put stream piece with
    | (true, stream) => putAll put stream pieces
    | (false, stream) => (false, stream)

/-- The state of the walk that writes: a failure, of the serialization or of the stream, leaves it
as an exception. -/
structure Writing (σ : Type*) where
  marks : Marks
  stream : σ
  bytesWritten : ℕ := 0
  failed : Bool := false

/-- `WriteToStream` and `WriteBlockToStream`. -/
def writeVisitor {σ : Type*} (f : Description) (contents : Contents) (put : Put σ) :
    Visitor Block (Writing σ) where
  seen s b := s.failed || s.marks.isSerialized b
  enter s b :=
    match f.serialize contents s.marks.address b with
    | none => { s with failed := true }
    | some data =>
      -- The block is marked before the stream takes it, so a failed call leaves the mark.
      let marks :=
        { s.marks with isSerialized := Function.update s.marks.isSerialized b true }
      match put s.stream data with
      | (true, stream) => { s with
          marks := marks
          stream := stream
          bytesWritten := s.bytesWritten + data.length }
      | (false, stream) => { s with marks := marks, stream := stream, failed := true }

/-- Enough depth for a walk over the blocks of a description: no walk is deeper than there are
blocks. -/
def walkDepth (f : Description) : ℕ := f.nodes.card + 1

/-- A walk from the header block. -/
def walk {σ : Type*} (f : Description) (V : Visitor Block σ) (s : σ) : σ :=
  V.visit f.successors (walkDepth f) s .header

/-! ### The file -/

/-- The 64 bytes of the identifier block: `UnFinMF` or `MDF`, the version and the program padded
with spaces, the version number and the standard flags. -/
def idBlockBytes (isFinalized : Bool) (standardFlags : ℕ) : List UInt8 :=
  (if isFinalized then [77, 68, 70, 32, 32, 32, 32, 32] else [85, 110, 70, 105, 110, 77, 70, 32]) ++
    [52, 46, 49, 48, 32, 32, 32, 32] ++ [69, 76, 32, 32, 32, 32, 32, 32] ++ List.replicate 4 0 ++
    leBytes 2 410 ++ List.replicate 30 0 ++ leBytes 2 standardFlags ++ leBytes 2 0

/-- `InvalidCGCount`, `InvalidLastDTBlock` and `InvalidDataVLSDBlock`. -/
def unfinalizedFlags : ℕ := 0x01 ||| 0x04 ||| 0x20

/-- The size of the identifier block, where the header block starts. -/
def idBlockSize : ℕ := 8 + 8 + 8 + 4 + 2 + 30 + 2 + 2

/-- An `Mdf4File` with a sealed description. -/
structure Mdf4File where
  marks : Marks := .clean
  contents : Contents
  isIdFinalized : Bool := false
  standardFlags : ℕ := 0
  isHeaderWritten : Bool := false
  isFinalized : Bool := false

/-- A header call: the start time it sets, and whether the record writers accept the layout. -/
structure HeaderCall where
  startTimeNs : ℕ
  writersAccept : Bool := true

/-- The contents that a header call writes. -/
def HeaderCall.contents (call : HeaderCall) : Contents where
  startTimeNs := call.startTimeNs

/-- What a header call leaves: the number of bytes, none when it throws, the stream and the file. -/
structure HeaderResult (σ : Type*) where
  returned : Option ℕ
  stream : σ
  file : Mdf4File

namespace Mdf4File

variable (f : Description)

/-- A new file. -/
def fresh : Mdf4File where
  contents := { startTimeNs := 0 }

/-- `UpdateCurrentTime` and `WriteHeaderToStream`. -/
def writeHeaderToStream {σ : Type*} (put : Put σ) (call : HeaderCall) (stream : σ)
    (file : Mdf4File) : HeaderResult σ :=
  let file := { file with
    contents := { file.contents with startTimeNs := call.startTimeNs }
    isHeaderWritten := false
    isFinalized := false }
  if !call.writersAccept then ⟨none, stream, file⟩
  else
    let reset := walk f resetVisitor file.marks
    let resolved := (walk f (resolveVisitor f call.contents) (reset, idBlockSize)).1
    let file := { file with
      contents := call.contents
      isIdFinalized := false
      standardFlags := file.standardFlags ||| unfinalizedFlags
      marks := resolved }
    -- the identifier is the first block that the stream may refuse
    match put stream (idBlockBytes false file.standardFlags) with
    | (false, stream) => ⟨none, stream, file⟩
    | (true, stream) =>
      let written := walk f (writeVisitor f call.contents put)
        { marks := resolved, stream := stream, bytesWritten := idBlockSize }
      let file := { file with marks := written.marks }
      if written.failed then ⟨none, written.stream, file⟩
      else if written.bytesWritten ≠ resolved.address .data + f.serializedSize .data then
        ⟨none, written.stream, file⟩
      else ⟨some written.bytesWritten, written.stream, { file with isHeaderWritten := true }⟩

/-- A stream that counts the pieces and refuses the one of a given number. -/
def refusing (failAt : Option ℕ) : Put ℕ := fun count _ =>
  if failAt = some count then (false, count) else (true, count + 1)

/-- What happens to a file after its description is complete. -/
inductive Event where
  /-- A header call over a stream that refuses a piece, or none. -/
  | header (call : HeaderCall) (failAt : Option ℕ)
  /-- Records are written and counted, or a finalization sets the length of the data. -/
  | count (counters : ℕ → Counters) (dataSizeBytes : ℕ)
  /-- `SetFinalized(true)` of the identifier block, and whether the finalization got to its end. -/
  | finalizeId (complete : Bool)

/-- The file after an event. -/
def step (file : Mdf4File) : Event → Mdf4File
  | .header call failAt => (file.writeHeaderToStream f (refusing failAt) call 0).file
  | .count counters dataSizeBytes => { file with
      contents := { file.contents with counters := counters, dataSizeBytes := dataSizeBytes } }
  | .finalizeId complete => { file with
      isIdFinalized := true
      standardFlags := 0
      isFinalized := file.isFinalized || complete }

end Mdf4File

/-! ### The order of the blocks -/

variable (f : Description)

/-- The blocks in the order in which a walk from the header enters them. -/
def blockOrder : List Block := walkOrder f.successors (walkDepth f) .header

variable {f}

private theorem nodes_card_lt : f.nodes.card < walkDepth f := Nat.lt_succ_self _

theorem blockOrder_nodup : (blockOrder f).Nodup :=
  walkOrder_nodup successors_mem_nodes header_mem_nodes nodes_card_lt

/-- The walks enter exactly the blocks that links lead to from the header. -/
theorem mem_blockOrder_iff {b : Block} : b ∈ blockOrder f ↔ Leads f.successors .header b :=
  mem_walkOrder_iff successors_mem_nodes header_mem_nodes nodes_card_lt

theorem header_mem_blockOrder : .header ∈ blockOrder f :=
  mem_blockOrder_iff.mpr .refl

theorem successors_mem_blockOrder :
    ∀ b, b ∈ blockOrder f → ∀ child ∈ f.successors b, child ∈ blockOrder f := by
  intro b member child linked
  exact successors_mem_walkOrder successors_mem_nodes header_mem_nodes nodes_card_lt member linked

/-- A walk that marks as visited what the list of the blocks entered so far holds enters the blocks
in their order. -/
theorem walk_order {σ : Type*} {V : Visitor Block σ} {R : σ → List Block → Prop}
    (sameMarks : ∀ s visited b, b ∈ blockOrder f → R s visited → V.seen s b = decide (b ∈ visited))
    (entered : ∀ s visited b, b ∈ blockOrder f → b ∉ visited → R s visited →
      R (V.enter s b) (visited ++ [b]))
    {s : σ} (start : R s []) : R (walk f V s) (blockOrder f) := by
  unfold walk blockOrder walkOrder
  apply Visitor.visit_simulates (W := order Block) (successors_mem_blockOrder (f := f)) sameMarks
    ?_ _ start header_mem_blockOrder
  intro s visited b inside related unseen
  rw [sameMarks s visited b inside related] at unseen
  exact entered s visited b inside (by simpa using unseen) related

/-- What entering a block of the file keeps, a walk keeps. -/
theorem walk_invariant {σ : Type*} {V : Visitor Block σ} {I : σ → Prop}
    (entered : ∀ s b, b ∈ blockOrder f → I s → V.seen s b = false → I (V.enter s b)) {s : σ}
    (start : I s) : I (walk f V s) :=
  Visitor.visit_invariant (successors_mem_blockOrder (f := f)) entered _ start
    header_mem_blockOrder

/-! ### Addresses -/

/-- The bytes before a block when `order` is laid out. -/
def offsetIn (size : Block → ℕ) (order : List Block) (b : Block) : ℕ :=
  ((order.takeWhile (· ≠ b)).map size).sum

private theorem offsetIn_concat_self {size : Block → ℕ} {order : List Block} {b : Block}
    (fresh : b ∉ order) : offsetIn size (order ++ [b]) b = (order.map size).sum := by
  unfold offsetIn
  rw [List.takeWhile_append_of_pos fun other member => by
    simpa using fun equal : other = b => fresh (equal ▸ member)]
  simp

private theorem offsetIn_append_of_mem {size : Block → ℕ} {order : List Block} {b : Block}
    (member : b ∈ order) (more : List Block) :
    offsetIn size (order ++ more) b = offsetIn size order b := by
  unfold offsetIn
  congr 2
  induction order with
  | nil => cases member
  | cons first order ih =>
    by_cases same : first = b
    · simp [same]
    · have later : b ∈ order := by
        rcases List.mem_cons.mp member with equal | later
        · exact absurd equal.symm same
        · exact later
      rw [List.cons_append, List.takeWhile_cons_of_pos (by simpa using same),
        List.takeWhile_cons_of_pos (by simpa using same), ih later]

/-- The address of a block of `order` when it is laid out after the identifier, zero for others. -/
def addressIn (size : Block → ℕ) (order : List Block) (b : Block) : ℕ :=
  if b ∈ order then idBlockSize + offsetIn size order b else 0

private theorem addressIn_concat {size : Block → ℕ} {order : List Block} {b : Block}
    (fresh : b ∉ order) :
    addressIn size (order ++ [b]) =
      Function.update (addressIn size order) b (idBlockSize + (order.map size).sum) := by
  funext other
  by_cases same : other = b
  · subst same
    simp [addressIn, offsetIn_concat_self fresh]
  · by_cases member : other ∈ order
    · simp [addressIn, same, member, offsetIn_append_of_mem member]
    · simp [addressIn, same, member]

theorem addressIn_ne_zero {size : Block → ℕ} {order : List Block} {b : Block} :
    addressIn size order b ≠ 0 ↔ b ∈ order := by
  unfold addressIn
  split_ifs with member
  · exact ⟨fun _ => member, fun _ => by unfold idBlockSize; omega⟩
  · simp [member]

/-- The second walk gives every reachable block the address of its place in the order. -/
theorem walk_resolve (contents : Contents) :
    (walk f (resolveVisitor f contents) (.clean, idBlockSize)).1 =
      { Marks.clean with address := addressIn (f.blockSize contents) (blockOrder f) } := by
  have related : (walk f (resolveVisitor f contents) (.clean, idBlockSize)).1 =
        { Marks.clean with address := addressIn (f.blockSize contents) (blockOrder f) } ∧
      (walk f (resolveVisitor f contents) (.clean, idBlockSize)).2 =
        idBlockSize + ((blockOrder f).map (f.blockSize contents)).sum := by
    apply walk_order (R := fun (s : Marks × ℕ) visited =>
      s.1 = { Marks.clean with address := addressIn (f.blockSize contents) visited } ∧
        s.2 = idBlockSize + (visited.map (f.blockSize contents)).sum) ?_ ?_ ⟨rfl, rfl⟩
    · rintro s visited b - ⟨marks, -⟩
      simp only [resolveVisitor, marks]
      exact decide_eq_decide.mpr addressIn_ne_zero
    · rintro s visited b - fresh ⟨marks, next⟩
      refine ⟨?_, ?_⟩
      · simp [resolveVisitor, marks, next, addressIn_concat fresh]
      · simp [resolveVisitor, next, Nat.add_assoc]
  exact related.1

/-! ### Taking marks away -/

/-- The marks that a file can have: none at all, or at least an address for every reachable
block. -/
def Marks.Regular (f : Description) (m : Marks) : Prop :=
  m = .clean ∨ (∀ b ∈ blockOrder f, m.address b ≠ 0) ∧ ∀ b ∉ blockOrder f, m.isClean b = true

private theorem Marks.eq_clean {m : Marks} (clean : ∀ b, m.isClean b = true) : m = .clean := by
  have both (b : Block) : m.address b = 0 ∧ m.isSerialized b = false := by
    simpa [isClean] using clean b
  ext b
  · exact (both b).1
  · exact (both b).2

/-- The first walk leaves every block clean. -/
theorem walk_reset {m : Marks} (regular : m.Regular f) : walk f resetVisitor m = .clean := by
  rcases regular with rfl | ⟨addressed, others⟩
  · rw [walk, walkDepth, Visitor.visit]
    simp [resetVisitor, Marks.isClean, Marks.clean]
  · have related : ∀ b, (walk f resetVisitor m).isClean b = true ↔
        (b ∈ blockOrder f ∨ b ∉ blockOrder f) := by
      apply walk_order (R := fun (m : Marks) visited => ∀ b, m.isClean b = true ↔
        (b ∈ visited ∨ b ∉ blockOrder f))
      · intro m visited b inside marked
        have agree := marked b
        simp only [inside, not_true_eq_false, or_false] at agree
        exact Bool.eq_iff_iff.mpr (agree.trans decide_eq_true_iff.symm)
      · intro m visited b inside _ marked other
        by_cases same : other = b
        · subst same
          simp [resetVisitor, Marks.isClean]
        · have before := marked other
          simpa [resetVisitor, Marks.isClean, same] using before
      · intro b
        by_cases inside : b ∈ blockOrder f
        · simp [inside, Marks.isClean, addressed b inside]
        · simp [inside, others b inside]
    apply Marks.eq_clean
    intro b
    exact (related b).mpr (em _)

/-! ### Writing -/

section Writing

variable {σ : Type*} {put : Put σ}

theorem putAll_append {stream stream' : σ} {first : List (List UInt8)}
    (taken : putAll put stream first = (true, stream')) (second : List (List UInt8)) :
    putAll put stream (first ++ second) = putAll put stream' second := by
  induction first generalizing stream with
  | nil =>
    obtain rfl := (Prod.mk.inj taken).2
    rfl
  | cons piece pieces ih =>
    rw [putAll] at taken
    rw [List.cons_append, putAll]
    cases answer : put stream piece with
    | mk accepted next =>
      cases accepted with
      | true =>
        rw [answer] at taken
        exact ih taken
      | false =>
        rw [answer] at taken
        cases taken

/-- The pieces that a piece was refused after stay refused when more pieces follow. -/
theorem putAll_refused {stream refused : σ} {pieces : List (List UInt8)}
    (stopped : putAll put stream pieces = (false, refused)) (more : List (List UInt8)) :
    putAll put stream (pieces ++ more) = (false, refused) := by
  induction pieces generalizing stream with
  | nil => cases stopped
  | cons piece pieces ih =>
    rw [putAll] at stopped
    rw [List.cons_append, putAll]
    cases answer : put stream piece with
    | mk accepted next =>
      cases accepted with
      | true =>
        rw [answer] at stopped
        exact ih stopped
      | false =>
        rw [answer] at stopped
        exact stopped

/-- What holds of the third walk until it stops: it wrote the visited blocks. -/
private structure Wrote (f : Description) (contents : Contents) (put : Put σ)
    (start s : Writing σ) (visited : List Block) : Prop where
  address : s.marks.address = start.marks.address
  serialized : ∀ b, s.marks.isSerialized b = decide (b ∈ visited)
  stream : putAll put start.stream (visited.map (f.bytes contents start.marks.address)) =
    (true, s.stream)
  bytesWritten : s.bytesWritten =
    start.bytesWritten + (visited.map f.serializedSize).sum

variable {contents : Contents} {start : Writing σ}

private theorem enter_eq (addressed : ∀ b ∈ blockOrder f, start.marks.address b ≠ 0)
    {s : Writing σ} {visited : List Block} (wrote : Wrote f contents put start s visited)
    {b : Block} (inside : b ∈ blockOrder f) :
    f.serialize contents s.marks.address b =
      some (f.bytes contents start.marks.address b) := by
  rw [wrote.address]
  apply serialize_eq
  intro target linked
  exact addressed target
    (successors_mem_blockOrder b inside target (link_mem_successors linked))

private theorem ends_write (contents : Contents) (put : Put σ) {start : Writing σ}
    (going : start.failed = false) (unwritten : ∀ b, start.marks.isSerialized b = false)
    (addressed : ∀ b ∈ blockOrder f, start.marks.address b ≠ 0) :
    Ends (writeVisitor f contents put) (fun s => s.failed = true) (Wrote f contents put start)
      (blockOrder f) (walk f (writeVisitor f contents put) start) := by
  unfold walk blockOrder walkOrder
  apply ends_visit (successors_mem_blockOrder (f := f)) ?_ ?_ ?_ _ ?_ ?_ header_mem_blockOrder
  · intro s b failed
    simp [writeVisitor, failed]
  · intro s visited b _ going wrote
    simp [writeVisitor, going, wrote.serialized]
  · intro s visited b inside fresh _ wrote completes
    have complete := enter_eq addressed wrote inside
    cases answer : put s.stream (f.bytes contents start.marks.address b) with
    | mk accepted next =>
      cases accepted with
      | false => simp [writeVisitor, complete, answer] at completes
      | true =>
        simp only [writeVisitor, complete, answer]
        refine ⟨wrote.address, fun other => ?_, ?_, ?_⟩
        · by_cases same : other = b
          · simp [same]
          · simp [same, wrote.serialized]
        · rw [List.map_append, putAll_append wrote.stream]
          simp [putAll, answer]
        · simp [wrote.bytesWritten, length_bytes, Nat.add_assoc]
  · simp [going]
  · exact ⟨rfl, by simpa using unwritten, rfl, rfl⟩

/-- The third walk hands the blocks to the stream in their order, up to the first that is
refused. -/
private theorem walk_write (contents : Contents) (put : Put σ) {start : Writing σ}
    (going : start.failed = false) (unwritten : ∀ b, start.marks.isSerialized b = false)
    (addressed : ∀ b ∈ blockOrder f, start.marks.address b ≠ 0) :
    let written := walk f (writeVisitor f contents put) start
    let pieces := (blockOrder f).map (f.bytes contents start.marks.address)
    putAll put start.stream pieces = (!written.failed, written.stream) ∧
      (written.failed = false → written.bytesWritten =
        start.bytesWritten + ((blockOrder f).map f.serializedSize).sum) := by
  intro written pieces
  have ends : Ends (writeVisitor f contents put) (fun s => s.failed = true)
      (Wrote f contents put start) (blockOrder f) written :=
    ends_write contents put going unwritten addressed
  -- The walk comes to its end, or stops at the first block that the stream refuses.
  cases ends with
  | all going wrote =>
    have going : written.failed = false := by simpa using going
    refine ⟨?_, fun _ => wrote.bytesWritten⟩
    rw [going]
    exact wrote.stream
  | early stop before going front b wrote order here =>
    obtain ⟨rest, order⟩ := order
    refine ⟨?_, fun going => by rw [stop] at going; cases going⟩
    have inside : b ∈ blockOrder f := by
      rw [← order]
      simp
    have complete := enter_eq addressed wrote inside
    have refused : put before.stream (f.bytes contents start.marks.address b) =
        (false, written.stream) := by
      cases answer : put before.stream (f.bytes contents start.marks.address b) with
      | mk accepted next =>
        rw [here] at stop ⊢
        cases accepted with
        | true => simp [writeVisitor, complete, answer, going] at stop
        | false => simp [writeVisitor, complete, answer]
    have stopped : putAll put start.stream
        ((front ++ [b]).map (f.bytes contents start.marks.address)) = (false, written.stream) := by
      rw [List.map_append, putAll_append wrote.stream]
      simp [putAll, refused]
    rw [stop]
    simp only [pieces]
    rw [← order, List.map_append]
    exact putAll_refused stopped _

/-- Whatever fails, a walk that writes leaves the addresses and the other blocks alone. -/
private theorem walk_write_marks (contents : Contents) (put : Put σ) {s : Writing σ}
    (untouched : ∀ b ∉ blockOrder f, s.marks.isSerialized b = false) :
    (walk f (writeVisitor f contents put) s).marks.address = s.marks.address ∧
      ∀ b ∉ blockOrder f,
        (walk f (writeVisitor f contents put) s).marks.isSerialized b = false := by
  apply walk_invariant (I := fun (t : Writing σ) => t.marks.address = s.marks.address ∧
    ∀ b ∉ blockOrder f, t.marks.isSerialized b = false)
  · rintro t b inside ⟨address, others⟩ -
    have kept : ∀ other ∉ blockOrder f,
        Function.update t.marks.isSerialized b true other = false := by
      intro other outside
      have different : other ≠ b := fun equal => outside (equal ▸ inside)
      rw [Function.update_of_ne different]
      exact others other outside
    unfold writeVisitor
    dsimp only
    split
    · exact ⟨address, others⟩
    · split
      · exact ⟨address, kept⟩
      · exact ⟨address, kept⟩
  · exact ⟨rfl, untouched⟩

/-- A walk that writes and gets to its end has written every block. -/
private theorem walk_write_serialized (contents : Contents) (put : Put σ) {start : Writing σ}
    (going : start.failed = false) (unwritten : ∀ b, start.marks.isSerialized b = false)
    (addressed : ∀ b ∈ blockOrder f, start.marks.address b ≠ 0)
    (ended : (walk f (writeVisitor f contents put) start).failed = false) :
    ∀ b ∈ blockOrder f,
      (walk f (writeVisitor f contents put) start).marks.isSerialized b = true := by
  intro b inside
  cases ends_write contents put going unwritten addressed with
  | all _ wrote =>
    rw [wrote.serialized]
    exact decide_eq_true inside
  | early stop =>
    rw [ended] at stop
    cases stop

end Writing

/-! ### The data block comes last -/

/-- The header, the data group and the data block. -/
private def isTrunk : Block → Bool
  | .header | .dataGroup | .data => true
  | _ => false

/-- Only the header leads to the data group, and only the data group to the data block. -/
private theorem trunk_mem_successors {b child : Block} (trunk : isTrunk child = true)
    (linked : child ∈ f.successors b) :
    (b = .header ∧ child = .dataGroup) ∨ (b = .dataGroup ∧ child = .data) := by
  -- Every other kind of link leads to a block of its own kind, which is not on the trunk.
  have noGroup (i) : f.groupLink i ≠ some child := by
    intro link
    obtain ⟨_, _, rfl⟩ := Option.map_eq_some_iff.mp link
    cases trunk
  have noChannel (i j) : f.channelLink i j ≠ some child := by
    intro link
    obtain ⟨_, _, rfl⟩ := Option.map_eq_some_iff.mp link
    cases trunk
  have noMember (i j k) : f.memberLink i j k ≠ some child := by
    intro link
    obtain ⟨_, _, rfl⟩ := Option.map_eq_some_iff.mp link
    cases trunk
  have noText (name : Option Text) : name.map Block.text ≠ some child := by
    intro link
    obtain ⟨_, _, rfl⟩ := Option.map_eq_some_iff.mp link
    cases trunk
  have noText' (name : Text) : Block.text name ≠ child := by
    rintro rfl
    cases trunk
  have noSource (source : Option ℕ) : source.bind f.sourceLink ≠ some child := by
    intro link
    obtain ⟨_, _, link'⟩ := Option.bind_eq_some_iff.mp link
    obtain ⟨_, _, rfl⟩ := Option.map_eq_some_iff.mp link'
    cases trunk
  have noConversion (conversion : Option ℕ) : conversion.bind f.conversionLink ≠ some child := by
    intro link
    obtain ⟨_, _, link'⟩ := Option.bind_eq_some_iff.mp link
    obtain ⟨_, _, rfl⟩ := Option.map_eq_some_iff.mp link'
    cases trunk
  have noSignal (signal : Option ℕ) : signal.bind f.groupLink ≠ some child := by
    intro link
    obtain ⟨i, _, link'⟩ := Option.bind_eq_some_iff.mp link
    exact noGroup i link'
  have noComment (comment : Option Text) (block : Block) (leaf : isTrunk block = false) :
      comment.map (fun _ => block) ≠ some child := by
    intro link
    obtain ⟨_, _, rfl⟩ := Option.map_eq_some_iff.mp link
    rw [trunk] at leaf
    cases leaf
  rw [successors, List.reduceOption_mem_iff, List.mem_append, List.mem_singleton] at linked
  cases b with
  | header =>
    simp only [children, next, List.mem_cons, List.not_mem_nil, or_false, reduceCtorEq, false_or,
      Option.some.injEq] at linked
    rcases linked with comment | rfl | rfl
    · exact absurd comment.symm (noComment _ _ rfl)
    · cases trunk
    · exact .inl ⟨rfl, rfl⟩
  | fileHistory =>
    simp only [children, next, List.mem_cons, List.not_mem_nil, or_false, reduceCtorEq,
      Option.some.injEq] at linked
    subst linked
    cases trunk
  | dataGroup =>
    simp only [children, next, List.mem_cons, List.not_mem_nil, or_false, reduceCtorEq, false_or,
      Option.some.injEq] at linked
    rcases linked with group | rfl
    · exact absurd group.symm (noGroup 0)
    · exact .inr ⟨rfl, rfl⟩
  | group i =>
    simp only [children, next] at linked
    cases found : f.groups[i]? with
    | none =>
      simp only [found, List.not_mem_nil, false_or] at linked
      exact absurd linked.symm (noGroup _)
    | some g =>
      simp only [found, List.mem_cons, List.not_mem_nil, or_false, reduceCtorEq, false_or]
        at linked
      rcases linked with (comment | name | source | channel) | next
      · exact absurd comment.symm (noComment _ _ rfl)
      · exact absurd name.symm (noText _)
      · exact absurd source.symm (noSource _)
      · exact absurd channel.symm (noChannel _ _)
      · exact absurd next.symm (noGroup _)
  | channel i j =>
    simp only [children, next] at linked
    cases found : f.channel? i j with
    | none =>
      simp only [found, List.not_mem_nil, false_or] at linked
      exact absurd linked.symm (noChannel _ _)
    | some c =>
      simp only [found, List.mem_cons, List.not_mem_nil, or_false, reduceCtorEq, false_or]
        at linked
      rcases linked with (comment | name | unit | conversion | member) | next
      · exact absurd comment.symm (noComment _ _ rfl)
      · exact absurd name.symm (noText _)
      · exact absurd unit.symm (noText _)
      · exact absurd conversion.symm (noConversion _)
      · exact absurd member.symm (noMember _ _ _)
      · exact absurd next.symm (noChannel _ _)
  | member i j k =>
    simp only [children, next] at linked
    cases found : f.member? i j k with
    | none =>
      simp only [found, List.not_mem_nil, false_or] at linked
      exact absurd linked.symm (noMember _ _ _)
    | some m =>
      simp only [found, List.mem_cons, List.not_mem_nil, or_false, reduceCtorEq, false_or,
        Option.some.injEq] at linked
      rcases linked with (name | signal) | next
      · exact absurd name.symm (noText' _)
      · exact absurd signal.symm (noSignal _)
      · exact absurd next.symm (noMember _ _ _)
  | source k =>
    simp only [children, next] at linked
    cases found : f.sources[k]? with
    | none => simp [found] at linked
    | some s =>
      simp only [found, List.mem_cons, List.not_mem_nil, or_false, reduceCtorEq] at linked
      rcases linked with name | path
      · exact absurd name.symm (noText _)
      · exact absurd path.symm (noText _)
  | conversion k =>
    simp only [children, next] at linked
    cases found : f.conversions[k]? with
    | none => simp [found] at linked
    | some formula =>
      simp only [found, List.mem_cons, List.not_mem_nil, or_false, reduceCtorEq, false_or,
        Option.some.injEq] at linked
      exact absurd linked.symm (noText' _)
  | _ => simp [children, next] at linked

/-- Links lead from a block outside of the trunk to such blocks only. -/
private theorem not_trunk_of_leads {b target : Block} (leaf : isTrunk b = false)
    (leads : Leads f.successors b target) : isTrunk target = false := by
  induction leads with
  | refl => exact leaf
  | @tail middle target _ linked ih =>
    cases trunk : isTrunk target with
    | false => rfl
    | true =>
      rcases trunk_mem_successors trunk linked with ⟨rfl, -⟩ | ⟨rfl, -⟩
      · cases ih
      · cases ih

/-- A walk from blocks outside of the trunk does not come to the trunk. -/
private theorem not_mem_foldl_visit {b : Block} (trunk : isTrunk b = true) (depth : ℕ)
    {visited rest : List Block} (fresh : b ∉ visited) (leaves : ∀ c ∈ rest, isTrunk c = false) :
    b ∉ rest.foldl ((order Block).visit f.successors depth) visited := by
  intro member
  rcases leads_of_mem_foldl_visit depth member with before | ⟨child, isChild, leads⟩
  · exact fresh before
  · have leaf := not_trunk_of_leads (leaves child isChild) leads
    rw [trunk] at leaf
    cases leaf

private theorem walkDepth_eq : ∃ depth, walkDepth f = depth + 3 := by
  have some_nodes : ({.header, .dataGroup} : Finset Block) ⊆ f.nodes := by
    intro b member
    simp only [Finset.mem_insert, Finset.mem_singleton] at member
    rcases member with rfl | rfl
    · simp [nodes, namedBlocks]
    · simp [nodes, namedBlocks]
  have two : 2 ≤ f.nodes.card := Finset.card_le_card some_nodes
  refine ⟨f.nodes.card - 2, ?_⟩
  unfold walkDepth
  omega

/-- The data block is the last one that a walk enters. -/
theorem blockOrder_eq_concat_data : ∃ front, blockOrder f = front ++ [.data] := by
  obtain ⟨depth, deep⟩ := walkDepth_eq (f := f)
  have unseen {visited : List Block} {b : Block} (fresh : b ∉ visited) (depth : ℕ) :
      (order Block).visit f.successors (depth + 1) visited b =
        (f.successors b).foldl ((order Block).visit f.successors depth) (visited ++ [b]) := by
    rw [Visitor.visit, if_neg (by simpa [order] using fresh)]
    rfl
  have fromHeader : f.successors .header =
      (f.headerComment.map fun _ => Block.headerComment).toList ++ [.fileHistory] ++
        [.dataGroup] := by
    cases comment : f.headerComment <;> simp [successors, children, next, comment,
      List.reduceOption]
  have fromDataGroup : f.successors .dataGroup = (f.groupLink 0).toList ++ [.data] := by
    cases first : f.groupLink 0 <;> simp [successors, children, next, first, List.reduceOption]
  have fromData : f.successors .data = [] := rfl
  -- what precedes the data group does not lead to it or to the data block
  have leaves : ∀ c ∈ (f.headerComment.map fun _ => Block.headerComment).toList ++
      [Block.fileHistory], isTrunk c = false := by
    intro c member
    cases comment : f.headerComment with
    | none =>
      simp only [comment, Option.map_none, Option.toList_none, List.nil_append,
        List.mem_singleton] at member
      rw [member]
      rfl
    | some text =>
      simp only [comment, Option.map_some, Option.toList_some, List.cons_append,
        List.nil_append, List.mem_cons, List.not_mem_nil, or_false] at member
      rcases member with rfl | rfl
      · rfl
      · rfl
  have groupLeaves : ∀ c ∈ (f.groupLink 0).toList, isTrunk c = false := by
    intro c member
    obtain ⟨_, _, rfl⟩ := Option.map_eq_some_iff.mp (Option.mem_toList.mp member)
    rfl
  rw [blockOrder, walkOrder, deep, unseen List.not_mem_nil, fromHeader, List.foldl_append,
    List.foldl_cons, List.foldl_nil]
  have beforeGroup := not_mem_foldl_visit (f := f) rfl (depth + 2)
    (by simp : Block.dataGroup ∉ [] ++ [Block.header]) leaves
  have beforeData := not_mem_foldl_visit (f := f) rfl (depth + 2)
    (by simp : Block.data ∉ [] ++ [Block.header]) leaves
  rw [unseen beforeGroup, fromDataGroup, List.foldl_append, List.foldl_cons, List.foldl_nil]
  have afterGroup := List.not_mem_append beforeData
    (by simp : Block.data ∉ [Block.dataGroup])
  have last := not_mem_foldl_visit (f := f) rfl (depth + 1) afterGroup groupLeaves
  rw [unseen last, fromData]
  exact ⟨_, rfl⟩

/-! ### The layout of a header -/

/-- The blocks that a block links to. -/
def linked (f : Description) (b : Block) : List Block := (f.links b).reduceOption

/-- What the bytes of a header have to be: the identifier, then the blocks that links lead to from
the header, each once, with the data block last. -/
structure Layout (f : Description) (contents : Contents) (address : Block → ℕ)
    (order : List Block) (output : List UInt8) : Prop where
  /-- Each block once. -/
  once : order.Nodup
  /-- The blocks are those that links lead to. -/
  reachable : ∀ b, b ∈ order ↔ Leads (linked f) .header b
  /-- Nothing but the blocks is written. -/
  bytes : output = idBlockBytes false unfinalizedFlags ++
    order.flatMap (f.bytes contents address)
  /-- A block starts where its predecessors end. -/
  contiguous : ∀ before b after, order = before ++ b :: after →
    address b = idBlockSize + (before.map f.serializedSize).sum
  /-- A block is at its address. -/
  placed : ∀ b ∈ order,
    (output.drop (address b)).take (f.serializedSize b) = f.bytes contents address b
  /-- The links of a block are stored as the addresses of the blocks they name, in their order. -/
  links : ∀ b ∈ order, ∀ n link, (f.links b)[n]? = some link →
    (output.drop (address b + 24 + 8 * n)).take 8 = leBytes 8 (link.elim 0 address) ∧
      ∀ target, link = some target → target ∈ order
  /-- The records can follow. -/
  last : order.getLast? = some .data

private theorem linked_eq_successors {b target : Block} :
    target ∈ linked f b ↔ target ∈ f.successors b := by
  unfold linked
  rw [List.reduceOption_mem_iff]
  exact ⟨link_mem_successors, mem_links_of_mem_successors⟩

private theorem leads_linked_iff {b target : Block} :
    Leads (linked f) b target ↔ Leads f.successors b target := by
  have same : (fun a b => b ∈ linked f a) = fun a b => b ∈ f.successors a := by
    funext a b
    exact propext linked_eq_successors
  unfold Leads
  rw [same]

private theorem offsetIn_eq {size : Block → ℕ} {before after : List Block} {b : Block}
    (fresh : b ∉ before) :
    offsetIn size (before ++ b :: after) b = (before.map size).sum := by
  have member : b ∈ before ++ [b] := by simp
  have first : offsetIn size (before ++ [b] ++ after) b = _ := offsetIn_append_of_mem member after
  rw [List.append_assoc, List.singleton_append] at first
  rw [first, offsetIn_concat_self fresh]

@[simp] theorem length_idBlockBytes (isFinalized : Bool) (standardFlags : ℕ) :
    (idBlockBytes isFinalized standardFlags).length = idBlockSize := by
  cases isFinalized <;> simp [idBlockBytes, idBlockSize]

private theorem length_flatMap_bytes (contents : Contents) (address : Block → ℕ)
    (blocks : List Block) :
    (blocks.flatMap (f.bytes contents address)).length = (blocks.map f.serializedSize).sum := by
  induction blocks with
  | nil => rfl
  | cons b blocks ih => simp [ih, length_bytes]

/-- The bytes of a link in the bytes of its block. -/
private theorem take_drop_links {contents : Contents} {address : Block → ℕ} {b : Block} {n : ℕ}
    {link : Option Block} (stored : (f.links b)[n]? = some link) (rest : List UInt8) :
    ((f.bytes contents address b ++ rest).drop (24 + 8 * n)).take 8 =
      leBytes 8 (link.elim 0 address) := by
  obtain ⟨bound, found⟩ := List.getElem?_eq_some_iff.mp stored
  have split : f.links b = (f.links b).take n ++ link :: (f.links b).drop (n + 1) := by
    rw [← found, List.cons_getElem_drop_succ, List.take_append_drop]
  have identifier : (idText b).length = 2 := by cases b <;> rfl
  let front := [35, 35] ++ idText b ++ List.replicate 4 0 ++ leBytes 8 (f.blockSize contents b) ++
    leBytes 8 (f.links b).length ++ linkBytes address ((f.links b).take n)
  have frontLength : front.length = 24 + 8 * n := by
    simp only [front, List.length_append, List.length_cons, List.length_nil, List.length_replicate,
      length_leBytes, length_linkBytes, identifier, List.length_take, Nat.min_eq_left bound.le]
  have cut : f.bytes contents address b ++ rest = front ++ (leBytes 8 (link.elim 0 address) ++
      (linkBytes address ((f.links b).drop (n + 1)) ++ f.payload contents b ++ rest)) := by
    have inLinks : linkBytes address (f.links b) = linkBytes address ((f.links b).take n) ++
        (leBytes 8 (link.elim 0 address) ++ linkBytes address ((f.links b).drop (n + 1))) := by
      conv_lhs => rw [split]
      simp [linkBytes]
    simp [bytes, front, inLinks]
  rw [cut, ← frontLength, List.drop_left, List.take_left' (length_leBytes 8 _)]

/-- The blocks in their order, each with its address, make a layout. -/
theorem layout_blockOrder (contents : Contents) :
    Layout f contents (addressIn f.serializedSize (blockOrder f)) (blockOrder f)
      (idBlockBytes false unfinalizedFlags ++
        (blockOrder f).flatMap
          (f.bytes contents (addressIn f.serializedSize (blockOrder f)))) := by
  have contiguous : ∀ before b after, blockOrder f = before ++ b :: after →
      addressIn f.serializedSize (blockOrder f) b =
        idBlockSize + (before.map f.serializedSize).sum := by
    intro before b after split
    have distinct := blockOrder_nodup (f := f)
    rw [split] at distinct ⊢
    have fresh : b ∉ before := fun member =>
      (List.nodup_append.mp distinct).2.2 b member b List.mem_cons_self rfl
    rw [addressIn, if_pos (by simp), offsetIn_eq fresh]
  -- at the address of a block its bytes come next
  have dropped : ∀ b ∈ blockOrder f, ∃ rest,
      (idBlockBytes false unfinalizedFlags ++ (blockOrder f).flatMap
        (f.bytes contents (addressIn f.serializedSize (blockOrder f)))).drop
          (addressIn f.serializedSize (blockOrder f) b) =
        f.bytes contents (addressIn f.serializedSize (blockOrder f)) b ++ rest := by
    intro b member
    obtain ⟨before, after, split⟩ := List.append_of_mem member
    refine ⟨after.flatMap (f.bytes contents (addressIn f.serializedSize (blockOrder f))), ?_⟩
    rw [contiguous before b after split]
    generalize addressIn f.serializedSize (blockOrder f) = address
    rw [split, List.flatMap_append, List.flatMap_cons, ← List.append_assoc]
    apply List.drop_left'
    rw [List.length_append, length_idBlockBytes, length_flatMap_bytes]
  refine ⟨blockOrder_nodup, ?_, rfl, contiguous, ?_, ?_, ?_⟩
  · intro b
    exact mem_blockOrder_iff.trans leads_linked_iff.symm
  · intro b member
    obtain ⟨rest, at_address⟩ := dropped b member
    rw [at_address, List.take_left' (length_bytes _ _ _)]
  · intro b member n link stored
    obtain ⟨rest, at_address⟩ := dropped b member
    constructor
    · rw [Nat.add_assoc, ← List.drop_drop, at_address, take_drop_links stored]
    · rintro target rfl
      exact successors_mem_blockOrder b member target
        (link_mem_successors (List.mem_of_getElem? stored))
  · obtain ⟨front, concat⟩ := blockOrder_eq_concat_data (f := f)
    rw [concat, List.getLast?_concat]

/-! ### Any header of a file -/

private theorem blockSize_eq {contents : Contents} (empty : contents.dataSizeBytes = 0) :
    f.blockSize contents = f.serializedSize := by
  funext b
  simp [blockSize, empty]

/-- The marks after the second walk. -/
private def resolvedMarks (f : Description) : Marks :=
  { Marks.clean with address := addressIn f.serializedSize (blockOrder f) }

private theorem resolvedMarks_address_ne_zero :
    ∀ b ∈ blockOrder f, (resolvedMarks f).address b ≠ 0 := by
  intro b member
  exact addressIn_ne_zero.mpr member

private theorem regular_of_address {m : Marks} (same : m.address = (resolvedMarks f).address)
    (others : ∀ b ∉ blockOrder f, m.isSerialized b = false) : m.Regular f := by
  right
  constructor
  · intro b member
    rw [same]
    exact resolvedMarks_address_ne_zero b member
  · intro b outside
    simp [Marks.isClean, same, others b outside, resolvedMarks, addressIn, outside]

namespace Mdf4File

/-- What holds of a file between its header calls. -/
structure Sound (f : Description) (file : Mdf4File) : Prop where
  marks : file.marks.Regular f
  flags : file.standardFlags = 0 ∨ file.standardFlags = unfinalizedFlags

theorem Sound.fresh : Sound f fresh where
  marks := .inl rfl
  flags := .inl rfl

/-- The pieces that a header call hands to its stream. -/
def headerPieces (f : Description) (call : HeaderCall) : List (List UInt8) :=
  idBlockBytes false unfinalizedFlags :: (blockOrder f).map
    (f.bytes call.contents (addressIn f.serializedSize (blockOrder f)))

private theorem layout_headerPieces (call : HeaderCall) :
    Layout f call.contents (addressIn f.serializedSize (blockOrder f)) (blockOrder f)
      (headerPieces f call).flatten := by
  have layout := layout_blockOrder (f := f) call.contents
  rwa [List.flatMap_def] at layout

theorem length_flatten_headerPieces (call : HeaderCall) :
    (headerPieces f call).flatten.length =
      idBlockSize + ((blockOrder f).map f.serializedSize).sum := by
  rw [headerPieces, List.flatten_cons, ← List.flatMap_def, List.length_append,
    length_idBlockBytes, length_flatMap_bytes]

/-- The header ends with the data block. -/
theorem address_data_add_size :
    addressIn f.serializedSize (blockOrder f) .data + f.serializedSize .data =
      idBlockSize + ((blockOrder f).map f.serializedSize).sum := by
  obtain ⟨front, concat⟩ := blockOrder_eq_concat_data (f := f)
  have place := (layout_blockOrder (f := f) { startTimeNs := 0 }).contiguous front .data [] concat
  rw [place, concat]
  simp [Nat.add_assoc]

section Stream

variable {σ : Type*}

/-- A header call hands the blocks in their order to its stream and returns when the stream takes
all of them; whatever happens, the file is sound again. -/
theorem writeHeaderToStream_spec {file : Mdf4File} (sound : Sound f file) (put : Put σ)
    (call : HeaderCall) (stream : σ) :
    let result := file.writeHeaderToStream f put call stream
    Sound f result.file ∧
      (call.writersAccept = true →
        ((putAll put stream (headerPieces f call)).1 = true →
          result.returned = some (headerPieces f call).flatten.length) ∧
        result.stream = (putAll put stream (headerPieces f call)).2) ∧
      (∀ count, result.returned = some count →
        putAll put stream (headerPieces f call) = (true, result.stream) ∧
          count = (headerPieces f call).flatten.length ∧
          result.file.marks.address = addressIn f.serializedSize (blockOrder f)) := by
  intro result
  -- The three walks: the marks of an earlier call are cleared, the addresses given out, the blocks
  -- written.
  have reset : walk f resetVisitor file.marks = .clean := walk_reset sound.marks
  have resolved :
      (walk f (resolveVisitor f call.contents) (.clean, idBlockSize)).1 = resolvedMarks f := by
    rw [walk_resolve, blockSize_eq rfl]
    rfl
  have flags : file.standardFlags ||| unfinalizedFlags = unfinalizedFlags := by
    rcases sound.flags with zero | set
    · rw [zero]
      rfl
    · rw [set]
      rfl
  have unwritten (b : Block) : (resolvedMarks f).isSerialized b = false := rfl
  simp only [result, writeHeaderToStream]
  cases accepts : call.writersAccept with
  | false => exact ⟨⟨sound.marks, sound.flags⟩, nofun, nofun⟩
  | true =>
    simp only [reset, resolved, flags, Bool.not_true, Bool.false_eq_true, if_false, true_implies]
    cases answer : put stream (idBlockBytes false unfinalizedFlags) with
    | mk accepted started =>
      cases accepted with
      | false =>
        refine ⟨⟨regular_of_address rfl fun _ _ => rfl, .inr rfl⟩, ?_, nofun⟩
        simp [headerPieces, putAll, answer]
      | true =>
        let start : Writing σ :=
          { marks := resolvedMarks f, stream := started, bytesWritten := idBlockSize }
        obtain ⟨handed, counted⟩ : _ ∧ (_ → _ = start.bytesWritten + _) :=
          walk_write call.contents put rfl unwritten resolvedMarks_address_ne_zero
        obtain ⟨address, others⟩ := walk_write_marks (f := f) call.contents put (s := start)
          (fun b _ => unwritten b)
        have pieces : putAll put stream (headerPieces f call) =
            (!(walk f (writeVisitor f call.contents put) start).failed,
              (walk f (writeVisitor f call.contents put) start).stream) := by
          rw [← handed, headerPieces, putAll, answer]
          rfl
        have marks := regular_of_address address others
        cases failed : (walk f (writeVisitor f call.contents put) start).failed with
        | true =>
          rw [failed] at pieces
          rw [pieces]
          simp only [start] at failed marks ⊢
          rw [if_pos failed]
          exact ⟨⟨marks, .inr rfl⟩, ⟨nofun, rfl⟩, nofun⟩
        | false =>
          have count : (walk f (writeVisitor f call.contents put) start).bytesWritten =
              (headerPieces f call).flatten.length := by
            rw [counted failed, length_flatten_headerPieces]
          -- The size that the call returns is where the data ends.
          have last : (headerPieces f call).flatten.length =
              (resolvedMarks f).address .data + f.serializedSize .data := by
            rw [length_flatten_headerPieces, ← address_data_add_size]
            rfl
          rw [failed] at pieces
          rw [pieces]
          simp only [start] at failed marks count address ⊢
          rw [failed, count, last, if_neg Bool.false_ne_true, if_neg (not_not.mpr rfl)]
          refine ⟨⟨marks, .inr rfl⟩, ⟨fun _ => rfl, rfl⟩, ?_⟩
          rintro _ ⟨⟩
          exact ⟨rfl, rfl, address⟩

/-- After a header call that returns every block is written. -/
theorem isSerialized_of_returned {file : Mdf4File} (sound : Sound f file) {put : Put σ}
    {call : HeaderCall} {stream : σ} {count : ℕ}
    (returned : (file.writeHeaderToStream f put call stream).returned = some count) :
    ∀ b ∈ blockOrder f,
      (file.writeHeaderToStream f put call stream).file.marks.isSerialized b = true := by
  have reset : walk f resetVisitor file.marks = .clean := walk_reset sound.marks
  have resolved :
      (walk f (resolveVisitor f call.contents) (.clean, idBlockSize)).1 = resolvedMarks f := by
    rw [walk_resolve, blockSize_eq rfl]
    rfl
  unfold writeHeaderToStream at returned ⊢
  dsimp only at returned ⊢
  rw [reset, resolved] at returned ⊢
  by_cases refused : (!call.writersAccept) = true
  · rw [if_pos refused] at returned
    cases returned
  rw [if_neg refused] at returned ⊢
  generalize put stream _ = answer at returned ⊢
  obtain ⟨accepted, started⟩ := answer
  cases accepted with
  | false => cases returned
  | true =>
    dsimp only at returned ⊢
    split_ifs at returned ⊢ with failed short
    · exact walk_write_serialized call.contents put rfl (fun _ => rfl)
        resolvedMarks_address_ne_zero ((Bool.not_eq_true _).mp failed)

theorem Sound.step {file : Mdf4File} (sound : Sound f file) (event : Event) :
    Sound f (file.step f event) := by
  cases event with
  | header call failAt => exact (writeHeaderToStream_spec sound (refusing failAt) call 0).1
  | count counters dataSizeBytes => exact ⟨sound.marks, sound.flags⟩
  | finalizeId complete => exact ⟨sound.marks, .inl rfl⟩

theorem sound_run (events : List Event) : Sound f (run (step f) fresh events) :=
  run_invariant .fresh (fun _ event holds => holds.step event) events

/-- After any events, among them headers that failed, a header call that returns has handed to its
stream every block that links lead to from the header, each once and at its address, and has done
what it does on a fresh file with the same description and start time. It returns unless the
record writers reject the description or the stream refuses a block. -/
theorem header_layout (f : Description) (put : Put σ) (events : List Event) (call : HeaderCall)
    (stream : σ) :
    let result := (run (step f) fresh events).writeHeaderToStream f put call stream
    (∀ count, result.returned = some count → ∃ pieces order,
      putAll put stream pieces = (true, result.stream) ∧ count = pieces.flatten.length ∧
        Layout f call.contents result.file.marks.address order pieces.flatten ∧
        (fresh.writeHeaderToStream f put { startTimeNs := call.startTimeNs } stream).returned =
          some count ∧
        (fresh.writeHeaderToStream f put { startTimeNs := call.startTimeNs } stream).stream =
          result.stream) ∧
      (call.writersAccept = true → (∀ s piece, (put s piece).1 = true) →
        ∃ count, result.returned = some count) := by
  intro result
  obtain ⟨-, completes, returns⟩ := writeHeaderToStream_spec (sound_run events) put call stream
  obtain ⟨-, first, -⟩ := writeHeaderToStream_spec (f := f) .fresh put
    { startTimeNs := call.startTimeNs } stream
  constructor
  · intro count returned
    obtain ⟨handed, total, addresses⟩ := returns count returned
    have samePieces : putAll put stream (headerPieces f { startTimeNs := call.startTimeNs }) =
        (true, result.stream) := handed
    refine ⟨headerPieces f call, blockOrder f, handed, total, ?_, ?_, ?_⟩
    · rw [addresses]
      exact layout_headerPieces call
    · rw [total]
      apply (first rfl).1
      rw [samePieces]
    · rw [(first rfl).2, samePieces]
  · intro accepts takes
    have all (pieces : List (List UInt8)) (stream : σ) : (putAll put stream pieces).1 = true := by
      induction pieces generalizing stream with
      | nil => rfl
      | cons piece pieces ih =>
        have taken : put stream piece = (true, (put stream piece).2) :=
          Prod.ext (takes stream piece) rfl
        rw [putAll, taken]
        exact ih _
    exact ⟨_, (completes accepts).1 (all _ _)⟩

end Stream

/-- A file with a CAN group, whose data bytes lead to the group of payloads before it. -/
def canExample : Description where
  recordIdSizeBytes := 1
  fileHistoryComment := []
  groups := [
    { recordId := 1, flags := vlsdChannelFlag },
    { recordId := 2, name := some [67], channels := [{
        name := some [68]
        fields := { dataType := .byteArray, bitCount := 64 }
        members := [{
          name := [69]
          fields := { type := .variableLength, dataType := .byteArray, bitCount := 64 }
          signalData := some 0 }] }] }]

/-- A stream that takes everything. -/
def recording : Put (List UInt8) := fun output piece => (true, output ++ piece)

/-- The header of a second file, after a first one that the stream refused in the middle. -/
theorem header_layout_canExample : ∃ count, ((run (step canExample) fresh
      [.header { startTimeNs := 5 } (some 4), .finalizeId false]).writeHeaderToStream
        canExample recording { startTimeNs := 9 } []).returned = some count ∧
    (fresh.writeHeaderToStream canExample recording { startTimeNs := 9 } []).returned =
      some count := by
  obtain ⟨layout, completes⟩ := header_layout canExample recording
    [.header { startTimeNs := 5 } (some 4), .finalizeId false] { startTimeNs := 9 } []
  obtain ⟨count, returned⟩ := completes rfl (fun _ _ => rfl)
  obtain ⟨pieces, order, -, -, -, same, -⟩ := layout count returned
  exact ⟨count, returned, same⟩

end Mdf4File

end RtCore.Mdf
