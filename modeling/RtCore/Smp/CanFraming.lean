import Mathlib.Data.List.Basic
import Mathlib.Tactic.Linarith
import RtCore.Smp.Header

/-!
# SMP packets on CAN frames

A packet is cut into frames of one control byte and packet data. `SmpCanFramer`
writes the frames of a packet, `SmpCanReassembler` puts them together again in a
buffer of its caller and drops whatever the framer would not have sent.

## Main definitions

* `SmpCanFrameFormat` — the sizes of the frames of one bus
* `SmpCanFramer`, `SmpCanFramer.frames` — the frames of a packet
* `SmpCanReassembler`, `SmpCanReassembler.accept` — reception of one frame
* `SmpCanFramer.Sends` — the frames a framer has still to send, up to padding

## Main results

* `SmpCanFramer.sends_frames` — the sender's loop sends the whole packet
* `SmpCanReassembler.accept_cases`, `SmpCanReassembler.append_cases` — what a frame
  can do to the packet in progress
-/

namespace RtCore.Smp

/-! ### Frame format -/

/-- One control byte `S:1 | seq:7`, then packet data. -/
structure SmpCanFrameFormat where
  isCanFd : Bool
deriving DecidableEq, Repr

namespace SmpCanFrameFormat

/-- The frame lengths of CAN FD above 8 bytes. -/
def canFdLengths : List ℕ := [12, 16, 20, 24, 32, 48, 64]
/-- The longest frame of classical CAN. -/
def classicFrameSize : ℕ := 8
/-- The longest frame of CAN FD. -/
def canFdFrameSize : ℕ := 64
/-- Set in the first frame of a packet. -/
def startFlag : UInt8 := 0x80
/-- Frame index within the packet, wrapping at 128. -/
def sequenceMask : UInt8 := 0x7F

/-- Length of every frame of a packet but the last. -/
def getFrameSize (format : SmpCanFrameFormat) : ℕ :=
  if format.isCanFd then canFdFrameSize else classicFrameSize

/-- Packet bytes in every frame of a packet but the last. -/
def getDataSize (format : SmpCanFrameFormat) : ℕ := format.getFrameSize - 1

/-- Smallest frame length that holds `size` bytes. -/
def getPaddedSize (format : SmpCanFrameFormat) (size : ℕ) : ℕ :=
  if !format.isCanFd || size ≤ classicFrameSize then size
  else (canFdLengths.find? fun length => decide (size ≤ length)).getD size

/-- Number of frames for a packet of `packetSize` bytes. -/
def getFrameCount (format : SmpCanFrameFormat) (packetSize : ℕ) : ℕ :=
  (packetSize + format.getDataSize - 1) / format.getDataSize

variable (format : SmpCanFrameFormat)

theorem getFrameSize_eq : format.getFrameSize = format.getDataSize + 1 := by
  cases format with
  | mk isCanFd => cases isCanFd <;> rfl

theorem seven_le_getDataSize : 7 ≤ format.getDataSize := by
  cases format with
  | mk isCanFd => cases isCanFd <;> decide

theorem le_getPaddedSize (size : ℕ) : size ≤ format.getPaddedSize size := by
  unfold getPaddedSize
  split
  · exact le_rfl
  · cases found : canFdLengths.find? fun length => decide (size ≤ length) with
    | none => exact le_rfl
    | some length => simpa using List.find?_some found

/-- A full frame carries no padding. -/
theorem getPaddedSize_getFrameSize : format.getPaddedSize format.getFrameSize =
    format.getFrameSize := by
  cases format with
  | mk isCanFd => cases isCanFd <;> rfl

/-- Padding never makes a frame longer than a full one. -/
theorem getPaddedSize_le {size : ℕ} (fits : size ≤ format.getFrameSize) :
    format.getPaddedSize size ≤ format.getFrameSize := by
  unfold getPaddedSize
  split
  · exact fits
  · rename_i padded
    cases found : canFdLengths.find? fun length => decide (size ≤ length) with
    | none => exact fits
    | some length =>
      have valid : ∀ length ∈ canFdLengths, length ≤ canFdFrameSize := by decide
      simp only [Bool.or_eq_true, Bool.not_eq_true', not_or, Bool.not_eq_false] at padded
      rw [getFrameSize, if_pos padded.1]
      exact valid length (List.mem_of_find?_eq_some found)

theorem getFrameCount_zero : format.getFrameCount 0 = 0 := by
  have := format.seven_le_getDataSize
  exact Nat.div_eq_of_lt (by omega)

theorem getFrameCount_eq_succ {packetSize : ℕ} (nonempty : 0 < packetSize) :
    format.getFrameCount packetSize
      = format.getFrameCount (packetSize - min format.getDataSize packetSize) + 1 := by
  have := format.seven_le_getDataSize
  unfold getFrameCount
  by_cases more : format.getDataSize ≤ packetSize
  · rw [min_eq_left more, ← Nat.add_div_right _ (by omega)]
    congr 1
    omega
  · rw [min_eq_right (by omega), Nat.sub_self]
    have none : (0 + format.getDataSize - 1) / format.getDataSize = 0 :=
      Nat.div_eq_of_lt (by omega)
    have one : (packetSize + format.getDataSize - 1) / format.getDataSize = 1 :=
      Nat.div_eq_of_lt_le (by omega) (by omega)
    rw [none, one]

end SmpCanFrameFormat

/-! ### Framer -/

/-- Splits a packet into frames. -/
structure SmpCanFramer where
  packet : List UInt8
  format : SmpCanFrameFormat
  offset : ℕ := 0
  sequence : UInt8 := 0
deriving DecidableEq, Repr

namespace SmpCanFramer

open SmpCanFrameFormat

/-- Every frame has been passed. -/
def isDone (framer : SmpCanFramer) : Bool := framer.packet.length ≤ framer.offset

/-- Packet bytes in the current frame. -/
def dataSize (framer : SmpCanFramer) : ℕ :=
  min framer.format.getDataSize (framer.packet.length - framer.offset)

/-- The control byte of the current frame. -/
def control (framer : SmpCanFramer) : UInt8 :=
  (if framer.offset = 0 then startFlag else 0) ||| (framer.sequence &&& sequenceMask)

/-- The packet bytes of the current frame. -/
def data (framer : SmpCanFramer) : List UInt8 :=
  (framer.packet.drop framer.offset).take framer.dataSize

/-- The current frame, zero-padded to a valid length; empty when done. -/
def encode (framer : SmpCanFramer) : List UInt8 :=
  if framer.isDone then []
  else
    let frameSize := framer.format.getPaddedSize (framer.dataSize + 1)
    framer.control :: framer.data ++ List.replicate (frameSize - (1 + framer.dataSize)) 0

/-- Moves to the next frame. -/
def advance (framer : SmpCanFramer) : SmpCanFramer :=
  if framer.isDone then framer
  else
    { framer with
      offset := framer.offset + framer.dataSize
      sequence := (framer.sequence + 1) &&& sequenceMask }

/-- The frames of the next `count` rounds of a sender: encode, then advance, until done. -/
def framesFrom : ℕ → SmpCanFramer → List (List UInt8)
  | 0, _ => []
  | count + 1, framer =>
    if framer.isDone then [] else framer.encode :: framesFrom count framer.advance

/-- The frames of a packet: each takes at least one byte of it. -/
def frames (packet : List UInt8) (format : SmpCanFrameFormat) : List (List UInt8) :=
  framesFrom packet.length { packet, format }

/-- The frame is the current one up to the content of its padding. -/
def Encodes (framer : SmpCanFramer) (frame : List UInt8) : Prop :=
  frame.length = framer.encode.length ∧
    frame.take (1 + framer.dataSize) = framer.encode.take (1 + framer.dataSize)

instance (framer : SmpCanFramer) (frame : List UInt8) : Decidable (framer.Encodes frame) :=
  inferInstanceAs (Decidable (_ ∧ _))

/-- The frames are, up to the content of their padding, all those the framer has
still to send. -/
def Sends : SmpCanFramer → List (List UInt8) → Prop
  | framer, [] => framer.isDone
  | framer, frame :: rest => ¬ framer.isDone ∧ framer.Encodes frame ∧ framer.advance.Sends rest

variable {framer : SmpCanFramer} {packet : List UInt8} {format : SmpCanFrameFormat}

theorem not_isDone : framer.isDone = false ↔ framer.offset < framer.packet.length := by
  simp [isDone]

theorem dataSize_pos (going : framer.isDone = false) : 0 < framer.dataSize := by
  have := framer.format.seven_le_getDataSize
  have := not_isDone.mp going
  unfold dataSize
  omega

theorem length_data : framer.data.length = framer.dataSize := by
  simp only [data, dataSize, List.length_take, List.length_drop]
  omega

theorem length_encode (going : framer.isDone = false) :
    framer.encode.length = framer.format.getPaddedSize (framer.dataSize + 1) := by
  have := framer.format.le_getPaddedSize (framer.dataSize + 1)
  simp only [encode, going, Bool.false_eq_true, if_false, List.cons_append, List.length_cons,
    List.length_append, length_data, List.length_replicate]
  omega

theorem take_encode (going : framer.isDone = false) :
    framer.encode.take (1 + framer.dataSize) = framer.control :: framer.data := by
  simp only [encode, going, Bool.false_eq_true, if_false, List.cons_append, Nat.add_comm 1,
    List.take_succ_cons]
  rw [List.take_left' length_data]

/-- What the receiver can check of a frame. -/
theorem encodes_cons_iff (going : framer.isDone = false) {control : UInt8} {data : List UInt8} :
    framer.Encodes (control :: data) ↔
      control = framer.control ∧ data.take framer.dataSize = framer.data ∧
        framer.format.getPaddedSize (framer.dataSize + 1) = data.length + 1 := by
  rw [Encodes, length_encode going, take_encode going, Nat.add_comm 1, List.take_succ_cons,
    List.cons.injEq, List.length_cons]
  tauto

theorem not_encodes_nil (going : framer.isDone = false) : ¬ framer.Encodes [] := by
  intro encodes
  have size := encodes.1
  have := framer.format.le_getPaddedSize (framer.dataSize + 1)
  rw [length_encode going, List.length_nil] at size
  omega

theorem encodes_encode : framer.Encodes framer.encode := ⟨rfl, rfl⟩

theorem advance_of_not_isDone (going : framer.isDone = false) :
    framer.advance =
      { framer with
        offset := framer.offset + framer.dataSize
        sequence := (framer.sequence + 1) &&& sequenceMask } := by
  simp [advance, going]

theorem sends_cons_iff {frame : List UInt8} {rest : List (List UInt8)} :
    framer.Sends (frame :: rest) ↔
      framer.isDone = false ∧ framer.Encodes frame ∧ framer.advance.Sends rest := by
  simp [Sends]

theorem remaining_advance (going : framer.isDone = false) :
    framer.advance.packet.length - framer.advance.offset =
      framer.packet.length - framer.offset - framer.dataSize := by
  rw [advance_of_not_isDone going]
  exact Nat.sub_add_eq ..

theorem advance_format : framer.advance.format = framer.format := by
  unfold advance
  split <;> rfl

theorem advance_packet : framer.advance.packet = framer.packet := by
  unfold advance
  split <;> rfl

/-- The number of frames depends on the length of the packet alone. -/
theorem Sends.length_eq {sent : List (List UInt8)} (sends : framer.Sends sent) :
    sent.length = framer.format.getFrameCount (framer.packet.length - framer.offset) := by
  induction sent generalizing framer with
  | nil =>
    have done : framer.packet.length ≤ framer.offset := by simpa [Sends, isDone] using sends
    rw [Nat.sub_eq_zero_of_le done, getFrameCount_zero, List.length_nil]
  | cons frame rest ih =>
    obtain ⟨going, -, later⟩ := sends_cons_iff.mp sends
    have left : 0 < framer.packet.length - framer.offset :=
      Nat.sub_pos_of_lt (not_isDone.mp going)
    rw [List.length_cons, ih later, remaining_advance going, advance_format,
      getFrameCount_eq_succ _ left, dataSize]

theorem sends_framesFrom {count : ℕ} (enough : framer.packet.length - framer.offset ≤ count) :
    framer.Sends (framesFrom count framer) := by
  induction count generalizing framer with
  | zero =>
    have done : framer.packet.length ≤ framer.offset := by omega
    simpa [framesFrom, Sends, isDone] using done
  | succ count ih =>
    cases going : framer.isDone with
    | true => simp [framesFrom, Sends, going]
    | false =>
      have := dataSize_pos going
      have := remaining_advance going
      rw [framesFrom, going, if_neg (by simp), sends_cons_iff]
      exact ⟨going, encodes_encode, ih (by omega)⟩

/-- The sender's loop sends the whole packet. -/
theorem sends_frames (packet : List UInt8) (format : SmpCanFrameFormat) :
    Sends { packet, format } (frames packet format) :=
  sends_framesFrom (Nat.sub_le ..)

end SmpCanFramer

/-! ### Reassembler -/

namespace SmpCanReassembler

/-- Outcome of `accept`. -/
inductive Result
  /-- Frame accepted, packet incomplete. -/
  | inProgress
  /-- `getLength` bytes of the buffer hold the packet. -/
  | complete
  /-- Sequence gap, oversize or malformed frame; the packet is discarded. -/
  | dropped
  /-- Continuation frame without a packet in progress. -/
  | ignored
deriving DecidableEq, Repr

end SmpCanReassembler

/-- Rebuilds one packet at a time into a buffer of its caller. -/
structure SmpCanReassembler where
  buffer : List UInt8
  format : SmpCanFrameFormat
  timeoutMs : ℤ
  length : ℕ
  /-- 0 until the SMP header is complete. -/
  packetSize : ℕ
  lastFrameMs : ℤ
  nextSequence : UInt8
  isActive : Bool
deriving DecidableEq, Repr

namespace SmpCanReassembler

open SmpCanFrameFormat

/-- Discards the packet in progress. -/
def reset (r : SmpCanReassembler) : SmpCanReassembler :=
  { r with length := 0, packetSize := 0, nextSequence := 0, isActive := false }

/-- Sets the buffer and the frame format for the next packet. -/
def attach (r : SmpCanReassembler) (buffer : List UInt8) (format : SmpCanFrameFormat) :
    SmpCanReassembler :=
  { r with buffer, format }.reset

/-- The packet in progress has timed out. -/
def isExpired (r : SmpCanReassembler) (nowMs : ℤ) : Bool :=
  r.isActive ∧ r.timeoutMs < nowMs - r.lastFrameMs

/-- The start flag of the frame is set. -/
def isStartFrame : List UInt8 → Bool
  | [] => false
  | control :: _ => control &&& startFlag ≠ 0

/-- The packet under way is dropped. -/
def drop (r : SmpCanReassembler) : Result × SmpCanReassembler := (.dropped, r.reset)

/-- Copies the first `copied` bytes of `data` behind those received so far. -/
def copyData (r : SmpCanReassembler) (data : List UInt8) (copied : ℕ) : SmpCanReassembler :=
  { r with
    buffer := r.buffer.take r.length ++ data.take copied ++ r.buffer.drop (r.length + copied)
    length := r.length + copied }

/-- Takes the packet size from the SMP header once it is there; `none` where the
packet is dropped for it. -/
def readHeader (r : SmpCanReassembler) : Option SmpCanReassembler :=
  if r.packetSize = 0 ∧ SmpHeader.size ≤ r.length then
    match SmpHeader.parse (r.buffer.take r.length) with
    | none => none
    | some header =>
      if r.buffer.length < header.getPacketSize then none
      else some { r with packetSize := header.getPacketSize }
  else some r

/-- The end of `Append`, with the header read: `start` bytes were there before the
frame, and `copied` of its data fitted. -/
def finish (r : SmpCanReassembler) (data : List UInt8) (start copied : ℕ) :
    Result × SmpCanReassembler :=
  -- Only the last frame of a packet may be short.
  if r.packetSize = 0 ∨ r.length < r.packetSize then
    if data.length < r.format.getDataSize ∨ copied < data.length then r.drop
    else (.inProgress, r)
  else if r.format.getPaddedSize (r.packetSize - start + 1) ≠ data.length + 1 then r.drop
  else (.complete, { r with length := r.packetSize, isActive := false })

/-- The data of a frame are added to the packet. -/
def append (r : SmpCanReassembler) (data : List UInt8) : Result × SmpCanReassembler :=
  if data.isEmpty then r.drop
  else
    -- Padding of the last frame may reach past the buffer, so only what fits is copied.
    let copied := min data.length (r.buffer.length - r.length)
    let filled := r.copyData data copied
    match filled.readHeader with
    | none => filled.drop
    | some sized => sized.finish data r.length copied

/-- What an accepted frame leaves behind for the next one. -/
def noteFrame (r : SmpCanReassembler) (sequence : UInt8) (nowMs : ℤ) : SmpCanReassembler :=
  { r with lastFrameMs := nowMs, nextSequence := (sequence + 1) &&& sequenceMask }

/-- Adds one frame. -/
def accept (r : SmpCanReassembler) (frame : List UInt8) (nowMs : ℤ) :
    Result × SmpCanReassembler :=
  let r := if r.isExpired nowMs then r.reset else r
  match frame with
  | [] => if r.isActive then r.drop else (.ignored, r)
  | control :: data =>
    if r.format.getFrameSize < frame.length then
      if r.isActive then r.drop else (.ignored, r)
    else
      let sequence := control &&& sequenceMask
      if isStartFrame frame then
        -- A start frame ends the packet in progress and begins one at sequence 0.
        if sequence ≠ 0 then r.reset.drop
        else ({ r.reset with isActive := true }.noteFrame sequence nowMs).append data
      else if ¬ r.isActive then (.ignored, r)
      else if sequence ≠ r.nextSequence then r.drop
      else (r.noteFrame sequence nowMs).append data

/-- The packet bytes received so far. -/
def received (r : SmpCanReassembler) : List UInt8 := r.buffer.take r.length

variable {r s : SmpCanReassembler} {data : List UInt8} {frame : List UInt8} {nowMs : ℤ}

/-! ### One frame -/

theorem isStartFrame_cons {control : UInt8} :
    isStartFrame (control :: data) = true ↔ control &&& startFlag ≠ 0 := by
  simp [isStartFrame]

/-- The control byte is its two fields. -/
private theorem control_eq (control : UInt8) :
    control = (control &&& startFlag) ||| ((control &&& sequenceMask) &&& sequenceMask) := by
  apply UInt8.toBitVec_inj.mp
  simp only [startFlag, sequenceMask, UInt8.toBitVec_or, UInt8.toBitVec_and]
  generalize control.toBitVec = bits
  revert bits
  decide +kernel

private theorem startFlag_of_ne_zero {control : UInt8} (start : control &&& startFlag ≠ 0) :
    control &&& startFlag = startFlag := by
  have bitwise : ∀ bits : BitVec 8, bits &&& 0x80#8 ≠ 0#8 → bits &&& 0x80#8 = 0x80#8 := by
    decide +kernel
  apply UInt8.toBitVec_inj.mp
  exact bitwise control.toBitVec fun zero => start (UInt8.toBitVec_inj.mp zero)

theorem and_sequenceMask_idem (sequence : UInt8) :
    (sequence &&& sequenceMask) &&& sequenceMask = sequence &&& sequenceMask := by
  rw [UInt8.and_assoc, UInt8.and_self]

/-- The control byte the framer writes for a frame the receiver takes as first. -/
theorem control_of_start {control : UInt8} (start : control &&& startFlag ≠ 0)
    (first : control &&& sequenceMask = 0) (packet : List UInt8) (format : SmpCanFrameFormat) :
    SmpCanFramer.control { packet, format } = control := by
  rw [control_eq control, startFlag_of_ne_zero start, first]
  rfl

/-- The control byte the framer writes for a frame the receiver takes as a later one. -/
theorem control_of_continuation {control : UInt8} {framer : SmpCanFramer}
    (continues : control &&& startFlag = 0) (later : framer.offset ≠ 0)
    (next : control &&& sequenceMask = framer.sequence) : framer.control = control := by
  rw [control_eq control, continues, next]
  simp [SmpCanFramer.control, later]

theorem length_copyData (copied : ℕ) (fits : copied ≤ data.length)
    (room : copied ≤ r.buffer.length - r.length) :
    (r.copyData data copied).buffer.length = r.buffer.length := by
  simp only [copyData, List.length_append, List.length_take, List.length_drop]
  omega

theorem take_copyData {copied count : ℕ} (inside : r.length ≤ r.buffer.length)
    (fits : count ≤ copied) (there : copied ≤ data.length) :
    (r.copyData data copied).buffer.take (r.length + count) = r.received ++ data.take count := by
  have length : r.received.length = r.length := by
    simp only [received, List.length_take]
    omega
  rw [copyData, List.append_assoc, ← received, ← length, List.take_length_add_append,
    List.take_append_of_le_length (by simp only [List.length_take]; omega), List.take_take,
    min_eq_left fits]

/-- Reception keeps the format, the timeout and the size of the buffer. -/
def SameSetting (r after : SmpCanReassembler) : Prop :=
  after.format = r.format ∧ after.timeoutMs = r.timeoutMs ∧
    after.buffer.length = r.buffer.length

/-- What `accept` does with a frame: it refuses it and gives up the packet in
progress, or it appends its data to a packet that begins or goes on. -/
theorem accept_cases (r : SmpCanReassembler) (frame : List UInt8) (nowMs : ℤ) :
    ((r.accept frame nowMs).1 ≠ .complete ∧ (r.accept frame nowMs).1 ≠ .inProgress ∧
      (r.accept frame nowMs).2.isActive = false ∧ r.SameSetting (r.accept frame nowMs).2) ∨
    ∃ control data, frame = control :: data ∧ data.length ≤ r.format.getDataSize ∧
      ((control &&& startFlag ≠ 0 ∧ control &&& sequenceMask = 0 ∧
        r.accept frame nowMs =
          ({ r.reset with isActive := true }.noteFrame (control &&& sequenceMask) nowMs).append
            data) ∨
      (control &&& startFlag = 0 ∧ r.isActive = true ∧ r.isExpired nowMs = false ∧
        control &&& sequenceMask = r.nextSequence ∧
        r.accept frame nowMs = (r.noteFrame (control &&& sequenceMask) nowMs).append data)) := by
  -- An expired packet is reset before anything else, which leaves format and buffer.
  generalize live : (if r.isExpired nowMs then r.reset else r) = r'
  have same : r.SameSetting r' ∧ r'.reset = r.reset := by
    rw [← live]
    split <;> exact ⟨⟨rfl, rfl, rfl⟩, rfl⟩
  have active : r'.isActive = true → r' = r ∧ r.isExpired nowMs = false := by
    rw [← live]
    split
    · intro impossible
      cases impossible
    · intro _
      exact ⟨rfl, by simpa using ‹¬ r.isExpired nowMs = true›⟩
  obtain ⟨setting, reset⟩ := same
  have settingReset : r.SameSetting r'.reset := setting
  simp only [accept, live]
  cases frame with
  | nil =>
    left
    cases going : r'.isActive
    · exact ⟨nofun, nofun, going, setting⟩
    · exact ⟨nofun, nofun, rfl, settingReset⟩
  | cons control data =>
    by_cases oversize : r'.format.getFrameSize < (control :: data).length
    · left
      simp only [if_pos oversize]
      cases going : r'.isActive
      · exact ⟨nofun, nofun, going, setting⟩
      · exact ⟨nofun, nofun, rfl, settingReset⟩
    have short : data.length ≤ r.format.getDataSize := by
      rw [setting.1, getFrameSize_eq, List.length_cons] at oversize
      omega
    simp only [oversize, if_false]
    by_cases start : isStartFrame (control :: data)
    · by_cases first : control &&& sequenceMask = 0
      · right
        refine ⟨control, data, rfl, short, .inl ⟨isStartFrame_cons.mp start, first, ?_⟩⟩
        simp [start, first, reset]
      · left
        simp only [start, if_true, if_pos first, ne_eq]
        exact ⟨nofun, nofun, rfl, settingReset⟩
    · by_cases going : r'.isActive = true
      · obtain ⟨rfl, timely⟩ := active going
        by_cases next : control &&& sequenceMask = r'.nextSequence
        · right
          have continues : control &&& startFlag = 0 := by
            simpa [isStartFrame_cons] using start
          refine ⟨control, data, rfl, short, .inr ⟨continues, going, timely, next, ?_⟩⟩
          simp [start, going, next]
        · left
          simp only [start, going, not_true_eq_false, if_false, ne_eq, next, not_false_eq_true,
            if_true]
          exact ⟨nofun, nofun, rfl, settingReset⟩
      · left
        simp only [start, going]
        exact ⟨nofun, nofun, by simpa using going, setting⟩

/-- A packet in progress: its size is known from the header on, and it is not reached. -/
structure InProgress (r : SmpCanReassembler) : Prop where
  inside : r.length ≤ r.buffer.length
  sized : r.packetSize = 0 ∧ r.length < SmpHeader.size ∨
    r.length < r.packetSize ∧ r.packetSize ≤ r.buffer.length ∧
      (SmpHeader.parse r.received).map SmpHeader.getPacketSize = some r.packetSize

theorem InProgress.length_received (progress : r.InProgress) : r.received.length = r.length := by
  have := progress.inside
  simp only [received, List.length_take]
  omega

/-- Once the header is read, the packet size is 0 for want of a header or the one
the header says. -/
private theorem readHeader_eq_some {sized : SmpCanReassembler}
    (read : r.readHeader = some sized)
    (before : r.packetSize = 0 ∨ r.packetSize ≤ r.buffer.length ∧
      (SmpHeader.parse r.received).map SmpHeader.getPacketSize = some r.packetSize) :
    ∃ size, sized = { r with packetSize := size } ∧
      (size = 0 ∧ r.length < SmpHeader.size ∨
        size ≤ r.buffer.length ∧
          (SmpHeader.parse r.received).map SmpHeader.getPacketSize = some size) := by
  unfold readHeader at read
  split at read
  · rename_i complete
    split at read
    · cases read
    · rename_i header parsed
      split at read
      · cases read
      · rename_i fits
        cases read
        refine ⟨_, rfl, .inr ⟨not_lt.mp fits, ?_⟩⟩
        rw [received, parsed]
        rfl
  · rename_i incomplete
    cases read
    refine ⟨_, rfl, before.imp (fun unsized => ⟨unsized, ?_⟩) id⟩
    by_contra long
    exact incomplete ⟨unsized, by omega⟩

/-- A frame full of data is added to the packet in progress. -/
structure Extends (r : SmpCanReassembler) (data : List UInt8) (after : SmpCanReassembler) :
    Prop where
  full : data.length = r.format.getDataSize
  received : after.received = r.received ++ data
  progress : after.InProgress
  isActive : after.isActive = r.isActive
  nextSequence : after.nextSequence = r.nextSequence
  lastFrameMs : after.lastFrameMs = r.lastFrameMs

/-- The first `used` bytes of a frame complete the packet in progress. -/
structure Completes (r : SmpCanReassembler) (data : List UInt8) (used : ℕ)
    (after : SmpCanReassembler) : Prop where
  used_pos : 0 < used
  used_le : used ≤ data.length
  padded : r.format.getPaddedSize (used + 1) = data.length + 1
  length : after.length = r.length + used
  received : after.received = r.received ++ data.take used
  packet : IsSmpPacket after.received
  inside : after.length ≤ after.buffer.length
  isActive : after.isActive = false

/-- The packet size the header of a packet in progress says, once more bytes are there,
is past the bytes there were before. -/
private theorem InProgress.length_lt (progress : r.InProgress) {more : List UInt8} {size : ℕ}
    (parsed : (SmpHeader.parse (r.received ++ more)).map SmpHeader.getPacketSize = some size) :
    r.length < size := by
  obtain ⟨header, parsed', rfl⟩ := Option.map_eq_some_iff.mp parsed
  have := header.size_le_getPacketSize
  rcases progress.sized with ⟨-, short⟩ | ⟨more, -, earlier⟩
  · omega
  · obtain ⟨header', parsed'', known⟩ := Option.map_eq_some_iff.mp earlier
    rw [SmpHeader.parse_append _ (SmpHeader.size_le_of_parse parsed''), parsed''] at parsed'
    cases parsed'
    omega

/-- The end of `append`, where the packet goes on, ends or is dropped for a frame of
the wrong length. -/
private theorem finish_cases (progress : r.InProgress) {copied size : ℕ}
    (short : data.length ≤ r.format.getDataSize) (copiedLe : copied ≤ data.length)
    (room : copied ≤ r.buffer.length - r.length)
    (sizedBy : size = 0 ∧ r.length + copied < SmpHeader.size ∨
      size ≤ r.buffer.length ∧
        (SmpHeader.parse (r.received ++ data.take copied)).map SmpHeader.getPacketSize
          = some size)
    {result : Result} {after : SmpCanReassembler}
    (finished : { r.copyData data copied with packetSize := size }.finish data r.length copied
      = (result, after)) :
    (result = .dropped ∧ after.isActive = false) ∨
    (result = .inProgress ∧ r.Extends data after) ∨
    (result = .complete ∧ ∃ used, r.Completes data used after) := by
  have inside := progress.inside
  have length := length_copyData (r := r) copied copiedLe room
  have taken (count : ℕ) (fits : count ≤ copied) :=
    take_copyData (r := r) inside fits copiedLe
  simp only [finish] at finished
  split at finished
  · -- The packet goes on, so the frame has to be a full one.
    rename_i goesOn
    split at finished
    · cases finished
      exact .inl ⟨rfl, rfl⟩
    · rename_i full
      cases finished
      obtain rfl : copied = data.length := by omega
      have received : (r.copyData data data.length).received = r.received ++ data := by
        have all := taken data.length le_rfl
        rwa [List.take_length] at all
      have full : data.length = r.format.getDataSize := by
        change ¬ (data.length < r.format.getDataSize ∨ _) at full
        omega
      refine .inr (.inl ⟨rfl, ⟨full, received, ⟨?_, ?_⟩, rfl, rfl, rfl⟩⟩)
      · change r.length + data.length ≤ (r.copyData data data.length).buffer.length
        omega
      · rw [List.take_length, ← received] at sizedBy
        rcases sizedBy with unsized | ⟨fits, parsed⟩
        · exact .inl unsized
        · refine .inr ⟨?_, length ▸ fits, parsed⟩
          refine goesOn.resolve_left fun zero => ?_
          obtain ⟨header, -, size⟩ := Option.map_eq_some_iff.mp parsed
          have := header.size_le_getPacketSize
          simp only [SmpHeader.size] at this
          omega
  · -- The packet ends in this frame; the bytes behind it are padding.
    rename_i ends
    split at finished
    · cases finished
      exact .inl ⟨rfl, rfl⟩
    · rename_i padded
      cases finished
      have ended : size ≤ r.length + copied := by
        by_contra more
        exact ends (.inr (not_le.mp more))
      obtain ⟨fits, parsed⟩ := sizedBy.resolve_left fun unsized => ends (.inl unsized.1)
      have started := progress.length_lt parsed
      have whole : r.length + (size - r.length) = size := by omega
      have received : (r.copyData data copied).buffer.take size
          = r.received ++ data.take (size - r.length) := by
        rw [← taken (size - r.length) (by omega), whole]
      refine .inr (.inr ⟨rfl, size - r.length, by omega, by omega, ?_, whole.symm, received,
        ?_, length ▸ fits, rfl⟩)
      · exact not_not.mp padded
      · obtain ⟨header, -, headerSize⟩ := Option.map_eq_some_iff.mp parsed
        have := header.size_le_getPacketSize
        have all := taken copied le_rfl
        have packet : (r.copyData data copied).buffer.take size
            = (r.received ++ data.take copied).take size := by
          rw [← all, List.take_take, min_eq_left ended]
        have inside' : size ≤ (r.received ++ data.take copied).length := by
          rw [← all, List.length_take]
          omega
        change IsSmpPacket ((r.copyData data copied).buffer.take size)
        rw [packet, IsSmpPacket, SmpHeader.parse_take (by omega) inside', parsed,
          List.length_take_of_le inside']

/-- What `append` can do with the data of a frame. -/
theorem append_cases (progress : r.InProgress) (short : data.length ≤ r.format.getDataSize) :
    ((r.append data).1 ≠ .complete ∧ (r.append data).1 ≠ .inProgress ∧
      (r.append data).2.isActive = false) ∨
    ((r.append data).1 = .inProgress ∧ r.Extends data (r.append data).2) ∨
    ((r.append data).1 = .complete ∧ ∃ used, r.Completes data used (r.append data).2) := by
  have inside := progress.inside
  by_cases empty : data.isEmpty
  · left
    simp [append, empty, drop, reset]
  generalize copiedEq : min data.length (r.buffer.length - r.length) = copied
  have copiedLe : copied ≤ data.length := by omega
  have room := length_copyData (r := r) copied copiedLe (by omega)
  have taken (count : ℕ) (fits : count ≤ copied) :=
    take_copyData (r := r) inside fits copiedLe
  have filledReceived : (r.copyData data copied).received = r.received ++ data.take copied :=
    taken copied le_rfl
  have filledInside : (r.copyData data copied).length ≤ (r.copyData data copied).buffer.length := by
    rw [room]
    simp only [copyData]
    omega
  -- A size that is known already is that of the header received before.
  have before : (r.copyData data copied).packetSize = 0 ∨
      (r.copyData data copied).packetSize ≤ (r.copyData data copied).buffer.length ∧
      (SmpHeader.parse (r.copyData data copied).received).map SmpHeader.getPacketSize
        = some (r.copyData data copied).packetSize := by
    rcases progress.sized with ⟨unsized, -⟩ | ⟨-, fits, parsed⟩
    · exact .inl unsized
    · refine .inr ⟨by rw [room]; exact fits, ?_⟩
      obtain ⟨header, parsed', -⟩ := Option.map_eq_some_iff.mp parsed
      rw [filledReceived, SmpHeader.parse_append _ (SmpHeader.size_le_of_parse parsed')]
      exact parsed
  simp only [append, empty, Bool.false_eq_true, if_false, copiedEq]
  cases read : (r.copyData data copied).readHeader with
  | none =>
    left
    simp [drop, reset]
  | some sized =>
    obtain ⟨size, rfl, sizedBy⟩ := readHeader_eq_some read before
    rw [filledReceived, room] at sizedBy
    dsimp only
    generalize finished : finish _ data r.length copied = outcome
    obtain ⟨result, after⟩ := outcome
    obtain ⟨rfl, inactive⟩ | goesOn | ends :=
      finish_cases progress short copiedLe (by omega) sizedBy finished
    · exact .inl ⟨nofun, nofun, inactive⟩
    · exact .inr (.inl goesOn)
    · exact .inr (.inr ends)

private theorem finish_sameSetting (r : SmpCanReassembler) (data : List UInt8)
    (start copied : ℕ) : r.SameSetting (r.finish data start copied).2 := by
  unfold finish
  split
  · split <;> exact ⟨rfl, rfl, rfl⟩
  · split <;> exact ⟨rfl, rfl, rfl⟩

theorem append_sameSetting : r.SameSetting (r.append data).2 := by
  unfold append
  split
  · exact ⟨rfl, rfl, rfl⟩
  · generalize copiedEq : min data.length (r.buffer.length - r.length) = copied
    have room : (r.copyData data copied).buffer.length = r.buffer.length :=
      length_copyData copied (by omega) (by omega)
    dsimp only
    cases read : (r.copyData data copied).readHeader with
    | none => exact ⟨rfl, rfl, room⟩
    | some sized =>
      have same : (r.copyData data copied).SameSetting sized := by
        unfold readHeader at read
        split at read
        · split at read
          · cases read
          · split at read
            · cases read
            · cases read
              exact ⟨rfl, rfl, rfl⟩
        · cases read
          exact ⟨rfl, rfl, rfl⟩
      obtain ⟨format, timeout, length⟩ := sized.finish_sameSetting data r.length copied
      exact ⟨format.trans same.1, timeout.trans same.2.1, length.trans (same.2.2.trans room)⟩

theorem accept_sameSetting (r : SmpCanReassembler) (frame : List UInt8) (nowMs : ℤ) :
    r.SameSetting (r.accept frame nowMs).2 := by
  obtain refused | ⟨control, data, -, -, ⟨-, -, accepted⟩ | ⟨-, -, -, -, accepted⟩⟩ :=
    accept_cases r frame nowMs
  · exact refused.2.2.2
  · rw [accepted]
    exact append_sameSetting (r := noteFrame ..)
  · rw [accepted]
    exact append_sameSetting (r := noteFrame ..)

end SmpCanReassembler

end RtCore.Smp
