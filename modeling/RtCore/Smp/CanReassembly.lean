import RtCore.Foundation.Run
import RtCore.Smp.CanFraming

/-!
# Reception of SMP packets from CAN frames

The reassembler is fed frames one after another. Two views of it meet here: the
frames since the latest start frame carry the bytes it holds, whatever packet they
begin, and a framer's frames keep it in step with the framer, whatever it did before.

## Main definitions

* `SmpCanReassembler.Carries` — frames as the beginning of every packet with given
  first bytes
* `SmpCanReassembler.Follows` — the receiver has what the framer has sent
* `fromLatestStart` — the frames that count

## Main results

* `accept_tracks`, `accept_of_encodes` — one frame under either view
* `reassembly_accepts_framed_packets` — a frame completes a packet exactly when the
  frames from the latest start frame on are the framer's for a packet that fits
-/

namespace RtCore.Smp

open RtCore.Foundation

namespace SmpCanReassembler

open SmpCanFrameFormat

variable {r : SmpCanReassembler} {data : List UInt8} {frame : List UInt8} {nowMs : ℤ}

/-! ### What the receiver knows about the sender -/

/-- The frames carry `received` as the beginning of every packet that has it and goes on. -/
def Carries (format : SmpCanFrameFormat) (sent : List (List UInt8)) (received : List UInt8)
    (sequence : UInt8) : Prop :=
  ∀ packet, received.length < packet.length → packet.take received.length = received →
    ∀ later, SmpCanFramer.Sends { packet, format, offset := received.length, sequence } later →
      SmpCanFramer.Sends { packet, format } (sent ++ later)

variable {format : SmpCanFrameFormat} {sent : List (List UInt8)} {bytes : List UInt8}
  {sequence control : UInt8}

theorem carries_nil : Carries format [] [] 0 := by
  intro packet _ _ later sends
  exact sends

/-- A full frame carries on. -/
theorem Carries.snoc (carries : Carries format sent bytes sequence)
    (written : ∀ packet, SmpCanFramer.control { packet, format, offset := bytes.length, sequence }
      = control) (full : data.length = format.getDataSize) :
    Carries format (sent ++ [control :: data]) (bytes ++ data)
      ((sequence + 1) &&& sequenceMask) := by
  intro packet longer same later sends
  rw [List.length_append] at longer same sends
  have begins : packet.take bytes.length = bytes := by
    have := congrArg (List.take bytes.length) same
    rwa [List.take_take, min_eq_left (by omega), List.take_left] at this
  have goes : (packet.drop bytes.length).take data.length = data := by
    have := congrArg (List.drop bytes.length) same
    rwa [List.drop_take, List.drop_left, Nat.add_sub_cancel_left] at this
  rw [List.append_assoc]
  refine carries packet (by omega) begins _ ?_
  have going : SmpCanFramer.isDone { packet, format, offset := bytes.length, sequence } = false :=
    SmpCanFramer.not_isDone.mpr (by dsimp only; omega)
  have size : SmpCanFramer.dataSize { packet, format, offset := bytes.length, sequence }
      = data.length := by
    simp only [SmpCanFramer.dataSize]
    omega
  have isFull : format.getPaddedSize (data.length + 1) = data.length + 1 := by
    rw [full, ← format.getFrameSize_eq, format.getPaddedSize_getFrameSize]
  rw [List.singleton_append, SmpCanFramer.sends_cons_iff, SmpCanFramer.encodes_cons_iff going,
    SmpCanFramer.advance_of_not_isDone going, size, SmpCanFramer.data, size, written]
  exact ⟨going, ⟨rfl, by rw [List.take_length, goes], isFull⟩, sends⟩

/-- The last frame makes the packet complete. -/
theorem Carries.last (carries : Carries format sent bytes sequence)
    (written : ∀ packet, SmpCanFramer.control { packet, format, offset := bytes.length, sequence }
      = control) {used : ℕ} (used_pos : 0 < used) (used_le : used ≤ data.length)
    (short : data.length ≤ format.getDataSize)
    (padded : format.getPaddedSize (used + 1) = data.length + 1) :
    SmpCanFramer.Sends { packet := bytes ++ data.take used, format }
      (sent ++ [control :: data]) := by
  have length : (bytes ++ data.take used).length = bytes.length + used := by
    rw [List.length_append, List.length_take_of_le used_le]
  refine carries _ (by omega) (List.take_left ..) _ ?_
  have going : SmpCanFramer.isDone
      { packet := bytes ++ data.take used, format, offset := bytes.length, sequence } = false :=
    SmpCanFramer.not_isDone.mpr (by dsimp only; omega)
  have size : SmpCanFramer.dataSize
      { packet := bytes ++ data.take used, format, offset := bytes.length, sequence } = used := by
    simp only [SmpCanFramer.dataSize, length]
    omega
  rw [SmpCanFramer.sends_cons_iff, SmpCanFramer.encodes_cons_iff going,
    SmpCanFramer.advance_of_not_isDone going, size, SmpCanFramer.data, size, written]
  refine ⟨going, ⟨rfl, ?_, padded⟩, ?_⟩
  · rw [List.drop_left, List.take_take, min_self]
  · simp [SmpCanFramer.Sends, SmpCanFramer.isDone, length]

/-! ### Only what the framer sends completes a packet -/

/-- A packet in progress has been carried by the frames since its start. -/
def Tracks (r : SmpCanReassembler) (since : List (List UInt8)) : Prop :=
  r.isActive = true → r.InProgress ∧ 0 < r.length ∧ since ≠ [] ∧
    Carries r.format since r.received r.nextSequence

/-- The frames since the start of a packet, once `frame` has come after `since`. -/
def extendSince (since : List (List UInt8)) (frame : List UInt8) : List (List UInt8) :=
  if isStartFrame frame then [frame] else if since = [] then [] else since ++ [frame]

private theorem append_tracks {since : List (List UInt8)}
    (short : data.length ≤ r.format.getDataSize) (progress : r.InProgress)
    (carries : Carries r.format since r.received sequence)
    (next : r.nextSequence = (sequence + 1) &&& sequenceMask)
    (written : ∀ packet, SmpCanFramer.control
      { packet, format := r.format, offset := r.length, sequence } = control) :
    Tracks (r.append data).2 (since ++ [control :: data]) ∧
    ((r.append data).1 = .complete →
      IsSmpPacket (r.append data).2.received ∧
      (r.append data).2.received.length = (r.append data).2.length ∧
      SmpCanFramer.Sends { packet := (r.append data).2.received, format := r.format }
        (since ++ [control :: data])) := by
  have format : (r.append data).2.format = r.format := append_sameSetting.1
  rw [← progress.length_received] at written
  obtain ⟨notComplete, -, inactive⟩ | ⟨goesOn, extended⟩ | ⟨ends, used, completed⟩ :=
    append_cases progress short
  · refine ⟨fun active => ?_, fun complete => absurd complete notComplete⟩
    rw [inactive] at active
    cases active
  · refine ⟨fun _ => ⟨extended.progress, ?_, by simp, ?_⟩, fun complete => ?_⟩
    · have := r.format.seven_le_getDataSize
      have := extended.full
      rw [← extended.progress.length_received, extended.received, List.length_append]
      omega
    · rw [format, extended.received, extended.nextSequence, next]
      exact carries.snoc written extended.full
    · rw [goesOn] at complete
      cases complete
  · refine ⟨fun active => ?_, fun _ => ⟨completed.packet, ?_, ?_⟩⟩
    · rw [completed.isActive] at active
      cases active
    · exact List.length_take_of_le completed.inside
    · rw [completed.received]
      exact carries.last written completed.used_pos completed.used_le short completed.padded

/-- A frame keeps the track of the sender, and completes a packet only with the
last of the packet's frames. -/
theorem accept_tracks {since : List (List UInt8)} (tracks : r.Tracks since) :
    Tracks (r.accept frame nowMs).2 (extendSince since frame) ∧
    ((r.accept frame nowMs).1 = .complete →
      IsSmpPacket (r.accept frame nowMs).2.received ∧
      (r.accept frame nowMs).2.received.length = (r.accept frame nowMs).2.length ∧
      SmpCanFramer.Sends { packet := (r.accept frame nowMs).2.received, format := r.format }
        (extendSince since frame)) := by
  obtain ⟨notComplete, -, inactive, -⟩ | ⟨control, data, rfl, short, accepted⟩ :=
    accept_cases r frame nowMs
  · refine ⟨fun active => ?_, fun complete => absurd complete notComplete⟩
    rw [inactive] at active
    cases active
  obtain ⟨start, first, accepted⟩ | ⟨continues, active, -, next, accepted⟩ := accepted
  · have since' : extendSince since (control :: data) = [] ++ [control :: data] := by
      rw [extendSince, if_pos (isStartFrame_cons.mpr start)]
      rfl
    rw [accepted, since']
    refine append_tracks (r := noteFrame ..) short ⟨Nat.zero_le _, .inl ⟨rfl, Nat.zero_lt_succ _⟩⟩
      carries_nil (by rw [first]; rfl) ?_
    intro packet
    exact control_of_start start first packet _
  · obtain ⟨progress, started, nonempty, carries⟩ := tracks active
    have since' : extendSince since (control :: data) = since ++ [control :: data] := by
      rw [extendSince, if_neg (by simp [isStartFrame_cons, continues]), if_neg nonempty]
    rw [accepted, since']
    refine append_tracks (r := noteFrame ..) short ⟨progress.inside, progress.sized⟩
      carries (by rw [next]; rfl) ?_
    intro packet
    exact control_of_continuation continues (by dsimp only [noteFrame]; omega) next

/-! ### Everything the framer sends completes its packet -/

/-- The receiver has what the framer has sent of its packet. -/
structure Follows (r : SmpCanReassembler) (framer : SmpCanFramer) : Prop where
  format : r.format = framer.format
  fits : framer.packet.length ≤ r.buffer.length
  length : r.length = framer.offset
  received : r.received = framer.packet.take framer.offset
  packetSize : r.packetSize = if SmpHeader.size ≤ framer.offset then framer.packet.length else 0

variable {framer : SmpCanFramer} {packet : List UInt8}

/-- The header of a packet that fits is read as soon as it is complete. -/
private theorem readHeader_of_packet (valid : IsSmpPacket packet)
    (fits : packet.length ≤ r.buffer.length) {count : ℕ} (countLe : count ≤ r.length)
    (inside : r.length ≤ r.buffer.length) (countLe' : count ≤ packet.length)
    (same : r.buffer.take count = packet.take count)
    (headed : SmpHeader.size ≤ r.length → SmpHeader.size ≤ count)
    (before : r.packetSize = 0 ∨ r.packetSize = packet.length ∧ SmpHeader.size ≤ r.length) :
    r.readHeader = some
      { r with packetSize := if SmpHeader.size ≤ r.length then packet.length else 0 } := by
  have positive : 0 < packet.length := Nat.lt_of_lt_of_le (by decide) valid.size_le
  by_cases complete : SmpHeader.size ≤ r.length
  · have parsed : (SmpHeader.parse (r.buffer.take r.length)).map SmpHeader.getPacketSize
        = some packet.length := by
      have inside' : count ≤ (r.buffer.take r.length).length := by
        rw [List.length_take_of_le inside]
        exact countLe
      rw [← SmpHeader.parse_take (headed complete) inside', List.take_take, min_eq_left countLe,
        same, SmpHeader.parse_take (headed complete) countLe']
      exact valid
    obtain ⟨header, parsed', size⟩ := Option.map_eq_some_iff.mp parsed
    rcases before with unsized | ⟨sized, -⟩
    · simp only [readHeader, unsized, complete, and_self, if_true, parsed', size]
      rw [if_neg (by omega)]
    · simp only [readHeader, sized, complete, if_true]
      rw [if_neg (by omega), ← sized]
  · have unsized : r.packetSize = 0 := by tauto
    simp only [readHeader, complete, and_false, if_false]
    rw [← unsized]

private theorem finish_of_lt {start copied : ℕ}
    (goesOn : r.packetSize = 0 ∨ r.length < r.packetSize)
    (full : data.length = r.format.getDataSize) (room : copied = data.length) :
    r.finish data start copied = (.inProgress, r) := by
  rw [finish, if_pos goesOn, if_neg (by omega)]

private theorem finish_of_le {start copied : ℕ} (sized : 0 < r.packetSize)
    (ends : r.packetSize ≤ r.length)
    (padded : r.format.getPaddedSize (r.packetSize - start + 1) = data.length + 1) :
    r.finish data start copied
      = (.complete, { r with length := r.packetSize, isActive := false }) := by
  rw [finish, if_neg (by omega), if_neg (not_not.mpr padded)]

/-- Each of the framer's frames is taken as the next part of its packet. -/
private theorem append_of_encodes (follows : r.Follows framer) (valid : IsSmpPacket framer.packet)
    (going : framer.isDone = false) (encodes : framer.Encodes (control :: data)) :
    (framer.advance.isDone = false →
      (r.append data).1 = .inProgress ∧ (r.append data).2.Follows framer.advance ∧
      (r.append data).2.isActive = r.isActive ∧
      (r.append data).2.nextSequence = r.nextSequence ∧
      (r.append data).2.lastFrameMs = r.lastFrameMs) ∧
    (framer.advance.isDone = true →
      (r.append data).1 = .complete ∧ (r.append data).2.received = framer.packet ∧
      (r.append data).2.length = framer.packet.length) := by
  obtain ⟨-, carried, padded⟩ := (SmpCanFramer.encodes_cons_iff going).mp encodes
  have left := SmpCanFramer.not_isDone.mp going
  have fits := follows.fits
  have lengthEq := follows.length
  have sizePos := SmpCanFramer.dataSize_pos going
  have sizeLe : framer.dataSize ≤ data.length := by
    have := congrArg List.length carried
    rw [SmpCanFramer.length_data, List.length_take] at this
    omega
  have sizeEq : framer.dataSize = min framer.format.getDataSize
    (framer.packet.length - framer.offset) := rfl
  have nonempty : data.isEmpty = false := by
    cases data with
    | nil => simp at sizeLe; omega
    | cons _ _ => rfl
  have headerLe := valid.size_le
  generalize copiedEq : min data.length (r.buffer.length - r.length) = copied
  have room : (r.copyData data copied).buffer.length = r.buffer.length :=
    length_copyData copied (by omega) (by omega)
  -- A frame that is not the last is full, so its length leaves no padding.
  have full : framer.offset + framer.dataSize = framer.packet.length ∨
      framer.dataSize = framer.format.getDataSize ∧ data.length = framer.dataSize ∧
        copied = framer.dataSize := by
    by_cases last : framer.offset + framer.dataSize = framer.packet.length
    · exact .inl last
    · have isFull : framer.dataSize = framer.format.getDataSize := by omega
      rw [isFull, ← getFrameSize_eq, getPaddedSize_getFrameSize, getFrameSize_eq] at padded
      exact .inr ⟨isFull, by omega, by omega⟩
  have taken : (r.copyData data copied).buffer.take (framer.offset + framer.dataSize)
      = framer.packet.take (framer.offset + framer.dataSize) := by
    have filled : (r.copyData data copied).buffer.take (r.length + framer.dataSize)
        = r.received ++ data.take framer.dataSize :=
      take_copyData (by omega) (by omega) (by omega)
    rw [lengthEq, carried, follows.received, SmpCanFramer.data] at filled
    rw [filled, List.take_add]
  have filledLength : (r.copyData data copied).length = framer.offset + copied := by
    rw [← lengthEq]
    rfl
  have filledSize : (r.copyData data copied).packetSize = r.packetSize := rfl
  have read : (r.copyData data copied).readHeader = some
      { r.copyData data copied with
        packetSize := if SmpHeader.size ≤ framer.offset + copied then framer.packet.length
          else 0 } := by
    rw [← filledLength]
    have counted : framer.offset + framer.dataSize ≤ (r.copyData data copied).length := by omega
    refine readHeader_of_packet valid (by omega) counted (by omega) (by omega) taken
      (fun _ => by omega) ?_
    rw [filledSize, follows.packetSize]
    split
    · exact .inr ⟨rfl, by omega⟩
    · exact .inl rfl
  have advanced := SmpCanFramer.advance_of_not_isDone going
  simp only [append, nonempty, Bool.false_eq_true, if_false, copiedEq, read]
  constructor
  · intro more
    have more' : framer.offset + framer.dataSize < framer.packet.length := by
      have := SmpCanFramer.not_isDone.mp more
      rwa [advanced] at this
    obtain ⟨isFull, dataLength, rfl⟩ := full.resolve_left (by omega)
    rw [finish_of_lt, advanced]
    · refine ⟨rfl, ⟨follows.format, by rw [room]; exact fits, filledLength, ?_, rfl⟩,
        rfl, rfl, rfl⟩
      rw [SmpCanReassembler.received, filledLength, taken]
    · rw [filledLength]
      dsimp only
      split
      · exact .inr more'
      · exact .inl rfl
    · exact dataLength.trans (isFull.trans (by rw [← follows.format]; rfl))
    · exact dataLength.symm
  · intro last
    have last' : framer.offset + framer.dataSize = framer.packet.length := by
      have : framer.packet.length ≤ framer.offset + framer.dataSize := by
        rw [advanced] at last
        simpa [SmpCanFramer.isDone] using last
      omega
    have sized : SmpHeader.size ≤ framer.offset + copied := by omega
    simp only [sized, if_true]
    rw [finish_of_le]
    · refine ⟨rfl, ?_, rfl⟩
      rw [SmpCanReassembler.received]
      dsimp only
      rw [← last', taken, last', List.take_length]
    · exact Nat.lt_of_lt_of_le (by decide) headerLe
    · dsimp only
      omega
    · have used : framer.packet.length - r.length = framer.dataSize := by omega
      have format : (r.copyData data copied).format = framer.format := follows.format
      dsimp only
      rw [used, format, padded]

private theorem accept_of_start (start : control &&& startFlag ≠ 0)
    (first : control &&& sequenceMask = 0) (short : data.length ≤ r.format.getDataSize) :
    r.accept (control :: data) nowMs
      = ({ r.reset with isActive := true }.noteFrame (control &&& sequenceMask) nowMs).append
          data := by
  have isStart : isStartFrame (control :: data) = true := isStartFrame_cons.mpr start
  have fits : ¬ r.format.getFrameSize < data.length + 1 := by
    rw [getFrameSize_eq]
    omega
  cases expired : r.isExpired nowMs
  · simp [accept, expired, fits, isStart, first]
  · have fits' : ¬ r.reset.format.getFrameSize < data.length + 1 := fits
    have twice : r.reset.reset = r.reset := rfl
    simp [accept, expired, fits', isStart, first, twice]

private theorem accept_of_continuation (continues : control &&& startFlag = 0)
    (active : r.isActive = true) (timely : r.isExpired nowMs = false)
    (next : control &&& sequenceMask = r.nextSequence)
    (short : data.length ≤ r.format.getDataSize) :
    r.accept (control :: data) nowMs
      = (r.noteFrame (control &&& sequenceMask) nowMs).append data := by
  have notStart : isStartFrame (control :: data) = false := by simp [isStartFrame, continues]
  have fits : ¬ r.format.getFrameSize < data.length + 1 := by
    rw [getFrameSize_eq]
    omega
  simp [accept, timely, fits, notStart, active, next]

/-- The receiver is ready for the current frame of the framer: any receiver is for
a first frame. -/
def Awaits (r : SmpCanReassembler) (framer : SmpCanFramer) : Prop :=
  r.format = framer.format ∧ framer.packet.length ≤ r.buffer.length ∧
    (framer.offset = 0 ∧ framer.sequence = 0 ∨
      framer.offset ≠ 0 ∧ framer.sequence &&& sequenceMask = framer.sequence ∧
        r.isActive = true ∧ r.nextSequence = framer.sequence ∧ r.Follows framer)

/-- The framer's frames fit a frame of the bus. -/
private theorem length_le_of_encodes (going : framer.isDone = false)
    (encodes : framer.Encodes (control :: data)) :
    data.length ≤ framer.format.getDataSize := by
  obtain ⟨-, -, padded⟩ := (SmpCanFramer.encodes_cons_iff going).mp encodes
  have size := framer.format.getFrameSize_eq
  have fits : framer.dataSize + 1 ≤ framer.format.getFrameSize := by
    rw [size, SmpCanFramer.dataSize]
    omega
  have := framer.format.getPaddedSize_le fits
  omega

theorem accept_of_encodes (awaits : r.Awaits framer) (valid : IsSmpPacket framer.packet)
    (going : framer.isDone = false) (timely : framer.offset ≠ 0 → r.isExpired nowMs = false)
    (encodes : framer.Encodes frame) :
    (framer.advance.isDone = false →
      (r.accept frame nowMs).1 = .inProgress ∧
      (r.accept frame nowMs).2.Awaits framer.advance ∧
      (r.accept frame nowMs).2.lastFrameMs = nowMs) ∧
    (framer.advance.isDone = true →
      (r.accept frame nowMs).1 = .complete ∧
      (r.accept frame nowMs).2.received = framer.packet ∧
      (r.accept frame nowMs).2.length = framer.packet.length) := by
  obtain ⟨format, fits, ready⟩ := awaits
  -- Both kinds of frame leave a receiver that follows the framer and adds the data.
  have accepted : ∃ (control : UInt8) (data : List UInt8) (s : SmpCanReassembler),
      frame = control :: data ∧ r.accept frame nowMs = s.append data ∧ s.Follows framer ∧
        s.isActive = true ∧ s.nextSequence = (framer.sequence + 1) &&& sequenceMask ∧
        s.lastFrameMs = nowMs := by
    cases frame with
    | nil => exact absurd encodes (SmpCanFramer.not_encodes_nil going)
    | cons control data =>
      have short := length_le_of_encodes going encodes
      rw [← format] at short
      obtain ⟨written, -, -⟩ := (SmpCanFramer.encodes_cons_iff going).mp encodes
      obtain ⟨first, zero⟩ | ⟨later, masked, active, next, follows⟩ := ready
      · have control' : control = startFlag := by
          rw [written, SmpCanFramer.control, if_pos first, zero]
          rfl
        subst control'
        refine ⟨_, _, _, rfl, accept_of_start (by decide) (by decide) short, ?_, rfl, ?_, rfl⟩
        · exact ⟨format, fits, first.symm, by rw [first]; rfl, by rw [first]; rfl⟩
        · rw [zero]
          rfl
      · have control' : control = framer.sequence := by
          rw [written, SmpCanFramer.control, if_neg later, masked, UInt8.zero_or]
        subst control'
        have noFlag : framer.sequence &&& startFlag = 0 := by
          rw [← masked, UInt8.and_assoc]
          exact UInt8.and_zero
        refine ⟨_, _, _, rfl, accept_of_continuation noFlag active (timely later)
          (masked.trans next.symm) short, ?_, active, ?_, rfl⟩
        · exact ⟨format, fits, follows.length, follows.received, follows.packetSize⟩
        · rw [masked]
          rfl
  obtain ⟨control, data, s, rfl, accepted, follows, active, next, last⟩ := accepted
  obtain ⟨goesOn, ends⟩ := append_of_encodes follows valid going encodes
  rw [accepted]
  refine ⟨fun more => ?_, ends⟩
  obtain ⟨inProgress, follows', active', next', last'⟩ := goesOn more
  refine ⟨inProgress, ⟨follows'.format, follows'.fits, .inr ⟨?_, ?_, ?_, ?_, follows'⟩⟩,
    last'.trans last⟩
  · have := SmpCanFramer.dataSize_pos going
    rw [SmpCanFramer.advance_of_not_isDone going]
    dsimp only
    omega
  · rw [SmpCanFramer.advance_of_not_isDone going]
    exact and_sequenceMask_idem _
  · exact active'.trans active
  · rw [next', next, SmpCanFramer.advance_of_not_isDone going]

/-! ### The bytes the buffer held before -/

/-- Two receivers that differ only in the bytes their buffers have not received, and
in the time of the last frame where it does not matter. -/
structure Agrees (r r' : SmpCanReassembler) : Prop where
  format : r'.format = r.format
  timeoutMs : r'.timeoutMs = r.timeoutMs
  length : r'.length = r.length
  packetSize : r'.packetSize = r.packetSize
  nextSequence : r'.nextSequence = r.nextSequence
  isActive : r'.isActive = r.isActive
  lastFrameMs : r.isActive = true → r'.lastFrameMs = r.lastFrameMs
  room : r'.buffer.length = r.buffer.length
  received : r'.received = r.received
  inside : r.length ≤ r.buffer.length

variable {r' : SmpCanReassembler}

theorem Agrees.reset (agrees : r.Agrees r') : r.reset.Agrees r'.reset where
  format := agrees.format
  timeoutMs := agrees.timeoutMs
  length := rfl
  packetSize := rfl
  nextSequence := rfl
  isActive := rfl
  lastFrameMs := nofun
  room := agrees.room
  received := rfl
  inside := Nat.zero_le _

theorem Agrees.isExpired (agrees : r.Agrees r') : r'.isExpired nowMs = r.isExpired nowMs := by
  have := agrees.lastFrameMs
  cases active : r.isActive <;> simp_all [SmpCanReassembler.isExpired, agrees.isActive,
    agrees.timeoutMs]

private theorem Agrees.copyData (agrees : r.Agrees r') {copied : ℕ} (fits : copied ≤ data.length)
    (room : copied ≤ r.buffer.length - r.length) :
    (r.copyData data copied).Agrees (r'.copyData data copied) := by
  have inside := agrees.inside
  have room' : copied ≤ r'.buffer.length - r'.length := by rwa [agrees.room, agrees.length]
  have inside' : r'.length ≤ r'.buffer.length := by rwa [agrees.room, agrees.length]
  have length : (r'.copyData data copied).length = (r.copyData data copied).length :=
    congrArg (· + copied) agrees.length
  refine ⟨agrees.format, agrees.timeoutMs, length, agrees.packetSize, agrees.nextSequence,
    agrees.isActive, agrees.lastFrameMs, ?_, ?_, ?_⟩
  · rw [length_copyData copied fits room, length_copyData copied fits room', agrees.room]
  · have taken := take_copyData (r := r) inside (le_refl copied) fits
    have taken' := take_copyData (r := r') inside' (le_refl copied) fits
    rw [agrees.received, ← taken] at taken'
    exact taken'
  · rw [length_copyData copied fits room]
    change r.length + copied ≤ _
    omega

private theorem Agrees.readHeader (agrees : r.Agrees r') :
    (r.readHeader = none ∧ r'.readHeader = none) ∨
      ∃ size, r.readHeader = some { r with packetSize := size } ∧
        r'.readHeader = some { r' with packetSize := size } := by
  have received := agrees.received
  simp only [SmpCanReassembler.received] at received
  simp only [SmpCanReassembler.readHeader, agrees.packetSize, agrees.length, agrees.room]
  rw [agrees.length] at received
  rw [received]
  split
  · split
    · exact .inl ⟨rfl, rfl⟩
    · split
      · exact .inl ⟨rfl, rfl⟩
      · exact .inr ⟨_, rfl, rfl⟩
  · exact .inr ⟨r.packetSize, rfl, by rw [← agrees.packetSize, ← agrees.length]⟩

private theorem Agrees.finish (agrees : r.Agrees r') (start copied : ℕ) :
    (r'.finish data start copied).1 = (r.finish data start copied).1 ∧
      (r.finish data start copied).2.Agrees (r'.finish data start copied).2 := by
  simp only [SmpCanReassembler.finish, agrees.packetSize, agrees.length, agrees.format]
  split
  · split
    · exact ⟨rfl, agrees.reset⟩
    · exact ⟨rfl, agrees⟩
  · rename_i ends
    split
    · exact ⟨rfl, agrees.reset⟩
    · have packet : r.packetSize ≤ r.length := by omega
      refine ⟨rfl, rfl, agrees.timeoutMs, rfl, rfl, agrees.nextSequence, rfl, ?_, agrees.room,
        ?_, packet.trans agrees.inside⟩
      · rintro ⟨⟩
      have received := congrArg (List.take r.packetSize) agrees.received
      simpa only [SmpCanReassembler.received, List.take_take, agrees.length,
        min_eq_left packet] using received

private theorem Agrees.append (agrees : r.Agrees r') :
    (r'.append data).1 = (r.append data).1 ∧ (r.append data).2.Agrees (r'.append data).2 := by
  simp only [SmpCanReassembler.append, agrees.room, agrees.length]
  split
  · exact ⟨rfl, agrees.reset⟩
  · have filled : (r.copyData data (min data.length (r.buffer.length - r.length))).Agrees
        (r'.copyData data (min data.length (r.buffer.length - r.length))) :=
      agrees.copyData (by omega) (by omega)
    obtain ⟨none, none'⟩ | ⟨size, some, some'⟩ := filled.readHeader
    · rw [none, none']
      exact ⟨rfl, filled.reset⟩
    · rw [some, some']
      have sized : Agrees { r.copyData data (min data.length (r.buffer.length - r.length)) with
            packetSize := size }
          { r'.copyData data (min data.length (r.buffer.length - r.length)) with
            packetSize := size } :=
        { filled with packetSize := rfl }
      exact sized.finish _ _

/-- Receivers that agree return the same and go on to agree. -/
theorem Agrees.accept (agrees : r.Agrees r') (frame : List UInt8) (nowMs : ℤ) :
    (r'.accept frame nowMs).1 = (r.accept frame nowMs).1 ∧
      (r.accept frame nowMs).2.Agrees (r'.accept frame nowMs).2 := by
  -- Both give up a packet that timed out; from then on the frame decides alike for both.
  have live : Agrees (if r.isExpired nowMs then r.reset else r)
      (if r'.isExpired nowMs then r'.reset else r') := by
    rw [agrees.isExpired]
    split
    · exact agrees.reset
    · exact agrees
  simp only [SmpCanReassembler.accept]
  generalize (if r.isExpired nowMs then r.reset else r) = s at live ⊢
  generalize (if r'.isExpired nowMs then r'.reset else r') = s' at live ⊢
  have refused : (if s'.isActive then s'.drop else (.ignored, s')).1
        = (if s.isActive then s.drop else (.ignored, s)).1 ∧
      Agrees (if s.isActive then s.drop else (.ignored, s)).2
        (if s'.isActive then s'.drop else (.ignored, s')).2 := by
    rw [live.isActive]
    split
    · exact ⟨rfl, live.reset⟩
    · exact ⟨rfl, live⟩
  cases frame with
  | nil => exact refused
  | cons control data =>
    dsimp only
    rw [live.format]
    split
    · exact refused
    split
    · split
      · exact ⟨rfl, live.reset⟩
      · have started : Agrees
            ({ s.reset with isActive := true }.noteFrame (control &&& sequenceMask) nowMs)
            ({ s'.reset with isActive := true }.noteFrame (control &&& sequenceMask) nowMs) :=
          { live.reset with nextSequence := rfl, isActive := rfl, lastFrameMs := fun _ => rfl }
        exact started.append
    · rw [live.isActive, live.nextSequence]
      split
      · exact ⟨rfl, live⟩
      split
      · exact ⟨rfl, live.reset⟩
      · have continued : Agrees (s.noteFrame (control &&& sequenceMask) nowMs)
            (s'.noteFrame (control &&& sequenceMask) nowMs) :=
          { live with nextSequence := rfl, lastFrameMs := fun _ => rfl }
        exact continued.append

/-! ### Streams of frames -/

/-- One frame and the time it arrives. -/
def acceptStep (r : SmpCanReassembler) (arrival : List UInt8 × ℤ) : SmpCanReassembler :=
  (r.accept arrival.1 arrival.2).2

/-- The receiver after a stream of frames. -/
def feed (r : SmpCanReassembler) (arrivals : List (List UInt8 × ℤ)) : SmpCanReassembler :=
  run acceptStep r arrivals

/-- What `accept` returned for each frame of a stream. -/
def results : SmpCanReassembler → List (List UInt8 × ℤ) → List Result
  | _, [] => []
  | r, arrival :: later =>
    (r.accept arrival.1 arrival.2).1 :: results (r.acceptStep arrival) later

theorem results_append (r : SmpCanReassembler) (first second : List (List UInt8 × ℤ)) :
    r.results (first ++ second) = r.results first ++ (r.feed first).results second := by
  induction first generalizing r with
  | nil => rfl
  | cons arrival first ih => simp [results, feed, ih]

theorem mem_results {result : Result} {arrivals : List (List UInt8 × ℤ)}
    (returned : result ∈ r.results arrivals) :
    ∃ first arrival later, arrivals = first ++ arrival :: later ∧
      ((r.feed first).accept arrival.1 arrival.2).1 = result := by
  induction arrivals generalizing r with
  | nil => cases returned
  | cons arrival arrivals ih =>
    rcases List.mem_cons.mp returned with rfl | afterwards
    · exact ⟨[], arrival, arrivals, rfl, rfl⟩
    · obtain ⟨first, arrival', later, rfl, here⟩ := ih afterwards
      exact ⟨arrival :: first, arrival', later, rfl, here⟩

theorem feed_sameSetting (arrivals : List (List UInt8 × ℤ)) : r.SameSetting (r.feed arrivals) := by
  refine run_invariant (I := r.SameSetting) ⟨rfl, rfl, rfl⟩ (fun s arrival same => ?_) arrivals
  obtain ⟨format, timeout, length⟩ := s.accept_sameSetting arrival.1 arrival.2
  exact ⟨format.trans same.1, timeout.trans same.2.1, length.trans same.2.2⟩

/-- The frames from the latest start frame on; none without a start frame. -/
def fromLatestStart : List (List UInt8) → List (List UInt8)
  | [] => []
  | frame :: later =>
    if later.any isStartFrame then fromLatestStart later
    else if isStartFrame frame then frame :: later else []

theorem fromLatestStart_suffix (frames : List (List UInt8)) :
    fromLatestStart frames <:+ frames := by
  induction frames with
  | nil => exact List.nil_suffix
  | cons frame later ih =>
    unfold fromLatestStart
    split
    · exact ih.trans (List.suffix_cons ..)
    · split
      · exact List.suffix_rfl
      · exact List.nil_suffix

theorem fromLatestStart_snoc (frames : List (List UInt8)) (frame : List UInt8) :
    fromLatestStart (frames ++ [frame]) = extendSince (fromLatestStart frames) frame := by
  induction frames with
  | nil => simp [fromLatestStart, extendSince]
  | cons first later ih =>
    rw [List.cons_append, fromLatestStart, fromLatestStart, ih]
    by_cases start : isStartFrame frame
    · simp [extendSince, start]
    · by_cases restarted : later.any isStartFrame
      · simp [start, restarted]
      · by_cases first' : isStartFrame first <;> simp [extendSince, start, restarted, first']

/-- The frames since the latest start carry the bytes of the packet in progress. -/
theorem tracks_feed (inactive : r.isActive = false) (arrivals : List (List UInt8 × ℤ)) :
    (r.feed arrivals).Tracks (fromLatestStart (arrivals.map Prod.fst)) := by
  induction arrivals using List.reverseRecOn with
  | nil =>
    intro active
    rw [feed, run_nil, inactive] at active
    cases active
  | append_singleton arrivals arrival ih =>
    rw [feed, run_append, List.map_append, List.map_singleton, fromLatestStart_snoc]
    exact (accept_tracks ih).1

/-- A packet is completed only by the last of the frames of a packet that fits. -/
theorem sends_of_complete (inactive : r.isActive = false) {arrivals : List (List UInt8 × ℤ)}
    (complete : ((r.feed arrivals).accept frame nowMs).1 = .complete) :
    ∃ packet, IsSmpPacket packet ∧ packet.length ≤ r.buffer.length ∧
      SmpCanFramer.Sends { packet, format := r.format }
        (fromLatestStart (arrivals.map Prod.fst ++ [frame])) := by
  obtain ⟨valid, length, sends⟩ := (accept_tracks (tracks_feed inactive arrivals)).2 complete
  obtain ⟨format, -, room⟩ := r.feed_sameSetting arrivals
  have room' := (r.feed arrivals).accept_sameSetting frame nowMs
  refine ⟨_, valid, ?_, by rwa [fromLatestStart_snoc, ← format]⟩
  rw [← room, ← room'.2.2]
  exact List.length_take_le' ..

/-- The framer's frames, one after another, complete its packet with the last one. -/
theorem feed_of_sends {arrivals : List (List UInt8 × ℤ)} (awaits : r.Awaits framer)
    (valid : IsSmpPacket framer.packet) (going : framer.isDone = false)
    (sends : framer.Sends (arrivals.map Prod.fst))
    (gaps : GapsWithin r.timeoutMs (arrivals.map Prod.snd))
    (soon : framer.offset ≠ 0 →
      ∀ arrival ∈ arrivals.head?, arrival.2 - r.lastFrameMs ≤ r.timeoutMs) :
    r.results arrivals = List.replicate (arrivals.length - 1) .inProgress ++ [.complete] ∧
      (r.feed arrivals).received = framer.packet ∧
      (r.feed arrivals).length = framer.packet.length := by
  -- On the frames: the receiver awaits what the framer sends next.
  induction arrivals generalizing r framer with
  | nil =>
    simp only [List.map_nil, SmpCanFramer.Sends] at sends
    rw [sends] at going
    cases going
  | cons arrival later ih =>
    obtain ⟨-, encodes, rest⟩ := SmpCanFramer.sends_cons_iff.mp sends
    have timely : framer.offset ≠ 0 → r.isExpired arrival.2 = false := by
      intro started
      have := soon started arrival rfl
      simp only [isExpired, decide_eq_false_iff_not, not_and, not_lt]
      exact fun _ => this
    obtain ⟨goesOn, ends⟩ := accept_of_encodes awaits valid going timely encodes
    cases done : framer.advance.isDone with
    | true =>
      have finished : later = [] := by
        cases later with
        | nil => rfl
        | cons _ _ =>
          rw [List.map_cons, SmpCanFramer.sends_cons_iff, done] at rest
          cases rest.1
      subst finished
      obtain ⟨complete, received, length⟩ := ends done
      exact ⟨congrArg (· :: []) complete, received, length⟩
    | false =>
      obtain ⟨inProgress, awaits', last⟩ := goesOn done
      have timeout := (r.accept_sameSetting arrival.1 arrival.2).2.1
      have valid' : IsSmpPacket framer.advance.packet := by rwa [SmpCanFramer.advance_packet]
      have gaps' : GapsWithin (r.acceptStep arrival).timeoutMs (later.map Prod.snd) := by
        rw [acceptStep, timeout]
        exact List.IsChain.tail gaps
      have soon' : ∀ next ∈ later.head?,
          next.2 - (r.acceptStep arrival).lastFrameMs ≤ (r.acceptStep arrival).timeoutMs := by
        intro next isNext
        obtain ⟨rest', rfl⟩ := List.head?_eq_some_iff.mp isNext
        rw [acceptStep, last, timeout]
        exact (List.isChain_cons_cons.mp gaps).1
      obtain ⟨results', received, length⟩ :=
        ih (r := r.acceptStep arrival) awaits' valid' done rest gaps' fun _ => soon'
      have nonempty : 0 < later.length := by
        cases later with
        | nil =>
          rw [List.map_nil, SmpCanFramer.Sends, done] at rest
          cases rest
        | cons _ _ => exact Nat.zero_lt_succ _
      rw [SmpCanFramer.advance_packet] at received length
      refine ⟨?_, received, length⟩
      rw [results, inProgress, results', List.length_cons, ← List.cons_append,
        ← List.replicate_succ]
      congr 2
      omega

/-- Any receiver is ready for the first frame of a packet that fits. -/
theorem awaits_first (format_eq : r.format = format) (fits : packet.length ≤ r.buffer.length) :
    r.Awaits { packet, format } :=
  ⟨format_eq, fits, .inl ⟨rfl, rfl⟩⟩

theorem not_isDone_of_isSmpPacket (valid : IsSmpPacket packet) :
    SmpCanFramer.isDone { packet, format } = false :=
  SmpCanFramer.not_isDone.mpr (Nat.lt_of_lt_of_le (Nat.zero_lt_succ 7) valid.size_le)

/-- The frames from a start frame on complete their packet, whatever came before. -/
theorem complete_of_sends (before : List (List UInt8 × ℤ)) {since : List (List UInt8 × ℤ)}
    (valid : IsSmpPacket packet)
    (fits : packet.length ≤ r.buffer.length)
    (sends : SmpCanFramer.Sends { packet, format := r.format } (since.map Prod.fst))
    (gaps : GapsWithin r.timeoutMs ((before ++ since).map Prod.snd)) :
    (r.feed before).results since
        = List.replicate (since.length - 1) .inProgress ++ [.complete] ∧
      (r.feed (before ++ since)).buffer.take packet.length = packet ∧
      (r.feed (before ++ since)).length = packet.length := by
  obtain ⟨format, timeout, room⟩ := r.feed_sameSetting before
  have gaps' : GapsWithin (r.feed before).timeoutMs (since.map Prod.snd) := by
    rw [List.map_append] at gaps
    rw [timeout]
    exact (List.isChain_append.mp gaps).2.1
  obtain ⟨results, received, length⟩ :=
    feed_of_sends (awaits_first format (room ▸ fits)) valid (not_isDone_of_isSmpPacket valid)
      sends gaps' fun started => absurd rfl started
  have whole : r.feed (before ++ since) = (r.feed before).feed since := run_append ..
  rw [whole]
  refine ⟨results, ?_, length⟩
  rw [← length]
  exact received

/-- The frame that ends what was sent since the latest start frame completes the packet. -/
theorem complete_of_latestStart {arrivals : List (List UInt8 × ℤ)} (valid : IsSmpPacket packet)
    (fits : packet.length ≤ r.buffer.length)
    (sends : SmpCanFramer.Sends { packet, format := r.format }
      (fromLatestStart (arrivals.map Prod.fst ++ [frame])))
    (gaps : GapsWithin r.timeoutMs (arrivals.map Prod.snd ++ [nowMs])) :
    ((r.feed arrivals).accept frame nowMs).1 = .complete ∧
      ((r.feed arrivals).accept frame nowMs).2.buffer.take packet.length = packet ∧
      ((r.feed arrivals).accept frame nowMs).2.length = packet.length := by
  have frames : (arrivals ++ [(frame, nowMs)]).map Prod.fst = arrivals.map Prod.fst ++ [frame] := by
    simp
  have times : (arrivals ++ [(frame, nowMs)]).map Prod.snd = arrivals.map Prod.snd ++ [nowMs] := by
    simp
  -- The frames since the latest start are the last ones of the stream.
  have suffix := fromLatestStart_suffix (arrivals.map Prod.fst ++ [frame])
  rw [← frames] at sends suffix
  rw [← times] at gaps
  rw [List.suffix_iff_eq_drop.mp suffix, ← List.map_drop] at sends
  generalize (((arrivals ++ [(frame, nowMs)]).map Prod.fst).length -
    (fromLatestStart ((arrivals ++ [(frame, nowMs)]).map Prod.fst)).length) = count at sends
  have split := List.take_append_drop count (arrivals ++ [(frame, nowMs)])
  rw [← split] at gaps
  obtain ⟨results, held⟩ := complete_of_sends _ valid fits sends gaps
  rw [split] at held
  have fed : r.feed (arrivals ++ [(frame, nowMs)]) = ((r.feed arrivals).accept frame nowMs).2 :=
    run_append ..
  rw [fed] at held
  refine ⟨?_, held⟩
  have whole := r.results_append arrivals [(frame, nowMs)]
  rw [← split, results_append, results, ← List.append_assoc] at whole
  simpa [SmpCanReassembler.results] using (congrArg List.getLast? whole).symm

/-! ### Lost frames -/

theorem isStartFrame_of_encodes (going : SmpCanFramer.isDone { packet, format } = false)
    (encodes : SmpCanFramer.Encodes { packet, format } frame) : isStartFrame frame = true := by
  cases frame with
  | nil => exact absurd encodes (SmpCanFramer.not_encodes_nil going)
  | cons control data =>
    obtain ⟨rfl, -, -⟩ := (SmpCanFramer.encodes_cons_iff going).mp encodes
    have flagged : (startFlag ||| (0 &&& sequenceMask)) &&& startFlag ≠ 0 := by decide
    exact isStartFrame_cons.mpr flagged

/-- Only the first frame of a packet is a start frame. -/
theorem not_isStartFrame_of_sends {sent : List (List UInt8)} (sends : framer.Sends sent)
    (later : framer.offset ≠ 0) : ∀ frame ∈ sent, isStartFrame frame = false := by
  induction sent generalizing framer with
  | nil => simp
  | cons frame rest ih =>
    obtain ⟨going, encodes, rest'⟩ := SmpCanFramer.sends_cons_iff.mp sends
    have later' : framer.advance.offset ≠ 0 := by
      rw [SmpCanFramer.advance_of_not_isDone going]
      dsimp only
      omega
    have here : isStartFrame frame = false := by
      cases frame with
      | nil => rfl
      | cons control data =>
        obtain ⟨written, -, -⟩ := (SmpCanFramer.encodes_cons_iff going).mp encodes
        have noFlag : control &&& startFlag = 0 := by
          rw [written, SmpCanFramer.control, if_neg later, UInt8.zero_or, UInt8.and_assoc]
          exact UInt8.and_zero
        simp [isStartFrame, noFlag]
    simpa [here] using ih rest' later'

/-- Two packets with the same first frame have the same length. -/
theorem length_eq_of_encodes {other : List UInt8} (valid : IsSmpPacket packet)
    (valid' : IsSmpPacket other) (encodes : SmpCanFramer.Encodes { packet, format } frame)
    (encodes' : SmpCanFramer.Encodes { packet := other, format } frame) :
    packet.length = other.length := by
  have header (packet : List UInt8) (valid : IsSmpPacket packet)
      (encodes : SmpCanFramer.Encodes { packet, format } frame) :
      (frame.drop 1).take 4 = packet.take 4 := by
    have size : SmpHeader.size = 8 := rfl
    have long := valid.size_le
    have going : SmpCanFramer.isDone { packet, format } = false :=
      SmpCanFramer.not_isDone.mpr (by dsimp only; omega)
    have enough : 4 ≤ SmpCanFramer.dataSize { packet, format } := by
      have := format.seven_le_getDataSize
      simp only [SmpCanFramer.dataSize]
      omega
    have carried := congrArg (fun bytes => (bytes.drop 1).take 4)
      (encodes.2.trans (SmpCanFramer.take_encode going))
    simpa [SmpCanFramer.data, List.drop_take, List.take_take, enough] using carried
  obtain ⟨header₁, parsed₁, size₁⟩ := isSmpPacket_iff.mp valid
  obtain ⟨header₂, parsed₂, size₂⟩ := isSmpPacket_iff.mp valid'
  rw [← size₁, ← size₂]
  exact SmpHeader.getPacketSize_congr parsed₁ parsed₂
    ((header packet valid encodes).symm.trans (header other valid' encodes'))

/-- Without one of its frames, a packet never completes. -/
theorem not_complete_of_sublist (inactive : r.isActive = false) (valid : IsSmpPacket packet)
    {arrivals : List (List UInt8 × ℤ)}
    (lost : (arrivals.map Prod.fst).Sublist (SmpCanFramer.frames packet r.format))
    (some : arrivals.map Prod.fst ≠ SmpCanFramer.frames packet r.format) :
    .complete ∉ r.results arrivals := by
  intro returned
  obtain ⟨first, ⟨frame, nowMs⟩, later, rfl, complete⟩ := mem_results returned
  obtain ⟨other, valid', -, sends'⟩ := sends_of_complete inactive complete
  have sends := SmpCanFramer.sends_frames packet r.format
  have sublist : (fromLatestStart (first.map Prod.fst ++ [frame])).Sublist
      ((first ++ (frame, nowMs) :: later).map Prod.fst) := by
    refine (fromLatestStart_suffix _).sublist.trans ?_
    simp
  have received := sublist.trans lost
  have count' := sends'.length_eq
  have count := sends.length_eq
  generalize fromLatestStart (first.map Prod.fst ++ [frame]) = since at *
  generalize SmpCanFramer.frames packet r.format = frames at *
  have isPacket : 0 < packet.length := Nat.lt_of_lt_of_le (by decide) valid.size_le
  have isPacket' : 0 < other.length := Nat.lt_of_lt_of_le (by decide) valid'.size_le
  -- Both packets begin with the only start frame there is, which gives their length.
  cases since with
  | nil =>
    simp only [SmpCanFramer.Sends, SmpCanFramer.isDone, decide_eq_true_eq] at sends'
    omega
  | cons start' since =>
    cases frames with
    | nil => cases received
    | cons start frames =>
      obtain ⟨going', encodes', -⟩ := SmpCanFramer.sends_cons_iff.mp sends'
      obtain ⟨going, encodes, rest⟩ := SmpCanFramer.sends_cons_iff.mp sends
      have notDone := SmpCanFramer.dataSize_pos going
      have later : (SmpCanFramer.advance { packet, format := r.format }).offset ≠ 0 := by
        rw [SmpCanFramer.advance_of_not_isDone going]
        dsimp only
        omega
      have isStart := isStartFrame_of_encodes going' encodes'
      obtain rfl : start' = start := by
        rcases List.sublist_cons_iff.mp received with late | ⟨_, same, -⟩
        · have := not_isStartFrame_of_sends rest later start' (late.subset (by simp))
          rw [isStart] at this
          cases this
        · exact (List.cons.inj same).1
      have same := length_eq_of_encodes valid valid' encodes encodes'
      have := sublist.length_le
      have := lost.length_le
      refine some (lost.eq_of_length ?_)
      dsimp only at count count'
      rw [same] at count
      omega

/-! ### The language of the framer -/

/-- Frames within the timeout complete a packet exactly when those from the latest
start frame on are, up to padding, the framer's for a packet that fits, which the
buffer then holds. Hence every packet that fits survives its frames, and none is
completed without one of its frames. -/
theorem reassembly_accepts_framed_packets (r : SmpCanReassembler) (buffer : List UInt8)
    (format : SmpCanFrameFormat) :
    (∀ (arrivals : List (List UInt8 × ℤ)) (frame : List UInt8) (nowMs : ℤ),
      GapsWithin r.timeoutMs (arrivals.map Prod.snd ++ [nowMs]) →
      let since := fromLatestStart (arrivals.map Prod.fst ++ [frame])
      let outcome := ((r.attach buffer format).feed arrivals).accept frame nowMs
      (outcome.1 = .complete ↔
        ∃ packet, IsSmpPacket packet ∧ packet.length ≤ buffer.length ∧
          SmpCanFramer.Sends { packet, format } since) ∧
      ∀ packet, IsSmpPacket packet → packet.length ≤ buffer.length →
        SmpCanFramer.Sends { packet, format } since →
        outcome.2.buffer.take packet.length = packet ∧ outcome.2.length = packet.length) ∧
    (∀ packet, IsSmpPacket packet → packet.length ≤ buffer.length →
      ∀ arrivals : List (List UInt8 × ℤ),
        arrivals.map Prod.fst = SmpCanFramer.frames packet format →
        GapsWithin r.timeoutMs (arrivals.map Prod.snd) →
        (r.attach buffer format).results arrivals
          = List.replicate (format.getFrameCount packet.length - 1) .inProgress ++ [.complete] ∧
        ((r.attach buffer format).feed arrivals).buffer.take packet.length = packet ∧
        ((r.attach buffer format).feed arrivals).length = packet.length) ∧
    (∀ packet, IsSmpPacket packet → ∀ arrivals : List (List UInt8 × ℤ),
      (arrivals.map Prod.fst).Sublist (SmpCanFramer.frames packet format) →
      arrivals.map Prod.fst ≠ SmpCanFramer.frames packet format →
      .complete ∉ (r.attach buffer format).results arrivals) := by
  refine ⟨?_, ?_, ?_⟩
  · intro arrivals frame nowMs gaps since outcome
    have completes (packet : List UInt8) (valid : IsSmpPacket packet)
        (fits : packet.length ≤ buffer.length)
        (sends : SmpCanFramer.Sends { packet, format } since) :=
      complete_of_latestStart (r := r.attach buffer format) valid fits sends gaps
    refine ⟨⟨sends_of_complete (r := r.attach buffer format) rfl, ?_⟩, ?_⟩
    · rintro ⟨packet, valid, fits, sends⟩
      exact (completes packet valid fits sends).1
    · intro packet valid fits sends
      exact (completes packet valid fits sends).2
  · intro packet valid fits arrivals sent gaps
    have sends := SmpCanFramer.sends_frames packet format
    rw [← sent] at sends
    have count := sends.length_eq
    rw [List.length_map] at count
    obtain ⟨results, held⟩ := complete_of_sends (r := r.attach buffer format) [] valid fits
      sends gaps
    rw [count] at results
    exact ⟨results, held⟩
  · intro packet valid arrivals lost some
    exact not_complete_of_sublist (r := r.attach buffer format) rfl valid lost some

/-- A receiver that has not seen a frame. -/
def idle (timeoutMs : ℤ) : SmpCanReassembler :=
  { buffer := []
    format := ⟨false⟩
    timeoutMs
    length := 0
    packetSize := 0
    lastFrameMs := 0
    nextSequence := 0
    isActive := false }

/-- The header straddles two classic frames that are exactly the timeout apart. -/
theorem reassembly_accepts_two_frames :
    GapsWithin 100 [0, 100] ∧ IsSmpPacket [0x02, 0, 0, 3, 0, 0, 7, 1, 0xA1, 0x61, 0x62] ∧
    (((idle 100).attach (List.replicate 12 0) ⟨false⟩).feed
      [([0x80, 0x02, 0, 0, 3, 0, 0, 7], 0), ([0x01, 1, 0xA1, 0x61, 0x62], 100)]).buffer.take 11
      = [0x02, 0, 0, 3, 0, 0, 7, 1, 0xA1, 0x61, 0x62] :=
  ⟨by decide, by decide,
    ((reassembly_accepts_framed_packets (idle 100) (List.replicate 12 0) ⟨false⟩).2.1
      [0x02, 0, 0, 3, 0, 0, 7, 1, 0xA1, 0x61, 0x62] (by decide) (by decide)
      [([0x80, 0x02, 0, 0, 3, 0, 0, 7], 0), ([0x01, 1, 0xA1, 0x61, 0x62], 100)]
      (by decide +kernel) (by decide)).2.1⟩

end SmpCanReassembler

end RtCore.Smp
