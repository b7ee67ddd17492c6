import RtCore.Foundation.Run
import RtCore.Smp.Header

/-!
# SMP packets on a BLE link

Every packet on the link is `[route][SMP packet]` and may span several writes; the
length in the SMP header says where it ends. `SmpBleRouter::OnReceive` keeps the
unfinished packet between writes and dispatches the requests that fit its buffers.

## Main definitions

* `RoutedPacket`, `splitRecords` — a whole stream cut into its packets
* `SmpBleRx.onReceive` — reception of one write

## Main results

* `splitRecords_spec` — the packets and the rest make up the stream
* `SmpBleRx.dispatched_eq_records` — the packets dispatched do not depend on how the
  stream was cut into writes
-/

namespace RtCore.Smp

open RtCore.Foundation

/-! ### The stream as a whole -/

/-- A packet and the route byte before it. -/
structure RoutedPacket where
  route : UInt8
  packet : List UInt8
deriving DecidableEq, Repr

/-- The packet on the link. -/
def RoutedPacket.image (record : RoutedPacket) : List UInt8 := record.route :: record.packet

/-- The first packet of a stream and what follows it, once all of it is there. -/
def splitRecord : List UInt8 → Option (RoutedPacket × List UInt8)
  | [] => none
  | route :: rest =>
    match SmpHeader.parse rest with
    | none => none
    | some header =>
      if rest.length < header.getPacketSize then none
      else some (⟨route, rest.take header.getPacketSize⟩, rest.drop header.getPacketSize)

theorem splitRecord_eq_some_iff {stream rest : List UInt8} {record : RoutedPacket} :
    splitRecord stream = some (record, rest) ↔
      stream = record.image ++ rest ∧ IsSmpPacket record.packet := by
  constructor
  · intro split
    cases stream with
    | nil => cases split
    | cons route stream =>
      simp only [splitRecord] at split
      split at split
      · cases split
      · rename_i header parsed
        split at split
        · cases split
        · rename_i whole
          cases split
          have long : header.getPacketSize ≤ stream.length := not_lt.mp whole
          refine ⟨?_, ?_⟩
          · rw [RoutedPacket.image, List.cons_append, List.take_append_drop]
          · rw [IsSmpPacket, SmpHeader.parse_take header.size_le_getPacketSize long, parsed,
              List.length_take_of_le long, Option.map_some]
  · rintro ⟨rfl, valid⟩
    obtain ⟨header, parsed, size⟩ := isSmpPacket_iff.mp valid
    have parsed' : SmpHeader.parse (record.packet ++ rest) = some header := by
      rw [SmpHeader.parse_append _ valid.size_le, parsed]
    have whole : ¬ (record.packet ++ rest).length < header.getPacketSize := by
      rw [List.length_append, size]
      omega
    simp only [RoutedPacket.image, List.cons_append, splitRecord, parsed', if_neg whole]
    rw [size, List.take_left, List.drop_left]

/-- All packets of a stream, and the beginning of one that it ends with. -/
def splitRecords (stream : List UInt8) : List RoutedPacket × List UInt8 :=
  match _split : splitRecord stream with
  | none => ([], stream)
  | some (record, rest) => (record :: (splitRecords rest).1, (splitRecords rest).2)
termination_by stream.length
decreasing_by
  all_goals
    rw [(splitRecord_eq_some_iff.mp _split).1, List.length_append, RoutedPacket.image,
      List.length_cons]
    omega

theorem splitRecords_of_none {stream : List UInt8} (none : splitRecord stream = none) :
    splitRecords stream = ([], stream) := by
  rw [splitRecords]
  split
  · rfl
  · simp_all

theorem splitRecords_image_append {record : RoutedPacket} (valid : IsSmpPacket record.packet)
    (rest : List UInt8) :
    splitRecords (record.image ++ rest)
      = (record :: (splitRecords rest).1, (splitRecords rest).2) := by
  have first : splitRecord (record.image ++ rest) = some (record, rest) :=
    splitRecord_eq_some_iff.mpr ⟨rfl, valid⟩
  rw [splitRecords]
  split
  · simp_all
  · simp_all

/-- The packets and the rest make up the stream, and the rest has no packet in it. -/
theorem splitRecords_spec (stream : List UInt8) :
    ((splitRecords stream).1.map RoutedPacket.image).flatten ++ (splitRecords stream).2 = stream ∧
      (∀ record ∈ (splitRecords stream).1, IsSmpPacket record.packet) ∧
      splitRecord (splitRecords stream).2 = none := by
  induction stream using splitRecords.induct with
  | case1 stream none =>
    rw [splitRecords_of_none none]
    exact ⟨rfl, nofun, none⟩
  | case2 stream record rest split ih =>
    obtain ⟨rfl, valid⟩ := splitRecord_eq_some_iff.mp split
    obtain ⟨whole, all, none⟩ := ih
    rw [splitRecords_image_append valid]
    refine ⟨?_, ?_, none⟩
    · rw [List.map_cons, List.flatten_cons, List.append_assoc, whole]
    · exact List.forall_mem_cons.mpr ⟨valid, all⟩

/-! ### Reception -/

/-- One write to the `smp` characteristic: its bytes, the uptime, and whether the
packet pool has a buffer at a header with so many bytes of the write left. -/
structure BleWrite where
  data : List UInt8
  nowMs : ℤ
  allocates : ℕ → Bool

/-- The receiving side of the router. -/
structure SmpBleRx where
  /-- The first bytes of `rx_head_`, as many as have been received. -/
  head : List UInt8
  packet : Option (List UInt8)
  remaining : ℕ
  discarding : Bool
  lastMs : ℤ
  dropped : UInt32
deriving DecidableEq, Repr

/-- A request the router's buffers can hold. -/
def isForwardable (maxPacketSize : ℕ) (packet : List UInt8) : Bool :=
  match SmpHeader.parse packet with
  | none => false
  | some header => header.isRequest ∧ header.getPacketSize ≤ maxPacketSize

namespace SmpBleRx

/-- The size of `rx_head_`: the route byte and the SMP header. -/
def headSize : ℕ := 1 + SmpHeader.size

/-- The next packet is received from its head. -/
def resetRx (rx : SmpBleRx) : SmpBleRx :=
  { rx with head := [], packet := none, remaining := 0, discarding := false }

/-- The header is complete: the packet is discarded unless it is a request that fits
a buffer of the pool. -/
def onHeader (maxPacketSize : ℕ) (allocated : Bool) (rx : SmpBleRx) : SmpBleRx :=
  match SmpHeader.parse (rx.head.drop 1) with
  | none => { rx with discarding := true, dropped := rx.dropped + 1, remaining := 0 }
  | some header =>
    let rx := { rx with discarding := true, remaining := header.length.toNat }
    if !header.isRequest || maxPacketSize < header.getPacketSize then
      { rx with dropped := rx.dropped + 1 }
    else if !allocated then { rx with packet := none, dropped := rx.dropped + 1 }
    else { rx with packet := some (rx.head.drop 1), discarding := false }

/-- The end of the loop body: with nothing left of the packet, it is dispatched
unless it was discarded. -/
def finishPacket (rx : SmpBleRx) : SmpBleRx × List RoutedPacket :=
  if rx.remaining = 0 then
    (rx.resetRx,
      match rx.discarding, rx.head, rx.packet with
      | false, route :: _, some packet => [⟨route, packet⟩]
      | _, _, _ => [])
  else (rx, [])

/-- One round of the loop of `OnReceive`: the bytes of the write it leaves, and what
it dispatches. -/
def receiveRound (maxPacketSize : ℕ) (allocates : ℕ → Bool) (rx : SmpBleRx) (data : List UInt8) :
    (SmpBleRx × List RoutedPacket) × List UInt8 :=
  if rx.head.length < headSize then
    let size := min (headSize - rx.head.length) data.length
    let rx := { rx with head := rx.head ++ data.take size }
    let data := data.drop size
    if rx.head.length < headSize then ((rx, []), data)
    else ((rx.onHeader maxPacketSize (allocates data.length)).finishPacket, data)
  else
    let size := min rx.remaining data.length
    let packet :=
      if rx.discarding then rx.packet else rx.packet.map fun packet => packet ++ data.take size
    ({ rx with packet, remaining := rx.remaining - size }.finishPacket, data.drop size)

/-- The loop of `OnReceive`. -/
def receiveLoop (maxPacketSize : ℕ) (allocates : ℕ → Bool) :
    ℕ → SmpBleRx → List UInt8 → SmpBleRx × List RoutedPacket
  | 0, rx, _ => (rx, [])
  | rounds + 1, rx, data =>
    if data.isEmpty then (rx, [])
    else
      let round := receiveRound maxPacketSize allocates rx data
      let later := receiveLoop maxPacketSize allocates rounds round.1.1 round.2
      (later.1, round.1.2 ++ later.2)

/-- Takes the data of one write; returns the packets it dispatches. -/
def onReceive (maxPacketSize : ℕ) (timeoutMs : ℤ) (rx : SmpBleRx) (write : BleWrite) :
    SmpBleRx × List RoutedPacket :=
  let rx :=
    if 0 < rx.head.length ∧ timeoutMs < write.nowMs - rx.lastMs then
      { rx with dropped := rx.dropped + 1 }.resetRx
    else rx
  receiveLoop maxPacketSize write.allocates (write.data.length + 1)
    { rx with lastMs := write.nowMs } write.data

/-- The packets a connection's writes dispatch. -/
def dispatched (maxPacketSize : ℕ) (timeoutMs : ℤ) : SmpBleRx → List BleWrite → List RoutedPacket
  | _, [] => []
  | rx, write :: later =>
    let outcome := onReceive maxPacketSize timeoutMs rx write
    outcome.2 ++ dispatched maxPacketSize timeoutMs outcome.1 later

/-! ### The unfinished packet -/

/-- The receiver holds the bytes `pending` of a packet whose header is there. -/
structure HasBody (maxPacketSize : ℕ) (rx : SmpBleRx) (pending : List UInt8)
    (header : SmpHeader) : Prop where
  parsed : SmpHeader.parse (pending.drop 1) = some header
  remaining : rx.remaining + pending.length = 1 + header.getPacketSize
  discarding : rx.discarding = !isForwardable maxPacketSize (pending.drop 1)
  packet : rx.discarding = false → rx.packet = some (pending.drop 1)

/-- The receiver holds the bytes `pending` of an unfinished packet. -/
structure Pending (maxPacketSize : ℕ) (rx : SmpBleRx) (pending : List UInt8) : Prop where
  head : rx.head = pending.take headSize
  unfinished : splitRecord pending = none
  body : ∀ header, SmpHeader.parse (pending.drop 1) = some header →
    rx.HasBody maxPacketSize pending header

variable {maxPacketSize : ℕ} {rx : SmpBleRx} {pending data : List UInt8} {header : SmpHeader}

theorem splitRecord_cons_of_short {stream : List UInt8}
    (parsed : SmpHeader.parse (stream.drop 1) = some header)
    (short : stream.length < 1 + header.getPacketSize) : splitRecord stream = none := by
  cases stream with
  | nil => rfl
  | cons route rest =>
    simp only [List.drop_succ_cons, List.drop_zero] at parsed
    rw [List.length_cons] at short
    simp only [splitRecord, parsed]
    rw [if_pos (by omega)]

theorem splitRecord_of_short_head {stream : List UInt8} (short : stream.length < headSize) :
    splitRecord stream = none := by
  cases split : splitRecord stream with
  | none => rfl
  | some found =>
    obtain ⟨record, rest⟩ := found
    obtain ⟨rfl, valid⟩ := splitRecord_eq_some_iff.mp split
    have := valid.size_le
    simp only [RoutedPacket.image, List.length_append, List.length_cons, headSize] at short
    omega

theorem HasBody.headSize_le (body : rx.HasBody maxPacketSize pending header) :
    headSize ≤ pending.length := by
  have := SmpHeader.size_le_of_parse body.parsed
  rw [List.length_drop, SmpHeader.size] at this
  rw [headSize, SmpHeader.size]
  omega

/-- The end of the loop body dispatches a complete request and keeps any other packet
that is not complete. -/
theorem HasBody.finishPacket_cases (body : rx.HasBody maxPacketSize pending header)
    (head : rx.head = pending.take headSize) :
    (rx.finishPacket.2 = [] ∧ Pending maxPacketSize rx.finishPacket.1 pending ∧
      rx.finishPacket.1.lastMs = rx.lastMs) ∨
    ∃ record : RoutedPacket, pending = record.image ∧ IsSmpPacket record.packet ∧
      rx.finishPacket.2 =
        [record].filter (fun record => isForwardable maxPacketSize record.packet) ∧
      Pending maxPacketSize rx.finishPacket.1 [] ∧ rx.finishPacket.1.lastMs = rx.lastMs := by
  have long := body.headSize_le
  by_cases complete : rx.remaining = 0
  · right
    obtain ⟨route, packet, rfl⟩ : ∃ route packet, pending = route :: packet := by
      cases pending with
      | nil => exact absurd long (by decide)
      | cons route packet => exact ⟨route, packet, rfl⟩
    have parsed : SmpHeader.parse packet = some header := body.parsed
    have size : header.getPacketSize = packet.length := by
      have := body.remaining
      rw [List.length_cons] at this
      omega
    have head' : rx.head = route :: packet.take SmpHeader.size := by
      rw [head, headSize, Nat.add_comm, List.take_succ_cons]
    refine ⟨⟨route, packet⟩, rfl, isSmpPacket_iff.mpr ⟨header, parsed, size⟩, ?_, ?_, ?_⟩
    -- What cannot be forwarded was never stored, and is dropped here.
    · have kept : rx.discarding = !isForwardable maxPacketSize packet := body.discarding
      cases forwardable : isForwardable maxPacketSize packet with
      | false =>
        rw [forwardable] at kept
        simp [finishPacket, complete, head', kept, forwardable]
      | true =>
        rw [forwardable] at kept
        have held : rx.packet = some packet := body.packet kept
        simp [finishPacket, complete, head', kept, forwardable, held]
    · simp only [finishPacket, complete, if_true]
      exact ⟨rfl, rfl, nofun⟩
    · simp only [finishPacket, complete, if_true]
      rfl
  · left
    have kept : rx.finishPacket = (rx, []) := by rw [finishPacket, if_neg complete]
    have := body.remaining
    rw [kept]
    refine ⟨rfl, ⟨head, splitRecord_cons_of_short body.parsed (by omega), ?_⟩, rfl⟩
    intro header' parsed'
    rw [body.parsed] at parsed'
    cases parsed'
    exact body

/-- A header the router has just completed, with a buffer from the pool for it. -/
theorem onHeader_hasBody (rx : SmpBleRx) (maxPacketSize : ℕ) (head : rx.head = pending)
    (complete : pending.length = headSize) :
    ∃ header, (rx.onHeader maxPacketSize true).HasBody maxPacketSize pending header := by
  have long : SmpHeader.size ≤ (pending.drop 1).length := by
    rw [List.length_drop, complete, headSize]
    omega
  obtain ⟨header, parsed⟩ := SmpHeader.exists_parse long
  refine ⟨header, parsed, ?_, ?_, ?_⟩
  · have size : header.getPacketSize = SmpHeader.size + header.length.toNat := rfl
    have remaining : (rx.onHeader maxPacketSize true).remaining = header.length.toNat := by
      simp only [onHeader, head, parsed]
      split
      · rfl
      · rfl
    rw [remaining, complete, size, headSize]
    omega
  · simp only [onHeader, head, parsed, isForwardable]
    split
    · rename_i refused
      simp at refused ⊢
      omega
    · rename_i accepted
      simp at accepted ⊢
      omega
  · simp only [onHeader, head, parsed]
    split
    · nofun
    · intro _
      rfl

theorem onHeader_keeps (rx : SmpBleRx) (maxPacketSize : ℕ) :
    (rx.onHeader maxPacketSize true).head = rx.head ∧
    (rx.onHeader maxPacketSize true).lastMs = rx.lastMs := by
  unfold onHeader
  split
  · exact ⟨rfl, rfl⟩
  · dsimp only
    split
    · exact ⟨rfl, rfl⟩
    · exact ⟨rfl, rfl⟩

/-- More bytes of the body. -/
theorem HasBody.append (body : rx.HasBody maxPacketSize pending header)
    (more : List UInt8) (fits : more.length ≤ rx.remaining) :
    HasBody maxPacketSize
      { rx with
        packet := if rx.discarding then rx.packet else rx.packet.map fun packet => packet ++ more
        remaining := rx.remaining - more.length }
      (pending ++ more) header := by
  have long := body.headSize_le
  have drop : (pending ++ more).drop 1 = pending.drop 1 ++ more :=
    List.drop_append_of_le_length (by rw [headSize] at long; omega)
  have parsed : SmpHeader.parse (pending.drop 1 ++ more) = some header := by
    rw [SmpHeader.parse_append _ (SmpHeader.size_le_of_parse body.parsed), body.parsed]
  have remaining := body.remaining
  refine ⟨drop ▸ parsed, ?_, ?_, ?_⟩
  · rw [List.length_append]
    dsimp only
    omega
  · rw [drop]
    simp only [isForwardable, parsed]
    have := body.discarding
    simpa only [isForwardable, body.parsed] using this
  · intro kept
    dsimp only at kept ⊢
    rw [kept, drop, body.packet kept]
    rfl

/-! ### The loop over one write -/

variable {allocates : ℕ → Bool}

/-- A round takes bytes of the write to the unfinished packet, and dispatches the
packet if they complete it. -/
theorem receiveRound_cases (holds : Pending maxPacketSize rx pending)
    (available : ∀ left, allocates left = true) (more : data ≠ []) :
    ∃ taken left, data = taken ++ left ∧ taken ≠ [] ∧
      (receiveRound maxPacketSize allocates rx data).2 = left ∧
      (receiveRound maxPacketSize allocates rx data).1.1.lastMs = rx.lastMs ∧
      (((receiveRound maxPacketSize allocates rx data).1.2 = [] ∧
        Pending maxPacketSize (receiveRound maxPacketSize allocates rx data).1.1
          (pending ++ taken)) ∨
      ∃ record : RoutedPacket, pending ++ taken = record.image ∧ IsSmpPacket record.packet ∧
        (receiveRound maxPacketSize allocates rx data).1.2
          = [record].filter (fun record => isForwardable maxPacketSize record.packet) ∧
        Pending maxPacketSize (receiveRound maxPacketSize allocates rx data).1.1 []) := by
  have nonempty : 0 < data.length := List.length_pos_iff.mpr more
  have headLength : rx.head.length = min headSize pending.length := by
    rw [holds.head, List.length_take]
  by_cases filling : rx.head.length < headSize
  · -- The bytes go to the head.
    have whole : rx.head = pending := by
      rw [holds.head]
      exact List.take_of_length_le (by omega)
    rw [whole] at filling
    generalize sizeEq : min (headSize - pending.length) data.length = size
    have length : (pending ++ data.take size).length = pending.length + size := by
      rw [List.length_append, List.length_take_of_le (by omega)]
    have taken : data.take size ≠ [] := by
      rw [← List.length_pos_iff, List.length_take_of_le (by omega)]
      omega
    refine ⟨data.take size, data.drop size, (List.take_append_drop ..).symm, taken, ?_⟩
    simp only [receiveRound, whole, if_pos filling, sizeEq]
    split
    · rename_i short
      refine ⟨rfl, rfl, .inl ⟨rfl, ?_, splitRecord_of_short_head short, ?_⟩⟩
      · exact (List.take_of_length_le short.le).symm
      · intro header parsed
        have := SmpHeader.size_le_of_parse parsed
        rw [List.length_drop] at this
        rw [headSize] at short
        omega
    · rename_i full
      have complete : (pending ++ data.take size).length = headSize := by omega
      rw [available]
      -- The header is complete: it says how many bytes of the body follow, and there may be none.
      generalize filledEq : ({ rx with head := pending ++ data.take size } : SmpBleRx) = filled
      have headFilled : filled.head = pending ++ data.take size := by rw [← filledEq]
      have lastFilled : filled.lastMs = rx.lastMs := by rw [← filledEq]
      obtain ⟨header, body⟩ := filled.onHeader_hasBody maxPacketSize headFilled complete
      have head : (filled.onHeader maxPacketSize true).head
          = (pending ++ data.take size).take headSize := by
        rw [(filled.onHeader_keeps maxPacketSize).1, headFilled]
        exact (List.take_of_length_le complete.le).symm
      have last := (filled.onHeader_keeps maxPacketSize).2.trans lastFilled
      obtain ⟨nothing, goesOn, time⟩ | ⟨record, image, valid, out, done, time⟩ :=
        body.finishPacket_cases head
      · exact ⟨rfl, time.trans last, .inl ⟨nothing, goesOn⟩⟩
      · exact ⟨rfl, time.trans last, .inr ⟨record, image, valid, out, done⟩⟩
  · -- The bytes go to the body.
    have long : headSize ≤ pending.length := by omega
    obtain ⟨header, parsed⟩ : ∃ header, SmpHeader.parse (pending.drop 1) = some header := by
      apply SmpHeader.exists_parse
      rw [List.length_drop]
      rw [headSize] at long
      omega
    have body := holds.body header parsed
    have going : 0 < rx.remaining := by
      by_contra ended
      have := body.remaining
      have valid : IsSmpPacket (pending.drop 1) :=
        isSmpPacket_iff.mpr ⟨header, parsed, by rw [List.length_drop]; omega⟩
      obtain ⟨route, packet, rfl⟩ : ∃ route packet, pending = route :: packet := by
        cases pending with
        | nil => exact absurd long (by decide)
        | cons route packet => exact ⟨route, packet, rfl⟩
      have found : splitRecord (route :: packet) = some (⟨route, packet⟩, []) :=
        splitRecord_eq_some_iff.mpr ⟨by simp [RoutedPacket.image], valid⟩
      rw [holds.unfinished] at found
      cases found
    generalize sizeEq : min rx.remaining data.length = size
    have length : (data.take size).length = size := List.length_take_of_le (by omega)
    have taken : data.take size ≠ [] := by
      rw [← List.length_pos_iff, length]
      omega
    have body' := body.append (data.take size) (by omega)
    rw [length] at body'
    have head : rx.head = (pending ++ data.take size).take headSize := by
      rw [holds.head, List.take_append_of_le_length long]
    refine ⟨data.take size, data.drop size, (List.take_append_drop ..).symm, taken, ?_⟩
    simp only [receiveRound, if_neg filling, sizeEq]
    obtain ⟨nothing, goesOn, time⟩ | ⟨record, image, valid, out, done, time⟩ :=
      body'.finishPacket_cases head
    · exact ⟨trivial, time, .inl ⟨nothing, goesOn⟩⟩
    · exact ⟨trivial, time, .inr ⟨record, image, valid, out, done⟩⟩

/-- The loop takes a write to the stream of the connection. -/
theorem receiveLoop_eq {rounds : ℕ} (holds : Pending maxPacketSize rx pending)
    (available : ∀ left, allocates left = true) (enough : data.length < rounds) :
    (receiveLoop maxPacketSize allocates rounds rx data).2
        = (splitRecords (pending ++ data)).1.filter
            (fun record => isForwardable maxPacketSize record.packet) ∧
      Pending maxPacketSize (receiveLoop maxPacketSize allocates rounds rx data).1
        (splitRecords (pending ++ data)).2 ∧
      (receiveLoop maxPacketSize allocates rounds rx data).1.lastMs = rx.lastMs := by
  induction rounds generalizing rx pending data with
  | zero => omega
  | succ rounds ih =>
    by_cases empty : data = []
    · subst empty
      rw [List.append_nil, splitRecords_of_none holds.unfinished]
      exact ⟨rfl, holds, rfl⟩
    · have more : data.isEmpty = false := by simpa using empty
      obtain ⟨taken, left, rfl, some, leftEq, time, outcome⟩ :=
        receiveRound_cases holds available empty
      have fewer : left.length < rounds := by
        have := List.length_pos_iff.mpr some
        rw [List.length_append] at enough
        omega
      simp only [receiveLoop, more, Bool.false_eq_true, if_false, leftEq]
      rw [← List.append_assoc]
      obtain ⟨nothing, goesOn⟩ | ⟨record, image, valid, out, done⟩ := outcome
      · obtain ⟨later, kept, time'⟩ := ih goesOn fewer
        rw [nothing, List.nil_append]
        exact ⟨later, kept, time'.trans time⟩
      · obtain ⟨later, kept, time'⟩ := ih done fewer
        rw [List.nil_append] at later kept
        rw [image, splitRecords_image_append valid, out, later, ← List.filter_append]
        exact ⟨rfl, kept, time'.trans time⟩

/-! ### All writes of a connection -/

/-- A write within the timeout takes its bytes to the stream of the connection. -/
theorem onReceive_eq {timeoutMs : ℤ} {write : BleWrite} (holds : Pending maxPacketSize rx pending)
    (available : ∀ left, write.allocates left = true)
    (soon : rx.head = [] ∨ write.nowMs - rx.lastMs ≤ timeoutMs) :
    (onReceive maxPacketSize timeoutMs rx write).2
        = (splitRecords (pending ++ write.data)).1.filter
            (fun record => isForwardable maxPacketSize record.packet) ∧
      Pending maxPacketSize (onReceive maxPacketSize timeoutMs rx write).1
        (splitRecords (pending ++ write.data)).2 ∧
      (onReceive maxPacketSize timeoutMs rx write).1.lastMs = write.nowMs := by
  have timely : ¬ (0 < rx.head.length ∧ timeoutMs < write.nowMs - rx.lastMs) := by
    rintro ⟨started, late⟩
    rcases soon with fresh | soon
    · rw [fresh] at started
      exact absurd started (by decide)
    · omega
  have holds' : Pending maxPacketSize { rx with lastMs := write.nowMs } pending :=
    ⟨holds.head, holds.unfinished, fun header parsed =>
      ⟨parsed, (holds.body header parsed).remaining, (holds.body header parsed).discarding,
        (holds.body header parsed).packet⟩⟩
  rw [onReceive, if_neg timely]
  exact receiveLoop_eq holds' available (Nat.lt_succ_self _)

/-- Cutting a stream does not change its packets. -/
theorem splitRecords_append (stream more : List UInt8) :
    splitRecords (stream ++ more)
      = ((splitRecords stream).1 ++ (splitRecords ((splitRecords stream).2 ++ more)).1,
        (splitRecords ((splitRecords stream).2 ++ more)).2) := by
  induction stream using splitRecords.induct with
  | case1 stream none => rw [splitRecords_of_none none, List.nil_append]
  | case2 stream record rest split ih =>
    obtain ⟨rfl, valid⟩ := splitRecord_eq_some_iff.mp split
    rw [List.append_assoc, splitRecords_image_append valid, splitRecords_image_append valid, ih]
    rfl

private theorem dispatched_eq {timeoutMs : ℤ} {writes : List BleWrite}
    (holds : Pending maxPacketSize rx pending)
    (available : ∀ write ∈ writes, ∀ left, write.allocates left = true)
    (gaps : GapsWithin timeoutMs (writes.map BleWrite.nowMs))
    (soon : ∀ write ∈ writes.head?, rx.head = [] ∨ write.nowMs - rx.lastMs ≤ timeoutMs) :
    dispatched maxPacketSize timeoutMs rx writes
      = (splitRecords (pending ++ (writes.map BleWrite.data).flatten)).1.filter
          (fun record => isForwardable maxPacketSize record.packet) := by
  induction writes generalizing rx pending with
  | nil =>
    rw [List.map_nil, List.flatten_nil, List.append_nil, splitRecords_of_none holds.unfinished]
    rfl
  | cons write later ih =>
    obtain ⟨out, holds', time⟩ := onReceive_eq holds
      (available write (List.mem_cons_self ..)) (soon write rfl)
    have soon' : ∀ next ∈ later.head?,
        (onReceive maxPacketSize timeoutMs rx write).1.head = [] ∨
          next.nowMs - (onReceive maxPacketSize timeoutMs rx write).1.lastMs ≤ timeoutMs := by
      intro next isNext
      obtain ⟨rest, rfl⟩ := List.head?_eq_some_iff.mp isNext
      right
      rw [time]
      exact (List.isChain_cons_cons.mp gaps).1
    have rest := ih holds' (fun write mem => available write (List.mem_cons_of_mem _ mem))
      (List.IsChain.tail gaps) soon'
    rw [List.map_cons, List.flatten_cons, ← List.append_assoc, splitRecords_append,
      List.filter_append, dispatched, out, rest]

/-- Nothing of a packet has been received, as after a connection is made. -/
def IsReset (rx : SmpBleRx) : Prop := rx.head = []

/-- However the stream of a connection is cut into writes, the packets dispatched are
the requests that fit among the packets of the whole stream. -/
theorem dispatched_eq_records (maxPacketSize : ℕ) (timeoutMs : ℤ) (rx : SmpBleRx)
    (reset : rx.IsReset) (writes : List BleWrite)
    (available : ∀ write ∈ writes, ∀ left, write.allocates left = true)
    (gaps : GapsWithin timeoutMs (writes.map BleWrite.nowMs)) :
    dispatched maxPacketSize timeoutMs rx writes
      = (splitRecords (writes.map BleWrite.data).flatten).1.filter
          (fun record => isForwardable maxPacketSize record.packet) := by
  have holds : Pending maxPacketSize rx [] := ⟨reset, rfl, nofun⟩
  exact dispatched_eq holds available gaps fun _ _ => .inl reset

/-- A read of two bytes of header in one write, a response in between, an empty write,
and the rest of a write request. -/
def cutWrites : List BleWrite :=
  [⟨[0, 0, 0], 0, fun _ => true⟩, ⟨[0, 0, 0, 0, 1, 5, 3, 0x01, 0, 0], 400, fun _ => true⟩,
    ⟨[], 900, fun _ => true⟩,
    ⟨[1, 0, 0, 2, 5, 0xA0, 7, 0x02, 0, 0, 1, 0, 0, 3, 5, 0xA0], 1900, fun _ => true⟩]

theorem dispatched_eq_records_cutWrites :
    (SmpBleRx.mk [] none 0 false 0 0).IsReset ∧
    GapsWithin 1000 (cutWrites.map BleWrite.nowMs) ∧
    dispatched 384 1000 (SmpBleRx.mk [] none 0 false 0 0) cutWrites
      = [⟨0, [0, 0, 0, 0, 0, 0, 1, 5]⟩, ⟨7, [0x02, 0, 0, 1, 0, 0, 3, 5, 0xA0]⟩] ∧
    dispatched 384 1000 (SmpBleRx.mk [] none 0 false 0 0) cutWrites
      = (splitRecords (cutWrites.map BleWrite.data).flatten).1.filter
          (fun record => isForwardable 384 record.packet) := by
  have available : ∀ write ∈ cutWrites, ∀ left, write.allocates left = true := by
    simp [cutWrites]
  refine ⟨rfl, by decide, by decide +kernel, ?_⟩
  exact dispatched_eq_records 384 1000 (SmpBleRx.mk [] none 0 false 0 0) rfl cutWrites available
    (by decide)

end SmpBleRx

end RtCore.Smp
