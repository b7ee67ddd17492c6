import RtCore.Smp.BleLink

/-!
# Responses on a BLE link

`SmpBleRouter::ProcessTx` takes responses from a queue and notifies each as
`[route][SMP packet]`, cut into fragments of the size the link allows at the time.
A response is dropped when the central is not subscribed or a notification fails;
a full link makes it wait.

## Main definitions

* `SmpBleTx.processTxRound` — one round of the loop of `ProcessTx`
* `BleTxTrace` — the state with what the connection has seen of it
* `FormsImages` — the accepted bytes are complete packets and the beginning of one

## Main results

* `BleTxTrace.formsImages_of_unbroken` — as long as nothing is accepted after a
  packet was dropped halfway, a central can split the stream by the SMP length
-/

namespace RtCore.Smp

open RtCore.Foundation

/-! ### The sending side -/

/-- A response with the route and the generation of its user data. -/
structure BleResponse where
  record : RoutedPacket
  generation : UInt8
deriving DecidableEq, Repr

/-- The state `tx_work_` works on. `maxFirstFragmentSize` is the size of
`tx_first_fragment_`, which the configuration keeps between 20 and 512. -/
structure SmpBleTx where
  queue : List BleResponse
  packet : Option BleResponse
  offset : ℕ
  generation : UInt8
  dropped : UInt32
  maxFirstFragmentSize : ℕ
  sizeInRange : 20 ≤ maxFirstFragmentSize ∧ maxFirstFragmentSize ≤ 512

/-- What a round of `ProcessTx` came to. -/
inductive TxOutcome
  /-- The queue is empty. -/
  | idle
  /-- The packet is given up. -/
  | dropped
  /-- No notification buffer is free; the packet waits. -/
  | retry
  /-- The fragment is accepted. -/
  | notified (fragment : List UInt8)
deriving DecidableEq, Repr

/-- `ENOMEM`. -/
def eNoMem : ℤ := 12

namespace SmpBleTx

/-- The packet in progress, or the next one of the queue. -/
def fetch (tx : SmpBleTx) : SmpBleTx :=
  match tx.packet, tx.queue with
  | some _, _ => tx
  | none, [] => tx
  | none, response :: rest => { tx with queue := rest, packet := some response, offset := 0 }

/-- The next fragment. The offset counts the route byte, which only the first
fragment carries. -/
def fragment (tx : SmpBleTx) (record : RoutedPacket) (maxSize : ℕ) : List UInt8 :=
  let total := 1 + record.packet.length
  if tx.offset = 0 then
    let size := min (min maxSize tx.maxFirstFragmentSize) total
    record.route :: record.packet.take (size - 1)
  else (record.packet.drop (tx.offset - 1)).take (min maxSize (total - tx.offset))

/-- `tx_packet_.reset()` with the count of dropped responses. -/
def dropPacket (tx : SmpBleTx) : SmpBleTx :=
  { tx with packet := none, dropped := tx.dropped + 1 }

/-- One round of the loop of `ProcessTx`, given the answers of the notifier. -/
def processTxRound (tx : SmpBleTx) (maxSize : ℕ) (result : ℤ) : SmpBleTx × TxOutcome :=
  let tx := tx.fetch
  match tx.packet with
  | none => (tx, .idle)
  | some response =>
    -- The response belongs to an earlier connection, or there is none to notify.
    if response.generation ≠ tx.generation ∨ maxSize = 0 then (tx.dropPacket, .dropped)
    else
      let fragment := tx.fragment response.record maxSize
      if result = -eNoMem then (tx, .retry)
      else if result ≠ 0 then (tx.dropPacket, .dropped)
      else
        let offset := tx.offset + fragment.length
        ({ tx with
            offset
            packet := if offset = 1 + response.record.packet.length then none else tx.packet },
          .notified fragment)

/-- `EnqueueTx`. -/
def enqueueTx (tx : SmpBleTx) (response : BleResponse) : SmpBleTx :=
  { tx with queue := tx.queue ++ [response] }

/-- The packet in progress, if it belongs to this connection. -/
def current (tx : SmpBleTx) : Option BleResponse :=
  tx.packet.filter fun response => response.generation == tx.generation

/-- The first fragment is the beginning of the packet on the link, the others go on from
the offset. -/
theorem fragment_eq (tx : SmpBleTx) (record : RoutedPacket) {maxSize : ℕ} (some : 0 < maxSize) :
    ∃ size, tx.fragment record maxSize = (record.image.drop tx.offset).take size := by
  have range := tx.sizeInRange
  by_cases first : tx.offset = 0
  · refine ⟨min (min maxSize tx.maxFirstFragmentSize) (1 + record.packet.length), ?_⟩
    simp only [fragment, first, if_true, List.drop_zero, RoutedPacket.image]
    generalize sizeEq : min (min maxSize tx.maxFirstFragmentSize) (1 + record.packet.length) = size
    obtain ⟨less, rfl⟩ : ∃ less, size = less + 1 := ⟨size - 1, by omega⟩
    rw [List.take_succ_cons, Nat.add_sub_cancel]
  · refine ⟨min maxSize (1 + record.packet.length - tx.offset), ?_⟩
    obtain ⟨less, offset⟩ : ∃ less, tx.offset = less + 1 := ⟨tx.offset - 1, by omega⟩
    rw [fragment, if_neg first, RoutedPacket.image, offset, List.drop_succ_cons,
      Nat.add_sub_cancel]

end SmpBleTx

/-! ### A connection -/

/-- What happens while a connection lasts. -/
inductive BleTxEvent
  /-- `EnqueueTx`, on any thread. -/
  | enqueue (response : BleResponse)
  /-- A round of `ProcessTx`, with what `GetMaxNotificationSize` and `Notify` answer. -/
  | round (maxSize : ℕ) (result : ℤ)
deriving DecidableEq, Repr

/-- The sending side with the history of the connection. -/
structure BleTxTrace where
  tx : SmpBleTx
  /-- The responses, in the order of the queue. -/
  responses : List RoutedPacket
  /-- The bytes of the accepted notifications. -/
  accepted : List UInt8
  /-- A packet was dropped after some, but not all, of its bytes were accepted. -/
  severed : Bool

namespace BleTxTrace

/-- Nothing of this connection has been sent: a packet in progress is left from an
earlier one. -/
def start (tx : SmpBleTx) : BleTxTrace :=
  { tx, responses := tx.queue.map BleResponse.record, accepted := [], severed := false }

/-- One event of the link, with the responses queued so far. -/
def step (trace : BleTxTrace) : BleTxEvent → BleTxTrace
  | .enqueue response =>
    { trace with
      tx := trace.tx.enqueueTx response
      responses := trace.responses ++ [response.record] }
  | .round maxSize result =>
    match trace.tx.processTxRound maxSize result with
    | (tx, .idle) => { trace with tx }
    | (tx, .retry) => { trace with tx }
    | (tx, .dropped) =>
      let halfway := trace.tx.current.isSome && trace.tx.offset != 0
      { trace with tx, severed := trace.severed || halfway }
    | (tx, .notified fragment) => { trace with tx, accepted := trace.accepted ++ fragment }

/-- A response of this connection is in progress or next in the queue. -/
def isWaiting (trace : BleTxTrace) : Bool := trace.tx.fetch.current.isSome

/-- Once a packet has been dropped halfway, no notification is accepted any more. -/
def Unbroken (trace : BleTxTrace) : BleTxEvent → Prop
  | .enqueue _ => True
  | .round maxSize result =>
    trace.severed = true → trace.isWaiting = true → maxSize = 0 ∨ result ≠ 0

instance : ∀ (trace : BleTxTrace) (event : BleTxEvent), Decidable (trace.Unbroken event)
  | _, .enqueue _ => .isTrue trivial
  | trace, .round maxSize result =>
    inferInstanceAs (Decidable (trace.severed = true → trace.isWaiting = true →
      maxSize = 0 ∨ result ≠ 0))

end BleTxTrace

/-- The bytes are the packets `sent`, in the order of the queue, and the beginning
`part` of one more. -/
structure FormsImages (responses : List RoutedPacket) (bytes : List UInt8)
    (sent : List RoutedPacket) (part : List UInt8) : Prop where
  bytes_eq : bytes = (sent.map RoutedPacket.image).flatten ++ part
  inOrder : sent.Sublist responses
  partial_of : part = [] ∨ ∃ response : RoutedPacket, (sent ++ [response]).Sublist responses ∧
    part <+: response.image ∧ part ≠ response.image

theorem FormsImages.mono {responses more sent : List RoutedPacket}
    {bytes part : List UInt8} (forms : FormsImages responses bytes sent part)
    (grown : responses.Sublist more) : FormsImages more bytes sent part :=
  ⟨forms.bytes_eq, forms.inOrder.trans grown,
    forms.partial_of.imp_right fun ⟨response, sublist, found⟩ =>
      ⟨response, sublist.trans grown, found⟩⟩

/-- A proper beginning of a packet on the link does not look like a packet. -/
private theorem splitRecord_eq_none_of_prefix {response : RoutedPacket} {part : List UInt8}
    (valid : IsSmpPacket response.packet) (begins : part <+: response.image)
    (proper : part ≠ response.image) : splitRecord part = none := by
  cases split : splitRecord part with
  | none => rfl
  | some found =>
    obtain ⟨record, rest⟩ := found
    obtain ⟨rfl, valid'⟩ := splitRecord_eq_some_iff.mp split
    obtain ⟨more, whole⟩ := begins
    rw [List.append_assoc] at whole
    -- The packet it looks like has the header of the response, hence its length.
    have first := splitRecords_image_append valid' (rest ++ more)
    have second := splitRecords_image_append valid []
    rw [List.append_nil] at second
    rw [whole, second] at first
    obtain rfl := (List.cons.inj (congrArg Prod.fst first)).1
    rw [← List.append_assoc] at whole
    have := congrArg List.length whole
    simp only [List.length_append] at this
    have empty : rest = [] := List.length_eq_zero_iff.mp (by omega)
    subst empty
    exact absurd (List.append_nil _) proper

/-- A central that splits the bytes by the SMP length finds the packets. -/
theorem FormsImages.splitRecords_eq {responses sent : List RoutedPacket}
    {bytes part : List UInt8} (forms : FormsImages responses bytes sent part)
    (valid : ∀ response ∈ responses, IsSmpPacket response.packet) :
    splitRecords bytes = (sent, part) := by
  have rest : splitRecord part = none := by
    rcases forms.partial_of with rfl | ⟨response, sublist, begins, proper⟩
    · rfl
    · exact splitRecord_eq_none_of_prefix (valid response (sublist.subset (by simp))) begins proper
  have valid' : ∀ record ∈ sent, IsSmpPacket record.packet := fun record mem =>
    valid record (forms.inOrder.subset mem)
  rw [forms.bytes_eq]
  clear forms
  induction sent with
  | nil => exact splitRecords_of_none rest
  | cons record sent ih =>
    rw [List.map_cons, List.flatten_cons, List.append_assoc,
      splitRecords_image_append (valid' record (List.mem_cons_self ..)),
      ih fun record mem => valid' record (List.mem_cons_of_mem _ mem)]

/-! ### Rounds -/

namespace SmpBleTx

variable {tx : SmpBleTx} {responses sent : List RoutedPacket} {accepted : List UInt8}
  {maxSize : ℕ} {result : ℤ}

/-- The accepted bytes are the packets `sent` and what has been sent of the packet in
progress; the queue holds later responses. -/
structure Sending (tx : SmpBleTx) (responses : List RoutedPacket) (accepted : List UInt8)
    (sent : List RoutedPacket) : Prop where
  accepted_eq : accepted = (sent.map RoutedPacket.image).flatten
    ++ (tx.current.map fun response => response.record.image.take tx.offset).getD []
  inOrder : (sent ++ tx.current.toList.map BleResponse.record
    ++ tx.queue.map BleResponse.record).Sublist responses
  unfinished : ∀ response ∈ tx.current, tx.offset < response.record.image.length

theorem offset_fetch (idle : tx.packet = none) (found : tx.fetch.packet.isSome = true) :
    tx.fetch.offset = 0 := by
  unfold fetch at found ⊢
  split at found
  · simp_all
  · simp_all
  · rfl

/-- Fetching the next response keeps track of what was sent. -/
theorem Sending.fetch (sending : tx.Sending responses accepted sent) :
    tx.fetch.Sending responses accepted sent := by
  unfold SmpBleTx.fetch
  split
  · exact sending
  · exact sending
  · rename_i response rest idle queued
    have nothing : tx.current = none := by rw [current, idle, Option.filter_none]
    obtain ⟨accepted_eq, inOrder, -⟩ := sending
    rw [nothing] at accepted_eq inOrder
    rw [queued] at inOrder
    by_cases fresh : response.generation = tx.generation
    · refine ⟨?_, ?_, ?_⟩
      · simpa [current, fresh, Option.filter_some] using accepted_eq
      · simpa [current, fresh, Option.filter_some] using inOrder
      · simp [current, fresh, Option.filter_some, RoutedPacket.image]
    · refine ⟨?_, ?_, ?_⟩
      · simpa [current, fresh, Option.filter_some] using accepted_eq
      · have : (sent ++ rest.map BleResponse.record).Sublist
            (sent ++ (response :: rest).map BleResponse.record) := by simp
        simpa [current, fresh, Option.filter_some] using this.trans (by simpa using inOrder)
      · simp [current, fresh, Option.filter_some]

/-- What a round does with the response it has fetched. -/
theorem processTxRound_cases (tx : SmpBleTx) (maxSize : ℕ) (result : ℤ) :
    (tx.processTxRound maxSize result = (tx.fetch, .idle)) ∨
    (tx.processTxRound maxSize result = (tx.fetch, .retry)) ∨
    (tx.fetch.packet.isSome = true ∧
      tx.processTxRound maxSize result = (tx.fetch.dropPacket, .dropped)) ∨
    ∃ response, tx.fetch.current = some response ∧ 0 < maxSize ∧ result = 0 ∧
      tx.processTxRound maxSize result =
        ({ tx.fetch with
            offset := tx.fetch.offset + (tx.fetch.fragment response.record maxSize).length
            packet :=
              if tx.fetch.offset + (tx.fetch.fragment response.record maxSize).length
                = 1 + response.record.packet.length then none else tx.fetch.packet },
          .notified (tx.fetch.fragment response.record maxSize)) := by
  simp only [processTxRound]
  generalize tx.fetch = fetched
  cases found : fetched.packet with
  | none => exact .inl rfl
  | some response =>
    right
    dsimp only
    split
    · exact .inr (.inl ⟨rfl, rfl⟩)
    · rename_i sendable
      rw [not_or, not_not] at sendable
      split
      · exact .inl rfl
      · right
        split
        · exact .inl ⟨rfl, rfl⟩
        · rename_i accepted
          refine .inr ⟨response, ?_, Nat.pos_of_ne_zero sendable.2, not_not.mp accepted, rfl⟩
          rw [current, found, Option.filter_some, if_pos (by simpa using sendable.1)]

/-- A packet that is given up before any of its bytes was accepted leaves no trace. -/
theorem Sending.dropPacket (sending : tx.Sending responses accepted sent)
    (unsent : tx.current.isSome = true → tx.offset = 0) :
    tx.dropPacket.Sending responses accepted sent := by
  obtain ⟨accepted_eq, inOrder, -⟩ := sending
  have nothing : tx.dropPacket.current = none := rfl
  refine ⟨?_, ?_, by rw [nothing]; nofun⟩
  · rw [nothing, accepted_eq]
    cases found : tx.current with
    | none => rfl
    | some response => simp [unsent (by rw [found]; rfl)]
  · rw [nothing]
    refine List.Sublist.trans ?_ inOrder
    simp [SmpBleTx.dropPacket]

/-- An accepted fragment is the next part of the packet in progress. -/
theorem Sending.notified {response : BleResponse} (sending : tx.Sending responses accepted sent)
    (found : tx.current = some response) (some : 0 < maxSize) :
    ∃ sent', Sending
      { tx with
        offset := tx.offset + (tx.fragment response.record maxSize).length
        packet :=
          if tx.offset + (tx.fragment response.record maxSize).length
            = 1 + response.record.packet.length then none else tx.packet }
      responses (accepted ++ tx.fragment response.record maxSize) sent' := by
  obtain ⟨accepted_eq, inOrder, unfinished⟩ := sending
  obtain ⟨size, fragment⟩ := tx.fragment_eq response.record some
  have within := unfinished response found
  have total : response.record.image.length = 1 + response.record.packet.length := by
    rw [RoutedPacket.image, List.length_cons, Nat.add_comm]
  rw [found] at accepted_eq inOrder
  -- The bytes up to the new offset are the beginning of the packet on the link.
  have grown : accepted ++ tx.fragment response.record maxSize
      = (sent.map RoutedPacket.image).flatten ++ response.record.image.take
          (tx.offset + (tx.fragment response.record maxSize).length) := by
    rw [accepted_eq, Option.map_some, Option.getD_some, List.append_assoc, List.take_add]
    congr 2
    rw [fragment, List.length_take]
    exact List.take_eq_take_min
  have bound : tx.offset + (tx.fragment response.record maxSize).length
      ≤ response.record.image.length := by
    rw [fragment, List.length_take, List.length_drop]
    omega
  generalize tx.offset + (tx.fragment response.record maxSize).length = offset at grown bound ⊢
  by_cases done : offset = 1 + response.record.packet.length
  · refine ⟨sent ++ [response.record], ?_, ?_, ?_⟩
    · rw [grown, List.take_of_length_le (by omega)]
      simp [current, done]
    · simpa [current, done] using inOrder
    · simp [current, done]
  · have same : current { tx with offset, packet := if offset = 1 + response.record.packet.length
        then none else tx.packet } = Option.some response := by
      rw [current, if_neg done]
      exact found
    refine ⟨sent, ?_, ?_, ?_⟩
    · rw [same, grown]
      rfl
    · rw [same]
      exact inOrder
    · rw [same]
      intro response' found'
      cases found'
      dsimp only
      omega

theorem Sending.formsImages (sending : tx.Sending responses accepted sent) :
    ∃ part, FormsImages responses accepted sent part := by
  obtain ⟨accepted_eq, inOrder, unfinished⟩ := sending
  have sublist : (sent ++ tx.current.toList.map BleResponse.record).Sublist responses :=
    (List.sublist_append_left ..).trans inOrder
  refine ⟨_, accepted_eq, (List.sublist_append_left ..).trans sublist, ?_⟩
  cases found : tx.current with
  | none => exact .inl rfl
  | some response =>
    rw [found] at sublist
    refine .inr ⟨response.record, sublist, List.take_prefix .., fun whole => ?_⟩
    have := unfinished response found
    have := congrArg List.length whole
    simp only [Option.map_some, Option.getD_some, List.length_take] at this
    omega

end SmpBleTx

/-! ### Whole connections -/

namespace BleTxTrace

open SmpBleTx

variable {trace : BleTxTrace}

/-- The accepted bytes are packets and the beginning of one; and until a packet is
dropped halfway, the sending side goes on from there. -/
structure Consistent (trace : BleTxTrace) : Prop where
  formed : ∃ sent part, FormsImages trace.responses trace.accepted sent part
  sending : trace.severed = false → ∃ sent, trace.tx.Sending trace.responses trace.accepted sent

theorem consistent_of_sending (sent : List RoutedPacket)
    (sending : trace.tx.Sending trace.responses trace.accepted sent) : trace.Consistent :=
  ⟨⟨sent, sending.formsImages⟩, fun _ => ⟨sent, sending⟩⟩

private theorem consistent_enqueue (consistent : trace.Consistent) (response : BleResponse) :
    (trace.step (.enqueue response)).Consistent := by
  refine ⟨?_, fun whole => ?_⟩
  · obtain ⟨sent, part, forms⟩ := consistent.formed
    exact ⟨sent, part, forms.mono (List.sublist_append_left ..)⟩
  · obtain ⟨sent, sending⟩ := consistent.sending whole
    refine ⟨sent, sending.accepted_eq, ?_, sending.unfinished⟩
    have := sending.inOrder.append (List.Sublist.refl [response.record])
    simpa [step, enqueueTx, current] using this

/-- Where nothing of the packet in progress has been accepted, none of a packet
fetched for it has. -/
private theorem offset_eq_zero (unsent : (trace.tx.current.isSome && trace.tx.offset != 0) = false)
    (found : trace.tx.fetch.packet.isSome = true)
    (fresh : trace.tx.fetch.current.isSome = true) : trace.tx.fetch.offset = 0 := by
  cases busy : trace.tx.packet with
  | none => exact offset_fetch busy found
  | some response =>
    have same : trace.tx.fetch = trace.tx := by simp [fetch, busy]
    rw [same] at fresh ⊢
    simpa [fresh] using unsent

/-- A round keeps track of the accepted bytes, unless it follows up a packet that was
dropped halfway. -/
theorem consistent_round (consistent : trace.Consistent) {maxSize : ℕ} {result : ℤ}
    (unbroken : trace.Unbroken (.round maxSize result)) :
    (trace.step (.round maxSize result)).Consistent := by
  cases severed : trace.severed with
  | true =>
    refine ⟨?_, fun whole => ?_⟩
    · obtain round | round | ⟨-, round⟩ | ⟨response, found, some, accepted, round⟩ :=
        trace.tx.processTxRound_cases maxSize result
      · simpa only [step, round] using consistent.formed
      · simpa only [step, round] using consistent.formed
      · simpa only [step, round] using consistent.formed
      · have waiting : trace.isWaiting = true := by rw [isWaiting, found]; rfl
        rcases unbroken severed waiting with zero | failed
        · omega
        · exact absurd accepted failed
    · have kept : (trace.step (.round maxSize result)).severed = true := by
        simp only [step]
        split <;> simp [severed]
      rw [kept] at whole
      cases whole
  | false =>
    obtain ⟨sent, sending⟩ := consistent.sending severed
    obtain round | round | ⟨found, round⟩ | ⟨response, found, some, accepted, round⟩ :=
      trace.tx.processTxRound_cases maxSize result
    · simp only [step, round]
      exact consistent_of_sending _ sending.fetch
    · simp only [step, round]
      exact consistent_of_sending _ sending.fetch
    · simp only [step, round, severed, Bool.false_or]
      refine ⟨consistent.formed, fun unsent => ⟨sent, ?_⟩⟩
      exact sending.fetch.dropPacket fun fresh => offset_eq_zero unsent found fresh
    · simp only [step, round]
      obtain ⟨sent', sending'⟩ := sending.fetch.notified found some
      exact consistent_of_sending _ sending'

theorem consistent_step (trace : BleTxTrace) (event : BleTxEvent) (consistent : trace.Consistent)
    (unbroken : trace.Unbroken event) : (trace.step event).Consistent := by
  cases event with
  | enqueue response => exact consistent_enqueue consistent response
  | round maxSize result => exact consistent_round consistent unbroken

theorem consistent_start {tx : SmpBleTx} (fresh : tx.current = none) :
    (start tx).Consistent := by
  refine consistent_of_sending [] ⟨?_, ?_, ?_⟩
  · simp [start, fresh]
  · simp [start, fresh]
  · simp [start, fresh]

/-- In every run in which no notification is accepted after a packet has been dropped
halfway, the accepted bytes are complete packets in the order of the queue followed by
at most the beginning of one, and splitting them by the SMP length finds these. -/
theorem formsImages_of_unbroken (tx : SmpBleTx) (fresh : tx.current = none)
    (events : List BleTxEvent) (unbroken : Along step Unbroken (start tx) events) :
    Always step (fun trace => ∃ sent part,
      FormsImages trace.responses trace.accepted sent part ∧
      ((∀ response ∈ trace.responses, IsSmpPacket response.packet) →
        splitRecords trace.accepted = (sent, part))) (start tx) events := by
  have always := unbroken.always (consistent_start fresh) consistent_step
  refine always.imp fun trace consistent => ?_
  obtain ⟨sent, part, forms⟩ := consistent.formed
  exact ⟨sent, part, forms, forms.splitRecords_eq⟩

/-- A response of this unit and one of unit 7, both without a body. -/
def twoResponses : SmpBleTx :=
  { queue := [⟨⟨0, [1, 0, 0, 0, 0, 0, 1, 5]⟩, 0⟩, ⟨⟨7, [1, 0, 0, 0, 0, 0, 2, 5]⟩, 0⟩]
    packet := none
    offset := 0
    generation := 0
    dropped := 0
    maxFirstFragmentSize := 244
    sizeInRange := by decide }

/-- A busy link and a size that changes between fragments do no harm, nor does an
unsubscribed central between packets. -/
theorem formsImages_twoResponses :
    Along step Unbroken (start twoResponses)
      [.round 3 0, .round 3 (-eNoMem), .round 20 0, .round 0 0] ∧
    Always step (fun trace => ∃ sent part,
      FormsImages trace.responses trace.accepted sent part ∧
      ((∀ response ∈ trace.responses, IsSmpPacket response.packet) →
        splitRecords trace.accepted = (sent, part))) (start twoResponses)
      [.round 3 0, .round 3 (-eNoMem), .round 20 0, .round 0 0] :=
  ⟨by decide +kernel, formsImages_of_unbroken twoResponses rfl _ (by decide +kernel)⟩

/-- After three bytes of the first response its next notification fails, and the second
response follows: the central reads its route byte as part of the first header. -/
theorem not_formsImages_after_failure :
    ¬ ∃ sent part, FormsImages
      (run step (start twoResponses) [.round 3 0, .round 3 (-5), .round 20 0]).responses
      (run step (start twoResponses) [.round 3 0, .round 3 (-5), .round 20 0]).accepted
      sent part := by
  have accepted : (run step (start twoResponses)
      [.round 3 0, .round 3 (-5), .round 20 0]).accepted
      = [0, 1, 0, 7, 1, 0, 0, 0, 0, 0, 2, 5] := by decide +kernel
  have responses : (run step (start twoResponses)
      [.round 3 0, .round 3 (-5), .round 20 0]).responses
      = [⟨0, [1, 0, 0, 0, 0, 0, 1, 5]⟩, ⟨7, [1, 0, 0, 0, 0, 0, 2, 5]⟩] := by decide +kernel
  rw [accepted, responses]
  rintro ⟨sent, part, forms⟩
  have split := forms.splitRecords_eq (by decide)
  rw [splitRecords_of_none (by decide)] at split
  cases split
  rcases forms.partial_of with empty | ⟨response, sublist, begins, -⟩
  · cases empty
  · have short : response.image.length = 9 := by
      have known := sublist.subset (List.mem_singleton.mpr rfl)
      rcases List.mem_cons.mp known with rfl | known
      · rfl
      · rw [List.mem_singleton.mp known]
        rfl
    have := begins.length_le
    rw [short] at this
    exact absurd this (by decide)

end BleTxTrace

end RtCore.Smp
