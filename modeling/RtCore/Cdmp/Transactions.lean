import Mathlib.Data.List.AList
import Mathlib.Data.FinEnum
import RtCore.Foundation.Run
import RtCore.Cdmp.Protocol

/-!
# Command transactions

`CdmpTransactionService` numbers the commands a unit sends and keeps what it needs
to recognise their answers. A transaction leaves the table by the response that
answers it, by a timeout or by a stop, and its callback is told which.

`TransactionRun` runs the service one lock region at a time, so that starts made
from callbacks and other threads fall between any two of them, and records what the
service was asked and which callbacks it called. A callback is known by the number
of the start that passed it.

## Main results

* `findNextTransactionId_spec` — the search for the next ID comes back to where it
  began only if every other ID is pending
* `startsFresh_and_calledOnce_iff` — no transaction is replaced, and every callback
  runs exactly once, in exactly the runs in which no transaction is started while
  the one that filled the table is pending
-/

namespace RtCore.Cdmp

open RtCore.Foundation

/-! ### The service -/

/-- A transaction that waits for its response; `κ` identifies the callback. -/
structure PendingTransaction (κ : Type) where
  transactionId : UInt8
  startTime : UInt64
  timeout : UInt64
  callback : Option κ
  expectedCommand : UInt8
  /-- `deviceIdBroadcast` accepts a response from any device. -/
  targetDeviceId : UInt8
deriving DecidableEq, Repr

/-- A call of a transaction's callback, with its arguments. -/
structure CallbackCall (κ : Type) where
  callback : κ
  transactionId : UInt8
  resultCode : CdmpResultCode
  data : List UInt8
deriving DecidableEq, Repr

/-- `CdmpTransactionService`: the transactions under way, with callbacks of a type `κ`. -/
structure CdmpTransactionService (κ : Type) where
  isTimeoutTaskRunning : Bool := false
  nextTransactionId : UInt8 := 1
  pendingTransactions : AList (fun _ : UInt8 => PendingTransaction κ) := ∅

/-- `next_transaction_id_++`, skipping transaction ID 0. -/
def incrementTransactionId (id : UInt8) : UInt8 := if id + 1 = 0 then 1 else id + 1

/-- The loop of `GetNextTransactionId`: from `next` on, the first ID that is not
pending, or `transactionId` once the search has gone round. -/
def findNextTransactionId (isPending : UInt8 → Bool) (transactionId : UInt8) :
    ℕ → UInt8 → UInt8
  | 0, next => next
  | fuel + 1, next =>
    let next := incrementTransactionId next
    if isPending next ∧ next ≠ transactionId then
      findNextTransactionId isPending transactionId fuel next
    else next

namespace PendingTransaction

variable {κ : Type}

/-- The call of a transaction's callback, if it has one. -/
def invokeCallback (transaction : PendingTransaction κ) (resultCode : CdmpResultCode)
    (data : List UInt8) : Option (CallbackCall κ) :=
  transaction.callback.map fun callback =>
    { callback, transactionId := transaction.transactionId, resultCode, data }

/-- The response is from the device, and to the command, that the transaction waits for. -/
def isResponseTo (transaction : PendingTransaction κ) (response : CdmpCommandResponseMessage) :
    Bool :=
  response.commandCode = transaction.expectedCommand ∧
    (transaction.targetDeviceId = deviceIdBroadcast ∨
      response.sourceDeviceId = transaction.targetDeviceId)

/-- Unsigned arithmetic, as in the source: a transaction started after `currentTime`
was read counts as expired. -/
def isExpired (transaction : PendingTransaction κ) (currentTime : UInt64) : Bool :=
  currentTime - transaction.startTime ≥ transaction.timeout

end PendingTransaction

namespace CdmpTransactionService

variable {κ : Type}

/-- `Start`: the timeout task runs. -/
def start (service : CdmpTransactionService κ) : CdmpTransactionService κ :=
  { service with isTimeoutTaskRunning := true }

/-- Stops the timeouts and cancels every pending transaction. -/
def stop (service : CdmpTransactionService κ) :
    CdmpTransactionService κ × List (CallbackCall κ) :=
  ({ service with isTimeoutTaskRunning := false, pendingTransactions := ∅ },
    service.pendingTransactions.entries.filterMap fun entry => entry.2.invokeCallback .cancelled [])

/-- 255 turns take the search round all IDs. -/
def getNextTransactionId (service : CdmpTransactionService κ) :
    UInt8 × CdmpTransactionService κ :=
  (service.nextTransactionId,
    { service with
      nextTransactionId :=
        findNextTransactionId (fun id => id ∈ service.pendingTransactions)
          service.nextTransactionId 255 service.nextTransactionId })

/-- `StartTransaction`: the transaction is pending under the next ID. -/
def startTransaction (service : CdmpTransactionService κ) (now : UInt64)
    (targetDeviceId expectedCommand : UInt8) (timeout : Int32) (callback : Option κ) :
    UInt8 × CdmpTransactionService κ :=
  let (transactionId, service) := service.getNextTransactionId
  (transactionId,
    { service with
      pendingTransactions := service.pendingTransactions.insert transactionId
        { transactionId, startTime := now, timeout := timeout.toInt64.toUInt64, callback,
          expectedCommand, targetDeviceId } })

/-- `CompleteTransaction`: the transaction ends if the response is its own. -/
def completeTransaction (service : CdmpTransactionService κ)
    (response : CdmpCommandResponseMessage) :
    CdmpTransactionService κ × Option (CallbackCall κ) :=
  match service.pendingTransactions.lookup response.transactionId with
  | none => (service, none)
  | some transaction =>
    if transaction.isResponseTo response then
      ({ service with
          pendingTransactions := service.pendingTransactions.erase response.transactionId },
        transaction.invokeCallback response.resultCode response.data)
    else (service, none)

/-- One turn of the loop of `CleanupExpiredTransactions`. The table is unordered, so which
of the expired transactions comes first is left to the environment. -/
def expireTransaction (service : CdmpTransactionService κ) (currentTime : UInt64)
    (first : UInt8) : CdmpTransactionService κ × Option (CallbackCall κ) :=
  match service.pendingTransactions.lookup first with
  | none => (service, none)
  | some transaction =>
    if transaction.isExpired currentTime then
      ({ service with pendingTransactions := service.pendingTransactions.erase first },
        transaction.invokeCallback .timeout [])
    else (service, none)

/-- `GetPendingTransactionCount`: how many transactions are pending. -/
def getPendingTransactionCount (service : CdmpTransactionService κ) : ℕ :=
  service.pendingTransactions.keys.length

end CdmpTransactionService

/-! ### Runs -/

/-- What a callback was called for. -/
inductive CallbackCause
  | response (message : CdmpCommandResponseMessage)
  | timeout
  | stop
deriving DecidableEq, Repr

/-- A transaction as it was started, and how many others were pending then. -/
structure StartedTransaction where
  transaction : PendingTransaction ℕ
  pendingBefore : ℕ
deriving DecidableEq, Repr

/-- The service in a run, with what was started and which callbacks were called. -/
structure TransactionRun where
  service : CdmpTransactionService ℕ := {}
  /-- The time the timeout pass under way read when it began. -/
  timeoutPass : Option UInt64 := none
  /-- Every transaction started so far; its index is the number its callback is known by. -/
  started : List StartedTransaction := []
  calls : List (CallbackCause × CallbackCall ℕ) := []

/-- A call of the service, or a part of its timeout task. -/
inductive TransactionLabel
  | start
  | stop
  | startTransaction (now : UInt64) (targetDeviceId expectedCommand : UInt8) (timeout : Int32)
      (hasCallback : Bool)
  | completeTransaction (response : CdmpCommandResponseMessage)
  /-- The timeout task reads the time and begins a pass. -/
  | processTransactionTimeouts (now : UInt64)
  /-- The pass under way takes one expired transaction out. -/
  | expireTransaction (first : UInt8)
  /-- The pass under way finds no expired transaction. -/
  | endTimeoutPass

namespace TransactionRun

/-- The transactions under way. -/
abbrev pending (run : TransactionRun) : AList (fun _ : UInt8 => PendingTransaction ℕ) :=
  run.service.pendingTransactions

/-- The ID and the service after the next `StartTransaction`. -/
def next (run : TransactionRun) (now : UInt64) (targetDeviceId expectedCommand : UInt8)
    (timeout : Int32) (hasCallback : Bool) : UInt8 × CdmpTransactionService ℕ :=
  run.service.startTransaction now targetDeviceId expectedCommand timeout
    (if hasCallback then some run.started.length else none)

/-- One call of the service, or one part of a timeout pass. -/
def step (run : TransactionRun) : TransactionLabel → TransactionRun
  | .start => { run with service := run.service.start }
  | .stop =>
    let (service, cancelled) := run.service.stop
    { run with service, calls := run.calls ++ cancelled.map (.stop, ·) }
  | .startTransaction now targetDeviceId expectedCommand timeout hasCallback =>
    let (id, service) := run.next now targetDeviceId expectedCommand timeout hasCallback
    { run with
      service
      started := run.started ++ (service.pendingTransactions.lookup id).toList.map
        ({ transaction := ·, pendingBefore := run.service.getPendingTransactionCount }) }
  | .completeTransaction response =>
    let (service, call) := run.service.completeTransaction response
    { run with service, calls := run.calls ++ call.toList.map (.response response, ·) }
  | .processTransactionTimeouts now =>
    if run.service.isTimeoutTaskRunning then { run with timeoutPass := some now } else run
  | .expireTransaction first =>
    match run.timeoutPass with
    | none => run
    | some currentTime =>
      let (service, call) := run.service.expireTransaction currentTime first
      { run with service, calls := run.calls ++ call.toList.map (.timeout, ·) }
  | .endTimeoutPass => { run with timeoutPass := none }

/-- A service before its first start. -/
def initial : TransactionRun := {}

/-! ### What is asked of a run -/

/-- A start returns a non-zero ID that is not pending while fewer than 255 transactions are
pending, and never takes the ID of a pending one. -/
def StartsFresh (run : TransactionRun) : TransactionLabel → Prop
  | .startTransaction now targetDeviceId expectedCommand timeout hasCallback =>
    let id := (run.next now targetDeviceId expectedCommand timeout hasCallback).1
    (run.service.getPendingTransactionCount < 255 → id ≠ 0 ∧ id ∉ run.pending) ∧
      id ∉ run.pending
  | _ => True

/-- How often the callback of the `n`-th started transaction has been called. -/
def callCount (run : TransactionRun) (n : ℕ) : ℕ := (run.calls.map (·.2.callback)).count n

/-- The call is justified for the transaction it was made for: a response carries its
transaction ID and command and comes from its target, unless that is broadcast. -/
def Justified (transaction : PendingTransaction ℕ) (call : CallbackCall ℕ) :
    CallbackCause → Prop
  | .response message =>
    message.transactionId = transaction.transactionId ∧
      message.commandCode = transaction.expectedCommand ∧
      (transaction.targetDeviceId ≠ deviceIdBroadcast →
        message.sourceDeviceId = transaction.targetDeviceId) ∧
      call.resultCode = message.resultCode ∧ call.data = message.data
  | .timeout => call.resultCode = .timeout ∧ call.data = []
  | .stop => call.resultCode = .cancelled ∧ call.data = []

/-- Every callback has been called exactly once, or not at all while its transaction is
pending, and every call was made for the started transaction it is justified for. -/
structure CalledOnce (run : TransactionRun) : Prop where
  count : ∀ n entry, run.started[n]? = some entry → entry.transaction.callback = some n →
    run.callCount n =
      if run.pending.lookup entry.transaction.transactionId = some entry.transaction then 0 else 1
  justified : ∀ cause call, (cause, call) ∈ run.calls →
    ∃ entry, run.started[call.callback]? = some entry ∧
      entry.transaction.callback = some call.callback ∧
      call.transactionId = entry.transaction.transactionId ∧
      Justified entry.transaction call cause

/-- The last started transaction filled the table, and is pending. -/
def FillerPending (run : TransactionRun) : Prop :=
  ∃ last ∈ run.started.getLast?,
    last.pendingBefore = 254 ∧ last.transaction.transactionId ∈ run.pending

/-- No transaction is started while the one that filled the table is pending. -/
def FillerGone (run : TransactionRun) : TransactionLabel → Prop
  | .startTransaction .. => ¬ run.FillerPending
  | _ => True

end TransactionRun

/-! ### The search for the next ID -/

theorem incrementTransactionId_toNat {id : UInt8} (nonzero : id ≠ 0) :
    (incrementTransactionId id).toNat = id.toNat % 255 + 1 := by
  have positive : id.toNat ≠ 0 := fun zero => nonzero (UInt8.toNat_inj.mp zero)
  have bound := id.toNat_lt
  unfold incrementTransactionId
  split_ifs with wraps
  · have := congrArg UInt8.toNat wraps
    simp only [UInt8.toNat_add, UInt8.reduceToNat] at this ⊢
    omega
  · have : (id + 1).toNat ≠ 0 := fun zero => wraps (UInt8.toNat_inj.mp zero)
    simp only [UInt8.toNat_add, UInt8.reduceToNat] at this ⊢
    omega

/-- The loop invariant: after `k` turns the search is `k` IDs past `transactionId`, with
every ID it has passed pending. -/
private theorem findNextTransactionId_loop {isPending : UInt8 → Bool} {transactionId : UInt8}
    (nonzero : transactionId ≠ 0) (fuel k : ℕ) (next : UInt8) (total : fuel + k = 255)
    (inside : k < 255) (position : next.toNat = (transactionId.toNat - 1 + k) % 255 + 1)
    (passed : ∀ id : UInt8, ∀ j, 0 < j → j ≤ k →
      id.toNat = (transactionId.toNat - 1 + j) % 255 + 1 → isPending id) :
    let found := findNextTransactionId isPending transactionId fuel next
    found ≠ 0 ∧ (found ≠ transactionId → isPending found = false) ∧
      (found = transactionId → ∀ id, id ≠ 0 → id ≠ transactionId → isPending id) := by
  have positive : transactionId.toNat ≠ 0 := fun zero => nonzero (UInt8.toNat_inj.mp zero)
  have bound := transactionId.toNat_lt
  -- On the turns left; `passed` grows by the ID that was found pending.
  induction fuel generalizing k next with
  | zero => omega
  | succ fuel ih =>
    have current : next ≠ 0 := by
      rintro rfl
      simp at position
    have advanced : (incrementTransactionId next).toNat =
        (transactionId.toNat - 1 + (k + 1)) % 255 + 1 := by
      rw [incrementTransactionId_toNat current, position]
      omega
    simp only [findNextTransactionId]
    split_ifs with goes
    · have inside' : k + 1 < 255 := by
        by_contra last
        refine goes.2 (UInt8.toNat_inj.mp ?_)
        rw [advanced]
        omega
      refine ih (k + 1) _ (by omega) inside' advanced fun id j positive' le same => ?_
      rcases Nat.lt_or_ge k j with later | earlier
      · obtain rfl : j = k + 1 := by omega
        rw [UInt8.toNat_inj.mp (same.trans advanced.symm)]
        exact goes.1
      · exact passed id j positive' earlier same
    · refine ⟨fun zero => ?_, fun other => by simpa [other] using goes,
        fun round id idNonzero other => ?_⟩
      · rw [zero] at advanced
        simp at advanced
      · rw [round] at advanced
        have idPositive : id.toNat ≠ 0 := fun zero => idNonzero (UInt8.toNat_inj.mp zero)
        have idOther : id.toNat ≠ transactionId.toNat := fun same => other (UInt8.toNat_inj.mp same)
        have idBound := id.toNat_lt
        -- Once round: every other nonzero ID lies at one of the 254 places passed.
        refine passed id ((id.toNat + 255 - transactionId.toNat) % 255) ?_ ?_ ?_ <;> omega

theorem findNextTransactionId_spec (isPending : UInt8 → Bool) {transactionId : UInt8}
    (nonzero : transactionId ≠ 0) :
    let found := findNextTransactionId isPending transactionId 255 transactionId
    found ≠ 0 ∧ (found ≠ transactionId → isPending found = false) ∧
      (found = transactionId → ∀ id, id ≠ 0 → id ≠ transactionId → isPending id) := by
  have positive : transactionId.toNat ≠ 0 := fun zero => nonzero (UInt8.toNat_inj.mp zero)
  have bound := transactionId.toNat_lt
  exact findNextTransactionId_loop nonzero 255 0 transactionId rfl (by omega) (by omega)
    fun id j positive' le => by omega

private theorem card_uint8 : Fintype.card UInt8 = 256 := by
  rw [← FinEnum.card_eq_fintypeCard]
  rfl

namespace CdmpTransactionService
variable {κ : Type} (service : CdmpTransactionService κ)

/-- Fewer keys than IDs that are left to them. -/
theorem getPendingTransactionCount_le (ids : List UInt8) (distinct : ids.Nodup)
    (missing : ∀ id ∈ ids, id ∉ service.pendingTransactions) :
    service.getPendingTransactionCount + ids.length ≤ 256 := by
  have nodup : (service.pendingTransactions.keys ++ ids).Nodup :=
    List.Nodup.append service.pendingTransactions.keys_nodup distinct fun id pending member =>
      missing id member (AList.mem_keys.mpr pending)
  have le := nodup.length_le_card
  rwa [card_uint8, List.length_append] at le

theorem le_getPendingTransactionCount (ids : List UInt8)
    (present : ∀ id, id ∉ ids → id ∈ service.pendingTransactions) :
    256 ≤ service.getPendingTransactionCount + ids.length := by
  have covers : Finset.univ ⊆ (service.pendingTransactions.keys ++ ids).toFinset := by
    intro id _
    by_cases member : id ∈ ids
    · simp [member]
    · simp [AList.mem_keys.mp (present id member)]
  have le := (Finset.card_le_card covers).trans (List.toFinset_card_le _)
  rwa [Finset.card_univ, card_uint8, List.length_append] at le

end CdmpTransactionService

namespace TransactionRun

variable {run : TransactionRun}

/-- How the ID chosen ahead relates to the pending transactions: it is free, unless the last
start filled the table, which then left the search at its own ID. -/
structure IdsConsistent (run : TransactionRun) : Prop where
  next_ne_zero : run.service.nextTransactionId ≠ 0
  pending_ne_zero : ∀ id ∈ run.pending, id ≠ 0
  filler_eq_next : ∀ last ∈ run.started.getLast?, last.pendingBefore = 254 →
    last.transaction.transactionId = run.service.nextTransactionId
  filler_of_next_pending : run.service.nextTransactionId ∈ run.pending →
    ∃ last ∈ run.started.getLast?, last.pendingBefore = 254

theorem IdsConsistent.next_pending_iff (consistent : IdsConsistent run) :
    run.service.nextTransactionId ∈ run.pending ↔ run.FillerPending := by
  constructor
  · intro pending
    obtain ⟨last, isLast, fills⟩ := consistent.filler_of_next_pending pending
    exact ⟨last, isLast, fills, consistent.filler_eq_next last isLast fills ▸ pending⟩
  · rintro ⟨last, isLast, fills, pending⟩
    exact consistent.filler_eq_next last isLast fills ▸ pending

/-- Taking transactions out leaves the next ID and the starts as they are. -/
theorem IdsConsistent.of_removed {after : TransactionRun} (consistent : IdsConsistent run)
    (sameNext : after.service.nextTransactionId = run.service.nextTransactionId)
    (sameStarted : after.started = run.started) (removed : ∀ id ∈ after.pending, id ∈ run.pending) :
    IdsConsistent after where
  next_ne_zero := sameNext ▸ consistent.next_ne_zero
  pending_ne_zero id pending := consistent.pending_ne_zero id (removed id pending)
  filler_eq_next := by
    rw [sameNext, sameStarted]
    exact consistent.filler_eq_next
  filler_of_next_pending pending := by
    rw [sameStarted]
    exact consistent.filler_of_next_pending (sameNext ▸ removed _ pending)

theorem initial_idsConsistent : IdsConsistent initial where
  next_ne_zero := by decide
  pending_ne_zero := by simp [initial, pending]
  filler_eq_next := by simp [initial]
  filler_of_next_pending := by simp [initial, pending]

/-- The transaction a start adds. -/
def newTransaction (run : TransactionRun) (now : UInt64) (targetDeviceId expectedCommand : UInt8)
    (timeout : Int32) (hasCallback : Bool) : PendingTransaction ℕ where
  transactionId := run.service.nextTransactionId
  startTime := now
  timeout := timeout.toInt64.toUInt64
  callback := if hasCallback then some run.started.length else none
  expectedCommand := expectedCommand
  targetDeviceId := targetDeviceId

section Start

variable (now : UInt64) (targetDeviceId expectedCommand : UInt8) (timeout : Int32)
  (hasCallback : Bool)

@[simp] theorem pending_startTransaction :
    (step run (.startTransaction now targetDeviceId expectedCommand timeout hasCallback)).pending =
      run.pending.insert run.service.nextTransactionId
        (run.newTransaction now targetDeviceId expectedCommand timeout hasCallback) := rfl

@[simp] theorem nextTransactionId_startTransaction :
    (step run (.startTransaction now targetDeviceId expectedCommand timeout
        hasCallback)).service.nextTransactionId =
      findNextTransactionId (fun id => id ∈ run.pending) run.service.nextTransactionId 255
        run.service.nextTransactionId := by
  simp only [step, next, CdmpTransactionService.startTransaction,
    CdmpTransactionService.getNextTransactionId]

@[simp] theorem started_startTransaction :
    (step run (.startTransaction now targetDeviceId expectedCommand timeout hasCallback)).started =
      run.started ++
        [{ transaction := run.newTransaction now targetDeviceId expectedCommand timeout hasCallback
           pendingBefore := run.service.getPendingTransactionCount }] := by
  simp [step, next, CdmpTransactionService.startTransaction,
    CdmpTransactionService.getNextTransactionId, newTransaction]

theorem IdsConsistent.startTransaction (consistent : IdsConsistent run)
    (fresh : ¬ run.FillerPending) :
    IdsConsistent
      (step run (.startTransaction now targetDeviceId expectedCommand timeout hasCallback)) := by
  have nextFree := mt consistent.next_pending_iff.mp fresh
  have zeroFree : 0 ∉ run.pending := fun pending => consistent.pending_ne_zero 0 pending rfl
  obtain ⟨found_ne_zero, found_free, round⟩ :=
    findNextTransactionId_spec (fun id => decide (id ∈ run.pending)) consistent.next_ne_zero
  generalize foundEq : findNextTransactionId _ run.service.nextTransactionId 255 _ = found at *
  -- The search comes round exactly when all IDs but 0 and the next one are pending: a count of the
  -- free IDs in both directions.
  have round_iff : found = run.service.nextTransactionId ↔
      run.service.getPendingTransactionCount = 254 := by
    constructor
    · intro same
      have le := run.service.getPendingTransactionCount_le
        [0, run.service.nextTransactionId] (by simpa using consistent.next_ne_zero.symm)
        (by simpa using ⟨zeroFree, nextFree⟩)
      have ge := run.service.le_getPendingTransactionCount
        [0, run.service.nextTransactionId] fun id other => by
          simp only [List.mem_cons, List.not_mem_nil, or_false, not_or] at other
          simpa using round same id other.1 other.2
      simp at le ge
      omega
    · intro full
      by_contra other
      have le := run.service.getPendingTransactionCount_le
        [0, run.service.nextTransactionId, found]
        (by simp [consistent.next_ne_zero.symm, found_ne_zero.symm, Ne.symm other])
        (by simpa using ⟨zeroFree, nextFree, by simpa using found_free other⟩)
      simp at le
      omega
  constructor
  · rwa [nextTransactionId_startTransaction, foundEq]
  · intro id member
    rw [pending_startTransaction, AList.mem_insert] at member
    rcases member with rfl | member
    · exact consistent.next_ne_zero
    · exact consistent.pending_ne_zero id member
  · intro last isLast fills
    rw [started_startTransaction, List.getLast?_concat, Option.mem_some_iff] at isLast
    subst isLast
    rw [nextTransactionId_startTransaction, foundEq]
    exact (round_iff.mpr fills).symm
  · intro member
    rw [nextTransactionId_startTransaction, foundEq, pending_startTransaction,
      AList.mem_insert] at member
    rw [started_startTransaction, List.getLast?_concat]
    refine ⟨_, rfl, ?_⟩
    rcases member with same | member
    · exact round_iff.mp same
    · by_contra other
      have free := found_free (mt round_iff.mp other)
      rw [decide_eq_false_iff_not] at free
      exact free member

end Start

/-! ### Calls of the callbacks -/

/-- Every pending transaction stands under its own ID, and is the one started under the number
its callback is known by. -/
def Recorded (run : TransactionRun) : Prop :=
  ∀ id transaction, run.pending.lookup id = some transaction →
    transaction.transactionId = id ∧
      ∀ n, transaction.callback = some n →
        ∃ entry, run.started[n]? = some entry ∧ entry.transaction = transaction

/-- The run after the transaction under `id` was taken out of the table and its callback called. -/
def takeOut (run : TransactionRun) (id : UInt8) (transaction : PendingTransaction ℕ)
    (cause : CallbackCause) (resultCode : CdmpResultCode) (data : List UInt8) : TransactionRun :=
  { run with
    service := { run.service with pendingTransactions := run.pending.erase id }
    calls := run.calls ++
      (transaction.invokeCallback resultCode data).toList.map (cause, ·) }

theorem lookup_erase_eq_some {β : UInt8 → Type} {table : AList β} {id other : UInt8}
    {value : β id} :
    (table.erase other).lookup id = some value ↔ id ≠ other ∧ table.lookup id = some value := by
  by_cases same : id = other
  · subst same
    simp
  · simp [AList.lookup_erase_ne same, same]

theorem Recorded.takeOut (recorded : Recorded run) (id : UInt8) (transaction : PendingTransaction ℕ)
    (cause : CallbackCause) (resultCode : CdmpResultCode) (data : List UInt8) :
    Recorded (run.takeOut id transaction cause resultCode data) := by
  intro other held lookup
  exact recorded other held (lookup_erase_eq_some.mp lookup).2

theorem CalledOnce.takeOut {id : UInt8} {transaction : PendingTransaction ℕ}
    {cause : CallbackCause} {resultCode : CdmpResultCode} {data : List UInt8}
    (once : CalledOnce run) (recorded : Recorded run)
    (isPending : run.pending.lookup id = some transaction)
    (justified : ∀ call, transaction.invokeCallback resultCode data = some call →
      Justified transaction call cause) :
    CalledOnce (run.takeOut id transaction cause resultCode data) where
  count := by
    intro n entry isEntry numbered
    obtain ⟨ownId, holders⟩ := recorded id transaction isPending
    have before := once.count n entry isEntry numbered
    have split : (run.takeOut id transaction cause resultCode data).callCount n =
        run.callCount n + if transaction.callback = some n then 1 else 0 := by
      simp only [callCount, TransactionRun.takeOut, List.map_append, List.count_append,
        PendingTransaction.invokeCallback]
      cases transaction.callback with
      | none => simp
      | some m => simp [List.count_singleton]
    have after : (run.takeOut id transaction cause resultCode data).pending.lookup
        entry.transaction.transactionId = some entry.transaction ↔
        entry.transaction.transactionId ≠ id ∧
          run.pending.lookup entry.transaction.transactionId = some entry.transaction :=
      lookup_erase_eq_some
    rw [split, before]
    -- The callback belongs to one transaction: its count goes up just when it is taken out.
    by_cases own : transaction.callback = some n
    · obtain ⟨started, isStarted, rfl⟩ := holders n own
      obtain rfl : entry = started := Option.some.inj (isEntry.symm.trans isStarted)
      subst ownId
      simp [after, isPending, own]
    · have other : run.pending.lookup entry.transaction.transactionId = some entry.transaction →
          entry.transaction.transactionId ≠ id := by
        rintro lookup rfl
        exact own (Option.some.inj (isPending.symm.trans lookup) ▸ numbered)
      simp only [after, own, if_false, Nat.add_zero]
      congr 1
      exact propext ⟨fun lookup => ⟨other lookup, lookup⟩, And.right⟩
  justified := by
    intro cause' call member
    obtain ⟨ownId, holders⟩ := recorded id transaction isPending
    simp only [TransactionRun.takeOut, List.mem_append, List.mem_map, Option.mem_toList,
      Prod.mk.injEq] at member
    rcases member with member | ⟨made, isMade, rfl, rfl⟩
    · exact once.justified cause' call member
    · obtain ⟨callback, isCallback, rfl⟩ := Option.map_eq_some_iff.mp isMade
      obtain ⟨entry, isEntry, rfl⟩ := holders callback isCallback
      exact ⟨entry, isEntry, isCallback, rfl, justified _ isMade⟩

/-- A stop calls the callback of every pending transaction. -/
theorem CalledOnce.stop (once : CalledOnce run) (recorded : Recorded run) :
    CalledOnce (step run .stop) where
  count := by
    intro n entry isEntry numbered
    have before := once.count n entry isEntry numbered
    -- No callback is held twice: it carries the number of its start, which fixes the ID it is
    -- pending on.
    have distinct : (run.pending.entries.filterMap (·.2.callback)).Nodup := by
      refine List.pairwise_filterMap.mpr ?_
      refine (List.nodupKeys_iff_pairwise.mp run.pending.nodupKeys).imp_of_mem ?_
      rintro ⟨first, held⟩ ⟨second, held'⟩ member member' apart m isFirst _ isSecond rfl
      obtain ⟨ownFirst, holders⟩ := recorded first held (AList.mem_lookup_iff.mpr member)
      obtain ⟨ownSecond, holders'⟩ := recorded second held' (AList.mem_lookup_iff.mpr member')
      obtain ⟨started, isStarted, rfl⟩ := holders m isFirst
      obtain ⟨started', isStarted', rfl⟩ := holders' m isSecond
      obtain rfl : started = started' := Option.some.inj (isStarted.symm.trans isStarted')
      exact apart (ownFirst.symm.trans ownSecond)
    have cancelled : n ∈ run.pending.entries.filterMap (·.2.callback) ↔
        run.pending.lookup entry.transaction.transactionId = some entry.transaction := by
      simp only [List.mem_filterMap]
      constructor
      · rintro ⟨⟨id, held⟩, member, isCallback⟩
        have isPending := AList.mem_lookup_iff.mpr member
        obtain ⟨rfl, holders⟩ := recorded id held isPending
        obtain ⟨started, isStarted, rfl⟩ := holders n isCallback
        obtain rfl : entry = started := Option.some.inj (isEntry.symm.trans isStarted)
        exact isPending
      · intro isPending
        exact ⟨_, AList.mem_lookup_iff.mp isPending, numbered⟩
    have split : (step run .stop).callCount n =
        run.callCount n + (run.pending.entries.filterMap (·.2.callback)).count n := by
      simp [callCount, step, CdmpTransactionService.stop, PendingTransaction.invokeCallback,
        List.map_filterMap, Function.comp_def]
    have empty : (step run .stop).pending.lookup entry.transaction.transactionId = none := rfl
    rw [split, before, empty, distinct.count]
    simp only [cancelled, reduceCtorEq, if_false]
    split_ifs <;> rfl
  justified := by
    intro cause call member
    simp only [step, CdmpTransactionService.stop, List.mem_append, List.mem_map,
      List.mem_filterMap, Prod.mk.injEq] at member
    rcases member with member | ⟨made, ⟨⟨id, held⟩, member, isMade⟩, rfl, rfl⟩
    · exact once.justified cause call member
    · obtain ⟨callback, isCallback, rfl⟩ := Option.map_eq_some_iff.mp isMade
      obtain ⟨-, holders⟩ := recorded id held (AList.mem_lookup_iff.mpr member)
      obtain ⟨entry, isEntry, rfl⟩ := holders callback isCallback
      exact ⟨entry, isEntry, isCallback, rfl, rfl, rfl⟩

section Start

variable (now : UInt64) (targetDeviceId expectedCommand : UInt8) (timeout : Int32)
  (hasCallback : Bool)

variable {now targetDeviceId expectedCommand timeout hasCallback} in
private theorem getElem?_started {n : ℕ} {entry : StartedTransaction}
    (isEntry : run.started[n]? = some entry) :
    (step run (.startTransaction now targetDeviceId expectedCommand timeout
      hasCallback)).started[n]? = some entry := by
  rw [started_startTransaction,
    List.getElem?_append_left (List.getElem?_eq_some_iff.mp isEntry).1, isEntry]

theorem Recorded.startTransaction (recorded : Recorded run) :
    Recorded
      (step run (.startTransaction now targetDeviceId expectedCommand timeout hasCallback)) := by
  intro id transaction lookup
  rw [pending_startTransaction] at lookup
  by_cases same : id = run.service.nextTransactionId
  · subst same
    rw [AList.lookup_insert, Option.some.injEq] at lookup
    subst lookup
    refine ⟨rfl, fun n numbered => ?_⟩
    obtain ⟨-, rfl⟩ : hasCallback = true ∧ run.started.length = n := by
      simpa [newTransaction] using numbered
    exact ⟨_, by rw [started_startTransaction, List.getElem?_concat_length], rfl⟩
  · rw [AList.lookup_insert_ne same] at lookup
    obtain ⟨ownId, holders⟩ := recorded id transaction lookup
    refine ⟨ownId, fun n numbered => ?_⟩
    obtain ⟨entry, isEntry, isHolder⟩ := holders n numbered
    exact ⟨entry, getElem?_started isEntry, isHolder⟩

theorem CalledOnce.startTransaction (once : CalledOnce run)
    (fresh : run.service.nextTransactionId ∉ run.pending) :
    CalledOnce
      (step run (.startTransaction now targetDeviceId expectedCommand timeout hasCallback)) := by
  constructor
  · intro n entry isEntry numbered
    rw [pending_startTransaction]
    rw [started_startTransaction] at isEntry
    change run.callCount n = _
    rcases Nat.lt_or_ge n run.started.length with old | new
    · rw [List.getElem?_append_left old] at isEntry
      rw [once.count n entry isEntry numbered]
      congr 1
      -- The ID was free, so no earlier transaction is overwritten.
      by_cases same : entry.transaction.transactionId = run.service.nextTransactionId
      · have unnumbered : run.newTransaction now targetDeviceId expectedCommand timeout
            hasCallback ≠ entry.transaction := by
          intro same
          rw [← same] at numbered
          obtain ⟨-, rfl⟩ : hasCallback = true ∧ run.started.length = n := by
            simpa [newTransaction] using numbered
          exact old.false
        rw [same, AList.lookup_insert, AList.lookup_eq_none.mpr fresh]
        simpa using unnumbered
      · rw [AList.lookup_insert_ne same]
    · rw [List.getElem?_append_right new] at isEntry
      obtain rfl : n = run.started.length := by
        have := (List.getElem?_eq_some_iff.mp isEntry).1
        rw [List.length_singleton] at this
        omega
      obtain rfl : _ = entry := by simpa using isEntry
      rw [show (newTransaction run now targetDeviceId expectedCommand timeout
        hasCallback).transactionId = run.service.nextTransactionId from rfl, AList.lookup_insert,
        if_pos rfl]
      -- Its number is new: every call made so far is of an earlier start.
      refine List.count_eq_zero.mpr fun member => ?_
      obtain ⟨⟨cause, call⟩, member, isOwn⟩ := List.mem_map.mp member
      obtain ⟨entry, isEntry, -⟩ := once.justified cause call member
      exact (List.getElem?_eq_some_iff.mp isEntry).1.ne isOwn
  · intro cause call member
    obtain ⟨entry, isEntry, rest⟩ := once.justified cause call member
    exact ⟨entry, getElem?_started isEntry, rest⟩

end Start

/-! ### Whole runs -/

/-- The invariant of every run. -/
structure Consistent (run : TransactionRun) : Prop where
  ids : IdsConsistent run
  recorded : Recorded run
  once : CalledOnce run

theorem initial_consistent : Consistent initial where
  ids := initial_idsConsistent
  recorded := by
    intro id transaction lookup
    cases lookup
  once := ⟨by simp [initial], by simp [initial]⟩

/-- Only the table, the next ID and what was recorded matter. -/
theorem Consistent.of_same {after : TransactionRun} (consistent : Consistent run)
    (sameNext : after.service.nextTransactionId = run.service.nextTransactionId)
    (samePending : after.pending = run.pending) (sameStarted : after.started = run.started)
    (sameCalls : after.calls = run.calls) : Consistent after where
  ids := consistent.ids.of_removed sameNext sameStarted (by simp [samePending])
  recorded := by
    rw [Recorded, samePending, sameStarted]
    exact consistent.recorded
  once := by
    refine ⟨?_, ?_⟩
    · simp only [callCount, sameStarted, samePending, sameCalls]
      exact consistent.once.count
    · rw [sameStarted, sameCalls]
      exact consistent.once.justified

theorem Consistent.takeOut {id : UInt8} {transaction : PendingTransaction ℕ}
    {cause : CallbackCause} {resultCode : CdmpResultCode} {data : List UInt8}
    (consistent : Consistent run) (isPending : run.pending.lookup id = some transaction)
    (justified : ∀ call, transaction.invokeCallback resultCode data = some call →
      Justified transaction call cause) :
    Consistent (run.takeOut id transaction cause resultCode data) where
  ids := consistent.ids.of_removed rfl rfl fun _ member => (AList.mem_erase.mp member).2
  recorded := consistent.recorded.takeOut id transaction cause resultCode data
  once := consistent.once.takeOut consistent.recorded isPending justified

/-- The response completes nothing, or takes out the transaction it answers. -/
theorem step_completeTransaction (run : TransactionRun) (response : CdmpCommandResponseMessage) :
    step run (.completeTransaction response) = run ∨
      ∃ transaction, run.pending.lookup response.transactionId = some transaction ∧
        transaction.isResponseTo response ∧
        step run (.completeTransaction response) =
          run.takeOut response.transactionId transaction (.response response)
            response.resultCode response.data := by
  simp only [step, CdmpTransactionService.completeTransaction]
  split
  · exact Or.inl (by simp)
  · rename_i transaction isPending
    split_ifs with answers
    · exact Or.inr ⟨transaction, isPending, answers, rfl⟩
    · exact Or.inl (by simp)

theorem step_expireTransaction (run : TransactionRun) (first : UInt8) :
    step run (.expireTransaction first) = run ∨
      ∃ transaction, run.pending.lookup first = some transaction ∧
        step run (.expireTransaction first) =
          run.takeOut first transaction .timeout .timeout [] := by
  simp only [step]
  split
  · exact Or.inl rfl
  · simp only [CdmpTransactionService.expireTransaction]
    split
    · exact Or.inl (by simp)
    · rename_i transaction isPending
      split_ifs with expired
      · exact Or.inr ⟨transaction, isPending, rfl⟩
      · exact Or.inl (by simp)

theorem Consistent.step (consistent : Consistent run) (label : TransactionLabel)
    (gone : FillerGone run label) : Consistent (step run label) := by
  -- The three parts of the invariant are kept by starting, taking out and stopping.
  cases label with
  | start => exact consistent.of_same rfl rfl rfl rfl
  | stop =>
    refine ⟨consistent.ids.of_removed rfl rfl fun id member => ?_, fun id transaction lookup => ?_,
      consistent.once.stop consistent.recorded⟩
    · exact absurd member (AList.notMem_empty id)
    · cases lookup
  | startTransaction now targetDeviceId expectedCommand timeout hasCallback =>
    have fresh := mt consistent.ids.next_pending_iff.mp gone
    exact ⟨consistent.ids.startTransaction now targetDeviceId expectedCommand timeout hasCallback
        gone,
      consistent.recorded.startTransaction now targetDeviceId expectedCommand timeout hasCallback,
      consistent.once.startTransaction now targetDeviceId expectedCommand timeout hasCallback
        fresh⟩
  | completeTransaction response =>
    obtain same | ⟨transaction, isPending, answers, taken⟩ := step_completeTransaction run response
    · rwa [same]
    · rw [taken]
      refine consistent.takeOut isPending fun call isCall => ?_
      obtain ⟨ownId, -⟩ := consistent.recorded _ _ isPending
      obtain ⟨callback, -, rfl⟩ := Option.map_eq_some_iff.mp isCall
      simp only [PendingTransaction.isResponseTo, decide_eq_true_eq] at answers
      exact ⟨ownId.symm, answers.1, answers.2.resolve_left, rfl, rfl⟩
  | processTransactionTimeouts now =>
    simp only [TransactionRun.step]
    split_ifs
    · exact consistent.of_same rfl rfl rfl rfl
    · exact consistent
  | expireTransaction first =>
    obtain same | ⟨transaction, isPending, taken⟩ := step_expireTransaction run first
    · rwa [same]
    · rw [taken]
      refine consistent.takeOut isPending fun call isCall => ?_
      obtain ⟨callback, -, rfl⟩ := Option.map_eq_some_iff.mp isCall
      exact ⟨rfl, rfl⟩
  | endTimeoutPass => exact consistent.of_same rfl rfl rfl rfl

/-- A start is fresh exactly when the transaction that filled the table is gone. -/
theorem Consistent.startsFresh_iff (consistent : Consistent run) (label : TransactionLabel) :
    StartsFresh run label ↔ FillerGone run label := by
  cases label with
  | startTransaction now targetDeviceId expectedCommand timeout hasCallback =>
    change (_ → run.service.nextTransactionId ≠ 0 ∧ run.service.nextTransactionId ∉ run.pending) ∧
      run.service.nextTransactionId ∉ run.pending ↔ ¬ run.FillerPending
    rw [consistent.ids.next_pending_iff]
    exact ⟨And.right, fun gone => ⟨fun _ => ⟨consistent.ids.next_ne_zero, gone⟩, gone⟩⟩
  | _ => exact Iff.rfl

theorem along_startsFresh_iff (labels : List TransactionLabel) :
    Along step StartsFresh initial labels ↔ Along step FillerGone initial labels :=
  along_iff_along initial_consistent (fun _ label consistent => consistent.step label)
    fun _ label consistent => consistent.startsFresh_iff label

/-- In a run from a new service every start is fresh and every callback is called exactly once
if and only if no transaction is started while the one that filled the table is pending. -/
theorem startsFresh_and_calledOnce_iff (labels : List TransactionLabel) :
    (Along step StartsFresh initial labels ∧ Always step CalledOnce initial labels) ↔
      Along step FillerGone initial labels := by
  rw [along_startsFresh_iff]
  refine ⟨And.left, fun gone => ⟨gone, ?_⟩⟩
  have always := gone.always initial_consistent fun _ label consistent => consistent.step label
  exact always.imp fun _ consistent => consistent.once

/-- A command to device 2, with a callback. -/
def sendCommand : TransactionLabel := .startTransaction 0 2 0x20 1000 true

/-- Until the table is full, each start takes the ID after the last one. -/
theorem run_sendCommand (n : ℕ) (room : n ≤ 254) :
    let filled := Foundation.run step initial (List.replicate n sendCommand)
    filled.service.nextTransactionId.toNat = n + 1 ∧
      (∀ id, id ∈ filled.pending ↔ 0 < id.toNat ∧ id.toNat ≤ n) ∧
      filled.service.getPendingTransactionCount = n := by
  -- On the commands: while IDs are left, the next one is always free.
  induction n with
  | zero => exact ⟨rfl, fun id => iff_of_false (AList.notMem_empty id) (by omega), rfl⟩
  | succ n ih =>
    obtain ⟨next, pending, count⟩ := ih (by omega)
    rw [List.replicate_succ', run_append]
    generalize Foundation.run step initial (List.replicate n sendCommand) = filled at *
    have nonzero : filled.service.nextTransactionId ≠ 0 := by
      intro zero
      simp [zero] at next
    have advanced := incrementTransactionId_toNat nonzero
    have free : incrementTransactionId filled.service.nextTransactionId ∉ filled.pending := by
      rw [pending]
      omega
    have fresh : filled.service.nextTransactionId ∉ filled.pending := by
      rw [pending]
      omega
    refine ⟨?_, fun id => ?_, ?_⟩
    · change (findNextTransactionId _ _ _ _).toNat = _
      simp [findNextTransactionId, free]
      omega
    · rw [run_cons, run_nil, sendCommand, pending_startTransaction, AList.mem_insert, pending,
        ← UInt8.toNat_inj, next]
      omega
    · change (AList.keys (AList.insert _ _ filled.pending)).length = _
      rw [AList.keys_insert, List.erase_of_not_mem (mt AList.mem_keys.mpr fresh), List.length_cons]
      exact congrArg (· + 1) count

/-- 255 commands fill the table, the first of them is answered, and the next command takes the
ID of the last one, which is still pending. -/
theorem not_startsFresh_after_full_table :
    ¬ Along step StartsFresh initial (List.replicate 255 sendCommand ++
      [.completeTransaction ⟨2, 0x20, 1, .success, []⟩, sendCommand]) := by
  rw [along_startsFresh_iff, along_append]
  rintro ⟨-, -, gone, -⟩
  refine gone ?_
  obtain ⟨next, pending, count⟩ := run_sendCommand 254 le_rfl
  rw [List.replicate_succ' (n := 254), run_append]
  generalize Foundation.run step initial (List.replicate 254 sendCommand) = filled at *
  rw [run_cons, run_nil]
  have last : (step filled sendCommand).started.getLast? =
      some ⟨filled.newTransaction 0 2 0x20 1000 true, 254⟩ := by
    rw [sendCommand, started_startTransaction, List.getLast?_concat, count]
  have member : filled.service.nextTransactionId ∈ (step filled sendCommand).pending :=
    (AList.mem_insert _).mpr (Or.inl rfl)
  have other : filled.service.nextTransactionId ≠ 1 := by
    intro first
    simp [first] at next
  obtain same | ⟨transaction, -, -, taken⟩ := step_completeTransaction (step filled sendCommand)
    ⟨2, 0x20, 1, .success, []⟩
  · rw [same]
    exact ⟨_, last, rfl, member⟩
  · rw [taken]
    exact ⟨_, last, rfl, AList.mem_erase.mpr ⟨other, member⟩⟩

end TransactionRun

end RtCore.Cdmp
