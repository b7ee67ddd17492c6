import Mathlib.Init

/-!
# Work items of a queue

A work item is queued by a submission and run by the thread of its queue, never twice at the same
time. A submission while it runs queues it again. Cancelling takes it off the queue; when it runs,
it takes no submissions until the run ends.

## Main definitions

* `WorkItem` with `submit`, `start`, `finish` and `cancel`
-/

namespace RtCore.Foundation

/-- A `k_work` with its flags. -/
structure WorkItem where
  isQueued : Bool := false
  isRunning : Bool := false
  isCanceling : Bool := false
  deriving DecidableEq, Repr

namespace WorkItem

variable (work : WorkItem)

/-- `k_work_submit_to_queue`; `accepts` says whether the queue takes submissions. -/
def submit (accepts : Bool) : WorkItem :=
  if accepts && !work.isCanceling then { work with isQueued := true } else work

/-- The thread of the queue takes the item, unless it runs. -/
def start : WorkItem :=
  if work.isQueued && !work.isRunning then { work with isQueued := false, isRunning := true }
  else work

/-- The handler returns. -/
def finish : WorkItem := { work with isRunning := false, isCanceling := false }

/-- The first half of `k_work_cancel_sync`; the second waits until the item is not being
cancelled. -/
def cancel : WorkItem := { work with isQueued := false, isCanceling := work.isRunning }

@[simp] theorem isRunning_submit (accepts : Bool) :
    (work.submit accepts).isRunning = work.isRunning := by
  unfold submit
  split <;> rfl

@[simp] theorem isCanceling_submit (accepts : Bool) :
    (work.submit accepts).isCanceling = work.isCanceling := by
  unfold submit
  split <;> rfl

end WorkItem

end RtCore.Foundation
