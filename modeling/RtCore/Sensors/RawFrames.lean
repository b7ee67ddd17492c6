import RtCore.Foundation.RingBuffer
import RtCore.Mdf.Records

/-!
# The queue of raw CAN frames

`SensorReadingsFrame` queues every frame of a sensor for raw frames until the log writer takes it.
The queue has a fixed size and drops, and counts, what comes while it is full. It has slots only
where a configuration has a sensor for raw frames.

## Main definitions

* `RawCanQueue` with `configure`, `clear`, `push` and `takeFrames`

## Main results

* `RawCanQueue.contents_push`, `RawCanQueue.contents_push_full` — a frame goes to the end of the
  queue, or is dropped and counted
* `RawCanQueue.takeFrames_spec` — what is taken are the oldest frames, in the order they came
* `RawCanQueue.Passes.trans` — operations one after the other lose nothing but what they count
-/

namespace RtCore.Sensors

open RtCore.Foundation RtCore.Mdf

/-- `RawCanRecord`; the timestamp is in ticks of the clock. -/
structure RawCanRecord where
  slot : ℕ
  timestamp : Option ℤ := none
  frame : CanFrame
  deriving DecidableEq, Repr

/-- A record that holds no frame. -/
def RawCanRecord.empty : RawCanRecord := ⟨0, none, { id := 0, data := [], capacity := by decide }⟩

/-- `raw_can_queue_` with its head and count, none without slots, and `raw_can_dropped_`. -/
structure RawCanQueue where
  ring : Option (RingBuffer RawCanRecord) := none
  dropped : UInt32 := 0

namespace RawCanQueue

/-- What `Configure` does to the queue. -/
def configure (queueSize : ℕ) (hasFrameSensor : Bool) : RawCanQueue where
  ring := if hasFrameSensor then some (.create .empty queueSize) else none

/-- What `ResetLocked` does to the queue. -/
def clear (queue : RawCanQueue) : RawCanQueue :=
  { queue with ring := queue.ring.map fun ring =>
      { ring with head := 0, count := 0, head_lt := ring.capacity_pos, count_le := Nat.zero_le _ } }

/-- `PushRawCanFrameLocked`. -/
def push (queue : RawCanQueue) (record : RawCanRecord) : RawCanQueue :=
  match queue.ring with
  | none => queue
  | some ring =>
    if ring.count = ring.capacity then { queue with dropped := queue.dropped + 1 }
    else { queue with ring := some (ring.push record) }

/-- The loop of `TakeRawCanFrames`. -/
def takeLoop : ℕ → RingBuffer RawCanRecord → List RawCanRecord × RingBuffer RawCanRecord
  | 0, ring => ([], ring)
  | capacity + 1, ring =>
    match ring.pop with
    | (none, ring) => ([], ring)
    | (some record, ring) =>
      let (records, ring) := takeLoop capacity ring
      (record :: records, ring)

/-- `TakeRawCanFrames`, into buffers of a size. -/
def takeFrames (capacity : ℕ) (queue : RawCanQueue) : List RawCanRecord × RawCanQueue :=
  match queue.ring with
  | none => ([], queue)
  | some ring =>
    let (records, ring) := takeLoop capacity ring
    (records, { queue with ring := some ring })

/-- The frames in the queue, the oldest first. -/
def contents (queue : RawCanQueue) : List RawCanRecord := queue.ring.elim [] RingBuffer.contents

/-- The frames that the queue has room for. -/
def capacity (queue : RawCanQueue) : ℕ := queue.ring.elim 0 RingBuffer.capacity

variable {queue : RawCanQueue}

@[simp] theorem contents_configure (queueSize : ℕ) (hasFrameSensor : Bool) :
    (configure queueSize hasFrameSensor).contents = [] := by
  cases hasFrameSensor <;> rfl

@[simp] theorem contents_clear (queue : RawCanQueue) : queue.clear.contents = [] := by
  unfold clear contents
  cases queue.ring with
  | none => rfl
  | some ring => rfl

theorem length_contents_le (queue : RawCanQueue) : queue.contents.length ≤ queue.capacity := by
  unfold contents capacity
  cases queue.ring with
  | none => exact Nat.le_refl 0
  | some ring => exact ring.length_contents.trans_le ring.count_le

/-- A frame that finds room goes to the end of the queue. -/
theorem contents_push (record : RawCanRecord) (room : queue.contents.length < queue.capacity) :
    (queue.push record).contents = queue.contents ++ [record] ∧
      (queue.push record).dropped = queue.dropped := by
  unfold push contents capacity at *
  cases found : queue.ring with
  | none =>
    rw [found] at room
    exact absurd room (Nat.lt_irrefl 0)
  | some ring =>
    rw [found] at room
    have room : ring.count < ring.capacity := ring.length_contents ▸ room
    dsimp only
    rw [if_neg (Nat.ne_of_lt room)]
    exact ⟨ring.contents_push record room, rfl⟩

/-- A frame that finds no room is dropped, and counted where the queue has slots. -/
theorem contents_push_full (record : RawCanRecord)
    (full : queue.contents.length = queue.capacity) :
    (queue.push record).contents = queue.contents ∧
      (0 < queue.capacity → (queue.push record).dropped = queue.dropped + 1) := by
  unfold push contents capacity at *
  cases found : queue.ring with
  | none => exact ⟨by simp only [found], fun positive => absurd positive (Nat.lt_irrefl 0)⟩
  | some ring =>
    rw [found] at full
    have full : ring.count = ring.capacity := ring.length_contents ▸ full
    dsimp only [Option.elim_some]
    rw [if_pos full]
    exact ⟨rfl, fun _ => rfl⟩

theorem capacity_push (queue : RawCanQueue) (record : RawCanRecord) :
    (queue.push record).capacity = queue.capacity := by
  unfold push capacity
  cases found : queue.ring with
  | none => simp only [found]
  | some ring =>
    dsimp only
    split_ifs
    · rfl
    · exact ring.capacity_push record

/-- The loop takes the oldest elements. -/
private theorem takeLoop_spec (capacity : ℕ) (ring : RingBuffer RawCanRecord) :
    let (records, after) := takeLoop capacity ring
    records = ring.contents.take capacity ∧ after.contents = ring.contents.drop capacity ∧
      after.capacity = ring.capacity := by
  induction capacity generalizing ring with
  | zero => exact ⟨rfl, rfl, rfl⟩
  | succ capacity ih =>
    obtain ⟨popped, rest⟩ := ring.contents_pop
    have size := ring.capacity_pop
    unfold takeLoop
    rw [popped]
    generalize ring.pop.2 = shorter at rest size
    cases found : ring.contents with
    | nil =>
      rw [found] at rest
      exact ⟨rfl, rest, size⟩
    | cons record records =>
      rw [found] at rest
      obtain ⟨taken, left, same⟩ := ih shorter
      rw [rest, List.tail_cons] at taken left
      dsimp only [List.head?_cons]
      exact ⟨congrArg (record :: ·) taken, left, same.trans size⟩

/-- What is taken are the oldest frames, in the order they came; the others stay. -/
theorem takeFrames_spec (capacity : ℕ) (queue : RawCanQueue) :
    (queue.takeFrames capacity).1 = queue.contents.take capacity ∧
      (queue.takeFrames capacity).2.contents = queue.contents.drop capacity ∧
      (queue.takeFrames capacity).2.capacity = queue.capacity ∧
      (queue.takeFrames capacity).2.dropped = queue.dropped := by
  unfold takeFrames contents RawCanQueue.capacity
  cases found : queue.ring with
  | none =>
    simp only [found]
    exact ⟨List.take_nil.symm, List.drop_nil.symm, trivial, trivial⟩
  | some ring =>
    obtain ⟨taken, rest, size⟩ := takeLoop_spec capacity ring
    exact ⟨taken, rest, size, rfl⟩

/-! ### What passes through -/

/-- Frames that were pushed have passed through the queue, or are in it, in the order they came;
those that are missing were counted as dropped, in 32 bits. -/
structure Passes (before : RawCanQueue) (pushed handed : List RawCanRecord) (after : RawCanQueue) :
    Prop where
  order : (handed ++ after.contents).Sublist (before.contents ++ pushed)
  counted : 0 < before.capacity →
    UInt32.ofNat (handed.length + after.contents.length) + after.dropped =
      UInt32.ofNat (before.contents.length + pushed.length) + before.dropped
  capacity : after.capacity = before.capacity

variable {before middle after : RawCanQueue} {pushed pushed' handed handed' : List RawCanRecord}

namespace Passes

protected theorem refl (queue : RawCanQueue) : Passes queue [] [] queue where
  order := by rw [List.append_nil, List.nil_append]
  counted _ := by rw [List.length_nil, Nat.zero_add, Nat.add_zero]
  capacity := rfl

protected theorem trans (first : Passes before pushed handed middle)
    (second : Passes middle pushed' handed' after) :
    Passes before (pushed ++ pushed') (handed ++ handed') after where
  order := by
    have later : (handed ++ (handed' ++ after.contents)).Sublist
        (handed ++ (middle.contents ++ pushed')) := second.order.append_left handed
    have earlier : ((handed ++ middle.contents) ++ pushed').Sublist
        ((before.contents ++ pushed) ++ pushed') := first.order.append_right pushed'
    rw [List.append_assoc] at earlier ⊢
    rw [List.append_assoc] at earlier
    exact later.trans earlier
  counted positive := by
    have earlier := first.counted positive
    have later := second.counted (first.capacity.symm ▸ positive)
    rw [List.length_append, List.length_append]
    simp only [UInt32.ofNat_add] at earlier later ⊢
    calc UInt32.ofNat handed.length + UInt32.ofNat handed'.length +
            UInt32.ofNat after.contents.length + after.dropped
      _ = UInt32.ofNat handed.length +
            (UInt32.ofNat handed'.length + UInt32.ofNat after.contents.length + after.dropped) := by
        ac_rfl
      _ = UInt32.ofNat handed.length + UInt32.ofNat middle.contents.length + middle.dropped +
            UInt32.ofNat pushed'.length := by
        rw [later]
        ac_rfl
      _ = UInt32.ofNat before.contents.length +
            (UInt32.ofNat pushed.length + UInt32.ofNat pushed'.length) + before.dropped := by
        rw [earlier]
        ac_rfl
  capacity := second.capacity.trans first.capacity

end Passes

theorem passes_push (queue : RawCanQueue) (record : RawCanRecord) :
    Passes queue [record] [] (queue.push record) := by
  rcases Nat.lt_or_eq_of_le queue.length_contents_le with room | full
  · obtain ⟨contents, dropped⟩ := contents_push record room
    refine ⟨by rw [contents]; exact List.Sublist.refl _, fun _ => ?_, capacity_push queue record⟩
    rw [contents, dropped, List.length_nil, Nat.zero_add, List.length_append]
  · obtain ⟨contents, dropped⟩ := contents_push_full record full
    refine ⟨by rw [contents]; exact List.sublist_append_left _ _, fun positive => ?_,
      capacity_push queue record⟩
    rw [contents, dropped positive, List.length_nil, List.length_singleton, Nat.zero_add,
      UInt32.ofNat_add]
    change _ = UInt32.ofNat queue.contents.length + 1 + queue.dropped
    ac_rfl

theorem passes_foldl_push (queue : RawCanQueue) (records : List RawCanRecord) :
    Passes queue records [] (records.foldl push queue) := by
  induction records generalizing queue with
  | nil => exact .refl queue
  | cons record records ih => exact (passes_push queue record).trans (ih (queue.push record))

theorem passes_takeFrames (capacity : ℕ) (queue : RawCanQueue) :
    Passes queue [] (queue.takeFrames capacity).1 (queue.takeFrames capacity).2 := by
  obtain ⟨taken, left, size, dropped⟩ := takeFrames_spec capacity queue
  refine ⟨?_, fun _ => ?_, size⟩
  · rw [taken, left, List.take_append_drop, List.append_nil]
  · have all : min capacity queue.contents.length + (queue.contents.length - capacity) =
        queue.contents.length + 0 := by omega
    rw [taken, left, dropped, List.length_take, List.length_drop, List.length_nil, all]

end RawCanQueue

end RtCore.Sensors
