import Mathlib.Data.Finset.Card
import Mathlib.Data.Fintype.Card
import RtCore.Smp.CanReassembly

/-!
# Reception of SMP packets from several sources

`SmpCanTransport` keeps a few reassembly slots, one for each source with a packet
in progress, and hands complete packets to the SMP server or to the response sink.
Every frame of any source finds, acquires, releases and expires slots.

## Main definitions

* `SmpCanTransport.onFrame` — reception of one frame
* `SmpCanTransport.deliveries` — what a stream of frames delivers
* `SmpCanTransport.sourceStep` — one source on its own, without slots

## Main results

* `SmpCanTransport.onFrame_own`, `SmpCanTransport.onFrame_other` — a frame is one
  step of its source and lets the others only expire
* `SmpCanTransport.deliveries_isolated` — a source's deliveries do not depend on
  the other sources
-/

namespace RtCore.Smp

open RtCore.Foundation

/-! ### Frames and slots -/

/-- The fields of a received CAN frame the transport reads. -/
structure CanFrame where
  id : UInt32
  isExtended : Bool
  isCanFd : Bool
  isRemoteRequest : Bool
  data : List UInt8
deriving DecidableEq, Repr

namespace SmpCanIdLayout

/-- 0 (unassigned) and 0xFF (broadcast) are CDMP IDs that SMP never uses. -/
def isValidAddress (address : UInt8) : Bool := address ≠ 0x00 ∧ address ≠ 0xFF

/-- Source device ID of an SMP identifier. -/
def getSource (id : UInt32) : UInt8 := id.toUInt8

end SmpCanIdLayout

/-- A reassembly slot. Its packet is the buffer its reassembler is attached to. -/
structure RxSlot where
  /-- 0 while free. -/
  source : UInt8
  reassembler : SmpCanReassembler
deriving DecidableEq, Repr

namespace RxSlot

/-- `ReleaseRxSlot`. -/
def release (slot : RxSlot) : RxSlot := ⟨0, slot.reassembler.reset⟩

/-- The slot is in use and its packet has timed out. -/
def isExpired (slot : RxSlot) (nowMs : ℤ) : Bool :=
  slot.source ≠ 0 ∧ slot.reassembler.isExpired nowMs

end RxSlot

/-- The receiving side of the transport. -/
structure SmpCanTransport (slots : ℕ) where
  rxSlots : Fin slots → RxSlot
  rxDropped : UInt32

/-- A frame and what the environment answers while it is handled: the uptime, the
buffer the packet pool gives (`none` when it is exhausted) and whether a response
sink is set. -/
structure CanArrival where
  frame : CanFrame
  nowMs : ℤ
  buffer : Option (List UInt8)
  hasResponseSink : Bool
deriving DecidableEq, Repr

/-- A packet handed on. -/
inductive CanDelivery
  /-- `smp_rx_req` with the source as the peer to answer. -/
  | request (peer : UInt8) (packet : List UInt8)
  /-- `ISmpResponseSink::OnResponse`. -/
  | response (source : UInt8) (packet : List UInt8)
deriving DecidableEq, Repr

/-- The unit the packet came from. -/
def CanDelivery.source : CanDelivery → UInt8
  | request peer _ => peer
  | response source _ => source

namespace CanArrival

/-- The unit the frame came from, by its CAN ID. -/
def source (arrival : CanArrival) : UInt8 := SmpCanIdLayout.getSource arrival.frame.id

/-- A packet is read in the format of its start frame. -/
def format (arrival : CanArrival) : SmpCanFrameFormat := ⟨arrival.frame.isCanFd⟩

/-- The frame passes the checks `OnFrame` begins with. -/
def isSmp (arrival : CanArrival) : Bool :=
  arrival.frame.isExtended ∧ ¬ arrival.frame.isRemoteRequest ∧
    SmpCanIdLayout.isValidAddress arrival.source

end CanArrival

namespace SmpCanTransport

variable {slots : ℕ}

/-! ### Operations -/

/-- Writes a slot. -/
def setSlot (t : SmpCanTransport slots) (index : Fin slots) (slot : RxSlot) :
    SmpCanTransport slots :=
  { t with rxSlots := Function.update t.rxSlots index slot }

/-- Packets are counted as dropped, in 32 bits. -/
def countDropped (t : SmpCanTransport slots) (count : ℕ) : SmpCanTransport slots :=
  { t with rxDropped := t.rxDropped + UInt32.ofNat count }

/-- The first slot of `source`; of the free ones for 0. -/
def findRxSlot (t : SmpCanTransport slots) (source : UInt8) : Option (Fin slots) :=
  (List.finRange slots).find? fun index => (t.rxSlots index).source = source

/-- `AcquireRxSlot`: a free slot with a buffer, if there are both. -/
def acquireRxSlot (t : SmpCanTransport slots) (source : UInt8) (format : SmpCanFrameFormat)
    (buffer : Option (List UInt8)) : Option (SmpCanTransport slots × Fin slots) :=
  match t.findRxSlot 0 with
  | none => none
  | some index =>
    match buffer with
    | none => none
    | some buffer =>
      some (t.setSlot index ⟨source, (t.rxSlots index).reassembler.attach buffer format⟩, index)

/-- Slots that were silent for too long are released, and their packets dropped. -/
def releaseExpiredRxSlots (t : SmpCanTransport slots) (nowMs : ℤ) : SmpCanTransport slots :=
  { t with
    rxSlots := fun index =>
      if (t.rxSlots index).isExpired nowMs then (t.rxSlots index).release else t.rxSlots index }
    |>.countDropped ((List.finRange slots).countP fun index => (t.rxSlots index).isExpired nowMs)

/-- A packet goes to the server or to the one who waits for the response. -/
def deliver (t : SmpCanTransport slots) (source : UInt8) (packet : List UInt8)
    (hasResponseSink : Bool) : SmpCanTransport slots × Option CanDelivery :=
  match SmpHeader.parse packet with
  | none => (t.countDropped 1, none)
  | some header =>
    if header.isRequest then (t, some (.request source packet))
    else if header.isResponse && hasResponseSink then (t, some (.response source packet))
    else (t.countDropped 1, none)

/-- The end of `OnFrame`, with the slot of the source at hand. -/
def acceptFrame (t : SmpCanTransport slots) (index : Fin slots) (arrival : CanArrival) :
    SmpCanTransport slots × Option CanDelivery :=
  let slot := t.rxSlots index
  match slot.reassembler.accept arrival.frame.data arrival.nowMs with
  | (.inProgress, r) => (t.setSlot index { slot with reassembler := r }, none)
  | (.complete, r) =>
    (t.setSlot index (RxSlot.release { slot with reassembler := r })).deliver arrival.source
      (r.buffer.take r.length) arrival.hasResponseSink
  | (.dropped, r) =>
    ((t.setSlot index (RxSlot.release { slot with reassembler := r })).countDropped 1, none)
  | (.ignored, r) => (t.setSlot index (RxSlot.release { slot with reassembler := r }), none)

/-- The slot of the source, given up if its packet has another format. -/
def findSlotOfFormat (t : SmpCanTransport slots) (arrival : CanArrival) :
    SmpCanTransport slots × Option (Fin slots) :=
  match t.findRxSlot arrival.source with
  | none => (t, none)
  | some index =>
    if (t.rxSlots index).reassembler.format ≠ arrival.format then
      ((t.setSlot index (t.rxSlots index).release).countDropped 1, none)
    else (t, some index)

/-- `OnFrame`: a frame of one of the two kinds is fed to the slot of its source. -/
def onFrame (t : SmpCanTransport slots) (arrival : CanArrival) :
    SmpCanTransport slots × Option CanDelivery :=
  if !arrival.frame.isExtended || arrival.frame.isRemoteRequest then (t, none)
  else if !SmpCanIdLayout.isValidAddress arrival.source then (t, none)
  else
    match (t.releaseExpiredRxSlots arrival.nowMs).findSlotOfFormat arrival with
    | (t, some index) => t.acceptFrame index arrival
    | (t, none) =>
      if !SmpCanReassembler.isStartFrame arrival.frame.data then (t, none)
      else
        match t.acquireRxSlot arrival.source arrival.format arrival.buffer with
        | none => (t.countDropped 1, none)
        | some (t, index) => t.acceptFrame index arrival

/-- The packets a stream of frames delivers. -/
def deliveries : SmpCanTransport slots → List CanArrival → List CanDelivery
  | _, [] => []
  | t, arrival :: later => (t.onFrame arrival).2.toList ++ deliveries (t.onFrame arrival).1 later

/-! ### The packet in progress of a source -/

/-- No two slots serve the same source. -/
def UniqueSources (t : SmpCanTransport slots) : Prop :=
  ∀ i j, (t.rxSlots i).source = (t.rxSlots j).source → (t.rxSlots i).source ≠ 0 → i = j

/-- The packet in progress of `source`. -/
def held (t : SmpCanTransport slots) (source : UInt8) : Option SmpCanReassembler :=
  (t.findRxSlot source).map fun index => (t.rxSlots index).reassembler

variable {t t' t'' : SmpCanTransport slots} {source : UInt8} {index : Fin slots}
  {r : SmpCanReassembler} {arrival : CanArrival}

theorem source_of_findRxSlot (found : t.findRxSlot source = some index) :
    (t.rxSlots index).source = source := by
  simpa using List.find?_some found

theorem findRxSlot_eq_none_iff :
    t.findRxSlot source = none ↔ ∀ index, (t.rxSlots index).source ≠ source := by
  simp [findRxSlot]

theorem findRxSlot_eq_some_iff (unique : t.UniqueSources) (used : source ≠ 0) :
    t.findRxSlot source = some index ↔ (t.rxSlots index).source = source := by
  refine ⟨source_of_findRxSlot, fun serves => ?_⟩
  cases found : t.findRxSlot source with
  | none => exact absurd serves (findRxSlot_eq_none_iff.mp found index)
  | some other =>
    have serves' := source_of_findRxSlot found
    rw [unique other index (serves'.trans serves.symm) (serves' ▸ used)]

theorem held_eq_none_iff :
    t.held source = none ↔ ∀ index, (t.rxSlots index).source ≠ source := by
  rw [held, Option.map_eq_none_iff, findRxSlot_eq_none_iff]

theorem held_eq_some (index : Fin slots) (unique : t.UniqueSources) (used : source ≠ 0)
    (serves : (t.rxSlots index).source = source) :
    t.held source = some (t.rxSlots index).reassembler := by
  rw [held, (findRxSlot_eq_some_iff unique used).mpr serves, Option.map_some]

/-- Two transports in which the same slots serve a source hold the same for it. -/
theorem held_congr (unique : t.UniqueSources) (unique' : t'.UniqueSources) (used : source ≠ 0)
    (same : ∀ index, (t.rxSlots index).source = source ∨ (t'.rxSlots index).source = source →
      t'.rxSlots index = t.rxSlots index) : t'.held source = t.held source := by
  by_cases free : ∀ index, (t.rxSlots index).source ≠ source
  · rw [held_eq_none_iff.mpr free, held_eq_none_iff]
    intro index serves
    have := same index (.inr serves)
    rw [this] at serves
    exact free index serves
  · obtain ⟨index, serves⟩ := not_forall_not.mp free
    have this := same index (.inl serves)
    rw [held_eq_some _ unique used serves, held_eq_some index unique' used (this ▸ serves), this]

/-- `t'` is `t` but that `source` holds `holding`. -/
structure Holds (t : SmpCanTransport slots) (source : UInt8) (holding : Option SmpCanReassembler)
    (t' : SmpCanTransport slots) : Prop where
  unique : t'.UniqueSources
  own : t'.held source = holding
  others : ∀ other, other ≠ 0 → other ≠ source → t'.held other = t.held other

theorem Holds.trans {first second : Option SmpCanReassembler} (holds : t.Holds source first t')
    (holds' : t'.Holds source second t'') : t.Holds source second t'' where
  unique := holds'.unique
  own := holds'.own
  others other used different :=
    (holds'.others other used different).trans (holds.others other used different)

theorem Holds.countDropped {holding : Option SmpCanReassembler} (count : ℕ)
    (holds : t.Holds source holding t') : t.Holds source holding (t'.countDropped count) :=
  ⟨holds.unique, holds.own, holds.others⟩

theorem rxSlots_setSlot_of_ne {slot : RxSlot} {other : Fin slots} (different : other ≠ index) :
    (t.setSlot index slot).rxSlots other = t.rxSlots other :=
  Function.update_of_ne different ..

theorem rxSlots_setSlot_self {slot : RxSlot} : (t.setSlot index slot).rxSlots index = slot :=
  Function.update_self ..

/-- Giving a slot to a source that had no other slot. -/
theorem holds_setSlot (unique : t.UniqueSources) (used : source ≠ 0)
    (only : ∀ other, other ≠ index → (t.rxSlots other).source ≠ source)
    (available : (t.rxSlots index).source = 0 ∨ (t.rxSlots index).source = source) :
    t.Holds source (some r) (t.setSlot index ⟨source, r⟩) := by
  have unique' : (t.setSlot index ⟨source, r⟩).UniqueSources := by
    intro i j same used'
    by_cases hi : i = index <;> by_cases hj : j = index
    · rw [hi, hj]
    · subst hi
      rw [rxSlots_setSlot_self, rxSlots_setSlot_of_ne hj] at same
      exact absurd same.symm (only j hj)
    · subst hj
      rw [rxSlots_setSlot_self, rxSlots_setSlot_of_ne hi] at same
      exact absurd same (only i hi)
    · rw [rxSlots_setSlot_of_ne hi, rxSlots_setSlot_of_ne hj] at same
      rw [rxSlots_setSlot_of_ne hi] at used'
      exact unique i j same used'
  refine ⟨unique', ?_, fun other used' different => ?_⟩
  · rw [held_eq_some index unique' used (by rw [rxSlots_setSlot_self]),
      rxSlots_setSlot_self]
  · refine held_congr unique unique' used' fun i serves => ?_
    apply rxSlots_setSlot_of_ne
    rintro rfl
    rw [rxSlots_setSlot_self] at serves
    rcases serves with serves | serves
    · rcases available with free | own
      · exact used' (serves.symm.trans free)
      · exact different (serves.symm.trans own)
    · exact different serves.symm

/-- Releasing the slot of a source. -/
theorem holds_release (unique : t.UniqueSources) (used : source ≠ 0)
    (serves : (t.rxSlots index).source = source) (slot : RxSlot) :
    t.Holds source none (t.setSlot index slot.release) := by
  have unique' : (t.setSlot index slot.release).UniqueSources := by
    intro i j same used'
    have hi : i ≠ index := by
      rintro rfl
      rw [rxSlots_setSlot_self] at used'
      exact used' rfl
    have hj : j ≠ index := by
      rintro rfl
      rw [same, rxSlots_setSlot_self] at used'
      exact used' rfl
    rw [rxSlots_setSlot_of_ne hi, rxSlots_setSlot_of_ne hj] at same
    rw [rxSlots_setSlot_of_ne hi] at used'
    exact unique i j same used'
  refine ⟨unique', held_eq_none_iff.mpr fun i serves' => ?_, fun other used' different => ?_⟩
  · by_cases hi : i = index
    · subst hi
      rw [rxSlots_setSlot_self] at serves'
      exact used serves'.symm
    · rw [rxSlots_setSlot_of_ne hi] at serves'
      exact hi (unique i index (serves'.trans serves.symm) (serves' ▸ used))
  · refine held_congr unique unique' used' fun i serves' => ?_
    apply rxSlots_setSlot_of_ne
    rintro rfl
    rw [rxSlots_setSlot_self] at serves'
    rcases serves' with serves' | serves'
    · exact different (serves'.symm.trans serves)
    · exact used' serves'.symm

private theorem source_releaseExpired (nowMs : ℤ) (index : Fin slots) :
    ((t.releaseExpiredRxSlots nowMs).rxSlots index).source ≠ 0 →
      (t.rxSlots index).isExpired nowMs = false ∧
        (t.releaseExpiredRxSlots nowMs).rxSlots index = t.rxSlots index := by
  intro used
  simp only [releaseExpiredRxSlots, countDropped] at used ⊢
  split at used
  · exact absurd rfl used
  · rename_i live
    exact ⟨by simpa using live, if_neg live⟩

theorem unique_releaseExpired (unique : t.UniqueSources) (nowMs : ℤ) :
    (t.releaseExpiredRxSlots nowMs).UniqueSources := by
  intro i j same used
  have iKept := (source_releaseExpired nowMs i used).2
  have jKept := (source_releaseExpired nowMs j (same ▸ used)).2
  rw [iKept] at used
  rw [iKept, jKept] at same
  exact unique i j same used

/-- Expiry takes from each source its timed-out packet. -/
theorem held_releaseExpired (unique : t.UniqueSources) (used : source ≠ 0) (nowMs : ℤ) :
    (t.releaseExpiredRxSlots nowMs).held source
      = (t.held source).filter fun r => !r.isExpired nowMs := by
  by_cases free : ∀ index, (t.rxSlots index).source ≠ source
  · rw [held_eq_none_iff.mpr free, Option.filter_none, held_eq_none_iff]
    intro index serves
    have kept := (source_releaseExpired (t := t) nowMs index (serves ▸ used)).2
    rw [kept] at serves
    exact free index serves
  · obtain ⟨index, serves⟩ := not_forall_not.mp free
    rw [held_eq_some _ unique used serves]
    cases expired : (t.rxSlots index).reassembler.isExpired nowMs with
    | true =>
      rw [Option.filter_some, expired, if_neg (by simp), held_eq_none_iff]
      intro i serves'
      obtain ⟨live, kept⟩ := source_releaseExpired (t := t) nowMs i (serves' ▸ used)
      rw [kept] at serves'
      obtain rfl := unique i index (serves'.trans serves.symm) (serves' ▸ used)
      simp [RxSlot.isExpired, expired, serves, used] at live
    | false =>
      rw [Option.filter_some, expired, if_pos (by simp)]
      have kept : (t.releaseExpiredRxSlots nowMs).rxSlots index = t.rxSlots index := by
        simp only [releaseExpiredRxSlots, countDropped]
        rw [if_neg (by simp [RxSlot.isExpired, expired])]
      rw [← kept]
      exact held_eq_some _ (unique_releaseExpired unique nowMs) used (kept ▸ serves)

/-! ### One source on its own -/

/-- What is handed on of a complete packet. -/
def deliveryOf (source : UInt8) (packet : List UInt8) (hasResponseSink : Bool) :
    Option CanDelivery :=
  match SmpHeader.parse packet with
  | none => none
  | some header =>
    if header.isRequest then some (.request source packet)
    else if header.isResponse && hasResponseSink then some (.response source packet)
    else none

/-- A frame for the packet in progress `r`. -/
def receive (r : SmpCanReassembler) (arrival : CanArrival) :
    Option SmpCanReassembler × Option CanDelivery :=
  match r.accept arrival.frame.data arrival.nowMs with
  | (.inProgress, r) => (some r, none)
  | (.complete, r) =>
    (none, deliveryOf arrival.source (r.buffer.take r.length) arrival.hasResponseSink)
  | (.dropped, _) => (none, none)
  | (.ignored, _) => (none, none)

/-- A frame of a source that has a slot to itself; `spare` is what an earlier packet
left in the slot. -/
def sourceStep (holding : Option SmpCanReassembler) (spare : SmpCanReassembler)
    (arrival : CanArrival) : Option SmpCanReassembler × Option CanDelivery :=
  match holding.filter fun r => !r.isExpired arrival.nowMs && r.format == arrival.format with
  | some r => receive r arrival
  | none =>
    if !SmpCanReassembler.isStartFrame arrival.frame.data then (none, none)
    else
      match arrival.buffer with
      | none => (none, none)
      | some buffer => receive (spare.attach buffer arrival.format) arrival

theorem acceptFrame_holds (index : Fin slots) (unique : t.UniqueSources) (used : arrival.source ≠ 0)
    (serves : (t.rxSlots index).source = arrival.source) :
    t.Holds arrival.source (receive (t.rxSlots index).reassembler arrival).1
      (t.acceptFrame index arrival).1 ∧
    (t.acceptFrame index arrival).2 = (receive (t.rxSlots index).reassembler arrival).2 := by
  simp only [acceptFrame, receive]
  generalize (t.rxSlots index).reassembler.accept arrival.frame.data arrival.nowMs = outcome
  obtain ⟨result, r⟩ := outcome
  have released := holds_release unique used serves ⟨(t.rxSlots index).source, r⟩
  cases result with
  | inProgress =>
    refine ⟨?_, rfl⟩
    dsimp only
    rw [serves]
    refine holds_setSlot unique used (fun other different serves' => ?_) (.inr serves)
    exact different (unique other index (serves'.trans serves.symm) (serves' ▸ used))
  | complete =>
    simp only [deliver, deliveryOf]
    cases SmpHeader.parse (r.buffer.take r.length) with
    | none => exact ⟨released.countDropped 1, rfl⟩
    | some header =>
      dsimp only
      split
      · exact ⟨released, rfl⟩
      · split
        · exact ⟨released, rfl⟩
        · exact ⟨released.countDropped 1, rfl⟩
  | dropped => exact ⟨released.countDropped 1, rfl⟩
  | ignored => exact ⟨released, rfl⟩

/-- All reassemblers are built with the same timeout. -/
def HasTimeout (t : SmpCanTransport slots) (timeoutMs : ℤ) : Prop :=
  ∀ index, (t.rxSlots index).reassembler.timeoutMs = timeoutMs

variable {timeoutMs : ℤ}

theorem HasTimeout.setSlot (timeout : t.HasTimeout timeoutMs) (slot : RxSlot)
    (same : slot.reassembler.timeoutMs = timeoutMs) :
    (t.setSlot index slot).HasTimeout timeoutMs := by
  intro i
  by_cases hi : i = index
  · subst hi
    rw [rxSlots_setSlot_self]
    exact same
  · rw [rxSlots_setSlot_of_ne hi]
    exact timeout i

theorem HasTimeout.releaseExpired (timeout : t.HasTimeout timeoutMs) (nowMs : ℤ) :
    (t.releaseExpiredRxSlots nowMs).HasTimeout timeoutMs := by
  intro i
  simp only [releaseExpiredRxSlots, countDropped]
  split <;> exact timeout i

theorem HasTimeout.findSlotOfFormat (timeout : t.HasTimeout timeoutMs) (arrival : CanArrival) :
    (t.findSlotOfFormat arrival).1.HasTimeout timeoutMs := by
  unfold SmpCanTransport.findSlotOfFormat
  split
  · exact timeout
  · rename_i index _
    split
    · exact timeout.setSlot _ (timeout index)
    · exact timeout

/-- The slot found for a frame is the one with the packet in progress, if there is
one of its format; else the source holds nothing any more. -/
theorem findSlotOfFormat_cases (unique : t.UniqueSources) (used : arrival.source ≠ 0) :
    (∃ index, t.findSlotOfFormat arrival = (t, some index) ∧
      (t.rxSlots index).source = arrival.source ∧
      (t.held arrival.source).filter (fun r => r.format == arrival.format)
        = some (t.rxSlots index).reassembler) ∨
    (∃ t', t.findSlotOfFormat arrival = (t', none) ∧ t.Holds arrival.source none t' ∧
      (t.held arrival.source).filter (fun r => r.format == arrival.format) = none ∧
      ((∀ i, (t'.rxSlots i).source ≠ 0) → t' = t ∧ t.held arrival.source = none)) := by
  unfold findSlotOfFormat
  cases found : t.findRxSlot arrival.source with
  | none =>
    have nothing : t.held arrival.source = none := by rw [held, found, Option.map_none]
    refine .inr ⟨t, rfl, ⟨unique, nothing, fun _ _ _ => rfl⟩, ?_, fun _ => ⟨rfl, nothing⟩⟩
    rw [nothing, Option.filter_none]
  | some index =>
    have serves := source_of_findRxSlot found
    have holding := held_eq_some _ unique used serves
    dsimp only
    split
    · rename_i different
      refine .inr ⟨_, rfl, (holds_release unique used serves _).countDropped 1, ?_,
        fun busy => ?_⟩
      · rw [holding, Option.filter_some, if_neg (by simpa using different)]
      · exact absurd (congrArg RxSlot.source rxSlots_setSlot_self) (busy index)
    · rename_i same
      refine .inl ⟨index, rfl, serves, ?_⟩
      rw [holding, Option.filter_some, if_pos (by simpa using same)]

/-- A frame is one step of its source, unless all slots are taken by others. -/
theorem onFrame_cases (unique : t.UniqueSources) (timeout : t.HasTimeout timeoutMs)
    (isSmp : arrival.isSmp = true) :
    (∃ spare : SmpCanReassembler, spare.timeoutMs = timeoutMs ∧
      (t.releaseExpiredRxSlots arrival.nowMs).Holds arrival.source
        (sourceStep (t.held arrival.source) spare arrival).1 (t.onFrame arrival).1 ∧
      (t.onFrame arrival).2 = (sourceStep (t.held arrival.source) spare arrival).2) ∨
    ((t.releaseExpiredRxSlots arrival.nowMs).Holds arrival.source none (t.onFrame arrival).1 ∧
      (t.onFrame arrival).2 = none ∧
      (t.releaseExpiredRxSlots arrival.nowMs).held arrival.source = none ∧
      ∀ i, ((t.releaseExpiredRxSlots arrival.nowMs).rxSlots i).source ≠ 0) := by
  simp only [CanArrival.isSmp, Bool.decide_and, Bool.and_eq_true, decide_eq_true_eq,
    SmpCanIdLayout.isValidAddress] at isSmp
  obtain ⟨extended, data, used, broadcast⟩ := isSmp
  have live := unique_releaseExpired unique arrival.nowMs
  have timeout' := (timeout.releaseExpired arrival.nowMs).findSlotOfFormat arrival
  have filtered := held_releaseExpired unique used arrival.nowMs
  have both : (t.held arrival.source).filter
        (fun r => !r.isExpired arrival.nowMs && r.format == arrival.format)
      = ((t.releaseExpiredRxSlots arrival.nowMs).held arrival.source).filter
        fun r => r.format == arrival.format := by
    rw [filtered, Option.filter_filter]
  have checks : (!arrival.frame.isExtended || arrival.frame.isRemoteRequest) = false := by
    simp [extended, data]
  have valid : (!SmpCanIdLayout.isValidAddress arrival.source) = false := by
    simp [SmpCanIdLayout.isValidAddress, used, broadcast]
  simp only [onFrame, checks, valid, Bool.false_eq_true, if_false, sourceStep, both]
  obtain ⟨index, found, serves, holding⟩ | ⟨t', found, holds, nothing, busy⟩ :=
    findSlotOfFormat_cases live used
  · left
    obtain ⟨holds, delivered⟩ := acceptFrame_holds _ live used serves
    refine ⟨(t.rxSlots index).reassembler, timeout index, ?_⟩
    rw [found, holding]
    exact ⟨holds, delivered⟩
  · rw [found] at timeout'
    rw [found, nothing]
    dsimp only
    by_cases start : SmpCanReassembler.isStartFrame arrival.frame.data
    · simp only [start, Bool.not_true, Bool.false_eq_true, if_false, acquireRxSlot]
      cases free : t'.findRxSlot 0 with
      | none =>
        -- The only case in which the other sources matter.
        right
        obtain ⟨rfl, nothing'⟩ := busy (findRxSlot_eq_none_iff.mp free)
        exact ⟨holds.countDropped 1, rfl, nothing', findRxSlot_eq_none_iff.mp free⟩
      | some index =>
        left
        have isFree := source_of_findRxSlot free
        cases arrival.buffer with
        | none =>
          exact ⟨SmpCanReassembler.idle timeoutMs, rfl, holds.countDropped 1, rfl⟩
        | some buffer =>
          have acquired : t'.Holds arrival.source
              (some ((t'.rxSlots index).reassembler.attach buffer arrival.format))
              (t'.setSlot index ⟨arrival.source,
                (t'.rxSlots index).reassembler.attach buffer arrival.format⟩) :=
            holds_setSlot holds.unique used (fun other _ => held_eq_none_iff.mp holds.own other)
              (.inl isFree)
          obtain ⟨accepted, delivered⟩ := acceptFrame_holds index acquired.unique used
            (by rw [rxSlots_setSlot_self])
          rw [rxSlots_setSlot_self] at accepted delivered
          exact ⟨(t'.rxSlots index).reassembler, timeout' index,
            (holds.trans acquired).trans accepted, delivered⟩
    · left
      simp only [start, Bool.not_false, if_true]
      exact ⟨SmpCanReassembler.idle timeoutMs, rfl, holds, trivial⟩

theorem onFrame_of_not_isSmp (other : arrival.isSmp = false) :
    t.onFrame arrival = (t, none) := by
  unfold onFrame
  split
  · rfl
  · rename_i data
    rw [if_pos]
    simp only [Bool.not_eq_true, Bool.or_eq_false_iff, Bool.not_eq_false'] at data
    simpa [CanArrival.isSmp, data] using other

private theorem HasTimeout.acceptFrame (timeout : t.HasTimeout timeoutMs) :
    (t.acceptFrame index arrival).1.HasTimeout timeoutMs := by
  have same := (t.rxSlots index).reassembler.accept_sameSetting arrival.frame.data arrival.nowMs
  simp only [SmpCanTransport.acceptFrame]
  generalize (t.rxSlots index).reassembler.accept arrival.frame.data arrival.nowMs = outcome
    at same ⊢
  obtain ⟨result, r⟩ := outcome
  have kept : r.timeoutMs = timeoutMs := same.2.1.trans (timeout index)
  cases result with
  | inProgress => exact timeout.setSlot _ kept
  | complete =>
    have released : (t.setSlot index (RxSlot.release ⟨(t.rxSlots index).source, r⟩)).HasTimeout
        timeoutMs := timeout.setSlot _ kept
    simp only [deliver]
    split
    · exact released
    · split
      · exact released
      · split <;> exact released
  | dropped =>
    exact timeout.setSlot (RxSlot.release ⟨(t.rxSlots index).source, r⟩) kept
  | ignored => exact timeout.setSlot _ kept

theorem HasTimeout.onFrame (timeout : t.HasTimeout timeoutMs) :
    (t.onFrame arrival).1.HasTimeout timeoutMs := by
  unfold SmpCanTransport.onFrame
  split
  · exact timeout
  split
  · exact timeout
  have found := (timeout.releaseExpired arrival.nowMs).findSlotOfFormat arrival
  generalize (t.releaseExpiredRxSlots arrival.nowMs).findSlotOfFormat arrival = outcome at found ⊢
  obtain ⟨t', index | index⟩ := outcome
  · dsimp only at found ⊢
    split
    · exact found
    · simp only [acquireRxSlot]
      cases t'.findRxSlot 0 with
      | none => exact found
      | some index =>
        cases arrival.buffer with
        | none => exact found
        | some buffer =>
          exact (found.setSlot ⟨arrival.source,
            (t'.rxSlots index).reassembler.attach buffer arrival.format⟩ (found index)).acceptFrame
  · exact found.acceptFrame

/-- Whatever a frame does, its source is the only one that gains or loses a slot
other than by expiry. -/
theorem exists_holds_onFrame (unique : t.UniqueSources) (timeout : t.HasTimeout timeoutMs)
    (isSmp : arrival.isSmp = true) :
    ∃ holding, (t.releaseExpiredRxSlots arrival.nowMs).Holds arrival.source holding
      (t.onFrame arrival).1 := by
  obtain ⟨spare, -, holds, -⟩ | ⟨holds, -⟩ := onFrame_cases unique timeout isSmp
  · exact ⟨_, holds⟩
  · exact ⟨_, holds⟩

theorem unique_onFrame (unique : t.UniqueSources) (timeout : t.HasTimeout timeoutMs) :
    (t.onFrame arrival).1.UniqueSources := by
  cases isSmp : arrival.isSmp with
  | false => rwa [onFrame_of_not_isSmp isSmp]
  | true =>
    obtain ⟨holding, holds⟩ := exists_holds_onFrame unique timeout isSmp
    exact holds.unique

/-- A frame of another source only lets the packet in progress expire. -/
theorem held_onFrame_of_ne (unique : t.UniqueSources) (timeout : t.HasTimeout timeoutMs)
    (used : source ≠ 0) (isSmp : arrival.isSmp = true) (different : source ≠ arrival.source) :
    (t.onFrame arrival).1.held source
      = (t.held source).filter fun r => !r.isExpired arrival.nowMs := by
  obtain ⟨holding, holds⟩ := exists_holds_onFrame unique timeout isSmp
  rw [holds.others source used different, held_releaseExpired unique used]

/-! ### Room for every source -/

/-- Only sources of the set have a packet in progress. -/
def ServesOnly (t : SmpCanTransport slots) (sources : Finset UInt8) : Prop :=
  ∀ source, source ≠ 0 → t.held source ≠ none → source ∈ sources

/-- With as many slots as sources, one is free for a source without a packet in progress. -/
theorem exists_free_slot {sources : Finset UInt8} (unique : t.UniqueSources)
    (serves : t.ServesOnly sources) (enough : sources.card ≤ slots) (known : source ∈ sources)
    (nothing : t.held source = none) : ∃ index, (t.rxSlots index).source = 0 := by
  by_contra none
  have busy : ∀ index, (t.rxSlots index).source ≠ 0 := not_exists.mp none
  have maps : ∀ index ∈ (Finset.univ : Finset (Fin slots)),
      (t.rxSlots index).source ∈ sources.erase source := by
    intro index _
    refine Finset.mem_erase.mpr ⟨held_eq_none_iff.mp nothing index, serves _ (busy index) ?_⟩
    rw [held_eq_some _ unique (busy index) rfl]
    exact Option.some_ne_none _
  have injective : Set.InjOn (fun index => (t.rxSlots index).source)
      (Finset.univ : Finset (Fin slots)) := fun i _ j _ same => unique i j same (busy i)
  have counted := Finset.card_le_card_of_injOn _ maps injective
  rw [Finset.card_univ, Fintype.card_fin, Finset.card_erase_of_mem known] at counted
  have := Finset.card_pos.mpr ⟨source, known⟩
  omega

theorem ServesOnly.releaseExpired {sources : Finset UInt8} (serves : t.ServesOnly sources)
    (unique : t.UniqueSources) (nowMs : ℤ) :
    (t.releaseExpiredRxSlots nowMs).ServesOnly sources := by
  intro source used holding
  rw [held_releaseExpired unique used] at holding
  refine serves source used fun nothing => holding ?_
  rw [nothing, Option.filter_none]

theorem ServesOnly.onFrame {sources : Finset UInt8} (serves : t.ServesOnly sources)
    (unique : t.UniqueSources) (timeout : t.HasTimeout timeoutMs)
    (known : arrival.isSmp = true → arrival.source ∈ sources) :
    (t.onFrame arrival).1.ServesOnly sources := by
  cases isSmp : arrival.isSmp with
  | false => rwa [onFrame_of_not_isSmp isSmp]
  | true =>
    intro source used holding
    by_cases own : source = arrival.source
    · rw [own]
      exact known isSmp
    · rw [held_onFrame_of_ne unique timeout used isSmp own, ← held_releaseExpired unique used]
        at holding
      exact serves.releaseExpired unique arrival.nowMs source used holding

/-- With room for every source, a frame is one step of its source. -/
theorem onFrame_own {sources : Finset UInt8} (unique : t.UniqueSources)
    (timeout : t.HasTimeout timeoutMs) (serves : t.ServesOnly sources)
    (enough : sources.card ≤ slots) (isSmp : arrival.isSmp = true)
    (known : arrival.source ∈ sources) :
    ∃ spare : SmpCanReassembler, spare.timeoutMs = timeoutMs ∧
      (t.onFrame arrival).1.held arrival.source
        = (sourceStep (t.held arrival.source) spare arrival).1 ∧
      (t.onFrame arrival).2 = (sourceStep (t.held arrival.source) spare arrival).2 := by
  obtain ⟨spare, same, holds, delivered⟩ | ⟨-, -, nothing, busy⟩ :=
    onFrame_cases unique timeout isSmp
  · exact ⟨spare, same, holds.own, delivered⟩
  · obtain ⟨index, free⟩ := exists_free_slot (unique_releaseExpired unique arrival.nowMs)
      (serves.releaseExpired unique arrival.nowMs) enough known nothing
    exact absurd free (busy index)

/-! ### A source among others and alone -/

/-- A packet in progress among the frames of others, and alone: among others it may
have been given up once it had timed out. -/
def Related (nowMs : ℤ) : Option SmpCanReassembler → Option SmpCanReassembler → Prop
  | some r, some r' => r.Agrees r'
  | none, none => True
  | none, some r' => r'.isExpired nowMs = true
  | some _, none => False

/-- The same frame at the same time, with another buffer from the pool. -/
structure SameFrame (arrival arrival' : CanArrival) : Prop where
  frame : arrival'.frame = arrival.frame
  nowMs : arrival'.nowMs = arrival.nowMs
  hasResponseSink : arrival'.hasResponseSink = arrival.hasResponseSink

theorem SameFrame.source_eq {arrival arrival' : CanArrival} (same : SameFrame arrival arrival') :
    arrival'.source = arrival.source := by
  rw [CanArrival.source, same.frame, CanArrival.source]

theorem SameFrame.format_eq {arrival arrival' : CanArrival} (same : SameFrame arrival arrival') :
    arrival'.format = arrival.format := by
  rw [CanArrival.format, same.frame, CanArrival.format]

theorem SameFrame.isSmp_eq {arrival arrival' : CanArrival} (same : SameFrame arrival arrival') :
    arrival'.isSmp = arrival.isSmp := by
  rw [CanArrival.isSmp, same.source_eq, same.frame, CanArrival.isSmp]

variable {arrival' : CanArrival} {r' : SmpCanReassembler} {now : ℤ}
  {holding holding' : Option SmpCanReassembler}

theorem isExpired_mono (later : now ≤ arrival.nowMs) (expired : r.isExpired now = true) :
    r.isExpired arrival.nowMs = true := by
  simp only [SmpCanReassembler.isExpired, decide_eq_true_eq] at expired ⊢
  exact ⟨expired.1, by omega⟩

theorem Related.later (related : Related now holding holding') (later : now ≤ arrival.nowMs) :
    Related arrival.nowMs holding holding' := by
  match holding, holding', related with
  | none, none, _ => trivial
  | none, some r', expired => exact isExpired_mono later expired
  | some r, some r', agrees => exact agrees

/-- Letting the packet among others expire keeps the two related. -/
theorem Related.expire (related : Related now holding holding') (later : now ≤ arrival.nowMs) :
    Related arrival.nowMs (holding.filter fun r => !r.isExpired arrival.nowMs) holding' := by
  match holding, holding', related with
  | none, none, _ => trivial
  | none, some r', expired => exact isExpired_mono later expired
  | some r, some r', agrees =>
    rw [Option.filter_some]
    cases expired : r.isExpired arrival.nowMs with
    | false => exact agrees
    | true => exact agrees.isExpired.trans expired

private theorem receive_related (agrees : r.Agrees r') (same : SameFrame arrival arrival') :
    (receive r arrival).2 = (receive r' arrival').2 ∧
      Related arrival.nowMs (receive r arrival).1 (receive r' arrival').1 := by
  obtain ⟨result, after⟩ := agrees.accept arrival.frame.data arrival.nowMs
  simp only [receive, same.frame, same.nowMs, same.hasResponseSink, same.source_eq]
  generalize r.accept arrival.frame.data arrival.nowMs = outcome at result after ⊢
  generalize r'.accept arrival.frame.data arrival.nowMs = outcome' at result after ⊢
  obtain ⟨first, second⟩ := outcome
  obtain ⟨first', second'⟩ := outcome'
  dsimp only at result after
  subst result
  cases first' with
  | inProgress => exact ⟨rfl, after⟩
  | complete =>
    have packet : second'.buffer.take second'.length = second.buffer.take second.length :=
      after.received
    dsimp only
    rw [packet]
    exact ⟨rfl, trivial⟩
  | dropped => exact ⟨rfl, trivial⟩
  | ignored => exact ⟨rfl, trivial⟩

/-- One step of the source is the same among others and alone. -/
theorem sourceStep_related {spare spare' : SmpCanReassembler} {buffer buffer' : List UInt8}
    (related : Related now holding holding') (later : now ≤ arrival.nowMs)
    (same : SameFrame arrival arrival') (timeout : spare'.timeoutMs = spare.timeoutMs)
    (given : arrival.buffer = some buffer) (given' : arrival'.buffer = some buffer')
    (size : buffer'.length = buffer.length) :
    (sourceStep holding spare arrival).2 = (sourceStep holding' spare' arrival').2 ∧
      Related arrival.nowMs (sourceStep holding spare arrival).1
        (sourceStep holding' spare' arrival').1 := by
  have attached : (spare.attach buffer arrival.format).Agrees
      (spare'.attach buffer' arrival.format) :=
    ⟨rfl, timeout, rfl, rfl, rfl, rfl, nofun, size, rfl, Nat.zero_le _⟩
  have begins : (sourceStep none spare arrival).2 = (sourceStep none spare' arrival').2 ∧
      Related arrival.nowMs (sourceStep none spare arrival).1
        (sourceStep none spare' arrival').1 := by
    simp only [sourceStep, Option.filter_none, same.frame, given, given', same.format_eq]
    split
    · exact ⟨rfl, trivial⟩
    · exact receive_related attached same
  match holding, holding', related with
  | none, none, _ => exact begins
  | none, some r', expired =>
    -- Alone, the frame itself lets the old packet expire.
    have gone : r'.isExpired arrival.nowMs = true := isExpired_mono later expired
    have same' : sourceStep (some r') spare' arrival' = sourceStep none spare' arrival' := by
      rw [sourceStep, sourceStep, Option.filter_some, same.nowMs, gone]
      rfl
    rw [same']
    exact begins
  | some r, some r', agrees =>
    have kept : (!r'.isExpired arrival'.nowMs && r'.format == arrival'.format)
        = (!r.isExpired arrival.nowMs && r.format == arrival.format) := by
      rw [same.nowMs, agrees.isExpired, agrees.format, same.format_eq]
    simp only [sourceStep, Option.filter_some, kept]
    cases (!r.isExpired arrival.nowMs && r.format == arrival.format) with
    | true => exact receive_related agrees same
    | false => exact begins

private theorem source_of_receive {delivery : CanDelivery}
    (delivered : (receive r arrival).2 = some delivery) : delivery.source = arrival.source := by
  simp only [receive, deliveryOf] at delivered
  split at delivered
  · cases delivered
  · dsimp only at delivered
    split at delivered
    · cases delivered
    · split at delivered
      · cases delivered
        rfl
      · split at delivered
        · cases delivered
          rfl
        · cases delivered
  · cases delivered
  · cases delivered

private theorem source_of_sourceStep {spare : SmpCanReassembler} {delivery : CanDelivery}
    (delivered : (sourceStep holding spare arrival).2 = some delivery) :
    delivery.source = arrival.source := by
  simp only [sourceStep] at delivered
  split at delivered
  · exact source_of_receive delivered
  · split at delivered
    · cases delivered
    · split at delivered
      · cases delivered
      · exact source_of_receive delivered

/-- A delivery carries the source of the frame that completes it. -/
theorem source_of_onFrame (unique : t.UniqueSources) (timeout : t.HasTimeout timeoutMs)
    {delivery : CanDelivery} (delivered : (t.onFrame arrival).2 = some delivery) :
    delivery.source = arrival.source := by
  cases isSmp : arrival.isSmp with
  | false =>
    rw [onFrame_of_not_isSmp isSmp] at delivered
    cases delivered
  | true =>
    obtain ⟨spare, -, -, stepped⟩ | ⟨-, nothing, -⟩ := onFrame_cases unique timeout isSmp
    · rw [stepped] at delivered
      exact source_of_sourceStep delivered
    · rw [nothing] at delivered
      cases delivered

theorem used_of_isSmp (isSmp : arrival.isSmp = true) : arrival.source ≠ 0 := by
  simp only [CanArrival.isSmp, SmpCanIdLayout.isValidAddress, decide_eq_true_eq] at isSmp
  exact isSmp.2.2.1

/-! ### Isolation -/

/-- Nothing is being received. -/
structure Idle (t : SmpCanTransport slots) (timeoutMs : ℤ) : Prop where
  free : ∀ index, (t.rxSlots index).source = 0
  timeout : t.HasTimeout timeoutMs

/-- The pool has a buffer of its one size whenever it is asked. -/
def HasBuffers (size : ℕ) (arrivals : List CanArrival) : Prop :=
  ∀ arrival ∈ arrivals, ∃ buffer, arrival.buffer = some buffer ∧ buffer.length = size

/-- The sources of the SMP frames of a stream. -/
def sourcesOf (arrivals : List CanArrival) : Finset UInt8 :=
  ((arrivals.filter CanArrival.isSmp).map CanArrival.source).toFinset

/-- The uptime does not go back. -/
def Uptimes (arrivals : List CanArrival) : Prop :=
  arrivals.Pairwise fun earlier later => earlier.nowMs ≤ later.nowMs

/-- What is known of a transport between two frames. -/
structure Ready (t : SmpCanTransport slots) (timeoutMs : ℤ) (sources : Finset UInt8) : Prop where
  unique : t.UniqueSources
  timeout : t.HasTimeout timeoutMs
  serves : t.ServesOnly sources

theorem Ready.onFrame {sources : Finset UInt8} (ready : t.Ready timeoutMs sources)
    (known : arrival.isSmp = true → arrival.source ∈ sources) :
    (t.onFrame arrival).1.Ready timeoutMs sources :=
  ⟨unique_onFrame ready.unique ready.timeout, ready.timeout.onFrame,
    ready.serves.onFrame ready.unique ready.timeout known⟩

theorem Idle.ready (idle : t.Idle timeoutMs) (sources : Finset UInt8) :
    t.Ready timeoutMs sources where
  unique i j _ used := absurd (idle.free i) used
  timeout := idle.timeout
  serves source used holding := by
    refine absurd (held_eq_none_iff.mpr fun index serves => ?_) holding
    exact used (serves.symm.trans (idle.free index))

private theorem deliveries_related {sources : Finset UInt8} {size : ℕ}
    {arrivals own : List CanArrival}
    (ready : t.Ready timeoutMs sources) (ready' : t'.Ready timeoutMs {source})
    (enough : sources.card ≤ slots)
    (related : source ≠ 0 → Related now (t.held source) (t'.held source))
    (later : ∀ arrival ∈ arrivals, now ≤ arrival.nowMs) (uptimes : Uptimes arrivals)
    (buffers : HasBuffers size arrivals) (buffers' : HasBuffers size own)
    (known : ∀ arrival ∈ arrivals, arrival.isSmp = true → arrival.source ∈ sources)
    (same : List.Forall₂ SameFrame (arrivals.filter fun arrival => arrival.source = source) own) :
    (t.deliveries arrivals).filter (fun delivery => delivery.source = source)
      = t'.deliveries own := by
  -- On the arrivals: a frame of the source is a step of both transports, a frame of another one of
  -- the first only.
  induction arrivals generalizing t t' own now with
  | nil =>
    cases same
    rfl
  | cons arrival rest ih =>
    have here := List.mem_cons_self (a := arrival) (l := rest)
    have ready₁ := ready.onFrame (known arrival here)
    obtain ⟨after, uptimes'⟩ := List.pairwise_cons.mp uptimes
    have buffers₁ : HasBuffers size rest := fun a mem => buffers a (List.mem_cons_of_mem _ mem)
    have known₁ := fun a mem => known a (List.mem_cons_of_mem _ mem)
    have source_eq : ∀ delivery ∈ (t.onFrame arrival).2.toList,
        delivery.source = arrival.source := fun delivery mem =>
      source_of_onFrame ready.unique ready.timeout (Option.mem_toList.mp mem)
    rw [deliveries, List.filter_append]
    by_cases mine : arrival.source = source
    · rw [List.filter_cons_of_pos (by simpa using mine)] at same
      obtain ⟨arrival', own', sameFrame, same', rfl⟩ := List.forall₂_cons_left_iff.mp same
      have here' := List.mem_cons_self (a := arrival') (l := own')
      have buffers₂ : HasBuffers size own' := fun a mem =>
        buffers' a (List.mem_cons_of_mem _ mem)
      have mine' : arrival'.source = source := sameFrame.source_eq.trans mine
      have ready₂ : (t'.onFrame arrival').1.Ready timeoutMs {source} :=
        ready'.onFrame fun _ => by simp [mine']
      have all : (t.onFrame arrival).2.toList.filter (fun delivery => delivery.source = source)
          = (t.onFrame arrival).2.toList := by
        refine List.filter_eq_self.mpr fun delivery mem => ?_
        rw [source_eq delivery mem]
        simpa using mine
      have stepped : (t.onFrame arrival).2 = (t'.onFrame arrival').2 ∧
          (source ≠ 0 → Related arrival.nowMs ((t.onFrame arrival).1.held source)
            ((t'.onFrame arrival').1.held source)) := by
        cases isSmp : arrival.isSmp with
        | false =>
          rw [onFrame_of_not_isSmp isSmp, onFrame_of_not_isSmp (sameFrame.isSmp_eq.trans isSmp)]
          exact ⟨rfl, fun used => (related used).later (later arrival here)⟩
        | true =>
          have isSmp' := sameFrame.isSmp_eq.trans isSmp
          have some : 0 < slots :=
            (Finset.card_pos.mpr ⟨_, known arrival here isSmp⟩).trans_le enough
          obtain ⟨buffer, given, size₁⟩ := buffers arrival here
          obtain ⟨buffer', given', size₂⟩ := buffers' arrival' here'
          obtain ⟨spare, timeout, held, delivered⟩ := onFrame_own ready.unique ready.timeout
            ready.serves enough isSmp (known arrival here isSmp)
          obtain ⟨spare', timeout', held', delivered'⟩ := onFrame_own ready'.unique ready'.timeout
            ready'.serves (by rwa [Finset.card_singleton]) isSmp' (by simp [mine'])
          rw [mine] at held delivered
          rw [mine'] at held' delivered'
          obtain ⟨delivery, after⟩ := sourceStep_related (related (mine ▸ used_of_isSmp isSmp))
            (later arrival here) sameFrame (timeout'.trans timeout.symm) given given'
            (size₂.trans size₁.symm)
          rw [held, delivered, held', delivered']
          exact ⟨delivery, fun _ => after⟩
      rw [all, deliveries, stepped.1]
      congr 1
      exact ih ready₁ ready₂ stepped.2 after uptimes' buffers₁ buffers₂
        known₁ same'
    · rw [List.filter_cons_of_neg (by simpa using mine)] at same
      have none : (t.onFrame arrival).2.toList.filter (fun delivery => delivery.source = source)
          = [] := by
        refine List.filter_eq_nil_iff.mpr fun delivery mem => ?_
        rw [source_eq delivery mem]
        simpa using mine
      rw [none, List.nil_append]
      refine ih ready₁ ready' (fun used => ?_) after uptimes' buffers₁
        buffers' known₁ same
      cases isSmp : arrival.isSmp with
      | false =>
        rw [onFrame_of_not_isSmp isSmp]
        exact (related used).later (later arrival here)
      | true =>
        rw [held_onFrame_of_ne ready.unique ready.timeout used isSmp (Ne.symm mine)]
        exact (related used).expire (later arrival here)

/-- No two slots ever serve the same source; and with at least as many slots as there
are sources and a buffer for every packet, the packets delivered from a source are
those its frames deliver when they arrive alone at the same times. -/
theorem deliveries_isolated (t : SmpCanTransport slots) (timeoutMs : ℤ)
    (idle : t.Idle timeoutMs) :
    (∀ arrivals, Always (fun t arrival => (onFrame t arrival).1) UniqueSources t arrivals) ∧
    ∀ (size : ℕ) (arrivals : List CanArrival), Uptimes arrivals → HasBuffers size arrivals →
      (sourcesOf arrivals).card ≤ slots →
      ∀ (source : UInt8) (own : List CanArrival),
        List.Forall₂ SameFrame (arrivals.filter fun arrival => arrival.source = source) own →
        HasBuffers size own →
        (t.deliveries arrivals).filter (fun delivery => delivery.source = source)
          = t.deliveries own := by
  constructor
  · intro arrivals
    have invariant : Always (fun t arrival => (onFrame t arrival).1)
        (fun t => t.UniqueSources ∧ t.HasTimeout timeoutMs) t arrivals :=
      always_of_preserved ⟨(idle.ready ∅).unique, idle.timeout⟩
        (fun t arrival known => ⟨unique_onFrame known.1 known.2, known.2.onFrame⟩) arrivals
    exact invariant.imp fun t known => known.1
  · intro size arrivals uptimes buffers enough source own same buffers'
    -- An idle transport serves nobody, so the source starts alike in both.
    have nothing : source ≠ 0 → t.held source = none := fun used =>
      held_eq_none_iff.mpr fun index serves => used (serves.symm.trans (idle.free index))
    have related (now : ℤ) : source ≠ 0 → Related now (t.held source) (t.held source) := by
      intro used
      rw [nothing used]
      trivial
    have known : ∀ arrival ∈ arrivals, arrival.isSmp = true →
        arrival.source ∈ sourcesOf arrivals := by
      intro arrival mem isSmp
      rw [sourcesOf, List.mem_toFinset]
      exact List.mem_map_of_mem (List.mem_filter.mpr ⟨mem, isSmp⟩)
    have earliest : ∃ now, ∀ arrival ∈ arrivals, now ≤ arrival.nowMs := by
      cases arrivals with
      | nil => exact ⟨0, nofun⟩
      | cons first rest =>
        refine ⟨first.nowMs, fun arrival mem => ?_⟩
        rcases List.mem_cons.mp mem with rfl | later
        · exact le_rfl
        · exact (List.pairwise_cons.mp uptimes).1 arrival later
    obtain ⟨now, later⟩ := earliest
    exact deliveries_related (idle.ready _) (idle.ready _) enough (related now) later uptimes
      buffers buffers' known same

/-- A transport that has not received anything. -/
def initial (slots : ℕ) (timeoutMs : ℤ) : SmpCanTransport slots :=
  { rxSlots := fun _ => ⟨0, SmpCanReassembler.idle timeoutMs⟩, rxDropped := 0 }

/-- A classic CAN data frame from `source` to device 9. -/
def smpArrival (source : UInt8) (nowMs : ℤ) (data : List UInt8) : CanArrival :=
  { frame :=
      { id := 0x1FF00900 ||| source.toUInt32
        isExtended := true
        isCanFd := false
        isRemoteRequest := false
        data }
    nowMs
    buffer := some (List.replicate 16 0)
    hasResponseSink := true }

/-- Two sources send a request of two frames each, one frame in turn. -/
def interleaved : List CanArrival :=
  [smpArrival 1 0 [0x80, 0x02, 0, 0, 1, 0, 0, 7], smpArrival 2 5 [0x80, 0x02, 0, 0, 1, 0, 0, 8],
    smpArrival 1 10 [0x01, 1, 0xA0], smpArrival 2 15 [0x01, 2, 0xA0]]

theorem deliveries_isolated_interleaved :
    (initial 2 100).Idle 100 ∧ Uptimes interleaved ∧ (sourcesOf interleaved).card ≤ 2 ∧
    ((initial 2 100).deliveries interleaved).filter (fun delivery => delivery.source = 2)
      = (initial 2 100).deliveries
        [smpArrival 2 5 [0x80, 0x02, 0, 0, 1, 0, 0, 8], smpArrival 2 15 [0x01, 2, 0xA0]] ∧
    (initial 2 100).deliveries
        [smpArrival 2 5 [0x80, 0x02, 0, 0, 1, 0, 0, 8], smpArrival 2 15 [0x01, 2, 0xA0]]
      = [.request 2 [0x02, 0, 0, 1, 0, 0, 8, 2, 0xA0]] := by
  have idle : (initial 2 100).Idle 100 := ⟨fun _ => rfl, fun _ => rfl⟩
  have uptimes : Uptimes interleaved := by simp [Uptimes, interleaved, smpArrival]
  have enough : (sourcesOf interleaved).card ≤ 2 := by decide +kernel
  have buffers : HasBuffers 16 interleaved := by
    simp [HasBuffers, interleaved, smpArrival]
  have mine : interleaved.filter (fun arrival => arrival.source = 2)
      = [smpArrival 2 5 [0x80, 0x02, 0, 0, 1, 0, 0, 8], smpArrival 2 15 [0x01, 2, 0xA0]] := by
    decide +kernel
  refine ⟨idle, uptimes, enough, ?_, by decide +kernel⟩
  refine (deliveries_isolated (initial 2 100) 100 idle).2 16 interleaved uptimes buffers enough 2
    _ ?_ ?_
  · rw [mine]
    exact List.forall₂_same.mpr fun _ _ => ⟨rfl, rfl, rfl⟩
  · simp [HasBuffers, smpArrival]

end SmpCanTransport

end RtCore.Smp
