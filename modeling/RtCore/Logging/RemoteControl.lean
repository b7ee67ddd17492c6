import Mathlib.Data.Finset.Insert
import Mathlib.Data.Finset.Dedup
import Mathlib.Data.List.FinRange
import Mathlib.Logic.Function.Basic
import RtCore.Cdmp.Device

/-!
# The remote logging control

`RemoteLoggingControl` turns requests to start or stop logging, for all units or for the
unit with one UID, into LOGGING commands on the network. It keeps the wanted state of
each target in a small table of slots, and sends a wanted start again when a logging unit
appears or comes back from a restart.

A run of `Process` takes a snapshot of the table under the lock, reads the device table,
sends its commands without the lock, and writes back what was held under the lock again.
What it sends follows from the snapshot and the device table alone, so it is computed by
the pure `Snapshot.plan`.

Requests and reports also schedule the task; here a run may begin at any time, so the
scheduling is left out.

## Main definitions

* `RemoteLoggingControl` — the members the lock guards, and the status followed
* `RemoteLoggingControl.submit`, `handleLoggingCommand`, `onStatusUpdated`,
  `onLoggingUnitRestarted` — the entry points
* `RemoteLoggingControl.takeSnapshot`, `Snapshot.plan`, `RemoteLoggingControl.writeBack` —
  the parts of a run of `Process`
-/

namespace RtCore.Logging

open RtCore.Cdmp

/-- Why logging is inactive. A newer unit's record can carry a reason this build does not
know. -/
inductive LoggingStatusReason
  | stopped
  | writeFailed
  | noSpace
  | rotationFailed
  | unavailable
  | firmwareUpdate
  | unknown (code : UInt32)
deriving DecidableEq, Repr

/-- A logging status. An active one carries no reason and reads Stopped. -/
inductive LoggingState
  | active
  | inactive (reason : LoggingStatusReason)
deriving DecidableEq, Repr

namespace LoggingState

/-- Logs are written. -/
def isActive : LoggingState → Bool
  | .active => true
  | .inactive _ => false

/-- Why no logs are written; `stopped` while they are. -/
def reason : LoggingState → LoggingStatusReason
  | .active => .stopped
  | .inactive reason => reason

end LoggingState

/-- The target UID that stands for all units. -/
def allUnits : UInt32 := 0

/-- The CDMP device ID that addresses every unit. -/
def broadcastId : UInt8 := 0xFF

/-- The `LOGGING` bit of the feature mask. -/
def canLog (device : CdmpDeviceInfo) : Bool := device.features &&& 0x08 != 0

/-- What a target is wanted to do. -/
inductive Request
  | none
  | start
  | stop
deriving DecidableEq, Repr

/-- The wanted state of one target. -/
structure Target where
  uid : UInt32 := 0
  wanted : Request := .none
  isSendDue : Bool := false
  isHeld : Bool := false
deriving DecidableEq, Repr

/-- A slot is free when nothing is wanted, or a stop that is already sent. -/
def Target.isFree (target : Target) : Bool :=
  target.wanted = .none || (target.wanted = .stop && !target.isSendDue)

/-- The most triggers a configuration has. -/
def maxTriggers : ℕ := 16

/-- Slot 0, which stands for all units, and one slot per trigger. -/
def maxTargets : ℕ := maxTriggers + 1

instance : NeZero maxTargets := ⟨by decide⟩

/-- A place for a target. -/
abbrev Slot := Fin maxTargets

/-- The slots of single units, in the order the loops visit them. -/
def unitSlots : List Slot := (List.finRange maxTargets).tail

@[simp] theorem mem_unitSlots {slot : Slot} : slot ∈ unitSlots ↔ slot ≠ 0 := by
  revert slot
  decide

theorem nodup_unitSlots : unitSlots.Nodup := by decide

/-- Whom a control speaks for. -/
inductive Mode
  | remote
  | peer
deriving DecidableEq, Repr

/-- `networkInfo` is this unit's own UID, absent for a control without network info. -/
structure RemoteLoggingControl where
  mode : Mode := .remote
  networkInfo : Option UInt32 := none
  isInitialized : Bool := true
  targets : Slot → Target := fun _ => {}
  restartedDevices : Finset UInt8 := ∅
  isStatusReassertDue : Bool := false
  isActive : Bool := false
  reason : LoggingStatusReason := .stopped
  isUnavailable : Bool := false

/-- One call of `SendLoggingCommand`, marked when it sends a wanted start again. -/
structure Send where
  isStart : Bool
  deviceId : UInt8
  isReassertion : Bool
deriving DecidableEq, Repr

/-- What a run of `Process` acts on, taken at once. -/
structure Snapshot where
  targets : Slot → Target
  restarted : Finset UInt8
  isStatusReassertDue : Bool

/-- The locals a run of `Process` carries from send to send. -/
structure Progress where
  sends : List Send := []
  startedDevices : Finset UInt8 := ∅
  isBroadcastStartSent : Bool := false
  isHeld : Slot → Bool

/-- The device ID of the online unit with `uid` that can log. -/
def resolve (devices : List CdmpDeviceInfo) (uid : UInt32) : Option UInt8 :=
  (devices.find? fun device =>
    device.uid = uid && device.status = .online && canLog device).map (·.deviceId)

namespace Progress

/-- Sends a wanted start again, to one unit. -/
def reassert (progress : Progress) (deviceId : UInt8) : Progress :=
  { progress with
    sends := progress.sends ++ [⟨true, deviceId, true⟩]
    startedDevices := insert deviceId progress.startedDevices }

/-- The target of a slot is held back, or no longer. -/
def setHeld (progress : Progress) (slot : Slot) (isHeld : Bool) : Progress :=
  { progress with isHeld := Function.update progress.isHeld slot isHeld }

end Progress

namespace Snapshot

variable (snapshot : Snapshot) (devices : List CdmpDeviceInfo)

/-- Whether some UID target or a restart needs the device table. -/
def needsDevices : Bool :=
  !decide (snapshot.restarted = ∅) ||
    unitSlots.any fun slot => (snapshot.targets slot).wanted ≠ .none

/-- The units a request of their own stopped. -/
def stoppedDevices : Finset UInt8 :=
  ((unitSlots.filter fun slot => (snapshot.targets slot).wanted = .stop).filterMap fun slot =>
    resolve devices (snapshot.targets slot).uid).toFinset

/-- Step 1 for one slot: a due request is sent, or held. -/
def sendRequest (progress : Progress) (slot : Slot) : Progress :=
  let target := snapshot.targets slot
  if !target.isSendDue || target.wanted = .none then progress
  else
    let isStart := decide (target.wanted = .start)
    -- Slot 0 is the request to all units, which is broadcast.
    if slot = 0 then
      { progress with
        sends := progress.sends ++ [⟨isStart, broadcastId, false⟩]
        isBroadcastStartSent := isStart }
    else
      match resolve devices target.uid with
      | some deviceId =>
        { progress with
          sends := progress.sends ++ [⟨isStart, deviceId, false⟩]
          isHeld := Function.update progress.isHeld slot false
          startedDevices :=
            if isStart then insert deviceId progress.startedDevices
            else progress.startedDevices }
      | none => progress.setHeld slot isStart

/-- The unicast a unit gets in place of the broadcast that would reach a stopped one. -/
def reassertDevice (progress : Progress) (device : CdmpDeviceInfo) : Progress :=
  if device.status ≠ .online ∨ !canLog device ∨
      device.deviceId ∈ snapshot.stoppedDevices devices ∨
      device.deviceId ∈ progress.startedDevices then progress
  else progress.reassert device.deviceId

/-- A wanted start of one target is sent again to its unit, if that is present. -/
def reassertTarget (progress : Progress) (slot : Slot) : Progress :=
  if (snapshot.targets slot).wanted ≠ .start then progress
  else
    match resolve devices (snapshot.targets slot).uid with
    | none => progress
    | some deviceId =>
      if deviceId ∈ progress.startedDevices then progress
      else (progress.reassert deviceId).setHeld slot false

/-- Step 2: the status shows a logging unit again. -/
def reassertStatus (progress : Progress) : Progress :=
  if !snapshot.isStatusReassertDue then progress
  else if (snapshot.targets 0).wanted = .start then
    if progress.isBroadcastStartSent then progress
    else if snapshot.stoppedDevices devices = ∅ then
      { progress with
        sends := progress.sends ++ [⟨true, broadcastId, true⟩]
        isBroadcastStartSent := true }
    else devices.foldl (snapshot.reassertDevice devices) progress
  else unitSlots.foldl (snapshot.reassertTarget devices) progress

/-- Step 3 for one device ID: a restarted unit gets one start if it is wanted to log. -/
def reassertRestarted (progress : Progress) (deviceId : UInt8) : Progress :=
  if deviceId ∉ snapshot.restarted ∨ deviceId ∈ progress.startedDevices then progress
  else if (snapshot.targets 0).wanted = .start ∧
      deviceId ∉ snapshot.stoppedDevices devices then progress.reassert deviceId
  else
    match unitSlots.find? fun slot => (snapshot.targets slot).wanted = .start &&
        resolve devices (snapshot.targets slot).uid = some deviceId with
    | none => progress
    | some slot => (progress.reassert deviceId).setHeld slot false

/-- The indices of the `bitset<256>`, in order. -/
def deviceIds : List UInt8 := (List.range 256).map UInt8.ofNat

/-- Step 3. -/
def reassertRestarts (progress : Progress) : Progress :=
  if snapshot.restarted = ∅ ∨ progress.isBroadcastStartSent then progress
  else deviceIds.foldl (snapshot.reassertRestarted devices) progress

/-- A run begins with what was held back before. -/
def initialProgress : Progress := { isHeld := fun slot => (snapshot.targets slot).isHeld }

/-- Step 1. -/
def sendRequests : Progress :=
  (List.finRange maxTargets).foldl (snapshot.sendRequest devices) snapshot.initialProgress

/-- What a run sends, in order, and what it holds. -/
def plan : Progress :=
  snapshot.reassertRestarts devices
    (snapshot.reassertStatus devices (snapshot.sendRequests devices))

end Snapshot

namespace RemoteLoggingControl

variable (control : RemoteLoggingControl)

/-- This unit has no writer, so it cannot be a target itself. -/
def isOwnUid (uid : UInt32) : Bool :=
  control.mode = .remote && control.networkInfo = some uid

/-- The slot that already follows `uid`, else the first free one. -/
def findSlot (uid : UInt32) : Option Slot :=
  (unitSlots.find? fun slot =>
    (control.targets slot).uid = uid && (control.targets slot).wanted ≠ .none).or
    (unitSlots.find? fun slot => (control.targets slot).isFree)

/-- A request for one unit, or for all of them in place of the earlier ones. -/
def submit (targetUid : UInt32) (request : Request) : RemoteLoggingControl :=
  if !control.isInitialized then control
  else if targetUid ≠ allUnits ∧ control.isOwnUid targetUid then control
  else if targetUid = allUnits then
    -- The broadcast reaches every unit, so it replaces what any target wanted.
    { control with
      targets := Function.update (fun _ => {}) 0 { wanted := request, isSendDue := true } }
  else
    match control.findSlot targetUid with
    | none => control
    | some slot =>
      { control with
        targets := Function.update control.targets slot
          { uid := targetUid, wanted := request, isSendDue := true, isHeld := false } }

/-- A request is dropped, replaces every target, or takes one slot. -/
theorem submit_cases (targetUid : UInt32) (request : Request) :
    (control.submit targetUid request = control ∧
      (control.isInitialized = false ∨
        targetUid ≠ allUnits ∧ (control.isOwnUid targetUid = true ∨
          control.findSlot targetUid = none))) ∨
    (targetUid = allUnits ∧ control.submit targetUid request =
      { control with
        targets := Function.update (fun _ => {}) 0 { wanted := request, isSendDue := true } }) ∨
    (targetUid ≠ allUnits ∧ ¬control.isOwnUid targetUid = true ∧
      ∃ slot, control.findSlot targetUid = some slot ∧ control.submit targetUid request =
        { control with
          targets := Function.update control.targets slot
            { uid := targetUid, wanted := request, isSendDue := true } }) := by
  unfold submit
  split_ifs with cold own all
  · exact Or.inl ⟨rfl, Or.inl (by simpa using cold)⟩
  · exact Or.inl ⟨rfl, Or.inr ⟨own.1, Or.inl own.2⟩⟩
  · exact Or.inr (Or.inl ⟨all, rfl⟩)
  · cases found : control.findSlot targetUid with
    | none => exact Or.inl ⟨rfl, Or.inr ⟨all, Or.inr rfl⟩⟩
    | some slot =>
      exact Or.inr (Or.inr ⟨all, fun isOwn => own ⟨all, isOwn⟩, slot, rfl, rfl⟩)

/-- `RequestStart` for one unit or for all. -/
def requestStart (targetUid : UInt32) : RemoteLoggingControl := control.submit targetUid .start

/-- `RequestStop` for one unit or for all. -/
def requestStop (targetUid : UInt32) : RemoteLoggingControl := control.submit targetUid .stop

/-- The target without its wanted start. -/
def dropStart (target : Target) : Target :=
  if target.wanted = .start then { target with wanted := .none, isHeld := false } else target

/-- A LOGGING command from another unit: a stop drops every wanted start. -/
def handleLoggingCommand (isStart : Bool) : RemoteLoggingControl × Bool :=
  if isStart then (control, false)
  else ({ control with targets := fun slot => dropStart (control.targets slot) }, true)

/-- A status update; each payload entry is absent where the event does not carry it, or
carries another type. -/
def onStatusUpdated (isActive : Option Bool) (reasonEntry : Option LoggingStatusReason) :
    RemoteLoggingControl :=
  match isActive with
  | none => control
  | some isActive =>
    let reason := if isActive then .stopped else reasonEntry.getD .stopped
    let isBack := !isActive && reason = .stopped && control.isUnavailable
    { control with
      isActive, reason
      isStatusReassertDue := control.isStatusReassertDue || isBack
      isUnavailable := !isActive && reason = .unavailable }

/-- A unit that logs has restarted, which the next run looks at. -/
def onLoggingUnitRestarted (deviceId : UInt8) : RemoteLoggingControl :=
  { control with restartedDevices := insert deviceId control.restartedDevices }

/-- The locked snapshot that begins a run of `Process`. -/
def takeSnapshot : RemoteLoggingControl × Snapshot :=
  ({ control with
      targets := fun slot => { control.targets slot with isSendDue := false }
      restartedDevices := ∅
      isStatusReassertDue := false },
    { targets := control.targets
      restarted := control.restartedDevices
      isStatusReassertDue := control.isStatusReassertDue })

/-- What `GetNetworkDevices` gives a run, when it asks. -/
def readDevices (snapshot : Snapshot) (devices : List CdmpDeviceInfo) : List CdmpDeviceInfo :=
  if control.networkInfo.isSome && snapshot.needsDevices then devices else []

/-- The locked write-back that ends a run: what was held or delivered, for the slots no
request changed meanwhile. -/
def writeBack (snapshot : Snapshot) (isHeld : Slot → Bool) : RemoteLoggingControl :=
  { control with
    targets := fun slot =>
      if slot ≠ 0 ∧ (control.targets slot).uid = (snapshot.targets slot).uid ∧
          (control.targets slot).wanted = (snapshot.targets slot).wanted ∧
          (snapshot.targets slot).wanted ≠ .none then
        { control.targets slot with isHeld := isHeld slot }
      else control.targets slot }

/-- A whole run of `Process`, with what it sends. -/
def process (devices : List CdmpDeviceInfo) : RemoteLoggingControl × List Send :=
  let (control, snapshot) := control.takeSnapshot
  let progress := snapshot.plan (control.readDevices snapshot devices)
  (control.writeBack snapshot progress.isHeld, progress.sends)

end RemoteLoggingControl

end RtCore.Logging
