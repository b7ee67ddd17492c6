import Mathlib.Data.Int.Notation
import Mathlib.Data.List.Basic
import Mathlib.Data.Option.Basic
import Mathlib.Tactic.SplitIfs

/-!
# Storing a CBOR configuration

`CborConfigurationManagerBase` keeps the configuration of one domain in memory and in a file of the
internal volume. A store goes through three layers: the manager serializes the new configuration
and parses it back, `CborConfigurationService` encodes it and hands the bytes to the work queue,
and `FsService::WriteFile` opens the file with truncation, writes the bytes and closes it. The
manager adopts the new configuration only after all of it succeeded, but the volume is changed as
soon as the file is open.

## Main definitions

* `WriteCalls`, `writeFile` — the results of the three file system calls of one `WriteFile`
* `Format` — what a derived manager and the CBOR codec supply
* `Manager` — the state of a manager, its service and the volume
* `Request`, `Manager.request` — `Update`, `UpdateOwnSetting`, `Adopt`, `ApplyCborConfiguration`
* `Manager.restart` — a new manager that runs `LoadOrCreateDefault` on the same volume

## Main results

* `Manager.request_cases` — what a request can do to the state
* `Manager.failed_request_changes_nothing` — a request that returns false changes nothing exactly
  unless its write broke off after the open and left a file that loads differently
-/

namespace RtCore.Configuration

/-! ### The volume -/

/-- What a volume holds of a file whose write broke off after `fs_open` with `FS_O_TRUNC`: a volume
that commits on close may keep the file as it was, any other holds the first bytes of the write. -/
inductive Remains where
  | kept
  | cut (count : ℕ)
  deriving DecidableEq

/-- The results of the file system calls of one `WriteFile`, and what is left when they fail. -/
structure WriteCalls where
  openRc : ℤ
  written : ℤ
  closeRc : ℤ
  remains : Remains
  deriving DecidableEq

/-- A mounted volume and the configuration's file on it. -/
structure Volume where
  isMounted : Bool
  file : Option (List UInt8)
  deriving DecidableEq

/-- The file that a broken off write of `data` leaves. -/
def Remains.file (remains : Remains) (data : List UInt8) (before : Option (List UInt8)) :
    Option (List UInt8) :=
  match remains with
  | .kept => before
  | .cut count => some (data.take count)

/-- `FsService::WriteFile` without `append`. -/
def writeFile (calls : WriteCalls) (data : List UInt8) (volume : Volume) : Bool × Volume :=
  let interrupted := { volume with file := calls.remains.file data volume.file }
  if !volume.isMounted then (false, volume)
  else if calls.openRc < 0 then (false, volume)
  else if calls.written < 0 then (false, interrupted)
  else if calls.written ≠ data.length then (false, interrupted)
  else if calls.closeRc < 0 then (false, interrupted)
  else (true, { volume with file := some data })

/-- A save or a load runs on the calling thread, or is submitted to the work queue. -/
inductive Dispatch where
  | inline
  | queued (submitRc : ℤ)
  deriving DecidableEq

/-- Whether the work queue, if there is one, takes the task. -/
def Dispatch.accepted : Dispatch → Bool
  | .inline => true
  | .queued submitRc => 0 ≤ submitRc

/-- What the surroundings answer to the load and the save of one operation. -/
structure Environment where
  load : Dispatch
  save : Dispatch
  calls : WriteCalls
  deriving DecidableEq

/-! ### The manager -/

/-- The virtual functions of a manager and the codec of its CBOR type. -/
structure Format (Config Cbor : Type*) where
  serialize : Config → Except String Cbor
  deserialize : Cbor → Except String Config
  validateApply : Config → Except String Unit
  defaultConfiguration : Config
  /-- `encode_fn`, none on an error. -/
  encodeFn : Cbor → Option (List UInt8)
  /-- `decode_fn` with the number of bytes it decoded, none on an error. -/
  decodeFn : List UInt8 → Option (Cbor × ℕ)
  crc32 : List UInt8 → UInt32

namespace Format

variable {Config Cbor : Type*} (F : Format Config Cbor)

/-- `CborSerializer::Serialize`, which answers no bytes when the encoder fails. -/
def encode (cbor : Cbor) : List UInt8 :=
  (F.encodeFn cbor).getD []

/-- `CborSerializer::Deserialize`, which rejects trailing bytes. -/
def decode (bytes : List UInt8) : Option Cbor :=
  match F.decodeFn bytes with
  | some (cbor, decodedSize) => if decodedSize ≠ bytes.length then none else some cbor
  | none => none

end Format

/-- `StoredCborInfo`. -/
structure StoredCborInfo where
  size : ℕ := 0
  crc : UInt32 := 0
  isApplied : Bool := true
  deriving DecidableEq

/-- A manager with its `CborConfigurationService` and the volume they write to. -/
structure Manager (Config : Type*) where
  configuration : Option Config
  storedInfo : StoredCborInfo
  isStoredConfigurationRejected : Bool
  isSavingEnabled : Bool
  hasStoredHandler : Bool
  handlerCalls : ℕ
  volume : Volume

/-- The calls that store a configuration. -/
inductive Request (Config : Type*) where
  | update (configuration : Config)
  | updateOwnSetting (configuration : Config)
  | adopt (configuration : Config)
  | applyCborConfiguration (cborData : List UInt8)

namespace Manager

variable {Config Cbor : Type*} (F : Format Config Cbor)

/-- `WriteProcessor`. -/
def writeProcessor (calls : WriteCalls) (bytes : List UInt8) (m : Manager Config) :
    Bool × Manager Config :=
  let (written, volume) := writeFile calls bytes m.volume
  if !written then (false, { m with volume := volume })
  else (true, { m with
    volume := volume
    storedInfo := { size := bytes.length, crc := F.crc32 bytes } })

/-- `SaveProcessor`. -/
def saveProcessor (calls : WriteCalls) (cbor : Cbor) (m : Manager Config) :
    Bool × Manager Config :=
  let bytes := F.encode cbor
  if bytes.isEmpty then (false, m) else m.writeProcessor F calls bytes

/-- `SaveOnQueue`: the processor runs here or on the work queue, which may refuse the task. -/
def saveOnQueue (dispatch : Dispatch) (processor : Manager Config → Bool × Manager Config)
    (m : Manager Config) : Bool × Manager Config :=
  if dispatch.accepted then processor m else (false, m)

/-- `CborConfigurationManagerBase::Save`. -/
def save (env : Environment) (cbor : Cbor) (m : Manager Config) : Bool × Manager Config :=
  if !m.isSavingEnabled then (true, m)
  else
    let (saved, m) := m.saveOnQueue env.save (·.saveProcessor F env.calls cbor)
    if !saved then (false, m) else (true, { m with isStoredConfigurationRejected := false })

/-- `SetConfiguration`. -/
def setConfiguration (configuration : Config) (m : Manager Config) : Manager Config :=
  { m with configuration := some configuration }

/-- `NotifyStored`; what the handler throws is only logged. -/
def notifyStored (m : Manager Config) : Manager Config :=
  if m.hasStoredHandler then { m with handlerCalls := m.handlerCalls + 1 } else m

/-- `Store`: serializes, parses back and saves, then adopts what was parsed. -/
def store (env : Environment) (configuration : Config) (m : Manager Config) :
    Bool × Manager Config :=
  match F.serialize configuration with
  | .error _ => (false, m)
  | .ok cbor =>
    match F.deserialize cbor with
    | .error _ => (false, m)
    | .ok updated =>
      let (saved, m) := m.save F env cbor
      if !saved then (false, m) else (true, m.setConfiguration updated)

/-- `Update`. -/
def update (env : Environment) (configuration : Config) (m : Manager Config) :
    Bool × Manager Config :=
  let (stored, m) := m.store F env configuration
  if !stored then (false, m) else (true, m.notifyStored)

/-- `UpdateOwnSetting`. -/
def updateOwnSetting (env : Environment) (configuration : Config) (m : Manager Config) :
    Bool × Manager Config :=
  m.store F env configuration

/-- `Adopt`: keeps the given instance instead of the one parsed back. -/
def adopt (env : Environment) (configuration : Config) (m : Manager Config) :
    Bool × Manager Config :=
  match F.serialize configuration with
  | .error _ => (false, m)
  | .ok cbor =>
    let (saved, m) := m.save F env cbor
    if !saved then (false, m) else (true, (m.setConfiguration configuration).notifyStored)

/-- `ParseCborConfiguration`: the model, or the reason it was refused for. -/
def parseCborConfiguration (cborData : List UInt8) : Except String Config :=
  match F.decode cborData with
  | none => .error "Malformed CBOR"
  | some cbor =>
    match F.deserialize cbor with
    | .error what => .error what
    | .ok configuration =>
      match F.validateApply configuration with
      | .error what => .error what
      | .ok _ => .ok configuration

/-- `ApplyCborConfiguration`: the bytes are stored as received. -/
def applyCborConfiguration (env : Environment) (cborData : List UInt8) (m : Manager Config) :
    Bool × Manager Config :=
  match parseCborConfiguration F cborData with
  | .error _ => (false, m)
  | .ok configuration =>
    let (saved, m) := m.saveOnQueue env.save (·.writeProcessor F env.calls cborData)
    if !saved then (false, m)
    else
      let m := { m with isStoredConfigurationRejected := false }
      (true, (m.setConfiguration configuration).notifyStored)

/-- One of the storing calls. -/
def request (env : Environment) (m : Manager Config) : Request Config → Bool × Manager Config
  | .update configuration => m.update F env configuration
  | .updateOwnSetting configuration => m.updateOwnSetting F env configuration
  | .adopt configuration => m.adopt F env configuration
  | .applyCborConfiguration cborData => m.applyCborConfiguration F env cborData

/-! ### Loading -/

/-- `LoadProcessor` with decoding, on a volume whose files can be read: the size and the CRC are
recorded before the bytes are decoded. -/
def loadProcessor (m : Manager Config) : Option Cbor × Manager Config :=
  if !m.volume.isMounted then (none, m)
  else
    match m.volume.file with
    | none => (none, m)
    | some buffer =>
      (F.decode buffer,
        { m with storedInfo := { size := buffer.length, crc := F.crc32 buffer } })

/-- `LoadOnQueue`. -/
def loadOnQueue (dispatch : Dispatch) (m : Manager Config) : Option Cbor × Manager Config :=
  if dispatch.accepted then m.loadProcessor F else (none, m)

/-- `Get`; an error stands for the exception `Deserialize` throws. -/
def get (env : Environment) (forceLoad : Bool) (m : Manager Config) :
    Except String (Option Config) × Manager Config :=
  let load : Except String (Option Config) × Manager Config :=
    match m.loadOnQueue F env.load with
    | (none, m) => (.ok none, m)
    | (some cbor, m) =>
      match F.deserialize cbor with
      | .error what => (.error what, m)
      | .ok configuration => (.ok (some configuration), m.setConfiguration configuration)
  if forceLoad then load
  else
    match m.configuration with
    | some current => (.ok (some current), m)
    | none => load

/-- `CreateDefaultConfiguration`, which every manager makes an `Update` of its default. -/
def createDefaultConfiguration (env : Environment) (m : Manager Config) : Bool × Manager Config :=
  m.update F env F.defaultConfiguration

/-- `LoadOrCreateDefault`: a stored configuration that fails to load is kept on the volume, and an
unsaved default stands in for it. -/
def loadOrCreateDefault (env : Environment) (m : Manager Config) : Bool × Manager Config :=
  match m.get F env true with
  | (.ok (some _), m) => (true, m)
  | (_, m) =>
    if 0 < m.storedInfo.size then
      let m := { m with isStoredConfigurationRejected := true, isSavingEnabled := false }
      let (created, m) := m.createDefaultConfiguration F env
      (created, { m with isSavingEnabled := true })
    else m.createDefaultConfiguration F env

/-- A manager as its constructor makes it, before it loads. -/
def initial (volume : Volume) : Manager Config where
  configuration := none
  storedInfo := {}
  isStoredConfigurationRejected := false
  isSavingEnabled := true
  hasStoredHandler := false
  handlerCalls := 0
  volume := volume

/-- The manager that runs after a restart on the volume. -/
def restart (boot : Environment) (volume : Volume) : Manager Config :=
  ((initial volume).loadOrCreateDefault F boot).2

/-- `GetCborConfigurationInfo`. -/
def getCborConfigurationInfo (m : Manager Config) : StoredCborInfo :=
  match m.configuration with
  | none => {}
  | some _ => { m.storedInfo with isApplied := !m.isStoredConfigurationRejected }

/-! ### What a request can do -/

/-- Whether a write of `data` breaks off after the file was opened with truncation. -/
def Interrupted (env : Environment) (volume : Volume) (data : List UInt8) : Prop :=
  env.save.accepted = true ∧ volume.isMounted = true ∧ 0 ≤ env.calls.openRc ∧
    ¬ (env.calls.written = data.length ∧ 0 ≤ env.calls.closeRc)

/-- The volume after a write of `data` that broke off. -/
def afterInterruption (env : Environment) (data : List UInt8) (volume : Volume) : Volume :=
  { volume with file := env.calls.remains.file data volume.file }

/-- The bytes that a save of `cbor` hands to `WriteFile`, if it gets that far. -/
def savedBytes (m : Manager Config) (cbor : Cbor) : Option (List UInt8) :=
  if m.isSavingEnabled && !(F.encode cbor).isEmpty then some (F.encode cbor) else none

/-- The bytes that a request hands to `WriteFile`, none when it is refused or needs no write. -/
def bytesToWrite (m : Manager Config) : Request Config → Option (List UInt8)
  | .update configuration | .updateOwnSetting configuration =>
    match F.serialize configuration with
    | .error _ => none
    | .ok cbor =>
      match F.deserialize cbor with
      | .error _ => none
      | .ok _ => m.savedBytes F cbor
  -- An adopted configuration is saved without being read back, an applied one as it came.
  | .adopt configuration =>
    match F.serialize configuration with
    | .error _ => none
    | .ok cbor => m.savedBytes F cbor
  | .applyCborConfiguration cborData =>
    match parseCborConfiguration F cborData with
    | .error _ => none
    | .ok _ => some cborData

/-- The three outcomes of a fallible step that hands `target` to `WriteFile`: it succeeds, it fails
with the state as it was, or it fails with the write broken off. -/
inductive Outcome (env : Environment) (target : Option (List UInt8)) (m : Manager Config) :
    Bool × Manager Config → Prop where
  | succeeded {after : Manager Config}
      (complete : ∀ data, target = some data → ¬ Interrupted env m.volume data) :
      Outcome env target m (true, after)
  | refused (complete : ∀ data, target = some data → ¬ Interrupted env m.volume data) :
      Outcome env target m (false, m)
  | interrupted (data : List UInt8) (handed : target = some data)
      (broken : Interrupted env m.volume data) :
      Outcome env target m (false, { m with volume := afterInterruption env data m.volume })

namespace Outcome

variable {env : Environment} {target : Option (List UInt8)} {m : Manager Config}
  {result : Bool × Manager Config}

/-- A caller that goes on after a success and passes a failure on has the same outcomes. -/
theorem andThen (outcome : Outcome env target m result) (next : Manager Config → Manager Config) :
    Outcome env target m (if !result.1 then (false, result.2) else (true, next result.2)) := by
  cases outcome with
  | succeeded complete => exact .succeeded complete
  | refused complete => exact .refused complete
  | interrupted data handed broken => exact .interrupted data handed broken

end Outcome

theorem writeProcessor_outcome (env : Environment) (data : List UInt8) (m : Manager Config) :
    Outcome env (some data) m (m.saveOnQueue env.save (·.writeProcessor F env.calls data)) := by
  by_cases accepted : env.save.accepted = true
  swap
  · rw [saveOnQueue, if_neg accepted]
    exact .refused fun _ _ broken => accepted broken.1
  rw [saveOnQueue, if_pos accepted]
  by_cases mounted : m.volume.isMounted = true
  swap
  · have fails : writeFile env.calls data m.volume = (false, m.volume) := by
      simp [writeFile, mounted]
    rw [writeProcessor, fails]
    exact .refused fun _ _ broken => mounted broken.2.1
  by_cases opened : env.calls.openRc < 0
  · have fails : writeFile env.calls data m.volume = (false, m.volume) := by
      simp [writeFile, mounted, opened]
    rw [writeProcessor, fails]
    exact .refused fun _ _ broken => absurd broken.2.2.1 (by omega)
  by_cases complete : env.calls.written = data.length ∧ 0 ≤ env.calls.closeRc
  · have succeeds : writeFile env.calls data m.volume = (true, { m.volume with file := data }) := by
      have notNegative : ¬ env.calls.written < 0 := by omega
      have closed : ¬ env.calls.closeRc < 0 := by omega
      simp [writeFile, mounted, opened, complete.1, closed]
    rw [writeProcessor, succeeds]
    refine .succeeded fun written handed broken => ?_
    cases handed
    exact broken.2.2.2 complete
  · -- the open has truncated the file, and one of the later calls fails
    have breaks : writeFile env.calls data m.volume =
        (false, afterInterruption env data m.volume) := by
      unfold writeFile afterInterruption
      rw [if_neg (by simpa using mounted), if_neg opened]
      split_ifs with negative short closed
      · rfl
      · rfl
      · rfl
      · exact absurd ⟨not_not.mp short, Int.not_lt.mp closed⟩ complete
    rw [writeProcessor, breaks]
    exact .interrupted data rfl ⟨accepted, mounted, Int.not_lt.mp opened, complete⟩

private theorem saveProcessor_outcome (env : Environment) (cbor : Cbor) (m : Manager Config)
    (enabled : m.isSavingEnabled = true) :
    Outcome env (m.savedBytes F cbor) m
      (m.saveOnQueue env.save (·.saveProcessor F env.calls cbor)) := by
  by_cases empty : (F.encode cbor).isEmpty = true
  · have nothing : m.savedBytes F cbor = none := by simp [savedBytes, empty]
    have fails : m.saveOnQueue env.save (·.saveProcessor F env.calls cbor) = (false, m) := by
      simp [saveOnQueue, saveProcessor, empty]
    rw [fails, nothing]
    exact .refused fun _ handed => nomatch handed
  · have handed : m.savedBytes F cbor = some (F.encode cbor) := by
      simp [savedBytes, enabled, empty]
    have writes : m.saveOnQueue env.save (·.saveProcessor F env.calls cbor) =
        m.saveOnQueue env.save (·.writeProcessor F env.calls (F.encode cbor)) := by
      simp [saveOnQueue, saveProcessor, empty]
    rw [handed, writes]
    exact writeProcessor_outcome F env (F.encode cbor) m

theorem save_outcome (env : Environment) (cbor : Cbor) (m : Manager Config) :
    Outcome env (m.savedBytes F cbor) m (m.save F env cbor) := by
  by_cases enabled : m.isSavingEnabled = true
  · rw [save, if_neg (by simpa using enabled)]
    exact (saveProcessor_outcome F env cbor m enabled).andThen fun m =>
      { m with isStoredConfigurationRejected := false }
  · have nothing : m.savedBytes F cbor = none := by simp [savedBytes, enabled]
    rw [save, if_pos (by simpa using enabled), nothing]
    exact .succeeded fun _ handed => nomatch handed

theorem store_outcome (env : Environment) (configuration : Config) (m : Manager Config) :
    Outcome env (m.bytesToWrite F (.update configuration)) m (m.store F env configuration) := by
  simp only [store, bytesToWrite]
  cases F.serialize configuration with
  | error what => exact .refused fun _ handed => by cases handed
  | ok cbor =>
    simp only
    cases F.deserialize cbor with
    | error what => exact .refused fun _ handed => by cases handed
    | ok updated => exact (save_outcome F env cbor m).andThen (·.setConfiguration updated)

/-- Every storing call succeeds, or fails with the state as it was, or fails with the volume as a
broken off write leaves it and everything else as it was. -/
theorem request_cases (env : Environment) (m : Manager Config) (r : Request Config) :
    Outcome env (m.bytesToWrite F r) m (m.request F env r) := by
  cases r with
  | update configuration => exact (store_outcome F env configuration m).andThen (·.notifyStored)
  | updateOwnSetting configuration => exact store_outcome F env configuration m
  | adopt configuration =>
    simp only [request, adopt, bytesToWrite]
    cases F.serialize configuration with
    | error what => exact .refused fun _ handed => by cases handed
    | ok cbor =>
      exact (save_outcome F env cbor m).andThen fun m =>
        (m.setConfiguration configuration).notifyStored
  | applyCborConfiguration cborData =>
    simp only [request, applyCborConfiguration, bytesToWrite]
    cases parseCborConfiguration F cborData with
    | error what => exact .refused fun _ handed => by cases handed
    | ok configuration =>
      exact (writeProcessor_outcome F env cborData m).andThen fun m =>
        ({ m with isStoredConfigurationRejected := false }.setConfiguration
          configuration).notifyStored

/-! ### What a volume loads as -/

/-- What the file of a volume loads as: nothing, a configuration, or an exception. -/
def loaded (boot : Environment) (volume : Volume) : Except String (Option Config) :=
  if boot.load.accepted && volume.isMounted then
    match volume.file.bind F.decode with
    | none => .ok none
    | some cbor => (F.deserialize cbor).map some
  else .ok none

/-- Whether a load finds bytes in the file, so that it counts as stored. -/
def hasStoredBytes (boot : Environment) (volume : Volume) : Bool :=
  boot.load.accepted && volume.isMounted && volume.file.any (!·.isEmpty)

/-- Whether a write of `data` succeeds. -/
def canWrite (calls : WriteCalls) (volume : Volume) (data : List UInt8) : Bool :=
  volume.isMounted && 0 ≤ calls.openRc && calls.written = data.length && 0 ≤ calls.closeRc

/-- Whether a save of `cbor` succeeds in a manager that may save. -/
def canSave (boot : Environment) (volume : Volume) (cbor : Cbor) : Bool :=
  boot.save.accepted && !(F.encode cbor).isEmpty && canWrite boot.calls volume (F.encode cbor)

/-- The default configuration as it is parsed back, when it is kept in memory or can be saved. -/
def fallback (boot : Environment) (volume : Volume) : Option Config :=
  match F.serialize F.defaultConfiguration with
  | .error _ => none
  | .ok cbor =>
    if hasStoredBytes boot volume || canSave F boot volume cbor then
      (F.deserialize cbor).toOption
    else none

/-- The configuration that a start on the volume runs: the one the file loads as, else the
default. -/
def bootConfiguration (boot : Environment) (volume : Volume) : Option Config :=
  match loaded F boot volume with
  | .ok (some configuration) => some configuration
  | _ => fallback F boot volume

private theorem get_load_result (boot : Environment) (m : Manager Config) :
    (m.get F boot true).1 = loaded F boot m.volume := by
  unfold get loaded loadOnQueue loadProcessor
  cases boot.load.accepted with
  | false => rfl
  | true =>
    cases m.volume.isMounted with
    | false => rfl
    | true =>
      cases m.volume.file with
      | none => rfl
      | some buffer =>
        simp only [Option.bind_some]
        cases F.decode buffer with
        | none => rfl
        | some cbor => cases parsed : F.deserialize cbor <;> simp [parsed, Except.map]

/-- A load that gives no configuration only records what it read. -/
private theorem get_load_failed (boot : Environment) (volume : Volume)
    (failed : ∀ configuration, loaded F boot volume ≠ .ok (some configuration)) :
    ∃ info : StoredCborInfo,
      ((initial volume : Manager Config).get F boot true).2 =
        { (initial volume : Manager Config) with storedInfo := info } ∧
      (0 < info.size ↔ hasStoredBytes boot volume = true) := by
  unfold get loadOnQueue loadProcessor hasStoredBytes
  unfold loaded at failed
  cases accepted : boot.load.accepted with
  | false => exact ⟨{}, rfl, by simp⟩
  | true =>
    cases mounted : volume.isMounted with
    | false => exact ⟨{}, by simp [initial, mounted], by simp⟩
    | true =>
      cases stored : volume.file with
      | none => exact ⟨{}, by simp [initial, mounted, stored], by simp⟩
      | some buffer =>
        refine ⟨{ size := buffer.length, crc := F.crc32 buffer }, ?_, ?_⟩
        · simp only [accepted, mounted, stored, Bool.and_self, if_true, Option.bind_some] at failed
          cases decoded : F.decode buffer with
          | none => simp [initial, mounted, stored, decoded]
          | some cbor =>
            cases parsed : F.deserialize cbor with
            | error what => simp [initial, mounted, stored, decoded, parsed]
            | ok configuration =>
              exact absurd (by simp [decoded, parsed, Except.map]) (failed configuration)
        · cases buffer <;> simp

private theorem get_load_succeeded (boot : Environment) (m : Manager Config)
    {configuration : Config} (succeeded : (m.get F boot true).1 = .ok (some configuration)) :
    (m.get F boot true).2.configuration = some configuration := by
  unfold get at succeeded ⊢
  simp only [if_true] at succeeded ⊢
  rcases loading : m.loadOnQueue F boot.load with ⟨_ | cbor, m'⟩
  · simp [loading] at succeeded
  · simp only [loading] at succeeded ⊢
    cases parsed : F.deserialize cbor with
    | error what => simp [parsed] at succeeded
    | ok parsedConfiguration =>
      simp only [parsed, Except.ok.injEq, Option.some.injEq] at succeeded
      simp [setConfiguration, succeeded]

private theorem writeFile_result (calls : WriteCalls) (data : List UInt8) (volume : Volume) :
    (writeFile calls data volume).1 = canWrite calls volume data := by
  unfold writeFile canWrite
  dsimp only
  split_ifs with mounted opened negative short closed
  · have unmounted : volume.isMounted = false := by simpa using mounted
    simp [unmounted]
  · have refused : ¬ 0 ≤ calls.openRc := by omega
    simp [refused]
  · have different : ¬ calls.written = data.length := by omega
    simp [different]
  · simp [short]
  · have refused : ¬ 0 ≤ calls.closeRc := by omega
    simp [refused]
  · simp_all

private theorem save_result (boot : Environment) (cbor : Cbor) (m : Manager Config) :
    (m.save F boot cbor).1 = (!m.isSavingEnabled || canSave F boot m.volume cbor) := by
  have written := writeFile_result boot.calls (F.encode cbor) m.volume
  unfold save saveOnQueue saveProcessor writeProcessor canSave
  dsimp only
  split_ifs <;> simp_all

private theorem save_configuration (boot : Environment) (cbor : Cbor) (m : Manager Config) :
    (m.save F boot cbor).2.configuration = m.configuration := by
  unfold save saveOnQueue saveProcessor writeProcessor
  dsimp only
  split_ifs <;> rfl

/-- The configuration of a manager without one, after it has made its default. -/
private theorem createDefaultConfiguration_configuration (boot : Environment) (m : Manager Config)
    (none_running : m.configuration = none) :
    (m.createDefaultConfiguration F boot).2.configuration =
      match F.serialize F.defaultConfiguration with
      | .error _ => none
      | .ok cbor =>
        if !m.isSavingEnabled || canSave F boot m.volume cbor then (F.deserialize cbor).toOption
        else none := by
  unfold createDefaultConfiguration update store
  cases F.serialize F.defaultConfiguration with
  | error what => simpa using none_running
  | ok cbor =>
    simp only
    rw [← save_result]
    cases parsed : F.deserialize cbor with
    | error what => simpa [Except.toOption] using none_running
    | ok updated =>
      have kept := save_configuration F boot cbor m
      cases saved : (m.save F boot cbor).1 with
      | false => simp [kept, none_running]
      | true =>
        simp only [notifyStored, setConfiguration, Except.toOption]
        split_ifs <;> simp_all

/-- A restart runs what the file of the volume loads as, else the default. -/
theorem restart_configuration (boot : Environment) (volume : Volume) :
    (restart F boot volume).configuration = bootConfiguration F boot volume := by
  have result := get_load_result F boot (initial volume)
  unfold restart loadOrCreateDefault bootConfiguration
  rcases loading : (initial volume).get F boot true with ⟨what, m⟩
  rw [loading] at result
  have from_volume : what = loaded F boot volume := result
  rw [← from_volume]
  by_cases succeeded : ∃ configuration, what = .ok (some configuration)
  · obtain ⟨configuration, rfl⟩ := succeeded
    have running := get_load_succeeded F boot (initial volume) (by rw [loading])
    simpa [loading] using running
  · have failed (configuration) : loaded F boot volume ≠ .ok (some configuration) := by
      intro equal
      exact succeeded ⟨configuration, from_volume.trans equal⟩
    obtain ⟨info, after, counted⟩ := get_load_failed F boot volume failed
    rw [loading] at after
    have after' : m = { (initial volume : Manager Config) with storedInfo := info } := after
    subst after'
    -- No configuration was loaded: bytes that are there are rejected and kept, as saving is off
    -- while the default is created.
    have default_runs : (if 0 < info.size then
        (let m : Manager Config := { (initial volume : Manager Config) with
          storedInfo := info, isStoredConfigurationRejected := true, isSavingEnabled := false }
        let (created, m) := m.createDefaultConfiguration F boot
        (created, { m with isSavingEnabled := true }))
        else createDefaultConfiguration F boot
          { (initial volume : Manager Config) with storedInfo := info }).2.configuration =
        fallback F boot volume := by
      unfold fallback
      split_ifs with stored
      · have bytes := counted.mp stored
        dsimp only
        rw [createDefaultConfiguration_configuration F boot _ rfl]
        simp [bytes]
      · have bytes : hasStoredBytes boot volume = false := by
          simpa using fun found => stored (counted.mpr found)
        rw [createDefaultConfiguration_configuration F boot _ rfl]
        simp [initial, bytes]
    match what with
    | .ok (some configuration) => exact absurd ⟨configuration, rfl⟩ succeeded
    | .ok none => exact default_runs
    | .error _ => exact default_runs

/-! ### Failed requests -/

/-- What a client, the unit and its next start see of a store is as before. -/
structure Unchanged (boot : Environment) (before after : Manager Config) : Prop where
  running : (after.get F boot false).1 = (before.get F boot false).1
  stored : after.storedInfo = before.storedInfo
  info : after.getCborConfigurationInfo = before.getCborConfigurationInfo
  handler : after.handlerCalls = before.handlerCalls
  restarted : (restart F boot after.volume).configuration =
    (restart F boot before.volume).configuration

/-- Whether a volume starts with the same configuration as the manager's, and loads the same when
none is running. -/
def LoadsAlike (boot : Environment) (m : Manager Config) (volume : Volume) : Prop :=
  bootConfiguration F boot volume = bootConfiguration F boot m.volume ∧
    (m.configuration = none → loaded F boot volume = loaded F boot m.volume)

private theorem unchanged_iff_loadsAlike (boot : Environment) (m : Manager Config)
    (volume : Volume) :
    Unchanged F boot m { m with volume := volume } ↔ LoadsAlike F boot m volume := by
  have get_none (m : Manager Config) (idle : m.configuration = none) :
      (m.get F boot false).1 = loaded F boot m.volume := by
    rw [← get_load_result F boot m]
    simp [get, idle]
  constructor
  · intro unchanged
    refine ⟨?_, fun idle => ?_⟩
    · rw [← restart_configuration, ← restart_configuration]
      exact unchanged.restarted
    · rw [← get_none m idle, ← unchanged.running]
      exact (get_none { m with volume := volume } idle).symm
  · rintro ⟨boots, loads⟩
    refine ⟨?_, rfl, rfl, rfl, ?_⟩
    · by_cases idle : m.configuration = none
      · rw [get_none m idle, get_none { m with volume := volume } idle]
        exact loads idle
      · obtain ⟨current, running⟩ := Option.ne_none_iff_exists'.mp idle
        simp [get, running]
    · rw [restart_configuration, restart_configuration]
      exact boots

/-- A storing call that returns false leaves the running configuration, the stored size and CRC, the
applied flag, the handler and the next start as they were, exactly unless its write broke off after
the file was opened and left a volume that loads differently. -/
theorem failed_request_changes_nothing (env boot : Environment) (m : Manager Config)
    (r : Request Config) :
    ((m.request F env r).1 = false → Unchanged F boot m (m.request F env r).2) ↔
      ∀ data, m.bytesToWrite F r = some data → Interrupted env m.volume data →
        LoadsAlike F boot m (afterInterruption env data m.volume) := by
  have outcome := request_cases F env m r
  generalize m.request F env r = result at outcome ⊢
  generalize m.bytesToWrite F r = target at outcome ⊢
  -- Only a write that was cut short after the file was opened leaves another file.
  cases outcome with
  | succeeded complete =>
    constructor
    · intro _ data handed broken
      exact absurd broken (complete data handed)
    · intro _ failed
      cases failed
  | refused complete =>
    constructor
    · intro _ data handed broken
      exact absurd broken (complete data handed)
    · intro _ _
      exact ⟨rfl, rfl, rfl, rfl, rfl⟩
  | interrupted data handed broken =>
    constructor
    · intro unchanged written handed' _
      cases handed.symm.trans handed'
      exact (unchanged_iff_loadsAlike F boot m _).mp (unchanged rfl)
    · intro alike _
      exact (unchanged_iff_loadsAlike F boot m _).mpr (alike data handed broken)

/-! ### A short write over a stored configuration -/

/-- The CRC-32 of IEEE 802.3, bit by bit from the least significant one. -/
def crc32Ieee (bytes : List UInt8) : UInt32 :=
  ~~~ bytes.foldl (fun crc byte => (List.range 8).foldl (fun crc _ =>
    if crc &&& 1 = 1 then (crc >>> 1) ^^^ 0xEDB88320 else crc >>> 1) (crc ^^^ byte.toUInt32))
    0xFFFFFFFF

/-- A configuration of one number from 24 to 255, as CBOR encodes it in two bytes. -/
def numberFormat : Format UInt8 UInt8 where
  serialize number := if number < 24 then .error "Number out of range" else .ok number
  deserialize number := if number < 24 then .error "Number out of range" else .ok number
  validateApply _ := .ok ()
  defaultConfiguration := 24
  encodeFn number := some [0x18, number]
  decodeFn
    | 0x18 :: number :: _ => some (number, 2)
    | _ => none
  crc32 := crc32Ieee

/-- A manager that loaded 42 from its file. -/
def numberManager : Manager UInt8 :=
  restart numberFormat ⟨.inline, .inline, ⟨0, 2, 0, .kept⟩⟩ ⟨true, some [0x18, 42]⟩

/-- A full volume: the file is truncated, one of the two bytes is written and the file is closed. -/
theorem short_write_loses_configuration :
    (numberManager.request numberFormat ⟨.inline, .inline, ⟨0, 1, 0, .cut 1⟩⟩ (.update 77)).1 =
        false ∧
      ¬ Unchanged numberFormat ⟨.inline, .inline, ⟨0, 2, 0, .kept⟩⟩ numberManager
        (numberManager.request numberFormat ⟨.inline, .inline, ⟨0, 1, 0, .cut 1⟩⟩
          (.update 77)).2 := by
  refine ⟨by decide, fun unchanged => ?_⟩
  have restarted := unchanged.restarted
  rw [restart_configuration, restart_configuration] at restarted
  exact absurd restarted (by decide)

end Manager

end RtCore.Configuration
