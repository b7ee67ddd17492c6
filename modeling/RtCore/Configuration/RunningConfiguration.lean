import RtCore.Configuration.ConfigurationStore
import RtCore.Foundation.Run

/-!
# What runs is what a restart would load

Over any sequence of calls to a manager whose file operations succeed, the configuration it runs is
the one its file loads as, and the size and CRC it reports are those of the file, whenever it says
that the stored configuration is applied. A file that a load rejected stays as it is until a call
stores a configuration: the default that stands in for it passes through `Update` with saving turned
off.

## Main definitions

* `Operation`, `Reliable` — the calls, and surroundings in which their file operations succeed
* `Tracked` — a manager, with the file that a load rejected
* `InStep` — what runs is what a restart would load

## Main results

* `inStep_always` — in step in every state of every run
-/

namespace RtCore.Configuration

open RtCore.Foundation

/-- `Deserialize` accepts what `Serialize` produces, and the codec of the CBOR type decodes what it
encodes. -/
structure ParserPair {Config Cbor : Type*} (F : Format Config Cbor) : Prop where
  accepts : ∀ {configuration cbor}, F.serialize configuration = .ok cbor →
    ∃ parsed, F.deserialize cbor = .ok parsed
  decodes : ∀ {configuration cbor bytes}, F.serialize configuration = .ok cbor →
    F.encodeFn cbor = some bytes → F.decode bytes = some cbor

/-- The public calls of a manager. -/
inductive Operation (Config : Type*) where
  /-- The default may be another one each time. -/
  | loadOrCreateDefault (default : Config)
  | get (forceLoad : Bool)
  | request (request : Request Config)
  | getCborConfiguration

namespace Manager

variable {Config Cbor : Type*} (F : Format Config Cbor)

/-- `LoadProcessor` without decoding, by way of `LoadOnQueue`. -/
def loadRaw (dispatch : Dispatch) (m : Manager Config) :
    Option (List UInt8) × Manager Config :=
  if !dispatch.accepted || !m.volume.isMounted then (none, m)
  else
    match m.volume.file with
    | none => (none, m)
    | some buffer =>
      (some buffer, { m with storedInfo := { size := buffer.length, crc := F.crc32 buffer } })

/-- `GetCborConfiguration`. -/
def getCborConfiguration (env : Environment) (m : Manager Config) :
    Except String (List UInt8) × Manager Config :=
  match m.get F env false with
  | (.error what, m) => (.error what, m)
  | (.ok none, m) => (.ok [], m)
  | (.ok (some _), m) =>
    match m.loadRaw F env.load with
    | (none, m) => (.ok [], m)
    | (some bytes, m) => (.ok bytes, m)

/-- One of the calls; the answer says whether a configuration was stored, created or found. -/
def operate (env : Environment) (m : Manager Config) : Operation Config → Bool × Manager Config
  | .loadOrCreateDefault default =>
    m.loadOrCreateDefault { F with defaultConfiguration := default } env
  | .get forceLoad =>
    match m.get F env forceLoad with
    | (.ok (some _), m) => (true, m)
    | (_, m) => (false, m)
  | .request r => m.request F env r
  | .getCborConfiguration =>
    match m.getCborConfiguration F env with
    | (.ok bytes, m) => (!bytes.isEmpty, m)
    | (.error _, m) => (false, m)

/-- The call has the file decoded. -/
def decodesFile (m : Manager Config) : Operation Config → Bool
  | .loadOrCreateDefault _ => true
  | .get forceLoad => forceLoad || m.configuration.isNone
  | .request _ => false
  | .getCborConfiguration => m.configuration.isNone

end Manager

variable {Config Cbor : Type*} (F : Format Config Cbor)

/-- What a store of the configuration writes. -/
def encoding (configuration : Config) : List UInt8 :=
  match F.serialize configuration with
  | .error _ => []
  | .ok cbor => F.encode cbor

/-- The only bytes that a call may write. -/
def Operation.bytes : Operation Config → List UInt8
  | .loadOrCreateDefault default => encoding F default
  | .request (.update configuration) => encoding F configuration
  | .request (.updateOwnSetting configuration) => encoding F configuration
  | .request (.adopt configuration) => encoding F configuration
  | .request (.applyCborConfiguration cborData) => cborData
  | .get _ => []
  | .getCborConfiguration => []

/-- The file operations of a call that writes the bytes succeed. -/
structure Reliable (env : Environment) (bytes : List UInt8) : Prop where
  load : env.load.accepted = true
  save : env.save.accepted = true
  opens : 0 ≤ env.calls.openRc
  writes : env.calls.written = bytes.length
  closes : 0 ≤ env.calls.closeRc

/-- The bytes load as a configuration. -/
def Loads (bytes : List UInt8) (cbor : Cbor) (configuration : Config) : Prop :=
  F.decode bytes = some cbor ∧ F.deserialize cbor = .ok configuration

/-- Some configuration is loaded from the bytes. -/
def Loadable (bytes : List UInt8) : Prop := ∃ cbor configuration, Loads F bytes cbor configuration

instance (bytes : List UInt8) : Decidable (Loadable F bytes) :=
  match decoded : F.decode bytes with
  | none => .isFalse fun ⟨_, _, isCbor, _⟩ => by rw [decoded] at isCbor; cases isCbor
  | some cbor =>
    match parsed : F.deserialize cbor with
    | .error _ => .isFalse fun ⟨_, _, isCbor, isParsed⟩ => by
      rw [decoded] at isCbor
      cases isCbor
      rw [parsed] at isParsed
      cases isParsed
    | .ok configuration => .isTrue ⟨cbor, configuration, decoded, parsed⟩

/-- A manager, with what happened to its configuration and its file. -/
structure Tracked (Config : Type*) where
  manager : Manager Config
  /-- The running configuration was taken over by `Adopt`. -/
  isAdopted : Bool := false
  /-- The file that a load rejected, until a call has stored a configuration. -/
  rejectedFile : Option (List UInt8) := none

namespace Tracked

/-- The call, and what it does to what is tracked. -/
def step (tracked : Tracked Config) : Operation Config × Environment → Tracked Config
  | (operation, env) =>
    let manager := tracked.manager
    let (succeeds, after) := manager.operate F env operation
    { manager := after
      isAdopted :=
        match operation with
        | .request (.adopt _) => succeeds || tracked.isAdopted
        | .request _ | .loadOrCreateDefault _ => !succeeds && tracked.isAdopted
        | .get _ | .getCborConfiguration =>
          !(manager.decodesFile operation && manager.volume.file.any fun bytes =>
            decide (Loadable F bytes)) && tracked.isAdopted
      rejectedFile :=
        match operation with
        | .request _ => if succeeds then none else tracked.rejectedFile
        | _ =>
          if manager.decodesFile operation then
            manager.volume.file.filter fun bytes => !decide (Loadable F bytes)
          else tracked.rejectedFile }

/-- What runs is what a restart would load, and a rejected file is kept. -/
structure InStep (tracked : Tracked Config) : Prop where
  runs : ∀ configuration, tracked.manager.configuration = some configuration →
    tracked.manager.getCborConfigurationInfo.isApplied = true →
      ∃ bytes cbor stored, tracked.manager.volume.file = some bytes ∧
        Loads F bytes cbor stored ∧
        (configuration = stored ∨
          tracked.isAdopted = true ∧ F.serialize configuration = .ok cbor) ∧
        tracked.manager.getCborConfigurationInfo.size = bytes.length ∧
        tracked.manager.getCborConfigurationInfo.crc = F.crc32 bytes
  kept : ∀ bytes, tracked.rejectedFile = some bytes →
    tracked.manager.volume.file = some bytes

end Tracked

/-! ### The invariant -/

/-- The file loads as what runs. -/
def Backed (m : Manager Config) (isAdopted : Bool) (configuration : Config) : Prop :=
  ∃ bytes cbor stored, m.volume.file = some bytes ∧ Loads F bytes cbor stored ∧
    (configuration = stored ∨ isAdopted = true ∧ F.serialize configuration = .ok cbor) ∧
    m.storedInfo.size = bytes.length ∧ m.storedInfo.crc = F.crc32 bytes

/-- The configuration, the file and the flags of a manager agree. -/
structure Consistent (m : Manager Config) (isAdopted : Bool) : Prop where
  mounted : m.volume.isMounted = true
  saving : m.isSavingEnabled = true
  runs : m.isStoredConfigurationRejected = false → ∀ configuration,
    m.configuration = some configuration → Backed F m isAdopted configuration
  rejected : m.isStoredConfigurationRejected = true →
    ∃ bytes, m.volume.file = some bytes ∧ ¬ Loadable F bytes
  nonempty : ∀ bytes, m.volume.file = some bytes → ¬ Loadable F bytes → bytes ≠ []
  missing : m.volume.file = none → m.storedInfo.size = 0

variable {F} {m : Manager Config} {isAdopted : Bool} {env : Environment}

/-- `StoredCborInfo` of a file. -/
def storedInfoOf (F : Format Config Cbor) (bytes : List UInt8) : StoredCborInfo :=
  { size := bytes.length, crc := F.crc32 bytes }

theorem writeProcessor_reliable {bytes : List UInt8} (mounted : m.volume.isMounted = true)
    (reliable : Reliable env bytes) :
    m.saveOnQueue env.save (·.writeProcessor F env.calls bytes) =
      (true, { m with
        volume := { m.volume with file := some bytes }
        storedInfo := storedInfoOf F bytes }) := by
  have written : ¬ env.calls.written < 0 := by
    rw [reliable.writes]
    omega
  have writes : writeFile env.calls bytes m.volume =
      (true, { m.volume with file := some bytes }) := by
    unfold writeFile
    rw [if_neg (by simp [mounted]), if_neg (Int.not_lt.mpr reliable.opens), if_neg written,
      if_neg (not_not.mpr reliable.writes), if_neg (Int.not_lt.mpr reliable.closes)]
  rw [Manager.saveOnQueue, if_pos reliable.save, Manager.writeProcessor, writes]
  rfl

/-- A save writes the encoding, if there is one. -/
theorem save_reliable {cbor : Cbor} (mounted : m.volume.isMounted = true)
    (saving : m.isSavingEnabled = true) (reliable : Reliable env (F.encode cbor)) :
    m.save F env cbor = if (F.encode cbor).isEmpty then (false, m) else
      (true, { m with
        volume := { m.volume with file := some (F.encode cbor) }
        storedInfo := storedInfoOf F (F.encode cbor)
        isStoredConfigurationRejected := false }) := by
  have written := writeProcessor_reliable (F := F) mounted reliable
  unfold Manager.saveOnQueue at written
  unfold Manager.save Manager.saveOnQueue Manager.saveProcessor
  rw [if_pos reliable.save] at written ⊢
  by_cases empty : (F.encode cbor).isEmpty = true
  · simp [saving, empty]
  · simp only [saving, empty, written]
    rfl

theorem save_disabled {cbor : Cbor} (disabled : m.isSavingEnabled = false) :
    m.save F env cbor = (true, m) := by
  simp [Manager.save, disabled]

/-- The manager after bytes that load as a configuration were stored. -/
theorem Consistent.stored (consistent : Consistent F m isAdopted) {bytes : List UInt8} {cbor : Cbor}
    {stored configuration : Config} (loads : Loads F bytes cbor stored) {byAdopt : Bool}
    (same : configuration = stored ∨ byAdopt = true ∧ F.serialize configuration = .ok cbor)
    (handlerCalls : ℕ) :
    Consistent F { m with
      configuration := some configuration
      storedInfo := storedInfoOf F bytes
      isStoredConfigurationRejected := false
      handlerCalls
      volume := { m.volume with file := some bytes } } byAdopt where
  mounted := consistent.mounted
  saving := consistent.saving
  runs _ := by
    rintro _ ⟨⟩
    exact ⟨bytes, cbor, stored, rfl, loads, same, rfl, rfl⟩
  rejected := nofun
  nonempty := by
    rintro _ ⟨⟩ unloadable
    exact absurd ⟨cbor, stored, loads⟩ unloadable
  missing := nofun

theorem ParserPair.loads (pair : ParserPair F) {configuration stored : Config} {cbor : Cbor}
    (serialized : F.serialize configuration = .ok cbor) (parsed : F.deserialize cbor = .ok stored)
    (encoded : ¬ (F.encode cbor).isEmpty = true) : Loads F (F.encode cbor) cbor stored := by
  refine ⟨?_, parsed⟩
  unfold Format.encode at encoded ⊢
  cases isBytes : F.encodeFn cbor with
  | none => simp [isBytes] at encoded
  | some bytes => exact pair.decodes serialized isBytes

/-! ### Stores -/

theorem Consistent.store (pair : ParserPair F) (consistent : Consistent F m isAdopted)
    {configuration : Config} (reliable : Reliable env (encoding F configuration)) :
    m.store F env configuration = (false, m) ∨
      (m.store F env configuration).1 = true ∧
        ∀ calls, Consistent F
          { (m.store F env configuration).2 with handlerCalls := calls } false := by
  unfold Manager.store
  unfold encoding at reliable
  cases serialized : F.serialize configuration with
  | error what => exact Or.inl rfl
  | ok cbor =>
    rw [serialized] at reliable
    dsimp only
    cases parsed : F.deserialize cbor with
    | error what => exact Or.inl rfl
    | ok updated =>
      simp only [save_reliable consistent.mounted consistent.saving reliable]
      by_cases empty : (F.encode cbor).isEmpty = true
      · rw [if_pos empty]
        exact Or.inl rfl
      · rw [if_neg empty]
        refine Or.inr ⟨rfl, fun calls => ?_⟩
        exact consistent.stored (pair.loads serialized parsed empty) (Or.inl rfl) calls

theorem notifyStored_eq (m : Manager Config) :
    ∃ calls, m.notifyStored = { m with handlerCalls := calls } := by
  unfold Manager.notifyStored
  split_ifs
  · exact ⟨_, rfl⟩
  · exact ⟨m.handlerCalls, rfl⟩

theorem Consistent.update (pair : ParserPair F) (consistent : Consistent F m isAdopted)
    {configuration : Config} (reliable : Reliable env (encoding F configuration)) :
    m.update F env configuration = (false, m) ∨
      (m.update F env configuration).1 = true ∧
        Consistent F (m.update F env configuration).2 false := by
  unfold Manager.update
  rcases consistent.store pair reliable with refused | ⟨stored, after⟩
  · rw [refused]
    exact Or.inl rfl
  · rcases result : m.store F env configuration with ⟨succeeds, next⟩
    rw [result] at stored after
    dsimp only at stored after ⊢
    rw [stored]
    obtain ⟨calls, notified⟩ := notifyStored_eq next
    refine Or.inr ⟨rfl, ?_⟩
    change Consistent F next.notifyStored false
    rw [notified]
    exact after calls

theorem Consistent.adopt (pair : ParserPair F) (consistent : Consistent F m isAdopted)
    {configuration : Config} (reliable : Reliable env (encoding F configuration)) :
    m.adopt F env configuration = (false, m) ∨
      (m.adopt F env configuration).1 = true ∧
        Consistent F (m.adopt F env configuration).2 true := by
  unfold Manager.adopt
  unfold encoding at reliable
  cases serialized : F.serialize configuration with
  | error what => exact Or.inl rfl
  | ok cbor =>
    rw [serialized] at reliable
    obtain ⟨parsed, isParsed⟩ := pair.accepts serialized
    simp only [save_reliable consistent.mounted consistent.saving reliable]
    by_cases empty : (F.encode cbor).isEmpty = true
    · rw [if_pos empty]
      exact Or.inl rfl
    · rw [if_neg empty]
      refine Or.inr ⟨rfl, ?_⟩
      simp only [Bool.not_true, Bool.false_eq_true, if_false]
      obtain ⟨calls, notified⟩ := notifyStored_eq (Manager.setConfiguration configuration
        { m with
          volume := { m.volume with file := some (F.encode cbor) }
          storedInfo := storedInfoOf F (F.encode cbor)
          isStoredConfigurationRejected := false })
      rw [notified]
      exact consistent.stored (pair.loads serialized isParsed empty)
        (Or.inr ⟨rfl, serialized⟩) calls

theorem Consistent.apply (consistent : Consistent F m isAdopted) {cborData : List UInt8}
    (reliable : Reliable env cborData) :
    m.applyCborConfiguration F env cborData = (false, m) ∨
      (m.applyCborConfiguration F env cborData).1 = true ∧
        Consistent F (m.applyCborConfiguration F env cborData).2 false := by
  unfold Manager.applyCborConfiguration Manager.parseCborConfiguration
  cases decoded : F.decode cborData with
  | none => exact Or.inl rfl
  | some cbor =>
    dsimp only
    cases parsed : F.deserialize cbor with
    | error what => exact Or.inl rfl
    | ok configuration =>
      dsimp only
      cases F.validateApply configuration with
      | error what => exact Or.inl rfl
      | ok _ =>
        dsimp only
        rw [writeProcessor_reliable consistent.mounted reliable]
        refine Or.inr ⟨rfl, ?_⟩
        simp only [Bool.not_true, Bool.false_eq_true, if_false]
        obtain ⟨calls, notified⟩ := notifyStored_eq (Manager.setConfiguration configuration
          { m with
            volume := { m.volume with file := some cborData }
            storedInfo := storedInfoOf F cborData
            isStoredConfigurationRejected := false })
        rw [notified]
        exact consistent.stored ⟨decoded, parsed⟩ (Or.inl rfl) calls

/-! ### Loads -/

/-- What a load does: there is no file, it is rejected, or it runs. -/
inductive LoadCases (F : Format Config Cbor) (m : Manager Config) :
    Except String (Option Config) × Manager Config → Prop
  | missing (absent : m.volume.file = none) : LoadCases F m (.ok none, m)
  | rejected (bytes : List UInt8) (file : m.volume.file = some bytes)
      (unloadable : ¬ Loadable F bytes) (result : Except String (Option Config))
      (failed : ∀ configuration, result ≠ .ok (some configuration)) :
      LoadCases F m (result, { m with storedInfo := storedInfoOf F bytes })
  | loaded (bytes : List UInt8) (cbor : Cbor) (configuration : Config)
      (file : m.volume.file = some bytes) (loads : Loads F bytes cbor configuration) :
      LoadCases F m (.ok (some configuration),
        { m with
          storedInfo := storedInfoOf F bytes
          configuration := some configuration })

theorem get_loadCases (mounted : m.volume.isMounted = true)
    (accepted : env.load.accepted = true) : LoadCases F m (m.get F env true) := by
  unfold Manager.get Manager.loadOnQueue Manager.loadProcessor
  simp only [accepted, mounted, Bool.not_true, Bool.false_eq_true, if_true, if_false]
  cases file : m.volume.file with
  | none => exact .missing file
  | some bytes =>
    dsimp only
    cases decoded : F.decode bytes with
    | none =>
      refine .rejected bytes file ?_ _ nofun
      rintro ⟨cbor, configuration, isCbor, -⟩
      cases decoded.symm.trans isCbor
    | some cbor =>
      dsimp only
      cases parsed : F.deserialize cbor with
      | error what =>
        refine .rejected bytes file ?_ _ nofun
        rintro ⟨cbor', configuration, isCbor, isParsed⟩
        cases decoded.symm.trans isCbor
        cases parsed.symm.trans isParsed
      | ok configuration => exact .loaded bytes cbor configuration file ⟨decoded, parsed⟩

/-- A configuration that a load finds runs. -/
theorem Consistent.loaded (consistent : Consistent F m isAdopted) {bytes : List UInt8} {cbor : Cbor}
    {configuration : Config} (file : m.volume.file = some bytes)
    (loads : Loads F bytes cbor configuration) :
    Consistent F { m with
      storedInfo := storedInfoOf F bytes
      configuration := some configuration } false where
  mounted := consistent.mounted
  saving := consistent.saving
  runs _ := by
    rintro _ ⟨⟩
    exact ⟨bytes, cbor, configuration, file, loads, Or.inl rfl, rfl, rfl⟩
  rejected := consistent.rejected
  nonempty := consistent.nonempty
  missing absent := by
    rw [file] at absent
    cases absent

/-- A file that is only read leaves its size and CRC. -/
theorem Consistent.read (consistent : Consistent F m isAdopted) {bytes : List UInt8}
    (file : m.volume.file = some bytes) :
    Consistent F { m with storedInfo := storedInfoOf F bytes } isAdopted where
  mounted := consistent.mounted
  saving := consistent.saving
  runs applied configuration isConfiguration := by
    obtain ⟨bytes', cbor, stored, isFile, loads, same, -⟩ :=
      consistent.runs applied configuration isConfiguration
    cases file.symm.trans isFile
    exact ⟨bytes, cbor, stored, file, loads, same, rfl, rfl⟩
  rejected := consistent.rejected
  nonempty := consistent.nonempty
  missing absent := by
    rw [file] at absent
    cases absent

/-- The default that stands in for a rejected file is not saved. -/
theorem Consistent.standIn (consistent : Consistent F m isAdopted) (env : Environment) :
    ∃ configuration calls,
      (let off := { m with isStoredConfigurationRejected := true, isSavingEnabled := false }
      { (off.createDefaultConfiguration F env).2 with isSavingEnabled := true }) =
        { m with
          configuration
          isStoredConfigurationRejected := true
          handlerCalls := calls } := by
  unfold Manager.createDefaultConfiguration Manager.update Manager.store
  cases F.serialize F.defaultConfiguration with
  | error what => exact ⟨m.configuration, m.handlerCalls, by simp [consistent.saving]⟩
  | ok cbor =>
    dsimp only
    cases F.deserialize cbor with
    | error what => exact ⟨m.configuration, m.handlerCalls, by simp [consistent.saving]⟩
    | ok updated =>
      dsimp only
      rw [save_disabled rfl]
      simp only [Bool.not_true, Bool.false_eq_true, if_false]
      obtain ⟨calls, notified⟩ := notifyStored_eq (Manager.setConfiguration updated
        { m with isStoredConfigurationRejected := true, isSavingEnabled := false })
      rw [notified]
      exact ⟨some updated, calls, by simp [Manager.setConfiguration, consistent.saving]⟩

/-- The configuration does not matter while the file is rejected. -/
theorem Consistent.reject (consistent : Consistent F m isAdopted) {bytes : List UInt8}
    (file : m.volume.file = some bytes) (unloadable : ¬ Loadable F bytes)
    (configuration : Option Config) (calls : ℕ) (byAdopt : Bool) :
    Consistent F { m with
      configuration
      isStoredConfigurationRejected := true
      handlerCalls := calls } byAdopt where
  mounted := consistent.mounted
  saving := consistent.saving
  runs := nofun
  rejected _ := ⟨bytes, file, unloadable⟩
  nonempty := consistent.nonempty
  missing := consistent.missing

theorem Consistent.loadOrCreateDefault (pair : ParserPair F) (consistent : Consistent F m isAdopted)
    (reliable : Reliable env (encoding F F.defaultConfiguration)) :
    Consistent F (m.loadOrCreateDefault F env).2
        (!(m.loadOrCreateDefault F env).1 && isAdopted) ∧
      ∀ bytes, m.volume.file = some bytes → ¬ Loadable F bytes →
        (m.loadOrCreateDefault F env).2.volume = m.volume := by
  have cases := get_loadCases (F := F) consistent.mounted reliable.load
  unfold Manager.loadOrCreateDefault
  generalize m.get F env true = result at cases
  cases cases with
  | missing absent =>
    -- Nothing stored: the default is saved, or the save fails and nothing changes.
    have size := consistent.missing absent
    dsimp only
    rw [if_neg (by omega)]
    refine ⟨?_, fun bytes file => by rw [absent] at file; cases file⟩
    rcases consistent.update pair reliable with refused | ⟨stored, after⟩
    · change Consistent F (m.update F env F.defaultConfiguration).2
        (!(m.update F env F.defaultConfiguration).1 && isAdopted)
      rw [refused]
      exact consistent
    · change Consistent F (m.update F env F.defaultConfiguration).2
        (!(m.update F env F.defaultConfiguration).1 && isAdopted)
      rw [stored]
      exact after
  | rejected bytes file unloadable result failed =>
    have read := consistent.read file
    have size : 0 < (storedInfoOf F bytes).size :=
      List.length_pos_iff.mpr (consistent.nonempty bytes file unloadable)
    -- The default runs in its place without a save, so the file keeps its bytes.
    obtain ⟨configuration, calls, standIn⟩ := read.standIn env
    have after : ∀ byAdopt, Consistent F
        ({ (Manager.createDefaultConfiguration F env
          { m with
            storedInfo := storedInfoOf F bytes
            isStoredConfigurationRejected := true
            isSavingEnabled := false }).2 with isSavingEnabled := true }) byAdopt ∧
        (Manager.createDefaultConfiguration F env
          { m with
            storedInfo := storedInfoOf F bytes
            isStoredConfigurationRejected := true
            isSavingEnabled := false }).2.volume = m.volume := by
      intro byAdopt
      dsimp only at standIn
      have volume := congrArg Manager.volume standIn
      refine ⟨?_, volume⟩
      rw [standIn]
      exact read.reject file unloadable configuration calls byAdopt
    match result, failed with
    | .ok (some configuration), failed => exact absurd rfl (failed configuration)
    | .ok none, _ =>
      dsimp only
      rw [if_pos size]
      exact ⟨(after _).1, fun _ _ _ => (after false).2⟩
    | .error what, _ =>
      dsimp only
      rw [if_pos size]
      exact ⟨(after _).1, fun _ _ _ => (after false).2⟩
  | loaded bytes cbor configuration file loads =>
    exact ⟨consistent.loaded file loads, fun _ _ _ => rfl⟩

/-! ### Runs -/

theorem operate_get (env : Environment) (m : Manager Config) (forceLoad : Bool) :
    (m.operate F env (.get forceLoad)).2 = (m.get F env forceLoad).2 := by
  simp only [Manager.operate]
  split
  · next found => rw [found]
  · next found => rw [found]

theorem operate_getCborConfiguration (env : Environment) (m : Manager Config) :
    (m.operate F env .getCborConfiguration).2 = (m.getCborConfiguration F env).2 := by
  simp only [Manager.operate]
  split
  · next found => rw [found]
  · next found => rw [found]

theorem get_running {configuration : Config} (running : m.configuration = some configuration) :
    m.get F env false = (.ok (some configuration), m) := by
  simp [Manager.get, running]

theorem get_of_idle (idle : m.configuration = none) : m.get F env false = m.get F env true := by
  simp [Manager.get, idle]

/-- A load, or an answer from memory. -/
theorem Consistent.get (consistent : Consistent F m isAdopted) (accepted : env.load.accepted = true)
    (forceLoad : Bool) :
    Consistent F (m.get F env forceLoad).2
        (!((forceLoad || m.configuration.isNone) &&
          m.volume.file.any fun bytes => decide (Loadable F bytes)) && isAdopted) ∧
      (m.get F env forceLoad).2.volume = m.volume := by
  by_cases loads : (forceLoad || m.configuration.isNone) = true
  · have same : m.get F env forceLoad = m.get F env true := by
      cases forceLoad with
      | true => rfl
      | false => exact get_of_idle (by simpa using loads)
    have cases := get_loadCases (F := F) consistent.mounted accepted
    rw [same, loads]
    generalize m.get F env true = result at cases
    cases cases with
    | missing absent => simpa [absent] using consistent
    | rejected bytes file unloadable result failed =>
      simpa [file, unloadable] using consistent.read file
    | loaded bytes cbor configuration file loads =>
      have loadable : Loadable F bytes := ⟨cbor, configuration, loads⟩
      simpa [file, loadable] using consistent.loaded file loads
  · obtain ⟨memory, running⟩ : forceLoad = false ∧ m.configuration.isSome = true := by
      simpa [Option.isSome_iff_ne_none] using loads
    obtain ⟨configuration, running⟩ := Option.isSome_iff_exists.mp running
    subst memory
    rw [get_running running]
    simpa [running] using consistent

theorem Consistent.loadRaw (consistent : Consistent F m isAdopted) (dispatch : Dispatch) :
    Consistent F (m.loadRaw F dispatch).2 isAdopted ∧
      (m.loadRaw F dispatch).2.volume = m.volume := by
  unfold Manager.loadRaw
  split_ifs
  · exact ⟨consistent, rfl⟩
  · cases file : m.volume.file with
    | none => exact ⟨consistent, rfl⟩
    | some bytes => exact ⟨consistent.read file, rfl⟩

theorem Consistent.getCborConfiguration (consistent : Consistent F m isAdopted)
    (accepted : env.load.accepted = true) :
    Consistent F (m.getCborConfiguration F env).2
        (!(m.configuration.isNone && m.volume.file.any fun bytes => decide (Loadable F bytes)) &&
          isAdopted) ∧
      (m.getCborConfiguration F env).2.volume = m.volume := by
  have got := consistent.get accepted false
  rw [Bool.false_or] at got
  unfold Manager.getCborConfiguration
  rcases found : m.get F env false with ⟨_ | _ | configuration, next⟩
  · rw [found] at got
    exact got
  · rw [found] at got
    exact got
  · rw [found] at got
    have read := got.1.loadRaw env.load
    dsimp only at got read ⊢
    rcases raw : next.loadRaw F env.load with ⟨_ | _, after⟩
    · rw [raw] at read
      exact ⟨read.1, read.2.trans got.2⟩
    · rw [raw] at read
      exact ⟨read.1, read.2.trans got.2⟩

/-- A request is refused and changes nothing, or it stores a configuration. -/
theorem Consistent.request (pair : ParserPair F) (consistent : Consistent F m isAdopted)
    {r : Request Config} (reliable : Reliable env ((Operation.request r).bytes F)) :
    m.request F env r = (false, m) ∨
      (m.request F env r).1 = true ∧
        Consistent F (m.request F env r).2 (match r with | .adopt _ => true | _ => false) := by
  cases r with
  | update configuration => exact consistent.update pair reliable
  | updateOwnSetting configuration =>
    rcases consistent.store pair reliable with refused | ⟨stored, after⟩
    · exact Or.inl refused
    · exact Or.inr ⟨stored, after _⟩
  | adopt configuration => exact consistent.adopt pair reliable
  | applyCborConfiguration cborData => exact consistent.apply reliable

namespace Tracked

variable {tracked : Tracked Config}

/-- What holds in every state of a run. -/
structure Sound (F : Format Config Cbor) (tracked : Tracked Config) : Prop where
  consistent : Consistent F tracked.manager tracked.isAdopted
  kept : ∀ bytes, tracked.rejectedFile = some bytes →
    tracked.manager.volume.file = some bytes ∧ ¬ Loadable F bytes

/-- The file that a load rejects is still there. -/
theorem kept_of_filter {file after : Option (List UInt8)}
    (same : ∀ bytes, file = some bytes → ¬ Loadable F bytes → after = file) :
    ∀ bytes, file.filter (fun bytes => !decide (Loadable F bytes)) = some bytes →
      after = some bytes ∧ ¬ Loadable F bytes := by
  intro bytes rejected
  obtain ⟨isFile, unloadable⟩ := Option.filter_eq_some_iff.mp rejected
  have unloadable : ¬ Loadable F bytes := by simpa using unloadable
  exact ⟨(same bytes isFile unloadable).trans isFile, unloadable⟩

theorem Sound.step (pair : ParserPair F) (sound : tracked.Sound F) (operation : Operation Config)
    {env : Environment} (reliable : Reliable env (operation.bytes F)) :
    (tracked.step F (operation, env)).Sound F := by
  obtain ⟨consistent, kept⟩ := sound
  cases operation with
  | loadOrCreateDefault default =>
    -- The invariant does not read the default, so it may be another at every start.
    have pair' : ParserPair { F with defaultConfiguration := default } :=
      ⟨pair.accepts, pair.decodes⟩
    have consistent' : Consistent { F with defaultConfiguration := default } tracked.manager
        tracked.isAdopted :=
      ⟨consistent.mounted, consistent.saving, consistent.runs, consistent.rejected,
        consistent.nonempty, consistent.missing⟩
    obtain ⟨after, volume⟩ := consistent'.loadOrCreateDefault pair' reliable
    exact
      { consistent := ⟨after.mounted, after.saving, after.runs, after.rejected, after.nonempty,
          after.missing⟩
        kept := kept_of_filter fun bytes file unloadable =>
          congrArg Volume.file (volume bytes file unloadable) }
  | get forceLoad =>
    obtain ⟨after, volume⟩ := consistent.get reliable.load forceLoad
    rw [← operate_get] at after volume
    refine ⟨after, ?_⟩
    change ∀ bytes, (if (forceLoad || tracked.manager.configuration.isNone) = true then _ else _) =
      some bytes → _
    split_ifs
    · exact kept_of_filter fun _ _ _ => congrArg Volume.file volume
    · intro bytes rejected
      obtain ⟨file, unloadable⟩ := kept bytes rejected
      exact ⟨(congrArg Volume.file volume).trans file, unloadable⟩
  | request r =>
    have requested := consistent.request pair reliable
    rcases result : tracked.manager.request F env r with ⟨succeeds, next⟩
    rw [result] at requested
    simp only [Tracked.step, Manager.operate, result]
    -- A refused request changes nothing; one that succeeds stores a file that loads.
    rcases requested with refused | ⟨stored, after⟩
    · cases refused
      cases r with
      | adopt configuration => exact ⟨consistent, kept⟩
      | _ => exact ⟨consistent, kept⟩
    · dsimp only at stored
      subst stored
      cases r with
      | adopt configuration => exact ⟨after, nofun⟩
      | _ => exact ⟨after, nofun⟩
  | getCborConfiguration =>
    obtain ⟨after, volume⟩ := consistent.getCborConfiguration reliable.load
    rw [← operate_getCborConfiguration] at after volume
    refine ⟨after, ?_⟩
    change ∀ bytes, (if tracked.manager.configuration.isNone = true then _ else _) =
      some bytes → _
    split_ifs
    · exact kept_of_filter fun _ _ _ => congrArg Volume.file volume
    · intro bytes rejected
      obtain ⟨file, unloadable⟩ := kept bytes rejected
      exact ⟨(congrArg Volume.file volume).trans file, unloadable⟩

theorem Sound.inStep (sound : tracked.Sound F) : tracked.InStep F where
  runs configuration running applied := by
    have info : tracked.manager.getCborConfigurationInfo =
        { tracked.manager.storedInfo with
          isApplied := !tracked.manager.isStoredConfigurationRejected } := by
      rw [Manager.getCborConfigurationInfo, running]
    rw [info] at applied ⊢
    exact sound.consistent.runs (by simpa using applied) configuration running
  kept bytes rejected := (sound.kept bytes rejected).1

/-- A manager as it is made, on a volume with no file or one that is not empty. -/
theorem sound_initial {file : Option (List UInt8)} (nonempty : file ≠ some []) :
    Sound F { manager := Manager.initial ⟨true, file⟩ } where
  consistent :=
    { mounted := rfl
      saving := rfl
      runs := nofun
      rejected := nofun
      nonempty := by
        rintro _ isFile - rfl
        exact nonempty isFile
      missing := fun _ => rfl }
  kept := nofun

/-- In every state of a run whose file operations succeed, what runs is what a restart would load,
and a rejected file is kept. -/
theorem inStep_always (pair : ParserPair F) {file : Option (List UInt8)}
    (nonempty : file ≠ some []) (calls : List (Operation Config × Environment))
    (reliable : ∀ call ∈ calls, Reliable call.2 (call.1.bytes F)) :
    Always (step F) (InStep F) { manager := Manager.initial ⟨true, file⟩ } calls := by
  have sound : Always (step F) (Sound F) { manager := Manager.initial ⟨true, file⟩ } calls :=
    Along.always (sound_initial nonempty)
      (fun _ call sound reliable => sound.step pair call.1 reliable)
      (along_of_forall_mem reliable)
  exact sound.imp fun _ sound => sound.inStep

/-! ### A rejected file -/

/-- Surroundings in which a write of two bytes succeeds. -/
def twoBytes : Environment := ⟨.inline, .inline, ⟨0, 2, 0, .kept⟩⟩

theorem numberFormat_parserPair : ParserPair Manager.numberFormat where
  accepts {number cbor} serialized := by
    simp only [Manager.numberFormat] at serialized ⊢
    split_ifs at serialized with small
    cases serialized
    exact ⟨number, by rw [if_neg small]⟩
  decodes {_ cbor bytes} _ encoded := by
    cases encoded
    rfl

/-- The file of a number that is out of range is kept while the default 24 runs, until 77 is
applied. -/
theorem inStep_rejectedNumber :
    Always (step Manager.numberFormat) (InStep Manager.numberFormat)
        { manager := Manager.initial ⟨true, some [0x18, 7]⟩ }
        [(.loadOrCreateDefault 24, twoBytes),
          (.request (.applyCborConfiguration [0x18, 77]), twoBytes)] ∧
      (run (step Manager.numberFormat) { manager := Manager.initial ⟨true, some [0x18, 7]⟩ }
        [(.loadOrCreateDefault 24, twoBytes)]).rejectedFile = some [0x18, 7] := by
  refine ⟨inStep_always numberFormat_parserPair (by decide) _ ?_, by decide⟩
  intro call member
  simp only [List.mem_cons, List.not_mem_nil, or_false] at member
  rcases member with rfl | rfl
  · exact ⟨rfl, rfl, by decide, by decide, by decide⟩
  · exact ⟨rfl, rfl, by decide, by decide, by decide⟩

end Tracked

end RtCore.Configuration
