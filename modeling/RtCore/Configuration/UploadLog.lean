import RtCore.Configuration.ConfigMgmtGroup
import Mathlib.Data.UInt

/-!
# What is applied was uploaded

The log of a group says what its clients and the managers see. `Legal` is the specification of such
a log: one session at a time, chunks that follow each other, an apply of exactly the bytes that were
declared and accepted, which ends its session, and no answer for the last byte before that apply.
The invariant `Sound` ties the log to the session the group keeps, over every interleaving of
requests, jobs, the idle task and the clock.

## Main definitions

* `openSessions`, `acceptedBytes` — what a log says of sessions
* `Allowed`, `Legal` — which events may follow a log
* `Spares` — a request leaves the sessions of others alone

## Main results

* `ConfigMgmtGroup.uploads` — every run is legal and spares the sessions of others
-/

namespace RtCore.Configuration

open RtCore.Foundation

/-! ### Logs -/

/-- The sessions that were opened and not closed. -/
def openSessions : List UploadEvent → List ℕ
  | [] => []
  | .opened number .. :: before => number :: openSessions before
  | .closed number :: before => (openSessions before).erase number
  | _ :: before => openSessions before

/-- The bytes of the chunks that were accepted for a session, in order. -/
def acceptedBytes (number : ℕ) : List UploadEvent → List UInt8
  | [] => []
  | .accepted other request :: before =>
    acceptedBytes number before ++ if other = number then request.data else []
  | _ :: before => acceptedBytes number before

/-- An event that may follow the log. -/
def Allowed (crc32 : List UInt8 → UInt32) (before : List UploadEvent) : UploadEvent → Prop
  | .opened _ _ _ _ _ => openSessions before = []
  | .accepted number request =>
    openSessions before = [number] ∧
      ∃ type length crc token, .opened number type length crc token ∈ before ∧
        request.type.toNat = type.toNat ∧
        request.offset.toNat = (acceptedBytes number before).length ∧
        (request.offset = 0 → request.length = some length ∧ request.crc = some crc) ∧
        (request.offset ≠ 0 → request.token = some token)
  | .closed number => openSessions before = [number]
  | .applied number type bytes _ =>
    openSessions before = [number] ∧
      ∃ length crc token, .opened number type length crc token ∈ before ∧
        bytes = acceptedBytes number before ∧ bytes.length = length.toNat ∧ crc32 bytes = crc
  | .answered number (.written received _) =>
    ∀ type length crc token, .opened number type length crc token ∈ before →
      received = length.toNat →
        .applied number type (acceptedBytes number before) .applied ∈ before
  | .answered _ _ => True

/-- An apply ends its session. -/
def EndsApply (before : List UploadEvent) (event : UploadEvent) : Prop :=
  ∀ number type bytes outcome, before.head? = some (.applied number type bytes outcome) →
    event = .closed number

/-- A log of uploads. -/
def Legal (crc32 : List UInt8 → UInt32) : List UploadEvent → Prop
  | [] => True
  | event :: before => Allowed crc32 before event ∧ EndsApply before event ∧ Legal crc32 before

/-- No apply is waiting for its session to end. -/
def Settled (log : List UploadEvent) : Prop :=
  ∀ number type bytes outcome, log.head? ≠ some (.applied number type bytes outcome)

namespace ConfigMgmtGroup

variable (config : UploadConfig) (group : ConfigMgmtGroup)

/-! ### Sessions of others -/

/-- The request in progress. -/
def requestInProgress : Option WriteRequest :=
  match group.handler with
  | .idle => none
  | .check request | .stage request | .fill request | .apply request _ _ => some request

/-- The session is the one that the request in progress opened. -/
def ownsSession : Bool :=
  match group.handler with
  | .fill request | .apply request _ _ => request.offset = 0
  | _ => false

/-- A request with another token than that of an open session, which it did not open, is in
progress. -/
def Foreign (request : WriteRequest) : Prop :=
  group.requestInProgress = some request ∧ group.isOpen config = true ∧
    request.token ≠ some group.session.token ∧ group.ownsSession = false

/-- While a request with another token is in progress, a step leaves the session as it is; a repeat
of the first chunk renews its activity. -/
def Spares (label : UploadLabel) : Prop :=
  ∀ request, group.Foreign config request →
    (group.step config label).session = group.session ∨
      group.isRepeat request = true ∧
        (group.step config label).session =
          { group.session with lastActivityMs := group.clock }

/-! ### The invariant -/

/-- The open session is in the log as the group keeps it. -/
structure Kept : Prop where
  opened : ∃ length, .opened group.number group.session.type length group.session.crc
    group.session.token ∈ group.log ∧ length.toNat = group.session.data.length
  bounded : group.session.received ≤ group.session.data.length
  bytes : acceptedBytes group.number group.log =
    group.session.data.take group.session.received

/-- What holds where the handler is, when a session is open. -/
def HandlerSound : Prop :=
  match group.handler with
  | .idle | .check _ => group.session.received < group.session.data.length
  | .stage request =>
    group.session.received < group.session.data.length ∧
      (request.token = some group.session.token ∨
        config.sessionTimeoutMs ≤ group.clock - group.session.lastActivityMs)
  | .fill request =>
    if request.offset = 0 then
      group.session.received = 0 ∧ group.session.type = request.configType ∧
        group.session.crc = request.crc.getD 0 ∧
        group.session.data.length = (request.length.getD 0).toNat
    else group.session.received < group.session.data.length
  | .apply request token received =>
    group.session.token = token ∧ group.session.received = received ∧
      received = group.session.data.length ∧
      (request.offset ≠ 0 → request.token = some token)

/-- The request in progress passed the checks of `HandleWrite`. -/
structure RequestSound : Prop where
  keys : ∀ request, group.requestInProgress = some request → request.type ≤ 255 ∧
    (request.offset = 0 → request.length.isSome = true ∧ request.crc.isSome = true)
  first : ∀ request, group.handler = .check request ∨ group.handler = .stage request →
    request.offset = 0

/-- What the log says of the session that is open, or was open last. -/
structure LogSound : Prop where
  legal : Legal config.crc32 group.log
  opens : openSessions group.log = if group.session.token = 0 then [] else [group.number]
  numbered : ∀ {number type length crc token},
    UploadEvent.opened number type length crc token ∈ group.log → number ≤ group.number
  unique : ∀ {number type length crc token type' length' crc' token'},
    UploadEvent.opened number type length crc token ∈ group.log →
      UploadEvent.opened number type' length' crc' token' ∈ group.log →
        type = type' ∧ length = length'
  fresh : ∀ {number}, group.number < number → acceptedBytes number group.log = []
  kept : group.session.token ≠ 0 → group.Kept
  tasks : group.session.token ≠ 0 → config.hasTasks = true

/-- What holds in every state. -/
structure Sound : Prop extends group.LogSound config where
  settled : Settled group.log
  handler : group.session.token ≠ 0 → group.HandlerSound config
  request : group.RequestSound

variable {config group}

/-- A step that changes neither the log nor what is uploaded. -/
theorem LogSound.frame (sound : group.LogSound config) {after : ConfigMgmtGroup}
    (log : after.log = group.log) (number : after.number = group.number)
    (session : after.session = { group.session with
      lastActivityMs := after.session.lastActivityMs }) : after.LogSound config := by
  obtain ⟨clock, session', handler, number', log'⟩ := after
  subst log number
  dsimp only at session
  rw [session]
  exact
    { legal := sound.legal
      opens := sound.opens
      numbered := sound.numbered
      unique := sound.unique
      fresh := sound.fresh
      kept := fun isOpen =>
        ⟨(sound.kept isOpen).opened, (sound.kept isOpen).bounded, (sound.kept isOpen).bytes⟩
      tasks := sound.tasks }

/-! ### Answers -/

theorem EndsApply.of_settled {log : List UploadEvent} (settled : Settled log)
    (event : UploadEvent) : EndsApply log event :=
  fun number type bytes outcome head => absurd head (settled number type bytes outcome)

theorem LogSound.answer (sound : group.LogSound config) (settled : Settled group.log)
    {answer : Answer} (allowed : Allowed config.crc32 group.log (.answered group.number answer))
    (incomplete : group.session.token ≠ 0 → group.session.received < group.session.data.length) :
    (group.respond answer).Sound config where
  legal := ⟨allowed, EndsApply.of_settled settled _, sound.legal⟩
  opens := sound.opens
  numbered member := sound.numbered (by simpa [respond] using member)
  unique first second :=
    sound.unique (by simpa [respond] using first) (by simpa [respond] using second)
  fresh := sound.fresh
  kept isOpen := by
    obtain ⟨⟨length, opened, isLength⟩, bounded, bytes⟩ := sound.kept isOpen
    exact ⟨⟨length, List.mem_cons_of_mem _ opened, isLength⟩, bounded, bytes⟩
  tasks := sound.tasks
  settled := nofun
  handler := incomplete
  request := ⟨nofun, nofun⟩

theorem LogSound.close (sound : group.LogSound config)
    (ends : EndsApply group.log (.closed group.number)) :
    group.closeSessionLocked.LogSound config := by
  unfold closeSessionLocked
  by_cases closed : group.session.token = 0
  · rw [if_pos closed]
    exact
      { legal := sound.legal
        opens := by
          rw [sound.opens, if_pos closed, if_pos rfl]
        numbered := sound.numbered
        unique := sound.unique
        fresh := sound.fresh
        kept := nofun
        tasks := nofun }
  · have opens := sound.opens
    rw [if_neg closed] at opens ⊢
    exact
      { legal := ⟨opens, ends, sound.legal⟩
        opens := by simp [openSessions, opens]
        numbered := fun member => sound.numbered (by simpa using member)
        unique := fun first second =>
          sound.unique (by simpa using first) (by simpa using second)
        fresh := sound.fresh
        kept := nofun
        tasks := nofun }

theorem settled_close (settled : group.session.token = 0 → Settled group.log) :
    Settled group.closeSessionLocked.log := by
  unfold closeSessionLocked
  by_cases closed : group.session.token = 0
  · rw [if_pos closed]
    exact settled closed
  · rw [if_neg closed]
    nofun

/-- A request that closes the session and is answered. -/
theorem LogSound.closeAndAnswer (sound : group.LogSound config)
    (ends : EndsApply group.log (.closed group.number))
    (settled : group.session.token = 0 → Settled group.log) {answer : Answer}
    (allowed : Allowed config.crc32 group.closeSessionLocked.log
      (.answered group.number answer)) :
    (group.closeSessionLocked.respond answer).Sound config :=
  (sound.close ends).answer (settled_close settled) allowed nofun

theorem Sound.closeAndFail (sound : group.Sound config) (error : ConfigError) :
    (group.closeSessionLocked.fail error).Sound config :=
  sound.toLogSound.closeAndAnswer (EndsApply.of_settled sound.settled _)
    (fun _ => sound.settled) trivial

/-- The idle task, or a request that finds the session timed out, closes it. -/
theorem Sound.close (sound : group.Sound config) : group.closeSessionLocked.Sound config :=
  { sound.toLogSound.close (EndsApply.of_settled sound.settled _) with
    settled := settled_close fun _ => sound.settled
    handler := nofun
    request := ⟨sound.request.keys, sound.request.first⟩ }

/-- An answer before the last byte. -/
theorem LogSound.written (sound : group.LogSound config) (isOpen : group.session.token ≠ 0)
    (incomplete : group.session.received < group.session.data.length) (token : UInt32) :
    Allowed config.crc32 group.log
      (.answered group.number (.written group.session.received token)) := by
  intro type length crc token' opened isLast
  obtain ⟨length', opened', isLength⟩ := (sound.kept isOpen).opened
  rw [(sound.unique opened opened').2, isLength] at isLast
  omega

/-! ### Requests -/

/-- The handler goes on. -/
theorem Sound.goto (sound : group.Sound config) {next : HandlerStep}
    (handler : group.session.token ≠ 0 → HandlerSound config { group with handler := next })
    (request : RequestSound { group with handler := next }) :
    Sound config { group with handler := next } :=
  { toLogSound := sound.toLogSound.frame rfl rfl rfl
    settled := sound.settled
    handler
    request }

theorem Sound.handleWrite (sound : group.Sound config) (idle : group.handler = .idle)
    (request : Option WriteRequest) : (group.handleWrite config request).Sound config := by
  -- Between two requests the open session still waits for bytes, so every early answer leaves it as
  -- it is.
  have incomplete : group.session.token ≠ 0 →
      group.session.received < group.session.data.length := by
    intro isOpen
    have handler := sound.handler isOpen
    rwa [HandlerSound, idle] at handler
  have answer : ∀ answer, Allowed config.crc32 group.log (.answered group.number answer) →
      (group.respond answer).Sound config :=
    fun answer allowed => sound.toLogSound.answer sound.settled allowed incomplete
  cases request with
  | none => exact answer _ trivial
  | some request =>
    unfold ConfigMgmtGroup.handleWrite
    dsimp only
    by_cases missing :
        (request.offset = 0 && (request.length.isNone || request.crc.isNone)) = true
    · rw [if_pos missing]
      exact answer _ trivial
    have keys : request.offset = 0 →
        request.length.isSome = true ∧ request.crc.isSome = true := by
      intro first
      simpa [first, Option.isSome_iff_ne_none] using missing
    rw [if_neg missing]
    by_cases known : request.type ≤ 255
    · rw [if_pos known]
      cases config.maxCborSize request.configType with
      | none => exact answer _ trivial
      | some maxCborSize =>
        dsimp only
        split_ifs with first large
        · exact answer _ trivial
        · refine sound.goto incomplete ⟨?_, ?_⟩
          · rintro _ ⟨⟩
            exact ⟨known, keys⟩
          · rintro _ (⟨⟨⟩⟩ | ⟨⟨⟩⟩)
            exact first
        · refine sound.goto (fun isOpen => ?_) ⟨?_, ?_⟩
          · dsimp only [HandlerSound]
            rw [if_neg first]
            exact incomplete isOpen
          · rintro _ ⟨⟩
            exact ⟨known, keys⟩
          · rintro _ (⟨⟨⟩⟩ | ⟨⟨⟩⟩)
    · rw [if_neg known]
      exact answer _ trivial

theorem Sound.check (sound : group.Sound config) {request : WriteRequest}
    (atCheck : group.handler = .check request) : (group.check config request).Sound config := by
  have incomplete : group.session.token ≠ 0 →
      group.session.received < group.session.data.length := by
    intro isOpen
    have handler := sound.handler isOpen
    rwa [HandlerSound, atCheck] at handler
  unfold ConfigMgmtGroup.check
  by_cases other : (group.isOpen config && request.token ≠ some group.session.token) = true
  · rw [if_pos other]
    have isOpen : group.session.token ≠ 0 := by
      simp only [ConfigMgmtGroup.isOpen, Bool.and_eq_true, bne_iff_ne] at other
      exact other.1.1
    split_ifs with isRepeat
    · exact sound.toLogSound.answer sound.settled trivial incomplete
    · have framed : LogSound config
          { group with session := { group.session with lastActivityMs := group.clock } } :=
        sound.toLogSound.frame rfl rfl rfl
      exact framed.answer sound.settled
        (sound.toLogSound.written isOpen (incomplete isOpen) _) incomplete
  · rw [if_neg other]
    refine sound.goto (fun isOpen => ⟨incomplete isOpen, ?_⟩) ⟨?_, ?_⟩
    · simp only [ConfigMgmtGroup.isOpen, Bool.and_eq_true, bne_iff_ne, isOpen, ne_eq,
        not_false_eq_true, true_and, decide_eq_true_eq, not_and, not_not] at other
      -- The session that is replaced is the request's own, or it timed out.
      by_cases recent : group.clock - group.session.lastActivityMs < config.sessionTimeoutMs
      · exact Or.inl (other recent)
      · exact Or.inr (not_lt.mp recent)
    · rintro _ ⟨⟩
      exact sound.request.keys request (by rw [requestInProgress, atCheck])
    · rintro _ (⟨⟨⟩⟩ | ⟨⟨⟩⟩)
      exact sound.request.first request (Or.inl atCheck)

theorem Sound.stage (sound : group.Sound config) {request : WriteRequest}
    (atStage : group.handler = .stage request) (thrown : Option ConfigError) (token : UInt32) :
    (group.stage config request thrown token).Sound config := by
  unfold ConfigMgmtGroup.stage
  by_cases noTasks : (!config.hasTasks) = true
  · rw [if_pos noTasks]
    refine sound.toLogSound.answer sound.settled trivial fun isOpen => ?_
    have handler := sound.handler isOpen
    rw [HandlerSound, atStage] at handler
    exact handler.1
  rw [if_neg noTasks]
  cases thrown with
  | some error => exact sound.closeAndFail error
  | none =>
    dsimp only
    by_cases zero : token = 0
    · rw [if_pos zero]
      exact sound
    rw [if_neg zero]
    -- The old session is closed first, so the new one is the only one open.
    have closed := sound.close
    have opens : openSessions group.closeSessionLocked.log = [] := closed.opens
    have first := sound.request.first request (Or.inr atStage)
    exact
      { legal := ⟨opens, EndsApply.of_settled closed.settled _, closed.legal⟩
        opens := by
          rw [openSessions, opens, if_neg zero]
        numbered := fun member => by
          rcases List.mem_cons.mp member with new | old
          · cases new
            exact le_rfl
          · exact Nat.le_succ_of_le (closed.numbered old)
        unique := fun member member' => by
          rcases List.mem_cons.mp member with new | old
          · rcases List.mem_cons.mp member' with new' | old'
            · cases new
              cases new'
              exact ⟨rfl, rfl⟩
            · cases new
              exact absurd (closed.numbered old') (by simp)
          · rcases List.mem_cons.mp member' with new' | old'
            · cases new'
              exact absurd (closed.numbered old) (by simp)
            · exact closed.unique old old'
        fresh := fun later => closed.fresh (Nat.lt_of_succ_lt later)
        kept := fun _ =>
          { opened := ⟨_, List.mem_cons_self, by simp⟩
            bounded := Nat.zero_le _
            bytes := by
              rw [List.take_zero]
              exact closed.fresh (Nat.lt_succ_self _) }
        tasks := fun _ => by simpa using noTasks
        settled := nofun
        handler := fun _ => by
          dsimp only [HandlerSound]
          rw [if_pos first]
          exact ⟨rfl, rfl, rfl, List.length_replicate⟩
        request :=
          ⟨by rintro _ ⟨⟩; exact sound.request.keys request (by rw [requestInProgress, atStage]),
            by rintro _ (⟨⟨⟩⟩ | ⟨⟨⟩⟩)⟩ }

theorem LogSound.copyChunk (sound : group.LogSound config) (settled : Settled group.log)
    {request : WriteRequest} (isOpen : group.session.token ≠ 0)
    (known : request.type ≤ 255) (type : group.session.type = request.configType)
    (offset : request.offset.toNat = group.session.received)
    (fits : group.session.received + request.data.length ≤ group.session.data.length)
    (first : request.offset = 0 →
      request.length.map UInt32.toNat = some group.session.data.length ∧
        request.crc = some group.session.crc)
    (next : request.offset ≠ 0 → request.token = some group.session.token) :
    (group.copyChunk request).LogSound config := by
  -- The chunk is logged as accepted before it is answered; the bytes accepted are the ones
  -- received.
  obtain ⟨⟨length, opened, isLength⟩, bounded, bytes⟩ := sound.kept isOpen
  have opens : openSessions group.log = [group.number] := by
    rw [sound.opens, if_neg isOpen]
  refine
    { legal := ⟨⟨opens, group.session.type, length, group.session.crc, group.session.token, opened,
          ?_, ?_, fun zero => ⟨?_, (first zero).2⟩, next⟩,
        EndsApply.of_settled settled _, sound.legal⟩
      opens := sound.opens
      numbered := fun member => sound.numbered (by simpa [ConfigMgmtGroup.copyChunk] using member)
      unique := fun member member' => sound.unique
        (by simpa [ConfigMgmtGroup.copyChunk] using member)
        (by simpa [ConfigMgmtGroup.copyChunk] using member')
      fresh := fun {number} later => ?_
      kept := fun _ =>
        { opened := ⟨length, List.mem_cons_of_mem _ opened, ?_⟩
          bounded := ?_
          bytes := ?_ }
      tasks := sound.tasks }
  · have small : request.type.toNat ≤ 255 := UInt32.le_iff_toNat_le.mp known
    rw [type, WriteRequest.configType, UInt32.toNat_toUInt8]
    omega
  · rw [offset, bytes, List.length_take_of_le bounded]
  · obtain ⟨declared, isDeclared, same⟩ := Option.map_eq_some_iff.mp (first zero).1
    rw [isDeclared, UInt32.toNat_inj.mp (same.trans isLength.symm)]
  · have other : group.number ≠ number := Nat.ne_of_lt later
    change acceptedBytes number group.log ++ (if group.number = number then _ else _) = []
    rw [sound.fresh later, if_neg other, List.append_nil]
  · simp only [ConfigMgmtGroup.copyChunk, List.length_append, List.length_take, List.length_drop]
    omega
  · simp only [ConfigMgmtGroup.copyChunk, List.length_append, List.length_take, List.length_drop]
    omega
  · change acceptedBytes group.number group.log ++
      (if group.number = group.number then request.data else []) = _
    rw [if_pos rfl, bytes]
    have front : (group.session.data.take group.session.received ++ request.data).length =
        group.session.received + request.data.length := by
      rw [List.length_append, List.length_take_of_le bounded]
    exact (List.take_left' front).symm

theorem Sound.takeChunk (sound : group.Sound config) {request : WriteRequest}
    (atFill : group.handler = .fill request) : (group.takeChunk request).Sound config := by
  have handler := sound.handler
  rw [HandlerSound, atFill] at handler
  have keys := sound.request.keys request (by rw [requestInProgress, atFill])
  unfold ConfigMgmtGroup.takeChunk
  -- A chunk is refused for the wrong session or the wrong place, closes a session it overflows, and
  -- is copied otherwise.
  by_cases mismatch : (group.session.token = 0 || group.session.type ≠ request.configType ||
      (request.offset ≠ 0 && request.token ≠ some group.session.token)) = true
  · rw [if_pos mismatch]
    refine sound.toLogSound.answer sound.settled trivial fun isOpen => ?_
    have handler := handler isOpen
    by_cases zero : request.offset = 0
    · dsimp only at handler
      rw [if_pos zero] at handler
      simp [isOpen, handler.2.1, zero] at mismatch
    · dsimp only at handler
      rwa [if_neg zero] at handler
  rw [if_neg mismatch]
  simp only [ne_eq, Bool.or_eq_true, decide_eq_true_eq, Bool.and_eq_true, not_or, not_not,
    not_and] at mismatch
  obtain ⟨⟨isOpen, type⟩, next⟩ := mismatch
  have handler := handler isOpen
  dsimp only at handler
  by_cases offset : request.offset.toNat ≠ group.session.received
  · rw [if_pos offset]
    refine sound.toLogSound.answer sound.settled trivial fun _ => ?_
    by_cases zero : request.offset = 0
    · rw [if_pos zero] at handler
      rw [zero, handler.1] at offset
      exact absurd rfl offset
    · rwa [if_neg zero] at handler
  rw [if_neg offset]
  have bounded := (sound.kept isOpen).bounded
  by_cases large :
      group.session.data.length - group.session.received < request.data.length
  · rw [if_pos large]
    exact sound.closeAndFail .tooLarge
  rw [if_neg large]
  have copied : (group.copyChunk request).LogSound config := by
    apply sound.toLogSound.copyChunk sound.settled isOpen keys.1 type (not_not.mp offset)
    · omega
    · intro zero
      obtain ⟨length, crc⟩ := keys.2 zero
      obtain ⟨length, isLength⟩ := Option.isSome_iff_exists.mp length
      obtain ⟨crc, isCrc⟩ := Option.isSome_iff_exists.mp crc
      rw [if_pos zero, isLength, isCrc] at handler
      rw [isLength, isCrc, handler.2.2.1, handler.2.2.2]
      exact ⟨rfl, rfl⟩
    · exact next
  have bounded := (copied.kept isOpen).bounded
  dsimp only
  -- The last byte leads to the apply, within the same request.
  by_cases complete : (group.copyChunk request).session.received =
      (group.copyChunk request).session.data.length
  · rw [if_pos complete]
    refine
      { toLogSound := copied.frame rfl rfl rfl
        settled := nofun
        handler := fun _ => ⟨rfl, rfl, complete, next⟩
        request := ⟨?_, ?_⟩ }
    · rintro _ ⟨⟩
      exact keys
    · rintro _ (⟨⟨⟩⟩ | ⟨⟨⟩⟩)
  · rw [if_neg complete]
    have incomplete := lt_of_le_of_ne bounded complete
    exact copied.answer nofun (copied.written isOpen incomplete _) fun _ => incomplete

theorem Sound.fill (sound : group.Sound config) {request : WriteRequest}
    (atFill : group.handler = .fill request) : (group.fill config request).Sound config := by
  unfold ConfigMgmtGroup.fill
  split_ifs with timedOut
  · exact sound.close.takeChunk atFill
  · exact sound.takeChunk atFill

/-- The call of `ApplyCborConfiguration` in the log. -/
theorem Sound.logApply (sound : group.Sound config) (isOpen : group.session.token ≠ 0)
    (complete : group.session.received = group.session.data.length)
    (crc : config.crc32 group.session.data = group.session.crc) (outcome : ApplyOutcome) :
    LogSound config { group with
      log :=
        .applied group.number group.session.type group.session.data outcome :: group.log } := by
  obtain ⟨⟨length, opened, isLength⟩, bounded, bytes⟩ := sound.kept isOpen
  have all : group.session.data = acceptedBytes group.number group.log := by
    rw [bytes, complete, List.take_length]
  have opens : openSessions group.log = [group.number] := by
    rw [sound.opens, if_neg isOpen]
  exact
    { legal := ⟨⟨opens, length, group.session.crc, group.session.token, opened, all,
        isLength.symm, crc⟩, EndsApply.of_settled sound.settled _, sound.legal⟩
      opens := sound.opens
      numbered := fun member => sound.numbered (by simpa using member)
      unique := fun member member' =>
        sound.unique (by simpa using member) (by simpa using member')
      fresh := sound.fresh
      kept := fun _ => ⟨⟨length, List.mem_cons_of_mem _ opened, isLength⟩, bounded, bytes⟩
      tasks := sound.tasks }

theorem Sound.apply (sound : group.Sound config) {request : WriteRequest} {token : UInt32}
    {received : ℕ} (atApply : group.handler = .apply request token received)
    (outcome : ApplyOutcome) :
    (group.apply config request token received outcome).Sound config := by
  have handler := sound.handler
  rw [HandlerSound, atApply] at handler
  unfold ConfigMgmtGroup.apply
  dsimp only
  by_cases noTasks : (!config.hasTasks) = true
  · rw [if_pos noTasks]
    refine sound.toLogSound.answer sound.settled trivial fun isOpen => ?_
    simp [sound.tasks isOpen] at noTasks
  rw [if_neg noTasks]
  by_cases closed : (group.session.token = 0 ||
      group.session.received ≠ group.session.data.length) = true
  · rw [if_pos closed]
    refine sound.toLogSound.answer sound.settled trivial fun isOpen => ?_
    obtain ⟨-, same, all, -⟩ := handler isOpen
    simp [isOpen, same, all] at closed
  rw [if_neg closed]
  simp only [ne_eq, Bool.or_eq_true, decide_eq_true_eq, not_or, not_not] at closed
  obtain ⟨isOpen, complete⟩ := closed
  by_cases crc : config.crc32 group.session.data ≠ group.session.crc
  · rw [if_pos crc]
    exact sound.closeAndFail .crcMismatch
  rw [if_neg crc]
  -- The CRC of the bytes is the announced one: they are applied, and whatever comes of it the
  -- session is closed.
  have logged := sound.logApply isOpen complete (not_not.mp crc) outcome
  have ends : EndsApply
      (.applied group.number group.session.type group.session.data outcome :: group.log)
      (.closed group.number) := by
    rintro _ _ _ _ ⟨⟩
    rfl
  have answer : ∀ answer, Allowed config.crc32
      (.closed group.number ::
        .applied group.number group.session.type group.session.data outcome :: group.log)
      (.answered group.number answer) →
      (ConfigMgmtGroup.respond (closeSessionLocked { group with
        log := .applied group.number group.session.type group.session.data outcome ::
          group.log }) answer).Sound config := by
    intro answer allowed
    apply logged.closeAndAnswer ends (fun zero => absurd zero isOpen)
    simpa [closeSessionLocked, isOpen] using allowed
  obtain ⟨length, opened, isLength⟩ := (sound.kept isOpen).opened
  cases outcome with
  | applied =>
    refine answer _ fun type length' crc' token' opened' isLast => ?_
    have opened' : UploadEvent.opened group.number type length' crc' token' ∈ group.log := by
      simpa using opened'
    -- What was applied are all the bytes accepted for the session.
    have bytes := (sound.kept isOpen).bytes
    rw [complete, List.take_length] at bytes
    rw [(sound.unique opened' opened).1]
    simp [acceptedBytes, bytes]
  | refused reason => exact answer _ trivial
  | threwBadAlloc => exact answer _ trivial
  | threw what => exact answer _ trivial
  | threwOther => exact answer _ trivial

/-! ### Runs -/

theorem Sound.step (sound : group.Sound config) (label : UploadLabel) :
    (group.step config label).Sound config := by
  cases label with
  | advance milliseconds =>
    refine
      { toLogSound := sound.toLogSound.frame rfl rfl rfl
        settled := sound.settled
        handler := fun isOpen => ?_
        request := ⟨sound.request.keys, sound.request.first⟩ }
    have handler := sound.handler isOpen
    unfold HandlerSound at handler ⊢
    dsimp only [ConfigMgmtGroup.step]
    cases atStep : group.handler with
    | stage request =>
      rw [atStep] at handler
      -- A session that timed out at the check stays timed out.
      refine ⟨handler.1, handler.2.imp_right fun idle => ?_⟩
      exact le_trans idle (Nat.sub_le_sub_right (Nat.le_add_right _ _) _)
    | _ =>
      rw [atStep] at handler
      exact handler
  | request request =>
    unfold ConfigMgmtGroup.step
    cases atStep : group.handler with
    | idle => exact sound.handleWrite atStep request
    | _ => exact sound
  | check =>
    unfold ConfigMgmtGroup.step
    cases atStep : group.handler with
    | check request => exact sound.check atStep
    | _ => exact sound
  | stage thrown token =>
    unfold ConfigMgmtGroup.step
    cases atStep : group.handler with
    | stage request => exact sound.stage atStep thrown token
    | _ => exact sound
  | fill =>
    unfold ConfigMgmtGroup.step
    cases atStep : group.handler with
    | fill request => exact sound.fill atStep
    | _ => exact sound
  | apply outcome =>
    unfold ConfigMgmtGroup.step
    cases atStep : group.handler with
    | apply request token received => exact sound.apply atStep outcome
    | _ => exact sound
  | processIdle =>
    change (group.processIdle config).Sound config
    unfold ConfigMgmtGroup.processIdle
    split_ifs
    · exact sound.close
    · exact sound

theorem not_isTimedOut (isOpen : group.isOpen config = true) : group.isTimedOut config = false := by
  simp only [ConfigMgmtGroup.isOpen, Bool.and_eq_true, decide_eq_true_eq] at isOpen
  simp only [isTimedOut, isOpen.1, Bool.true_and, decide_eq_false_iff_not, not_le]
  exact isOpen.2

theorem Sound.spares (sound : group.Sound config) (label : UploadLabel) :
    group.Spares config label := by
  rintro request ⟨inProgress, isOpen, other, foreign⟩
  have inUse := isOpen
  simp only [ConfigMgmtGroup.isOpen, Bool.and_eq_true, bne_iff_ne, decide_eq_true_eq] at inUse
  have handler := sound.handler inUse.1
  unfold requestInProgress at inProgress
  unfold ownsSession at foreign
  unfold HandlerSound at handler
  -- Between its own steps a request leaves the session alone, so the label has to be the one that
  -- its handler waits for.
  cases label with
  | advance milliseconds => exact Or.inl rfl
  | request request =>
    unfold ConfigMgmtGroup.step
    cases atStep : group.handler with
    | idle =>
      rw [atStep] at inProgress
      cases inProgress
    | _ => exact Or.inl rfl
  | check =>
    unfold ConfigMgmtGroup.step
    cases atStep : group.handler with
    | check request' =>
      rw [atStep] at inProgress
      cases inProgress
      dsimp only
      unfold ConfigMgmtGroup.check
      rw [if_pos (by simp [isOpen, other])]
      by_cases isRepeat : group.isRepeat request = true
      · rw [if_neg (by simp [isRepeat])]
        exact Or.inr ⟨isRepeat, rfl⟩
      · rw [if_pos (by simp [isRepeat])]
        exact Or.inl rfl
    | _ => exact Or.inl rfl
  | stage thrown token =>
    unfold ConfigMgmtGroup.step
    cases atStep : group.handler with
    | stage request' =>
      rw [atStep] at inProgress handler
      cases inProgress
      -- The check let the request replace its own session or an idle one, and this session is
      -- neither.
      rcases handler.2 with own | idle
      · exact absurd own other
      · omega
    | _ => exact Or.inl rfl
  | fill =>
    unfold ConfigMgmtGroup.step
    cases atStep : group.handler with
    | fill request' =>
      rw [atStep] at inProgress foreign
      cases inProgress
      dsimp only at foreign ⊢
      unfold ConfigMgmtGroup.fill
      rw [not_isTimedOut isOpen, if_neg (by decide)]
      unfold ConfigMgmtGroup.takeChunk
      rw [if_pos (by simp [other, of_decide_eq_false foreign])]
      exact Or.inl rfl
    | _ => exact Or.inl rfl
  | apply outcome =>
    unfold ConfigMgmtGroup.step
    cases atStep : group.handler with
    | apply request' token received =>
      rw [atStep] at inProgress foreign handler
      cases inProgress
      obtain ⟨own, -, -, next⟩ := handler
      rw [next (of_decide_eq_false foreign), own] at other
      exact absurd rfl other
    | _ => exact Or.inl rfl
  | processIdle =>
    left
    change (group.processIdle config).session = group.session
    unfold ConfigMgmtGroup.processIdle
    rw [not_isTimedOut isOpen, if_neg (by decide)]

theorem sound_initial (config : UploadConfig) (clock : ℕ) : Sound config { clock } where
  legal := trivial
  opens := rfl
  numbered := nofun
  unique := nofun
  fresh _ := rfl
  kept := nofun
  tasks := nofun
  settled := nofun
  handler := nofun
  request := ⟨nofun, nofun⟩

/-- In every run the log is that of uploads, an apply has ended its session, and a request spares
the sessions of others. -/
theorem uploads (config : UploadConfig) (clock : ℕ) (labels : List UploadLabel) :
    Always (step config) (fun group => Legal config.crc32 group.log ∧ Settled group.log)
        { clock } labels ∧
      Along (step config) (fun group label => group.Spares config label) { clock } labels := by
  have sound := always_of_preserved (sound_initial config clock)
    (fun group label sound => sound.step label) labels
  exact ⟨sound.imp fun group sound => ⟨sound.legal, sound.settled⟩,
    sound.along fun group label sound => sound.spares label⟩

/-! ### A repeated first chunk -/

/-- The restart of a session with the token 7, sent a second time because its answer got lost. -/
def restartRequest : WriteRequest :=
  { type := 1, offset := 0, data := [1], length := some 2, crc := some 0, token := some 7 }

/-- Configurations of 16 bytes at most, with a sum for the CRC. -/
def exampleConfig : UploadConfig where
  maxCborSize _ := some 16
  crc32 bytes := UInt32.ofNat bytes.sum.toNat
  sessionTimeoutMs := 10

/-- The session 7 is restarted as 8; a while later the request comes again. -/
def repeatLabels : List UploadLabel :=
  [.request (some { restartRequest with token := none }), .check, .stage none 7, .fill,
    .request (some restartRequest), .check, .stage none 8, .fill, .advance 5,
    .request (some restartRequest)]

/-- The chunk with the token of session 7 changes session 8. -/
theorem not_spares_repeatLabels :
    ¬ Along (step exampleConfig)
      (fun group label => ∀ request, group.Foreign exampleConfig request →
        (group.step exampleConfig label).session = group.session)
      { clock := 0 } (repeatLabels ++ [.check]) := by
  intro spares
  obtain ⟨-, last, -⟩ := along_append.mp spares
  have unchanged := last restartRequest (by
    refine ⟨?_, ?_, ?_, ?_⟩ <;> decide)
  exact absurd unchanged (by decide)

end ConfigMgmtGroup

end RtCore.Configuration
