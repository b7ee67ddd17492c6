import RtCore.Configuration.ReadSnapshot
import Mathlib.Data.UInt

/-!
# Chunks of one snapshot

A download is what a client has received of one type since its own READ at offset 0. `Faithful` is
the specification of a log of answers: a chunk at the offset that comes next in a download is taken
from the bytes whose length and CRC that READ announced. The snapshot is found by its type, so the
READ of another client may put other bytes under a download.

## Main definitions

* `download` — the download of a client, from the log
* `Faithful` — the chunks of every download come from what it announced
* `ConfigMgmtReads.Undisturbed` — no snapshot is taken under the download of another client

## Main results

* `ConfigMgmtReads.downloads` — a run is faithful as long as no download is disturbed, and one that
  was disturbed may go on to receive other bytes
-/

namespace RtCore.Configuration

open RtCore.Foundation

/-! ### Downloads -/

/-- What a READ at offset 0 announced, and how much of it was received. -/
structure Download where
  bytes : List UInt8
  position : ℕ
deriving DecidableEq, Repr

/-- The download of a client and a type after an answer. An answer that was lost leaves it where it
was, except that of a new first chunk. -/
def Download.next (previous : Option Download) (call : ReadCall) (answer : ReadAnswer)
    (snapshot : List UInt8) : Option Download :=
  if call.request.offset = 0 then
    match call.isReceived, answer with
    | true, .chunk _ _ data => some ⟨snapshot, data.length⟩
    | _, _ => none
  else if call.isReceived then
    match answer with
    | .chunk _ _ data =>
      previous.map fun download =>
        if call.request.offset.toNat = download.position then
          { download with position := download.position + data.length }
        else download
    | _ => none
  else previous

/-- The download of a client and a type; an error ends it. -/
def download (client : ℕ) (type : UInt32) : List ReadEvent → Option Download
  | [] => none
  | .refused _ :: before => download client type before
  | .answered call answer snapshot :: before =>
    if call.client = client ∧ call.request.type = type then
      Download.next (download client type before) call answer snapshot
    else download client type before

/-- A chunk that a client received. -/
def ChunkAllowed (crc32 : List UInt8 → UInt32) (before : List ReadEvent) (call : ReadCall)
    (announced : Option (UInt32 × UInt32)) (data snapshot : List UInt8) : Prop :=
  if call.request.offset = 0 then
    announced = some (UInt32.ofNat snapshot.length, crc32 snapshot) ∧ data <+: snapshot
  else
    ∀ current, download call.client call.request.type before = some current →
      current.position = call.request.offset.toNat → data <+: current.bytes.drop current.position

/-- Every received chunk of the log is one that the READs before it allow. -/
def Faithful (crc32 : List UInt8 → UInt32) : List ReadEvent → Prop
  | [] => True
  | .answered call (.chunk _ announced data) snapshot :: before =>
    (call.isReceived = true → ChunkAllowed crc32 before call announced data snapshot) ∧
      Faithful crc32 before
  | _ :: before => Faithful crc32 before

/-- What other bytes have from the position on is what the download has there: its next chunk may
come from them. -/
def Download.Serves (current : Download) (data : List UInt8) : Prop :=
  ∀ offset : UInt32, offset.toNat = current.position → offset ≠ 0 →
    data.drop current.position <+: current.bytes.drop current.position

/-- What follows a chunk serves the download the chunk belongs to. -/
theorem Download.Serves.advance {current : Download} {data : List UInt8}
    (serves : current.Serves data) {offset : UInt32} (place : offset.toNat = current.position)
    (begun : offset ≠ 0) (size : ℕ) :
    Download.Serves { current with position := current.position + size } data := by
  intro _ _ _
  have rest := (serves offset place begun).drop size
  rwa [List.drop_drop, List.drop_drop] at rest

namespace ConfigMgmtReads

variable (config : ReadConfig) (group : ConfigMgmtReads)

/-- A snapshot that is taken serves the downloads of the other clients that have its type. A
download goes on until an error or a new READ at offset 0, also after its last byte: a READ at its
end gets what a longer snapshot has there. -/
def Undisturbed (group : ConfigMgmtReads) : ReadLabel → Prop
  | .snapshot =>
    ∀ call data, group.handler = .snapshot call data →
      ∀ client ≠ call.client, ∀ current,
        download client call.request.type group.log = some current → current.Serves data
  | _ => True

/-! ### The invariant -/

/-- A first chunk is about to be answered. -/
def Renews (client : ℕ) (type : UInt32) : Prop :=
  ∃ call, group.handler = .respond call ∧ call.request.offset = 0 ∧ call.client = client ∧
    call.request.type = type

/-- The request in progress. -/
def inProgress : Option ReadCall :=
  match group.handler with
  | .idle => none
  | .fetch call | .snapshot call _ | .respond call => some call

/-- Calls in progress are of known types, and only a READ at offset 0 has a job. -/
structure Orderly : Prop where
  known : ∀ call, group.inProgress = some call → isKnownType config call.request.type = true
  first : ∀ call, group.handler = .fetch call ∨ (∃ data, group.handler = .snapshot call data) →
    call.request.offset = 0

/-- The invariant of every run under the condition. -/
structure Sound : Prop where
  faithful : Faithful config.crc32 group.log
  crc : group.snapshot.isValid = true → group.snapshot.crc = config.crc32 group.snapshot.data
  /-- A valid snapshot serves the downloads that have its type. -/
  serves : group.snapshot.isValid = true → ∀ client type current,
    ¬group.Renews client type → isKnownType config type = true →
      type.toUInt8 = group.snapshot.type → download client type group.log = some current →
        current.Serves group.snapshot.data

variable {config group}

theorem type_inj_of_known {type other : UInt32} (known : isKnownType config type = true)
    (known' : isKnownType config other = true) (same : type.toUInt8 = other.toUInt8) :
    type = other := by
  simp only [isKnownType, Bool.and_eq_true, decide_eq_true_eq] at known known'
  have values := congrArg UInt8.toNat same
  rw [UInt32.toNat_toUInt8, UInt32.toNat_toUInt8] at values
  apply UInt32.toNat_inj.mp
  omega

/-! ### Answers -/

theorem Sound.release (sound : group.Sound config) : group.releaseSnapshotLocked.Sound config where
  faithful := sound.faithful
  crc := nofun
  serves := nofun

theorem Sound.afterChunk (sound : group.Sound config) (last : ℕ) :
    (group.afterChunk last).Sound config := by
  unfold ConfigMgmtReads.afterChunk
  split_ifs
  · exact sound.release
  · exact
      { faithful := sound.faithful
        crc := sound.crc
        serves := sound.serves }

/-- A call is answered, and what it leaves of its download is served. -/
theorem Sound.answer (sound : group.Sound config) {call : ReadCall} {answer : ReadAnswer}
    (own : ∀ other, group.handler = .respond other → other = call)
    (faithful : Faithful config.crc32 (.answered call answer group.snapshot.data :: group.log))
    (serves : group.snapshot.isValid = true → isKnownType config call.request.type = true →
      call.request.configType = group.snapshot.type → ∀ current,
        Download.next (download call.client call.request.type group.log) call answer
          group.snapshot.data = some current → current.Serves group.snapshot.data) :
    (group.answer call answer).Sound config where
  faithful := faithful
  crc := sound.crc
  serves valid client type current _ known same found := by
    simp only [ConfigMgmtReads.answer, download] at found
    split_ifs at found with mine
    · obtain ⟨rfl, rfl⟩ := mine
      exact serves valid known same current found
    · apply sound.serves valid client type current _ known same found
      rintro ⟨other, responds, -, client, type⟩
      exact mine (own other responds ▸ ⟨client, type⟩)

/-- A later chunk has a download only if this was served. -/
theorem Sound.serves_call (sound : group.Sound config) {call : ReadCall}
    (own : ∀ other, group.handler = .respond other → other = call)
    (valid : group.snapshot.isValid = true) (known : isKnownType config call.request.type = true)
    (same : call.request.configType = group.snapshot.type) (later : call.request.offset ≠ 0)
    {current : Download}
    (found : download call.client call.request.type group.log = some current) :
    current.Serves group.snapshot.data := by
  apply sound.serves valid call.client call.request.type current _ known same found
  rintro ⟨other, responds, renews, -, -⟩
  exact later (own other responds ▸ renews)

/-- An error ends a download or, if it is lost, leaves it as it was. -/
theorem Sound.answerError (sound : group.Sound config) {call : ReadCall} {answer : ReadAnswer}
    (own : ∀ other, group.handler = .respond other → other = call)
    (error : ∀ offset announced data, answer ≠ .chunk offset announced data) :
    (group.answer call answer).Sound config := by
  apply sound.answer own
  · cases answer with
    | fail => exact sound.faithful
    | messageSize => exact sound.faithful
    | chunk offset announced data => exact absurd rfl (error offset announced data)
  · intro valid known same current found
    unfold Download.next at found
    split_ifs at found with begins received
    · split at found
      · exact absurd rfl (error _ _ _)
      · exact nomatch found
    · split at found
      · exact absurd rfl (error _ _ _)
      · exact nomatch found
    · exact sound.serves_call own valid known same begins found

/-! ### Requests -/

/-- The handler goes on. -/
theorem Sound.goto (sound : group.Sound config) {next : ReadStep}
    (waits : ∀ other, group.handler ≠ .respond other) :
    Sound config { group with handler := next } where
  faithful := sound.faithful
  crc := sound.crc
  serves valid client type current _ known same found := by
    apply sound.serves valid client type current _ known same found
    rintro ⟨other, responds, -⟩
    exact waits other responds

theorem Sound.handleRead (sound : group.Sound config) (idle : group.handler = .idle) (client : ℕ)
    (request : Option ReadRequest) (isReceived : Bool) :
    (group.handleRead config client request isReceived).Sound config := by
  have waits : ∀ other, group.handler ≠ .respond other := by
    rw [idle]
    exact fun _ => nofun
  cases request with
  | none =>
    exact
      { faithful := sound.faithful
        crc := sound.crc
        serves := sound.serves }
  | some request =>
    unfold ConfigMgmtReads.handleRead
    dsimp only
    split_ifs
    · exact sound.answerError (fun other responds => absurd responds (waits other))
        fun _ _ _ => nofun
    · exact sound.goto waits
    · exact sound.goto waits

theorem Sound.fetch (sound : group.Sound config) {call : ReadCall}
    (fetches : group.handler = .fetch call) (thrown : Option ConfigError) :
    (group.fetch config call thrown).Sound config := by
  have waits : ∀ other, group.handler ≠ .respond other := by
    rw [fetches]
    exact fun _ => nofun
  have fails (error : ConfigError) : (group.answer call (.fail error)).Sound config :=
    sound.answerError (fun other responds => absurd responds (waits other)) fun _ _ _ => nofun
  unfold ConfigMgmtReads.fetch
  split_ifs
  · exact fails _
  · cases thrown with
    | some error => exact fails error
    | none => exact sound.goto waits

/-- A snapshot that is taken serves the downloads of others, and its own READ begins anew. -/
theorem Sound.takeSnapshot (sound : group.Sound config) {call : ReadCall} {data : List UInt8}
    (knownCall : isKnownType config call.request.type = true) (begins : call.request.offset = 0)
    (undisturbed : ∀ client ≠ call.client, ∀ current,
      download client call.request.type group.log = some current → current.Serves data) :
    (group.takeSnapshot config call data).Sound config where
  faithful := sound.faithful
  crc _ := rfl
  serves _ client type current others known same found := by
    obtain rfl := type_inj_of_known known knownCall same
    apply undisturbed client _ current found
    rintro rfl
    exact others ⟨call, rfl, begins, rfl, rfl⟩

theorem Sound.answerChunk (sound : group.Sound config) {call : ReadCall}
    (own : ∀ other, group.handler = .respond other → other = call)
    (valid : group.snapshot.isValid = true) (known : isKnownType config call.request.type = true)
    (same : call.request.configType = group.snapshot.type) {size : ℕ} :
    (group.answer call (group.chunkAnswer call.request.offset size true)).Sound config := by
  apply sound.answer own
  · refine ⟨fun _ => ?_, sound.faithful⟩
    unfold ChunkAllowed
    split_ifs with begins
    · refine ⟨?_, ?_⟩
      · rw [sound.crc valid]
      · rw [begins]
        exact List.take_prefix _ _
    · intro current found place
      have rest := sound.serves_call own valid known same begins found _ place.symm begins
      rw [place] at rest ⊢
      exact (List.take_prefix _ _).trans rest
  -- A chunk that was received moves its own download on; every other one stays as it is.
  · intro _ _ _ current found
    unfold Download.next chunkAnswer at found
    simp only [if_true] at found
    split_ifs at found with begins received
    · cases received : call.isReceived with
      | true =>
        rw [received] at found
        cases found
        exact fun _ _ _ => List.prefix_refl _
      | false =>
        rw [received] at found
        exact nomatch found
    · obtain ⟨before, there, rfl⟩ := Option.map_eq_some_iff.mp found
      have serves := sound.serves_call own valid known same begins there
      split_ifs with place
      · exact serves.advance place begins _
      · exact serves
    · exact sound.serves_call own valid known same begins found

theorem Sound.respond (sound : group.Sound config) {call : ReadCall}
    (responds : group.handler = .respond call)
    (known : isKnownType config call.request.type = true) (available : ℕ) (encodes : Bool) :
    (group.respond call available encodes).Sound config := by
  have own : ∀ other, group.handler = .respond other → other = call := by
    intro other there
    cases there.symm.trans responds
    rfl
  unfold ConfigMgmtReads.respond
  dsimp only
  split_ifs with refused small
  · exact sound.answerError own fun _ _ _ => nofun
  · exact sound.answerError own fun _ _ _ => nofun
  · apply Sound.afterChunk
    cases encodes with
    | false => exact sound.answerError own fun _ _ _ => nofun
    | true =>
      simp only [Bool.or_eq_true, Bool.not_eq_eq_eq_not, not_or, decide_eq_true_eq,
        Bool.not_true, Bool.not_eq_false, not_not] at refused
      obtain ⟨⟨valid, same⟩, -⟩ := refused
      exact sound.answerChunk own valid known same.symm

/-! ### Runs -/

/-- The handler is idle after an answer. -/
theorem Orderly.of_idle (idle : group.handler = .idle) : group.Orderly config where
  known call there := by
    rw [inProgress, idle] at there
    exact nomatch there
  first call there := by
    rw [idle] at there
    rcases there with there | ⟨data, there⟩
    · exact nomatch there
    · exact nomatch there

theorem handler_afterChunk (last : ℕ) : (group.afterChunk last).handler = group.handler := by
  unfold afterChunk
  split_ifs
  · rfl
  · rfl

theorem Orderly.step (orderly : group.Orderly config) (label : ReadLabel) :
    (group.step config label).Orderly config := by
  -- The request in progress was checked when it came in: its type is known, and only offset 0
  -- fetches.
  cases label with
  | advance milliseconds | store type data => exact ⟨orderly.known, orderly.first⟩
  | request client request isReceived =>
    dsimp only [ConfigMgmtReads.step]
    split
    · next idle =>
      cases request with
      | none => exact .of_idle idle
      | some request =>
        unfold ConfigMgmtReads.handleRead
        dsimp only
        split_ifs with unknown begins
        · exact .of_idle rfl
        · refine ⟨?_, ?_⟩
          · rintro call ⟨⟩
            simpa using unknown
          · rintro call (⟨⟨⟩⟩ | ⟨data, ⟨⟩⟩)
            exact begins
        · refine ⟨?_, ?_⟩
          · rintro call ⟨⟩
            simpa using unknown
          · rintro call (⟨⟨⟩⟩ | ⟨data, ⟨⟩⟩)
    · exact orderly
  | fetch thrown =>
    dsimp only [ConfigMgmtReads.step]
    split
    · next call fetches =>
      unfold ConfigMgmtReads.fetch
      split_ifs
      · exact .of_idle rfl
      · cases thrown with
        | some error => exact .of_idle rfl
        | none =>
          refine ⟨?_, ?_⟩
          · rintro other ⟨⟩
            exact orderly.known call (by rw [inProgress, fetches])
          · rintro other (⟨⟨⟩⟩ | ⟨data, ⟨⟩⟩)
            exact orderly.first call (.inl fetches)
    · exact orderly
  | snapshot =>
    dsimp only [ConfigMgmtReads.step]
    split
    · next call data snapshots =>
      refine ⟨?_, ?_⟩
      · rintro other ⟨⟩
        exact orderly.known call (by rw [inProgress, snapshots])
      · rintro other (⟨⟨⟩⟩ | ⟨data, ⟨⟩⟩)
    · exact orderly
  | respond available encodes =>
    dsimp only [ConfigMgmtReads.step]
    split
    · next call responds =>
      apply Orderly.of_idle
      unfold ConfigMgmtReads.respond
      dsimp only
      split_ifs
      · rfl
      · rfl
      · exact handler_afterChunk _
    · exact orderly
  | processIdle =>
    unfold ConfigMgmtReads.step ConfigMgmtReads.processIdle
    split_ifs
    · exact ⟨orderly.known, orderly.first⟩
    · exact orderly

theorem Sound.step (sound : group.Sound config) (orderly : group.Orderly config)
    (label : ReadLabel) (undisturbed : group.Undisturbed label) :
    (group.step config label).Sound config := by
  -- The condition is needed where a snapshot is taken, and nowhere else.
  cases label with
  | advance milliseconds | store type data =>
    exact
      { faithful := sound.faithful
        crc := sound.crc
        serves := sound.serves }
  | request client request isReceived =>
    dsimp only [ConfigMgmtReads.step]
    split
    · next idle => exact sound.handleRead idle client request isReceived
    · exact sound
  | fetch thrown =>
    dsimp only [ConfigMgmtReads.step]
    split
    · next call fetches => exact sound.fetch fetches thrown
    · exact sound
  | snapshot =>
    dsimp only [ConfigMgmtReads.step]
    split
    · next call data snapshots =>
      exact sound.takeSnapshot (orderly.known call (by rw [inProgress, snapshots]))
        (orderly.first call (.inr ⟨data, snapshots⟩)) (undisturbed call data snapshots)
    · exact sound
  | respond available encodes =>
    dsimp only [ConfigMgmtReads.step]
    split
    · next call responds =>
      exact sound.respond responds (orderly.known call (by rw [inProgress, responds])) available
        encodes
    · exact sound
  | processIdle =>
    unfold ConfigMgmtReads.step ConfigMgmtReads.processIdle
    split_ifs
    · exact sound.release
    · exact sound

theorem sound_initial (config : ReadConfig) (clock : ℕ) (stored : UInt8 → List UInt8) :
    Sound config { clock, stored } where
  faithful := trivial
  crc := nofun
  serves := nofun

/-! ### A disturbed download -/

/-- A first chunk that finds no room leaves the snapshot as it is. -/
theorem respond_noRoom {call : ReadCall} {encodes : Bool} (valid : group.snapshot.isValid = true)
    (same : group.snapshot.type = call.request.configType) (begins : call.request.offset = 0)
    (some_ : 0 < group.snapshot.data.length) :
    group.respond call 0 encodes = group.answer call .messageSize := by
  simp [ConfigMgmtReads.respond, valid, same, begins, chunkSize, some_]

/-- A chunk that finds all the room it needs is the rest of the snapshot. -/
theorem log_respond_rest {call : ReadCall} (valid : group.snapshot.isValid = true)
    (same : group.snapshot.type = call.request.configType) (later : call.request.offset ≠ 0)
    (inside : call.request.offset.toNat < group.snapshot.data.length) :
    (group.respond call (readResponseOverhead + group.snapshot.data.length) true).log =
      .answered call (.chunk call.request.offset none
        (group.snapshot.data.drop call.request.offset.toNat)) group.snapshot.data :: group.log := by
  have size : chunkSize (group.snapshot.data.length - call.request.offset.toNat)
      (readResponseOverhead + group.snapshot.data.length) =
        group.snapshot.data.length - call.request.offset.toNat := by
    unfold chunkSize
    rw [if_pos (by omega), Nat.add_sub_cancel_left, Nat.min_eq_left (Nat.sub_le ..)]
  have accepted : (!group.snapshot.isValid || group.snapshot.type ≠ call.request.configType ||
      decide (group.snapshot.data.length < call.request.offset.toNat)) = false := by
    simp [valid, same, inside.le]
  have fits : ¬group.snapshot.data.length - call.request.offset.toNat = 0 := by omega
  unfold ConfigMgmtReads.respond
  dsimp only
  rw [accepted, if_neg (by decide), size, if_neg (by simp [fits])]
  unfold ConfigMgmtReads.afterChunk
  have chunk : (group.snapshot.data.drop call.request.offset.toNat).take
      (group.snapshot.data.length - call.request.offset.toNat) =
        group.snapshot.data.drop call.request.offset.toNat := by
    rw [← List.length_drop, List.take_length]
  split_ifs
  · simp [releaseSnapshotLocked, ConfigMgmtReads.answer, chunkAnswer, later, chunk]
  · simp [ConfigMgmtReads.answer, chunkAnswer, later, chunk]

/-- Where a snapshot that is taken does not serve the download of another client, this client may
receive bytes that were never announced to it: the first chunk finds no room, and the next one of
the other client all the room it needs. -/
theorem exists_not_faithful (orderly : group.Orderly config) {label : ReadLabel}
    (disturbed : ¬group.Undisturbed label) :
    ∃ more, ¬Faithful config.crc32
      (run (ConfigMgmtReads.step config) group (label :: more)).log := by
  cases label with
  | snapshot =>
    simp only [Undisturbed, Download.Serves, not_forall] at disturbed
    obtain ⟨call, data, snapshots, client, other, current, found, offset, place, later, differ⟩ :=
      disturbed
    have known := orderly.known call (by rw [inProgress, snapshots])
    have begins := orderly.first call (.inr ⟨data, snapshots⟩)
    have inside : offset.toNat < data.length := by
      by_contra outside
      rw [List.drop_eq_nil_of_le (by omega)] at differ
      exact differ (List.nil_prefix ..)
    let next : ReadRequest := { type := call.request.type, offset }
    let taken := group.takeSnapshot config call data
    let answered := taken.answer call .messageSize
    let asked :=
      { answered with handler := .respond { client, request := next, isReceived := true } }
    refine ⟨[.respond 0 true, .request client (some next) true,
      .respond (readResponseOverhead + data.length) true], ?_⟩
    -- The three steps after the snapshot, one at a time.
    have takes : group.step config .snapshot = taken := by
      simp only [ConfigMgmtReads.step, snapshots, taken]
    have answers : taken.step config (.respond 0 true) = answered :=
      respond_noRoom rfl rfl begins (Nat.zero_lt_of_lt inside)
    have asks : answered.step config (.request client (some next) true) = asked := by
      change answered.handleRead config client (some next) true = asked
      simp only [ConfigMgmtReads.handleRead, next, known, later, asked, Bool.not_true,
        Bool.false_eq_true, if_false]
    have log : (asked.respond { client, request := next, isReceived := true }
        (readResponseOverhead + asked.snapshot.data.length) true).log =
          .answered { client, request := next, isReceived := true }
            (.chunk offset none (data.drop offset.toNat)) data :: asked.log :=
      log_respond_rest rfl rfl later inside
    intro faithful
    rw [run_cons, takes, run_cons, answers, run_cons, asks, run_cons, run_nil] at faithful
    change Faithful config.crc32
      (asked.respond _ (readResponseOverhead + asked.snapshot.data.length) true).log at faithful
    rw [log] at faithful
    -- The other client is promised the bytes of its own snapshot, which go on differently.
    have allowed := faithful.1 rfl
    rw [ChunkAllowed, if_neg later] at allowed
    have served := allowed current ?_ place.symm
    · rw [← place] at differ served
      exact differ served
    · change download client call.request.type (.answered call .messageSize _ :: group.log) = _
      rw [download, if_neg fun same => other same.1.symm, found]
  | advance | store | request | fetch | respond | processIdle => exact absurd trivial disturbed

/-- A run is faithful as long as no download is disturbed, and wherever one is disturbed the run
may go on to be no longer. -/
theorem downloads (config : ReadConfig) (clock : ℕ) (stored : UInt8 → List UInt8)
    (labels : List ReadLabel) :
    (Along (step config) Undisturbed { clock, stored } labels →
      Always (step config) (fun group => Faithful config.crc32 group.log)
        { clock, stored } labels) ∧
    ∀ label, ¬(run (step config) { clock, stored } labels).Undisturbed label →
      ∃ more, ¬Faithful config.crc32
        (run (step config) { clock, stored } (labels ++ label :: more)).log := by
  have orderly : Orderly config { clock, stored } := .of_idle rfl
  constructor
  · intro undisturbed
    have invariant : Always (step config) (fun group => group.Orderly config ∧ group.Sound config)
        { clock, stored } labels := by
      refine undisturbed.always ⟨orderly, sound_initial config clock stored⟩ ?_
      rintro group label ⟨orderly, sound⟩ undisturbed
      exact ⟨orderly.step label, sound.step orderly label undisturbed⟩
    exact invariant.imp fun group holds => holds.2.faithful
  · intro label disturbed
    have now := run_invariant orderly (fun group label orderly => orderly.step label) labels
    obtain ⟨more, unfaithful⟩ := exists_not_faithful now disturbed
    refine ⟨more, ?_⟩
    rwa [run_append]

/-! ### Two clients -/

/-- One configuration type, with a sum for the CRC. -/
def sampleReads : ReadConfig where
  isRegistered type := type = 1
  crc32 bytes := UInt32.ofNat bytes.sum.toNat
  sessionTimeoutMs := 1000

/-- Two bytes are stored of every configuration. -/
def sampleStored : UInt8 → List UInt8 := fun _ => [1, 2]

/-- A chunk of one byte. -/
def sampleChunk (client : ℕ) (offset : UInt32) : List ReadLabel :=
  [.request client (some { type := 1, offset }) true, .fetch none, .snapshot, .respond 49 true]

/-- The READ of client 1 finds the same bytes as that of client 0, between its chunks. -/
theorem downloads_sample :
    Always (step sampleReads) (fun group => Faithful sampleReads.crc32 group.log)
      { clock := 0, stored := sampleStored }
      (sampleChunk 0 0 ++ sampleChunk 1 0 ++ sampleChunk 0 1) := by
  apply (downloads sampleReads 0 sampleStored _).1
  refine ⟨trivial, trivial, ?_, trivial, trivial, trivial, ?_, trivial, trivial, trivial, nofun,
    trivial, trivial⟩
  · rintro call data ⟨⟩ client - current ⟨⟩
  · rintro call data ⟨⟩ client - current found offset place -
    have log : download client 1 [.answered ⟨0, ⟨1, 0⟩, true⟩
        (.chunk 0 (some (2, sampleReads.crc32 [1, 2])) [1]) [1, 2]] = some current := found
    rw [download] at log
    split_ifs at log
    · cases log
      exact List.prefix_refl _
    · exact nomatch log

/-- Another configuration is stored and READ by client 1 between the chunks of client 0. -/
theorem not_downloads_replaced :
    ¬Faithful sampleReads.crc32 (run (step sampleReads) { clock := 0, stored := sampleStored }
      (sampleChunk 0 0 ++ [.store 1 [3, 4]] ++ sampleChunk 1 0 ++ sampleChunk 0 1)).log := by
  intro faithful
  have received : ∀ current, download 0 1
      (run (step sampleReads) { clock := 0, stored := sampleStored }
        (sampleChunk 0 0 ++ [.store 1 [3, 4]] ++ sampleChunk 1 0)).log = some current →
      current.position = 1 → [4] <+: current.bytes.drop current.position := faithful.1 rfl
  exact absurd (received ⟨[1, 2], 1⟩ (by decide) rfl) (by decide)

end ConfigMgmtReads

end RtCore.Configuration
