import Mathlib.Algebra.Order.BigOperators.Group.List
import RtCore.Foundation.Bytes
import RtCore.Foundation.Text

/-!
# Reading and writing CBOR by walks

A codec of the zcbor library walks over a state: each primitive writes or reads one item, or
fails and leaves the state to the caller. The library itself is a parameter: `Zcbor` names its
primitives, over states nothing else is known of, and `Zcbor.Laws` says what they do: integers
and lengths have the shortest head, a `float` has five bytes, a list or a map has one byte
before its items and one after them, and each open container takes one backup of the state.

`Writes` and `Reads` say of a walk which bytes it puts out or takes in. Where an item may be
missing, or a list goes on until its end, what a walk takes in depends on what follows it:
`ReadsBefore`.

## Main definitions

* `Walk` — a computation over a state that may fail, keeping what it did to the state
* `Zcbor`, `Zcbor.Laws`
* `Writes`, `Runs`, `ReadsBefore`, `Reads`

## Main results

* `Runs.bind`, `ReadsBefore.bind`, `Reads.inContainer`, `ReadsBefore.many`
* `Zcbor.Laws.encodeEntry`, `Zcbor.Laws.decodeEntry` — an entry function on a whole buffer
-/

namespace RtCore.Cbor

open RtCore.Foundation

/-! ### Items as bytes -/

/-- The head of an item: its major type and a number, in as few bytes as possible. -/
def head (major number : ℕ) : List UInt8 :=
  if number ≤ 23 then [UInt8.ofNat (32 * major + number)]
  else if number ≤ 0xFF then UInt8.ofNat (32 * major + 24) :: (leBytes 1 number).reverse
  else if number ≤ 0xFFFF then UInt8.ofNat (32 * major + 25) :: (leBytes 2 number).reverse
  else if number ≤ 0xFFFFFFFF then UInt8.ofNat (32 * major + 26) :: (leBytes 4 number).reverse
  else UInt8.ofNat (32 * major + 27) :: (leBytes 8 number).reverse

/-- The shortest encoding of an unsigned number. -/
def uintBytes (value : UInt32) : List UInt8 := head 0 value.toNat

/-- The shortest encoding of a signed number. -/
def intBytes (value : Int32) : List UInt8 :=
  if 0 ≤ value.toInt then head 0 value.toInt.toNat else head 1 (-1 - value.toInt).toNat

/-- The encoding of a text. -/
def tstrBytes (text : Text) : List UInt8 := head 3 text.size ++ text.bytes

/-- The encoding of a truth value. -/
def boolBytes (value : Bool) : List UInt8 := [if value then 0xF5 else 0xF4]

/-- A `float` by its bits. -/
def floatBytes (bits : UInt32) : List UInt8 := 0xFA :: (leBytes 4 bits.toNat).reverse

/-- Opens a list of any length. -/
def listStart : UInt8 := 0x9F

/-- Opens a map of any length. -/
def mapStart : UInt8 := 0xBF

/-- Closes a list or a map. -/
def breakByte : UInt8 := 0xFF

/-- The items of a container between its start and the break. -/
def containerBytes (start : UInt8) (items : List UInt8) : List UInt8 :=
  start :: (items ++ [breakByte])

/-- The bytes of an item that may be missing. -/
def bytesWhenPresent {α : Type} (value : Option α) (encoding : α → List UInt8) : List UInt8 :=
  match value with
  | some value => encoding value
  | none => []

section Lists

variable {α : Type} {encoding : α → List UInt8} {items : List α}

theorem length_le_flatMap {item : α} (member : item ∈ items) :
    (encoding item).length ≤ (items.flatMap encoding).length := by
  rw [List.length_flatMap]
  exact List.single_le_sum (by simp) _ (List.mem_map.mpr ⟨item, member, rfl⟩)

/-- Elements that take bytes are no more than the bytes. -/
theorem length_le_length_flatMap (nonempty : ∀ item ∈ items, encoding item ≠ []) :
    items.length ≤ (items.flatMap encoding).length := by
  induction items with
  | nil => simp
  | cons item items ih =>
    have here := List.length_pos_iff.mpr (nonempty item List.mem_cons_self)
    have later := ih fun other member => nonempty other (List.mem_cons_of_mem _ member)
    rw [List.flatMap_cons, List.length_append, List.length_cons]
    omega

end Lists

/-! ### Walks -/

/-- A computation over a state that may fail; what it did to the state before stays. -/
abbrev Walk (S : Type) := OptionT (StateM S)

namespace Walk

variable {S α β : Type}

/-- Runs a walk from a state: what it returns, none for a failure, and the state after it. -/
def step (walk : Walk S α) (state : S) : Option α × S := (OptionT.run walk).run state

/-- The walk may fail, and the caller does not ask. -/
def ignore (walk : Walk S Unit) : Walk S Unit := walk <|> pure ()

/-- The walk, and what else is done to the state if it fails. -/
def cleanUp (walk : Walk S α) (cleaning : Walk S Unit) : Walk S α :=
  walk <|> (do ignore cleaning; failure)

/-- An item that may be missing: then the state is as the failed walk left it. -/
def whenPresent (walk : Walk S α) : Walk S (Option α) := (some <$> walk) <|> pure none

/-- Elements until the state is at the end of its container, each decoded with those before it
known. Every element takes bytes, so a bound on the rounds beyond their number does not
matter. -/
def many (atEnd : S → Bool) (element : List α → Walk S α) : ℕ → List α → Walk S (List α)
  | 0, _ => failure
  | rounds + 1, items => do
    if atEnd (← get) then
      return items
    else
      let item ← element items
      many atEnd element rounds (items ++ [item])

/-- An encoder of an item that may be missing. -/
def whenSome (input : Option α) (encoder : α → Walk S Unit) : Walk S Unit :=
  match input with
  | some value => encoder value
  | none => pure ()

/-- `zcbor_multi_encode_minmax`: a number of elements outside the limits fails. -/
def multiEncodeMinmax (fewest most : ℕ) (encoder : α → Walk S Unit) (items : List α) :
    Walk S Unit :=
  if fewest ≤ items.length ∧ items.length ≤ most then items.forM encoder else failure

variable {walk : Walk S α} {state next : S} {value : α}

theorem step_bind_some {f : α → Walk S β} (first : walk.step state = (some value, next)) :
    (walk >>= f).step state = (f value).step next := by
  simp only [step, OptionT.run_bind, Option.elimM, StateT.run_bind] at first ⊢
  rw [first]
  rfl

theorem step_bind_none {f : α → Walk S β} (first : walk.step state = (none, next)) :
    (walk >>= f).step state = (none, next) := by
  simp only [step, OptionT.run_bind, Option.elimM, StateT.run_bind] at first ⊢
  rw [first]
  rfl

theorem step_orElse_some {other : Walk S α} (first : walk.step state = (some value, next)) :
    (walk <|> other).step state = (some value, next) := by
  simp only [step, OptionT.run_orElse, Option.elimM, StateT.run_bind] at first ⊢
  rw [first]
  rfl

theorem step_orElse_none {other : Walk S α} (first : walk.step state = (none, next)) :
    (walk <|> other).step state = other.step next := by
  simp only [step, OptionT.run_orElse, Option.elimM, StateT.run_bind] at first ⊢
  rw [first]
  rfl

theorem step_whenPresent_some (found : walk.step state = (some value, next)) :
    walk.whenPresent.step state = (some (some value), next) :=
  step_orElse_some (step_bind_some found)

theorem step_whenPresent_none (found : walk.step state = (none, next)) :
    walk.whenPresent.step state = (some none, next) :=
  step_orElse_none (step_bind_none found)

theorem step_map_some {f : α → β} (found : walk.step state = (some value, next)) :
    (f <$> walk).step state = (some (f value), next) :=
  step_bind_some found

theorem step_map_none {f : α → β} (found : walk.step state = (none, next)) :
    (f <$> walk).step state = (none, next) :=
  step_bind_none found

theorem step_set (state next : S) : (set next : Walk S PUnit).step state = (some ⟨⟩, next) := rfl

theorem step_get (state : S) : (get : Walk S S).step state = (some state, state) := rfl

end Walk

/-! ### What walks write -/

section Writes

variable {E α : Type} (Room : E → List UInt8 → ℕ → Prop)

/-- The walk puts out these bytes wherever there is room for them. `Room state out room` says
that `out` has been written and `room` bytes are left. -/
def Writes (walk : Walk E Unit) (bytes : List UInt8) : Prop :=
  ∀ state out room, Room state out room → bytes.length ≤ room →
    ∃ next, walk.step state = (some (), next) ∧ Room next (out ++ bytes) (room - bytes.length)

variable {Room} {walk other : Walk E Unit} {bytes more : List UInt8}

namespace Writes

theorem nothing : Writes Room (pure ()) [] := by
  intro state out room here _
  exact ⟨state, rfl, by simpa using here⟩

theorem bind (first : Writes Room walk bytes) (second : Writes Room other more) :
    Writes Room (walk >>= fun _ => other) (bytes ++ more) := by
  intro state out room here fits
  rw [List.length_append] at fits
  obtain ⟨middle, firstStep, between⟩ := first state out room here (by omega)
  obtain ⟨next, secondStep, after⟩ := second middle _ _ between (by omega)
  refine ⟨next, (Walk.step_bind_some firstStep).trans secondStep, ?_⟩
  rw [List.length_append, ← Nat.sub_sub, ← List.append_assoc]
  exact after

/-- The last of several walks. -/
theorem last (only : Writes Room walk bytes) : Writes Room walk (bytes ++ []) := by
  rw [List.append_nil]
  exact only

theorem cleanUp (body : Writes Room walk bytes) (cleaning : Walk E Unit) :
    Writes Room (walk.cleanUp cleaning) bytes := by
  intro state out room here fits
  obtain ⟨next, step, after⟩ := body state out room here fits
  exact ⟨next, Walk.step_orElse_some step, after⟩

theorem whenSome {encoder : α → Walk E Unit} {encoding : α → List UInt8} (value : Option α)
    (each : ∀ some ∈ value, Writes Room (encoder some) (encoding some)) :
    Writes Room (Walk.whenSome value encoder) (bytesWhenPresent value encoding) := by
  cases value with
  | none => exact nothing
  | some value => exact each value rfl

theorem forM {encoder : α → Walk E Unit} {encoding : α → List UInt8} (items : List α)
    (each : ∀ item ∈ items, Writes Room (encoder item) (encoding item)) :
    Writes Room (items.forM encoder) (items.flatMap encoding) := by
  induction items with
  | nil => exact nothing
  | cons item items ih =>
    rw [List.flatMap_cons]
    apply bind (each item List.mem_cons_self)
    exact ih fun other member => each other (List.mem_cons_of_mem _ member)

theorem multi {encoder : α → Walk E Unit} {encoding : α → List UInt8} {items : List α}
    {fewest most : ℕ} (enough : fewest ≤ items.length) (fits : items.length ≤ most)
    (each : ∀ item ∈ items, Writes Room (encoder item) (encoding item)) :
    Writes Room (Walk.multiEncodeMinmax fewest most encoder items) (items.flatMap encoding) := by
  unfold Walk.multiEncodeMinmax
  rw [if_pos ⟨enough, fits⟩]
  exact forM items each

end Writes

end Writes

/-! ### What walks read -/

/-- Where a decoder stands: the bytes behind it and ahead of it, how many containers are open
and for how many more the state can be kept. -/
structure Cursor where
  before : List UInt8
  rest : List UInt8
  depth : ℕ
  free : ℕ

/-- One item stands at the top; inside a container there may be more. -/
def Cursor.MayRead (cursor : Cursor) : Prop := 0 < cursor.depth ∨ cursor.before = []

section Reads

variable {D α β : Type} (At : D → Cursor → Prop)

/-- From a state at one place the walk gives this value and gets to another. -/
def Runs (walk : Walk D α) (value : α) (start finish : Cursor) : Prop :=
  ∀ state, At state start → ∃ next, walk.step state = (some value, next) ∧ At next finish

/-- Inside a container the walk takes these bytes for this value, where what follows them is as
`follow` says and `needs` more containers may be opened. -/
def ReadsBefore (follow : List UInt8 → Prop) (walk : Walk D α) (bytes : List UInt8) (value : α)
    (needs : ℕ) : Prop :=
  ∀ before rest depth free, follow rest → 0 < depth → needs ≤ free →
    Runs At walk value ⟨before, bytes ++ rest, depth, free⟩ ⟨before ++ bytes, rest, depth, free⟩

/-- The walk takes these bytes for this value, whatever follows them. -/
abbrev Reads : Walk D α → List UInt8 → α → ℕ → Prop := ReadsBefore At fun _ => True

/-- The bytes start with the break that ends a container. -/
def AtBreak (bytes : List UInt8) : Prop := ∃ tail, bytes = breakByte :: tail

/-- Inside a container the walk fails at these bytes and leaves the state where it was. -/
def Refuses (walk : Walk D α) (bytes : List UInt8) : Prop :=
  ∀ state before rest depth free, 0 < depth → At state ⟨before, bytes ++ rest, depth, free⟩ →
    ∃ next, walk.step state = (none, next) ∧ At next ⟨before, bytes ++ rest, depth, free⟩

/-- The walk refuses what these bytes start with. -/
def RefusedAt (walk : Walk D α) (bytes : List UInt8) : Prop :=
  ∃ leading tail, bytes = leading ++ tail ∧ Refuses At walk leading

variable {At} {walk : Walk D α} {value : α} {start middle finish : Cursor}

theorem Refuses.bind {bytes : List UInt8} (refuses : Refuses At walk bytes) (f : α → Walk D β) :
    Refuses At (walk >>= f) bytes := by
  intro state before rest depth free inside here
  obtain ⟨next, step, there⟩ := refuses state before rest depth free inside here
  exact ⟨next, Walk.step_bind_none step, there⟩

theorem Refuses.refusedAt {bytes : List UInt8} (refuses : Refuses At walk bytes)
    (more rest : List UInt8) : RefusedAt At walk (bytes ++ more ++ rest) :=
  ⟨bytes, more ++ rest, List.append_assoc _ _ _, refuses⟩

namespace Runs

theorem pure (value : α) (cursor : Cursor) : Runs At (Pure.pure value) value cursor cursor := by
  intro state here
  exact ⟨state, rfl, here⟩

theorem bind {f : α → Walk D β} {result : β} (first : Runs At walk value start middle)
    (second : Runs At (f value) result middle finish) :
    Runs At (walk >>= f) result start finish := by
  intro state here
  obtain ⟨between, firstStep, there⟩ := first state here
  obtain ⟨next, secondStep, after⟩ := second between there
  exact ⟨next, (Walk.step_bind_some firstStep).trans secondStep, after⟩

theorem orElse (first : Runs At walk value start finish) (other : Walk D α) :
    Runs At (walk <|> other) value start finish := by
  intro state here
  obtain ⟨next, step, after⟩ := first state here
  exact ⟨next, Walk.step_orElse_some step, after⟩

theorem cleanUp (body : Runs At walk value start finish) (cleaning : Walk D Unit) :
    Runs At (walk.cleanUp cleaning) value start finish :=
  body.orElse _

end Runs

variable {follow later : List UInt8 → Prop} {bytes more : List UInt8} {needs : ℕ}

namespace ReadsBefore

theorem nothing (value : α) : Reads At (pure value) [] value needs := by
  intro before rest depth free _ _ _
  rw [List.append_nil]
  exact Runs.pure value _

theorem bind {f : α → Walk D β} {result : β} (first : ReadsBefore At follow walk bytes value needs)
    (second : ReadsBefore At later (f value) more result needs)
    (followed : ∀ rest, later rest → follow (more ++ rest)) :
    ReadsBefore At later (walk >>= f) (bytes ++ more) result needs := by
  intro before rest depth free allowed inside enough
  rw [List.append_assoc, ← List.append_assoc before]
  exact (first before (more ++ rest) depth free (followed rest allowed) inside enough).bind
    (second (before ++ bytes) rest depth free allowed inside enough)

theorem andThen {f : α → Walk D β} {result : β} (first : Reads At walk bytes value needs)
    (second : ReadsBefore At later (f value) more result needs) :
    ReadsBefore At later (walk >>= f) (bytes ++ more) result needs :=
  first.bind second fun _ _ => trivial

theorem weaken {fewer : ℕ} (reads : ReadsBefore At follow walk bytes value fewer)
    (enough : fewer ≤ needs) : ReadsBefore At follow walk bytes value needs := by
  intro before rest depth free allowed inside free_enough
  exact reads before rest depth free allowed inside (enough.trans free_enough)

theorem orElse (reads : ReadsBefore At follow walk bytes value needs) (other : Walk D α) :
    ReadsBefore At follow (walk <|> other) bytes value needs := by
  intro before rest depth free allowed inside enough
  exact (reads before rest depth free allowed inside enough).orElse other

theorem cleanUp (reads : ReadsBefore At follow walk bytes value needs) (cleaning : Walk D Unit) :
    ReadsBefore At follow (walk.cleanUp cleaning) bytes value needs :=
  reads.orElse _

/-- An item that is present is taken; one that is missing is found missing where the walk refuses
what comes instead. -/
theorem whenPresent {encoding : α → List UInt8} (optional : Option α)
    (reads : ∀ value ∈ optional, Reads At walk (encoding value) value needs) :
    ReadsBefore At (fun rest => optional = none → RefusedAt At walk rest) walk.whenPresent
      (bytesWhenPresent optional encoding) optional needs := by
  intro before rest depth free allowed inside enough
  cases optional with
  | some value =>
    intro state here
    obtain ⟨next, step, there⟩ := reads value rfl before rest depth free trivial inside enough state
      here
    exact ⟨next, Walk.step_whenPresent_some step, there⟩
  | none =>
    intro state here
    obtain ⟨leading, tail, rfl, refused⟩ := allowed rfl
    obtain ⟨next, step, there⟩ := refused state before tail depth free inside here
    exact ⟨next, Walk.step_whenPresent_none step, by simpa [bytesWhenPresent] using there⟩

/-- Elements up to the end of their container; `most` elements may be decoded. -/
theorem many {atEnd : D → Bool} {element : List α → Walk D α} {encoding : α → List UInt8}
    {items : List α} {most : ℕ}
    (stops : ∀ state before rest depth free, 0 < depth →
      At state ⟨before, breakByte :: rest, depth, free⟩ → atEnd state = true)
    (goesOn : ∀ state before byte rest depth free, 0 < depth → byte ≠ breakByte →
      At state ⟨before, byte :: rest, depth, free⟩ → atEnd state = false)
    (each : ∀ seen, seen.length < most → ∀ item ∈ items,
      Reads At (element seen) (encoding item) item needs)
    (starts : ∀ item ∈ items, ∃ byte tail, encoding item = byte :: tail ∧ byte ≠ breakByte)
    (rounds : ℕ) (seen : List α) (enough : items.length < rounds)
    (fits : seen.length + items.length ≤ most) :
    ReadsBefore At AtBreak (Walk.many atEnd element rounds seen) (items.flatMap encoding)
      (seen ++ items) needs := by
  induction items generalizing rounds seen with
  | nil =>
    obtain ⟨rounds, rfl⟩ : ∃ more, rounds = more + 1 := ⟨rounds - 1, by grind⟩
    intro before rest depth free allowed inside _ state here
    obtain ⟨tail, rfl⟩ := allowed
    have ended := stops state before tail depth free inside (by simpa using here)
    refine ⟨state, ?_, by simpa using here⟩
    rw [Walk.many, Walk.step_bind_some (Walk.step_get state), if_pos ended, List.append_nil]
    rfl
  | cons item items ih =>
    obtain ⟨rounds, rfl⟩ : ∃ more, rounds = more + 1 := ⟨rounds - 1, by grind⟩
    intro before rest depth free allowed inside enoughFree state here
    rw [List.length_cons] at enough fits
    -- The container goes on: the item's first byte is no break.
    obtain ⟨byte, tail, lead, noBreak⟩ := starts item List.mem_cons_self
    have unended : atEnd state = false := by
      apply goesOn state before byte (tail ++ items.flatMap encoding ++ rest) depth free inside
        noBreak
      simpa [lead] using here
    have first := each seen (by omega) item List.mem_cons_self
    have later : ReadsBefore At AtBreak (Walk.many atEnd element rounds (seen ++ [item]))
        (items.flatMap encoding) (seen ++ [item] ++ items) needs := by
      apply ih
        (fun seen fewer other member => each seen fewer other (List.mem_cons_of_mem _ member))
        (fun other member => starts other (List.mem_cons_of_mem _ member))
      · omega
      · rw [List.length_append, List.length_singleton]
        omega
    rw [List.append_assoc, List.singleton_append] at later
    obtain ⟨next, step, there⟩ :=
      (first.andThen (f := fun item => Walk.many atEnd element rounds (seen ++ [item])) later)
        before rest depth free allowed inside enoughFree state here
    refine ⟨next, ?_, there⟩
    rw [Walk.many, Walk.step_bind_some (Walk.step_get state), if_neg (by simp [unended])]
    exact step

end ReadsBefore

end Reads

/-! ### The library -/

/-- The primitives of zcbor that codecs are made of. -/
structure Zcbor where
  EncodeState : Type
  DecodeState : Type
  /-- A state over a buffer of this capacity, in an array of so many states. -/
  newEncodeState : (capacity stateCount : ℕ) → EncodeState
  newDecodeState : (payload : List UInt8) → (stateCount : ℕ) → DecodeState
  /-- The bytes in front of the payload pointer. -/
  written : EncodeState → List UInt8
  /-- How far the payload pointer is from the start. -/
  consumed : DecodeState → ℕ
  uint32Encode : UInt32 → Walk EncodeState Unit
  int32Encode : Int32 → Walk EncodeState Unit
  tstrEncode : Text → Walk EncodeState Unit
  boolEncode : Bool → Walk EncodeState Unit
  float32Encode : UInt32 → Walk EncodeState Unit
  /-- With the largest number of elements, which the head of a list of known length has. -/
  listStartEncode : ℕ → Walk EncodeState Unit
  listEndEncode : ℕ → Walk EncodeState Unit
  mapStartEncode : ℕ → Walk EncodeState Unit
  mapEndEncode : ℕ → Walk EncodeState Unit
  listMapEndForceEncode : Walk EncodeState Unit
  uint32Decode : Walk DecodeState UInt32
  int32Decode : Walk DecodeState Int32
  int64Decode : Walk DecodeState ℤ
  tstrDecode : Walk DecodeState Text
  boolDecode : Walk DecodeState Bool
  float32Decode : Walk DecodeState UInt32
  listStartDecode : Walk DecodeState Unit
  listEndDecode : Walk DecodeState Unit
  mapStartDecode : Walk DecodeState Unit
  mapEndDecode : Walk DecodeState Unit
  listMapEndForceDecode : Walk DecodeState Unit
  arrayAtEnd : DecodeState → Bool

namespace Zcbor

variable (zcbor : Zcbor)

/-- `zcbor_entry_function` of an encoder: the bytes it wrote. -/
def encodeEntry (stateCount capacity : ℕ) (encoder : Walk zcbor.EncodeState Unit) :
    Option (List UInt8) :=
  match encoder.step (zcbor.newEncodeState capacity stateCount) with
  | (some (), state) => some (zcbor.written state)
  | (none, _) => none

/-- `zcbor_entry_function` of a decoder: the value and how many bytes it took. -/
def decodeEntry {α : Type} (stateCount : ℕ) (payload : List UInt8)
    (decoder : Walk zcbor.DecodeState α) : Option (α × ℕ) :=
  match decoder.step (zcbor.newDecodeState payload stateCount) with
  | (some value, state) => some (value, zcbor.consumed state)
  | (none, _) => none

/-- A list as the generated encoders write one: `size` is the largest number of elements. -/
def listEncode (size : ℕ) (items : Walk zcbor.EncodeState Unit) : Walk zcbor.EncodeState Unit := do
  zcbor.listStartEncode size
  items.cleanUp zcbor.listMapEndForceEncode
  zcbor.listEndEncode size

/-- `zcbor_map_start_encode`, the items and `zcbor_map_end_encode`, closed after a failure. -/
def mapEncode (size : ℕ) (items : Walk zcbor.EncodeState Unit) : Walk zcbor.EncodeState Unit := do
  zcbor.mapStartEncode size
  items.cleanUp zcbor.listMapEndForceEncode
  zcbor.mapEndEncode size

/-- A list as the generated decoders read one. -/
def listDecode {α : Type} (items : Walk zcbor.DecodeState α) : Walk zcbor.DecodeState α := do
  zcbor.listStartDecode
  let value ← items.cleanUp zcbor.listMapEndForceDecode
  zcbor.listEndDecode
  return value

/-- The elements of a list that is in another; for an element that fails, all three lists are
given up. -/
def decodeElements {α : Type} (element : Walk zcbor.DecodeState α) (rounds : ℕ) :
    Walk zcbor.DecodeState (List α) :=
  Walk.many zcbor.arrayAtEnd
    (fun _ => element.cleanUp do
      zcbor.listMapEndForceDecode.ignore
      zcbor.listEndDecode.ignore
      zcbor.listEndDecode)
    rounds []

/-- What the library does. `Room` and `At` are what it knows of its states: the bytes written
and the room left; where the decoder stands. The first of the states in an array is the one in
use and the last holds constants, so the rest are backups. -/
structure Laws where
  Room : zcbor.EncodeState → List UInt8 → ℕ → Prop
  At : zcbor.DecodeState → Cursor → Prop
  room_new (capacity stateCount : ℕ) : Room (zcbor.newEncodeState capacity stateCount) [] capacity
  written_eq {state out room} : Room state out room → zcbor.written state = out
  at_new (payload : List UInt8) (stateCount : ℕ) :
    At (zcbor.newDecodeState payload stateCount) ⟨[], payload, 0, stateCount - 2⟩
  consumed_eq {state cursor} : At state cursor → zcbor.consumed state = cursor.before.length
  uint32Encode (value : UInt32) : Writes Room (zcbor.uint32Encode value) (uintBytes value)
  int32Encode (value : Int32) : Writes Room (zcbor.int32Encode value) (intBytes value)
  tstrEncode (text : Text) : Writes Room (zcbor.tstrEncode text) (tstrBytes text)
  boolEncode (value : Bool) : Writes Room (zcbor.boolEncode value) (boolBytes value)
  float32Encode (bits : UInt32) : Writes Room (zcbor.float32Encode bits) (floatBytes bits)
  listStartEncode (size : ℕ) : Writes Room (zcbor.listStartEncode size) [listStart]
  listEndEncode (size : ℕ) : Writes Room (zcbor.listEndEncode size) [breakByte]
  mapStartEncode (size : ℕ) : Writes Room (zcbor.mapStartEncode size) [mapStart]
  mapEndEncode (size : ℕ) : Writes Room (zcbor.mapEndEncode size) [breakByte]
  uint32Decode (value : UInt32) {needs : ℕ} :
    Reads At zcbor.uint32Decode (uintBytes value) value needs
  int32Decode (value : Int32) {needs : ℕ} : Reads At zcbor.int32Decode (intBytes value) value needs
  int64Decode (value : Int32) {needs : ℕ} :
    Reads At zcbor.int64Decode (intBytes value) value.toInt needs
  tstrDecode (text : Text) {needs : ℕ} : Reads At zcbor.tstrDecode (tstrBytes text) text needs
  boolDecode (value : Bool) {needs : ℕ} : Reads At zcbor.boolDecode (boolBytes value) value needs
  float32Decode (bits : UInt32) {needs : ℕ} :
    Reads At zcbor.float32Decode (floatBytes bits) bits needs
  /-- A container is entered where a state is left for it. -/
  listStartDecode (before rest : List UInt8) (depth free : ℕ) :
    Cursor.MayRead ⟨before, listStart :: rest, depth, free + 1⟩ →
      Runs At zcbor.listStartDecode () ⟨before, listStart :: rest, depth, free + 1⟩
        ⟨before ++ [listStart], rest, depth + 1, free⟩
  mapStartDecode (before rest : List UInt8) (depth free : ℕ) :
    Cursor.MayRead ⟨before, mapStart :: rest, depth, free + 1⟩ →
      Runs At zcbor.mapStartDecode () ⟨before, mapStart :: rest, depth, free + 1⟩
        ⟨before ++ [mapStart], rest, depth + 1, free⟩
  listEndDecode (before rest : List UInt8) (depth free : ℕ) :
    Runs At zcbor.listEndDecode () ⟨before, breakByte :: rest, depth + 1, free⟩
      ⟨before ++ [breakByte], rest, depth, free + 1⟩
  mapEndDecode (before rest : List UInt8) (depth free : ℕ) :
    Runs At zcbor.mapEndDecode () ⟨before, breakByte :: rest, depth + 1, free⟩
      ⟨before ++ [breakByte], rest, depth, free + 1⟩
  atEnd {state before rest depth free} : 0 < depth →
    At state ⟨before, breakByte :: rest, depth, free⟩ → zcbor.arrayAtEnd state = true
  not_atEnd {state before byte rest depth free} : 0 < depth → byte ≠ breakByte →
    At state ⟨before, byte :: rest, depth, free⟩ → zcbor.arrayAtEnd state = false
  /-- An item of another type is refused and not taken. -/
  uint32Decode_tstr (text : Text) : Refuses At zcbor.uint32Decode (tstrBytes text)
  mapStartDecode_tstr (text : Text) : Refuses At zcbor.mapStartDecode (tstrBytes text)
  mapStartDecode_uint (value : UInt32) : Refuses At zcbor.mapStartDecode (uintBytes value)
  tstrDecode_uint (value : UInt32) : Refuses At zcbor.tstrDecode (uintBytes value)
  int64Decode_tstr (text : Text) : Refuses At zcbor.int64Decode (tstrBytes text)
  int64Decode_bool (value : Bool) : Refuses At zcbor.int64Decode (boolBytes value)
  tstrDecode_bool (value : Bool) : Refuses At zcbor.tstrDecode (boolBytes value)

namespace Laws

variable {zcbor} {α β : Type} (laws : zcbor.Laws)

theorem listEncode (size : ℕ) {items : Walk zcbor.EncodeState Unit} {bytes : List UInt8}
    (writes : Writes laws.Room items bytes) :
    Writes laws.Room (zcbor.listEncode size items) (containerBytes listStart bytes) :=
  (laws.listStartEncode size).bind ((writes.cleanUp _).bind (laws.listEndEncode size))

theorem mapEncode (size : ℕ) {items : Walk zcbor.EncodeState Unit} {bytes : List UInt8}
    (writes : Writes laws.Room items bytes) :
    Writes laws.Room (zcbor.mapEncode size items) (containerBytes mapStart bytes) :=
  (laws.mapStartEncode size).bind ((writes.cleanUp _).bind (laws.mapEndEncode size))

/-- What is read inside a container, between the steps that enter and leave it, and what is
done after it. -/
theorem container {enter leave : Walk zcbor.DecodeState Unit} {body : Walk zcbor.DecodeState α}
    {after : α → Walk zcbor.DecodeState β} {start : UInt8} {bytes : List UInt8} {value : α}
    {result : β} {needs : ℕ}
    (enters : ∀ before rest depth free, Cursor.MayRead ⟨before, start :: rest, depth, free + 1⟩ →
      Runs laws.At enter () ⟨before, start :: rest, depth, free + 1⟩
        ⟨before ++ [start], rest, depth + 1, free⟩)
    (leaves : ∀ before rest depth free,
      Runs laws.At leave () ⟨before, breakByte :: rest, depth + 1, free⟩
        ⟨before ++ [breakByte], rest, depth, free + 1⟩)
    (reads : ReadsBefore laws.At AtBreak body bytes value needs)
    {before rest : List UInt8} {depth free : ℕ} {finish : Cursor}
    (mayRead : Cursor.MayRead ⟨before, containerBytes start bytes ++ rest, depth, free⟩)
    (enough : needs + 1 ≤ free)
    (afterwards : Runs laws.At (after value) result
      ⟨before ++ containerBytes start bytes, rest, depth, free⟩ finish) :
    Runs laws.At (do enter; let value ← body; leave; after value) result
      ⟨before, containerBytes start bytes ++ rest, depth, free⟩ finish := by
  obtain ⟨free, rfl⟩ : ∃ fewer, free = fewer + 1 := ⟨free - 1, by omega⟩
  -- In, through the elements and out: three runs that meet at the same cursors.
  have entered := enters before (bytes ++ (breakByte :: rest)) depth free mayRead
  have inside := reads (before ++ [start]) (breakByte :: rest) (depth + 1) free ⟨rest, rfl⟩
    (Nat.succ_pos _) (by omega)
  have left := leaves (before ++ [start] ++ bytes) rest depth free
  have ahead : containerBytes start bytes ++ rest = start :: (bytes ++ breakByte :: rest) := by
    simp [containerBytes]
  have behind :
      before ++ containerBytes start bytes = before ++ [start] ++ bytes ++ [breakByte] := by
    simp [containerBytes]
  rw [behind] at afterwards
  rw [ahead]
  exact entered.bind (inside.bind (left.bind afterwards))

/-- A list between its start and its end. -/
theorem list {body : Walk zcbor.DecodeState α} {bytes : List UInt8} {value : α} {needs : ℕ}
    (reads : Reads laws.At body bytes value needs) :
    Reads laws.At (do zcbor.listStartDecode; let value ← body; zcbor.listEndDecode; return value)
      (containerBytes listStart bytes) value (needs + 1) := by
  intro before rest depth free _ inside enough
  have whole : ReadsBefore laws.At AtBreak body bytes value needs := by
    intro before rest depth free _
    exact reads before rest depth free trivial
  exact laws.container laws.listStartDecode laws.listEndDecode whole (Or.inl inside) enough
    (Runs.pure value _)

theorem listDecode {body : Walk zcbor.DecodeState α} {bytes : List UInt8} {value : α} {needs : ℕ}
    (reads : Reads laws.At body bytes value needs) :
    Reads laws.At (zcbor.listDecode body) (containerBytes listStart bytes) value (needs + 1) :=
  laws.list (reads.cleanUp _)

/-- A list that is the last field of another, read by a decoder that cleans up after each step. -/
theorem lastList {body : Walk zcbor.DecodeState α} {bytes : List UInt8} {value : α} {needs : ℕ}
    (reads : ReadsBefore laws.At AtBreak body bytes value needs)
    (entering leaving : Walk zcbor.DecodeState Unit) (make : α → β) :
    Reads laws.At (do
        zcbor.listStartDecode.cleanUp entering
        let value ← body
        zcbor.listEndDecode.cleanUp leaving
        return make value)
      (containerBytes listStart bytes ++ []) (make value) (needs + 1) := by
  intro before rest depth free _ inside enough
  rw [List.append_nil]
  exact laws.container
    (fun before rest depth free mayRead =>
      (laws.listStartDecode before rest depth free mayRead).cleanUp entering)
    (fun before rest depth free => (laws.listEndDecode before rest depth free).cleanUp leaving)
    reads (Or.inl inside) enough (Runs.pure (make value) _)

/-- A payload that is one list in another, read by a decoder that cleans up after each step. -/
theorem listInList {body : Walk zcbor.DecodeState α} {bytes : List UInt8} {value : α} {needs : ℕ}
    (reads : ReadsBefore laws.At AtBreak body bytes value needs)
    (entering leaving : Walk zcbor.DecodeState Unit) (make : α → β) (free : ℕ)
    (enough : needs + 2 ≤ free) :
    Runs laws.At (do
        zcbor.listStartDecode
        zcbor.listStartDecode.cleanUp entering
        let value ← body
        zcbor.listEndDecode.cleanUp leaving
        zcbor.listEndDecode
        return make value)
      (make value) ⟨[], containerBytes listStart (containerBytes listStart bytes), 0, free⟩
      ⟨containerBytes listStart (containerBytes listStart bytes), [], 0, free⟩ := by
  obtain ⟨free, rfl⟩ : ∃ fewer, free = fewer + 1 := ⟨free - 1, by omega⟩
  have entered := laws.listStartDecode [] (containerBytes listStart bytes ++ [breakByte]) 0 free
    (Or.inr rfl)
  have left := laws.listEndDecode ([] ++ [listStart] ++ containerBytes listStart bytes) [] 0 free
  have afterwards := left.bind (f := fun _ => pure (make value)) (Runs.pure (make value) _)
  exact entered.bind (laws.container
    (fun before rest depth free mayRead =>
      (laws.listStartDecode before rest depth free mayRead).cleanUp entering)
    (fun before rest depth free => (laws.listEndDecode before rest depth free).cleanUp leaving)
    reads (Or.inl Nat.one_pos) (by omega) afterwards)

/-- Elements up to the end of their container: no element starts like a break, and every element
is read where no more than all others were read before it. -/
theorem many {element : List α → Walk zcbor.DecodeState α} {encoding : α → List UInt8}
    {items : List α} {needs rounds : ℕ}
    (each : ∀ seen, seen.length < items.length → ∀ item ∈ items,
      Reads laws.At (element seen) (encoding item) item needs)
    (starts : ∀ item ∈ items, ∃ byte tail, encoding item = byte :: tail ∧ byte ≠ breakByte)
    (enough : (items.flatMap encoding).length < rounds) :
    ReadsBefore laws.At AtBreak (Walk.many zcbor.arrayAtEnd element rounds [])
      (items.flatMap encoding) items needs := by
  have few : items.length ≤ (items.flatMap encoding).length := by
    apply length_le_length_flatMap
    intro item member
    obtain ⟨byte, tail, lead, -⟩ := starts item member
    rw [lead]
    exact List.cons_ne_nil byte tail
  rw [← List.nil_append items]
  apply ReadsBefore.many _ _ each starts rounds [] (by omega) (by simp)
  · intro state before rest depth free
    exact laws.atEnd
  · intro state before byte rest depth free
    exact laws.not_atEnd

theorem elements {element : Walk zcbor.DecodeState α} {encoding : α → List UInt8}
    {items : List α} {needs rounds : ℕ}
    (each : ∀ item ∈ items, Reads laws.At element (encoding item) item needs)
    (starts : ∀ item ∈ items, ∃ byte tail, encoding item = byte :: tail ∧ byte ≠ breakByte)
    (enough : (items.flatMap encoding).length < rounds) :
    ReadsBefore laws.At AtBreak (zcbor.decodeElements element rounds) (items.flatMap encoding)
      items needs :=
  laws.many (fun _ _ item member => (each item member).cleanUp _) starts enough

/-- An encoder that fits its buffer gives its bytes. -/
theorem encodeEntry {encoder : Walk zcbor.EncodeState Unit} {bytes : List UInt8}
    (writes : Writes laws.Room encoder bytes) (stateCount : ℕ) {capacity : ℕ}
    (fits : bytes.length ≤ capacity) :
    zcbor.encodeEntry stateCount capacity encoder = some bytes := by
  obtain ⟨state, step, room⟩ := writes _ _ _ (laws.room_new capacity stateCount) fits
  rw [Zcbor.encodeEntry, step]
  exact congrArg some (laws.written_eq room)

/-- A decoder that reads a payload to its end gives the value and its length. -/
theorem decodeEntry {decoder : Walk zcbor.DecodeState α} {payload : List UInt8} {value : α}
    {stateCount : ℕ}
    (runs : Runs laws.At decoder value ⟨[], payload, 0, stateCount - 2⟩
      ⟨payload, [], 0, stateCount - 2⟩) :
    zcbor.decodeEntry stateCount payload decoder = some (value, payload.length) := by
  obtain ⟨state, step, there⟩ := runs _ (laws.at_new payload stateCount)
  rw [Zcbor.decodeEntry, step]
  exact congrArg (fun taken => some (value, taken)) (laws.consumed_eq there)

end Laws

end Zcbor

end RtCore.Cbor
