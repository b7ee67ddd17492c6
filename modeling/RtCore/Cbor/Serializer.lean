import RtCore.Cbor.Zcbor

/-!
# Serializing configurations

`CborSizeCalc` computes how many bytes the items of a configuration take, so that
`CborSerializer` can give the encoder a buffer of that size; a buffer that is too small makes
the encoder fail. The decoder has to take every byte of its input.

## Main definitions

* `CborSizeCalc.sizeOfUint` and the other sizes
* `CborTrait` — the encoder, the decoder and the size of a type of configuration
* `CborSerializer.serialize`, `CborSerializer.deserialize`
* `RoundTrips` — a value fits its computed size and is read back as it was

## Main results

* `RoundTrips.of_runs` — from what the encoder writes and the decoder reads
-/

namespace RtCore.Cbor

open RtCore.Foundation

/-! ### Sizes -/

namespace CborSizeCalc

/-- The size of an unsigned number: its head. -/
def sizeOfUint (value : ℕ) : ℕ :=
  if value ≤ 23 then 1
  else if value ≤ 0xFF then 2
  else if value ≤ 0xFFFF then 3
  else if value ≤ 0xFFFFFFFF then 5
  else 9

/-- A negative integer is encoded as `-1 - value`. -/
def sizeOfInt (value : ℤ) : ℕ :=
  if 0 ≤ value then sizeOfUint value.toNat else sizeOfUint (-1 - value).toNat

/-- The size of the head in front of a text of this length. -/
def sizeOfLength (length : ℕ) : ℕ :=
  if length ≤ 23 then 1
  else if length ≤ 0xFF then 2
  else if length ≤ 0xFFFF then 3
  else if length ≤ 0xFFFFFFFF then 5
  else 9

/-- The size of a text with its head. -/
def sizeOfTstr (text : Text) : ℕ := sizeOfLength text.size + text.size

/-- The start and the break of a list or a map. -/
def sizeOfIndefiniteArrayStart : ℕ := 2

/-- The size of a truth value. -/
def sizeOfBool (_ : Bool) : ℕ := 1

/-- The size of a float of 32 bits. -/
def sizeOfFloat (_ : UInt32) : ℕ := 5

/-- The size of a value where there is one, and nothing else. -/
def sizeOfOptional {α : Type} (value : Option α) (sizeFunc : α → ℕ) : ℕ :=
  match value with
  | some value => sizeFunc value
  | none => 0

end CborSizeCalc

open CborSizeCalc

@[simp] theorem length_head (major number : ℕ) :
    (head major number).length = sizeOfUint number := by
  unfold head sizeOfUint
  split_ifs <;> simp

@[simp] theorem length_uintBytes (value : UInt32) :
    (uintBytes value).length = sizeOfUint value.toNat :=
  length_head 0 _

@[simp] theorem length_intBytes (value : Int32) :
    (intBytes value).length = sizeOfInt value.toInt := by
  unfold intBytes sizeOfInt
  split_ifs <;> exact length_head _ _

@[simp] theorem length_tstrBytes (text : Text) : (tstrBytes text).length = sizeOfTstr text := by
  rw [tstrBytes, List.length_append, length_head]
  rfl

@[simp] theorem length_boolBytes (value : Bool) : (boolBytes value).length = sizeOfBool value := rfl

@[simp] theorem length_floatBytes (bits : UInt32) :
    (floatBytes bits).length = sizeOfFloat bits := by
  simp [floatBytes, sizeOfFloat]

@[simp] theorem length_containerBytes (start : UInt8) (items : List UInt8) :
    (containerBytes start items).length = sizeOfIndefiniteArrayStart + items.length := by
  rw [containerBytes, List.length_cons, List.length_append, List.length_singleton,
    sizeOfIndefiniteArrayStart]
  omega

/-- No container starts as one ends. -/
theorem containerBytes_start {start : UInt8} (other : start ≠ breakByte) (items : List UInt8) :
    ∃ byte tail, containerBytes start items = byte :: tail ∧ byte ≠ breakByte :=
  ⟨start, _, rfl, other⟩

/-! ### The serializer -/

/-- The functions registered for a type of configuration. -/
structure CborTrait (T : Type) where
  /-- The bytes an encoder writes into a buffer of this size. -/
  encode : (capacity : ℕ) → T → Option (List UInt8)
  /-- The value and how many bytes it took. -/
  decode : List UInt8 → Option (T × ℕ)
  getSize : T → ℕ

namespace CborSerializer

variable {T : Type} (trait : CborTrait T)

/-- An encoder that fails leaves nothing. -/
def serialize (object : T) : List UInt8 :=
  match trait.encode (trait.getSize object) object with
  | some bytes => bytes
  | none => []

/-- Trailing bytes are rejected. -/
def deserialize (input : List UInt8) : Option T :=
  match trait.decode input with
  | some (object, decodedSize) => if decodedSize ≠ input.length then none else some object
  | none => none

end CborSerializer

/-- The encoding of a value fits the size computed for it, so that serializing gives it, and
deserializing it takes every byte and gives the value back. -/
structure RoundTrips {T : Type} (trait : CborTrait T) (object : T) : Prop where
  fits : ∃ bytes,
    (∀ capacity, bytes.length ≤ capacity → trait.encode capacity object = some bytes) ∧
    bytes ≠ [] ∧ bytes.length ≤ trait.getSize object ∧ CborSerializer.serialize trait object = bytes
  taken : trait.decode (CborSerializer.serialize trait object) =
    some (object, (CborSerializer.serialize trait object).length)
  restored : CborSerializer.deserialize trait (CborSerializer.serialize trait object) = some object

/-- The trait of a codec: `encoder` and `decoder` are its walks; a decoder goes at most `rounds`
times through a loop. -/
def Zcbor.trait {T : Type} (zcbor : Zcbor) (stateCount : ℕ)
    (encoder : T → Walk zcbor.EncodeState Unit)
    (decoder : (rounds : ℕ) → Walk zcbor.DecodeState T) (getSize : T → ℕ) : CborTrait T where
  encode capacity object := zcbor.encodeEntry stateCount capacity (encoder object)
  decode payload := zcbor.decodeEntry stateCount payload (decoder (payload.length + 1))
  getSize

variable {T : Type} {zcbor : Zcbor} (laws : zcbor.Laws) {stateCount : ℕ}
  {encoder : T → Walk zcbor.EncodeState Unit} {decoder : (rounds : ℕ) → Walk zcbor.DecodeState T}
  {getSize : T → ℕ} {object : T} {bytes : List UInt8}

theorem RoundTrips.of_runs (nonempty : bytes ≠ []) (fits : bytes.length ≤ getSize object)
    (writes : Writes laws.Room (encoder object) bytes)
    (runs : Runs laws.At (decoder (bytes.length + 1)) object ⟨[], bytes, 0, stateCount - 2⟩
      ⟨bytes, [], 0, stateCount - 2⟩) :
    RoundTrips (zcbor.trait stateCount encoder decoder getSize) object := by
  have encodes (capacity : ℕ) (room : bytes.length ≤ capacity) :
      (zcbor.trait stateCount encoder decoder getSize).encode capacity object = some bytes :=
    laws.encodeEntry writes stateCount room
  have serialized :
      CborSerializer.serialize (zcbor.trait stateCount encoder decoder getSize) object = bytes := by
    have room : bytes.length ≤ (zcbor.trait stateCount encoder decoder getSize).getSize object :=
      fits
    rw [CborSerializer.serialize, encodes _ room]
  have decoded : (zcbor.trait stateCount encoder decoder getSize).decode bytes =
      some (object, bytes.length) :=
    laws.decodeEntry runs
  constructor
  · exact ⟨bytes, encodes, nonempty, fits, serialized⟩
  · rw [serialized, decoded]
  · rw [serialized, CborSerializer.deserialize, decoded]
    simp

end RtCore.Cbor
