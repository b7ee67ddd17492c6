import Mathlib.Data.Nat.Bitwise

/-!
# Little-endian words on a byte stream

The bytes of 16- and 32-bit words, least significant first, and the words put
together again with shifts and disjunctions, as C code writes them.
-/

namespace RtCore.Foundation

/-- The two bytes of a 16-bit word, least significant first. -/
def uint16Bytes (word : UInt16) : List UInt8 := [word.toUInt8, (word >>> 8).toUInt8]

/-- The four bytes of a 32-bit word, least significant first. -/
def uint32Bytes (word : UInt32) : List UInt8 :=
  [word.toUInt8, (word >>> 8).toUInt8, (word >>> 16).toUInt8, (word >>> 24).toUInt8]

/-- `(b₁ << 8) | b₀`. -/
def uint16OfBytes (b₀ b₁ : UInt8) : UInt16 := (b₁.toUInt16 <<< 8) ||| b₀.toUInt16

/-- `(b₃ << 24) | (b₂ << 16) | (b₁ << 8) | b₀`. -/
def uint32OfBytes (b₀ b₁ b₂ b₃ : UInt8) : UInt32 :=
  (b₃.toUInt32 <<< 24) ||| (b₂.toUInt32 <<< 16) ||| (b₁.toUInt32 <<< 8) ||| b₀.toUInt32

/-- Disjoint bit fields are joined by addition. -/
private theorem or_eq_add (width : ℕ) {high low : ℕ} (multiple : 2 ^ width ∣ high)
    (small : low < 2 ^ width) : high ||| low = high + low := by
  obtain ⟨factor, rfl⟩ := multiple
  exact (Nat.two_pow_add_eq_or_of_lt small factor).symm

@[simp] theorem uint16OfBytes_uint16Bytes (word : UInt16) :
    uint16OfBytes word.toUInt8 (word >>> 8).toUInt8 = word := by
  apply UInt16.toNat_inj.mp
  have bound := word.toNat_lt
  simp only [uint16OfBytes, UInt16.toNat_or, UInt16.toNat_shiftLeft, UInt8.toNat_toUInt16,
    UInt16.toNat_toUInt8, UInt16.toNat_shiftRight]
  generalize word.toNat = n at bound ⊢
  simp only [Nat.shiftRight_eq_div_pow, Nat.shiftLeft_eq, UInt16.toNat_ofNat, Nat.reduceMod,
    Nat.reducePow] at bound ⊢
  rw [or_eq_add 8 (by omega) (by omega)]
  omega

@[simp] theorem uint32OfBytes_uint32Bytes (word : UInt32) :
    uint32OfBytes word.toUInt8 (word >>> 8).toUInt8 (word >>> 16).toUInt8
      (word >>> 24).toUInt8 = word := by
  apply UInt32.toNat_inj.mp
  have bound := word.toNat_lt
  simp only [uint32OfBytes, UInt32.toNat_or, UInt32.toNat_shiftLeft, UInt8.toNat_toUInt32,
    UInt32.toNat_toUInt8, UInt32.toNat_shiftRight]
  generalize word.toNat = n at bound ⊢
  simp only [Nat.shiftRight_eq_div_pow, Nat.shiftLeft_eq, UInt32.toNat_ofNat, Nat.reduceMod,
    Nat.reducePow] at bound ⊢
  -- The disjunction associates to the left, so the two high fields are joined first.
  have joined : n / 16777216 % 256 * 16777216 % 4294967296 ||| n / 65536 % 256 * 65536 % 4294967296
      = n / 65536 % 65536 * 65536 := by
    rw [or_eq_add 24 (by omega) (by omega)]
    omega
  have joined' : n / 65536 % 65536 * 65536 ||| n / 256 % 256 * 256 % 4294967296
      = n / 256 % 16777216 * 256 := by
    rw [or_eq_add 16 (by omega) (by omega)]
    omega
  rw [joined, joined', or_eq_add 8 (by omega) (by omega)]
  omega

/-! ### Words of any width -/

/-- The `width` low bytes of a number, least significant first, as `memcpy` takes them from memory
on a little-endian host. -/
def leBytes : ℕ → ℕ → List UInt8
  | 0, _ => []
  | width + 1, number => UInt8.ofNat number :: leBytes width (number / 256)

/-- The number that bytes denote, least significant first. -/
def ofLeBytes : List UInt8 → ℕ
  | [] => 0
  | byte :: bytes => byte.toNat + 256 * ofLeBytes bytes

@[simp] theorem length_leBytes (width number : ℕ) : (leBytes width number).length = width := by
  induction width generalizing number with
  | zero => rfl
  | succ width ih => simp [leBytes, ih]

/-- Reading the bytes back gives the number, up to the width. -/
theorem ofLeBytes_leBytes_mod (width number : ℕ) :
    ofLeBytes (leBytes width number) = number % 256 ^ width := by
  induction width generalizing number with
  | zero => simp [leBytes, ofLeBytes, Nat.mod_one]
  | succ width ih =>
    have split : 256 ^ (width + 1) = 256 * 256 ^ width := Nat.pow_succ'
    rw [leBytes, ofLeBytes, ih, UInt8.toNat_ofNat', split, Nat.mod_mul]

/-- Reading the bytes back gives the number, if it fits the width. -/
theorem ofLeBytes_leBytes {width number : ℕ} (fits : number < 256 ^ width) :
    ofLeBytes (leBytes width number) = number := by
  rw [ofLeBytes_leBytes_mod, Nat.mod_eq_of_lt fits]

/-- The number read from bytes has these bytes. -/
theorem leBytes_ofLeBytes (bytes : List UInt8) :
    leBytes bytes.length (ofLeBytes bytes) = bytes := by
  induction bytes with
  | nil => rfl
  | cons byte bytes ih =>
    have small := byte.toNat_lt
    have high : (byte.toNat + 256 * ofLeBytes bytes) / 256 = ofLeBytes bytes := by omega
    have low : UInt8.ofNat (byte.toNat + 256 * ofLeBytes bytes) = byte := by
      apply UInt8.toNat_inj.mp
      rw [UInt8.toNat_ofNat']
      omega
    rw [List.length_cons, leBytes, ofLeBytes, high, low, ih]

theorem ofLeBytes_lt (bytes : List UInt8) : ofLeBytes bytes < 256 ^ bytes.length := by
  induction bytes with
  | nil => simp [ofLeBytes]
  | cons byte bytes ih =>
    have small := byte.toNat_lt
    rw [List.length_cons, Nat.pow_succ', ofLeBytes]
    omega

/-! ### Writes to a file -/

/-- A file after one byte is written at an offset; a gap before it is filled with zeros. -/
def setByte (data : List UInt8) (cell : UInt8 × ℕ) : List UInt8 :=
  if cell.2 < data.length then data.set cell.2 cell.1
  else data ++ List.replicate (cell.2 - data.length) 0 ++ [cell.1]

/-- A file after bytes are written, each at its offset. -/
def writeCells (data : List UInt8) (cells : List (UInt8 × ℕ)) : List UInt8 :=
  cells.foldl setByte data

theorem writeCells_append (data : List UInt8) (first second : List (UInt8 × ℕ)) :
    writeCells data (first ++ second) = writeCells (writeCells data first) second :=
  List.foldl_append

/-- Bytes written over bytes of the file and past its end. -/
theorem writeCells_zipIdx (before old new : List UInt8) (shorter : old.length ≤ new.length) :
    writeCells (before ++ old) (new.zipIdx before.length) = before ++ new := by
  induction new generalizing before old with
  | nil =>
    have nothing : old = [] := List.length_eq_zero_iff.mp (Nat.le_zero.mp shorter)
    rw [nothing]
    rfl
  | cons byte new ih =>
    have rest : ∀ old : List UInt8, old.length ≤ new.length →
        writeCells (before ++ [byte] ++ old) (new.zipIdx (before.length + 1)) =
          before ++ [byte] ++ new := by
      intro old shorter
      have step := ih (before ++ [byte]) old shorter
      rwa [List.length_append, List.length_singleton] at step
    rw [List.zipIdx_cons, writeCells, List.foldl_cons]
    cases old with
    | nil =>
      have appended := rest [] (Nat.zero_le _)
      simpa [setByte, writeCells] using appended
    | cons first old =>
      have replaced := rest old (by simpa using shorter)
      simpa [setByte, writeCells] using replaced

/-- Bytes written over as many bytes in the middle of the file. -/
theorem writeCells_middle (before old new after : List UInt8) (same : old.length = new.length) :
    writeCells (before ++ old ++ after) (new.zipIdx before.length) = before ++ new ++ after := by
  induction new generalizing before old with
  | nil =>
    rw [List.length_eq_zero_iff.mp same]
    rfl
  | cons byte new ih =>
    cases old with
    | nil => cases same
    | cons first old =>
      have step := ih (before ++ [byte]) old (by simpa using same)
      rw [List.length_append, List.length_singleton] at step
      rw [List.zipIdx_cons, writeCells, List.foldl_cons]
      simpa [setByte, writeCells] using step

end RtCore.Foundation
