import RtCore.Foundation.Bytes
import Mathlib.Data.FinEnum
import Mathlib.Data.List.Basic

/-!
# The identity of a firmware image

A signed image names the product and the board it is built for in a protected TLV. The collector
reads it while the image is uploaded, from chunks of any size, through one window that is first
over the header and then over the protected TLV area.

## Main definitions

* `ImageIdentity.parse`, `ImageIdentity.encode` — the value of the identity TLV
* `ImageIdentityCollector.feed` — one chunk
-/

namespace RtCore.Dfu

open RtCore.Foundation

/-- What the identity check of an image in transfer has come to. -/
inductive ImageIdentityResult
  | needMore
  | matched
  | noIdentity
  | wrongProduct
  | wrongBoard
  | badIdentity
deriving DecidableEq, Repr

/-- `ReadU16`. -/
def readU16 (bytes : List UInt8) (offset : ℕ) : ℕ := ofLeBytes ((bytes.drop offset).take 2)

/-- `ReadU32`. -/
def readU32 (bytes : List UInt8) (offset : ℕ) : ℕ := ofLeBytes ((bytes.drop offset).take 4)

namespace ImageIdentity

/-- The type of the TLV that holds an identity. -/
def tlvType : ℕ := 0x00A0
/-- The format of an identity that is known. -/
def format : UInt8 := 1
/-- Format, product ID and board length, ahead of the board. -/
def fixedSize : ℕ := 4
/-- The longest board an identity names. -/
def maxBoardLength : ℕ := 116

end ImageIdentity

/-- The product and the board a firmware image is built for. -/
structure ImageIdentity where
  productId : UInt16
  board : List UInt8
  length_le : board.length ≤ ImageIdentity.maxBoardLength
  printable : ∀ char ∈ board, 0x20 ≤ char ∧ char ≤ 0x7E
deriving DecidableEq

namespace ImageIdentity

/-- `Create`; nothing where the board is too long or not printable ASCII. -/
def create? (productId : UInt16) (board : List UInt8) : Option ImageIdentity :=
  if length_le : board.length ≤ maxBoardLength then
    if printable : ∀ char ∈ board, 0x20 ≤ char ∧ char ≤ 0x7E then
      some { productId, board, length_le, printable }
    else none
  else none

/-- `Parse`: the identity a TLV's value holds, if it holds one. -/
def parse (value : List UInt8) : Option ImageIdentity :=
  if value.length < fixedSize ∨ value[0]? ≠ some format then none
  else
    let boardLength := (value.getD 3 0).toNat
    if value.length ≠ fixedSize + boardLength then none
    else create? (UInt16.ofNat (readU16 value 1)) ((value.drop fixedSize).take boardLength)

/-- The bytes of the value and the buffer they are written to; no bytes where it is too small. -/
def encode (identity : ImageIdentity) (out : List UInt8) : ℕ × List UInt8 :=
  let size := fixedSize + identity.board.length
  if out.length < size then (0, out)
  else
    (size, [format, identity.productId.toUInt8, (identity.productId >>> 8).toUInt8,
      UInt8.ofNat identity.board.length] ++ identity.board ++ out.drop size)

/-- The identity of an image against the unit's own. -/
def check (own image : ImageIdentity) : ImageIdentityResult :=
  if image.productId ≠ own.productId then .wrongProduct
  else if image.board ≠ own.board then .wrongBoard
  else .matched

end ImageIdentity

/-! ### The collector -/

namespace ImageIdentityCollector

/-- The bytes of a header that are looked at. -/
def headerSize : ℕ := 32
/-- The largest protected TLV area the window has room for. -/
def maxProtectedTlvSize : ℕ := 128
/-- The magic number of an image. -/
def headerMagic : ℕ := 0x96F3B83D
/-- The magic number of a protected TLV area. -/
def protectedTlvMagic : ℕ := 0x6908
/-- Where a header has its magic number. -/
def headerMagicOffset : ℕ := 0
/-- Where a header has its size. -/
def headerSizeOffset : ℕ := 8
/-- Where a header has the size of the protected TLVs. -/
def headerProtectedTlvSizeOffset : ℕ := 10
/-- Where a header has the size of the image proper. -/
def headerImageSizeOffset : ℕ := 12
/-- The size of the area's own head: magic number and length. -/
def tlvInfoSize : ℕ := 4
/-- The size of a TLV's head: type and length. -/
def tlvHeaderSize : ℕ := 4

/-- What the collector waits for. -/
inductive Phase
  | header
  | tlvs
  | decided
deriving DecidableEq, Repr

end ImageIdentityCollector

open ImageIdentityCollector in
/-- `ImageIdentityCollector`: how far the image is known, and the window into it. -/
structure ImageIdentityCollector where
  own : ImageIdentity
  phase : Phase := .header
  result : ImageIdentityResult := .needMore
  /-- The image is known from its start up to here. -/
  received : ℕ := 0
  /-- The part of the image that the window holds when complete. -/
  windowStart : ℕ := 0
  windowSize : ℕ := headerSize
  window : Vector UInt8 maxProtectedTlvSize := Vector.replicate _ 0

/-- The width of `size_t`. -/
structure SizeType where
  bits : ℕ
  wide : 32 ≤ bits

/-- A sum in `size_t`, which may wrap. -/
def SizeType.add (size : SizeType) (a b : ℕ) : ℕ := (a + b) % 2 ^ size.bits

namespace ImageIdentityCollector

variable (size : SizeType) (collector : ImageIdentityCollector)

/-- `Reset`: a new image begins. -/
def reset : ImageIdentityCollector :=
  { collector with
    phase := .header
    result := .needMore
    received := 0
    windowStart := 0
    windowSize := headerSize }

/-- The collector has its result and looks at no more chunks. -/
def decide (result : ImageIdentityResult) : ImageIdentityCollector :=
  { collector with phase := .decided, result }

/-- The part of the chunk under the window is copied into it. -/
def copyToWindow (offset : ℕ) (chunk : List UInt8) : ImageIdentityCollector :=
  let first := max offset collector.windowStart
  let last := min (size.add offset chunk.length)
    (size.add collector.windowStart collector.windowSize)
  if last ≤ first then collector
  else
    { collector with
      window := collector.window.mapIdx fun i byte =>
        if first - collector.windowStart ≤ i ∧
            i < first - collector.windowStart + (last - first) then
          chunk.getD (first - offset + (i - (first - collector.windowStart))) 0
        else byte }

/-- The image is known up to the end of the window. -/
def isWindowComplete : Bool :=
  size.add collector.windowStart collector.windowSize ≤ collector.received

/-- The first bytes of the window. -/
def windowBytes (length : ℕ) : List UInt8 := collector.window.toList.take length

/-- Reads the header and sets up the window over the protected TLVs. -/
def parseHeader (imageSize : ℕ) : ImageIdentityCollector × ImageIdentityResult :=
  let header := collector.windowBytes headerSize
  let declaredHeaderSize := readU16 header headerSizeOffset
  let protectedSize := readU16 header headerProtectedTlvSizeOffset
  let payloadSize := readU32 header headerImageSizeOffset
  let decided (result : ImageIdentityResult) := (collector.decide result, result)
  if readU32 header headerMagicOffset ≠ headerMagic then decided .badIdentity
  else if declaredHeaderSize < headerSize then decided .badIdentity
  else if protectedSize = 0 then decided .noIdentity
  else if maxProtectedTlvSize < protectedSize then decided .badIdentity
  else
    -- In 64 bits, whatever `size_t` is.
    let areaStart := (declaredHeaderSize + payloadSize) % 2 ^ 64
    if imageSize < (areaStart + protectedSize) % 2 ^ 64 then decided .badIdentity
    else
      ({ collector with
          phase := .tlvs
          windowStart := areaStart % 2 ^ size.bits
          windowSize := protectedSize }, .needMore)

end ImageIdentityCollector

open ImageIdentityCollector in
/-- The loop over the TLVs of an area, which never needs more rounds than the area has bytes. -/
def scanTlvs (own : ImageIdentity) :
    ℕ → List UInt8 → Option ImageIdentity → ImageIdentityResult
  | 0, _, _ => .badIdentity
  | rounds + 1, area, identity =>
    if area.isEmpty then identity.elim .noIdentity own.check
    else if area.length < tlvHeaderSize then .badIdentity
    else
      let type := readU16 area 0
      let length := readU16 area 2
      let rest := area.drop tlvHeaderSize
      if rest.length < length then .badIdentity
      else if type = ImageIdentity.tlvType then
        -- A second identity would leave open which one counts.
        if identity.isSome then .badIdentity
        else
          match ImageIdentity.parse (rest.take length) with
          | none => .badIdentity
          | some parsed => scanTlvs own rounds (rest.drop length) (some parsed)
      else scanTlvs own rounds (rest.drop length) identity

open ImageIdentityCollector in
/-- What `ParseTlvs` makes of the protected TLV area. -/
def tlvsResult (own : ImageIdentity) (area : List UInt8) : ImageIdentityResult :=
  if area.length < tlvInfoSize ∨ readU16 area 0 ≠ protectedTlvMagic ∨
      readU16 area 2 ≠ area.length then .badIdentity
  else scanTlvs own (area.length + 1) (area.drop tlvInfoSize) none

namespace ImageIdentityCollector

variable (size : SizeType) (collector : ImageIdentityCollector)

/-- The result is read off the protected TLVs in the window. -/
def parseTlvs : ImageIdentityCollector :=
  collector.decide (tlvsResult collector.own (collector.windowBytes collector.windowSize))

/-- A header that the chunk completes is parsed; the chunk may hold part of the TLVs too. -/
def finishHeader (offset : ℕ) (chunk : List UInt8) (imageSize : ℕ) : ImageIdentityCollector :=
  if collector.phase = .header ∧ collector.isWindowComplete size then
    let (collector, result) := collector.parseHeader size imageSize
    if result = .needMore then collector.copyToWindow size offset chunk else collector
  else collector

/-- TLVs that the chunk completes are parsed. -/
def finishTlvs : ImageIdentityCollector :=
  if collector.phase = .tlvs ∧ collector.isWindowComplete size then collector.parseTlvs
  else collector

/-- Takes a chunk of the image. -/
def feed (offset : ℕ) (chunk : List UInt8) (imageSize : ℕ) : ImageIdentityCollector :=
  let collector := if offset = 0 then collector.reset else collector
  if collector.phase = .decided then collector
  -- A chunk that skips data leaves the TLV bytes unknown.
  else if collector.received < offset ∨ imageSize - min offset imageSize < chunk.length then
    collector.decide .badIdentity
  else
    let received := max collector.received (size.add offset chunk.length)
    let collector := { collector with received }.copyToWindow size offset chunk
    (collector.finishHeader size offset chunk imageSize).finishTlvs size

end ImageIdentityCollector

end RtCore.Dfu
