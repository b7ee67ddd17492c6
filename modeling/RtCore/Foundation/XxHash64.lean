import RtCore.Foundation.Bytes

/-!
# XXH64

The 64-bit xxHash with seed 0, and the 32 bits of it that names are known by.

## Main definitions

* `XxHash64.xxh64`, `XxHash64.getHash` — the hash of a text and its low half
-/

namespace RtCore.Foundation.XxHash64

/-- `PRIME64_1`. -/
def prime1 : UInt64 := 0x9E3779B185EBCA87
/-- `PRIME64_2`. -/
def prime2 : UInt64 := 0xC2B2AE3D27D4EB4F
/-- `PRIME64_3`. -/
def prime3 : UInt64 := 0x165667B19E3779F9
/-- `PRIME64_4`. -/
def prime4 : UInt64 := 0x85EBCA77C2B2AE63
/-- `PRIME64_5`. -/
def prime5 : UInt64 := 0x27D4EB2F165667C5

/-- `std::rotl`, by less than a word. -/
def rotl (word : UInt64) (bits : UInt64) : UInt64 := word <<< bits ||| word >>> (64 - bits)

/-- `ReadLE64` -/
def readLe64 (bytes : List UInt8) (i : ℕ) : UInt64 := .ofNat (ofLeBytes ((bytes.drop i).take 8))

/-- `ReadLE32`, widened. -/
def readLe32 (bytes : List UInt8) (i : ℕ) : UInt64 := .ofNat (ofLeBytes ((bytes.drop i).take 4))

/-- `Round`. -/
def round (acc input : UInt64) : UInt64 := rotl (acc + input * prime2) 31 * prime1

/-- `MergeRound`. -/
def mergeRound (acc val : UInt64) : UInt64 := (acc ^^^ round 0 val) * prime1 + prime4

/-- `Avalanche`. -/
def avalanche (h : UInt64) : UInt64 :=
  let h := (h ^^^ h >>> 33) * prime2
  let h := (h ^^^ h >>> 29) * prime3
  h ^^^ h >>> 32

/-- The four accumulators. -/
structure Lanes where
  v1 : UInt64
  v2 : UInt64
  v3 : UInt64
  v4 : UInt64

/-- A round of the loop over stripes of 32 bytes. -/
def Lanes.stripe (bytes : List UInt8) (lanes : Lanes) (i : ℕ) : Lanes where
  v1 := round lanes.v1 (readLe64 bytes i)
  v2 := round lanes.v2 (readLe64 bytes (i + 8))
  v3 := round lanes.v3 (readLe64 bytes (i + 16))
  v4 := round lanes.v4 (readLe64 bytes (i + 24))

/-- The lanes as one hash. -/
def Lanes.merge (lanes : Lanes) : UInt64 :=
  let h := rotl lanes.v1 1 + rotl lanes.v2 7 + rotl lanes.v3 12 + rotl lanes.v4 18
  mergeRound (mergeRound (mergeRound (mergeRound h lanes.v1) lanes.v2) lanes.v3) lanes.v4

/-- The offsets from a start, so many and so far apart. -/
def offsets (start count step : ℕ) : List ℕ := (List.range count).map fun k => start + k * step

/-- `XXH64`: whole stripes of 32 bytes, then words of 8, one of 4, and single bytes. -/
def xxh64 (bytes : List UInt8) : UInt64 :=
  let length := bytes.length
  let stripes := length / 32
  let h :=
    if 32 ≤ length then
      ((offsets 0 stripes 32).foldl (Lanes.stripe bytes)
        ⟨prime1 + prime2, prime2, 0, 0 - prime1⟩).merge
    else prime5
  let h := h + .ofNat length
  let words := (length - stripes * 32) / 8
  let h := (offsets (stripes * 32) words 8).foldl
    (fun h i => rotl (h ^^^ round 0 (readLe64 bytes i)) 27 * prime1 + prime4) h
  let i := stripes * 32 + words * 8
  let half := i + 4 ≤ length
  let h := if half then rotl (h ^^^ readLe32 bytes i * prime1) 23 * prime2 + prime3 else h
  let i := if half then i + 4 else i
  let h := (bytes.drop i).foldl (fun h byte => rotl (h ^^^ byte.toUInt64 * prime5) 11 * prime1) h
  avalanche h

/-- `GetHash`. -/
def getHash (bytes : List UInt8) : UInt32 := (xxh64 bytes).toUInt32

example : xxh64 [] = 0xef46db3751d8e999 := by decide

example : getHash [98, 115, 114, 99] = getHash [108, 104, 114, 107] := by decide

end RtCore.Foundation.XxHash64
