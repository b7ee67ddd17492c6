import RtCore.Foundation.Run
import RtCore.Dfu.ImageIdentity

/-!
# The identity check of an image cut into chunks

The verdict of a whole image, what it accepts, and that the collector comes to it from chunks of
any size: repeated, overlapping and empty ones included, as long as no data is skipped.

## Main definitions

* `verdict` — the check of a whole image
* `IsBuiltFor` — what an image for this unit looks like
* `Follows` — what the collector knows of an image it has received up to an offset

## Main results

* `verdict_eq_matched_iff` — the check accepts exactly the images built for this unit
* `Follows.feed` — what one chunk adds
* `identityCheck` — the collector comes to the verdict however the image is cut
-/

namespace RtCore.Dfu

open RtCore.Foundation ImageIdentityCollector

/-! ### Identities -/

theorem readU16_append {word : ℕ} (fits : word < 65536) (rest : List UInt8) :
    readU16 (leBytes 2 word ++ rest) 0 = word := by
  rw [readU16, List.drop_zero, List.take_append_of_le_length (by simp),
    List.take_of_length_le (by simp), ofLeBytes_leBytes (by simpa using fits)]

theorem readU16_append_right {first : List UInt8} (rest : List UInt8) (offset : ℕ)
    (start : first.length = offset) : readU16 (first ++ rest) offset = readU16 rest 0 := by
  rw [readU16, ← start, List.drop_left, readU16, List.drop_zero]

theorem readU16_lt (bytes : List UInt8) (offset : ℕ) : readU16 bytes offset < 65536 := by
  have bound := ofLeBytes_lt ((bytes.drop offset).take 2)
  have short : ((bytes.drop offset).take 2).length ≤ 2 := List.length_take_le _ _
  calc readU16 bytes offset < 256 ^ ((bytes.drop offset).take 2).length := bound
    _ ≤ 256 ^ 2 := Nat.pow_le_pow_right (by decide) short

theorem readU32_lt (bytes : List UInt8) (offset : ℕ) : readU32 bytes offset < 4294967296 := by
  have bound := ofLeBytes_lt ((bytes.drop offset).take 4)
  have short : ((bytes.drop offset).take 4).length ≤ 4 := List.length_take_le _ _
  calc readU32 bytes offset < 256 ^ ((bytes.drop offset).take 4).length := bound
    _ ≤ 256 ^ 4 := Nat.pow_le_pow_right (by decide) short

/-- The two bytes a word is read from. -/
theorem leBytes_readU16 {bytes : List UInt8} {offset : ℕ} (inside : offset + 2 ≤ bytes.length) :
    leBytes 2 (readU16 bytes offset) = (bytes.drop offset).take 2 := by
  have length : ((bytes.drop offset).take 2).length = 2 := by simp; omega
  have same := leBytes_ofLeBytes ((bytes.drop offset).take 2)
  rw [length] at same
  exact same

/-- The two words at the start of bytes, and what follows them. -/
theorem two_words {bytes : List UInt8} (inside : 4 ≤ bytes.length) :
    leBytes 2 (readU16 bytes 0) ++ (leBytes 2 (readU16 bytes 2) ++ bytes.drop 4) = bytes := by
  have second : (bytes.drop 2).take 2 ++ bytes.drop 4 = bytes.drop 2 := by
    have split := List.take_append_drop 2 (bytes.drop 2)
    rwa [List.drop_drop] at split
  rw [leBytes_readU16 (by omega), leBytes_readU16 (by omega), second, List.drop_zero,
    List.take_append_drop]

theorem readU16_take {bytes : List UInt8} {offset length : ℕ} (inside : offset + 2 ≤ length) :
    readU16 (bytes.take length) offset = readU16 bytes offset := by
  rw [readU16, readU16, List.drop_take, List.take_take, min_eq_left (by omega)]

theorem readU32_take {bytes : List UInt8} {offset length : ℕ} (inside : offset + 4 ≤ length) :
    readU32 (bytes.take length) offset = readU32 bytes offset := by
  rw [readU32, readU32, List.drop_take, List.take_take, min_eq_left (by omega)]

namespace ImageIdentity

theorem check_eq_matched_iff {own image : ImageIdentity} : own.check image = .matched ↔
    image.productId = own.productId ∧ image.board = own.board := by
  unfold check
  by_cases product : image.productId = own.productId
  · by_cases board : image.board = own.board
    · simp [product, board]
    · simp [product, board]
  · simp [product]

theorem check_ne_needMore (own image : ImageIdentity) : own.check image ≠ .needMore := by
  unfold check
  split_ifs <;> nofun

/-- What is encoded is parsed again. -/
theorem parse_encode (identity : ImageIdentity) {out : List UInt8}
    (room : fixedSize + identity.board.length ≤ out.length) :
    parse ((identity.encode out).2.take (identity.encode out).1) = some identity := by
  obtain ⟨productId, board, length_le, printable⟩ := identity
  dsimp only at room
  have short : board.length < 256 := lt_of_le_of_lt length_le (by decide)
  have bytes : (encode ⟨productId, board, length_le, printable⟩ out).2.take
      (encode ⟨productId, board, length_le, printable⟩ out).1 =
        [format, productId.toUInt8, (productId >>> 8).toUInt8, UInt8.ofNat board.length] ++
          board := by
    simp only [encode, if_neg (not_lt.mpr room)]
    exact List.take_left' (by simp [fixedSize]; omega)
  -- The product ID is put together again from its two bytes.
  have product : UInt16.ofNat (ofLeBytes [productId.toUInt8, (productId >>> 8).toUInt8]) =
      productId := by
    apply UInt16.toNat_inj.mp
    have bound := productId.toNat_lt
    simp only [ofLeBytes, UInt16.toNat_ofNat', UInt16.toNat_toUInt8, UInt16.toNat_shiftRight,
      Nat.shiftRight_eq_div_pow, UInt16.toNat_ofNat, Nat.reduceMod, Nat.reducePow]
    omega
  have boardLength : (UInt8.ofNat board.length).toNat = board.length := by
    rw [UInt8.toNat_ofNat']
    omega
  rw [bytes, parse, if_neg (by simp [fixedSize])]
  dsimp only
  rw [if_neg (by simp [fixedSize, boardLength]; omega)]
  have whole : ([format, productId.toUInt8, (productId >>> 8).toUInt8, UInt8.ofNat board.length] ++
      board).drop fixedSize = board := rfl
  have read : readU16 ([format, productId.toUInt8, (productId >>> 8).toUInt8,
      UInt8.ofNat board.length] ++ board) 1 =
        ofLeBytes [productId.toUInt8, (productId >>> 8).toUInt8] := rfl
  rw [whole, read, product]
  simp only [List.getD_eq_getElem?_getD, List.cons_append, List.getElem?_cons_succ,
    List.getElem?_cons_zero, Option.getD_some, boardLength, List.take_length]
  rw [create?, dif_pos length_le, dif_pos printable]

end ImageIdentity

/-! ### What the check accepts -/

/-- A TLV of an area. -/
structure Tlv where
  type : ℕ
  value : List UInt8

namespace Tlv

/-- Type and length are 16-bit words. -/
def Fits (tlv : Tlv) : Prop := tlv.type < 65536 ∧ tlv.value.length < 65536

/-- The TLV as it stands in an image. -/
def bytes (tlv : Tlv) : List UInt8 :=
  leBytes 2 tlv.type ++ (leBytes 2 tlv.value.length ++ tlv.value)

/-- The values of the identities among the TLVs. -/
def identityValues (tlvs : List Tlv) : List (List UInt8) :=
  (tlvs.filter (·.type = ImageIdentity.tlvType)).map (·.value)

theorem length_bytes (tlv : Tlv) : tlv.bytes.length = tlvHeaderSize + tlv.value.length := by
  simp [bytes, tlvHeaderSize]
  omega

theorem drop_bytes (tlv : Tlv) (rest : List UInt8) :
    (tlv.bytes ++ rest).drop tlvHeaderSize = tlv.value ++ rest := by
  have split : tlv.bytes ++ rest =
      (leBytes 2 tlv.type ++ leBytes 2 tlv.value.length) ++ (tlv.value ++ rest) := by
    simp [bytes, List.append_assoc]
  rw [split]
  exact List.drop_left' (by simp [tlvHeaderSize])

theorem readU16_type {tlv : Tlv} (fits : tlv.Fits) (rest : List UInt8) :
    readU16 (tlv.bytes ++ rest) 0 = tlv.type := by
  rw [bytes, List.append_assoc]
  exact readU16_append fits.1 _

theorem readU16_length {tlv : Tlv} (fits : tlv.Fits) (rest : List UInt8) :
    readU16 (tlv.bytes ++ rest) 2 = tlv.value.length := by
  rw [bytes, List.append_assoc, readU16_append_right _ 2 (by simp), List.append_assoc]
  exact readU16_append fits.2 _

/-- The TLV at the start of an area that holds all of it. -/
theorem exists_of_area {area : List UInt8} (header : tlvHeaderSize ≤ area.length)
    (whole : readU16 area 2 ≤ (area.drop tlvHeaderSize).length) :
    ∃ tlv : Tlv, tlv.Fits ∧ tlv.type = readU16 area 0 ∧
      tlv.value = (area.drop tlvHeaderSize).take (readU16 area 2) ∧
      area = tlv.bytes ++ (area.drop tlvHeaderSize).drop (readU16 area 2) := by
  have length : ((area.drop tlvHeaderSize).take (readU16 area 2)).length = readU16 area 2 := by
    rw [List.length_take]
    exact min_eq_left whole
  refine ⟨⟨readU16 area 0, (area.drop tlvHeaderSize).take (readU16 area 2)⟩,
    ⟨readU16_lt _ _, by rw [length]; exact readU16_lt _ _⟩, rfl, rfl, ?_⟩
  rw [bytes, length, List.append_assoc, List.append_assoc, List.take_append_drop]
  exact (two_words header).symm

end Tlv

open Tlv in
/-- TLVs fill the area exactly, and with the identity found before there is one identity, which is
the own. -/
def Accepts (own : ImageIdentity) (area : List UInt8) (identity : Option ImageIdentity) : Prop :=
  ∃ tlvs : List Tlv, (∀ tlv ∈ tlvs, tlv.Fits) ∧ area = tlvs.flatMap bytes ∧
    ∃ image, own.check image = .matched ∧
      identity.toList.map some ++ (identityValues tlvs).map ImageIdentity.parse = [some image]

namespace Accepts

variable {own : ImageIdentity} {identity : Option ImageIdentity}

theorem nil_iff : Accepts own [] identity ↔
    ∃ image, own.check image = .matched ∧ identity = some image := by
  constructor
  · rintro ⟨tlvs, -, empty, image, matched, only⟩
    cases tlvs with
    | nil =>
      refine ⟨image, matched, ?_⟩
      cases identity with
      | none => simp [Tlv.identityValues] at only
      | some found => simpa [Tlv.identityValues] using only
    | cons tlv tlvs =>
      have lengths := congrArg List.length empty
      simp [Tlv.length_bytes, tlvHeaderSize] at lengths
      omega
  · rintro ⟨image, matched, rfl⟩
    exact ⟨[], nofun, rfl, image, matched, rfl⟩

/-- The first TLV is the one that the first bytes spell. -/
theorem append_iff {tlv : Tlv} (fits : tlv.Fits) (rest : List UInt8) :
    Accepts own (tlv.bytes ++ rest) identity ↔
      if tlv.type = ImageIdentity.tlvType then
        identity = none ∧
          ∃ parsed, ImageIdentity.parse tlv.value = some parsed ∧ Accepts own rest (some parsed)
      else Accepts own rest identity := by
  have spelled : Accepts own (tlv.bytes ++ rest) identity ↔
      ∃ tlvs : List Tlv, (∀ tlv ∈ tlvs, tlv.Fits) ∧ rest = tlvs.flatMap Tlv.bytes ∧
        ∃ image, own.check image = .matched ∧
          identity.toList.map some ++
            (Tlv.identityValues (tlv :: tlvs)).map ImageIdentity.parse = [some image] := by
    constructor
    · rintro ⟨tlvs, allFit, whole, only⟩
      cases tlvs with
      | nil =>
        have lengths := congrArg List.length whole
        simp [Tlv.length_bytes, tlvHeaderSize] at lengths
      | cons first tlvs =>
        have firstFits := allFit first List.mem_cons_self
        rw [List.flatMap_cons] at whole
        -- Type and length sit in front, so equal bytes begin with the same TLV.
        have types : tlv.type = first.type := by
          rw [← Tlv.readU16_type fits rest, whole, Tlv.readU16_type firstFits]
        have lengths : tlv.value.length = first.value.length := by
          rw [← Tlv.readU16_length fits rest, whole, Tlv.readU16_length firstFits]
        obtain ⟨sameBytes, sameRest⟩ := List.append_inj whole (by
          rw [Tlv.length_bytes, Tlv.length_bytes, lengths])
        have values : tlv.value = first.value := by
          have values : (tlv.bytes ++ []).drop tlvHeaderSize =
              (first.bytes ++ []).drop tlvHeaderSize := by rw [sameBytes]
          rwa [Tlv.drop_bytes, Tlv.drop_bytes, List.append_nil, List.append_nil] at values
        obtain rfl : tlv = first := by
          cases tlv
          cases first
          simp_all
        exact ⟨tlvs, fun tlv member => allFit tlv (List.mem_cons_of_mem _ member), sameRest, only⟩
    · rintro ⟨tlvs, allFit, rfl, only⟩
      refine ⟨tlv :: tlvs, fun other member => ?_, rfl, only⟩
      rcases List.mem_cons.mp member with rfl | later
      · exact fits
      · exact allFit other later
  rw [spelled]
  -- An identity TLV has to be the only one; any other is passed over.
  by_cases isIdentity : tlv.type = ImageIdentity.tlvType
  · have values (tlvs : List Tlv) : Tlv.identityValues (tlv :: tlvs) =
        tlv.value :: Tlv.identityValues tlvs := by
      simp [Tlv.identityValues, isIdentity]
    rw [if_pos isIdentity]
    constructor
    · rintro ⟨tlvs, allFit, whole, image, matched, only⟩
      rw [values, List.map_cons] at only
      cases identity with
      | some found => simp at only
      | none =>
        obtain ⟨parsed, none⟩ := List.cons.inj only
        refine ⟨rfl, image, parsed, tlvs, allFit, whole, image, matched, ?_⟩
        rw [none]
        rfl
    · rintro ⟨rfl, parsed, isParsed, tlvs, allFit, whole, image, matched, only⟩
      refine ⟨tlvs, allFit, whole, image, matched, ?_⟩
      rw [values, List.map_cons, isParsed]
      exact only
  · have values (tlvs : List Tlv) : Tlv.identityValues (tlv :: tlvs) =
        Tlv.identityValues tlvs := by
      simp [Tlv.identityValues, isIdentity]
    rw [if_neg isIdentity]
    simp only [values]
    rfl

/-- Bytes that hold no whole TLV are not filled by TLVs. -/
theorem exists_tlv {area : List UInt8} (accepts : Accepts own area identity)
    (nonempty : area ≠ []) :
    ∃ (tlv : Tlv) (rest : List UInt8), tlv.Fits ∧ area = tlv.bytes ++ rest := by
  obtain ⟨tlvs, allFit, whole, -⟩ := accepts
  cases tlvs with
  | nil => exact absurd whole nonempty
  | cons tlv tlvs => exact ⟨tlv, _, allFit tlv List.mem_cons_self, whole⟩

end Accepts

/-- The loop accepts an area that TLVs fill exactly, with one identity, which is the own. -/
theorem scanTlvs_eq_matched_iff (own : ImageIdentity) (rounds : ℕ) (area : List UInt8)
    (identity : Option ImageIdentity) (enough : area.length < rounds) :
    scanTlvs own rounds area identity = .matched ↔ Accepts own area identity := by
  -- On the rounds: each takes at least the four bytes of a TLV header off the area.
  induction rounds generalizing area identity with
  | zero => omega
  | succ rounds ih =>
    unfold scanTlvs
    by_cases empty : area = []
    · rw [if_pos (by simp [empty]), empty, Accepts.nil_iff]
      cases identity with
      | none => simp
      | some found => simp
    rw [if_neg (by simpa using empty)]
    by_cases short : area.length < tlvHeaderSize
    · rw [if_pos short]
      refine iff_of_false nofun fun accepts => ?_
      obtain ⟨tlv, rest, -, rfl⟩ := accepts.exists_tlv empty
      rw [List.length_append, Tlv.length_bytes] at short
      omega
    rw [if_neg short]
    dsimp only
    by_cases cut : (area.drop tlvHeaderSize).length < readU16 area 2
    · rw [if_pos cut]
      refine iff_of_false nofun fun accepts => ?_
      obtain ⟨tlv, rest, fits, rfl⟩ := accepts.exists_tlv empty
      rw [Tlv.drop_bytes, Tlv.readU16_length fits, List.length_append] at cut
      omega
    rw [if_neg cut]
    -- The area begins with a TLV, so the loop and `Accepts` look at the same one.
    obtain ⟨tlv, fits, type, value, whole⟩ :=
      Tlv.exists_of_area (not_lt.mp short) (not_lt.mp cut)
    have fewer : ((area.drop tlvHeaderSize).drop (readU16 area 2)).length < rounds := by
      rw [List.length_drop, List.length_drop]
      have : 4 ≤ area.length := not_lt.mp short
      simp only [tlvHeaderSize]
      omega
    have accepts : Accepts own (tlv.bytes ++ (area.drop tlvHeaderSize).drop (readU16 area 2))
        identity ↔ _ := Accepts.append_iff fits _
    rw [← whole, type, value] at accepts
    rw [accepts]
    by_cases isIdentity : readU16 area 0 = ImageIdentity.tlvType
    · rw [if_pos isIdentity, if_pos isIdentity]
      cases identity with
      | some found => simp
      | none =>
        simp only [Option.isSome_none, Bool.false_eq_true, if_false, true_and]
        cases ImageIdentity.parse ((area.drop tlvHeaderSize).take (readU16 area 2)) with
        | none => simp
        | some parsed => simpa using ih _ (some parsed) fewer
    · rw [if_neg isIdentity, if_neg isIdentity]
      exact ih _ identity fewer

theorem scanTlvs_ne_needMore (own : ImageIdentity) (rounds : ℕ) (area : List UInt8)
    (identity : Option ImageIdentity) : scanTlvs own rounds area identity ≠ .needMore := by
  induction rounds generalizing area identity with
  | zero => nofun
  | succ rounds ih =>
    unfold scanTlvs
    split
    · cases identity with
      | none => nofun
      | some found => exact own.check_ne_needMore found
    dsimp only
    split
    · nofun
    split
    · nofun
    split
    · split
      · nofun
      split
      · nofun
      · exact ih _ _
    · exact ih _ _

/-- The protected TLV area that a header names, or why there is none. -/
def readHeader (header : List UInt8) (imageSize : ℕ) : Except ImageIdentityResult (ℕ × ℕ) :=
  let declaredHeaderSize := readU16 header headerSizeOffset
  let protectedSize := readU16 header headerProtectedTlvSizeOffset
  let payloadSize := readU32 header headerImageSizeOffset
  if readU32 header headerMagicOffset ≠ headerMagic then .error .badIdentity
  else if declaredHeaderSize < headerSize then .error .badIdentity
  else if protectedSize = 0 then .error .noIdentity
  else if maxProtectedTlvSize < protectedSize then .error .badIdentity
  else if imageSize < declaredHeaderSize + payloadSize + protectedSize then .error .badIdentity
  else .ok (declaredHeaderSize + payloadSize, protectedSize)

/-- The check of a whole image; one that is shorter than a header is never decided. -/
def verdict (own : ImageIdentity) (image : List UInt8) : ImageIdentityResult :=
  if image.length < headerSize then .needMore
  else
    match readHeader (image.take headerSize) image.length with
    | .error result => result
    | .ok (start, length) => tlvsResult own ((image.drop start).take length)

/-- What an image for this unit looks like. -/
structure IsBuiltFor (own : ImageIdentity) (image : List UInt8) : Prop where
  hasHeader : headerSize ≤ image.length
  magic : readU32 image headerMagicOffset = headerMagic
  header : headerSize ≤ readU16 image headerSizeOffset
  protectedSize : 1 ≤ readU16 image headerProtectedTlvSizeOffset ∧
    readU16 image headerProtectedTlvSizeOffset ≤ maxProtectedTlvSize
  inside : readU16 image headerSizeOffset + readU32 image headerImageSizeOffset +
    readU16 image headerProtectedTlvSizeOffset ≤ image.length
  /-- The area's own header and TLVs fill it, and one of them is the identity, the own one. -/
  area : ∃ tlvs : List Tlv, (∀ tlv ∈ tlvs, tlv.Fits) ∧
    (image.drop (readU16 image headerSizeOffset + readU32 image headerImageSizeOffset)).take
        (readU16 image headerProtectedTlvSizeOffset) =
      leBytes 2 protectedTlvMagic ++ (leBytes 2 (readU16 image headerProtectedTlvSizeOffset) ++
        tlvs.flatMap Tlv.bytes) ∧
    ∃ value identity, Tlv.identityValues tlvs = [value] ∧
      ImageIdentity.parse value = some identity ∧ identity.productId = own.productId ∧
      identity.board = own.board

theorem readHeader_eq_ok_iff {header : List UInt8} {imageSize start length : ℕ} :
    readHeader header imageSize = .ok (start, length) ↔
      readU32 header headerMagicOffset = headerMagic ∧
      headerSize ≤ readU16 header headerSizeOffset ∧
      (1 ≤ readU16 header headerProtectedTlvSizeOffset ∧
        readU16 header headerProtectedTlvSizeOffset ≤ maxProtectedTlvSize) ∧
      start = readU16 header headerSizeOffset + readU32 header headerImageSizeOffset ∧
      length = readU16 header headerProtectedTlvSizeOffset ∧ start + length ≤ imageSize := by
  unfold readHeader
  dsimp only
  split_ifs with magic declared none tooLong outside
  · simp [magic]
  · simp only [false_iff]
    omega
  · simp only [false_iff]
    omega
  · simp only [false_iff]
    omega
  · simp only [false_iff]
    omega
  · simp only [Except.ok.injEq, Prod.mk.injEq]
    rw [not_not] at magic
    constructor
    · rintro ⟨rfl, rfl⟩
      exact ⟨magic, by omega, by omega, rfl, rfl, by omega⟩
    · rintro ⟨-, -, -, rfl, rfl, -⟩
      exact ⟨rfl, rfl⟩

theorem readHeader_ne_needMore {header : List UInt8} {imageSize : ℕ}
    {result : ImageIdentityResult} (refused : readHeader header imageSize = .error result) :
    result ≠ .needMore ∧ result ≠ .matched := by
  unfold readHeader at refused
  dsimp only at refused
  split_ifs at refused <;> cases refused <;> exact ⟨nofun, nofun⟩

/-- The area is accepted when its own header is right and TLVs fill the rest. -/
theorem tlvsResult_eq_matched_iff (own : ImageIdentity) (area : List UInt8) :
    tlvsResult own area = .matched ↔ ∃ rest, area = leBytes 2 protectedTlvMagic ++
      (leBytes 2 area.length ++ rest) ∧ area.length < 65536 ∧ Accepts own rest none := by
  unfold tlvsResult
  split_ifs with bad
  · refine iff_of_false nofun ?_
    rintro ⟨rest, whole, fits, -⟩
    rcases bad with short | magic | length
    · rw [whole] at short
      simp [tlvInfoSize] at short
      omega
    · rw [whole] at magic
      exact magic (readU16_append (by decide) _)
    · apply length
      conv_lhs => rw [whole]
      rw [readU16_append_right _ 2 (by simp), readU16_append fits]
  · simp only [not_or, not_lt, not_not] at bad
    obtain ⟨long, magic, length⟩ := bad
    have whole : leBytes 2 protectedTlvMagic ++ (leBytes 2 area.length ++ area.drop tlvInfoSize) =
        area := by
      have words := two_words long
      rwa [magic, length] at words
    rw [scanTlvs_eq_matched_iff own _ _ _ (by rw [List.length_drop]; omega)]
    constructor
    · intro accepts
      exact ⟨_, whole.symm, length ▸ readU16_lt area 2, accepts⟩
    · rintro ⟨rest, spelled, -, accepts⟩
      have same : area.drop tlvInfoSize = rest := by
        have sameRest := whole.trans spelled
        rw [List.append_cancel_left_eq, List.append_cancel_left_eq] at sameRest
        exact sameRest
      rw [same]
      exact accepts

theorem tlvsResult_ne_needMore (own : ImageIdentity) (area : List UInt8) :
    tlvsResult own area ≠ .needMore := by
  unfold tlvsResult
  split
  · nofun
  · exact scanTlvs_ne_needMore own _ _ _

/-- The check accepts exactly the images built for this unit. -/
theorem verdict_eq_matched_iff (own : ImageIdentity) (image : List UInt8) :
    verdict own image = .matched ↔ IsBuiltFor own image := by
  unfold verdict
  by_cases short : image.length < headerSize
  · rw [if_pos short]
    refine iff_of_false nofun fun built => ?_
    exact absurd built.hasHeader (by omega)
  rw [if_neg short]
  -- The check reads the fields from the first bytes, which are those of the image.
  have magicAt : readU32 (image.take headerSize) headerMagicOffset =
      readU32 image headerMagicOffset := readU32_take (by decide)
  have headerAt : readU16 (image.take headerSize) headerSizeOffset =
      readU16 image headerSizeOffset := readU16_take (by decide)
  have protectedAt : readU16 (image.take headerSize) headerProtectedTlvSizeOffset =
      readU16 image headerProtectedTlvSizeOffset := readU16_take (by decide)
  have payloadAt : readU32 (image.take headerSize) headerImageSizeOffset =
      readU32 image headerImageSizeOffset := readU32_take (by decide)
  cases read : readHeader (image.take headerSize) image.length with
  | error result =>
    refine iff_of_false (readHeader_ne_needMore read).2 fun built => ?_
    have accepted : readHeader (image.take headerSize) image.length =
        .ok (readU16 image headerSizeOffset + readU32 image headerImageSizeOffset,
          readU16 image headerProtectedTlvSizeOffset) ↔ _ := readHeader_eq_ok_iff
    rw [read, magicAt, headerAt, protectedAt, payloadAt] at accepted
    cases accepted.mpr ⟨built.magic, built.header, built.protectedSize, rfl, rfl, built.inside⟩
  | ok area =>
    obtain ⟨start, length⟩ := area
    have accepted := readHeader_eq_ok_iff.mp read
    rw [magicAt, headerAt, protectedAt, payloadAt] at accepted
    obtain ⟨magic, header, protectedSize, rfl, rfl, inside⟩ := accepted
    dsimp only
    rw [tlvsResult_eq_matched_iff]
    have areaLength : ((image.drop (readU16 image headerSizeOffset +
        readU32 image headerImageSizeOffset)).take
          (readU16 image headerProtectedTlvSizeOffset)).length =
            readU16 image headerProtectedTlvSizeOffset := by
      rw [List.length_take, List.length_drop]
      omega
    rw [areaLength]
    constructor
    · rintro ⟨rest, whole, -, tlvs, fits, rfl, identity, matched, only⟩
      obtain ⟨value, isOnly, parsed⟩ : ∃ value, Tlv.identityValues tlvs = [value] ∧
          ImageIdentity.parse value = some identity := by
        simpa [List.map_eq_singleton_iff] using only
      obtain ⟨product, board⟩ := ImageIdentity.check_eq_matched_iff.mp matched
      exact ⟨not_lt.mp short, magic, header, protectedSize, inside,
        tlvs, fits, whole, value, identity, isOnly, parsed, product, board⟩
    · intro built
      obtain ⟨tlvs, fits, whole, value, identity, isOnly, parsed, product, board⟩ := built.area
      refine ⟨_, whole, readU16_lt _ _, tlvs, fits, rfl, identity,
        ImageIdentity.check_eq_matched_iff.mpr ⟨product, board⟩, ?_⟩
      simp [isOnly, parsed]

/-! ### The collector -/

/-- The bytes of the image from an offset on. -/
def chunkAt (image : List UInt8) (offset length : ℕ) : List UInt8 := (image.drop offset).take length

/-- The window holds the image's bytes where they are known. -/
def Agrees (image : List UInt8) (known : ℕ) (collector : ImageIdentityCollector) : Prop :=
  ∀ i (inWindow : i < maxProtectedTlvSize), i < collector.windowSize →
    collector.windowStart + i < known →
      image[collector.windowStart + i]? = some collector.window[i]

namespace ImageIdentityCollector

variable (size : SizeType) (collector : ImageIdentityCollector) (offset : ℕ) (chunk : List UInt8)

@[simp] theorem own_copyToWindow : (collector.copyToWindow size offset chunk).own =
    collector.own := by
  unfold copyToWindow
  dsimp only
  split <;> rfl

@[simp] theorem phase_copyToWindow : (collector.copyToWindow size offset chunk).phase =
    collector.phase := by
  unfold copyToWindow
  dsimp only
  split <;> rfl

@[simp] theorem result_copyToWindow : (collector.copyToWindow size offset chunk).result =
    collector.result := by
  unfold copyToWindow
  dsimp only
  split <;> rfl

@[simp] theorem received_copyToWindow : (collector.copyToWindow size offset chunk).received =
    collector.received := by
  unfold copyToWindow
  dsimp only
  split <;> rfl

@[simp] theorem windowStart_copyToWindow : (collector.copyToWindow size offset chunk).windowStart =
    collector.windowStart := by
  unfold copyToWindow
  dsimp only
  split <;> rfl

@[simp] theorem windowSize_copyToWindow : (collector.copyToWindow size offset chunk).windowSize =
    collector.windowSize := by
  unfold copyToWindow
  dsimp only
  split <;> rfl

/-- The bytes under both the chunk and the window are the chunk's. -/
theorem window_copyToWindow (i : ℕ) (inWindow : i < maxProtectedTlvSize) :
    (collector.copyToWindow size offset chunk).window[i] =
      if max offset collector.windowStart ≤ collector.windowStart + i ∧
          collector.windowStart + i < min (size.add offset chunk.length)
            (size.add collector.windowStart collector.windowSize) then
        chunk.getD (collector.windowStart + i - offset) 0
      else collector.window[i] := by
  unfold copyToWindow
  dsimp only
  by_cases apart : min (size.add offset chunk.length)
      (size.add collector.windowStart collector.windowSize) ≤ max offset collector.windowStart
  · rw [if_pos apart, if_neg (by omega)]
  · rw [if_neg apart]
    dsimp only
    rw [Vector.getElem_mapIdx]
    by_cases under : max offset collector.windowStart ≤ collector.windowStart + i ∧
        collector.windowStart + i < min (size.add offset chunk.length)
          (size.add collector.windowStart collector.windowSize)
    · rw [if_pos under, if_pos (by omega)]
      congr 1
      omega
    · rw [if_neg under, if_neg (by omega)]

end ImageIdentityCollector

variable {size : SizeType} {collector : ImageIdentityCollector} {image : List UInt8}
  {known offset length : ℕ}

theorem SizeType.add_eq {a b : ℕ} (fits : a + b < 2 ^ size.bits) : size.add a b = a + b :=
  Nat.mod_eq_of_lt fits

theorem length_chunkAt (inside : offset + length ≤ image.length) :
    (chunkAt image offset length).length = length := by
  rw [chunkAt, List.length_take, List.length_drop]
  omega

theorem getD_chunkAt {i : ℕ} (inside : offset + length ≤ image.length) (inChunk : i < length) :
    image[offset + i]? = some ((chunkAt image offset length).getD i 0) := by
  have known : offset + i < image.length := by omega
  rw [List.getD_eq_getElem?_getD, chunkAt, List.getElem?_take_of_lt inChunk, List.getElem?_drop,
    List.getElem?_eq_getElem known]
  rfl

/-- A chunk that leaves no gap extends what the window knows. -/
theorem Agrees.copyToWindow (agrees : Agrees image known collector)
    (inside : offset + length ≤ image.length) (fits : image.length < 2 ^ size.bits)
    (windowFits : collector.windowStart + collector.windowSize < 2 ^ size.bits)
    (gapless : offset ≤ known) :
    Agrees image (max known (offset + length))
      (collector.copyToWindow size offset (chunkAt image offset length)) := by
  intro i inWindow inSize isKnown
  rw [windowStart_copyToWindow] at isKnown ⊢
  rw [windowSize_copyToWindow] at inSize
  rw [window_copyToWindow, length_chunkAt inside, SizeType.add_eq windowFits,
    SizeType.add_eq (lt_of_le_of_lt inside fits)]
  -- A byte below the chunk or above it was known before.
  by_cases covered :
    offset ≤ collector.windowStart + i ∧ collector.windowStart + i < offset + length
  · rw [if_pos (by omega)]
    have place : offset + (collector.windowStart + i - offset) = collector.windowStart + i := by
      omega
    rw [← getD_chunkAt inside (by omega), place]
  · rw [if_neg (by omega)]
    exact agrees i inWindow inSize (by omega)

/-- A complete window is the part of the image it stands for. -/
theorem Agrees.windowBytes (agrees : Agrees image known collector)
    (small : collector.windowSize ≤ maxProtectedTlvSize)
    (complete : collector.windowStart + collector.windowSize ≤ known) :
    collector.windowBytes collector.windowSize =
      (image.drop collector.windowStart).take collector.windowSize := by
  apply List.ext_getElem?
  intro i
  rw [ImageIdentityCollector.windowBytes]
  by_cases inSize : i < collector.windowSize
  · rw [List.getElem?_take_of_lt inSize, List.getElem?_take_of_lt inSize, List.getElem?_drop,
      agrees i (by omega) inSize (by omega), Vector.getElem?_toList,
      Vector.getElem?_eq_getElem]
  · rw [List.getElem?_eq_none (by simp; omega), List.getElem?_eq_none (by simp; omega)]

/-- No sum of the header's fields wraps in 64 bits, and the start of an area inside the image fits
`size_t`. -/
theorem parseHeader_eq {imageSize : ℕ} (fits : imageSize < 2 ^ size.bits) :
    collector.parseHeader size imageSize =
      match readHeader (collector.windowBytes headerSize) imageSize with
      | .error result => (collector.decide result, result)
      | .ok (start, length) =>
        ({ collector with phase := .tlvs, windowStart := start, windowSize := length },
          .needMore) := by
  have declared := readU16_lt (collector.windowBytes headerSize) headerSizeOffset
  have protectedSize := readU16_lt (collector.windowBytes headerSize) headerProtectedTlvSizeOffset
  have payload := readU32_lt (collector.windowBytes headerSize) headerImageSizeOffset
  have start : (readU16 (collector.windowBytes headerSize) headerSizeOffset +
      readU32 (collector.windowBytes headerSize) headerImageSizeOffset) % 2 ^ 64 =
        readU16 (collector.windowBytes headerSize) headerSizeOffset +
          readU32 (collector.windowBytes headerSize) headerImageSizeOffset :=
    Nat.mod_eq_of_lt (by omega)
  have last : (readU16 (collector.windowBytes headerSize) headerSizeOffset +
      readU32 (collector.windowBytes headerSize) headerImageSizeOffset +
        readU16 (collector.windowBytes headerSize) headerProtectedTlvSizeOffset) % 2 ^ 64 =
          readU16 (collector.windowBytes headerSize) headerSizeOffset +
            readU32 (collector.windowBytes headerSize) headerImageSizeOffset +
              readU16 (collector.windowBytes headerSize) headerProtectedTlvSizeOffset :=
    Nat.mod_eq_of_lt (by omega)
  unfold parseHeader readHeader
  simp only [start, last]
  split_ifs with magic short none tooLong outside
  · rfl
  · rfl
  · rfl
  · rfl
  · rfl
  · rw [Nat.mod_eq_of_lt (by omega)]

/-- What the collector knows of an image that it has received up to an offset. -/
inductive Follows (own : ImageIdentity) (image : List UInt8) (known : ℕ)
    (collector : ImageIdentityCollector) : Prop
  | header (isOwn : collector.own = own) (phase : collector.phase = .header)
      (result : collector.result = .needMore) (received : collector.received = known)
      (start : collector.windowStart = 0) (size : collector.windowSize = headerSize)
      (short : known < headerSize) (agrees : Agrees image known collector)
  | tlvs (isOwn : collector.own = own) (phase : collector.phase = .tlvs)
      (result : collector.result = .needMore) (received : collector.received = known)
      (long : headerSize ≤ known)
      (read : readHeader (image.take headerSize) image.length =
        .ok (collector.windowStart, collector.windowSize))
      (short : known < collector.windowStart + collector.windowSize)
      (agrees : Agrees image known collector)
  | decided (isOwn : collector.own = own) (phase : collector.phase = .decided)
      (result : collector.result = verdict own image) (long : headerSize ≤ known)
      (complete : ∀ start length, readHeader (image.take headerSize) image.length =
        .ok (start, length) → start + length ≤ known)

namespace Follows

variable {own : ImageIdentity}

theorem reset (isOwn : collector.own = own) : Follows own image 0 collector.reset :=
  .header isOwn rfl rfl rfl rfl rfl (by decide) fun _ _ _ isKnown => absurd isKnown (by simp)

/-- A window over the area is parsed once it is complete. -/
theorem finishTlvs (isOwn : collector.own = own) (phase : collector.phase = .tlvs)
    (result : collector.result = .needMore) (received : collector.received = known)
    (fits : image.length < 2 ^ size.bits) (long : headerSize ≤ known)
    (isLong : headerSize ≤ image.length)
    (read : readHeader (image.take headerSize) image.length =
      .ok (collector.windowStart, collector.windowSize))
    (agrees : Agrees image known collector) :
    Follows own image known (collector.finishTlvs size) := by
  unfold ImageIdentityCollector.finishTlvs
  obtain ⟨-, -, ⟨-, small⟩, -, isSize, inside⟩ := readHeader_eq_ok_iff.mp read
  have sum : size.add collector.windowStart collector.windowSize =
      collector.windowStart + collector.windowSize :=
    SizeType.add_eq (by omega)
  by_cases complete : collector.windowStart + collector.windowSize ≤ known
  · rw [if_pos ⟨phase, by simp [isWindowComplete, sum, received, complete]⟩]
    have bytes := agrees.windowBytes (isSize ▸ small) complete
    refine .decided isOwn rfl ?_ long fun start length other => ?_
    · rw [verdict, if_neg (by omega), read]
      simp only [parseTlvs, ImageIdentityCollector.decide, isOwn, bytes]
    · rw [read] at other
      obtain ⟨rfl, rfl⟩ := Prod.mk.inj (Except.ok.inj other)
      exact complete
  · rw [if_neg (by simp [isWindowComplete, sum, received, complete])]
    exact .tlvs isOwn phase result received long read (by omega) agrees

/-- A complete header decides, or moves the window, which then takes the rest of the chunk. -/
theorem finishHeader (isOwn : collector.own = own) (phase : collector.phase = .header)
    (result : collector.result = .needMore)
    (received : collector.received = max known (offset + length))
    (start : collector.windowStart = 0) (window : collector.windowSize = headerSize)
    (agrees : Agrees image (max known (offset + length)) collector) (short : known < headerSize)
    (inside : offset + length ≤ image.length) (gapless : offset ≤ known)
    (fits : image.length < 2 ^ size.bits) :
    Follows own image (max known (offset + length))
      ((collector.finishHeader size offset (chunkAt image offset length) image.length).finishTlvs
        size) := by
  have wide : headerSize < 2 ^ size.bits :=
    calc headerSize < 2 ^ 32 := by decide
      _ ≤ 2 ^ size.bits := Nat.pow_le_pow_right (by decide) size.wide
  have sum : size.add collector.windowStart collector.windowSize = headerSize := by
    rw [start, window, SizeType.add_eq (by omega), Nat.zero_add]
  -- The window holds the whole header, or the chunk ended before it did.
  by_cases complete : headerSize ≤ max known (offset + length)
  · have bytes : collector.windowBytes headerSize = image.take headerSize := by
      have bytes := agrees.windowBytes (window ▸ by decide) (by omega)
      rwa [start, window, List.drop_zero] at bytes
    have long : headerSize ≤ image.length := by omega
    rw [ImageIdentityCollector.finishHeader,
      if_pos ⟨phase, by simp [isWindowComplete, sum, received, complete]⟩, parseHeader_eq fits,
      bytes]
    cases read : readHeader (image.take headerSize) image.length with
    | error result =>
      have refused : verdict own image = result := by rw [verdict, if_neg (by omega), read]
      dsimp only
      rw [if_neg (readHeader_ne_needMore read).1, ImageIdentityCollector.finishTlvs,
        if_neg (by simp [ImageIdentityCollector.decide])]
      exact .decided isOwn rfl refused.symm complete fun _ _ other => by
        rw [read] at other
        cases other
    | ok area =>
      obtain ⟨areaStart, areaSize⟩ := area
      obtain ⟨-, header, -, isStart, -, areaInside⟩ := readHeader_eq_ok_iff.mp read
      dsimp only
      apply finishTlvs
      · simp [isOwn]
      · simp
      · simp [result]
      · simp [received]
      · exact fits
      · exact complete
      · exact long
      · simpa using read
      · -- The area starts behind the header, so nothing of it was received before.
        have nothing : Agrees image known
            { collector with
              phase := .tlvs, windowStart := areaStart, windowSize := areaSize } := by
          intro i _ _ isKnown
          dsimp only at isKnown
          omega
        exact nothing.copyToWindow inside fits (by dsimp only; omega) gapless
  · rw [ImageIdentityCollector.finishHeader,
      if_neg (by simp [isWindowComplete, sum, received, complete]),
      ImageIdentityCollector.finishTlvs, if_neg (by simp [phase])]
    exact .header isOwn phase result received start window (by omega) agrees

/-- A chunk that skips nothing extends what the collector knows. -/
theorem feed {started : ImageIdentityCollector}
    (isStarted : (if offset = 0 then collector.reset else collector) = started)
    (follows : Follows own image known started) (inside : offset + length ≤ image.length)
    (isKnown : known ≤ image.length) (gapless : offset ≤ known)
    (fits : image.length < 2 ^ size.bits) :
    Follows own image (max known (offset + length))
      (collector.feed size offset (chunkAt image offset length) image.length) := by
  have wide : headerSize < 2 ^ size.bits :=
    calc headerSize < 2 ^ 32 := by decide
      _ ≤ 2 ^ size.bits := Nat.pow_le_pow_right (by decide) size.wide
  have sum : size.add offset length = offset + length := SizeType.add_eq (by omega)
  unfold ImageIdentityCollector.feed
  simp only [isStarted]
  -- A decided collector only counts; in the other phases the chunk goes to the window first.
  cases follows with
  | decided isOwn phase result long complete =>
    rw [if_pos phase]
    exact .decided isOwn phase result (by omega) fun start length read =>
      le_trans (complete start length read) (le_max_left _ _)
  | tlvs isOwn phase result received long read short agrees =>
    obtain ⟨-, -, -, -, -, areaInside⟩ := readHeader_eq_ok_iff.mp read
    rw [if_neg (by simp [phase]), if_neg (by rw [length_chunkAt inside]; omega),
      ImageIdentityCollector.finishHeader, if_neg (by simp [phase])]
    apply finishTlvs
    · simp [isOwn]
    · simp [phase]
    · simp [result]
    · simp [received, length_chunkAt inside, sum]
    · exact fits
    · omega
    · omega
    · simpa using read
    · exact Agrees.copyToWindow agrees inside fits (by dsimp only; omega) gapless
  | header isOwn phase result received start window short agrees =>
    rw [if_neg (by simp [phase]), if_neg (by rw [length_chunkAt inside]; omega)]
    apply finishHeader
    · simp [isOwn]
    · simp [phase]
    · simp [result]
    · simp [received, length_chunkAt inside, sum]
    · simp [start]
    · simp [window]
    · exact Agrees.copyToWindow agrees inside fits (by dsimp only; omega) gapless
    · exact short
    · exact inside
    · exact gapless
    · exact fits

end Follows

/-! ### Sequences of chunks -/

/-- The window ends where `size_t` can say it. -/
def WindowFits (size : SizeType) (collector : ImageIdentityCollector) : Prop :=
  collector.windowStart + collector.windowSize < 2 ^ size.bits

namespace WindowFits

theorem reset (size : SizeType) (collector : ImageIdentityCollector) :
    WindowFits size collector.reset :=
  calc 0 + headerSize < 2 ^ 32 := by decide
    _ ≤ 2 ^ size.bits := Nat.pow_le_pow_right (by decide) size.wide

theorem finishHeader {imageSize : ℕ} (windowFits : WindowFits size collector)
    (fits : imageSize < 2 ^ size.bits) (offset : ℕ) (chunk : List UInt8) :
    WindowFits size (collector.finishHeader size offset chunk imageSize) := by
  unfold ImageIdentityCollector.finishHeader
  split
  · rw [parseHeader_eq fits]
    cases read : readHeader (collector.windowBytes headerSize) imageSize with
    | error result =>
      dsimp only
      rw [if_neg (readHeader_ne_needMore read).1]
      exact windowFits
    | ok area =>
      obtain ⟨-, -, -, -, -, inside⟩ := readHeader_eq_ok_iff.mp read
      simp only [if_true, WindowFits, windowStart_copyToWindow, windowSize_copyToWindow]
      omega
  · exact windowFits

theorem finishTlvs (windowFits : WindowFits size collector) :
    WindowFits size (collector.finishTlvs size) := by
  unfold ImageIdentityCollector.finishTlvs
  split <;> exact windowFits

theorem feed {started : ImageIdentityCollector} {imageSize : ℕ}
    (isStarted : (if offset = 0 then collector.reset else collector) = started)
    (windowFits : WindowFits size started) (fits : imageSize < 2 ^ size.bits)
    (chunk : List UInt8) : WindowFits size (collector.feed size offset chunk imageSize) := by
  unfold ImageIdentityCollector.feed
  simp only [isStarted]
  split
  · exact windowFits
  split
  · exact windowFits
  · apply finishTlvs
    apply finishHeader _ fits
    simpa [WindowFits] using windowFits

end WindowFits

/-- How far chunks reach, each given by its offset and length. -/
def reach (known : ℕ) (chunks : List (ℕ × ℕ)) : ℕ :=
  chunks.foldl (fun known chunk => max known (chunk.1 + chunk.2)) known

/-- No chunk skips data or leaves the image. -/
def Gapless (imageSize : ℕ) : ℕ → List (ℕ × ℕ) → Prop
  | _, [] => True
  | known, (offset, length) :: chunks =>
    offset ≤ known ∧ offset + length ≤ imageSize ∧
      Gapless imageSize (max known (offset + length)) chunks

/-- The chunks from the last one at offset 0 on: they leave no gap and cover the image. -/
structure Covers (imageSize : ℕ) (chunks : List (ℕ × ℕ)) : Prop where
  starts : chunks.head?.map (·.1) = some 0
  continues : ∀ chunk ∈ chunks.tail, chunk.1 ≠ 0
  gapless : Gapless imageSize 0 chunks
  whole : reach 0 chunks = imageSize

/-- The collector after chunks of an image. -/
def fed (size : SizeType) (image : List UInt8) (collector : ImageIdentityCollector)
    (chunks : List (ℕ × ℕ)) : ImageIdentityCollector :=
  run (fun collector (chunk : ℕ × ℕ) =>
    collector.feed size chunk.1 (chunkAt image chunk.1 chunk.2) image.length) collector chunks

theorem gapless_append {imageSize : ℕ} {first second : List (ℕ × ℕ)} :
    Gapless imageSize known (first ++ second) ↔
      Gapless imageSize known first ∧ Gapless imageSize (reach known first) second := by
  induction first generalizing known with
  | nil => simp [Gapless, reach]
  | cons chunk first ih =>
    obtain ⟨offset, length⟩ := chunk
    simp only [List.cons_append, Gapless, ih, reach, List.foldl_cons, and_assoc]

/-- What later chunks add. -/
theorem Follows.fed {own : ImageIdentity} {chunks : List (ℕ × ℕ)}
    (follows : Follows own image known collector) (windowFits : WindowFits size collector)
    (isKnown : known ≤ image.length) (fits : image.length < 2 ^ size.bits)
    (continues : ∀ chunk ∈ chunks, chunk.1 ≠ 0) (gapless : Gapless image.length known chunks) :
    Follows own image (reach known chunks) (fed size image collector chunks) ∧
      WindowFits size (Dfu.fed size image collector chunks) := by
  induction chunks generalizing collector known with
  | nil => exact ⟨follows, windowFits⟩
  | cons chunk chunks ih =>
    obtain ⟨offset, length⟩ := chunk
    obtain ⟨noGap, inside, later⟩ := gapless
    have isStarted : (if offset = 0 then collector.reset else collector) = collector :=
      if_neg (continues (offset, length) List.mem_cons_self)
    exact ih (follows.feed isStarted inside isKnown noGap fits)
      (windowFits.feed isStarted fits _) (max_le isKnown inside)
      (fun chunk member => continues chunk (List.mem_cons_of_mem _ member)) later

/-- From a chunk at offset 0 on, whatever the collector has seen before. -/
theorem follows_fed {chunks : List (ℕ × ℕ)} (nonempty : chunks ≠ [])
    (starts : chunks.head?.map (·.1) = some 0) (continues : ∀ chunk ∈ chunks.tail, chunk.1 ≠ 0)
    (gapless : Gapless image.length 0 chunks) (fits : image.length < 2 ^ size.bits) :
    Follows collector.own image (reach 0 chunks) (fed size image collector chunks) ∧
      WindowFits size (fed size image collector chunks) := by
  cases chunks with
  | nil => exact absurd rfl nonempty
  | cons chunk chunks =>
    obtain ⟨offset, length⟩ := chunk
    obtain ⟨noGap, inside, later⟩ := gapless
    have isStarted : (if offset = 0 then collector.reset else collector) = collector.reset :=
      if_pos (Nat.le_zero.mp noGap)
    have first := Follows.feed isStarted (Follows.reset rfl) inside (Nat.zero_le _) noGap fits
    have window := WindowFits.feed isStarted (WindowFits.reset size collector) fits
      (chunkAt image offset length)
    exact first.fed window (max_le (Nat.zero_le _) inside) fits continues later

theorem Follows.result_of_whole {own : ImageIdentity}
    (follows : Follows own image image.length collector) :
    collector.result = verdict own image := by
  cases follows with
  | header isOwn phase result received start window short agrees =>
    rw [result, verdict, if_pos short]
  | tlvs isOwn phase result received long read short agrees =>
    obtain ⟨-, -, -, -, -, inside⟩ := readHeader_eq_ok_iff.mp read
    omega
  | decided isOwn phase result long complete => exact result

/-- Once the area is complete, the verdict is known. -/
theorem Follows.result_of_area {own : ImageIdentity} {start areaSize : ℕ}
    (follows : Follows own image known collector) (isKnown : known ≤ image.length)
    (read : readHeader (image.take headerSize) image.length = .ok (start, areaSize))
    (complete : start + areaSize ≤ known) :
    collector.result = verdict own image ∧ collector.result ≠ .needMore := by
  obtain ⟨-, header, -, isStart, -, inside⟩ := readHeader_eq_ok_iff.mp read
  cases follows with
  | header isOwn phase result received start window short agrees => omega
  | tlvs isOwn phase result received long other short agrees =>
    rw [read] at other
    obtain ⟨rfl, rfl⟩ := Prod.mk.inj (Except.ok.inj other)
    omega
  | decided isOwn phase result long _ =>
    refine ⟨result, ?_⟩
    rw [result, verdict, if_neg (by omega), read]
    exact tlvsResult_ne_needMore own _

/-- What the check of an image owes, however it is cut into chunks. -/
structure ChecksWhole (size : SizeType) (collector : ImageIdentityCollector) (image : List UInt8)
    (chunks : List (ℕ × ℕ)) : Prop where
  /-- The result is that of a collector that has seen nothing else and is given the image at
  once, so nothing that the window held before counts. -/
  sameAsWhole : (fed size image collector chunks).result =
    (ImageIdentityCollector.feed size { own := collector.own } 0 image image.length).result
  matched_iff : (fed size image collector chunks).result = .matched ↔
    IsBuiltFor collector.own image
  /-- It is known with the chunk that completes the TLV area. -/
  early : ∀ received, received <+: chunks → ∀ start areaSize,
    readHeader (image.take headerSize) image.length = .ok (start, areaSize) →
      start + areaSize ≤ reach 0 received →
        (fed size image collector received).result = (fed size image collector chunks).result ∧
          (fed size image collector received).result ≠ .needMore
  /-- Where a window is not parsed yet, it holds the image's bytes as far as they are received. -/
  window : ∀ received, received <+: chunks → received ≠ [] →
    (fed size image collector received).phase ≠ .decided →
      Agrees image (reach 0 received) (fed size image collector received)
  /-- The ends of chunks and windows fit `size_t`, the fields of a header fit 64 bits. -/
  chunkEnds : ∀ chunk ∈ chunks, chunk.1 + chunk.2 < 2 ^ size.bits
  windowEnds : ∀ received, received <+: chunks → received ≠ [] →
    WindowFits size (fed size image collector received)
  headerFields : ∀ header, readU16 header headerSizeOffset + readU32 header headerImageSizeOffset +
    readU16 header headerProtectedTlvSizeOffset < 2 ^ 64

theorem gapless_of_initial {imageSize : ℕ} {received chunks : List (ℕ × ℕ)}
    (isPrefix : received <+: chunks) (gapless : Gapless imageSize known chunks) :
    Gapless imageSize known received := by
  obtain ⟨later, rfl⟩ := isPrefix
  exact (gapless_append.mp gapless).1

theorem reach_le_of_gapless {imageSize : ℕ} {chunks : List (ℕ × ℕ)} (isKnown : known ≤ imageSize)
    (gapless : Gapless imageSize known chunks) : reach known chunks ≤ imageSize := by
  induction chunks generalizing known with
  | nil => exact isKnown
  | cons chunk chunks ih => exact ih (max_le isKnown gapless.2.1) gapless.2.2

theorem le_of_mem_of_gapless {imageSize : ℕ} {chunks : List (ℕ × ℕ)} {chunk : ℕ × ℕ}
    (gapless : Gapless imageSize known chunks) (member : chunk ∈ chunks) :
    chunk.1 + chunk.2 ≤ imageSize := by
  induction chunks generalizing known with
  | nil => cases member
  | cons first chunks ih =>
    rcases List.mem_cons.mp member with rfl | later
    · exact gapless.2.1
    · exact ih gapless.2.2 later

/-- What is known after the first chunks. -/
theorem Covers.follows {chunks received : List (ℕ × ℕ)} (covers : Covers image.length chunks)
    (isPrefix : received <+: chunks) (nonempty : received ≠ [])
    (fits : image.length < 2 ^ size.bits) (collector : ImageIdentityCollector) :
    Follows collector.own image (reach 0 received) (fed size image collector received) ∧
      WindowFits size (fed size image collector received) := by
  obtain ⟨later, rfl⟩ := isPrefix
  cases received with
  | nil => exact absurd rfl nonempty
  | cons first received =>
    refine follows_fed nonempty covers.starts (fun chunk member => ?_)
      (gapless_append.mp covers.gapless).1 fits
    exact covers.continues chunk (List.mem_append_left later member)

/-- The collector comes to the verdict of the whole image from chunks of any size, and what is
encoded as an identity is parsed as the same identity. -/
theorem identityCheck (size : SizeType) (collector : ImageIdentityCollector) (image : List UInt8)
    (fits : image.length < 2 ^ size.bits) {chunks : List (ℕ × ℕ)}
    (covers : Covers image.length chunks) :
    ChecksWhole size collector image chunks ∧
      ∀ (identity : ImageIdentity) (out : List UInt8),
        ImageIdentity.fixedSize + identity.board.length ≤ out.length →
          ImageIdentity.parse ((identity.encode out).2.take (identity.encode out).1) =
            some identity := by
  have nonempty : chunks ≠ [] := by
    rintro rfl
    cases covers.starts
  have whole : (fed size image collector chunks).result = verdict collector.own image := by
    have follows := (covers.follows (List.prefix_refl _) nonempty fits collector).1
    rw [covers.whole] at follows
    exact follows.result_of_whole
  refine ⟨⟨?_, ?_, ?_, ?_, ?_, ?_, ?_⟩, fun identity out room => identity.parse_encode room⟩
  · -- The image at once is one more way to cut it.
    have once : Follows collector.own image (max 0 (0 + image.length))
        (ImageIdentityCollector.feed size { own := collector.own } 0
          (chunkAt image 0 image.length) image.length) :=
      Follows.feed (if_pos rfl) (Follows.reset rfl) (by omega) (Nat.zero_le _) le_rfl fits
    rw [chunkAt, List.drop_zero, List.take_length, Nat.zero_add, Nat.max_eq_right (Nat.zero_le _)]
      at once
    rw [whole, once.result_of_whole]
  · rw [whole]
    exact verdict_eq_matched_iff collector.own image
  · -- The identity area is complete before the image is: the verdict stands from there.
    intro received isPrefix start areaSize read complete
    have started : received ≠ [] := by
      rintro rfl
      obtain ⟨-, header, -, isStart, -, -⟩ := readHeader_eq_ok_iff.mp read
      have positive : 0 < headerSize := by decide
      simp only [reach, List.foldl_nil] at complete
      omega
    have follows := (covers.follows isPrefix started fits collector).1
    obtain ⟨known, decided⟩ := follows.result_of_area
      (reach_le_of_gapless (Nat.zero_le _) (gapless_of_initial isPrefix covers.gapless)) read
      complete
    exact ⟨known.trans whole.symm, decided⟩
  · intro received isPrefix started undecided
    cases (covers.follows isPrefix started fits collector).1 with
    | header isOwn phase result received start window short agrees => exact agrees
    | tlvs isOwn phase result received long read short agrees => exact agrees
    | decided isOwn phase result long complete => exact absurd phase undecided
  · intro chunk member
    exact lt_of_le_of_lt (le_of_mem_of_gapless covers.gapless member) fits
  · intro received isPrefix started
    exact (covers.follows isPrefix started fits collector).2
  · intro header
    have declared := readU16_lt header headerSizeOffset
    have protectedSize := readU16_lt header headerProtectedTlvSizeOffset
    have payload := readU32_lt header headerImageSizeOffset
    omega

/-- Product 7, board `b`. -/
def exampleIdentity : ImageIdentity where
  productId := 7
  board := [0x62]
  length_le := by decide
  printable := by
    intro char member
    rw [List.mem_singleton.mp member]
    exact ⟨by decide, by decide⟩

/-- A header without a payload, and the identity as the only protected TLV. -/
def exampleImage : List UInt8 :=
  leBytes 4 headerMagic ++ leBytes 4 0 ++ leBytes 2 32 ++ leBytes 2 13 ++ leBytes 4 0 ++
    List.replicate 16 0 ++ leBytes 2 protectedTlvMagic ++ leBytes 2 13 ++
    Tlv.bytes ⟨ImageIdentity.tlvType, [1, 7, 0, 1, 0x62]⟩

/-- An overlap, an empty chunk and a repeated one. -/
def exampleChunks : List (ℕ × ℕ) := [(0, 20), (10, 26), (36, 0), (10, 26), (36, 9)]

theorem identityCheck_exampleChunks :
    exampleImage.length < 2 ^ 32 ∧ Covers exampleImage.length exampleChunks ∧
      ChecksWhole ⟨32, le_rfl⟩ { own := exampleIdentity } exampleImage exampleChunks ∧
      (fed ⟨32, le_rfl⟩ exampleImage { own := exampleIdentity } exampleChunks).result =
        .matched := by
  have covers : Covers exampleImage.length exampleChunks :=
    ⟨rfl, by decide, by simp [exampleChunks, Gapless]; decide, by decide⟩
  exact ⟨by decide, covers,
    (identityCheck ⟨32, le_rfl⟩ { own := exampleIdentity } exampleImage (by decide) covers).1,
    by decide +kernel⟩

end RtCore.Dfu
