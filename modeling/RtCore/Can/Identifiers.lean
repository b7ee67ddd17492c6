import Mathlib.Data.List.Basic

/-!
# CAN identifiers and filters

A CAN identifier has 11 or 29 bits; a filter accepts the identifiers of one format
whose bits under its mask equal the filter's.

## Main results

* `CanFilter.overlaps_iff` — the overlap test of two filters is exact
* `CanId.key_inj` — the key of an identifier tells the formats apart
-/

namespace RtCore.Can

/-- A CAN identifier together with its format. -/
structure CanId where
  id : UInt32
  isExtended : Bool
deriving DecidableEq, Repr

namespace CanId

/-- The mask of all identifier bits of a format: `CAN_EXT_ID_MASK` or `CAN_STD_ID_MASK`. -/
def widthMask (isExtended : Bool) : UInt32 := if isExtended then 0x1FFFFFFF else 0x7FF

/-- The identifier fits its format. -/
def isValid (canId : CanId) : Bool := canId.id &&& ~~~widthMask canId.isExtended = 0

/-- A key unique across both formats; bit 31 is never part of a CAN identifier. -/
def key (canId : CanId) : UInt32 := canId.id ||| (if canId.isExtended then 0x80000000 else 0)

end CanId

/-- Accepts identifiers of one format whose bits under the mask equal the filter's. -/
structure CanFilter where
  id : UInt32
  mask : UInt32
  isExtended : Bool
deriving DecidableEq, Repr

namespace CanFilter

/-- The bits of an ID of the filter's width. -/
def widthMask (filter : CanFilter) : UInt32 := CanId.widthMask filter.isExtended

/-- The identifier and the mask fit the format. -/
def isValid (filter : CanFilter) : Bool :=
  filter.id &&& ~~~filter.widthMask = 0 ∧ filter.mask &&& ~~~filter.widthMask = 0

/-- The filter accepts a single identifier. -/
def isExact (filter : CanFilter) : Bool := filter.mask = filter.widthMask

/-- Clears the bits outside the mask, so equal filters compare equal. -/
def normalized (filter : CanFilter) : CanFilter := { filter with id := filter.id &&& filter.mask }

/-- `Matches`: the filter accepts `canId`. -/
def accepts (filter : CanFilter) (canId : CanId) : Bool :=
  canId.isExtended = filter.isExtended ∧ (canId.id ^^^ filter.id) &&& filter.mask = 0

/-- At least one identifier passes both filters. -/
def overlaps (filter other : CanFilter) : Bool :=
  other.isExtended = filter.isExtended ∧
    (other.id ^^^ filter.id) &&& filter.mask &&& other.mask = 0

end CanFilter

/-! ### Bits -/

section Bits

variable {x a b m n : UInt32}

private theorem eq_zero_iff : a = 0 ↔ ∀ i, a.toBitVec.getLsbD i = false := by
  constructor
  · rintro rfl i
    simp
  · intro bits
    refine UInt32.toBitVec_inj.mp (BitVec.eq_of_getLsbD_eq fun i _ => ?_)
    simpa using bits i

private theorem eq_iff : a = b ↔ ∀ i, a.toBitVec.getLsbD i = b.toBitVec.getLsbD i := by
  constructor
  · rintro rfl i
    rfl
  · intro bits
    exact UInt32.toBitVec_inj.mp (BitVec.eq_of_getLsbD_eq fun i _ => bits i)

/-- Two words that agree with a third under their masks agree where both masks do. -/
theorem agree_of_agree (left : (x ^^^ a) &&& m = 0) (right : (x ^^^ b) &&& n = 0) :
    (b ^^^ a) &&& m &&& n = 0 := by
  have bitwise : ∀ x a b m n : Bool, ((x ^^ a) && m) = false → ((x ^^ b) && n) = false →
      ((b ^^ a) && m && n) = false := by decide
  rw [eq_zero_iff] at left right ⊢
  intro i
  simp only [UInt32.toBitVec_and, UInt32.toBitVec_xor, BitVec.getLsbD_and, BitVec.getLsbD_xor]
    at left right ⊢
  exact bitwise _ _ _ _ _ (left i) (right i)

/-- Words without bits outside their masks that agree under both have a common extension. -/
theorem agree_or (normal : a &&& m = a) (normal' : b &&& n = b)
    (agree : (b ^^^ a) &&& m &&& n = 0) :
    ((a ||| b) ^^^ a) &&& m = 0 ∧ ((a ||| b) ^^^ b) &&& n = 0 := by
  have bitwise : ∀ a b m n : Bool, (a && m) = a → (b && n) = b → ((b ^^ a) && m && n) = false →
      (((a || b) ^^ a) && m) = false ∧ (((a || b) ^^ b) && n) = false := by decide
  rw [eq_iff] at normal normal'
  rw [eq_zero_iff] at agree
  rw [eq_zero_iff, eq_zero_iff, ← forall_and]
  intro i
  simp only [UInt32.toBitVec_and, UInt32.toBitVec_xor, UInt32.toBitVec_or, BitVec.getLsbD_and,
    BitVec.getLsbD_xor, BitVec.getLsbD_or] at normal normal' agree ⊢
  exact bitwise _ _ _ _ (normal i) (normal' i) (agree i)

/-- Bits outside the mask do not take part in matching. -/
theorem xor_and_and : (x ^^^ (a &&& m)) &&& m = (x ^^^ a) &&& m := by
  have bitwise : ∀ x a m : Bool, ((x ^^ (a && m)) && m) = ((x ^^ a) && m) := by decide
  rw [eq_iff]
  intro i
  simp only [UInt32.toBitVec_and, UInt32.toBitVec_xor, BitVec.getLsbD_and, BitVec.getLsbD_xor]
  exact bitwise _ _ _

/-- A word without bits outside a mask is its own part under the mask. -/
theorem and_not_eq_zero_iff : a &&& ~~~m = 0 ↔ a &&& m = a := by
  have bitwise : ∀ a m : Bool, (a && !m) = false ↔ (a && m) = a := by decide
  rw [eq_zero_iff, eq_iff]
  refine forall_congr' fun i => ?_
  simp only [UInt32.toBitVec_and, UInt32.toBitVec_not, BitVec.getLsbD_and, BitVec.getLsbD_not]
  by_cases inside : i < 32
  · simp only [inside, decide_true, Bool.true_and]
    exact bitwise _ _
  · simp [BitVec.getLsbD_of_ge _ i (Nat.le_of_not_lt inside)]

/-- Within the width, a comparison of all bits is equality. -/
theorem agree_width (fits : x &&& m = x) (fits' : a &&& m = a) :
    (x ^^^ a) &&& m = 0 ↔ x = a := by
  have bitwise : ∀ x a m : Bool, (x && m) = x → (a && m) = a →
      (((x ^^ a) && m) = false ↔ x = a) := by decide
  rw [eq_iff] at fits fits'
  rw [eq_zero_iff, eq_iff]
  refine forall_congr' fun i => ?_
  simp only [UInt32.toBitVec_and, UInt32.toBitVec_xor, BitVec.getLsbD_and, BitVec.getLsbD_xor]
    at fits fits' ⊢
  exact bitwise _ _ _ (fits i) (fits' i)

theorem or_and_of_and (fits : a &&& m = a) (fits' : b &&& m = b) : (a ||| b) &&& m = a ||| b := by
  have bitwise : ∀ a b m : Bool, (a && m) = a → (b && m) = b → ((a || b) && m) = (a || b) := by
    decide
  rw [eq_iff] at fits fits' ⊢
  intro i
  simp only [UInt32.toBitVec_and, UInt32.toBitVec_or, BitVec.getLsbD_and, BitVec.getLsbD_or]
    at fits fits' ⊢
  exact bitwise _ _ _ (fits i) (fits' i)

/-- A tag outside the width can be taken off again, and shows whether it was there. -/
theorem or_tag (fits : a &&& m = a) (outside : b &&& m = 0) :
    (a ||| b) &&& m = a ∧ (a ||| b) &&& ~~~m = b := by
  have bitwise : ∀ a b m : Bool, (a && m) = a → (b && m) = false →
      ((a || b) && m) = a ∧ ((a || b) && !m) = b := by decide
  rw [eq_iff] at fits
  rw [eq_zero_iff] at outside
  rw [eq_iff, eq_iff, ← forall_and]
  intro i
  simp only [UInt32.toBitVec_and, UInt32.toBitVec_or, UInt32.toBitVec_not, BitVec.getLsbD_and,
    BitVec.getLsbD_or, BitVec.getLsbD_not] at fits outside ⊢
  by_cases inside : i < 32
  · simp only [inside, decide_true, Bool.true_and]
    exact bitwise _ _ _ (fits i) (outside i)
  · simp [BitVec.getLsbD_of_ge _ i (Nat.le_of_not_lt inside)]

end Bits

/-! ### Filters as sets of identifiers -/

namespace CanId

variable {canId other : CanId}

theorem isValid_iff :
    canId.isValid = true ↔ canId.id &&& widthMask canId.isExtended = canId.id := by
  rw [← and_not_eq_zero_iff]
  simp [isValid]

/-- Any identifier fits 29 bits. -/
private theorem fits_extended (valid : canId.isValid = true) :
    canId.id &&& 0x1FFFFFFF = canId.id := by
  rw [isValid_iff] at valid
  cases format : canId.isExtended with
  | true => rwa [format] at valid
  | false =>
    rw [format] at valid
    rw [← valid, UInt32.and_assoc]
    rfl

/-- The key of an identifier tells the formats apart. -/
theorem key_inj (valid : canId.isValid = true) (valid' : other.isValid = true) :
    canId.key = other.key ↔ canId = other := by
  refine ⟨fun same => ?_, fun same => by rw [same]⟩
  have outside (isExtended : Bool) :
      (if isExtended then (0x80000000 : UInt32) else 0) &&& 0x1FFFFFFF = 0 := by
    cases isExtended <;> decide
  obtain ⟨id, tag⟩ := or_tag (fits_extended valid) (outside canId.isExtended)
  obtain ⟨id', tag'⟩ := or_tag (fits_extended valid') (outside other.isExtended)
  change canId.key &&& _ = _ at id tag
  change other.key &&& _ = _ at id' tag'
  rw [same, id'] at id
  rw [same, tag'] at tag
  have format : canId.isExtended = other.isExtended := by
    revert tag
    cases canId.isExtended <;> cases other.isExtended <;> decide
  cases canId
  cases other
  simp_all

end CanId

namespace CanFilter

variable {filter other : CanFilter} {canId : CanId}

theorem isValid_iff : filter.isValid = true ↔
    filter.id &&& filter.widthMask = filter.id ∧
      filter.mask &&& filter.widthMask = filter.mask := by
  rw [← and_not_eq_zero_iff, ← and_not_eq_zero_iff]
  simp [isValid]

theorem accepts_iff : filter.accepts canId = true ↔
    canId.isExtended = filter.isExtended ∧ (canId.id ^^^ filter.id) &&& filter.mask = 0 := by
  simp [accepts]

theorem overlaps_iff_bits : filter.overlaps other = true ↔
    other.isExtended = filter.isExtended ∧
      (other.id ^^^ filter.id) &&& filter.mask &&& other.mask = 0 := by
  simp [overlaps]

theorem overlaps_comm : filter.overlaps other = other.overlaps filter := by
  rw [Bool.eq_iff_iff, overlaps_iff_bits, overlaps_iff_bits, UInt32.xor_comm, UInt32.and_assoc,
    UInt32.and_comm filter.mask, ← UInt32.and_assoc, eq_comm (a := other.isExtended)]

@[simp] theorem accepts_normalized : filter.normalized.accepts canId = filter.accepts canId := by
  rw [Bool.eq_iff_iff, accepts_iff, accepts_iff]
  simp only [normalized, xor_and_and]

theorem normalized_normalized : filter.normalized.normalized = filter.normalized := by
  simp [normalized, UInt32.and_assoc]

/-- Filters that accept a common identifier overlap. -/
theorem overlaps_of_accepts (accepts : filter.accepts canId = true)
    (accepts' : other.accepts canId = true) : filter.overlaps other = true := by
  rw [accepts_iff] at accepts accepts'
  exact overlaps_iff_bits.mpr
    ⟨accepts'.1.symm.trans accepts.1, agree_of_agree accepts.2 accepts'.2⟩

/-- The overlap test is exact: two filters overlap when an identifier of their format
passes both. -/
theorem overlaps_iff (valid : filter.isValid = true) (valid' : other.isValid = true)
    (normal : filter.normalized = filter) (normal' : other.normalized = other) :
    filter.overlaps other = true ↔
      ∃ canId : CanId, canId.isValid = true ∧ filter.accepts canId = true ∧
        other.accepts canId = true := by
  constructor
  · intro overlap
    obtain ⟨format, agree⟩ := overlaps_iff_bits.mp overlap
    obtain ⟨left, right⟩ := agree_or (congrArg CanFilter.id normal) (congrArg CanFilter.id normal')
      agree
    refine ⟨⟨filter.id ||| other.id, filter.isExtended⟩, ?_, ?_, ?_⟩
    · rw [isValid_iff] at valid valid'
      rw [CanId.isValid_iff]
      refine or_and_of_and valid.1 ?_
      have := valid'.1
      rwa [widthMask, format] at this
    · exact accepts_iff.mpr ⟨rfl, left⟩
    · exact accepts_iff.mpr ⟨format.symm, right⟩
  · rintro ⟨canId, -, left, right⟩
    exact overlaps_of_accepts left right

/-- An exact filter accepts one identifier, its own. -/
theorem accepts_iff_of_exact (valid : filter.isValid = true) (exact : filter.isExact = true)
    (valid' : canId.isValid = true) :
    filter.accepts canId = true ↔ canId = ⟨filter.id, filter.isExtended⟩ := by
  have mask : filter.mask = filter.widthMask := by simpa [isExact] using exact
  rw [isValid_iff] at valid
  rw [CanId.isValid_iff] at valid'
  rw [accepts_iff, mask]
  constructor
  · rintro ⟨format, agree⟩
    rw [format] at valid'
    have same := (agree_width valid' valid.1).mp agree
    cases canId
    simp_all
  · rintro rfl
    exact ⟨rfl, (agree_width valid' valid.1).mpr rfl⟩

end CanFilter

end RtCore.Can
