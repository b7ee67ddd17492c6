import Mathlib.Data.List.Nodup
import Mathlib.Data.List.Perm.Basic
import Mathlib.Data.Nat.Notation

/-!
# Bits of a byte sequence

Bits are numbered through the bytes, the least significant of each byte first. Bits of a word are
put into a byte sequence, and taken out of it, one by one.

## Main definitions

* `bitAt`, `setBit` — one bit
* `gather`, `scatter` — the bits of a word, from and to places of a byte sequence

## Main results

* `gather_scatter` — what was put at distinct places is taken out
* `bitAt_scatter_of_notMem` — all other bits stay
* `scatter_comm` — words at disjoint places can be put in any order
-/

namespace RtCore.Foundation

variable {data : List UInt8} {position other : ℕ} {value : Bool}

/-- A bit of a byte sequence. -/
def bitAt (data : List UInt8) (position : ℕ) : Bool :=
  (data.getD (position / 8) 0 >>> UInt8.ofNat (position % 8)) &&& 1 != 0

/-- The byte with one bit set or cleared. -/
def setByteBit (byte : UInt8) (bit : ℕ) (value : Bool) : UInt8 :=
  let mask := (1 : UInt8) <<< UInt8.ofNat bit
  if value then byte ||| mask else byte &&& ~~~mask

/-- Sets one bit of the payload. -/
def setBit (data : List UInt8) (position : ℕ) (value : Bool) : List UInt8 :=
  data.modify (position / 8) fun byte => setByteBit byte (position % 8) value

/-! ### One bit -/

private theorem getLsbD_setByteBit (byte : UInt8) {bit place : ℕ} (inside : bit < 8) :
    (setByteBit byte bit value).toBitVec.getLsbD place =
      if place = bit ∧ place < 8 then value else byte.toBitVec.getLsbD place := by
  have whole : bit % 8 = bit := Nat.mod_eq_of_lt inside
  by_cases outside : place < 8
  · by_cases same : place = bit
    · subst same
      cases value <;> simp [setByteBit, whole, outside]
    · have apart : place < bit ∨ place - bit ≠ 0 := by omega
      cases value <;> simp [setByteBit, whole, outside, same] <;> omega
  · rw [if_neg fun both => outside both.2]
    rw [BitVec.getLsbD_of_ge _ _ (Nat.le_of_not_lt outside),
      BitVec.getLsbD_of_ge _ _ (Nat.le_of_not_lt outside)]

theorem bitAt_eq (data : List UInt8) (position : ℕ) :
    bitAt data position = (data.getD (position / 8) 0).toBitVec.getLsbD (position % 8) := by
  have whole : (UInt8.ofNat (position % 8)).toNat = position % 8 := by
    rw [UInt8.toNat_ofNat']
    omega
  rw [bitAt, Bool.eq_iff_iff, bne_iff_ne, ne_eq, ← UInt8.toNat_inj]
  generalize data.getD (position / 8) 0 = byte
  simp [whole, BitVec.getLsbD, Nat.testBit_eq_decide_div_mod_eq, Nat.shiftRight_eq_div_pow]

@[simp] theorem length_setBit : (setBit data position value).length = data.length :=
  List.length_modify ..

theorem bitAt_setBit_self (inside : position < 8 * data.length) :
    bitAt (setBit data position value) position = value := by
  have byte : position / 8 < data.length := by omega
  have bit : position % 8 < 8 := Nat.mod_lt _ (by decide)
  rw [bitAt_eq, setBit, List.getD_eq_getElem?_getD, List.getElem?_modify,
    List.getElem?_eq_getElem byte]
  simp only [Option.map_eq_map, Option.map_some, Option.getD_some, if_true]
  exact (getLsbD_setByteBit _ bit).trans (if_pos ⟨rfl, bit⟩)

theorem bitAt_setBit_of_ne (different : other ≠ position) :
    bitAt (setBit data position value) other = bitAt data other := by
  rw [bitAt_eq, bitAt_eq, setBit, List.getD_eq_getElem?_getD, List.getD_eq_getElem?_getD,
    List.getElem?_modify]
  cases data[other / 8]? with
  | none => rfl
  | some byte =>
    simp only [Option.map_eq_map, Option.map_some, Option.getD_some]
    by_cases same : position / 8 = other / 8
    · rw [if_pos same]
      have bit : position % 8 < 8 := Nat.mod_lt _ (by decide)
      exact (getLsbD_setByteBit byte bit).trans (if_neg (by omega))
    · rw [if_neg same]

/-- Byte sequences of one length with the same bits are the same. -/
theorem eq_of_bitAt_eq {first second : List UInt8} (length : first.length = second.length)
    (bits : ∀ position < 8 * first.length, bitAt first position = bitAt second position) :
    first = second := by
  refine List.ext_getElem length fun index inside inside' => ?_
  rw [← UInt8.toBitVec_inj]
  refine BitVec.eq_of_getLsbD_eq fun bit small => ?_
  have same := bits (8 * index + bit) (by omega)
  have byte : (8 * index + bit) / 8 = index := by omega
  have place : (8 * index + bit) % 8 = bit := by omega
  rw [bitAt_eq, bitAt_eq, byte, place, List.getD_eq_getElem?_getD, List.getD_eq_getElem?_getD,
    List.getElem?_eq_getElem inside, List.getElem?_eq_getElem inside'] at same
  exact same

/-- Different bits can be set in any order. -/
theorem setBit_comm {value' : Bool} (different : other ≠ position) :
    setBit (setBit data position value) other value' =
      setBit (setBit data other value') position value := by
  refine eq_of_bitAt_eq (by simp only [length_setBit]) fun place inside => ?_
  simp only [length_setBit] at inside
  by_cases here : place = position
  · rw [here] at inside ⊢
    rw [bitAt_setBit_of_ne different.symm, bitAt_setBit_self inside,
      bitAt_setBit_self (by rwa [length_setBit])]
  · rw [bitAt_setBit_of_ne here]
    by_cases there : place = other
    · rw [there] at inside ⊢
      rw [bitAt_setBit_self (by rwa [length_setBit]), bitAt_setBit_self inside]
    · rw [bitAt_setBit_of_ne there, bitAt_setBit_of_ne there, bitAt_setBit_of_ne here]

/-! ### The bits of a word -/

/-- The word whose bits are at the places; a place is a position with the bit it stands for. -/
def gather {w : ℕ} (data : List UInt8) (places : List (ℕ × ℕ)) : BitVec w :=
  places.foldl (fun word place =>
    if bitAt data place.1 then word ||| 1#w <<< place.2 else word) 0#w

/-- Puts the bits of a word to the places. -/
def scatter {w : ℕ} (word : BitVec w) (data : List UInt8) (places : List (ℕ × ℕ)) : List UInt8 :=
  places.foldl (fun data place =>
    setBit data place.1 ((word >>> place.2) &&& 1#w != 0#w)) data

section Words

variable {w : ℕ} {word : BitVec w} {places : List (ℕ × ℕ)}

private theorem shifted_eq (word : BitVec w) (bit : ℕ) :
    ((word >>> bit) &&& 1#w != 0#w) = word.getLsbD bit := by
  rw [BitVec.and_one_eq_setWidth_ofBool_getLsbD, BitVec.getLsbD_ushiftRight, Nat.add_zero]
  cases set : word.getLsbD bit with
  | false => simp
  | true =>
    have wide : 0 < w := Nat.lt_of_le_of_lt (Nat.zero_le bit) (BitVec.lt_of_getLsbD set)
    rw [bne_iff_ne]
    intro zero
    have first := congrArg (BitVec.getLsbD · 0) zero
    simp [wide] at first

@[simp] theorem length_scatter : (scatter word data places).length = data.length := by
  rw [scatter]
  induction places generalizing data with
  | nil => rfl
  | cons place places ih => exact ih.trans length_setBit

/-- Bits that are at none of the places stay. -/
theorem bitAt_scatter_of_notMem (outside : position ∉ places.map Prod.fst) :
    bitAt (scatter word data places) position = bitAt data position := by
  rw [scatter]
  induction places generalizing data with
  | nil => rfl
  | cons place places ih =>
    rw [List.map_cons, List.mem_cons, not_or] at outside
    exact (ih outside.2).trans (bitAt_setBit_of_ne outside.1)

/-- Every place has its bit of the word. -/
theorem bitAt_scatter {bit : ℕ} (distinct : (places.map Prod.fst).Nodup)
    (member : (position, bit) ∈ places) (inside : position < 8 * data.length) :
    bitAt (scatter word data places) position = word.getLsbD bit := by
  induction places generalizing data with
  | nil => exact absurd member List.not_mem_nil
  | cons place places ih =>
    rw [List.map_cons, List.nodup_cons] at distinct
    show bitAt (scatter word (setBit data place.1 _) places) position = _
    rcases List.mem_cons.mp member with rfl | member
    · rw [bitAt_scatter_of_notMem distinct.1, bitAt_setBit_self inside, shifted_eq]
    · exact ih distinct.2 member (by rwa [length_setBit])

private theorem getLsbD_foldl {bit : ℕ} (small : bit < w) :
    (places.foldl (fun word place =>
      if bitAt data place.1 then word ||| 1#w <<< place.2 else word) word).getLsbD bit = true ↔
        word.getLsbD bit = true ∨
          ∃ position, (position, bit) ∈ places ∧ bitAt data position = true := by
  -- On the places, with the word that those before them have set.
  induction places generalizing word with
  | nil => simp
  | cons place places ih =>
    have added : (1#w <<< place.2).getLsbD bit = true ↔ place.2 = bit := by
      rw [BitVec.getLsbD_shiftLeft]
      simp [small]
      omega
    rw [List.foldl_cons, ih]
    by_cases set : bitAt data place.1 = true
    · rw [if_pos set, BitVec.getLsbD_or, Bool.or_eq_true, added]
      constructor
      · rintro ((before | rfl) | ⟨position, member, there⟩)
        · exact .inl before
        · exact .inr ⟨place.1, List.mem_cons_self, set⟩
        · exact .inr ⟨position, List.mem_cons_of_mem place member, there⟩
      · rintro (before | ⟨position, member, there⟩)
        · exact .inl (.inl before)
        · rcases List.mem_cons.mp member with rfl | member
          · exact .inl (.inr rfl)
          · exact .inr ⟨position, member, there⟩
    · rw [if_neg set]
      refine or_congr_right ⟨?_, ?_⟩
      · rintro ⟨position, member, there⟩
        exact ⟨position, List.mem_cons_of_mem place member, there⟩
      · rintro ⟨position, member, there⟩
        rcases List.mem_cons.mp member with rfl | member
        · exact absurd there set
        · exact ⟨position, member, there⟩

/-- A bit of the word is set exactly when one of its places is. -/
theorem getLsbD_gather {bit : ℕ} (small : bit < w) :
    (gather data places : BitVec w).getLsbD bit = true ↔
      ∃ position, (position, bit) ∈ places ∧ bitAt data position = true := by
  rw [gather, getLsbD_foldl small, BitVec.getLsbD_zero]
  simp

/-- What was put at distinct places is taken out. -/
theorem gather_scatter (distinct : (places.map Prod.fst).Nodup)
    (inside : ∀ position ∈ places.map Prod.fst, position < 8 * data.length)
    (covers : ∀ bit, word.getLsbD bit = true → bit ∈ places.map Prod.snd) :
    gather (scatter word data places) places = word := by
  refine BitVec.eq_of_getLsbD_eq fun bit small => ?_
  rw [Bool.eq_iff_iff, getLsbD_gather small]
  have put : ∀ {position}, (position, bit) ∈ places →
      bitAt (scatter word data places) position = word.getLsbD bit := fun member =>
    bitAt_scatter distinct member (inside _ (List.mem_map_of_mem member))
  constructor
  · rintro ⟨position, member, there⟩
    rwa [put member] at there
  · intro there
    obtain ⟨⟨position, _⟩, member, rfl⟩ := List.mem_map.mp (covers bit there)
    exact ⟨position, member, (put member).trans there⟩

private theorem scatter_setBit (outside : position ∉ places.map Prod.fst) :
    scatter word (setBit data position value) places =
      setBit (scatter word data places) position value := by
  induction places generalizing data with
  | nil => rfl
  | cons place places ih =>
    rw [List.map_cons, List.mem_cons, not_or] at outside
    show scatter word (setBit (setBit data position value) place.1 _) places = _
    rw [setBit_comm (Ne.symm outside.1), ih outside.2]
    rfl

/-- Words at disjoint places can be put in any order. -/
theorem scatter_comm {word' : BitVec w} {places' : List (ℕ × ℕ)}
    (disjoint : (places.map Prod.fst).Disjoint (places'.map Prod.fst)) :
    scatter word' (scatter word data places) places' =
      scatter word (scatter word' data places') places := by
  induction places generalizing data with
  | nil => rfl
  | cons place places ih =>
    rw [List.map_cons, List.disjoint_cons_left] at disjoint
    show scatter word' (scatter word (setBit data place.1 _) places) places' = _
    rw [ih disjoint.2, scatter_setBit disjoint.1]
    rfl

end Words

end RtCore.Foundation
