import Mathlib.Data.List.Pairwise
import RtCore.Can.CanbusConfiguration
import RtCore.Foundation.PayloadBits

/-!
# The bit layout of a CAN signal

A signal is a number at some bits of a payload. An Intel signal takes consecutive bits from its
lowest on. A Motorola signal is walked from its highest bit down, through a byte from the top and
then on to the next byte. Numbered along that walk, the bits of a Motorola signal are consecutive
as well, and a bit stays in its byte.

What the signal's factor and offset make of a number, and the number a physical value is clamped
to, are parameters.

## Main definitions

* `CanSignalCodec.forEachSignalBit` — the bits of a payload a signal is at
* `CanSignalCodec.decode`, `CanSignalCodec.encode`
* `CanMessageCodec.encode`

## Main results

* `CanSignalCodec.isLayoutValid_spec` — a valid layout is one whose bits are in the payload, and
  what is written there is read back
* `CanSignalCodec.decode_encode` — what is encoded is decoded
* `CanMessageCodec.encode_perm` — signals at disjoint bits can be written in any order
-/

namespace RtCore.Can

open RtCore.Foundation

namespace CanSignalCodec

/-- The low `sizeBits` bits. -/
def signalMask (sizeBits : UInt32) : BitVec 64 :=
  if sizeBits ≥ maxSignalSizeBits then BitVec.allOnes 64 else (1#64 <<< sizeBits.toNat) - 1#64

/-- The walk of a Motorola signal from a bit on, with the bits of the signal that are left. -/
def motorolaBits : ℕ → UInt32 → List (ℕ × ℕ)
  | 0, _ => []
  | left + 1, bitPosition =>
    (bitPosition.toNat, left) ::
      motorolaBits left (if bitPosition % 8 = 0 then bitPosition + 15 else bitPosition - 1)

/-- The bits of the frame that are handed to the handler, with the bits of the signal. Byte order 0
is Intel's. -/
def forEachSignalBit (signal : CanSignalConfiguration) : List (ℕ × ℕ) :=
  if signal.byteOrder = 0 then
    (List.range signal.sizeBits.toNat).map fun i => ((signal.startBit + UInt32.ofNat i).toNat, i)
  else motorolaBits signal.sizeBits.toNat signal.startBit

/-- The number a raw value stands for. -/
def rawValue (signal : CanSignalConfiguration) (raw : BitVec 64) : ℤ :=
  if signal.isSigned then
    let signMask := 1#64 <<< (signal.sizeBits - 1).toNat
    (if raw &&& signMask ≠ 0 then raw ||| ~~~signalMask signal.sizeBits else raw).toInt
  else raw.toNat

/-- Reads the number at the bits of a signal. -/
def read (signal : CanSignalConfiguration) (data : List UInt8) : ℤ :=
  rawValue signal (gather data (forEachSignalBit signal))

/-- Decodes the physical value, known by its bits; `physical` applies factor and offset. -/
def decode (physical : CanSignalConfiguration → ℤ → UInt32) (signal : CanSignalConfiguration)
    (data : List UInt8) : Option UInt32 :=
  if isLayoutValid signal data.length then some (physical signal (read signal data)) else none

/-- Writes the bits of a raw value. -/
def write (signal : CanSignalConfiguration) (raw : BitVec 64) (data : List UInt8) : List UInt8 :=
  scatter raw data (forEachSignalBit signal)

/-- Encodes a physical value, known by its bits; `saturate` takes offset and factor away and
clamps. -/
def encode (saturate : CanSignalConfiguration → UInt32 → BitVec 64)
    (signal : CanSignalConfiguration) (value : UInt32) (data : List UInt8) : Bool × List UInt8 :=
  if !isLayoutValid signal data.length then (false, data)
  else if FloatBits.magnitude signal.factor = 0 ∨ !FloatBits.isFinite value then (false, data)
  else (true, write signal (saturate signal value &&& signalMask signal.sizeBits) data)

end CanSignalCodec

/-- The payload with all signals of a message. -/
def CanMessageCodec.encode (saturate : CanSignalConfiguration → UInt32 → BitVec 64)
    (message : CanMessageConfiguration) (signalValueReader : CanSignalConfiguration → UInt32) :
    List UInt8 :=
  message.signalConfigurations.foldl
    (fun data signal =>
      (CanSignalCodec.encode saturate signal (signalValueReader signal) data).2)
    (List.replicate message.messageSize.toNat 0)

namespace CanSignalCodec

/-- The bits of a payload a signal is at. -/
def positions (signal : CanSignalConfiguration) : List ℕ := (forEachSignalBit signal).map Prod.fst

/-! ### The walk -/

/-- The number of a bit along the walk of a signal. -/
def rank (signal : CanSignalConfiguration) (position : ℕ) : ℕ :=
  if signal.byteOrder = 0 then position
  else 8 * (position / 8) + (7 - position % 8)

variable {signal : CanSignalConfiguration} {size : ℕ}

/-- A bit stays in its byte. -/
theorem rank_div (signal : CanSignalConfiguration) (position : ℕ) :
    rank signal position / 8 = position / 8 := by
  unfold rank
  split_ifs <;> omega

theorem rank_lt_iff (signal : CanSignalConfiguration) {position : ℕ} :
    rank signal position < 8 * size ↔ position < 8 * size := by
  have same := rank_div signal position
  omega

private theorem motorolaBits_rank (motorola : signal.byteOrder ≠ 0) (left : ℕ) :
    ∀ position : UInt32, rank signal position.toNat + left ≤ 1024 →
      (motorolaBits left position).map (fun bit => rank signal bit.1) =
        List.range' (rank signal position.toNat) left := by
  induction left with
  | zero => exact fun _ _ => rfl
  | succ left ih =>
    intro position near
    have small : position.toNat < 1032 := by
      have byte := rank_div signal position.toNat
      omega
    have next : rank signal (if position % 8 = 0 then position + 15 else position - 1).toNat =
        rank signal position.toNat + 1 := by
      simp only [rank, if_neg motorola]
      have whole : position % 8 = 0 ↔ position.toNat % 8 = 0 := by
        rw [← UInt32.toNat_inj]
        rfl
      by_cases last : position % 8 = 0
      · rw [if_pos last]
        rw [whole] at last
        have moved : (position + 15).toNat = position.toNat + 15 := by
          rw [UInt32.toNat_add]
          exact Nat.mod_eq_of_lt (by show position.toNat + 15 < 2 ^ 32; omega)
        omega
      · rw [if_neg last]
        rw [whole] at last
        have moved : (position - 1).toNat = position.toNat - 1 := by
          apply UInt32.toNat_sub_of_le
          rw [UInt32.le_iff_toNat_le]
          show 1 ≤ position.toNat
          omega
        omega
    rw [motorolaBits, List.map_cons, ih _ (by omega), next, List.range'_succ]

private theorem motorolaBits_snd (left : ℕ) (position : UInt32) :
    (motorolaBits left position).map Prod.snd = (List.range left).reverse := by
  induction left generalizing position with
  | zero => rfl
  | succ left ih => rw [motorolaBits, List.map_cons, ih, List.range_succ, List.reverse_concat]

/-- Along its walk, a signal takes consecutive bits from its start bit on. -/
theorem map_rank_positions (near : signal.startBit.toNat < 512)
    (short : signal.sizeBits.toNat ≤ 64) :
    (positions signal).map (rank signal) =
      List.range' (rank signal signal.startBit.toNat) signal.sizeBits.toNat := by
  rw [positions, forEachSignalBit]
  by_cases intel : signal.byteOrder = 0
  · rw [if_pos intel, List.map_map, List.map_map, List.range'_eq_map_range]
    refine List.map_congr_left fun i member => ?_
    have small := List.mem_range.mp member
    have moved : (signal.startBit + UInt32.ofNat i).toNat = signal.startBit.toNat + i := by
      rw [UInt32.toNat_add, UInt32.toNat_ofNat']
      omega
    simp only [Function.comp_apply, rank, if_pos intel, moved]
  · have byte := rank_div signal signal.startBit.toNat
    rw [if_neg intel, List.map_map]
    exact motorolaBits_rank intel _ _ (by omega)

/-- Every bit of a signal is handed to the handler. -/
theorem mem_map_snd {bit : ℕ} :
    bit ∈ (forEachSignalBit signal).map Prod.snd ↔ bit < signal.sizeBits.toNat := by
  rw [forEachSignalBit]
  by_cases intel : signal.byteOrder = 0
  · simp [if_pos intel]
  · rw [if_neg intel, motorolaBits_snd, List.mem_reverse, List.mem_range]

/-! ### Valid layouts -/

/-- The byte of the last bit along the walk. -/
private theorem getLastByteIndex_eq (near : signal.startBit.toNat < 512)
    (short : signal.sizeBits.toNat ≤ 64) (nonempty : 0 < signal.sizeBits.toNat) :
    getLastByteIndex signal =
      (rank signal signal.startBit.toNat + signal.sizeBits.toNat - 1) / 8 := by
  rw [getLastByteIndex, rank]
  -- The bound on the start bit and the size keeps every sum of the source below 2^32.
  by_cases intel : signal.byteOrder = 0
  · rw [if_pos intel, if_pos intel, UInt32.toNat_div]
    have sum : (signal.startBit + signal.sizeBits).toNat =
        signal.startBit.toNat + signal.sizeBits.toNat := by
      rw [UInt32.toNat_add]
      omega
    have last : (signal.startBit + signal.sizeBits - 1).toNat =
        signal.startBit.toNat + signal.sizeBits.toNat - 1 := by
      rw [UInt32.toNat_sub_of_le, sum]
      · rfl
      · rw [UInt32.le_iff_toNat_le, sum]
        show 1 ≤ _
        omega
    rw [last]
    rfl
  · rw [if_neg intel, if_neg intel]
    have start : (signal.startBit / 8).toNat = signal.startBit.toNat / 8 := UInt32.toNat_div ..
    have first : (signal.startBit % 8 + 1).toNat = signal.startBit.toNat % 8 + 1 := by
      rw [UInt32.toNat_add, UInt32.toNat_mod]
      show (signal.startBit.toNat % 8 + 1) % 2 ^ 32 = _
      omega
    simp only [UInt32.le_iff_toNat_le, first]
    -- A Motorola signal runs down its first byte and goes on in whole bytes.
    by_cases one : signal.sizeBits.toNat ≤ signal.startBit.toNat % 8 + 1
    · rw [if_pos one, start]
      omega
    · rw [if_neg one]
      have rest : (signal.sizeBits - (signal.startBit % 8 + 1)).toNat =
          signal.sizeBits.toNat - (signal.startBit.toNat % 8 + 1) := by
        rw [UInt32.toNat_sub_of_le, first]
        rw [UInt32.le_iff_toNat_le, first]
        omega
      have bytes : ((signal.sizeBits - (signal.startBit % 8 + 1) + 7) / 8).toNat =
          (signal.sizeBits.toNat - (signal.startBit.toNat % 8 + 1) + 7) / 8 := by
        rw [UInt32.toNat_div, UInt32.toNat_add, rest]
        show (signal.sizeBits.toNat - (signal.startBit.toNat % 8 + 1) + 7) % 2 ^ 32 / 8 = _
        omega
      rw [UInt32.toNat_add, start, bytes]
      omega

/-- The first bit of the walk. -/
theorem startBit_mem_positions (nonempty : 0 < signal.sizeBits.toNat) :
    signal.startBit.toNat ∈ positions signal := by
  obtain ⟨left, same⟩ := Nat.exists_eq_add_one_of_ne_zero (Nat.ne_of_gt nonempty)
  rw [positions, forEachSignalBit]
  by_cases intel : signal.byteOrder = 0
  · rw [if_pos intel, List.map_map, same, List.range_succ_eq_map]
    apply List.mem_cons.mpr
    left
    simp
  · rw [if_neg intel, same]
    exact List.mem_cons_self

private theorem isLayoutValid_true : isLayoutValid signal size = true ↔
    (signal.sizeBits.toNat ≠ 0 ∧ signal.sizeBits.toNat ≤ 64) ∧
      signal.startBit.toNat < size * 8 ∧ getLastByteIndex signal < size := by
  have empty : signal.sizeBits = 0 ↔ signal.sizeBits.toNat = 0 := by
    rw [← UInt32.toNat_inj]
    rfl
  have long : maxSignalSizeBits < signal.sizeBits ↔ 64 < signal.sizeBits.toNat := by
    rw [UInt32.lt_iff_toNat_lt]
    rfl
  simp [isLayoutValid, empty, long, and_assoc]

/-- A layout is valid exactly where the signal has 1 to 64 bits and all are in the payload. -/
theorem isLayoutValid_iff (payload : size ≤ 64) : isLayoutValid signal size = true ↔
    1 ≤ signal.sizeBits.toNat ∧ signal.sizeBits.toNat ≤ 64 ∧
      ∀ position ∈ positions signal, position < 8 * size := by
  rw [isLayoutValid_true]
  constructor
  · rintro ⟨⟨nonempty, short⟩, starts, ends⟩
    refine ⟨Nat.pos_of_ne_zero nonempty, short, fun position member => ?_⟩
    rw [getLastByteIndex_eq (by omega) short (Nat.pos_of_ne_zero nonempty)] at ends
    have walked := List.mem_map_of_mem (f := rank signal) member
    rw [map_rank_positions (by omega) short, List.mem_range'_1] at walked
    rw [← rank_lt_iff signal]
    omega
  · rintro ⟨nonempty, short, inside⟩
    have starts := inside _ (startBit_mem_positions nonempty)
    refine ⟨⟨Nat.ne_of_gt nonempty, short⟩, by omega, ?_⟩
    rw [getLastByteIndex_eq (by omega) short nonempty]
    have last : rank signal signal.startBit.toNat + signal.sizeBits.toNat - 1 ∈
        (positions signal).map (rank signal) := by
      rw [map_rank_positions (by omega) short, List.mem_range'_1]
      omega
    obtain ⟨position, member, same⟩ := List.mem_map.mp last
    have small := (rank_lt_iff signal).mpr (inside position member)
    omega

/-- The bits of a valid layout are distinct. -/
theorem nodup_positions (payload : size ≤ 64) (valid : isLayoutValid signal size = true) :
    (positions signal).Nodup := by
  obtain ⟨⟨-, short⟩, starts, -⟩ := isLayoutValid_true.mp valid
  have walked : ((positions signal).map (rank signal)).Nodup := by
    rw [map_rank_positions (by omega) short]
    exact List.nodup_range'
  exact List.Nodup.of_map (rank signal) walked

/-! ### Reading and writing -/

variable {raw : BitVec 64}

private theorem getLsbD_signalMask {sizeBits : UInt32} (bit : ℕ) :
    (signalMask sizeBits).getLsbD bit = decide (bit < 64 ∧ bit < sizeBits.toNat) := by
  rw [signalMask]
  by_cases whole : sizeBits ≥ maxSignalSizeBits
  · rw [if_pos whole, BitVec.getLsbD_allOnes]
    have wide : 64 ≤ sizeBits.toNat := UInt32.le_iff_toNat_le.mp whole
    rw [decide_eq_decide]
    omega
  · have narrow : sizeBits.toNat < 64 := by
      have below := UInt32.lt_iff_toNat_lt.mp (UInt32.not_le.mp whole)
      exact below
    have ones : ((1#64 <<< sizeBits.toNat) - 1#64).toNat = 2 ^ sizeBits.toNat - 1 := by
      have power : 2 ^ sizeBits.toNat < 2 ^ 64 := Nat.pow_lt_pow_right (by decide) narrow
      have shifted : (1#64 <<< sizeBits.toNat).toNat = 2 ^ sizeBits.toNat := by
        rw [BitVec.toNat_shiftLeft, Nat.shiftLeft_eq]
        show 1 * 2 ^ sizeBits.toNat % 2 ^ 64 = _
        rw [Nat.one_mul, Nat.mod_eq_of_lt power]
      rw [BitVec.toNat_sub_of_le, shifted]
      · rfl
      · rw [BitVec.le_def, shifted]
        exact Nat.one_le_two_pow
    rw [if_neg whole, BitVec.getLsbD, ones, Nat.testBit_two_pow_sub_one, decide_eq_decide]
    omega

/-- A raw value has no bits beyond the signal's. -/
private theorem lt_of_getLsbD {sizeBits bit : ℕ} (small : raw.toNat < 2 ^ sizeBits)
    (set : raw.getLsbD bit = true) : bit < sizeBits := by
  by_contra beyond
  have bound := Nat.pow_le_pow_right (n := 2) (by decide) (Nat.le_of_not_lt beyond)
  have clear : raw.toNat.testBit bit = false := Nat.testBit_lt_two_pow (by omega)
  rw [BitVec.getLsbD, clear] at set
  cases set

/-- The sign bit is copied to all bits beyond the signal's. -/
private theorem signExtend_eq (nonempty : 1 ≤ signal.sizeBits.toNat)
    (short : signal.sizeBits.toNat ≤ 64) (small : raw.toNat < 2 ^ signal.sizeBits.toNat) :
    (if raw &&& 1#64 <<< (signal.sizeBits - 1).toNat ≠ 0 then
      raw ||| ~~~signalMask signal.sizeBits else raw) =
        (raw.setWidth signal.sizeBits.toNat).signExtend 64 := by
  have last : (signal.sizeBits - 1).toNat = signal.sizeBits.toNat - 1 := by
    apply UInt32.toNat_sub_of_le
    exact UInt32.le_iff_toNat_le.mpr nonempty
  have sign : raw &&& 1#64 <<< (signal.sizeBits.toNat - 1) ≠ 0 ↔
      raw.getLsbD (signal.sizeBits.toNat - 1) = true := by
    show raw &&& BitVec.twoPow 64 (signal.sizeBits.toNat - 1) ≠ 0 ↔ _
    rw [BitVec.and_twoPow]
    by_cases set : raw.getLsbD (signal.sizeBits.toNat - 1) = true
    · rw [if_pos set]
      refine iff_of_true (fun zero => ?_) set
      have clear := congrArg (BitVec.getLsbD · (signal.sizeBits.toNat - 1)) zero
      have inside : signal.sizeBits.toNat - 1 < 64 := by omega
      simp [inside] at clear
    · rw [if_neg set]
      exact iff_of_false (fun differs => differs rfl) set
  have msb : (raw.setWidth signal.sizeBits.toNat).msb =
      raw.getLsbD (signal.sizeBits.toNat - 1) := by
    rw [BitVec.msb_setWidth, decide_eq_true (show 0 < signal.sizeBits.toNat by omega),
      Bool.true_and]
  rw [last]
  refine BitVec.eq_of_getLsbD_eq fun bit inside => ?_
  rw [BitVec.getLsbD_signExtend, msb, decide_eq_true inside, Bool.true_and, BitVec.getLsbD_setWidth]
  by_cases negative : raw.getLsbD (signal.sizeBits.toNat - 1) = true
  · rw [if_pos (sign.mpr negative), BitVec.getLsbD_or, BitVec.getLsbD_not, getLsbD_signalMask]
    by_cases own : bit < signal.sizeBits.toNat
    · simp [own, inside]
    · simp [own, inside, negative]
  · rw [if_neg fun set => negative (sign.mp set)]
    by_cases own : bit < signal.sizeBits.toNat
    · simp [own]
    · have clear := mt (lt_of_getLsbD small) own
      rw [Bool.not_eq_true] at clear negative
      simp [own, clear, negative]

/-- What a raw value stands for: its lowest bits, as a signed number or as an unsigned one. -/
theorem rawValue_eq (nonempty : 1 ≤ signal.sizeBits.toNat) (short : signal.sizeBits.toNat ≤ 64)
    (small : raw.toNat < 2 ^ signal.sizeBits.toNat) :
    rawValue signal raw =
      if signal.isSigned then (raw.setWidth signal.sizeBits.toNat).toInt else raw.toNat := by
  rw [rawValue]
  by_cases isSigned : signal.isSigned = true
  · rw [if_pos isSigned, if_pos isSigned, ← BitVec.toInt_signExtend_of_le short]
    exact congrArg BitVec.toInt (signExtend_eq nonempty short small)
  · rw [if_neg isSigned, if_neg isSigned]

/-- What is written at a valid layout is read back. -/
theorem gather_write (payload : size ≤ 64) (valid : isLayoutValid signal size = true)
    {data : List UInt8} (length : data.length = size)
    (small : raw.toNat < 2 ^ signal.sizeBits.toNat) :
    gather (write signal raw data) (forEachSignalBit signal) = raw := by
  obtain ⟨-, -, inside⟩ := (isLayoutValid_iff payload).mp valid
  refine gather_scatter (nodup_positions payload valid) ?_ fun bit set =>
    mem_map_snd.mpr (lt_of_getLsbD small set)
  rw [length]
  exact inside

/-- A number that fits into the bits of a signal, cut to them. -/
private theorem setWidth_ofInt (nonempty : 1 ≤ signal.sizeBits.toNat)
    (short : signal.sizeBits.toNat ≤ 64) {number : ℤ}
    (least : -2 ^ (signal.sizeBits.toNat - 1) ≤ number)
    (most : number < 2 ^ (signal.sizeBits.toNat - 1)) :
    ((BitVec.ofInt 64 number &&& signalMask signal.sizeBits).setWidth
      signal.sizeBits.toNat).toInt = number := by
  have fits := BitVec.toInt_ofInt_eq_self nonempty least most
  have same : (BitVec.ofInt 64 number &&& signalMask signal.sizeBits).setWidth
      signal.sizeBits.toNat = BitVec.ofInt signal.sizeBits.toNat number := by
    have extended : BitVec.ofInt 64 number =
        (BitVec.ofInt signal.sizeBits.toNat number).signExtend 64 := by
      rw [BitVec.signExtend, fits]
    refine BitVec.eq_of_getLsbD_eq fun bit inside => ?_
    have small : bit < 64 := by omega
    rw [BitVec.getLsbD_setWidth, BitVec.getLsbD_and, getLsbD_signalMask, extended,
      BitVec.getLsbD_signExtend]
    simp [inside, small]
  rw [same, fits]

private theorem and_signalMask_lt (raw : BitVec 64) (sizeBits : UInt32) :
    (raw &&& signalMask sizeBits).toNat < 2 ^ sizeBits.toNat := by
  refine Nat.lt_pow_two_of_testBit _ fun bit beyond => ?_
  show (raw &&& signalMask sizeBits).getLsbD bit = false
  rw [BitVec.getLsbD_and, getLsbD_signalMask, decide_eq_false (by omega), Bool.and_false]

/-- Signals at disjoint bits can be written in any order. -/
theorem foldl_write_perm {writes writes' : List (CanSignalConfiguration × BitVec 64)}
    (perm : writes.Perm writes')
    (disjoint : writes.Pairwise fun a b => (positions a.1).Disjoint (positions b.1))
    (data : List UInt8) :
    writes.foldl (fun data entry => write entry.1 entry.2 data) data =
      writes'.foldl (fun data entry => write entry.1 entry.2 data) data := by
  have symm : Std.Symm fun a b : CanSignalConfiguration × BitVec 64 =>
      (positions a.1).Disjoint (positions b.1) := ⟨fun _ _ => List.Disjoint.symm⟩
  refine perm.foldl_eq' (fun a memberA b memberB data => ?_) data
  by_cases same : a = b
  · rw [same]
  · exact scatter_comm (disjoint.forall memberA memberB same)

@[simp] theorem length_write (data : List UInt8) : (write signal raw data).length = data.length :=
  length_scatter

/-- What is encoded is decoded, up to the clamping and the scaling of the number. -/
theorem decode_encode {saturate : CanSignalConfiguration → UInt32 → BitVec 64}
    (physical : CanSignalConfiguration → ℤ → UInt32) {value : UInt32} {data data' : List UInt8}
    (payload : data.length ≤ 64) (encodes : encode saturate signal value data = (true, data')) :
    decode physical signal data' = some (physical signal
      (rawValue signal (saturate signal value &&& signalMask signal.sizeBits))) := by
  rw [encode] at encodes
  split_ifs at encodes with invalid refused
  · exact nomatch congrArg Prod.fst encodes
  · exact nomatch congrArg Prod.fst encodes
  have valid : isLayoutValid signal data.length = true := by simpa using invalid
  obtain rfl := congrArg Prod.snd encodes
  rw [decode, length_write, if_pos valid, read,
    gather_write payload valid rfl (and_signalMask_lt _ _)]

end CanSignalCodec

namespace CanMessageCodec

open CanSignalCodec

/-- Encoding a signal leaves the length of the payload. -/
private theorem length_encode (saturate : CanSignalConfiguration → UInt32 → BitVec 64)
    (signal : CanSignalConfiguration) (value : UInt32) (data : List UInt8) :
    (CanSignalCodec.encode saturate signal value data).2.length = data.length := by
  rw [CanSignalCodec.encode]
  split_ifs
  · rfl
  · rfl
  · exact length_write data

/-- Two signals at disjoint bits are encoded in either order. -/
private theorem encode_comm (saturate : CanSignalConfiguration → UInt32 → BitVec 64)
    {first second : CanSignalConfiguration}
    (disjoint : (positions first).Disjoint (positions second)) (value value' : UInt32)
    (data : List UInt8) :
    (CanSignalCodec.encode saturate second value'
        (CanSignalCodec.encode saturate first value data).2).2 =
      (CanSignalCodec.encode saturate first value
        (CanSignalCodec.encode saturate second value' data).2).2 := by
  have one := length_encode saturate first value data
  have other := length_encode saturate second value' data
  generalize written : (CanSignalCodec.encode saturate first value data).2 = left at one
  generalize written' : (CanSignalCodec.encode saturate second value' data).2 = right at other
  rw [CanSignalCodec.encode, CanSignalCodec.encode, one, other]
  rw [CanSignalCodec.encode] at written written'
  split_ifs at written written' ⊢ <;> subst written <;> subst written'
  all_goals first | rfl | exact scatter_comm disjoint

/-- A message whose signals are at disjoint bits has one payload, in whatever order its signals are
written. -/
theorem encode_perm (saturate : CanSignalConfiguration → UInt32 → BitVec 64)
    {message message' : CanMessageConfiguration} (size : message.messageSize = message'.messageSize)
    (perm : message.signalConfigurations.Perm message'.signalConfigurations)
    (disjoint : message.signalConfigurations.Pairwise fun a b =>
      (positions a).Disjoint (positions b))
    (signalValueReader : CanSignalConfiguration → UInt32) :
    encode saturate message signalValueReader = encode saturate message' signalValueReader := by
  have symm : Std.Symm fun a b : CanSignalConfiguration =>
      (positions a).Disjoint (positions b) := ⟨fun _ _ => List.Disjoint.symm⟩
  rw [encode, encode, size]
  refine perm.foldl_eq' (fun a memberA b memberB data => ?_) _
  by_cases same : a = b
  · rw [same]
  · exact encode_comm saturate (disjoint.forall memberA memberB same) _ _ data

end CanMessageCodec

namespace CanSignalCodec

variable {signal : CanSignalConfiguration} {size : ℕ}

/-- A layout is valid exactly where the signal has 1 to 64 bits and all are in the payload. The bits
are then distinct, what is written is read back, as a signed number where the signal is signed, and
all other bits stay. Signals at disjoint bits are written in any order, one by one or as a
message. -/
theorem isLayoutValid_spec (payload : size ≤ 64) :
    (isLayoutValid signal size = true ↔
      1 ≤ signal.sizeBits.toNat ∧ signal.sizeBits.toNat ≤ 64 ∧
        ∀ position ∈ positions signal, position < 8 * size) ∧
    (isLayoutValid signal size = true →
      (positions signal).Nodup ∧ ∀ data : List UInt8, data.length = size →
        (∀ raw : BitVec 64, raw.toNat < 2 ^ signal.sizeBits.toNat →
          gather (write signal raw data) (forEachSignalBit signal) = raw ∧
          read signal (write signal raw data) =
            (if signal.isSigned then (raw.setWidth signal.sizeBits.toNat).toInt else raw.toNat) ∧
          (write signal raw data).length = size ∧
          ∀ position, position ∉ positions signal →
            bitAt (write signal raw data) position = bitAt data position) ∧
        (signal.isSigned = true → ∀ number : ℤ, -2 ^ (signal.sizeBits.toNat - 1) ≤ number →
          number < 2 ^ (signal.sizeBits.toNat - 1) →
          read signal (write signal (BitVec.ofInt 64 number &&& signalMask signal.sizeBits) data) =
            number)) ∧
    (∀ writes writes' : List (CanSignalConfiguration × BitVec 64), writes.Perm writes' →
      (writes.Pairwise fun a b => (positions a.1).Disjoint (positions b.1)) →
      ∀ data, writes.foldl (fun data entry => write entry.1 entry.2 data) data =
        writes'.foldl (fun data entry => write entry.1 entry.2 data) data) ∧
    ∀ (saturate : CanSignalConfiguration → UInt32 → BitVec 64)
      (message message' : CanMessageConfiguration), message.messageSize = message'.messageSize →
      message.signalConfigurations.Perm message'.signalConfigurations →
      (message.signalConfigurations.Pairwise fun a b => (positions a).Disjoint (positions b)) →
      ∀ signalValueReader, CanMessageCodec.encode saturate message signalValueReader =
        CanMessageCodec.encode saturate message' signalValueReader := by
  refine ⟨isLayoutValid_iff payload, fun valid => ⟨nodup_positions payload valid, ?_⟩,
    fun _ _ perm disjoint => foldl_write_perm perm disjoint,
    fun saturate _ _ same perm disjoint => CanMessageCodec.encode_perm saturate same perm disjoint⟩
  obtain ⟨nonempty, short, -⟩ := (isLayoutValid_iff payload).mp valid
  intro data length
  have reads : ∀ raw : BitVec 64, raw.toNat < 2 ^ signal.sizeBits.toNat →
      read signal (write signal raw data) =
        if signal.isSigned then (raw.setWidth signal.sizeBits.toNat).toInt else raw.toNat := by
    intro raw small
    rw [read, gather_write payload valid length small, rawValue_eq nonempty short small]
  constructor
  · intro raw small
    exact ⟨gather_write payload valid length small, reads raw small,
      (length_write data).trans length, fun _ outside => bitAt_scatter_of_notMem outside⟩
  -- `reads` at the two's complement of the number, cut to the size of the signal.
  · intro isSigned number least most
    rw [reads _ (and_signalMask_lt _ _), if_pos isSigned]
    exact setWidth_ofInt nonempty short least most

/-- A signed signal of 12 bits from the top of the second byte on. -/
private def temperature : CanSignalConfiguration where
  startBit := 15
  sizeBits := 12
  factor := 0x3F800000
  offset := 0
  byteOrder := 1
  isSigned := true
  name := ⟨[], by simp⟩
  unit := ⟨[], by simp⟩

theorem isLayoutValid_spec_temperature :
    isLayoutValid temperature 3 = true ∧ isLayoutValid temperature 2 = false ∧
      read temperature (write temperature (BitVec.ofInt 64 (-5) &&& signalMask 12) [1, 2, 3]) =
        -5 := by
  have valid : isLayoutValid temperature 3 = true := by decide
  obtain ⟨-, inside, -⟩ := @isLayoutValid_spec temperature 3 (by decide)
  obtain ⟨-, reads⟩ := (inside valid).2 [1, 2, 3] rfl
  exact ⟨valid, by decide, reads rfl (-5) (by decide) (by decide)⟩

end CanSignalCodec

end RtCore.Can
