import Mathlib.Data.List.TakeWhile
import RtCore.Foundation.Text

/-!
# The CAN source of a sensor

A sensor that reads the CAN bus stores where from as a text: the bus, the frame ID and, behind a
second slash, the name of the signal. The numbers are written in decimal and read in decimal or,
behind `0x`, in hexadecimal.

## Main definitions

* `CanbusSource.toConnectionString`, `CanbusSource.parse`, `CanbusSource.fromConnectionString`

## Main results

* `CanbusSource.parse_connectionBytes` — a source whose frame ID is in range is read back, its
  name whatever it is
-/

namespace RtCore.Sensors

open RtCore.Foundation

/-! ### Numbers -/

/-- The value of a digit, up to 15. -/
def digitValue (byte : UInt8) : Option ℕ :=
  if 48 ≤ byte ∧ byte ≤ 57 then some (byte.toNat - 48)
  else if 97 ≤ byte ∧ byte ≤ 102 then some (byte.toNat - 87)
  else if 65 ≤ byte ∧ byte ≤ 70 then some (byte.toNat - 55)
  else none

/-- Whether a byte is a digit in this base. -/
def isDigitOf (base : ℕ) (byte : UInt8) : Bool :=
  match digitValue byte with
  | some value => value < base
  | none => false

/-- `std::from_chars` into a `uint32_t`: the number that the longest run of digits denotes and
what follows it; none without a digit or for a number out of range. -/
def fromChars (base : ℕ) (text : List UInt8) : Option (ℕ × List UInt8) :=
  let digits := text.takeWhile (isDigitOf base)
  let value := digits.foldl (fun value digit => base * value + (digitValue digit).getD 0) 0
  if digits = [] ∨ 2 ^ 32 ≤ value then none else some (value, text.drop digits.length)

/-- A whole number up to `max`. -/
def parseNumber (text : List UInt8) (max : ℕ) : Option ℕ :=
  let isHex := text.take 2 = [48, 120] ∨ text.take 2 = [48, 88]
  let base := if isHex then 16 else 10
  let digits := if isHex then text.drop 2 else text
  match fromChars base digits with
  | some (value, []) => if value ≤ max then some value else none
  | _ => none

private theorem digitValue_of_isDigit {byte : UInt8} (digit : isDigit byte = true) :
    digitValue byte = some (byte.toNat - 48) ∧ byte.toNat - 48 < 10 := by
  simp only [isDigit, Bool.and_eq_true, decide_eq_true_eq] at digit
  constructor
  · rw [digitValue, if_pos digit]
  · have high := digit.2
    rw [UInt8.le_iff_toNat_le] at high
    have bound : (57 : UInt8).toNat = 57 := rfl
    omega

private theorem isDigitOf_ten {byte : UInt8} (digit : isDigit byte = true) :
    isDigitOf 10 byte = true := by
  obtain ⟨value, small⟩ := digitValue_of_isDigit digit
  rw [isDigitOf, value]
  exact decide_eq_true small

private theorem foldl_digits (digits : List UInt8) (all : ∀ digit ∈ digits, isDigit digit = true)
    (start : ℕ) :
    digits.foldl (fun value digit => 10 * value + (digitValue digit).getD 0) start =
      digits.foldl (fun value digit => 10 * value + (digit.toNat - 48)) start := by
  induction digits generalizing start with
  | nil => rfl
  | cons digit digits ih =>
    have here := (digitValue_of_isDigit (all digit List.mem_cons_self)).1
    rw [List.foldl_cons, List.foldl_cons, here]
    exact ih (fun other member => all other (List.mem_cons_of_mem _ member)) _

/-- A decimal number is read back, if it is in range. -/
theorem parseNumber_decimal {number : ℕ} (small : number < 2 ^ 32) (max : ℕ) :
    parseNumber (decimal number) max = if number ≤ max then some number else none := by
  have digits (byte) (member : byte ∈ decimal number) : isDigit byte = true :=
    isDigit_of_mem_decimal member
  -- The second character is a digit, so the text is not taken for hexadecimal.
  have decimalBase (mark : UInt8) (noDigit : isDigit mark = false) :
      (decimal number).take 2 ≠ [48, mark] := by
    intro same
    have taken : mark ∈ (decimal number).take 2 := by
      rw [same]
      simp
    rw [digits mark (List.mem_of_mem_take taken)] at noDigit
    exact nomatch noDigit
  have notHex : ¬((decimal number).take 2 = [48, 120] ∨ (decimal number).take 2 = [48, 88]) := by
    rintro (hex | hex)
    · exact decimalBase 120 rfl hex
    · exact decimalBase 88 rfl hex
  have all : (decimal number).takeWhile (isDigitOf 10) = decimal number := by
    rw [List.takeWhile_eq_self_iff]
    intro byte member
    exact isDigitOf_ten (digits byte member)
  have value : (decimal number).foldl
      (fun value digit => 10 * value + (digitValue digit).getD 0) 0 = number := by
    rw [foldl_digits _ digits]
    exact numeral_decimal number
  have chars : fromChars 10 (decimal number) = some (number, []) := by
    unfold fromChars
    simp only [all, value, List.drop_length]
    rw [if_neg]
    rintro (empty | large)
    · exact decimal_ne_nil number empty
    · omega
  unfold parseNumber
  simp only [if_neg notHex, chars]

/-! ### Sources -/

/-- Where a sensor reads the CAN bus. -/
structure CanbusSource where
  busChannel : UInt8
  frameId : UInt32
  signalName : Text
deriving DecidableEq

namespace CanbusSource

/-- The largest frame ID, an extended identifier. -/
def maxFrameId : ℕ := 0x1FFFFFFF

/-- The byte of a slash. -/
def slash : UInt8 := 47

/-- What a connection string names. -/
structure Parts where
  busChannel : UInt8
  frameId : UInt32
  signalName : List UInt8
deriving DecidableEq

/-- The characters of the connection string. -/
def connectionBytes (source : CanbusSource) : List UInt8 :=
  decimal source.busChannel.toNat ++ slash :: (decimal source.frameId.toNat ++
    if source.signalName.isEmpty then [] else slash :: source.signalName.bytes)

/-- None for a name so long that the text is not a string any more. -/
def toConnectionString (source : CanbusSource) : Option Text :=
  Text.ofBytes? source.connectionBytes

/-- The error of a connection string with too few or too many parts. -/
def formatError : String :=
  "Connection string must be bus_channel/frame_id or bus_channel/frame_id/signal_name."

/-- The text before the first slash, and what follows it if there is one. -/
def splitAtSlash (text : List UInt8) : List UInt8 × Option (List UInt8) :=
  (text.takeWhile (· ≠ slash), (text.dropWhile (· ≠ slash)).tail?)

/-- `Parse`: bus channel, frame ID and, for a signal, its name. -/
def parse (connectionString : List UInt8) : Except String Parts :=
  if connectionString = [] then .error "Connection string cannot be empty."
  else
    match splitAtSlash connectionString with
    | (_, none) => .error formatError
    | (bus, some rest) =>
      match parseNumber bus 255 with
      | none => .error "Connection string bus channel must be a number from 0 to 255."
      | some busChannel =>
        let (frame, name) := splitAtSlash rest
        match parseNumber frame maxFrameId with
        | none => .error "Connection string frame ID must be a number from 0 to 0x1FFFFFFF."
        | some frameId =>
          if name = some [] then .error formatError
          else .ok ⟨UInt8.ofNat busChannel, UInt32.ofNat frameId, name.getD []⟩

/-- `Parse` into a source. The name is a part of a string, so it fits into one. -/
def fromConnectionString (connectionString : Text) : Except String CanbusSource :=
  match parse connectionString.bytes with
  | .error error => .error error
  | .ok parts =>
    match Text.ofBytes? parts.signalName with
    | some signalName => .ok ⟨parts.busChannel, parts.frameId, signalName⟩
    | none => .error "basic_string::_M_create"

private theorem splitAtSlash_decimal (number : ℕ) (rest : List UInt8) :
    splitAtSlash (decimal number ++ slash :: rest) = (decimal number, some rest) := by
  have noSlash (byte) (member : byte ∈ decimal number) : decide (byte ≠ slash) = true := by
    have digit := isDigit_of_mem_decimal member
    apply decide_eq_true
    rintro rfl
    exact nomatch digit
  rw [splitAtSlash, List.takeWhile_append_of_pos noSlash, List.dropWhile_append_of_pos noSlash]
  simp

private theorem splitAtSlash_last (number : ℕ) :
    splitAtSlash (decimal number) = (decimal number, none) := by
  have noSlash (byte) (member : byte ∈ decimal number) : decide (byte ≠ slash) = true := by
    have digit := isDigit_of_mem_decimal member
    apply decide_eq_true
    rintro rfl
    exact nomatch digit
  rw [splitAtSlash, List.takeWhile_eq_self_iff.mpr noSlash, List.dropWhile_eq_nil_iff.mpr noSlash]
  rfl

/-- The characters written for a source are read back as the source, unless its frame ID is out
of range. -/
theorem parse_connectionBytes (source : CanbusSource) :
    parse source.connectionBytes =
      if source.frameId.toNat ≤ maxFrameId then
        .ok ⟨source.busChannel, source.frameId, source.signalName.bytes⟩
      else .error "Connection string frame ID must be a number from 0 to 0x1FFFFFFF." := by
  have busSmall : source.busChannel.toNat ≤ 255 := by
    have := source.busChannel.toNat_lt
    omega
  have bus : parseNumber (decimal source.busChannel.toNat) 255 = some source.busChannel.toNat := by
    rw [parseNumber_decimal (by omega), if_pos busSmall]
  have frame := parseNumber_decimal source.frameId.toNat_lt maxFrameId
  rw [parse, if_neg (by simp [connectionBytes]), connectionBytes, splitAtSlash_decimal]
  simp only [bus]
  by_cases unnamed : source.signalName.isEmpty = true
  · have noName : source.signalName.bytes = [] := List.isEmpty_iff.mp unnamed
    simp only [if_pos unnamed, List.append_nil, splitAtSlash_last, frame, noName]
    by_cases inRange : source.frameId.toNat ≤ maxFrameId
    · simp [inRange]
    · simp [inRange]
  · have named : source.signalName.bytes ≠ [] := fun empty => unnamed (List.isEmpty_iff.mpr empty)
    simp only [if_neg unnamed, splitAtSlash_decimal, frame]
    by_cases inRange : source.frameId.toNat ≤ maxFrameId
    · simp [inRange, named]
    · simp [inRange]

/-- A source whose text is accepted is read back, whatever its name. -/
theorem fromConnectionString_toConnectionString {source : CanbusSource} {text : Text}
    {parts : Parts} (written : source.toConnectionString = some text)
    (accepted : parse text.bytes = .ok parts) :
    fromConnectionString text = .ok source ∧ parts.signalName = source.signalName.bytes := by
  have bytes : text.bytes = source.connectionBytes := Text.bytes_of_ofBytes? written
  rw [bytes, parse_connectionBytes] at accepted
  by_cases inRange : source.frameId.toNat ≤ maxFrameId
  · rw [if_pos inRange] at accepted
    cases accepted
    refine ⟨?_, rfl⟩
    rw [fromConnectionString, bytes, parse_connectionBytes, if_pos inRange]
    simp only [Text.ofBytes?, source.signalName.fits, dif_pos]
  · rw [if_neg inRange] at accepted
    cases accepted

end CanbusSource

end RtCore.Sensors
