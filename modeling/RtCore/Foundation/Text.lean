import Mathlib.Data.Nat.Digits.Lemmas

/-!
# Text of decimal numbers and lines

Decimal numerals and lines as byte strings: writing a number and reading the digits back, and
splitting a text at its line breaks. A text that ends inside a line has that part as its last line.
`Text` is a string object, whose size has a limit.

## Main results

* `numeral_decimal` — the digits of a number read back as the number
* `splitLines_line`, `splitLines_partial` — a terminated line and an unterminated one
-/

namespace RtCore.Foundation

/-- A string object: its bytes, fewer than the largest size a string has. -/
structure Text where
  bytes : List UInt8
  fits : bytes.length < 2 ^ 63
deriving DecidableEq

namespace Text

@[ext] theorem ext {text other : Text} (same : text.bytes = other.bytes) : text = other := by
  cases text
  cases other
  cases same
  rfl

/-- The number of bytes. -/
def size (text : Text) : ℕ := text.bytes.length

/-- There are no bytes. -/
def isEmpty (text : Text) : Bool := text.bytes.isEmpty

/-- The string of these bytes; none when they are too many (`std::length_error`). -/
def ofBytes? (bytes : List UInt8) : Option Text :=
  if fits : bytes.length < 2 ^ 63 then some ⟨bytes, fits⟩ else none

/-- The text of no bytes. -/
def empty : Text := ⟨[], by decide⟩

/-- The text with a byte for each character. -/
def ofString (characters : String) : Text :=
  (ofBytes? (characters.toList.map fun character => character.toNat.toUInt8)).getD empty

/-- The text with each byte as a character. -/
def string (text : Text) : String := String.ofList (text.bytes.map Char.ofUInt8)

theorem string_injective : Function.Injective string := by
  intro text other same
  have chars : text.bytes.map Char.ofUInt8 = other.bytes.map Char.ofUInt8 :=
    String.ofList_injective same
  apply Text.ext
  apply List.map_injective_iff.mpr _ chars
  intro byte other same
  have values : byte.toUInt32 = other.toUInt32 := congrArg Char.val same
  exact UInt8.toUInt32_inj.mp values

theorem ofString_string (text : Text) : ofString text.string = text := by
  have bytes : text.string.toList.map (fun character => character.toNat.toUInt8) = text.bytes := by
    rw [string, String.toList_ofList, List.map_map]
    conv_rhs => rw [← List.map_id text.bytes]
    apply List.map_congr_left
    intro byte _
    exact UInt8.ofNat_toNat
  rw [ofString, bytes, ofBytes?, dif_pos text.fits]
  rfl

theorem bytes_of_ofBytes? {bytes : List UInt8} {text : Text} (made : ofBytes? bytes = some text) :
    text.bytes = bytes := by
  unfold ofBytes? at made
  split_ifs at made
  cases made
  rfl

end Text

/-! ### Numerals -/

/-- Whether a byte is an ASCII digit. -/
def isDigit (byte : UInt8) : Bool := 48 ≤ byte && byte ≤ 57

/-- Whether a byte is an ASCII letter. -/
def isAlpha (byte : UInt8) : Bool := 65 ≤ byte && byte ≤ 90 || 97 ≤ byte && byte ≤ 122

/-- An ASCII letter or digit. -/
def isAlnum (byte : UInt8) : Bool := isAlpha byte || isDigit byte

/-- The byte of an underscore. -/
def underscore : UInt8 := 95

/-- The digits of a number, the most significant first; `"0"` for zero. -/
def decimal (number : ℕ) : List UInt8 :=
  if number = 0 then [48]
  else (Nat.digits 10 number).reverse.map fun digit => UInt8.ofNat (48 + digit)

/-- The number that a string of digits denotes. -/
def numeral (digits : List UInt8) : ℕ :=
  digits.foldl (fun value digit => 10 * value + (digit.toNat - 48)) 0

private theorem toNat_digit {digit : ℕ} (small : digit < 10) :
    (UInt8.ofNat (48 + digit)).toNat = 48 + digit := by
  rw [UInt8.toNat_ofNat']
  omega

theorem numeral_decimal (number : ℕ) : numeral (decimal number) = number := by
  unfold decimal numeral
  split_ifs with zero
  · simp [zero]
  · have small (digit) (member : digit ∈ Nat.digits 10 number) : digit < 10 :=
      Nat.digits_lt_base (by decide) member
    conv_rhs => rw [← Nat.ofDigits_digits 10 number]
    rw [List.foldl_map, List.foldl_reverse]
    generalize Nat.digits 10 number = digits at small
    induction digits with
    | nil => rfl
    | cons digit digits ih =>
      have here := toNat_digit (small digit List.mem_cons_self)
      have rest := ih fun other member => small other (List.mem_cons_of_mem _ member)
      rw [List.foldr_cons, rest, Nat.ofDigits_cons, here]
      omega

theorem isDigit_of_mem_decimal {number : ℕ} {byte : UInt8} (member : byte ∈ decimal number) :
    isDigit byte = true := by
  unfold decimal at member
  split_ifs at member with zero
  · simp only [List.mem_singleton] at member
    rw [member]
    decide
  · obtain ⟨digit, digitMember, rfl⟩ := List.mem_map.mp member
    have small : digit < 10 :=
      Nat.digits_lt_base (by decide) (List.mem_reverse.mp digitMember)
    have value := toNat_digit small
    simp only [isDigit, Bool.and_eq_true, decide_eq_true_eq, UInt8.le_iff_toNat_le, value]
    constructor
    · simp
    · have bound : 48 + digit ≤ 57 := by omega
      simpa using bound

theorem decimal_ne_nil (number : ℕ) : decimal number ≠ [] := by
  unfold decimal
  split_ifs with zero
  · simp
  · simp [Nat.digits_ne_nil_iff_ne_zero.mpr zero]

theorem length_decimal_le {number width : ℕ} (positive : 0 < width) (small : number < 10 ^ width) :
    (decimal number).length ≤ width := by
  unfold decimal
  split_ifs with zero
  · exact positive
  · simpa using (Nat.digits_length_le_iff (by decide) number).mpr small

/-! ### Lines -/

/-- The byte that ends a line. -/
def lineBreak : UInt8 := 10

/-- The nonempty lines of a text, `line` being what was read of the current one. -/
def splitLines (line : List UInt8) : List UInt8 → List (List UInt8)
  | [] => if line = [] then [] else [line]
  | byte :: text =>
    if byte = lineBreak then
      if line = [] then splitLines [] text else line :: splitLines [] text
    else splitLines (line ++ [byte]) text

/-- A terminated line is split off. -/
theorem splitLines_line {content : List UInt8} (oneLine : lineBreak ∉ content)
    (start : List UInt8) (nonempty : start ++ content ≠ []) (text : List UInt8) :
    splitLines start (content ++ lineBreak :: text) = (start ++ content) :: splitLines [] text := by
  induction content generalizing start with
  | nil =>
    have started : start ≠ [] := by simpa using nonempty
    simp [splitLines, started]
  | cons byte content ih =>
    have here : byte ≠ lineBreak := fun equal => oneLine (equal ▸ List.mem_cons_self)
    have later : lineBreak ∉ content := fun member => oneLine (List.mem_cons_of_mem _ member)
    rw [List.cons_append, splitLines, if_neg here, ih later (start ++ [byte]) (by simp)]
    simp

/-- What follows the last line break is a line, unless it is empty. -/
theorem splitLines_partial {content : List UInt8} (oneLine : lineBreak ∉ content)
    (start : List UInt8) :
    splitLines start content = if start ++ content = [] then [] else [start ++ content] := by
  induction content generalizing start with
  | nil => simp [splitLines]
  | cons byte content ih =>
    have here : byte ≠ lineBreak := fun equal => oneLine (equal ▸ List.mem_cons_self)
    have later : lineBreak ∉ content := fun member => oneLine (List.mem_cons_of_mem _ member)
    rw [splitLines, if_neg here, ih later (start ++ [byte])]
    simp

end RtCore.Foundation
